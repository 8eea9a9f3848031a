import PtpipCore.Lib.FrontReaders
import PtpipCore.Lib.Text
import PtpipCore.Transport

/-!
# Discovery of cameras

Requests go out several times; after each time answers are received until the
time is up, ten cameras are known or a receive times out. The time runs from the
start of the first attempt. A source is listened to once, and a camera is listed
once for its address and port.
-/

namespace Discovery

open Effects ByteStream FrontReaders Text Types Transport
open EStateM (Result)

structure Ipv4Addr where
  a : UInt8
  b : UInt8
  c : UInt8
  d : UInt8
  deriving DecidableEq, Repr

inductive SocketAddr where
  | v4 (ip : Ipv4Addr) (port : UInt16)
  | v6 (ip : BitVec 128) (port : UInt16) (flowinfo scopeId : UInt32)
  deriving DecidableEq, Repr

/-- Durations are in nanoseconds. -/
structure DiscoveryConfig where
  timeout : Nat
  retryCount : Nat
  useMulticast : Bool
  testDestinations : Option (List SocketAddr)
  deriving DecidableEq, Repr

def DiscoveryConfig.default : DiscoveryConfig := ⟨5 * 1000000000, 3, true, none⟩

/-- The name is in UTF-8. -/
structure DiscoveredCamera where
  ipAddress : Ipv4Addr
  port : UInt16
  modelName : Bytes
  vendorExtensionId : UInt32
  vendorExtensionVersion : UInt16
  deriving DecidableEq, Repr

def discoveryPort : UInt16 := 1900

def broadcastAddr : SocketAddr := .v4 ⟨255, 255, 255, 255⟩ discoveryPort

def multicastAddr : SocketAddr := .v4 ⟨239, 255, 255, 250⟩ discoveryPort

def getDiscoveryDestinations (config : DiscoveryConfig) : List SocketAddr :=
  match config.testDestinations with
  | some dests => dests
  | none => broadcastAddr :: if config.useMulticast then [multicastAddr] else []

/-- Message type, protocol version 1.0, reserved field. -/
def buildDiscoveryRequest : Bytes :=
  bigEndian 2 PtpIpMessageType.discoveryRequest.code.toNat ++ bigEndian 2 0x0100 ++ bigEndian 4 0

/-- `trim_matches` for the null character, which is a byte of its own. -/
def trimNulls (bs : Bytes) : Bytes :=
  ((bs.dropWhile (· = 0)).reverse.dropWhile (· = 0)).reverse

/-- Addresses of the other kind are not supported. -/
def sourceIp : SocketAddr → Option Ipv4Addr
  | .v4 ip _ => some ip
  | .v6 _ _ _ _ => none

/-- The fields of a response of at least 14 bytes. -/
def readResponse (buffer : Bytes) (srcAddr : SocketAddr) : Recv (Option DiscoveredCamera) := do
  let messageType ← readU16Be
  if messageType ≠ PtpIpMessageType.discoveryResponse.code then
    return none
  else
    let version ← readU16Be
    if version ≠ 0x0100 then
      return none
    else
      let vendorExtensionId ← readU32Be
      let vendorExtensionVersion ← readU16Be
      let port ← readU16Be
      let modelName := trimNulls (toStringLossy (buffer.drop 14))
      return (sourceIp srcAddr).map fun ip =>
        ⟨ip, port, modelName, vendorExtensionId, vendorExtensionVersion⟩

def parseDiscoveryResponse (buffer : Bytes) (srcAddr : SocketAddr) :
    Except PtpIpError (Option DiscoveredCamera) :=
  if buffer.length < 14 then .ok none
  else answer (readResponse buffer srcAddr (arrived buffer))

section parsing

variable {buffer : Bytes}

/-- The camera that a response from an address announces, by the positions of its fields. -/
def cameraIn (buffer : Bytes) (ip : Ipv4Addr) : DiscoveredCamera where
  ipAddress := ip
  port := beU16 ((buffer.drop 10).take 2)
  modelName := trimNulls (toStringLossy (buffer.drop 14))
  vendorExtensionId := beU32 ((buffer.drop 4).take 4)
  vendorExtensionVersion := beU16 ((buffer.drop 8).take 2)

/-- All reads of the parser stay inside a response of 14 bytes. -/
lemma parseDiscoveryResponse_long (srcAddr : SocketAddr) (long : 14 ≤ buffer.length) :
    parseDiscoveryResponse buffer srcAddr =
      .ok (if beU16 (buffer.take 2) ≠ PtpIpMessageType.discoveryResponse.code then none
        else if beU16 ((buffer.drop 2).take 2) ≠ 0x0100 then none
        else (sourceIp srcAddr).map (cameraIn buffer)) := by
  have inside : ∀ i k, i + k ≤ 14 → k ≤ (buffer.drop i).length := by
    intro i k fits
    rw [List.length_drop]
    omega
  have reads16 := (readsFront_readU16Be (ε := PtpIpError)).enough
  have reads32 := (readsFront_readU32Be (ε := PtpIpError)).enough
  have htype := reads16 buffer (by omega)
  have hversion := reads16 (buffer.drop 2) (inside 2 2 (by omega))
  have hid := reads32 (buffer.drop 4) (inside 4 4 (by omega))
  have hvendor := reads16 (buffer.drop 8) (inside 8 2 (by omega))
  have hport := reads16 (buffer.drop 10) (inside 10 2 (by omega))
  simp only [List.drop_drop, Nat.reduceAdd] at hversion hid hvendor hport
  rw [parseDiscoveryResponse, if_neg (by omega), readResponse, bind_ok htype]
  split
  · rfl
  · rw [bind_ok hversion]
    split
    · rfl
    · rw [bind_ok hid, bind_ok hvendor, bind_ok hport]
      rfl

lemma parseDiscoveryResponse_short (srcAddr : SocketAddr) (short : buffer.length < 14) :
    parseDiscoveryResponse buffer srcAddr = .ok none := if_pos short

/-- What a datagram announces. -/
def decode (d : Bytes × SocketAddr) : Option DiscoveredCamera :=
  (parseDiscoveryResponse d.1 d.2).toOption.join

/-- No datagram makes the parser fail. -/
theorem parseDiscoveryResponse_eq (buffer : Bytes) (srcAddr : SocketAddr) :
    parseDiscoveryResponse buffer srcAddr = .ok (decode (buffer, srcAddr)) := by
  by_cases long : 14 ≤ buffer.length
  · rw [decode, parseDiscoveryResponse_long srcAddr long]
    rfl
  · rw [decode, parseDiscoveryResponse_short srcAddr (by omega)]
    rfl

lemma decode_eq_some {d : Bytes × SocketAddr} {camera : DiscoveredCamera}
    (h : decode d = some camera) :
    14 ≤ d.1.length ∧ beU16 (d.1.take 2) = PtpIpMessageType.discoveryResponse.code ∧
      beU16 ((d.1.drop 2).take 2) = 0x0100 ∧
      ∃ ip, sourceIp d.2 = some ip ∧ camera = cameraIn d.1 ip := by
  have hparse := parseDiscoveryResponse_eq d.1 d.2
  rw [h] at hparse
  by_cases long : 14 ≤ d.1.length
  · rw [parseDiscoveryResponse_long _ long] at hparse
    have hsome := Except.ok.inj hparse
    split at hsome
    · cases hsome
    · next htype =>
      split at hsome
      · cases hsome
      · next hversion =>
        obtain ⟨ip, hip, rfl⟩ := Option.map_eq_some_iff.mp hsome
        exact ⟨long, not_not.mp htype, not_not.mp hversion, ip, hip, rfl⟩
  · rw [parseDiscoveryResponse_short _ (by omega)] at hparse
    cases hparse

end parsing

/-- What a receive comes to. -/
inductive Reception where
  | datagram (bytes : Bytes) (src : SocketAddr)
  | failed (kind : ErrorKind)
  deriving DecidableEq, Repr

/-- What happens in an attempt after its requests, with what the clock shows. -/
inductive Event where
  | checked (elapsed : Nat)
  | received (calledAt returnedAt : Nat) (reception : Reception)
  | slept (duration calledAt returnedAt : Nat)
  deriving DecidableEq, Repr

/-- An attempt that has sent its requests when so many cameras were known. -/
structure Attempt where
  number : Nat
  known : Nat
  events : List Event
  deriving DecidableEq, Repr

/-- How the network and the clock will answer: sends past the end of `sends` succeed, receives past
the end of `receptions` time out. `sent`, `events` and `attempts` record the requests, what has
happened in the attempt under way, and the attempts before it. -/
structure Network where
  setUp : Option ErrorKind
  sends : List (Option ErrorKind)
  receptions : List Reception
  clock : Nat → Nat
  sent : List (Bytes × SocketAddr)
  events : List Event
  attempts : List Attempt

abbrev Discover := EStateM PtpIpError Network

/-- The first call that fails ends the set-up of the socket. -/
def setUpSocket : Discover Unit := fun n =>
  match n.setUp with
  | none => .ok () n
  | some kind => .error (FromIo.fromIo kind) n

def sendTo (packet : Bytes) (dest : SocketAddr) : Discover Unit := fun n =>
  match n.sends with
  | [] => .ok () { n with sent := n.sent ++ [(packet, dest)] }
  | none :: rest => .ok () { n with sends := rest, sent := n.sent ++ [(packet, dest)] }
  | some kind :: rest => .error (FromIo.fromIo kind) { n with sends := rest }

def sendAll (packet : Bytes) : List SocketAddr → Discover Unit
  | [] => pure ()
  | dest :: dests => do
    sendTo packet dest
    sendAll packet dests

/-- The buffer has 1024 bytes; what does not fit is cut off. -/
def recvFrom : Discover Reception := fun n =>
  match n.receptions with
  | [] => .ok (.failed .wouldBlock) n
  | .datagram bytes src :: rest =>
    .ok (.datagram (bytes.take 1024) src) { n with receptions := rest }
  | .failed kind :: rest => .ok (.failed kind) { n with receptions := rest }

def now : Discover Nat := fun n =>
  .ok (n.clock 0) { n with clock := fun i => n.clock (i + 1) }

def note (e : Event) : Discover Unit := fun n => .ok () { n with events := n.events ++ [e] }

def noteAttempt (number known : Nat) : Discover Unit := fun n =>
  .ok () { n with events := [], attempts := n.attempts ++ [⟨number, known, n.events⟩] }

structure Search where
  startTime : Nat
  cameras : List DiscoveredCamera
  seenAddrs : List SocketAddr

namespace Search

/-- A camera with the same address and port is the same device. -/
def add (b : Search) (camera : DiscoveredCamera) : Search :=
  if b.cameras.any fun c => c.ipAddress = camera.ipAddress && c.port = camera.port then b
  else { b with cameras := b.cameras ++ [camera] }

/-- The source is marked as seen before its datagram is parsed. -/
def process (b : Search) (buffer : Bytes) (srcAddr : SocketAddr) : Except PtpIpError Search :=
  if srcAddr ∈ b.seenAddrs then .ok b
  else do
    let b := { b with seenAddrs := srcAddr :: b.seenAddrs }
    match ← parseDiscoveryResponse buffer srcAddr with
    | some camera => return b.add camera
    | none => return b

end Search

/-- The readings around the call are not part of the program. -/
def timedRecv : Discover Reception := do
  let calledAt ← now
  let reception ← recvFrom
  let returnedAt ← now
  note (.received calledAt returnedAt reception)
  return reception

def handleReception (b : Search) : Reception → Discover (Search ⊕ Search)
  | .datagram buffer srcAddr => do
    let b ← ofExcept (b.process buffer srcAddr)
    return .inl b
  | .failed kind =>
    if kind = .wouldBlock ∨ kind = .timedOut then
      return .inr b
    else
      return .inl b

def receiveTurn (config : DiscoveryConfig) (b : Search) : Discover (Search ⊕ Search) := do
  let readAt ← now
  note (.checked (readAt - b.startTime))
  if readAt - b.startTime > config.timeout then
    return .inr b
  else if b.cameras.length ≥ 10 then
    return .inr b
  else
    let reception ← timedRecv
    handleReception b reception

/-- The clock is read before and after. -/
def sleep (duration : Nat) : Discover Unit := do
  let calledAt ← now
  let returnedAt ← now
  note (.slept duration calledAt returnedAt)

/-- Half a second, or half the timeout as long as no camera is known. -/
def pause (config : DiscoveryConfig) (number : Nat) (b : Search) : Discover Unit :=
  if b.cameras ≠ [] ∧ number < config.retryCount then
    sleep 500000000
  else if number < config.retryCount then
    sleep (config.timeout / 2)
  else
    pure ()

section turns

variable (config : DiscoveryConfig)

namespace Search

/-- What a datagram from a new source changes. -/
def listen (b : Search) (d : Bytes × SocketAddr) : Search :=
  if d.2 ∈ b.seenAddrs then b
  else
    match decode d with
    | some camera => add { b with seenAddrs := d.2 :: b.seenAddrs } camera
    | none => { b with seenAddrs := d.2 :: b.seenAddrs }

lemma process_eq (b : Search) (buffer : Bytes) (srcAddr : SocketAddr) :
    b.process buffer srcAddr = .ok (b.listen (buffer, srcAddr)) := by
  unfold process listen
  split
  · rfl
  · rw [parseDiscoveryResponse_eq]
    cases decode (buffer, srcAddr) <;> rfl

end Search

namespace Network

/-- The time that the check at the top of the loop sees. -/
def elapsed (n : Network) (b : Search) : Nat := n.clock 0 - b.startTime

def checked (n : Network) (b : Search) : Network :=
  { n with clock := fun i => n.clock (i + 1), events := n.events ++ [.checked (n.elapsed b)] }

def next (n : Network) : Reception :=
  match n.receptions with
  | [] => .failed .wouldBlock
  | .datagram bytes src :: _ => .datagram (bytes.take 1024) src
  | .failed kind :: _ => .failed kind

def received (n : Network) : Network :=
  { n with
    receptions := n.receptions.tail
    clock := fun i => n.clock (i + 2)
    events := n.events ++ [.received (n.clock 0) (n.clock 1) n.next] }

end Network

lemma timedRecv_eq (n : Network) : timedRecv n = .ok n.next n.received := by
  obtain ⟨setUp, sends, receptions, clock, sent, events, attempts⟩ := n
  cases receptions with
  | nil => rfl
  | cons r rest => cases r <;> rfl

/-- What a turn of the receive loop can do. -/
inductive Turn (b : Search) (n : Network) : Search ⊕ Search → Network → Prop
  | late (h : config.timeout < n.elapsed b) : Turn b n (.inr b) (n.checked b)
  | full (h : n.elapsed b ≤ config.timeout) (enough : 10 ≤ b.cameras.length) :
      Turn b n (.inr b) (n.checked b)
  | datagram (buffer : Bytes) (srcAddr : SocketAddr) (h : n.elapsed b ≤ config.timeout)
      (room : b.cameras.length < 10) (arrived : (n.checked b).next = .datagram buffer srcAddr) :
      Turn b n (.inl (b.listen (buffer, srcAddr))) (n.checked b).received
  | silence (kind : ErrorKind) (h : n.elapsed b ≤ config.timeout) (room : b.cameras.length < 10)
      (failed : (n.checked b).next = .failed kind) (quiet : kind = .wouldBlock ∨ kind = .timedOut) :
      Turn b n (.inr b) (n.checked b).received
  | fault (kind : ErrorKind) (h : n.elapsed b ≤ config.timeout) (room : b.cameras.length < 10)
      (failed : (n.checked b).next = .failed kind)
      (noisy : ¬ (kind = .wouldBlock ∨ kind = .timedOut)) :
      Turn b n (.inl b) (n.checked b).received

lemma receiveTurn_late {b : Search} {n : Network} (late : config.timeout < n.elapsed b) :
    receiveTurn config b n = .ok (.inr b) (n.checked b) := by
  change (if n.elapsed b > config.timeout then _ else _ : Discover _) (n.checked b) = _
  rw [if_pos late]
  rfl

lemma receiveTurn_full {b : Search} {n : Network} (h : n.elapsed b ≤ config.timeout)
    (enough : 10 ≤ b.cameras.length) :
    receiveTurn config b n = .ok (.inr b) (n.checked b) := by
  change (if n.elapsed b > config.timeout then _ else _ : Discover _) (n.checked b) = _
  rw [if_neg (by omega), if_pos enough]
  rfl

lemma receiveTurn_listening {b : Search} {n : Network} (h : n.elapsed b ≤ config.timeout)
    (room : b.cameras.length < 10) :
    receiveTurn config b n = handleReception b (n.checked b).next (n.checked b).received := by
  change (if n.elapsed b > config.timeout then _ else _ : Discover _) (n.checked b) = _
  rw [if_neg (by omega), if_neg (by omega)]
  exact bind_ok (timedRecv_eq _)

lemma handleReception_datagram (b : Search) (buffer : Bytes) (srcAddr : SocketAddr)
    (n : Network) :
    handleReception b (.datagram buffer srcAddr) n = .ok (.inl (b.listen (buffer, srcAddr))) n := by
  rw [handleReception, Search.process_eq]
  rfl

/-- A turn does not fail. -/
lemma receiveTurn_turn (b : Search) (n : Network) :
    ∃ r n', receiveTurn config b n = .ok r n' ∧ Turn config b n r n' := by
  by_cases late : config.timeout < n.elapsed b
  · exact ⟨_, _, receiveTurn_late config late, Turn.late late⟩
  · have inTime : n.elapsed b ≤ config.timeout := Nat.le_of_not_lt late
    by_cases enough : 10 ≤ b.cameras.length
    · exact ⟨_, _, receiveTurn_full config inTime enough, Turn.full inTime enough⟩
    · have room : b.cameras.length < 10 := Nat.lt_of_not_le enough
      rw [receiveTurn_listening config inTime room]
      cases hnext : (n.checked b).next with
      | datagram buffer srcAddr =>
        exact ⟨_, _, handleReception_datagram b buffer srcAddr _,
          Turn.datagram buffer srcAddr inTime room hnext⟩
      | failed kind =>
        rw [handleReception]
        by_cases quiet : kind = .wouldBlock ∨ kind = .timedOut
        · rw [if_pos quiet]
          exact ⟨_, _, rfl, Turn.silence kind inTime room hnext quiet⟩
        · rw [if_neg quiet]
          exact ⟨_, _, rfl, Turn.fault kind inTime room hnext quiet⟩

lemma turn_of_ok {b : Search} {n n' : Network} {r : Search ⊕ Search}
    (h : receiveTurn config b n = .ok r n') : Turn config b n r n' := by
  obtain ⟨_, _, heq, turn⟩ := receiveTurn_turn config b n
  cases heq.symm.trans h
  exact turn

lemma received_shrinks {n : Network} (h : n.next ≠ .failed .wouldBlock) :
    n.received.receptions.length < n.receptions.length := by
  cases hreceptions : n.receptions with
  | nil => exact absurd (by rw [Network.next, hreceptions]) h
  | cons r rest =>
    rw [Network.received, hreceptions]
    exact Nat.lt_succ_self _

/-- A turn that goes on has received something. -/
lemma receiveTurn_shrinks : Shrinks (fun n : Network => n.receptions.length)
    (receiveTurn config) := by
  intro b n b' n' h
  cases turn_of_ok config h with
  | datagram buffer srcAddr _ _ arrived =>
    refine received_shrinks ?_
    rw [arrived]
    rintro ⟨⟩
  | fault kind _ _ failed noisy =>
    refine received_shrinks ?_
    rw [failed]
    rintro heq
    cases heq
    exact noisy (Or.inl rfl)

end turns

section program

variable (config : DiscoveryConfig)

def receiveLoop : Search → Discover Search := loop (receiveTurn_shrinks config)

/-- One turn of the loop over the attempts. -/
def tryAttempt (b : Search) (number : Nat) : Discover Search := do
  sendAll buildDiscoveryRequest (getDiscoveryDestinations config)
  let known := b.cameras.length
  let b ← receiveLoop config b
  pause config number b
  noteAttempt number known
  return b

def search : Discover Search := do
  setUpSocket
  let startTime ← now
  (List.range' 1 config.retryCount).foldlM (tryAttempt config) ⟨startTime, [], []⟩

def discoverCameras : Discover (List DiscoveredCamera) := do
  let b ← search config
  return b.cameras

end program

end Discovery
