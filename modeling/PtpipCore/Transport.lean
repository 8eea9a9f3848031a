import PtpipCore.Types

/-!
# Sending and receiving packets

The receiver reads a packet in up to four separate reads and keeps no buffer
between them. Its state is the stream alone; the filtered receiver also looks
at the clock, once when it starts and once before every packet.
-/

namespace Transport

open Effects ByteStream Types
open EStateM (Result)

structure PtpIpHeader where
  messageType : UInt16
  reserved : UInt16
  transactionId : UInt32
  payloadLength : UInt32
  deriving DecidableEq, Repr

/-- reserved(2) + transaction id(4) -/
def headerAfterTypeSize : Nat := 6

/-- type(2) + reserved(2) + transaction id(4) -/
def fullHeaderSize : Nat := 8

abbrev Recv := EStateM PtpIpError (List Arrival)

abbrev Send := EStateM PtpIpError Sink

/-- The message type may already have been read. -/
def PtpIpHeader.fromStream (messageType : Option UInt16) : Recv PtpIpHeader := do
  let readSize := if messageType.isSome then headerAfterTypeSize else fullHeaderSize
  let headerBytes ← readExact readSize
  let reader := if messageType.isSome then headerBytes else headerBytes.drop 2
  let messageType := messageType.getD (beU16 (headerBytes.take 2))
  let reserved := beU16 (reader.take 2)
  let transactionId := beU32 ((reader.drop 2).take 4)
  -- data blocks have an additional length field
  if messageType = PtpIpMessageType.dataBlock.code then
    let lenBytes ← readExact 4
    return ⟨messageType, reserved, transactionId, beU32 lenBytes⟩
  else
    return ⟨messageType, reserved, transactionId, 0⟩

def PtpIpHeader.toBytes (h : PtpIpHeader) : Bytes :=
  bigEndian 2 h.messageType.toNat ++ bigEndian 2 h.reserved.toNat ++
    bigEndian 4 h.transactionId.toNat ++
    if h.messageType = PtpIpMessageType.dataBlock.code then
      bigEndian 4 h.payloadLength.toNat
    else []

/-- The header that a packet is sent under; its length field is a `u32`. -/
def headerOf (packet : PtpIpPacket) : PtpIpHeader where
  messageType := packet.messageType.code
  reserved := 0
  transactionId := packet.transactionId
  payloadLength := UInt32.ofNat packet.payload.length

def sendPacket (packet : PtpIpPacket) : Send Unit := do
  writeAll (headerOf packet).toBytes
  if packet.payload ≠ [] then
    writeAll packet.payload
  flush

/-- `left` retries remain; every retry starts again from the header. -/
def sendPacketRetrying (packet : PtpIpPacket) (config : SessionConfig) :
    Nat → Send Unit
  | 0 => do
    match ← attempt (sendPacket packet) with
    | .ok _ => return ()
    | .error e => throw (.other ("Failed to send packet after " ++
        toString config.maxRetries ++ " retries: " ++ e.display))
  | left + 1 => do
    match ← attempt (sendPacket packet) with
    | .ok _ => return ()
    | .error _ => sendPacketRetrying packet config left

def sendPacketWithRetry (packet : PtpIpPacket) (config : SessionConfig) : Send Unit :=
  sendPacketRetrying packet config config.maxRetries

/-- The four types that the receiver knows. -/
def receivedType : UInt16 → Option PtpIpMessageType := fun code =>
  if code = 0x0003 then some .commandBlock
  else if code = 0x0004 then some .dataBlock
  else if code = 0x0005 then some .responseBlock
  else if code = 0x0006 then some .eventBlock
  else none

lemma receivedType_code {code : UInt16} {t : PtpIpMessageType}
    (h : receivedType code = some t) : code = t.code := by
  unfold receivedType at h
  repeat' split at h
  all_goals cases h
  all_goals assumption

/-- The last step of the receiver: the payload, when there is one, and the packet. -/
def recvPayload (messageType : PtpIpMessageType) (transactionId : UInt32)
    (payloadLength : Nat) : Recv PtpIpPacket := do
  let payload ← (if payloadLength > 0 then readExact payloadLength else pure [] : Recv Bytes)
  return ⟨messageType, transactionId, payload⟩

/-- What follows the header, by the type in it. -/
def recvBody (header : PtpIpHeader) : Recv PtpIpPacket :=
  match receivedType header.messageType with
  | none => throw (.protocolError
      ("Unknown message type: 0x" ++ hex4 header.messageType.toNat))
  | some messageType =>
    if messageType = .dataBlock then
      recvPayload messageType header.transactionId header.payloadLength.toNat
    else if messageType = .responseBlock ∧ header.payloadLength = 0 then do
      -- a failed read of the length is not reported
      match ← attempt (readExact 4 : Recv Bytes) with
      | .ok lenBytes =>
        let totalLen := (beU32 lenBytes).toNat
        if totalLen ≥ 4 then
          recvPayload messageType header.transactionId (totalLen - 4)
        else recvPayload messageType header.transactionId 0
      | .error _ => recvPayload messageType header.transactionId 0
    else recvPayload messageType header.transactionId 0

def recvPacket : Recv PtpIpPacket := do
  let typeBytes ← readExact 2
  let header ← PtpIpHeader.fromStream (some (beU16 typeBytes))
  recvBody header

lemma readExact_ok_length {n : Nat} {bs : Bytes} {s s' : List Arrival}
    (h : (readExact n : Recv Bytes) s = .ok bs s') : s.length = n + s'.length := by
  obtain ⟨hlen, rfl⟩ := readExact_ok h
  simp [hlen]

lemma recvPayload_ok {t : PtpIpMessageType} {tid : UInt32} {n : Nat}
    {p : PtpIpPacket} {s s' : List Arrival}
    (h : recvPayload t tid n s = .ok p s') :
    p.messageType = t ∧ p.payload.length = n ∧ s = arrived p.payload ++ s' := by
  unfold recvPayload at h
  obtain ⟨payload, u, hread, hret⟩ := bind_eq_ok_iff.mp h
  cases hret
  split at hread
  · exact ⟨rfl, readExact_ok hread⟩
  · cases hread
    have hzero : n = 0 := by omega
    exact ⟨rfl, hzero.symm, rfl⟩

/-- Where the body of a packet is read from, behind its header, and how long it is. -/
inductive BodyRead (header : PtpIpHeader) (s : List Arrival) :
    PtpIpMessageType → Nat → List Arrival → Prop where
  | data : BodyRead header s .dataBlock header.payloadLength.toNat s
  | lengthRead {lenBytes : Bytes} {n : Nat} {u : List Arrival}
      (read : (readExact 4 : Recv Bytes) s = .ok lenBytes u) :
      BodyRead header s .responseBlock n u
  | lengthLost {u : List Arrival} : BodyRead header s .responseBlock 0 u
  | bare {t : PtpIpMessageType} (notData : t ≠ .dataBlock)
      (notResponse : ¬ (t = .responseBlock ∧ header.payloadLength = 0)) : BodyRead header s t 0 s

/-- A body that is read has a known type and ends in a payload. -/
lemma recvBody_ok {header : PtpIpHeader} {p : PtpIpPacket} {s s' : List Arrival}
    (h : recvBody header s = .ok p s') :
    ∃ t n u, receivedType header.messageType = some t ∧ BodyRead header s t n u ∧
      recvPayload t header.transactionId n u = .ok p s' := by
  cases known : receivedType header.messageType with
  | none =>
    simp only [recvBody, known] at h
    cases h
  | some t =>
    simp only [recvBody, known] at h
    split at h
    · next isData =>
      subst isData
      exact ⟨_, _, s, rfl, .data, h⟩
    next notData =>
    split at h
    · next isResponse =>
      obtain ⟨rfl, -⟩ := isResponse
      obtain ⟨r, u, hread, hrest⟩ := bind_eq_ok_iff.mp h
      cases r with
      | error e => exact ⟨_, _, u, rfl, .lengthLost, hrest⟩
      | ok lenBytes =>
        dsimp only at hrest
        split at hrest <;> exact ⟨_, _, u, rfl, .lengthRead (attempt_ok hread), hrest⟩
    · next notResponse => exact ⟨t, 0, s, rfl, .bare notData notResponse, h⟩

lemma consumes_recvPayload (t : PtpIpMessageType) (tid : UInt32) (n : Nat) :
    Consumes (recvPayload t tid n) := by
  unfold recvPayload
  apply consumes_bind
  · split
    · exact consumes_readExact n
    · exact consumes_pure []
  · exact fun _ => consumes_pure _

lemma consumes_recvBody (header : PtpIpHeader) : Consumes (recvBody header) := by
  unfold recvBody
  cases receivedType header.messageType with
  | none => exact consumes_throw _
  | some t =>
    dsimp only
    split
    · exact consumes_recvPayload _ _ _
    split
    · apply consumes_bind (consumes_attempt (consumes_readExact 4))
      intro r
      cases r with
      | ok lenBytes => dsimp only; split <;> exact consumes_recvPayload _ _ _
      | error e => exact consumes_recvPayload _ _ _
    · exact consumes_recvPayload _ _ _

lemma consumes_fromStream (t : Option UInt16) : Consumes (PtpIpHeader.fromStream t) := by
  unfold PtpIpHeader.fromStream
  apply consumes_bind (consumes_readExact _)
  intro headerBytes
  dsimp only
  split
  · exact consumes_bind (consumes_readExact 4) (fun _ => consumes_pure _)
  · exact consumes_pure _

lemma consumes_recvPacket : Consumes recvPacket :=
  consumes_bind (consumes_readExact 2)
    (fun _ => consumes_bind (consumes_fromStream _) consumes_recvBody)

/-- What a header that was read says about the bytes it was read from. -/
lemma fromStream_ok {t : UInt16} {header : PtpIpHeader} {s s' : List Arrival}
    (h : PtpIpHeader.fromStream (some t) s = .ok header s') :
    header.messageType = t ∧
    (t ≠ PtpIpMessageType.dataBlock.code → header.payloadLength = 0) ∧
    ∃ bs, s = arrived bs ++ s' ∧
      bs.length = if t = PtpIpMessageType.dataBlock.code then 10 else 6 := by
  unfold PtpIpHeader.fromStream at h
  obtain ⟨bs, u, hread, hrest⟩ := bind_eq_ok_iff.mp h
  obtain ⟨hlen, rfl⟩ := readExact_ok hread
  simp only [Option.isSome_some, if_true, headerAfterTypeSize] at hlen
  simp only [Option.getD_some] at hrest
  split at hrest
  · next isData =>
    obtain ⟨lenBytes, v, hread', hret⟩ := bind_eq_ok_iff.mp hrest
    obtain ⟨hlen', rfl⟩ := readExact_ok hread'
    cases hret
    refine ⟨rfl, fun notData => absurd isData notData, bs ++ lenBytes, by simp, ?_⟩
    rw [if_pos isData, List.length_append, hlen, hlen']
  · next notData =>
    cases hrest
    refine ⟨rfl, fun _ => rfl, bs, rfl, ?_⟩
    rw [if_neg notData, hlen]

/-- A packet takes at least its type, reserved field and transaction id. -/
lemma recvPacket_ok_length {p : PtpIpPacket} {s s' : List Arrival}
    (h : recvPacket s = .ok p s') : s'.length + 8 ≤ s.length := by
  obtain ⟨typeBytes, t, htype, h⟩ := bind_eq_ok_iff.mp h
  obtain ⟨header, u, hheader, hbody⟩ := bind_eq_ok_iff.mp h
  have htypeLen := readExact_ok_length htype
  obtain ⟨-, -, bs, rfl, hlen⟩ := fromStream_ok hheader
  have hbodyLen := (consumes_recvBody header u).length_le
  rw [hbody, endState_ok] at hbodyLen
  simp only [List.length_append, arrived_length] at htypeLen
  split at hlen <;> omega

/-- The stream, and what the clock shows: `clocks n i` is its `i`-th reading, in
nanoseconds, during the `n`-th filtered receive from now. -/
structure Incoming where
  arrivals : List Arrival
  clocks : Nat → Nat → Nat

section filtering

variable {σ : Type} {recv : EStateM PtpIpError σ PtpIpPacket}

/-- One turn of the filtered receiver, over any receiver of packets; `clock 0` is its start time. -/
def filterTurnOf (recv : EStateM PtpIpError σ PtpIpPacket) (clock : Nat → Nat)
    (expectedType : Option PtpIpMessageType) (config : SessionConfig) (turn : Nat) :
    EStateM PtpIpError σ (Nat ⊕ PtpIpPacket) := do
  if clock (turn + 1) - clock 0 > config.timeout * 1000000000 then
    throw .timeout
  else
    let packet ← recv
    if expectedType.all (· = packet.messageType) then
      return .inr packet
    else
      return .inl (turn + 1)

variable {clock : Nat → Nat} {expectedType : Option PtpIpMessageType} {config : SessionConfig}
  {turn : Nat} {s s' : σ}

lemma filterTurnOf_late (late : clock (turn + 1) - clock 0 > config.timeout * 1000000000) :
    filterTurnOf recv clock expectedType config turn s = .error .timeout s := by
  unfold filterTurnOf
  rw [if_pos late]
  rfl

lemma filterTurnOf_failed (onTime : clock (turn + 1) - clock 0 ≤ config.timeout * 1000000000)
    {e : PtpIpError} (h : recv s = .error e s') :
    filterTurnOf recv clock expectedType config turn s = .error e s' := by
  unfold filterTurnOf
  rw [if_neg (Nat.not_lt.mpr onTime), bind_error h]

lemma filterTurnOf_received (onTime : clock (turn + 1) - clock 0 ≤ config.timeout * 1000000000)
    {t : PtpIpMessageType} {p : PtpIpPacket} (h : recv s = .ok p s') :
    filterTurnOf recv clock (some t) config turn s =
      .ok (if p.messageType = t then .inr p else .inl (turn + 1)) s' := by
  unfold filterTurnOf
  rw [if_neg (Nat.not_lt.mpr onTime), bind_ok h]
  by_cases wanted : p.messageType = t
  · rw [if_pos wanted]
    exact congrFun (if_pos (decide_eq_true wanted.symm)) s'
  · rw [if_neg wanted]
    exact congrFun (if_neg fun hd => wanted (of_decide_eq_true hd).symm) s'

/-- A turn that goes well has received a packet, and is the last one if that was expected. -/
lemma filterTurnOf_ok {r : Nat ⊕ PtpIpPacket}
    (h : filterTurnOf recv clock expectedType config turn s = .ok r s') :
    ∃ p, recv s = .ok p s' ∧
      r = if expectedType.all (· = p.messageType) then .inr p else .inl (turn + 1) := by
  unfold filterTurnOf at h
  split at h
  · cases h
  · obtain ⟨packet, t, hrecv, hret⟩ := bind_eq_ok_iff.mp h
    by_cases wanted : expectedType.all (· = packet.messageType)
    · rw [if_pos wanted] at hret
      cases hret
      exact ⟨packet, hrecv, (if_pos wanted).symm⟩
    · rw [if_neg wanted] at hret
      cases hret
      exact ⟨packet, hrecv, (if_neg wanted).symm⟩

/-- A turn that fails has run out of time before it received, or could not receive. -/
lemma filterTurnOf_error {e : PtpIpError}
    (h : filterTurnOf recv clock expectedType config turn s = .error e s') :
    (e = .timeout ∧ s' = s ∧ clock (turn + 1) - clock 0 > config.timeout * 1000000000) ∨
      recv s = .error e s' := by
  unfold filterTurnOf at h
  split at h
  · next late =>
    cases h
    exact Or.inl ⟨rfl, rfl, late⟩
  cases hrecv : recv s with
  | error e' t =>
    rw [bind_error hrecv] at h
    cases h
    exact Or.inr rfl
  | ok p t =>
    rw [bind_ok hrecv] at h
    split at h <;> cases h

lemma filterTurnOf_shrinks {size : σ → Nat} (takes : ∀ s p s', recv s = .ok p s' → size s' < size s)
    (clock : Nat → Nat) (expectedType : Option PtpIpMessageType) (config : SessionConfig) :
    Shrinks size (filterTurnOf recv clock expectedType config) := by
  intro turn s turn' s' h
  obtain ⟨p, hrecv, -⟩ := filterTurnOf_ok h
  exact takes s p s' hrecv

end filtering

/-- A turn of the filtered receiver of frames. -/
abbrev filterTurn (clock : Nat → Nat) (expectedType : Option PtpIpMessageType)
    (config : SessionConfig) : Nat → Recv (Nat ⊕ PtpIpPacket) :=
  filterTurnOf recvPacket clock expectedType config

lemma recvPacket_takes_some (s : List Arrival) (p : PtpIpPacket) (s' : List Arrival)
    (h : recvPacket s = .ok p s') : s'.length < s.length := by
  have := recvPacket_ok_length h
  omega

lemma filterTurn_shrinks (clock : Nat → Nat) (expectedType : Option PtpIpMessageType)
    (config : SessionConfig) :
    Shrinks List.length (filterTurn clock expectedType config) :=
  filterTurnOf_shrinks recvPacket_takes_some clock expectedType config

def recvPacketFiltered (expectedType : Option PtpIpMessageType) (config : SessionConfig) :
    EStateM PtpIpError Incoming PtpIpPacket := fun s =>
  let later := fun n => s.clocks (n + 1)
  match loop (filterTurn_shrinks (s.clocks 0) expectedType config) 0 s.arrivals with
  | .ok packet rest => .ok packet ⟨rest, later⟩
  | .error e rest => .error e ⟨rest, later⟩

/-- A filtered receive that returns has gone through its turns. -/
lemma recvPacketFiltered_loop {expectedType : Option PtpIpMessageType} {config : SessionConfig}
    {p : PtpIpPacket} {s s' : Incoming} (h : recvPacketFiltered expectedType config s = .ok p s') :
    loop (filterTurn_shrinks (s.clocks 0) expectedType config) 0 s.arrivals =
      .ok p s'.arrivals := by
  unfold recvPacketFiltered at h
  dsimp only at h
  split at h
  · next heq =>
    cases h
    exact heq
  · cases h

def Incoming.size (s : Incoming) : Nat := s.arrivals.length

lemma recvPacketFiltered_shrinks {expectedType : Option PtpIpMessageType}
    {config : SessionConfig} {p : PtpIpPacket} {s s' : Incoming}
    (h : recvPacketFiltered expectedType config s = .ok p s') : s'.size < s.size :=
  loop_ok_size (filterTurn_shrinks (s.clocks 0) expectedType config) (fun _ _ _ _ hturn => by
    obtain ⟨p, hrecv, -⟩ := filterTurnOf_ok hturn
    exact recvPacket_takes_some _ p _ hrecv) (recvPacketFiltered_loop h)

end Transport
