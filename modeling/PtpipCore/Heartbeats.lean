import PtpipCore.IssuedCommands

/-!
# When a heartbeat is sent

A heartbeat goes out before an operation when the last activity on record lies
too far back. The record is the end of the last call that returned a value, with
one exception: listing the storage ids leaves it as it is. Whether there was a
heartbeat is read off the stream the commands are written to.
-/

namespace Heartbeats

open Effects ByteStream Types Transport Frames FrameRoundTrip SendRetry Commands FrameStreams
open Responses Sessions
open CameraClient (exchange exchange_ok ignored)
open IssuedCommands (exchange_outgoing sessionExchange_connection)
open PartialObject (Connection commandPacket sendCommand sendCommand_sent)
open EStateM (Result)
open Resume (Platform)

inductive Operation where
  | getDeviceInfo
  | getStorageIds
  | getStorageInfo (storageId : UInt32)
  deriving DecidableEq, Repr

/-- The command of an operation and its parameter bytes. -/
def Operation.opcode : Operation → PtpOperationCode
  | .getDeviceInfo => .getDeviceInfo
  | .getStorageIds => .getStorageIDs
  | .getStorageInfo _ => .getStorageInfo

def Operation.parameters : Operation → Bytes
  | .getDeviceInfo => []
  | .getStorageIds => []
  | .getStorageInfo storageId => bigEndian 4 storageId.toNat

section run

variable (platform : Platform) (config : SessionConfig) (pace : Pace)

/-- The value of an operation does not matter. -/
def runOperation : Operation → Op Unit
  | .getDeviceInfo => do
    let _ ← getDeviceInfo platform config pace
    return ()
  | .getStorageIds => do
    let _ ← getStorageIds config pace
    return ()
  | .getStorageInfo storageId => do
    let _ ← getStorageInfo platform config pace storageId
    return ()

end run

/-- A call after some idle time. -/
structure Call where
  idle : Nat
  operation : Operation
  pace : Pace

/-- The session when the call begins. -/
def arrive (s : Session) (call : Call) : Session := { s with now := s.now + call.idle }

variable (platform : Platform) (config : SessionConfig)

def perform (call : Call) : Op Unit := runOperation platform config call.pace call.operation

/-- The end of a call that returned a value, or else the time before. -/
def okEnd {α : Type} (r : Result Failure Session α) (before : Nat) : Nat :=
  match r with
  | .ok _ s => s.now
  | .error _ _ => before

@[simp] lemma okEnd_ok {α : Type} (a : α) (s : Session) (before : Nat) :
    okEnd (.ok a s : Result Failure Session α) before = s.now := rfl

@[simp] lemma okEnd_error {α : Type} (e : Failure) (s : Session) (before : Nat) :
    okEnd (.error e s : Result Failure Session α) before = before := rfl

/-- The stream behind one command under the next transaction id: what was written of it within
the retries, and the answers to come. -/
def commandStream (opcode : PtpOperationCode) (parameters : Bytes) (c : Connection) : Sink :=
  endState (sendCommand opcode.code (c.transactionIds 0) parameters config c.outgoing)

def heartbeatStream (c : Connection) : Sink := commandStream config .getDeviceInfo [] c

/-- The check before a call puts the command of a heartbeat on the stream. If the writes fail,
a heartbeat counts as sent as far as they went. -/
def SendsHeartbeat (s : Session) (call : Call) : Prop :=
  (endState (checkHeartbeat config call.pace s)).connection.outgoing =
    heartbeatStream config s.connection

instance (s : Session) (call : Call) : Decidable (SendsHeartbeat config s call) :=
  inferInstanceAs (Decidable (_ = _))

/-- A heartbeat counts when there was one. -/
def heartbeatEnd (s : Session) (call : Call) (before : Nat) : Nat :=
  if SendsHeartbeat config s call then okEnd (checkHeartbeat config call.pace s) before
  else before

/-- A session under observation: the end of the last call or heartbeat that returned a value, of
any kind, and of any kind but the listing of storage ids. -/
structure Watched where
  session : Session
  lastOk : Nat
  lastOther : Nat

def next (w : Watched) (call : Call) : Watched :=
  let s := arrive w.session call
  let r := perform platform config call s
  { session := endState r
    lastOk := okEnd r (heartbeatEnd config s call w.lastOk)
    lastOther :=
      if call.operation = .getStorageIds then heartbeatEnd config s call w.lastOther
      else okEnd r (heartbeatEnd config s call w.lastOther) }

/-- What a call puts on the stream: a whole frame for a heartbeat if all writes are accepted,
nothing without a heartbeat, then its own command unless the heartbeat failed. -/
structure OnStream (s : Session) (call : Call) : Prop where
  heartbeat : SendsHeartbeat config s call → s.connection.outgoing.outcomes = [] →
    (endState (checkHeartbeat config call.pace s)).connection.outgoing.written =
      s.connection.outgoing.written ++ encoding (commandPacket PtpOperationCode.getDeviceInfo.code
        (s.connection.transactionIds 0) 0 [])
  quiet : ¬ SendsHeartbeat config s call → checkHeartbeat config call.pace s = .ok () s
  own : ∀ t, checkHeartbeat config call.pace s = .ok () t →
    (endState (perform platform config call s)).connection.outgoing =
      commandStream config call.operation.opcode call.operation.parameters t.connection
  lost : ∀ e t, checkHeartbeat config call.pace s = .error e t →
    perform platform config call s = .error e t

/-- More than the idle limit lies between a time and the beginning of the call. -/
def IdleSince (w : Watched) (call : Call) (time : Nat) : Prop :=
  idleLimit config < (arrive w.session call).now - time

section exchanges

variable {α : Type}

/-- An exchange of the session moves only its connection and its clock. -/
lemma sessionExchange_cases (opcode : PtpOperationCode) (parameters : Bytes)
    (parse : Bytes → Except Failure α) (took : Nat) (s : Session) :
    ∃ c, c.outgoing = commandStream config opcode parameters s.connection ∧
      ((∃ a, sessionExchange config opcode parameters parse took s =
        .ok a { s with connection := c, now := s.now + took }) ∨
      ∃ e, sessionExchange config opcode parameters parse took s =
        .error e { s with connection := c }) := by
  have hsent := exchange_outgoing config opcode parameters parse s.connection
  unfold sessionExchange
  cases h : exchange config opcode parameters parse s.connection with
  | ok a c =>
    rw [h] at hsent
    refine ⟨c, hsent, Or.inl ⟨a, ?_⟩⟩
    rw [bind_ok (Session.connectionPart.run_ok h)]
    rfl
  | error e c =>
    rw [h] at hsent
    refine ⟨c, hsent, Or.inr ⟨e, ?_⟩⟩
    rw [bind_error (Session.connectionPart.run_error h)]
    rfl

/-- A heartbeat has got its answer. -/
def beaten (pace : Pace) (c : Connection) (s : Session) : Session where
  connection := c
  sessionId := s.sessionId
  lastActivity := s.now + pace.heartbeatTook
  isConnected := s.isConnected
  now := s.now + pace.heartbeatTook

/-- What the check for a heartbeat can come to in a connected session. -/
inductive Checked (config : SessionConfig) (pace : Pace) (s : Session) :
    Result Failure Session Unit → Prop
  | quiet (h : s.now - s.lastActivity ≤ idleLimit config) : Checked config pace s (.ok () s)
  | beat (c : Connection) (h : idleLimit config < s.now - s.lastActivity)
      (sent : c.outgoing = heartbeatStream config s.connection) :
      Checked config pace s (.ok () (beaten pace c s))
  | lost (e : Failure) (c : Connection) (h : idleLimit config < s.now - s.lastActivity)
      (sent : c.outgoing = heartbeatStream config s.connection) :
      Checked config pace s (.error e { s with connection := c })

lemma checkHeartbeat_checked {s : Session} (connected : s.isConnected = true) (pace : Pace) :
    Checked config pace s (checkHeartbeat config pace s) := by
  have hread : (get : Op Session) s = .ok s s := rfl
  rw [checkHeartbeat, bind_ok hread]
  by_cases idle : idleLimit config < s.now - s.lastActivity
  · rw [if_pos ⟨connected, idle⟩, sendHeartbeat]
    obtain ⟨c, sent, ⟨a, hbeat⟩ | ⟨e, hbeat⟩⟩ :=
      sessionExchange_cases config .getDeviceInfo [] ignored pace.heartbeatTook s
    · rw [bind_ok hbeat]
      exact Checked.beat c idle sent
    · rw [bind_error hbeat]
      exact Checked.lost e c idle sent
  · rw [if_neg (fun h => idle h.2)]
    exact Checked.quiet (Nat.le_of_not_lt idle)

/-- The command of a heartbeat moves the stream, even if no write is accepted. -/
lemma heartbeatStream_moves (c : Connection) : heartbeatStream config c ≠ c.outgoing :=
  sendPacketWithRetry_moves _ config c.outgoing

/-- What a call can come to behind its check for a heartbeat. -/
inductive Performed (call : Call) (t : Session) : Result Failure Session Unit → Prop
  | done (c : Connection) : Performed call t (.ok () { t with
      connection := c, now := t.now + call.pace.took,
      lastActivity :=
        if call.operation = .getStorageIds then t.lastActivity else t.now + call.pace.took })
  | failed (e : Failure) (c : Connection) :
      Performed call t (.error e { t with connection := c })

/-- An operation that puts its end on record. -/
lemma recorded {pace : Pace} {s t : Session} (h : checkHeartbeat config pace s = .ok () t)
    (opcode : PtpOperationCode) (parameters : Bytes) (parse : Bytes → Except Failure α) :
    let operation : Op α := do
      checkHeartbeat config pace
      let a ← sessionExchange config opcode parameters parse pace.took
      updateActivity
      return a
    ∃ c, (∃ a, operation s = .ok a { t with
        connection := c, now := t.now + pace.took, lastActivity := t.now + pace.took }) ∨
      ∃ e, operation s = .error e { t with connection := c } := by
  obtain ⟨c, -, ⟨a, hanswer⟩ | ⟨e, hanswer⟩⟩ :=
    sessionExchange_cases config opcode parameters parse pace.took t
  · exact ⟨c, Or.inl ⟨a, by rw [bind_ok h, bind_ok hanswer]; rfl⟩⟩
  · exact ⟨c, Or.inr ⟨e, by rw [bind_ok h, bind_error hanswer]⟩⟩

lemma perform_ok {call : Call} {s t : Session}
    (h : checkHeartbeat config call.pace s = .ok () t) :
    Performed call t (perform platform config call s) := by
  obtain ⟨idle, operation, pace⟩ := call
  cases operation with
  | getDeviceInfo =>
    rcases recorded config h .getDeviceInfo []
      (parseDeviceInfo platform) with ⟨c, ⟨a, hop⟩ | ⟨e, hop⟩⟩
    · rw [perform, runOperation, getDeviceInfo, bind_ok hop]
      exact Performed.done c
    · rw [perform, runOperation, getDeviceInfo, bind_error hop]
      exact Performed.failed e c
  | getStorageIds =>
    rcases sessionExchange_cases config .getStorageIDs []
      (fun data => (Sessions.parseStorageIds data).mapError .error) pace.took t with
        ⟨c, -, ⟨a, hop⟩ | ⟨e, hop⟩⟩
    · rw [perform, runOperation, getStorageIds, bind_ok ((bind_ok h).trans hop)]
      exact Performed.done c
    · rw [perform, runOperation, getStorageIds, bind_error ((bind_ok h).trans hop)]
      exact Performed.failed e c
  | getStorageInfo storageId =>
    rcases recorded config h .getStorageInfo
      (bigEndian 4 storageId.toNat) (parseStorageInfo platform) with ⟨c, ⟨a, hop⟩ | ⟨e, hop⟩⟩
    · rw [perform, runOperation, getStorageInfo, bind_ok hop]
      exact Performed.done c
    · rw [perform, runOperation, getStorageInfo, bind_error hop]
      exact Performed.failed e c

lemma perform_error {call : Call} {s t : Session} {e : Failure}
    (h : checkHeartbeat config call.pace s = .error e t) :
    perform platform config call s = .error e t := by
  obtain ⟨idle, operation, pace⟩ := call
  cases operation <;> exact bind_error (bind_error h)

/-- Behind its check a call puts its own command on the stream. -/
lemma perform_outgoing {call : Call} {s t : Session}
    (h : checkHeartbeat config call.pace s = .ok () t) :
    (endState (perform platform config call s)).connection.outgoing =
      commandStream config call.operation.opcode call.operation.parameters t.connection := by
  obtain ⟨idle, operation, pace⟩ := call
  cases operation with
  | getDeviceInfo =>
    rw [perform, runOperation, bind_keeps Session.connection fun _ _ => rfl, getDeviceInfo,
      bind_ok h, bind_keeps Session.connection fun _ _ => rfl, sessionExchange_connection]
    exact exchange_outgoing config _ _ _ _
  | getStorageIds =>
    rw [perform, runOperation, bind_keeps Session.connection fun _ _ => rfl, getStorageIds,
      bind_ok h, sessionExchange_connection]
    exact exchange_outgoing config _ _ _ _
  | getStorageInfo storageId =>
    rw [perform, runOperation, bind_keeps Session.connection fun _ _ => rfl, getStorageInfo,
      bind_ok h, bind_keeps Session.connection fun _ _ => rfl, sessionExchange_connection]
    exact exchange_outgoing config _ _ _ _

end exchanges

section runs

variable {platform config} {w : Watched} {call : Call} {s t : Session} {lastOk lastOther : Nat}

/-- The record is the end of the last call of the other kinds. -/
structure Sound (s : Session) (lastOk lastOther : Nat) : Prop where
  connected : s.isConnected = true
  record : s.lastActivity = lastOther
  order : lastOther ≤ lastOk
  past : lastOk ≤ s.now

/-- Behind the check, a call keeps the record. -/
lemma Performed.sound {r : Result Failure Session Unit} (performed : Performed call t r)
    (sound : Sound t lastOk lastOther) :
    Sound (endState r) (okEnd r lastOk)
      (if call.operation = .getStorageIds then lastOther else okEnd r lastOther) := by
  have hpast := Nat.le_trans sound.order sound.past
  cases performed with
  | done c =>
    simp only [endState_ok, okEnd_ok]
    refine ⟨sound.connected, ?_, ?_, Nat.le_refl _⟩
    · split
      · exact sound.record
      · rfl
    · split <;> omega
  | failed e c =>
    simp only [endState_error, okEnd_error, ite_self]
    exact ⟨sound.connected, sound.record, sound.order, sound.past⟩

/-- A heartbeat that got its answer is the last activity of every kind. -/
lemma sound_beat (connected : s.isConnected = true) (c : Connection) (pace : Pace) :
    Sound (beaten pace c s) (beaten pace c s).now (beaten pace c s).now where
  connected := connected
  record := rfl
  order := Nat.le_refl _
  past := Nat.le_refl _

lemma not_sendsHeartbeat (h : checkHeartbeat config call.pace s = .ok () s) :
    ¬ SendsHeartbeat config s call := by
  rw [SendsHeartbeat, h]
  exact fun moved => heartbeatStream_moves config s.connection moved.symm

lemma sendsHeartbeat_beat {c : Connection}
    (h : checkHeartbeat config call.pace s = .ok () (beaten call.pace c s))
    (sent : c.outgoing = heartbeatStream config s.connection) : SendsHeartbeat config s call := by
  rw [SendsHeartbeat, h]
  exact sent

lemma sendsHeartbeat_lost {e : Failure} {c : Connection}
    (h : checkHeartbeat config call.pace s = .error e { s with connection := c })
    (sent : c.outgoing = heartbeatStream config s.connection) : SendsHeartbeat config s call := by
  rw [SendsHeartbeat, h]
  exact sent

lemma heartbeatEnd_error {e : Failure} (h : checkHeartbeat config call.pace s = .error e t)
    (before : Nat) : heartbeatEnd config s call before = before := by
  rw [heartbeatEnd, h]
  split <;> rfl

/-- A heartbeat is sent when the call comes more than the limit after the record. -/
lemma sendsHeartbeat_iff (connected : s.isConnected = true) :
    SendsHeartbeat config s call ↔ idleLimit config < s.now - s.lastActivity := by
  have checked := checkHeartbeat_checked config connected call.pace
  generalize hcheck : checkHeartbeat config call.pace s = r at checked
  cases checked with
  | quiet quiet => exact iff_of_false (not_sendsHeartbeat hcheck) (Nat.not_lt_of_le quiet)
  | beat c idle sent => exact iff_of_true (sendsHeartbeat_beat hcheck sent) idle
  | lost e c idle sent => exact iff_of_true (sendsHeartbeat_lost hcheck sent) idle

lemma Sound.arrive (sound : Sound w.session lastOk lastOther) (call : Call) :
    Sound (arrive w.session call) lastOk lastOther :=
  ⟨sound.connected, sound.record, sound.order, Nat.le_trans sound.past (Nat.le_add_right _ _)⟩

/-- What one call preserves. -/
theorem call_sound (sound : Sound w.session w.lastOk w.lastOther) (call : Call) :
    Sound (next platform config w call).session (next platform config w call).lastOk
      (next platform config w call).lastOther := by
  have arrived := sound.arrive call
  have checked := checkHeartbeat_checked config arrived.connected call.pace
  rw [next]
  generalize arrive w.session call = s at arrived checked ⊢
  generalize hcheck : checkHeartbeat config call.pace s = r at checked
  cases checked with
  | quiet quiet =>
    simp only [heartbeatEnd, if_neg (not_sendsHeartbeat hcheck)]
    exact (perform_ok platform config hcheck).sound arrived
  | beat c idle sent =>
    simp only [heartbeatEnd, if_pos (sendsHeartbeat_beat hcheck sent), hcheck, okEnd_ok]
    exact (perform_ok platform config hcheck).sound
      (sound_beat arrived.connected c call.pace)
  | lost e c idle sent =>
    rw [perform_error platform config hcheck]
    simp only [heartbeatEnd_error hcheck, okEnd_error, endState_error, ite_self]
    exact ⟨arrived.connected, arrived.record, arrived.order, arrived.past⟩

/-- Over a run, the record that decides is the end of the last call of the other kinds. -/
lemma sendsHeartbeat_iff_idle (sound : Sound w.session w.lastOk w.lastOther) :
    SendsHeartbeat config (arrive w.session call) call ↔ IdleSince config w call w.lastOther := by
  rw [sendsHeartbeat_iff (sound.arrive call).connected, (sound.arrive call).record]
  rfl

/-- In a connected session a call puts on the stream what it should. -/
lemma onStream (connected : s.isConnected = true) (call : Call) :
    OnStream platform config s call where
  heartbeat := by
    intro sends accepting
    obtain ⟨w, hw⟩ : ∃ w, s.connection.outgoing = ⟨w, []⟩ :=
      ⟨s.connection.outgoing.written, by rw [← accepting]⟩
    have hempty : ([] : Bytes).length = 4 * 0 := rfl
    rw [sends, heartbeatStream, commandStream, hw, sendCommand_sent _ _ hempty config w]
    rfl
  quiet := by
    intro unsent
    have checked := checkHeartbeat_checked config connected call.pace
    generalize hcheck : checkHeartbeat config call.pace s = r at checked
    cases checked with
    | quiet => rfl
    | beat c idle sent => exact absurd (sendsHeartbeat_beat hcheck sent) unsent
    | lost e c idle sent => exact absurd (sendsHeartbeat_lost hcheck sent) unsent
  own t h := perform_outgoing platform config h
  lost e t h := perform_error platform config h

end runs

/-- A session that has just been opened. -/
def opened (s : Session) : Watched := ⟨s, s.lastActivity, s.lastActivity⟩

/-- In every run of operations from a connected session, a heartbeat is put on the stream exactly
as it should be, unless the call comes more than the limit after the last call or heartbeat of the
other kinds, but not so after a listing of storage ids. -/
theorem heartbeat_when_idle_iff (platform : Platform) (config : SessionConfig) {s : Session}
    (connected : s.isConnected = true) (past : s.lastActivity ≤ s.now) (calls : List Call) :
    ∀ x ∈ history (next platform config) (opened s) calls,
      ((SendsHeartbeat config (arrive x.1.session x.2) x.2 ↔
          IdleSince config x.1 x.2 x.1.lastOk) ↔
        ¬ (IdleSince config x.1 x.2 x.1.lastOther ∧ ¬ IdleSince config x.1 x.2 x.1.lastOk)) ∧
      OnStream platform config (arrive x.1.session x.2) x.2 := by
  intro x hx
  have start : Sound (opened s).session (opened s).lastOk (opened s).lastOther :=
    ⟨connected, rfl, Nat.le_refl _, past⟩
  have every : ∀ x ∈ history (next platform config) (opened s) calls, True := fun _ _ => trivial
  have sound := (history_induct (I := fun w => Sound w.session w.lastOk w.lastOther)
    (fun w call sound _ => call_sound sound call) start every).1 x hx
  have later : IdleSince config x.1 x.2 x.1.lastOk → IdleSince config x.1 x.2 x.1.lastOther := by
    unfold IdleSince
    have horder := sound.order
    omega
  refine ⟨?_, onStream (sound.arrive x.2).connected x.2⟩
  rw [sendsHeartbeat_iff_idle sound]
  tauto

/-- The limit is one second. -/
def twoSeconds : SessionConfig := ⟨2, 0⟩

/-- A positive response to the first transaction, with a list of no ids. -/
def noIds : Frame := ⟨0, 1, .response ⟨[0, 0, 0x20, 0x01, 0, 0, 0, 0, 0, 0, 0, 0], by decide⟩⟩

def answering : Session :=
  ⟨⟨⟨arrived noIds.wire, fun _ _ => 0⟩, ⟨[], []⟩, fun _ => 1⟩, 1, 0, true, 0⟩

/-- Storage ids after 0.6 seconds, device info after another 0.6 seconds. -/
def listing : Call := ⟨600000000, .getStorageIds, ⟨0, 0⟩⟩

def asking : Call := ⟨600000000, .getDeviceInfo, ⟨0, 0⟩⟩

theorem heartbeat_when_idle_listing :
    let w := next .bits64 twoSeconds (opened answering) listing
    ((SendsHeartbeat twoSeconds (arrive w.session asking) asking ↔
        IdleSince twoSeconds w asking w.lastOk) ↔
      ¬ (IdleSince twoSeconds w asking w.lastOther ∧ ¬ IdleSince twoSeconds w asking w.lastOk)) ∧
    OnStream .bits64 twoSeconds (arrive w.session asking) asking :=
  heartbeat_when_idle_iff .bits64 twoSeconds (s := answering) rfl (Nat.le_refl 0)
    [listing, asking] (next .bits64 twoSeconds (opened answering) listing, asking)
    (by simp [history])

/-- The listing returns and leaves the record of the activity as it was. -/
lemma next_listing : ∃ c, next .bits64 twoSeconds (opened answering) listing =
    ⟨⟨c, 1, 0, true, 600000000⟩, 600000000, 0⟩ := by
  have onTime : OnTime twoSeconds (fun _ _ => 0) := fun _ _ => Nat.zero_le _
  have hrecv : recvPacketFiltered (some .responseBlock) twoSeconds answering.connection.incoming =
      .ok noIds.packet ⟨[], fun _ _ => 0⟩ :=
    recvPacketFiltered_first onTime (fun _ h => absurd h List.not_mem_nil) rfl []
  have hsend : sendCommand PtpOperationCode.getStorageIDs.code 1 [] twoSeconds ⟨[], []⟩ =
      .ok () _ := rfl
  have hparse : (Sessions.parseStorageIds noIds.packet.payload).mapError Failure.error = .ok [] :=
    rfl
  have hexchange : exchange twoSeconds .getStorageIDs []
      (fun data => (Sessions.parseStorageIds data).mapError Failure.error) answering.connection =
        .ok [] _ :=
    exchange_ok hsend (getResponse_own hrecv rfl) hparse
  have hcheck : checkHeartbeat twoSeconds listing.pace (arrive (opened answering).session listing) =
      .ok () (arrive (opened answering).session listing) := rfl
  have hoperation : perform .bits64 twoSeconds listing (arrive (opened answering).session listing) =
      .ok () _ :=
    bind_ok ((bind_ok hcheck).trans (bind_ok (Session.connectionPart.run_ok hexchange)))
  have hquiet : ¬ SendsHeartbeat twoSeconds (arrive (opened answering).session listing) listing :=
    not_sendsHeartbeat hcheck
  rw [next, hoperation]
  simp only [heartbeatEnd, if_neg hquiet]
  exact ⟨_, rfl⟩

/-- A second call of another kind, within the limit after the listing, sends a heartbeat. -/
theorem heartbeat_after_listing : ¬ ∀ (platform : Platform) (config : SessionConfig) (s : Session),
    s.isConnected = true → s.lastActivity ≤ s.now → ∀ (calls : List Call),
      ∀ x ∈ history (next platform config) (opened s) calls,
        (SendsHeartbeat config (arrive x.1.session x.2) x.2 ↔
          IdleSince config x.1 x.2 x.1.lastOk) := by
  intro all
  obtain ⟨c, hnext⟩ := next_listing
  have hsends := all .bits64 twoSeconds answering rfl (Nat.le_refl 0) [listing, asking]
    (next .bits64 twoSeconds (opened answering) listing, asking) (by simp [history])
  have sound : Sound (opened answering).session (opened answering).lastOk
    (opened answering).lastOther := ⟨rfl, rfl, Nat.le_refl _, Nat.le_refl _⟩
  rw [sendsHeartbeat_iff_idle (call_sound sound listing), hnext] at hsends
  simp only [IdleSince, arrive, asking, idleLimit, twoSeconds] at hsends
  omega

end Heartbeats
