import PtpipCore.Sessions

/-!
# The commands that are issued

Callers serialise parameters by hand from fields of two, four and eight bytes;
the sender reads them again as words of four bytes. A call is one of the
functions that issue a command, with its arguments.
-/

namespace IssuedCommands

open Effects ByteStream Types Transport Frames FrameRoundTrip Commands PartialObject Responses
  CameraClient Sessions
open EStateM (Result)
open Resume (Platform)

variable {σ α : Type}

lemma endState_returning (m : EStateM PtpIpError σ α) (s : σ) :
    endState (returning m s) = endState (m s) := by
  simp only [returning, EStateM.adaptExcept]
  cases m s <;> rfl

section outgoing

variable (config : SessionConfig) (opcode : PtpOperationCode) (parameters : Bytes)

/-- Waiting for anything sends nothing. -/
lemma receive_outgoing (m : EStateM PtpIpError Incoming α) (c : Connection) :
    (endState (Connection.incomingPart.run m c)).outgoing = c.outgoing := by
  rw [Part.run, Part.endState_lift]
  rfl

/-- A command and whatever is waited for after it. -/
lemma send_outgoing (transactionId : UInt32) (wait : EStateM PtpIpError Incoming α)
    (c : Connection) :
    (endState ((do
      Connection.outgoingPart.run (sendCommand opcode.code transactionId parameters config)
      Connection.incomingPart.run wait : EStateM PtpIpError Connection α) c)).outgoing =
    endState (sendCommand opcode.code transactionId parameters config c.outgoing) := by
  cases h : sendCommand opcode.code transactionId parameters config c.outgoing with
  | ok _ s =>
    rw [bind_ok (Connection.outgoingPart.run_ok h), receive_outgoing]
    rfl
  | error e s =>
    rw [bind_error (Connection.outgoingPart.run_error h)]
    rfl

lemma exchange_outgoing (parse : Bytes → Except Failure α) (c : Connection) :
    (endState (exchange config opcode parameters parse c)).outgoing =
      endState (sendCommand opcode.code (c.transactionIds 0) parameters config c.outgoing) := by
  have hid : returning generateTransactionId c = .ok (c.transactionIds 0)
      { c with transactionIds := fun n => c.transactionIds (n + 1) } := rfl
  rw [exchange, bind_ok hid,
    bind_keeps Connection.outgoing fun response c => by rw [endState_ofExcept],
    endState_returning]
  exact send_outgoing config opcode parameters _ _ _

/-- Only its exchange with the camera touches the connection of a session. -/
lemma sessionExchange_connection (parse : Bytes → Except Failure α) (took : Nat) (s : Session) :
    (endState (sessionExchange config opcode parameters parse took s)).connection =
      endState (exchange config opcode parameters parse s.connection) := by
  rw [sessionExchange, bind_keeps Session.connection fun _ _ => rfl, Part.run, Part.endState_lift]
  rfl

lemma sendHeartbeat_connection (pace : Pace) (s : Session) :
    (endState (sendHeartbeat config pace s)).connection =
      endState (exchange config .getDeviceInfo [] ignored s.connection) := by
  rw [sendHeartbeat, bind_keeps Session.connection fun _ _ => rfl, sessionExchange_connection]

end outgoing

/-- The functions that issue a command, with their arguments. -/
inductive Call where
  | connect
  | getDeviceInfo
  | getStorageIds
  | getStorageInfo (storageId : UInt32)
  | getObjectHandles (storageId : UInt32) (objectFormat : UInt16) (maxCount : UInt32)
  | getObjectInfo (objectHandle : UInt32)
  | initiateCapture (storageId : UInt32) (format : UInt16)
  | deleteObject (objectHandle : UInt32)
  | close (sessionId : UInt32)
  | getPartialObject (objectHandle : UInt32) (offset : UInt64) (length : UInt32)
  | sendOpenSession (transactionId : UInt32) (version : UInt16)
  | sendCloseSession (transactionId sessionId : UInt32)
  | sendHeartbeat (session : Session) (pace : Pace)

namespace Call

def opcode : Call → PtpOperationCode
  | connect => .openSession
  | getDeviceInfo => .getDeviceInfo
  | getStorageIds => .getStorageIDs
  | getStorageInfo _ => .getStorageInfo
  | getObjectHandles _ _ _ => .getObjectHandles
  | getObjectInfo _ => .getObjectInfo
  | initiateCapture _ _ => .initiateCapture
  | deleteObject _ => .deleteObject
  | close _ => .closeSession
  | getPartialObject _ _ _ => .getPartialObject
  | sendOpenSession _ _ => .openSession
  | sendCloseSession _ _ => .closeSession
  | sendHeartbeat _ _ => .getDeviceInfo

variable (c : Connection)

/-- What the generator will give on this connection, unless the id is an argument. -/
def transactionId : Call → UInt32
  | connect => c.transactionIds 1
  | sendOpenSession transactionId _ => transactionId
  | sendCloseSession transactionId _ => transactionId
  | _ => c.transactionIds 0

/-- The parameter bytes that the function serialises. -/
def parameters : Call → Bytes
  | connect => bigEndian 4 (c.transactionIds 0).toNat
  | getDeviceInfo => []
  | getStorageIds => []
  | getStorageInfo storageId => bigEndian 4 storageId.toNat
  | getObjectHandles storageId objectFormat maxCount =>
    objectHandlesParams storageId objectFormat maxCount
  | getObjectInfo objectHandle => bigEndian 4 objectHandle.toNat
  | initiateCapture storageId format => captureParams storageId format
  | deleteObject objectHandle => bigEndian 4 objectHandle.toNat
  | close sessionId => bigEndian 4 sessionId.toNat
  | getPartialObject objectHandle offset length => partialObjectParams objectHandle offset length
  | sendOpenSession _ version => openSessionParams version
  | sendCloseSession _ sessionId => bigEndian 4 sessionId.toNat
  | sendHeartbeat _ _ => []

/-- The connection after the call, however the call ends. -/
def after (platform : Platform) (config : SessionConfig) : Call → Connection
  | connect => endState (CameraClient.connect config c)
  | getDeviceInfo => endState (CameraClient.getDeviceInfo platform config c)
  | getStorageIds => endState (CameraClient.getStorageIds config c)
  | getStorageInfo storageId => endState (CameraClient.getStorageInfo platform config storageId c)
  | getObjectHandles storageId objectFormat maxCount =>
    endState (CameraClient.getObjectHandles config storageId objectFormat maxCount c)
  | getObjectInfo objectHandle =>
    endState (CameraClient.getObjectInfo platform config objectHandle c)
  | initiateCapture storageId format =>
    endState (CameraClient.initiateCapture config storageId format c)
  | deleteObject objectHandle => endState (CameraClient.deleteObject config objectHandle c)
  | close sessionId => endState (CameraClient.close config sessionId c)
  | getPartialObject objectHandle offset length =>
    endState (PartialObject.getPartialObject config objectHandle offset length c)
  | sendOpenSession transactionId version =>
    endState (Sessions.sendOpenSession config transactionId version c)
  | sendCloseSession transactionId sessionId =>
    endState (Sessions.sendCloseSession config transactionId sessionId c)
  | sendHeartbeat session pace =>
    (endState (Sessions.sendHeartbeat config pace { session with connection := c })).connection

/-- Its one call of the sender. -/
def send (config : SessionConfig) (call : Call) : Send Unit :=
  sendCommand call.opcode.code (call.transactionId c) (call.parameters c) config

/-- The bytes that a call leaves on the stream are those of its one call of the sender. -/
lemma after_outgoing (platform : Platform) (config : SessionConfig) (call : Call) :
    (call.after c platform config).outgoing = endState (call.send c config c.outgoing) := by
  cases call with
  | connect =>
    have hid : returning generateTransactionId c = .ok (c.transactionIds 0)
        { c with transactionIds := fun n => c.transactionIds (n + 1) } := rfl
    rw [after, CameraClient.connect, bind_ok hid, bind_keeps Connection.outgoing fun _ _ => rfl]
    exact exchange_outgoing config _ _ _ _
  | getDeviceInfo => exact exchange_outgoing config _ _ _ c
  | getStorageIds => exact exchange_outgoing config _ _ _ c
  | getStorageInfo storageId => exact exchange_outgoing config _ _ _ c
  | getObjectHandles storageId objectFormat maxCount => exact exchange_outgoing config _ _ _ c
  | getObjectInfo objectHandle => exact exchange_outgoing config _ _ _ c
  | initiateCapture storageId format => exact exchange_outgoing config _ _ _ c
  | deleteObject objectHandle => exact exchange_outgoing config _ _ _ c
  | close sessionId => exact exchange_outgoing config _ _ _ c
  | getPartialObject objectHandle offset length => exact send_outgoing config _ _ _ _ _
  | sendOpenSession transactionId version =>
    rw [after, Sessions.sendOpenSession,
      bind_keeps Connection.outgoing fun response c => by rw [endState_ofExcept]]
    exact send_outgoing config _ _ _ _ _
  | sendCloseSession transactionId sessionId =>
    rw [after, Sessions.sendCloseSession, bind_keeps Connection.outgoing fun _ _ => rfl]
    exact send_outgoing config _ _ _ _ _
  | sendHeartbeat session pace =>
    rw [after, sendHeartbeat_connection]
    exact exchange_outgoing config _ _ _ c

/-- Only the version of an open request does not fill words of four bytes. -/
lemma parameters_whole (call : Call) :
    (call.parameters c).length % 4 = 0 ↔ ∀ t version, call ≠ sendOpenSession t version := by
  cases call <;>
    simp [parameters, objectHandlesParams, captureParams, partialObjectParams, openSessionParams]

/-- The one frame that a call is to put on the stream: its operation code, its transaction
id and the parameters as they were serialised. -/
def frame (call : Call) : PtpIpPacket :=
  commandPacket call.opcode.code (call.transactionId c) ((call.parameters c).length / 4)
    (call.parameters c)

/-- The sender succeeds and the call leaves one frame on the stream. -/
def Sent (platform : Platform) (config : SessionConfig) (call : Call) : Prop :=
  answer (call.send c config c.outgoing) = .ok () ∧
  (call.after c platform config).outgoing.written = c.outgoing.written ++ encoding (call.frame c)

lemma send_whole (config : SessionConfig) {call : Call} (whole : (call.parameters c).length % 4 = 0)
    (w : Bytes) : call.send c config ⟨w, []⟩ = .ok () ⟨w ++ encoding (call.frame c), []⟩ :=
  sendCommand_sent call.opcode.code (call.transactionId c) (by omega) config w

/-- Nothing is written when the parameters cannot be read. -/
lemma send_ragged (config : SessionConfig) (call : Call)
    (partly : (call.parameters c).length % 4 ≠ 0) (s : Sink) :
    call.send c config s = .error (.io .unexpectedEof) s :=
  sendCommand_ragged _ _ partly config s

end Call

/-- On a stream that accepts all writes, exactly the functions other than `send_open_session`
send their command. -/
theorem command_sent_iff (platform : Platform) (config : SessionConfig) (call : Call)
    {c : Connection} (accepting : c.outgoing.outcomes = []) :
    call.Sent c platform config ↔ ∀ t version, call ≠ .sendOpenSession t version := by
  rw [← Call.parameters_whole c]
  obtain ⟨w, hw⟩ : ∃ w, c.outgoing = ⟨w, []⟩ := ⟨c.outgoing.written, by rw [← accepting]⟩
  rw [Call.Sent, Call.after_outgoing, hw]
  constructor
  · rintro ⟨succeeds, -⟩
    by_contra partly
    rw [Call.send_ragged c config call partly] at succeeds
    cases succeeds
  · intro whole
    rw [Call.send_whole c config whole]
    exact ⟨rfl, rfl⟩

private def quiet : Connection := ⟨⟨[], fun _ _ => 0⟩, ⟨[], []⟩, fun _ => 7⟩

/-- The request for a part of an object, with parameters of four and eight bytes. -/
theorem part_command_sent :
    (Call.getPartialObject 1 2 3).Sent quiet .bits64 ⟨30, 3⟩ :=
  (command_sent_iff .bits64 ⟨30, 3⟩ (.getPartialObject 1 2 3) (c := quiet) rfl).mpr
    fun _ _ h => by cases h

/-- The request to open a session with version 1.0 is never sent. -/
theorem open_session_unsent :
    quiet.outgoing.outcomes = [] ∧
    answer ((Call.sendOpenSession 7 0x0100).send quiet ⟨30, 3⟩ quiet.outgoing) =
      .error (.io .unexpectedEof) ∧
    ((Call.sendOpenSession 7 0x0100).after quiet .bits64 ⟨30, 3⟩).outgoing.written = [] ∧
    ¬ (Call.sendOpenSession 7 0x0100).Sent quiet .bits64 ⟨30, 3⟩ := by
  have hsend : (Call.sendOpenSession 7 0x0100).send quiet ⟨30, 3⟩ quiet.outgoing =
      .error (.io .unexpectedEof) quiet.outgoing := Call.send_ragged quiet _ _ (by decide) _
  refine ⟨rfl, by rw [hsend]; rfl, by rw [Call.after_outgoing, hsend]; rfl, ?_⟩
  rintro ⟨succeeds, -⟩
  rw [hsend] at succeeds
  cases succeeds

/-- No session can be opened, whatever the peer would answer. -/
theorem connect_fails (config : SessionConfig) (version : UInt16) (openedAt : Nat)
    (c : Connection) :
    Sessions.connect config version openedAt c = .error (.io .unexpectedEof) := by
  have hid : generateTransactionId c = .ok (c.transactionIds 0)
      { c with transactionIds := fun n => c.transactionIds (n + 1) } := rfl
  have hpartial : (openSessionParams version).length % 4 ≠ 0 := by simp [openSessionParams]
  have hsend : sendCommand PtpOperationCode.openSession.code (c.transactionIds 0)
      (openSessionParams version) config c.outgoing = .error (.io .unexpectedEof) c.outgoing :=
    Call.send_ragged c config (.sendOpenSession (c.transactionIds 0) version) hpartial _
  have hrequest : request config .openSession (c.transactionIds 0) (openSessionParams version)
      { c with transactionIds := fun n => c.transactionIds (n + 1) } =
      .error (.io .unexpectedEof) { c with transactionIds := fun n => c.transactionIds (n + 1) } :=
    bind_error (Connection.outgoingPart.run_error hsend)
  simp only [Sessions.connect, bind_ok hid, Sessions.sendOpenSession, bind_error hrequest]

end IssuedCommands
