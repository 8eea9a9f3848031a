import PtpipCore.CameraClient
import PtpipCore.Deliveries

/-!
# Conversations with a camera

A client opens a session, carries out operations one after the other and closes the session. On
the level of messages a conversation is determined by the deliveries that the camera makes and the
transaction ids that come up; the client on bytes says the same and puts the same commands on its
stream, one frame each.
-/

namespace Conversations

open Effects ByteStream Refinement Types Transport Frames FrameRoundTrip Commands FrameStreams
open PartialObject Responses CameraClient Deliveries
open EStateM (Result)
open Resume (Platform)

variable {α : Type}

section line

/-- A connection on the level of messages: the deliveries and the transaction ids to come, and the
packets that were sent. -/
structure Line where
  deliveries : List Delivery
  sent : List PtpIpPacket
  transactionIds : Nat → UInt32

def Line.deliveriesPart : Part Line (List Delivery) where
  get l := l.deliveries
  set deliveries l := { l with deliveries := deliveries }
  set_get _ := rfl

def Line.nextId : EStateM PtpIpError Line UInt32 := fun l =>
  .ok (l.transactionIds 0) { l with transactionIds := fun n => l.transactionIds (n + 1) }

def Line.send (p : PtpIpPacket) : EStateM PtpIpError Line Unit := fun l =>
  .ok () { l with sent := l.sent ++ [p] }

/-- A command with parameters that fill whole words. -/
def command (opcode : PtpOperationCode) (transactionId : UInt32) (parameters : Bytes) :
    PtpIpPacket :=
  commandPacket opcode.code transactionId (parameters.length / 4) parameters

/-- One exchange: a command under the next id, and the response to it. -/
def Line.exchange (opcode : PtpOperationCode) (parameters : Bytes)
    (parse : Bytes → Except Failure α) : EStateM Failure Line α := do
  let transactionId ← returning Line.nextId
  let response ← returning do
    Line.send (command opcode transactionId parameters)
    Line.deliveriesPart.run (awaitResponse transactionId)
  ofExcept (parse response.payload)

/-- The connection carries what the line says: the same deliveries and ids to come, and behind what
had been written before, the frames of the packets that were sent. Its stream takes all writes. -/
structure Conveys (config : SessionConfig) (before : Bytes) (c : Connection) (l : Line) : Prop where
  incoming : Carries config c.incoming l.deliveries
  outgoing : c.outgoing = ⟨before ++ l.sent.flatMap encoding, []⟩
  transactionIds : c.transactionIds = l.transactionIds

variable {config : SessionConfig} {before : Bytes}

lemma nextId_simulates :
    Simulates (Conveys config before) generateTransactionId Line.nextId := by
  intro c l conveys
  unfold generateTransactionId Line.nextId
  rw [conveys.transactionIds]
  exact .ok _ ⟨conveys.incoming, conveys.outgoing, rfl⟩

lemma send_simulates (opcode : PtpOperationCode) (transactionId : UInt32) {parameters : Bytes}
    (whole : parameters.length % 4 = 0) :
    Simulates (Conveys config before)
      (Connection.outgoingPart.run (sendCommand opcode.code transactionId parameters config))
      (Line.send (command opcode transactionId parameters)) := by
  intro c l conveys
  have hsend := sendCommand_sent opcode.code transactionId
    (show parameters.length = 4 * (parameters.length / 4) by omega) config
    (before ++ l.sent.flatMap encoding)
  rw [← conveys.outgoing] at hsend
  rw [Connection.outgoingPart.run_ok hsend]
  refine .ok () ⟨conveys.incoming, ?_, conveys.transactionIds⟩
  change Sink.mk _ _ = _
  rw [List.flatMap_append, List.flatMap_singleton, List.append_assoc]
  rfl

lemma receive_simulates {m : EStateM PtpIpError Incoming α} {m' : Waits α}
    (simulates : Simulates (Carries config) m m') :
    Simulates (Conveys config before) (Connection.incomingPart.run m)
      (Line.deliveriesPart.run m') :=
  simulates_parts (fun _ _ conveys => conveys.incoming)
    (fun _ _ _ _ conveys carries => ⟨carries, conveys.outgoing, conveys.transactionIds⟩) simulates

theorem exchange_simulates (opcode : PtpOperationCode) {parameters : Bytes}
    (whole : parameters.length % 4 = 0) (parse : Bytes → Except Failure α) :
    Simulates (Conveys config before) (exchange config opcode parameters parse)
      (Line.exchange opcode parameters parse) := by
  refine simulates_bind (simulates_adaptExcept _ nextId_simulates) fun transactionId => ?_
  refine simulates_bind (simulates_adaptExcept _ ?_) fun response => simulates_ofExcept _
  refine simulates_bind (send_simulates opcode transactionId whole) fun _ => ?_
  exact receive_simulates (getResponse_simulates transactionId)

end line

section operations

/-- The operations of a connected client. -/
inductive Operation where
  | getDeviceInfo
  | getStorageIds
  | getStorageInfo (storageId : UInt32)
  | getObjectHandles (storageId : UInt32) (objectFormat : UInt16) (maxCount : UInt32)
  | getObjectInfo (objectHandle : UInt32)
  | initiateCapture (storageId : UInt32) (format : UInt16)
  | deleteObject (objectHandle : UInt32)
  | close

/-- What they return. -/
inductive Reply where
  | deviceInfo (info : DeviceInfo)
  | ids (ids : List UInt32)
  | storageInfo (info : StorageInfo)
  | objectInfo (info : ObjectInfo)
  | handle (objectHandle : UInt32)
  | nothing

namespace Operation

def opcode : Operation → PtpOperationCode
  | getDeviceInfo => .getDeviceInfo
  | getStorageIds => .getStorageIDs
  | getStorageInfo _ => .getStorageInfo
  | getObjectHandles _ _ _ => .getObjectHandles
  | getObjectInfo _ => .getObjectInfo
  | initiateCapture _ _ => .initiateCapture
  | deleteObject _ => .deleteObject
  | close => .closeSession

/-- The session that is closed is the one that was opened. -/
def parameters (sessionId : UInt32) : Operation → Bytes
  | getDeviceInfo => []
  | getStorageIds => []
  | getStorageInfo storageId => bigEndian 4 storageId.toNat
  | getObjectHandles storageId objectFormat maxCount =>
    objectHandlesParams storageId objectFormat maxCount
  | getObjectInfo objectHandle => bigEndian 4 objectHandle.toNat
  | initiateCapture storageId format => captureParams storageId format
  | deleteObject objectHandle => bigEndian 4 objectHandle.toNat
  | close => bigEndian 4 sessionId.toNat

/-- The reply that a payload is read as. -/
def parse (platform : Platform) (payload : Bytes) : Operation → Except Failure Reply
  | getDeviceInfo => .deviceInfo <$> parseDeviceInfo platform payload
  | getStorageIds => .ids <$> parseStorageIds payload
  | getStorageInfo _ => .storageInfo <$> parseStorageInfo platform payload
  | getObjectHandles _ _ _ => .ids <$> parseObjectHandles payload
  | getObjectInfo objectHandle => .objectInfo <$> parseObjectInfo platform objectHandle payload
  | initiateCapture _ _ => .handle <$> parseCapture payload
  | deleteObject _ => .ok .nothing
  | close => .ok .nothing

/-- An operation of the client, with what it returns. -/
def perform (platform : Platform) (config : SessionConfig) (sessionId : UInt32) :
    Operation → EStateM Failure Connection Reply
  | getDeviceInfo => .deviceInfo <$> CameraClient.getDeviceInfo platform config
  | getStorageIds => .ids <$> CameraClient.getStorageIds config
  | getStorageInfo storageId =>
    .storageInfo <$> CameraClient.getStorageInfo platform config storageId
  | getObjectHandles storageId objectFormat maxCount =>
    .ids <$> CameraClient.getObjectHandles config storageId objectFormat maxCount
  | getObjectInfo objectHandle =>
    .objectInfo <$> CameraClient.getObjectInfo platform config objectHandle
  | initiateCapture storageId format =>
    .handle <$> CameraClient.initiateCapture config storageId format
  | deleteObject objectHandle =>
    (fun _ => .nothing) <$> CameraClient.deleteObject config objectHandle
  | close => (fun _ => .nothing) <$> CameraClient.close config sessionId

variable (platform : Platform) (config : SessionConfig) (sessionId : UInt32)

lemma parameters_whole (op : Operation) : (op.parameters sessionId).length % 4 = 0 := by
  cases op <;> simp [parameters, objectHandlesParams, captureParams]

/-- Mapping what an exchange returns is mapping what it parses. -/
lemma map_exchange {β : Type} (f : α → β) (opcode : PtpOperationCode) (parameters : Bytes)
    (parse : Bytes → Except Failure α) :
    f <$> exchange config opcode parameters parse =
      exchange config opcode parameters (fun payload => f <$> parse payload) := by
  have hparse : ∀ r : Except Failure α, f <$> (ofExcept r : EStateM Failure Connection α) =
      ofExcept (f <$> r) := by
    intro r
    cases r <;> rfl
  simp only [exchange, map_bind, hparse]

/-- Every operation is one exchange. -/
lemma perform_eq (op : Operation) : op.perform platform config sessionId =
    exchange config op.opcode (op.parameters sessionId) fun payload =>
      op.parse platform payload := by
  cases op <;> exact map_exchange config _ _ _ _

/-- The operation on the level of messages. -/
def performed (op : Operation) : EStateM Failure Line Reply :=
  Line.exchange op.opcode (op.parameters sessionId) fun payload => op.parse platform payload

lemma perform_simulates {before : Bytes} (op : Operation) :
    Simulates (Conveys config before) (op.perform platform config sessionId)
      (op.performed platform sessionId) := by
  rw [perform_eq]
  exact exchange_simulates op.opcode (op.parameters_whole sessionId) _

end Operation

end operations

section conversations

variable (platform : Platform) (config : SessionConfig)

/-- The replies of operations carried out one after the other, whether they succeed or not. The
list goes on behind a panic too, where the program would unwind; with 64 bits no parser panics. -/
def performAll (sessionId : UInt32) : List Operation →
    EStateM Failure Connection (List (Except Failure Reply))
  | [] => pure []
  | op :: ops => do
    let reply ← attempt (op.perform platform config sessionId)
    let replies ← performAll sessionId ops
    return reply :: replies

/-- A session is opened and used. -/
def converse (ops : List Operation) :
    EStateM Failure Connection (UInt32 × List (Except Failure Reply)) := do
  let sessionId ← CameraClient.connect config
  let replies ← performAll platform config sessionId ops
  return (sessionId, replies)

def performedAll (sessionId : UInt32) : List Operation →
    EStateM Failure Line (List (Except Failure Reply))
  | [] => pure []
  | op :: ops => do
    let reply ← attempt (op.performed platform sessionId)
    let replies ← performedAll sessionId ops
    return reply :: replies

def Line.connect : EStateM Failure Line UInt32 := do
  let sessionId ← returning Line.nextId
  Line.exchange .openSession (bigEndian 4 sessionId.toNat) ignored
  return sessionId

def conversed (ops : List Operation) :
    EStateM Failure Line (UInt32 × List (Except Failure Reply)) := do
  let sessionId ← Line.connect
  let replies ← performedAll platform sessionId ops
  return (sessionId, replies)

variable {config} {before : Bytes}

lemma performAll_simulates (sessionId : UInt32) (ops : List Operation) :
    Simulates (Conveys config before) (performAll platform config sessionId ops)
      (performedAll platform sessionId ops) := by
  induction ops with
  | nil => exact simulates_pure []
  | cons op ops ih =>
    refine simulates_bind (simulates_attempt ?_) fun reply => ?_
    · exact op.perform_simulates platform config sessionId
    · exact simulates_bind ih fun replies => simulates_pure _

lemma connect_simulates :
    Simulates (Conveys config before) (CameraClient.connect config) Line.connect := by
  refine simulates_bind (simulates_adaptExcept _ nextId_simulates) fun sessionId => ?_
  refine simulates_bind (exchange_simulates .openSession ?_ ignored) fun _ => simulates_pure _
  rw [bigEndian_length]

lemma converse_simulates (ops : List Operation) :
    Simulates (Conveys config before) (converse platform config ops)
      (conversed platform ops) := by
  refine simulates_bind connect_simulates fun sessionId => ?_
  exact simulates_bind (performAll_simulates platform sessionId ops) fun _ => simulates_pure _

private def accepted : ResponseBody := ⟨[0, 0, 0x20, 0x01, 0, 0, 0, 1], by decide⟩

private def unknownHandle : ResponseBody := ⟨[0, 0, 0x20, 0x09, 0, 0, 0, 5], by decide⟩

/-- The opening behind a response to nobody, a refusal, a read that times out, and a deletion. -/
private def interrupted : List Delivery :=
  [.frame ⟨0, 9, .response accepted⟩, .frame ⟨0, 1, .response accepted⟩,
    .frame ⟨0, 2, .response unknownHandle⟩, .fault .timedOut, .frame ⟨0, 4, .response accepted⟩]

private def numbered (ds : List Delivery) : Connection :=
  ⟨⟨stream ds, fun _ _ => 0⟩, ⟨[7], []⟩, UInt32.ofNat⟩

end conversations

section reactions

/-- The response to a command, and the messages before it. -/
structure Reaction where
  noise : List Frame
  reserved : UInt16
  body : ResponseBody

def Reaction.response (r : Reaction) (transactionId : UInt32) : Frame :=
  ⟨r.reserved, transactionId, .response r.body⟩

def Reaction.frames (r : Reaction) (transactionId : UInt32) : List Frame :=
  r.noise ++ [r.response transactionId]

/-- None of the messages before it is a response to the same transaction. -/
def Reaction.First (r : Reaction) (transactionId : UInt32) : Prop :=
  ∀ g ∈ r.noise, ¬ AnswersTo transactionId g

variable {platform : Platform}

/-- What an exchange returns for a response, by its code and its contents. -/
def judge (parse : Bytes → Except Failure α) (transactionId : UInt32) (body : ResponseBody) :
    Except Failure α :=
  match checkResponseError ⟨.responseBlock, transactionId, body.1⟩ with
  | .ok _ => parse body.1
  | .error e => .error (.error e)

lemma awaitResponse_first {r : Reaction} {transactionId : UInt32} (first : r.First transactionId)
    (ds : List Delivery) :
    awaitResponse transactionId ((r.frames transactionId).map .frame ++ ds) =
      (do
        ofExcept (checkResponseError (r.response transactionId).packet)
        return (r.response transactionId).packet : Waits PtpIpPacket) ds := by
  have hpick : await (answering transactionId) ((r.frames transactionId).map .frame ++ ds) =
      .ok (r.response transactionId) ds := by
    rw [Reaction.frames, List.map_append, List.append_assoc]
    exact await_first (fun g hg => if_neg (first g hg)) (if_pos ⟨rfl, rfl⟩)
  rw [awaitResponse, bind_ok hpick]

/-- What an exchange does once its wait is over. -/
lemma exchange_waited {opcode : PtpOperationCode} {parameters : Bytes}
    {parse : Bytes → Except Failure α} {ids : Nat → UInt32} {ds ds' : List Delivery}
    {sent : List PtpIpPacket} {p : PtpIpPacket} {check : Except PtpIpError Unit}
    (wait : awaitResponse (ids 0) ds = (do ofExcept check; return p : Waits PtpIpPacket) ds') :
    Line.exchange opcode parameters parse ⟨ds, sent, ids⟩ =
      (do
        returning (ofExcept check)
        ofExcept (parse p.payload) : EStateM Failure Line α)
        ⟨ds', sent ++ [command opcode (ids 0) parameters], fun n => ids (n + 1)⟩ := by
  have hid : returning Line.nextId ⟨ds, sent, ids⟩ =
      .ok (ids 0) ⟨ds, sent, fun n => ids (n + 1)⟩ := rfl
  have hsend : Line.send (command opcode (ids 0) parameters) ⟨ds, sent, fun n => ids (n + 1)⟩ =
      .ok () ⟨ds, sent ++ [command opcode (ids 0) parameters], fun n => ids (n + 1)⟩ := rfl
  have hrequest : ∀ r : Result PtpIpError (List Delivery) PtpIpPacket,
      awaitResponse (ids 0) ds = r → (do
        Line.send (command opcode (ids 0) parameters)
        Line.deliveriesPart.run (awaitResponse (ids 0)) : EStateM PtpIpError Line PtpIpPacket)
        ⟨ds, sent, fun n => ids (n + 1)⟩ =
      Line.deliveriesPart.lift ⟨ds, sent ++ [command opcode (ids 0) parameters],
        fun n => ids (n + 1)⟩ r := by
    rintro r rfl
    exact bind_ok hsend
  rw [Line.exchange, bind_ok hid]
  cases check with
  | ok _ =>
    have hreturning : returning (do
        Line.send (command opcode (ids 0) parameters)
        Line.deliveriesPart.run (awaitResponse (ids 0))) ⟨ds, sent, fun n => ids (n + 1)⟩ =
          .ok p ⟨ds', sent ++ [command opcode (ids 0) parameters], fun n => ids (n + 1)⟩ := by
      simp only [returning, EStateM.adaptExcept, hrequest _ wait]
      rfl
    rw [bind_ok hreturning]
    rfl
  | error e =>
    have hreturning : returning (do
        Line.send (command opcode (ids 0) parameters)
        Line.deliveriesPart.run (awaitResponse (ids 0))) ⟨ds, sent, fun n => ids (n + 1)⟩ =
          .error (.error e)
            ⟨ds', sent ++ [command opcode (ids 0) parameters], fun n => ids (n + 1)⟩ := by
      simp only [returning, EStateM.adaptExcept, hrequest _ wait]
      rfl
    rw [bind_error hreturning]
    rfl

/-- An exchange is over with its response, and that response alone decides. -/
lemma exchange_reacts (opcode : PtpOperationCode) (parameters : Bytes)
    (parse : Bytes → Except Failure α) {r : Reaction} (ids : Nat → UInt32) (first : r.First (ids 0))
    (ds : List Delivery) (sent : List PtpIpPacket) :
    Line.exchange opcode parameters parse
        ⟨(r.frames (ids 0)).map .frame ++ ds, sent, ids⟩ =
      (ofExcept (judge parse (ids 0) r.body) : EStateM Failure Line α)
        ⟨ds, sent ++ [command opcode (ids 0) parameters], fun n => ids (n + 1)⟩ := by
  rw [exchange_waited (awaitResponse_first first ds), judge]
  have hpacket : (r.response (ids 0)).packet = ⟨.responseBlock, ids 0, r.body.1⟩ := rfl
  rw [hpacket]
  cases checkResponseError ⟨.responseBlock, ids 0, r.body.1⟩ <;> rfl

/-- The messages of a conversation: the reactions to its operations, each under the next id. -/
def messages (ids : Nat → UInt32) : List (Operation × Reaction) → List Frame
  | [] => []
  | (_, r) :: rest => r.frames (ids 0) ++ messages (fun n => ids (n + 1)) rest

/-- The commands of operations, each under the next id. -/
def commands (sessionId : UInt32) (ids : Nat → UInt32) : List Operation → List PtpIpPacket
  | [] => []
  | op :: ops => command op.opcode (ids 0) (op.parameters sessionId) ::
      commands sessionId (fun n => ids (n + 1)) ops

def replies (platform : Platform) (ids : Nat → UInt32) :
    List (Operation × Reaction) → List (Except Failure Reply)
  | [] => []
  | (op, r) :: rest => judge (fun payload => op.parse platform payload) (ids 0) r.body ::
      replies platform (fun n => ids (n + 1)) rest

/-- Each reaction holds the first response to its operation's transaction. -/
def AllFirst (ids : Nat → UInt32) : List (Operation × Reaction) → Prop
  | [] => True
  | (_, r) :: rest => r.First (ids 0) ∧ AllFirst (fun n => ids (n + 1)) rest

lemma performedAll_reacts (sessionId : UInt32) {steps : List (Operation × Reaction)}
    {ids : Nat → UInt32} (first : AllFirst ids steps) (ds : List Delivery)
    (sent : List PtpIpPacket) :
    performedAll platform sessionId (steps.map Prod.fst)
        ⟨(messages ids steps).map .frame ++ ds, sent, ids⟩ =
      .ok (replies platform ids steps)
        ⟨ds, sent ++ commands sessionId ids (steps.map Prod.fst),
          fun n => ids (n + steps.length)⟩ := by
  induction steps generalizing ids sent with
  | nil =>
    rw [messages, List.map_nil, commands, List.append_nil]
    rfl
  | cons step rest ih =>
    obtain ⟨op, r⟩ := step
    obtain ⟨first, later⟩ := first
    have hstep : attempt (op.performed platform sessionId)
        ⟨(messages ids ((op, r) :: rest)).map .frame ++ ds, sent, ids⟩ =
          .ok (judge (fun payload => op.parse platform payload) (ids 0) r.body)
            ⟨(messages (fun n => ids (n + 1)) rest).map .frame ++ ds,
              sent ++ [command op.opcode (ids 0) (op.parameters sessionId)],
              fun n => ids (n + 1)⟩ := by
      rw [messages, List.map_append, List.append_assoc, Effects.attempt, Operation.performed,
        exchange_reacts _ _ _ ids first]
      cases judge (fun payload => op.parse platform payload) (ids 0) r.body <;> rfl
    rw [List.map_cons, performedAll, bind_ok hstep, bind_ok (ih later _), commands,
      List.append_assoc]
    rfl

lemma connect_reacts {opening : Reaction} {ids : Nat → UInt32} (first : opening.First (ids 1))
    (opened : checkResponseError ⟨.responseBlock, ids 1, opening.body.1⟩ = .ok ())
    (ds : List Delivery) (sent : List PtpIpPacket) :
    Line.connect ⟨(opening.frames (ids 1)).map .frame ++ ds, sent, ids⟩ =
      .ok (ids 0) ⟨ds, sent ++ [command .openSession (ids 1) (bigEndian 4 (ids 0).toNat)],
        fun n => ids (n + 2)⟩ := by
  have hid : returning Line.nextId ⟨(opening.frames (ids 1)).map .frame ++ ds, sent, ids⟩ =
      .ok (ids 0) ⟨(opening.frames (ids 1)).map .frame ++ ds, sent, fun n => ids (n + 1)⟩ := rfl
  have hexchange := exchange_reacts .openSession (bigEndian 4 (ids 0).toNat) ignored
    (fun n => ids (n + 1)) first ds sent
  rw [judge, opened] at hexchange
  rw [Line.connect, bind_ok hid, bind_ok hexchange]
  rfl

/-- An object that the camera does not know, and an end of the session behind a late response. -/
private def shortTalk : List (Operation × Reaction) :=
  [(.deleteObject 5, ⟨[⟨0, 9, .response accepted⟩], 0, unknownHandle⟩),
    (.close, ⟨[⟨0, 2, .response accepted⟩], 0, accepted⟩)]

private def talking : Connection where
  incoming := ⟨arrived (wires (Reaction.frames ⟨[], 0, accepted⟩ 1 ++
    messages (fun n => UInt32.ofNat (n + 2)) shortTalk)) ++ stream [], fun _ _ => 0⟩
  outgoing := ⟨[], []⟩
  transactionIds n := UInt32.ofNat n

end reactions

end Conversations
