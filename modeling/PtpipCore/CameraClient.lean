import PtpipCore.PartialObject
import PtpipCore.Responses

/-!
# The operations of the camera client

Every operation is one exchange: a command with parameters serialised by hand
goes out, the response of its transaction comes in and its payload is parsed.
The connection is there already; dialling and the listener thread are not part
of these operations.
-/

namespace CameraClient

open Effects ByteStream Types Transport Commands PartialObject Responses
open EStateM (Result)
open Resume (Platform)

variable {σ α : Type}

/-- A step that can only fail with an error, among steps that can panic. -/
def returning (m : EStateM PtpIpError σ α) : EStateM Failure σ α := m.adaptExcept .error

/-- A command goes out under a transaction id, and its response comes in. -/
def request (config : SessionConfig) (opcode : PtpOperationCode) (transactionId : UInt32)
    (parameters : Bytes) : EStateM PtpIpError Connection PtpIpPacket := do
  Connection.outgoingPart.run (sendCommand opcode.code transactionId parameters config)
  Connection.incomingPart.run (getResponse transactionId config)

/-- A request under a new transaction id, with the payload of its response parsed. -/
def exchange (config : SessionConfig) (opcode : PtpOperationCode) (parameters : Bytes)
    (parse : Bytes → Except Failure α) : EStateM Failure Connection α := do
  let transactionId ← returning generateTransactionId
  let response ← returning (request config opcode transactionId parameters)
  ofExcept (parse response.payload)

/-- A command that goes out and a response that parses make an exchange that returns. -/
lemma exchange_ok {config : SessionConfig} {opcode : PtpOperationCode} {parameters : Bytes}
    {parse : Bytes → Except Failure α} {c : Connection} {sink : Sink} {packet : PtpIpPacket}
    {incoming : Incoming} {a : α}
    (sends : sendCommand opcode.code (c.transactionIds 0) parameters config c.outgoing =
      .ok () sink)
    (receives : getResponse (c.transactionIds 0) config c.incoming = .ok packet incoming)
    (parses : parse packet.payload = .ok a) :
    exchange config opcode parameters parse c =
      .ok a ⟨incoming, sink, fun n => c.transactionIds (n + 1)⟩ := by
  have hid : returning generateTransactionId c = .ok (c.transactionIds 0)
      ⟨c.incoming, c.outgoing, fun n => c.transactionIds (n + 1)⟩ := rfl
  have hsend : Connection.outgoingPart.run
      (sendCommand opcode.code (c.transactionIds 0) parameters config)
      ⟨c.incoming, c.outgoing, fun n => c.transactionIds (n + 1)⟩ =
        .ok () ⟨c.incoming, sink, fun n => c.transactionIds (n + 1)⟩ :=
    Connection.outgoingPart.run_ok sends
  have hrequest : request config opcode (c.transactionIds 0) parameters
      ⟨c.incoming, c.outgoing, fun n => c.transactionIds (n + 1)⟩ =
        .ok packet ⟨incoming, sink, fun n => c.transactionIds (n + 1)⟩ :=
    (bind_ok hsend).trans (Connection.incomingPart.run_ok receives)
  have hreturning : returning (request config opcode (c.transactionIds 0) parameters)
      ⟨c.incoming, c.outgoing, fun n => c.transactionIds (n + 1)⟩ =
        .ok packet ⟨incoming, sink, fun n => c.transactionIds (n + 1)⟩ := by
    simp only [returning, EStateM.adaptExcept, hrequest]
  rw [exchange, bind_ok hid, bind_ok hreturning, parses]
  rfl

/-- Only the arrival of a positive response counts. -/
def ignored (_ : Bytes) : Except Failure Unit := .ok ()

section operations

variable (platform : Platform) (config : SessionConfig)

/-- The session id comes from the generator of transaction ids. -/
def connect : EStateM Failure Connection UInt32 := do
  let sessionId ← returning generateTransactionId
  exchange config .openSession (bigEndian 4 sessionId.toNat) ignored
  return sessionId

def getDeviceInfo : EStateM Failure Connection DeviceInfo :=
  exchange config .getDeviceInfo [] (parseDeviceInfo platform)

def getStorageIds : EStateM Failure Connection (List UInt32) :=
  exchange config .getStorageIDs [] parseStorageIds

def getStorageInfo (storageId : UInt32) : EStateM Failure Connection StorageInfo :=
  exchange config .getStorageInfo (bigEndian 4 storageId.toNat) (parseStorageInfo platform)

/-- storage id(4) + format(2) + reserved(2) + start index(4) + maximum(4) -/
def objectHandlesParams (storageId : UInt32) (objectFormat : UInt16) (maxCount : UInt32) :
    Bytes :=
  bigEndian 4 storageId.toNat ++ bigEndian 2 objectFormat.toNat ++ bigEndian 2 0 ++
    bigEndian 4 0 ++ bigEndian 4 maxCount.toNat

def getObjectHandles (storageId : UInt32) (objectFormat : UInt16) (maxCount : UInt32) :
    EStateM Failure Connection (List UInt32) :=
  exchange config .getObjectHandles (objectHandlesParams storageId objectFormat maxCount)
    parseObjectHandles

def getObjectInfo (objectHandle : UInt32) : EStateM Failure Connection ObjectInfo :=
  exchange config .getObjectInfo (bigEndian 4 objectHandle.toNat)
    (parseObjectInfo platform objectHandle)

/-- storage id(4) + format(2) + reserved(2) -/
def captureParams (storageId : UInt32) (format : UInt16) : Bytes :=
  bigEndian 4 storageId.toNat ++ bigEndian 2 format.toNat ++ bigEndian 2 0

def initiateCapture (storageId : UInt32) (format : UInt16) :
    EStateM Failure Connection UInt32 :=
  exchange config .initiateCapture (captureParams storageId format) parseCapture

def deleteObject (objectHandle : UInt32) : EStateM Failure Connection Unit :=
  exchange config .deleteObject (bigEndian 4 objectHandle.toNat) ignored

def close (sessionId : UInt32) : EStateM Failure Connection Unit :=
  exchange config .closeSession (bigEndian 4 sessionId.toNat) ignored

end operations

end CameraClient
