import PtpipCore.CameraClient

/-!
# Sessions with a heartbeat

A session remembers when it was last active; an operation that finds it idle for
more than half the timeout sends a heartbeat first. The clock is part of the
state and moves while a session is idle and during an exchange.
-/

namespace Sessions

open Effects ByteStream Types Transport Commands PartialObject Responses CameraClient
open EStateM (Result)
open Resume (Platform)

/-- Times are in nanoseconds. -/
structure Session where
  connection : Connection
  sessionId : UInt32
  lastActivity : Nat
  isConnected : Bool
  now : Nat

def Session.connectionPart : Part Session Connection where
  get s := s.connection
  set connection s := { s with connection := connection }
  set_get _ := rfl

abbrev Op := EStateM Failure Session

variable {α : Type}

def updateActivity : Op Unit := fun s => .ok () { s with lastActivity := s.now }

/-- Time goes by. -/
def elapse (took : Nat) : Op Unit := fun s => .ok () { s with now := s.now + took }

/-- An exchange of the session, and how long it takes. -/
def sessionExchange (config : SessionConfig) (opcode : PtpOperationCode) (parameters : Bytes)
    (parse : Bytes → Except Failure α) (took : Nat) : Op α := do
  let a ← Session.connectionPart.run (exchange config opcode parameters parse)
  elapse took
  return a

/-- `took` is the duration of each of the two exchanges. -/
structure Pace where
  heartbeatTook : Nat
  took : Nat

section operations

variable (platform : Platform) (config : SessionConfig) (pace : Pace)

/-- The device info is requested; its contents do not matter. -/
def sendHeartbeat : Op Unit := do
  sessionExchange config .getDeviceInfo [] ignored pace.heartbeatTook
  updateActivity

/-- Half the timeout, in whole seconds. -/
def idleLimit : Nat := config.timeout / 2 * 1000000000

def checkHeartbeat : Op Unit := do
  let s ← get
  if s.isConnected ∧ s.now - s.lastActivity > idleLimit config then
    sendHeartbeat config pace

def getDeviceInfo : Op DeviceInfo := do
  checkHeartbeat config pace
  let deviceInfo ← sessionExchange config .getDeviceInfo [] (parseDeviceInfo platform) pace.took
  updateActivity
  return deviceInfo

/-- The bytes of the ids that are still to be read start here. -/
def storageIdsFrom (data : Bytes) : Nat → Nat → Except PtpIpError (List UInt32)
  | _, 0 => .ok []
  | start, left + 1 =>
    if start + 4 > data.length then
      .error (.protocolError "存储 ID 数据不完整")
    else do
      let rest ← storageIdsFrom data (start + 4) left
      return beU32 ((data.drop start).take 4) :: rest

def parseStorageIds (data : Bytes) : Except PtpIpError (List UInt32) :=
  if data.length < 2 then
    .error (.protocolError "存储 ID 列表数据长度不足")
  else
    storageIdsFrom data 2 (beU16 (data.take 2)).toNat

/-- The activity is not updated here. -/
def getStorageIds : Op (List UInt32) := do
  checkHeartbeat config pace
  sessionExchange config .getStorageIDs []
    (fun data => (parseStorageIds data).mapError .error) pace.took

def getStorageInfo (storageId : UInt32) : Op StorageInfo := do
  checkHeartbeat config pace
  let storageInfo ← sessionExchange config .getStorageInfo (bigEndian 4 storageId.toNat)
    (parseStorageInfo platform) pace.took
  updateActivity
  return storageInfo

end operations

section opening

variable (config : SessionConfig)

def decodeSessionId (payload : Bytes) : Except PtpIpError UInt32 :=
  if payload.length < 4 then
    .error (.protocolError "OpenSession 响应数据不足")
  else
    .ok (beU32 (payload.take 4))

/-- The protocol version in two bytes, four reserved bytes. -/
def openSessionParams (version : UInt16) : Bytes := bigEndian 2 version.toNat ++ bigEndian 4 0

/-- The version is a field of the configuration in the source. -/
def sendOpenSession (transactionId : UInt32) (version : UInt16) :
    EStateM PtpIpError Connection UInt32 := do
  let response ← request config .openSession transactionId (openSessionParams version)
  ofExcept (decodeSessionId response.payload)

def sendCloseSession (transactionId sessionId : UInt32) : EStateM PtpIpError Connection Unit := do
  let _ ← request config .closeSession transactionId (bigEndian 4 sessionId.toNat)
  return ()

/-- A session is opened under a new transaction id and is active when it is. -/
def connect (version : UInt16) (openedAt : Nat) (c : Connection) : Except PtpIpError Session :=
  match (generateTransactionId >>= (sendOpenSession config · version)) c with
  | .ok sessionId c => .ok ⟨c, sessionId, openedAt, true, openedAt⟩
  | .error e _ => .error e

end opening

end Sessions
