import PtpipCore.Lib.Text

/-!
# Packets, errors and configurations

The enumerations carry their wire codes; an error carries the data its source
variant carries, texts included.
-/

namespace Types

open Effects ByteStream

inductive PtpIpMessageType where
  | discoveryRequest
  | discoveryResponse
  | commandBlock
  | dataBlock
  | responseBlock
  | eventBlock
  deriving DecidableEq, Repr

def PtpIpMessageType.code : PtpIpMessageType → UInt16
  | discoveryRequest => 0x0001
  | discoveryResponse => 0x0002
  | commandBlock => 0x0003
  | dataBlock => 0x0004
  | responseBlock => 0x0005
  | eventBlock => 0x0006

lemma PtpIpMessageType.code_injective : Function.Injective code := by
  intro t u h
  cases t <;> cases u <;> first | rfl | exact absurd h (by decide)

inductive PtpOperationCode where
  | ok
  | getDeviceInfo
  | openSession
  | closeSession
  | getStorageIDs
  | getStorageInfo
  | getObjectHandles
  | getObjectInfo
  | getObject
  | getThumb
  | deleteObject
  | moveObject
  | getDevicePropValue
  | setDevicePropValue
  | initiateCapture
  | getPartialObject
  | getObjectMetadata
  | setObjectMetadata
  deriving DecidableEq, Repr

def PtpOperationCode.code : PtpOperationCode → UInt16
  | ok => 0x2001
  | getDeviceInfo => 0x1001
  | openSession => 0x1002
  | closeSession => 0x1003
  | getStorageIDs => 0x1004
  | getStorageInfo => 0x1005
  | getObjectHandles => 0x1006
  | getObjectInfo => 0x1007
  | getObject => 0x1008
  | getThumb => 0x1009
  | deleteObject => 0x1011
  | moveObject => 0x1012
  | getDevicePropValue => 0x1014
  | setDevicePropValue => 0x1015
  | initiateCapture => 0x100E
  | getPartialObject => 0x101B
  | getObjectMetadata => 0x1023
  | setObjectMetadata => 0x1024

structure PtpIpPacket where
  messageType : PtpIpMessageType
  transactionId : UInt32
  payload : Bytes
  deriving DecidableEq, Repr

inductive PtpIpError where
  | io (kind : ErrorKind)
  | protocolError (message : String)
  | deviceError (code : UInt32) (message : String)
  | stringEncoding (bytes : Bytes)
  | invalidResumeData
  | timeout
  | other (message : String)
  deriving DecidableEq, Repr

/-- How the standard library describes an error that is only a kind. -/
def describe : ErrorKind → String
  | .notFound => "entity not found"
  | .unexpectedEof => "unexpected end of file"
  | .invalidData => "invalid data"
  | .wouldBlock => "operation would block"
  | .timedOut => "timed out"
  | .other => "other error"

/-- `{:04X}` -/
def hex4 (n : Nat) : String :=
  let digits := (Nat.toDigits 16 n).map Char.toUpper
  String.ofList (List.replicate (4 - digits.length) '0' ++ digits)

/-- Only the kind `TimedOut` becomes a timeout of the library. -/
def PtpIpError.ofIo (err : ErrorKind) : PtpIpError :=
  if err = .timedOut then .timeout else .io err

instance : FromIo PtpIpError := ⟨PtpIpError.ofIo⟩

def PtpIpError.display : PtpIpError → String
  | io kind => "IO error: " ++ describe kind
  | protocolError message => "Protocol error: " ++ message
  | deviceError code message =>
    "Device error (0x" ++ hex4 code.toNat ++ "): " ++ message
  | stringEncoding bytes => "String encoding error: " ++ Text.describeUtf8Error bytes
  | invalidResumeData => "Invalid resume data"
  | timeout => "Operation timed out"
  | other message => "Error: " ++ message

/-- Timeouts are in seconds; a repeated operation is tried `maxRetries` times more. -/
structure SessionConfig where
  timeout : Nat
  maxRetries : Nat
  deriving DecidableEq, Repr

structure DownloadStats where
  totalBytes : UInt64
  downloadedBytes : UInt64
  chunks : Nat
  retries : Nat
  deriving DecidableEq, Repr

/-- `DownloadStats::default()` with the size that the object info gave. -/
def DownloadStats.start (totalBytes : UInt64) : DownloadStats :=
  ⟨totalBytes, 0, 0, 0⟩

structure DeviceInfo where
  manufacturer : List Char
  model : List Char
  deviceVersion : List Char
  serialNumber : List Char
  supportedOperations : List UInt16
  deriving DecidableEq, Repr

structure StorageInfo where
  storageId : UInt32
  storageType : UInt16
  filesystemType : UInt16
  accessCapability : UInt16
  maxCapacity : UInt64
  freeSpaceInBytes : UInt64
  freeSpaceInObjects : UInt32
  storageDescription : List Char
  volumeLabel : List Char
  deriving DecidableEq, Repr

structure ObjectInfo where
  handle : UInt32
  storageId : UInt32
  objectFormat : UInt16
  protectionStatus : UInt8
  objectSize : UInt64
  thumbSize : UInt32
  filename : List Char
  captureDate : List Char
  modificationDate : List Char
  keywords : List Char
  deriving DecidableEq, Repr

inductive EventType where
  | objectAdded
  | objectRemoved
  | storeAdded
  | storeRemoved
  | devicePropChanged
  | requestObjectTransfer
  deriving DecidableEq, Repr

def EventType.code : EventType → UInt16
  | objectAdded => 0x4001
  | objectRemoved => 0x4002
  | storeAdded => 0x4003
  | storeRemoved => 0x4004
  | devicePropChanged => 0x4005
  | requestObjectTransfer => 0x4006

structure PtpEvent where
  eventType : EventType
  transactionId : UInt32
  parameters : List UInt32
  deriving DecidableEq, Repr

end Types
