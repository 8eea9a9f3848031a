import PtpipCore.Commands
import PtpipCore.Resume

/-!
# Parsers of response payloads

A parser reads its fields off a cursor behind the eight bytes of the response
header; strings lie anywhere in the payload, given by offset and length. Sums of
the two wrap as in a release build, and a slice with its end before its start
panics.
-/

namespace Responses

open Effects ByteStream Text Types
open Resume (Platform)

/-- How a call ends that returns no value. -/
inductive Failure where
  | error (e : PtpIpError)
  | panic
  deriving DecidableEq, Repr

instance : FromIo Failure := ⟨fun kind => .error (FromIo.fromIo kind)⟩

abbrev Parser := EStateM Failure (List Arrival)

variable {α : Type}

def fail (e : PtpIpError) : Except Failure α := .error (.error e)

/-- Read from a cursor over the data, set to a position. -/
def parseAt (position : Nat) (m : Parser α) (data : Bytes) : Except Failure α :=
  answer (m (arrived (data.drop position)))

lemma parseAt_ok_iff {position : Nat} {m : Parser α} {data : Bytes} {a : α} :
    parseAt position m data = .ok a ↔ ∃ s, m (arrived (data.drop position)) = .ok a s :=
  answer_eq_ok_iff

/-- A count and so many ids. -/
def parseIdList (tooShort : String) (data : Bytes) : Except Failure (List UInt32) :=
  if data.length < 10 then
    fail (.protocolError tooShort)
  else
    data |> parseAt 8 do
      let count ← readU32Be
      repeated readU32Be count.toNat

def parseStorageIds : Bytes → Except Failure (List UInt32) :=
  parseIdList "Insufficient data for storage ID list"

def parseObjectHandles : Bytes → Except Failure (List UInt32) :=
  parseIdList "Insufficient data length for object handles"

section strings

variable (platform : Platform)

/-- Offset and length of a string, each cast to `usize`. -/
def readRange : Parser (Nat × Nat) := do
  let offset ← readU32Be
  let length ← readU32Be
  return (platform.asUsize offset.toNat, platform.asUsize length.toNat)

def extractString (data : Bytes) (range : Nat × Nat) : Except Failure (List Char) :=
  let (offset, length) := range
  let stop := platform.asUsize (offset + length)
  if stop > data.length then
    fail (.protocolError ("String extraction out of bounds: offset=" ++ toString offset ++
      ", length=" ++ toString length ++ ", data length=" ++ toString data.length))
  else if stop < offset then
    .error .panic
  else
    -- up to the first null character
    let slice := ((data.drop offset).take (stop - offset)).takeWhile (· ≠ 0)
    match decodeUtf8 slice with
    | some text => .ok text
    | none => fail (.stringEncoding slice)

def parseDeviceInfo (data : Bytes) : Except Failure DeviceInfo :=
  if data.length < 24 then
    fail (.protocolError "Insufficient data length for device info")
  else
    data |> parseAt 8 do
      let manufacturer ← readRange platform
      let model ← readRange platform
      let version ← readRange platform
      let serial ← readRange platform
      let opsCount ← readU16Be
      let supportedOperations ← repeated readU16Be opsCount.toNat
      let manufacturer ← ofExcept (extractString platform data manufacturer)
      let model ← ofExcept (extractString platform data model)
      let deviceVersion ← ofExcept (extractString platform data version)
      let serialNumber ← ofExcept (extractString platform data serial)
      return ⟨manufacturer, model, deviceVersion, serialNumber, supportedOperations⟩

def parseStorageInfo (data : Bytes) : Except Failure StorageInfo :=
  if data.length < 40 then
    fail (.protocolError "Insufficient data length for storage info")
  else
    data |> parseAt 8 do
      let storageId ← readU32Be
      let storageType ← readU16Be
      let filesystemType ← readU16Be
      let accessCapability ← readU16Be
      let maxCapacity ← readU64Be
      let freeSpaceInBytes ← readU64Be
      let freeSpaceInObjects ← readU32Be
      let desc ← readRange platform
      let label ← readRange platform
      let storageDescription ← ofExcept (extractString platform data desc)
      let volumeLabel ← ofExcept (extractString platform data label)
      return ⟨storageId, storageType, filesystemType, accessCapability, maxCapacity,
        freeSpaceInBytes, freeSpaceInObjects, storageDescription, volumeLabel⟩

def parseObjectInfo (objectHandle : UInt32) (data : Bytes) : Except Failure ObjectInfo :=
  if data.length < 64 then
    fail (.protocolError "Insufficient data length for object info")
  else
    data |> parseAt 8 do
      let storageId ← readU32Be
      let objectFormat ← readU16Be
      let protectionStatus ← readU8Be
      skip 1 -- reserved
      let objectSize ← readU64Be
      let thumbSize ← readU32Be
      let filename ← readRange platform
      let captureDate ← readRange platform
      let modificationDate ← readRange platform
      let keywords ← readRange platform
      let filename ← ofExcept (extractString platform data filename)
      let captureDate ← ofExcept (extractString platform data captureDate)
      let modificationDate ← ofExcept (extractString platform data modificationDate)
      let keywords ← ofExcept (extractString platform data keywords)
      return ⟨objectHandle, storageId, objectFormat, protectionStatus, objectSize, thumbSize,
        filename, captureDate, modificationDate, keywords⟩

end strings

/-- The handle of a new object. -/
def parseCapture (data : Bytes) : Except Failure UInt32 :=
  if data.length < 12 then
    fail (.protocolError "Insufficient data length for capture response")
  else
    data |> parseAt 8 readU32Be

end Responses
