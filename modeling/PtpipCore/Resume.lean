import PtpipCore.Types
import PtpipCore.Lib.FileActions

/-!
# The temporary file and the resume record

A download writes to a file beside its target and keeps the number of bytes
written in a second one. On the next attempt the three files decide where it
goes on. Sizes are cast to the platform's `usize` as in the code.
-/

namespace Resume

open Effects ByteStream CrashActions FileActions Text Types
open EStateM (Result)
open Function (update)

/-- The width of `usize`. -/
structure Platform where
  usizeBits : Nat
  narrow : usizeBits ≤ 64

def Platform.bits64 : Platform := ⟨64, Nat.le_refl 64⟩

def Platform.bits32 : Platform := ⟨32, by decide⟩

/-- `as usize` -/
def Platform.asUsize (platform : Platform) (n : Nat) : Nat := n % 2 ^ platform.usizeBits

lemma Platform.asUsize_of_lt {platform : Platform} {n : Nat} (fits : n < 2 ^ platform.usizeBits) :
    platform.asUsize n = n := Nat.mod_eq_of_lt fits

/-- A path ends in a file name, unless it ends in `..` or is a root. -/
structure Path where
  parent : Bytes
  fileName : Option Bytes
  deriving DecidableEq, Repr

def Path.setFileName (path : Path) (name : Bytes) : Path := { path with fileName := some name }

/-- `format!(".{}.suffix", name)`, where the name need not be valid text. -/
def dotted (name : Bytes) (suffix : String) : Bytes :=
  encodeUtf8 ".".toList ++ toStringLossy name ++ encodeUtf8 suffix.toList

/-- The path beside the target with the dotted name, or with a fixed one. -/
def sibling (savePath : Path) (suffix fallback : String) : Path :=
  savePath.setFileName ((savePath.fileName.map (dotted · suffix)).getD
    (encodeUtf8 fallback.toList))

def getTempPath (savePath : Path) : Path := sibling savePath ".download" ".download.tmp"

def getResumePath (savePath : Path) : Path := sibling savePath ".resume" ".resume"

abbrev Files := Action (FileSystem Path) PtpIpError

def saveResumeState (savePath : Path) (offset : Nat) : Files Unit :=
  write (getResumePath savePath) (decimal offset)

/-- How operations on files are carried out, a test whether a path exists, and what cannot go
wrong. -/
structure Disk (M : Type → Type) where
  operation {α : Type} : Files α → M α
  pathExists : Path → M Bool
  sure {α : Type} : Files α → M α

/-- An operation fails only where the file system refuses it. -/
def Disk.plain : Disk Files where
  operation m := m
  pathExists path := FileActions.pathExists path
  sure m := m

section checking

variable {M : Type → Type} [Monad M] (disk : Disk M)
variable (platform : Platform) (savePath : Path) (totalSize : Nat)

/-- `resume_data.trim().parse()` -/
def parseOffset (resumeData : List Char) : Files Nat :=
  match parseUnsigned platform.usizeBits (trim resumeData) with
  | some offset => pure offset
  | none => .fail .invalidResumeData

/-- Target file exists and is complete. -/
def Disk.targetComplete : M Bool := do
  if ← disk.pathExists savePath then
    let len ← disk.operation (metadataLen savePath)
    return platform.asUsize len.toNat == totalSize
  else
    return false

/-- Both the record and the temporary file are there. -/
def Disk.checkRecord : M (Nat × File Path) := do
  let resumeData ← disk.operation (readToString (getResumePath savePath))
  let currentOffset ← disk.sure (parseOffset platform resumeData)
  let len ← disk.operation (metadataLen (getTempPath savePath))
  if platform.asUsize len.toNat ≠ currentOffset then
    -- record mismatch, restarting
    disk.operation (removeFile (getResumePath savePath))
    disk.operation (removeFile (getTempPath savePath))
    let file ← disk.operation (create (getTempPath savePath))
    return (0, file)
  else if currentOffset ≥ totalSize then
    disk.operation (rename (getTempPath savePath) savePath)
    disk.operation (removeFile (getResumePath savePath))
    let file ← disk.operation (openRead savePath)
    return (totalSize, file)
  else
    let file ← disk.operation (openAppend (getTempPath savePath))
    return (currentOffset, file)

/-- Start from beginning. -/
def Disk.startOver : M (Nat × File Path) := do
  if ← disk.pathExists (getTempPath savePath) then
    disk.operation (removeFile (getTempPath savePath))
  let file ← disk.operation (create (getTempPath savePath))
  return (0, file)

def Disk.checkResumeState : M (Nat × File Path) := do
  if ← disk.targetComplete platform savePath totalSize then
    let file ← disk.operation (openRead savePath)
    return (totalSize, file)
  else
    let hasRecord ← disk.pathExists (getResumePath savePath)
    let hasTemp ← disk.pathExists (getTempPath savePath)
    if hasRecord && hasTemp then
      disk.checkRecord platform savePath totalSize
    else
      disk.startOver savePath

def targetComplete : Files Bool := Disk.plain.targetComplete platform savePath totalSize

def checkRecord : Files (Nat × File Path) := Disk.plain.checkRecord platform savePath totalSize

def startOver : Files (Nat × File Path) := Disk.plain.startOver savePath

def checkResumeState : Files (Nat × File Path) :=
  Disk.plain.checkResumeState platform savePath totalSize

end checking

section paths

variable (savePath : Path)

lemma dotted_length (name : Bytes) (suffix : String) :
    (dotted name suffix).length =
      1 + (toStringLossy name).length + (encodeUtf8 suffix.toList).length := by
  simp only [dotted, List.length_append]
  rfl

lemma sibling_ne (suffix fallback : String) : sibling savePath suffix fallback ≠ savePath := by
  obtain ⟨parent, fileName⟩ := savePath
  intro h
  have hname := congrArg Path.fileName h
  cases fileName with
  | none => cases hname
  | some name =>
    have hlen := congrArg List.length (Option.some.inj hname)
    have := toStringLossy_length name
    simp only [Option.map_some, Option.getD_some, dotted_length] at hlen
    omega

@[simp] lemma getTempPath_ne : getTempPath savePath ≠ savePath := sibling_ne savePath _ _

@[simp] lemma getResumePath_ne : getResumePath savePath ≠ savePath := sibling_ne savePath _ _

@[simp] lemma getTempPath_ne_getResumePath : getTempPath savePath ≠ getResumePath savePath := by
  obtain ⟨parent, fileName⟩ := savePath
  intro h
  have hname := Option.some.inj (congrArg Path.fileName h)
  cases fileName with
  | none =>
    have hfallback : encodeUtf8 ".download.tmp".toList = encodeUtf8 ".resume".toList := hname
    exact absurd hfallback (by decide)
  | some name =>
    have hlen := congrArg List.length hname
    have htemp : (encodeUtf8 ".download".toList).length = 9 := by decide
    have hresume : (encodeUtf8 ".resume".toList).length = 7 := by decide
    simp only [Option.map_some, Option.getD_some, dotted_length, htemp, hresume] at hlen
    omega

end paths

end Resume
