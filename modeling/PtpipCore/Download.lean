import PtpipCore.ResumePlan

/-!
# Chunked download

The loop asks for one chunk after the other, appends it to the temporary file
and saves the resume point; the target appears at the end by a rename. How a
chunk is asked for is a parameter: any transfer on any state of the network.
-/

namespace Download

open Effects ByteStream CrashActions FileActions Types Resume ResumePlan
open EStateM (Result)

/-- The progress checkpoints, a table in floating point, are taken as they come out. -/
structure ChunkDownloadConfig where
  chunkSize : Nat
  minChunkSize : Nat
  progressCheckpoints : UInt64 → List Nat

/-- Chunks of a mebibyte; the checkpoints are at every five percent. -/
def ChunkDownloadConfig.default (progressCheckpoints : UInt64 → List Nat) : ChunkDownloadConfig :=
  ⟨1024 * 1024, 1024 * 64, progressCheckpoints⟩

/-- `accepted` is not part of the program: it records the offset and the length of every
chunk that was written. -/
structure World (ν : Type) where
  files : FileSystem Path
  net : ν
  stats : DownloadStats
  progress : List (Nat × Nat × Bool × DownloadStats)
  accepted : List (Nat × Nat)

/-- How a download begins: nothing has been counted yet. -/
def World.start {ν : Type} (files : FileSystem Path) (net : ν) (totalBytes : UInt64) : World ν :=
  ⟨files, net, DownloadStats.start totalBytes, [], []⟩

abbrev Step (ν : Type) := Action (World ν) PtpIpError

/-- The arguments of a download, and what it runs on. -/
structure Job (ν : Type) where
  platform : Platform
  getPartialObject : UInt32 → UInt64 → UInt32 → EStateM PtpIpError ν Bytes
  objectHandle : UInt32
  savePath : Path
  sessionConfig : SessionConfig
  downloadConfig : ChunkDownloadConfig

variable {ν : Type}

def World.setFiles (w : World ν) (fs : FileSystem Path) : World ν := { w with files := fs }

def World.filesPart : Part (World ν) (FileSystem Path) where
  get w := w.files
  set fs w := w.setFiles fs
  set_get _ := rfl

def onFiles {α : Type} (m : Files α) : Step ν α := m.within World.filesPart

/-- What a chunk request changes: the network, and the count of retries. -/
def World.asked (w : World ν) (net : ν) (retries : Nat) : World ν :=
  { w with net := net, stats := { w.stats with retries := retries } }

/-- `left` retries remain. -/
def downloadRetrying (ask : EStateM PtpIpError ν Bytes) :
    Nat → EStateM PtpIpError (World ν) Bytes
  | 0, w =>
    match ask w.net with
    | .ok data net => .ok data (w.asked net w.stats.retries)
    | .error e net => .error e (w.asked net (w.stats.retries + 1))
  | left + 1, w =>
    match ask w.net with
    | .ok data net => .ok data (w.asked net w.stats.retries)
    | .error _ net => downloadRetrying ask left (w.asked net (w.stats.retries + 1))

namespace Job

variable (job : Job ν) (totalSize : Nat)

def downloadWithRetry (offset : UInt64) (length : UInt32) :
    EStateM PtpIpError (World ν) Bytes :=
  downloadRetrying (job.getPartialObject job.objectHandle offset length)
    job.sessionConfig.maxRetries

/-- The size of the chunk at an offset. -/
def nextChunk (currentOffset : Nat) : Nat :=
  let remaining := totalSize - currentOffset
  min (if remaining < job.downloadConfig.minChunkSize then remaining
    else job.downloadConfig.chunkSize) remaining

/-- The variables of the main loop. -/
structure Cursor where
  currentOffset : Nat
  file : File Path
  lastReportedProgress : Nat

/-- The chunk at the offset has been written. -/
def countChunk (currentOffset chunkSize : Nat) : Step ν Unit :=
  .atomic fun w => .ok () { w with
    stats := { w.stats with
      downloadedBytes := UInt64.ofNat (currentOffset + chunkSize)
      chunks := w.stats.chunks + 1 }
    accepted := w.accepted ++ [(currentOffset, chunkSize)] }

def reportProgress (currentOffset lastReportedProgress : Nat) : Step ν Nat :=
  .atomic fun w =>
    match (job.downloadConfig.progressCheckpoints w.stats.totalBytes).find?
      (fun p => p > lastReportedProgress && currentOffset ≥ p) with
    | some nextCheckpoint => .ok nextCheckpoint
        { w with progress := w.progress ++ [(currentOffset, totalSize, false, w.stats)] }
    | none => .ok lastReportedProgress w

/-- How the steps of a download are carried out: those on files by a disk, the others as they
are. -/
structure Drive (ν : Type) (F M : Type → Type) where
  disk : Disk F
  onFiles {α : Type} : F α → M α
  sure {α : Type} : Step ν α → M α
  attempt {α : Type} : M α → M (Except PtpIpError α)

def Drive.plain : Drive ν Files (Step ν) where
  disk := Disk.plain
  onFiles m := Download.onFiles m
  sure m := m
  attempt m := m.attempt

section driven

variable {F M : Type → Type} (drive : Drive ν F M)

def Drive.operation {α : Type} (m : Files α) : M α := drive.onFiles (drive.disk.operation m)

variable [Monad F] [Monad M]

/-- One turn of the main loop. -/
def Drive.downloadChunk (cur : Cursor) : M Cursor := do
  let chunkSize := job.nextChunk totalSize cur.currentOffset
  let data ← drive.sure (.atomic (job.downloadWithRetry (UInt64.ofNat cur.currentOffset)
    (UInt32.ofNat chunkSize)))
  if data.length ≠ chunkSize then
    drive.operation (saveResumeState job.savePath cur.currentOffset)
    drive.sure (.fail (.protocolError ("Incomplete chunk data: expected " ++ toString chunkSize ++
      " bytes, received " ++ toString data.length ++ " bytes")))
  else
    let file ← drive.operation (cur.file.writeAll data)
    let currentOffset := cur.currentOffset + chunkSize
    drive.sure (countChunk cur.currentOffset chunkSize)
    let lastReportedProgress ←
      drive.sure (job.reportProgress totalSize currentOffset cur.lastReportedProgress)
    drive.operation (saveResumeState job.savePath currentOffset)
    return ⟨currentOffset, file, lastReportedProgress⟩

/-- The main loop, for so many turns at most; `none` when they do not suffice. -/
def Drive.downloadLoop : Nat → Cursor → M (Option Cursor)
  | 0, _ => return none
  | turns + 1, cur =>
    if cur.currentOffset < totalSize then do
      let cur ← drive.downloadChunk job totalSize cur
      Drive.downloadLoop turns cur
    else return some cur

/-- Flushing and closing an unbuffered file changes nothing. -/
def Drive.finish : M Unit := do
  drive.operation (rename (getTempPath job.savePath) job.savePath)
  let _ ← drive.attempt (drive.operation (removeFile (getResumePath job.savePath)))
  drive.sure (.atomic fun w => .ok ()
    { w with progress := w.progress ++ [(totalSize, totalSize, true, w.stats)] })

/-- What follows the check: the main loop, for so many turns, and the end; `none` when the
turns do not suffice. -/
def Drive.transfer (turns currentOffset : Nat) (file : File Path) : M (Option Unit) := do
  drive.sure (.atomic fun w => .ok ()
    { w with stats := { w.stats with downloadedBytes := UInt64.ofNat currentOffset } })
  match ← drive.downloadLoop job totalSize turns ⟨currentOffset, file, 0⟩ with
  | none => return none
  | some _ => do
    drive.finish job totalSize
    return some ()

def Drive.downloadObjectWithResume (turns : Nat) : M (Option Unit) := do
  let totalBytes ← drive.sure (.atomic fun w => .ok w.stats.totalBytes w)
  let totalSize := job.platform.asUsize totalBytes.toNat
  let (currentOffset, file) ←
    drive.onFiles (drive.disk.checkResumeState job.platform job.savePath totalSize)
  drive.transfer job totalSize turns currentOffset file

end driven

def downloadChunk (cur : Cursor) : Step ν Cursor := Drive.plain.downloadChunk job totalSize cur

def downloadLoop (turns : Nat) (cur : Cursor) : Step ν (Option Cursor) :=
  Drive.plain.downloadLoop job totalSize turns cur

def finish : Step ν Unit := Drive.plain.finish job totalSize

def transfer (turns currentOffset : Nat) (file : File Path) : Step ν (Option Unit) :=
  Drive.plain.transfer job totalSize turns currentOffset file

def downloadObjectWithResume (turns : Nat) : Step ν (Option Unit) :=
  Drive.plain.downloadObjectWithResume job turns

lemma downloadLoop_succ (turns : Nat) (cur : Cursor) :
    job.downloadLoop totalSize (turns + 1) cur =
      if cur.currentOffset < totalSize then
        job.downloadChunk totalSize cur >>= job.downloadLoop totalSize turns
      else return some cur := rfl

lemma downloadObjectWithResume_eq (turns : Nat) :
    job.downloadObjectWithResume turns = (do
      let totalBytes ← .atomic fun w => .ok w.stats.totalBytes w
      let totalSize := job.platform.asUsize totalBytes.toNat
      let (currentOffset, file) ← onFiles (checkResumeState job.platform job.savePath totalSize)
      job.transfer totalSize turns currentOffset file) := rfl

end Job

end Download
