import PtpipCore.DownloadRun
import PtpipCore.Lib.Milestones

/-!
# The turns of the main loop

A turn is given up when its chunk is refused, has the wrong length or cannot be
written; otherwise it moves the offset on by the length it asked for. A run of the
loop is the list of the chunks that its turns accepted.
-/

namespace DownloadTurns

open Effects ByteStream CrashActions FileActions Text Types Resume Download DownloadRun
open Download.Job
open EStateM (Result)
open Function (update)

variable {ν : Type}

section turn

variable (job : Job ν) (totalSize : Nat)

/-- The checkpoint that a chunk reaches, if any: the first one behind the marker. -/
def checkpointReached (totalBytes : UInt64) (currentOffset lastReportedProgress : Nat) :
    Option Nat :=
  Milestones.next (job.downloadConfig.progressCheckpoints totalBytes) lastReportedProgress
    currentOffset

/-- The callback for a checkpoint, if one is reached. -/
def callback (currentOffset : Nat) (reached : Option Nat) (stats : DownloadStats) :
    List (Nat × Nat × Bool × DownloadStats) :=
  reached.toList.map fun _ => (currentOffset, totalSize, false, stats)

/-- A turn that accepts its chunk. -/
structure Accepts (cur : Cursor) (w : World ν) (cur' : Cursor) (w' : World ν) : Prop where
  writable : cur.file.mode ≠ .read
  offset : cur'.currentOffset = cur.currentOffset + job.nextChunk totalSize cur.currentOffset
  file : cur'.file = cur.file.advance (job.nextChunk totalSize cur.currentOffset)
  marker : cur'.lastReportedProgress = (checkpointReached job w.stats.totalBytes
    cur'.currentOffset cur.lastReportedProgress).getD cur.lastReportedProgress
  files : ∃ data : Bytes, data.length = job.nextChunk totalSize cur.currentOffset ∧
    w'.files = update (cur.file.put data w.files) (getResumePath job.savePath)
      (some (decimal cur'.currentOffset))
  totalBytes : w'.stats.totalBytes = w.stats.totalBytes
  progress : ∃ stats, w'.progress = w.progress ++ callback totalSize cur'.currentOffset
    (checkpointReached job w.stats.totalBytes cur'.currentOffset cur.lastReportedProgress) stats

/-- What is asked for at an offset. -/
def request (offset : Nat) : EStateM PtpIpError ν Bytes :=
  job.getPartialObject job.objectHandle (UInt64.ofNat offset)
    (UInt32.ofNat (job.nextChunk totalSize offset))

/-- The chunk at an offset comes within the retries. -/
def ServedAt (offset : Nat) (net : ν) : Prop :=
  ServedWithin (request job totalSize offset) (job.nextChunk totalSize offset)
    job.sessionConfig.maxRetries net

/-- How a turn ends. -/
inductive Turn (cur : Cursor) (w : World ν) : Result PtpIpError (World ν) Cursor → Prop where
  | refused {e : PtpIpError} {net : ν} {retries : Nat}
      (cause : ¬ ServedAt job totalSize cur.currentOffset w.net ∨ cur.file.mode = .read) :
      Turn cur w (.error e (w.asked net retries))
  | wrongLength {e : PtpIpError} {net : ν} {retries : Nat}
      (unserved : ¬ ServedAt job totalSize cur.currentOffset w.net) :
      Turn cur w (.error e ((w.asked net retries).setFiles
        (update w.files (getResumePath job.savePath) (some (decimal cur.currentOffset)))))
  | accepted {cur' : Cursor} {w' : World ν} (accepts : Accepts job totalSize cur w cur' w') :
      Turn cur w (.ok cur' w')

variable {job totalSize} {w : World ν}

lemma reportProgress_run (offset last : Nat) (w : World ν) :
    (job.reportProgress totalSize offset last).run w =
      .ok ((checkpointReached job w.stats.totalBytes offset last).getD last) { w with
        progress := w.progress ++ callback totalSize offset
          (checkpointReached job w.stats.totalBytes offset last) w.stats } := by
  have hfind : (job.downloadConfig.progressCheckpoints w.stats.totalBytes).find?
      (fun p => p > last && offset ≥ p) = checkpointReached job w.stats.totalBytes offset last :=
    rfl
  unfold Job.reportProgress
  dsimp only [Action.atomic]
  rw [hfind]
  cases checkpointReached job w.stats.totalBytes offset last with
  | some checkpoint => rfl
  | none =>
    rw [callback, Option.toList_none, List.map_nil, List.append_nil]
    rfl

theorem downloadChunk_turn (job : Job ν) (totalSize : Nat) (cur : Cursor) (w : World ν) :
    Turn job totalSize cur w ((job.downloadChunk totalSize cur).run w) := by
  apply Ensures.outcome
  rcases downloadRetrying_outcome (request job totalSize cur.currentOffset)
    (job.nextChunk totalSize cur.currentOffset) job.sessionConfig.maxRetries w with
    ⟨data, -, net, retries, hrun, -, unserved⟩ | ⟨e, net, retries, hrun, unserved⟩
  · refine ensures_bind (ensures_atomic_ok hrun trivial trivial ?_)
    by_cases hsize : data.length = job.nextChunk totalSize cur.currentOffset
    · -- the chunk is written, counted and recorded
      dsimp only
      rw [if_neg (not_not_intro hsize)]
      refine ensures_bind (onFiles_ensures (ensures_writeAll_put trivial
        (fun readOnly => .refused (Or.inr readOnly)) (fun _ _ => trivial) (fun writable => ?_)))
      refine ensures_bind (ensures_atomic_ok rfl trivial trivial ?_)
      refine ensures_bind (ensures_atomic_ok (reportProgress_run _ _ _) trivial trivial ?_)
      refine ensures_bind (saveResumeState_ensures trivial (fun _ => trivial) ?_)
      exact ensures_pure trivial (.accepted {
        writable := writable
        offset := rfl
        file := by rw [hsize]
        marker := rfl
        files := ⟨data, hsize, rfl⟩
        totalBytes := rfl
        progress := ⟨_, rfl⟩ })
    · -- a chunk of the wrong length is dropped, the resume point saved
      dsimp only
      rw [if_pos hsize]
      exact ensures_bind (saveResumeState_ensures trivial (fun _ => trivial)
        (ensures_fail trivial (.wrongLength (unserved hsize))))
  · exact ensures_bind (ensures_atomic_error hrun trivial trivial (.refused (Or.inl unserved)))

variable {cur cur' : Cursor} {w' : World ν}

lemma downloadChunk_accepts (run : (job.downloadChunk totalSize cur).run w = .ok cur' w') :
    Accepts job totalSize cur w cur' w' := by
  have turn := downloadChunk_turn job totalSize cur w
  rw [run] at turn
  cases turn with
  | accepted accepts => exact accepts

/-- A chunk that is served is accepted. -/
lemma downloadChunk_served (writable : cur.file.mode ≠ .read)
    (served : ServedAt job totalSize cur.currentOffset w.net) :
    ∃ cur' w', (job.downloadChunk totalSize cur).run w = .ok cur' w' := by
  have turn := downloadChunk_turn job totalSize cur w
  cases hrun : (job.downloadChunk totalSize cur).run w with
  | ok cur' w' => exact ⟨cur', w', rfl⟩
  | error e w' =>
    rw [hrun] at turn
    cases turn with
    | refused cause => exact absurd served (cause.resolve_right writable)
    | wrongLength unserved => exact absurd served unserved

/-- A handle that can be written to stays so. -/
lemma Accepts.stillWritable (accepts : Accepts job totalSize cur w cur' w') :
    cur'.file.mode ≠ .read := by
  rw [accepts.file, ne_eq, File.advance_mode_read]
  exact accepts.writable

end turn

section runs

variable (job : Job ν) (totalSize : Nat)

/-- A chunk that a turn has accepted: the offsets before and after it, and whether there was a
callback. -/
abbrev Chunk := Milestones.Move Nat

def chunkOf (cur : Cursor) (w : World ν) (cur' : Cursor) (w' : World ν) : Chunk :=
  ⟨cur.currentOffset, cur'.currentOffset, w.progress.length < w'.progress.length⟩

/-- The head of the loop is reached behind so many accepted chunks. -/
inductive Reaches (cur₀ : Cursor) (w₀ : World ν) : List Chunk → Cursor → World ν → Prop where
  | start : Reaches cur₀ w₀ [] cur₀ w₀
  | turn {chunks : List Chunk} {cur cur' : Cursor} {w w' : World ν}
      (before : Reaches cur₀ w₀ chunks cur w) (more : cur.currentOffset < totalSize)
      (run : (job.downloadChunk totalSize cur).run w = .ok cur' w') :
      Reaches cur₀ w₀ (chunks ++ [chunkOf cur w cur' w']) cur' w'

/-- How the loop ends from its head: for want of turns, at the end, or in a turn. -/
inductive LoopEnd (cur : Cursor) (w : World ν) :
    Result PtpIpError (World ν) (Option Cursor) → Prop where
  | outOfTurns : LoopEnd cur w (.ok none w)
  | finished (done : totalSize ≤ cur.currentOffset) : LoopEnd cur w (.ok (some cur) w)
  | failed {e : PtpIpError} {w' : World ν} (more : cur.currentOffset < totalSize)
      (run : (job.downloadChunk totalSize cur).run w = .error e w') : LoopEnd cur w (.error e w')

variable {job totalSize} {cur₀ cur : Cursor} {w₀ w : World ν} {chunks : List Chunk}

lemma downloadLoop_done (done : totalSize ≤ cur.currentOffset) (turns : Nat) :
    (job.downloadLoop totalSize (turns + 1) cur).run w = .ok (some cur) w := by
  rw [downloadLoop_succ, if_neg (Nat.not_lt_of_le done)]
  rfl

lemma downloadLoop_turn {cur' : Cursor} {w' : World ν} (more : cur.currentOffset < totalSize)
    (run : (job.downloadChunk totalSize cur).run w = .ok cur' w') (turns : Nat) :
    (job.downloadLoop totalSize (turns + 1) cur).run w =
      (job.downloadLoop totalSize turns cur').run w' := by
  rw [downloadLoop_succ, if_pos more]
  exact Action.run_bind_ok run

lemma downloadLoop_failed {e : PtpIpError} {w' : World ν} (more : cur.currentOffset < totalSize)
    (run : (job.downloadChunk totalSize cur).run w = .error e w') (turns : Nat) :
    (job.downloadLoop totalSize (turns + 1) cur).run w = .error e w' := by
  rw [downloadLoop_succ, if_pos more]
  exact Action.run_bind_error run

/-- From a head that it reaches, the loop goes on to one where it ends. -/
theorem downloadLoop_reaches (reaches : Reaches job totalSize cur₀ w₀ chunks cur w)
    (turns : Nat) : ∃ chunks' cur' w', Reaches job totalSize cur₀ w₀ chunks' cur' w' ∧
      chunks'.length ≤ chunks.length + turns ∧
      LoopEnd job totalSize cur' w' ((job.downloadLoop totalSize turns cur).run w) := by
  induction turns generalizing chunks cur w with
  | zero => exact ⟨chunks, cur, w, reaches, Nat.le_refl _, .outOfTurns⟩
  | succ turns ih =>
    by_cases more : cur.currentOffset < totalSize
    · cases hrun : (job.downloadChunk totalSize cur).run w with
      | ok cur' w' =>
        rw [downloadLoop_turn more hrun]
        obtain ⟨chunks', last, u, reached, few, loopEnd⟩ := ih (reaches.turn more hrun)
        rw [List.length_append, List.length_singleton] at few
        exact ⟨chunks', last, u, reached, by omega, loopEnd⟩
      | error e w' =>
        rw [downloadLoop_failed more hrun]
        exact ⟨chunks, cur, w, reaches, Nat.le_add_right _ _, .failed more hrun⟩
    · have done : totalSize ≤ cur.currentOffset := Nat.le_of_not_lt more
      rw [downloadLoop_done done]
      exact ⟨chunks, cur, w, reaches, Nat.le_add_right _ _, .finished done⟩

/-- What an accepted chunk preserves holds at every head that the loop reaches. -/
lemma Reaches.preserves {I : Cursor → World ν → Prop} (start : I cur₀ w₀)
    (step : ∀ cur w cur' w', cur.currentOffset < totalSize → I cur w →
      Accepts job totalSize cur w cur' w' → I cur' w')
    (reaches : Reaches job totalSize cur₀ w₀ chunks cur w) : I cur w := by
  induction reaches with
  | start => exact start
  | turn _ more run ih => exact step _ _ _ _ more ih (downloadChunk_accepts run)

end runs

section answering

variable {job : Job ν} {totalSize : Nat}

/-- Every request within the object is answered with exactly as many bytes as it asks for. -/
def Answering (job : Job ν) (totalSize : Nat) : Prop :=
  ∀ (offset : UInt64) (length : UInt32) (net : ν), offset.toNat + length.toNat ≤ totalSize →
    ∃ data net', job.getPartialObject job.objectHandle offset length net = .ok data net' ∧
      data.length = length.toNat

/-- It serves the chunks whose length fits the request. -/
lemma Answering.servedAt (answering : Answering job totalSize) (size : totalSize < 2 ^ 64)
    {offset : Nat} (more : offset < totalSize) (fits : job.nextChunk totalSize offset < 2 ^ 32)
    (net : ν) : ServedAt job totalSize offset net := by
  have h64 : (UInt64.ofNat offset).toNat = offset :=
    UInt64.toNat_ofNat_of_lt' (Nat.lt_trans more size)
  have h32 : (UInt32.ofNat (job.nextChunk totalSize offset)).toNat =
      job.nextChunk totalSize offset := UInt32.toNat_ofNat_of_lt' fits
  have hinside := nextChunk_le job totalSize offset
  obtain ⟨data, net', hask, hlen⟩ := answering (UInt64.ofNat offset)
    (UInt32.ofNat (job.nextChunk totalSize offset)) net (by rw [h64, h32]; omega)
  exact servedWithin_of_first hask (hlen.trans h32) _

/-- A camera that sends zeros. -/
def zerosJob (config : ChunkDownloadConfig) : Job Unit where
  platform := .bits64
  getPartialObject _ _ length net := .ok (List.replicate length.toNat 0) net
  objectHandle := 1
  savePath := ⟨[], some [97]⟩
  sessionConfig := ⟨30, 3⟩
  downloadConfig := config

lemma zerosJob_answering (config : ChunkDownloadConfig) (totalSize : Nat) :
    Answering (zerosJob config) totalSize :=
  fun _ _ net _ => ⟨_, net, rfl, List.length_replicate⟩

end answering

end DownloadTurns
