import PtpipCore.DownloadOutcome

/-!
# How long a download takes

Whatever the camera does, a download whose chunks are not empty comes to an end: it takes no more
turns than there are chunks in what is left, and in each of them it makes no more requests than the
retries allow.
-/

namespace DownloadBounds

open Effects ByteStream CrashActions FileActions Types Resume ResumePlan Download DownloadRun
open DownloadTurns Retries ChunkAnswers ResumeInvariant DownloadOutcome
open Download.Job
open EStateM (Result)

variable {ν : Type}

section counting

/-- The chunks of a size in so much, the last of them perhaps shorter. -/
def chunkCount (chunkSize rest : Nat) : Nat := (rest + chunkSize - 1) / chunkSize

variable {chunkSize rest k : Nat}

lemma chunkCount_zero (positive : 1 ≤ chunkSize) : chunkCount chunkSize 0 = 0 :=
  Nat.div_eq_of_lt (by omega)

/-- Behind a whole chunk, or the end, there is one chunk less. -/
lemma chunkCount_step (positive : 1 ≤ chunkSize) (more : 0 < rest) :
    chunkCount chunkSize (rest - min chunkSize rest) + 1 = chunkCount chunkSize rest := by
  rcases Nat.lt_or_ge chunkSize rest with inside | last
  · have hrest : rest + chunkSize - 1 = rest - chunkSize + chunkSize - 1 + chunkSize := by omega
    rw [Nat.min_eq_left (Nat.le_of_lt inside), chunkCount, chunkCount, hrest,
      Nat.add_div_right _ positive]
  · have hone : (rest + chunkSize - 1) / chunkSize = 1 :=
      Nat.div_eq_of_lt_le (by omega) (by omega)
    rw [Nat.min_eq_right last, Nat.sub_self, chunkCount_zero positive, chunkCount, hone]

lemma chunkCount_mono {more : Nat} (le : rest ≤ more) :
    chunkCount chunkSize rest ≤ chunkCount chunkSize more :=
  Nat.div_le_div_right (by omega)

/-- Behind at least as much there is at least one chunk less. -/
lemma chunkCount_behind (positive : 1 ≤ chunkSize) (more : 0 < rest)
    (enough : min chunkSize rest ≤ k) :
    chunkCount chunkSize (rest - k) + 1 ≤ chunkCount chunkSize rest := by
  rw [← chunkCount_step positive more]
  exact Nat.add_le_add_right (chunkCount_mono (by omega)) 1

end counting

section turns

variable {job : Job ν} {totalSize offset reached : Nat} {net net' : ν}

/-- No chunk is smaller than its size, but for the last one. -/
lemma nextChunk_ge (job : Job ν) (totalSize offset : Nat) :
    min job.downloadConfig.chunkSize (totalSize - offset) ≤ job.nextChunk totalSize offset := by
  have hchunk := nextChunk_cases job totalSize offset
  omega

/-- A minimum that is no more than a chunk changes no chunk. -/
lemma nextChunk_eq (minimum : job.downloadConfig.minChunkSize ≤ job.downloadConfig.chunkSize) :
    job.nextChunk totalSize offset = min job.downloadConfig.chunkSize (totalSize - offset) := by
  have hchunk := nextChunk_cases job totalSize offset
  omega

/-- The default chunks are not empty, and their minimum changes none of them. -/
lemma default_chunks (progressCheckpoints : UInt64 → List Nat) :
    let config := ChunkDownloadConfig.default progressCheckpoints
    1 ≤ config.chunkSize ∧ config.minChunkSize ≤ config.chunkSize :=
  ⟨show 1 ≤ 1024 * 1024 by decide, show 1024 * 64 ≤ 1024 * 1024 by decide⟩

/-- With turns enough for the chunks that are left the loop does not run out of them. -/
lemma loop_in_time (positive : 1 ≤ job.downloadConfig.chunkSize) {turns : Nat} {cur : Cursor}
    (enough : chunkCount job.downloadConfig.chunkSize (totalSize - cur.currentOffset) < turns)
    (w w' : World ν) : (job.downloadLoop totalSize turns cur).run w ≠ .ok none w' := by
  induction turns generalizing cur w with
  | zero => exact absurd enough (Nat.not_lt_zero _)
  | succ turns ih =>
    by_cases more : cur.currentOffset < totalSize
    · cases hrun : (job.downloadChunk totalSize cur).run w with
      | ok next u =>
        have hoffset := (downloadChunk_accepts hrun).offset
        have hbehind := chunkCount_behind positive (Nat.sub_pos_of_lt more)
          (nextChunk_ge job totalSize cur.currentOffset)
        rw [downloadLoop_turn more hrun]
        refine ih ?_ u
        rw [hoffset, ← Nat.sub_sub]
        omega
      | error e u =>
        rw [downloadLoop_failed more hrun]
        intro h
        cases h
    · rw [downloadLoop_done (Nat.le_of_not_lt more)]
      intro h
      cases h

lemma transfer_in_time (positive : 1 ≤ job.downloadConfig.chunkSize) {turns : Nat}
    (enough : chunkCount job.downloadConfig.chunkSize (totalSize - offset) < turns)
    (file : File Path) (w w' : World ν) :
    (job.transfer totalSize turns offset file).run w ≠ .ok none w' := by
  have hloop : ∀ w', loopRun job totalSize turns (loopStart offset file w) ≠ .ok none w' :=
    loop_in_time positive enough (loopStart offset file w).2
  cases hrun : loopRun job totalSize turns (loopStart offset file w) with
  | error e u =>
    rw [transfer_stopped hrun]
    intro h
    cases h
  | ok ended u =>
    cases ended with
    | none => exact absurd hrun (hloop u)
    | some cur =>
      rw [transfer_finished hrun]
      cases hfinish : (job.finish totalSize).run u with
      | ok _ v =>
        rw [Action.run_bind_ok hfinish]
        intro h
        cases h
      | error e v =>
        rw [Action.run_bind_error hfinish]
        intro h
        cases h

/-- Chunks that are answered are no more than there are between the offsets, and as many if none of
them is changed by the minimum. -/
lemma answered_count (positive : 1 ≤ job.downloadConfig.chunkSize) {answers : List (Answer ν)}
    (answered : Answered job totalSize offset net answers reached net') :
    answers.length + chunkCount job.downloadConfig.chunkSize (totalSize - reached) ≤
        chunkCount job.downloadConfig.chunkSize (totalSize - offset) ∧
      (job.downloadConfig.minChunkSize ≤ job.downloadConfig.chunkSize →
        answers.length + chunkCount job.downloadConfig.chunkSize (totalSize - reached) =
          chunkCount job.downloadConfig.chunkSize (totalSize - offset)) := by
  induction answered with
  | nothing => exact ⟨Nat.le_of_eq (Nat.zero_add _), fun _ => Nat.zero_add _⟩
  | @chunk offset reached net net' a rest more comes size later ih =>
    obtain ⟨hle, heq⟩ := ih
    rw [size, ← Nat.sub_sub] at hle heq
    have left := Nat.sub_pos_of_lt more
    rw [List.length_cons]
    constructor
    · have hbehind := chunkCount_behind positive left (nextChunk_ge job totalSize offset)
      omega
    · intro minimum
      have hstep := chunkCount_step positive left
      have hrest := heq minimum
      rw [nextChunk_eq minimum] at hrest
      omega

/-- The requests for chunks that were answered are within the retries. -/
lemma answered_refusals {answers : List (Answer ν)}
    (answered : Answered job totalSize offset net answers reached net') :
    (answers.map Answer.refusals).sum ≤ answers.length * job.sessionConfig.maxRetries := by
  induction answered with
  | nothing => exact Nat.zero_le _
  | chunk more comes size later ih =>
    rw [List.map_cons, List.sum_cons, List.length_cons, Nat.succ_mul, Nat.add_comm]
    exact Nat.add_le_add ih comes.within

lemma stops_refusals {stop : Stop ν} (stops : Stops job totalSize offset net stop) :
    stop.refusals job ≤ job.sessionConfig.maxRetries + 1 := by
  cases stops with
  | refused => exact Nat.le_refl _
  | wrongLength comes => exact Nat.le_succ_of_le comes.within

end turns

section downloads

variable {job : Job ν} {totalSize offset : Nat} {contents : Bytes} {w : World ν}

/-- A download whose turns suffice for what is left has an end. -/
lemma download_in_time (positive : 1 ≤ job.downloadConfig.chunkSize)
    (size : job.platform.asUsize w.stats.totalBytes.toNat = totalSize)
    (begins : beginning job.savePath w.files (plan job.platform job.savePath totalSize w.files) =
      some (offset, contents)) {turns : Nat}
    (enough : chunkCount job.downloadConfig.chunkSize (totalSize - offset) < turns) (w' : World ν) :
    (job.downloadObjectWithResume turns).run w ≠ .ok none w' := by
  obtain ⟨-, file, fs', -, hcheck⟩ := check_opens begins
  rw [download_checked size hcheck]
  exact transfer_in_time positive enough file _ w'

/-- Whatever the camera does: with turns enough for the chunks that are left a download ends, and it
has written no more chunks and had no more requests than belong to them. -/
theorem download_bounded (positive : 1 ≤ job.downloadConfig.chunkSize)
    (size : job.platform.asUsize w.stats.totalBytes.toNat = totalSize)
    (begins : beginning job.savePath w.files (plan job.platform job.savePath totalSize w.files) =
      some (offset, contents)) {turns : Nat}
    (enough : chunkCount job.downloadConfig.chunkSize (totalSize - offset) < turns) :
    let count := chunkCount job.downloadConfig.chunkSize (totalSize - offset)
    let r := (job.downloadObjectWithResume turns).run w
    (answer r = .ok (some ()) ∨ ∃ e, answer r = .error e) ∧
    (endState r).stats.chunks ≤ w.stats.chunks + count ∧
    (endState r).stats.chunks + (endState r).stats.retries ≤
      w.stats.chunks + w.stats.retries + count * (job.sessionConfig.maxRetries + 1) ∧
    (job.downloadConfig.minChunkSize ≤ job.downloadConfig.chunkSize → answer r = .ok (some ()) →
      (endState r).stats.chunks = w.stats.chunks + count) := by
  have inTime := download_in_time positive size begins enough
  have hends := download_ends size begins turns
  dsimp only
  generalize (job.downloadObjectWithResume turns).run w = r at inTime hends
  cases hends with
  | outOfTurns => exact absurd rfl (inTime _)
  | delivered answered assembled =>
    obtain ⟨hle, heq⟩ := answered_count positive answered
    have hrefusals := answered_refusals answered
    rw [Nat.sub_self, chunkCount_zero positive, Nat.add_zero] at hle heq
    have hrequests := Nat.mul_le_mul_right (job.sessionConfig.maxRetries + 1) hle
    rw [Nat.mul_succ] at hrequests
    have hchunks := assembled.chunks
    have hretries := assembled.retries
    rw [endState_ok]
    exact ⟨Or.inl rfl, by omega, by omega, fun minimum _ => hchunks.trans (by rw [heq minimum])⟩
  | @givenUp answers reached net stop e w' answered more stops left =>
    obtain ⟨hle, -⟩ := answered_count positive answered
    have hrefusals := answered_refusals answered
    have hstop := stops_refusals stops
    have hleft := chunkCount_step positive (Nat.sub_pos_of_lt more)
    have hturns : answers.length + 1 ≤
        chunkCount job.downloadConfig.chunkSize (totalSize - offset) := by omega
    have hrequests := Nat.mul_le_mul_right (job.sessionConfig.maxRetries + 1) hturns
    rw [Nat.succ_mul, Nat.mul_succ] at hrequests
    have hchunks := left.chunks
    have hretries := left.retries
    rw [endState_error]
    exact ⟨Or.inr ⟨e, rfl⟩, by omega, by omega, fun _ h => by cases h⟩

/-- Three bytes in chunks of two, with a camera that is lost behind the first of them: no more than
two chunks and eight requests. -/
theorem download_bounded_lost :
    let r := ((losingJob [1, 2, 3] 2).downloadObjectWithResume 3).run
      (World.start (fun _ => none) () 3)
    (endState r).stats.chunks ≤ 0 + 2 ∧
      (endState r).stats.chunks + (endState r).stats.retries ≤ 0 + 0 + 2 * 4 := by
  have begins : beginning (losingJob [1, 2, 3] 2).savePath
      (World.start (fun _ => none) () 3 : World Unit).files
      (plan .bits64 (losingJob [1, 2, 3] 2).savePath 3 fun _ => none) = some (0, []) := rfl
  obtain ⟨-, chunks, requests, -⟩ := download_bounded (show 1 ≤ 2 by decide) rfl begins
    (show 2 < 3 by decide)
  exact ⟨chunks, requests⟩

end downloads

end DownloadBounds
