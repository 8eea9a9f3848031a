import PtpipCore.DownloadTurns

/-!
# Progress callbacks and checkpoints

The marker of the main loop starts at zero, also behind a resumed offset, and moves by one
checkpoint a chunk.
-/

namespace ProgressReports

open Effects CrashActions FileActions Types Download DownloadRun DownloadTurns Milestones
open EStateM (Result)

variable {ν : Type} {job : Job ν} {totalSize start : Nat} {file : File Resume.Path}
  {cur cur' : Job.Cursor} {w₀ w w' : World ν} {chunks : List Chunk}

/-- The size of the object is what it was when the loop started. -/
lemma totalBytes_kept {cur₀ : Job.Cursor} (reaches : Reaches job totalSize cur₀ w₀ chunks cur w) :
    w.stats.totalBytes = w₀.stats.totalBytes := by
  refine reaches.preserves (I := fun _ v => v.stats.totalBytes = w₀.stats.totalBytes) rfl ?_
  intro c v c' v' _ same accepts
  rw [accepts.totalBytes, same]

/-- There is a callback after a chunk if a checkpoint behind the marker has been reached. -/
lemma chunkOf_eq (accepts : Accepts job totalSize cur w cur' w') :
    chunkOf cur w cur' w' = ⟨cur.currentOffset, cur'.currentOffset,
      (checkpointReached job w.stats.totalBytes cur'.currentOffset
        cur.lastReportedProgress).isSome⟩ := by
  obtain ⟨stats, progress⟩ := accepts.progress
  rw [chunkOf, progress, List.length_append, callback, List.length_map]
  cases checkpointReached job w.stats.totalBytes cur'.currentOffset cur.lastReportedProgress <;>
    simp

/-- The loop moves its marker behind the checkpoints. -/
lemma reaches_run (reaches : Reaches job totalSize ⟨start, file, 0⟩ w₀ chunks cur w) :
    Run (job.downloadConfig.progressCheckpoints w₀.stats.totalBytes) 0 start chunks
      cur.lastReportedProgress cur.currentOffset := by
  induction reaches with
  | start => exact .start
  | @turn chunks cur cur' w w' before more run ih =>
    have accepts := downloadChunk_accepts run
    have forward : cur.currentOffset ≤ cur'.currentOffset := by
      rw [accepts.offset]
      exact Nat.le_add_right _ _
    rw [chunkOf_eq accepts, accepts.marker, totalBytes_kept before]
    exact ih.move forward

/-- Callbacks are made after exactly the chunks that cross a checkpoint, if and only if wherever a
chunk crosses none, none was passed before the start and no earlier chunk crossed two. -/
theorem callbacks_follow_iff
    (sorted : (job.downloadConfig.progressCheckpoints w₀.stats.totalBytes).Pairwise (· ≤ ·))
    (reaches : Reaches job totalSize ⟨start, file, 0⟩ w₀ chunks cur w) :
    Follows (job.downloadConfig.progressCheckpoints w₀.stats.totalBytes) chunks ↔
      KeepsUpWhereIdle (job.downloadConfig.progressCheckpoints w₀.stats.totalBytes) 0 start
        chunks :=
  (reaches_run reaches).follows_iff sorted (Nat.zero_le _)

/-- Of a hundred bytes a checkpoint at every fifth, and chunks of one byte. -/
def hundred : ChunkDownloadConfig :=
  ⟨1, 1, fun _ => [5, 10, 15, 20, 25, 30, 35, 40, 45, 50, 55, 60, 65, 70, 75, 80, 85, 90, 95, 100]⟩

/-- From any offset on there is one more chunk, of one byte. -/
lemma hundred_turn {offset : Nat} (more : offset < 100) :
    ∃ cur w, Reaches (zerosJob hundred) 100 ⟨offset, ⟨⟨[], some [97]⟩, .append⟩, 0⟩
      (World.start (fun _ => none) () 100)
      [⟨offset, offset + 1, (next (hundred.progressCheckpoints 100) 0 (offset + 1)).isSome⟩]
      cur w := by
  have hnext : (zerosJob hundred).nextChunk 100 offset = 1 := by
    have hchunk := nextChunk_cases (zerosJob hundred) 100 offset
    change 100 - offset < 1 ∧ _ ∨ 1 ≤ 100 - offset ∧ _ = min 1 (100 - offset) at hchunk
    omega
  let cur₀ : Job.Cursor := ⟨offset, ⟨⟨[], some [97]⟩, .append⟩, 0⟩
  have writable : cur₀.file.mode ≠ .read := fun h => by cases h
  obtain ⟨cur, w, hrun⟩ := downloadChunk_served (w := World.start (fun _ => none) () 100) writable
    ((zerosJob_answering hundred 100).servedAt (by decide) more (by rw [hnext]; decide) ())
  have accepts := downloadChunk_accepts hrun
  have hoffset : cur.currentOffset = offset + 1 := accepts.offset.trans (congrArg _ hnext)
  have reaches := Reaches.start.turn more hrun
  rw [chunkOf_eq accepts, hoffset] at reaches
  exact ⟨cur, w, reaches⟩

/-- A chunk that crosses the first checkpoint, from the byte before it. -/
theorem callbacks_follow_first : ∃ chunks cur w,
    Reaches (zerosJob hundred) 100 ⟨4, ⟨⟨[], some [97]⟩, .append⟩, 0⟩
      (World.start (fun _ => none) () 100) chunks cur w ∧ chunks.length = 1 ∧
    (Follows (hundred.progressCheckpoints 100) chunks ↔
      KeepsUpWhereIdle (hundred.progressCheckpoints 100) 0 4 chunks) := by
  obtain ⟨cur, w, reaches⟩ := hundred_turn (show 4 < 100 by decide)
  exact ⟨_, cur, w, reaches, rfl, callbacks_follow_iff (by decide) reaches⟩

/-- Resumed at 52, the loop reports its first byte, which crosses no checkpoint. -/
theorem resumed_callback : ∃ chunks cur w,
    Reaches (zerosJob hundred) 100 ⟨52, ⟨⟨[], some [97]⟩, .append⟩, 0⟩
      (World.start (fun _ => none) () 100) chunks cur w ∧
    (hundred.progressCheckpoints 100).Pairwise (· ≤ ·) ∧ chunks = [⟨52, 53, true⟩] ∧
    ¬ Follows (hundred.progressCheckpoints 100) chunks := by
  obtain ⟨cur, w, reaches⟩ := hundred_turn (show 52 < 100 by decide)
  refine ⟨_, cur, w, reaches, by decide, rfl, fun follows => ?_⟩
  obtain ⟨p, hp, behind, passed⟩ := (follows _ List.mem_cons_self).mp rfl
  have between : p = 53 := Nat.le_antisymm passed behind
  subst between
  exact absurd hp (by decide)

end ProgressReports
