import PtpipCore.DownloadTurns

/-!
# Whether the main loop ends

A turn that asks for no bytes is answered with none and leaves the offset where it was.
-/

namespace LoopTermination

open Effects ByteStream CrashActions FileActions Types Download DownloadRun DownloadTurns
open EStateM (Result)

variable {ν : Type} {job : Job ν} {totalSize : Nat} {cur : Job.Cursor} {w : World ν}

/-- The loop ends after finitely many turns, and every turn that it goes on behind has moved the
offset. -/
structure Terminates (job : Job ν) (totalSize : Nat) (cur : Job.Cursor) (w : World ν) : Prop where
  ends : ∃ turns, answer ((job.downloadLoop totalSize turns cur).run w) ≠ .ok none
  advances : ∀ chunks cur₁ w₁ cur₂ w₂, Reaches job totalSize cur w chunks cur₁ w₁ →
    cur₁.currentOffset < totalSize → (job.downloadChunk totalSize cur₁).run w₁ = .ok cur₂ w₂ →
    cur₁.currentOffset < cur₂.currentOffset

/-- The chunk size is positive, or less is left than the minimum. -/
def Progressing (config : ChunkDownloadConfig) (totalSize start : Nat) : Prop :=
  1 ≤ config.chunkSize ∨ totalSize ≤ start ∨ totalSize - start < config.minChunkSize

/-- Then something is asked for at every offset from the start on. -/
lemma Progressing.nextChunk_pos {start offset : Nat}
    (progressing : Progressing job.downloadConfig totalSize start) (behind : start ≤ offset)
    (more : offset < totalSize) : 0 < job.nextChunk totalSize offset := by
  have hchunk := nextChunk_cases job totalSize offset
  rcases progressing with positive | done | little <;> omega

/-- Otherwise nothing is asked for at the start. -/
lemma nextChunk_stalled {start : Nat}
    (stalled : ¬ Progressing job.downloadConfig totalSize start) :
    start < totalSize ∧ job.nextChunk totalSize start = 0 := by
  have hchunk := nextChunk_cases job totalSize start
  unfold Progressing at stalled
  omega

/-- Turns that move the offset come to an end. -/
lemma ends_of_advances {cur₀ : Job.Cursor} {w₀ : World ν} {chunks : List Chunk}
    (advances : ∀ chunks cur₁ w₁ cur₂ w₂, Reaches job totalSize cur₀ w₀ chunks cur₁ w₁ →
      cur₁.currentOffset < totalSize → (job.downloadChunk totalSize cur₁).run w₁ = .ok cur₂ w₂ →
      cur₁.currentOffset < cur₂.currentOffset)
    (reaches : Reaches job totalSize cur₀ w₀ chunks cur w) {turns : Nat}
    (enough : totalSize - cur.currentOffset < turns) :
    answer ((job.downloadLoop totalSize turns cur).run w) ≠ .ok none := by
  induction turns generalizing chunks cur w with
  | zero => exact absurd enough (Nat.not_lt_zero _)
  | succ turns ih =>
    by_cases more : cur.currentOffset < totalSize
    · cases hrun : (job.downloadChunk totalSize cur).run w with
      | ok cur' w' =>
        have moved := advances _ _ _ _ _ reaches more hrun
        rw [downloadLoop_turn more hrun]
        exact ih (reaches.turn more hrun) (by omega)
      | error e w' =>
        rw [downloadLoop_failed more hrun]
        intro h
        cases h
    · rw [downloadLoop_done (Nat.le_of_not_lt more)]
      intro h
      cases h

/-- Where nothing is asked for, no number of turns is enough. -/
lemma stalls (answering : Answering job totalSize) (size : totalSize < 2 ^ 64)
    (more : cur.currentOffset < totalSize) (none : job.nextChunk totalSize cur.currentOffset = 0)
    (writable : cur.file.mode ≠ .read) (turns : Nat) :
    answer ((job.downloadLoop totalSize turns cur).run w) = .ok Option.none := by
  induction turns generalizing cur w with
  | zero => rfl
  | succ turns ih =>
    obtain ⟨cur', w', hrun⟩ := downloadChunk_served writable
      (answering.servedAt size more (by rw [none]; decide) w.net)
    have accepts := downloadChunk_accepts hrun
    have same : cur'.currentOffset = cur.currentOffset := by
      rw [accepts.offset, none, Nat.add_zero]
    rw [downloadLoop_turn more hrun]
    exact ih (same ▸ more) (same ▸ none) accepts.stillWritable

/-- With a camera that answers, the loop ends exactly when the chunk size is positive, nothing is
left, or less than the minimum is. -/
theorem terminates_iff (answering : Answering job totalSize) (size : totalSize < 2 ^ 64)
    (writable : cur.currentOffset < totalSize → cur.file.mode ≠ .read) (w : World ν) :
    Terminates job totalSize cur w ↔
      Progressing job.downloadConfig totalSize cur.currentOffset := by
  constructor
  · intro terminates
    by_contra stalled
    obtain ⟨more, none⟩ := nextChunk_stalled stalled
    obtain ⟨turns, ends⟩ := terminates.ends
    exact ends (stalls answering size more none (writable more) turns)
  · intro progressing
    have advances : ∀ chunks cur₁ w₁ cur₂ w₂, Reaches job totalSize cur w chunks cur₁ w₁ →
        cur₁.currentOffset < totalSize →
        (job.downloadChunk totalSize cur₁).run w₁ = .ok cur₂ w₂ →
        cur₁.currentOffset < cur₂.currentOffset := by
      intro chunks cur₁ w₁ cur₂ w₂ reaches more hrun
      have behind : cur.currentOffset ≤ cur₁.currentOffset := by
        refine reaches.preserves (I := fun c _ => cur.currentOffset ≤ c.currentOffset)
          (Nat.le_refl _) ?_
        intro c v c' v' _ behind accepts
        rw [accepts.offset]
        exact Nat.le_add_right_of_le behind
      rw [(downloadChunk_accepts hrun).offset]
      exact Nat.lt_add_of_pos_right (progressing.nextChunk_pos behind more)
    exact ⟨⟨_, ends_of_advances advances .start (Nat.lt_succ_self _)⟩, advances⟩

/-- Three bytes in chunks of two. -/
theorem terminates_two :
    Terminates (zerosJob ⟨2, 1, fun _ => []⟩) 3 ⟨0, ⟨⟨[], some [97]⟩, .write 0⟩, 0⟩
        (World.start (fun _ => none) () 3) ↔
      Progressing ⟨2, 1, fun _ => []⟩ 3 0 :=
  terminates_iff (zerosJob_answering _ 3) (by decide) (fun _ h => by cases h) _

/-- Chunks of no bytes are asked for, and sent, forever. -/
theorem empty_chunks_forever :
    ¬ Terminates (zerosJob ⟨0, 1, fun _ => []⟩) 3 ⟨0, ⟨⟨[], some [97]⟩, .write 0⟩, 0⟩
        (World.start (fun _ => none) () 3) := by
  rintro ⟨⟨turns, ends⟩, -⟩
  exact ends (stalls (zerosJob_answering _ 3) (by decide) (by decide) (by decide)
    (fun h => by cases h) turns)

end LoopTermination
