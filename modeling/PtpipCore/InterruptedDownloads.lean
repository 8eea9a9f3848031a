import PtpipCore.ResumeInvariant

/-!
# Exact tiling across interrupted attempts

A failed attempt leaves the bytes up to an offset, and the record of it once there
is something to record. The next attempt begins at that offset, whatever its chunk
size, so the accepted ranges of all attempts lie side by side.
-/

namespace InterruptedDownloads

open Effects ByteStream CrashActions FileActions Text Types Resume ResumePlan Download
open DownloadRun ResumeInvariant
open EStateM (Result)
open Function (update)

/-- The target is not complete yet; the bytes up to the offset are in the temporary file and
the offset in the record, or there is no record and the offset is zero. -/
structure Paused (savePath : Path) (object : Bytes) (offset : Nat) (fs : FileSystem Path) :
    Prop where
  incomplete : ¬ Complete .bits64 savePath object.length fs
  record : (fs (getTempPath savePath) = some (object.take offset) ∧
      fs (getResumePath savePath) = some (decimal offset) ∧ offset < object.length) ∨
    offset = 0 ∧ fs (getResumePath savePath) = none

section paused

variable {savePath : Path} {object : Bytes} {offset : Nat} {fs : FileSystem Path}

/-- The check goes on at the offset, with the bytes up to it in the temporary file. -/
theorem Paused.meets (paused : Paused savePath object offset fs) (size : object.length < 2 ^ 64)
    {post : Post (FileSystem Path) PtpIpError (Nat × File Path)}
    (crashes : ∀ fs', post.crashes fs')
    (returned : ∀ file fs', Paused savePath object offset fs' →
      fs' (getTempPath savePath) = some (object.take offset) → offset ≤ object.length →
      file.path = getTempPath savePath → file.AtEnd offset → post.returns (offset, file) fs') :
    Plan.Meets savePath object.length fs post (plan .bits64 savePath object.length fs) := by
  have incomplete := paused.incomplete
  unfold plan
  rw [if_neg (fun h => incomplete (complete_iff.mp h))]
  rcases paused.record with ⟨htemp, hrecord, short⟩ | ⟨rfl, hrecord⟩
  · have hlength : (object.take offset).length = offset :=
      List.length_take_of_le (Nat.le_of_lt short)
    have hsmall : offset < 2 ^ 64 := Nat.lt_trans short size
    have hlen : lenOf .bits64 (object.take offset) = offset := by
      rw [lenOf_eq (hlength.symm ▸ hsmall), hlength]
    simp only [hrecord, htemp, recordPlan,
      recordOffset_decimal .bits64 hsmall, hlen]
    rw [if_neg (not_not_intro rfl), if_neg (Nat.not_le_of_lt short)]
    exact returned _ _ paused htemp (Nat.le_of_lt short) rfl (Or.inl rfl)
  · simp only [hrecord]
    refine ⟨crashes _, crashes _, returned _ _ ⟨?_, Or.inr ⟨rfl, ?_⟩⟩ (started_temp _ _)
      (Nat.zero_le _) rfl (Or.inr rfl)⟩
    · unfold Complete at incomplete ⊢
      rwa [started_target]
    · exact (Function.update_of_ne (getTempPath_ne_getResumePath _).symm _ _).trans hrecord

/-- Checking the files returns the offset. -/
theorem Paused.check (paused : Paused savePath object offset fs) (size : object.length < 2 ^ 64) :
    ∃ file fs', (checkResumeState .bits64 savePath object.length).run fs =
      .ok (offset, file) fs' := by
  have hcheck : Ensures (checkResumeState .bits64 savePath object.length) fs
      ⟨fun r _ => r.1 = offset, fun _ _ => False, fun _ => True⟩ :=
    checkResumeState_ensures trivial
      (paused.meets size (fun _ => trivial) (fun _ _ _ _ _ _ _ => rfl))
  obtain ⟨⟨reached, file⟩, fs', hrun, rfl⟩ := hcheck.returns_of_not_fails (fun _ _ h => h)
  exact ⟨file, fs', hrun⟩

variable {ν : Type} {job : Job ν}

/-- An attempt accepts the ranges from where the one before it paused up to where it pauses
itself, or up to the end. -/
theorem Paused.attempt (paused : Paused savePath object offset fs)
    (attempt : Attempt .bits64 savePath object job)
    (positive : 1 ≤ job.downloadConfig.chunkSize) (net : ν) (turns : Nat) :
    Ensures (job.downloadObjectWithResume turns)
      (World.start fs net (UInt64.ofNat object.length))
      ⟨fun r w => r = some () ∧ Delivered job object offset w ∨ r = none ∧ turns ≤ object.length,
        fun _ w => (∃ offset', Paused savePath object offset' w.files ∧
          w.stats.downloadedBytes = UInt64.ofNat offset' ∧ offset' < object.length ∧
          Tiles offset w.accepted offset') ∧ ¬ Served job object,
        fun _ => True⟩ := by
  obtain ⟨hplatform, rfl⟩ := And.intro attempt.platform attempt.target
  have faithful := attempt.faithful
  rw [countable_eq .bits64 attempt.size] at faithful
  have hsize : job.platform.asUsize (UInt64.ofNat object.length).toNat = object.length := by
    rw [hplatform, UInt64.toNat_ofNat_of_lt' attempt.size]
    exact Platform.asUsize_of_lt attempt.size
  refine download_ensures hsize trivial ?_
  rw [hplatform]
  refine paused.meets attempt.size (fun _ => trivial) ?_
  intro file fs' paused' htemp inside path atEnd
  refine (transfer_ensures (w := (World.start fs net _).setFiles fs')
    (faithful.later (Nat.zero_le _)) inside htemp path atEnd ⟨rfl, rfl⟩).mono ?_ ?_
    (fun _ _ => trivial)
  · rintro r w (h | ⟨hnone, hturns⟩)
    · exact Or.inl h
    · exact Or.inr ⟨hnone, Nat.le_trans (Nat.le_add_left _ _) (hturns positive)⟩
  · rintro e w ⟨⟨cur, inv, more⟩, unserved⟩
    refine ⟨⟨cur.currentOffset, ⟨?_, ?_⟩, inv.downloaded, more, inv.tiles positive⟩, unserved⟩
    · have incomplete := paused'.incomplete
      unfold Complete at incomplete ⊢
      rwa [inv.target]
    · rcases inv.record with hrecord | ⟨hsame, hrecord⟩
      · exact Or.inl ⟨inv.temp, hrecord, more⟩
      · -- the first chunk of the attempt was not accepted
        have hoffset : cur.currentOffset = offset := hsame
        rcases paused'.record with ⟨-, hbefore, -⟩ | ⟨hzero, hbefore⟩
        · exact Or.inl ⟨inv.temp, hoffset ▸ hrecord.trans hbefore, more⟩
        · exact Or.inr ⟨hoffset.trans hzero, hrecord.trans hbefore⟩

end paused

section tries

/-- An attempt with its network; `turns` bounds the turns of its loop. -/
structure Try (savePath : Path) (object : Bytes) where
  Net : Type
  job : Job Net
  net : Net
  turns : Nat
  attempt : Attempt .bits64 savePath object job
  positive : 1 ≤ job.downloadConfig.chunkSize

/-- The files, and the ranges accepted so far. -/
structure Progress where
  files : FileSystem Path
  ranges : List (Nat × Nat)

variable {savePath : Path} {object : Bytes}

def Try.outcome (t : Try savePath object) (fs : FileSystem Path) :
    Result PtpIpError (World t.Net) (Option Unit) :=
  (t.job.downloadObjectWithResume t.turns).run
    (World.start fs t.net (UInt64.ofNat object.length))

/-- What the attempt leaves behind. -/
def Try.left (t : Try savePath object) (fs : FileSystem Path) : World t.Net :=
  endState (t.outcome fs)

def Try.after (before : Progress) (t : Try savePath object) : Progress :=
  ⟨(t.left before.files).files, before.ranges ++ (t.left before.files).accepted⟩

def Fails (x : Progress × Try savePath object) : Prop :=
  ∃ e, answer (x.2.outcome x.1.files) = .error e

/-- The accepted ranges reach up to where the next attempt goes on. -/
def Reaches (savePath : Path) (object : Bytes) (p : Progress) : Prop :=
  ∃ offset, Paused savePath object offset p.files ∧ Tiles 0 p.ranges offset

/-- A failed attempt pauses where its statistics say. -/
lemma Try.failed (t : Try savePath object) {offset : Nat} {fs : FileSystem Path}
    (paused : Paused savePath object offset fs) {e : PtpIpError}
    (h : answer (t.outcome fs) = .error e) :
    ∃ offset', Paused savePath object offset' (t.left fs).files ∧
      (t.left fs).stats.downloadedBytes = UInt64.ofNat offset' ∧ offset' < object.length ∧
      Tiles offset (t.left fs).accepted offset' :=
  ((paused.attempt t.attempt t.positive t.net t.turns).answer_error h).1

lemma Reaches.step (p : Progress) (t : Try savePath object) (reaches : Reaches savePath object p)
    (failed : Fails (p, t)) : Reaches savePath object (t.after p) := by
  obtain ⟨offset, paused, tiles⟩ := reaches
  obtain ⟨e, failed⟩ := failed
  obtain ⟨offset', paused', -, -, tiles'⟩ := t.failed paused failed
  exact ⟨offset', paused', tiles_append tiles tiles'⟩

/-- After every failed attempt the check returns the bytes that it counted. A last attempt
that is served returns `Ok`; and if it does, the object is at the target, the statistics
count it and its chunks, and the accepted ranges of all attempts tile it. A temporary file
without a record makes no difference. -/
theorem tiles_across_attempts {fs : FileSystem Path}
    (noRecord : fs (getResumePath savePath) = none)
    (incomplete : ¬ Complete .bits64 savePath object.length fs)
    (tries : List (Try savePath object))
    (failed : ∀ x ∈ history Try.after ⟨fs, []⟩ tries, Fails x) (last : Try savePath object) :
    (∀ x ∈ history Try.after ⟨fs, []⟩ tries, ∃ file fs',
      (checkResumeState .bits64 savePath object.length).run (x.2.left x.1.files).files =
        .ok ((x.2.left x.1.files).stats.downloadedBytes.toNat, file) fs') ∧
    let before := tries.foldl Try.after ⟨fs, []⟩
    (Served last.job object → object.length < last.turns →
      answer (last.outcome before.files) = .ok (some ())) ∧
    ∀ w, last.outcome before.files = .ok (some ()) w →
      w.files savePath = some object ∧
      w.stats.downloadedBytes = UInt64.ofNat object.length ∧
      w.stats.chunks = w.accepted.length ∧
      Tiles 0 (before.ranges ++ w.accepted) object.length := by
  have hstart : Reaches savePath object ⟨fs, []⟩ :=
    ⟨0, ⟨incomplete, Or.inr ⟨rfl, noRecord⟩⟩, rfl⟩
  obtain ⟨hbefore, hlast⟩ := history_induct Reaches.step hstart failed
  constructor
  · intro x hx
    obtain ⟨offset, paused, -⟩ := hbefore x hx
    obtain ⟨e, hfailed⟩ := failed x hx
    obtain ⟨offset', paused', hdownloaded, more, -⟩ := x.2.failed paused hfailed
    rw [hdownloaded, UInt64.toNat_ofNat_of_lt' (Nat.lt_trans more last.attempt.size)]
    exact paused'.check last.attempt.size
  intro before
  obtain ⟨offset, paused, tiles⟩ := hlast
  have hattempt := paused.attempt last.attempt last.positive last.net last.turns
  constructor
  · intro served enough
    obtain ⟨r, w, hrun, ⟨rfl, -⟩ | ⟨-, hturns⟩⟩ :=
      hattempt.returns_of_not_fails (fun _ _ h => h.2 served)
    · exact congrArg answer hrun
    · omega
  · intro w hrun
    rcases hattempt.returned hrun with ⟨-, delivered⟩ | ⟨hnone, -⟩
    · have htarget := (congrArg w.files last.attempt.target).symm.trans delivered.target
      exact ⟨htarget, delivered.downloaded, delivered.chunks,
        tiles_append tiles (delivered.tiles last.positive)⟩
    · cases hnone

/-- An attempt that loses its camera after two bytes of three, and one that does not. -/
def losingTry (lost : Nat) : Try (steadyJob []).savePath [1, 2, 3] where
  Net := Unit
  job := losingJob [1, 2, 3] lost
  net := ()
  turns := 4
  attempt :=
    { platform := rfl
      target := rfl
      chunkSize := (by decide : 2 < 2 ^ 32)
      minChunkSize := (by decide : 1 < 2 ^ 32)
      size := by decide
      honest := fun _ _ _ _ _ _ hask _ => losingJob_ok hask }
  positive := (by decide : 1 ≤ 2)

/-- After the loss of the camera another attempt gets the third byte. -/
theorem tiles_across_attempts_lost :
    answer ((losingTry 3).outcome ((losingTry 2).left (fun _ => none)).files) =
      .ok (some ()) := by
  have hfailed : ∀ x ∈ history Try.after ⟨fun _ => none, []⟩ [losingTry 2], Fails x := by
    intro x hx
    cases List.mem_singleton.mp hx
    exact ⟨.timeout, by decide⟩
  have hserved : Served (losingTry 3).job [1, 2, 3]
    | 0, _, _ => Or.inl ⟨[1, 2], (), rfl, rfl⟩
    | 1, _, _ => Or.inl ⟨[2, 3], (), rfl, rfl⟩
    | 2, _, _ => Or.inl ⟨[3], (), rfl, rfl⟩
  exact (tiles_across_attempts rfl (by rintro ⟨_, h, -⟩; cases h) [losingTry 2] hfailed
    (losingTry 3)).2.1 hserved (by decide)

end tries

end InterruptedDownloads
