import PtpipCore.ResumeInvariant

/-!
# Which interrupted downloads can be completed

One more attempt, with a camera that answers, either delivers the object or fails
for good. It fails where the check has already dealt with the target: the end of
the download renames a temporary file that is not there any more. It also fails
on a record that a crash has left unreadable.
-/

namespace Completion

open Effects ByteStream CrashActions FileActions Types Resume ResumePlan Download DownloadRun
open ResumeInvariant
open EStateM (Result)
open Function (update)

/-- Every request within the object is answered with its bytes. -/
def Answers {ν : Type} (job : Job ν) (object : Bytes) : Prop :=
  ∀ (offset : UInt64) (length : UInt32) (net : ν), offset.toNat + length.toNat ≤ object.length →
    ∃ net', job.getPartialObject job.objectHandle offset length net =
      .ok ((object.drop offset.toNat).take length.toNat) net'

/-- `Ok`, with the object at the target and nothing beside it. -/
def Completes {ν : Type} (savePath : Path) (object : Bytes)
    (r : Result PtpIpError (World ν) (Option Unit)) : Prop :=
  answer r = .ok (some ()) ∧ (endState r).files savePath = some object ∧
    (endState r).files (getTempPath savePath) = none ∧
    (endState r).files (getResumePath savePath) = none

section attempt

variable {ν : Type} {job : Job ν} {o : Bytes} {w : World ν} {turns : Nat}

/-- An attempt that is served and has turns enough delivers the object from recoverable
files, and fails on all others. -/
theorem attempt_completes (sound : Sound job.savePath o w.files)
    (size : job.platform.asUsize w.stats.totalBytes.toNat = o.length)
    (faithful : Faithful job o 0) (uncounted : w.stats.chunks = 0 ∧ w.accepted = [])
    (served : Served job o) (positive : 1 ≤ job.downloadConfig.chunkSize)
    (enough : o.length < turns) :
    Ensures (job.downloadObjectWithResume turns) w
      ⟨fun r w' => (r = some () ∧ ∃ offset, Delivered job o offset w') ∧
          Recoverable job.platform job.savePath o w.files,
        fun _ _ => ¬ Recoverable job.platform job.savePath o w.files, fun _ => True⟩ := by
  refine sound_attempt sound size (fun _ _ => trivial) ?_ ?_ (fun stuck _ => stuck)
  · intro recoverable fs offset file _ inside htemp path atEnd
    refine (transfer_ensures (w := w.setFiles fs) (faithful.later (Nat.zero_le _)) inside htemp
      path atEnd uncounted).mono ?_ ?_ (fun _ _ => trivial)
    · rintro r w' (⟨rfl, delivered⟩ | ⟨-, hturns⟩)
      · exact ⟨⟨rfl, offset, delivered⟩, recoverable⟩
      · have := hturns positive
        omega
    · exact fun e w' h => absurd served h.2
  · intro stuck fs file htemp _
    exact transfer_done (fun _ => trivial) (fun h => absurd enough (by omega))
      (fun _ => finish_missing htemp trivial stuck)

end attempt

section runs

variable {ν : Type} {job : Job ν} {platform : Platform} {savePath : Path} {object : Bytes}
  {fs : FileSystem Path}

/-- A camera that answers serves every chunk of the attempt. -/
lemma served_of_answers (attempt : Attempt platform savePath object job)
    (answers : Answers job object) : Served job (countable platform object) := by
  intro offset net more
  obtain ⟨h64, h32, hinside⟩ := attempt.request more
  have hle : (countable platform object).length ≤ object.length :=
    (List.take_prefix _ _).length_le
  obtain ⟨net', hask⟩ := answers (UInt64.ofNat offset)
    (UInt32.ofNat (job.nextChunk (countable platform object).length offset)) net
    (by rw [h64, h32]; omega)
  refine servedWithin_of_first hask ?_ _
  rw [h64, h32, List.length_take_of_le (by rw [List.length_drop]; omega)]

/-- From any reachable files one more attempt completes the download exactly when `usize`
counts the object, there is no target yet and the record is no obstacle. -/
theorem completes_iff {platform : Platform} {savePath : Path} {object : Bytes}
    {fs : FileSystem Path} (reachable : Reachable platform savePath object fs) {ν : Type}
    {job : Job ν} (attempt : Attempt platform savePath object job)
    (positive : 1 ≤ job.downloadConfig.chunkSize) (answers : Answers job object) (net : ν)
    {turns : Nat} (enough : object.length < turns) :
    Completes savePath object ((job.downloadObjectWithResume turns).run
      (World.start fs net (UInt64.ofNat object.length))) ↔
    object.length < 2 ^ platform.usizeBits ∧ Recoverable platform savePath object fs := by
  have hsound := reachable.sound
  have hok := attempt.ensures hsound net turns
  obtain ⟨rfl, rfl⟩ := And.intro attempt.platform attempt.target
  have hsize := countable_length job.platform object
  have hle : (countable job.platform object).length ≤ object.length :=
    (List.take_prefix _ _).length_le
  have hcompletes := attempt_completes (w := World.start fs net (UInt64.ofNat object.length))
    hsound (hsize.trans (congrArg _ (UInt64.toNat_ofNat_of_lt' attempt.size).symm)).symm
    attempt.faithful ⟨rfl, rfl⟩ (served_of_answers attempt answers) positive
    (Nat.lt_of_le_of_lt hle enough)
  cases hrun : (job.downloadObjectWithResume turns).run
    (World.start fs net (UInt64.ofNat object.length)) with
  | error e w =>
    constructor
    · rintro ⟨h, -⟩
      cases h
    · rintro ⟨fits, recoverable⟩
      exact absurd ((countable_eq _ fits).symm ▸ recoverable) (hcompletes.failed hrun)
  | ok r w =>
    obtain ⟨⟨rfl, offset, delivered⟩, recoverable⟩ := hcompletes.returned hrun
    constructor
    · rintro ⟨-, htarget, -⟩
      have hobject := Option.some.inj ((hok.returned hrun rfl).symm.trans htarget)
      have hlength := congrArg List.length hobject
      rw [hsize] at hlength
      have fits : object.length < 2 ^ job.platform.usizeBits := by
        rw [← hlength]
        exact Nat.mod_lt _ (Nat.two_pow_pos _)
      exact ⟨fits, hobject ▸ recoverable⟩
    · rintro ⟨fits, -⟩
      rw [countable_eq _ fits] at delivered
      exact ⟨rfl, delivered.target, delivered.temp, delivered.record⟩

/-- What is left when a download of three bytes is cut behind its first chunk of two. -/
private def cutShort : FileSystem Path :=
  (endState (((steadyJob [1, 2, 3]).downloadObjectWithResume 1).run
    (World.start (fun _ => none) () 3))).files

/-- The next attempt goes on from there and completes. -/
theorem completes_resumed :
    cutShort (getTempPath (steadyJob [1, 2, 3]).savePath) = some [1, 2] ∧
    Completes (steadyJob [1, 2, 3]).savePath [1, 2, 3]
      (((steadyJob [1, 2, 3]).downloadObjectWithResume 4).run (World.start cutShort () 3)) := by
  have reachable : Reachable .bits64 (steadyJob [1, 2, 3]).savePath [1, 2, 3] cutShort :=
    .attempt (.start rfl rfl rfl) (steadyJob_attempt (by decide)) (Action.crash_end _ _)
  have recoverable : Recoverable .bits64 (steadyJob [1, 2, 3]).savePath [1, 2, 3] cutShort := by
    refine ⟨rfl, ?_⟩
    rintro ⟨record, contents, hrecord, htemp, unreadable | ⟨-, complete⟩⟩
    · obtain rfl : record = Text.decimal 2 := Option.some.inj (hrecord.symm.trans (by decide))
      obtain ⟨e, unreadable⟩ := unreadable
      cases unreadable.symm.trans (recordOffset_decimal .bits64 (by decide : 2 < 2 ^ 64))
    · obtain rfl : contents = [1, 2] := Option.some.inj (htemp.symm.trans (by decide))
      exact absurd complete (by decide)
  exact ⟨by decide, (completes_iff reachable (steadyJob_attempt (by decide)) (by decide : 1 ≤ 2)
    (fun _ _ _ _ => ⟨(), rfl⟩) () (by decide : 3 < 4)).mpr ⟨by decide, recoverable⟩⟩

/-- A download of three bytes that runs to its end. -/
def wholeRun (fs : FileSystem Path) : Result PtpIpError (World Unit) (Option Unit) :=
  ((steadyJob [1, 2, 3]).downloadObjectWithResume 4).run (World.start fs () 3)

/-- The second download of the same object fails: it renames a file that is not there. -/
theorem second_download_fails :
    Reachable .bits64 (steadyJob [1, 2, 3]).savePath [1, 2, 3]
      (endState (wholeRun (fun _ => none))).files ∧
    ¬ Completes (steadyJob [1, 2, 3]).savePath [1, 2, 3]
      (wholeRun (endState (wholeRun (fun _ => none))).files) := by
  have hsecond : answer (wholeRun (endState (wholeRun (fun _ => none))).files) =
      .error (.io .notFound) := by decide
  constructor
  · exact .attempt (.start rfl rfl rfl) (steadyJob_attempt (by decide)) (Action.crash_end _ _)
  · rintro ⟨h, -⟩
    rw [hsecond] at h
    cases h

end runs

end Completion
