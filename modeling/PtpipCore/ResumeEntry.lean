import PtpipCore.ResumePlan

/-!
# What the main loop starts with

The check hands the loop an offset and an opened file. A temporary file that is longer
than the object is published like a complete one, and a length that the cast to `usize`
cuts is taken for another one.
-/

namespace ResumeEntry

open Effects ByteStream CrashActions FileActions Text Types Resume ResumePlan
open EStateM (Result)
open Function (update)

section outcome

variable (platform : Platform) (savePath : Path) (totalSize : Nat)

/-- What a plan comes to. -/
def outcome (fs : FileSystem Path) : Plan → Result PtpIpError (FileSystem Path) (Nat × File Path)
  | .finished => .ok (totalSize, ⟨savePath, .read⟩) fs
  | .refuse e => .error e fs
  | .restart => .ok (0, ⟨getTempPath savePath, .write 0⟩)
      (update (update fs (getResumePath savePath) none) (getTempPath savePath) (some []))
  | .publish contents => .ok (totalSize, ⟨savePath, .read⟩)
      (update (update (update fs (getTempPath savePath) none) savePath (some contents))
        (getResumePath savePath) none)
  | .resume offset => .ok (offset, ⟨getTempPath savePath, .append⟩) fs
  | .fresh => .ok (0, ⟨getTempPath savePath, .write 0⟩)
      (update fs (getTempPath savePath) (some []))

lemma meets_outcome (fs : FileSystem Path) (p : Plan) :
    p.Meets savePath totalSize fs ⟨fun a t => .ok a t = outcome savePath totalSize fs p,
      fun e t => .error e t = outcome savePath totalSize fs p, fun _ => True⟩ := by
  cases p with
  | finished => rfl
  | refuse e => rfl
  | restart => exact ⟨trivial, trivial, trivial, rfl⟩
  | publish contents => exact ⟨trivial, trivial, rfl⟩
  | resume offset => rfl
  | fresh => exact ⟨trivial, trivial, rfl⟩

/-- The check computes what its plan comes to. -/
theorem checkResumeState_run (fs : FileSystem Path) :
    (checkResumeState platform savePath totalSize).run fs =
      outcome savePath totalSize fs (plan platform savePath totalSize fs) :=
  Ensures.outcome (Q := (· = outcome savePath totalSize fs (plan platform savePath totalSize fs)))
    (checkResumeState_ensures trivial (meets_outcome savePath totalSize fs _))

variable {platform savePath totalSize} in
/-- A handle that comes with something left to transfer can be written to. -/
theorem checkResumeState_writable {fs fs' : FileSystem Path} {offset : Nat} {file : File Path}
    (run : (checkResumeState platform savePath totalSize).run fs = .ok (offset, file) fs')
    (more : offset < totalSize) : file.mode ≠ .read := by
  rw [checkResumeState_run] at run
  intro readOnly
  cases hplan : plan platform savePath totalSize fs <;> rw [hplan] at run <;> cases run
  case finished => exact Nat.lt_irrefl _ more
  case publish => exact Nat.lt_irrefl _ more
  all_goals cases readOnly

end outcome

/-- The loop's entry condition. -/
structure Entered (savePath : Path) (totalSize offset : Nat) (file : File Path)
    (fs : FileSystem Path) : Prop where
  bound : offset ≤ totalSize
  writes : offset < totalSize → file.path = getTempPath savePath ∧ file.AtEnd offset ∧
    ∃ contents, fs (getTempPath savePath) = some contents ∧ contents.length = offset
  complete : offset = totalSize → 0 < totalSize →
    ∃ contents, fs savePath = some contents ∧ contents.length = totalSize

section entry

variable (platform : Platform) (savePath : Path) (totalSize : Nat)

/-- Whenever the check returns, the entry condition holds. -/
def Establishes (fs : FileSystem Path) : Prop :=
  ∀ offset file fs', (checkResumeState platform savePath totalSize).run fs =
    .ok (offset, file) fs' → Entered savePath totalSize offset file fs'

/-- A target that is taken for complete has the length that is expected of it, and a temporary
file that its record agrees with has its own, which is not too long. -/
structure Measured (fs : FileSystem Path) : Prop where
  target : 0 < totalSize → ∀ contents, fs savePath = some contents →
    lenOf platform contents = totalSize → contents.length = totalSize
  temp : 0 < totalSize → ¬ Complete platform savePath totalSize fs →
    ∀ record contents, fs (getResumePath savePath) = some record →
      fs (getTempPath savePath) = some contents →
      recordOffset platform record = .ok (lenOf platform contents) →
      contents.length = min (lenOf platform contents) totalSize

variable {platform savePath totalSize} {fs : FileSystem Path}

/-- An empty temporary file is where the object begins. -/
lemma entered_start (htemp : fs (getTempPath savePath) = some []) :
    Entered savePath totalSize 0 ⟨getTempPath savePath, .write 0⟩ fs where
  bound := Nat.zero_le _
  writes _ := ⟨rfl, Or.inr rfl, [], htemp, rfl⟩
  complete hzero positive := absurd hzero (Nat.ne_of_lt positive)

/-- With nothing left to transfer the target has to be complete. -/
lemma entered_done_iff {file : File Path} {contents : Bytes}
    (target : fs savePath = some contents) :
    Entered savePath totalSize totalSize file fs ↔
      (0 < totalSize → contents.length = totalSize) := by
  constructor
  · intro entered positive
    obtain ⟨contents', target', length⟩ := entered.complete rfl positive
    cases target.symm.trans target'
    exact length
  · intro length
    exact ⟨Nat.le_refl _, fun h => absurd h (Nat.lt_irrefl _), fun _ positive =>
      ⟨contents, target, length positive⟩⟩

/-- Behind a temporary file the loop goes on if the file is as long as the offset says. -/
lemma entered_resumed_iff {contents : Bytes} {offset : Nat}
    (htemp : fs (getTempPath savePath) = some contents) (short : offset < totalSize) :
    Entered savePath totalSize offset ⟨getTempPath savePath, .append⟩ fs ↔
      contents.length = offset := by
  constructor
  · intro entered
    obtain ⟨-, -, contents', htemp', length⟩ := entered.writes short
    cases htemp.symm.trans htemp'
    exact length
  · intro length
    exact ⟨Nat.le_of_lt short, fun _ => ⟨rfl, Or.inl rfl, contents, htemp, length⟩,
      fun heq => absurd heq (Nat.ne_of_lt short)⟩

lemma establishes_iff_of_run {offset : Nat} {file : File Path} {fs' : FileSystem Path}
    (run : (checkResumeState platform savePath totalSize).run fs = .ok (offset, file) fs') :
    Establishes platform savePath totalSize fs ↔ Entered savePath totalSize offset file fs' := by
  constructor
  · exact fun establishes => establishes offset file fs' run
  · intro entered offset' file' fs'' run'
    cases run.symm.trans run'
    exact entered

/-- With a complete target only its own length counts. -/
lemma measured_complete_iff {contents : Bytes} (target : fs savePath = some contents)
    (complete : lenOf platform contents = totalSize) :
    Measured platform savePath totalSize fs ↔ (0 < totalSize → contents.length = totalSize) := by
  constructor
  · exact fun measured positive => measured.target positive contents target complete
  · intro length
    refine ⟨?_, fun _ incomplete => absurd ⟨contents, target, complete⟩ incomplete⟩
    intro positive contents' target' _
    cases target.symm.trans target'
    exact length positive

/-- Without one, only that of a temporary file that the record agrees with. -/
lemma measured_incomplete_iff (incomplete : ¬ Complete platform savePath totalSize fs)
    {record contents : Bytes} {offset : Nat} (hrecord : fs (getResumePath savePath) = some record)
    (htemp : fs (getTempPath savePath) = some contents)
    (readable : recordOffset platform record = .ok offset)
    (agrees : lenOf platform contents = offset) :
    Measured platform savePath totalSize fs ↔
      (0 < totalSize → contents.length = min offset totalSize) := by
  subst agrees
  constructor
  · exact fun measured positive =>
      measured.temp positive incomplete record contents hrecord htemp readable
  · intro length
    refine ⟨fun _ contents' target complete =>
      absurd ⟨contents', target, complete⟩ incomplete, ?_⟩
    intro positive _ record' contents' _ htemp' _
    cases htemp.symm.trans htemp'
    exact length positive

/-- Without a record that agrees with a temporary file there is nothing to measure. -/
lemma measured_of_disagreement (incomplete : ¬ Complete platform savePath totalSize fs)
    (disagree : ¬ RecordAgrees platform savePath fs) : Measured platform savePath totalSize fs :=
  ⟨fun _ contents target complete => absurd ⟨contents, target, complete⟩ incomplete,
    fun _ _ record contents hrecord htemp agrees =>
      absurd ⟨record, contents, hrecord, htemp, agrees⟩ disagree⟩

/-- The check establishes the loop's entry condition from exactly the measured files. -/
theorem establishes_iff (platform : Platform) (savePath : Path) (totalSize : Nat)
    (fs : FileSystem Path) :
    Establishes platform savePath totalSize fs ↔ Measured platform savePath totalSize fs := by
  have hrun := checkResumeState_run platform savePath totalSize fs
  have hfinds := finds platform savePath totalSize fs
  generalize plan platform savePath totalSize fs = p at hrun hfinds
  cases hfinds with
  | finished complete =>
    obtain ⟨contents, target, length⟩ := complete
    rw [establishes_iff_of_run hrun, entered_done_iff target, measured_complete_iff target length]
  | refuse incomplete hrecord htemp unreadable =>
    refine iff_of_true ?_ (measured_of_disagreement incomplete
      (not_recordAgrees_of_entry hrecord htemp ?_))
    · intro offset file fs' run
      cases hrun.symm.trans run
    · intro agrees
      cases unreadable.symm.trans agrees
  | restart incomplete hrecord htemp readable mismatch =>
    rw [establishes_iff_of_run hrun]
    refine iff_of_true (entered_start (Function.update_self _ _ _))
      (measured_of_disagreement incomplete (not_recordAgrees_of_entry hrecord htemp ?_))
    intro agrees
    exact mismatch (Except.ok.inj (readable.symm.trans agrees)).symm
  | @publish record contents offset incomplete hrecord htemp readable agrees reached =>
    have target : update (update (update fs (getTempPath savePath) none) savePath
        (some contents)) (getResumePath savePath) none savePath = some contents := by
      rw [Function.update_of_ne (getResumePath_ne savePath).symm, Function.update_self]
    rw [establishes_iff_of_run hrun, entered_done_iff target,
      measured_incomplete_iff incomplete hrecord htemp readable agrees, Nat.min_eq_right reached]
  | @resume record contents offset incomplete hrecord htemp readable agrees short =>
    have positive : 0 < totalSize := Nat.zero_lt_of_lt short
    rw [establishes_iff_of_run hrun, entered_resumed_iff htemp short,
      measured_incomplete_iff incomplete hrecord htemp readable agrees,
      Nat.min_eq_left (Nat.le_of_lt short)]
    exact (imp_iff_right positive).symm
  | fresh incomplete absent =>
    rw [establishes_iff_of_run hrun]
    exact iff_of_true (entered_start (Function.update_self _ _ _))
      (measured_of_disagreement incomplete (not_recordAgrees_of_absent absent))

/-- Of files that `usize` can count, it takes a temporary file longer than the object, with
its length in the record and no complete target beside it. -/
theorem measured_iff (fits : ∀ path contents, fs path = some contents →
      contents.length < 2 ^ platform.usizeBits) :
    Measured platform savePath totalSize fs ↔
      ¬ (0 < totalSize ∧ ¬ Complete platform savePath totalSize fs ∧
        ∃ record contents, fs (getResumePath savePath) = some record ∧
          fs (getTempPath savePath) = some contents ∧
          recordOffset platform record = .ok contents.length ∧ totalSize < contents.length) := by
  constructor
  · rintro measured ⟨positive, incomplete, record, contents, hrecord, htemp, readable, long⟩
    have hlen := lenOf_eq (fits _ _ htemp)
    have length := measured.temp positive incomplete record contents hrecord htemp
      (hlen.symm ▸ readable)
    omega
  · intro none
    refine ⟨fun _ contents target length => (lenOf_eq (fits _ _ target)).symm.trans length, ?_⟩
    intro positive incomplete record contents hrecord htemp agrees
    have hlen := lenOf_eq (fits _ _ htemp)
    have short : contents.length ≤ totalSize := Nat.le_of_not_lt fun long =>
      none ⟨positive, incomplete, record, contents, hrecord, htemp, hlen ▸ agrees, long⟩
    omega

end entry

/-- Four bytes and their record, where an object of three is expected. -/
def overlong : FileSystem Path :=
  update (update (fun _ => none) (getTempPath ⟨[], some [97]⟩) (some [1, 2, 3, 4]))
    (getResumePath ⟨[], some [97]⟩) (some (decimal 4))

/-- The four bytes are published, and the loop is told that nothing is left. -/
theorem overlong_published :
    answer ((checkResumeState .bits64 ⟨[], some [97]⟩ 3).run overlong) =
      .ok (3, ⟨⟨[], some [97]⟩, .read⟩) ∧
    (endState ((checkResumeState .bits64 ⟨[], some [97]⟩ 3).run overlong)) ⟨[], some [97]⟩ =
      some [1, 2, 3, 4] ∧
    ¬ Establishes .bits64 ⟨[], some [97]⟩ 3 overlong := by
  have hanswer : answer ((checkResumeState .bits64 ⟨[], some [97]⟩ 3).run overlong) =
      .ok (3, ⟨⟨[], some [97]⟩, .read⟩) := by decide
  have htarget : (endState ((checkResumeState .bits64 ⟨[], some [97]⟩ 3).run overlong))
      ⟨[], some [97]⟩ = some [1, 2, 3, 4] := by decide
  refine ⟨hanswer, htarget, fun establishes => ?_⟩
  obtain ⟨contents, target, length⟩ :=
    (establishes _ _ _ (eq_ok_of_answer hanswer)).complete rfl (by decide)
  cases htarget.symm.trans target
  exact absurd length (by decide)

end ResumeEntry
