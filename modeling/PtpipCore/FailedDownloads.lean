import PtpipCore.DownloadTurns
import PtpipCore.ResumeInvariant

/-!
# What a failed download leaves at the target

The loop writes beside the target and the end replaces it as its last fallible step. The
check publishes a temporary file too, but it is not the last thing that can fail.
-/

namespace FailedDownloads

open Effects ByteStream CrashActions FileActions Text Types Resume ResumePlan Download DownloadRun
open DownloadTurns
open ResumeInvariant (steadyJob started_target)
open EStateM (Result)
open Function (update)

variable {ν : Type}

section transfer

variable {job : Job ν} {totalSize : Nat} {cur cur' : Job.Cursor} {w w' : World ν}

/-- An accepted chunk goes to the temporary file, its offset to the record. -/
lemma accepts_target (accepts : Accepts job totalSize cur w cur' w')
    (path : cur.file.path = getTempPath job.savePath) :
    cur'.file.path = getTempPath job.savePath ∧ w'.files job.savePath = w.files job.savePath := by
  obtain ⟨data, -, files⟩ := accepts.files
  refine ⟨by rw [accepts.file, File.advance_path, path], ?_⟩
  rw [files, Function.update_of_ne (getResumePath_ne _).symm, File.put, path,
    Function.update_of_ne (getTempPath_ne _).symm]

/-- So does a turn that is given up. -/
lemma failed_target {e : PtpIpError} (run : (job.downloadChunk totalSize cur).run w = .error e w') :
    w'.files job.savePath = w.files job.savePath := by
  have turn := downloadChunk_turn job totalSize cur w
  rw [run] at turn
  cases turn with
  | refused => rfl
  | wrongLength => exact Function.update_of_ne (getResumePath_ne _).symm _ _

/-- However the loop ends, it leaves the target as it was. -/
lemma downloadLoop_target (path : cur.file.path = getTempPath job.savePath) (turns : Nat) :
    (endState ((job.downloadLoop totalSize turns cur).run w)).files job.savePath =
      w.files job.savePath := by
  have head : Reaches job totalSize cur w [] cur w := .start
  obtain ⟨chunks, cur', w', reaches, -, loopEnd⟩ := downloadLoop_reaches head turns
  have kept : cur'.file.path = getTempPath job.savePath ∧
      w'.files job.savePath = w.files job.savePath := by
    refine reaches.preserves (I := fun c v => c.file.path = getTempPath job.savePath ∧
      v.files job.savePath = w.files job.savePath) ⟨path, rfl⟩ ?_
    rintro c v c' v' - ⟨path, target⟩ accepts
    exact ⟨(accepts_target accepts path).1, (accepts_target accepts path).2.trans target⟩
  generalize (job.downloadLoop totalSize turns cur).run w = r at loopEnd
  cases loopEnd with
  | outOfTurns => exact kept.2
  | finished => exact kept.2
  | failed _ run => exact (failed_target run).trans kept.2

/-- The end fails only before it has done anything. -/
lemma finish_fails_first : Ensures (job.finish totalSize) w
    ⟨fun _ _ => True, fun _ w' => w'.files job.savePath = w.files job.savePath,
      fun _ => True⟩ := by
  cases htemp : w.files (getTempPath job.savePath) with
  | none => exact finish_missing htemp trivial rfl
  | some contents =>
    exact finish_ensures htemp trivial trivial (fun _ => trivial) (fun _ => trivial)

/-- A transfer into the temporary file that fails leaves the target as it was. -/
lemma transfer_fails_first {offset turns : Nat} {file : File Path}
    (path : file.path = getTempPath job.savePath) :
    Ensures (job.transfer totalSize turns offset file) w
      ⟨fun _ _ => True, fun _ w' => w'.files job.savePath = w.files job.savePath,
        fun _ => True⟩ := by
  let w₁ : World ν :=
    { w with stats := { w.stats with downloadedBytes := UInt64.ofNat offset } }
  refine ensures_bind (ensures_atomic_ok (t := w₁) rfl trivial trivial (ensures_bind ?_))
  have kept : (endState ((job.downloadLoop totalSize turns ⟨offset, file, 0⟩).run w₁)).files
      job.savePath = w.files job.savePath := downloadLoop_target path turns
  change Ensures (job.downloadLoop totalSize turns ⟨offset, file, 0⟩) w₁ _
  refine ensures_of_outcome ?_ (fun _ => trivial)
  cases hrun : (job.downloadLoop totalSize turns ⟨offset, file, 0⟩).run w₁ with
  | ok r w₂ =>
    rw [hrun] at kept
    cases r with
    | none => exact ensures_pure trivial trivial
    | some cur =>
      refine ensures_bind (finish_fails_first.mono ?_ ?_ (fun _ _ => trivial))
      · exact fun _ _ _ => ensures_pure trivial trivial
      · exact fun _ _ target => target.trans kept
  | error e w₂ =>
    rw [hrun] at kept
    exact kept

end transfer

section download

variable (job : Job ν) (w : World ν)

/-- Whenever the download fails, the target is what it was at entry. -/
def TargetKept : Prop :=
  ∀ turns e w', (job.downloadObjectWithResume turns).run w = .error e w' →
    w'.files job.savePath = w.files job.savePath

/-- Where the record is the length of a temporary file that is long enough, the target is
complete or has that file's bytes already. -/
def NothingToPublish : Prop :=
  let totalSize := job.platform.asUsize w.stats.totalBytes.toNat
  ∀ record contents, w.files (getResumePath job.savePath) = some record →
    w.files (getTempPath job.savePath) = some contents →
    recordOffset job.platform record = .ok (lenOf job.platform contents) →
    totalSize ≤ lenOf job.platform contents →
    Complete job.platform job.savePath totalSize w.files ∨
      w.files job.savePath = some contents

variable {job w}

/-- With nothing to publish a download that fails leaves the target as it was. -/
lemma download_fails_first (nothing : NothingToPublish job w) (turns : Nat) :
    Ensures (job.downloadObjectWithResume turns) w
      ⟨fun _ _ => True, fun _ w' => w'.files job.savePath = w.files job.savePath,
        fun _ => True⟩ := by
  refine download_finds rfl trivial ?_
  intro p hfinds
  cases hfinds with
  | finished complete =>
    exact transfer_done (fun _ => trivial) (fun _ _ => trivial) (fun _ =>
      finish_fails_first.mono (fun _ _ _ => ⟨trivial, trivial⟩) (fun _ _ h => h)
        (fun _ _ => trivial))
  | refuse => exact rfl
  | restart =>
    refine ⟨trivial, trivial, trivial, (transfer_fails_first rfl).mono (fun _ _ _ => trivial)
      (fun _ _ target => target.trans ?_) (fun _ _ => trivial)⟩
    exact (started_target _ _).trans (Function.update_of_ne (getResumePath_ne _).symm _ _)
  | @publish record contents offset incomplete hrecord htemp readable agrees reached =>
    have target : w.files job.savePath = some contents :=
      (nothing record contents hrecord htemp (agrees ▸ readable) (agrees ▸ reached)).resolve_left
        incomplete
    refine ⟨trivial, trivial, transfer_done (fun _ => trivial) (fun _ _ => trivial) (fun _ =>
      finish_missing (published_temp _ _ _) trivial ?_)⟩
    exact (published_target _ _ _).trans target.symm
  | resume =>
    exact (transfer_fails_first rfl).mono (fun _ _ _ => trivial) (fun _ _ h => h)
      (fun _ _ => trivial)
  | fresh =>
    exact ⟨trivial, trivial, (transfer_fails_first rfl).mono (fun _ _ _ => trivial)
      (fun _ _ target => target.trans (started_target _ _)) (fun _ _ => trivial)⟩

/-- A download that publishes in the check fails, with the published file at the target. -/
lemma publish_fails {record contents : Bytes}
    (hrecord : w.files (getResumePath job.savePath) = some record)
    (htemp : w.files (getTempPath job.savePath) = some contents)
    (readable : recordOffset job.platform record = .ok (lenOf job.platform contents))
    (reached : job.platform.asUsize w.stats.totalBytes.toNat ≤ lenOf job.platform contents)
    (incomplete : ¬ Complete job.platform job.savePath
      (job.platform.asUsize w.stats.totalBytes.toNat) w.files) :
    ∃ e w', (job.downloadObjectWithResume 1).run w = .error e w' ∧
      w'.files job.savePath = some contents := by
  have hplan : plan job.platform job.savePath (job.platform.asUsize w.stats.totalBytes.toNat)
      w.files = .publish contents := by
    rw [plan, if_neg (fun h => incomplete (complete_iff.mp h)), hrecord, htemp]
    simp only [recordPlan, readable, ne_eq, not_true_eq_false, if_false, if_pos reached]
  have ends : Ensures (job.downloadObjectWithResume 1) w ⟨fun _ _ => False,
      fun _ w' => w'.files job.savePath = some contents, fun _ => True⟩ := by
    refine download_ensures rfl trivial ?_
    rw [hplan]
    exact ⟨trivial, trivial, transfer_done (fun _ => trivial)
      (fun h => absurd h Nat.one_ne_zero) (fun _ =>
        finish_missing (published_temp _ _ _) trivial (published_target _ _ _))⟩
  cases hrun : (job.downloadObjectWithResume 1).run w with
  | ok r w' => exact (ends.returned hrun).elim
  | error e w' => exact ⟨e, w', rfl, ends.failed hrun⟩

/-- The target survives every failure exactly where the check has nothing to publish. -/
theorem target_kept_iff (job : Job ν) (w : World ν) :
    TargetKept job w ↔ NothingToPublish job w := by
  constructor
  · intro kept record contents hrecord htemp readable reached
    by_contra changed
    obtain ⟨incomplete, other⟩ := not_or.mp changed
    obtain ⟨e, w', hrun, target⟩ := publish_fails hrecord htemp readable reached incomplete
    exact other ((kept 1 e w' hrun).symm.trans target)
  · intro nothing turns e w' hrun
    exact (download_fails_first nothing turns).failed hrun

end download

/-- All of the object and its length, left by an attempt that was cut before the end. -/
def wholeBeside : FileSystem Path :=
  update (update (fun _ => none) (getTempPath (steadyJob [1, 2, 3]).savePath) (some [1, 2, 3]))
    (getResumePath (steadyJob [1, 2, 3]).savePath) (some (decimal 3))

/-- The download fails, and there is a target where there was none. -/
theorem target_appears : ¬ TargetKept (steadyJob [1, 2, 3]) (World.start wholeBeside () 3) := by
  intro kept
  let w : World Unit := World.start wholeBeside () 3
  have hrecord : w.files (getResumePath (steadyJob [1, 2, 3]).savePath) = some (decimal 3) := by
    decide
  have htemp : w.files (getTempPath (steadyJob [1, 2, 3]).savePath) = some [1, 2, 3] := by decide
  have noTarget : w.files (steadyJob [1, 2, 3]).savePath = none := by decide
  obtain ⟨e, w', hrun, target⟩ := publish_fails hrecord htemp (by decide) (by decide) (by
    rintro ⟨contents, target, -⟩
    cases noTarget.symm.trans target)
  cases target.symm.trans ((kept 1 e w' hrun).trans noTarget)

end FailedDownloads
