import PtpipCore.ResumeInvariant

/-!
# Complete targets

The check leaves as soon as the target is complete, and the end of the download
renames whatever temporary file there is over it.
-/

namespace CompleteTargets

open Effects ByteStream CrashActions FileActions Types Resume ResumePlan Download DownloadRun
open ResumeInvariant (steadyJob)
open EStateM (Result)
open Function (update)

variable {ν : Type} {job : Job ν} {w : World ν} {contents : Bytes}

/-- With a complete target the download ends at once: it publishes a temporary file, or fails and
leaves the files as they are. -/
theorem complete_ends (target : w.files job.savePath = some contents)
    (complete : contents.length = w.stats.totalBytes.toNat) (turns : Nat) :
    Ensures (job.downloadObjectWithResume (turns + 1)) w
      ⟨fun r w' => r = some () ∧ ∃ temp, w.files (getTempPath job.savePath) = some temp ∧
          w'.files job.savePath = some temp,
        fun _ w' => w.files (getTempPath job.savePath) = none ∧ w'.files = w.files,
        fun _ => True⟩ := by
  have hlength : UInt64.ofNat contents.length = w.stats.totalBytes := by
    rw [complete, UInt64.ofNat_toNat]
  have hcomplete : Complete job.platform job.savePath
      (job.platform.asUsize w.stats.totalBytes.toNat) w.files :=
    ⟨contents, target, by rw [lenOf, hlength]⟩
  have hplan : plan job.platform job.savePath (job.platform.asUsize w.stats.totalBytes.toNat)
      w.files = .finished := if_pos (complete_iff.mpr hcomplete)
  refine download_ensures rfl trivial ?_
  rw [hplan]
  refine transfer_done (fun _ => trivial) (fun h => absurd h (Nat.succ_ne_zero _)) ?_
  intro stats
  cases htemp : w.files (getTempPath job.savePath) with
  | some temp =>
    exact finish_ensures htemp trivial trivial (fun _ => trivial)
      (fun _ => ⟨trivial, rfl, temp, rfl, published_target _ _ _⟩)
  | none => exact finish_missing htemp trivial ⟨rfl, rfl⟩

/-- A complete target keeps its bytes if and only if no temporary file with other contents lies
beside it; the download returns in either case. -/
theorem complete_target_kept_iff (target : w.files job.savePath = some contents)
    (complete : contents.length = w.stats.totalBytes.toNat) (turns : Nat) :
    answer ((job.downloadObjectWithResume (turns + 1)).run w) ≠ .ok none ∧
      ((endState ((job.downloadObjectWithResume (turns + 1)).run w)).files job.savePath =
          some contents ↔
        ∀ temp, w.files (getTempPath job.savePath) = some temp → temp = contents) := by
  have ends := complete_ends target complete turns
  cases hrun : (job.downloadObjectWithResume (turns + 1)).run w with
  | ok r w' =>
    obtain ⟨rfl, temp, htemp, htarget⟩ := ends.returned hrun
    refine ⟨fun h => (by cases h), ?_⟩
    rw [endState_ok, htarget, htemp]
    constructor
    · rintro heq _ hother
      exact (Option.some.inj hother).symm.trans (Option.some.inj heq)
    · exact fun all => congrArg some (all temp rfl)
  | error e w' =>
    obtain ⟨htemp, hfiles⟩ := ends.failed hrun
    refine ⟨fun h => (by cases h), ?_⟩
    rw [endState_error, hfiles, htemp]
    exact iff_of_true target fun _ h => by cases h

/-- The object at the target, and one byte in a temporary file. -/
def leftOver : FileSystem Path :=
  update (update (fun _ => none) (steadyJob [1, 2, 3]).savePath (some [1, 2, 3]))
    (getTempPath (steadyJob [1, 2, 3]).savePath) (some [9])

theorem complete_target_kept_iff_left_over :
    answer (((steadyJob [1, 2, 3]).downloadObjectWithResume 1).run
        (World.start leftOver () 3)) ≠ .ok none ∧
      ((endState (((steadyJob [1, 2, 3]).downloadObjectWithResume 1).run
          (World.start leftOver () 3))).files (steadyJob [1, 2, 3]).savePath = some [1, 2, 3] ↔
        ∀ temp, leftOver (getTempPath (steadyJob [1, 2, 3]).savePath) = some temp →
          temp = [1, 2, 3]) :=
  complete_target_kept_iff (w := World.start leftOver () 3) (by decide) (by decide) 0

/-- The left-over byte is renamed over the object. -/
theorem complete_target_replaced : ¬ ∀ (ν : Type) (job : Job ν) (w : World ν) (contents : Bytes),
    w.files job.savePath = some contents → contents.length = w.stats.totalBytes.toNat →
      ∀ turns, (endState ((job.downloadObjectWithResume (turns + 1)).run w)).files job.savePath =
        some contents := by
  intro all
  have kept := all Unit (steadyJob [1, 2, 3]) (World.start leftOver () 3) [1, 2, 3] (by decide)
    (by decide) 0
  exact absurd kept (by decide)

end CompleteTargets
