import PtpipCore.Completion
import PtpipCore.Lib.FaultyActions

/-!
# Downloads on a disk that fails

Every operation on the files of a download can report an error, and leaves then what a crash during
it could leave. A test whether a file exists reports no error: it says that there is none. Which
paths it can miss is a parameter.
-/

namespace DiskErrors

open Effects ByteStream CrashActions FaultyActions FileActions Types Resume ResumePlan Download
open DownloadRun ResumeInvariant
open Faulty (sure risky test)
open EStateM (Result)
open Function (update)

variable {ν : Type}

abbrev FaultyFiles := Faulty (FileSystem Path) PtpIpError

abbrev FaultyStep (ν : Type) := Faulty (World ν) PtpIpError

/-- A disk whose operations can fail, and whose tests can miss some paths. -/
def disk (blind : Path → Prop) : Disk FaultyFiles where
  operation m := risky m
  pathExists path := test (blind path) (FileActions.pathExists path)
  sure m := sure m

def drive (blind : Path → Prop) : Job.Drive ν FaultyFiles (FaultyStep ν) where
  disk := disk blind
  onFiles m := m.within World.filesPart
  sure m := sure m
  attempt m := m.attempt

def downloadObjectWithResume (blind : Path → Prop) (job : Job ν) (turns : Nat) :
    FaultyStep ν (Option Unit) :=
  (drive blind).downloadObjectWithResume job turns

section flawless

variable (blind : Path → Prop)

section checking

variable (platform : Platform) (savePath : Path) (totalSize : Nat)

lemma targetComplete_flawless : ((disk blind).targetComplete platform savePath totalSize).flawless =
    targetComplete platform savePath totalSize := by
  refine congrArg (Action.bind _) (funext fun found => ?_)
  cases found <;> rfl

lemma checkRecord_flawless : ((disk blind).checkRecord platform savePath totalSize).flawless =
    checkRecord platform savePath totalSize := by
  refine congrArg (Action.bind _) (funext fun resumeData => ?_)
  refine congrArg (Action.bind _) (funext fun currentOffset => ?_)
  refine congrArg (Action.bind _) (funext fun len => ?_)
  refine (flawless_ite _ _).trans (congrArg _ ?_)
  exact flawless_ite _ _

lemma startOver_flawless : ((disk blind).startOver savePath).flawless = startOver savePath := by
  refine congrArg (Action.bind _) (funext fun found => ?_)
  cases found <;> rfl

lemma checkResumeState_flawless :
    ((disk blind).checkResumeState platform savePath totalSize).flawless =
      checkResumeState platform savePath totalSize := by
  refine congrArg₂ Action.bind (targetComplete_flawless _ _ _ _) (funext fun complete => ?_)
  cases complete with
  | true => rfl
  | false =>
    refine congrArg (Action.bind _) (funext fun hasRecord => ?_)
    refine congrArg (Action.bind _) (funext fun hasTemp => ?_)
    cases hasRecord with
    | false => exact startOver_flawless blind savePath
    | true =>
      cases hasTemp with
      | false => exact startOver_flawless blind savePath
      | true => exact checkRecord_flawless blind platform savePath totalSize

end checking

variable (job : Job ν) (totalSize : Nat)

lemma downloadChunk_flawless (cur : Job.Cursor) :
    ((drive blind).downloadChunk job totalSize cur).flawless = job.downloadChunk totalSize cur := by
  refine congrArg (Action.bind _) (funext fun data => ?_)
  exact flawless_ite _ _

lemma downloadLoop_flawless (turns : Nat) (cur : Job.Cursor) :
    ((drive blind).downloadLoop job totalSize turns cur).flawless =
      job.downloadLoop totalSize turns cur := by
  induction turns generalizing cur with
  | zero => rfl
  | succ turns ih =>
    refine (flawless_ite _ _).trans ?_
    rw [flawless_bind, downloadChunk_flawless, funext ih]
    rfl

lemma transfer_flawless (turns currentOffset : Nat) (file : File Path) :
    ((drive blind).transfer job totalSize turns currentOffset file).flawless =
      job.transfer totalSize turns currentOffset file := by
  refine congrArg (Action.bind _) (funext fun _ => ?_)
  refine congrArg₂ Action.bind (downloadLoop_flawless _ _ _ _ _) (funext fun ended => ?_)
  cases ended <;> rfl

/-- When nothing goes wrong with the files, this is the download. -/
theorem downloadObjectWithResume_flawless (turns : Nat) :
    (downloadObjectWithResume blind job turns).flawless = job.downloadObjectWithResume turns := by
  refine congrArg (Action.bind _) (funext fun totalBytes => ?_)
  refine congrArg₂ Action.bind ?_ (funext fun r => transfer_flawless blind job _ turns r.1 r.2)
  exact congrArg (Action.within World.filesPart) (checkResumeState_flawless _ _ _ _)

end flawless

section stopping

variable {blind : Path → Prop} {platform : Platform} {savePath : Path} {totalSize : Nat}
  {job : Job ν}

lemma stops_pathExists {path : Path} (sighted : ¬ blind path) :
    Stops ((disk blind).pathExists path) := stops_test sighted _

lemma stops_targetComplete (sighted : ¬ blind savePath) :
    Stops ((disk blind).targetComplete platform savePath totalSize) := by
  refine stops_bind (stops_pathExists sighted) fun found => stops_ite (fun _ => ?_) fun _ => ?_
  · exact stops_bind (stops_risky _) fun _ => stops_sure _
  · exact stops_sure _

lemma stops_checkRecord : Stops ((disk blind).checkRecord platform savePath totalSize) := by
  refine stops_bind (stops_risky _) fun _ => stops_bind (stops_sure _) fun _ => ?_
  refine stops_bind (stops_risky _) fun _ => stops_ite (fun _ => ?_) fun _ => ?_
  · refine stops_bind (stops_risky _) fun _ => stops_bind (stops_risky _) fun _ => ?_
    exact stops_bind (stops_risky _) fun _ => stops_sure _
  refine stops_ite (fun _ => ?_) fun _ => ?_
  · refine stops_bind (stops_risky _) fun _ => stops_bind (stops_risky _) fun _ => ?_
    exact stops_bind (stops_risky _) fun _ => stops_sure _
  · exact stops_bind (stops_risky _) fun _ => stops_sure _

lemma stops_startOver (sighted : ¬ blind (getTempPath savePath)) :
    Stops ((disk blind).startOver savePath) := by
  have created : Stops (do
      let file ← risky (create (getTempPath savePath))
      return (0, file) : FaultyFiles (Nat × File Path)) :=
    stops_bind (stops_risky _) fun _ => stops_sure _
  refine stops_bind (stops_pathExists sighted) fun found => stops_ite (fun _ => ?_) fun _ => ?_
  · exact stops_bind (stops_risky _) fun _ => created
  · exact created

lemma stops_checkResumeState (sighted : ∀ path, ¬ blind path) :
    Stops ((disk blind).checkResumeState platform savePath totalSize) := by
  refine stops_bind (stops_targetComplete (sighted _)) fun _ => stops_ite (fun _ => ?_) fun _ => ?_
  · exact stops_bind (stops_risky _) fun _ => stops_sure _
  refine stops_bind (stops_pathExists (sighted _)) fun _ => ?_
  refine stops_bind (stops_pathExists (sighted _)) fun _ => stops_ite (fun _ => ?_) fun _ => ?_
  · exact stops_checkRecord
  · exact stops_startOver (sighted _)

lemma stops_operation {α : Type} (act : Files α) :
    Stops ((drive blind).operation act : FaultyStep ν α) :=
  stops_within (stops_risky act)

lemma stops_downloadChunk (cur : Job.Cursor) :
    Stops ((drive blind).downloadChunk job totalSize cur) := by
  refine stops_bind (stops_sure _) fun _ => stops_ite (fun _ => ?_) fun _ => ?_
  · exact stops_bind (stops_operation _) fun _ => stops_sure _
  · refine stops_bind (stops_operation _) fun _ => stops_bind (stops_sure _) fun _ => ?_
    refine stops_bind (stops_sure _) fun _ => stops_bind (stops_operation _) fun _ => ?_
    exact stops_sure _

lemma stops_downloadLoop (turns : Nat) (cur : Job.Cursor) :
    Stops ((drive blind).downloadLoop job totalSize turns cur) := by
  induction turns generalizing cur with
  | zero => exact stops_sure _
  | succ turns ih =>
    refine stops_ite (fun _ => ?_) fun _ => stops_sure _
    exact stops_bind (stops_downloadChunk cur) ih

end stopping

section masking

variable {blind : Path → Prop} {totalSize : Nat} {job : Job ν}

/-- The same but for the record, which may have been left behind. -/
structure Resembles (savePath : Path) (w u : World ν) : Prop where
  files : ∀ path, path ≠ getResumePath savePath → u.files path = w.files path
  record : w.files (getResumePath savePath) = none ∨
    u.files (getResumePath savePath) = w.files (getResumePath savePath)
  net : u.net = w.net
  stats : u.stats = w.stats
  progress : u.progress = w.progress
  accepted : u.accepted = w.accepted

lemma Resembles.refl (savePath : Path) (w : World ν) : Resembles savePath w w :=
  ⟨fun _ _ => rfl, Or.inr rfl, rfl, rfl, rfl, rfl⟩

/-- Whether it was there or not, a file that is removed is gone. -/
lemma removeFile_endState (path : Path) (fs : FileSystem Path) :
    endState ((removeFile path : Files Unit).run fs) = update fs path none := by
  cases hfile : fs path with
  | none =>
    simp only [removeFile, withFile, Action.atomic, hfile, endState_error]
    rw [← hfile, Function.update_eq_self]
  | some contents => simp only [removeFile, withFile, Action.atomic, hfile, endState_ok]

lemma removed_endState (path : Path) (w : World ν) :
    endState ((onFiles (removeFile path) : Step ν Unit).run w) =
      w.setFiles (update w.files path none) :=
  (Part.endState_lift _ _ _).trans (congrArg w.setFiles (removeFile_endState path w.files))

/-- A removal that goes wrong has been carried out or not. -/
lemma removed_crash {path : Path} {w u : World ν}
    (h : (onFiles (removeFile path) : Step ν Unit).crash w u) :
    u = w ∨ u = w.setFiles (update w.files path none) := by
  obtain ⟨fs, rfl | rfl, rfl⟩ := h
  · exact Or.inl rfl
  · exact Or.inr (congrArg w.setFiles (removeFile_endState path w.files))

/-- What comes of a removal is ignored. -/
lemma removed_ends {path : Path} {w u : World ν} {x : Except PtpIpError Unit}
    (h : ((drive blind).operation (removeFile path) : FaultyStep ν Unit).attempt.ends w (.ok x u)) :
    u = w ∨ u = w.setFiles (update w.files path none) := by
  obtain ⟨q, hends, hq⟩ := h
  cases hq
  rcases (stops_operation _).ends w q hends with rfl | ⟨e, u, rfl, hcrash⟩
  · exact Or.inr (removed_endState path w)
  · exact removed_crash hcrash

/-- The last callback. -/
def ended (totalSize : Nat) (w : World ν) : World ν :=
  { w with progress := w.progress ++ [(totalSize, totalSize, true, w.stats)] }

lemma resembles_ended {savePath : Path} {w u : World ν}
    (h : u = w ∨ u = w.setFiles (update w.files (getResumePath savePath) none)) :
    Resembles savePath (ended totalSize (w.setFiles (update w.files (getResumePath savePath) none)))
      (ended totalSize u) := by
  rcases h with rfl | rfl
  · refine ⟨fun path other => ?_, Or.inl (Function.update_self _ _ _), rfl, rfl, rfl, rfl⟩
    exact (Function.update_of_ne other _ _).symm
  · exact .refl _ _

lemma finish_run (totalSize : Nat) {w t : World ν}
    (hrename : (onFiles (rename (getTempPath job.savePath) job.savePath) : Step ν Unit).run w =
      .ok () t) :
    (job.finish totalSize).run w = .ok ()
      (ended totalSize (t.setFiles (update t.files (getResumePath job.savePath) none))) := by
  refine (Action.run_bind_ok hrename).trans ?_
  have hattempt : ((onFiles (removeFile (getResumePath job.savePath)) : Step ν Unit).attempt).run t
      = .ok (answer ((onFiles (removeFile (getResumePath job.savePath)) : Step ν Unit).run t))
        (t.setFiles (update t.files (getResumePath job.savePath) none)) := by
    rw [← removed_endState]
    rfl
  exact Action.run_bind_ok hattempt

/-- The end goes on when the record cannot be removed, and leaves it behind. -/
lemma masks_finish :
    Masks World.files (Resembles job.savePath) ((drive blind).finish job totalSize) where
  ends w a u := by
    rintro (⟨_, t, hrename, ⟨x, t', hremove, hlast⟩ | ⟨e, t', -, hfail⟩⟩ | ⟨e, t, -, hfail⟩)
    · cases hlast
      have hrun := finish_run totalSize ((stops_operation _).returned hrename)
      exact ⟨_, hrun, resembles_ended (removed_ends hremove)⟩
    · cases hfail
    · cases hfail
  crash w u := by
    rintro (hcrash | ⟨_, t, hrename, hcrash | ⟨x, t', hremove, hlast⟩⟩)
    · exact ⟨u, Or.inl hcrash, rfl⟩
    · exact ⟨u, Or.inr ⟨_, t, (stops_operation _).returned hrename, Or.inl hcrash⟩, rfl⟩
    · -- the last callback changes no file, so the crash may as well be before it
      have hcrash := Faulty.crash_ends _ t _ hremove
      refine ⟨t', Or.inr ⟨_, t, (stops_operation _).returned hrename, Or.inl hcrash⟩, ?_⟩
      rcases hlast with rfl | rfl <;> rfl

lemma masks_transfer (turns offset : Nat) (file : File Path) :
    Masks World.files (Resembles job.savePath)
      ((drive blind).transfer job totalSize turns offset file) := by
  refine masks_bind (stops_sure _) fun _ => masks_bind (stops_downloadLoop _ _) fun last => ?_
  cases last with
  | none => exact masks_stops (Resembles.refl _) (stops_sure _)
  | some cur => exact masks_return masks_finish _

/-- A disk that reports all errors leaves nothing that a crash could not leave. -/
lemma masks_download (sighted : ∀ path, ¬ blind path) (turns : Nat) :
    Masks World.files (Resembles job.savePath) (downloadObjectWithResume blind job turns) := by
  refine masks_bind (stops_sure _) fun _ => masks_bind ?_ fun r => masks_transfer _ _ _
  exact stops_within (stops_checkResumeState sighted)

end masking

section sound

variable {blind : Path → Prop} {platform : Platform} {savePath : Path} {o : Bytes}
  {fs : FileSystem Path}

/-- A transfer can begin: behind a prefix of the object in the temporary file, or at its end
without one. -/
def Begun (savePath : Path) (o : Bytes) (offset : Nat) (file : File Path)
    (fs : FileSystem Path) : Prop :=
  fs savePath = none ∧ offset ≤ o.length ∧ fs (getTempPath savePath) = some (o.take offset) ∧
      file.path = getTempPath savePath ∧ file.AtEnd offset ∨
    offset = o.length ∧ fs (getTempPath savePath) = none ∧ Sound savePath o fs

/-- What the check of sound files is to ensure. -/
def checked (savePath : Path) (o : Bytes) :
    Post (FileSystem Path) PtpIpError (Nat × File Path) :=
  ⟨fun r => Begun savePath o r.1 r.2, fun _ _ => True, Sound savePath o⟩

lemma begun_started (htarget : fs savePath = none) :
    Begun savePath o 0 ⟨getTempPath savePath, .write 0⟩
      (update fs (getTempPath savePath) (some [])) :=
  Or.inl ⟨(started_target _ _).trans htarget, Nat.zero_le _, started_temp _ _, rfl, Or.inr rfl⟩

lemma sound_meets (sound : Sound savePath o fs) (fits : o.length < 2 ^ platform.usizeBits)
    {p : Plan} (found : Finds platform savePath o.length fs p) :
    Plan.Meets savePath o.length fs (checked savePath o) p := by
  have hlen : ∀ contents, fs (getTempPath savePath) = some contents →
      lenOf platform contents = contents.length :=
    fun contents h => lenOf_eq (Nat.lt_of_le_of_lt (sound.temp contents h).length_le fits)
  cases found with
  | finished complete =>
    obtain ⟨contents, htarget, -⟩ := complete
    rcases sound.exclusive with htemp | hnone
    · exact Or.inr ⟨rfl, htemp, sound⟩
    · cases htarget.symm.trans hnone
  | refuse => exact trivial
  | restart incomplete =>
    have hcleared := sound.record none
    have htarget := (Function.update_of_ne (getResumePath_ne savePath).symm none fs).trans
      (sound.noTarget fits incomplete)
    exact ⟨hcleared, hcleared.removed, sound_started htarget, begun_started htarget⟩
  | publish incomplete hrecord htemp readable agrees reached =>
    rw [hlen _ htemp] at agrees
    cases (sound.temp _ htemp).eq_of_length_le (agrees ▸ reached)
    have hmoved := sound_moved savePath o fs
    exact ⟨hmoved, hmoved.record none, Or.inr ⟨rfl, published_temp _ _ _, hmoved.record none⟩⟩
  | resume incomplete hrecord htemp readable agrees short =>
    rw [hlen _ htemp] at agrees
    rw [List.prefix_iff_eq_take.mp (sound.temp _ htemp), agrees] at htemp
    exact Or.inl ⟨sound.noTarget fits incomplete, Nat.le_of_lt short, htemp, rfl, Or.inl rfl⟩
  | fresh incomplete =>
    have htarget := sound.noTarget fits incomplete
    exact ⟨sound.removed, sound_started htarget, begun_started htarget⟩

/-- A test finds what is there, or finds nothing. -/
lemma withstands_pathExists {path : Path} {post : Post (FileSystem Path) PtpIpError Bool}
    (crashed : post.crashes fs) (missed : post.returns false fs)
    (seen : (fs path).isSome → post.returns true fs) :
    Withstands ((disk blind).pathExists path) fs post := by
  refine withstands_test (ensures_pathExists crashed ?_) fun _ => missed
  cases hfile : fs path with
  | none => exact missed
  | some contents =>
    apply seen
    rw [hfile]
    rfl

/-- Starting over is safe as long as there is no target. -/
lemma startOver_withstands (sound : Sound savePath o fs) (htarget : fs savePath = none) :
    Withstands ((disk blind).startOver savePath) fs (checked savePath o) := by
  have created : ∀ fs' : FileSystem Path, Sound savePath o fs' → fs' savePath = none →
      Withstands (do
        let file ← risky (create (getTempPath savePath))
        return (0, file) : FaultyFiles (Nat × File Path)) fs' (checked savePath o) := by
    intro fs' sound' htarget'
    refine withstands_bind (withstands_risky ?_ fun _ _ _ => trivial)
    refine ensures_create sound' (sound_started htarget') ?_
    exact withstands_sure (ensures_pure (sound_started htarget') (begun_started htarget'))
  refine withstands_bind (withstands_pathExists sound (created fs sound htarget) fun present => ?_)
  obtain ⟨contents, htemp⟩ := Option.isSome_iff_exists.mp present
  refine withstands_bind (withstands_risky ?_ fun _ _ _ => trivial)
  refine ensures_removeFile htemp sound sound.removed (created _ sound.removed ?_)
  exact (Function.update_of_ne (getTempPath_ne _).symm _ _).trans htarget

/-- Only the test of the target matters: missing one of the other files is starting over. -/
lemma checkResumeState_withstands (sighted : ¬ blind savePath) (sound : Sound savePath o fs)
    (fits : o.length < 2 ^ platform.usizeBits) :
    Withstands ((disk blind).checkResumeState platform savePath o.length) fs
      (checked savePath o) := by
  refine withstands_bind (withstands_stops (stops_targetComplete sighted) ?_ fun _ _ _ => trivial)
  rw [targetComplete_flawless]
  refine targetComplete_ensures sound ?_
  by_cases complete : Complete platform savePath o.length fs
  · rw [complete_iff.mpr complete]
    have hmeets := sound_meets sound fits (.finished complete)
    obtain ⟨contents, htarget, -⟩ := complete
    refine withstands_bind (withstands_risky ?_ fun _ _ _ => trivial)
    exact ensures_openRead htarget sound (withstands_sure (ensures_pure sound hmeets))
  rw [eq_false_of_ne_true fun h => complete (complete_iff.mp h)]
  have startsOver : Withstands ((disk blind).startOver savePath) fs (checked savePath o) :=
    startOver_withstands sound (sound.noTarget fits complete)
  refine withstands_bind (withstands_pathExists sound ?_ fun hasRecord => ?_)
  · exact withstands_bind (withstands_pathExists sound startsOver fun _ => startsOver)
  refine withstands_bind (withstands_pathExists sound startsOver fun hasTemp => ?_)
  obtain ⟨record, hrecord⟩ := Option.isSome_iff_exists.mp hasRecord
  obtain ⟨contents, htemp⟩ := Option.isSome_iff_exists.mp hasTemp
  have found := finds platform savePath o.length fs
  rw [plan, if_neg fun h => complete (complete_iff.mp h), hrecord, htemp] at found
  have both : Withstands ((disk blind).checkRecord platform savePath o.length) fs
      (checked savePath o) := by
    refine withstands_stops stops_checkRecord ?_ fun _ _ _ => trivial
    rw [checkRecord_flawless]
    exact checkRecord_ensures sound hrecord htemp (sound_meets sound fits found)
  exact both

/-- The files are sound at every moment, and `Ok` means the object. -/
def safe (savePath : Path) (o : Bytes) : Post (World ν) PtpIpError (Option Unit) where
  returns r w := r = some () → w.files savePath = some o
  fails _ _ := True
  crashes w := Sound savePath o w.files

variable {job : Job ν} {w : World ν} {turns : Nat}

/-- Whatever goes wrong in a transfer that has begun, it is safe. -/
lemma transfer_withstands {offset : Nat} {file : File Path} (faithful : Faithful job o 0)
    (uncounted : w.stats.chunks = 0 ∧ w.accepted = [])
    (begun : Begun job.savePath o offset file w.files) :
    Withstands ((drive blind).transfer job o.length turns offset file) w
      (safe job.savePath o) := by
  have flawless : Ensures (job.transfer o.length turns offset file) w (safe job.savePath o) := by
    rcases begun with ⟨htarget, inside, htemp, path, atEnd⟩ | ⟨rfl, htemp, hsound⟩
    · refine (transfer_ensures (faithful.later (Nat.zero_le _)) inside htemp path atEnd
        uncounted).mono ?_ (fun _ _ _ => trivial) ?_
      · rintro r w' (⟨-, delivered⟩ | ⟨hnone, -⟩) isOk
        · exact delivered.target
        · cases hnone.symm.trans isOk
      · intro w' h
        rw [htarget] at h
        exact sound_of_interrupted h
    · exact transfer_done (fun _ => hsound) (fun _ _ h => by cases h)
        (fun _ => finish_missing htemp hsound trivial)
  rw [← transfer_flawless blind] at flawless
  refine (masks_transfer turns offset file).withstands flawless ?_ ?_ fun _ _ _ => trivial
  · intro r v u hfiles same isOk
    exact (same.files _ (getResumePath_ne _).symm).trans (hfiles isOk)
  · intro v u hsound same
    have hfiles : Sound job.savePath o v.files := hsound
    rw [same] at hfiles
    exact hfiles

/-- So is an attempt that does not miss the target. -/
theorem attempt_withstands (sighted : ¬ blind job.savePath) (sound : Sound job.savePath o w.files)
    (size : job.platform.asUsize w.stats.totalBytes.toNat = o.length) (faithful : Faithful job o 0)
    (uncounted : w.stats.chunks = 0 ∧ w.accepted = []) :
    Withstands (downloadObjectWithResume blind job turns) w (safe job.savePath o) := by
  have fits : o.length < 2 ^ job.platform.usizeBits := by
    rw [← size]
    exact Nat.mod_lt _ (Nat.two_pow_pos _)
  refine withstands_bind (withstands_sure (ensures_atomic_ok rfl sound sound ?_))
  dsimp only
  rw [size]
  refine withstands_bind (withstands_within ?_)
  refine (checkResumeState_withstands sighted sound fits).mono ?_ (fun _ _ h => h) fun _ h => h
  rintro ⟨offset, file⟩ fs begun
  exact transfer_withstands (w := w.setFiles fs) faithful uncounted begun

end sound

section missing

variable {blind : Path → Prop} {platform : Platform} {savePath : Path} {totalSize : Nat}
  {fs : FileSystem Path}

/-- A test can find no such file. -/
def Unseen (blind : Path → Prop) (fs : FileSystem Path) (path : Path) : Prop :=
  fs path = none ∨ blind path

lemma Unseen.ends {path : Path} (unseen : Unseen blind fs path) :
    ((disk blind).pathExists path).ends fs (.ok false fs) := by
  rcases unseen with absent | isBlind
  · refine Or.inl ?_
    change _ = Result.ok (fs path).isSome fs
    rw [absent]
    rfl
  · exact Or.inr ⟨isBlind, rfl⟩

/-- When the tests find nothing, the check starts over, beside a target if there is one. -/
lemma unseen_check (target : Unseen blind fs savePath)
    (record : Unseen blind fs (getResumePath savePath))
    (temp : Unseen blind fs (getTempPath savePath)) :
    ((disk blind).checkResumeState platform savePath totalSize).crash fs
      (update fs (getTempPath savePath) (some [])) := by
  have incomplete :
      ((disk blind).targetComplete platform savePath totalSize).ends fs (.ok false fs) :=
    Or.inl ⟨false, fs, target.ends, rfl⟩
  refine Or.inr ⟨false, fs, incomplete, Or.inr ⟨false, fs, record.ends, ?_⟩⟩
  refine Or.inr ⟨false, fs, temp.ends, Or.inr ⟨false, fs, temp.ends, ?_⟩⟩
  exact Or.inl (Or.inr rfl)

lemma unseen_crash (job : Job ν) {w : World ν} (target : Unseen blind w.files job.savePath)
    (record : Unseen blind w.files (getResumePath job.savePath))
    (temp : Unseen blind w.files (getTempPath job.savePath)) (turns : Nat) :
    (downloadObjectWithResume blind job turns).crash w
      (w.setFiles (update w.files (getTempPath job.savePath) (some []))) :=
  Or.inr ⟨w.stats.totalBytes, w, rfl, Or.inl ⟨_, unseen_check target record temp, rfl⟩⟩

end missing

section runs

variable {blind : Path → Prop} {platform : Platform} {savePath : Path} {object : Bytes}
  {fs : FileSystem Path}

/-- The files after any number of attempts, each cut at any point of its run, on a disk on which
anything can go wrong. -/
inductive Reachable (blind : Path → Prop) (platform : Platform) (savePath : Path)
    (object : Bytes) : FileSystem Path → Prop where
  | start {fs : FileSystem Path} (noTarget : fs savePath = none)
      (noTemp : fs (getTempPath savePath) = none)
      (noRecord : fs (getResumePath savePath) = none) : Reachable blind platform savePath object fs
  | attempt {ν : Type} {job : Job ν} {fs : FileSystem Path} {net : ν} {turns : Nat}
      {w : World ν} (before : Reachable blind platform savePath object fs)
      (attempt : Attempt platform savePath object job)
      (cut : (downloadObjectWithResume blind job turns).crash
        (World.start fs net (UInt64.ofNat object.length)) w) :
      Reachable blind platform savePath object w.files

/-- An attempt on which nothing goes wrong is one of them. -/
lemma Reachable.flawless {job : Job ν} {net : ν} {turns : Nat} {w : World ν}
    (before : Reachable blind platform savePath object fs)
    (attempt : Attempt platform savePath object job)
    (cut : (job.downloadObjectWithResume turns).crash
      (World.start fs net (UInt64.ofNat object.length)) w) :
    Reachable blind platform savePath object w.files := by
  rw [← downloadObjectWithResume_flawless blind] at cut
  exact .attempt before attempt (Faulty.crash_flawless _ _ _ cut)

/-- The files when an attempt has just started over. -/
lemma Reachable.startedOver {job : Job ν} (before : Reachable blind platform savePath object fs)
    (net : ν) (attempt : Attempt platform savePath object job) (target : Unseen blind fs savePath)
    (record : Unseen blind fs (getResumePath savePath))
    (temp : Unseen blind fs (getTempPath savePath)) :
    Reachable blind platform savePath object (update fs (getTempPath savePath) (some [])) := by
  obtain ⟨rfl, rfl⟩ := And.intro attempt.platform attempt.target
  exact before.attempt attempt (unseen_crash job (w := World.start fs net _) target record temp 1)

/-- No test misses a file. -/
def reporting : Path → Prop := fun _ => False

/-- The induction is on the attempts; a crash among the errors is one without them. -/
lemma reachable_iff : Reachable reporting platform savePath object fs ↔
    ResumeInvariant.Reachable platform savePath object fs := by
  constructor
  · intro reachable
    induction reachable with
    | start noTarget noTemp noRecord => exact .start noTarget noTemp noRecord
    | attempt _ attempt cut ih =>
      obtain ⟨v, hcrash, hfiles⟩ := (masks_download (fun _ => id) _).crash _ _ cut
      rw [downloadObjectWithResume_flawless] at hcrash
      rw [← hfiles]
      exact .attempt ih attempt hcrash
  · intro reachable
    induction reachable with
    | start noTarget noTemp noRecord => exact .start noTarget noTemp noRecord
    | attempt _ attempt cut ih => exact ih.flawless attempt cut

/-- Errors that the disk reports are crashes: the same files are reached, what is returned would be
returned without them, and what fails leaves the files of a crash. -/
theorem disk_errors_are_crashes (platform : Platform) (savePath : Path) (object : Bytes) :
    (∀ fs, Reachable reporting platform savePath object fs ↔
      ResumeInvariant.Reachable platform savePath object fs) ∧
    ∀ (ν : Type) (job : Job ν) (turns : Nat) (w u : World ν),
      (∀ r, (downloadObjectWithResume reporting job turns).ends w (.ok r u) →
        ∃ v, (job.downloadObjectWithResume turns).run w = .ok r v ∧
          Resembles job.savePath v u) ∧
      ∀ e, (downloadObjectWithResume reporting job turns).ends w (.error e u) →
        ∃ v, (job.downloadObjectWithResume turns).crash w v ∧ v.files = u.files := by
  refine ⟨fun fs => reachable_iff, fun ν job turns w u => ?_⟩
  have masks : Masks World.files (Resembles job.savePath)
      (downloadObjectWithResume reporting job turns) := masks_download (fun _ => id) turns
  rw [← downloadObjectWithResume_flawless reporting]
  constructor
  · exact fun r hends => masks.ends w r u hends
  · exact fun e hends => masks.crash w u (Faulty.crash_ends _ w _ hends)

lemma safe_attempt {job : Job ν} (sighted : ¬ blind savePath)
    (attempt : Attempt platform savePath object job)
    (sound : Sound savePath (countable platform object) fs) (net : ν) (turns : Nat) :
    Withstands (downloadObjectWithResume blind job turns)
      (World.start fs net (UInt64.ofNat object.length))
      (safe savePath (countable platform object)) := by
  obtain ⟨rfl, rfl⟩ := And.intro attempt.platform attempt.target
  refine attempt_withstands sighted sound ?_ attempt.faithful ⟨rfl, rfl⟩
  rw [countable_length]
  exact congrArg _ (UInt64.toNat_ofNat_of_lt' attempt.size)

lemma Reachable.sound (sighted : ¬ blind savePath)
    (reachable : Reachable blind platform savePath object fs) :
    Sound savePath (countable platform object) fs := by
  induction reachable with
  | start noTarget noTemp _ =>
    exact sound_of_no_temp noTemp (fun c hc => by cases noTarget.symm.trans hc)
  | attempt _ attempt cut ih => exact (safe_attempt sighted attempt ih _ _).crashes _ cut

/-- From these files `Ok` means the object, whatever goes wrong. -/
def Delivers (blind : Path → Prop) (savePath : Path) (object : Bytes) (fs : FileSystem Path) :
    Prop :=
  ∀ (ν : Type) (job : Job ν) (net : ν) (turns : Nat) (w : World ν),
    Attempt .bits64 savePath object job →
    (downloadObjectWithResume blind job turns).ends
      (World.start fs net (UInt64.ofNat object.length)) (.ok (some ()) w) →
    w.files savePath = some object

lemma Reachable.size (reachable : Reachable blind platform savePath object fs)
    {contents : Bytes} (htarget : fs savePath = some contents) : object.length < 2 ^ 64 := by
  cases reachable with
  | start noTarget => cases noTarget.symm.trans htarget
  | attempt _ attempt _ => exact attempt.size

lemma Reachable.delivers (sighted : ¬ blind savePath)
    (reachable : Reachable blind .bits64 savePath object fs) :
    Delivers blind savePath object fs := by
  intro ν job net turns w attempt hends
  rw [← countable_eq .bits64 attempt.size]
  exact (safe_attempt sighted attempt (reachable.sound sighted) net turns).ends _ hends rfl

/-- The resume invariant holds on a failing disk, if only the target is never missed. -/
theorem resume_withstands {blind : Path → Prop} {savePath : Path} {object : Bytes}
    {fs : FileSystem Path} (sighted : ¬ blind savePath)
    (reachable : Reachable blind .bits64 savePath object fs) :
    (∀ contents, fs (getTempPath savePath) = some contents → contents <+: object) ∧
    (fs savePath = none ∨ fs savePath = some object) ∧
    (fs (getTempPath savePath) = none ∨ fs savePath = none) ∧
    Delivers blind savePath object fs := by
  have hsound := reachable.sound sighted
  refine ⟨?_, ?_, hsound.exclusive, reachable.delivers sighted⟩
  · intro contents h
    exact (hsound.temp contents h).trans (List.take_prefix _ _)
  · cases htarget : fs savePath with
    | none => exact Or.inl rfl
    | some contents =>
      right
      rw [hsound.target contents htarget, countable_eq _ (reachable.size htarget)]

/-- The files when the temporary file of a first attempt was missed by a second one. -/
def restarted (savePath : Path) : FileSystem Path :=
  update (update (fun _ => none) (getTempPath savePath) (some [])) (getTempPath savePath) (some [])

lemma reachable_restarted {job : Job ν} (net : ν)
    (attempt : Attempt platform savePath object job) :
    Reachable (fun path => path ≠ savePath) platform savePath object (restarted savePath) := by
  have first : Reachable (fun path => path ≠ savePath) platform savePath object
      (update (fun _ => none) (getTempPath savePath) (some [])) :=
    (Reachable.start rfl rfl rfl).startedOver net attempt (Or.inl rfl) (Or.inl rfl) (Or.inl rfl)
  exact first.startedOver net attempt (Or.inl (started_target _ _))
    (Or.inr (getResumePath_ne _)) (Or.inr (getTempPath_ne _))

theorem resume_withstands_restarted :
    let savePath : Path := ⟨[], some [97]⟩
    let fs := restarted savePath
    (fs savePath = none ∨ fs savePath = some [1, 2, 3]) ∧
      (fs (getTempPath savePath) = none ∨ fs savePath = none) :=
  have withstands := resume_withstands (fun missed => missed rfl)
    (reachable_restarted () (steadyJob_attempt (by decide)))
  ⟨withstands.2.1, withstands.2.2.1⟩

end runs

section blindness

variable {blind : Path → Prop} {savePath : Path} {fs : FileSystem Path}

/-- A camera that holds one byte. -/
def byteJob (savePath : Path) : Job Unit := { steadyJob [1] with savePath := savePath }

lemma byteJob_attempt (savePath : Path) : Attempt .bits64 savePath [1] (byteJob savePath) where
  platform := rfl
  target := rfl
  chunkSize := (by decide : 2 < 2 ^ 32)
  minChunkSize := (by decide : 1 < 2 ^ 32)
  size := by decide
  honest offset length net data net' _ hask _ := by cases hask; rfl

/-- The first download delivers the byte. -/
lemma byteJob_first (blind : Path → Prop) (savePath : Path) : ∃ fs : FileSystem Path,
    Reachable blind .bits64 savePath [1] fs ∧ fs savePath = some [1] ∧
      fs (getTempPath savePath) = none ∧ fs (getResumePath savePath) = none := by
  have hattempt := byteJob_attempt savePath
  have answers : Completion.Answers (byteJob savePath) [1] := fun _ _ _ _ => ⟨(), rfl⟩
  have hcompletes := Completion.attempt_completes (w := World.start (fun _ => none) () 1)
    (o := [1]) (sound_of_no_temp rfl (fun c hc => by cases hc)) rfl
    hattempt.faithful ⟨rfl, rfl⟩ (Completion.served_of_answers hattempt answers)
    (by decide : 1 ≤ 2) (by decide : 1 < 2)
  cases hrun : ((byteJob savePath).downloadObjectWithResume 2).run
      (World.start (fun _ => none) () 1) with
  | ok r w =>
    obtain ⟨⟨-, offset, delivered⟩, -⟩ := hcompletes.returned hrun
    have hcrash := Action.crash_end ((byteJob savePath).downloadObjectWithResume 2)
      (World.start (fun _ => none) () 1)
    rw [hrun] at hcrash
    exact ⟨w.files, (Reachable.start rfl rfl rfl).flawless hattempt hcrash, delivered.target,
      delivered.temp, delivered.record⟩
  | error e w =>
    refine absurd ⟨rfl, ?_⟩ (hcompletes.failed hrun)
    rintro ⟨record, contents, hrecord, -⟩
    cases hrecord

variable {job : Job ν} {object : Bytes}

/-- With a complete target and an empty temporary file the target becomes empty. -/
lemma emptied (attempt : Attempt .bits64 savePath object job) (htarget : fs savePath = some object)
    (htemp : fs (getTempPath savePath) = some []) (net : ν) :
    ∃ w, (job.downloadObjectWithResume 1).run
        (World.start fs net (UInt64.ofNat object.length)) = .ok (some ()) w ∧
      w.files savePath = some [] := by
  obtain ⟨platform, rfl⟩ := And.intro attempt.platform attempt.target
  have h64 : (UInt64.ofNat object.length).toNat = object.length :=
    UInt64.toNat_ofNat_of_lt' attempt.size
  have size : job.platform.asUsize
      (World.start fs net (UInt64.ofNat object.length)).stats.totalBytes.toNat = object.length := by
    rw [platform]
    exact (Platform.asUsize_of_lt (UInt64.toNat_lt _)).trans h64
  have complete : Complete job.platform job.savePath object.length fs := by
    rw [platform]
    exact ⟨object, htarget, lenOf_eq attempt.size⟩
  have hends : Ensures (job.downloadObjectWithResume 1)
      (World.start fs net (UInt64.ofNat object.length))
      ⟨fun r w => r = some () ∧ w.files job.savePath = some [], fun _ _ => False,
        fun _ => True⟩ := by
    refine download_ensures size trivial ?_
    have hplan : plan job.platform job.savePath object.length
        (World.start fs net (UInt64.ofNat object.length)).files = .finished :=
      if_pos (complete_iff.mpr complete)
    rw [hplan]
    refine transfer_done (fun _ => trivial) (fun h => by cases h) fun stats => ?_
    exact finish_ensures htemp trivial trivial (fun _ => trivial)
      fun _ => ⟨trivial, rfl, published_target _ _ _⟩
  obtain ⟨r, w, hrun, rfl, hfiles⟩ := hends.returns_of_not_fails fun _ _ h => h
  exact ⟨w, hrun, hfiles⟩

/-- A finished download can be lost: an attempt that misses its target starts over beside it, and
is cut there; an attempt then returns `Ok` and has renamed the empty temporary file over it. -/
def Loses (blind : Path → Prop) (savePath : Path) : Prop :=
  ∀ (ν : Type) (job : Job ν) (object : Bytes) (fs : FileSystem Path) (net : ν),
    Attempt .bits64 savePath object job → fs savePath = some object →
    fs (getTempPath savePath) = none → fs (getResumePath savePath) = none →
    ∃ v w, (downloadObjectWithResume blind job 1).crash
        (World.start fs net (UInt64.ofNat object.length)) v ∧ v.files savePath = some object ∧
      (downloadObjectWithResume blind job 1).ends
        (World.start v.files net (UInt64.ofNat object.length)) (.ok (some ()) w) ∧
      w.files savePath = some []

lemma loses (isBlind : blind savePath) : Loses blind savePath := by
  intro ν job object fs net attempt htarget htemp hrecord
  obtain ⟨w, hrun, hempty⟩ := emptied attempt ((started_target savePath fs).trans htarget)
    (started_temp savePath fs) net
  rw [← downloadObjectWithResume_flawless blind] at hrun
  have hends := Faulty.ends_run (downloadObjectWithResume blind job 1)
    (World.start (update fs (getTempPath savePath) (some [])) net (UInt64.ofNat object.length))
  rw [hrun] at hends
  obtain rfl := attempt.target
  exact ⟨_, w, unseen_crash job (w := World.start fs net _) (Or.inr isBlind) (Or.inl hrecord)
    (Or.inl htemp) 1, (started_target _ fs).trans htarget, hends, hempty⟩

/-- `Ok` means the object on every failing disk exactly if the target is never missed; if it can be,
every finished download can be lost. -/
theorem ok_means_object_iff (blind : Path → Prop) (savePath : Path) :
    ((∀ (object : Bytes) (fs : FileSystem Path), Reachable blind .bits64 savePath object fs →
      Delivers blind savePath object fs) ↔ ¬ blind savePath) ∧
    (blind savePath → Loses blind savePath) := by
  refine ⟨⟨?_, fun sighted _ _ reachable => reachable.delivers sighted⟩, loses⟩
  intro delivers isBlind
  obtain ⟨fs, reachable, htarget, htemp, hrecord⟩ := byteJob_first blind savePath
  have hattempt := byteJob_attempt savePath
  obtain ⟨v, w, hcrash, -, hends, hempty⟩ :=
    loses isBlind Unit (byteJob savePath) [1] fs () hattempt htarget htemp hrecord
  have hobject := delivers [1] _ (reachable.attempt hattempt hcrash) Unit (byteJob savePath) () 1 w
    hattempt hends
  cases hempty.symm.trans hobject

end blindness

end DiskErrors
