import PtpipCore.Completion
import PtpipCore.DownloadTurns

/-!
# Objects that `usize` cannot count

The size of an object has 64 bits, and a download casts it to `usize` before it begins. What it
then fetches, counts and publishes is as long as the cast size says, and it returns `Ok`.
-/

namespace LargeObjects

open Effects ByteStream CrashActions FileActions Text Types Resume ResumePlan Download
open DownloadRun DownloadTurns ResumeInvariant Completion
open EStateM (Result)
open Function (update)

variable {ν : Type}

/-- There is no target, no temporary file and no record. -/
structure Fresh (savePath : Path) (files : FileSystem Path) : Prop where
  target : files savePath = none
  temp : files (getTempPath savePath) = none
  record : files (getResumePath savePath) = none

section measure

variable (job : Job ν) (totalSize : Nat)

/-- The temporary file has as many bytes as the offset says, whatever they are. -/
structure Grown (totalBytes : UInt64) (cur : Job.Cursor) (w : World ν) : Prop where
  inside : cur.currentOffset ≤ totalSize
  temp : ∃ contents, w.files (getTempPath job.savePath) = some contents ∧
    contents.length = cur.currentOffset
  path : cur.file.path = getTempPath job.savePath
  atEnd : cur.file.AtEnd cur.currentOffset
  downloaded : w.stats.downloadedBytes = UInt64.ofNat cur.currentOffset
  totalBytes : w.stats.totalBytes = totalBytes

variable {job totalSize} {totalBytes : UInt64} {cur : Job.Cursor} {w : World ν}

/-- A chunk that is written makes the file longer by as much as it moves the offset. -/
lemma Grown.advance (inv : Grown job totalSize totalBytes cur w) {contents data : Bytes}
    (size : data.length = job.nextChunk totalSize cur.currentOffset)
    (more : cur.currentOffset < totalSize) (length : contents.length = cur.currentOffset)
    {w' : World ν} (last : Nat)
    (files : w'.files = update (update w.files (getTempPath job.savePath)
      (some (contents ++ data))) (getResumePath job.savePath)
      (some (decimal (cur.currentOffset + data.length))))
    (counted : w'.stats.downloadedBytes = UInt64.ofNat (cur.currentOffset + data.length))
    (same : w'.stats.totalBytes = w.stats.totalBytes) :
    Grown job totalSize totalBytes
      ⟨cur.currentOffset + data.length, cur.file.advance data.length, last⟩ w' where
  inside := by
    have hchunk := nextChunk_le job totalSize cur.currentOffset
    dsimp only
    omega
  temp := by
    refine ⟨contents ++ data, ?_, by rw [List.length_append, length]⟩
    rw [files]
    exact (Function.update_of_ne (getTempPath_ne_getResumePath _) _ _).trans
      (Function.update_self _ _ _)
  path := (File.advance_path _ _).trans inv.path
  atEnd := inv.atEnd.advance _
  downloaded := counted
  totalBytes := same.trans inv.totalBytes

/-- A turn keeps the file as long as the offset says. -/
lemma downloadChunk_grows (inv : Grown job totalSize totalBytes cur w)
    (more : cur.currentOffset < totalSize) :
    Ensures (job.downloadChunk totalSize cur) w
      ⟨fun cur' w' => Grown job totalSize totalBytes cur' w', fun _ _ => True, fun _ => True⟩ := by
  rcases downloadRetrying_cases (request job totalSize cur.currentOffset)
    job.sessionConfig.maxRetries w with ⟨data, -, net, retries, hrun, -⟩ | ⟨e, net, retries, hrun⟩
  · refine ensures_bind (ensures_atomic_ok hrun trivial trivial ?_)
    dsimp only
    by_cases hsize : data.length = job.nextChunk totalSize cur.currentOffset
    · -- whatever the bytes are, there are as many as were asked for
      obtain ⟨contents, htemp, hlen⟩ := inv.temp
      rw [if_neg (not_not_intro hsize), ← hsize]
      have hpresent : (w.asked net retries).files cur.file.path = some contents := by
        rw [inv.path]
        exact htemp
      refine ensures_bind (onFiles_ensures (ensures_writeAll hpresent (hlen ▸ inv.atEnd)
        (fun _ => trivial) ?_))
      rw [inv.path]
      refine ensures_bind (ensures_atomic_ok rfl trivial trivial ?_)
      refine ensures_bind (ensures_atomic_ok (reportProgress_run _ _ _) trivial trivial ?_)
      refine ensures_bind (saveResumeState_ensures trivial (fun _ => trivial) ?_)
      exact ensures_pure trivial (inv.advance hsize more hlen _ rfl rfl rfl)
    · rw [if_pos hsize]
      exact ensures_bind (saveResumeState_ensures trivial (fun _ => trivial)
        (ensures_fail trivial trivial))
  · exact ensures_bind (ensures_atomic_error hrun trivial trivial trivial)

/-- So does the loop at every head that it reaches, and at its end nothing is left. -/
lemma downloadLoop_grows (inv : Grown job totalSize totalBytes cur w) (turns : Nat) :
    Ensures (job.downloadLoop totalSize turns cur) w
      ⟨fun r w' => ∀ cur', r = some cur' → Grown job totalSize totalBytes cur' w' ∧
        cur'.currentOffset = totalSize, fun _ _ => True, fun _ => True⟩ := by
  have grown : ∀ chunks cur' w', Reaches job totalSize cur w chunks cur' w' →
      Grown job totalSize totalBytes cur' w' := by
    intro chunks cur' w' reaches
    induction reaches with
    | start => exact inv
    | turn _ more run ih => exact (downloadChunk_grows ih more).returned run
  obtain ⟨chunks, cur', w', reaches, -, loopEnd⟩ := downloadLoop_reaches (.start : Reaches job
    totalSize cur w _ _ _) turns
  refine ensures_of_outcome ?_ fun _ => trivial
  generalize (job.downloadLoop totalSize turns cur).run w = r at loopEnd ⊢
  cases loopEnd with
  | outOfTurns =>
    intro cur₁ h
    cases h
  | finished done =>
    intro cur₁ h
    cases h
    have inv' := grown _ _ _ reaches
    exact ⟨inv', Nat.le_antisymm inv'.inside done⟩
  | failed more run => trivial

end measure

section download

variable {job : Job ν} {totalSize turns : Nat} {size : UInt64} {files : FileSystem Path} {net : ν}
  {w : World ν}

/-- What a download leaves when it has ended: a target of so many bytes, and as many counted. -/
structure Leaves (job : Job ν) (totalSize : Nat) (totalBytes : UInt64) (w : World ν) : Prop where
  target : ∃ contents, w.files job.savePath = some contents ∧ contents.length = totalSize
  downloaded : w.stats.downloadedBytes = UInt64.ofNat totalSize
  totalBytes : w.stats.totalBytes = totalBytes

lemma transfer_leaves (temp : w.files (getTempPath job.savePath) = some []) :
    Ensures (job.transfer totalSize turns 0 ⟨getTempPath job.savePath, .write 0⟩) w
      ⟨fun r w' => r = some () → Leaves job totalSize w.stats.totalBytes w', fun _ _ => True,
        fun _ => True⟩ := by
  refine ensures_bind (ensures_atomic_ok rfl trivial trivial (ensures_bind ?_))
  have start : Grown job totalSize w.stats.totalBytes ⟨0, ⟨getTempPath job.savePath, .write 0⟩, 0⟩
      { w with stats := { w.stats with downloadedBytes := UInt64.ofNat 0 } } := {
    inside := Nat.zero_le _
    temp := ⟨[], temp, rfl⟩
    path := rfl
    atEnd := Or.inr rfl
    downloaded := rfl
    totalBytes := rfl }
  refine (downloadLoop_grows start turns).mono ?_ (fun _ _ h => h) (fun _ h => h)
  intro r w' ended
  cases r with
  | none => exact ensures_pure trivial fun h => by cases h
  | some cur =>
    obtain ⟨inv, all⟩ := ended cur rfl
    obtain ⟨contents, htemp, hlen⟩ := inv.temp
    refine ensures_bind (finish_ensures htemp trivial trivial (fun _ => trivial) fun _ => ?_)
    exact ensures_pure trivial fun _ => {
      target := ⟨contents, published_target _ _ _, hlen.trans all⟩
      downloaded := all ▸ inv.downloaded
      totalBytes := inv.totalBytes }

/-- From nothing, `Ok` leaves a target of the cast size. -/
lemma download_leaves (fresh : Fresh job.savePath w.files) (turns : Nat) :
    Ensures (job.downloadObjectWithResume turns) w
      ⟨fun r w' => r = some () →
        Leaves job (job.platform.asUsize w.stats.totalBytes.toNat) w.stats.totalBytes w',
        fun _ _ => True, fun _ => True⟩ := by
  have hplan : plan job.platform job.savePath (job.platform.asUsize w.stats.totalBytes.toNat)
      w.files = .fresh := by
    unfold plan
    rw [fresh.target, fresh.record]
    rfl
  refine download_ensures rfl trivial ?_
  rw [hplan]
  exact ⟨trivial, trivial, transfer_leaves (started_temp _ _)⟩

end download

section sizes

variable (platform : Platform) (config : ChunkDownloadConfig) (size : UInt64)

/-- The whole of the reported size has been counted, and is at the target. -/
structure Whole (job : Job ν) (size : UInt64) (w : World ν) : Prop where
  counted : w.stats.downloadedBytes = w.stats.totalBytes
  target : ∃ contents, w.files job.savePath = some contents ∧ contents.length = size.toNat

/-- From nothing, `Ok` means that nothing is missing, with any camera. -/
def OkIsWhole : Prop :=
  ∀ {ν : Type} (job : Job ν), job.platform = platform → job.downloadConfig = config →
    ∀ files net turns w, Fresh job.savePath files →
      (job.downloadObjectWithResume turns).run (World.start files net size) = .ok (some ()) w →
      Whole job size w

variable {platform config size} {job : Job ν} {w : World ν}

/-- What has been left is the whole if the cast has kept the size. -/
lemma Leaves.whole_iff (leaves : Leaves job (platform.asUsize size.toNat) size w) :
    Whole job size w ↔ size.toNat < 2 ^ platform.usizeBits := by
  obtain ⟨contents, htarget, hlen⟩ := leaves.target
  constructor
  · rintro ⟨-, contents', htarget', hlen'⟩
    cases htarget.symm.trans htarget'
    rw [← hlen', hlen]
    exact Nat.mod_lt _ (Nat.two_pow_pos _)
  · intro fits
    have same := Platform.asUsize_of_lt fits
    refine ⟨?_, contents, htarget, hlen.trans same⟩
    rw [leaves.downloaded, leaves.totalBytes, same, UInt64.ofNat_toNat]

/-- A camera that fills every chunk of an object with zeros. -/
def fillingJob (platform : Platform) (config : ChunkDownloadConfig) (totalSize : Nat) : Job Unit :=
  { zerosJob config with
    platform := platform
    getPartialObject := fun _ offset _ net =>
      .ok (List.replicate ((zerosJob config).nextChunk totalSize offset.toNat) 0) net }

lemma fillingJob_asks {n : Nat} (fits : n < 2 ^ 64) {offset : Nat} (more : offset < n)
    (net : Unit) :
    askChunk (fillingJob platform config n) (List.replicate n 0) offset net =
      .ok (List.replicate ((fillingJob platform config n).nextChunk n offset) 0) net := by
  have h64 : (UInt64.ofNat offset).toNat = offset :=
    UInt64.toNat_ofNat_of_lt' (Nat.lt_trans more fits)
  change Result.ok (List.replicate ((zerosJob config).nextChunk n (UInt64.ofNat offset).toNat) 0)
    net = _
  rw [h64]
  rfl

/-- An attempt at it, with turns enough, ends in `Ok`. -/
lemma fillingJob_ends (platform : Platform) (positive : 1 ≤ config.chunkSize) (size : UInt64) :
    ∃ turns w, ((fillingJob platform config (platform.asUsize size.toNat)).downloadObjectWithResume
      turns).run (World.start (fun _ => none) () size) = .ok (some ()) w := by
  obtain ⟨n, cast⟩ : ∃ n, platform.asUsize size.toNat = n := ⟨_, rfl⟩
  rw [cast]
  have fits : n < 2 ^ 64 := cast ▸ Nat.lt_of_le_of_lt (Nat.mod_le _ _) size.toNat_lt
  let object : Bytes := List.replicate n 0
  have hlen : object.length = n := List.length_replicate
  have faithful : Faithful (fillingJob platform config n) object 0 := by
    intro offset net data net' _ more hask _
    rw [hlen] at more
    cases (fillingJob_asks fits more net).symm.trans hask
    have hchunk := nextChunk_le (fillingJob platform config n) n offset
    rw [hlen, List.drop_replicate, List.take_replicate, Nat.min_eq_left hchunk]
  have served : Served (fillingJob platform config n) object := by
    intro offset net more
    rw [hlen] at more
    refine servedWithin_of_first (fillingJob_asks fits more net) ?_ _
    rw [List.length_replicate, hlen]
  have enough : object.length < n + 1 := hlen ▸ Nat.lt_succ_self n
  have completes := attempt_completes (w := World.start (fun _ => none) () size)
    (sound_of_no_temp rfl fun _ h => by cases h) (cast.trans hlen.symm) faithful ⟨rfl, rfl⟩
    served positive enough
  cases hrun : ((fillingJob platform config n).downloadObjectWithResume (n + 1)).run
    (World.start (fun _ => none) () size) with
  | ok r w =>
    obtain ⟨⟨rfl, -⟩, -⟩ := completes.returned hrun
    exact ⟨n + 1, w, hrun⟩
  | error e w =>
    refine absurd ?_ (completes.failed hrun)
    exact ⟨rfl, by rintro ⟨_, _, h, -⟩; cases h⟩

/-- `Ok` means the whole object exactly if `usize` can count it. -/
theorem ok_is_whole_iff (platform : Platform) (positive : 1 ≤ config.chunkSize) (size : UInt64) :
    OkIsWhole platform config size ↔ size.toNat < 2 ^ platform.usizeBits := by
  constructor
  · intro whole
    obtain ⟨turns, w, run⟩ := fillingJob_ends platform positive size
    have fresh : Fresh (fillingJob platform config (platform.asUsize size.toNat)).savePath
        fun _ => none := ⟨rfl, rfl, rfl⟩
    have leaves := (download_leaves fresh _).returned run rfl
    exact leaves.whole_iff.mp (whole _ rfl rfl _ _ _ _ fresh run)
  · rintro fits ν job rfl rfl files net turns w fresh run
    exact ((download_leaves fresh turns).returned run rfl).whole_iff.mpr fits

/-- Three bytes on a platform of 32 bits. -/
theorem ok_is_whole_three : OkIsWhole .bits32 ⟨2, 1, fun _ => []⟩ 3 :=
  (ok_is_whole_iff .bits32 (by decide) 3).mpr (by decide)

private def narrowJob : Job Unit := { zerosJob ⟨2, 1, fun _ => []⟩ with platform := .bits32 }

private def largeRun : Result PtpIpError (World Unit) (Option Unit) :=
  (narrowJob.downloadObjectWithResume 4).run (World.start (fun _ => none) () 4294967299)

/-- Of an object of 2^32 + 3 bytes only three are fetched. -/
theorem large_object_truncated :
    answer largeRun = .ok (some ()) ∧
      (endState largeRun).files narrowJob.savePath = some [0, 0, 0] ∧
      (endState largeRun).stats.downloadedBytes = 3 ∧
      (endState largeRun).stats.totalBytes = 4294967299 ∧
      ¬ OkIsWhole .bits32 ⟨2, 1, fun _ => []⟩ 4294967299 := by
  have hdownloaded : (endState largeRun).stats.downloadedBytes = 3 := by decide
  have htotal : (endState largeRun).stats.totalBytes = 4294967299 := by decide
  refine ⟨by decide, by decide, hdownloaded, htotal, fun whole => ?_⟩
  have run : largeRun = .ok (some ()) (endState largeRun) := rfl
  have counted := (whole narrowJob rfl rfl _ _ _ _ ⟨rfl, rfl, rfl⟩ run).counted
  rw [hdownloaded, htotal] at counted
  exact absurd counted (by decide)

end sizes

end LargeObjects
