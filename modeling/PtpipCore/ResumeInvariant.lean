import PtpipCore.DownloadRun

/-!
# The resume invariant under crashes

Attempts to download one object to one target follow one another, each of them
cut at any point. The temporary file stays a prefix of the object, the target is
absent or the whole object, and the two are never both there.
-/

namespace ResumeInvariant

open Effects ByteStream CrashActions FileActions Types Resume ResumePlan Download DownloadRun
open Function (update)

structure Sound (savePath : Path) (o : Bytes) (fs : FileSystem Path) : Prop where
  temp : ∀ contents, fs (getTempPath savePath) = some contents → contents <+: o
  target : ∀ contents, fs savePath = some contents → contents = o
  exclusive : fs (getTempPath savePath) = none ∨ fs savePath = none

/-- A record beside a temporary file that is unreadable, or names a complete one. -/
def Stuck (platform : Platform) (savePath : Path) (o : Bytes) (fs : FileSystem Path) : Prop :=
  ∃ record contents, fs (getResumePath savePath) = some record ∧
    fs (getTempPath savePath) = some contents ∧
    ((∃ e, recordOffset platform record = .error e) ∨
      recordOffset platform record = .ok contents.length ∧ o.length ≤ contents.length)

/-- There is no target yet and the record is no obstacle. -/
def Recoverable (platform : Platform) (savePath : Path) (o : Bytes)
    (fs : FileSystem Path) : Prop :=
  fs savePath = none ∧ ¬ Stuck platform savePath o fs

section step

variable {ν : Type} {job : Job ν} {o : Bytes} {w : World ν} {fs : FileSystem Path} {turns : Nat}

/-- No target yet: any prefix of the object may be in the temporary file. -/
lemma sound_of_temp {savePath : Path} {contents : Bytes} (htarget : fs savePath = none)
    (htemp : fs (getTempPath savePath) = some contents) (hfront : contents <+: o) :
    Sound savePath o fs where
  temp c hc := by cases htemp.symm.trans hc; exact hfront
  target c hc := by cases htarget.symm.trans hc
  exclusive := Or.inr htarget

lemma sound_of_no_temp {savePath : Path} (htemp : fs (getTempPath savePath) = none)
    (htarget : ∀ contents, fs savePath = some contents → contents = o) : Sound savePath o fs where
  temp c hc := by cases htemp.symm.trans hc
  target := htarget
  exclusive := Or.inl htemp

lemma sound_of_interrupted (h : Interrupted job o none fs) : Sound job.savePath o fs := by
  rcases h with ⟨⟨contents, htemp, hfront⟩, htarget⟩ | ⟨htemp, htarget⟩
  · exact sound_of_temp htarget htemp hfront
  · exact sound_of_no_temp htemp (fun c hc => by cases htarget.symm.trans hc; rfl)

/-- Changing the record keeps the files sound. -/
lemma Sound.record {savePath : Path} (sound : Sound savePath o fs) (record : Option Bytes) :
    Sound savePath o (update fs (getResumePath savePath) record) := by
  have htemp : update fs (getResumePath savePath) record (getTempPath savePath) =
      fs (getTempPath savePath) := Function.update_of_ne (getTempPath_ne_getResumePath _) _ _
  have htarget : update fs (getResumePath savePath) record savePath = fs savePath :=
    Function.update_of_ne (getResumePath_ne _).symm _ _
  exact ⟨htemp ▸ sound.temp, htarget ▸ sound.target, htemp ▸ htarget ▸ sound.exclusive⟩

/-- So does removing the temporary file. -/
lemma Sound.removed {savePath : Path} (sound : Sound savePath o fs) :
    Sound savePath o (update fs (getTempPath savePath) none) := by
  refine sound_of_no_temp (Function.update_self _ _ _) (fun c hc => sound.target c ?_)
  rwa [Function.update_of_ne (getTempPath_ne _).symm] at hc

lemma started_temp (savePath : Path) (fs : FileSystem Path) :
    update fs (getTempPath savePath) (some []) (getTempPath savePath) = some [] :=
  Function.update_self _ _ _

lemma started_target (savePath : Path) (fs : FileSystem Path) :
    update fs (getTempPath savePath) (some []) savePath = fs savePath :=
  Function.update_of_ne (getTempPath_ne _).symm _ _

lemma sound_started {savePath : Path} (htarget : fs savePath = none) :
    Sound savePath o (update fs (getTempPath savePath) (some [])) :=
  sound_of_temp ((started_target _ _).trans htarget) (started_temp _ _) List.nil_prefix

lemma sound_moved (savePath : Path) (o : Bytes) (fs : FileSystem Path) :
    Sound savePath o (moved savePath o fs) := by
  refine sound_of_no_temp (moved_temp _ _ _) ?_
  intro c hc
  cases (moved_target savePath o fs).symm.trans hc
  rfl

/-- A target that is there is complete. -/
lemma Sound.noTarget {platform : Platform} {savePath : Path} (sound : Sound savePath o fs)
    (fits : o.length < 2 ^ platform.usizeBits)
    (incomplete : ¬ Complete platform savePath o.length fs) : fs savePath = none := by
  cases htarget : fs savePath with
  | none => rfl
  | some contents =>
    cases sound.target contents htarget
    exact absurd ⟨o, htarget, lenOf_eq fits⟩ incomplete

/-- A record that can be read and does not name a complete temporary file is no obstacle. -/
lemma recoverable_of_record {platform : Platform} {savePath : Path} (htarget : fs savePath = none)
    (readable : ∀ record contents, fs (getResumePath savePath) = some record →
      fs (getTempPath savePath) = some contents → ∃ offset,
        recordOffset platform record = .ok offset ∧
          (offset = contents.length → contents.length < o.length)) :
    Recoverable platform savePath o fs := by
  refine ⟨htarget, ?_⟩
  rintro ⟨record, contents, hrecord, htemp, stuck⟩
  obtain ⟨offset, hoffset, short⟩ := readable record contents hrecord htemp
  rcases stuck with ⟨e, unreadable⟩ | ⟨hlength, hlong⟩
  · cases hoffset.symm.trans unreadable
  · cases hoffset.symm.trans hlength
    exact Nat.not_lt_of_le hlong (short rfl)

/-- Nor is one beside a temporary file that it says is incomplete, or says to be another. -/
lemma recoverable_of_entry {platform : Platform} {savePath : Path} {record contents : Bytes}
    {offset : Nat} (htarget : fs savePath = none)
    (hrecord : fs (getResumePath savePath) = some record)
    (htemp : fs (getTempPath savePath) = some contents)
    (readable : recordOffset platform record = .ok offset)
    (short : offset = contents.length → contents.length < o.length) :
    Recoverable platform savePath o fs := by
  refine recoverable_of_record htarget ?_
  intro record' contents' hrecord' htemp'
  cases hrecord.symm.trans hrecord'
  cases htemp.symm.trans htemp'
  exact ⟨offset, readable, short⟩

/-- An attempt on sound files transfers into a temporary file without a target beside it
if they are recoverable; otherwise it comes to its end without a temporary file, or the
record is refused. -/
theorem sound_attempt {post : Post (World ν) PtpIpError (Option Unit)}
    (sound : Sound job.savePath o w.files)
    (size : job.platform.asUsize w.stats.totalBytes.toNat = o.length)
    (crashes : ∀ fs, Sound job.savePath o fs → post.crashes (w.setFiles fs))
    (transfers : Recoverable job.platform job.savePath o w.files →
      ∀ (fs : FileSystem Path) (offset : Nat) (file : File Path), fs job.savePath = none →
        offset ≤ o.length → fs (getTempPath job.savePath) = some (o.take offset) →
        file.path = getTempPath job.savePath → file.AtEnd offset →
        Ensures (job.transfer o.length turns offset file) (w.setFiles fs) post)
    (ends : ¬ Recoverable job.platform job.savePath o w.files →
      ∀ (fs : FileSystem Path) (file : File Path), fs (getTempPath job.savePath) = none →
        Sound job.savePath o fs →
        Ensures (job.transfer o.length turns o.length file) (w.setFiles fs) post)
    (refused : ¬ Recoverable job.platform job.savePath o w.files → ∀ e, post.fails e w) :
    Ensures (job.downloadObjectWithResume turns) w post := by
  have fits : o.length < 2 ^ job.platform.usizeBits := by
    rw [← size]
    exact Nat.mod_lt _ (Nat.two_pow_pos _)
  -- the temporary file's length is the one that the record is compared with
  have hlen : ∀ contents, w.files (getTempPath job.savePath) = some contents →
      lenOf job.platform contents = contents.length :=
    fun contents h => lenOf_eq (Nat.lt_of_le_of_lt (sound.temp contents h).length_le fits)
  refine download_finds size (crashes _ sound) ?_
  intro p hfinds
  cases hfinds with
  | finished complete =>
    obtain ⟨contents, htarget, -⟩ := complete
    have stuck : ¬ Recoverable job.platform job.savePath o w.files := fun h => by
      cases htarget.symm.trans h.1
    rcases sound.exclusive with htemp | hnone
    · exact ends stuck w.files _ htemp sound
    · cases htarget.symm.trans hnone
  | refuse incomplete hrecord htemp unreadable =>
    exact refused (fun h => h.2 ⟨_, _, hrecord, htemp, Or.inl ⟨_, unreadable⟩⟩) _
  | restart incomplete hrecord htemp readable mismatch =>
    have recoverable := recoverable_of_entry (o := o) (sound.noTarget fits incomplete) hrecord
      htemp readable (fun names => absurd ((hlen _ htemp).trans names.symm) mismatch)
    have hcleared := sound.record none
    have htarget := (Function.update_of_ne (getResumePath_ne job.savePath).symm none
      w.files).trans recoverable.1
    exact ⟨crashes _ hcleared, crashes _ hcleared.removed, crashes _ (sound_started htarget),
      transfers recoverable _ 0 _ ((started_target _ _).trans htarget) (Nat.zero_le _)
        (started_temp _ _) rfl (Or.inr rfl)⟩
  | publish incomplete hrecord htemp readable agrees reached =>
    rw [hlen _ htemp] at agrees
    have stuck : ¬ Recoverable job.platform job.savePath o w.files := fun h =>
      h.2 ⟨_, _, hrecord, htemp, Or.inr ⟨agrees ▸ readable, agrees ▸ reached⟩⟩
    cases (sound.temp _ htemp).eq_of_length_le (agrees ▸ reached)
    have hmoved := sound_moved job.savePath o w.files
    exact ⟨crashes _ hmoved, crashes _ (hmoved.record none),
      ends stuck _ _ (published_temp _ _ _) (hmoved.record none)⟩
  | resume incomplete hrecord htemp readable agrees short =>
    rw [hlen _ htemp] at agrees
    have recoverable := recoverable_of_entry (o := o) (sound.noTarget fits incomplete) hrecord
      htemp readable (fun names => names ▸ short)
    rw [List.prefix_iff_eq_take.mp (sound.temp _ htemp), agrees] at htemp
    exact transfers recoverable w.files _ _ recoverable.1 (Nat.le_of_lt short) htemp rfl
      (Or.inl rfl)
  | fresh incomplete absent =>
    have recoverable : Recoverable job.platform job.savePath o w.files := by
      refine recoverable_of_record (sound.noTarget fits incomplete) ?_
      intro record contents hrecord htemp
      rcases absent with h | h
      · cases hrecord.symm.trans h
      · cases htemp.symm.trans h
    exact ⟨crashes _ sound.removed, crashes _ (sound_started recoverable.1),
      transfers recoverable _ 0 _ ((started_target _ _).trans recoverable.1) (Nat.zero_le _)
        (started_temp _ _) rfl (Or.inr rfl)⟩

/-- An attempt on sound files: they are sound at every moment, and `Ok` means the object. -/
theorem attempt_sound (sound : Sound job.savePath o w.files)
    (size : job.platform.asUsize w.stats.totalBytes.toNat = o.length)
    (faithful : Faithful job o 0) (uncounted : w.stats.chunks = 0 ∧ w.accepted = []) :
    Ensures (job.downloadObjectWithResume turns) w
      ⟨fun r w' => r = some () → w'.files job.savePath = some o, fun _ _ => True,
        fun w' => Sound job.savePath o w'.files⟩ := by
  refine sound_attempt sound size (fun _ h => h) ?_ ?_ (fun _ _ => trivial)
  · intro _ fs offset file htarget inside htemp path atEnd
    refine (transfer_ensures (w := w.setFiles fs) (faithful.later (Nat.zero_le _)) inside htemp
      path atEnd uncounted).mono ?_ (fun _ _ _ => trivial) ?_
    · rintro r w' (⟨-, delivered⟩ | ⟨hnone, -⟩) isOk
      · exact delivered.target
      · cases hnone.symm.trans isOk
    · intro w' h
      have htarget' : (w.setFiles fs).files job.savePath = none := htarget
      rw [htarget'] at h
      exact sound_of_interrupted h
  · intro _ fs file htemp hsound
    exact transfer_done (fun _ => hsound) (fun _ _ h => by cases h)
      (fun _ => finish_missing htemp hsound trivial)

end step

section runs

/-- A reply of the right length to a request within the object holds its bytes; other
replies may be anything. -/
def Honest {ν : Type} (job : Job ν) (object : Bytes) : Prop :=
  ∀ (offset : UInt64) (length : UInt32) (net : ν) (data : Bytes) (net' : ν),
    offset.toNat + length.toNat ≤ object.length →
    job.getPartialObject job.objectHandle offset length net = .ok data net' →
    data.length = length.toNat → data = (object.drop offset.toNat).take length.toNat

/-- An attempt to download the object to the target. -/
structure Attempt (platform : Platform) (savePath : Path) (object : Bytes) {ν : Type}
    (job : Job ν) : Prop where
  platform : job.platform = platform
  target : job.savePath = savePath
  chunkSize : job.downloadConfig.chunkSize < 2 ^ 32
  minChunkSize : job.downloadConfig.minChunkSize < 2 ^ 32
  size : object.length < 2 ^ 64
  honest : Honest job object

/-- The files after any number of attempts, each cut at any point of its run. -/
inductive Reachable (platform : Platform) (savePath : Path) (object : Bytes) :
    FileSystem Path → Prop where
  | start {fs : FileSystem Path} (noTarget : fs savePath = none)
      (noTemp : fs (getTempPath savePath) = none)
      (noRecord : fs (getResumePath savePath) = none) : Reachable platform savePath object fs
  | attempt {ν : Type} {job : Job ν} {fs : FileSystem Path} {net : ν} {turns : Nat}
      {w : World ν} (before : Reachable platform savePath object fs)
      (attempt : Attempt platform savePath object job)
      (cut : (job.downloadObjectWithResume turns).crash
        (World.start fs net (UInt64.ofNat object.length)) w) :
      Reachable platform savePath object w.files

/-- The part of the object that `usize` can count. -/
def countable (platform : Platform) (object : Bytes) : Bytes :=
  object.take (platform.asUsize object.length)

lemma countable_length (platform : Platform) (object : Bytes) :
    (countable platform object).length = platform.asUsize object.length :=
  List.length_take_of_le (Nat.mod_le _ _)

lemma countable_eq (platform : Platform) {object : Bytes}
    (fits : object.length < 2 ^ platform.usizeBits) : countable platform object = object := by
  rw [countable, Platform.asUsize_of_lt fits, List.take_length]

variable {ν : Type} {job : Job ν} {platform : Platform} {savePath : Path} {object : Bytes}
  {fs : FileSystem Path}

lemma nextChunk_lt {totalSize offset bound : Nat}
    (chunkSize : job.downloadConfig.chunkSize < bound)
    (minChunkSize : job.downloadConfig.minChunkSize < bound) :
    job.nextChunk totalSize offset < bound := by
  have hchunk := nextChunk_cases job totalSize offset
  omega

/-- The requests of an attempt stay within the object, and no cast changes them. -/
lemma Attempt.request (attempt : Attempt platform savePath object job) {offset : Nat}
    (more : offset < (countable platform object).length) :
    let n := job.nextChunk (countable platform object).length offset
    (UInt64.ofNat offset).toNat = offset ∧ (UInt32.ofNat n).toNat = n ∧
      offset + n ≤ (countable platform object).length := by
  have hle : (countable platform object).length ≤ object.length :=
    (List.take_prefix _ _).length_le
  have hchunk := nextChunk_le job (countable platform object).length offset
  have h64 : offset < 2 ^ 64 :=
    Nat.lt_of_lt_of_le more (Nat.le_trans hle (Nat.le_of_lt attempt.size))
  exact ⟨UInt64.toNat_ofNat_of_lt' h64,
    UInt32.toNat_ofNat_of_lt' (nextChunk_lt attempt.chunkSize attempt.minChunkSize), by omega⟩

lemma take_countable {offset n : Nat} (h : offset + n ≤ (countable platform object).length) :
    ((countable platform object).drop offset).take n = (object.drop offset).take n := by
  rw [countable_length] at h
  rw [countable, List.drop_take, List.take_take, Nat.min_eq_left (by omega)]

lemma Attempt.faithful (attempt : Attempt platform savePath object job) :
    Faithful job (countable platform object) 0 := by
  intro offset net data net' _ more hask hlen
  obtain ⟨h64, h32, hinside⟩ := attempt.request more
  have hle : (countable platform object).length ≤ object.length :=
    (List.take_prefix _ _).length_le
  have hdata := attempt.honest _ _ net data net' (by rw [h64, h32]; omega) hask
    (by rw [h32]; exact hlen)
  rw [hdata, h64, h32, take_countable hinside]

/-- Every attempt runs on what `usize` can count. -/
lemma Attempt.ensures (attempt : Attempt platform savePath object job)
    (sound : Sound savePath (countable platform object) fs) (net : ν) (turns : Nat) :
    Ensures (job.downloadObjectWithResume turns)
      (World.start fs net (UInt64.ofNat object.length))
      ⟨fun r w' => r = some () → w'.files savePath = some (countable platform object),
        fun _ _ => True, fun w' => Sound savePath (countable platform object) w'.files⟩ := by
  obtain ⟨rfl, rfl⟩ := And.intro attempt.platform attempt.target
  refine attempt_sound sound ?_ attempt.faithful ⟨rfl, rfl⟩
  rw [countable_length]
  exact congrArg _ (UInt64.toNat_ofNat_of_lt' attempt.size)

lemma Reachable.sound (reachable : Reachable platform savePath object fs) :
    Sound savePath (countable platform object) fs := by
  induction reachable with
  | start noTarget noTemp _ =>
    exact sound_of_no_temp noTemp (fun c hc => by cases noTarget.symm.trans hc)
  | attempt _ attempt cut ih => exact (attempt.ensures ih _ _).crashes _ cut

/-- The resume invariant: in every reachable state the temporary file is a prefix of the
object, the target absent or the object, never both; and an attempt that returns `Ok`
leaves the object at the target. -/
theorem resume_invariant {savePath : Path} {object : Bytes} {fs : FileSystem Path}
    (reachable : Reachable .bits64 savePath object fs) :
    (∀ contents, fs (getTempPath savePath) = some contents → contents <+: object) ∧
    (fs savePath = none ∨ fs savePath = some object) ∧
    (fs (getTempPath savePath) = none ∨ fs savePath = none) ∧
    ∀ (ν : Type) (job : Job ν) (net : ν) (turns : Nat) (w : World ν),
      Attempt .bits64 savePath object job →
      (job.downloadObjectWithResume turns).run
        (World.start fs net (UInt64.ofNat object.length)) = .ok (some ()) w →
      w.files savePath = some object := by
  have hsound := reachable.sound
  refine ⟨?_, ?_, hsound.exclusive, ?_⟩
  · intro contents h
    exact (hsound.temp contents h).trans (List.take_prefix _ _)
  · cases htarget : fs savePath with
    | none => exact Or.inl rfl
    | some contents =>
      right
      cases reachable with
      | start noTarget => cases noTarget.symm.trans htarget
      | attempt _ attempt _ =>
        rw [hsound.target contents htarget, countable_eq _ attempt.size]
  · intro ν job net turns w attempt hrun
    rw [← countable_eq .bits64 attempt.size]
    exact (attempt.ensures hsound net turns).returned hrun rfl

/-- A camera that answers every request, asked for two bytes at a time. -/
def steadyJob (object : Bytes) : Job Unit where
  platform := .bits64
  getPartialObject _ offset length net :=
    .ok ((object.drop offset.toNat).take length.toNat) net
  objectHandle := 1
  savePath := ⟨[], some [97]⟩
  sessionConfig := ⟨30, 3⟩
  downloadConfig := ⟨2, 1, fun _ => []⟩

lemma steadyJob_attempt {object : Bytes} (size : object.length < 2 ^ 64) :
    Attempt .bits64 (steadyJob object).savePath object (steadyJob object) where
  platform := rfl
  target := rfl
  chunkSize := (by decide : 2 < 2 ^ 32)
  minChunkSize := (by decide : 1 < 2 ^ 32)
  size := size
  honest offset length net data net' _ hask _ := by cases hask; rfl

/-- A camera that is lost when it is asked for bytes from some offset on. -/
def losingJob (object : Bytes) (lost : Nat) : Job Unit :=
  { steadyJob object with
    getPartialObject := fun handle offset length net =>
      if lost ≤ offset.toNat then .error .timeout net
      else (steadyJob object).getPartialObject handle offset length net }

lemma losingJob_ok {object : Bytes} {lost : Nat} {handle : UInt32} {offset : UInt64}
    {length : UInt32} {data : Bytes} {net net' : Unit}
    (h : (losingJob object lost).getPartialObject handle offset length net = .ok data net') :
    data = (object.drop offset.toNat).take length.toNat := by
  simp only [losingJob] at h
  split at h <;> cases h
  rfl

/-- After one turn of the loop the first two of three bytes are in the temporary file. -/
theorem resume_invariant_one_turn :
    let w := endState (((steadyJob [1, 2, 3]).downloadObjectWithResume 1).run
      (World.start (fun _ => none) () 3))
    ∀ contents, w.files (getTempPath (steadyJob [1, 2, 3]).savePath) = some contents →
      contents <+: [1, 2, 3] :=
  (resume_invariant (.attempt (.start rfl rfl rfl) (steadyJob_attempt (by decide))
    (Action.crash_end _ _))).1

end runs

end ResumeInvariant
