import PtpipCore.DownloadTurns
import PtpipCore.Lib.FileFrames
import PtpipCore.Lib.LossyText

/-!
# Downloads to different names

A download uses its target and two files beside it, whose names are made from the target's. A
name can look like such a file of another name; unless one of two names does, the downloads to
them share no file, and neither one reads or changes what the other has.
-/

namespace SidePaths

open Effects ByteStream CrashActions FileActions FileFrames Text Types Resume Download
open DownloadRun DownloadTurns
open EStateM (Result)
open Function (update)

/-- A name that a file in a directory can have. -/
@[ext] structure FileName where
  chars : List Char
  nonempty : chars ≠ []
  noSeparator : '/' ∉ chars
  notCurrent : chars ≠ ['.']
  notParent : chars ≠ ['.', '.']
  deriving DecidableEq

namespace FileName

def inDirectory (dir : Bytes) (name : FileName) : Path := ⟨dir, some (encodeUtf8 name.chars)⟩

/-- A dot before a name and a suffix behind it. -/
def beside (suffix : List Char) (some : suffix ≠ []) (noSeparator : '/' ∉ suffix)
    (name : FileName) : FileName where
  chars := '.' :: (name.chars ++ suffix)
  nonempty := List.cons_ne_nil _ _
  noSeparator := by
    rw [List.mem_cons, List.mem_append]
    rintro (dot | inName | inSuffix)
    · exact absurd dot (by decide)
    · exact name.noSeparator inName
    · exact noSeparator inSuffix
  notCurrent h := name.nonempty (List.append_eq_nil_iff.mp (List.cons.inj h).2).1
  notParent h := by
    have hname := List.length_pos_of_ne_nil name.nonempty
    have hsuffix := List.length_pos_of_ne_nil some
    have hlen := congrArg List.length (List.cons.inj h).2
    rw [List.length_append, List.length_singleton] at hlen
    omega

/-- The name of the temporary file of a target with this name. -/
def temp : FileName → FileName := beside ".download".toList (by decide) (by decide)

/-- The name of the record of a target with this name. -/
def resume : FileName → FileName := beside ".resume".toList (by decide) (by decide)

/-- Neither name is that of a file beside the other. -/
def Apart (a b : FileName) : Prop := (a ≠ b.temp ∧ a ≠ b.resume) ∧ b ≠ a.temp ∧ b ≠ a.resume

instance (a b : FileName) : Decidable (a.Apart b) := inferInstanceAs (Decidable (_ ∧ _))

end FileName

section names

variable (dir : Bytes) {a b : FileName}

lemma inDirectory_injective : Function.Injective (FileName.inDirectory dir) := by
  intro a b h
  exact FileName.ext (encodeUtf8_injective (Option.some.inj (congrArg Path.fileName h)))

/-- The name of the file beside a target is made of the name as it is. -/
lemma sibling_inDirectory (suffix fallback : String) (name : FileName) :
    sibling (name.inDirectory dir) suffix fallback =
      ⟨dir, some (encodeUtf8 ('.' :: (name.chars ++ suffix.toList)))⟩ := by
  have hname : dotted (encodeUtf8 name.chars) suffix =
      encodeUtf8 ('.' :: (name.chars ++ suffix.toList)) := by
    rw [dotted, toStringLossy_encodeUtf8, List.append_assoc]
    unfold encodeUtf8
    rw [List.flatMap_cons, List.flatMap_append]
    rfl
  exact congrArg (fun name => (⟨dir, some name⟩ : Path)) hname

lemma getTempPath_inDirectory (name : FileName) :
    getTempPath (name.inDirectory dir) = name.temp.inDirectory dir :=
  sibling_inDirectory dir _ _ name

lemma getResumePath_inDirectory (name : FileName) :
    getResumePath (name.inDirectory dir) = name.resume.inDirectory dir :=
  sibling_inDirectory dir _ _ name

section suffixes

variable {suffix : List Char} {some : suffix ≠ []} {noSeparator : '/' ∉ suffix}

lemma beside_injective : Function.Injective (FileName.beside suffix some noSeparator) := by
  intro a b h
  exact FileName.ext (List.append_cancel_right (List.cons.inj (congrArg FileName.chars h)).2)

lemma beside_last (name : FileName) :
    (FileName.beside suffix some noSeparator name).chars.getLast? = suffix.getLast? := by
  change ('.' :: (name.chars ++ suffix)).getLast? = suffix.getLast?
  rw [← List.cons_append, List.getLast?_append_of_ne_nil _ some]

end suffixes

/-- The two suffixes end in different characters. -/
lemma temp_ne_resume (a b : FileName) : a.temp ≠ b.resume := by
  intro h
  have hlast := congrArg (fun name : FileName => name.chars.getLast?) h
  dsimp only [FileName.temp, FileName.resume] at hlast
  rw [beside_last, beside_last] at hlast
  exact absurd hlast (by decide)

/-- The paths that a download uses. -/
def paths (savePath : Path) : List Path :=
  [savePath, getTempPath savePath, getResumePath savePath]

/-- Six paths in one directory are as different as the names are. -/
lemma disjoint_paths_iff (distinct : a ≠ b) :
    (paths (a.inDirectory dir)).Disjoint (paths (b.inDirectory dir)) ↔ a.Apart b := by
  have hpaths : ∀ name : FileName, paths (name.inDirectory dir) =
      [name, name.temp, name.resume].map (FileName.inDirectory dir) := by
    intro name
    unfold paths
    rw [getTempPath_inDirectory, getResumePath_inDirectory]
    rfl
  rw [hpaths, hpaths, List.Disjoint.map_iff (inDirectory_injective dir)]
  constructor
  · intro disjoint
    have differ : ∀ name ∈ [a, a.temp, a.resume], ∀ other ∈ [b, b.temp, b.resume],
        name ≠ other := fun name ha other hb same => disjoint ha (same ▸ hb)
    refine ⟨⟨differ _ ?_ _ ?_, differ _ ?_ _ ?_⟩, (differ _ ?_ _ ?_).symm,
      (differ _ ?_ _ ?_).symm⟩
    all_goals simp
  · rintro ⟨⟨notTemp, notResume⟩, notTemp', notResume'⟩ name ha hb
    simp only [List.mem_cons, List.not_mem_nil, or_false] at ha hb
    rcases ha with rfl | rfl | rfl
    · rcases hb with h | h | h
      · exact distinct h
      · exact notTemp h
      · exact notResume h
    · rcases hb with h | h | h
      · exact notTemp' h.symm
      · exact distinct (beside_injective h)
      · exact temp_ne_resume a b h
    · rcases hb with h | h | h
      · exact notResume' h.symm
      · exact temp_ne_resume b a h.symm
      · exact distinct (beside_injective h)

end names

section checking

variable (platform : Platform) (savePath : Path) (totalSize : Nat)

lemma savePath_mem : savePath ∈ paths savePath := List.mem_cons_self

lemma temp_mem : getTempPath savePath ∈ paths savePath :=
  List.mem_cons_of_mem _ List.mem_cons_self

lemma resume_mem : getResumePath savePath ∈ paths savePath :=
  List.mem_cons_of_mem _ (List.mem_cons_of_mem _ List.mem_cons_self)

lemma saveResumeState_local (offset : Nat) :
    Local (paths savePath) (fun _ => True) (saveResumeState savePath offset) :=
  local_write (resume_mem savePath) _

lemma targetComplete_local :
    Local (paths savePath) (fun _ => True) (targetComplete platform savePath totalSize) := by
  intro others
  refine commutes_bind (local_pathExists (savePath_mem savePath) others) fun found _ => ?_
  cases found with
  | false => exact commutes_pure trivial
  | true =>
    refine commutes_bind (local_metadataLen (savePath_mem savePath) others) fun len _ => ?_
    exact commutes_pure trivial

lemma checkRecord_local : Local (paths savePath) (fun r => OnNamed (paths savePath) r.2)
    (checkRecord platform savePath totalSize) := by
  intro others
  have hresume := resume_mem savePath
  have htemp := temp_mem savePath
  have hparse : ∀ resumeData,
      Commutes (mix (paths savePath) others) (fun _ => True) (parseOffset platform resumeData) := by
    intro resumeData
    unfold parseOffset
    split
    · exact commutes_pure trivial
    · exact commutes_fail _
  refine commutes_bind (local_readToString hresume others) fun resumeData _ => ?_
  refine commutes_bind (hparse resumeData) fun currentOffset _ => ?_
  refine commutes_bind (local_metadataLen htemp others) fun len _ => ?_
  split
  · -- record mismatch
    refine commutes_bind (local_removeFile hresume others) fun _ _ => ?_
    refine commutes_bind (local_removeFile htemp others) fun _ _ => ?_
    refine commutes_bind (local_create htemp others) fun file named => ?_
    exact commutes_pure named
  split
  · -- everything is there
    refine commutes_bind (local_rename htemp (savePath_mem savePath) others) fun _ _ => ?_
    refine commutes_bind (local_removeFile hresume others) fun _ _ => ?_
    refine commutes_bind (local_openRead (savePath_mem savePath) others) fun file named => ?_
    exact commutes_pure named
  · refine commutes_bind (local_openAppend htemp others) fun file named => ?_
    exact commutes_pure named

lemma startOver_local : Local (paths savePath) (fun r => OnNamed (paths savePath) r.2)
    (startOver savePath) := by
  intro others
  have htemp := temp_mem savePath
  have hcreate : Commutes (mix (paths savePath) others) (fun r => OnNamed (paths savePath) r.2)
      (do let file ← create (getTempPath savePath); return ((0, file) : Nat × File Path)
        : Files (Nat × File Path)) := by
    refine commutes_bind (local_create htemp others) fun file named => ?_
    exact commutes_pure named
  refine commutes_bind (local_pathExists htemp others) fun found _ => ?_
  cases found with
  | false => exact hcreate
  | true => exact commutes_bind (local_removeFile htemp others) fun _ _ => hcreate

lemma checkResumeState_local : Local (paths savePath) (fun r => OnNamed (paths savePath) r.2)
    (checkResumeState platform savePath totalSize) := by
  intro others
  refine commutes_bind (targetComplete_local platform savePath totalSize others)
    fun complete _ => ?_
  cases complete with
  | true =>
    refine commutes_bind (local_openRead (savePath_mem savePath) others) fun file named => ?_
    exact commutes_pure named
  | false =>
    refine commutes_bind (local_pathExists (resume_mem savePath) others) fun hasRecord _ => ?_
    refine commutes_bind (local_pathExists (temp_mem savePath) others) fun hasTemp _ => ?_
    cases hasRecord && hasTemp with
    | true => exact checkRecord_local platform savePath totalSize others
    | false => exact startOver_local savePath others

end checking

section worlds

variable {ν α β : Type} {names : List Path} {P : α → Prop}

/-- The named files of a world as they are, and all others as they are elsewhere. -/
abbrev mixed (names : List Path) (others : FileSystem Path) (w : World ν) : World ν :=
  w.setFiles (mix names others w.files)

/-- Files that are not named do not matter to a step of a download. -/
abbrev Framed (names : List Path) (P : α → Prop) (m : Step ν α) : Prop :=
  ∀ others, Commutes (mixed names others) P m

lemma framed_onFiles {m : Files α} (h : Local names P m) :
    Framed names P (onFiles m : Step ν α) := by
  intro others
  have hget : ∀ w : World ν, World.filesPart.get (mixed names others w) =
      mix names others (World.filesPart.get w) := fun _ => rfl
  have hset : ∀ fs (w : World ν), World.filesPart.set (mix names others fs) (mixed names others w) =
      mixed names others (World.filesPart.set fs w) := fun _ _ => rfl
  exact commutes_within hget hset (h others)

/-- Neither do they matter to a chunk request: the question goes to the network. -/
lemma framed_downloadRetrying (ask : EStateM PtpIpError ν Bytes) (left : Nat) :
    Framed names (fun _ => True) (.atomic (downloadRetrying ask left)) := by
  intro others
  refine commutes_atomic (fun w => ?_) fun _ _ _ _ => trivial
  have answered : ∀ left (w : World ν) data net, ask w.net = .ok data net →
      downloadRetrying ask left (mixed names others w) =
        mapState (mixed names others) (downloadRetrying ask left w) := by
    intro left w data net h
    rw [downloadRetrying_ok h, downloadRetrying_ok (w := mixed names others w) h]
    rfl
  induction left generalizing w with
  | zero =>
    cases h : ask w.net with
    | ok data net => exact answered 0 w data net h
    | error e net =>
      rw [downloadRetrying_last h, downloadRetrying_last (w := mixed names others w) h]
      rfl
  | succ left ih =>
    cases h : ask w.net with
    | ok data net => exact answered (left + 1) w data net h
    | error e net =>
      rw [downloadRetrying_again h, downloadRetrying_again (w := mixed names others w) h]
      exact ih (w.asked net (w.stats.retries + 1))

variable (job : Job ν) (totalSize : Nat)

lemma framed_countChunk (currentOffset chunkSize : Nat) :
    Framed names (fun _ => True) (Job.countChunk currentOffset chunkSize : Step ν Unit) :=
  fun _ => commutes_atomic (fun _ => rfl) fun _ _ _ _ => trivial

lemma framed_reportProgress (currentOffset last : Nat) :
    Framed names (fun _ => True) (job.reportProgress totalSize currentOffset last) := by
  intro others
  refine commutes_atomic (fun w => ?_) fun _ _ _ _ => trivial
  change (job.reportProgress totalSize currentOffset last).run (mixed names others w) =
    mapState _ ((job.reportProgress totalSize currentOffset last).run w)
  rw [reportProgress_run, reportProgress_run]
  rfl

/-- A turn of the loop keeps to the handle it was given. -/
lemma framed_downloadChunk {cur : Job.Cursor} (named : OnNamed (paths job.savePath) cur.file) :
    Framed (paths job.savePath) (fun cur' => OnNamed (paths job.savePath) cur'.file)
      (job.downloadChunk totalSize cur) := by
  intro others
  refine commutes_bind (framed_downloadRetrying _ _ others) fun data _ => ?_
  have hsave := fun offset => framed_onFiles (ν := ν) (saveResumeState_local job.savePath offset)
  split
  · refine commutes_bind (hsave _ others) fun _ _ => ?_
    exact commutes_fail _
  · refine commutes_bind (framed_onFiles (local_writeAll named data) others) fun file hfile => ?_
    refine commutes_bind (framed_countChunk _ _ others) fun _ _ => ?_
    refine commutes_bind (framed_reportProgress job totalSize _ _ others) fun last _ => ?_
    refine commutes_bind (hsave _ others) fun _ _ => ?_
    exact commutes_pure hfile

lemma framed_downloadLoop (turns : Nat) {cur : Job.Cursor}
    (named : OnNamed (paths job.savePath) cur.file) :
    Framed (paths job.savePath) (fun _ => True) (job.downloadLoop totalSize turns cur) := by
  intro others
  induction turns generalizing cur with
  | zero => exact commutes_pure trivial
  | succ turns ih =>
    rw [Job.downloadLoop_succ]
    split
    · exact commutes_bind (framed_downloadChunk job totalSize named others) fun _ hcur => ih hcur
    · exact commutes_pure trivial

lemma framed_finish : Framed (paths job.savePath) (fun _ => True) (job.finish totalSize) := by
  intro others
  have hrename := local_rename (ε := PtpIpError) (temp_mem job.savePath) (savePath_mem job.savePath)
  have hremove := local_removeFile (ε := PtpIpError) (resume_mem job.savePath)
  refine commutes_bind (framed_onFiles hrename others) fun _ _ => ?_
  refine commutes_bind (commutes_attempt (framed_onFiles hremove others)) fun _ _ => ?_
  exact commutes_atomic (fun _ => rfl) fun _ _ _ _ => trivial

/-- A download uses its three paths and no other. -/
theorem framed_download (turns : Nat) :
    Framed (paths job.savePath) (fun _ => True) (job.downloadObjectWithResume turns) := by
  intro others
  have hstart : ∀ currentOffset, Commutes (mixed (paths job.savePath) others) (fun _ => True)
      (Action.atomic fun w => .ok () { w with
        stats := { w.stats with downloadedBytes := UInt64.ofNat currentOffset } } :
        Step ν Unit) :=
    fun _ => commutes_atomic (fun _ => rfl) fun _ _ _ _ => trivial
  refine commutes_bind (P := fun _ => True)
    (commutes_atomic (fun _ => rfl) fun _ _ _ _ => trivial) fun totalBytes _ => ?_
  refine commutes_bind (framed_onFiles (checkResumeState_local _ _ _) others) fun r named => ?_
  refine commutes_bind (hstart r.1) fun _ _ => ?_
  refine commutes_bind (framed_downloadLoop job _ turns named others) fun cur _ => ?_
  cases cur with
  | none => exact commutes_pure trivial
  | some cur =>
    refine commutes_bind (framed_finish job _ others) fun _ _ => ?_
    exact commutes_pure trivial

/-- A step that neither reads nor changes these files: with others in their places it ends, and
can be cut, in the same ways, and they are as before at its end and after every crash. -/
structure Spares (names : List Path) (m : Step ν α) : Prop where
  unread : ∀ w fs, (∀ path ∉ names, fs path = w.files path) →
    m.run (w.setFiles fs) = mapState (fun u => u.setFiles (mix names u.files fs)) (m.run w) ∧
    ∀ u, m.crash (w.setFiles fs) u ↔ ∃ t, m.crash w t ∧ u = t.setFiles (mix names t.files fs)
  unchanged : ∀ w, ∀ path ∈ names, (endState (m.run w)).files path = w.files path
  crashed : ∀ w u, m.crash w u → ∀ path ∈ names, u.files path = w.files path

section framed

variable {own : List Path} {m : Step ν α} {w : World ν}

lemma mixed_self (own : List Path) (w : World ν) : mixed own w.files w = w := by
  change w.setFiles (mix own w.files w.files) = w
  rw [mix_self]
  rfl

/-- The files of a world outside of its own are those that it is given. -/
lemma mixed_elsewhere {fs : FileSystem Path} (disjoint : own.Disjoint names)
    (same : ∀ path ∉ names, fs path = w.files path) : mixed own fs w = w.setFiles fs := by
  change w.setFiles (mix own fs w.files) = w.setFiles fs
  congr 1
  funext path
  by_cases mine : path ∈ own
  · rw [mix_named mine, same path fun named => disjoint mine named]
  · rw [mix_other mine]

/-- A step keeps the files that it does not use. -/
lemma framed_unchanged (framed : Framed own P m) (w : World ν) {path : Path} (other : path ∉ own) :
    (endState (m.run w)).files path = w.files path := by
  have hrun := (framed w.files).run w
  rw [mixed_self] at hrun
  rw [hrun, endState_mapState]
  exact mix_other other

lemma framed_crashed (framed : Framed own P m) {w u : World ν} (crash : m.crash w u) {path : Path}
    (other : path ∉ own) : u.files path = w.files path := by
  rw [← mixed_self own w] at crash
  obtain ⟨t, -, rfl⟩ := ((framed w.files).crash w u).mp crash
  exact mix_other other

/-- A step that uses some files only leaves all others alone. -/
lemma Spares.of_framed (framed : Framed own P m) (disjoint : own.Disjoint names) :
    Spares names m := by
  constructor
  · intro w fs same
    -- what a kept world gets from elsewhere are the named files
    have hkept : ∀ t : World ν, (∀ path ∉ own, t.files path = w.files path) →
        mixed own fs t = t.setFiles (mix names t.files fs) :=
      fun t kept => congrArg _ (mix_of_disjoint disjoint same kept)
    rw [← mixed_elsewhere disjoint same]
    constructor
    · have hend := hkept _ fun _ => framed_unchanged framed w
      rw [(framed fs).run]
      cases hrun : m.run w with
      | ok a t =>
        rw [hrun] at hend
        exact congrArg _ hend
      | error e t =>
        rw [hrun] at hend
        exact congrArg _ hend
    · intro u
      rw [(framed fs).crash]
      constructor
      · rintro ⟨t, crash, rfl⟩
        exact ⟨t, crash, hkept t fun _ => framed_crashed framed crash⟩
      · rintro ⟨t, crash, rfl⟩
        exact ⟨t, crash, (hkept t fun _ => framed_crashed framed crash).symm⟩
  · intro w path named
    exact framed_unchanged framed w fun mine => disjoint mine named
  · intro w u crash path named
    exact framed_crashed framed crash fun mine => disjoint mine named

end framed

/-- A download spares the files that are none of its own. -/
lemma spares_download {target : Path} (isTarget : job.savePath = target)
    (disjoint : (paths target).Disjoint names) (turns : Nat) :
    Spares names (job.downloadObjectWithResume turns) := by
  subst isTarget
  exact .of_framed (framed_download job turns) disjoint

end worlds

section results

variable (dir : Bytes)

/-- Downloads to two names in a directory share no path exactly if neither name is that of a
file beside the other, and then neither of them reads or changes a file of the other. -/
theorem separate_downloads {a b : FileName} (distinct : a ≠ b) :
    ((paths (a.inDirectory dir)).Disjoint (paths (b.inDirectory dir)) ↔ a.Apart b) ∧
      (a.Apart b → ∀ {ν : Type} (job : Job ν) (turns : Nat),
        (job.savePath = a.inDirectory dir →
          Spares (paths (b.inDirectory dir)) (job.downloadObjectWithResume turns)) ∧
        (job.savePath = b.inDirectory dir →
          Spares (paths (a.inDirectory dir)) (job.downloadObjectWithResume turns))) := by
  refine ⟨disjoint_paths_iff dir distinct, fun apart ν job turns => ?_⟩
  have disjoint := (disjoint_paths_iff dir distinct).mpr apart
  constructor
  · intro isTarget
    exact spares_download job isTarget disjoint turns
  · intro isTarget
    exact spares_download job isTarget (fun path inB inA => disjoint inA inB) turns

private def nameA : FileName := ⟨['a'], by decide, by decide, by decide, by decide⟩

private def nameB : FileName := ⟨['b'], by decide, by decide, by decide, by decide⟩

/-- A download to `a` spares the files of `b`. -/
theorem separate_downloads_ab :
    (paths (nameA.inDirectory [])).Disjoint (paths (nameB.inDirectory [])) ∧
      Spares (paths (nameB.inDirectory []))
        ((zerosJob ⟨2, 1, fun _ => []⟩).downloadObjectWithResume 9) := by
  have apart : nameA.Apart nameB := by decide
  have separate := separate_downloads [] (a := nameA) (b := nameB) (by decide)
  exact ⟨separate.1.mpr apart, (separate.2 apart _ 9).1 (by decide)⟩

/-- A file with the name of a temporary file of `a`. -/
private def namesake : FileSystem Path :=
  update (fun _ => none) (nameA.temp.inDirectory []) (some [7, 8, 9])

/-- The download to `a` begins with emptying it. -/
theorem temp_file_shared :
    nameA ≠ nameA.temp ∧ getTempPath (nameA.inDirectory []) = nameA.temp.inDirectory [] ∧
      ¬ (paths (nameA.inDirectory [])).Disjoint (paths (nameA.temp.inDirectory [])) ∧
      (endState ((checkResumeState .bits64 (nameA.inDirectory []) 5).run namesake))
        (nameA.temp.inDirectory []) = some [] := by
  refine ⟨by decide, by decide, ?_, by decide⟩
  intro disjoint
  exact ((disjoint_paths_iff [] (by decide)).mp disjoint).2.1 rfl

end results

end SidePaths
