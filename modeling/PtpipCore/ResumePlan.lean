import PtpipCore.Resume

/-!
# What an attempt finds

The files of a target are in one of six situations, and checking them acts on
that situation alone.
-/

namespace ResumePlan

open Effects ByteStream CrashActions FileActions Text Types Resume
open Function (update)

/-- What to do with what is there. -/
inductive Plan where
  | finished
  | refuse (e : PtpIpError)
  | restart
  | publish (contents : Bytes)
  | resume (offset : Nat)
  | fresh
  deriving DecidableEq, Repr

variable (platform : Platform) (savePath : Path) (totalSize : Nat)

/-- A file's length as the code compares it. -/
def lenOf (contents : Bytes) : Nat :=
  platform.asUsize (UInt64.ofNat contents.length).toNat

/-- The number in a record, or the error of reading it. -/
def recordOffset (record : Bytes) : Except PtpIpError Nat :=
  match decodeUtf8 record with
  | none => .error (FromIo.fromIo .invalidData)
  | some cs =>
    match parseUnsigned platform.usizeBits (trim cs) with
    | none => .error .invalidResumeData
    | some offset => .ok offset

variable {platform} in
/-- A file that `usize` can count has the length it is compared by. -/
lemma lenOf_eq {contents : Bytes} (fits : contents.length < 2 ^ platform.usizeBits) :
    lenOf platform contents = contents.length := by
  have h64 : contents.length < 2 ^ 64 :=
    Nat.lt_of_lt_of_le fits (Nat.pow_le_pow_right (by decide) platform.narrow)
  rw [lenOf, UInt64.toNat_ofNat_of_lt' h64, Platform.asUsize_of_lt fits]

/-- The record of an offset is read back as it. -/
lemma recordOffset_decimal {offset : Nat} (fits : offset < 2 ^ platform.usizeBits) :
    recordOffset platform (decimal offset) = .ok offset := by
  unfold recordOffset decimal
  simp only [decodeUtf8_encodeUtf8, trim_digits (toDigits_isDigit offset),
    parseUnsigned_toDigits fits]

/-- The target has the length that is expected of it. -/
def Complete (fs : FileSystem Path) : Prop :=
  ∃ contents, fs savePath = some contents ∧ lenOf platform contents = totalSize

def recordPlan (record contents : Bytes) : Plan :=
  match recordOffset platform record with
  | .error e => .refuse e
  | .ok offset =>
    if lenOf platform contents ≠ offset then .restart
    else if totalSize ≤ offset then .publish contents
    else .resume offset

def plan (fs : FileSystem Path) : Plan :=
  if (fs savePath).any (lenOf platform · = totalSize) then .finished
  else
    match fs (getResumePath savePath), fs (getTempPath savePath) with
    | some record, some contents => recordPlan platform totalSize record contents
    | _, _ => .fresh

/-- The situation behind each plan. -/
inductive Finds (fs : FileSystem Path) : Plan → Prop where
  | finished (complete : Complete platform savePath totalSize fs) : Finds fs .finished
  | refuse {record contents : Bytes} {e : PtpIpError}
      (incomplete : ¬ Complete platform savePath totalSize fs)
      (hrecord : fs (getResumePath savePath) = some record)
      (htemp : fs (getTempPath savePath) = some contents)
      (unreadable : recordOffset platform record = .error e) : Finds fs (.refuse e)
  | restart {record contents : Bytes} {offset : Nat}
      (incomplete : ¬ Complete platform savePath totalSize fs)
      (hrecord : fs (getResumePath savePath) = some record)
      (htemp : fs (getTempPath savePath) = some contents)
      (readable : recordOffset platform record = .ok offset)
      (mismatch : lenOf platform contents ≠ offset) : Finds fs .restart
  | publish {record contents : Bytes} {offset : Nat}
      (incomplete : ¬ Complete platform savePath totalSize fs)
      (hrecord : fs (getResumePath savePath) = some record)
      (htemp : fs (getTempPath savePath) = some contents)
      (readable : recordOffset platform record = .ok offset)
      (agrees : lenOf platform contents = offset) (reached : totalSize ≤ offset) :
      Finds fs (.publish contents)
  | resume {record contents : Bytes} {offset : Nat}
      (incomplete : ¬ Complete platform savePath totalSize fs)
      (hrecord : fs (getResumePath savePath) = some record)
      (htemp : fs (getTempPath savePath) = some contents)
      (readable : recordOffset platform record = .ok offset)
      (agrees : lenOf platform contents = offset) (short : offset < totalSize) :
      Finds fs (.resume offset)
  | fresh (incomplete : ¬ Complete platform savePath totalSize fs)
      (absent : fs (getResumePath savePath) = none ∨ fs (getTempPath savePath) = none) :
      Finds fs .fresh

variable {platform savePath totalSize} in
lemma complete_iff {fs : FileSystem Path} :
    (fs savePath).any (lenOf platform · = totalSize) ↔
      Complete platform savePath totalSize fs := by
  unfold Complete
  cases fs savePath <;> simp

section agreement

variable {platform savePath} {fs : FileSystem Path}

variable (platform savePath fs) in
/-- There is a record, and it is the length of the temporary file beside it. -/
def RecordAgrees : Prop :=
  ∃ record contents, fs (getResumePath savePath) = some record ∧
    fs (getTempPath savePath) = some contents ∧
    recordOffset platform record = .ok (lenOf platform contents)

lemma not_recordAgrees_of_entry {record contents : Bytes}
    (hrecord : fs (getResumePath savePath) = some record)
    (htemp : fs (getTempPath savePath) = some contents)
    (differs : recordOffset platform record ≠ .ok (lenOf platform contents)) :
    ¬ RecordAgrees platform savePath fs := by
  rintro ⟨record', contents', hrecord', htemp', agrees⟩
  cases hrecord.symm.trans hrecord'
  cases htemp.symm.trans htemp'
  exact differs agrees

lemma not_recordAgrees_of_absent
    (absent : fs (getResumePath savePath) = none ∨ fs (getTempPath savePath) = none) :
    ¬ RecordAgrees platform savePath fs := by
  rintro ⟨record, contents, hrecord, htemp, -⟩
  rcases absent with h | h
  · cases h.symm.trans hrecord
  · cases h.symm.trans htemp

end agreement

theorem finds (fs : FileSystem Path) :
    Finds platform savePath totalSize fs (plan platform savePath totalSize fs) := by
  unfold plan
  by_cases complete : Complete platform savePath totalSize fs
  · rw [if_pos (complete_iff.mpr complete)]
    exact .finished complete
  rw [if_neg (fun h => complete (complete_iff.mp h))]
  cases hrecord : fs (getResumePath savePath) with
  | none => exact .fresh complete (Or.inl hrecord)
  | some record =>
    cases htemp : fs (getTempPath savePath) with
    | none => exact .fresh complete (Or.inr htemp)
    | some contents =>
      simp only [recordPlan]
      cases hoffset : recordOffset platform record with
      | error e => exact .refuse complete hrecord htemp hoffset
      | ok offset =>
        dsimp only
        by_cases mismatch : lenOf platform contents ≠ offset
        · rw [if_pos mismatch]
          exact .restart complete hrecord htemp hoffset mismatch
        rw [if_neg mismatch]
        by_cases reached : totalSize ≤ offset
        · rw [if_pos reached]
          exact .publish complete hrecord htemp hoffset (not_not.mp mismatch) reached
        · rw [if_neg reached]
          exact .resume complete hrecord htemp hoffset (not_not.mp mismatch)
            (Nat.lt_of_not_le reached)

/-- What carrying out a plan returns, and the states that a crash can leave on the way. -/
def Plan.Meets (fs : FileSystem Path)
    (post : Post (FileSystem Path) PtpIpError (Nat × File Path)) : Plan → Prop
  | finished => post.returns (totalSize, ⟨savePath, .read⟩) fs
  | refuse e => post.fails e fs
  | restart =>
    let cleared := update fs (getResumePath savePath) none
    let started := update cleared (getTempPath savePath) (some [])
    post.crashes cleared ∧ post.crashes (update cleared (getTempPath savePath) none) ∧
      post.crashes started ∧ post.returns (0, ⟨getTempPath savePath, .write 0⟩) started
  | publish contents =>
    let moved := update (update fs (getTempPath savePath) none) savePath (some contents)
    let published := update moved (getResumePath savePath) none
    post.crashes moved ∧ post.crashes published ∧
      post.returns (totalSize, ⟨savePath, .read⟩) published
  | resume offset => post.returns (offset, ⟨getTempPath savePath, .append⟩) fs
  | fresh =>
    let started := update fs (getTempPath savePath) (some [])
    post.crashes (update fs (getTempPath savePath) none) ∧ post.crashes started ∧
      post.returns (0, ⟨getTempPath savePath, .write 0⟩) started

section carrying

variable {platform savePath totalSize} {fs : FileSystem Path}
  {post : Post (FileSystem Path) PtpIpError (Nat × File Path)}

lemma targetComplete_ensures {post : Post (FileSystem Path) PtpIpError Bool}
    (start : post.crashes fs)
    (returned : post.returns ((fs savePath).any (lenOf platform · = totalSize)) fs) :
    Ensures (targetComplete platform savePath totalSize) fs post := by
  refine ensures_bind (ensures_pathExists start ?_)
  cases h : fs savePath with
  | none =>
    rw [h] at returned
    exact ensures_pure start returned
  | some contents =>
    rw [h] at returned
    exact ensures_bind (ensures_metadataLen h start (ensures_pure start returned))

lemma startOver_ensures (start : post.crashes fs)
    (meets : Plan.Meets savePath totalSize fs post .fresh) :
    Ensures (startOver savePath) fs post := by
  obtain ⟨removed, created, returned⟩ := meets
  have hcreate : ∀ fs' : FileSystem Path, post.crashes fs' →
      update fs' (getTempPath savePath) (some []) = update fs (getTempPath savePath) (some []) →
      Ensures (create (getTempPath savePath) >>= fun file => pure (0, file)) fs' post := by
    intro fs' crashed heq
    refine ensures_bind (ensures_create crashed (heq ▸ created) ?_)
    rw [heq]
    exact ensures_pure created returned
  refine ensures_bind (ensures_pathExists start ?_)
  cases h : fs (getTempPath savePath) with
  | none => exact hcreate fs start rfl
  | some contents =>
    refine ensures_bind (ensures_removeFile h start removed ?_)
    exact hcreate _ removed (Function.update_idem _ _ _)

/-- Reading the record gives its number, or fails with its error. -/
lemma ensures_record {record : Bytes} (start : post.crashes fs)
    (hrecord : fs (getResumePath savePath) = some record)
    {next : Nat → Files (Nat × File Path)}
    (h : match recordOffset platform record with
      | .error e => post.fails e fs
      | .ok offset => Ensures (next offset) fs post) :
    Ensures (readToString (getResumePath savePath) >>= fun resumeData =>
      parseOffset platform resumeData >>= next) fs post := by
  refine ensures_bind (ensures_readToString hrecord start ?_)
  unfold recordOffset at h
  cases hdecode : decodeUtf8 record with
  | none => simpa only [hdecode] using h
  | some cs =>
    simp only [hdecode] at h ⊢
    apply ensures_bind
    unfold parseOffset
    cases hparse : parseUnsigned platform.usizeBits (trim cs) with
    | none =>
      simp only [hparse] at h
      exact ensures_fail start h
    | some offset =>
      simp only [hparse] at h
      exact ensures_pure start h

lemma checkRecord_ensures (start : post.crashes fs) {record contents : Bytes}
    (hrecord : fs (getResumePath savePath) = some record)
    (htemp : fs (getTempPath savePath) = some contents)
    (meets : Plan.Meets savePath totalSize fs post
      (recordPlan platform totalSize record contents)) :
    Ensures (checkRecord platform savePath totalSize) fs post := by
  unfold recordPlan at meets
  refine ensures_record start hrecord ?_
  cases hoffset : recordOffset platform record with
  | error e =>
    simp only [hoffset] at meets ⊢
    exact meets
  | ok offset =>
    simp only [hoffset] at meets ⊢
    refine ensures_bind (ensures_metadataLen htemp start ?_)
    change Ensures (if lenOf platform contents ≠ offset then _ else _) fs post
    by_cases mismatch : lenOf platform contents ≠ offset
    · rw [if_pos mismatch] at meets
      obtain ⟨cleared, removed, created, returned⟩ := meets
      have hkept : update fs (getResumePath savePath) none (getTempPath savePath) =
          some contents := by
        rw [Function.update_of_ne (getTempPath_ne_getResumePath savePath), htemp]
      have hstarted : update (update (update fs (getResumePath savePath) none)
          (getTempPath savePath) none) (getTempPath savePath) (some []) =
          update (update fs (getResumePath savePath) none) (getTempPath savePath) (some []) :=
        Function.update_idem _ _ _
      rw [← hstarted] at created returned
      rw [if_pos mismatch]
      exact ensures_bind (ensures_removeFile hrecord start cleared
        (ensures_bind (ensures_removeFile hkept cleared removed
          (ensures_bind (ensures_create removed created (ensures_pure created returned))))))
    rw [if_neg mismatch] at meets
    rw [if_neg mismatch]
    by_cases reached : totalSize ≤ offset
    · rw [if_pos reached] at meets
      obtain ⟨moved, published, returned⟩ := meets
      have hkept : update (update fs (getTempPath savePath) none) savePath (some contents)
          (getResumePath savePath) = some record := by
        rw [Function.update_of_ne (getResumePath_ne savePath),
          Function.update_of_ne (getTempPath_ne_getResumePath savePath).symm, hrecord]
      have htarget : update (update (update fs (getTempPath savePath) none) savePath
          (some contents)) (getResumePath savePath) none savePath = some contents := by
        rw [Function.update_of_ne (getResumePath_ne savePath).symm, Function.update_self]
      rw [if_pos reached]
      exact ensures_bind (ensures_rename htemp start moved
        (ensures_bind (ensures_removeFile hkept moved published
          (ensures_bind (ensures_openRead htarget published
            (ensures_pure published returned))))))
    · rw [if_neg reached] at meets
      rw [if_neg reached]
      exact ensures_bind (ensures_openAppend htemp start (ensures_pure start meets))

/-- Checking the files carries out the plan. -/
theorem checkResumeState_ensures (start : post.crashes fs)
    (meets : Plan.Meets savePath totalSize fs post (plan platform savePath totalSize fs)) :
    Ensures (checkResumeState platform savePath totalSize) fs post := by
  unfold plan at meets
  refine ensures_bind (targetComplete_ensures start ?_)
  by_cases complete : (fs savePath).any (lenOf platform · = totalSize)
  · rw [if_pos complete] at meets
    rw [complete]
    cases h : fs savePath with
    | none => rw [h] at complete; cases complete
    | some contents => exact ensures_bind (ensures_openRead h start (ensures_pure start meets))
  · rw [if_neg complete] at meets
    rw [eq_false_of_ne_true complete]
    refine ensures_bind (ensures_pathExists start
      (ensures_bind (ensures_pathExists start ?_)))
    cases hrecord : fs (getResumePath savePath) with
    | none =>
      simp only [hrecord] at meets
      exact startOver_ensures start meets
    | some record =>
      cases htemp : fs (getTempPath savePath) with
      | none =>
        simp only [hrecord, htemp] at meets
        exact startOver_ensures start meets
      | some contents =>
        simp only [hrecord, htemp] at meets
        exact checkRecord_ensures start hrecord htemp meets

end carrying

end ResumePlan
