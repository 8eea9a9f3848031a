import PtpipCore.ResumeInvariant

/-!
# Different objects downloaded to one target

Temporary file and record carry a length, but not the object they belong to. A call
delivers its own object if nothing of another one stands in its way.
-/

namespace MixedDownloads

open Effects ByteStream CrashActions FileActions Types Resume ResumePlan Download DownloadRun
open ResumeInvariant
open EStateM (Result)
open Function (update)

/-- No reply is longer than what was asked for. -/
def Measured {ν : Type} (job : Job ν) : Prop :=
  ∀ (offset : UInt64) (length : UInt32) (net : ν) (data : Bytes) (net' : ν),
    job.getPartialObject job.objectHandle offset length net = .ok data net' →
    data.length ≤ length.toNat

/-- A call for some object; `turns` bounds the turns of its loop. -/
structure Call (platform : Platform) (savePath : Path) where
  Net : Type
  job : Job Net
  object : Bytes
  net : Net
  turns : Nat
  platform_eq : job.platform = platform
  savePath_eq : job.savePath = savePath
  size : object.length < 2 ^ 64
  honest : Honest job object
  measured : Measured job

variable {platform : Platform} {savePath : Path}

def Call.outcome (call : Call platform savePath) (fs : FileSystem Path) :
    Result PtpIpError (World call.Net) (Option Unit) :=
  (call.job.downloadObjectWithResume call.turns).run
    (World.start fs call.net (UInt64.ofNat call.object.length))

/-- The files that a call leaves. -/
def Call.after (fs : FileSystem Path) (call : Call platform savePath) : FileSystem Path :=
  (endState (call.outcome fs)).files

/-- `usize` counts the object; beside a target of its length there is no temporary file but
one that holds the object; and a temporary file that would be resumed is a prefix of it. -/
structure Undisturbed (platform : Platform) (savePath : Path) (object : Bytes)
    (fs : FileSystem Path) : Prop where
  fits : object.length < 2 ^ platform.usizeBits
  complete : Complete platform savePath object.length fs →
    ∀ contents, fs (getTempPath savePath) = some contents → contents = object
  resumed : ¬ Complete platform savePath object.length fs →
    ∀ record contents, fs (getResumePath savePath) = some record →
      fs (getTempPath savePath) = some contents →
      recordOffset platform record = .ok (lenOf platform contents) →
      lenOf platform contents < object.length → contents <+: object

section call

variable {ν : Type} {job : Job ν} {object : Bytes} {w : World ν}

/-- An honest camera's chunks are right whatever their size: one that does not fit the
length field is never accepted. -/
lemma faithful_of_measured (honest : Honest job object) (measured : Measured job)
    (size : object.length < 2 ^ 64) : Faithful job object 0 := by
  intro offset net data net' _ more hask hlen
  have h64 : (UInt64.ofNat offset).toNat = offset :=
    UInt64.toNat_ofNat_of_lt' (Nat.lt_trans more size)
  have hchunk := nextChunk_le job object.length offset
  have hdata := measured _ _ net data net' hask
  rw [hlen, UInt32.toNat_ofNat'] at hdata
  have h32 : (UInt32.ofNat (job.nextChunk object.length offset)).toNat =
      job.nextChunk object.length offset := by
    rw [UInt32.toNat_ofNat']
    exact Nat.le_antisymm (Nat.mod_le _ _) hdata
  have hright := honest _ _ net data net' (by rw [h64, h32]; omega) hask (hlen.trans h32.symm)
  rwa [h64, h32] at hright

/-- A call that is not disturbed returns `Ok` only with its object at the target. -/
theorem call_delivers (turns : Nat) (size : object.length < 2 ^ 64)
    (total : w.stats.totalBytes = UInt64.ofNat object.length)
    (uncounted : w.stats.chunks = 0 ∧ w.accepted = []) (honest : Honest job object)
    (measured : Measured job)
    (undisturbed : Undisturbed job.platform job.savePath object w.files) :
    Ensures (job.downloadObjectWithResume turns) w
      ⟨fun r w' => r = some () → w'.files job.savePath = some object, fun _ _ => True,
        fun _ => True⟩ := by
  have hsize : job.platform.asUsize w.stats.totalBytes.toNat = object.length := by
    rw [total, UInt64.toNat_ofNat_of_lt' size, Platform.asUsize_of_lt undisturbed.fits]
  have htransfer : ∀ (fs : FileSystem Path) (offset : Nat) (file : File Path),
      offset ≤ object.length → fs (getTempPath job.savePath) = some (object.take offset) →
      file.path = getTempPath job.savePath → file.AtEnd offset →
      Ensures (job.transfer object.length turns offset file) (w.setFiles fs)
        ⟨fun r w' => r = some () → w'.files job.savePath = some object, fun _ _ => True,
          fun _ => True⟩ := by
    intro fs offset file inside htemp path atEnd
    have faithful := (faithful_of_measured honest measured size).later (Nat.zero_le offset)
    refine (transfer_ensures (w := w.setFiles fs) faithful inside htemp path atEnd uncounted).mono
      ?_ (fun _ _ _ => trivial) (fun _ _ => trivial)
    rintro r w' (⟨-, delivered⟩ | ⟨hnone, -⟩) isOk
    · exact delivered.target
    · cases hnone.symm.trans isOk
  refine download_finds hsize trivial ?_
  intro p hfinds
  cases hfinds with
  | finished complete =>
    refine transfer_done (fun _ => trivial) (fun _ _ h => by cases h) (fun stats => ?_)
    cases htemp : w.files (getTempPath job.savePath) with
    | none => exact finish_missing htemp trivial trivial
    | some contents =>
      cases undisturbed.complete complete contents htemp
      exact finish_ensures htemp trivial trivial (fun _ => trivial)
        (fun _ => ⟨trivial, fun _ => published_target _ _ _⟩)
  | refuse => trivial
  | restart =>
    exact ⟨trivial, trivial, trivial,
      htransfer _ 0 _ (Nat.zero_le _) (started_temp _ _) rfl (Or.inr rfl)⟩
  | publish =>
    exact ⟨trivial, trivial, transfer_done (fun _ => trivial) (fun _ _ h => by cases h)
      (fun _ => finish_missing (published_temp _ _ _) trivial trivial)⟩
  | resume incomplete hrecord htemp readable agrees short =>
    have hfront := undisturbed.resumed incomplete _ _ hrecord htemp (agrees ▸ readable)
      (agrees ▸ short)
    rw [lenOf_eq (Nat.lt_of_le_of_lt hfront.length_le undisturbed.fits)] at agrees
    rw [List.prefix_iff_eq_take.mp hfront, agrees] at htemp
    exact htransfer w.files _ _ (Nat.le_of_lt short) htemp rfl (Or.inl rfl)
  | fresh =>
    exact ⟨trivial, trivial,
      htransfer _ 0 _ (Nat.zero_le _) (started_temp _ _) rfl (Or.inr rfl)⟩

/-- A prefix of something else stays in front of the bytes that are fetched behind it. -/
lemma Faithful.spliced {contents : Bytes} (faithful : Faithful job object 0)
    (short : contents.length ≤ object.length) :
    Faithful job (contents ++ object.drop contents.length) contents.length := by
  have hlength : (contents ++ object.drop contents.length).length = object.length := by
    rw [List.length_append, List.length_drop]
    omega
  intro offset net data net' behind more hask hlen
  unfold askChunk at hask
  rw [hlength] at more hask hlen ⊢
  rw [faithful offset net data net' (Nat.zero_le _) more hask hlen, List.drop_append,
    List.drop_eq_nil_of_le behind, List.nil_append, List.drop_drop,
    Nat.add_sub_cancel' behind]

/-- Nothing disturbs a call that neither ends at once nor goes on from a record. -/
lemma undisturbed_of_disagreement (fits : object.length < 2 ^ job.platform.usizeBits)
    (incomplete : ¬ Complete job.platform job.savePath object.length w.files)
    (disagree : ¬ RecordAgrees job.platform job.savePath w.files) :
    Undisturbed job.platform job.savePath object w.files :=
  ⟨fits, fun complete => absurd complete incomplete, fun _ record contents hrecord htemp agrees _ =>
    absurd ⟨record, contents, hrecord, htemp, agrees⟩ disagree⟩

/-- A transfer behind bytes of something else returns `Ok` with something else at the target. -/
lemma transfer_spliced {contents : Bytes} {file : File Path} {turns : Nat}
    (faithful : Faithful job object 0) (served : Served job object)
    (positive : 1 ≤ job.downloadConfig.chunkSize) (enough : object.length < turns)
    (uncounted : w.stats.chunks = 0 ∧ w.accepted = [])
    (htemp : w.files (getTempPath job.savePath) = some contents)
    (short : contents.length < object.length) (other : ¬ contents <+: object)
    (path : file.path = getTempPath job.savePath) (atEnd : file.AtEnd contents.length) :
    Ensures (job.transfer object.length turns contents.length file) w
      ⟨fun r w' => r = some () ∧ w'.files job.savePath ≠ some object, fun _ _ => False,
        fun _ => True⟩ := by
  -- what is at the target in the end begins with the bytes of the other object
  let o := contents ++ object.drop contents.length
  have hlength : o.length = object.length := by
    rw [List.length_append, List.length_drop]
    omega
  have htaken : o.take contents.length = contents := List.take_left
  have hserved : Served job o := by
    unfold Served askChunk
    rw [hlength]
    exact served
  have inside : contents.length ≤ o.length := Nat.le_of_lt (hlength ▸ short)
  have htemp' : w.files (getTempPath job.savePath) = some (o.take contents.length) :=
    htaken.symm ▸ htemp
  rw [← hlength]
  refine (transfer_ensures (Faithful.spliced faithful (Nat.le_of_lt short)) inside htemp' path
    atEnd uncounted).mono ?_ (fun _ _ h => h.2 hserved) (fun _ _ => trivial)
  rintro r w' (⟨rfl, delivered⟩ | ⟨-, hturns⟩)
  · refine ⟨rfl, fun htarget => other ?_⟩
    rw [← Option.some.inj (delivered.target.symm.trans htarget)]
    exact List.prefix_append _ _
  · have hshort : contents.length + turns ≤ o.length := hturns positive
    omega

/-- A disturbed call that is served returns `Ok` with something else at the target. -/
theorem disturbed_call (size : object.length < 2 ^ 64)
    (fits : object.length < 2 ^ job.platform.usizeBits)
    (small : ∀ contents, w.files (getTempPath job.savePath) = some contents →
      contents.length < 2 ^ job.platform.usizeBits)
    (total : w.stats.totalBytes = UInt64.ofNat object.length)
    (uncounted : w.stats.chunks = 0 ∧ w.accepted = []) (honest : Honest job object)
    (measured : Measured job) (served : Served job object)
    (positive : 1 ≤ job.downloadConfig.chunkSize) {turns : Nat} (enough : object.length < turns)
    (disturbed : ¬ Undisturbed job.platform job.savePath object w.files) :
    Ensures (job.downloadObjectWithResume turns) w
      ⟨fun r w' => r = some () ∧ w'.files job.savePath ≠ some object, fun _ _ => False,
        fun _ => True⟩ := by
  have hsize : job.platform.asUsize w.stats.totalBytes.toNat = object.length := by
    rw [total, UInt64.toNat_ofNat_of_lt' size, Platform.asUsize_of_lt fits]
  refine download_finds hsize trivial ?_
  intro p hfinds
  cases hfinds with
  | finished complete =>
    refine transfer_done (fun _ => trivial) (fun h => absurd enough (by omega)) (fun stats => ?_)
    cases htemp : w.files (getTempPath job.savePath) with
    | none =>
      refine absurd ⟨fits, fun _ contents h => ?_, fun h => absurd complete h⟩ disturbed
      cases htemp.symm.trans h
    | some contents =>
      have hother : contents ≠ object := by
        rintro rfl
        refine disturbed ⟨fits, fun _ contents h => ?_, fun h => absurd complete h⟩
        exact Option.some.inj (h.symm.trans htemp)
      refine finish_ensures htemp trivial trivial (fun _ => trivial) (fun _ => ⟨trivial, rfl, ?_⟩)
      intro htarget
      exact hother (Option.some.inj ((published_target _ _ _).symm.trans htarget))
  | refuse incomplete hrecord htemp unreadable =>
    refine absurd (undisturbed_of_disagreement fits incomplete
      (not_recordAgrees_of_entry hrecord htemp ?_)) disturbed
    intro agrees
    cases unreadable.symm.trans agrees
  | restart incomplete hrecord htemp readable mismatch =>
    refine absurd (undisturbed_of_disagreement fits incomplete
      (not_recordAgrees_of_entry hrecord htemp ?_)) disturbed
    intro agrees
    exact mismatch (Except.ok.inj (readable.symm.trans agrees)).symm
  | publish incomplete hrecord htemp readable agrees reached =>
    refine absurd ⟨fits, fun h => absurd h incomplete, fun _ _ _ _ htemp' _ short => ?_⟩ disturbed
    cases htemp.symm.trans htemp'
    omega
  | @resume record contents offset incomplete hrecord htemp readable agrees short =>
    have hother : ¬ contents <+: object := by
      intro hfront
      refine disturbed ⟨fits, fun h => absurd h incomplete, fun _ _ _ _ htemp' _ _ => ?_⟩
      cases htemp.symm.trans htemp'
      exact hfront
    rw [lenOf_eq (small _ htemp)] at agrees
    subst agrees
    exact transfer_spliced (faithful_of_measured honest measured size) served positive enough
      uncounted htemp short hother rfl (Or.inl rfl)
  | fresh incomplete absent =>
    exact absurd (undisturbed_of_disagreement fits incomplete (not_recordAgrees_of_absent absent))
      disturbed

end call

lemma Call.delivers (call : Call platform savePath) {fs : FileSystem Path}
    (undisturbed : Undisturbed platform savePath call.object fs)
    (isOk : answer (call.outcome fs) = .ok (some ())) :
    (endState (call.outcome fs)).files savePath = some call.object := by
  obtain ⟨Net, job, object, net, turns, rfl, rfl, size, honest, measured⟩ := call
  exact (call_delivers (w := World.start fs net (UInt64.ofNat object.length))
    turns size rfl ⟨rfl, rfl⟩ honest measured undisturbed).answer_ok isOk rfl

/-- In every run of calls for any objects, whatever files it starts with: a call that finds
the files undisturbed returns `Ok` only with its own object at the target. -/
theorem ok_means_object (calls : List (Call platform savePath)) (fs : FileSystem Path) :
    ∀ x ∈ history Call.after fs calls, Undisturbed platform savePath x.2.object x.1 →
      answer (x.2.outcome x.1) = .ok (some ()) →
      (endState (x.2.outcome x.1)).files savePath = some x.2.object :=
  fun x _ undisturbed isOk => x.2.delivers undisturbed isOk

section twoCalls

/-- A camera that answers as long as it is there, and is then lost. -/
def losingCall (object : Bytes) (lost turns : Nat) (size : object.length < 2 ^ 64) :
    Call .bits64 (losingJob object lost).savePath where
  Net := Unit
  job := losingJob object lost
  object := object
  net := ()
  turns := turns
  platform_eq := rfl
  savePath_eq := rfl
  size := size
  honest _ _ _ _ _ _ hask _ := losingJob_ok hask
  measured _ _ _ _ _ hask := losingJob_ok hask ▸ List.length_take_le _ _

/-- The call breaks off after two bytes of its object. -/
def firstCall : Call .bits64 (steadyJob []).savePath := losingCall [1, 2, 3] 2 4 (by decide)

/-- The call gets all of another object. -/
def secondCall : Call .bits64 (steadyJob []).savePath :=
  losingCall [9, 8, 7, 6] 4 5 (by decide)

/-- A call gets all of the first object, another one breaks off after two bytes of the other. -/
private def foregoing : FileSystem Path :=
  [losingCall [1, 2, 3] 3 4 (by decide), losingCall [9, 8, 7, 6] 2 5 (by decide)].foldl Call.after
    fun _ => none

/-- Neither the object nor the two bytes that it finds disturb the call. -/
theorem ok_means_object_resumed :
    foregoing (steadyJob []).savePath = some [1, 2, 3] ∧
    foregoing (getTempPath (steadyJob []).savePath) = some [9, 8] ∧
    (endState (secondCall.outcome foregoing)).files (steadyJob []).savePath =
      some [9, 8, 7, 6] := by
  have htarget : foregoing (steadyJob []).savePath = some [1, 2, 3] := by decide
  have htemp : foregoing (getTempPath (steadyJob []).savePath) = some [9, 8] := by decide
  have undisturbed : Undisturbed .bits64 (steadyJob []).savePath [9, 8, 7, 6] foregoing := by
    refine ⟨by decide, ?_, fun _ _ contents _ htemp' _ _ => ?_⟩
    · rintro ⟨contents, hcomplete, hlength⟩
      obtain rfl : contents = [1, 2, 3] := Option.some.inj (hcomplete.symm.trans htarget)
      cases hlength
    · obtain rfl : contents = [9, 8] := Option.some.inj (htemp'.symm.trans htemp)
      decide
  exact ⟨htarget, htemp, ok_means_object [losingCall [1, 2, 3] 3 4 (by decide),
    losingCall [9, 8, 7, 6] 2 5 (by decide), secondCall] (fun _ => none) (foregoing, secondCall)
    (List.mem_cons_of_mem _ (List.mem_cons_of_mem _ List.mem_cons_self)) undisturbed (by decide)⟩

/-- The second call returns `Ok` with the first object's bytes before its own. -/
theorem second_object_mixed : ∃ x ∈ history Call.after (fun _ => none) [firstCall, secondCall],
    answer (x.2.outcome x.1) = .ok (some ()) ∧
      (endState (x.2.outcome x.1)).files (steadyJob []).savePath = some [1, 2, 7, 6] ∧
      x.2.object = [9, 8, 7, 6] :=
  ⟨(firstCall.after fun _ => none, secondCall), List.mem_cons_of_mem _ List.mem_cons_self,
    by decide, by decide, by decide⟩

end twoCalls

end MixedDownloads
