import PtpipCore.ChunkAnswers
import PtpipCore.ResumeEntry
import PtpipCore.ResumeInvariant

/-!
# What a download comes to

A download begins behind what an earlier attempt has left, and from there on the answers of the
camera decide: it returns exactly when they reach the end, and has then put them behind what was
there; it gives up at the first chunk that is not answered with its length.
-/

namespace DownloadOutcome

open Effects ByteStream CrashActions FileActions Text Types Resume ResumePlan Download DownloadRun
open DownloadTurns ChunkAnswers ResumeInvariant
open Download.Job
open EStateM (Result)
open Function (update)

variable {ν : Type}

section transfers

variable {job : Job ν} {totalSize offset : Nat} {file : File Path} {w w' : World ν} {turns : Nat}

/-- The head of the loop when a transfer begins. -/
def loopStart (offset : Nat) (file : File Path) (w : World ν) : Cursor × World ν :=
  (⟨offset, file, 0⟩,
    { w with stats := { w.stats with downloadedBytes := UInt64.ofNat offset } })

/-- The loop of a transfer, for so many turns. -/
abbrev loopRun (job : Job ν) (totalSize turns : Nat) (x : Cursor × World ν) :
    Result PtpIpError (World ν) (Option Cursor) := (job.downloadLoop totalSize turns x.1).run x.2

lemma transfer_outOfTurns
    (run : loopRun job totalSize turns (loopStart offset file w) = .ok none w') :
    (job.transfer totalSize turns offset file).run w = .ok none w' :=
  (Action.run_bind_ok rfl).trans (Action.run_bind_ok run)

lemma transfer_stopped {e : PtpIpError}
    (run : loopRun job totalSize turns (loopStart offset file w) = .error e w') :
    (job.transfer totalSize turns offset file).run w = .error e w' :=
  (Action.run_bind_ok rfl).trans (Action.run_bind_error run)

/-- Behind the loop only the end of the download is left. -/
lemma transfer_finished {cur : Cursor}
    (run : loopRun job totalSize turns (loopStart offset file w) = .ok (some cur) w') :
    (job.transfer totalSize turns offset file).run w =
      (job.finish totalSize >>= fun _ => (pure (some ()) : Step ν (Option Unit))).run w' :=
  (Action.run_bind_ok rfl).trans (Action.run_bind_ok run)

/-- The end of a download whose temporary file is there. -/
def finished (job : Job ν) (totalSize : Nat) (contents : Bytes) (w : World ν) : World ν :=
  { w.setFiles (published job.savePath contents w.files) with
    progress := w.progress ++ [(totalSize, totalSize, true, w.stats)] }

lemma finish_present {contents : Bytes}
    (present : w.files (getTempPath job.savePath) = some contents) :
    (job.finish totalSize >>= fun _ => (pure (some ()) : Step ν (Option Unit))).run w =
      .ok (some ()) (finished job totalSize contents w) := by
  have hfinish : (job.finish totalSize).run w = .ok () (finished job totalSize contents w) := by
    have hrename : (onFiles (rename (getTempPath job.savePath) job.savePath) : Step ν Unit).run w =
        .ok () (w.setFiles (moved job.savePath contents w.files)) := by
      refine Ensures.outcome (Q := fun r => r = .ok () _) (onFiles_ensures ?_)
      exact ensures_rename present trivial trivial rfl
    have hremove : ((onFiles (removeFile (getResumePath job.savePath)) : Step ν Unit).attempt).run
        (w.setFiles (moved job.savePath contents w.files)) = .ok
          (answer ((onFiles (removeFile (getResumePath job.savePath)) : Step ν Unit).run
            (w.setFiles (moved job.savePath contents w.files))))
          (w.setFiles (published job.savePath contents w.files)) := by
      refine congrArg (Result.ok _) ?_
      refine Ensures.outcome (Q := fun r => endState r = _) (onFiles_ensures ?_)
      cases hrecord : moved job.savePath contents w.files (getResumePath job.savePath) with
      | some record => exact ensures_removeFile hrecord trivial trivial rfl
      | none =>
        refine ensures_withFile_missing hrecord trivial ?_
        rw [published, ← hrecord, Function.update_eq_self]
        rfl
    exact (Action.run_bind_ok hrename).trans (Action.run_bind_ok hremove)
  exact Action.run_bind_ok hfinish

/-- Without a temporary file nothing is published. -/
lemma finish_absent (absent : w.files (getTempPath job.savePath) = none) :
    (job.finish totalSize >>= fun _ => (pure (some ()) : Step ν (Option Unit))).run w =
      .error (.io .notFound) w := by
  have hfinish : (job.finish totalSize).run w = .error (.io .notFound) w :=
    Ensures.outcome (Q := fun r => r = .error (.io .notFound) w)
      (finish_missing absent trivial rfl)
  exact Action.run_bind_error hfinish

end transfers

section beginning

/-- The offset at which a transfer begins, and what the temporary file holds then. -/
def beginning (savePath : Path) (fs : FileSystem Path) : Plan → Option (Nat × Bytes)
  | .fresh => some (0, [])
  | .restart => some (0, [])
  | .resume offset => (fs (getTempPath savePath)).map fun contents => (offset, contents)
  | _ => none

/-- The temporary file has been opened behind its contents. -/
structure Opened (savePath : Path) (contents : Bytes) (fs : FileSystem Path) (file : File Path)
    (fs' : FileSystem Path) : Prop where
  path : file.path = getTempPath savePath
  atEnd : file.AtEnd contents.length
  temp : fs' (getTempPath savePath) = some contents
  target : fs' savePath = fs savePath

variable {platform : Platform} {savePath : Path} {totalSize offset : Nat} {contents : Bytes}
  {fs : FileSystem Path}

/-- The check opens the temporary file wherever a transfer begins. -/
lemma check_opens
    (begins : beginning savePath fs (plan platform savePath totalSize fs) =
      some (offset, contents)) :
    offset ≤ totalSize ∧ ∃ file fs', Opened savePath contents fs file fs' ∧
      (checkResumeState platform savePath totalSize).run fs = .ok (offset, file) fs' := by
  have started : ∀ fs' : FileSystem Path, fs' savePath = fs savePath →
      Opened savePath [] fs ⟨getTempPath savePath, .write 0⟩
        (update fs' (getTempPath savePath) (some [])) := fun fs' same =>
    ⟨rfl, Or.inr rfl, started_temp _ _, (started_target _ _).trans same⟩
  have hends : Ensures (checkResumeState platform savePath totalSize) fs
      ⟨fun r fs' => r.1 = offset ∧ offset ≤ totalSize ∧ Opened savePath contents fs r.2 fs',
        fun _ _ => False, fun _ => True⟩ := by
    refine checkResumeState_ensures trivial ?_
    have hfinds := finds platform savePath totalSize fs
    generalize plan platform savePath totalSize fs = p at hfinds begins
    cases hfinds with
    | finished => cases begins
    | refuse => cases begins
    | publish => cases begins
    | fresh =>
      cases begins
      exact ⟨trivial, trivial, rfl, Nat.zero_le _, started fs rfl⟩
    | restart =>
      cases begins
      exact ⟨trivial, trivial, trivial, rfl, Nat.zero_le _,
        started _ (Function.update_of_ne (getResumePath_ne _).symm _ _)⟩
    | resume _ _ htemp _ _ short =>
      rw [beginning, htemp] at begins
      cases begins
      exact ⟨rfl, Nat.le_of_lt short, rfl, Or.inl rfl, htemp, rfl⟩
  obtain ⟨⟨offset', file⟩, fs', hrun, rfl, inside, opened⟩ :=
    hends.returns_of_not_fails fun _ _ h => h
  exact ⟨inside, file, fs', opened, hrun⟩

/-- However a check that goes well ends, there is something left to write or nothing to do. -/
lemma check_writable {r : Nat × File Path} {fs' : FileSystem Path}
    (run : (checkResumeState platform savePath totalSize).run fs = .ok r fs') :
    r.1 ≤ totalSize ∧ (r.1 < totalSize → r.2.mode ≠ .read) := by
  have hends : Ensures (checkResumeState platform savePath totalSize) fs
      ⟨fun r _ => r.1 ≤ totalSize, fun _ _ => True, fun _ => True⟩ := by
    refine checkResumeState_ensures trivial ?_
    have hfinds := finds platform savePath totalSize fs
    generalize plan platform savePath totalSize fs = p at hfinds
    cases hfinds with
    | finished => exact Nat.le_refl _
    | refuse => exact trivial
    | publish => exact ⟨trivial, trivial, Nat.le_refl _⟩
    | fresh => exact ⟨trivial, trivial, Nat.zero_le _⟩
    | restart => exact ⟨trivial, trivial, trivial, Nat.zero_le _⟩
    | resume _ _ _ _ _ short => exact Nat.le_of_lt short
  exact ⟨hends.returned run, ResumeEntry.checkResumeState_writable run⟩

end beginning

section downloads

variable {job : Job ν} {totalSize offset : Nat} {contents : Bytes} {w : World ν}

/-- Behind the check that goes well comes the transfer, behind one that fails nothing. -/
lemma download_checked (size : job.platform.asUsize w.stats.totalBytes.toNat = totalSize)
    {file : File Path} {fs' : FileSystem Path}
    (run : (checkResumeState job.platform job.savePath totalSize).run w.files =
      .ok (offset, file) fs') (turns : Nat) :
    (job.downloadObjectWithResume turns).run w =
      (job.transfer totalSize turns offset file).run (w.setFiles fs') := by
  subst size
  have hsize : (Action.atomic fun w : World ν => .ok w.stats.totalBytes w : Step ν UInt64).run w =
      .ok w.stats.totalBytes w := rfl
  have hcheck : (onFiles (checkResumeState job.platform job.savePath
      (job.platform.asUsize w.stats.totalBytes.toNat)) : Step ν (Nat × File Path)).run w =
        .ok (offset, file) (w.setFiles fs') := World.filesPart.run_ok run
  rw [downloadObjectWithResume_eq, Action.run_bind_ok hsize]
  exact Action.run_bind_ok hcheck

lemma download_unchecked (size : job.platform.asUsize w.stats.totalBytes.toNat = totalSize)
    {e : PtpIpError} {fs' : FileSystem Path}
    (run : (checkResumeState job.platform job.savePath totalSize).run w.files = .error e fs')
    (turns : Nat) :
    (job.downloadObjectWithResume turns).run w = .error e (w.setFiles fs') := by
  subst size
  have hsize : (Action.atomic fun w : World ν => .ok w.stats.totalBytes w : Step ν UInt64).run w =
      .ok w.stats.totalBytes w := rfl
  have hcheck : (onFiles (checkResumeState job.platform job.savePath
      (job.platform.asUsize w.stats.totalBytes.toNat)) : Step ν (Nat × File Path)).run w =
        .error e (w.setFiles fs') := World.filesPart.run_error run
  rw [downloadObjectWithResume_eq, Action.run_bind_ok hsize]
  exact Action.run_bind_error hcheck

/-- The target holds what was there, and the answers behind it. -/
structure Assembled (job : Job ν) (totalSize : Nat) (contents : Bytes) (w : World ν)
    (answers : List (Answer ν)) (net : ν) (w' : World ν) : Prop where
  target : w'.files job.savePath = some (contents ++ answers.flatMap Answer.data)
  temp : w'.files (getTempPath job.savePath) = none
  record : w'.files (getResumePath job.savePath) = none
  net : w'.net = net
  totalBytes : w'.stats.totalBytes = w.stats.totalBytes
  downloaded : w'.stats.downloadedBytes = UInt64.ofNat totalSize
  chunks : w'.stats.chunks = w.stats.chunks + answers.length
  retries : w'.stats.retries = w.stats.retries + (answers.map Answer.refusals).sum

/-- What a download that was given up leaves for the next one. -/
structure GivenUp (job : Job ν) (totalSize : Nat) (contents : Bytes) (w : World ν)
    (answers : List (Answer ν)) (reached : Nat) (stop : Stop ν) (e : PtpIpError) (w' : World ν) :
    Prop where
  error : e = stop.error job totalSize reached
  temp : w'.files (getTempPath job.savePath) = some (contents ++ answers.flatMap Answer.data)
  target : w'.files job.savePath = w.files job.savePath
  record : answers ≠ [] → w'.files (getResumePath job.savePath) = some (decimal reached)
  net : w'.net = stop.net
  downloaded : w'.stats.downloadedBytes = UInt64.ofNat reached
  chunks : w'.stats.chunks = w.stats.chunks + answers.length
  retries : w'.stats.retries =
    w.stats.retries + (answers.map Answer.refusals).sum + stop.refusals job

section begun

variable {fs' : FileSystem Path} {file : File Path}

lemma Opened.writable {savePath : Path} {fs : FileSystem Path}
    (opened : Opened savePath contents fs file fs') : file.mode ≠ .read := by
  rcases opened.atEnd with h | h <;> (rw [h]; intro h; cases h)

variable (opened : Opened job.savePath contents w.files file fs') {answers : List (Answer ν)}
  {reached turns : Nat} {net : ν}

include opened

/-- The answers are loaded behind what the temporary file held at the start. -/
lemma loaded_answers (totalSize offset : Nat) (answers : List (Answer ν)) :
    Loaded job (contents ++ answers.flatMap Answer.data)
      (afterAnswers job totalSize (loopStart offset file (w.setFiles fs')) answers) :=
  Loaded.afterAnswers totalSize ⟨opened.path, opened.atEnd, opened.temp, rfl⟩ answers

/-- Where the end is reached, the temporary file is published. -/
lemma transfer_delivers (answered : Answered job totalSize offset w.net answers totalSize net)
    {cur : Cursor}
    (run : loopRun job totalSize turns (loopStart offset file (w.setFiles fs')) = .ok (some cur)
      (afterAnswers job totalSize (loopStart offset file (w.setFiles fs')) answers).2) :
    ∃ w', (job.transfer totalSize turns offset file).run (w.setFiles fs') = .ok (some ()) w' ∧
      Assembled job totalSize contents w answers net w' := by
  have loaded := loaded_answers opened totalSize offset answers
  have added := added_afterAnswers job totalSize (loopStart offset file (w.setFiles fs')) answers
  obtain ⟨hreached, at_net, -⟩ := downloadLoop_answered answered
    (loopStart offset file (w.setFiles fs')) rfl rfl opened.writable 0
  refine ⟨_, (transfer_finished run).trans (finish_present loaded.temp), ?_⟩
  exact {
    target := published_target _ _ _
    temp := published_temp _ _ _
    record := published_record _ _ _
    net := at_net
    totalBytes := added.totalBytes
    downloaded := loaded.downloaded.trans (congrArg _ hreached)
    chunks := added.chunks
    retries := added.retries }

/-- Where a chunk is not served, the transfer is given up behind the answers before it. -/
lemma transfer_gives_up (answered : Answered job totalSize offset w.net answers reached net)
    {stop : Stop ν}
    (run : loopRun job totalSize turns (loopStart offset file (w.setFiles fs')) =
      .error (stop.error job totalSize reached) (stop.after job reached
        (afterAnswers job totalSize (loopStart offset file (w.setFiles fs')) answers).2)) :
    ∃ e w', (job.transfer totalSize turns offset file).run (w.setFiles fs') = .error e w' ∧
      GivenUp job totalSize contents w answers reached stop e w' := by
  have loaded := loaded_answers opened totalSize offset answers
  have added := added_afterAnswers job totalSize (loopStart offset file (w.setFiles fs')) answers
  obtain ⟨hreached, -⟩ := downloadLoop_answered answered
    (loopStart offset file (w.setFiles fs')) rfl rfl opened.writable 0
  -- saving the resume point leaves the other two files
  have kept : ∀ (fs : FileSystem Path) path, path ≠ getResumePath job.savePath →
      stop.record job reached fs path = fs path := by
    intro fs path other
    cases stop with
    | refused => rfl
    | wrongLength => exact Function.update_of_ne other _ _
  refine ⟨_, _, transfer_stopped run, ?_⟩
  exact {
    error := rfl
    temp := (kept _ _ (getTempPath_ne_getResumePath _)).trans loaded.temp
    target := (kept _ _ (getResumePath_ne _).symm).trans
      ((added.target (opened.path.symm ▸ getTempPath_ne _)).trans opened.target)
    record := fun nonempty => by
      have recorded := added.record nonempty
      rw [hreached] at recorded
      cases stop with
      | refused => exact recorded
      | wrongLength => exact Function.update_self _ _ _
    net := rfl
    downloaded := loaded.downloaded.trans (congrArg _ hreached)
    chunks := added.chunks
    retries := congrArg (· + stop.refusals job) added.retries }

/-- How a transfer ends that begins behind the contents of the temporary file. -/
inductive TransferRun (job : Job ν) (totalSize offset : Nat) (contents : Bytes) (w : World ν) :
    Result PtpIpError (World ν) (Option Unit) → Prop where
  | outOfTurns {w' : World ν} : TransferRun job totalSize offset contents w (.ok none w')
  | delivered {answers : List (Answer ν)} {net : ν} {w' : World ν}
      (answered : Answered job totalSize offset w.net answers totalSize net)
      (assembled : Assembled job totalSize contents w answers net w') :
      TransferRun job totalSize offset contents w (.ok (some ()) w')
  | givenUp {answers : List (Answer ν)} {reached : Nat} {net : ν} {stop : Stop ν} {e : PtpIpError}
      {w' : World ν} (answered : Answered job totalSize offset w.net answers reached net)
      (more : reached < totalSize) (stops : Stops job totalSize reached net stop)
      (left : GivenUp job totalSize contents w answers reached stop e w') :
      TransferRun job totalSize offset contents w (.error e w')

lemma transfer_run (inside : offset ≤ totalSize) (turns : Nat) :
    TransferRun job totalSize offset contents w
      ((job.transfer totalSize turns offset file).run (w.setFiles fs')) := by
  have hloop := downloadLoop_run job (loopStart offset file (w.setFiles fs'))
    (fun _ => opened.writable) inside turns
  generalize hr : Action.run _ _ = r at hloop
  cases hloop with
  | outOfTurns =>
    rw [transfer_outOfTurns hr]
    exact .outOfTurns
  | finished answered =>
    change Answered job totalSize offset w.net _ _ _ at answered
    obtain ⟨w', hrun, assembled⟩ := transfer_delivers opened answered hr
    rw [hrun]
    exact .delivered answered assembled
  | stopped answered more stops =>
    change Answered job totalSize offset w.net _ _ _ at answered
    obtain ⟨e, w', hrun, left⟩ := transfer_gives_up opened answered hr
    rw [hrun]
    exact .givenUp answered more stops left

end begun

/-- A download that begins somewhere ends as its transfer does. -/
lemma download_ends (size : job.platform.asUsize w.stats.totalBytes.toNat = totalSize)
    (begins : beginning job.savePath w.files (plan job.platform job.savePath totalSize w.files) =
      some (offset, contents)) (turns : Nat) :
    TransferRun job totalSize offset contents w ((job.downloadObjectWithResume turns).run w) := by
  obtain ⟨inside, file, fs', opened, hcheck⟩ := check_opens begins
  rw [download_checked size hcheck]
  exact transfer_run opened inside turns

/-- Answers that reach the end are put behind what was there, in as many turns as there are of them
and one more. -/
lemma download_delivers (size : job.platform.asUsize w.stats.totalBytes.toNat = totalSize)
    (begins : beginning job.savePath w.files (plan job.platform job.savePath totalSize w.files) =
      some (offset, contents)) {answers : List (Answer ν)} {net : ν}
    (answered : Answered job totalSize offset w.net answers totalSize net) {turns : Nat}
    (enough : answers.length < turns) :
    ∃ w', (job.downloadObjectWithResume turns).run w = .ok (some ()) w' ∧
      Assembled job totalSize contents w answers net w' := by
  obtain ⟨-, file, fs', opened, hcheck⟩ := check_opens begins
  obtain ⟨more, rfl⟩ : ∃ more, turns = answers.length + (more + 1) :=
    ⟨turns - answers.length - 1, by omega⟩
  obtain ⟨reached, -, hloop⟩ := downloadLoop_answered answered
    (loopStart offset file (w.setFiles fs')) rfl rfl opened.writable (more + 1)
  rw [downloadLoop_done (Nat.le_of_eq reached.symm)] at hloop
  rw [download_checked size hcheck]
  exact transfer_delivers opened answered hloop

/-- A download that begins somewhere returns exactly when the answers from there on reach the end,
and then the target is what was there with the answers behind it, in their order. -/
theorem download_assembles (size : job.platform.asUsize w.stats.totalBytes.toNat = totalSize)
    (begins : beginning job.savePath w.files (plan job.platform job.savePath totalSize w.files) =
      some (offset, contents)) :
    (∀ turns w', (job.downloadObjectWithResume turns).run w = .ok (some ()) w' →
      ∃ answers net, Answered job totalSize offset w.net answers totalSize net ∧
        Assembled job totalSize contents w answers net w') ∧
    ∀ answers net, Answered job totalSize offset w.net answers totalSize net →
      ∃ turns w', (job.downloadObjectWithResume turns).run w = .ok (some ()) w' ∧
        Assembled job totalSize contents w answers net w' := by
  constructor
  · intro turns w' hrun
    have hends := download_ends size begins turns
    rw [hrun] at hends
    cases hends with
    | delivered answered assembled => exact ⟨_, _, answered, assembled⟩
  · intro answers net answered
    exact ⟨answers.length + 1, download_delivers size begins answered (Nat.lt_succ_self _)⟩

/-- What an attempt has left that lost the camera behind two of three bytes. -/
private def twoBytes : FileSystem Path :=
  update (update (fun _ => none) (getTempPath (steadyJob [1, 2, 3]).savePath) (some [1, 2]))
    (getResumePath (steadyJob [1, 2, 3]).savePath) (some [50])

/-- The third byte is asked for and put behind them. -/
theorem download_assembles_resumed :
    ∃ turns w', ((steadyJob [1, 2, 3]).downloadObjectWithResume turns).run
        (World.start twoBytes () 3) = .ok (some ()) w' ∧
      w'.files (steadyJob [1, 2, 3]).savePath = some [1, 2, 3] := by
  have answered : Answered (steadyJob [1, 2, 3]) 3 2 () [⟨0, [3], ()⟩] 3 () :=
    .chunk (by decide) ⟨Nat.zero_le _, Retries.answeredAfter_zero rfl⟩ (by decide) (.nothing 3 ())
  have begins : beginning (steadyJob [1, 2, 3]).savePath (World.start twoBytes () 3).files
      (plan .bits64 (steadyJob [1, 2, 3]).savePath 3 (World.start twoBytes () 3).files) =
        some (2, [1, 2]) := by rfl
  obtain ⟨turns, w', hrun, assembled⟩ := (download_assembles rfl begins).2 _ _ answered
  exact ⟨turns, w', hrun, assembled.target⟩

/-- It fails exactly when the answers stop short of the end: at a chunk that is refused once more
than there are retries, or answered with another length. -/
theorem download_gives_up (size : job.platform.asUsize w.stats.totalBytes.toNat = totalSize)
    (begins : beginning job.savePath w.files (plan job.platform job.savePath totalSize w.files) =
      some (offset, contents)) :
    (∀ turns e w', (job.downloadObjectWithResume turns).run w = .error e w' →
      ∃ answers reached net stop, Answered job totalSize offset w.net answers reached net ∧
        reached < totalSize ∧ Stops job totalSize reached net stop ∧
        GivenUp job totalSize contents w answers reached stop e w') ∧
    ∀ answers reached net stop, Answered job totalSize offset w.net answers reached net →
      reached < totalSize → Stops job totalSize reached net stop →
      ∃ turns e w', (job.downloadObjectWithResume turns).run w = .error e w' ∧
        GivenUp job totalSize contents w answers reached stop e w' := by
  obtain ⟨-, file, fs', opened, hcheck⟩ := check_opens begins
  constructor
  · intro turns e w' hrun
    have hends := download_ends size begins turns
    rw [hrun] at hends
    cases hends with
    | givenUp answered more stops left => exact ⟨_, _, _, _, answered, more, stops, left⟩
  · intro answers reached net stop answered more stops
    obtain ⟨hreached, at_net, hloop⟩ := downloadLoop_answered answered
      (loopStart offset file (w.setFiles fs')) rfl rfl opened.writable 1
    subst hreached at_net
    rw [downloadLoop_failed more (downloadChunk_stopped stops)] at hloop
    obtain ⟨e, w', hrun, left⟩ := transfer_gives_up opened answered hloop
    exact ⟨_, e, w', (download_checked size hcheck _).trans hrun, left⟩

/-- The camera is lost behind two bytes: they are kept, and so is where to go on. -/
theorem download_gives_up_lost :
    ∃ turns e w', ((losingJob [1, 2, 3] 2).downloadObjectWithResume turns).run
        (World.start (fun _ => none) () 3) = .error e w' ∧ e = .timeout ∧
      w'.files (getTempPath (losingJob [1, 2, 3] 2).savePath) = some [1, 2] ∧
      w'.files (getResumePath (losingJob [1, 2, 3] 2).savePath) = some [50] := by
  have answered : Answered (losingJob [1, 2, 3] 2) 3 0 () [⟨0, [1, 2], ()⟩] 2 () :=
    .chunk (by decide) ⟨Nat.zero_le _, Retries.answeredAfter_zero rfl⟩ (by decide) (.nothing 2 ())
  have refused : Retries.RefusedAfter (request (losingJob [1, 2, 3] 2) 3 2) 3 () .timeout () :=
    .again rfl (.again rfl (.again rfl ⟨(), .never (), rfl⟩))
  have begins : beginning (losingJob [1, 2, 3] 2).savePath
      (World.start (fun _ => none) () 3 : World Unit).files
      (plan .bits64 (losingJob [1, 2, 3] 2).savePath 3 fun _ => none) = some (0, []) := rfl
  obtain ⟨turns, e, w', hrun, left⟩ := (download_gives_up rfl begins).2 _ _ _ _ answered
    (by decide) (.refused refused)
  exact ⟨turns, e, w', hrun, left.error, left.temp, left.record (by decide)⟩

end downloads

section callbacks

/-- The callbacks of a download on its way, before the last one. -/
structure OnTheWay (totalSize : Nat) (w w' : World ν)
    (reports : List (Nat × Nat × Bool × DownloadStats)) : Prop where
  each : ∀ r ∈ reports, r.1 ≤ totalSize ∧ r.2.1 = totalSize ∧ r.2.2.1 = false ∧
    r.2.2.2.downloadedBytes = UInt64.ofNat r.1 ∧
    w.stats.chunks < r.2.2.2.chunks ∧ r.2.2.2.chunks ≤ w'.stats.chunks
  forward : reports.Pairwise fun r r' => r.1 ≤ r'.1 ∧ r.2.2.2.chunks < r'.2.2.2.chunks

/-- What the callbacks of a run are, by how it ends. -/
def Calls (totalSize : Nat) (w : World ν) (r : Result PtpIpError (World ν) (Option Unit)) : Prop :=
  ∃ reports, OnTheWay totalSize w (endState r) reports ∧
    (answer r = .ok (some ()) → (endState r).progress =
      w.progress ++ reports ++ [(totalSize, totalSize, true, (endState r).stats)]) ∧
    (answer r ≠ .ok (some ()) → (endState r).progress = w.progress ++ reports)

variable {job : Job ν} {totalSize offset : Nat} {file : File Path} {w : World ν}

/-- The loop of a transfer makes the callbacks on the way. -/
lemma loop_reports (file : File Path) (w : World ν) {reached : Nat} {net net' : ν}
    {answers : List (Answer ν)} (inside : offset ≤ totalSize)
    (answered : Answered job totalSize offset net answers reached net') :
    ∃ reports, (afterAnswers job totalSize (loopStart offset file w) answers).2.progress =
      w.progress ++ reports ∧
      OnTheWay totalSize w (afterAnswers job totalSize (loopStart offset file w) answers).2
        reports := by
  obtain ⟨reports, hprogress, reported⟩ :=
    reported_afterAnswers job totalSize (loopStart offset file w) answers
  have added := added_afterAnswers job totalSize (loopStart offset file w) answers
  have hreached : (afterAnswers job totalSize (loopStart offset file w) answers).1.currentOffset =
      reached := added.offset.trans answered.reached_eq
  refine ⟨reports, hprogress, ?_, reported.forward⟩
  intro r hr
  obtain ⟨-, hi, clo, chi, htotal, hflag, hcounted⟩ := reported.each r hr
  exact ⟨(hreached ▸ hi).trans (answered.le inside), htotal, hflag, hcounted, clo, chi⟩

/-- The callbacks of a transfer: the last one when the target has been put in its place. -/
lemma transfer_calls (writable : offset < totalSize → file.mode ≠ .read)
    (inside : offset ≤ totalSize) (turns : Nat) :
    Calls totalSize w ((job.transfer totalSize turns offset file).run w) := by
  have hloop := downloadLoop_run job (loopStart offset file w) writable inside turns
  generalize hr : Action.run _ _ = r at hloop
  cases hloop with
  | outOfTurns answered =>
    obtain ⟨reports, hprogress, onTheWay⟩ := loop_reports file w inside answered
    rw [transfer_outOfTurns hr]
    refine ⟨reports, onTheWay, fun h => ?_, fun _ => hprogress⟩
    cases h
  | stopped answered more stops =>
    obtain ⟨reports, hprogress, onTheWay⟩ := loop_reports file w inside answered
    rw [transfer_stopped hr]
    refine ⟨reports, ⟨onTheWay.each, onTheWay.forward⟩, fun h => ?_, fun _ => hprogress⟩
    cases h
  | @finished answers net answered =>
    obtain ⟨reports, hprogress, onTheWay⟩ := loop_reports file w inside answered
    rw [transfer_finished hr]
    cases htemp : (afterAnswers job totalSize (loopStart offset file w) answers).2.files
        (getTempPath job.savePath) with
    | none =>
      rw [finish_absent htemp]
      refine ⟨reports, onTheWay, fun h => ?_, fun _ => hprogress⟩
      cases h
    | some contents =>
      rw [finish_present htemp]
      refine ⟨reports, ⟨onTheWay.each, onTheWay.forward⟩, fun _ => ?_, fun h => absurd rfl h⟩
      change _ ++ [_] = _
      rw [hprogress]
      rfl

/-- In every run of a download the callbacks on the way are not flagged as complete, never go back
and tell the position that is counted; the one that is flagged as complete comes exactly when the
download returns, once, last, and with the final statistics. -/
theorem download_calls (job : Job ν) (w : World ν) (turns : Nat) :
    Calls (job.platform.asUsize w.stats.totalBytes.toNat) w
      ((job.downloadObjectWithResume turns).run w) := by
  cases hcheck : (checkResumeState job.platform job.savePath
      (job.platform.asUsize w.stats.totalBytes.toNat)).run w.files with
  | error e fs' =>
    rw [download_unchecked rfl hcheck]
    refine ⟨[], ⟨fun r hr => absurd hr List.not_mem_nil, .nil⟩, fun h => ?_, fun _ => ?_⟩
    · cases h
    · exact (List.append_nil _).symm
  | ok r fs' =>
    obtain ⟨inside, writable⟩ := check_writable hcheck
    rw [download_checked rfl hcheck]
    have calls : Calls _ (w.setFiles fs') ((job.transfer _ turns r.1 r.2).run (w.setFiles fs')) :=
      transfer_calls writable inside turns
    obtain ⟨reports, onTheWay, complete⟩ := calls
    exact ⟨reports, ⟨onTheWay.each, onTheWay.forward⟩, complete⟩

end callbacks

end DownloadOutcome
