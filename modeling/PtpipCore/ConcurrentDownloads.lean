import PtpipCore.SidePaths
import PtpipCore.DownloadOutcome
import PtpipCore.Lib.Interleaving

/-!
# Downloads at the same time

A download goes on in turns: the check, one chunk after the other, the end. Downloads with paths
apart can take their turns in any order, each on a network of its own and all on the same files;
every one of them ends as it would have ended alone.
-/

namespace ConcurrentDownloads

open Effects ByteStream CrashActions FileActions FileFrames Types Resume Download DownloadTurns
open ResumeInvariant DownloadOutcome SidePaths Interleaving
open Download.Job
open EStateM (Result)

variable {ν : Type}

section turns

/-- Where a download is between its turns. -/
inductive Phase where
  | beginning
  | loop (totalSize : Nat) (cur : Cursor)
  | done (result : Except PtpIpError Unit)

/-- A download that fails is done. -/
def after {α : Type} (next : α → Phase) : Result PtpIpError (World ν) α → Phase × World ν
  | .ok a w => (next a, w)
  | .error e w => (.done (.error e), w)

variable (job : Job ν)

/-- Everything before the main loop. -/
def opening : Step ν (Nat × Cursor) := do
  let totalBytes ← .atomic fun w => .ok w.stats.totalBytes w
  let totalSize := job.platform.asUsize totalBytes.toNat
  let (currentOffset, file) ← onFiles (checkResumeState job.platform job.savePath totalSize)
  Action.atomic fun w => .ok ()
    { w with stats := { w.stats with downloadedBytes := UInt64.ofNat currentOffset } }
  return (totalSize, ⟨currentOffset, file, 0⟩)

def turn : Phase → World ν → Phase × World ν
  | .beginning, w => after (fun r => .loop r.1 r.2) ((opening job).run w)
  | .loop totalSize cur, w =>
    if cur.currentOffset < totalSize then
      after (fun cur => .loop totalSize cur) ((job.downloadChunk totalSize cur).run w)
    else after (fun _ => .done (.ok ())) ((job.finish totalSize).run w)
  | .done result, w => (.done result, w)

/-- So many turns. -/
def taken (n : Nat) (x : Phase × World ν) : Phase × World ν :=
  (fun x => turn job x.1 x.2)^[n] x

variable {job} {totalSize : Nat} {cur : Cursor} {w w' : World ν}

lemma turn_beginning (job : Job ν) (w : World ν) :
    turn job .beginning w = after (fun r => .loop r.1 r.2) ((opening job).run w) := rfl

lemma turn_more (more : cur.currentOffset < totalSize) (w : World ν) :
    turn job (.loop totalSize cur) w =
      after (fun cur => .loop totalSize cur) ((job.downloadChunk totalSize cur).run w) :=
  if_pos more

lemma turn_last (done : ¬ cur.currentOffset < totalSize) (w : World ν) :
    turn job (.loop totalSize cur) w =
      after (fun _ => .done (.ok ())) ((job.finish totalSize).run w) := if_neg done

lemma taken_succ (n : Nat) (phase : Phase) (w : World ν) :
    taken job (n + 1) (phase, w) = taken job n (turn job phase w) :=
  Function.iterate_succ_apply _ _ _

lemma taken_done (n : Nat) (result : Except PtpIpError Unit) (w : World ν) :
    taken job n (.done result, w) = (.done result, w) := by
  induction n with
  | zero => rfl
  | succ n ih => exact (taken_succ n _ w).trans ih

/-- A process takes one turn for each chunk that the loop accepts. -/
lemma taken_reaches {chunks : List Chunk} {cur' : Cursor}
    (reaches : Reaches job totalSize cur w chunks cur' w') (n : Nat) :
    taken job (chunks.length + n) (.loop totalSize cur, w) =
      taken job n (.loop totalSize cur', w') := by
  induction reaches generalizing n with
  | start => rw [List.length_nil, Nat.zero_add]
  | turn before more run ih =>
    rw [List.length_append, List.length_singleton, Nat.add_assoc, ih, Nat.add_comm, taken_succ,
      turn_more more, run]
    rfl

/-- How a download ends whose turns suffice. -/
def ended : Result PtpIpError (World ν) (Option Unit) → Option (Phase × World ν)
  | .ok none _ => none
  | .ok (some _) w => some (.done (.ok ()), w)
  | .error e w => some (.done (.error e), w)

lemma opening_checked {offset : Nat} {file : File Path} {fs' : FileSystem Path}
    (run : (checkResumeState job.platform job.savePath
      (job.platform.asUsize w.stats.totalBytes.toNat)).run w.files = .ok (offset, file) fs') :
    (opening job).run w = .ok (job.platform.asUsize w.stats.totalBytes.toNat,
      (loopStart offset file (w.setFiles fs')).1) (loopStart offset file (w.setFiles fs')).2 := by
  have hcheck : (onFiles (checkResumeState job.platform job.savePath
      (job.platform.asUsize w.stats.totalBytes.toNat)) : Step ν (Nat × File Path)).run w =
        .ok (offset, file) (w.setFiles fs') := World.filesPart.run_ok run
  exact (Action.run_bind_ok rfl).trans ((Action.run_bind_ok hcheck).trans rfl)

lemma opening_unchecked {e : PtpIpError} {fs' : FileSystem Path}
    (run : (checkResumeState job.platform job.savePath
      (job.platform.asUsize w.stats.totalBytes.toNat)).run w.files = .error e fs') :
    (opening job).run w = .error e (w.setFiles fs') := by
  have hcheck : (onFiles (checkResumeState job.platform job.savePath
      (job.platform.asUsize w.stats.totalBytes.toNat)) : Step ν (Nat × File Path)).run w =
        .error e (w.setFiles fs') := World.filesPart.run_error run
  exact (Action.run_bind_ok rfl).trans (Action.run_bind_error hcheck)

/-- As many turns as the loop may take, one before and one behind it bring a download to its end. -/
lemma taken_download {turns : Nat} {x : Phase × World ν}
    (ends : ended ((job.downloadObjectWithResume turns).run w) = some x) {n : Nat}
    (enough : turns + 2 ≤ n) : taken job n (.beginning, w) = x := by
  obtain ⟨n, rfl⟩ : ∃ m, n = m + 1 := ⟨n - 1, by omega⟩
  rw [taken_succ, turn_beginning]
  cases hcheck : (checkResumeState job.platform job.savePath
      (job.platform.asUsize w.stats.totalBytes.toNat)).run w.files with
  | error e fs' =>
    rw [download_unchecked rfl hcheck] at ends
    cases ends
    rw [opening_unchecked hcheck]
    exact taken_done n _ _
  | ok r fs' =>
    rw [download_checked rfl hcheck] at ends
    rw [opening_checked hcheck]
    change taken job n (.loop _ _, _) = x
    obtain ⟨chunks, last, w', reaches, few, loopEnd⟩ :=
      downloadLoop_reaches (.start : Reaches job _ _ _ [] _ _) turns
    obtain ⟨m, rfl⟩ : ∃ m, n = chunks.length + (m + 1) := ⟨n - chunks.length - 1, by
      rw [List.length_nil] at few
      omega⟩
    rw [taken_reaches reaches, taken_succ]
    generalize hloop : (job.downloadLoop _ turns _).run _ = result at loopEnd
    cases loopEnd with
    | outOfTurns =>
      rw [transfer_outOfTurns hloop] at ends
      cases ends
    | failed more run =>
      rw [transfer_stopped hloop] at ends
      cases ends
      rw [turn_more more, run]
      exact taken_done m _ _
    | finished done =>
      rw [transfer_finished hloop] at ends
      rw [turn_last (Nat.not_lt.mpr done)]
      cases hfinish : (job.finish (job.platform.asUsize w.stats.totalBytes.toNat)).run w' with
      | ok _ u =>
        rw [Action.run_bind_ok hfinish] at ends
        cases ends
        exact taken_done m _ _
      | error e u =>
        rw [Action.run_bind_error hfinish] at ends
        cases ends
        exact taken_done m _ _

end turns

section processes

variable (job : Job ν)

/-- What a download has besides the files. -/
def bare (w : World ν) : World ν := w.setFiles fun _ => none

/-- A turn of a download among others: the files are those of the store. -/
def process : Turn Path (Option Bytes) (Phase × World ν) := fun x =>
  let r := turn job x.1.1 (x.1.2.setFiles x.2)
  ((r.1, bare r.2), r.2.files)

/-- A download in its loop holds a handle on one of its own files. -/
def Phase.Named : Phase → Prop
  | .loop _ cur => OnNamed (paths job.savePath) cur.file
  | _ => True

variable {job} {phase : Phase} {w : World ν}

lemma after_mixed {α : Type} {names : List Path} {P : α → Prop} {m : Step ν α}
    (framed : Framed names P m) (next : α → Phase) (others : FileSystem Path) :
    after next (m.run (mixed names others w)) =
      ((after next (m.run w)).1, mixed names others (after next (m.run w)).2) := by
  rw [(framed others).run]
  cases m.run w <;> rfl

lemma framed_opening :
    Framed (paths job.savePath) (fun r => OnNamed (paths job.savePath) r.2.file) (opening job) := by
  intro others
  have hstart : ∀ currentOffset, Commutes (mixed (paths job.savePath) others) (fun _ => True)
      (Action.atomic fun w => .ok () { w with
        stats := { w.stats with downloadedBytes := UInt64.ofNat currentOffset } } :
        Step ν Unit) :=
    fun _ => commutes_atomic (fun _ => rfl) fun _ _ _ _ => trivial
  refine commutes_bind (P := fun _ => True)
    (commutes_atomic (fun _ => rfl) fun _ _ _ _ => trivial) fun totalBytes _ => ?_
  refine commutes_bind (framed_onFiles (checkResumeState_local _ _ _) others) fun r named => ?_
  refine commutes_bind (hstart r.1) fun _ _ => ?_
  exact commutes_pure named

/-- A turn does the same whatever the other files are, and leaves them as they are. -/
lemma turn_mixed (named : phase.Named job) (w : World ν) (others : FileSystem Path) :
    turn job phase (mixed (paths job.savePath) others w) =
      ((turn job phase w).1, mixed (paths job.savePath) others (turn job phase w).2) := by
  cases phase with
  | beginning => exact after_mixed framed_opening _ others
  | loop totalSize cur =>
    by_cases more : cur.currentOffset < totalSize
    · rw [turn_more more, turn_more more]
      exact after_mixed (framed_downloadChunk job totalSize named) _ others
    · rw [turn_last more, turn_last more]
      exact after_mixed (framed_finish job totalSize) _ others
  | done result => rfl

lemma turn_named (named : phase.Named job) (w : World ν) : (turn job phase w).1.Named job := by
  cases phase with
  | beginning =>
    rw [turn_beginning]
    cases hrun : (opening job).run w with
    | ok r w' => exact (framed_opening w.files).returns w r w' hrun
    | error e w' => trivial
  | loop totalSize cur =>
    by_cases more : cur.currentOffset < totalSize
    · rw [turn_more more]
      cases hrun : (job.downloadChunk totalSize cur).run w with
      | ok next w' =>
        exact (framed_downloadChunk job totalSize named w.files).returns w next w' hrun
      | error e w' => trivial
    · rw [turn_last more]
      cases hrun : (job.finish totalSize).run w with
      | ok _ w' => trivial
      | error e w' => trivial
  | done result => trivial

/-- A download uses the cells of its three paths only. -/
lemma process_within (job : Job ν) :
    Within {path | path ∈ paths job.savePath} (fun r => r.1.Named job) (process job) := by
  have mixed_same : ∀ (r : Phase × World ν) (fs fs' : FileSystem Path),
      Set.EqOn fs fs' {path | path ∈ paths job.savePath} →
        r.2.setFiles fs' = mixed (paths job.savePath) fs' (r.2.setFiles fs) := by
    intro r fs fs' same
    refine congrArg r.2.setFiles (funext fun path => ?_)
    by_cases own : path ∈ paths job.savePath
    · exact ((mix_named own).trans (same own)).symm
    · exact (mix_other own).symm
  constructor
  · intro r fs named
    exact turn_named named _
  · intro r fs fs' named same
    unfold process
    rw [mixed_same r fs fs' same, turn_mixed named]
    rfl
  · intro r fs fs' named same path own
    unfold process
    rw [mixed_same r fs fs' same, turn_mixed named]
    exact (mix_named own).symm
  · intro r fs named path other
    unfold process
    have hself := turn_mixed named (r.2.setFiles fs) fs
    rw [← mixed_same r fs fs fun _ _ => rfl] at hself
    rw [hself]
    exact mix_other other

/-- Alone, the turns of the process are those of the download. -/
lemma process_taken (job : Job ν) (n : Nat) (phase : Phase) (w : World ν) (fs : FileSystem Path) :
    (process job)^[n] ((phase, bare w), fs) =
      (((taken job n (phase, w.setFiles fs)).1, bare (taken job n (phase, w.setFiles fs)).2),
        (taken job n (phase, w.setFiles fs)).2.files) := by
  induction n generalizing phase w fs with
  | zero => rfl
  | succ n ih =>
    rw [Function.iterate_succ_apply, taken_succ]
    exact ih (turn job phase (w.setFiles fs)).1 (turn job phase (w.setFiles fs)).2
      (turn job phase (w.setFiles fs)).2.files

end processes

section results

variable {ι : Type} [DecidableEq ι] {ν : ι → Type}

/-- However the turns of downloads with different paths follow one another: one that has had its
turns has ended as it would have ended alone, on its own network, with the same statistics and
callbacks and the same files at its paths; the files at no path of theirs are untouched. -/
theorem concurrent_downloads (jobs : ∀ i, Job (ν i))
    (apart : Pairwise fun i j => (paths (jobs i).savePath).Disjoint (paths (jobs j).savePath))
    (worlds : ∀ i, World (ν i)) (fs : FileSystem Path) (schedule : List ι) :
    let x := interleave (fun i => process (jobs i)) schedule
      (fun i => (Phase.beginning, bare (worlds i)), fs)
    (∀ i turns phase w,
      ended (((jobs i).downloadObjectWithResume turns).run ((worlds i).setFiles fs)) =
        some (phase, w) → turns + 2 ≤ schedule.count i →
      x.1 i = (phase, bare w) ∧ ∀ path ∈ paths (jobs i).savePath, x.2 path = w.files path) ∧
    ∀ path, (∀ i, path ∉ paths (jobs i).savePath) → x.2 path = fs path := by
  have disjoint : Pairwise fun i j => ∀ path ∈ {path | path ∈ paths (jobs i).savePath},
      path ∉ {path | path ∈ paths (jobs j).savePath} :=
    fun i j other path mine yours => apart other mine yours
  obtain ⟨alone, untouched⟩ := interleave_alone (fun i => process_within (jobs i)) disjoint schedule
    (x := (fun i => (Phase.beginning, bare (worlds i)), fs)) fun i => trivial
  refine ⟨fun i turns phase w ends enough => ?_, untouched⟩
  obtain ⟨hstate, hfiles⟩ := alone i
  have htaken := process_taken (jobs i) (schedule.count i) .beginning (worlds i) fs
  rw [taken_download ends enough] at htaken
  rw [htaken] at hstate hfiles
  exact ⟨hstate, fun path own => hfiles own⟩

/-- Three bytes to `a` and three others to `b`, from cameras that answer every request. -/
private def toBoth : Bool → Job Unit
  | false => { steadyJob [1, 2, 3] with savePath := ⟨[], some [97]⟩ }
  | true => { steadyJob [4, 5, 6] with savePath := ⟨[], some [98]⟩ }

/-- The turns go back and forth, and `b` has two before `a` has its last ones. -/
theorem concurrent_downloads_both :
    let x := interleave (fun i => process (toBoth i))
      [false, true, true, false, true, true, true, false, false, false]
      (fun _ => (Phase.beginning, bare (World.start (fun _ => none) () 3)), fun _ => none)
    x.2 ⟨[], some [97]⟩ = some [1, 2, 3] ∧ x.2 ⟨[], some [98]⟩ = some [4, 5, 6] := by
  have others : ∀ path ∈ paths ⟨[], some [97]⟩, path ∉ paths ⟨[], some [98]⟩ := by decide
  have apart : Pairwise fun i j => (paths (toBoth i).savePath).Disjoint
      (paths (toBoth j).savePath) := by
    intro i j other
    cases i with
    | false =>
      cases j with
      | false => exact absurd rfl other
      | true => exact fun path inA inB => others path inA inB
    | true =>
      cases j with
      | false => exact fun path inB inA => others path inA inB
      | true => exact absurd rfl other
  have alone := (concurrent_downloads toBoth apart (fun _ => World.start (fun _ => none) () 3)
    (fun _ => none) [false, true, true, false, true, true, true, false, false, false]).1
  -- the two answers of each camera bring its download to an end
  have arrives : ∀ (i : Bool) (first second : Bytes),
      ChunkAnswers.Answered (toBoth i) 3 0 () [⟨0, first, ()⟩, ⟨0, second, ()⟩] 3 () →
      ∃ w, ended (((toBoth i).downloadObjectWithResume 3).run
        (World.start (fun _ => none) () 3)) = some (.done (.ok ()), w) ∧
        w.files (toBoth i).savePath = some (first ++ second) := by
    intro i first second answered
    have begins : beginning (toBoth i).savePath (fun _ => none)
        (ResumePlan.plan (toBoth i).platform (toBoth i).savePath 3 fun _ => none) =
          some (0, []) := by
      cases i <;> rfl
    have size : (toBoth i).platform.asUsize (World.start (fun _ => none) () 3 :
        World Unit).stats.totalBytes.toNat = 3 := by
      cases i <;> rfl
    obtain ⟨w, hrun, assembled⟩ := download_delivers size begins answered (Nat.lt_succ_self 2)
    refine ⟨w, by rw [hrun]; rfl, assembled.target.trans ?_⟩
    rw [List.flatMap_cons, List.flatMap_singleton]
    rfl
  have answeredA :
      ChunkAnswers.Answered (toBoth false) 3 0 () [⟨0, [1, 2], ()⟩, ⟨0, [3], ()⟩] 3 () :=
    .chunk (by decide) ⟨Nat.zero_le _, Retries.answeredAfter_zero rfl⟩ (by decide)
      (.chunk (by decide) ⟨Nat.zero_le _, Retries.answeredAfter_zero rfl⟩ (by decide)
        (.nothing 3 ()))
  have answeredB :
      ChunkAnswers.Answered (toBoth true) 3 0 () [⟨0, [4, 5], ()⟩, ⟨0, [6], ()⟩] 3 () :=
    .chunk (by decide) ⟨Nat.zero_le _, Retries.answeredAfter_zero rfl⟩ (by decide)
      (.chunk (by decide) ⟨Nat.zero_le _, Retries.answeredAfter_zero rfl⟩ (by decide)
        (.nothing 3 ()))
  obtain ⟨w, ends, htarget⟩ := arrives false _ _ answeredA
  obtain ⟨w', ends', htarget'⟩ := arrives true _ _ answeredB
  constructor
  · exact ((alone false 3 _ _ ends (by decide)).2 _ (savePath_mem _)).trans htarget
  · exact ((alone true 3 _ _ ends' (by decide)).2 _ (savePath_mem _)).trans htarget'

end results

end ConcurrentDownloads
