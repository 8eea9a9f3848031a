import PtpipCore.DownloadTurns
import PtpipCore.Lib.Retries

/-!
# The answers that a download is made of

A chunk is asked for again until it is answered or the retries are used up; the loop goes on as
long as the answers have the length that was asked for. Its run is determined by these answers:
what it leaves is what they add up to.
-/

namespace ChunkAnswers

open Effects ByteStream CrashActions FileActions Text Types Resume Download DownloadRun
open DownloadTurns Retries
open Download.Job
open EStateM (Result)
open Function (update)

variable {ν : Type}

section requests

variable {ask : EStateM PtpIpError ν Bytes} {net : ν}

lemma downloadRetrying_answered {n left : Nat} {data : Bytes} {w : World ν} (within : n ≤ left)
    (answered : AnsweredAfter ask n w.net data net) :
    downloadRetrying ask left w = .ok data (w.asked net (w.stats.retries + n)) := by
  induction n generalizing left w with
  | zero =>
    obtain ⟨mid, refused, h⟩ := answered
    cases refused
    exact downloadRetrying_ok h left
  | succ n ih =>
    obtain ⟨mid, refused, h⟩ := answered
    cases refused with
    | again refusal rest =>
      obtain ⟨left, rfl⟩ : ∃ m, left = m + 1 := ⟨left - 1, by omega⟩
      have hcount : w.stats.retries + 1 + n = w.stats.retries + (n + 1) := by omega
      rw [downloadRetrying_again refusal, ← hcount]
      exact ih (w := w.asked _ (w.stats.retries + 1)) (Nat.le_of_succ_le_succ within)
        ⟨mid, rest, h⟩

lemma downloadRetrying_refused {left : Nat} {e : PtpIpError} {w : World ν}
    (refused : RefusedAfter ask left w.net e net) :
    downloadRetrying ask left w = .error e (w.asked net (w.stats.retries + (left + 1))) := by
  induction left generalizing w with
  | zero =>
    obtain ⟨mid, refused, h⟩ := refused
    cases refused
    exact downloadRetrying_last h
  | succ left ih =>
    obtain ⟨mid, refused, h⟩ := refused
    cases refused with
    | again refusal rest =>
      have hcount : w.stats.retries + 1 + (left + 1) = w.stats.retries + (left + 1 + 1) := by
        omega
      rw [downloadRetrying_again refusal, ← hcount]
      exact ih (w := w.asked _ (w.stats.retries + 1)) ⟨mid, rest, h⟩

end requests

section turn

/-- What a chunk request came to: the refusals before the answer, the bytes of the answer, and the
network behind it. -/
structure Answer (ν : Type) where
  refusals : Nat
  data : Bytes
  net : ν

variable (job : Job ν) (totalSize : Nat)

/-- The request for the chunk at an offset is answered within the retries. -/
structure Comes (offset : Nat) (net : ν) (a : Answer ν) : Prop where
  within : a.refusals ≤ job.sessionConfig.maxRetries
  answered : AnsweredAfter (request job totalSize offset) a.refusals net a.data a.net

/-- Why a turn is given up. -/
inductive Stop (ν : Type) where
  | refused (e : PtpIpError) (net : ν)
  | wrongLength (a : Answer ν)

/-- None of the requests for the chunk at an offset is answered, or one of them is with a wrong
length. -/
inductive Stops (offset : Nat) (net : ν) : Stop ν → Prop where
  | refused {e : PtpIpError} {net' : ν} (refused : RefusedAfter (request job totalSize offset)
      job.sessionConfig.maxRetries net e net') : Stops offset net (.refused e net')
  | wrongLength {a : Answer ν} (comes : Comes job totalSize offset net a)
      (differs : a.data.length ≠ job.nextChunk totalSize offset) :
      Stops offset net (.wrongLength a)

def Stop.error (offset : Nat) : Stop ν → PtpIpError
  | refused e _ => e
  | wrongLength a => .protocolError ("Incomplete chunk data: expected " ++
      toString (job.nextChunk totalSize offset) ++ " bytes, received " ++
      toString a.data.length ++ " bytes")

def Stop.net : Stop ν → ν
  | refused _ net => net
  | wrongLength a => a.net

/-- The refusals of the turn. -/
def Stop.refusals : Stop ν → Nat
  | refused _ _ => job.sessionConfig.maxRetries + 1
  | wrongLength a => a.refusals

/-- The resume point is saved for a chunk of the wrong length only. -/
def Stop.record (offset : Nat) : Stop ν → FileSystem Path → FileSystem Path
  | refused _ _, fs => fs
  | wrongLength _, fs => update fs (getResumePath job.savePath) (some (decimal offset))

def Stop.after (offset : Nat) (stop : Stop ν) (w : World ν) : World ν :=
  (w.asked stop.net (w.stats.retries + stop.refusals job)).setFiles
    (stop.record job offset w.files)

/-- The loop behind a chunk that was written, counted, reported and recorded. -/
def written (x : Cursor × World ν) (a : Answer ν) : Cursor × World ν :=
  let offset := x.1.currentOffset + a.data.length
  let stats : DownloadStats := ⟨x.2.stats.totalBytes, UInt64.ofNat offset, x.2.stats.chunks + 1,
    x.2.stats.retries + a.refusals⟩
  let reached := checkpointReached job x.2.stats.totalBytes offset x.1.lastReportedProgress
  (⟨offset, x.1.file.advance a.data.length, reached.getD x.1.lastReportedProgress⟩,
    ⟨update (x.1.file.put a.data x.2.files) (getResumePath job.savePath) (some (decimal offset)),
      a.net, stats, x.2.progress ++ callback totalSize offset reached stats,
      x.2.accepted ++ [(x.1.currentOffset, a.data.length)]⟩)

variable {job totalSize} {cur : Cursor} {w : World ν}

lemma downloadChunk_written (writable : cur.file.mode ≠ .read) {a : Answer ν}
    (comes : Comes job totalSize cur.currentOffset w.net a)
    (size : a.data.length = job.nextChunk totalSize cur.currentOffset) :
    (job.downloadChunk totalSize cur).run w =
      .ok (written job totalSize (cur, w) a).1 (written job totalSize (cur, w) a).2 := by
  have hask := downloadRetrying_answered comes.within comes.answered
  refine Ensures.outcome (Q := fun r => r = .ok (written job totalSize (cur, w) a).1
    (written job totalSize (cur, w) a).2) ?_
  refine ensures_bind (ensures_atomic_ok hask trivial trivial ?_)
  dsimp only
  rw [if_neg (not_not_intro size), ← size]
  refine ensures_bind (onFiles_ensures (ensures_writeAll_put trivial
    (fun readOnly => absurd readOnly writable) (fun _ _ => trivial) (fun _ => ?_)))
  refine ensures_bind (ensures_atomic_ok rfl trivial trivial ?_)
  refine ensures_bind (ensures_atomic_ok (reportProgress_run _ _ _) trivial trivial ?_)
  exact ensures_bind (saveResumeState_ensures trivial (fun _ => trivial)
    (ensures_pure trivial rfl))

lemma downloadChunk_stopped {stop : Stop ν}
    (stops : Stops job totalSize cur.currentOffset w.net stop) :
    (job.downloadChunk totalSize cur).run w =
      .error (stop.error job totalSize cur.currentOffset) (stop.after job cur.currentOffset w) := by
  refine Ensures.outcome (Q := fun r => r = .error (stop.error job totalSize cur.currentOffset)
    (stop.after job cur.currentOffset w)) ?_
  cases stops with
  | refused refused =>
    exact ensures_bind (ensures_atomic_error (downloadRetrying_refused refused) trivial trivial rfl)
  | wrongLength comes differs =>
    have hask := downloadRetrying_answered comes.within comes.answered
    refine ensures_bind (ensures_atomic_ok hask trivial trivial ?_)
    dsimp only
    rw [if_pos differs]
    exact ensures_bind (saveResumeState_ensures trivial (fun _ => trivial)
      (ensures_fail trivial rfl))

/-- A chunk is answered with its length, or its turn is given up. -/
lemma comes_or_stops (job : Job ν) (totalSize offset : Nat) (net : ν) :
    (∃ a, Comes job totalSize offset net a ∧ a.data.length = job.nextChunk totalSize offset) ∨
      ∃ stop, Stops job totalSize offset net stop := by
  rcases tried (request job totalSize offset) job.sessionConfig.maxRetries net with
    ⟨n, data, net', within, answered⟩ | ⟨e, net', refused⟩
  · have comes : Comes job totalSize offset net ⟨n, data, net'⟩ := ⟨within, answered⟩
    by_cases size : data.length = job.nextChunk totalSize offset
    · exact Or.inl ⟨_, comes, size⟩
    · exact Or.inr ⟨_, .wrongLength comes size⟩
  · exact Or.inr ⟨_, .refused refused⟩

end turn

section runs

variable (job : Job ν) (totalSize : Nat)

/-- From an offset on, the chunks are answered one after the other. -/
inductive Answered : Nat → ν → List (Answer ν) → Nat → ν → Prop where
  | nothing (offset : Nat) (net : ν) : Answered offset net [] offset net
  | chunk {offset reached : Nat} {net net' : ν} {a : Answer ν} {rest : List (Answer ν)}
      (more : offset < totalSize) (comes : Comes job totalSize offset net a)
      (size : a.data.length = job.nextChunk totalSize offset)
      (later : Answered (offset + a.data.length) a.net rest reached net') :
      Answered offset net (a :: rest) reached net'

/-- The loop behind the answers of a list. -/
def afterAnswers (x : Cursor × World ν) (answers : List (Answer ν)) : Cursor × World ν :=
  answers.foldl (written job totalSize) x

/-- How the loop ends, by the answers it got. -/
inductive LoopRun (x : Cursor × World ν) :
    Result PtpIpError (World ν) (Option Cursor) → Prop where
  | outOfTurns {answers : List (Answer ν)} {offset : Nat} {net : ν}
      (answered : Answered job totalSize x.1.currentOffset x.2.net answers offset net) :
      LoopRun x (.ok none (afterAnswers job totalSize x answers).2)
  | finished {answers : List (Answer ν)} {net' : ν}
      (answered : Answered job totalSize x.1.currentOffset x.2.net answers totalSize net') :
      LoopRun x (.ok (some (afterAnswers job totalSize x answers).1)
        (afterAnswers job totalSize x answers).2)
  | stopped {answers : List (Answer ν)} {offset : Nat} {net : ν} {stop : Stop ν}
      (answered : Answered job totalSize x.1.currentOffset x.2.net answers offset net)
      (more : offset < totalSize) (stops : Stops job totalSize offset net stop) :
      LoopRun x (.error (stop.error job totalSize offset)
        (stop.after job offset (afterAnswers job totalSize x answers).2))

variable {job totalSize} {offset reached : Nat} {net net' : ν} {answers : List (Answer ν)}

lemma Answered.le (answered : Answered job totalSize offset net answers reached net')
    (inside : offset ≤ totalSize) : reached ≤ totalSize := by
  induction answered with
  | nothing => exact inside
  | @chunk offset _ _ _ _ _ more comes size later ih =>
    have hchunk := nextChunk_le job totalSize offset
    exact ih (by omega)

lemma Answered.reached_eq
    (answered : Answered job totalSize offset net answers reached net') :
    offset + (answers.flatMap Answer.data).length = reached := by
  induction answered with
  | nothing => rfl
  | chunk more comes size later ih =>
    rw [List.flatMap_cons, List.length_append, ← Nat.add_assoc]
    exact ih

lemma written_writable {x : Cursor × World ν} (writable : x.1.file.mode ≠ .read) (a : Answer ν) :
    (written job totalSize x a).1.file.mode ≠ .read :=
  fun h => writable ((File.advance_mode_read _ _).mp h)

/-- As many turns as there are answers bring the loop behind them. -/
theorem downloadLoop_answered (answered : Answered job totalSize offset net answers reached net')
    (x : Cursor × World ν) (at_offset : x.1.currentOffset = offset) (at_net : x.2.net = net)
    (writable : x.1.file.mode ≠ .read) (turns : Nat) :
    let y := afterAnswers job totalSize x answers
    y.1.currentOffset = reached ∧ y.2.net = net' ∧
      (job.downloadLoop totalSize (answers.length + turns) x.1).run x.2 =
        (job.downloadLoop totalSize turns y.1).run y.2 := by
  induction answered generalizing x with
  | nothing offset net =>
    refine ⟨at_offset, at_net, ?_⟩
    rw [List.length_nil, Nat.zero_add]
    rfl
  | @chunk offset reached net net' a rest more comes size later ih =>
    subst at_offset at_net
    have hturn := downloadChunk_written writable comes size
    obtain ⟨hreached, hnet, hloop⟩ := ih (written job totalSize x a) rfl rfl
      (written_writable writable a)
    refine ⟨hreached, hnet, ?_⟩
    rw [List.length_cons, Nat.add_right_comm, downloadLoop_turn more hturn]
    exact hloop

/-- Every run of the loop is such a one. -/
theorem downloadLoop_run (job : Job ν) (x : Cursor × World ν)
    (writable : x.1.currentOffset < totalSize → x.1.file.mode ≠ .read)
    (inside : x.1.currentOffset ≤ totalSize) (turns : Nat) :
    LoopRun job totalSize x ((job.downloadLoop totalSize turns x.1).run x.2) := by
  induction turns generalizing x with
  | zero => exact .outOfTurns (.nothing _ _)
  | succ turns ih =>
    by_cases more : x.1.currentOffset < totalSize
    · rcases comes_or_stops job totalSize x.1.currentOffset x.2.net with ⟨a, comes, size⟩ |
        ⟨stop, stops⟩
      · have hturn := downloadChunk_written (writable more) comes size
        have hchunk := nextChunk_le job totalSize x.1.currentOffset
        rw [downloadLoop_turn more hturn]
        have hrest := ih (written job totalSize x a)
          (fun _ => written_writable (writable more) a)
          (by change x.1.currentOffset + a.data.length ≤ totalSize; omega)
        generalize (job.downloadLoop totalSize turns _).run _ = r at hrest
        cases hrest with
        | outOfTurns answered => exact .outOfTurns (.chunk more comes size answered)
        | finished answered => exact .finished (.chunk more comes size answered)
        | stopped answered more' stops =>
          exact .stopped (.chunk more comes size answered) more' stops
      · rw [downloadLoop_failed more (downloadChunk_stopped stops)]
        exact .stopped (.nothing _ _) more stops
    · have done : totalSize ≤ x.1.currentOffset := Nat.le_of_not_lt more
      have heq : x.1.currentOffset = totalSize := Nat.le_antisymm inside done
      have nothing : Answered job totalSize x.1.currentOffset x.2.net [] totalSize x.2.net := by
        rw [heq]
        exact .nothing _ _
      rw [downloadLoop_done done]
      exact .finished nothing

end runs

section simulation

variable {μ : Type}

/-- The same download with another network. -/
def onNetwork (job : Job ν)
    (getPartialObject : UInt32 → UInt64 → UInt32 → EStateM PtpIpError μ Bytes) : Job μ :=
  ⟨job.platform, getPartialObject, job.objectHandle, job.savePath, job.sessionConfig,
    job.downloadConfig⟩

variable {job : Job ν} {totalSize : Nat} {R : ν → μ → Prop}
  {getPartialObject : UInt32 → UInt64 → UInt32 → EStateM PtpIpError μ Bytes}

/-- The answers of one network are those of another one that it simulates. -/
theorem Answered.simulated (simulates : ∀ handle offset length,
      Refinement.Simulates R (job.getPartialObject handle offset length)
        (getPartialObject handle offset length))
    {offset reached : Nat} {net net' : ν} {answers : List (Answer ν)}
    (answered : Answered job totalSize offset net answers reached net') {net₂ : μ}
    (related : R net net₂) :
    ∃ answers₂ net₂',
      Answered (onNetwork job getPartialObject) totalSize offset net₂ answers₂ reached net₂' ∧
      R net' net₂' ∧ answers₂.map Answer.data = answers.map Answer.data ∧
      answers₂.map Answer.refusals = answers.map Answer.refusals := by
  induction answered generalizing net₂ with
  | nothing offset net => exact ⟨[], net₂, .nothing _ _, related, rfl, rfl⟩
  | @chunk offset reached net net' a rest more comes size later ih =>
    obtain ⟨mid, answered, related'⟩ :=
      comes.answered.simulated (simulates job.objectHandle _ _) related
    obtain ⟨rest₂, last, later₂, related'', hdata, hrefusals⟩ := ih related'
    refine ⟨⟨a.refusals, a.data, mid⟩ :: rest₂, last,
      .chunk more ⟨comes.within, answered⟩ size later₂, related'', ?_, ?_⟩
    · rw [List.map_cons, List.map_cons, hdata]
    · rw [List.map_cons, List.map_cons, hrefusals]

end simulation

section sums

variable (job : Job ν) (totalSize : Nat) {x : Cursor × World ν} {contents : Bytes}

/-- The temporary file holds so much, and its handle writes behind it. -/
structure Loaded (job : Job ν) (contents : Bytes) (x : Cursor × World ν) : Prop where
  path : x.1.file.path = getTempPath job.savePath
  atEnd : x.1.file.AtEnd contents.length
  temp : x.2.files (getTempPath job.savePath) = some contents
  downloaded : x.2.stats.downloadedBytes = UInt64.ofNat x.1.currentOffset

variable {job} in
lemma Loaded.written (loaded : Loaded job contents x) (a : Answer ν) :
    Loaded job (contents ++ a.data) (written job totalSize x a) where
  path := (File.advance_path _ _).trans loaded.path
  atEnd := by
    rw [List.length_append]
    exact loaded.atEnd.advance _
  temp := by
    have hput := File.put_atEnd (loaded.path.symm ▸ loaded.temp) loaded.atEnd a.data
    change update (x.1.file.put a.data x.2.files) _ _ _ = _
    rw [Function.update_of_ne (getTempPath_ne_getResumePath _), hput, loaded.path,
      Function.update_self]
  downloaded := rfl

variable {job} in
/-- The answers are appended in order. -/
lemma Loaded.afterAnswers (loaded : Loaded job contents x) (answers : List (Answer ν)) :
    Loaded job (contents ++ answers.flatMap Answer.data)
      (afterAnswers job totalSize x answers) := by
  induction answers generalizing x contents with
  | nil =>
    rw [List.flatMap_nil, List.append_nil]
    exact loaded
  | cons a rest ih =>
    rw [List.flatMap_cons, ← List.append_assoc]
    exact ih (loaded.written totalSize a)

/-- What the answers of a list have added. -/
structure Added (job : Job ν) (x : Cursor × World ν) (answers : List (Answer ν))
    (y : Cursor × World ν) : Prop where
  offset : y.1.currentOffset = x.1.currentOffset + (answers.flatMap Answer.data).length
  chunks : y.2.stats.chunks = x.2.stats.chunks + answers.length
  retries : y.2.stats.retries = x.2.stats.retries + (answers.map Answer.refusals).sum
  totalBytes : y.2.stats.totalBytes = x.2.stats.totalBytes
  record : answers ≠ [] →
    y.2.files (getResumePath job.savePath) = some (decimal y.1.currentOffset)
  target : x.1.file.path ≠ job.savePath → y.2.files job.savePath = x.2.files job.savePath

lemma added_written (x : Cursor × World ν) (a : Answer ν) :
    Added job x [a] (written job totalSize x a) where
  offset := by
    rw [List.flatMap_singleton]
    rfl
  chunks := rfl
  retries := by
    rw [List.map_singleton, List.sum_singleton]
    rfl
  totalBytes := rfl
  record _ := Function.update_self _ _ _
  target other := (Function.update_of_ne (getResumePath_ne _).symm _ _).trans
    (Function.update_of_ne other.symm _ _)

variable {job} in
lemma Added.append {y z : Cursor × World ν} {answers rest : List (Answer ν)}
    (first : Added job x answers y) (same : y.1.file.path = x.1.file.path)
    (second : Added job y rest z) (recorded : answers ≠ [] → rest = [] → z = y) :
    Added job x (answers ++ rest) z where
  offset := by
    rw [second.offset, first.offset, List.flatMap_append, List.length_append, Nat.add_assoc]
  chunks := by
    rw [second.chunks, first.chunks, List.length_append, Nat.add_assoc]
  retries := by
    rw [second.retries, first.retries, List.map_append, List.sum_append, Nat.add_assoc]
  totalBytes := second.totalBytes.trans first.totalBytes
  record some := by
    by_cases none : rest = []
    · have hfirst : answers ≠ [] := by
        rintro rfl
        exact some none
      rw [recorded hfirst none]
      exact first.record hfirst
    · exact second.record none
  target other := (second.target (same ▸ other)).trans (first.target other)

lemma added_afterAnswers (x : Cursor × World ν) (answers : List (Answer ν)) :
    Added job x answers (afterAnswers job totalSize x answers) := by
  induction answers generalizing x with
  | nil => exact ⟨rfl, rfl, rfl, rfl, fun h => absurd rfl h, fun _ => rfl⟩
  | cons a rest ih =>
    refine (added_written job totalSize x a).append (File.advance_path _ _)
      (ih (written job totalSize x a)) ?_
    rintro - rfl
    rfl

/-- Callbacks on the way between two heads of the loop: they name the position that is counted in
their statistics, never go back, and each comes with another chunk. -/
structure Reported (totalSize : Nat) (x y : Cursor × World ν)
    (reports : List (Nat × Nat × Bool × DownloadStats)) : Prop where
  each : ∀ r ∈ reports, x.1.currentOffset ≤ r.1 ∧ r.1 ≤ y.1.currentOffset ∧
    x.2.stats.chunks < r.2.2.2.chunks ∧ r.2.2.2.chunks ≤ y.2.stats.chunks ∧
    r.2.1 = totalSize ∧ r.2.2.1 = false ∧ r.2.2.2.downloadedBytes = UInt64.ofNat r.1
  forward : reports.Pairwise fun r r' => r.1 ≤ r'.1 ∧ r.2.2.2.chunks < r'.2.2.2.chunks

lemma reported_written (x : Cursor × World ν) (a : Answer ν) :
    ∃ reports, (written job totalSize x a).2.progress = x.2.progress ++ reports ∧
      Reported totalSize x (written job totalSize x a) reports := by
  refine ⟨_, rfl, ?_, ?_⟩
  · intro r hr
    obtain ⟨-, -, rfl⟩ := List.mem_map.mp hr
    exact ⟨Nat.le_add_right _ _, Nat.le_refl _, Nat.lt_succ_self _, Nat.le_refl _, rfl, rfl, rfl⟩
  · unfold callback
    cases checkpointReached job x.2.stats.totalBytes _ x.1.lastReportedProgress with
    | none => exact .nil
    | some checkpoint => exact List.pairwise_singleton _ _

variable {totalSize} in
lemma Reported.append {x y z : Cursor × World ν}
    {reports later : List (Nat × Nat × Bool × DownloadStats)}
    (offset : x.1.currentOffset ≤ y.1.currentOffset ∧ y.1.currentOffset ≤ z.1.currentOffset)
    (chunks : x.2.stats.chunks ≤ y.2.stats.chunks ∧ y.2.stats.chunks ≤ z.2.stats.chunks)
    (first : Reported totalSize x y reports) (second : Reported totalSize y z later) :
    Reported totalSize x z (reports ++ later) where
  each r hr := by
    rcases List.mem_append.mp hr with h | h
    · obtain ⟨lo, hi, clo, chi, rest⟩ := first.each r h
      exact ⟨lo, hi.trans offset.2, clo, chi.trans chunks.2, rest⟩
    · obtain ⟨lo, hi, clo, chi, rest⟩ := second.each r h
      exact ⟨offset.1.trans lo, hi, Nat.lt_of_le_of_lt chunks.1 clo, chi, rest⟩
  forward := by
    refine List.pairwise_append.mpr ⟨first.forward, second.forward, fun r hr r' hr' => ?_⟩
    obtain ⟨-, hi, -, chi, -⟩ := first.each r hr
    obtain ⟨lo, -, clo, -⟩ := second.each r' hr'
    exact ⟨hi.trans lo, Nat.lt_of_le_of_lt chi clo⟩

lemma reported_afterAnswers (x : Cursor × World ν) (answers : List (Answer ν)) :
    ∃ reports, (afterAnswers job totalSize x answers).2.progress = x.2.progress ++ reports ∧
      Reported totalSize x (afterAnswers job totalSize x answers) reports := by
  induction answers generalizing x with
  | nil =>
    refine ⟨[], (List.append_nil _).symm, fun r hr => absurd hr List.not_mem_nil, .nil⟩
  | cons a rest ih =>
    obtain ⟨reports, hfirst, first⟩ := reported_written job totalSize x a
    obtain ⟨later, hsecond, second⟩ := ih (written job totalSize x a)
    have added := added_written job totalSize x a
    have rest_added := added_afterAnswers job totalSize (written job totalSize x a) rest
    refine ⟨reports ++ later, ?_, first.append ⟨?_, ?_⟩ ⟨?_, ?_⟩ second⟩
    · rw [← List.append_assoc, ← hfirst]
      exact hsecond
    · exact added.offset ▸ Nat.le_add_right _ _
    · exact rest_added.offset ▸ Nat.le_add_right _ _
    · exact added.chunks ▸ Nat.le_add_right _ _
    · exact rest_added.chunks ▸ Nat.le_add_right _ _

end sums

end ChunkAnswers
