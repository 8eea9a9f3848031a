import PtpipCore.DownloadBounds
import PtpipCore.InterruptedDownloads

/-!
# A download that is called again until it returns

A call that fails leaves the next one to go on where it stopped. With a camera that lapses only so
often, one of the calls returns: no more of them fail than there are lapses, no chunk is written
twice, and every request that is repeated is repeated for a lapse.
-/

namespace RepeatedDownloads

open Effects ByteStream CrashActions FileActions Types Resume ResumePlan Download DownloadRun
open DownloadTurns Retries ChunkAnswers ResumeInvariant DownloadOutcome DownloadBounds
open InterruptedDownloads
open Download.Job
open EStateM (Result)

variable {ν : Type}

/-- The files and the network, and what all calls together have counted. -/
structure Ongoing (ν : Type) where
  files : FileSystem Path
  net : ν
  chunks : Nat
  retries : Nat

/-- What one call more leaves behind. -/
def Ongoing.after (s : Ongoing ν) (w : World ν) : Ongoing ν :=
  ⟨w.files, w.net, s.chunks + w.stats.chunks, s.retries + w.stats.retries⟩

/-- One call more, with statistics of its own. -/
def call (job : Job ν) (totalBytes : UInt64) (turns : Nat) :
    EStateM PtpIpError (Ongoing ν) (Option Unit) := fun s =>
  match (job.downloadObjectWithResume turns).run (World.start s.files s.net totalBytes) with
  | .ok r w => .ok r (s.after w)
  | .error e w => .error e (s.after w)

section runs

variable {job : Job ν} {totalBytes : UInt64} {turns : Nat} {s : Ongoing ν} {w : World ν}

lemma call_ok {r : Option Unit}
    (run : (job.downloadObjectWithResume turns).run (World.start s.files s.net totalBytes) =
      .ok r w) : call job totalBytes turns s = .ok r (s.after w) := by
  rw [call, run]

lemma call_error {e : PtpIpError}
    (run : (job.downloadObjectWithResume turns).run (World.start s.files s.net totalBytes) =
      .error e w) : call job totalBytes turns s = .error e (s.after w) := by
  rw [call, run]

end runs

/-- A request within the object that is refused, or answered with another length than it asks for,
uses up one of the lapses that the camera has left. -/
structure Lapses (job : Job ν) (object : Bytes) (lapses : ν → Nat) : Prop where
  answered : ∀ offset length net data net',
    job.getPartialObject job.objectHandle offset length net = .ok data net' →
      lapses net' ≤ lapses net ∧ (offset.toNat + length.toNat ≤ object.length →
        data.length ≠ length.toNat → lapses net' < lapses net)
  refused : ∀ offset length net e net',
    job.getPartialObject job.objectHandle offset length net = .error e net' →
      lapses net' < lapses net

section lapses

variable {job : Job ν} {object : Bytes} {lapses : ν → Nat} {offset reached : Nat} {net net' : ν}

/-- The request for the chunk at an offset asks for what it says, within the object. -/
structure Requests (job : Job ν) (object : Bytes) (offset : Nat) : Prop where
  fromOffset : (UInt64.ofNat offset).toNat = offset
  ofLength : (UInt32.ofNat (job.nextChunk object.length offset)).toNat =
    job.nextChunk object.length offset
  inside : offset + job.nextChunk object.length offset ≤ object.length

lemma requests (attempt : Attempt .bits64 job.savePath object job) (more : offset < object.length) :
    Requests job object offset := by
  have inCountable : offset < (countable .bits64 object).length := by
    rwa [countable_eq .bits64 attempt.size]
  obtain ⟨hoffset, hlength, inside⟩ := attempt.request inCountable
  rw [countable_eq .bits64 attempt.size] at hlength inside
  exact ⟨hoffset, hlength, inside⟩

lemma Lapses.comes (lapsing : Lapses job object lapses) {a : Answer ν}
    (comes : Comes job object.length offset net a) :
    lapses a.net + a.refusals ≤ lapses net ∧ (Requests job object offset →
      a.data.length ≠ job.nextChunk object.length offset →
        lapses a.net + a.refusals < lapses net) := by
  obtain ⟨u, refused, hask⟩ := comes.answered
  have hrefused := refused.takes (lapsing.refused _ _)
  obtain ⟨hle, hlt⟩ := lapsing.answered _ _ _ _ _ hask
  refine ⟨by omega, ?_⟩
  rintro ⟨hoffset, hlength, inside⟩ differs
  rw [hoffset, hlength] at hlt
  have hlast := hlt inside differs
  omega

/-- Answered chunks use up a lapse for each refusal before them. -/
lemma Lapses.chunks (lapsing : Lapses job object lapses) {answers : List (Answer ν)}
    (answered : Answered job object.length offset net answers reached net') :
    lapses net' + (answers.map Answer.refusals).sum ≤ lapses net := by
  induction answered with
  | nothing => exact Nat.le_refl _
  | chunk more comes size later ih =>
    have hfirst := (lapsing.comes comes).1
    rw [List.map_cons, List.sum_cons]
    omega

/-- A chunk that is given up uses up one at least. -/
lemma Lapses.stops (lapsing : Lapses job object lapses) (requests : Requests job object offset)
    {stop : Stop ν} (stops : Stops job object.length offset net stop) :
    lapses stop.net + stop.refusals job ≤ lapses net ∧ lapses stop.net < lapses net := by
  cases stops with
  | @refused e net' refused =>
    obtain ⟨u, before, hask⟩ := refused
    have hbefore := before.takes (lapsing.refused _ _)
    have hlast := lapsing.refused _ _ _ _ _ hask
    change lapses net' + (job.sessionConfig.maxRetries + 1) ≤ _ ∧ lapses net' < _
    omega
  | @wrongLength a comes differs =>
    have hlt := (lapsing.comes comes).2 requests differs
    change lapses a.net + a.refusals ≤ _ ∧ lapses a.net < _
    omega

end lapses

section calls

variable {job : Job ν} {lapses : ν → Nat} {object : Bytes} {offset turns : Nat}

/-- Where an attempt was given up, the next one begins. -/
lemma begins_of_paused {savePath : Path} {fs : FileSystem Path} (size : object.length < 2 ^ 64)
    (paused : Paused savePath object offset fs) :
    beginning savePath fs (plan .bits64 savePath object.length fs) =
      some (offset, object.take offset) := by
  have incomplete : ¬ (fs savePath).any (lenOf .bits64 · = object.length) :=
    paused.incomplete ∘ complete_iff.mp
  rw [plan, if_neg incomplete]
  rcases paused.record with ⟨htemp, hrecord, short⟩ | ⟨rfl, hrecord⟩
  · have hlength : (object.take offset).length = offset :=
      List.length_take_of_le (Nat.le_of_lt short)
    have hsmall : offset < 2 ^ 64 := Nat.lt_trans short size
    have hlen : lenOf .bits64 (object.take offset) = offset := by
      rw [lenOf_eq (hlength.symm ▸ hsmall), hlength]
    rw [hrecord, htemp]
    simp only [recordPlan, recordOffset_decimal .bits64 hsmall, hlen]
    rw [if_neg (not_not_intro rfl), if_neg (Nat.not_le_of_lt short), beginning, htemp]
    rfl
  · rw [hrecord]
    rfl

/-- The calls so far: the next one begins at an offset, the chunks up to there have been written
once, and the requests that were repeated are paid for. -/
structure Underway (job : Job ν) (object : Bytes) (lapses : ν → Nat) (count budget : Nat)
    (s : Ongoing ν) (offset : Nat) : Prop where
  paused : Paused job.savePath object offset s.files
  chunks : s.chunks + chunkCount job.downloadConfig.chunkSize (object.length - offset) ≤ count
  exact : job.downloadConfig.minChunkSize ≤ job.downloadConfig.chunkSize →
    s.chunks + chunkCount job.downloadConfig.chunkSize (object.length - offset) = count
  retries : s.retries + lapses s.net ≤ budget

/-- The object is at the target, and nothing is left beside it. -/
structure Through (job : Job ν) (object : Bytes) (lapses : ν → Nat) (count budget : Nat)
    (s : Ongoing ν) : Prop where
  target : s.files job.savePath = some object
  temp : s.files (getTempPath job.savePath) = none
  record : s.files (getResumePath job.savePath) = none
  chunks : s.chunks ≤ count
  exact : job.downloadConfig.minChunkSize ≤ job.downloadConfig.chunkSize → s.chunks = count
  retries : s.retries + lapses s.net ≤ budget

section steps

variable {count budget reached : Nat} {s : Ongoing ν} {answers : List (Answer ν)} {net : ν}
  {w : World ν}

/-- The answers that reach the end bring the calls to theirs. -/
lemma Underway.delivered (underway : Underway job object lapses count budget s offset)
    (lapsing : Lapses job object lapses) (positive : 1 ≤ job.downloadConfig.chunkSize)
    (answered : Answered job object.length offset s.net answers object.length net)
    (assembled : Assembled job object.length (object.take offset)
      (World.start s.files s.net (UInt64.ofNat object.length)) answers net w)
    (target : w.files job.savePath = some object) :
    Through job object lapses count budget (s.after w) := by
  obtain ⟨-, hchunks, hexact, hretries⟩ := underway
  obtain ⟨hle, heq⟩ := answered_count positive answered
  rw [Nat.sub_self, chunkCount_zero positive, Nat.add_zero] at hle heq
  have hlapses := lapsing.chunks answered
  have hcount : w.stats.chunks = 0 + answers.length := assembled.chunks
  have hrefused : w.stats.retries = 0 + (answers.map Answer.refusals).sum := assembled.retries
  refine ⟨target, assembled.temp, assembled.record, ?_, ?_, ?_⟩
  · change s.chunks + w.stats.chunks ≤ count
    omega
  · intro minimum
    have := heq minimum
    have := hexact minimum
    change s.chunks + w.stats.chunks = count
    omega
  · change s.retries + w.stats.retries + lapses w.net ≤ budget
    rw [assembled.net]
    omega

/-- A chunk that is given up leaves the rest to the next call, for a lapse at least. -/
lemma Underway.givenUp (underway : Underway job object lapses count budget s offset)
    (lapsing : Lapses job object lapses) (positive : 1 ≤ job.downloadConfig.chunkSize)
    (answered : Answered job object.length offset s.net answers reached net) {stop : Stop ν}
    (stops : Stops job object.length reached net stop) (requests : Requests job object reached)
    {e : PtpIpError}
    (left : GivenUp job object.length (object.take offset)
      (World.start s.files s.net (UInt64.ofNat object.length)) answers reached stop e w)
    (paused : Paused job.savePath object reached w.files) :
    Underway job object lapses count budget (s.after w) reached ∧
      lapses (s.after w).net < lapses s.net := by
  obtain ⟨-, hchunks, hexact, hretries⟩ := underway
  obtain ⟨hle, heq⟩ := answered_count positive answered
  have hlapses := lapsing.chunks answered
  obtain ⟨hstop, hlast⟩ := lapsing.stops requests stops
  have hcount : w.stats.chunks = 0 + answers.length := left.chunks
  have hrefused : w.stats.retries =
    0 + (answers.map Answer.refusals).sum + stop.refusals job := left.retries
  have hnet : (s.after w).net = stop.net := left.net
  rw [hnet]
  refine ⟨⟨paused, ?_, ?_, ?_⟩, by omega⟩
  · change s.chunks + w.stats.chunks + _ ≤ count
    omega
  · intro minimum
    have := heq minimum
    have := hexact minimum
    change s.chunks + w.stats.chunks + _ = count
    omega
  · rw [hnet]
    change s.retries + w.stats.retries + lapses stop.net ≤ budget
    omega

end steps

lemma asUsize_length (attempt : Attempt .bits64 job.savePath object job) :
    job.platform.asUsize (UInt64.ofNat object.length).toNat = object.length := by
  rw [attempt.platform, UInt64.toNat_ofNat_of_lt' attempt.size]
  exact Platform.asUsize_of_lt attempt.size

variable (attempt : Attempt .bits64 job.savePath object job)
  (positive : 1 ≤ job.downloadConfig.chunkSize) (lapsing : Lapses job object lapses)
  (enough : chunkCount job.downloadConfig.chunkSize object.length < turns)

include attempt positive lapsing enough

/-- One call more is through, or goes on and has used up a lapse. -/
lemma call_step {count budget : Nat} {s : Ongoing ν}
    (underway : Underway job object lapses count budget s offset) :
    (∃ t, call job (UInt64.ofNat object.length) turns s = .ok (some ()) t ∧
        Through job object lapses count budget t) ∨
      ∃ e t offset', call job (UInt64.ofNat object.length) turns s = .error e t ∧
        Underway job object lapses count budget t offset' ∧ lapses t.net < lapses s.net := by
  have begins := begins_of_paused attempt.size underway.paused
  rw [← attempt.platform] at begins
  have inTime := download_in_time (w := World.start s.files s.net (UInt64.ofNat object.length))
    positive (asUsize_length attempt) begins
    (Nat.lt_of_le_of_lt (chunkCount_mono (Nat.sub_le _ _)) enough)
  have hends := download_ends (w := World.start s.files s.net (UInt64.ofNat object.length))
    (asUsize_length attempt) begins turns
  have hattempt := underway.paused.attempt attempt positive s.net turns
  generalize hrun : (job.downloadObjectWithResume turns).run
    (World.start s.files s.net (UInt64.ofNat object.length)) = r at inTime hends
  cases hends with
  | outOfTurns => exact absurd rfl (inTime _)
  | delivered answered assembled =>
    left
    rcases hattempt.returned hrun with ⟨-, delivered⟩ | ⟨hnone, -⟩
    · exact ⟨_, call_ok hrun,
        underway.delivered lapsing positive answered assembled delivered.target⟩
    · cases hnone
  | @givenUp answers reached net stop e w answered more stops left =>
    right
    obtain ⟨⟨offset', paused, hdownloaded, short, -⟩, -⟩ := hattempt.failed hrun
    -- the files go on where the statistics say
    have hreached : offset' = reached := by
      have hsame := congrArg UInt64.toNat (hdownloaded.symm.trans left.downloaded)
      rwa [UInt64.toNat_ofNat_of_lt' (Nat.lt_trans short attempt.size),
        UInt64.toNat_ofNat_of_lt' (Nat.lt_trans more attempt.size)] at hsame
    subst hreached
    obtain ⟨underway', falls⟩ :=
      underway.givenUp lapsing positive answered stops (requests attempt more) left paused
    exact ⟨e, _, offset', call_error hrun, underway', falls⟩

/-- Calls for an object that are repeated until one of them returns: with a camera that lapses only
so often no more of them fail than there are lapses, and the object arrives. All of them together
have written each chunk once, and repeated no more requests than there were lapses. -/
theorem repeated_delivers {s : Ongoing ν} (paused : Paused job.savePath object offset s.files) :
    ∃ n t, n ≤ lapses s.net ∧
      AnsweredAfter (call job (UInt64.ofNat object.length) turns) n s (some ()) t ∧
      Through job object lapses
        (s.chunks + chunkCount job.downloadConfig.chunkSize (object.length - offset))
        (s.retries + lapses s.net) t := by
  generalize hcount : s.chunks + chunkCount job.downloadConfig.chunkSize (object.length - offset) =
    count
  generalize hbudget : s.retries + lapses s.net = budget
  have start : Underway job object lapses count budget s offset :=
    ⟨paused, Nat.le_of_eq hcount, fun _ => hcount, Nat.le_of_eq hbudget⟩
  -- a call that fails leaves the next one underway
  have refusals : ∀ s e t, (∃ offset, Underway job object lapses count budget s offset) →
      call job (UInt64.ofNat object.length) turns s = .error e t →
      (∃ offset, Underway job object lapses count budget t offset) ∧
        lapses t.net < lapses s.net := by
    rintro s e t ⟨offset, underway⟩ hcall
    rcases call_step attempt positive lapsing enough underway with
      ⟨t', hok, -⟩ | ⟨e', t', offset', herror, underway', falls⟩
    · cases hcall.symm.trans hok
    · cases hcall.symm.trans herror
      exact ⟨⟨offset', underway'⟩, falls⟩
  obtain ⟨n, u, r, t, refused, ⟨offset', underway⟩, hle, hcall⟩ :=
    answered_eventually refusals ⟨offset, start⟩
  rcases call_step attempt positive lapsing enough underway with
    ⟨t', hok, through⟩ | ⟨e, t', -, herror, -⟩
  · cases hcall.symm.trans hok
    exact ⟨n, t, by omega, ⟨u, refused, hcall⟩, through⟩
  · cases hcall.symm.trans herror

end calls

section lapsing

/-- A camera that answers, but for so many requests that it does not. -/
def lapsingJob (object : Bytes) : Job Nat :=
  onNetwork (steadyJob object) fun _ offset length lapses =>
    match lapses with
    | 0 => .ok ((object.drop offset.toNat).take length.toNat) 0
    | lapses + 1 => .error .timeout lapses

lemma lapsingJob_ok {object data : Bytes} {handle : UInt32} {offset : UInt64} {length : UInt32}
    {net net' : Nat} (h : (lapsingJob object).getPartialObject handle offset length net =
      .ok data net') : data = (object.drop offset.toNat).take length.toNat := by
  cases net <;> cases h
  rfl

lemma lapsingJob_attempt {object : Bytes} (size : object.length < 2 ^ 64) :
    Attempt .bits64 (lapsingJob object).savePath object (lapsingJob object) where
  platform := rfl
  target := rfl
  chunkSize := (by decide : 2 < 2 ^ 32)
  minChunkSize := (by decide : 1 < 2 ^ 32)
  size := size
  honest _ _ _ _ _ _ hask _ := lapsingJob_ok hask

lemma lapsingJob_lapses (object : Bytes) : Lapses (lapsingJob object) object id where
  answered offset length net data net' hask := by
    cases lapsingJob_ok hask
    cases net with
    | succ lapses => cases hask
    | zero =>
      cases hask
      refine ⟨Nat.le_refl _, fun inside differs => absurd ?_ differs⟩
      exact List.length_take_of_le (by rw [List.length_drop]; omega)
  refused offset length net e net' hask := by
    cases net <;> cases hask
    exact Nat.lt_succ_self _

/-- Three bytes from a camera that lapses five times: they arrive as two chunks. -/
theorem repeated_delivers_five :
    ∃ n t, n ≤ 5 ∧ AnsweredAfter (call (lapsingJob [1, 2, 3]) 3 3) n ⟨fun _ => none, 5, 0, 0⟩
        (some ()) t ∧
      t.files (lapsingJob [1, 2, 3]).savePath = some [1, 2, 3] ∧ t.chunks = 0 + 2 := by
  have nothing : Paused (lapsingJob [1, 2, 3]).savePath [1, 2, 3] 0 (fun _ => none) := by
    refine ⟨?_, Or.inr ⟨rfl, rfl⟩⟩
    rintro ⟨contents, hcontents, -⟩
    cases hcontents
  obtain ⟨n, t, hle, answered, through⟩ := repeated_delivers (lapsingJob_attempt (by decide))
    (show 1 ≤ 2 by decide) (lapsingJob_lapses [1, 2, 3]) (show 2 < 3 by decide)
    (s := ⟨fun _ => none, 5, 0, 0⟩) nothing
  exact ⟨n, t, hle, answered, through.target, through.exact (show 1 ≤ 2 by decide)⟩

end lapsing

end RepeatedDownloads
