import PtpipCore.StreamProvenance
import PtpipCore.PhotoDownload

/-!
# Where the bytes of a download come from

A download on a connection makes one attempt after the other, each under a transaction id of its
own. Whatever the stream brings, the bytes it keeps were received in blocks of the attempts that
were answered, in this order; an attempt that failed has left nothing.
-/

namespace DownloadProvenance

open Effects ByteStream FileActions Types Resume ResumePlan Transport Commands FrameStreams
open PartialObject Retries ReceiveRuns StreamProvenance Download DownloadTurns ChunkAnswers
open DownloadOutcome PhotoDownload
open EStateM (Result)

section attempts

/-- What was received during an attempt, before the block that ended the data of its transaction or
the failure of the attempt. -/
structure Attempt where
  transactionId : UInt32
  received : List PtpIpPacket
  answered : Bool

/-- The bytes that an attempt has brought. -/
def Attempt.data (a : Attempt) : Bytes :=
  if a.answered then gathered a.transactionId a.received else []

/-- Attempts that are made on a connection one after the other. -/
inductive Attempts : Connection → List Attempt → Connection → Prop where
  | nothing (c : Connection) : Attempts c [] c
  | answered {c c' d : Connection} {ps : List PtpIpPacket} {rest : List Attempt}
      (run : Receives c.incoming.arrivals (ps ++ [endOf (c.transactionIds 0)]) c'.incoming.arrivals)
      (before : ∀ q ∈ ps, q ≠ endOf (c.transactionIds 0))
      (ids : c'.transactionIds = fun n => c.transactionIds (n + 1)) (later : Attempts c' rest d) :
      Attempts c (⟨c.transactionIds 0, ps, true⟩ :: rest) d
  | failed {c c' d : Connection} {ps : List PtpIpPacket} {u : List Arrival} {rest : List Attempt}
      (run : Receives c.incoming.arrivals ps u) (left : c'.incoming.arrivals <:+ u)
      (before : ∀ q ∈ ps, q ≠ endOf (c.transactionIds 0))
      (ids : c'.transactionIds = fun n => c.transactionIds (n + 1)) (later : Attempts c' rest d) :
      Attempts c (⟨c.transactionIds 0, ps, false⟩ :: rest) d

lemma Attempts.append {c d e : Connection} {as bs : List Attempt} (first : Attempts c as d)
    (second : Attempts d bs e) : Attempts c (as ++ bs) e := by
  induction first with
  | nothing => exact second
  | answered run before ids _ ih => exact .answered run before ids (ih second)
  | failed run left before ids _ ih => exact .failed run left before ids (ih second)

variable {config : SessionConfig} {objectHandle : UInt32} {offset : UInt64} {length : UInt32}
  {c c' : Connection}

/-- What has been asked for is received, or nothing is. -/
lemma getPartialObject_cases (config : SessionConfig) (objectHandle : UInt32) (offset : UInt64)
    (length : UInt32) (c : Connection) :
    (∃ outgoing, getPartialObject config objectHandle offset length c =
      Connection.incomingPart.lift ⟨c.incoming, outgoing, fun n => c.transactionIds (n + 1)⟩
        (receiveDataBlock (c.transactionIds 0) config c.incoming)) ∨
    ∃ e outgoing, getPartialObject config objectHandle offset length c =
      .error e ⟨c.incoming, outgoing, fun n => c.transactionIds (n + 1)⟩ := by
  have hid : generateTransactionId c = .ok (c.transactionIds 0)
      ⟨c.incoming, c.outgoing, fun n => c.transactionIds (n + 1)⟩ := rfl
  cases hsend : sendCommand PtpOperationCode.getPartialObject.code (c.transactionIds 0)
      (partialObjectParams objectHandle offset length) config c.outgoing with
  | ok _ outgoing =>
    refine Or.inl ⟨outgoing, ?_⟩
    have hrun : Connection.outgoingPart.run (sendCommand PtpOperationCode.getPartialObject.code
        (c.transactionIds 0) (partialObjectParams objectHandle offset length) config)
        ⟨c.incoming, c.outgoing, fun n => c.transactionIds (n + 1)⟩ =
          .ok () ⟨c.incoming, outgoing, fun n => c.transactionIds (n + 1)⟩ :=
      Connection.outgoingPart.run_ok hsend
    rw [getPartialObject, bind_ok hid, bind_ok hrun]
    rfl
  | error e outgoing =>
    refine Or.inr ⟨e, outgoing, ?_⟩
    have hrun : Connection.outgoingPart.run (sendCommand PtpOperationCode.getPartialObject.code
        (c.transactionIds 0) (partialObjectParams objectHandle offset length) config)
        ⟨c.incoming, c.outgoing, fun n => c.transactionIds (n + 1)⟩ =
          .error e ⟨c.incoming, outgoing, fun n => c.transactionIds (n + 1)⟩ :=
      Connection.outgoingPart.run_error hsend
    rw [getPartialObject, bind_ok hid, bind_error hrun]

/-- A request that is answered has received the end of its data. -/
lemma getPartialObject_answered {data : Bytes}
    (h : getPartialObject config objectHandle offset length c = .ok data c') :
    ∃ ps, Receives c.incoming.arrivals (ps ++ [endOf (c.transactionIds 0)]) c'.incoming.arrivals ∧
      (∀ q ∈ ps, q ≠ endOf (c.transactionIds 0)) ∧
      c'.transactionIds = (fun n => c.transactionIds (n + 1)) ∧
      data = gathered (c.transactionIds 0) ps := by
  rcases getPartialObject_cases config objectHandle offset length c with ⟨outgoing, heq⟩ |
    ⟨e, outgoing, heq⟩
  · have collected := receiveDataBlock_collected config (c.transactionIds 0) c.incoming
    rw [h] at heq
    generalize receiveDataBlock (c.transactionIds 0) config c.incoming = r at heq collected
    cases collected with
    | ended run before =>
      cases heq
      exact ⟨_, run, before, rfl, rfl⟩
    | silent => cases heq
  · cases h.symm.trans heq

/-- A request that fails leaves the stream behind what was received, or inside a packet. -/
lemma getPartialObject_failed {e : PtpIpError}
    (h : getPartialObject config objectHandle offset length c = .error e c') :
    ∃ ps u, Receives c.incoming.arrivals ps u ∧ c'.incoming.arrivals <:+ u ∧
      (∀ q ∈ ps, q ≠ endOf (c.transactionIds 0)) ∧
      c'.transactionIds = fun n => c.transactionIds (n + 1) := by
  rcases getPartialObject_cases config objectHandle offset length c with ⟨outgoing, heq⟩ |
    ⟨e', outgoing, heq⟩
  · have collected := receiveDataBlock_collected config (c.transactionIds 0) c.incoming
    rw [h] at heq
    generalize receiveDataBlock (c.transactionIds 0) config c.incoming = r at heq collected
    cases collected with
    | ended => cases heq
    | @silent ps e u s' run before silent =>
      cases heq
      refine ⟨ps, u, run, ?_, before, rfl⟩
      rcases silent with failure | ⟨-, hleft, -⟩
      · have hsuffix := consumes_recvPacket u
        rw [failure] at hsuffix
        exact hsuffix
      · rw [← hleft]
        exact List.suffix_rfl
  · cases h.symm.trans heq
    exact ⟨[], _, .nothing _, List.suffix_rfl, fun _ hq => absurd hq List.not_mem_nil, rfl⟩

/-- So many attempts have failed, and so many have been answered. -/
structure Counts (as : List Attempt) (answered failed : Nat) : Prop where
  answered : as.countP (fun a => a.answered) = answered
  failed : as.countP (fun a => !a.answered) = failed

lemma Counts.append {as bs : List Attempt} {m n m' n' : Nat} (first : Counts as m n)
    (second : Counts bs m' n') : Counts (as ++ bs) (m + m') (n + n') where
  answered := by rw [List.countP_append, first.answered, second.answered]
  failed := by rw [List.countP_append, first.failed, second.failed]

lemma refused_attempts {n : Nat} {d : Connection}
    (refused : Refused (getPartialObject config objectHandle offset length) n c d) :
    ∃ as, Attempts c as d ∧ Counts as 0 n ∧ as.flatMap Attempt.data = [] := by
  induction refused with
  | never c => exact ⟨[], .nothing c, ⟨rfl, rfl⟩, rfl⟩
  | @again n c c' d e refusal rest ih =>
    obtain ⟨as, attempts, counts, nothing⟩ := ih
    obtain ⟨ps, u, run, left, before, ids⟩ := getPartialObject_failed refusal
    refine ⟨_, .failed run left before ids attempts, ⟨?_, ?_⟩, ?_⟩
    · rw [List.countP_cons_of_neg (by simp), counts.answered]
    · rw [List.countP_cons_of_pos rfl, counts.failed]
    · rw [List.flatMap_cons, nothing]
      rfl

lemma answered_attempts {n : Nat} {data : Bytes} {d : Connection}
    (answered : AnsweredAfter (getPartialObject config objectHandle offset length) n c data d) :
    ∃ as, Attempts c as d ∧ Counts as 1 n ∧ as.flatMap Attempt.data = data := by
  obtain ⟨mid, refused, h⟩ := answered
  obtain ⟨as, attempts, counts, nothing⟩ := refused_attempts refused
  obtain ⟨ps, run, before, ids, rfl⟩ := getPartialObject_answered h
  have last : Counts [⟨mid.transactionIds 0, ps, true⟩] 1 0 := ⟨rfl, rfl⟩
  refine ⟨_, attempts.append (.answered run before ids (.nothing d)), ?_, ?_⟩
  · have both := counts.append last
    rwa [Nat.zero_add] at both
  · rw [List.flatMap_append, nothing, List.flatMap_singleton]
    rfl

end attempts

section downloads

variable {platform : Platform} {config : SessionConfig} {objectHandle : UInt32} {savePath : Path}
  {downloadConfig : ChunkDownloadConfig} {totalSize offset : Nat} {contents : Bytes}

/-- Behind every answer are the attempts at its chunk. -/
lemma answers_attempts {reached : Nat} {c d : Connection} {answers : List (Answer Connection)}
    (answered : Answered (wireJob platform config objectHandle savePath downloadConfig) totalSize
      offset c answers reached d) :
    ∃ as, Attempts c as d ∧ Counts as answers.length (answers.map Answer.refusals).sum ∧
      as.flatMap Attempt.data = answers.flatMap Answer.data := by
  induction answered with
  | nothing offset c => exact ⟨[], .nothing c, ⟨rfl, rfl⟩, rfl⟩
  | chunk more comes size later ih =>
    obtain ⟨as, attempts, counts, hdata⟩ := answered_attempts comes.answered
    obtain ⟨bs, attempts', counts', hdata'⟩ := ih
    refine ⟨as ++ bs, attempts.append attempts', ?_, ?_⟩
    · have both := counts.append counts'
      rwa [Nat.add_comm 1] at both
    · rw [List.flatMap_append, List.flatMap_cons, hdata, hdata']

/-- What a download on a connection has kept, of all attempts that it made. -/
structure Kept (c : Connection) (as late : List Attempt) (w w' : World Connection) : Prop where
  attempts : Attempts c (as ++ late) w'.net
  chunks : w'.stats.chunks = w.stats.chunks + as.countP (fun a => a.answered)
  retries : w'.stats.retries = w.stats.retries + (as ++ late).countP fun a => !a.answered

/-- Whatever the stream brings, the bytes that a download adds to what was there are those of the
blocks received for its answered attempts, in this order; when it gives up, nothing that was
received for the last chunk is kept. -/
theorem download_provenance {w : World Connection}
    (size : platform.asUsize w.stats.totalBytes.toNat = totalSize)
    (begins : beginning savePath w.files (plan platform savePath totalSize w.files) =
      some (offset, contents)) (turns : Nat) :
    let run := ((wireJob platform config objectHandle savePath
      downloadConfig).downloadObjectWithResume turns).run w
    (∀ w', run = .ok (some ()) w' → ∃ as, Kept w.net as [] w w' ∧
      w'.files savePath = some (contents ++ as.flatMap Attempt.data)) ∧
    ∀ e w', run = .error e w' → ∃ as late, Kept w.net as late w w' ∧
      w'.files (getTempPath savePath) = some (contents ++ as.flatMap Attempt.data) := by
  have hends : TransferRun (wireJob platform config objectHandle savePath downloadConfig) totalSize
      offset contents w (((wireJob platform config objectHandle savePath
        downloadConfig).downloadObjectWithResume turns).run w) := download_ends size begins turns
  refine ⟨fun w' hrun => ?_, fun e w' hrun => ?_⟩
  · rw [hrun] at hends
    cases hends with
    | delivered answered assembled =>
      obtain ⟨as, attempts, counts, hdata⟩ := answers_attempts answered
      refine ⟨as, ⟨?_, ?_, ?_⟩, ?_⟩
      · rw [List.append_nil, assembled.net]
        exact attempts
      · rw [assembled.chunks, counts.answered]
      · rw [List.append_nil, assembled.retries, counts.failed]
      · rw [hdata]
        exact assembled.target
  · rw [hrun] at hends
    cases hends with
    | @givenUp answers reached net stop _ _ answered more stops left =>
      obtain ⟨as, attempts, counts, hdata⟩ := answers_attempts answered
      have hlast : ∃ late, Attempts net late stop.net ∧
          late.countP (fun a => !a.answered) = stop.refusals (wireJob platform config objectHandle
            savePath downloadConfig) := by
        cases stops with
        | refused refused =>
          obtain ⟨mid, before, h⟩ := refused
          obtain ⟨late, attempts', counts', -⟩ := refused_attempts before
          obtain ⟨ps, u, run, left, before', ids⟩ := getPartialObject_failed h
          refine ⟨_, attempts'.append (.failed run left before' ids (.nothing _)), ?_⟩
          rw [List.countP_append, counts'.failed]
          rfl
        | wrongLength comes =>
          obtain ⟨late, attempts', counts', -⟩ := answered_attempts comes.answered
          exact ⟨late, attempts', counts'.failed⟩
      obtain ⟨late, attempts', hlate⟩ := hlast
      refine ⟨as, late, ⟨?_, ?_, ?_⟩, ?_⟩
      · rw [left.net]
        exact attempts.append attempts'
      · rw [left.chunks, counts.answered]
      · rw [left.retries, List.countP_append, counts.failed, hlate, Nat.add_assoc]
      · rw [hdata]
        exact left.temp

/-- The three bytes of an object come from its attempts. -/
theorem download_provenance_three :
    ∃ c w', ((wireJob .bits64 ⟨30, 3⟩ 5 ⟨[], some [97]⟩
        ⟨2, 1, fun _ => []⟩).downloadObjectWithResume 3).run (World.start (fun _ => none) c 3) =
          .ok (some ()) w' ∧
      ∃ as, Kept c as [] (World.start (fun _ => none) c 3) w' ∧
        w'.files ⟨[], some [97]⟩ = some ([] ++ as.flatMap Attempt.data) := by
  have begins : beginning ⟨[], some [97]⟩ (fun _ => none)
      (plan .bits64 ⟨[], some [97]⟩ 3 fun _ => none) = some (0, []) := rfl
  obtain ⟨c, answers, d, -, answered, -, hrefusals, -⟩ := photo_answers threeByteShot_serves
    (servingCamera_conveys (threeByteShot.deliveries UInt32.ofNat ++ []))
  have few : answers.length < 3 := by
    have hlengths := congrArg List.length hrefusals
    rw [List.length_map] at hlengths
    rw [hlengths]
    decide
  obtain ⟨w', hrun, -⟩ := download_delivers (w := World.start (fun _ => none) c 3) rfl begins
    answered few
  exact ⟨c, w', hrun, (download_provenance rfl begins 3).1 w' hrun⟩

end downloads

end DownloadProvenance
