import PtpipCore.FrameRoundTrip
import PtpipCore.Lib.Writes

/-!
# What a retried send puts on the stream

Every attempt starts again from the header on the same stream, so the bytes that
failed attempts got out stay in front of the packet. The script of write
answers is the input here: it says for every call how it ends.
-/

namespace SendRetry

open Effects ByteStream Types Transport FrameRoundTrip Writes
open EStateM (Result)

/-- The buffers of one attempt; the flush stands as an empty one. -/
def buffers (p : PtpIpPacket) : List Bytes :=
  (headerOf p).toBytes :: ((if p.payload = [] then [] else [p.payload]) ++ [[]])

lemma buffers_flatten (p : PtpIpPacket) : (buffers p).flatten = encoding p := by
  by_cases hp : p.payload = [] <;> simp [buffers, encoding, hp]

lemma sendPacket_eq_writeEach (p : PtpIpPacket) : sendPacket p = writeEach (buffers p) := by
  have hflush : (flush : Send Unit) = writeEach [[]] := by
    funext s
    rw [← writeAll_nil_eq_flush]
    cases h : (writeAll [] : Send Unit) s with
    | ok a t => exact (bind_ok h).symm
    | error e t => exact (bind_error h).symm
  unfold sendPacket buffers
  by_cases hp : p.payload = []
  · simp only [hp, ne_eq, not_true, if_false, if_true, List.nil_append, hflush]
    rfl
  · simp only [hp, ne_eq, not_false_eq_true, if_true, if_false, hflush]
    rfl

lemma attempt_accepted {p : PtpIpPacket} {w : Bytes} {rest : List WriteOutcome}
    (accepted : Accepts (buffers p).length rest) :
    attempt (sendPacket p) ⟨w, rest⟩ =
      .ok (.ok ()) ⟨w ++ encoding p, rest.drop (buffers p).length⟩ := by
  rw [attempt, sendPacket_eq_writeEach, writeEach_accepts accepted, buffers_flatten]
  rfl

lemma attempt_failed {p : PtpIpPacket} {f : Fault} (within : f.before < (buffers p).length)
    (w : Bytes) (rest : List WriteOutcome) :
    attempt (sendPacket p) ⟨w, f.answers ++ rest⟩ =
      .ok (.error (FromIo.fromIo f.kind)) ⟨w ++ f.fragment (buffers p), rest⟩ := by
  rw [attempt, sendPacket_eq_writeEach, writeEach_fault within]
  rfl

/-- Failed attempts leave their fragments, the first accepted one its encoding. -/
lemma sendPacketRetrying_accepted (config : SessionConfig) {p : PtpIpPacket}
    {faults : List Fault} {rest : List WriteOutcome}
    (within : ∀ f ∈ faults, f.before < (buffers p).length)
    (accepted : Accepts (buffers p).length rest) {left : Nat}
    (enough : faults.length ≤ left) (w : Bytes) :
    sendPacketRetrying p config left ⟨w, faults.flatMap Fault.answers ++ rest⟩ =
      .ok () ⟨w ++ faults.flatMap (Fault.fragment · (buffers p)) ++ encoding p,
        rest.drop (buffers p).length⟩ := by
  induction faults generalizing left w with
  | nil =>
    simp only [List.flatMap_nil, List.nil_append, List.append_nil]
    cases left with
    | zero => exact bind_ok (attempt_accepted accepted)
    | succ left => exact bind_ok (attempt_accepted accepted)
  | cons f faults ih =>
    obtain ⟨left, rfl⟩ : ∃ n, left = n + 1 :=
      ⟨left - 1, by simp only [List.length_cons] at enough; omega⟩
    rw [List.flatMap_cons, List.flatMap_cons, List.append_assoc, sendPacketRetrying,
      bind_ok (attempt_failed (within f List.mem_cons_self) w _)]
    have hrest := ih (fun g hg => within g (List.mem_cons_of_mem f hg))
      (Nat.le_of_succ_le_succ enough) (w ++ f.fragment (buffers p))
    simpa only [List.append_assoc] using hrest

/-- A stream that accepts the writes of one attempt gets one encoding. -/
lemma sendPacketWithRetry_accepted (config : SessionConfig) {p : PtpIpPacket}
    {outcomes : List WriteOutcome} (accepted : Accepts (buffers p).length outcomes) (w : Bytes) :
    sendPacketWithRetry p config ⟨w, outcomes⟩ =
      .ok () ⟨w ++ encoding p, outcomes.drop (buffers p).length⟩ := by
  have hfaults : ∀ f ∈ ([] : List Fault), f.before < (buffers p).length :=
    fun f hf => absurd hf List.not_mem_nil
  have hrun := sendPacketRetrying_accepted config hfaults accepted (Nat.zero_le config.maxRetries) w
  simpa [sendPacketWithRetry] using hrun

/-- With one failure more than retries the send gives up. -/
lemma sendPacketRetrying_exhausted (config : SessionConfig) {p : PtpIpPacket}
    {faults : List Fault} (rest : List WriteOutcome)
    (within : ∀ f ∈ faults, f.before < (buffers p).length) {left : Nat}
    (tooMany : faults.length = left + 1) (w : Bytes) :
    ∃ e written, sendPacketRetrying p config left ⟨w, faults.flatMap Fault.answers ++ rest⟩ =
      .error e ⟨written, rest⟩ := by
  induction faults generalizing left w with
  | nil => cases tooMany
  | cons f faults ih =>
    have hsend := attempt_failed (within f List.mem_cons_self) w
      (faults.flatMap Fault.answers ++ rest)
    rw [List.flatMap_cons, List.append_assoc]
    cases left with
    | zero =>
      obtain rfl : faults = [] := List.eq_nil_of_length_eq_zero (Nat.succ.inj tooMany)
      exact ⟨_, _, bind_ok hsend⟩
    | succ left =>
      rw [sendPacketRetrying, bind_ok hsend]
      exact ih (fun g hg => within g (List.mem_cons_of_mem f hg))
        (Nat.succ.inj tooMany) (w ++ f.fragment (buffers p))

/-- However a send ends, some byte got out or some answer was used up. -/
lemma sendPacketWithRetry_moves (p : PtpIpPacket) (config : SessionConfig) (s : Sink) :
    endState (sendPacketWithRetry p config s) ≠ s := by
  obtain ⟨w, outcomes⟩ := s
  have hencoding : 0 < (encoding p).length := by
    simp [encoding, PtpIpHeader.toBytes]
  obtain ⟨faults, rest, split, hend⟩ :=
    split_attempts (buffers p).length config.maxRetries outcomes
  have houtcomes := split.answers
  intro unmoved
  rcases hend with ⟨enough, accepted⟩ | tooMany
  · have hrun := sendPacketRetrying_accepted config split.within accepted enough w
    rw [← houtcomes] at hrun
    rw [sendPacketWithRetry, hrun, endState_ok] at unmoved
    have hwritten := congrArg (fun s => s.written.length) unmoved
    simp only [List.length_append] at hwritten
    omega
  · obtain ⟨e, written, hrun⟩ := sendPacketRetrying_exhausted config rest split.within tooMany w
    rw [← houtcomes] at hrun
    rw [sendPacketWithRetry, hrun, endState_error] at unmoved
    have hleft := congrArg (fun s => s.outcomes.length) unmoved
    obtain ⟨f, faults, rfl⟩ := List.exists_cons_of_length_eq_add_one tooMany
    simp only [houtcomes, List.flatMap_cons, List.length_append, Fault.answers,
      List.length_replicate, List.length_cons, List.length_nil] at hleft
    omega

/-- The attempt failed in its first write, before any byte was out. -/
def Silent (f : Fault) : Prop := f.before = 0 ∧ f.wrote = 0

lemma fragment_eq_nil_iff {p : PtpIpPacket} {f : Fault} :
    f.fragment (buffers p) = [] ↔ Silent f := by
  have hheader : (headerOf p).toBytes ≠ [] := by
    simp [PtpIpHeader.toBytes, bigEndian]
  obtain ⟨before, wrote, kind⟩ := f
  cases before with
  | zero => simp [Fault.fragment, buffers, Silent, hheader]
  | succ before => simp [Fault.fragment, buffers, Silent, hheader]

/-- If some attempt within the retries is accepted, no attempt before it got a byte out. -/
def FailuresSilent (p : PtpIpPacket) (config : SessionConfig)
    (outcomes : List WriteOutcome) : Prop :=
  ∀ faults rest, Split (buffers p).length outcomes faults rest →
    Accepts (buffers p).length rest → faults.length ≤ config.maxRetries →
    ∀ f ∈ faults, Silent f

/-- A retried send that succeeds has put exactly one encoding on the stream if and only
if every attempt that failed before it had failed silently. -/
theorem send_packet_with_retry_once_iff (p : PtpIpPacket) (config : SessionConfig)
    (s : Sink) :
    (answer (sendPacketWithRetry p config s) = .ok () →
      (endState (sendPacketWithRetry p config s)).written = s.written ++ encoding p) ↔
    FailuresSilent p config s.outcomes := by
  obtain ⟨w, outcomes⟩ := s
  constructor
  · rintro once faults rest ⟨within, rfl⟩ accepted enough f hf
    have hrun := sendPacketRetrying_accepted config within accepted enough w
    have hwritten := once (by rw [sendPacketWithRetry, hrun]; rfl)
    rw [sendPacketWithRetry, hrun] at hwritten
    have hfragments : faults.flatMap (Fault.fragment · (buffers p)) = [] := by
      simpa only [endState_ok, List.append_assoc, List.append_cancel_left_eq,
        List.append_left_eq_self] using hwritten
    exact fragment_eq_nil_iff.mp (List.flatMap_eq_nil_iff.mp hfragments f hf)
  · intro silent isOk
    obtain ⟨faults, rest, split, hend⟩ :=
      split_attempts (buffers p).length config.maxRetries outcomes
    rcases hend with ⟨enough, accepted⟩ | tooMany
    · have hfragments : faults.flatMap (Fault.fragment · (buffers p)) = [] :=
        List.flatMap_eq_nil_iff.mpr fun f hf =>
          fragment_eq_nil_iff.mpr (silent faults rest split accepted enough f hf)
      rw [split.answers, sendPacketWithRetry,
        sendPacketRetrying_accepted config split.within accepted enough, hfragments]
      simp
    · obtain ⟨e, t, hrun⟩ := sendPacketRetrying_exhausted config rest split.within
        tooMany w
      rw [split.answers, sendPacketWithRetry, hrun] at isOk
      cases isOk

/-- The payload write times out after one byte; header and payload are then sent again. -/
theorem send_packet_with_retry_duplicates :
    answer (sendPacketWithRetry ⟨.dataBlock, 7, [1, 2]⟩ ⟨30, 3⟩
      ⟨[], [.done, .failed 1 .timedOut]⟩) = .ok () ∧
    (endState (sendPacketWithRetry ⟨.dataBlock, 7, [1, 2]⟩ ⟨30, 3⟩
      ⟨[], [.done, .failed 1 .timedOut]⟩)).written ≠ encoding ⟨.dataBlock, 7, [1, 2]⟩ := by
  decide

end SendRetry
