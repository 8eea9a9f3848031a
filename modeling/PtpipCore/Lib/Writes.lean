import PtpipCore.Lib.ByteStream

/-!
# Several writes in a row, and what a failed one leaves behind

A writer hands its buffers over one by one and stops at the first failure. The
answers of the operating system to come split into the failures of successive
attempts, and the answers left when no attempt fails any more.
-/

namespace Writes

open Effects ByteStream
open EStateM (Result)

variable {ε : Type} [FromIo ε]

/-- Buffer after buffer, up to the first failure. -/
def writeEach : List Bytes → EStateM ε Sink Unit
  | [] => pure ()
  | buf :: bufs => do
    writeAll buf
    writeEach bufs

/-- A failed attempt: the calls that were done, and the bytes that the failing one
still put out. -/
structure Fault where
  before : Nat
  wrote : Nat
  kind : ErrorKind
  deriving DecidableEq, Repr

def Fault.answers (f : Fault) : List WriteOutcome :=
  List.replicate f.before .done ++ [.failed f.wrote f.kind]

/-- What the attempt leaves on the stream. -/
def Fault.fragment (f : Fault) (bufs : List Bytes) : Bytes :=
  (bufs.take f.before).flatten ++ (bufs.getD f.before []).take f.wrote

/-- The next calls are all done; calls that have no answer yet are done too. -/
def Accepts (calls : Nat) (outcomes : List WriteOutcome) : Prop :=
  ∀ o ∈ outcomes.take calls, o = .done

instance (calls : Nat) (outcomes : List WriteOutcome) : Decidable (Accepts calls outcomes) :=
  inferInstanceAs (Decidable (∀ o ∈ outcomes.take calls, o = .done))

lemma accepts_nil (calls : Nat) : Accepts calls [] := by
  intro o ho
  rw [List.take_nil] at ho
  exact absurd ho List.not_mem_nil

lemma accepts_of_done {outcomes : List WriteOutcome} (done : ∀ o ∈ outcomes, o = .done)
    (calls : Nat) : Accepts calls outcomes :=
  fun o ho => done o (List.mem_of_mem_take ho)

lemma writeAll_nil_eq_flush : (writeAll [] : EStateM ε Sink Unit) = flush := by
  funext s
  obtain ⟨w, outcomes⟩ := s
  cases outcomes with
  | nil => simp [writeAll, flush]
  | cons o rest => cases o <;> simp [writeAll, flush]

lemma writeEach_accepts {bufs : List Bytes} {s : Sink}
    (h : Accepts bufs.length s.outcomes) :
    (writeEach bufs : EStateM ε Sink Unit) s =
      .ok () ⟨s.written ++ bufs.flatten, s.outcomes.drop bufs.length⟩ := by
  induction bufs generalizing s with
  | nil => simp [writeEach]; rfl
  | cons buf bufs ih =>
    obtain ⟨w, outcomes⟩ := s
    cases outcomes with
    | nil =>
      have hdone : (writeAll buf : EStateM ε Sink Unit) ⟨w, []⟩ = .ok () ⟨w ++ buf, []⟩ := rfl
      rw [writeEach, bind_ok hdone, ih (accepts_nil _)]
      simp
    | cons o rest =>
      obtain ⟨rfl, hrest⟩ : o = .done ∧ Accepts bufs.length rest := by
        simpa [Accepts] using h
      have hdone : (writeAll buf : EStateM ε Sink Unit) ⟨w, .done :: rest⟩ =
          .ok () ⟨w ++ buf, rest⟩ := rfl
      rw [writeEach, bind_ok hdone, ih hrest]
      simp

lemma writeEach_fault {bufs : List Bytes} {f : Fault} (h : f.before < bufs.length)
    (w : Bytes) (rest : List WriteOutcome) :
    (writeEach bufs : EStateM ε Sink Unit) ⟨w, f.answers ++ rest⟩ =
      .error (FromIo.fromIo f.kind) ⟨w ++ f.fragment bufs, rest⟩ := by
  obtain ⟨before, wrote, kind⟩ := f
  induction bufs generalizing before w with
  | nil => exact absurd h (Nat.not_lt_zero _)
  | cons buf bufs ih =>
    cases before with
    | zero =>
      have hfailed : (writeAll buf : EStateM ε Sink Unit) ⟨w, .failed wrote kind :: rest⟩ =
          .error (FromIo.fromIo kind) ⟨w ++ buf.take wrote, rest⟩ := rfl
      exact bind_error hfailed
    | succ before =>
      have hdone : (writeAll buf : EStateM ε Sink Unit)
          ⟨w, (Fault.mk (before + 1) wrote kind).answers ++ rest⟩ =
          .ok () ⟨w ++ buf, (Fault.mk before wrote kind).answers ++ rest⟩ := rfl
      rw [writeEach, bind_ok hdone, ih _ before (Nat.lt_of_succ_lt_succ h)]
      simp [Fault.fragment]

/-- Among the next calls either none fails or there is a first one that does. -/
lemma accepts_or_fault (calls : Nat) (outcomes : List WriteOutcome) :
    Accepts calls outcomes ∨
    ∃ (f : Fault) (rest : List WriteOutcome),
      f.before < calls ∧ outcomes = f.answers ++ rest := by
  induction calls generalizing outcomes with
  | zero => left; simp [Accepts]
  | succ calls ih =>
    cases outcomes with
    | nil => left; simp [Accepts]
    | cons o outcomes =>
      cases o with
      | failed wrote kind =>
        exact Or.inr ⟨⟨0, wrote, kind⟩, outcomes, Nat.succ_pos _, rfl⟩
      | done =>
        rcases ih outcomes with haccepts | ⟨f, rest, hf, rfl⟩
        · left
          simpa [Accepts] using haccepts
        · exact Or.inr ⟨⟨f.before + 1, f.wrote, f.kind⟩, rest, Nat.succ_lt_succ hf, rfl⟩

/-- The answers of attempts that all fail, and the answers that are left after them. -/
structure Split (calls : Nat) (outcomes : List WriteOutcome) (faults : List Fault)
    (rest : List WriteOutcome) : Prop where
  within : ∀ f ∈ faults, f.before < calls
  answers : outcomes = faults.flatMap Fault.answers ++ rest

/-- Within any number of attempts, either one is accepted or they all fail. -/
lemma split_attempts (calls left : Nat) (outcomes : List WriteOutcome) :
    ∃ faults rest, Split calls outcomes faults rest ∧
      (faults.length ≤ left ∧ Accepts calls rest ∨ faults.length = left + 1) := by
  induction left generalizing outcomes with
  | zero =>
    rcases accepts_or_fault calls outcomes with haccepts | ⟨f, rest, hf, rfl⟩
    · exact ⟨[], outcomes, ⟨by simp, rfl⟩, Or.inl ⟨Nat.le_refl _, haccepts⟩⟩
    · exact ⟨[f], rest, ⟨by simpa using hf, by simp⟩, Or.inr rfl⟩
  | succ left ih =>
    rcases accepts_or_fault calls outcomes with haccepts | ⟨f, outcomes, hf, rfl⟩
    · exact ⟨[], outcomes, ⟨by simp, rfl⟩, Or.inl ⟨Nat.zero_le _, haccepts⟩⟩
    · obtain ⟨faults, rest, hsplit, hend⟩ := ih outcomes
      refine ⟨f :: faults, rest, ⟨?_, ?_⟩, ?_⟩
      · simpa using ⟨hf, hsplit.within⟩
      · rw [hsplit.answers, List.flatMap_cons, List.append_assoc]
      · simpa only [List.length_cons, Nat.add_le_add_iff_right, Nat.add_right_cancel_iff]
          using hend

end Writes
