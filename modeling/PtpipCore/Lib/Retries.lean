import PtpipCore.Lib.Refinement

/-!
# Steps that are tried again

A step that fails is tried again, from the state that the failure left, so many times at most.
What this comes to is a number of refusals and an answer behind them, or one refusal too many.
-/

namespace Retries

open Effects Refinement
open EStateM (Result)

variable {σ τ ε α : Type}

/-- So many tries in a row fail. -/
inductive Refused (ask : EStateM ε σ α) : Nat → σ → σ → Prop where
  | never (s : σ) : Refused ask 0 s s
  | again {n : Nat} {s t u : σ} {e : ε} (refusal : ask s = .error e t)
      (rest : Refused ask n t u) : Refused ask (n + 1) s u

/-- The try behind so many refusals succeeds. -/
def AnsweredAfter (ask : EStateM ε σ α) (n : Nat) (s : σ) (a : α) (t : σ) : Prop :=
  ∃ u, Refused ask n s u ∧ ask u = .ok a t

/-- The try behind so many refusals is one more of them. -/
def RefusedAfter (ask : EStateM ε σ α) (n : Nat) (s : σ) (e : ε) (t : σ) : Prop :=
  ∃ u, Refused ask n s u ∧ ask u = .error e t

variable {ask : EStateM ε σ α}

lemma answeredAfter_zero {s t : σ} {a : α} (h : ask s = .ok a t) : AnsweredAfter ask 0 s a t :=
  ⟨s, .never s, h⟩

lemma AnsweredAfter.again {n : Nat} {s u t : σ} {e : ε} {a : α} (refusal : ask s = .error e u)
    (rest : AnsweredAfter ask n u a t) : AnsweredAfter ask (n + 1) s a t := by
  obtain ⟨v, refused, h⟩ := rest
  exact ⟨v, .again refusal refused, h⟩

lemma RefusedAfter.again {n : Nat} {s u t : σ} {e e' : ε} (refusal : ask s = .error e u)
    (rest : RefusedAfter ask n u e' t) : RefusedAfter ask (n + 1) s e' t := by
  obtain ⟨v, refused, h⟩ := rest
  exact ⟨v, .again refusal refused, h⟩

/-- An answer within the retries, or none of the tries succeeds. -/
lemma tried (ask : EStateM ε σ α) (left : Nat) (s : σ) :
    (∃ n a t, n ≤ left ∧ AnsweredAfter ask n s a t) ∨ ∃ e t, RefusedAfter ask left s e t := by
  induction left generalizing s with
  | zero =>
    cases h : ask s with
    | ok a t => exact Or.inl ⟨0, a, t, Nat.le_refl 0, answeredAfter_zero h⟩
    | error e t => exact Or.inr ⟨e, t, s, .never s, h⟩
  | succ left ih =>
    cases h : ask s with
    | ok a t => exact Or.inl ⟨0, a, t, Nat.zero_le _, answeredAfter_zero h⟩
    | error e u =>
      rcases ih u with ⟨n, a, t, hle, answered⟩ | ⟨e', t, refused⟩
      · exact Or.inl ⟨n + 1, a, t, Nat.succ_le_succ hle, answered.again h⟩
      · exact Or.inr ⟨e', t, refused.again h⟩

section patience

variable {P : σ → Prop} {left : σ → Nat} {n : Nat} {s t : σ}

/-- Where every refusal takes one of what is left, so many of them take as many. -/
lemma Refused.takes (refusals : ∀ s e t, ask s = .error e t → left t < left s)
    (refused : Refused ask n s t) : left t + n ≤ left s := by
  induction refused with
  | never s => exact Nat.le_refl _
  | again refusal rest ih =>
    have hstep := refusals _ _ _ refusal
    omega

/-- Where refusals can not go on forever, an answer comes. -/
theorem answered_eventually
    (refusals : ∀ s e t, P s → ask s = .error e t → P t ∧ left t < left s) (start : P s) :
    ∃ n u a t, Refused ask n s u ∧ P u ∧ left u + n ≤ left s ∧ ask u = .ok a t := by
  induction hleft : left s using Nat.strongRecOn generalizing s with
  | ind bound ih =>
    subst hleft
    cases hask : ask s with
    | ok a t => exact ⟨0, s, a, t, .never s, start, Nat.le_refl _, hask⟩
    | error e t =>
      obtain ⟨onwards, falls⟩ := refusals s e t start hask
      obtain ⟨n, u, a, v, refused, reached, hle, answered⟩ := ih (left t) falls onwards rfl
      exact ⟨n + 1, u, a, v, .again hask refused, reached, by omega, answered⟩

end patience

section simulation

variable {R : σ → τ → Prop} {ask' : EStateM ε τ α} {n : Nat} {s : σ} {t : τ}

lemma Refused.simulated (simulates : Simulates R ask ask') (states : R s t) {u : σ}
    (refused : Refused ask n s u) : ∃ v, Refused ask' n t v ∧ R u v := by
  induction refused generalizing t with
  | never s => exact ⟨t, .never t, states⟩
  | again refusal rest ih =>
    have hstep := simulates _ _ states
    rw [refusal] at hstep
    obtain ⟨v, refusal', states'⟩ := hstep.error_left
    obtain ⟨w, refused', states''⟩ := ih states'
    exact ⟨w, .again refusal' refused', states''⟩

lemma AnsweredAfter.simulated (simulates : Simulates R ask ask') (states : R s t) {a : α} {u : σ}
    (answered : AnsweredAfter ask n s a u) : ∃ v, AnsweredAfter ask' n t a v ∧ R u v := by
  obtain ⟨w, refused, h⟩ := answered
  obtain ⟨w', refused', states'⟩ := refused.simulated simulates states
  have hstep := simulates _ _ states'
  rw [h] at hstep
  obtain ⟨v, h', states''⟩ := hstep.ok_left
  exact ⟨v, ⟨w', refused', h'⟩, states''⟩

lemma RefusedAfter.simulated (simulates : Simulates R ask ask') (states : R s t) {e : ε} {u : σ}
    (refused : RefusedAfter ask n s e u) : ∃ v, RefusedAfter ask' n t e v ∧ R u v := by
  obtain ⟨w, before, h⟩ := refused
  obtain ⟨w', before', states'⟩ := before.simulated simulates states
  have hstep := simulates _ _ states'
  rw [h] at hstep
  obtain ⟨v, h', states''⟩ := hstep.error_left
  exact ⟨v, ⟨w', before', h'⟩, states''⟩

end simulation

end Retries
