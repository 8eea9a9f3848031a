import PtpipCore.Lib.Effects

/-!
# One step on two levels

Two steps on different states simulate one another when they say the same in related states and
leave related states behind. Sequences of such steps do so too, and so do steps on parts.
-/

namespace Refinement

open Effects
open EStateM (Result)

variable {σ τ ε ε' α β : Type}

/-- Two outcomes that say the same, in related states. -/
inductive Related (R : σ → τ → Prop) : Result ε σ α → Result ε τ α → Prop where
  | ok (a : α) {s : σ} {t : τ} (states : R s t) : Related R (.ok a s) (.ok a t)
  | error (e : ε) {s : σ} {t : τ} (states : R s t) : Related R (.error e s) (.error e t)

/-- From related states the two steps come to related outcomes. -/
def Simulates (R : σ → τ → Prop) (m : EStateM ε σ α) (m' : EStateM ε τ α) : Prop :=
  ∀ s t, R s t → Related R (m s) (m' t)

variable {R : σ → τ → Prop} {m : EStateM ε σ α} {m' : EStateM ε τ α}

section outcomes

variable {r : Result ε σ α} {r' : Result ε τ α}

lemma Related.answer (h : Related R r r') : answer r = answer r' := by
  cases h <;> rfl

lemma Related.endState (h : Related R r r') : R (endState r) (endState r') := by
  cases h with
  | ok a states => exact states
  | error e states => exact states

lemma Related.ok_left {a : α} {s : σ} (h : Related R (.ok a s) r') :
    ∃ t, r' = .ok a t ∧ R s t := by
  cases h with
  | ok a states => exact ⟨_, rfl, states⟩

lemma Related.ok_right {a : α} {t : τ} (h : Related R r (.ok a t)) :
    ∃ s, r = .ok a s ∧ R s t := by
  cases h with
  | ok a states => exact ⟨_, rfl, states⟩

lemma Related.error_left {e : ε} {s : σ} (h : Related R (.error e s) r') :
    ∃ t, r' = .error e t ∧ R s t := by
  cases h with
  | error e states => exact ⟨_, rfl, states⟩

lemma Related.error_right {e : ε} {t : τ} (h : Related R r (.error e t)) :
    ∃ s, r = .error e s ∧ R s t := by
  cases h with
  | error e states => exact ⟨_, rfl, states⟩

end outcomes

lemma Simulates.symm (h : Simulates R m m') : Simulates (flip R) m' m := by
  intro t s states
  have hstep := h s t states
  cases hs : m s with
  | ok a u =>
    rw [hs] at hstep
    obtain ⟨v, ht, states'⟩ := hstep.ok_left
    rw [ht]
    exact .ok a states'
  | error e u =>
    rw [hs] at hstep
    obtain ⟨v, ht, states'⟩ := hstep.error_left
    rw [ht]
    exact .error e states'

section rules

lemma simulates_pure (a : α) :
    Simulates R (pure a : EStateM ε σ α) (pure a : EStateM ε τ α) :=
  fun _ _ states => .ok a states

lemma simulates_ofExcept (r : Except ε α) :
    Simulates R (ofExcept r : EStateM ε σ α) (ofExcept r : EStateM ε τ α) := by
  intro s t states
  cases r with
  | ok a => exact .ok a states
  | error e => exact .error e states

lemma simulates_bind {f : α → EStateM ε σ β} {f' : α → EStateM ε τ β} (hm : Simulates R m m')
    (hf : ∀ a, Simulates R (f a) (f' a)) : Simulates R (m >>= f) (m' >>= f') := by
  intro s t states
  have hfirst := hm s t states
  cases hs : m s with
  | ok a u =>
    rw [hs] at hfirst
    obtain ⟨v, ht, states'⟩ := hfirst.ok_left
    rw [bind_ok hs, bind_ok ht]
    exact hf a u v states'
  | error e u =>
    rw [hs] at hfirst
    obtain ⟨v, ht, states'⟩ := hfirst.error_left
    rw [bind_error hs, bind_error ht]
    exact .error e states'

lemma simulates_attempt (hm : Simulates R m m') : Simulates R (attempt m) (attempt m') := by
  intro s t states
  have hstep := hm s t states
  unfold attempt
  rw [hstep.answer]
  exact .ok _ hstep.endState

lemma simulates_adaptExcept (convert : ε → ε') (hm : Simulates R m m') :
    Simulates R (m.adaptExcept convert) (m'.adaptExcept convert) := by
  intro s t states
  have hstep := hm s t states
  unfold EStateM.adaptExcept
  cases hs : m s with
  | ok a u =>
    rw [hs] at hstep
    obtain ⟨v, ht, states'⟩ := hstep.ok_left
    rw [ht]
    exact .ok a states'
  | error e u =>
    rw [hs] at hstep
    obtain ⟨v, ht, states'⟩ := hstep.error_left
    rw [ht]
    exact .error (convert e) states'

/-- Steps on parts that are related wherever the wholes are. -/
lemma simulates_parts {ρ ρ' : Type} {part : Part σ ρ} {part' : Part τ ρ'} {Q : ρ → ρ' → Prop}
    (get : ∀ s t, R s t → Q (part.get s) (part'.get t))
    (set : ∀ s t r r', R s t → Q r r' → R (part.set r s) (part'.set r' t))
    {m : EStateM ε ρ α} {m' : EStateM ε ρ' α} (hm : Simulates Q m m') :
    Simulates R (part.run m) (part'.run m') := by
  intro s t states
  have hstep := hm _ _ (get s t states)
  cases hs : m (part.get s) with
  | ok a u =>
    rw [hs] at hstep
    obtain ⟨v, ht, states'⟩ := hstep.ok_left
    rw [Part.run_ok part hs, Part.run_ok part' ht]
    exact .ok a (set s t u v states states')
  | error e u =>
    rw [hs] at hstep
    obtain ⟨v, ht, states'⟩ := hstep.error_left
    rw [Part.run_error part hs, Part.run_error part' ht]
    exact .error e (set s t u v states states')

end rules

end Refinement
