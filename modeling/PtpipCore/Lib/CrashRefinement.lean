import PtpipCore.Lib.CrashActions
import PtpipCore.Lib.Refinement

/-!
# Actions on two levels

An action refines another one if from related states they say the same and leave related states
behind, and whatever a crash can leave of the first one is related to something that a crash can
leave of the second. So a refinement is also one of everything that can be found after a crash.
-/

namespace CrashRefinement

open Effects CrashActions Refinement
open EStateM (Result)

variable {σ σ' τ τ' ρ ε ε' α β : Type}

structure Refines (R : σ → τ → Prop) (m : Action σ ε α) (m' : Action τ ε α) : Prop where
  run : Simulates R m.run m'.run
  crash : ∀ s t, R s t → ∀ u, m.crash s u → ∃ v, m'.crash t v ∧ R u v

variable {R : σ → τ → Prop} {m : Action σ ε α} {m' : Action τ ε α}

section rules

lemma refines_atomic {op : EStateM ε σ α} {op' : EStateM ε τ α} (h : Simulates R op op') :
    Refines R (.atomic op) (.atomic op') where
  run := h
  crash s t states u := by
    rintro (rfl | rfl)
    · exact ⟨t, Or.inl rfl, states⟩
    · exact ⟨_, Or.inr rfl, (h s t states).endState⟩

lemma refines_pure (a : α) :
    Refines R (pure a : Action σ ε α) (pure a : Action τ ε α) :=
  refines_atomic (simulates_pure a)

lemma refines_fail (e : ε) :
    Refines R (.fail e : Action σ ε α) (.fail e : Action τ ε α) :=
  refines_atomic fun _ _ states => .error e states

lemma refines_bind {f : α → Action σ ε β} {f' : α → Action τ ε β} (hm : Refines R m m')
    (hf : ∀ a, Refines R (f a) (f' a)) : Refines R (m >>= f) (m' >>= f') where
  run := simulates_bind hm.run fun a => (hf a).run
  crash s t states u := by
    rintro (hcrash | ⟨a, w, hrun, hcrash⟩)
    · obtain ⟨v, hcrash', states'⟩ := hm.crash s t states u hcrash
      exact ⟨v, Or.inl hcrash', states'⟩
    · -- the crash is in the second action, which begins in related states
      have hfirst := hm.run s t states
      rw [hrun] at hfirst
      obtain ⟨w', hrun', between⟩ := hfirst.ok_left
      obtain ⟨v, hcrash', states'⟩ := (hf a).crash w w' between u hcrash
      exact ⟨v, Or.inr ⟨a, w', hrun', hcrash'⟩, states'⟩

lemma refines_attempt (hm : Refines R m m') : Refines R m.attempt m'.attempt where
  run := simulates_attempt hm.run
  crash := hm.crash

lemma refines_ite {c : Prop} [Decidable c] {n : Action σ ε α} {n' : Action τ ε α}
    (yes : c → Refines R m m') (no : ¬ c → Refines R n n') :
    Refines R (if c then m else n) (if c then m' else n') := by
  by_cases h : c
  · rw [if_pos h, if_pos h]
    exact yes h
  · rw [if_neg h, if_neg h]
    exact no h

/-- An action on a part that is the same on both levels. -/
lemma refines_within {part : Part σ ρ} {part' : Part τ ρ}
    (get : ∀ s t, R s t → part.get s = part'.get t)
    (set : ∀ s t r, R s t → R (part.set r s) (part'.set r t)) (act : Action ρ ε α) :
    Refines R (act.within part) (act.within part') where
  run s t states := by
    change Related R (part.lift s (act.run (part.get s))) (part'.lift t (act.run (part'.get t)))
    rw [get s t states]
    cases act.run (part'.get t) with
    | ok a r => exact .ok a (set s t r states)
    | error e r => exact .error e (set s t r states)
  crash s t states u := by
    rintro ⟨r, hcrash, rfl⟩
    exact ⟨_, ⟨r, get s t states ▸ hcrash, rfl⟩, set s t r states⟩

end rules

section inside

/-- An outcome with what it leaves of its state. -/
def leaving (leave : σ' → σ) (convert : ε → ε') : Result ε σ' α → Result ε' σ α
  | .ok a u => .ok a (leave u)
  | .error e u => .error (convert e) (leave u)

/-- An action in a state that is made for it, of which it leaves something behind. -/
def inside (enter : σ → σ') (leave : σ' → σ) (undone : ∀ s, leave (enter s) = s)
    (convert : ε → ε') (act : Action σ' ε α) : Action σ ε' α where
  run s := leaving leave convert (act.run (enter s))
  crash s u := ∃ v, act.crash (enter s) v ∧ u = leave v
  crash_start s := ⟨enter s, act.crash_start _, (undone s).symm⟩
  crash_end s := by
    refine ⟨_, act.crash_end (enter s), ?_⟩
    cases act.run (enter s) <;> rfl

variable {enter : σ → σ'} {leave : σ' → σ} {enter' : τ → τ'} {leave' : τ' → τ}
  {undone : ∀ s, leave (enter s) = s} {undone' : ∀ t, leave' (enter' t) = t} {Q : σ' → τ' → Prop}
  {act : Action σ' ε α} {act' : Action τ' ε α}

lemma related_leaving (left : ∀ u v, Q u v → R (leave u) (leave' v)) (convert : ε → ε')
    {r : Result ε σ' α} {r' : Result ε τ' α} (related : Related Q r r') :
    Related R (leaving leave convert r) (leaving leave' convert r') := by
  cases related with
  | ok a states => exact .ok a (left _ _ states)
  | error e states => exact .error (convert e) (left _ _ states)

lemma refines_inside (entered : ∀ s t, R s t → Q (enter s) (enter' t))
    (left : ∀ u v, Q u v → R (leave u) (leave' v)) (convert : ε → ε')
    (refines : Refines Q act act') :
    Refines R (inside enter leave undone convert act) (inside enter' leave' undone' convert act')
    where
  run s t states := related_leaving left convert (refines.run _ _ (entered s t states))
  crash s t states u := by
    rintro ⟨v, hcrash, rfl⟩
    obtain ⟨v', hcrash', states'⟩ := refines.crash _ _ (entered s t states) v hcrash
    exact ⟨_, ⟨v', hcrash', rfl⟩, left v v' states'⟩

end inside

end CrashRefinement
