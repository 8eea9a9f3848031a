import PtpipCore.Lib.CrashActions

/-!
# Actions whose operations can go wrong

An operation that goes wrong reports an error and leaves what a crash during it could have left.
So an action has many outcomes, and a flawless run is one of them. An action that stops at the
first error ends where a crash ends; one that goes on after an error need not.
-/

namespace FaultyActions

open Effects CrashActions
open EStateM (Result)

variable {σ τ ε α β : Type}

structure Faulty (σ ε α : Type) where
  flawless : Action σ ε α
  ends : σ → Result ε σ α → Prop
  crash : σ → σ → Prop
  ends_run : ∀ s, ends s (flawless.run s)
  crash_flawless : ∀ s u, flawless.crash s u → crash s u
  crash_ends : ∀ s r, ends s r → crash s (endState r)

namespace Faulty

/-- What cannot go wrong in other ways than its own. -/
def sure (act : Action σ ε α) : Faulty σ ε α where
  flawless := act
  ends s r := r = act.run s
  crash := act.crash
  ends_run _ := rfl
  crash_flawless _ _ h := h
  crash_ends s _ h := h ▸ act.crash_end s

/-- An operation that reports any error when it goes wrong. -/
def risky [FromIo ε] (act : Action σ ε α) : Faulty σ ε α where
  flawless := act
  ends s r := r = act.run s ∨ ∃ kind u, act.crash s u ∧ r = .error (FromIo.fromIo kind) u
  crash := act.crash
  ends_run _ := Or.inl rfl
  crash_flawless _ _ h := h
  crash_ends s r := by
    rintro (rfl | ⟨kind, u, hcrash, rfl⟩)
    · exact act.crash_end s
    · exact hcrash

/-- A test that says no when it goes wrong, which it can if it is blind. -/
def test (blind : Prop) (act : Action σ ε Bool) : Faulty σ ε Bool where
  flawless := act
  ends s r := r = act.run s ∨ blind ∧ r = .ok false s
  crash := act.crash
  ends_run _ := Or.inl rfl
  crash_flawless _ _ h := h
  crash_ends s r := by
    rintro (rfl | ⟨-, rfl⟩)
    · exact act.crash_end s
    · exact act.crash_start s

def bind (m : Faulty σ ε α) (f : α → Faulty σ ε β) : Faulty σ ε β where
  flawless := m.flawless >>= fun a => (f a).flawless
  ends s r := (∃ a t, m.ends s (.ok a t) ∧ (f a).ends t r) ∨
    ∃ e t, m.ends s (.error e t) ∧ r = .error e t
  crash s u := m.crash s u ∨ ∃ a t, m.ends s (.ok a t) ∧ (f a).crash t u
  ends_run s := by
    have hends := m.ends_run s
    cases hrun : m.flawless.run s with
    | ok a t =>
      rw [hrun] at hends
      rw [Action.run_bind_ok hrun]
      exact Or.inl ⟨a, t, hends, (f a).ends_run t⟩
    | error e t =>
      rw [hrun] at hends
      rw [Action.run_bind_error hrun]
      exact Or.inr ⟨e, t, hends, rfl⟩
  crash_flawless s u := by
    rintro (hcrash | ⟨a, t, hrun, hcrash⟩)
    · exact Or.inl (m.crash_flawless s u hcrash)
    · exact Or.inr ⟨a, t, hrun ▸ m.ends_run s, (f a).crash_flawless t u hcrash⟩
  crash_ends s r := by
    rintro (⟨a, t, hends, hnext⟩ | ⟨e, t, hends, rfl⟩)
    · exact Or.inr ⟨a, t, hends, (f a).crash_ends t r hnext⟩
    · exact Or.inl (m.crash_ends s _ hends)

instance : Monad (Faulty σ ε) where
  pure a := sure (pure a)
  bind := bind

/-- Hand an error back as a value. -/
def attempt (m : Faulty σ ε α) : Faulty σ ε (Except ε α) where
  flawless := m.flawless.attempt
  ends s r := ∃ q, m.ends s q ∧ r = .ok (answer q) (endState q)
  crash := m.crash
  ends_run s := ⟨_, m.ends_run s, rfl⟩
  crash_flawless := m.crash_flawless
  crash_ends s r := by
    rintro ⟨q, hends, rfl⟩
    exact m.crash_ends s q hends

/-- An action on a part of the state. -/
def within (part : Part σ τ) (m : Faulty τ ε α) : Faulty σ ε α where
  flawless := m.flawless.within part
  ends s r := ∃ q, m.ends (part.get s) q ∧ r = part.lift s q
  crash s u := ∃ t, m.crash (part.get s) t ∧ u = part.set t s
  ends_run s := ⟨_, m.ends_run _, rfl⟩
  crash_flawless s u := by
    rintro ⟨t, hcrash, rfl⟩
    exact ⟨t, m.crash_flawless _ t hcrash, rfl⟩
  crash_ends s r := by
    rintro ⟨q, hends, rfl⟩
    exact ⟨_, m.crash_ends _ q hends, part.endState_lift s q⟩

end Faulty

section flawless

lemma flawless_bind (m : Faulty σ ε α) (f : α → Faulty σ ε β) :
    (m >>= f).flawless = m.flawless >>= fun a => (f a).flawless := rfl

lemma flawless_run_ok {m : Faulty σ ε α} {f : α → Faulty σ ε β} {s t : σ} {a : α}
    (h : m.flawless.run s = .ok a t) : (m >>= f).flawless.run s = (f a).flawless.run t := by
  rw [flawless_bind]
  exact Action.run_bind_ok h

lemma flawless_run_error {m : Faulty σ ε α} {f : α → Faulty σ ε β} {s t : σ} {e : ε}
    (h : m.flawless.run s = .error e t) : (m >>= f).flawless.run s = .error e t := by
  rw [flawless_bind]
  exact Action.run_bind_error h

lemma flawless_ite {c : Prop} [Decidable c] (m n : Faulty σ ε α) :
    (if c then m else n).flawless = if c then m.flawless else n.flawless := by
  split <;> rfl

end flawless

section ensuring

/-- What holds however an action ends and wherever it is cut by a crash. -/
structure Withstands (m : Faulty σ ε α) (s : σ) (post : Post σ ε α) : Prop where
  ends : ∀ r, m.ends s r → post.ends r
  crashes : ∀ u, m.crash s u → post.crashes u

variable {s : σ} {m : Faulty σ ε α} {post : Post σ ε α}

lemma withstands_sure {act : Action σ ε α} (h : Ensures act s post) :
    Withstands (.sure act) s post := by
  constructor
  · rintro r rfl
    exact h.ends
  · exact h.crashes

lemma withstands_risky [FromIo ε] {act : Action σ ε α} (h : Ensures act s post)
    (failed : ∀ e u, post.crashes u → post.fails e u) : Withstands (.risky act) s post := by
  constructor
  · rintro r (rfl | ⟨kind, u, hcrash, rfl⟩)
    · exact h.ends
    · exact failed _ u (h.crashes u hcrash)
  · exact h.crashes

lemma withstands_test {blind : Prop} {act : Action σ ε Bool} {post : Post σ ε Bool}
    (h : Ensures act s post) (missed : blind → post.returns false s) :
    Withstands (.test blind act) s post := by
  constructor
  · rintro r (rfl | ⟨isBlind, rfl⟩)
    · exact h.ends
    · exact missed isBlind
  · exact h.crashes

lemma withstands_bind {f : α → Faulty σ ε β} {post : Post σ ε β}
    (h : Withstands m s ⟨fun a t => Withstands (f a) t post, post.fails, post.crashes⟩) :
    Withstands (m >>= f) s post := by
  constructor
  · rintro r (⟨a, t, hends, hnext⟩ | ⟨e, t, hends, rfl⟩)
    · exact (h.ends _ hends).ends r hnext
    · exact h.ends _ hends
  · rintro u (hcrash | ⟨a, t, hends, hcrash⟩)
    · exact h.crashes u hcrash
    · exact (h.ends _ hends).crashes u hcrash

lemma withstands_within {part : Part σ τ} {m : Faulty τ ε α}
    (h : Withstands m (part.get s) ⟨fun a t => post.returns a (part.set t s),
      fun e t => post.fails e (part.set t s), fun t => post.crashes (part.set t s)⟩) :
    Withstands (m.within part) s post := by
  constructor
  · rintro r ⟨q, hends, rfl⟩
    have hpost := h.ends q hends
    cases q <;> exact hpost
  · rintro u ⟨t, hcrash, rfl⟩
    exact h.crashes t hcrash

lemma Withstands.mono {post' : Post σ ε α} (h : Withstands m s post)
    (returns : ∀ a t, post.returns a t → post'.returns a t)
    (fails : ∀ e t, post.fails e t → post'.fails e t)
    (crashes : ∀ u, post.crashes u → post'.crashes u) : Withstands m s post' := by
  refine ⟨fun r hr => ?_, fun u hu => crashes u (h.crashes u hu)⟩
  have hends := h.ends r hr
  cases r with
  | ok a t => exact returns a t hends
  | error e t => exact fails e t hends

end ensuring

section stopping

/-- An action that stops at the first thing that goes wrong. -/
structure Stops (m : Faulty σ ε α) : Prop where
  ends : ∀ s r, m.ends s r →
    r = m.flawless.run s ∨ ∃ e u, r = .error e u ∧ m.flawless.crash s u
  crash : ∀ s u, m.crash s u → m.flawless.crash s u

lemma Stops.returned {m : Faulty σ ε α} (stops : Stops m) {s t : σ} {a : α}
    (h : m.ends s (.ok a t)) : m.flawless.run s = .ok a t := by
  rcases stops.ends s _ h with hrun | ⟨e, u, hfail, -⟩
  · exact hrun.symm
  · cases hfail

lemma stops_sure (act : Action σ ε α) : Stops (.sure act) where
  ends _ _ h := Or.inl h
  crash _ _ h := h

lemma stops_risky [FromIo ε] (act : Action σ ε α) : Stops (.risky act) where
  ends s r := by
    rintro (rfl | ⟨kind, u, hcrash, rfl⟩)
    · exact Or.inl rfl
    · exact Or.inr ⟨_, u, rfl, hcrash⟩
  crash _ _ h := h

lemma stops_test {blind : Prop} (sighted : ¬ blind) (act : Action σ ε Bool) :
    Stops (.test blind act) where
  ends s r := by
    rintro (rfl | ⟨isBlind, -⟩)
    · exact Or.inl rfl
    · exact absurd isBlind sighted
  crash _ _ h := h

lemma stops_bind {m : Faulty σ ε α} {f : α → Faulty σ ε β} (hm : Stops m)
    (hf : ∀ a, Stops (f a)) : Stops (m >>= f) where
  ends s r := by
    rintro (⟨a, t, hends, hnext⟩ | ⟨e, t, hends, rfl⟩)
    · have hrun := hm.returned hends
      rcases (hf a).ends t r hnext with hend | ⟨e, u, rfl, hcrash⟩
      · exact Or.inl (hend.trans (flawless_run_ok hrun).symm)
      · exact Or.inr ⟨e, u, rfl, Or.inr ⟨a, t, hrun, hcrash⟩⟩
    · rcases hm.ends s _ hends with hrun | ⟨e', u, heq, hcrash⟩
      · exact Or.inl (flawless_run_error hrun.symm).symm
      · cases heq
        exact Or.inr ⟨e, t, rfl, Or.inl hcrash⟩
  crash s u := by
    rintro (hcrash | ⟨a, t, hends, hcrash⟩)
    · exact Or.inl (hm.crash s u hcrash)
    · exact Or.inr ⟨a, t, hm.returned hends, (hf a).crash t u hcrash⟩

lemma stops_ite {c : Prop} [Decidable c] {m n : Faulty σ ε α} (yes : c → Stops m)
    (no : ¬ c → Stops n) : Stops (if c then m else n) := by
  by_cases h : c
  · rw [if_pos h]
    exact yes h
  · rw [if_neg h]
    exact no h

lemma stops_within {part : Part σ τ} {m : Faulty τ ε α} (hm : Stops m) :
    Stops (m.within part) where
  ends s r := by
    rintro ⟨q, hends, rfl⟩
    rcases hm.ends _ q hends with rfl | ⟨e, u, rfl, hcrash⟩
    · exact Or.inl rfl
    · exact Or.inr ⟨e, _, rfl, u, hcrash, rfl⟩
  crash s u := by
    rintro ⟨t, hcrash, rfl⟩
    exact ⟨t, hm.crash _ t hcrash, rfl⟩

/-- What an action that stops ensures when nothing goes wrong, it does when something does. -/
lemma withstands_stops {m : Faulty σ ε α} {s : σ} {post : Post σ ε α} (stops : Stops m)
    (h : Ensures m.flawless s post) (failed : ∀ e u, post.crashes u → post.fails e u) :
    Withstands m s post := by
  constructor
  · intro r hends
    rcases stops.ends s r hends with rfl | ⟨e, u, rfl, hcrash⟩
    · exact h.ends
    · exact failed e u (h.crashes u hcrash)
  · exact fun u hcrash => h.crashes u (stops.crash s u hcrash)

end stopping

section likeness

variable {ρ : Type}

/-- As far as the view goes, a crash finds nothing that it could not find of a flawless run; and
what is returned, a flawless run returns, in a state that is much the same. -/
structure Masks (view : σ → ρ) (same : σ → σ → Prop) (m : Faulty σ ε α) : Prop where
  ends : ∀ s a u, m.ends s (.ok a u) → ∃ v, m.flawless.run s = .ok a v ∧ same v u
  crash : ∀ s u, m.crash s u → ∃ v, m.flawless.crash s v ∧ view v = view u

variable {view : σ → ρ} {same : σ → σ → Prop} {m : Faulty σ ε α}

lemma masks_stops (refl : ∀ s, same s s) (stops : Stops m) : Masks view same m where
  ends _ _ u h := ⟨u, stops.returned h, refl u⟩
  crash s u h := ⟨u, stops.crash s u h, rfl⟩

lemma masks_bind {f : α → Faulty σ ε β} (hm : Stops m) (hf : ∀ a, Masks view same (f a)) :
    Masks view same (m >>= f) where
  ends s b u := by
    rintro (⟨a, t, hends, hnext⟩ | ⟨e, t, -, hfail⟩)
    · obtain ⟨v, hrun, hsame⟩ := (hf a).ends t b u hnext
      exact ⟨v, (flawless_run_ok (hm.returned hends)).trans hrun, hsame⟩
    · cases hfail
  crash s u := by
    rintro (hcrash | ⟨a, t, hends, hcrash⟩)
    · exact ⟨u, Or.inl (hm.crash s u hcrash), rfl⟩
    · obtain ⟨v, hcrash', hview⟩ := (hf a).crash t u hcrash
      exact ⟨v, Or.inr ⟨a, t, hm.returned hends, hcrash'⟩, hview⟩

lemma masks_return (hm : Masks view same m) (f : α → β) :
    Masks view same (do let a ← m; return f a) where
  ends s b u := by
    rintro (⟨a, t, hends, hreturn⟩ | ⟨e, t, -, hfail⟩)
    · cases hreturn
      obtain ⟨v, hrun, hsame⟩ := hm.ends s a u hends
      exact ⟨v, flawless_run_ok hrun, hsame⟩
    · cases hfail
  crash s u := by
    have unreturned : ∀ u, m.crash s u →
        ∃ v, (do let a ← m; return f a : Faulty σ ε β).flawless.crash s v ∧ view v = view u := by
      intro u hcrash
      obtain ⟨v, hcrash', hview⟩ := hm.crash s u hcrash
      exact ⟨v, Or.inl hcrash', hview⟩
    rintro (hcrash | ⟨a, t, hends, rfl | rfl⟩)
    · exact unreturned u hcrash
    · exact unreturned _ (m.crash_ends s _ hends)
    · exact unreturned _ (m.crash_ends s _ hends)

/-- What is ensured of a flawless run up to that. -/
lemma Masks.withstands (masks : Masks view same m) {s : σ} {post post' : Post σ ε α}
    (h : Ensures m.flawless s post)
    (returns : ∀ a v u, post.returns a v → same v u → post'.returns a u)
    (crashes : ∀ v u, post.crashes v → view v = view u → post'.crashes u)
    (failed : ∀ e u, post'.crashes u → post'.fails e u) : Withstands m s post' := by
  have hcrashes : ∀ u, m.crash s u → post'.crashes u := by
    intro u hcrash
    obtain ⟨v, hcrash', hview⟩ := masks.crash s u hcrash
    exact crashes v u (h.crashes v hcrash') hview
  refine ⟨fun r hends => ?_, hcrashes⟩
  cases r with
  | ok a u =>
    obtain ⟨v, hrun, hsame⟩ := masks.ends s a u hends
    exact returns a v u (h.returned hrun) hsame
  | error e u => exact failed e u (hcrashes u (m.crash_ends s _ hends))

end likeness

end FaultyActions
