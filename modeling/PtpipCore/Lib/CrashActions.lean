import PtpipCore.Lib.Effects

/-!
# Actions that a crash can interrupt

An action is a fallible step on a state, together with the states in which a
crash during it can leave things. What holds after it and after every crash is
shown backwards, one rule for each way of putting actions together.
-/

namespace CrashActions

open Effects
open EStateM (Result)

/-- A crash can strike before the first effect and after the last one. -/
structure Action (σ ε α : Type) where
  run : EStateM ε σ α
  crash : σ → σ → Prop
  crash_start : ∀ s, crash s s
  crash_end : ∀ s, crash s (endState (run s))

variable {σ τ ε α β : Type}

namespace Action

/-- One effect that a crash cannot cut in two. -/
def atomic (op : EStateM ε σ α) : Action σ ε α where
  run := op
  crash s u := u = s ∨ u = endState (op s)
  crash_start _ := Or.inl rfl
  crash_end _ := Or.inr rfl

def bind (m : Action σ ε α) (f : α → Action σ ε β) : Action σ ε β where
  run := m.run >>= fun a => (f a).run
  crash s u := m.crash s u ∨ ∃ a t, m.run s = .ok a t ∧ (f a).crash t u
  crash_start s := Or.inl (m.crash_start s)
  crash_end s := by
    have hend := m.crash_end s
    cases h : m.run s with
    | ok a t =>
      rw [bind_ok h]
      exact Or.inr ⟨a, t, rfl, (f a).crash_end t⟩
    | error e t =>
      rw [h] at hend
      rw [bind_error h]
      exact Or.inl hend

instance : Monad (Action σ ε) where
  pure a := atomic (pure a)
  bind := bind

lemma run_bind_ok {m : Action σ ε α} {f : α → Action σ ε β} {s t : σ} {a : α}
    (h : m.run s = .ok a t) : (m >>= f).run s = (f a).run t := bind_ok h

lemma run_bind_error {m : Action σ ε α} {f : α → Action σ ε β} {s t : σ} {e : ε}
    (h : m.run s = .error e t) : (m >>= f).run s = .error e t := bind_error h

def fail (e : ε) : Action σ ε α := atomic (throw e)

/-- Hand an error back as a value. -/
def attempt (m : Action σ ε α) : Action σ ε (Except ε α) where
  run := Effects.attempt m.run
  crash := m.crash
  crash_start := m.crash_start
  crash_end := m.crash_end

end Action

/-- An action on a part of the state. -/
def Action.within (part : Part σ τ) (m : Action τ ε α) : Action σ ε α where
  run := part.run m.run
  crash s u := ∃ t, m.crash (part.get s) t ∧ u = part.set t s
  crash_start s := ⟨part.get s, m.crash_start _, (part.set_get s).symm⟩
  crash_end s := ⟨_, m.crash_end (part.get s), part.endState_lift s _⟩

/-- What holds when an action returns, when it fails and when it is cut by a crash. -/
structure Post (σ ε α : Type) where
  returns : α → σ → Prop
  fails : ε → σ → Prop
  crashes : σ → Prop

def Post.ends (post : Post σ ε α) : Result ε σ α → Prop
  | .ok a t => post.returns a t
  | .error e t => post.fails e t

structure Ensures (m : Action σ ε α) (s : σ) (post : Post σ ε α) : Prop where
  ends : post.ends (m.run s)
  crashes : ∀ u, m.crash s u → post.crashes u

section rules

variable {s : σ}

lemma ensures_atomic {op : EStateM ε σ α} {post : Post σ ε α} (start : post.crashes s)
    (ends : post.ends (op s)) (crashed : post.crashes (endState (op s))) :
    Ensures (Action.atomic op) s post := by
  refine ⟨ends, ?_⟩
  rintro u (rfl | rfl)
  · exact start
  · exact crashed

lemma ensures_atomic_ok {op : EStateM ε σ α} {post : Post σ ε α} {a : α} {t : σ}
    (h : op s = .ok a t) (start : post.crashes s) (crashed : post.crashes t)
    (returned : post.returns a t) : Ensures (Action.atomic op) s post := by
  apply ensures_atomic start <;> (rw [h]; assumption)

lemma ensures_atomic_error {op : EStateM ε σ α} {post : Post σ ε α} {e : ε} {t : σ}
    (h : op s = .error e t) (start : post.crashes s) (crashed : post.crashes t)
    (failed : post.fails e t) : Ensures (Action.atomic op) s post := by
  apply ensures_atomic start <;> (rw [h]; assumption)

lemma ensures_pure {a : α} {post : Post σ ε α} (crashed : post.crashes s)
    (returned : post.returns a s) : Ensures (pure a) s post :=
  ensures_atomic crashed returned crashed

lemma ensures_fail {e : ε} {post : Post σ ε α} (crashed : post.crashes s)
    (failed : post.fails e s) : Ensures (Action.fail e) s post :=
  ensures_atomic crashed failed crashed

/-- What the second action needs is what the first one has to return with. -/
lemma ensures_bind {m : Action σ ε α} {f : α → Action σ ε β} {post : Post σ ε β}
    (h : Ensures m s ⟨fun a t => Ensures (f a) t post, post.fails, post.crashes⟩) :
    Ensures (m >>= f) s post := by
  have hends := h.ends
  constructor
  · change post.ends ((m.run >>= fun a => (f a).run) s)
    cases hrun : m.run s with
    | ok a t =>
      rw [hrun] at hends
      rw [bind_ok hrun]
      exact hends.ends
    | error e t =>
      rw [hrun] at hends
      rw [bind_error hrun]
      exact hends
  · rintro u (hfirst | ⟨a, t, hrun, hsecond⟩)
    · exact h.crashes u hfirst
    · rw [hrun] at hends
      exact hends.crashes u hsecond

lemma ensures_attempt {m : Action σ ε α} {post : Post σ ε (Except ε α)}
    (h : Ensures m s ⟨fun a => post.returns (.ok a), fun e => post.returns (.error e),
      post.crashes⟩) : Ensures m.attempt s post := by
  have hends := h.ends
  refine ⟨?_, h.crashes⟩
  change post.ends (Effects.attempt m.run s)
  unfold Effects.attempt
  cases hrun : m.run s <;> (rw [hrun] at hends; exact hends)

lemma ensures_within {part : Part σ τ} {m : Action τ ε α} {post : Post σ ε α}
    (h : Ensures m (part.get s) ⟨fun a t => post.returns a (part.set t s),
      fun e t => post.fails e (part.set t s), fun t => post.crashes (part.set t s)⟩) :
    Ensures (m.within part) s post := by
  have hends := h.ends
  constructor
  · change post.ends (part.lift s (m.run (part.get s)))
    cases hrun : m.run (part.get s) <;> (rw [hrun] at hends; exact hends)
  · rintro u ⟨t, hcrash, rfl⟩
    exact h.crashes t hcrash

lemma Ensures.mono {m : Action σ ε α} {post post' : Post σ ε α} (h : Ensures m s post)
    (returns : ∀ a t, post.returns a t → post'.returns a t)
    (fails : ∀ e t, post.fails e t → post'.fails e t)
    (crashes : ∀ u, post.crashes u → post'.crashes u) : Ensures m s post' := by
  have hends := h.ends
  refine ⟨?_, fun u hu => crashes u (h.crashes u hu)⟩
  cases hrun : m.run s with
  | ok a t =>
    rw [hrun] at hends
    exact returns a t hends
  | error e t =>
    rw [hrun] at hends
    exact fails e t hends

/-- Without its crashes an action is its outcome. -/
lemma Ensures.outcome {m : Action σ ε α} {Q : Result ε σ α → Prop}
    (h : Ensures m s ⟨fun a t => Q (.ok a t), fun e t => Q (.error e t), fun _ => True⟩) :
    Q (m.run s) := by
  have hends := h.ends
  cases hrun : m.run s <;> (rw [hrun] at hends; exact hends)

lemma ensures_of_outcome {m : Action σ ε α} {post : Post σ ε α} (ends : post.ends (m.run s))
    (crashes : ∀ u, post.crashes u) : Ensures m s post :=
  ⟨ends, fun u _ => crashes u⟩

section outcomes

variable {m : Action σ ε α} {post : Post σ ε α} (h : Ensures m s post)

include h

lemma Ensures.returned {a : α} {t : σ} (run : m.run s = .ok a t) : post.returns a t := by
  have hends := h.ends
  rw [run] at hends
  exact hends

lemma Ensures.failed {e : ε} {t : σ} (run : m.run s = .error e t) : post.fails e t := by
  have hends := h.ends
  rw [run] at hends
  exact hends

lemma Ensures.answer_ok {a : α} (isOk : answer (m.run s) = .ok a) :
    post.returns a (endState (m.run s)) := by
  cases hrun : m.run s with
  | ok b t =>
    rw [hrun] at isOk
    cases isOk
    exact h.returned hrun
  | error e t =>
    rw [hrun] at isOk
    cases isOk

lemma Ensures.answer_error {e : ε} (isError : answer (m.run s) = .error e) :
    post.fails e (endState (m.run s)) := by
  cases hrun : m.run s with
  | ok a t =>
    rw [hrun] at isError
    cases isError
  | error e' t =>
    rw [hrun] at isError
    cases isError
    exact h.failed hrun

/-- An action that cannot fail returns. -/
lemma Ensures.returns_of_not_fails (sure : ∀ e t, ¬ post.fails e t) :
    ∃ a t, m.run s = .ok a t ∧ post.returns a t := by
  cases hrun : m.run s with
  | ok a t => exact ⟨a, t, rfl, h.returned hrun⟩
  | error e t => exact absurd (h.failed hrun) (sure e t)

end outcomes

end rules

end CrashActions
