import Mathlib.Tactic.Common

/-!
# Fallible steps on a state, and loops that shrink it

Support for translating code that reads and changes a state and may fail: the
state reached so far survives an error. A `loop {}` with `continue` and `break`
is one definition, total because every turn that continues shrinks a measure;
its unfolding equation is the only fact its users need. A history is what
operations find that are carried out one after the other.
-/

namespace Effects

open EStateM (Result)

/-- The kinds of input and output error the operating system reports. -/
inductive ErrorKind where
  | notFound
  | unexpectedEof
  | invalidData
  | wouldBlock
  | timedOut
  | other
  deriving DecidableEq, Repr

/-- Error types into which an operating system error is converted by `?`. -/
class FromIo (ε : Type) where
  fromIo : ErrorKind → ε

instance : FromIo ErrorKind := ⟨id⟩

variable {σ ε α β : Type}

/-- The state in which a step ends, whether it succeeded or not. -/
def endState : Result ε σ α → σ
  | .ok _ s => s
  | .error _ s => s

@[simp] lemma endState_ok (a : α) (s : σ) : endState (.ok a s : Result ε σ α) = s := rfl

@[simp] lemma endState_error (e : ε) (s : σ) :
    endState (.error e s : Result ε σ α) = s := rfl

/-- The value or the error of a step, without its state. -/
def answer : Result ε σ α → Except ε α
  | .ok a _ => .ok a
  | .error e _ => .error e

@[simp] lemma answer_ok (a : α) (s : σ) : answer (.ok a s : Result ε σ α) = .ok a := rfl

@[simp] lemma answer_error (e : ε) (s : σ) :
    answer (.error e s : Result ε σ α) = .error e := rfl

lemma answer_eq_ok_iff {r : Result ε σ α} {a : α} : answer r = .ok a ↔ ∃ s, r = .ok a s := by
  cases r <;> simp

lemma eq_ok_of_answer {r : Result ε σ α} {a : α} (h : answer r = .ok a) :
    r = .ok a (endState r) := by
  cases r with
  | ok b s =>
    cases h
    rfl
  | error e s => cases h

/-- Run a step and hand its error back as a value. -/
def attempt (m : EStateM ε σ α) : EStateM ε σ (Except ε α) := fun s =>
  .ok (answer (m s)) (endState (m s))

lemma attempt_ok {m : EStateM ε σ α} {s t : σ} {a : α} (h : attempt m s = .ok (.ok a) t) :
    m s = .ok a t := by
  unfold attempt at h
  cases hm : m s <;> (rw [hm] at h; cases h)
  rfl

/-- A part of a state that can be read and replaced. -/
structure Part (σ τ : Type) where
  get : σ → τ
  set : τ → σ → σ
  set_get : ∀ s, set (get s) s = s

section parts

variable {τ : Type} (part : Part σ τ)

/-- The outcome of a step on a part, as a step on the whole. -/
def Part.lift (s : σ) : Result ε τ α → Result ε σ α
  | .ok a t => .ok a (part.set t s)
  | .error e t => .error e (part.set t s)

def Part.run (m : EStateM ε τ α) : EStateM ε σ α := fun s => part.lift s (m (part.get s))

lemma Part.endState_lift (s : σ) (r : Result ε τ α) :
    endState (part.lift s r) = part.set (endState r) s := by
  cases r <;> rfl

lemma Part.run_ok {m : EStateM ε τ α} {s : σ} {a : α} {t : τ} (h : m (part.get s) = .ok a t) :
    part.run m s = .ok a (part.set t s) := by
  rw [Part.run, h]
  rfl

lemma Part.run_error {m : EStateM ε τ α} {s : σ} {e : ε} {t : τ}
    (h : m (part.get s) = .error e t) : part.run m s = .error e (part.set t s) := by
  rw [Part.run, h]
  rfl

end parts

section bind

variable {m : EStateM ε σ α} {f : α → EStateM ε σ β} {s t : σ}

lemma bind_ok {a : α} (h : m s = .ok a t) : (m >>= f) s = f a t := by
  change EStateM.bind m f s = f a t
  simp only [EStateM.bind, h]

lemma bind_error {e : ε} (h : m s = .error e t) : (m >>= f) s = .error e t := by
  change EStateM.bind m f s = .error e t
  simp only [EStateM.bind, h]

/-- A sequence that succeeds is two steps that succeed. -/
lemma bind_eq_ok_iff {b : β} {u : σ} :
    (m >>= f) s = .ok b u ↔ ∃ a t, m s = .ok a t ∧ f a t = .ok b u := by
  cases hm : m s with
  | ok a t =>
    rw [bind_ok hm]
    constructor
    · exact fun h => ⟨a, t, rfl, h⟩
    · rintro ⟨a', t', heq, h⟩
      cases heq
      exact h
  | error e t =>
    rw [bind_error hm]
    constructor
    · intro h; cases h
    · rintro ⟨a', t', heq, _⟩; cases heq

lemma pure_eq_ok_iff {a b : α} : (pure a : EStateM ε σ α) s = .ok b t ↔ a = b ∧ s = t := by
  constructor
  · intro h
    cases h
    exact ⟨rfl, rfl⟩
  · rintro ⟨rfl, rfl⟩
    rfl

lemma ofExcept_bind_eq_ok_iff {r : Except ε α} {b : β} :
    ((ofExcept r : EStateM ε σ α) >>= f) s = .ok b t ↔ ∃ a, r = .ok a ∧ f a s = .ok b t := by
  cases r with
  | ok a =>
    rw [bind_ok (m := ofExcept (.ok a)) rfl]
    simp
  | error e =>
    rw [bind_error (m := ofExcept (.error e)) rfl]
    simp

/-- What the second step keeps is what the first one left. -/
lemma bind_keeps {γ : Type} (part : σ → γ) (keeps : ∀ a u, part (endState (f a u)) = part u)
    (s : σ) : part (endState ((m >>= f) s)) = part (endState (m s)) := by
  cases hm : m s with
  | ok a t => rw [bind_ok hm, keeps, endState_ok]
  | error e t => rw [bind_error hm, endState_error, endState_error]

end bind

lemma endState_ofExcept (r : Except ε α) (s : σ) :
    endState ((ofExcept r : EStateM ε σ α) s) = s := by
  cases r <;> rfl

/-- `for _ in 0..n` with the values of all turns collected. -/
def repeated (m : EStateM ε σ α) : Nat → EStateM ε σ (List α)
  | 0 => pure []
  | n + 1 => do
    let a ← m
    let rest ← repeated m n
    return a :: rest

/-- What the turn with a number preserves, up to the next number, the turns of
`for k in start..start + n` preserve. -/
lemma foldlM_range'_induct {f : β → Nat → EStateM ε σ β} {P : Nat → β → σ → Prop}
    {Q : Result ε σ β → Prop} {start n : Nat}
    (goOn : ∀ k b s b' s', k < start + n → P k b s → f b k s = .ok b' s' → P (k + 1) b' s')
    (fail : ∀ k b s e s', P k b s → f b k s = .error e s' → Q (.error e s'))
    (stop : ∀ b s, P (start + n) b s → Q (.ok b s))
    {b : β} {s : σ} (h : P start b s) : Q ((List.range' start n).foldlM f b s) := by
  induction n generalizing start b s with
  | zero => exact stop b s h
  | succ n ih =>
    have hnext : start + (n + 1) = start + 1 + n := by omega
    rw [List.range'_succ, List.foldlM_cons]
    cases hturn : f b start s with
    | ok b' s' =>
      rw [bind_ok hturn]
      exact ih (hnext ▸ goOn) (hnext ▸ stop) (goOn start b s b' s' (by omega) h hturn)
    | error e s' =>
      rw [bind_error hturn]
      exact fail start b s e s' h hturn

section loop

variable (size : σ → Nat) (body : β → EStateM ε σ (β ⊕ α))

/-- Every turn that goes on leaves a smaller state behind. -/
def Shrinks : Prop :=
  ∀ b s b' s', body b s = .ok (.inl b') s' → size s' < size s

variable {size body}

/-- `loop {}`: the body goes on with `inl` and breaks with `inr`. -/
def loop (shrinks : Shrinks size body) (b : β) (s : σ) : Result ε σ α :=
  match _h : body b s with
  | .ok (.inl b') s' => loop shrinks b' s'
  | .ok (.inr a) s' => .ok a s'
  | .error e s' => .error e s'
termination_by size s
decreasing_by exact shrinks b s b' s' _h

lemma loop_continue {shrinks : Shrinks size body} {b b' : β} {s s' : σ}
    (h : body b s = .ok (.inl b') s') : loop shrinks b s = loop shrinks b' s' := by
  rw [loop]
  split <;> simp_all

lemma loop_break {shrinks : Shrinks size body} {b : β} {s s' : σ} {a : α}
    (h : body b s = .ok (.inr a) s') : loop shrinks b s = .ok a s' := by
  rw [loop]
  split <;> simp_all

lemma loop_error {shrinks : Shrinks size body} {b : β} {s s' : σ} {e : ε}
    (h : body b s = .error e s') : loop shrinks b s = .error e s' := by
  rw [loop]
  split <;> simp_all

/-- What one turn preserves, the whole loop preserves up to its last turn. -/
lemma loop_induct (shrinks : Shrinks size body) {P : β → σ → Prop}
    {Q : Result ε σ α → Prop}
    (goOn : ∀ b s b' s', P b s → body b s = .ok (.inl b') s' → P b' s')
    (stop : ∀ b s a s', P b s → body b s = .ok (.inr a) s' → Q (.ok a s'))
    (fail : ∀ b s e s', P b s → body b s = .error e s' → Q (.error e s'))
    (b : β) (s : σ) (start : P b s) : Q (loop shrinks b s) := by
  induction hn : size s using Nat.strongRecOn generalizing b s with
  | ind n ih =>
    cases h : body b s with
    | ok r s' =>
      cases r with
      | inl b' =>
        rw [loop_continue h]
        exact ih (size s') (hn ▸ shrinks b s b' s' h) b' s' (goOn b s b' s' start h) rfl
      | inr a =>
        rw [loop_break h]
        exact stop b s a s' start h
    | error e s' =>
      rw [loop_error h]
      exact fail b s e s' start h

/-- A loop whose last turn shrinks the state too ends in a smaller state. -/
lemma loop_ok_size (shrinks : Shrinks size body)
    (stop : ∀ b s a s', body b s = .ok (.inr a) s' → size s' < size s)
    {b : β} {s s' : σ} {a : α} (h : loop shrinks b s = .ok a s') : size s' < size s := by
  refine loop_induct shrinks (P := fun _ t => size t ≤ size s)
    (Q := fun r => ∀ a t, r = .ok a t → size t < size s) ?_ ?_ ?_ b s (Nat.le_refl _) a s' h
  · intro b t b' t' ht hturn
    exact Nat.le_trans (Nat.le_of_lt (shrinks b t b' t' hturn)) ht
  · intro b t a t' ht hturn a' u heq
    cases heq
    exact Nat.lt_of_lt_of_le (stop b t a t' hturn) ht
  · intro b t e t' _ _ a u heq
    cases heq

end loop

section failing

/-- If a run ended with an error, it has the property. -/
def ErrorIs (P : ε → Prop) (r : Result ε σ α) : Prop := ∀ e t, r = .error e t → P e

/-- Whatever error the step ends with has the property. -/
def FailsOnly (P : ε → Prop) (m : EStateM ε σ α) : Prop := ∀ s e t, m s = .error e t → P e

variable {P : ε → Prop}

lemma errorIs_ok (a : α) (s : σ) : ErrorIs P (.ok a s : Result ε σ α) := by
  intro e t h
  cases h

lemma errorIs_error_iff {e : ε} {s : σ} : ErrorIs P (.error e s : Result ε σ α) ↔ P e := by
  constructor
  · exact fun h => h e s rfl
  · intro h e' t heq
    cases heq
    exact h

lemma answer_errors_iff {r : Result ε σ α} : (∀ e, answer r = .error e → P e) ↔ ErrorIs P r := by
  cases r with
  | ok a s => exact iff_of_true (fun e h => by cases h) (errorIs_ok a s)
  | error e s =>
    rw [errorIs_error_iff]
    constructor
    · exact fun h => h e rfl
    · intro h e' heq
      cases heq
      exact h

/-- Of a value that is already there, and the rest of the sequence if it is no error. -/
lemma ofExcept_errorIs_bind_iff {r : Except ε α} {f : α → EStateM ε σ β} {s : σ} :
    ErrorIs P (((ofExcept r : EStateM ε σ α) >>= f) s) ↔
      (∀ e, r = .error e → P e) ∧ ∀ a, r = .ok a → ErrorIs P (f a s) := by
  cases r with
  | ok a =>
    rw [bind_ok (m := ofExcept (.ok a)) rfl]
    simp
  | error e =>
    rw [bind_error (m := ofExcept (.error e)) rfl, errorIs_error_iff]
    simp

lemma failsOnly_pure (a : α) : FailsOnly P (pure a : EStateM ε σ α) := by
  intro s e t h
  cases h

lemma failsOnly_throw {e : ε} (h : P e) : FailsOnly P (throw e : EStateM ε σ α) := by
  intro s e' t heq
  cases heq
  exact h

lemma failsOnly_bind {m : EStateM ε σ α} {f : α → EStateM ε σ β} (hm : FailsOnly P m)
    (hf : ∀ s a t, m s = .ok a t → FailsOnly P (f a)) : FailsOnly P (m >>= f) := by
  intro s e u h
  cases hfirst : m s with
  | ok a t =>
    rw [bind_ok hfirst] at h
    exact hf s a t hfirst t e u h
  | error e' t =>
    rw [bind_error hfirst] at h
    cases h
    exact hm s _ _ hfirst

lemma failsOnly_repeated {m : EStateM ε σ α} (hm : FailsOnly P m) (n : Nat) :
    FailsOnly P (repeated m n) := by
  induction n with
  | zero => exact failsOnly_pure []
  | succ n ih =>
    exact failsOnly_bind hm fun _ _ _ _ => failsOnly_bind ih fun _ _ _ _ => failsOnly_pure _

lemma failsOnly_attempt (m : EStateM ε σ α) : FailsOnly P (attempt m) := by
  intro s e t h
  cases h

lemma failsOnly_loop {size : σ → Nat} {body : β → EStateM ε σ (β ⊕ α)}
    (shrinks : Shrinks size body) (hbody : ∀ b, FailsOnly P (body b)) (b : β) :
    FailsOnly P (loop shrinks b) := by
  intro s e t h
  refine loop_induct shrinks (P := fun _ _ => True) (Q := fun r => ∀ e t, r = .error e t → P e)
    (fun _ _ _ _ _ _ => trivial) ?_ ?_ b s trivial e t h
  · intro b s a s' _ _ e t heq
    cases heq
  · intro b s e s' _ hturn e' t heq
    cases heq
    exact hbody b s e s' hturn

end failing

section histories

variable {ι : Type*} (next : σ → ι → σ)

/-- The operations of a list, each with the state it finds. -/
def history : σ → List ι → List (σ × ι)
  | _, [] => []
  | s, op :: ops => (s, op) :: history (next s op) ops

variable {next}

/-- What an operation preserves if it goes as supposed, holds before every operation of a
history that goes as supposed, and after the last one. -/
lemma history_induct {I : σ → Prop} {supposed : σ × ι → Prop}
    (step : ∀ s op, I s → supposed (s, op) → I (next s op)) {s : σ} {ops : List ι} (start : I s)
    (all : ∀ x ∈ history next s ops, supposed x) :
    (∀ x ∈ history next s ops, I x.1) ∧ I (ops.foldl next s) := by
  induction ops generalizing s with
  | nil => exact ⟨fun x hx => absurd hx List.not_mem_nil, start⟩
  | cons op ops ih =>
    obtain ⟨hfirst, hrest⟩ := List.forall_mem_cons.mp all
    obtain ⟨hbefore, hafter⟩ := ih (step s op start hfirst) hrest
    exact ⟨List.forall_mem_cons.mpr ⟨start, hbefore⟩, hafter⟩

end histories

section consuming

variable {γ : Type}

/-- Successful or not, the step only takes items off the front of its stream. -/
def Consumes (m : EStateM ε (List γ) α) : Prop := ∀ s, endState (m s) <:+ s

lemma consumes_pure (a : α) : Consumes (pure a : EStateM ε (List γ) α) :=
  fun s => List.suffix_refl s

lemma consumes_throw (e : ε) : Consumes (throw e : EStateM ε (List γ) α) :=
  fun s => List.suffix_refl s

/-- What the first step leaves has as a suffix what both of them leave. -/
lemma bind_leaves {m : EStateM ε (List γ) α} {f : α → EStateM ε (List γ) β} {s u : List γ}
    (hfirst : endState (m s) <:+ u) (hf : ∀ a, Consumes (f a)) : endState ((m >>= f) s) <:+ u := by
  cases h : m s with
  | ok a t =>
    rw [h] at hfirst
    rw [bind_ok h]
    exact (hf a t).trans hfirst
  | error e t =>
    rw [h] at hfirst
    rw [bind_error h]
    exact hfirst

lemma consumes_bind {m : EStateM ε (List γ) α} {f : α → EStateM ε (List γ) β}
    (hm : Consumes m) (hf : ∀ a, Consumes (f a)) : Consumes (m >>= f) :=
  fun s => bind_leaves (hm s) hf

lemma consumes_attempt {m : EStateM ε (List γ) α} (hm : Consumes m) :
    Consumes (attempt m) := hm

end consuming

end Effects
