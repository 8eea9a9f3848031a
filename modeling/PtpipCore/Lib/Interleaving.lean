import Mathlib.Logic.Function.Iterate
import Mathlib.Data.Set.Function

/-!
# Processes that take turns

Processes have a state of their own each and share a store of cells. In every turn one of them
goes on. If the cells that they use are apart, each of them comes to where it would have come
alone, whatever turns the others have had in between.
-/

namespace Interleaving

open Function (update)

variable {ι N V : Type} {ρ : ι → Type}

/-- A turn of a process: its own state, and the store. -/
abbrev Turn (N V ρ : Type) := ρ × (N → V) → ρ × (N → V)

/-- A turn, taken in states that the process can have, uses the cells of a region only. -/
structure Within {ρ : Type} (region : Set N) (inv : ρ → Prop) (turn : Turn N V ρ) : Prop where
  keeps : ∀ r s, inv r → inv (turn (r, s)).1
  reads : ∀ r s s', inv r → Set.EqOn s s' region → (turn (r, s)).1 = (turn (r, s')).1
  stores : ∀ r s s', inv r → Set.EqOn s s' region → Set.EqOn (turn (r, s)).2 (turn (r, s')).2 region
  spares : ∀ r s, inv r → ∀ n ∉ region, (turn (r, s)).2 n = s n

section alone

variable {ρ : Type} {region : Set N} {inv : ρ → Prop} {turn : Turn N V ρ}

/-- The other cells do not matter to many turns either. -/
lemma Within.iterate (within : Within region inv turn) (n : Nat) {r : ρ} (hinv : inv r)
    {s s' : N → V} (same : Set.EqOn s s' region) :
    (turn^[n] (r, s)).1 = (turn^[n] (r, s')).1 ∧
      Set.EqOn (turn^[n] (r, s)).2 (turn^[n] (r, s')).2 region := by
  induction n generalizing r s s' with
  | zero => exact ⟨rfl, same⟩
  | succ n ih =>
    have hrest := ih (within.keeps r s hinv) (within.stores r s s' hinv same)
    rw [Function.iterate_succ_apply, Function.iterate_succ_apply]
    have hstate := within.reads r s s' hinv same
    obtain ⟨hown, hstored⟩ := hrest
    have heq : ((turn (r, s)).1, (turn (r, s')).2) = turn (r, s') := by rw [hstate]
    rw [heq] at hown hstored
    exact ⟨hown, hstored⟩

end alone

section schedules

variable [DecidableEq ι] (turn : ∀ i, Turn N V (ρ i))

/-- One process takes its turn. -/
def step (x : (∀ i, ρ i) × (N → V)) (i : ι) : (∀ i, ρ i) × (N → V) :=
  (update x.1 i (turn i (x.1 i, x.2)).1, (turn i (x.1 i, x.2)).2)

/-- The turns of a schedule. -/
def interleave (schedule : List ι) (x : (∀ i, ρ i) × (N → V)) : (∀ i, ρ i) × (N → V) :=
  schedule.foldl (step turn) x

variable {turn} {region : ι → Set N} {inv : ∀ i, ρ i → Prop}

/-- The turn of another process leaves a process where it was. -/
lemma step_other (within : ∀ i, Within (region i) (inv i) (turn i))
    (apart : Pairwise fun i j => ∀ n ∈ region i, n ∉ region j) {x : (∀ i, ρ i) × (N → V)}
    (hinv : ∀ i, inv i (x.1 i)) {i j : ι} (other : i ≠ j) :
    (step turn x j).1 i = x.1 i ∧ Set.EqOn (step turn x j).2 x.2 (region i) := by
  refine ⟨Function.update_of_ne other _ _, fun n mine => ?_⟩
  exact (within j).spares _ _ (hinv j) n (apart other n mine)

lemma step_inv (within : ∀ i, Within (region i) (inv i) (turn i)) {x : (∀ i, ρ i) × (N → V)}
    (hinv : ∀ i, inv i (x.1 i)) (j i : ι) : inv i ((step turn x j).1 i) := by
  by_cases own : i = j
  · subst own
    change inv i (update x.1 i (turn i (x.1 i, x.2)).1 i)
    rw [Function.update_self]
    exact (within i).keeps _ _ (hinv i)
  · change inv i (update x.1 j (turn j (x.1 j, x.2)).1 i)
    rw [Function.update_of_ne own]
    exact hinv i

/-- In any order of turns, every process has come to where its own turns alone bring it; cells that
no process uses are as they were. -/
theorem interleave_alone (within : ∀ i, Within (region i) (inv i) (turn i))
    (apart : Pairwise fun i j => ∀ n ∈ region i, n ∉ region j) (schedule : List ι)
    {x : (∀ i, ρ i) × (N → V)} (hinv : ∀ i, inv i (x.1 i)) :
    (∀ i, (interleave turn schedule x).1 i = ((turn i)^[schedule.count i] (x.1 i, x.2)).1 ∧
      Set.EqOn (interleave turn schedule x).2 ((turn i)^[schedule.count i] (x.1 i, x.2)).2
        (region i)) ∧
    ∀ n, (∀ i, n ∉ region i) → (interleave turn schedule x).2 n = x.2 n := by
  induction schedule generalizing x with
  | nil => exact ⟨fun _ => ⟨rfl, fun _ _ => rfl⟩, fun _ _ => rfl⟩
  | cons j rest ih =>
    obtain ⟨hown, hrest⟩ := ih (step_inv within hinv j)
    refine ⟨fun i => ?_, fun n unused => ?_⟩
    · obtain ⟨hstate, hstored⟩ := hown i
      by_cases own : i = j
      · subst own
        have hturn : ((step turn x i).1 i, (step turn x i).2) = turn i (x.1 i, x.2) := by
          change (update x.1 i (turn i (x.1 i, x.2)).1 i, _) = _
          rw [Function.update_self]
          rfl
        rw [hturn] at hstate hstored
        rw [List.count_cons_self, Function.iterate_succ_apply]
        exact ⟨hstate, hstored⟩
      · obtain ⟨hsame, hkept⟩ := step_other within apart hinv own
        rw [hsame] at hstate hstored
        obtain ⟨hstate', hstored'⟩ := (within i).iterate (rest.count i) (hinv i) hkept
        rw [List.count_cons_of_ne (Ne.symm own)]
        exact ⟨hstate.trans hstate', fun n mine => (hstored mine).trans (hstored' mine)⟩
    · exact (hrest n unused).trans ((within j).spares _ _ (hinv j) n (unused j))

end schedules

end Interleaving
