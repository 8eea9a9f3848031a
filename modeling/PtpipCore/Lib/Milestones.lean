import Mathlib.Order.Lattice

/-!
# A marker that follows milestones

Positions move forward past milestones in ascending order. After each move the first
milestone is looked for that lies behind a marker and has been passed; the marker is put
on it. The marker keeps up as long as no move passes more than one.
-/

namespace Milestones

variable {α : Type*} [LinearOrder α]

/-- The first milestone behind the marker, if it has been passed. -/
def next (marks : List α) (marker x : α) : Option α :=
  marks.find? fun p => p > marker && x ≥ p

/-- Some milestone lies behind one position and not behind the other. -/
def Passes (marks : List α) (a b : α) : Prop := ∃ p ∈ marks, a < p ∧ p ≤ b

def PassesOneAtMost (marks : List α) (a b : α) : Prop :=
  ∀ p ∈ marks, ∀ q ∈ marks, a < p ∧ p ≤ b → a < q ∧ q ≤ b → p = q

section step

variable {marks : List α} {marker a b : α}

lemma next_isSome : (next marks marker b).isSome ↔ Passes marks marker b := by
  rw [next, List.find?_isSome]
  simp only [Passes, gt_iff_lt, ge_iff_le, Bool.and_eq_true, decide_eq_true_eq]

/-- What is found is the first milestone behind the marker. -/
lemma next_least (sorted : marks.Pairwise (· ≤ ·)) {p : α} (h : next marks marker b = some p) :
    p ∈ marks ∧ marker < p ∧ p ≤ b ∧ ∀ q ∈ marks, marker < q → p ≤ q := by
  obtain ⟨hp, earlier, later, rfl, skipped⟩ := List.find?_eq_some_iff_append.mp h
  simp only [gt_iff_lt, ge_iff_le, Bool.and_eq_true, decide_eq_true_eq] at hp
  refine ⟨List.mem_append_right _ List.mem_cons_self, hp.1, hp.2, fun q hq behind => ?_⟩
  obtain ⟨-, hlater, hearlier⟩ := List.pairwise_append.mp sorted
  rcases List.mem_append.mp hq with hq | hq
  · -- one that was skipped has not been passed
    have hskipped := skipped q hq
    simp only [gt_iff_lt, ge_iff_le, Bool.not_eq_true', Bool.and_eq_false_iff,
      decide_eq_false_iff_not, not_lt, not_le] at hskipped
    rcases hskipped with h | h
    · exact absurd behind (not_lt_of_ge h)
    · exact le_of_lt (lt_of_le_of_lt hp.2 h)
  · rcases List.mem_cons.mp hq with rfl | hq
    · exact le_refl _
    · exact (List.pairwise_cons.mp hlater).1 q hq

lemma passes_through (before : marker ≤ a) (forward : a ≤ b) :
    Passes marks marker b ↔ Passes marks marker a ∨ Passes marks a b := by
  constructor
  · rintro ⟨p, hp, behind, passed⟩
    rcases le_or_gt p a with h | h
    · exact Or.inl ⟨p, hp, behind, h⟩
    · exact Or.inr ⟨p, hp, h, passed⟩
  · rintro (⟨p, hp, behind, passed⟩ | ⟨p, hp, behind, passed⟩)
    · exact ⟨p, hp, behind, passed.trans forward⟩
    · exact ⟨p, hp, lt_of_le_of_lt before behind, passed⟩

/-- A marker that has kept up is left behind by a move past two milestones, and by no other. -/
lemma left_behind_iff (sorted : marks.Pairwise (· ≤ ·)) (before : marker ≤ a)
    (kept : ¬ Passes marks marker a) :
    Passes marks ((next marks marker b).getD marker) b ↔ ¬ PassesOneAtMost marks a b := by
  cases h : next marks marker b with
  | none =>
    have none : ¬ Passes marks marker b := by
      rw [← next_isSome, h]
      exact Bool.false_ne_true
    refine iff_of_false none (not_not_intro fun p hp _ _ passed _ => absurd ?_ none)
    exact ⟨p, hp, lt_of_le_of_lt before passed.1, passed.2⟩
  | some p =>
    obtain ⟨hp, behind, passed, least⟩ := next_least sorted h
    have ahead : a < p := lt_of_not_ge fun h => kept ⟨p, hp, behind, h⟩
    constructor
    · rintro ⟨q, hq, hpq, hqb⟩ one
      exact absurd (one p hp q hq ⟨ahead, passed⟩ ⟨ahead.trans hpq, hqb⟩) (ne_of_lt hpq)
    · intro two
      by_contra caught
      -- every milestone that the move passes is the one that was found
      have only : ∀ q ∈ marks, a < q ∧ q ≤ b → q = p := by
        intro q hq between
        refine le_antisymm (le_of_not_gt fun hpq => caught ⟨q, hq, hpq, between.2⟩) ?_
        exact least q hq (lt_of_le_of_lt before between.1)
      exact two fun q hq r hr hqb hrb => (only q hq hqb).trans (only r hr hrb).symm

/-- A marker that is behind stays behind where a milestone is passed. -/
lemma stays_behind (sorted : marks.Pairwise (· ≤ ·)) (behind : Passes marks marker a)
    (passes : Passes marks a b) :
    Passes marks ((next marks marker b).getD marker) b := by
  obtain ⟨r, hr, har, hrb⟩ := passes
  obtain ⟨q, hq, hmq, hqa⟩ := behind
  cases h : next marks marker b with
  | none =>
    have hsome := next_isSome.mpr ⟨q, hq, hmq, hqa.trans (le_of_lt (lt_of_lt_of_le har hrb))⟩
    rw [h] at hsome
    cases hsome
  | some p =>
    obtain ⟨-, -, -, least⟩ := next_least sorted h
    exact ⟨r, hr, lt_of_le_of_lt ((least q hq hmq).trans hqa) har, hrb⟩

end step

section runs

/-- A move, and whether a milestone was found after it. -/
structure Move (α : Type*) where
  before : α
  after : α
  reported : Bool
  deriving DecidableEq, Repr

variable (marks : List α) (marker₀ start : α)

/-- The moves so far, the marker and the position. -/
inductive Run : List (Move α) → α → α → Prop where
  | start : Run [] marker₀ start
  | move {moves : List (Move α)} {marker a : α} (before : Run moves marker a) {b : α}
      (forward : a ≤ b) : Run (moves ++ [⟨a, b, (next marks marker b).isSome⟩])
        ((next marks marker b).getD marker) b

/-- A milestone is found after exactly the moves that pass one. -/
def Follows (moves : List (Move α)) : Prop :=
  ∀ m ∈ moves, m.reported = true ↔ Passes marks m.before m.after

/-- No milestone was passed at the start, and no move passes more than one. -/
def KeepsUp (moves : List (Move α)) : Prop :=
  ¬ Passes marks marker₀ start ∧ ∀ m ∈ moves, PassesOneAtMost marks m.before m.after

/-- Wherever a move passes no milestone, the marker has kept up. -/
def KeepsUpWhereIdle (moves : List (Move α)) : Prop :=
  ∀ earlier m later, moves = earlier ++ m :: later → ¬ Passes marks m.before m.after →
    KeepsUp marks marker₀ start earlier

variable {marks marker₀ start} {moves : List (Move α)} {marker x : α} {m : Move α}

lemma follows_snoc : Follows marks (moves ++ [m]) ↔
    Follows marks moves ∧ (m.reported = true ↔ Passes marks m.before m.after) := by
  simp only [Follows, List.forall_mem_append, List.forall_mem_singleton]

lemma keepsUp_snoc : KeepsUp marks marker₀ start (moves ++ [m]) ↔
    KeepsUp marks marker₀ start moves ∧ PassesOneAtMost marks m.before m.after := by
  simp only [KeepsUp, List.forall_mem_append, List.forall_mem_singleton, and_assoc]

lemma keepsUpWhereIdle_snoc : KeepsUpWhereIdle marks marker₀ start (moves ++ [m]) ↔
    KeepsUpWhereIdle marks marker₀ start moves ∧
      (¬ Passes marks m.before m.after → KeepsUp marks marker₀ start moves) := by
  constructor
  · intro idle
    refine ⟨?_, idle moves m [] rfl⟩
    rintro earlier m' later rfl
    exact idle earlier m' (later ++ [m]) (by simp)
  · rintro ⟨idle, last⟩ earlier m' later heq
    rcases List.eq_nil_or_concat later with rfl | ⟨later, m'', rfl⟩
    · obtain ⟨rfl, hm⟩ := List.append_inj' heq rfl
      cases hm
      exact last
    · have hsplit : moves ++ [m] = (earlier ++ m' :: later) ++ [m''] := by
        rw [heq]
        simp
      obtain ⟨rfl, -⟩ := List.append_inj' hsplit rfl
      exact idle earlier m' later rfl

lemma Run.marker_le (marker_le : marker₀ ≤ start) (run : Run marks marker₀ start moves marker x) :
    marker ≤ x := by
  induction run with
  | start => exact marker_le
  | @move moves marker a _ b forward ih =>
    cases h : next marks marker b with
    | none => exact ih.trans forward
    | some p =>
      have hp := List.find?_some h
      simp only [gt_iff_lt, ge_iff_le, Bool.and_eq_true, decide_eq_true_eq] at hp
      exact hp.2

/-- As long as it follows, the marker has a milestone to catch up with exactly if it has not
kept up. -/
lemma Run.behind_iff (sorted : marks.Pairwise (· ≤ ·)) (marker_le : marker₀ ≤ start)
    (run : Run marks marker₀ start moves marker x) (follows : Follows marks moves) :
    Passes marks marker x ↔ ¬ KeepsUp marks marker₀ start moves := by
  induction run with
  | start => simp [KeepsUp]
  | @move moves marker a before b forward ih =>
    obtain ⟨follows, agrees⟩ := follows_snoc.mp follows
    have le := before.marker_le marker_le
    specialize ih follows
    rw [keepsUp_snoc]
    by_cases kept : KeepsUp marks marker₀ start moves
    · have caught : ¬ Passes marks marker a := fun h => ih.mp h kept
      rw [left_behind_iff sorted le caught]
      simp only [kept, true_and]
    · have behind : Passes marks marker a := ih.mpr kept
      refine iff_of_true (stays_behind sorted behind (agrees.mp ?_)) (fun h => kept h.1)
      exact next_isSome.mpr ((passes_through le forward).mpr (Or.inl behind))

/-- A milestone is found after exactly the moves that pass one, if and only if the marker has
kept up wherever a move passes none. -/
theorem Run.follows_iff (sorted : marks.Pairwise (· ≤ ·)) (marker_le : marker₀ ≤ start)
    (run : Run marks marker₀ start moves marker x) :
    Follows marks moves ↔ KeepsUpWhereIdle marks marker₀ start moves := by
  induction run with
  | start =>
    refine iff_of_true (fun m hm => absurd hm List.not_mem_nil) ?_
    intro earlier m later heq
    exact absurd heq.symm (List.append_ne_nil_of_right_ne_nil _ (List.cons_ne_nil _ _))
  | @move moves marker a before b forward ih =>
    rw [follows_snoc, keepsUpWhereIdle_snoc, ← ih]
    refine and_congr_right fun follows => ?_
    have behind := before.behind_iff sorted marker_le follows
    dsimp only
    rw [next_isSome, passes_through (before.marker_le marker_le) forward, behind]
    by_cases passes : Passes marks a b <;> simp [passes]

end runs

end Milestones
