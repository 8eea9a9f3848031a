import PtpipCore.Lib.Effects
import Mathlib.Data.List.Nodup
import Mathlib.Data.Nat.Find

/-!
# A heap of blocks

Addresses up to some bound hold a block. An allocator finds an address without one; to read, to
write and to free a block faults where there is none, so that what does not fault neither uses a
block behind its end nor frees it twice.
-/

namespace Heaps

open Effects
open EStateM (Result)
open Function (update)

variable {B : Type}

@[ext] structure Heap (B : Type) where
  cells : Nat → Option B
  bounded : ∃ bound, ∀ a, bound ≤ a → cells a = none

/-- Something that a program must not do. -/
inductive Fault where
  | fault

namespace Heap

variable (h : Heap B)

def set (a : Nat) (b : Option B) : Heap B where
  cells := update h.cells a b
  bounded := by
    obtain ⟨bound, above⟩ := h.bounded
    refine ⟨max bound (a + 1), fun other le => ?_⟩
    have other_ne : other ≠ a := by omega
    rw [Function.update_of_ne other_ne]
    exact above other (by omega)

/-- The heap without the blocks at some addresses. -/
def without (as : List Nat) : Heap B where
  cells a := if a ∈ as then none else h.cells a
  bounded := by
    obtain ⟨bound, above⟩ := h.bounded
    refine ⟨bound, fun a le => ?_⟩
    rw [above a le, ite_self]

lemma set_self (a : Nat) (b : Option B) : (h.set a b).cells a = b := Function.update_self _ _ _

variable {h} {a other : Nat} {as : List Nat}

lemma set_other (b : Option B) (ne : other ≠ a) : (h.set a b).cells other = h.cells other :=
  Function.update_of_ne ne _ _

lemma without_given (given : a ∈ as) : (h.without as).cells a = none := if_pos given

lemma without_other (notGiven : a ∉ as) : (h.without as).cells a = h.cells a := if_neg notGiven

lemma without_unused (unused : ∀ a ∈ as, h.cells a = none) : h.without as = h := by
  ext a c
  by_cases given : a ∈ as
  · rw [without_given given, unused a given]
  · rw [without_other given]

lemma without_nil : h.without [] = h := without_unused fun _ hmem => absurd hmem List.not_mem_nil

/-- To free one block more. -/
lemma set_none_without (a : Nat) (as : List Nat) :
    (h.without as).set a none = h.without (a :: as) := by
  ext other c
  by_cases same : other = a
  · subst same
    rw [set_self, without_given List.mem_cons_self]
  · rw [set_other none same]
    by_cases given : other ∈ as
    · rw [without_given given, without_given (List.mem_cons_of_mem _ given)]
    · have notGiven : other ∉ a :: as := fun hmem =>
        (List.mem_cons.mp hmem).elim same given
      rw [without_other given, without_other notGiven]

lemma without_congr {bs : List Nat} (same : ∀ a, a ∈ as ↔ a ∈ bs) :
    h.without as = h.without bs := by
  ext a c
  by_cases given : a ∈ as
  · rw [without_given given, without_given ((same a).mp given)]
  · rw [without_other given, without_other (given ∘ (same a).mpr)]

lemma without_append (as bs : List Nat) : h.without (as ++ bs) = (h.without bs).without as := by
  ext a c
  by_cases given : a ∈ as
  · rw [without_given given, without_given (List.mem_append_left _ given)]
  · rw [without_other given]
    by_cases hmem : a ∈ bs
    · rw [without_given hmem, without_given (List.mem_append_right _ hmem)]
    · have notGiven : a ∉ as ++ bs := fun hmem' => (List.mem_append.mp hmem').elim given hmem
      rw [without_other hmem, without_other notGiven]

lemma without_set_none : (h.set a none).without as = h.without (a :: as) := by
  ext other c
  by_cases given : other ∈ as
  · rw [without_given given, without_given (List.mem_cons_of_mem _ given)]
  · rw [without_other given]
    by_cases same : other = a
    · subst same
      rw [set_self, without_given List.mem_cons_self]
    · have notGiven : other ∉ a :: as := fun hmem =>
        (List.mem_cons.mp hmem).elim same given
      rw [set_other none same, without_other notGiven]

end Heap

/-- What a program holds of a heap that it started with: with the blocks at the addresses that it
owns taken away, the heap is the same as at the start. -/
structure Ledger (start h : Heap B) (owned : List Nat) : Prop where
  distinct : owned.Nodup
  new : ∀ a ∈ owned, start.cells a = none
  rest : h.without owned = start

namespace Ledger

open Heap

variable {start h h' : Heap B} {owned as : List Nat}

lemma opened (start : Heap B) : Ledger start start [] :=
  ⟨List.nodup_nil, fun _ ha => absurd ha List.not_mem_nil, without_nil⟩

/-- New blocks where there were none. -/
lemma takes (ledger : Ledger start h owned) (used : ∀ a ∈ owned, h.cells a ≠ none)
    (distinct : as.Nodup) (fresh : ∀ a ∈ as, h.cells a = none)
    (others : ∀ a ∉ as, h'.cells a = h.cells a) : Ledger start h' (as ++ owned) := by
  have apart : ∀ a ∈ as, a ∉ owned := fun a ha howned => used a howned (fresh a ha)
  have before : h'.without as = h := by
    ext a c
    by_cases given : a ∈ as
    · rw [without_given given, fresh a given]
    · rw [without_other given, others a given]
  constructor
  · exact List.nodup_append'.mpr ⟨distinct, ledger.distinct, fun a ha howned => apart a ha howned⟩
  · intro a ha
    rcases List.mem_append.mp ha with given | howned
    · rw [← ledger.rest, without_other (apart a given), fresh a given]
    · exact ledger.new a howned
  · rw [without_congr fun _ => List.perm_append_comm.mem_iff, without_append, before, ledger.rest]

lemma gives (ledger : Ledger start h (as ++ owned)) : Ledger start (h.without as) owned := by
  obtain ⟨-, distinct, -⟩ := List.nodup_append'.mp ledger.distinct
  refine ⟨distinct, fun a ha => ledger.new a (List.mem_append_right _ ha), ?_⟩
  rw [← without_append, without_congr fun _ => List.perm_append_comm.mem_iff, ledger.rest]

lemma perm {owned' : List Nat} (ledger : Ledger start h owned) (same : owned.Perm owned') :
    Ledger start h owned' := by
  refine ⟨same.nodup ledger.distinct, fun a ha => ledger.new a (same.mem_iff.mpr ha), ?_⟩
  rw [without_congr fun _ => same.symm.mem_iff, ledger.rest]

/-- Nothing is left behind by a program that owns nothing. -/
lemma closed (ledger : Ledger start h []) : h = start := without_nil.symm.trans ledger.rest

end Ledger

/-- Where a new block goes: not to the null pointer, and not where there is one. -/
structure Allocator (B : Type) where
  pick : Heap B → Nat
  pick_ne_zero : ∀ h, pick h ≠ 0
  pick_fresh : ∀ h : Heap B, h.cells (pick h) = none

lemma exists_fresh (h : Heap B) : ∃ a, a ≠ 0 ∧ (h.cells a).isNone := by
  obtain ⟨bound, above⟩ := h.bounded
  refine ⟨bound + 1, Nat.succ_ne_zero _, ?_⟩
  rw [above (bound + 1) (Nat.le_succ _)]
  rfl

/-- The first address that can be used. -/
instance : Inhabited (Allocator B) where
  default :=
    { pick := fun h => Nat.find (exists_fresh h)
      pick_ne_zero := fun h => (Nat.find_spec (exists_fresh h)).1
      pick_fresh := fun h =>
        Option.isNone_iff_eq_none.mp (Nat.find_spec (exists_fresh h)).2 }

section operations

abbrev OnHeap (B : Type) := EStateM Fault (Heap B)

def allocate (alloc : Allocator B) (b : B) : OnHeap B Nat := fun h =>
  .ok (alloc.pick h) (h.set (alloc.pick h) (some b))

def load (a : Nat) : OnHeap B B := fun h =>
  match h.cells a with
  | some b => .ok b h
  | none => .error .fault h

def store (a : Nat) (b : B) : OnHeap B Unit := fun h =>
  match h.cells a with
  | some _ => .ok () (h.set a (some b))
  | none => .error .fault h

/-- A block is freed as what it was allocated for. -/
def free (kind : B → Bool) (a : Nat) : OnHeap B Unit := fun h =>
  match h.cells a with
  | some b => if kind b then .ok () (h.set a none) else .error .fault h
  | none => .error .fault h

variable {h : Heap B} {a : Nat} {b : B}

lemma load_ok (used : h.cells a = some b) : load a h = .ok b h := by
  rw [load, used]

lemma store_ok (used : h.cells a = some b) (c : B) : store a c h = .ok () (h.set a (some c)) := by
  rw [store, used]

lemma free_ok {kind : B → Bool} (used : h.cells a = some b) (isKind : kind b) :
    free kind a h = .ok () (h.set a none) := by
  rw [free, used]
  exact if_pos isKind

end operations

end Heaps
