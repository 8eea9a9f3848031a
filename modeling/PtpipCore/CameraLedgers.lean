import PtpipCore.CameraArrays
import Mathlib.Data.List.Perm.Basic

/-!
# What a C program owns

Discoveries and the handing back of what they gave, in any order. Whatever a program has been given
and not handed back yet it can still read, nothing is freed twice, and nothing stays behind.
-/

namespace CameraLedgers

open Effects Types Discovery Heaps CameraArrays
open CameraNames (cCamera)
open EStateM (Result)

section calls

/-- What a discovery has given to a caller, with what is in its array. -/
structure Listing where
  pointer : Nat
  cameras : List DiscoveredCamera
  entries : List CCameraInfo

def Listing.addresses (l : Listing) : List Nat := l.pointer :: names l.entries

/-- The array and its strings are there, and are read as the cameras. -/
structure Listing.Held (l : Listing) (h : Heap Block) : Prop where
  notNull : l.pointer ≠ 0
  nonempty : l.cameras ≠ []
  array : h.cells l.pointer = some (.cameras l.entries)
  viewed : l.entries.map (view h) = l.cameras.map cCamera
  distinct : (names l.entries).Nodup
  texts : ∀ a ∈ names l.entries, ∃ characters, h.cells a = some (.text characters)

variable {l : Listing} {h h' : Heap Block}

lemma Listing.Held.used (held : l.Held h) : ∀ a ∈ l.addresses, h.cells a ≠ none := by
  refine List.forall_mem_cons.mpr ⟨?_, fun a ha => ?_⟩
  · rw [held.array]
    exact Option.some_ne_none _
  · obtain ⟨characters, htext⟩ := held.texts a ha
    rw [htext]
    exact Option.some_ne_none _

lemma Listing.Held.nodup (held : l.Held h) : l.addresses.Nodup := by
  refine List.nodup_cons.mpr ⟨fun ha => ?_, held.distinct⟩
  obtain ⟨characters, htext⟩ := held.texts _ ha
  rw [held.array] at htext
  cases htext

/-- It is held as long as its own addresses are left alone. -/
lemma Listing.Held.frame (held : l.Held h) (same : ∀ a ∈ l.addresses, h'.cells a = h.cells a) :
    l.Held h' := by
  obtain ⟨harray, hnames⟩ := List.forall_mem_cons.mp same
  refine ⟨held.notNull, held.nonempty, harray.trans held.array, ?_, held.distinct, ?_⟩
  · rw [← held.viewed]
    refine List.map_congr_left fun entry hentry => ?_
    have hpointee := pointee_congr fun notNull => hnames _ (mem_names hentry notNull)
    unfold view
    rw [hpointee]
  · intro a ha
    rw [hnames a ha]
    exact held.texts a ha

lemma Listing.Held.length (held : l.Held h) : l.entries.length = l.cameras.length := by
  have hlengths := congrArg List.length held.viewed
  rwa [List.length_map, List.length_map] at hlengths

/-- To free a listing with the count that came with it frees its addresses and no others. -/
lemma free_listing (held : l.Held h) {m : Machine} (memory : m.memory = h) :
    ptpipFreeCameras l.pointer l.cameras.length m =
      .ok () { m with memory := h.without l.addresses } := by
  have notEmpty : ¬ (l.pointer = 0 ∨ l.cameras.length = 0) := fun hor =>
    hor.elim held.notNull fun none => held.nonempty (List.eq_nil_of_length_eq_zero none)
  have hnames : freeNames l.pointer 0 l.cameras.length h =
      .ok () (h.without (names l.entries)) := by
    rw [← held.length]
    exact freeNames_ok (List.nil_append l.entries ▸ held.array) held.texts held.distinct
  have hfree : free Block.isArray l.pointer (h.without (names l.entries)) =
      .ok () (h.without l.addresses) := by
    have notText := (List.nodup_cons.mp held.nodup).1
    have hset := Heap.set_none_without (h := h) l.pointer (names l.entries)
    rw [free_ok ((Heap.without_other notText).trans held.array) rfl, hset]
    rfl
  rw [ptpipFreeCameras, if_neg notEmpty]
  refine Machine.memoryPart.run_ok ?_
  change (freeNames l.pointer 0 l.cameras.length >>= fun _ => free Block.isArray l.pointer)
    m.memory = _
  rw [memory, bind_ok hnames, hfree]

variable {libc : Libc} {m : Machine}

/-- How a discovery by a C program ends. -/
inductive Discovers (libc : Libc) (m : Machine) : Bool → Bool → Int → Machine → Prop where
  | noPointers {a b : Bool} (null : (!a || !b) = true) : Discovers libc m a b (-1) m
  | failed {e : PtpIpError} {n : Network}
      (found : discoverCameras DiscoveryConfig.default m.network = .error e n) :
      Discovers libc m true true (-2) { m with network := n }
  | nothing {n : Network}
      (found : discoverCameras DiscoveryConfig.default m.network = .ok [] n) :
      Discovers libc m true true 0 ⟨n, m.memory, 0, 0⟩
  | noRoom {cameras : List DiscoveredCamera} {n : Network}
      (found : discoverCameras DiscoveryConfig.default m.network = .ok cameras n)
      (nonempty : cameras ≠ []) (full : libc.room m.memory = false) :
      Discovers libc m true true (-3) { m with network := n, outCount := cameras.length }
  | listed {l : Listing} {n : Network} {h' : Heap Block}
      (found : discoverCameras DiscoveryConfig.default m.network = .ok l.cameras n)
      (held : l.Held h') (new : ∀ a ∈ l.addresses, m.memory.cells a = none)
      (others : ∀ a ∉ l.addresses, h'.cells a = m.memory.cells a) :
      Discovers libc m true true 0 ⟨n, h', l.pointer, l.cameras.length⟩

/-- The array for cameras, and the strings in it, are at new places. -/
lemma calloc_populate {cameras : List DiscoveredCamera} (nonempty : cameras ≠ [])
    (room : libc.room h = true) :
    ∃ (h₁ : Heap Block) (l : Listing) (h' : Heap Block), l.cameras = cameras ∧
      calloc libc cameras.length h = .ok l.pointer h₁ ∧
      populate libc l.pointer 0 cameras h₁ = .ok () h' ∧ l.Held h' ∧
      (∀ a ∈ l.addresses, h.cells a = none) ∧ ∀ a ∉ l.addresses, h'.cells a = h.cells a := by
  have notNull := libc.alloc.pick_ne_zero h
  have fresh := libc.alloc.pick_fresh h
  set a := libc.alloc.pick h
  set zeros : List CCameraInfo := List.replicate cameras.length ⟨[0, 0, 0, 0], 0, 0, 0⟩
  have hcalloc : calloc libc cameras.length h = .ok a (h.set a (some (.cameras zeros))) := by
    rw [calloc, if_pos room]
    rfl
  obtain ⟨entries, h', hpopulate, -, populated⟩ := populate_populates
    (Heap.set_self h a (some (.cameras ([] ++ zeros)))) List.length_replicate
  have apart : ∀ other ∈ names entries, other ≠ a := by
    intro other hother same
    have hnew := populated.new other hother
    rw [same, Heap.set_self] at hnew
    cases hnew
  refine ⟨_, ⟨a, cameras, entries⟩, h', rfl, hcalloc, hpopulate, ?_, ?_, ?_⟩
  · exact {
      notNull := notNull
      nonempty := nonempty
      array := populated.array
      viewed := populated.viewed
      distinct := populated.distinct
      texts := populated.texts }
  · refine List.forall_mem_cons.mpr ⟨fresh, fun other hother => ?_⟩
    rw [← Heap.set_other (some (.cameras zeros)) (apart other hother)]
    exact populated.new other hother
  · intro other hother
    obtain ⟨notArray, notName⟩ := not_or.mp (hother ∘ List.mem_cons.mpr)
    rw [populated.others other notArray notName, Heap.set_other _ notArray]

lemma modified (f : Machine → Machine) (m : Machine) : (modify f : Calls Unit) m = .ok () (f m) :=
  rfl

lemma memory_run {α : Type} {act : InMemory α} {a : α} (m : Machine)
    (ok : act m.memory = .ok a h) : Machine.memoryPart.run act m = .ok a { m with memory := h } :=
  Machine.memoryPart.run_ok ok

theorem ptpipDiscoverCameras_discovers (libc : Libc) (outCameras outCount : Bool) (m : Machine) :
    ∃ code m', ptpipDiscoverCameras libc outCameras outCount m = .ok code m' ∧
      Discovers libc m outCameras outCount code m' := by
  by_cases null : (!outCameras || !outCount) = true
  · refine ⟨-1, m, ?_, .noPointers null⟩
    rw [ptpipDiscoverCameras, if_pos null]
    rfl
  · obtain ⟨rfl, rfl⟩ : outCameras = true ∧ outCount = true := by
      cases outCameras <;> cases outCount <;> simp_all
    rw [ptpipDiscoverCameras, if_neg null]
    cases found : discoverCameras DiscoveryConfig.default m.network with
    | error e n =>
      have hrun : Machine.networkPart.run discovered m =
          (.ok (.error e) { m with network := n } : Result Fault Machine _) :=
        Machine.networkPart.run_ok (by rw [discovered, Machine.networkPart, found]; rfl)
      refine ⟨-2, _, ?_, .failed found⟩
      rw [bind_ok hrun]
      rfl
    | ok cameras n =>
      have hrun : Machine.networkPart.run discovered m =
          (.ok (.ok cameras) { m with network := n } : Result Fault Machine _) :=
        Machine.networkPart.run_ok (by rw [discovered, Machine.networkPart, found]; rfl)
      rw [bind_ok hrun]
      by_cases none : cameras = []
      · subst none
        exact ⟨0, _, rfl, .nothing found⟩
      · have notZero : cameras.length ≠ 0 := none ∘ List.eq_nil_of_length_eq_zero
        by_cases room : libc.room m.memory = true
        · obtain ⟨h₁, l, h', rfl, hcalloc, hpopulate, held, new, others⟩ :=
            calloc_populate none room
          refine ⟨0, _, ?_, .listed found held new others⟩
          dsimp only
          rw [bind_ok (modified _ _)]
          dsimp only
          rw [if_neg notZero, bind_ok (memory_run ⟨n, m.memory, _, l.cameras.length⟩ hcalloc),
            if_neg held.notNull, bind_ok (memory_run ⟨n, h₁, _, l.cameras.length⟩ hpopulate)]
          rfl
        · have full : libc.room m.memory = false := Bool.eq_false_iff.mpr room
          refine ⟨-3, _, ?_, .noRoom found none full⟩
          have hcalloc : calloc libc cameras.length m.memory = .ok 0 m.memory := if_neg room
          dsimp only
          rw [bind_ok (modified _ _)]
          dsimp only
          rw [if_neg notZero, bind_ok (memory_run ⟨n, m.memory, _, cameras.length⟩ hcalloc)]
          rfl

end calls

section programs

/-- A pointer and a count that a C program has been given, and the network that they are from. -/
structure Given where
  pointer : Nat
  count : Nat
  network : Network

/-- A C program, with what it has been given and not handed back. -/
structure Program where
  machine : Machine
  given : List Given

def Program.machinePart : Part Program Machine where
  get p := p.machine
  set machine p := { p with machine := machine }
  set_get _ := rfl

/-- A program discovers cameras, each time on a network as it is then, and hands back the array
that it has at some position in its list. -/
inductive Op where
  | discover (network : Network) (outCameras outCount : Bool)
  | handBack (i : Nat)

variable (libc : Libc)

def carryOut : Op → EStateM Fault Program Unit
  | .discover network outCameras outCount => do
    modify fun p => { p with machine := { p.machine with network := network } }
    let code ← Program.machinePart.run (ptpipDiscoverCameras libc outCameras outCount)
    if code = 0 then
      modify fun p =>
        { p with given := ⟨p.machine.outCameras, p.machine.outCount, network⟩ :: p.given }
    else
      return ()
  | .handBack i => do
    match (← get).given[i]? with
    | some g => do
      Program.machinePart.run (ptpipFreeCameras g.pointer g.count)
      modify fun p => { p with given := p.given.eraseIdx i }
    | none => return ()

def carryOutAll : List Op → EStateM Fault Program Unit
  | [] => return ()
  | op :: ops => do
    carryOut libc op
    carryOutAll ops

end programs

section ledgers

variable {libc : Libc} {h h' : Heap Block} {start : Heap Block} {p : Program}

/-- The addresses that a program owns for what it has been given. -/
inductive Owns (h : Heap Block) : Given → List Nat → Prop where
  | nothing {network n : Network}
      (found : discoverCameras DiscoveryConfig.default network = .ok [] n) :
      Owns h ⟨0, 0, network⟩ []
  | listing {l : Listing} {network n : Network}
      (found : discoverCameras DiscoveryConfig.default network = .ok l.cameras n)
      (held : l.Held h) : Owns h ⟨l.pointer, l.cameras.length, network⟩ l.addresses

variable {g : Given} {as : List Nat}

lemma Owns.used (owns : Owns h g as) : ∀ a ∈ as, h.cells a ≠ none := by
  cases owns with
  | nothing => exact fun _ ha => absurd ha List.not_mem_nil
  | listing _ held => exact held.used

lemma Owns.frame (owns : Owns h g as) (same : ∀ a ∈ as, h'.cells a = h.cells a) :
    Owns h' g as := by
  cases owns with
  | nothing found => exact .nothing found
  | listing found held => exact .listing found (held.frame same)

/-- What the program owns can be handed back. -/
lemma Owns.free (owns : Owns h g as) {m : Machine} (memory : m.memory = h) :
    ptpipFreeCameras g.pointer g.count m = .ok () { m with memory := h.without as } := by
  cases owns with
  | nothing =>
    rw [Heap.without_nil, ← memory, ptpipFreeCameras, if_pos (Or.inl rfl)]
    rfl
  | listing _ held => exact free_listing held memory

/-- What the program owns can be read, and is what it was given. -/
lemma Owns.read (owns : Owns h g as) : ∃ cameras n,
    discoverCameras DiscoveryConfig.default g.network = .ok cameras n ∧ g.count = cameras.length ∧
      readCameras g.pointer 0 g.count h = .ok (cameras.map cCamera) h := by
  cases owns with
  | nothing found => exact ⟨[], _, found, rfl, rfl⟩
  | @listing l _ _ found held =>
    refine ⟨_, _, found, rfl, ?_⟩
    rw [← held.viewed, ← held.length]
    exact readCameras_ok (List.nil_append l.entries ▸ held.array) held.texts

/-- The memory of a program that has been given arrays is its memory at the start, and those. -/
def Accounted (start : Heap Block) (p : Program) : Prop :=
  ∃ owned : List (Given × List Nat), owned.map Prod.fst = p.given ∧
    (∀ x ∈ owned, Owns p.machine.memory x.1 x.2) ∧
    Ledger start p.machine.memory (owned.flatMap Prod.snd)

lemma mem_flatMap_snd {owned : List (Given × List Nat)} {x : Given × List Nat} (hx : x ∈ owned)
    {a : Nat} (ha : a ∈ x.2) : a ∈ owned.flatMap Prod.snd := List.mem_flatMap.mpr ⟨x, hx, ha⟩

lemma Accounted.used {owned : List (Given × List Nat)} (owns : ∀ x ∈ owned, Owns h x.1 x.2) :
    ∀ a ∈ owned.flatMap Prod.snd, h.cells a ≠ none := by
  intro a ha
  obtain ⟨x, hx, hax⟩ := List.mem_flatMap.mp ha
  exact (owns x hx).used a hax

/-- What a discovery gives is accounted for, whether the program keeps it or is told of an error. -/
lemma Accounted.discovers {m m' : Machine} {given : List Given} {a b : Bool} {code : Int}
    (accounted : Accounted start ⟨m, given⟩) (h : Discovers libc m a b code m') :
    Accounted start (if code = 0 then ⟨m', ⟨m'.outCameras, m'.outCount, m.network⟩ :: given⟩
      else ⟨m', given⟩) := by
  obtain ⟨owned, hgiven, owns, ledger⟩ := accounted
  cases h with
  | noPointers null => exact ⟨owned, hgiven, owns, ledger⟩
  | failed found => exact ⟨owned, hgiven, owns, ledger⟩
  | noRoom found nonempty full => exact ⟨owned, hgiven, owns, ledger⟩
  | nothing found =>
    refine ⟨(⟨0, 0, m.network⟩, []) :: owned, congrArg _ hgiven, ?_, ledger⟩
    exact List.forall_mem_cons.mpr ⟨.nothing found, owns⟩
  | @listed l n h' found held new others =>
    have used := Accounted.used owns
    refine ⟨(⟨l.pointer, l.cameras.length, m.network⟩, l.addresses) :: owned, congrArg _ hgiven,
      List.forall_mem_cons.mpr ⟨.listing found held, fun x hx => ?_⟩,
      ledger.takes used held.nodup new others⟩
    refine (owns x hx).frame fun a ha => others a fun given => ?_
    exact used a (mem_flatMap_snd hx ha) (new a given)

/-- To hand back what is at some position in the list takes it off the list. -/
lemma Accounted.handsBack {i : Nat} {g : Given} (accounted : Accounted start p)
    (hg : p.given[i]? = some g) :
    ∃ m', ptpipFreeCameras g.pointer g.count p.machine = .ok () m' ∧
      Accounted start ⟨m', p.given.eraseIdx i⟩ := by
  obtain ⟨owned, hgiven, owns, ledger⟩ := accounted
  rw [← hgiven, List.getElem?_map, Option.map_eq_some_iff] at hg
  obtain ⟨⟨g, as⟩, hx, rfl⟩ := hg
  obtain ⟨inside, hget⟩ := List.getElem?_eq_some_iff.mp hx
  have hperm := List.getElem_cons_eraseIdx_perm inside
  rw [hget] at hperm
  have ledger' := ledger.perm (hperm.flatMap_right Prod.snd).symm
  have mine := owns (g, as) (hget ▸ List.getElem_mem inside)
  refine ⟨_, mine.free rfl, owned.eraseIdx i, ?_, fun x hx => ?_, ledger'.gives⟩
  · rw [← hgiven, List.eraseIdx_map]
  · refine (owns x ((List.eraseIdx_sublist owned i).subset hx)).frame fun a ha => ?_
    have apart := (List.nodup_append'.mp ledger'.distinct).2.2
    exact Heap.without_other fun given => apart given (mem_flatMap_snd hx ha)

theorem Accounted.carryOut (accounted : Accounted start p) (libc : Libc) (op : Op) :
    ∃ p', carryOut libc op p = .ok () p' ∧ Accounted start p' := by
  cases op with
  | discover network a b =>
    obtain ⟨code, m', hrun, discovers⟩ :=
      ptpipDiscoverCameras_discovers libc a b { p.machine with network := network }
    have before : Accounted start ⟨{ p.machine with network := network }, p.given⟩ := accounted
    refine ⟨_, ?_, before.discovers discovers⟩
    have hset : (modify fun p : Program =>
          { p with machine := { p.machine with network := network } } :
        EStateM Fault Program Unit) p =
          .ok () ⟨{ p.machine with network := network }, p.given⟩ := rfl
    have hcode : Program.machinePart.run (ptpipDiscoverCameras libc a b)
        ⟨{ p.machine with network := network }, p.given⟩ = .ok code ⟨m', p.given⟩ :=
      Program.machinePart.run_ok hrun
    rw [CameraLedgers.carryOut, bind_ok hset, bind_ok hcode]
    split
    · rfl
    · rfl
  | handBack i =>
    have held : (get : EStateM Fault Program Program) p = .ok p p := rfl
    cases hg : p.given[i]? with
    | none =>
      refine ⟨p, ?_, accounted⟩
      rw [CameraLedgers.carryOut, bind_ok held, hg]
      rfl
    | some g =>
      obtain ⟨m', hfree, after⟩ := accounted.handsBack hg
      refine ⟨_, ?_, after⟩
      have hrun : Program.machinePart.run (ptpipFreeCameras g.pointer g.count) p =
          .ok () ⟨m', p.given⟩ := Program.machinePart.run_ok hfree
      rw [CameraLedgers.carryOut, bind_ok held, hg]
      dsimp only
      rw [bind_ok hrun]
      rfl

lemma Accounted.carryOutAll (accounted : Accounted start p) (libc : Libc) (ops : List Op) :
    ∃ p', carryOutAll libc ops p = .ok () p' ∧ Accounted start p' := by
  induction ops generalizing p with
  | nil => exact ⟨p, rfl, accounted⟩
  | cons op ops ih =>
    obtain ⟨p', hop, after⟩ := accounted.carryOut libc op
    obtain ⟨p'', hops, final⟩ := ih after
    refine ⟨p'', ?_, final⟩
    rw [CameraLedgers.carryOutAll, bind_ok hop, hops]

/-- Whatever a C program discovers and hands back, in whatever order, it does nothing to its memory
that it must not. All that it has been given it can read as the cameras that were discovered, and
when it has handed back everything, its memory is as it was at the start. -/
theorem arrays_accounted (libc : Libc) (ops : List Op) (m : Machine) :
    ∃ p, carryOutAll libc ops ⟨m, []⟩ = .ok () p ∧
      (∀ g ∈ p.given, ∃ cameras n,
        discoverCameras DiscoveryConfig.default g.network = .ok cameras n ∧
        g.count = cameras.length ∧
        readCameras g.pointer 0 g.count p.machine.memory =
          .ok (cameras.map cCamera) p.machine.memory) ∧
      (p.given = [] → p.machine.memory = m.memory) := by
  have start : Accounted m.memory ⟨m, []⟩ :=
    ⟨[], rfl, fun _ hx => absurd hx List.not_mem_nil, Ledger.opened _⟩
  obtain ⟨p, hrun, owned, hgiven, owns, ledger⟩ := start.carryOutAll libc ops
  refine ⟨p, hrun, fun g hg => ?_, fun none => ?_⟩
  · rw [← hgiven] at hg
    obtain ⟨x, hx, rfl⟩ := List.mem_map.mp hg
    exact (owns x hx).read
  · rw [none, List.map_eq_nil_iff] at hgiven
    rw [hgiven] at ledger
    exact ledger.closed

end ledgers

end CameraLedgers
