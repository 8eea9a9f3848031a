import PtpipCore.CameraNames
import PtpipCore.DiscoveryRuns
import PtpipCore.Lib.Heaps

/-!
# Arrays of cameras for C

A C program discovers cameras into an array that it does not allocate itself, with the names as
strings beside it, reads them from there, and hands the array back to be freed. What is written to
the array can be read as the cameras, and to free it frees each string once.
-/

namespace CameraArrays

open Effects ByteStream Types Discovery DiscoveryRuns Heaps
open CameraNames (ipv4ToBytes cCamera)
open EStateM (Result)

/-- The name is an address. -/
structure CCameraInfo where
  ipAddress : Bytes
  port : UInt16
  modelName : Nat
  vendorId : UInt32
  deriving DecidableEq, Repr

/-- What is allocated: the characters of a name with the zero byte behind them, or an array. -/
inductive Block where
  | text (characters : Bytes)
  | cameras (entries : List CCameraInfo)
  deriving DecidableEq, Repr

def Block.isText : Block → Bool
  | text _ => true
  | cameras _ => false

def Block.isArray : Block → Bool
  | text _ => false
  | cameras _ => true

/-- The network, the memory, and the variables that a caller lets a discovery write to. -/
structure Machine where
  network : Network
  memory : Heap Block
  outCameras : Nat
  outCount : Nat

def Machine.networkPart : Part Machine Network where
  get m := m.network
  set network m := { m with network := network }
  set_get _ := rfl

def Machine.memoryPart : Part Machine (Heap Block) where
  get m := m.memory
  set memory m := { m with memory := memory }
  set_get _ := rfl

abbrev Calls := EStateM Fault Machine

abbrev InMemory := OnHeap Block

section interface

/-- The memory of a C program: where a block goes, and whether there is room for an array. -/
structure Libc where
  alloc : Allocator Block
  room : Heap Block → Bool

variable (libc : Libc)

def rustStrToC (rustStr : Bytes) : InMemory Nat :=
  if 0 ∈ rustStr then return 0 else allocate libc.alloc (.text (rustStr ++ [0]))

/-- The null pointer when there is no room. -/
def calloc (count : Nat) : InMemory Nat := fun h =>
  if libc.room h then
    allocate libc.alloc (.cameras (List.replicate count ⟨[0, 0, 0, 0], 0, 0, 0⟩)) h
  else .ok 0 h

/-- An entry of an array; there is none behind its end. -/
def loadCamera (cameras i : Nat) : InMemory CCameraInfo := do
  match ← load cameras with
  | .cameras entries =>
    match entries[i]? with
    | some entry => return entry
    | none => throw .fault
  | .text _ => throw .fault

def storeCamera (cameras i : Nat) (entry : CCameraInfo) : InMemory Unit := do
  match ← load cameras with
  | .cameras entries =>
    if i < entries.length then store cameras (.cameras (entries.set i entry)) else throw .fault
  | .text _ => throw .fault

/-- The entry of a camera, with the address of its name. -/
def entryOf (camera : DiscoveredCamera) (a : Nat) : CCameraInfo :=
  ⟨ipv4ToBytes camera.ipAddress, camera.port, a, camera.vendorExtensionId⟩

/-- Populate data, from an index on. -/
def populate (cCameras : Nat) : Nat → List DiscoveredCamera → InMemory Unit
  | _, [] => pure ()
  | i, camera :: rest => do
    let modelName ← rustStrToC libc camera.modelName
    storeCamera cCameras i (entryOf camera modelName)
    populate cCameras (i + 1) rest

/-- A discovery does not touch the memory; its error is a value here. -/
def discovered : EStateM Fault Network (Except PtpIpError (List DiscoveredCamera)) := fun n =>
  .ok (answer (discoverCameras DiscoveryConfig.default n))
    (endState (discoverCameras DiscoveryConfig.default n))

/-- Each of the two pointers to the caller's variables may be null. -/
def ptpipDiscoverCameras (outCameras outCount : Bool) : Calls Int := do
  if !outCameras || !outCount then
    return -1
  else
    match ← Machine.networkPart.run discovered with
    | .error _ => return -2
    | .ok cameras => do
      let count := cameras.length
      modify fun m => { m with outCount := count }
      if count = 0 then do
        modify fun m => { m with outCameras := 0 }
        return 0
      else do
        let cCameras ← Machine.memoryPart.run (calloc libc count)
        if cCameras = 0 then
          return -3
        else do
          Machine.memoryPart.run (populate libc cCameras 0 cameras)
          modify fun m => { m with outCameras := cCameras }
          return 0

/-- Free strings, of so many entries from an index on. -/
def freeNames (cameras : Nat) : Nat → Nat → InMemory Unit
  | _, 0 => pure ()
  | i, left + 1 => do
    let entry ← loadCamera cameras i
    if entry.modelName ≠ 0 then
      free Block.isText entry.modelName
    freeNames cameras (i + 1) left

def ptpipFreeCameras (cameras count : Nat) : Calls Unit :=
  if cameras = 0 ∨ count = 0 then
    return ()
  else Machine.memoryPart.run do
    freeNames cameras 0 count
    free Block.isArray cameras

end interface

section reading

/-- The name at an address, as a C program reads it. -/
def loadName (a : Nat) : InMemory CameraNames.CStr := do
  if a = 0 then
    return none
  else
    match ← load a with
    | .text characters => return some characters
    | .cameras _ => throw .fault

/-- So many entries of an array, from an index on, as a C program reads them. -/
def readCameras (cameras : Nat) : Nat → Nat → InMemory (List CameraNames.CCameraInfo)
  | _, 0 => return []
  | i, left + 1 => do
    let entry ← loadCamera cameras i
    let name ← loadName entry.modelName
    let rest ← readCameras cameras (i + 1) left
    return ⟨entry.ipAddress, entry.port, name, entry.vendorId⟩ :: rest

end reading

section entries

/-- What an address of a name leads to. -/
def pointee (h : Heap Block) (a : Nat) : CameraNames.CStr :=
  if a = 0 then none
  else match h.cells a with
    | some (.text characters) => some characters
    | _ => none

/-- An entry as a C program reads it. -/
def view (h : Heap Block) (entry : CCameraInfo) : CameraNames.CCameraInfo :=
  ⟨entry.ipAddress, entry.port, pointee h entry.modelName, entry.vendorId⟩

/-- The addresses of the names of entries. -/
def names (entries : List CCameraInfo) : List Nat :=
  (entries.map CCameraInfo.modelName).filter (· ≠ 0)

lemma names_null {entry : CCameraInfo} (null : entry.modelName = 0) (entries : List CCameraInfo) :
    names (entry :: entries) = names entries :=
  List.filter_cons_of_neg (not_not_intro null ∘ of_decide_eq_true)

lemma names_cons {entry : CCameraInfo} (notNull : entry.modelName ≠ 0)
    (entries : List CCameraInfo) : names (entry :: entries) = entry.modelName :: names entries :=
  List.filter_cons_of_pos (decide_eq_true notNull)

lemma mem_names {entries : List CCameraInfo} {entry : CCameraInfo} (hentry : entry ∈ entries)
    (notNull : entry.modelName ≠ 0) : entry.modelName ∈ names entries :=
  List.mem_filter.mpr ⟨List.mem_map_of_mem hentry, decide_eq_true notNull⟩

lemma mem_names_cons {entries : List CCameraInfo} {entry : CCameraInfo} {a : Nat}
    (ha : a ∈ names entries) : a ∈ names (entry :: entries) :=
  (((List.sublist_cons_self entry entries).map _).filter _).subset ha

variable {libc : Libc} {h h' : Heap Block} {cCameras i : Nat} {entries : List CCameraInfo}

lemma pointee_congr {a : Nat} (same : a ≠ 0 → h'.cells a = h.cells a) :
    pointee h' a = pointee h a := by
  unfold pointee
  split
  · rfl
  · next notNull => rw [same notNull]

lemma loadCamera_ok {entry : CCameraInfo} (array : h.cells cCameras = some (.cameras entries))
    (inside : entries[i]? = some entry) : loadCamera cCameras i h = .ok entry h := by
  rw [loadCamera, bind_ok (load_ok array)]
  dsimp only
  rw [inside]
  rfl

lemma storeCamera_ok (array : h.cells cCameras = some (.cameras entries))
    (inside : i < entries.length) (entry : CCameraInfo) :
    storeCamera cCameras i entry h =
      .ok () (h.set cCameras (some (.cameras (entries.set i entry)))) := by
  rw [storeCamera, bind_ok (load_ok array)]
  dsimp only
  rw [if_pos inside, store_ok array]

/-- What populating an array from an index on leaves behind: entries that a C program reads as the
cameras, with new strings for their names, and everything else as it was. -/
structure Populated (h : Heap Block) (cCameras : Nat) (before : List CCameraInfo)
    (cameras : List DiscoveredCamera) (added : List CCameraInfo) (h' : Heap Block) : Prop where
  array : h'.cells cCameras = some (.cameras (before ++ added))
  viewed : added.map (view h') = cameras.map cCamera
  distinct : (names added).Nodup
  new : ∀ a ∈ names added, h.cells a = none
  texts : ∀ a ∈ names added, ∃ characters, h'.cells a = some (.text characters)
  others : ∀ a ≠ cCameras, a ∉ names added → h'.cells a = h.cells a

/-- The string for a name goes to a new place, or there is none. -/
lemma rustStrToC_cases (libc : Libc) (name : Bytes) (h : Heap Block) :
    (rustStrToC libc name h = .ok 0 h ∧ CameraNames.rustStrToC name = none) ∨
    ∃ a characters, rustStrToC libc name h = .ok a (h.set a (some (.text characters))) ∧ a ≠ 0 ∧
      h.cells a = none ∧ CameraNames.rustStrToC name = some characters := by
  unfold rustStrToC CameraNames.rustStrToC
  by_cases zero : 0 ∈ name
  · rw [if_pos zero, if_pos zero]
    exact Or.inl ⟨rfl, rfl⟩
  · rw [if_neg zero, if_neg zero]
    have notNull := libc.alloc.pick_ne_zero h
    exact Or.inr ⟨libc.alloc.pick h, _, rfl, notNull, libc.alloc.pick_fresh h, rfl⟩

section populated

variable {before added : List CCameraInfo} {camera : DiscoveredCamera}
  {rest : List DiscoveredCamera} {block : Block}

lemma Populated.unnamed (null : CameraNames.rustStrToC camera.modelName = none)
    (populated : Populated (h.set cCameras (some block)) cCameras (before ++ [entryOf camera 0])
      rest added h') :
    Populated h cCameras before (camera :: rest) (entryOf camera 0 :: added) h' := by
  have hnames : names (entryOf camera 0 :: added) = names added := names_null rfl added
  have notArray : ∀ a ∈ names added, a ≠ cCameras := by
    rintro a ha rfl
    have hnew := populated.new a ha
    rw [Heap.set_self] at hnew
    cases hnew
  constructor
  · rw [List.append_cons]
    exact populated.array
  · rw [List.map_cons, List.map_cons, populated.viewed, cCamera, null]
    rfl
  · rw [hnames]
    exact populated.distinct
  · rw [hnames]
    intro a ha
    rw [← Heap.set_other (some block) (notArray a ha)]
    exact populated.new a ha
  · rw [hnames]
    exact populated.texts
  · rw [hnames]
    intro a other notNew
    rw [← Heap.set_other (h := h) (some block) other]
    exact populated.others a other notNew

lemma Populated.named {a : Nat} {characters : Bytes} (notNull : a ≠ 0) (fresh : h.cells a = none)
    (notArray : a ≠ cCameras) (htext : CameraNames.rustStrToC camera.modelName = some characters)
    (populated : Populated ((h.set a (some (.text characters))).set cCameras (some block)) cCameras
      (before ++ [entryOf camera a]) rest added h') :
    Populated h cCameras before (camera :: rest) (entryOf camera a :: added) h' := by
  have hnames : names (entryOf camera a :: added) = a :: names added :=
    names_cons notNull added
  have known : ((h.set a (some (.text characters))).set cCameras (some block)).cells a =
      some (.text characters) := by
    rw [Heap.set_other _ notArray, Heap.set_self]
  have notNew : a ∉ names added := by
    intro ha
    have hnew := populated.new a ha
    rw [known] at hnew
    cases hnew
  have kept : h'.cells a = some (.text characters) :=
    (populated.others a notArray notNew).trans known
  have elsewhere : ∀ other ≠ cCameras, other ≠ a →
      ((h.set a (some (.text characters))).set cCameras (some block)).cells other =
        h.cells other := by
    intro other notArray' notText
    rw [Heap.set_other _ notArray', Heap.set_other _ notText]
  have others : ∀ other ∈ names added, other ≠ cCameras ∧ other ≠ a := by
    intro other hother
    have hnew := populated.new other hother
    constructor
    · rintro rfl
      rw [Heap.set_self] at hnew
      cases hnew
    · rintro rfl
      exact notNew hother
  constructor
  · rw [List.append_cons]
    exact populated.array
  · have hpointee : pointee h' a = some characters := by
      rw [pointee, if_neg notNull, kept]
    have hview : view h' (entryOf camera a) = cCamera camera := by
      rw [cCamera, htext, ← hpointee]
      rfl
    rw [List.map_cons, List.map_cons, populated.viewed, hview]
  · rw [hnames]
    exact List.nodup_cons.mpr ⟨notNew, populated.distinct⟩
  · rw [hnames]
    refine List.forall_mem_cons.mpr ⟨fresh, fun other hother => ?_⟩
    obtain ⟨notArray', notText⟩ := others other hother
    rw [← elsewhere other notArray' notText]
    exact populated.new other hother
  · rw [hnames]
    exact List.forall_mem_cons.mpr ⟨⟨characters, kept⟩, populated.texts⟩
  · rw [hnames]
    intro other notArray' unnamed
    obtain ⟨notText, notNew'⟩ := not_or.mp (unnamed ∘ List.mem_cons.mpr)
    rw [← elsewhere other notArray' notText]
    exact populated.others other notArray' notNew'

end populated

lemma populate_populates {before blank : List CCameraInfo} {cameras : List DiscoveredCamera}
    (array : h.cells cCameras = some (.cameras (before ++ blank)))
    (room : blank.length = cameras.length) :
    ∃ added h', populate libc cCameras before.length cameras h = .ok () h' ∧
      added.length = cameras.length ∧ Populated h cCameras before cameras added h' := by
  induction cameras generalizing h before blank with
  | nil =>
    rw [List.eq_nil_of_length_eq_zero room] at array
    refine ⟨[], h, rfl, rfl, ?_⟩
    exact {
      array := array
      viewed := rfl
      distinct := List.nodup_nil
      new := fun _ ha => absurd ha List.not_mem_nil
      texts := fun _ ha => absurd ha List.not_mem_nil
      others := fun _ _ _ => rfl }
  | cons camera rest ih =>
    obtain ⟨zeros, blank, rfl⟩ := List.exists_cons_of_length_eq_add_one room
    rw [List.length_cons, List.length_cons] at room
    -- the entry is stored, with the address of the string for its name
    have stored : ∀ (a : Nat) (h₁ : Heap Block), rustStrToC libc camera.modelName h = .ok a h₁ →
        h₁.cells cCameras = some (.cameras (before ++ zeros :: blank)) →
        ∃ block added h', populate libc cCameras before.length (camera :: rest) h = .ok () h' ∧
          added.length = rest.length ∧ Populated (h₁.set cCameras (some block)) cCameras
            (before ++ [entryOf camera a]) rest added h' := by
      intro a h₁ hname array₁
      have hset : (before ++ zeros :: blank).set before.length (entryOf camera a) =
          before ++ [entryOf camera a] ++ blank := by simp
      have inside : before.length < (before ++ zeros :: blank).length := by simp
      have hstore := storeCamera_ok array₁ inside (entryOf camera a)
      rw [hset] at hstore
      have array₂ : (h₁.set cCameras (some (.cameras (before ++ [entryOf camera a] ++
          blank)))).cells cCameras = some (.cameras (before ++ [entryOf camera a] ++ blank)) :=
        Heap.set_self _ _ _
      obtain ⟨added, h', hrun, hlength, populated⟩ := ih array₂ (Nat.succ.inj room)
      refine ⟨_, added, h', ?_, hlength, populated⟩
      rw [populate, bind_ok hname, bind_ok hstore]
      rw [List.length_append] at hrun
      exact hrun
    rcases rustStrToC_cases libc camera.modelName h with ⟨hname, null⟩ |
      ⟨a, characters, hname, notNull, fresh, htext⟩
    · obtain ⟨block, added, h', hrun, hlength, populated⟩ := stored 0 h hname array
      exact ⟨_, h', hrun, congrArg (· + 1) hlength, populated.unnamed null⟩
    · have notArray : a ≠ cCameras := by
        rintro rfl
        rw [fresh] at array
        cases array
      have array₁ : (h.set a (some (.text characters))).cells cCameras =
          some (.cameras (before ++ zeros :: blank)) := by
        rw [Heap.set_other _ notArray.symm, array]
      obtain ⟨block, added, h', hrun, hlength, populated⟩ := stored a _ hname array₁
      exact ⟨_, h', hrun, congrArg (· + 1) hlength, populated.named notNull fresh notArray htext⟩

/-- All strings of an array are freed, each once. -/
lemma freeNames_ok {before todo : List CCameraInfo}
    (array : h.cells cCameras = some (.cameras (before ++ todo)))
    (texts : ∀ a ∈ names todo, ∃ characters, h.cells a = some (.text characters))
    (distinct : (names todo).Nodup) :
    freeNames cCameras before.length todo.length h = .ok () (h.without (names todo)) := by
  induction todo generalizing h before with
  | nil =>
    change Result.ok () h = Result.ok () (h.without [])
    rw [Heap.without_nil]
  | cons entry rest ih =>
    have inside : (before ++ entry :: rest)[before.length]? = some entry := by simp
    have hload := loadCamera_ok array inside
    have hlength : (before ++ [entry]).length = before.length + 1 := List.length_append
    rw [List.length_cons, freeNames, bind_ok hload, ← hlength]
    rw [List.append_cons] at array
    by_cases null : entry.modelName = 0
    · rw [names_null null] at texts distinct ⊢
      rw [if_neg (not_not_intro null)]
      exact ih array texts distinct
    · rw [names_cons null] at texts distinct ⊢
      obtain ⟨⟨characters, htext⟩, htexts⟩ := List.forall_mem_cons.mp texts
      obtain ⟨notLater, later⟩ := List.nodup_cons.mp distinct
      have hfree : free Block.isText entry.modelName h = .ok () (h.set entry.modelName none) :=
        free_ok htext rfl
      rw [if_pos null, bind_ok hfree]
      have notArray : cCameras ≠ entry.modelName := by
        intro same
        rw [← same, array] at htext
        cases htext
      have kept : ∀ a ∈ names rest, ∃ characters,
          (h.set entry.modelName none).cells a = some (.text characters) := by
        intro a ha
        have other : a ≠ entry.modelName := fun same => notLater (same ▸ ha)
        rw [Heap.set_other none other]
        exact htexts a ha
      refine (ih ((Heap.set_other none notArray).trans array) kept later).trans ?_
      exact congrArg (Result.ok ()) Heap.without_set_none

/-- All entries are read as they are viewed. -/
lemma readCameras_ok {before todo : List CCameraInfo}
    (array : h.cells cCameras = some (.cameras (before ++ todo)))
    (texts : ∀ a ∈ names todo, ∃ characters, h.cells a = some (.text characters)) :
    readCameras cCameras before.length todo.length h = .ok (todo.map (view h)) h := by
  induction todo generalizing before with
  | nil => rfl
  | cons entry rest ih =>
    have inside : (before ++ entry :: rest)[before.length]? = some entry := by simp
    have hload := loadCamera_ok array inside
    have hlength : (before ++ [entry]).length = before.length + 1 := List.length_append
    have hname : loadName entry.modelName h = .ok (pointee h entry.modelName) h := by
      by_cases null : entry.modelName = 0
      · rw [loadName, pointee, if_pos null, if_pos null]
        rfl
      · obtain ⟨characters, htext⟩ := texts _ (mem_names List.mem_cons_self null)
        rw [loadName, pointee, if_neg null, if_neg null, htext, bind_ok (load_ok htext)]
        rfl
    have later : ∀ a ∈ names rest, ∃ characters, h.cells a = some (.text characters) :=
      fun a ha => texts a (mem_names_cons ha)
    rw [List.append_cons] at array
    have hrest := ih array later
    rw [hlength] at hrest
    rw [List.length_cons, readCameras, bind_ok hload, bind_ok hname, bind_ok hrest]
    rfl

end entries

end CameraArrays
