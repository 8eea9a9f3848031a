import Mathlib.Data.List.Induction

/-!
# Listening to every source once

Messages come from sources, and some of them announce an item with a key. Only
the first message of a source is listened to, and only the first item with a key
is kept. So an item may be lost for good: it is when its key is announced by no
message that is the first of its source.
-/

namespace FirstHeard

variable {δ σ ι κ : Type}

section first

variable (source : δ → σ)

/-- The message is in the list, and no message before it has its source. -/
def First (ds : List δ) (d : δ) : Prop :=
  ∃ pre post, ds = pre ++ d :: post ∧ ∀ e ∈ pre, source e ≠ source d

variable {source}

/-- One more message is the first of its source if the source is new. -/
lemma first_append (ds : List δ) (d e : δ) :
    First source (ds ++ [d]) e ↔
      First source ds e ∨ e = d ∧ ∀ e' ∈ ds, source e' ≠ source d := by
  constructor
  · rintro ⟨pre, post, heq, hpre⟩
    induction post using List.reverseRecOn with
    | nil =>
      obtain ⟨rfl, hd⟩ := List.append_inj' heq rfl
      cases hd
      exact Or.inr ⟨rfl, hpre⟩
    | append_singleton post last _ =>
      rw [← List.cons_append, ← List.append_assoc] at heq
      exact Or.inl ⟨pre, post, (List.append_inj' heq rfl).1, hpre⟩
  · rintro (⟨pre, post, rfl, hpre⟩ | ⟨rfl, hnew⟩)
    · exact ⟨pre, post ++ [d], by rw [List.append_assoc, List.cons_append], hpre⟩
    · exact ⟨ds, [], rfl, hnew⟩

end first

variable [DecidableEq σ] [DecidableEq κ]
variable (source : δ → σ) (decode : δ → Option ι) (key : ι → κ)

structure Heard (σ ι : Type) where
  seen : List σ
  kept : List ι

/-- An item whose key is there already is not kept. -/
def keep (kept : List ι) : Option ι → List ι
  | some c => if key c ∈ kept.map key then kept else kept ++ [c]
  | none => kept

def hear (h : Heard σ ι) (d : δ) : Heard σ ι :=
  if source d ∈ h.seen then h
  else ⟨source d :: h.seen, keep key h.kept (decode d)⟩

def listened (ds : List δ) : Heard σ ι := ds.foldl (hear source decode key) ⟨[], []⟩

variable {source decode key}

lemma listened_append (ds : List δ) (d : δ) :
    listened source decode key (ds ++ [d]) =
      hear source decode key (listened source decode key ds) d := by
  unfold listened
  rw [List.foldl_append, List.foldl_cons, List.foldl_nil]

lemma hear_seen (h : Heard σ ι) (d : δ) (s : σ) :
    s ∈ (hear source decode key h d).seen ↔ s ∈ h.seen ∨ s = source d := by
  unfold hear
  split
  · next hseen =>
    constructor
    · exact Or.inl
    · rintro (hs | rfl)
      · exact hs
      · exact hseen
  · rw [List.mem_cons, or_comm]

/-- The sources that were seen are those of the messages. -/
lemma mem_seen (ds : List δ) (s : σ) :
    s ∈ (listened source decode key ds).seen ↔ ∃ d ∈ ds, source d = s := by
  induction ds using List.reverseRecOn with
  | nil => simp [listened]
  | append_singleton ds d ih =>
    rw [listened_append, hear_seen, ih]
    constructor
    · rintro (⟨e, he, hs⟩ | rfl)
      · exact ⟨e, List.mem_append_left _ he, hs⟩
      · exact ⟨d, List.mem_append_right _ (List.mem_singleton_self d), rfl⟩
    · rintro ⟨e, he, rfl⟩
      rcases List.mem_append.mp he with he | he
      · exact Or.inl ⟨e, he, rfl⟩
      · exact Or.inr (congrArg source (List.mem_singleton.mp he))

lemma keep_nodup {kept : List ι} (h : (kept.map key).Nodup) (item : Option ι) :
    ((keep key kept item).map key).Nodup := by
  unfold keep
  split
  · next c =>
    split
    · exact h
    · next hnew =>
      rw [List.map_append, List.map_singleton]
      exact List.nodup_append.mpr ⟨h, List.pairwise_singleton _ _, fun k hk k' hk' heq =>
        hnew (List.mem_singleton.mp hk' ▸ heq ▸ hk)⟩
  · exact h

/-- No two items that are kept have the same key. -/
theorem keys_nodup (ds : List δ) : ((listened source decode key ds).kept.map key).Nodup := by
  induction ds using List.reverseRecOn with
  | nil => exact List.nodup_nil
  | append_singleton ds d ih =>
    rw [listened_append, hear]
    split
    · exact ih
    · exact keep_nodup ih _

lemma keep_sublist {kept cs : List ι} (h : kept.Sublist cs) (item : Option ι) :
    (keep key kept item).Sublist (cs ++ item.toList) := by
  unfold keep
  split
  · split
    · exact h.trans (List.sublist_append_left _ _)
    · exact h.append (List.Sublist.refl _)
  · exact h.trans (List.sublist_append_left _ _)

/-- What is kept was announced, and stands in the order of arrival. -/
theorem kept_sublist (ds : List δ) :
    (listened source decode key ds).kept.Sublist (ds.filterMap decode) := by
  induction ds using List.reverseRecOn with
  | nil => exact List.nil_sublist _
  | append_singleton ds d ih =>
    have hlast : [d].filterMap decode = (decode d).toList := by
      cases hd : decode d <;> simp [hd]
    rw [listened_append, hear, List.filterMap_append, hlast]
    split
    · exact ih.trans (List.sublist_append_left _ _)
    · exact keep_sublist ih _

lemma mem_keep_keys {kept : List ι} (item : Option ι) (k : κ) :
    k ∈ (keep key kept item).map key ↔ k ∈ kept.map key ∨ ∃ c, item = some c ∧ key c = k := by
  cases item with
  | none => simp [keep]
  | some c =>
    rw [keep]
    split
    · next hold =>
      constructor
      · exact Or.inl
      · rintro (hk | ⟨_, hc, rfl⟩)
        · exact hk
        · cases hc
          exact hold
    · simp [eq_comm]

/-- The keys that are kept are those that first messages announce. -/
theorem mem_keys (ds : List δ) (k : κ) :
    k ∈ (listened source decode key ds).kept.map key ↔
      ∃ d c, First source ds d ∧ decode d = some c ∧ key c = k := by
  induction ds using List.reverseRecOn with
  | nil => simp [listened, First]
  | append_singleton ds d ih =>
    simp only [listened_append, first_append]
    by_cases hseen : source d ∈ (listened source decode key ds).seen
    · obtain ⟨e, he, hsource⟩ := (mem_seen ds _).mp hseen
      rw [hear, if_pos hseen, ih]
      constructor
      · rintro ⟨d', c, hfirst, hc⟩
        exact ⟨d', c, Or.inl hfirst, hc⟩
      · rintro ⟨d', c, hfirst | ⟨_, hnew⟩, hc⟩
        · exact ⟨d', c, hfirst, hc⟩
        · exact absurd hsource (hnew e he)
    · have hnew : ∀ e ∈ ds, source e ≠ source d := fun e he heq =>
        hseen ((mem_seen ds _).mpr ⟨e, he, heq⟩)
      rw [hear, if_neg hseen, mem_keep_keys, ih]
      constructor
      · rintro (⟨d', c, hfirst, hc⟩ | ⟨c, hc⟩)
        · exact ⟨d', c, Or.inl hfirst, hc⟩
        · exact ⟨d, c, Or.inr ⟨rfl, hnew⟩, hc⟩
      · rintro ⟨d', c, hfirst | ⟨rfl, _⟩, hc⟩
        · exact Or.inl ⟨d', c, hfirst, hc⟩
        · exact Or.inr ⟨c, hc⟩

/-- So many items are kept, at least, as first messages announce different keys. -/
theorem le_kept_length (ds : List δ) (n : Nat) :
    n ≤ (listened source decode key ds).kept.length ↔
      ∃ keys : List κ, keys.length = n ∧ keys.Nodup ∧
        ∀ k ∈ keys, ∃ d c, First source ds d ∧ decode d = some c ∧ key c = k := by
  let known := (listened source decode key ds).kept.map key
  have hlength : known.length = (listened source decode key ds).kept.length := List.length_map _
  rw [← hlength]
  constructor
  · intro enough
    refine ⟨known.take n, List.length_take_of_le enough,
      (keys_nodup ds).sublist (List.take_sublist _ _), ?_⟩
    intro k hk
    exact (mem_keys ds k).mp (List.mem_of_mem_take hk)
  · rintro ⟨keys, rfl, nodup, announced⟩
    have hsubset : keys ⊆ known := fun k hk => (mem_keys ds k).mpr (announced k hk)
    exact nodup.length_le_of_subset hsubset

end FirstHeard
