import PtpipCore.Responses
import PtpipCore.Lib.FrontReaders

/-!
# Lists of ids

Behind the eight bytes of the response header stand a count and as many ids. The guard asks
for ten bytes, two less than header and count have; the reads behind it find what is missing.
-/

namespace IdLists

open Effects ByteStream FrontReaders Types Responses

/-- The number of ids that is announced. -/
def idCount (data : Bytes) : Nat := (u32At data 8).toNat

/-- As many ids as are announced, from behind the count on. -/
def idsIn (data : Bytes) : List UInt32 :=
  (List.range (idCount data)).map fun i => u32At data (12 + 4 * i)

/-- A list is made of a payload exactly if all ids that are announced are there. -/
lemma parseIdList_ok_iff {tooShort : String} {data : Bytes} {ids : List UInt32} :
    parseIdList tooShort data = .ok ids ↔
      12 + 4 * idCount data ≤ data.length ∧ ids = idsIn data := by
  unfold parseIdList
  split
  · next short => exact iff_of_false (fun h => by cases h) (fun h => by omega)
  rw [parseAt_ok_iff]
  simp only [readsFront_readU32Be.bind_ok_iff,
    (readsFront_repeated readsFront_readU32Be _).ok_iff, blocks_eq_map, List.drop_drop,
    List.length_drop, Nat.reduceAdd]
  constructor
  · rintro ⟨s, counted, inside, rfl, -⟩
    change 4 * idCount data ≤ data.length - 12 at inside
    constructor
    · omega
    · rfl
  · rintro ⟨inside, rfl⟩
    have counted : 4 ≤ data.length - 8 := by omega
    refine ⟨_, counted, ?_, rfl, rfl⟩
    change 4 * idCount data ≤ data.length - 12
    omega

/-- The texts of the guards apart, there is one parser. -/
lemma parseIdList_text {tooShort tooShort' : String} {data : Bytes} (long : 10 ≤ data.length) :
    parseIdList tooShort data = parseIdList tooShort' data := by
  have guarded : ¬ data.length < 10 := Nat.not_lt_of_le long
  rw [parseIdList, parseIdList, if_neg guarded, if_neg guarded]

/-- A word that lies in a stretch of the data is the same wherever the stretch is found. -/
lemma u32At_of_stretch {data data' : Bytes} {pos len start : Nat}
    (same : (data'.drop start).take len = (data.drop start).take len)
    (after : start ≤ pos) (before : pos + 4 ≤ start + len) : u32At data' pos = u32At data pos := by
  have hword : ∀ bs : Bytes, (bs.drop pos).take 4 =
      (((bs.drop start).take len).drop (pos - start)).take 4 := by
    intro bs
    rw [List.drop_take, List.take_take, List.drop_drop, Nat.min_eq_left (by omega),
      Nat.add_sub_cancel' after]
  rw [u32At, u32At, hword data', hword data, same]

/-- The count decides what is accepted, and only it and the ids are looked at. -/
structure DecodesIds (parse : Bytes → Except Failure (List UInt32)) : Prop where
  ok_iff : ∀ data ids, parse data = .ok ids ↔
    12 ≤ data.length ∧ 12 + 4 * idCount data ≤ data.length ∧ ids = idsIn data
  unread : ∀ data data' ids, parse data = .ok ids →
    (data'.drop 8).take (4 + 4 * ids.length) = (data.drop 8).take (4 + 4 * ids.length) →
    parse data' = .ok ids

lemma parseIdList_decodes (tooShort : String) : DecodesIds (parseIdList tooShort) where
  ok_iff data ids := by
    rw [parseIdList_ok_iff]
    constructor
    · rintro ⟨inside, hids⟩
      exact ⟨by omega, inside, hids⟩
    · rintro ⟨-, inside, hids⟩
      exact ⟨inside, hids⟩
  unread data data' ids hparse same := by
    obtain ⟨inside, rfl⟩ := parseIdList_ok_iff.mp hparse
    have counted : (idsIn data).length = idCount data := by
      rw [idsIn, List.length_map, List.length_range]
    rw [counted] at same
    have hcount : idCount data' = idCount data := by
      unfold idCount
      rw [u32At_of_stretch same (by omega) (by omega)]
    have hids : idsIn data = idsIn data' := by
      unfold idsIn
      rw [hcount]
      refine List.map_congr_left fun i hi => ?_
      have hlt : i < idCount data := List.mem_range.mp hi
      exact (u32At_of_stretch same (by omega) (by omega)).symm
    refine parseIdList_ok_iff.mpr ⟨?_, hids⟩
    have hlength := congrArg List.length same
    simp only [List.length_take, List.length_drop] at hlength
    omega

/-- Exactly the slices that hold all announced ids are decoded, to these ids; neither the header
nor what follows the ids is looked at, and both parsers do the same. -/
theorem id_lists_decode :
    DecodesIds parseStorageIds ∧ DecodesIds parseObjectHandles ∧
    ∀ data, (parseStorageIds data).toOption = (parseObjectHandles data).toOption ∧
      (10 ≤ data.length → parseStorageIds data = parseObjectHandles data) := by
  refine ⟨parseIdList_decodes _, parseIdList_decodes _, fun data => ?_⟩
  constructor
  · by_cases long : 10 ≤ data.length
    · exact congrArg Except.toOption (parseIdList_text long)
    · have short : data.length < 10 := Nat.lt_of_not_le long
      rw [parseStorageIds, parseObjectHandles, parseIdList, parseIdList, if_pos short, if_pos short]
      rfl
  · exact parseIdList_text

end IdLists
