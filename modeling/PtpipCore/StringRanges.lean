import PtpipCore.ResponseFormats

/-!
# Ranges of texts on narrow platforms

Offset and length of a text come from the device. Their sum is compared with the length of the
payload in the numbers of the platform, where it may wrap, and the slice is taken with the same
sum.
-/

namespace StringRanges

open Effects ByteStream FrontReaders Types Responses ResponseFormats
open Resume (Platform)

/-- No slice is taken that does not lie within the data: one that does not is refused. -/
structure Guarded (platform : Platform) (data : Bytes) (offset length : UInt32) : Prop where
  noPanic : extractString platform data
    (platform.asUsize offset.toNat, platform.asUsize length.toNat) ≠ .error .panic
  refused : data.length < offset.toNat + length.toNat → ∃ message, extractString platform data
    (platform.asUsize offset.toNat, platform.asUsize length.toNat) = fail (.protocolError message)

section wide

variable {platform : Platform} (wide : Wide platform)

include wide

/-- The sum loses at most what is needed for it to be below each of the two. -/
lemma wrapped_lt {offset length : Nat} (hoffset : offset < 2 ^ 32) (hlength : length < 2 ^ 32)
    (wraps : platform.asUsize (offset + length) ≠ offset + length) :
    platform.asUsize (offset + length) < offset := by
  have hfits : 2 ^ 32 ≤ 2 ^ platform.usizeBits := Nat.pow_le_pow_right Nat.zero_lt_two wide
  unfold Platform.asUsize at wraps ⊢
  have hge : 2 ^ platform.usizeBits ≤ offset + length := by
    by_contra hlt
    exact wraps (Nat.mod_eq_of_lt (Nat.lt_of_not_le hlt))
  rw [Nat.mod_eq_sub_mod hge, Nat.mod_eq_of_lt (by omega)]
  omega

lemma guarded_iff (data : Bytes) (offset length : UInt32) :
    Guarded platform data offset length ↔ AddsUp platform data (offset.toNat, length.toNat) := by
  have hoffset := asUsize_of_lt_u32 wide offset.toNat_lt
  have hlength := asUsize_of_lt_u32 wide length.toNat_lt
  constructor
  · intro guarded
    by_contra lost
    obtain ⟨wraps, inside⟩ := not_or.mp lost
    apply guarded.noPanic
    have before := wrapped_lt wide offset.toNat_lt length.toNat_lt wraps
    rw [hoffset, hlength]
    simp only [extractString]
    rw [if_neg inside, if_pos before]
  · intro addsUp
    constructor
    · rw [hoffset, hlength]
      exact extractString_not_panic addsUp
    · intro outside
      rw [hoffset, hlength]
      have refused : data.length < platform.asUsize (offset.toNat + length.toNat) := by
        rcases addsUp with exact | refused
        · rw [exact]
          exact outside
        · exact refused
      exact ⟨_, if_pos refused⟩

lemma parseStorageInfo_not_panic {data : Bytes}
    (addsUp : ∀ pos ∈ [38, 46], AddsUp platform data (rangeAt data pos)) :
    parseStorageInfo platform data ≠ .error .panic := by
  unfold parseStorageInfo
  split
  · exact fun h => by cases h
  refine parseAt_not_panic ?_
  simp only [
    (readsFront_readRange_wide wide).errorIs_bind_iff_own (failsOnly_readRange io_survives),
    readsFront_readU16Be.errorIs_bind_iff_own (failsOnly_readU16Be io_survives),
    readsFront_readU32Be.errorIs_bind_iff_own (failsOnly_readU32Be io_survives),
    readsFront_readU64Be.errorIs_bind_iff_own (failsOnly_readU64Be io_survives),
    rangeAt_drop, List.drop_drop, Nat.reduceAdd]
  intro _ _ _ _ _ _ _ _ _
  refine extract_bind_survives (addsUp 38 (by decide)) fun _ => ?_
  exact extract_bind_survives (addsUp 46 (by decide)) fun _ => errorIs_ok _ _

lemma parseObjectInfo_not_panic (objectHandle : UInt32) {data : Bytes}
    (addsUp : ∀ pos ∈ [28, 36, 44, 52], AddsUp platform data (rangeAt data pos)) :
    parseObjectInfo platform objectHandle data ≠ .error .panic := by
  unfold parseObjectInfo
  split
  · exact fun h => by cases h
  refine parseAt_not_panic ?_
  simp only [
    (readsFront_readRange_wide wide).errorIs_bind_iff_own (failsOnly_readRange io_survives),
    readsFront_readU8Be.errorIs_bind_iff_own (failsOnly_readU8Be io_survives),
    readsFront_readU16Be.errorIs_bind_iff_own (failsOnly_readU16Be io_survives),
    readsFront_readU32Be.errorIs_bind_iff_own (failsOnly_readU32Be io_survives),
    readsFront_readU64Be.errorIs_bind_iff_own (failsOnly_readU64Be io_survives),
    skip_bind, rangeAt_drop, List.drop_drop, Nat.reduceAdd]
  intro _ _ _ _ _ _ _ _ _
  refine extract_bind_survives (addsUp 28 (by decide)) fun _ => ?_
  refine extract_bind_survives (addsUp 36 (by decide)) fun _ => ?_
  refine extract_bind_survives (addsUp 44 (by decide)) fun _ => ?_
  exact extract_bind_survives (addsUp 52 (by decide)) fun _ => errorIs_ok _ _

end wide

/-- A text is extracted safely exactly if its offset and length add up, or wrap to more than the
data has; a parser all of whose texts do never panics. -/
theorem string_ranges_guarded_iff {platform : Platform} (wide : Wide platform) (data : Bytes) :
    (∀ offset length, Guarded platform data offset length ↔
      AddsUp platform data (offset.toNat, length.toNat)) ∧
    ((∀ pos ∈ [8, 16, 24, 32], AddsUp platform data (rangeAt data pos)) →
      parseDeviceInfo platform data ≠ .error .panic) ∧
    ((∀ pos ∈ [38, 46], AddsUp platform data (rangeAt data pos)) →
      parseStorageInfo platform data ≠ .error .panic) ∧
    ∀ objectHandle, (∀ pos ∈ [28, 36, 44, 52], AddsUp platform data (rangeAt data pos)) →
      parseObjectInfo platform objectHandle data ≠ .error .panic :=
  ⟨guarded_iff wide data, parseDeviceInfo_not_panic wide, parseStorageInfo_not_panic wide,
    fun objectHandle => parseObjectInfo_not_panic wide objectHandle⟩

/-- With thirty-two bits this sum is one, which an empty payload has not. -/
theorem string_ranges_guarded_wrapped : Guarded .bits32 [] 0xFFFFFFFF 2 :=
  have wide : Wide .bits32 := Nat.le_refl 32
  ((string_ranges_guarded_iff wide []).1 0xFFFFFFFF 2).mpr (Or.inr (by decide))

/-- An object whose name begins at the last address of four bytes and has one byte. -/
private def wrapping : Bytes :=
  List.replicate 28 0 ++ [0xFF, 0xFF, 0xFF, 0xFF, 0, 0, 0, 1] ++ List.replicate 28 0

/-- With thirty-two bits the sum is zero, and the slice begins far behind its end. -/
theorem wrapped_range_panics :
    parseObjectInfo .bits32 1 wrapping = .error .panic ∧
    rangeAt wrapping 28 = (0xFFFFFFFF, 1) ∧ ¬ Guarded .bits32 wrapping 0xFFFFFFFF 1 := by
  refine ⟨by decide, by decide, fun guarded => ?_⟩
  exact guarded.noPanic (by decide)

end StringRanges
