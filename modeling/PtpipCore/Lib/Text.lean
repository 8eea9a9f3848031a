import PtpipCore.Lib.ByteStream

/-!
# Text in byte strings

What a standard library offers between bytes and text: strict and lossy decoding,
trimming, and unsigned numbers in decimal.
-/

namespace Text

open ByteStream

def encodeUtf8 (cs : List Char) : Bytes := cs.flatMap String.utf8EncodeChar

/-- Strict decoding: `none` if any part is no encoded character. -/
def decodeUtf8 (bs : Bytes) : Option (List Char) :=
  bs.toByteArray.utf8Decode?.map Array.toList

lemma decodeUtf8_encodeUtf8 (cs : List Char) : decodeUtf8 (encodeUtf8 cs) = some cs := by
  have h : (encodeUtf8 cs).toByteArray = cs.utf8Encode := rfl
  rw [decodeUtf8, h, List.utf8Decode?_utf8Encode]
  rfl

lemma encodeUtf8_injective : Function.Injective encodeUtf8 := by
  intro cs ds h
  have hdecoded := congrArg decodeUtf8 h
  rw [decodeUtf8_encodeUtf8, decodeUtf8_encodeUtf8] at hdecoded
  exact Option.some.inj hdecoded

section zeros

/-- Only the null character has a zero byte. -/
lemma utf8EncodeChar_ne_zero {c : Char} (notNull : c ≠ '\x00') {b : UInt8}
    (hb : b ∈ String.utf8EncodeChar c) : b ≠ 0 := by
  have hpos : c.val.toNat ≠ 0 := by
    intro h
    exact notNull (Char.ext (UInt32.toNat_inj.mp h))
  have hbyte : ∀ k, 0 < k → k < 256 → UInt8.ofNat k ≠ 0 := by
    intro k hk hlt h
    have hzero := congrArg UInt8.toNat h
    rw [UInt8.toNat_ofNat_of_lt' hlt] at hzero
    exact absurd hzero (Nat.ne_of_gt hk)
  unfold String.utf8EncodeChar at hb
  dsimp only at hb
  split at hb
  · cases List.mem_singleton.mp hb
    exact hbyte _ (Nat.pos_of_ne_zero hpos) (by omega)
  split at hb
  · simp only [List.mem_cons, List.not_mem_nil, or_false] at hb
    rcases hb with rfl | rfl <;> exact hbyte _ (by omega) (by omega)
  split at hb
  · simp only [List.mem_cons, List.not_mem_nil, or_false] at hb
    rcases hb with rfl | rfl | rfl <;> exact hbyte _ (by omega) (by omega)
  · simp only [List.mem_cons, List.not_mem_nil, or_false] at hb
    rcases hb with rfl | rfl | rfl | rfl <;> exact hbyte _ (by omega) (by omega)

/-- A text without the null character ends where zeros begin. -/
lemma takeWhile_encodeUtf8 {cs : List Char} (noNull : '\x00' ∉ cs) (padding : Nat) :
    (encodeUtf8 cs ++ List.replicate padding 0).takeWhile (· ≠ 0) = encodeUtf8 cs := by
  have hbytes : ∀ b ∈ encodeUtf8 cs, decide (b ≠ 0) = true := by
    intro b hb
    obtain ⟨c, hc, hb⟩ := List.mem_flatMap.mp hb
    exact decide_eq_true (utf8EncodeChar_ne_zero (fun h => noNull (h ▸ hc)) hb)
  have hzeros : (List.replicate padding (0 : UInt8)).takeWhile (· ≠ 0) = [] := by
    cases padding with
    | zero => rfl
    | succ padding => exact List.takeWhile_cons_of_neg (by decide)
  rw [List.takeWhile_append_of_pos hbytes, hzeros, List.append_nil]

end zeros

section lossy

def isContinuation (b : UInt8) : Bool := 0x80 ≤ b && b ≤ 0xBF

/-- The length that a first byte announces, zero if it is none. -/
def utf8CharWidth (b : UInt8) : Nat :=
  if b < 0x80 then 1
  else if 0xC2 ≤ b ∧ b ≤ 0xDF then 2
  else if 0xE0 ≤ b ∧ b ≤ 0xEF then 3
  else if 0xF0 ≤ b ∧ b ≤ 0xF4 then 4
  else 0

/-- The second byte of some characters has a narrower range than the others. -/
def isSecond (first b : UInt8) : Bool :=
  if first = 0xE0 then 0xA0 ≤ b && b ≤ 0xBF
  else if first = 0xED then 0x80 ≤ b && b ≤ 0x9F
  else if first = 0xF0 then 0x90 ≤ b && b ≤ 0xBF
  else if first = 0xF4 then 0x80 ≤ b && b ≤ 0x8F
  else isContinuation b

/-- How many bytes after the first one belong to its character. -/
def followers (first : UInt8) : Bytes → Nat
  | [] => 0
  | second :: rest =>
    if isSecond first second then
      1 + ((rest.take (utf8CharWidth first - 2)).takeWhile isContinuation).length
    else 0

def replacement : Bytes := [0xEF, 0xBF, 0xBD]

/-- Every maximal part of a character that does not go on is replaced as a whole. -/
def lossyFrom : Nat → Bytes → Bytes
  | 0, _ => []
  | _ + 1, [] => []
  | fuel + 1, b :: rest =>
    let width := utf8CharWidth b
    let taken := if width < 2 then 0 else followers b rest
    (if width = 1 + taken then b :: rest.take taken else replacement) ++
      lossyFrom fuel (rest.drop taken)

/-- Every round takes a byte, so the length is enough. -/
def toStringLossy (bs : Bytes) : Bytes := lossyFrom bs.length bs

/-- Where strict decoding stops, and the length of what it cannot decode there, unless the
bytes end inside a character. -/
def utf8ErrorFrom : Nat → Nat → Bytes → Option (Nat × Option Nat)
  | 0, _, _ => none
  | _ + 1, _, [] => none
  | fuel + 1, validUpTo, b :: rest =>
    let width := utf8CharWidth b
    let taken := if width < 2 then 0 else followers b rest
    if width = 1 + taken then utf8ErrorFrom fuel (validUpTo + width) (rest.drop taken)
    else some (validUpTo, if 2 ≤ width ∧ rest.length = taken then none else some (1 + taken))

/-- The text of a decoding error. -/
def describeUtf8Error (bs : Bytes) : String :=
  match utf8ErrorFrom bs.length 0 bs with
  | some (validUpTo, some len) =>
    "invalid utf-8 sequence of " ++ toString len ++ " bytes from index " ++ toString validUpTo
  | some (validUpTo, none) =>
    "incomplete utf-8 byte sequence from index " ++ toString validUpTo
  | none => ""

example : describeUtf8Error [0x61, 0xE2, 0x82] =
    "incomplete utf-8 byte sequence from index 1" := by decide

lemma followers_le (first : UInt8) (rest : Bytes) : followers first rest ≤ rest.length := by
  cases rest with
  | nil => exact Nat.le_refl 0
  | cons second rest =>
    have hrun := (List.takeWhile_prefix (p := isContinuation)
      (l := rest.take (utf8CharWidth first - 2))).length_le
    rw [List.length_take] at hrun
    simp only [followers]
    split
    · simp only [List.length_cons]
      omega
    · exact Nat.zero_le _

lemma followers_lt_width (first : UInt8) (rest : Bytes) (h : 2 ≤ utf8CharWidth first) :
    followers first rest < utf8CharWidth first := by
  cases rest with
  | nil => exact Nat.lt_of_lt_of_le Nat.zero_lt_two h
  | cons second rest =>
    have hrun := (List.takeWhile_prefix (p := isContinuation)
      (l := rest.take (utf8CharWidth first - 2))).length_le
    rw [List.length_take] at hrun
    simp only [followers]
    split <;> omega

lemma utf8CharWidth_le (b : UInt8) : utf8CharWidth b ≤ 4 := by
  unfold utf8CharWidth
  repeat' split
  all_goals omega

lemma lossyFrom_length {fuel : Nat} {bs : Bytes} (enough : bs.length ≤ fuel) :
    bs.length ≤ (lossyFrom fuel bs).length := by
  induction fuel generalizing bs with
  | zero => exact Nat.le_trans enough (Nat.zero_le _)
  | succ fuel ih =>
    cases bs with
    | nil => exact Nat.zero_le _
    | cons b rest =>
      let taken := if utf8CharWidth b < 2 then 0 else followers b rest
      have hle : taken ≤ rest.length := by
        dsimp only [taken]
        split
        · exact Nat.zero_le _
        · exact followers_le b rest
      -- what is replaced is no longer than the replacement
      have hshort : utf8CharWidth b ≠ 1 + taken → 1 + taken ≤ 3 := by
        have hwidth := utf8CharWidth_le b
        intro incomplete
        dsimp only [taken] at incomplete ⊢
        split
        · omega
        · have hlt := followers_lt_width b rest (by omega)
          rw [if_neg ‹_›] at incomplete
          omega
      have hrest : (rest.drop taken).length ≤ (lossyFrom fuel (rest.drop taken)).length := by
        refine ih ?_
        simp only [List.length_cons, List.length_drop] at enough ⊢
        omega
      rw [List.length_drop] at hrest
      change _ ≤ (List.length (_ ++ lossyFrom fuel (rest.drop taken)))
      rw [List.length_append, List.length_cons]
      by_cases complete : utf8CharWidth b = 1 + taken
      · rw [if_pos complete, List.length_cons, List.length_take]
        omega
      · rw [if_neg complete]
        have := hshort complete
        simp only [replacement, List.length_cons, List.length_nil]
        omega

lemma toStringLossy_length (bs : Bytes) : bs.length ≤ (toStringLossy bs).length :=
  lossyFrom_length (Nat.le_refl _)

end lossy

/-- The characters with the property White_Space. -/
def isWhiteSpace (c : Char) : Bool :=
  let n := c.toNat
  9 ≤ n && n ≤ 13 || n = 0x20 || n = 0x85 || n = 0xA0 || n = 0x1680 ||
    0x2000 ≤ n && n ≤ 0x200A || n = 0x2028 || n = 0x2029 || n = 0x202F || n = 0x205F ||
    n = 0x3000

def trim (cs : List Char) : List Char :=
  (((cs.dropWhile isWhiteSpace).reverse).dropWhile isWhiteSpace).reverse

/-- An unsigned number of the given width: one plus sign may stand before its digits. -/
def parseUnsigned (bits : Nat) (cs : List Char) : Option Nat :=
  let digits := match cs with
    | '+' :: rest => rest
    | cs => cs
  let value := Nat.ofDigitChars 10 digits 0
  if digits ≠ [] ∧ digits.all Char.isDigit ∧ value < 2 ^ bits then some value else none

def decimal (n : Nat) : Bytes := encodeUtf8 (Nat.toDigits 10 n)

lemma isDigit_not_whiteSpace {c : Char} (h : c.isDigit) : isWhiteSpace c = false := by
  simp only [Char.isDigit, Bool.and_eq_true, decide_eq_true_eq] at h
  have hge : 48 ≤ c.toNat := h.1
  have hle : c.toNat ≤ 57 := h.2
  simp only [isWhiteSpace, Bool.or_eq_false_iff, Bool.and_eq_false_iff, decide_eq_false_iff_not]
  omega

lemma trim_digits {cs : List Char} (h : ∀ c ∈ cs, c.isDigit) : trim cs = cs := by
  have hdrop : ∀ ds : List Char, (∀ c ∈ ds, c.isDigit) → ds.dropWhile isWhiteSpace = ds := by
    intro ds hds
    cases ds with
    | nil => rfl
    | cons d ds =>
      rw [List.dropWhile_cons_of_neg]
      rw [isDigit_not_whiteSpace (hds d List.mem_cons_self)]
      exact Bool.false_ne_true
  rw [trim, hdrop cs h, hdrop cs.reverse (fun c hc => h c (List.mem_reverse.mp hc)),
    List.reverse_reverse]

lemma toDigits_isDigit (n : Nat) : ∀ c ∈ Nat.toDigits 10 n, c.isDigit :=
  fun _ hc => Nat.isDigit_of_mem_toDigits (by decide) (by decide) hc

/-- A number that fits is read back from its digits. -/
lemma parseUnsigned_toDigits {bits n : Nat} (fits : n < 2 ^ bits) :
    parseUnsigned bits (Nat.toDigits 10 n) = some n := by
  have hdigits := toDigits_isDigit n
  have hplain : (match Nat.toDigits 10 n with
      | '+' :: rest => rest
      | cs => cs) = Nat.toDigits 10 n := by
    split
    · next rest heq =>
      have := hdigits '+' (heq ▸ List.mem_cons_self)
      exact absurd this (by decide)
    · rfl
  unfold parseUnsigned
  simp only [hplain, Nat.ofDigitChars_ten_toDigits]
  rw [if_pos ⟨Nat.toDigits_ne_nil, List.all_eq_true.mpr hdigits, fits⟩]

end Text
