import Mathlib.Data.List.DropRight
import PtpipCore.Lib.Text

/-!
# What lossy decoding makes of bytes

Its result is valid text always. Bytes that are text already stay as they are, and zero bytes
stand in the result where they stood before.
-/

namespace Text

open ByteStream

section characters

lemma isContinuation_iff {b : UInt8} :
    isContinuation b ↔ 0x80 ≤ b.toNat ∧ b.toNat ≤ 0xBF := by
  simp only [isContinuation, Bool.and_eq_true, decide_eq_true_eq]
  exact Iff.rfl

/-- Four first bytes narrow the range of the second. -/
lemma isSecond_iff {a b : UInt8} : isSecond a b ↔
    (a.toNat = 0xE0 → 0xA0 ≤ b.toNat) ∧ (a.toNat = 0xED → b.toNat ≤ 0x9F) ∧
      (a.toNat = 0xF0 → 0x90 ≤ b.toNat) ∧ (a.toNat = 0xF4 → b.toNat ≤ 0x8F) ∧
      0x80 ≤ b.toNat ∧ b.toNat ≤ 0xBF := by
  simp only [isSecond, isContinuation, ← UInt8.toNat_inj, UInt8.le_iff_toNat_le, UInt8.reduceToNat]
  split
  · simp only [Bool.and_eq_true, decide_eq_true_eq]
    omega
  split
  · simp only [Bool.and_eq_true, decide_eq_true_eq]
    omega
  split
  · simp only [Bool.and_eq_true, decide_eq_true_eq]
    omega
  split <;> simp only [Bool.and_eq_true, decide_eq_true_eq] <;> omega

lemma utf8CharWidth_eq (b : UInt8) : utf8CharWidth b =
    if b.toNat < 0x80 then 1
    else if 0xC2 ≤ b.toNat ∧ b.toNat ≤ 0xDF then 2
    else if 0xE0 ≤ b.toNat ∧ b.toNat ≤ 0xEF then 3
    else if 0xF0 ≤ b.toNat ∧ b.toNat ≤ 0xF4 then 4
    else 0 := rfl

/-- The bytes of one character, by the ranges in which they lie. -/
inductive CharBytes : Bytes → Prop where
  | one {a : UInt8} (ha : a.toNat < 0x80) : CharBytes [a]
  | two {a b : UInt8} (ha : 0xC2 ≤ a.toNat ∧ a.toNat ≤ 0xDF) (hb : isSecond a b) :
      CharBytes [a, b]
  | three {a b c : UInt8} (ha : 0xE0 ≤ a.toNat ∧ a.toNat ≤ 0xEF) (hb : isSecond a b)
      (hc : isContinuation c) : CharBytes [a, b, c]
  | four {a b c d : UInt8} (ha : 0xF0 ≤ a.toNat ∧ a.toNat ≤ 0xF4) (hb : isSecond a b)
      (hc : isContinuation c) (hd : isContinuation d) : CharBytes [a, b, c, d]

lemma exists_char {v : Nat} (valid : v.isValidChar) : ∃ c : Char, c.val.toNat = v :=
  ⟨Char.ofNatAux v valid, rfl⟩

lemma ofNat_eq {n : Nat} {b : UInt8} (h : n = b.toNat) : UInt8.ofNat n = b := by
  rw [h, UInt8.ofNat_toNat]

/-- In these ranges lie the bytes of some character. -/
lemma CharBytes.encodes {bs : Bytes} (h : CharBytes bs) :
    ∃ c : Char, String.utf8EncodeChar c = bs := by
  cases h with
  | @one a ha =>
    obtain ⟨c, hc⟩ := exists_char (v := a.toNat) (Or.inl (by omega))
    refine ⟨c, ?_⟩
    simp only [String.utf8EncodeChar, hc]
    rw [if_pos (by omega), UInt8.ofNat_toNat]
  | @two a b ha hb =>
    have hb := isSecond_iff.mp hb
    obtain ⟨c, hc⟩ := exists_char
      (v := (a.toNat - 0xC0) * 64 + (b.toNat - 0x80)) (Or.inl (by omega))
    refine ⟨c, ?_⟩
    simp only [String.utf8EncodeChar, hc]
    rw [if_neg (by omega), if_pos (by omega), ofNat_eq (b := a) (by omega),
      ofNat_eq (b := b) (by omega)]
  | @three a b c ha hb hc =>
    have hb := isSecond_iff.mp hb
    have hc := isContinuation_iff.mp hc
    obtain ⟨e, he⟩ := exists_char
      (v := (a.toNat - 0xE0) * 4096 + (b.toNat - 0x80) * 64 + (c.toNat - 0x80)) (by
        unfold Nat.isValidChar
        omega)
    refine ⟨e, ?_⟩
    simp only [String.utf8EncodeChar, he]
    rw [if_neg (by omega), if_neg (by omega), if_pos (by omega), ofNat_eq (b := a) (by omega),
      ofNat_eq (b := b) (by omega), ofNat_eq (b := c) (by omega)]
  | @four a b c d ha hb hc hd =>
    have hb := isSecond_iff.mp hb
    have hc := isContinuation_iff.mp hc
    have hd := isContinuation_iff.mp hd
    obtain ⟨e, he⟩ := exists_char
      (v := (a.toNat - 0xF0) * 262144 + (b.toNat - 0x80) * 4096 + (c.toNat - 0x80) * 64 +
        (d.toNat - 0x80)) (by
        unfold Nat.isValidChar
        omega)
    refine ⟨e, ?_⟩
    simp only [String.utf8EncodeChar, he]
    rw [if_neg (by omega), if_neg (by omega), if_neg (by omega), ofNat_eq (b := a) (by omega),
      ofNat_eq (b := b) (by omega), ofNat_eq (b := c) (by omega), ofNat_eq (b := d) (by omega)]

/-- The bytes of every character lie in these ranges. -/
lemma charBytes_utf8EncodeChar (c : Char) : CharBytes (String.utf8EncodeChar c) := by
  have hvalid : c.val.toNat < 0xD800 ∨ 0xDFFF < c.val.toNat ∧ c.val.toNat < 0x110000 := c.valid
  have hbyte : ∀ {n : Nat}, n < 256 → (UInt8.ofNat n).toNat = n :=
    fun h => UInt8.toNat_ofNat_of_lt' h
  simp only [String.utf8EncodeChar]
  split
  · refine .one ?_
    rw [hbyte (by omega)]
    omega
  split
  · refine .two ?_ (isSecond_iff.mpr ?_)
    · rw [hbyte (by omega)]
      omega
    · rw [hbyte (by omega), hbyte (by omega)]
      omega
  split
  · refine .three ?_ (isSecond_iff.mpr ?_) (isContinuation_iff.mpr ?_)
    · rw [hbyte (by omega)]
      omega
    · rw [hbyte (by omega), hbyte (by omega)]
      omega
    · rw [hbyte (by omega)]
      omega
  · refine .four ?_ (isSecond_iff.mpr ?_) (isContinuation_iff.mpr ?_) (isContinuation_iff.mpr ?_)
    · rw [hbyte (by omega)]
      omega
    · rw [hbyte (by omega), hbyte (by omega)]
      omega
    · rw [hbyte (by omega)]
      omega
    · rw [hbyte (by omega)]
      omega

end characters

section rounds

/-- How many bytes one round takes beyond the first. -/
def taken (b : UInt8) (rest : Bytes) : Nat := if utf8CharWidth b < 2 then 0 else followers b rest

/-- What one round puts out. -/
def given (b : UInt8) (rest : Bytes) : Bytes :=
  if utf8CharWidth b = 1 + taken b rest then b :: rest.take (taken b rest) else replacement

lemma taken_le (b : UInt8) (rest : Bytes) : taken b rest ≤ rest.length := by
  unfold taken
  split
  · exact Nat.zero_le _
  · exact followers_le b rest

lemma lossyFrom_cons (fuel : Nat) (b : UInt8) (rest : Bytes) :
    lossyFrom (fuel + 1) (b :: rest) =
      given b rest ++ lossyFrom fuel (rest.drop (taken b rest)) := rfl

/-- More fuel than bytes changes nothing. -/
lemma lossyFrom_fuel {fuel fuel' : Nat} {bs : Bytes} (enough : bs.length ≤ fuel)
    (enough' : bs.length ≤ fuel') : lossyFrom fuel bs = lossyFrom fuel' bs := by
  induction fuel generalizing fuel' bs with
  | zero =>
    rw [List.eq_nil_of_length_eq_zero (Nat.le_zero.mp enough)]
    cases fuel' <;> rfl
  | succ fuel ih =>
    cases bs with
    | nil => cases fuel' <;> rfl
    | cons b rest =>
      rw [List.length_cons] at enough enough'
      obtain ⟨fuel', rfl⟩ : ∃ n, fuel' = n + 1 := ⟨fuel' - 1, by omega⟩
      rw [lossyFrom_cons, lossyFrom_cons]
      have hdrop : (rest.drop (taken b rest)).length ≤ rest.length := by
        rw [List.length_drop]
        omega
      have hrest : lossyFrom fuel (rest.drop (taken b rest)) =
          lossyFrom fuel' (rest.drop (taken b rest)) := ih (by omega) (by omega)
      rw [hrest]

lemma toStringLossy_nil : toStringLossy [] = [] := rfl

lemma toStringLossy_cons (b : UInt8) (rest : Bytes) :
    toStringLossy (b :: rest) = given b rest ++ toStringLossy (rest.drop (taken b rest)) := by
  have hdrop : (rest.drop (taken b rest)).length ≤ rest.length := by
    rw [List.length_drop]
    omega
  rw [toStringLossy, List.length_cons, lossyFrom_cons, lossyFrom_fuel hdrop (Nat.le_refl _)]
  rfl

/-- What holds of no bytes, and of bytes if it holds of those that a round leaves. -/
lemma lossy_induct {P : Bytes → Prop} (nil : P [])
    (round : ∀ b rest, P (rest.drop (taken b rest)) → P (b :: rest)) (bs : Bytes) : P bs := by
  induction hn : bs.length using Nat.strongRecOn generalizing bs with
  | ind n ih =>
    cases bs with
    | nil => exact nil
    | cons b rest =>
      refine round b rest (ih _ ?_ _ rfl)
      rw [List.length_drop, ← hn, List.length_cons]
      omega

/-- A first byte is followed by the second one and a run of continuations. -/
lemma followers_eq_succ {b : UInt8} {rest : Bytes} {k : Nat} (h : followers b rest = k + 1) :
    ∃ second more, rest = second :: more ∧ isSecond b second ∧
      ((more.take (utf8CharWidth b - 2)).takeWhile isContinuation).length = k := by
  cases rest with
  | nil => cases h
  | cons second more =>
    simp only [followers] at h
    split at h
    · next hsecond => exact ⟨second, more, rfl, hsecond, by omega⟩
    · cases h

/-- A run that is as long as it may be is all of what it may be. -/
lemma run_full {p : UInt8 → Bool} {more : Bytes} {k : Nat}
    (full : ((more.take k).takeWhile p).length = k) :
    (more.take k).length = k ∧ ∀ b ∈ more.take k, p b := by
  have hprefix := List.takeWhile_prefix (p := p) (l := more.take k)
  have htake := List.length_take_le k more
  have hle := hprefix.length_le
  have hlength : (more.take k).length = k := by omega
  have hall : (more.take k).takeWhile p = more.take k := hprefix.eq_of_length (by omega)
  exact ⟨hlength, List.takeWhile_eq_self_iff.mp hall⟩

/-- Only a byte below the others announces itself alone. -/
lemma lt_of_width_one {b : UInt8} (h : utf8CharWidth b = 1) : b.toNat < 0x80 := by
  rw [utf8CharWidth_eq] at h
  by_contra high
  rw [if_neg high] at h
  split at h
  · omega
  split at h
  · omega
  split at h <;> omega

/-- A round that takes as many bytes as the first one announces takes a character. -/
lemma charBytes_of_complete {b : UInt8} {rest : Bytes}
    (complete : utf8CharWidth b = 1 + taken b rest) :
    CharBytes (b :: rest.take (taken b rest)) := by
  by_cases single : utf8CharWidth b < 2
  · have hnone : taken b rest = 0 := if_pos single
    rw [hnone] at complete ⊢
    exact .one (lt_of_width_one complete)
  have hfollow : taken b rest = followers b rest := if_neg single
  rw [hfollow] at complete ⊢
  have hpos : followers b rest = (followers b rest - 1) + 1 := by omega
  obtain ⟨second, more, rfl, hsecond, hrun⟩ := followers_eq_succ hpos
  rw [hpos]
  have hwidth := utf8CharWidth_eq b
  split at hwidth
  · omega
  split at hwidth
  · next range =>
    have hk : followers b (second :: more) - 1 = 0 := by omega
    rw [hk]
    exact .two range hsecond
  split at hwidth
  · next range =>
    have hk : followers b (second :: more) - 1 = 1 := by omega
    rw [hk, hwidth] at hrun
    rw [hk]
    obtain ⟨hlength, hall⟩ := run_full hrun
    match more, hlength, hall with
    | c :: more, _, hall => exact .three range hsecond (hall c List.mem_cons_self)
  split at hwidth
  · next range =>
    have hk : followers b (second :: more) - 1 = 2 := by omega
    rw [hk, hwidth] at hrun
    rw [hk]
    obtain ⟨hlength, hall⟩ := run_full hrun
    match more, hlength, hall with
    | c :: d :: more, _, hall =>
      exact .four range hsecond (hall c List.mem_cons_self)
        (hall d (List.mem_cons_of_mem c List.mem_cons_self))
  · omega

/-- From bytes that begin with a character, a round takes it. -/
lemma complete_of_charBytes {b : UInt8} {tail : Bytes} (char : CharBytes (b :: tail))
    (rest : Bytes) : taken b (tail ++ rest) = tail.length ∧ utf8CharWidth b = 1 + tail.length := by
  cases char with
  | one ha =>
    have hwidth : utf8CharWidth b = 1 := by rw [utf8CharWidth_eq, if_pos ha]
    exact ⟨if_pos (by omega), hwidth⟩
  | two ha hb =>
    have hwidth : utf8CharWidth b = 2 := by
      rw [utf8CharWidth_eq, if_neg (by omega), if_pos ha]
    refine ⟨?_, hwidth⟩
    rw [taken, if_neg (by omega)]
    simp [followers, hb, hwidth]
  | three ha hb hc =>
    have hwidth : utf8CharWidth b = 3 := by
      rw [utf8CharWidth_eq, if_neg (by omega), if_neg (by omega), if_pos ha]
    refine ⟨?_, hwidth⟩
    rw [taken, if_neg (by omega)]
    simp [followers, hb, hc, hwidth]
  | four ha hb hc hd =>
    have hwidth : utf8CharWidth b = 4 := by
      rw [utf8CharWidth_eq, if_neg (by omega), if_neg (by omega), if_neg (by omega), if_pos ha]
    refine ⟨?_, hwidth⟩
    rw [taken, if_neg (by omega)]
    simp [followers, hb, hc, hd, hwidth]

end rounds

section texts

lemma encodeUtf8_cons (c : Char) (cs : List Char) :
    encodeUtf8 (c :: cs) = String.utf8EncodeChar c ++ encodeUtf8 cs := List.flatMap_cons

/-- One round puts out one character. -/
lemma given_encodes (b : UInt8) (rest : Bytes) :
    ∃ c : Char, String.utf8EncodeChar c = given b rest := by
  unfold given
  split
  · next complete => exact (charBytes_of_complete complete).encodes
  · exact ⟨'\uFFFD', rfl⟩

/-- The result is text. -/
lemma toStringLossy_valid (bs : Bytes) : ∃ cs, toStringLossy bs = encodeUtf8 cs := by
  induction bs using lossy_induct with
  | nil => exact ⟨[], rfl⟩
  | round b rest ih =>
    obtain ⟨c, hc⟩ := given_encodes b rest
    obtain ⟨cs, hcs⟩ := ih
    exact ⟨c :: cs, by rw [toStringLossy_cons, hcs, ← hc, encodeUtf8_cons]⟩

lemma utf8EncodeChar_ne_nil (c : Char) : String.utf8EncodeChar c ≠ [] := by
  have h := charBytes_utf8EncodeChar c
  intro hnil
  rw [hnil] at h
  cases h

/-- Text stays as it is. -/
lemma toStringLossy_encodeUtf8 (cs : List Char) :
    toStringLossy (encodeUtf8 cs) = encodeUtf8 cs := by
  induction cs with
  | nil => rfl
  | cons c cs ih =>
    have char := charBytes_utf8EncodeChar c
    rw [encodeUtf8_cons]
    cases hbytes : String.utf8EncodeChar c with
    | nil => exact absurd hbytes (utf8EncodeChar_ne_nil c)
    | cons b tail =>
      rw [hbytes] at char
      obtain ⟨htaken, hwidth⟩ := complete_of_charBytes char (encodeUtf8 cs)
      rw [List.cons_append, toStringLossy_cons, given, htaken, if_pos hwidth,
        List.take_left, List.drop_left, ih, List.cons_append]

end texts

section zeros

lemma zero_not_continuation : isContinuation 0 = false := rfl

lemma isSecond_zero (b : UInt8) : isSecond b 0 = false := by
  cases h : isSecond b 0 with
  | false => rfl
  | true => exact absurd (isSecond_iff.mp h).2.2.2.2.1 (by decide)

/-- A run stops at what does not belong to it, whatever comes then. -/
lemma takeWhile_take_stop {p : UInt8 → Bool} {z : UInt8} (stop : p z = false) (xs ys : Bytes)
    (k : Nat) : ((xs ++ z :: ys).take k).takeWhile p = (xs.take k).takeWhile p := by
  induction xs generalizing k with
  | nil =>
    cases k with
    | zero => rfl
    | succ k => simp [stop]
  | cons x xs ih =>
    cases k with
    | zero => rfl
    | succ k => simp only [List.cons_append, List.take_succ_cons, List.takeWhile_cons, ih]

/-- No character goes on with a zero byte. -/
lemma taken_append_zero (b : UInt8) (xs ys : Bytes) :
    taken b (xs ++ 0 :: ys) = taken b xs := by
  have hfollow : followers b (xs ++ 0 :: ys) = followers b xs := by
    cases xs with
    | nil => simp [followers, isSecond_zero]
    | cons second more =>
      simp only [List.cons_append, followers, takeWhile_take_stop zero_not_continuation]
  rw [taken, taken, hfollow]

lemma given_append_zero (b : UInt8) (xs ys : Bytes) : given b (xs ++ 0 :: ys) = given b xs := by
  rw [given, given, taken_append_zero, List.take_append_of_le_length (taken_le b xs)]

lemma toStringLossy_zero (ys : Bytes) : toStringLossy (0 :: ys) = 0 :: toStringLossy ys :=
  toStringLossy_cons 0 ys

/-- A zero byte parts the text. -/
lemma toStringLossy_append_zero (xs ys : Bytes) :
    toStringLossy (xs ++ 0 :: ys) = toStringLossy xs ++ 0 :: toStringLossy ys := by
  induction xs using lossy_induct with
  | nil => exact toStringLossy_zero ys
  | round b rest ih =>
    rw [List.cons_append, toStringLossy_cons, toStringLossy_cons, given_append_zero,
      taken_append_zero, List.drop_append_of_le_length (taken_le b rest), ih, List.append_assoc]

/-- One round puts out no zero byte that it has not taken. -/
lemma zero_mem_given {b : UInt8} {rest : Bytes} (h : 0 ∈ given b rest) :
    0 ∈ b :: rest.take (taken b rest) := by
  unfold given at h
  split at h
  · exact h
  · exact absurd h (by decide)

lemma zero_mem_toStringLossy {bs : Bytes} : 0 ∈ toStringLossy bs ↔ 0 ∈ bs := by
  constructor
  · induction bs using lossy_induct with
    | nil => exact id
    | round b rest ih =>
      rw [toStringLossy_cons, List.mem_append]
      rintro (hgiven | hrest)
      · rcases List.mem_cons.mp (zero_mem_given hgiven) with rfl | htake
        · exact List.mem_cons_self
        · exact List.mem_cons_of_mem b (List.mem_of_mem_take htake)
      · exact List.mem_cons_of_mem b (List.mem_of_mem_drop (ih hrest))
  · intro h
    obtain ⟨xs, ys, rfl⟩ := List.append_of_mem h
    rw [toStringLossy_append_zero]
    exact List.mem_append_right _ List.mem_cons_self

/-- What does not begin with a zero byte does not begin with one afterwards. -/
lemma given_head {b : UInt8} (nonzero : b ≠ 0) (rest : Bytes) :
    ∃ c more, given b rest = c :: more ∧ c ≠ 0 := by
  unfold given
  split
  · exact ⟨b, _, rfl, nonzero⟩
  · exact ⟨0xEF, _, rfl, by decide⟩

lemma dropWhile_toStringLossy (bs : Bytes) :
    (toStringLossy bs).dropWhile (· = 0) = toStringLossy (bs.dropWhile (· = 0)) := by
  induction bs with
  | nil => rfl
  | cons b bs ih =>
    by_cases hb : b = 0
    · subst hb
      rw [toStringLossy_zero, List.dropWhile_cons_of_pos (by decide),
        List.dropWhile_cons_of_pos (by decide), ih]
    · obtain ⟨c, more, hgiven, hc⟩ := given_head hb bs
      rw [List.dropWhile_cons_of_neg (by simpa using hb), toStringLossy_cons, hgiven,
        List.cons_append, List.dropWhile_cons_of_neg (by simpa using hc)]

/-- What does not end with a zero byte does not end with one afterwards. -/
lemma toStringLossy_last {b : UInt8} (nonzero : b ≠ 0) (bs : Bytes) :
    ∃ front c, toStringLossy (bs ++ [b]) = front ++ [c] ∧ c ≠ 0 := by
  generalize hxs : bs ++ [b] = xs
  induction xs using lossy_induct generalizing bs with
  | nil => exact absurd hxs (List.append_ne_nil_of_right_ne_nil bs (List.cons_ne_nil b []))
  | round first rest ih =>
    rw [toStringLossy_cons]
    rcases List.eq_nil_or_concat (rest.drop (taken first rest)) with all | ⟨left, last, hleft⟩
    · -- the last round: it takes the last byte, or replaces what it belongs to
      have htake : rest.take (taken first rest) = rest := by
        rw [← List.append_nil (rest.take _), ← all, List.take_append_drop]
      rw [all, toStringLossy_nil, List.append_nil, given]
      split
      · exact ⟨bs, b, by rw [htake, hxs], nonzero⟩
      · exact ⟨[0xEF, 0xBF], 0xBD, rfl, by decide⟩
    · rw [List.concat_eq_append] at hleft
      have hsplit : bs ++ [b] = (first :: rest.take (taken first rest) ++ left) ++ [last] := by
        rw [hxs, List.append_assoc, ← hleft, List.cons_append, List.take_append_drop]
      obtain ⟨-, hlast⟩ := List.append_inj' hsplit rfl
      cases hlast
      obtain ⟨front, c, hrest, hc⟩ := ih left hleft.symm
      exact ⟨given first rest ++ front, c, by rw [hrest, List.append_assoc], hc⟩

lemma rdropWhile_toStringLossy (bs : Bytes) :
    (toStringLossy bs).rdropWhile (· = 0) = toStringLossy (bs.rdropWhile (· = 0)) := by
  induction bs using List.reverseRecOn with
  | nil => rfl
  | append_singleton bs b ih =>
    by_cases hb : b = 0
    · subst hb
      rw [toStringLossy_append_zero, toStringLossy_nil,
        List.rdropWhile_concat_pos _ _ _ (by decide), List.rdropWhile_concat_pos _ _ _ (by decide),
        ih]
    · obtain ⟨front, c, hlast, hc⟩ := toStringLossy_last hb bs
      rw [List.rdropWhile_concat_neg _ _ _ (by simpa using hb), hlast,
        List.rdropWhile_concat_neg _ _ _ (by simpa using hc)]

end zeros

end Text
