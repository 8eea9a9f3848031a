import PtpipCore.Lib.ByteStream

/-!
# Readers of the front of a stretch of bytes

Without faults a reader of so many bytes returns a function of what stands at the front,
and fails where there are fewer. Formats read one field after the other; here each field
is found again at its position.
-/

namespace FrontReaders

open Effects ByteStream
open EStateM (Result)

variable {ε α β : Type}

/-- The reader takes so many bytes, no matter what follows them, and returns this of them. -/
structure ReadsFront (m : EStateM ε (List Arrival) α) (n : Nat) (value : Bytes → α) : Prop where
  enough : ∀ bs, n ≤ bs.length → m (arrived bs) = .ok (value bs) (arrived (bs.drop n))
  short : ∀ bs, bs.length < n → ∃ e t, m (arrived bs) = .error e t

section bind

variable {m : EStateM ε (List Arrival) α} {n : Nat} {value : Bytes → α}

lemma ReadsFront.ok_iff (reads : ReadsFront m n value) {bs : Bytes} {a : α} {t : List Arrival} :
    m (arrived bs) = .ok a t ↔ n ≤ bs.length ∧ a = value bs ∧ t = arrived (bs.drop n) := by
  by_cases h : n ≤ bs.length
  · rw [reads.enough bs h, Result.ok.injEq, eq_comm, @eq_comm _ _ t]
    simp only [h, true_and]
  · obtain ⟨e, u, hshort⟩ := reads.short bs (Nat.lt_of_not_le h)
    rw [hshort]
    exact iff_of_false (fun heq => by cases heq) (fun hboth => h hboth.1)

/-- A reader that reads on has found its own bytes, and the rest from behind them. -/
lemma ReadsFront.bind_ok_iff (reads : ReadsFront m n value) {f : α → EStateM ε (List Arrival) β}
    {bs : Bytes} {b : β} {t : List Arrival} :
    (m >>= f) (arrived bs) = .ok b t ↔
      n ≤ bs.length ∧ f (value bs) (arrived (bs.drop n)) = .ok b t := by
  by_cases h : n ≤ bs.length
  · rw [bind_ok (reads.enough bs h)]
    simp only [h, true_and]
  · obtain ⟨e, u, hshort⟩ := reads.short bs (Nat.lt_of_not_le h)
    rw [bind_error hshort]
    exact iff_of_false (fun heq => by cases heq) (fun hboth => h hboth.1)

section errors

variable {P : ε → Prop} {f : α → EStateM ε (List Arrival) β} {bs : Bytes}

/-- A reader that fails with other errors only must be able to read. -/
lemma ReadsFront.errorIs_iff (reads : ReadsFront m n value) (foreign : FailsOnly (¬ P ·) m) :
    ErrorIs P (m (arrived bs)) ↔ n ≤ bs.length := by
  by_cases h : n ≤ bs.length
  · rw [reads.enough bs h]
    exact iff_of_true (errorIs_ok _ _) h
  · obtain ⟨e, u, hshort⟩ := reads.short bs (Nat.lt_of_not_le h)
    rw [hshort, errorIs_error_iff]
    exact iff_of_false (foreign _ e u hshort) h

lemma ReadsFront.errorIs_bind_iff (reads : ReadsFront m n value) (foreign : FailsOnly (¬ P ·) m) :
    ErrorIs P ((m >>= f) (arrived bs)) ↔
      n ≤ bs.length ∧ ErrorIs P (f (value bs) (arrived (bs.drop n))) := by
  by_cases h : n ≤ bs.length
  · rw [bind_ok (reads.enough bs h)]
    simp only [h, true_and]
  · obtain ⟨e, u, hshort⟩ := reads.short bs (Nat.lt_of_not_le h)
    rw [bind_error hshort, errorIs_error_iff]
    exact iff_of_false (foreign _ e u hshort) (fun hboth => h hboth.1)

/-- One that fails with such errors only need not be. -/
lemma ReadsFront.errorIs_bind_iff_own (reads : ReadsFront m n value) (own : FailsOnly P m) :
    ErrorIs P ((m >>= f) (arrived bs)) ↔
      (n ≤ bs.length → ErrorIs P (f (value bs) (arrived (bs.drop n)))) := by
  by_cases h : n ≤ bs.length
  · rw [bind_ok (reads.enough bs h)]
    simp only [h, true_imp_iff]
  · obtain ⟨e, u, hshort⟩ := reads.short bs (Nat.lt_of_not_le h)
    rw [bind_error hshort, errorIs_error_iff]
    exact iff_of_true (own _ e u hshort) (fun enough => absurd enough h)

end errors

lemma ReadsFront.map (reads : ReadsFront m n value) (g : α → β) :
    ReadsFront (m >>= fun a => pure (g a)) n (fun bs => g (value bs)) where
  enough bs h := by
    rw [bind_ok (reads.enough bs h)]
    rfl
  short bs h := by
    obtain ⟨e, t, hshort⟩ := reads.short bs h
    exact ⟨e, t, bind_error hshort⟩

lemma ReadsFront.bind (reads : ReadsFront m n value) {f : α → EStateM ε (List Arrival) β}
    {k : Nat} {rest : α → Bytes → β} (readsRest : ∀ a, ReadsFront (f a) k (rest a)) :
    ReadsFront (m >>= f) (n + k) (fun bs => rest (value bs) (bs.drop n)) where
  enough bs h := by
    rw [bind_ok (reads.enough bs (by omega)),
      (readsRest _).enough _ (by rw [List.length_drop]; omega), List.drop_drop]
  short bs h := by
    by_cases first : n ≤ bs.length
    · obtain ⟨e, t, hshort⟩ := (readsRest (value bs)).short (bs.drop n)
        (by rw [List.length_drop]; omega)
      exact ⟨e, t, by rw [bind_ok (reads.enough bs first), hshort]⟩
    · obtain ⟨e, t, hshort⟩ := reads.short bs (Nat.lt_of_not_le first)
      exact ⟨e, t, bind_error hshort⟩

/-- What was written to the front is read from there. -/
lemma ReadsFront.reads (reads : ReadsFront m n value) {front : Bytes} (length : front.length = n)
    (rest : Bytes) :
    m (arrived (front ++ rest)) = .ok (value (front ++ rest)) (arrived rest) := by
  rw [reads.enough _ (by rw [List.length_append]; omega), List.drop_left' length]

/-- What is skipped need not be there. -/
lemma skip_bind (n : Nat) (f : Unit → EStateM ε (List Arrival) β) (bs : Bytes) :
    (skip n >>= f) (arrived bs) = f () (arrived (bs.drop n)) := by
  rw [arrived, arrived, List.map_drop]
  exact bind_ok rfl

end bind

section repeating

/-- What the reader of so many bytes makes of one stretch of them after the other. -/
def blocks (value : Bytes → α) (width : Nat) : Nat → Bytes → List α
  | 0, _ => []
  | n + 1, bs => value bs :: blocks value width n (bs.drop width)

lemma readsFront_repeated {m : EStateM ε (List Arrival) α} {width : Nat} {value : Bytes → α}
    (reads : ReadsFront m width value) (n : Nat) :
    ReadsFront (repeated m n) (width * n) (blocks value width n) := by
  induction n with
  | zero => exact ⟨fun _ _ => rfl, fun bs h => absurd h (Nat.not_lt_zero _)⟩
  | succ n ih =>
    have hnext : ReadsFront (repeated m (n + 1)) (width + width * n)
        (blocks value width (n + 1)) := reads.bind fun a => ih.map (a :: ·)
    rwa [Nat.add_comm width, ← Nat.mul_succ] at hnext

lemma blocks_eq_map (value : Bytes → α) (width n : Nat) (bs : Bytes) :
    blocks value width n bs = (List.range n).map fun i => value (bs.drop (width * i)) := by
  induction n generalizing bs with
  | zero => rfl
  | succ n ih =>
    rw [blocks, ih, List.range_succ_eq_map, List.map_cons, List.map_map, Nat.mul_zero,
      List.drop_zero]
    refine congrArg _ (List.map_congr_left fun i _ => ?_)
    rw [List.drop_drop, Function.comp_apply, Nat.succ_eq_add_one, Nat.mul_succ, Nat.add_comm]

lemma words_eq_blocks (n : Nat) (bs : Bytes) :
    words n bs = blocks (fun bs => beU32 (bs.take 4)) 4 n bs := by
  induction n generalizing bs with
  | zero => rfl
  | succ n ih => rw [words, blocks, ih]

lemma blocks_length {width : Nat} {encode : α → Bytes} (length : ∀ a, (encode a).length = width)
    (as : List α) : (as.flatMap encode).length = width * as.length := by
  induction as with
  | nil => rfl
  | cons a as ih =>
    rw [List.flatMap_cons, List.length_append, length, ih, List.length_cons, Nat.mul_succ,
      Nat.add_comm]

/-- Blocks that were written one behind the other are read back. -/
lemma blocks_flatMap {value : Bytes → α} {width : Nat} {encode : α → Bytes}
    (length : ∀ a, (encode a).length = width)
    (decode : ∀ a rest, value (encode a ++ rest) = a) (as : List α) (rest : Bytes) :
    blocks value width as.length (as.flatMap encode ++ rest) = as := by
  induction as with
  | nil => rfl
  | cons a as ih =>
    have hrest : (encode a ++ (as.flatMap encode ++ rest)).drop width =
        as.flatMap encode ++ rest := List.drop_left' (length a)
    rw [List.length_cons, List.flatMap_cons, List.append_assoc, blocks, decode, hrest, ih]

end repeating

section numbers

variable [FromIo ε]

lemma readsFront_readExact (n : Nat) :
    ReadsFront (readExact n : EStateM ε (List Arrival) Bytes) n (·.take n) where
  enough bs h := by
    have hread := readExact_of_length (ε := ε) (List.length_take_of_le h) (arrived (bs.drop n))
    rwa [← arrived_append, List.take_append_drop] at hread
  short bs h := ⟨_, _, readExact_eof h⟩

lemma readsFront_readU8Be :
    ReadsFront (readU8Be : EStateM ε _ _) 1 (fun bs => (bs.take 1).headD 0) :=
  (readsFront_readExact 1).map _

lemma readsFront_readU16Be :
    ReadsFront (readU16Be : EStateM ε _ _) 2 (fun bs => beU16 (bs.take 2)) :=
  (readsFront_readExact 2).map _

lemma readsFront_readU32Be :
    ReadsFront (readU32Be : EStateM ε _ _) 4 (fun bs => beU32 (bs.take 4)) :=
  (readsFront_readExact 4).map _

lemma readsFront_readU64Be :
    ReadsFront (readU64Be : EStateM ε _ _) 8 (fun bs => beU64 (bs.take 8)) :=
  (readsFront_readExact 8).map _

section errors

variable {P : ε → Prop} (h : ∀ kind, P (FromIo.fromIo kind))

include h

lemma failsOnly_readU8Be : FailsOnly P (readU8Be : EStateM ε _ _) :=
  failsOnly_bind (failsOnly_readExact h 1) fun _ _ _ _ => failsOnly_pure _

lemma failsOnly_readU16Be : FailsOnly P (readU16Be : EStateM ε _ _) :=
  failsOnly_bind (failsOnly_readExact h 2) fun _ _ _ _ => failsOnly_pure _

lemma failsOnly_readU32Be : FailsOnly P (readU32Be : EStateM ε _ _) :=
  failsOnly_bind (failsOnly_readExact h 4) fun _ _ _ _ => failsOnly_pure _

lemma failsOnly_readU64Be : FailsOnly P (readU64Be : EStateM ε _ _) :=
  failsOnly_bind (failsOnly_readExact h 8) fun _ _ _ _ => failsOnly_pure _

end errors

lemma readU16Be_written (v : UInt16) (rest : Bytes) :
    (readU16Be : EStateM ε _ _) (arrived (bigEndian 2 v.toNat ++ rest)) =
      .ok v (arrived rest) := by
  rw [readsFront_readU16Be.reads (bigEndian_length _ _), List.take_left' (bigEndian_length _ _),
    beU16_bigEndian]

lemma readU32Be_written (v : UInt32) (rest : Bytes) :
    (readU32Be : EStateM ε _ _) (arrived (bigEndian 4 v.toNat ++ rest)) =
      .ok v (arrived rest) := by
  rw [readsFront_readU32Be.reads (bigEndian_length _ _), List.take_left' (bigEndian_length _ _),
    beU32_bigEndian]

lemma readU64Be_written (v : UInt64) (rest : Bytes) :
    (readU64Be : EStateM ε _ _) (arrived (bigEndian 8 v.toNat ++ rest)) =
      .ok v (arrived rest) := by
  rw [readsFront_readU64Be.reads (bigEndian_length _ _), List.take_left' (bigEndian_length _ _),
    beU64_bigEndian]

end numbers

section positions

/-- The numbers at a position. -/
def u8At (bs : Bytes) (pos : Nat) : UInt8 := ((bs.drop pos).take 1).headD 0

def u16At (bs : Bytes) (pos : Nat) : UInt16 := beU16 ((bs.drop pos).take 2)

def u32At (bs : Bytes) (pos : Nat) : UInt32 := beU32 ((bs.drop pos).take 4)

def u64At (bs : Bytes) (pos : Nat) : UInt64 := beU64 ((bs.drop pos).take 8)

end positions

end FrontReaders
