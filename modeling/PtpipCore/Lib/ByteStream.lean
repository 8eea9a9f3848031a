import PtpipCore.Lib.Effects
import Mathlib.Tactic.Ring

/-!
# Byte streams with faults, and big-endian numbers

A stream is the list of what its reader meets: bytes, and faults such as an
expired read timeout. The end of the list is the end of the stream. A read of
a fixed number of bytes that meets a fault has already consumed the bytes
before it, and they are lost to the reader.

A sink is what its writer has written, and how the operating system will answer
the calls to come. A failing write has put some prefix of its bytes out.
-/

namespace ByteStream

open Effects
open EStateM (Result)

inductive Arrival where
  | byte (b : UInt8)
  | fault (kind : ErrorKind)
  deriving DecidableEq, Repr

abbrev Bytes := List UInt8

/-- A stretch of a stream without any fault. -/
def arrived (bs : Bytes) : List Arrival := bs.map .byte

@[simp] lemma arrived_nil : arrived [] = [] := rfl

@[simp] lemma arrived_cons (b : UInt8) (bs : Bytes) :
    arrived (b :: bs) = .byte b :: arrived bs := rfl

@[simp] lemma arrived_append (bs cs : Bytes) :
    arrived (bs ++ cs) = arrived bs ++ arrived cs := List.map_append

@[simp] lemma arrived_length (bs : Bytes) : (arrived bs).length = bs.length :=
  List.length_map _

variable {ε : Type} [FromIo ε]

/-- `read_exact` on a buffer of the given size. -/
def readExact : Nat → EStateM ε (List Arrival) Bytes
  | 0, s => .ok [] s
  | _ + 1, [] => .error (FromIo.fromIo .unexpectedEof) []
  | n + 1, .byte b :: s =>
    match readExact n s with
    | .ok bs s' => .ok (b :: bs) s'
    | .error e s' => .error e s'
  | _ + 1, .fault kind :: s => .error (FromIo.fromIo kind) s
termination_by structural _ s => s

@[simp] lemma readExact_zero (s : List Arrival) :
    (readExact 0 s : Result ε _ _) = .ok [] s := by cases s <;> rfl

lemma readExact_arrived (bs : Bytes) (s : List Arrival) :
    (readExact bs.length (arrived bs ++ s) : Result ε _ _) = .ok bs s := by
  induction bs with
  | nil => exact readExact_zero s
  | cons b bs ih =>
    simp only [arrived_cons, List.cons_append, List.length_cons, readExact, ih]

/-- The reader's own form: the size is known, the bytes have it. -/
lemma readExact_of_length {n : Nat} {bs : Bytes} (h : bs.length = n) (s : List Arrival) :
    (readExact n (arrived bs ++ s) : Result ε _ _) = .ok bs s :=
  h ▸ readExact_arrived bs s

lemma readExact_eof {n : Nat} {bs : Bytes} (h : bs.length < n) :
    (readExact n (arrived bs) : Result ε _ _) =
      .error (FromIo.fromIo .unexpectedEof) [] := by
  induction bs generalizing n with
  | nil =>
    obtain ⟨n, rfl⟩ : ∃ m, n = m + 1 := ⟨n - 1, by simp at h; omega⟩
    rfl
  | cons b bs ih =>
    obtain ⟨n, rfl⟩ : ∃ m, n = m + 1 := ⟨n - 1, by simp at h; omega⟩
    simp only [arrived_cons, readExact,
      ih (by simpa only [List.length_cons, Nat.add_lt_add_iff_right] using h)]

/-- What a successful read returns is what stood at the front of the stream. -/
lemma readExact_ok {n : Nat} {s s' : List Arrival} {bs : Bytes}
    (h : (readExact n s : Result ε _ _) = .ok bs s') :
    bs.length = n ∧ s = arrived bs ++ s' := by
  induction s generalizing n bs with
  | nil =>
    cases n with
    | zero => cases h; exact ⟨rfl, rfl⟩
    | succ n => cases h
  | cons a s ih =>
    cases n with
    | zero => cases h; exact ⟨rfl, rfl⟩
    | succ n =>
      cases a with
      | fault kind => cases h
      | byte b =>
        simp only [readExact] at h
        split at h
        · next bs' t heq =>
          cases h
          obtain ⟨hlen, hs⟩ := ih heq
          exact ⟨by simp [hlen], by simp [hs]⟩
        · cases h

lemma endState_readExact_byte (n : Nat) (b : UInt8) (s : List Arrival) :
    endState (readExact (n + 1) (.byte b :: s) : Result ε _ _) =
      endState (readExact n s : Result ε _ _) := by
  simp only [readExact]
  cases (readExact n s : Result ε _ _) <;> rfl

lemma consumes_readExact (n : Nat) :
    Consumes (readExact n : EStateM ε (List Arrival) Bytes) := by
  intro s
  induction s generalizing n with
  | nil => cases n <;> exact List.suffix_refl []
  | cons a s ih =>
    cases n with
    | zero => exact List.suffix_refl _
    | succ n =>
      cases a with
      | fault kind => exact List.suffix_cons _ s
      | byte b =>
        rw [endState_readExact_byte]
        exact (ih n).trans (List.suffix_cons _ s)

/-- A read fails with an error of the operating system. -/
lemma failsOnly_readExact {P : ε → Prop} (h : ∀ kind, P (FromIo.fromIo kind)) (n : Nat) :
    FailsOnly P (readExact n : EStateM ε (List Arrival) Bytes) := by
  intro s e t heq
  induction s generalizing n with
  | nil =>
    cases n with
    | zero => cases heq
    | succ n =>
      cases heq
      exact h _
  | cons a s ih =>
    cases n with
    | zero => cases heq
    | succ n =>
      cases a with
      | fault kind =>
        cases heq
        exact h kind
      | byte b =>
        simp only [readExact] at heq
        split at heq
        · cases heq
        · next e' t' hrest =>
          cases heq
          exact ih n hrest

/-- The answer to one call of `write_all` or `flush`. -/
inductive WriteOutcome where
  | done
  | failed (wrote : Nat) (kind : ErrorKind)
  deriving DecidableEq, Repr

/-- Calls past the end of `outcomes` are done. -/
structure Sink where
  written : Bytes
  outcomes : List WriteOutcome
  deriving DecidableEq, Repr

def writeAll (data : Bytes) : EStateM ε Sink Unit := fun s =>
  match s.outcomes with
  | [] => .ok () { s with written := s.written ++ data }
  | .done :: rest => .ok () ⟨s.written ++ data, rest⟩
  | .failed wrote kind :: rest =>
    .error (FromIo.fromIo kind) ⟨s.written ++ data.take wrote, rest⟩

def flush : EStateM ε Sink Unit := fun s =>
  match s.outcomes with
  | [] => .ok () s
  | .done :: rest => .ok () { s with outcomes := rest }
  | .failed _ kind :: rest => .error (FromIo.fromIo kind) { s with outcomes := rest }

/-- The `n` low bytes of a number, most significant first. -/
def bigEndian : Nat → Nat → Bytes
  | 0, _ => []
  | n + 1, v => UInt8.ofNat (v / 256 ^ n) :: bigEndian n v

/-- The number that bytes spell, most significant first. -/
def ofBigEndian (bs : Bytes) : Nat := bs.foldl (fun v b => v * 256 + b.toNat) 0

@[simp] lemma bigEndian_length (n v : Nat) : (bigEndian n v).length = n := by
  induction n with
  | zero => rfl
  | succ n ih => simp [bigEndian, ih]

lemma foldl_bigEndian (n v acc : Nat) :
    (bigEndian n v).foldl (fun v b => v * 256 + b.toNat) acc =
      acc * 256 ^ n + v % 256 ^ n := by
  induction n generalizing acc with
  | zero => simp [bigEndian, Nat.mod_one]
  | succ n ih =>
    have split : v % 256 ^ (n + 1) = v % 256 ^ n + 256 ^ n * (v / 256 ^ n % 256) := by
      rw [Nat.pow_succ, Nat.mod_mul]
    have head : (UInt8.ofNat (v / 256 ^ n)).toNat = v / 256 ^ n % 256 := by simp
    rw [bigEndian, List.foldl_cons, ih, head, split, Nat.pow_succ]
    ring

@[simp] lemma ofBigEndian_bigEndian (n v : Nat) :
    ofBigEndian (bigEndian n v) = v % 256 ^ n := by
  simp [ofBigEndian, foldl_bigEndian]

lemma ofBigEndian_cons (b : UInt8) (bs : Bytes) :
    ofBigEndian (b :: bs) = b.toNat * 256 ^ bs.length + ofBigEndian bs := by
  have hacc : ∀ acc, bs.foldl (fun v b => v * 256 + b.toNat) acc =
      acc * 256 ^ bs.length + ofBigEndian bs := by
    induction bs with
    | nil => intro acc; simp [ofBigEndian]
    | cons c bs ih =>
      intro acc
      rw [ofBigEndian, List.foldl_cons, List.foldl_cons, ih, ih, List.length_cons, Nat.pow_succ]
      ring
  rw [ofBigEndian, List.foldl_cons, hacc, Nat.zero_mul, Nat.zero_add]

lemma ofBigEndian_lt (bs : Bytes) : ofBigEndian bs < 256 ^ bs.length := by
  induction bs with
  | nil => exact Nat.one_pos
  | cons b bs ih =>
    rw [ofBigEndian_cons, List.length_cons, Nat.pow_succ, Nat.mul_comm (256 ^ bs.length)]
    have hb := Nat.mul_le_mul_right (256 ^ bs.length) (Nat.le_of_lt_succ b.toNat_lt)
    omega

/-- Only the low bytes count. -/
lemma bigEndian_add (n k v : Nat) : bigEndian n (k * 256 ^ n + v) = bigEndian n v := by
  induction n generalizing k with
  | zero => rfl
  | succ n ih =>
    have split : k * 256 ^ (n + 1) + v = k * 256 * 256 ^ n + v := by
      rw [Nat.pow_succ]
      ring
    have head : (k * 256 * 256 ^ n + v) / 256 ^ n = k * 256 + v / 256 ^ n := by
      rw [Nat.add_comm, Nat.add_mul_div_right _ _ (Nat.pow_pos (by decide)), Nat.add_comm]
    rw [bigEndian, bigEndian, split, ih, head]
    congr 1
    apply UInt8.toNat_inj.mp
    simp

/-- The bytes that spell a number are those it is written in. -/
lemma bigEndian_ofBigEndian (bs : Bytes) : bigEndian bs.length (ofBigEndian bs) = bs := by
  induction bs with
  | nil => rfl
  | cons b bs ih =>
    have head : (b.toNat * 256 ^ bs.length + ofBigEndian bs) / 256 ^ bs.length = b.toNat := by
      rw [Nat.add_comm, Nat.add_mul_div_right _ _ (Nat.pow_pos (by decide)),
        Nat.div_eq_of_lt (ofBigEndian_lt bs), Nat.zero_add]
    rw [List.length_cons, bigEndian, ofBigEndian_cons, bigEndian_add, ih, head, UInt8.ofNat_toNat]

def beU16 (bs : Bytes) : UInt16 := UInt16.ofNat (ofBigEndian bs)

def beU32 (bs : Bytes) : UInt32 := UInt32.ofNat (ofBigEndian bs)

@[simp] lemma beU16_bigEndian (v : UInt16) : beU16 (bigEndian 2 v.toNat) = v := by
  simp only [beU16, ofBigEndian_bigEndian]
  rw [Nat.mod_eq_of_lt (show v.toNat < 256 ^ 2 from v.toNat_lt), UInt16.ofNat_toNat]

@[simp] lemma beU32_bigEndian (v : UInt32) : beU32 (bigEndian 4 v.toNat) = v := by
  simp only [beU32, ofBigEndian_bigEndian]
  rw [Nat.mod_eq_of_lt (show v.toNat < 256 ^ 4 from v.toNat_lt), UInt32.ofNat_toNat]

lemma bigEndian_beU32 {bs : Bytes} (h : bs.length = 4) :
    bigEndian 4 (beU32 bs).toNat = bs := by
  have fits : ofBigEndian bs < 256 ^ 4 := by
    rw [← h]
    exact ofBigEndian_lt bs
  rw [beU32, UInt32.toNat_ofNat_of_lt' (show _ < 2 ^ 32 from fits), ← h, bigEndian_ofBigEndian]

def beU64 (bs : Bytes) : UInt64 := UInt64.ofNat (ofBigEndian bs)

@[simp] lemma beU64_bigEndian (v : UInt64) : beU64 (bigEndian 8 v.toNat) = v := by
  simp only [beU64, ofBigEndian_bigEndian]
  rw [Nat.mod_eq_of_lt (show v.toNat < 256 ^ 8 from v.toNat_lt), UInt64.ofNat_toNat]

def readU8Be : EStateM ε (List Arrival) UInt8 := do
  let buf ← readExact 1
  return buf.headD 0

def readU16Be : EStateM ε (List Arrival) UInt16 := do
  let buf ← readExact 2
  return beU16 buf

def readU32Be : EStateM ε (List Arrival) UInt32 := do
  let buf ← readExact 4
  return beU32 buf

def readU64Be : EStateM ε (List Arrival) UInt64 := do
  let buf ← readExact 8
  return beU64 buf

/-- `set_position` to a later byte, which may be past the end. -/
def skip (n : Nat) : EStateM ε (List Arrival) Unit := fun s => .ok () (s.drop n)

/-- The numbers that the first words of four bytes spell. -/
def words : Nat → Bytes → List UInt32
  | 0, _ => []
  | n + 1, bs => beU32 (bs.take 4) :: words n (bs.drop 4)

@[simp] lemma words_length (n : Nat) (bs : Bytes) : (words n bs).length = n := by
  induction n generalizing bs with
  | zero => rfl
  | succ n ih => rw [words, List.length_cons, ih]

/-- Words are equal only if their bytes are. -/
lemma words_inj {n : Nat} {bs cs : Bytes} (hbs : 4 * n ≤ bs.length) (hcs : 4 * n ≤ cs.length) :
    words n bs = words n cs ↔ bs.take (4 * n) = cs.take (4 * n) := by
  induction n generalizing bs cs with
  | zero => exact iff_of_true rfl rfl
  | succ n ih =>
    have hfirst : ∀ ds : Bytes, 4 * (n + 1) ≤ ds.length →
        bigEndian 4 (beU32 (ds.take 4)).toNat = ds.take 4 := fun ds hds =>
      bigEndian_beU32 (by rw [List.length_take]; omega)
    have hdrop : ∀ ds : Bytes, 4 * (n + 1) ≤ ds.length → 4 * n ≤ (ds.drop 4).length := by
      intro ds hds
      rw [List.length_drop]
      omega
    have hrest := ih (hdrop bs hbs) (hdrop cs hcs)
    have hsplit : ∀ ds : Bytes, ds.take (4 * (n + 1)) = ds.take 4 ++ (ds.drop 4).take (4 * n) := by
      intro ds
      rw [show 4 * (n + 1) = 4 + 4 * n by omega, List.take_add]
    rw [words, words, List.cons_eq_cons, hrest, hsplit bs, hsplit cs]
    constructor
    · rintro ⟨hword, htail⟩
      rw [htail, ← hfirst bs hbs, hword, hfirst cs hcs]
    · intro heq
      obtain ⟨hword, htail⟩ := List.append_inj heq (by simp only [List.length_take]; omega)
      exact ⟨by rw [hword], htail⟩

end ByteStream
