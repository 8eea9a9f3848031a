import PtpipCore.Lib.ByteStream

/-!
# Readers that need every byte they take

An exact reader that succeeds has taken bytes off its stream and no fault, does
not look at what follows them, and fails on every part of them that is cut off.
Fixed-size reads are exact, and so is what is put together from exact readers.
-/

namespace ExactReaders

open Effects ByteStream
open EStateM (Result)

variable {ε α β : Type}

/-- The reader takes these bytes for this value, and none of their proper parts. -/
structure Takes (m : EStateM ε (List Arrival) α) (bs : Bytes) (a : α) : Prop where
  returns : ∀ s, m (arrived bs ++ s) = .ok a s
  needs : ∀ k < bs.length, ∃ e t, m (arrived (bs.take k)) = .error e t

def Exact (m : EStateM ε (List Arrival) α) : Prop :=
  ∀ a s s', m s = .ok a s' → ∃ bs, s = arrived bs ++ s' ∧ Takes m bs a

lemma takes_pure (a : α) : Takes (pure a : EStateM ε (List Arrival) α) [] a where
  returns _ := rfl
  needs _ hk := absurd hk (Nat.not_lt_zero _)

lemma takes_readExact [FromIo ε] {n : Nat} {bs : Bytes} (h : bs.length = n) :
    Takes (readExact n : EStateM ε (List Arrival) Bytes) bs bs where
  returns := readExact_of_length h
  needs k hk := by
    have short : (bs.take k).length < n := by
      rw [List.length_take]
      omega
    exact ⟨_, _, readExact_eof short⟩

lemma takes_bind {m : EStateM ε (List Arrival) α} {f : α → EStateM ε (List Arrival) β}
    {bs cs : Bytes} {a : α} {b : β} (hm : Takes m bs a) (hf : Takes (f a) cs b) :
    Takes (m >>= f) (bs ++ cs) b where
  returns s := by rw [arrived_append, List.append_assoc, bind_ok (hm.returns _), hf.returns]
  needs k hk := by
    rw [List.length_append] at hk
    rw [List.take_append]
    by_cases first : k < bs.length
    · obtain ⟨e, t, herror⟩ := hm.needs k first
      refine ⟨e, t, ?_⟩
      rw [Nat.sub_eq_zero_of_le (Nat.le_of_lt first), List.take_zero, List.append_nil]
      exact bind_error herror
    · obtain ⟨e, t, herror⟩ := hf.needs (k - bs.length) (by omega)
      refine ⟨e, t, ?_⟩
      rw [List.take_of_length_le (Nat.le_of_not_lt first), arrived_append,
        bind_ok (hm.returns _), herror]

lemma exact_pure (a : α) : Exact (pure a : EStateM ε (List Arrival) α) := by
  intro b s s' h
  cases h
  exact ⟨[], rfl, takes_pure a⟩

lemma exact_throw (e : ε) : Exact (throw e : EStateM ε (List Arrival) α) := by
  intro a s s' h
  cases h

lemma exact_readExact [FromIo ε] (n : Nat) :
    Exact (readExact n : EStateM ε (List Arrival) Bytes) := by
  intro bs s s' h
  obtain ⟨hlen, hs⟩ := readExact_ok h
  exact ⟨bs, hs, takes_readExact hlen⟩

lemma exact_bind {m : EStateM ε (List Arrival) α} {f : α → EStateM ε (List Arrival) β}
    (hm : Exact m) (hf : ∀ a, Exact (f a)) : Exact (m >>= f) := by
  intro b s s' h
  obtain ⟨a, t, hfirst, hrest⟩ := bind_eq_ok_iff.mp h
  obtain ⟨bs, rfl, takesFirst⟩ := hm a s t hfirst
  obtain ⟨cs, rfl, takesRest⟩ := hf a b t s' hrest
  refine ⟨bs ++ cs, ?_, takes_bind takesFirst takesRest⟩
  rw [arrived_append, List.append_assoc]

end ExactReaders
