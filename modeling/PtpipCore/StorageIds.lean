import PtpipCore.IdLists
import PtpipCore.Sessions

/-!
# Two readings of one list of storage ids

The client skips the eight bytes of the response header and reads a count of
four bytes; the session reads a count of two bytes at the very beginning, and
takes the ids from there.
-/

namespace StorageIds

open Effects ByteStream FrontReaders Types Commands Responses FrameStreams

section client

def clientCount (data : Bytes) : Nat := (beU32 ((data.drop 8).take 4)).toNat

/-- The count and the ids that it announces are there. -/
def ClientFits (data : Bytes) : Prop := 12 + 4 * clientCount data ≤ data.length

/-- A list is made of a payload exactly if it fits, and then it is that of its words. -/
lemma parseStorageIds_ok_iff {data : Bytes} {ids : List UInt32} :
    Responses.parseStorageIds data = .ok ids ↔
      ClientFits data ∧ ids = words (clientCount data) (data.drop 12) := by
  have hids : words (clientCount data) (data.drop 12) = IdLists.idsIn data := by
    rw [words_eq_blocks, blocks_eq_map]
    simp only [List.drop_drop]
    rfl
  rw [hids]
  exact IdLists.parseIdList_ok_iff

lemma client_reads {data : Bytes} (fits : ClientFits data) :
    Responses.parseStorageIds data = .ok (words (clientCount data) (data.drop 12)) :=
  parseStorageIds_ok_iff.mpr ⟨fits, rfl⟩

lemma client_refuses {data : Bytes} (overrun : ¬ ClientFits data) :
    ∃ e, Responses.parseStorageIds data = .error e := by
  cases hparse : Responses.parseStorageIds data with
  | error e => exact ⟨e, rfl⟩
  | ok ids => exact absurd (parseStorageIds_ok_iff.mp hparse).1 overrun

end client

section session

def sessionCount (data : Bytes) : Nat := (beU16 (data.take 2)).toNat

def SessionFits (data : Bytes) : Prop := 2 + 4 * sessionCount data ≤ data.length

lemma storageIdsFrom_fits {data : Bytes} {start n : Nat} (fits : start + 4 * n ≤ data.length) :
    Sessions.storageIdsFrom data start n = .ok (words n (data.drop start)) := by
  induction n generalizing start with
  | zero => rfl
  | succ n ih =>
    rw [Sessions.storageIdsFrom, if_neg (by omega), ih (by omega), words, List.drop_drop]
    rfl

lemma storageIdsFrom_overrun {data : Bytes} {start n : Nat}
    (inside : start ≤ data.length) (overrun : data.length < start + 4 * n) :
    ∃ e, Sessions.storageIdsFrom data start n = .error e := by
  induction n generalizing start with
  | zero => omega
  | succ n ih =>
    rw [Sessions.storageIdsFrom]
    split
    · exact ⟨_, rfl⟩
    · have inside' : start + 4 ≤ data.length := by omega
      obtain ⟨e, hrest⟩ := ih inside' (by omega)
      rw [hrest]
      exact ⟨e, rfl⟩

lemma session_reads {data : Bytes} (fits : SessionFits data) :
    Sessions.parseStorageIds data = .ok (words (sessionCount data) (data.drop 2)) := by
  unfold SessionFits at fits
  rw [Sessions.parseStorageIds, if_neg (by omega)]
  exact storageIdsFrom_fits fits

lemma session_refuses {data : Bytes} (overrun : ¬ SessionFits data) :
    ∃ e, Sessions.parseStorageIds data = .error e := by
  unfold SessionFits sessionCount at overrun
  rw [Sessions.parseStorageIds]
  split
  · exact ⟨_, rfl⟩
  · exact storageIdsFrom_overrun (by omega) (by omega)

end session

/-- Both announce more ids than there are, or the same number of them in the same bytes. -/
def ReadAlike (data : Bytes) : Prop :=
  ¬ SessionFits data ∧ ¬ ClientFits data ∨
  SessionFits data ∧ ClientFits data ∧ sessionCount data = clientCount data ∧
    (data.drop 2).take (4 * sessionCount data) = (data.drop 12).take (4 * clientCount data)

/-- The two clients make the same list of a payload, or none, exactly if both counts overrun
it or they are equal and the bytes from the second on repeat ten bytes later. -/
theorem storage_ids_agree_iff (data : Bytes) :
    (Sessions.parseStorageIds data).toOption = (Responses.parseStorageIds data).toOption ↔
      ReadAlike data := by
  by_cases sessionFits : SessionFits data
  · rw [session_reads sessionFits]
    by_cases clientFits : ClientFits data
    · rw [client_reads clientFits]
      simp only [Except.toOption, Option.some_inj, ReadAlike, sessionFits, clientFits, not_true,
        false_and, true_and, false_or]
      unfold SessionFits at sessionFits
      unfold ClientFits at clientFits
      have inSession : 4 * sessionCount data ≤ (data.drop 2).length := by
        rw [List.length_drop]
        omega
      have inClient : 4 * clientCount data ≤ (data.drop 12).length := by
        rw [List.length_drop]
        omega
      constructor
      · intro heq
        have hcount : sessionCount data = clientCount data := by
          have hlen := congrArg List.length heq
          rwa [words_length, words_length] at hlen
        rw [hcount] at heq inSession ⊢
        exact ⟨rfl, (words_inj inSession inClient).mp heq⟩
      · rintro ⟨hcount, hbytes⟩
        rw [hcount] at hbytes inSession ⊢
        exact (words_inj inSession inClient).mpr hbytes
    · obtain ⟨e, hclient⟩ := client_refuses clientFits
      rw [hclient]
      simp [Except.toOption, ReadAlike, sessionFits, clientFits]
  · obtain ⟨e, hsession⟩ := session_refuses sessionFits
    rw [hsession]
    by_cases clientFits : ClientFits data
    · rw [client_reads clientFits]
      simp [Except.toOption, ReadAlike, sessionFits, clientFits]
    · obtain ⟨e', hclient⟩ := client_refuses clientFits
      rw [hclient]
      simp [Except.toOption, ReadAlike, sessionFits, clientFits]

private def oneId : Bytes := [0, 0, 0x20, 1, 0, 0, 0, 0, 0, 0, 0, 1, 0, 1, 0, 1]

/-- A positive response with one storage id: the session finds no id in it. -/
theorem storage_ids_disagree :
    checkResponseError ⟨.responseBlock, 7, oneId⟩ = .ok () ∧
    Sessions.parseStorageIds oneId = .ok [] ∧ Responses.parseStorageIds oneId = .ok [0x00010001] ∧
    (Sessions.parseStorageIds oneId).toOption ≠ (Responses.parseStorageIds oneId).toOption := by
  decide

end StorageIds
