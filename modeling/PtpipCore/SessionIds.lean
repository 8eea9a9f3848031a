import PtpipCore.FrameStreams
import PtpipCore.Sessions

/-!
# Session ids that can be received

The id of a session is read from the first four bytes of the response to `OpenSession`. The
last two of them are where every response has its code.
-/

namespace SessionIds

open Effects ByteStream Types Transport Commands FrameStreams Sessions
open EStateM (Result)

/-- A response with this payload passes the check, whatever its transaction. -/
def Accepted (payload : Bytes) : Prop :=
  ∀ transactionId, checkResponseError ⟨.responseBlock, transactionId, payload⟩ = .ok ()

lemma accepted_iff {payload : Bytes} :
    Accepted payload ↔ 8 ≤ payload.length ∧ responseCode payload = PtpOperationCode.ok.code := by
  by_cases long : 8 ≤ payload.length
  · have hcheck (transactionId : UInt32) := checkResponseError_long
      (p := ⟨.responseBlock, transactionId, payload⟩) long
    constructor
    · intro accepted
      by_contra refused
      have herror := accepted 0
      rw [hcheck 0, if_neg fun h => refused ⟨long, h⟩] at herror
      cases herror
    · rintro ⟨-, isOk⟩ transactionId
      rw [hcheck transactionId, if_pos isOk]
  · refine iff_of_false (fun accepted => ?_) (fun h => long h.1)
    have herror := accepted 0
    rw [checkResponseError_short (p := ⟨.responseBlock, 0, payload⟩) (Nat.lt_of_not_le long)]
      at herror
    cases herror

lemma decodeSessionId_ok_iff {payload : Bytes} {sessionId : UInt32} :
    decodeSessionId payload = .ok sessionId ↔
      4 ≤ payload.length ∧ sessionId = beU32 (payload.take 4) := by
  unfold decodeSessionId
  split
  · next short => exact iff_of_false (fun h => by cases h) (fun h => by omega)
  · next long =>
    rw [Except.ok.injEq, eq_comm]
    simp only [Nat.le_of_not_lt long, true_and]

/-- Two of the four bytes of the id are the code. -/
lemma beU32_mod {payload : Bytes} (long : 4 ≤ payload.length) :
    (beU32 (payload.take 4)).toNat % 2 ^ 16 = (responseCode payload).toNat := by
  obtain ⟨a, b, c, d, rest, rfl⟩ : ∃ a b c d rest, payload = a :: b :: c :: d :: rest := by
    match payload, long with
    | a :: b :: c :: d :: rest, _ => exact ⟨a, b, c, d, rest, rfl⟩
  have hword : ofBigEndian [a, b, c, d] =
      (a.toNat * 256 + b.toNat) * 2 ^ 16 + ofBigEndian [c, d] := by
    simp only [ofBigEndian, List.foldl_cons, List.foldl_nil]
    omega
  have hfits : ofBigEndian [a, b, c, d] < 256 ^ 4 := ofBigEndian_lt [a, b, c, d]
  have hcode : ofBigEndian [c, d] < 256 ^ 2 := ofBigEndian_lt [c, d]
  change (UInt32.ofNat (ofBigEndian [a, b, c, d])).toNat % 2 ^ 16 =
    (UInt16.ofNat (ofBigEndian [c, d])).toNat
  rw [UInt32.toNat_ofNat_of_lt' (show _ < 2 ^ 32 from hfits),
    UInt16.toNat_ofNat_of_lt' (show _ < 2 ^ 16 from hcode), hword]
  omega

/-- What `get_response` returns has passed the check. -/
lemma getResponse_checked {transactionId : UInt32} {config : SessionConfig} {s s' : Incoming}
    {p : PtpIpPacket} (h : getResponse transactionId config s = .ok p s') :
    checkResponseError p = .ok () := by
  refine loop_induct (getResponseTurn_shrinks transactionId config) (P := fun _ _ => True)
    (Q := fun r => ∀ p t, r = .ok p t → checkResponseError p = .ok ())
    (fun _ _ _ _ _ _ => trivial) ?_ ?_ () s trivial p s' h
  · intro _ t a t' _ hturn p u heq
    cases heq
    obtain ⟨packet, -, others | ⟨hlast, hcheck⟩⟩ := getResponseTurn_ok hturn
    · cases others
    · cases hlast
      exact hcheck
  · intro _ t e t' _ _ p u heq
    cases heq

/-- Some payload is accepted by the check and decoded to the id. -/
def Receivable (sessionId : UInt32) : Prop :=
  ∃ payload, Accepted payload ∧ decodeSessionId payload = .ok sessionId

lemma checked_sessionId {p : PtpIpPacket} {sessionId : UInt32}
    (checked : checkResponseError p = .ok ())
    (decoded : decodeSessionId p.payload = .ok sessionId) : sessionId.toNat % 2 ^ 16 = 0x2001 := by
  obtain ⟨long, rfl⟩ := decodeSessionId_ok_iff.mp decoded
  have isOk : responseCode p.payload = PtpOperationCode.ok.code := by
    by_contra notOk
    by_cases short : p.payload.length < 8
    · rw [checkResponseError_short short] at checked
      cases checked
    · rw [checkResponseError_long (Nat.le_of_not_lt short), if_neg notOk] at checked
      cases checked
  rw [beU32_mod long, isOk]
  rfl

/-- The id itself, followed by zeros, is accepted if its low bytes are the code. -/
lemma receivable_of_mod {sessionId : UInt32} (code : sessionId.toNat % 2 ^ 16 = 0x2001) :
    Receivable sessionId := by
  have htake : (bigEndian 4 sessionId.toNat ++ [0, 0, 0, 0]).take 4 =
      bigEndian 4 sessionId.toNat := List.take_left' (bigEndian_length _ _)
  have hlength : (bigEndian 4 sessionId.toNat ++ [0, 0, 0, 0]).length = 8 := by
    rw [List.length_append, bigEndian_length]
    rfl
  refine ⟨bigEndian 4 sessionId.toNat ++ [0, 0, 0, 0], accepted_iff.mpr ⟨?_, ?_⟩,
    decodeSessionId_ok_iff.mpr ⟨?_, ?_⟩⟩
  · omega
  · apply UInt16.toNat_inj.mp
    rw [← beU32_mod (by omega), htake, beU32_bigEndian, code]
    rfl
  · omega
  · rw [htake, beU32_bigEndian]

/-- The ids that can be received are those whose low sixteen bits are the code of success; no
response that `get_response` returns is decoded to any other. -/
theorem session_id_receivable_iff (sessionId : UInt32) :
    (Receivable sessionId ↔ sessionId.toNat % 2 ^ 16 = 0x2001) ∧
    ∀ transactionId config s p s', getResponse transactionId config s = .ok p s' →
      decodeSessionId p.payload = .ok sessionId → sessionId.toNat % 2 ^ 16 = 0x2001 := by
  refine ⟨⟨?_, receivable_of_mod⟩, ?_⟩
  · rintro ⟨payload, accepted, decoded⟩
    exact checked_sessionId (accepted 0) decoded
  · intro transactionId config s p s' received decoded
    exact checked_sessionId (getResponse_checked received) decoded

/-- An id that ends in the code. -/
theorem session_id_receivable_code : Receivable 0x12342001 :=
  (session_id_receivable_iff 0x12342001).1.mpr (by decide)

/-- The response that carries this id is taken for a refusal. -/
theorem plain_id_refused :
    checkResponseError ⟨.responseBlock, 7, [0x12, 0x34, 0x56, 0x78, 0, 0, 0, 0]⟩ =
      .error (.deviceError 0x5678 "Unknown error (0x5678)") ∧
    ¬ Receivable 0x12345678 := by
  refine ⟨by decide, ?_⟩
  rintro ⟨payload, accepted, decoded⟩
  exact absurd (checked_sessionId (accepted 0) decoded) (by decide)

end SessionIds
