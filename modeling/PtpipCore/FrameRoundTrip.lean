import PtpipCore.Frames

/-!
# What the receiver makes of the bytes the sender writes

The sender puts a length in front of the payload of a data block only. The
receiver expects a length in front of the payload of a response too, and reads
no payload at all for commands and events.
-/

namespace FrameRoundTrip

open Effects ByteStream Types Transport Frames
open EStateM (Result)

/-- The bytes of a packet: its header, then its payload. -/
def encoding (p : PtpIpPacket) : Bytes := (headerOf p).toBytes ++ p.payload

lemma sendPacket_done (p : PtpIpPacket) (w : Bytes) :
    sendPacket p ⟨w, []⟩ = .ok () ⟨w ++ encoding p, []⟩ := by
  have hheader : (writeAll (headerOf p).toBytes : Send Unit) ⟨w, []⟩ =
      .ok () ⟨w ++ (headerOf p).toBytes, []⟩ := rfl
  unfold sendPacket
  rw [bind_ok hheader, encoding, ← List.append_assoc]
  by_cases hp : p.payload = []
  · rw [if_neg (not_not_intro hp), hp, List.append_nil]
    rfl
  · rw [if_pos hp]
    rfl

/-- What `send_packet` puts on a stream that accepts every write. -/
def sent (p : PtpIpPacket) : Bytes := (endState (sendPacket p ⟨[], []⟩)).written

lemma sent_eq (p : PtpIpPacket) : sent p = encoding p := by
  rw [sent, sendPacket_done]
  rfl

/-- The reserved field is sent as zero. -/
def sentFrame (p : PtpIpPacket) (body : FrameBody) : Frame := ⟨0, p.transactionId, body⟩

lemma encoding_bare {p : PtpIpPacket} (notData : p.messageType ≠ .dataBlock) :
    encoding p = bigEndian 2 p.messageType.code.toNat ++
      (sentFrame p .command).idBytes ++ p.payload := by
  have hcode : p.messageType.code ≠ PtpIpMessageType.dataBlock.code :=
    fun h => notData (PtpIpMessageType.code_injective h)
  simp [encoding, PtpIpHeader.toBytes, headerOf, hcode, sentFrame, Frame.idBytes]

lemma encoding_data {p : PtpIpPacket} (isData : p.messageType = .dataBlock)
    (fits : p.payload.length < 2 ^ 32) :
    encoding p = (sentFrame p (.data ⟨p.payload, fits⟩)).wire := by
  simp [encoding, PtpIpHeader.toBytes, headerOf, isData, sentFrame, Frame.idBytes,
    Frame.wire, FrameBody.wire, FrameBody.messageType,
    Nat.mod_eq_of_lt (show p.payload.length < 4294967296 from fits)]

lemma data_received {p : PtpIpPacket} (isData : p.messageType = .dataBlock)
    (fits : p.payload.length < 2 ^ 32) (tail : Bytes) :
    recvPacket (arrived (encoding p ++ tail)) = .ok p (arrived tail) := by
  rw [encoding_data isData fits, arrived_append, recvPacket_frame]
  simp [Frame.packet, FrameBody.messageType, FrameBody.payload, sentFrame, ← isData]

/-- Nothing of the payload of a command or an event is read. -/
lemma bare_received {p : PtpIpPacket}
    (bare : p.messageType = .commandBlock ∨ p.messageType = .eventBlock) (tail : Bytes) :
    recvPacket (arrived (encoding p ++ tail)) =
      .ok ⟨p.messageType, p.transactionId, []⟩ (arrived (p.payload ++ tail)) := by
  have notData : p.messageType ≠ .dataBlock := by
    rcases bare with h | h <;> rw [h] <;> decide
  have known : receivedType p.messageType.code = some p.messageType := by
    rcases bare with h | h <;> rw [h] <;> rfl
  have hcode : p.messageType.code ≠ PtpIpMessageType.dataBlock.code :=
    fun h => notData (PtpIpMessageType.code_injective h)
  rw [encoding_bare notData, List.append_assoc, arrived_append]
  exact recvPacket_bare (sentFrame p .command) _ known hcode bare

/-- The first four bytes after the header are taken for a length, whose bytes are
never part of the payload; only at the end of the stream is nothing lost. -/
lemma response_received_iff {p : PtpIpPacket} (isResponse : p.messageType = .responseBlock)
    (tail : Bytes) :
    recvPacket (arrived (encoding p ++ tail)) = .ok p (arrived tail) ↔
      p.payload = [] ∧ tail = [] := by
  have notData : p.messageType ≠ .dataBlock := by rw [isResponse]; decide
  rw [encoding_bare notData, List.append_assoc, arrived_append, isResponse,
    recvPacket_response]
  by_cases short : (p.payload ++ tail).length < 4
  · rw [recvBody_response_fault (readExact_eof short)]
    constructor
    · intro h
      injection h with hp hs
      have htail : tail = [] := List.map_eq_nil_iff.mp hs.symm
      exact ⟨(congrArg PtpIpPacket.payload hp).symm, htail⟩
    · rintro ⟨hp, rfl⟩
      obtain ⟨t, tid, payload⟩ := p
      cases hp
      cases isResponse
      rfl
  · obtain ⟨lenBytes, rest, hsplit, hlen⟩ : ∃ lenBytes rest,
        p.payload ++ tail = lenBytes ++ rest ∧ lenBytes.length = 4 :=
      ⟨_, _, (List.take_append_drop 4 _).symm, by simp at short ⊢; omega⟩
    rw [hsplit, arrived_append, recvBody_response_length (readExact_of_length hlen _)]
    constructor
    · intro h
      obtain ⟨-, -, hrest⟩ := recvPayload_ok h
      have hlength := congrArg List.length hrest
      have htotal := congrArg List.length hsplit
      simp only [arrived_length, List.length_append] at hlength htotal
      omega
    · rintro ⟨hp, rfl⟩
      simp [hp] at short

/-- The sender's bytes come back as the packet, with the tail left unread, exactly
for data blocks, for commands and events without payload, and for a response
without payload at the end of the stream. -/
theorem sent_received_iff (p : PtpIpPacket) (fits : p.payload.length < 2 ^ 32)
    (received : receivedType p.messageType.code = some p.messageType) (tail : Bytes) :
    recvPacket (arrived (sent p ++ tail)) = .ok p (arrived tail) ↔
      p.messageType = .dataBlock ∨
      (p.messageType = .responseBlock → tail = []) ∧ p.payload = [] := by
  rw [sent_eq]
  by_cases isData : p.messageType = .dataBlock
  · simp only [isData, true_or, iff_true]
    exact data_received isData fits tail
  by_cases isResponse : p.messageType = .responseBlock
  · rw [response_received_iff isResponse]
    simp only [isResponse, true_imp_iff, and_comm, reduceCtorEq, false_or]
  · have bare : p.messageType = .commandBlock ∨ p.messageType = .eventBlock := by
      cases h : p.messageType <;> simp_all [PtpIpMessageType.code, receivedType]
    rw [bare_received bare]
    simp only [isData, isResponse, false_or, false_imp_iff, true_and]
    constructor
    · intro h
      injection h with hp
      exact (congrArg PtpIpPacket.payload hp).symm
    · intro hp
      rw [hp, List.nil_append, ← hp]

/-- An event with a code and no parameters. -/
def bareEvent : PtpIpPacket := ⟨.eventBlock, 7, [0x40, 0x01, 0x00, 0x00, 0x00, 0x00]⟩

theorem data_block_received :
    recvPacket (arrived (sent ⟨.dataBlock, 7, [1, 2, 3]⟩ ++ [9])) =
      .ok ⟨.dataBlock, 7, [1, 2, 3]⟩ (arrived [9]) :=
  (sent_received_iff ⟨.dataBlock, 7, [1, 2, 3]⟩ (by decide) rfl [9]).mpr (Or.inl rfl)

/-- The event arrives without its payload, which stays in the stream. -/
theorem event_payload_lost :
    receivedType bareEvent.messageType.code = some bareEvent.messageType ∧
    bareEvent.payload.length < 2 ^ 32 ∧
    recvPacket (arrived (sent bareEvent ++ [])) ≠ .ok bareEvent (arrived []) := by
  refine ⟨rfl, by decide, ?_⟩
  have received : recvPacket (arrived (sent bareEvent ++ [])) =
      .ok ⟨.eventBlock, 7, []⟩ (arrived bareEvent.payload) := rfl
  rw [received]
  intro h
  cases h

end FrameRoundTrip
