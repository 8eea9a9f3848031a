import PtpipCore.Transport

/-!
# Frames on the wire

A frame is what the receiver takes off the stream in one piece. Its three
shapes are header only, header with a length and that many bytes, and header
followed by a length that counts itself. The reserved field is arbitrary.
-/

namespace Frames

open Effects ByteStream Types Transport
open EStateM (Result)

/-- The payload of a data block; its length fits the length field. -/
abbrev DataPayload := { bs : Bytes // bs.length < 2 ^ 32 }

/-- The body of a response; its length field counts its own four bytes too. -/
abbrev ResponseBody := { bs : Bytes // bs.length + 4 < 2 ^ 32 }

inductive FrameBody where
  | command
  | data (payload : DataPayload)
  | response (body : ResponseBody)
  | event

structure Frame where
  reserved : UInt16
  transactionId : UInt32
  body : FrameBody

def FrameBody.messageType : FrameBody → PtpIpMessageType
  | command => .commandBlock
  | data _ => .dataBlock
  | response _ => .responseBlock
  | event => .eventBlock

def FrameBody.payload : FrameBody → Bytes
  | command => []
  | data payload => payload.1
  | response body => body.1
  | event => []

/-- The bytes after the common header. -/
def FrameBody.wire : FrameBody → Bytes
  | command => []
  | data payload => bigEndian 4 payload.1.length ++ payload.1
  | response body => bigEndian 4 (body.1.length + 4) ++ body.1
  | event => []

def Frame.packet (f : Frame) : PtpIpPacket :=
  ⟨f.body.messageType, f.transactionId, f.body.payload⟩

/-- Reserved field and transaction id. -/
def Frame.idBytes (f : Frame) : Bytes :=
  bigEndian 2 f.reserved.toNat ++ bigEndian 4 f.transactionId.toNat

def Frame.wire (f : Frame) : Bytes :=
  bigEndian 2 f.body.messageType.code.toNat ++ f.idBytes ++ f.body.wire

def wires (fs : List Frame) : Bytes := fs.flatMap Frame.wire

@[simp] lemma wires_nil : wires [] = [] := rfl

@[simp] lemma wires_cons (f : Frame) (fs : List Frame) :
    wires (f :: fs) = f.wire ++ wires fs := rfl

@[simp] lemma wires_append (fs gs : List Frame) : wires (fs ++ gs) = wires fs ++ wires gs :=
  List.flatMap_append

lemma Frame.idBytes_length (f : Frame) : f.idBytes.length = 6 := by
  simp [Frame.idBytes]

section receiving

variable (f : Frame) (s : List Arrival)

/-- After the type, the header reader takes the id bytes and, for a data block, a length. -/
lemma fromStream_idBytes (code : UInt16) :
    PtpIpHeader.fromStream (some code) (arrived f.idBytes ++ s) =
      (if code = PtpIpMessageType.dataBlock.code then do
        let lenBytes ← readExact 4
        return ⟨code, f.reserved, f.transactionId, beU32 lenBytes⟩
      else return ⟨code, f.reserved, f.transactionId, 0⟩ : Recv PtpIpHeader) s := by
  have hread := readExact_of_length (ε := PtpIpError) f.idBytes_length s
  unfold PtpIpHeader.fromStream
  simp only [Option.isSome_some, if_true, headerAfterTypeSize, Option.getD_some]
  rw [bind_ok hread]
  have hreserved : beU16 (f.idBytes.take 2) = f.reserved := by
    simp [Frame.idBytes]
  have hid : beU32 ((f.idBytes.drop 2).take 4) = f.transactionId := by
    simp [Frame.idBytes, List.take_of_length_le]
  simp only [hreserved, hid]

lemma recvPayload_arrived (t : PtpIpMessageType) (tid : UInt32) (bs : Bytes) :
    recvPayload t tid bs.length (arrived bs ++ s) = .ok ⟨t, tid, bs⟩ s := by
  cases bs with
  | nil => rfl
  | cons b bs =>
    unfold recvPayload
    have hread : (if (b :: bs).length > 0 then readExact (b :: bs).length else pure [] : Recv Bytes)
        (arrived (b :: bs) ++ s) = .ok (b :: bs) s := by
      rw [if_pos (by simp)]
      exact readExact_arrived (b :: bs) s
    rw [bind_ok hread]
    rfl

/-- Type and header are read off the front, whatever follows them. -/
lemma recvPacket_typed (code : UInt16) :
    recvPacket (arrived (bigEndian 2 code.toNat ++ f.idBytes) ++ s) =
      (PtpIpHeader.fromStream (some code) >>= recvBody) (arrived f.idBytes ++ s) := by
  unfold recvPacket
  have hread := readExact_of_length (ε := PtpIpError) (bigEndian_length 2 code.toNat)
    (arrived f.idBytes ++ s)
  rw [arrived_append, List.append_assoc, bind_ok hread, beU16_bigEndian]

/-- Header-only types: the packet is empty and nothing more is read. -/
lemma recvPacket_bare {code : UInt16} {t : PtpIpMessageType}
    (known : receivedType code = some t) (notData : code ≠ PtpIpMessageType.dataBlock.code)
    (bare : t = .commandBlock ∨ t = .eventBlock) :
    recvPacket (arrived (bigEndian 2 code.toNat ++ f.idBytes) ++ s) =
      .ok ⟨t, f.transactionId, []⟩ s := by
  have hheader : PtpIpHeader.fromStream (some code) (arrived f.idBytes ++ s) =
      .ok ⟨code, f.reserved, f.transactionId, 0⟩ s := by
    rw [fromStream_idBytes, if_neg notData]
    rfl
  rw [recvPacket_typed, bind_ok hheader]
  rcases bare with rfl | rfl <;> simp only [recvBody, known] <;> rfl

/-- A data block: the length comes with the header. -/
lemma recvPacket_data (lenBytes : Bytes) (hlen : lenBytes.length = 4) :
    recvPacket (arrived (bigEndian 2 PtpIpMessageType.dataBlock.code.toNat ++ f.idBytes) ++
        (arrived lenBytes ++ s)) =
      recvPayload .dataBlock f.transactionId (beU32 lenBytes).toNat s := by
  have hread := readExact_of_length (ε := PtpIpError) hlen s
  have hheader : PtpIpHeader.fromStream (some PtpIpMessageType.dataBlock.code)
      (arrived f.idBytes ++ (arrived lenBytes ++ s)) =
      .ok ⟨PtpIpMessageType.dataBlock.code, f.reserved, f.transactionId, beU32 lenBytes⟩ s := by
    rw [fromStream_idBytes, if_pos rfl, bind_ok hread]
    rfl
  rw [recvPacket_typed, bind_ok hheader]
  rfl

/-- A response: the header reader stops before the length. -/
lemma recvPacket_response :
    recvPacket (arrived (bigEndian 2 PtpIpMessageType.responseBlock.code.toNat ++ f.idBytes) ++ s) =
      recvBody ⟨PtpIpMessageType.responseBlock.code, f.reserved, f.transactionId, 0⟩ s := by
  have hheader : PtpIpHeader.fromStream (some PtpIpMessageType.responseBlock.code)
      (arrived f.idBytes ++ s) =
      .ok ⟨PtpIpMessageType.responseBlock.code, f.reserved, f.transactionId, 0⟩ s := by
    rw [fromStream_idBytes, if_neg (by decide)]
    rfl
  rw [recvPacket_typed, bind_ok hheader]

end receiving

/-- The length of a response is read, and decides how much is read after it. -/
lemma recvBody_response_length {reserved : UInt16} {tid : UInt32} {lenBytes : Bytes}
    {s t : List Arrival} (hread : (readExact 4 : Recv Bytes) s = .ok lenBytes t) :
    recvBody ⟨PtpIpMessageType.responseBlock.code, reserved, tid, 0⟩ s =
      recvPayload .responseBlock tid ((beU32 lenBytes).toNat - 4) t := by
  have hattempt : attempt (readExact 4 : Recv Bytes) s = .ok (.ok lenBytes) t := by
    simp only [attempt, hread, answer_ok, endState_ok]
  change (attempt (readExact 4 : Recv Bytes) >>= _) s = _
  rw [bind_ok hattempt]
  dsimp only
  split
  · rfl
  · have hzero : (beU32 lenBytes).toNat - 4 = 0 := by omega
    rw [hzero]

/-- A failed read of the length yields an empty response. -/
lemma recvBody_response_fault {reserved : UInt16} {tid : UInt32} {e : PtpIpError}
    {s t : List Arrival} (hread : (readExact 4 : Recv Bytes) s = .error e t) :
    recvBody ⟨PtpIpMessageType.responseBlock.code, reserved, tid, 0⟩ s =
      .ok ⟨.responseBlock, tid, []⟩ t := by
  have hattempt : attempt (readExact 4 : Recv Bytes) s = .ok (.error e) t := by
    simp only [attempt, hread, answer_error, endState_error]
  change (attempt (readExact 4 : Recv Bytes) >>= _) s = _
  rw [bind_ok hattempt]
  rfl

lemma beU32_length {n : Nat} (h : n < 2 ^ 32) : (beU32 (bigEndian 4 n)).toNat = n := by
  rw [beU32, ofBigEndian_bigEndian, Nat.mod_eq_of_lt (show n < 256 ^ 4 from h)]
  exact UInt32.toNat_ofNat_of_lt h

/-- The receiver takes exactly one frame off the stream. -/
theorem recvPacket_frame (f : Frame) (s : List Arrival) :
    recvPacket (arrived f.wire ++ s) = .ok f.packet s := by
  rw [Frame.wire, arrived_append, List.append_assoc]
  cases hb : f.body with
  | command =>
    simp only [Frame.packet, hb]
    exact recvPacket_bare f s rfl (by decide) (Or.inl rfl)
  | event =>
    simp only [Frame.packet, hb]
    exact recvPacket_bare f s rfl (by decide) (Or.inr rfl)
  | data payload =>
    have h := recvPacket_data f (arrived payload.1 ++ s) (bigEndian 4 payload.1.length)
      (bigEndian_length _ _)
    rw [beU32_length payload.2, recvPayload_arrived] at h
    simpa only [Frame.packet, hb, FrameBody.messageType, FrameBody.payload, FrameBody.wire,
      arrived_append, List.append_assoc] using h
  | response body =>
    have hread := readExact_of_length (ε := PtpIpError)
      (bigEndian_length 4 (body.1.length + 4)) (arrived body.1 ++ s)
    have h := recvPacket_response f
      (arrived (bigEndian 4 (body.1.length + 4)) ++ (arrived body.1 ++ s))
    rw [recvBody_response_length hread, beU32_length body.2, Nat.add_sub_cancel,
      recvPayload_arrived] at h
    simpa only [Frame.packet, hb, FrameBody.messageType, FrameBody.payload, FrameBody.wire,
      arrived_append, List.append_assoc] using h

end Frames
