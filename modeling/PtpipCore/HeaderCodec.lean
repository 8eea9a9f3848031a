import PtpipCore.TruncatedFrames

/-!
# Headers, written and read

Only data blocks have a length field. A header is read whole, or behind a type that was read
on its own before; both readers take what the writer wrote.
-/

namespace HeaderCodec

open Effects ByteStream Types Transport TruncatedFrames

/-- A header without a length field has no length to lose. -/
def LengthInField (h : PtpIpHeader) : Prop :=
  h.messageType ≠ PtpIpMessageType.dataBlock.code → h.payloadLength = 0

/-- Reserved field and transaction id. -/
def idFields (h : PtpIpHeader) : Bytes :=
  bigEndian 2 h.reserved.toNat ++ bigEndian 4 h.transactionId.toNat

def lengthField (h : PtpIpHeader) : Bytes :=
  if h.messageType = PtpIpMessageType.dataBlock.code then bigEndian 4 h.payloadLength.toNat else []

lemma toBytes_eq (h : PtpIpHeader) :
    h.toBytes = bigEndian 2 h.messageType.toNat ++ idFields h ++ lengthField h := by
  unfold PtpIpHeader.toBytes idFields lengthField
  rw [List.append_assoc (bigEndian 2 h.messageType.toNat)]

lemma idFields_length (h : PtpIpHeader) : (idFields h).length = 6 := by
  simp only [idFields, List.length_append, bigEndian_length]

/-- The reader's last step, once type, reserved field and transaction id are known. -/
def readLength (messageType reserved : UInt16) (transactionId : UInt32) : Recv PtpIpHeader :=
  if messageType = PtpIpMessageType.dataBlock.code then do
    let lenBytes ← readExact 4
    return ⟨messageType, reserved, transactionId, beU32 lenBytes⟩
  else
    return ⟨messageType, reserved, transactionId, 0⟩

lemma readLength_written {h : PtpIpHeader} (lengthInField : LengthInField h)
    (s : List Arrival) :
    readLength h.messageType h.reserved h.transactionId (arrived (lengthField h) ++ s) =
      .ok h s := by
  unfold readLength lengthField
  by_cases isData : h.messageType = PtpIpMessageType.dataBlock.code
  · have hread := readExact_of_length (ε := PtpIpError)
      (bigEndian_length 4 h.payloadLength.toNat) s
    rw [if_pos isData, if_pos isData, bind_ok hread, beU32_bigEndian]
    rfl
  · have hzero : h.payloadLength = 0 := lengthInField isData
    rw [if_neg isData, if_neg isData, ← hzero]
    rfl

lemma idFields_reserved (h : PtpIpHeader) : beU16 ((idFields h).take 2) = h.reserved := by
  rw [idFields, List.take_left' (bigEndian_length _ _), beU16_bigEndian]

lemma idFields_transactionId (h : PtpIpHeader) :
    beU32 (((idFields h).drop 2).take 4) = h.transactionId := by
  rw [idFields, List.drop_left' (bigEndian_length _ _),
    List.take_of_length_le (Nat.le_of_eq (bigEndian_length _ _)), beU32_bigEndian]

/-- Behind the type, six bytes are read before the length field. -/
lemma fromStream_typed {h : PtpIpHeader} (lengthInField : LengthInField h) (s : List Arrival) :
    PtpIpHeader.fromStream (some h.messageType)
      (arrived (idFields h ++ lengthField h) ++ s) = .ok h s := by
  have hread := readExact_of_length (ε := PtpIpError) (idFields_length h)
    (arrived (lengthField h) ++ s)
  unfold PtpIpHeader.fromStream
  simp only [Option.isSome_some, if_true, headerAfterTypeSize, Option.getD_some]
  rw [arrived_append, List.append_assoc, bind_ok hread, idFields_reserved, idFields_transactionId]
  exact readLength_written lengthInField s

/-- With the type, eight bytes are. -/
lemma fromStream_untyped {h : PtpIpHeader} (lengthInField : LengthInField h)
    (s : List Arrival) : PtpIpHeader.fromStream none (arrived h.toBytes ++ s) = .ok h s := by
  have hlength : (bigEndian 2 h.messageType.toNat ++ idFields h).length = 8 := by
    rw [List.length_append, bigEndian_length, idFields_length]
  have hread := readExact_of_length (ε := PtpIpError) hlength (arrived (lengthField h) ++ s)
  unfold PtpIpHeader.fromStream
  simp only [Option.isSome_none, Bool.false_eq_true, if_false, fullHeaderSize, Option.getD_none]
  rw [toBytes_eq, arrived_append, List.append_assoc, bind_ok hread,
    List.take_left' (bigEndian_length _ _), List.drop_left' (bigEndian_length _ _),
    beU16_bigEndian, idFields_reserved, idFields_transactionId]
  exact readLength_written lengthInField s

/-- As the receiver reads a header, its type first. -/
lemma recvHeader_written {h : PtpIpHeader} (lengthInField : LengthInField h) (s : List Arrival) :
    recvHeader (arrived h.toBytes ++ s) = .ok h s := by
  have hread := readExact_of_length (ε := PtpIpError) (bigEndian_length 2 h.messageType.toNat)
    (arrived (idFields h ++ lengthField h) ++ s)
  unfold recvHeader
  rw [toBytes_eq, List.append_assoc, arrived_append, List.append_assoc, bind_ok hread,
    beU16_bigEndian]
  exact fromStream_typed lengthInField s

/-- A header that was written is read back in both ways, with what follows it left on the
stream; the receiver goes on with it. -/
theorem header_round_trip (h : PtpIpHeader) (lengthInField : LengthInField h)
    (tail : List Arrival) :
    PtpIpHeader.fromStream none (arrived h.toBytes ++ tail) = .ok h tail ∧
    recvHeader (arrived h.toBytes ++ tail) = .ok h tail ∧
    recvPacket (arrived h.toBytes ++ tail) = recvBody h tail := by
  refine ⟨fromStream_untyped lengthInField tail, recvHeader_written lengthInField tail, ?_⟩
  rw [recvPacket_eq, bind_ok (recvHeader_written lengthInField tail)]

/-- A data block that announces more than follows it. -/
theorem header_round_trip_data :
    PtpIpHeader.fromStream none (arrived (PtpIpHeader.toBytes ⟨4, 0xABCD, 7, 0x01020304⟩) ++
      arrived [9]) = .ok ⟨4, 0xABCD, 7, 0x01020304⟩ (arrived [9]) :=
  (header_round_trip ⟨4, 0xABCD, 7, 0x01020304⟩ (fun notData => absurd rfl notData)
    (arrived [9])).1

end HeaderCodec
