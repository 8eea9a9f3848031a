import PtpipCore.ReadTimeouts
import PtpipCore.Lib.ExactReaders

/-!
# Frames cut off by a lost connection

The reads of a frame are exact but for one: the length of a response may be
missing. A stream that ends between the header of a response and the end of its
length is received as a response without body.
-/

namespace TruncatedFrames

open Effects ByteStream Types Transport Frames ReadTimeouts ExactReaders
open EStateM (Result)

/-- The first step of the receiver: type and header. -/
def recvHeader : Recv PtpIpHeader := do
  let typeBytes ← readExact 2
  PtpIpHeader.fromStream (some (beU16 typeBytes))

lemma recvPacket_eq : recvPacket = recvHeader >>= recvBody := by
  rw [recvHeader, bind_assoc]
  rfl

lemma exact_fromStream (t : Option UInt16) : Exact (PtpIpHeader.fromStream t) := by
  unfold PtpIpHeader.fromStream
  apply exact_bind (exact_readExact _)
  intro headerBytes
  dsimp only
  split
  · exact exact_bind (exact_readExact 4) (fun _ => exact_pure _)
  · exact exact_pure _

lemma exact_recvHeader : Exact recvHeader :=
  exact_bind (exact_readExact 2) (fun _ => exact_fromStream _)

lemma exact_recvPayload (t : PtpIpMessageType) (tid : UInt32) (n : Nat) :
    Exact (recvPayload t tid n) := by
  unfold recvPayload
  apply exact_bind
  · split
    · exact exact_readExact n
    · exact exact_pure []
  · exact fun _ => exact_pure _

lemma exact_recvBody {header : PtpIpHeader}
    (other : header.messageType ≠ PtpIpMessageType.responseBlock.code) :
    Exact (recvBody header) := by
  unfold recvBody
  cases ht : receivedType header.messageType with
  | none => exact exact_throw _
  | some t =>
    have notResponse : t ≠ .responseBlock := by
      rintro rfl
      exact other (receivedType_code ht)
    dsimp only
    split
    · exact exact_recvPayload _ _ _
    · rw [if_neg (fun h => notResponse h.1)]
      exact exact_recvPayload _ _ _

/-- The header of a response and at least one byte more. -/
def ResponseGoesOn (s : List Arrival) : Prop :=
  ∃ bs t, s = arrived bs ++ t ∧ bs.length = 9 ∧
    beU16 (bs.take 2) = PtpIpMessageType.responseBlock.code

lemma arrived_injective {bs cs : Bytes} (h : arrived bs = arrived cs) : bs = cs :=
  (List.map_inj_right fun _ _ => Arrival.byte.inj).mp h

/-- The header is taken for the type in its first two bytes. -/
lemma recvHeader_ok {header : PtpIpHeader} {s t : List Arrival}
    (h : recvHeader s = .ok header t) :
    ∃ bs, s = arrived bs ++ t ∧ Takes recvHeader bs header ∧ 2 ≤ bs.length ∧
      header.messageType = beU16 (bs.take 2) ∧
      (header.messageType = PtpIpMessageType.responseBlock.code →
        bs.length = 8 ∧ header.payloadLength = 0) := by
  obtain ⟨bs, hs, takes⟩ := exact_recvHeader header s t h
  obtain ⟨typeBytes, u, htype, hheader⟩ := bind_eq_ok_iff.mp h
  obtain ⟨htypeLen, rfl⟩ := readExact_ok htype
  obtain ⟨hcode, noLength, rest, rfl, hlen⟩ := fromStream_ok hheader
  rw [← List.append_assoc, ← arrived_append] at hs
  obtain rfl := arrived_injective (List.append_cancel_right hs)
  refine ⟨typeBytes ++ rest, by rw [arrived_append, List.append_assoc], takes, ?_, ?_, ?_⟩
  · rw [List.length_append]
    omega
  · rw [hcode, List.take_left' htypeLen]
  · intro isResponse
    have notData : beU16 typeBytes ≠ PtpIpMessageType.dataBlock.code := by
      rw [← hcode, isResponse]
      decide
    rw [if_neg notData] at hlen
    exact ⟨by rw [List.length_append, htypeLen, hlen], noLength notData⟩

section responses

variable (reserved : UInt16) (tid : UInt32)

/-- Without a single byte of the length the response is empty. -/
lemma recvBody_response_stops {t : List Arrival} (stops : ∀ b u, t ≠ .byte b :: u) :
    ∃ u, bytesOf t = bytesOf u ∧
      recvBody ⟨PtpIpMessageType.responseBlock.code, reserved, tid, 0⟩ t =
        .ok ⟨.responseBlock, tid, []⟩ u := by
  cases t with
  | nil =>
    have hread : (readExact 4 : Recv Bytes) [] = .error (FromIo.fromIo .unexpectedEof) [] := rfl
    exact ⟨[], rfl, recvBody_response_fault hread⟩
  | cons a u =>
    cases a with
    | byte b => exact absurd rfl (stops b u)
    | fault kind =>
      have hread : (readExact 4 : Recv Bytes) (.fault kind :: u) =
          .error (FromIo.fromIo kind) u := rfl
      exact ⟨u, rfl, recvBody_response_fault hread⟩

/-- A byte of the length is used up, whether the length is complete or not. -/
lemma recvBody_response_goes_on (b : UInt8) (t : List Arrival) :
    endState (recvBody ⟨PtpIpMessageType.responseBlock.code, reserved, tid, 0⟩ (.byte b :: t)) <:+
      t := by
  have hfirst : endState ((readExact 4 : Recv Bytes) (.byte b :: t)) <:+ t := by
    rw [endState_readExact_byte]
    exact consumes_readExact 3 t
  cases hread : (readExact 4 : Recv Bytes) (.byte b :: t) with
  | ok lenBytes u =>
    rw [hread] at hfirst
    rw [recvBody_response_length hread]
    exact (consumes_recvPayload _ _ _ u).trans hfirst
  | error e u =>
    rw [hread] at hfirst
    rw [recvBody_response_fault hread]
    exact hfirst

end responses

/-- Every cut is refused. -/
def CutsRefused (bs : Bytes) : Prop :=
  ∀ k < bs.length, ∃ e t, recvPacket (arrived (bs.take k)) = .error e t

/-- What a cut of the header does to the receiver. -/
lemma recvPacket_cut_header {bs : Bytes} {header : PtpIpHeader} (takes : Takes recvHeader bs header)
    {k : Nat} (hk : k < bs.length) :
    ∃ e t, recvPacket (arrived (bs.take k)) = .error e t := by
  obtain ⟨e, t, herror⟩ := takes.needs k hk
  rw [recvPacket_eq]
  exact ⟨e, t, bind_error herror⟩

lemma not_responseGoesOn {bs : Bytes} {t : List Arrival} (long : 2 ≤ bs.length)
    (other : beU16 (bs.take 2) ≠ PtpIpMessageType.responseBlock.code) :
    ¬ ResponseGoesOn (arrived bs ++ t) := by
  rintro ⟨cs, u, heq, hlen, hcode⟩
  have hbytes := congrArg bytesOf heq
  rw [bytesOf_arrived_append, bytesOf_arrived_append] at hbytes
  have htwo := congrArg (List.take 2) hbytes
  rw [List.take_append_of_le_length long, List.take_append_of_le_length (by omega)] at htwo
  exact other (htwo ▸ hcode)

lemma bytesOf_append (s t : List Arrival) : bytesOf (s ++ t) = bytesOf s ++ bytesOf t :=
  List.filterMap_append

/-- Behind eight bytes there is no ninth. -/
lemma not_responseGoesOn_stops {bs : Bytes} {t : List Arrival} (hlen : bs.length = 8)
    (stops : ∀ b u, t ≠ .byte b :: u) : ¬ ResponseGoesOn (arrived bs ++ t) := by
  rintro ⟨cs, u, heq, hnine, -⟩
  have hrest := congrArg (List.drop 8) heq
  have hbs : (arrived bs).length = 8 := by rw [arrived_length, hlen]
  have hcs : 8 ≤ (arrived cs).length := by rw [arrived_length, hnine]; omega
  rw [List.drop_left' hbs, List.drop_append_of_le_length hcs] at hrest
  obtain ⟨b, hb⟩ : ∃ b, cs.drop 8 = [b] := by
    apply List.length_eq_one_iff.mp
    rw [List.length_drop, hnine]
  have hdrop : (arrived cs).drop 8 = arrived [b] := by
    rw [← hb]
    exact List.map_drop.symm
  rw [hdrop] at hrest
  exact stops b u hrest

/-- A response without length that was received: only its header was there to be cut. -/
lemma response_stops {bs : Bytes} {reserved : UInt16} {tid : UInt32} {p : PtpIpPacket}
    {used t s' : List Arrival}
    (takes : Takes recvHeader bs ⟨PtpIpMessageType.responseBlock.code, reserved, tid, 0⟩)
    (hbody : recvBody ⟨PtpIpMessageType.responseBlock.code, reserved, tid, 0⟩ t = .ok p s')
    (hs : used ++ s' = arrived bs ++ t) (stops : ∀ b u, t ≠ .byte b :: u) :
    CutsRefused (bytesOf used) := by
  obtain ⟨u, hbytes, hstops⟩ := recvBody_response_stops reserved tid stops
  rw [hstops] at hbody
  cases hbody
  have hused := congrArg bytesOf hs
  rw [bytesOf_append, bytesOf_arrived_append, hbytes] at hused
  rw [List.append_cancel_right hused]
  intro k hk
  exact recvPacket_cut_header takes hk

/-- Cut behind its header, a response is received without its body. -/
lemma response_goes_on {bs : Bytes} {reserved : UInt16} {tid : UInt32} {p : PtpIpPacket}
    {used s' u : List Arrival} {b : UInt8} (hlen : bs.length = 8)
    (takes : Takes recvHeader bs ⟨PtpIpMessageType.responseBlock.code, reserved, tid, 0⟩)
    (hbody : recvBody ⟨PtpIpMessageType.responseBlock.code, reserved, tid, 0⟩ (.byte b :: u) =
      .ok p s')
    (hs : used ++ s' = arrived bs ++ .byte b :: u) : ¬ CutsRefused (bytesOf used) := by
  have hsuffix := recvBody_response_goes_on reserved tid b u
  rw [hbody] at hsuffix
  obtain ⟨v, rfl⟩ := hsuffix
  rw [endState_ok] at hs
  have hused : used = arrived bs ++ .byte b :: v := by
    rw [show arrived bs ++ .byte b :: (v ++ s') = (arrived bs ++ .byte b :: v) ++ s' by simp] at hs
    exact List.append_cancel_right hs
  have accepted : recvPacket (arrived bs) = .ok ⟨.responseBlock, tid, []⟩ [] := by
    have hheader := takes.returns []
    have hread : (readExact 4 : Recv Bytes) [] = .error (FromIo.fromIo .unexpectedEof) [] := rfl
    rw [List.append_nil] at hheader
    rw [recvPacket_eq, bind_ok hheader, recvBody_response_fault hread]
  intro refused
  have hcut : 8 < (bytesOf used).length := by
    rw [hused, bytesOf_arrived_append, List.length_append, hlen, bytesOf_byte]
    exact Nat.lt_add_of_pos_right (Nat.succ_pos _)
  obtain ⟨e, t, herror⟩ := refused 8 hcut
  rw [hused, bytesOf_arrived_append, List.take_left' hlen, accepted] at herror
  cases herror

/-- A received stream that is cut off anywhere is refused, if and only if it does not begin
with the header of a response and a byte more. -/
theorem truncated_refused_iff {used s' : List Arrival} {p : PtpIpPacket}
    (received : recvPacket (used ++ s') = .ok p s') :
    CutsRefused (bytesOf used) ↔ ¬ ResponseGoesOn (used ++ s') := by
  rw [recvPacket_eq] at received
  obtain ⟨⟨code, reserved, tid, len⟩, t, hheader, hbody⟩ := bind_eq_ok_iff.mp received
  obtain ⟨bs, hs, takes, htwo, hcode, hresponse⟩ := recvHeader_ok hheader
  dsimp only at hcode hresponse
  by_cases isResponse : code = PtpIpMessageType.responseBlock.code
  · obtain ⟨hlen, rfl⟩ := hresponse isResponse
    subst isResponse
    by_cases stops : ∀ b u, t ≠ .byte b :: u
    · rw [hs]
      exact iff_of_true (response_stops takes hbody hs stops)
        (not_responseGoesOn_stops hlen stops)
    · obtain ⟨b, u, rfl⟩ : ∃ b u, t = .byte b :: u := by
        simpa only [not_forall, not_not] using stops
      have goesOn : ResponseGoesOn (used ++ s') := by
        refine ⟨bs ++ [b], u, by rw [hs]; simp, ?_, ?_⟩
        · rw [List.length_append, hlen, List.length_singleton]
        · rw [List.take_append_of_le_length htwo, ← hcode]
      exact iff_of_false (response_goes_on hlen takes hbody hs) (not_not_intro goesOn)
  · obtain ⟨cs, rfl, takesBody⟩ := exact_recvBody isResponse p t s' hbody
    rw [← List.append_assoc, ← arrived_append] at hs
    obtain rfl := List.append_cancel_right hs
    have hbytes : bytesOf (arrived (bs ++ cs)) = bs ++ cs := by
      have happend := bytesOf_arrived_append (bs ++ cs) []
      rw [List.append_nil] at happend
      rw [happend]
      exact List.append_nil _
    apply iff_of_true
    · rw [hbytes, CutsRefused, recvPacket_eq]
      exact (takes_bind takes takesBody).needs
    · rw [arrived_append, List.append_assoc]
      exact not_responseGoesOn htwo (hcode ▸ isResponse)

/-- A data block, cut anywhere. -/
theorem truncated_data_refused :
    CutsRefused (bytesOf (arrived [0, 4, 0, 0, 0, 0, 0, 7, 0, 0, 0, 2, 10, 11])) :=
  have received : recvPacket (arrived [0, 4, 0, 0, 0, 0, 0, 7, 0, 0, 0, 2, 10, 11] ++ []) =
    .ok ⟨.dataBlock, 7, [10, 11]⟩ [] := rfl
  have other : ¬ ResponseGoesOn (arrived [0, 4, 0, 0, 0, 0, 0, 7, 0, 0, 0, 2, 10, 11] ++ []) :=
    not_responseGoesOn (by decide) (by decide)
  (truncated_refused_iff received).mpr other

/-- A positive response, and what is received of it when the connection ends behind its
header. -/
theorem truncated_response_received :
    recvPacket (arrived [0, 5, 0, 0, 0, 0, 0, 7, 0, 0, 0, 12, 0, 0, 0x20, 1, 0, 0, 0, 0]) =
      .ok ⟨.responseBlock, 7, [0, 0, 0x20, 1, 0, 0, 0, 0]⟩ [] ∧
    recvPacket (arrived ([0, 5, 0, 0, 0, 0, 0, 7, 0, 0, 0, 12, 0, 0, 0x20, 1, 0, 0, 0, 0].take 8)) =
      .ok ⟨.responseBlock, 7, []⟩ [] ∧
    ¬ CutsRefused [0, 5, 0, 0, 0, 0, 0, 7, 0, 0, 0, 12, 0, 0, 0x20, 1, 0, 0, 0, 0] := by
  refine ⟨rfl, rfl, fun refused => ?_⟩
  obtain ⟨e, t, herror⟩ := refused 8 (by decide)
  cases herror

end TruncatedFrames
