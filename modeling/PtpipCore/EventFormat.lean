import PtpipCore.EventListener
import PtpipCore.Lib.FrontReaders

/-!
# The format of events

A count of parameters and the parameters; what follows them is not looked at. At least six
bytes are asked for, which an event without parameters does not fill.
-/

namespace EventFormat

open Effects ByteStream FrontReaders Types Transport EventListener
open EStateM (Result)

/-- The code and the count of parameters at the front of a payload. -/
def eventCode (payload : Bytes) : UInt16 := u16At payload 0

def paramCount (payload : Bytes) : Nat := (u16At payload 2).toNat

lemma eventTypeOf_code (eventType : EventType) : eventTypeOf eventType.code = some eventType := by
  cases eventType <;> rfl

/-- A known code at the front, with as many parameters behind it as are announced. -/
structure EventFields (payload : Bytes) (transactionId : UInt32) (event : PtpEvent) : Prop where
  eventType : eventTypeOf (eventCode payload) = some event.eventType
  transactionId : event.transactionId = transactionId
  parameters : event.parameters =
    (List.range (paramCount payload)).map fun i => u32At payload (4 + 4 * i)

/-- Exactly the payloads of this format that have six bytes are parsed. -/
lemma parseEventPacket_ok_iff (packet : PtpIpPacket) (event : PtpEvent) :
    parseEventPacket packet = .ok event ↔ 6 ≤ packet.payload.length ∧
      4 + 4 * paramCount packet.payload ≤ packet.payload.length ∧
      EventFields packet.payload packet.transactionId event := by
  unfold parseEventPacket
  split
  · next short => exact iff_of_false (fun h => by cases h) (fun h => by omega)
  next long =>
  rw [answer_eq_ok_iff]
  simp only [readEvent, readsFront_readU16Be.bind_ok_iff,
    (readsFront_repeated readsFront_readU32Be _).bind_ok_iff, blocks_eq_map, List.drop_drop,
    List.length_drop, Nat.reduceAdd]
  constructor
  · rintro ⟨s, -, -, counted, hread⟩
    change 4 * paramCount packet.payload ≤ packet.payload.length - 4 at counted
    cases known : eventTypeOf (beU16 (packet.payload.take 2)) with
    | none =>
      rw [known] at hread
      cases hread
    | some eventType =>
      rw [known] at hread
      obtain ⟨rfl, -⟩ := pure_eq_ok_iff.mp hread
      exact ⟨by omega, by omega, known, rfl, rfl⟩
  · rintro ⟨-, counted, fields⟩
    refine ⟨arrived (packet.payload.drop (4 + 4 * paramCount packet.payload)), by omega, by omega,
      ?_, ?_⟩
    · change 4 * paramCount packet.payload ≤ packet.payload.length - 4
      omega
    · have known : eventTypeOf (beU16 (packet.payload.take 2)) = some event.eventType :=
        fields.eventType
      rw [known]
      refine pure_eq_ok_iff.mpr ⟨?_, rfl⟩
      obtain ⟨eventType, transactionId, parameters⟩ := event
      obtain ⟨-, rfl, rfl⟩ := fields
      rfl

/-- What is encoded is parsed, if it has six bytes. -/
lemma parseEventPacket_encode {messageType : PtpIpMessageType} {event : PtpEvent}
    (counted : event.parameters.length < 2 ^ 16) {trailing : Bytes}
    (long : event.parameters ≠ [] ∨ 2 ≤ trailing.length) :
    parseEventPacket ⟨messageType, event.transactionId, encodeEvent event ++ trailing⟩ =
      .ok event := by
  have hbytes : (event.parameters.flatMap (bigEndian 4 ·.toNat)).length =
      4 * event.parameters.length := blocks_length (fun _ => bigEndian_length _ _) _
  have hlength : ¬ (encodeEvent event ++ trailing).length < 6 := by
    simp only [encodeEvent, List.length_append, bigEndian_length, hbytes]
    have hpos : event.parameters ≠ [] → 0 < event.parameters.length := List.length_pos_iff.mpr
    rcases long with h | h
    · have := hpos h
      omega
    · omega
  have hcount : (UInt16.ofNat event.parameters.length).toNat = event.parameters.length :=
    UInt16.toNat_ofNat_of_lt' counted
  rw [parseEventPacket, if_neg hlength, answer_eq_ok_iff]
  refine ⟨arrived trailing, ?_⟩
  have hparameters : repeated (readU32Be : Recv UInt32) event.parameters.length
      (arrived (event.parameters.flatMap (bigEndian 4 ·.toNat) ++ trailing)) =
        .ok event.parameters (arrived trailing) := by
    rw [(readsFront_repeated readsFront_readU32Be _).reads hbytes, blocks_flatMap]
    · exact fun _ => bigEndian_length _ _
    · exact fun v rest => by rw [List.take_left' (bigEndian_length _ _), beU32_bigEndian]
  have hcountBytes : bigEndian 2 event.parameters.length =
      bigEndian 2 (UInt16.ofNat event.parameters.length).toNat := by rw [hcount]
  rw [readEvent, encodeEvent, hcountBytes, List.append_assoc, List.append_assoc,
    bind_ok (readU16Be_written _ _), bind_ok (readU16Be_written _ _), hcount,
    bind_ok hparameters]
  simp only [eventTypeOf_code]
  rfl

/-- An event that is encoded in six bytes at least is parsed, whatever follows it; a payload that
is too short for its count, or has an unknown code, is refused. -/
theorem event_format :
    (∀ (messageType : PtpIpMessageType) (event : CountedEvent) (trailing : Bytes),
      event.1.parameters ≠ [] ∨ 2 ≤ trailing.length →
      parseEventPacket ⟨messageType, event.1.transactionId, encodeEvent event.1 ++ trailing⟩ =
        .ok event.1) ∧
    ∀ packet : PtpIpPacket, packet.payload.length < 4 + 4 * paramCount packet.payload ∨
      eventTypeOf (eventCode packet.payload) = none → ∃ e, parseEventPacket packet = .error e := by
  refine ⟨fun _ event _ long => parseEventPacket_encode event.2 long, ?_⟩
  intro packet cause
  cases hparse : parseEventPacket packet with
  | error e => exact ⟨e, rfl⟩
  | ok event =>
    obtain ⟨-, counted, fields⟩ := (parseEventPacket_ok_iff packet event).mp hparse
    rcases cause with short | unknown
    · omega
    · cases unknown.symm.trans fields.eventType

private def removed : PtpEvent := ⟨.objectRemoved, 9, [5, 6]⟩

/-- Two parameters, and a byte behind them. -/
theorem event_format_two :
    parseEventPacket ⟨.eventBlock, 9, encodeEvent removed ++ [0xFF]⟩ = .ok removed :=
  event_format.1 .eventBlock ⟨removed, by decide⟩ [0xFF] (Or.inl (by decide))

private def bare : PtpEvent := ⟨.storeAdded, 9, []⟩

/-- An event without parameters is refused where nothing follows it. -/
theorem bare_event_refused :
    parseEventPacket ⟨.eventBlock, 9, encodeEvent bare ++ []⟩ =
      .error (.protocolError "Insufficient data length for event packet") ∧
    ¬ ∀ (event : CountedEvent) (trailing : Bytes),
      parseEventPacket ⟨.eventBlock, event.1.transactionId, encodeEvent event.1 ++ trailing⟩ =
        .ok event.1 := by
  have hrefused : parseEventPacket ⟨.eventBlock, 9, encodeEvent bare ++ []⟩ =
      .error (.protocolError "Insufficient data length for event packet") := rfl
  refine ⟨hrefused, fun all => ?_⟩
  cases hrefused.symm.trans (all ⟨bare, by decide⟩ [])

end EventFormat
