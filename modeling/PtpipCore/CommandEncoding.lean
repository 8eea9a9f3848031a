import PtpipCore.PartialObject

/-!
# Commands on the wire

The parameters are read as words and written back as words. Their number passes through two
bytes before it is written in four.
-/

namespace CommandEncoding

open Effects ByteStream Writes Types Transport FrameRoundTrip PartialObject
open EStateM (Result)

/-- A stream with so many answers to come that all accept; those behind them accept too. -/
def accepting (written : Bytes) (answers : Nat) : Sink :=
  ⟨written, List.replicate answers .done⟩

/-- The header of a command, without a length field. -/
def commandHeader (transactionId : UInt32) : PtpIpHeader :=
  ⟨PtpIpMessageType.commandBlock.code, 0, transactionId, 0⟩

/-- Version, operation code, the number of parameters and the parameters, under the header. -/
def commandBytes (opcode : UInt16) (transactionId count : UInt32) (parameters : Bytes) : Bytes :=
  (commandHeader transactionId).toBytes ++
    (bigEndian 2 0x0000 ++ bigEndian 2 opcode.toNat ++ bigEndian 4 count.toNat ++ parameters)

section sending

variable (opcode : UInt16) (transactionId : UInt32) (parameters : Bytes) (config : SessionConfig)

/-- Whole words are sent, under their number; of anything else nothing is written. -/
structure Encodes (s : Sink) : Prop where
  ok_iff : answer (sendCommand opcode transactionId parameters config s) = .ok () ↔
    parameters.length % 4 = 0
  sent : answer (sendCommand opcode transactionId parameters config s) = .ok () →
    ∃ count : UInt32, count.toNat = parameters.length / 4 ∧
      (endState (sendCommand opcode transactionId parameters config s)).written =
        s.written ++ commandBytes opcode transactionId count parameters
  unsent : ∀ e, answer (sendCommand opcode transactionId parameters config s) = .error e →
    (endState (sendCommand opcode transactionId parameters config s)).written = s.written

variable {opcode transactionId parameters config}

/-- Two bytes hold the number. -/
def Counted (parameters : Bytes) : Prop :=
  parameters.length % 4 = 0 → parameters.length / 4 < 2 ^ 16

/-- The header that the packet goes out under has this type and no length field. -/
lemma encoding_commandPacket (words : Nat) :
    encoding (commandPacket opcode transactionId words parameters) =
      commandBytes opcode transactionId (UInt16.ofNat words).toUInt32 parameters := by
  rw [commandBytes, UInt16.toNat_toUInt32]
  rfl

variable (opcode transactionId config) in
lemma sendCommand_whole (whole : parameters.length % 4 = 0) (written : Bytes) (answers : Nat) :
    ∃ rest, sendCommand opcode transactionId parameters config (accepting written answers) =
      .ok () ⟨written ++ commandBytes opcode transactionId
        (UInt16.ofNat (parameters.length / 4)).toUInt32 parameters, rest⟩ := by
  have hwords : parameters.length = 4 * (parameters.length / 4) := by omega
  have done : ∀ o ∈ List.replicate answers WriteOutcome.done, o = .done :=
    fun _ ho => List.eq_of_mem_replicate ho
  obtain ⟨rest, hsend⟩ := sendCommand_accepted opcode transactionId hwords config done written
  rw [encoding_commandPacket] at hsend
  exact ⟨_, hsend⟩

/-- Two encodings under one header differ in the number only. -/
lemma commandBytes_inj {count count' : UInt32} :
    commandBytes opcode transactionId count parameters =
      commandBytes opcode transactionId count' parameters ↔ count = count' := by
  constructor
  · intro heq
    have hnumber := List.append_cancel_left
      (List.append_cancel_right (List.append_cancel_left heq))
    rw [← beU32_bigEndian count, hnumber, beU32_bigEndian]
  · rintro rfl
    rfl

/-- A command is encoded exactly if its parameters are no whole words, or are fewer than `2 ^ 16`
words. -/
theorem command_encoded_iff (opcode : UInt16) (transactionId : UInt32) (parameters : Bytes)
    (config : SessionConfig) (written : Bytes) (answers : Nat) :
    Encodes opcode transactionId parameters config (accepting written answers) ↔
      Counted parameters := by
  by_cases whole : parameters.length % 4 = 0
  · obtain ⟨rest, hsend⟩ := sendCommand_whole opcode transactionId config whole written answers
    constructor
    · intro encodes whole'
      have hanswer : answer (sendCommand opcode transactionId parameters config
          (accepting written answers)) = .ok () := by rw [hsend, answer_ok]
      obtain ⟨count, hcount, hwritten⟩ := encodes.sent hanswer
      rw [hsend] at hwritten
      have hsame := commandBytes_inj.mp (List.append_cancel_left hwritten)
      rw [← hcount, ← hsame, UInt16.toNat_toUInt32]
      exact UInt16.toNat_lt _
    · intro counted
      constructor
      · rw [hsend]
        exact iff_of_true rfl whole
      · intro _
        refine ⟨_, ?_, by rw [hsend]; rfl⟩
        rw [UInt16.toNat_toUInt32, UInt16.toNat_ofNat_of_lt' (counted whole)]
      · intro e herror
        rw [hsend] at herror
        cases herror
  · have hsend := sendCommand_ragged opcode transactionId whole config (accepting written answers)
    refine iff_of_true ⟨?_, ?_, ?_⟩ (fun whole' => absurd whole' whole)
    · rw [hsend]
      exact iff_of_false (fun h => by cases h) whole
    · intro hok
      rw [hsend] at hok
      cases hok
    · intro e _
      rw [hsend]
      rfl

/-- A zero byte for every byte of as many parameters as two bytes cannot count. -/
private def uncounted : Bytes := List.replicate (4 * 2 ^ 16) 0

/-- They are sent under the number zero. -/
theorem uncounted_parameters_sent :
    (∃ rest, sendCommand 0x1007 7 uncounted ⟨30, 3⟩ (accepting [] 0) =
      .ok () ⟨commandBytes 0x1007 7 0 uncounted, rest⟩) ∧
    ¬ Encodes 0x1007 7 uncounted ⟨30, 3⟩ (accepting [] 0) := by
  have hlength : uncounted.length = 4 * 2 ^ 16 := List.length_replicate
  have whole : uncounted.length % 4 = 0 := by
    rw [hlength]
    rfl
  obtain ⟨rest, hsend⟩ := sendCommand_whole 0x1007 7 ⟨30, 3⟩ whole [] 0
  rw [hlength, List.nil_append] at hsend
  refine ⟨⟨rest, hsend⟩, fun encodes => ?_⟩
  obtain ⟨count, hcount, hwritten⟩ := encodes.sent (by rw [hsend]; rfl)
  rw [hsend] at hwritten
  have hsame := commandBytes_inj.mp hwritten
  rw [hlength, ← hsame] at hcount
  exact absurd hcount (by decide)

end sending

end CommandEncoding
