import PtpipCore.FrameStreams
import PtpipCore.SendRetry

/-!
# Asking for a part of an object

One chunk of a download: a command with handle, offset and length goes out, and
the data blocks of its transaction come in. Transaction ids come from a random
generator; those still to come are part of the state.
-/

namespace PartialObject

open Effects ByteStream Writes Types Transport Frames FrameRoundTrip SendRetry Commands
open FrameStreams
open EStateM (Result)

/-- The parameters in words of four bytes; a rest that is shorter cannot be read. -/
def parseParameters : Bytes → Except PtpIpError (List UInt32)
  | [] => .ok []
  | a :: b :: c :: d :: rest => do
    let params ← parseParameters rest
    return beU32 [a, b, c, d] :: params
  | _ => .error (FromIo.fromIo .unexpectedEof)

structure PtpCommand where
  opcode : UInt16
  parameterCount : UInt16
  parameters : List UInt32
  deriving DecidableEq, Repr

def PtpCommand.new (opcode : UInt16) (parameters : List UInt32) : PtpCommand :=
  ⟨opcode, UInt16.ofNat parameters.length, parameters⟩

/-- version(2) + operation code(2) + parameter count(4), then the parameters -/
def PtpCommand.toBytes (command : PtpCommand) : Bytes :=
  bigEndian 2 0x0000 ++ bigEndian 2 command.opcode.toNat ++
    bigEndian 4 command.parameterCount.toNat ++
    command.parameters.flatMap (bigEndian 4 ·.toNat)

def sendCommand (opcode : UInt16) (transactionId : UInt32) (parameters : Bytes)
    (config : SessionConfig) : Send Unit := do
  let params ← ofExcept (parseParameters parameters)
  sendPacketWithRetry ⟨.commandBlock, transactionId, (PtpCommand.new opcode params).toBytes⟩
    config

/-- Both directions of a connection, and the transaction ids to come. -/
structure Connection where
  incoming : Incoming
  outgoing : Sink
  transactionIds : Nat → UInt32

def Connection.incomingPart : Part Connection Incoming where
  get c := c.incoming
  set incoming c := { c with incoming := incoming }
  set_get _ := rfl

def Connection.outgoingPart : Part Connection Sink where
  get c := c.outgoing
  set outgoing c := { c with outgoing := outgoing }
  set_get _ := rfl

def generateTransactionId : EStateM PtpIpError Connection UInt32 := fun c =>
  .ok (c.transactionIds 0) { c with transactionIds := fun n => c.transactionIds (n + 1) }

/-- object handle(4) + offset(8) + length(4) -/
def partialObjectParams (objectHandle : UInt32) (offset : UInt64) (length : UInt32) : Bytes :=
  bigEndian 4 objectHandle.toNat ++ bigEndian 8 offset.toNat ++ bigEndian 4 length.toNat

def getPartialObject (config : SessionConfig) (objectHandle : UInt32) (offset : UInt64)
    (length : UInt32) : EStateM PtpIpError Connection Bytes := do
  let transactionId ← generateTransactionId
  Connection.outgoingPart.run (sendCommand PtpOperationCode.getPartialObject.code transactionId
    (partialObjectParams objectHandle offset length) config)
  Connection.incomingPart.run (receiveDataBlock transactionId config)

/-- Parameters that fill whole words are written back as they were. -/
lemma parseParameters_words {n : Nat} {bs : Bytes} (h : bs.length = 4 * n) :
    ∃ params, parseParameters bs = .ok params ∧ params.length = n ∧
      params.flatMap (bigEndian 4 ·.toNat) = bs := by
  induction n generalizing bs with
  | zero =>
    rw [List.eq_nil_of_length_eq_zero h]
    exact ⟨[], rfl, rfl, rfl⟩
  | succ n ih =>
    obtain ⟨a, b, c, d, rest, rfl⟩ : ∃ a b c d rest, bs = a :: b :: c :: d :: rest := by
      match bs, h with
      | a :: b :: c :: d :: rest, _ => exact ⟨a, b, c, d, rest, rfl⟩
    simp only [List.length_cons] at h
    have hrest : rest.length = 4 * n := by omega
    obtain ⟨params, hparse, hlength, hbytes⟩ := ih hrest
    refine ⟨beU32 [a, b, c, d] :: params, ?_, congrArg (· + 1) hlength, ?_⟩
    · rw [parseParameters, hparse]
      rfl
    · rw [List.flatMap_cons, bigEndian_beU32 rfl, hbytes]
      rfl

/-- A last word that is not full is not read. -/
lemma parseParameters_ragged {bs : Bytes} (h : bs.length % 4 ≠ 0) :
    parseParameters bs = .error (.io .unexpectedEof) := by
  induction bs using parseParameters.induct with
  | case1 => exact absurd rfl h
  | case2 a b c d rest ih =>
    simp only [List.length_cons] at h
    rw [parseParameters, ih (by omega)]
    rfl
  | case3 bs nonempty notWord =>
    rw [parseParameters.eq_3 bs nonempty notWord]
    rfl

/-- The packet of a command whose parameters fill so many words. -/
def commandPacket (opcode : UInt16) (transactionId : UInt32) (words : Nat) (parameters : Bytes) :
    PtpIpPacket :=
  ⟨.commandBlock, transactionId, bigEndian 2 0 ++ bigEndian 2 opcode.toNat ++
    bigEndian 4 (UInt16.ofNat words).toNat ++ parameters⟩

/-- Where the writes of one attempt are accepted a command goes out as one packet. -/
lemma sendCommand_accepted (opcode : UInt16) (transactionId : UInt32) {words : Nat}
    {parameters : Bytes} (whole : parameters.length = 4 * words) (config : SessionConfig)
    {outcomes : List WriteOutcome} (done : ∀ o ∈ outcomes, o = .done) (w : Bytes) :
    ∃ rest, sendCommand opcode transactionId parameters config ⟨w, outcomes⟩ =
      .ok () ⟨w ++ encoding (commandPacket opcode transactionId words parameters),
        outcomes.drop rest⟩ := by
  obtain ⟨params, hparse, hlength, hbytes⟩ := parseParameters_words whole
  have hpacket : (PtpCommand.new opcode params).toBytes =
      (commandPacket opcode transactionId words parameters).payload := by
    rw [PtpCommand.toBytes, PtpCommand.new, hlength, hbytes]
    rfl
  have hfirst : (ofExcept (parseParameters parameters) : Send (List UInt32)) ⟨w, outcomes⟩ =
      .ok params ⟨w, outcomes⟩ := by
    rw [hparse]
    rfl
  rw [sendCommand, bind_ok hfirst, hpacket]
  exact ⟨_, sendPacketWithRetry_accepted config (accepts_of_done done _) w⟩

/-- A stream without any answer to come accepts all writes. -/
lemma sendCommand_sent (opcode : UInt16) (transactionId : UInt32) {words : Nat}
    {parameters : Bytes} (whole : parameters.length = 4 * words) (config : SessionConfig)
    (w : Bytes) :
    sendCommand opcode transactionId parameters config ⟨w, []⟩ =
      .ok () ⟨w ++ encoding (commandPacket opcode transactionId words parameters), []⟩ := by
  have done : ∀ o ∈ ([] : List WriteOutcome), o = .done :=
    fun o ho => absurd ho List.not_mem_nil
  obtain ⟨rest, hsend⟩ := sendCommand_accepted opcode transactionId whole config done w
  rwa [List.drop_nil] at hsend

/-- Nothing is written when the parameters cannot be read. -/
lemma sendCommand_ragged (opcode : UInt16) (transactionId : UInt32) {parameters : Bytes}
    (partly : parameters.length % 4 ≠ 0) (config : SessionConfig) (s : Sink) :
    sendCommand opcode transactionId parameters config s = .error (.io .unexpectedEof) s := by
  have hparse : (ofExcept (parseParameters parameters) : Send (List UInt32)) s =
      .error (.io .unexpectedEof) s := by
    rw [parseParameters_ragged partly]
    rfl
  rw [sendCommand, bind_error hparse]

/-- A chunk request puts its command on the stream and returns what the data blocks of its
transaction hold, whatever else arrives between them. -/
theorem getPartialObject_reassembles {config : SessionConfig} {c : Connection}
    (onTime : OnTime config c.incoming.clocks) (accepting : c.outgoing.outcomes = [])
    {frames : List Frame}
    (nonempty : ∀ d ∈ frames.filterMap (chunkOf (c.transactionIds 0)), d.1 ≠ [])
    {tail : List Arrival} (arrivals : c.incoming.arrivals =
      arrived (wires frames ++ sent ⟨.dataBlock, c.transactionIds 0, []⟩) ++ tail)
    (objectHandle : UInt32) (offset : UInt64) (length : UInt32) :
    ∃ clocks', OnTime config clocks' ∧ getPartialObject config objectHandle offset length c =
      .ok ((frames.filterMap (chunkOf (c.transactionIds 0))).flatMap Subtype.val)
        ⟨⟨tail, clocks'⟩, ⟨c.outgoing.written ++ encoding (commandPacket
            PtpOperationCode.getPartialObject.code (c.transactionIds 0) 4
            (partialObjectParams objectHandle offset length)), []⟩,
          fun n => c.transactionIds (n + 1)⟩ := by
  obtain ⟨⟨arrivals', clocks⟩, ⟨w, outcomes⟩, ids⟩ := c
  have hwhole : (partialObjectParams objectHandle offset length).length = 4 * 4 := by
    simp [partialObjectParams]
  have hsend := sendCommand_sent PtpOperationCode.getPartialObject.code (ids 0) hwhole config w
  obtain ⟨clocks', onTime', hreceive⟩ := receiveDataBlock_chunks onTime nonempty tail
  dsimp only at accepting arrivals hreceive ⊢
  subst accepting arrivals
  refine ⟨clocks', onTime', ?_⟩
  have hid : generateTransactionId ⟨⟨arrived (wires frames ++ sent ⟨.dataBlock, ids 0, []⟩) ++ tail,
      clocks⟩, ⟨w, []⟩, ids⟩ = .ok (ids 0) ⟨⟨arrived (wires frames ++
        sent ⟨.dataBlock, ids 0, []⟩) ++ tail, clocks⟩, ⟨w, []⟩, fun n => ids (n + 1)⟩ := rfl
  rw [getPartialObject, bind_ok hid, bind_ok (Connection.outgoingPart.run_ok hsend)]
  exact Connection.incomingPart.run_ok hreceive

end PartialObject
