import PtpipCore.FrameStreams

/-!
# A chunk that the device refuses

The data phase waits for data blocks alone. A response of its transaction is
skipped like any foreign frame, whatever code it carries.
-/

namespace RefusedChunks

open Effects ByteStream Types Transport Frames Commands FrameStreams
open EStateM (Result)

/-- Everything but an error that the device has reported. -/
def NotRefused (e : PtpIpError) : Prop := ∀ code message, e ≠ .deviceError code message

lemma notRefused_fromIo (kind : ErrorKind) : NotRefused (FromIo.fromIo kind) := by
  intro code message h
  change PtpIpError.ofIo kind = _ at h
  rw [PtpIpError.ofIo] at h
  split at h <;> cases h

lemma notRefused_protocolError (message : String) : NotRefused (.protocolError message) := by
  intro code message' h
  cases h

section receiving

lemma failsOnly_fromStream (t : Option UInt16) :
    FailsOnly NotRefused (PtpIpHeader.fromStream t) := by
  rw [PtpIpHeader.fromStream]
  refine failsOnly_bind (failsOnly_readExact notRefused_fromIo _) ?_
  intro _ headerBytes _ _
  dsimp only
  split
  · exact failsOnly_bind (failsOnly_readExact notRefused_fromIo 4)
      (fun _ _ _ _ => failsOnly_pure _)
  · exact failsOnly_pure _

lemma failsOnly_recvPayload (t : PtpIpMessageType) (tid : UInt32) (n : Nat) :
    FailsOnly NotRefused (recvPayload t tid n) := by
  rw [recvPayload]
  refine failsOnly_bind ?_ (fun _ _ _ _ => failsOnly_pure _)
  split
  · exact failsOnly_readExact notRefused_fromIo n
  · exact failsOnly_pure []

lemma failsOnly_recvBody (header : PtpIpHeader) : FailsOnly NotRefused (recvBody header) := by
  rw [recvBody]
  cases receivedType header.messageType with
  | none => exact failsOnly_throw (notRefused_protocolError _)
  | some t =>
    dsimp only
    split
    · exact failsOnly_recvPayload _ _ _
    split
    · refine failsOnly_bind (failsOnly_attempt _) ?_
      intro _ r _ _
      cases r with
      | ok lenBytes => dsimp only; split <;> exact failsOnly_recvPayload _ _ _
      | error e => exact failsOnly_recvPayload _ _ _
    · exact failsOnly_recvPayload _ _ _

lemma failsOnly_recvPacket : FailsOnly NotRefused recvPacket :=
  failsOnly_bind (failsOnly_readExact notRefused_fromIo 2)
    (fun _ _ _ _ => failsOnly_bind (failsOnly_fromStream _)
      (fun _ header _ _ => failsOnly_recvBody header))

lemma failsOnly_filterTurn (clock : Nat → Nat) (t : Option PtpIpMessageType)
    (config : SessionConfig) (turn : Nat) :
    FailsOnly NotRefused (filterTurn clock t config turn) := by
  rw [filterTurn, filterTurnOf]
  split
  · exact failsOnly_throw fun _ _ h => by cases h
  · refine failsOnly_bind failsOnly_recvPacket ?_
    intro _ packet _ _
    split <;> exact failsOnly_pure _

lemma failsOnly_recvPacketFiltered (t : Option PtpIpMessageType) (config : SessionConfig) :
    FailsOnly NotRefused (recvPacketFiltered t config) := by
  intro s e s' h
  rw [recvPacketFiltered] at h
  split at h
  · cases h
  · next hloop =>
    cases h
    exact failsOnly_loop _ (failsOnly_filterTurn (s.clocks 0) t config) 0 _ _ _ hloop

/-- The data phase ends with no error of the device, on any stream. -/
theorem failsOnly_receiveDataBlock (t : UInt32) (config : SessionConfig) :
    FailsOnly NotRefused (receiveDataBlock t config) := by
  refine failsOnly_loop _ (fun totalData => ?_) []
  rw [receiveDataBlockTurn]
  refine failsOnly_bind (failsOnly_recvPacketFiltered _ config) ?_
  intro _ packet _ _
  split
  · exact failsOnly_pure _
  · split <;> exact failsOnly_pure _

end receiving

/-- A data block of the transaction, with any reserved field. -/
def dataFrame (t : UInt32) (block : UInt16 × DataPayload) : Frame := ⟨block.1, t, .data block.2⟩

/-- The data phase ends with the device's error, and takes nothing behind its response. -/
def RefusalReported (t : UInt32) (config : SessionConfig) (clocks : Nat → Nat → Nat)
    (blocks : List (UInt16 × DataPayload)) (reserved : UInt16) (body : ResponseBody)
    (tail : List Arrival) : Prop :=
  let r := receiveDataBlock t config ⟨arrived (wires (blocks.map (dataFrame t)) ++
    Frame.wire ⟨reserved, t, .response body⟩) ++ tail, clocks⟩
  (∃ message, answer r = .error (.deviceError (responseCode body.1).toUInt32 message)) ∧
    (endState r).arrivals = tail

/-- No refusal is reported, whatever blocks come before it and whatever follows. -/
theorem refusal_never_reported (t : UInt32) (config : SessionConfig) (clocks : Nat → Nat → Nat)
    (blocks : List (UInt16 × DataPayload)) (reserved : UInt16) (body : ResponseBody)
    (tail : List Arrival) :
    ¬ RefusalReported t config clocks blocks reserved body tail := by
  rintro ⟨⟨message, hanswer⟩, -⟩
  generalize Incoming.mk _ clocks = s at hanswer
  cases hr : receiveDataBlock t config s with
  | ok data s' =>
    rw [hr] at hanswer
    cases hanswer
  | error e s' =>
    rw [hr] at hanswer
    cases hanswer
    exact failsOnly_receiveDataBlock t config s _ s' hr _ message rfl

private def invalidHandle : ResponseBody := ⟨[0, 0, 0x20, 0x09, 0, 0, 0, 0], by decide⟩

/-- The device does not know the object; the caller waits until the connection ends. -/
theorem refusal_not_reported :
    8 ≤ invalidHandle.1.length ∧ responseCode invalidHandle.1 = 0x2009 ∧
    answer (receiveDataBlock 1 ⟨30, 3⟩
      ⟨arrived (Frame.wire ⟨0, 1, .response invalidHandle⟩) ++ [], fun _ _ => 0⟩) =
        .error (.io .unexpectedEof) ∧
    ¬ RefusalReported 1 ⟨30, 3⟩ (fun _ _ => 0) [] 0 invalidHandle [] := by
  have hskip : filterTurn (fun _ => 0) (some .dataBlock) ⟨30, 3⟩ 0
      (arrived (Frame.wire ⟨0, 1, .response invalidHandle⟩) ++ []) = .ok (.inl 1) [] :=
    filterTurn_frame (Nat.zero_le _) ⟨0, 1, .response invalidHandle⟩ []
  have hend : filterTurn (fun _ => 0) (some .dataBlock) ⟨30, 3⟩ 1 [] =
      .error (.io .unexpectedEof) [] := rfl
  have hrecv : recvPacketFiltered (some .dataBlock) ⟨30, 3⟩
      ⟨arrived (Frame.wire ⟨0, 1, .response invalidHandle⟩) ++ [], fun _ _ => 0⟩ =
        .error (.io .unexpectedEof) ⟨[], fun _ _ => 0⟩ := by
    rw [recvPacketFiltered, loop_continue hskip, loop_error hend]
  have hrefusal : receiveDataBlock 1 ⟨30, 3⟩
      ⟨arrived (Frame.wire ⟨0, 1, .response invalidHandle⟩) ++ [], fun _ _ => 0⟩ =
        .error (.io .unexpectedEof) ⟨[], fun _ _ => 0⟩ := loop_error (bind_error hrecv)
  refine ⟨by decide, by decide, by rw [hrefusal, answer_error], ?_⟩
  rintro ⟨⟨message, hanswer⟩, -⟩
  have hsame : answer (receiveDataBlock 1 ⟨30, 3⟩
      ⟨arrived (Frame.wire ⟨0, 1, .response invalidHandle⟩) ++ [], fun _ _ => 0⟩) =
        .error (.deviceError (responseCode invalidHandle.1).toUInt32 message) := hanswer
  rw [hrefusal] at hsame
  cases hsame

end RefusedChunks
