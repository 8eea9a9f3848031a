import PtpipCore.Transport

/-!
# Waiting for a response, and for the blocks of a data phase

Both loops take filtered packets until one carries the expected transaction
id; a response is then checked for an error code, a data block is collected
until an empty one ends the phase.
-/

namespace Commands

open Effects ByteStream Types Transport
open EStateM (Result)

def errorMessage (responseCode : UInt16) : String :=
  if responseCode = 0x2002 then "General error"
  else if responseCode = 0x2003 then "Session not open"
  else if responseCode = 0x2004 then "Invalid transaction ID"
  else if responseCode = 0x2005 then "Unsupported operation"
  else if responseCode = 0x2006 then "Unsupported parameter"
  else if responseCode = 0x2007 then "Incomplete transfer"
  else if responseCode = 0x2008 then "Invalid storage ID"
  else if responseCode = 0x2009 then "Invalid object handle"
  else "Unknown error (0x" ++ hex4 responseCode.toNat ++ ")"

def checkResponseError (packet : PtpIpPacket) : Except PtpIpError Unit :=
  if packet.payload.length < 8 then
    .error (.protocolError "Insufficient response packet length")
  else
    -- the cursor stands after the version(2)
    match answer ((readU16Be : Recv UInt16) (arrived (packet.payload.drop 2))) with
    | .error e => .error e
    | .ok responseCode =>
      if responseCode ≠ PtpOperationCode.ok.code then
        .error (.deviceError responseCode.toUInt32 (errorMessage responseCode))
      else .ok ()

abbrev Recvs := EStateM PtpIpError Incoming

/-- What the wait for a response does with one: it goes on, or checks the response and returns. -/
def takeResponse (expectedTransactionId : UInt32) (packet : PtpIpPacket) :
    Except PtpIpError (Unit ⊕ PtpIpPacket) := do
  if packet.transactionId ≠ expectedTransactionId then
    return .inl ()
  else
    checkResponseError packet
    return .inr packet

lemma takeResponse_foreign {expectedTransactionId : UInt32} {packet : PtpIpPacket}
    (foreign : packet.transactionId ≠ expectedTransactionId) :
    takeResponse expectedTransactionId packet = .ok (.inl ()) := if_pos foreign

lemma takeResponse_own {expectedTransactionId : UInt32} {packet : PtpIpPacket}
    (own : packet.transactionId = expectedTransactionId) :
    takeResponse expectedTransactionId packet = (do
      checkResponseError packet
      return .inr packet) := if_neg (not_not_intro own)

def getResponseTurn (expectedTransactionId : UInt32) (config : SessionConfig) :
    Unit → Recvs (Unit ⊕ PtpIpPacket) := fun _ => do
  let packet ← recvPacketFiltered (some .responseBlock) config
  ofExcept (takeResponse expectedTransactionId packet)

/-- A turn that goes well has received a response; it is returned if it answers and passes the
check. -/
lemma getResponseTurn_ok {expectedTransactionId : UInt32} {config : SessionConfig} {u : Unit}
    {r : Unit ⊕ PtpIpPacket} {s s' : Incoming}
    (h : getResponseTurn expectedTransactionId config u s = .ok r s') :
    ∃ packet, recvPacketFiltered (some .responseBlock) config s = .ok packet s' ∧
      (r = .inl () ∨ r = .inr packet ∧ checkResponseError packet = .ok ()) := by
  obtain ⟨packet, t, hrecv, htake⟩ := bind_eq_ok_iff.mp h
  by_cases own : packet.transactionId = expectedTransactionId
  · rw [takeResponse_own own] at htake
    cases hcheck : checkResponseError packet with
    | ok _ =>
      rw [hcheck] at htake
      cases htake
      exact ⟨packet, hrecv, Or.inr ⟨rfl, hcheck⟩⟩
    | error e =>
      rw [hcheck] at htake
      cases htake
  · rw [takeResponse_foreign own] at htake
    cases htake
    exact ⟨packet, hrecv, Or.inl rfl⟩

lemma getResponseTurn_shrinks (expectedTransactionId : UInt32) (config : SessionConfig) :
    Shrinks Incoming.size (getResponseTurn expectedTransactionId config) := by
  intro _ s _ s' h
  obtain ⟨packet, hrecv, -⟩ := getResponseTurn_ok h
  exact recvPacketFiltered_shrinks hrecv

def getResponse (expectedTransactionId : UInt32) (config : SessionConfig) :
    Recvs PtpIpPacket :=
  loop (getResponseTurn_shrinks expectedTransactionId config) ()

def receiveDataBlockTurn (expectedTransactionId : UInt32) (config : SessionConfig)
    (totalData : Bytes) : Recvs (Bytes ⊕ Bytes) := do
  let packet ← recvPacketFiltered (some .dataBlock) config
  if packet.transactionId ≠ expectedTransactionId then
    return .inl totalData
  else if packet.payload = [] then
    return .inr totalData
  else
    return .inl (totalData ++ packet.payload)

/-- A turn that goes well has received a data block; the last one of the transaction is empty. -/
lemma receiveDataBlockTurn_ok {expectedTransactionId : UInt32} {config : SessionConfig}
    {totalData : Bytes} {r : Bytes ⊕ Bytes} {s s' : Incoming}
    (h : receiveDataBlockTurn expectedTransactionId config totalData s = .ok r s') :
    ∃ packet, recvPacketFiltered (some .dataBlock) config s = .ok packet s' ∧
      ((∃ collected, r = .inl collected) ∨ r = .inr totalData ∧
        packet.transactionId = expectedTransactionId ∧ packet.payload = []) := by
  obtain ⟨packet, t, hrecv, hret⟩ := bind_eq_ok_iff.mp h
  split at hret
  · cases hret
    exact ⟨packet, hrecv, Or.inl ⟨_, rfl⟩⟩
  next own =>
  split at hret <;> cases hret
  · next empty => exact ⟨packet, hrecv, Or.inr ⟨rfl, not_not.mp own, empty⟩⟩
  · exact ⟨packet, hrecv, Or.inl ⟨_, rfl⟩⟩

lemma receiveDataBlockTurn_shrinks (expectedTransactionId : UInt32)
    (config : SessionConfig) :
    Shrinks Incoming.size (receiveDataBlockTurn expectedTransactionId config) := by
  intro totalData s totalData' s' h
  obtain ⟨packet, hrecv, -⟩ := receiveDataBlockTurn_ok h
  exact recvPacketFiltered_shrinks hrecv

def receiveDataBlock (expectedTransactionId : UInt32) (config : SessionConfig) :
    Recvs Bytes :=
  loop (receiveDataBlockTurn_shrinks expectedTransactionId config) []

end Commands
