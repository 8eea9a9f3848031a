import PtpipCore.Commands
import PtpipCore.Frames

/-!
# How often the receiving loops receive

Every packet takes eight bytes at least, so on any stream a loop receives only so often, and
what it leaves is what its last receive left. The clock plays no part in this: a loop that it
stops has only stopped earlier.
-/

namespace ReceiveRuns

open Effects ByteStream Types Transport Frames Commands
open EStateM (Result)

/-- Packets that are received one after the other. -/
inductive Receives : List Arrival → List PtpIpPacket → List Arrival → Prop where
  | nothing (s : List Arrival) : Receives s [] s
  | packet {s t u : List Arrival} {p : PtpIpPacket} {ps : List PtpIpPacket}
      (received : recvPacket s = .ok p t) (rest : Receives t ps u) : Receives s (p :: ps) u

/-- So many receives, of which only the last one may have failed. -/
inductive Ends (s : List Arrival) : Nat → List Arrival → Prop where
  | received {ps : List PtpIpPacket} {t : List Arrival} (run : Receives s ps t) : Ends s ps.length t
  | failed {ps : List PtpIpPacket} {t u : List Arrival} {e : PtpIpError} (run : Receives s ps t)
      (failure : recvPacket t = .error e u) : Ends s (ps.length + 1) u

lemma Receives.append {s t u : List Arrival} {ps qs : List PtpIpPacket} (run : Receives s ps t)
    (rest : Receives t qs u) : Receives s (ps ++ qs) u := by
  induction run with
  | nothing s => exact rest
  | packet received _ ih => exact .packet received (ih rest)

lemma Receives.ends {s t u : List Arrival} {ps : List PtpIpPacket} {n : Nat}
    (run : Receives s ps t) (rest : Ends t n u) : Ends s (ps.length + n) u := by
  cases rest with
  | received more =>
    rw [← List.length_append]
    exact .received (run.append more)
  | failed more failure =>
    rw [← Nat.add_assoc, ← List.length_append]
    exact .failed (run.append more) failure

/-- Type, reserved field and transaction id come first, without a fault between them. -/
lemma recvPacket_front {p : PtpIpPacket} {s s' : List Arrival} (h : recvPacket s = .ok p s') :
    ∃ front rest, 8 ≤ front.length ∧ s = arrived front ++ rest ∧ s' <:+ rest := by
  obtain ⟨typeBytes, t, htype, h⟩ := bind_eq_ok_iff.mp h
  obtain ⟨header, u, hheader, hbody⟩ := bind_eq_ok_iff.mp h
  obtain ⟨htypeLen, rfl⟩ := readExact_ok htype
  obtain ⟨-, -, bs, rfl, hlen⟩ := fromStream_ok hheader
  have hrest := consumes_recvBody header u
  rw [hbody, endState_ok] at hrest
  refine ⟨typeBytes ++ bs, u, ?_, ?_, hrest⟩
  · rw [List.length_append]
    split at hlen <;> omega
  · rw [arrived_append, List.append_assoc]

lemma Receives.length_le {s t : List Arrival} {ps : List PtpIpPacket} (run : Receives s ps t) :
    8 * ps.length + t.length ≤ s.length := by
  induction run with
  | nothing s => exact Nat.le_of_eq (Nat.zero_add _)
  | packet received _ ih =>
    have hpacket := recvPacket_ok_length received
    rw [List.length_cons]
    omega

lemma Ends.calls_le {s t : List Arrival} {n : Nat} (ends : Ends s n t) :
    8 * n ≤ s.length + 8 := by
  cases ends with
  | received run =>
    have := run.length_le
    omega
  | failed run failure =>
    have := run.length_le
    omega

variable {σ α : Type} (left : σ → List Arrival)

/-- How a call ends on a stream: behind the last packet that it received, which it returns or
returned something for, or with an error, after some receives. -/
def Finishes (returned : PtpIpPacket → α → Prop) (s : List Arrival) : Result PtpIpError σ α → Prop
  | .ok a s' => ∃ ps p, Receives s (ps ++ [p]) (left s') ∧ returned p a
  | .error _ s' => ∃ calls, Ends s calls (left s')

variable {left}

lemma Finishes.calls {returned : PtpIpPacket → α → Prop} {s : List Arrival}
    {r : Result PtpIpError σ α} (finishes : Finishes left returned s r) :
    ∃ calls, 8 * calls ≤ s.length + 8 ∧ Ends s calls (left (endState r)) := by
  cases r with
  | ok a s' =>
    obtain ⟨ps, p, run, -⟩ := finishes
    exact ⟨_, (Ends.received run).calls_le, .received run⟩
  | error e s' =>
    obtain ⟨calls, ends⟩ := finishes
    exact ⟨calls, ends.calls_le, ends⟩

section filtered

variable {expectedType : Option PtpIpMessageType} {config : SessionConfig}

/-- The packet is of the expected type, if one is expected. -/
def Expected (expectedType : Option PtpIpMessageType) (p : PtpIpPacket) : Prop :=
  expectedType.all (· = p.messageType)

variable (expectedType config)

lemma filter_finishes (clock : Nat → Nat) (s : List Arrival) :
    Finishes id (fun p a => p = a ∧ Expected expectedType p) s
      (loop (filterTurn_shrinks clock expectedType config) 0 s) := by
  refine loop_induct (filterTurn_shrinks clock expectedType config)
    (P := fun _ t => ∃ ps, Receives s ps t) ?_ ?_ ?_ 0 s ⟨[], .nothing _⟩
  · rintro turn t turn' t' ⟨ps, run⟩ hturn
    obtain ⟨p, hrecv, -⟩ := filterTurnOf_ok hturn
    exact ⟨ps ++ [p], run.append (.packet hrecv (.nothing _))⟩
  · rintro turn t p t' ⟨ps, run⟩ hturn
    obtain ⟨q, hrecv, hlast⟩ := filterTurnOf_ok hturn
    by_cases wanted : expectedType.all (· = q.messageType)
    · rw [if_pos wanted] at hlast
      cases hlast
      exact ⟨ps, p, run.append (.packet hrecv (.nothing _)), rfl, wanted⟩
    · rw [if_neg wanted] at hlast
      cases hlast
  · rintro turn t e t' ⟨ps, run⟩ hturn
    rcases filterTurnOf_error hturn with ⟨-, rfl, -⟩ | hrecv
    · exact ⟨_, .received run⟩
    · exact ⟨_, .failed run hrecv⟩

lemma recvPacketFiltered_finishes (s : Incoming) :
    Finishes Incoming.arrivals (fun p a => p = a ∧ Expected expectedType p) s.arrivals
      (recvPacketFiltered expectedType config s) := by
  have hloop := filter_finishes expectedType config (s.clocks 0) s.arrivals
  unfold recvPacketFiltered
  dsimp only
  split
  · next p rest heq =>
    rw [heq] at hloop
    exact hloop
  · next e rest heq =>
    rw [heq] at hloop
    exact hloop

end filtered

section loops

variable (config : SessionConfig)

/-- What a loop of filtered receives has received so far, up to a turn that ends it. -/
lemma loop_finishes (t : PtpIpMessageType) {β : Type} {body : β → Recvs (β ⊕ α)}
    (shrinks : Shrinks Incoming.size body) {returned : PtpIpPacket → α → Prop}
    (goOn : ∀ b s b' s', body b s = .ok (.inl b') s' →
      ∃ p, recvPacketFiltered (some t) config s = .ok p s')
    (stop : ∀ b s a s', body b s = .ok (.inr a) s' →
      ∃ p, recvPacketFiltered (some t) config s = .ok p s' ∧ (p.messageType = t → returned p a))
    (fail : ∀ b s e s', body b s = .error e s' →
      (∃ e, recvPacketFiltered (some t) config s = .error e s') ∨
      ∃ p, recvPacketFiltered (some t) config s = .ok p s')
    (b : β) (s : Incoming) : Finishes Incoming.arrivals returned s.arrivals (loop shrinks b s) := by
  refine loop_induct shrinks (P := fun _ u => ∃ ps, Receives s.arrivals ps u.arrivals)
    (Q := Finishes Incoming.arrivals returned s.arrivals) ?_ ?_ ?_ b s ⟨[], .nothing _⟩
  · rintro b u b' u' ⟨ps, run⟩ hturn
    obtain ⟨p, hrecv⟩ := goOn b u b' u' hturn
    have hfinish := recvPacketFiltered_finishes (some t) config u
    rw [hrecv] at hfinish
    obtain ⟨qs, q, more, -⟩ := hfinish
    exact ⟨_, run.append more⟩
  · rintro b u a u' ⟨ps, run⟩ hturn
    obtain ⟨p, hrecv, hreturned⟩ := stop b u a u' hturn
    have hfinish := recvPacketFiltered_finishes (some t) config u
    rw [hrecv] at hfinish
    obtain ⟨qs, q, more, rfl, wanted⟩ := hfinish
    refine ⟨ps ++ qs, q, ?_, hreturned (of_decide_eq_true wanted).symm⟩
    rw [List.append_assoc]
    exact run.append more
  · rintro b u e u' ⟨ps, run⟩ hturn
    have hfinish := recvPacketFiltered_finishes (some t) config u
    rcases fail b u e u' hturn with ⟨e', hrecv⟩ | ⟨p, hrecv⟩
    · rw [hrecv] at hfinish
      obtain ⟨calls, ends⟩ := hfinish
      exact ⟨_, run.ends ends⟩
    · rw [hrecv] at hfinish
      obtain ⟨qs, q, more, -⟩ := hfinish
      exact ⟨_, .received (run.append more)⟩

variable {config} in
/-- A turn begins with a receive, and goes wrong with it or behind it. -/
lemma failed_receive {β : Type} {t : PtpIpMessageType} {f : PtpIpPacket → Recvs β} {s s' : Incoming}
    {e : PtpIpError} (h : (recvPacketFiltered (some t) config >>= f) s = .error e s')
    (keeps : ∀ p u, endState (f p u) = u) :
    (∃ e, recvPacketFiltered (some t) config s = .error e s') ∨
      ∃ p, recvPacketFiltered (some t) config s = .ok p s' := by
  cases hrecv : recvPacketFiltered (some t) config s with
  | error e' u =>
    rw [bind_error hrecv] at h
    cases h
    exact Or.inl ⟨e, rfl⟩
  | ok p u =>
    rw [bind_ok hrecv] at h
    have hkeeps := keeps p u
    rw [h, endState_error] at hkeeps
    subst hkeeps
    exact Or.inr ⟨p, rfl⟩

variable (expectedTransactionId : UInt32)

lemma getResponse_finishes (s : Incoming) :
    Finishes Incoming.arrivals (fun p a => p = a) s.arrivals
      (getResponse expectedTransactionId config s) := by
  refine loop_finishes config .responseBlock (getResponseTurn_shrinks _ _) ?_ ?_ ?_ () s
  · intro b u b' u' hturn
    obtain ⟨p, hrecv, -⟩ := getResponseTurn_ok hturn
    exact ⟨p, hrecv⟩
  · intro b u a u' hturn
    obtain ⟨p, hrecv, others | ⟨hlast, -⟩⟩ := getResponseTurn_ok hturn
    · cases others
    · cases hlast
      exact ⟨_, hrecv, fun _ => rfl⟩
  · intro b u e u' hturn
    exact failed_receive hturn fun p v => endState_ofExcept _ _

lemma receiveDataBlock_finishes (s : Incoming) :
    Finishes Incoming.arrivals (fun p _ => p = ⟨.dataBlock, expectedTransactionId, []⟩) s.arrivals
      (receiveDataBlock expectedTransactionId config s) := by
  refine loop_finishes config .dataBlock (receiveDataBlockTurn_shrinks _ _) ?_ ?_ ?_ [] s
  · intro b u b' u' hturn
    obtain ⟨p, hrecv, -⟩ := receiveDataBlockTurn_ok hturn
    exact ⟨p, hrecv⟩
  · intro b u a u' hturn
    obtain ⟨p, hrecv, ⟨collected, others⟩ | ⟨hlast, own, empty⟩⟩ := receiveDataBlockTurn_ok hturn
    · cases others
    · refine ⟨p, hrecv, fun isData => ?_⟩
      obtain ⟨messageType, transactionId, payload⟩ := p
      cases isData
      cases own
      cases empty
      rfl
  · intro b u e u' hturn
    refine failed_receive hturn fun p v => ?_
    split
    · rfl
    · split <;> rfl

end loops

/-- Every packet takes eight bytes at least, and a frame is taken as a whole; so, on any stream and
under any clock, the three loops end after as many receives as there are eights of bytes and one
more at most, and leave what the last of them left. -/
theorem receive_loops_end :
    (∀ p s s', recvPacket s = .ok p s' →
      ∃ front rest, 8 ≤ front.length ∧ s = arrived front ++ rest ∧ s' <:+ rest) ∧
    (∀ f s, recvPacket (arrived (Frame.wire f) ++ s) = .ok f.packet s) ∧
    ∀ (config : SessionConfig) (s : Incoming),
      (∀ expectedType, let r := recvPacketFiltered expectedType config s
        Finishes Incoming.arrivals (fun p a => p = a ∧ Expected expectedType p) s.arrivals r ∧
        ∃ calls, 8 * calls ≤ s.arrivals.length + 8 ∧ Ends s.arrivals calls (endState r).arrivals) ∧
      (∀ transactionId, let r := getResponse transactionId config s
        Finishes Incoming.arrivals (fun p a => p = a) s.arrivals r ∧
        ∃ calls, 8 * calls ≤ s.arrivals.length + 8 ∧ Ends s.arrivals calls (endState r).arrivals) ∧
      ∀ transactionId, let r := receiveDataBlock transactionId config s
        Finishes Incoming.arrivals (fun p _ => p = ⟨.dataBlock, transactionId, []⟩) s.arrivals r ∧
        ∃ calls, 8 * calls ≤ s.arrivals.length + 8 ∧
          Ends s.arrivals calls (endState r).arrivals := by
  refine ⟨fun _ _ _ => recvPacket_front, recvPacket_frame, fun config s => ⟨?_, ?_, ?_⟩⟩
  · intro expectedType
    have finishes := recvPacketFiltered_finishes expectedType config s
    exact ⟨finishes, finishes.calls⟩
  · intro transactionId
    have finishes := getResponse_finishes config transactionId s
    exact ⟨finishes, finishes.calls⟩
  · intro transactionId
    have finishes := receiveDataBlock_finishes config transactionId s
    exact ⟨finishes, finishes.calls⟩

/-- An event in eight bytes, and a byte behind it. -/
theorem receive_loops_end_event :
    ∃ front rest, 8 ≤ front.length ∧
      arrived [0, 6, 0, 0, 0, 0, 0, 1, 9] = arrived front ++ rest ∧ arrived [9] <:+ rest :=
  receive_loops_end.1 ⟨.eventBlock, 1, []⟩ (arrived [0, 6, 0, 0, 0, 0, 0, 1, 9]) (arrived [9]) rfl

end ReceiveRuns
