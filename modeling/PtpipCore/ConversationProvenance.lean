import PtpipCore.Conversations
import PtpipCore.StreamProvenance

/-!
# Whose response a reply is

A camera may send anything, and the stream may cut it off anywhere. Every operation of a
conversation sends its own command, receives on from where the operation before it stopped, and
returns only what the first response to its own transaction says; so no response is taken for
another operation's, and none is taken twice.
-/

namespace ConversationProvenance

open Effects ByteStream Types Resume Transport Frames FrameRoundTrip Commands FrameStreams
open ReceiveRuns PartialObject Responses CameraClient Conversations StreamProvenance
open EStateM (Result)

variable {α : Type}

section exchanges

/-- What an exchange under a transaction id returns, by what it receives. -/
inductive Exchanged (config : SessionConfig) (parse : Bytes → Except Failure α) (t : UInt32)
    (s : Incoming) : Except Failure α → Incoming → Prop where
  | answered {ps : List PtpIpPacket} {p : PtpIpPacket} {s' : Incoming}
      (run : Receives s.arrivals (ps ++ [p]) s'.arrivals) (before : ∀ q ∈ ps, ¬ Answers t q)
      (answers : Answers t p) (check : checkResponseError p = .ok ()) :
      Exchanged config parse t s (parse p.payload) s'
  | refused {ps : List PtpIpPacket} {p : PtpIpPacket} {e : PtpIpError} {s' : Incoming}
      (run : Receives s.arrivals (ps ++ [p]) s'.arrivals) (before : ∀ q ∈ ps, ¬ Answers t q)
      (answers : Answers t p) (check : checkResponseError p = .error e) :
      Exchanged config parse t s (.error (.error e)) s'
  | silent {ps : List PtpIpPacket} {e : PtpIpError} {u : List Arrival} {s' : Incoming}
      (run : Receives s.arrivals ps u) (before : ∀ q ∈ ps, ¬ Answers t q)
      (silent : Silent config s e u s'.arrivals) : Exchanged config parse t s (.error (.error e)) s'
  | unsent {e : PtpIpError} : Exchanged config parse t s (.error (.error e)) s

variable {config : SessionConfig} {parameters : Bytes}

lemma returning_ok {σ : Type} {m : EStateM PtpIpError σ α} {s t : σ} {a : α}
    (h : m s = .ok a t) : returning m s = .ok a t := by
  simp only [returning, EStateM.adaptExcept, h]

lemma returning_error {σ : Type} {m : EStateM PtpIpError σ α} {s t : σ} {e : PtpIpError}
    (h : m s = .error e t) : returning m s = .error (.error e) t := by
  simp only [returning, EStateM.adaptExcept, h]

/-- What an exchange has done to its connection. -/
structure Did (config : SessionConfig) (opcode : PtpOperationCode) (parameters : Bytes)
    (parse : Bytes → Except Failure α) (c : Connection) (reply : Except Failure α)
    (c' : Connection) : Prop where
  exchanged : Exchanged config parse (c.transactionIds 0) c.incoming reply c'.incoming
  transactionIds : c'.transactionIds = fun n => c.transactionIds (n + 1)
  outgoing : c.outgoing.outcomes = [] → c'.outgoing =
    ⟨c.outgoing.written ++ encoding (command opcode (c.transactionIds 0) parameters), []⟩

/-- Whatever the stream brings and however much of the command it takes. -/
lemma exchange_did (opcode : PtpOperationCode) (whole : parameters.length % 4 = 0)
    (parse : Bytes → Except Failure α) (c : Connection) :
    Did config opcode parameters parse c
      (answer (exchange config opcode parameters parse c))
      (endState (exchange config opcode parameters parse c)) := by
  set t := c.transactionIds 0 with ht
  have hid : returning generateTransactionId c = .ok t
      ⟨c.incoming, c.outgoing, fun n => c.transactionIds (n + 1)⟩ := rfl
  have hsent : c.outgoing.outcomes = [] →
      sendCommand opcode.code t parameters config c.outgoing = .ok ()
        ⟨c.outgoing.written ++ encoding (command opcode t parameters), []⟩ := by
    intro accepting
    have hsend := sendCommand_sent opcode.code t
      (show parameters.length = 4 * (parameters.length / 4) by omega) config c.outgoing.written
    rw [← accepting] at hsend
    refine hsend.trans ?_
    rw [accepting]
    rfl
  rw [exchange, bind_ok hid]
  cases hsend : sendCommand opcode.code t parameters config c.outgoing with
  | error e sink =>
    have hrun : returning (request config opcode t parameters)
        ⟨c.incoming, c.outgoing, fun n => c.transactionIds (n + 1)⟩ =
          .error (.error e) ⟨c.incoming, sink, fun n => c.transactionIds (n + 1)⟩ :=
      returning_error (bind_error (Connection.outgoingPart.run_error hsend))
    rw [bind_error hrun]
    refine ⟨.unsent, rfl, fun accepting => ?_⟩
    cases hsend.symm.trans (hsent accepting)
  | ok _ sink =>
    have hrun : Connection.outgoingPart.run (sendCommand opcode.code t parameters config)
        ⟨c.incoming, c.outgoing, fun n => c.transactionIds (n + 1)⟩ =
          .ok () ⟨c.incoming, sink, fun n => c.transactionIds (n + 1)⟩ :=
      Connection.outgoingPart.run_ok hsend
    have hsink : c.outgoing.outcomes = [] →
        sink = ⟨c.outgoing.written ++ encoding (command opcode t parameters), []⟩ := by
      intro accepting
      cases hsend.symm.trans (hsent accepting)
      rfl
    have responded := getResponse_responded config t c.incoming
    cases hget : getResponse t config c.incoming with
    | error e s' =>
      rw [hget] at responded
      have hrequest : returning (request config opcode t parameters)
          ⟨c.incoming, c.outgoing, fun n => c.transactionIds (n + 1)⟩ =
            .error (.error e) ⟨s', sink, fun n => c.transactionIds (n + 1)⟩ :=
        returning_error ((bind_ok hrun).trans (Connection.incomingPart.run_error hget))
      rw [bind_error hrequest]
      refine ⟨?_, rfl, hsink⟩
      cases responded with
      | refused run before answers check => exact .refused run before answers check
      | silent run before silent => exact .silent run before silent
    | ok p s' =>
      rw [hget] at responded
      have hrequest : returning (request config opcode t parameters)
          ⟨c.incoming, c.outgoing, fun n => c.transactionIds (n + 1)⟩ =
            .ok p ⟨s', sink, fun n => c.transactionIds (n + 1)⟩ :=
        returning_ok ((bind_ok hrun).trans (Connection.incomingPart.run_ok hget))
      have hparse : answer ((ofExcept (parse p.payload) : EStateM Failure Connection α)
          ⟨s', sink, fun n => c.transactionIds (n + 1)⟩) = parse p.payload := by
        cases parse p.payload <;> rfl
      rw [bind_ok hrequest, hparse, endState_ofExcept]
      cases responded with
      | accepted run before answers check => exact ⟨.answered run before answers check, rfl, hsink⟩

end exchanges

section conversations

variable (platform : Platform) (config : SessionConfig)

/-- Replies to operations that receive one after the other from the same stream, each of them under
the next id. -/
inductive Replied : (Nat → UInt32) → Incoming → List Operation → List (Except Failure Reply) →
    Incoming → Prop where
  | nothing (ids : Nat → UInt32) (s : Incoming) : Replied ids s [] [] s
  | next {ids : Nat → UInt32} {s s' u : Incoming} {op : Operation} {ops : List Operation}
      {reply : Except Failure Reply} {replies : List (Except Failure Reply)}
      (first : Exchanged config (fun payload => op.parse platform payload) (ids 0) s reply s')
      (rest : Replied (fun n => ids (n + 1)) s' ops replies u) :
      Replied ids s (op :: ops) (reply :: replies) u

lemma performAll_replied (sessionId : UInt32) (ops : List Operation) (c : Connection) :
    ∃ replies c', performAll platform config sessionId ops c = .ok replies c' ∧
      Replied platform config c.transactionIds c.incoming ops replies c'.incoming ∧
      (c.outgoing.outcomes = [] → c'.outgoing = ⟨c.outgoing.written ++
        (commands sessionId c.transactionIds ops).flatMap encoding, []⟩) := by
  induction ops generalizing c with
  | nil =>
    refine ⟨[], c, rfl, .nothing _ _, fun accepting => ?_⟩
    rw [commands, List.flatMap_nil, List.append_nil, ← accepting]
  | cons op ops ih =>
    have did : Did config op.opcode _ _ c _ _ := exchange_did op.opcode
      (op.parameters_whole sessionId) (fun payload => op.parse platform payload) c
    rw [← op.perform_eq platform config sessionId] at did
    obtain ⟨replies, c', hrun, replied, houtgoing⟩ :=
      ih (endState (op.perform platform config sessionId c))
    rw [did.transactionIds] at replied houtgoing
    refine ⟨_, c', ?_, .next did.exchanged replied, fun accepting => ?_⟩
    · rw [performAll, bind_ok (m := attempt (op.perform platform config sessionId)) rfl,
        bind_ok hrun]
      rfl
    · have hfirst := did.outgoing accepting
      have hrest := houtgoing (congrArg Sink.outcomes hfirst)
      rw [hrest, hfirst, commands, List.flatMap_cons, List.append_assoc]

/-- The command that opens a session. -/
def opening (c : Connection) : PtpIpPacket :=
  command .openSession (c.transactionIds 1) (bigEndian 4 (c.transactionIds 0).toNat)

/-- How a conversation ends: with replies to all operations, or before the first of them. -/
inductive Conversed (ops : List Operation) (c : Connection) :
    Result Failure Connection (UInt32 × List (Except Failure Reply)) → Prop where
  | opened {s : Incoming} {replies : List (Except Failure Reply)} {c' : Connection}
      (opens : Exchanged config ignored (c.transactionIds 1) c.incoming (.ok ()) s)
      (replied : Replied platform config (fun n => c.transactionIds (n + 2)) s ops replies
        c'.incoming)
      (outgoing : c.outgoing.outcomes = [] → c'.outgoing = ⟨c.outgoing.written ++
        (opening c :: commands (c.transactionIds 0) (fun n => c.transactionIds (n + 2))
          ops).flatMap encoding, []⟩) :
      Conversed ops c (.ok (c.transactionIds 0, replies) c')
  | unopened {e : Failure} {c' : Connection}
      (refuses : Exchanged config ignored (c.transactionIds 1) c.incoming (.error e) c'.incoming)
      (outgoing : c.outgoing.outcomes = [] →
        c'.outgoing = ⟨c.outgoing.written ++ encoding (opening c), []⟩) :
      Conversed ops c (.error e c')

/-- Whatever the stream brings, an operation returns only what the first response to its own
transaction says, received behind what the operations before it have received; and whatever they
return, all operations of a session that was opened have sent their commands, each once. -/
theorem conversation_provenance (ops : List Operation) (c : Connection) :
    Conversed platform config ops c (converse platform config ops c) := by
  have hid : returning generateTransactionId c = .ok (c.transactionIds 0)
      ⟨c.incoming, c.outgoing, fun n => c.transactionIds (n + 1)⟩ := rfl
  have hwhole : (bigEndian 4 (c.transactionIds 0).toNat).length % 4 = 0 := by rw [bigEndian_length]
  have did : Did config .openSession _ ignored _ _ _ := exchange_did .openSession hwhole ignored
    ⟨c.incoming, c.outgoing, fun n => c.transactionIds (n + 1)⟩
  cases hopen : exchange config .openSession (bigEndian 4 (c.transactionIds 0).toNat) ignored
      ⟨c.incoming, c.outgoing, fun n => c.transactionIds (n + 1)⟩ with
  | error e c' =>
    rw [hopen, answer_error, endState_error] at did
    have hconnect : CameraClient.connect config c = .error e c' :=
      (bind_ok hid).trans (bind_error hopen)
    rw [converse, bind_error hconnect]
    exact .unopened did.exchanged did.outgoing
  | ok _ c₁ =>
    rw [hopen, answer_ok, endState_ok] at did
    have hconnect : CameraClient.connect config c = .ok (c.transactionIds 0) c₁ :=
      (bind_ok hid).trans (bind_ok hopen)
    obtain ⟨replies, c', hrun, replied, houtgoing⟩ :=
      performAll_replied platform config (c.transactionIds 0) ops c₁
    rw [did.transactionIds] at replied houtgoing
    rw [converse, bind_ok hconnect, bind_ok hrun]
    refine .opened did.exchanged replied fun accepting => ?_
    have hfirst := did.outgoing accepting
    rw [houtgoing (congrArg Sink.outcomes hfirst), hfirst, List.flatMap_cons, List.append_assoc]
    rfl

end conversations

end ConversationProvenance
