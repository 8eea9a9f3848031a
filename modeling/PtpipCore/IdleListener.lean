import PtpipCore.EventListener

/-!
# The event listener in idle periods

Here the input of the listener is what its receives come to: packets of any type
and contents, expired read timeouts, other errors. Of the two kinds as which a
read timeout shows, only one is a timeout to the listener.
-/

namespace IdleListener

open Effects ByteStream Types Transport ReadTimeouts EventListener
open EStateM (Result)

section filtered

variable {σ : Type} {size : σ → Nat} {recv : EStateM PtpIpError σ PtpIpPacket}

/-- A stream of any kind, with the clocks of the filtered receives from it. -/
structure Clocked (σ : Type) where
  stream : σ
  clocks : Nat → Nat → Nat

def Clocked.lift {α : Type} (clocks : Nat → Nat → Nat) :
    Result PtpIpError σ α → Result PtpIpError (Clocked σ) α
  | .ok a s => .ok a ⟨s, clocks⟩
  | .error e s => .error e ⟨s, clocks⟩

def filtered (takes : ∀ s p s', recv s = .ok p s' → size s' < size s)
    (expectedType : Option PtpIpMessageType) (config : SessionConfig) :
    EStateM PtpIpError (Clocked σ) PtpIpPacket := fun s =>
  Clocked.lift (fun n => s.clocks (n + 1))
    (loop (filterTurnOf_shrinks takes (s.clocks 0) expectedType config) 0 s.stream)

/-- With the receiver of frames it is the filtered receiver of the transport. -/
theorem filtered_recvPacket (expectedType : Option PtpIpMessageType) (config : SessionConfig)
    (s : Incoming) :
    let r := filtered recvPacket_takes_some expectedType config ⟨s.arrivals, s.clocks⟩
    answer r = answer (recvPacketFiltered expectedType config s) ∧
    (endState r).stream = (endState (recvPacketFiltered expectedType config s)).arrivals ∧
    (endState r).clocks = (endState (recvPacketFiltered expectedType config s)).clocks := by
  simp only [filtered, recvPacketFiltered]
  cases loop (filterTurn_shrinks (s.clocks 0) expectedType config) 0 s.arrivals <;>
    exact ⟨rfl, rfl, rfl⟩

end filtered

/-- What the receive of a packet comes to. -/
inductive Outcome where
  | packet (p : PtpIpPacket)
  | failed (kind : ErrorKind)
  | malformed (message : String)
  deriving DecidableEq

/-- The outcomes to come, and whether the end of the connection has been met behind them. -/
structure Script where
  outcomes : List Outcome
  ended : Bool

def nextOutcome : EStateM PtpIpError Script PtpIpPacket
  | ⟨[], _⟩ => .error (FromIo.fromIo .unexpectedEof) ⟨[], true⟩
  | ⟨.packet p :: rest, ended⟩ => .ok p ⟨rest, ended⟩
  | ⟨.failed kind :: rest, ended⟩ => .error (FromIo.fromIo kind) ⟨rest, ended⟩
  | ⟨.malformed message :: rest, ended⟩ => .error (.protocolError message) ⟨rest, ended⟩

def Script.size (s : Script) : Nat := s.outcomes.length

lemma nextOutcome_takes (s : Script) (p : PtpIpPacket) (s' : Script)
    (h : nextOutcome s = .ok p s') : s'.size < s.size := by
  obtain ⟨outcomes, ended⟩ := s
  cases outcomes with
  | nil => cases h
  | cons o rest =>
    cases o <;> cases h
    exact Nat.lt_succ_self _

abbrev receiveEvent (config : SessionConfig) : EStateM PtpIpError (Clocked Script) PtpIpPacket :=
  filtered nextOutcome_takes (some .eventBlock) config

/-- How a receive of an event ends, by the outcomes that it takes: packets of other types are
skipped. `late` says whether the check of the elapsed time can end it. -/
inductive Receipt (late : Prop) (ended : Bool) :
    List Outcome → Result PtpIpError Script PtpIpPacket → Prop where
  | elapsed (isLate : late) (rest : List Outcome) :
      Receipt late ended rest (.error .timeout ⟨rest, ended⟩)
  | event {p : PtpIpPacket} (isEvent : p.messageType = .eventBlock) (rest : List Outcome) :
      Receipt late ended (.packet p :: rest) (.ok p ⟨rest, ended⟩)
  | failed (kind : ErrorKind) (rest : List Outcome) :
      Receipt late ended (.failed kind :: rest) (.error (FromIo.fromIo kind) ⟨rest, ended⟩)
  | malformed (message : String) (rest : List Outcome) :
      Receipt late ended (.malformed message :: rest)
        (.error (.protocolError message) ⟨rest, ended⟩)
  | disconnected : Receipt late ended [] (.error (FromIo.fromIo .unexpectedEof) ⟨[], true⟩)
  | skip {p : PtpIpPacket} (other : p.messageType ≠ .eventBlock) {rest : List Outcome}
      {r : Result PtpIpError Script PtpIpPacket} (later : Receipt late ended rest r) :
      Receipt late ended (.packet p :: rest) r

/-- Some check of the elapsed time fires. -/
def Late (config : SessionConfig) (clock : Nat → Nat) : Prop :=
  ∃ turn, clock (turn + 1) - clock 0 > config.timeout * 1000000000

lemma loop_receipt (config : SessionConfig) (clock : Nat → Nat) (turn : Nat) (ended : Bool)
    (outcomes : List Outcome) :
    Receipt (Late config clock) ended outcomes
      (loop (filterTurnOf_shrinks nextOutcome_takes clock (some .eventBlock) config) turn
        ⟨outcomes, ended⟩) := by
  have isLate : ∀ {turn : Nat} (s : Script),
      clock (turn + 1) - clock 0 > config.timeout * 1000000000 →
      loop (filterTurnOf_shrinks nextOutcome_takes clock (some .eventBlock) config) turn s =
        .error .timeout s := fun s late => loop_error (filterTurnOf_late late)
  induction outcomes generalizing turn with
  | nil =>
    by_cases late : clock (turn + 1) - clock 0 > config.timeout * 1000000000
    · rw [isLate _ late]
      exact .elapsed ⟨turn, late⟩ []
    · have hnext : nextOutcome ⟨[], ended⟩ =
          .error (FromIo.fromIo .unexpectedEof) ⟨[], true⟩ := rfl
      rw [loop_error (filterTurnOf_failed (Nat.not_lt.mp late) hnext)]
      exact .disconnected
  | cons o rest ih =>
    by_cases late : clock (turn + 1) - clock 0 > config.timeout * 1000000000
    · rw [isLate _ late]
      exact .elapsed ⟨turn, late⟩ _
    · cases o with
      | failed kind =>
        have hnext : nextOutcome ⟨.failed kind :: rest, ended⟩ =
          .error (FromIo.fromIo kind) ⟨rest, ended⟩ := rfl
        rw [loop_error (filterTurnOf_failed (Nat.not_lt.mp late) hnext)]
        exact .failed kind rest
      | malformed message =>
        have hnext : nextOutcome ⟨.malformed message :: rest, ended⟩ =
          .error (.protocolError message) ⟨rest, ended⟩ := rfl
        rw [loop_error (filterTurnOf_failed (Nat.not_lt.mp late) hnext)]
        exact .malformed message rest
      | packet p =>
        have hnext : nextOutcome ⟨.packet p :: rest, ended⟩ = .ok p ⟨rest, ended⟩ := rfl
        have hturn := filterTurnOf_received (t := .eventBlock) (Nat.not_lt.mp late) hnext
        by_cases isEvent : p.messageType = .eventBlock
        · rw [if_pos isEvent] at hturn
          rw [loop_break hturn]
          exact .event isEvent rest
        · rw [if_neg isEvent] at hturn
          rw [loop_continue hturn]
          exact .skip isEvent (ih (turn + 1))

/-- The event that the listener makes of an outcome. -/
def Outcome.event? : Outcome → Option PtpEvent
  | .packet p => if p.messageType = .eventBlock then (parseEventPacket p).toOption else none
  | _ => none

def eventsOf (outcomes : List Outcome) : List PtpEvent := outcomes.filterMap Outcome.event?

section survival

variable (goesOn : ErrorKind → Prop) [DecidablePred goesOn] (closed : Nat → Bool)

/-- A listener that has sent so many events goes on after the outcome. -/
def Outcome.Passes (sent : Nat) (o : Outcome) : Prop :=
  match o with
  | .packet _ => o.event? = none ∨ closed sent = false
  | .failed kind => goesOn kind
  | .malformed _ => False

instance (sent : Nat) : (o : Outcome) → Decidable (o.Passes goesOn closed sent)
  | .packet _ => inferInstanceAs (Decidable (_ ∨ _))
  | .failed kind => inferInstanceAs (Decidable (goesOn kind))
  | .malformed _ => inferInstanceAs (Decidable False)

/-- The outcomes before the receiver is closed or an error occurs after which the listener
does not go on. -/
def before : Nat → List Outcome → List Outcome
  | _, [] => []
  | sent, o :: rest =>
    if o.Passes goesOn closed sent then o :: before (sent + o.event?.toList.length) rest else []

/-- Where a listener that has stopped should be: behind the outcome that stopped it, or at
the end of the connection. -/
def StoppedAt (outcomes used : List Outcome) (ended : Bool) : Prop :=
  (ended = false ∧ ∃ point, used = before goesOn closed 0 outcomes ++ [point]) ∨
  (ended = true ∧ used = before goesOn closed 0 outcomes)

/-- The listener has not stopped too early, and has sent every event up to where it is. -/
def Survives (outcomes : List Outcome) (l : Listener (Clocked Script)) : Prop :=
  ∃ used, outcomes = used ++ l.stream.stream.outcomes ∧
    ((l.stopped = false ∧ used <+: before goesOn closed 0 outcomes ∧
      l.delivered = eventsOf used) ∨
    (l.stopped = true ∧ StoppedAt goesOn closed outcomes used l.stream.stream.ended ∧
      l.delivered = eventsOf (before goesOn closed 0 outcomes)))

variable {goesOn closed}

/-- The listener is still there when it has used these outcomes. -/
structure Running (goesOn : ErrorKind → Prop) [DecidablePred goesOn] (closed : Nat → Bool)
    (outcomes used : List Outcome) (delivered : List PtpEvent) (rest : List Outcome) : Prop where
  split : outcomes = used ++ rest
  passed : before goesOn closed 0 outcomes = used ++ before goesOn closed delivered.length rest
  sent : delivered = eventsOf used

variable {outcomes used rest : List Outcome} {delivered : List PtpEvent} {o : Outcome}

lemma Running.pass (h : Running goesOn closed outcomes used delivered (o :: rest))
    (passes : o.Passes goesOn closed delivered.length) :
    Running goesOn closed outcomes (used ++ [o]) (delivered ++ o.event?.toList) rest where
  split := by rw [h.split, List.append_assoc, List.singleton_append]
  passed := by
    rw [h.passed, before, if_pos passes, List.append_assoc, List.singleton_append,
      List.length_append]
  sent := by
    rw [h.sent, eventsOf, eventsOf, List.filterMap_append]
    cases he : o.event? <;> simp [he]

lemma Running.stop (h : Running goesOn closed outcomes used delivered (o :: rest))
    (stops : ¬ o.Passes goesOn closed delivered.length) :
    before goesOn closed 0 outcomes = used := by
  rw [h.passed, before, if_neg stops, List.append_nil]

end survival

/-- The one kind of error that the listener takes for a timeout. -/
def Recognised (kind : ErrorKind) : Prop := kind = .timedOut

instance (kind : ErrorKind) : Decidable (Recognised kind) :=
  inferInstanceAs (Decidable (_ = _))

/-- The invariant of the loop. -/
def Heard (closed : Nat → Bool) (outcomes : List Outcome) (l : Listener (Clocked Script)) : Prop :=
  ∃ used,
    (l.stopped = false ∧ l.stream.stream.ended = false ∧
      Running Recognised closed outcomes used l.delivered l.stream.stream.outcomes) ∨
    (l.stopped = true ∧ outcomes = used ++ l.stream.stream.outcomes ∧
      StoppedAt Recognised closed outcomes used l.stream.stream.ended ∧
      l.delivered = eventsOf (before Recognised closed 0 outcomes))

section run

variable {closed : Nat → Bool} {outcomes used rest : List Outcome} {delivered : List PtpEvent}
  {late : Prop} (clocks : Nat → Nat → Nat)

lemma heard_stop {o : Outcome}
    (running : Running Recognised closed outcomes used delivered (o :: rest))
    (stops : ¬ o.Passes Recognised closed delivered.length) :
    Heard closed outcomes ⟨⟨⟨rest, false⟩, clocks⟩, delivered, true⟩ := by
  have hbefore := running.stop stops
  refine ⟨used ++ [o], Or.inr ⟨rfl, ?_, Or.inl ⟨rfl, o, by rw [hbefore]⟩, ?_⟩⟩
  · rw [running.split, List.append_assoc, List.singleton_append]
  · rw [hbefore]
    exact running.sent

lemma heard_pass {o : Outcome}
    (running : Running Recognised closed outcomes used delivered (o :: rest))
    (passes : o.Passes Recognised closed delivered.length) :
    Heard closed outcomes ⟨⟨⟨rest, false⟩, clocks⟩, delivered ++ o.event?.toList, false⟩ :=
  ⟨used ++ [o], Or.inl ⟨rfl, rfl, running.pass passes⟩⟩

lemma event?_packet {p : PtpIpPacket} (isEvent : p.messageType = .eventBlock) :
    (Outcome.packet p).event? = (parseEventPacket p).toOption := if_pos isEvent

/-- One receive keeps the invariant. -/
lemma handle_heard {r : Result PtpIpError Script PtpIpPacket} (receipt : Receipt late false rest r)
    (running : Running Recognised closed outcomes used delivered rest) :
    Heard closed outcomes (handle closed delivered (Clocked.lift clocks r)) := by
  induction receipt generalizing used with
  | elapsed isLate rest => exact ⟨used, Or.inl ⟨rfl, rfl, running⟩⟩
  | @event p isEvent rest =>
    cases hparse : parseEventPacket p with
    | error e =>
      have hnone : (Outcome.packet p).event? = none := by rw [event?_packet isEvent, hparse]; rfl
      have hpass := heard_pass clocks running (Or.inl hnone)
      simpa [Clocked.lift, handle, hparse, hnone] using hpass
    | ok event =>
      have hsome : (Outcome.packet p).event? = some event := by
        rw [event?_packet isEvent, hparse]; rfl
      by_cases gone : closed delivered.length
      · have stops : ¬ (Outcome.packet p).Passes Recognised closed delivered.length := by
          simp [Outcome.Passes, hsome, gone]
        simpa [Clocked.lift, handle, hparse, gone] using heard_stop clocks running stops
      · have hpass := heard_pass clocks running (Or.inr (Bool.eq_false_of_not_eq_true gone))
        simpa [Clocked.lift, handle, hparse, gone, hsome] using hpass
  | failed kind rest =>
    by_cases recognised : kind = .timedOut
    · subst recognised
      have hpass := heard_pass clocks running (show Recognised .timedOut from rfl)
      have htimeout : (FromIo.fromIo .timedOut : PtpIpError) = .timeout := rfl
      simpa [Clocked.lift, handle, htimeout, Outcome.event?] using hpass
    · have hkind : (FromIo.fromIo kind : PtpIpError) = .io kind := if_neg recognised
      have hstop := heard_stop clocks running recognised
      simpa [Clocked.lift, handle, hkind] using hstop
  | malformed message rest => exact heard_stop clocks running id
  | disconnected =>
    have hbefore : before Recognised closed 0 outcomes = used := by
      rw [running.passed, before, List.append_nil]
    refine ⟨used, Or.inr ⟨rfl, running.split, Or.inr ⟨rfl, hbefore.symm⟩, ?_⟩⟩
    rw [hbefore]
    exact running.sent
  | @skip p other rest r later ih =>
    have hnone : (Outcome.packet p).event? = none := if_neg other
    have hrest := running.pass (Or.inl hnone)
    rw [hnone, Option.toList_none, List.append_nil] at hrest
    exact ih hrest

variable (closed outcomes) in
lemma listen_heard (config : SessionConfig) (turns : Nat) :
    Heard closed outcomes (listen (receiveEvent config) closed turns
      (.start ⟨⟨outcomes, false⟩, clocks⟩)) := by
  refine listen_induct _ ?_ ⟨[], Or.inl ⟨rfl, rfl, rfl, rfl, rfl⟩⟩ turns
  rintro ⟨⟨⟨rest, ended⟩, clocks⟩, delivered, stopped⟩ ⟨used, here | there⟩ goesOn
  · obtain ⟨-, hended, running⟩ := here
    cases hended
    exact handle_heard _ (loop_receipt config (clocks 0) 0 false rest) running
  · rw [there.1] at goesOn
    cases goesOn

lemma Heard.survives {l : Listener (Clocked Script)} (h : Heard closed outcomes l) :
    Survives Recognised closed outcomes l := by
  rcases h with ⟨used, ⟨running, -, hears⟩ | ⟨stopped, split, at', delivered⟩⟩
  · refine ⟨used, hears.split, Or.inl ⟨running, ?_, hears.sent⟩⟩
    rw [hears.passed]
    exact List.prefix_append _ _
  · exact ⟨used, split, Or.inr ⟨stopped, at', delivered⟩⟩

end run

section progress

variable (closed : Nat → Bool)

/-- A receive whose time does not run out takes an outcome, or the loop stops. -/
lemma handle_progress {late : Prop} (onTime : ¬ late) {ended : Bool} {rest : List Outcome}
    {r : Result PtpIpError Script PtpIpPacket} (receipt : Receipt late ended rest r)
    (delivered : List PtpEvent) (clocks : Nat → Nat → Nat) :
    let l := handle closed delivered (Clocked.lift clocks r)
    l.stream.clocks = clocks ∧
      (l.stopped = true ∨ l.stream.stream.outcomes.length < rest.length) := by
  induction receipt with
  | elapsed isLate rest => exact absurd isLate onTime
  | event isEvent rest =>
    simp only [Clocked.lift, handle]
    split
    · split
      · exact ⟨rfl, Or.inl rfl⟩
      · exact ⟨rfl, Or.inr (Nat.lt_succ_self _)⟩
    · exact ⟨rfl, Or.inr (Nat.lt_succ_self _)⟩
  | failed kind rest => exact ⟨rfl, Or.inr (Nat.lt_succ_self _)⟩
  | malformed message rest => exact ⟨rfl, Or.inr (Nat.lt_succ_self _)⟩
  | disconnected => exact ⟨rfl, Or.inl rfl⟩
  | skip other later ih =>
    rcases ih with ⟨hclocks, stopped | shorter⟩
    · exact ⟨hclocks, Or.inl stopped⟩
    · exact ⟨hclocks, Or.inr (Nat.lt_succ_of_lt shorter)⟩

/-- On a clock that stands still every outcome is taken, up to where the loop stops. -/
lemma listen_stops (config : SessionConfig) (l : Listener (Clocked Script))
    (still : l.stream.clocks = fun _ _ => 0) :
    ∃ turns, (listen (receiveEvent config) closed turns l).stopped = true := by
  induction hn : l.stream.stream.outcomes.length using Nat.strongRecOn generalizing l with
  | ind n ih =>
    cases hstopped : l.stopped with
    | true => exact ⟨0, hstopped⟩
    | false =>
      obtain ⟨⟨⟨rest, ended⟩, clocks⟩, delivered, stopped⟩ := l
      cases still
      have onTime : ¬ Late config (fun _ => 0) := fun ⟨_, late⟩ => absurd late (Nat.not_lt_zero _)
      obtain ⟨hclocks, hturn⟩ := handle_progress closed onTime
        (loop_receipt config (fun _ => 0) 0 ended rest) delivered (fun _ _ => 0)
      rcases hturn with stops | shorter
      · exact ⟨1, by rw [listen_turn _ hstopped]; exact stops⟩
      · obtain ⟨turns, hrest⟩ := ih _ (hn ▸ shorter) _ hclocks rfl
        exact ⟨turns + 1, by rw [listen_turn _ hstopped]; exact hrest⟩

end progress

section wouldBlock

variable {closed : Nat → Bool} {sent : Nat}

lemma passes_readTimeout {o : Outcome} (passes : o.Passes ReadTimeout closed sent) :
    o = .failed .wouldBlock ∧ ¬ o.Passes Recognised closed sent ∨
    o.Passes Recognised closed sent := by
  cases o with
  | packet p => exact Or.inr passes
  | malformed message => exact Or.inr passes
  | failed kind =>
    rcases passes with rfl | rfl
    · exact Or.inr rfl
    · exact Or.inl ⟨rfl, fun h => by cases h⟩

lemma passes_recognised {o : Outcome} (passes : o.Passes Recognised closed sent) :
    o.Passes ReadTimeout closed sent := by
  cases o with
  | packet p => exact passes
  | malformed message => exact passes
  | failed kind => exact Or.inl passes

variable {outcomes : List Outcome}

lemma before_eq (none : .failed .wouldBlock ∉ before ReadTimeout closed sent outcomes) :
    before ReadTimeout closed sent outcomes = before Recognised closed sent outcomes := by
  induction outcomes generalizing sent with
  | nil => rfl
  | cons o rest ih =>
    rw [before] at none ⊢
    rw [before]
    by_cases passes : o.Passes ReadTimeout closed sent
    · rw [if_pos passes] at none ⊢
      rcases passes_readTimeout passes with ⟨rfl, -⟩ | recognised
      · exact absurd List.mem_cons_self none
      · rw [if_pos recognised, ih fun h => none (List.mem_cons_of_mem o h)]
    · rw [if_neg passes, if_neg fun recognised => passes (passes_recognised recognised)]

lemma before_lt (some : .failed .wouldBlock ∈ before ReadTimeout closed sent outcomes) :
    (before Recognised closed sent outcomes).length <
      (before ReadTimeout closed sent outcomes).length := by
  induction outcomes generalizing sent with
  | nil => cases some
  | cons o rest ih =>
    rw [before] at some ⊢
    rw [before]
    by_cases passes : o.Passes ReadTimeout closed sent
    · rw [if_pos passes] at some ⊢
      rcases passes_readTimeout passes with ⟨-, unrecognised⟩ | recognised
      · rw [if_neg unrecognised]
        exact Nat.succ_pos _
      · rw [if_pos recognised]
        rcases List.mem_cons.mp some with rfl | later
        · cases recognised
        · exact Nat.succ_lt_succ (ih later)
    · rw [if_neg passes] at some
      cases some

end wouldBlock

/-- The listener that was to last longer would have to have stopped at two places. -/
lemma not_survives {closed : Nat → Bool} {outcomes : List Outcome} {l : Listener (Clocked Script)}
    (stopped : l.stopped = true) (recognised : Survives Recognised closed outcomes l)
    (some : .failed .wouldBlock ∈ before ReadTimeout closed 0 outcomes) :
    ¬ Survives ReadTimeout closed outcomes l := by
  have hlt := before_lt some
  rintro ⟨used, split, ⟨running, -⟩ | ⟨-, spec, -⟩⟩
  · rw [stopped] at running
    cases running
  rcases recognised with ⟨used', split', ⟨running, -⟩ | ⟨-, code, -⟩⟩
  · rw [stopped] at running
    cases running
  obtain rfl : used = used' := List.append_cancel_right (split.symm.trans split')
  rcases code with ⟨open', point, hcode⟩ | ⟨ended, hcode⟩
  · rcases spec with ⟨-, point', hspec⟩ | ⟨ended, -⟩
    · have hlen := congrArg List.length (hcode.symm.trans hspec)
      simp only [List.length_append, List.length_singleton] at hlen
      omega
    · rw [open'] at ended
      cases ended
  · rcases spec with ⟨open', -⟩ | ⟨-, hspec⟩
    · rw [open'] at ended
      cases ended
    · rw [← hcode, ← hspec] at hlt
      exact Nat.lt_irrefl _ hlt

/-- In every run the listener lasts up to the closing of the channel or an error that is no
timeout, with every event before that sent, if and only if no read timeout before that point
shows as `WouldBlock`. -/
theorem idle_listener_survives_iff (config : SessionConfig) (closed : Nat → Bool)
    (outcomes : List Outcome) :
    (∀ clocks turns, Survives ReadTimeout closed outcomes
      (listen (receiveEvent config) closed turns (.start ⟨⟨outcomes, false⟩, clocks⟩))) ↔
    .failed .wouldBlock ∉ before ReadTimeout closed 0 outcomes := by
  constructor
  · intro survives some
    obtain ⟨turns, stopped⟩ :=
      listen_stops closed config (.start ⟨⟨outcomes, false⟩, fun _ _ => 0⟩) rfl
    have recognised := (listen_heard closed outcomes (fun _ _ => 0) config turns).survives
    exact not_survives stopped recognised some (survives _ turns)
  · intro none clocks turns
    have recognised := (listen_heard closed outcomes clocks config turns).survives
    unfold Survives StoppedAt at recognised ⊢
    rwa [before_eq none]

private def announcedObject : PtpEvent := ⟨.objectAdded, 7, [1]⟩

/-- An idle period on a platform that reports it as `WouldBlock`, and then an event. -/
private def idle : List Outcome := [.failed .wouldBlock, .packet (eventPacket announcedObject)]

/-- The listener stops in the idle period, and nobody receives the event. -/
theorem idle_listener_stops :
    eventsOf (before ReadTimeout (fun _ => false) 0 idle) = [announcedObject] ∧
    ∃ l, l = listen (receiveEvent ⟨30, 3⟩) (fun _ => false) 1
        (.start ⟨⟨idle, false⟩, fun _ _ => 0⟩) ∧
      l.stopped = true ∧ l.delivered = [] ∧ ¬ Survives ReadTimeout (fun _ => false) idle l := by
  have hnext : nextOutcome ⟨idle, false⟩ =
      .error (.io .wouldBlock) ⟨[.packet (eventPacket announcedObject)], false⟩ := rfl
  have hreceive : receiveEvent ⟨30, 3⟩ ⟨⟨idle, false⟩, fun _ _ => 0⟩ =
      .error (.io .wouldBlock)
        ⟨⟨[.packet (eventPacket announcedObject)], false⟩, fun _ _ => 0⟩ := by
    rw [receiveEvent, filtered, loop_error (filterTurnOf_failed (by decide) hnext)]
    rfl
  have hlisten : listen (receiveEvent ⟨30, 3⟩) (fun _ => false) 1
      (.start ⟨⟨idle, false⟩, fun _ _ => 0⟩) =
      ⟨⟨⟨[.packet (eventPacket announcedObject)], false⟩, fun _ _ => 0⟩, [], true⟩ := by
    rw [listen_turn _ rfl, listenTurn, Listener.start, hreceive]
    rfl
  have recognised := (listen_heard (fun _ => false) idle (fun _ _ => 0) ⟨30, 3⟩ 1).survives
  refine ⟨by decide, _, rfl, by rw [hlisten], by rw [hlisten], ?_⟩
  exact not_survives (by rw [hlisten]) recognised (by decide)

end IdleListener
