import PtpipCore.FrameStreams
import PtpipCore.ReadTimeouts

/-!
# The event listener

The listener receives event packets, parses them and sends the events to a
channel; a packet that cannot be parsed is dropped, a timeout is no reason to
stop. What it receives from and how it receives is a parameter of the loop.
-/

namespace EventListener

open Effects ByteStream Types Transport Frames FrameRoundTrip ReadTimeouts
open EStateM (Result)

def eventTypeOf (code : UInt16) : Option EventType :=
  if code = 0x4001 then some .objectAdded
  else if code = 0x4002 then some .objectRemoved
  else if code = 0x4003 then some .storeAdded
  else if code = 0x4004 then some .storeRemoved
  else if code = 0x4005 then some .devicePropChanged
  else if code = 0x4006 then some .requestObjectTransfer
  else none

/-- Code, count and parameters, read off the payload. -/
def readEvent (transactionId : UInt32) : Recv PtpEvent := do
  let eventCode ← readU16Be
  let paramCount ← readU16Be
  let parameters ← repeated readU32Be paramCount.toNat
  match eventTypeOf eventCode with
  | some eventType => return ⟨eventType, transactionId, parameters⟩
  | none => throw (.protocolError ("Unknown event type: 0x" ++ hex4 eventCode.toNat))

def parseEventPacket (packet : PtpIpPacket) : Except PtpIpError PtpEvent :=
  if packet.payload.length < 6 then
    .error (.protocolError "Insufficient data length for event packet")
  else
    answer (readEvent packet.transactionId (arrived packet.payload))

structure Listener (σ : Type) where
  stream : σ
  delivered : List PtpEvent
  stopped : Bool

section loop

variable {σ : Type} (receive : EStateM PtpIpError σ PtpIpPacket)

/-- What follows a receive; `closed n` says whether the receiver of events is gone when the
one after `n` others is sent. -/
def handle (closed : Nat → Bool) (delivered : List PtpEvent) :
    Result PtpIpError σ PtpIpPacket → Listener σ
  | .ok packet s =>
    match parseEventPacket packet with
    | .ok event =>
      if closed delivered.length then ⟨s, delivered, true⟩
      else ⟨s, delivered ++ [event], false⟩
    | .error _ => ⟨s, delivered, false⟩
  | .error e s =>
    -- a timeout is normal
    ⟨s, delivered, e ≠ .timeout⟩

def listenTurn (closed : Nat → Bool) (l : Listener σ) : Listener σ :=
  handle closed l.delivered (receive l.stream)

/-- The loop, for so many turns. -/
def listen (closed : Nat → Bool) : Nat → Listener σ → Listener σ
  | 0, l => l
  | turns + 1, l => if l.stopped then l else listen closed turns (listenTurn receive closed l)

def Listener.start (stream : σ) : Listener σ := ⟨stream, [], false⟩

lemma listen_turn {closed : Nat → Bool} {l : Listener σ} (running : l.stopped = false)
    (turns : Nat) : listen receive closed (turns + 1) l =
      listen receive closed turns (listenTurn receive closed l) :=
  if_neg (Bool.eq_false_iff.mp running)

/-- What a turn preserves, the whole loop preserves. -/
lemma listen_induct {closed : Nat → Bool} {I : Listener σ → Prop}
    (turn : ∀ l, I l → l.stopped = false → I (listenTurn receive closed l)) {l : Listener σ}
    (start : I l) (turns : Nat) : I (listen receive closed turns l) := by
  induction turns generalizing l with
  | zero => exact start
  | succ turns ih =>
    cases stopped : l.stopped with
    | true =>
      rw [listen, if_pos stopped]
      exact start
    | false =>
      rw [listen_turn receive stopped]
      exact ih (turn l start stopped)

end loop

/-- The receiver reads no payload for an event. -/
lemma recvPacket_event {p : PtpIpPacket} {s s' : List Arrival} (h : recvPacket s = .ok p s')
    (isEvent : p.messageType = .eventBlock) : p.payload = [] := by
  obtain ⟨typeBytes, t, htype, h⟩ := bind_eq_ok_iff.mp h
  obtain ⟨header, u, hheader, hbody⟩ := bind_eq_ok_iff.mp h
  obtain ⟨t', n, v, -, bodyRead, hpayload⟩ := recvBody_ok hbody
  obtain ⟨rfl, hsize, -⟩ := recvPayload_ok hpayload
  rw [isEvent] at bodyRead
  cases bodyRead
  exact List.eq_nil_of_length_eq_zero hsize

/-- A filtered receive returns a packet of its type that the receiver has returned. -/
lemma recvPacketFiltered_ok {t : PtpIpMessageType} {config : SessionConfig} {p : PtpIpPacket}
    {s s' : Incoming} (h : recvPacketFiltered (some t) config s = .ok p s') :
    p.messageType = t ∧ ∃ u, recvPacket u = .ok p s'.arrivals := by
  refine loop_induct (filterTurn_shrinks (s.clocks 0) (some t) config) (P := fun _ _ => True)
    (Q := fun r => ∀ q u, r = .ok q u → q.messageType = t ∧ ∃ v, recvPacket v = .ok q u)
    (fun _ _ _ _ _ _ => trivial) ?_ ?_ 0 s.arrivals trivial p _ (recvPacketFiltered_loop h)
  · intro turn v q u _ hturn q' u' hq
    cases hq
    obtain ⟨packet, hrecv, hlast⟩ := filterTurnOf_ok hturn
    split at hlast
    · next wanted =>
      cases hlast
      exact ⟨(of_decide_eq_true wanted).symm, v, hrecv⟩
    · cases hlast
  · intro turn v e u _ _ q u' hq
    cases hq

lemma parseEventPacket_empty {p : PtpIpPacket} (empty : p.payload = []) :
    parseEventPacket p = .error (.protocolError "Insufficient data length for event packet") :=
  if_pos (by rw [empty]; decide)

/-- An event that arrives is one that cannot be parsed. -/
lemma listenTurn_delivered (config : SessionConfig) (closed : Nat → Bool)
    (l : Listener Incoming) :
    (listenTurn (recvPacketFiltered (some .eventBlock) config) closed l).delivered =
      l.delivered := by
  unfold listenTurn
  cases h : recvPacketFiltered (some .eventBlock) config l.stream with
  | error e s => rfl
  | ok p s =>
    obtain ⟨isEvent, u, hrecv⟩ := recvPacketFiltered_ok h
    simp only [handle, parseEventPacket_empty (recvPacket_event hrecv isEvent)]

lemma listen_delivered (config : SessionConfig) (closed : Nat → Bool) (s : Incoming)
    (turns : Nat) :
    (listen (recvPacketFiltered (some .eventBlock) config) closed turns
      (.start s)).delivered = [] := by
  refine listen_induct _ (I := fun l => l.delivered = []) ?_ rfl turns
  intro l nothing _
  rw [listenTurn_delivered, nothing]

/-- Events with as many parameters as two bytes can count. -/
abbrev CountedEvent := { event : PtpEvent // event.parameters.length < 2 ^ 16 }

/-- code(2) + parameter count(2), then the parameters -/
def encodeEvent (event : PtpEvent) : Bytes :=
  bigEndian 2 event.eventType.code.toNat ++ bigEndian 2 event.parameters.length ++
    event.parameters.flatMap (bigEndian 4 ·.toNat)

def eventPacket (event : PtpEvent) : PtpIpPacket :=
  ⟨.eventBlock, event.transactionId, encodeEvent event⟩

/-- What a camera sends: events, and other frames between them. -/
inductive Traffic where
  | event (event : CountedEvent)
  | other (f : Frame)

def Traffic.bytes : Traffic → Bytes
  | event e => sent (eventPacket e.1)
  | other f => f.wire

def Traffic.event? : Traffic → Option PtpEvent
  | event e => some e.1
  | other _ => none

/-- The listener ends up with these events delivered. -/
def Delivers (config : SessionConfig) (s : Incoming) (closed : Nat → Bool)
    (events : List PtpEvent) : Prop :=
  ∃ enough, ∀ turns ≥ enough, (listen (recvPacketFiltered (some .eventBlock) config) closed turns
    (.start s)).delivered = events

/-- The events that are sent are delivered only where there are none. -/
theorem events_delivered_iff (config : SessionConfig) (clocks : Nat → Nat → Nat)
    (closed : Nat → Bool) (traffic : List Traffic) (tail : List Arrival) :
    Delivers config ⟨arrived (traffic.flatMap Traffic.bytes) ++ tail, clocks⟩ closed
        (traffic.filterMap Traffic.event?) ↔
      traffic.filterMap Traffic.event? = [] := by
  constructor
  · rintro ⟨enough, delivers⟩
    rw [← delivers enough (Nat.le_refl _), listen_delivered]
  · intro none
    exact ⟨0, fun turns _ => by rw [listen_delivered, none]⟩

private def added : PtpEvent := ⟨.objectAdded, 7, [0x00010002]⟩

/-- A new object is announced; the event could be parsed, but never arrives. -/
theorem event_not_delivered :
    parseEventPacket (eventPacket added) = .ok added ∧
    ¬ Delivers ⟨30, 3⟩ ⟨arrived (Traffic.bytes (.event ⟨added, by decide⟩)), fun _ _ => 0⟩
      (fun _ => false) [added] := by
  refine ⟨by decide, ?_⟩
  rintro ⟨enough, delivers⟩
  have nothing := delivers enough (Nat.le_refl _)
  rw [listen_delivered] at nothing
  cases nothing

end EventListener
