import PtpipCore.FrameStreams

/-!
# Two readers on one receive queue

The event listener reads a clone of the stream that the command path reads. A
step is one frame read by one of them: the listener receives events, the caller
in `get_response` receives the response of its transaction and then stops
reading. Each throws away what it does not receive.
-/

namespace SharedStream

open Effects ByteStream Types Transport Frames Commands FrameStreams

inductive Reader where
  | listener
  | caller
  deriving DecidableEq, Repr

/-- `answer` is what the call returned, once it has. `lost` is not part of the
program: it records the frames thrown away while the other reader waited for them. -/
structure Shared where
  arrivals : List Arrival
  delivered : List PtpIpPacket
  answer : Option (Except PtpIpError PtpIpPacket)
  lost : List PtpIpPacket

/-- No reader runs out of time between two frames. -/
def stopped : Nat → Nat := fun _ => 0

/-- A turn of a reader's filtered receive. -/
def turn (config : SessionConfig) : Reader → Recv (Nat ⊕ PtpIpPacket)
  | .listener => filterTurn stopped (some .eventBlock) config 0
  | .caller => filterTurn stopped (some .responseBlock) config 0

/-- What a reader does with a packet that it receives. -/
def receive (t : UInt32) (p : PtpIpPacket) (s : Shared) : Reader → Shared
  | .listener => { s with delivered := s.delivered ++ [p] }
  | .caller =>
    match takeResponse t p with
    | .ok (.inl _) => s
    | .ok (.inr p) => { s with answer := some (.ok p) }
    | .error e => { s with answer := some (.error e) }

/-- The other reader waits for this packet. -/
def awaited (t : UInt32) (p : PtpIpPacket) (s : Shared) : Reader → Bool
  | .listener => s.answer.isNone ∧ p.messageType = .responseBlock ∧ p.transactionId = t
  | .caller => p.messageType = .eventBlock

/-- A turn does not say which packet it has thrown away; it is the one in front. -/
def skip (t : UInt32) (r : Reader) (rest : List Arrival) (s : Shared) : Shared :=
  match recvPacket s.arrivals with
  | .ok p _ => { s with arrivals := rest, lost := s.lost ++ if awaited t p s r then [p] else [] }
  | .error _ _ => { s with arrivals := rest }

/-- A reader that has returned takes no step, nor does one that waits for a frame. -/
def step (config : SessionConfig) (t : UInt32) (r : Reader) (s : Shared) : Option Shared :=
  if r = .caller ∧ s.answer.isSome then none
  else match turn config r s.arrivals with
    | .error _ _ => none
    | .ok (.inl _) rest => some (skip t r rest s)
    | .ok (.inr p) rest => some (receive t p { s with arrivals := rest } r)

def run (config : SessionConfig) (t : UInt32) : List Reader → Shared → Option Shared
  | [], s => some s
  | r :: schedule, s => (step config t r s).bind (run config t schedule)

/-- Everything is still on the stream and the call has just been made. -/
def start (frames : List Frame) : Shared := ⟨arrived (wires frames), [], none, []⟩

/-- The result of a call that has received the response. -/
def checked (p : PtpIpPacket) : Except PtpIpError PtpIpPacket :=
  match checkResponseError p with
  | .ok _ => .ok p
  | .error e => .error e

def discard (p : PtpIpPacket) (awaited : Prop) [Decidable awaited] (s : Shared) : Shared :=
  if awaited then { s with lost := s.lost ++ [p] } else s

/-- What the turn of a reader comes to, by the packet that it reads. -/
def handle (t : UInt32) (r : Reader) (p : PtpIpPacket) (s : Shared) : Shared :=
  match r with
  | .listener =>
    if p.messageType = .eventBlock then { s with delivered := s.delivered ++ [p] }
    else discard p (s.answer.isNone ∧ p.messageType = .responseBlock ∧ p.transactionId = t) s
  | .caller =>
    if p.messageType ≠ .responseBlock then discard p (p.messageType = .eventBlock) s
    else if p.transactionId ≠ t then s
    else { s with answer := some (checked p) }

lemma receive_caller {t : UInt32} {p : PtpIpPacket} {s : Shared} :
    receive t p s .caller =
      if p.transactionId ≠ t then s else { s with answer := some (checked p) } := by
  by_cases own : p.transactionId = t
  · rw [receive, takeResponse_own own, if_neg (not_not_intro own), checked]
    cases checkResponseError p <;> rfl
  · rw [receive, takeResponse_foreign own, if_pos own]

section steps

variable {config : SessionConfig} {t : UInt32} {r : Reader} {s : Shared}

lemma skip_frame {f : Frame} {rest : List Arrival}
    (arrivals : s.arrivals = arrived f.wire ++ rest) :
    skip t r rest s =
      discard f.packet (awaited t f.packet s r) { s with arrivals := rest } := by
  rw [skip, arrivals, recvPacket_frame, discard]
  by_cases h : awaited t f.packet s r <;> simp [h]

lemma stopped_onTime : stopped (0 + 1) - stopped 0 ≤ config.timeout * 1000000000 := Nat.zero_le _

/-- A turn that reads a whole frame. -/
lemma turn_frame (r : Reader) (f : Frame) (rest : List Arrival) :
    turn config r (arrived f.wire ++ rest) = .ok
      (match r with
        | .listener => if f.packet.messageType = .eventBlock then .inr f.packet else .inl 1
        | .caller => if f.packet.messageType = .responseBlock then .inr f.packet else .inl 1)
      rest := by
  cases r with
  | listener => exact filterTurn_frame stopped_onTime f rest
  | caller => exact filterTurn_frame stopped_onTime f rest

lemma turn_empty (r : Reader) : turn config r [] = .error (FromIo.fromIo .unexpectedEof) [] := by
  cases r with
  | listener => exact filterTurnOf_failed stopped_onTime rfl
  | caller => exact filterTurnOf_failed stopped_onTime rfl

lemma step_frame {f : Frame} {rest : List Arrival} (arrivals : s.arrivals = arrived f.wire ++ rest)
    (reads : r = .caller → s.answer = none) :
    step config t r s = some (handle t r f.packet { s with arrivals := rest }) := by
  have hreads : ¬ (r = .caller ∧ s.answer.isSome) := by
    rintro ⟨hr, hsome⟩
    simp [reads hr] at hsome
  rw [step, if_neg hreads, arrivals, turn_frame]
  cases r with
  | listener =>
    dsimp only [handle]
    by_cases isEvent : f.packet.messageType = .eventBlock
    · rw [if_pos isEvent, if_pos isEvent]
      rfl
    · rw [if_neg isEvent, if_neg isEvent]
      exact congrArg some ((skip_frame arrivals).trans (by simp [awaited]))
  | caller =>
    dsimp only [handle]
    by_cases isResponse : f.packet.messageType = .responseBlock
    · rw [if_pos isResponse, if_neg (not_not_intro isResponse)]
      exact congrArg some receive_caller
    · rw [if_neg isResponse, if_pos isResponse]
      exact congrArg some ((skip_frame arrivals).trans (by simp [awaited]))

lemma step_empty (arrivals : s.arrivals = []) : step config t r s = none := by
  rw [step, arrivals, turn_empty]
  split <;> rfl

end steps

variable {config : SessionConfig}

/-- What a reader skips only shows in the record of lost frames. -/
def Skips (t : UInt32) (r : Reader) (f : Frame) : Prop :=
  match r with
  | .listener => f.body.messageType ≠ .eventBlock
  | .caller => ¬ AnswersTo t f

lemma discard_eq (p : PtpIpPacket) (awaited : Prop) [Decidable awaited] (s : Shared) :
    ∃ lost, discard p awaited s = { s with lost := lost } := by
  unfold discard
  split
  · exact ⟨_, rfl⟩
  · exact ⟨s.lost, rfl⟩

lemma handle_skips {t : UInt32} {r : Reader} {f : Frame} (skips : Skips t r f) (s : Shared) :
    ∃ lost, handle t r f.packet s = { s with lost := lost } := by
  cases r with
  | listener =>
    rw [handle, if_neg (show ¬ f.packet.messageType = .eventBlock from skips)]
    exact discard_eq _ _ s
  | caller =>
    rw [handle]
    by_cases hresponse : f.packet.messageType = .responseBlock
    · have hid : f.packet.transactionId ≠ t := fun hid => skips ⟨hresponse, hid⟩
      rw [if_neg (not_not_intro hresponse), if_pos hid]
      exact ⟨s.lost, rfl⟩
    · rw [if_pos hresponse]
      exact discard_eq _ _ s

lemma run_skips {t : UInt32} {r : Reader} {skipped : List Frame} {rest : List Arrival}
    (skips : ∀ g ∈ skipped, Skips t r g) {s : Shared} (reads : r = .caller → s.answer = none)
    (arrivals : s.arrivals = arrived (wires skipped) ++ rest) (schedule : List Reader) :
    ∃ lost, run config t (List.replicate skipped.length r ++ schedule) s =
      run config t schedule { s with arrivals := rest, lost := lost } := by
  induction skipped generalizing s with
  | nil =>
    refine ⟨s.lost, ?_⟩
    rw [← show s.arrivals = rest from arrivals]
    rfl
  | cons g skipped ih =>
    rw [wires_cons, arrived_append, List.append_assoc] at arrivals
    obtain ⟨lost, hhandle⟩ := handle_skips (skips g List.mem_cons_self)
      { s with arrivals := arrived (wires skipped) ++ rest }
    obtain ⟨lost', hrest⟩ := ih (fun h hmem => skips h (List.mem_cons_of_mem g hmem))
      (s := { s with arrivals := arrived (wires skipped) ++ rest, lost := lost }) reads rfl
    refine ⟨lost', ?_⟩
    rw [List.length_cons, List.replicate_succ, List.cons_append, run,
      step_frame arrivals reads, Option.bind_some, hhandle, hrest]

/-- A caller that reads alone returns what `get_response` returns. -/
theorem caller_alone {t : UInt32} {clocks : Nat → Nat → Nat}
    (onTime : OnTime config clocks) {noise : List Frame}
    (foreign : ∀ g ∈ noise, ¬ AnswersTo t g) {f : Frame} (answers : AnswersTo t f)
    (rest : List Frame) :
    ∃ s', run config t (List.replicate noise.length .caller ++ [.caller])
        (start (noise ++ f :: rest)) = some s' ∧
      s'.answer = some (answer (getResponse t config
        ⟨arrived (wires noise ++ f.wire) ++ s'.arrivals, clocks⟩)) := by
  have arrivals : (start (noise ++ f :: rest)).arrivals =
      arrived (wires noise) ++ (arrived f.wire ++ arrived (wires rest)) := by simp [start]
  obtain ⟨lost, hrun⟩ := run_skips (r := .caller) foreign (fun _ => rfl) arrivals [.caller]
  have hhandle : ∀ s, handle t .caller f.packet s =
      { s with answer := some (checked f.packet) } := by
    intro s
    rw [handle, if_neg (not_not_intro (show f.packet.messageType = .responseBlock from answers.1)),
      if_neg (not_not_intro (show f.packet.transactionId = t from answers.2))]
  rw [run, step_frame rfl (fun _ => rfl), Option.bind_some, hhandle, run] at hrun
  obtain ⟨clocks', hget⟩ := getResponse_judges onTime foreign answers (arrived (wires rest))
  refine ⟨_, hrun, ?_⟩
  rw [hget, judged, checked]
  cases checkResponseError f.packet <;> rfl

/-- A listener that reads alone delivers what its filtered receive returns. -/
theorem listener_alone {t : UInt32} {clocks : Nat → Nat → Nat}
    (onTime : OnTime config clocks) {skipped : List Frame}
    (others : ∀ g ∈ skipped, g.body.messageType ≠ .eventBlock) {f : Frame}
    (isEvent : f.body.messageType = .eventBlock) (rest : List Frame) :
    ∃ s' p, run config t (List.replicate skipped.length .listener ++ [.listener])
        (start (skipped ++ f :: rest)) = some s' ∧ s'.delivered = [p] ∧
      recvPacketFiltered (some .eventBlock) config
        ⟨arrived (wires skipped ++ f.wire) ++ s'.arrivals, clocks⟩ =
          .ok p ⟨s'.arrivals, later clocks⟩ := by
  have arrivals : (start (skipped ++ f :: rest)).arrivals =
      arrived (wires skipped) ++ (arrived f.wire ++ arrived (wires rest)) := by simp [start]
  obtain ⟨lost, hrun⟩ := run_skips (t := t) (r := .listener) others (fun h => by cases h)
    arrivals [.listener]
  have hhandle : ∀ s, handle t .listener f.packet s =
      { s with delivered := s.delivered ++ [f.packet] } := by
    intro s
    rw [handle, if_pos (show f.packet.messageType = .eventBlock from isEvent)]
  rw [run, step_frame rfl (fun h => by cases h), Option.bind_some, hhandle, run] at hrun
  exact ⟨_, f.packet, hrun, rfl, recvPacketFiltered_first onTime others isEvent _⟩

/-- The frame is read by the reader that waits for it. -/
def RightReader (t : UInt32) (waiting : Bool) (f : Frame) (r : Reader) : Prop :=
  (f.body.messageType = .eventBlock → r = .listener) ∧
  (waiting → AnswersTo t f → r = .caller)

lemma not_answersTo_event {t : UInt32} {f : Frame} (h : f.body.messageType = .eventBlock) :
    ¬ AnswersTo t f := fun answers => by cases h.symm.trans answers.1

/-- What reading one frame adds when the right reader reads it. -/
lemma handle_right {t : UInt32} {r : Reader} {f : Frame} {s : Shared}
    (right : RightReader t s.answer.isNone f r) (reads : r = .caller → s.answer = none) :
    handle t r f.packet s = { s with
      delivered := s.delivered ++ if f.body.messageType = .eventBlock then [f.packet] else [],
      answer := s.answer.or (if AnswersTo t f then some (checked f.packet) else none) } := by
  obtain ⟨eventRight, answerRight⟩ := right
  cases r with
  | listener =>
    by_cases isEvent : f.body.messageType = .eventBlock
    · rw [handle, if_pos (show f.packet.messageType = .eventBlock from isEvent),
        if_pos isEvent, if_neg (not_answersTo_event isEvent), Option.or_none]
    · have unawaited : ¬ (s.answer.isNone ∧ f.packet.messageType = .responseBlock ∧
          f.packet.transactionId = t) := fun h => by cases answerRight h.1 h.2
      rw [handle, if_neg (show ¬ f.packet.messageType = .eventBlock from isEvent),
        if_neg isEvent, discard, if_neg unawaited, List.append_nil]
      by_cases answers : AnswersTo t f
      · obtain ⟨given, hgiven⟩ : ∃ given, s.answer = some given := by
          cases h : s.answer with
          | none => exact absurd ⟨by rw [h]; rfl, answers⟩ unawaited
          | some given => exact ⟨given, rfl⟩
        rw [hgiven, Option.some_or, ← hgiven]
      · rw [if_neg answers, Option.or_none]
  | caller =>
    have notEvent : f.body.messageType ≠ .eventBlock := fun h => by cases eventRight h
    rw [if_neg notEvent, List.append_nil, reads rfl, Option.none_or]
    by_cases answers : AnswersTo t f
    · rw [handle, if_neg (not_not_intro (show f.packet.messageType = _ from answers.1)),
        if_neg (not_not_intro (show f.packet.transactionId = t from answers.2)), if_pos answers]
    · rw [if_neg answers, ← reads rfl, handle, discard,
        if_neg (show ¬ f.packet.messageType = .eventBlock from notEvent)]
      by_cases isResponse : f.packet.messageType = .responseBlock
      · rw [if_neg (not_not_intro isResponse), if_pos (show f.packet.transactionId ≠ t from
          fun hid => answers ⟨isResponse, hid⟩)]
      · rw [if_pos isResponse]

/-- A frame that the wrong reader reads is lost. -/
lemma handle_wrong {t : UInt32} {r : Reader} {f : Frame} {s : Shared}
    (wrong : ¬ RightReader t s.answer.isNone f r) :
    handle t r f.packet s = { s with lost := s.lost ++ [f.packet] } := by
  cases r with
  | listener =>
    obtain ⟨waiting, answers⟩ : s.answer.isNone ∧ AnswersTo t f := by
      simpa [RightReader] using wrong
    have notEvent : f.packet.messageType ≠ .eventBlock :=
      fun h => not_answersTo_event h answers
    rw [handle, if_neg notEvent, discard, if_pos ⟨waiting, answers⟩]
  | caller =>
    have isEvent : f.packet.messageType = .eventBlock := by
      change f.body.messageType = .eventBlock
      simpa [RightReader] using wrong
    have notResponse : f.packet.messageType ≠ .responseBlock := by rw [isEvent]; decide
    rw [handle, if_pos notResponse, discard, if_pos isEvent]

/-- One step reads one frame. -/
lemma step_some {t : UInt32} {r : Reader} {s s' : Shared} {frames : List Frame}
    (arrivals : s.arrivals = arrived (wires frames)) (h : step config t r s = some s') :
    ∃ f rest, frames = f :: rest ∧ (r = .caller → s.answer = none) ∧
      s' = handle t r f.packet { s with arrivals := arrived (wires rest) } := by
  have reads : r = .caller → s.answer = none := by
    intro hr
    by_contra hsome
    subst hr
    rw [step, if_pos ⟨rfl, Option.isSome_iff_ne_none.mpr hsome⟩] at h
    cases h
  cases frames with
  | nil => rw [step_empty arrivals] at h; cases h
  | cons f rest =>
    rw [wires_cons, arrived_append] at arrivals
    rw [step_frame arrivals reads] at h
    cases h
    exact ⟨f, rest, rfl, reads, rfl⟩

/-- Each event is read by the listener and, while the call waits, the first answer to it
by the caller. -/
def RightReaders (t : UInt32) (waiting : Bool) (reads : List (Frame × Reader)) : Prop :=
  (∀ x ∈ reads, x.1.body.messageType = .eventBlock → x.2 = .listener) ∧
  (waiting → ∀ x, reads.find? (fun x => AnswersTo t x.1) = some x → x.2 = .caller)

lemma rightReaders_cons {t : UInt32} {waiting : Bool} {f : Frame} {r : Reader}
    {reads : List (Frame × Reader)} :
    RightReaders t waiting ((f, r) :: reads) ↔
      RightReader t waiting f r ∧ RightReaders t (waiting && !decide (AnswersTo t f)) reads := by
  unfold RightReaders RightReader
  by_cases answers : AnswersTo t f <;> cases waiting <;>
    simp [answers, and_assoc, and_comm]

/-- The packets of the events among the frames. -/
def eventPackets (frames : List Frame) : List PtpIpPacket :=
  (frames.filter (fun f => f.body.messageType = .eventBlock)).map Frame.packet

/-- What the call returns for the first answer to it among the frames. -/
def firstAnswer (t : UInt32) (frames : List Frame) : Option (Except PtpIpError PtpIpPacket) :=
  (frames.find? (AnswersTo t)).map (checked ·.packet)

lemma isNone_or_answer {t : UInt32} (given : Option (Except PtpIpError PtpIpPacket))
    (f : Frame) :
    (given.or (if AnswersTo t f then some (checked f.packet) else none)).isNone =
      (given.isNone && !decide (AnswersTo t f)) := by
  by_cases answers : AnswersTo t f <;> cases given <;> simp [answers]

/-- What a frame adds that the right reader reads. -/
structure ReadsRight (t : UInt32) (f : Frame) (s u : Shared) : Prop where
  lost : u.lost = s.lost
  delivered : u.delivered =
    s.delivered ++ if f.body.messageType = .eventBlock then [f.packet] else []
  answer : u.answer = s.answer.or (if AnswersTo t f then some (checked f.packet) else none)

/-- A run has its next frame read by the right reader, or loses it, and goes on from there. -/
lemma run_cons {t : UInt32} {r : Reader} {schedule : List Reader} {frames : List Frame}
    {s s' : Shared} (arrivals : s.arrivals = arrived (wires frames))
    (h : run config t (r :: schedule) s = some s') :
    ∃ f rest u, frames = f :: rest ∧ u.arrivals = arrived (wires rest) ∧
      run config t schedule u = some s' ∧
      (RightReader t s.answer.isNone f r ∧ ReadsRight t f s u ∨
        ¬ RightReader t s.answer.isNone f r ∧ u.lost = s.lost ++ [f.packet]) := by
  obtain ⟨u, hstep, hrun⟩ := Option.bind_eq_some_iff.mp h
  obtain ⟨f, rest, rfl, reads, rfl⟩ := step_some arrivals hstep
  by_cases right : RightReader t s.answer.isNone f r
  · rw [handle_right (s := { s with arrivals := arrived (wires rest) }) right reads] at hrun
    exact ⟨f, rest, _, rfl, rfl, hrun, Or.inl ⟨right, ⟨rfl, rfl, rfl⟩⟩⟩
  · rw [handle_wrong (s := { s with arrivals := arrived (wires rest) }) right] at hrun
    exact ⟨f, rest, _, rfl, rfl, hrun, Or.inr ⟨right, rfl⟩⟩

lemma run_right {t : UInt32} {schedule : List Reader} {frames : List Frame} {s s' : Shared}
    (arrivals : s.arrivals = arrived (wires frames)) (h : run config t schedule s = some s')
    (right : RightReaders t s.answer.isNone (frames.zip schedule)) :
    s'.lost = s.lost ∧
    s'.delivered = s.delivered ++ eventPackets (frames.take schedule.length) ∧
    s'.answer = s.answer.or (firstAnswer t (frames.take schedule.length)) := by
  induction schedule generalizing frames s with
  | nil =>
    cases h
    simp [eventPackets, firstAnswer]
  | cons r schedule ih =>
    obtain ⟨f, rest, u, rfl, arrivals', hrun, step⟩ := run_cons arrivals h
    obtain ⟨rightHere, rightRest⟩ := rightReaders_cons.mp right
    rcases step with ⟨-, reads⟩ | ⟨wrong, -⟩
    · rw [← isNone_or_answer, ← reads.answer] at rightRest
      obtain ⟨hlost, hdelivered, hanswer⟩ := ih arrivals' hrun rightRest
      refine ⟨hlost.trans reads.lost, ?_, ?_⟩
      · rw [hdelivered, reads.delivered]
        by_cases isEvent : f.body.messageType = .eventBlock <;> simp [eventPackets, isEvent]
      · rw [hanswer, reads.answer]
        by_cases answers : AnswersTo t f <;> simp [firstAnswer, answers]
    · exact absurd rightHere wrong

/-- What is lost stays lost. -/
lemma run_lost_le {t : UInt32} {schedule : List Reader} {frames : List Frame} {s s' : Shared}
    (arrivals : s.arrivals = arrived (wires frames)) (h : run config t schedule s = some s') :
    s.lost.length ≤ s'.lost.length := by
  induction schedule generalizing frames s with
  | nil => cases h; exact Nat.le_refl _
  | cons r schedule ih =>
    obtain ⟨f, rest, u, rfl, arrivals', hrun, step⟩ := run_cons arrivals h
    have hle := ih arrivals' hrun
    rcases step with ⟨-, reads⟩ | ⟨-, hlost⟩
    · rwa [reads.lost] at hle
    · rw [hlost, List.length_append] at hle
      omega

lemma run_wrong {t : UInt32} {schedule : List Reader} {frames : List Frame} {s s' : Shared}
    (arrivals : s.arrivals = arrived (wires frames)) (h : run config t schedule s = some s')
    (wrong : ¬ RightReaders t s.answer.isNone (frames.zip schedule)) :
    s.lost.length < s'.lost.length := by
  induction schedule generalizing frames s with
  | nil => exact absurd ⟨by simp, by simp⟩ wrong
  | cons r schedule ih =>
    obtain ⟨f, rest, u, rfl, arrivals', hrun, step⟩ := run_cons arrivals h
    rcases step with ⟨right, reads⟩ | ⟨-, hlost⟩
    · have wrongRest := fun h => wrong (rightReaders_cons.mpr ⟨right, h⟩)
      rw [← isNone_or_answer, ← reads.answer] at wrongRest
      rw [← reads.lost]
      exact ih arrivals' hrun wrongRest
    · have hle := run_lost_le arrivals' hrun
      rw [hlost, List.length_append, List.length_singleton] at hle
      omega

/-- In every run, nothing is lost, all events read so far are delivered in order and the
call returns the first answer to it, if and only if every event was read by the listener
and that answer by the caller. -/
theorem no_message_lost_iff {t : UInt32} {frames : List Frame} {schedule : List Reader}
    {s : Shared} (h : run config t schedule (start frames) = some s) :
    (s.lost = [] ∧ s.delivered = eventPackets (frames.take schedule.length) ∧
      s.answer = firstAnswer t (frames.take schedule.length)) ↔
    RightReaders t true (frames.zip schedule) := by
  constructor
  · rintro ⟨nothing, -, -⟩
    by_contra wrong
    have hlost := run_wrong rfl h wrong
    rw [nothing] at hlost
    exact Nat.not_lt_zero _ hlost
  · intro right
    obtain ⟨hlost, hdelivered, hanswer⟩ := run_right rfl h right
    exact ⟨hlost, hdelivered, by rw [hanswer]; rfl⟩

private def event : Frame := ⟨0, 9, .event⟩

private def response : Frame :=
  ⟨0, 1, .response ⟨[0, 0, 0x20, 0x01, 0, 0, 0, 0], by decide⟩⟩

/-- The listener reads the event, the caller its response. -/
theorem no_message_lost_lucky :
    ∃ s, run ⟨30, 3⟩ 1 [.listener, .caller] (start [event, response]) = some s ∧
      s.delivered = [event.packet] ∧ s.answer = some (.ok response.packet) :=
  have hrun : run ⟨30, 3⟩ 1 [.listener, .caller] (start [event, response]) =
    some ⟨[], [event.packet], some (.ok response.packet), []⟩ := rfl
  have kept := (no_message_lost_iff hrun).mpr ⟨by decide, fun _ x h => by
    have hfirst : some (response, Reader.caller) = some x := h
    cases hfirst
    rfl⟩
  ⟨_, hrun, kept.2.1, kept.2.2⟩

/-- The listener takes the response off the queue and throws it away. -/
theorem response_read_by_listener :
    ∃ s, run ⟨30, 3⟩ 1 [.listener] (start [response]) = some s ∧ s.arrivals = [] ∧
      s.answer ≠ firstAnswer 1 [response] ∧ s.lost = [response.packet] :=
  ⟨⟨[], [], none, [response.packet]⟩, rfl, rfl, by decide, rfl⟩

end SharedStream
