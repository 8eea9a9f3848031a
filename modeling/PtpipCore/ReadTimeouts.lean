import PtpipCore.Frames

/-!
# Receiving again after a read timeout

A caller that takes a timeout for a pause calls the receiver again. Nothing of a
frame that the failed call had begun is kept, so the next call starts in the
middle of it. The comparison is by bytes: a packet with a body costs its frame,
and a stream that has lost a byte cannot pay for all of its packets.
-/

namespace ReadTimeouts

open Effects ByteStream Types Transport Frames
open EStateM (Result)

/-- An expired read timeout shows as either kind, depending on the platform. -/
def ReadTimeout (kind : ErrorKind) : Prop := kind = .timedOut ∨ kind = .wouldBlock

instance (kind : ErrorKind) : Decidable (ReadTimeout kind) :=
  inferInstanceAs (Decidable (_ ∨ _))

/-- The errors after which the receiver is called again. -/
def CallAgain (e : PtpIpError) : Prop := e = .timeout ∨ e = .io .wouldBlock

instance (e : PtpIpError) : Decidable (CallAgain e) :=
  inferInstanceAs (Decidable (_ ∨ _))

lemma readTimeout_callAgain {kind : ErrorKind} (h : ReadTimeout kind) :
    CallAgain (FromIo.fromIo kind) := by
  rcases h with rfl | rfl
  · exact Or.inl rfl
  · exact Or.inr rfl

lemma recvPacket_fault (kind : ErrorKind) (s : List Arrival) :
    recvPacket (.fault kind :: s) = .error (FromIo.fromIo kind) s := rfl

/-- A call that met at least one byte has used it up. -/
lemma recvPacket_byte (b : UInt8) (s : List Arrival) :
    endState (recvPacket (.byte b :: s)) <:+ s := by
  have hfirst : endState ((readExact 2 : Recv Bytes) (.byte b :: s)) <:+ s := by
    rw [endState_readExact_byte]
    exact consumes_readExact 1 s
  exact bind_leaves hfirst fun _ => consumes_bind (consumes_fromStream _) consumes_recvBody

lemma recvPacket_again_length {e : PtpIpError} {s s' : List Arrival}
    (h : recvPacket s = .error e s') (again : CallAgain e) : s'.length < s.length := by
  cases s with
  | nil =>
    cases h
    rcases again with h | h <;> cases h
  | cons a s =>
    cases a with
    | fault kind => cases h; exact Nat.lt_succ_self _
    | byte b =>
      have hsuffix := recvPacket_byte b s
      rw [h] at hsuffix
      exact Nat.lt_succ_of_le hsuffix.length_le

/-- The packets that repeated calls return, up to an error that is no timeout. -/
def received (s : List Arrival) : List PtpIpPacket :=
  match _h : recvPacket s with
  | .ok p s' => p :: received s'
  | .error e s' => if _again : CallAgain e then received s' else []
termination_by s.length
decreasing_by
  · have := recvPacket_ok_length _h
    omega
  · exact recvPacket_again_length _h _again

section received

variable {s s' : List Arrival}

lemma received_ok {p : PtpIpPacket} (h : recvPacket s = .ok p s') :
    received s = p :: received s' := by
  rw [received]
  split <;> simp_all

lemma received_again {e : PtpIpError} (h : recvPacket s = .error e s')
    (again : CallAgain e) : received s = received s' := by
  rw [received]
  split <;> simp_all

lemma received_stop {e : PtpIpError} (h : recvPacket s = .error e s')
    (stop : ¬ CallAgain e) : received s = [] := by
  rw [received]
  split <;> simp_all

end received

/-- The frames in order, with read timeouts before and after each but none inside. -/
inductive BetweenFrames : List Frame → List Arrival → Prop where
  | done : BetweenFrames [] []
  | timeout {frames : List Frame} {s : List Arrival} {kind : ErrorKind}
      (isTimeout : ReadTimeout kind) (rest : BetweenFrames frames s) :
      BetweenFrames frames (.fault kind :: s)
  | frame (f : Frame) {frames : List Frame} {s : List Arrival}
      (rest : BetweenFrames frames s) : BetweenFrames (f :: frames) (arrived f.wire ++ s)

lemma betweenFrames_arrived (frames : List Frame) :
    BetweenFrames frames (arrived (wires frames)) := by
  induction frames with
  | nil => exact .done
  | cons f frames ih =>
    rw [wires_cons, arrived_append]
    exact .frame f ih

lemma received_between {frames : List Frame} {s : List Arrival}
    (h : BetweenFrames frames s) : received s = frames.map Frame.packet := by
  induction h with
  | done => exact received_stop (e := .io .unexpectedEof) rfl (by decide)
  | timeout isTimeout _ ih =>
    rw [received_again (recvPacket_fault _ _) (readTimeout_callAgain isTimeout), ih]
  | frame f _ ih => rw [received_ok (recvPacket_frame f _), ih, List.map_cons]

/-- A response without body can be returned although its length was lost. -/
def EmptyResponse (p : PtpIpPacket) : Prop :=
  p.messageType = .responseBlock ∧ p.payload = []

/-- The size of a frame that carries the packet. -/
def cost (p : PtpIpPacket) : Nat :=
  (if p.messageType = .dataBlock ∨ p.messageType = .responseBlock then 12 else 8) +
    p.payload.length

lemma cost_packet (f : Frame) : cost f.packet = f.wire.length := by
  cases hb : f.body with
  | command | event =>
    simp [cost, Frame.packet, hb, FrameBody.messageType, FrameBody.payload, Frame.wire,
      FrameBody.wire, Frame.idBytes_length]
  | data payload | response payload =>
    simp [cost, Frame.packet, hb, FrameBody.messageType, FrameBody.payload, Frame.wire,
      FrameBody.wire, Frame.idBytes_length]
    omega

/-- The bytes behind the header: a response with a body has its length read first. -/
lemma recvBody_takes {header : PtpIpHeader} {p : PtpIpPacket} {s s' : List Arrival}
    (h : recvBody header s = .ok p s') (full : ¬ EmptyResponse p)
    (noLength : header.messageType ≠ PtpIpMessageType.dataBlock.code →
      header.payloadLength = 0) :
    ∃ bs, s = arrived bs ++ s' ∧
      cost p = (if header.messageType = PtpIpMessageType.dataBlock.code then 12 else 8) +
        bs.length := by
  obtain ⟨t, n, u, known, bodyRead, hpayload⟩ := recvBody_ok h
  obtain ⟨rfl, hsize, hs⟩ := recvPayload_ok hpayload
  have hcode : header.messageType = PtpIpMessageType.dataBlock.code ↔
      p.messageType = .dataBlock := by
    rw [receivedType_code known]
    exact PtpIpMessageType.code_injective.eq_iff
  generalize hmessageType : p.messageType = messageType at bodyRead hcode
  cases bodyRead with
  | data =>
    refine ⟨p.payload, hs, ?_⟩
    rw [cost, if_pos (Or.inl hmessageType), if_pos (hcode.mpr rfl)]
  | lengthRead hread =>
    obtain ⟨hlen, rfl⟩ := readExact_ok hread
    subst hs
    refine ⟨_ ++ p.payload, by rw [arrived_append, List.append_assoc], ?_⟩
    rw [cost, if_pos (Or.inr hmessageType), if_neg (fun heq => by cases hcode.mp heq),
      List.length_append, hlen]
    omega
  | lengthLost =>
    exact absurd ⟨hmessageType, List.length_eq_zero_iff.mp hsize⟩ full
  | bare notData notResponse =>
    have hnot : header.messageType ≠ PtpIpMessageType.dataBlock.code :=
      fun heq => notData (hcode.mp heq)
    have hempty : p.payload = [] := List.length_eq_zero_iff.mp hsize
    have hother : ¬ (p.messageType = .dataBlock ∨ p.messageType = .responseBlock) := by
      rw [hmessageType]
      rintro (h | h)
      · exact notData h
      · exact notResponse ⟨h, noLength hnot⟩
    rw [hempty] at hs
    refine ⟨[], hs, ?_⟩
    rw [cost, if_neg hother, if_neg hnot, hempty]

/-- A packet that is no empty response takes exactly its frame's size off the stream. -/
lemma recvPacket_takes {p : PtpIpPacket} {s s' : List Arrival}
    (h : recvPacket s = .ok p s') (full : ¬ EmptyResponse p) :
    ∃ bs, s = arrived bs ++ s' ∧ bs.length = cost p := by
  obtain ⟨typeBytes, t, htype, h⟩ := bind_eq_ok_iff.mp h
  obtain ⟨header, u, hheader, hbody⟩ := bind_eq_ok_iff.mp h
  obtain ⟨htypeLen, rfl⟩ := readExact_ok htype
  obtain ⟨hcode, noLength, bs, rfl, hlen⟩ := fromStream_ok hheader
  obtain ⟨cs, rfl, hcost⟩ := recvBody_takes hbody full (hcode ▸ noLength)
  refine ⟨typeBytes ++ (bs ++ cs), by simp, ?_⟩
  rw [hcode] at hcost
  rw [List.length_append, List.length_append, htypeLen, hcost]
  by_cases isData : beU16 typeBytes = PtpIpMessageType.dataBlock.code
  · rw [if_pos isData] at hlen ⊢
    omega
  · rw [if_neg isData] at hlen ⊢
    omega

/-- The bytes of a stream, without its faults. -/
def bytesOf (s : List Arrival) : Bytes :=
  s.filterMap fun
    | .byte b => some b
    | .fault _ => none

@[simp] lemma bytesOf_byte (b : UInt8) (s : List Arrival) :
    bytesOf (.byte b :: s) = b :: bytesOf s := rfl

@[simp] lemma bytesOf_arrived_append (bs : Bytes) (s : List Arrival) :
    bytesOf (arrived bs ++ s) = bs ++ bytesOf s := by
  induction bs with
  | nil => rfl
  | cons b bs ih => rw [arrived_cons, List.cons_append, bytesOf_byte, ih, List.cons_append]

lemma bytesOf_suffix {s s' : List Arrival} (h : s' <:+ s) :
    (bytesOf s').length ≤ (bytesOf s).length :=
  (h.filterMap _).length_le

/-- Every packet is paid for with the bytes of the stream. -/
lemma cost_received_le (s : List Arrival) (full : ∀ p ∈ received s, ¬ EmptyResponse p) :
    ((received s).map cost).sum ≤ (bytesOf s).length := by
  induction hn : s.length using Nat.strongRecOn generalizing s with
  | ind n ih =>
    cases h : recvPacket s with
    | ok p s' =>
      rw [received_ok h] at full ⊢
      have hshorter := recvPacket_ok_length h
      have hrest := ih s'.length (by omega) s'
        (fun q hq => full q (List.mem_cons_of_mem p hq)) rfl
      obtain ⟨bs, rfl, hlen⟩ := recvPacket_takes h (full p List.mem_cons_self)
      rw [bytesOf_arrived_append, List.length_append, hlen, List.map_cons, List.sum_cons]
      omega
    | error e s' =>
      by_cases again : CallAgain e
      · rw [received_again h again] at full ⊢
        have hrest := ih s'.length (by have := recvPacket_again_length h again; omega) s'
          full rfl
        have hsuffix := consumes_recvPacket s
        rw [h] at hsuffix
        exact Nat.le_trans hrest (bytesOf_suffix hsuffix)
      · rw [received_stop h again]
        exact Nat.zero_le _

/-- The stream carries the frames' bytes, and all that goes wrong is read timeouts. -/
structure Timed (frames : List Frame) (s : List Arrival) : Prop where
  bytes : bytesOf s = wires frames
  timeouts : ∀ kind, .fault kind ∈ s → ReadTimeout kind

lemma BetweenFrames.timed {frames : List Frame} {s : List Arrival}
    (h : BetweenFrames frames s) : Timed frames s := by
  induction h with
  | done => exact ⟨rfl, fun _ hmem => absurd hmem List.not_mem_nil⟩
  | timeout isTimeout _ ih =>
    refine ⟨ih.bytes, fun k hmem => ?_⟩
    rcases List.mem_cons.mp hmem with heq | htail
    · cases heq; exact isTimeout
    · exact ih.timeouts k htail
  | frame f _ ih =>
    refine ⟨by rw [bytesOf_arrived_append, ih.bytes, wires_cons], fun k hmem => ?_⟩
    rcases List.mem_append.mp hmem with hbyte | htail
    · simp [arrived] at hbyte
    · exact ih.timeouts k htail

lemma wires_length (frames : List Frame) :
    (wires frames).length = ((frames.map Frame.packet).map cost).sum := by
  induction frames with
  | nil => rfl
  | cons f frames ih => simp [ih, cost_packet]

/-- All packets arrive only if no call had to give up bytes. -/
lemma between_of_received {frames : List Frame} {s : List Arrival} (timed : Timed frames s)
    (full : ∀ f ∈ frames, ¬ EmptyResponse f.packet)
    (all : received s = frames.map Frame.packet) : BetweenFrames frames s := by
  induction hn : s.length using Nat.strongRecOn generalizing frames s with
  | ind n ih =>
    cases s with
    | nil =>
      cases frames with
      | nil => exact .done
      | cons f frames =>
        rw [received_stop (e := .io .unexpectedEof) rfl (by decide)] at all
        cases all
    | cons a s =>
      cases a with
      | fault kind =>
        have isTimeout := timed.timeouts kind List.mem_cons_self
        rw [received_again (recvPacket_fault kind s) (readTimeout_callAgain isTimeout)] at all
        exact .timeout isTimeout (ih s.length (by rw [← hn]; exact Nat.lt_succ_self _)
          ⟨timed.bytes, fun k hk => timed.timeouts k (List.mem_cons_of_mem _ hk)⟩ full all rfl)
      | byte b =>
        cases h : recvPacket (.byte b :: s) with
        | ok p s' =>
          cases frames with
          | nil => cases timed.bytes
          | cons f frames =>
            rw [received_ok h] at all
            obtain ⟨hp, hrest⟩ := List.cons.inj all
            have hshorter := recvPacket_ok_length h
            obtain ⟨bs, hs, hlen⟩ := recvPacket_takes h (hp ▸ full f List.mem_cons_self)
            have hbytes := timed.bytes
            rw [hs, bytesOf_arrived_append, wires_cons] at hbytes
            obtain ⟨rfl, hframes⟩ := List.append_inj hbytes (by rw [hlen, hp, cost_packet])
            rw [hs] at timed ⊢
            exact .frame f (ih s'.length (by omega)
              ⟨hframes, fun k hk => timed.timeouts k (List.mem_append_right _ hk)⟩
              (fun g hg => full g (List.mem_cons_of_mem f hg)) hrest rfl)
        | error e s' =>
          -- the byte is lost, and what is left cannot pay for all frames
          have hsuffix := recvPacket_byte b s
          rw [h] at hsuffix
          have hlost := bytesOf_suffix hsuffix
          have hlength := congrArg List.length timed.bytes
          rw [bytesOf_byte, List.length_cons, wires_length] at hlength
          by_cases again : CallAgain e
          · rw [received_again h again] at all
            have hpaid := cost_received_le s' (by rw [all]; simpa using full)
            rw [all] at hpaid
            rw [endState_error] at hlost
            omega
          · rw [received_stop h again] at all
            rw [← all] at hlength
            simp at hlength

/-- Calling the receiver again after every read timeout yields the packets of the stream
without timeouts if none falls inside a frame; and only then, where every response has
a body. -/
theorem received_despite_timeouts {frames : List Frame} {s : List Arrival}
    (timed : Timed frames s) :
    (BetweenFrames frames s → received s = received (arrived (wires frames))) ∧
    ((∀ f ∈ frames, ¬ EmptyResponse f.packet) →
      received s = received (arrived (wires frames)) → BetweenFrames frames s) := by
  rw [received_between (betweenFrames_arrived frames)]
  exact ⟨received_between, between_of_received timed⟩

/-- Two frames with timeouts before, between and after them. -/
theorem received_despite_timeouts_between :
    received (.fault .timedOut :: (arrived (Frame.wire ⟨0, 7, .event⟩) ++
      .fault .wouldBlock :: (arrived (Frame.wire ⟨0, 1, .data ⟨[5], by decide⟩⟩) ++
        [.fault .timedOut]))) =
      received (arrived (wires [⟨0, 7, .event⟩, ⟨0, 1, .data ⟨[5], by decide⟩⟩])) :=
  have between := BetweenFrames.timeout (.inl rfl) (.frame ⟨0, 7, .event⟩
    (.timeout (.inr rfl) (.frame ⟨0, 1, .data ⟨[5], by decide⟩⟩
      (.timeout (.inl rfl) .done))))
  (received_despite_timeouts between.timed).1 between

private def cutEvent : Frame := ⟨0, 7, .event⟩

/-- A timeout three bytes into an event: the event is never received. -/
theorem received_despite_timeouts_inside :
    Timed [cutEvent] (arrived (cutEvent.wire.take 3) ++
      .fault .timedOut :: arrived (cutEvent.wire.drop 3)) ∧
    received (arrived (cutEvent.wire.take 3) ++
      .fault .timedOut :: arrived (cutEvent.wire.drop 3)) ≠
        received (arrived (wires [cutEvent])) := by
  constructor
  · refine ⟨rfl, fun kind hmem => ?_⟩
    simp only [arrived, List.mem_append, List.mem_map, List.mem_cons, reduceCtorEq,
      and_false, exists_false, false_or, or_false, Arrival.fault.injEq] at hmem
    exact Or.inl hmem
  · have hfirst : recvPacket (arrived (cutEvent.wire.take 3) ++
        .fault .timedOut :: arrived (cutEvent.wire.drop 3)) =
        .error .timeout (arrived (cutEvent.wire.drop 3)) := rfl
    have hsecond : recvPacket (arrived (cutEvent.wire.drop 3)) =
        .error (.io .unexpectedEof) [] := rfl
    rw [received_again hfirst (by decide), received_stop hsecond (by decide),
      received_between (betweenFrames_arrived [cutEvent])]
    exact (List.cons_ne_nil _ _).symm

end ReadTimeouts
