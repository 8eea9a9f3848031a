import PtpipCore.Commands
import PtpipCore.FrameRoundTrip
import PtpipCore.Lib.FrontReaders

/-!
# Filtering receivers on a stream of frames

A receiver that filters by type and then by transaction id takes frames off the
stream in order and stops behind the one it was waiting for, whatever stood in
between. The frames are complete; what follows the last one is arbitrary.
-/

namespace FrameStreams

open Effects ByteStream FrontReaders Types Transport Frames FrameRoundTrip Commands
open EStateM (Result)

/-- No elapsed-time check of any filtered receive fires. -/
def OnTime (config : SessionConfig) (clocks : Nat → Nat → Nat) : Prop :=
  ∀ n i, clocks n i - clocks n 0 ≤ config.timeout * 1000000000

/-- The clock after one filtered receive. -/
abbrev later (clocks : Nat → Nat → Nat) : Nat → Nat → Nat := fun n => clocks (n + 1)

lemma OnTime.later {config : SessionConfig} {clocks : Nat → Nat → Nat}
    (h : OnTime config clocks) : OnTime config (later clocks) := fun n => h (n + 1)

section filtered

variable {config : SessionConfig} {t : PtpIpMessageType}

lemma filterTurn_frame {clock : Nat → Nat} {turn : Nat}
    (onTime : clock (turn + 1) - clock 0 ≤ config.timeout * 1000000000)
    (f : Frame) (s : List Arrival) :
    filterTurn clock (some t) config turn (arrived f.wire ++ s) =
      .ok (if f.body.messageType = t then .inr f.packet else .inl (turn + 1)) s :=
  filterTurnOf_received onTime (recvPacket_frame f s)

/-- Frames of other types are skipped, the first one of the type is returned. -/
lemma recvPacketFiltered_first {clocks : Nat → Nat → Nat} (onTime : OnTime config clocks)
    {skipped : List Frame} (others : ∀ g ∈ skipped, g.body.messageType ≠ t)
    {f : Frame} (wanted : f.body.messageType = t) (s : List Arrival) :
    recvPacketFiltered (some t) config ⟨arrived (wires skipped ++ f.wire) ++ s, clocks⟩ =
      .ok f.packet ⟨s, later clocks⟩ := by
  have scan : ∀ turn, loop (filterTurn_shrinks (clocks 0) (some t) config) turn
      (arrived (wires skipped ++ f.wire) ++ s) = .ok f.packet s := by
    induction skipped with
    | nil =>
      intro turn
      apply loop_break
      rw [wires_nil, List.nil_append, filterTurn_frame (onTime 0 (turn + 1)),
        if_pos wanted]
    | cons g gs ih =>
      intro turn
      have hturn := filterTurn_frame (t := t) (onTime 0 (turn + 1)) g
        (arrived (wires gs ++ f.wire) ++ s)
      rw [if_neg (others g List.mem_cons_self)] at hturn
      rw [wires_cons, List.append_assoc, arrived_append, List.append_assoc,
        loop_continue hturn]
      exact ih (fun h hmem => others h (List.mem_cons_of_mem g hmem)) (turn + 1)
  unfold recvPacketFiltered
  simp only [scan 0]

/-- Either no frame has the type, or there is a first one that has it. -/
lemma first_of_type (t : PtpIpMessageType) (fs : List Frame) :
    (∀ g ∈ fs, g.body.messageType ≠ t) ∨
    ∃ skipped f rest, fs = skipped ++ f :: rest ∧ f.body.messageType = t ∧
      ∀ g ∈ skipped, g.body.messageType ≠ t := by
  cases h : fs.find? (fun g => g.body.messageType = t) with
  | none =>
    left
    simpa using List.find?_eq_none.mp h
  | some f =>
    right
    obtain ⟨hf, skipped, rest, hfs, hskipped⟩ := List.find?_eq_some_iff_append.mp h
    exact ⟨skipped, f, rest, hfs, by simpa using hf, by simpa using hskipped⟩

/-- Frames that are skipped together with the first one of the type, split off. -/
lemma wires_split (skipped : List Frame) (f : Frame) (rest : List Frame) (bs : Bytes)
    (s : List Arrival) :
    arrived (wires (skipped ++ f :: rest) ++ bs) ++ s =
      arrived (wires skipped ++ f.wire) ++ (arrived (wires rest ++ bs) ++ s) := by
  simp [List.append_assoc]

end filtered

section response

variable {config : SessionConfig} {t : UInt32}

/-- The frame is a response to the transaction. -/
def AnswersTo (t : UInt32) (f : Frame) : Prop :=
  f.body.messageType = .responseBlock ∧ f.transactionId = t

instance (t : UInt32) (f : Frame) : Decidable (AnswersTo t f) :=
  inferInstanceAs (Decidable (_ ∧ _))

/-- The outcome of a response, read off its packet. -/
def judged (p : PtpIpPacket) (s : Incoming) : Result PtpIpError Incoming PtpIpPacket :=
  match checkResponseError p with
  | .ok _ => .ok p s
  | .error e => .error e s

lemma getResponseTurn_foreign {s s' : Incoming} {p : PtpIpPacket}
    (h : recvPacketFiltered (some .responseBlock) config s = .ok p s')
    (foreign : p.transactionId ≠ t) :
    getResponseTurn t config () s = .ok (.inl ()) s' :=
  (bind_ok h).trans (by rw [takeResponse_foreign foreign]; rfl)

lemma getResponse_own {s s' : Incoming} {p : PtpIpPacket}
    (h : recvPacketFiltered (some .responseBlock) config s = .ok p s')
    (own : p.transactionId = t) : getResponse t config s = judged p s' := by
  have hturn : getResponseTurn t config () s = (ofExcept (do
      checkResponseError p
      return .inr p) : Recvs (Unit ⊕ PtpIpPacket)) s' := by
    rw [← takeResponse_own own]
    exact bind_ok h
  unfold judged
  cases hcheck : checkResponseError p with
  | ok _ =>
    rw [hcheck] at hturn
    exact loop_break hturn
  | error e =>
    rw [hcheck] at hturn
    exact loop_error hturn

/-- The receiver stops behind the first response with its id, and judges that one only. -/
lemma getResponse_judges {clocks : Nat → Nat → Nat} (onTime : OnTime config clocks)
    {noise : List Frame} (foreign : ∀ g ∈ noise, ¬ AnswersTo t g)
    {f : Frame} (answers : AnswersTo t f) (s : List Arrival) :
    ∃ clocks', getResponse t config ⟨arrived (wires noise ++ f.wire) ++ s, clocks⟩ =
      judged f.packet ⟨s, clocks'⟩ := by
  induction hn : noise.length using Nat.strongRecOn generalizing noise clocks with
  | ind n ih =>
    rcases first_of_type .responseBlock noise with none | ⟨skipped, g, rest, rfl, hg, hskipped⟩
    · exact ⟨later clocks, getResponse_own
        (recvPacketFiltered_first onTime none answers.1 s) answers.2⟩
    · have hid : g.packet.transactionId ≠ t := fun h =>
        foreign g (by simp) ⟨hg, h⟩
      have foreignRest : ∀ h ∈ rest, ¬ AnswersTo t h := fun h hmem => foreign h (by simp [hmem])
      obtain ⟨clocks', hrest⟩ := ih rest.length (by rw [← hn]; simp; omega) onTime.later
        foreignRest rfl
      refine ⟨clocks', ?_⟩
      rw [wires_split, getResponse, loop_continue (getResponseTurn_foreign
        (recvPacketFiltered_first onTime hskipped hg _) hid)]
      exact hrest

/-- Bytes 2..4 of a response body. -/
def responseCode (body : Bytes) : UInt16 := beU16 ((body.drop 2).take 2)

lemma checkResponseError_short {p : PtpIpPacket} (short : p.payload.length < 8) :
    checkResponseError p = .error (.protocolError "Insufficient response packet length") :=
  if_pos short

lemma checkResponseError_long {p : PtpIpPacket} (long : 8 ≤ p.payload.length) :
    checkResponseError p = if responseCode p.payload = PtpOperationCode.ok.code then .ok ()
      else .error (.deviceError (responseCode p.payload).toUInt32
        (errorMessage (responseCode p.payload))) := by
  have inside : 2 ≤ (p.payload.drop 2).length := by
    rw [List.length_drop]
    omega
  have hread := (readsFront_readU16Be (ε := PtpIpError)).enough _ inside
  unfold checkResponseError
  rw [if_neg (by omega), hread, answer_ok]
  by_cases h : responseCode p.payload = PtpOperationCode.ok.code
  · rw [if_pos h]
    exact if_neg (not_not_intro h)
  · rw [if_neg h]
    exact if_pos h

/-- Response correlation: everything up to the first response with the expected id is
taken off the stream, and only that response decides the outcome. -/
theorem get_response_correlates (t : UInt32) (config : SessionConfig)
    {clocks : Nat → Nat → Nat} (onTime : OnTime config clocks)
    {noise : List Frame} (foreign : ∀ g ∈ noise, ¬ AnswersTo t g)
    (reserved : UInt16) (b : ResponseBody) (tail : List Arrival) :
    let r := getResponse t config
      ⟨arrived (wires noise ++ Frame.wire ⟨reserved, t, .response b⟩) ++ tail, clocks⟩
    (endState r).arrivals = tail ∧
    (8 ≤ b.1.length → responseCode b.1 = 0x2001 →
      answer r = .ok ⟨.responseBlock, t, b.1⟩) ∧
    (8 ≤ b.1.length → responseCode b.1 ≠ 0x2001 → ∃ message,
      answer r = .error (.deviceError (responseCode b.1).toUInt32 message)) ∧
    (b.1.length < 8 → ∃ message, answer r = .error (.protocolError message)) := by
  let f : Frame := ⟨reserved, t, .response b⟩
  obtain ⟨clocks', hr⟩ := getResponse_judges onTime foreign (f := f) ⟨rfl, rfl⟩ tail
  dsimp only
  rw [hr, judged]
  refine ⟨?_, ?_, ?_, ?_⟩
  · cases checkResponseError f.packet <;> rfl
  · intro long isOk
    rw [checkResponseError_long (p := f.packet) long]
    rw [if_pos (show responseCode f.packet.payload = PtpOperationCode.ok.code from isOk)]
    rfl
  · intro long notOk
    rw [checkResponseError_long (p := f.packet) long]
    rw [if_neg (show ¬ responseCode f.packet.payload = PtpOperationCode.ok.code from notOk)]
    exact ⟨_, rfl⟩
  · intro short
    rw [checkResponseError_short (p := f.packet) short]
    exact ⟨_, rfl⟩

/-- A refusal of another transaction goes by, the answer to this one is returned. -/
theorem get_response_correlates_refusal :
    answer (getResponse 1 ⟨30, 3⟩
      ⟨arrived (wires [⟨0, 2, .response ⟨[0, 0, 0x20, 0x02, 0, 0, 0, 0], by decide⟩⟩] ++
        Frame.wire ⟨0, 1, .response ⟨[0, 0, 0x20, 0x01, 0, 0, 0, 0], by decide⟩⟩) ++ [],
        fun _ _ => 0⟩) = .ok ⟨.responseBlock, 1, [0, 0, 0x20, 0x01, 0, 0, 0, 0]⟩ :=
  have onTime : OnTime ⟨30, 3⟩ (fun _ _ => 0) := fun _ _ => Nat.zero_le _
  have foreign : ∀ g ∈ [Frame.mk 0 2 (.response ⟨[0, 0, 0x20, 0x02, 0, 0, 0, 0], by decide⟩)],
    ¬ AnswersTo 1 g := by decide
  (get_response_correlates 1 ⟨30, 3⟩ onTime foreign 0
    ⟨[0, 0, 0x20, 0x01, 0, 0, 0, 0], by decide⟩ []).2.1 (by decide) (by decide)

end response

section data

variable {config : SessionConfig} {t : UInt32}

/-- The payload of a data block of the transaction. -/
def chunkOf (t : UInt32) (f : Frame) : Option DataPayload :=
  match f.body with
  | .data payload => if f.transactionId = t then some payload else none
  | _ => none

lemma chunkOf_other {f : Frame} (h : f.body.messageType ≠ .dataBlock) :
    chunkOf t f = none := by
  unfold chunkOf
  cases hb : f.body with
  | data payload => exact False.elim (h (by rw [hb]; rfl))
  | command | response | event => rfl

lemma chunkOf_data {f : Frame} (h : f.body.messageType = .dataBlock) :
    ∃ payload, f.body = .data payload ∧ f.packet = ⟨.dataBlock, f.transactionId, payload.1⟩ ∧
      chunkOf t f = if f.transactionId = t then some payload else none := by
  cases hb : f.body with
  | data payload => exact ⟨payload, rfl, by simp [Frame.packet, hb]; exact ⟨rfl, rfl⟩,
      by simp only [chunkOf, hb]⟩
  | command | response | event => rw [hb] at h; cases h

/-- One turn of the collecting loop, by the packet that the filter returned. -/
lemma receiveDataBlockTurn_recv {s s' : Incoming} {p : PtpIpPacket} (acc : Bytes)
    (h : recvPacketFiltered (some .dataBlock) config s = .ok p s') :
    receiveDataBlockTurn t config acc s = .ok (if p.transactionId ≠ t then .inl acc
      else if p.payload = [] then .inr acc else .inl (acc ++ p.payload)) s' := by
  unfold receiveDataBlockTurn
  rw [bind_ok h]
  by_cases hid : p.transactionId = t
  · by_cases hp : p.payload = [] <;> simp [hid, hp] <;> rfl
  · simp [hid]
    rfl

/-- Collecting goes on from what is already there, through frames whose own chunks are
not empty, up to the end marker. -/
lemma receiveDataBlock_collects {clocks : Nat → Nat → Nat} (onTime : OnTime config clocks)
    {frames : List Frame} (nonempty : ∀ c ∈ frames.filterMap (chunkOf t), c.1 ≠ [])
    {marker : Frame} (isData : marker.body.messageType = .dataBlock)
    (own : marker.packet.transactionId = t) (empty : marker.packet.payload = [])
    (acc : Bytes) (s : List Arrival) :
    ∃ clocks', OnTime config clocks' ∧ loop (receiveDataBlockTurn_shrinks t config) acc
        ⟨arrived (wires frames ++ marker.wire) ++ s, clocks⟩ =
      .ok (acc ++ (frames.filterMap (chunkOf t)).flatMap Subtype.val) ⟨s, clocks'⟩ := by
  induction hn : frames.length using Nat.strongRecOn generalizing frames clocks acc with
  | ind n ih =>
    rcases first_of_type .dataBlock frames with none | ⟨skipped, g, rest, rfl, hg, hskipped⟩
    · have hturn := receiveDataBlockTurn_recv (t := t) acc
        (recvPacketFiltered_first onTime none isData s)
      rw [if_neg (not_not_intro own), if_pos empty] at hturn
      have hchunks : frames.filterMap (chunkOf t) = [] :=
        List.filterMap_eq_nil_iff.mpr (fun h hmem => chunkOf_other (none h hmem))
      refine ⟨later clocks, onTime.later, ?_⟩
      rw [loop_break hturn, hchunks]
      simp
    · have hturn := receiveDataBlockTurn_recv (t := t) acc
        (recvPacketFiltered_first onTime hskipped hg (arrived (wires rest ++ marker.wire) ++ s))
      have hchunks : skipped.filterMap (chunkOf t) = [] :=
        List.filterMap_eq_nil_iff.mpr (fun h hmem => chunkOf_other (hskipped h hmem))
      obtain ⟨payload, hbody, hpacket, hchunk⟩ := chunkOf_data (t := t) hg
      have hlen : rest.length < n := by rw [← hn]; simp; omega
      simp only [List.filterMap_append, hchunks, List.nil_append, List.filterMap_cons,
        hchunk] at nonempty ⊢
      rw [hpacket] at hturn
      rw [wires_split]
      by_cases hid : g.transactionId = t
      · simp only [hid, if_true, List.mem_cons, forall_eq_or_imp] at nonempty ⊢
        simp only [hid, ne_eq, not_true, if_false, nonempty.1] at hturn
        obtain ⟨clocks', onTime', hrest⟩ := ih rest.length hlen onTime.later nonempty.2
          (acc ++ payload.1) rfl
        refine ⟨clocks', onTime', ?_⟩
        rw [loop_continue hturn, hrest]
        simp
      · simp only [hid, if_false] at nonempty ⊢
        simp only [hid, ne_eq, not_false_eq_true, if_true] at hturn
        obtain ⟨clocks', onTime', hrest⟩ := ih rest.length hlen onTime.later nonempty acc rfl
        refine ⟨clocks', onTime', ?_⟩
        rw [loop_continue hturn, hrest]

/-- Collecting stops behind the first empty block of the transaction. -/
lemma receiveDataBlock_chunks {clocks : Nat → Nat → Nat} (onTime : OnTime config clocks)
    {frames : List Frame} (nonempty : ∀ c ∈ frames.filterMap (chunkOf t), c.1 ≠ [])
    (tail : List Arrival) :
    ∃ clocks', OnTime config clocks' ∧ receiveDataBlock t config
        ⟨arrived (wires frames ++ sent ⟨.dataBlock, t, []⟩) ++ tail, clocks⟩ =
      .ok ((frames.filterMap (chunkOf t)).flatMap Subtype.val) ⟨tail, clocks'⟩ := by
  let p : PtpIpPacket := ⟨.dataBlock, t, []⟩
  have hmarker : sent p = (sentFrame p (.data ⟨[], Nat.two_pow_pos 32⟩)).wire :=
    (sent_eq p).trans (encoding_data (p := p) rfl (Nat.two_pow_pos 32))
  have isData : (sentFrame p (.data ⟨[], Nat.two_pow_pos 32⟩)).body.messageType =
      .dataBlock := rfl
  rw [hmarker]
  exact receiveDataBlock_collects onTime nonempty isData rfl rfl [] tail

/-- Chunk reassembly: the frames hold the chunks of the transaction in order and any
foreign frames between them. The bytes of a chunk's frame with a zero reserved field
are those that `send_packet` writes for it, by `encoding_data`. -/
theorem receive_data_block_reassembles (t : UInt32) (config : SessionConfig)
    {clocks : Nat → Nat → Nat} (onTime : OnTime config clocks)
    {chunks : List DataPayload} (nonempty : ∀ c ∈ chunks, c.1 ≠ [])
    {frames : List Frame} (interleaved : frames.filterMap (chunkOf t) = chunks)
    (tail : List Arrival) :
    let r := receiveDataBlock t config
      ⟨arrived (wires frames ++ sent ⟨.dataBlock, t, []⟩) ++ tail, clocks⟩
    answer r = .ok (chunks.flatMap Subtype.val) ∧ (endState r).arrivals = tail := by
  subst interleaved
  obtain ⟨clocks', -, hr⟩ := receiveDataBlock_chunks onTime nonempty tail
  dsimp only
  rw [hr]
  exact ⟨rfl, rfl⟩

/-- Two chunks with an empty block of another transaction and a refusal between them. -/
theorem receive_data_block_reassembles_two :
    answer (receiveDataBlock 1 ⟨30, 3⟩
      ⟨arrived (wires [⟨0, 1, .data ⟨[10, 11], by decide⟩⟩, ⟨0, 2, .data ⟨[], by decide⟩⟩,
        ⟨0, 1, .response ⟨[0, 0, 0x20, 0x02], by decide⟩⟩, ⟨0, 1, .data ⟨[12], by decide⟩⟩,
        ⟨0, 1, .event⟩] ++ sent ⟨.dataBlock, 1, []⟩) ++ [], fun _ _ => 0⟩) =
      .ok [10, 11, 12] :=
  have onTime : OnTime ⟨30, 3⟩ (fun _ _ => 0) := fun _ _ => Nat.zero_le _
  have nonempty : ∀ c ∈ ([⟨[10, 11], by decide⟩, ⟨[12], by decide⟩] : List DataPayload),
    c.1 ≠ [] := by decide
  (receive_data_block_reassembles 1 ⟨30, 3⟩ onTime nonempty rfl []).1

end data

end FrameStreams
