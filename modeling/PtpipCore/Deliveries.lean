import PtpipCore.FrameStreams
import PtpipCore.Lib.Refinement

/-!
# Receivers of messages

What a reader meets is a list of messages, with faults of the connection between them. In these
terms a receiver takes messages until one is for it, or until it meets a fault or the end. The
receivers on bytes say the same and leave the same behind, as long as no elapsed-time check fires.
-/

namespace Deliveries

open Effects ByteStream Refinement Types Transport Frames Commands FrameStreams
open EStateM (Result)

inductive Delivery where
  | frame (f : Frame)
  | fault (kind : ErrorKind)

def Delivery.arrivals : Delivery → List Arrival
  | frame f => arrived f.wire
  | fault kind => [.fault kind]

/-- The deliveries as a reader of bytes meets them. -/
def stream (ds : List Delivery) : List Arrival := ds.flatMap Delivery.arrivals

@[simp] lemma stream_nil : stream [] = [] := rfl

@[simp] lemma stream_frame (f : Frame) (ds : List Delivery) :
    stream (.frame f :: ds) = arrived f.wire ++ stream ds := rfl

@[simp] lemma stream_fault (kind : ErrorKind) (ds : List Delivery) :
    stream (.fault kind :: ds) = .fault kind :: stream ds := rfl

lemma stream_append (ds ds' : List Delivery) : stream (ds ++ ds') = stream ds ++ stream ds' :=
  List.flatMap_append

lemma stream_frames (fs : List Frame) : stream (fs.map .frame) = arrived (wires fs) := by
  induction fs with
  | nil => rfl
  | cons f fs ih => rw [List.map_cons, stream_frame, ih, wires_cons, arrived_append]

abbrev Waits := EStateM PtpIpError (List Delivery)

/-- Messages are thrown away up to the first one that is picked. -/
def await {α : Type} (pick : Frame → Option α) : Waits α
  | [] => .error (FromIo.fromIo .unexpectedEof) []
  | .fault kind :: ds => .error (FromIo.fromIo kind) ds
  | .frame f :: ds =>
    match pick f with
    | some a => .ok a ds
    | none => await pick ds

def ofType (t : PtpIpMessageType) (f : Frame) : Option Frame :=
  if f.body.messageType = t then some f else none

def awaitType (t : PtpIpMessageType) : Waits PtpIpPacket := do
  let f ← await (ofType t)
  return f.packet

def answering (transactionId : UInt32) (f : Frame) : Option Frame :=
  if AnswersTo transactionId f then some f else none

/-- The response to a transaction decides, whatever it says. -/
def awaitResponse (transactionId : UInt32) : Waits PtpIpPacket := do
  let f ← await (answering transactionId)
  ofExcept (checkResponseError f.packet)
  return f.packet

/-- The data blocks of a transaction are put together up to the first empty one. -/
def collect (transactionId : UInt32) : Bytes → Waits Bytes
  | _, [] => .error (FromIo.fromIo .unexpectedEof) []
  | _, .fault kind :: ds => .error (FromIo.fromIo kind) ds
  | totalData, .frame f :: ds =>
    match chunkOf transactionId f with
    | none => collect transactionId totalData ds
    | some payload =>
      if payload.1 = [] then .ok totalData ds
      else collect transactionId (totalData ++ payload.1) ds

section skipping

variable {α : Type} {pick : Frame → Option α} {f : Frame} {ds : List Delivery}

lemma await_some {a : α} (h : pick f = some a) : await pick (.frame f :: ds) = .ok a ds := by
  rw [await, h]

lemma await_none (h : pick f = none) : await pick (.frame f :: ds) = await pick ds := by
  rw [await, h]

lemma collect_other {t : UInt32} (h : chunkOf t f = none) (totalData : Bytes) :
    collect t totalData (.frame f :: ds) = collect t totalData ds := by
  rw [collect, h]

lemma collect_chunk {t : UInt32} {payload : DataPayload} (h : chunkOf t f = some payload)
    (totalData : Bytes) : collect t totalData (.frame f :: ds) =
      if payload.1 = [] then .ok totalData ds else collect t (totalData ++ payload.1) ds := by
  rw [collect, h]

/-- Messages before the first one that is picked do not matter. -/
lemma await_first {a : α} {noise : List Frame} (others : ∀ g ∈ noise, pick g = none)
    (h : pick f = some a) :
    await pick (noise.map .frame ++ .frame f :: ds) = .ok a ds := by
  induction noise with
  | nil => exact await_some h
  | cons g noise ih =>
    obtain ⟨hg, hnoise⟩ := List.forall_mem_cons.mp others
    rw [List.map_cons, List.cons_append, await_none hg]
    exact ih hnoise

variable (t : PtpIpMessageType)

/-- What a receiver by type skips, up to a message that it picks or to the end of the messages. -/
inductive Skips : List Delivery → Result PtpIpError (List Delivery) Frame → Prop where
  | picked {f : Frame} {ds : List Delivery} (wanted : f.body.messageType = t) :
      Skips (.frame f :: ds) (.ok f ds)
  | ended : Skips [] (.error (FromIo.fromIo .unexpectedEof) [])
  | faulty {kind : ErrorKind} {ds : List Delivery} :
      Skips (.fault kind :: ds) (.error (FromIo.fromIo kind) ds)
  | skipped {f : Frame} {ds : List Delivery} {r : Result PtpIpError (List Delivery) Frame}
      (other : f.body.messageType ≠ t) (rest : Skips ds r) : Skips (.frame f :: ds) r

lemma await_skips (ds : List Delivery) : Skips t ds (await (ofType t) ds) := by
  induction ds with
  | nil => exact .ended
  | cons d ds ih =>
    cases d with
    | fault kind => exact .faulty
    | frame f =>
      by_cases wanted : f.body.messageType = t
      · rw [await_some (if_pos wanted)]
        exact .picked wanted
      · rw [await_none (if_neg wanted)]
        exact .skipped wanted ih

variable {t} {r : Result PtpIpError (List Delivery) Frame}

lemma Skips.length_lt {ds' : List Delivery} (skips : Skips t ds (.ok f ds')) :
    ds'.length < ds.length := by
  generalize hr : Result.ok f ds' = r at skips
  induction skips with
  | picked =>
    cases hr
    exact Nat.lt_succ_self _
  | ended => cases hr
  | faulty => cases hr
  | skipped _ _ ih => exact Nat.lt_succ_of_lt (ih hr)

/-- Whoever only picks messages of the type sees nothing of what was skipped. -/
lemma Skips.await_eq (skips : Skips t ds r)
    (others : ∀ f, f.body.messageType ≠ t → pick f = none) :
    (∀ f ds', r = .ok f ds' →
      f.body.messageType = t ∧ await pick ds = await pick (.frame f :: ds')) ∧
      ∀ e ds', r = .error e ds' → await pick ds = .error e ds' := by
  induction skips with
  | picked wanted =>
    refine ⟨fun f ds' h => ?_, fun e ds' h => by cases h⟩
    cases h
    exact ⟨wanted, rfl⟩
  | ended =>
    refine ⟨fun f ds' h => (by cases h), fun e ds' h => ?_⟩
    cases h
    rfl
  | faulty =>
    refine ⟨fun f ds' h => (by cases h), fun e ds' h => ?_⟩
    cases h
    rfl
  | skipped other _ ih =>
    rw [await_none (others _ other)]
    exact ih

lemma Skips.collect_eq (skips : Skips .dataBlock ds r) (t : UInt32) (totalData : Bytes) :
    (∀ f ds', r = .ok f ds' → f.body.messageType = .dataBlock ∧
      collect t totalData ds = collect t totalData (.frame f :: ds')) ∧
      ∀ e ds', r = .error e ds' → collect t totalData ds = .error e ds' := by
  induction skips with
  | picked wanted =>
    refine ⟨fun f ds' h => ?_, fun e ds' h => by cases h⟩
    cases h
    exact ⟨wanted, rfl⟩
  | ended =>
    refine ⟨fun f ds' h => (by cases h), fun e ds' h => ?_⟩
    cases h
    rfl
  | faulty =>
    refine ⟨fun f ds' h => (by cases h), fun e ds' h => ?_⟩
    cases h
    rfl
  | skipped other _ ih =>
    rw [collect_other (chunkOf_other other)]
    exact ih

end skipping

section receivers

/-- A stream that carries these deliveries, and a clock by which all of them come in time. -/
def Carries (config : SessionConfig) (s : Incoming) (ds : List Delivery) : Prop :=
  s.arrivals = stream ds ∧ OnTime config s.clocks

variable (config : SessionConfig)

lemma recvPacket_fault (kind : ErrorKind) (s : List Arrival) :
    recvPacket (.fault kind :: s) = .error (FromIo.fromIo kind) s := rfl

lemma recvPacket_ended : recvPacket [] = .error (FromIo.fromIo .unexpectedEof) [] := rfl

variable {config}

/-- The turns of the filter are the messages that are skipped. -/
lemma filter_related (t : PtpIpMessageType) {clock : Nat → Nat}
    (onTime : ∀ i, clock i - clock 0 ≤ config.timeout * 1000000000) (ds : List Delivery)
    (turn : Nat) : Related (fun s ds => s = stream ds)
      (loop (filterTurn_shrinks clock (some t) config) turn (stream ds)) (awaitType t ds) := by
  induction ds generalizing turn with
  | nil =>
    rw [stream_nil, loop_error (filterTurnOf_failed (onTime _) recvPacket_ended)]
    exact .error _ rfl
  | cons d ds ih =>
    cases d with
    | fault kind =>
      rw [stream_fault, loop_error (filterTurnOf_failed (onTime _) (recvPacket_fault kind _))]
      exact .error _ rfl
    | frame f =>
      have hturn := filterTurn_frame (t := t) (onTime (turn + 1)) f (stream ds)
      by_cases wanted : f.body.messageType = t
      · rw [if_pos wanted] at hturn
        have hpick : await (ofType t) (.frame f :: ds) = .ok f ds := await_some (if_pos wanted)
        rw [stream_frame, loop_break hturn, awaitType, bind_ok hpick]
        exact .ok _ rfl
      · rw [if_neg wanted] at hturn
        have hskip : awaitType t (.frame f :: ds) = awaitType t ds := by
          change EStateM.bind _ _ _ = EStateM.bind _ _ _
          unfold EStateM.bind
          rw [await_none (if_neg wanted)]
        rw [stream_frame, loop_continue hturn, hskip]
        exact ih (turn + 1)

theorem recvPacketFiltered_simulates (t : PtpIpMessageType) :
    Simulates (Carries config) (recvPacketFiltered (some t) config) (awaitType t) := by
  rintro ⟨arrivals, clocks⟩ ds ⟨rfl, onTime⟩
  have hfilter := filter_related t (onTime 0) ds 0
  unfold recvPacketFiltered
  dsimp only
  cases hloop : loop (filterTurn_shrinks (clocks 0) (some t) config) 0 (stream ds) with
  | ok p s =>
    rw [hloop] at hfilter
    obtain ⟨ds', hawait, rfl⟩ := hfilter.ok_left
    rw [hawait]
    exact .ok p ⟨rfl, onTime.later⟩
  | error e s =>
    rw [hloop] at hfilter
    obtain ⟨ds', hawait, rfl⟩ := hfilter.error_left
    rw [hawait]
    exact .error e ⟨rfl, onTime.later⟩

/-- What the filter returns is what the wait for the type picks. -/
lemma filtered_cases (t : PtpIpMessageType) {s : Incoming} {ds : List Delivery}
    (states : Carries config s ds) :
    (∃ f ds' s', await (ofType t) ds = .ok f ds' ∧ Carries config s' ds' ∧
      recvPacketFiltered (some t) config s = .ok f.packet s') ∨
    ∃ e ds' s', await (ofType t) ds = .error e ds' ∧ Carries config s' ds' ∧
      recvPacketFiltered (some t) config s = .error e s' := by
  have hrecv := recvPacketFiltered_simulates t s ds states
  unfold awaitType at hrecv
  cases hawait : await (ofType t) ds with
  | ok f ds' =>
    rw [bind_ok hawait] at hrecv
    obtain ⟨s', hfilter, states'⟩ := hrecv.ok_right
    exact Or.inl ⟨f, ds', s', rfl, states', hfilter⟩
  | error e ds' =>
    rw [bind_error hawait] at hrecv
    obtain ⟨s', hfilter, states'⟩ := hrecv.error_right
    exact Or.inr ⟨e, ds', s', rfl, states', hfilter⟩

theorem getResponse_simulates (transactionId : UInt32) :
    Simulates (Carries config) (getResponse transactionId config)
      (awaitResponse transactionId) := by
  intro s ds states
  induction hn : ds.length using Nat.strongRecOn generalizing s ds with
  | ind n ih =>
    have skips := await_skips .responseBlock ds
    have others : ∀ f : Frame, f.body.messageType ≠ .responseBlock →
        answering transactionId f = none := fun f other => if_neg fun answers => other answers.1
    rcases filtered_cases .responseBlock states with ⟨f, ds', s', hawait, states', hfilter⟩ |
      ⟨e, ds', s', hawait, states', hfilter⟩
    · rw [hawait] at skips
      obtain ⟨wanted, hskip⟩ := (skips.await_eq others).1 f ds' rfl
      by_cases own : f.transactionId = transactionId
      · have hpick : await (answering transactionId) ds = .ok f ds' :=
          hskip.trans (await_some (if_pos ⟨wanted, own⟩))
        rw [getResponse_own hfilter own, judged, awaitResponse, bind_ok hpick]
        cases checkResponseError f.packet with
        | ok _ => exact .ok _ states'
        | error e => exact .error e states'
      · have hpick : await (answering transactionId) ds = await (answering transactionId) ds' :=
          hskip.trans (await_none (if_neg fun answers => own answers.2))
        have hrest : awaitResponse transactionId ds = awaitResponse transactionId ds' := by
          change EStateM.bind _ _ _ = EStateM.bind _ _ _
          unfold EStateM.bind
          rw [hpick]
        rw [hrest, getResponse, loop_continue (getResponseTurn_foreign hfilter own)]
        exact ih ds'.length (hn ▸ skips.length_lt) s' ds' states' rfl
    · rw [hawait] at skips
      have hpick := (skips.await_eq others).2 e ds' rfl
      have hturn : getResponseTurn transactionId config () s = .error e s' := bind_error hfilter
      rw [getResponse, loop_error hturn, awaitResponse, bind_error hpick]
      exact .error e states'

/-- Blocks of the transaction that are already there are put before those to come. -/
lemma collect_related (transactionId : UInt32) {s : Incoming} {ds : List Delivery}
    (states : Carries config s ds) (totalData : Bytes) :
    Related (Carries config)
      (loop (receiveDataBlockTurn_shrinks transactionId config) totalData s)
      (collect transactionId totalData ds) := by
  induction hn : ds.length using Nat.strongRecOn generalizing s ds totalData with
  | ind n ih =>
    have skips := await_skips .dataBlock ds
    rcases filtered_cases .dataBlock states with ⟨f, ds', s', hawait, states', hfilter⟩ |
      ⟨e, ds', s', hawait, states', hfilter⟩
    · rw [hawait] at skips
      have shorter : ds'.length < n := hn ▸ skips.length_lt
      obtain ⟨wanted, hskip⟩ := (skips.collect_eq transactionId totalData).1 f ds' rfl
      obtain ⟨payload, -, hpacket, hchunk⟩ := chunkOf_data (t := transactionId) wanted
      have hturn := receiveDataBlockTurn_recv (t := transactionId) totalData hfilter
      rw [hpacket] at hturn
      rw [hskip]
      by_cases own : f.transactionId = transactionId
      · rw [if_neg (not_not_intro own)] at hturn
        rw [if_pos own] at hchunk
        rw [collect_chunk hchunk]
        by_cases empty : payload.1 = []
        · rw [if_pos empty] at hturn
          rw [loop_break hturn, if_pos empty]
          exact .ok totalData states'
        · rw [if_neg empty] at hturn
          rw [loop_continue hturn, if_neg empty]
          exact ih _ shorter states' (totalData ++ payload.1) rfl
      · rw [if_pos own] at hturn
        rw [if_neg own] at hchunk
        rw [loop_continue hturn, collect_other hchunk]
        exact ih _ shorter states' totalData rfl
    · rw [hawait] at skips
      have hturn : receiveDataBlockTurn transactionId config totalData s = .error e s' :=
        bind_error hfilter
      rw [loop_error hturn, (skips.collect_eq transactionId totalData).2 e ds' rfl]
      exact .error e states'

theorem receiveDataBlock_simulates (transactionId : UInt32) :
    Simulates (Carries config) (receiveDataBlock transactionId config)
      (collect transactionId []) :=
  fun _ _ states => collect_related transactionId states []

end receivers

end Deliveries
