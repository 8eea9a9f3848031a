import PtpipCore.Conversations
import PtpipCore.DownloadOutcome

/-!
# A photo over the wire

A download on a connection: the object's size is asked for, then its chunks, each under a
transaction id of its own. On the way data blocks may be cut anyhow, other messages may come
between them and faults may end an attempt; blocks of an attempt that was given up come too late
and are thrown away.
-/

namespace PhotoDownload

open Effects ByteStream Refinement Retries FileActions Types Resume ResumePlan Transport Frames
open FrameRoundTrip Commands FrameStreams PartialObject Responses CameraClient Deliveries
open Conversations Download DownloadRun DownloadTurns ChunkAnswers DownloadOutcome
open Download.Job
open EStateM (Result)

section client

variable (platform : Platform) (config : SessionConfig) (objectHandle : UInt32) (savePath : Path)
  (downloadConfig : ChunkDownloadConfig)

/-- The download of an object over a connection. -/
def wireJob : Job Connection where
  platform := platform
  getPartialObject := getPartialObject config
  objectHandle := objectHandle
  savePath := savePath
  sessionConfig := config
  downloadConfig := downloadConfig

/-- The duration, which is taken from a clock at the end, is not among the statistics. -/
def downloadPhoto (turns : Nat) (files : FileSystem Path) (c : Connection) :
    Result Failure (World Connection) (Option DownloadStats) :=
  match CameraClient.getObjectInfo platform config objectHandle c with
  | .error e c => .error e (World.start files c 0)
  | .ok objectInfo c =>
    match ((wireJob platform config objectHandle savePath downloadConfig).downloadObjectWithResume
      turns).run (World.start files c objectInfo.objectSize) with
    | .error e w => .error (.error e) w
    | .ok ended w => .ok (ended.map fun _ => w.stats) w

end client

section line

def partialCommand (objectHandle : UInt32) (offset : UInt64) (length transactionId : UInt32) :
    PtpIpPacket :=
  command .getPartialObject transactionId (partialObjectParams objectHandle offset length)

/-- A chunk request on the level of messages. -/
def Line.getPartialObject (objectHandle : UInt32) (offset : UInt64) (length : UInt32) :
    EStateM PtpIpError Line Bytes := do
  let transactionId ← Line.nextId
  Line.send (partialCommand objectHandle offset length transactionId)
  Line.deliveriesPart.run (collect transactionId [])

lemma getPartialObject_simulates (config : SessionConfig) (before : Bytes) (objectHandle : UInt32)
    (offset : UInt64) (length : UInt32) :
    Simulates (Conveys config before)
      (PartialObject.getPartialObject config objectHandle offset length)
      (Line.getPartialObject objectHandle offset length) := by
  refine simulates_bind nextId_simulates fun transactionId => ?_
  refine simulates_bind (send_simulates .getPartialObject transactionId ?_) fun _ => ?_
  · simp [partialObjectParams]
  · exact receive_simulates (receiveDataBlock_simulates transactionId)

end line

section serving

/-- What the camera sends for one chunk: for every attempt that fails the messages before the
fault, and then the messages before the end of the data, with the reserved field of that end. -/
structure Serving where
  failures : List (List Frame × ErrorKind)
  frames : List Frame
  reserved : UInt16

def endOfData (reserved : UInt16) (transactionId : UInt32) : Frame :=
  ⟨reserved, transactionId, .data ⟨[], Nat.two_pow_pos 32⟩⟩

/-- The data of the transaction is not ended by these messages. -/
def Unended (transactionId : UInt32) (frames : List Frame) : Prop :=
  ∀ payload ∈ frames.filterMap (chunkOf transactionId), payload.1 ≠ []

/-- What the attempts get that fail, the first of them under the first id. -/
def failureDeliveries : List (List Frame × ErrorKind) → List Delivery
  | [] => []
  | (frames, kind) :: rest => frames.map .frame ++ .fault kind :: failureDeliveries rest

def AllUnended (ids : Nat → UInt32) : List (List Frame × ErrorKind) → Prop
  | [] => True
  | (frames, _) :: rest => Unended (ids 0) frames ∧ AllUnended (fun n => ids (n + 1)) rest

def Serving.deliveries (s : Serving) (ids : Nat → UInt32) : List Delivery :=
  failureDeliveries s.failures ++ (s.frames.map .frame ++
    [.frame (endOfData s.reserved (ids s.failures.length))])

/-- The bytes are served within the retries; the attempt that is answered gets them in blocks of
its own transaction. -/
structure Serving.Serves (s : Serving) (ids : Nat → UInt32) (maxRetries : Nat) (bytes : Bytes) :
    Prop where
  within : s.failures.length ≤ maxRetries
  failures : AllUnended ids s.failures
  unended : Unended (ids s.failures.length) s.frames
  bytes : (s.frames.filterMap (chunkOf (ids s.failures.length))).flatMap Subtype.val = bytes

/-- The request of every attempt, each under its own id. -/
def requests (packet : UInt32 → PtpIpPacket) (ids : Nat → UInt32) (n : Nat) : List PtpIpPacket :=
  (List.range n).map fun i => packet (ids i)

variable {transactionId : UInt32} {frames : List Frame}

lemma collect_unended (unended : Unended transactionId frames) (totalData : Bytes)
    (ds : List Delivery) : collect transactionId totalData (frames.map .frame ++ ds) =
      collect transactionId
        (totalData ++ (frames.filterMap (chunkOf transactionId)).flatMap Subtype.val) ds := by
  induction frames generalizing totalData with
  | nil => rw [List.filterMap_nil, List.flatMap_nil, List.append_nil]; rfl
  | cons f frames ih =>
    unfold Unended at unended
    rw [List.map_cons, List.cons_append]
    cases hchunk : chunkOf transactionId f with
    | none =>
      rw [List.filterMap_cons_none hchunk] at unended ⊢
      rw [collect_other hchunk]
      exact ih unended totalData
    | some payload =>
      rw [List.filterMap_cons_some hchunk] at unended ⊢
      obtain ⟨nonempty, unended⟩ := List.forall_mem_cons.mp unended
      rw [collect_chunk hchunk, if_neg nonempty, List.flatMap_cons, ← List.append_assoc]
      exact ih unended (totalData ++ payload.1)

lemma collect_ended (unended : Unended transactionId frames) (reserved : UInt16)
    (ds : List Delivery) : collect transactionId []
      (frames.map .frame ++ .frame (endOfData reserved transactionId) :: ds) =
        .ok ((frames.filterMap (chunkOf transactionId)).flatMap Subtype.val) ds := by
  have hmarker : chunkOf transactionId (endOfData reserved transactionId) =
      some ⟨[], Nat.two_pow_pos 32⟩ := if_pos rfl
  rw [collect_unended unended, collect_chunk hmarker, if_pos rfl, List.nil_append]

lemma collect_faulty (unended : Unended transactionId frames) (kind : ErrorKind)
    (ds : List Delivery) : collect transactionId [] (frames.map .frame ++ .fault kind :: ds) =
      .error (FromIo.fromIo kind) ds := by
  rw [collect_unended unended]
  rfl

lemma requests_succ (packet : UInt32 → PtpIpPacket) (ids : Nat → UInt32) (n : Nat) :
    requests packet ids (n + 1) = packet (ids 0) :: requests packet (fun n => ids (n + 1)) n := by
  unfold requests
  rw [List.range_succ_eq_map, List.map_cons, List.map_map]
  rfl

section asking

variable (objectHandle : UInt32) (offset : UInt64) (length : UInt32)

/-- A request goes out under the next id, and what is collected for it is what it returns. -/
lemma getPartialObject_collects {ids : Nat → UInt32} {ds : List Delivery}
    (sent : List PtpIpPacket) {r : Result PtpIpError (List Delivery) Bytes}
    (collects : collect (ids 0) [] ds = r) :
    Line.getPartialObject objectHandle offset length ⟨ds, sent, ids⟩ =
      Line.deliveriesPart.lift ⟨ds, sent ++ [partialCommand objectHandle offset length (ids 0)],
        fun n => ids (n + 1)⟩ r := by
  subst collects
  have hid : Line.nextId ⟨ds, sent, ids⟩ = .ok (ids 0) ⟨ds, sent, fun n => ids (n + 1)⟩ := rfl
  have hsend : Line.send (partialCommand objectHandle offset length (ids 0))
      ⟨ds, sent, fun n => ids (n + 1)⟩ = .ok () ⟨ds,
        sent ++ [partialCommand objectHandle offset length (ids 0)], fun n => ids (n + 1)⟩ := rfl
  rw [Line.getPartialObject, bind_ok hid, bind_ok hsend]
  rfl

/-- What is served is the answer to the attempt behind the ones that fail; every attempt has sent
its own request. -/
lemma served_answered {failures : List (List Frame × ErrorKind)} {ids : Nat → UInt32}
    (unended : AllUnended ids failures) {frames : List Frame}
    (last : Unended (ids failures.length) frames) (reserved : UInt16) (ds : List Delivery)
    (sent : List PtpIpPacket) :
    AnsweredAfter (Line.getPartialObject objectHandle offset length) failures.length
      ⟨Serving.deliveries ⟨failures, frames, reserved⟩ ids ++ ds, sent, ids⟩
      ((frames.filterMap (chunkOf (ids failures.length))).flatMap Subtype.val)
      ⟨ds, sent ++ requests (partialCommand objectHandle offset length) ids (failures.length + 1),
        fun n => ids (n + (failures.length + 1))⟩ := by
  induction failures generalizing ids sent with
  | nil =>
    have hdeliveries : Serving.deliveries ⟨[], frames, reserved⟩ ids ++ ds =
        frames.map .frame ++ .frame (endOfData reserved (ids 0)) :: ds := by
      simp only [Serving.deliveries, failureDeliveries, List.nil_append, List.append_assoc,
        List.length_nil, List.singleton_append]
    rw [hdeliveries, List.length_nil, requests_succ]
    exact answeredAfter_zero (getPartialObject_collects _ _ _ _ (collect_ended last reserved ds))
  | cons failure failures ih =>
    obtain ⟨before, kind⟩ := failure
    obtain ⟨first, later⟩ := unended
    have hfault := getPartialObject_collects objectHandle offset length sent
      (collect_faulty first kind
        (Serving.deliveries ⟨failures, frames, reserved⟩ (fun n => ids (n + 1)) ++ ds))
    have hdeliveries : Serving.deliveries ⟨(before, kind) :: failures, frames, reserved⟩ ids ++ ds =
        before.map .frame ++ .fault kind ::
          (Serving.deliveries ⟨failures, frames, reserved⟩ (fun n => ids (n + 1)) ++ ds) := by
      simp only [Serving.deliveries, failureDeliveries, List.append_assoc, List.cons_append,
        List.length_cons]
    have hrest := ih later last (sent ++ [partialCommand objectHandle offset length (ids 0)])
    rw [hdeliveries, List.length_cons, requests_succ, List.append_cons sent]
    exact .again hfault hrest

end asking

end serving

section objects

variable (job : Job Connection) (object : Bytes)

/-- The ids behind those of the attempts at a chunk. -/
def Serving.laterIds (s : Serving) (ids : Nat → UInt32) : Nat → UInt32 :=
  fun n => ids (n + (s.failures.length + 1))

/-- From an offset to its end, the object is served in chunks of the sizes that are asked for. -/
inductive ServedFrom : Nat → (Nat → UInt32) → List Serving → Prop where
  | done (ids : Nat → UInt32) : ServedFrom object.length ids []
  | chunk {offset : Nat} {ids : Nat → UInt32} {s : Serving} {rest : List Serving}
      (more : offset < object.length)
      (serves : s.Serves ids job.sessionConfig.maxRetries
        ((object.drop offset).take (job.nextChunk object.length offset)))
      (later : ServedFrom (offset + job.nextChunk object.length offset) (s.laterIds ids) rest) :
      ServedFrom offset ids (s :: rest)

/-- The ids behind those of all chunks. -/
def idsBehind (ids : Nat → UInt32) : List Serving → Nat → UInt32
  | [] => ids
  | s :: rest => idsBehind (s.laterIds ids) rest

def objectDeliveries (ids : Nat → UInt32) : List Serving → List Delivery
  | [] => []
  | s :: rest => s.deliveries ids ++ objectDeliveries (s.laterIds ids) rest

/-- The requests for the chunk at an offset, those of failed attempts among them. -/
def chunkRequests (offset : Nat) (ids : Nat → UInt32) (s : Serving) : List PtpIpPacket :=
  requests (partialCommand job.objectHandle (UInt64.ofNat offset)
    (UInt32.ofNat (job.nextChunk object.length offset))) ids (s.failures.length + 1)

def objectRequests (offset : Nat) (ids : Nat → UInt32) : List Serving → List PtpIpPacket
  | [] => []
  | s :: rest => chunkRequests job object offset ids s ++
      objectRequests (offset + job.nextChunk object.length offset) (s.laterIds ids) rest

variable {job object} {offset : Nat} {ids : Nat → UInt32} {servings : List Serving}

/-- On the level of messages the chunks that are served are the answers. -/
lemma served_answers (served : ServedFrom job object offset ids servings) (ds : List Delivery)
    (sent : List PtpIpPacket) :
    ∃ answers, Answered (onNetwork job Line.getPartialObject) object.length offset
        ⟨objectDeliveries ids servings ++ ds, sent, ids⟩ answers object.length
        ⟨ds, sent ++ objectRequests job object offset ids servings, idsBehind ids servings⟩ ∧
      answers.flatMap Answer.data = object.drop offset ∧
      answers.map Answer.refusals = servings.map fun s => s.failures.length := by
  induction served generalizing sent with
  | done ids =>
    refine ⟨[], ?_, ?_, rfl⟩
    · rw [objectRequests, List.append_nil]
      exact .nothing _ _
    · rw [List.drop_length]
      rfl
  | @chunk offset ids s rest more serves later ih =>
    have hsize : ((object.drop offset).take (job.nextChunk object.length offset)).length =
        job.nextChunk object.length offset := by
      have hchunk := nextChunk_le job object.length offset
      rw [List.length_take, List.length_drop]
      omega
    obtain ⟨answers, answered, hdata, hrefusals⟩ :=
      ih (sent ++ chunkRequests job object offset ids s)
    have hasked := served_answered job.objectHandle (UInt64.ofNat offset)
      (UInt32.ofNat (job.nextChunk object.length offset)) serves.failures serves.unended s.reserved
      (objectDeliveries (s.laterIds ids) rest ++ ds) sent
    rw [serves.bytes] at hasked
    refine ⟨⟨s.failures.length, (object.drop offset).take (job.nextChunk object.length offset),
      ⟨objectDeliveries (s.laterIds ids) rest ++ ds, sent ++ chunkRequests job object offset ids s,
        s.laterIds ids⟩⟩ :: answers, ?_, ?_, ?_⟩
    · have hdeliveries : objectDeliveries ids (s :: rest) ++ ds =
          s.deliveries ids ++ (objectDeliveries (s.laterIds ids) rest ++ ds) :=
        List.append_assoc _ _ _
      have hsent : sent ++ objectRequests job object offset ids (s :: rest) =
          (sent ++ chunkRequests job object offset ids s) ++ objectRequests job object
            (offset + job.nextChunk object.length offset) (s.laterIds ids) rest :=
        (List.append_assoc _ _ _).symm
      rw [hdeliveries, hsent]
      refine .chunk more ⟨serves.within, hasked⟩ hsize ?_
      rw [hsize]
      exact answered
    · rw [List.flatMap_cons, hdata, ← List.drop_drop]
      exact List.take_append_drop _ _
    · rw [List.map_cons, List.map_cons, hrefusals]

end objects

section photos

/-- What a camera sends for a photo: how it describes the object, and the chunks of it from an
offset on. -/
structure Shot where
  info : Reaction
  objectInfo : ObjectInfo
  object : Bytes
  offset : Nat
  servings : List Serving

namespace Shot

def deliveries (shot : Shot) (ids : Nat → UInt32) : List Delivery :=
  (shot.info.frames (ids 0)).map .frame ++ objectDeliveries (fun n => ids (n + 1)) shot.servings

def idsBehind (shot : Shot) (ids : Nat → UInt32) : Nat → UInt32 :=
  PhotoDownload.idsBehind (fun n => ids (n + 1)) shot.servings

/-- The statistics that a download of it returns. -/
def stats (shot : Shot) : DownloadStats :=
  ⟨shot.objectInfo.objectSize, UInt64.ofNat shot.object.length, shot.servings.length,
    (shot.servings.map fun s => s.failures.length).sum⟩

variable (platform : Platform) (config : SessionConfig) (objectHandle : UInt32) (savePath : Path)
  (downloadConfig : ChunkDownloadConfig)

/-- The commands of a download: the size is asked for, and then the chunks. -/
def commands (shot : Shot) (ids : Nat → UInt32) : List PtpIpPacket :=
  command .getObjectInfo (ids 0) (bigEndian 4 objectHandle.toNat) ::
    objectRequests (wireJob platform config objectHandle savePath downloadConfig) shot.object
      shot.offset (fun n => ids (n + 1)) shot.servings

/-- With these ids it describes the object that is asked for and serves all of it. -/
structure Serves (shot : Shot) (ids : Nat → UInt32) : Prop where
  first : shot.info.First (ids 0)
  described : judge (parseObjectInfo platform objectHandle) (ids 0) shot.info.body =
    .ok shot.objectInfo
  size : platform.asUsize shot.objectInfo.objectSize.toNat = shot.object.length
  served : ServedFrom (wireJob platform config objectHandle savePath downloadConfig) shot.object
    shot.offset (fun n => ids (n + 1)) shot.servings

end Shot

variable {platform : Platform} {config : SessionConfig} {objectHandle : UInt32} {savePath : Path}
  {downloadConfig : ChunkDownloadConfig} {shot : Shot} {before : Bytes} {c : Connection}
  {ids : Nat → UInt32} {ds : List Delivery} {sent : List PtpIpPacket}

/-- The object info is asked for and comes in; what is left is a download whose chunks are all
answered. -/
lemma photo_answers
    (serves : shot.Serves platform config objectHandle savePath downloadConfig ids)
    (conveys : Conveys config before c ⟨shot.deliveries ids ++ ds, sent, ids⟩) :
    ∃ c₁ answers c₂,
      CameraClient.getObjectInfo platform config objectHandle c = .ok shot.objectInfo c₁ ∧
      Answered (wireJob platform config objectHandle savePath downloadConfig) shot.object.length
        shot.offset c₁ answers shot.object.length c₂ ∧
      answers.flatMap Answer.data = shot.object.drop shot.offset ∧
      answers.map Answer.refusals = shot.servings.map (fun s => s.failures.length) ∧
      Conveys config before c₂ ⟨ds, sent ++ shot.commands platform config objectHandle savePath
        downloadConfig ids, shot.idsBehind ids⟩ := by
  have hreaction := exchange_reacts .getObjectInfo (bigEndian 4 objectHandle.toNat)
    (parseObjectInfo platform objectHandle) ids serves.first
    (objectDeliveries (fun n => ids (n + 1)) shot.servings ++ ds) sent
  rw [serves.described, ← List.append_assoc] at hreaction
  have hwhole : (bigEndian 4 objectHandle.toNat).length % 4 = 0 := by rw [bigEndian_length]
  have hexchange := exchange_simulates .getObjectInfo hwhole
    (parseObjectInfo platform objectHandle) _ _ conveys
  rw [Shot.deliveries, hreaction] at hexchange
  obtain ⟨c₁, hinfo, conveys₁⟩ := hexchange.ok_right
  obtain ⟨answers, answered, hdata, hrefusals⟩ := served_answers serves.served ds
    (sent ++ [command .getObjectInfo (ids 0) (bigEndian 4 objectHandle.toNat)])
  have simulates : ∀ handle offset length,
      Simulates (flip (Conveys config before))
        (Line.getPartialObject handle offset length)
        (PartialObject.getPartialObject config handle offset length) :=
    fun handle offset length => (getPartialObject_simulates config _ handle offset length).symm
  obtain ⟨answers₂, c₂, answered₂, conveys₂, hdata₂, hrefusals₂⟩ :=
    answered.simulated simulates conveys₁
  refine ⟨c₁, answers₂, c₂, hinfo, answered₂, ?_, hrefusals₂.trans hrefusals, ?_⟩
  · rw [List.flatMap_def, hdata₂, ← List.flatMap_def, hdata]
  · rw [Shot.commands, List.append_cons]
    exact conveys₂

/-- What is served is delivered, and the connection goes on behind it. -/
lemma photo_arrives
    (serves : shot.Serves platform config objectHandle savePath downloadConfig ids)
    (conveys : Conveys config before c ⟨shot.deliveries ids ++ ds, sent, ids⟩)
    {files : FileSystem Path} {contents : Bytes}
    (begins : beginning savePath files (plan platform savePath shot.object.length files) =
      some (shot.offset, contents)) {turns : Nat} (enough : shot.servings.length < turns) :
    ∃ w', downloadPhoto platform config objectHandle savePath downloadConfig turns files c =
        .ok (some shot.stats) w' ∧
      w'.files savePath = some (contents ++ shot.object.drop shot.offset) ∧
      w'.files (getTempPath savePath) = none ∧ w'.files (getResumePath savePath) = none ∧
      Conveys config before w'.net ⟨ds, sent ++ shot.commands platform config objectHandle savePath
        downloadConfig ids, shot.idsBehind ids⟩ := by
  obtain ⟨c₁, answers, c₂, hinfo, answered, hdata, hrefusals, conveys₂⟩ :=
    photo_answers serves conveys
  have hcount : answers.length = shot.servings.length := by
    have hlengths := congrArg List.length hrefusals
    rwa [List.length_map, List.length_map] at hlengths
  obtain ⟨w', hrun, assembled⟩ := download_delivers
    (w := World.start files c₁ shot.objectInfo.objectSize) serves.size begins answered
    (hcount ▸ enough)
  have hstats : w'.stats = shot.stats := by
    have hchunks : w'.stats.chunks = shot.servings.length :=
      assembled.chunks.trans ((Nat.zero_add _).trans hcount)
    have hretries : w'.stats.retries = (shot.servings.map fun s => s.failures.length).sum := by
      rw [assembled.retries, hrefusals]
      exact Nat.zero_add _
    rw [Shot.stats, ← hchunks, ← hretries, ← assembled.downloaded]
    rw [show shot.objectInfo.objectSize = w'.stats.totalBytes from assembled.totalBytes.symm]
  refine ⟨w', ?_, ?_, assembled.temp, assembled.record, ?_⟩
  · rw [downloadPhoto, hinfo]
    dsimp only
    rw [hrun]
    change Result.ok (some w'.stats) w' = _
    rw [hstats]
  · rw [← hdata]
    exact assembled.target
  · rw [assembled.net]
    exact conveys₂

/-- However the chunks are cut into blocks, whatever comes between them and however often attempts
fail within the retries, a download returns with the rest of the object behind what was there, has
sent one request for each attempt, and leaves on the stream what was not for it. -/
theorem photo_delivered (onTime : OnTime config c.incoming.clocks)
    (accepting : c.outgoing.outcomes = [])
    (arrivals : c.incoming.arrivals = stream (shot.deliveries c.transactionIds ++ ds))
    (serves : shot.Serves platform config objectHandle savePath downloadConfig c.transactionIds)
    {files : FileSystem Path} {contents : Bytes}
    (begins : beginning savePath files (plan platform savePath shot.object.length files) =
      some (shot.offset, contents)) {turns : Nat} (enough : shot.servings.length < turns) :
    ∃ w', downloadPhoto platform config objectHandle savePath downloadConfig turns files c =
        .ok (some shot.stats) w' ∧
      w'.files savePath = some (contents ++ shot.object.drop shot.offset) ∧
      w'.files (getTempPath savePath) = none ∧ w'.files (getResumePath savePath) = none ∧
      w'.net.incoming.arrivals = stream ds ∧
      w'.net.outgoing.written = c.outgoing.written ++ (shot.commands platform config objectHandle
        savePath downloadConfig c.transactionIds).flatMap encoding := by
  have conveys : Conveys config c.outgoing.written c
      ⟨shot.deliveries c.transactionIds ++ ds, [], c.transactionIds⟩ := {
    incoming := ⟨arrivals, onTime⟩
    outgoing := by rw [List.flatMap_nil, List.append_nil, ← accepting]
    transactionIds := rfl }
  obtain ⟨w', hrun, target, temp, record, conveys'⟩ :=
    photo_arrives serves conveys begins enough
  refine ⟨w', hrun, target, temp, record, conveys'.incoming.1, ?_⟩
  rw [conveys'.outgoing]
  rfl

/-- Three bytes, without any texts. -/
private def threeBytes : ResponseBody :=
  ⟨[0, 0, 0x20, 0x01] ++ List.replicate 19 0 ++ [3] ++ List.replicate 40 0, by decide⟩

/-- The first chunk comes at the second attempt, a late block of the first attempt before it. -/
private def lateBlock : Serving where
  failures := [([], .timedOut)]
  frames := [⟨0, 1, .data ⟨[9], by decide⟩⟩, ⟨0, 2, .data ⟨[1, 2], by decide⟩⟩]
  reserved := 0

private def lastBlock : Serving := ⟨[], [⟨0, 3, .data ⟨[3], by decide⟩⟩], 0⟩

/-- An object of three bytes. -/
def threeByteShot : Shot where
  info := ⟨[], 0, threeBytes⟩
  objectInfo := ⟨5, 0, 0, 0, 3, 0, [], [], [], []⟩
  object := [1, 2, 3]
  offset := 0
  servings := [lateBlock, lastBlock]

lemma threeByteShot_serves : threeByteShot.Serves .bits64 ⟨30, 3⟩ 5 ⟨[], some [97]⟩
    ⟨2, 1, fun _ => []⟩ UInt32.ofNat where
  first _ hg := absurd hg List.not_mem_nil
  described := by rfl
  size := rfl
  served := by
    refine .chunk (by decide) ⟨by decide, ⟨fun d hd => absurd hd List.not_mem_nil, trivial⟩, ?_,
      by decide⟩ (.chunk (by decide) ⟨by decide, trivial, ?_, by decide⟩ (.done _))
    · unfold Unended
      decide
    · unfold Unended
      decide

/-- A camera that sends this and is read in time. -/
def servingCamera (ds : List Delivery) : Connection where
  incoming := ⟨stream ds, fun _ _ => 0⟩
  outgoing := ⟨[], []⟩
  transactionIds := UInt32.ofNat

lemma servingCamera_conveys (ds : List Delivery) :
    Conveys ⟨30, 3⟩ [] (servingCamera ds) ⟨ds, [], UInt32.ofNat⟩ where
  incoming := ⟨rfl, fun _ _ => Nat.zero_le _⟩
  outgoing := rfl
  transactionIds := rfl

/-- Three bytes in two chunks, at three attempts. -/
theorem photo_delivered_three :
    ∃ w', downloadPhoto .bits64 ⟨30, 3⟩ 5 ⟨[], some [97]⟩ ⟨2, 1, fun _ => []⟩ 3 (fun _ => none)
        (servingCamera (threeByteShot.deliveries UInt32.ofNat ++ [])) =
        .ok (some ⟨3, 3, 2, 1⟩) w' ∧
      w'.files ⟨[], some [97]⟩ = some [1, 2, 3] :=
  have begins : beginning ⟨[], some [97]⟩ (fun _ => none)
      (plan .bits64 ⟨[], some [97]⟩ 3 fun _ => none) = some (0, []) := rfl
  let c := servingCamera (threeByteShot.deliveries UInt32.ofNat ++ [])
  have onTime : OnTime ⟨30, 3⟩ c.incoming.clocks := fun _ _ => Nat.zero_le _
  let ⟨w', hrun, htarget, _⟩ := photo_delivered onTime rfl rfl threeByteShot_serves begins
    (show 2 < 3 by decide)
  ⟨w', hrun, htarget⟩

end photos

end PhotoDownload
