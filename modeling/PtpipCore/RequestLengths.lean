import PtpipCore.ChunkAnswers
import PtpipCore.PartialObject

/-!
# The lengths that the main loop asks for

The length field of the command has 32 bits, and the chunk size is not looked at when less
than the minimum remains. The lengths are read off a record of the requests that are made.
-/

namespace RequestLengths

open Effects ByteStream CrashActions FileActions Types Download DownloadRun DownloadTurns
open ChunkAnswers Retries
open Download.Job
open EStateM (Result)
open PartialObject (partialObjectParams)

section requests

variable {ν : Type}

/-- A request that was made, with the reply to it. -/
structure Request where
  objectHandle : UInt32
  offset : UInt64
  length : UInt32
  reply : Except PtpIpError Bytes

/-- The last field of its command. -/
def Request.lengthField (q : Request) : Nat :=
  ofBigEndian ((partialObjectParams q.objectHandle q.offset q.length).drop 12)

/-- A network, and the requests made on it so far. -/
abbrev Recorded (ν : Type) := ν × List Request

def recorded (getPartialObject : UInt32 → UInt64 → UInt32 → EStateM PtpIpError ν Bytes)
    (objectHandle : UInt32) (offset : UInt64) (length : UInt32) :
    EStateM PtpIpError (Recorded ν) Bytes := fun s =>
  match getPartialObject objectHandle offset length s.1 with
  | .ok data net => .ok data (net, s.2 ++ [⟨objectHandle, offset, length, .ok data⟩])
  | .error e net => .error e (net, s.2 ++ [⟨objectHandle, offset, length, .error e⟩])

/-- The same download, with its requests on record. -/
def recording (job : Job ν) : Job (Recorded ν) := onNetwork job (recorded job.getPartialObject)

/-- The requests between two states of the download. -/
def requestsMade (before after : World (Recorded ν)) : List Request :=
  after.net.2.drop before.net.2.length

variable (job : Job ν) (totalSize : Nat)

/-- The length in the command of a request is no more than the chunk size, a reply of this length
and no other lets the turn go well, and the turn then advances by this length. -/
structure RequestFits (cur : Cursor) (r : Result PtpIpError (World (Recorded ν)) Cursor)
    (q : Request) : Prop where
  bound : q.lengthField ≤ job.downloadConfig.chunkSize
  checked : ∀ data, q.reply = .ok data →
    ((∃ cur' w', r = .ok cur' w') ↔ data.length = q.lengthField)
  advances : ∀ cur' w', r = .ok cur' w' →
    cur'.currentOffset = cur.currentOffset + q.lengthField

/-- A turn makes requests, and each of them fits. -/
structure TurnFits (cur : Cursor) (w : World (Recorded ν)) : Prop where
  asks : requestsMade w (endState (((recording job).downloadChunk totalSize cur).run w)) ≠ []
  fits : ∀ q ∈ requestsMade w (endState (((recording job).downloadChunk totalSize cur).run w)),
    RequestFits job cur (((recording job).downloadChunk totalSize cur).run w) q

/-- In every turn that the loop comes to from the start, with any camera, the requests fit. -/
def RequestsFit (config : ChunkDownloadConfig) (totalSize start : Nat) : Prop :=
  ∀ (ν : Type) (job : Job ν), job.downloadConfig = config →
    ∀ file w₀ chunks cur w, file.mode ≠ .read →
      Reaches (recording job) totalSize ⟨start, file, 0⟩ w₀ chunks cur w →
      cur.currentOffset < totalSize → TurnFits job totalSize cur w

lemma Request.lengthField_eq (q : Request) : q.lengthField = q.length.toNat := by
  have hfront : (bigEndian 4 q.objectHandle.toNat ++ bigEndian 8 q.offset.toNat).length = 12 := by
    simp only [List.length_append, bigEndian_length]
  rw [Request.lengthField, partialObjectParams, ← hfront, List.drop_left, ofBigEndian_bigEndian]
  exact Nat.mod_eq_of_lt q.length.toNat_lt

variable {job totalSize} {cur : Cursor} {w : World (Recorded ν)}

/-- The camera was asked on some state of the network for the chunk at an offset, and gave this
reply. -/
structure Made (job : Job ν) (totalSize offset : Nat) (q : Request) : Prop where
  asked : q.length = UInt32.ofNat (job.nextChunk totalSize offset)
  replied : ∃ net, answer (job.getPartialObject q.objectHandle q.offset q.length net) = q.reply

lemma request_ok {offset : Nat} {data : Bytes} {s t : Recorded ν}
    (h : request (recording job) totalSize offset s = .ok data t) :
    ∃ q, t.2 = s.2 ++ [q] ∧ Made job totalSize offset q ∧ q.reply = .ok data := by
  simp only [request, recording, onNetwork, recorded] at h
  split at h
  · next hask =>
    cases h
    exact ⟨_, rfl, ⟨rfl, s.1, by rw [hask]; rfl⟩, rfl⟩
  · cases h

lemma request_error {offset : Nat} {e : PtpIpError} {s t : Recorded ν}
    (h : request (recording job) totalSize offset s = .error e t) :
    ∃ q, t.2 = s.2 ++ [q] ∧ Made job totalSize offset q ∧ q.reply = .error e := by
  simp only [request, recording, onNetwork, recorded] at h
  split at h
  · cases h
  · next hask =>
    cases h
    exact ⟨_, rfl, ⟨rfl, s.1, by rw [hask]; rfl⟩, rfl⟩

/-- Refusals leave their requests on record. -/
lemma refused_requests {offset n : Nat} {s t : Recorded ν}
    (refused : Refused (request (recording job) totalSize offset) n s t) :
    ∃ made, t.2 = s.2 ++ made ∧ ∀ q ∈ made, Made job totalSize offset q ∧
      ∃ e, q.reply = .error e := by
  induction refused with
  | never s => exact ⟨[], (List.append_nil _).symm, fun q hq => absurd hq List.not_mem_nil⟩
  | again refusal rest ih =>
    obtain ⟨q, hfirst, made, hreply⟩ := request_error refusal
    obtain ⟨later, hlater, hmade⟩ := ih
    refine ⟨q :: later, ?_, List.forall_mem_cons.mpr ⟨⟨made, _, hreply⟩, hmade⟩⟩
    rw [hlater, hfirst, List.append_assoc]
    rfl

/-- What a turn puts on record: refused requests, and one last request. -/
structure TurnMade (job : Job ν) (totalSize : Nat) (cur : Cursor) (w : World (Recorded ν))
    (refused : List Request) (q : Request) : Prop where
  record : requestsMade w (endState (((recording job).downloadChunk totalSize cur).run w)) =
    refused ++ [q]
  refusals : ∀ q ∈ refused, Made job totalSize cur.currentOffset q ∧ ∃ e, q.reply = .error e
  last : Made job totalSize cur.currentOffset q
  checked : ∀ data, q.reply = .ok data →
    ((∃ cur' w', ((recording job).downloadChunk totalSize cur).run w = .ok cur' w') ↔
      data.length = job.nextChunk totalSize cur.currentOffset)

/-- The requests behind refusals and one more try. -/
lemma requestsMade_tried {s : Recorded ν} {w w' : World (Recorded ν)} {made : List Request}
    {last : Request} (refused : s.2 = w.net.2 ++ made) (again : w'.net.2 = s.2 ++ [last]) :
    requestsMade w w' = made ++ [last] := by
  rw [requestsMade, again, refused, List.append_assoc, List.drop_left]

theorem turn_made (writable : cur.file.mode ≠ .read) :
    ∃ refused last, TurnMade job totalSize cur w refused last := by
  rcases comes_or_stops (recording job) totalSize cur.currentOffset w.net with
    ⟨a, comes, size⟩ | ⟨stop, stops⟩
  · obtain ⟨s, refused, hanswer⟩ := comes.answered
    obtain ⟨made, hmade, refusals⟩ := refused_requests refused
    obtain ⟨last, hlast, madeLast, hreply⟩ := request_ok hanswer
    have hrun := downloadChunk_written writable comes size
    refine ⟨made, last, ?_, refusals, madeLast, ?_⟩
    · rw [hrun]
      exact requestsMade_tried hmade hlast
    · intro data hdata
      cases hreply.symm.trans hdata
      exact iff_of_true ⟨_, _, hrun⟩ size
  · have hrun := downloadChunk_stopped stops
    have fails : ¬ ∃ cur' w', ((recording job).downloadChunk totalSize cur).run w =
        .ok cur' w' := by
      rintro ⟨cur', w', hok⟩
      cases hrun.symm.trans hok
    cases stops with
    | refused refused =>
      obtain ⟨s, refused, hanswer⟩ := refused
      obtain ⟨made, hmade, refusals⟩ := refused_requests refused
      obtain ⟨last, hlast, madeLast, hreply⟩ := request_error hanswer
      refine ⟨made, last, ?_, refusals, madeLast, ?_⟩
      · rw [hrun]
        exact requestsMade_tried hmade hlast
      · intro data hdata
        cases hreply.symm.trans hdata
    | wrongLength comes differs =>
      obtain ⟨s, refused, hanswer⟩ := comes.answered
      obtain ⟨made, hmade, refusals⟩ := refused_requests refused
      obtain ⟨last, hlast, madeLast, hreply⟩ := request_ok hanswer
      refine ⟨made, last, ?_, refusals, madeLast, ?_⟩
      · rw [hrun]
        exact requestsMade_tried hmade hlast
      · intro data hdata
        cases hreply.symm.trans hdata
        exact iff_of_false fails differs

end requests

section limits

/-- With so much left: the first chunk fits the field, and no later rest that is more than a
chunk is less than the minimum. The smallest such rest has at most twice the chunk size. -/
def Limits (config : ChunkDownloadConfig) (rest : Nat) : Prop :=
  min config.chunkSize rest < 2 ^ 32 ∧
    (rest ≤ config.chunkSize ∨
      config.minChunkSize ≤ config.chunkSize + 1 + (rest - 1) % config.chunkSize)

variable {config : ChunkDownloadConfig} {rest : Nat}

/-- A chunk less left, the smallest rest is the same. -/
lemma mod_behind (more : config.chunkSize < rest) :
    (rest - 1) % config.chunkSize = (rest - config.chunkSize - 1) % config.chunkSize := by
  rw [Nat.mod_eq_sub_mod (by omega), Nat.sub_right_comm]

/-- The smallest rest is not more than what is left. -/
lemma smallest_le (more : config.chunkSize < rest) :
    config.chunkSize + 1 + (rest - 1) % config.chunkSize ≤ rest := by
  have hle := Nat.mod_le (rest - config.chunkSize - 1) config.chunkSize
  rw [mod_behind more]
  omega

lemma Limits.behind (limits : Limits config rest) (more : config.chunkSize < rest) :
    Limits config (rest - config.chunkSize) := by
  rcases limits with ⟨fits, short | minimum⟩
  · exact absurd short (Nat.not_le_of_lt more)
  · refine ⟨by omega, Or.inr ?_⟩
    rw [← mod_behind more]
    exact minimum

lemma Limits.before (limits : Limits config (rest - config.chunkSize))
    (more : config.chunkSize < rest) (fits : config.chunkSize < 2 ^ 32)
    (minimum : config.minChunkSize ≤ rest) : Limits config rest := by
  refine ⟨by omega, Or.inr ?_⟩
  rcases limits with ⟨-, short | minimum'⟩
  · have hlast : (rest - config.chunkSize - 1) % config.chunkSize =
        rest - config.chunkSize - 1 := Nat.mod_eq_of_lt (by omega)
    rw [mod_behind more, hlast]
    omega
  · rw [mod_behind more]
    exact minimum'

end limits

section loop

variable {ν : Type} {job : Job ν} {totalSize start : Nat}

/-- Within the limits the chunk is as long as it is configured, or all that is left. -/
lemma Limits.nextChunk {offset : Nat} (limits : Limits job.downloadConfig (totalSize - offset)) :
    job.nextChunk totalSize offset = min job.downloadConfig.chunkSize (totalSize - offset) := by
  have hsmallest : job.downloadConfig.chunkSize < totalSize - offset →
      job.downloadConfig.chunkSize + 1 + (totalSize - offset - 1) % job.downloadConfig.chunkSize ≤
        totalSize - offset := smallest_le
  have hchunk := nextChunk_cases job totalSize offset
  rcases limits with ⟨-, short | minimum⟩ <;> omega

/-- Within the limits the loop stays there. -/
lemma Limits.reached {w₀ w : World ν} {cur₀ cur : Cursor} {chunks : List Chunk}
    (reaches : Reaches job totalSize cur₀ w₀ chunks cur w)
    (limits : Limits job.downloadConfig (totalSize - cur₀.currentOffset)) :
    Limits job.downloadConfig (totalSize - cur.currentOffset) := by
  refine reaches.preserves (I := fun c _ =>
    Limits job.downloadConfig (totalSize - c.currentOffset)) limits ?_
  intro c v c' v' _ limits accepts
  rw [accepts.offset, limits.nextChunk, Nat.sub_add_eq]
  by_cases short : totalSize - c.currentOffset ≤ job.downloadConfig.chunkSize
  · rw [Nat.min_eq_right short, Nat.sub_self]
    exact ⟨by omega, Or.inl (Nat.zero_le _)⟩
  · rw [Nat.min_eq_left (by omega)]
    exact limits.behind (by omega)

/-- A turn whose chunk fits the field and is no more than the chunk size makes requests that
fit. -/
lemma turnFits {cur : Cursor} {w : World (Recorded ν)} (writable : cur.file.mode ≠ .read)
    (field : job.nextChunk totalSize cur.currentOffset < 2 ^ 32)
    (bound : job.nextChunk totalSize cur.currentOffset ≤ job.downloadConfig.chunkSize) :
    TurnFits job totalSize cur w := by
  obtain ⟨refused, last, made⟩ : ∃ refused last, TurnMade job totalSize cur w refused last :=
    turn_made writable
  have hfield : ∀ q, Made job totalSize cur.currentOffset q →
      q.lengthField = job.nextChunk totalSize cur.currentOffset := by
    intro q made
    rw [q.lengthField_eq, made.asked, UInt32.toNat_ofNat_of_lt' field]
  have hadvances : ∀ cur' w', ((recording job).downloadChunk totalSize cur).run w = .ok cur' w' →
      cur'.currentOffset = cur.currentOffset + job.nextChunk totalSize cur.currentOffset :=
    fun cur' w' hrun => (downloadChunk_accepts hrun).offset
  constructor
  · rw [made.record]
    exact List.append_ne_nil_of_right_ne_nil _ (List.cons_ne_nil _ _)
  · rw [made.record, List.forall_mem_append, List.forall_mem_singleton]
    constructor
    · intro q hq
      obtain ⟨madeq, e, hreply⟩ := made.refusals q hq
      rw [← hfield q madeq] at bound hadvances
      refine ⟨bound, fun data hdata => ?_, hadvances⟩
      cases hreply.symm.trans hdata
    · have hchecked := made.checked
      rw [← hfield last made.last] at bound hadvances hchecked
      exact ⟨bound, hchecked, hadvances⟩

/-- A camera that sends as many bytes as it is asked for brings to light what the turn checks
and advances by. -/
lemma chunk_fits {config : ChunkDownloadConfig} {cur : Cursor} {w : World (Recorded Unit)}
    (fits : TurnFits (zerosJob config) totalSize cur w) (writable : cur.file.mode ≠ .read) :
    ∃ cur' w', ((recording (zerosJob config)).downloadChunk totalSize cur).run w = .ok cur' w' ∧
      (zerosJob config).nextChunk totalSize cur.currentOffset < 2 ^ 32 ∧
      (zerosJob config).nextChunk totalSize cur.currentOffset ≤ config.chunkSize := by
  obtain ⟨refused, last, made⟩ : ∃ refused last,
      TurnMade (zerosJob config) totalSize cur w refused last := turn_made writable
  have hlast : RequestFits (zerosJob config) cur _ last :=
    fits.fits last (by rw [made.record]; exact List.mem_append_right _ (List.mem_singleton_self _))
  obtain ⟨net, hreply⟩ := made.last.replied
  have hlength : (List.replicate last.length.toNat (0 : UInt8)).length = last.lengthField := by
    rw [List.length_replicate, last.lengthField_eq]
  obtain ⟨cur', w', hrun⟩ := (hlast.checked _ hreply.symm).mpr hlength
  have hoffset : cur'.currentOffset = _ := (downloadChunk_accepts hrun).offset
  have hchunk : (zerosJob config).nextChunk totalSize cur.currentOffset = last.lengthField :=
    Nat.add_left_cancel (hoffset.symm.trans (hlast.advances cur' w' hrun))
  refine ⟨cur', w', hrun, ?_, hchunk ▸ hlast.bound⟩
  rw [hchunk, last.lengthField_eq]
  exact last.length.toNat_lt

/-- If all requests fit that are made of this camera, the loop is within the limits. -/
lemma limits_of_fits {config : ChunkDownloadConfig} (positive : 1 ≤ config.chunkSize)
    {cur₀ : Cursor} {w₀ : World (Recorded Unit)}
    (fits : ∀ chunks cur w, Reaches (recording (zerosJob config)) totalSize cur₀ w₀ chunks cur w →
      cur.currentOffset < totalSize → TurnFits (zerosJob config) totalSize cur w)
    {chunks : List Chunk} {cur : Cursor} {w : World (Recorded Unit)}
    (reaches : Reaches (recording (zerosJob config)) totalSize cur₀ w₀ chunks cur w)
    (writable : cur.file.mode ≠ .read) (more : cur.currentOffset < totalSize) :
    Limits config (totalSize - cur.currentOffset) := by
  induction hrest : totalSize - cur.currentOffset using Nat.strongRecOn
    generalizing chunks cur w with
  | ind rest ih =>
    obtain ⟨cur', w', hrun, hfield, hbound⟩ := chunk_fits (fits _ _ _ reaches more) writable
    have hchunk := nextChunk_cases (zerosJob config) totalSize cur.currentOffset
    change _ < config.minChunkSize ∧ _ ∨ config.minChunkSize ≤ _ ∧ _ = min config.chunkSize _
      at hchunk
    by_cases short : rest ≤ config.chunkSize
    · exact ⟨by omega, Or.inl short⟩
    · -- a whole chunk is asked for, since the rest would be too long
      have hnext : (zerosJob config).nextChunk totalSize cur.currentOffset = config.chunkSize := by
        omega
      have minimum : config.minChunkSize ≤ rest := by omega
      have accepts := downloadChunk_accepts hrun
      have hoffset : cur'.currentOffset = cur.currentOffset + config.chunkSize :=
        accepts.offset.trans (congrArg (cur.currentOffset + ·) hnext)
      have hlater := ih (rest - config.chunkSize) (by omega)
        (reaches.turn more hrun) accepts.stillWritable (by omega) (by omega)
      exact hlater.before (by omega) (by omega) minimum

private def appending : File Resume.Path := ⟨⟨[], none⟩, .append⟩

private lemma appending_writable : appending.mode ≠ .read := fun h => by cases h

/-- All requests fit, whatever the camera, exactly when the loop starts within the limits. -/
theorem requests_fit_iff (config : ChunkDownloadConfig) (positive : 1 ≤ config.chunkSize)
    (totalSize start : Nat) :
    RequestsFit config totalSize start ↔ Limits config (totalSize - start) := by
  constructor
  · intro fits
    by_cases more : start < totalSize
    · exact limits_of_fits positive (fun chunks cur w =>
        fits Unit (zerosJob config) rfl appending (World.start (fun _ => none) ((), []) 0)
          chunks cur w appending_writable) .start appending_writable more
    · rw [Nat.sub_eq_zero_of_le (Nat.le_of_not_lt more)]
      exact ⟨by omega, Or.inl (Nat.zero_le _)⟩
  · rintro limits ν job rfl file w₀ chunks cur w writable reaches -
    have hlimits := Limits.reached reaches limits
    have hnext : job.nextChunk totalSize cur.currentOffset =
        min job.downloadConfig.chunkSize (totalSize - cur.currentOffset) := hlimits.nextChunk
    have still : cur.file.mode ≠ .read :=
      reaches.preserves (I := fun cur _ => cur.file.mode ≠ .read) writable
        fun _ _ _ _ _ _ accepts => accepts.stillWritable
    refine turnFits still ?_ ?_
    · rw [hnext]
      exact hlimits.1
    · rw [hnext]
      exact Nat.min_le_left _ _

/-- Two bytes at a time, of five. -/
theorem requests_fit_two :
    RequestsFit ⟨2, 1, fun _ => []⟩ 5 0 ↔ Limits ⟨2, 1, fun _ => []⟩ (5 - 0) :=
  requests_fit_iff ⟨2, 1, fun _ => []⟩ (by decide) 5 0

private def wholeField : ChunkDownloadConfig := ⟨2 ^ 32, 1, fun _ => []⟩

/-- A chunk of 2 ^ 32 bytes is asked for as one of none, and none are refused. -/
theorem request_cut :
    let w : World (Recorded Unit) := World.start (fun _ => none) ((), []) 0
    let r := ((recording (zerosJob wholeField)).downloadChunk (2 ^ 33) ⟨0, appending, 0⟩).run w
    answer r = .error (.protocolError
      "Incomplete chunk data: expected 4294967296 bytes, received 0 bytes") ∧
    (requestsMade w (endState r)).map Request.lengthField = [0] ∧
    ¬ RequestsFit wholeField (2 ^ 33) 0 := by
  refine ⟨rfl, rfl, fun all => ?_⟩
  have hnext : (zerosJob wholeField).nextChunk (2 ^ 33) 0 = 2 ^ 32 := rfl
  have fits := all Unit (zerosJob wholeField) rfl appending
    (World.start (fun _ => none) ((), []) 0) [] _ _ appending_writable .start (by decide)
  obtain ⟨cur', w', -, hfield, -⟩ := chunk_fits fits appending_writable
  rw [hnext] at hfield
  exact Nat.lt_irrefl _ hfield

end loop

end RequestLengths
