import PtpipCore.Download

/-!
# What one download does to the files

`o` is the object as far as `usize` can count it. The loop invariant ties the
offset, the temporary file, the record and the statistics; it holds at the head
of every turn and at every error exit.
-/

namespace DownloadRun

open Effects ByteStream CrashActions FileActions Text Types Resume ResumePlan Download
open Download.Job
open EStateM (Result)
open Function (update)

/-- The ranges, each an offset and a length, cover the numbers from `lo` up to `hi`, in order, each
of them once. -/
def Tiles : Nat → List (Nat × Nat) → Nat → Prop
  | lo, [], hi => lo = hi
  | lo, (offset, length) :: rest, hi => offset = lo ∧ 0 < length ∧ Tiles (lo + length) rest hi

lemma tiles_append {lo mid hi : Nat} {xs ys : List (Nat × Nat)} (h : Tiles lo xs mid)
    (h' : Tiles mid ys hi) : Tiles lo (xs ++ ys) hi := by
  induction xs generalizing lo with
  | nil =>
    have heq : lo = mid := h
    exact heq ▸ h'
  | cons x xs ih => exact ⟨h.1, h.2.1, ih h.2.2⟩

lemma tiles_snoc {lo hi length : Nat} {xs : List (Nat × Nat)} (h : Tiles lo xs hi)
    (positive : 0 < length) : Tiles lo (xs ++ [(hi, length)]) (hi + length) :=
  tiles_append h ⟨rfl, positive, rfl⟩

variable {ν : Type}

/-- The question is answered with the right length after so many failures at most. -/
def ServedWithin (ask : EStateM PtpIpError ν Bytes) (length : Nat) : Nat → ν → Prop
  | 0, net => ∃ data net', ask net = .ok data net' ∧ data.length = length
  | left + 1, net => (∃ data net', ask net = .ok data net' ∧ data.length = length) ∨
      ∃ e net', ask net = .error e net' ∧ ServedWithin ask length left net'

section retrying

variable {ask : EStateM PtpIpError ν Bytes}

lemma servedWithin_of_first {length : Nat} {net net' : ν} {data : Bytes}
    (h : ask net = .ok data net') (hlen : data.length = length) (left : Nat) :
    ServedWithin ask length left net := by
  cases left with
  | zero => exact ⟨data, net', h, hlen⟩
  | succ left => exact Or.inl ⟨data, net', h, hlen⟩

lemma downloadRetrying_ok {w : World ν} {data : Bytes} {net : ν} (h : ask w.net = .ok data net)
    (left : Nat) : downloadRetrying ask left w = .ok data (w.asked net w.stats.retries) := by
  cases left <;> simp only [downloadRetrying, h]

lemma downloadRetrying_last {w : World ν} {e : PtpIpError} {net : ν}
    (h : ask w.net = .error e net) :
    downloadRetrying ask 0 w = .error e (w.asked net (w.stats.retries + 1)) := by
  simp only [downloadRetrying, h]

lemma downloadRetrying_again {w : World ν} {e : PtpIpError} {net : ν}
    (h : ask w.net = .error e net) (left : Nat) :
    downloadRetrying ask (left + 1) w =
      downloadRetrying ask left (w.asked net (w.stats.retries + 1)) := by
  simp only [downloadRetrying, h]

/-- A chunk request changes the network and the count of retries only. -/
lemma downloadRetrying_cases (ask : EStateM PtpIpError ν Bytes) (left : Nat) (w : World ν) :
    (∃ data net net' retries, downloadRetrying ask left w = .ok data (w.asked net' retries) ∧
      ask net = .ok data net') ∨
    ∃ e net' retries, downloadRetrying ask left w = .error e (w.asked net' retries) := by
  induction left generalizing w with
  | zero =>
    cases h : ask w.net with
    | ok data net => exact Or.inl ⟨data, w.net, net, _, downloadRetrying_ok h 0, h⟩
    | error e net => exact Or.inr ⟨e, net, _, downloadRetrying_last h⟩
  | succ left ih =>
    cases h : ask w.net with
    | ok data net => exact Or.inl ⟨data, w.net, net, _, downloadRetrying_ok h (left + 1), h⟩
    | error e net =>
      rw [downloadRetrying_again h]
      exact ih (w.asked net (w.stats.retries + 1))

lemma downloadRetrying_served {length left : Nat} {w : World ν}
    (served : ServedWithin ask length left w.net) :
    ∃ data w', downloadRetrying ask left w = .ok data w' ∧ data.length = length := by
  induction left generalizing w with
  | zero =>
    obtain ⟨data, net, h, hlen⟩ := served
    exact ⟨data, _, downloadRetrying_ok h 0, hlen⟩
  | succ left ih =>
    rcases served with ⟨data, net, h, hlen⟩ | ⟨e, net, h, hrest⟩
    · exact ⟨data, _, downloadRetrying_ok h (left + 1), hlen⟩
    · rw [downloadRetrying_again h]
      exact ih (w := w.asked net (w.stats.retries + 1)) hrest

/-- What ends in an error, or in the wrong length, was not served. -/
lemma downloadRetrying_outcome (ask : EStateM PtpIpError ν Bytes) (length left : Nat)
    (w : World ν) :
    (∃ data net net' retries, downloadRetrying ask left w = .ok data (w.asked net' retries) ∧
      ask net = .ok data net' ∧ (data.length ≠ length → ¬ ServedWithin ask length left w.net)) ∨
    ∃ e net' retries, downloadRetrying ask left w = .error e (w.asked net' retries) ∧
      ¬ ServedWithin ask length left w.net := by
  rcases downloadRetrying_cases ask left w with ⟨data, net, net', retries, hrun, hask⟩ |
    ⟨e, net, retries, hrun⟩
  · refine Or.inl ⟨data, net, net', retries, hrun, hask, fun wrongLength served => ?_⟩
    obtain ⟨data', w', hrun', hlen⟩ := downloadRetrying_served served
    cases hrun.symm.trans hrun'
    exact wrongLength hlen
  · refine Or.inr ⟨e, net, retries, hrun, fun served => ?_⟩
    obtain ⟨data', w', hrun', -⟩ := downloadRetrying_served served
    cases hrun.symm.trans hrun'

end retrying

section loop

variable (job : Job ν) (o : Bytes)

/-- The transfer of the chunk at an offset. -/
def askChunk (offset : Nat) : EStateM PtpIpError ν Bytes :=
  job.getPartialObject job.objectHandle (UInt64.ofNat offset)
    (UInt32.ofNat (job.nextChunk o.length offset))

/-- A chunk of the right length holds the object's bytes, from some offset on. -/
def Faithful (origin : Nat) : Prop :=
  ∀ offset net data net', origin ≤ offset → offset < o.length →
    askChunk job o offset net = .ok data net' → data.length = job.nextChunk o.length offset →
    data = (o.drop offset).take (job.nextChunk o.length offset)

/-- Every chunk comes within the retries. -/
def Served : Prop :=
  ∀ offset net, offset < o.length →
    ServedWithin (askChunk job o offset) (job.nextChunk o.length offset)
      job.sessionConfig.maxRetries net

/-- Where the loop began: its offset, the target and the record. -/
structure Origin where
  offset : Nat
  target : Option Bytes
  record : Option Bytes

structure Midway (origin : Origin) (cur : Cursor) (w : World ν) : Prop where
  reached : origin.offset ≤ cur.currentOffset
  inside : cur.currentOffset ≤ o.length
  temp : w.files (getTempPath job.savePath) = some (o.take cur.currentOffset)
  path : cur.file.path = getTempPath job.savePath
  atEnd : cur.file.AtEnd cur.currentOffset
  target : w.files job.savePath = origin.target
  record : w.files (getResumePath job.savePath) = some (decimal cur.currentOffset) ∨
    cur.currentOffset = origin.offset ∧ w.files (getResumePath job.savePath) = origin.record
  downloaded : w.stats.downloadedBytes = UInt64.ofNat cur.currentOffset
  chunks : w.stats.chunks = w.accepted.length
  tiles : 1 ≤ job.downloadConfig.chunkSize →
    Tiles origin.offset w.accepted cur.currentOffset

/-- What a crash in the loop leaves. -/
def Torn (target : Option Bytes) (fs : FileSystem Path) : Prop :=
  (∃ contents, fs (getTempPath job.savePath) = some contents ∧ contents <+: o) ∧
    fs job.savePath = target

variable {job o} {origin : Origin} {cur : Cursor} {w : World ν}

lemma Faithful.later {origin offset : Nat} (h : Faithful job o origin) (le : origin ≤ offset) :
    Faithful job o offset :=
  fun x net data net' hx => h x net data net' (Nat.le_trans le hx)

/-- Less than the minimum is asked for at once. -/
lemma nextChunk_cases (job : Job ν) (totalSize offset : Nat) :
    totalSize - offset < job.downloadConfig.minChunkSize ∧
        job.nextChunk totalSize offset = totalSize - offset ∨
      job.downloadConfig.minChunkSize ≤ totalSize - offset ∧
        job.nextChunk totalSize offset =
          min job.downloadConfig.chunkSize (totalSize - offset) := by
  unfold nextChunk
  dsimp only
  split
  · next little => exact Or.inl ⟨little, Nat.min_self _⟩
  · next enough => exact Or.inr ⟨Nat.le_of_not_lt enough, rfl⟩

lemma nextChunk_le (job : Job ν) (totalSize offset : Nat) :
    job.nextChunk totalSize offset ≤ totalSize - offset := Nat.min_le_right _ _

lemma nextChunk_pos {totalSize offset : Nat} (positive : 1 ≤ job.downloadConfig.chunkSize)
    (more : offset < totalSize) : 0 < job.nextChunk totalSize offset := by
  have hchunk := nextChunk_cases job totalSize offset
  omega

lemma onFiles_ensures {α : Type} {m : Files α} {post : Post (World ν) PtpIpError α}
    (h : Ensures m w.files ⟨fun a fs => post.returns a (w.setFiles fs),
      fun e fs => post.fails e (w.setFiles fs), fun fs => post.crashes (w.setFiles fs)⟩) :
    Ensures (onFiles m) w post :=
  ensures_within h

lemma Midway.torn (inv : Midway job o origin cur w) : Torn job o origin.target w.files :=
  ⟨⟨_, inv.temp, List.take_prefix _ _⟩, inv.target⟩

lemma Midway.asked (inv : Midway job o origin cur w) (net : ν) (retries : Nat) :
    Midway job o origin cur (w.asked net retries) :=
  ⟨inv.reached, inv.inside, inv.temp, inv.path, inv.atEnd, inv.target, inv.record,
    inv.downloaded, inv.chunks, inv.tiles⟩

/-- Replacing the record leaves temporary file and target as they are. -/
lemma Torn.record {target : Option Bytes} {fs : FileSystem Path} (torn : Torn job o target fs)
    (record : Option Bytes) :
    Torn job o target (update fs (getResumePath job.savePath) record) := by
  obtain ⟨⟨contents, htemp, hfront⟩, htarget⟩ := torn
  refine ⟨⟨contents, ?_, hfront⟩, ?_⟩
  · rw [Function.update_of_ne (getTempPath_ne_getResumePath _), htemp]
  · rw [Function.update_of_ne (getResumePath_ne _).symm, htarget]

/-- Whatever prefix of the object is written, the target stays as it is. -/
lemma Torn.written {target : Option Bytes} {fs : FileSystem Path} (torn : Torn job o target fs)
    {contents : Bytes} (h : contents <+: o) :
    Torn job o target (update fs (getTempPath job.savePath) (some contents)) :=
  ⟨⟨contents, Function.update_self _ _ _, h⟩,
    (Function.update_of_ne (getTempPath_ne _).symm _ _).trans torn.2⟩

lemma saveResumeState_ensures {savePath : Path} {offset : Nat}
    {post : Post (World ν) PtpIpError Unit} (start : post.crashes w)
    (crashed : ∀ record, post.crashes
      (w.setFiles (update w.files (getResumePath savePath) (some record))))
    (returned : post.returns ()
      (w.setFiles (update w.files (getResumePath savePath) (some (decimal offset))))) :
    Ensures (onFiles (saveResumeState savePath offset)) w post :=
  onFiles_ensures (ensures_write start (fun _ => crashed _) returned)

/-- With the record saved the invariant holds for it. -/
lemma Midway.saved (inv : Midway job o origin cur w) :
    Midway job o origin cur (w.setFiles (update w.files (getResumePath job.savePath)
      (some (decimal cur.currentOffset)))) where
  reached := inv.reached
  inside := inv.inside
  temp := by
    rw [← inv.temp]
    exact Function.update_of_ne (getTempPath_ne_getResumePath _) _ _
  path := inv.path
  atEnd := inv.atEnd
  target := by
    rw [← inv.target]
    exact Function.update_of_ne (getResumePath_ne _).symm _ _
  record := Or.inl (Function.update_self _ _ _)
  downloaded := inv.downloaded
  chunks := inv.chunks
  tiles := inv.tiles

end loop

section turn

variable {job : Job ν} {o : Bytes} {origin : Origin} {cur : Cursor} {w : World ν}

lemma reportProgress_ensures {totalSize offset last : Nat} {post : Post (World ν) PtpIpError Nat}
    (start : post.crashes w)
    (crashed : ∀ progress, post.crashes { w with progress := progress })
    (returned : ∀ n progress, post.returns n { w with progress := progress }) :
    Ensures (job.reportProgress totalSize offset last) w post := by
  cases h : (job.downloadConfig.progressCheckpoints w.stats.totalBytes).find?
      (fun p => p > last && offset ≥ p) with
  | none =>
    refine ensures_atomic_ok (a := last) (t := w) ?_ start start (returned last w.progress)
    simp only [h]
  | some checkpoint =>
    refine ensures_atomic_ok (a := checkpoint) (t := { w with
      progress := w.progress ++ [(offset, totalSize, false, w.stats)] }) ?_ start (crashed _)
      (returned checkpoint _)
    simp only [h]

/-- The chunk that is written makes the temporary file a longer prefix. -/
lemma take_append_chunk {offset : Nat} {data : Bytes}
    (right : data = (o.drop offset).take data.length) :
    o.take offset ++ data = o.take (offset + data.length) := by
  rw [List.take_add, ← right]

/-- A turn that goes well carries the invariant on by its chunk. -/
lemma Midway.advance (inv : Midway job o origin cur w) {data : Bytes}
    (size : data.length = job.nextChunk o.length cur.currentOffset)
    (right : data = (o.drop cur.currentOffset).take data.length)
    (more : cur.currentOffset < o.length) (progress : List (Nat × Nat × Bool × DownloadStats))
    (last : Nat) :
    Midway job o origin
      ⟨cur.currentOffset + data.length, cur.file.advance data.length, last⟩
      ⟨update (update w.files (getTempPath job.savePath)
          (some (o.take cur.currentOffset ++ data))) (getResumePath job.savePath)
          (some (decimal (cur.currentOffset + data.length))),
        w.net,
        { w.stats with
          downloadedBytes := UInt64.ofNat (cur.currentOffset + data.length)
          chunks := w.stats.chunks + 1 },
        progress, w.accepted ++ [(cur.currentOffset, data.length)]⟩ where
  reached := Nat.le_add_right_of_le inv.reached
  inside := by
    have := nextChunk_le job o.length cur.currentOffset
    dsimp only
    omega
  temp := by
    rw [← take_append_chunk right]
    exact (Function.update_of_ne (getTempPath_ne_getResumePath _) _ _).trans
      (Function.update_self _ _ _)
  path := (File.advance_path _ _).trans inv.path
  atEnd := inv.atEnd.advance _
  target := by
    rw [← inv.target]
    exact (Function.update_of_ne (getResumePath_ne _).symm _ _).trans
      (Function.update_of_ne (getTempPath_ne _).symm _ _)
  record := Or.inl (Function.update_self _ _ _)
  downloaded := rfl
  chunks := by
    simp [inv.chunks]
  tiles positive := tiles_snoc (inv.tiles positive) (size ▸ nextChunk_pos positive more)

/-- One turn: it carries the invariant on, or fails and leaves it for the same offset. -/
theorem downloadChunk_ensures (faithful : Faithful job o origin.offset)
    (inv : Midway job o origin cur w) (more : cur.currentOffset < o.length) :
    Ensures (job.downloadChunk o.length cur) w
      ⟨fun cur' w' => Midway job o origin cur' w' ∧
          cur'.currentOffset = cur.currentOffset + job.nextChunk o.length cur.currentOffset,
        fun _ w' => Midway job o origin cur w' ∧ ¬ Served job o,
        fun w' => Torn job o origin.target w'.files⟩ := by
  rcases downloadRetrying_outcome (askChunk job o cur.currentOffset)
    (job.nextChunk o.length cur.currentOffset) job.sessionConfig.maxRetries w with
    ⟨data, net, net', retries, hrun, hask, unserved⟩ | ⟨e, net, retries, hrun, unserved⟩
  · have inv' := inv.asked net' retries
    refine ensures_bind (ensures_atomic_ok hrun inv.torn inv'.torn ?_)
    by_cases hsize : data.length = job.nextChunk o.length cur.currentOffset
    · -- the chunk is written, counted and recorded
      have hright := faithful cur.currentOffset net data net' inv.reached more hask hsize
      rw [← hsize] at hright
      dsimp only
      rw [if_neg (not_not_intro hsize), ← hsize]
      have hpresent : (w.asked net' retries).files cur.file.path =
          some (o.take cur.currentOffset) := by rw [inv.path]; exact inv.temp
      have hatEnd : cur.file.AtEnd (o.take cur.currentOffset).length := by
        rw [List.length_take_of_le inv.inside]
        exact inv.atEnd
      have hfront : ∀ n, o.take cur.currentOffset ++ data.take n <+: o := by
        intro n
        refine List.IsPrefix.trans ?_ (List.take_prefix (cur.currentOffset + data.length) o)
        rw [← take_append_chunk hright, List.prefix_append_right_inj]
        exact List.take_prefix n data
      have hwritten : Torn job o origin.target (update (w.asked net' retries).files
          (getTempPath job.savePath) (some (o.take cur.currentOffset ++ data))) := by
        have := hfront data.length
        rw [List.take_length] at this
        exact inv'.torn.written this
      refine ensures_bind (onFiles_ensures (ensures_writeAll hpresent hatEnd ?_ ?_))
      · intro n
        rw [inv.path]
        exact inv'.torn.written (hfront n)
      rw [inv.path]
      refine ensures_bind (ensures_atomic_ok rfl hwritten hwritten ?_)
      refine ensures_bind (reportProgress_ensures hwritten (fun _ => hwritten) ?_)
      intro last progress
      have hrecord := fun record => hwritten.record (some record)
      refine ensures_bind (saveResumeState_ensures hwritten hrecord ?_)
      have hdone := inv'.advance hsize hright more progress last
      exact ensures_pure hdone.torn ⟨hdone, rfl⟩
    · -- a chunk of the wrong length is dropped, the resume point saved
      dsimp only
      rw [if_pos hsize]
      have hrecord := fun record => inv'.torn.record (some record)
      refine ensures_bind (saveResumeState_ensures inv'.torn hrecord ?_)
      exact ensures_fail inv'.saved.torn
        ⟨inv'.saved, fun served => unserved hsize (served cur.currentOffset w.net more)⟩
  · exact ensures_bind (ensures_atomic_error hrun inv.torn (inv.asked net retries).torn
      ⟨inv.asked net retries, fun served => unserved (served cur.currentOffset w.net more)⟩)

/-- The whole loop: it reaches the end, runs out of turns, or fails. -/
theorem downloadLoop_ensures (faithful : Faithful job o origin.offset) (turns : Nat)
    (inv : Midway job o origin cur w) :
    Ensures (job.downloadLoop o.length turns cur) w
      ⟨fun r w' => ∃ cur', Midway job o origin cur' w' ∧
          (r = some cur' ∧ cur'.currentOffset = o.length ∨
            r = none ∧ (1 ≤ job.downloadConfig.chunkSize →
              cur.currentOffset + turns ≤ cur'.currentOffset)),
        fun _ w' => (∃ cur', Midway job o origin cur' w' ∧ cur'.currentOffset < o.length) ∧
          ¬ Served job o,
        fun w' => Torn job o origin.target w'.files⟩ := by
  induction turns generalizing cur w with
  | zero =>
    exact ensures_pure inv.torn ⟨cur, inv, Or.inr ⟨rfl, fun _ => Nat.le_refl _⟩⟩
  | succ turns ih =>
    rw [downloadLoop_succ]
    by_cases more : cur.currentOffset < o.length
    · rw [if_pos more]
      refine ensures_bind ((downloadChunk_ensures faithful inv more).mono ?_ ?_ ?_)
      · rintro cur₁ w₁ ⟨inv₁, hnext⟩
        refine (ih inv₁).mono ?_ (fun _ _ h => h) (fun _ h => h)
        rintro r w₂ ⟨cur₂, inv₂, hend | ⟨hnone, hturns⟩⟩
        · exact ⟨cur₂, inv₂, Or.inl hend⟩
        · refine ⟨cur₂, inv₂, Or.inr ⟨hnone, fun positive => ?_⟩⟩
          have := nextChunk_pos positive more
          have := hturns positive
          omega
      · rintro e w₁ ⟨inv₁, unserved⟩
        exact ⟨⟨cur, inv₁, more⟩, unserved⟩
      · exact fun _ h => h
    · rw [if_neg more]
      have hinside := inv.inside
      exact ensures_pure inv.torn ⟨cur, inv, Or.inl ⟨rfl, by omega⟩⟩

end turn

section finish

variable {job : Job ν} {w : World ν}

/-- Publishing moves the temporary file to the target. -/
def moved (savePath : Path) (contents : Bytes) (fs : FileSystem Path) : FileSystem Path :=
  update (update fs (getTempPath savePath) none) savePath (some contents)

def published (savePath : Path) (contents : Bytes) (fs : FileSystem Path) : FileSystem Path :=
  update (moved savePath contents fs) (getResumePath savePath) none

lemma moved_target (savePath : Path) (contents : Bytes) (fs : FileSystem Path) :
    moved savePath contents fs savePath = some contents := Function.update_self _ _ _

lemma moved_temp (savePath : Path) (contents : Bytes) (fs : FileSystem Path) :
    moved savePath contents fs (getTempPath savePath) = none :=
  (Function.update_of_ne (getTempPath_ne _) _ _).trans (Function.update_self _ _ _)

lemma published_target (savePath : Path) (contents : Bytes) (fs : FileSystem Path) :
    published savePath contents fs savePath = some contents :=
  (Function.update_of_ne (getResumePath_ne _).symm _ _).trans (moved_target _ _ _)

lemma published_temp (savePath : Path) (contents : Bytes) (fs : FileSystem Path) :
    published savePath contents fs (getTempPath savePath) = none :=
  (Function.update_of_ne (getTempPath_ne_getResumePath _) _ _).trans (moved_temp _ _ _)

lemma published_record (savePath : Path) (contents : Bytes) (fs : FileSystem Path) :
    published savePath contents fs (getResumePath savePath) = none := Function.update_self _ _ _

/-- The end publishes whatever the temporary file holds. -/
lemma finish_ensures {totalSize : Nat} {contents : Bytes} {post : Post (World ν) PtpIpError Unit}
    (present : w.files (getTempPath job.savePath) = some contents) (start : post.crashes w)
    (crashedMoved : post.crashes (w.setFiles (moved job.savePath contents w.files)))
    (crashed : ∀ progress, post.crashes { w.setFiles
      (published job.savePath contents w.files) with progress := progress })
    (returned : ∀ progress, post.returns () { w.setFiles
      (published job.savePath contents w.files) with progress := progress }) :
    Ensures (job.finish totalSize) w post := by
  refine ensures_bind (onFiles_ensures (ensures_rename present start crashedMoved ?_))
  refine ensures_bind (ensures_attempt (onFiles_ensures ?_))
  have hlast : ∀ fs, fs = published job.savePath contents w.files →
      Ensures (Action.atomic fun w : World ν => .ok () { w with
        progress := w.progress ++ [(totalSize, totalSize, true, w.stats)] })
        (w.setFiles fs) post := by
    rintro fs rfl
    exact ensures_atomic (crashed w.progress) (returned _) (crashed _)
  cases hrecord : moved job.savePath contents w.files (getResumePath job.savePath) with
  | some record =>
    exact ensures_removeFile hrecord crashedMoved (crashed w.progress) (hlast _ rfl)
  | none =>
    have hsame : published job.savePath contents w.files = moved job.savePath contents w.files := by
      rw [published, ← hrecord, Function.update_eq_self]
    exact ensures_withFile_missing hrecord crashedMoved (hlast _ hsame.symm)

/-- Without a temporary file the end fails. -/
lemma finish_missing {totalSize : Nat} {post : Post (World ν) PtpIpError Unit}
    (missing : w.files (getTempPath job.savePath) = none) (start : post.crashes w)
    (failed : post.fails (.io .notFound) w) : Ensures (job.finish totalSize) w post :=
  ensures_bind (onFiles_ensures (ensures_withFile_missing missing start failed))

end finish

section transfer

variable {job : Job ν} {o : Bytes} {w : World ν} {totalSize turns : Nat}

/-- The object has been published. -/
structure Delivered (job : Job ν) (o : Bytes) (offset : Nat) (w : World ν) : Prop where
  target : w.files job.savePath = some o
  temp : w.files (getTempPath job.savePath) = none
  record : w.files (getResumePath job.savePath) = none
  downloaded : w.stats.downloadedBytes = UInt64.ofNat o.length
  chunks : w.stats.chunks = w.accepted.length
  tiles : 1 ≤ job.downloadConfig.chunkSize → Tiles offset w.accepted o.length

/-- What a crash during a transfer leaves. -/
def Interrupted (job : Job ν) (o : Bytes) (target : Option Bytes) (fs : FileSystem Path) : Prop :=
  Torn job o target fs ∨ fs (getTempPath job.savePath) = none ∧ fs job.savePath = some o

/-- A transfer from where a prefix of the object is already in the temporary file. -/
theorem transfer_ensures {offset : Nat} {file : File Path}
    (faithful : Faithful job o offset) (inside : offset ≤ o.length)
    (temp : w.files (getTempPath job.savePath) = some (o.take offset))
    (path : file.path = getTempPath job.savePath) (atEnd : file.AtEnd offset)
    (uncounted : w.stats.chunks = 0 ∧ w.accepted = []) :
    let origin : Origin :=
      ⟨offset, w.files job.savePath, w.files (getResumePath job.savePath)⟩
    Ensures (job.transfer o.length turns offset file) w
      ⟨fun r w' => r = some () ∧ Delivered job o offset w' ∨
          r = none ∧ (1 ≤ job.downloadConfig.chunkSize → offset + turns ≤ o.length),
        fun _ w' => (∃ cur, Midway job o origin cur w' ∧ cur.currentOffset < o.length) ∧
          ¬ Served job o,
        fun w' => Interrupted job o origin.target w'.files⟩ := by
  intro origin
  let w₁ : World ν :=
    { w with stats := { w.stats with downloadedBytes := UInt64.ofNat offset } }
  have inv : Midway job o origin ⟨offset, file, 0⟩ w₁ := {
    reached := Nat.le_refl _
    inside := inside
    temp := temp
    path := path
    atEnd := atEnd
    target := rfl
    record := Or.inr ⟨rfl, rfl⟩
    downloaded := rfl
    chunks := by
      change w.stats.chunks = w.accepted.length
      rw [uncounted.1, uncounted.2]
      rfl
    tiles := fun _ => by
      change Tiles offset w.accepted offset
      rw [uncounted.2]
      exact rfl }
  refine ensures_bind (ensures_atomic_ok rfl (Or.inl inv.torn) (Or.inl inv.torn) ?_)
  refine ensures_bind ((downloadLoop_ensures faithful turns inv).mono ?_ (fun _ _ h => h)
    (fun _ h => Or.inl h))
  rintro r w₂ ⟨cur, inv₂, ⟨rfl, hend⟩ | ⟨rfl, hturns⟩⟩
  · have htemp := inv₂.temp
    rw [hend, List.take_length] at htemp
    have hdelivered : ∀ progress, Delivered job o offset { w₂.setFiles
        (published job.savePath o w₂.files) with progress := progress } := fun progress => {
      target := published_target _ _ _
      temp := published_temp _ _ _
      record := published_record _ _ _
      downloaded := hend ▸ inv₂.downloaded
      chunks := inv₂.chunks
      tiles := fun positive => hend ▸ inv₂.tiles positive }
    refine ensures_bind (finish_ensures htemp (Or.inl inv₂.torn)
      (Or.inr ⟨moved_temp _ _ _, moved_target _ _ _⟩)
      (fun _ => Or.inr ⟨published_temp _ _ _, published_target _ _ _⟩) (fun progress => ?_))
    exact ensures_pure (Or.inr ⟨published_temp _ _ _, published_target _ _ _⟩)
      (Or.inl ⟨rfl, hdelivered progress⟩)
  · refine ensures_pure (Or.inl inv₂.torn) (Or.inr ⟨rfl, fun positive => ?_⟩)
    exact Nat.le_trans (hturns positive) inv₂.inside

/-- With nothing left to transfer only the end is carried out. -/
lemma transfer_done {post : Post (World ν) PtpIpError (Option Unit)} {file : File Path}
    (start : ∀ stats, post.crashes { w with stats := stats })
    (unfinished : turns = 0 → ∀ stats, post.returns none { w with stats := stats })
    (ended : ∀ stats, Ensures (job.finish totalSize) { w with stats := stats }
      ⟨fun _ w' => post.crashes w' ∧ post.returns (some ()) w', post.fails, post.crashes⟩) :
    Ensures (job.transfer totalSize turns totalSize file) w post := by
  refine ensures_bind (ensures_atomic_ok rfl (start w.stats) (start _) (ensures_bind ?_))
  cases turns with
  | zero => exact ensures_pure (start _) (ensures_pure (start _) (unfinished rfl _))
  | succ turns =>
    rw [Drive.downloadLoop, if_neg (Nat.lt_irrefl _)]
    refine ensures_pure (start _) (ensures_bind ((ended _).mono ?_ (fun _ _ h => h)
      (fun _ h => h)))
    exact fun _ _ h => ensures_pure h.1 h.2

end transfer

/-- The whole download, by what the check finds. -/
theorem download_ensures {job : Job ν} {w : World ν} {totalSize turns : Nat}
    {post : Post (World ν) PtpIpError (Option Unit)}
    (size : job.platform.asUsize w.stats.totalBytes.toNat = totalSize)
    (start : post.crashes w)
    (meets : Plan.Meets job.savePath totalSize w.files
      ⟨fun r fs => Ensures (job.transfer totalSize turns r.1 r.2) (w.setFiles fs) post,
        fun e fs => post.fails e (w.setFiles fs), fun fs => post.crashes (w.setFiles fs)⟩
      (plan job.platform job.savePath totalSize w.files)) :
    Ensures (job.downloadObjectWithResume turns) w post := by
  refine ensures_bind (ensures_atomic_ok rfl start start ?_)
  dsimp only
  rw [size]
  exact ensures_bind (onFiles_ensures (checkResumeState_ensures start meets))

/-- The same, by the situation that the check finds. -/
lemma download_finds {job : Job ν} {w : World ν} {totalSize turns : Nat}
    {post : Post (World ν) PtpIpError (Option Unit)}
    (size : job.platform.asUsize w.stats.totalBytes.toNat = totalSize)
    (start : post.crashes w)
    (meets : ∀ p, Finds job.platform job.savePath totalSize w.files p →
      Plan.Meets job.savePath totalSize w.files
        ⟨fun r fs => Ensures (job.transfer totalSize turns r.1 r.2) (w.setFiles fs) post,
          fun e fs => post.fails e (w.setFiles fs), fun fs => post.crashes (w.setFiles fs)⟩ p) :
    Ensures (job.downloadObjectWithResume turns) w post :=
  download_ensures size start (meets _ (finds _ _ _ _))

end DownloadRun
