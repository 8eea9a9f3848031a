import PtpipCore.PhotoAlbum
import PtpipCore.Lib.CrashRefinement

/-!
# Whole runs of a client

A client opens a session, carries out operations and downloads photos, in any order, and crashes at
any point or not at all. What it does is the same on bytes and on messages: it says the same, sends
the frames of the same commands, and its files are the same at the end and after every crash.
-/

namespace ClientRuns

open Effects ByteStream CrashActions FileActions Refinement CrashRefinement Types Resume
open PartialObject Responses CameraClient Conversations Download DownloadRun DownloadTurns
open ChunkAnswers PhotoDownload PhotoAlbum
open Deliveries (Delivery)
open EStateM (Result)
open Frames (ResponseBody)

variable {ν μ α : Type} {R : ν → μ → Prop}

section downloads

/-- Two worlds that differ in their networks only, and these are related. -/
structure Alike (R : ν → μ → Prop) (w : World ν) (w' : World μ) : Prop where
  files : w.files = w'.files
  net : R w.net w'.net
  stats : w.stats = w'.stats
  progress : w.progress = w'.progress
  accepted : w.accepted = w'.accepted

lemma Alike.asked {w : World ν} {w' : World μ} (alike : Alike R w w') {net : ν} {net' : μ}
    (related : R net net') {retries retries' : Nat} (same : retries = retries') :
    Alike R (w.asked net retries) (w'.asked net' retries') := by
  refine ⟨alike.files, related, ?_, alike.progress, alike.accepted⟩
  rw [World.asked, World.asked, alike.stats, same]

/-- What does not look at the network does the same in worlds that are alike. -/
lemma simulates_alike {f : World ν → World ν} {f' : World μ → World μ} (a : α)
    (alike : ∀ w w', Alike R w w' → Alike R (f w) (f' w')) :
    Simulates (Alike R) (fun w => .ok a (f w) : EStateM PtpIpError (World ν) α)
      (fun w => .ok a (f' w)) :=
  fun w w' states => .ok a (alike w w' states)

lemma refines_onFiles (act : Files α) :
    Refines (Alike R) (onFiles act : Step ν α) (onFiles act : Step μ α) := by
  refine refines_within (fun _ _ alike => alike.files) ?_ act
  intro w w' fs alike
  exact ⟨rfl, alike.net, alike.stats, alike.progress, alike.accepted⟩

lemma downloadRetrying_simulates {ask : EStateM PtpIpError ν Bytes}
    {ask' : EStateM PtpIpError μ Bytes} (simulates : Simulates R ask ask') (left : Nat) :
    Simulates (Alike R) (downloadRetrying ask left) (downloadRetrying ask' left) := by
  have answered : ∀ left (w : World ν) (w' : World μ), Alike R w w' →
      ∀ data net, ask w.net = .ok data net →
        Related (Alike R) (downloadRetrying ask left w) (downloadRetrying ask' left w') := by
    intro left w w' alike data net hask
    have hstep := simulates _ _ alike.net
    rw [hask] at hstep
    obtain ⟨net', hask', related⟩ := hstep.ok_left
    rw [downloadRetrying_ok hask, downloadRetrying_ok hask']
    exact .ok data (alike.asked related (congrArg DownloadStats.retries alike.stats))
  have refused : ∀ (w : World ν) (w' : World μ), Alike R w w' →
      ∀ e net, ask w.net = .error e net → ∃ net', ask' w'.net = .error e net' ∧
        Alike R (w.asked net (w.stats.retries + 1)) (w'.asked net' (w'.stats.retries + 1)) := by
    intro w w' alike e net hask
    have hstep := simulates _ _ alike.net
    rw [hask] at hstep
    obtain ⟨net', hask', related⟩ := hstep.error_left
    exact ⟨net', hask', alike.asked related (by rw [alike.stats])⟩
  induction left with
  | zero =>
    intro w w' alike
    cases hask : ask w.net with
    | ok data net => exact answered 0 w w' alike data net hask
    | error e net =>
      obtain ⟨net', hask', alike'⟩ := refused w w' alike e net hask
      rw [downloadRetrying_last hask, downloadRetrying_last hask']
      exact .error e alike'
  | succ left ih =>
    intro w w' alike
    cases hask : ask w.net with
    | ok data net => exact answered (left + 1) w w' alike data net hask
    | error e net =>
      obtain ⟨net', hask', alike'⟩ := refused w w' alike e net hask
      rw [downloadRetrying_again hask, downloadRetrying_again hask']
      exact ih _ _ alike'

variable {job : Job ν} {getPartialObject : UInt32 → UInt64 → UInt32 → EStateM PtpIpError μ Bytes}

lemma reportProgress_refines (totalSize offset last : Nat) :
    Refines (Alike R) (job.reportProgress totalSize offset last)
      ((onNetwork job getPartialObject).reportProgress totalSize offset last) := by
  refine refines_atomic fun w w' alike => ?_
  have hrun : (job.reportProgress totalSize offset last).run w = _ :=
    reportProgress_run offset last w
  have hrun' : ((onNetwork job getPartialObject).reportProgress totalSize offset last).run w' = _ :=
    reportProgress_run offset last w'
  change Related (Alike R) ((job.reportProgress totalSize offset last).run w)
    (((onNetwork job getPartialObject).reportProgress totalSize offset last).run w')
  rw [hrun, hrun', alike.stats, alike.progress]
  exact .ok _ ⟨alike.files, alike.net, rfl, rfl, alike.accepted⟩

lemma countChunk_refines (offset chunkSize : Nat) :
    Refines (Alike R) (Job.countChunk offset chunkSize : Step ν Unit)
      (Job.countChunk offset chunkSize : Step μ Unit) := by
  refine refines_atomic (simulates_alike () fun w w' alike => ?_)
  refine ⟨alike.files, alike.net, ?_, alike.progress, ?_⟩
  · rw [alike.stats]
  · rw [alike.accepted]

variable (simulates : ∀ handle offset length,
  Simulates R (job.getPartialObject handle offset length) (getPartialObject handle offset length))

include simulates

lemma downloadChunk_refines (totalSize : Nat) (cur : Job.Cursor) :
    Refines (Alike R) (job.downloadChunk totalSize cur)
      ((onNetwork job getPartialObject).downloadChunk totalSize cur) := by
  refine refines_bind (refines_atomic (downloadRetrying_simulates (simulates _ _ _) _))
    fun data => ?_
  refine refines_ite (fun _ => ?_) fun _ => ?_
  · exact refines_bind (refines_onFiles _) fun _ => refines_fail _
  · refine refines_bind (refines_onFiles _) fun file => ?_
    refine refines_bind (countChunk_refines _ _) fun _ => ?_
    refine refines_bind (reportProgress_refines _ _ _) fun last => ?_
    exact refines_bind (refines_onFiles _) fun _ => refines_pure _

lemma downloadLoop_refines (totalSize turns : Nat) (cur : Job.Cursor) :
    Refines (Alike R) (job.downloadLoop totalSize turns cur)
      ((onNetwork job getPartialObject).downloadLoop totalSize turns cur) := by
  induction turns generalizing cur with
  | zero => exact refines_pure none
  | succ turns ih =>
    rw [Job.downloadLoop_succ]
    refine refines_ite (fun _ => ?_) fun _ => refines_pure _
    exact refines_bind (downloadChunk_refines simulates totalSize cur) fun next => ih next

omit simulates in
lemma finish_refines (totalSize : Nat) :
    Refines (Alike R) (job.finish totalSize)
      ((onNetwork job getPartialObject).finish totalSize) := by
  refine refines_bind (refines_onFiles _) fun _ => ?_
  refine refines_bind (refines_attempt (refines_onFiles _)) fun _ => ?_
  refine refines_atomic (simulates_alike () fun w w' alike => ?_)
  refine ⟨alike.files, alike.net, alike.stats, ?_, alike.accepted⟩
  rw [alike.progress, alike.stats]

/-- A download over one network refines the same download over another that it simulates. -/
theorem download_refines (turns : Nat) :
    Refines (Alike R) (job.downloadObjectWithResume turns)
      ((onNetwork job getPartialObject).downloadObjectWithResume turns) := by
  have size : Refines (Alike R)
      (Action.atomic fun w => .ok w.stats.totalBytes w : Step ν UInt64)
      (Action.atomic fun w => .ok w.stats.totalBytes w : Step μ UInt64) :=
    refines_atomic fun w w' alike => by
      rw [alike.stats]
      exact .ok _ alike
  have begun : ∀ offset, Refines (Alike R)
      (Action.atomic fun w => .ok () { w with
        stats := { w.stats with downloadedBytes := UInt64.ofNat offset } } : Step ν Unit)
      (Action.atomic fun w => .ok () { w with
        stats := { w.stats with downloadedBytes := UInt64.ofNat offset } } : Step μ Unit) :=
    fun offset => refines_atomic (simulates_alike () fun w w' alike =>
      ⟨alike.files, alike.net, by rw [alike.stats], alike.progress, alike.accepted⟩)
  refine refines_bind size fun totalBytes => ?_
  refine refines_bind (refines_onFiles _) fun r => ?_
  refine refines_bind (begun r.1) fun _ => ?_
  refine refines_bind (downloadLoop_refines simulates _ turns _) fun ended => ?_
  cases ended with
  | none => exact refines_pure none
  | some cur => exact refines_bind (finish_refines _) fun _ => refines_pure _

end downloads

section clients

/-- The files that a client downloads to, and its network. -/
structure Site (ν : Type) where
  files : FileSystem Path
  net : ν

def Site.netPart : Part (Site ν) ν where
  get s := s.net
  set net s := { s with net := net }
  set_get _ := rfl

/-- What a download leaves behind when its statistics have been given out. -/
def siteOf (w : World ν) : Site ν := ⟨w.files, w.net⟩

def onNet (m : EStateM Failure ν α) : Action (Site ν) Failure α := .atomic (Site.netPart.run m)

/-- What a client asks of its network: on bytes, or on messages. -/
structure Access (ν : Type) where
  connect : EStateM Failure ν UInt32
  perform : UInt32 → Operation → EStateM Failure ν Reply
  objectInfo : UInt32 → EStateM Failure ν ObjectInfo
  getPartialObject : UInt32 → UInt64 → UInt32 → EStateM PtpIpError ν Bytes

variable (platform : Platform) (config : SessionConfig)

def onBytes : Access Connection where
  connect := CameraClient.connect config
  perform sessionId op := op.perform platform config sessionId
  objectInfo := CameraClient.getObjectInfo platform config
  getPartialObject := PartialObject.getPartialObject config

def onMessages : Access Line where
  connect := Line.connect
  perform sessionId op := op.performed platform sessionId
  objectInfo objectHandle := Line.exchange .getObjectInfo (bigEndian 4 objectHandle.toNat)
    (parseObjectInfo platform objectHandle)
  getPartialObject := Line.getPartialObject

/-- What a client is told to do. -/
inductive Command where
  | operate (op : Operation)
  | download (order : Order)

inductive Said where
  | reply (reply : Reply)
  | downloaded (stats : Option DownloadStats)

namespace Access

variable (access : Access ν)

def job (o : Order) : Job ν where
  platform := platform
  getPartialObject := access.getPartialObject
  objectHandle := o.objectHandle
  savePath := o.savePath
  sessionConfig := config
  downloadConfig := o.downloadConfig

/-- The chunks of an object of this size, with statistics of their own. -/
def transfer (o : Order) (objectSize : UInt64) : Action (Site ν) Failure (Option DownloadStats) :=
  inside (fun s => World.start s.files s.net objectSize) siteOf (fun _ => rfl) Failure.error do
    let ended ← (access.job platform config o).downloadObjectWithResume o.turns
    .atomic fun w => .ok (ended.map fun _ => w.stats) w

def downloadPhoto (o : Order) : Action (Site ν) Failure (Option DownloadStats) := do
  let objectInfo ← onNet (access.objectInfo o.objectHandle)
  access.transfer platform config o objectInfo.objectSize

def carryOut (sessionId : UInt32) : Command → Action (Site ν) Failure Said
  | .operate op => do
    let reply ← onNet (access.perform sessionId op)
    return .reply reply
  | .download o => do
    let stats ← access.downloadPhoto platform config o
    return .downloaded stats

/-- One command after the other, whatever becomes of each of them; also behind a panic, where the
program would unwind. -/
def carryOutAll (sessionId : UInt32) :
    List Command → Action (Site ν) Failure (List (Except Failure Said))
  | [] => return []
  | command :: commands => do
    let said ← (access.carryOut platform config sessionId command).attempt
    let rest ← carryOutAll sessionId commands
    return said :: rest

/-- A whole run of a client. -/
def runs (commands : List Command) :
    Action (Site ν) Failure (UInt32 × List (Except Failure Said)) := do
  let sessionId ← onNet access.connect
  let said ← access.carryOutAll platform config sessionId commands
  return (sessionId, said)

end Access

end clients

section refinement

/-- The same files, and related networks. -/
structure Beside (R : ν → μ → Prop) (s : Site ν) (t : Site μ) : Prop where
  files : s.files = t.files
  net : R s.net t.net

/-- All that is asked of one network is answered alike by the other. -/
structure AccessRefines (R : ν → μ → Prop) (access : Access ν) (access' : Access μ) : Prop where
  connect : Simulates R access.connect access'.connect
  perform : ∀ sessionId op,
    Simulates R (access.perform sessionId op) (access'.perform sessionId op)
  objectInfo : ∀ objectHandle,
    Simulates R (access.objectInfo objectHandle) (access'.objectInfo objectHandle)
  getPartialObject : ∀ objectHandle offset length,
    Simulates R (access.getPartialObject objectHandle offset length)
      (access'.getPartialObject objectHandle offset length)

lemma refines_onNet {m : EStateM Failure ν α} {m' : EStateM Failure μ α}
    (simulates : Simulates R m m') : Refines (Beside R) (onNet m) (onNet m') := by
  refine refines_atomic (simulates_parts (fun _ _ beside => beside.net) ?_ simulates)
  intro s t net net' beside related
  exact ⟨beside.files, related⟩

variable {access : Access ν} {access' : Access μ} (refines : AccessRefines R access access')
  (platform : Platform) (config : SessionConfig)

include refines

lemma transfer_refines (o : Order) (objectSize : UInt64) :
    Refines (Beside R) (access.transfer platform config o objectSize)
      (access'.transfer platform config o objectSize) := by
  have download : Refines (Alike R)
      ((access.job platform config o).downloadObjectWithResume o.turns)
      ((access'.job platform config o).downloadObjectWithResume o.turns) :=
    download_refines refines.getPartialObject o.turns
  refine refines_inside (Q := Alike R) ?_ ?_ Failure.error ?_
  · intro s t beside
    exact ⟨beside.files, beside.net, rfl, rfl, rfl⟩
  · intro w w' alike
    exact ⟨alike.files, alike.net⟩
  · refine refines_bind download fun ended => refines_atomic fun w w' alike => ?_
    rw [alike.stats]
    exact .ok _ alike

lemma carryOut_refines (sessionId : UInt32) (command : Command) :
    Refines (Beside R) (access.carryOut platform config sessionId command)
      (access'.carryOut platform config sessionId command) := by
  cases command with
  | operate op =>
    exact refines_bind (refines_onNet (refines.perform sessionId op)) fun _ => refines_pure _
  | download o =>
    refine refines_bind ?_ fun _ => refines_pure _
    refine refines_bind (refines_onNet (refines.objectInfo o.objectHandle)) fun objectInfo => ?_
    exact transfer_refines refines platform config o objectInfo.objectSize

lemma carryOutAll_refines (sessionId : UInt32) (commands : List Command) :
    Refines (Beside R) (access.carryOutAll platform config sessionId commands)
      (access'.carryOutAll platform config sessionId commands) := by
  induction commands with
  | nil => exact refines_pure []
  | cons command commands ih =>
    refine refines_bind (refines_attempt ?_) fun said => ?_
    · exact carryOut_refines refines platform config sessionId command
    · exact refines_bind ih fun rest => refines_pure _

lemma runs_refines (commands : List Command) :
    Refines (Beside R) (access.runs platform config commands)
      (access'.runs platform config commands) := by
  refine refines_bind (refines_onNet refines.connect) fun sessionId => ?_
  exact refines_bind (carryOutAll_refines refines platform config sessionId commands)
    fun said => refines_pure _

end refinement

section results

variable (platform : Platform) (config : SessionConfig) (before : Bytes)

lemma bytes_refine :
    AccessRefines (Conveys config before) (onBytes platform config) (onMessages platform) where
  connect := connect_simulates
  perform sessionId op := op.perform_simulates platform config sessionId
  objectInfo objectHandle := by
    refine exchange_simulates .getObjectInfo ?_ _
    rw [bigEndian_length]
  getPartialObject := getPartialObject_simulates config before

/-- A photo that a client downloads is one that is downloaded over its connection. -/
lemma downloadPhoto_onBytes (o : Order) (s : Site Connection) :
    ((onBytes platform config).downloadPhoto platform config o).run s =
      leaving siteOf id (o.download platform config s.files s.net) := by
  rw [Order.download, PhotoDownload.downloadPhoto]
  cases hinfo : CameraClient.getObjectInfo platform config o.objectHandle s.net with
  | error e c =>
    exact Action.run_bind_error (Site.netPart.run_error hinfo)
  | ok objectInfo c =>
    refine (Action.run_bind_ok (Site.netPart.run_ok hinfo)).trans ?_
    dsimp only
    cases hrun : ((wireJob platform config o.objectHandle o.savePath
        o.downloadConfig).downloadObjectWithResume o.turns).run
        (World.start s.files c objectInfo.objectSize) with
    | error e w => exact congrArg (leaving siteOf Failure.error) (Action.run_bind_error hrun)
    | ok ended w => exact congrArg (leaving siteOf Failure.error) (Action.run_bind_ok hrun)

private def done : ResponseBody := ⟨[0, 0, 0x20, 0x01, 0, 0, 0, 2], by decide⟩

private def noSuchObject : ResponseBody := ⟨[0, 0, 0x20, 0x09, 0, 0, 0, 6], by decide⟩

/-- The opening, a refusal, the size of a photo, and its chunks: the second one comes after a read
that times out. -/
private def delivered : List Delivery :=
  [.frame ⟨0, 1, .response done⟩, .frame ⟨0, 2, .response noSuchObject⟩,
    .frame ⟨0, 3, .response threeByteShot.info.body⟩, .frame ⟨0, 4, .data ⟨[11, 12], by decide⟩⟩,
    .frame ⟨0, 4, .data ⟨[], by decide⟩⟩, .fault .timedOut,
    .frame ⟨0, 6, .data ⟨[13], by decide⟩⟩, .frame ⟨0, 6, .data ⟨[], by decide⟩⟩]

private def commanded : List Command :=
  [.operate (.deleteObject 5), .download ⟨5, ⟨[], some [97]⟩, ⟨2, 1, fun _ => []⟩, 3⟩]

end results

end ClientRuns
