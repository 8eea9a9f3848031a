import PtpipCore.PhotoDownload
import PtpipCore.SidePaths

/-!
# An album over one connection

Photos are downloaded one after the other over the same connection, each under transaction ids
behind those of the ones before it. What one download leaves on the stream is where the next one
goes on, and none of them touches the files of another.
-/

namespace PhotoAlbum

open Effects ByteStream CrashActions FileActions Types Resume ResumePlan Transport Frames
open FrameRoundTrip Commands FrameStreams PartialObject Responses
open CameraClient Deliveries Conversations Download DownloadRun DownloadOutcome SidePaths
open PhotoDownload
open EStateM (Result)

/-- A photo that is asked for, and how and where to. -/
structure Order where
  objectHandle : UInt32
  savePath : Path
  downloadConfig : ChunkDownloadConfig
  turns : Nat

/-- What the downloads of an album return, and what is there after them. -/
structure Album where
  answers : List (Except Failure (Option DownloadStats))
  files : FileSystem Path
  connection : Connection

section client

variable (platform : Platform) (config : SessionConfig)

def Order.download (o : Order) (files : FileSystem Path) (c : Connection) :
    Result Failure (World Connection) (Option DownloadStats) :=
  downloadPhoto platform config o.objectHandle o.savePath o.downloadConfig o.turns files c

/-- One download after the other, whatever becomes of each of them. -/
def downloadAlbum : List Order → FileSystem Path → Connection → Album
  | [], files, c => ⟨[], files, c⟩
  | o :: rest, files, c =>
    let first := o.download platform config files c
    let album := downloadAlbum rest (endState first).files (endState first).net
    { album with answers := answer first :: album.answers }

end client

section files

variable {platform : Platform} {savePath : Path} {totalSize : Nat}
  {files files' : FileSystem Path}

/-- Whatever becomes of a download, it leaves the files alone that are none of its own. -/
lemma download_spares (platform : Platform) (config : SessionConfig) (o : Order)
    (files : FileSystem Path) (c : Connection) {path : Path} (other : path ∉ paths o.savePath) :
    (endState (o.download platform config files c)).files path = files path := by
  rw [Order.download, downloadPhoto]
  cases CameraClient.getObjectInfo platform config o.objectHandle c with
  | error e c => rfl
  | ok objectInfo c =>
    have hkept := framed_unchanged (framed_download
      (wireJob platform config o.objectHandle o.savePath o.downloadConfig) o.turns)
      (World.start files c objectInfo.objectSize) other
    dsimp only
    cases hrun : ((wireJob platform config o.objectHandle o.savePath
        o.downloadConfig).downloadObjectWithResume o.turns).run
        (World.start files c objectInfo.objectSize) with
    | error e w =>
      rw [hrun] at hkept
      exact hkept
    | ok ended w =>
      rw [hrun] at hkept
      exact hkept

/-- Where a download begins is decided by its own files. -/
lemma beginning_congr (same : ∀ path ∈ paths savePath, files' path = files path) :
    beginning savePath files' (plan platform savePath totalSize files') =
      beginning savePath files (plan platform savePath totalSize files) := by
  have hplan : plan platform savePath totalSize files' =
      plan platform savePath totalSize files := by
    unfold plan
    rw [same _ (savePath_mem savePath), same _ (temp_mem savePath), same _ (resume_mem savePath)]
  rw [hplan]
  cases plan platform savePath totalSize files with
  | resume offset => rw [beginning, beginning, same _ (temp_mem savePath)]
  | finished => rfl
  | refuse e => rfl
  | restart => rfl
  | publish contents => rfl
  | fresh => rfl

end files

section albums

/-- A photo of an album: the order for it, what the camera sends, and what an earlier download has
left of it. -/
structure Item where
  order : Order
  shot : Shot
  contents : Bytes

namespace Item

variable (platform : Platform) (config : SessionConfig) (x : Item)

def paths : List Path := SidePaths.paths x.order.savePath

def commands (ids : Nat → UInt32) : List PtpIpPacket :=
  x.shot.commands platform config x.order.objectHandle x.order.savePath x.order.downloadConfig ids

def Serves (ids : Nat → UInt32) : Prop :=
  x.shot.Serves platform config x.order.objectHandle x.order.savePath x.order.downloadConfig ids

/-- The download begins where the camera begins to send, and has turns enough. -/
structure Begins (files : FileSystem Path) : Prop where
  begins : beginning x.order.savePath files
    (plan platform x.order.savePath x.shot.object.length files) = some (x.shot.offset, x.contents)
  enough : x.shot.servings.length < x.order.turns

/-- The rest of the object is behind what was there, and the files beside it are gone. -/
structure Delivered (files : FileSystem Path) : Prop where
  target : files x.order.savePath = some (x.contents ++ x.shot.object.drop x.shot.offset)
  temp : files (getTempPath x.order.savePath) = none
  record : files (getResumePath x.order.savePath) = none

variable {platform x} {files files' : FileSystem Path}

lemma Begins.frame (begins : x.Begins platform files)
    (same : ∀ path ∈ x.paths, files' path = files path) : x.Begins platform files' :=
  ⟨(beginning_congr same).trans begins.begins, begins.enough⟩

lemma Delivered.frame (delivered : x.Delivered files)
    (same : ∀ path ∈ x.paths, files' path = files path) : x.Delivered files' :=
  ⟨(same _ (savePath_mem _)).trans delivered.target, (same _ (temp_mem _)).trans delivered.temp,
    (same _ (resume_mem _)).trans delivered.record⟩

end Item

variable (platform : Platform) (config : SessionConfig)

/-- What the camera sends for an album, the first photo under the first ids. -/
def albumDeliveries (ids : Nat → UInt32) : List Item → List Delivery
  | [] => []
  | x :: rest => x.shot.deliveries ids ++ albumDeliveries (x.shot.idsBehind ids) rest

def albumCommands (ids : Nat → UInt32) : List Item → List PtpIpPacket
  | [] => []
  | x :: rest => x.commands platform config ids ++ albumCommands (x.shot.idsBehind ids) rest

def AllServed (ids : Nat → UInt32) : List Item → Prop
  | [] => True
  | x :: rest => x.Serves platform config ids ∧ AllServed (x.shot.idsBehind ids) rest

variable {platform config} {before : Bytes} {c : Connection} {ids : Nat → UInt32}
  {ds : List Delivery} {sent : List PtpIpPacket} {items : List Item} {files : FileSystem Path}

/-- No two photos of an album share a path. -/
def Apart (items : List Item) : Prop := items.Pairwise fun x y => x.paths.Disjoint y.paths

/-- What an album comes to whose photos are all served. -/
structure AllDelivered (items : List Item) (files : FileSystem Path) (album : Album) : Prop where
  answers : album.answers = items.map fun x => .ok (some x.shot.stats)
  delivered : ∀ x ∈ items, x.Delivered album.files
  others : ∀ path, (∀ x ∈ items, path ∉ x.paths) → album.files path = files path

/-- The first photo arrives, and the rest of the album finds its files as they were. -/
lemma album_arrives (served : AllServed platform config ids items)
    (conveys : Conveys config before c ⟨albumDeliveries ids items ++ ds, sent, ids⟩)
    (begins : ∀ x ∈ items, x.Begins platform files) (apart : Apart items) :
    AllDelivered items files (downloadAlbum platform config (items.map Item.order) files c) ∧
    ∃ ids', Conveys config before
      (downloadAlbum platform config (items.map Item.order) files c).connection
      ⟨ds, sent ++ albumCommands platform config ids items, ids'⟩ := by
  induction items generalizing ids sent files c with
  | nil =>
    refine ⟨⟨rfl, fun x hx => absurd hx List.not_mem_nil, fun _ _ => rfl⟩, ids, ?_⟩
    rw [albumCommands, List.append_nil]
    exact conveys
  | cons x rest ih =>
    obtain ⟨served, servedRest⟩ := served
    obtain ⟨beginsFirst, beginsRest⟩ := List.forall_mem_cons.mp begins
    obtain ⟨apartFirst, apartRest⟩ := List.pairwise_cons.mp apart
    rw [albumDeliveries, List.append_assoc] at conveys
    obtain ⟨w', hrun, target, temp, record, conveys'⟩ :=
      photo_arrives served conveys beginsFirst.begins beginsFirst.enough
    have hfirst : x.order.download platform config files c = .ok (some x.shot.stats) w' := hrun
    have spared : ∀ path ∉ x.paths, w'.files path = files path := by
      intro path other
      have hkept := download_spares platform config x.order files c other
      rw [hfirst] at hkept
      exact hkept
    have begins' : ∀ y ∈ rest, y.Begins platform w'.files := fun y hy =>
      (beginsRest y hy).frame fun path hpath =>
        spared path fun mine => apartFirst y hy mine hpath
    obtain ⟨delivered, ids', conveysRest⟩ := ih servedRest conveys' begins' apartRest
    rw [List.map_cons, downloadAlbum, hfirst]
    refine ⟨⟨?_, ?_, ?_⟩, ids', ?_⟩
    · exact congrArg _ delivered.answers
    · refine List.forall_mem_cons.mpr ⟨?_, delivered.delivered⟩
      refine Item.Delivered.frame ⟨target, temp, record⟩ fun path mine => ?_
      exact delivered.others path fun y hy other => apartFirst y hy mine other
    · intro path others
      obtain ⟨notFirst, notRest⟩ := List.forall_mem_cons.mp others
      exact (delivered.others path notRest).trans (spared path notFirst)
    · rw [albumCommands, ← List.append_assoc]
      exact conveysRest

/-- However the photos are cut into chunks and blocks, whatever comes between them and however often
attempts fail within the retries: every photo of an album is delivered, each to its own path and no
other, its commands have gone out in order, and what was not for the album is left on the stream. -/
theorem album_delivered (onTime : OnTime config c.incoming.clocks)
    (accepting : c.outgoing.outcomes = [])
    (arrivals : c.incoming.arrivals = stream (albumDeliveries c.transactionIds items ++ ds))
    (served : AllServed platform config c.transactionIds items)
    (begins : ∀ x ∈ items, x.Begins platform files) (apart : Apart items) :
    let album := downloadAlbum platform config (items.map Item.order) files c
    AllDelivered items files album ∧
    album.connection.incoming.arrivals = stream ds ∧
    album.connection.outgoing.written = c.outgoing.written ++
      (albumCommands platform config c.transactionIds items).flatMap encoding := by
  have conveys : Conveys config c.outgoing.written c
      ⟨albumDeliveries c.transactionIds items ++ ds, [], c.transactionIds⟩ := {
    incoming := ⟨arrivals, onTime⟩
    outgoing := by rw [List.flatMap_nil, List.append_nil, ← accepting]
    transactionIds := rfl }
  obtain ⟨delivered, ids', conveys'⟩ := album_arrives served conveys begins apart
  refine ⟨delivered, conveys'.incoming.1, ?_⟩
  rw [conveys'.outgoing]
  rfl

/-- A photo of three bytes, and another one in one chunk behind it. -/
private def twoPhotos : List Item :=
  [⟨⟨5, ⟨[], some [97]⟩, ⟨2, 1, fun _ => []⟩, 3⟩, threeByteShot, []⟩,
    ⟨⟨5, ⟨[], some [98]⟩, ⟨3, 1, fun _ => []⟩, 2⟩,
      { threeByteShot with
        object := [4, 5, 6]
        servings := [⟨[], [⟨0, 5, .data ⟨[4, 5, 6], by decide⟩⟩], 0⟩] }, []⟩]

/-- Both photos are there after the album. -/
theorem album_delivered_two :
    let album := downloadAlbum .bits64 ⟨30, 3⟩ (twoPhotos.map Item.order) (fun _ => none)
      (servingCamera (albumDeliveries UInt32.ofNat twoPhotos ++ []))
    album.files ⟨[], some [97]⟩ = some [1, 2, 3] ∧
      album.files ⟨[], some [98]⟩ = some [4, 5, 6] := by
  have served : AllServed .bits64 ⟨30, 3⟩ UInt32.ofNat twoPhotos := by
    refine ⟨threeByteShot_serves, ⟨?_, rfl, rfl, ?_⟩, trivial⟩
    · exact fun _ hg => absurd hg List.not_mem_nil
    · refine .chunk (by decide) ⟨by decide, trivial, ?_, by decide⟩ (.done _)
      unfold Unended
      decide
  have begins : ∀ x ∈ twoPhotos, x.Begins .bits64 fun _ => none := by
    refine List.forall_mem_cons.mpr ⟨⟨rfl, by decide⟩, ?_⟩
    exact List.forall_mem_singleton.mpr ⟨rfl, by decide⟩
  have apart : Apart twoPhotos := by
    have others : ∀ path ∈ paths ⟨[], some [97]⟩, path ∉ paths ⟨[], some [98]⟩ := by decide
    exact List.pairwise_pair.mpr fun path inA inB => others path inA inB
  have onTime : OnTime ⟨30, 3⟩ (servingCamera
      (albumDeliveries UInt32.ofNat twoPhotos ++ [])).incoming.clocks := fun _ _ => Nat.zero_le _
  obtain ⟨⟨-, delivered, -⟩, -⟩ := album_delivered onTime rfl rfl served begins apart
  obtain ⟨first, rest⟩ := List.forall_mem_cons.mp delivered
  exact ⟨first.target, (List.forall_mem_singleton.mp rest).target⟩

end albums

end PhotoAlbum
