import PtpipCore.Responses
import PtpipCore.Lib.FrontReaders

/-!
# The formats of response payloads

What a parser accepts, by positions: the numbers stand one behind the other, the texts in
ranges that the numbers name. On a platform of 64 bits no sum of an offset and a length
wraps.
-/

namespace ResponseFormats

open Effects ByteStream FrontReaders Text Types Responses
open Resume (Platform)
open EStateM (Result)

section texts

/-- The range that is named at a position. -/
def rangeAt (bs : Bytes) (pos : Nat) : Nat × Nat :=
  ((u32At bs pos).toNat, (u32At bs (pos + 4)).toNat)

/-- The range lies within the data, and holds the text up to its first zero byte. -/
def HoldsText (data : Bytes) (range : Nat × Nat) (text : List Char) : Prop :=
  range.1 + range.2 ≤ data.length ∧
    decodeUtf8 (((data.drop range.1).take range.2).takeWhile (· ≠ 0)) = some text

section platforms

variable {platform : Platform}

/-- The range at the front, in the numbers of the platform. -/
def castRange (platform : Platform) (bs : Bytes) : Nat × Nat :=
  (platform.asUsize (rangeAt bs 0).1, platform.asUsize (rangeAt bs 0).2)

lemma readsFront_readRange_cast : ReadsFront (readRange platform) 8 (castRange platform) := by
  unfold readRange
  exact readsFront_readU32Be.bind fun offset =>
    readsFront_readU32Be.map fun length =>
      (platform.asUsize offset.toNat, platform.asUsize length.toNat)

lemma failsOnly_readRange {P : Failure → Prop} (h : ∀ kind, P (FromIo.fromIo kind)) :
    FailsOnly P (readRange platform) :=
  failsOnly_bind (failsOnly_readU32Be h) fun _ _ _ _ =>
    failsOnly_bind (failsOnly_readU32Be h) fun _ _ _ _ => failsOnly_pure _

lemma rangeAt_lt (bs : Bytes) (pos : Nat) :
    (rangeAt bs pos).1 < 2 ^ 32 ∧ (rangeAt bs pos).2 < 2 ^ 32 :=
  ⟨(u32At bs pos).toNat_lt, (u32At bs (pos + 4)).toNat_lt⟩

/-- A number of four bytes is one of the platform. -/
abbrev Wide (platform : Platform) : Prop := 32 ≤ platform.usizeBits

lemma asUsize_of_lt_u32 (wide : Wide platform) {n : Nat} (h : n < 2 ^ 32) :
    platform.asUsize n = n :=
  Platform.asUsize_of_lt (Nat.lt_of_lt_of_le h (Nat.pow_le_pow_right Nat.zero_lt_two wide))

lemma readsFront_readRange_wide (wide : Wide platform) :
    ReadsFront (readRange platform) 8 (rangeAt · 0) := by
  have hcast : castRange platform = (rangeAt · 0) := by
    funext bs
    obtain ⟨hoffset, hlength⟩ := rangeAt_lt bs 0
    rw [castRange, asUsize_of_lt_u32 wide hoffset, asUsize_of_lt_u32 wide hlength]
  rw [← hcast]
  exact readsFront_readRange_cast

/-- Offset and length are added up without loss, or are refused in spite of it. -/
def AddsUp (platform : Platform) (data : Bytes) (range : Nat × Nat) : Prop :=
  platform.asUsize (range.1 + range.2) = range.1 + range.2 ∨
    data.length < platform.asUsize (range.1 + range.2)

/-- A slice begins behind its end only if the sum lost something. -/
lemma extractString_not_panic {data : Bytes} {range : Nat × Nat}
    (addsUp : AddsUp platform data range) :
    extractString platform data range ≠ .error .panic := by
  obtain ⟨offset, length⟩ := range
  simp only [extractString]
  split
  · exact fun h => by cases h
  · next inside =>
    have hstop : platform.asUsize (offset + length) = offset + length := by
      rcases addsUp with exact | refused
      · exact exact
      · exact absurd refused inside
    rw [hstop, if_neg (by omega)]
    split <;> exact fun h => by cases h

/-- The call ends with a value or an error that is returned. -/
def Survives (e : Failure) : Prop := e ≠ .panic

lemma io_survives (kind : ErrorKind) : Survives (FromIo.fromIo kind) := fun h => by cases h

lemma parseAt_not_panic {α : Type} {position : Nat} {m : Parser α} {data : Bytes}
    (h : ErrorIs Survives (m (arrived (data.drop position)))) :
    parseAt position m data ≠ .error .panic :=
  fun hpanic => answer_errors_iff.mpr h .panic hpanic rfl

lemma extract_bind_survives {α : Type} {data : Bytes} {range : Nat × Nat}
    (addsUp : AddsUp platform data range) {f : List Char → Parser α} {s : List Arrival}
    (rest : ∀ text, ErrorIs Survives (f text s)) :
    ErrorIs Survives ((ofExcept (extractString platform data range) >>= f) s) := by
  refine ofExcept_errorIs_bind_iff.mpr ⟨?_, fun text _ => rest text⟩
  rintro e herror rfl
  exact extractString_not_panic addsUp herror

end platforms

lemma asUsize_bits64 (v : UInt32) : Platform.bits64.asUsize v.toNat = v.toNat :=
  Platform.asUsize_of_lt (Nat.lt_trans v.toNat_lt (by decide))

lemma readsFront_readRange : ReadsFront (readRange .bits64) 8 (rangeAt · 0) :=
  readsFront_readRange_wide (by decide)

/-- No sum of two numbers of four bytes wraps. -/
lemma asUsize_add {offset length : Nat} (hoffset : offset < 2 ^ 32) (hlength : length < 2 ^ 32) :
    Platform.bits64.asUsize (offset + length) = offset + length :=
  Platform.asUsize_of_lt (by change _ < 2 ^ 64; omega)

lemma addsUp_bits64 (data : Bytes) (pos : Nat) : AddsUp .bits64 data (rangeAt data pos) :=
  Or.inl (asUsize_add (rangeAt_lt data pos).1 (rangeAt_lt data pos).2)

/-- Of a range that four bytes each can name, exactly the text in it is extracted. -/
lemma extractString_ok_iff {data : Bytes} {range : Nat × Nat} {text : List Char}
    (small : range.1 < 2 ^ 32 ∧ range.2 < 2 ^ 32) :
    extractString .bits64 data range = .ok text ↔ HoldsText data range text := by
  obtain ⟨offset, length⟩ := range
  have hstop : Platform.bits64.asUsize (offset + length) = offset + length :=
    asUsize_add small.1 small.2
  simp only [extractString, HoldsText, hstop, Nat.add_sub_cancel_left]
  by_cases inside : data.length < offset + length
  · rw [if_pos inside]
    exact iff_of_false (fun h => by cases h) (fun h => absurd inside (Nat.not_lt_of_le h.1))
  · rw [if_neg inside, if_neg (by omega)]
    simp only [Nat.le_of_not_lt inside, true_and]
    cases decodeUtf8 (((data.drop offset).take length).takeWhile (· ≠ 0)) with
    | none => exact iff_of_false (fun h => by cases h) (fun h => by cases h)
    | some cs => simp

/-- A position is one behind those before it. -/
lemma rangeAt_drop (bs : Bytes) (pos : Nat) : rangeAt (bs.drop pos) 0 = rangeAt bs pos := by
  simp only [rangeAt, u32At, List.drop_drop, Nat.add_zero, Nat.zero_add]

lemma extract_rangeAt {data bs : Bytes} {pos : Nat} {text : List Char} :
    extractString .bits64 data (rangeAt bs pos) = .ok text ↔ HoldsText data (rangeAt bs pos) text :=
  extractString_ok_iff (rangeAt_lt bs pos)

lemma readRange_written (range : UInt32 × UInt32) (rest : Bytes) :
    readRange .bits64 (arrived (bigEndian 4 range.1.toNat ++ (bigEndian 4 range.2.toNat ++ rest))) =
      .ok (range.1.toNat, range.2.toNat) (arrived rest) := by
  unfold readRange
  rw [bind_ok (readU32Be_written _ _), bind_ok (readU32Be_written _ _), asUsize_bits64,
    asUsize_bits64]
  rfl

end texts

section deviceInfo

/-- The texts and the operations of a device, and where they are. -/
structure DeviceFields (data : Bytes) (info : DeviceInfo) : Prop where
  manufacturer : HoldsText data (rangeAt data 8) info.manufacturer
  model : HoldsText data (rangeAt data 16) info.model
  deviceVersion : HoldsText data (rangeAt data 24) info.deviceVersion
  serialNumber : HoldsText data (rangeAt data 32) info.serialNumber
  supportedOperations : info.supportedOperations =
    (List.range (u16At data 40).toNat).map fun i => u16At data (42 + 2 * i)

lemma parseDeviceInfo_ok_iff (data : Bytes) (info : DeviceInfo) :
    parseDeviceInfo .bits64 data = .ok info ↔
      42 + 2 * (u16At data 40).toNat ≤ data.length ∧ DeviceFields data info := by
  unfold parseDeviceInfo
  split
  · next short => exact iff_of_false (fun h => by cases h) (fun h => by omega)
  rw [parseAt_ok_iff]
  simp only [readsFront_readRange.bind_ok_iff, readsFront_readU16Be.bind_ok_iff,
    (readsFront_repeated readsFront_readU16Be _).bind_ok_iff, ofExcept_bind_eq_ok_iff,
    pure_eq_ok_iff, rangeAt_drop, extract_rangeAt, blocks_eq_map, List.drop_drop,
    List.length_drop, Nat.reduceAdd]
  constructor
  · rintro ⟨s, -, -, -, -, counted, long, manufacturer, hmanufacturer, model, hmodel, version,
      hversion, serial, hserial, rfl, -⟩
    exact ⟨by unfold u16At; omega, hmanufacturer, hmodel, hversion, hserial, rfl⟩
  · rintro ⟨long, fields⟩
    unfold u16At at long
    refine ⟨_, by omega, by omega, by omega, by omega, by omega, by omega, info.manufacturer,
      fields.manufacturer, info.model, fields.model, info.deviceVersion, fields.deviceVersion,
      info.serialNumber, fields.serialNumber, ?_, rfl⟩
    exact congrArg _ fields.supportedOperations.symm

/-- The parser panics at no sum that adds up. -/
lemma parseDeviceInfo_not_panic {platform : Platform} (wide : Wide platform) {data : Bytes}
    (addsUp : ∀ pos ∈ [8, 16, 24, 32], AddsUp platform data (rangeAt data pos)) :
    parseDeviceInfo platform data ≠ .error .panic := by
  unfold parseDeviceInfo
  split
  · exact fun h => by cases h
  refine parseAt_not_panic ?_
  simp only [
    (readsFront_readRange_wide wide).errorIs_bind_iff_own (failsOnly_readRange io_survives),
    readsFront_readU16Be.errorIs_bind_iff_own (failsOnly_readU16Be io_survives),
    (readsFront_repeated readsFront_readU16Be _).errorIs_bind_iff_own
      (failsOnly_repeated (failsOnly_readU16Be io_survives) _),
    rangeAt_drop, List.drop_drop, Nat.reduceAdd]
  intro _ _ _ _ _ _
  refine extract_bind_survives (addsUp 8 (by decide)) fun _ => ?_
  refine extract_bind_survives (addsUp 16 (by decide)) fun _ => ?_
  refine extract_bind_survives (addsUp 24 (by decide)) fun _ => ?_
  exact extract_bind_survives (addsUp 32 (by decide)) fun _ => errorIs_ok _ _

/-- Exactly the payloads of this format are accepted, and none makes the parser panic. -/
theorem device_info_format (data : Bytes) :
    (∀ info, parseDeviceInfo .bits64 data = .ok info ↔
      42 + 2 * (u16At data 40).toNat ≤ data.length ∧ DeviceFields data info) ∧
    parseDeviceInfo .bits64 data ≠ .error .panic :=
  ⟨parseDeviceInfo_ok_iff data,
    parseDeviceInfo_not_panic (by decide) fun pos _ => addsUp_bits64 data pos⟩

end deviceInfo

section storageInfo

/-- The numbers of a storage, and where its texts are. -/
structure StorageFields (data : Bytes) (info : StorageInfo) : Prop where
  storageId : info.storageId = u32At data 8
  storageType : info.storageType = u16At data 12
  filesystemType : info.filesystemType = u16At data 14
  accessCapability : info.accessCapability = u16At data 16
  maxCapacity : info.maxCapacity = u64At data 18
  freeSpaceInBytes : info.freeSpaceInBytes = u64At data 26
  freeSpaceInObjects : info.freeSpaceInObjects = u32At data 34
  storageDescription : HoldsText data (rangeAt data 38) info.storageDescription
  volumeLabel : HoldsText data (rangeAt data 46) info.volumeLabel

lemma parseStorageInfo_ok_iff (data : Bytes) (info : StorageInfo) :
    parseStorageInfo .bits64 data = .ok info ↔ 54 ≤ data.length ∧ StorageFields data info := by
  unfold parseStorageInfo
  split
  · next short => exact iff_of_false (fun h => by cases h) (fun h => by omega)
  rw [parseAt_ok_iff]
  simp only [readsFront_readU16Be.bind_ok_iff, readsFront_readU32Be.bind_ok_iff,
    readsFront_readU64Be.bind_ok_iff, readsFront_readRange.bind_ok_iff, ofExcept_bind_eq_ok_iff,
    pure_eq_ok_iff, rangeAt_drop, extract_rangeAt, List.drop_drop, List.length_drop,
    Nat.reduceAdd]
  constructor
  · rintro ⟨s, -, -, -, -, -, -, -, -, long, desc, hdesc, label, hlabel, rfl, -⟩
    exact ⟨by omega, rfl, rfl, rfl, rfl, rfl, rfl, rfl, hdesc, hlabel⟩
  · rintro ⟨long, fields⟩
    refine ⟨_, by omega, by omega, by omega, by omega, by omega, by omega, by omega, by omega,
      by omega, info.storageDescription, fields.storageDescription, info.volumeLabel,
      fields.volumeLabel, ?_, rfl⟩
    obtain ⟨_, _, _, _, _, _, _, _, _⟩ := info
    obtain ⟨rfl, rfl, rfl, rfl, rfl, rfl, rfl, -, -⟩ := fields
    rfl

/-- The numbers of a storage, and the ranges of its texts. -/
def encodeStorageInfo (info : StorageInfo) (desc label : UInt32 × UInt32) : Bytes :=
  bigEndian 4 info.storageId.toNat ++ bigEndian 2 info.storageType.toNat ++
    bigEndian 2 info.filesystemType.toNat ++ bigEndian 2 info.accessCapability.toNat ++
    bigEndian 8 info.maxCapacity.toNat ++ bigEndian 8 info.freeSpaceInBytes.toNat ++
    bigEndian 4 info.freeSpaceInObjects.toNat ++
    bigEndian 4 desc.1.toNat ++ bigEndian 4 desc.2.toNat ++
    bigEndian 4 label.1.toNat ++ bigEndian 4 label.2.toNat

/-- The range lies within the data and holds the text, with zeros behind it. -/
def Lays (data : Bytes) (range : UInt32 × UInt32) (text : List Char) : Prop :=
  range.1.toNat + range.2.toNat ≤ data.length ∧
    ∃ padding, (data.drop range.1.toNat).take range.2.toNat =
      encodeUtf8 text ++ List.replicate padding 0

lemma Lays.extracted {data : Bytes} {range : UInt32 × UInt32} {text : List Char}
    (lays : Lays data range text) (noNull : '\x00' ∉ text) :
    extractString .bits64 data (range.1.toNat, range.2.toNat) = .ok text := by
  obtain ⟨inside, padding, hrange⟩ := lays
  refine (extractString_ok_iff ⟨range.1.toNat_lt, range.2.toNat_lt⟩).mpr ⟨inside, ?_⟩
  rw [hrange, takeWhile_encodeUtf8 noNull, decodeUtf8_encodeUtf8]

/-- What was written is parsed, wherever the texts are laid. -/
lemma parseStorageInfo_encode {info : StorageInfo} {header rest : Bytes}
    {desc label : UInt32 × UInt32} (headerLength : header.length = 8)
    (noNull : '\x00' ∉ info.storageDescription ∧ '\x00' ∉ info.volumeLabel)
    (hdesc : Lays (header ++ encodeStorageInfo info desc label ++ rest) desc
      info.storageDescription)
    (hlabel : Lays (header ++ encodeStorageInfo info desc label ++ rest) label
      info.volumeLabel) :
    parseStorageInfo .bits64 (header ++ encodeStorageInfo info desc label ++ rest) =
      .ok info := by
  have hextract := And.intro (hdesc.extracted noNull.1) (hlabel.extracted noNull.2)
  have hlength : ¬ (header ++ encodeStorageInfo info desc label ++ rest).length < 40 := by
    simp only [encodeStorageInfo, List.length_append, bigEndian_length, headerLength]
    omega
  have hdrop : (header ++ encodeStorageInfo info desc label ++ rest).drop 8 =
      encodeStorageInfo info desc label ++ rest := by
    rw [List.append_assoc, List.drop_left' headerLength]
  generalize header ++ encodeStorageInfo info desc label ++ rest = data at *
  rw [parseStorageInfo, if_neg hlength, parseAt_ok_iff, hdrop]
  refine ⟨arrived rest, ?_⟩
  simp only [encodeStorageInfo, List.append_assoc]
  rw [bind_ok (readU32Be_written _ _), bind_ok (readU16Be_written _ _),
    bind_ok (readU16Be_written _ _), bind_ok (readU16Be_written _ _),
    bind_ok (readU64Be_written _ _), bind_ok (readU64Be_written _ _),
    bind_ok (readU32Be_written _ _), bind_ok (readRange_written _ _),
    bind_ok (readRange_written _ _)]
  simp only [ofExcept_bind_eq_ok_iff, pure_eq_ok_iff]
  exact ⟨_, hextract.1, _, hextract.2, rfl, trivial⟩

/-- Exactly the payloads of this format are accepted, and a storage that was written is parsed,
with any header and wherever its texts are laid. -/
theorem storage_info_format :
    (∀ data info, parseStorageInfo .bits64 data = .ok info ↔
      54 ≤ data.length ∧ StorageFields data info) ∧
    ∀ (info : StorageInfo) (header rest : Bytes) (desc label : UInt32 × UInt32),
      header.length = 8 → '\x00' ∉ info.storageDescription → '\x00' ∉ info.volumeLabel →
      Lays (header ++ encodeStorageInfo info desc label ++ rest) desc info.storageDescription →
      Lays (header ++ encodeStorageInfo info desc label ++ rest) label info.volumeLabel →
      parseStorageInfo .bits64 (header ++ encodeStorageInfo info desc label ++ rest) =
        .ok info :=
  ⟨parseStorageInfo_ok_iff, fun _ _ _ _ _ headerLength noNull noNull' =>
    parseStorageInfo_encode headerLength ⟨noNull, noNull'⟩⟩

private def card : StorageInfo := ⟨0x00010001, 3, 2, 0, 64, 32, 9, "SD".toList, "D".toList⟩

private def cardHeader : Bytes := [0, 0, 0x20, 0x01, 0, 0, 0, 0]

/-- The label is the end of the description, in one range with a zero behind it. -/
theorem storage_info_format_overlapping :
    parseStorageInfo .bits64 (cardHeader ++ encodeStorageInfo card (54, 3) (55, 2) ++
      encodeUtf8 "SD".toList ++ [0]) = .ok card := by
  rw [List.append_assoc]
  exact storage_info_format.2 card cardHeader _ (54, 3) (55, 2) rfl (by decide) (by decide)
    ⟨by decide, 1, by decide⟩ ⟨by decide, 1, by decide⟩

end storageInfo

section objectInfo

/-- The numbers of an object, and where its texts are. -/
structure ObjectFields (data : Bytes) (objectHandle : UInt32) (info : ObjectInfo) : Prop where
  handle : info.handle = objectHandle
  storageId : info.storageId = u32At data 8
  objectFormat : info.objectFormat = u16At data 12
  protectionStatus : info.protectionStatus = u8At data 14
  objectSize : info.objectSize = u64At data 16
  thumbSize : info.thumbSize = u32At data 24
  filename : HoldsText data (rangeAt data 28) info.filename
  captureDate : HoldsText data (rangeAt data 36) info.captureDate
  modificationDate : HoldsText data (rangeAt data 44) info.modificationDate
  keywords : HoldsText data (rangeAt data 52) info.keywords

/-- Four bytes more are asked for than the format has. -/
theorem object_info_format (objectHandle : UInt32) (data : Bytes) (info : ObjectInfo) :
    parseObjectInfo .bits64 objectHandle data = .ok info ↔
      64 ≤ data.length ∧ ObjectFields data objectHandle info := by
  unfold parseObjectInfo
  split
  · next short => exact iff_of_false (fun h => by cases h) (fun h => by omega)
  rw [parseAt_ok_iff]
  simp only [readsFront_readU8Be.bind_ok_iff, readsFront_readU16Be.bind_ok_iff,
    readsFront_readU32Be.bind_ok_iff, readsFront_readU64Be.bind_ok_iff, skip_bind,
    readsFront_readRange.bind_ok_iff, ofExcept_bind_eq_ok_iff, pure_eq_ok_iff, rangeAt_drop,
    extract_rangeAt, List.drop_drop, List.length_drop, Nat.reduceAdd]
  constructor
  · rintro ⟨s, -, -, -, -, -, -, -, -, -, filename, hfilename, captured, hcaptured, modified,
      hmodified, keywords, hkeywords, rfl, -⟩
    exact ⟨by omega, rfl, rfl, rfl, rfl, rfl, rfl, hfilename, hcaptured, hmodified, hkeywords⟩
  · rintro ⟨long, fields⟩
    refine ⟨_, by omega, by omega, by omega, by omega, by omega, by omega, by omega, by omega,
      by omega, info.filename, fields.filename, info.captureDate, fields.captureDate,
      info.modificationDate, fields.modificationDate, info.keywords, fields.keywords, ?_, rfl⟩
    obtain ⟨_, _, _, _, _, _, _, _, _, _⟩ := info
    obtain ⟨rfl, rfl, rfl, rfl, rfl, rfl, -, -, -, -⟩ := fields
    rfl

private def blank : ObjectInfo := ⟨1, 0, 0, 0, 0, 0, [], [], [], []⟩

/-- The fixed part alone, of an object without bytes and texts, is refused. -/
theorem fixed_part_refused :
    parseObjectInfo .bits64 1 (List.replicate 60 0) =
      fail (.protocolError "Insufficient data length for object info") ∧
    ¬ (parseObjectInfo .bits64 1 (List.replicate 60 0) = .ok blank ↔
      60 ≤ (List.replicate 60 (0 : UInt8)).length ∧
        ObjectFields (List.replicate 60 0) 1 blank) := by
  have hrefused : parseObjectInfo .bits64 1 (List.replicate 60 0) =
      fail (.protocolError "Insufficient data length for object info") := rfl
  have hfields : ObjectFields (List.replicate 60 0) 1 blank :=
    ⟨rfl, by decide, by decide, by decide, by decide, by decide, ⟨by decide, by decide⟩,
      ⟨by decide, by decide⟩, ⟨by decide, by decide⟩, ⟨by decide, by decide⟩⟩
  refine ⟨hrefused, fun accepted => ?_⟩
  cases hrefused.symm.trans (accepted.mpr ⟨by decide, hfields⟩)

end objectInfo

end ResponseFormats
