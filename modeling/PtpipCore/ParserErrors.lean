import PtpipCore.EventFormat
import PtpipCore.IdLists
import PtpipCore.ResponseFormats

/-!
# Which errors malformed data make

Every parser has a guard on the length and refuses what is shorter as a protocol error. What
passes a guard that asks for too little runs out of bytes later, and that is an error of the
operating system.
-/

namespace ParserErrors

open Effects ByteStream FrontReaders Types Responses ResponseFormats EventListener EventFormat
open Resume (Platform)

/-- The error says that the data are malformed. -/
inductive OfData : PtpIpError → Prop where
  | protocolError (message : String) : OfData (.protocolError message)
  | stringEncoding (bytes : Bytes) : OfData (.stringEncoding bytes)

/-- If an error is returned, it is one of the data. -/
def BlamesData (e : Failure) : Prop := ∀ err, e = .error err → OfData err

variable {α : Type}

/-- Whatever error is returned is one of the data. -/
def Blames (r : Except Failure α) : Prop := ∀ err, r = .error (.error err) → OfData err

lemma io_notOfData (kind : ErrorKind) : ¬ OfData (FromIo.fromIo kind) := by
  intro h
  cases kind <;> cases h

lemma io_foreign (kind : ErrorKind) : ¬ BlamesData (FromIo.fromIo kind) :=
  fun h => io_notOfData kind (h _ rfl)

lemma blames_fail (message : String) : Blames (fail (.protocolError message) : Except _ α) := by
  intro err h
  cases h
  exact .protocolError message

lemma blames_parseAt_iff {position : Nat} {m : Parser α} {data : Bytes} :
    Blames (parseAt position m data) ↔ ErrorIs BlamesData (m (arrived (data.drop position))) := by
  rw [← answer_errors_iff]
  constructor
  · rintro blames e he err rfl
    exact blames err he
  · exact fun h err herr => h _ herr err rfl

section texts

variable {platform : Platform}

lemma extractString_blames {data : Bytes} {range : Nat × Nat} :
    ∀ e, extractString platform data range = .error e → BlamesData e := by
  rintro e h err rfl
  simp only [extractString] at h
  split at h
  · cases h
    exact .protocolError _
  split at h
  · cases h
  split at h <;> cases h
  exact .stringEncoding _

/-- The extraction of a text blames the data, and so does the whole if what follows does. -/
lemma extract_bind_blames {data : Bytes} {range : Nat × Nat} {f : List Char → Parser α}
    {s : List Arrival} (rest : ∀ text, ErrorIs BlamesData (f text s)) :
    ErrorIs BlamesData ((ofExcept (extractString platform data range) >>= f) s) :=
  ofExcept_errorIs_bind_iff.mpr ⟨extractString_blames, fun text _ => rest text⟩

lemma parseDeviceInfo_blames_iff (data : Bytes) :
    Blames (parseDeviceInfo platform data) ↔
      data.length < 24 ∨ 42 + 2 * (u16At data 40).toNat ≤ data.length := by
  unfold parseDeviceInfo
  split
  · next short => exact iff_of_true (blames_fail _) (Or.inl short)
  rw [blames_parseAt_iff]
  simp only [readsFront_readRange_cast.errorIs_bind_iff (failsOnly_readRange io_foreign),
    readsFront_readU16Be.errorIs_bind_iff (failsOnly_readU16Be io_foreign),
    (readsFront_repeated readsFront_readU16Be _).errorIs_bind_iff
      (failsOnly_repeated (failsOnly_readU16Be io_foreign) _),
    List.drop_drop, List.length_drop, Nat.reduceAdd]
  constructor
  · rintro ⟨-, -, -, -, counted, long, -⟩
    change 2 * (u16At data 40).toNat ≤ data.length - 42 at long
    omega
  · intro long
    refine ⟨by omega, by omega, by omega, by omega, by omega, ?_, ?_⟩
    · change 2 * (u16At data 40).toNat ≤ data.length - 42
      omega
    · refine extract_bind_blames fun _ => ?_
      refine extract_bind_blames fun _ => ?_
      refine extract_bind_blames fun _ => ?_
      exact extract_bind_blames fun _ => errorIs_ok _ _

lemma parseStorageInfo_blames_iff (data : Bytes) :
    Blames (parseStorageInfo platform data) ↔ data.length < 40 ∨ 54 ≤ data.length := by
  unfold parseStorageInfo
  split
  · next short => exact iff_of_true (blames_fail _) (Or.inl short)
  rw [blames_parseAt_iff]
  simp only [readsFront_readRange_cast.errorIs_bind_iff (failsOnly_readRange io_foreign),
    readsFront_readU16Be.errorIs_bind_iff (failsOnly_readU16Be io_foreign),
    readsFront_readU32Be.errorIs_bind_iff (failsOnly_readU32Be io_foreign),
    readsFront_readU64Be.errorIs_bind_iff (failsOnly_readU64Be io_foreign),
    List.drop_drop, List.length_drop, Nat.reduceAdd]
  constructor
  · rintro ⟨-, -, -, -, -, -, -, -, long, -⟩
    omega
  · intro long
    refine ⟨by omega, by omega, by omega, by omega, by omega, by omega, by omega, by omega,
      by omega, ?_⟩
    refine extract_bind_blames fun _ => ?_
    exact extract_bind_blames fun _ => errorIs_ok _ _

/-- The guard of this parser asks for more than is read. -/
lemma parseObjectInfo_blames (objectHandle : UInt32) (data : Bytes) :
    Blames (parseObjectInfo platform objectHandle data) := by
  unfold parseObjectInfo
  split
  · exact blames_fail _
  rw [blames_parseAt_iff]
  simp only [readsFront_readRange_cast.errorIs_bind_iff (failsOnly_readRange io_foreign),
    readsFront_readU8Be.errorIs_bind_iff (failsOnly_readU8Be io_foreign),
    readsFront_readU16Be.errorIs_bind_iff (failsOnly_readU16Be io_foreign),
    readsFront_readU32Be.errorIs_bind_iff (failsOnly_readU32Be io_foreign),
    readsFront_readU64Be.errorIs_bind_iff (failsOnly_readU64Be io_foreign),
    skip_bind, List.drop_drop, List.length_drop, Nat.reduceAdd]
  refine ⟨by omega, by omega, by omega, by omega, by omega, by omega, by omega, by omega,
    by omega, ?_⟩
  refine extract_bind_blames fun _ => ?_
  refine extract_bind_blames fun _ => ?_
  refine extract_bind_blames fun _ => ?_
  exact extract_bind_blames fun _ => errorIs_ok _ _

end texts

lemma parseIdList_blames_iff (tooShort : String) (data : Bytes) :
    Blames (parseIdList tooShort data) ↔
      data.length < 10 ∨ 12 + 4 * IdLists.idCount data ≤ data.length := by
  unfold parseIdList
  split
  · next short => exact iff_of_true (blames_fail _) (Or.inl short)
  rw [blames_parseAt_iff]
  simp only [readsFront_readU32Be.errorIs_bind_iff (failsOnly_readU32Be io_foreign),
    (readsFront_repeated readsFront_readU32Be _).errorIs_iff
      (failsOnly_repeated (failsOnly_readU32Be io_foreign) _),
    List.drop_drop, List.length_drop, Nat.reduceAdd]
  change _ ∧ 4 * IdLists.idCount data ≤ data.length - 12 ↔ _
  omega

lemma parseEventPacket_blames_iff (packet : PtpIpPacket) :
    (∀ err, parseEventPacket packet = .error err → OfData err) ↔
      packet.payload.length < 6 ∨
        4 + 4 * paramCount packet.payload ≤ packet.payload.length := by
  unfold parseEventPacket
  split
  · next short =>
    refine iff_of_true (fun err h => ?_) (Or.inl short)
    cases h
    exact .protocolError _
  rw [answer_errors_iff]
  simp only [readEvent,
    readsFront_readU16Be.errorIs_bind_iff (failsOnly_readU16Be io_notOfData),
    (readsFront_repeated readsFront_readU32Be _).errorIs_bind_iff
      (failsOnly_repeated (failsOnly_readU32Be io_notOfData) _),
    List.drop_drop, List.length_drop, Nat.reduceAdd]
  constructor
  · rintro ⟨-, -, counted, -⟩
    change 4 * paramCount packet.payload ≤ packet.payload.length - 4 at counted
    omega
  · intro counted
    refine ⟨by omega, by omega, ?_, ?_⟩
    · change 4 * paramCount packet.payload ≤ packet.payload.length - 4
      omega
    · cases eventTypeOf (beU16 (packet.payload.take 2)) with
      | some eventType => exact errorIs_ok _ _
      | none => exact errorIs_error_iff.mpr (.protocolError _)

/-- Malformed data are blamed by every parser exactly if its guard catches whatever is too short
for its reads: the guard refuses the data, or they have all that is read. -/
theorem malformed_blamed_iff (platform : Platform) (objectHandle : UInt32) (data : Bytes)
    (messageType : PtpIpMessageType) (transactionId : UInt32) :
    (Blames (parseDeviceInfo platform data) ↔
      data.length < 24 ∨ 42 + 2 * (u16At data 40).toNat ≤ data.length) ∧
    (Blames (parseStorageInfo platform data) ↔ data.length < 40 ∨ 54 ≤ data.length) ∧
    (Blames (parseStorageIds data) ↔
      data.length < 10 ∨ 12 + 4 * IdLists.idCount data ≤ data.length) ∧
    (Blames (parseObjectHandles data) ↔
      data.length < 10 ∨ 12 + 4 * IdLists.idCount data ≤ data.length) ∧
    Blames (parseObjectInfo platform objectHandle data) ∧
    ((∀ err, parseEventPacket ⟨messageType, transactionId, data⟩ = .error err → OfData err) ↔
      data.length < 6 ∨ 4 + 4 * paramCount data ≤ data.length) :=
  ⟨parseDeviceInfo_blames_iff data, parseStorageInfo_blames_iff data,
    parseIdList_blames_iff _ data, parseIdList_blames_iff _ data,
    parseObjectInfo_blames objectHandle data, parseEventPacket_blames_iff _⟩

/-- A device info that ends behind its second text, and an event that announces one parameter
more than it has. -/
theorem short_data_not_blamed :
    parseDeviceInfo .bits64 (List.replicate 24 0) = .error (.error (.io .unexpectedEof)) ∧
    ¬ Blames (parseDeviceInfo .bits64 (List.replicate 24 0)) ∧
    parseEventPacket ⟨.eventBlock, 9, [0x40, 1, 0, 1, 0, 0]⟩ = .error (.io .unexpectedEof) := by
  have hdevice : parseDeviceInfo .bits64 (List.replicate 24 0) =
      .error (.error (.io .unexpectedEof)) := by decide
  refine ⟨hdevice, fun blames => ?_, by decide⟩
  cases blames _ hdevice

end ParserErrors
