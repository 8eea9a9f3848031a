import PtpipCore.Discovery
import PtpipCore.Lib.LossyText

/-!
# Names of cameras for C

A C program gets the name of a camera as a pointer to its bytes with a zero byte behind them.
A name with a zero byte of its own cannot be given so, and the pointer is null; trimming takes
such bytes off both ends of a name, but not from within it.
-/

namespace CameraNames

open ByteStream Text Types Transport Discovery

/-- What a pointer to characters points to, up to its end; nothing for the null pointer. -/
abbrev CStr := Option Bytes

def rustStrToC (rustStr : Bytes) : CStr :=
  if 0 ∈ rustStr then none else some (rustStr ++ [0])

/-- The bytes up to the first zero byte, if they are text. -/
def cStrToRust : CStr → Option Bytes
  | none => none
  | some memory =>
    let text := memory.takeWhile (· ≠ 0)
    if (decodeUtf8 text).isSome then some text else none

structure CCameraInfo where
  ipAddress : Bytes
  port : UInt16
  modelName : CStr
  vendorId : UInt32
  deriving DecidableEq, Repr

def ipv4ToBytes (ip : Ipv4Addr) : Bytes := [ip.a, ip.b, ip.c, ip.d]

/-- What the C interface makes of a camera. -/
def cCamera (camera : DiscoveredCamera) : CCameraInfo :=
  ⟨ipv4ToBytes camera.ipAddress, camera.port, rustStrToC camera.modelName,
    camera.vendorExtensionId⟩

/-- The pointer is not null, and the text comes back from it. -/
def Usable (name : CStr) (text : Bytes) : Prop := name ≠ none ∧ cStrToRust name = some text

/-- Of texts, those without a zero byte can be given to C. -/
lemma usable_iff {text : Bytes} (valid : (decodeUtf8 text).isSome) :
    Usable (rustStrToC text) text ↔ 0 ∉ text := by
  unfold rustStrToC
  split
  · next zero => exact iff_of_false (fun h => h.1 rfl) (fun h => h zero)
  · next noZero =>
    have htext : (text ++ [0]).takeWhile (· ≠ 0) = text := by
      rw [List.takeWhile_append_of_pos, List.takeWhile_cons_of_neg (by decide), List.append_nil]
      intro b hb
      exact decide_eq_true fun h => noZero (h ▸ hb)
    refine iff_of_true ⟨Option.some_ne_none _, ?_⟩ noZero
    rw [cStrToRust, htext]
    exact if_pos valid

lemma toStringLossy_decodes (bs : Bytes) : (decodeUtf8 (toStringLossy bs)).isSome := by
  obtain ⟨cs, hcs⟩ := toStringLossy_valid bs
  rw [hcs, decodeUtf8_encodeUtf8]
  rfl

/-- The null characters at the ends of a name are the zero bytes at the ends of its bytes. -/
lemma trimNulls_toStringLossy (bs : Bytes) :
    trimNulls (toStringLossy bs) = toStringLossy (trimNulls bs) := by
  change ((toStringLossy bs).dropWhile (· = 0)).rdropWhile (· = 0) = _
  rw [dropWhile_toStringLossy, rdropWhile_toStringLossy]
  rfl

/-- The C name of a camera is usable exactly if the bytes of its name have no zero byte but at
their ends. -/
theorem camera_name_usable_iff {datagram : Bytes} {src : SocketAddr} {camera : DiscoveredCamera}
    (announced : parseDiscoveryResponse datagram src = .ok (some camera)) :
    Usable (cCamera camera).modelName camera.modelName ↔ 0 ∉ trimNulls (datagram.drop 14) := by
  rw [parseDiscoveryResponse_eq] at announced
  obtain ⟨-, -, -, ip, -, rfl⟩ := decode_eq_some (Except.ok.inj announced)
  have hname : (cameraIn datagram ip).modelName = toStringLossy (trimNulls (datagram.drop 14)) :=
    trimNulls_toStringLossy _
  change Usable (rustStrToC (cameraIn datagram ip).modelName) (cameraIn datagram ip).modelName ↔ _
  rw [hname, usable_iff (toStringLossy_decodes _), zero_mem_toStringLossy]

/-- A response from an address, with this name in it. -/
private def response (name : Bytes) : Bytes :=
  [0, 2, 1, 0, 0, 0, 0, 6, 0, 1, 0x3C, 0xA9, 0, 0] ++ name

private def address : Ipv4Addr := ⟨192, 168, 1, 1⟩

/-- A name in a field of six bytes. -/
theorem camera_name_usable_padded :
    Usable (rustStrToC (encodeUtf8 "Z7".toList)) (encodeUtf8 "Z7".toList) :=
  have announced : parseDiscoveryResponse (response (encodeUtf8 "Z7".toList ++ [0, 0, 0, 0]))
      (.v4 address 1900) = .ok (some ⟨address, 15529, encodeUtf8 "Z7".toList, 6, 1⟩) := by decide
  (camera_name_usable_iff announced).mpr (by decide)

/-- The field of a name holds something behind the end of the name. -/
theorem camera_name_null :
    parseDiscoveryResponse (response [0x5A, 0x37, 0, 0x49]) (.v4 address 1900) =
      .ok (some ⟨address, 15529, [0x5A, 0x37, 0, 0x49], 6, 1⟩) ∧
    (cCamera ⟨address, 15529, [0x5A, 0x37, 0, 0x49], 6, 1⟩).modelName = none ∧
    ¬ Usable (cCamera ⟨address, 15529, [0x5A, 0x37, 0, 0x49], 6, 1⟩).modelName
      [0x5A, 0x37, 0, 0x49] := by
  refine ⟨by decide, by decide, fun usable => ?_⟩
  exact usable.1 (by decide)

end CameraNames
