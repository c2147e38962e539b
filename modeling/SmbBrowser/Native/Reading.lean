import SmbBrowser.Base.StandsAt
import SmbBrowser.Native.Text

/-!
# Reading what stands at an offset

The reads of the decoders, where the bytes they are after are known.
-/

namespace SmbBrowser.Native

open SmbBrowser.Base

variable {data : ByteVector} {offset : ℕ}

theorem readBytes_standsAt {bytes : ByteVector} (h : StandsAt data offset bytes) :
    readBytes data offset bytes.length = .ok bytes := by
  rw [readBytes, h.slice]

theorem readU16Le_standsAt {value : UInt16} (h : StandsAt data offset (u16Le value)) :
    readU16Le data offset = .ok value := by
  have hread := readBytes_standsAt h
  rw [length_u16Le] at hread
  rw [readU16Le, hread]
  exact congrArg Except.ok (ofNat_leValue_u16Le value)

theorem readU32Le_standsAt {value : UInt32} (h : StandsAt data offset (u32Le value)) :
    readU32Le data offset = .ok value := by
  have hread := readBytes_standsAt h
  rw [length_u32Le] at hread
  rw [readU32Le, hread]
  exact congrArg Except.ok (ofNat_leValue_u32Le value)

end SmbBrowser.Native
