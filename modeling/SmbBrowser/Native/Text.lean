import SmbBrowser.Native.Types

/-!
# UTF-8 and UTF-16LE texts

Models of `encodeUtf16Le`, `decodeUtf16Le` and `appendUtf8CodePoint`
(native_smb/Protocol.cpp), and of the little-endian reads the decoders are
built from.  A read outside its buffer is undefined in the source; here it is
the failure `outOfBounds`.
-/

namespace SmbBrowser.Native

open SmbBrowser.Base

/-! ## Reads -/

/-- What a read outside its buffer gives. -/
def outOfBounds : ProtocolError :=
  { code := .internalError, message := "read outside the buffer" }

/-- The range `[data + off, data + off + len)`. -/
def readBytes (data : ByteVector) (off len : ℕ) : DecodeResult ByteVector :=
  match slice data off len with
  | some bytes => .ok bytes
  | none => .error outOfBounds

/-- `data[off]`. -/
def readU8 (data : ByteVector) (off : ℕ) : DecodeResult UInt8 := do
  return UInt8.ofNat (leValue (← readBytes data off 1))

/-- Model of `readU16Le(data + off)` (Protocol.cpp:50). -/
def readU16Le (data : ByteVector) (off : ℕ) : DecodeResult UInt16 := do
  return UInt16.ofNat (leValue (← readBytes data off 2))

/-- Model of `readU32Le(data + off)` (Protocol.cpp:55). -/
def readU32Le (data : ByteVector) (off : ℕ) : DecodeResult UInt32 := do
  return UInt32.ofNat (leValue (← readBytes data off 4))

/-- Model of `readU64Le(data + off)` (Protocol.cpp:62). -/
def readU64Le (data : ByteVector) (off : ℕ) : DecodeResult UInt64 := do
  return UInt64.ofNat (leValue (← readBytes data off 8))

/-- Model of `appendU16Le` (Protocol.cpp:18). -/
def u16Le (value : UInt16) : ByteVector := leBytes 2 value.toNat

/-- Model of `appendU32Le` (Protocol.cpp:23). -/
def u32Le (value : UInt32) : ByteVector := leBytes 4 value.toNat

/-- Model of `appendU64Le` (Protocol.cpp:29). -/
def u64Le (value : UInt64) : ByteVector := leBytes 8 value.toNat

@[simp] theorem length_u16Le (v : UInt16) : (u16Le v).length = 2 := length_leBytes ..
@[simp] theorem length_u32Le (v : UInt32) : (u32Le v).length = 4 := length_leBytes ..
@[simp] theorem length_u64Le (v : UInt64) : (u64Le v).length = 8 := length_leBytes ..

@[simp] theorem ofNat_leValue_u16Le (v : UInt16) : UInt16.ofNat (leValue (u16Le v)) = v := by
  rw [u16Le, leValue_leBytes, show 256 ^ 2 = 2 ^ 16 from rfl, Nat.mod_eq_of_lt v.toNat_lt,
    UInt16.ofNat_toNat]

@[simp] theorem ofNat_leValue_u32Le (v : UInt32) : UInt32.ofNat (leValue (u32Le v)) = v := by
  rw [u32Le, leValue_leBytes, show 256 ^ 4 = 2 ^ 32 from rfl, Nat.mod_eq_of_lt v.toNat_lt,
    UInt32.ofNat_toNat]

@[simp] theorem ofNat_leValue_u64Le (v : UInt64) : UInt64.ofNat (leValue (u64Le v)) = v := by
  rw [u64Le, leValue_leBytes, show 256 ^ 8 = 2 ^ 64 from rfl, Nat.mod_eq_of_lt v.toNat_lt,
    UInt64.ofNat_toNat]

theorem readBytes_of_le {data : ByteVector} {off len : ℕ} (h : off + len ≤ data.length) :
    readBytes data off len = .ok ((data.drop off).take len) := by
  rw [readBytes, slice_of_le h]

theorem readBytes_eq_ok {data bytes : ByteVector} {off len : ℕ} :
    readBytes data off len = .ok bytes ↔
      off + len ≤ data.length ∧ bytes = (data.drop off).take len := by
  rw [← slice_eq_some, readBytes]
  cases slice data off len with
  | none => simp
  | some slice => simp

theorem readBytes_skip {a : ByteVector} (b : ByteVector) {off len : ℕ} (h : a.length ≤ off) :
    readBytes (a ++ b) off len = readBytes b (off - a.length) len := by
  rw [readBytes, readBytes, slice_skip b h]

theorem readBytes_here {a : ByteVector} (b : ByteVector) {len : ℕ} (h : a.length = len) :
    readBytes (a ++ b) 0 len = .ok a := by
  rw [readBytes, slice_here b h]

@[simp] theorem readBytes_zero_length (a : ByteVector) : readBytes a 0 a.length = .ok a := by
  rw [readBytes, slice_zero_length]

/-- The failure of a read is `outOfBounds`. -/
theorem error_of_readBytes {data : ByteVector} {off len : ℕ} {e : ProtocolError}
    (h : readBytes data off len = .error e) : e = outOfBounds := by
  unfold readBytes at h
  split at h
  · cases h
  · cases h
    rfl

/-! ## UTF-16LE -/

/-- A continuation byte of a UTF-8 sequence. -/
def isContinuation (b : UInt8) : Bool := b &&& 0xC0 == 0x80

/-- One UTF-16 code unit or surrogate pair of `encodeUtf16Le` (Protocol.cpp:296). -/
def utf16Units (codePoint : UInt32) : Except Exn ByteVector :=
  if codePoint ≤ 0xFFFF then
    .ok (u16Le codePoint.toUInt16)
  else if codePoint ≤ 0x10FFFF then
    let adjusted := codePoint - 0x10000
    let high := (0xD800 : UInt32) + (adjusted >>> 10)
    let low := (0xDC00 : UInt32) + (adjusted &&& 0x3FF)
    .ok (u16Le high.toUInt16 ++ u16Le low.toUInt16)
  else
    .error (.invalidArgument "Unicode code point is out of range.")

/-- The first code point of a UTF-8 text and the text after it: one turn of the
    loop of `encodeUtf16Le` (Protocol.cpp:300–337). -/
def nextCodePoint (first : UInt8) (rest : ByteVector) : Except Exn (UInt32 × ByteVector) :=
  let continuation : Exn := .invalidArgument "Invalid UTF-8 continuation byte."
  let sequence : Exn := .invalidArgument "Invalid UTF-8 sequence."
  if first &&& 0x80 == 0 then
    .ok (first.toUInt32, rest)
  else if first &&& 0xE0 == 0xC0 ∧ 1 ≤ rest.length then
    match rest with
    | second :: rest =>
      if isContinuation second then
        .ok (((first &&& 0x1F).toUInt32 <<< 6) ||| (second &&& 0x3F).toUInt32, rest)
      else .error continuation
    | _ => .error sequence
  else if first &&& 0xF0 == 0xE0 ∧ 2 ≤ rest.length then
    match rest with
    | second :: third :: rest =>
      if isContinuation second && isContinuation third then
        .ok (((first &&& 0x0F).toUInt32 <<< 12) ||| ((second &&& 0x3F).toUInt32 <<< 6) |||
          (third &&& 0x3F).toUInt32, rest)
      else .error continuation
    | _ => .error sequence
  else if first &&& 0xF8 == 0xF0 ∧ 3 ≤ rest.length then
    match rest with
    | second :: third :: fourth :: rest =>
      if isContinuation second && isContinuation third && isContinuation fourth then
        .ok (((first &&& 0x07).toUInt32 <<< 18) ||| ((second &&& 0x3F).toUInt32 <<< 12) |||
          ((third &&& 0x3F).toUInt32 <<< 6) ||| (fourth &&& 0x3F).toUInt32, rest)
      else .error continuation
    | _ => .error sequence
  else .error sequence

/-- The loop of `encodeUtf16Le`; every turn consumes a byte, so the length of
    the text bounds the number of turns. -/
def encodeUtf16LeLoop : ℕ → ByteVector → Except Exn ByteVector
  | _, [] => .ok []
  | 0, _ => .error .unfinished
  | fuel + 1, first :: rest => do
    let (codePoint, rest) ← nextCodePoint first rest
    let units ← utf16Units codePoint
    return units ++ (← encodeUtf16LeLoop fuel rest)

/-- Model of `encodeUtf16Le` (Protocol.cpp:296–354). -/
def encodeUtf16Le (text : ByteVector) : Except Exn ByteVector :=
  encodeUtf16LeLoop text.length text

/-- Model of `appendUtf8CodePoint` (Protocol.cpp:128). -/
def utf8CodePoint (codePoint : UInt32) : ByteVector :=
  let continuation (shift : UInt32) : UInt8 :=
    ((0x80 : UInt32) ||| ((codePoint >>> shift) &&& 0x3F)).toUInt8
  if codePoint ≤ 0x7F then
    [codePoint.toUInt8]
  else if codePoint ≤ 0x7FF then
    [((0xC0 : UInt32) ||| (codePoint >>> 6)).toUInt8, continuation 0]
  else if codePoint ≤ 0xFFFF then
    [((0xE0 : UInt32) ||| (codePoint >>> 12)).toUInt8, continuation 6, continuation 0]
  else
    [((0xF0 : UInt32) ||| (codePoint >>> 18)).toUInt8, continuation 12, continuation 6,
      continuation 0]

/-- The loop of `decodeUtf16Le` over the code units of a buffer of even length
    (Protocol.cpp:368–390). -/
def decodeUtf16LeLoop : ByteVector → DecodeResult ByteVector
  | low :: high :: rest =>
    let unit : UInt32 := low.toUInt32 ||| (high.toUInt32 <<< 8)
    if 0xD800 ≤ unit ∧ unit ≤ 0xDBFF then
      match rest with
      | low' :: high' :: rest =>
        let next : UInt32 := low'.toUInt32 ||| (high'.toUInt32 <<< 8)
        if next < 0xDC00 ∨ next > 0xDFFF then
          failure .ioError "UTF-16LE high surrogate is not paired."
        else do
          let codePoint := (0x10000 : UInt32) + (((unit - 0xD800) <<< 10) ||| (next - 0xDC00))
          return utf8CodePoint codePoint ++ (← decodeUtf16LeLoop rest)
      | _ => failure .ioError "UTF-16LE high surrogate is truncated."
    else if 0xDC00 ≤ unit ∧ unit ≤ 0xDFFF then
      failure .ioError "UTF-16LE low surrogate has no high surrogate."
    else do
      return utf8CodePoint unit ++ (← decodeUtf16LeLoop rest)
  | _ => .ok []

theorem code_of_decodeUtf16LeLoop {bytes : ByteVector} {e : ProtocolError}
    (h : decodeUtf16LeLoop bytes = .error e) : e.code = .ioError := by
  fun_induction decodeUtf16LeLoop bytes with
  | case1 => injection h with h; rw [← h]
  | case2 low high unit hunit low' high' rest next hnext codePoint ih =>
    cases hrest : decodeUtf16LeLoop rest with
    | error e' =>
      rw [hrest] at h
      injection h with h
      exact ih (by rw [hrest, h])
    | ok text =>
      rw [hrest] at h
      cases h
  | case3 => injection h with h; rw [← h]
  | case4 => injection h with h; rw [← h]
  | case5 low high rest unit hhigh hlow ih =>
    cases hrest : decodeUtf16LeLoop rest with
    | error e' =>
      rw [hrest] at h
      injection h with h
      exact ih (by rw [hrest, h])
    | ok text =>
      rw [hrest] at h
      cases h
  | case6 => cases h

/-- Model of `decodeUtf16Le` (Protocol.cpp:356–393); a vector's `data()` is null
    only when it is empty, so the first check never fails. -/
def decodeUtf16Le (bytes : ByteVector) : DecodeResult ByteVector :=
  if bytes.length % 2 ≠ 0 then
    failure .ioError "UTF-16LE buffer has odd byte length."
  else
    decodeUtf16LeLoop bytes

end SmbBrowser.Native
