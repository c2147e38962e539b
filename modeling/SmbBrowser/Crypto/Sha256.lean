import SmbBrowser.Base.Bytes

/-!
# SHA-256 and HMAC-SHA-256

Models of `sha256` and `hmacSha256` of native_smb/Smb2Signing.cpp.
-/

namespace SmbBrowser.Native

open SmbBrowser.Base

/-- Model of `rotr` (Smb2Signing.cpp:19). -/
def rotr (value shift : UInt32) : UInt32 := (value >>> shift) ||| (value <<< (32 - shift))

/-- Model of `paddedSha256Message` (Smb2Signing.cpp:62): zeros are appended until
    56 bytes of the last block are used. -/
def paddedSha256Message (data : Bytes) : Bytes :=
  data ++ 0x80 :: List.replicate ((119 - data.length % 64) % 64) 0 ++
    beBytes 8 (data.length * 8 % 2 ^ 64)

/-- The round constants of `sha256`. -/
def sha256Constants : List UInt32 :=
  [0x428a2f98, 0x71374491, 0xb5c0fbcf, 0xe9b5dba5,
   0x3956c25b, 0x59f111f1, 0x923f82a4, 0xab1c5ed5,
   0xd807aa98, 0x12835b01, 0x243185be, 0x550c7dc3,
   0x72be5d74, 0x80deb1fe, 0x9bdc06a7, 0xc19bf174,
   0xe49b69c1, 0xefbe4786, 0x0fc19dc6, 0x240ca1cc,
   0x2de92c6f, 0x4a7484aa, 0x5cb0a9dc, 0x76f988da,
   0x983e5152, 0xa831c66d, 0xb00327c8, 0xbf597fc7,
   0xc6e00bf3, 0xd5a79147, 0x06ca6351, 0x14292967,
   0x27b70a85, 0x2e1b2138, 0x4d2c6dfc, 0x53380d13,
   0x650a7354, 0x766a0abb, 0x81c2c92e, 0x92722c85,
   0xa2bfe8a1, 0xa81a664b, 0xc24b8b70, 0xc76c51a3,
   0xd192e819, 0xd6990624, 0xf40e3585, 0x106aa070,
   0x19a4c116, 0x1e376c08, 0x2748774c, 0x34b0bcb5,
   0x391c0cb3, 0x4ed8aa4a, 0x5b9cca4f, 0x682e6ff3,
   0x748f82ee, 0x78a5636f, 0x84c87814, 0x8cc70208,
   0x90befffa, 0xa4506ceb, 0xbef9a3f7, 0xc67178f2]

/-- The eight words of the state. -/
structure Sha256State where
  a : UInt32
  b : UInt32
  c : UInt32
  d : UInt32
  e : UInt32
  f : UInt32
  g : UInt32
  h : UInt32
  deriving DecidableEq

namespace Sha256State

/-- The state before the first block. -/
def initial : Sha256State where
  a := 0x6a09e667
  b := 0xbb67ae85
  c := 0x3c6ef372
  d := 0xa54ff53a
  e := 0x510e527f
  f := 0x9b05688c
  g := 0x1f83d9ab
  h := 0x5be0cd19

/-- One round with its constant and its word of the schedule. -/
def round (s : Sha256State) (k w : UInt32) : Sha256State :=
  let s1 := rotr s.e 6 ^^^ rotr s.e 11 ^^^ rotr s.e 25
  let ch := (s.e &&& s.f) ^^^ (~~~s.e &&& s.g)
  let temp1 := s.h + s1 + ch + k + w
  let s0 := rotr s.a 2 ^^^ rotr s.a 13 ^^^ rotr s.a 22
  let maj := (s.a &&& s.b) ^^^ (s.a &&& s.c) ^^^ (s.b &&& s.c)
  let temp2 := s0 + maj
  { a := temp1 + temp2, b := s.a, c := s.b, d := s.c,
    e := s.d + temp1, f := s.e, g := s.f, h := s.g }

/-- `h0 += a` and so on after the rounds of a block. -/
def add (s t : Sha256State) : Sha256State where
  a := s.a + t.a
  b := s.b + t.b
  c := s.c + t.c
  d := s.d + t.d
  e := s.e + t.e
  f := s.f + t.f
  g := s.g + t.g
  h := s.h + t.h

/-- The digest: the words in big-endian order. -/
def toBytes (s : Sha256State) : Bytes :=
  [s.a, s.b, s.c, s.d, s.e, s.f, s.g, s.h].flatMap fun word => beBytes 4 word.toNat

@[simp] theorem length_toBytes (s : Sha256State) : s.toBytes.length = 32 := by
  simp [toBytes]

end Sha256State

/-- The words of the schedule from the one at the head of `window` on, which
    holds it and the fifteen after it. -/
def sha256Schedule : ℕ → List UInt32 → List UInt32
  | 0, _ => []
  | count + 1, window =>
    let w (i : ℕ) : UInt32 := window.getD i 0
    let s0 := rotr (w 1) 7 ^^^ rotr (w 1) 18 ^^^ (w 1 >>> 3)
    let s1 := rotr (w 14) 17 ^^^ rotr (w 14) 19 ^^^ (w 14 >>> 10)
    w 0 :: sha256Schedule count (window.tail ++ [w 0 + s0 + w 9 + s1])

/-- The words of a block. -/
def sha256Words (block : Bytes) : List UInt32 :=
  (List.range 16).map fun i => UInt32.ofNat (beValue (slice block (i * 4) 4 |>.getD []))

/-- The rounds of one block. -/
def sha256Block (s : Sha256State) (block : Bytes) : Sha256State :=
  s.add ((sha256Constants.zip (sha256Schedule 64 (sha256Words block))).foldl
    (fun s kw => s.round kw.1 kw.2) s)

/-- The loop over the blocks. -/
def sha256Blocks : ℕ → Sha256State → Bytes → Sha256State
  | 0, s, _ => s
  | blocks + 1, s, bytes => sha256Blocks blocks (sha256Block s (bytes.take 64)) (bytes.drop 64)

/-- Model of `sha256` (Smb2Signing.cpp:377). -/
def sha256 (data : Bytes) : Bytes :=
  let bytes := paddedSha256Message data
  (sha256Blocks (bytes.length / 64) .initial bytes).toBytes

@[simp] theorem length_sha256 (data : Bytes) : (sha256 data).length = 32 :=
  Sha256State.length_toBytes _

/-- Model of `hmacSha256` (Smb2Signing.cpp:469). -/
def hmacSha256 (key data : Bytes) : Bytes :=
  let normalizedKey := if key.length > 64 then sha256 key else key
  let normalizedKey := normalizedKey ++ List.replicate (64 - normalizedKey.length) 0
  let innerPad := normalizedKey.map (· ^^^ 0x36)
  let outerPad := normalizedKey.map (· ^^^ 0x5C)
  sha256 (outerPad ++ sha256 (innerPad ++ data))

@[simp] theorem length_hmacSha256 (key data : Bytes) : (hmacSha256 key data).length = 32 :=
  length_sha256 _

end SmbBrowser.Native
