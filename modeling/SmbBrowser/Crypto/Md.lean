import SmbBrowser.Base.Bytes

/-!
# MD4, MD5 and HMAC-MD5

Models of `md4`, `md5` and `hmacMd5` of native_smb/NtlmCrypto.cpp.
-/

namespace SmbBrowser.Native

open SmbBrowser.Base

/-- Model of `leftRotate` (NtlmCrypto.cpp:11). -/
def leftRotate (value shift : UInt32) : UInt32 := (value <<< shift) ||| (value >>> (32 - shift))

/-- Model of `paddedMessage` (NtlmCrypto.cpp:36): zeros are appended until 56 bytes
    of the last block are used. -/
def paddedMessage (data : Bytes) : Bytes :=
  data ++ 0x80 :: List.replicate ((119 - data.length % 64) % 64) 0 ++
    leBytes 8 (data.length * 8 % 2 ^ 64)

/-- The four words of the state. -/
structure MdState where
  a : UInt32
  b : UInt32
  c : UInt32
  d : UInt32
  deriving DecidableEq

namespace MdState

/-- The state before the first block. -/
def initial : MdState where
  a := 0x67452301
  b := 0xEFCDAB89
  c := 0x98BADCFE
  d := 0x10325476

/-- `a += aa` and so on after the rounds of a block. -/
def add (s t : MdState) : MdState where
  a := s.a + t.a
  b := s.b + t.b
  c := s.c + t.c
  d := s.d + t.d

/-- The digest: the words in little-endian order. -/
def toBytes (s : MdState) : Bytes :=
  [s.a, s.b, s.c, s.d].flatMap fun word => leBytes 4 word.toNat

@[simp] theorem length_toBytes (s : MdState) : s.toBytes.length = 16 := by
  simp [toBytes]

/-- `Digest16`, which `writeDigestWord` fills word by word. -/
def digest (s : MdState) : Vector UInt8 16 := ⟨s.toBytes.toArray, by simp⟩

end MdState

/-- The words of a block. -/
def mdWords (block : Bytes) : List UInt32 :=
  (List.range 16).map fun i => UInt32.ofNat (leValue (slice block (i * 4) 4 |>.getD []))

/-- The loop over the blocks. -/
def mdBlocks (compress : MdState → Bytes → MdState) : ℕ → MdState → Bytes → MdState
  | 0, s, _ => s
  | blocks + 1, s, bytes => mdBlocks compress blocks (compress s (bytes.take 64)) (bytes.drop 64)

/-! ## MD4 -/

/-- One assignment of a round: `v1 = leftRotate(v1 + f(v2, v3, v4) + word + constant, s)`;
    the first round adds no constant. -/
def md4Step (f : UInt32 → UInt32 → UInt32 → UInt32) (constant v1 v2 v3 v4 word s : UInt32) :
    UInt32 :=
  leftRotate (v1 + f v2 v3 v4 + word + constant) s

/-- The four assignments of one turn of the loop of a round, with the words and the
    shifts they use. -/
def md4Turn (f : UInt32 → UInt32 → UInt32 → UInt32) (constant : UInt32)
    (shifts : UInt32 × UInt32 × UInt32 × UInt32) (s : MdState)
    (words : UInt32 × UInt32 × UInt32 × UInt32) : MdState :=
  let a := md4Step f constant s.a s.b s.c s.d words.1 shifts.1
  let d := md4Step f constant s.d a s.b s.c words.2.1 shifts.2.1
  let c := md4Step f constant s.c d a s.b words.2.2.1 shifts.2.2.1
  let b := md4Step f constant s.b c d a words.2.2.2 shifts.2.2.2
  { a, b, c, d }

def md4F (x y z : UInt32) : UInt32 := (x &&& y) ||| (~~~x &&& z)

def md4G (x y z : UInt32) : UInt32 := (x &&& y) ||| (x &&& z) ||| (y &&& z)

def md4H (x y z : UInt32) : UInt32 := x ^^^ y ^^^ z

/-- The words a round takes in its four turns. -/
def md4Order : ℕ → List (ℕ × ℕ × ℕ × ℕ)
  | 0 => [(0, 1, 2, 3), (4, 5, 6, 7), (8, 9, 10, 11), (12, 13, 14, 15)]
  | 1 => [(0, 4, 8, 12), (1, 5, 9, 13), (2, 6, 10, 14), (3, 7, 11, 15)]
  | _ => [(0, 8, 4, 12), (2, 10, 6, 14), (1, 9, 5, 13), (3, 11, 7, 15)]

/-- One round. -/
def md4Round (f : UInt32 → UInt32 → UInt32 → UInt32) (constant : UInt32)
    (shifts : UInt32 × UInt32 × UInt32 × UInt32) (order : List (ℕ × ℕ × ℕ × ℕ))
    (x : List UInt32) (s : MdState) : MdState :=
  order.foldl (fun s k => md4Turn f constant shifts s
    (x.getD k.1 0, x.getD k.2.1 0, x.getD k.2.2.1 0, x.getD k.2.2.2 0)) s

/-- The rounds of one block. -/
def md4Block (s : MdState) (block : Bytes) : MdState :=
  let x := mdWords block
  let s₁ := md4Round md4F 0 (3, 7, 11, 19) (md4Order 0) x s
  let s₂ := md4Round md4G 0x5A827999 (3, 5, 9, 13) (md4Order 1) x s₁
  let s₃ := md4Round md4H 0x6ED9EBA1 (3, 9, 11, 15) (md4Order 2) x s₂
  s₃.add s

/-- Model of `md4` (NtlmCrypto.cpp:129). -/
def md4 (data : Bytes) : Vector UInt8 16 :=
  let bytes := paddedMessage data
  (mdBlocks md4Block (bytes.length / 64) .initial bytes).digest

/-! ## MD5 -/

/-- `s` (NtlmCrypto.cpp:221). -/
def md5Shifts : List UInt32 :=
  [7, 12, 17, 22, 7, 12, 17, 22, 7, 12, 17, 22, 7, 12, 17, 22,
   5, 9, 14, 20, 5, 9, 14, 20, 5, 9, 14, 20, 5, 9, 14, 20,
   4, 11, 16, 23, 4, 11, 16, 23, 4, 11, 16, 23, 4, 11, 16, 23,
   6, 10, 15, 21, 6, 10, 15, 21, 6, 10, 15, 21, 6, 10, 15, 21]

/-- `k` (NtlmCrypto.cpp:226). -/
def md5Constants : List UInt32 :=
  [0xd76aa478, 0xe8c7b756, 0x242070db, 0xc1bdceee,
   0xf57c0faf, 0x4787c62a, 0xa8304613, 0xfd469501,
   0x698098d8, 0x8b44f7af, 0xffff5bb1, 0x895cd7be,
   0x6b901122, 0xfd987193, 0xa679438e, 0x49b40821,
   0xf61e2562, 0xc040b340, 0x265e5a51, 0xe9b6c7aa,
   0xd62f105d, 0x02441453, 0xd8a1e681, 0xe7d3fbc8,
   0x21e1cde6, 0xc33707d6, 0xf4d50d87, 0x455a14ed,
   0xa9e3e905, 0xfcefa3f8, 0x676f02d9, 0x8d2a4c8a,
   0xfffa3942, 0x8771f681, 0x6d9d6122, 0xfde5380c,
   0xa4beea44, 0x4bdecfa9, 0xf6bb4b60, 0xbebfbc70,
   0x289b7ec6, 0xeaa127fa, 0xd4ef3085, 0x04881d05,
   0xd9d4d039, 0xe6db99e5, 0x1fa27cf8, 0xc4ac5665,
   0xf4292244, 0x432aff97, 0xab9423a7, 0xfc93a039,
   0x655b59c3, 0x8f0ccc92, 0xffeff47d, 0x85845dd1,
   0x6fa87e4f, 0xfe2ce6e0, 0xa3014314, 0x4e0811a1,
   0xf7537e82, 0xbd3af235, 0x2ad7d2bb, 0xeb86d391]

/-- The function of turn `i` and the word it takes. -/
def md5Choice (s : MdState) (i : ℕ) : UInt32 × ℕ :=
  if i < 16 then ((s.b &&& s.c) ||| (~~~s.b &&& s.d), i)
  else if i < 32 then ((s.d &&& s.b) ||| (~~~s.d &&& s.c), (5 * i + 1) % 16)
  else if i < 48 then (s.b ^^^ s.c ^^^ s.d, (3 * i + 5) % 16)
  else (s.c ^^^ (s.b ||| ~~~s.d), (7 * i) % 16)

/-- One turn of the loop over the words. -/
def md5Turn (m : List UInt32) (s : MdState) (i : ℕ) : MdState :=
  let (f, g) := md5Choice s i
  { a := s.d
    b := s.b + leftRotate (s.a + f + md5Constants.getD i 0 + m.getD g 0) (md5Shifts.getD i 0)
    c := s.b
    d := s.c }

/-- The turns of one block. -/
def md5Block (s : MdState) (block : Bytes) : MdState :=
  ((List.range 64).foldl (md5Turn (mdWords block)) s).add s

/-- Model of `md5` (NtlmCrypto.cpp:214). -/
def md5 (data : Bytes) : Vector UInt8 16 :=
  let bytes := paddedMessage data
  (mdBlocks md5Block (bytes.length / 64) .initial bytes).digest

/-- Model of `hmacMd5` (NtlmCrypto.cpp:293). -/
def hmacMd5 (key data : Bytes) : Vector UInt8 16 :=
  let normalizedKey := if key.length > 64 then (md5 key).toList else key
  let normalizedKey := normalizedKey ++ List.replicate (64 - normalizedKey.length) 0
  let innerPad := normalizedKey.map (· ^^^ 0x36)
  let outerPad := normalizedKey.map (· ^^^ 0x5C)
  md5 (outerPad ++ (md5 (innerPad ++ data)).toList)

end SmbBrowser.Native
