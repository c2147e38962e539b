import SmbBrowser.Base.Bytes

/-!
# AES-128

Model of the block cipher of native_smb/Smb2Signing.cpp: the substitution box is
computed in the field, not read from a table.

Results:
* `aesSbox_eq_table`: the computed substitution box is the table of the standard;
* `aes128EncryptBlock_eq_table`: so the cipher can be evaluated with the table.
-/

namespace SmbBrowser.Native

open SmbBrowser.Base

/-- `Block16` (Smb2Signing.h). -/
abbrev Block16 := Vector UInt8 16

namespace Block16

/-- The bytes of a block. -/
def toBytes (block : Block16) : Bytes := block.toList

@[simp] theorem length_toBytes (block : Block16) : block.toBytes.length = 16 := by
  simp [toBytes]

/-- The bytes of `bytes` from `offset` on that a block holds, filled up with
    zeros: `std::copy_n` into a block of zeros. -/
def ofBytes (bytes : Bytes) (offset : ℕ) : Block16 :=
  .ofFn fun i => bytes.getD (offset + i) 0

end Block16

/-- Model of `xtime` (Smb2Signing.cpp:178). -/
def xtime (value : UInt8) : UInt8 := (value <<< 1) ^^^ (if value &&& 0x80 ≠ 0 then 0x1B else 0)

/-- The loop of `gfMultiply`, which shifts `right` until it is zero: eight turns
    at most. -/
def gfMultiplyLoop : ℕ → UInt8 → UInt8 → UInt8 → UInt8
  | 0, _, _, result => result
  | fuel + 1, left, right, result =>
    if right = 0 then result
    else gfMultiplyLoop fuel (xtime left) (right >>> 1)
      (if right &&& 1 ≠ 0 then result ^^^ left else result)

/-- Model of `gfMultiply` (Smb2Signing.cpp:183). -/
def gfMultiply (left right : UInt8) : UInt8 := gfMultiplyLoop 8 left right 0

/-- The loop of `gfPow`. -/
def gfPowLoop : ℕ → UInt8 → UInt8 → UInt8 → UInt8
  | 0, _, _, result => result
  | fuel + 1, value, power, result =>
    if power = 0 then result
    else gfPowLoop fuel (gfMultiply value value) (power >>> 1)
      (if power &&& 1 ≠ 0 then gfMultiply result value else result)

/-- Model of `gfPow` (Smb2Signing.cpp:195). -/
def gfPow (value power : UInt8) : UInt8 := gfPowLoop 8 value power 1

/-- Model of `aesSbox` (Smb2Signing.cpp:207). -/
def aesSbox (value : UInt8) : UInt8 :=
  let inverse := if value = 0 then 0 else gfPow value 254
  let rotated (shift : UInt8) : UInt8 := (inverse <<< shift) ||| (inverse >>> (8 - shift))
  (inverse ^^^ rotated 1 ^^^ rotated 2 ^^^ rotated 3 ^^^ rotated 4) ^^^ 0x63

/-- Model of `shiftRows` (Smb2Signing.cpp:229). -/
def shiftRows (s : Block16) : Block16 :=
  #v[s[0], s[5], s[10], s[15], s[4], s[9], s[14], s[3],
     s[8], s[13], s[2], s[7], s[12], s[1], s[6], s[11]]

/-- One column of `mixColumns`. -/
def mixColumn (a₀ a₁ a₂ a₃ : UInt8) : Vector UInt8 4 :=
  #v[gfMultiply a₀ 2 ^^^ gfMultiply a₁ 3 ^^^ a₂ ^^^ a₃,
     a₀ ^^^ gfMultiply a₁ 2 ^^^ gfMultiply a₂ 3 ^^^ a₃,
     a₀ ^^^ a₁ ^^^ gfMultiply a₂ 2 ^^^ gfMultiply a₃ 3,
     gfMultiply a₀ 3 ^^^ a₁ ^^^ a₂ ^^^ gfMultiply a₃ 2]

/-- Model of `mixColumns` (Smb2Signing.cpp:252). -/
def mixColumns (s : Block16) : Block16 :=
  mixColumn s[0] s[1] s[2] s[3] ++ mixColumn s[4] s[5] s[6] s[7] ++
    mixColumn s[8] s[9] s[10] s[11] ++ mixColumn s[12] s[13] s[14] s[15]

/-- Model of `addRoundKey` and of `xorBlocks` (Smb2Signing.cpp:298 and 295). -/
def xorBlocks (left right : Block16) : Block16 := .ofFn fun i => left[i] ^^^ right[i]

/-! ## The cipher

The substitution box is a parameter of the rounds, so that the cipher can also be
evaluated with the table of the standard. -/

section Cipher

variable (sbox : UInt8 → UInt8)

/-- Model of `subBytes` (Smb2Signing.cpp:223). -/
def subBytes (s : Block16) : Block16 := .ofFn fun i => sbox s[i]

/-- The next round key: the four words `expandAes128Key` generates after those
    of `key`. -/
def nextRoundKey (key : Block16) (rcon : UInt8) : Block16 :=
  let a₀ := key[0] ^^^ (sbox key[13] ^^^ rcon)
  let a₁ := key[1] ^^^ sbox key[14]
  let a₂ := key[2] ^^^ sbox key[15]
  let a₃ := key[3] ^^^ sbox key[12]
  let b₀ := key[4] ^^^ a₀
  let b₁ := key[5] ^^^ a₁
  let b₂ := key[6] ^^^ a₂
  let b₃ := key[7] ^^^ a₃
  let c₀ := key[8] ^^^ b₀
  let c₁ := key[9] ^^^ b₁
  let c₂ := key[10] ^^^ b₂
  let c₃ := key[11] ^^^ b₃
  #v[a₀, a₁, a₂, a₃, b₀, b₁, b₂, b₃, c₀, c₁, c₂, c₃,
    key[12] ^^^ c₀, key[13] ^^^ c₁, key[14] ^^^ c₂, key[15] ^^^ c₃]

/-- The round keys after `key`: `rounds` of them, the last of `expandAes128Key`
    being the tenth. -/
def roundKeys (key : Block16) (rcon : UInt8) : ℕ → List Block16
  | 0 => []
  | rounds + 1 =>
    let next := nextRoundKey sbox key rcon
    next :: roundKeys next (xtime rcon) rounds

/-- The rounds of `aes128EncryptBlock` after the first key was added. -/
def encryptRounds : Block16 → List Block16 → Block16
  | s, [] => s
  | s, [last] => xorBlocks (shiftRows (subBytes sbox s)) last
  | s, key :: keys => encryptRounds (xorBlocks (mixColumns (shiftRows (subBytes sbox s))) key) keys

/-- `aes128EncryptBlock` with a given substitution box. -/
def aes128EncryptBlockWith (key plaintext : Block16) : Block16 :=
  encryptRounds sbox (xorBlocks plaintext key) (roundKeys sbox key 1 10)

end Cipher

/-- Model of `aes128EncryptBlock` (Smb2Signing.cpp:493). -/
def aes128EncryptBlock (key plaintext : Block16) : Block16 :=
  aes128EncryptBlockWith aesSbox key plaintext

/-! ## The table of the substitution box -/

/-- The substitution box of the standard, row by row. -/
def sboxTable : List UInt8 :=
  [0x63, 0x7c, 0x77, 0x7b, 0xf2, 0x6b, 0x6f, 0xc5, 0x30, 0x01, 0x67, 0x2b, 0xfe, 0xd7, 0xab, 0x76,
   0xca, 0x82, 0xc9, 0x7d, 0xfa, 0x59, 0x47, 0xf0, 0xad, 0xd4, 0xa2, 0xaf, 0x9c, 0xa4, 0x72, 0xc0,
   0xb7, 0xfd, 0x93, 0x26, 0x36, 0x3f, 0xf7, 0xcc, 0x34, 0xa5, 0xe5, 0xf1, 0x71, 0xd8, 0x31, 0x15,
   0x04, 0xc7, 0x23, 0xc3, 0x18, 0x96, 0x05, 0x9a, 0x07, 0x12, 0x80, 0xe2, 0xeb, 0x27, 0xb2, 0x75,
   0x09, 0x83, 0x2c, 0x1a, 0x1b, 0x6e, 0x5a, 0xa0, 0x52, 0x3b, 0xd6, 0xb3, 0x29, 0xe3, 0x2f, 0x84,
   0x53, 0xd1, 0x00, 0xed, 0x20, 0xfc, 0xb1, 0x5b, 0x6a, 0xcb, 0xbe, 0x39, 0x4a, 0x4c, 0x58, 0xcf,
   0xd0, 0xef, 0xaa, 0xfb, 0x43, 0x4d, 0x33, 0x85, 0x45, 0xf9, 0x02, 0x7f, 0x50, 0x3c, 0x9f, 0xa8,
   0x51, 0xa3, 0x40, 0x8f, 0x92, 0x9d, 0x38, 0xf5, 0xbc, 0xb6, 0xda, 0x21, 0x10, 0xff, 0xf3, 0xd2,
   0xcd, 0x0c, 0x13, 0xec, 0x5f, 0x97, 0x44, 0x17, 0xc4, 0xa7, 0x7e, 0x3d, 0x64, 0x5d, 0x19, 0x73,
   0x60, 0x81, 0x4f, 0xdc, 0x22, 0x2a, 0x90, 0x88, 0x46, 0xee, 0xb8, 0x14, 0xde, 0x5e, 0x0b, 0xdb,
   0xe0, 0x32, 0x3a, 0x0a, 0x49, 0x06, 0x24, 0x5c, 0xc2, 0xd3, 0xac, 0x62, 0x91, 0x95, 0xe4, 0x79,
   0xe7, 0xc8, 0x37, 0x6d, 0x8d, 0xd5, 0x4e, 0xa9, 0x6c, 0x56, 0xf4, 0xea, 0x65, 0x7a, 0xae, 0x08,
   0xba, 0x78, 0x25, 0x2e, 0x1c, 0xa6, 0xb4, 0xc6, 0xe8, 0xdd, 0x74, 0x1f, 0x4b, 0xbd, 0x8b, 0x8a,
   0x70, 0x3e, 0xb5, 0x66, 0x48, 0x03, 0xf6, 0x0e, 0x61, 0x35, 0x57, 0xb9, 0x86, 0xc1, 0x1d, 0x9e,
   0xe1, 0xf8, 0x98, 0x11, 0x69, 0xd9, 0x8e, 0x94, 0x9b, 0x1e, 0x87, 0xe9, 0xce, 0x55, 0x28, 0xdf,
   0x8c, 0xa1, 0x89, 0x0d, 0xbf, 0xe6, 0x42, 0x68, 0x41, 0x99, 0x2d, 0x0f, 0xb0, 0x54, 0xbb, 0x16]

/-- The substitution box computed in the field is the table. -/
theorem aesSbox_eq_table (value : UInt8) : aesSbox value = sboxTable.getD value.toNat 0 := by
  have hall : ∀ i : Fin 256, aesSbox (UInt8.ofNat i) = sboxTable.getD i 0 := by decide +kernel
  have hvalue := hall ⟨value.toNat, value.toNat_lt⟩
  rwa [UInt8.ofNat_toNat] at hvalue

/-- The cipher evaluated with the table. -/
theorem aes128EncryptBlock_eq_table :
    aes128EncryptBlock = aes128EncryptBlockWith fun value => sboxTable.getD value.toNat 0 := by
  funext key plaintext
  rw [aes128EncryptBlock, funext aesSbox_eq_table]

end SmbBrowser.Native
