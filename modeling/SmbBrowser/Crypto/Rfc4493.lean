import SmbBrowser.Base.BigEndian
import SmbBrowser.Crypto.Blocks

/-!
# AES-CMAC of RFC 4493

`Rfc4493.mac` is written from the RFC over 128-bit strings and an arbitrary block
cipher: subkeys by doubling in GF(2¹²⁸), a last block that is complete or padded,
and the chain over the blocks before it.  `BlockCipher.aes128Cmac` is the code's
function over the same kind of cipher.

Results:
* `toBits_cmacSubkeyDouble`: the byte-wise doubling is the doubling of the field;
* `aes128Cmac_conforms`: under a key of 16 bytes the code computes the MAC of the
  RFC, for every message.
-/

namespace SmbBrowser.Rfc4493

open SmbBrowser.Base

/-! ## The specification -/

/-- The 128-bit string that 16 octets spell. -/
def bits (octets : Bytes) : BitVec 128 := .ofNat 128 (beValue octets)

/-- `const_Rb`: what the reduction by `x¹²⁸ + x⁷ + x² + x + 1` adds. -/
def constRb : BitVec 128 := 0x87

/-- Doubling in GF(2¹²⁸): steps 2 and 3 of the subkey generation. -/
def double (l : BitVec 128) : BitVec 128 := if l.msb then (l <<< 1) ^^^ constRb else l <<< 1

/-- `n`: the number of blocks, one for the empty message. -/
def blockCount (message : Bytes) : ℕ := max 1 ((message.length + 15) / 16)

/-- `M_i`, from one on. -/
def block (message : Bytes) (i : ℕ) : Bytes := (message.drop (16 * (i - 1))).take 16

/-- `padding`: a one bit and as many zero bits as fill the block. -/
def padding (octets : Bytes) : Bytes := octets ++ 0x80 :: List.replicate (15 - octets.length) 0

/-- `flag`: whether the last block is complete. -/
def complete (message : Bytes) : Prop := message ≠ [] ∧ message.length % 16 = 0

instance (message : Bytes) : Decidable (complete message) := inferInstanceAs (Decidable (_ ∧ _))

section

variable (encrypt : BitVec 128 → BitVec 128)

def k1 : BitVec 128 := double (encrypt 0)

def k2 : BitVec 128 := double (k1 encrypt)

/-- `M_last`. -/
def lastBlock (message : Bytes) : BitVec 128 :=
  if complete message then bits (block message (blockCount message)) ^^^ k1 encrypt
  else bits (padding (block message (blockCount message))) ^^^ k2 encrypt

/-- `X` after the first `i` turns of step 6. -/
def chain (message : Bytes) : ℕ → BitVec 128
  | 0 => 0
  | i + 1 => encrypt (chain message i ^^^ bits (block message (i + 1)))

/-- `AES-CMAC` (section 2.4). -/
def mac (message : Bytes) : BitVec 128 :=
  encrypt (lastBlock encrypt message ^^^ chain encrypt message (blockCount message - 1))

end

end SmbBrowser.Rfc4493

namespace SmbBrowser.Native

open SmbBrowser.Base

/-! ## Blocks as bit strings -/

namespace Block16

/-- The 128-bit string of a block. -/
def toBits (block : Block16) : BitVec 128 := Rfc4493.bits block.toBytes

/-- The block of a 128-bit string. -/
def ofBits (value : BitVec 128) : Block16 := .ofBytes (beBytes 16 value.toNat) 0

@[simp] theorem toNat_toBits (block : Block16) : block.toBits.toNat = beValue block.toBytes := by
  have hlt : beValue block.toBytes < 2 ^ 128 := by
    have := beValue_lt block.toBytes
    rwa [length_toBytes, show 256 ^ 16 = 2 ^ 128 by norm_num] at this
  rw [toBits, Rfc4493.bits, BitVec.toNat_ofNat, Nat.mod_eq_of_lt hlt]

@[simp] theorem ofBits_toBits (block : Block16) : ofBits block.toBits = block := by
  have hbytes : beBytes 16 (beValue block.toBytes) = block.toBytes := by
    have := beBytes_beValue block.toBytes
    rwa [length_toBytes] at this
  rw [ofBits, toNat_toBits, hbytes]
  ext i hi
  simp [ofBytes, toBytes]

@[simp] theorem toBits_ofBits (value : BitVec 128) : (ofBits value).toBits = value := by
  apply BitVec.eq_of_toNat_eq
  have hbytes : (ofBits value).toBytes = beBytes 16 value.toNat := by
    rw [ofBits, toBytes_ofBytes (by simp), List.drop_zero, List.take_of_length_le (by simp)]
  rw [toNat_toBits, hbytes, beValue_beBytes]
  exact Nat.mod_eq_of_lt value.isLt

theorem toBits_xorBlocks (left right : Block16) :
    (xorBlocks left right).toBits = left.toBits ^^^ right.toBits := by
  have hbytes : (xorBlocks left right).toBytes =
      List.zipWith (· ^^^ ·) left.toBytes right.toBytes := by
    apply List.ext_getElem
    · simp
    · intro i h₁ h₂
      simp [xorBlocks, toBytes]
  apply BitVec.eq_of_toNat_eq
  rw [BitVec.toNat_xor, toNat_toBits, toNat_toBits, toNat_toBits, hbytes,
    beValue_zipWith_xor (by simp)]

end Block16

/-! ## The subkeys -/

theorem toBytes_leftShiftOneBit (input : Block16) :
    (leftShiftOneBit input).toBytes = shiftLeftBytes input.toBytes := by
  apply List.ext_getElem
  · simp
  · intro i h₁ h₂
    have hi : i < 16 := by simpa using h₁
    have hshift := getD_shiftLeftBytes input.toBytes i
    simp only [List.getD_eq_getElem?_getD, List.getElem?_eq_getElem h₂, Option.getD_some] at hshift
    rw [hshift]
    simp [leftShiftOneBit, Block16.toBytes, hi, Vector.get]

/-- The reduction constant as a block. -/
def reductionBlock : Block16 := .ofBytes (List.replicate 15 0 ++ [0x87]) 0

theorem get_reductionBlock :
    ∀ i : Fin 16, reductionBlock.get i = if i = 15 then 0x87 else 0 := by decide

theorem setIfInBounds_eq_xorBlocks (block : Block16) :
    block.setIfInBounds 15 (block.get 15 ^^^ 0x87) = xorBlocks block reductionBlock := by
  ext i hi
  have hconst : reductionBlock[i] = if (⟨i, hi⟩ : Fin 16) = 15 then 0x87 else 0 :=
    get_reductionBlock ⟨i, hi⟩
  simp only [xorBlocks, Vector.getElem_ofFn, Fin.getElem_fin, hconst]
  by_cases hlast : i = 15
  · subst hlast
    rw [Vector.getElem_setIfInBounds_self]
    rfl
  · have hne : 15 ≠ i := fun h => hlast h.symm
    have hfin : (⟨i, hi⟩ : Fin 16) ≠ 15 := fun h => hlast (congrArg Fin.val h)
    rw [Vector.getElem_setIfInBounds_ne _ hne, if_neg hfin, UInt8.xor_zero]

theorem and_0x80_ne_zero (b : UInt8) : b &&& 0x80 ≠ 0 ↔ 128 ≤ b.toNat := by
  rw [ne_eq, and_0x80_eq_zero, not_lt]

/-- The top bit of a block is the top bit of its first byte. -/
theorem msb_toBits (block : Block16) : block.toBits.msb = decide (block.get 0 &&& 0x80 ≠ 0) := by
  have hcons : block.toBytes = block.get 0 :: block.toBytes.tail := by
    apply List.ext_getElem
    · simp
    · intro i h₁ h₂
      cases i with
      | zero => simp [Block16.toBytes, Vector.get]
      | succ i => simp
  have hlen : block.toBytes.tail.length = 15 := by simp
  have hrest : beValue block.toBytes.tail < 256 ^ 15 := by
    have := beValue_lt block.toBytes.tail
    rwa [hlen] at this
  rw [BitVec.msb_eq_decide, Block16.toNat_toBits, decide_eq_decide, and_0x80_ne_zero, hcons,
    beValue_cons, hlen]
  have hpow : 2 ^ (128 - 1) = 128 * 256 ^ 15 := by norm_num
  rw [hpow]
  generalize 256 ^ 15 = w at hrest
  constructor
  · intro h
    by_contra hlt
    have := Nat.mul_le_mul_right w (show (block.get 0).toNat ≤ 127 by omega)
    omega
  · intro h
    have := Nat.mul_le_mul_right w h
    omega

/-- **The doubling of the code is the doubling of the field.** -/
theorem toBits_cmacSubkeyDouble (input : Block16) :
    (cmacSubkeyDouble input).toBits = Rfc4493.double input.toBits := by
  have hshift : (leftShiftOneBit input).toBits = input.toBits <<< 1 := by
    apply BitVec.eq_of_toNat_eq
    have hwidth : 256 ^ 16 = 2 ^ 128 := by norm_num
    rw [Block16.toNat_toBits, toBytes_leftShiftOneBit, beValue_shiftLeftBytes,
      BitVec.toNat_shiftLeft, Block16.toNat_toBits, Nat.shiftLeft_eq, Block16.length_toBytes,
      Nat.mul_comm, hwidth, pow_one]
  have hconst : reductionBlock.toBits = Rfc4493.constRb := by decide
  rw [cmacSubkeyDouble, Rfc4493.double, msb_toBits]
  by_cases htop : input.get 0 &&& 0x80 ≠ 0
  · rw [if_pos htop, if_pos (by simpa using htop), setIfInBounds_eq_xorBlocks,
      Block16.toBits_xorBlocks, hshift, hconst]
  · rw [if_neg htop, if_neg (by simpa using htop), hshift]

/-! ## The MAC -/

namespace BlockCipher

variable (cipher : BlockCipher)

/-- `aes128Cmac` over a block cipher. -/
def aes128Cmac (key data : Bytes) : DecodeResult Block16 :=
  if key.length ≠ kAesBlockSize then
    failure .unsupportedCapability "AES-128-CMAC requires a 16-byte signing key."
  else
    let encryptBlock := cipher (.ofBytes key 0)
    let k1 := cmacSubkeyDouble (encryptBlock (.replicate 16 0))
    let k2 := cmacSubkeyDouble k1
    let completeFinalBlock : Bool := ¬ data.isEmpty && data.length % kAesBlockSize = 0
    let before := if completeFinalBlock then data.length / kAesBlockSize - 1
      else data.length / kAesBlockSize
    let finalBlock :=
      if completeFinalBlock then xorBlocks (.ofBytes data (before * kAesBlockSize)) k1
      else xorBlocks (paddedFinalBlock data (before * kAesBlockSize)) k2
    let state := macBlocks encryptBlock data before 0 (.replicate 16 0)
    .ok (encryptBlock (xorBlocks state finalBlock))

end BlockCipher

theorem aes128Cmac_eq : aes128Cmac = BlockCipher.aes128Cmac aes128EncryptBlock := rfl

section

variable (encryptBlock : Block16 → Block16)

/-- A block cipher under one key, over 128-bit strings. -/
def onBits (value : BitVec 128) : BitVec 128 := (encryptBlock (.ofBits value)).toBits

theorem toBits_encryptBlock (block : Block16) :
    (encryptBlock block).toBits = onBits encryptBlock block.toBits := by
  rw [onBits, Block16.ofBits_toBits]

theorem toBits_zero : Block16.toBits (.replicate 16 0) = 0 := by decide

theorem toBits_k1 :
    (cmacSubkeyDouble (encryptBlock (.replicate 16 0))).toBits =
      Rfc4493.k1 (onBits encryptBlock) := by
  rw [toBits_cmacSubkeyDouble, toBits_encryptBlock, toBits_zero, Rfc4493.k1]

theorem toBits_k2 :
    (cmacSubkeyDouble (cmacSubkeyDouble (encryptBlock (.replicate 16 0)))).toBits =
      Rfc4493.k2 (onBits encryptBlock) := by
  rw [toBits_cmacSubkeyDouble, toBits_k1, Rfc4493.k2]

/-- The loop over whole blocks is the chain of the RFC. -/
theorem toBits_macBlocks (data : Bytes) {blocks : ℕ} (h : 16 * blocks ≤ data.length) :
    (macBlocks encryptBlock data blocks 0 (.replicate 16 0)).toBits =
      Rfc4493.chain (onBits encryptBlock) data blocks := by
  induction blocks with
  | zero => exact toBits_zero
  | succ blocks ih =>
    have hblock : (Block16.ofBytes data (0 + 16 * blocks)).toBits =
        Rfc4493.bits (Rfc4493.block data (blocks + 1)) := by
      rw [Block16.toBits, Block16.toBytes_ofBytes (by omega), Rfc4493.block, Nat.zero_add,
        Nat.add_sub_cancel]
    rw [macBlocks_succ_last, toBits_encryptBlock, Block16.toBits_xorBlocks, ih (by omega), hblock,
      Rfc4493.chain]

/-- The padded block of the code is the padding of the RFC. -/
theorem toBytes_paddedFinalBlock {data : Bytes} {offset : ℕ} (hle : offset ≤ data.length)
    (hlt : data.length < offset + 16) :
    (paddedFinalBlock data offset).toBytes = Rfc4493.padding (data.drop offset) := by
  have hlen : (data.drop offset ++ [0x80]).length = data.length - offset + 1 := by simp
  have hfill : 0 + 16 - (data.length - offset + 1) = 15 - (data.length - offset) := by omega
  rw [paddedFinalBlock, Block16.toBytes_ofBytes_short (by omega) (by omega), hlen, List.drop_zero,
    hfill, Rfc4493.padding, List.length_drop, List.append_assoc, List.singleton_append]

/-- The last step: the chain over the blocks before the last, then the last. -/
theorem encryptBlock_eq_mac {message : Bytes} {before : ℕ} {finalBlock : Block16}
    (hcount : Rfc4493.blockCount message = before + 1) (hle : 16 * before ≤ message.length)
    (hfinal : finalBlock.toBits = Rfc4493.lastBlock (onBits encryptBlock) message) :
    encryptBlock (xorBlocks (macBlocks encryptBlock message before 0 (.replicate 16 0))
      finalBlock) = .ofBits (Rfc4493.mac (onBits encryptBlock) message) := by
  have hbits : (encryptBlock (xorBlocks (macBlocks encryptBlock message before 0
      (.replicate 16 0)) finalBlock)).toBits = Rfc4493.mac (onBits encryptBlock) message := by
    rw [toBits_encryptBlock, Block16.toBits_xorBlocks, toBits_macBlocks encryptBlock message hle,
      hfinal, BitVec.xor_comm, Rfc4493.mac, hcount, Nat.add_sub_cancel]
  rw [← hbits, Block16.ofBits_toBits]

theorem toBits_completeFinalBlock {message : Bytes} (h : Rfc4493.complete message) :
    (xorBlocks (.ofBytes message ((message.length / 16 - 1) * 16))
      (cmacSubkeyDouble (encryptBlock (.replicate 16 0)))).toBits =
        Rfc4493.lastBlock (onBits encryptBlock) message := by
  have hpos : 0 < message.length := List.length_pos_iff.2 h.1
  have hmod := h.2
  have hcount : Rfc4493.blockCount message - 1 = message.length / 16 - 1 := by
    rw [Rfc4493.blockCount]
    omega
  rw [Block16.toBits_xorBlocks, toBits_k1, Rfc4493.lastBlock, if_pos h, Rfc4493.block, hcount,
    Block16.toBits, Block16.toBytes_ofBytes (by omega), Nat.mul_comm]

theorem length_of_not_complete {message : Bytes} (h : ¬ Rfc4493.complete message) :
    message.length = 0 ∨ message.length % 16 ≠ 0 := by
  by_contra hcontra
  obtain ⟨hne, hmod⟩ := not_or.1 hcontra
  exact h ⟨List.length_pos_iff.1 (by omega), not_not.1 hmod⟩

theorem toBits_paddedFinalBlock {message : Bytes} (h : ¬ Rfc4493.complete message) :
    (xorBlocks (paddedFinalBlock message (message.length / 16 * 16))
      (cmacSubkeyDouble (cmacSubkeyDouble (encryptBlock (.replicate 16 0))))).toBits =
        Rfc4493.lastBlock (onBits encryptBlock) message := by
  have hshort := length_of_not_complete h
  have hcount : Rfc4493.blockCount message - 1 = message.length / 16 := by
    rw [Rfc4493.blockCount]
    omega
  have hblock : Rfc4493.block message (Rfc4493.blockCount message) =
      message.drop (message.length / 16 * 16) := by
    rw [Rfc4493.block, hcount, Nat.mul_comm, List.take_of_length_le]
    rw [List.length_drop]
    omega
  rw [Block16.toBits_xorBlocks, toBits_k2, Rfc4493.lastBlock, if_neg h, hblock, Block16.toBits,
    toBytes_paddedFinalBlock (by omega) (by omega)]

/-- **The code's MAC is the one of the RFC**, whatever the block cipher: for
    every key of one block and every message. -/
theorem aes128Cmac_conforms (cipher : BlockCipher) {key : Bytes} (hkey : key.length = 16)
    (message : Bytes) :
    cipher.aes128Cmac key message =
      .ok (.ofBits (Rfc4493.mac (onBits (cipher (.ofBytes key 0))) message)) := by
  have hlen : ¬ key.length ≠ kAesBlockSize := not_not.2 hkey
  rw [BlockCipher.aes128Cmac, if_neg hlen]
  apply congrArg Except.ok
  by_cases hcomplete : Rfc4493.complete message
  · have hpos : 0 < message.length := List.length_pos_iff.2 hcomplete.1
    have hmod := hcomplete.2
    have hflag : (decide (¬ message.isEmpty) && decide (message.length % kAesBlockSize = 0)) =
        true := by
      simp [kAesBlockSize, hcomplete.1, hmod]
    simp only [hflag, if_true]
    apply encryptBlock_eq_mac
    · show Rfc4493.blockCount message = message.length / 16 - 1 + 1
      rw [Rfc4493.blockCount]
      omega
    · show 16 * (message.length / 16 - 1) ≤ message.length
      omega
    · exact toBits_completeFinalBlock _ hcomplete
  · have hflag : (decide (¬ message.isEmpty) && decide (message.length % kAesBlockSize = 0)) =
        false := by
      by_contra htrue
      simp [kAesBlockSize] at htrue
      exact hcomplete ⟨htrue.1, of_decide_eq_true htrue.2⟩
    simp only [hflag, Bool.false_eq_true, if_false]
    apply encryptBlock_eq_mac
    · show Rfc4493.blockCount message = message.length / 16 + 1
      have hshort := length_of_not_complete hcomplete
      rw [Rfc4493.blockCount]
      omega
    · show 16 * (message.length / 16) ≤ message.length
      omega
    · exact toBits_paddedFinalBlock _ hcomplete

/-- The case of a message that is not a multiple of the block. -/
theorem aes128Cmac_conforms_short :
    BlockCipher.aes128Cmac aes128EncryptBlock (List.replicate 16 1) [1, 2, 3] =
      .ok (.ofBits (Rfc4493.mac (onBits (aes128EncryptBlock (.ofBytes (List.replicate 16 1) 0)))
        [1, 2, 3])) :=
  aes128Cmac_conforms aes128EncryptBlock rfl [1, 2, 3]

end

end SmbBrowser.Native
