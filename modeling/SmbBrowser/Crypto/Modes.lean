import SmbBrowser.Base.KeyStream
import SmbBrowser.Crypto.Aes
import SmbBrowser.Native.Types

/-!
# AES-128-CMAC and AES-128-CCM

Models of `aes128Cmac` (native_smb/Smb2Signing.cpp) and of `aes128CcmEncrypt`
and `aes128CcmDecrypt` (native_smb/Smb3Encryption.cpp).

CCM never looks into its block cipher, so its facts are proved over an arbitrary
one (`BlockCipher`) first.

Results:
* `BlockCipher.ccmDecrypt_eq_ok`: a message opens to a plaintext exactly when
  sealing that plaintext gives the message back;
* `BlockCipher.exists_ccmEncrypt`: what can be sealed;
* `aes128CcmDecrypt_eq_ok`: the first of them for AES-128.
-/

namespace SmbBrowser.Native

open SmbBrowser.Base

def kAesBlockSize : ℕ := 16

/-- The loop both MACs run over `blocks` blocks of `bytes` from `offset` on. -/
def macBlocks (encryptBlock : Block16 → Block16) (bytes : Bytes) : ℕ → ℕ → Block16 → Block16
  | 0, _, state => state
  | blocks + 1, offset, state =>
    macBlocks encryptBlock bytes blocks (offset + kAesBlockSize)
      (encryptBlock (xorBlocks state (.ofBytes bytes offset)))

/-! ## CMAC -/

/-- Model of `leftShiftOneBit` (Smb2Signing.cpp:306). -/
def leftShiftOneBit (input : Block16) : Block16 :=
  .ofFn fun i => (input.get i <<< 1) ||| (input.toBytes.getD (i + 1) 0 >>> 7)

/-- Model of `cmacSubkeyDouble` (Smb2Signing.cpp:317). -/
def cmacSubkeyDouble (input : Block16) : Block16 :=
  let result := leftShiftOneBit input
  if input.get 0 &&& 0x80 ≠ 0 then result.setIfInBounds 15 (result.get 15 ^^^ 0x87) else result

/-- Model of `paddedFinalBlock` (Smb2Signing.cpp:331). -/
def paddedFinalBlock (bytes : Bytes) (offset : ℕ) : Block16 :=
  .ofBytes (bytes.drop offset ++ [0x80]) 0

/-- Model of `aes128Cmac` (Smb2Signing.cpp:511). -/
def aes128Cmac (key data : Bytes) : DecodeResult Block16 :=
  if key.length ≠ kAesBlockSize then
    failure .unsupportedCapability "AES-128-CMAC requires a 16-byte signing key."
  else
    let encryptBlock := aes128EncryptBlock (.ofBytes key 0)
    let k1 := cmacSubkeyDouble (encryptBlock (.replicate 16 0))
    let k2 := cmacSubkeyDouble k1
    let completeFinalBlock : Bool := ¬ data.isEmpty && data.length % kAesBlockSize = 0
    let before := if completeFinalBlock then data.length / kAesBlockSize - 1
      else data.length / kAesBlockSize
    let finalBlock :=
      if completeFinalBlock then xorBlocks (.ofBytes data (before * kAesBlockSize)) k1
      else xorBlocks (paddedFinalBlock data (before * kAesBlockSize)) k2
    let state := macBlocks encryptBlock data before 0 (.replicate 16 0)
    .ok (encryptBlock (xorBlocks state finalBlock))

/-- A key of one block always gives a MAC. -/
theorem exists_aes128Cmac {key : Bytes} (h : key.length = kAesBlockSize) (data : Bytes) :
    ∃ mac, aes128Cmac key data = .ok mac := by
  rw [aes128Cmac, if_neg (not_not.2 h)]
  exact ⟨_, rfl⟩

/-! ## CCM -/

/-- The number of blocks that hold `length` bytes. -/
def blockCount (length : ℕ) : ℕ := (length + 15) / 16

theorem length_le_blockCount (length : ℕ) : length ≤ blockCount length * 16 := by
  rw [blockCount]
  omega

/-- Model of `formatAad` (Smb3Encryption.cpp:113). -/
def formatAad (aad : Bytes) : Bytes :=
  if aad.isEmpty then []
  else if aad.length ≥ 0xFF00 then []
  else
    let formatted := beBytes 2 aad.length ++ aad
    formatted ++ List.replicate ((16 - formatted.length % 16) % 16) 0

/-- The first block of `cbcMac`: flags, nonce and message length. -/
def macFirstBlock (nonce plaintext aad : Bytes) (tagLength : ℕ) : Block16 :=
  let lengthFieldSize := 15 - nonce.length
  let flags := (if aad.isEmpty then (0 : UInt8) else 0x40) |||
    (UInt8.ofNat ((tagLength - 2) / 2 % 8) <<< 3) ||| UInt8.ofNat ((lengthFieldSize - 1) % 8)
  .ofBytes (flags :: nonce ++ beBytes lengthFieldSize plaintext.length) 0

/-- Model of `cbcMac` (Smb3Encryption.cpp:129). -/
def cbcMac (key nonce plaintext aad : Bytes) (tagLength : ℕ) : DecodeResult Block16 :=
  if key.length ≠ kAesBlockSize then
    failure .unsupportedCapability "AES-128-CCM requires a 16-byte encryption key."
  else if nonce.isEmpty || nonce.length > 13 then
    failure .protocolUnsupported "AES-CCM nonce length must be between 1 and 13 bytes."
  else if tagLength < 4 || tagLength > 16 || tagLength % 2 ≠ 0 then
    failure .protocolUnsupported
      "AES-CCM tag length must be an even value between 4 and 16 bytes."
  -- the bound on the length is shifted in a 64-bit counter
  else if plaintext.length ≥ 256 ^ (15 - nonce.length) % 2 ^ 64 then
    failure .protocolUnsupported "AES-CCM plaintext is too large for the selected nonce length."
  else
    let formattedAad := formatAad aad
    if ¬ aad.isEmpty && formattedAad.isEmpty then
      failure .protocolUnsupported "AES-CCM AAD is too large for the implemented encoder."
    else
      let encryptBlock := aes128EncryptBlock (.ofBytes key 0)
      let state := encryptBlock (macFirstBlock nonce plaintext aad tagLength)
      let state := macBlocks encryptBlock formattedAad (blockCount formattedAad.length) 0 state
      .ok (macBlocks encryptBlock plaintext (blockCount plaintext.length) 0 state)

/-- Model of `counterBlock` (Smb3Encryption.cpp:197). -/
def counterBlock (nonce : Bytes) (counter : ℕ) : Block16 :=
  let lengthFieldSize := 15 - nonce.length
  .ofBytes (UInt8.ofNat ((lengthFieldSize - 1) % 8) :: nonce ++ beBytes lengthFieldSize counter) 0

/-- The key stream of `ccmCrypt`. -/
def ccmStream (key nonce : Bytes) (counter : ℕ) : Block16 :=
  aes128EncryptBlock (.ofBytes key 0) (counterBlock nonce counter)

/-- Model of `ccmCrypt` (Smb3Encryption.cpp:209). -/
def ccmCrypt (key nonce input : Bytes) : Bytes :=
  xorStream (ccmStream key nonce) (blockCount input.length) 1 input

/-- Model of `ccmTagMask` (Smb3Encryption.cpp:227). -/
def ccmTagMask (key nonce : Bytes) : Bytes := (ccmStream key nonce 0).toBytes

/-- `AesCcmEncryptedMessage` (Smb3Encryption.h:17). -/
structure AesCcmEncryptedMessage where
  ciphertext : Bytes
  tag : Bytes
  deriving DecidableEq

/-- Model of `aes128CcmEncrypt` (Smb3Encryption.cpp:295). -/
def aes128CcmEncrypt (key nonce plaintext aad : Bytes) (tagLength : ℕ) :
    DecodeResult AesCcmEncryptedMessage :=
  match cbcMac key nonce plaintext aad tagLength with
  | .error e => failureFrom e
  | .ok mac =>
    .ok {
      ciphertext := ccmCrypt key nonce plaintext
      tag := (xorBytes mac.toBytes (ccmTagMask key nonce)).take tagLength }

/-- Model of `aes128CcmDecrypt` (Smb3Encryption.cpp:314). -/
def aes128CcmDecrypt (key nonce ciphertext aad tag : Bytes) : DecodeResult Bytes :=
  let plaintext := ccmCrypt key nonce ciphertext
  match aes128CcmEncrypt key nonce plaintext aad tag.length with
  | .error e => failureFrom e
  | .ok encrypted =>
    if encrypted.tag ≠ tag then
      failure .protocolUnsupported "SMB3 encrypted message authentication failed."
    else
      .ok plaintext

/-! ## CCM over an arbitrary block cipher -/

/-- A block cipher: for every key block a function from blocks to blocks. -/
abbrev BlockCipher := Block16 → Block16 → Block16

namespace BlockCipher

variable (cipher : BlockCipher)

/-- `cbcMac` over a block cipher. -/
def cbcMac (key nonce plaintext aad : Bytes) (tagLength : ℕ) : DecodeResult Block16 :=
  if key.length ≠ kAesBlockSize then
    failure .unsupportedCapability "AES-128-CCM requires a 16-byte encryption key."
  else if nonce.isEmpty || nonce.length > 13 then
    failure .protocolUnsupported "AES-CCM nonce length must be between 1 and 13 bytes."
  else if tagLength < 4 || tagLength > 16 || tagLength % 2 ≠ 0 then
    failure .protocolUnsupported
      "AES-CCM tag length must be an even value between 4 and 16 bytes."
  else if plaintext.length ≥ 256 ^ (15 - nonce.length) % 2 ^ 64 then
    failure .protocolUnsupported "AES-CCM plaintext is too large for the selected nonce length."
  else
    let formattedAad := formatAad aad
    if ¬ aad.isEmpty && formattedAad.isEmpty then
      failure .protocolUnsupported "AES-CCM AAD is too large for the implemented encoder."
    else
      let encryptBlock := cipher (.ofBytes key 0)
      let state := encryptBlock (macFirstBlock nonce plaintext aad tagLength)
      let state := macBlocks encryptBlock formattedAad (blockCount formattedAad.length) 0 state
      .ok (macBlocks encryptBlock plaintext (blockCount plaintext.length) 0 state)

/-- `ccmStream` over a block cipher. -/
def ccmStream (key nonce : Bytes) (counter : ℕ) : Block16 :=
  cipher (.ofBytes key 0) (counterBlock nonce counter)

/-- `ccmCrypt` over a block cipher. -/
def ccmCrypt (key nonce input : Bytes) : Bytes :=
  xorStream (cipher.ccmStream key nonce) (blockCount input.length) 1 input

/-- `ccmTagMask` over a block cipher. -/
def ccmTagMask (key nonce : Bytes) : Bytes := (cipher.ccmStream key nonce 0).toBytes

/-- `aes128CcmEncrypt` over a block cipher. -/
def ccmEncrypt (key nonce plaintext aad : Bytes) (tagLength : ℕ) :
    DecodeResult AesCcmEncryptedMessage :=
  match cipher.cbcMac key nonce plaintext aad tagLength with
  | .error e => failureFrom e
  | .ok mac =>
    .ok {
      ciphertext := cipher.ccmCrypt key nonce plaintext
      tag := (xorBytes mac.toBytes (cipher.ccmTagMask key nonce)).take tagLength }

/-- `aes128CcmDecrypt` over a block cipher. -/
def ccmDecrypt (key nonce ciphertext aad tag : Bytes) : DecodeResult Bytes :=
  let plaintext := cipher.ccmCrypt key nonce ciphertext
  match cipher.ccmEncrypt key nonce plaintext aad tag.length with
  | .error e => failureFrom e
  | .ok encrypted =>
    if encrypted.tag ≠ tag then
      failure .protocolUnsupported "SMB3 encrypted message authentication failed."
    else
      .ok plaintext

variable {cipher}

@[simp] theorem length_ccmCrypt (key nonce input : Bytes) :
    (cipher.ccmCrypt key nonce input).length = input.length :=
  length_xorStream (length_le_blockCount _)

/-- Encrypting and decrypting are one function. -/
@[simp] theorem ccmCrypt_ccmCrypt (key nonce input : Bytes) :
    cipher.ccmCrypt key nonce (cipher.ccmCrypt key nonce input) = input := by
  rw [ccmCrypt, length_ccmCrypt, ccmCrypt, xorStream_xorStream (length_le_blockCount _)]

section

variable {key nonce plaintext aad : Bytes} {tagLength : ℕ} {sealed : AesCcmEncryptedMessage}

theorem length_tag_of_ccmEncrypt
    (h : cipher.ccmEncrypt key nonce plaintext aad tagLength = .ok sealed) (hle : tagLength ≤ 16) :
    sealed.tag.length = tagLength := by
  unfold ccmEncrypt at h
  split at h
  · cases h
  · cases h
    simp only [List.length_take, length_xorBytes, Block16.length_toBytes, ccmTagMask]
    omega

theorem ciphertext_of_ccmEncrypt
    (h : cipher.ccmEncrypt key nonce plaintext aad tagLength = .ok sealed) :
    sealed.ciphertext = cipher.ccmCrypt key nonce plaintext := by
  unfold ccmEncrypt at h
  split at h
  · cases h
  · cases h
    rfl

/-- **A message opens to a plaintext exactly when sealing that plaintext gives
    the message back.** -/
theorem ccmDecrypt_eq_ok {ciphertext tag : Bytes} :
    cipher.ccmDecrypt key nonce ciphertext aad tag = .ok plaintext ↔
      cipher.ccmEncrypt key nonce plaintext aad tag.length = .ok ⟨ciphertext, tag⟩ := by
  constructor
  · intro h
    rw [ccmDecrypt] at h
    cases henc : cipher.ccmEncrypt key nonce (cipher.ccmCrypt key nonce ciphertext) aad
        tag.length with
    | error e =>
      simp only [henc] at h
      cases h
    | ok encrypted =>
      simp only [henc] at h
      split at h
      · cases h
      · rename_i htag
        cases h
        have hcipher := ciphertext_of_ccmEncrypt henc
        rw [ccmCrypt_ccmCrypt] at hcipher
        rw [henc, ← hcipher, ← not_not.1 htag]
  · intro h
    have hcipher : ciphertext = cipher.ccmCrypt key nonce plaintext := ciphertext_of_ccmEncrypt h
    have hplain : cipher.ccmCrypt key nonce ciphertext = plaintext := by
      rw [hcipher, ccmCrypt_ccmCrypt]
    rw [ccmDecrypt, hplain, h]
    exact if_neg fun hne => hne rfl

/-- Additional data with a short header passes the check on its format. -/
theorem formatAad_accepted (haad : aad.length < 0xFF00) :
    ¬ (¬ aad.isEmpty && (formatAad aad).isEmpty) = true := by
  by_cases hnil : aad = []
  · simp [hnil]
  · have hne : formatAad aad ≠ [] := by
      rw [formatAad, if_neg (by simpa using hnil), if_neg (by omega), ← List.length_pos_iff]
      simp only [List.length_append, length_beBytes]
      omega
    simp [hnil, hne]

/-- Under a key of one block and a nonce of eleven bytes every message of less
    than 2³² bytes can be sealed with a short header. -/
theorem exists_ccmEncrypt (hkey : key.length = kAesBlockSize) (hnonce : nonce.length = 11)
    (haad : aad.length < 0xFF00) (hlen : plaintext.length < 2 ^ 32) :
    ∃ sealed, cipher.ccmEncrypt key nonce plaintext aad 16 = .ok sealed := by
  have hempty : nonce.isEmpty = false := by
    rw [List.isEmpty_eq_false_iff, ← List.length_pos_iff]
    omega
  have hbound : ¬ plaintext.length ≥ 256 ^ (15 - nonce.length) % 2 ^ 64 := by
    rw [hnonce]
    omega
  obtain ⟨mac, hmac⟩ : ∃ mac, cipher.cbcMac key nonce plaintext aad 16 = .ok mac := by
    rw [cbcMac, if_neg (not_not.2 hkey), if_neg (by simp [hempty, hnonce]), if_neg (by decide),
      if_neg hbound]
    dsimp only
    rw [if_neg (formatAad_accepted haad)]
    exact ⟨_, rfl⟩
  rw [ccmEncrypt, hmac]
  exact ⟨_, rfl⟩

end

end BlockCipher

/-! ## CCM over AES-128 -/

theorem aes128CcmEncrypt_eq : aes128CcmEncrypt = BlockCipher.ccmEncrypt aes128EncryptBlock := rfl

theorem aes128CcmDecrypt_eq : aes128CcmDecrypt = BlockCipher.ccmDecrypt aes128EncryptBlock := rfl

@[simp] theorem length_ccmCrypt (key nonce input : Bytes) :
    (ccmCrypt key nonce input).length = input.length :=
  @BlockCipher.length_ccmCrypt aes128EncryptBlock key nonce input

theorem length_tag_of_aes128CcmEncrypt {key nonce plaintext aad : Bytes} {tagLength : ℕ}
    {sealed : AesCcmEncryptedMessage}
    (h : aes128CcmEncrypt key nonce plaintext aad tagLength = .ok sealed) (hle : tagLength ≤ 16) :
    sealed.tag.length = tagLength := by
  rw [aes128CcmEncrypt_eq] at h
  exact BlockCipher.length_tag_of_ccmEncrypt h hle

theorem ciphertext_of_aes128CcmEncrypt {key nonce plaintext aad : Bytes} {tagLength : ℕ}
    {sealed : AesCcmEncryptedMessage}
    (h : aes128CcmEncrypt key nonce plaintext aad tagLength = .ok sealed) :
    sealed.ciphertext = ccmCrypt key nonce plaintext := by
  rw [aes128CcmEncrypt_eq] at h
  exact BlockCipher.ciphertext_of_ccmEncrypt h

/-- **A message opens to a plaintext exactly when sealing that plaintext gives
    the message back.** -/
theorem aes128CcmDecrypt_eq_ok {key nonce ciphertext aad tag plaintext : Bytes} :
    aes128CcmDecrypt key nonce ciphertext aad tag = .ok plaintext ↔
      aes128CcmEncrypt key nonce plaintext aad tag.length = .ok ⟨ciphertext, tag⟩ := by
  rw [aes128CcmEncrypt_eq, aes128CcmDecrypt_eq]
  exact BlockCipher.ccmDecrypt_eq_ok

end SmbBrowser.Native
