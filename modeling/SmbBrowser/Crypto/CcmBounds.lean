import SmbBrowser.Base.BigEndian
import SmbBrowser.Crypto.Rfc3610

/-!
# AES-CCM never indexes outside its buffers

The functions of native_smb/Smb3Encryption.cpp once more, with every access to a
vector or a block checked: `none` where the index lies outside.

`aes128CcmEncrypt` checks its parameters in `cbcMac`, before anything is copied.
`aes128CcmDecrypt` runs `ccmCrypt` first, which copies 16 bytes of the key and the
whole nonce into blocks.

Results:
* `Checked.ccmEncrypt_eq`: encryption stays in bounds for every input;
* `Checked.ccmDecrypt_eq`: decryption does exactly for the inputs `InBounds`;
* `ccm_rejects_safely_iff`: so the parameters are rejected safely exactly there.
-/

namespace SmbBrowser.Native

open SmbBrowser.Base

namespace Checked

/-! ## Checked accesses -/

/-- `size_t` subtraction. -/
def sizeSub (a b : ℕ) : ℕ := (a + 2 ^ 64 - b) % 2 ^ 64

/-- `block[index] = value`. -/
def writeByte (block : Block16) (index : ℕ) (value : UInt8) : Option Block16 :=
  if h : index < 16 then some (block.set index value) else none

/-- `std::copy_n` of a vector from `start` on into a block from `index` on. -/
def copyN (source : Bytes) : ℕ → ℕ → Block16 → ℕ → Option Block16
  | 0, _, block, _ => some block
  | count + 1, start, block, index => do
    let value ← source[start]?
    let block ← writeByte block index value
    copyN source count (start + 1) block (index + 1)

/-- The loops that store a number at the end of a block, byte `15 - i` in turn
    `i`. -/
def writeNumber : ℕ → ℕ → ℕ → Block16 → Option Block16
  | 0, _, _, block => some block
  | turns + 1, i, number, block => do
    let block ← writeByte block (sizeSub 15 i) (UInt8.ofNat number)
    writeNumber turns (i + 1) (number / 256) block

/-- `left[offset + i] ^ right[i]` for `count` values of `i`. -/
def xorAt (left right : Bytes) (offset : ℕ) : ℕ → ℕ → Option Bytes
  | 0, _ => some []
  | count + 1, i => do
    let l ← left[offset + i]?
    let r ← right[i]?
    let rest ← xorAt left right offset count (i + 1)
    some ((l ^^^ r) :: rest)

/-! ## The functions of the source -/

/-- Model of `keyBlockFrom` (Smb3Encryption.cpp:106). -/
def keyBlockFrom (key : Bytes) : Option Block16 := copyN key 16 0 (.replicate 16 0) 0

/-- The block `cbcMac` and `counterBlock` build: flags, nonce and a number. -/
def numberedBlock (nonce : Bytes) (flags : UInt8) (number : ℕ) : Option Block16 := do
  let block ← writeByte (.replicate 16 0) 0 flags
  let block ← copyN nonce nonce.length 0 block 1
  writeNumber (sizeSub 15 nonce.length) 0 number block

/-- Model of `blockFromBytes` (Smb3Encryption.cpp:99): `offset` lies in the
    string wherever it is called. -/
def blockFromBytes (bytes : Bytes) (offset : ℕ) : Option Block16 :=
  copyN bytes (min 16 (bytes.length - offset)) offset (.replicate 16 0) 0

section

variable (cipher : BlockCipher)

/-- The two loops of `cbcMac`. -/
def macBlocks (keyBlock : Block16) (bytes : Bytes) : ℕ → ℕ → Block16 → Option Block16
  | 0, _, state => some state
  | blocks + 1, offset, state => do
    let block ← blockFromBytes bytes offset
    macBlocks keyBlock bytes blocks (offset + kAesBlockSize)
      (cipher keyBlock (xorBlocks state block))

/-- `cbcMac` after its checks of the parameters. -/
def cbcMacBlocks (key nonce plaintext aad : Bytes) (tagLength : ℕ) :
    Option (DecodeResult Block16) := do
  let lengthFieldSize := sizeSub 15 nonce.length
  let flags := (if aad.isEmpty then (0 : UInt8) else 0x40) |||
    (UInt8.ofNat ((tagLength - 2) / 2 % 8) <<< 3) |||
    UInt8.ofNat (sizeSub lengthFieldSize 1 % 8)
  let block ← numberedBlock nonce flags plaintext.length
  let keyBlock ← keyBlockFrom key
  let state := cipher keyBlock block
  let formattedAad := formatAad aad
  if ¬ aad.isEmpty && formattedAad.isEmpty then
    some (failure .protocolUnsupported "AES-CCM AAD is too large for the implemented encoder.")
  else
    let state ← macBlocks cipher keyBlock formattedAad (blockCount formattedAad.length) 0 state
    let state ← macBlocks cipher keyBlock plaintext (blockCount plaintext.length) 0 state
    some (.ok state)

/-- Model of `cbcMac` (Smb3Encryption.cpp:129). -/
def cbcMac (key nonce plaintext aad : Bytes) (tagLength : ℕ) : Option (DecodeResult Block16) :=
  if key.length ≠ kAesBlockSize then
    some (failure .unsupportedCapability "AES-128-CCM requires a 16-byte encryption key.")
  else if nonce.isEmpty || nonce.length > 13 then
    some (failure .protocolUnsupported "AES-CCM nonce length must be between 1 and 13 bytes.")
  else if tagLength < 4 || tagLength > 16 || tagLength % 2 ≠ 0 then
    some (failure .protocolUnsupported
      "AES-CCM tag length must be an even value between 4 and 16 bytes.")
  else if plaintext.length ≥ 256 ^ (15 - nonce.length) % 2 ^ 64 then
    some (failure .protocolUnsupported
      "AES-CCM plaintext is too large for the selected nonce length.")
  else cbcMacBlocks cipher key nonce plaintext aad tagLength

/-- Model of `counterBlock` (Smb3Encryption.cpp:197). -/
def counterBlock (nonce : Bytes) (counter : ℕ) : Option Block16 :=
  let lengthFieldSize := sizeSub 15 nonce.length
  numberedBlock nonce (UInt8.ofNat (sizeSub lengthFieldSize 1 % 8)) counter

/-- The loop of `ccmCrypt`. -/
def ccmCryptLoop (keyBlock : Block16) (nonce input : Bytes) : ℕ → ℕ → ℕ → Option Bytes
  | 0, _, _ => some []
  | blocks + 1, offset, counter => do
    let block ← counterBlock nonce counter
    let stream := cipher keyBlock block
    let count := min kAesBlockSize (input.length - offset)
    let output ← xorAt input stream.toBytes offset count 0
    let rest ← ccmCryptLoop keyBlock nonce input blocks (offset + kAesBlockSize) (counter + 1)
    some (output ++ rest)

/-- Model of `ccmCrypt` (Smb3Encryption.cpp:209). -/
def ccmCrypt (key nonce input : Bytes) : Option Bytes := do
  let keyBlock ← keyBlockFrom key
  ccmCryptLoop cipher keyBlock nonce input (blockCount input.length) 0 1

/-- Model of `ccmTagMask` (Smb3Encryption.cpp:227). -/
def ccmTagMask (key nonce : Bytes) : Option Bytes := do
  let keyBlock ← keyBlockFrom key
  let block ← counterBlock nonce 0
  some (cipher keyBlock block).toBytes

/-- Model of `aes128CcmEncrypt` (Smb3Encryption.cpp:295). -/
def ccmEncrypt (key nonce plaintext aad : Bytes) (tagLength : ℕ) :
    Option (DecodeResult AesCcmEncryptedMessage) := do
  let mac ← cbcMac cipher key nonce plaintext aad tagLength
  match mac with
  | .error e => some (failureFrom e)
  | .ok mac =>
    let mask ← ccmTagMask cipher key nonce
    let ciphertext ← ccmCrypt cipher key nonce plaintext
    let tag ← xorAt mac.toBytes mask 0 tagLength 0
    some (.ok { ciphertext, tag })

/-- Model of `aes128CcmDecrypt` (Smb3Encryption.cpp:314). -/
def ccmDecrypt (key nonce ciphertext aad tag : Bytes) : Option (DecodeResult Bytes) := do
  let plaintext ← ccmCrypt cipher key nonce ciphertext
  let encrypted ← ccmEncrypt cipher key nonce plaintext aad tag.length
  match encrypted with
  | .error e => some (failureFrom e)
  | .ok encrypted =>
    if encrypted.tag ≠ tag then
      some (failure .protocolUnsupported "SMB3 encrypted message authentication failed.")
    else
      some (.ok plaintext)

end

/-! ## What the accesses do in bounds -/

theorem sizeSub_of_le {a b : ℕ} (hle : b ≤ a) (ha : a < 2 ^ 64) : sizeSub a b = a - b := by
  rw [sizeSub]
  omega

/-- A copy that stays inside both sides. -/
theorem copyN_of_le (source : Bytes) (count : ℕ) : ∀ (start index : ℕ) (block : Block16),
    start + count ≤ source.length → index + count ≤ 16 →
      ∃ copied, copyN source count start block index = some copied ∧
        ∀ (j : ℕ) (hj : j < 16), copied[j] =
          if index ≤ j ∧ j < index + count then source.getD (start + (j - index)) 0
          else block[j] := by
  induction count with
  | zero =>
    intro start index block _ _
    refine ⟨block, rfl, ?_⟩
    intro j hj
    rw [if_neg (by omega)]
  | succ count ih =>
    intro start index block hsource hblock
    have hin : start < source.length := by omega
    have hindex : index < 16 := by omega
    obtain ⟨copied, hcopied, hbytes⟩ := ih (start + 1) (index + 1)
      (block.set index source[start]) (by omega) (by omega)
    refine ⟨copied, ?_, ?_⟩
    · simp only [copyN, List.getElem?_eq_getElem hin, writeByte, dif_pos hindex, Option.bind_eq_bind,
        Option.bind_some, hcopied]
    · intro j hj
      rw [hbytes j hj, Vector.getElem_set]
      by_cases hhere : index = j
      · subst hhere
        rw [if_neg (by omega), if_pos rfl, if_pos (by omega), Nat.sub_self, Nat.add_zero,
          List.getD_eq_getElem _ _ hin]
      · by_cases hcopy : index + 1 ≤ j ∧ j < index + 1 + count
        · have hstart : start + 1 + (j - (index + 1)) = start + (j - index) := by omega
          rw [if_pos hcopy, if_pos (by omega), hstart]
        · rw [if_neg hcopy, if_neg hhere, if_neg (by omega)]

/-- A copy that leaves the source or the block is noticed. -/
theorem le_of_copyN (source : Bytes) {count : ℕ} : ∀ {start index : ℕ} {block copied : Block16},
    copyN source count start block index = some copied →
      count = 0 ∨ (start + count ≤ source.length ∧ index + count ≤ 16) := by
  induction count with
  | zero =>
    intro _ _ _ _ _
    exact .inl rfl
  | succ count ih =>
    intro start index block copied h
    apply Or.inr
    rw [copyN] at h
    obtain ⟨value, hvalue, h⟩ := Option.bind_eq_some_iff.1 h
    obtain ⟨written, hwritten, h⟩ := Option.bind_eq_some_iff.1 h
    have hin : start < source.length := (List.getElem?_eq_some_iff.1 hvalue).1
    have hindex : index < 16 := by
      by_contra hge
      rw [writeByte, dif_neg hge] at hwritten
      cases hwritten
    rcases ih h with hzero | hle
    · omega
    · omega

/-- A number stored at the end of a block. -/
theorem writeNumber_of_le (turns : ℕ) : ∀ (i number : ℕ) (block : Block16), i + turns ≤ 16 →
    ∃ written, writeNumber turns i number block = some written ∧
      ∀ (j : ℕ) (hj : j < 16), written[j] =
        if j + i < 16 ∧ 16 ≤ j + i + turns then UInt8.ofNat (number / 256 ^ (15 - i - j))
        else block[j] := by
  induction turns with
  | zero =>
    intro i number block _
    refine ⟨block, rfl, ?_⟩
    intro j hj
    rw [if_neg (by omega)]
  | succ turns ih =>
    intro i number block hturns
    have hindex : sizeSub 15 i = 15 - i := sizeSub_of_le (by omega) (by norm_num)
    have hlt : 15 - i < 16 := by omega
    obtain ⟨written, hwritten, hbytes⟩ := ih (i + 1) (number / 256)
      (block.set (15 - i) (UInt8.ofNat number)) (by omega)
    refine ⟨written, ?_, ?_⟩
    · simp only [writeNumber, hindex, writeByte, dif_pos hlt, Option.bind_eq_bind, Option.bind_some,
        hwritten]
    · intro j hj
      rw [hbytes j hj, Vector.getElem_set]
      by_cases hhere : 15 - i = j
      · have hzero : 15 - i - j = 0 := by omega
        rw [if_neg (by omega), if_pos hhere, if_pos (by omega), hzero, pow_zero, Nat.div_one]
      · by_cases hlow : j + (i + 1) < 16 ∧ 16 ≤ j + (i + 1) + turns
        · have hpow : 15 - i - j = 15 - (i + 1) - j + 1 := by omega
          rw [if_pos hlow, if_pos (by omega), hpow, pow_succ', Nat.div_div_eq_div_mul]
        · rw [if_neg hlow, if_neg hhere, if_neg (by omega)]

theorem xorAt_of_le (left right : Bytes) (offset count : ℕ) : ∀ (i : ℕ),
    offset + i + count ≤ left.length → i + count ≤ right.length →
      xorAt left right offset count i =
        some (xorBytes ((left.drop (offset + i)).take count) ((right.drop i).take count)) := by
  induction count with
  | zero =>
    intro i _ _
    rfl
  | succ count ih =>
    intro i hleft hright
    have hl : offset + i < left.length := by omega
    have hr : i < right.length := by omega
    have hrest := ih (i + 1) (by omega) (by omega)
    simp only [xorAt, List.getElem?_eq_getElem hl, List.getElem?_eq_getElem hr,
      Option.bind_eq_bind, Option.bind_some, hrest]
    rw [List.drop_eq_getElem_cons hl, List.drop_eq_getElem_cons hr]
    rfl

/-! ## What the functions do in bounds -/

theorem keyBlockFrom_of_le {key : Bytes} (h : 16 ≤ key.length) :
    keyBlockFrom key = some (.ofBytes key 0) := by
  obtain ⟨copied, hcopied, hbytes⟩ := copyN_of_le key 16 0 0 (.replicate 16 0) (by omega)
    (by omega)
  have heq : copied = .ofBytes key 0 := by
    ext j hj
    rw [hbytes j hj, if_pos (by omega), Nat.sub_zero]
    simp [Block16.ofBytes]
  rw [keyBlockFrom, hcopied, heq]

theorem le_of_keyBlockFrom {key : Bytes} {keyBlock : Block16}
    (h : keyBlockFrom key = some keyBlock) : 16 ≤ key.length := by
  have hle := le_of_copyN key h
  omega

theorem blockFromBytes_of_le {bytes : Bytes} {offset : ℕ} (h : offset ≤ bytes.length) :
    blockFromBytes bytes offset = some (.ofBytes bytes offset) := by
  obtain ⟨copied, hcopied, hbytes⟩ := copyN_of_le bytes (min 16 (bytes.length - offset)) offset 0
    (.replicate 16 0) (by omega) (by omega)
  have heq : copied = .ofBytes bytes offset := by
    ext j hj
    rw [hbytes j hj]
    simp only [Block16.ofBytes, Vector.getElem_ofFn, Nat.sub_zero]
    by_cases hin : offset + j < bytes.length
    · rw [if_pos (by omega)]
    · rw [if_neg (by omega), List.getD_eq_default _ _ (by omega), Vector.getElem_replicate]
  rw [blockFromBytes, hcopied, heq]

/-- A nonce of 15 bytes still fits between the flags and the end of the block. -/
theorem numberedBlock_of_le {nonce : Bytes} (h : nonce.length ≤ 15) (flags : UInt8) (number : ℕ) :
    numberedBlock nonce flags number =
      some (.ofBytes (flags :: nonce ++ beBytes (15 - nonce.length) number) 0) := by
  obtain ⟨copied, hcopied, hcopy⟩ := copyN_of_le nonce nonce.length 0 1
    (Vector.set (.replicate 16 0) 0 flags) (by omega) (by omega)
  obtain ⟨written, hwritten, hwrite⟩ := writeNumber_of_le (15 - nonce.length) 0 number copied
    (by omega)
  have hsize : sizeSub 15 nonce.length = 15 - nonce.length := sizeSub_of_le h (by norm_num)
  have heq : written = .ofBytes (flags :: nonce ++ beBytes (15 - nonce.length) number) 0 := by
    ext j hj
    rw [hwrite j hj, hcopy j hj]
    simp only [Block16.ofBytes, Vector.getElem_ofFn, Nat.zero_add, List.cons_append]
    cases j with
    | zero =>
      rw [if_neg (by omega), if_neg (by omega)]
      simp
    | succ j =>
      rw [List.getD_cons_succ]
      by_cases hnonce : j < nonce.length
      · rw [if_neg (by omega), if_pos (by omega), List.getD_append _ _ _ _ hnonce,
          Nat.add_sub_cancel]
      · have hnumber : j - nonce.length < (beBytes (15 - nonce.length) number).length := by
          rw [length_beBytes]
          omega
        have hexponent : 15 - nonce.length - 1 - (j - nonce.length) = 15 - 0 - (j + 1) := by omega
        rw [if_pos (by omega), List.getD_append_right _ _ _ _ (by omega),
          List.getD_eq_getElem _ _ hnumber, getElem_beBytes, hexponent]
  simp only [numberedBlock, writeByte, dif_pos (show 0 < 16 by omega), Option.bind_eq_bind,
    Option.bind_some, hcopied, hsize, hwritten, heq]

theorem le_of_numberedBlock {nonce : Bytes} {flags : UInt8} {number : ℕ} {block : Block16}
    (h : numberedBlock nonce flags number = some block) : nonce.length ≤ 15 := by
  rw [numberedBlock] at h
  obtain ⟨first, _, h⟩ := Option.bind_eq_some_iff.1 h
  obtain ⟨copied, hcopied, _⟩ := Option.bind_eq_some_iff.1 h
  have hle := le_of_copyN nonce hcopied
  omega

section

variable {cipher : BlockCipher}

theorem macBlocks_of_le (keyBlock : Block16) (bytes : Bytes) {blocks : ℕ} :
    ∀ (offset : ℕ) (state : Block16), offset + 16 * blocks < bytes.length + 16 →
      macBlocks cipher keyBlock bytes blocks offset state =
        some (Native.macBlocks (cipher keyBlock) bytes blocks offset state) := by
  induction blocks with
  | zero =>
    intro offset state _
    rfl
  | succ blocks ih =>
    intro offset state h
    have hblock := blockFromBytes_of_le (show offset ≤ bytes.length by omega)
    have hrest := ih (offset + kAesBlockSize)
      (cipher keyBlock (xorBlocks state (.ofBytes bytes offset)))
      (by rw [kAesBlockSize]; omega)
    simp only [macBlocks, hblock, Option.bind_eq_bind, Option.bind_some, hrest]
    rfl

/-- The whole loop of a MAC over a string. -/
theorem macBlocks_blockCount (keyBlock : Block16) (bytes : Bytes) (state : Block16) :
    macBlocks cipher keyBlock bytes (blockCount bytes.length) 0 state =
      some (Native.macBlocks (cipher keyBlock) bytes (blockCount bytes.length) 0 state) := by
  apply macBlocks_of_le
  rw [blockCount]
  omega

/-- The first block of `cbcMac` is in bounds under the nonces it accepts. -/
theorem numberedBlock_eq_macFirstBlock {nonce : Bytes} (h : nonce.length ≤ 13)
    (plaintext aad : Bytes) (tagLength : ℕ) :
    numberedBlock nonce ((if aad.isEmpty then (0 : UInt8) else 0x40) |||
        (UInt8.ofNat ((tagLength - 2) / 2 % 8) <<< 3) |||
        UInt8.ofNat (sizeSub (sizeSub 15 nonce.length) 1 % 8)) plaintext.length =
      some (macFirstBlock nonce plaintext aad tagLength) := by
  have hsize : sizeSub 15 nonce.length = 15 - nonce.length :=
    sizeSub_of_le (by omega) (by norm_num)
  have hflags : sizeSub (15 - nonce.length) 1 = 15 - nonce.length - 1 :=
    sizeSub_of_le (by omega) (by omega)
  rw [hsize, hflags, numberedBlock_of_le (by omega), macFirstBlock]

theorem cbcMacBlocks_of_le {key nonce : Bytes} (hkey : 16 ≤ key.length) (h : nonce.length ≤ 13)
    (plaintext aad : Bytes) (tagLength : ℕ) :
    cbcMacBlocks cipher key nonce plaintext aad tagLength =
      some (if ¬ aad.isEmpty && (formatAad aad).isEmpty then
        failure .protocolUnsupported "AES-CCM AAD is too large for the implemented encoder."
      else
        .ok (Native.macBlocks (cipher (.ofBytes key 0)) plaintext (blockCount plaintext.length) 0
          (Native.macBlocks (cipher (.ofBytes key 0)) (formatAad aad)
            (blockCount (formatAad aad).length) 0
            (cipher (.ofBytes key 0) (macFirstBlock nonce plaintext aad tagLength))))) := by
  simp only [cbcMacBlocks, numberedBlock_eq_macFirstBlock h, keyBlockFrom_of_le hkey,
    Option.bind_eq_bind, Option.bind_some]
  by_cases haad : (¬ aad.isEmpty && (formatAad aad).isEmpty) = true
  · rw [if_pos haad, if_pos haad]
  · rw [if_neg haad, if_neg haad, macBlocks_blockCount, Option.bind_some, macBlocks_blockCount,
      Option.bind_some]

/-- Behind its checks `cbcMac` stays in bounds. -/
theorem cbcMac_eq (key nonce plaintext aad : Bytes) (tagLength : ℕ) :
    cbcMac cipher key nonce plaintext aad tagLength =
      some (cipher.cbcMac key nonce plaintext aad tagLength) := by
  rw [cbcMac, BlockCipher.cbcMac]
  split_ifs with hkey hnonce htag hlen <;> try rfl
  have hkeyLength : 16 ≤ key.length := le_of_eq (not_not.1 hkey).symm
  have hhigh : nonce.length ≤ 13 := by
    by_contra hgt
    exact hnonce (by simp; omega)
  exact cbcMacBlocks_of_le hkeyLength hhigh plaintext aad tagLength

/-- The flags of a counter block: the code's subtraction, which wraps for a nonce
    of 15 bytes. -/
def counterFlags (nonce : Bytes) : UInt8 :=
  UInt8.ofNat (sizeSub (sizeSub 15 nonce.length) 1 % 8)

/-- The counter blocks of a nonce that fits its block. -/
def counterBytes (nonce : Bytes) (counter : ℕ) : Block16 :=
  .ofBytes (counterFlags nonce :: nonce ++ beBytes (15 - nonce.length) counter) 0

theorem counterBlock_of_le {nonce : Bytes} (h : nonce.length ≤ 15) (counter : ℕ) :
    counterBlock nonce counter = some (counterBytes nonce counter) :=
  numberedBlock_of_le h _ counter

theorem le_of_counterBlock {nonce : Bytes} {counter : ℕ} {block : Block16}
    (h : counterBlock nonce counter = some block) : nonce.length ≤ 15 :=
  le_of_numberedBlock h

/-- Under the nonces `cbcMac` accepts the counter blocks are those of CCM. -/
theorem counterBytes_eq {nonce : Bytes} (h : nonce.length ≤ 13) (counter : ℕ) :
    counterBytes nonce counter = Native.counterBlock nonce counter := by
  have hsize : sizeSub 15 nonce.length = 15 - nonce.length :=
    sizeSub_of_le (by omega) (by norm_num)
  have hflags : sizeSub (15 - nonce.length) 1 = 15 - nonce.length - 1 :=
    sizeSub_of_le (by omega) (by omega)
  rw [counterBytes, counterFlags, hsize, hflags, Native.counterBlock]

theorem ccmCryptLoop_of_le (keyBlock : Block16) {nonce : Bytes} (h : nonce.length ≤ 15)
    (input : Bytes) {blocks : ℕ} : ∀ (offset counter : ℕ),
      offset + 16 * blocks < input.length + 16 →
        ccmCryptLoop cipher keyBlock nonce input blocks offset counter =
          some (xorStream (fun i => cipher keyBlock (counterBytes nonce i)) blocks counter
            (input.drop offset)) := by
  induction blocks with
  | zero =>
    intro offset counter _
    rfl
  | succ blocks ih =>
    intro offset counter hle
    have hrest := ih (offset + kAesBlockSize) (counter + 1) (by rw [kAesBlockSize]; omega)
    have hdrop : (input.drop offset).drop 16 = input.drop (offset + kAesBlockSize) := by
      rw [List.drop_drop, kAesBlockSize]
    have hxor := xorAt_of_le input (cipher keyBlock (counterBytes nonce counter)).toBytes offset
      (min kAesBlockSize (input.length - offset)) 0 (by rw [kAesBlockSize]; omega)
      (by rw [kAesBlockSize, Block16.length_toBytes]; omega)
    have htake : (input.drop offset).take (min kAesBlockSize (input.length - offset)) =
        (input.drop offset).take 16 := by
      rw [kAesBlockSize, ← List.length_drop, ← List.take_take, List.take_length]
    have hlen : ((input.drop offset).take 16).length =
        min kAesBlockSize (input.length - offset) := by
      rw [List.length_take, List.length_drop, kAesBlockSize]
    rw [Nat.add_zero, List.drop_zero, htake, ← hlen, xorBytes_take] at hxor
    rw [ccmCryptLoop, counterBlock_of_le h]
    simp only [Option.bind_eq_bind, Option.bind_some, ← hlen, hxor, hrest, xorStream, hdrop]
    rfl

/-- The data `ccmCrypt` stays in bounds for. -/
def InBounds (key nonce input : Bytes) : Prop :=
  16 ≤ key.length ∧ (input = [] ∨ nonce.length ≤ 15)

instance (key nonce input : Bytes) : Decidable (InBounds key nonce input) :=
  inferInstanceAs (Decidable (_ ∧ _))

theorem ccmCrypt_of_le {key nonce : Bytes} (hkey : 16 ≤ key.length) (h : nonce.length ≤ 15)
    (input : Bytes) :
    ccmCrypt cipher key nonce input =
      some (xorStream (fun i => cipher (.ofBytes key 0) (counterBytes nonce i))
        (blockCount input.length) 1 input) := by
  have hin : 0 + 16 * blockCount input.length < input.length + 16 := by
    rw [blockCount]
    omega
  rw [ccmCrypt, keyBlockFrom_of_le hkey, Option.bind_eq_bind, Option.bind_some,
    ccmCryptLoop_of_le _ h input 0 1 hin, List.drop_zero]

theorem ccmCrypt_nil {key : Bytes} (hkey : 16 ≤ key.length) (nonce : Bytes) :
    ccmCrypt cipher key nonce [] = some [] := by
  rw [ccmCrypt, keyBlockFrom_of_le hkey]
  rfl

/-- What is out of bounds is noticed. -/
theorem inBounds_of_ccmCrypt {key nonce input output : Bytes}
    (h : ccmCrypt cipher key nonce input = some output) : InBounds key nonce input := by
  rw [ccmCrypt] at h
  obtain ⟨keyBlock, hkey, h⟩ := Option.bind_eq_some_iff.1 h
  refine ⟨le_of_keyBlockFrom hkey, ?_⟩
  by_cases hnil : input = []
  · exact .inl hnil
  · have hpos : 0 < input.length := List.length_pos_iff.2 hnil
    obtain ⟨blocks, hblocks⟩ : ∃ blocks, blockCount input.length = blocks + 1 :=
      ⟨(input.length + 15) / 16 - 1, by rw [blockCount]; omega⟩
    rw [hblocks, ccmCryptLoop] at h
    obtain ⟨block, hblock, _⟩ := Option.bind_eq_some_iff.1 h
    exact .inr (le_of_counterBlock hblock)

/-- Under the nonces `cbcMac` accepts `ccmCrypt` is the one of CCM. -/
theorem ccmCrypt_eq {key nonce : Bytes} (hkey : 16 ≤ key.length) (h : nonce.length ≤ 13)
    (input : Bytes) :
    ccmCrypt cipher key nonce input = some (cipher.ccmCrypt key nonce input) := by
  have hstream : (fun i => cipher (.ofBytes key 0) (counterBytes nonce i)) =
      cipher.ccmStream key nonce := by
    funext i
    rw [counterBytes_eq h, BlockCipher.ccmStream]
  rw [ccmCrypt_of_le hkey (by omega), hstream, BlockCipher.ccmCrypt]

theorem ccmTagMask_eq {key nonce : Bytes} (hkey : 16 ≤ key.length) (h : nonce.length ≤ 13) :
    ccmTagMask cipher key nonce = some (cipher.ccmTagMask key nonce) := by
  rw [ccmTagMask, keyBlockFrom_of_le hkey, Option.bind_eq_bind, Option.bind_some,
    counterBlock_of_le (by omega), Option.bind_some, counterBytes_eq h, BlockCipher.ccmTagMask,
    BlockCipher.ccmStream]

/-- What `cbcMac` accepts. -/
theorem of_cbcMac_eq_ok {key nonce plaintext aad : Bytes} {tagLength : ℕ} {mac : Block16}
    (h : cipher.cbcMac key nonce plaintext aad tagLength = .ok mac) :
    key.length = 16 ∧ nonce.length ≤ 13 ∧ tagLength ≤ 16 := by
  rw [BlockCipher.cbcMac] at h
  split_ifs at h with hkey hnonce htag
  all_goals try cases h
  refine ⟨not_not.1 hkey, ?_, ?_⟩
  · by_contra hgt
    exact hnonce (by simp; omega)
  · by_contra hgt
    exact htag (by simp; omega)

/-- **Encryption stays in bounds for every input.** -/
theorem ccmEncrypt_eq (key nonce plaintext aad : Bytes) (tagLength : ℕ) :
    ccmEncrypt cipher key nonce plaintext aad tagLength =
      some (cipher.ccmEncrypt key nonce plaintext aad tagLength) := by
  rw [ccmEncrypt, cbcMac_eq, Option.bind_eq_bind, Option.bind_some, BlockCipher.ccmEncrypt]
  cases hmac : cipher.cbcMac key nonce plaintext aad tagLength with
  | error e => rfl
  | ok mac =>
    obtain ⟨hkey, hnonce, htag⟩ := of_cbcMac_eq_ok hmac
    have hmask : (cipher.ccmTagMask key nonce).length = 16 := Block16.length_toBytes _
    have hmacLength : mac.toBytes.length = 16 := Block16.length_toBytes mac
    have hxor := xorAt_of_le mac.toBytes (cipher.ccmTagMask key nonce) 0 tagLength 0 (by omega)
      (by omega)
    rw [Nat.zero_add, List.drop_zero, List.drop_zero, ← take_xorBytes] at hxor
    simp only [ccmTagMask_eq (ge_of_eq hkey) hnonce, ccmCrypt_eq (ge_of_eq hkey) hnonce,
      Option.bind_eq_bind, Option.bind_some, hxor]

/-- Past a nonce it refuses, encryption does not look at the plaintext. -/
theorem ccmEncrypt_of_long_nonce {nonce : Bytes} (h : 13 < nonce.length)
    (key plaintext plaintext' aad : Bytes) (tagLength : ℕ) :
    cipher.ccmEncrypt key nonce plaintext aad tagLength =
        cipher.ccmEncrypt key nonce plaintext' aad tagLength ∧
      ∃ e, cipher.ccmEncrypt key nonce plaintext aad tagLength = .error e := by
  have hnonce : (nonce.isEmpty || decide (nonce.length > 13)) = true := by simp [h]
  rw [BlockCipher.ccmEncrypt, BlockCipher.ccmEncrypt, BlockCipher.cbcMac, BlockCipher.cbcMac]
  by_cases hkey : key.length ≠ kAesBlockSize
  · rw [if_pos hkey, if_pos hkey]
    exact ⟨rfl, _, rfl⟩
  · rw [if_neg hkey, if_neg hkey, if_pos hnonce, if_pos hnonce]
    exact ⟨rfl, _, rfl⟩

/-- **Decryption stays in bounds exactly for the inputs `InBounds`.** -/
theorem ccmDecrypt_eq (key nonce ciphertext aad tag : Bytes) :
    ccmDecrypt cipher key nonce ciphertext aad tag =
      if InBounds key nonce ciphertext then some (cipher.ccmDecrypt key nonce ciphertext aad tag)
      else none := by
  by_cases hin : InBounds key nonce ciphertext
  · rw [if_pos hin]
    obtain ⟨hkey, hcase⟩ := hin
    by_cases hshort : nonce.length ≤ 13 ∨ ciphertext = []
    · have hcrypt : ccmCrypt cipher key nonce ciphertext =
          some (cipher.ccmCrypt key nonce ciphertext) := by
        rcases hshort with hnonce | hnil
        · exact ccmCrypt_eq hkey hnonce ciphertext
        · rw [hnil, ccmCrypt_nil hkey]
          rfl
      rw [ccmDecrypt, hcrypt, Option.bind_eq_bind, Option.bind_some, ccmEncrypt_eq,
        Option.bind_eq_bind, Option.bind_some, BlockCipher.ccmDecrypt]
      cases cipher.ccmEncrypt key nonce (cipher.ccmCrypt key nonce ciphertext) aad tag.length with
      | error e => rfl
      | ok encrypted =>
        dsimp only
        by_cases htag : encrypted.tag ≠ tag
        · rw [if_pos htag, if_pos htag]
        · rw [if_neg htag, if_neg htag]
    · -- the blocks of a nonce of 14 or 15 bytes are built, and refused afterwards
      obtain ⟨hlong, hnonnil⟩ := not_or.1 hshort
      have hnonce : nonce.length ≤ 15 := hcase.resolve_left hnonnil
      obtain ⟨hsame, e, he⟩ := @ccmEncrypt_of_long_nonce cipher nonce (by omega) key
        (cipher.ccmCrypt key nonce ciphertext)
        (xorStream (fun i => cipher (.ofBytes key 0) (counterBytes nonce i))
          (blockCount ciphertext.length) 1 ciphertext) aad tag.length
      rw [ccmDecrypt, ccmCrypt_of_le hkey hnonce, Option.bind_eq_bind, Option.bind_some,
        ccmEncrypt_eq, Option.bind_eq_bind, Option.bind_some, ← hsame, BlockCipher.ccmDecrypt, he]
  · rw [if_neg hin, ccmDecrypt]
    cases hcrypt : ccmCrypt cipher key nonce ciphertext with
    | none => rfl
    | some output => exact absurd (inBounds_of_ccmCrypt hcrypt) hin

end

end Checked

/-! ## Rejecting parameters -/

/-- What both functions owe their callers, whatever the sizes. -/
structure RejectsSafely (cipher : BlockCipher) (key nonce ciphertext aad tag : Bytes) : Prop where
  encrypt_inBounds : ∀ (plaintext : Bytes) (tagLength : ℕ),
    Checked.ccmEncrypt cipher key nonce plaintext aad tagLength ≠ none
  decrypt_inBounds : Checked.ccmDecrypt cipher key nonce ciphertext aad tag ≠ none
  tag_recomputed : ∀ plaintext,
    Checked.ccmDecrypt cipher key nonce ciphertext aad tag = some (.ok plaintext) →
      ∃ sealed, Checked.ccmEncrypt cipher key nonce plaintext aad tag.length = some (.ok sealed) ∧
        sealed.tag = tag

/-- **Bad parameters are rejected safely exactly if the key has a block and the
    nonce fits behind the flags of a block, or there is no ciphertext.** -/
theorem ccm_rejects_safely_iff (cipher : BlockCipher) (key nonce ciphertext aad tag : Bytes) :
    RejectsSafely cipher key nonce ciphertext aad tag ↔
      16 ≤ key.length ∧ (ciphertext = [] ∨ nonce.length ≤ 15) := by
  have hdecrypt := @Checked.ccmDecrypt_eq cipher key nonce ciphertext aad tag
  constructor
  · intro h
    by_contra hout
    have hin : ¬ Checked.InBounds key nonce ciphertext := hout
    rw [if_neg hin] at hdecrypt
    exact h.decrypt_inBounds hdecrypt
  · intro hin
    have hbounds : Checked.InBounds key nonce ciphertext := hin
    rw [if_pos hbounds] at hdecrypt
    constructor
    · intro plaintext tagLength
      rw [Checked.ccmEncrypt_eq]
      exact Option.some_ne_none _
    · rw [hdecrypt]
      exact Option.some_ne_none _
    · intro plaintext hok
      rw [hdecrypt] at hok
      have hsealed := BlockCipher.ccmDecrypt_eq_ok.1 (Option.some.inj hok)
      refine ⟨⟨ciphertext, tag⟩, ?_, rfl⟩
      rw [Checked.ccmEncrypt_eq, hsealed]

/-- An empty key: 16 bytes of it are copied before its length is looked at. -/
theorem not_ccm_rejects_safely :
    ¬ ∀ (cipher : BlockCipher) (key nonce ciphertext aad tag : Bytes),
      RejectsSafely cipher key nonce ciphertext aad tag := by
  intro h
  have hrun := (h aes128EncryptBlock [] [] [] [] []).decrypt_inBounds
  exact hrun rfl

end SmbBrowser.Native
