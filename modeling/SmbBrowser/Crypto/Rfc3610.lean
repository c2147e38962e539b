import SmbBrowser.Crypto.Blocks
import Mathlib.Data.List.GetD

/-!
# AES-CCM of RFC 3610

`Rfc3610.seal` is written from the RFC over an arbitrary block cipher: the blocks
`B_0 … B_n` of the CBC-MAC, the key stream blocks `S_0, S_1, …` and the XOR with
them.

Results:
* `macFirstBlock_eq`, `counterBlock_eq`: the code's blocks are `B_0` and `A_i`;
* `xorStream_eq_xorBytes`: XOR block by block is XOR with the joined key stream;
* `ccmEncrypt_conforms_iff`: the code computes what the RFC says exactly for the
  nonces that are not of 7 bytes.  Under those the length field has 8 bytes, and
  the bound `1 << 64` on the plaintext is zero in the 64-bit counter.
-/

namespace SmbBrowser.Rfc3610

open SmbBrowser.Base

/-! ## The specification -/

/-- A block of 16 octets. -/
abbrev Block := Vector UInt8 16

/-- XOR octet by octet. -/
def xor (x y : Block) : Block := .ofFn fun i => x.get i ^^^ y.get i

/-- The block of at most 16 octets, padded with zeros. -/
def pad (octets : Bytes) : Block := .ofFn fun i => octets.getD i 0

/-- A string split into blocks, the last of them padded with zeros. -/
def split (octets : Bytes) : List Block :=
  (List.range ((octets.length + 15) / 16)).map fun i => pad ((octets.drop (16 * i)).take 16)

/-- `L`: the size of the length field. -/
def lengthSize (nonce : Bytes) : ℕ := 15 - nonce.length

/-- `B_0` (section 2.2): the flags `64 * Adata + 8 * M' + L'`, the nonce and
    `l(m)`. -/
def b0 (nonce message aad : Bytes) (tagLength : ℕ) : Block :=
  let adata := if aad = [] then 0 else 1
  pad (UInt8.ofNat (64 * adata + 8 * ((tagLength - 2) / 2) + (lengthSize nonce - 1)) ::
    nonce ++ beBytes (lengthSize nonce) message.length)

/-- `l(a)` and `a`, for the lengths that take two octets. -/
def encodeAad (aad : Bytes) : Bytes := if aad = [] then [] else beBytes 2 aad.length ++ aad

/-- `A_i` (section 2.3): the flags `L'`, the nonce and the counter. -/
def a (nonce : Bytes) (i : ℕ) : Block :=
  pad (UInt8.ofNat (lengthSize nonce - 1) :: nonce ++ beBytes (lengthSize nonce) i)

section

variable (encrypt : Block → Block)

/-- `X_{n+1}`: the CBC-MAC over `B_0`, the blocks of `a` and those of `m`. -/
def authenticate (nonce message aad : Bytes) (tagLength : ℕ) : Block :=
  (split (encodeAad aad) ++ split message).foldl (fun x b => encrypt (xor x b))
    (encrypt (b0 nonce message aad tagLength))

/-- `S_i`. -/
def s (nonce : Bytes) (i : ℕ) : Block := encrypt (a nonce i)

/-- The octets of `S_1, S_2, …, S_n`. -/
def keyStream (nonce : Bytes) (n : ℕ) : Bytes :=
  (List.range' 1 n).flatMap fun i => (s encrypt nonce i).toList

/-- The encrypted message: `m` XORed with the first `l(m)` octets of the key
    stream. -/
def ciphertext (nonce message : Bytes) : Bytes :=
  xorBytes message ((keyStream encrypt nonce ((message.length + 15) / 16)).take message.length)

/-- The authentication value `U = T XOR first-M-bytes(S_0)`. -/
def tag (nonce message aad : Bytes) (tagLength : ℕ) : Bytes :=
  xorBytes ((authenticate encrypt nonce message aad tagLength).toList.take tagLength)
    ((s encrypt nonce 0).toList.take tagLength)

end

end SmbBrowser.Rfc3610

namespace SmbBrowser.Base

/-! ## XOR with a joined key stream -/

/-- XOR reads no more of the right string than the left one is long. -/
theorem xorBytes_take (left right : Bytes) :
    xorBytes left (right.take left.length) = xorBytes left right := by
  induction left generalizing right with
  | nil => rfl
  | cons x left ih =>
    cases right with
    | nil => rfl
    | cons y right =>
      have htail := ih right
      simp only [xorBytes, List.length_cons, List.take_succ_cons, List.zipWith_cons_cons]
        at htail ⊢
      rw [htail]

theorem take_xorBytes (left right : Bytes) (n : ℕ) :
    (xorBytes left right).take n = xorBytes (left.take n) (right.take n) :=
  List.take_zipWith

/-- XOR block by block is XOR with the blocks joined. -/
theorem xorStream_eq_xorBytes {n : ℕ} {stream : ℕ → Vector UInt8 n} {blocks : ℕ} :
    ∀ {counter : ℕ} {input : Bytes}, input.length ≤ blocks * n →
      xorStream stream blocks counter input =
        xorBytes input ((List.range' counter blocks).flatMap fun i => (stream i).toList) := by
  induction blocks with
  | zero =>
    intro counter input h
    have hnil : input = [] := List.length_eq_zero_iff.1 (by omega)
    rw [hnil]
    rfl
  | succ blocks ih =>
    intro counter input h
    have hrest : (input.drop n).length ≤ blocks * n := by
      rw [List.length_drop, Nat.sub_le_iff_le_add]
      rwa [Nat.succ_mul] at h
    rw [xorStream, ih hrest, List.range'_succ, List.flatMap_cons]
    by_cases hfull : n ≤ input.length
    · have hlen : (input.take n).length = (stream counter).toList.length := by
        rw [List.length_take, Vector.length_toList]
        omega
      have hsplit := List.take_append_drop n input
      conv_rhs => rw [← hsplit]
      rw [xorBytes, xorBytes, xorBytes, List.zipWith_append hlen]
    · have hdrop : input.drop n = [] := List.drop_eq_nil_of_le (by omega)
      have htake : input.take n = input := List.take_of_length_le (by omega)
      have hle : input.length ≤ (stream counter).toList.length := by
        rw [Vector.length_toList]
        omega
      have hempty : xorBytes [] ((List.range' (counter + 1) blocks).flatMap
          fun i => (stream i).toList) = [] := rfl
      rw [hdrop, htake, hempty, List.append_nil, ← xorBytes_take, ← xorBytes_take input (_ ++ _),
        List.take_append_of_le_length hle]

end SmbBrowser.Base

namespace SmbBrowser.Native

open SmbBrowser.Base

/-! ## The blocks of the code -/

theorem ofBytes_eq_pad (bytes : Bytes) (offset : ℕ) :
    Block16.ofBytes bytes offset = Rfc3610.pad ((bytes.drop offset).take 16) := by
  ext i hi
  simp [Block16.ofBytes, Rfc3610.pad, List.getD_eq_getElem?_getD]

/-- The flags of the two kinds of block, for the values that fit their bits. -/
theorem flags_eq (adata : Bool) {m l : ℕ} (hm : m < 8) (hl : l < 8) :
    (if adata then (0 : UInt8) else 0x40) ||| (UInt8.ofNat (m % 8) <<< 3) ||| UInt8.ofNat (l % 8) =
      UInt8.ofNat (64 * (if adata then 0 else 1) + 8 * m + l) := by
  have hall : ∀ (adata : Bool) (m l : Fin 8),
      (if adata then (0 : UInt8) else 0x40) ||| (UInt8.ofNat (m % 8) <<< 3) |||
        UInt8.ofNat (l % 8) = UInt8.ofNat (64 * (if adata then 0 else 1) + 8 * m + l) := by
    decide +kernel
  exact hall adata ⟨m, hm⟩ ⟨l, hl⟩

/-- The code's first block is `B_0`. -/
theorem macFirstBlock_eq {nonce : Bytes} (hlow : 7 ≤ nonce.length) (hhigh : nonce.length ≤ 13)
    (message aad : Bytes) {tagLength : ℕ} (htag : tagLength ≤ 16) :
    macFirstBlock nonce message aad tagLength = Rfc3610.b0 nonce message aad tagLength := by
  have hflags := flags_eq aad.isEmpty (m := (tagLength - 2) / 2) (l := 15 - nonce.length - 1)
    (by omega) (by omega)
  have hadata : (if aad.isEmpty then 0 else 1) = if aad = [] then 0 else 1 := by
    cases aad <;> rfl
  rw [macFirstBlock, Rfc3610.b0, Rfc3610.lengthSize, hflags, ← hadata, ofBytes_eq_pad, List.drop_zero, List.take_of_length_le]
  simp only [List.cons_append, List.length_cons, List.length_append, length_beBytes]
  omega

/-- The code's counter blocks are the `A_i`. -/
theorem counterBlock_eq {nonce : Bytes} (hlow : 7 ≤ nonce.length) (hhigh : nonce.length ≤ 13)
    (i : ℕ) : counterBlock nonce i = Rfc3610.a nonce i := by
  have hmod : (15 - nonce.length - 1) % 8 = 15 - nonce.length - 1 := by omega
  rw [counterBlock, Rfc3610.a, Rfc3610.lengthSize, hmod, ofBytes_eq_pad, List.drop_zero, List.take_of_length_le]
  simp only [List.cons_append, List.length_cons, List.length_append, length_beBytes]
  omega

/-- The loop over a string takes in the blocks it splits into. -/
theorem macBlocks_split (encryptBlock : Block16 → Block16) (bytes : Bytes) (state : Block16) :
    macBlocks encryptBlock bytes (blockCount bytes.length) 0 state =
      (Rfc3610.split bytes).foldl (fun x b => encryptBlock (Rfc3610.xor x b)) state := by
  have hblocks : ((List.range (blockCount bytes.length)).map fun i =>
      Block16.ofBytes bytes (0 + 16 * i)) = Rfc3610.split bytes := by
    rw [Rfc3610.split]
    apply List.map_congr_left
    intro i _
    rw [ofBytes_eq_pad, Nat.zero_add]
  rw [macBlocks_eq_foldl, hblocks]
  rfl

/-- Zeros up to the end of a block leave the blocks as they are. -/
theorem split_append_zeros (bytes : Bytes) {k : ℕ} (hk : k = (16 - bytes.length % 16) % 16) :
    Rfc3610.split (bytes ++ List.replicate k 0) = Rfc3610.split bytes := by
  have hcount : (bytes.length + k + 15) / 16 = (bytes.length + 15) / 16 := by omega
  rw [Rfc3610.split, Rfc3610.split, List.length_append, List.length_replicate, hcount]
  apply List.map_congr_left
  intro i _
  rw [← ofBytes_eq_pad, ← ofBytes_eq_pad]
  ext j hj
  have hzero : (bytes ++ List.replicate k 0).getD (16 * i + j) 0 = bytes.getD (16 * i + j) 0 := by
    by_cases hin : 16 * i + j < bytes.length
    · rw [List.getD_append _ _ _ _ hin]
    · rw [List.getD_append_right _ _ _ _ (by omega), List.getD_eq_default bytes _ (by omega),
        List.getD_eq_getElem?_getD, List.getElem?_getD_replicate_default_eq]
  simp only [Block16.ofBytes, Vector.getElem_ofFn, hzero]

theorem split_formatAad {aad : Bytes} (h : aad.length < 0xFF00) :
    Rfc3610.split (formatAad aad) = Rfc3610.split (Rfc3610.encodeAad aad) := by
  by_cases hnil : aad = []
  · rw [hnil]
    rfl
  · have hempty : ¬ aad.isEmpty = true := by simpa using hnil
    have hlen : ¬ aad.length ≥ 0xFF00 := by omega
    rw [formatAad, if_neg hempty, if_neg hlen, Rfc3610.encodeAad, if_neg hnil]
    exact split_append_zeros _ rfl

namespace BlockCipher

variable (cipher : BlockCipher)

/-! ## The messages -/

section

variable {key nonce plaintext aad : Bytes} {tagLength : ℕ}

/-- The checks of `cbcMac` under the parameters of the RFC: only the bound on the
    plaintext is left, and it is zero for a length field of 8 bytes. -/
theorem cbcMac_conforms (hkey : key.length = 16) (hlow : 7 ≤ nonce.length)
    (hhigh : nonce.length ≤ 13) (htag : 4 ≤ tagLength ∧ tagLength ≤ 16 ∧ tagLength % 2 = 0)
    (haad : aad.length < 0xFF00) (hplain : plaintext.length < 256 ^ (15 - nonce.length)) :
    cipher.cbcMac key nonce plaintext aad tagLength =
      if nonce.length = 7 then
        failure .protocolUnsupported "AES-CCM plaintext is too large for the selected nonce length."
      else
        .ok (Rfc3610.authenticate (cipher (.ofBytes key 0)) nonce plaintext aad tagLength) := by
  obtain ⟨htagLow, htagHigh, htagEven⟩ := htag
  have hempty : nonce.isEmpty = false := by
    rw [List.isEmpty_eq_false_iff, ← List.length_pos_iff]
    omega
  have hlen : ¬ key.length ≠ kAesBlockSize := not_not.2 hkey
  have hnonce : ¬ (nonce.isEmpty || decide (nonce.length > 13)) = true := by
    simp [hempty, hhigh]
  have htagLength : ¬ (decide (tagLength < 4) || decide (tagLength > 16) ||
      decide (tagLength % 2 ≠ 0)) = true := by
    simp [htagLow, htagHigh, htagEven]
  rw [cbcMac, if_neg hlen, if_neg hnonce, if_neg htagLength]
  by_cases hseven : nonce.length = 7
  · have hbound : plaintext.length ≥ 256 ^ (15 - nonce.length) % 2 ^ 64 := by
      rw [hseven]
      exact Nat.zero_le _
    rw [if_pos hbound, if_pos hseven]
  · have hbound : ¬ plaintext.length ≥ 256 ^ (15 - nonce.length) % 2 ^ 64 := by
      have hpow : 256 ^ (15 - nonce.length) < 2 ^ 64 := by
        calc 256 ^ (15 - nonce.length) ≤ 256 ^ 7 := Nat.pow_le_pow_right (by omega) (by omega)
          _ < 2 ^ 64 := by norm_num
      rw [Nat.mod_eq_of_lt hpow]
      omega
    rw [if_neg hbound, if_neg hseven]
    dsimp only
    rw [if_neg (formatAad_accepted haad), macBlocks_split, macBlocks_split, split_formatAad haad,
      macFirstBlock_eq hlow hhigh _ _ htagHigh, ← List.foldl_append, Rfc3610.authenticate]

theorem ccmStream_eq (hlow : 7 ≤ nonce.length) (hhigh : nonce.length ≤ 13) (i : ℕ) :
    cipher.ccmStream key nonce i = Rfc3610.s (cipher (.ofBytes key 0)) nonce i := by
  rw [ccmStream, counterBlock_eq hlow hhigh, Rfc3610.s]

theorem ccmCrypt_conforms (hlow : 7 ≤ nonce.length) (hhigh : nonce.length ≤ 13) :
    cipher.ccmCrypt key nonce plaintext =
      Rfc3610.ciphertext (cipher (.ofBytes key 0)) nonce plaintext := by
  have hstream : cipher.ccmStream key nonce = Rfc3610.s (cipher (.ofBytes key 0)) nonce := by
    funext i
    exact ccmStream_eq cipher hlow hhigh i
  rw [ccmCrypt, xorStream_eq_xorBytes (length_le_blockCount _), hstream, Rfc3610.ciphertext,
    xorBytes_take, Rfc3610.keyStream, blockCount]

/-- **The code computes the ciphertext and the tag of the RFC exactly under the
    nonces that are not of 7 bytes**, whatever the block cipher. -/
theorem ccmEncrypt_conforms_iff (hkey : key.length = 16) (hlow : 7 ≤ nonce.length)
    (hhigh : nonce.length ≤ 13) (htag : 4 ≤ tagLength ∧ tagLength ≤ 16 ∧ tagLength % 2 = 0)
    (haad : aad.length < 0xFF00) (hplain : plaintext.length < 256 ^ (15 - nonce.length)) :
    cipher.ccmEncrypt key nonce plaintext aad tagLength =
        .ok { ciphertext := Rfc3610.ciphertext (cipher (.ofBytes key 0)) nonce plaintext
              tag := Rfc3610.tag (cipher (.ofBytes key 0)) nonce plaintext aad tagLength } ↔
      nonce.length ≠ 7 := by
  have hmac := cbcMac_conforms cipher hkey hlow hhigh htag haad hplain
  by_cases hseven : nonce.length = 7
  · rw [if_pos hseven] at hmac
    rw [ccmEncrypt, hmac]
    constructor
    · intro h
      cases h
    · intro h
      exact absurd hseven h
  · rw [if_neg hseven] at hmac
    have htagEq : (xorBytes (Rfc3610.authenticate (cipher (.ofBytes key 0)) nonce plaintext aad
        tagLength).toList (cipher.ccmTagMask key nonce)).take tagLength =
        Rfc3610.tag (cipher (.ofBytes key 0)) nonce plaintext aad tagLength := by
      rw [take_xorBytes, ccmTagMask, ccmStream_eq cipher hlow hhigh, Rfc3610.tag]
      rfl
    rw [ccmEncrypt, hmac, ccmCrypt_conforms cipher hlow hhigh]
    constructor
    · intro _
      exact hseven
    · intro _
      dsimp only
      rw [Block16.toBytes, htagEq]

end

/-- A nonce of 11 bytes, as the transform header uses it. -/
theorem ccmEncrypt_conforms_eleven :
    (ccmEncrypt aes128EncryptBlock (List.replicate 16 1) (List.replicate 11 2) [3] [4] 16 =
      .ok { ciphertext := Rfc3610.ciphertext
              (aes128EncryptBlock (.ofBytes (List.replicate 16 1) 0)) (List.replicate 11 2) [3]
            tag := Rfc3610.tag (aes128EncryptBlock (.ofBytes (List.replicate 16 1) 0))
              (List.replicate 11 2) [3] [4] 16 }) ↔ (List.replicate 11 (2 : UInt8)).length ≠ 7 :=
  ccmEncrypt_conforms_iff aes128EncryptBlock (by decide) (by decide) (by decide) (by decide)
    (by decide) (by decide)

/-- Under a nonce of 7 bytes even the empty plaintext is refused. -/
theorem not_ccmEncrypt_conforms :
    ¬ ∀ (cipher : BlockCipher) (key nonce plaintext aad : Bytes) (tagLength : ℕ),
      key.length = 16 → 7 ≤ nonce.length → nonce.length ≤ 13 →
      (4 ≤ tagLength ∧ tagLength ≤ 16 ∧ tagLength % 2 = 0) → aad.length < 0xFF00 →
      plaintext.length < 256 ^ (15 - nonce.length) →
        cipher.ccmEncrypt key nonce plaintext aad tagLength =
          .ok { ciphertext := Rfc3610.ciphertext (cipher (.ofBytes key 0)) nonce plaintext
                tag := Rfc3610.tag (cipher (.ofBytes key 0)) nonce plaintext aad tagLength } := by
  intro h
  have hrun := h aes128EncryptBlock (List.replicate 16 0) (List.replicate 7 0) [] [] 4
    (by decide) (by decide) (by decide) (by decide) (by decide) (by decide)
  have hrefused : ccmEncrypt aes128EncryptBlock (List.replicate 16 0) (List.replicate 7 0) [] [] 4 =
      failure .protocolUnsupported
        "AES-CCM plaintext is too large for the selected nonce length." := rfl
  rw [hrefused] at hrun
  cases hrun

end BlockCipher

end SmbBrowser.Native
