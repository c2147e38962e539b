import SmbBrowser.Base.IteratedHash
import SmbBrowser.Crypto.Md
import SmbBrowser.Crypto.Sha256

/-!
# Collisions of the hash functions

`md4`, `md5` and `sha256` are hash functions by iteration, and `hmacMd5` and
`hmacSha256` the HMACs of the last two.

Results:
* `toList_md4`, `toList_md5`, `sha256_eq_hash`, `toList_hmacMd5`, `hmacSha256_eq_hmac`:
  the code computes these iterations;
* `digests_collide`: the iterations of two messages with one digest, or of two inputs of
  an HMAC with one value, contain a collision of the compression function.
-/

namespace SmbBrowser.Native

open SmbBrowser.Base

/-! ## Words and lengths -/

theorem leBytes_inj {w m n : ℕ} (hm : m < 256 ^ w) (hn : n < 256 ^ w)
    (h : leBytes w m = leBytes w n) : m = n := by
  have hvalue := congrArg leValue h
  rwa [leValue_leBytes, leValue_leBytes, Nat.mod_eq_of_lt hm, Nat.mod_eq_of_lt hn] at hvalue

theorem beBytes_inj {w m n : ℕ} (hm : m < 256 ^ w) (hn : n < 256 ^ w)
    (h : beBytes w m = beBytes w n) : m = n := by
  have hvalue := congrArg beValue h
  rwa [beValue_beBytes, beValue_beBytes, Nat.mod_eq_of_lt hm, Nat.mod_eq_of_lt hn] at hvalue

/-- Words of four bytes each can be read back from their bytes. -/
theorem words_inj (wordBytes : UInt32 → Bytes) (hlength : ∀ w, (wordBytes w).length = 4)
    (hinjective : ∀ v w, wordBytes v = wordBytes w → v = w) (words words' : List UInt32)
    (hcount : words.length = words'.length)
    (h : words.flatMap wordBytes = words'.flatMap wordBytes) : words = words' := by
  induction words generalizing words' with
  | nil => exact (List.length_eq_zero_iff.1 hcount.symm).symm
  | cons v words ih =>
    obtain _ | ⟨w, words'⟩ := words'
    · simp at hcount
    · simp only [List.flatMap_cons] at h
      have hsplit := List.append_inj h ((hlength v).trans (hlength w).symm)
      rw [hinjective v w hsplit.1, ih words' (Nat.succ.inj hcount) hsplit.2]

theorem leBytes_word_inj (v w : UInt32) (h : leBytes 4 v.toNat = leBytes 4 w.toNat) : v = w :=
  UInt32.toNat_inj.1 (leBytes_inj v.toNat_lt w.toNat_lt h)

theorem beBytes_word_inj (v w : UInt32) (h : beBytes 4 v.toNat = beBytes 4 w.toNat) : v = w :=
  UInt32.toNat_inj.1 (beBytes_inj v.toNat_lt w.toNat_lt h)

theorem MdState.toBytes_inj {s t : MdState} (h : s.toBytes = t.toBytes) : s = t := by
  obtain ⟨a, b, c, d⟩ := s
  obtain ⟨a', b', c', d'⟩ := t
  have hwords := words_inj _ (fun w => length_leBytes 4 w.toNat) leBytes_word_inj
    [a, b, c, d] [a', b', c', d'] rfl h
  simp only [List.cons.injEq, and_true] at hwords
  rw [MdState.mk.injEq]
  exact hwords

theorem Sha256State.toBytes_inj {s t : Sha256State} (h : s.toBytes = t.toBytes) : s = t := by
  obtain ⟨a, b, c, d, e, f, g, k⟩ := s
  obtain ⟨a', b', c', d', e', f', g', k'⟩ := t
  have hwords := words_inj _ (fun w => length_beBytes 4 w.toNat) beBytes_word_inj
    [a, b, c, d, e, f, g, k] [a', b', c', d', e', f', g', k'] rfl h
  simp only [List.cons.injEq, and_true] at hwords
  rw [Sha256State.mk.injEq]
  exact hwords

/-! ## The iterations -/

/-- The padding of `paddedMessage`. -/
def mdPadding : Padding 64 (2 ^ 61) :=
  strengthened (leBytes 8) (length_leBytes 8) fun _ hm _ hn => leBytes_inj hm hn

/-- The padding of `paddedSha256Message`. -/
def sha256Padding : Padding 64 (2 ^ 61) :=
  strengthened (beBytes 8) (length_beBytes 8) fun _ hm _ hn => beBytes_inj hm hn

/-- The iteration of `md4` and of `md5`. -/
def mdHash (compress : MdState → Bytes → MdState) : IteratedHash MdState where
  size := 64
  bound := 2 ^ 61
  padding := mdPadding
  initial := .initial
  compress := compress
  output := MdState.toBytes
  outputLength := 16
  output_injective := MdState.toBytes_inj
  length_output := MdState.length_toBytes
  outputLength_le := by decide

/-- The iteration of `sha256`. -/
def sha256Hash : IteratedHash Sha256State where
  size := 64
  bound := 2 ^ 61
  padding := sha256Padding
  initial := .initial
  compress := sha256Block
  output := Sha256State.toBytes
  outputLength := 32
  output_injective := Sha256State.toBytes_inj
  length_output := Sha256State.length_toBytes
  outputLength_le := by decide

theorem mdBlocks_eq_foldl (compress : MdState → Bytes → MdState) (blocks : ℕ) (s : MdState)
    (bytes : Bytes) :
    mdBlocks compress blocks s bytes = (blocksOf 64 blocks bytes).foldl compress s := by
  induction blocks generalizing s bytes with
  | zero => rfl
  | succ blocks ih => rw [mdBlocks, blocksOf, List.foldl_cons, ih]

theorem sha256Blocks_eq_foldl (blocks : ℕ) (s : Sha256State) (bytes : Bytes) :
    sha256Blocks blocks s bytes = (blocksOf 64 blocks bytes).foldl sha256Block s := by
  induction blocks generalizing s bytes with
  | zero => rfl
  | succ blocks ih => rw [sha256Blocks, blocksOf, List.foldl_cons, ih]

theorem toList_md4 (data : Bytes) : (md4 data).toList = (mdHash md4Block).hash data := by
  show (mdBlocks md4Block _ .initial _).toBytes = _
  rw [mdBlocks_eq_foldl]
  rfl

theorem toList_md5 (data : Bytes) : (md5 data).toList = (mdHash md5Block).hash data := by
  show (mdBlocks md5Block _ .initial _).toBytes = _
  rw [mdBlocks_eq_foldl]
  rfl

theorem sha256_eq_hash (data : Bytes) : sha256 data = sha256Hash.hash data := by
  show (sha256Blocks _ .initial _).toBytes = _
  rw [sha256Blocks_eq_foldl]
  rfl

theorem toList_hmacMd5 (key data : Bytes) :
    (hmacMd5 key data).toList = (mdHash md5Block).hmac key data := by
  unfold hmacMd5
  simp only [toList_md5]
  rfl

theorem hmacSha256_eq_hmac (key data : Bytes) : hmacSha256 key data = sha256Hash.hmac key data := by
  unfold hmacSha256
  simp only [sha256_eq_hash]
  rfl

/-! ## Collisions -/

/-- An HMAC keeps inputs apart: where it has one value for two inputs, with keys of one
    length and of a block at most, its hashes collide. -/
def SeparatesInputs {D S : Type} (hmac : Bytes → Bytes → D) (h : IteratedHash S) : Prop :=
  ∀ key key' data data', key.length ≤ 64 → key.length = key'.length → data.length < 2 ^ 60 →
    data'.length < 2 ^ 60 → hmac key data = hmac key' data' →
    (key = key' ∧ data = data') ∨ h.HmacCollision key data key' data'

theorem separatesInputs_hmac {S : Type} {h : IteratedHash S} (hsize : h.size = 64)
    (hbound : h.bound = 2 ^ 61) : SeparatesInputs h.hmac h := by
  intro key key' data data' hkey hlength hdata hdata' heq
  have hseparate := h.hmac_eq (by omega) (by omega) (by omega) heq
  refine hseparate.imp_left fun hsame => ⟨?_, hsame.2⟩
  exact h.keyBlock_inj (by omega) hlength hsame.1

theorem md4_separates {data data' : Bytes} (hdata : data.length < 2 ^ 61)
    (hdata' : data'.length < 2 ^ 61) (h : md4 data = md4 data') :
    data = data' ∨ (mdHash md4Block).Collision data data' := by
  have h := congrArg Vector.toList h
  rw [toList_md4, toList_md4] at h
  exact (mdHash md4Block).hash_eq hdata hdata' h

theorem separatesInputs_hmacMd5 : SeparatesInputs hmacMd5 (mdHash md5Block) := by
  intro key key' data data' hkey hlength hdata hdata' h
  have h := congrArg Vector.toList h
  rw [toList_hmacMd5, toList_hmacMd5] at h
  exact separatesInputs_hmac rfl rfl _ _ _ _ hkey hlength hdata hdata' h

theorem separatesInputs_hmacSha256 : SeparatesInputs hmacSha256 sha256Hash := by
  intro key key' data data' hkey hlength hdata hdata' h
  rw [hmacSha256_eq_hmac, hmacSha256_eq_hmac] at h
  exact separatesInputs_hmac rfl rfl _ _ _ _ hkey hlength hdata hdata' h

/-- **The digests of the engine**: the iterations of two messages with one digest, or of
    two inputs of an HMAC with one value, contain a collision of the compression
    function. -/
theorem digests_collide :
    (∀ data data', data.length < 2 ^ 61 → data'.length < 2 ^ 61 →
      (md4 data = md4 data' → data = data' ∨ (mdHash md4Block).Collision data data') ∧
      (md5 data = md5 data' → data = data' ∨ (mdHash md5Block).Collision data data') ∧
      (sha256 data = sha256 data' → data = data' ∨ sha256Hash.Collision data data')) ∧
    SeparatesInputs hmacMd5 (mdHash md5Block) ∧ SeparatesInputs hmacSha256 sha256Hash := by
  refine ⟨fun data data' hdata hdata' => ⟨md4_separates hdata hdata', fun h => ?_, fun h => ?_⟩,
    separatesInputs_hmacMd5, separatesInputs_hmacSha256⟩
  · have h := congrArg Vector.toList h
    rw [toList_md5, toList_md5] at h
    exact (mdHash md5Block).hash_eq hdata hdata' h
  · rw [sha256_eq_hash, sha256_eq_hash] at h
    exact sha256Hash.hash_eq hdata hdata' h

/-- A message of two blocks. -/
def collidingMessage : Bytes :=
  [0x02dd31d1, 0xc4eee6c5, 0x069a3d69, 0x5cf9af98, 0x87b5ca2f, 0xab7e4612, 0x3e580440, 0x897ffbb8,
   0x0634ad55, 0x02b3f409, 0x8388e483, 0x5a417125, 0xe8255108, 0x9fc9cdf7, 0xf2bd1dd9, 0x5b3c3780,
   0x313e82d8, 0x5b8f3456, 0xd4ac6dae, 0xc619c936, 0xb4e253dd, 0xfd03da87, 0x06633902, 0xa0cd48d2,
   0x42339fe9, 0xe87e570f, 0x70b654ce, 0x1e0da880, 0xbc2198c6, 0x9383a8b6, 0x2b65f996,
   0x702af76f].flatMap (leBytes 4)

/-- It differs in six bytes, and has the same MD5. -/
def otherMessage : Bytes :=
  [(19, 0x07), (45, 0xf1), (59, 0x72), (83, 0x34), (109, 0x28), (123, 0xab)].foldl
    (fun message change => message.set change.1 change.2) collidingMessage

/-- The blocks of the two messages collide on the way. -/
theorem digests_collide_md5 : (mdHash md5Block).Collision collidingMessage otherMessage := by
  have hlength : collidingMessage.length = 128 ∧ otherMessage.length = 128 := by decide +kernel
  have hdigest : md5 collidingMessage = md5 otherMessage := by decide +kernel
  have hne : collidingMessage ≠ otherMessage := by decide +kernel
  obtain ⟨-, hmd5, -⟩ := digests_collide.1 collidingMessage otherMessage
    (hlength.1.trans_lt (by decide)) (hlength.2.trans_lt (by decide))
  exact (hmd5 hdigest).resolve_left hne

end SmbBrowser.Native
