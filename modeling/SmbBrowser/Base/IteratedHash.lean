import Mathlib.Data.List.Induction
import SmbBrowser.Base.Bytes

/-!
# Hash functions by iteration

A hash function that pads its message to whole blocks and folds a compression
function over them.  The padding ends with the length of the message, so that no
padded message is the end of another one.

Results:
* `foldl_eq`: two folds that meet come from the same list, or come back to their
  start, or somewhere on the way took two different inputs to one state;
* `strengthened`: the padding with a one bit, zeros and the length in eight bytes;
* `IteratedHash.hash_eq`: the iterations of two messages with one hash value contain a
  collision of the compression function;
* `IteratedHash.hmac_eq`: so do those of two inputs of the HMAC with one value.
-/

namespace SmbBrowser.Base

/-! ## Folds that meet -/

section

variable {S B : Type} {step : S → B → S} {s : S}

/-- On the way through two lists `step` takes two different inputs to one state. -/
def CollidesIn (step : S → B → S) (s : S) (l l' : List B) : Prop :=
  ∃ front b rest front' b' rest', l = front ++ b :: rest ∧ l' = front' ++ b' :: rest' ∧
    (front.foldl step s, b) ≠ (front'.foldl step s, b') ∧
    step (front.foldl step s) b = step (front'.foldl step s) b'

/-- A collision among the first elements is one of the whole lists. -/
theorem CollidesIn.append {l l' more more' : List B} (h : CollidesIn step s l l') :
    CollidesIn step s (l ++ more) (l' ++ more') := by
  obtain ⟨front, b, rest, front', b', rest', rfl, rfl, hcollision⟩ := h
  exact ⟨front, b, rest ++ more, front', b', rest' ++ more', by simp, by simp, hcollision⟩

/-- Folds over different lists that start and end in one state: the longer list
    returns to the start before it goes on like the shorter one, or the steps collide. -/
theorem foldl_eq {l : List B} : ∀ {l' : List B}, l.foldl step s = l'.foldl step s →
    CollidesIn step s l l' ∨
      ∃ front, front.foldl step s = s ∧ (l' = front ++ l ∨ l = front ++ l') := by
  induction l using List.reverseRecOn with
  | nil =>
    intro l' h
    exact .inr ⟨l', h.symm, .inl (List.append_nil l').symm⟩
  | append_singleton l b ih =>
    intro l' h
    rcases List.eq_nil_or_concat l' with rfl | ⟨l₁, b', rfl⟩
    · exact .inr ⟨l ++ [b], h, .inr (List.append_nil _).symm⟩
    rw [List.concat_eq_append] at h ⊢
    rw [List.foldl_append, List.foldl_append] at h
    by_cases hne : (l.foldl step s, b) = (l₁.foldl step s, b')
    · -- the last steps are the same, and so are the states before them
      rw [Prod.mk.injEq] at hne
      obtain ⟨hstate, rfl⟩ := hne
      rcases ih hstate with hcollides | ⟨front, hreturns, rfl | rfl⟩
      · exact .inl hcollides.append
      · exact .inr ⟨front, hreturns, .inl (List.append_assoc ..)⟩
      · exact .inr ⟨front, hreturns, .inr (List.append_assoc ..)⟩
    · exact .inl ⟨l, b, [], l₁, b', [], rfl, rfl, hne, h⟩

end

/-! ## Blocks -/

/-- The first `count` blocks of a string. -/
def blocksOf (size : ℕ) : ℕ → Bytes → List Bytes
  | 0, _ => []
  | count + 1, bytes => bytes.take size :: blocksOf size count (bytes.drop size)

theorem flatten_blocksOf {size count : ℕ} : ∀ {bytes : Bytes},
    bytes.length = count * size → (blocksOf size count bytes).flatten = bytes := by
  induction count with
  | zero =>
    intro bytes h
    rw [Nat.zero_mul] at h
    exact (List.length_eq_zero_iff.1 h).symm
  | succ count ih =>
    intro bytes h
    rw [Nat.succ_mul] at h
    have hrest : (bytes.drop size).length = count * size := by
      rw [List.length_drop]
      omega
    rw [blocksOf, List.flatten_cons, ih hrest, List.take_append_drop]

/-! ## Padding -/

/-- A padding to whole blocks.  Among the messages shorter than `bound` none is
    padded to the end of another padded message. -/
structure Padding (size bound : ℕ) where
  pad : Bytes → Bytes
  whole : ∀ data, size ∣ (pad data).length
  suffixFree : ∀ {data data' : Bytes}, data.length < bound → data'.length < bound →
    pad data <:+ pad data' → data = data'

section

variable {lengthBytes : ℕ → Bytes} {data data' : Bytes}

/-- A one bit, as many zeros as lead to eight bytes before the end of a block, and
    the length in bits. -/
def strengthen (lengthBytes : ℕ → Bytes) (data : Bytes) : Bytes :=
  data ++ 0x80 :: List.replicate ((119 - data.length % 64) % 64) 0 ++
    lengthBytes (data.length * 8 % 2 ^ 64)

theorem length_strengthen (hlength : ∀ n, (lengthBytes n).length = 8) (data : Bytes) :
    (strengthen lengthBytes data).length = 64 * ((data.length + 8) / 64 + 1) := by
  simp only [strengthen, List.length_append, List.length_cons, List.length_replicate, hlength]
  omega

/-- The length at the end of a padded message tells how much of it is the message. -/
theorem strengthen_suffixFree (hlength : ∀ n, (lengthBytes n).length = 8)
    (hinjective : ∀ m < 2 ^ 64, ∀ n < 2 ^ 64, lengthBytes m = lengthBytes n → m = n)
    (hdata : data.length < 2 ^ 61) (hdata' : data'.length < 2 ^ 61)
    (h : strengthen lengthBytes data <:+ strengthen lengthBytes data') : data = data' := by
  have hends : ∀ {data : Bytes}, lengthBytes (data.length * 8 % 2 ^ 64) <:+
      strengthen lengthBytes data := by
    intro data
    exact List.suffix_append _ _
  have hlast : lengthBytes (data.length * 8 % 2 ^ 64) = lengthBytes (data'.length * 8 % 2 ^ 64) :=
    (List.suffix_of_suffix_length_le (hends.trans h) hends (by rw [hlength, hlength])).eq_of_length
      (by rw [hlength, hlength])
  have hbits := hinjective _ (Nat.mod_lt _ (by decide)) _ (Nat.mod_lt _ (by decide)) hlast
  have hsame : data.length = data'.length := by omega
  have hpadded : strengthen lengthBytes data = strengthen lengthBytes data' := by
    apply h.eq_of_length
    rw [length_strengthen hlength, length_strengthen hlength, hsame]
  simp only [strengthen, List.append_assoc] at hpadded
  exact (List.append_inj hpadded hsame).1

/-- The padding with the length, for a byte order of the length. -/
def strengthened (lengthBytes : ℕ → Bytes) (hlength : ∀ n, (lengthBytes n).length = 8)
    (hinjective : ∀ m < 2 ^ 64, ∀ n < 2 ^ 64, lengthBytes m = lengthBytes n → m = n) :
    Padding 64 (2 ^ 61) where
  pad := strengthen lengthBytes
  whole data := ⟨_, length_strengthen hlength data⟩
  suffixFree := strengthen_suffixFree hlength hinjective

end

/-! ## Hash values and their HMAC -/

/-- A hash function by iteration, whose values are shorter than a block. -/
structure IteratedHash (S : Type) where
  size : ℕ
  bound : ℕ
  padding : Padding size bound
  initial : S
  compress : S → Bytes → S
  output : S → Bytes
  outputLength : ℕ
  output_injective : ∀ {s s' : S}, output s = output s' → s = s'
  length_output : ∀ s, (output s).length = outputLength
  outputLength_le : outputLength ≤ size

namespace IteratedHash

variable {S : Type} (h : IteratedHash S) {data data' key key' : Bytes}

/-- The blocks of the padded message. -/
def blocks (data : Bytes) : List Bytes :=
  blocksOf h.size ((h.padding.pad data).length / h.size) (h.padding.pad data)

/-- The value of a message. -/
def hash (data : Bytes) : Bytes := h.output ((h.blocks data).foldl h.compress h.initial)

/-- The iterations of two messages contain a collision of the compression function. -/
def Collision (data data' : Bytes) : Prop :=
  CollidesIn h.compress h.initial (h.blocks data) (h.blocks data')

theorem length_hash (data : Bytes) : (h.hash data).length = h.outputLength := h.length_output _

theorem flatten_blocks (data : Bytes) : (h.blocks data).flatten = h.padding.pad data :=
  flatten_blocksOf (Nat.div_mul_cancel (h.padding.whole data)).symm

/-- Messages with one value are the same, or their iterations collide. -/
theorem hash_eq (hdata : data.length < h.bound) (hdata' : data'.length < h.bound)
    (heq : h.hash data = h.hash data') : data = data' ∨ h.Collision data data' := by
  rcases foldl_eq (h.output_injective heq) with hcollides | ⟨front, -, hblocks | hblocks⟩
  · exact .inr hcollides
  · have hflat := congrArg List.flatten hblocks
    rw [List.flatten_append, flatten_blocks, flatten_blocks] at hflat
    exact .inl (h.padding.suffixFree hdata hdata' ⟨_, hflat.symm⟩)
  · have hflat := congrArg List.flatten hblocks
    rw [List.flatten_append, flatten_blocks, flatten_blocks] at hflat
    exact .inl (h.padding.suffixFree hdata' hdata ⟨_, hflat.symm⟩).symm

/-- The key of the HMAC, filled up to a block. -/
def keyBlock (key : Bytes) : Bytes :=
  let normalizedKey := if key.length > h.size then h.hash key else key
  normalizedKey ++ List.replicate (h.size - normalizedKey.length) 0

/-- What the inner hash of the HMAC is taken of. -/
def inner (key data : Bytes) : Bytes := (h.keyBlock key).map (· ^^^ 0x36) ++ data

/-- What the outer hash of the HMAC is taken of. -/
def outer (key data : Bytes) : Bytes :=
  (h.keyBlock key).map (· ^^^ 0x5C) ++ h.hash (h.inner key data)

/-- The HMAC. -/
def hmac (key data : Bytes) : Bytes := h.hash (h.outer key data)

/-- The outer or the inner hashes of two inputs of the HMAC collide. -/
def HmacCollision (key data key' data' : Bytes) : Prop :=
  h.Collision (h.outer key data) (h.outer key' data') ∨
    h.Collision (h.inner key data) (h.inner key' data')

theorem length_keyBlock (key : Bytes) : (h.keyBlock key).length = h.size := by
  have hle := h.outputLength_le
  have hhash := h.length_hash key
  simp only [keyBlock, List.length_append, List.length_replicate]
  split <;> omega

/-- Keys of one length that fit in a block keep apart. -/
theorem keyBlock_inj (hkey : key.length ≤ h.size) (hlength : key.length = key'.length)
    (heq : h.keyBlock key = h.keyBlock key') : key = key' := by
  rw [keyBlock, keyBlock, if_neg (by omega), if_neg (by omega)] at heq
  exact (List.append_inj heq hlength).1

theorem map_xor_inj {pad : UInt8} {a b : Bytes} (heq : a.map (· ^^^ pad) = b.map (· ^^^ pad)) :
    a = b := by
  apply List.map_injective_iff.2 ?_ heq
  intro x y hxy
  have hcancel : ∀ z : UInt8, z ^^^ pad ^^^ pad = z := by
    intro z
    rw [UInt8.xor_assoc, UInt8.xor_self, UInt8.xor_zero]
  rw [← hcancel x, ← hcancel y]
  exact congrArg (· ^^^ pad) hxy

theorem length_inner (key data : Bytes) : (h.inner key data).length = h.size + data.length := by
  rw [inner, List.length_append, List.length_map, length_keyBlock]

theorem length_outer (key data : Bytes) :
    (h.outer key data).length = h.size + h.outputLength := by
  rw [outer, List.length_append, List.length_map, length_keyBlock, length_hash]

/-- Inputs of the HMAC with one value are the same, or their hashes collide. -/
theorem hmac_eq (hbound : 2 * h.size < h.bound) (hdata : h.size + data.length < h.bound)
    (hdata' : h.size + data'.length < h.bound) (heq : h.hmac key data = h.hmac key' data') :
    (h.keyBlock key = h.keyBlock key' ∧ data = data') ∨ h.HmacCollision key data key' data' := by
  have hle := h.outputLength_le
  have houter := h.hash_eq (by rw [length_outer]; omega) (by rw [length_outer]; omega) heq
  rcases houter with houter | hcollides
  · obtain ⟨hkey, hinner⟩ := List.append_inj houter (by simp [length_keyBlock])
    have hkeys := map_xor_inj hkey
    have hsame := h.hash_eq (by rwa [length_inner]) (by rwa [length_inner]) hinner
    rcases hsame with hsame | hcollides
    · rw [inner, inner, hkeys] at hsame
      exact .inl ⟨hkeys, List.append_cancel_left hsame⟩
    · exact .inr (.inr hcollides)
  · exact .inr (.inl hcollides)

end IteratedHash

end SmbBrowser.Base
