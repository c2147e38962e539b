import SmbBrowser.Base.Unicode
import SmbBrowser.Native.Exceptions

/-!
# Names on the wire and back

`encodeUtf16Le` reads sequences of UTF-8 by their bits, so it also takes
overlong sequences and encoded surrogates; `decodeUtf16Le` takes exactly the
code units of a list of characters.

Results:
* `nextCodePoint_bytes`, `exists_bytes_of_nextCodePoint`: one turn of the
  encoder's loop reads one sequence;
* `encodeUtf16Le_eq_ok_iff`: which texts the encoder takes;
* `encodeUtf16Le_chars`, `decodeUtf16Le_chars`, `decodeUtf16Le_eq_ok_iff`: both
  directions on the texts of characters;
* `encodesFaithfully_iff`: where the encoder and the decoder are inverse on the
  side of UTF-8, and `decodeUtf16Le_roundTrip`, on the side of UTF-16.
-/

namespace SmbBrowser.Native

open SmbBrowser.Base

/-! ## Bits and numbers -/

/-- Bits below and above a place are added. -/
theorem toNat_or_of_lt {a b : UInt32} (k : ℕ) (ha : 2 ^ k ∣ a.toNat) (hb : b.toNat < 2 ^ k) :
    (a ||| b).toNat = a.toNat + b.toNat := by
  obtain ⟨c, hc⟩ := ha
  rw [UInt32.toNat_or, hc, ← Nat.two_pow_add_eq_or_of_lt hb]

theorem toNat_ofNat_uint32 {n : ℕ} (h : n < 2 ^ 32) : (UInt32.ofNat n).toNat = n := by
  rw [UInt32.toNat_ofNat', Nat.mod_eq_of_lt h]

theorem toNat_ofNat_shiftLeft {n m : ℕ} (k : UInt32) (hk : k.toNat < 32)
    (hm : n * 2 ^ k.toNat = m) (h : m < 2 ^ 32) : (UInt32.ofNat n <<< k).toNat = m := by
  have hn : n < 2 ^ 32 := by
    have hle : n * 1 ≤ n * 2 ^ k.toNat := Nat.mul_le_mul_left n Nat.one_le_two_pow
    omega
  rw [UInt32.toNat_shiftLeft, Nat.mod_eq_of_lt hk, Nat.shiftLeft_eq, toNat_ofNat_uint32 hn, hm,
    Nat.mod_eq_of_lt h]

/-- The free bits of a two-byte sequence. -/
theorem joinTwo {x y : ℕ} (hx : x < 32) (hy : y < 64) :
    (UInt32.ofNat x <<< 6) ||| UInt32.ofNat y = UInt32.ofNat (64 * x + y) := by
  have hx' : (UInt32.ofNat x <<< 6).toNat = 64 * x :=
    toNat_ofNat_shiftLeft 6 (by decide) (by show x * 2 ^ 6 = _; omega) (by omega)
  have hy' : (UInt32.ofNat y).toNat = y := toNat_ofNat_uint32 (by omega)
  apply UInt32.toNat_inj.1
  rw [toNat_or_of_lt 6 (by omega) (by omega), hx', hy', toNat_ofNat_uint32 (by omega)]

/-- The free bits of a three-byte sequence. -/
theorem joinThree {x y z : ℕ} (hx : x < 16) (hy : y < 64) (hz : z < 64) :
    (UInt32.ofNat x <<< 12) ||| (UInt32.ofNat y <<< 6) ||| UInt32.ofNat z =
      UInt32.ofNat (4096 * x + 64 * y + z) := by
  have hx' : (UInt32.ofNat x <<< 12).toNat = 4096 * x :=
    toNat_ofNat_shiftLeft 12 (by decide) (by show x * 2 ^ 12 = _; omega) (by omega)
  have hy' : (UInt32.ofNat y <<< 6).toNat = 64 * y :=
    toNat_ofNat_shiftLeft 6 (by decide) (by show y * 2 ^ 6 = _; omega) (by omega)
  have hz' : (UInt32.ofNat z).toNat = z := toNat_ofNat_uint32 (by omega)
  have hhigh : ((UInt32.ofNat x <<< 12) ||| (UInt32.ofNat y <<< 6)).toNat = 4096 * x + 64 * y := by
    rw [toNat_or_of_lt 12 (by omega) (by omega), hx', hy']
  apply UInt32.toNat_inj.1
  rw [toNat_or_of_lt 6 (by omega) (by omega), hhigh, hz', toNat_ofNat_uint32 (by omega)]

/-- The free bits of a four-byte sequence. -/
theorem joinFour {w x y z : ℕ} (hw : w < 8) (hx : x < 64) (hy : y < 64) (hz : z < 64) :
    (UInt32.ofNat w <<< 18) ||| (UInt32.ofNat x <<< 12) ||| (UInt32.ofNat y <<< 6) |||
      UInt32.ofNat z = UInt32.ofNat (262144 * w + 4096 * x + 64 * y + z) := by
  have hw' : (UInt32.ofNat w <<< 18).toNat = 262144 * w :=
    toNat_ofNat_shiftLeft 18 (by decide) (by show w * 2 ^ 18 = _; omega) (by omega)
  have hx' : (UInt32.ofNat x <<< 12).toNat = 4096 * x :=
    toNat_ofNat_shiftLeft 12 (by decide) (by show x * 2 ^ 12 = _; omega) (by omega)
  have hy' : (UInt32.ofNat y <<< 6).toNat = 64 * y :=
    toNat_ofNat_shiftLeft 6 (by decide) (by show y * 2 ^ 6 = _; omega) (by omega)
  have hz' : (UInt32.ofNat z).toNat = z := toNat_ofNat_uint32 (by omega)
  have hhigh : ((UInt32.ofNat w <<< 18) ||| (UInt32.ofNat x <<< 12)).toNat =
      262144 * w + 4096 * x := by
    rw [toNat_or_of_lt 18 (by omega) (by omega), hw', hx']
  have hmiddle : ((UInt32.ofNat w <<< 18) ||| (UInt32.ofNat x <<< 12) |||
      (UInt32.ofNat y <<< 6)).toNat = 262144 * w + 4096 * x + 64 * y := by
    rw [toNat_or_of_lt 12 (by omega) (by omega), hhigh, hy']
  apply UInt32.toNat_inj.1
  rw [toNat_or_of_lt 6 (by omega) (by omega), hmiddle, hz', toNat_ofNat_uint32 (by omega)]

/-! ## One turn of the encoder -/

/-- What the encoder sees of a continuation byte. -/
theorem isContinuation_ofNat {x : ℕ} (hx : x < 64) :
    isContinuation (UInt8.ofNat (0x80 + x)) = true ∧
      (UInt8.ofNat (0x80 + x) &&& 0x3F).toUInt32 = UInt32.ofNat x := by
  have h : ∀ x : Fin 64, isContinuation (UInt8.ofNat (0x80 + x)) = true ∧
      (UInt8.ofNat (0x80 + x) &&& 0x3F).toUInt32 = UInt32.ofNat x := by decide
  exact h ⟨x, hx⟩

/-- What the encoder sees of the lead byte of each length. -/
theorem leadOne {x : ℕ} (hx : x < 128) :
    (UInt8.ofNat x &&& 0x80 == 0) = true ∧ (UInt8.ofNat x).toUInt32 = UInt32.ofNat x := by
  have h : ∀ x : Fin 128, (UInt8.ofNat x &&& 0x80 == 0) = true ∧
      (UInt8.ofNat x).toUInt32 = UInt32.ofNat x := by decide
  exact h ⟨x, hx⟩

theorem leadTwo {x : ℕ} (hx : x < 32) :
    (UInt8.ofNat (0xC0 + x) &&& 0x80 == 0) = false ∧
      (UInt8.ofNat (0xC0 + x) &&& 0xE0 == 0xC0) = true ∧
      (UInt8.ofNat (0xC0 + x) &&& 0x1F).toUInt32 = UInt32.ofNat x := by
  have h : ∀ x : Fin 32, (UInt8.ofNat (0xC0 + x) &&& 0x80 == 0) = false ∧
      (UInt8.ofNat (0xC0 + x) &&& 0xE0 == 0xC0) = true ∧
      (UInt8.ofNat (0xC0 + x) &&& 0x1F).toUInt32 = UInt32.ofNat x := by decide
  exact h ⟨x, hx⟩

theorem leadThree {x : ℕ} (hx : x < 16) :
    (UInt8.ofNat (0xE0 + x) &&& 0x80 == 0) = false ∧
      (UInt8.ofNat (0xE0 + x) &&& 0xE0 == 0xC0) = false ∧
      (UInt8.ofNat (0xE0 + x) &&& 0xF0 == 0xE0) = true ∧
      (UInt8.ofNat (0xE0 + x) &&& 0x0F).toUInt32 = UInt32.ofNat x := by
  have h : ∀ x : Fin 16, (UInt8.ofNat (0xE0 + x) &&& 0x80 == 0) = false ∧
      (UInt8.ofNat (0xE0 + x) &&& 0xE0 == 0xC0) = false ∧
      (UInt8.ofNat (0xE0 + x) &&& 0xF0 == 0xE0) = true ∧
      (UInt8.ofNat (0xE0 + x) &&& 0x0F).toUInt32 = UInt32.ofNat x := by decide
  exact h ⟨x, hx⟩

theorem leadFour {x : ℕ} (hx : x < 8) :
    (UInt8.ofNat (0xF0 + x) &&& 0x80 == 0) = false ∧
      (UInt8.ofNat (0xF0 + x) &&& 0xE0 == 0xC0) = false ∧
      (UInt8.ofNat (0xF0 + x) &&& 0xF0 == 0xE0) = false ∧
      (UInt8.ofNat (0xF0 + x) &&& 0xF8 == 0xF0) = true ∧
      (UInt8.ofNat (0xF0 + x) &&& 0x07).toUInt32 = UInt32.ofNat x := by
  have h : ∀ x : Fin 8, (UInt8.ofNat (0xF0 + x) &&& 0x80 == 0) = false ∧
      (UInt8.ofNat (0xF0 + x) &&& 0xE0 == 0xC0) = false ∧
      (UInt8.ofNat (0xF0 + x) &&& 0xF0 == 0xE0) = false ∧
      (UInt8.ofNat (0xF0 + x) &&& 0xF8 == 0xF0) = true ∧
      (UInt8.ofNat (0xF0 + x) &&& 0x07).toUInt32 = UInt32.ofNat x := by decide
  exact h ⟨x, hx⟩

/-- One turn of the loop reads one sequence, whatever number it holds. -/
theorem nextCodePoint_bytes (q : Utf8Sequence) (rest : ByteVector) :
    ∃ first tail, q.bytes = first :: tail ∧
      nextCodePoint first (tail ++ rest) = .ok (UInt32.ofNat q.value, rest) := by
  cases q with
  | one v =>
    obtain ⟨n, hn⟩ := v
    obtain ⟨hlead, hvalue⟩ := leadOne hn
    refine ⟨UInt8.ofNat n, [], rfl, ?_⟩
    unfold nextCodePoint
    rw [if_pos hlead, hvalue]
    rfl
  | two v =>
    obtain ⟨n, hn⟩ := v
    have hx : n / 64 < 32 := by omega
    have hy : n % 64 < 64 := by omega
    obtain ⟨h1, h2, hlead⟩ := leadTwo hx
    obtain ⟨hc, hlow⟩ := isContinuation_ofNat hy
    have hjoin : 64 * (n / 64) + n % 64 = n := by omega
    refine ⟨UInt8.ofNat (0xC0 + n / 64), [UInt8.ofNat (0x80 + n % 64)], rfl, ?_⟩
    generalize UInt8.ofNat (0xC0 + n / 64) = first at *
    generalize UInt8.ofNat (0x80 + n % 64) = second at *
    simp [nextCodePoint, -UInt8.toUInt32_and, -beq_iff_eq, h1, h2, hc, hlead, hlow, joinTwo hx hy, hjoin, Utf8Sequence.value]
  | three v =>
    obtain ⟨n, hn⟩ := v
    have hx : n / 4096 < 16 := by omega
    have hy : n / 64 % 64 < 64 := by omega
    have hz : n % 64 < 64 := by omega
    obtain ⟨h1, h2, h3, hlead⟩ := leadThree hx
    obtain ⟨hc, hmiddle⟩ := isContinuation_ofNat hy
    obtain ⟨hc', hlow⟩ := isContinuation_ofNat hz
    have hjoin : 4096 * (n / 4096) + 64 * (n / 64 % 64) + n % 64 = n := by omega
    refine ⟨UInt8.ofNat (0xE0 + n / 4096),
      [UInt8.ofNat (0x80 + n / 64 % 64), UInt8.ofNat (0x80 + n % 64)], rfl, ?_⟩
    generalize UInt8.ofNat (0xE0 + n / 4096) = first at *
    generalize UInt8.ofNat (0x80 + n / 64 % 64) = second at *
    generalize UInt8.ofNat (0x80 + n % 64) = third at *
    simp [nextCodePoint, -UInt8.toUInt32_and, -beq_iff_eq, h1, h2, h3, hc, hc', hlead, hmiddle, hlow, joinThree hx hy hz, hjoin,
      Utf8Sequence.value]
  | four v =>
    obtain ⟨n, hn⟩ := v
    have hw : n / 262144 < 8 := by omega
    have hx : n / 4096 % 64 < 64 := by omega
    have hy : n / 64 % 64 < 64 := by omega
    have hz : n % 64 < 64 := by omega
    obtain ⟨h1, h2, h3, h4, hlead⟩ := leadFour hw
    obtain ⟨hc, hhigh⟩ := isContinuation_ofNat hx
    obtain ⟨hc', hmiddle⟩ := isContinuation_ofNat hy
    obtain ⟨hc'', hlow⟩ := isContinuation_ofNat hz
    have hjoin : 262144 * (n / 262144) + 4096 * (n / 4096 % 64) + 64 * (n / 64 % 64) + n % 64 =
        n := by omega
    refine ⟨UInt8.ofNat (0xF0 + n / 262144), [UInt8.ofNat (0x80 + n / 4096 % 64),
      UInt8.ofNat (0x80 + n / 64 % 64), UInt8.ofNat (0x80 + n % 64)], rfl, ?_⟩
    generalize UInt8.ofNat (0xF0 + n / 262144) = first at *
    generalize UInt8.ofNat (0x80 + n / 4096 % 64) = second at *
    generalize UInt8.ofNat (0x80 + n / 64 % 64) = third at *
    generalize UInt8.ofNat (0x80 + n % 64) = fourth at *
    simp [nextCodePoint, -UInt8.toUInt32_and, -beq_iff_eq, h1, h2, h3, h4, hc, hc', hc'', hlead, hhigh, hmiddle, hlow, joinFour hw hx hy hz,
      hjoin, Utf8Sequence.value]

/-- The bytes a mask lets through, by their free bits. -/
theorem exists_free {mask lead : UInt8} {count : ℕ}
    (h : ∀ n : Fin 256, (UInt8.ofNat n &&& mask == lead) = true →
      n.val - lead.toNat < count ∧ lead.toNat ≤ n) {b : UInt8} (hb : (b &&& mask == lead) = true) :
    ∃ x < count, b = UInt8.ofNat (lead.toNat + x) := by
  have hb' : (UInt8.ofNat b.toNat &&& mask == lead) = true := by rwa [UInt8.ofNat_toNat]
  obtain ⟨hlt, hle⟩ := h ⟨b.toNat, b.toNat_lt⟩ hb'
  refine ⟨b.toNat - lead.toNat, hlt, ?_⟩
  rw [Nat.add_sub_cancel' hle, UInt8.ofNat_toNat]

theorem exists_of_isContinuation {b : UInt8} (h : isContinuation b = true) :
    ∃ x < 64, b = UInt8.ofNat (0x80 + x) :=
  exists_free (by decide +kernel) h

theorem exists_of_leadOne {b : UInt8} (h : (b &&& 0x80 == 0) = true) :
    ∃ x < 128, b = UInt8.ofNat x := by
  obtain ⟨x, hx, rfl⟩ := exists_free (by decide +kernel : ∀ n : Fin 256, (UInt8.ofNat n &&& 0x80 == 0) = true →
    n.val - (0 : UInt8).toNat < 128 ∧ (0 : UInt8).toNat ≤ n) h
  exact ⟨x, hx, by rw [show (0 : UInt8).toNat = 0 from rfl, Nat.zero_add]⟩

theorem exists_of_leadTwo {b : UInt8} (h : (b &&& 0xE0 == 0xC0) = true) :
    ∃ x < 32, b = UInt8.ofNat (0xC0 + x) :=
  exists_free (by decide +kernel) h

theorem exists_of_leadThree {b : UInt8} (h : (b &&& 0xF0 == 0xE0) = true) :
    ∃ x < 16, b = UInt8.ofNat (0xE0 + x) :=
  exists_free (by decide +kernel) h

theorem exists_of_leadFour {b : UInt8} (h : (b &&& 0xF8 == 0xF0) = true) :
    ∃ x < 8, b = UInt8.ofNat (0xF0 + x) :=
  exists_free (by decide +kernel) h

/-- What a turn of the loop reads is one sequence. -/
theorem exists_bytes_of_nextCodePoint {first : UInt8} {rest rest' : ByteVector} {cp : UInt32}
    (h : nextCodePoint first rest = .ok (cp, rest')) :
    ∃ q : Utf8Sequence, first :: rest = q.bytes ++ rest' ∧ cp = UInt32.ofNat q.value := by
  -- the shape of the bytes read is enough: the sequence they make decides the rest
  have hshape : ∃ (q : Utf8Sequence) (tail : ByteVector), first :: rest = q.bytes ++ tail := by
    simp only [nextCodePoint] at h
    split at h
    next h1 =>
      obtain ⟨x, hx, rfl⟩ := exists_of_leadOne h1
      exact ⟨.one ⟨x, hx⟩, rest, rfl⟩
    split at h
    next h1 h2 =>
      obtain ⟨x, hx, rfl⟩ := exists_of_leadTwo h2.1
      split at h
      · next second rest =>
        split at h
        · next hc =>
          obtain ⟨y, hy, rfl⟩ := exists_of_isContinuation hc
          have hdiv : (64 * x + y) / 64 = x := by omega
          have hmod : (64 * x + y) % 64 = y := by omega
          exact ⟨.two ⟨64 * x + y, by omega⟩, rest, by simp only [Utf8Sequence.bytes, hdiv, hmod]; rfl⟩
        · cases h
      · cases h
    split at h
    next h1 h2 h3 =>
      obtain ⟨x, hx, rfl⟩ := exists_of_leadThree h3.1
      split at h
      · next second third rest =>
        split at h
        · next hc =>
          rw [Bool.and_eq_true] at hc
          obtain ⟨y, hy, rfl⟩ := exists_of_isContinuation hc.1
          obtain ⟨z, hz, rfl⟩ := exists_of_isContinuation hc.2
          have hdiv : (4096 * x + 64 * y + z) / 4096 = x := by omega
          have hdiv' : (4096 * x + 64 * y + z) / 64 % 64 = y := by omega
          have hmod : (4096 * x + 64 * y + z) % 64 = z := by omega
          exact ⟨.three ⟨4096 * x + 64 * y + z, by omega⟩, rest, by
            simp only [Utf8Sequence.bytes, hdiv, hdiv', hmod]; rfl⟩
        · cases h
      · cases h
    split at h
    next h1 h2 h3 h4 =>
      obtain ⟨w, hw, rfl⟩ := exists_of_leadFour h4.1
      split at h
      · next second third fourth rest =>
        split at h
        · next hc =>
          rw [Bool.and_eq_true, Bool.and_eq_true] at hc
          obtain ⟨x, hx, rfl⟩ := exists_of_isContinuation hc.1.1
          obtain ⟨y, hy, rfl⟩ := exists_of_isContinuation hc.1.2
          obtain ⟨z, hz, rfl⟩ := exists_of_isContinuation hc.2
          have hdiv : (262144 * w + 4096 * x + 64 * y + z) / 262144 = w := by omega
          have hdiv' : (262144 * w + 4096 * x + 64 * y + z) / 4096 % 64 = x := by omega
          have hdiv'' : (262144 * w + 4096 * x + 64 * y + z) / 64 % 64 = y := by omega
          have hmod : (262144 * w + 4096 * x + 64 * y + z) % 64 = z := by omega
          exact ⟨.four ⟨262144 * w + 4096 * x + 64 * y + z, by omega⟩, rest, by
            simp only [Utf8Sequence.bytes, hdiv, hdiv', hdiv'', hmod]; rfl⟩
        · cases h
      · cases h
    · cases h
  obtain ⟨q, tail, hbytes⟩ := hshape
  obtain ⟨first', tail', hq, hnext⟩ := nextCodePoint_bytes q tail
  rw [hq, List.cons_append, List.cons.injEq] at hbytes
  obtain ⟨rfl, rfl⟩ := hbytes
  rw [hnext] at h
  cases h
  exact ⟨q, by rw [hq]; rfl, rfl⟩

/-! ## The encoder -/

/-- The units of a number: one, a surrogate pair, or none past the last code point. -/
theorem utf16Units_ofNat {n : ℕ} (h : n < 0x200000) :
    utf16Units (UInt32.ofNat n) =
      if n ≤ 0x10FFFF then .ok (codeUnitsLe n)
      else .error (.invalidArgument "Unicode code point is out of range.") := by
  have hn : (UInt32.ofNat n).toNat = n := toNat_ofNat_uint32 (by omega)
  have hle : ∀ m : UInt32, UInt32.ofNat n ≤ m ↔ n ≤ m.toNat := by
    intro m
    rw [UInt32.le_iff_toNat_le, hn]
  unfold utf16Units codeUnitsLe
  simp only [hle]
  by_cases hsmall : n < 0x10000
  · have hbmp : n ≤ (0xFFFF : UInt32).toNat := by show n ≤ 0xFFFF; omega
    have hvalue : (UInt32.ofNat n).toUInt16.toNat = n := by
      rw [UInt32.toNat_toUInt16, hn]; omega
    rw [if_pos hbmp, if_pos (by omega), if_pos hsmall, u16Le, hvalue]
  rw [if_neg (by show ¬ n ≤ 0xFFFF; omega), if_neg hsmall]
  by_cases hrange : n ≤ 0x10FFFF
  · have hadjusted : (UInt32.ofNat n - 0x10000).toNat = n - 0x10000 := by
      rw [UInt32.toNat_sub_of_le _ _ (by rw [UInt32.le_iff_toNat_le, hn]; show 0x10000 ≤ n; omega),
        hn]
      rfl
    have hhigh : ((0xD800 : UInt32) + ((UInt32.ofNat n - 0x10000) >>> 10)).toUInt16.toNat =
        0xD800 + (n - 0x10000) / 0x400 := by
      rw [UInt32.toNat_toUInt16, UInt32.toNat_add, UInt32.toNat_shiftRight, hadjusted,
        show (10 : UInt32).toNat % 32 = 10 from rfl, Nat.shiftRight_eq_div_pow,
        show (0xD800 : UInt32).toNat = 0xD800 from rfl]
      omega
    have hlow : ((0xDC00 : UInt32) + ((UInt32.ofNat n - 0x10000) &&& 0x3FF)).toUInt16.toNat =
        0xDC00 + (n - 0x10000) % 0x400 := by
      rw [UInt32.toNat_toUInt16, UInt32.toNat_add, UInt32.toNat_and, hadjusted,
        show (0x3FF : UInt32).toNat = 2 ^ 10 - 1 from rfl, Nat.and_two_pow_sub_one_eq_mod,
        show (0xDC00 : UInt32).toNat = 0xDC00 from rfl]
      omega
    rw [if_pos (by show n ≤ 0x10FFFF; omega), if_pos hrange]
    simp only [u16Le, hhigh, hlow]
  · rw [if_neg (by show ¬ n ≤ 0x10FFFF; omega), if_neg hrange]

/-- A text of sequences up to the last code point is taken, whatever they hold. -/
theorem encodeUtf16LeLoop_bytes {l : List Utf8Sequence} (hl : ∀ q ∈ l, q.value ≤ 0x10FFFF)
    {fuel : ℕ} (hfuel : (l.flatMap Utf8Sequence.bytes).length ≤ fuel) :
    encodeUtf16LeLoop fuel (l.flatMap Utf8Sequence.bytes) =
      .ok (l.flatMap fun q => codeUnitsLe q.value) := by
  induction l generalizing fuel with
  | nil => cases fuel <;> rfl
  | cons q l ih =>
    obtain ⟨first, tail, hbytes, hnext⟩ := nextCodePoint_bytes q (l.flatMap Utf8Sequence.bytes)
    have hq := hl q List.mem_cons_self
    rw [List.flatMap_cons, hbytes, List.cons_append] at hfuel ⊢
    rw [List.length_cons] at hfuel
    cases fuel with
    | zero => omega
    | succ fuel =>
      have hrest : (l.flatMap Utf8Sequence.bytes).length ≤ fuel := by
        rw [List.length_append] at hfuel
        omega
      show (nextCodePoint first (tail ++ _) >>= _) = _
      rw [hnext]
      show (utf16Units (UInt32.ofNat q.value) >>= _) = _
      rw [utf16Units_ofNat (by omega), if_pos hq]
      show (encodeUtf16LeLoop fuel _ >>= _) = _
      rw [ih (fun q' hq' => hl q' (List.mem_cons_of_mem q hq')) hrest]
      rfl

/-- A text the encoder takes is made of sequences up to the last code point. -/
theorem exists_bytes_of_encodeUtf16LeLoop {fuel : ℕ} {text units : ByteVector}
    (h : encodeUtf16LeLoop fuel text = .ok units) :
    ∃ l : List Utf8Sequence, (∀ q ∈ l, q.value ≤ 0x10FFFF) ∧
      text = l.flatMap Utf8Sequence.bytes := by
  induction fuel generalizing text units with
  | zero =>
    cases text with
    | nil => exact ⟨[], by simp, rfl⟩
    | cons first rest => cases h
  | succ fuel ih =>
    cases text with
    | nil => exact ⟨[], by simp, rfl⟩
    | cons first rest =>
      change (nextCodePoint first rest >>= _) = _ at h
      cases hnext : nextCodePoint first rest with
      | error e =>
        rw [hnext] at h
        cases h
      | ok next =>
        obtain ⟨cp, rest'⟩ := next
        obtain ⟨q, hbytes, rfl⟩ := exists_bytes_of_nextCodePoint hnext
        have hq : q.value < 0x200000 := by
          cases q <;> rename_i v <;> have hv := v.isLt <;> simp only [Utf8Sequence.value] <;> omega
        rw [hnext] at h
        change (utf16Units (UInt32.ofNat q.value) >>= _) = _ at h
        rw [utf16Units_ofNat hq] at h
        split at h
        · next hrange =>
          change (encodeUtf16LeLoop fuel rest' >>= _) = _ at h
          cases hrest : encodeUtf16LeLoop fuel rest' with
          | error e =>
            rw [hrest] at h
            cases h
          | ok units' =>
            obtain ⟨l, hl, rfl⟩ := ih hrest
            refine ⟨q :: l, ?_, by rw [hbytes, List.flatMap_cons]⟩
            rintro q' (_ | ⟨_, hq'⟩)
            · exact hrange
            · exact hl q' hq'
        · cases h

/-- The texts the encoder takes, and what it makes of them. -/
theorem encodeUtf16Le_eq_ok_iff {text units : ByteVector} :
    encodeUtf16Le text = .ok units ↔ ∃ l : List Utf8Sequence, (∀ q ∈ l, q.value ≤ 0x10FFFF) ∧
      text = l.flatMap Utf8Sequence.bytes ∧ units = l.flatMap fun q => codeUnitsLe q.value := by
  constructor
  · intro h
    obtain ⟨l, hl, rfl⟩ := exists_bytes_of_encodeUtf16LeLoop h
    rw [encodeUtf16Le, encodeUtf16LeLoop_bytes hl le_rfl] at h
    cases h
    exact ⟨l, hl, rfl, rfl⟩
  · rintro ⟨l, hl, rfl, rfl⟩
    exact encodeUtf16LeLoop_bytes hl le_rfl

/-- The text of a list of characters is encoded to their code units. -/
theorem encodeUtf16Le_chars (cs : List Char) :
    encodeUtf16Le (cs.flatMap String.utf8EncodeChar) = .ok (cs.flatMap utf16Le) := by
  refine encodeUtf16Le_eq_ok_iff.2 ⟨cs.map Utf8Sequence.ofChar, ?_, ?_, ?_⟩
  · intro q hq
    obtain ⟨c, -, rfl⟩ := List.mem_map.1 hq
    exact (Utf8Sequence.wellFormed_ofChar c).in_range
  · rw [List.flatMap_map]
    simp only [Utf8Sequence.bytes_ofChar]
  · rw [List.flatMap_map]
    simp only [Utf8Sequence.value_ofChar]
    rfl

/-! ## The decoder -/

/-- A lead or continuation byte of `appendUtf8CodePoint`. -/
theorem toUInt8_or {x : UInt32} {n : ℕ} (k : ℕ) {lead : UInt32} (hlead : 2 ^ k ∣ lead.toNat)
    (hx : x.toNat = n) (hn : n < 2 ^ k) :
    (lead ||| x).toUInt8 = UInt8.ofNat (lead.toNat + n) := by
  apply UInt8.toNat_inj.1
  rw [UInt32.toNat_toUInt8, toNat_or_of_lt k hlead (by rw [hx]; exact hn), hx,
    toNat_ofNat_uint8]

theorem toNat_ofNat_shiftRight {n : ℕ} (h : n < 2 ^ 32) (k : UInt32) (hk : k.toNat < 32) :
    (UInt32.ofNat n >>> k).toNat = n / 2 ^ k.toNat := by
  rw [UInt32.toNat_shiftRight, toNat_ofNat_uint32 h, Nat.mod_eq_of_lt hk,
    Nat.shiftRight_eq_div_pow]

/-- A continuation byte of `appendUtf8CodePoint`. -/
theorem continuation_eq {n : ℕ} (h : n < 2 ^ 32) (k : UInt32) (hk : k.toNat < 32) :
    ((0x80 : UInt32) ||| ((UInt32.ofNat n >>> k) &&& 0x3F)).toUInt8 =
      UInt8.ofNat (0x80 + n / 2 ^ k.toNat % 64) := by
  have hbits : ((UInt32.ofNat n >>> k) &&& 0x3F).toNat = n / 2 ^ k.toNat % 64 := by
    rw [UInt32.toNat_and, toNat_ofNat_shiftRight h k hk,
      show (0x3F : UInt32).toNat = 2 ^ 6 - 1 from rfl, Nat.and_two_pow_sub_one_eq_mod]
  exact toUInt8_or 6 (by decide) hbits (Nat.mod_lt _ (by decide))

/-- `appendUtf8CodePoint` writes the shortest sequence of a number. -/
theorem utf8CodePoint_value {q : Utf8Sequence} (h : ¬ q.Overlong) :
    utf8CodePoint (UInt32.ofNat q.value) = q.bytes := by
  have hlt : q.value < 2 ^ 32 := by
    cases q <;> rename_i v <;> have hv := v.isLt <;> simp only [Utf8Sequence.value] <;> omega
  have hle : ∀ m : UInt32, UInt32.ofNat q.value ≤ m ↔ q.value ≤ m.toNat := by
    intro m
    rw [UInt32.le_iff_toNat_le, toNat_ofNat_uint32 hlt]
  have hlead : ∀ (lead k : UInt32) (m : ℕ), 2 ^ m ∣ lead.toNat → k.toNat < 32 →
      q.value / 2 ^ k.toNat < 2 ^ m →
      (lead ||| (UInt32.ofNat q.value >>> k)).toUInt8 =
        UInt8.ofNat (lead.toNat + q.value / 2 ^ k.toNat) := by
    intro lead k m hdvd hk hbits
    exact toUInt8_or m hdvd (toNat_ofNat_shiftRight hlt k hk) hbits
  have hcontinuation := continuation_eq hlt
  unfold utf8CodePoint
  simp only [hle, hcontinuation 0 (by decide), hcontinuation 6 (by decide),
    hcontinuation 12 (by decide)]
  cases q with
  | one v =>
    obtain ⟨n, hn⟩ := v
    rw [if_pos (by show n ≤ 0x7F; omega)]
    show [(UInt32.ofNat n).toUInt8] = [UInt8.ofNat n]
    rw [UInt32.toUInt8_ofNat']
  | two v =>
    obtain ⟨n, hn⟩ := v
    have hshort : ¬ n < 0x80 := h
    rw [if_neg (by show ¬ n ≤ 0x7F; omega), if_pos (by show n ≤ 0x7FF; omega),
      hlead 0xC0 6 6 (by decide) (by decide) (by show n / 64 < 64; omega)]
    show [_, UInt8.ofNat (0x80 + n / 1 % 64)] = _
    rw [Nat.div_one]
    rfl
  | three v =>
    obtain ⟨n, hn⟩ := v
    have hshort : ¬ n < 0x800 := h
    rw [if_neg (by show ¬ n ≤ 0x7F; omega), if_neg (by show ¬ n ≤ 0x7FF; omega),
      if_pos (by show n ≤ 0xFFFF; omega),
      hlead 0xE0 12 5 (by decide) (by decide) (by show n / 4096 < 32; omega)]
    show [_, _, UInt8.ofNat (0x80 + n / 1 % 64)] = _
    rw [Nat.div_one]
    rfl
  | four v =>
    obtain ⟨n, hn⟩ := v
    have hshort : ¬ n < 0x10000 := h
    rw [if_neg (by show ¬ n ≤ 0x7F; omega), if_neg (by show ¬ n ≤ 0x7FF; omega),
      if_neg (by show ¬ n ≤ 0xFFFF; omega),
      hlead 0xF0 18 4 (by decide) (by decide) (by show n / 262144 < 16; omega)]
    show [_, _, _, UInt8.ofNat (0x80 + n / 1 % 64)] = _
    rw [Nat.div_one]
    rfl

/-- `appendUtf8CodePoint` writes the UTF-8 of a character. -/
theorem utf8CodePoint_char (c : Char) :
    utf8CodePoint (UInt32.ofNat c.toNat) = String.utf8EncodeChar c := by
  rw [← Utf8Sequence.bytes_ofChar, ← Utf8Sequence.value_ofChar,
    utf8CodePoint_value (Utf8Sequence.wellFormed_ofChar c).shortest]

/-- A code unit, by its bytes. -/
theorem toNat_unit (low high : UInt8) :
    (low.toUInt32 ||| (high.toUInt32 <<< 8)).toNat = low.toNat + 256 * high.toNat := by
  have hhigh : high.toNat < 256 := high.toNat_lt
  have hlow : low.toNat < 256 := low.toNat_lt
  have hshift : (high.toUInt32 <<< 8).toNat = 256 * high.toNat := by
    rw [UInt32.toNat_shiftLeft, UInt8.toNat_toUInt32, Nat.shiftLeft_eq]
    show high.toNat * 2 ^ 8 % 2 ^ 32 = _
    omega
  rw [UInt32.or_comm, toNat_or_of_lt 8 (by rw [hshift]; exact Nat.dvd_mul_right 256 _)
    (by rw [UInt8.toNat_toUInt32]; exact hlow), hshift, UInt8.toNat_toUInt32, Nat.add_comm]

theorem leBytes_unit (low high : UInt8) : leBytes 2 (low.toNat + 256 * high.toNat) = [low, high] :=
  leBytes_leValue [low, high]

theorem codeUnits_cons (low high : UInt8) (rest : ByteVector) :
    codeUnits (low :: high :: rest) = (low.toNat + 256 * high.toNat) :: codeUnits rest := rfl

/-- The decoder's tests of a code unit. -/
theorem unit_le_iff (low high : UInt8) (m : UInt32) :
    low.toUInt32 ||| (high.toUInt32 <<< 8) ≤ m ↔ low.toNat + 256 * high.toNat ≤ m.toNat := by
  rw [UInt32.le_iff_toNat_le, toNat_unit]

theorem le_unit_iff (low high : UInt8) (m : UInt32) :
    m ≤ low.toUInt32 ||| (high.toUInt32 <<< 8) ↔ m.toNat ≤ low.toNat + 256 * high.toNat := by
  rw [UInt32.le_iff_toNat_le, toNat_unit]

/-- The number a surrogate pair stands for. -/
theorem toNat_pair {u v : UInt32} (hu : IsHighSurrogate u.toNat) (hv : IsLowSurrogate v.toNat) :
    ((0x10000 : UInt32) + (((u - 0xD800) <<< 10) ||| (v - 0xDC00))).toNat =
      0x10000 + (u.toNat - 0xD800) * 0x400 + (v.toNat - 0xDC00) := by
  obtain ⟨hu, hu'⟩ := hu
  obtain ⟨hv, hv'⟩ := hv
  have hhigh : (u - 0xD800).toNat = u.toNat - 0xD800 :=
    UInt32.toNat_sub_of_le u 0xD800 (UInt32.le_iff_toNat_le.2 hu)
  have hlow : (v - 0xDC00).toNat = v.toNat - 0xDC00 :=
    UInt32.toNat_sub_of_le v 0xDC00 (UInt32.le_iff_toNat_le.2 hv)
  have hshift : ((u - 0xD800) <<< 10).toNat = (u.toNat - 0xD800) * 0x400 := by
    rw [UInt32.toNat_shiftLeft, hhigh, Nat.shiftLeft_eq]
    show (u.toNat - 0xD800) * 2 ^ 10 % 2 ^ 32 = _
    omega
  rw [UInt32.toNat_add, toNat_or_of_lt 10 (by rw [hshift]; exact Dvd.intro_left _ rfl)
    (by rw [hlow]; omega), hshift, hlow]
  show (0x10000 + _) % 2 ^ 32 = _
  omega

/-- The units of a character past the first plane are a surrogate pair. -/
theorem codeUnitsLe_pair {u v : ℕ} (hu : IsHighSurrogate u) (hv : IsLowSurrogate v) :
    codeUnitsLe (0x10000 + (u - 0xD800) * 0x400 + (v - 0xDC00)) = leBytes 2 u ++ leBytes 2 v := by
  obtain ⟨hu, hu'⟩ := hu
  obtain ⟨hv, hv'⟩ := hv
  have hhigh : 0xD800 + (0x10000 + (u - 0xD800) * 0x400 + (v - 0xDC00) - 0x10000) / 0x400 = u := by
    omega
  have hlow : 0xDC00 + (0x10000 + (u - 0xD800) * 0x400 + (v - 0xDC00) - 0x10000) % 0x400 = v := by
    omega
  unfold codeUnitsLe
  rw [if_neg (by omega), hhigh, hlow]

/-- The decoder takes the code units of characters, and nothing else. -/
theorem decodeUtf16LeLoop_cases (bytes : ByteVector) (heven : bytes.length % 2 = 0) :
    (¬ HasUnpairedSurrogate (codeUnits bytes) ∧ ∃ cs : List Char, bytes = cs.flatMap utf16Le ∧
      decodeUtf16LeLoop bytes = .ok (cs.flatMap String.utf8EncodeChar)) ∨
    HasUnpairedSurrogate (codeUnits bytes) ∧ ∃ e, decodeUtf16LeLoop bytes = .error e := by
  fun_induction decodeUtf16LeLoop bytes with
  | case1 low high unit hunit low' high' rest next hnext =>
    -- a high surrogate before a unit that is no low one
    right
    refine ⟨?_, _, rfl⟩
    rw [codeUnits_cons]
    apply hasUnpairedSurrogate_of_high
    · exact ⟨(le_unit_iff low high _).1 hunit.1, (unit_le_iff low high _).1 hunit.2⟩
    · intro v hv hlow
      rw [codeUnits_cons, List.head?_cons, Option.some.injEq] at hv
      subst hv
      obtain h | h := hnext
      · exact UInt32.not_le.2 h ((le_unit_iff low' high' 0xDC00).2 hlow.1)
      · exact UInt32.not_le.2 h ((unit_le_iff low' high' 0xDFFF).2 hlow.2)
  | case2 low high unit hunit low' high' rest next hnext codePoint ih =>
    -- a surrogate pair
    rw [not_or, UInt32.not_lt, gt_iff_lt, UInt32.not_lt] at hnext
    have hu : IsHighSurrogate (low.toNat + 256 * high.toNat) :=
      ⟨(le_unit_iff low high _).1 hunit.1, (unit_le_iff low high _).1 hunit.2⟩
    have hv : IsLowSurrogate (low'.toNat + 256 * high'.toNat) :=
      ⟨(le_unit_iff low' high' _).1 hnext.1, (unit_le_iff low' high' _).1 hnext.2⟩
    have hpaired := unpairedSurrogate_pair hu hv (codeUnits rest)
    rw [codeUnits_cons, codeUnits_cons, hpaired]
    obtain ⟨hno, cs, hrest, hdecode⟩ | ⟨hyes, e, hdecode⟩ :=
      ih (by simp only [List.length_cons] at heven; omega)
    · left
      have hvalue : codePoint.toNat = 0x10000 + (low.toNat + 256 * high.toNat - 0xD800) * 0x400 +
          (low'.toNat + 256 * high'.toNat - 0xDC00) := by
        show ((0x10000 : UInt32) + (((unit - 0xD800) <<< 10) ||| (next - 0xDC00))).toNat = _
        rw [toNat_pair (by rw [toNat_unit]; exact hu) (by rw [toNat_unit]; exact hv), toNat_unit,
          toNat_unit]
      have hscalar : ¬ IsSurrogate codePoint.toNat ∧ codePoint.toNat ≤ 0x10FFFF := by
        obtain ⟨hu, hu'⟩ := hu
        obtain ⟨hv, hv'⟩ := hv
        unfold IsSurrogate
        omega
      have hchar : utf16Le (charOf codePoint.toNat hscalar.1 hscalar.2) =
          [low, high, low', high'] := by
        rw [utf16Le, toNat_charOf, hvalue, codeUnitsLe_pair hu hv, leBytes_unit, leBytes_unit]
        rfl
      refine ⟨hno, charOf codePoint.toNat hscalar.1 hscalar.2 :: cs, ?_, ?_⟩
      · rw [List.flatMap_cons, hchar, ← hrest]
        rfl
      · rw [hdecode, List.flatMap_cons, ← utf8CodePoint_char, toNat_charOf, UInt32.ofNat_toNat]
        rfl
    · right
      refine ⟨hyes, e, ?_⟩
      rw [hdecode]
      rfl
  | case3 low high rest unit hunit hrest =>
    -- a high surrogate at the end
    right
    refine ⟨?_, _, rfl⟩
    rw [codeUnits_cons]
    apply hasUnpairedSurrogate_of_high
    · exact ⟨(le_unit_iff low high _).1 hunit.1, (unit_le_iff low high _).1 hunit.2⟩
    · intro v hv
      -- fewer than two bytes are left
      cases rest with
      | nil => cases hv
      | cons low' rest =>
        cases rest with
        | nil => cases hv
        | cons high' rest => exact absurd rfl (hrest low' high' rest)
  | case4 low high rest unit hhigh hlow =>
    -- a low surrogate with nothing to belong to
    right
    refine ⟨?_, _, rfl⟩
    rw [codeUnits_cons]
    exact hasUnpairedSurrogate_of_low _
      ⟨(le_unit_iff low high _).1 hlow.1, (unit_le_iff low high _).1 hlow.2⟩
  | case5 low high rest unit hhigh hlow ih =>
    -- a unit of the first plane
    have hunit : unit.toNat = low.toNat + 256 * high.toNat := toNat_unit low high
    have hsmall : unit.toNat < 0x10000 := by
      have hl := low.toNat_lt
      have hh := high.toNat_lt
      omega
    have hscalar : ¬ IsSurrogate unit.toNat := by
      rw [UInt32.le_iff_toNat_le, UInt32.le_iff_toNat_le] at hhigh hlow
      unfold IsSurrogate
      have hbetween : ¬ (0xD800 ≤ unit.toNat ∧ unit.toNat ≤ 0xDBFF) := hhigh
      have hbetween' : ¬ (0xDC00 ≤ unit.toNat ∧ unit.toNat ≤ 0xDFFF) := hlow
      omega
    rw [codeUnits_cons, ← hunit, unpairedSurrogate_cons hscalar]
    obtain ⟨hno, cs, hrest, hdecode⟩ | ⟨hyes, e, hdecode⟩ :=
      ih (by simp only [List.length_cons] at heven; omega)
    · left
      have hchar : utf16Le (charOf unit.toNat hscalar (by omega)) = [low, high] := by
        rw [utf16Le, toNat_charOf, codeUnitsLe, if_pos hsmall, hunit, leBytes_unit]
      refine ⟨hno, charOf unit.toNat hscalar (by omega) :: cs, ?_, ?_⟩
      · rw [List.flatMap_cons, hchar, ← hrest]
        rfl
      · rw [hdecode, List.flatMap_cons, ← utf8CodePoint_char, toNat_charOf, UInt32.ofNat_toNat]
        rfl
    · right
      refine ⟨hyes, e, ?_⟩
      rw [hdecode]
      rfl
  | case6 bytes h =>
    -- the buffer is empty: one byte is no even number of them
    left
    cases bytes with
    | nil => exact ⟨not_hasUnpairedSurrogate_nil, [], rfl, rfl⟩
    | cons low rest =>
      cases rest with
      | nil => cases heven
      | cons high rest => exact absurd rfl (h low high rest)

/-- The code units of characters are decoded to the characters' text. -/
theorem decodeUtf16Le_chars (cs : List Char) :
    decodeUtf16Le (cs.flatMap utf16Le) = .ok (cs.flatMap String.utf8EncodeChar) := by
  have heven := even_length_flatMap_utf16Le cs
  unfold decodeUtf16Le
  rw [if_neg (by omega)]
  obtain ⟨-, cs', hcs, hdecode⟩ | ⟨hyes, -⟩ := decodeUtf16LeLoop_cases (cs.flatMap utf16Le) heven
  · rw [hdecode, flatMap_utf16Le_inj hcs]
  · exact absurd hyes (not_hasUnpairedSurrogate cs)

/-- A decoded name is the text of the characters whose code units were read. -/
theorem decodeUtf16Le_eq_ok_iff {bytes text : ByteVector} :
    decodeUtf16Le bytes = .ok text ↔ ∃ cs : List Char,
      bytes = cs.flatMap utf16Le ∧ text = cs.flatMap String.utf8EncodeChar := by
  constructor
  · intro h
    unfold decodeUtf16Le at h
    split at h
    · cases h
    next heven =>
      obtain ⟨-, cs, hcs, hdecode⟩ | ⟨-, e, hdecode⟩ :=
        decodeUtf16LeLoop_cases bytes (by omega)
      · rw [hdecode] at h
        cases h
        exact ⟨cs, hcs, rfl⟩
      · rw [hdecode] at h
        cases h
  · rintro ⟨cs, rfl, rfl⟩
    exact decodeUtf16Le_chars cs

/-- What the decoder refuses. -/
theorem decodeUtf16Le_eq_error_iff {bytes : ByteVector} :
    (∃ e, decodeUtf16Le bytes = .error e) ↔
      bytes.length % 2 = 1 ∨ HasUnpairedSurrogate (codeUnits bytes) := by
  unfold decodeUtf16Le
  split
  next hodd => exact iff_of_true ⟨_, rfl⟩ (.inl (by omega))
  next heven =>
    obtain ⟨hno, cs, -, hdecode⟩ | ⟨hyes, e, hdecode⟩ := decodeUtf16LeLoop_cases bytes (by omega)
    · rw [hdecode]
      refine iff_of_false ?_ ?_
      · rintro ⟨e, he⟩
        cases he
      · rintro (hodd | hyes)
        · exact heven (by omega)
        · exact hno hyes
    · exact iff_of_true ⟨e, hdecode⟩ (.inr hyes)

/-! ## Results -/

/-- The encoder takes a text exactly when it is well formed, and the decoder
    gives such a text back. -/
def EncodesFaithfully (text : ByteVector) : Prop :=
  ((∃ units, encodeUtf16Le text = .ok units) ↔ WellFormedUtf8 text) ∧
    (WellFormedUtf8 text →
      ∃ units, encodeUtf16Le text = .ok units ∧ decodeUtf16Le units = .ok text)

/-- Sequences up to the last code point, one of which is overlong or encodes a
    surrogate. -/
def LooksEncoded (text : ByteVector) : Prop :=
  ∃ l : List Utf8Sequence, text = l.flatMap Utf8Sequence.bytes ∧
    (∀ q ∈ l, q.value ≤ 0x10FFFF) ∧ ∃ q ∈ l, q.Overlong ∨ IsSurrogate q.value

/-- UTF-8 to UTF-16 and back: the encoder is right on every text but those made
    of sequences up to U+10FFFF of which one is overlong or encodes a surrogate. -/
theorem encodesFaithfully_iff (text : ByteVector) :
    EncodesFaithfully text ↔ ¬ LooksEncoded text := by
  constructor
  · rintro ⟨haccepts, -⟩ ⟨l, rfl, hrange, q, hq, hbad⟩
    obtain ⟨l', hl', hbytes⟩ := haccepts.1 ⟨_, encodeUtf16Le_eq_ok_iff.2 ⟨l, hrange, rfl, rfl⟩⟩
    obtain rfl := Utf8Sequence.flatMap_bytes_inj hbytes
    obtain hbad | hbad := hbad
    · exact (hl' q hq).shortest hbad
    · exact (hl' q hq).not_surrogate hbad
  · intro hgood
    have hback : WellFormedUtf8 text →
        ∃ units, encodeUtf16Le text = .ok units ∧ decodeUtf16Le units = .ok text := by
      intro htext
      obtain ⟨cs, rfl⟩ := wellFormedUtf8_iff.1 htext
      exact ⟨cs.flatMap utf16Le, encodeUtf16Le_chars cs, decodeUtf16Le_chars cs⟩
    refine ⟨⟨?_, ?_⟩, hback⟩
    · rintro ⟨units, hunits⟩
      obtain ⟨l, hrange, rfl, -⟩ := encodeUtf16Le_eq_ok_iff.1 hunits
      refine ⟨l, ?_, rfl⟩
      intro q hq
      refine ⟨?_, ?_, hrange q hq⟩
      · intro hoverlong
        exact hgood ⟨l, rfl, hrange, q, hq, .inl hoverlong⟩
      · intro hsurrogate
        exact hgood ⟨l, rfl, hrange, q, hq, .inr hsurrogate⟩
    · intro htext
      obtain ⟨units, hunits, -⟩ := hback htext
      exact ⟨units, hunits⟩

/-- The overlong sequence `C0 AF` is sent as a slash. -/
theorem not_encodesFaithfully_overlong : ¬ EncodesFaithfully [0xC0, 0xAF] := by
  rintro ⟨haccepts, -⟩
  obtain ⟨l, hl, hbytes⟩ := haccepts.1 ⟨[0x2F, 0x00], by decide⟩
  have hslash : ([0xC0, 0xAF] : ByteVector) =
      [Utf8Sequence.two ⟨0x2F, by decide⟩].flatMap Utf8Sequence.bytes := by decide
  obtain rfl := Utf8Sequence.flatMap_bytes_inj (hslash.symm.trans hbytes)
  exact (hl _ (List.mem_singleton_self _)).shortest (show 0x2F < 0x80 by decide)

/-- UTF-16 to UTF-8 and back: a name the decoder takes is sent back as it was
    read, and the decoder refuses exactly an odd number of bytes and a surrogate
    without its other half. -/
theorem decodeUtf16Le_roundTrip (bytes : ByteVector) :
    (∀ text, decodeUtf16Le bytes = .ok text → encodeUtf16Le text = .ok bytes) ∧
      ((∃ e, decodeUtf16Le bytes = .error e) ↔
        bytes.length % 2 = 1 ∨ HasUnpairedSurrogate (codeUnits bytes)) := by
  refine ⟨?_, decodeUtf16Le_eq_error_iff⟩
  intro text htext
  obtain ⟨cs, rfl, rfl⟩ := decodeUtf16Le_eq_ok_iff.1 htext
  exact encodeUtf16Le_chars cs

end SmbBrowser.Native
