import SmbBrowser.Base.Bytes
import Mathlib.Data.Nat.Bitwise

/-!
# Big-endian numbers

A byte string as the big-endian number it spells, and what shifting the string
by one bit and XOR with another string do to that number.

Results:
* `beBytes_beValue`: a field is determined by its number;
* `beValue_shiftLeftBytes`: a shift by one bit doubles, modulo the width;
* `beValue_zipWith_xor`: XOR of the strings is XOR of the numbers.
-/

namespace SmbBrowser.Base

theorem getElem_leBytes {w n k : ℕ} (h : k < (leBytes w n).length) :
    (leBytes w n)[k] = UInt8.ofNat (n / 256 ^ k) := by
  induction w generalizing n k with
  | zero => simp at h
  | succ w ih =>
    cases k with
    | zero => simp [leBytes]
    | succ k =>
      simp only [leBytes, List.getElem_cons_succ]
      rw [ih, pow_succ', Nat.div_div_eq_div_mul]

theorem getElem_beBytes {w n k : ℕ} (h : k < (beBytes w n).length) :
    (beBytes w n)[k] = UInt8.ofNat (n / 256 ^ (w - 1 - k)) := by
  simp only [beBytes, List.getElem_reverse, getElem_leBytes, length_leBytes]

theorem beBytes_beValue (bs : Bytes) : beBytes bs.length (beValue bs) = bs := by
  rw [beBytes, beValue, ← List.length_reverse, leBytes_leValue, List.reverse_reverse]

theorem beValue_lt (bs : Bytes) : beValue bs < 256 ^ bs.length := by
  have h := leValue_lt bs.reverse
  rwa [List.length_reverse] at h

theorem leValue_append (a b : Bytes) :
    leValue (a ++ b) = leValue a + 256 ^ a.length * leValue b := by
  induction a with
  | nil => simp [leValue]
  | cons x a ih =>
    rw [List.cons_append, leValue, leValue, ih, List.length_cons, pow_succ']
    ring

/-- The first byte is the most significant one. -/
theorem beValue_cons (b : UInt8) (bs : Bytes) :
    beValue (b :: bs) = b.toNat * 256 ^ bs.length + beValue bs := by
  rw [beValue, List.reverse_cons, leValue_append, List.length_reverse, beValue]
  simp only [leValue]
  ring

/-- The top bit of a byte. -/
theorem and_0x80_eq_zero (b : UInt8) : b &&& 0x80 = 0 ↔ b.toNat < 0x80 := by
  have hall : ∀ n : Fin 256, UInt8.ofFin n &&& 0x80 = 0 ↔ (UInt8.ofFin n).toNat < 0x80 := by
    decide +kernel
  exact hall b.toFin

/-! ## Shifting by one bit -/

/-- Every byte doubled, with the top bit of the byte behind it carried in. -/
def shiftLeftBytes : Bytes → Bytes
  | [] => []
  | b :: bs => ((b <<< 1) ||| (bs.headD 0 >>> 7)) :: shiftLeftBytes bs

@[simp] theorem length_shiftLeftBytes (bs : Bytes) : (shiftLeftBytes bs).length = bs.length := by
  induction bs with
  | nil => rfl
  | cons b bs ih => simp only [shiftLeftBytes, List.length_cons, ih]

theorem getD_shiftLeftBytes (bs : Bytes) (i : ℕ) :
    (shiftLeftBytes bs).getD i 0 = (bs.getD i 0 <<< 1) ||| (bs.getD (i + 1) 0 >>> 7) := by
  induction bs generalizing i with
  | nil =>
    simp only [shiftLeftBytes, List.getD_nil]
    decide
  | cons b bs ih =>
    cases i with
    | zero => cases bs <;> rfl
    | succ i =>
      simp only [shiftLeftBytes, List.getD_cons_succ]
      exact ih i

/-- A doubled byte with a carried bit, as a number. -/
theorem toNat_shiftLeft_or (a b : UInt8) :
    ((a <<< 1) ||| (b >>> 7)).toNat = 2 * a.toNat % 256 + b.toNat / 128 := by
  have hb : b.toNat < 256 := b.toNat_lt
  have hshift : (a <<< 1).toNat = 2 * a.toNat % 256 := by
    rw [UInt8.toNat_shiftLeft, Nat.shiftLeft_eq]
    show a.toNat * 2 % 256 = 2 * a.toNat % 256
    omega
  have hcarry : (b >>> 7).toNat = b.toNat / 128 := by
    rw [UInt8.toNat_shiftRight, Nat.shiftRight_eq_div_pow]
    rfl
  have heven : 2 * a.toNat % 256 = 2 ^ 1 * (a.toNat % 128) := by omega
  rw [UInt8.toNat_or, hshift, hcarry, heven, Nat.two_pow_add_eq_or_of_lt (by omega)]

/-- The carry out of a string is the top bit of its first byte. -/
theorem two_mul_beValue_div (bs : Bytes) :
    2 * beValue bs / 256 ^ bs.length = (bs.headD 0).toNat / 128 := by
  cases bs with
  | nil => rfl
  | cons b bs =>
    have hlt : beValue bs < 256 ^ bs.length := beValue_lt bs
    rw [beValue_cons, List.length_cons, List.headD_cons, pow_succ, ← Nat.div_div_eq_div_mul]
    generalize 256 ^ bs.length = w at hlt ⊢
    have hcarry : 2 * beValue bs / w < 2 := Nat.div_lt_of_lt_mul (by omega)
    have hsplit : 2 * (b.toNat * w + beValue bs) / w = 2 * b.toNat + 2 * beValue bs / w := by
      have hform : 2 * (b.toNat * w + beValue bs) = w * (2 * b.toNat) + 2 * beValue bs := by ring
      rw [hform, Nat.mul_add_div (by omega)]
    rw [hsplit]
    generalize 2 * beValue bs / w = carry at hcarry
    omega

/-- Shifting by one bit doubles the number, modulo the width. -/
theorem beValue_shiftLeftBytes (bs : Bytes) :
    beValue (shiftLeftBytes bs) = 2 * beValue bs % 256 ^ bs.length := by
  induction bs with
  | nil => rfl
  | cons b bs ih =>
    have hlt : beValue bs < 256 ^ bs.length := beValue_lt bs
    have hcarry := two_mul_beValue_div bs
    have hdiv := Nat.div_add_mod (2 * beValue bs) (256 ^ bs.length)
    rw [shiftLeftBytes, beValue_cons, ih, length_shiftLeftBytes, toNat_shiftLeft_or,
      List.length_cons, beValue_cons, pow_succ, ← hcarry]
    generalize 256 ^ bs.length = w at hlt hdiv ⊢
    have hhigh : 2 * b.toNat % 256 ≤ 254 := by omega
    have hbound : 2 * b.toNat % 256 * w + 2 * beValue bs < w * 256 := by
      have := Nat.mul_le_mul_right w hhigh
      omega
    have hform : 2 * (b.toNat * w + beValue bs) =
        w * 256 * (2 * b.toNat / 256) + (2 * b.toNat % 256 * w + 2 * beValue bs) := by
      have hb := Nat.div_add_mod (2 * b.toNat) 256
      calc 2 * (b.toNat * w + beValue bs) = 2 * b.toNat * w + 2 * beValue bs := by ring
        _ = (256 * (2 * b.toNat / 256) + 2 * b.toNat % 256) * w + 2 * beValue bs := by rw [hb]
        _ = _ := by ring
    rw [hform, Nat.mul_add_mod, Nat.mod_eq_of_lt hbound]
    calc (2 * b.toNat % 256 + 2 * beValue bs / w) * w + 2 * beValue bs % w
        = 2 * b.toNat % 256 * w + (w * (2 * beValue bs / w) + 2 * beValue bs % w) := by ring
      _ = _ := by rw [hdiv]

/-! ## XOR -/

/-- XOR of two numbers, low byte and rest apart. -/
theorem add_mul_xor {a b : ℕ} (ha : a < 256) (hb : b < 256) (m n : ℕ) :
    (a + 256 * m) ^^^ (b + 256 * n) = (a ^^^ b) + 256 * (m ^^^ n) := by
  have hdiv : ((a + 256 * m) ^^^ (b + 256 * n)) / 2 ^ 8 = m ^^^ n := by
    have hm : (a + 256 * m) / 2 ^ 8 = m := by omega
    have hn : (b + 256 * n) / 2 ^ 8 = n := by omega
    rw [Nat.xor_div_two_pow, hm, hn]
  have hmod : ((a + 256 * m) ^^^ (b + 256 * n)) % 2 ^ 8 = a ^^^ b := by
    have hm : (a + 256 * m) % 2 ^ 8 = a := by omega
    have hn : (b + 256 * n) % 2 ^ 8 = b := by omega
    rw [Nat.xor_mod_two_pow, hm, hn]
  have := Nat.mod_add_div ((a + 256 * m) ^^^ (b + 256 * n)) (2 ^ 8)
  rw [hdiv, hmod] at this
  exact this.symm

theorem leValue_zipWith_xor {a b : Bytes} (h : a.length = b.length) :
    leValue (List.zipWith (· ^^^ ·) a b) = leValue a ^^^ leValue b := by
  induction a generalizing b with
  | nil =>
    rw [List.length_eq_zero_iff.1 h.symm]
    rfl
  | cons x a ih =>
    cases b with
    | nil => simp at h
    | cons y b =>
      rw [List.zipWith_cons_cons, leValue, leValue, leValue, ih (by simpa using h),
        add_mul_xor x.toNat_lt y.toNat_lt, UInt8.toNat_xor]

/-- XOR of two strings of one length is XOR of their numbers. -/
theorem beValue_zipWith_xor {a b : Bytes} (h : a.length = b.length) :
    beValue (List.zipWith (· ^^^ ·) a b) = beValue a ^^^ beValue b := by
  rw [beValue, List.reverse_zipWith h, leValue_zipWith_xor (by simpa using h), beValue, beValue]

end SmbBrowser.Base
