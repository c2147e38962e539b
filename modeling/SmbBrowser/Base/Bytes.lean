import Mathlib.Data.List.Basic
import Mathlib.Tactic.Ring
import Mathlib.Tactic.Linarith

/-!
# Byte strings

Little- and big-endian fields of a byte string and the slices they are read
from.

Results:
* `leValue_leBytes`, `leBytes_leValue`: a `w`-byte little-endian field stores
  a number modulo `256 ^ w`, and nothing else;
* `slice_append_left`, `slice_append_right`, `slice_skip`, `slice_here`: where a
  slice of an append lies.
-/

namespace SmbBrowser.Base

/-- A string of bytes. -/
abbrev Bytes := List UInt8

/-- The bytes of an ASCII text. -/
def ascii (text : String) : Bytes := text.toList.map fun c => UInt8.ofNat c.toNat

/-! ## Little-endian and big-endian fields -/

/-- The `w` low bytes of `n`, least significant first. -/
def leBytes : ℕ → ℕ → Bytes
  | 0, _ => []
  | w + 1, n => UInt8.ofNat n :: leBytes w (n / 256)

/-- The number a little-endian field holds. -/
def leValue : Bytes → ℕ
  | [] => 0
  | b :: bs => b.toNat + 256 * leValue bs

/-- The `w` low bytes of `n`, most significant first. -/
def beBytes (w n : ℕ) : Bytes := (leBytes w n).reverse

/-- The number a big-endian field holds. -/
def beValue (bs : Bytes) : ℕ := leValue bs.reverse

@[simp] theorem leBytes_zero (n : ℕ) : leBytes 0 n = [] := rfl

@[simp] theorem length_leBytes (w n : ℕ) : (leBytes w n).length = w := by
  induction w generalizing n with
  | zero => rfl
  | succ w ih => simp only [leBytes, List.length_cons, ih]

@[simp] theorem length_beBytes (w n : ℕ) : (beBytes w n).length = w := by
  simp [beBytes]

theorem toNat_ofNat_uint8 (n : ℕ) : (UInt8.ofNat n).toNat = n % 256 := by
  simp

theorem leValue_lt (bs : Bytes) : leValue bs < 256 ^ bs.length := by
  induction bs with
  | nil => simp [leValue]
  | cons b bs ih =>
    have hb : b.toNat < 256 := b.toNat_lt
    simp only [leValue, List.length_cons, pow_succ]
    omega

/-- A little-endian field of `w` bytes stores a number modulo `256 ^ w`. -/
theorem leValue_leBytes (w n : ℕ) : leValue (leBytes w n) = n % 256 ^ w := by
  induction w generalizing n with
  | zero => simp [leValue, Nat.mod_one]
  | succ w ih =>
    rw [leBytes, leValue, ih, toNat_ofNat_uint8, pow_succ', Nat.mod_mul]

/-- A little-endian field is determined by the number it holds. -/
theorem leBytes_leValue (bs : Bytes) : leBytes bs.length (leValue bs) = bs := by
  induction bs with
  | nil => rfl
  | cons b bs ih =>
    have hb : b.toNat < 256 := b.toNat_lt
    have hdiv : (b.toNat + 256 * leValue bs) / 256 = leValue bs := by omega
    have hhead : UInt8.ofNat (b.toNat + 256 * leValue bs) = b := by
      apply UInt8.toNat_inj.1
      rw [toNat_ofNat_uint8]; omega
    rw [List.length_cons, leValue, leBytes, hdiv, ih, hhead]

theorem beValue_beBytes (w n : ℕ) : beValue (beBytes w n) = n % 256 ^ w := by
  rw [beValue, beBytes, List.reverse_reverse, leValue_leBytes]

/-! ## Slices -/

/-- The `len` bytes from `off` on, if the string has them. -/
def slice (bs : Bytes) (off len : ℕ) : Option Bytes :=
  if off + len ≤ bs.length then some ((bs.drop off).take len) else none

theorem slice_eq_some {bs : Bytes} {off len : ℕ} {r : Bytes} :
    slice bs off len = some r ↔ off + len ≤ bs.length ∧ r = (bs.drop off).take len := by
  unfold slice
  split <;> simp_all [eq_comm]

theorem length_of_slice {bs : Bytes} {off len : ℕ} {r : Bytes} (h : slice bs off len = some r) :
    r.length = len := by
  obtain ⟨hle, rfl⟩ := slice_eq_some.1 h
  simp only [List.length_take, List.length_drop]
  omega

theorem slice_of_le {bs : Bytes} {off len : ℕ} (h : off + len ≤ bs.length) :
    slice bs off len = some ((bs.drop off).take len) := if_pos h

@[simp] theorem slice_zero_length (bs : Bytes) : slice bs 0 bs.length = some bs := by
  rw [slice_of_le (by omega), List.drop_zero, List.take_length]

/-- A slice that lies in the first part of an append. -/
theorem slice_append_left {a : Bytes} (b : Bytes) {off len : ℕ} (h : off + len ≤ a.length) :
    slice (a ++ b) off len = slice a off len := by
  rw [slice_of_le h, slice_of_le (by rw [List.length_append]; omega)]
  rw [List.drop_append_of_le_length (by omega), List.take_append_of_le_length]
  rw [List.length_drop]; omega

/-- A slice that lies in the second part of an append. -/
theorem slice_append_right (a b : Bytes) (off len : ℕ) :
    slice (a ++ b) (a.length + off) len = slice b off len := by
  have hdrop : (a ++ b).drop (a.length + off) = b.drop off := by
    rw [List.drop_append]; simp
  unfold slice
  rw [hdrop, List.length_append]
  split <;> split <;> first | rfl | omega

/-- A slice past the first part of an append. -/
theorem slice_skip {a : Bytes} (b : Bytes) {off len : ℕ} (h : a.length ≤ off) :
    slice (a ++ b) off len = slice b (off - a.length) len := by
  obtain ⟨k, rfl⟩ := Nat.exists_eq_add_of_le h
  rw [slice_append_right, Nat.add_sub_cancel_left]

/-- The slice that is exactly the first part of an append. -/
theorem slice_here {a : Bytes} (b : Bytes) {len : ℕ} (h : a.length = len) :
    slice (a ++ b) 0 len = some a := by
  rw [slice_append_left b (by omega), ← h, slice_zero_length]

end SmbBrowser.Base
