import SmbBrowser.Base.Bytes

/-!
# Splicing bytes into a string

`splice bytes offset data` stores `data` from `offset` on, over what is there,
and fills the gap before it with zeros when the string ends earlier.

Results:
* `ext_getD`: two strings with one length and the same bytes are the same;
* `length_splice`, `getD_splice`: the length and every byte of a spliced string;
* `splice_self`, `splice_middle`: storing what is already there, or over a piece of
  the same length;
* `splice_splice`, `splice_append`: a second piece stored over the first one or
  right after it.
-/

namespace SmbBrowser.Base

/-- Store `data` at `offset`. -/
def splice (bytes : Bytes) (offset : ℕ) (data : Bytes) : Bytes :=
  bytes.take offset ++ List.replicate (offset - bytes.length) 0 ++ data ++
    bytes.drop (offset + data.length)

/-! ## The bytes of a string -/

theorem getD_of_le {a : Bytes} {i : ℕ} (h : a.length ≤ i) : a.getD i 0 = 0 := by
  rw [List.getD_eq_getElem?_getD, List.getElem?_eq_none h]
  rfl

theorem getD_append_ite (a b : Bytes) (i : ℕ) :
    (a ++ b).getD i 0 = if i < a.length then a.getD i 0 else b.getD (i - a.length) 0 := by
  simp only [List.getD_eq_getElem?_getD, List.getElem?_append]
  split <;> rfl

theorem getD_take_ite (a : Bytes) (n i : ℕ) :
    (a.take n).getD i 0 = if i < n then a.getD i 0 else 0 := by
  simp only [List.getD_eq_getElem?_getD, List.getElem?_take]
  split <;> rfl

theorem getD_drop_add (a : Bytes) (n i : ℕ) : (a.drop n).getD i 0 = a.getD (n + i) 0 := by
  simp only [List.getD_eq_getElem?_getD, List.getElem?_drop]

theorem getD_replicate_zero (n i : ℕ) : (List.replicate n (0 : UInt8)).getD i 0 = 0 := by
  simp only [List.getD_eq_getElem?_getD, List.getElem?_replicate]
  split <;> rfl

theorem ext_getD {a b : Bytes} (hlen : a.length = b.length) (h : ∀ i, a.getD i 0 = b.getD i 0) :
    a = b := by
  refine List.ext_getElem hlen fun i ha hb => ?_
  have hi := h i
  rw [List.getD_eq_getElem?_getD, List.getD_eq_getElem?_getD, List.getElem?_eq_getElem ha,
    List.getElem?_eq_getElem hb] at hi
  exact hi

/-! ## The bytes of a spliced string -/

@[simp] theorem length_splice (bytes : Bytes) (offset : ℕ) (data : Bytes) :
    (splice bytes offset data).length = max bytes.length (offset + data.length) := by
  simp only [splice, List.length_append, List.length_take, List.length_replicate,
    List.length_drop]
  omega

theorem getD_splice (bytes : Bytes) (offset : ℕ) (data : Bytes) (i : ℕ) :
    (splice bytes offset data).getD i 0 =
      if offset ≤ i ∧ i < offset + data.length then data.getD (i - offset) 0
      else bytes.getD i 0 := by
  have hprefix : (bytes.take offset ++ List.replicate (offset - bytes.length) 0).length =
      offset := by
    simp only [List.length_append, List.length_take, List.length_replicate]
    omega
  rw [splice, List.append_assoc, getD_append_ite, hprefix]
  by_cases hbefore : i < offset
  · have hnot : ¬ (offset ≤ i ∧ i < offset + data.length) := by omega
    rw [if_pos hbefore, if_neg hnot, getD_append_ite, getD_take_ite, if_pos hbefore,
      getD_replicate_zero, List.length_take]
    split
    · rfl
    · exact (getD_of_le (by omega)).symm
  rw [if_neg hbefore, getD_append_ite]
  by_cases hinside : i - offset < data.length
  · rw [if_pos hinside, if_pos (by omega)]
  · rw [if_neg hinside, if_neg (by omega), getD_drop_add]
    congr 1
    omega

theorem getD_splice_of_lt {bytes : Bytes} {offset i : ℕ} (data : Bytes) (h : i < offset) :
    (splice bytes offset data).getD i 0 = bytes.getD i 0 := by
  rw [getD_splice, if_neg (by omega)]

theorem getD_splice_of_ge {bytes : Bytes} {offset i : ℕ} {data : Bytes}
    (h : offset + data.length ≤ i) : (splice bytes offset data).getD i 0 = bytes.getD i 0 := by
  rw [getD_splice, if_neg (by omega)]

/-- Storing what is already there changes nothing. -/
theorem splice_self {bytes : Bytes} {offset len : ℕ} (h : offset + len ≤ bytes.length) :
    splice bytes offset ((bytes.drop offset).take len) = bytes := by
  have hlen : ((bytes.drop offset).take len).length = len := by
    simp only [List.length_take, List.length_drop]
    omega
  refine ext_getD (by rw [length_splice, hlen]; omega) fun i => ?_
  rw [getD_splice, hlen]
  split
  · rw [getD_take_ite, if_pos (by omega), getD_drop_add]
    congr 1
    omega
  · rfl

/-- Storing a piece over one of the same length between two others. -/
theorem splice_middle {before middle after data : Bytes} (h : middle.length = data.length) :
    splice (before ++ (middle ++ after)) before.length data = before ++ (data ++ after) := by
  refine ext_getD ?_ fun i => ?_
  · simp only [length_splice, List.length_append]
    omega
  rw [getD_splice, getD_append_ite, getD_append_ite, getD_append_ite, getD_append_ite, h]
  by_cases hbefore : i < before.length
  · rw [if_neg (by omega), if_pos hbefore, if_pos hbefore]
  rw [if_neg hbefore, if_neg hbefore]
  by_cases hdata : i - before.length < data.length
  · rw [if_pos (by omega), if_pos hdata]
  · rw [if_neg (by omega), if_neg hdata, if_neg hdata]

/-- The bytes stored are read back. -/
theorem take_drop_splice (bytes : Bytes) (offset : ℕ) (data : Bytes) :
    ((splice bytes offset data).drop offset).take data.length = data := by
  refine ext_getD ?_ fun i => ?_
  · simp only [List.length_take, List.length_drop, length_splice]
    omega
  rw [getD_take_ite, getD_drop_add, getD_splice]
  by_cases hi : i < data.length
  · rw [if_pos hi, if_pos (by omega), Nat.add_sub_cancel_left]
  · rw [if_neg hi, getD_of_le (by omega)]

/-- Bytes outside what is stored are read as before. -/
theorem take_drop_splice_of_disjoint {bytes : Bytes} {offset off len : ℕ} {data : Bytes}
    (hfits : offset + data.length ≤ bytes.length)
    (h : off + len ≤ offset ∨ offset + data.length ≤ off) :
    ((splice bytes offset data).drop off).take len = (bytes.drop off).take len := by
  refine ext_getD ?_ fun i => ?_
  · simp only [List.length_take, List.length_drop, length_splice]
    omega
  rw [getD_take_ite, getD_take_ite]
  split
  · rw [getD_drop_add, getD_drop_add, getD_splice, if_neg (by omega)]
  · rfl

/-- A second piece of the same length over the first. -/
theorem splice_splice {bytes : Bytes} {offset : ℕ} {first second : Bytes}
    (h : first.length = second.length) :
    splice (splice bytes offset first) offset second = splice bytes offset second := by
  refine ext_getD (by simp only [length_splice]; omega) fun i => ?_
  rw [getD_splice, getD_splice, getD_splice, h]
  split <;> rfl

/-- Two pieces stored one after the other. -/
theorem splice_append (bytes : Bytes) (offset : ℕ) (first second : Bytes) :
    splice (splice bytes offset first) (offset + first.length) second =
      splice bytes offset (first ++ second) := by
  refine ext_getD ?_ fun i => ?_
  · simp only [length_splice, List.length_append]
    omega
  rw [getD_splice, getD_splice, getD_splice, List.length_append, getD_append_ite]
  by_cases hsecond : offset + first.length ≤ i ∧ i < offset + first.length + second.length
  · rw [if_pos hsecond, if_pos (by omega), if_neg (by omega)]
    congr 1
    omega
  rw [if_neg hsecond]
  by_cases hfirst : offset ≤ i ∧ i < offset + first.length
  · rw [if_pos hfirst, if_pos (by omega), if_pos (by omega)]
  · rw [if_neg hfirst, if_neg (by omega)]

end SmbBrowser.Base
