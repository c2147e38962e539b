import SmbBrowser.Base.Bytes

/-!
# XOR with a key stream

A key stream gives a block of `n` bytes for every counter.  `xorStream` XORs a
string with the blocks of the stream from a counter on.

Results:
* `length_xorStream`: the length stays;
* `xorStream_xorStream`: doing it twice gives the string back;
* `xorStream_injective`: so strings of one length are told apart.
-/

namespace SmbBrowser.Base

/-- XOR byte by byte, as far as the shorter string reaches. -/
def xorBytes (left right : Bytes) : Bytes := List.zipWith (· ^^^ ·) left right

@[simp] theorem length_xorBytes (left right : Bytes) :
    (xorBytes left right).length = min left.length right.length := by
  simp [xorBytes]

theorem xorBytes_xorBytes {left right : Bytes} (h : left.length ≤ right.length) :
    xorBytes (xorBytes left right) right = left := by
  induction left generalizing right with
  | nil => rfl
  | cons x left ih =>
    cases right with
    | nil => simp at h
    | cons y right =>
      have hlen : left.length ≤ right.length := by simpa using h
      have htail := ih hlen
      simp only [xorBytes, List.zipWith_cons_cons, List.cons.injEq] at htail ⊢
      exact ⟨by rw [UInt8.xor_assoc, UInt8.xor_self, UInt8.xor_zero], htail⟩

section

variable {n : ℕ} (stream : ℕ → Vector UInt8 n)

/-- XOR a string with `blocks` blocks of the stream from `counter` on. -/
def xorStream : ℕ → ℕ → Bytes → Bytes
  | 0, _, _ => []
  | blocks + 1, counter, input =>
    xorBytes (input.take n) (stream counter).toList ++
      xorStream blocks (counter + 1) (input.drop n)

variable {stream}

theorem length_xorStream {blocks : ℕ} : ∀ {counter : ℕ} {input : Bytes},
    input.length ≤ blocks * n → (xorStream stream blocks counter input).length = input.length := by
  induction blocks with
  | zero =>
    intro counter input h
    simp only [xorStream, List.length_nil]
    omega
  | succ blocks ih =>
    intro counter input h
    have hrest : (input.drop n).length ≤ blocks * n := by
      rw [List.length_drop, Nat.sub_le_iff_le_add]
      rwa [Nat.succ_mul] at h
    rw [xorStream, List.length_append, ih hrest, length_xorBytes, List.length_take,
      List.length_drop, Vector.length_toList]
    omega

/-- XOR with the same blocks twice. -/
theorem xorStream_xorStream {blocks : ℕ} : ∀ {counter : ℕ} {input : Bytes},
    input.length ≤ blocks * n →
      xorStream stream blocks counter (xorStream stream blocks counter input) = input := by
  induction blocks with
  | zero =>
    intro counter input h
    have hnil : input = [] := List.length_eq_zero_iff.1 (by omega)
    rw [xorStream, hnil]
  | succ blocks ih =>
    intro counter input h
    have hrest : (input.drop n).length ≤ blocks * n := by
      rw [List.length_drop, Nat.sub_le_iff_le_add]
      rwa [Nat.succ_mul] at h
    have hblock : (input.take n).length ≤ (stream counter).toList.length := by
      rw [List.length_take, Vector.length_toList]
      omega
    have hlen : (xorBytes (input.take n) (stream counter).toList).length = min n input.length := by
      rw [length_xorBytes, List.length_take, Vector.length_toList]
      omega
    rw [xorStream, xorStream]
    by_cases hfull : n ≤ input.length
    · rw [List.take_left' (by omega), List.drop_left' (by omega), xorBytes_xorBytes hblock,
        ih hrest, List.take_append_drop]
    · have hshort : input.drop n = [] := List.drop_eq_nil_of_le (by omega)
      have hempty : xorStream stream blocks (counter + 1) [] = [] := by
        refine List.length_eq_zero_iff.1 ?_
        rw [length_xorStream (by simp), List.length_nil]
      have htake : (xorBytes (input.take n) (stream counter).toList).length ≤ n := by omega
      rw [hshort, hempty, List.append_nil, List.take_of_length_le htake,
        List.drop_eq_nil_of_le htake, xorBytes_xorBytes hblock, hempty, List.append_nil,
        List.take_of_length_le (by omega)]

theorem xorStream_injective {blocks counter : ℕ} {a b : Bytes} (ha : a.length ≤ blocks * n)
    (hb : b.length ≤ blocks * n)
    (h : xorStream stream blocks counter a = xorStream stream blocks counter b) : a = b := by
  calc a = xorStream stream blocks counter (xorStream stream blocks counter a) :=
        (xorStream_xorStream ha).symm
    _ = b := by rw [h, xorStream_xorStream hb]

end

end SmbBrowser.Base
