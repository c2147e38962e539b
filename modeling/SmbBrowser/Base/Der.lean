import SmbBrowser.Base.BigEndian

/-!
# Elements of a DER string

A tag, a length of one or more octets, and as many octets of content.  A reader
takes lengths of up to eight octets; what it does to them in machine words is its
own affair, here they are numbers.

Results:
* `derHeader_derElement`: the header of an element is read back, whatever follows;
* `derHeader_size`: a header takes at least two octets and lies in its string.
-/

namespace SmbBrowser.Base

/-! ## Writing -/

/-- The octets of a number, least significant first, until nothing is left. -/
def lowBytes : ℕ → ℕ → Bytes
  | 0, _ => []
  | fuel + 1, n => if n = 0 then [] else UInt8.ofNat n :: lowBytes fuel (n / 256)

/-- The length octets: one below 128, otherwise their number and the length. -/
def derLength (n : ℕ) : Bytes :=
  if n < 0x80 then [UInt8.ofNat n]
  else
    let encoded := lowBytes 8 n
    UInt8.ofNat (0x80 + encoded.length) :: encoded.reverse

/-- An element with its content. -/
def derElement (tag : UInt8) (content : Bytes) : Bytes :=
  tag :: (derLength content.length ++ content)

theorem length_lowBytes_le (fuel n : ℕ) : (lowBytes fuel n).length ≤ fuel := by
  induction fuel generalizing n with
  | zero => exact le_rfl
  | succ fuel ih =>
    rw [lowBytes]
    split
    · exact Nat.zero_le _
    · have := ih (n / 256)
      rw [List.length_cons]
      omega

theorem length_lowBytes_pos {fuel n : ℕ} (hfuel : 0 < fuel) (hn : 0 < n) :
    0 < (lowBytes fuel n).length := by
  cases fuel with
  | zero => exact absurd hfuel (lt_irrefl 0)
  | succ fuel =>
    rw [lowBytes, if_neg (by omega), List.length_cons]
    omega

theorem leValue_lowBytes {fuel n : ℕ} (h : n < 256 ^ fuel) : leValue (lowBytes fuel n) = n := by
  induction fuel generalizing n with
  | zero =>
    have hzero : n = 0 := by simpa using h
    rw [hzero]
    rfl
  | succ fuel ih =>
    rw [lowBytes]
    split
    · rename_i hzero
      rw [hzero]
      rfl
    · have hrest : n / 256 < 256 ^ fuel := by
        rw [pow_succ'] at h
        exact Nat.div_lt_of_lt_mul h
      rw [leValue, ih hrest, toNat_ofNat_uint8]
      omega

/-! ## Reading -/

/-- The tag, the size of tag and length octets, and the length: `none` if the
    header is cut off or its length has no octets or more than eight. -/
def derHeader : Bytes → Option (UInt8 × ℕ × ℕ)
  | tag :: first :: rest =>
    if first.toNat < 0x80 then some (tag, 2, first.toNat)
    else
      let count := first.toNat - 0x80
      if count = 0 ∨ 8 < count ∨ rest.length < count then none
      else some (tag, 2 + count, beValue (rest.take count))
  | _ => none

/-- The header of an element is read back. -/
theorem derHeader_derElement (tag : UInt8) {content : Bytes} (rest : Bytes)
    (h : content.length < 2 ^ 64) :
    derHeader (derElement tag content ++ rest) =
      some (tag, 1 + (derLength content.length).length, content.length) := by
  by_cases hshort : content.length < 0x80
  · have hbyte : (UInt8.ofNat content.length).toNat = content.length := by
      rw [toNat_ofNat_uint8]
      omega
    simp only [derElement, derLength, if_pos hshort, List.cons_append, List.nil_append, derHeader,
      hbyte]
    rfl
  · have hle := length_lowBytes_le 8 content.length
    have hpos := length_lowBytes_pos (show 0 < 8 by omega) (show 0 < content.length by omega)
    have hvalue : leValue (lowBytes 8 content.length) = content.length :=
      leValue_lowBytes (by omega)
    simp only [derElement, derLength, if_neg hshort, List.cons_append, derHeader]
    generalize lowBytes 8 content.length = encoded at hle hpos hvalue ⊢
    have hbyte : (UInt8.ofNat (0x80 + encoded.length)).toNat = 0x80 + encoded.length := by
      rw [toNat_ofNat_uint8]
      omega
    have hcount : 0x80 + encoded.length - 0x80 = encoded.length := by omega
    have hlong : ¬ 0x80 + encoded.length < 0x80 := by omega
    have hin : ¬ (encoded.length = 0 ∨ 8 < encoded.length ∨
        (encoded.reverse ++ content ++ rest).length < encoded.length) := by
      simp only [List.length_append, List.length_reverse]
      omega
    have htake : (encoded.reverse ++ content ++ rest).take encoded.length = encoded.reverse := by
      rw [List.append_assoc, List.take_left' (List.length_reverse)]
    rw [hbyte, if_neg hlong, hcount, if_neg hin, htake, beValue, List.reverse_reverse, hvalue,
      List.length_cons, List.length_reverse]
    rw [Nat.add_comm encoded.length 1, ← Nat.add_assoc]

theorem derHeader_size {bytes : Bytes} {tag : UInt8} {size length : ℕ}
    (h : derHeader bytes = some (tag, size, length)) :
    2 ≤ size ∧ size ≤ bytes.length ∧ length < 2 ^ 64 := by
  cases bytes with
  | nil => cases h
  | cons tag' bytes =>
    cases bytes with
    | nil => cases h
    | cons first rest =>
      rw [derHeader] at h
      split at h
      · cases h
        have hfirst := first.toNat_lt
        simp only [List.length_cons]
        omega
      · dsimp only at h
        split at h
        · cases h
        · rename_i hcount
          simp only [Option.some.injEq, Prod.mk.injEq] at h
          obtain ⟨-, rfl, rfl⟩ := h
          have hlt := beValue_lt (rest.take (first.toNat - 0x80))
          have htake : (rest.take (first.toNat - 0x80)).length = first.toNat - 0x80 := by
            rw [List.length_take]
            omega
          have hpow : 256 ^ (first.toNat - 0x80) ≤ 256 ^ 8 :=
            Nat.pow_le_pow_right (by omega) (by omega)
          rw [htake] at hlt
          simp only [List.length_cons]
          omega

end SmbBrowser.Base
