import SmbBrowser.Base.Bytes

/-!
# Bytes at an offset

Messages whose parts follow each other, or are found through offsets: a part is taken by
where it stands, whatever is before and behind it.

Results:
* `standsAt_append`: parts that follow each other;
* `StandsAt.slice`: the slice at the offset is the part.
-/

namespace SmbBrowser.Base

/-- The bytes stand at the offset. -/
def StandsAt (data : Bytes) (off : ℕ) (bytes : Bytes) : Prop :=
  ∃ before behind, data = before ++ (bytes ++ behind) ∧ before.length = off

variable {data bytes a b : Bytes} {off : ℕ}

theorem standsAt_zero (bytes behind : Bytes) : StandsAt (bytes ++ behind) 0 bytes :=
  ⟨[], behind, rfl, rfl⟩

theorem standsAt_append :
    StandsAt data off (a ++ b) ↔ StandsAt data off a ∧ StandsAt data (off + a.length) b := by
  constructor
  · rintro ⟨before, behind, rfl, rfl⟩
    refine ⟨⟨before, b ++ behind, by rw [List.append_assoc], rfl⟩, before ++ a, behind, ?_, ?_⟩
    · simp only [List.append_assoc]
    · rw [List.length_append]
  · rintro ⟨⟨before, behind, rfl, rfl⟩, before', behind', hdata, hlen⟩
    rw [← List.append_assoc] at hdata
    obtain ⟨-, rfl⟩ := List.append_inj hdata (by rw [List.length_append, hlen])
    exact ⟨before, behind', by rw [List.append_assoc], rfl⟩

theorem StandsAt.length_le (h : StandsAt data off bytes) : off + bytes.length ≤ data.length := by
  obtain ⟨before, behind, rfl, rfl⟩ := h
  simp only [List.length_append]
  omega

theorem StandsAt.slice (h : StandsAt data off bytes) :
    slice data off bytes.length = some bytes := by
  obtain ⟨before, behind, rfl, rfl⟩ := h
  rw [slice_skip _ le_rfl, Nat.sub_self, slice_here _ rfl]

theorem standsAt_of_slice {len : ℕ} (h : Base.slice data off len = some bytes) :
    StandsAt data off bytes := by
  obtain ⟨hle, rfl⟩ := slice_eq_some.1 h
  refine ⟨data.take off, data.drop (off + len), ?_, List.length_take_of_le (by omega)⟩
  rw [← List.drop_drop, List.take_append_drop, List.take_append_drop]

/-- What stands in a part stands in the whole. -/
theorem StandsAt.trans {off' : ℕ} (h : StandsAt data off a) (h' : StandsAt a off' b) :
    StandsAt data (off + off') b := by
  obtain ⟨before, behind, rfl, rfl⟩ := h
  obtain ⟨before', behind', rfl, rfl⟩ := h'
  exact ⟨before ++ before', behind' ++ behind, by simp only [List.append_assoc],
    List.length_append⟩

end SmbBrowser.Base
