import SmbBrowser.Base.Bytes

/-!
# UTF-8 and UTF-16

The two encodings of Unicode texts.  A UTF-8 sequence is taken as its bits lay
it out, so that the forbidden ones (overlong, of a surrogate, past the last
code point) can be named; a character is a scalar value.

Results:
* `wellFormedUtf8_iff`: a text is well formed if and only if it encodes a list
  of characters;
* `Utf8Sequence.flatMap_bytes_inj`: a text falls into sequences in one way;
* `unpairedSurrogate_cons`, `unpairedSurrogate_pair`: the surrogates of a list
  of code units are paired from the front;
* `not_hasUnpairedSurrogate`, `flatMap_utf16Le_inj`: the code units of a list of
  characters have their surrogates paired and determine the list.
-/

namespace SmbBrowser.Base

/-- A surrogate code point. -/
def IsSurrogate (n : ℕ) : Prop := 0xD800 ≤ n ∧ n ≤ 0xDFFF

instance (n : ℕ) : Decidable (IsSurrogate n) := inferInstanceAs (Decidable (_ ∧ _))

theorem valid_toNat (c : Char) : ¬ IsSurrogate c.toNat ∧ c.toNat ≤ 0x10FFFF := by
  have hvalid : c.toNat < 0xD800 ∨ 0xDFFF < c.toNat ∧ c.toNat < 0x110000 := c.valid
  unfold IsSurrogate
  omega

/-- The character of a scalar value. -/
def charOf (n : ℕ) (h : ¬ IsSurrogate n) (h' : n ≤ 0x10FFFF) : Char :=
  Char.ofNatAux n (by unfold IsSurrogate at h; unfold Nat.isValidChar; omega)

@[simp] theorem toNat_charOf (n : ℕ) (h : ¬ IsSurrogate n) (h' : n ≤ 0x10FFFF) :
    (charOf n h h').toNat = n := by
  show (UInt32.ofNatLT n _).toNat = n
  rw [UInt32.toNat_ofNatLT]

/-! ## UTF-8 -/

/-- A lead byte and its continuation bytes, by the number their free bits hold. -/
inductive Utf8Sequence where
  | one (value : Fin 0x80)
  | two (value : Fin 0x800)
  | three (value : Fin 0x10000)
  | four (value : Fin 0x200000)

namespace Utf8Sequence

/-- The number a sequence holds. -/
def value : Utf8Sequence → ℕ
  | one v => v
  | two v => v
  | three v => v
  | four v => v

/-- The bytes of a sequence. -/
def bytes : Utf8Sequence → Bytes
  | one v => [UInt8.ofNat v]
  | two v => [UInt8.ofNat (0xC0 + v / 64), UInt8.ofNat (0x80 + v % 64)]
  | three v =>
    [UInt8.ofNat (0xE0 + v / 4096), UInt8.ofNat (0x80 + v / 64 % 64), UInt8.ofNat (0x80 + v % 64)]
  | four v =>
    [UInt8.ofNat (0xF0 + v / 262144), UInt8.ofNat (0x80 + v / 4096 % 64),
      UInt8.ofNat (0x80 + v / 64 % 64), UInt8.ofNat (0x80 + v % 64)]

/-- A sequence whose number has a shorter one. -/
def Overlong : Utf8Sequence → Prop
  | one _ => False
  | two v => v.val < 0x80
  | three v => v.val < 0x800
  | four v => v.val < 0x10000

/-- A sequence of an encoded text. -/
structure WellFormed (q : Utf8Sequence) : Prop where
  shortest : ¬ q.Overlong
  not_surrogate : ¬ IsSurrogate q.value
  in_range : q.value ≤ 0x10FFFF

/-- The sequence of a character. -/
def ofChar (c : Char) : Utf8Sequence :=
  if h : c.toNat < 0x80 then one ⟨c.toNat, h⟩
  else if h : c.toNat < 0x800 then two ⟨c.toNat, h⟩
  else if h : c.toNat < 0x10000 then three ⟨c.toNat, h⟩
  else four ⟨c.toNat, by have := (valid_toNat c).2; omega⟩

@[simp] theorem value_ofChar (c : Char) : (ofChar c).value = c.toNat := by
  unfold ofChar
  split_ifs <;> rfl

theorem wellFormed_ofChar (c : Char) : (ofChar c).WellFormed := by
  obtain ⟨hsurrogate, hrange⟩ := valid_toNat c
  refine ⟨?_, by rwa [value_ofChar], by rwa [value_ofChar]⟩
  unfold ofChar
  split_ifs <;> simp only [Overlong, not_false_eq_true] <;> omega

/-- The sequence of a character has the bytes of the character. -/
theorem bytes_ofChar (c : Char) : (ofChar c).bytes = String.utf8EncodeChar c := by
  have hrange := (valid_toNat c).2
  have hval : c.val.toNat = c.toNat := rfl
  unfold ofChar String.utf8EncodeChar
  simp only [hval]
  split_ifs with h1 h2 h3 <;> try omega
  · rfl
  · have hlead : 0xC0 + c.toNat / 64 = c.toNat / 64 % 0x20 + 0xC0 := by omega
    simp only [bytes, hlead, Nat.add_comm 0x80]
  · have hlead : 0xE0 + c.toNat / 4096 = c.toNat / 4096 % 0x10 + 0xE0 := by omega
    simp only [bytes, hlead, Nat.add_comm 0x80]
  · have hlead : 0xF0 + c.toNat / 262144 = c.toNat / 262144 % 0x08 + 0xF0 := by omega
    simp only [bytes, hlead, Nat.add_comm 0x80]

/-- A number has at most one sequence that is not overlong. -/
theorem eq_of_value {q q' : Utf8Sequence} (h : ¬ q.Overlong) (h' : ¬ q'.Overlong)
    (hvalue : q.value = q'.value) : q = q' := by
  cases q <;> cases q' <;> rename_i v v' <;> simp only [Overlong, value] at h h' hvalue <;>
    first
      | rw [Fin.ext hvalue]
      | (have hv := v.isLt; have hv' := v'.isLt; omega)

/-- A well-formed sequence is the one of a character. -/
theorem WellFormed.eq_ofChar {q : Utf8Sequence} (h : q.WellFormed) :
    q = ofChar (charOf q.value h.not_surrogate h.in_range) := by
  apply eq_of_value h.shortest (wellFormed_ofChar _).shortest
  rw [value_ofChar, toNat_charOf]

theorem ofNat_inj {a b : ℕ} (ha : a < 256) (hb : b < 256) :
    UInt8.ofNat a = UInt8.ofNat b ↔ a = b := by
  rw [← UInt8.toNat_inj, toNat_ofNat_uint8, toNat_ofNat_uint8, Nat.mod_eq_of_lt ha,
    Nat.mod_eq_of_lt hb]

/-- The lead byte of a sequence says how long it is. -/
theorem bytes_append_inj {q q' : Utf8Sequence} {rest rest' : Bytes}
    (h : q.bytes ++ rest = q'.bytes ++ rest') : q = q' ∧ rest = rest' := by
  cases q <;> cases q' <;> rename_i v v' <;>
    have hv := v.isLt <;> have hv' := v'.isLt <;>
    simp (disch := omega) only [bytes, List.cons_append, List.nil_append, List.cons.injEq,
      ofNat_inj] at h
  all_goals first
    | omega
    | (obtain ⟨hvalue, hrest⟩ : v.val = v'.val ∧ rest = rest' := by
        refine ⟨by omega, by tauto⟩
       exact ⟨by rw [Fin.ext hvalue], hrest⟩)

/-- A text falls into sequences in one way. -/
theorem flatMap_bytes_inj {l l' : List Utf8Sequence} (h : l.flatMap bytes = l'.flatMap bytes) :
    l = l' := by
  induction l generalizing l' with
  | nil =>
    cases l' with
    | nil => rfl
    | cons q' l' => cases q' <;> simp [bytes] at h
  | cons q l ih =>
    cases l' with
    | nil => cases q <;> simp [bytes] at h
    | cons q' l' =>
      obtain ⟨rfl, hrest⟩ := bytes_append_inj h
      rw [ih hrest]

end Utf8Sequence

/-- Well-formed UTF-8: sequences none of which is overlong, encodes a surrogate
    or is past the last code point. -/
def WellFormedUtf8 (text : Bytes) : Prop :=
  ∃ l : List Utf8Sequence, (∀ q ∈ l, q.WellFormed) ∧ text = l.flatMap Utf8Sequence.bytes

/-- Well-formed UTF-8 is the encoding of a list of characters. -/
theorem wellFormedUtf8_iff {text : Bytes} :
    WellFormedUtf8 text ↔ ∃ cs : List Char, text = cs.flatMap String.utf8EncodeChar := by
  constructor
  · rintro ⟨l, hl, rfl⟩
    induction l with
    | nil => exact ⟨[], rfl⟩
    | cons q l ih =>
      obtain ⟨cs, hcs⟩ := ih fun q' hq' => hl q' (List.mem_cons_of_mem q hq')
      have hq := hl q List.mem_cons_self
      refine ⟨charOf q.value hq.not_surrogate hq.in_range :: cs, ?_⟩
      rw [List.flatMap_cons, List.flatMap_cons, ← hcs, ← Utf8Sequence.bytes_ofChar,
        ← hq.eq_ofChar]
  · rintro ⟨cs, rfl⟩
    refine ⟨cs.map Utf8Sequence.ofChar, ?_, ?_⟩
    · intro q hq
      obtain ⟨c, -, rfl⟩ := List.mem_map.1 hq
      exact Utf8Sequence.wellFormed_ofChar c
    · rw [List.flatMap_map]
      simp only [Utf8Sequence.bytes_ofChar]

/-! ## UTF-16 -/

/-- The code units of a number up to the last code point, little-endian. -/
def codeUnitsLe (n : ℕ) : Bytes :=
  if n < 0x10000 then leBytes 2 n
  else leBytes 2 (0xD800 + (n - 0x10000) / 0x400) ++ leBytes 2 (0xDC00 + (n - 0x10000) % 0x400)

/-- The code units of a character, little-endian. -/
def utf16Le (c : Char) : Bytes := codeUnitsLe c.toNat

/-- The code units a byte string holds; a last odd byte is none. -/
def codeUnits : Bytes → List ℕ
  | low :: high :: rest => (low.toNat + 256 * high.toNat) :: codeUnits rest
  | _ => []

def IsHighSurrogate (u : ℕ) : Prop := 0xD800 ≤ u ∧ u ≤ 0xDBFF

def IsLowSurrogate (u : ℕ) : Prop := 0xDC00 ≤ u ∧ u ≤ 0xDFFF

/-- Code unit `i` is a high surrogate with no low surrogate after it, or a low
    surrogate with no high surrogate before it. -/
def UnpairedAt (units : List ℕ) (i : ℕ) : Prop :=
  ∃ u, units[i]? = some u ∧
    ((IsHighSurrogate u ∧ ¬ ∃ v, units[i + 1]? = some v ∧ IsLowSurrogate v) ∨
      (IsLowSurrogate u ∧ ¬ ∃ j v, i = j + 1 ∧ units[j]? = some v ∧ IsHighSurrogate v))

/-- Some surrogate of the code units has no other half. -/
def HasUnpairedSurrogate (units : List ℕ) : Prop := ∃ i, UnpairedAt units i

theorem not_hasUnpairedSurrogate_nil : ¬ HasUnpairedSurrogate [] := by
  rintro ⟨i, u, hu, -⟩
  simp at hu

/-- Past a unit that is no high surrogate nothing is paired with it. -/
theorem unpairedAt_succ {u : ℕ} (hu : ¬ IsHighSurrogate u) (units : List ℕ) (i : ℕ) :
    UnpairedAt (u :: units) (i + 1) ↔ UnpairedAt units i := by
  have hbefore : (∃ j v, i + 1 = j + 1 ∧ (u :: units)[j]? = some v ∧ IsHighSurrogate v) ↔
      ∃ j v, i = j + 1 ∧ units[j]? = some v ∧ IsHighSurrogate v := by
    constructor
    · rintro ⟨j, v, hj, hv, hhigh⟩
      obtain rfl : i = j := by omega
      cases i with
      | zero =>
        obtain rfl : u = v := by simpa using hv
        exact absurd hhigh hu
      | succ j => exact ⟨j, v, rfl, by simpa using hv, hhigh⟩
    · rintro ⟨j, v, rfl, hv, hhigh⟩
      exact ⟨j + 1, v, rfl, by simpa using hv, hhigh⟩
  unfold UnpairedAt
  rw [hbefore]
  simp only [List.getElem?_cons_succ]

/-- A unit that is no surrogate is skipped. -/
theorem unpairedSurrogate_cons {u : ℕ} (hu : ¬ IsSurrogate u) (units : List ℕ) :
    HasUnpairedSurrogate (u :: units) ↔ HasUnpairedSurrogate units := by
  have hhigh : ¬ IsHighSurrogate u := by unfold IsHighSurrogate; unfold IsSurrogate at hu; omega
  have hlow : ¬ IsLowSurrogate u := by unfold IsLowSurrogate; unfold IsSurrogate at hu; omega
  constructor
  · rintro ⟨i, hi⟩
    cases i with
    | zero =>
      obtain ⟨v, hv, h⟩ := hi
      obtain rfl : u = v := by simpa using hv
      tauto
    | succ i => exact ⟨i, (unpairedAt_succ hhigh units i).1 hi⟩
  · rintro ⟨i, hi⟩
    exact ⟨i + 1, (unpairedAt_succ hhigh units i).2 hi⟩

/-- A high and a low surrogate are a pair. -/
theorem unpairedSurrogate_pair {u v : ℕ} (hu : IsHighSurrogate u) (hv : IsLowSurrogate v)
    (units : List ℕ) :
    HasUnpairedSurrogate (u :: v :: units) ↔ HasUnpairedSurrogate units := by
  have hhigh : ¬ IsHighSurrogate v := by unfold IsHighSurrogate; unfold IsLowSurrogate at hv; omega
  have hlow : ¬ IsLowSurrogate u := by unfold IsLowSurrogate; unfold IsHighSurrogate at hu; omega
  -- two units on, the unit before is `v`, no high surrogate
  have hshift : ∀ i, UnpairedAt (u :: v :: units) (i + 2) ↔ UnpairedAt units i := by
    intro i
    rw [← unpairedAt_succ hhigh units i]
    unfold UnpairedAt
    have hbefore : (∃ j w, i + 2 = j + 1 ∧ (u :: v :: units)[j]? = some w ∧ IsHighSurrogate w) ↔
        ∃ j w, i + 1 = j + 1 ∧ (v :: units)[j]? = some w ∧ IsHighSurrogate w := by
      constructor
      · rintro ⟨j, w, hj, hw, h⟩
        obtain rfl : j = i + 1 := by omega
        exact ⟨i, w, rfl, by simpa using hw, h⟩
      · rintro ⟨j, w, hj, hw, h⟩
        obtain rfl : i = j := by omega
        exact ⟨i + 1, w, rfl, by simpa using hw, h⟩
    rw [hbefore]
    simp only [List.getElem?_cons_succ]
  constructor
  · rintro ⟨i, hi⟩
    cases i with
    | zero =>
      obtain ⟨w, hw, h⟩ := hi
      obtain rfl : u = w := by simpa using hw
      obtain ⟨-, h⟩ | ⟨h, -⟩ := h
      · exact absurd ⟨v, rfl, hv⟩ h
      · exact absurd h hlow
    | succ i =>
      cases i with
      | zero =>
        obtain ⟨w, hw, h⟩ := hi
        obtain rfl : v = w := by simpa using hw
        obtain ⟨h, -⟩ | ⟨-, h⟩ := h
        · exact absurd h hhigh
        · exact absurd ⟨0, u, rfl, rfl, hu⟩ h
      | succ i => exact ⟨i, (hshift i).1 hi⟩
  · rintro ⟨i, hi⟩
    exact ⟨i + 2, (hshift i).2 hi⟩

/-- A high surrogate with no low surrogate behind it is unpaired. -/
theorem hasUnpairedSurrogate_of_high {u : ℕ} {units : List ℕ} (hu : IsHighSurrogate u)
    (h : ∀ v, units.head? = some v → ¬ IsLowSurrogate v) : HasUnpairedSurrogate (u :: units) := by
  refine ⟨0, u, rfl, .inl ⟨hu, ?_⟩⟩
  rintro ⟨v, hv, hlow⟩
  refine h v ?_ hlow
  cases units with
  | nil => simp at hv
  | cons w units => simpa using hv

/-- A low surrogate at the front is unpaired. -/
theorem hasUnpairedSurrogate_of_low {u : ℕ} (units : List ℕ) (hu : IsLowSurrogate u) :
    HasUnpairedSurrogate (u :: units) := by
  refine ⟨0, u, rfl, .inr ⟨hu, ?_⟩⟩
  rintro ⟨j, v, hj, -⟩
  omega

/-! ## The code units of characters -/

theorem codeUnits_leBytes {n : ℕ} (h : n < 0x10000) (rest : Bytes) :
    codeUnits (leBytes 2 n ++ rest) = n :: codeUnits rest := by
  have hvalue : leValue (leBytes 2 n) = n := by
    rw [leValue_leBytes]
    omega
  show (_ + 256 * _) :: _ = _
  conv_rhs => rw [← hvalue]
  rfl

/-- The surrogates of a list of characters are paired. -/
theorem not_hasUnpairedSurrogate (cs : List Char) :
    ¬ HasUnpairedSurrogate (codeUnits (cs.flatMap utf16Le)) := by
  induction cs with
  | nil => exact not_hasUnpairedSurrogate_nil
  | cons c cs ih =>
    obtain ⟨hscalar, hrange⟩ := valid_toNat c
    rw [List.flatMap_cons, utf16Le, codeUnitsLe]
    by_cases hsmall : c.toNat < 0x10000
    · rwa [if_pos hsmall, codeUnits_leBytes hsmall, unpairedSurrogate_cons hscalar]
    · rwa [if_neg hsmall, List.append_assoc, codeUnits_leBytes (by omega),
        codeUnits_leBytes (by omega), unpairedSurrogate_pair (by unfold IsHighSurrogate; omega)
          (by unfold IsLowSurrogate; omega)]

theorem leBytes_append_inj {m n : ℕ} (hm : m < 0x10000) (hn : n < 0x10000) {rest rest' : Bytes}
    (h : leBytes 2 m ++ rest = leBytes 2 n ++ rest') : m = n ∧ rest = rest' := by
  obtain ⟨hunit, hrest⟩ := List.append_inj h (by simp only [length_leBytes])
  have hvalue := congrArg leValue hunit
  rw [leValue_leBytes, leValue_leBytes] at hvalue
  exact ⟨by omega, hrest⟩

/-- The first unit of a character says how many it has. -/
theorem utf16Le_append_inj {c c' : Char} {rest rest' : Bytes}
    (h : utf16Le c ++ rest = utf16Le c' ++ rest') : c = c' ∧ rest = rest' := by
  obtain ⟨hscalar, hrange⟩ := valid_toNat c
  obtain ⟨hscalar', hrange'⟩ := valid_toNat c'
  unfold IsSurrogate at hscalar hscalar'
  have hchar : c.toNat = c'.toNat ∧ rest = rest' := by
    unfold utf16Le codeUnitsLe at h
    split_ifs at h with hsmall hsmall' hsmall'
    · exact leBytes_append_inj hsmall hsmall' h
    · rw [List.append_assoc] at h
      have := (leBytes_append_inj hsmall (by omega) h).1
      omega
    · rw [List.append_assoc] at h
      have := (leBytes_append_inj (by omega) hsmall' h).1
      omega
    · rw [List.append_assoc, List.append_assoc] at h
      obtain ⟨hhigh, h⟩ := leBytes_append_inj (by omega) (by omega) h
      obtain ⟨hlow, hrest⟩ := leBytes_append_inj (by omega) (by omega) h
      exact ⟨by omega, hrest⟩
  exact ⟨Char.ext (UInt32.toNat_inj.1 hchar.1), hchar.2⟩

theorem length_utf16Le (c : Char) : (utf16Le c).length = 2 ∨ (utf16Le c).length = 4 := by
  unfold utf16Le codeUnitsLe
  split_ifs <;> simp

/-- A list of characters is determined by its code units. -/
theorem flatMap_utf16Le_inj {cs cs' : List Char} (h : cs.flatMap utf16Le = cs'.flatMap utf16Le) :
    cs = cs' := by
  induction cs generalizing cs' with
  | nil =>
    cases cs' with
    | nil => rfl
    | cons c' cs' =>
      have hlength := congrArg List.length h
      simp only [List.flatMap_nil, List.flatMap_cons, List.length_nil, List.length_append] at hlength
      have := length_utf16Le c'
      omega
  | cons c cs ih =>
    cases cs' with
    | nil =>
      have hlength := congrArg List.length h
      simp only [List.flatMap_nil, List.flatMap_cons, List.length_nil, List.length_append] at hlength
      have := length_utf16Le c
      omega
    | cons c' cs' =>
      obtain ⟨rfl, hrest⟩ := utf16Le_append_inj h
      rw [ih hrest]

theorem even_length_flatMap_utf16Le (cs : List Char) : (cs.flatMap utf16Le).length % 2 = 0 := by
  induction cs with
  | nil => rfl
  | cons c cs ih =>
    have := length_utf16Le c
    rw [List.flatMap_cons, List.length_append]
    omega

end SmbBrowser.Base
