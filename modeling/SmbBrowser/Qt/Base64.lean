import SmbBrowser.Qt.Json

/-!
# Base64 of Qt

`QByteArray::toBase64` in the standard alphabet, with padding, and
`QByteArray::fromBase64`, which skips every character that is not in the alphabet.

Results:
* `fromBase64_toBase64`: bytes are read back as they were written;
* `toBase64_mem`: the characters of a text in Base64.
-/

namespace SmbBrowser.Qt.Base64

/-- The character of a digit. -/
def alphabet (digit : ℕ) : QChar :=
  UInt16.ofNat <|
    if digit < 26 then 65 + digit
    else if digit < 52 then 97 + (digit - 26)
    else if digit < 62 then 48 + (digit - 52)
    else if digit = 62 then 43
    else 47

/-- The digit of a character. -/
def digit (c : QChar) : Option ℕ :=
  if 65 ≤ c ∧ c ≤ 90 then some (c.toNat - 65)
  else if 97 ≤ c ∧ c ≤ 122 then some (c.toNat - 97 + 26)
  else if 48 ≤ c ∧ c ≤ 57 then some (c.toNat - 48 + 52)
  else if c = 43 then some 62
  else if c = 47 then some 63
  else none

/-- `=`. -/
def padding : QChar := 61

/-- `QByteArray::toBase64`: three bytes are four digits. -/
def toBase64 : QByteArray → QString
  | [] => []
  | [a] =>
    let n := 65536 * a.toNat
    [alphabet (n / 262144), alphabet (n / 4096 % 64), padding, padding]
  | [a, b] =>
    let n := 65536 * a.toNat + 256 * b.toNat
    [alphabet (n / 262144), alphabet (n / 4096 % 64), alphabet (n / 64 % 64), padding]
  | a :: b :: c :: bytes =>
    let n := 65536 * a.toNat + 256 * b.toNat + c.toNat
    alphabet (n / 262144) :: alphabet (n / 4096 % 64) :: alphabet (n / 64 % 64) ::
      alphabet (n % 64) :: toBase64 bytes

/-- The loop of `QByteArray::fromBase64`, with the bits that make no byte yet. -/
def decode (buf nbits : ℕ) : QString → QByteArray
  | [] => []
  | c :: s =>
    match digit c with
    | none => decode buf nbits s
    | some d =>
      let buf := 64 * buf + d
      if 8 ≤ nbits + 6 then
        UInt8.ofNat (buf / 2 ^ (nbits - 2)) :: decode (buf % 2 ^ (nbits - 2)) (nbits - 2) s
      else
        decode buf (nbits + 6) s

/-- `QByteArray::fromBase64`. -/
def fromBase64 (s : QString) : QByteArray := decode 0 0 s

theorem digit_alphabet {d : ℕ} (h : d < 64) : digit (alphabet d) = some d := by
  have hall : ∀ d < 64, digit (alphabet d) = some d := by decide +kernel
  exact hall d h

theorem digit_padding : digit padding = none := by decide

theorem decode_alphabet {buf nbits d : ℕ} {s : QString} (hd : d < 64) :
    decode buf nbits (alphabet d :: s) =
      if 8 ≤ nbits + 6 then
        UInt8.ofNat ((64 * buf + d) / 2 ^ (nbits - 2)) ::
          decode ((64 * buf + d) % 2 ^ (nbits - 2)) (nbits - 2) s
      else
        decode (64 * buf + d) (nbits + 6) s := by
  rw [decode, digit_alphabet hd]

theorem decode_padding {buf nbits : ℕ} {s : QString} :
    decode buf nbits (padding :: s) = decode buf nbits s := by
  rw [decode, digit_padding]

theorem ofNat_eq {a : UInt8} {n : ℕ} (h : n = a.toNat) : UInt8.ofNat n = a := by
  rw [h, UInt8.ofNat_toNat]

/-- The bits of whole bytes are forgotten. -/
theorem decode_mod_one {buf : ℕ} {s : QString} : decode (buf % 2 ^ 0) 0 s = decode 0 0 s := by
  rw [Nat.pow_zero, Nat.mod_one]

/-- Bytes are read back as they were written. -/
theorem fromBase64_toBase64 (bytes : QByteArray) : fromBase64 (toBase64 bytes) = bytes := by
  unfold fromBase64
  induction bytes using toBase64.induct with
  | case1 => rfl
  | case2 a =>
    have ha : a.toNat < 256 := a.toNat_lt
    rw [toBase64, decode_alphabet (by omega), if_neg (by decide), decode_alphabet (by omega),
      if_pos (by decide), decode_padding, decode_padding, decode]
    rw [@ofNat_eq a _ (by omega)]
  | case3 a b =>
    have ha : a.toNat < 256 := a.toNat_lt
    have hb : b.toNat < 256 := b.toNat_lt
    rw [toBase64, decode_alphabet (by omega), if_neg (by decide), decode_alphabet (by omega),
      if_pos (by decide), decode_alphabet (by omega), if_pos (by decide), decode_padding, decode]
    rw [@ofNat_eq a _ (by omega), @ofNat_eq b _ (by omega)]
  | case4 a b c bytes ih =>
    have ha : a.toNat < 256 := a.toNat_lt
    have hb : b.toNat < 256 := b.toNat_lt
    have hc : c.toNat < 256 := c.toNat_lt
    rw [toBase64, decode_alphabet (by omega), if_neg (by decide), decode_alphabet (by omega),
      if_pos (by decide), decode_alphabet (by omega), if_pos (by decide),
      decode_alphabet (by omega), if_pos (by decide)]
    rw [@ofNat_eq a _ (by omega), @ofNat_eq b _ (by omega), @ofNat_eq c _ (by omega)]
    have hrest : decode 0 0 (toBase64 bytes) = bytes := ih
    rw [show 0 + 6 - 2 - 2 - 2 = 0 from rfl, decode_mod_one, hrest]

/-- The characters of a text in Base64. -/
theorem toBase64_mem {bytes : QByteArray} {c : QChar} (h : c ∈ toBase64 bytes) :
    c = padding ∨ ∃ d < 64, c = alphabet d := by
  have hdigit (n : ℕ) : ∃ d < 64, alphabet (n % 64) = alphabet d :=
    ⟨n % 64, Nat.mod_lt _ (by decide), rfl⟩
  induction bytes using toBase64.induct with
  | case1 => cases h
  | case2 a =>
    have ha : a.toNat < 256 := a.toNat_lt
    simp only [toBase64, List.mem_cons, List.not_mem_nil, or_false] at h
    rcases h with rfl | rfl | rfl | rfl
    · exact Or.inr ⟨_, by omega, rfl⟩
    · exact Or.inr (hdigit _)
    · exact Or.inl rfl
    · exact Or.inl rfl
  | case3 a b =>
    have ha : a.toNat < 256 := a.toNat_lt
    have hb : b.toNat < 256 := b.toNat_lt
    simp only [toBase64, List.mem_cons, List.not_mem_nil, or_false] at h
    rcases h with rfl | rfl | rfl | rfl
    · exact Or.inr ⟨_, by omega, rfl⟩
    · exact Or.inr (hdigit _)
    · exact Or.inr (hdigit _)
    · exact Or.inl rfl
  | case4 a b c bytes ih =>
    have ha : a.toNat < 256 := a.toNat_lt
    have hb : b.toNat < 256 := b.toNat_lt
    have hc : c.toNat < 256 := c.toNat_lt
    simp only [toBase64, List.mem_cons] at h
    rcases h with rfl | rfl | rfl | rfl | h
    · exact Or.inr ⟨_, by omega, rfl⟩
    · exact Or.inr (hdigit _)
    · exact Or.inr (hdigit _)
    · exact Or.inr (hdigit _)
    · exact ih h

end SmbBrowser.Qt.Base64
