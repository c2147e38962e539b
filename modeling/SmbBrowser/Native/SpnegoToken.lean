import SmbBrowser.Base.Der
import SmbBrowser.Native.Text

/-!
# SPNEGO tokens

Model of native_smb/SpnegoToken.cpp.  The parser walks attacker-controlled DER
with `size_t` arithmetic, so its reads and copies are checked: `.outside` where
one leaves its string.

The parser is compared with the list of what a depth-first walk comes across, in
which lengths are numbers (`visits`).

Results:
* `findNtlmOctetString_scan`: the parser returns the first token of that list,
  and leaves its string if a length past the machine word stands before it;
* `unwrapSpnegoNtlmToken_safe_iff`: so it is safe exactly without such a length.
-/

namespace SmbBrowser.Native

open SmbBrowser.Base

/-! ## Building tokens -/

def kDerSequence : UInt8 := 0x30
def kDerOctetString : UInt8 := 0x04
def kDerObjectIdentifier : UInt8 := 0x06
def kDerApplication0 : UInt8 := 0x60
def kDerContext0 : UInt8 := 0xA0
def kDerContext1 : UInt8 := 0xA1
def kDerContext2 : UInt8 := 0xA2

def kSpnegoOid : ByteVector := [0x2B, 0x06, 0x01, 0x05, 0x05, 0x02]
def kNtlmOid : ByteVector := [0x2B, 0x06, 0x01, 0x04, 0x01, 0x82, 0x37, 0x02, 0x02, 0x0A]

/-- Model of `derTlv` (SpnegoToken.cpp:39). -/
def derTlv (tag : UInt8) (content : ByteVector) : ByteVector := derElement tag content

/-- Model of `derOid` (SpnegoToken.cpp:48). -/
def derOid (oid : ByteVector) : ByteVector := derTlv kDerObjectIdentifier oid

/-- Model of `derOctetString` (SpnegoToken.cpp:52). -/
def derOctetString (value : ByteVector) : ByteVector := derTlv kDerOctetString value

/-- Model of `derSequence` (SpnegoToken.cpp:56). -/
def derSequence (value : ByteVector) : ByteVector := derTlv kDerSequence value

/-- Model of `derContext` (SpnegoToken.cpp:60). -/
def derContext (tag : UInt8) (value : ByteVector) : ByteVector := derTlv tag value

/-- Model of `buildSpnegoNegTokenInit` (SpnegoToken.cpp:144). -/
def buildSpnegoNegTokenInit (ntlmToken : ByteVector) : ByteVector :=
  let mechTypes := derContext kDerContext0 (derSequence (derOid kNtlmOid))
  let mechToken := derContext kDerContext2 (derOctetString ntlmToken)
  let negotiationToken := derContext kDerContext0 (derSequence (mechTypes ++ mechToken))
  derTlv kDerApplication0 (derOid kSpnegoOid ++ negotiationToken)

/-- Model of `buildSpnegoNegTokenResp` (SpnegoToken.cpp:160). -/
def buildSpnegoNegTokenResp (ntlmToken : ByteVector) : ByteVector :=
  let responseToken := derContext kDerContext2 (derOctetString ntlmToken)
  derContext kDerContext1 (derSequence responseToken)

/-! ## The parser -/

/-- How the parser can fail without an error of its own. -/
inductive Fault where
  | outside
  | unfinished
  deriving DecidableEq

/-- `size_t` addition. -/
def sizeAdd (a b : ℕ) : ℕ := (a + b) % 2 ^ 64

/-- `bytes[offset]`. -/
def byteAt (bytes : ByteVector) (offset : ℕ) : Except Fault UInt8 :=
  match bytes[offset]? with
  | some byte => .ok byte
  | none => .error .outside

/-- `ByteVector(bytes.begin() + offset, bytes.begin() + offset + length)`: a range
    that ends before it begins, or behind the string, lies outside. -/
def copyRange (bytes : ByteVector) (offset length : ℕ) : Except Fault ByteVector :=
  if offset + length ≤ bytes.length then .ok ((bytes.drop offset).take length)
  else .error .outside

def ntlmSignature : ByteVector := ascii "NTLMSSP" ++ [0]

/-- Model of `startsWithNtlmSignature` (SpnegoToken.cpp:64). -/
def startsWithNtlmSignature (bytes : ByteVector) : Bool := bytes.take 8 = ntlmSignature

/-- The loop of `readDerLength` over the length octets. -/
def readLengthOctets (bytes : ByteVector) : ℕ → ℕ → ℕ → Except Fault ℕ
  | 0, _, length => .ok length
  | count + 1, offset, length => do
    let byte ← byteAt bytes offset
    readLengthOctets bytes count (offset + 1) ((length * 256 + byte.toNat) % 2 ^ 64)

/-- Model of `readDerLength` (SpnegoToken.cpp:71): the length and the offset
    behind it. -/
def readDerLength (bytes : ByteVector) (offset : ℕ) : Except Fault (DecodeResult (ℕ × ℕ)) :=
  if offset ≥ bytes.length then
    .ok (failure .protocolUnsupported "SPNEGO DER length is truncated.")
  else do
    let first ← byteAt bytes offset
    if first &&& 0x80 = 0 then
      return .ok (first.toNat, offset + 1)
    else
      let count := (first &&& 0x7F).toNat
      if count = 0 ∨ count > 8 ∨ sizeAdd (offset + 1) count > bytes.length then
        return failure .protocolUnsupported "SPNEGO DER length is invalid."
      else
        let length ← readLengthOctets bytes count (offset + 1) 0
        return .ok (length, offset + 1 + count)

/-- The loop of `findNtlmOctetString`; `nested` is the call one level down. -/
def findLoop (nested : ByteVector → Except Fault (DecodeResult ByteVector)) (bytes : ByteVector) :
    ℕ → ℕ → Except Fault (DecodeResult ByteVector)
  | 0, _ => .error .unfinished
  | fuel + 1, offset =>
    if offset < bytes.length then do
      let tag ← byteAt bytes offset
      match ← readDerLength bytes (offset + 1) with
      | .error e => return failureFrom e
      | .ok (length, offset) =>
        if sizeAdd offset length > bytes.length then
          return failure .protocolUnsupported "SPNEGO DER value is truncated."
        else
          let content ← copyRange bytes offset length
          if tag = kDerOctetString ∧ startsWithNtlmSignature content then
            return .ok content
          else if tag &&& 0x20 ≠ 0 ∨ tag = kDerSequence ∨ tag = kDerApplication0 then
            match ← nested content with
            | .ok token => return .ok token
            | .error e =>
              if e.code ≠ .protocolUnsupported then return .error e
              else findLoop nested bytes fuel (sizeAdd offset length)
          else findLoop nested bytes fuel (sizeAdd offset length)
    else
      return failure .protocolUnsupported "SPNEGO token does not contain NTLMSSP."

/-- Model of `findNtlmOctetString` (SpnegoToken.cpp:97) with `levels` left, which
    is 17 less the depth of the source.  Every turn of the loop takes two bytes at
    least, so it is given one turn more than there are bytes. -/
def findNtlmOctetString : ℕ → ByteVector → Except Fault (DecodeResult ByteVector)
  | 0, _ => .ok (failure .protocolUnsupported "SPNEGO DER nesting is too deep.")
  | levels + 1, bytes =>
    if startsWithNtlmSignature bytes then .ok (.ok bytes)
    else findLoop (findNtlmOctetString levels) bytes (bytes.length + 1) 0

/-- Model of `unwrapSpnegoNtlmToken` (SpnegoToken.cpp:165). -/
def unwrapSpnegoNtlmToken (token : ByteVector) : Except Fault (DecodeResult ByteVector) :=
  findNtlmOctetString 17 token

/-! ## What a depth-first walk comes across -/

/-- An element of a string, or a length that reaches past the machine word. -/
inductive DerItem where
  | value (tag : UInt8) (content : ByteVector)
  | overlong

/-- The elements of `rest`, which lies at `offset`, as far as they are well-formed:
    a length that reaches past the machine word ends them. -/
def derItems : ℕ → ℕ → ByteVector → List DerItem
  | 0, _, _ => []
  | fuel + 1, offset, rest =>
    match derHeader rest with
    | none => []
    | some (tag, size, length) =>
      if 2 ^ 64 ≤ offset + size + length then [.overlong]
      else if rest.length < size + length then []
      else
        .value tag ((rest.drop size).take length) ::
          derItems fuel (offset + size + length) (rest.drop (size + length))

/-- What ends the search: a token or a length past the machine word. -/
inductive Visit where
  | token (bytes : ByteVector)
  | overlong
  deriving DecidableEq

/-- The visits in one element; `below` are those one level down. -/
def DerItem.visits (below : ByteVector → List Visit) : DerItem → List Visit
  | .overlong => [.overlong]
  | .value tag content =>
    if tag = kDerOctetString ∧ startsWithNtlmSignature content then [.token content]
    else if tag &&& 0x20 ≠ 0 ∨ tag = kDerSequence ∨ tag = kDerApplication0 then below content
    else []

/-- All visits of a walk of `levels` levels, the deeper ones in place. -/
def visits : ℕ → ByteVector → List Visit
  | 0, _ => []
  | levels + 1, bytes =>
    if startsWithNtlmSignature bytes then [.token bytes]
    else (derItems (bytes.length + 1) 0 bytes).flatMap (DerItem.visits (visits levels))

/-- What the parser owes the first visit. -/
def Agrees : Option Visit → Except Fault (DecodeResult ByteVector) → Prop
  | some (.token token), r => r = .ok (.ok token)
  | some .overlong, r => r = .error .outside
  | none, r => ∃ e, r = .ok (.error e) ∧ e.code = .protocolUnsupported

/-! ## The parser on the walk -/

theorem byteAt_of_drop {bytes rest : ByteVector} {offset : ℕ} {byte : UInt8}
    (h : bytes.drop offset = byte :: rest) : byteAt bytes offset = .ok byte := by
  have hget : bytes[offset]? = some byte := by
    have := congrArg List.head? h
    rwa [List.head?_drop] at this
  rw [byteAt, hget]

theorem drop_succ_of_drop {bytes rest : ByteVector} {offset : ℕ} {byte : UInt8}
    (h : bytes.drop offset = byte :: rest) : bytes.drop (offset + 1) = rest := by
  rw [← List.drop_drop, h]
  rfl

/-- The loop over the length octets reads their number in the machine word. -/
theorem readLengthOctets_eq {bytes : ByteVector} {count : ℕ} :
    ∀ {offset : ℕ} (length : ℕ), offset + count ≤ bytes.length →
      readLengthOctets bytes count offset (length % 2 ^ 64) =
        .ok ((length * 256 ^ count + beValue ((bytes.drop offset).take count)) % 2 ^ 64) := by
  induction count with
  | zero =>
    intro offset length _
    rw [readLengthOctets, pow_zero, Nat.mul_one, List.take_zero]
    rfl
  | succ count ih =>
    intro offset length h
    have hin : offset < bytes.length := by omega
    have hdrop := List.drop_eq_getElem_cons hin
    have htail : (bytes.drop (offset + 1)).length = bytes.length - (offset + 1) :=
      List.length_drop
    have hlen : ((bytes.drop (offset + 1)).take count).length = count := by
      rw [List.length_take]
      omega
    have hmod : (length % 2 ^ 64 * 256 + bytes[offset].toNat) % 2 ^ 64 =
        (length * 256 + bytes[offset].toNat) % 2 ^ 64 := by omega
    rw [readLengthOctets, byteAt_of_drop hdrop]
    show readLengthOctets bytes count (offset + 1)
      ((length % 2 ^ 64 * 256 + bytes[offset].toNat) % 2 ^ 64) = _
    rw [hmod, ih _ (by omega), hdrop, List.take_succ_cons, beValue_cons, hlen, pow_succ']
    ring_nf

theorem toNat_and_0x7F {b : UInt8} (h : ¬ b.toNat < 0x80) : (b &&& 0x7F).toNat = b.toNat - 0x80 := by
  have hall : ∀ n : Fin 256, ¬ (UInt8.ofFin n).toNat < 0x80 →
      (UInt8.ofFin n &&& 0x7F).toNat = (UInt8.ofFin n).toNat - 0x80 := by
    decide +kernel
  exact hall b.toFin h

/-- Up to eight length octets are read exactly. -/
theorem readLengthOctets_exact {bytes rest : ByteVector} {offset count : ℕ}
    (hrest : bytes.drop offset = rest) (hcount : count ≤ 8) (hle : count ≤ rest.length)
    (hoffset : offset ≤ bytes.length) :
    readLengthOctets bytes count offset 0 = .ok (beValue (rest.take count)) := by
  have hlength : (bytes.drop offset).length = bytes.length - offset := List.length_drop
  rw [hrest] at hlength
  have hlt := beValue_lt (rest.take count)
  rw [List.length_take_of_le hle] at hlt
  have hpow : 256 ^ count ≤ 256 ^ 8 := Nat.pow_le_pow_right (by omega) hcount
  have hmod : beValue (rest.take count) % 2 ^ 64 = beValue (rest.take count) :=
    Nat.mod_eq_of_lt (by omega)
  have hread := readLengthOctets_eq 0 (show offset + count ≤ bytes.length by omega)
  rwa [hrest, Nat.zero_mul, Nat.zero_add, hmod, Nat.zero_mod] at hread

/-- The length octet of a short length. -/
theorem readDerLength_short {bytes rest : ByteVector} {offset : ℕ} {first : UInt8}
    (hrest : bytes.drop offset = first :: rest) (hin : offset < bytes.length)
    (hshort : first.toNat < 0x80) :
    readDerLength bytes offset = .ok (.ok (first.toNat, offset + 1)) := by
  rw [readDerLength, if_neg (not_le.2 hin), byteAt_of_drop hrest]
  exact if_pos ((and_0x80_eq_zero first).2 hshort)

/-- The length octets of a long length. -/
theorem readDerLength_long {bytes rest : ByteVector} {offset : ℕ} {first : UInt8}
    (hrest : bytes.drop offset = first :: rest) (hin : offset < bytes.length)
    (hlong : ¬ first.toNat < 0x80) :
    readDerLength bytes offset =
      if first.toNat - 0x80 = 0 ∨ first.toNat - 0x80 > 8 ∨
          sizeAdd (offset + 1) (first.toNat - 0x80) > bytes.length then
        .ok (failure .protocolUnsupported "SPNEGO DER length is invalid.")
      else do
        let length ← readLengthOctets bytes (first.toNat - 0x80) (offset + 1) 0
        return .ok (length, offset + 1 + (first.toNat - 0x80)) := by
  have hbit : ¬ first &&& 0x80 = 0 := by
    intro h
    exact hlong ((and_0x80_eq_zero first).1 h)
  rw [readDerLength, if_neg (not_le.2 hin), byteAt_of_drop hrest, ← toNat_and_0x7F hlong]
  exact if_neg hbit

/-- What the code makes of the bytes at `offset`, by their header. -/
def ReadsHeader (bytes : ByteVector) (offset : ℕ) : Option (UInt8 × ℕ × ℕ) → Prop
  | none => ∃ e, readDerLength bytes (offset + 1) = .ok (.error e) ∧ e.code = .protocolUnsupported
  | some (tag, size, length) => byteAt bytes offset = .ok tag ∧
      readDerLength bytes (offset + 1) = .ok (.ok (length, offset + size))

/-- The code reads the header of an element, in a string of a `std::vector`. -/
theorem readsHeader {bytes : ByteVector} (hbytes : bytes.length < 2 ^ 63) (offset : ℕ) :
    ReadsHeader bytes offset (derHeader (bytes.drop offset)) := by
  have hlength : (bytes.drop offset).length = bytes.length - offset := List.length_drop
  have htruncated : offset + 1 ≥ bytes.length → ∃ e,
      readDerLength bytes (offset + 1) = .ok (.error e) ∧ e.code = .protocolUnsupported := by
    intro h
    rw [readDerLength, if_pos h]
    exact ⟨_, rfl, rfl⟩
  cases hdrop : bytes.drop offset with
  | nil =>
    rw [hdrop, List.length_nil] at hlength
    exact htruncated (by omega)
  | cons tag rest =>
    have hrest := drop_succ_of_drop hdrop
    cases rest with
    | nil =>
      rw [hdrop] at hlength
      simp only [List.length_cons, List.length_nil] at hlength
      exact htruncated (by omega)
    | cons first rest =>
      have hoctets := drop_succ_of_drop hrest
      rw [hdrop] at hlength
      simp only [List.length_cons] at hlength
      have hin : offset + 1 < bytes.length := by omega
      rw [derHeader]
      by_cases hshort : first.toNat < 0x80
      · rw [if_pos hshort]
        exact ⟨byteAt_of_drop hdrop, readDerLength_short hrest hin hshort⟩
      · have hread := readDerLength_long hrest hin hshort
        rw [if_neg hshort]
        dsimp only
        generalize first.toNat - 0x80 = count at hread ⊢
        have hcheck : (count = 0 ∨ count > 8 ∨ sizeAdd (offset + 1 + 1) count > bytes.length) ↔
            (count = 0 ∨ 8 < count ∨ rest.length < count) := by
          rw [sizeAdd]
          omega
        by_cases hinvalid : count = 0 ∨ 8 < count ∨ rest.length < count
        · rw [if_pos hinvalid]
          rw [if_pos (hcheck.2 hinvalid)] at hread
          exact ⟨_, hread, rfl⟩
        · have hexact := readLengthOctets_exact hoctets (show count ≤ 8 by omega) (by omega)
            (by omega)
          have hoffset : offset + 1 + 1 + count = offset + (2 + count) := by omega
          rw [if_neg hinvalid]
          rw [if_neg (mt hcheck.1 hinvalid), hexact, hoffset] at hread
          exact ⟨byteAt_of_drop hdrop, hread⟩

/-- An offset is not affected by the arithmetic of `size_t` inside the string. -/
theorem sizeAdd_of_lt {a b : ℕ} (h : a + b < 2 ^ 64) : sizeAdd a b = a + b :=
  Nat.mod_eq_of_lt h

/-- One element of the loop whose value lies inside the string. -/
theorem findLoop_value {nested : ByteVector → Except Fault (DecodeResult ByteVector)}
    {below : ByteVector → List Visit} {bytes content : ByteVector} {fuel offset next length : ℕ}
    {tag : UInt8} {later : List Visit} (hin : offset < bytes.length)
    (htag : byteAt bytes offset = .ok tag)
    (hread : readDerLength bytes (offset + 1) = .ok (.ok (length, next)))
    (hadd : sizeAdd next length = next + length) (hle : next + length ≤ bytes.length)
    (hcontent : content = (bytes.drop next).take length)
    (hnested : Agrees (below content).head? (nested content))
    (hlater : Agrees later.head? (findLoop nested bytes fuel (next + length))) :
    Agrees ((DerItem.value tag content).visits below ++ later).head?
      (findLoop nested bytes (fuel + 1) offset) := by
  have hcopy : copyRange bytes next length = .ok content := by
    rw [copyRange, if_pos hle, hcontent]
  have hfits : ¬ sizeAdd next length > bytes.length := by
    rw [hadd]
    omega
  rw [findLoop, if_pos hin, htag, hread]
  show Agrees _ (if sizeAdd next length > bytes.length then _ else _)
  rw [if_neg hfits, hcopy, DerItem.visits, hadd]
  show Agrees _ (if tag = kDerOctetString ∧ startsWithNtlmSignature content = true then _ else _)
  by_cases htoken : tag = kDerOctetString ∧ startsWithNtlmSignature content = true
  · rw [if_pos htoken, if_pos htoken]
    rfl
  · rw [if_neg htoken, if_neg htoken]
    by_cases hdeep : tag &&& 0x20 ≠ 0 ∨ tag = kDerSequence ∨ tag = kDerApplication0
    · rw [if_pos hdeep, if_pos hdeep]
      cases hbelow : below content with
      | nil =>
        rw [hbelow] at hnested
        obtain ⟨e, hresult, hcode⟩ := hnested
        rw [hresult]
        show Agrees _ (if e.code ≠ .protocolUnsupported then _ else _)
        rw [if_neg (not_not.2 hcode)]
        exact hlater
      | cons first visits =>
        rw [hbelow] at hnested
        cases first with
        | token token =>
          have hresult : nested content = .ok (.ok token) := hnested
          rw [hresult]
          rfl
        | overlong =>
          have hresult : nested content = .error .outside := hnested
          rw [hresult]
          rfl
    · rw [if_neg hdeep, if_neg hdeep]
      exact hlater

/-- The loop returns the first visit of the elements still ahead. -/
theorem findLoop_agrees {nested : ByteVector → Except Fault (DecodeResult ByteVector)}
    {below : ByteVector → List Visit}
    (hnested : ∀ content : ByteVector, content.length < 2 ^ 63 →
      Agrees (below content).head? (nested content))
    {bytes : ByteVector} (hbytes : bytes.length < 2 ^ 63) {fuel : ℕ} :
    ∀ {offset : ℕ}, offset ≤ bytes.length → bytes.length < offset + fuel →
      Agrees ((derItems fuel offset (bytes.drop offset)).flatMap (DerItem.visits below)).head?
        (findLoop nested bytes fuel offset) := by
  induction fuel with
  | zero =>
    intro offset hle hfuel
    omega
  | succ fuel ih =>
    intro offset hle hfuel
    have hlength : (bytes.drop offset).length = bytes.length - offset := List.length_drop
    have hheader := readsHeader hbytes offset
    rw [derItems]
    cases hsplit : derHeader (bytes.drop offset) with
    | none =>
      rw [hsplit] at hheader
      obtain ⟨e, hread, hcode⟩ := hheader
      by_cases hin : offset < bytes.length
      · have htag := byteAt_of_drop (List.drop_eq_getElem_cons hin)
        rw [findLoop, if_pos hin, htag, hread]
        exact ⟨_, rfl, hcode⟩
      · rw [findLoop, if_neg hin]
        exact ⟨_, rfl, rfl⟩
    | some header =>
      obtain ⟨tag, size, length⟩ := header
      rw [hsplit] at hheader
      obtain ⟨htag, hread⟩ := hheader
      obtain ⟨hsize, hfits, hlt⟩ := derHeader_size hsplit
      have hin : offset < bytes.length := by omega
      dsimp only
      by_cases hover : 2 ^ 64 ≤ offset + size + length
      · -- The sum wraps around, passes the check and lies before the start of the value.
        have hwrap : ¬ sizeAdd (offset + size) length > bytes.length := by
          rw [sizeAdd]
          omega
        have hcopy : copyRange bytes (offset + size) length = .error .outside := by
          rw [copyRange, if_neg (by omega)]
        rw [if_pos hover, findLoop, if_pos hin, htag, hread]
        show Agrees _ (if sizeAdd (offset + size) length > bytes.length then _ else _)
        rw [if_neg hwrap, hcopy]
        rfl
      · have hadd := sizeAdd_of_lt (not_le.1 hover)
        rw [if_neg hover]
        by_cases hcut : (bytes.drop offset).length < size + length
        · have hcheck : sizeAdd (offset + size) length > bytes.length := by omega
          rw [if_pos hcut, findLoop, if_pos hin, htag, hread]
          show Agrees _ (if sizeAdd (offset + size) length > bytes.length then _ else _)
          rw [if_pos hcheck]
          exact ⟨_, rfl, rfl⟩
        · have hvalue : ((bytes.drop offset).drop size).take length =
              (bytes.drop (offset + size)).take length := by rw [List.drop_drop]
          have hnext : (bytes.drop offset).drop (size + length) =
              bytes.drop (offset + size + length) := by rw [List.drop_drop, Nat.add_assoc]
          have hshort : ((bytes.drop (offset + size)).take length).length < 2 ^ 63 := by
            have := List.length_take_le' length (bytes.drop (offset + size))
            rw [List.length_drop] at this
            omega
          rw [if_neg hcut, List.flatMap_cons, hvalue, hnext]
          exact findLoop_value hin htag hread hadd (by omega) rfl (hnested _ hshort)
            (ih (by omega) (by omega))

/-- The parser returns the first visit of the walk. -/
theorem findNtlmOctetString_scan (levels : ℕ) :
    ∀ bytes : ByteVector, bytes.length < 2 ^ 63 →
      Agrees (visits levels bytes).head? (findNtlmOctetString levels bytes) := by
  induction levels with
  | zero =>
    intro bytes _
    exact ⟨_, rfl, rfl⟩
  | succ levels ih =>
    intro bytes hbytes
    rw [visits, findNtlmOctetString]
    by_cases hsignature : startsWithNtlmSignature bytes = true
    · rw [if_pos hsignature, if_pos hsignature]
      rfl
    · rw [if_neg hsignature, if_neg hsignature]
      exact findLoop_agrees ih hbytes (Nat.zero_le _) (by omega)

/-! ## Safety -/

theorem infix_of_mem_derItems {fuel : ℕ} :
    ∀ {offset : ℕ} {rest : ByteVector} {tag : UInt8} {content : ByteVector},
      DerItem.value tag content ∈ derItems fuel offset rest → content <:+: rest := by
  induction fuel with
  | zero =>
    intro offset rest tag content h
    simp [derItems] at h
  | succ fuel ih =>
    intro offset rest tag content h
    rw [derItems] at h
    cases hheader : derHeader rest with
    | none => simp [hheader] at h
    | some header =>
      obtain ⟨tag', size, length⟩ := header
      simp only [hheader] at h
      split_ifs at h with hover hcut
      · simp at h
      · simp at h
      · rw [List.mem_cons] at h
        rcases h with heq | hmem
        · rw [DerItem.value.injEq] at heq
          rw [heq.2]
          exact (List.take_prefix _ _).isInfix.trans (List.drop_suffix _ _).isInfix
        · exact (ih hmem).trans (List.drop_suffix _ _).isInfix

/-- Every token of the walk is a slice of the string with the signature. -/
theorem token_of_mem_visits {levels : ℕ} :
    ∀ {bytes token : ByteVector}, Visit.token token ∈ visits levels bytes →
      token <:+: bytes ∧ startsWithNtlmSignature token = true := by
  induction levels with
  | zero =>
    intro bytes token h
    simp [visits] at h
  | succ levels ih =>
    intro bytes token h
    rw [visits] at h
    split_ifs at h with hsignature
    · simp only [List.mem_singleton, Visit.token.injEq] at h
      rw [h]
      exact ⟨List.infix_refl _, hsignature⟩
    · obtain ⟨item, hitem, hmem⟩ := List.mem_flatMap.1 h
      cases item with
      | overlong => simp [DerItem.visits] at hmem
      | value tag content =>
        have hcontent := infix_of_mem_derItems hitem
        rw [DerItem.visits] at hmem
        split_ifs at hmem with htoken hdeep
        · simp only [List.mem_singleton, Visit.token.injEq] at hmem
          rw [hmem]
          exact ⟨hcontent, htoken.2⟩
        · obtain ⟨hslice, hstart⟩ := ih hmem
          exact ⟨hslice.trans hcontent, hstart⟩
        · simp at hmem

/-- The run stays inside the string, ends, and returns a slice with the signature
    if it returns a token. -/
def SafeUnwrap (bytes : ByteVector) (r : Except Fault (DecodeResult ByteVector)) : Prop :=
  ∃ result, r = .ok result ∧ ∀ token, result = .ok token →
    token <:+: bytes ∧ startsWithNtlmSignature token = true

/-- The parser is safe exactly if the walk does not come across a length past the
    machine word before the first token.  The bound is that of `std::vector`. -/
theorem unwrapSpnegoNtlmToken_safe_iff (bytes : ByteVector) (h : bytes.length < 2 ^ 63) :
    SafeUnwrap bytes (unwrapSpnegoNtlmToken bytes) ↔
      (visits 17 bytes).head? ≠ some .overlong := by
  have hscan := findNtlmOctetString_scan 17 bytes h
  rw [unwrapSpnegoNtlmToken]
  cases hvisits : (visits 17 bytes).head? with
  | none =>
    rw [hvisits] at hscan
    obtain ⟨e, hresult, -⟩ := hscan
    have hsafe : SafeUnwrap bytes (findNtlmOctetString 17 bytes) := by
      refine ⟨_, hresult, fun token htoken => ?_⟩
      simp at htoken
    simp [hsafe]
  | some visit =>
    rw [hvisits] at hscan
    cases visit with
    | token found =>
      have hresult : findNtlmOctetString 17 bytes = .ok (.ok found) := hscan
      have hslice := token_of_mem_visits (List.mem_of_head? hvisits)
      have hsafe : SafeUnwrap bytes (findNtlmOctetString 17 bytes) := by
        refine ⟨_, hresult, fun token htoken => ?_⟩
        rw [Except.ok.injEq] at htoken
        rwa [← htoken]
      simp [hsafe]
    | overlong =>
      have hresult : findNtlmOctetString 17 bytes = .error .outside := hscan
      have hfault : ¬ SafeUnwrap bytes (findNtlmOctetString 17 bytes) := by
        rintro ⟨result, hok, -⟩
        rw [hresult] at hok
        cases hok
      simp [hfault]

/-- A token inside one sequence. -/
theorem unwrapSpnegoNtlmToken_safe_sequence :
    ([0x30, 10, 0x04, 8] ++ ntlmSignature).length < 2 ^ 63 ∧
      SafeUnwrap ([0x30, 10, 0x04, 8] ++ ntlmSignature)
        (unwrapSpnegoNtlmToken ([0x30, 10, 0x04, 8] ++ ntlmSignature)) :=
  ⟨by decide, (unwrapSpnegoNtlmToken_safe_iff _ (by decide)).2 (by decide +kernel)⟩

/-- The length is 2^64 - 1: added to the offset 10 it wraps to 9. -/
theorem unwrapSpnegoNtlmToken_outside :
    unwrapSpnegoNtlmToken (0x30 :: 0x88 :: List.replicate 8 0xFF) = .error .outside ∧
      ¬ SafeUnwrap (0x30 :: 0x88 :: List.replicate 8 0xFF)
        (unwrapSpnegoNtlmToken (0x30 :: 0x88 :: List.replicate 8 0xFF)) := by
  have hresult : unwrapSpnegoNtlmToken (0x30 :: 0x88 :: List.replicate 8 0xFF) =
      .error .outside := by decide +kernel
  refine ⟨hresult, ?_⟩
  rintro ⟨result, hok, -⟩
  rw [hresult] at hok
  cases hok

end SmbBrowser.Native
