import SmbBrowser.Native.NtlmMessages
import SmbBrowser.Native.TextRoundTrip

/-!
# NTLMv2 responses

Model of `computeNtlmV2Response` (native_smb/NtlmCrypto.cpp) with MD4 and HMAC-MD5
as arbitrary functions, against the responses of MS-NLMP 3.3.2.  The texts are
those of lists of characters, that is, all well-formed UTF-8.

The code upper-cases the user name byte by byte (`uppercaseAscii`), the protocol
with the upper-casing of Unicode, which is a parameter here.

Results:
* `computeNtlmV2Response_chars`: the code follows the protocol with the letters a
  to z upper-cased;
* `followsNlmp_iff`: so it follows the protocol exactly for the user names in which
  no other letter has an upper case.
-/

namespace SmbBrowser.Native

open SmbBrowser.Base

/-- `Digest16` (NtlmCrypto.h:11). -/
abbrev Digest16 := Vector UInt8 16

/-- `NtlmV2ResponseParts` (NtlmCrypto.h:13). -/
structure NtlmV2ResponseParts where
  ntChallengeResponse : ByteVector := []
  lmChallengeResponse : ByteVector := []
  ntProof : Digest16 := Vector.replicate 16 0
  sessionBaseKey : Digest16 := Vector.replicate 16 0
  deriving DecidableEq

/-- Model of `uppercaseAscii` (NtlmCrypto.cpp:58). -/
def uppercaseAscii (text : ByteVector) : ByteVector := text.map toupper

section

variable (md4 : ByteVector → Digest16) (hmacMd5 : ByteVector → ByteVector → Digest16)

/-! ## The code -/

/-- Model of `computeNtlmV2ResponseFromKey` (NtlmCrypto.cpp:83). -/
def computeNtlmV2ResponseFromKey (responseKey : Digest16)
    (serverChallenge clientChallenge : Vector UInt8 8) (timestamp : UInt64)
    (targetInfo : ByteVector) : DecodeResult NtlmV2ResponseParts :=
  let temp := [0x01, 0x01] ++ (u16Le 0 ++ (u32Le 0 ++ (u64Le timestamp ++
    (clientChallenge.toList ++ (u32Le 0 ++ (targetInfo ++ u32Le 0))))))
  let key := responseKey.toList
  let ntProof := hmacMd5 key (serverChallenge.toList ++ temp)
  let lmProof := hmacMd5 key (serverChallenge.toList ++ clientChallenge.toList)
  .ok {
    ntChallengeResponse := ntProof.toList ++ temp
    lmChallengeResponse := lmProof.toList ++ clientChallenge.toList
    ntProof
    sessionBaseKey := hmacMd5 key ntProof.toList }

/-- Model of `ntHash` (NtlmCrypto.cpp:317). -/
def ntHash (password : ByteVector) : Except Exn Digest16 := do
  let utf16Password ← encodeUtf16Le password
  return md4 utf16Password

/-- Model of `ntowfv2` (NtlmCrypto.cpp:332). -/
def ntowfv2 (password user domain : ByteVector) : Except Exn Digest16 := do
  let hash ← ntHash md4 password
  let identity ← encodeUtf16Le (uppercaseAscii user ++ domain)
  return hmacMd5 hash.toList identity

/-- Model of `computeNtlmV2Response` (NtlmCrypto.cpp:355); the overload for a
    `SecretBuffer` (NtlmCrypto.cpp:367) takes the same bytes. -/
def computeNtlmV2Response (password user domain : ByteVector)
    (serverChallenge clientChallenge : Vector UInt8 8) (timestamp : UInt64)
    (targetInfo : ByteVector) : Except Exn (DecodeResult NtlmV2ResponseParts) := do
  let responseKey ← ntowfv2 md4 hmacMd5 password user domain
  return computeNtlmV2ResponseFromKey hmacMd5 responseKey serverChallenge clientChallenge
    timestamp targetInfo

/-! ## The protocol -/

/-- `UNICODE(text)`. -/
def nlmpUnicode (text : List Char) : ByteVector := text.flatMap utf16Le

/-- `Z(n)`. -/
def nlmpZeros (n : ℕ) : ByteVector := List.replicate n 0

/-- `NTOWFv2`: HMAC-MD5 under the MD4 of the password, of the upper-cased user name
    and the domain.  `LMOWFv2` is the same. -/
def nlmpNtowfv2 (uppercase : List Char → List Char) (password user domain : List Char) :
    Digest16 :=
  hmacMd5 (md4 (nlmpUnicode password)).toList (nlmpUnicode (uppercase user ++ domain))

/-- `temp` of `ComputeResponse`: both versions, the time, the client challenge and
    the target info, with zeros between. -/
def nlmpTemp (clientChallenge : Vector UInt8 8) (timestamp : UInt64) (targetInfo : ByteVector) :
    ByteVector :=
  [0x01, 0x01] ++ nlmpZeros 6 ++ leBytes 8 timestamp.toNat ++ clientChallenge.toList ++
    nlmpZeros 4 ++ targetInfo ++ nlmpZeros 4

/-- `NTProofStr`. -/
def nlmpNtProof (responseKey : Digest16) (serverChallenge clientChallenge : Vector UInt8 8)
    (timestamp : UInt64) (targetInfo : ByteVector) : Digest16 :=
  hmacMd5 responseKey.toList
    (serverChallenge.toList ++ nlmpTemp clientChallenge timestamp targetInfo)

/-- `ComputeResponse` for the NTLMv2 authentication. -/
def nlmpResponse (responseKey : Digest16) (serverChallenge clientChallenge : Vector UInt8 8)
    (timestamp : UInt64) (targetInfo : ByteVector) : NtlmV2ResponseParts where
  ntChallengeResponse :=
    (nlmpNtProof hmacMd5 responseKey serverChallenge clientChallenge timestamp targetInfo).toList ++
      nlmpTemp clientChallenge timestamp targetInfo
  lmChallengeResponse :=
    (hmacMd5 responseKey.toList (serverChallenge.toList ++ clientChallenge.toList)).toList ++
      clientChallenge.toList
  ntProof := nlmpNtProof hmacMd5 responseKey serverChallenge clientChallenge timestamp targetInfo
  sessionBaseKey := hmacMd5 responseKey.toList
    (nlmpNtProof hmacMd5 responseKey serverChallenge clientChallenge timestamp targetInfo).toList

theorem computeNtlmV2ResponseFromKey_eq (responseKey : Digest16)
    (serverChallenge clientChallenge : Vector UInt8 8) (timestamp : UInt64)
    (targetInfo : ByteVector) :
    computeNtlmV2ResponseFromKey hmacMd5 responseKey serverChallenge clientChallenge timestamp
        targetInfo =
      .ok (nlmpResponse hmacMd5 responseKey serverChallenge clientChallenge timestamp
        targetInfo) := by
  have htemp : nlmpTemp clientChallenge timestamp targetInfo = [0x01, 0x01] ++ (u16Le 0 ++
      (u32Le 0 ++ (u64Le timestamp ++ (clientChallenge.toList ++ (u32Le 0 ++
      (targetInfo ++ u32Le 0)))))) := by
    have hsix : nlmpZeros 6 = u16Le 0 ++ u32Le 0 := by decide
    have hfour : nlmpZeros 4 = u32Le 0 := by decide
    rw [nlmpTemp, hsix, hfour, u64Le]
    simp only [List.append_assoc]
  rw [computeNtlmV2ResponseFromKey, ← htemp]
  rfl

end

/-! ## Upper-casing -/

/-- The UTF-8 text of a list of characters. -/
def utf8Text (text : List Char) : ByteVector := text.flatMap String.utf8EncodeChar

/-- A byte past ASCII is no letter. -/
theorem toupper_of_le {n : ℕ} (h : 0x80 ≤ n) (h' : n < 0x100) :
    toupper (UInt8.ofNat n) = UInt8.ofNat n := by
  have hnot : ¬ (0x61 ≤ UInt8.ofNat n ∧ UInt8.ofNat n ≤ 0x7A) := by
    rintro ⟨-, hle⟩
    rw [UInt8.le_iff_toNat_le, toNat_ofNat_uint8, Nat.mod_eq_of_lt h'] at hle
    have hlast : (0x7A : UInt8).toNat = 0x7A := rfl
    omega
  rw [toupper, if_neg hnot]

/-- Upper-casing the bytes of a character. -/
theorem map_toupper_utf8EncodeChar (c : Char) :
    (String.utf8EncodeChar c).map toupper = String.utf8EncodeChar c.toUpper := by
  by_cases hascii : c.toNat < 0x80
  · have hall : ∀ n : Fin 0x80, (String.utf8EncodeChar (Char.ofNat n)).map toupper =
        String.utf8EncodeChar (Char.ofNat n).toUpper := by
      decide +kernel
    have hc := hall ⟨c.toNat, hascii⟩
    rwa [Char.ofNat_toNat] at hc
  · have hlower : ¬ ('a'.val ≤ c.val ∧ c.val ≤ 'z'.val) := by
      rintro ⟨-, hle⟩
      have hz : c.toNat ≤ 'z'.toNat := hle
      have hlast : 'z'.toNat = 0x7A := rfl
      omega
    have hkeep : c.toUpper = c := dif_neg hlower
    have hrange := (valid_toNat c).2
    rw [hkeep, ← Utf8Sequence.bytes_ofChar, Utf8Sequence.ofChar, dif_neg hascii]
    split_ifs with htwo hthree
    · simp only [Utf8Sequence.bytes, List.map_cons, List.map_nil]
      rw [toupper_of_le (by omega) (by omega), toupper_of_le (by omega) (by omega)]
    · simp only [Utf8Sequence.bytes, List.map_cons, List.map_nil]
      rw [toupper_of_le (by omega) (by omega), toupper_of_le (by omega) (by omega),
        toupper_of_le (by omega) (by omega)]
    · simp only [Utf8Sequence.bytes, List.map_cons, List.map_nil]
      rw [toupper_of_le (by omega) (by omega), toupper_of_le (by omega) (by omega),
        toupper_of_le (by omega) (by omega), toupper_of_le (by omega) (by omega)]

/-- The byte-wise upper-casing is that of the letters a to z. -/
theorem uppercaseAscii_utf8Text (text : List Char) :
    uppercaseAscii (utf8Text text) = utf8Text (text.map Char.toUpper) := by
  rw [uppercaseAscii, utf8Text, List.map_flatMap, utf8Text, List.flatMap_map]
  congr 1
  funext c
  exact map_toupper_utf8EncodeChar c

/-! ## The code and the protocol -/

/-- The code follows the protocol with the letters a to z upper-cased. -/
theorem computeNtlmV2Response_chars (md4 : ByteVector → Digest16)
    (hmacMd5 : ByteVector → ByteVector → Digest16) (password user domain : List Char)
    (serverChallenge clientChallenge : Vector UInt8 8) (timestamp : UInt64)
    (targetInfo : ByteVector) :
    computeNtlmV2Response md4 hmacMd5 (utf8Text password) (utf8Text user) (utf8Text domain)
        serverChallenge clientChallenge timestamp targetInfo =
      .ok (.ok (nlmpResponse hmacMd5
        (nlmpNtowfv2 md4 hmacMd5 (List.map Char.toUpper) password user domain)
        serverChallenge clientChallenge timestamp targetInfo)) := by
  have hhash : ntHash md4 (utf8Text password) = .ok (md4 (nlmpUnicode password)) := by
    rw [ntHash, utf8Text, encodeUtf16Le_chars]
    rfl
  have hidentity : uppercaseAscii (utf8Text user) ++ utf8Text domain =
      (user.map Char.toUpper ++ domain).flatMap String.utf8EncodeChar := by
    rw [uppercaseAscii_utf8Text, utf8Text, utf8Text, List.flatMap_append]
  have hkey : ntowfv2 md4 hmacMd5 (utf8Text password) (utf8Text user) (utf8Text domain) =
      .ok (nlmpNtowfv2 md4 hmacMd5 (List.map Char.toUpper) password user domain) := by
    rw [ntowfv2, hhash, hidentity, ok_bind, encodeUtf16Le_chars]
    rfl
  rw [computeNtlmV2Response, hkey, ok_bind, computeNtlmV2ResponseFromKey_eq]
  rfl

/-- What is promised about a response: whatever the hash functions, it is the one of
    the protocol with this upper-casing. -/
def FollowsNlmp (uppercase : List Char → List Char) (password user domain : List Char)
    (serverChallenge clientChallenge : Vector UInt8 8) (timestamp : UInt64)
    (targetInfo : ByteVector) : Prop :=
  ∀ md4 hmacMd5, computeNtlmV2Response md4 hmacMd5 (utf8Text password) (utf8Text user)
      (utf8Text domain) serverChallenge clientChallenge timestamp targetInfo =
    .ok (.ok (nlmpResponse hmacMd5 (nlmpNtowfv2 md4 hmacMd5 uppercase password user domain)
      serverChallenge clientChallenge timestamp targetInfo))

/-- Hash functions that keep two identities apart: under the hash of the password
    the HMAC tells them from each other, and under these two results it repeats
    its key. -/
def markedHmac (identity : ByteVector) (key data : ByteVector) : Digest16 :=
  if key = List.replicate 16 0 then
    if data = identity then Vector.replicate 16 1 else Vector.replicate 16 2
  else if key = List.replicate 16 1 then Vector.replicate 16 1
  else Vector.replicate 16 2

/-- Another upper-cased name gives another response. -/
theorem not_followsNlmp {uppercase : List Char → List Char} {password user domain : List Char}
    {serverChallenge clientChallenge : Vector UInt8 8} {timestamp : UInt64}
    {targetInfo : ByteVector} (h : uppercase user ≠ user.map Char.toUpper) :
    ¬ FollowsNlmp uppercase password user domain serverChallenge clientChallenge timestamp
      targetInfo := by
  intro hfollows
  have hidentity : nlmpUnicode (uppercase user ++ domain) ≠
      nlmpUnicode (user.map Char.toUpper ++ domain) := by
    intro heq
    exact h (List.append_cancel_right (flatMap_utf16Le_inj heq))
  generalize hname : nlmpUnicode (user.map Char.toUpper ++ domain) = identity at hidentity
  have hresponse := hfollows (fun _ => Vector.replicate 16 0) (markedHmac identity)
  rw [computeNtlmV2Response_chars] at hresponse
  have hcode : nlmpNtowfv2 (fun _ => Vector.replicate 16 0) (markedHmac identity)
      (List.map Char.toUpper) password user domain = Vector.replicate 16 1 := by
    rw [nlmpNtowfv2, hname, markedHmac, Vector.toList_replicate, if_pos rfl, if_pos rfl]
  have hprotocol : nlmpNtowfv2 (fun _ => Vector.replicate 16 0) (markedHmac identity)
      uppercase password user domain = Vector.replicate 16 2 := by
    rw [nlmpNtowfv2, markedHmac, Vector.toList_replicate, if_pos rfl, if_neg hidentity]
  have hone (data : ByteVector) : markedHmac identity (List.replicate 16 1) data =
      Vector.replicate 16 1 := by
    rw [markedHmac, if_neg (by decide), if_pos rfl]
  have htwo (data : ByteVector) : markedHmac identity (List.replicate 16 2) data =
      Vector.replicate 16 2 := by
    rw [markedHmac, if_neg (by decide), if_neg (by decide)]
  rw [hcode, hprotocol, Except.ok.injEq, Except.ok.injEq] at hresponse
  have hproof := congrArg NtlmV2ResponseParts.ntProof hresponse
  simp only [nlmpResponse, nlmpNtProof, Vector.toList_replicate, hone, htwo] at hproof
  exact absurd hproof (by decide)

/-- The code follows the protocol exactly for the user names whose upper-casing is
    that of the letters a to z. -/
theorem followsNlmp_iff (uppercase : List Char → List Char) (password user domain : List Char)
    (serverChallenge clientChallenge : Vector UInt8 8) (timestamp : UInt64)
    (targetInfo : ByteVector) :
    FollowsNlmp uppercase password user domain serverChallenge clientChallenge timestamp
      targetInfo ↔ uppercase user = user.map Char.toUpper := by
  constructor
  · intro hfollows
    by_contra h
    exact not_followsNlmp h hfollows
  · intro h md4 hmacMd5
    rw [computeNtlmV2Response_chars, nlmpNtowfv2, nlmpNtowfv2, h]

/-- Unicode's upper-casing of the letters up to U+00FF that have one there. -/
def latinUpper (c : Char) : Char :=
  if 0xE0 ≤ c.toNat ∧ c.toNat ≤ 0xFE ∧ c.toNat ≠ 0xF7 then Char.ofNat (c.toNat - 0x20)
  else c.toUpper

/-- The user name `é` is hashed as it is. -/
theorem not_followsNlmp_latin :
    ¬ FollowsNlmp (List.map latinUpper) ['p'] [Char.ofNat 0xE9] [] (Vector.replicate 8 0)
      (Vector.replicate 8 0) 0 [] :=
  not_followsNlmp (by decide)

end SmbBrowser.Native
