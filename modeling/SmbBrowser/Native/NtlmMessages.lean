import SmbBrowser.Native.ResponseBounds
import SmbBrowser.Native.SpnegoToken

/-!
# NTLM messages

Model of native_smb/NtlmMessages.cpp.  A message states in descriptors of eight
bytes where its fields are; the builders compute all offsets before they append
the first byte.

Results:
* `negotiate_laidOut`, `authenticate_laidOut`: the fields are where the descriptors
  say, one after another up to the end;
* `decodeNtlmChallengeMessage_inside`: the decoder reads inside every string;
* `ntlmMessages_layout`: all of it, with what the decoder takes as target info.
-/

namespace SmbBrowser.Native

open SmbBrowser.Base

/-! ## Messages -/

def kNtlmNegotiateMessageType : UInt32 := 0x00000001
def kNtlmChallengeMessageType : UInt32 := 0x00000002
def kNtlmAuthenticateMessageType : UInt32 := 0x00000003

/-- The flags `NtlmNegotiateOptions` starts with (NtlmMessages.h:30). -/
def kNtlmDefaultFlags : UInt32 :=
  0x00000001 ||| 0x00000004 ||| 0x00000010 ||| 0x00000020 ||| 0x00000200 ||| 0x00008000 |||
    0x00080000 ||| 0x00800000 ||| 0x02000000 ||| 0x20000000 ||| 0x40000000 ||| 0x80000000

def kNtlmVersion : Vector UInt8 8 := #v[0x0A, 0, 0, 0, 0, 0, 0, 0x0F]

/-- `NtlmNegotiateOptions` (NtlmMessages.h:27). -/
structure NtlmNegotiateOptions where
  domain : ByteVector := []
  workstation : ByteVector := []
  flags : UInt32 := kNtlmDefaultFlags
  version : Vector UInt8 8 := kNtlmVersion

/-- `NtlmChallengeMessage` (NtlmMessages.h:41). -/
structure NtlmChallengeMessage where
  targetName : ByteVector := []
  flags : UInt32 := 0
  serverChallenge : Vector UInt8 8 := Vector.replicate 8 0
  targetInfo : ByteVector := []
  hasTargetInfo : Bool := false
  deriving DecidableEq

/-- `NtlmAuthenticateOptions` (NtlmMessages.h:49). -/
structure NtlmAuthenticateOptions where
  domain : ByteVector := []
  username : ByteVector := []
  workstation : ByteVector := []
  lmChallengeResponse : ByteVector := []
  ntChallengeResponse : ByteVector := []
  encryptedRandomSessionKey : ByteVector := []
  flags : UInt32 := 0
  version : Vector UInt8 8 := kNtlmVersion
  includeVersion : Bool := true
  includeMic : Bool := false
  mic : Vector UInt8 16 := Vector.replicate 16 0

/-- `std::toupper` of the "C" locale. -/
def toupper (c : UInt8) : UInt8 := if 0x61 ≤ c ∧ c ≤ 0x7A then c - 0x20 else c

/-- Model of `encodeUnicodeUpper` (NtlmMessages.cpp:57). -/
def encodeUnicodeUpper (text : ByteVector) : Except Exn ByteVector :=
  encodeUtf16Le (text.map toupper)

/-- Model of `appendSecurityBuffer` (NtlmMessages.cpp:64). -/
def securityBuffer (length : UInt16) (offset : UInt32) : ByteVector :=
  u16Le length ++ (u16Le length ++ u32Le (if length = 0 then 0 else offset))

/-- Model of `checkedFieldSize` (NtlmMessages.cpp:75). -/
def checkedFieldSize (size : ℕ) (fieldName : String) : Except Exn UInt16 := do
  throwWhen (size > u16Max) ("NTLM " ++ fieldName ++ " field is too large.")
  return UInt16.ofNat size

/-- Model of `readSecurityBuffer` (NtlmMessages.cpp:84). -/
def readSecurityBuffer (bytes : ByteVector) (descriptorOffset : ℕ) : DecodeResult ByteVector :=
  if descriptorOffset + 8 > bytes.length then
    failure .ioError "NTLM security buffer descriptor is truncated."
  else do
    let length ← readU16Le bytes descriptorOffset
    let maxLength ← readU16Le bytes (descriptorOffset + 2)
    let offset ← readU32Le bytes (descriptorOffset + 4)
    if length > maxLength then
      failure .ioError "NTLM security buffer length exceeds max length."
    else if length = 0 then
      return []
    else
      let stop := offset.toNat + length.toNat
      if offset < 32 ∨ stop > bytes.length ∨ stop < offset.toNat then
        failure .ioError "NTLM security buffer is out of bounds."
      else
        readBytes bytes offset.toNat (stop - offset.toNat)

/-- Model of `buildNtlmNegotiateMessage` (NtlmMessages.cpp:112). -/
def buildNtlmNegotiateMessage (options : NtlmNegotiateOptions) : Except Exn ByteVector := do
  let domain ← encodeUnicodeUpper options.domain
  let workstation ← encodeUnicodeUpper options.workstation
  throwWhen (domain.length > u16Max ∨ workstation.length > u16Max)
    "NTLM negotiate identity field is too large."
  let kPayloadOffset := 40
  let domainOffset := UInt32.ofNat kPayloadOffset
  let workstationOffset := UInt32.ofNat (kPayloadOffset + domain.length)
  return ntlmSignature ++ (u32Le kNtlmNegotiateMessageType ++ (u32Le options.flags ++
    (securityBuffer (UInt16.ofNat domain.length) domainOffset ++
    (securityBuffer (UInt16.ofNat workstation.length) workstationOffset ++
    (options.version.toList ++ (domain ++ workstation))))))

/-- Model of `buildNtlmAuthenticateMessage` (NtlmMessages.cpp:142). -/
def buildNtlmAuthenticateMessage (options : NtlmAuthenticateOptions) :
    Except Exn ByteVector := do
  let domain ← encodeUtf16Le options.domain
  let username ← encodeUtf16Le options.username
  let workstation ← encodeUtf16Le options.workstation
  let lmLength ← checkedFieldSize options.lmChallengeResponse.length "LM response"
  let ntLength ← checkedFieldSize options.ntChallengeResponse.length "NT response"
  let domainLength ← checkedFieldSize domain.length "domain"
  let usernameLength ← checkedFieldSize username.length "username"
  let workstationLength ← checkedFieldSize workstation.length "workstation"
  let sessionKeyLength ←
    checkedFieldSize options.encryptedRandomSessionKey.length "encrypted session key"
  let payloadOffset := UInt32.ofNat
    (64 + (if options.includeVersion then 8 else 0) + (if options.includeMic then 16 else 0))
  let domainOffset := payloadOffset
  let usernameOffset := domainOffset + domainLength.toUInt32
  let workstationOffset := usernameOffset + usernameLength.toUInt32
  let lmOffset := workstationOffset + workstationLength.toUInt32
  let ntOffset := lmOffset + lmLength.toUInt32
  let sessionKeyOffset := ntOffset + ntLength.toUInt32
  return ntlmSignature ++ (u32Le kNtlmAuthenticateMessageType ++
    (securityBuffer lmLength lmOffset ++ (securityBuffer ntLength ntOffset ++
    (securityBuffer domainLength domainOffset ++ (securityBuffer usernameLength usernameOffset ++
    (securityBuffer workstationLength workstationOffset ++
    (securityBuffer sessionKeyLength sessionKeyOffset ++ (u32Le options.flags ++
    ((if options.includeVersion then options.version.toList else []) ++
    ((if options.includeMic then options.mic.toList else []) ++
    (domain ++ (username ++ (workstation ++ (options.lmChallengeResponse ++
    (options.ntChallengeResponse ++ options.encryptedRandomSessionKey)))))))))))))))

/-- Model of `decodeNtlmChallengeMessage` (NtlmMessages.cpp:200). -/
def decodeNtlmChallengeMessage (bytes : ByteVector) : DecodeResult NtlmChallengeMessage :=
  if bytes.length < 48 then
    failure .ioError "NTLM CHALLENGE_MESSAGE is shorter than 48 bytes."
  else if ¬ startsWithNtlmSignature bytes then
    failure .protocolUnsupported "Invalid NTLMSSP signature."
  else do
    let type ← readU32Le bytes 8
    if type ≠ kNtlmChallengeMessageType then
      failure .protocolUnsupported "NTLM message is not a CHALLENGE_MESSAGE."
    else
      let targetName ← readSecurityBuffer bytes 12
      let flags ← readU32Le bytes 20
      let targetInfo ← readSecurityBuffer bytes 40
      let serverChallenge ← readBytes bytes 24 8
      let decodedTargetName ← decodeUtf16Le targetName
      return {
        targetName := decodedTargetName
        flags
        serverChallenge := Vector.ofFn fun i => serverChallenge[i.val]?.getD 0
        targetInfo
        hasTargetInfo := !targetInfo.isEmpty }

/-! ## Fields and where they are -/

/-- A field: the place of its descriptor, its own place, and its bytes. -/
structure SecurityField where
  descriptorAt : ℕ
  start : ℕ
  content : ByteVector

/-- The descriptor of a field that is not empty gives its length, twice, and its
    place, and the field is there. -/
def SecurityField.Designated (field : SecurityField) (message : ByteVector) : Prop :=
  field.content ≠ [] →
    readNumber message field.descriptorAt 2 = .ok field.content.length ∧
    readNumber message (field.descriptorAt + 2) 2 = .ok field.content.length ∧
    readNumber message (field.descriptorAt + 4) 4 = .ok field.start ∧
    readBytes message field.start field.content.length = .ok field.content

/-- Fields placed one after another. -/
def placeFields : ℕ → List (ℕ × ByteVector) → List SecurityField
  | _, [] => []
  | start, (descriptorAt, content) :: fields =>
    { descriptorAt, start, content } :: placeFields (start + content.length) fields

/-- The fields are where their descriptors say, behind the fixed part, apart from
    each other, and the message ends with the last. -/
structure LaidOut (message : ByteVector) (payloadOffset : ℕ) (fields : List SecurityField) :
    Prop where
  designated : ∀ field ∈ fields, field.Designated message
  behind : ∀ field ∈ fields, payloadOffset ≤ field.start
  apart : fields.Pairwise fun a b => a.start + a.content.length ≤ b.start
  ends : ∀ field ∈ fields.getLast?, field.start + field.content.length = message.length

theorem start_of_mem_placeFields {fields : List (ℕ × ByteVector)} :
    ∀ {start : ℕ}, ∀ field ∈ placeFields start fields, start ≤ field.start := by
  induction fields with
  | nil =>
    intro start field h
    simp [placeFields] at h
  | cons entry fields ih =>
    intro start field h
    obtain ⟨descriptorAt, content⟩ := entry
    rw [placeFields, List.mem_cons] at h
    rcases h with rfl | hmem
    · exact le_rfl
    · have := ih field hmem
      omega

theorem placeFields_apart {fields : List (ℕ × ByteVector)} :
    ∀ {start : ℕ}, (placeFields start fields).Pairwise
      fun a b => a.start + a.content.length ≤ b.start := by
  induction fields with
  | nil =>
    intro start
    exact List.Pairwise.nil
  | cons entry fields ih =>
    intro start
    obtain ⟨descriptorAt, content⟩ := entry
    rw [placeFields, List.pairwise_cons]
    exact ⟨start_of_mem_placeFields, ih⟩

/-- The last field ends where the payload does. -/
theorem placeFields_ends {fields : List (ℕ × ByteVector)} :
    ∀ {start : ℕ}, ∀ field ∈ (placeFields start fields).getLast?,
      field.start + field.content.length = start + (fields.flatMap Prod.snd).length := by
  induction fields with
  | nil =>
    intro start field h
    simp [placeFields] at h
  | cons entry fields ih =>
    intro start field h
    obtain ⟨descriptorAt, content⟩ := entry
    rw [List.flatMap_cons, List.length_append, ← Nat.add_assoc]
    cases fields with
    | nil =>
      simp only [placeFields, List.getLast?_singleton, Option.mem_def, Option.some.injEq] at h
      rw [← h]
      simp
    | cons next fields =>
      rw [placeFields, placeFields, List.getLast?_cons_cons] at h
      exact ih field h

/-- The payload is in the message where the fields are placed. -/
theorem content_of_mem_placeFields {fields : List (ℕ × ByteVector)} :
    ∀ {start : ℕ} {front : ByteVector}, front.length = start →
      ∀ field ∈ placeFields start fields,
        readBytes (front ++ fields.flatMap Prod.snd) field.start field.content.length =
          .ok field.content := by
  induction fields with
  | nil =>
    intro start front hfront field h
    simp [placeFields] at h
  | cons entry fields ih =>
    intro start front hfront field h
    obtain ⟨descriptorAt, content⟩ := entry
    rw [placeFields, List.mem_cons] at h
    rw [List.flatMap_cons]
    rcases h with rfl | hmem
    · rw [readBytes_skip _ (le_of_eq hfront), hfront, Nat.sub_self, readBytes_here _ rfl]
    · rw [← List.append_assoc]
      exact ih (by rw [List.length_append, hfront]) field hmem

/-- What the descriptor of a field that is not empty says. -/
def SecurityField.Described (field : SecurityField) (message : ByteVector) : Prop :=
  field.content ≠ [] →
    readNumber message field.descriptorAt 2 = .ok field.content.length ∧
    readNumber message (field.descriptorAt + 2) 2 = .ok field.content.length ∧
    readNumber message (field.descriptorAt + 4) 4 = .ok field.start

/-- Described fields in the payload of a message. -/
theorem laidOut_of_described {message front : ByteVector} {payloadOffset : ℕ}
    {fields : List (ℕ × ByteVector)} (hmessage : message = front ++ fields.flatMap Prod.snd)
    (hfront : front.length = payloadOffset)
    (h : ∀ field ∈ placeFields payloadOffset fields, field.Described message) :
    LaidOut message payloadOffset (placeFields payloadOffset fields) where
  designated field hfield hne := by
    obtain ⟨hlength, hmaxLength, hoffset⟩ := h field hfield hne
    have hcontent := content_of_mem_placeFields hfront field hfield
    rw [← hmessage] at hcontent
    exact ⟨hlength, hmaxLength, hoffset, hcontent⟩
  behind := start_of_mem_placeFields
  apart := placeFields_apart
  ends field hfield := by
    rw [placeFields_ends field hfield, hmessage, List.length_append, hfront]

@[simp] theorem length_ntlmSignature : ntlmSignature.length = 8 := rfl

@[simp] theorem length_securityBuffer (length : UInt16) (offset : UInt32) :
    (securityBuffer length offset).length = 8 := by
  simp [securityBuffer]

/-- The descriptor of one field. -/
theorem described_of_eq {message front rest : ByteVector} {length : UInt16} {offset : UInt32}
    {field : SecurityField}
    (hmessage : message = front ++ (securityBuffer length offset ++ rest))
    (hfront : front.length = field.descriptorAt) (hlength : length.toNat = field.content.length)
    (hoffset : offset.toNat = field.start) : field.Described message := by
  intro hne
  have hpos : 0 < field.content.length := List.length_pos_iff.2 hne
  have hzero : ¬ length = 0 := by
    intro h
    rw [h] at hlength
    have hnone : (0 : UInt16).toNat = 0 := rfl
    omega
  have hbytes : message = front ++ (u16Le length ++ (u16Le length ++ (u32Le offset ++ rest))) := by
    rw [hmessage, securityBuffer, if_neg hzero]
    simp only [List.append_assoc]
  rw [hbytes, ← hfront, ← hlength, ← hoffset]
  refine ⟨?_, ?_, ?_⟩
  · rw [readNumber_skip _ le_rfl, Nat.sub_self, readNumber_u16Le]
  · rw [readNumber_skip _ (by omega), readNumber_skip _ (by simp)]
    simp
  · rw [readNumber_skip _ (by omega), readNumber_skip _ (by simp), readNumber_skip _ (by simp)]
    simp

/-- The descriptors of a message follow each other. -/
theorem described_at {message front rest : ByteVector} {descriptors : List (UInt16 × UInt32)}
    {i : ℕ} {length : UInt16} {offset : UInt32} {field : SecurityField}
    (hmessage : message =
      front ++ (descriptors.flatMap (fun d => securityBuffer d.1 d.2) ++ rest))
    (hi : descriptors[i]? = some (length, offset))
    (hat : field.descriptorAt = front.length + 8 * i)
    (hlength : length.toNat = field.content.length) (hoffset : offset.toNat = field.start) :
    field.Described message := by
  obtain ⟨hlt, hget⟩ := List.getElem?_eq_some_iff.1 hi
  have hsplit : descriptors = descriptors.take i ++ (length, offset) :: descriptors.drop (i + 1) := by
    rw [← hget, List.getElem_cons_drop, List.take_append_drop]
  have hbefore (l : List (UInt16 × UInt32)) :
      (l.flatMap fun d => securityBuffer d.1 d.2).length = 8 * l.length := by
    simp [List.length_flatMap, Nat.mul_comm]
  have hbytes : message = (front ++ (descriptors.take i).flatMap fun d => securityBuffer d.1 d.2) ++
      (securityBuffer length offset ++
        ((descriptors.drop (i + 1)).flatMap (fun d => securityBuffer d.1 d.2) ++ rest)) := by
    rw [hmessage]
    conv_lhs => rw [hsplit]
    simp only [List.flatMap_append, List.flatMap_cons, List.append_assoc]
  refine described_of_eq hbytes ?_ hlength hoffset
  rw [List.length_append, hbefore, List.length_take, Nat.min_eq_left hlt.le, hat]

/-! ## The builders -/

theorem toNat_of_checkedFieldSize {size : ℕ} {fieldName : String} {length : UInt16}
    (h : checkedFieldSize size fieldName = .ok length) : length.toNat = size ∧ size < 2 ^ 16 := by
  simp only [checkedFieldSize, bind_eq_ok, pure_eq_ok, throwWhen_eq_ok] at h
  obtain ⟨-, hfits, rfl⟩ := h
  have hle := le_of_decide_gt hfits
  refine ⟨toNat_u16_ofNat hle, ?_⟩
  rw [u16Max] at hle
  omega

/-- The offset of the next field, far from the end of 32 bits. -/
theorem toNat_nextOffset {offset : UInt32} (length : UInt16) (h : offset.toNat < 2 ^ 31) :
    (offset + length.toUInt32).toNat = offset.toNat + length.toNat := by
  have hlength := length.toNat_lt
  rw [UInt32.toNat_add, UInt16.toNat_toUInt32]
  exact Nat.mod_eq_of_lt (by omega)

/-- The fields of a NEGOTIATE message with the places of their descriptors. -/
def negotiateFields (domain workstation : ByteVector) : List SecurityField :=
  placeFields 40 [(16, domain), (24, workstation)]

theorem negotiate_laidOut {options : NtlmNegotiateOptions} {message : ByteVector}
    (h : buildNtlmNegotiateMessage options = .ok message) :
    ∃ domain workstation, encodeUnicodeUpper options.domain = .ok domain ∧
      encodeUnicodeUpper options.workstation = .ok workstation ∧
      LaidOut message 40 (negotiateFields domain workstation) := by
  simp only [buildNtlmNegotiateMessage, bind_eq_ok, pure_eq_ok, throwWhen_eq_ok] at h
  obtain ⟨domain, hdomain, workstation, hworkstation, -, hfits, rfl⟩ := h
  have hfits : domain.length ≤ u16Max ∧ workstation.length ≤ u16Max := by
    have := of_decide_eq_false hfits
    omega
  rw [u16Max] at hfits
  refine ⟨domain, workstation, hdomain, hworkstation, ?_⟩
  have hdomainLength : (UInt16.ofNat domain.length).toNat = domain.length :=
    toNat_u16_ofNat hfits.1
  have hworkstationLength : (UInt16.ofNat workstation.length).toNat = workstation.length :=
    toNat_u16_ofNat hfits.2
  have hoffset : (UInt32.ofNat (40 + domain.length)).toNat = 40 + domain.length :=
    toNat_u32_ofNat (by rw [u32Max]; omega)
  generalize hmessage : ntlmSignature ++ _ = message
  have hdescriptors : message = (ntlmSignature ++ (u32Le kNtlmNegotiateMessageType ++
      u32Le options.flags)) ++ ([(UInt16.ofNat domain.length, UInt32.ofNat 40),
        (UInt16.ofNat workstation.length, UInt32.ofNat (40 + domain.length))].flatMap
          (fun d => securityBuffer d.1 d.2) ++
        (options.version.toList ++ (domain ++ workstation))) := by
    rw [← hmessage]
    simp only [List.flatMap_cons, List.flatMap_nil, List.append_nil, List.append_assoc]
  have hpayload : message = (ntlmSignature ++ (u32Le kNtlmNegotiateMessageType ++
      (u32Le options.flags ++ (securityBuffer (UInt16.ofNat domain.length) (UInt32.ofNat 40) ++
      (securityBuffer (UInt16.ofNat workstation.length) (UInt32.ofNat (40 + domain.length)) ++
        options.version.toList))))) ++ [(16, domain), (24, workstation)].flatMap Prod.snd := by
    rw [← hmessage]
    simp only [List.flatMap_cons, List.flatMap_nil, List.append_nil, List.append_assoc]
  refine laidOut_of_described hpayload (by simp) ?_
  simp only [placeFields, List.forall_mem_cons, List.not_mem_nil, false_implies, implies_true,
    and_true]
  refine ⟨?_, ?_⟩
  · exact described_at (i := 0) hdescriptors rfl (by simp) hdomainLength rfl
  · exact described_at (i := 1) hdescriptors rfl (by simp) hworkstationLength hoffset

/-- Where the payload of an AUTHENTICATE message starts. -/
def authenticatePayloadOffset (options : NtlmAuthenticateOptions) : ℕ :=
  64 + (if options.includeVersion then 8 else 0) + (if options.includeMic then 16 else 0)

/-- The fields of an AUTHENTICATE message in the order of the payload, with the
    places of their descriptors. -/
def authenticateFields (options : NtlmAuthenticateOptions)
    (domain username workstation : ByteVector) : List SecurityField :=
  placeFields (authenticatePayloadOffset options)
    [(28, domain), (36, username), (44, workstation), (12, options.lmChallengeResponse),
      (20, options.ntChallengeResponse), (52, options.encryptedRandomSessionKey)]

theorem authenticate_laidOut {options : NtlmAuthenticateOptions} {message : ByteVector}
    (h : buildNtlmAuthenticateMessage options = .ok message) :
    ∃ domain username workstation, encodeUtf16Le options.domain = .ok domain ∧
      encodeUtf16Le options.username = .ok username ∧
      encodeUtf16Le options.workstation = .ok workstation ∧
      LaidOut message (authenticatePayloadOffset options)
        (authenticateFields options domain username workstation) := by
  simp only [buildNtlmAuthenticateMessage, bind_eq_ok, pure_eq_ok] at h
  obtain ⟨domain, hdomain, username, husername, workstation, hworkstation, lmLength, hlm,
    ntLength, hnt, domainLength, hdomainSize, usernameLength, husernameSize, workstationLength,
    hworkstationSize, sessionKeyLength, hsessionKey, hmessage⟩ := h
  obtain ⟨hlm, hlmLt⟩ := toNat_of_checkedFieldSize hlm
  obtain ⟨hnt, hntLt⟩ := toNat_of_checkedFieldSize hnt
  obtain ⟨hdomainSize, hdomainLt⟩ := toNat_of_checkedFieldSize hdomainSize
  obtain ⟨husernameSize, husernameLt⟩ := toNat_of_checkedFieldSize husernameSize
  obtain ⟨hworkstationSize, hworkstationLt⟩ := toNat_of_checkedFieldSize hworkstationSize
  obtain ⟨hsessionKey, -⟩ := toNat_of_checkedFieldSize hsessionKey
  refine ⟨domain, username, workstation, hdomain, husername, hworkstation, ?_⟩
  have hpayloadLt : authenticatePayloadOffset options ≤ 88 := by
    rw [authenticatePayloadOffset]
    split_ifs <;> omega
  have hdomainOffset : (UInt32.ofNat (authenticatePayloadOffset options)).toNat =
      authenticatePayloadOffset options := toNat_u32_ofNat (by rw [u32Max]; omega)
  rw [← authenticatePayloadOffset] at hmessage
  generalize hpayload : authenticatePayloadOffset options = payloadOffset at *
  generalize UInt32.ofNat payloadOffset = domainOffset at hdomainOffset hmessage
  have husernameOffset := toNat_nextOffset domainLength (by omega :
    domainOffset.toNat < 2 ^ 31)
  generalize domainOffset + domainLength.toUInt32 = usernameOffset at husernameOffset hmessage
  have hworkstationOffset := toNat_nextOffset usernameLength (by omega :
    usernameOffset.toNat < 2 ^ 31)
  generalize usernameOffset + usernameLength.toUInt32 = workstationOffset
    at hworkstationOffset hmessage
  have hlmOffset := toNat_nextOffset workstationLength (by omega :
    workstationOffset.toNat < 2 ^ 31)
  generalize workstationOffset + workstationLength.toUInt32 = lmOffset at hlmOffset hmessage
  have hntOffset := toNat_nextOffset lmLength (by omega : lmOffset.toNat < 2 ^ 31)
  generalize lmOffset + lmLength.toUInt32 = ntOffset at hntOffset hmessage
  have hsessionKeyOffset := toNat_nextOffset ntLength (by omega :
    ntOffset.toNat < 2 ^ 31)
  generalize ntOffset + ntLength.toUInt32 = sessionKeyOffset at hsessionKeyOffset hmessage
  have hdescriptors : message = (ntlmSignature ++ u32Le kNtlmAuthenticateMessageType) ++
      ([(lmLength, lmOffset), (ntLength, ntOffset), (domainLength, domainOffset),
        (usernameLength, usernameOffset), (workstationLength, workstationOffset),
        (sessionKeyLength, sessionKeyOffset)].flatMap (fun d => securityBuffer d.1 d.2) ++
      (u32Le options.flags ++ ((if options.includeVersion then options.version.toList else []) ++
      ((if options.includeMic then options.mic.toList else []) ++
      (domain ++ (username ++ (workstation ++ (options.lmChallengeResponse ++
      (options.ntChallengeResponse ++ options.encryptedRandomSessionKey))))))))) := by
    rw [← hmessage]
    simp only [List.flatMap_cons, List.flatMap_nil, List.append_nil, List.append_assoc]
  have hfields : message = (ntlmSignature ++ (u32Le kNtlmAuthenticateMessageType ++
      (securityBuffer lmLength lmOffset ++ (securityBuffer ntLength ntOffset ++
      (securityBuffer domainLength domainOffset ++ (securityBuffer usernameLength usernameOffset ++
      (securityBuffer workstationLength workstationOffset ++
      (securityBuffer sessionKeyLength sessionKeyOffset ++ (u32Le options.flags ++
      ((if options.includeVersion then options.version.toList else []) ++
      (if options.includeMic then options.mic.toList else []))))))))))) ++
      [(28, domain), (36, username), (44, workstation), (12, options.lmChallengeResponse),
        (20, options.ntChallengeResponse),
        (52, options.encryptedRandomSessionKey)].flatMap Prod.snd := by
    rw [← hmessage]
    simp only [List.flatMap_cons, List.flatMap_nil, List.append_nil, List.append_assoc]
  rw [authenticateFields, hpayload]
  refine laidOut_of_described hfields ?_ ?_
  · rw [← hpayload, authenticatePayloadOffset]
    split_ifs <;> simp
  · simp only [placeFields, List.forall_mem_cons, List.not_mem_nil, false_implies, implies_true,
      and_true]
    refine ⟨?_, ?_, ?_, ?_, ?_, ?_⟩
    · exact described_at (i := 2) hdescriptors rfl (by simp) hdomainSize hdomainOffset
    · exact described_at (i := 3) hdescriptors rfl (by simp) husernameSize (by simp; omega)
    · exact described_at (i := 4) hdescriptors rfl (by simp) hworkstationSize (by simp; omega)
    · exact described_at (i := 0) hdescriptors rfl (by simp) hlm (by simp; omega)
    · exact described_at (i := 1) hdescriptors rfl (by simp) hnt (by simp; omega)
    · exact described_at (i := 5) hdescriptors rfl (by simp) hsessionKey (by simp; omega)

/-! ## The decoder -/

theorem readSecurityBuffer_inside (bytes : ByteVector) (descriptorOffset : ℕ) :
    ReadsInside (readSecurityBuffer bytes descriptorOffset) := by
  unfold readSecurityBuffer
  refine .ite (fun _ => (failsWith_failure ..).2 (by decide)) fun hlen => ?_
  simp (disch := omega) only [readU16Le_of_le, readU32Le_of_le, ok_bind]
  refine .ite (fun _ => (failsWith_failure ..).2 (by decide)) fun _ => ?_
  refine .ite (fun _ => failsWith_ok _) fun _ => ?_
  refine .ite (fun _ => (failsWith_failure ..).2 (by decide)) fun hbounds => ?_
  rw [readBytes_of_le (by omega)]
  exact failsWith_ok _

theorem decodeNtlmChallengeMessage_inside (bytes : ByteVector) :
    ReadsInside (decodeNtlmChallengeMessage bytes) := by
  unfold decodeNtlmChallengeMessage
  refine .ite (fun _ => (failsWith_failure ..).2 (by decide)) fun hlen => ?_
  refine .ite (fun _ => (failsWith_failure ..).2 (by decide)) fun _ => ?_
  rw [readU32Le_of_le (by omega), ok_bind]
  refine .ite (fun _ => (failsWith_failure ..).2 (by decide)) fun _ => ?_
  refine (readSecurityBuffer_inside bytes 12).bind fun targetName _ => ?_
  rw [readU32Le_of_le (by omega), ok_bind]
  refine (readSecurityBuffer_inside bytes 40).bind fun targetInfo _ => ?_
  rw [readBytes_of_le (by omega), ok_bind]
  exact (decodeUtf16Le_inside targetName).bind fun _ _ => failsWith_ok _

/-- The slice a descriptor designates. -/
def designatedSlice (bytes : ByteVector) (descriptorOffset : ℕ) : DecodeResult ByteVector := do
  let length ← readNumber bytes descriptorOffset 2
  let offset ← readNumber bytes (descriptorOffset + 4) 4
  if length = 0 then return [] else readBytes bytes offset length

theorem readNumber_of_le {bytes : ByteVector} {off width : ℕ} (h : off + width ≤ bytes.length) :
    readNumber bytes off width = .ok (leValue ((bytes.drop off).take width)) := by
  rw [readNumber, readBytes_of_le h]
  rfl

theorem designatedSlice_of_readSecurityBuffer {bytes content : ByteVector} {descriptorOffset : ℕ}
    (h : readSecurityBuffer bytes descriptorOffset = .ok content) :
    designatedSlice bytes descriptorOffset = .ok content := by
  unfold readSecurityBuffer at h
  split_ifs at h with hlen
  · cases h
  · have hlengthLt := leValue_lt ((bytes.drop descriptorOffset).take 2)
    have hoffsetLt := leValue_lt ((bytes.drop (descriptorOffset + 4)).take 4)
    rw [List.length_take_of_le (by rw [List.length_drop]; omega)] at hlengthLt hoffsetLt
    simp (disch := omega) only [readU16Le_of_le, readU32Le_of_le, ok_bind] at h
    simp (disch := omega) only [designatedSlice, readNumber_of_le, ok_bind]
    generalize leValue ((bytes.drop descriptorOffset).take 2) = length at h hlengthLt ⊢
    generalize leValue ((bytes.drop (descriptorOffset + 4)).take 4) = offset at h hoffsetLt ⊢
    have hlength : (UInt16.ofNat length).toNat = length := toNat_u16_ofNat (by rw [u16Max]; omega)
    have hoffset : (UInt32.ofNat offset).toNat = offset := toNat_u32_ofNat (by rw [u32Max]; omega)
    have hzero : UInt16.ofNat length = 0 ↔ length = 0 := by
      rw [← UInt16.toNat_inj, hlength]
      rfl
    split_ifs at h with hmax hnone hbounds
    · cases h
    · rw [if_pos (hzero.1 hnone)]
      exact h
    · cases h
    · rw [hlength, hoffset, Nat.add_sub_cancel_left] at h
      rw [if_neg (fun hnil => hnone (hzero.2 hnil))]
      exact h

/-- The target info the decoder returns is the slice its descriptor designates. -/
theorem targetInfo_of_decodeNtlmChallengeMessage {bytes : ByteVector}
    {message : NtlmChallengeMessage} (h : decodeNtlmChallengeMessage bytes = .ok message) :
    designatedSlice bytes 40 = .ok message.targetInfo := by
  unfold decodeNtlmChallengeMessage at h
  split_ifs at h with hlen hsignature
  · cases h
  · obtain ⟨type, -, h⟩ := bind_eq_ok.1 h
    split_ifs at h with htype
    · cases h
    · simp only [bind_eq_ok, pure_eq_ok] at h
      obtain ⟨targetName, -, flags, -, targetInfo, htarget, serverChallenge, -, name, -, rfl⟩ := h
      exact designatedSlice_of_readSecurityBuffer htarget
  · cases h

/-- The layout of all three messages. -/
theorem ntlmMessages_layout :
    (∀ options message, buildNtlmNegotiateMessage options = .ok message →
      ∃ domain workstation, encodeUnicodeUpper options.domain = .ok domain ∧
        encodeUnicodeUpper options.workstation = .ok workstation ∧
        LaidOut message 40 (negotiateFields domain workstation)) ∧
    (∀ options message, buildNtlmAuthenticateMessage options = .ok message →
      ∃ domain username workstation, encodeUtf16Le options.domain = .ok domain ∧
        encodeUtf16Le options.username = .ok username ∧
        encodeUtf16Le options.workstation = .ok workstation ∧
        LaidOut message (authenticatePayloadOffset options)
          (authenticateFields options domain username workstation)) ∧
    (∀ bytes, ReadsInside (decodeNtlmChallengeMessage bytes) ∧
      ∀ message, decodeNtlmChallengeMessage bytes = .ok message →
        designatedSlice bytes 40 = .ok message.targetInfo) := by
  refine ⟨?_, ?_, ?_⟩
  · intro options message h
    exact negotiate_laidOut h
  · intro options message h
    exact authenticate_laidOut h
  · intro bytes
    refine ⟨decodeNtlmChallengeMessage_inside bytes, ?_⟩
    intro message h
    exact targetInfo_of_decodeNtlmChallengeMessage h

/-- A domain of one letter, a user of one letter with an LM response of one byte,
    and a challenge with two bytes of target info. -/
theorem ntlmMessages_layout_short :
    (∃ domain workstation, encodeUnicodeUpper (ascii "a") = .ok domain ∧
      encodeUnicodeUpper [] = .ok workstation ∧
      LaidOut (ntlmSignature ++ [1, 0, 0, 0, 53, 130, 136, 226, 2, 0, 2, 0, 40, 0, 0, 0] ++
        List.replicate 8 0 ++ [10, 0, 0, 0, 0, 0, 0, 15, 65, 0]) 40
        (negotiateFields domain workstation)) ∧
    (∃ domain username workstation, encodeUtf16Le [] = .ok domain ∧
      encodeUtf16Le (ascii "u") = .ok username ∧ encodeUtf16Le [] = .ok workstation ∧
      LaidOut (ntlmSignature ++ [3, 0, 0, 0, 1, 0, 1, 0, 66, 0, 0, 0] ++ List.replicate 16 0 ++
        [2, 0, 2, 0, 64, 0, 0, 0] ++ List.replicate 20 0 ++ [117, 0, 7])
        (authenticatePayloadOffset
          { username := ascii "u", lmChallengeResponse := [7], includeVersion := false })
        (authenticateFields
          { username := ascii "u", lmChallengeResponse := [7], includeVersion := false }
          domain username workstation)) ∧
    designatedSlice (ntlmSignature ++ [2, 0, 0, 0] ++ List.replicate 8 0 ++ [1, 0, 0, 0] ++
      List.replicate 16 0 ++ [2, 0, 2, 0, 48, 0, 0, 0, 9, 8]) 40 = .ok [9, 8] :=
  ⟨ntlmMessages_layout.1 { domain := ascii "a" } _ (by decide +kernel),
    ntlmMessages_layout.2.1
      { username := ascii "u", lmChallengeResponse := [7], includeVersion := false } _
      (by decide +kernel),
    (ntlmMessages_layout.2.2 _).2
      { flags := 1, targetInfo := [9, 8], hasTargetInfo := true } (by decide +kernel)⟩

end SmbBrowser.Native
