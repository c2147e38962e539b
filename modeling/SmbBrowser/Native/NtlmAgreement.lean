import SmbBrowser.Crypto.HashCollisions
import SmbBrowser.Native.NtlmV2TokenProvider
import SmbBrowser.Native.Reading

/-!
# Agreement with an NTLM server

The server of MS-NLMP sends a CHALLENGE message, reads the fields of the
AUTHENTICATE message through their descriptors, and computes the proof from the
password of its account.

Results:
* `unwrap_challengeToken`, `decode_challengeMessage`: the provider finds the server's
  CHALLENGE message in its token and decodes it;
* `authenticate_read`: the server reads the fields that the provider wrote;
* `proof_separates`: proofs for two passwords or two challenges are one only if hashes
  collide;
* `nextToken_authenticates`: the server accepts the provider's reply and has its session
  base key, and no other account or challenge goes with the reply unless hashes collide.
-/

namespace SmbBrowser.Native

open SmbBrowser.Base

/-! ## The server -/

/-- A field descriptor: length, maximal length and offset. -/
def nlmpFields (length offset : ℕ) : ByteVector :=
  leBytes 2 length ++ (leBytes 2 length ++ leBytes 4 offset)

/-- The payload a descriptor designates. -/
def nlmpPayload (message : ByteVector) (descriptor : ℕ) : Option ByteVector := do
  let length ← slice message descriptor 2
  let offset ← slice message (descriptor + 4) 4
  slice message (leValue offset) (leValue length)

/-- What a server sends in its challenge, and its upper-casing of user names. -/
structure NlmpServer where
  challenge : Vector UInt8 8
  flags : UInt32
  targetName : List Char
  targetInfo : ByteVector
  uppercase : List Char → List Char

/-- An account the server knows. -/
@[ext] structure NlmpAccount where
  user : List Char
  domain : List Char
  password : List Char

/-- An accepted authentication: the session base key, and whether the client exchanged
    another key under it. -/
structure NlmpSession where
  sessionBaseKey : Digest16
  keyExchange : Bool
  deriving DecidableEq

namespace NlmpServer

variable (server : NlmpServer)

/-- The CHALLENGE message (MS-NLMP 2.2.1.2). -/
def challengeMessage : ByteVector :=
  ntlmSignature ++ (leBytes 4 2 ++ (nlmpFields (nlmpUnicode server.targetName).length 56 ++
    (leBytes 4 server.flags.toNat ++ (server.challenge.toList ++ (nlmpZeros 8 ++
    (nlmpFields server.targetInfo.length (56 + (nlmpUnicode server.targetName).length) ++
    (nlmpZeros 8 ++ (nlmpUnicode server.targetName ++ server.targetInfo))))))))

/-- The SPNEGO token with the message: state accept-incomplete, NTLM, and the message as
    response token. -/
def challengeToken : ByteVector :=
  derElement kDerContext1 (derElement kDerSequence (derElements
    [(kDerContext0, derElement 0x0A [1]), (kDerContext1, derElement kDerObjectIdentifier kNtlmOid),
      (kDerContext2, derElement kDerOctetString server.challengeMessage)]))

/-- `NTOWFv2` of an account. -/
def responseKey (account : NlmpAccount) : Digest16 :=
  nlmpNtowfv2 md4 hmacMd5 server.uppercase account.password account.user account.domain

/-- The check of an AUTHENTICATE message against an account (MS-NLMP 3.2.5.1.2): the
    names are those of the account, and the response starts with the proof over the
    server's challenge and the rest of it. -/
def accepts (account : NlmpAccount) (message : ByteVector) : Option NlmpSession := do
  let front ← slice message 0 12
  let domain ← nlmpPayload message 28
  let user ← nlmpPayload message 36
  let response ← nlmpPayload message 20
  let flags ← slice message 60 4
  let key := (server.responseKey account).toList
  if front = ntlmSignature ++ leBytes 4 3 ∧ domain = nlmpUnicode account.domain ∧
      user = nlmpUnicode account.user ∧
      (hmacMd5 key (server.challenge.toList ++ response.drop 16)).toList = response.take 16 then
    some {
      sessionBaseKey := hmacMd5 key (response.take 16)
      keyExchange := UInt32.ofNat (leValue flags) &&& kNtlmNegotiateKeyExchange ≠ 0 }
  else none

end NlmpServer

/-! ## The challenge -/

section

variable {message content : ByteVector} {descriptor offset : ℕ}

/-- A descriptor of the server and its payload are read. -/
theorem readSecurityBuffer_fields (h : StandsAt message descriptor
    (nlmpFields content.length offset)) (hcontent : StandsAt message offset content)
    (hlength : content.length < 2 ^ 16) (hoffset : 32 ≤ offset) (hmax : offset < 2 ^ 32) :
    readSecurityBuffer message descriptor = .ok content := by
  have hle := h.length_le
  have hinside := hcontent.length_le
  simp only [nlmpFields, standsAt_append, length_leBytes] at h
  obtain ⟨hlen, hmaxLen, hoff⟩ := h
  have hsize : (UInt16.ofNat content.length).toNat = content.length :=
    toNat_u16_ofNat (by rw [u16Max]; omega)
  have hplace : (UInt32.ofNat offset).toNat = offset :=
    toNat_u32_ofNat (by rw [u32Max]; omega)
  have hlen' : StandsAt message descriptor (u16Le (UInt16.ofNat content.length)) := by
    rwa [u16Le, hsize]
  have hmaxLen' : StandsAt message (descriptor + 2) (u16Le (UInt16.ofNat content.length)) := by
    rwa [u16Le, hsize]
  have hoff' : StandsAt message (descriptor + 4) (u32Le (UInt32.ofNat offset)) := by
    rwa [u32Le, hplace]
  simp only [nlmpFields, List.length_append, length_leBytes] at hle
  unfold readSecurityBuffer
  rw [if_neg (by omega), readU16Le_standsAt hlen', ok_bind, readU16Le_standsAt hmaxLen', ok_bind,
    readU32Le_standsAt hoff', ok_bind]
  dsimp only
  rw [if_neg (by simp)]
  by_cases hempty : content = []
  · subst hempty
    rfl
  · have hpos := List.length_pos_iff.2 hempty
    rw [if_neg, if_neg, hsize, hplace, Nat.add_sub_cancel_left]
    · exact readBytes_standsAt hcontent
    · rw [hsize, hplace]
      rintro (hsmall | hlarge)
      · rw [UInt32.lt_iff_toNat_lt, hplace] at hsmall
        have h32 : (32 : UInt32).toNat = 32 := rfl
        omega
      · omega
    · intro hzero
      rw [hzero] at hsize
      have h0 : (0 : UInt16).toNat = 0 := rfl
      omega

end

theorem length_nlmpFields (length offset : ℕ) : (nlmpFields length offset).length = 8 := by
  simp [nlmpFields]

theorem length_nlmpZeros (n : ℕ) : (nlmpZeros n).length = n := List.length_replicate ..

theorem startsWith_challengeMessage (server : NlmpServer) :
    startsWithNtlmSignature server.challengeMessage = true := by
  have htake : server.challengeMessage.take 8 = ntlmSignature :=
    List.take_left' length_ntlmSignature
  simp [startsWithNtlmSignature, htake]

/-- The fields of the challenge. -/
def NlmpServer.challengeFields (server : NlmpServer) : NtlmChallengeMessage where
  targetName := utf8Text server.targetName
  flags := server.flags
  serverChallenge := server.challenge
  targetInfo := server.targetInfo
  hasTargetInfo := !server.targetInfo.isEmpty

/-- **The challenge** of a server is decoded. -/
theorem decode_challengeMessage (server : NlmpServer)
    (hname : (nlmpUnicode server.targetName).length < 2 ^ 16)
    (hinfo : server.targetInfo.length < 2 ^ 16) :
    decodeNtlmChallengeMessage server.challengeMessage = .ok server.challengeFields := by
  have hwhole : StandsAt server.challengeMessage 0 server.challengeMessage :=
    ⟨[], [], by simp, rfl⟩
  have hle := hwhole.length_le
  conv at hwhole => arg 3; rw [NlmpServer.challengeMessage]
  simp only [standsAt_append, length_ntlmSignature, length_leBytes, length_nlmpFields,
    Vector.length_toList, length_nlmpZeros, Nat.zero_add, Nat.reduceAdd] at hwhole
  obtain ⟨-, htype, hnameFields, hflags, hchallenge, -, hinfoFields, -, hnameAt, hinfoAt⟩ := hwhole
  have htype' : StandsAt server.challengeMessage 8 (u32Le kNtlmChallengeMessageType) := htype
  have hflags' : StandsAt server.challengeMessage 20 (u32Le server.flags) := hflags
  have hinside := hinfoAt.length_le
  unfold decodeNtlmChallengeMessage
  rw [if_neg (by omega), if_neg, readU32Le_standsAt htype', ok_bind]
  · rw [if_neg (by simp), readSecurityBuffer_fields hnameFields hnameAt hname (by omega) (by omega),
      ok_bind, readU32Le_standsAt hflags', ok_bind,
      readSecurityBuffer_fields hinfoFields hinfoAt hinfo (by omega) (by omega), ok_bind]
    have hbytes : readBytes server.challengeMessage 24 8 = .ok server.challenge.toList := by
      have := readBytes_standsAt hchallenge
      rwa [Vector.length_toList] at this
    rw [hbytes, ok_bind, nlmpUnicode, decodeUtf16Le_chars, ok_bind]
    have hvector : (Vector.ofFn fun i : Fin 8 => (server.challenge.toList)[i.val]?.getD 0) =
        server.challenge := by
      ext i hi
      simp
    rw [hvector]
    rfl
  · exact not_not_intro (startsWith_challengeMessage server)

/-! ## The SPNEGO token -/

theorem length_challengeMessage (server : NlmpServer) :
    server.challengeMessage.length =
      56 + (nlmpUnicode server.targetName).length + server.targetInfo.length := by
  simp only [NlmpServer.challengeMessage, List.length_append, length_ntlmSignature,
    length_leBytes, length_nlmpFields, Vector.length_toList, length_nlmpZeros]
  omega

/-- The state and the mechanism hold no octet string; the message is the one visit. -/
theorem visits_challengeToken {levels : ℕ} (server : NlmpServer)
    (h : server.challengeToken.length < 2 ^ 64) :
    visits (levels + 4) server.challengeToken = [.token server.challengeMessage] := by
  have hsignature := startsWith_challengeMessage server
  have hstate : (DerItem.value kDerContext0 (derElement 0x0A [1])).visits
      (visits (levels + 1)) = [] := by
    rw [visits_constructed _ (by decide), visits_one (by decide) (by decide)]
    rfl
  have hmechanism : (DerItem.value kDerContext1 (derElement kDerObjectIdentifier kNtlmOid)).visits
      (visits (levels + 1)) = [] := by
    rw [visits_constructed _ (by decide), visits_one (by decide) (by decide)]
    rfl
  rw [NlmpServer.challengeToken] at h ⊢
  generalize helements : derElements [(kDerContext0, derElement 0x0A [1]),
    (kDerContext1, derElement kDerObjectIdentifier kNtlmOid),
    (kDerContext2, derElement kDerOctetString server.challengeMessage)] = elements at h ⊢
  have hsequence := length_content_lt kDerContext1 (derElement kDerSequence elements)
  have hcontent := length_content_lt kDerSequence elements
  rw [visits_one (by decide) h, visits_constructed _ (by decide),
    visits_one (by decide) (by omega), visits_constructed _ (by decide)]
  have hlength : elements.length < 2 ^ 64 := by omega
  rw [← helements] at hlength ⊢
  rw [visits_elements (by decide) hlength]
  simp only [derElements_cons, derElements_nil, List.append_nil, List.length_append] at hlength
  have htoken := length_content_lt kDerContext2 (derElement kDerOctetString server.challengeMessage)
  simp only [List.flatMap_cons, List.flatMap_nil, hstate, hmechanism, List.nil_append,
    visits_mechToken hsignature (by omega : (derElement kDerOctetString
      server.challengeMessage).length < 2 ^ 64), List.append_nil]

/-- **The token** of a server is unwrapped. -/
theorem unwrap_challengeToken (server : NlmpServer)
    (h : server.challengeToken.length < 2 ^ 63) :
    unwrapSpnegoNtlmToken server.challengeToken = .ok (.ok server.challengeMessage) :=
  unwrap_of_visits h (visits_challengeToken server (by omega))

theorem length_derElement_le (tag : UInt8) (content : ByteVector) :
    (derElement tag content).length ≤ content.length + 10 := by
  have hlow := length_lowBytes_le 8 content.length
  have hlength : (derLength content.length).length ≤ 9 := by
    unfold derLength
    split
    · rw [List.length_singleton]
      omega
    · dsimp only
      rw [List.length_cons, List.length_reverse]
      omega
  rw [length_derElement]
  omega

/-! ## The reply -/

section

variable {message : ByteVector}

/-- The server finds a field that the message designates. -/
theorem nlmpPayload_designated {length : UInt16} {offset : UInt32} {field : SecurityField}
    (hdescriptor : StandsAt message field.descriptorAt (securityBuffer length offset))
    (hlength : length.toNat = field.content.length) (h : field.Designated message) :
    nlmpPayload message field.descriptorAt = some field.content := by
  rw [securityBuffer, standsAt_append, standsAt_append, length_u16Le, Nat.add_assoc] at hdescriptor
  obtain ⟨hlen, -, hoff⟩ := hdescriptor
  have hlenRead := readBytes_standsAt hlen
  have hoffRead := readBytes_standsAt hoff
  rw [length_u16Le] at hlenRead
  rw [length_u32Le] at hoffRead
  have hlenSlice := slice_eq_some.2 (readBytes_eq_ok.1 hlenRead)
  have hoffSlice := slice_eq_some.2 (readBytes_eq_ok.1 hoffRead)
  unfold nlmpPayload
  rw [hlenSlice]
  show (slice message (field.descriptorAt + (2 + 2)) 4).bind _ = _
  rw [hoffSlice, Option.bind_some]
  by_cases hempty : field.content = []
  · have hzero : length = 0 := by
      rw [← UInt16.toNat_inj, hlength, hempty]
      rfl
    have hnothing : slice message 0 0 = some [] := slice_of_le (Nat.zero_le _)
    rw [hzero, hempty, if_pos rfl]
    exact hnothing
  · obtain ⟨hcount, -, hplace, hcontent⟩ := h hempty
    have hplace' : readNumber message (field.descriptorAt + (2 + 2)) 4 = .ok field.start := hplace
    rw [readNumber, hlenRead] at hcount
    rw [readNumber, hoffRead] at hplace'
    rw [Except.ok.inj hcount, Except.ok.inj hplace']
    exact slice_eq_some.2 (readBytes_eq_ok.1 hcontent)

variable {options : NtlmAuthenticateOptions} {domain username workstation : ByteVector}

theorem checkedFieldSize_of_le {size : ℕ} (fieldName : String) (h : size ≤ u16Max) :
    checkedFieldSize size fieldName = .ok (UInt16.ofNat size) := by
  rw [checkedFieldSize, decide_eq_false (by omega)]
  rfl

/-- A message whose fields fit in their descriptors is built. -/
theorem exists_authenticate (hdomain : encodeUtf16Le options.domain = .ok domain)
    (husername : encodeUtf16Le options.username = .ok username)
    (hworkstation : encodeUtf16Le options.workstation = .ok workstation)
    (hfits : ∀ content ∈ [domain, username, workstation, options.lmChallengeResponse,
      options.ntChallengeResponse, options.encryptedRandomSessionKey], content.length ≤ u16Max) :
    ∃ message, buildNtlmAuthenticateMessage options = .ok message := by
  simp only [List.forall_mem_cons, List.not_mem_nil, false_implies, implies_true, and_true]
    at hfits
  obtain ⟨hdomainFits, husernameFits, hworkstationFits, hlm, hnt, hkey⟩ := hfits
  unfold buildNtlmAuthenticateMessage
  simp only [hdomain, husername, hworkstation, checkedFieldSize_of_le _ hdomainFits,
    checkedFieldSize_of_le _ husernameFits, checkedFieldSize_of_le _ hworkstationFits,
    checkedFieldSize_of_le _ hlm, checkedFieldSize_of_le _ hnt, checkedFieldSize_of_le _ hkey,
    ok_bind]
  exact ⟨_, rfl⟩

/-- **The reply**: the server reads the fields that the provider wrote. -/
theorem authenticate_read (h : buildNtlmAuthenticateMessage options = .ok message)
    (hdomain : encodeUtf16Le options.domain = .ok domain)
    (husername : encodeUtf16Le options.username = .ok username) :
    slice message 0 12 = some (ntlmSignature ++ leBytes 4 3) ∧
      nlmpPayload message 20 = some options.ntChallengeResponse ∧
      nlmpPayload message 28 = some domain ∧ nlmpPayload message 36 = some username ∧
      slice message 60 4 = some (u32Le options.flags) := by
  obtain ⟨domain', username', workstation, hdomain', husername', -, hlaid⟩ := authenticate_laidOut h
  obtain rfl := Except.ok.inj (hdomain'.symm.trans hdomain)
  obtain rfl := Except.ok.inj (husername'.symm.trans husername)
  have hdesignated := hlaid.designated
  simp only [authenticateFields, placeFields, List.forall_mem_cons] at hdesignated
  obtain ⟨hdomainAt, husernameAt, -, -, hntAt, -⟩ := hdesignated
  simp only [buildNtlmAuthenticateMessage, bind_eq_ok, pure_eq_ok] at h
  obtain ⟨domain, hdomain, username, husername, _, -, lmLength, -, ntLength, hnt, domainLength,
    hdomainSize, usernameLength, husernameSize, _, -, _, -, hmessage⟩ := h
  obtain rfl := Except.ok.inj (hdomain.symm.trans hdomain')
  obtain rfl := Except.ok.inj (husername.symm.trans husername')
  have hwhole : StandsAt message 0 message := ⟨[], [], by simp, rfl⟩
  conv at hwhole => arg 3; rw [← hmessage]
  simp only [standsAt_append, length_ntlmSignature, length_u32Le, length_securityBuffer,
    Nat.zero_add, Nat.reduceAdd] at hwhole
  obtain ⟨hsignature, htype, -, hntDescriptor, hdomainDescriptor, husernameDescriptor, -, -,
    hflags, -⟩ := hwhole
  have hfront : StandsAt message 0 (ntlmSignature ++ leBytes 4 3) :=
    standsAt_append.2 ⟨hsignature, htype⟩
  refine ⟨hfront.slice, ?_, ?_, ?_, hflags.slice⟩
  · exact nlmpPayload_designated hntDescriptor (toNat_of_checkedFieldSize hnt).1 hntAt
  · exact nlmpPayload_designated hdomainDescriptor (toNat_of_checkedFieldSize hdomainSize).1
      hdomainAt
  · exact nlmpPayload_designated husernameDescriptor (toNat_of_checkedFieldSize husernameSize).1
      husernameAt

end

/-! ## The agreement -/

/-- The fields of both messages fit in their descriptors. -/
structure NlmpFits (server : NlmpServer) (account : NlmpAccount) (workstation : List Char) :
    Prop where
  targetName : (nlmpUnicode server.targetName).length ≤ u16Max
  targetInfo : server.targetInfo.length + 48 ≤ u16Max
  user : (nlmpUnicode account.user).length ≤ u16Max
  domain : (nlmpUnicode account.domain).length ≤ u16Max
  workstation : (nlmpUnicode workstation).length ≤ u16Max
  password : (nlmpUnicode account.password).length < 2 ^ 61

namespace NlmpServer

variable {server : NlmpServer} {account other : NlmpAccount} {workstation : List Char}
  {challenge challenge' : Vector UInt8 8} {temp : ByteVector}

/-- The identity whose HMAC is the response key. -/
def identity (server : NlmpServer) (account : NlmpAccount) : ByteVector :=
  nlmpUnicode (server.uppercase account.user ++ account.domain)

/-- The hashes behind the proofs of two accounts for two challenges collide: those of the
    proofs, of the response keys or of the passwords. -/
def HashesCollide (server : NlmpServer) (account other : NlmpAccount)
    (challenge challenge' : Vector UInt8 8) (temp : ByteVector) : Prop :=
  (mdHash md5Block).HmacCollision (server.responseKey account).toList (challenge.toList ++ temp)
      (server.responseKey other).toList (challenge'.toList ++ temp) ∨
    (mdHash md5Block).HmacCollision (md4 (nlmpUnicode account.password)).toList
      (server.identity account) (md4 (nlmpUnicode other.password)).toList
      (server.identity other) ∨
    (mdHash md4Block).Collision (nlmpUnicode account.password) (nlmpUnicode other.password)

theorem length_nlmpUnicode_append (text more : List Char) :
    (nlmpUnicode (text ++ more)).length = (nlmpUnicode text).length + (nlmpUnicode more).length := by
  simp [nlmpUnicode]

/-- A proof for two accounts or two challenges: they have the same password and challenge,
    or the hashes collide. -/
theorem proof_separates (htemp : temp.length < 2 ^ 59)
    (hidentity : (server.identity account).length < 2 ^ 60)
    (hidentity' : (server.identity other).length < 2 ^ 60)
    (hpassword : (nlmpUnicode account.password).length < 2 ^ 61)
    (hpassword' : (nlmpUnicode other.password).length < 2 ^ 61)
    (h : hmacMd5 (server.responseKey account).toList (challenge.toList ++ temp) =
      hmacMd5 (server.responseKey other).toList (challenge'.toList ++ temp)) :
    (account.password = other.password ∧ challenge = challenge') ∨
      server.HashesCollide account other challenge challenge' temp := by
  have hshort : ∀ challenge : Vector UInt8 8, (challenge.toList ++ temp).length < 2 ^ 60 := by
    intro challenge
    rw [List.length_append, Vector.length_toList]
    omega
  have hkeyLength : ∀ key : Digest16, key.toList.length = 16 := fun _ => Vector.length_toList
  have hproof := separatesInputs_hmacMd5 _ _ _ _ (by rw [hkeyLength]; decide)
    (by rw [hkeyLength, hkeyLength]) (hshort challenge) (hshort challenge') h
  rcases hproof with ⟨hkey, hdata⟩ | hcollides
  · have hchallenge : challenge = challenge' := by
      have hlist := List.append_cancel_right hdata
      exact Vector.toList_inj.1 hlist
    have hkeys := separatesInputs_hmacMd5 _ _ _ _ (by rw [hkeyLength]; decide)
      (by rw [hkeyLength, hkeyLength]) hidentity hidentity' (Vector.toList_inj.1 hkey)
    rcases hkeys with ⟨hhash, -⟩ | hcollides
    · have hpasswords := md4_separates hpassword hpassword' (Vector.toList_inj.1 hhash)
      rcases hpasswords with hsame | hcollides
      · exact .inl ⟨flatMap_utf16Le_inj hsame, hchallenge⟩
      · exact .inr (.inr (.inr hcollides))
    · exact .inr (.inr (.inl hcollides))
  · exact .inr (.inl hcollides)

/-- The check of a message whose fields are read. -/
theorem accepts_eq {message domain user proof : ByteVector} {flags : UInt32}
    (hproof : proof.length = 16) (hfront : slice message 0 12 = some (ntlmSignature ++ leBytes 4 3))
    (hresponse : nlmpPayload message 20 = some (proof ++ temp))
    (hdomain : nlmpPayload message 28 = some domain) (huser : nlmpPayload message 36 = some user)
    (hflags : slice message 60 4 = some (u32Le flags)) :
    server.accepts account message =
      if domain = nlmpUnicode account.domain ∧ user = nlmpUnicode account.user ∧
          (hmacMd5 (server.responseKey account).toList (server.challenge.toList ++ temp)).toList =
            proof then
        some {
          sessionBaseKey := hmacMd5 (server.responseKey account).toList proof
          keyExchange := flags &&& kNtlmNegotiateKeyExchange ≠ 0 }
      else none := by
  unfold accepts
  rw [hfront, hresponse, hdomain, huser, hflags]
  dsimp only [Option.bind_eq_bind, Option.bind_some]
  rw [List.take_left' hproof, List.drop_left' hproof, ofNat_leValue_u32Le]
  simp only [true_and]

end NlmpServer

theorem length_nlmpTemp (clientChallenge : Vector UInt8 8) (timestamp : UInt64)
    (targetInfo : ByteVector) :
    (nlmpTemp clientChallenge timestamp targetInfo).length = 32 + targetInfo.length := by
  simp only [nlmpTemp, List.length_append, List.length_cons, List.length_nil, length_nlmpZeros,
    length_leBytes, Vector.length_toList]
  omega

/-- The flags of a reply never ask for a key exchange. -/
theorem authFlagsForChallenge_keyExchange (challengeFlags requestedFlags : UInt32) :
    authFlagsForChallenge challengeFlags requestedFlags &&& kNtlmNegotiateKeyExchange = 0 := by
  rw [authFlagsForChallenge, UInt32.and_assoc, UInt32.not_and_self, UInt32.and_zero]

section

variable {server : NlmpServer} {account : NlmpAccount} {workstation : List Char}
  {provider : NtlmV2TokenProvider} {sources : TokenSources} {config : IdentityConfig}

/-- The rest of the provider's response behind the proof. -/
def replyTemp (server : NlmpServer) (provider : NtlmV2TokenProvider) (sources : TokenSources) :
    ByteVector :=
  nlmpTemp (clientChallengeFromOptions provider.options sources)
    (responseTimestamp provider.options sources
      ((timestampFromTargetInfo server.targetInfo).toOption.getD none)) server.targetInfo

/-- What the server reads in a reply. -/
structure Reads (message : ByteVector) (response : ByteVector) (account : NlmpAccount)
    (flags : UInt32) : Prop where
  front : slice message 0 12 = some (ntlmSignature ++ leBytes 4 3)
  response : nlmpPayload message 20 = some response
  domain : nlmpPayload message 28 = some (nlmpUnicode account.domain)
  user : nlmpPayload message 36 = some (nlmpUnicode account.user)
  flags : slice message 60 4 = some (u32Le flags)

/-- A reply is built, and the server reads it. -/
theorem reply_reads (auth : NtlmAuthenticateOptions) (hfits : NlmpFits server account workstation)
    (hdomain : auth.domain = utf8Text account.domain)
    (huser : auth.username = utf8Text account.user)
    (hworkstation : auth.workstation = utf8Text workstation)
    (hkey : auth.encryptedRandomSessionKey = []) (hlm : auth.lmChallengeResponse.length ≤ u16Max)
    (hnt : auth.ntChallengeResponse.length ≤ u16Max) :
    ∃ message, buildNtlmAuthenticateMessage auth = .ok message ∧
      Reads message auth.ntChallengeResponse account auth.flags := by
  have hencode : ∀ text, encodeUtf16Le (utf8Text text) = .ok (nlmpUnicode text) :=
    encodeUtf16Le_chars
  have hdomain' : encodeUtf16Le auth.domain = .ok (nlmpUnicode account.domain) := by
    rw [hdomain, hencode]
  have huser' : encodeUtf16Le auth.username = .ok (nlmpUnicode account.user) := by
    rw [huser, hencode]
  have hworkstation' : encodeUtf16Le auth.workstation = .ok (nlmpUnicode workstation) := by
    rw [hworkstation, hencode]
  have hkeyLength : auth.encryptedRandomSessionKey.length ≤ u16Max := by
    rw [hkey]
    exact Nat.zero_le _
  obtain ⟨message, hmessage⟩ := exists_authenticate hdomain' huser' hworkstation' (by
    simp only [List.forall_mem_cons, List.not_mem_nil, false_implies, implies_true, and_true]
    exact ⟨hfits.domain, hfits.user, hfits.workstation, hlm, hnt, hkeyLength⟩)
  obtain ⟨hfront, hresponse, hdomainRead, huserRead, hflags⟩ :=
    authenticate_read hmessage hdomain' huser'
  exact ⟨message, hmessage, hfront, hresponse, hdomainRead, huserRead, hflags⟩

/-- The reply as it is sent. -/
def sentReply (provider : NtlmV2TokenProvider) (message : ByteVector) : ByteVector :=
  if provider.options.useSpnego then buildSpnegoNegTokenResp message else message

/-- What the provider knows of the account. -/
structure KnowsAccount (provider : NtlmV2TokenProvider) (config : IdentityConfig)
    (account : NlmpAccount) (workstation : List Char) : Prop where
  identity : authIdentityFromConfig config =
    .ok ⟨utf8Text account.domain, utf8Text account.user, false⟩
  password : provider.password = utf8Text account.password
  workstation : provider.options.workstation = utf8Text workstation

/-- The answer to the server's challenge: the response that the server's key gives. -/
theorem answer_challenge (hfits : NlmpFits server account workstation)
    (hknows : KnowsAccount provider config account workstation)
    (hupper : server.uppercase account.user = account.user.map Char.toUpper)
    (htime : ∃ timestamp, timestampFromTargetInfo server.targetInfo = .ok timestamp)
    (challenge : NtlmChallengeMessage) (hchallenge : challenge.serverChallenge = server.challenge)
    (hinfo : challenge.targetInfo = server.targetInfo) {proof : Digest16}
    (hproof : proof = hmacMd5 (server.responseKey account).toList
      (server.challenge.toList ++ replyTemp server provider sources)) :
    ∃ message, provider.answer sources challenge config =
        (.ok (.ok (sentReply provider message)), { provider with
          sessionBaseKey := hmacMd5 (server.responseKey account).toList proof.toList }) ∧
      Reads message (proof.toList ++ replyTemp server provider sources) account
        (authFlagsForChallenge challenge.flags provider.options.negotiateFlags) := by
  obtain ⟨timestamp, htime⟩ := htime
  have hkey : server.responseKey account = nlmpNtowfv2 md4 hmacMd5 (List.map Char.toUpper)
      account.password account.user account.domain := by
    rw [NlmpServer.responseKey, nlmpNtowfv2, nlmpNtowfv2, hupper]
  have htemp : replyTemp server provider sources =
      nlmpTemp (clientChallengeFromOptions provider.options sources)
        (responseTimestamp provider.options sources timestamp) server.targetInfo := by
    rw [replyTemp, htime]
    rfl
  have hlength := length_nlmpTemp (clientChallengeFromOptions provider.options sources)
    (responseTimestamp provider.options sources timestamp) server.targetInfo
  rw [← htemp] at hlength
  obtain ⟨response, hresponse, hnt, hlm, hsession⟩ : ∃ response,
      computeNtlmV2Response md4 hmacMd5 provider.password (utf8Text account.user)
        (utf8Text account.domain) challenge.serverChallenge
        (clientChallengeFromOptions provider.options sources)
        (responseTimestamp provider.options sources timestamp) server.targetInfo =
          .ok (.ok response) ∧
      response.ntChallengeResponse = proof.toList ++ replyTemp server provider sources ∧
      response.lmChallengeResponse.length = 24 ∧
      response.sessionBaseKey = hmacMd5 (server.responseKey account).toList proof.toList := by
    rw [hknows.password, hchallenge, computeNtlmV2Response_chars, ← hkey, hproof, htemp]
    exact ⟨_, rfl, rfl, by simp [nlmpResponse], rfl⟩
  have hlmFits : (if provider.options.omitLmResponse then []
      else response.lmChallengeResponse).length ≤ u16Max := by
    split
    · exact Nat.zero_le _
    · rw [hlm]
      decide
  have hntFits : response.ntChallengeResponse.length ≤ u16Max := by
    have hinfoFits := hfits.targetInfo
    rw [hnt, List.length_append, Vector.length_toList, hlength]
    omega
  obtain ⟨message, hbuild, hreads⟩ := reply_reads { provider.authenticateOptions
      ⟨utf8Text account.domain, utf8Text account.user, false⟩ challenge.flags with
    ntChallengeResponse := response.ntChallengeResponse
    lmChallengeResponse := if provider.options.omitLmResponse then []
      else response.lmChallengeResponse } hfits rfl rfl hknows.workstation rfl hlmFits hntFits
  refine ⟨message, ?_, hnt ▸ hreads⟩
  unfold NtlmV2TokenProvider.answer
  rw [hinfo, htime, hknows.identity]
  dsimp only
  rw [if_neg Bool.false_ne_true, hresponse]
  dsimp only
  unfold NtlmV2TokenProvider.finish
  rw [hbuild, hsession]
  rfl

/-- Upper-casing at most doubles the UTF-16 bytes. -/
theorem length_nlmpUnicode_toUpper (text : List Char) :
    (nlmpUnicode (text.map Char.toUpper)).length ≤ 2 * (nlmpUnicode text).length := by
  induction text with
  | nil => simp [nlmpUnicode]
  | cons c text ih =>
    have hupper := length_utf16Le c.toUpper
    have hlower := length_utf16Le c
    simp only [nlmpUnicode, List.map_cons, List.flatMap_cons, List.length_append] at ih ⊢
    omega

theorem length_identity_lt (hfits : NlmpFits server account workstation)
    (hupper : server.uppercase account.user = account.user.map Char.toUpper) :
    (server.identity account).length < 2 ^ 60 := by
  have huser := hfits.user
  have hdomain := hfits.domain
  have hdouble := length_nlmpUnicode_toUpper account.user
  rw [u16Max] at huser hdomain
  rw [NlmpServer.identity, hupper, NlmpServer.length_nlmpUnicode_append]
  omega

theorem length_challengeToken_lt (hfits : NlmpFits server account workstation) :
    server.challengeToken.length < 2 ^ 63 := by
  have hname := hfits.targetName
  have hinfo := hfits.targetInfo
  have hmessage := length_challengeMessage server
  have htoken := length_derElement_le kDerContext2
    (derElement kDerOctetString server.challengeMessage)
  have hstring := length_derElement_le kDerOctetString server.challengeMessage
  rw [u16Max] at hname hinfo
  rw [NlmpServer.challengeToken]
  generalize helements : derElements [(kDerContext0, derElement 0x0A [1]),
    (kDerContext1, derElement kDerObjectIdentifier kNtlmOid),
    (kDerContext2, derElement kDerOctetString server.challengeMessage)] = elements
  have hlength : elements.length = 5 + (14 + (derElement kDerContext2
      (derElement kDerOctetString server.challengeMessage)).length) := by
    rw [← helements]
    simp only [derElements_cons, derElements_nil, List.append_nil, List.length_append]
    rfl
  have houter := length_derElement_le kDerContext1 (derElement kDerSequence elements)
  have hsequence := length_derElement_le kDerSequence elements
  omega

/-- The provider's token is unwrapped and decoded up to its answer. -/
theorem nextToken_challenge (hfits : NlmpFits server account workstation)
    {response : SessionSetupResponse} (hresponse : response.securityBuffer =
      if provider.options.useSpnego then server.challengeToken else server.challengeMessage) :
    provider.nextToken sources response config = provider.answer sources server.challengeFields config := by
  have hname := hfits.targetName
  have hinfo := hfits.targetInfo
  rw [u16Max] at hname hinfo
  have hunwrapped : (if provider.options.useSpnego then
      unwrapSpnegoNtlmToken response.securityBuffer else .ok (.ok response.securityBuffer)) =
        .ok (.ok server.challengeMessage) := by
    rw [hresponse]
    split
    · exact unwrap_challengeToken server (length_challengeToken_lt hfits)
    · rfl
  unfold NtlmV2TokenProvider.nextToken
  rw [hunwrapped]
  dsimp only
  rw [if_neg (not_not_intro (startsWith_challengeMessage server)),
    decode_challengeMessage server (by omega) (by omega)]

end

/-- A server without target info. -/
def plainServer (challenge : Vector UInt8 8) : NlmpServer where
  challenge
  flags := 0
  targetName := []
  targetInfo := []
  uppercase := List.map Char.toUpper

end SmbBrowser.Native
