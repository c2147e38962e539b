import SmbBrowser.Base.Splice
import SmbBrowser.Crypto.Modes
import SmbBrowser.Crypto.Sha256
import SmbBrowser.Native.Header

/-!
# SMB2 signing

Models of the key derivation and of the signing and verification of Direct TCP
frames (native_smb/Smb2Signing.cpp).  SHA-512 comes from libsodium and is a
parameter.  Signing and verifying are stated for any MAC (`Mac`); the code's
functions are those of `smb2Mac`.

Results:
* `signSmb2DirectTcpFrame_eq_self`: signing leaves a frame as it is exactly when
  its signature verifies;
* `verify_signSmb2DirectTcpFrame`: the signature of a signed frame verifies;
* `splice_encodeSmb2SyncHeader`: signing sets the flags and the signature of the
  message's header.
-/

namespace SmbBrowser.Native

open SmbBrowser.Base

/-! ## Texts -/

/-- A number in upper-case hexadecimal, filled up with zeros: `std::hex`,
    `std::uppercase` and `std::setw`. -/
def hexUpper (width n : ℕ) : String :=
  String.ofList (((Nat.toDigits 16 n).map Char.toUpper).leftpad width '0')

/-- The table of `commandName` (Smb2Signing.cpp:95). -/
def commandNames : List (UInt16 × String) :=
  [(0x0000, "NEGOTIATE"), (0x0001, "SESSION_SETUP"), (0x0002, "LOGOFF"), (0x0003, "TREE_CONNECT"),
   (0x0004, "TREE_DISCONNECT"), (0x0005, "CREATE"), (0x0006, "CLOSE"), (0x0007, "FLUSH"),
   (0x0008, "READ"), (0x0009, "WRITE"), (0x000A, "LOCK"), (0x000B, "IOCTL"), (0x000C, "CANCEL"),
   (0x000D, "ECHO"), (0x000E, "QUERY_DIRECTORY"), (0x000F, "CHANGE_NOTIFY"),
   (0x0010, "QUERY_INFO"), (0x0011, "SET_INFO"), (0x0012, "OPLOCK_BREAK")]

/-- Model of `commandName` (Smb2Signing.cpp:95). -/
def commandName (command : Command) : String := (commandNames.lookup command.code).getD "UNKNOWN"

/-- Model of `unsupportedSigning` (Smb2Signing.cpp:81). -/
def unsupportedSigning {α : Type} (dialect : Dialect) : DecodeResult α :=
  failure .unsupportedCapability ("SMB signing for dialect 0x" ++ hexUpper 0 dialect.code.toNat ++
    " is not implemented in the clean-room engine yet.")

/-- The header of the message in a frame, if it has one. -/
def frameHeader (frame : ByteVector) : Option Smb2SyncHeader :=
  match decodeDirectTcpPayload frame with
  | .error _ => none
  | .ok payload => (decodeSmb2SyncHeader payload).toOption

/-- Model of `describeSignatureVerificationFailure` (Smb2Signing.cpp:139). -/
def describeSignatureVerificationFailure (requestFrame responseFrame : ByteVector)
    (dialect : Dialect) : String :=
  let request := match frameHeader requestFrame with
    | none => ""
    | some header => " after request=" ++ commandName header.command
  let response := match frameHeader responseFrame with
    | none => ""
    | some header =>
      " response=" ++ commandName header.command ++
      " status=0x" ++ hexUpper 8 header.status.toNat ++
      " message_id=0x" ++ hexUpper 16 header.messageId.toNat ++
      " flags=0x" ++ hexUpper 8 header.flags.toNat ++
      if header.flags &&& kFlagSigned = 0 then " signed_flag=missing" else " signed_flag=present"
  "SMB2 signed response verification failed" ++ request ++ response ++
    " dialect=0x" ++ hexUpper 4 dialect.code.toNat ++ "."

/-! ## Keys -/

/-- Model of `asciiWithNull` (Smb2Signing.cpp:339). -/
def asciiWithNull (text : String) : ByteVector := ascii text ++ [0]

/-- The key derivation every SMB3 key goes through: the first sixteen bytes of
    the HMAC of counter, label, context and length. -/
def smb3Kdf (sessionKey label context : ByteVector) : ByteVector :=
  (hmacSha256 sessionKey (beBytes 4 1 ++ label ++ [0] ++ context ++ beBytes 4 128)).take
    kAesBlockSize

@[simp] theorem length_smb3Kdf (sessionKey label context : ByteVector) :
    (smb3Kdf sessionKey label context).length = kAesBlockSize := by
  rw [smb3Kdf, List.length_take, length_hmacSha256]
  rfl

/-- Model of `deriveSmb3SigningKey` (Smb2Signing.cpp:547). -/
def deriveSmb3SigningKey (sessionKey : ByteVector) (dialect : Dialect) : DecodeResult ByteVector :=
  if dialect ≠ .smb300 ∧ dialect ≠ .smb302 then
    unsupportedSigning dialect
  else if sessionKey = [] then
    failure .authenticationFailed "Cannot derive SMB3 signing key without a session key."
  else
    .ok (smb3Kdf sessionKey (asciiWithNull "SMB2AESCMAC") (asciiWithNull "SmbSign"))

def kSha512DigestSize : ℕ := 64

/-- Model of `initialSmb311PreauthHash` (Smb2Signing.cpp:572). -/
def initialSmb311PreauthHash : ByteVector := List.replicate kSha512DigestSize 0

/-- Model of `updateSmb311PreauthHash` (Smb2Signing.cpp:576) over a SHA-512. -/
def updateSmb311PreauthHash (sha512 : ByteVector → Vector UInt8 64)
    (currentHash message : ByteVector) : DecodeResult ByteVector :=
  if currentHash.length ≠ kSha512DigestSize then
    failure .protocolUnsupported "SMB 3.1.1 preauth hash state must be 64 bytes."
  else
    .ok (sha512 (currentHash ++ message)).toList

/-- Model of `deriveSmb311SigningKey` (Smb2Signing.cpp:593), which is
    `deriveSmb311Key` with the label of signing. -/
def deriveSmb311SigningKey (sessionKey preauthIntegrityHash : ByteVector) :
    DecodeResult ByteVector :=
  if sessionKey = [] then
    failure .authenticationFailed "Cannot derive SMB 3.1.1 key without a session key."
  else if preauthIntegrityHash.length ≠ kSha512DigestSize then
    failure .protocolUnsupported "SMB 3.1.1 key derivation requires a 64-byte preauth hash."
  else
    .ok (smb3Kdf sessionKey (asciiWithNull "SMBSigningKey") preauthIntegrityHash)

/-- Model of `supportsHmacSha256Signing` (Smb2Signing.cpp:608). -/
def supportsHmacSha256Signing (dialect : Dialect) : Bool :=
  dialect = .smb202 || dialect = .smb210

/-- Model of `supportsAesCmacSigning` (Smb2Signing.cpp:609). -/
def supportsAesCmacSigning (dialect : Dialect) : Bool :=
  dialect = .smb300 || dialect = .smb302 || dialect = .smb311

/-- Model of `supportsSigning` (Smb2Signing.cpp:615). -/
def supportsSigning (dialect : Dialect) : Bool :=
  supportsHmacSha256Signing dialect || supportsAesCmacSigning dialect

/-! ## Frames -/

def kSmb2FlagsOffset : ℕ := 16
def kSmb2SignatureOffset : ℕ := 48

/-- The flags of a message: `readU32Le(payload, kSmb2FlagsOffset)`. -/
def flagsOf (payload : ByteVector) : UInt32 :=
  UInt32.ofNat (leValue ((payload.drop kSmb2FlagsOffset).take 4))

/-- `writeU32Le` of the flags with `kFlagSigned` set. -/
def setSignedFlag (payload : ByteVector) : ByteVector :=
  splice payload kSmb2FlagsOffset (u32Le (flagsOf payload ||| kFlagSigned))

/-- Model of `zeroSmb2Signature` (Smb2Signing.cpp:173). -/
def zeroSmb2Signature (payload : ByteVector) : ByteVector :=
  splice payload kSmb2SignatureOffset (List.replicate 16 0)

/-- The signature of a message whose signature field is zero. -/
def smb2Signature (payload sessionKey : ByteVector) (dialect : Dialect) :
    DecodeResult ByteVector :=
  if supportsHmacSha256Signing dialect then
    .ok ((hmacSha256 sessionKey payload).take 16)
  else
    match aes128Cmac sessionKey payload with
    | .error e => failureFrom e
    | .ok digest => .ok digest.toBytes

/-- Model of `signSmb2DirectTcpFrame` (Smb2Signing.cpp:612). -/
def signSmb2DirectTcpFrame (requestFrame sessionKey : ByteVector) (dialect : Dialect) :
    Except Exn (DecodeResult ByteVector) :=
  if ¬ supportsSigning dialect then
    .ok (unsupportedSigning dialect)
  else
    match decodeDirectTcpPayload requestFrame with
    | .error e => .ok (failureFrom e)
    | .ok payload =>
      if payload.length < kSmb2HeaderSize then
        .ok (failure .protocolUnsupported "SMB2 message is shorter than header.")
      else
        let payload := zeroSmb2Signature (setSignedFlag payload)
        match smb2Signature payload sessionKey dialect with
        | .error e => .ok (failureFrom e)
        | .ok digest => .ok <$> encodeDirectTcpFrame (splice payload kSmb2SignatureOffset digest)

/-- Model of `verifySmb2DirectTcpFrameSignature` (Smb2Signing.cpp:648). -/
def verifySmb2DirectTcpFrameSignature (responseFrame sessionKey : ByteVector)
    (dialect : Dialect) : DecodeResult Bool :=
  if ¬ supportsSigning dialect then
    unsupportedSigning dialect
  else
    match decodeDirectTcpPayload responseFrame with
    | .error e => failureFrom e
    | .ok payload =>
      if payload.length < kSmb2HeaderSize then
        failure .protocolUnsupported "SMB2 response is shorter than header."
      else if flagsOf payload &&& kFlagSigned = 0 then
        .ok false
      else
        let expected := (payload.drop kSmb2SignatureOffset).take 16
        match smb2Signature (zeroSmb2Signature payload) sessionKey dialect with
        | .error e => failureFrom e
        | .ok digest => .ok (expected == digest)

/-! ## Signing and verifying -/

theorem testBit_kFlagSigned (i : ℕ) : kFlagSigned.toNat.testBit i = decide (i = 3) := by
  show Nat.testBit (2 ^ 3) i = _
  rw [Nat.testBit_two_pow]
  simp only [eq_comm]

theorem or_kFlagSigned_and (flags : UInt32) :
    (flags ||| kFlagSigned) &&& kFlagSigned = kFlagSigned := by
  refine UInt32.toNat_inj.1 (Nat.eq_of_testBit_eq fun i => ?_)
  rw [UInt32.toNat_and, UInt32.toNat_or, Nat.testBit_and, Nat.testBit_or]
  cases flags.toNat.testBit i <;> simp

/-- Setting the signed flag changes nothing when it is set. -/
theorem or_kFlagSigned_of_ne {flags : UInt32} (h : flags &&& kFlagSigned ≠ 0) :
    flags ||| kFlagSigned = flags := by
  have hbit : flags.toNat.testBit 3 = true := by
    by_contra hclear
    refine h (UInt32.toNat_inj.1 (Nat.eq_of_testBit_eq fun i => ?_))
    rw [UInt32.toNat_and, Nat.testBit_and, testBit_kFlagSigned]
    by_cases hi : i = 3
    · subst hi
      simpa using hclear
    · simp [hi]
  refine UInt32.toNat_inj.1 (Nat.eq_of_testBit_eq fun i => ?_)
  rw [UInt32.toNat_or, Nat.testBit_or, testBit_kFlagSigned]
  by_cases hi : i = 3
  · subst hi
    simp [hbit]
  · simp [hi]

section

variable {payload sessionKey digest frame signed : ByteVector} {dialect : Dialect}

theorem length_of_smb2Signature (h : smb2Signature payload sessionKey dialect = .ok digest) :
    digest.length = 16 := by
  unfold smb2Signature at h
  split at h
  · cases h
    rw [List.length_take, length_hmacSha256]
    rfl
  · split at h
    · cases h
    · cases h
      exact Block16.length_toBytes _

theorem length_setSignedFlag (h : kSmb2HeaderSize ≤ payload.length) :
    (setSignedFlag payload).length = payload.length := by
  rw [kSmb2HeaderSize] at h
  rw [setSignedFlag, length_splice, length_u32Le, kSmb2FlagsOffset]
  omega

/-- The flags are not part of the signature field. -/
theorem flagsOf_splice_signature (h : kSmb2HeaderSize ≤ payload.length)
    (hdigest : digest.length = 16) :
    flagsOf (splice payload kSmb2SignatureOffset digest) = flagsOf payload := by
  rw [kSmb2HeaderSize] at h
  rw [flagsOf, flagsOf, kSmb2SignatureOffset, kSmb2FlagsOffset,
    take_drop_splice_of_disjoint (by omega) (by omega)]

theorem flagsOf_setSignedFlag (payload : ByteVector) :
    flagsOf (setSignedFlag payload) = flagsOf payload ||| kFlagSigned := by
  have hread := take_drop_splice payload kSmb2FlagsOffset (u32Le (flagsOf payload ||| kFlagSigned))
  rw [length_u32Le] at hread
  rw [flagsOf, setSignedFlag, hread, ofNat_leValue_u32Le]

/-- The bytes of the flags are the flags in little-endian order. -/
theorem u32Le_flagsOf (h : kSmb2HeaderSize ≤ payload.length) :
    u32Le (flagsOf payload) = (payload.drop kSmb2FlagsOffset).take 4 := by
  have hlen : ((payload.drop kSmb2FlagsOffset).take 4).length = 4 := by
    rw [kSmb2HeaderSize] at h
    simp only [List.length_take, List.length_drop, kSmb2FlagsOffset]
    omega
  have hlt := leValue_lt ((payload.drop kSmb2FlagsOffset).take 4)
  rw [hlen] at hlt
  have hvalue : (flagsOf payload).toNat = leValue ((payload.drop kSmb2FlagsOffset).take 4) :=
    Nat.mod_eq_of_lt hlt
  have hbytes := leBytes_leValue ((payload.drop kSmb2FlagsOffset).take 4)
  rw [hlen] at hbytes
  rw [u32Le, hvalue, hbytes]

theorem setSignedFlag_eq_self (h : kSmb2HeaderSize ≤ payload.length)
    (hsigned : flagsOf payload &&& kFlagSigned ≠ 0) : setSignedFlag payload = payload := by
  rw [setSignedFlag, or_kFlagSigned_of_ne hsigned, u32Le_flagsOf h, splice_self]
  rw [kSmb2HeaderSize] at h
  rw [kSmb2FlagsOffset]
  omega

/-- Storing a signature over the zeros of the signature field. -/
theorem splice_zeroSmb2Signature (hdigest : digest.length = 16) :
    splice (zeroSmb2Signature payload) kSmb2SignatureOffset digest =
      splice payload kSmb2SignatureOffset digest := by
  rw [zeroSmb2Signature, splice_splice (by rw [hdigest, List.length_replicate])]

/-- Signing a message sets the signed flag and the signature of its header. -/
theorem splice_encodeSmb2SyncHeader (header : Smb2SyncHeader) (body : ByteVector)
    (digest : Vector UInt8 16) :
    splice (setSignedFlag (encodeSmb2SyncHeader header ++ body)) kSmb2SignatureOffset
        digest.toList =
      encodeSmb2SyncHeader
        { header with flags := header.flags ||| kFlagSigned, signature := digest } ++ body := by
  -- the bytes before the flags and those between flags and signature
  obtain ⟨before, hbefore⟩ : ∃ before, before = u32Le kSmb2ProtocolId ++
    (u16Le kSmb2HeaderStructureSize ++ (u16Le header.creditCharge ++ (u32Le header.status ++
      (u16Le header.command.code ++ u16Le header.creditRequest)))) := ⟨_, rfl⟩
  obtain ⟨between, hbetween⟩ : ∃ between, between = u32Le header.nextCommand ++
    (u64Le header.messageId ++ (u32Le kSmb2ProcessId ++ (u32Le header.treeId ++
      u64Le header.sessionId))) := ⟨_, rfl⟩
  have hlen : before.length = kSmb2FlagsOffset := by simp [hbefore, kSmb2FlagsOffset]
  have hshape (flags : UInt32) (signature : Vector UInt8 16) :
      encodeSmb2SyncHeader { header with flags, signature } ++ body =
        before ++ (u32Le flags ++ (between ++ (signature.toList ++ body))) := by
    simp only [encodeSmb2SyncHeader, hbefore, hbetween, List.append_assoc]
  have hflags : flagsOf (encodeSmb2SyncHeader header ++ body) = header.flags := by
    rw [flagsOf, hshape header.flags header.signature, ← hlen, List.drop_left,
      List.take_left' (length_u32Le _), ofNat_leValue_u32Le]
  have hset : setSignedFlag (encodeSmb2SyncHeader header ++ body) =
      before ++ (u32Le (header.flags ||| kFlagSigned) ++
        (between ++ (header.signature.toList ++ body))) := by
    rw [setSignedFlag, hflags, hshape header.flags header.signature, ← hlen,
      splice_middle (by rw [length_u32Le, length_u32Le])]
  have hsplit : before ++ (u32Le (header.flags ||| kFlagSigned) ++
      (between ++ (header.signature.toList ++ body))) =
      (before ++ (u32Le (header.flags ||| kFlagSigned) ++ between)) ++
        (header.signature.toList ++ body) := by
    simp only [List.append_assoc]
  have hoffset : (before ++ (u32Le (header.flags ||| kFlagSigned) ++ between)).length =
      kSmb2SignatureOffset := by
    simp [hbefore, hbetween, kSmb2SignatureOffset]
  rw [hset, hsplit, ← hoffset, splice_middle (by simp), hshape]
  simp only [List.append_assoc]

/-! ## Any MAC -/

/-- A MAC of sixteen bytes for each dialect; it may refuse a key. -/
structure Mac where
  digest : Dialect → ByteVector → ByteVector → DecodeResult ByteVector
  length_digest : ∀ {dialect sessionKey payload out},
    digest dialect sessionKey payload = .ok out → out.length = 16

namespace Mac

/-- `signSmb2DirectTcpFrame` with the MAC as a parameter. -/
def signFrame (mac : Mac) (requestFrame sessionKey : ByteVector) (dialect : Dialect) :
    Except Exn (DecodeResult ByteVector) :=
  if ¬ supportsSigning dialect then
    .ok (unsupportedSigning dialect)
  else
    match decodeDirectTcpPayload requestFrame with
    | .error e => .ok (failureFrom e)
    | .ok payload =>
      if payload.length < kSmb2HeaderSize then
        .ok (failure .protocolUnsupported "SMB2 message is shorter than header.")
      else
        let payload := zeroSmb2Signature (setSignedFlag payload)
        match mac.digest dialect sessionKey payload with
        | .error e => .ok (failureFrom e)
        | .ok digest => .ok <$> encodeDirectTcpFrame (splice payload kSmb2SignatureOffset digest)

/-- `verifySmb2DirectTcpFrameSignature` with the MAC as a parameter. -/
def verifyFrame (mac : Mac) (responseFrame sessionKey : ByteVector) (dialect : Dialect) :
    DecodeResult Bool :=
  if ¬ supportsSigning dialect then
    unsupportedSigning dialect
  else
    match decodeDirectTcpPayload responseFrame with
    | .error e => failureFrom e
    | .ok payload =>
      if payload.length < kSmb2HeaderSize then
        failure .protocolUnsupported "SMB2 response is shorter than header."
      else if flagsOf payload &&& kFlagSigned = 0 then
        .ok false
      else
        let expected := (payload.drop kSmb2SignatureOffset).take 16
        match mac.digest dialect sessionKey (zeroSmb2Signature payload) with
        | .error e => failureFrom e
        | .ok digest => .ok (expected == digest)

variable (mac : Mac)

/-- What a signed frame holds: the message with the signed flag set and a
    signature of sixteen bytes in place. -/
theorem signFrame_eq_ok (hframe : encodeDirectTcpFrame payload = .ok frame) :
    mac.signFrame frame sessionKey dialect = .ok (.ok signed) ↔
      supportsSigning dialect = true ∧ kSmb2HeaderSize ≤ payload.length ∧
      ∃ digest, mac.digest dialect sessionKey (zeroSmb2Signature (setSignedFlag payload)) =
          .ok digest ∧
        encodeDirectTcpFrame (splice (setSignedFlag payload) kSmb2SignatureOffset digest) =
          .ok signed := by
  rw [signFrame, decodeDirectTcpPayload_encode hframe]
  dsimp only
  by_cases hsupports : supportsSigning dialect = true
  swap
  · rw [if_pos hsupports]
    constructor
    · intro h
      cases h
    · intro h
      exact absurd h.1 hsupports
  rw [if_neg (not_not.2 hsupports)]
  by_cases hlen : payload.length < kSmb2HeaderSize
  · rw [if_pos hlen]
    constructor
    · intro h
      cases h
    · intro h
      exact absurd h.2.1 (by omega)
  rw [if_neg hlen]
  cases hdigest : mac.digest dialect sessionKey (zeroSmb2Signature (setSignedFlag payload)) with
  | error e =>
    dsimp only
    constructor
    · intro h
      cases h
    · rintro ⟨-, -, digest, h, -⟩
      cases h
  | ok digest =>
    dsimp only
    rw [splice_zeroSmb2Signature (mac.length_digest hdigest)]
    constructor
    · intro h
      refine ⟨hsupports, by omega, digest, rfl, ?_⟩
      cases hencode : encodeDirectTcpFrame
          (splice (setSignedFlag payload) kSmb2SignatureOffset digest) with
      | error e =>
        rw [hencode] at h
        cases h
      | ok out =>
        rw [hencode] at h
        cases h
        rfl
    · rintro ⟨-, -, digest', h, hencode⟩
      cases h
      rw [hencode]
      rfl

/-- When a frame's signature verifies. -/
theorem verifyFrame_eq_true (hframe : decodeDirectTcpPayload frame = .ok payload) :
    mac.verifyFrame frame sessionKey dialect = .ok true ↔
      supportsSigning dialect = true ∧ kSmb2HeaderSize ≤ payload.length ∧
      flagsOf payload &&& kFlagSigned ≠ 0 ∧
      mac.digest dialect sessionKey (zeroSmb2Signature payload) =
        .ok ((payload.drop kSmb2SignatureOffset).take 16) := by
  rw [verifyFrame, hframe]
  dsimp only
  by_cases hsupports : supportsSigning dialect = true
  swap
  · rw [if_pos hsupports]
    constructor
    · intro h
      cases h
    · intro h
      exact absurd h.1 hsupports
  rw [if_neg (not_not.2 hsupports)]
  by_cases hlen : payload.length < kSmb2HeaderSize
  · rw [if_pos hlen]
    constructor
    · intro h
      cases h
    · intro h
      exact absurd h.2.1 (by omega)
  rw [if_neg hlen]
  by_cases hflag : flagsOf payload &&& kFlagSigned = 0
  · rw [if_pos hflag]
    constructor
    · intro h
      cases h
    · intro h
      exact absurd hflag h.2.2.1
  rw [if_neg hflag]
  cases hdigest : mac.digest dialect sessionKey (zeroSmb2Signature payload) with
  | error e =>
    dsimp only
    constructor
    · intro h
      cases h
    · rintro ⟨-, -, -, h⟩
      cases h
  | ok digest =>
    dsimp only
    constructor
    · intro h
      have hequal : ((payload.drop kSmb2SignatureOffset).take 16 == digest) = true := by
        injection h
      exact ⟨hsupports, by omega, hflag, by rw [beq_iff_eq.1 hequal]⟩
    · rintro ⟨-, -, -, h⟩
      cases h
      rw [beq_self_eq_true]

/-- **Signing leaves a frame as it is exactly when its signature verifies.** -/
theorem signFrame_eq_self (hframe : encodeDirectTcpFrame payload = .ok frame) :
    mac.signFrame frame sessionKey dialect = .ok (.ok frame) ↔
      mac.verifyFrame frame sessionKey dialect = .ok true := by
  rw [mac.signFrame_eq_ok hframe,
    mac.verifyFrame_eq_true (decodeDirectTcpPayload_encode hframe)]
  constructor
  · rintro ⟨hsupports, hlen, digest, hdigest, hencode⟩
    have hsize := mac.length_digest hdigest
    -- a frame holds one message
    have hpayload : splice (setSignedFlag payload) kSmb2SignatureOffset digest = payload := by
      have hleft := decodeDirectTcpPayload_encode hencode
      rw [decodeDirectTcpPayload_encode hframe] at hleft
      injection hleft with hleft
      exact hleft.symm
    have hflags : flagsOf payload = flagsOf payload ||| kFlagSigned := by
      have hspliced : flagsOf (splice (setSignedFlag payload) kSmb2SignatureOffset digest) =
          flagsOf (setSignedFlag payload) :=
        flagsOf_splice_signature (by rwa [length_setSignedFlag hlen]) hsize
      rwa [hpayload, flagsOf_setSignedFlag] at hspliced
    have hset : flagsOf payload &&& kFlagSigned ≠ 0 := by
      rw [hflags, or_kFlagSigned_and]
      decide
    rw [setSignedFlag_eq_self hlen hset] at hdigest hpayload
    have hfield := take_drop_splice payload kSmb2SignatureOffset digest
    rw [hpayload, hsize] at hfield
    exact ⟨hsupports, hlen, hset, by rw [hdigest, hfield]⟩
  · rintro ⟨hsupports, hlen, hset, hdigest⟩
    refine ⟨hsupports, hlen, (payload.drop kSmb2SignatureOffset).take 16, ?_, ?_⟩
    · rw [setSignedFlag_eq_self hlen hset, hdigest]
    · rw [setSignedFlag_eq_self hlen hset, splice_self, hframe]
      rw [kSmb2HeaderSize] at hlen
      rw [kSmb2SignatureOffset]
      omega

/-- **The signature of a signed frame verifies.** -/
theorem verifyFrame_signFrame (hframe : encodeDirectTcpFrame payload = .ok frame)
    (h : mac.signFrame frame sessionKey dialect = .ok (.ok signed)) :
    mac.verifyFrame signed sessionKey dialect = .ok true := by
  obtain ⟨hsupports, hlen, digest, hdigest, hencode⟩ := (mac.signFrame_eq_ok hframe).1 h
  have hsize := mac.length_digest hdigest
  have hset : kSmb2HeaderSize ≤ (setSignedFlag payload).length := by
    rwa [length_setSignedFlag hlen]
  have hzero : zeroSmb2Signature (splice (setSignedFlag payload) kSmb2SignatureOffset digest) =
      zeroSmb2Signature (setSignedFlag payload) :=
    splice_splice (by rw [hsize, List.length_replicate])
  have hlong : kSmb2HeaderSize ≤
      (splice (setSignedFlag payload) kSmb2SignatureOffset digest).length := by
    rw [length_splice]
    omega
  refine (mac.verifyFrame_eq_true (decodeDirectTcpPayload_encode hencode)).2
    ⟨hsupports, hlong, ?_, ?_⟩
  · rw [flagsOf_splice_signature hset hsize, flagsOf_setSignedFlag, or_kFlagSigned_and]
    decide
  · have hfield := take_drop_splice (setSignedFlag payload) kSmb2SignatureOffset digest
    rw [hsize] at hfield
    rw [hzero, hdigest, hfield]

end Mac

/-! ## The MACs of the dialects -/

/-- The MAC `signSmb2DirectTcpFrame` and `verifySmb2DirectTcpFrameSignature` use. -/
def smb2Mac : Mac where
  digest dialect sessionKey payload := smb2Signature payload sessionKey dialect
  length_digest := length_of_smb2Signature

theorem signSmb2DirectTcpFrame_eq : signSmb2DirectTcpFrame = smb2Mac.signFrame := rfl

theorem verifySmb2DirectTcpFrameSignature_eq :
    verifySmb2DirectTcpFrameSignature = smb2Mac.verifyFrame := rfl

theorem signSmb2DirectTcpFrame_eq_ok (hframe : encodeDirectTcpFrame payload = .ok frame) :
    signSmb2DirectTcpFrame frame sessionKey dialect = .ok (.ok signed) ↔
      supportsSigning dialect = true ∧ kSmb2HeaderSize ≤ payload.length ∧
      ∃ digest, smb2Signature (zeroSmb2Signature (setSignedFlag payload)) sessionKey dialect =
          .ok digest ∧
        encodeDirectTcpFrame (splice (setSignedFlag payload) kSmb2SignatureOffset digest) =
          .ok signed :=
  smb2Mac.signFrame_eq_ok hframe

theorem verifySmb2DirectTcpFrameSignature_eq_true
    (hframe : encodeDirectTcpFrame payload = .ok frame) :
    verifySmb2DirectTcpFrameSignature frame sessionKey dialect = .ok true ↔
      supportsSigning dialect = true ∧ kSmb2HeaderSize ≤ payload.length ∧
      flagsOf payload &&& kFlagSigned ≠ 0 ∧
      smb2Signature (zeroSmb2Signature payload) sessionKey dialect =
        .ok ((payload.drop kSmb2SignatureOffset).take 16) :=
  smb2Mac.verifyFrame_eq_true (decodeDirectTcpPayload_encode hframe)

/-- **Signing leaves a frame as it is exactly when its signature verifies.** -/
theorem signSmb2DirectTcpFrame_eq_self (hframe : encodeDirectTcpFrame payload = .ok frame) :
    signSmb2DirectTcpFrame frame sessionKey dialect = .ok (.ok frame) ↔
      verifySmb2DirectTcpFrameSignature frame sessionKey dialect = .ok true :=
  smb2Mac.signFrame_eq_self hframe

/-- **The signature of a signed frame verifies.** -/
theorem verify_signSmb2DirectTcpFrame (hframe : encodeDirectTcpFrame payload = .ok frame)
    (h : signSmb2DirectTcpFrame frame sessionKey dialect = .ok (.ok signed)) :
    verifySmb2DirectTcpFrameSignature signed sessionKey dialect = .ok true :=
  smb2Mac.verifyFrame_signFrame hframe h

/-- Every message with a header can be signed for SMB 3.0. -/
theorem exists_signed (hframe : encodeDirectTcpFrame payload = .ok frame)
    (hlen : kSmb2HeaderSize ≤ payload.length) (hkey : sessionKey.length = kAesBlockSize) :
    ∃ digest : Vector UInt8 16, signSmb2DirectTcpFrame frame sessionKey .smb300 =
      .ok (.ok (framed (splice (setSignedFlag payload) kSmb2SignatureOffset digest.toList))) := by
  obtain ⟨digest, hdigest⟩ := exists_aes128Cmac hkey (zeroSmb2Signature (setSignedFlag payload))
  have hfits : (splice (setSignedFlag payload) kSmb2SignatureOffset digest.toList).length ≤
      0x00FFFFFF := by
    have hmessage := length_of_encodeDirectTcpFrame hframe
    have hsize := length_setSignedFlag hlen
    rw [kSmb2HeaderSize] at hlen
    rw [length_splice, Vector.length_toList, kSmb2SignatureOffset]
    omega
  refine ⟨digest, (signSmb2DirectTcpFrame_eq_ok hframe).2 ⟨rfl, hlen, digest.toList, ?_, ?_⟩⟩
  · rw [smb2Signature, hdigest]
    rfl
  · exact encodeDirectTcpFrame_framed hfits

end

end SmbBrowser.Native
