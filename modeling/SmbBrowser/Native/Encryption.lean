import SmbBrowser.Native.Requests
import SmbBrowser.Native.Signing

/-!
# SMB3 encryption

Models of the key derivation and of the TRANSFORM frames of
native_smb/Smb3Encryption.cpp.

Results:
* `decryptSmb3DirectTcpFrame_eq_ok`: a frame decrypts to another one exactly when
  it is a TRANSFORM message of it;
* `decrypt_encryptSmb3DirectTcpFrame`: what was encrypted decrypts to the frame;
* `Transforms.eq_of_aad`: two TRANSFORM messages of one message with the same
  authenticated header are the same.
-/

namespace SmbBrowser.Native

open SmbBrowser.Base

/-- `Nonce16` (Smb3Encryption.h:10). -/
abbrev Nonce16 := Vector UInt8 16

/-- `Smb3KeyDirection` (Smb3Encryption.h:12). -/
inductive Smb3KeyDirection where
  | clientToServer
  | serverToClient
  deriving DecidableEq

def kSmb3TransformProtocolId : UInt32 := 0x424D53FD
def kSmb3TransformHeaderSize : ℕ := 52
def kSmb3TransformSignatureOffset : ℕ := 4
def kSmb3TransformNonceOffset : ℕ := 20
def kSmb3TransformAadOffset : ℕ := 20
def kSmb3AesCcmNonceSize : ℕ := 11
def kSmb3AesCcmTagSize : ℕ := 16
def kSmb3Aes128CcmAlgorithm : UInt16 := 0x0001

/-- Model of `unsupportedDialect` (Smb3Encryption.cpp:256). -/
def unsupportedEncryptionDialect {α : Type} (dialect : Dialect) : DecodeResult α :=
  failure .unsupportedCapability ("SMB3 AES-CCM encryption for dialect 0x" ++
    hexUpper 0 dialect.code.toNat ++ " is not implemented in the clean-room engine.")

/-- `supportsAesCcmEncryption` (NativeSmbConnector.cpp:47), the test
    Smb3Encryption.cpp repeats in every function. -/
def supportsAesCcmEncryption (dialect : Dialect) : Bool :=
  dialect = .smb300 || dialect = .smb302

/-- Model of `deriveSmb3EncryptionKey` (Smb3Encryption.cpp:335). -/
def deriveSmb3EncryptionKey (sessionKey : ByteVector) (dialect : Dialect)
    (direction : Smb3KeyDirection) : DecodeResult ByteVector :=
  if ¬ supportsAesCcmEncryption dialect then
    unsupportedEncryptionDialect dialect
  else if sessionKey = [] then
    failure .authenticationFailed "Cannot derive SMB3 encryption key without a session key."
  else
    .ok (smb3Kdf sessionKey (asciiWithNull "SMB2AESCCM") (asciiWithNull
      (if direction = .clientToServer then "ServerIn " else "ServerOut")))

/-! ## TRANSFORM messages -/

/-- The part of the TRANSFORM header the tag covers: the bytes from
    `kSmb3TransformAadOffset` on. -/
def transformAad (originalMessageSize : UInt32) (sessionId : UInt64) (nonce : Nonce16)
    (dialect : Dialect) : ByteVector :=
  nonce.toList ++ (u32Le originalMessageSize ++ (u16Le 0 ++
    (u16Le (if dialect = .smb311 then 0x0001 else kSmb3Aes128CcmAlgorithm) ++ u64Le sessionId)))

/-- Model of `buildTransformHeader` (Smb3Encryption.cpp:265) with the tag that is
    copied into it. -/
def buildTransformHeader (tag aad : ByteVector) : ByteVector :=
  u32Le kSmb3TransformProtocolId ++ (tag ++ aad)

/-- Model of `smb3AadFromHeader` (Smb3Encryption.cpp:281). -/
def smb3AadFromHeader (transformHeader : ByteVector) : ByteVector :=
  (transformHeader.drop kSmb3TransformAadOffset).take
    (kSmb3TransformHeaderSize - kSmb3TransformAadOffset)

/-- Model of `ccmNonceFromTransformNonce` (Smb3Encryption.cpp:286). -/
def ccmNonceFromTransformNonce (transformPayload : ByteVector) : ByteVector :=
  (transformPayload.drop kSmb3TransformNonceOffset).take kSmb3AesCcmNonceSize

/-- Model of `encryptSmb3DirectTcpFrame` (Smb3Encryption.cpp:347).  A message in a
    frame is shorter than 2³² bytes. -/
def encryptSmb3DirectTcpFrame (requestFrame encryptionKey : ByteVector) (sessionId : UInt64)
    (nonce : Nonce16) (dialect : Dialect) : Except Exn (DecodeResult ByteVector) :=
  if ¬ supportsAesCcmEncryption dialect then
    .ok (unsupportedEncryptionDialect dialect)
  else
    match decodeDirectTcpPayload requestFrame with
    | .error e => .ok (failureFrom e)
    | .ok payload =>
      if payload.length > u32Max then
        .ok (failure .protocolUnsupported "SMB3 transform payload is too large.")
      else
        let aad := transformAad (UInt32.ofNat payload.length) sessionId nonce dialect
        let ccmNonce := nonce.toList.take kSmb3AesCcmNonceSize
        match aes128CcmEncrypt encryptionKey ccmNonce payload aad kSmb3AesCcmTagSize with
        | .error e => .ok (failureFrom e)
        | .ok encrypted =>
          .ok <$> encodeDirectTcpFrame (buildTransformHeader encrypted.tag aad ++
            encrypted.ciphertext)

/-- Model of `decryptSmb3DirectTcpFrame` (Smb3Encryption.cpp:388). -/
def decryptSmb3DirectTcpFrame (responseFrame decryptionKey : ByteVector)
    (expectedSessionId : UInt64) (dialect : Dialect) : Except Exn (DecodeResult ByteVector) :=
  if ¬ supportsAesCcmEncryption dialect then
    .ok (unsupportedEncryptionDialect dialect)
  else
    match decodeDirectTcpPayload responseFrame with
    | .error e => .ok (failureFrom e)
    | .ok payload =>
      if payload.length < kSmb3TransformHeaderSize ∨
          UInt32.ofNat (leValue (payload.take 4)) ≠ kSmb3TransformProtocolId then
        .ok (failure .protocolUnsupported "SMB3 response is not an encrypted transform message.")
      else
        let originalMessageSize := UInt32.ofNat (leValue ((payload.drop 36).take 4))
        let algorithm := UInt16.ofNat (leValue ((payload.drop 42).take 2))
        let sessionId := UInt64.ofNat (leValue ((payload.drop 44).take 8))
        if algorithm ≠ kSmb3Aes128CcmAlgorithm then
          .ok (failure .unsupportedCapability
            "SMB3 response uses an unsupported encryption algorithm.")
        else if sessionId ≠ expectedSessionId then
          .ok (failure .protocolUnsupported
            "SMB3 response transform session id does not match the session.")
        else
          let tag := (payload.drop kSmb3TransformSignatureOffset).take kSmb3AesCcmTagSize
          let ciphertext := payload.drop kSmb3TransformHeaderSize
          match aes128CcmDecrypt decryptionKey (ccmNonceFromTransformNonce payload) ciphertext
              (smb3AadFromHeader payload) tag with
          | .error e => .ok (.error e)
          | .ok plaintext =>
            if plaintext.length ≠ originalMessageSize.toNat then
              .ok (failure .protocolUnsupported
                "SMB3 decrypted message size does not match transform header.")
            else
              .ok <$> encodeDirectTcpFrame plaintext

/-! ## Encrypting and decrypting -/

section

variable {key frame encrypted payload message : ByteVector} {sessionId : UInt64} {nonce : Nonce16}
  {dialect : Dialect}

@[simp] theorem length_transformAad (size : UInt32) (sessionId : UInt64) (nonce : Nonce16)
    (dialect : Dialect) : (transformAad size sessionId nonce dialect).length = 32 := by
  simp [transformAad]

theorem map_ok_eq_ok {x : Except Exn ByteVector} {out : ByteVector} :
    (Except.ok <$> x : Except Exn (DecodeResult ByteVector)) = .ok (.ok out) ↔ x = .ok out := by
  cases x with
  | error e =>
    constructor
    · intro h
      cases h
    · intro h
      cases h
  | ok a =>
    constructor
    · intro h
      cases h
      rfl
    · intro h
      cases h
      rfl

/-- What an encrypted frame holds. -/
theorem encryptSmb3DirectTcpFrame_eq_ok (hframe : encodeDirectTcpFrame message = .ok frame) :
    encryptSmb3DirectTcpFrame frame key sessionId nonce dialect = .ok (.ok encrypted) ↔
      supportsAesCcmEncryption dialect = true ∧
      ∃ sealed, aes128CcmEncrypt key (nonce.toList.take kSmb3AesCcmNonceSize) message
          (transformAad (UInt32.ofNat message.length) sessionId nonce dialect)
          kSmb3AesCcmTagSize = .ok sealed ∧
        encodeDirectTcpFrame (buildTransformHeader sealed.tag
          (transformAad (UInt32.ofNat message.length) sessionId nonce dialect) ++
          sealed.ciphertext) = .ok encrypted := by
  have hlen := length_of_encodeDirectTcpFrame hframe
  have hsize : ¬ message.length > u32Max := by
    rw [u32Max]
    omega
  rw [encryptSmb3DirectTcpFrame, decodeDirectTcpPayload_encode hframe]
  dsimp only
  rw [if_neg hsize]
  by_cases hsupports : supportsAesCcmEncryption dialect = true
  swap
  · rw [if_pos hsupports]
    constructor
    · intro h
      cases h
    · intro h
      exact absurd h.1 hsupports
  rw [if_neg (not_not.2 hsupports)]
  cases hsealed : aes128CcmEncrypt key (nonce.toList.take kSmb3AesCcmNonceSize) message
      (transformAad (UInt32.ofNat message.length) sessionId nonce dialect) kSmb3AesCcmTagSize with
  | error e =>
    dsimp only
    constructor
    · intro h
      cases h
    · rintro ⟨-, sealed, h, -⟩
      cases h
  | ok sealed =>
    dsimp only
    rw [map_ok_eq_ok]
    constructor
    · intro h
      exact ⟨hsupports, sealed, rfl, h⟩
    · rintro ⟨-, sealed', h, hencode⟩
      cases h
      exact hencode

/-- `payload` is a TRANSFORM message of `message`: what the checks of
    `decryptSmb3DirectTcpFrame` come to. -/
structure Transforms (payload message key : ByteVector) (sessionId : UInt64)
    (dialect : Dialect) : Prop where
  dialect_supported : supportsAesCcmEncryption dialect = true
  length_le : kSmb3TransformHeaderSize ≤ payload.length
  protocolId : UInt32.ofNat (leValue (payload.take 4)) = kSmb3TransformProtocolId
  algorithm : UInt16.ofNat (leValue ((payload.drop 42).take 2)) = kSmb3Aes128CcmAlgorithm
  session : UInt64.ofNat (leValue ((payload.drop 44).take 8)) = sessionId
  size : message.length = (UInt32.ofNat (leValue ((payload.drop 36).take 4))).toNat
  sealed : aes128CcmEncrypt key (ccmNonceFromTransformNonce payload) message
      (smb3AadFromHeader payload) kSmb3AesCcmTagSize =
    .ok ⟨payload.drop kSmb3TransformHeaderSize,
      (payload.drop kSmb3TransformSignatureOffset).take kSmb3AesCcmTagSize⟩

/-- **A frame decrypts to another one exactly when it is a TRANSFORM message of
    it.** -/
theorem decryptSmb3DirectTcpFrame_eq_ok (hencrypted : encodeDirectTcpFrame payload = .ok encrypted)
    (hframe : encodeDirectTcpFrame message = .ok frame) :
    decryptSmb3DirectTcpFrame encrypted key sessionId dialect = .ok (.ok frame) ↔
      Transforms payload message key sessionId dialect := by
  rw [decryptSmb3DirectTcpFrame, decodeDirectTcpPayload_encode hencrypted]
  dsimp only
  have htag (hlen : kSmb3TransformHeaderSize ≤ payload.length) :
      ((payload.drop kSmb3TransformSignatureOffset).take kSmb3AesCcmTagSize).length =
        kSmb3AesCcmTagSize := by
    rw [kSmb3TransformHeaderSize] at hlen
    simp only [List.length_take, List.length_drop, kSmb3TransformSignatureOffset,
      kSmb3AesCcmTagSize]
    omega
  constructor
  · intro h
    by_cases hsupports : supportsAesCcmEncryption dialect = true
    swap
    · rw [if_pos hsupports] at h
      cases h
    by_cases hshort : payload.length < kSmb3TransformHeaderSize ∨
        UInt32.ofNat (leValue (payload.take 4)) ≠ kSmb3TransformProtocolId
    · rw [if_neg (not_not.2 hsupports), if_pos hshort] at h
      cases h
    by_cases halgorithm : UInt16.ofNat (leValue ((payload.drop 42).take 2)) =
        kSmb3Aes128CcmAlgorithm
    swap
    · rw [if_neg (not_not.2 hsupports), if_neg hshort, if_pos halgorithm] at h
      cases h
    by_cases hsession : UInt64.ofNat (leValue ((payload.drop 44).take 8)) = sessionId
    swap
    · rw [if_neg (not_not.2 hsupports), if_neg hshort, if_neg (not_not.2 halgorithm),
        if_pos hsession] at h
      cases h
    rw [if_neg (not_not.2 hsupports), if_neg hshort, if_neg (not_not.2 halgorithm),
      if_neg (not_not.2 hsession)] at h
    obtain ⟨hlen, hid⟩ := not_or.1 hshort
    cases hplaintext : aes128CcmDecrypt key (ccmNonceFromTransformNonce payload)
        (payload.drop kSmb3TransformHeaderSize) (smb3AadFromHeader payload)
        ((payload.drop kSmb3TransformSignatureOffset).take kSmb3AesCcmTagSize) with
    | error e =>
      rw [hplaintext] at h
      cases h
    | ok plaintext =>
      rw [hplaintext] at h
      dsimp only at h
      by_cases hsize : plaintext.length =
          (UInt32.ofNat (leValue ((payload.drop 36).take 4))).toNat
      swap
      · rw [if_pos hsize] at h
        cases h
      rw [if_neg (not_not.2 hsize), map_ok_eq_ok] at h
      -- the plaintext is the message, since both are in one frame
      have hmessage : plaintext = message := by
        have hleft := decodeDirectTcpPayload_encode h
        rw [decodeDirectTcpPayload_encode hframe] at hleft
        injection hleft with hleft
        exact hleft.symm
      have hsealed := aes128CcmDecrypt_eq_ok.1 hplaintext
      rw [htag (by omega), hmessage] at hsealed
      rw [hmessage] at hsize
      exact ⟨hsupports, by omega, not_not.1 hid, halgorithm, hsession, hsize, hsealed⟩
  · intro h
    have hshort : ¬ (payload.length < kSmb3TransformHeaderSize ∨
        UInt32.ofNat (leValue (payload.take 4)) ≠ kSmb3TransformProtocolId) := by
      rintro (hlt | hne)
      · have := h.length_le
        omega
      · exact hne h.protocolId
    have hplaintext : aes128CcmDecrypt key (ccmNonceFromTransformNonce payload)
        (payload.drop kSmb3TransformHeaderSize) (smb3AadFromHeader payload)
        ((payload.drop kSmb3TransformSignatureOffset).take kSmb3AesCcmTagSize) = .ok message := by
      rw [aes128CcmDecrypt_eq_ok, htag h.length_le]
      exact h.sealed
    rw [if_neg (not_not.2 h.dialect_supported), if_neg hshort, if_neg (not_not.2 h.algorithm),
      if_neg (not_not.2 h.session), hplaintext]
    dsimp only
    rw [if_neg (not_not.2 h.size), map_ok_eq_ok, hframe]

/-! ## Fields of TRANSFORM messages -/

/-- The nonce of the cipher is the head of the authenticated header. -/
theorem ccmNonceFromTransformNonce_eq (payload : ByteVector) :
    ccmNonceFromTransformNonce payload = (smb3AadFromHeader payload).take kSmb3AesCcmNonceSize := by
  rw [ccmNonceFromTransformNonce, smb3AadFromHeader, List.take_take]
  rfl

/-- The four parts of a TRANSFORM message. -/
theorem transform_parts (payload : ByteVector) :
    payload = payload.take 4 ++
      ((payload.drop kSmb3TransformSignatureOffset).take kSmb3AesCcmTagSize ++
        (smb3AadFromHeader payload ++ payload.drop kSmb3TransformHeaderSize)) := by
  have haad : (payload.drop 20).take 32 ++ payload.drop 52 = payload.drop 20 := by
    rw [show payload.drop 52 = (payload.drop 20).drop 32 by rw [List.drop_drop],
      List.take_append_drop]
  have htag : (payload.drop 4).take 16 ++ payload.drop 20 = payload.drop 4 := by
    rw [show payload.drop 20 = (payload.drop 4).drop 16 by rw [List.drop_drop],
      List.take_append_drop]
  show payload = payload.take 4 ++ ((payload.drop 4).take 16 ++
    ((payload.drop 20).take 32 ++ payload.drop 52))
  rw [haad, htag, List.take_append_drop]

theorem eq_of_leValue {a b : ByteVector} (hlen : a.length = b.length)
    (h : leValue a = leValue b) : a = b := by
  rw [← leBytes_leValue a, ← leBytes_leValue b, hlen, h]

/-- Two TRANSFORM messages of one message with the same authenticated header are
    the same. -/
theorem Transforms.eq_of_aad {payload' : ByteVector}
    (h : Transforms payload message key sessionId dialect)
    (h' : Transforms payload' message key sessionId dialect)
    (haad : smb3AadFromHeader payload' = smb3AadFromHeader payload) : payload' = payload := by
  have hid : payload'.take 4 = payload.take 4 := by
    have hle := h.length_le
    have hle' := h'.length_le
    rw [kSmb3TransformHeaderSize] at hle hle'
    have hlen : (payload.take 4).length = 4 := by
      rw [List.length_take]
      omega
    have hlen' : (payload'.take 4).length = 4 := by
      rw [List.length_take]
      omega
    have hlt := leValue_lt (payload.take 4)
    have hlt' := leValue_lt (payload'.take 4)
    rw [hlen] at hlt
    rw [hlen'] at hlt'
    have hvalue := congrArg UInt32.toNat (h'.protocolId.trans h.protocolId.symm)
    rw [UInt32.toNat_ofNat_of_lt' hlt', UInt32.toNat_ofNat_of_lt' hlt] at hvalue
    exact eq_of_leValue (by omega) hvalue
  have hsealed := h'.sealed
  rw [ccmNonceFromTransformNonce_eq, haad, ← ccmNonceFromTransformNonce_eq, h.sealed] at hsealed
  injection hsealed with hsealed
  injection hsealed with hcipher htag
  rw [transform_parts payload', hid, haad, ← htag, ← hcipher, ← transform_parts payload]

/-- The fields of a TRANSFORM message. -/
structure TransformFields (payload tag ciphertext : ByteVector) (size : UInt32)
    (sessionId : UInt64) (nonce : Nonce16) (dialect : Dialect) : Prop where
  length_le : kSmb3TransformHeaderSize ≤ payload.length
  protocolId : UInt32.ofNat (leValue (payload.take 4)) = kSmb3TransformProtocolId
  algorithm : UInt16.ofNat (leValue ((payload.drop 42).take 2)) = kSmb3Aes128CcmAlgorithm
  session : UInt64.ofNat (leValue ((payload.drop 44).take 8)) = sessionId
  messageSize : UInt32.ofNat (leValue ((payload.drop 36).take 4)) = size
  aad : smb3AadFromHeader payload = transformAad size sessionId nonce dialect
  ccmNonce : ccmNonceFromTransformNonce payload = nonce.toList.take kSmb3AesCcmNonceSize
  tag : (payload.drop kSmb3TransformSignatureOffset).take kSmb3AesCcmTagSize = tag
  ciphertext : payload.drop kSmb3TransformHeaderSize = ciphertext

theorem transformFields_build {tag ciphertext : ByteVector} {size : UInt32}
    (htag : tag.length = kSmb3AesCcmTagSize) :
    TransformFields (buildTransformHeader tag (transformAad size sessionId nonce dialect) ++
      ciphertext) tag ciphertext size sessionId nonce dialect := by
  obtain ⟨aad, haad⟩ : ∃ aad, aad = transformAad size sessionId nonce dialect := ⟨_, rfl⟩
  have haadlen : aad.length = 32 := by rw [haad, length_transformAad]
  rw [← haad]
  rw [kSmb3AesCcmTagSize] at htag
  have hshape : buildTransformHeader tag aad ++ ciphertext =
      u32Le kSmb3TransformProtocolId ++ (tag ++ (aad ++ ciphertext)) := by
    simp only [buildTransformHeader, List.append_assoc]
  have hdrop4 : (buildTransformHeader tag aad ++ ciphertext).drop 4 =
      tag ++ (aad ++ ciphertext) := by
    rw [hshape, List.drop_left' (length_u32Le _)]
  have hdrop20 : (buildTransformHeader tag aad ++ ciphertext).drop 20 = aad ++ ciphertext := by
    rw [show 20 = 4 + 16 from rfl, ← List.drop_drop, hdrop4, List.drop_left' htag]
  have hdrop52 : (buildTransformHeader tag aad ++ ciphertext).drop 52 = ciphertext := by
    rw [show 52 = 20 + 32 from rfl, ← List.drop_drop, hdrop20, List.drop_left' haadlen]
  -- a field of the authenticated header, counted from its start
  have hfield (off len : ℕ) (hfits : off + len ≤ 32) :
      ((buildTransformHeader tag aad ++ ciphertext).drop (20 + off)).take len =
        (aad.drop off).take len := by
    rw [← List.drop_drop, hdrop20, List.drop_append_of_le_length (by omega),
      List.take_append_of_le_length]
    rw [List.length_drop]
    omega
  have hsize : (aad.drop 16).take 4 = u32Le size := by
    rw [haad, transformAad, List.drop_left' (by simp), List.take_left' (length_u32Le _)]
  have halgorithm : (aad.drop 22).take 2 = u16Le kSmb3Aes128CcmAlgorithm := by
    rw [haad, transformAad, show 22 = 16 + (4 + 2) from rfl, ← List.drop_drop,
      List.drop_left' (by simp), ← List.drop_drop, List.drop_left' (length_u32Le _),
      List.drop_left' (length_u16Le _), List.take_left' (length_u16Le _)]
    split <;> rfl
  have hsession : (aad.drop 24).take 8 = u64Le sessionId := by
    rw [haad, transformAad, show 24 = 16 + (4 + (2 + 2)) from rfl, ← List.drop_drop,
      List.drop_left' (by simp), ← List.drop_drop, List.drop_left' (length_u32Le _),
      ← List.drop_drop, List.drop_left' (length_u16Le _), List.drop_left' (length_u16Le _),
      List.take_of_length_le (by rw [length_u64Le])]
  have hnonce : aad.take 11 = nonce.toList.take 11 := by
    rw [haad, transformAad, List.take_append_of_le_length (by simp)]
  have hheader : smb3AadFromHeader (buildTransformHeader tag aad ++ ciphertext) = aad := by
    show ((buildTransformHeader tag aad ++ ciphertext).drop 20).take 32 = aad
    rw [hdrop20, List.take_left' haadlen]
  refine ⟨?_, ?_, ?_, ?_, ?_, hheader.trans haad, ?_, ?_, hdrop52⟩
  · rw [hshape, kSmb3TransformHeaderSize]
    simp only [List.length_append, length_u32Le, htag, haadlen]
    omega
  · rw [hshape, List.take_left' (length_u32Le _), ofNat_leValue_u32Le]
  · rw [show 42 = 20 + 22 from rfl, hfield 22 2 (by omega), halgorithm, ofNat_leValue_u16Le]
  · rw [show 44 = 20 + 24 from rfl, hfield 24 8 (by omega), hsession, ofNat_leValue_u64Le]
  · rw [show 36 = 20 + 16 from rfl, hfield 16 4 (by omega), hsize, ofNat_leValue_u32Le]
  · rw [ccmNonceFromTransformNonce_eq, hheader, kSmb3AesCcmNonceSize, hnonce]
  · rw [kSmb3TransformSignatureOffset, hdrop4, kSmb3AesCcmTagSize, List.take_left' htag]

/-- **What was encrypted is a TRANSFORM message** of the request. -/
theorem transforms_of_encrypt (hframe : encodeDirectTcpFrame message = .ok frame)
    (h : encryptSmb3DirectTcpFrame frame key sessionId nonce dialect = .ok (.ok encrypted)) :
    ∃ payload, encodeDirectTcpFrame payload = .ok encrypted ∧
      Transforms payload message key sessionId dialect := by
  have hmessage := length_of_encodeDirectTcpFrame hframe
  obtain ⟨hsupports, sealed, hsealed, hencode⟩ := (encryptSmb3DirectTcpFrame_eq_ok hframe).1 h
  have htag := length_tag_of_aes128CcmEncrypt hsealed (by rw [kSmb3AesCcmTagSize])
  have hfields : TransformFields _ sealed.tag sealed.ciphertext (UInt32.ofNat message.length)
      sessionId nonce dialect := transformFields_build htag
  refine ⟨_, hencode, hsupports, hfields.length_le, hfields.protocolId, hfields.algorithm,
    hfields.session, ?_, ?_⟩
  · rw [hfields.messageSize, UInt32.toNat_ofNat_of_lt' (by rw [UInt32.size]; omega)]
  · rw [hfields.ccmNonce, hfields.aad, hfields.ciphertext, hfields.tag]
    exact hsealed

/-- **What was encrypted decrypts to the frame.** -/
theorem decrypt_encryptSmb3DirectTcpFrame (hframe : encodeDirectTcpFrame message = .ok frame)
    (h : encryptSmb3DirectTcpFrame frame key sessionId nonce dialect = .ok (.ok encrypted)) :
    decryptSmb3DirectTcpFrame encrypted key sessionId dialect = .ok (.ok frame) := by
  obtain ⟨payload, hencode, htransforms⟩ := transforms_of_encrypt hframe h
  exact (decryptSmb3DirectTcpFrame_eq_ok hencode hframe).2 htransforms

end

end SmbBrowser.Native
