import SmbBrowser.Native.Encryption

/-!
# Round trip of the SMB 3.0 transform

`encryptSmb3DirectTcpFrame` and `decryptSmb3DirectTcpFrame` use their block cipher
through AES-CCM only, and CCM may use any.  The round trip is proved for every
block cipher.

Results:
* `BlockCipher.decryptFrame_encryptFrame`: a frame comes back under the session id
  it was encrypted for;
* `BlockCipher.decryptFrame_other`: and under no other;
* `transform_roundTrip`: both, with the functions of the code as the case of AES.
-/

namespace SmbBrowser.Native

open SmbBrowser.Base

namespace BlockCipher

/-! ## The frames of a block cipher -/

/-- `encryptSmb3DirectTcpFrame` over a block cipher. -/
def encryptFrame (cipher : BlockCipher) (requestFrame encryptionKey : ByteVector)
    (sessionId : UInt64) (nonce : Nonce16) (dialect : Dialect) :
    Except Exn (DecodeResult ByteVector) :=
  if ¬ supportsAesCcmEncryption dialect then
    .ok (unsupportedEncryptionDialect dialect)
  else
    match decodeDirectTcpPayload requestFrame with
    | .error e => .ok (failureFrom e)
    | .ok payload =>
      if payload.length > u32Max then
        .ok (failure .protocolUnsupported "SMB3 transform payload is too large.")
      else
        let aad := transformAad (UInt32.ofNat payload.length) sessionId nonce dialect
        let ccmNonce := nonce.toList.take kSmb3AesCcmNonceSize
        match cipher.ccmEncrypt encryptionKey ccmNonce payload aad kSmb3AesCcmTagSize with
        | .error e => .ok (failureFrom e)
        | .ok encrypted =>
          .ok <$> encodeDirectTcpFrame (buildTransformHeader encrypted.tag aad ++
            encrypted.ciphertext)

/-- `decryptSmb3DirectTcpFrame` over a block cipher. -/
def decryptFrame (cipher : BlockCipher) (responseFrame decryptionKey : ByteVector)
    (expectedSessionId : UInt64) (dialect : Dialect) : Except Exn (DecodeResult ByteVector) :=
  if ¬ supportsAesCcmEncryption dialect then
    .ok (unsupportedEncryptionDialect dialect)
  else
    match decodeDirectTcpPayload responseFrame with
    | .error e => .ok (failureFrom e)
    | .ok payload =>
      if payload.length < kSmb3TransformHeaderSize ∨
          UInt32.ofNat (leValue (payload.take 4)) ≠ kSmb3TransformProtocolId then
        .ok (failure .protocolUnsupported "SMB3 response is not an encrypted transform message.")
      else
        let originalMessageSize := UInt32.ofNat (leValue ((payload.drop 36).take 4))
        let algorithm := UInt16.ofNat (leValue ((payload.drop 42).take 2))
        let sessionId := UInt64.ofNat (leValue ((payload.drop 44).take 8))
        if algorithm ≠ kSmb3Aes128CcmAlgorithm then
          .ok (failure .unsupportedCapability
            "SMB3 response uses an unsupported encryption algorithm.")
        else if sessionId ≠ expectedSessionId then
          .ok (failure .protocolUnsupported
            "SMB3 response transform session id does not match the session.")
        else
          let tag := (payload.drop kSmb3TransformSignatureOffset).take kSmb3AesCcmTagSize
          let ciphertext := payload.drop kSmb3TransformHeaderSize
          match cipher.ccmDecrypt decryptionKey (ccmNonceFromTransformNonce payload) ciphertext
              (smb3AadFromHeader payload) tag with
          | .error e => .ok (.error e)
          | .ok plaintext =>
            if plaintext.length ≠ originalMessageSize.toNat then
              .ok (failure .protocolUnsupported
                "SMB3 decrypted message size does not match transform header.")
            else
              .ok <$> encodeDirectTcpFrame plaintext

/-! ## Encrypting and decrypting -/

variable {cipher : BlockCipher} {key payload frame : ByteVector} {sessionId : UInt64}
  {nonce : Nonce16} {dialect : Dialect}

variable (cipher sessionId nonce) in
/-- A message that leaves room for the transform header is always encrypted. -/
theorem exists_encryptFrame (hdialect : supportsAesCcmEncryption dialect = true)
    (hkey : key.length = kAesBlockSize) (hframe : encodeDirectTcpFrame payload = .ok frame)
    (hlen : payload.length ≤ 0x00FFFFFF - kSmb3TransformHeaderSize) :
    ∃ sealed,
      cipher.ccmEncrypt key (nonce.toList.take kSmb3AesCcmNonceSize) payload
        (transformAad (UInt32.ofNat payload.length) sessionId nonce dialect)
        kSmb3AesCcmTagSize = .ok sealed ∧
      cipher.encryptFrame frame key sessionId nonce dialect =
        .ok (.ok (framed (buildTransformHeader sealed.tag
          (transformAad (UInt32.ofNat payload.length) sessionId nonce dialect) ++
            sealed.ciphertext))) ∧
      encodeDirectTcpFrame (buildTransformHeader sealed.tag
          (transformAad (UInt32.ofNat payload.length) sessionId nonce dialect) ++
            sealed.ciphertext) =
        .ok (framed (buildTransformHeader sealed.tag
          (transformAad (UInt32.ofNat payload.length) sessionId nonce dialect) ++
            sealed.ciphertext)) := by
  rw [kSmb3TransformHeaderSize] at hlen
  have hnonce : (nonce.toList.take kSmb3AesCcmNonceSize).length = 11 := by
    rw [List.length_take, Vector.length_toList]
    rfl
  obtain ⟨sealed, hsealed⟩ : ∃ sealed,
      cipher.ccmEncrypt key (nonce.toList.take kSmb3AesCcmNonceSize) payload
        (transformAad (UInt32.ofNat payload.length) sessionId nonce dialect) 16 = .ok sealed :=
    exists_ccmEncrypt hkey hnonce (by rw [length_transformAad]; omega) (by omega)
  have htag : sealed.tag.length = 16 := length_tag_of_ccmEncrypt hsealed le_rfl
  have hcipher : sealed.ciphertext.length = payload.length := by
    rw [ciphertext_of_ccmEncrypt hsealed, length_ccmCrypt]
  have hfits : (buildTransformHeader sealed.tag
      (transformAad (UInt32.ofNat payload.length) sessionId nonce dialect) ++
        sealed.ciphertext).length ≤ 0x00FFFFFF := by
    simp only [buildTransformHeader, List.length_append, length_u32Le, length_transformAad, htag,
      hcipher]
    omega
  have hencode := encodeDirectTcpFrame_framed hfits
  refine ⟨sealed, hsealed, ?_, hencode⟩
  have hsize : ¬ payload.length > u32Max := by
    rw [u32Max]
    omega
  rw [encryptFrame, if_neg (not_not.2 hdialect), decodeDirectTcpPayload_encode hframe]
  dsimp only
  rw [if_neg hsize]
  have hseal : cipher.ccmEncrypt key (nonce.toList.take kSmb3AesCcmNonceSize) payload
      (transformAad (UInt32.ofNat payload.length) sessionId nonce dialect) kSmb3AesCcmTagSize =
        .ok sealed := hsealed
  rw [hseal]
  dsimp only
  rw [hencode]
  rfl

variable (cipher sessionId nonce) in
/-- **What was encrypted decrypts to the frame.** -/
theorem decryptFrame_encryptFrame (hdialect : supportsAesCcmEncryption dialect = true)
    (hkey : key.length = kAesBlockSize) (hframe : encodeDirectTcpFrame payload = .ok frame)
    (hlen : payload.length ≤ 0x00FFFFFF - kSmb3TransformHeaderSize) :
    ∃ encrypted, cipher.encryptFrame frame key sessionId nonce dialect = .ok (.ok encrypted) ∧
      cipher.decryptFrame encrypted key sessionId dialect = .ok (.ok frame) := by
  obtain ⟨sealed, hsealed, hencrypt, hencode⟩ := exists_encryptFrame cipher sessionId nonce
    hdialect hkey hframe hlen
  have htag := length_tag_of_ccmEncrypt hsealed (by rw [kSmb3AesCcmTagSize])
  have hfields : TransformFields _ sealed.tag sealed.ciphertext (UInt32.ofNat payload.length)
      sessionId nonce dialect := transformFields_build htag
  have hmessage : ¬ (_ < kSmb3TransformHeaderSize ∨ _ ≠ kSmb3TransformProtocolId) :=
    not_or.2 ⟨Nat.not_lt.2 hfields.length_le, not_not.2 hfields.protocolId⟩
  have hopen : cipher.ccmDecrypt key (nonce.toList.take kSmb3AesCcmNonceSize) sealed.ciphertext
      (transformAad (UInt32.ofNat payload.length) sessionId nonce dialect) sealed.tag =
        .ok payload := by
    rw [ccmDecrypt_eq_ok, htag]
    exact hsealed
  have hsize : payload.length = (UInt32.ofNat payload.length).toNat := by
    have hmax := length_of_encodeDirectTcpFrame hframe
    rw [UInt32.toNat_ofNat_of_lt' (by rw [UInt32.size]; omega)]
  refine ⟨_, hencrypt, ?_⟩
  rw [decryptFrame, if_neg (not_not.2 hdialect), decodeDirectTcpPayload_encode hencode]
  dsimp only
  rw [if_neg hmessage, hfields.algorithm, if_neg (not_not.2 rfl), hfields.session,
    if_neg (not_not.2 rfl), hfields.ccmNonce, hfields.ciphertext, hfields.aad, hfields.tag, hopen]
  dsimp only
  rw [hfields.messageSize, if_neg (not_not.2 hsize), hframe]
  rfl

/-- A frame encrypted for one session is refused in every other. -/
theorem decryptFrame_other (hdialect : supportsAesCcmEncryption dialect = true)
    (hkey : key.length = kAesBlockSize) (hframe : encodeDirectTcpFrame payload = .ok frame)
    (hlen : payload.length ≤ 0x00FFFFFF - kSmb3TransformHeaderSize) {encrypted : ByteVector}
    (hencrypted : cipher.encryptFrame frame key sessionId nonce dialect = .ok (.ok encrypted))
    {other : UInt64} (hother : other ≠ sessionId) :
    cipher.decryptFrame encrypted key other dialect =
      .ok (failure .protocolUnsupported
        "SMB3 response transform session id does not match the session.") := by
  obtain ⟨sealed, hsealed, hencrypt, hencode⟩ := exists_encryptFrame cipher sessionId nonce
    hdialect hkey hframe hlen
  obtain rfl := Except.ok.inj (Except.ok.inj (hencrypted.symm.trans hencrypt))
  have htag := length_tag_of_ccmEncrypt hsealed (by rw [kSmb3AesCcmTagSize])
  have hfields : TransformFields _ sealed.tag sealed.ciphertext (UInt32.ofNat payload.length)
      sessionId nonce dialect := transformFields_build htag
  have hmessage : ¬ (_ < kSmb3TransformHeaderSize ∨ _ ≠ kSmb3TransformProtocolId) :=
    not_or.2 ⟨Nat.not_lt.2 hfields.length_le, not_not.2 hfields.protocolId⟩
  rw [decryptFrame, if_neg (not_not.2 hdialect), decodeDirectTcpPayload_encode hencode]
  dsimp only
  rw [if_neg hmessage, hfields.algorithm, if_neg (not_not.2 rfl), hfields.session,
    if_pos hother.symm]

end BlockCipher

/-- **Round trip of the transform**, for every block cipher; the code's functions
    are those of AES. -/
theorem transform_roundTrip :
    (encryptSmb3DirectTcpFrame = BlockCipher.encryptFrame aes128EncryptBlock ∧
      decryptSmb3DirectTcpFrame = BlockCipher.decryptFrame aes128EncryptBlock) ∧
    ∀ (cipher : BlockCipher) (dialect : Dialect) (key payload frame : ByteVector)
      (sessionId : UInt64) (nonce : Nonce16),
      dialect = .smb300 ∨ dialect = .smb302 → key.length = 16 →
      encodeDirectTcpFrame payload = .ok frame → payload.length ≤ 0xFFFFFF - 52 →
      ∃ encrypted, cipher.encryptFrame frame key sessionId nonce dialect = .ok (.ok encrypted) ∧
        cipher.decryptFrame encrypted key sessionId dialect = .ok (.ok frame) ∧
        ∀ other, other ≠ sessionId →
          ∃ e, cipher.decryptFrame encrypted key other dialect = .ok (.error e) := by
  refine ⟨⟨rfl, rfl⟩, fun cipher dialect key payload frame sessionId nonce hdialect hkey hframe
    hlen => ?_⟩
  have hsupports : supportsAesCcmEncryption dialect = true := by
    rw [supportsAesCcmEncryption]
    simpa using hdialect
  obtain ⟨encrypted, hencrypt, hdecrypt⟩ := BlockCipher.decryptFrame_encryptFrame
    cipher sessionId nonce hsupports hkey hframe hlen
  refine ⟨encrypted, hencrypt, hdecrypt, fun other hother => ?_⟩
  rw [BlockCipher.decryptFrame_other hsupports hkey hframe hlen hencrypt hother]
  exact ⟨_, rfl⟩

/-- A frame of three bytes under a cipher that leaves every block as it is. -/
theorem transform_roundTrip_identity :
    ∃ encrypted,
      BlockCipher.encryptFrame (fun _ block => block) [0, 0, 0, 3, 7, 8, 9] (List.replicate 16 5) 1
        (.replicate 16 0) .smb300 = .ok (.ok encrypted) ∧
      BlockCipher.decryptFrame (fun _ block => block) encrypted (List.replicate 16 5) 1 .smb300 =
        .ok (.ok [0, 0, 0, 3, 7, 8, 9]) ∧
      ∀ other, other ≠ 1 → ∃ e,
        BlockCipher.decryptFrame (fun _ block => block) encrypted (List.replicate 16 5) other
          .smb300 = .ok (.error e) :=
  transform_roundTrip.2 _ .smb300 _ [7, 8, 9] _ 1 _ (.inl rfl) rfl rfl (by decide)

end SmbBrowser.Native
