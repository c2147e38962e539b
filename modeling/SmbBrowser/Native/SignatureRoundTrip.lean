import SmbBrowser.Native.Signing

/-!
# Round trip of signing

What `signSmb2DirectTcpFrame` changes in a frame and what
`verifySmb2DirectTcpFrameSignature` accepts (native_smb/Smb2Signing.cpp:612-687),
for any MAC.

Results:
* `getD_setSignedFlag`: setting the signed flag changes one bit of one byte;
* `Mac.getD_signed`: a signed frame differs from the original in the signed flag
  and in the signature field;
* `Mac.fields_of_verifyFrame`: what an accepted frame holds;
* `signature_roundTrip`: the round trip for any MAC.
-/

namespace SmbBrowser.Native

open SmbBrowser.Base

/-! ## The signed flag -/

/-- Setting a bit of the lowest byte leaves the other bytes as they are. -/
theorem leBytes_or_eight (w n : ℕ) :
    leBytes (w + 1) (n ||| 8) = (UInt8.ofNat n ||| 8) :: leBytes w (n / 256) := by
  have hhigh : (n ||| 8) / 256 = n / 256 := by
    have hshift : (n ||| 8) >>> 8 = n >>> 8 := by
      rw [Nat.shiftRight_or_distrib]
      exact Nat.or_zero _
    rw [Nat.shiftRight_eq_div_pow, Nat.shiftRight_eq_div_pow] at hshift
    exact hshift
  rw [leBytes, hhigh, UInt8.ofNat_or]
  rfl

theorem getD_u32Le_signed (flags : UInt32) (i : ℕ) :
    (u32Le (flags ||| kFlagSigned)).getD i 0 =
      if i = 0 then (u32Le flags).getD 0 0 ||| 8 else (u32Le flags).getD i 0 := by
  have hset : u32Le (flags ||| kFlagSigned) =
      (UInt8.ofNat flags.toNat ||| 8) :: leBytes 3 (flags.toNat / 256) := by
    rw [u32Le, UInt32.toNat_or]
    exact leBytes_or_eight 3 flags.toNat
  rw [hset]
  cases i with
  | zero => rfl
  | succ i => rfl

variable {payload frame signed sessionKey : ByteVector} {dialect : Dialect}

/-- Setting the signed flag sets one bit of byte 16. -/
theorem getD_setSignedFlag (h : kSmb2HeaderSize ≤ payload.length) (i : ℕ) :
    (setSignedFlag payload).getD i 0 =
      if i = kSmb2FlagsOffset then payload.getD i 0 ||| 8 else payload.getD i 0 := by
  have hflags (j : ℕ) (hj : j < 4) :
      (u32Le (flagsOf payload)).getD j 0 = payload.getD (kSmb2FlagsOffset + j) 0 := by
    rw [u32Le_flagsOf h, getD_take_ite, if_pos hj, getD_drop_add]
  rw [setSignedFlag, getD_splice, length_u32Le]
  by_cases hin : kSmb2FlagsOffset ≤ i ∧ i < kSmb2FlagsOffset + 4
  · rw [if_pos hin, getD_u32Le_signed]
    by_cases hi : i = kSmb2FlagsOffset
    · rw [if_pos (by omega), if_pos hi, hflags 0 (by omega), hi]
      rfl
    · rw [if_neg (by omega), if_neg hi, hflags _ (by omega)]
      congr 1
      omega
  · rw [if_neg hin, if_neg (by omega)]

theorem getD_encodeDirectTcpFrame (h : encodeDirectTcpFrame payload = .ok frame) (i : ℕ) :
    frame.getD i 0 =
      if i < 4 then ([0] ++ beBytes 3 payload.length).getD i 0 else payload.getD (i - 4) 0 := by
  have hprefix : ([0] ++ beBytes 3 payload.length).length = 4 := by
    rw [List.length_append, length_beBytes, List.length_singleton]
  rw [eq_of_encodeDirectTcpFrame h, ← List.append_assoc, getD_append_ite, hprefix]

namespace Mac

variable (mac : Mac)

/-- A signed frame has the length of the original and differs from it in the
    signed flag and in the signature field. -/
theorem getD_signed (hframe : encodeDirectTcpFrame payload = .ok frame)
    (h : mac.signFrame frame sessionKey dialect = .ok (.ok signed)) :
    signed.length = frame.length ∧ signed.getD 20 0 = frame.getD 20 0 ||| 8 ∧
      ∀ i, i ≠ 20 → ¬ (52 ≤ i ∧ i < 68) → signed.getD i 0 = frame.getD i 0 := by
  obtain ⟨-, hlen, digest, hdigest, hencode⟩ := (mac.signFrame_eq_ok hframe).1 h
  have hsize : digest.length = 16 := mac.length_digest hdigest
  have hmessage : (splice (setSignedFlag payload) kSmb2SignatureOffset digest).length =
      payload.length := by
    have hset := length_setSignedFlag hlen
    rw [kSmb2HeaderSize] at hlen
    rw [length_splice, hset, hsize, kSmb2SignatureOffset]
    omega
  -- outside the signature field only byte 16 of the message changes
  have hbyte (i : ℕ) (hi : ¬ (52 ≤ i ∧ i < 68)) :
      signed.getD i 0 = if i = 20 then frame.getD i 0 ||| 8 else frame.getD i 0 := by
    have houtside : ¬ (48 ≤ i - 4 ∧ i - 4 < 48 + 16) := by omega
    rw [getD_encodeDirectTcpFrame hencode, getD_encodeDirectTcpFrame hframe, hmessage]
    by_cases hhead : i < 4
    · rw [if_pos hhead, if_neg (by omega), if_pos hhead]
    · rw [if_neg hhead, if_neg hhead, getD_splice, hsize, kSmb2SignatureOffset,
        if_neg houtside, getD_setSignedFlag hlen, kSmb2FlagsOffset]
      by_cases hflags : i = 20
      · rw [if_pos (by omega), if_pos hflags]
      · rw [if_neg (by omega), if_neg hflags]
  refine ⟨?_, ?_, fun i hne hi => ?_⟩
  · rw [eq_of_encodeDirectTcpFrame hencode, eq_of_encodeDirectTcpFrame hframe]
    simp only [List.length_append, length_beBytes, hmessage]
  · rw [hbyte 20 (by omega), if_pos rfl]
  · rw [hbyte i hi, if_neg hne]

/-- **An accepted frame carries the signed flag and the MAC of its message** with
    the signature field zeroed. -/
theorem fields_of_verifyFrame (h : mac.verifyFrame frame sessionKey dialect = .ok true) :
    ∃ payload, decodeDirectTcpPayload frame = .ok payload ∧ kSmb2HeaderSize ≤ payload.length ∧
      flagsOf payload &&& kFlagSigned ≠ 0 ∧
      mac.digest dialect sessionKey (zeroSmb2Signature payload) =
        .ok ((payload.drop kSmb2SignatureOffset).take 16) := by
  have hdecode : ∃ payload, decodeDirectTcpPayload frame = .ok payload := by
    rw [verifyFrame] at h
    split at h
    · cases h
    · cases hpayload : decodeDirectTcpPayload frame with
      | error e =>
        rw [hpayload] at h
        cases h
      | ok payload => exact ⟨payload, rfl⟩
  obtain ⟨payload, hpayload⟩ := hdecode
  obtain ⟨-, hlen, hflags, hdigest⟩ := (mac.verifyFrame_eq_true hpayload).1 h
  exact ⟨payload, hpayload, hlen, hflags, hdigest⟩

end Mac

/-- **Round trip of signing**, for every MAC; the code's functions are those of
    the dialects' MAC. -/
theorem signature_roundTrip :
    (signSmb2DirectTcpFrame = smb2Mac.signFrame ∧
      verifySmb2DirectTcpFrameSignature = smb2Mac.verifyFrame) ∧
    ∀ (mac : Mac) (sessionKey : ByteVector) (dialect : Dialect),
      (∀ payload frame signed : ByteVector, encodeDirectTcpFrame payload = .ok frame →
        mac.signFrame frame sessionKey dialect = .ok (.ok signed) →
        mac.verifyFrame signed sessionKey dialect = .ok true ∧
        mac.signFrame signed sessionKey dialect = .ok (.ok signed) ∧
        signed.length = frame.length ∧ signed.getD 20 0 = frame.getD 20 0 ||| 8 ∧
        ∀ i, i ≠ 20 → ¬ (52 ≤ i ∧ i < 68) → signed.getD i 0 = frame.getD i 0) ∧
      ∀ frame : ByteVector, mac.verifyFrame frame sessionKey dialect = .ok true →
        ∃ payload, decodeDirectTcpPayload frame = .ok payload ∧ 64 ≤ payload.length ∧
          flagsOf payload &&& kFlagSigned ≠ 0 ∧
          mac.digest dialect sessionKey (zeroSmb2Signature payload) =
            .ok ((payload.drop 48).take 16) := by
  refine ⟨⟨rfl, rfl⟩, fun mac sessionKey dialect => ⟨?_, fun frame h => ?_⟩⟩
  · intro payload frame signed hframe h
    obtain ⟨-, -, digest, -, hencode⟩ := (mac.signFrame_eq_ok hframe).1 h
    have hverify := mac.verifyFrame_signFrame hframe h
    exact ⟨hverify, (mac.signFrame_eq_self hencode).2 hverify, mac.getD_signed hframe h⟩
  · exact mac.fields_of_verifyFrame h

/-- A MAC that is the same for all messages. -/
def constantMac : Mac where
  digest _ _ _ := .ok (List.replicate 16 7)
  length_digest h := by
    cases h
    rfl

set_option maxRecDepth 10000 in
/-- Signing a bare header with it. -/
theorem signature_roundTrip_constant :
    ∃ signed, constantMac.signFrame (framed (List.replicate 64 0)) [] .smb300 =
        .ok (.ok signed) ∧
      constantMac.verifyFrame signed [] .smb300 = .ok true ∧
      constantMac.signFrame signed [] .smb300 = .ok (.ok signed) ∧
      ∃ payload, decodeDirectTcpPayload signed = .ok payload ∧
        constantMac.digest .smb300 [] (zeroSmb2Signature payload) =
          .ok ((payload.drop 48).take 16) := by
  have hframe : encodeDirectTcpFrame (List.replicate 64 0) = .ok (framed (List.replicate 64 0)) :=
    by rfl
  have hsigned : constantMac.signFrame (framed (List.replicate 64 0)) [] .smb300 =
      .ok (.ok (framed (List.replicate 16 0 ++ [8] ++ List.replicate 31 0 ++
        List.replicate 16 7))) := by rfl
  obtain ⟨hsign, haccepted⟩ := signature_roundTrip.2 constantMac [] .smb300
  obtain ⟨hverify, hagain, -⟩ := hsign _ _ _ hframe hsigned
  obtain ⟨payload, hpayload, -, -, hdigest⟩ := haccepted _ hverify
  exact ⟨_, hsigned, hverify, hagain, payload, hpayload, hdigest⟩

end SmbBrowser.Native
