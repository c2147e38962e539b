import SmbBrowser.Base.BigEndian
import SmbBrowser.Native.ResponseBounds

/-!
# The header and the frame in the other direction

`decodeSmb2SyncHeader_encode` and `decodeDirectTcpPayload_encode` give back what
was encoded.  Here what was decoded is encoded again.

A decoded header does not hold the four bytes at 32, the reserved process id the
encoder always writes as `0x0000FEFF`.

Results:
* `u16Le_append_drop` and its companions: the field that was read, put back in
  front of what follows it;
* `encodeSmb2SyncHeader_decode`: canonicity of the header codec;
* `encodeDirectTcpFrame_decode`: canonicity of the framing;
* `header_and_framing_roundTrip`: both directions of both codecs.
-/

namespace SmbBrowser.Native

open SmbBrowser.Base

/-! ## Fields put back -/

theorem take_append_drop_drop (data : ByteVector) (off len : ℕ) :
    (data.drop off).take len ++ data.drop (off + len) = data.drop off := by
  rw [← List.drop_drop, List.take_append_drop]

/-- A field of any width, put back in front of what follows it. -/
theorem leBytes_append_drop {data field : ByteVector} {off w n : ℕ}
    (h : readBytes data off w = .ok field) (hn : n = leValue field) :
    leBytes w n ++ data.drop (off + w) = data.drop off := by
  obtain ⟨hle, hfield⟩ := readBytes_eq_ok.1 h
  have hlen : field.length = w := by
    rw [hfield, List.length_take, List.length_drop]
    omega
  have hbytes : leBytes w n = field := by
    rw [hn, ← hlen, leBytes_leValue]
  rw [hbytes, hfield, take_append_drop_drop]

theorem u16Le_append_drop {data : ByteVector} {off : ℕ} {v : UInt16}
    (h : readU16Le data off = .ok v) : u16Le v ++ data.drop (off + 2) = data.drop off := by
  obtain ⟨field, hfield, hv⟩ := bind_eq_ok.1 h
  have hlt := leValue_lt_of_readBytes hfield
  rw [← pure_eq_ok.1 hv]
  exact leBytes_append_drop hfield (UInt16.toNat_ofNat_of_lt hlt)

theorem u32Le_append_drop {data : ByteVector} {off : ℕ} {v : UInt32}
    (h : readU32Le data off = .ok v) : u32Le v ++ data.drop (off + 4) = data.drop off := by
  obtain ⟨field, hfield, hv⟩ := bind_eq_ok.1 h
  have hlt := leValue_lt_of_readBytes hfield
  rw [← pure_eq_ok.1 hv]
  exact leBytes_append_drop hfield (UInt32.toNat_ofNat_of_lt hlt)

theorem u64Le_append_drop {data : ByteVector} {off : ℕ} {v : UInt64}
    (h : readU64Le data off = .ok v) : u64Le v ++ data.drop (off + 8) = data.drop off := by
  obtain ⟨field, hfield, hv⟩ := bind_eq_ok.1 h
  have hlt := leValue_lt_of_readBytes hfield
  rw [← pure_eq_ok.1 hv]
  exact leBytes_append_drop hfield (UInt64.toNat_ofNat_of_lt hlt)

/-! ## Headers -/

/-- What an accepted header consists of, field by field. -/
structure Decodes (data : ByteVector) (header : Smb2SyncHeader) : Prop where
  protocolId : readU32Le data 0 = .ok kSmb2ProtocolId
  structureSize : readU16Le data 4 = .ok kSmb2HeaderStructureSize
  creditCharge : readU16Le data 6 = .ok header.creditCharge
  status : readU32Le data 8 = .ok header.status
  command : readU16Le data 12 = .ok header.command.code
  creditRequest : readU16Le data 14 = .ok header.creditRequest
  flags : readU32Le data 16 = .ok header.flags
  nextCommand : readU32Le data 20 = .ok header.nextCommand
  messageId : readU64Le data 24 = .ok header.messageId
  treeId : readU32Le data 36 = .ok header.treeId
  sessionId : readU64Le data 40 = .ok header.sessionId
  signature : readBytes data 48 16 = .ok header.signature.toList

theorem decodes_of_decodeSmb2SyncHeader {data : ByteVector} {header : Smb2SyncHeader}
    (h : decodeSmb2SyncHeader data = .ok header) : Decodes data header := by
  rw [decodeSmb2SyncHeader] at h
  split at h
  · cases h
  obtain ⟨protocolId, hprotocolId, h⟩ := bind_eq_ok.1 h
  split at h
  · cases h
  rename_i hid
  obtain ⟨structureSize, hstructureSize, h⟩ := bind_eq_ok.1 h
  split at h
  · cases h
  rename_i hsize
  obtain ⟨signature, hsignature, h⟩ := bind_eq_ok.1 h
  obtain ⟨creditCharge, hcreditCharge, h⟩ := bind_eq_ok.1 h
  obtain ⟨status, hstatus, h⟩ := bind_eq_ok.1 h
  obtain ⟨command, hcommand, h⟩ := bind_eq_ok.1 h
  obtain ⟨creditRequest, hcreditRequest, h⟩ := bind_eq_ok.1 h
  obtain ⟨flags, hflags, h⟩ := bind_eq_ok.1 h
  obtain ⟨nextCommand, hnextCommand, h⟩ := bind_eq_ok.1 h
  obtain ⟨messageId, hmessageId, h⟩ := bind_eq_ok.1 h
  obtain ⟨treeId, htreeId, h⟩ := bind_eq_ok.1 h
  obtain ⟨sessionId, hsessionId, h⟩ := bind_eq_ok.1 h
  obtain rfl := pure_eq_ok.1 h
  rw [not_not.1 hid] at hprotocolId
  rw [not_not.1 hsize] at hstructureSize
  have hlen : signature.length = 16 := by
    obtain ⟨hle, hbytes⟩ := readBytes_eq_ok.1 hsignature
    rw [hbytes, List.length_take, List.length_drop]
    omega
  have hlist : (Vector.ofFn fun i : Fin 16 => signature[i.val]?.getD 0).toList = signature := by
    apply List.ext_getElem
    · simp [hlen]
    · intro i h₁ h₂
      simp [h₂]
  exact ⟨hprotocolId, hstructureSize, hcreditCharge, hstatus, hcommand, hcreditRequest, hflags,
    hnextCommand, hmessageId, htreeId, hsessionId, hlist.symm ▸ hsignature⟩

/-- **Canonicity of the header**: what is decoded from 64 bytes with the reserved
    process id encodes to these bytes. -/
theorem encodeSmb2SyncHeader_decode {data : ByteVector} {header : Smb2SyncHeader}
    (hlen : data.length = 64) (hprocess : readU32Le data 32 = .ok kSmb2ProcessId)
    (h : decodeSmb2SyncHeader data = .ok header) : encodeSmb2SyncHeader header = data := by
  have hfields := decodes_of_decodeSmb2SyncHeader h
  obtain ⟨_, hsignature⟩ := readBytes_eq_ok.1 hfields.signature
  have htail : header.signature.toList = data.drop 48 := by
    rw [hsignature, List.take_of_length_le]
    rw [List.length_drop]
    omega
  rw [encodeSmb2SyncHeader, htail, u64Le_append_drop hfields.sessionId,
    u32Le_append_drop hfields.treeId, u32Le_append_drop hprocess,
    u64Le_append_drop hfields.messageId, u32Le_append_drop hfields.nextCommand,
    u32Le_append_drop hfields.flags, u16Le_append_drop hfields.creditRequest,
    u16Le_append_drop hfields.command, u32Le_append_drop hfields.status,
    u16Le_append_drop hfields.creditCharge, u16Le_append_drop hfields.structureSize,
    u32Le_append_drop hfields.protocolId, List.drop_zero]

/-! ## Frames -/

/-- The header of a frame that declares a length. -/
theorem frame_of_decodeDirectTcpPayloadLength {frame : ByteVector} {length : ℕ}
    (h : decodeDirectTcpPayloadLength frame = .ok length) :
    length ≤ 0x00FFFFFF ∧ 0 :: (beBytes 3 length ++ frame.drop 4) = frame := by
  rw [decodeDirectTcpPayloadLength] at h
  split at h
  · cases h
  obtain ⟨marker, hmarker, h⟩ := bind_eq_ok.1 h
  split at h
  · cases h
  rename_i hzero
  obtain ⟨field, hfield, h⟩ := bind_eq_ok.1 h
  have hlength : beValue field = length := pure_eq_ok.1 h
  obtain ⟨byte, hbyte, hvalue⟩ := bind_eq_ok.1 hmarker
  have hmarkerZero : leValue byte = 0 := by
    have hlt := leValue_lt_of_readBytes hbyte
    have htoNat := congrArg UInt8.toNat ((pure_eq_ok.1 hvalue).trans (not_not.1 hzero))
    rw [toNat_ofNat_uint8] at htoNat
    have hnone : (0 : UInt8).toNat = 0 := rfl
    omega
  have hfirst : 0 :: frame.drop 1 = frame := leBytes_append_drop hbyte hmarkerZero.symm
  obtain ⟨hle, hslice⟩ := readBytes_eq_ok.1 hfield
  have hfieldLength : field.length = 3 := by
    rw [hslice, List.length_take, List.length_drop]
    omega
  have hbytes : beBytes 3 length = field := by
    rw [← hlength, ← hfieldLength, beBytes_beValue]
  have hlt := beValue_lt field
  rw [hfieldLength, hlength] at hlt
  constructor
  · omega
  · rw [hbytes, hslice, take_append_drop_drop]
    exact hfirst

/-- **Canonicity of the framing**: a frame as long as it declares is the encoding
    of its payload. -/
theorem encodeDirectTcpFrame_decode {frame payload : ByteVector} {length : ℕ}
    (hdeclared : decodeDirectTcpPayloadLength frame = .ok length)
    (hlen : frame.length = 4 + length) (h : decodeDirectTcpPayload frame = .ok payload) :
    encodeDirectTcpFrame payload = .ok frame := by
  obtain ⟨hmax, hframe⟩ := frame_of_decodeDirectTcpPayloadLength hdeclared
  rw [decodeDirectTcpPayload, hdeclared] at h
  dsimp only at h
  split at h
  · cases h
  have hpayload : payload = frame.drop 4 := by
    obtain ⟨_, hslice⟩ := readBytes_eq_ok.1 h
    rw [hslice, kDirectTcpHeaderSize, List.take_of_length_le]
    rw [List.length_drop]
    omega
  have hpayloadLength : payload.length = length := by
    rw [hpayload, List.length_drop]
    omega
  rw [encodeDirectTcpFrame_framed (by omega), framed, hpayloadLength, hpayload, hframe]

/-- A message of at most `0xFFFFFF` bytes comes back from its frame. -/
theorem decodeDirectTcpPayload_framed {message : ByteVector} (h : message.length ≤ 0x00FFFFFF) :
    ∃ frame, encodeDirectTcpFrame message = .ok frame ∧
      decodeDirectTcpPayload frame = .ok message := by
  have hencode := encodeDirectTcpFrame_framed h
  exact ⟨framed message, hencode, decodeDirectTcpPayload_encode hencode⟩

/-- **The header codec and the framing are inverse in both directions.** -/
theorem header_and_framing_roundTrip :
    (∀ header : Smb2SyncHeader,
      decodeSmb2SyncHeader (encodeSmb2SyncHeader header) = .ok header) ∧
    (∀ (data : ByteVector) (header : Smb2SyncHeader), data.length = 64 →
      readU32Le data 32 = .ok 0x0000FEFF → decodeSmb2SyncHeader data = .ok header →
        encodeSmb2SyncHeader header = data) ∧
    (∀ message : ByteVector, message.length ≤ 0xFFFFFF →
      ∃ frame, encodeDirectTcpFrame message = .ok frame ∧
        decodeDirectTcpPayload frame = .ok message) ∧
    (∀ (frame payload : ByteVector) (length : ℕ),
      decodeDirectTcpPayloadLength frame = .ok length → frame.length = 4 + length →
      decodeDirectTcpPayload frame = .ok payload → encodeDirectTcpFrame payload = .ok frame) := by
  refine ⟨?_, ?_, ?_, ?_⟩
  · intro header
    have hround := decodeSmb2SyncHeader_encode header []
    rwa [List.append_nil] at hround
  · intro data header hlen hprocess h
    exact encodeSmb2SyncHeader_decode hlen hprocess h
  · intro message hlen
    exact decodeDirectTcpPayload_framed hlen
  · intro frame payload length hdeclared hlen h
    exact encodeDirectTcpFrame_decode hdeclared hlen h

/-- A header and a frame, both ways. -/
theorem header_and_framing_roundTrip_short :
    decodeSmb2SyncHeader (encodeSmb2SyncHeader { messageId := 5 }) = .ok { messageId := 5 } ∧
      encodeSmb2SyncHeader { messageId := 5 } = encodeSmb2SyncHeader { messageId := 5 } ∧
      (∃ frame, encodeDirectTcpFrame [7, 8] = .ok frame ∧
        decodeDirectTcpPayload frame = .ok [7, 8]) ∧
      encodeDirectTcpFrame [7, 8] = .ok [0, 0, 0, 2, 7, 8] :=
  have hround := header_and_framing_roundTrip
  have hheader := hround.1 { messageId := 5 }
  ⟨hheader, hround.2.1 _ _ rfl rfl hheader, hround.2.2.1 [7, 8] (by decide),
    hround.2.2.2 [0, 0, 0, 2, 7, 8] [7, 8] 2 rfl rfl rfl⟩

end SmbBrowser.Native
