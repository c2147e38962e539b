import SmbBrowser.Native.ResponseBounds
import SmbBrowser.Native.Rpc

/-!
# RPC messages are read inside their bytes

The decoders of native_smb/Dcerpc.cpp and native_smb/SrvsRpc.cpp on every byte string.

Results:
* `bytesInFragment_bindAck`, `bytesInFragment_response`: what follows the declared fragment
  is not looked at;
* `decodeNetrShareEnumResponseStub_strings`: the strings of a listing are slices of the stub;
* `rpc_inside`: the three decoders.
-/

namespace SmbBrowser.Native

open SmbBrowser.Base

/-! ## Reads in a front part -/

section

variable {data : ByteVector} {n off len : ℕ}

theorem readBytes_take (h : off + len ≤ n) (hn : n ≤ data.length) :
    readBytes (data.take n) off len = readBytes data off len := by
  rw [readBytes_of_le (by rw [List.length_take]; omega), readBytes_of_le (by omega),
    List.drop_take, List.take_take, Nat.min_eq_left (by omega)]

theorem readU8_take (h : off + 1 ≤ n) (hn : n ≤ data.length) :
    readU8 (data.take n) off = readU8 data off := by
  rw [readU8, readU8, readBytes_take h hn]

theorem readU16Le_take (h : off + 2 ≤ n) (hn : n ≤ data.length) :
    readU16Le (data.take n) off = readU16Le data off := by
  rw [readU16Le, readU16Le, readBytes_take h hn]

theorem readU32Le_take (h : off + 4 ≤ n) (hn : n ≤ data.length) :
    readU32Le (data.take n) off = readU32Le data off := by
  rw [readU32Le, readU32Le, readBytes_take h hn]

end

/-! ## PDUs -/

section

variable {data : ByteVector} {type : UInt8} {n : ℕ}

/-- The header of a PDU is read without a failure; a valid one declares a fragment inside
    the bytes. -/
theorem validateCommonHeader_cases (data : ByteVector) (type : UInt8) :
    validateCommonHeader data type = .ok none ∨
      ∃ n, validateCommonHeader data type = .ok (some n) ∧ readNumber data 8 2 = .ok n ∧
        16 ≤ n ∧ n ≤ data.length := by
  unfold validateCommonHeader
  rw [kDcerpcCommonHeaderSize]
  by_cases hlen : data.length < 16
  · rw [if_pos hlen]
    exact .inl rfl
  rw [if_neg hlen]
  simp (disch := omega) only [readU8_of_le, ok_bind]
  split
  · exact .inl rfl
  split
  · exact .inl rfl
  split
  · exact .inl rfl
  obtain ⟨length, hlength⟩ : ∃ length, readU16Le data 8 = .ok length :=
    ⟨_, readU16Le_of_le (by omega)⟩
  rw [hlength, ok_bind]
  split
  · rename_i hfits
    exact .inr ⟨_, rfl, readNumber_of_readU16Le hlength, hfits⟩
  · exact .inl rfl

/-- The header is read in its own 16 bytes, and compared with the end of the bytes. -/
theorem validateCommonHeader_take (h : readNumber data 8 2 = .ok n) :
    validateCommonHeader (data.take (max 16 n)) type = validateCommonHeader data type := by
  by_cases hshort : data.length < max 16 n
  · rw [List.take_of_length_le (by omega)]
  obtain ⟨length, hlength⟩ : ∃ length, readU16Le data 8 = .ok length :=
    ⟨_, readU16Le_of_le (by omega)⟩
  obtain rfl : length.toNat = n :=
    Except.ok.inj ((readNumber_of_readU16Le hlength).symm.trans h)
  have hmax : max 16 length.toNat ≤ data.length := by omega
  have htake : (data.take (max 16 length.toNat)).length = max 16 length.toNat := by
    rw [List.length_take, Nat.min_eq_left hmax]
  unfold validateCommonHeader
  rw [htake, kDcerpcCommonHeaderSize, if_neg (by omega), if_neg (by omega)]
  simp (disch := omega) only [readU8_take, readU16Le_take]
  rw [hlength]
  simp only [ok_bind]
  have hsame : (16 ≤ length.toNat ∧ length.toNat ≤ max 16 length.toNat) =
      (16 ≤ length.toNat ∧ length.toNat ≤ data.length) := by
    refine propext ?_
    omega
  simp only [hsame]

/-- A PDU decoder reads inside the bytes, and looks at nothing behind the common header and
    the declared fragment. -/
structure BytesInFragment {α : Type} (decode : ByteVector → DecodeResult α) (data : ByteVector) :
    Prop where
  inside : ReadsInside (decode data)
  fragment : ∀ n, readNumber data 8 2 = .ok n →
    ReadsInside (decode (data.take (max 16 n))) ∧ decode (data.take (max 16 n)) = decode data

theorem decodeDcerpcBindAck_inside (data : ByteVector) :
    ReadsInside (decodeDcerpcBindAck data) := by
  unfold decodeDcerpcBindAck
  obtain hheader | ⟨n, hheader, -, hn, hlen⟩ :=
    validateCommonHeader_cases data kDcerpcPacketTypeBindAck
  · rw [hheader]
    exact (failsWith_failure ..).2 (by decide)
  rw [hheader, ok_bind]
  dsimp only
  refine .ite (fun _ => (failsWith_failure ..).2 (by decide)) fun hbody => ?_
  simp (disch := omega) only [readU16Le_of_le, readU32Le_of_le, ok_bind]
  refine .ite (fun _ => (failsWith_failure ..).2 (by decide)) fun haddress => ?_
  refine .ite (fun _ => (failsWith_failure ..).2 (by decide)) fun hresults => ?_
  simp (disch := omega) only [readU8_of_le, ok_bind]
  refine .ite (fun _ => (failsWith_failure ..).2 (by decide)) fun hresult => ?_
  rw [not_or] at hresult
  simp (disch := omega) only [readU16Le_of_le, readBytes_of_le, ok_bind]
  refine .ite (fun _ => (failsWith_failure ..).2 (by decide)) fun _ => ?_
  exact failsWith_ok _

theorem decodeDcerpcBindAck_take (h : readNumber data 8 2 = .ok n) :
    decodeDcerpcBindAck (data.take (max 16 n)) = decodeDcerpcBindAck data := by
  unfold decodeDcerpcBindAck
  rw [validateCommonHeader_take h]
  obtain hheader | ⟨n', hheader, hn', hheaderFits, hlen⟩ :=
    validateCommonHeader_cases data kDcerpcPacketTypeBindAck
  · rw [hheader]
    rfl
  obtain rfl : n' = n := Except.ok.inj (hn'.symm.trans h)
  rw [hheader, Nat.max_eq_right hheaderFits]
  simp only [ok_bind]
  split
  · rfl
  simp (disch := omega) only [readU16Le_take, readU32Le_take]
  refine bind_congr fun _ => bind_congr fun _ => bind_congr fun _ => bind_congr fun _ => ?_
  split
  · rfl
  split
  · rfl
  rw [readU8_take (by omega) hlen]
  refine bind_congr fun resultCount => ?_
  split
  · rfl
  rename_i hresult
  rw [not_or] at hresult
  simp (disch := omega) only [readBytes_take]

theorem decodeDcerpcResponse_inside (data : ByteVector) :
    ReadsInside (decodeDcerpcResponse data) := by
  unfold decodeDcerpcResponse
  obtain hheader | ⟨n, hheader, -, hn, hlen⟩ :=
    validateCommonHeader_cases data kDcerpcPacketTypeResponse
  · rw [hheader]
    exact (failsWith_failure ..).2 (by decide)
  rw [hheader, ok_bind, kDcerpcCommonHeaderSize]
  dsimp only
  refine .ite (fun _ => (failsWith_failure ..).2 (by decide)) fun hbody => ?_
  simp (disch := omega) only [readU16Le_of_le, readU32Le_of_le, readBytes_of_le, ok_bind]
  exact failsWith_ok _

theorem decodeDcerpcResponse_take (h : readNumber data 8 2 = .ok n) :
    decodeDcerpcResponse (data.take (max 16 n)) = decodeDcerpcResponse data := by
  unfold decodeDcerpcResponse
  rw [validateCommonHeader_take h]
  obtain hheader | ⟨n', hheader, hn', hheaderFits, hlen⟩ :=
    validateCommonHeader_cases data kDcerpcPacketTypeResponse
  · rw [hheader]
    rfl
  obtain rfl : n' = n := Except.ok.inj (hn'.symm.trans h)
  rw [hheader, Nat.max_eq_right hheaderFits, kDcerpcCommonHeaderSize]
  simp only [ok_bind]
  split
  · rfl
  simp (disch := omega) only [readU16Le_take, readU32Le_take, readBytes_take]

theorem bytesInFragment_bindAck (data : ByteVector) :
    BytesInFragment decodeDcerpcBindAck data where
  inside := decodeDcerpcBindAck_inside data
  fragment _ h := ⟨decodeDcerpcBindAck_inside _, decodeDcerpcBindAck_take h⟩

theorem bytesInFragment_response (data : ByteVector) :
    BytesInFragment decodeDcerpcResponse data where
  inside := decodeDcerpcResponse_inside data
  fragment _ h := ⟨decodeDcerpcResponse_inside _, decodeDcerpcResponse_take h⟩

/-- The stub is what follows the headers in the declared fragment. -/
def StubOf (data stubData : ByteVector) : Prop :=
  ∃ n, readNumber data 8 2 = .ok n ∧ 24 ≤ n ∧ n ≤ data.length ∧
    stubData = (data.drop 24).take (n - 24)

theorem decodeDcerpcResponse_stub {response : DcerpcResponse}
    (h : decodeDcerpcResponse data = .ok response) : StubOf data response.stubData := by
  unfold decodeDcerpcResponse at h
  obtain hheader | ⟨n, hheader, hn, hheaderFits, hlen⟩ :=
    validateCommonHeader_cases data kDcerpcPacketTypeResponse
  · rw [hheader] at h
    cases h
  rw [hheader, ok_bind, kDcerpcCommonHeaderSize] at h
  dsimp only at h
  split at h
  · cases h
  simp (disch := omega) only [readU16Le_of_le, readU32Le_of_le, readBytes_of_le, ok_bind] at h
  rw [pure_eq_ok] at h
  rw [← h]
  exact ⟨n, hn, by omega, hlen, rfl⟩

end

/-! ## The parts of a listing -/

/-- Whether the last code unit of a text is its terminator. -/
def ndrTerminated (data : ByteVector) (offset byteCount : ℕ) : DecodeResult Bool := do
  if byteCount ≥ 2 then
    return (← readU16Le data (offset + byteCount - 2)) == 0
  else
    return false

/-- The code units of a text, and the cursor at the next multiple of four behind them. -/
def ndrReadUnits (data : ByteVector) (offset byteCount : ℕ) (otherwise : String) :
    DecodeResult (ByteVector × ℕ) := do
  let terminated ← ndrTerminated data offset byteCount
  let decodeBytes := if terminated then byteCount - 2 else byteCount
  match decodeUtf16Le (← readBytes data offset decodeBytes) with
  | .error _ => failure .ioError otherwise
  | .ok text =>
    let aligned := (offset + byteCount + 3) / 4 * 4
    if aligned > data.length then failure .ioError otherwise else return (text, aligned)

theorem ndrReadUtf16String_eq (data : ByteVector) (offset : ℕ) (otherwise : String) :
    ndrReadUtf16String data offset otherwise = (do
      let (maxCount, offset) ← ndrReadU32 data offset otherwise
      let (offsetCount, offset) ← ndrReadU32 data offset otherwise
      let (actualCount, offset) ← ndrReadU32 data offset otherwise
      let byteCount := actualCount.toNat * 2
      if offsetCount ≠ 0 ∨ actualCount > maxCount then
        failure .ioError otherwise
      else if offset + byteCount > data.length then
        failure .ioError otherwise
      else
        ndrReadUnits data offset byteCount otherwise) := by
  refine bind_congr fun _ => bind_congr fun _ => bind_congr fun _ => ?_
  dsimp only
  split
  · rfl
  split
  · rfl
  unfold ndrReadUnits ndrTerminated
  split
  · exact (bind_assoc _ _ _).symm
  · rfl

/-- The counts of a container, when there is one. -/
def ndrReadContainer (data : ByteVector) (containerPointer : UInt32) (offset : ℕ) :
    DecodeResult (UInt32 × UInt32 × ℕ) := do
  if containerPointer ≠ 0 then
    let truncated := "NetrShareEnum response share container is truncated."
    let (entriesRead, offset) ← ndrReadU32 data offset truncated
    let (bufferPointer, offset) ← ndrReadU32 data offset truncated
    return (entriesRead, bufferPointer, offset)
  else
    return (0, 0, offset)

/-- The resume handle, when there is one. -/
def ndrReadResumeHandle (data : ByteVector) (resumePointer : UInt32) (offset : ℕ) :
    DecodeResult (Option UInt32 × ℕ) := do
  if resumePointer ≠ 0 then
    let (resume, offset) ← ndrReadU32 data offset
      "NetrShareEnum response resume handle is truncated."
    return (some resume, offset)
  else
    return (none, offset)

theorem decodeNetrShareEnumResponseStub_eq (data : ByteVector) :
    decodeNetrShareEnumResponseStub data = (do
      let truncated := "NetrShareEnum response is truncated before share list."
      let (level, offset) ← ndrReadU32 data 0 truncated
      let (unionLevel, offset) ← ndrReadU32 data offset truncated
      let (containerPointer, offset) ← ndrReadU32 data offset truncated
      if level ≠ 1 ∨ unionLevel ≠ 1 then
        failure .ioError "NetrShareEnum response uses an unsupported info level."
      else
        let (entriesRead, bufferPointer, offset) ← ndrReadContainer data containerPointer offset
        let (shares, offset) ← ndrReadShareArray data entriesRead bufferPointer offset
        let (totalEntries, offset) ← ndrReadU32 data offset
          "NetrShareEnum response is missing total entries."
        let (resumePointer, offset) ← ndrReadU32 data offset
          "NetrShareEnum response is missing resume handle pointer."
        let (resumeHandle, offset) ← ndrReadResumeHandle data resumePointer offset
        let (apiStatus, _) ← ndrReadU32 data offset "NetrShareEnum response is missing API status."
        let moreData : Bool := apiStatus = kNetApiStatusMoreData
        if apiStatus ≠ kNetApiStatusSuccess ∧ ¬ moreData then
          failure (if apiStatus = 5 then .permissionDenied else .networkError)
            "NetrShareEnum returned a non-success NET_API_STATUS."
        else
          return { shares, totalEntries, resumeHandle, apiStatus, moreData }) := by
  refine bind_congr fun _ => bind_congr fun _ => bind_congr fun _ => ?_
  dsimp only
  split
  · rfl
  unfold ndrReadContainer ndrReadResumeHandle
  split
  · simp only [bind_assoc, pure_bind]
    refine bind_congr fun _ => bind_congr fun _ => bind_congr fun _ => bind_congr fun _ => ?_
    refine bind_congr fun _ => ?_
    split
    · simp only [bind_assoc, pure_bind]
    · rfl
  · simp only [pure_bind]
    refine bind_congr fun _ => bind_congr fun _ => bind_congr fun _ => ?_
    split
    · simp only [bind_assoc, pure_bind]
    · rfl

/-! ## Listings -/

section

variable {data : ByteVector} {offset : ℕ} {otherwise : String}

theorem ndrReadU32_inside : ReadsInside (ndrReadU32 data offset otherwise) := by
  unfold ndrReadU32
  refine .ite (fun _ => (failsWith_failure ..).2 (by decide)) fun hlen => ?_
  rw [readU32Le_of_le (by omega), ok_bind]
  exact failsWith_ok _

/-- A number of the stub: four bytes of it, and the cursor behind them. -/
theorem of_ndrReadU32 {value : UInt32} {next : ℕ}
    (h : ndrReadU32 data offset otherwise = .ok (value, next)) :
    readNumber data offset 4 = .ok value.toNat ∧ next = offset + 4 ∧ offset + 4 ≤ data.length := by
  unfold ndrReadU32 at h
  split at h
  · cases h
  obtain ⟨value', hvalue, h⟩ := bind_eq_ok.1 h
  rw [pure_eq_ok] at h
  obtain ⟨rfl, rfl⟩ := Prod.mk.inj h
  exact ⟨readNumber_of_readU32Le hvalue, rfl, by omega⟩

theorem ndrReadUtf16String_inside : ReadsInside (ndrReadUtf16String data offset otherwise) := by
  rw [ndrReadUtf16String_eq]
  refine ndrReadU32_inside.bind ?_
  rintro ⟨maxCount, offset₁⟩ -
  refine ndrReadU32_inside.bind ?_
  rintro ⟨offsetCount, offset₂⟩ -
  refine ndrReadU32_inside.bind ?_
  rintro ⟨actualCount, offset₃⟩ -
  dsimp only
  refine .ite (fun _ => (failsWith_failure ..).2 (by decide)) fun _ => ?_
  refine .ite (fun _ => (failsWith_failure ..).2 (by decide)) fun hfits => ?_
  unfold ndrReadUnits
  refine FailsWith.bind ?_ fun terminated _ => ?_
  · refine .ite (fun hsize => ?_) fun _ => failsWith_pure _
    rw [readU16Le_of_le (by omega), ok_bind]
    exact failsWith_pure _
  dsimp only
  rw [readBytes_of_le (by split <;> omega), ok_bind]
  split
  · exact (failsWith_failure ..).2 (by decide)
  · exact .ite (fun _ => (failsWith_failure ..).2 (by decide)) fun _ => failsWith_pure _

/-- A text of the stub, with the count in front of it: its code units are a slice, of the
    stated length or without a terminator. -/
def NdrText (data text : ByteVector) : Prop :=
  ∃ off count len, readNumber data (off + 8) 4 = .ok count ∧ off + 12 + 2 * count ≤ data.length ∧
    (len = 2 * count ∨ len + 2 = 2 * count) ∧
    decodeUtf16Le ((data.drop (off + 12)).take len) = .ok text

theorem of_ndrReadUtf16String {text : ByteVector} {next : ℕ}
    (h : ndrReadUtf16String data offset otherwise = .ok (text, next)) : NdrText data text := by
  rw [ndrReadUtf16String_eq] at h
  obtain ⟨⟨maxCount, offset₁⟩, hmax, h⟩ := bind_eq_ok.1 h
  obtain ⟨⟨offsetCount, offset₂⟩, hoffset, h⟩ := bind_eq_ok.1 h
  obtain ⟨⟨actualCount, offset₃⟩, hactual, h⟩ := bind_eq_ok.1 h
  obtain ⟨-, rfl, -⟩ := of_ndrReadU32 hmax
  obtain ⟨-, rfl, -⟩ := of_ndrReadU32 hoffset
  obtain ⟨hcount, rfl, -⟩ := of_ndrReadU32 hactual
  dsimp only at h
  split at h
  · cases h
  split at h
  · cases h
  unfold ndrReadUnits at h
  obtain ⟨terminated, hterminated, h⟩ := bind_eq_ok.1 h
  dsimp only at h
  rw [readBytes_of_le (by split <;> omega), ok_bind] at h
  split at h
  · cases h
  rename_i text' hdecode
  split at h
  · cases h
  rw [pure_eq_ok] at h
  obtain ⟨rfl, -⟩ := Prod.mk.inj h
  refine ⟨offset, actualCount.toNat, _, hcount, by omega, ?_, hdecode⟩
  split
  · rename_i hyes
    unfold ndrTerminated at hterminated
    rw [hyes] at hterminated
    split at hterminated
    · omega
    · cases hterminated
  · omega

theorem ndrReadShareRecords_inside (count offset : ℕ) :
    ReadsInside (ndrReadShareRecords data count offset) := by
  induction count generalizing offset with
  | zero => exact failsWith_ok _
  | succ count ih =>
    unfold ndrReadShareRecords
    refine ndrReadU32_inside.bind fun _ _ => ndrReadU32_inside.bind fun _ _ => ?_
    refine ndrReadU32_inside.bind fun _ _ => (ih _).bind fun _ _ => ?_
    exact failsWith_pure _

theorem ndrReadDeferredString_inside {pointer : UInt32} :
    ReadsInside (ndrReadDeferredString data pointer offset otherwise) :=
  .ite (fun _ => ndrReadUtf16String_inside) fun _ => failsWith_ok _

theorem ndrReadShares_inside (items : List DeferredShare) (offset : ℕ) :
    ReadsInside (ndrReadShares data items offset) := by
  induction items generalizing offset with
  | nil => exact failsWith_ok _
  | cons item items ih =>
    unfold ndrReadShares
    refine ndrReadDeferredString_inside.bind fun _ _ => ?_
    refine ndrReadDeferredString_inside.bind fun _ _ => (ih _).bind fun _ _ => ?_
    exact failsWith_pure _

theorem ndrReadShareArray_inside {entriesRead bufferPointer : UInt32} :
    ReadsInside (ndrReadShareArray data entriesRead bufferPointer offset) := by
  refine .ite (fun _ => ?_) fun _ => ?_
  · refine ndrReadU32_inside.bind fun _ _ => ?_
    refine .ite (fun _ => (failsWith_failure ..).2 (by decide)) fun _ => ?_
    exact (ndrReadShareRecords_inside _ _).bind fun _ _ => ndrReadShares_inside _ _
  · exact .ite (fun _ => (failsWith_failure ..).2 (by decide)) fun _ => failsWith_pure _

theorem decodeNetrShareEnumResponseStub_inside (data : ByteVector) :
    ReadsInside (decodeNetrShareEnumResponseStub data) := by
  rw [decodeNetrShareEnumResponseStub_eq]
  refine ndrReadU32_inside.bind fun _ _ => ndrReadU32_inside.bind fun _ _ => ?_
  refine ndrReadU32_inside.bind fun _ _ => ?_
  refine .ite (fun _ => (failsWith_failure ..).2 (by decide)) fun _ => ?_
  refine FailsWith.bind ?_ fun _ _ => ?_
  · refine .ite (fun _ => ?_) fun _ => failsWith_pure _
    exact ndrReadU32_inside.bind fun _ _ => ndrReadU32_inside.bind fun _ _ => failsWith_pure _
  refine ndrReadShareArray_inside.bind fun _ _ => ndrReadU32_inside.bind fun _ _ => ?_
  refine ndrReadU32_inside.bind fun _ _ => ?_
  refine FailsWith.bind ?_ fun _ _ => ?_
  · refine .ite (fun _ => ?_) fun _ => failsWith_pure _
    exact ndrReadU32_inside.bind fun _ _ => failsWith_pure _
  refine ndrReadU32_inside.bind fun _ _ => ?_
  refine .ite (fun _ => (failsWith_failure ..).2 ?_) fun _ => failsWith_pure _
  split <;> decide

/-- A text a pointer leads to, or the empty one of a null pointer. -/
def DeferredText (data text : ByteVector) : Prop := text = [] ∨ NdrText data text

theorem of_ndrReadDeferredString {pointer : UInt32} {text : ByteVector} {next : ℕ}
    (h : ndrReadDeferredString data pointer offset otherwise = .ok (text, next)) :
    DeferredText data text := by
  unfold ndrReadDeferredString at h
  split at h
  · exact .inr (of_ndrReadUtf16String h)
  · exact .inl (Prod.mk.inj (Except.ok.inj h)).1.symm

theorem of_ndrReadShares {items : List DeferredShare} {shares : List SrvsShareInfo} {next : ℕ}
    (h : ndrReadShares data items offset = .ok (shares, next)) :
    ∀ share ∈ shares, DeferredText data share.name ∧ DeferredText data share.comment := by
  induction items generalizing offset shares next with
  | nil =>
    obtain ⟨rfl, -⟩ := Prod.mk.inj (Except.ok.inj h)
    simp
  | cons item items ih =>
    unfold ndrReadShares at h
    obtain ⟨⟨name, offset₁⟩, hname, h⟩ := bind_eq_ok.1 h
    obtain ⟨⟨comment, offset₂⟩, hcomment, h⟩ := bind_eq_ok.1 h
    obtain ⟨⟨rest, offset₃⟩, hrest, h⟩ := bind_eq_ok.1 h
    rw [pure_eq_ok] at h
    obtain ⟨rfl, -⟩ := Prod.mk.inj h
    intro share hshare
    rcases List.mem_cons.1 hshare with rfl | hshare
    · exact ⟨of_ndrReadDeferredString hname, of_ndrReadDeferredString hcomment⟩
    · exact ih hrest share hshare

/-- The names and comments of a listing. -/
theorem decodeNetrShareEnumResponseStub_strings {response : SrvsShareEnumResponse}
    (h : decodeNetrShareEnumResponseStub data = .ok response) :
    ∀ share ∈ response.shares, DeferredText data share.name ∧ DeferredText data share.comment := by
  rw [decodeNetrShareEnumResponseStub_eq] at h
  obtain ⟨⟨level, offset₁⟩, -, h⟩ := bind_eq_ok.1 h
  obtain ⟨⟨unionLevel, offset₂⟩, -, h⟩ := bind_eq_ok.1 h
  obtain ⟨⟨containerPointer, offset₃⟩, -, h⟩ := bind_eq_ok.1 h
  dsimp only at h
  split at h
  · cases h
  obtain ⟨⟨entriesRead, bufferPointer, offset₄⟩, -, h⟩ := bind_eq_ok.1 h
  obtain ⟨⟨shares, offset₅⟩, hshares, h⟩ := bind_eq_ok.1 h
  obtain ⟨⟨totalEntries, offset₆⟩, -, h⟩ := bind_eq_ok.1 h
  obtain ⟨⟨resumePointer, offset₇⟩, -, h⟩ := bind_eq_ok.1 h
  obtain ⟨⟨resumeHandle, offset₈⟩, -, h⟩ := bind_eq_ok.1 h
  obtain ⟨⟨apiStatus, offset₉⟩, -, h⟩ := bind_eq_ok.1 h
  dsimp only at h
  split at h
  · cases h
  rw [pure_eq_ok] at h
  rw [← h]
  dsimp only at hshares ⊢
  unfold ndrReadShareArray at hshares
  split at hshares
  · obtain ⟨⟨arrayCount, offset₁⟩, -, hshares⟩ := bind_eq_ok.1 hshares
    dsimp only at hshares
    split at hshares
    · cases hshares
    obtain ⟨⟨deferred, offset₂⟩, -, hshares⟩ := bind_eq_ok.1 hshares
    exact of_ndrReadShares hshares
  · split at hshares
    · cases hshares
    · obtain ⟨rfl, -⟩ := Prod.mk.inj (Except.ok.inj hshares)
      simp

end

/-- **The RPC decoders** read inside their bytes and the PDU decoders inside the declared
    fragment, and what they return are slices. -/
theorem rpc_inside (data : ByteVector) :
    BytesInFragment decodeDcerpcBindAck data ∧
    BytesInFragment decodeDcerpcResponse data ∧
    (DecodesInside (decodeDcerpcResponse data) fun response => StubOf data response.stubData) ∧
    DecodesInside (decodeNetrShareEnumResponseStub data) fun response =>
      ∀ share ∈ response.shares, DeferredText data share.name ∧ DeferredText data share.comment := by
  refine ⟨bytesInFragment_bindAck data, bytesInFragment_response data, ?_, ?_⟩
  · exact ⟨decodeDcerpcResponse_inside data, fun _ => decodeDcerpcResponse_stub⟩
  · exact ⟨decodeNetrShareEnumResponseStub_inside data,
      fun _ => decodeNetrShareEnumResponseStub_strings⟩

end SmbBrowser.Native
