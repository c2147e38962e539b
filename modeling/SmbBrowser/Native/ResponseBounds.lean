import SmbBrowser.Native.ErrorCodes
import SmbBrowser.Native.RequestLayout

/-!
# Responses are read inside their bytes

The decoders of native_smb/Protocol.cpp on every byte string.  A read outside the
bytes is the only failure with `ErrorCode::InternalError`, so a decoder that never
fails with it reads inside.

Results:
* `loopRun_decodeEntriesLoop`: the loops over linked entries end;
* `responses_inside`: the decoders read inside, and what they return is the slice
  the message states.
-/

namespace SmbBrowser.Native

open SmbBrowser.Base

/-- No read went outside the bytes. -/
abbrev ReadsInside {α : Type} (x : DecodeResult α) : Prop := FailsWith (· ≠ .internalError) x

/-! ## Reads -/

section

variable {data : ByteVector} {off : ℕ}

theorem ok_bind {ε α β : Type} (a : α) (f : α → Except ε β) :
    ((.ok a : Except ε α) >>= f) = f a :=
  rfl

theorem readU8_of_le (h : off + 1 ≤ data.length) :
    readU8 data off = .ok (UInt8.ofNat (leValue ((data.drop off).take 1))) := by
  rw [readU8, readBytes_of_le h]
  rfl

theorem readU16Le_of_le (h : off + 2 ≤ data.length) :
    readU16Le data off = .ok (UInt16.ofNat (leValue ((data.drop off).take 2))) := by
  rw [readU16Le, readBytes_of_le h]
  rfl

theorem readU32Le_of_le (h : off + 4 ≤ data.length) :
    readU32Le data off = .ok (UInt32.ofNat (leValue ((data.drop off).take 4))) := by
  rw [readU32Le, readBytes_of_le h]
  rfl

theorem readU64Le_of_le (h : off + 8 ≤ data.length) :
    readU64Le data off = .ok (UInt64.ofNat (leValue ((data.drop off).take 8))) := by
  rw [readU64Le, readBytes_of_le h]
  rfl

theorem code_errorCodeForNtStatus (status : UInt32) :
    errorCodeForNtStatus status ≠ .internalError := by
  unfold errorCodeForNtStatus
  repeat' split
  all_goals decide

end

/-! ## Headers -/

section

variable {data : ByteVector} {format : ResponseFormat} {header : Smb2SyncHeader}

theorem decodeSmb2SyncHeader_inside : ReadsInside (decodeSmb2SyncHeader data) := by
  unfold decodeSmb2SyncHeader
  refine .ite (fun _ => (failsWith_failure ..).2 (by decide)) fun hlen => ?_
  rw [kSmb2HeaderSize] at hlen
  simp (disch := omega) only [readU16Le_of_le, readU32Le_of_le, readU64Le_of_le, readBytes_of_le,
    ok_bind]
  refine .ite (fun _ => (failsWith_failure ..).2 (by decide)) fun _ => ?_
  refine .ite (fun _ => (failsWith_failure ..).2 (by decide)) fun _ => ?_
  exact failsWith_ok _

theorem decodeResponseHeader_inside : ReadsInside (decodeResponseHeader format data) := by
  unfold decodeResponseHeader
  cases h : decodeSmb2SyncHeader data with
  | error e => exact (failsWith_failureFrom ..).2 (decodeSmb2SyncHeader_inside e h)
  | ok header =>
    refine .ite (fun _ => (failsWith_failure ..).2 (by decide)) fun _ => ?_
    refine .ite (fun _ => (failsWith_failure ..).2 (by decide)) fun _ => ?_
    refine .ite (fun _ => (failsWith_failure ..).2 (code_errorCodeForNtStatus _)) fun _ => ?_
    exact failsWith_ok _

theorem checkResponseBody_inside (hformat : 2 ≤ format.fixedSize) :
    ReadsInside (checkResponseBody format data) := by
  unfold checkResponseBody
  refine .ite (fun _ => (failsWith_failure ..).2 (by decide)) fun hlen => ?_
  rw [kSmb2HeaderSize] at hlen ⊢
  rw [readU16Le_of_le (by omega), ok_bind]
  refine .ite (fun _ => (failsWith_failure ..).2 (by decide)) fun _ => ?_
  exact failsWith_ok _

theorem length_of_checkResponseBody {u : Unit} (h : checkResponseBody format data = .ok u) :
    64 + format.fixedSize ≤ data.length := by
  unfold checkResponseBody at h
  split at h
  · cases h
  · rename_i hlen
    rw [kSmb2HeaderSize] at hlen
    omega

theorem decodeResponseFixed_inside (hformat : 2 ≤ format.fixedSize) :
    ReadsInside (decodeResponseFixed format data) := by
  refine decodeResponseHeader_inside.bind fun header _ => ?_
  exact (checkResponseBody_inside hformat).bind fun _ _ => failsWith_ok _

theorem length_of_decodeResponseFixed (h : decodeResponseFixed format data = .ok header) :
    64 + format.fixedSize ≤ data.length := by
  rw [decodeResponseFixed] at h
  obtain ⟨header', -, h⟩ := bind_eq_ok.1 h
  obtain ⟨u, hbody, -⟩ := bind_eq_ok.1 h
  exact length_of_checkResponseBody hbody

end

/-! ## Responses without a buffer -/

section

variable {data : ByteVector}

theorem decodeTreeConnectResponse_inside : ReadsInside (decodeTreeConnectResponse data) := by
  refine (decodeResponseFixed_inside (by decide)).bind fun header h => ?_
  have hlen : 64 + 16 ≤ data.length := length_of_decodeResponseFixed h
  simp (disch := omega) only [readU8_of_le, readU32Le_of_le, ok_bind]
  exact failsWith_ok _

theorem decodeCreateResponse_inside : ReadsInside (decodeCreateResponse data) := by
  refine (decodeResponseFixed_inside (by decide)).bind fun header h => ?_
  have hlen : 64 + 88 ≤ data.length := length_of_decodeResponseFixed h
  simp (disch := omega) only [readU8_of_le, readU32Le_of_le, readU64Le_of_le, ok_bind]
  exact failsWith_ok _

theorem decodeCloseResponse_inside : ReadsInside (decodeCloseResponse data) := by
  refine (decodeResponseFixed_inside (by decide)).bind fun header h => ?_
  have hlen : 64 + 60 ≤ data.length := length_of_decodeResponseFixed h
  simp (disch := omega) only [readU16Le_of_le, readU32Le_of_le, readU64Le_of_le, ok_bind]
  exact failsWith_ok _

theorem decodeWriteResponse_inside : ReadsInside (decodeWriteResponse data) := by
  refine (decodeResponseFixed_inside (by decide)).bind fun header h => ?_
  have hlen : 64 + 16 ≤ data.length := length_of_decodeResponseFixed h
  simp (disch := omega) only [readU16Le_of_le, readU32Le_of_le, ok_bind]
  exact failsWith_ok _

theorem decodeSetInfoResponse_inside : ReadsInside (decodeSetInfoResponse data) :=
  (decodeResponseFixed_inside (by decide)).bind fun _ _ => failsWith_ok _

end

/-! ## Responses with a buffer -/

/-- A buffer is the slice of the bytes that an offset and a length field state; one
    of length zero may be stated anywhere. -/
def StatedSlice (data : ByteVector) (offsetAt offsetWidth lengthAt lengthWidth : ℕ)
    (buffer : ByteVector) : Prop :=
  ∃ offset length, readNumber data offsetAt offsetWidth = .ok offset ∧
    readNumber data lengthAt lengthWidth = .ok length ∧
    (length ≠ 0 → offset + length ≤ data.length) ∧ buffer = (data.drop offset).take length

section

variable {data buffer : ByteVector} {off len : ℕ}

theorem leValue_lt_of_readBytes {bytes : ByteVector} {width : ℕ}
    (h : readBytes data off width = .ok bytes) : leValue bytes < 256 ^ width := by
  obtain ⟨hlen, rfl⟩ := readBytes_eq_ok.1 h
  refine (leValue_lt _).trans_le (Nat.pow_le_pow_right (by omega) ?_)
  exact List.length_take_le width _

theorem readNumber_of_readU8 {value : UInt8} (h : readU8 data off = .ok value) :
    readNumber data off 1 = .ok value.toNat := by
  rw [readU8] at h
  obtain ⟨bytes, hbytes, h⟩ := bind_eq_ok.1 h
  rw [pure_eq_ok] at h
  have hlt : leValue bytes < 2 ^ 8 := leValue_lt_of_readBytes hbytes
  rw [readNumber, hbytes, ok_bind, pure_eq_ok, ← h, UInt8.toNat_ofNat', Nat.mod_eq_of_lt hlt]

theorem readNumber_of_readU16Le {value : UInt16} (h : readU16Le data off = .ok value) :
    readNumber data off 2 = .ok value.toNat := by
  rw [readU16Le] at h
  obtain ⟨bytes, hbytes, h⟩ := bind_eq_ok.1 h
  rw [pure_eq_ok] at h
  have hlt : leValue bytes < 2 ^ 16 := leValue_lt_of_readBytes hbytes
  rw [readNumber, hbytes, ok_bind, pure_eq_ok, ← h, UInt16.toNat_ofNat', Nat.mod_eq_of_lt hlt]

theorem readNumber_of_readU32Le {value : UInt32} (h : readU32Le data off = .ok value) :
    readNumber data off 4 = .ok value.toNat := by
  rw [readU32Le] at h
  obtain ⟨bytes, hbytes, h⟩ := bind_eq_ok.1 h
  rw [pure_eq_ok] at h
  have hlt : leValue bytes < 2 ^ 32 := leValue_lt_of_readBytes hbytes
  rw [readNumber, hbytes, ok_bind, pure_eq_ok, ← h, UInt32.toNat_ofNat', Nat.mod_eq_of_lt hlt]

theorem of_readBuffer (h : readBuffer data off len = .ok buffer) :
    (len ≠ 0 → off + len ≤ data.length) ∧ buffer = (data.drop off).take len := by
  unfold readBuffer at h
  split at h
  · rename_i hzero
    injection h with h
    rw [← h, hzero, List.take_zero]
    exact ⟨fun hne => absurd rfl hne, rfl⟩
  · obtain ⟨hlen, hbuffer⟩ := readBytes_eq_ok.1 h
    exact ⟨fun _ => hlen, hbuffer⟩

theorem readBuffer_inside (h : bufferInBounds data off len = true) :
    ReadsInside (readBuffer data off len) := by
  unfold readBuffer
  refine .ite (fun _ => failsWith_ok _) fun hne => ?_
  have hin : off + len ≤ data.length := by
    simp only [bufferInBounds, Bool.or_eq_true, Bool.and_eq_true, decide_eq_true_eq] at h
    rcases h with hzero | h
    · exact absurd hzero hne
    · exact h.2
  rw [readBytes_of_le hin]
  exact failsWith_ok _

theorem decodeNegotiateResponse_inside {offered : List Dialect} :
    ReadsInside (decodeNegotiateResponse data offered) := by
  refine (decodeResponseFixed_inside (by decide)).bind fun header h => ?_
  have hlen : 64 + 64 ≤ data.length := length_of_decodeResponseFixed h
  simp (disch := omega) only [readU16Le_of_le, readU32Le_of_le, readU64Le_of_le, ok_bind]
  refine .ite (fun _ => (failsWith_failure ..).2 (by decide)) fun _ => ?_
  refine .ite (fun _ => (failsWith_failure ..).2 (by decide)) fun hbuffer => ?_
  rw [not_or, not_lt, not_lt] at hbuffer
  rw [readBytes_of_le (show 64 + 8 + 16 ≤ data.length by omega), ok_bind,
    readBytes_of_le hbuffer.2, ok_bind]
  exact failsWith_ok _

theorem decodeNegotiateResponse_slices {offered : List Dialect} {response : NegotiateResponse}
    (h : decodeNegotiateResponse data offered = .ok response) :
    StatedSlice data 120 2 122 2 response.securityBuffer ∧
      response.serverGuid = (data.drop 72).take 16 := by
  rw [decodeNegotiateResponse] at h
  obtain ⟨header, hheader, h⟩ := bind_eq_ok.1 h
  obtain ⟨dialect, -, h⟩ := bind_eq_ok.1 h
  dsimp only at h
  split at h
  · cases h
  obtain ⟨offset, hoffset, h⟩ := bind_eq_ok.1 h
  obtain ⟨length, hlength, h⟩ := bind_eq_ok.1 h
  split at h
  · cases h
  obtain ⟨securityMode, -, h⟩ := bind_eq_ok.1 h
  obtain ⟨contextCount, -, h⟩ := bind_eq_ok.1 h
  obtain ⟨serverGuid, hguid, h⟩ := bind_eq_ok.1 h
  obtain ⟨capabilities, -, h⟩ := bind_eq_ok.1 h
  obtain ⟨maxTransactSize, -, h⟩ := bind_eq_ok.1 h
  obtain ⟨maxReadSize, -, h⟩ := bind_eq_ok.1 h
  obtain ⟨maxWriteSize, -, h⟩ := bind_eq_ok.1 h
  obtain ⟨systemTime, -, h⟩ := bind_eq_ok.1 h
  obtain ⟨serverStartTime, -, h⟩ := bind_eq_ok.1 h
  obtain ⟨contextOffset, -, h⟩ := bind_eq_ok.1 h
  obtain ⟨securityBuffer, hbuffer, h⟩ := bind_eq_ok.1 h
  rw [pure_eq_ok] at h
  obtain ⟨hlen, hslice⟩ := readBytes_eq_ok.1 hbuffer
  rw [← h]
  exact ⟨⟨_, _, readNumber_of_readU16Le hoffset, readNumber_of_readU16Le hlength, fun _ => hlen,
    hslice⟩, (readBytes_eq_ok.1 hguid).2⟩

theorem decodeSessionSetupResponse_inside : ReadsInside (decodeSessionSetupResponse data) := by
  refine (decodeResponseFixed_inside (by decide)).bind fun header h => ?_
  have hlen : 64 + 8 ≤ data.length := length_of_decodeResponseFixed h
  simp (disch := omega) only [readU16Le_of_le, ok_bind]
  refine .ite (fun _ => (failsWith_failure ..).2 (by decide)) fun hbuffer => ?_
  exact (readBuffer_inside (by simpa using hbuffer)).bind fun _ _ => failsWith_ok _

theorem decodeSessionSetupResponse_slice {response : SessionSetupResponse}
    (h : decodeSessionSetupResponse data = .ok response) :
    StatedSlice data 68 2 70 2 response.securityBuffer := by
  rw [decodeSessionSetupResponse] at h
  obtain ⟨header, -, h⟩ := bind_eq_ok.1 h
  obtain ⟨offset, hoffset, h⟩ := bind_eq_ok.1 h
  obtain ⟨length, hlength, h⟩ := bind_eq_ok.1 h
  split at h
  · cases h
  obtain ⟨sessionFlags, -, h⟩ := bind_eq_ok.1 h
  obtain ⟨securityBuffer, hbuffer, h⟩ := bind_eq_ok.1 h
  rw [pure_eq_ok] at h
  rw [← h]
  exact ⟨_, _, readNumber_of_readU16Le hoffset, readNumber_of_readU16Le hlength,
    of_readBuffer hbuffer⟩

theorem decodeReadResponse_inside : ReadsInside (decodeReadResponse data) := by
  refine (decodeResponseFixed_inside (by decide)).bind fun header h => ?_
  have hlen : 64 + 16 ≤ data.length := length_of_decodeResponseFixed h
  simp (disch := omega) only [readU8_of_le, readU32Le_of_le, ok_bind]
  refine .ite (fun _ => (failsWith_failure ..).2 (by decide)) fun hbuffer => ?_
  exact (readBuffer_inside (by simpa using hbuffer)).bind fun _ _ => failsWith_ok _

theorem decodeReadResponse_slice {response : ReadResponse}
    (h : decodeReadResponse data = .ok response) : StatedSlice data 66 1 68 4 response.data := by
  rw [decodeReadResponse] at h
  obtain ⟨header, -, h⟩ := bind_eq_ok.1 h
  obtain ⟨offset, hoffset, h⟩ := bind_eq_ok.1 h
  obtain ⟨length, hlength, h⟩ := bind_eq_ok.1 h
  split at h
  · cases h
  obtain ⟨remaining, -, h⟩ := bind_eq_ok.1 h
  obtain ⟨flags, -, h⟩ := bind_eq_ok.1 h
  obtain ⟨bytes, hbuffer, h⟩ := bind_eq_ok.1 h
  rw [pure_eq_ok] at h
  rw [← h]
  exact ⟨_, _, readNumber_of_readU8 hoffset, readNumber_of_readU32Le hlength,
    of_readBuffer hbuffer⟩

theorem decodeIoctlResponse_inside : ReadsInside (decodeIoctlResponse data) := by
  refine (decodeResponseFixed_inside (by decide)).bind fun header h => ?_
  have hlen : 64 + 48 ≤ data.length := length_of_decodeResponseFixed h
  simp (disch := omega) only [readU32Le_of_le, readU64Le_of_le, ok_bind]
  refine .ite (fun _ => (failsWith_failure ..).2 (by decide)) fun hbuffers => ?_
  have hbuffers := of_not_not hbuffers
  refine (readBuffer_inside hbuffers.1).bind fun _ _ => ?_
  exact (readBuffer_inside hbuffers.2).bind fun _ _ => failsWith_ok _

theorem decodeIoctlResponse_slices {response : IoctlResponse}
    (h : decodeIoctlResponse data = .ok response) :
    StatedSlice data 88 4 92 4 response.input ∧ StatedSlice data 96 4 100 4 response.output := by
  rw [decodeIoctlResponse] at h
  obtain ⟨header, -, h⟩ := bind_eq_ok.1 h
  obtain ⟨inputOffset, hinputOffset, h⟩ := bind_eq_ok.1 h
  obtain ⟨inputCount, hinputCount, h⟩ := bind_eq_ok.1 h
  obtain ⟨outputOffset, houtputOffset, h⟩ := bind_eq_ok.1 h
  obtain ⟨outputCount, houtputCount, h⟩ := bind_eq_ok.1 h
  split at h
  · cases h
  obtain ⟨ctlCode, -, h⟩ := bind_eq_ok.1 h
  obtain ⟨persistent, -, h⟩ := bind_eq_ok.1 h
  obtain ⟨volatileId, -, h⟩ := bind_eq_ok.1 h
  obtain ⟨flags, -, h⟩ := bind_eq_ok.1 h
  obtain ⟨input, hinput, h⟩ := bind_eq_ok.1 h
  obtain ⟨output, houtput, h⟩ := bind_eq_ok.1 h
  rw [pure_eq_ok] at h
  rw [← h]
  exact ⟨⟨_, _, readNumber_of_readU32Le hinputOffset, readNumber_of_readU32Le hinputCount,
    of_readBuffer hinput⟩, ⟨_, _, readNumber_of_readU32Le houtputOffset,
    readNumber_of_readU32Le houtputCount, of_readBuffer houtput⟩⟩

theorem decodeQueryInfoResponse_inside : ReadsInside (decodeQueryInfoResponse data) := by
  refine (decodeResponseFixed_inside (by decide)).bind fun header h => ?_
  have hlen : 64 + 8 ≤ data.length := length_of_decodeResponseFixed h
  simp (disch := omega) only [readU16Le_of_le, readU32Le_of_le, ok_bind]
  refine .ite (fun _ => (failsWith_failure ..).2 (by decide)) fun hbuffer => ?_
  exact (readBuffer_inside (by simpa using hbuffer)).bind fun _ _ => failsWith_ok _

theorem decodeQueryInfoResponse_slice {response : QueryInfoResponse}
    (h : decodeQueryInfoResponse data = .ok response) :
    StatedSlice data 66 2 68 4 response.buffer := by
  rw [decodeQueryInfoResponse] at h
  obtain ⟨header, -, h⟩ := bind_eq_ok.1 h
  obtain ⟨offset, hoffset, h⟩ := bind_eq_ok.1 h
  obtain ⟨length, hlength, h⟩ := bind_eq_ok.1 h
  split at h
  · cases h
  obtain ⟨bytes, hbuffer, h⟩ := bind_eq_ok.1 h
  rw [pure_eq_ok] at h
  rw [← h]
  exact ⟨_, _, readNumber_of_readU16Le hoffset, readNumber_of_readU32Le hlength,
    of_readBuffer hbuffer⟩

end

/-! ## Loops over linked entries -/

section

variable {α : Type} {entryAt : ℕ → DecodeResult (α × UInt32)} {entriesEnd : ℕ}

/-- A finished run of a loop over linked entries: the turns it took from the entry
    at an offset on, and its result. -/
inductive LoopRun (entryAt : ℕ → DecodeResult (α × UInt32)) (entriesEnd : ℕ) :
    ℕ → DecodeResult (List α) → Prop where
  | done {offset : ℕ} (h : entriesEnd ≤ offset) : LoopRun entryAt entriesEnd offset (.ok [])
  | failed {offset : ℕ} {e : ProtocolError} (h : offset < entriesEnd)
      (hentry : entryAt offset = .error e) : LoopRun entryAt entriesEnd offset (.error e)
  | last {offset : ℕ} {entry : α} (h : offset < entriesEnd)
      (hentry : entryAt offset = .ok (entry, 0)) : LoopRun entryAt entriesEnd offset (.ok [entry])
  | next {offset : ℕ} {entry : α} {nextEntryOffset : UInt32} {rest : DecodeResult (List α)}
      (h : offset < entriesEnd) (hentry : entryAt offset = .ok (entry, nextEntryOffset))
      (hnext : nextEntryOffset ≠ 0)
      (hrest : LoopRun entryAt entriesEnd (offset + nextEntryOffset.toNat) rest) :
      LoopRun entryAt entriesEnd offset (rest.map (entry :: ·))

/-- The loop ends: every turn moves on, so as many turns as bytes are left are
    enough. -/
theorem loopRun_decodeEntriesLoop {fuel offset : ℕ} (hfuel : entriesEnd - offset ≤ fuel) :
    LoopRun entryAt entriesEnd offset (decodeEntriesLoop entryAt entriesEnd fuel offset) := by
  induction fuel generalizing offset with
  | zero => exact .done (by omega)
  | succ fuel ih =>
    rw [decodeEntriesLoop]
    by_cases hend : entriesEnd ≤ offset
    · rw [if_pos hend]
      exact .done hend
    · rw [if_neg hend]
      rw [not_le] at hend
      cases hentry : entryAt offset with
      | error e => exact .failed hend hentry
      | ok found =>
        obtain ⟨entry, nextEntryOffset⟩ := found
        rw [ok_bind]
        dsimp only
        by_cases hnext : nextEntryOffset = 0
        · rw [if_pos hnext]
          rw [hnext] at hentry
          exact .last hend hentry
        · rw [if_neg hnext]
          have hmoves : 0 < nextEntryOffset.toNat := by
            rw [Nat.pos_iff_ne_zero]
            intro hzero
            exact hnext (UInt32.toNat_inj.1 hzero)
          have hrest := LoopRun.next hend hentry hnext (ih (by omega))
          cases hloop : decodeEntriesLoop entryAt entriesEnd fuel
              (offset + nextEntryOffset.toNat) with
          | error e =>
            rw [hloop] at hrest
            exact hrest
          | ok entries =>
            rw [hloop] at hrest
            exact hrest

theorem loopRun_decodeEntries (entryAt : ℕ → ℕ → DecodeResult (α × UInt32)) (offset length : ℕ) :
    LoopRun (entryAt · (offset + length)) (offset + length) offset
      (decodeEntries entryAt offset length) :=
  loopRun_decodeEntriesLoop (by omega)

theorem LoopRun.inside {offset : ℕ} {r : DecodeResult (List α)}
    (h : LoopRun entryAt entriesEnd offset r) (hentry : ∀ offset, ReadsInside (entryAt offset)) :
    ReadsInside r := by
  induction h with
  | done => exact failsWith_ok _
  | failed _ hfailed => exact (failsWith_error _).2 (hentry _ _ hfailed)
  | last => exact failsWith_ok _
  | @next offset entry nextEntryOffset rest _ _ _ _ ih =>
    cases rest with
    | error e => exact (failsWith_error _).2 (ih e rfl)
    | ok entries => exact failsWith_ok _

/-- The offsets the next-entry fields lead to. -/
inductive LinkedAt (data : ByteVector) (start : ℕ) : ℕ → Prop where
  | first : LinkedAt data start start
  | next {offset link : ℕ} (h : LinkedAt data start offset)
      (hlink : readNumber data offset 4 = .ok link) : LinkedAt data start (offset + link)

/-- Every entry of a result was found at a linked offset. -/
theorem LoopRun.linked {data : ByteVector} {start offset : ℕ} {r : DecodeResult (List α)}
    {entries : List α} (h : LoopRun entryAt entriesEnd offset r) (hr : r = .ok entries)
    (hlink : ∀ offset entry next, entryAt offset = .ok (entry, next) →
      readNumber data offset 4 = .ok next.toNat) (hstart : LinkedAt data start offset) :
    ∀ entry ∈ entries, ∃ offset next, LinkedAt data start offset ∧ offset < entriesEnd ∧
      entryAt offset = .ok (entry, next) := by
  induction h generalizing entries with
  | done =>
    injection hr with hr
    rw [← hr]
    rintro entry ⟨⟩
  | failed => cases hr
  | @last offset entry hend hentry =>
    injection hr with hr
    rw [← hr]
    intro entry' hmem
    rw [List.mem_singleton.1 hmem]
    exact ⟨offset, 0, hstart, hend, hentry⟩
  | @next offset entry nextEntryOffset rest hend hentry _ _ ih =>
    cases rest with
    | error e => cases hr
    | ok rest =>
      injection hr with hr
      rw [← hr]
      intro entry' hmem
      obtain rfl | hmem := List.mem_cons.1 hmem
      · exact ⟨offset, nextEntryOffset, hstart, hend, hentry⟩
      · exact ih rfl (hstart.next (hlink _ _ _ hentry)) entry' hmem

end

/-! ## Texts -/

theorem decodeUtf16Le_inside (bytes : ByteVector) : ReadsInside (decodeUtf16Le bytes) := by
  refine .ite (fun _ => (failsWith_failure ..).2 (by decide)) fun _ e h => ?_
  rw [code_of_decodeUtf16LeLoop h]
  decide

/-- A name of a response: the text at a linked entry of the buffer the response
    states, behind the entry's header, as long as the entry states. -/
def StatedName (data : ByteVector) (headerSize lengthAt : ℕ) (name : ByteVector) : Prop :=
  ∃ start length offset nameLength, readNumber data 66 2 = .ok start ∧
    readNumber data 68 4 = .ok length ∧ start + length ≤ data.length ∧
    LinkedAt data start offset ∧ readNumber data (offset + lengthAt) 4 = .ok nameLength ∧
    offset + headerSize + nameLength ≤ start + length ∧
    decodeUtf16Le ((data.drop (offset + headerSize)).take nameLength) = .ok name

/-! ## QUERY_DIRECTORY and CHANGE_NOTIFY -/

section

variable {data : ByteVector} {offset entriesEnd : ℕ} {nextEntryOffset : UInt32}

theorem decodeDirectoryEntry_inside (hend : entriesEnd ≤ data.length) :
    ReadsInside (decodeDirectoryEntry data offset entriesEnd) := by
  unfold decodeDirectoryEntry
  refine .ite (fun _ => (failsWith_failure ..).2 (by decide)) fun hfixed => ?_
  simp (disch := omega) only [readU32Le_of_le, readU64Le_of_le, ok_bind]
  refine .ite (fun _ => (failsWith_failure ..).2 (by decide)) fun hname => ?_
  refine .ite (fun _ => (failsWith_failure ..).2 (by decide)) fun _ => ?_
  rw [not_lt] at hname
  rw [readBytes_of_le (hname.trans hend), ok_bind]
  cases htext : decodeUtf16Le _ with
  | error e => exact (failsWith_failureFrom ..).2 (decodeUtf16Le_inside _ e htext)
  | ok name => exact failsWith_ok _

theorem of_decodeDirectoryEntry {entry : DirectoryEntry}
    (h : decodeDirectoryEntry data offset entriesEnd = .ok (entry, nextEntryOffset)) :
    readNumber data offset 4 = .ok nextEntryOffset.toNat ∧
      ∃ nameLength, readNumber data (offset + 60) 4 = .ok nameLength ∧
        offset + 104 + nameLength ≤ entriesEnd ∧
        decodeUtf16Le ((data.drop (offset + 104)).take nameLength) = .ok entry.name := by
  unfold decodeDirectoryEntry at h
  split at h
  · cases h
  obtain ⟨next, hnext, h⟩ := bind_eq_ok.1 h
  obtain ⟨nameLength, hlength, h⟩ := bind_eq_ok.1 h
  dsimp only at h
  split at h
  · cases h
  rename_i hfits
  split at h
  · cases h
  obtain ⟨bytes, hbytes, h⟩ := bind_eq_ok.1 h
  cases htext : decodeUtf16Le bytes with
  | error e =>
    rw [htext] at h
    cases h
  | ok name =>
    rw [htext] at h
    obtain ⟨fileAttributes, -, h⟩ := bind_eq_ok.1 h
    obtain ⟨fileIndex, -, h⟩ := bind_eq_ok.1 h
    obtain ⟨creationTime, -, h⟩ := bind_eq_ok.1 h
    obtain ⟨lastAccessTime, -, h⟩ := bind_eq_ok.1 h
    obtain ⟨lastWriteTime, -, h⟩ := bind_eq_ok.1 h
    obtain ⟨changeTime, -, h⟩ := bind_eq_ok.1 h
    obtain ⟨endOfFile, -, h⟩ := bind_eq_ok.1 h
    obtain ⟨allocationSize, -, h⟩ := bind_eq_ok.1 h
    obtain ⟨eaSize, -, h⟩ := bind_eq_ok.1 h
    obtain ⟨fileId, -, h⟩ := bind_eq_ok.1 h
    rw [pure_eq_ok] at h
    injection h with hentry hsame
    rw [← hentry, ← hsame]
    obtain ⟨-, rfl⟩ := readBytes_eq_ok.1 hbytes
    exact ⟨readNumber_of_readU32Le hnext, nameLength.toNat, readNumber_of_readU32Le hlength,
      not_lt.1 hfits, htext⟩

theorem decodeNotifyEntry_inside (hend : entriesEnd ≤ data.length) :
    ReadsInside (decodeNotifyEntry data offset entriesEnd) := by
  unfold decodeNotifyEntry
  refine .ite (fun _ => (failsWith_failure ..).2 (by decide)) fun hfixed => ?_
  simp (disch := omega) only [readU32Le_of_le, ok_bind]
  refine .ite (fun _ => (failsWith_failure ..).2 (by decide)) fun hname => ?_
  refine .ite (fun _ => (failsWith_failure ..).2 (by decide)) fun _ => ?_
  rw [not_lt] at hname
  rw [readBytes_of_le (hname.trans hend), ok_bind]
  cases htext : decodeUtf16Le _ with
  | error e => exact (failsWith_failureFrom ..).2 (decodeUtf16Le_inside _ e htext)
  | ok name => exact failsWith_ok _

theorem of_decodeNotifyEntry {entry : ChangeNotifyEntry}
    (h : decodeNotifyEntry data offset entriesEnd = .ok (entry, nextEntryOffset)) :
    readNumber data offset 4 = .ok nextEntryOffset.toNat ∧
      ∃ nameLength, readNumber data (offset + 8) 4 = .ok nameLength ∧
        offset + 12 + nameLength ≤ entriesEnd ∧
        decodeUtf16Le ((data.drop (offset + 12)).take nameLength) = .ok entry.name := by
  unfold decodeNotifyEntry at h
  split at h
  · cases h
  obtain ⟨next, hnext, h⟩ := bind_eq_ok.1 h
  obtain ⟨nameLength, hlength, h⟩ := bind_eq_ok.1 h
  dsimp only at h
  split at h
  · cases h
  rename_i hfits
  split at h
  · cases h
  obtain ⟨bytes, hbytes, h⟩ := bind_eq_ok.1 h
  cases htext : decodeUtf16Le bytes with
  | error e =>
    rw [htext] at h
    cases h
  | ok name =>
    rw [htext] at h
    obtain ⟨action, -, h⟩ := bind_eq_ok.1 h
    rw [pure_eq_ok] at h
    injection h with hentry hsame
    rw [← hentry, ← hsame]
    obtain ⟨-, rfl⟩ := readBytes_eq_ok.1 hbytes
    exact ⟨readNumber_of_readU32Le hnext, nameLength.toNat, readNumber_of_readU32Le hlength,
      not_lt.1 hfits, htext⟩

theorem bufferInBounds_end {length : ℕ} (h : bufferInBounds data offset length = true)
    (hlength : length ≠ 0) : offset + length ≤ data.length := by
  simp only [bufferInBounds, Bool.or_eq_true, Bool.and_eq_true, decide_eq_true_eq] at h
  rcases h with hzero | h
  · exact absurd hzero hlength
  · exact h.2

/-- The entries of the buffer of a response. -/
theorem decodeEntries_inside {α : Type} {entryAt : ℕ → ℕ → DecodeResult (α × UInt32)}
    {length : ℕ} (hbuffer : bufferInBounds data offset length = true)
    (hentry : ∀ {offset entriesEnd}, entriesEnd ≤ data.length →
      ReadsInside (entryAt offset entriesEnd)) :
    ReadsInside (decodeEntries entryAt offset length) := by
  by_cases hlength : length = 0
  · rw [decodeEntries, hlength]
    exact failsWith_ok _
  · exact (loopRun_decodeEntries entryAt offset length).inside fun _ =>
      hentry (bufferInBounds_end hbuffer hlength)

/-- The names of the entries of a response. -/
theorem decodeEntries_names {α : Type} {entryAt : ℕ → ℕ → DecodeResult (α × UInt32)}
    {name : α → ByteVector} {headerSize lengthAt start length : ℕ} {entries : List α}
    (hstart : readNumber data 66 2 = .ok start) (hlength : readNumber data 68 4 = .ok length)
    (hbuffer : bufferInBounds data start length = true)
    (hentry : ∀ {offset entriesEnd entry next}, entryAt offset entriesEnd = .ok (entry, next) →
      readNumber data offset 4 = .ok next.toNat ∧
      ∃ nameLength, readNumber data (offset + lengthAt) 4 = .ok nameLength ∧
        offset + headerSize + nameLength ≤ entriesEnd ∧
        decodeUtf16Le ((data.drop (offset + headerSize)).take nameLength) = .ok (name entry))
    (h : decodeEntries entryAt start length = .ok entries) :
    ∀ entry ∈ entries, StatedName data headerSize lengthAt (name entry) := by
  intro entry hmem
  obtain ⟨offset, next, hlinked, -, hfound⟩ :=
    (loopRun_decodeEntries entryAt start length).linked h
      (fun _ _ _ hfound => (hentry hfound).1) .first entry hmem
  obtain ⟨-, nameLength, hnameLength, hfits, htext⟩ := hentry hfound
  refine ⟨start, length, offset, nameLength, hstart, hlength, ?_, hlinked, hnameLength, hfits,
    htext⟩
  by_cases hzero : length = 0
  · rw [decodeEntries, hzero] at h
    injection h with h
    rw [← h] at hmem
    cases hmem
  · exact bufferInBounds_end hbuffer hzero

theorem decodeQueryDirectoryResponse_inside :
    ReadsInside (decodeQueryDirectoryResponse data) := by
  refine decodeResponseHeader_inside.bind fun header _ => ?_
  refine .ite (fun _ => failsWith_ok _) fun _ => ?_
  refine (checkResponseBody_inside (by decide)).bind fun _ h => ?_
  have hlen : 64 + 8 ≤ data.length := length_of_checkResponseBody h
  simp (disch := omega) only [readU16Le_of_le, readU32Le_of_le, ok_bind]
  refine .ite (fun _ => (failsWith_failure ..).2 (by decide)) fun hbuffer => ?_
  exact (decodeEntries_inside (by simpa using hbuffer) decodeDirectoryEntry_inside).bind
    fun _ _ => failsWith_ok _

theorem decodeQueryDirectoryResponse_names {response : QueryDirectoryResponse}
    (h : decodeQueryDirectoryResponse data = .ok response) :
    ∀ entry ∈ response.entries, StatedName data 104 60 entry.name := by
  rw [decodeQueryDirectoryResponse] at h
  obtain ⟨header, -, h⟩ := bind_eq_ok.1 h
  split at h
  · injection h with h
    rw [← h]
    rintro entry ⟨⟩
  obtain ⟨checked, -, h⟩ := bind_eq_ok.1 h
  obtain ⟨start, hstart, h⟩ := bind_eq_ok.1 h
  obtain ⟨length, hlength, h⟩ := bind_eq_ok.1 h
  split at h
  · cases h
  rename_i hbuffer
  obtain ⟨entries, hentries, h⟩ := bind_eq_ok.1 h
  rw [pure_eq_ok] at h
  rw [← h]
  exact decodeEntries_names (readNumber_of_readU16Le hstart) (readNumber_of_readU32Le hlength)
    (by simpa using hbuffer) of_decodeDirectoryEntry hentries

theorem decodeChangeNotifyResponse_inside : ReadsInside (decodeChangeNotifyResponse data) := by
  refine (decodeResponseFixed_inside (by decide)).bind fun header h => ?_
  have hlen : 64 + 8 ≤ data.length := length_of_decodeResponseFixed h
  simp (disch := omega) only [readU16Le_of_le, readU32Le_of_le, ok_bind]
  refine .ite (fun _ => (failsWith_failure ..).2 (by decide)) fun hbuffer => ?_
  exact (decodeEntries_inside (by simpa using hbuffer) decodeNotifyEntry_inside).bind
    fun _ _ => failsWith_ok _

theorem decodeChangeNotifyResponse_names {response : ChangeNotifyResponse}
    (h : decodeChangeNotifyResponse data = .ok response) :
    ∀ entry ∈ response.entries, StatedName data 12 8 entry.name := by
  rw [decodeChangeNotifyResponse] at h
  obtain ⟨header, -, h⟩ := bind_eq_ok.1 h
  obtain ⟨start, hstart, h⟩ := bind_eq_ok.1 h
  obtain ⟨length, hlength, h⟩ := bind_eq_ok.1 h
  split at h
  · cases h
  rename_i hbuffer
  obtain ⟨entries, hentries, h⟩ := bind_eq_ok.1 h
  rw [pure_eq_ok] at h
  rw [← h]
  exact decodeEntries_names (readNumber_of_readU16Le hstart) (readNumber_of_readU32Le hlength)
    (by simpa using hbuffer) of_decodeNotifyEntry hentries

end

/-! ## FILE_FULL_EA_INFORMATION -/

/-- One turn of `decodeFullEaLoop`. -/
def decodeFullEaEntry (bytes : ByteVector) (offset : ℕ) :
    DecodeResult (FileFullEaInformation × UInt32) := do
  if bytes.length - offset < 8 then
    failure .ioError "FILE_FULL_EA_INFORMATION entry is shorter than fixed header."
  else
    let nextEntryOffset ← readU32Le bytes offset
    let flags ← readU8 bytes (offset + 4)
    let nameLength ← readU8 bytes (offset + 5)
    let valueLength ← readU16Le bytes (offset + 6)
    let nameOffset := offset + 8
    let valueOffset := nameOffset + nameLength.toNat + 1
    let entryEnd := valueOffset + valueLength.toNat
    if entryEnd > bytes.length then
      failure .ioError "FILE_FULL_EA_INFORMATION entry payload is out of bounds."
    else if (← readU8 bytes (nameOffset + nameLength.toNat)) ≠ 0 then
      failure .protocolUnsupported
        "FILE_FULL_EA_INFORMATION entry name is not NUL-terminated."
    else
      let entry : FileFullEaInformation := {
        name := ← readBytes bytes nameOffset nameLength.toNat
        value := ← readBytes bytes valueOffset valueLength.toNat
        needEa := flags &&& kFileNeedEa ≠ 0 }
      if nextEntryOffset ≠ 0 ∧ (nextEntryOffset < 8 ∨
          offset + nextEntryOffset.toNat > bytes.length) then
        failure .ioError "FILE_FULL_EA_INFORMATION next entry offset is invalid."
      else
        return (entry, nextEntryOffset)

section

variable {bytes : ByteVector} {offset : ℕ}

theorem decodeFullEaLoop_eq (fuel : ℕ) :
    decodeFullEaLoop bytes fuel offset =
      decodeEntriesLoop (decodeFullEaEntry bytes) bytes.length fuel offset := by
  induction fuel generalizing offset with
  | zero => rfl
  | succ fuel ih =>
    rw [decodeFullEaLoop, decodeEntriesLoop]
    by_cases hend : bytes.length ≤ offset
    · rw [if_pos hend, if_pos hend]
    rw [if_neg hend, if_neg hend, decodeFullEaEntry]
    by_cases hshort : bytes.length - offset < 8
    · rw [if_pos hshort, if_pos hshort]
      rfl
    rw [if_neg hshort, if_neg hshort]
    simp (disch := omega) only [readU8_of_le, readU16Le_of_le, readU32Le_of_le, ok_bind]
    generalize UInt32.ofNat _ = next
    generalize UInt8.ofNat (leValue ((bytes.drop (offset + 4)).take 1)) = flags
    generalize UInt8.ofNat (leValue ((bytes.drop (offset + 5)).take 1)) = nameLength
    generalize UInt16.ofNat _ = valueLength
    by_cases hpayload : offset + 8 + nameLength.toNat + 1 + valueLength.toNat > bytes.length
    · rw [if_pos hpayload, if_pos hpayload]
      rfl
    rw [if_neg hpayload, if_neg hpayload]
    rw [readU8_of_le (by omega), ok_bind, ok_bind]
    generalize UInt8.ofNat (leValue ((bytes.drop (offset + 8 + nameLength.toNat)).take 1)) = nul
    by_cases hterminated : nul ≠ 0
    · rw [if_pos hterminated, if_pos hterminated]
      rfl
    rw [if_neg hterminated, if_neg hterminated]
    rw [readBytes_of_le (by omega), readBytes_of_le (by omega), ok_bind, ok_bind, ok_bind, ok_bind]
    by_cases hzero : next = 0
    · rw [if_pos hzero, if_neg (by simp [hzero]), pure_bind, if_pos hzero]
    rw [if_neg hzero]
    by_cases hinvalid : next < 8 ∨ offset + next.toNat > bytes.length
    · rw [if_pos hinvalid, if_pos ⟨hzero, hinvalid⟩]
      rfl
    · rw [if_neg hinvalid, if_neg (fun h => hinvalid h.2), pure_bind, if_neg hzero, ih]

theorem loopRun_decodeFileFullEaInformation (bytes : ByteVector) :
    LoopRun (decodeFullEaEntry bytes) bytes.length 0 (decodeFileFullEaInformation bytes) := by
  rw [decodeFileFullEaInformation, decodeFullEaLoop_eq]
  exact loopRun_decodeEntriesLoop (by omega)

theorem decodeFullEaEntry_inside : ReadsInside (decodeFullEaEntry bytes offset) := by
  unfold decodeFullEaEntry
  refine .ite (fun _ => (failsWith_failure ..).2 (by decide)) fun hfixed => ?_
  simp (disch := omega) only [readU8_of_le, readU16Le_of_le, readU32Le_of_le, ok_bind]
  refine .ite (fun _ => (failsWith_failure ..).2 (by decide)) fun hpayload => ?_
  rw [readU8_of_le (by omega), ok_bind]
  refine .ite (fun _ => (failsWith_failure ..).2 (by decide)) fun _ => ?_
  rw [readBytes_of_le (by omega), readBytes_of_le (by omega), ok_bind, ok_bind]
  refine .ite (fun _ => (failsWith_failure ..).2 (by decide)) fun _ => ?_
  exact failsWith_ok _

theorem of_decodeFullEaEntry {entry : FileFullEaInformation} {nextEntryOffset : UInt32}
    (h : decodeFullEaEntry bytes offset = .ok (entry, nextEntryOffset)) :
    readNumber bytes offset 4 = .ok nextEntryOffset.toNat ∧
      ∃ nameLength valueLength, readNumber bytes (offset + 5) 1 = .ok nameLength ∧
        readNumber bytes (offset + 6) 2 = .ok valueLength ∧
        offset + 9 + nameLength + valueLength ≤ bytes.length ∧
        entry.name = (bytes.drop (offset + 8)).take nameLength ∧
        entry.value = (bytes.drop (offset + 9 + nameLength)).take valueLength := by
  unfold decodeFullEaEntry at h
  split at h
  · cases h
  obtain ⟨next, hnext, h⟩ := bind_eq_ok.1 h
  obtain ⟨flags, -, h⟩ := bind_eq_ok.1 h
  obtain ⟨nameLength, hnameLength, h⟩ := bind_eq_ok.1 h
  obtain ⟨valueLength, hvalueLength, h⟩ := bind_eq_ok.1 h
  dsimp only at h
  split at h
  · cases h
  obtain ⟨nul, -, h⟩ := bind_eq_ok.1 h
  split at h
  · cases h
  obtain ⟨name, hname, h⟩ := bind_eq_ok.1 h
  obtain ⟨value, hvalue, h⟩ := bind_eq_ok.1 h
  split at h
  · cases h
  rw [pure_eq_ok] at h
  injection h with hentry hsame
  obtain ⟨-, hname⟩ := readBytes_eq_ok.1 hname
  obtain ⟨hfits, hvalue⟩ := readBytes_eq_ok.1 hvalue
  have hat : offset + 8 + nameLength.toNat + 1 = offset + 9 + nameLength.toNat := by omega
  rw [hat] at hfits hvalue
  rw [← hentry, ← hsame]
  exact ⟨readNumber_of_readU32Le hnext, nameLength.toNat, valueLength.toNat,
    readNumber_of_readU8 hnameLength, readNumber_of_readU16Le hvalueLength, hfits, hname, hvalue⟩

/-- A name and a value of a FILE_FULL_EA_INFORMATION list: the slices behind the
    header of a linked entry, as long as the entry states. -/
def StatedEa (bytes : ByteVector) (entry : FileFullEaInformation) : Prop :=
  ∃ offset nameLength valueLength, LinkedAt bytes 0 offset ∧
    readNumber bytes (offset + 5) 1 = .ok nameLength ∧
    readNumber bytes (offset + 6) 2 = .ok valueLength ∧
    offset + 9 + nameLength + valueLength ≤ bytes.length ∧
    entry.name = (bytes.drop (offset + 8)).take nameLength ∧
    entry.value = (bytes.drop (offset + 9 + nameLength)).take valueLength

theorem decodeFileFullEaInformation_inside : ReadsInside (decodeFileFullEaInformation bytes) :=
  (loopRun_decodeFileFullEaInformation bytes).inside fun _ => decodeFullEaEntry_inside

theorem decodeFileFullEaInformation_entries {entries : List FileFullEaInformation}
    (h : decodeFileFullEaInformation bytes = .ok entries) :
    ∀ entry ∈ entries, StatedEa bytes entry := by
  intro entry hmem
  obtain ⟨offset, next, hlinked, -, hfound⟩ :=
    (loopRun_decodeFileFullEaInformation bytes).linked h
      (fun _ _ _ hfound => (of_decodeFullEaEntry hfound).1) .first entry hmem
  obtain ⟨-, nameLength, valueLength, hstated⟩ := of_decodeFullEaEntry hfound
  exact ⟨offset, nameLength, valueLength, hlinked, hstated⟩

end

/-! ## All responses -/

/-- A decoder that reads inside the bytes and returns what the message states. -/
structure DecodesInside {α : Type} (decoded : DecodeResult α) (stated : α → Prop) : Prop where
  inside : ReadsInside decoded
  stated : ∀ value, decoded = .ok value → stated value

/-- The decoders of responses read inside the bytes, their loops end, and the
    buffers and names they return are slices where the message states them. -/
theorem responses_inside (data : ByteVector) :
    (∀ offered, DecodesInside (decodeNegotiateResponse data offered) fun response =>
      StatedSlice data 120 2 122 2 response.securityBuffer ∧
        response.serverGuid = (data.drop 72).take 16) ∧
    (DecodesInside (decodeSessionSetupResponse data) fun response =>
      StatedSlice data 68 2 70 2 response.securityBuffer) ∧
    ReadsInside (decodeTreeConnectResponse data) ∧
    ReadsInside (decodeCreateResponse data) ∧
    ReadsInside (decodeCloseResponse data) ∧
    (DecodesInside (decodeReadResponse data) fun response =>
      StatedSlice data 66 1 68 4 response.data) ∧
    ReadsInside (decodeWriteResponse data) ∧
    (DecodesInside (decodeIoctlResponse data) fun response =>
      StatedSlice data 88 4 92 4 response.input ∧ StatedSlice data 96 4 100 4 response.output) ∧
    ReadsInside (decodeSetInfoResponse data) ∧
    (DecodesInside (decodeQueryInfoResponse data) fun response =>
      StatedSlice data 66 2 68 4 response.buffer) ∧
    (DecodesInside (decodeQueryDirectoryResponse data) fun response =>
      ∀ entry ∈ response.entries, StatedName data 104 60 entry.name) ∧
    (DecodesInside (decodeChangeNotifyResponse data) fun response =>
      ∀ entry ∈ response.entries, StatedName data 12 8 entry.name) ∧
    (DecodesInside (decodeFileFullEaInformation data) fun entries =>
      ∀ entry ∈ entries, StatedEa data entry) ∧
    (∀ start length, LoopRun (decodeDirectoryEntry data · (start + length)) (start + length) start
      (decodeEntries (decodeDirectoryEntry data) start length)) ∧
    (∀ start length, LoopRun (decodeNotifyEntry data · (start + length)) (start + length) start
      (decodeEntries (decodeNotifyEntry data) start length)) ∧
    LoopRun (decodeFullEaEntry data) data.length 0 (decodeFileFullEaInformation data) := by
  refine ⟨fun offered => ?_, ?_, ?_, ?_, ?_, ?_, ?_, ?_, ?_, ?_, ?_, ?_, ?_, ?_, ?_, ?_⟩
  · exact ⟨decodeNegotiateResponse_inside, fun _ => decodeNegotiateResponse_slices⟩
  · exact ⟨decodeSessionSetupResponse_inside, fun _ => decodeSessionSetupResponse_slice⟩
  · exact decodeTreeConnectResponse_inside
  · exact decodeCreateResponse_inside
  · exact decodeCloseResponse_inside
  · exact ⟨decodeReadResponse_inside, fun _ => decodeReadResponse_slice⟩
  · exact decodeWriteResponse_inside
  · exact ⟨decodeIoctlResponse_inside, fun _ => decodeIoctlResponse_slices⟩
  · exact decodeSetInfoResponse_inside
  · exact ⟨decodeQueryInfoResponse_inside, fun _ => decodeQueryInfoResponse_slice⟩
  · exact ⟨decodeQueryDirectoryResponse_inside, fun _ => decodeQueryDirectoryResponse_names⟩
  · exact ⟨decodeChangeNotifyResponse_inside, fun _ => decodeChangeNotifyResponse_names⟩
  · exact ⟨decodeFileFullEaInformation_inside, fun _ => decodeFileFullEaInformation_entries⟩
  · exact loopRun_decodeEntries _
  · exact loopRun_decodeEntries _
  · exact loopRun_decodeFileFullEaInformation data

end SmbBrowser.Native
