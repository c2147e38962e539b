import SmbBrowser.Native.Rpc

/-!
# Replies of a server that grants every request

Messages a server may answer with, and what the decoders read from them.

Results:
* `decodeResponseHeader_granted`: the header of a granted request is accepted;
* `decode_listingMessage`: a listing of one entry, for every name.
-/

namespace SmbBrowser.Native

open SmbBrowser.Base

/-- The reply to a granted request. -/
def grantedMessage (command : Command) (body : ByteVector) : ByteVector :=
  encodeSmb2SyncHeader { command, flags := kFlagServerToRedir } ++ body

theorem length_grantedMessage (command : Command) (body : ByteVector) :
    (grantedMessage command body).length = 64 + body.length := by
  rw [grantedMessage, List.length_append, length_encodeSmb2SyncHeader]

theorem readBytes_granted {command : Command} {body : ByteVector} {off len : ℕ} :
    readBytes (grantedMessage command body) (64 + off) len = readBytes body off len := by
  have hskip : (encodeSmb2SyncHeader { command, flags := kFlagServerToRedir }).length ≤ 64 + off := by
    rw [length_encodeSmb2SyncHeader]
    omega
  rw [grantedMessage, readBytes_skip _ hskip, length_encodeSmb2SyncHeader, Nat.add_sub_cancel_left]

theorem decodeResponseHeader_granted {format : ResponseFormat} {body : ByteVector}
    (h : kStatusSuccess ∈ format.accepted) :
    decodeResponseHeader format (grantedMessage format.command body) =
      .ok { command := format.command, flags := kFlagServerToRedir } := by
  rw [decodeResponseHeader_eq_ok]
  have hflag : kFlagServerToRedir &&& kFlagServerToRedir ≠ 0 := by decide
  exact ⟨decodeSmb2SyncHeader_encode _ _, rfl, hflag, h⟩

/-! ## Replies without data -/

def createdMessage : ByteVector := grantedMessage .create (u16Le 89 ++ List.replicate 86 0)

def closedMessage : ByteVector := grantedMessage .close (u16Le 60 ++ List.replicate 58 0)

def setInfoMessage : ByteVector := grantedMessage .setInfo (u16Le 2)

/-- The reply that ends a listing. -/
def noMoreFilesMessage : ByteVector :=
  encodeSmb2SyncHeader {
    command := .queryDirectory, flags := kFlagServerToRedir, status := kStatusNoMoreFiles }

/-- The reply to a WRITE of this many bytes. -/
def writtenMessage (count : UInt32) : ByteVector :=
  grantedMessage .write (u16Le 17 ++ u16Le 0 ++ u32Le count ++ List.replicate 8 0)

@[simp] theorem length_createdMessage : createdMessage.length = 152 := by
  simp [createdMessage, length_grantedMessage]

@[simp] theorem length_closedMessage : closedMessage.length = 124 := by
  simp [closedMessage, length_grantedMessage]

@[simp] theorem length_noMoreFilesMessage : noMoreFilesMessage.length = 64 := by
  simp [noMoreFilesMessage]

@[simp] theorem length_writtenMessage (count : UInt32) : (writtenMessage count).length = 80 := by
  simp [writtenMessage, length_grantedMessage]

set_option maxRecDepth 10000 in
theorem decode_createdMessage : decodeCreateResponse createdMessage = .ok {} := by rfl

set_option maxRecDepth 10000 in
theorem decode_closedMessage : decodeCloseResponse closedMessage = .ok {} := by rfl

set_option maxRecDepth 10000 in
theorem decode_noMoreFilesMessage :
    decodeQueryDirectoryResponse noMoreFilesMessage = .ok { status := kStatusNoMoreFiles } := by
  rfl

set_option maxRecDepth 10000 in
theorem decode_writtenMessage : decodeWriteResponse (writtenMessage 72) = .ok { count := 72 } := by
  rfl

/-! ## Information, data and pipe replies -/

/-- The reply to QUERY_INFO with this buffer. -/
def informationMessage (buffer : ByteVector) : ByteVector :=
  grantedMessage .queryInfo (u16Le 9 ++ u16Le 72 ++ u32Le (UInt32.ofNat buffer.length) ++ buffer)

/-- FILE_BASIC_INFORMATION of an object without attributes. -/
def basicInformation : ByteVector := List.replicate 40 0

/-- FILE_STANDARD_INFORMATION of a directory. -/
def directoryInformation : ByteVector := List.replicate 21 0 ++ [1, 0, 0]

/-- The reply to a READ of these data. -/
def readMessage (data : ByteVector) : ByteVector :=
  grantedMessage .read
    (u16Le 17 ++ [80, 0] ++ u32Le (UInt32.ofNat data.length) ++ List.replicate 8 0 ++ data)

/-- The PDU that accepts the only presentation context of a bind. -/
def bindAckPdu : ByteVector :=
  dcerpcCommonHeader kDcerpcPacketTypeBindAck 56 1 ++
    (u16Le kDcerpcDefaultFragSize ++ u16Le kDcerpcDefaultFragSize ++ List.replicate 8 0 ++
      [1, 0, 0, 0] ++ List.replicate 24 0)

@[simp] theorem length_informationMessage (buffer : ByteVector) :
    (informationMessage buffer).length = 72 + buffer.length := by
  simp [informationMessage, length_grantedMessage]
  omega

@[simp] theorem length_readMessage (data : ByteVector) :
    (readMessage data).length = 80 + data.length := by
  simp [readMessage, length_grantedMessage]
  omega

set_option maxRecDepth 10000 in
theorem decode_basicMessage : decodeQueryInfoResponse (informationMessage basicInformation) =
    .ok { outputBufferOffset := 72, buffer := basicInformation } := by
  rfl

set_option maxRecDepth 10000 in
theorem decode_directoryMessage :
    decodeQueryInfoResponse (informationMessage directoryInformation) =
      .ok { outputBufferOffset := 72, buffer := directoryInformation } := by
  rfl

set_option maxRecDepth 10000 in
theorem decode_bindAckMessage : decodeReadResponse (readMessage bindAckPdu) =
    .ok { dataOffset := 80, data := bindAckPdu } := by
  rfl

set_option maxRecDepth 10000 in
theorem decode_bindAckPdu : ∃ ack, decodeDcerpcBindAck bindAckPdu = .ok ack := ⟨_, rfl⟩

/-! ## Listings -/

/-- A listing of one entry. -/
def listingMessage (attributes : UInt32) (utf16 : ByteVector) : ByteVector :=
  grantedMessage .queryDirectory
    (u16Le 9 ++ (u16Le 72 ++ (u32Le (UInt32.ofNat (104 + utf16.length)) ++
      (List.replicate 56 0 ++ (u32Le attributes ++ (u32Le (UInt32.ofNat utf16.length) ++
      (List.replicate 40 0 ++ utf16)))))))

/-- The entry the client reads from it. -/
def listedEntry (attributes : UInt32) (name : ByteVector) : DirectoryEntry where
  name := name
  fileAttributes := attributes
  isDirectory := attributes &&& kFileAttributeDirectory ≠ 0
  isReparsePoint := attributes &&& kFileAttributeReparsePoint ≠ 0

section

variable (attributes : UInt32) (utf16 : ByteVector)

theorem length_listingMessage :
    (listingMessage attributes utf16).length = 72 + (104 + utf16.length) := by
  rw [listingMessage, length_grantedMessage]
  simp
  omega

theorem readBytes_listing {off len : ℕ} (h : 72 ≤ off) :
    readBytes (listingMessage attributes utf16) off len =
      readBytes (List.replicate 56 0 ++ (u32Le attributes ++ (u32Le (UInt32.ofNat utf16.length) ++
        (List.replicate 40 0 ++ utf16)))) (off - 72) len := by
  obtain ⟨k, rfl⟩ := Nat.exists_eq_add_of_le h
  rw [listingMessage, show 72 + k = 64 + (8 + k) by omega, readBytes_granted,
    readBytes_skip _ (by simp; omega), readBytes_skip _ (by simp; omega),
    readBytes_skip _ (by simp; omega)]
  congr 1
  simp
  omega

theorem readBytes_replicate {n off len : ℕ} (rest : ByteVector) (h : off + len ≤ n) :
    readBytes (List.replicate n 0 ++ rest) off len = .ok (List.replicate len 0) := by
  rw [readBytes, slice_append_left _ (by simpa using h), slice_of_le (by simpa using h)]
  simp [Nat.min_eq_left (show len ≤ n - off by omega)]

theorem decode_listedEntry {name : ByteVector} (hname : decodeUtf16Le utf16 = .ok name)
    (hlen : utf16.length ≤ 0x00FFFF00) :
    decodeDirectoryEntry (listingMessage attributes utf16) 72 (72 + (104 + utf16.length)) =
      .ok (listedEntry attributes name, 0) := by
  have hlength : (UInt32.ofNat utf16.length).toNat = utf16.length := by
    rw [UInt32.toNat_ofNat']
    exact Nat.mod_eq_of_lt (by omega)
  have hsize : ¬ 72 + (104 + utf16.length) - 72 < 104 := by omega
  rw [decodeDirectoryEntry, if_neg hsize]
  simp (disch := first | omega | simp) only [readU32Le, readU64Le, Nat.reduceAdd,
    readBytes_listing, Nat.reduceSub, Nat.sub_self, readBytes_replicate, readBytes_skip,
    readBytes_here, List.length_replicate, length_u32Le]
  have hzero : ∀ n, leValue (List.replicate n 0) = 0 := by
    intro n
    induction n with
    | zero => rfl
    | succ n ih =>
      rw [List.replicate_succ, leValue, ih]
      rfl
  have hinside : ¬ 72 + (104 + utf16.length) < 176 + utf16.length := by omega
  simp only [Bind.bind, Except.bind, Pure.pure, Except.pure, hlength, hzero, hname, listedEntry,
    ofNat_leValue_u32Le, readBytes_zero_length, gt_iff_lt]
  rw [if_neg hinside, if_neg (by simp)]
  rfl

theorem decode_listingMessage {name : ByteVector} (hname : decodeUtf16Le utf16 = .ok name)
    (hlen : utf16.length ≤ 0x00FFFF00) :
    decodeQueryDirectoryResponse (listingMessage attributes utf16) =
      .ok { status := kStatusSuccess, entries := [listedEntry attributes name] } := by
  have hheader : decodeResponseHeader queryDirectoryFormat (listingMessage attributes utf16) =
      .ok { command := .queryDirectory, flags := kFlagServerToRedir } :=
    decodeResponseHeader_granted (by decide)
  have hstructure : readU16Le (listingMessage attributes utf16) kSmb2HeaderSize = .ok 9 := by
    rw [readU16Le, listingMessage, kSmb2HeaderSize, ← Nat.add_zero 64, readBytes_granted,
      readBytes_here _ (length_u16Le 9)]
    rfl
  have hoffset : readU16Le (listingMessage attributes utf16) (64 + 2) = .ok 72 := by
    rw [readU16Le, listingMessage, readBytes_granted, readBytes_skip _ (by simp),
      length_u16Le, readBytes_here _ (length_u16Le 72)]
    rfl
  have hsize : readU32Le (listingMessage attributes utf16) (64 + 4) =
      .ok (UInt32.ofNat (104 + utf16.length)) := by
    rw [readU32Le, listingMessage, readBytes_granted, readBytes_skip _ (by simp),
      readBytes_skip _ (by simp), length_u16Le, length_u16Le, readBytes_here _ (by simp)]
    simp [Bind.bind, Except.bind, Pure.pure, Except.pure]
  have hlong := length_listingMessage attributes utf16
  have hbody : checkResponseBody queryDirectoryFormat (listingMessage attributes utf16) = .ok () := by
    have hfixed : ¬ (listingMessage attributes utf16).length <
        kSmb2HeaderSize + queryDirectoryFormat.fixedSize := by
      have height : queryDirectoryFormat.fixedSize = 8 := rfl
      rw [hlong, kSmb2HeaderSize, height]
      omega
    rw [checkResponseBody, if_neg hfixed, hstructure]
    rfl
  have hnat : (UInt32.ofNat (104 + utf16.length)).toNat = 104 + utf16.length := by
    rw [UInt32.toNat_ofNat']
    exact Nat.mod_eq_of_lt (by omega)
  have hbounds : bufferInBounds (listingMessage attributes utf16) 72 (104 + utf16.length) = true := by
    rw [bufferInBounds, hlong]
    simp [kSmb2HeaderSize]
  have hentries : decodeEntries (decodeDirectoryEntry (listingMessage attributes utf16)) 72
      (104 + utf16.length) = .ok [listedEntry attributes name] := by
    rw [decodeEntries, show 104 + utf16.length = 103 + utf16.length + 1 by omega,
      decodeEntriesLoop, if_neg (by omega), show 103 + utf16.length + 1 = 104 + utf16.length by omega,
      decode_listedEntry attributes utf16 hname hlen]
    rfl
  have hmore : ¬ (0 : UInt32) = kStatusNoMoreFiles := by decide
  simp only [decodeQueryDirectoryResponse, hheader, hbody, hoffset, hsize, Bind.bind, Except.bind]
  rw [if_neg hmore, hnat]
  simp only [UInt16.reduceToNat, hbounds, not_true_eq_false, if_false, hentries]
  rfl

end

end SmbBrowser.Native
