import SmbBrowser.Native.EntryChains
import SmbBrowser.Native.Replies
import SmbBrowser.Native.TextRoundTrip

/-!
# Lists of directory entries and change notifications

FILE_ID_BOTH_DIR_INFORMATION and FILE_NOTIFY_INFORMATION as a server writes them,
read back by `decodeQueryDirectoryResponse` (native_smb/Protocol.cpp:1845) and
`decodeChangeNotifyResponse` (native_smb/Protocol.cpp:1989).

Results:
* `decodeQueryDirectoryResponse_message`, `decodeChangeNotifyResponse_message`: the
  round trips;
* `decodeQueryDirectoryResponse_apart`, `decodeChangeNotifyResponse_apart`: the
  entries of a message have no byte in common.
-/

namespace SmbBrowser.Native

open SmbBrowser.Base

variable {data : ByteVector} {offset entriesEnd : ℕ} {nextEntryOffset : UInt32}

/-! ## Entries as they are written -/

/-- A file of a listing; the client does not read its short name. -/
structure DirectoryRecord where
  name : List Char
  fileIndex : UInt32 := 0
  creationTime : UInt64 := 0
  lastAccessTime : UInt64 := 0
  lastWriteTime : UInt64 := 0
  changeTime : UInt64 := 0
  endOfFile : UInt64 := 0
  allocationSize : UInt64 := 0
  fileAttributes : UInt32 := 0
  eaSizeOrReparseTag : UInt32 := 0
  shortName : ByteVector := List.replicate 28 0
  fileId : UInt64 := 0
  length_shortName : shortName.length = 28 := by rfl

/-- The entry the client is to return. -/
def DirectoryRecord.entry (record : DirectoryRecord) : DirectoryEntry where
  name := record.name.flatMap String.utf8EncodeChar
  fileIndex := record.fileIndex
  creationTime := record.creationTime
  lastAccessTime := record.lastAccessTime
  lastWriteTime := record.lastWriteTime
  changeTime := record.changeTime
  endOfFile := record.endOfFile
  allocationSize := record.allocationSize
  fileAttributes := record.fileAttributes
  eaSizeOrReparseTag := record.eaSizeOrReparseTag
  fileId := record.fileId
  isDirectory := record.fileAttributes &&& kFileAttributeDirectory ≠ 0
  isReparsePoint := record.fileAttributes &&& kFileAttributeReparsePoint ≠ 0

/-- FILE_ID_BOTH_DIR_INFORMATION. -/
def directoryBlock (record : DirectoryRecord) (nextEntryOffset : UInt32) : ByteVector :=
  let utf16 := record.name.flatMap utf16Le
  u32Le nextEntryOffset ++ (u32Le record.fileIndex ++ (u64Le record.creationTime ++
    (u64Le record.lastAccessTime ++ (u64Le record.lastWriteTime ++ (u64Le record.changeTime ++
    (u64Le record.endOfFile ++ (u64Le record.allocationSize ++ (u32Le record.fileAttributes ++
    (u32Le (UInt32.ofNat utf16.length) ++ (u32Le record.eaSizeOrReparseTag ++
    (record.shortName ++ (u64Le record.fileId ++ utf16))))))))))))

theorem length_directoryBlock (record : DirectoryRecord) (nextEntryOffset : UInt32) :
    (directoryBlock record nextEntryOffset).length =
      104 + (record.name.flatMap utf16Le).length := by
  simp only [directoryBlock, List.length_append, length_u32Le, length_u64Le,
    record.length_shortName]
  omega

/-- A change of a file. -/
structure NotifyRecord where
  action : UInt32 := 0
  name : List Char

/-- The entry the client is to return. -/
def NotifyRecord.entry (record : NotifyRecord) : ChangeNotifyEntry where
  action := record.action
  name := record.name.flatMap String.utf8EncodeChar

/-- FILE_NOTIFY_INFORMATION. -/
def notifyBlock (record : NotifyRecord) (nextEntryOffset : UInt32) : ByteVector :=
  let utf16 := record.name.flatMap utf16Le
  u32Le nextEntryOffset ++ (u32Le record.action ++ (u32Le (UInt32.ofNat utf16.length) ++ utf16))

theorem length_notifyBlock (record : NotifyRecord) (nextEntryOffset : UInt32) :
    (notifyBlock record nextEntryOffset).length = 12 + (record.name.flatMap utf16Le).length := by
  simp only [notifyBlock, List.length_append, length_u32Le]
  omega

/-! ## Reading an entry -/

/-- A link that reaches behind its entry passes the check of the decoders. -/
theorem not_badLink {headerSize nameLength : ℕ} (hsize : headerSize + nameLength < 2 ^ 32)
    (hnext : nextEntryOffset ≠ 0 → headerSize + nameLength ≤ nextEntryOffset.toNat ∧
      offset + nextEntryOffset.toNat ≤ entriesEnd) :
    ¬ (nextEntryOffset ≠ 0 ∧
      (nextEntryOffset < UInt32.ofNat headerSize + UInt32.ofNat nameLength ∨
        offset + nextEntryOffset.toNat > entriesEnd)) := by
  rintro ⟨hlinked, hbad⟩
  obtain ⟨hreaches, hinside⟩ := hnext hlinked
  obtain hsmall | hbehind := hbad
  · rw [UInt32.lt_iff_toNat_lt, UInt32.toNat_add, UInt32.toNat_ofNat', UInt32.toNat_ofNat'] at hsmall
    omega
  · omega

theorem reads_directoryBlock :
    ReadsBlocks decodeDirectoryEntry DirectoryRecord.entry directoryBlock fun _ => True where
  pos record := by
    rw [length_directoryBlock]
    omega
  length_eq record next := by rw [length_directoryBlock, length_directoryBlock]
  reads := by
    intro data offset entriesEnd record nextEntryOffset h hsize hfits hnext
    rw [length_directoryBlock] at hsize hfits hnext
    have h4 := h.right
    have h8 := h4.right
    have h16 := h8.right
    have h24 := h16.right
    have h32 := h24.right
    have h40 := h32.right
    have h48 := h40.right
    have h56 := h48.right
    have h60 := h56.right
    have h64 := h60.right
    have h68 := h64.right
    have h96 := h68.right
    have hname := h96.right.readBytes
    have hlink := h.left.readU32Le
    have hfileIndex := h4.left.readU32Le
    have hcreation := h8.left.readU64Le
    have haccess := h16.left.readU64Le
    have hwrite := h24.left.readU64Le
    have hchange := h32.left.readU64Le
    have hendOfFile := h40.left.readU64Le
    have hallocation := h48.left.readU64Le
    have hattributes := h56.left.readU32Le
    have hnameLength := h60.left.readU32Le
    have hea := h64.left.readU32Le
    have hfileId := h96.left.readU64Le
    simp only [length_u32Le, length_u64Le, record.length_shortName, Nat.add_assoc, Nat.reduceAdd]
      at hname hfileIndex hcreation haccess hwrite hchange hendOfFile hallocation hattributes
        hnameLength hea hfileId
    have hnat : (UInt32.ofNat (record.name.flatMap utf16Le).length).toNat =
        (record.name.flatMap utf16Le).length := by
      rw [UInt32.toNat_ofNat', Nat.mod_eq_of_lt (by omega)]
    have hreaches : ¬ (nextEntryOffset ≠ 0 ∧
        (nextEntryOffset < 104 + UInt32.ofNat (record.name.flatMap utf16Le).length ∨
          offset + nextEntryOffset.toNat > entriesEnd)) :=
      not_badLink hsize fun hne => (hnext hne).2
    unfold decodeDirectoryEntry
    rw [if_neg (by omega)]
    simp only [hlink, hnameLength, ok_bind, hnat]
    rw [if_neg (by omega), if_neg hreaches, hname, ok_bind, decodeUtf16Le_chars]
    simp only [hfileIndex, hcreation, haccess, hwrite, hchange, hendOfFile, hallocation,
      hattributes, hea, hfileId, ok_bind]
    rfl

theorem reads_notifyBlock :
    ReadsBlocks decodeNotifyEntry NotifyRecord.entry notifyBlock fun link => link % 4 = 0 where
  pos record := by
    rw [length_notifyBlock]
    omega
  length_eq record next := by rw [length_notifyBlock, length_notifyBlock]
  reads := by
    intro data offset entriesEnd record nextEntryOffset h hsize hfits hnext
    rw [length_notifyBlock] at hsize hfits hnext
    have hlink := h.left.readU32Le
    have haction := h.right.left.readU32Le
    have hnameLength := h.right.right.left.readU32Le
    have hname := h.right.right.right.readBytes
    simp only [length_u32Le, Nat.add_assoc, Nat.reduceAdd] at haction hnameLength hname
    have hnat : (UInt32.ofNat (record.name.flatMap utf16Le).length).toNat =
        (record.name.flatMap utf16Le).length := by
      rw [UInt32.toNat_ofNat', Nat.mod_eq_of_lt (by omega)]
    have halign : ¬ (nextEntryOffset ≠ 0 ∧ (nextEntryOffset % 4 ≠ 0 ∨
        nextEntryOffset < 12 + UInt32.ofNat (record.name.flatMap utf16Le).length ∨
        offset + nextEntryOffset.toNat > entriesEnd)) := by
      rintro ⟨hlinked, hodd | hbad⟩
      · apply hodd
        apply UInt32.toNat_inj.1
        rw [UInt32.toNat_mod]
        exact (hnext hlinked).1
      · exact not_badLink hsize (fun hne => (hnext hne).2) ⟨hlinked, hbad⟩
    unfold decodeNotifyEntry
    rw [if_neg (by omega)]
    simp only [hlink, hnameLength, ok_bind, hnat]
    rw [if_neg (by omega), if_neg halign, hname, ok_bind, decodeUtf16Le_chars]
    simp only [haction, ok_bind]
    rfl

/-! ## Messages -/

/-- The response with a buffer of entries; a gap may lie before the buffer. -/
def entriesMessage (header : Smb2SyncHeader) (gap buffer : ByteVector) : ByteVector :=
  encodeSmb2SyncHeader header ++ (u16Le 9 ++ (u16Le (UInt16.ofNat (72 + gap.length)) ++
    (u32Le (UInt32.ofNat buffer.length) ++ (gap ++ buffer))))

section

variable {header : Smb2SyncHeader} {gap buffer : ByteVector}

theorem length_entriesMessage :
    (entriesMessage header gap buffer).length = 72 + gap.length + buffer.length := by
  simp only [entriesMessage, List.length_append, length_encodeSmb2SyncHeader, length_u16Le,
    length_u32Le]
  omega

theorem holds_entriesMessage : Holds (entriesMessage header gap buffer) 64
    (u16Le 9 ++ (u16Le (UInt16.ofNat (72 + gap.length)) ++
      (u32Le (UInt32.ofNat buffer.length) ++ (gap ++ buffer)))) :=
  ⟨encodeSmb2SyncHeader header, [], by rw [List.append_nil]; rfl, length_encodeSmb2SyncHeader _⟩

theorem checkResponseBody_entriesMessage {format : ResponseFormat} (hfixed : format.fixedSize = 8)
    (hstructure : format.structureSize = 9) :
    checkResponseBody format (entriesMessage header gap buffer) = .ok () := by
  have hread := (@holds_entriesMessage header gap buffer).left.readU16Le
  have hlong : ¬ (entriesMessage header gap buffer).length < kSmb2HeaderSize + format.fixedSize := by
    rw [length_entriesMessage, hfixed, kSmb2HeaderSize]
    omega
  unfold checkResponseBody
  rw [if_neg hlong, kSmb2HeaderSize, hread, ok_bind, hstructure, if_neg (by simp)]
  rfl

theorem header_entriesMessage {format : ResponseFormat} (hcommand : header.command = format.command)
    (hflag : header.flags &&& kFlagServerToRedir ≠ 0) (hstatus : header.status ∈ format.accepted) :
    decodeResponseHeader format (entriesMessage header gap buffer) = .ok header :=
  decodeResponseHeader_eq_ok.2 ⟨decodeSmb2SyncHeader_encode _ _, hcommand, hflag, hstatus⟩

/-- The fields that say where the buffer is. -/
theorem fields_entriesMessage (header : Smb2SyncHeader) (hgap : 72 + gap.length < 2 ^ 16) (hsize : buffer.length < 2 ^ 32) :
    ∃ start length, readU16Le (entriesMessage header gap buffer) (64 + 2) = .ok start ∧
      readU32Le (entriesMessage header gap buffer) (64 + 4) = .ok length ∧
      start.toNat = 72 + gap.length ∧ length.toNat = buffer.length ∧
      bufferInBounds (entriesMessage header gap buffer) start.toNat length.toNat = true := by
  have h := @holds_entriesMessage header gap buffer
  have hstart := h.right.left.readU16Le
  have hlength := h.right.right.left.readU32Le
  have hstartNat : (UInt16.ofNat (72 + gap.length)).toNat = 72 + gap.length := by
    rw [UInt16.toNat_ofNat', Nat.mod_eq_of_lt hgap]
  have hlengthNat : (UInt32.ofNat buffer.length).toNat = buffer.length := by
    rw [UInt32.toNat_ofNat', Nat.mod_eq_of_lt hsize]
  refine ⟨_, _, hstart, hlength, hstartNat, hlengthNat, ?_⟩
  rw [hstartNat, hlengthNat, bufferInBounds, length_entriesMessage, kSmb2HeaderSize]
  have hbehind : 64 ≤ 72 + gap.length := by omega
  simp [hbehind]

/-- The entries of the buffer. -/
theorem decodeEntries_entriesMessage (header : Smb2SyncHeader) (gap : ByteVector)
    {α β : Type} {block : β → UInt32 → ByteVector} {value : β → α}
    {decodeAt : ByteVector → ℕ → ℕ → DecodeResult (α × UInt32)} {admissible : ℕ → Prop}
    (hreads : ReadsBlocks decodeAt value block admissible) {entries : List (β × ByteVector)}
    (hpadded : PaddedBy admissible block entries)
    (hsize : (encodeEntries block entries).length < 2 ^ 32) :
    decodeEntries (decodeAt (entriesMessage header gap (encodeEntries block entries)))
      (72 + gap.length) (encodeEntries block entries).length =
        .ok ((entries.map (·.1)).map value) := by
  have h := decodeEntries_encodeEntries hreads (encodeSmb2SyncHeader header ++ (u16Le 9 ++
    (u16Le (UInt16.ofNat (72 + gap.length)) ++
      (u32Le (UInt32.ofNat (encodeEntries block entries).length) ++ gap)))) [] hpadded hsize
  simp only [List.append_assoc, List.append_nil, List.length_append, length_u16Le, length_u32Le,
    length_encodeSmb2SyncHeader, ← Nat.add_assoc, Nat.reduceAdd] at h
  exact h

theorem decodeQueryDirectoryResponse_message (hcommand : header.command = .queryDirectory)
    (hflag : header.flags &&& kFlagServerToRedir ≠ 0) (hstatus : header.status = kStatusSuccess)
    (hgap : 72 + gap.length < 2 ^ 16) {entries : List (DirectoryRecord × ByteVector)}
    (hpadded : PaddedBy (fun _ => True) directoryBlock entries)
    (hsize : (encodeEntries directoryBlock entries).length < 2 ^ 32) :
    decodeQueryDirectoryResponse
        (entriesMessage header gap (encodeEntries directoryBlock entries)) =
      .ok { status := header.status, entries := (entries.map (·.1)).map DirectoryRecord.entry } := by
  obtain ⟨start, length, hstart, hlength, hstartNat, hlengthNat, hbounds⟩ :=
    fields_entriesMessage header hgap hsize
  have hmore : header.status ≠ kStatusNoMoreFiles := by
    rw [hstatus]
    decide
  have haccepted : header.status ∈ queryDirectoryFormat.accepted := by
    rw [hstatus]
    decide
  have hentries := decodeEntries_entriesMessage header gap reads_directoryBlock hpadded hsize
  rw [← hstartNat, ← hlengthNat] at hentries
  unfold decodeQueryDirectoryResponse
  rw [header_entriesMessage hcommand hflag haccepted, ok_bind]
  rw [if_neg hmore, checkResponseBody_entriesMessage rfl rfl, ok_bind, hstart, ok_bind, hlength,
    ok_bind, if_neg (by simp [hbounds]), hentries]
  rfl

theorem decodeChangeNotifyResponse_message (hcommand : header.command = .changeNotify)
    (hflag : header.flags &&& kFlagServerToRedir ≠ 0)
    (hstatus : header.status = kStatusSuccess ∨ header.status = kStatusNotifyEnumDir)
    (hgap : 72 + gap.length < 2 ^ 16) {entries : List (NotifyRecord × ByteVector)}
    (hpadded : PaddedBy (fun link => link % 4 = 0) notifyBlock entries)
    (hsize : (encodeEntries notifyBlock entries).length < 2 ^ 32) :
    decodeChangeNotifyResponse
        (entriesMessage header gap (encodeEntries notifyBlock entries)) =
      .ok {
        status := header.status
        outputBufferOffset := UInt16.ofNat (72 + gap.length)
        entries := (entries.map (·.1)).map NotifyRecord.entry } := by
  obtain ⟨start, length, hstart, hlength, hstartNat, hlengthNat, hbounds⟩ :=
    fields_entriesMessage header hgap hsize
  have haccepted : header.status ∈ changeNotifyFormat.accepted := by
    obtain h | h := hstatus
    · rw [h]
      decide
    · rw [h]
      decide
  have hentries := decodeEntries_entriesMessage header gap reads_notifyBlock hpadded hsize
  rw [← hstartNat, ← hlengthNat] at hentries
  have hfixed : decodeResponseFixed changeNotifyFormat
      (entriesMessage header gap (encodeEntries notifyBlock entries)) = .ok header := by
    unfold decodeResponseFixed
    rw [header_entriesMessage hcommand hflag haccepted, ok_bind,
      checkResponseBody_entriesMessage rfl rfl]
    rfl
  have hsame : start = UInt16.ofNat (72 + gap.length) := by
    rw [← hstartNat, UInt16.ofNat_toNat]
  unfold decodeChangeNotifyResponse
  rw [hfixed, ok_bind, hstart, ok_bind, hlength, ok_bind, if_neg (by simp [hbounds]), hentries,
    hsame]
  rfl

end

/-! ## Ranges -/

/-- The bytes of an entry: its fixed part and the name it states. -/
def statedSize {α : Type} (data : ByteVector) (headerSize lengthAt : ℕ) (x : ℕ × α) : ℕ :=
  headerSize + leValue ((data.drop (x.1 + lengthAt)).take 4)

theorem statedSize_of_readNumber {α : Type} {headerSize lengthAt nameLength : ℕ} {entry : α}
    (h : readNumber data (offset + lengthAt) 4 = .ok nameLength) :
    statedSize data headerSize lengthAt (offset, entry) = headerSize + nameLength := by
  obtain ⟨bytes, hbytes, hvalue⟩ := bind_eq_ok.1 h
  obtain ⟨-, rfl⟩ := readBytes_eq_ok.1 hbytes
  obtain rfl := pure_eq_ok.1 hvalue
  rfl

/-- A link that passed the check of the decoders reaches behind its entry. -/
theorem reaches_of_not_badLink {headerSize : ℕ} {nameLength : UInt32}
    (hsize : headerSize + nameLength.toNat < 2 ^ 32)
    (hchecked : ¬ nextEntryOffset < UInt32.ofNat headerSize + nameLength) :
    headerSize + nameLength.toNat ≤ nextEntryOffset.toNat := by
  rw [UInt32.lt_iff_toNat_lt, UInt32.toNat_add, UInt32.toNat_ofNat'] at hchecked
  omega

theorem toNat_of_readU32Le {value : UInt32} {off n : ℕ} (h : readU32Le data off = .ok value)
    (hn : readNumber data off 4 = .ok n) : value.toNat = n :=
  Except.ok.inj ((readNumber_of_readU32Le h).symm.trans hn)

theorem reaches_of_decodeDirectoryEntry {entry : DirectoryEntry} {nameLength : ℕ}
    (h : decodeDirectoryEntry data offset entriesEnd = .ok (entry, nextEntryOffset))
    (hlength : readNumber data (offset + 60) 4 = .ok nameLength) (hsize : 104 + nameLength < 2 ^ 32)
    (hnext : nextEntryOffset ≠ 0) : 104 + nameLength ≤ nextEntryOffset.toNat := by
  have hlink := (of_decodeDirectoryEntry h).1
  unfold decodeDirectoryEntry at h
  split at h
  · cases h
  obtain ⟨next, hread, h⟩ := bind_eq_ok.1 h
  obtain ⟨nameLength', hlength', h⟩ := bind_eq_ok.1 h
  dsimp only at h
  split at h
  · cases h
  split at h
  · cases h
  rename_i hchecked
  obtain rfl : next = nextEntryOffset := UInt32.toNat_inj.1 (toNat_of_readU32Le hread hlink)
  obtain rfl : nameLength'.toNat = nameLength := toNat_of_readU32Le hlength' hlength
  exact reaches_of_not_badLink hsize fun hsmall => hchecked ⟨hnext, .inl hsmall⟩

theorem reaches_of_decodeNotifyEntry {entry : ChangeNotifyEntry} {nameLength : ℕ}
    (h : decodeNotifyEntry data offset entriesEnd = .ok (entry, nextEntryOffset))
    (hlength : readNumber data (offset + 8) 4 = .ok nameLength) (hsize : 12 + nameLength < 2 ^ 32)
    (hnext : nextEntryOffset ≠ 0) : 12 + nameLength ≤ nextEntryOffset.toNat := by
  have hlink := (of_decodeNotifyEntry h).1
  unfold decodeNotifyEntry at h
  split at h
  · cases h
  obtain ⟨next, hread, h⟩ := bind_eq_ok.1 h
  obtain ⟨nameLength', hlength', h⟩ := bind_eq_ok.1 h
  dsimp only at h
  split at h
  · cases h
  split at h
  · cases h
  rename_i hchecked
  obtain rfl : next = nextEntryOffset := UInt32.toNat_inj.1 (toNat_of_readU32Le hread hlink)
  obtain rfl : nameLength'.toNat = nameLength := toNat_of_readU32Le hlength' hlength
  exact reaches_of_not_badLink hsize fun hsmall => hchecked ⟨hnext, .inr (.inl hsmall)⟩

/-- The entries are those of the chain in the buffer the message states; they lie
    apart and inside this buffer. -/
structure LiesApart {α : Type} (data : ByteVector) (entryAt : ℕ → ℕ → DecodeResult (α × UInt32))
    (headerSize lengthAt : ℕ) (entries : List α) : Prop where
  ranges : ∃ start length chain, start + length ≤ data.length ∧
    (entries ≠ [] → readNumber data 66 2 = .ok start ∧ readNumber data 68 4 = .ok length) ∧
    Chain (FoundBy (entryAt · (start + length))) (start + length) start chain ∧
    entries = chain.map (·.2) ∧
    chain.Pairwise (Apart (statedSize data headerSize lengthAt)) ∧
    ∀ x ∈ chain, start ≤ x.1 ∧ x.1 + statedSize data headerSize lengthAt x ≤ start + length

theorem liesApart_nil {α : Type} {entryAt : ℕ → ℕ → DecodeResult (α × UInt32)}
    {headerSize lengthAt : ℕ} : LiesApart data entryAt headerSize lengthAt [] :=
  ⟨0, 0, [], by simp, by simp, .done (Nat.le_refl _), rfl, .nil, by simp⟩

theorem liesApart_decodeEntries {α : Type} {entryAt : ℕ → ℕ → DecodeResult (α × UInt32)}
    {headerSize lengthAt start length : ℕ} {entries : List α}
    (hstart : readNumber data 66 2 = .ok start) (hlength : readNumber data 68 4 = .ok length)
    (hbuffer : bufferInBounds data start length = true)
    (hsmall : headerSize + data.length < 2 ^ 32)
    (hentry : ∀ {offset entriesEnd entry next},
      entryAt offset entriesEnd = .ok (entry, next) →
        ∃ nameLength, readNumber data (offset + lengthAt) 4 = .ok nameLength ∧
          offset + headerSize + nameLength ≤ entriesEnd ∧
          (headerSize + nameLength < 2 ^ 32 → next ≠ 0 → headerSize + nameLength ≤ next.toNat))
    (h : decodeEntries entryAt start length = .ok entries) :
    LiesApart data entryAt headerSize lengthAt entries := by
  by_cases hempty : length = 0
  · rw [decodeEntries, hempty] at h
    obtain rfl := Except.ok.inj h
    exact liesApart_nil
  have hend := bufferInBounds_end hbuffer hempty
  obtain ⟨chain, hchain, hentries⟩ := (decodeEntriesLoop_eq_ok_iff (by omega)).1 h
  have hfound : ∀ {offset entry link}, FoundBy (entryAt · (start + length)) offset entry link →
      offset + statedSize data headerSize lengthAt (offset, entry) ≤ start + length ∧
      (link ≠ 0 → statedSize data headerSize lengthAt (offset, entry) ≤ link) := by
    rintro offset entry link ⟨next, hfound, rfl⟩
    obtain ⟨nameLength, hread, hfits, hreaches⟩ := hentry hfound
    rw [statedSize_of_readNumber hread]
    refine ⟨by omega, fun hlink => hreaches (by omega) ?_⟩
    rintro rfl
    exact hlink rfl
  have hcovers : Covers (fun _ _ => True) (FoundBy (entryAt · (start + length)))
      (statedSize data headerSize lengthAt) start := fun _ hentry => (hfound hentry).2
  refine ⟨start, length, chain, hend, fun _ => ⟨hstart, hlength⟩, hchain, hentries, hchain.apart (fun _ => trivial) hcovers, ?_⟩
  intro x hx
  obtain ⟨-, link, hat⟩ := hchain.found_at x hx
  exact ⟨hchain.start_le x hx, (hfound hat).1⟩

theorem decodeQueryDirectoryResponse_apart {response : QueryDirectoryResponse}
    (hsize : data.length ≤ 16 * 1024 * 1024) (h : decodeQueryDirectoryResponse data = .ok response) :
    LiesApart data (decodeDirectoryEntry data) 104 60 response.entries := by
  unfold decodeQueryDirectoryResponse at h
  obtain ⟨header, -, h⟩ := bind_eq_ok.1 h
  split at h
  · obtain rfl := Except.ok.inj h
    exact liesApart_nil
  obtain ⟨_, -, h⟩ := bind_eq_ok.1 h
  obtain ⟨start, hstart, h⟩ := bind_eq_ok.1 h
  obtain ⟨length, hlength, h⟩ := bind_eq_ok.1 h
  split at h
  · cases h
  rename_i hbuffer
  obtain ⟨entries, hentries, h⟩ := bind_eq_ok.1 h
  obtain rfl := pure_eq_ok.1 h
  refine liesApart_decodeEntries (readNumber_of_readU16Le hstart) (readNumber_of_readU32Le hlength)
    (by simpa using hbuffer) (by omega) ?_ hentries
  intro offset entriesEnd entry next hentry
  obtain ⟨-, nameLength, hread, hfits, -⟩ := of_decodeDirectoryEntry hentry
  exact ⟨nameLength, hread, hfits, reaches_of_decodeDirectoryEntry hentry hread⟩

theorem decodeChangeNotifyResponse_apart {response : ChangeNotifyResponse}
    (hsize : data.length ≤ 16 * 1024 * 1024) (h : decodeChangeNotifyResponse data = .ok response) :
    LiesApart data (decodeNotifyEntry data) 12 8 response.entries := by
  unfold decodeChangeNotifyResponse at h
  obtain ⟨header, -, h⟩ := bind_eq_ok.1 h
  obtain ⟨start, hstart, h⟩ := bind_eq_ok.1 h
  obtain ⟨length, hlength, h⟩ := bind_eq_ok.1 h
  split at h
  · cases h
  rename_i hbuffer
  obtain ⟨entries, hentries, h⟩ := bind_eq_ok.1 h
  obtain rfl := pure_eq_ok.1 h
  refine liesApart_decodeEntries (readNumber_of_readU16Le hstart) (readNumber_of_readU32Le hlength)
    (by simpa using hbuffer) (by omega) ?_ hentries
  intro offset entriesEnd entry next hentry
  obtain ⟨-, nameLength, hread, hfits, -⟩ := of_decodeNotifyEntry hentry
  exact ⟨nameLength, hread, hfits, reaches_of_decodeNotifyEntry hentry hread⟩

/-- **Linked entries**: a list of directory entries or of notifications that is written
    with admissible links is read back in order, whatever the gap before it and the
    padding between its entries; the entries of an accepted message of at most
    16 MiB lie apart; and the loops end on every message. -/
theorem linkedEntries_decoded :
    (∀ (header : Smb2SyncHeader) (gap : ByteVector) (entries : List (DirectoryRecord × ByteVector)),
      header.command = .queryDirectory → header.flags &&& kFlagServerToRedir ≠ 0 →
      header.status = kStatusSuccess → 72 + gap.length < 2 ^ 16 →
      PaddedBy (fun _ => True) directoryBlock entries →
      (encodeEntries directoryBlock entries).length < 2 ^ 32 →
      decodeQueryDirectoryResponse
          (entriesMessage header gap (encodeEntries directoryBlock entries)) =
        .ok { status := header.status, entries := (entries.map (·.1)).map DirectoryRecord.entry }) ∧
    (∀ (header : Smb2SyncHeader) (gap : ByteVector) (entries : List (NotifyRecord × ByteVector)),
      header.command = .changeNotify → header.flags &&& kFlagServerToRedir ≠ 0 →
      header.status = kStatusSuccess ∨ header.status = kStatusNotifyEnumDir →
      72 + gap.length < 2 ^ 16 → PaddedBy (fun link => link % 4 = 0) notifyBlock entries →
      (encodeEntries notifyBlock entries).length < 2 ^ 32 →
      decodeChangeNotifyResponse
          (entriesMessage header gap (encodeEntries notifyBlock entries)) =
        .ok {
          status := header.status
          outputBufferOffset := UInt16.ofNat (72 + gap.length)
          entries := (entries.map (·.1)).map NotifyRecord.entry }) ∧
    (∀ data response, data.length ≤ 16 * 1024 * 1024 →
      decodeQueryDirectoryResponse data = .ok response →
      LiesApart data (decodeDirectoryEntry data) 104 60 response.entries) ∧
    (∀ data response, data.length ≤ 16 * 1024 * 1024 →
      decodeChangeNotifyResponse data = .ok response →
      LiesApart data (decodeNotifyEntry data) 12 8 response.entries) ∧
    ∀ data start length more,
      decodeEntriesLoop (decodeDirectoryEntry data · (start + length)) (start + length)
          (length + more) start = decodeEntries (decodeDirectoryEntry data) start length ∧
      decodeEntriesLoop (decodeNotifyEntry data · (start + length)) (start + length)
          (length + more) start = decodeEntries (decodeNotifyEntry data) start length := by
  refine ⟨?_, ?_, ?_, ?_, ?_⟩
  · intro header gap entries hcommand hflag hstatus hgap hpadded hsize
    exact decodeQueryDirectoryResponse_message hcommand hflag hstatus hgap hpadded hsize
  · intro header gap entries hcommand hflag hstatus hgap hpadded hsize
    exact decodeChangeNotifyResponse_message hcommand hflag hstatus hgap hpadded hsize
  · intro data response hsize h
    exact decodeQueryDirectoryResponse_apart hsize h
  · intro data response hsize h
    exact decodeChangeNotifyResponse_apart hsize h
  · intro data start length more
    exact ⟨decodeEntriesLoop_turns (by omega) more, decodeEntriesLoop_turns (by omega) more⟩

/-- Two files with two bytes of padding between them. -/
def twoFiles : List (DirectoryRecord × ByteVector) :=
  [({ name := ['a'] }, [0, 0]), ({ name := ['b'], fileAttributes := kFileAttributeDirectory }, [])]

theorem linkedEntries_decoded_two :
    decodeQueryDirectoryResponse (entriesMessage
        { command := .queryDirectory, flags := kFlagServerToRedir } []
        (encodeEntries directoryBlock twoFiles)) =
      .ok { status := kStatusSuccess, entries := (twoFiles.map (·.1)).map DirectoryRecord.entry } := by
  have hsize : (encodeEntries directoryBlock twoFiles).length < 2 ^ 32 := by
    simp only [twoFiles, encodeEntries, List.length_append, length_directoryBlock]
    decide
  have hflag : kFlagServerToRedir &&& kFlagServerToRedir ≠ 0 := by decide
  exact linkedEntries_decoded.1 _ [] twoFiles rfl hflag rfl (by decide) ⟨trivial, trivial⟩ hsize

end SmbBrowser.Native
