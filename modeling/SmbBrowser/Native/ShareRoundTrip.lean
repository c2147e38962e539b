import SmbBrowser.Native.Reading
import SmbBrowser.Native.RpcBounds
import SmbBrowser.Native.TextRoundTrip

/-!
# Listings of shares, encoded and decoded

The NDR32 encoding of a level 1 response of `NetrShareEnum`: the pointers of a share stand
in its record, the texts they lead to behind all the records.

Results:
* `ndrReadUtf16String_standsAt`, `ndrReadShareRecords_standsAt`, `ndrReadShares_standsAt`:
  what is encoded at the cursor is read, and the cursor moves behind it;
* `decodeNetrShareEnumResponseStub_bytes`: a listing is decoded to its shares.
-/

namespace SmbBrowser.Native

open SmbBrowser.Base

/-! ## The encoding -/

/-- The referent of a pointer that is not null. -/
structure Referent where
  id : UInt32
  ne_zero : id ≠ 0

/-- A text whose code units, with the terminator, can be counted in 32 bits. -/
structure NdrString where
  chars : List Char
  fits : (chars.flatMap utf16Le).length / 2 + 1 < 2 ^ 32

namespace NdrString

/-- The UTF-8 text. -/
def text (s : NdrString) : ByteVector := s.chars.flatMap String.utf8EncodeChar

/-- The number of code units, with the terminator. -/
def count (s : NdrString) : ℕ := (s.chars.flatMap utf16Le).length / 2 + 1

/-- Maximum count, offset, actual count, the code units with a terminator, and padding. -/
def bytes (s : NdrString) : ByteVector :=
  align4 (u32Le (UInt32.ofNat s.count) ++ (u32Le 0 ++ (u32Le (UInt32.ofNat s.count) ++
    (s.chars.flatMap utf16Le ++ u16Le 0))))

end NdrString

/-- A share of a listing: its texts behind pointers that may be null. -/
structure ListedShare where
  name : Option (Referent × NdrString)
  rawType : UInt32
  comment : Option (Referent × NdrString)

namespace ListedShare

/-- The pointer to a text. -/
def pointer : Option (Referent × NdrString) → UInt32
  | none => 0
  | some (referent, _) => referent.id

/-- The bytes of a text behind a pointer. -/
def deferred : Option (Referent × NdrString) → ByteVector
  | none => []
  | some (_, s) => s.bytes

/-- The text behind a pointer. -/
def textOf : Option (Referent × NdrString) → ByteVector
  | none => []
  | some (_, s) => s.text

/-- The record of a share. -/
def record (share : ListedShare) : ByteVector :=
  u32Le (pointer share.name) ++ (u32Le share.rawType ++ u32Le (pointer share.comment))

/-- The texts of a share. -/
def texts (share : ListedShare) : ByteVector := deferred share.name ++ deferred share.comment

/-- What the listing says of a share, with what follows from its type and its name. -/
def info (share : ListedShare) : SrvsShareInfo where
  name := textOf share.name
  rawType := share.rawType
  kind := shareKind share.rawType
  comment := textOf share.comment
  hidden := share.rawType &&& kShareTypeSpecial ≠ 0 || endsWithDollar (textOf share.name)
  special := share.rawType &&& kShareTypeSpecial ≠ 0
  temporary := share.rawType &&& kShareTypeTemporary ≠ 0

end ListedShare

/-- The container of a listing: none, one without a buffer, or one with its shares. -/
inductive ShareContainer where
  | null
  | empty (referent : Referent)
  | shares (referent buffer : Referent) (shares : List ListedShare) (fits : shares.length < 2 ^ 32)

namespace ShareContainer

def list : ShareContainer → List ListedShare
  | null => []
  | empty _ => []
  | shares _ _ list _ => list

def bytes : ShareContainer → ByteVector
  | null => u32Le 0
  | empty referent => u32Le referent.id ++ (u32Le 0 ++ u32Le 0)
  | shares referent buffer list _ =>
    u32Le referent.id ++ (u32Le (UInt32.ofNat list.length) ++ (u32Le buffer.id ++
      (u32Le (UInt32.ofNat list.length) ++ (list.flatMap ListedShare.record ++
        list.flatMap ListedShare.texts))))

end ShareContainer

/-- A level 1 response of `NetrShareEnum` that succeeded, or has more data. -/
structure ShareListing where
  container : ShareContainer
  totalEntries : UInt32
  resumeHandle : Option (Referent × UInt32)
  moreData : Bool

namespace ShareListing

def resumeBytes : Option (Referent × UInt32) → ByteVector
  | none => u32Le 0
  | some (referent, handle) => u32Le referent.id ++ u32Le handle

def status (listing : ShareListing) : UInt32 :=
  if listing.moreData then kNetApiStatusMoreData else kNetApiStatusSuccess

/-- The NDR32 encoding of a listing. -/
def bytes (listing : ShareListing) : ByteVector :=
  u32Le 1 ++ (u32Le 1 ++ (listing.container.bytes ++ (u32Le listing.totalEntries ++
    (resumeBytes listing.resumeHandle ++ u32Le listing.status))))

/-- What a listing says. -/
def response (listing : ShareListing) : SrvsShareEnumResponse where
  shares := listing.container.list.map ListedShare.info
  totalEntries := listing.totalEntries
  resumeHandle := listing.resumeHandle.map Prod.snd
  apiStatus := listing.status
  moreData := listing.moreData

end ShareListing

/-! ## Reading at the cursor -/

section

variable {data : ByteVector} {offset : ℕ}

theorem ndrReadU32_standsAt {value : UInt32} (h : StandsAt data offset (u32Le value))
    (otherwise : String) : ndrReadU32 data offset otherwise = .ok (value, offset + 4) := by
  have hlen := h.length_le
  rw [length_u32Le] at hlen
  rw [ndrReadU32, if_neg (by omega), readU32Le_standsAt h]
  rfl

end

/-! ## Texts -/

namespace NdrString

variable (s : NdrString)

theorem length_units : (s.chars.flatMap utf16Le).length = 2 * (s.count - 1) := by
  have heven := even_length_flatMap_utf16Le s.chars
  rw [count]
  omega

theorem toNat_count : (UInt32.ofNat s.count).toNat = s.count :=
  UInt32.toNat_ofNat_of_lt' s.fits

theorem length_bytes : s.bytes.length = (12 + 2 * s.count + 3) / 4 * 4 := by
  have hcount : 0 < s.count := Nat.succ_pos _
  rw [bytes, length_align4]
  simp only [List.length_append, length_u32Le, length_u16Le, length_units]
  omega

/-- The parts of an encoded text. -/
theorem standsAt_parts {data : ByteVector} {offset : ℕ} (h : StandsAt data offset s.bytes) :
    StandsAt data offset (u32Le (UInt32.ofNat s.count)) ∧ StandsAt data (offset + 4) (u32Le 0) ∧
      StandsAt data (offset + 8) (u32Le (UInt32.ofNat s.count)) ∧
      StandsAt data (offset + 12) (s.chars.flatMap utf16Le) ∧
      StandsAt data (offset + 12 + 2 * (s.count - 1)) (u16Le 0) := by
  rw [bytes, align4, appendPadding] at h
  obtain ⟨hparts, -⟩ := standsAt_append.1 h
  simp only [standsAt_append, length_u32Le, length_units] at hparts
  exact hparts

end NdrString

section

variable {data : ByteVector} {offset : ℕ}

/-- Code units and a terminator. -/
theorem ndrReadUnits_standsAt {chars : List Char} (h : StandsAt data offset (chars.flatMap utf16Le))
    (hnull : StandsAt data (offset + (chars.flatMap utf16Le).length) (u16Le 0))
    (haligned : (offset + ((chars.flatMap utf16Le).length + 2) + 3) / 4 * 4 ≤ data.length)
    (otherwise : String) :
    ndrReadUnits data offset ((chars.flatMap utf16Le).length + 2) otherwise =
      .ok (chars.flatMap String.utf8EncodeChar,
        (offset + ((chars.flatMap utf16Le).length + 2) + 3) / 4 * 4) := by
  have hterminated :
      ndrTerminated data offset ((chars.flatMap utf16Le).length + 2) = .ok true := by
    rw [ndrTerminated, if_pos (by omega), ← Nat.add_assoc, Nat.add_sub_cancel,
      readU16Le_standsAt hnull]
    rfl
  rw [ndrReadUnits, hterminated, ok_bind]
  dsimp only
  rw [if_pos rfl, Nat.add_sub_cancel, readBytes_standsAt h, ok_bind, decodeUtf16Le_chars]
  dsimp only
  rw [if_neg (by omega)]
  rfl

/-- A text at the cursor is read, and the cursor moves behind its padding. -/
theorem ndrReadUtf16String_standsAt (s : NdrString) (h : StandsAt data offset s.bytes)
    (halign : offset % 4 = 0) (otherwise : String) :
    ndrReadUtf16String data offset otherwise = .ok (s.text, offset + s.bytes.length) := by
  obtain ⟨hmax, hzero, hactual, hunits, hnull⟩ := s.standsAt_parts h
  have hcount : 0 < s.count := Nat.succ_pos _
  have hlength := s.length_units
  have hlen := h.length_le
  rw [s.length_bytes] at hlen ⊢
  rw [ndrReadUtf16String_eq, ndrReadU32_standsAt hmax, ok_bind]
  dsimp only
  rw [ndrReadU32_standsAt hzero, ok_bind]
  dsimp only
  rw [ndrReadU32_standsAt hactual, ok_bind]
  dsimp only
  have hbytes : s.count * 2 = (s.chars.flatMap utf16Le).length + 2 := by omega
  rw [← hlength] at hnull
  rw [s.toNat_count, hbytes, if_neg (by simp), if_neg (by omega)]
  rw [ndrReadUnits_standsAt hunits hnull (by omega)]
  refine congrArg Except.ok (Prod.ext rfl ?_)
  show (offset + 12 + ((s.chars.flatMap utf16Le).length + 2) + 3) / 4 * 4 = _
  omega

/-! ## Shares -/

/-- The record a share is read as. -/
def ListedShare.deferredShare (share : ListedShare) : DeferredShare where
  namePointer := ListedShare.pointer share.name
  rawType := share.rawType
  commentPointer := ListedShare.pointer share.comment

theorem ListedShare.length_record (share : ListedShare) : share.record.length = 12 := by
  simp [ListedShare.record]

/-- The records of the shares are read one behind the other. -/
theorem ndrReadShareRecords_standsAt (list : List ListedShare)
    (h : StandsAt data offset (list.flatMap ListedShare.record)) :
    ndrReadShareRecords data list.length offset = .ok (list.map ListedShare.deferredShare,
      offset + (list.flatMap ListedShare.record).length) := by
  induction list generalizing offset with
  | nil => rfl
  | cons share list ih =>
    rw [List.flatMap_cons, standsAt_append] at h
    obtain ⟨hrecord, hrest⟩ := h
    rw [share.length_record] at hrest
    simp only [ListedShare.record, standsAt_append, length_u32Le] at hrecord
    obtain ⟨hname, htype, hcomment⟩ := hrecord
    rw [List.length_cons, ndrReadShareRecords, ndrReadU32_standsAt hname, ok_bind]
    dsimp only
    rw [ndrReadU32_standsAt htype, ok_bind]
    dsimp only
    rw [ndrReadU32_standsAt hcomment, ok_bind]
    dsimp only
    rw [ih hrest, ok_bind, List.flatMap_cons, List.length_append, share.length_record,
      ← Nat.add_assoc]
    rfl

theorem length_deferred (p : Option (Referent × NdrString)) :
    (ListedShare.deferred p).length % 4 = 0 := by
  cases p with
  | none => rfl
  | some p =>
    show p.2.bytes.length % 4 = 0
    rw [p.2.length_bytes]
    omega

/-- A text behind a pointer is read if the pointer is not null. -/
theorem ndrReadDeferredString_standsAt (p : Option (Referent × NdrString))
    (h : StandsAt data offset (ListedShare.deferred p)) (halign : offset % 4 = 0)
    (otherwise : String) :
    ndrReadDeferredString data (ListedShare.pointer p) offset otherwise =
      .ok (ListedShare.textOf p, offset + (ListedShare.deferred p).length) := by
  cases p with
  | none => rfl
  | some p =>
    rw [ndrReadDeferredString, ListedShare.pointer, if_pos p.1.ne_zero]
    exact ndrReadUtf16String_standsAt p.2 h halign otherwise

/-- The texts of the shares are read one behind the other. -/
theorem ndrReadShares_standsAt (list : List ListedShare)
    (h : StandsAt data offset (list.flatMap ListedShare.texts)) (halign : offset % 4 = 0) :
    ndrReadShares data (list.map ListedShare.deferredShare) offset =
      .ok (list.map ListedShare.info, offset + (list.flatMap ListedShare.texts).length) := by
  induction list generalizing offset with
  | nil => rfl
  | cons share list ih =>
    rw [List.flatMap_cons, standsAt_append, ListedShare.texts, standsAt_append,
      List.length_append, ← Nat.add_assoc] at h
    obtain ⟨⟨hname, hcomment⟩, hrest⟩ := h
    have hnameAlign := length_deferred share.name
    have hcommentAlign := length_deferred share.comment
    rw [List.map_cons, ndrReadShares, ListedShare.deferredShare]
    dsimp only
    rw [ndrReadDeferredString_standsAt share.name hname halign, ok_bind]
    dsimp only
    rw [ndrReadDeferredString_standsAt share.comment hcomment (by omega), ok_bind]
    dsimp only
    rw [ih hrest (by omega), ok_bind, List.flatMap_cons, List.length_append, ListedShare.texts,
      List.length_append]
    simp only [Nat.add_assoc]
    rfl

theorem length_records (list : List ListedShare) :
    (list.flatMap ListedShare.record).length = 12 * list.length := by
  induction list with
  | nil => rfl
  | cons share list ih =>
    rw [List.flatMap_cons, List.length_append, share.length_record, ih, List.length_cons]
    omega

end

/-! ## Listings -/

section

variable {data : ByteVector}

/-- The container is read with its shares, and the cursor moves behind it. -/
theorem shareContainer_standsAt (container : ShareContainer)
    (h : StandsAt data 8 container.bytes) (otherwise : String) :
    ∃ containerPointer entriesRead bufferPointer offset,
      ndrReadU32 data 8 otherwise = .ok (containerPointer, 12) ∧
      ndrReadContainer data containerPointer 12 = .ok (entriesRead, bufferPointer, offset) ∧
      ndrReadShareArray data entriesRead bufferPointer offset =
        .ok (container.list.map ListedShare.info, 8 + container.bytes.length) := by
  cases container with
  | null => exact ⟨0, 0, 0, 12, ndrReadU32_standsAt h otherwise, rfl, rfl⟩
  | empty referent =>
    simp only [ShareContainer.bytes, standsAt_append, length_u32Le] at h
    obtain ⟨hpointer, hentries, hbuffer⟩ := h
    refine ⟨referent.id, 0, 0, 20, ndrReadU32_standsAt hpointer otherwise, ?_, ?_⟩
    · rw [ndrReadContainer, if_pos referent.ne_zero]
      dsimp only
      rw [ndrReadU32_standsAt hentries, ok_bind]
      dsimp only
      rw [ndrReadU32_standsAt hbuffer]
      rfl
    · rfl
  | shares referent buffer list fits =>
    simp only [ShareContainer.bytes, standsAt_append, length_u32Le] at h
    obtain ⟨hpointer, hentries, hbuffer, hcount, hrecords, htexts⟩ := h
    refine ⟨referent.id, UInt32.ofNat list.length, buffer.id, 20,
      ndrReadU32_standsAt hpointer otherwise, ?_, ?_⟩
    · rw [ndrReadContainer, if_pos referent.ne_zero]
      dsimp only
      rw [ndrReadU32_standsAt hentries, ok_bind]
      dsimp only
      rw [ndrReadU32_standsAt hbuffer]
      rfl
    · have hlength : (UInt32.ofNat list.length).toNat = list.length :=
        UInt32.toNat_ofNat_of_lt' fits
      have hall := length_records list
      rw [ndrReadShareArray, if_pos buffer.ne_zero, ndrReadU32_standsAt hcount, ok_bind]
      dsimp only
      rw [if_neg (UInt32.lt_irrefl _), hlength, ndrReadShareRecords_standsAt list hrecords, ok_bind]
      dsimp only
      rw [ndrReadShares_standsAt list htexts (by omega)]
      refine congrArg Except.ok (Prod.ext rfl ?_)
      simp only [ShareContainer.bytes, List.length_append, length_u32Le]
      omega

theorem resumeHandle_standsAt {offset : ℕ} (resumeHandle : Option (Referent × UInt32))
    (h : StandsAt data offset (ShareListing.resumeBytes resumeHandle)) (otherwise : String) :
    ∃ resumePointer, ndrReadU32 data offset otherwise = .ok (resumePointer, offset + 4) ∧
      ndrReadResumeHandle data resumePointer (offset + 4) =
        .ok (resumeHandle.map Prod.snd, offset + (ShareListing.resumeBytes resumeHandle).length) := by
  cases resumeHandle with
  | none => exact ⟨0, ndrReadU32_standsAt h otherwise, rfl⟩
  | some resume =>
    obtain ⟨referent, handle⟩ := resume
    simp only [ShareListing.resumeBytes, standsAt_append, length_u32Le] at h
    refine ⟨referent.id, ndrReadU32_standsAt h.1 otherwise, ?_⟩
    rw [ndrReadResumeHandle, if_pos referent.ne_zero, ndrReadU32_standsAt h.2]
    rfl

/-- A listing is read, whatever follows it. -/
theorem decodeNetrShareEnumResponseStub_standsAt (listing : ShareListing)
    (h : StandsAt data 0 listing.bytes) :
    decodeNetrShareEnumResponseStub data = .ok listing.response := by
  simp only [ShareListing.bytes, standsAt_append, length_u32Le, Nat.zero_add] at h
  obtain ⟨hlevel, hunion, hcontainer, htotal, hresume, hstatus⟩ := h
  obtain ⟨containerPointer, entriesRead, bufferPointer, offset, hpointer, hread, harray⟩ :=
    shareContainer_standsAt listing.container hcontainer
      "NetrShareEnum response is truncated before share list."
  obtain ⟨resumePointer, hresumePointer, hhandle⟩ := resumeHandle_standsAt listing.resumeHandle
    hresume "NetrShareEnum response is missing resume handle pointer."
  rw [decodeNetrShareEnumResponseStub_eq]
  dsimp only
  rw [ndrReadU32_standsAt hlevel, ok_bind]
  dsimp only
  rw [ndrReadU32_standsAt hunion, ok_bind]
  dsimp only
  rw [hpointer, ok_bind]
  dsimp only
  rw [if_neg (by simp), hread, ok_bind]
  dsimp only
  rw [harray, ok_bind]
  dsimp only
  rw [ndrReadU32_standsAt htotal, ok_bind]
  dsimp only
  rw [hresumePointer, ok_bind]
  dsimp only
  rw [hhandle, ok_bind]
  dsimp only
  rw [ndrReadU32_standsAt hstatus, ok_bind]
  dsimp only
  have hmore : decide (listing.status = kNetApiStatusMoreData) = listing.moreData := by
    rw [ShareListing.status]
    cases listing.moreData with
    | true => rfl
    | false => rfl
  have hknown : ¬ (listing.status ≠ kNetApiStatusSuccess ∧ ¬ listing.moreData = true) := by
    rw [ShareListing.status]
    cases listing.moreData with
    | true => decide
    | false => decide
  rw [hmore, if_neg hknown]
  rfl

end

/-- **A listing is decoded to its shares**, in order, with their texts and types, the total
    count, the resume handle and the status. -/
theorem decodeNetrShareEnumResponseStub_bytes (listing : ShareListing) :
    decodeNetrShareEnumResponseStub listing.bytes = .ok listing.response := by
  have h := standsAt_zero listing.bytes []
  rw [List.append_nil] at h
  exact decodeNetrShareEnumResponseStub_standsAt listing h

end SmbBrowser.Native
