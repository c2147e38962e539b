import SmbBrowser.Native.DfsReferral
import SmbBrowser.Native.Reading
import SmbBrowser.Native.ResponseBounds
import SmbBrowser.Native.TextRoundTrip

/-!
# Referral responses, encoded and decoded

The decoder of native_smb/DfsReferral.cpp on every byte string, and on the responses a
server can write: entries of versions 2, 3 and 4 one behind the other, their strings at
offsets from the start of their entry, shared or not.

Results:
* `findTerminator_run`: the search for a terminator ends;
* `decodeDfsReferralResponse_inside`: every read is inside the bytes;
* `decodeDfsReferralResponse_bytes`: an encoded response is decoded to its entries.
-/

namespace SmbBrowser.Native

open SmbBrowser.Base

/-! ## Every byte string -/

section

variable {data : ByteVector}

/-- A finished run of the loop of `readReferralString` (DfsReferral.cpp:38–44). -/
inductive TerminatorRun (data : ByteVector) : ℕ → Option ℕ → Prop where
  | found {position : ℕ} (hmore : position + 1 < data.length)
      (hzero : readU16Le data position = .ok 0) : TerminatorRun data position (some position)
  | next {position : ℕ} {unit : UInt16} {found : Option ℕ} (hmore : position + 1 < data.length)
      (hunit : readU16Le data position = .ok unit) (hne : unit ≠ 0)
      (hrest : TerminatorRun data (position + 2) found) : TerminatorRun data position found
  | ended {position : ℕ} (hend : data.length ≤ position + 1) : TerminatorRun data position none

/-- With the length of the bytes as fuel the loop runs to its end. -/
theorem findTerminator_run {fuel position : ℕ} (hfuel : data.length ≤ position + fuel) :
    ∃ found, findTerminator data fuel position = .ok found ∧
      TerminatorRun data position found := by
  induction fuel generalizing position with
  | zero => exact ⟨none, rfl, .ended (by omega)⟩
  | succ fuel ih =>
    rw [findTerminator]
    by_cases hmore : position + 1 < data.length
    · obtain ⟨unit, hunit⟩ : ∃ unit, readU16Le data position = .ok unit :=
        ⟨_, readU16Le_of_le (by omega)⟩
      rw [if_pos hmore, hunit, ok_bind]
      by_cases hzero : unit = 0
      · rw [if_pos hzero]
        exact ⟨some position, rfl, .found hmore (hzero ▸ hunit)⟩
      · rw [if_neg hzero]
        obtain ⟨found, hfound, hrun⟩ := @ih (position + 2) (by omega)
        exact ⟨found, hfound, .next hmore hunit hzero hrun⟩
    · rw [if_neg hmore]
      exact ⟨none, rfl, .ended (by omega)⟩

theorem TerminatorRun.fits {position found : ℕ} {result : Option ℕ}
    (h : TerminatorRun data position result) (hfound : result = some found) :
    position ≤ found ∧ found + 1 < data.length := by
  induction h with
  | found hmore =>
    injection hfound with hfound
    omega
  | next _ _ _ _ ih =>
    have := ih hfound
    omega
  | ended => cases hfound

/-- A string is read inside the bytes, and decoded inside what was read. -/
theorem readReferralString_inside (data : ByteVector) (offset : ℕ) :
    ∃ text, readReferralString data offset = .ok text ∧ ReadsInside text := by
  unfold readReferralString
  split
  · exact ⟨_, rfl, (failsWith_failure ..).2 (by decide)⟩
  obtain ⟨found, hfound, hrun⟩ : ∃ found, findTerminator data data.length offset = .ok found ∧
      TerminatorRun data offset found := findTerminator_run (by omega)
  rw [hfound, ok_bind]
  cases found with
  | none => exact ⟨_, rfl, (failsWith_failure ..).2 (by decide)⟩
  | some position =>
    have hfits := hrun.fits rfl
    dsimp only
    rw [readBytes_of_le (by omega), ok_bind]
    exact ⟨_, rfl, decodeUtf16Le_inside _⟩

theorem readOptionalString_inside (entryOffset : ℕ) (stringOffset : UInt16) :
    ReadsInside (readOptionalString data entryOffset stringOffset) := by
  unfold readOptionalString
  refine .ite (fun _ => failsWith_ok _) fun _ => ?_
  obtain ⟨text, htext, -⟩ :=
    readReferralString_inside data (entryOffset + stringOffset.toNat)
  rw [htext, ok_bind]
  cases text with
  | error e => exact (failsWith_failure ..).2 (by decide)
  | ok text => exact failsWith_ok _

theorem decodeReferralFixed_inside {entryOffset entrySize : ℕ} (version : UInt16)
    (hsize : entryOffset + entrySize ≤ data.length) :
    ReadsInside (decodeReferralFixed data entryOffset version entrySize) := by
  unfold decodeReferralFixed
  refine .ite (fun _ => ?_) fun _ => .ite (fun _ => ?_) fun _ => ?_
  · refine .ite (fun _ => (failsWith_failure ..).2 (by decide)) fun _ => ?_
    simp (disch := omega) only [readU16Le_of_le, readU32Le_of_le, ok_bind]
    exact failsWith_ok _
  · refine .ite (fun _ => (failsWith_failure ..).2 (by decide)) fun _ => ?_
    simp (disch := omega) only [readU16Le_of_le, readU32Le_of_le, ok_bind]
    split
    · exact failsWith_ok _
    · exact failsWith_ok _
  · exact (failsWith_failure ..).2 (by decide)

theorem decodeReferralEntry_inside (entryOffset : ℕ) :
    ReadsInside (decodeReferralEntry data entryOffset) := by
  unfold decodeReferralEntry
  refine .ite (fun _ => (failsWith_failure ..).2 (by decide)) fun _ => ?_
  simp (disch := omega) only [readU16Le_of_le, ok_bind]
  refine .ite (fun _ => (failsWith_failure ..).2 (by decide)) fun hsize => ?_
  rw [not_or] at hsize
  refine FailsWith.bind (decodeReferralFixed_inside _ (by omega)) fun _ _ => ?_
  refine FailsWith.bind (readOptionalString_inside _ _) fun _ _ => ?_
  refine FailsWith.bind (readOptionalString_inside _ _) fun _ _ => ?_
  exact FailsWith.bind (readOptionalString_inside _ _) fun _ _ => failsWith_ok _

theorem decodeReferralEntries_inside (count entryOffset : ℕ) :
    ReadsInside (decodeReferralEntries data count entryOffset) := by
  induction count generalizing entryOffset with
  | zero => exact failsWith_ok _
  | succ count ih =>
    unfold decodeReferralEntries
    refine .ite (fun _ => (failsWith_failure ..).2 (by decide)) fun _ => ?_
    cases hentry : decodeReferralEntry data entryOffset with
    | error e =>
      exact (failsWith_failureFrom ..).2 (decodeReferralEntry_inside entryOffset e hentry)
    | ok entry => exact FailsWith.bind (ih _) fun _ _ => failsWith_ok _

theorem decodeDfsReferralResponse_inside (data : ByteVector) :
    ReadsInside (decodeDfsReferralResponse data) := by
  unfold decodeDfsReferralResponse
  refine .ite (fun _ => (failsWith_failure ..).2 (by decide)) fun _ => ?_
  simp (disch := omega) only [readU16Le_of_le, readU32Le_of_le, ok_bind]
  exact FailsWith.bind (decodeReferralEntries_inside _ _) fun _ _ => failsWith_ok _

end

/-! ## Encoded responses -/

/-- A string of an entry: its offset from the start of the entry, 0 for none. -/
structure StoredText where
  offset : UInt16
  chars : List Char
  noNull : '\x00' ∉ chars
  absent : offset = 0 → chars = []

namespace StoredText

/-- The UTF-8 text. -/
def text (t : StoredText) : ByteVector := t.chars.flatMap String.utf8EncodeChar

/-- The code units of the string stand at its offset, with a terminator. -/
def StandsIn (t : StoredText) (data : ByteVector) (entryOffset : ℕ) : Prop :=
  t.offset ≠ 0 →
    StandsAt data (entryOffset + t.offset.toNat) (t.chars.flatMap utf16Le ++ u16Le 0)

end StoredText

/-- The last words of the fixed part of an entry: the offsets of the strings of a target,
    or of the special name of a name list with the number of its expanded names and their
    offset. -/
inductive ReferralStrings where
  | target (path alternatePath networkAddress : StoredText)
  | nameList (specialName : StoredText) (expandedNames expandedNameOffset : UInt16)

namespace ReferralStrings

def bytes : ReferralStrings → ByteVector
  | target path alternatePath networkAddress =>
    u16Le path.offset ++ (u16Le alternatePath.offset ++ u16Le networkAddress.offset)
  | nameList specialName expandedNames expandedNameOffset =>
    u16Le specialName.offset ++ (u16Le expandedNames ++ u16Le expandedNameOffset)

def isNameList : ReferralStrings → Bool
  | target _ _ _ => false
  | nameList _ _ _ => true

def dfsPath : ReferralStrings → ByteVector
  | target path _ _ => path.text
  | nameList specialName _ _ => specialName.text

def dfsAlternatePath : ReferralStrings → ByteVector
  | target _ alternatePath _ => alternatePath.text
  | nameList _ _ _ => []

def networkAddress : ReferralStrings → ByteVector
  | target _ _ networkAddress => networkAddress.text
  | nameList _ _ _ => []

def StandIn (strings : ReferralStrings) (data : ByteVector) (entryOffset : ℕ) : Prop :=
  match strings with
  | target path alternatePath networkAddress =>
    path.StandsIn data entryOffset ∧ alternatePath.StandsIn data entryOffset ∧
      networkAddress.StandsIn data entryOffset
  | nameList specialName _ _ => specialName.StandsIn data entryOffset

end ReferralStrings

/-- An entry of version 2, 3 or 4 as it is written; only version 2 has a proximity, and
    behind the offsets of the others stands the identifier of the site. -/
structure StoredReferral where
  version : UInt16
  serverType : UInt16
  flags : UInt16
  proximity : UInt32
  timeToLiveSeconds : UInt32
  strings : ReferralStrings
  rest : ByteVector
  supported : version = 2 ∨ version = 3 ∨ version = 4
  listed : strings.isNameList = true ↔ version ≠ 2 ∧ flags &&& kDfsReferralNameList ≠ 0
  site : version ≠ 2 → 16 ≤ rest.length
  fits : (if version = 2 then 22 else 18) + rest.length < 2 ^ 16

namespace StoredReferral

variable (r : StoredReferral)

def proximityBytes : ByteVector := if r.version = 2 then u32Le r.proximity else []

/-- The size of the entry. -/
def size : ℕ := (if r.version = 2 then 22 else 18) + r.rest.length

def bytes : ByteVector :=
  u16Le r.version ++ (u16Le (UInt16.ofNat r.size) ++ (u16Le r.serverType ++ (u16Le r.flags ++
    (r.proximityBytes ++ (u32Le r.timeToLiveSeconds ++ (r.strings.bytes ++ r.rest))))))

/-- What the entry says. -/
def entry : DfsReferralEntry where
  version := r.version
  serverType := r.serverType
  flags := r.flags
  timeToLiveSeconds := r.timeToLiveSeconds
  dfsPath := r.strings.dfsPath
  dfsAlternatePath := r.strings.dfsAlternatePath
  networkAddress := r.strings.networkAddress
  rootTarget := r.serverType = 1
  nameListReferral := r.strings.isNameList

end StoredReferral

/-- A response: its header, the entries and what is behind them. -/
structure StoredReferrals where
  pathConsumedBytes : UInt16
  headerFlags : UInt32
  referrals : List StoredReferral
  behind : ByteVector
  fits : referrals.length < 2 ^ 16

namespace StoredReferrals

variable (message : StoredReferrals)

def bytes : ByteVector :=
  u16Le message.pathConsumedBytes ++ (u16Le (UInt16.ofNat message.referrals.length) ++
    (u32Le message.headerFlags ++ (message.referrals.flatMap StoredReferral.bytes ++
      message.behind)))

/-- What the response says. -/
def response : DfsReferralResponse where
  pathConsumedBytes := message.pathConsumedBytes
  headerFlags := message.headerFlags
  entries := message.referrals.map StoredReferral.entry

end StoredReferrals

/-- The strings of entries that follow each other stand at their offsets. -/
def StringsStand (data : ByteVector) : ℕ → List StoredReferral → Prop
  | _, [] => True
  | entryOffset, r :: referrals =>
    r.strings.StandIn data entryOffset ∧ StringsStand data (entryOffset + r.size) referrals

/-! ## Strings -/

/-- The code units of characters other than NUL are not zero. -/
theorem exists_units {chars : List Char} (h : '\x00' ∉ chars) :
    ∃ units : List UInt16, chars.flatMap utf16Le = units.flatMap u16Le ∧ ∀ u ∈ units, u ≠ 0 := by
  induction chars with
  | nil => exact ⟨[], rfl, by simp⟩
  | cons c chars ih =>
    rw [List.mem_cons, not_or] at h
    obtain ⟨units, hunits, hne⟩ := ih h.2
    obtain ⟨-, hrange⟩ := valid_toNat c
    have hpos : c.toNat ≠ 0 := by
      intro hzero
      exact h.1 (Char.ext (UInt32.toNat_inj.1 hzero.symm))
    have hunit : ∀ n < 2 ^ 16, leBytes 2 n = u16Le (UInt16.ofNat n) := by
      intro n hn
      rw [u16Le, UInt16.toNat_ofNat_of_lt' hn]
    have hzero : ∀ n, 0 < n → n < 2 ^ 16 → UInt16.ofNat n ≠ 0 := by
      intro n hn hlt heq
      have htoNat := congrArg UInt16.toNat heq
      rw [UInt16.toNat_ofNat_of_lt' hlt] at htoNat
      exact hn.ne' htoNat
    rw [List.flatMap_cons, hunits, utf16Le, codeUnitsLe]
    split
    · rename_i hsmall
      refine ⟨UInt16.ofNat c.toNat :: units, by rw [hunit _ hsmall, List.flatMap_cons], ?_⟩
      exact List.forall_mem_cons.2 ⟨hzero _ (by omega) hsmall, hne⟩
    · refine ⟨UInt16.ofNat (0xD800 + (c.toNat - 0x10000) / 0x400) ::
        UInt16.ofNat (0xDC00 + (c.toNat - 0x10000) % 0x400) :: units, ?_, ?_⟩
      · rw [hunit _ (by omega), hunit _ (by omega), List.flatMap_cons, List.flatMap_cons,
          List.append_assoc]
      · exact List.forall_mem_cons.2 ⟨hzero _ (by omega) (by omega),
          List.forall_mem_cons.2 ⟨hzero _ (by omega) (by omega), hne⟩⟩

section

variable {data : ByteVector} {entryOffset : ℕ}

/-- The first zero unit is the terminator. -/
theorem findTerminator_standsAt {units : List UInt16} (hne : ∀ u ∈ units, u ≠ 0)
    {fuel position : ℕ} (h : StandsAt data position (units.flatMap u16Le ++ u16Le 0))
    (hfuel : units.length < fuel) :
    findTerminator data fuel position = .ok (some (position + (units.flatMap u16Le).length)) := by
  induction units generalizing fuel position with
  | nil =>
    obtain ⟨fuel, rfl⟩ := Nat.exists_eq_add_one_of_ne_zero (Nat.ne_of_gt hfuel)
    have hzero : StandsAt data position (u16Le 0) := h
    have hlen := hzero.length_le
    rw [length_u16Le] at hlen
    rw [findTerminator, if_pos (by omega), readU16Le_standsAt hzero]
    rfl
  | cons u units ih =>
    obtain ⟨fuel, rfl⟩ := Nat.exists_eq_add_one_of_ne_zero (Nat.ne_of_gt (Nat.zero_lt_of_lt hfuel))
    rw [List.length_cons] at hfuel
    rw [List.flatMap_cons, List.append_assoc, standsAt_append, length_u16Le] at h
    obtain ⟨hunit, hrest⟩ := h
    have hlen := hrest.length_le
    rw [List.length_append, length_u16Le] at hlen
    obtain ⟨hhead, htail⟩ := List.forall_mem_cons.1 hne
    rw [findTerminator, if_pos (by omega), readU16Le_standsAt hunit, ok_bind, if_neg hhead,
      ih htail hrest (by omega), List.flatMap_cons, List.length_append, length_u16Le,
      Nat.add_assoc]

/-- A string that is stored is read. -/
theorem readOptionalString_stored (t : StoredText) (h : t.StandsIn data entryOffset) :
    readOptionalString data entryOffset t.offset = .ok t.text := by
  unfold readOptionalString
  by_cases habsent : t.offset = 0
  · rw [if_pos habsent, StoredText.text, t.absent habsent]
    rfl
  have hstands := h habsent
  obtain ⟨hchars, -⟩ := standsAt_append.1 hstands
  have hlen := hstands.length_le
  obtain ⟨units, hunits, hne⟩ := exists_units t.noNull
  have hlength : (units.flatMap u16Le).length = 2 * units.length := by
    rw [List.length_flatMap, List.map_congr_left fun u _ => length_u16Le u]
    simp [Nat.mul_comm]
  rw [List.length_append, length_u16Le] at hlen
  rw [hunits] at hstands hlen hchars
  rw [if_neg habsent, readReferralString, if_neg (by omega),
    findTerminator_standsAt hne hstands (by omega), ok_bind]
  dsimp only
  rw [Nat.add_sub_cancel_left, readBytes_standsAt hchars, ← hunits, ok_bind, decodeUtf16Le_chars]
  rfl

end

/-! ## Entries -/

section

variable {data : ByteVector} {entryOffset : ℕ}

theorem StoredReferral.length_proximityBytes (r : StoredReferral) :
    r.proximityBytes.length = if r.version = 2 then 4 else 0 := by
  rw [proximityBytes]
  split
  · exact length_u32Le _
  · rfl

theorem ReferralStrings.length_bytes (strings : ReferralStrings) : strings.bytes.length = 6 := by
  cases strings with
  | target => simp [bytes]
  | nameList => simp [bytes]

theorem StoredReferral.length_bytes (r : StoredReferral) : r.bytes.length = r.size := by
  simp only [bytes, size, List.length_append, length_u16Le, length_u32Le, length_proximityBytes,
    r.strings.length_bytes]
  split
  · omega
  · omega

theorem StoredReferral.toNat_size (r : StoredReferral) : (UInt16.ofNat r.size).toNat = r.size :=
  UInt16.toNat_ofNat_of_lt' r.fits

/-- The parts of an entry. -/
theorem StoredReferral.standsAt_parts (r : StoredReferral)
    (h : StandsAt data entryOffset r.bytes) :
    StandsAt data entryOffset (u16Le r.version) ∧
      StandsAt data (entryOffset + 2) (u16Le (UInt16.ofNat r.size)) ∧
      StandsAt data (entryOffset + 4) (u16Le r.serverType) ∧
      StandsAt data (entryOffset + 6) (u16Le r.flags) ∧
      StandsAt data (entryOffset + 8) r.proximityBytes ∧
      StandsAt data (entryOffset + 8 + r.proximityBytes.length) (u32Le r.timeToLiveSeconds) ∧
      StandsAt data (entryOffset + 8 + r.proximityBytes.length + 4) r.strings.bytes ∧
      StandsAt data (entryOffset + 8 + r.proximityBytes.length + 4 + 6) r.rest := by
  rw [bytes] at h
  simp only [standsAt_append, length_u16Le, length_u32Le, r.strings.length_bytes] at h
  exact h

/-- The offsets of the strings of an entry. -/
def ReferralStrings.offsets : ReferralStrings → ReferralOffsets
  | target path alternatePath networkAddress =>
    { path := path.offset, alternatePath := alternatePath.offset
      networkAddress := networkAddress.offset }
  | nameList specialName _ _ => { path := specialName.offset }

theorem ReferralStrings.standsAt_target {strings : ReferralStrings} {offset : ℕ}
    (h : StandsAt data offset strings.bytes) (hlisted : strings.isNameList = false) :
    StandsAt data offset (u16Le strings.offsets.path) ∧
      StandsAt data (offset + 2) (u16Le strings.offsets.alternatePath) ∧
      StandsAt data (offset + 4) (u16Le strings.offsets.networkAddress) := by
  cases strings with
  | target path alternatePath networkAddress =>
    rw [bytes] at h
    simp only [standsAt_append, length_u16Le] at h
    exact h
  | nameList => cases hlisted

theorem ReferralStrings.standsAt_path {strings : ReferralStrings} {offset : ℕ}
    (h : StandsAt data offset strings.bytes) :
    StandsAt data offset (u16Le strings.offsets.path) := by
  cases strings with
  | target => exact (standsAt_append.1 h).1
  | nameList => exact (standsAt_append.1 h).1

theorem ReferralStrings.offsets_nameList {strings : ReferralStrings}
    (hlisted : strings.isNameList = true) :
    strings.offsets = { path := strings.offsets.path } := by
  cases strings with
  | target => cases hlisted
  | nameList => rfl

/-- The fixed part of an entry is read, with the offsets of its strings. -/
theorem decodeReferralFixed_stored (r : StoredReferral) (h : StandsAt data entryOffset r.bytes) :
    decodeReferralFixed data entryOffset r.version r.size =
      .ok ({ version := r.version, serverType := r.serverType, flags := r.flags
             timeToLiveSeconds := r.timeToLiveSeconds
             nameListReferral := r.strings.isNameList }, r.strings.offsets) := by
  obtain ⟨-, -, hserverType, hflags, -, httl, hstrings, -⟩ := r.standsAt_parts h
  have hpath := ReferralStrings.standsAt_path hstrings
  unfold decodeReferralFixed
  by_cases hversion : r.version = 2
  · have hlisted : r.strings.isNameList = false := by
      rw [← Bool.not_eq_true]
      exact fun hlisted => (r.listed.1 hlisted).1 hversion
    obtain ⟨-, halternatePath, hnetworkAddress⟩ :=
      ReferralStrings.standsAt_target hstrings hlisted
    have hsize : ¬ r.size < 22 := by
      rw [StoredReferral.size, if_pos hversion]
      omega
    rw [r.length_proximityBytes, if_pos hversion] at httl hpath halternatePath hnetworkAddress
    rw [if_pos hversion, if_neg hsize, readU16Le_standsAt hserverType, ok_bind,
      readU16Le_standsAt hflags, ok_bind, readU32Le_standsAt httl, ok_bind,
      readU16Le_standsAt hpath, ok_bind, readU16Le_standsAt halternatePath, ok_bind,
      readU16Le_standsAt hnetworkAddress, ok_bind, hlisted]
    rfl
  · have hsize : ¬ r.size < 34 := by
      have := r.site hversion
      rw [StoredReferral.size, if_neg hversion]
      omega
    have hflag : decide (r.flags &&& kDfsReferralNameList ≠ 0) = r.strings.isNameList := by
      rw [Bool.eq_iff_iff, decide_eq_true_iff, r.listed]
      exact ⟨fun hflag => ⟨hversion, hflag⟩, And.right⟩
    rw [r.length_proximityBytes, if_neg hversion] at httl hpath hstrings
    rw [if_neg hversion, if_pos (r.supported.resolve_left hversion), if_neg hsize,
      readU16Le_standsAt hflags, ok_bind]
    dsimp only
    rw [readU16Le_standsAt hpath, ok_bind, hflag]
    cases hlisted : r.strings.isNameList with
    | true =>
      rw [if_pos rfl, pure_bind, readU16Le_standsAt hserverType, ok_bind,
        readU32Le_standsAt httl, ok_bind, ← ReferralStrings.offsets_nameList hlisted]
      rfl
    | false =>
      obtain ⟨-, halternatePath, hnetworkAddress⟩ :=
        ReferralStrings.standsAt_target hstrings hlisted
      rw [if_neg Bool.false_ne_true, readU16Le_standsAt halternatePath, ok_bind,
        readU16Le_standsAt hnetworkAddress, ok_bind, pure_bind,
        readU16Le_standsAt hserverType, ok_bind, readU32Le_standsAt httl, ok_bind]
      rfl

/-- The strings of an entry that stand at its offsets are read. -/
theorem readOptionalString_offsets {strings : ReferralStrings}
    (h : strings.StandIn data entryOffset) :
    readOptionalString data entryOffset strings.offsets.path = .ok strings.dfsPath ∧
      readOptionalString data entryOffset strings.offsets.alternatePath =
        .ok strings.dfsAlternatePath ∧
      readOptionalString data entryOffset strings.offsets.networkAddress =
        .ok strings.networkAddress := by
  cases strings with
  | target path alternatePath networkAddress =>
    obtain ⟨hpath, halternatePath, hnetworkAddress⟩ := h
    exact ⟨readOptionalString_stored path hpath,
      readOptionalString_stored alternatePath halternatePath,
      readOptionalString_stored networkAddress hnetworkAddress⟩
  | nameList specialName expandedNames expandedNameOffset =>
    exact ⟨readOptionalString_stored specialName h, rfl, rfl⟩

theorem decodeReferralEntry_stored (r : StoredReferral) (h : StandsAt data entryOffset r.bytes)
    (hstrings : r.strings.StandIn data entryOffset) :
    decodeReferralEntry data entryOffset = .ok (r.entry, r.size) := by
  obtain ⟨hversion, hsize, -⟩ := r.standsAt_parts h
  obtain ⟨hpath, halternatePath, hnetworkAddress⟩ := readOptionalString_offsets hstrings
  have hlen := h.length_le
  rw [r.length_bytes] at hlen
  have hmin : 18 ≤ r.size := by
    rw [StoredReferral.size]
    split
    · omega
    · omega
  unfold decodeReferralEntry
  rw [if_neg (by omega), readU16Le_standsAt hversion, ok_bind, readU16Le_standsAt hsize, ok_bind,
    r.toNat_size, if_neg (by omega), decodeReferralFixed_stored r h, ok_bind]
  dsimp only
  rw [hpath, ok_bind, halternatePath, ok_bind, hnetworkAddress, ok_bind]
  rfl

/-- Entries that follow each other are read in order. -/
theorem decodeReferralEntries_stored (referrals : List StoredReferral)
    (h : StandsAt data entryOffset (referrals.flatMap StoredReferral.bytes))
    (hstrings : StringsStand data entryOffset referrals) :
    decodeReferralEntries data referrals.length entryOffset =
      .ok (referrals.map StoredReferral.entry) := by
  induction referrals generalizing entryOffset with
  | nil => rfl
  | cons r referrals ih =>
    rw [List.flatMap_cons, standsAt_append, r.length_bytes] at h
    obtain ⟨hfirst, hrest⟩ := h
    have hlen := hfirst.length_le
    rw [StoredReferral.bytes] at hlen
    simp only [List.length_append, length_u16Le] at hlen
    rw [List.length_cons, decodeReferralEntries, if_neg (by omega),
      decodeReferralEntry_stored r hfirst hstrings.1]
    dsimp only
    rw [ih hrest hstrings.2]
    rfl

theorem decodeDfsReferralResponse_standsAt (message : StoredReferrals)
    (h : StandsAt data 0 message.bytes) (hstrings : StringsStand data 8 message.referrals) :
    decodeDfsReferralResponse data = .ok message.response := by
  rw [StoredReferrals.bytes] at h
  simp only [standsAt_append, length_u16Le, length_u32Le, Nat.zero_add] at h
  obtain ⟨hconsumed, hcount, hflags, hentries, -⟩ := h
  have hlen := hentries.length_le
  unfold decodeDfsReferralResponse
  rw [if_neg (by omega), readU16Le_standsAt hcount, ok_bind, readU16Le_standsAt hconsumed, ok_bind,
    readU32Le_standsAt hflags, ok_bind, UInt16.toNat_ofNat_of_lt' message.fits,
    decodeReferralEntries_stored _ hentries hstrings]
  rfl

end

/-- **A response is decoded to its entries**, in order, with their strings. -/
theorem decodeDfsReferralResponse_bytes (message : StoredReferrals)
    (hstrings : StringsStand message.bytes 8 message.referrals) :
    decodeDfsReferralResponse message.bytes = .ok message.response := by
  have h := standsAt_zero message.bytes []
  rw [List.append_nil] at h
  exact decodeDfsReferralResponse_standsAt message h hstrings

/-- **Referral responses**: on every byte string the decoder ends and reads inside it, and an
    encoded response is decoded to its entries. -/
theorem dfsReferrals_decoded :
    (∀ data, ReadsInside (decodeDfsReferralResponse data) ∧ ∀ offset,
      (∃ found, findTerminator data data.length offset = .ok found ∧
        TerminatorRun data offset found) ∧
      ∃ text, readReferralString data offset = .ok text ∧ ReadsInside text) ∧
    ∀ message : StoredReferrals, StringsStand message.bytes 8 message.referrals →
      decodeDfsReferralResponse message.bytes = .ok message.response := by
  refine ⟨fun data => ⟨decodeDfsReferralResponse_inside data, fun offset => ⟨?_, ?_⟩⟩, ?_⟩
  · exact findTerminator_run (by omega)
  · exact readReferralString_inside data offset
  · exact decodeDfsReferralResponse_bytes

/-- An entry for the target `t` of the path `p`, where the strings stand that far from it. -/
def sharedReferral (path networkAddress : UInt16) (hpath : path ≠ 0)
    (hnetworkAddress : networkAddress ≠ 0) : StoredReferral where
  version := 3
  serverType := 1
  flags := 0
  proximity := 0
  timeToLiveSeconds := 300
  strings := .target
    { offset := path, chars := ['p'], noNull := by decide, absent := fun h => absurd h hpath }
    { offset := path, chars := ['p'], noNull := by decide, absent := fun h => absurd h hpath }
    { offset := networkAddress, chars := ['t'], noNull := by decide
      absent := fun h => absurd h hnetworkAddress }
  rest := List.replicate 16 0
  supported := .inr (.inl rfl)
  listed := iff_of_false Bool.false_ne_true (by decide)
  site _ := by decide
  fits := by decide

/-- Two entries that share the strings behind them. -/
def sharedReferrals : StoredReferrals where
  pathConsumedBytes := 2
  headerFlags := 2
  referrals := [sharedReferral 68 72 (by decide) (by decide),
    sharedReferral 34 38 (by decide) (by decide)]
  behind := utf16Le 'p' ++ u16Le 0 ++ (utf16Le 't' ++ u16Le 0)
  fits := by decide

/-- A response with two entries that share their strings. -/
theorem dfsReferrals_decoded_shared :
    decodeDfsReferralResponse sharedReferrals.bytes = .ok sharedReferrals.response := by
  have hstands : ∀ off : ℕ, ∀ bytes : ByteVector,
      slice sharedReferrals.bytes off bytes.length = some bytes →
        StandsAt sharedReferrals.bytes off bytes := fun _ _ h => standsAt_of_slice h
  refine dfsReferrals_decoded.2 sharedReferrals ⟨⟨?_, ?_, ?_⟩, ⟨?_, ?_, ?_⟩, trivial⟩
  all_goals exact fun _ => hstands _ _ (by rfl)

end SmbBrowser.Native
