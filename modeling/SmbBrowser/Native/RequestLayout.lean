import SmbBrowser.Native.Requests

/-!
# Where the parts of a request are

The parts of variable length of the requests of native_smb/Protocol.cpp, with the
fields that say where each is: an offset from the start of the SMB2 header and a
length, 16 or 32 bits wide.

Results:
* `variableFields_located`: both fields are right in every request a builder makes,
  except for the channel info of a WRITE after too much data.
-/

namespace SmbBrowser.Native

open SmbBrowser.Base

/-- A part of variable length: the places and widths of its offset and its length
    field, the place the builder puts it, and the part itself. -/
structure VariableField where
  offsetAt : ℕ
  offsetWidth : ℕ
  lengthAt : ℕ
  lengthWidth : ℕ
  start : ℕ
  content : ByteVector

/-- The number a message has in the field of this width. -/
def readNumber (message : ByteVector) (off width : ℕ) : DecodeResult ℕ := do
  return leValue (← readBytes message off width)

/-- A part that is not empty is where the message says, and as long. -/
def VariableField.Located (field : VariableField) (message : ByteVector) : Prop :=
  field.content ≠ [] →
    readNumber message field.offsetAt field.offsetWidth = .ok field.start ∧
    readNumber message field.lengthAt field.lengthWidth = .ok field.content.length ∧
    readBytes message field.start field.content.length = .ok field.content

theorem readNumber_skip {a : ByteVector} (b : ByteVector) {off width : ℕ} (h : a.length ≤ off) :
    readNumber (a ++ b) off width = readNumber b (off - a.length) width := by
  rw [readNumber, readNumber, readBytes_skip b h]

@[simp] theorem readNumber_u16Le (value : UInt16) (b : ByteVector) :
    readNumber (u16Le value ++ b) 0 2 = .ok value.toNat := by
  rw [readNumber, readBytes_here b (length_u16Le value)]
  show Except.ok (leValue (u16Le value)) = _
  rw [u16Le, leValue_leBytes, show 256 ^ 2 = 2 ^ 16 from rfl, Nat.mod_eq_of_lt value.toNat_lt]

@[simp] theorem readNumber_u32Le (value : UInt32) (b : ByteVector) :
    readNumber (u32Le value ++ b) 0 4 = .ok value.toNat := by
  rw [readNumber, readBytes_here b (length_u32Le value)]
  show Except.ok (leValue (u32Le value)) = _
  rw [u32Le, leValue_leBytes, show 256 ^ 4 = 2 ^ 32 from rfl, Nat.mod_eq_of_lt value.toNat_lt]

theorem toNat_u16_ofNat {n : ℕ} (h : n ≤ u16Max) : (UInt16.ofNat n).toNat = n := by
  rw [u16Max] at h
  rw [UInt16.toNat_ofNat', Nat.mod_eq_of_lt (by omega)]

theorem toNat_u32_ofNat {n : ℕ} (h : n ≤ u32Max) : (UInt32.ofNat n).toNat = n := by
  rw [u32Max] at h
  rw [UInt32.toNat_ofNat', Nat.mod_eq_of_lt (by omega)]

/-! ## The layouts -/

section

variable {messageId : ℕ} {treeId : UInt32} {sessionId : UInt64} {message : ByteVector}

/-- The part of a request that one offset and one length field describe, whatever
    the fields hold. -/
structure Placed (message : ByteVector) (field : VariableField) (offset length : ℕ) : Prop where
  offset_eq : readNumber message field.offsetAt field.offsetWidth = .ok offset
  length_eq : readNumber message field.lengthAt field.lengthWidth = .ok length
  content_eq : readBytes message field.start field.content.length = .ok field.content

theorem Placed.located_iff {field : VariableField} {offset length : ℕ}
    (h : Placed message field offset length) :
    field.Located message ↔
      (field.content ≠ [] → offset = field.start ∧ length = field.content.length) := by
  unfold VariableField.Located
  rw [h.offset_eq, h.length_eq, h.content_eq]
  simp

theorem readBytes_cons (a : UInt8) (b : ByteVector) {off len : ℕ} (h : 0 < off) :
    readBytes (a :: b) off len = readBytes b (off - 1) len :=
  readBytes_skip b (show [a].length ≤ off from h)

theorem readNumber_cons (a : UInt8) (b : ByteVector) {off width : ℕ} (h : 0 < off) :
    readNumber (a :: b) off width = readNumber b (off - 1) width :=
  readNumber_skip b (show [a].length ≤ off from h)

/-- Behind a part of any length. -/
theorem readBytes_skip_add {a : ByteVector} (b : ByteVector) {off n len : ℕ} (h : a.length ≤ off) :
    readBytes (a ++ b) (off + n) len = readBytes b (off - a.length + n) len := by
  rw [readBytes_skip b (by omega), Nat.sub_add_comm h]

theorem readBytes_cons_add (a : UInt8) (b : ByteVector) {off n len : ℕ} (h : 0 < off) :
    readBytes (a :: b) (off + n) len = readBytes b (off - 1 + n) len :=
  readBytes_skip_add b (show [a].length ≤ off from h)

/-- A part whose fields are written as they should be. -/
theorem Placed.located {field : VariableField}
    (h : Placed message field (if field.content.isEmpty then 0 else field.start)
      field.content.length) : field.Located message := by
  rw [h.located_iff]
  intro hne
  exact ⟨if_neg (by simpa using hne), rfl⟩

theorem Placed.located_always {field : VariableField}
    (h : Placed message field field.start field.content.length) : field.Located message := by
  rw [h.located_iff]
  exact fun _ => ⟨rfl, rfl⟩

theorem le_of_decide_gt {n m : ℕ} (h : decide (n > m) = false) : n ≤ m := by
  simpa using h

@[simp] theorem length_fileIdBytes (fileId : FileId) : (fileIdBytes fileId).length = 16 := by
  rw [fileIdBytes, List.length_append, length_u64Le, length_u64Le]

-- the fields before a part are skipped one by one
attribute [local simp] readBytes_skip readBytes_cons readBytes_skip_add readBytes_cons_add
  readBytes_here readNumber_skip readNumber_cons

theorem sessionSetup_placed {options : SessionSetupRequestOptions}
    (h : buildSessionSetupRequest options messageId sessionId = .ok message) :
    Placed message ⟨76, 2, 78, 2, 88, options.securityBuffer⟩ 88
      options.securityBuffer.length := by
  simp only [buildSessionSetupRequest, bind_eq_ok, pure_eq_ok, throwWhen_eq_ok] at h
  obtain ⟨-, hfits, rfl⟩ := h
  have hlength := toNat_u16_ofNat (le_of_decide_gt hfits)
  constructor
  · simp
  · simp [hlength]
  · simp

theorem treeConnect_placed {options : TreeConnectRequestOptions}
    (h : buildTreeConnectRequest options messageId sessionId = .ok message) :
    ∃ unc path, uncPath options = .ok unc ∧ encodeUtf16Le unc = .ok path ∧
      Placed message ⟨68, 2, 70, 2, 72, path⟩ 72 path.length := by
  simp only [buildTreeConnectRequest, bind_eq_ok, pure_eq_ok, throwWhen_eq_ok] at h
  obtain ⟨unc, hunc, path, hpath, -, hfits, rfl⟩ := h
  have hlength := toNat_u16_ofNat (le_of_decide_gt hfits)
  refine ⟨unc, path, hunc, hpath, ?_⟩
  constructor
  · simp
  · simp [hlength]
  · simp

theorem create_placed {options : CreateRequestOptions}
    (h : buildCreateRequest options messageId treeId sessionId = .ok message) :
    ∃ name, encodeUtf16Le options.path = .ok name ∧
      Placed message ⟨108, 2, 110, 2, 120, name⟩ 120 name.length ∧
      Placed message ⟨112, 4, 116, 4, 120 + name.length, options.createContexts⟩
        (if options.createContexts.isEmpty then 0 else 120 + name.length)
        options.createContexts.length := by
  simp only [buildCreateRequest, bind_eq_ok, pure_eq_ok, throwWhen_eq_ok] at h
  obtain ⟨name, hname, -, hfits, -, hfits', rfl⟩ := h
  have hlength := toNat_u16_ofNat (le_of_decide_gt hfits)
  have hlength' := toNat_u32_ofNat (le_of_decide_gt hfits')
  have hoffset : (120 + name.length) % 4294967296 = 120 + name.length := by
    have hfits := le_of_decide_gt hfits
    rw [u16Max] at hfits
    exact Nat.mod_eq_of_lt (by omega)
  refine ⟨name, hname, ?_, ?_⟩
  · constructor
    · simp
    · simp [hlength]
    · simp
  · constructor
    · simp [apply_ite UInt32.toNat, hoffset]
    · simp [hlength']
    · simp

theorem read_placed {options : ReadRequestOptions}
    (h : buildReadRequest options messageId treeId sessionId = .ok message) :
    Placed message ⟨108, 2, 110, 2, 112, options.channelInfo⟩
      (if options.channelInfo.isEmpty then 0 else 112) options.channelInfo.length := by
  simp only [buildReadRequest, bind_eq_ok, pure_eq_ok, throwWhen_eq_ok] at h
  obtain ⟨-, hfits, rfl⟩ := h
  have hlength := toNat_u16_ofNat (le_of_decide_gt hfits)
  constructor
  · simp [apply_ite UInt16.toNat]
  · simp [hlength]
  · simp

/-- Data is at most `2^32 - 1` bytes long, and the offset of the channel info
    behind it has 16 bits. -/
theorem write_placed {options : WriteRequestOptions}
    (h : buildWriteRequest options messageId treeId sessionId = .ok message) :
    Placed message ⟨66, 2, 68, 4, 112, options.data⟩ (if options.data.isEmpty then 0 else 112)
        options.data.length ∧
      Placed message ⟨104, 2, 106, 2, 112 + options.data.length, options.channelInfo⟩
        (if options.channelInfo.isEmpty then 0 else (112 + options.data.length) % 2 ^ 16)
        options.channelInfo.length := by
  simp only [buildWriteRequest, bind_eq_ok, pure_eq_ok, throwWhen_eq_ok] at h
  obtain ⟨-, hfits, -, hfits', rfl⟩ := h
  have hlength := toNat_u32_ofNat (le_of_decide_gt hfits)
  have hlength' := toNat_u16_ofNat (le_of_decide_gt hfits')
  refine ⟨?_, ?_⟩
  · constructor
    · simp [apply_ite UInt16.toNat]
    · simp [hlength]
    · simp
  · constructor
    · simp [apply_ite UInt16.toNat]
    · simp [hlength']
    · simp

theorem ioctl_placed {options : IoctlRequestOptions}
    (h : buildIoctlRequest options messageId treeId sessionId = .ok message) :
    Placed message ⟨88, 4, 92, 4, 120, options.input⟩ (if options.input.isEmpty then 0 else 120)
      options.input.length := by
  simp only [buildIoctlRequest, bind_eq_ok, pure_eq_ok, throwWhen_eq_ok] at h
  obtain ⟨-, hfits, rfl⟩ := h
  have hlength := toNat_u32_ofNat (le_of_decide_gt hfits)
  constructor
  · simp [apply_ite UInt32.toNat]
  · simp [hlength]
  · simp

theorem setInfo_placed {options : SetInfoRequestOptions}
    (h : buildSetInfoRequest options messageId treeId sessionId = .ok message) :
    Placed message ⟨72, 2, 68, 4, 96, options.buffer⟩ (if options.buffer.isEmpty then 0 else 96)
      options.buffer.length := by
  simp only [buildSetInfoRequest, bind_eq_ok, pure_eq_ok, throwWhen_eq_ok] at h
  obtain ⟨-, hfits, rfl⟩ := h
  have hlength := toNat_u32_ofNat (le_of_decide_gt hfits)
  constructor
  · simp [apply_ite UInt16.toNat]
  · simp [hlength]
  · simp

theorem queryInfo_placed {options : QueryInfoRequestOptions}
    (h : buildQueryInfoRequest options messageId treeId sessionId = .ok message) :
    Placed message ⟨72, 2, 76, 4, 104, options.inputBuffer⟩
      (if options.inputBuffer.isEmpty then 0 else 104) options.inputBuffer.length := by
  simp only [buildQueryInfoRequest, bind_eq_ok, pure_eq_ok, throwWhen_eq_ok] at h
  obtain ⟨-, hfits, rfl⟩ := h
  have hlength := toNat_u32_ofNat (le_of_decide_gt hfits)
  constructor
  · simp [apply_ite UInt16.toNat]
  · simp [hlength]
  · simp

theorem queryDirectory_placed {options : QueryDirectoryRequestOptions}
    (h : buildQueryDirectoryRequest options messageId treeId sessionId = .ok message) :
    ∃ pattern, encodeUtf16Le options.pattern = .ok pattern ∧
      Placed message ⟨88, 2, 90, 2, 96, pattern⟩ (if pattern.isEmpty then 0 else 96)
        pattern.length := by
  simp only [buildQueryDirectoryRequest, bind_eq_ok, pure_eq_ok, throwWhen_eq_ok] at h
  obtain ⟨pattern, hpattern, -, hfits, rfl⟩ := h
  have hlength := toNat_u16_ofNat (le_of_decide_gt hfits)
  refine ⟨pattern, hpattern, ?_⟩
  constructor
  · simp [apply_ite UInt16.toNat]
  · simp [hlength]
  · simp

end

/-! ## Every request -/

/-- A request of the connection or on a tree. -/
inductive AnyRequest where
  | sessionSetup (options : SessionSetupRequestOptions) (messageId : ℕ) (sessionId : UInt64)
  | treeConnect (options : TreeConnectRequestOptions) (messageId : ℕ) (sessionId : UInt64)
  | onTree (request : Request)

namespace AnyRequest

/-- The message of a request, made by its builder. -/
def build : AnyRequest → Except Exn ByteVector
  | sessionSetup options messageId sessionId => buildSessionSetupRequest options messageId sessionId
  | treeConnect options messageId sessionId => buildTreeConnectRequest options messageId sessionId
  | onTree request => request.build

/-- A text as the builders write it. -/
def encodedText (text : Except Exn ByteVector) : ByteVector :=
  ((text >>= encodeUtf16Le).toOption).getD []

/-- The parts of variable length of a request. -/
def variableFields : AnyRequest → List VariableField
  | sessionSetup options _ _ => [⟨76, 2, 78, 2, 88, options.securityBuffer⟩]
  | treeConnect options _ _ => [⟨68, 2, 70, 2, 72, encodedText (uncPath options)⟩]
  | onTree request =>
    match request.body with
    | .create options =>
      [⟨108, 2, 110, 2, 120, encodedText (.ok options.path)⟩,
       ⟨112, 4, 116, 4, 120 + (encodedText (.ok options.path)).length, options.createContexts⟩]
    | .read options => [⟨108, 2, 110, 2, 112, options.channelInfo⟩]
    | .write options =>
      [⟨66, 2, 68, 4, 112, options.data⟩,
       ⟨104, 2, 106, 2, 112 + options.data.length, options.channelInfo⟩]
    | .ioctl options => [⟨88, 4, 92, 4, 120, options.input⟩]
    | .setInfo options => [⟨72, 2, 68, 4, 96, options.buffer⟩]
    | .queryInfo options => [⟨72, 2, 76, 4, 104, options.inputBuffer⟩]
    | .queryDirectory options => [⟨88, 2, 90, 2, 96, encodedText (.ok options.pattern)⟩]
    | .close _ => []
    | .changeNotify _ => []

/-- A WRITE without channel info, or with little enough data before it. -/
def ChannelInfoFits : AnyRequest → Prop
  | onTree request =>
    match request.body with
    | .write options => options.channelInfo = [] ∨ options.data.length ≤ 65423
    | _ => True
  | _ => True

end AnyRequest

theorem encodedText_of_ok {text : Except Exn ByteVector} {utf8 encoded : ByteVector}
    (htext : text = .ok utf8) (h : encodeUtf16Le utf8 = .ok encoded) :
    AnyRequest.encodedText text = encoded := by
  rw [AnyRequest.encodedText, htext]
  show (encodeUtf16Le utf8).toOption.getD [] = encoded
  rw [h]
  rfl

/-- Of the parts of a WRITE, the channel info is where the message says only when
    its offset fits in 16 bits. -/
theorem write_located_iff {options : WriteRequestOptions} {messageId : ℕ} {treeId : UInt32}
    {sessionId : UInt64} {message : ByteVector}
    (h : buildWriteRequest options messageId treeId sessionId = .ok message) :
    (∀ field ∈ AnyRequest.variableFields (.onTree ⟨.write options, messageId, treeId, sessionId⟩),
      field.Located message) ↔ options.channelInfo = [] ∨ options.data.length ≤ 65423 := by
  obtain ⟨hdata, hchannel⟩ := write_placed h
  have hchannel := hchannel.located_iff
  simp only [AnyRequest.variableFields, List.forall_mem_cons, List.not_mem_nil, false_implies,
    implies_true, and_true, hdata.located, true_and]
  rw [hchannel]
  by_cases hempty : options.channelInfo = []
  · simp [hempty]
  · have hne : ¬ options.channelInfo.isEmpty = true := by simpa using hempty
    rw [if_neg hne]
    constructor
    · intro hfields
      have hoffset : (112 + options.data.length) % 2 ^ 16 = 112 + options.data.length :=
        (hfields hempty).1
      exact .inr (by omega)
    · rintro (hnone | hfew) -
      · exact absurd hnone hempty
      · refine ⟨?_, rfl⟩
        show (112 + options.data.length) % 2 ^ 16 = 112 + options.data.length
        omega

/-- **Where the parts of a request are**: in every message a builder makes, the
    parts of variable length are where their offset and length fields say, if and
    only if the offset of a WRITE's channel info fits in its 16 bits. -/
theorem variableFields_located {request : AnyRequest} {message : ByteVector}
    (h : request.build = .ok message) :
    (∀ field ∈ request.variableFields, field.Located message) ↔ request.ChannelInfoFits := by
  have hone {field : VariableField} (hfield : field.Located message) :
      (∀ field' ∈ [field], field'.Located message) ↔ True := by simpa using hfield
  cases request with
  | sessionSetup options messageId sessionId => exact hone (sessionSetup_placed h).located_always
  | treeConnect options messageId sessionId =>
    obtain ⟨unc, path, hunc, hpath, hplaced⟩ := treeConnect_placed h
    refine hone ?_
    rw [encodedText_of_ok hunc hpath]
    exact hplaced.located_always
  | onTree request =>
    obtain ⟨body, messageId, treeId, sessionId⟩ := request
    cases body with
    | create options =>
      obtain ⟨name, hname, hplaced, hcontexts⟩ := create_placed h
      have hencoded := encodedText_of_ok rfl hname
      refine iff_true_intro ?_
      simp only [AnyRequest.variableFields, hencoded, List.forall_mem_cons, List.not_mem_nil,
        false_implies, implies_true, and_true]
      exact ⟨hplaced.located_always, hcontexts.located⟩
    | read options => exact hone (read_placed h).located
    | write options => exact write_located_iff h
    | ioctl options => exact hone (ioctl_placed h).located
    | setInfo options => exact hone (setInfo_placed h).located
    | queryInfo options => exact hone (queryInfo_placed h).located
    | queryDirectory options =>
      obtain ⟨pattern, hpattern, hplaced⟩ := queryDirectory_placed h
      refine hone ?_
      rw [encodedText_of_ok rfl hpattern]
      exact hplaced.located
    | close options => exact iff_true_intro (by rintro field ⟨⟩)
    | changeNotify options => exact iff_true_intro (by rintro field ⟨⟩)

/-- A WRITE of one byte with one byte of channel info. -/
theorem variableFields_located_write :
    ∃ message, AnyRequest.build (.onTree ⟨.write { data := [7], channelInfo := [1] }, 1, 2, 3⟩) =
        .ok message ∧
      ∀ field ∈ AnyRequest.variableFields
        (.onTree ⟨.write { data := [7], channelInfo := [1] }, 1, 2, 3⟩), field.Located message :=
  ⟨_, rfl, (variableFields_located rfl).2 (.inr (by decide))⟩

/-- 65424 bytes of data push the channel info to an offset that is written as
    zero. -/
theorem channelInfo_misplaced :
    ¬ ∀ (request : AnyRequest) (message : ByteVector), request.build = .ok message →
      ∀ field ∈ request.variableFields, field.Located message := by
  intro hclaim
  obtain ⟨options, hoptions⟩ : ∃ options : WriteRequestOptions,
      options = { data := List.replicate 65424 0, channelInfo := [1] } := ⟨_, rfl⟩
  have hdata : options.data.length = 65424 := by rw [hoptions, List.length_replicate]
  have hinfo : options.channelInfo.length = 1 := by rw [hoptions]; rfl
  obtain ⟨message, h⟩ : ∃ message, buildWriteRequest options 1 2 3 = .ok message := by
    rw [buildWriteRequest, hdata, hinfo]
    exact ⟨_, rfl⟩
  have hlocated := (write_located_iff h).1
    (hclaim (.onTree ⟨.write options, 1, 2, 3⟩) message h)
  rcases hlocated with hnone | hfew
  · rw [hnone] at hinfo
    cases hinfo
  · omega

end SmbBrowser.Native
