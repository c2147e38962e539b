import SmbBrowser.Native.Header

/-!
# SMB2 request builders

Models of the `build*Request` functions of native_smb/Protocol.cpp and of the
information buffers they carry.  A builder that throws `std::invalid_argument`
returns the exception.

Results:
* `Request.build_eq`: every request is its header followed by a body;
* `Request.decode_header`: the header read back from a frame of a request.
-/

namespace SmbBrowser.Native

open SmbBrowser.Base

/-- `throw std::invalid_argument(what)` when the condition holds. -/
def throwWhen (condition : Bool) (what : String) : Except Exn Unit :=
  if condition then .error (.invalidArgument what) else .ok ()

@[simp] theorem throwWhen_false (what : String) : throwWhen false what = .ok () := rfl
@[simp] theorem throwWhen_true (what : String) :
    throwWhen true what = .error (.invalidArgument what) := rfl

def u8Max : ℕ := 0xFF
def u16Max : ℕ := 0xFFFF
def u32Max : ℕ := 0xFFFFFFFF

/-- Model of `appendFileId` (Protocol.cpp:35). -/
def fileIdBytes (fileId : FileId) : ByteVector :=
  u64Le fileId.persistent ++ u64Le fileId.volatileId

/-- The credits a payload of `size` bytes is charged (Protocol.cpp:1073 and
    1194): a 16-bit field, so a charge of 65536 is stored as zero. -/
def creditCharge (size : ℕ) : UInt16 :=
  if size = 0 then 1 else UInt16.ofNat (1 + (size - 1) / 65536)

/-! ## NEGOTIATE, SESSION_SETUP and TREE_CONNECT -/

/-- Model of `securityModeForPolicy` (Protocol.cpp:172). -/
def securityModeForPolicy : SecurityPolicy → UInt16
  | .required => 0x0003
  | .preferred => 0x0001
  | .disabled => 0

/-- Model of `defaultInitialDialects` (Protocol.cpp:291). -/
def defaultInitialDialects : List Dialect := [.smb202, .smb210, .smb300, .smb302, .smb311]

/-- Model of `appendPadding` (Protocol.cpp:73). -/
def appendPadding (bytes : ByteVector) (alignment : ℕ) : ByteVector :=
  bytes ++ List.replicate ((alignment - bytes.length % alignment) % alignment) 0

/-- Model of `appendNegotiateContext` (Protocol.cpp:90). -/
def appendNegotiateContext (bytes : ByteVector) (type : UInt16) (data : ByteVector) : ByteVector :=
  appendPadding (bytes ++ u16Le type ++ u16Le (UInt16.ofNat data.length) ++ u32Le 0 ++ data) 8

/-- Model of `buildPreauthIntegrityContext` (Protocol.cpp:99). -/
def buildPreauthIntegrityContext (clientGuid : Vector UInt8 16) : ByteVector :=
  let salt := clientGuid.toList ++ clientGuid.toList
  u16Le 1 ++ u16Le (UInt16.ofNat salt.length) ++ u16Le 0x0001 ++ salt

/-- Model of `buildEncryptionCapabilitiesContext` (Protocol.cpp:112). -/
def buildEncryptionCapabilitiesContext : ByteVector := u16Le 1 ++ u16Le 0x0001

/-- The offset of the negotiate contexts (Protocol.cpp:486). -/
def negotiateContextOffset (dialects : List Dialect) : UInt32 :=
  if Dialect.smb311 ∈ dialects then
    UInt32.ofNat ((kSmb2HeaderSize + 36 + dialects.length * 2 + 7) / 8 * 8)
  else 0

/-- Model of `buildNegotiateRequest` (Protocol.cpp:455). -/
def buildNegotiateRequest (options : NegotiateRequestOptions) (messageId : ℕ) :
    Except Exn ByteVector := do
  let dialects := if options.dialects = [] then defaultInitialDialects else options.dialects
  throwWhen (dialects.length > u16Max) "Too many SMB dialects in negotiate request."
  let includeSmb311Contexts : Bool := Dialect.smb311 ∈ dialects
  let includeEncryptionContext : Bool := options.capabilities &&& kCapabilityEncryption ≠ 0
  let contextCount : UInt16 :=
    if includeSmb311Contexts then (if includeEncryptionContext then 2 else 1) else 0
  let fixed :=
    encodeSmb2SyncHeader { command := .negotiate, messageId := UInt64.ofNat messageId } ++
    (u16Le 36 ++ u16Le (UInt16.ofNat dialects.length) ++
    u16Le (securityModeForPolicy options.signing) ++ u16Le 0 ++ u32Le options.capabilities ++
    options.clientGuid.toList ++ u32Le (negotiateContextOffset dialects) ++ u16Le contextCount ++
    u16Le 0 ++ dialects.flatMap fun dialect => u16Le dialect.code)
  if includeSmb311Contexts then
    let preauth := appendNegotiateContext (appendPadding fixed 8) 0x0001
      (buildPreauthIntegrityContext options.clientGuid)
    return if includeEncryptionContext then
      appendNegotiateContext preauth 0x0002 buildEncryptionCapabilitiesContext else preauth
  else
    return fixed

/-- Model of `buildSessionSetupRequest` (Protocol.cpp:589). -/
def buildSessionSetupRequest (options : SessionSetupRequestOptions) (messageId : ℕ)
    (sessionId : UInt64) : Except Exn ByteVector := do
  throwWhen (options.securityBuffer.length > u16Max)
    "SMB2 SESSION_SETUP security buffer is too large."
  return encodeSmb2SyncHeader {
      command := .sessionSetup, messageId := UInt64.ofNat messageId, sessionId, creditCharge := 1 } ++
    (u16Le 25 ++ [options.flags] ++ [(securityModeForPolicy options.signing).toUInt8] ++
    u32Le options.capabilities ++ u32Le 0 ++ u16Le 88 ++
    u16Le (UInt16.ofNat options.securityBuffer.length) ++ u64Le options.previousSessionId ++
    options.securityBuffer)

/-- Model of `uncPath` (Protocol.cpp:121). -/
def uncPath (options : TreeConnectRequestOptions) : Except Exn ByteVector := do
  throwWhen (options.server.isEmpty || options.share.isEmpty)
    "SMB tree connect requires server and share."
  return ascii "\\\\" ++ options.server ++ ascii "\\" ++ options.share

/-- Model of `buildTreeConnectRequest` (Protocol.cpp:693). -/
def buildTreeConnectRequest (options : TreeConnectRequestOptions) (messageId : ℕ)
    (sessionId : UInt64) : Except Exn ByteVector := do
  let path ← encodeUtf16Le (← uncPath options)
  throwWhen (path.length > u16Max) "SMB2 TREE_CONNECT path is too large."
  return encodeSmb2SyncHeader {
      command := .treeConnect, messageId := UInt64.ofNat messageId, sessionId, creditCharge := 1 } ++
    (u16Le 9 ++ u16Le options.flags ++ u16Le 72 ++ u16Le (UInt16.ofNat path.length) ++ path)

/-- Model of `buildTreeDisconnectRequest` (Protocol.cpp:771). -/
def buildTreeDisconnectRequest (messageId : ℕ) (treeId : UInt32) (sessionId : UInt64) :
    Except Exn ByteVector :=
  .ok (encodeSmb2SyncHeader {
      command := .treeDisconnect, messageId := UInt64.ofNat messageId, treeId, sessionId,
      creditCharge := 1 } ++ (u16Le 4 ++ u16Le 0))

/-- Model of `buildLogoffRequest` (Protocol.cpp:832). -/
def buildLogoffRequest (messageId : ℕ) (sessionId : UInt64) : Except Exn ByteVector :=
  .ok (encodeSmb2SyncHeader {
      command := .logoff, messageId := UInt64.ofNat messageId, sessionId, creditCharge := 1 } ++
    (u16Le 4 ++ u16Le 0))

/-! ## Requests on a tree -/

/-- The header of a request on a tree. -/
def treeHeader (command : Command) (messageId : ℕ) (treeId : UInt32) (sessionId : UInt64)
    (creditCharge : UInt16 := 1) (creditRequest : UInt16 := 1) : Smb2SyncHeader :=
  { command, messageId := UInt64.ofNat messageId, treeId, sessionId, creditCharge, creditRequest }

/-- Model of `buildCreateRequest` (Protocol.cpp:890). -/
def buildCreateRequest (options : CreateRequestOptions) (messageId : ℕ) (treeId : UInt32)
    (sessionId : UInt64) : Except Exn ByteVector := do
  let name ← encodeUtf16Le options.path
  throwWhen (name.length > u16Max) "SMB2 CREATE name is too large."
  throwWhen (options.createContexts.length > u32Max) "SMB2 CREATE contexts are too large."
  let createContextsOffset : UInt32 :=
    if options.createContexts.isEmpty then 0 else UInt32.ofNat (120 + name.length)
  return encodeSmb2SyncHeader (treeHeader .create messageId treeId sessionId) ++
    (u16Le 57 ++ [0] ++ [options.requestedOplockLevel] ++ u32Le options.impersonationLevel ++
    u64Le 0 ++ u64Le 0 ++ u32Le options.desiredAccess ++ u32Le options.fileAttributes ++
    u32Le options.shareAccess ++ u32Le options.createDisposition ++
    u32Le options.createOptions ++ u16Le 120 ++ u16Le (UInt16.ofNat name.length) ++
    u32Le createContextsOffset ++ u32Le (UInt32.ofNat options.createContexts.length) ++
    name ++ options.createContexts ++
    if name.isEmpty && options.createContexts.isEmpty then [0] else [])

/-- Model of `buildCloseRequest` (Protocol.cpp:998). -/
def buildCloseRequest (options : CloseRequestOptions) (messageId : ℕ) (treeId : UInt32)
    (sessionId : UInt64) : Except Exn ByteVector :=
  .ok (encodeSmb2SyncHeader (treeHeader .close messageId treeId sessionId) ++
    (u16Le 24 ++ u16Le options.flags ++ u32Le 0 ++ fileIdBytes options.fileId))

/-- Model of `buildReadRequest` (Protocol.cpp:1070). -/
def buildReadRequest (options : ReadRequestOptions) (messageId : ℕ) (treeId : UInt32)
    (sessionId : UInt64) : Except Exn ByteVector := do
  throwWhen (options.channelInfo.length > u16Max) "SMB2 READ channel info is too large."
  let charge := creditCharge options.length.toNat
  let channelInfoOffset : UInt16 := if options.channelInfo.isEmpty then 0 else 112
  return encodeSmb2SyncHeader
      (treeHeader .read messageId treeId sessionId charge (max 1 charge)) ++
    (u16Le 49 ++ [0] ++ [options.flags] ++ u32Le options.length ++ u64Le options.offset ++
    fileIdBytes options.fileId ++ u32Le options.minimumCount ++ u32Le options.channel ++
    u32Le options.remainingBytes ++ u16Le channelInfoOffset ++
    u16Le (UInt16.ofNat options.channelInfo.length) ++ options.channelInfo ++
    if options.channelInfo.isEmpty then [0] else [])

/-- Model of `buildWriteRequest` (Protocol.cpp:1173). -/
def buildWriteRequest (options : WriteRequestOptions) (messageId : ℕ) (treeId : UInt32)
    (sessionId : UInt64) : Except Exn ByteVector := do
  throwWhen (options.data.length > u32Max) "SMB2 WRITE data is too large."
  throwWhen (options.channelInfo.length > u16Max) "SMB2 WRITE channel info is too large."
  let charge := creditCharge options.data.length
  let dataOffset : UInt16 := if options.data.isEmpty then 0 else 112
  let channelInfoOffset : UInt16 :=
    if options.channelInfo.isEmpty then 0 else UInt16.ofNat (112 + options.data.length)
  return encodeSmb2SyncHeader
      (treeHeader .write messageId treeId sessionId charge (max 1 charge)) ++
    (u16Le 49 ++ u16Le dataOffset ++ u32Le (UInt32.ofNat options.data.length) ++
    u64Le options.offset ++ fileIdBytes options.fileId ++ u32Le options.channel ++
    u32Le options.remainingBytes ++ u16Le channelInfoOffset ++
    u16Le (UInt16.ofNat options.channelInfo.length) ++ u32Le options.flags ++ options.data ++
    options.channelInfo)

/-- Model of `buildIoctlRequest` (Protocol.cpp:1269). -/
def buildIoctlRequest (options : IoctlRequestOptions) (messageId : ℕ) (treeId : UInt32)
    (sessionId : UInt64) : Except Exn ByteVector := do
  throwWhen (options.input.length > u32Max) "SMB2 IOCTL input buffer is too large."
  let inputOffset : UInt32 := if options.input.isEmpty then 0 else 120
  return encodeSmb2SyncHeader (treeHeader .ioctl messageId treeId sessionId) ++
    (u16Le 57 ++ u16Le 0 ++ u32Le options.ctlCode ++ fileIdBytes options.fileId ++
    u32Le inputOffset ++ u32Le (UInt32.ofNat options.input.length) ++
    u32Le options.maxInputResponse ++ u32Le 0 ++ u32Le 0 ++ u32Le options.maxOutputResponse ++
    u32Le options.flags ++ u32Le 0 ++ options.input ++
    if options.input.isEmpty then [0] else [])

/-- Model of `buildSetInfoRequest` (Protocol.cpp:1451). -/
def buildSetInfoRequest (options : SetInfoRequestOptions) (messageId : ℕ) (treeId : UInt32)
    (sessionId : UInt64) : Except Exn ByteVector := do
  throwWhen (options.buffer.length > u32Max) "SMB2 SET_INFO buffer is too large."
  let bufferOffset : UInt16 := if options.buffer.isEmpty then 0 else 96
  return encodeSmb2SyncHeader (treeHeader .setInfo messageId treeId sessionId) ++
    (u16Le 33 ++ [options.infoType] ++ [options.fileInfoClass] ++
    u32Le (UInt32.ofNat options.buffer.length) ++ u16Le bufferOffset ++ u16Le 0 ++
    u32Le options.additionalInformation ++ fileIdBytes options.fileId ++ options.buffer)

/-- Model of `buildQueryInfoRequest` (Protocol.cpp:1524). -/
def buildQueryInfoRequest (options : QueryInfoRequestOptions) (messageId : ℕ) (treeId : UInt32)
    (sessionId : UInt64) : Except Exn ByteVector := do
  throwWhen (options.inputBuffer.length > u32Max) "SMB2 QUERY_INFO input buffer is too large."
  let inputBufferOffset : UInt16 := if options.inputBuffer.isEmpty then 0 else 104
  return encodeSmb2SyncHeader (treeHeader .queryInfo messageId treeId sessionId) ++
    (u16Le 41 ++ [options.infoType] ++ [options.fileInfoClass] ++
    u32Le options.outputBufferLength ++ u16Le inputBufferOffset ++ u16Le 0 ++
    u32Le (UInt32.ofNat options.inputBuffer.length) ++ u32Le options.additionalInformation ++
    u32Le options.flags ++ fileIdBytes options.fileId ++ options.inputBuffer)

/-- Model of `buildQueryDirectoryRequest` (Protocol.cpp:1814). -/
def buildQueryDirectoryRequest (options : QueryDirectoryRequestOptions) (messageId : ℕ)
    (treeId : UInt32) (sessionId : UInt64) : Except Exn ByteVector := do
  let pattern ← encodeUtf16Le options.pattern
  throwWhen (pattern.length > u16Max) "SMB2 QUERY_DIRECTORY pattern is too large."
  let fileNameOffset : UInt16 := if pattern.isEmpty then 0 else 96
  return encodeSmb2SyncHeader (treeHeader .queryDirectory messageId treeId sessionId) ++
    (u16Le 33 ++ [options.informationClass] ++ [options.flags] ++ u32Le options.fileIndex ++
    fileIdBytes options.fileId ++ u16Le fileNameOffset ++
    u16Le (UInt16.ofNat pattern.length) ++ u32Le options.outputBufferLength ++ pattern)

/-- Model of `buildChangeNotifyRequest` (Protocol.cpp:1962). -/
def buildChangeNotifyRequest (options : ChangeNotifyRequestOptions) (messageId : ℕ)
    (treeId : UInt32) (sessionId : UInt64) : Except Exn ByteVector :=
  .ok (encodeSmb2SyncHeader (treeHeader .changeNotify messageId treeId sessionId
      (creditCharge options.outputBufferLength.toNat)) ++
    (u16Le 32 ++ u16Le options.flags ++ u32Le options.outputBufferLength ++
    fileIdBytes options.fileId ++ u32Le options.completionFilter ++ u32Le 0))

/-! ## Information buffers -/

/-- Model of `buildSrvCopyChunkRequest` (Protocol.cpp:1378). -/
def buildSrvCopyChunkRequest (resumeKey : ByteVector) (chunks : List CopyChunk) :
    Except Exn ByteVector := do
  throwWhen (resumeKey.length < 24) "SRV_COPYCHUNK requires a 24-byte resume key."
  throwWhen (chunks.length > u32Max) "Too many SRV_COPYCHUNK chunks."
  return resumeKey.take 24 ++ u32Le (UInt32.ofNat chunks.length) ++ u32Le 0 ++
    chunks.flatMap fun chunk =>
      u64Le chunk.sourceOffset ++ u64Le chunk.targetOffset ++ u32Le chunk.length ++ u32Le 0

/-- Model of `buildSymbolicLinkReparseBuffer` (Protocol.cpp:1415). -/
def buildSymbolicLinkReparseBuffer (substituteName printName : ByteVector) (relative : Bool) :
    Except Exn ByteVector := do
  throwWhen substituteName.isEmpty "SMB2 symlink substitute name is empty."
  let printName := if printName.isEmpty then substituteName else printName
  let substitute ← encodeUtf16Le substituteName
  let print ← encodeUtf16Le printName
  throwWhen (substitute.length > u16Max || print.length > u16Max ||
      substitute.length + print.length + 12 > u16Max)
    "SMB2 symlink reparse buffer is too large."
  return u32Le kIoReparseTagSymlink ++ u16Le (UInt16.ofNat (12 + substitute.length + print.length)) ++
    u16Le 0 ++ u16Le 0 ++ u16Le (UInt16.ofNat substitute.length) ++
    u16Le (UInt16.ofNat substitute.length) ++ u16Le (UInt16.ofNat print.length) ++
    u32Le (if relative then kSymlinkFlagRelative else 0) ++ substitute ++ print

/-- Model of `buildFileBasicInformation` (Protocol.cpp:1619). -/
def buildFileBasicInformation (info : FileBasicInformation) : ByteVector :=
  u64Le info.creationTime ++ u64Le info.lastAccessTime ++ u64Le info.lastWriteTime ++
    u64Le info.changeTime ++ u32Le info.fileAttributes ++ u32Le 0

/-- One entry of `buildFileFullEaInformation` (Protocol.cpp:1669–1701); only the
    last entry is not padded to a multiple of four bytes. -/
def fullEaEntry (entry : FileFullEaInformation) (last : Bool) : Except Exn ByteVector := do
  throwWhen entry.name.isEmpty "SMB2 EA name is empty."
  throwWhen (entry.name.length > u8Max) "SMB2 EA name is too large."
  throwWhen (entry.value.length > u16Max) "SMB2 EA value is too large."
  let fixedAndPayloadSize := 8 + entry.name.length + 1 + entry.value.length
  let alignedEntrySize :=
    if last then fixedAndPayloadSize else (fixedAndPayloadSize + 3) / 4 * 4
  return u32Le (if last then 0 else UInt32.ofNat alignedEntrySize) ++
    [if entry.needEa then kFileNeedEa else 0] ++ [UInt8.ofNat entry.name.length] ++
    u16Le (UInt16.ofNat entry.value.length) ++ entry.name ++ [0] ++ entry.value ++
    List.replicate (alignedEntrySize - fixedAndPayloadSize) 0

/-- Model of `buildFileFullEaInformation` (Protocol.cpp:1667). -/
def buildFileFullEaInformation : List FileFullEaInformation → Except Exn ByteVector
  | [] => .ok []
  | entry :: rest => do
    let bytes ← fullEaEntry entry rest.isEmpty
    return bytes ++ (← buildFileFullEaInformation rest)

/-- Model of `buildFileDispositionInformation` (Protocol.cpp:1759). -/
def buildFileDispositionInformation (deletePending : Bool) : ByteVector :=
  [if deletePending then 1 else 0]

/-- The buffer of FILE_RENAME_INFORMATION and FILE_LINK_INFORMATION, which
    differ in the texts they fail with. -/
def buildFileNameInformation (emptyPath tooLarge : String) (newPath : ByteVector)
    (replaceIfExists : Bool) : Except Exn ByteVector := do
  let name ← encodeUtf16Le newPath
  throwWhen name.isEmpty emptyPath
  throwWhen (name.length > u32Max) tooLarge
  let bytes := [if replaceIfExists then 1 else 0] ++ List.replicate 7 0 ++ u64Le 0 ++
    u32Le (UInt32.ofNat name.length) ++ name
  return bytes ++ List.replicate (24 - bytes.length) 0

/-- Model of `buildFileRenameInformation` (Protocol.cpp:1763). -/
def buildFileRenameInformation : ByteVector → Bool → Except Exn ByteVector :=
  buildFileNameInformation "SMB2 rename target path is empty."
    "SMB2 rename target path is too large."

/-- Model of `buildFileLinkInformation` (Protocol.cpp:1788). -/
def buildFileLinkInformation : ByteVector → Bool → Except Exn ByteVector :=
  buildFileNameInformation "SMB2 hardlink target path is empty."
    "SMB2 hardlink target path is too large."

/-! ## Requests as values -/

/-- A request on a tree: which builder makes it and with which options. -/
inductive RequestBody where
  | create (options : CreateRequestOptions)
  | close (options : CloseRequestOptions)
  | read (options : ReadRequestOptions)
  | write (options : WriteRequestOptions)
  | ioctl (options : IoctlRequestOptions)
  | setInfo (options : SetInfoRequestOptions)
  | queryInfo (options : QueryInfoRequestOptions)
  | queryDirectory (options : QueryDirectoryRequestOptions)
  | changeNotify (options : ChangeNotifyRequestOptions)

/-- A request together with the ids it is built with. -/
structure Request where
  body : RequestBody
  messageId : ℕ
  treeId : UInt32
  sessionId : UInt64

namespace Request

/-- The message of a request, made by its builder. -/
def build : Request → Except Exn ByteVector
  | ⟨.create o, m, t, s⟩ => buildCreateRequest o m t s
  | ⟨.close o, m, t, s⟩ => buildCloseRequest o m t s
  | ⟨.read o, m, t, s⟩ => buildReadRequest o m t s
  | ⟨.write o, m, t, s⟩ => buildWriteRequest o m t s
  | ⟨.ioctl o, m, t, s⟩ => buildIoctlRequest o m t s
  | ⟨.setInfo o, m, t, s⟩ => buildSetInfoRequest o m t s
  | ⟨.queryInfo o, m, t, s⟩ => buildQueryInfoRequest o m t s
  | ⟨.queryDirectory o, m, t, s⟩ => buildQueryDirectoryRequest o m t s
  | ⟨.changeNotify o, m, t, s⟩ => buildChangeNotifyRequest o m t s

/-- The frame of a request: its message in a Direct TCP frame. -/
def frame (request : Request) : Except Exn ByteVector := do
  encodeDirectTcpFrame (← request.build)

/-- The credits a request is charged. -/
def charge (request : Request) : UInt16 :=
  match request.body with
  | .read o => creditCharge o.length.toNat
  | .write o => creditCharge o.data.length
  | .changeNotify o => creditCharge o.outputBufferLength.toNat
  | _ => 1

/-- The header a request is built with. -/
def header (request : Request) : Smb2SyncHeader :=
  let of (command : Command) (creditRequest : UInt16 := 1) : Smb2SyncHeader :=
    treeHeader command request.messageId request.treeId request.sessionId request.charge
      creditRequest
  match request.body with
  | .create _ => of .create
  | .close _ => of .close
  | .read _ => of .read (max 1 request.charge)
  | .write _ => of .write (max 1 request.charge)
  | .ioctl _ => of .ioctl
  | .setInfo _ => of .setInfo
  | .queryInfo _ => of .queryInfo
  | .queryDirectory _ => of .queryDirectory
  | .changeNotify _ => of .changeNotify

end Request

@[simp] theorem throwWhen_eq_ok {condition : Bool} {what : String} {u : Unit} :
    throwWhen condition what = .ok u ↔ condition = false := by
  cases condition <;> simp

theorem bind_eq_ok {ε α β : Type} {x : Except ε α} {f : α → Except ε β} {b : β} :
    (x >>= f) = .ok b ↔ ∃ a, x = .ok a ∧ f a = .ok b := by
  cases x <;> simp [Bind.bind, Except.bind]

theorem pure_eq_ok {ε α : Type} {a b : α} : (pure a : Except ε α) = .ok b ↔ a = b := by
  simp [Pure.pure, Except.pure]

/-- Every request is its header followed by a body. -/
theorem Request.build_eq {request : Request} {message : ByteVector}
    (h : request.build = .ok message) :
    ∃ rest, message = encodeSmb2SyncHeader request.header ++ rest := by
  obtain ⟨body, m, t, s⟩ := request
  cases body with
  | create o =>
    simp only [build, buildCreateRequest, bind_eq_ok, pure_eq_ok] at h
    obtain ⟨name, -, -, -, -, -, rfl⟩ := h
    exact ⟨_, rfl⟩
  | close o =>
    cases h
    exact ⟨_, rfl⟩
  | read o =>
    simp only [build, buildReadRequest, bind_eq_ok, pure_eq_ok] at h
    obtain ⟨-, -, rfl⟩ := h
    exact ⟨_, rfl⟩
  | write o =>
    simp only [build, buildWriteRequest, bind_eq_ok, pure_eq_ok] at h
    obtain ⟨-, -, -, -, rfl⟩ := h
    exact ⟨_, rfl⟩
  | ioctl o =>
    simp only [build, buildIoctlRequest, bind_eq_ok, pure_eq_ok] at h
    obtain ⟨-, -, rfl⟩ := h
    exact ⟨_, rfl⟩
  | setInfo o =>
    simp only [build, buildSetInfoRequest, bind_eq_ok, pure_eq_ok] at h
    obtain ⟨-, -, rfl⟩ := h
    exact ⟨_, rfl⟩
  | queryInfo o =>
    simp only [build, buildQueryInfoRequest, bind_eq_ok, pure_eq_ok] at h
    obtain ⟨-, -, rfl⟩ := h
    exact ⟨_, rfl⟩
  | queryDirectory o =>
    simp only [build, buildQueryDirectoryRequest, bind_eq_ok, pure_eq_ok] at h
    obtain ⟨pattern, -, -, -, rfl⟩ := h
    exact ⟨_, rfl⟩
  | changeNotify o =>
    cases h
    exact ⟨_, rfl⟩

/-- The header read back from the frame of a request. -/
theorem Request.decode_header {request : Request} {frame : ByteVector}
    (h : request.frame = .ok frame) :
    ∃ message, decodeDirectTcpPayload frame = .ok message ∧
      decodeSmb2SyncHeader message = .ok request.header := by
  obtain ⟨message, hbuild, hframe⟩ := bind_eq_ok.1 h
  obtain ⟨rest, rfl⟩ := Request.build_eq hbuild
  exact ⟨_, decodeDirectTcpPayload_encode hframe, decodeSmb2SyncHeader_encode _ rest⟩

end SmbBrowser.Native
