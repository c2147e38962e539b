import SmbBrowser.Native.Exchange

/-!
# Directory, file and stat helpers

Models of `DirectoryLister`, `FileReader`, `FileWriter` and `RemoteStatReader`
(native_smb/).  Each helper is given the first message id it may use and
reports on success, and in part on failure, how many messages it used.
-/

namespace SmbBrowser.Native

open SmbBrowser.Base

/-- The share access every helper but the pipe opener asks for. -/
def kFileShareAll : UInt32 := kFileShareRead ||| kFileShareWrite ||| kFileShareDelete

/-- The failure whose text ends with the message id (DirectoryLister.cpp:28). -/
def failureWithMessageId {α : Type} (e : ProtocolError) (messageId : ℕ) : DecodeResult α :=
  failure e.code (e.message ++ " message_id=" ++ toString messageId ++ ".")

section

variable (messageId : ℕ) (treeId : UInt32) (sessionId : UInt64) (context : OperationContext)

/-! ## DirectoryLister -/

/-- `DirectoryListResult` (DirectoryLister.h:9). -/
structure DirectoryListResult where
  directoryFileId : FileId := {}
  entries : List DirectoryEntry := []
  messagesUsed : ℕ := 0

/-- Model of `directoryCreateOptions` (DirectoryLister.cpp:43). -/
def listCreateOptions (path : ByteVector) : CreateRequestOptions where
  path := path
  desiredAccess := kFileListDirectory ||| kFileReadEa ||| kFileReadAttributes
  fileAttributes := kFileAttributeNormal
  shareAccess := kFileShareAll
  createDisposition := kFileOpen
  createOptions := kFileDirectoryFile

/-- The text of a cancelled listing (DirectoryLister.cpp:17). -/
def listCancelled {α : Type} : DecodeResult α :=
  failure .cancelled "SMB directory listing was cancelled."

/-- The loop over the pages of a listing (DirectoryLister.cpp:88–114).  The
    source loops until the server ends the listing; the model gives up after
    `fuel` pages. -/
def listPages (fileId : FileId) :
    ℕ → Bool → ℕ → List DirectoryEntry → Prog (DecodeResult (List DirectoryEntry × ℕ))
  | 0, _, _, _ => throw .unfinished
  | fuel + 1, firstQuery, messagesUsed, entries => do
    let queryOptions : QueryDirectoryRequestOptions :=
      { fileId, flags := if firstQuery then kQueryDirectoryRestartScans else 0 }
    match ← exchangePayload
        ⟨.queryDirectory queryOptions, messageId + messagesUsed, treeId, sessionId⟩ context with
    | .error e => return failureFrom e
    | .ok queryPayload =>
      if ← isCancelled .helper context then
        return listCancelled
      match decodeQueryDirectoryResponse queryPayload with
      | .error e => return failureFrom e
      | .ok response =>
        if response.status = kStatusNoMoreFiles then
          return .ok (entries, messagesUsed + 1)
        if response.entries = [] then
          return .ok (entries, messagesUsed + 1)
        listPages fileId fuel false (messagesUsed + 1) (entries ++ response.entries)

/-- Model of `DirectoryLister::list` (DirectoryLister.cpp:58). -/
def directoryLister (fuel : ℕ) (path : ByteVector) : Prog (DecodeResult DirectoryListResult) := do
  if ← isCancelled .helper context then
    return listCancelled
  match ← exchangePayload
      ⟨.create (listCreateOptions path), messageId, treeId, sessionId⟩ context with
  | .error e => return failureFrom e
  | .ok createPayload =>
    if ← isCancelled .helper context then
      return listCancelled
    match decodeCreateResponse createPayload with
    | .error e => return failureWithMessageId e messageId
    | .ok create =>
      match ← listPages messageId treeId sessionId context create.fileId fuel true 1 [] with
      | .error e => return .error e
      | .ok (entries, messagesUsed) =>
        match ← closeExchanger (messageId + messagesUsed) treeId sessionId context
            { fileId := create.fileId } with
        | .error e => return failureFrom e
        | .ok _ =>
          return .ok {
            directoryFileId := create.fileId, entries, messagesUsed := messagesUsed + 1 }

/-! ## FileReader -/

/-- `FileReadResult` (FileReader.h:9). -/
structure FileReadResult where
  fileId : FileId := {}
  data : ByteVector := []
  dataRemaining : UInt32 := 0

/-- Model of `fileCreateOptions` (FileReader.cpp:42) and `readFileOptions`
    (NativeSmbSession.cpp:163). -/
def readFileOptions (path : ByteVector) : CreateRequestOptions where
  path := path
  desiredAccess := kFileReadData ||| kFileReadEa ||| kFileReadAttributes
  fileAttributes := kFileAttributeNormal
  shareAccess := kFileShareAll
  createDisposition := kFileOpen
  createOptions := kFileNonDirectoryFile

/-- Model of `FileReader::readOnce` (FileReader.cpp:56). -/
def fileReader (path : ByteVector) (length : UInt32) (offset : UInt64) :
    Prog (DecodeResult FileReadResult) := do
  let cancelled := failure .cancelled "SMB file read was cancelled."
  if ← isCancelled .helper context then
    return cancelled
  match ← exchangePayload
      ⟨.create (readFileOptions path), messageId, treeId, sessionId⟩ context with
  | .error e => return failureFrom e
  | .ok createPayload =>
    if ← isCancelled .helper context then
      return cancelled
    match decodeCreateResponse createPayload with
    | .error e => return failureWithMessageId e messageId
    | .ok create =>
      match ← readExchanger (messageId + 1) treeId sessionId context
          { fileId := create.fileId, length, offset } with
      | .error e => return failureFrom e
      | .ok read =>
        match ← closeExchanger (messageId + 2) treeId sessionId context
            { fileId := create.fileId } with
        | .error e => return failureFrom e
        | .ok _ =>
          return .ok {
            fileId := create.fileId, data := read.data, dataRemaining := read.dataRemaining }

/-! ## FileWriter -/

/-- `FileWriteResult` (FileWriter.h:9). -/
structure FileWriteResult where
  fileId : FileId := {}
  bytesWritten : UInt32 := 0
  remaining : UInt32 := 0
  messagesUsed : ℕ := 0

/-- Model of `fileCreateOptions` (FileWriter.cpp:34). -/
def writeFileOptions (path : ByteVector) : CreateRequestOptions where
  path := path
  desiredAccess := kFileWriteData ||| kFileWriteEa ||| kFileWriteAttributes ||| kFileReadAttributes
  fileAttributes := kFileAttributeNormal
  shareAccess := kFileShareAll
  createDisposition := kFileOpenIf
  createOptions := kFileNonDirectoryFile

/-- Model of `FileWriter::writeOnce` (FileWriter.cpp:48). -/
def fileWriter (path data : ByteVector) (offset : UInt64) :
    Prog (DecodeResult FileWriteResult) := do
  let cancelled := failure .cancelled "SMB file write was cancelled."
  if ← isCancelled .helper context then
    return cancelled
  match ← exchangePayload
      ⟨.create (writeFileOptions path), messageId, treeId, sessionId⟩ context with
  | .error e => return failureFrom e
  | .ok createPayload =>
    if ← isCancelled .helper context then
      return cancelled
    match decodeCreateResponse createPayload with
    | .error e => return failureFrom e
    | .ok create =>
      if data = [] then
        match ← closeExchanger (messageId + 1) treeId sessionId context
            { fileId := create.fileId } with
        | .error e => return failureFrom e
        | .ok _ => return .ok { fileId := create.fileId, messagesUsed := 2 }
      else
        match ← writeExchanger (messageId + 1) treeId sessionId context
            { fileId := create.fileId, data, offset } with
        | .error e => return failureFrom e
        | .ok write =>
          match ← closeExchanger (messageId + 2) treeId sessionId context
              { fileId := create.fileId } with
          | .error e => return failureFrom e
          | .ok _ =>
            return .ok {
              fileId := create.fileId, bytesWritten := write.count,
              remaining := write.remaining, messagesUsed := 3 }

/-! ## RemoteStatReader -/

/-- `RemoteStatResult` (RemoteStatReader.h:9). -/
structure RemoteStatResult where
  fileId : FileId := {}
  creationTime : UInt64 := 0
  lastAccessTime : UInt64 := 0
  lastWriteTime : UInt64 := 0
  changeTime : UInt64 := 0
  allocationSize : UInt64 := 0
  endOfFile : UInt64 := 0
  fileAttributes : UInt32 := 0
  numberOfLinks : UInt32 := 0
  messagesUsed : ℕ := 0
  deletePending : Bool := false
  directory : Bool := false
  reparsePoint : Bool := false

/-- Model of `statCreateOptions` (RemoteStatReader.cpp:35). -/
def statCreateOptions (path : ByteVector) : CreateRequestOptions where
  path := path
  desiredAccess := kFileReadAttributes
  fileAttributes := kFileAttributeNormal
  shareAccess := kFileShareAll
  createDisposition := kFileOpen
  createOptions := 0

/-- Model of `queryOptions` (RemoteStatReader.cpp:46). -/
def statQueryOptions (fileId : FileId) (fileInfoClass : UInt8) (outputBufferLength : UInt32) :
    QueryInfoRequestOptions where
  fileId := fileId
  infoType := kInfoTypeFile
  fileInfoClass := fileInfoClass
  outputBufferLength := outputBufferLength

/-- Model of `RemoteStatReader::stat` (RemoteStatReader.cpp:60).  A cancelled
    stat reports no message as used, whatever it sent before. -/
def remoteStatReader (path : ByteVector) : Prog (DecodeResult RemoteStatResult) := do
  let cancelled := failure .cancelled "SMB stat was cancelled."
  if ← isCancelled .helper context then
    return cancelled
  match ← exchangePayload
      ⟨.create (statCreateOptions path), messageId, treeId, sessionId⟩ context with
  | .error e => return failureFrom e 1
  | .ok createPayload =>
    if ← isCancelled .helper context then
      return cancelled
    match decodeCreateResponse createPayload with
    | .error e => return failureFrom e 1
    | .ok create =>
      match ← queryInfoExchanger (messageId + 1) treeId sessionId context
          (statQueryOptions create.fileId kFileBasicInformation 40) with
      | .error e => return failureFrom e 2
      | .ok basicResponse =>
        if ← isCancelled .helper context then
          return cancelled
        match decodeFileBasicInformation basicResponse.buffer with
        | .error e => return failureFrom e 2
        | .ok basicInfo =>
          match ← queryInfoExchanger (messageId + 2) treeId sessionId context
              (statQueryOptions create.fileId kFileStandardInformation 24) with
          | .error e => return failureFrom e 3
          | .ok standardResponse =>
            if ← isCancelled .helper context then
              return cancelled
            match decodeFileStandardInformation standardResponse.buffer with
            | .error e => return failureFrom e 3
            | .ok standardInfo =>
              match ← closeExchanger (messageId + 3) treeId sessionId context
                  { fileId := create.fileId } with
              | .error e => return failureFrom e 4
              | .ok _ =>
                return .ok {
                  fileId := create.fileId
                  creationTime := basicInfo.creationTime
                  lastAccessTime := basicInfo.lastAccessTime
                  lastWriteTime := basicInfo.lastWriteTime
                  changeTime := basicInfo.changeTime
                  fileAttributes := basicInfo.fileAttributes
                  allocationSize := standardInfo.allocationSize
                  endOfFile := standardInfo.endOfFile
                  numberOfLinks := standardInfo.numberOfLinks
                  messagesUsed := 4
                  deletePending := standardInfo.deletePending
                  directory := standardInfo.directory
                  reparsePoint := basicInfo.fileAttributes &&& kFileAttributeReparsePoint ≠ 0 ||
                    create.isReparsePoint }

end

end SmbBrowser.Native
