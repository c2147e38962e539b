import SmbBrowser.Native.FileHelpers

/-!
# Metadata, object and watch helpers

Models of `RemoteMetadataOperator`, `RemoteObjectOperator` and
`DirectoryWatcher` (native_smb/).
-/

namespace SmbBrowser.Native

open SmbBrowser.Base

section

variable (messageId : ℕ) (treeId : UInt32) (sessionId : UInt64) (context : OperationContext)

/-! ## RemoteMetadataOperator -/

/-- `RemoteMetadataMutationResult` (RemoteMetadataOperator.h:9). -/
structure RemoteMetadataMutationResult where
  fileId : FileId := {}
  messagesUsed : ℕ := 0

/-- `RemoteExtendedAttributesResult` (RemoteMetadataOperator.h:14). -/
structure RemoteExtendedAttributesResult where
  fileId : FileId := {}
  entries : List FileFullEaInformation := []
  messagesUsed : ℕ := 0

/-- `RemoteSecurityDescriptorResult` (RemoteMetadataOperator.h:20). -/
structure RemoteSecurityDescriptorResult where
  fileId : FileId := {}
  descriptor : ByteVector := []
  messagesUsed : ℕ := 0

/-- Model of `metadataOpenOptions` (RemoteMetadataOperator.cpp:43). -/
def metadataOpenOptions (path : ByteVector) (desiredAccess : UInt32) : CreateRequestOptions where
  path := path
  desiredAccess := desiredAccess
  fileAttributes := kFileAttributeNormal
  shareAccess := kFileShareAll
  createDisposition := kFileOpen
  createOptions := 0

/-- Model of `securityQueryAccess` (RemoteMetadataOperator.cpp:123). -/
def securityQueryAccess (securityInformation : UInt32) : UInt32 :=
  kReadControlAccess ||| kFileReadAttributes |||
    (if securityInformation &&& kSaclSecurityInformation ≠ 0 then kAccessSystemSecurity else 0)

/-- Model of `securitySetAccess` (RemoteMetadataOperator.cpp:131). -/
def securitySetAccess (securityInformation : UInt32) : UInt32 :=
  kFileReadAttributes |||
    (if securityInformation &&& kOwnerSecurityInformation ≠ 0 ∨
        securityInformation &&& kGroupSecurityInformation ≠ 0 then kWriteOwnerAccess else 0) |||
    (if securityInformation &&& kDaclSecurityInformation ≠ 0 then kWriteDacAccess else 0) |||
    (if securityInformation &&& kSaclSecurityInformation ≠ 0 then kAccessSystemSecurity else 0)

/-- Model of `openObject` (RemoteMetadataOperator.cpp:55): its failures count
    the CREATE. -/
def openForMetadata (options : CreateRequestOptions) : Prog (DecodeResult CreateResponse) := do
  match ← openFile messageId treeId sessionId context options with
  | .error e => return failureFrom e 1
  | .ok create => return .ok create

/-- The part the metadata operations share: open the object, then look at the
    cancellation token.  A cancelled operation reports no message as used. -/
def withMetadataObject {α : Type} (cancelled : DecodeResult α) (path : ByteVector)
    (desiredAccess : UInt32) (operation : CreateResponse → Prog (DecodeResult α)) :
    Prog (DecodeResult α) := do
  if ← isCancelled .helper context then
    return cancelled
  match ← openForMetadata messageId treeId sessionId context
      (metadataOpenOptions path desiredAccess) with
  | .error e => return failureFrom e e.messagesUsed
  | .ok create =>
    if ← isCancelled .helper context then
      return cancelled
    operation create

/-- Model of `cancelledMutation` (RemoteMetadataOperator.cpp:16). -/
def cancelledMutation : DecodeResult RemoteMetadataMutationResult :=
  failure .cancelled "SMB metadata operation was cancelled."

/-- SET_INFO with the third message of an operation closing the object
    (RemoteMetadataOperator.cpp:171–183 and its siblings). -/
def setInfoAndClose (create : CreateResponse) (options : SetInfoRequestOptions) :
    Prog (DecodeResult RemoteMetadataMutationResult) := do
  match ← setInfoExchanger (messageId + 1) treeId sessionId context options with
  | .error e => return failureFrom e 2
  | .ok _ =>
    match ← closeExchanger (messageId + 2) treeId sessionId context
        { fileId := create.fileId } with
    | .error e => return failureFrom e 3
    | .ok _ => return .ok { fileId := create.fileId, messagesUsed := 3 }

/-- Model of `RemoteMetadataOperator::setBasicInformation`. -/
def metadataSetBasicInformation (path : ByteVector) (info : FileBasicInformation) :
    Prog (DecodeResult RemoteMetadataMutationResult) :=
  withMetadataObject messageId treeId sessionId context cancelledMutation path
    (kFileWriteAttributes ||| kFileReadAttributes) fun create =>
      setInfoAndClose messageId treeId sessionId context create {
        fileId := create.fileId, infoType := kInfoTypeFile,
        fileInfoClass := kFileBasicInformation, buffer := buildFileBasicInformation info }

/-- Model of `RemoteMetadataOperator::listExtendedAttributes`. -/
def metadataListExtendedAttributes (path : ByteVector) :
    Prog (DecodeResult RemoteExtendedAttributesResult) :=
  withMetadataObject messageId treeId sessionId context
    (failure .cancelled "SMB EA query was cancelled.") path
    (kFileReadEa ||| kFileReadAttributes) fun create => do
      match ← queryInfoExchanger (messageId + 1) treeId sessionId context {
          fileId := create.fileId, infoType := kInfoTypeFile,
          fileInfoClass := kFileFullEaInformation, outputBufferLength := 65536 } with
      | .error e => return failureFrom e 2
      | .ok query =>
        match decodeFileFullEaInformation query.buffer with
        | .error e => return failureFrom e 2
        | .ok entries =>
          match ← closeExchanger (messageId + 2) treeId sessionId context
              { fileId := create.fileId } with
          | .error e => return failureFrom e 3
          | .ok _ => return .ok { fileId := create.fileId, entries, messagesUsed := 3 }

/-- Model of `RemoteMetadataOperator::setExtendedAttributes`.  The attribute
    buffer is built after the object was opened, and its builder may throw. -/
def metadataSetExtendedAttributes (path : ByteVector) (entries : List FileFullEaInformation) :
    Prog (DecodeResult RemoteMetadataMutationResult) :=
  withMetadataObject messageId treeId sessionId context cancelledMutation path
    (kFileWriteEa ||| kFileReadAttributes) fun create => do
      let buffer ← Prog.ofExcept (buildFileFullEaInformation entries)
      setInfoAndClose messageId treeId sessionId context create {
        fileId := create.fileId, infoType := kInfoTypeFile,
        fileInfoClass := kFileFullEaInformation, buffer }

/-- Model of `RemoteMetadataOperator::removeExtendedAttribute`. -/
def metadataRemoveExtendedAttribute (path name : ByteVector) :
    Prog (DecodeResult RemoteMetadataMutationResult) :=
  metadataSetExtendedAttributes messageId treeId sessionId context path [{ name }]

/-- Model of `RemoteMetadataOperator::querySecurityDescriptor`. -/
def metadataQuerySecurityDescriptor (path : ByteVector) (securityInformation : UInt32) :
    Prog (DecodeResult RemoteSecurityDescriptorResult) :=
  withMetadataObject messageId treeId sessionId context
    (failure .cancelled "SMB security descriptor query was cancelled.") path
    (securityQueryAccess securityInformation) fun create => do
      match ← queryInfoExchanger (messageId + 1) treeId sessionId context {
          fileId := create.fileId, infoType := kInfoTypeSecurity, fileInfoClass := 0,
          outputBufferLength := 65536, additionalInformation := securityInformation } with
      | .error e => return failureFrom e 2
      | .ok query =>
        match ← closeExchanger (messageId + 2) treeId sessionId context
            { fileId := create.fileId } with
        | .error e => return failureFrom e 3
        | .ok _ =>
          return .ok { fileId := create.fileId, descriptor := query.buffer, messagesUsed := 3 }

/-- Model of `RemoteMetadataOperator::setSecurityDescriptor`. -/
def metadataSetSecurityDescriptor (path : ByteVector) (securityInformation : UInt32)
    (descriptor : ByteVector) : Prog (DecodeResult RemoteMetadataMutationResult) :=
  withMetadataObject messageId treeId sessionId context cancelledMutation path
    (securitySetAccess securityInformation) fun create =>
      setInfoAndClose messageId treeId sessionId context create {
        fileId := create.fileId, infoType := kInfoTypeSecurity, fileInfoClass := 0,
        buffer := descriptor, additionalInformation := securityInformation }

/-! ## RemoteObjectOperator -/

/-- `RemoteObjectResult` (RemoteObjectOperator.h:8). -/
structure RemoteObjectResult where
  fileId : FileId := {}

/-- Model of `directoryCreateOptions` (RemoteObjectOperator.cpp:33). -/
def directoryCreateOptions (path : ByteVector) : CreateRequestOptions where
  path := path
  desiredAccess := kFileReadAttributes
  fileAttributes := kFileAttributeDirectory
  shareAccess := kFileShareAll
  createDisposition := kFileCreate
  createOptions := kFileDirectoryFile

/-- Model of `openForMutationOptions` (RemoteObjectOperator.cpp:44). -/
def openForMutationOptions (path : ByteVector) (directory : Bool) : CreateRequestOptions where
  path := path
  desiredAccess := kDeleteAccess ||| kFileReadAttributes ||| kFileWriteAttributes
  fileAttributes := kFileAttributeNormal
  shareAccess := kFileShareAll
  createDisposition := kFileOpen
  createOptions := if directory then kFileDirectoryFile else 0

/-- Model of `symlinkCreateOptions` (RemoteObjectOperator.cpp:57). -/
def symlinkCreateOptions (path : ByteVector) (directory : Bool) : CreateRequestOptions where
  path := path
  desiredAccess := kFileWriteAttributes ||| kFileReadAttributes
  fileAttributes := kFileAttributeReparsePoint ||| (if directory then kFileAttributeDirectory else 0)
  shareAccess := kFileShareAll
  createDisposition := kFileCreate
  createOptions := kFileOpenReparsePoint |||
    (if directory then kFileDirectoryFile else kFileNonDirectoryFile)

/-- Model of `closeAndReturn` (RemoteObjectOperator.cpp:90). -/
def closeAndReturn (fileId : FileId) : Prog (DecodeResult RemoteObjectResult) := do
  match ← closeExchanger messageId treeId sessionId context { fileId } with
  | .error e => return failureFrom e
  | .ok _ => return .ok { fileId }

/-- The part the object operations share: open the object, then look at the
    cancellation token. -/
def withObject (cancelled : String) (options : CreateRequestOptions)
    (operation : FileId → Prog (DecodeResult RemoteObjectResult)) :
    Prog (DecodeResult RemoteObjectResult) := do
  if ← isCancelled .helper context then
    return failure .cancelled cancelled
  match ← openFile messageId treeId sessionId context options with
  | .error e => return failureFrom e
  | .ok create =>
    if ← isCancelled .helper context then
      return failure .cancelled cancelled
    operation create.fileId

/-- Model of `RemoteObjectOperator::createDirectory`. -/
def objectCreateDirectory (path : ByteVector) : Prog (DecodeResult RemoteObjectResult) :=
  withObject messageId treeId sessionId context "SMB create directory was cancelled."
    (directoryCreateOptions path) fun fileId =>
      closeAndReturn (messageId + 1) treeId sessionId context fileId

/-- Open an object, set an information on it and close it: the part delete,
    rename and hard link share. -/
def setInfoOnObject (cancelled : String) (options : CreateRequestOptions) (fileInfoClass : UInt8)
    (buffer : Except Exn ByteVector) : Prog (DecodeResult RemoteObjectResult) :=
  withObject messageId treeId sessionId context cancelled options fun fileId => do
    let buffer ← Prog.ofExcept buffer
    match ← setInfoExchanger (messageId + 1) treeId sessionId context
        { fileId, infoType := kInfoTypeFile, fileInfoClass, buffer } with
    | .error e => return failureFrom e
    | .ok _ => closeAndReturn (messageId + 2) treeId sessionId context fileId

/-- Model of `RemoteObjectOperator::deleteObject`. -/
def objectDelete (path : ByteVector) (directory : Bool) :
    Prog (DecodeResult RemoteObjectResult) :=
  setInfoOnObject messageId treeId sessionId context "SMB delete was cancelled."
    (openForMutationOptions path directory) kFileDispositionInformation
    (.ok (buildFileDispositionInformation true))

/-- Model of `RemoteObjectOperator::renameObject`. -/
def objectRename (fromPath toPath : ByteVector) (replaceIfExists : Bool) :
    Prog (DecodeResult RemoteObjectResult) :=
  setInfoOnObject messageId treeId sessionId context "SMB rename was cancelled."
    (openForMutationOptions fromPath false) kFileRenameInformation
    (buildFileRenameInformation toPath replaceIfExists)

/-- Model of `RemoteObjectOperator::createHardLink`. -/
def objectCreateHardLink (existingPath linkPath : ByteVector) (replaceIfExists : Bool) :
    Prog (DecodeResult RemoteObjectResult) :=
  setInfoOnObject messageId treeId sessionId context "SMB hardlink creation was cancelled."
    (openForMutationOptions existingPath false) kFileLinkInformation
    (buildFileLinkInformation linkPath replaceIfExists)

/-- Model of `RemoteObjectOperator::createSymbolicLink`. -/
def objectCreateSymbolicLink (linkPath targetPath : ByteVector) (directory relative : Bool) :
    Prog (DecodeResult RemoteObjectResult) :=
  withObject messageId treeId sessionId context "SMB symlink creation was cancelled."
    (symlinkCreateOptions linkPath directory) fun fileId => do
      let input ← Prog.ofExcept (buildSymbolicLinkReparseBuffer targetPath targetPath relative)
      match ← ioctl (messageId + 1) treeId sessionId context {
          ctlCode := kFsctlSetReparsePoint, fileId, input, maxOutputResponse := 0,
          flags := kIoctlIsFsctl } with
      | .error e => return failureFrom e
      | .ok _ => closeAndReturn (messageId + 2) treeId sessionId context fileId

/-! ## DirectoryWatcher -/

/-- `DirectoryWatchResult` (DirectoryWatcher.h:8). -/
structure DirectoryWatchResult where
  directoryFileId : FileId := {}
  status : UInt32 := 0
  entries : List ChangeNotifyEntry := []

/-- Model of `directoryCreateOptions` (DirectoryWatcher.cpp:37). -/
def watchCreateOptions (path : ByteVector) : CreateRequestOptions where
  path := path
  desiredAccess := kFileListDirectory ||| kFileReadAttributes
  fileAttributes := kFileAttributeNormal
  shareAccess := kFileShareAll
  createDisposition := kFileOpen
  createOptions := kFileDirectoryFile

/-- Model of `DirectoryWatcher::waitOnce` (DirectoryWatcher.cpp:67). -/
def directoryWatcher (path : ByteVector) (completionFilter : UInt32) (watchTree : Bool)
    (outputBufferLength : UInt32) : Prog (DecodeResult DirectoryWatchResult) := do
  let cancelled := failure .cancelled "SMB directory watch was cancelled."
  if ← isCancelled .helper context then
    return cancelled
  match ← openFile messageId treeId sessionId context (watchCreateOptions path) with
  | .error e => return failureFrom e
  | .ok create =>
    if ← isCancelled .helper context then
      return cancelled
    match ← changeNotifyExchanger (messageId + 1) treeId sessionId context {
        fileId := create.fileId, flags := if watchTree then kSmb2WatchTree else 0,
        outputBufferLength, completionFilter } with
    | .error e => return failureFrom e
    | .ok notify =>
      match ← closeExchanger (messageId + 2) treeId sessionId context
          { fileId := create.fileId } with
      | .error e => return failureFrom e
      | .ok _ =>
        return .ok {
          directoryFileId := create.fileId, status := notify.status, entries := notify.entries }

end

end SmbBrowser.Native
