import SmbBrowser.Native.ObjectHelpers
import SmbBrowser.Native.ServerHelpers

/-!
# The native session

Model of `NativeSmbSession` (native_smb/NativeSmbSession.cpp): the session
hands out message ids to the helpers and turns their results into its own.
`SessionM` keeps the session's fields when a builder throws, as the C++ object
does.
-/

namespace SmbBrowser.Native

open SmbBrowser.Base

/-! ## The session and its monad -/

/-- The fields of `NativeSmbSession` (NativeSmbSession.h:107). -/
structure Session where
  treeId : UInt32
  sessionId : UInt64
  nextMessageId : ℕ
  deriving DecidableEq

/-- Model of the constructor (NativeSmbSession.cpp:243). -/
def Session.new (treeId : UInt32) (sessionId : UInt64) (firstMessageId : ℕ) : Session where
  treeId := treeId
  sessionId := sessionId
  nextMessageId := if firstMessageId = 0 then 1 else firstMessageId

/-- Programs of the session: they may throw and change the session's fields. -/
abbrev SessionM (α : Type) := ExceptT Exn (StateT Session (Program Wire)) α

namespace SessionM

/-- Run a helper, which does not touch the session. -/
def ofProg {α : Type} (p : Prog α) : SessionM α :=
  ExceptT.mk fun session => p.run.bind fun r => .pure (r, session)

/-- Mark the beginning of a session method in the log. -/
def enter (call : SessionCall) : SessionM Unit := ofProg (Prog.perform (.enter call))

/-- `isCancelled(context)` of a session method. -/
def cancelled (context : OperationContext) : SessionM Bool :=
  ofProg (isCancelled .session context)

/-- Run a helper with the session's ids and a first message id. -/
def withIds {α : Type} (messageId : ℕ) (f : ℕ → UInt32 → UInt64 → Prog α) : SessionM α := do
  let session ← get
  ofProg (f messageId session.treeId session.sessionId)

end SessionM

/-- Model of `allocateMessageIds` (NativeSmbSession.cpp:874). -/
def allocateMessageIds (count : ℕ) : SessionM ℕ := do
  let session ← get
  set { session with nextMessageId := session.nextMessageId + count }
  return session.nextMessageId

/-- `m_nextMessageId += count`. -/
def useMessageIds (count : ℕ) : SessionM Unit :=
  modify fun session => { session with nextMessageId := session.nextMessageId + count }

/-! ## Results -/

/-- `NativeRemoteEntry` (NativeSmbSession.h:20). -/
structure NativeRemoteEntry where
  name : ByteVector := []
  size : UInt64 := 0
  allocationSize : UInt64 := 0
  creationTime : UInt64 := 0
  lastAccessTime : UInt64 := 0
  lastWriteTime : UInt64 := 0
  changeTime : UInt64 := 0
  attributes : UInt32 := 0
  directory : Bool := false
  reparsePoint : Bool := false
  deriving DecidableEq

/-- `NativeReadResult` (NativeSmbSession.h:37). -/
structure NativeReadResult where
  data : ByteVector := []
  dataRemaining : UInt32 := 0

/-- `NativeFileHandle` (NativeSmbSession.h:42). -/
structure NativeFileHandle where
  fileId : FileId := {}
  size : UInt64 := 0

/-- `NativeWriteResult` (NativeSmbSession.h:47). -/
structure NativeWriteResult where
  bytesWritten : UInt32 := 0
  remaining : UInt32 := 0

/-- `NativeStatResult` (NativeSmbSession.h:52). -/
structure NativeStatResult where
  size : UInt64 := 0
  allocationSize : UInt64 := 0
  creationTime : UInt64 := 0
  lastAccessTime : UInt64 := 0
  lastWriteTime : UInt64 := 0
  changeTime : UInt64 := 0
  attributes : UInt32 := 0
  numberOfLinks : UInt32 := 0
  directory : Bool := false
  reparsePoint : Bool := false
  deletePending : Bool := false

/-- `NativeObjectMutationResult` (NativeSmbSession.h:85). -/
structure NativeObjectMutationResult where
  path : ByteVector := []
  deriving DecidableEq

/-- `NativeNotifyResult` (NativeSmbSession.h:94). -/
structure NativeNotifyResult where
  entries : List ChangeNotifyEntry := []
  enumerationRequired : Bool := false

/-- Model of `isDotEntry` (NativeSmbSession.cpp:76). -/
def isDotEntry (name : ByteVector) : Bool := name = ascii "." || name = ascii ".."

/-- Model of `toNativeEntry` (NativeSmbSession.cpp:129). -/
def toNativeEntry (entry : DirectoryEntry) : NativeRemoteEntry where
  name := entry.name
  size := entry.endOfFile
  allocationSize := entry.allocationSize
  creationTime := entry.creationTime
  lastAccessTime := entry.lastAccessTime
  lastWriteTime := entry.lastWriteTime
  changeTime := entry.changeTime
  attributes := entry.fileAttributes
  directory := entry.isDirectory
  reparsePoint := entry.isReparsePoint

/-- Model of `joinRemotePath` (NativeSmbSession.cpp:80). -/
def joinRemotePath (parent child : ByteVector) : ByteVector :=
  if parent = [] then child
  else if parent.getLast? = some 0x5C ∨ parent.getLast? = some 0x2F then parent ++ child
  else parent ++ [0x5C] ++ child

/-- Model of `creditChargeForPayload` (NativeSmbSession.cpp:173). -/
def creditChargeForPayload (size : ℕ) : ℕ := if size = 0 then 1 else 1 + (size - 1) / 65536

/-- Model of `copySourceOptions` (NativeSmbSession.cpp:152). -/
def copySourceOptions (path : ByteVector) : CreateRequestOptions where
  path := path
  desiredAccess := kFileReadData ||| kFileReadAttributes
  fileAttributes := kFileAttributeNormal
  shareAccess := kFileShareAll
  createDisposition := kFileOpen
  createOptions := kFileNonDirectoryFile

/-- Model of `copyTargetOptions` (NativeSmbSession.cpp:180). -/
def copyTargetOptions (path : ByteVector) : CreateRequestOptions where
  path := path
  desiredAccess := kFileWriteData ||| kFileWriteAttributes ||| kFileReadAttributes
  fileAttributes := kFileAttributeNormal
  shareAccess := kFileShareAll
  createDisposition := kFileOverwriteIf
  createOptions := kFileNonDirectoryFile

/-! ## Methods -/

namespace Session

/-- Model of `listDirectory` (NativeSmbSession.cpp:251): a failed listing is
    taken to have used three messages. -/
def listDirectory (fuel : ℕ) (path : ByteVector) (context : OperationContext) :
    SessionM (DecodeResult (List NativeRemoteEntry)) := do
  SessionM.enter (.listDirectory path)
  match ← SessionM.withIds (← get).nextMessageId fun m t s =>
      directoryLister m t s context fuel path with
  | .error e =>
    useMessageIds 3
    return failureFrom e
  | .ok result =>
    useMessageIds result.messagesUsed
    return .ok ((result.entries.filter fun entry => ¬ isDotEntry entry.name).map toNativeEntry)

/-- Model of `readFileOnce` (NativeSmbSession.cpp:276). -/
def readFileOnce (path : ByteVector) (length : UInt32) (offset : UInt64)
    (context : OperationContext) : SessionM (DecodeResult NativeReadResult) := do
  SessionM.enter (.readFileOnce path length offset)
  let messageId ← allocateMessageIds 3
  match ← SessionM.withIds messageId fun m t s => fileReader m t s context path length offset with
  | .error e => return failureFrom e
  | .ok result => return .ok { data := result.data, dataRemaining := result.dataRemaining }

/-- Model of `openFileForRead` (NativeSmbSession.cpp:295). -/
def openFileForRead (path : ByteVector) (context : OperationContext) :
    SessionM (DecodeResult NativeFileHandle) := do
  SessionM.enter (.openFileForRead path)
  let messageId ← allocateMessageIds 1
  match ← SessionM.withIds messageId fun m t s => openFile m t s context (readFileOptions path) with
  | .error e => return failureFrom e
  | .ok create => return .ok { fileId := create.fileId, size := create.endOfFile }

/-- Model of `readFileChunk` (NativeSmbSession.cpp:312). -/
def readFileChunk (fileId : FileId) (length : UInt32) (offset : UInt64)
    (context : OperationContext) : SessionM (DecodeResult NativeReadResult) := do
  SessionM.enter (.readFileChunk fileId length offset)
  let messageId ← allocateMessageIds (creditChargeForPayload length.toNat)
  match ← SessionM.withIds messageId fun m t s =>
      readExchanger m t s context { fileId, length, offset } with
  | .error e => return failureFrom e
  | .ok read => return .ok { data := read.data, dataRemaining := read.dataRemaining }

/-- Model of `closeFile` (NativeSmbSession.cpp:224) with a fresh message id. -/
def closeFile (fileId : FileId) (context : OperationContext) : SessionM (DecodeResult Unit) := do
  let messageId ← allocateMessageIds 1
  match ← SessionM.withIds messageId fun m t s => closeExchanger m t s context { fileId } with
  | .error e => return failureFrom e
  | .ok _ => return .ok ()

/-- Model of `closeFileHandle` (NativeSmbSession.cpp:334). -/
def closeFileHandle (fileId : FileId) (context : OperationContext) :
    SessionM (DecodeResult Unit) := do
  SessionM.enter (.closeFileHandle fileId)
  closeFile fileId context

/-- Model of `writeFileOnce` (NativeSmbSession.cpp:342). -/
def writeFileOnce (path data : ByteVector) (offset : UInt64) (context : OperationContext) :
    SessionM (DecodeResult NativeWriteResult) := do
  SessionM.enter (.writeFileOnce path data offset)
  match ← SessionM.withIds (← get).nextMessageId fun m t s =>
      fileWriter m t s context path data offset with
  | .error e =>
    useMessageIds 3
    return failureFrom e
  | .ok result =>
    useMessageIds result.messagesUsed
    return .ok { bytesWritten := result.bytesWritten, remaining := result.remaining }

/-- The part of the methods that take the number of messages used from the
    helper's result, on failure as on success. -/
def withReportedIds {α β : Type} (call : SessionCall) (used : α → ℕ)
    (helper : ℕ → UInt32 → UInt64 → Prog (DecodeResult α)) (result : α → β) :
    SessionM (DecodeResult β) := do
  SessionM.enter call
  match ← SessionM.withIds (← get).nextMessageId helper with
  | .error e =>
    useMessageIds e.messagesUsed
    return failureFrom e
  | .ok a =>
    useMessageIds (used a)
    return .ok (result a)

/-- Model of `statObject` (NativeSmbSession.cpp:363). -/
def statObject (path : ByteVector) (context : OperationContext) :
    SessionM (DecodeResult NativeStatResult) :=
  withReportedIds (.statObject path) (·.messagesUsed)
    (fun m t s => remoteStatReader m t s context path)
    fun result => {
      size := result.endOfFile
      allocationSize := result.allocationSize
      creationTime := result.creationTime
      lastAccessTime := result.lastAccessTime
      lastWriteTime := result.lastWriteTime
      changeTime := result.changeTime
      attributes := result.fileAttributes
      numberOfLinks := result.numberOfLinks
      directory := result.directory
      reparsePoint := result.reparsePoint
      deletePending := result.deletePending }

/-- Model of `setBasicInformation` (NativeSmbSession.cpp:394). -/
def setBasicInformation (path : ByteVector) (info : FileBasicInformation)
    (context : OperationContext) : SessionM (DecodeResult NativeObjectMutationResult) :=
  withReportedIds (.setBasicInformation path info) (·.messagesUsed)
    (fun m t s => metadataSetBasicInformation m t s context path info) fun _ => { path }

/-- Model of `listExtendedAttributes` (NativeSmbSession.cpp:414). -/
def listExtendedAttributes (path : ByteVector) (context : OperationContext) :
    SessionM (DecodeResult (List FileFullEaInformation)) :=
  withReportedIds (.listExtendedAttributes path) (·.messagesUsed)
    (fun m t s => metadataListExtendedAttributes m t s context path) (·.entries)

/-- Model of `setExtendedAttributes` (NativeSmbSession.cpp:433). -/
def setExtendedAttributes (path : ByteVector) (entries : List FileFullEaInformation)
    (context : OperationContext) : SessionM (DecodeResult NativeObjectMutationResult) :=
  withReportedIds (.setExtendedAttributes path entries) (·.messagesUsed)
    (fun m t s => metadataSetExtendedAttributes m t s context path entries) fun _ => { path }

/-- Model of `removeExtendedAttribute` (NativeSmbSession.cpp:453). -/
def removeExtendedAttribute (path name : ByteVector) (context : OperationContext) :
    SessionM (DecodeResult NativeObjectMutationResult) :=
  withReportedIds (.removeExtendedAttribute path name) (·.messagesUsed)
    (fun m t s => metadataRemoveExtendedAttribute m t s context path name) fun _ => { path }

/-- Model of `querySecurityDescriptor` (NativeSmbSession.cpp:472). -/
def querySecurityDescriptor (path : ByteVector) (securityInformation : UInt32)
    (context : OperationContext) : SessionM (DecodeResult ByteVector) :=
  withReportedIds (.querySecurityDescriptor path securityInformation) (·.messagesUsed)
    (fun m t s => metadataQuerySecurityDescriptor m t s context path securityInformation)
    (·.descriptor)

/-- Model of `setSecurityDescriptor` (NativeSmbSession.cpp:493). -/
def setSecurityDescriptor (path : ByteVector) (securityInformation : UInt32)
    (descriptor : ByteVector) (context : OperationContext) :
    SessionM (DecodeResult NativeObjectMutationResult) :=
  withReportedIds (.setSecurityDescriptor path securityInformation descriptor) (·.messagesUsed)
    (fun m t s =>
      metadataSetSecurityDescriptor m t s context path securityInformation descriptor)
    fun _ => { path }

/-- The part of the object methods: the ids are taken before the helper runs,
    and a success names a path. -/
def withAllocatedIds {α β : Type} (call : SessionCall) (count : ℕ)
    (helper : ℕ → UInt32 → UInt64 → Prog (DecodeResult α)) (result : α → β) :
    SessionM (DecodeResult β) := do
  SessionM.enter call
  let messageId ← allocateMessageIds count
  match ← SessionM.withIds messageId helper with
  | .error e => return failureFrom e
  | .ok a => return .ok (result a)

/-- Model of `createDirectory` (NativeSmbSession.cpp:514). -/
def createDirectory (path : ByteVector) (context : OperationContext) :
    SessionM (DecodeResult NativeObjectMutationResult) :=
  withAllocatedIds (.createDirectory path) 2
    (fun m t s => objectCreateDirectory m t s context path) fun _ => { path }

/-- Model of `deleteObject` (NativeSmbSession.cpp:531). -/
def deleteObject (path : ByteVector) (directory : Bool) (context : OperationContext) :
    SessionM (DecodeResult NativeObjectMutationResult) :=
  withAllocatedIds (.deleteObject path directory) 3
    (fun m t s => objectDelete m t s context path directory) fun _ => { path }

/-- Model of `renameObject` (NativeSmbSession.cpp:594). -/
def renameObject (fromPath toPath : ByteVector) (replaceIfExists : Bool)
    (context : OperationContext) : SessionM (DecodeResult NativeObjectMutationResult) :=
  withAllocatedIds (.renameObject fromPath toPath replaceIfExists) 3
    (fun m t s => objectRename m t s context fromPath toPath replaceIfExists)
    fun _ => { path := toPath }

/-- Model of `createHardLink` (NativeSmbSession.cpp:611). -/
def createHardLink (existingPath linkPath : ByteVector) (replaceIfExists : Bool)
    (context : OperationContext) : SessionM (DecodeResult NativeObjectMutationResult) :=
  withAllocatedIds (.createHardLink existingPath linkPath replaceIfExists) 3
    (fun m t s => objectCreateHardLink m t s context existingPath linkPath replaceIfExists)
    fun _ => { path := linkPath }

/-- Model of `createSymbolicLink` (NativeSmbSession.cpp:629). -/
def createSymbolicLink (linkPath targetPath : ByteVector) (directory relative : Bool)
    (context : OperationContext) : SessionM (DecodeResult NativeObjectMutationResult) :=
  withAllocatedIds (.createSymbolicLink linkPath targetPath directory relative) 3
    (fun m t s =>
      objectCreateSymbolicLink m t s context linkPath targetPath directory relative)
    fun _ => { path := linkPath }

/-- Model of `watchDirectoryOnce` (NativeSmbSession.cpp:767). -/
def watchDirectoryOnce (path : ByteVector) (completionFilter : UInt32) (watchTree : Bool)
    (context : OperationContext) : SessionM (DecodeResult NativeNotifyResult) :=
  withAllocatedIds (.watchDirectoryOnce path completionFilter watchTree) 3
    (fun m t s => directoryWatcher m t s context path completionFilter watchTree 65536)
    fun result => {
      entries := result.entries
      enumerationRequired := result.status = kStatusNotifyEnumDir }

/-- Model of `listShares` (NativeSmbSession.cpp:789). -/
def listShares (serverName : ByteVector) (context : OperationContext) :
    SessionM (DecodeResult NativeShareList) :=
  withReportedIds (.listShares serverName) (·.messagesUsed)
    (fun m t s => remoteShareEnumerator m t s context serverName) id

/-- Model of `getDfsReferrals` (NativeSmbSession.cpp:805). -/
def getDfsReferrals (requestPath : ByteVector) (context : OperationContext) :
    SessionM (DecodeResult NativeDfsReferralResult) :=
  withReportedIds (.getDfsReferrals requestPath) (·.messagesUsed)
    (fun m t s => remoteDfsReferralFetcher m t s context requestPath) id

end Session

end SmbBrowser.Native
