import SmbBrowser.Base.Embedding
import SmbBrowser.Core.Types
import SmbBrowser.Native.Composite
import SmbBrowser.Native.Connector

/-!
# The native SMB client

Model of `NativeSmbClient` (infrastructure/smb/NativeSmbClient.cpp): each operation opens
a native connection, or two of them, calls methods of its session and turns their results
into those of the core library.  Its surroundings are those of the session and, beside
them, the local file, the cancellation token and the progress callback.
-/

namespace SmbBrowser.Client

open SmbBrowser.Base SmbBrowser.Qt SmbBrowser.Native
open SmbBrowser.Core (Connection Result AppError RemoteFileEntry RemoteFileType)

/-! ## The interface -/

/-- The native connections of an operation: `copy` has one to the source and one to the
    target, the other operations have the first. -/
inductive Side where
  | source
  | target
  deriving DecidableEq, Repr

/-- The questions of the client: those of a session, `openNativeConnection`, and the calls
    of the local file, the cancellation token and the progress callback. -/
inductive ClientOp where
  | native (side : Side) (op : WireOp)
  | connect (side : Side) (connection : Connection)
  | isCancelled
  | progress (bytesTransferred totalBytes : Int64)
  | createLocal (localPath : QString)
  | writeLocal (data : ByteVector)
  | openLocal (localPath : QString)
  | readLocal

/-- The answers.  The local file says with an error text that it cannot be opened, written
    as a whole or read; opened for reading it answers with what it holds. -/
abbrev ClientWire : Interface where
  Op := ClientOp
  Ans
    | .native _ op => Wire.Ans op
    | .connect .. => DecodeResult NativeSmbConnectedState
    | .isCancelled => Bool
    | .progress .. => Unit
    | .createLocal _ => Except QString Unit
    | .writeLocal _ => Except QString Unit
    | .openLocal _ => Except QString ByteVector
    | .readLocal => Except QString Unit

/-- The questions of one session. -/
def nativeQuestions (side : Side) : Embedding Wire ClientWire where
  op := .native side
  ans _ := Equiv.refl _

/-- The sessions of the open connections. -/
structure Sessions where
  source : Session
  target : Session

namespace Sessions

def get (sessions : Sessions) : Side → Session
  | .source => sessions.source
  | .target => sessions.target

def set (sessions : Sessions) (session : Session) : Side → Sessions
  | .source => { sessions with source := session }
  | .target => { sessions with target := session }

end Sessions

/-- Programs of the client. -/
abbrev ClientM (α : Type) := ExceptT Exn (StateT Sessions (Program ClientWire)) α

namespace ClientM

/-- Ask one question. -/
def ask (op : ClientOp) : ClientM (ClientWire.Ans op) :=
  ExceptT.mk fun sessions => .ask op fun ans => .pure (.ok ans, sessions)

/-- Call a method of a session. -/
def onSession {α : Type} (side : Side) (method : SessionM α) : ClientM α :=
  ExceptT.mk fun sessions =>
    ((method.run.run (sessions.get side)).embed (nativeQuestions side)).bind fun r =>
      .pure (r.1, sessions.set r.2 side)

/-- Model of `isCancelled` (NativeSmbClient.cpp:49). -/
def cancelled (context : OperationContext) : ClientM Bool :=
  if context.cancellable then ask .isCancelled else pure false

/-- `if (context.progressCallback) { … }`. -/
def reportProgress (bytesTransferred totalBytes : ℕ) (context : OperationContext) : ClientM Unit :=
  if context.reportsProgress then
    ask (.progress (Int64.ofNat bytesTransferred) (Int64.ofNat totalBytes))
  else pure ()

end ClientM

/-! ## Errors -/

/-- What the client takes from Qt and from its `LogSanitizer`: the two conversions of
    texts, and the sanitized text of an error of one of the connections. -/
structure Texts where
  toStdString : QString → ByteVector
  fromStdString : ByteVector → QString
  details : Side → String → QString

/-- Model of `nativeToCoreError` (NativeSmbErrorMapper.cpp:7). -/
def nativeToCoreError : Native.ErrorCode → Core.ErrorCode
  | .none => .none
  | .cancelled => .operationCancelled
  | .timeout => .timeout
  | .dnsError => .dnsError
  | .serverUnavailable => .serverUnavailable
  | .shareUnavailable => .shareUnavailable
  | .authenticationFailed => .authenticationFailed
  | .permissionDenied => .permissionDenied
  | .protocolUnsupported => .protocolUnsupported
  | .fileNotFound => .fileNotFound
  | .alreadyExists => .alreadyExists
  | .directoryNotEmpty => .directoryNotEmpty
  | .invalidPath => .invalidPath
  | .networkError => .networkError
  | .ioError => .localIoError
  | .unsupportedCapability => .protocolUnsupported
  | .internalError => .unknown

/-- Model of `isNativeErrorRetryable` (NativeSmbErrorMapper.cpp:47). -/
def isNativeErrorRetryable (code : Native.ErrorCode) : Bool :=
  code = .timeout ∨ code = .networkError ∨ code = .serverUnavailable

/-- Model of `localIoError` (NativeSmbClient.cpp:25). -/
def localIoError (details : QString) : AppError :=
  .fromCode .localIoError .transfer details false

/-- Model of `cancelledFailure` (NativeSmbClient.cpp:42). -/
def cancelledFailure : Result Bool :=
  .failure (.fromCode .operationCancelled .transfer
    (qStringLiteral "Operation was cancelled.") false)

/-! ## Paths and connections -/

def slash : QChar := 0x2F
def backslash : QChar := 0x5C

/-- Model of `normalizeRemotePath` (NativeSmbClient.cpp:183). -/
def normalizeRemotePath (remotePath : QString) : QString :=
  let normalized := remotePath.trimmed
  let normalized : QString := normalized.dropWhile fun c => c = slash ∨ c = backslash
  normalized.replaceChar slash backslash

/-- Model of `childPath` (NativeSmbClient.cpp:193). -/
def childPath (parent name : QString) : QString :=
  let normalizedParent := normalizeRemotePath parent
  if normalizedParent = [] then name else normalizedParent ++ backslash :: name

/-- Model of `sameRemoteTree` (NativeSmbClient.cpp:205). -/
def sameRemoteTree (tables : CaseTables) (left right : Connection) : Bool :=
  if left.id ≠ [] ∧ left.id = right.id then
    true
  else
    let sameAddress := left.server ≠ [] ∧ left.share ≠ [] ∧
      tables.sameIgnoringCase left.server right.server ∧
      tables.sameIgnoringCase left.share right.share
    let sameUri := left.normalizedUri ≠ [] ∧
      tables.sameIgnoringCase left.normalizedUri right.normalizedUri
    if ¬ sameAddress ∧ ¬ sameUri then
      false
    else
      tables.sameIgnoringCase left.domain right.domain &&
        tables.sameIgnoringCase left.username right.username && left.authType = right.authType

/-! ## Entries -/

def kUnixEpochAsFiletime : ℕ := 116444736000000000

/-- Model of `filetimeToDateTime` (NativeSmbClient.cpp:227). -/
def filetimeToDateTime (filetime : UInt64) : QDateTime :=
  if filetime.toNat ≤ kUnixEpochAsFiletime then none
  else some (((filetime.toNat - kUnixEpochAsFiletime) / 10000 : ℕ) : ℤ)

/-- Model of `attributesString` (NativeSmbClient.cpp:236). -/
def attributesString (attributes : UInt32) : QString :=
  qStringLiteral "0x" ++
    qStringLiteral (String.ofList ((Nat.toDigits 16 attributes.toNat).leftpad 8 '0'))

/-- Model of `toCoreEntry` (NativeSmbClient.cpp:240). -/
def toCoreEntry (texts : Texts) (entry : NativeRemoteEntry) (parentPath : QString) :
    RemoteFileEntry :=
  let name := texts.fromStdString entry.name
  { name
    remotePath := childPath parentPath name
    type := if entry.reparsePoint then .symlink else if entry.directory then .directory else .file
    size := entry.size.toInt64.toInt
    modifiedAt := filetimeToDateTime entry.lastWriteTime
    attributes := attributesString entry.attributes
    isHidden := name.startsWith [0x2E] }

/-! ## Operations -/

section

variable (texts : Texts)

/-- Model of `appError` (NativeSmbClient.cpp:31) with `makeNativeSmbError`
    (NativeSmbErrorMapper.cpp:58). -/
def appError (side : Side) (error : ProtocolError) : AppError :=
  .fromCode (nativeToCoreError error.code) .smb (texts.details side error.message)
    (isNativeErrorRetryable error.code)

/-- `return Result<T>::failure(appError(error, …))`. -/
def failed {T : Type} [Inhabited T] (side : Side) (error : ProtocolError) : Result T :=
  .failure (appError texts side error)

/-- `normalizeRemotePath(remotePath).toStdString()`. -/
def nativePath (remotePath : QString) : ByteVector :=
  texts.toStdString (normalizeRemotePath remotePath)

/-- Model of `openNativeConnection` (NativeSmbClient.cpp:267); what it opens becomes the
    session of its side. -/
def openNativeConnection (side : Side) (connection : Connection) (context : OperationContext) :
    ClientM (DecodeResult Unit) := do
  if ← ClientM.cancelled context then
    return failure .cancelled "Operation was cancelled."
  match ← ClientM.ask (.connect side connection) with
  | .error e => return failureFrom e
  | .ok connected =>
    modify fun sessions => sessions.set connected.connection side
    return .ok ()

/-- The operations that call one method on a new connection. -/
def withConnection {α T : Type} [Inhabited T] (connection : Connection)
    (context : OperationContext) (method : SessionM (DecodeResult α)) (result : α → T) :
    ClientM (Result T) := do
  match ← openNativeConnection .source connection context with
  | .error e => return failed texts .source e
  | .ok () =>
    match ← ClientM.onSession .source method with
    | .error e => return failed texts .source e
    | .ok a => return .success (result a)

/-- Model of `NativeSmbClient::checkConnection` (NativeSmbClient.cpp:397). -/
def checkConnection (connection : Connection) (context : OperationContext) :
    ClientM (Result Bool) := do
  match ← openNativeConnection .source connection context with
  | .error e => return failed texts .source e
  | .ok () => return .success true

/-- Model of `NativeSmbClient::listDirectory` (NativeSmbClient.cpp:410). -/
def listDirectory (fuel : ℕ) (connection : Connection) (remotePath : QString)
    (context : OperationContext) : ClientM (Result (List RemoteFileEntry)) :=
  let normalizedPath := normalizeRemotePath remotePath
  withConnection texts connection context
    (Session.listDirectory fuel (texts.toStdString normalizedPath) context)
    (List.map fun entry => toCoreEntry texts entry normalizedPath)

/-- Model of `NativeSmbClient::createDirectory` (NativeSmbClient.cpp:439). -/
def createDirectory (connection : Connection) (remotePath : QString)
    (context : OperationContext) : ClientM (Result Bool) :=
  withConnection texts connection context
    (Session.createDirectory (nativePath texts remotePath) context) fun _ => true

/-- Model of `NativeSmbClient::remove` (NativeSmbClient.cpp:459). -/
def remove (fuel : ℕ) (connection : Connection) (remotePath : QString)
    (context : OperationContext) : ClientM (Result Bool) := do
  match ← openNativeConnection .source connection context with
  | .error e => return failed texts .source e
  | .ok () =>
    let path := nativePath texts remotePath
    match ← ClientM.onSession .source (Session.statObject path context) with
    | .error e => return failed texts .source e
    | .ok stat =>
      let result ← ClientM.onSession .source
        (if stat.directory && ¬ stat.reparsePoint then Session.deleteTree fuel path context
        else Session.deleteObject path stat.directory context)
      match result with
      | .error e => return failed texts .source e
      | .ok _ => return .success true

/-- Model of `NativeSmbClient::rename` (NativeSmbClient.cpp:492). -/
def rename (connection : Connection) (sourceRemotePath targetRemotePath : QString)
    (context : OperationContext) : ClientM (Result Bool) :=
  withConnection texts connection context
    (Session.renameObject (nativePath texts sourceRemotePath) (nativePath texts targetRemotePath)
      true context) fun _ => true

/-! ### Download -/

def kDownloadChunkSize : ℕ := 64 * 1024

/-- Model of `closeRemoteFile` (NativeSmbClient.cpp:534): the result is ignored. -/
def closeRemoteFile (fileId : FileId) (context : OperationContext) : ClientM Unit := do
  let _ ← ClientM.onSession .source (Session.closeFileHandle fileId context)
  return ()

/-- The loop of a download (NativeSmbClient.cpp:546–578).  The source loops until the
    offset reaches the size; the model gives up after `fuel` chunks. -/
def downloadChunks (fileId : FileId) (size : UInt64) (context : OperationContext) :
    ℕ → UInt64 → ClientM (Result Bool)
  | 0, _ => throw .unfinished
  | fuel + 1, offset => do
    if size ≤ offset then
      closeRemoteFile fileId context
      return .success true
    if ← ClientM.cancelled context then
      closeRemoteFile fileId context
      return cancelledFailure
    let length := UInt32.ofNat (min kDownloadChunkSize (size - offset).toNat)
    match ← ClientM.onSession .source (Session.readFileChunk fileId length offset context) with
    | .error e =>
      closeRemoteFile fileId context
      return failed texts .source e
    | .ok read =>
      match ← ClientM.ask (.writeLocal read.data) with
      | .error errorString =>
        closeRemoteFile fileId context
        return .failure (localIoError errorString)
      | .ok () =>
        let offset := offset + UInt64.ofNat read.data.length
        ClientM.reportProgress offset.toNat size.toNat context
        if read.data = [] then
          closeRemoteFile fileId context
          return .success true
        downloadChunks fileId size context fuel offset

/-- Model of `NativeSmbClient::downloadFile` (NativeSmbClient.cpp:515). -/
def downloadFile (fuel : ℕ) (connection : Connection) (remotePath localPath : QString)
    (context : OperationContext) : ClientM (Result Bool) := do
  match ← openNativeConnection .source connection context with
  | .error e => return failed texts .source e
  | .ok () =>
    let path := nativePath texts remotePath
    match ← ClientM.onSession .source (Session.openFileForRead path context) with
    | .error e => return failed texts .source e
    | .ok opened =>
      match ← ClientM.ask (.createLocal localPath) with
      | .error errorString =>
        closeRemoteFile opened.fileId context
        return .failure (localIoError errorString)
      | .ok () => downloadChunks texts opened.fileId opened.size context fuel 0

/-! ### Upload -/

def kChunkSize : ℕ := 64 * 1024

/-- The loop of an upload (NativeSmbClient.cpp:615–638): `rest` is what the local file
    holds behind its position, and every turn moves the position, so the length of the
    file bounds the turns. -/
def uploadChunks (path : ByteVector) (total : ℕ) (context : OperationContext) :
    ℕ → UInt64 → ByteVector → ClientM (Result Bool)
  | 0, _, _ => return .success true
  | fuel + 1, offset, rest => do
    if rest = [] then
      return .success true
    if ← ClientM.cancelled context then
      return cancelledFailure
    match ← ClientM.ask .readLocal with
    | .error errorString => return .failure (localIoError errorString)
    | .ok () =>
      let chunk := rest.take kChunkSize
      match ← ClientM.onSession .source (Session.writeFileOnce path chunk offset context) with
      | .error e => return failed texts .source e
      | .ok _ =>
        let offset := offset + UInt64.ofNat chunk.length
        ClientM.reportProgress offset.toNat total context
        uploadChunks path total context fuel offset (rest.drop kChunkSize)

/-- Delete what stands at the target path of an upload or a copy
    (NativeSmbClient.cpp:598–611 and 679–692). -/
def deleteExisting (side : Side) (path : ByteVector) (context : OperationContext) :
    ClientM (Option (Result Bool)) := do
  match ← ClientM.onSession side (Session.statObject path context) with
  | .ok existing =>
    match ← ClientM.onSession side (Session.deleteObject path existing.directory context) with
    | .error e => return some (failed texts side e)
    | .ok _ => return none
  | .error e =>
    if e.code ≠ .fileNotFound then
      return some (failed texts side e)
    return none

/-- Model of `NativeSmbClient::uploadFile` (NativeSmbClient.cpp:581). -/
def uploadFile (connection : Connection) (localPath remotePath : QString)
    (context : OperationContext) : ClientM (Result Bool) := do
  match ← openNativeConnection .source connection context with
  | .error e => return failed texts .source e
  | .ok () =>
    match ← ClientM.ask (.openLocal localPath) with
    | .error errorString => return .failure (localIoError errorString)
    | .ok file =>
      let path := nativePath texts remotePath
      match ← deleteExisting texts .source path context with
      | some result => return result
      | none => uploadChunks texts path file.length context file.length 0 file

/-! ### Copy and move -/

/-- The loop of a streamed copy (NativeSmbClient.cpp:729–758); the model gives up after
    `fuel` chunks. -/
def copyStream (sourcePath targetPath : ByteVector) (size : UInt64) (context : OperationContext) :
    ℕ → UInt64 → ClientM (Result Bool)
  | 0, _ => throw .unfinished
  | fuel + 1, offset => do
    if size ≤ offset then
      return .success true
    if ← ClientM.cancelled context then
      return cancelledFailure
    let length := UInt32.ofNat (min kChunkSize (size - offset).toNat)
    match ← ClientM.onSession .source (Session.readFileOnce sourcePath length offset context) with
    | .error e => return failed texts .source e
    | .ok read =>
      match ← ClientM.onSession .target
          (Session.writeFileOnce targetPath read.data offset context) with
      | .error e => return failed texts .target e
      | .ok _ =>
        let offset := offset + UInt64.ofNat read.data.length
        ClientM.reportProgress offset.toNat size.toNat context
        if read.data = [] then
          return .success true
        copyStream sourcePath targetPath size context fuel offset

/-- The server-side copy of `copy` (NativeSmbClient.cpp:695–712): `none` when it failed
    and what it left was deleted, as far as that went. -/
def copyServerSide (sourcePath targetPath : ByteVector) (size : UInt64)
    (context : OperationContext) : ClientM (Option (Result Bool)) := do
  match ← ClientM.onSession .source
      (Session.copyFileServerSide sourcePath targetPath size context) with
  | .ok _ => return some (.success true)
  | .error e =>
    if e.code = .cancelled then
      return some (failed texts .source e)
    match ← ClientM.onSession .target (Session.statObject targetPath context) with
    | .error _ => return none
    | .ok existing =>
      let _ ← ClientM.onSession .target
        (Session.deleteObject targetPath existing.directory context)
      return none

/-- The part of `copy` that sends the bytes through the client
    (NativeSmbClient.cpp:715–758). -/
def copyThrough (fuel : ℕ) (sourcePath targetPath : ByteVector) (size : UInt64)
    (context : OperationContext) : ClientM (Result Bool) := do
  if size = 0 then
    match ← ClientM.onSession .target (Session.writeFileOnce targetPath [] 0 context) with
    | .error e => return failed texts .target e
    | .ok _ =>
      ClientM.reportProgress 0 0 context
      return .success true
  copyStream texts sourcePath targetPath size context fuel 0

/-- Model of `NativeSmbClient::copy` (NativeSmbClient.cpp:641). -/
def copy (tables : CaseTables) (fuel : ℕ) (sourceConnection : Connection)
    (sourceRemotePath : QString) (targetConnection : Connection) (targetRemotePath : QString)
    (context : OperationContext) : ClientM (Result Bool) := do
  match ← openNativeConnection .source sourceConnection context with
  | .error e => return failed texts .source e
  | .ok () =>
  match ← openNativeConnection .target targetConnection context with
  | .error e => return failed texts .target e
  | .ok () =>
    let sourcePath := nativePath texts sourceRemotePath
    let targetPath := nativePath texts targetRemotePath
    match ← ClientM.onSession .source (Session.statObject sourcePath context) with
    | .error e => return failed texts .source e
    | .ok stat =>
      if stat.directory then
        return .failure (.fromCode .protocolUnsupported .smb (qStringLiteral
          "Directory copy is not implemented by the native SMB backend yet.") false)
      match ← deleteExisting texts .target targetPath context with
      | some result => return result
      | none =>
        if sameRemoteTree tables sourceConnection targetConnection then
          match ← copyServerSide texts sourcePath targetPath stat.size context with
          | some result => return result
          | none => copyThrough texts fuel sourcePath targetPath stat.size context
        else copyThrough texts fuel sourcePath targetPath stat.size context

/-- Model of `NativeSmbClient::move` (NativeSmbClient.cpp:761). -/
def move (tables : CaseTables) (fuel : ℕ) (sourceConnection : Connection)
    (sourceRemotePath : QString) (targetConnection : Connection) (targetRemotePath : QString)
    (context : OperationContext) : ClientM (Result Bool) := do
  if sameRemoteTree tables sourceConnection targetConnection then
    rename texts sourceConnection sourceRemotePath targetRemotePath context
  else
    let copied ← copy texts tables fuel sourceConnection sourceRemotePath targetConnection
      targetRemotePath context
    if ¬ copied.ok then
      return copied
    remove texts fuel sourceConnection sourceRemotePath context

end

end SmbBrowser.Client
