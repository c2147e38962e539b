import SmbBrowser.Native.Session

/-!
# Server-side copy and recursive delete

Models of the methods of `NativeSmbSession` made of several requests or of
other methods: `copyFileServerSide`, `deleteTree` and `deleteWildcard`
(native_smb/NativeSmbSession.cpp).
-/

namespace SmbBrowser.Native

open SmbBrowser.Base

namespace Session

/-! ## Server-side copy -/

/-- The text of a cancelled server-side copy. -/
def copyCancelled : DecodeResult NativeObjectMutationResult :=
  failure .cancelled "SMB server-side copy was cancelled."

/-- `openFile(..., allocateMessageIds(1), ...)`. -/
def openWithFreshId (options : CreateRequestOptions) (context : OperationContext) :
    SessionM (DecodeResult CreateResponse) := do
  let messageId ← allocateMessageIds 1
  SessionM.withIds messageId fun m t s => openFile m t s context options

/-- `ioctl(..., allocateMessageIds(1), ...)`. -/
def ioctlWithFreshId (options : IoctlRequestOptions) (context : OperationContext) :
    SessionM (DecodeResult IoctlResponse) := do
  let messageId ← allocateMessageIds 1
  SessionM.withIds messageId fun m t s => ioctl m t s context options

/-- Model of `closeBoth` (NativeSmbSession.cpp:684): the target, then the
    source, in a context that cannot be cancelled; the results are ignored. -/
def closeBoth (source target : FileId) : SessionM Unit := do
  let _ ← closeFile target {}
  let _ ← closeFile source {}
  return ()

def kCopyChunkSize : ℕ := 1024 * 1024

/-- The loop over the chunks of a copy (NativeSmbSession.cpp:718–757); every
    turn copies at least one byte, so the size bounds the turns. -/
def copyChunks (source target : FileId) (resumeKey : ByteVector) (targetPath : ByteVector)
    (size : ℕ) (context : OperationContext) :
    ℕ → ℕ → SessionM (DecodeResult NativeObjectMutationResult)
  | 0, _ => do
    closeBoth source target
    return .ok { path := targetPath }
  | fuel + 1, offset => do
    if size ≤ offset then
      closeBoth source target
      return .ok { path := targetPath }
    if ← SessionM.cancelled context then
      closeBoth source target
      return copyCancelled
    let length := min kCopyChunkSize (size - offset)
    let chunk : CopyChunk := {
      sourceOffset := UInt64.ofNat offset, targetOffset := UInt64.ofNat offset,
      length := UInt32.ofNat length }
    let input ← SessionM.ofProg (Prog.ofExcept (buildSrvCopyChunkRequest resumeKey [chunk]))
    match ← ioctlWithFreshId {
        ctlCode := kFsctlSrvCopyChunk, fileId := target, input, maxOutputResponse := 16,
        flags := kIoctlIsFsctl } context with
    | .error e =>
      closeBoth source target
      return failureFrom e
    | .ok copied =>
      match decodeSrvCopyChunkResponse copied.output with
      | .error e =>
        closeBoth source target
        return failureFrom e
      | .ok parsed =>
        if parsed.totalBytesWritten = 0 ∨ parsed.totalBytesWritten.toNat > length then
          closeBoth source target
          return failure .protocolUnsupported
            "SMB server-side copy returned an invalid byte count."
        let offset := offset + parsed.totalBytesWritten.toNat
        SessionM.ofProg (reportProgress
          { bytesTransferred := UInt64.ofNat offset, totalBytes := UInt64.ofNat size } context)
        copyChunks source target resumeKey targetPath size context fuel offset

/-- Model of `copyFileServerSide` (NativeSmbSession.cpp:647). -/
def copyFileServerSide (sourcePath targetPath : ByteVector) (size : UInt64)
    (context : OperationContext) : SessionM (DecodeResult NativeObjectMutationResult) := do
  SessionM.enter (.copyFileServerSide sourcePath targetPath size)
  if ← SessionM.cancelled context then
    return copyCancelled
  match ← openWithFreshId (copySourceOptions sourcePath) context with
  | .error e => return failureFrom e
  | .ok source =>
    if ← SessionM.cancelled context then
      let _ ← closeFile source.fileId {}
      return copyCancelled
    match ← openWithFreshId (copyTargetOptions targetPath) context with
    | .error e =>
      let _ ← closeFile source.fileId {}
      return failureFrom e
    | .ok target =>
      if size = 0 then
        closeBoth source.fileId target.fileId
        return .ok { path := targetPath }
      match ← ioctlWithFreshId {
          ctlCode := kFsctlSrvRequestResumeKey, fileId := source.fileId,
          maxOutputResponse := 32, flags := kIoctlIsFsctl } context with
      | .error e =>
        closeBoth source.fileId target.fileId
        return failureFrom e
      | .ok resume =>
        if resume.output.length < 24 then
          closeBoth source.fileId target.fileId
          return failure .unsupportedCapability
            "SMB server-side copy resume key response is too short."
        copyChunks source.fileId target.fileId resume.output targetPath size.toNat context
          size.toNat 0

/-! ## Recursive and wildcard delete -/

/-- Model of `lowerAscii` (NativeSmbSession.cpp:91). -/
def lowerAscii (ch : UInt8) : UInt8 := if 0x41 ≤ ch ∧ ch ≤ 0x5A then ch + 0x20 else ch

/-- The loops of `wildcardMatches` (NativeSmbSession.cpp:102–126).  A position
    of the source is the rest of the pattern or text from it on; `star` is the
    pattern after the last star and the text to try next. -/
def wildcardLoop : ℕ → ByteVector → ByteVector → Option (ByteVector × ByteVector) → Bool
  | 0, _, _, _ => false
  | _ + 1, pattern, [], _ => pattern.all (· == 0x2A)
  | fuel + 1, pattern, ch :: text, star =>
    let retry :=
      match star with
      | some (afterStar, retryText) =>
        wildcardLoop fuel afterStar retryText.tail (some (afterStar, retryText.tail))
      | none => false
    match pattern with
    | p :: rest =>
      if p = 0x3F ∨ lowerAscii p = lowerAscii ch then
        wildcardLoop fuel rest text star
      else if p = 0x2A then
        wildcardLoop fuel rest (ch :: text) (some (rest, ch :: text))
      else retry
    | [] => retry

/-- Model of `wildcardMatches` (NativeSmbSession.cpp:96). -/
def wildcardMatches (pattern text : ByteVector) : Bool :=
  wildcardLoop ((text.length + 1) * (text.length + pattern.length + 2)) pattern text none

/-- The failure of a cancelled delete. -/
def deleteCancelled (what : String) : DecodeResult NativeObjectMutationResult :=
  failure .cancelled what

/-- The loop over the entries of a directory (NativeSmbSession.cpp:571–587 and
    845–861): `none` when every selected entry was deleted, or the first
    result that is not a success. -/
def deleteEntries (select : NativeRemoteEntry → Bool) (cancelledText : String)
    (parent : ByteVector) (context : OperationContext)
    (deleteTree : ByteVector → SessionM (DecodeResult NativeObjectMutationResult)) :
    List NativeRemoteEntry → SessionM (Option (DecodeResult NativeObjectMutationResult))
  | [] => return none
  | entry :: entries => do
    if isDotEntry entry.name || ¬ select entry then
      deleteEntries select cancelledText parent context deleteTree entries
    else
      if ← SessionM.cancelled context then
        return some (deleteCancelled cancelledText)
      let child := joinRemotePath parent entry.name
      let result ←
        if entry.directory && ¬ entry.reparsePoint then deleteTree child
        else deleteObject child entry.directory context
      match result with
      | .error e => return some (.error e)
      | .ok _ => deleteEntries select cancelledText parent context deleteTree entries

/-- Model of `deleteTreeInternal` (NativeSmbSession.cpp:821); `fuel` bounds the
    depth of the recursion and `pages` the pages of one listing. -/
def deleteTreeInternal (pages : ℕ) (context : OperationContext) :
    ℕ → ByteVector → SessionM (DecodeResult NativeObjectMutationResult)
  | 0, _ => throw .unfinished
  | fuel + 1, path => do
    if path = [] then
      return failure .invalidPath "Refusing to delete the SMB share root."
    if ← SessionM.cancelled context then
      return deleteCancelled "SMB recursive delete was cancelled."
    match ← statObject path context with
    | .error e => return failureFrom e
    | .ok stat =>
      if ¬ stat.directory || stat.reparsePoint then
        deleteObject path stat.directory context
      else
        match ← listDirectory pages path context with
        | .error e => return failureFrom e
        | .ok entries =>
          match ← deleteEntries (fun _ => true) "SMB recursive delete was cancelled." path context
              (deleteTreeInternal pages context fuel) entries with
          | some result => return result
          | none => deleteObject path true context

/-- Model of `deleteTree` (NativeSmbSession.cpp:548). -/
def deleteTree (fuel : ℕ) (path : ByteVector) (context : OperationContext) :
    SessionM (DecodeResult NativeObjectMutationResult) :=
  deleteTreeInternal fuel context fuel path

/-- Model of `deleteWildcard` (NativeSmbSession.cpp:554). -/
def deleteWildcard (fuel : ℕ) (parentPath pattern : ByteVector) (context : OperationContext) :
    SessionM (DecodeResult NativeObjectMutationResult) := do
  if pattern = [] then
    return failure .invalidPath "SMB wildcard delete pattern is empty."
  if ← SessionM.cancelled context then
    return deleteCancelled "SMB wildcard delete was cancelled."
  match ← listDirectory fuel parentPath context with
  | .error e => return failureFrom e
  | .ok entries =>
    match ← deleteEntries (fun entry => wildcardMatches pattern entry.name)
        "SMB wildcard delete was cancelled." parentPath context
        (deleteTreeInternal fuel context fuel) entries with
    | some result => return result
    | none => return .ok { path := joinRemotePath parentPath pattern }

end Session

/-! ## Operations of a session -/

/-- The public operations of a session that send requests. -/
inductive SessionOperation where
  | call (call : SessionCall)
  | deleteTree (path : ByteVector)
  | deleteWildcard (parentPath pattern : ByteVector)

/-- Run one primitive method and drop its value. -/
def SessionCall.run (fuel : ℕ) (context : OperationContext) : SessionCall → SessionM Unit
  | .listDirectory path => discard (Session.listDirectory fuel path context)
  | .readFileOnce path length offset => discard (Session.readFileOnce path length offset context)
  | .openFileForRead path => discard (Session.openFileForRead path context)
  | .readFileChunk fileId length offset =>
    discard (Session.readFileChunk fileId length offset context)
  | .closeFileHandle fileId => discard (Session.closeFileHandle fileId context)
  | .writeFileOnce path data offset => discard (Session.writeFileOnce path data offset context)
  | .statObject path => discard (Session.statObject path context)
  | .setBasicInformation path info => discard (Session.setBasicInformation path info context)
  | .listExtendedAttributes path => discard (Session.listExtendedAttributes path context)
  | .setExtendedAttributes path entries =>
    discard (Session.setExtendedAttributes path entries context)
  | .removeExtendedAttribute path name =>
    discard (Session.removeExtendedAttribute path name context)
  | .querySecurityDescriptor path information =>
    discard (Session.querySecurityDescriptor path information context)
  | .setSecurityDescriptor path information descriptor =>
    discard (Session.setSecurityDescriptor path information descriptor context)
  | .createDirectory path => discard (Session.createDirectory path context)
  | .deleteObject path directory => discard (Session.deleteObject path directory context)
  | .renameObject fromPath toPath replace =>
    discard (Session.renameObject fromPath toPath replace context)
  | .createHardLink existingPath linkPath replace =>
    discard (Session.createHardLink existingPath linkPath replace context)
  | .createSymbolicLink linkPath targetPath directory relative =>
    discard (Session.createSymbolicLink linkPath targetPath directory relative context)
  | .copyFileServerSide sourcePath targetPath size =>
    discard (Session.copyFileServerSide sourcePath targetPath size context)
  | .watchDirectoryOnce path filter watchTree =>
    discard (Session.watchDirectoryOnce path filter watchTree context)
  | .listShares serverName => discard (Session.listShares serverName context)
  | .getDfsReferrals requestPath => discard (Session.getDfsReferrals requestPath context)

/-- Run one operation and drop its value. -/
def SessionOperation.run (fuel : ℕ) (context : OperationContext) :
    SessionOperation → SessionM Unit
  | .call c => c.run fuel context
  | .deleteTree path => discard (Session.deleteTree fuel path context)
  | .deleteWildcard parentPath pattern =>
    discard (Session.deleteWildcard fuel parentPath pattern context)

end SmbBrowser.Native
