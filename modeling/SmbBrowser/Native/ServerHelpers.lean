import SmbBrowser.Native.DfsReferral
import SmbBrowser.Native.FileHelpers
import SmbBrowser.Native.Rpc

/-!
# Share enumeration and DFS referral helpers

Models of `RemoteShareEnumerator` and `RemoteDfsReferralFetcher` (native_smb/).
-/

namespace SmbBrowser.Native

open SmbBrowser.Base

/-- `NativeShareInfo` (RemoteShareEnumerator.h:12). -/
structure NativeShareInfo where
  name : ByteVector := []
  rawType : UInt32 := 0
  type : String := ""
  comment : ByteVector := []
  hidden : Bool := false
  special : Bool := false
  temporary : Bool := false

/-- `NativeShareList` (RemoteShareEnumerator.h:22). -/
structure NativeShareList where
  shares : List NativeShareInfo := []
  totalEntries : UInt32 := 0
  resumeHandle : Option UInt32 := none
  moreData : Bool := false
  messagesUsed : ℕ := 0

/-- `NativeDfsReferralResult` (RemoteDfsReferralFetcher.h:10). -/
structure NativeDfsReferralResult where
  response : DfsReferralResponse := {}
  messagesUsed : ℕ := 0

/-- Model of `srvsvcPipeOpenOptions` (RemoteShareEnumerator.cpp:39). -/
def srvsvcPipeOpenOptions : CreateRequestOptions where
  path := ascii "srvsvc"
  desiredAccess := kFileReadData ||| kFileWriteData ||| kFileReadAttributes |||
    kFileWriteAttributes ||| kSynchronizeAccess
  fileAttributes := kFileAttributeNormal
  shareAccess := kFileShareRead ||| kFileShareWrite
  createDisposition := kFileOpen
  createOptions := 0

/-- Model of `typeName` (RemoteShareEnumerator.cpp:106). -/
def typeName : SrvsShareKind → String
  | .disk => "disk"
  | .printer => "printer"
  | .device => "device"
  | .ipc => "ipc"
  | .unknown => "unknown"

/-- Model of `toNativeShare` (RemoteShareEnumerator.cpp:122). -/
def toNativeShare (share : SrvsShareInfo) : NativeShareInfo where
  name := share.name
  rawType := share.rawType
  type := typeName share.kind
  comment := share.comment
  hidden := share.hidden
  special := share.special
  temporary := share.temporary

section

variable (messageId : ℕ) (treeId : UInt32) (sessionId : UInt64) (context : OperationContext)

/-- Model of `writePipe` (RemoteShareEnumerator.cpp:52). -/
def writePipe (fileId : FileId) (data : ByteVector) : Prog (DecodeResult Unit) := do
  match ← writeExchanger messageId treeId sessionId context { fileId, data } with
  | .error e => return failureFrom e
  | .ok written =>
    if written.count.toNat ≠ data.length then
      return failure .ioError "SMB named pipe write was shorter than expected."
    return .ok ()

/-- Model of `readPipe` (RemoteShareEnumerator.cpp:73). -/
def readPipe (fileId : FileId) : Prog (DecodeResult ByteVector) := do
  match ← readExchanger messageId treeId sessionId context { fileId, length := 65536 } with
  | .error e => return failureFrom e
  | .ok read => return .ok read.data

/-- Model of `closePipe` (RemoteShareEnumerator.cpp:91). -/
def closePipe (fileId : FileId) : Prog (DecodeResult Unit) := do
  match ← closeExchanger messageId treeId sessionId context { fileId } with
  | .error e => return failureFrom e
  | .ok _ => return .ok ()

/-- A failed step after the pipe was opened: the pipe is closed in a context
    that cannot be cancelled, with the next free message id, and the failure
    counts the CLOSE (RemoteShareEnumerator.cpp:161–167). -/
def closeOpenedPipe {α : Type} (fileId : FileId) (e : ProtocolError) (messagesUsed : ℕ) :
    Prog (DecodeResult α) := do
  let _ ← closePipe (messageId + messagesUsed) treeId sessionId {} fileId
  return failureFrom e (messagesUsed + 1)

/-- The part of `listShares` after the request for the shares was built
    (RemoteShareEnumerator.cpp:190–238). -/
def exchangeShareEnum (fileId : FileId) (requestPdu : ByteVector) :
    Prog (DecodeResult NativeShareList) := do
  match ← writePipe (messageId + 3) treeId sessionId context fileId requestPdu with
  | .error e => closeOpenedPipe messageId treeId sessionId fileId e 4
  | .ok _ =>
    match ← readPipe (messageId + 4) treeId sessionId context fileId with
    | .error e => closeOpenedPipe messageId treeId sessionId fileId e 5
    | .ok responseBytes =>
      match decodeDcerpcResponse responseBytes with
      | .error e => closeOpenedPipe messageId treeId sessionId fileId e 5
      | .ok rpcResponse =>
        match decodeNetrShareEnumResponseStub rpcResponse.stubData with
        | .error e => closeOpenedPipe messageId treeId sessionId fileId e 5
        | .ok shareEnum =>
          match ← closePipe (messageId + 5) treeId sessionId context fileId with
          | .error e => return failureFrom e 6
          | .ok _ =>
            return .ok {
              shares := shareEnum.shares.map toNativeShare
              totalEntries := shareEnum.totalEntries
              resumeHandle := shareEnum.resumeHandle
              moreData := shareEnum.moreData
              messagesUsed := 6 }

/-- Model of `RemoteShareEnumerator::listShares` (RemoteShareEnumerator.cpp:136).
    The request for the shares is built after the pipe was bound, and its
    builder may throw. -/
def remoteShareEnumerator (serverName : ByteVector) : Prog (DecodeResult NativeShareList) := do
  if ← isCancelled .helper context then
    return failure .cancelled "SMB share enumeration was cancelled."
  match ← exchangePayload
      ⟨.create srvsvcPipeOpenOptions, messageId, treeId, sessionId⟩ context with
  | .error e => return failureFrom e 1
  | .ok createPayload =>
    match decodeCreateResponse createPayload with
    | .error e => return failureFrom e 1
    | .ok create =>
      match ← writePipe (messageId + 1) treeId sessionId context create.fileId
          (buildDcerpcBindPdu srvsRpcSyntax 1) with
      | .error e => closeOpenedPipe messageId treeId sessionId create.fileId e 2
      | .ok _ =>
        match ← readPipe (messageId + 2) treeId sessionId context create.fileId with
        | .error e => closeOpenedPipe messageId treeId sessionId create.fileId e 3
        | .ok bindBytes =>
          match decodeDcerpcBindAck bindBytes with
          | .error e => closeOpenedPipe messageId treeId sessionId create.fileId e 3
          | .ok _ =>
            let requestStub ← Prog.ofExcept (buildNetrShareEnumRequestStub serverName)
            exchangeShareEnum messageId treeId sessionId context create.fileId
              (buildDcerpcRequestPdu kSrvsNetrShareEnumOpnum requestStub 2)

/-- Model of `RemoteDfsReferralFetcher::getReferrals`
    (RemoteDfsReferralFetcher.cpp:34). -/
def remoteDfsReferralFetcher (requestPath : ByteVector) :
    Prog (DecodeResult NativeDfsReferralResult) := do
  if ← isCancelled .helper context then
    return failure .cancelled "SMB DFS referral request was cancelled."
  let input ← Prog.ofExcept (buildDfsGetReferralRequest requestPath)
  let options : IoctlRequestOptions := {
    ctlCode := kFsctlDfsGetReferrals
    fileId := { persistent := 0xFFFFFFFFFFFFFFFF, volatileId := 0xFFFFFFFFFFFFFFFF }
    input
    maxOutputResponse := 65536
    flags := kIoctlIsFsctl }
  match ← exchangePayload ⟨.ioctl options, messageId, treeId, sessionId⟩ context with
  | .error e => return failureFrom e 1
  | .ok payload =>
    match decodeIoctlResponse payload with
    | .error e => return failureFrom e 1
    | .ok ioctl =>
      match decodeDfsReferralResponse ioctl.output with
      | .error e => return failureFrom e 1
      | .ok referrals => return .ok { response := referrals, messagesUsed := 1 }

end

end SmbBrowser.Native
