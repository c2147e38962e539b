import SmbBrowser.Base.Bytes

/-!
# Data types of the native SMB client

The enumerations, records and constants of `native_smb/SmbNative.h` and
`native_smb/Protocol.h` that the modelled functions use.  A `std::string` is
a byte string; texts of error messages are Lean strings.  Fixed-width fields
keep their width, sizes and message ids are natural numbers.
-/

namespace SmbBrowser.Native

open SmbBrowser.Base

/-- `ByteVector`, and also `std::string`: a string of bytes. -/
abbrev ByteVector := Bytes

/-! ## Enumerations -/

/-- `AuthMode` (SmbNative.h:17). -/
inductive AuthMode where
  | password
  | guest
  | anonymous
  | currentUser
  deriving DecidableEq, Repr

/-- `SecurityPolicy` (SmbNative.h:24). -/
inductive SecurityPolicy where
  | required
  | preferred
  | disabled
  deriving DecidableEq, Repr

/-- `ErrorCode` (SmbNative.h:30). -/
inductive ErrorCode where
  | none
  | cancelled
  | timeout
  | dnsError
  | serverUnavailable
  | shareUnavailable
  | authenticationFailed
  | permissionDenied
  | protocolUnsupported
  | fileNotFound
  | alreadyExists
  | directoryNotEmpty
  | invalidPath
  | networkError
  | ioError
  | unsupportedCapability
  | internalError
  deriving DecidableEq, Repr

/-- `Dialect` (Protocol.h:17).  The wire value is cast to the enumeration
    without a check, so any 16-bit code is a value of it. -/
structure Dialect where
  code : UInt16
  deriving DecidableEq, Repr

namespace Dialect
def smb202 : Dialect := ⟨0x0202⟩
def smb210 : Dialect := ⟨0x0210⟩
def smb300 : Dialect := ⟨0x0300⟩
def smb302 : Dialect := ⟨0x0302⟩
def smb311 : Dialect := ⟨0x0311⟩
end Dialect

/-- `Command` (Protocol.h:25), cast from the wire like `Dialect`. -/
structure Command where
  code : UInt16
  deriving DecidableEq, Repr

namespace Command
def negotiate : Command := ⟨0x0000⟩
def sessionSetup : Command := ⟨0x0001⟩
def logoff : Command := ⟨0x0002⟩
def treeConnect : Command := ⟨0x0003⟩
def treeDisconnect : Command := ⟨0x0004⟩
def create : Command := ⟨0x0005⟩
def close : Command := ⟨0x0006⟩
def read : Command := ⟨0x0008⟩
def write : Command := ⟨0x0009⟩
def ioctl : Command := ⟨0x000B⟩
def queryDirectory : Command := ⟨0x000E⟩
def changeNotify : Command := ⟨0x000F⟩
def queryInfo : Command := ⟨0x0010⟩
def setInfo : Command := ⟨0x0011⟩
end Command

/-- `ShareType` (Protocol.h:58), cast from the wire like `Dialect`. -/
structure ShareType where
  code : UInt8
  deriving DecidableEq, Repr

namespace ShareType
def disk : ShareType := ⟨0x01⟩
end ShareType

/-! ## Results -/

/-- `ProtocolError` (Protocol.h:69). -/
structure ProtocolError where
  code : ErrorCode := .none
  message : String := ""
  messagesUsed : ℕ := 0
  deriving DecidableEq, Repr

/-- `DecodeResult<T>` (Protocol.h:75): the flag `ok` is the constructor. -/
abbrev DecodeResult (α : Type) := Except ProtocolError α

/-- `DecodeResult::failure` (Protocol.h:87). -/
def failure {α : Type} (code : ErrorCode) (message : String) (messagesUsed : ℕ := 0) :
    DecodeResult α :=
  .error { code, message, messagesUsed }

/-- The failure handed on by `DecodeResult::failure(e.code, e.message)`, which
    leaves `messagesUsed` at its default. -/
def failureFrom {α : Type} (e : ProtocolError) (messagesUsed : ℕ := 0) : DecodeResult α :=
  failure e.code e.message messagesUsed

/-- The exceptions the request builders throw; `unfinished` marks a run whose
    loop was cut off by the model's bound on the number of iterations. -/
inductive Exn where
  | invalidArgument (what : String)
  | unfinished
  deriving DecidableEq, Repr

/-! ## Contexts -/

/-- `OperationContext` (SmbNative.h:97) without its time-out and log callback:
    whether a cancellation token or callback is set, and whether a progress
    callback is set. -/
structure OperationContext where
  cancellable : Bool := false
  reportsProgress : Bool := false
  deriving DecidableEq, Repr

/-- `TransferProgress` (SmbNative.h:92). -/
structure TransferProgress where
  bytesTransferred : UInt64 := 0
  totalBytes : UInt64 := 0
  deriving DecidableEq, Repr

/-! ## Protocol records -/

/-- `FileId` (Protocol.h:64). -/
structure FileId where
  persistent : UInt64 := 0
  volatileId : UInt64 := 0
  deriving DecidableEq, Repr

/-- `Smb2SyncHeader` (Protocol.h:97). -/
structure Smb2SyncHeader where
  creditCharge : UInt16 := 0
  status : UInt32 := 0
  command : Command := .negotiate
  creditRequest : UInt16 := 1
  flags : UInt32 := 0
  nextCommand : UInt32 := 0
  messageId : UInt64 := 0
  treeId : UInt32 := 0
  sessionId : UInt64 := 0
  signature : Vector UInt8 16 := Vector.replicate 16 0
  deriving DecidableEq, Repr

/-- `NegotiateRequestOptions` (Protocol.h:110). -/
structure NegotiateRequestOptions where
  dialects : List Dialect := []
  signing : SecurityPolicy := .required
  capabilities : UInt32 := 0
  clientGuid : Vector UInt8 16 := Vector.replicate 16 0

/-- `NegotiateResponse` (Protocol.h:117). -/
structure NegotiateResponse where
  securityMode : UInt16 := 0
  dialect : Dialect := .smb202
  negotiateContextCount : UInt16 := 0
  serverGuid : ByteVector := []
  capabilities : UInt32 := 0
  maxTransactSize : UInt32 := 0
  maxReadSize : UInt32 := 0
  maxWriteSize : UInt32 := 0
  systemTime : UInt64 := 0
  serverStartTime : UInt64 := 0
  securityBuffer : ByteVector := []
  negotiateContextOffset : UInt32 := 0
  deriving DecidableEq

/-- `SessionSetupRequestOptions` (Protocol.h:132). -/
structure SessionSetupRequestOptions where
  flags : UInt8 := 0
  signing : SecurityPolicy := .required
  capabilities : UInt32 := 0
  previousSessionId : UInt64 := 0
  securityBuffer : ByteVector := []

/-- `SessionSetupResponse` (Protocol.h:140). -/
structure SessionSetupResponse where
  status : UInt32 := 0
  sessionId : UInt64 := 0
  sessionFlags : UInt16 := 0
  securityBuffer : ByteVector := []
  requestPayload : ByteVector := []
  responsePayload : ByteVector := []
  moreProcessingRequired : Bool := false
  guestSession : Bool := false
  nullSession : Bool := false
  encryptData : Bool := false
  deriving DecidableEq

/-- `TreeConnectRequestOptions` (Protocol.h:153). -/
structure TreeConnectRequestOptions where
  server : ByteVector := []
  share : ByteVector := []
  flags : UInt16 := 0

/-- `TreeConnectResponse` (Protocol.h:159). -/
structure TreeConnectResponse where
  shareType : ShareType := .disk
  shareFlags : UInt32 := 0
  capabilities : UInt32 := 0
  maximalAccess : UInt32 := 0
  isDfs : Bool := false
  isDfsRoot : Bool := false
  requiresEncryption : Bool := false
  deriving DecidableEq

/-- `TreeDisconnectResponse` and `LogoffResponse` (Protocol.h:174). -/
structure StatusResponse where
  status : UInt32 := 0
  deriving DecidableEq

/-- `CreateRequestOptions` (Protocol.h:177). -/
structure CreateRequestOptions where
  path : ByteVector := []
  requestedOplockLevel : UInt8 := 0
  impersonationLevel : UInt32 := 0x00000002
  desiredAccess : UInt32 := 0
  fileAttributes : UInt32 := 0
  shareAccess : UInt32 := 0
  createDisposition : UInt32 := 0x00000001
  createOptions : UInt32 := 0
  createContexts : ByteVector := []
  deriving DecidableEq

/-- `CreateResponse` (Protocol.h:189). -/
structure CreateResponse where
  oplockLevel : UInt8 := 0
  flags : UInt8 := 0
  createAction : UInt32 := 0
  creationTime : UInt64 := 0
  lastAccessTime : UInt64 := 0
  lastWriteTime : UInt64 := 0
  changeTime : UInt64 := 0
  allocationSize : UInt64 := 0
  endOfFile : UInt64 := 0
  fileAttributes : UInt32 := 0
  fileId : FileId := {}
  isReparsePoint : Bool := false
  deriving DecidableEq

/-- `CloseRequestOptions` (Protocol.h:204). -/
structure CloseRequestOptions where
  fileId : FileId := {}
  flags : UInt16 := 0
  deriving DecidableEq

/-- `CloseResponse` (Protocol.h:209). -/
structure CloseResponse where
  status : UInt32 := 0
  flags : UInt16 := 0
  creationTime : UInt64 := 0
  lastAccessTime : UInt64 := 0
  lastWriteTime : UInt64 := 0
  changeTime : UInt64 := 0
  allocationSize : UInt64 := 0
  endOfFile : UInt64 := 0
  fileAttributes : UInt32 := 0
  hasPostQueryAttributes : Bool := false
  deriving DecidableEq

/-- `ReadRequestOptions` (Protocol.h:222). -/
structure ReadRequestOptions where
  fileId : FileId := {}
  length : UInt32 := 0
  offset : UInt64 := 0
  flags : UInt8 := 0
  minimumCount : UInt32 := 0
  channel : UInt32 := 0
  remainingBytes : UInt32 := 0
  channelInfo : ByteVector := []
  deriving DecidableEq

/-- `ReadResponse` (Protocol.h:233). -/
structure ReadResponse where
  status : UInt32 := 0
  dataOffset : UInt8 := 0
  dataRemaining : UInt32 := 0
  flags : UInt8 := 0
  data : ByteVector := []
  deriving DecidableEq

/-- `WriteRequestOptions` (Protocol.h:241). -/
structure WriteRequestOptions where
  fileId : FileId := {}
  data : ByteVector := []
  offset : UInt64 := 0
  channel : UInt32 := 0
  remainingBytes : UInt32 := 0
  channelInfo : ByteVector := []
  flags : UInt32 := 0
  deriving DecidableEq

/-- `WriteResponse` (Protocol.h:251). -/
structure WriteResponse where
  status : UInt32 := 0
  count : UInt32 := 0
  remaining : UInt32 := 0
  writeChannelInfoOffset : UInt16 := 0
  writeChannelInfoLength : UInt16 := 0
  deriving DecidableEq

/-- `IoctlRequestOptions` (Protocol.h:259). -/
structure IoctlRequestOptions where
  ctlCode : UInt32 := 0
  fileId : FileId := {}
  input : ByteVector := []
  maxInputResponse : UInt32 := 0
  maxOutputResponse : UInt32 := 65536
  flags : UInt32 := 0x00000001
  deriving DecidableEq

/-- `IoctlResponse` (Protocol.h:268). -/
structure IoctlResponse where
  status : UInt32 := 0
  ctlCode : UInt32 := 0
  fileId : FileId := {}
  input : ByteVector := []
  output : ByteVector := []
  flags : UInt32 := 0
  deriving DecidableEq

/-- `CopyChunk` (Protocol.h:277). -/
structure CopyChunk where
  sourceOffset : UInt64 := 0
  targetOffset : UInt64 := 0
  length : UInt32 := 0
  deriving DecidableEq

/-- `CopyChunkResponse` (Protocol.h:283). -/
structure CopyChunkResponse where
  chunksWritten : UInt32 := 0
  chunkBytesWritten : UInt32 := 0
  totalBytesWritten : UInt32 := 0
  deriving DecidableEq

/-- `SetInfoRequestOptions` (Protocol.h:289). -/
structure SetInfoRequestOptions where
  fileId : FileId := {}
  infoType : UInt8 := 0x01
  fileInfoClass : UInt8 := 0
  buffer : ByteVector := []
  additionalInformation : UInt32 := 0
  deriving DecidableEq

/-- `QueryInfoRequestOptions` (Protocol.h:301). -/
structure QueryInfoRequestOptions where
  fileId : FileId := {}
  infoType : UInt8 := 0x01
  fileInfoClass : UInt8 := 0
  outputBufferLength : UInt32 := 65536
  inputBuffer : ByteVector := []
  additionalInformation : UInt32 := 0
  flags : UInt32 := 0
  deriving DecidableEq

/-- `QueryInfoResponse` (Protocol.h:311). -/
structure QueryInfoResponse where
  status : UInt32 := 0
  outputBufferOffset : UInt16 := 0
  buffer : ByteVector := []
  deriving DecidableEq

/-- `FileBasicInformation` (Protocol.h:317). -/
structure FileBasicInformation where
  creationTime : UInt64 := 0
  lastAccessTime : UInt64 := 0
  lastWriteTime : UInt64 := 0
  changeTime : UInt64 := 0
  fileAttributes : UInt32 := 0
  deriving DecidableEq

/-- `FileStandardInformation` (Protocol.h:325). -/
structure FileStandardInformation where
  allocationSize : UInt64 := 0
  endOfFile : UInt64 := 0
  numberOfLinks : UInt32 := 0
  deletePending : Bool := false
  directory : Bool := false
  deriving DecidableEq

/-- `FileFullEaInformation` (Protocol.h:333). -/
structure FileFullEaInformation where
  name : ByteVector := []
  value : ByteVector := []
  needEa : Bool := false
  deriving DecidableEq

/-- `QueryDirectoryRequestOptions` (Protocol.h:339). -/
structure QueryDirectoryRequestOptions where
  fileId : FileId := {}
  pattern : ByteVector := ascii "*"
  informationClass : UInt8 := 0x25
  flags : UInt8 := 0x01
  fileIndex : UInt32 := 0
  outputBufferLength : UInt32 := 65536
  deriving DecidableEq

/-- `DirectoryEntry` (Protocol.h:348). -/
structure DirectoryEntry where
  name : ByteVector := []
  fileIndex : UInt32 := 0
  creationTime : UInt64 := 0
  lastAccessTime : UInt64 := 0
  lastWriteTime : UInt64 := 0
  changeTime : UInt64 := 0
  endOfFile : UInt64 := 0
  allocationSize : UInt64 := 0
  fileAttributes : UInt32 := 0
  eaSizeOrReparseTag : UInt32 := 0
  fileId : UInt64 := 0
  isDirectory : Bool := false
  isReparsePoint : Bool := false
  deriving DecidableEq

/-- `QueryDirectoryResponse` (Protocol.h:364). -/
structure QueryDirectoryResponse where
  status : UInt32 := 0
  entries : List DirectoryEntry := []
  deriving DecidableEq

/-- `ChangeNotifyRequestOptions` (Protocol.h:369). -/
structure ChangeNotifyRequestOptions where
  fileId : FileId := {}
  flags : UInt16 := 0
  outputBufferLength : UInt32 := 65536
  completionFilter : UInt32 := 0
  deriving DecidableEq

/-- `ChangeNotifyEntry` (Protocol.h:376). -/
structure ChangeNotifyEntry where
  action : UInt32 := 0
  name : ByteVector := []
  deriving DecidableEq

/-- `ChangeNotifyResponse` (Protocol.h:381). -/
structure ChangeNotifyResponse where
  status : UInt32 := 0
  outputBufferOffset : UInt16 := 0
  entries : List ChangeNotifyEntry := []
  deriving DecidableEq

/-! ## Constants -/

def kSmb2HeaderSize : ℕ := 64
def kDirectTcpHeaderSize : ℕ := 4
def kSmb2ProtocolId : UInt32 := 0x424D53FE
def kSmb2HeaderStructureSize : UInt16 := 64
def kSmb2ProcessId : UInt32 := 0x0000FEFF
def kMaxDirectTcpPayloadLength : ℕ := 0x00FFFFFF

def kStatusSuccess : UInt32 := 0x00000000
def kStatusNotifyEnumDir : UInt32 := 0x0000010C
def kStatusNoSuchFile : UInt32 := 0xC000000F
def kStatusAccessDenied : UInt32 := 0xC0000022
def kStatusObjectNameNotFound : UInt32 := 0xC0000034
def kStatusObjectNameCollision : UInt32 := 0xC0000035
def kStatusObjectPathNotFound : UInt32 := 0xC000003A
def kStatusObjectPathSyntaxBad : UInt32 := 0xC000003B
def kStatusInvalidParameter : UInt32 := 0xC000000D
def kStatusInvalidDeviceRequest : UInt32 := 0xC0000010
def kStatusMoreProcessingRequired : UInt32 := 0xC0000016
def kStatusSharingViolation : UInt32 := 0xC0000043
def kStatusLogonFailure : UInt32 := 0xC000006D
def kStatusAccountRestriction : UInt32 := 0xC000006E
def kStatusInvalidLogonHours : UInt32 := 0xC000006F
def kStatusInvalidWorkstation : UInt32 := 0xC0000070
def kStatusPasswordExpired : UInt32 := 0xC0000071
def kStatusAccountDisabled : UInt32 := 0xC0000072
def kStatusIoTimeout : UInt32 := 0xC00000B5
def kStatusFileIsADirectory : UInt32 := 0xC00000BA
def kStatusNotSupported : UInt32 := 0xC00000BB
def kStatusNetworkNameDeleted : UInt32 := 0xC00000C9
def kStatusNetworkAccessDenied : UInt32 := 0xC00000CA
def kStatusBadNetworkName : UInt32 := 0xC00000CC
def kStatusDirectoryNotEmpty : UInt32 := 0xC0000101
def kStatusNotADirectory : UInt32 := 0xC0000103
def kStatusPathNotCovered : UInt32 := 0xC0000257
def kStatusNoMoreFiles : UInt32 := 0x80000006

def kFlagServerToRedir : UInt32 := 0x00000001
def kFlagAsyncCommand : UInt32 := 0x00000002
def kFlagSigned : UInt32 := 0x00000008
def kShareFlagDfs : UInt32 := 0x00000001
def kShareFlagDfsRoot : UInt32 := 0x00000002
def kShareFlagEncryptData : UInt32 := 0x00008000
def kShareCapabilityDfs : UInt32 := 0x00000008
def kSessionFlagIsGuest : UInt16 := 0x0001
def kSessionFlagIsNull : UInt16 := 0x0002
def kSessionFlagEncryptData : UInt16 := 0x0004
def kCapabilityEncryption : UInt32 := 0x00000040

def kInfoTypeFile : UInt8 := 0x01
def kInfoTypeSecurity : UInt8 := 0x03
def kFileBasicInformation : UInt8 := 0x04
def kFileStandardInformation : UInt8 := 0x05
def kFileRenameInformation : UInt8 := 0x0A
def kFileLinkInformation : UInt8 := 0x0B
def kFileDispositionInformation : UInt8 := 0x0D
def kFileFullEaInformation : UInt8 := 0x0F

def kFileReadData : UInt32 := 0x00000001
def kFileListDirectory : UInt32 := 0x00000001
def kFileWriteData : UInt32 := 0x00000002
def kFileAppendData : UInt32 := 0x00000004
def kFileReadEa : UInt32 := 0x00000008
def kFileWriteEa : UInt32 := 0x00000010
def kFileReadAttributes : UInt32 := 0x00000080
def kFileWriteAttributes : UInt32 := 0x00000100
def kReadControlAccess : UInt32 := 0x00020000
def kWriteDacAccess : UInt32 := 0x00040000
def kWriteOwnerAccess : UInt32 := 0x00080000
def kSynchronizeAccess : UInt32 := 0x00100000
def kAccessSystemSecurity : UInt32 := 0x01000000
def kDeleteAccess : UInt32 := 0x00010000
def kFileAttributeDirectory : UInt32 := 0x00000010
def kFileAttributeNormal : UInt32 := 0x00000080
def kFileAttributeReparsePoint : UInt32 := 0x00000400
def kFileShareRead : UInt32 := 0x00000001
def kFileShareWrite : UInt32 := 0x00000002
def kFileShareDelete : UInt32 := 0x00000004
def kFileOpen : UInt32 := 0x00000001
def kFileCreate : UInt32 := 0x00000002
def kFileOpenIf : UInt32 := 0x00000003
def kFileOverwriteIf : UInt32 := 0x00000005
def kFileDirectoryFile : UInt32 := 0x00000001
def kFileNonDirectoryFile : UInt32 := 0x00000040
def kFileOpenReparsePoint : UInt32 := 0x00200000
def kCloseFlagPostQueryAttrib : UInt16 := 0x0001
def kFileIdBothDirectoryInformation : UInt8 := 0x25
def kQueryDirectoryRestartScans : UInt8 := 0x01
def kSmb2WatchTree : UInt16 := 0x0001
def kOwnerSecurityInformation : UInt32 := 0x00000001
def kGroupSecurityInformation : UInt32 := 0x00000002
def kDaclSecurityInformation : UInt32 := 0x00000004
def kSaclSecurityInformation : UInt32 := 0x00000008
def kFileNeedEa : UInt8 := 0x80
def kIoctlIsFsctl : UInt32 := 0x00000001
def kIoReparseTagSymlink : UInt32 := 0xA000000C
def kSymlinkFlagRelative : UInt32 := 0x00000001
def kFsctlSetReparsePoint : UInt32 := 0x000900A4
def kFsctlSrvRequestResumeKey : UInt32 := 0x00140078
def kFsctlSrvCopyChunk : UInt32 := 0x001440F2

end SmbBrowser.Native
