import SmbBrowser.Qt.QString

/-!
# Data types of the core library

The records of `src/core` that the stores, the application services and the DFS
client read or pass on.
-/

namespace SmbBrowser.Core

open SmbBrowser.Qt

/-! ## Errors and results -/

/-- `ErrorCategory` (Error.h:9). -/
inductive ErrorCategory where
  | general
  | validation
  | storage
  | credentials
  | smb
  | transfer
  deriving DecidableEq, Repr

/-- `ErrorCode` (Error.h:18). -/
inductive ErrorCode where
  | none
  | invalidPath
  | dnsError
  | serverUnavailable
  | shareUnavailable
  | authenticationFailed
  | permissionDenied
  | timeout
  | protocolUnsupported
  | networkError
  | fileNotFound
  | alreadyExists
  | directoryNotEmpty
  | operationCancelled
  | localIoError
  | storageError
  | credentialStoreUnavailable
  | credentialNotFound
  | unknown
  deriving DecidableEq, Repr

/-- `toString(ErrorCode)` (Error.cpp:79). -/
def ErrorCode.toQString : ErrorCode → QString
  | .none => qStringLiteral "none"
  | .invalidPath => qStringLiteral "invalid_path"
  | .dnsError => qStringLiteral "dns_error"
  | .serverUnavailable => qStringLiteral "server_unavailable"
  | .shareUnavailable => qStringLiteral "share_unavailable"
  | .authenticationFailed => qStringLiteral "authentication_failed"
  | .permissionDenied => qStringLiteral "permission_denied"
  | .timeout => qStringLiteral "timeout"
  | .protocolUnsupported => qStringLiteral "protocol_unsupported"
  | .networkError => qStringLiteral "network_error"
  | .fileNotFound => qStringLiteral "file_not_found"
  | .alreadyExists => qStringLiteral "already_exists"
  | .directoryNotEmpty => qStringLiteral "directory_not_empty"
  | .operationCancelled => qStringLiteral "operation_cancelled"
  | .localIoError => qStringLiteral "local_io_error"
  | .storageError => qStringLiteral "storage_error"
  | .credentialStoreUnavailable => qStringLiteral "credential_store_unavailable"
  | .credentialNotFound => qStringLiteral "credential_not_found"
  | .unknown => qStringLiteral "unknown"

/-- `defaultUserMessage` (Error.cpp:83). -/
def defaultUserMessage : ErrorCode → QString
  | .none => []
  | .invalidPath => qStringLiteral "The path is not valid."
  | .dnsError => qStringLiteral "The server name could not be resolved."
  | .serverUnavailable => qStringLiteral "The server is unavailable."
  | .shareUnavailable => qStringLiteral "The shared folder is unavailable."
  | .authenticationFailed => qStringLiteral "The username or password is incorrect."
  | .permissionDenied =>
    qStringLiteral "You do not have permission to perform this operation."
  | .timeout => qStringLiteral "The operation timed out."
  | .protocolUnsupported => qStringLiteral "The SMB protocol version is not supported."
  | .networkError => qStringLiteral "A network error occurred."
  | .fileNotFound => qStringLiteral "The file or folder was not found."
  | .alreadyExists => qStringLiteral "A file or folder with this name already exists."
  | .directoryNotEmpty => qStringLiteral "The folder is not empty."
  | .operationCancelled => qStringLiteral "The operation was cancelled."
  | .localIoError => qStringLiteral "A local file system error occurred."
  | .storageError => qStringLiteral "The local database operation failed."
  | .credentialStoreUnavailable => qStringLiteral "The credential store is unavailable."
  | .credentialNotFound => qStringLiteral "The saved credential was not found."
  | .unknown => qStringLiteral "An unknown error occurred."

/-- `AppError` (Error.h:40). -/
structure AppError where
  code : ErrorCode := .none
  category : ErrorCategory := .general
  userMessage : QString := []
  sanitizedTechnicalDetails : QString := []
  retryable : Bool := false
  deriving DecidableEq

/-- `AppError::hasError` (Error.cpp:142). -/
def AppError.hasError (error : AppError) : Bool := error.code ≠ .none

/-- `AppError::fromCode` (Error.cpp:131). -/
def AppError.fromCode (code : ErrorCode) (category : ErrorCategory)
    (sanitizedTechnicalDetails : QString := []) (retryable : Bool := false) : AppError :=
  { code, category, userMessage := defaultUserMessage code, sanitizedTechnicalDetails,
    retryable }

/-- `Result` (Error.h:55): a value and an error, of which one counts. -/
structure Result (T : Type) where
  value : T
  error : AppError

namespace Result

variable {T : Type}

def success (value : T) : Result T := ⟨value, {}⟩

/-- A failure holds a default value. -/
def failure [Inhabited T] (error : AppError) : Result T := ⟨default, error⟩

def ok (r : Result T) : Bool := !r.error.hasError

end Result

/-! ## Connections -/

/-- `AuthType` (Connection.h:10). -/
inductive AuthType where
  | password
  | guest
  | anonymous
  | currentUser
  deriving DecidableEq, Repr

/-- `toString(AuthType)` (Connection.cpp:5). -/
def AuthType.toQString : AuthType → QString
  | .password => qStringLiteral "password"
  | .guest => qStringLiteral "guest"
  | .anonymous => qStringLiteral "anonymous"
  | .currentUser => qStringLiteral "current_user"

/-- `Connection` (Connection.h:17). -/
structure Connection where
  id : QString := []
  name : QString := []
  inputPath : QString := []
  normalizedUri : QString := []
  server : QString := []
  share : QString := []
  initialRemotePath : QString := []
  domain : QString := []
  username : QString := []
  authType : AuthType := .password
  credentialRef : QString := []
  comment : QString := []
  groupId : QString := []
  isFavorite : Bool := false
  lastOpenedAt : QDateTime := none
  createdAt : QDateTime := none
  updatedAt : QDateTime := none
  lastErrorCode : ErrorCode := .none
  lastErrorMessage : QString := []
  lastSuccessfulCheckAt : QDateTime := none
  deriving DecidableEq

instance : Inhabited Connection := ⟨{}⟩

/-- `ConnectionGroup` (ConnectionGroup.h:8). -/
structure ConnectionGroup where
  id : QString := []
  name : QString := []
  sortOrder : ℤ := 0
  createdAt : QDateTime := none
  updatedAt : QDateTime := none
  deriving DecidableEq

instance : Inhabited ConnectionGroup := ⟨{}⟩

/-! ## Remote files -/

/-- `RemoteFileType` (RemoteFileEntry.h:9). -/
inductive RemoteFileType where
  | file
  | directory
  | symlink
  | unknown
  deriving DecidableEq, Repr

/-- `RemoteFileEntry` (RemoteFileEntry.h:16). -/
structure RemoteFileEntry where
  name : QString
  remotePath : QString
  type : RemoteFileType := .unknown
  size : ℤ := 0
  modifiedAt : QDateTime := none
  attributes : QString := []
  permissions : QString := []
  isHidden : Bool := false
  deriving DecidableEq

/-! ## Referrals -/

/-- `DfsResolvedConnection` (DfsReferralResolver.h:13). -/
structure DfsResolvedConnection where
  connection : Connection
  ttlSeconds : ℤ := 300

/-- `DfsResolvedPath` (DfsReferralResolver.h:18). -/
structure DfsResolvedPath where
  connection : Connection
  remotePath : QString := []
  originalPathPrefix : QString := []
  targetPathPrefix : QString := []
  ttlSeconds : ℤ := 300

end SmbBrowser.Core
