import SmbBrowser.Native.Text

/-!
# SMB2 headers, NT statuses and Direct TCP frames

Models of the header codec, of the status tables, of the Direct TCP framing
and of the checks every response decoder starts with (native_smb/Protocol.cpp).

Results:
* `decodeSmb2SyncHeader_encode`: decoding an encoded header gives it back;
* `decodeDirectTcpPayload_encode`: unwrapping a frame gives its message back;
* `errorCodeForNtStatus_eq_none`: the two statuses mapped to `ErrorCode::None`.
-/

namespace SmbBrowser.Native

open SmbBrowser.Base

/-! ## NT statuses -/

/-- Model of `errorCodeForNtStatus` (Protocol.cpp:184). -/
def errorCodeForNtStatus (status : UInt32) : ErrorCode :=
  if status ∈ [kStatusSuccess, kStatusNotifyEnumDir] then .none
  else if status ∈ [kStatusLogonFailure, kStatusAccountRestriction, kStatusInvalidLogonHours,
      kStatusInvalidWorkstation, kStatusPasswordExpired, kStatusAccountDisabled] then
    .authenticationFailed
  else if status ∈ [kStatusAccessDenied, kStatusNetworkAccessDenied, kStatusSharingViolation] then
    .permissionDenied
  else if status ∈ [kStatusBadNetworkName, kStatusNetworkNameDeleted, kStatusPathNotCovered] then
    .shareUnavailable
  else if status ∈ [kStatusNoSuchFile, kStatusObjectNameNotFound, kStatusObjectPathNotFound] then
    .fileNotFound
  else if status = kStatusObjectNameCollision then .alreadyExists
  else if status = kStatusDirectoryNotEmpty then .directoryNotEmpty
  else if status ∈ [kStatusObjectPathSyntaxBad, kStatusNotADirectory, kStatusFileIsADirectory] then
    .invalidPath
  else if status ∈ [kStatusInvalidParameter, kStatusInvalidDeviceRequest] then
    .unsupportedCapability
  else if status = kStatusIoTimeout then .timeout
  else if status = kStatusNotSupported then .protocolUnsupported
  else .networkError

/-- The table of `ntStatusName` (Protocol.cpp:228). -/
def ntStatusNames : List (UInt32 × String) :=
  [(kStatusSuccess, "STATUS_SUCCESS"),
   (kStatusNotifyEnumDir, "STATUS_NOTIFY_ENUM_DIR"),
   (kStatusNoSuchFile, "STATUS_NO_SUCH_FILE"),
   (kStatusAccessDenied, "STATUS_ACCESS_DENIED"),
   (kStatusObjectNameNotFound, "STATUS_OBJECT_NAME_NOT_FOUND"),
   (kStatusObjectNameCollision, "STATUS_OBJECT_NAME_COLLISION"),
   (kStatusObjectPathNotFound, "STATUS_OBJECT_PATH_NOT_FOUND"),
   (kStatusObjectPathSyntaxBad, "STATUS_OBJECT_PATH_SYNTAX_BAD"),
   (kStatusInvalidParameter, "STATUS_INVALID_PARAMETER"),
   (kStatusInvalidDeviceRequest, "STATUS_INVALID_DEVICE_REQUEST"),
   (kStatusMoreProcessingRequired, "STATUS_MORE_PROCESSING_REQUIRED"),
   (kStatusSharingViolation, "STATUS_SHARING_VIOLATION"),
   (kStatusLogonFailure, "STATUS_LOGON_FAILURE"),
   (kStatusAccountRestriction, "STATUS_ACCOUNT_RESTRICTION"),
   (kStatusInvalidLogonHours, "STATUS_INVALID_LOGON_HOURS"),
   (kStatusInvalidWorkstation, "STATUS_INVALID_WORKSTATION"),
   (kStatusPasswordExpired, "STATUS_PASSWORD_EXPIRED"),
   (kStatusAccountDisabled, "STATUS_ACCOUNT_DISABLED"),
   (kStatusIoTimeout, "STATUS_IO_TIMEOUT"),
   (kStatusFileIsADirectory, "STATUS_FILE_IS_A_DIRECTORY"),
   (kStatusNotSupported, "STATUS_NOT_SUPPORTED"),
   (kStatusNetworkNameDeleted, "STATUS_NETWORK_NAME_DELETED"),
   (kStatusNetworkAccessDenied, "STATUS_NETWORK_ACCESS_DENIED"),
   (kStatusBadNetworkName, "STATUS_BAD_NETWORK_NAME"),
   (kStatusDirectoryNotEmpty, "STATUS_DIRECTORY_NOT_EMPTY"),
   (kStatusNotADirectory, "STATUS_NOT_A_DIRECTORY"),
   (kStatusPathNotCovered, "STATUS_PATH_NOT_COVERED"),
   (kStatusNoMoreFiles, "STATUS_NO_MORE_FILES")]

/-- Model of `ntStatusName` (Protocol.cpp:228). -/
def ntStatusName (status : UInt32) : String :=
  (ntStatusNames.lookup status).getD "STATUS_UNMAPPED"

/-- A status as eight upper-case hexadecimal digits. -/
def statusHex (status : UInt32) : String :=
  String.ofList (((Nat.toDigits 16 status.toNat).map Char.toUpper).leftpad 8 '0')

/-- Model of `ntStatusFailureMessage` (Protocol.cpp:146). -/
def ntStatusFailureMessage (status : UInt32) (operation : String) : String :=
  operation ++ " failed with " ++ ntStatusName status ++ " (0x" ++ statusHex status ++ ")."

/-- Model of `failureFromNtStatus` (Protocol.cpp:156). -/
def failureFromNtStatus {α : Type} (status : UInt32) (operation : String) : DecodeResult α :=
  failure (errorCodeForNtStatus status) (ntStatusFailureMessage status operation)

/-- The statuses mapped to `ErrorCode::None`. -/
theorem errorCodeForNtStatus_eq_none {status : UInt32} :
    errorCodeForNtStatus status = .none ↔
      status = kStatusSuccess ∨ status = kStatusNotifyEnumDir := by
  unfold errorCodeForNtStatus
  split_ifs with h <;> simp_all

/-! ## The 64-byte header -/

/-- Model of `encodeSmb2SyncHeader` (Protocol.cpp:399). -/
def encodeSmb2SyncHeader (header : Smb2SyncHeader) : ByteVector :=
  u32Le kSmb2ProtocolId ++ (u16Le kSmb2HeaderStructureSize ++ (u16Le header.creditCharge ++
  (u32Le header.status ++ (u16Le header.command.code ++ (u16Le header.creditRequest ++
  (u32Le header.flags ++ (u32Le header.nextCommand ++ (u64Le header.messageId ++
  (u32Le kSmb2ProcessId ++ (u32Le header.treeId ++ (u64Le header.sessionId ++
  header.signature.toList)))))))))))

/-- Model of `decodeSmb2SyncHeader` (Protocol.cpp:420). -/
def decodeSmb2SyncHeader (data : ByteVector) : DecodeResult Smb2SyncHeader := do
  if data.length < kSmb2HeaderSize then
    failure .ioError "SMB2 header buffer is shorter than 64 bytes."
  else
    let protocolId ← readU32Le data 0
    if protocolId ≠ kSmb2ProtocolId then
      failure .protocolUnsupported "Invalid SMB2 protocol identifier."
    else
      let structureSize ← readU16Le data 4
      if structureSize ≠ kSmb2HeaderStructureSize then
        failure .protocolUnsupported "Invalid SMB2 header structure size."
      else
        let signature ← readBytes data 48 16
        return {
          creditCharge := ← readU16Le data 6
          status := ← readU32Le data 8
          command := ⟨← readU16Le data 12⟩
          creditRequest := ← readU16Le data 14
          flags := ← readU32Le data 16
          nextCommand := ← readU32Le data 20
          messageId := ← readU64Le data 24
          treeId := ← readU32Le data 36
          sessionId := ← readU64Le data 40
          signature := Vector.ofFn fun i => signature[i.val]?.getD 0 }

@[simp] theorem length_encodeSmb2SyncHeader (header : Smb2SyncHeader) :
    (encodeSmb2SyncHeader header).length = 64 := by
  simp [encodeSmb2SyncHeader]

/-- **Header round trip**: decoding an encoded header gives it back, whatever
    follows it. -/
theorem decodeSmb2SyncHeader_encode (header : Smb2SyncHeader) (rest : ByteVector) :
    decodeSmb2SyncHeader (encodeSmb2SyncHeader header ++ rest) = .ok header := by
  have hlen : ¬ (encodeSmb2SyncHeader header ++ rest).length < kSmb2HeaderSize := by
    rw [List.length_append, length_encodeSmb2SyncHeader, kSmb2HeaderSize]; omega
  unfold decodeSmb2SyncHeader
  rw [if_neg hlen]
  simp only [encodeSmb2SyncHeader, List.append_assoc, readU16Le, readU32Le, readU64Le, readBytes]
  simp (disch := simp) only [slice_skip, slice_here, length_u16Le, length_u32Le, length_u64Le,
    Nat.reduceSub, Nat.sub_self]
  simp [Pure.pure, Except.pure, Bind.bind, Except.bind]

/-! ## Direct TCP frames -/

/-- Model of `encodeDirectTcpFrame` (Protocol.cpp:2092). -/
def encodeDirectTcpFrame (smb2Message : ByteVector) : Except Exn ByteVector :=
  if smb2Message.length > kMaxDirectTcpPayloadLength then
    .error (.invalidArgument "SMB2 Direct TCP payload is too large.")
  else
    .ok (0 :: (beBytes 3 smb2Message.length ++ smb2Message))

/-- A message in its frame. -/
def framed (smb2Message : ByteVector) : ByteVector :=
  0 :: (beBytes 3 smb2Message.length ++ smb2Message)

theorem encodeDirectTcpFrame_framed {message : ByteVector} (h : message.length ≤ 0x00FFFFFF) :
    encodeDirectTcpFrame message = .ok (framed message) := by
  rw [encodeDirectTcpFrame, if_neg (by rw [kMaxDirectTcpPayloadLength]; omega)]
  rfl

/-- Model of `decodeDirectTcpPayloadLength` (Protocol.cpp:2109). -/
def decodeDirectTcpPayloadLength (data : ByteVector) : DecodeResult ℕ := do
  if data.length < kDirectTcpHeaderSize then
    failure .ioError "SMB2 Direct TCP header buffer is shorter than 4 bytes."
  else if (← readU8 data 0) ≠ 0 then
    failure .protocolUnsupported "Invalid SMB2 Direct TCP header marker."
  else
    return beValue (← readBytes data 1 3)

/-- Model of `decodeDirectTcpPayload` (Protocol.cpp:2133). -/
def decodeDirectTcpPayload (bytes : ByteVector) : DecodeResult ByteVector :=
  match decodeDirectTcpPayloadLength bytes with
  | .error e => failureFrom e
  | .ok payloadLength =>
    if bytes.length < kDirectTcpHeaderSize + payloadLength then
      failure .ioError "SMB2 Direct TCP frame is shorter than declared payload."
    else
      readBytes bytes kDirectTcpHeaderSize payloadLength

theorem length_of_encodeDirectTcpFrame {message frame : ByteVector}
    (h : encodeDirectTcpFrame message = .ok frame) : message.length ≤ 0x00FFFFFF := by
  unfold encodeDirectTcpFrame kMaxDirectTcpPayloadLength at h
  split at h
  · cases h
  · omega

/-- A frame is the length field followed by the message. -/
theorem eq_of_encodeDirectTcpFrame {message frame : ByteVector}
    (h : encodeDirectTcpFrame message = .ok frame) :
    frame = [0] ++ (beBytes 3 message.length ++ message) := by
  unfold encodeDirectTcpFrame at h
  split at h
  · cases h
  · cases h
    rfl

/-- **Framing round trip**: unwrapping a frame gives its message back. -/
theorem decodeDirectTcpPayload_encode {message frame : ByteVector}
    (h : encodeDirectTcpFrame message = .ok frame) : decodeDirectTcpPayload frame = .ok message := by
  have hlen := length_of_encodeDirectTcpFrame h
  have hmod : message.length % 256 ^ 3 = message.length := Nat.mod_eq_of_lt (by omega)
  obtain rfl := eq_of_encodeDirectTcpFrame h
  have hmarker : readU8 ([0] ++ (beBytes 3 message.length ++ message)) 0 = .ok 0 := by
    rw [readU8, readBytes_here _ (show [(0 : UInt8)].length = 1 from rfl)]; rfl
  have hfield : readBytes ([0] ++ (beBytes 3 message.length ++ message)) 1 3 =
      .ok (beBytes 3 message.length) := by
    rw [readBytes_skip _ (by simp)]
    exact readBytes_here _ (length_beBytes ..)
  have hmessage : readBytes ([0] ++ (beBytes 3 message.length ++ message)) 4 message.length =
      .ok message := by
    rw [readBytes_skip _ (by simp), readBytes_skip _ (by simp)]
    simp
  have hpayload : decodeDirectTcpPayloadLength ([0] ++ (beBytes 3 message.length ++ message)) =
      .ok message.length := by
    unfold decodeDirectTcpPayloadLength
    rw [if_neg (by simp [kDirectTcpHeaderSize]), hmarker, hfield]
    show Except.ok (beValue (beBytes 3 message.length)) = _
    rw [beValue_beBytes, hmod]
  have hlong : ¬ ([0] ++ (beBytes 3 message.length ++ message)).length <
      kDirectTcpHeaderSize + message.length := by
    simp only [List.length_append, length_beBytes, kDirectTcpHeaderSize, List.length_cons,
      List.length_nil]
    omega
  unfold decodeDirectTcpPayload
  rw [hpayload]
  show (if _ then _ else _) = _
  rw [if_neg hlong]
  exact hmessage

/-! ## The checks every response decoder makes -/

/-- What a response decoder expects of a message and the texts it fails with. -/
structure ResponseFormat where
  command : Command
  notThisResponse : String
  missingFlag : String
  operation : String
  accepted : List UInt32
  fixedSize : ℕ
  tooShort : String
  structureSize : UInt16
  invalidStructureSize : String

/-- The header checks of `decode*Response`: command, server flag and status. -/
def decodeResponseHeader (format : ResponseFormat) (data : ByteVector) :
    DecodeResult Smb2SyncHeader :=
  match decodeSmb2SyncHeader data with
  | .error e => failureFrom e
  | .ok header =>
    if header.command ≠ format.command then
      failure .protocolUnsupported format.notThisResponse
    else if header.flags &&& kFlagServerToRedir = 0 then
      failure .protocolUnsupported format.missingFlag
    else if header.status ∉ format.accepted then
      failureFromNtStatus header.status format.operation
    else
      .ok header

/-- The size checks of `decode*Response` on the fixed part of the body. -/
def checkResponseBody (format : ResponseFormat) (data : ByteVector) : DecodeResult Unit := do
  if data.length < kSmb2HeaderSize + format.fixedSize then
    failure .ioError format.tooShort
  else
    let structureSize ← readU16Le data kSmb2HeaderSize
    if structureSize ≠ format.structureSize then
      failure .protocolUnsupported format.invalidStructureSize
    else
      return ()

/-- The checks of a response whose fixed part every accepted status carries. -/
def decodeResponseFixed (format : ResponseFormat) (data : ByteVector) :
    DecodeResult Smb2SyncHeader := do
  let header ← decodeResponseHeader format data
  checkResponseBody format data
  return header

end SmbBrowser.Native
