import SmbBrowser.Native.Requests

/-!
# SMB2 response decoders

Models of the `decode*Response` functions of native_smb/Protocol.cpp and of the
decoders of the information buffers.  Offsets are offsets into the message, as
in the source; the fixed part of a body starts at byte 64.
-/

namespace SmbBrowser.Native

open SmbBrowser.Base

/-! ## Headers of accepted responses -/

section

variable {format : ResponseFormat} {data : ByteVector} {header : Smb2SyncHeader}

theorem decodeResponseHeader_eq_ok :
    decodeResponseHeader format data = .ok header ↔
      decodeSmb2SyncHeader data = .ok header ∧ header.command = format.command ∧
        header.flags &&& kFlagServerToRedir ≠ 0 ∧ header.status ∈ format.accepted := by
  rw [decodeResponseHeader]
  cases decodeSmb2SyncHeader data with
  | error e => simp [failureFrom, failure]
  | ok header' =>
    by_cases hcommand : header'.command = format.command
    swap
    · simp only [if_pos hcommand, failure]
      grind
    by_cases hflag : header'.flags &&& kFlagServerToRedir = 0
    · simp only [hcommand, hflag, failure]
      grind
    by_cases hstatus : header'.status ∈ format.accepted
    swap
    · simp only [hcommand, hflag, hstatus, failureFromNtStatus, failure]
      grind
    simp only [hcommand, hflag, hstatus]
    grind

theorem header_of_decodeResponseFixed (h : decodeResponseFixed format data = .ok header) :
    decodeSmb2SyncHeader data = .ok header ∧ header.command = format.command ∧
      header.flags &&& kFlagServerToRedir ≠ 0 ∧ header.status ∈ format.accepted := by
  rw [decodeResponseFixed] at h
  obtain ⟨header', hheader, h⟩ := bind_eq_ok.1 h
  obtain ⟨-, -, h⟩ := bind_eq_ok.1 h
  rw [pure_eq_ok] at h
  rw [← h]
  exact decodeResponseHeader_eq_ok.1 hheader

end

/-! ## NEGOTIATE, SESSION_SETUP and TREE_CONNECT -/

def negotiateFormat : ResponseFormat where
  command := .negotiate
  notThisResponse := "SMB2 response is not a NEGOTIATE response."
  missingFlag := "SMB2 NEGOTIATE response is missing server-to-redirector flag."
  operation := "SMB2 NEGOTIATE"
  accepted := [kStatusSuccess]
  fixedSize := 64
  tooShort := "SMB2 NEGOTIATE response buffer is shorter than fixed response."
  structureSize := 65
  invalidStructureSize := "Invalid SMB2 NEGOTIATE response structure size."

/-- Model of `decodeNegotiateResponse` (Protocol.cpp:511). -/
def decodeNegotiateResponse (data : ByteVector) (offeredDialects : List Dialect) :
    DecodeResult NegotiateResponse := do
  let _ ← decodeResponseFixed negotiateFormat data
  let dialect : Dialect := ⟨← readU16Le data (64 + 4)⟩
  if dialect ∉ offeredDialects then
    failure .protocolUnsupported "Server selected an SMB dialect that was not offered."
  else
    let securityBufferOffset ← readU16Le data (64 + 56)
    let securityBufferLength ← readU16Le data (64 + 58)
    let securityBufferEnd := securityBufferOffset.toNat + securityBufferLength.toNat
    if securityBufferOffset.toNat < kSmb2HeaderSize ∨ securityBufferEnd > data.length then
      failure .ioError "SMB2 NEGOTIATE response security buffer is out of bounds."
    else
      return {
        securityMode := ← readU16Le data (64 + 2)
        dialect
        negotiateContextCount := ← readU16Le data (64 + 6)
        serverGuid := ← readBytes data (64 + 8) 16
        capabilities := ← readU32Le data (64 + 24)
        maxTransactSize := ← readU32Le data (64 + 28)
        maxReadSize := ← readU32Le data (64 + 32)
        maxWriteSize := ← readU32Le data (64 + 36)
        systemTime := ← readU64Le data (64 + 40)
        serverStartTime := ← readU64Le data (64 + 48)
        negotiateContextOffset := ← readU32Le data (64 + 60)
        securityBuffer :=
          ← readBytes data securityBufferOffset.toNat securityBufferLength.toNat }

def sessionSetupFormat : ResponseFormat where
  command := .sessionSetup
  notThisResponse := "SMB2 response is not a SESSION_SETUP response."
  missingFlag := "SMB2 SESSION_SETUP response is missing server-to-redirector flag."
  operation := "SMB2 SESSION_SETUP"
  accepted := [kStatusSuccess, kStatusMoreProcessingRequired]
  fixedSize := 8
  tooShort := "SMB2 SESSION_SETUP response buffer is shorter than fixed response."
  structureSize := 9
  invalidStructureSize := "Invalid SMB2 SESSION_SETUP response structure size."

/-- The range check of an optional buffer of a response: an empty buffer may
    lie anywhere. -/
def bufferInBounds (data : ByteVector) (offset length : ℕ) : Bool :=
  length = 0 || (kSmb2HeaderSize ≤ offset && offset + length ≤ data.length)

/-- An optional buffer of a response, empty when its length is zero. -/
def readBuffer (data : ByteVector) (offset length : ℕ) : DecodeResult ByteVector :=
  if length = 0 then .ok [] else readBytes data offset length

/-- Model of `decodeSessionSetupResponse` (Protocol.cpp:624). -/
def decodeSessionSetupResponse (data : ByteVector) : DecodeResult SessionSetupResponse := do
  let header ← decodeResponseFixed sessionSetupFormat data
  let securityBufferOffset ← readU16Le data (64 + 4)
  let securityBufferLength ← readU16Le data (64 + 6)
  if ¬ bufferInBounds data securityBufferOffset.toNat securityBufferLength.toNat then
    failure .ioError "SMB2 SESSION_SETUP response security buffer is out of bounds."
  else
    let sessionFlags ← readU16Le data (64 + 2)
    return {
      status := header.status
      sessionId := header.sessionId
      sessionFlags
      moreProcessingRequired := header.status = kStatusMoreProcessingRequired
      guestSession := sessionFlags &&& kSessionFlagIsGuest ≠ 0
      nullSession := sessionFlags &&& kSessionFlagIsNull ≠ 0
      encryptData := sessionFlags &&& kSessionFlagEncryptData ≠ 0
      securityBuffer := ← readBuffer data securityBufferOffset.toNat securityBufferLength.toNat }

def treeConnectFormat : ResponseFormat where
  command := .treeConnect
  notThisResponse := "SMB2 response is not a TREE_CONNECT response."
  missingFlag := "SMB2 TREE_CONNECT response is missing server-to-redirector flag."
  operation := "SMB2 TREE_CONNECT"
  accepted := [kStatusSuccess]
  fixedSize := 16
  tooShort := "SMB2 TREE_CONNECT response buffer is shorter than fixed response."
  structureSize := 16
  invalidStructureSize := "Invalid SMB2 TREE_CONNECT response structure size."

/-- Model of `decodeTreeConnectResponse` (Protocol.cpp:720). -/
def decodeTreeConnectResponse (data : ByteVector) : DecodeResult TreeConnectResponse := do
  let _ ← decodeResponseFixed treeConnectFormat data
  let shareFlags ← readU32Le data (64 + 4)
  let capabilities ← readU32Le data (64 + 8)
  return {
    shareType := ⟨← readU8 data (64 + 2)⟩
    shareFlags
    capabilities
    maximalAccess := ← readU32Le data (64 + 12)
    isDfs := shareFlags &&& kShareFlagDfs ≠ 0 || capabilities &&& kShareCapabilityDfs ≠ 0
    isDfsRoot := shareFlags &&& kShareFlagDfsRoot ≠ 0
    requiresEncryption := shareFlags &&& kShareFlagEncryptData ≠ 0 }

def treeDisconnectFormat : ResponseFormat where
  command := .treeDisconnect
  notThisResponse := "SMB2 response is not a TREE_DISCONNECT response."
  missingFlag := "SMB2 TREE_DISCONNECT response is missing server-to-redirector flag."
  operation := "SMB2 TREE_DISCONNECT"
  accepted := [kStatusSuccess]
  fixedSize := 4
  tooShort := "SMB2 TREE_DISCONNECT response buffer is shorter than fixed response."
  structureSize := 4
  invalidStructureSize := "Invalid SMB2 TREE_DISCONNECT response structure size."

/-- Model of `decodeTreeDisconnectResponse` (Protocol.cpp:789). -/
def decodeTreeDisconnectResponse (data : ByteVector) : DecodeResult StatusResponse := do
  let header ← decodeResponseFixed treeDisconnectFormat data
  return { status := header.status }

def logoffFormat : ResponseFormat where
  command := .logoff
  notThisResponse := "SMB2 response is not a LOGOFF response."
  missingFlag := "SMB2 LOGOFF response is missing server-to-redirector flag."
  operation := "SMB2 LOGOFF"
  accepted := [kStatusSuccess]
  fixedSize := 4
  tooShort := "SMB2 LOGOFF response buffer is shorter than fixed response."
  structureSize := 4
  invalidStructureSize := "Invalid SMB2 LOGOFF response structure size."

/-- Model of `decodeLogoffResponse` (Protocol.cpp:848). -/
def decodeLogoffResponse (data : ByteVector) : DecodeResult StatusResponse := do
  let header ← decodeResponseFixed logoffFormat data
  return { status := header.status }

/-! ## Responses on a tree -/

def createFormat : ResponseFormat where
  command := .create
  notThisResponse := "SMB2 response is not a CREATE response."
  missingFlag := "SMB2 CREATE response is missing server-to-redirector flag."
  operation := "SMB2 CREATE"
  accepted := [kStatusSuccess]
  fixedSize := 88
  tooShort := "SMB2 CREATE response buffer is shorter than fixed response."
  structureSize := 89
  invalidStructureSize := "Invalid SMB2 CREATE response structure size."

/-- Model of `decodeCreateResponse` (Protocol.cpp:941). -/
def decodeCreateResponse (data : ByteVector) : DecodeResult CreateResponse := do
  let _ ← decodeResponseFixed createFormat data
  let flags ← readU8 data (64 + 3)
  let fileAttributes ← readU32Le data (64 + 56)
  return {
    oplockLevel := ← readU8 data (64 + 2)
    flags
    createAction := ← readU32Le data (64 + 4)
    creationTime := ← readU64Le data (64 + 8)
    lastAccessTime := ← readU64Le data (64 + 16)
    lastWriteTime := ← readU64Le data (64 + 24)
    changeTime := ← readU64Le data (64 + 32)
    allocationSize := ← readU64Le data (64 + 40)
    endOfFile := ← readU64Le data (64 + 48)
    fileAttributes
    fileId := {
      persistent := ← readU64Le data (64 + 64)
      volatileId := ← readU64Le data (64 + 72) }
    isReparsePoint := flags &&& 0x01 ≠ 0 || fileAttributes &&& kFileAttributeReparsePoint ≠ 0 }

def closeFormat : ResponseFormat where
  command := .close
  notThisResponse := "SMB2 response is not a CLOSE response."
  missingFlag := "SMB2 CLOSE response is missing server-to-redirector flag."
  operation := "SMB2 CLOSE"
  accepted := [kStatusSuccess]
  fixedSize := 60
  tooShort := "SMB2 CLOSE response buffer is shorter than fixed response."
  structureSize := 60
  invalidStructureSize := "Invalid SMB2 CLOSE response structure size."

/-- Model of `decodeCloseResponse` (Protocol.cpp:1017). -/
def decodeCloseResponse (data : ByteVector) : DecodeResult CloseResponse := do
  let header ← decodeResponseFixed closeFormat data
  let flags ← readU16Le data (64 + 2)
  return {
    status := header.status
    flags
    creationTime := ← readU64Le data (64 + 8)
    lastAccessTime := ← readU64Le data (64 + 16)
    lastWriteTime := ← readU64Le data (64 + 24)
    changeTime := ← readU64Le data (64 + 32)
    allocationSize := ← readU64Le data (64 + 40)
    endOfFile := ← readU64Le data (64 + 48)
    fileAttributes := ← readU32Le data (64 + 56)
    hasPostQueryAttributes := flags &&& kCloseFlagPostQueryAttrib ≠ 0 }

def readFormat : ResponseFormat where
  command := .read
  notThisResponse := "SMB2 response is not a READ response."
  missingFlag := "SMB2 READ response is missing server-to-redirector flag."
  operation := "SMB2 READ"
  accepted := [kStatusSuccess]
  fixedSize := 16
  tooShort := "SMB2 READ response buffer is shorter than fixed response."
  structureSize := 17
  invalidStructureSize := "Invalid SMB2 READ response structure size."

/-- Model of `decodeReadResponse` (Protocol.cpp:1115). -/
def decodeReadResponse (data : ByteVector) : DecodeResult ReadResponse := do
  let header ← decodeResponseFixed readFormat data
  let dataOffset ← readU8 data (64 + 2)
  let dataLength ← readU32Le data (64 + 4)
  if ¬ bufferInBounds data dataOffset.toNat dataLength.toNat then
    failure .ioError "SMB2 READ response data is out of bounds."
  else
    return {
      status := header.status
      dataOffset
      dataRemaining := ← readU32Le data (64 + 8)
      flags := ((← readU32Le data (64 + 12)) &&& 0xFF).toUInt8
      data := ← readBuffer data dataOffset.toNat dataLength.toNat }

def writeFormat : ResponseFormat where
  command := .write
  notThisResponse := "SMB2 response is not a WRITE response."
  missingFlag := "SMB2 WRITE response is missing server-to-redirector flag."
  operation := "SMB2 WRITE"
  accepted := [kStatusSuccess]
  fixedSize := 16
  tooShort := "SMB2 WRITE response buffer is shorter than fixed response."
  structureSize := 17
  invalidStructureSize := "Invalid SMB2 WRITE response structure size."

/-- Model of `decodeWriteResponse` (Protocol.cpp:1222). -/
def decodeWriteResponse (data : ByteVector) : DecodeResult WriteResponse := do
  let header ← decodeResponseFixed writeFormat data
  return {
    status := header.status
    count := ← readU32Le data (64 + 4)
    remaining := ← readU32Le data (64 + 8)
    writeChannelInfoOffset := ← readU16Le data (64 + 12)
    writeChannelInfoLength := ← readU16Le data (64 + 14) }

def ioctlFormat : ResponseFormat where
  command := .ioctl
  notThisResponse := "SMB2 response is not an IOCTL response."
  missingFlag := "SMB2 IOCTL response is missing server-to-redirector flag."
  operation := "SMB2 IOCTL"
  accepted := [kStatusSuccess]
  fixedSize := 48
  tooShort := "SMB2 IOCTL response buffer is shorter than fixed response."
  structureSize := 49
  invalidStructureSize := "Invalid SMB2 IOCTL response structure size."

/-- Model of `decodeIoctlResponse` (Protocol.cpp:1307). -/
def decodeIoctlResponse (data : ByteVector) : DecodeResult IoctlResponse := do
  let header ← decodeResponseFixed ioctlFormat data
  let inputOffset ← readU32Le data (64 + 24)
  let inputCount ← readU32Le data (64 + 28)
  let outputOffset ← readU32Le data (64 + 32)
  let outputCount ← readU32Le data (64 + 36)
  if ¬ (bufferInBounds data inputOffset.toNat inputCount.toNat ∧
      bufferInBounds data outputOffset.toNat outputCount.toNat) then
    failure .ioError "SMB2 IOCTL response buffer is out of bounds."
  else
    return {
      status := header.status
      ctlCode := ← readU32Le data (64 + 4)
      fileId := {
        persistent := ← readU64Le data (64 + 8)
        volatileId := ← readU64Le data (64 + 16) }
      flags := ← readU32Le data (64 + 40)
      input := ← readBuffer data inputOffset.toNat inputCount.toNat
      output := ← readBuffer data outputOffset.toNat outputCount.toNat }

/-- Model of `decodeSrvCopyChunkResponse` (Protocol.cpp:1401). -/
def decodeSrvCopyChunkResponse (bytes : ByteVector) : DecodeResult CopyChunkResponse := do
  if bytes.length < 12 then
    failure .ioError "SRV_COPYCHUNK response buffer is shorter than fixed response."
  else
    return {
      chunksWritten := ← readU32Le bytes 0
      chunkBytesWritten := ← readU32Le bytes 4
      totalBytesWritten := ← readU32Le bytes 8 }

def setInfoFormat : ResponseFormat where
  command := .setInfo
  notThisResponse := "SMB2 response is not a SET_INFO response."
  missingFlag := "SMB2 SET_INFO response is missing server-to-redirector flag."
  operation := "SMB2 SET_INFO"
  accepted := [kStatusSuccess]
  fixedSize := 2
  tooShort := "SMB2 SET_INFO response buffer is shorter than fixed response."
  structureSize := 2
  invalidStructureSize := "Invalid SMB2 SET_INFO response structure size."

/-- Model of `decodeSetInfoResponse` (Protocol.cpp:1482). -/
def decodeSetInfoResponse (data : ByteVector) : DecodeResult StatusResponse := do
  let header ← decodeResponseFixed setInfoFormat data
  return { status := header.status }

def queryInfoFormat : ResponseFormat where
  command := .queryInfo
  notThisResponse := "SMB2 response is not a QUERY_INFO response."
  missingFlag := "SMB2 QUERY_INFO response is missing server-to-redirector flag."
  operation := "SMB2 QUERY_INFO"
  accepted := [kStatusSuccess]
  fixedSize := 8
  tooShort := "SMB2 QUERY_INFO response buffer is shorter than fixed response."
  structureSize := 9
  invalidStructureSize := "Invalid SMB2 QUERY_INFO response structure size."

/-- Model of `decodeQueryInfoResponse` (Protocol.cpp:1561). -/
def decodeQueryInfoResponse (data : ByteVector) : DecodeResult QueryInfoResponse := do
  let header ← decodeResponseFixed queryInfoFormat data
  let outputOffset ← readU16Le data (64 + 2)
  let outputLength ← readU32Le data (64 + 4)
  if ¬ bufferInBounds data outputOffset.toNat outputLength.toNat then
    failure .ioError "SMB2 QUERY_INFO response output buffer is out of bounds."
  else
    return {
      status := header.status
      outputBufferOffset := outputOffset
      buffer := ← readBuffer data outputOffset.toNat outputLength.toNat }

/-- Model of `decodeFileBasicInformation` (Protocol.cpp:1632). -/
def decodeFileBasicInformation (bytes : ByteVector) : DecodeResult FileBasicInformation := do
  if bytes.length < 40 then
    failure .ioError "FILE_BASIC_INFORMATION buffer is shorter than 40 bytes."
  else
    return {
      creationTime := ← readU64Le bytes 0
      lastAccessTime := ← readU64Le bytes 8
      lastWriteTime := ← readU64Le bytes 16
      changeTime := ← readU64Le bytes 24
      fileAttributes := ← readU32Le bytes 32 }

/-- Model of `decodeFileStandardInformation` (Protocol.cpp:1649). -/
def decodeFileStandardInformation (bytes : ByteVector) :
    DecodeResult FileStandardInformation := do
  if bytes.length < 24 then
    failure .ioError "FILE_STANDARD_INFORMATION buffer is shorter than 24 bytes."
  else
    return {
      allocationSize := ← readU64Le bytes 0
      endOfFile := ← readU64Le bytes 8
      numberOfLinks := ← readU32Le bytes 16
      deletePending := (← readU8 bytes 20) ≠ 0
      directory := (← readU8 bytes 21) ≠ 0 }

/-! ## Linked entries

Each loop below moves on by a positive offset inside the buffer, so the length
of the buffer bounds its turns. -/

/-- The loop of `decodeFileFullEaInformation` (Protocol.cpp:1710–1752). -/
def decodeFullEaLoop (bytes : ByteVector) :
    ℕ → ℕ → DecodeResult (List FileFullEaInformation)
  | 0, _ => .ok []
  | fuel + 1, offset => do
    if bytes.length ≤ offset then
      return []
    else if bytes.length - offset < 8 then
      failure .ioError "FILE_FULL_EA_INFORMATION entry is shorter than fixed header."
    else
      let nextEntryOffset ← readU32Le bytes offset
      let flags ← readU8 bytes (offset + 4)
      let nameLength ← readU8 bytes (offset + 5)
      let valueLength ← readU16Le bytes (offset + 6)
      let nameOffset := offset + 8
      let valueOffset := nameOffset + nameLength.toNat + 1
      let entryEnd := valueOffset + valueLength.toNat
      if entryEnd > bytes.length then
        failure .ioError "FILE_FULL_EA_INFORMATION entry payload is out of bounds."
      else if (← readU8 bytes (nameOffset + nameLength.toNat)) ≠ 0 then
        failure .protocolUnsupported
          "FILE_FULL_EA_INFORMATION entry name is not NUL-terminated."
      else
        let entry : FileFullEaInformation := {
          name := ← readBytes bytes nameOffset nameLength.toNat
          value := ← readBytes bytes valueOffset valueLength.toNat
          needEa := flags &&& kFileNeedEa ≠ 0 }
        if nextEntryOffset = 0 then
          return [entry]
        else if nextEntryOffset < 8 ∨ offset + nextEntryOffset.toNat > bytes.length then
          failure .ioError "FILE_FULL_EA_INFORMATION next entry offset is invalid."
        else
          return entry :: (← decodeFullEaLoop bytes fuel (offset + nextEntryOffset.toNat))

/-- Model of `decodeFileFullEaInformation` (Protocol.cpp:1707). -/
def decodeFileFullEaInformation (bytes : ByteVector) :
    DecodeResult (List FileFullEaInformation) :=
  decodeFullEaLoop bytes bytes.length 0

def queryDirectoryFormat : ResponseFormat where
  command := .queryDirectory
  notThisResponse := "SMB2 response is not a QUERY_DIRECTORY response."
  missingFlag := "SMB2 QUERY_DIRECTORY response is missing server-to-redirector flag."
  operation := "SMB2 QUERY_DIRECTORY"
  accepted := [kStatusSuccess, kStatusNoMoreFiles]
  fixedSize := 8
  tooShort := "SMB2 QUERY_DIRECTORY response buffer is shorter than fixed response."
  structureSize := 9
  invalidStructureSize := "Invalid SMB2 QUERY_DIRECTORY response structure size."

/-- The entry at `entryOffset` of a QUERY_DIRECTORY buffer that ends at
    `entriesEnd`, and its next-entry offset (Protocol.cpp:1898–1950).  The sum
    `104 + fileNameLength` is a 32-bit one. -/
def decodeDirectoryEntry (data : ByteVector) (entryOffset entriesEnd : ℕ) :
    DecodeResult (DirectoryEntry × UInt32) := do
  if entriesEnd - entryOffset < 104 then
    failure .ioError "FILE_ID_BOTH_DIR_INFORMATION entry is shorter than fixed part."
  else
    let nextEntryOffset ← readU32Le data entryOffset
    let fileNameLength ← readU32Le data (entryOffset + 60)
    let fileNameOffset := entryOffset + 104
    if fileNameOffset + fileNameLength.toNat > entriesEnd then
      failure .ioError "FILE_ID_BOTH_DIR_INFORMATION file name is out of bounds."
    else if nextEntryOffset ≠ 0 ∧ (nextEntryOffset < 104 + fileNameLength ∨
        entryOffset + nextEntryOffset.toNat > entriesEnd) then
      failure .ioError "FILE_ID_BOTH_DIR_INFORMATION next entry offset is invalid."
    else
      match decodeUtf16Le (← readBytes data fileNameOffset fileNameLength.toNat) with
      | .error e => failureFrom e
      | .ok name =>
        let fileAttributes ← readU32Le data (entryOffset + 56)
        return ({
          name
          fileIndex := ← readU32Le data (entryOffset + 4)
          creationTime := ← readU64Le data (entryOffset + 8)
          lastAccessTime := ← readU64Le data (entryOffset + 16)
          lastWriteTime := ← readU64Le data (entryOffset + 24)
          changeTime := ← readU64Le data (entryOffset + 32)
          endOfFile := ← readU64Le data (entryOffset + 40)
          allocationSize := ← readU64Le data (entryOffset + 48)
          fileAttributes
          eaSizeOrReparseTag := ← readU32Le data (entryOffset + 64)
          fileId := ← readU64Le data (entryOffset + 96)
          isDirectory := fileAttributes &&& kFileAttributeDirectory ≠ 0
          isReparsePoint := fileAttributes &&& kFileAttributeReparsePoint ≠ 0 },
          nextEntryOffset)

/-- The entry at `entryOffset` of a CHANGE_NOTIFY buffer that ends at
    `entriesEnd`, and its next-entry offset (Protocol.cpp:2040–2080). -/
def decodeNotifyEntry (data : ByteVector) (entryOffset entriesEnd : ℕ) :
    DecodeResult (ChangeNotifyEntry × UInt32) := do
  if entriesEnd - entryOffset < 12 then
    failure .ioError "FILE_NOTIFY_INFORMATION entry is shorter than fixed part."
  else
    let nextEntryOffset ← readU32Le data entryOffset
    let fileNameLength ← readU32Le data (entryOffset + 8)
    let fileNameOffset := entryOffset + 12
    if fileNameOffset + fileNameLength.toNat > entriesEnd then
      failure .ioError "FILE_NOTIFY_INFORMATION file name is out of bounds."
    else if nextEntryOffset ≠ 0 ∧ (nextEntryOffset % 4 ≠ 0 ∨
        nextEntryOffset < 12 + fileNameLength ∨
        entryOffset + nextEntryOffset.toNat > entriesEnd) then
      failure .ioError "FILE_NOTIFY_INFORMATION next entry offset is invalid."
    else
      match decodeUtf16Le (← readBytes data fileNameOffset fileNameLength.toNat) with
      | .error e => failureFrom e
      | .ok name =>
        return ({ action := ← readU32Le data (entryOffset + 4), name }, nextEntryOffset)

/-- The loop over the linked entries of a response buffer. -/
def decodeEntriesLoop {α : Type} (entryAt : ℕ → DecodeResult (α × UInt32)) (entriesEnd : ℕ) :
    ℕ → ℕ → DecodeResult (List α)
  | 0, _ => .ok []
  | fuel + 1, entryOffset => do
    if entriesEnd ≤ entryOffset then
      return []
    else
      let (entry, nextEntryOffset) ← entryAt entryOffset
      if nextEntryOffset = 0 then
        return [entry]
      else
        return entry :: (← decodeEntriesLoop entryAt entriesEnd fuel
          (entryOffset + nextEntryOffset.toNat))

/-- The entries of the buffer `[offset, offset + length)` of a response. -/
def decodeEntries {α : Type} (entryAt : ℕ → ℕ → DecodeResult (α × UInt32))
    (offset length : ℕ) : DecodeResult (List α) :=
  decodeEntriesLoop (entryAt · (offset + length)) (offset + length) length offset

/-- Model of `decodeQueryDirectoryResponse` (Protocol.cpp:1845). -/
def decodeQueryDirectoryResponse (data : ByteVector) : DecodeResult QueryDirectoryResponse := do
  let header ← decodeResponseHeader queryDirectoryFormat data
  if header.status = kStatusNoMoreFiles then
    return { status := header.status }
  else
    checkResponseBody queryDirectoryFormat data
    let outputOffset ← readU16Le data (64 + 2)
    let outputLength ← readU32Le data (64 + 4)
    if ¬ bufferInBounds data outputOffset.toNat outputLength.toNat then
      failure .ioError "SMB2 QUERY_DIRECTORY response output buffer is out of bounds."
    else
      return {
        status := header.status
        entries :=
          ← decodeEntries (decodeDirectoryEntry data) outputOffset.toNat outputLength.toNat }

def changeNotifyFormat : ResponseFormat where
  command := .changeNotify
  notThisResponse := "SMB2 response is not a CHANGE_NOTIFY response."
  missingFlag := "SMB2 CHANGE_NOTIFY response is missing server-to-redirector flag."
  operation := "SMB2 CHANGE_NOTIFY"
  accepted := [kStatusSuccess, kStatusNotifyEnumDir]
  fixedSize := 8
  tooShort := "SMB2 CHANGE_NOTIFY response buffer is shorter than fixed response."
  structureSize := 9
  invalidStructureSize := "Invalid SMB2 CHANGE_NOTIFY response structure size."

/-- Model of `decodeChangeNotifyResponse` (Protocol.cpp:1989). -/
def decodeChangeNotifyResponse (data : ByteVector) : DecodeResult ChangeNotifyResponse := do
  let header ← decodeResponseFixed changeNotifyFormat data
  let outputOffset ← readU16Le data (64 + 2)
  let outputLength ← readU32Le data (64 + 4)
  if ¬ bufferInBounds data outputOffset.toNat outputLength.toNat then
    failure .ioError "SMB2 CHANGE_NOTIFY response output buffer is out of bounds."
  else
    return {
      status := header.status
      outputBufferOffset := outputOffset
      entries := ← decodeEntries (decodeNotifyEntry data) outputOffset.toNat outputLength.toNat }

end SmbBrowser.Native
