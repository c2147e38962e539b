import SmbBrowser.Native.Responses

/-!
# DCE/RPC and share enumeration messages

Models of native_smb/Dcerpc.cpp and native_smb/SrvsRpc.cpp.
-/

namespace SmbBrowser.Native

open SmbBrowser.Base

/-! ## DCE/RPC -/

def kDcerpcVersion : UInt8 := 5
def kDcerpcPacketTypeRequest : UInt8 := 0
def kDcerpcPacketTypeResponse : UInt8 := 2
def kDcerpcPacketTypeBind : UInt8 := 11
def kDcerpcPacketTypeBindAck : UInt8 := 12
def kDcerpcFlagFirstFragment : UInt8 := 0x01
def kDcerpcFlagLastFragment : UInt8 := 0x02
def kDcerpcDefaultFragSize : UInt16 := 4280
def kDcerpcCommonHeaderSize : ℕ := 16

/-- `DcerpcSyntaxId` (Dcerpc.h:21). -/
structure DcerpcSyntaxId where
  uuid : ByteVector := []
  majorVersion : UInt16 := 0
  minorVersion : UInt16 := 0

/-- `DcerpcBindAck` (Dcerpc.h:27). -/
structure DcerpcBindAck where
  maxTransmitFrag : UInt16 := 0
  maxReceiveFrag : UInt16 := 0
  associationGroupId : UInt32 := 0
  accepted : Bool := false
  result : UInt16 := 0
  reason : UInt16 := 0
  transferSyntax : DcerpcSyntaxId := {}

/-- `DcerpcResponse` (Dcerpc.h:37). -/
structure DcerpcResponse where
  allocationHint : UInt32 := 0
  contextId : UInt16 := 0
  stubData : ByteVector := []

/-- Model of `srvsRpcSyntax` (Dcerpc.cpp:88). -/
def srvsRpcSyntax : DcerpcSyntaxId where
  uuid := [0xc8, 0x4f, 0x32, 0x4b, 0x70, 0x16, 0xd3, 0x01, 0x12, 0x78,
    0x5a, 0x47, 0xbf, 0x6e, 0xe1, 0x88]
  majorVersion := 3
  minorVersion := 0

/-- Model of `ndr32TransferSyntax` (Dcerpc.cpp:97). -/
def ndr32TransferSyntax : DcerpcSyntaxId where
  uuid := [0x04, 0x5d, 0x88, 0x8a, 0xeb, 0x1c, 0xc9, 0x11, 0x9f, 0xe8,
    0x08, 0x00, 0x2b, 0x10, 0x48, 0x60]
  majorVersion := 2
  minorVersion := 0

/-- Model of `appendCommonHeader` (Dcerpc.cpp:36). -/
def dcerpcCommonHeader (packetType : UInt8) (fragLength : UInt16) (callId : UInt32) :
    ByteVector :=
  [kDcerpcVersion, 0, packetType, kDcerpcFlagFirstFragment ||| kDcerpcFlagLastFragment,
    0x10, 0, 0, 0] ++ u16Le fragLength ++ u16Le 0 ++ u32Le callId

/-- Model of `appendSyntaxId` (Dcerpc.cpp:51). -/
def syntaxIdBytes (id : DcerpcSyntaxId) : ByteVector :=
  id.uuid ++ u16Le id.majorVersion ++ u16Le id.minorVersion

/-- Model of `buildDcerpcBindPdu` (Dcerpc.cpp:106) with its default context
    and fragment sizes. -/
def buildDcerpcBindPdu (abstractSyntax : DcerpcSyntaxId) (callId : UInt32) : ByteVector :=
  dcerpcCommonHeader kDcerpcPacketTypeBind 72 callId ++
    (u16Le kDcerpcDefaultFragSize ++ u16Le kDcerpcDefaultFragSize ++ u32Le 0 ++ [1, 0] ++
    u16Le 0 ++ u16Le 0 ++ [1, 0] ++ syntaxIdBytes abstractSyntax ++
    syntaxIdBytes ndr32TransferSyntax)

/-- Model of `buildDcerpcRequestPdu` (Dcerpc.cpp:187); the fragment length is
    truncated to 16 bits. -/
def buildDcerpcRequestPdu (opnum : UInt16) (stubData : ByteVector) (callId : UInt32) :
    ByteVector :=
  dcerpcCommonHeader kDcerpcPacketTypeRequest
      (UInt16.ofNat (kDcerpcCommonHeaderSize + 8 + stubData.length)) callId ++
    (u32Le (UInt32.ofNat stubData.length) ++ u16Le 0 ++ u16Le opnum ++ stubData)

/-- Model of `validateCommonHeader` (Dcerpc.cpp:57): the fragment length of a
    valid header. -/
def validateCommonHeader (data : ByteVector) (expectedPacketType : UInt8) :
    DecodeResult (Option ℕ) := do
  if data.length < kDcerpcCommonHeaderSize then
    return none
  else
    let flags := kDcerpcFlagFirstFragment ||| kDcerpcFlagLastFragment
    if (← readU8 data 0) ≠ kDcerpcVersion ∨ (← readU8 data 2) ≠ expectedPacketType then
      return none
    else if (← readU8 data 3) &&& flags ≠ flags then
      return none
    else if (← readU8 data 4) ≠ 0x10 then
      return none
    else
      let fragLength := (← readU16Le data 8).toNat
      return if kDcerpcCommonHeaderSize ≤ fragLength ∧ fragLength ≤ data.length then
        some fragLength else none

/-- Model of `decodeDcerpcBindAck` (Dcerpc.cpp:128). -/
def decodeDcerpcBindAck (data : ByteVector) : DecodeResult DcerpcBindAck := do
  match ← validateCommonHeader data kDcerpcPacketTypeBindAck with
  | none => failure .ioError "DCE/RPC bind_ack header is invalid."
  | some fragLength =>
    if fragLength < 36 then
      failure .ioError "DCE/RPC bind_ack body is truncated."
    else
      let maxTransmitFrag ← readU16Le data 16
      let maxReceiveFrag ← readU16Le data 18
      let associationGroupId ← readU32Le data 20
      let secondaryAddressLength := (← readU16Le data 24).toNat
      if 26 + secondaryAddressLength > fragLength then
        failure .ioError "DCE/RPC bind_ack secondary address is truncated."
      else
        let offset := (26 + secondaryAddressLength + 3) / 4 * 4
        if offset + 4 > fragLength then
          failure .ioError "DCE/RPC bind_ack result list is truncated."
        else
          let resultCount ← readU8 data offset
          let offset := offset + 4
          if resultCount = 0 ∨ offset + 24 > fragLength then
            failure .ioError "DCE/RPC bind_ack has no presentation result."
          else
            let result ← readU16Le data offset
            let ack : DcerpcBindAck := {
              maxTransmitFrag, maxReceiveFrag, associationGroupId
              accepted := result = 0
              result
              reason := ← readU16Le data (offset + 2)
              transferSyntax := {
                uuid := ← readBytes data (offset + 4) 16
                majorVersion := ← readU16Le data (offset + 20)
                minorVersion := ← readU16Le data (offset + 22) } }
            if ¬ ack.accepted then
              failure .protocolUnsupported
                "DCE/RPC bind_ack rejected the requested presentation context."
            else
              return ack

/-- Model of `decodeDcerpcResponse` (Dcerpc.cpp:204). -/
def decodeDcerpcResponse (data : ByteVector) : DecodeResult DcerpcResponse := do
  match ← validateCommonHeader data kDcerpcPacketTypeResponse with
  | none => failure .ioError "DCE/RPC response header is invalid."
  | some fragLength =>
    if fragLength < kDcerpcCommonHeaderSize + 8 then
      failure .ioError "DCE/RPC response body is truncated."
    else
      return {
        allocationHint := ← readU32Le data 16
        contextId := ← readU16Le data 20
        stubData := ← readBytes data 24 (fragLength - 24) }

/-! ## NetrShareEnum -/

def kSrvsNetrShareEnumOpnum : UInt16 := 15
def kShareTypeTemporary : UInt32 := 0x40000000
def kShareTypeSpecial : UInt32 := 0x80000000
def kNetApiStatusSuccess : UInt32 := 0
def kNetApiStatusMoreData : UInt32 := 234

/-- `SrvsShareKind` (SrvsRpc.h:22). -/
inductive SrvsShareKind where
  | disk
  | printer
  | device
  | ipc
  | unknown
  deriving DecidableEq, Repr

/-- `SrvsShareInfo` (SrvsRpc.h:30). -/
structure SrvsShareInfo where
  name : ByteVector := []
  rawType : UInt32 := 0
  kind : SrvsShareKind := .unknown
  comment : ByteVector := []
  hidden : Bool := false
  special : Bool := false
  temporary : Bool := false

/-- `SrvsShareEnumResponse` (SrvsRpc.h:40). -/
structure SrvsShareEnumResponse where
  shares : List SrvsShareInfo := []
  totalEntries : UInt32 := 0
  resumeHandle : Option UInt32 := none
  apiStatus : UInt32 := kNetApiStatusSuccess
  moreData : Bool := false

/-- Model of `normalizeServerName` (SrvsRpc.cpp:46). -/
def normalizeServerName (serverName : ByteVector) : ByteVector :=
  let normalized := serverName.map fun ch => if ch = 0x2F then 0x5C else ch
  if normalized.take 2 = [0x5C, 0x5C] then normalized
  else [0x5C, 0x5C] ++ normalized.dropWhile (· = 0x5C)

/-- Model of `align4` (SrvsRpc.cpp:40). -/
def align4 (bytes : ByteVector) : ByteVector := appendPadding bytes 4

theorem length_align4 (bytes : ByteVector) : (align4 bytes).length = (bytes.length + 3) / 4 * 4 := by
  rw [align4, appendPadding, List.length_append, List.length_replicate]
  omega

/-- Model of `appendNdrUtf16String` (SrvsRpc.cpp:58). -/
def appendNdrUtf16String (bytes text : ByteVector) : Except Exn ByteVector := do
  let utf16 ← encodeUtf16Le text
  let characterCount := UInt32.ofNat (utf16.length / 2 + 1)
  return align4 (bytes ++ u32Le characterCount ++ u32Le 0 ++ u32Le characterCount ++ utf16 ++
    u16Le 0)

/-- Model of `buildNetrShareEnumRequestStub` (SrvsRpc.cpp:157) with its default
    length and without a resume handle, as its only caller uses it. -/
def buildNetrShareEnumRequestStub (serverName : ByteVector) : Except Exn ByteVector := do
  let bytes ← appendNdrUtf16String (u32Le 0x00020000) (normalizeServerName serverName)
  return bytes ++ (u32Le 1 ++ u32Le 1 ++ u32Le 0x00020004 ++ u32Le 0 ++ u32Le 0 ++
    u32Le 0xFFFFFFFF ++ u32Le 0)

/-- Model of `NdrCursor::readU32` (SrvsRpc.cpp:89): the value and the cursor
    after it, or the failure its caller makes of `false`. -/
def ndrReadU32 (data : ByteVector) (offset : ℕ) (otherwise : String) :
    DecodeResult (UInt32 × ℕ) := do
  if offset + 4 > data.length then
    failure .ioError otherwise
  else
    return (← readU32Le data offset, offset + 4)

/-- Model of `NdrCursor::readUtf16String` (SrvsRpc.cpp:98). -/
def ndrReadUtf16String (data : ByteVector) (offset : ℕ) (otherwise : String) :
    DecodeResult (ByteVector × ℕ) := do
  let (maxCount, offset) ← ndrReadU32 data offset otherwise
  let (offsetCount, offset) ← ndrReadU32 data offset otherwise
  let (actualCount, offset) ← ndrReadU32 data offset otherwise
  let byteCount := actualCount.toNat * 2
  if offsetCount ≠ 0 ∨ actualCount > maxCount then
    failure .ioError otherwise
  else if offset + byteCount > data.length then
    failure .ioError otherwise
  else
    let terminated : Bool ←
      if byteCount ≥ 2 then
        pure ((← readU16Le data (offset + byteCount - 2)) == 0)
      else pure false
    let decodeBytes := if terminated then byteCount - 2 else byteCount
    match decodeUtf16Le (← readBytes data offset decodeBytes) with
    | .error _ => failure .ioError otherwise
    | .ok text =>
      let aligned := (offset + byteCount + 3) / 4 * 4
      if aligned > data.length then failure .ioError otherwise else return (text, aligned)

/-- Model of `shareKind` (SrvsRpc.cpp:131). -/
def shareKind (rawType : UInt32) : SrvsShareKind :=
  let kind := rawType &&& 0x000000FF
  if kind = 0 then .disk
  else if kind = 1 then .printer
  else if kind = 2 then .device
  else if kind = 3 then .ipc
  else .unknown

/-- Model of `endsWithDollar` (SrvsRpc.cpp:146). -/
def endsWithDollar (text : ByteVector) : Bool := text.getLast? = some 0x24

/-- `DeferredShare` (SrvsRpc.cpp:199). -/
structure DeferredShare where
  namePointer : UInt32 := 0
  rawType : UInt32 := 0
  commentPointer : UInt32 := 0

/-- The fixed part of the share array: `count` records (SrvsRpc.cpp:220–228). -/
def ndrReadShareRecords (data : ByteVector) :
    ℕ → ℕ → DecodeResult (List DeferredShare × ℕ)
  | 0, offset => .ok ([], offset)
  | count + 1, offset => do
    let truncated := "NetrShareEnum response share array is truncated."
    let (namePointer, offset) ← ndrReadU32 data offset truncated
    let (rawType, offset) ← ndrReadU32 data offset truncated
    let (commentPointer, offset) ← ndrReadU32 data offset truncated
    let (rest, offset) ← ndrReadShareRecords data count offset
    return ({ namePointer, rawType, commentPointer } :: rest, offset)

/-- A string the array points to, if its pointer is not null. -/
def ndrReadDeferredString (data : ByteVector) (pointer : UInt32) (offset : ℕ)
    (otherwise : String) : DecodeResult (ByteVector × ℕ) :=
  if pointer ≠ 0 then ndrReadUtf16String data offset otherwise else .ok ([], offset)

/-- The strings of the share array (SrvsRpc.cpp:231–248). -/
def ndrReadShares (data : ByteVector) :
    List DeferredShare → ℕ → DecodeResult (List SrvsShareInfo × ℕ)
  | [], offset => .ok ([], offset)
  | item :: items, offset => do
    let (name, offset) ← ndrReadDeferredString data item.namePointer offset
      "NetrShareEnum response share name is invalid."
    let (comment, offset) ← ndrReadDeferredString data item.commentPointer offset
      "NetrShareEnum response share comment is invalid."
    let special : Bool := item.rawType &&& kShareTypeSpecial ≠ 0
    let share : SrvsShareInfo := {
      name
      rawType := item.rawType
      kind := shareKind item.rawType
      comment
      hidden := special || endsWithDollar name
      special
      temporary := item.rawType &&& kShareTypeTemporary ≠ 0 }
    let (rest, offset) ← ndrReadShares data items offset
    return (share :: rest, offset)

/-- The share array of a container, when the container has a buffer
    (SrvsRpc.cpp:211–252). -/
def ndrReadShareArray (data : ByteVector) (entriesRead bufferPointer : UInt32) (offset : ℕ) :
    DecodeResult (List SrvsShareInfo × ℕ) := do
  if bufferPointer ≠ 0 then
    let (arrayCount, offset) ← ndrReadU32 data offset
      "NetrShareEnum response is missing share array count."
    if arrayCount < entriesRead then
      failure .ioError "NetrShareEnum response array count is inconsistent."
    else
      let (deferred, offset) ← ndrReadShareRecords data entriesRead.toNat offset
      ndrReadShares data deferred offset
  else if entriesRead ≠ 0 then
    failure .ioError "NetrShareEnum response has entries without a buffer."
  else
    return ([], offset)

/-- Model of `decodeNetrShareEnumResponseStub` (SrvsRpc.cpp:179). -/
def decodeNetrShareEnumResponseStub (data : ByteVector) :
    DecodeResult SrvsShareEnumResponse := do
  let truncated := "NetrShareEnum response is truncated before share list."
  let (level, offset) ← ndrReadU32 data 0 truncated
  let (unionLevel, offset) ← ndrReadU32 data offset truncated
  let (containerPointer, offset) ← ndrReadU32 data offset truncated
  if level ≠ 1 ∨ unionLevel ≠ 1 then
    failure .ioError "NetrShareEnum response uses an unsupported info level."
  else
    let (entriesRead, bufferPointer, offset) ←
      if containerPointer ≠ 0 then
        let truncated := "NetrShareEnum response share container is truncated."
        let (entriesRead, offset) ← ndrReadU32 data offset truncated
        let (bufferPointer, offset) ← ndrReadU32 data offset truncated
        pure (entriesRead, bufferPointer, offset)
      else pure (0, 0, offset)
    let (shares, offset) ← ndrReadShareArray data entriesRead bufferPointer offset
    let (totalEntries, offset) ← ndrReadU32 data offset
      "NetrShareEnum response is missing total entries."
    let (resumePointer, offset) ← ndrReadU32 data offset
      "NetrShareEnum response is missing resume handle pointer."
    let (resumeHandle, offset) ←
      if resumePointer ≠ 0 then
        let (resume, offset) ← ndrReadU32 data offset
          "NetrShareEnum response resume handle is truncated."
        pure (some resume, offset)
      else pure (none, offset)
    let (apiStatus, _) ← ndrReadU32 data offset "NetrShareEnum response is missing API status."
    let moreData : Bool := apiStatus = kNetApiStatusMoreData
    if apiStatus ≠ kNetApiStatusSuccess ∧ ¬ moreData then
      failure (if apiStatus = 5 then .permissionDenied else .networkError)
        "NetrShareEnum returned a non-success NET_API_STATUS."
    else
      return { shares, totalEntries, resumeHandle, apiStatus, moreData }

end SmbBrowser.Native
