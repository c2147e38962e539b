import SmbBrowser.Native.Responses

/-!
# DFS referral messages

Models of native_smb/DfsReferral.cpp.
-/

namespace SmbBrowser.Native

open SmbBrowser.Base

def kFsctlDfsGetReferrals : UInt32 := 0x00060194
def kDfsReferralNameList : UInt16 := 0x0002

/-- `DfsReferralEntry` (DfsReferral.h:20). -/
structure DfsReferralEntry where
  version : UInt16 := 0
  serverType : UInt16 := 0
  flags : UInt16 := 0
  timeToLiveSeconds : UInt32 := 0
  dfsPath : ByteVector := []
  dfsAlternatePath : ByteVector := []
  networkAddress : ByteVector := []
  rootTarget : Bool := false
  nameListReferral : Bool := false

/-- `DfsReferralResponse` (DfsReferral.h:32). -/
structure DfsReferralResponse where
  pathConsumedBytes : UInt16 := 0
  headerFlags : UInt32 := 0
  entries : List DfsReferralEntry := []

/-- Model of `buildDfsGetReferralRequest` (DfsReferral.cpp:134) with its default
    level. -/
def buildDfsGetReferralRequest (requestPath : ByteVector) : Except Exn ByteVector := do
  let encoded ← encodeUtf16Le requestPath
  return u16Le 3 ++ encoded ++ u16Le 0

/-- The search for the terminator of `readReferralString` (DfsReferral.cpp:30);
    every turn moves on by two bytes. -/
def findTerminator (data : ByteVector) : ℕ → ℕ → DecodeResult (Option ℕ)
  | 0, _ => .ok none
  | fuel + 1, position => do
    if position + 1 < data.length then
      if (← readU16Le data position) = 0 then return some position
      else findTerminator data fuel (position + 2)
    else
      return none

/-- Model of `readReferralString` (DfsReferral.cpp:31).  The result of the
    function is the inner one; only a read can fail the outer one. -/
def readReferralString (data : ByteVector) (offset : ℕ) :
    DecodeResult (DecodeResult ByteVector) := do
  if offset ≥ data.length then
    return failure .ioError "DFS referral string offset is out of bounds."
  else
    match ← findTerminator data data.length offset with
    | some position => return decodeUtf16Le (← readBytes data offset (position - offset))
    | none => return failure .ioError "DFS referral string is not null-terminated."

/-- Model of `readOptionalString` (DfsReferral.cpp:49), with the failure its
    caller makes of `false`. -/
def readOptionalString (data : ByteVector) (entryOffset : ℕ) (stringOffset : UInt16) :
    DecodeResult ByteVector := do
  if stringOffset = 0 then
    return []
  else
    match ← readReferralString data (entryOffset + stringOffset.toNat) with
    | .error _ => failure .ioError "DFS referral entry string is invalid."
    | .ok text => return text

/-- The string offsets of an entry: path, alternate path and network address. -/
structure ReferralOffsets where
  path : UInt16 := 0
  alternatePath : UInt16 := 0
  networkAddress : UInt16 := 0

/-- The fixed part of a referral entry of version 2, 3 or 4
    (DfsReferral.cpp:84–116). -/
def decodeReferralFixed (data : ByteVector) (entryOffset : ℕ) (version : UInt16)
    (entrySize : ℕ) : DecodeResult (DfsReferralEntry × ReferralOffsets) := do
  if version = 2 then
    if entrySize < 22 then
      failure .ioError "DFS referral v2 entry is truncated."
    else
      return ({
        version
        serverType := ← readU16Le data (entryOffset + 4)
        flags := ← readU16Le data (entryOffset + 6)
        timeToLiveSeconds := ← readU32Le data (entryOffset + 12) }, {
        path := ← readU16Le data (entryOffset + 16)
        alternatePath := ← readU16Le data (entryOffset + 18)
        networkAddress := ← readU16Le data (entryOffset + 20) })
  else if version = 3 ∨ version = 4 then
    if entrySize < 34 then
      failure .ioError "DFS referral v3/v4 entry is truncated."
    else
      let flags ← readU16Le data (entryOffset + 6)
      let nameListReferral : Bool := flags &&& kDfsReferralNameList ≠ 0
      let path ← readU16Le data (entryOffset + 12)
      let offsets : ReferralOffsets ←
        if nameListReferral then pure { path }
        else
          pure {
            path
            alternatePath := ← readU16Le data (entryOffset + 14)
            networkAddress := ← readU16Le data (entryOffset + 16) }
      return ({
        version
        serverType := ← readU16Le data (entryOffset + 4)
        flags
        timeToLiveSeconds := ← readU32Le data (entryOffset + 8)
        nameListReferral }, offsets)
  else
    failure .protocolUnsupported "Unsupported DFS referral entry version."

/-- Model of `decodeReferralEntry` (DfsReferral.cpp:66), with the size of the
    entry. -/
def decodeReferralEntry (data : ByteVector) (entryOffset : ℕ) :
    DecodeResult (DfsReferralEntry × ℕ) := do
  if entryOffset + 4 > data.length then
    failure .ioError "DFS referral entry is truncated."
  else
    let version ← readU16Le data entryOffset
    let entrySize := (← readU16Le data (entryOffset + 2)).toNat
    if entrySize = 0 ∨ entryOffset + entrySize > data.length then
      failure .ioError "DFS referral entry size is invalid."
    else
      let (entry, offsets) ← decodeReferralFixed data entryOffset version entrySize
      return ({ entry with
        rootTarget := entry.serverType = 1
        dfsPath := ← readOptionalString data entryOffset offsets.path
        dfsAlternatePath := ← readOptionalString data entryOffset offsets.alternatePath
        networkAddress := ← readOptionalString data entryOffset offsets.networkAddress },
        entrySize)

/-- The loop of `decodeDfsReferralResponse` (DfsReferral.cpp:160–172). -/
def decodeReferralEntries (data : ByteVector) : ℕ → ℕ → DecodeResult (List DfsReferralEntry)
  | 0, _ => .ok []
  | count + 1, entryOffset => do
    if entryOffset + 4 > data.length then
      failure .ioError "DFS referral response entries are truncated."
    else
      match decodeReferralEntry data entryOffset with
      | .error e => failureFrom e
      | .ok (entry, entrySize) =>
        return entry :: (← decodeReferralEntries data count (entryOffset + entrySize))

/-- Model of `decodeDfsReferralResponse` (DfsReferral.cpp:145). -/
def decodeDfsReferralResponse (data : ByteVector) : DecodeResult DfsReferralResponse := do
  if data.length < 8 then
    failure .ioError "DFS referral response header is truncated."
  else
    let referralCount ← readU16Le data 2
    return {
      pathConsumedBytes := ← readU16Le data 0
      headerFlags := ← readU32Le data 4
      entries := ← decodeReferralEntries data referralCount.toNat 8 }

end SmbBrowser.Native
