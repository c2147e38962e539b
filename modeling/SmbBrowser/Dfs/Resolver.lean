import SmbBrowser.Client.NativeSmbClient
import SmbBrowser.Dfs.Paths
import SmbBrowser.Native.ServerHelpers

/-!
# The referral resolver

Model of `NativeDfsReferralResolver` (infrastructure/smb/NativeDfsReferralResolver.cpp): it
opens a connection to `IPC$`, asks for the referrals of the share or of ever shorter
prefixes of a path, and makes targets of the entries.  The connection is its
environment.  `normalizeRemotePath` (NativeDfsReferralResolver.cpp:131) is the function
of the client.
-/

namespace SmbBrowser.Dfs

open SmbBrowser.Base SmbBrowser.Qt
open SmbBrowser.Core (Connection Result AppError DfsResolvedConnection DfsResolvedPath)
open SmbBrowser.Native (ByteVector DecodeResult NativeSmbConnectedState NativeDfsReferralResult
  DfsReferralEntry OperationContext failure)
open SmbBrowser.Client (appError)

/-! ## The environment -/

/-- What the resolver asks: the token of the caller, the connector and the connection. -/
inductive ResolverOp where
  | isCancelled
  | connect (connection : Connection)
  | getDfsReferrals (requestPath : ByteVector)

abbrev ResolverWire : Interface where
  Op := ResolverOp
  Ans
    | .isCancelled => Bool
    | .connect _ => DecodeResult NativeSmbConnectedState
    | .getDfsReferrals _ => DecodeResult NativeDfsReferralResult

abbrev ResolverProgram : Type → Type := Program ResolverWire

/-- What the resolver takes from Qt: the conversions of texts and `QString::toUShort`. -/
structure ResolverTexts extends Client.Texts where
  toUShort : QString → Option UInt16

/-! ## Servers -/

/-- `DirectTcpEndpoint` (DirectTcpTransport.h:10). -/
structure DirectTcpEndpoint where
  host : ByteVector := []
  port : UInt16 := 445

def colon : QChar := 0x3A
def openingBracket : QChar := 0x5B
def closingBracket : QChar := 0x5D

section

variable (texts : ResolverTexts)

/-- The port at the end of a host (NativeDfsReferralResolver.cpp:63, 75). -/
def portOf (text : QString) : Option UInt16 := (texts.toUShort text).filter (0 < ·)

/-- `[host]:port` (NativeDfsReferralResolver.cpp:58–70). -/
def bracketedEndpoint (host : QString) : Option DirectTcpEndpoint := do
  if !host.startsWith [openingBracket] then none
  else
    let closing ← host.idxOf? closingBracket
    if closing = 0 ∨ !QString.startsWith (host.drop (closing + 1)) [colon] then none
    else
      let port ← portOf texts (host.drop (closing + 2))
      return { host := texts.toStdString ((host.drop 1).take (closing - 1)), port }

/-- `host:port` with one colon (NativeDfsReferralResolver.cpp:72–81). -/
def colonEndpoint (host : QString) : Option DirectTcpEndpoint := do
  let first ← host.idxOf? colon
  if first = 0 ∨ colon ∈ host.drop (first + 1) then none
  else
    let port ← portOf texts (host.drop (first + 1))
    return { host := texts.toStdString (host.take first), port }

/-- Model of `endpointForServer` (NativeDfsReferralResolver.cpp:54). -/
def endpointForServer (server : QString) : DirectTcpEndpoint :=
  let host := server.trimmed
  ((bracketedEndpoint texts host).or (colonEndpoint texts host)).getD
    { host := texts.toStdString host }

/-- The name of the server in a UNC path: `QString::fromStdString(endpoint.host)`. -/
def serverForUnc (server : QString) : QString :=
  texts.fromStdString (endpointForServer texts server).host

end

/-! ## Paths -/

/-- Model of `normalizedUri` (NativeDfsReferralResolver.cpp:127). -/
def normalizedUri (server share : QString) : QString :=
  qStringLiteral "smb://" ++ server ++ slash :: share

/-- `QStringLiteral("/%1").arg(segments.join('/'))`. -/
def joinedPath (segments : List QString) : QString := slash :: [slash].intercalate segments

/-- Model of `pathFromSegments(segments, count)` (NativeDfsReferralResolver.cpp:150). -/
def pathFromSegments (segments : List QString) (count : ℕ) : QString :=
  if count = 0 then root else joinedPath (segments.take count)

/-- Model of `pathFromSegments(segments, first, count)`
    (NativeDfsReferralResolver.cpp:158). -/
def pathFromSegmentsAt (segments : List QString) (first count : ℕ) : QString :=
  if count = 0 ∨ segments.length ≤ first then root
  else joinedPath ((segments.drop first).take count)

/-- Model of `remotePathSegments` (NativeDfsReferralResolver.cpp:167). -/
def remotePathSegments (remotePath : QString) : List QString :=
  let normalized := normalizeRemotePath remotePath
  if normalized = root then []
  else (List.splitOn slash (normalized.drop 1)).filter (· ≠ [])

/-- `QStringLiteral("\\\\%1\\%2").arg(serverForUnc, share)`. -/
def shareRoot (serverForUnc share : QString) : QString :=
  backslash :: backslash :: (serverForUnc ++ backslash :: share)

/-- Model of `requestUncPath` (NativeDfsReferralResolver.cpp:177). -/
def requestUncPath (connection : Connection) (serverForUnc remotePath : QString) : QString :=
  let path := (normalizeRemotePath remotePath).replaceChar slash backslash
  let path := if path = [backslash] then [] else path
  shareRoot serverForUnc connection.share ++ path

/-- `QString::startsWith` with `Qt::CaseInsensitive`. -/
def startsWithIgnoringCase (tables : CaseTables) (s start : QString) : Bool :=
  start.length ≤ s.length ∧ tables.sameIgnoringCase (s.take start.length) start

/-- Model of `consumedOriginalPrefix` (NativeDfsReferralResolver.cpp:205). -/
def consumedOriginalPrefix (tables : CaseTables) (requestPath serverForUnc share : QString)
    (pathConsumedBytes : UInt16) (fallbackRemotePath : QString) : QString :=
  if pathConsumedBytes = 0 then
    normalizeRemotePath fallbackRemotePath
  else
    let consumedChars := pathConsumedBytes.toNat / 2
    let consumed : QString := requestPath.take (min consumedChars requestPath.length)
    let consumed := consumed.replaceChar slash backslash
    let base := shareRoot serverForUnc share
    if tables.sameIgnoringCase consumed base then
      root
    else if startsWithIgnoringCase tables consumed (base ++ [backslash]) then
      let suffix : QString := consumed.drop base.length
      normalizeRemotePath (suffix.replaceChar backslash slash)
    else
      normalizeRemotePath fallbackRemotePath

/-! ## Targets -/

/-- `NativeDfsReferralTarget` (NativeDfsReferralResolver.h:14). -/
structure NativeDfsReferralTarget where
  server : QString
  share : QString
  targetPathPrefix : QString

/-- `while (path.startsWith("\\\\")) path.remove(0, 2)`. -/
def removeDoubleBackslashes : QString → QString
  | c :: d :: s =>
    if c = backslash ∧ d = backslash then removeDoubleBackslashes s else c :: d :: s
  | s => s

/-- Model of `parseNativeDfsReferralTarget` (NativeDfsReferralResolver.cpp:270). -/
def parseNativeDfsReferralTarget (networkAddress : QString) : Option NativeDfsReferralTarget :=
  let path := networkAddress.trimmed
  let path := path.replaceChar slash backslash
  let path := removeDoubleBackslashes path
  let path : QString := path.dropWhile (· = backslash)
  match List.splitOn backslash path with
  | server :: share :: rest =>
    if server.isEmpty || share.isEmpty then none
    else
      some {
        server
        share
        targetPathPrefix := if rest.isEmpty then root else normalizeRemotePath (joinedPath rest) }
  | _ => none

/-- Model of `sameShare` (NativeDfsReferralResolver.cpp:189). -/
def sameShare (tables : CaseTables) (connection : Connection)
    (target : NativeDfsReferralTarget) : Bool :=
  tables.sameIgnoringCase connection.server target.server &&
    tables.sameIgnoringCase connection.share target.share

/-- Model of `targetConnectionFor` (NativeDfsReferralResolver.cpp:195). -/
def targetConnectionFor (connection : Connection) (target : NativeDfsReferralTarget) :
    Connection :=
  { connection with
    server := target.server
    share := target.share
    normalizedUri := normalizedUri target.server target.share }

/-- `static_cast<int>(std::max<std::uint32_t>(1, entry.timeToLiveSeconds))`. -/
def ttlSecondsOf (entry : DfsReferralEntry) : ℤ := (max 1 entry.timeToLiveSeconds).toInt32.toInt

/-! ## The resolver -/

section

variable (texts : ResolverTexts) (tables : CaseTables)

/-- Model of `openIpcConnection` (NativeDfsReferralResolver.cpp:230). -/
def openIpcConnection (connection : Connection) (context : OperationContext) :
    ResolverProgram (DecodeResult NativeSmbConnectedState) := do
  let cancelled ←
    if context.cancellable then Program.perform (I := ResolverWire) .isCancelled else pure false
  if cancelled then
    return failure .cancelled "Operation was cancelled."
  else
    Program.perform (I := ResolverWire) (.connect { connection with
      share := qStringLiteral "IPC$"
      normalizedUri := normalizedUri connection.server (qStringLiteral "IPC$") })

/-- The target of an entry, if it is not the share itself. -/
def targetOf (connection : Connection) (entry : DfsReferralEntry) :
    Option NativeDfsReferralTarget :=
  (parseNativeDfsReferralTarget (texts.fromStdString entry.networkAddress)).filter
    fun target => !sameShare tables connection target

/-- Model of `NativeDfsReferralResolver::resolveTargets`
    (NativeDfsReferralResolver.cpp:318). -/
def resolveTargets (connection : Connection) (context : OperationContext) :
    ResolverProgram (Result (List DfsResolvedConnection)) := do
  let requestPath := requestUncPath connection (serverForUnc texts connection.server) root
  match ← openIpcConnection connection context with
  | .error e => return .failure (appError texts.toTexts .source e)
  | .ok _ =>
    match ← Program.perform (I := ResolverWire)
        (.getDfsReferrals (texts.toStdString requestPath)) with
    | .error e => return .failure (appError texts.toTexts .source e)
    | .ok referrals =>
      return .success (referrals.response.entries.filterMap fun entry =>
        (targetOf texts tables connection entry).map fun target =>
          { connection := targetConnectionFor connection target
            ttlSeconds := ttlSecondsOf entry })

/-- The errors after which a shorter prefix is asked for. -/
def asksShorter (code : Native.ErrorCode) : Bool :=
  code = .fileNotFound ∨ code = .shareUnavailable ∨ code = .invalidPath ∨ code = .networkError

/-- The paths of one answer (NativeDfsReferralResolver.cpp:411–430). -/
def resolvedPaths (connection : Connection) (segments : List QString) (count : ℕ)
    (referrals : NativeDfsReferralResult) : List DfsResolvedPath :=
  let start := pathFromSegments segments count
  let server := serverForUnc texts connection.server
  referrals.response.entries.filterMap fun entry =>
    (targetOf texts tables connection entry).map fun target =>
      { connection := targetConnectionFor connection target
        remotePath := pathFromSegmentsAt segments count (segments.length - count)
        originalPathPrefix := consumedOriginalPrefix tables
          (requestUncPath connection server start) server connection.share
          referrals.response.pathConsumedBytes start
        targetPathPrefix := target.targetPathPrefix
        ttlSeconds := ttlSecondsOf entry }

/-- The loop of `resolvePathTargets` (NativeDfsReferralResolver.cpp:394–436), by the number
    of the prefixes that are left. -/
def resolvePathLoop (connection : Connection) (segments : List QString) :
    ℕ → ResolverProgram (Result (List DfsResolvedPath))
  | 0 => return .success []
  | count + 1 => do
    let requestPath := requestUncPath connection (serverForUnc texts connection.server)
      (pathFromSegments segments count)
    match ← Program.perform (I := ResolverWire)
        (.getDfsReferrals (texts.toStdString requestPath)) with
    | .error e =>
      if asksShorter e.code then resolvePathLoop connection segments count
      else return .failure (appError texts.toTexts .source e)
    | .ok referrals =>
      let paths := resolvedPaths texts tables connection segments count referrals
      if paths.isEmpty then resolvePathLoop connection segments count
      else return .success paths

/-- Model of `NativeDfsReferralResolver::resolvePathTargets`
    (NativeDfsReferralResolver.cpp:381). -/
def resolvePathTargets (connection : Connection) (remotePath : QString)
    (context : OperationContext) : ResolverProgram (Result (List DfsResolvedPath)) := do
  match ← openIpcConnection connection context with
  | .error e => return .failure (appError texts.toTexts .source e)
  | .ok _ =>
    let segments := remotePathSegments remotePath
    resolvePathLoop texts tables connection segments (segments.length + 1)

end

end SmbBrowser.Dfs
