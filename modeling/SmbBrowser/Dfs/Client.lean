import SmbBrowser.Base.Program
import SmbBrowser.Dfs.Paths

/-!
# The DFS client

`DfsResolvingSmbClient` (infrastructure/smb/DfsResolvingSmbClient.cpp) tries a call of
the delegate on cached targets, on the connection itself and on the targets that the
referral resolver names.  The delegate, the resolver, the clock and the two cache
tables are the environment; a table is read or changed in one question, as its
mutex has it.  Secrets and operation contexts are handed through and left out.
-/

namespace SmbBrowser.Dfs

open SmbBrowser.Base SmbBrowser.Qt SmbBrowser.Core

/-! ## Cache entries and keys -/

/-- `DfsConnectionCacheEntry` (DfsResolvingSmbClient.h:14). -/
structure DfsConnectionCacheEntry where
  targets : List Connection
  expiresAtUtc : QDateTime

/-- `DfsPathMappingCacheEntry` (DfsResolvingSmbClient.h:27). -/
structure DfsPathMappingCacheEntry where
  mappings : List DfsPathMapping
  expiresAtUtc : QDateTime

def newline : QString := [0x0A]

/-- `cacheKey` (DfsResolvingSmbClient.cpp:13). -/
def cacheKey (tables : CaseTables) (connection : Connection) : QString :=
  tables.toLower connection.server ++ newline ++ tables.toLower connection.share ++ newline ++
    tables.toLower connection.domain ++ newline ++ tables.toLower connection.username ++ newline ++
    connection.authType.toQString

/-- `pathCacheKey` (DfsResolvingSmbClient.cpp:38). -/
def pathCacheKey (tables : CaseTables) (connection : Connection) (originalPrefix : QString) :
    QString :=
  cacheKey tables connection ++ newline ++ normalizeRemotePath originalPrefix

/-! ## Error classification -/

/-- `looksLikeShareDfsReferralFailure` (DfsResolvingSmbClient.cpp:119). -/
def looksLikeShareDfsReferralFailure (tables : CaseTables) (error : AppError) : Bool :=
  if error.code ≠ .shareUnavailable then
    false
  else
    let details := tables.toLower error.sanitizedTechnicalDetails
    details.contains (qStringLiteral "bad network name") ||
      details.contains (qStringLiteral "bad_network_name") ||
      details.contains (qStringLiteral "status_bad_network_name") ||
      details.contains (qStringLiteral "tree connect")

/-- `looksLikePathDfsReferralFailure` (DfsResolvingSmbClient.cpp:131). -/
def looksLikePathDfsReferralFailure (tables : CaseTables) (error : AppError) : Bool :=
  if error.code ≠ .shareUnavailable ∧ error.code ≠ .networkError then
    false
  else
    let details := tables.toLower error.sanitizedTechnicalDetails
    details.contains (qStringLiteral "path not covered") ||
      details.contains (qStringLiteral "path_not_covered") ||
      details.contains (qStringLiteral "status_path_not_covered") ||
      details.contains (qStringLiteral "0xc0000257")

/-- `looksLikeDfsReferralFailure` (DfsResolvingSmbClient.cpp:144). -/
def looksLikeDfsReferralFailure (tables : CaseTables) (error : AppError) : Bool :=
  looksLikeShareDfsReferralFailure tables error || looksLikePathDfsReferralFailure tables error

/-- `mayHavePathDfsReferral` (DfsResolvingSmbClient.cpp:149). -/
def mayHavePathDfsReferral (tables : CaseTables) (error : AppError) : Bool :=
  looksLikeDfsReferralFailure tables error || error.code = .shareUnavailable ||
    error.code = .permissionDenied

/-- `isTargetFailoverError` (DfsResolvingSmbClient.cpp:177). -/
def isTargetFailoverError (error : AppError) : Bool :=
  match error.code with
  | .serverUnavailable => true
  | .shareUnavailable => true
  | .timeout => true
  | .networkError => true
  | _ => false

/-- `sameResolvedTarget` (DfsResolvingSmbClient.cpp:155). -/
def sameResolvedTarget (tables : CaseTables) (left right : DfsPathMapping) : Bool :=
  tables.sameIgnoringCase left.targetConnection.server right.targetConnection.server &&
    tables.sameIgnoringCase left.targetConnection.share right.targetConnection.share &&
    tables.sameIgnoringCase left.targetConnection.domain right.targetConnection.domain &&
    tables.sameIgnoringCase left.targetConnection.username right.targetConnection.username &&
    left.targetConnection.authType = right.targetConnection.authType

/-! ## The environment -/

/-- What the client asks: `A` are the calls of the delegate. -/
inductive DfsOp (A : Type) where
  | delegate (call : A)
  | resolveTargets (connection : Connection)
  | resolvePathTargets (connection : Connection) (remotePath : QString)
  | currentDateTimeUtc
  | resolvedConnections
  | insertConnection (key : QString) (entry : DfsConnectionCacheEntry)
  | removeConnection (key : QString)
  | resolvedPathMappings
  | insertPathMapping (key : QString) (entry : DfsPathMappingCacheEntry)
  | removePathMapping (key : QString)

/-- The environment of one call of the client, whose delegate answers `Result T`. -/
def dfs (A T : Type) : Interface where
  Op := DfsOp A
  Ans
    | .delegate _ => Result T
    | .resolveTargets _ => Result (List DfsResolvedConnection)
    | .resolvePathTargets _ _ => Result (List DfsResolvedPath)
    | .currentDateTimeUtc => QDateTime
    | .resolvedConnections => QHash QString DfsConnectionCacheEntry
    | .insertConnection _ _ => Unit
    | .removeConnection _ => Unit
    | .resolvedPathMappings => QHash QString DfsPathMappingCacheEntry
    | .insertPathMapping _ _ => Unit
    | .removePathMapping _ => Unit

variable {A T : Type}

/-- A program in the environment of the client. -/
abbrev DfsProgram (A T : Type) : Type → Type := Program (dfs A T)

/-- A call of the delegate. -/
def delegate (call : A) : DfsProgram A T (Result T) :=
  Program.perform (I := dfs A T) (.delegate call)

def currentDateTimeUtc : DfsProgram A T QDateTime :=
  Program.perform (I := dfs A T) .currentDateTimeUtc

/-- `expiresAtForTtl` (DfsResolvingSmbClient.cpp:168). -/
def expiresAtForTtl (ttlSeconds : ℤ) : DfsProgram A T QDateTime := do
  return (← currentDateTimeUtc).addSecs (max 1 ttlSeconds)

/-- `isCacheFresh` (DfsResolvingSmbClient.cpp:172). -/
def isCacheFresh (expiresAtUtc : QDateTime) : DfsProgram A T Bool := do
  if expiresAtUtc.isNone then
    return true
  else
    return (← currentDateTimeUtc).before expiresAtUtc

/-- The earlier of two dates, the first of which may be invalid. -/
def earliest (expiresAtUtc candidate : QDateTime) : QDateTime :=
  if expiresAtUtc.isNone || candidate.before expiresAtUtc then candidate else expiresAtUtc

/-! ## The cache of connections -/

variable (tables : CaseTables)

/-- `cachedResolvedConnections` (DfsResolvingSmbClient.cpp:711). -/
def cachedResolvedConnections (connection : Connection) : DfsProgram A T (List Connection) := do
  let table ← Program.perform (I := dfs A T) .resolvedConnections
  match QHash.constFind table (cacheKey tables connection) with
  | none => return []
  | some entry => return if ← isCacheFresh entry.expiresAtUtc then entry.targets else []

/-- The loop of `resolveAndCache` over the time-outs of the targets. -/
def targetsExpiry : List DfsResolvedConnection → QDateTime → DfsProgram A T QDateTime
  | [], expiresAtUtc => return expiresAtUtc
  | target :: targets, expiresAtUtc => do
    let targetExpiresAt ← expiresAtForTtl target.ttlSeconds
    targetsExpiry targets (earliest expiresAtUtc targetExpiresAt)

/-- `resolveAndCache` (DfsResolvingSmbClient.cpp:722). -/
def resolveAndCache (connection : Connection) : DfsProgram A T (List Connection) := do
  let resolved : Result (List DfsResolvedConnection) ←
    Program.perform (I := dfs A T) (.resolveTargets connection)
  if !resolved.ok || resolved.value.isEmpty then
    return []
  else
    let targets := resolved.value.map (·.connection)
    let expiresAtUtc ← targetsExpiry resolved.value none
    let _ ← Program.perform (I := dfs A T)
      (.insertConnection (cacheKey tables connection) ⟨targets, expiresAtUtc⟩)
    return targets

/-- `forgetCachedConnection` (DfsResolvingSmbClient.cpp:748). -/
def forgetCachedConnection (connection : Connection) : DfsProgram A T Unit :=
  Program.perform (I := dfs A T) (.removeConnection (cacheKey tables connection))

/-! ## The cache of path mappings -/

/-- The length of the prefix a cache entry is compared by. -/
def DfsPathMappingCacheEntry.prefixSize (entry : DfsPathMappingCacheEntry) : ℕ :=
  match entry.mappings with
  | [] => 0
  | firstMapping :: _ => firstMapping.originalPrefix.length

/-- The loop of `cachedResolvedPathMappings` over the table
    (DfsResolvingSmbClient.cpp:781–796). -/
def bestPathMapping (sourceKey normalizedPath : QString) :
    List (QString × DfsPathMappingCacheEntry) → Option DfsPathMappingCacheEntry →
      DfsProgram A T (Option DfsPathMappingCacheEntry)
  | [], best => return best
  | (_, entry) :: rest, best => do
    let fresh ← isCacheFresh entry.expiresAtUtc
    match entry.mappings with
    | [] => bestPathMapping sourceKey normalizedPath rest best
    | firstMapping :: _ =>
      if !fresh || firstMapping.connectionKey ≠ sourceKey ||
          !isPathPrefix firstMapping.originalPrefix normalizedPath then
        bestPathMapping sourceKey normalizedPath rest best
      else
        match best with
        | none => bestPathMapping sourceKey normalizedPath rest (some entry)
        | some found =>
          bestPathMapping sourceKey normalizedPath rest
            (if found.prefixSize < firstMapping.originalPrefix.length then some entry
              else some found)

/-- `cachedResolvedPathMappings` (DfsResolvingSmbClient.cpp:773). -/
def cachedResolvedPathMappings (connection : Connection) (remotePath : QString) :
    DfsProgram A T (List DfsPathMapping) := do
  let table : QHash QString DfsPathMappingCacheEntry ←
    Program.perform (I := dfs A T) .resolvedPathMappings
  match ← bestPathMapping (cacheKey tables connection) (normalizeRemotePath remotePath) table
      none with
  | none => return []
  | some best => return best.mappings

/-- The mapping of one answer of the resolver, without its time-out
    (DfsResolvingSmbClient.cpp:813–825). -/
def mappingFor (connection : Connection) (remotePath : QString) (resolvedPath : DfsResolvedPath)
    (expiresAtUtc : QDateTime) : DfsPathMapping where
  connectionKey := cacheKey tables connection
  originalPrefix := normalizeRemotePath
    (if resolvedPath.originalPathPrefix.isEmpty then remotePath
      else resolvedPath.originalPathPrefix)
  targetConnection := resolvedPath.connection
  targetPrefix := normalizeRemotePath
    (if resolvedPath.targetPathPrefix.isEmpty then root else resolvedPath.targetPathPrefix)
  expiresAtUtc := expiresAtUtc

/-- The loop of `resolvePathAndCache` (DfsResolvingSmbClient.cpp:812–831). -/
def pathMappings (connection : Connection) (remotePath : QString) :
    List DfsResolvedPath → QDateTime → DfsProgram A T (List DfsPathMapping × QDateTime)
  | [], expiresAtUtc => return ([], expiresAtUtc)
  | resolvedPath :: rest, expiresAtUtc => do
    let mappingExpiresAt ← expiresAtForTtl resolvedPath.ttlSeconds
    let mapping := mappingFor tables connection remotePath resolvedPath mappingExpiresAt
    let (mappings, expiresAtUtc) ←
      pathMappings connection remotePath rest (earliest expiresAtUtc mappingExpiresAt)
    return (mapping :: mappings, expiresAtUtc)

/-- `resolvePathAndCache` (DfsResolvingSmbClient.cpp:800). -/
def resolvePathAndCache (connection : Connection) (remotePath : QString) :
    DfsProgram A T (List DfsPathMapping) := do
  let resolved : Result (List DfsResolvedPath) ←
    Program.perform (I := dfs A T) (.resolvePathTargets connection remotePath)
  match resolved.ok, resolved.value with
  | true, first :: rest => do
    let (mappings, expiresAtUtc) ←
      pathMappings tables connection remotePath (first :: rest) none
    let originalPrefix := (mappings.head?.map (·.originalPrefix)).getD []
    let _ ← Program.perform (I := dfs A T)
      (.insertPathMapping (pathCacheKey tables connection originalPrefix)
        ⟨mappings, expiresAtUtc⟩)
    return mappings
  | _, _ => return []

/-- `forgetCachedPathMapping` (DfsResolvingSmbClient.cpp:839). -/
def forgetCachedPathMapping (connection : Connection) (originalPrefix : QString) :
    DfsProgram A T Unit :=
  Program.perform (I := dfs A T)
    (.removePathMapping (pathCacheKey tables connection originalPrefix))

/-! ## Fallback from connection to connection -/

/-- How a loop over targets ends: with a result of its own, with the cache entry
    forgotten, or with all targets tried, the last of them with a failover error. -/
inductive TargetsLoop (T : Type) where
  | returned (result : Result T)
  | forgotten
  | exhausted (lastFailoverError : Option AppError)

/-- The loop of `runWithDfsFallback` over cached targets
    (DfsResolvingSmbClient.cpp:224–238). -/
def cachedTargetsLoop (operation : Connection → A) (connection : Connection) :
    List Connection → Option AppError → DfsProgram A T (TargetsLoop T)
  | [], lastFailoverError => return .exhausted lastFailoverError
  | cached :: rest, _ => do
    let cachedResult ← delegate (operation cached)
    if cachedResult.ok then
      return .returned cachedResult
    else if looksLikeShareDfsReferralFailure tables cachedResult.error then do
      forgetCachedConnection tables connection
      return .forgotten
    else if !isTargetFailoverError cachedResult.error then
      return .returned cachedResult
    else
      cachedTargetsLoop operation connection rest (some cachedResult.error)

/-- The loop of `runWithDfsFallback` over resolved targets
    (DfsResolvingSmbClient.cpp:255–264). -/
def resolvedTargetsLoop (operation : Connection → A) :
    List Connection → Option AppError → DfsProgram A T (TargetsLoop T)
  | [], lastFailoverError => return .exhausted lastFailoverError
  | target :: rest, _ => do
    let resolvedResult ← delegate (operation target)
    if resolvedResult.ok then
      return .returned resolvedResult
    else if !isTargetFailoverError resolvedResult.error then
      return .returned resolvedResult
    else
      resolvedTargetsLoop operation rest (some resolvedResult.error)

/-- What a loop over targets comes to, with `otherwise` where the code goes on. -/
def TargetsLoop.finish [Inhabited T] (loop : TargetsLoop T)
    (otherwise : DfsProgram A T (Result T)) : DfsProgram A T (Result T) :=
  match loop with
  | .returned result => return result
  | .exhausted (some error) => return Result.failure error
  | .exhausted none => otherwise
  | .forgotten => otherwise

/-- `runWithDfsFallback` (DfsResolvingSmbClient.cpp:216). -/
def runWithDfsFallback [Inhabited T] (connection : Connection) (operation : Connection → A) :
    DfsProgram A T (Result T) := do
  let cachedTargets ← cachedResolvedConnections tables connection
  let cachedLoop ← cachedTargetsLoop tables operation connection cachedTargets none
  cachedLoop.finish do
    let result ← delegate (operation connection)
    if result.ok || !looksLikeShareDfsReferralFailure tables result.error then
      return result
    else do
      let targets ← resolveAndCache tables connection
      let resolvedLoop ← resolvedTargetsLoop operation targets none
      resolvedLoop.finish (return result)

/-! ## Fallback from path to path -/

section

variable (operation : Connection → QString → A) (rebase : T → DfsPathMapping → T)

/-- A result of nested mappings that the loop over the outer ones ends with. -/
def decides (result : Result T) : Bool := result.ok || !isTargetFailoverError result.error

/-- The mapping from the original namespace to a nested target
    (DfsResolvingSmbClient.cpp:319–322). -/
def composedMapping (outerMapping nestedMapping : DfsPathMapping) : DfsPathMapping :=
  { nestedMapping with
    connectionKey := outerMapping.connectionKey
    originalPrefix := originalPathForMapping outerMapping nestedMapping.originalPrefix }

/-- The loop of `tryNestedPathMappings` over nested mappings
    (DfsResolvingSmbClient.cpp:307–342); `deeper` is the recursive call. -/
def nestedMappingsLoop [Inhabited T]
    (deeper : DfsPathMapping → QString → AppError → DfsProgram A T (Option (Result T)))
    (outerMapping : DfsPathMapping) (mappedPath : QString) :
    List DfsPathMapping → Option AppError → DfsProgram A T (Option (Result T))
  | [], lastFailoverError => return lastFailoverError.map Result.failure
  | nestedMapping :: rest, lastFailoverError =>
    if sameResolvedTarget tables nestedMapping outerMapping then
      nestedMappingsLoop deeper outerMapping mappedPath rest lastFailoverError
    else if !isPathPrefix nestedMapping.originalPrefix mappedPath then
      nestedMappingsLoop deeper outerMapping mappedPath rest lastFailoverError
    else do
      let nestedMappedPath := targetPathForMapping nestedMapping mappedPath
      let nestedResult ← delegate (operation nestedMapping.targetConnection nestedMappedPath)
      if nestedResult.ok then
        return some (.success
          (rebase nestedResult.value (composedMapping outerMapping nestedMapping)))
      else do
        let deeperResult ← deeper nestedMapping nestedMappedPath nestedResult.error
        match deeperResult.filter decides with
        | some result =>
          if result.ok then
            return some (.success (rebase result.value outerMapping))
          else
            return some result
        | none =>
          if !isTargetFailoverError nestedResult.error then
            return some (.failure nestedResult.error)
          else
            nestedMappingsLoop deeper outerMapping mappedPath rest (some nestedResult.error)

/-- `kMaxNestedDfsDepth` (DfsResolvingSmbClient.cpp:288). -/
def kMaxNestedDfsDepth : ℕ := 4

/-- `tryNestedPathMappings` (DfsResolvingSmbClient.cpp:281–349), by the depth that is
    left. -/
def tryNestedPathMappings [Inhabited T] :
    ℕ → DfsPathMapping → QString → AppError → DfsProgram A T (Option (Result T))
  | 0, _, _, _ => return none
  | depth + 1, outerMapping, mappedPath, triggerError =>
    if !mayHavePathDfsReferral tables triggerError then
      return none
    else do
      let cachedMappings ←
        cachedResolvedPathMappings tables outerMapping.targetConnection mappedPath
      let nestedMappings ←
        if cachedMappings.isEmpty then
          resolvePathAndCache tables outerMapping.targetConnection mappedPath
        else
          pure cachedMappings
      nestedMappingsLoop tables operation rebase
        (tryNestedPathMappings depth) outerMapping mappedPath nestedMappings none

/-- The loop of `runWithPathDfsFallback` over cached mappings
    (DfsResolvingSmbClient.cpp:354–379). -/
def cachedMappingsLoop [Inhabited T] (connection : Connection) (normalizedPath : QString) :
    List DfsPathMapping → Option AppError → DfsProgram A T (TargetsLoop T)
  | [], lastFailoverError => return .exhausted lastFailoverError
  | mapping :: rest, _ => do
    let mappedPath := targetPathForMapping mapping normalizedPath
    let cachedResult ← delegate (operation mapping.targetConnection mappedPath)
    if cachedResult.ok then
      return .returned (.success (rebase cachedResult.value mapping))
    else do
      let nestedResult ← tryNestedPathMappings tables operation rebase kMaxNestedDfsDepth mapping
        mappedPath cachedResult.error
      match nestedResult.filter decides with
      | some result => return .returned result
      | none =>
        if looksLikeDfsReferralFailure tables cachedResult.error then do
          forgetCachedPathMapping tables connection mapping.originalPrefix
          return .forgotten
        else if !isTargetFailoverError cachedResult.error then
          return .returned cachedResult
        else
          cachedMappingsLoop connection normalizedPath rest (some cachedResult.error)

/-- The loop of `runWithPathDfsFallback` over resolved mappings
    (DfsResolvingSmbClient.cpp:401–421). -/
def resolvedMappingsLoop [Inhabited T] (normalizedPath : QString) :
    List DfsPathMapping → Option AppError → DfsProgram A T (TargetsLoop T)
  | [], lastFailoverError => return .exhausted lastFailoverError
  | mapping :: rest, _ => do
    let mappedPath := targetPathForMapping mapping normalizedPath
    let resolvedResult ← delegate (operation mapping.targetConnection mappedPath)
    if resolvedResult.ok then
      return .returned (.success (rebase resolvedResult.value mapping))
    else do
      let nestedResult ← tryNestedPathMappings tables operation rebase kMaxNestedDfsDepth mapping
        mappedPath resolvedResult.error
      match nestedResult.filter decides with
      | some result => return .returned result
      | none =>
        if !isTargetFailoverError resolvedResult.error then
          return .returned resolvedResult
        else
          resolvedMappingsLoop normalizedPath rest (some resolvedResult.error)

/-- `runWithPathDfsFallback` (DfsResolvingSmbClient.cpp:272). -/
def runWithPathDfsFallback [Inhabited T] (connection : Connection) (remotePath : QString) :
    DfsProgram A T (Result T) := do
  let normalizedPath := normalizeRemotePath remotePath
  let cachedMappings ← cachedResolvedPathMappings tables connection normalizedPath
  let cachedLoop ← cachedMappingsLoop tables operation rebase connection normalizedPath
    cachedMappings none
  cachedLoop.finish do
    let result ← runWithDfsFallback tables connection fun candidate =>
      operation candidate normalizedPath
    if result.ok || !mayHavePathDfsReferral tables result.error then
      return result
    else do
      let mappings ← resolvePathAndCache tables connection normalizedPath
      let resolvedLoop ← resolvedMappingsLoop tables operation rebase normalizedPath mappings none
      resolvedLoop.finish (return result)

end

/-! ## The operations of the client -/

/-- The calls of the delegate that fall back. -/
inductive DelegateCall where
  | checkConnection (connection : Connection)
  | listDirectory (connection : Connection) (remotePath : QString)
  | createDirectory (connection : Connection) (remotePath : QString)
  | remove (connection : Connection) (remotePath : QString)
  | downloadFile (connection : Connection) (remotePath localPath : QString)
  | uploadFile (connection : Connection) (localPath remotePath : QString)
  deriving DecidableEq

/-- `checkConnection` (DfsResolvingSmbClient.cpp:429). -/
def checkConnection (connection : Connection) : DfsProgram DelegateCall Bool (Result Bool) :=
  runWithDfsFallback tables connection .checkConnection

/-- `listDirectory` (DfsResolvingSmbClient.cpp:440). -/
def listDirectory (connection : Connection) (remotePath : QString) :
    DfsProgram DelegateCall (List RemoteFileEntry) (Result (List RemoteFileEntry)) :=
  runWithPathDfsFallback tables .listDirectory rebaseEntriesToOriginalNamespace connection
    remotePath

/-- `createDirectory` (DfsResolvingSmbClient.cpp:459). -/
def createDirectory (connection : Connection) (remotePath : QString) :
    DfsProgram DelegateCall Bool (Result Bool) :=
  runWithPathDfsFallback tables .createDirectory (fun value _ => value) connection remotePath

/-- `remove` (DfsResolvingSmbClient.cpp:474). -/
def remove (connection : Connection) (remotePath : QString) :
    DfsProgram DelegateCall Bool (Result Bool) :=
  runWithPathDfsFallback tables .remove (fun value _ => value) connection remotePath

/-- `downloadFile` (DfsResolvingSmbClient.cpp:540). -/
def downloadFile (connection : Connection) (remotePath localPath : QString) :
    DfsProgram DelegateCall Bool (Result Bool) :=
  runWithPathDfsFallback tables (fun candidate candidatePath =>
    .downloadFile candidate candidatePath localPath) (fun value _ => value) connection remotePath

/-- `uploadFile` (DfsResolvingSmbClient.cpp:555). -/
def uploadFile (connection : Connection) (localPath remotePath : QString) :
    DfsProgram DelegateCall Bool (Result Bool) :=
  runWithPathDfsFallback tables (fun candidate candidatePath =>
    .uploadFile candidate localPath candidatePath) (fun value _ => value) connection remotePath

/-! ## The tables and an environment that keeps them -/

/-- The cache tables of the client (DfsResolvingSmbClient.h:137). -/
structure DfsCaches where
  resolvedConnections : QHash QString DfsConnectionCacheEntry := []
  resolvedPathMappings : QHash QString DfsPathMappingCacheEntry := []

/-- What a question does to the tables. -/
def DfsCaches.after (caches : DfsCaches) : DfsOp A → DfsCaches
  | .insertConnection key entry =>
    { caches with resolvedConnections := caches.resolvedConnections.insert key entry }
  | .removeConnection key =>
    { caches with resolvedConnections := caches.resolvedConnections.remove key }
  | .insertPathMapping key entry =>
    { caches with resolvedPathMappings := caches.resolvedPathMappings.insert key entry }
  | .removePathMapping key =>
    { caches with resolvedPathMappings := caches.resolvedPathMappings.remove key }
  | _ => caches

/-- A delegate, a resolver and a clock that answer by functions. -/
structure Surroundings (A T : Type) where
  delegate : A → Result T
  resolveTargets : Connection → Result (List DfsResolvedConnection) := fun _ => .success []
  resolvePathTargets : Connection → QString → Result (List DfsResolvedPath) :=
    fun _ _ => .success []
  now : QDateTime := some 0

/-- The environment they make with the cache tables. -/
def Surroundings.handler (surroundings : Surroundings A T) : Handler (dfs A T) DfsCaches :=
  fun caches op =>
    (match op with
      | .delegate call => surroundings.delegate call
      | .resolveTargets connection => surroundings.resolveTargets connection
      | .resolvePathTargets connection remotePath =>
        surroundings.resolvePathTargets connection remotePath
      | .currentDateTimeUtc => surroundings.now
      | .resolvedConnections => caches.resolvedConnections
      | .insertConnection _ _ => ()
      | .removeConnection _ => ()
      | .resolvedPathMappings => caches.resolvedPathMappings
      | .insertPathMapping _ _ => ()
      | .removePathMapping _ => (),
    caches.after op)

end SmbBrowser.Dfs
