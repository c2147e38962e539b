import SmbBrowser.Core.Types

/-!
# Paths of the DFS client

The path functions of infrastructure/smb/DfsResolvingSmbClient.cpp and the mappings
they are applied along.
-/

namespace SmbBrowser.Dfs

open SmbBrowser.Qt SmbBrowser.Core

def slash : QChar := 0x2F
def backslash : QChar := 0x5C

/-- `QStringLiteral("/")`. -/
def root : QString := [slash]

/-- `while (remotePath.contains("//")) remotePath.replace("//", "/")`; the first
    argument bounds the turns. -/
def collapseSlashes : ℕ → QString → QString
  | 0, s => s
  | n + 1, s =>
    if s.contains [slash, slash] then collapseSlashes n (s.replaceString [slash, slash] [slash])
    else s

/-- `while (s.size() > 1 && s.endsWith('/')) s.chop(1)`. -/
def chopSlashes : ℕ → QString → QString
  | 0, s => s
  | n + 1, s => if 1 < s.length ∧ s.endsWithChar slash then chopSlashes n s.dropLast else s

/-- `normalizeRemotePath` (DfsResolvingSmbClient.cpp:20). -/
def normalizeRemotePath (remotePath : QString) : QString :=
  let remotePath := remotePath.trimmed
  let remotePath := remotePath.replaceChar backslash slash
  let remotePath := collapseSlashes remotePath.length remotePath
  let remotePath := if remotePath.isEmpty then root else remotePath
  let remotePath := if remotePath.startsWith root then remotePath else slash :: remotePath
  chopSlashes remotePath.length remotePath

/-- `isPathPrefix` (DfsResolvingSmbClient.cpp:44). -/
def isPathPrefix (start remotePath : QString) : Bool :=
  let normalizedPrefix := normalizeRemotePath start
  let normalizedPath := normalizeRemotePath remotePath
  normalizedPrefix = root ∨ normalizedPath = normalizedPrefix ∨
    normalizedPath.startsWith (normalizedPrefix ++ [slash])

/-- `suffixAfterPrefix` (DfsResolvingSmbClient.cpp:52). -/
def suffixAfterPrefix (remotePath start : QString) : QString :=
  let normalizedPath := normalizeRemotePath remotePath
  let normalizedPrefix := normalizeRemotePath start
  if normalizedPrefix = root then
    if normalizedPath = root then [] else normalizedPath
  else if normalizedPath = normalizedPrefix then
    []
  else if !normalizedPath.startsWith (normalizedPrefix ++ [slash]) then
    []
  else
    normalizedPath.drop normalizedPrefix.length

/-- `joinRemotePath` (DfsResolvingSmbClient.cpp:67). -/
def joinRemotePath (start suffix : QString) : QString :=
  let normalizedPrefix := normalizeRemotePath start
  if suffix.isEmpty then
    normalizedPrefix
  else
    let normalizedSuffix := suffix.replaceChar backslash slash
    let normalizedSuffix :=
      if normalizedSuffix.startsWith root then normalizedSuffix else slash :: normalizedSuffix
    let normalizedSuffix := chopSlashes normalizedSuffix.length normalizedSuffix
    if normalizedPrefix = root then normalizedSuffix else normalizedPrefix ++ normalizedSuffix

/-! ## Mappings -/

/-- `DfsPathMapping` (DfsResolvingSmbClient.h:19). -/
structure DfsPathMapping where
  connectionKey : QString
  originalPrefix : QString
  targetConnection : Connection
  targetPrefix : QString
  expiresAtUtc : QDateTime

/-- `targetPathForMapping` (DfsResolvingSmbClient.cpp:98). -/
def targetPathForMapping (mapping : DfsPathMapping) (remotePath : QString) : QString :=
  joinRemotePath mapping.targetPrefix (suffixAfterPrefix remotePath mapping.originalPrefix)

/-- `originalPathForMapping` (DfsResolvingSmbClient.cpp:104). -/
def originalPathForMapping (mapping : DfsPathMapping) (targetPath : QString) : QString :=
  joinRemotePath mapping.originalPrefix (suffixAfterPrefix targetPath mapping.targetPrefix)

/-- `rebaseEntriesToOriginalNamespace` (DfsResolvingSmbClient.cpp:110). -/
def rebaseEntriesToOriginalNamespace (entries : List RemoteFileEntry) (mapping : DfsPathMapping) :
    List RemoteFileEntry :=
  entries.map fun entry =>
    { entry with remotePath := originalPathForMapping mapping entry.remotePath }

end SmbBrowser.Dfs
