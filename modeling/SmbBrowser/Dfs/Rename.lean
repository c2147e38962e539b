import SmbBrowser.Base.Guarded
import SmbBrowser.Dfs.FoundThrough

/-!
# Renaming across referrals

Model of `DfsResolvingSmbClient::rename` (DfsResolvingSmbClient.cpp:489): it renames on a
cached target that both paths lead to, on the connection itself or another server of its
share, and on the first target the resolver names for the source.

Results:
* `rename_alike`: in runs whose mappings cover both paths, every call of the delegate is
  given both paths in the namespace of its connection;
* `not_rename_alike`: a target path that the mapping of the source does not cover.
-/

namespace SmbBrowser.Dfs

open SmbBrowser.Base SmbBrowser.Qt SmbBrowser.Core

/-! ## The operation -/

/-- `m_delegate.rename(connection, secret, source, target, context)`. -/
structure RenameCall where
  connection : Connection
  source : QString
  target : QString
  deriving DecidableEq

section

variable (tables : CaseTables)

/-- `cachedResolvedPathMapping` (DfsResolvingSmbClient.cpp:764). -/
def cachedResolvedPathMapping (connection : Connection) (remotePath : QString) :
    DfsProgram RenameCall Bool (Option DfsPathMapping) := do
  return (← cachedResolvedPathMappings tables connection remotePath).head?

/-- The rename on cached mappings (DfsResolvingSmbClient.cpp:500–513); the result is none
    where the code goes on. -/
def renameCached (connection : Connection) (sourcePath targetPath : QString) :
    DfsProgram RenameCall Bool (Option (Result Bool)) := do
  let cachedSource ← cachedResolvedPathMapping tables connection sourcePath
  let cachedTarget ← cachedResolvedPathMapping tables connection targetPath
  match cachedSource, cachedTarget with
  | some source, some target =>
    if sameResolvedTarget tables source target then do
      let cachedResult ← delegate ⟨source.targetConnection, targetPathForMapping source sourcePath,
        targetPathForMapping target targetPath⟩
      if cachedResult.ok || !looksLikeDfsReferralFailure tables cachedResult.error then
        return some cachedResult
      else do
        forgetCachedPathMapping tables connection source.originalPrefix
        forgetCachedPathMapping tables connection target.originalPrefix
        return none
    else
      return none
  | _, _ => return none

/-- `rename` (DfsResolvingSmbClient.cpp:489). -/
def rename (connection : Connection) (sourceRemotePath targetRemotePath : QString) :
    DfsProgram RenameCall Bool (Result Bool) := do
  let sourcePath := normalizeRemotePath sourceRemotePath
  let targetPath := normalizeRemotePath targetRemotePath
  match ← renameCached tables connection sourcePath targetPath with
  | some cachedResult => return cachedResult
  | none => do
    let result ← runWithDfsFallback tables connection fun candidate =>
      (⟨candidate, sourcePath, targetPath⟩ : RenameCall)
    if result.ok || !looksLikePathDfsReferralFailure tables result.error then
      return result
    else do
      match ← resolvePathAndCache tables connection sourcePath with
      | [] => return result
      | mapping :: _ => do
        let mappedTargetPath :=
          if isPathPrefix mapping.originalPrefix targetPath then
            targetPathForMapping mapping targetPath
          else
            targetPath
        delegate ⟨mapping.targetConnection, targetPathForMapping mapping sourcePath,
          mappedTargetPath⟩

end

/-! ## Calls in one namespace -/

section

variable (tables : CaseTables) (connection : Connection) (sourcePath targetPath : QString)

/-- The servers of the share that an answer of the cache or of the resolver names. -/
def shareTargets : Event (dfs RenameCall Bool) → List Connection
  | ⟨.resolvedConnections, table⟩ =>
    ((QHash.constFind table (cacheKey tables connection)).map (·.targets)).getD []
  | ⟨.resolveTargets _, resolved⟩ =>
    List.map (·.connection) (Result.value (T := List DfsResolvedConnection) resolved)
  | _ => []

/-- A call on the connection itself, or on another server of its share, with the paths as
    they were requested. -/
structure Direct (es : List (Event (dfs RenameCall Bool))) (call : RenameCall) : Prop where
  candidate : call.connection = connection ∨
    ∃ e ∈ es, call.connection ∈ shareTargets tables connection e
  source : call.source = sourcePath
  target : call.target = targetPath

/-- The mapping applies to a path of the connection, and `image` is where it leads. -/
structure MapsTo (mapping : DfsPathMapping) (path image : QString) : Prop where
  key : mapping.connectionKey = cacheKey tables connection
  covers : isPathPrefix mapping.originalPrefix path = true
  image : image = targetPathForMapping mapping path

/-- A mapping that the cache or the resolver offered for one of the two paths. -/
def Known (es : List (Event (dfs RenameCall Bool))) (mapping : DfsPathMapping) : Prop :=
  Offered tables es connection sourcePath mapping ∨ Offered tables es connection targetPath mapping

/-- A call on the target of a mapping that applies to the source, whose paths are the images
    of the requested ones under known mappings to that target. -/
def Mapped (es : List (Event (dfs RenameCall Bool))) (call : RenameCall) : Prop :=
  ∃ source target, Known tables connection sourcePath targetPath es source ∧
    Known tables connection sourcePath targetPath es target ∧
    MapsTo tables connection source sourcePath call.source ∧
    MapsTo tables connection target targetPath call.target ∧
    call.connection = source.targetConnection ∧
    (target = source ∨ sameResolvedTarget tables source target = true)

/-- Cached prefixes of a path are prefixes of it as it stands, not only when its end is
    trimmed once more. -/
def ReadAlike (table : QHash QString DfsPathMappingCacheEntry) (path : QString) : Prop :=
  ∀ cached ∈ table, ∀ mapping ∈ cached.2.mappings.head?,
    isPathPrefix mapping.originalPrefix (normalizeRemotePath path) = true →
      isPathPrefix mapping.originalPrefix path = true

/-- An answer whose mapping covers both paths: the first mapping the resolver names for the
    source, and those that are cached. -/
def CoversPaths : Event (dfs RenameCall Bool) → Prop
  | ⟨.resolvedPathMappings, table⟩ => ReadAlike table sourcePath ∧ ReadAlike table targetPath
  | ⟨.resolvePathTargets _ _, resolved⟩ =>
    Result.ok (T := List DfsResolvedPath) resolved = true →
      ∀ first ∈ (Result.value (T := List DfsResolvedPath) resolved).head?,
        let mapping := mappingFor tables connection sourcePath first none
        isPathPrefix mapping.originalPrefix sourcePath = true ∧
          isPathPrefix mapping.originalPrefix targetPath = true
  | _ => True

instance decidableReadAlike (table : QHash QString DfsPathMappingCacheEntry) (path : QString) :
    Decidable (ReadAlike table path) :=
  List.decidableBAll (fun cached : QString × DfsPathMappingCacheEntry =>
    ∀ mapping ∈ cached.2.mappings.head?,
      isPathPrefix mapping.originalPrefix (normalizeRemotePath path) = true →
        isPathPrefix mapping.originalPrefix path = true) table

instance (e : Event (dfs RenameCall Bool)) :
    Decidable (CoversPaths tables connection sourcePath targetPath e) :=
  match e with
  | ⟨.resolvedPathMappings, table⟩ =>
    @instDecidableAnd _ _ (decidableReadAlike table sourcePath) (decidableReadAlike table targetPath)
  | ⟨.resolvePathTargets _ _, resolved⟩ =>
    inferInstanceAs (Decidable (Result.ok (T := List DfsResolvedPath) resolved = true →
      ∀ first ∈ (Result.value (T := List DfsResolvedPath) resolved).head?,
        isPathPrefix (mappingFor tables connection sourcePath first none).originalPrefix sourcePath =
            true ∧
          isPathPrefix (mappingFor tables connection sourcePath first none).originalPrefix
            targetPath = true))
  | ⟨.delegate _, _⟩ | ⟨.resolveTargets _, _⟩ | ⟨.currentDateTimeUtc, _⟩
  | ⟨.resolvedConnections, _⟩ | ⟨.insertConnection _ _, _⟩ | ⟨.removeConnection _, _⟩
  | ⟨.insertPathMapping _ _, _⟩ | ⟨.removePathMapping _, _⟩ => isTrue trivial

/-- An answer of the resolver with no mapping that covers the target. -/
def LeavesOut : Event (dfs RenameCall Bool) → Prop
  | ⟨.resolvePathTargets _ _, resolved⟩ =>
    Result.ok (T := List DfsResolvedPath) resolved = true →
      ∀ resolvedPath ∈ Result.value (T := List DfsResolvedPath) resolved,
        isPathPrefix (mappingFor tables connection sourcePath resolvedPath none).originalPrefix
          targetPath = false
  | _ => False

/-- A rename that keeps both paths in one namespace, and fails without another call when
    the mappings leave out the target. -/
structure Alike (es : List (Event (dfs RenameCall Bool))) (result : Result Bool) : Prop where
  calls : ∀ earlier call answer later, es = earlier ++ ⟨.delegate call, answer⟩ :: later →
    Direct tables connection sourcePath targetPath earlier call ∨
      Mapped tables connection sourcePath targetPath earlier call
  fails : ∀ earlier e later, es = earlier ++ e :: later →
    LeavesOut tables connection sourcePath targetPath e → later = [] ∧ result.ok = false

end

/-! ## What the lookups ask -/

section

variable {A T : Type} {P : (dfs A T).Op → Prop} {tables : CaseTables} {connection : Connection}
  {path : QString}

theorem questions_isCacheFresh (hclock : P .currentDateTimeUtc) (expiresAtUtc : QDateTime) :
    Program.Questions P (isCacheFresh (A := A) (T := T) expiresAtUtc) := by
  rw [isCacheFresh]
  split
  · trivial
  · exact ⟨hclock, fun _ => trivial⟩

theorem questions_cachedResolvedConnections (htable : P .resolvedConnections)
    (hclock : P .currentDateTimeUtc) :
    Program.Questions P (cachedResolvedConnections (A := A) (T := T) tables connection) := by
  rw [cachedResolvedConnections]
  refine Program.Questions.ask htable fun table => ?_
  cases QHash.constFind table (cacheKey tables connection) with
  | none => trivial
  | some entry => exact (questions_isCacheFresh hclock _).bind fun _ => trivial

theorem questions_targetsExpiry (hclock : P .currentDateTimeUtc)
    (targets : List DfsResolvedConnection) (expiresAtUtc : QDateTime) :
    Program.Questions P (targetsExpiry (A := A) (T := T) targets expiresAtUtc) := by
  induction targets generalizing expiresAtUtc with
  | nil => trivial
  | cons target targets ih => exact ⟨hclock, fun _ => ih _⟩

theorem questions_resolveAndCache (hresolve : P (.resolveTargets connection))
    (hclock : P .currentDateTimeUtc) (hinsert : ∀ key entry, P (.insertConnection key entry)) :
    Program.Questions P (resolveAndCache (A := A) (T := T) tables connection) := by
  rw [resolveAndCache]
  refine Program.Questions.ask hresolve fun resolved => ?_
  split
  · trivial
  · exact (questions_targetsExpiry hclock _ _).bind fun _ => ⟨hinsert _ _, fun _ => trivial⟩

theorem questions_bestPathMapping (hclock : P .currentDateTimeUtc) (sourceKey : QString)
    (order : List (QString × DfsPathMappingCacheEntry)) (best : Option DfsPathMappingCacheEntry) :
    Program.Questions P (bestPathMapping (A := A) (T := T) sourceKey path order best) := by
  induction order generalizing best with
  | nil => trivial
  | cons cached order ih =>
    obtain ⟨key, entry⟩ := cached
    rw [bestPathMapping]
    refine (questions_isCacheFresh hclock _).bind fun fresh => ?_
    split
    · exact ih best
    · split
      · exact ih best
      · split
        · exact ih _
        · exact ih _

theorem questions_cachedResolvedPathMappings (htable : P .resolvedPathMappings)
    (hclock : P .currentDateTimeUtc) :
    Program.Questions P (cachedResolvedPathMappings (A := A) (T := T) tables connection path) := by
  rw [cachedResolvedPathMappings]
  refine Program.Questions.ask htable fun table => ?_
  refine (questions_bestPathMapping hclock _ _ _).bind fun best => ?_
  split
  · trivial
  · trivial

theorem questions_pathMappings (hclock : P .currentDateTimeUtc) (resolved : List DfsResolvedPath)
    (expiresAtUtc : QDateTime) :
    Program.Questions P
      (pathMappings (A := A) (T := T) tables connection path resolved expiresAtUtc) := by
  induction resolved generalizing expiresAtUtc with
  | nil => trivial
  | cons resolvedPath resolved ih =>
    exact ⟨hclock, fun _ => (ih _).bind fun _ => trivial⟩

theorem questions_resolvePathAndCache (hresolve : P (.resolvePathTargets connection path))
    (hclock : P .currentDateTimeUtc) (hinsert : ∀ key entry, P (.insertPathMapping key entry)) :
    Program.Questions P (resolvePathAndCache (A := A) (T := T) tables connection path) := by
  rw [resolvePathAndCache]
  refine Program.Questions.ask hresolve fun resolved => ?_
  split
  · exact (questions_pathMappings hclock _ _).bind fun _ => ⟨hinsert _ _, fun _ => trivial⟩
  · trivial

end

/-! ## What the lookups answer -/

section

variable {A T : Type} {tables : CaseTables} {connection : Connection} {path : QString}
  {es : List (Event (dfs A T))}

/-- The first mapping of a lookup is the first one of a cached entry, and applies. -/
theorem meets_cachedResolvedPathMappings_first :
    Meets .history (cachedResolvedPathMappings (A := A) (T := T) tables connection path)
      (fun mappings es' => ∀ mapping ∈ mappings.head?,
        ∃ table : QHash QString DfsPathMappingCacheEntry,
          (⟨.resolvedPathMappings, table⟩ : Event (dfs A T)) ∈ es' ∧ ∃ cached ∈ table,
          mapping ∈ cached.2.mappings.head? ∧
          mapping.connectionKey = cacheKey tables connection ∧
          isPathPrefix mapping.originalPrefix (normalizeRemotePath path) = true) es := by
  rw [cachedResolvedPathMappings]
  refine meets_ask_history fun (table : QHash QString DfsPathMappingCacheEntry) => ?_
  refine ((meets_history_grows _ _).and (meets_bestPathMapping_history
    (P := fun entry => ∃ cached ∈ table, cached.2 = entry ∧ ∀ mapping ∈ entry.mappings.head?,
      mapping.connectionKey = cacheKey tables connection ∧
        isPathPrefix mapping.originalPrefix (normalizeRemotePath path) = true)
    (by simp) ?_)).bind fun best es' hbest => ?_
  · intro cached hmem firstMapping rest hmappings hkey hpath
    refine ⟨cached, hmem, rfl, ?_⟩
    rw [hmappings]
    rintro mapping ⟨⟩
    exact ⟨hkey, hpath⟩
  · obtain ⟨hgrows, hbest⟩ := hbest
    cases best with
    | none =>
      rintro mapping ⟨⟩
    | some entry =>
      intro mapping hmapping
      obtain ⟨cached, hmem, hentry, hfirst⟩ := hbest entry rfl
      refine ⟨table, hgrows (by simp), cached, hmem, ?_, hfirst mapping hmapping⟩
      rw [hentry]
      exact hmapping

/-- A question of the clock or for the table. -/
def Timing : (dfs A T).Op → Prop
  | .currentDateTimeUtc => True
  | .insertPathMapping _ _ => True
  | _ => False

/-- The resolver names no target, and no question follows; or the first mapping is that of
    its first target. -/
theorem meets_resolvePathAndCache_first :
    Meets .history (resolvePathAndCache (A := A) (T := T) tables connection path)
      (fun mappings es' => ∃ resolved : Result (List DfsResolvedPath), ∃ added,
        es' = es ++ (⟨.resolvePathTargets connection path, resolved⟩ : Event (dfs A T)) :: added ∧
        ((mappings = [] ∧ added = []) ∨
          (resolved.ok = true ∧ (∀ e ∈ added, Timing e.op) ∧ ∃ first ∈ resolved.value.head?,
            ∃ mapping ∈ mappings.head?,
              mapping.untimed = mappingFor tables connection path first none))) es := by
  rw [resolvePathAndCache]
  refine meets_ask_history fun resolved => ?_
  split
  · rename_i first others hok hvalue
    have hfirst : ∀ {es}, Meets .history
        (pathMappings (A := A) (T := T) tables connection path (first :: others) none)
        (fun found _ => ∃ mapping ∈ found.1.head?,
          mapping.untimed = mappingFor tables connection path first none) es := by
      intro es
      refine meets_pathMappings_history.mono fun found es' hfound => ?_
      obtain ⟨mappings, expiresAtUtc⟩ := found
      cases mappings with
      | nil => cases hfound
      | cons mapping mappings =>
        rw [List.map_cons, List.map_cons, List.cons.injEq] at hfound
        exact ⟨mapping, rfl, hfound.1⟩
    refine (Program.Questions.meets (P := Timing) (Q := fun mappings _ =>
      ∃ mapping ∈ mappings.head?,
        mapping.untimed = mappingFor tables connection path first none) ?_ ?_).mono ?_
    · exact (questions_pathMappings trivial _ _).bind fun _ => ⟨trivial, fun _ => trivial⟩
    · exact hfirst.bind fun found es' hfound => meets_ask_history fun _ => hfound
    · rintro mappings es' ⟨hmapping, added, rfl, hadded⟩
      refine ⟨resolved, added, ?_, .inr ⟨hok, hadded, first, ?_, hmapping⟩⟩
      · rw [List.append_assoc]
        rfl
      · rw [hvalue]
        rfl
  · exact ⟨resolved, [], rfl, .inl ⟨rfl, rfl⟩⟩

end

/-! ## Calls -/

section

variable {tables : CaseTables} {connection : Connection} {sourcePath targetPath path : QString}
  {es es' : List (Event (dfs RenameCall Bool))} {call : RenameCall}

theorem Direct.mono (h : Direct tables connection sourcePath targetPath es call) (hes : es ⊆ es') :
    Direct tables connection sourcePath targetPath es' call := by
  refine ⟨h.candidate.imp_right ?_, h.source, h.target⟩
  rintro ⟨e, he, hmem⟩
  exact ⟨e, hes he, hmem⟩

/-- What the delegate may be asked for. -/
def Renames (tables : CaseTables) (connection : Connection) (sourcePath targetPath : QString)
    (es : List (Event (dfs RenameCall Bool))) : (dfs RenameCall Bool).Op → Prop
  | .delegate call => Direct tables connection sourcePath targetPath es call ∨
    Mapped tables connection sourcePath targetPath es call
  | _ => True

/-- Renames in one namespace, while the mappings cover the paths. -/
abbrev inOneNamespace (tables : CaseTables) (connection : Connection) (sourcePath targetPath : QString) :
    Contract (dfs RenameCall Bool) (List (Event (dfs RenameCall Bool))) :=
  .guarded (Renames tables connection sourcePath targetPath)
    (CoversPaths tables connection sourcePath targetPath)

/-- The mappings so far cover the paths. -/
abbrev Covered (tables : CaseTables) (connection : Connection) (sourcePath targetPath : QString)
    (es : List (Event (dfs RenameCall Bool))) : Prop :=
  ∀ e ∈ es, CoversPaths tables connection sourcePath targetPath e

/-- A question that is not for the delegate. -/
def Quietly : (dfs RenameCall Bool).Op → Prop
  | .delegate _ => False
  | _ => True

theorem renames_of_quietly {op : (dfs RenameCall Bool).Op} (h : Quietly op) :
    Renames tables connection sourcePath targetPath es op := by
  cases op with
  | delegate call => exact h.elim
  | _ => trivial

/-- A lookup asks no delegate, and answers as its history says. -/
theorem meets_lookup {β : Type} {p : DfsProgram RenameCall Bool β}
    {Q : β → List (Event (dfs RenameCall Bool)) → Prop} (h : Meets .history p Q es)
    (hp : Program.Questions Quietly p)
    (hes : Covered tables connection sourcePath targetPath es) :
    Meets (inOneNamespace tables connection sourcePath targetPath) p
      (fun a es' => (Q a es' ∧ es ⊆ es') ∧ Covered tables connection sourcePath targetPath es') es :=
  Meets.guarded_of_history (h.and (meets_history_grows p es)) hp
    (fun _ _ => renames_of_quietly) hes

theorem meets_renameCall {β : Type} {f : Result Bool → DfsProgram RenameCall Bool β}
    {Q : β → List (Event (dfs RenameCall Bool)) → Prop}
    (hcall : Renames tables connection sourcePath targetPath es (.delegate call))
    (hes : Covered tables connection sourcePath targetPath es)
    (h : ∀ answer es', es ⊆ es' → Covered tables connection sourcePath targetPath es' →
      Meets (inOneNamespace tables connection sourcePath targetPath) (f answer) Q es') :
    Meets (inOneNamespace tables connection sourcePath targetPath) ((delegate call).bind f) Q es := by
  refine ⟨hcall, ?_⟩
  rintro answer m ⟨hevent, rfl⟩
  refine h answer _ (List.subset_append_left ..) fun e he => ?_
  rcases List.mem_append.1 he with he | he
  · exact hes e he
  · rwa [List.mem_singleton.1 he]

/-- A part of the operation that asks as it should. -/
abbrev Goes {β : Type} (tables : CaseTables) (connection : Connection)
    (sourcePath targetPath : QString) (p : DfsProgram RenameCall Bool β)
    (es : List (Event (dfs RenameCall Bool))) : Prop :=
  Meets (inOneNamespace tables connection sourcePath targetPath) p
    (fun _ es' => es ⊆ es' ∧ Covered tables connection sourcePath targetPath es') es

theorem goes_quietly {β : Type} {p : DfsProgram RenameCall Bool β}
    (hp : Program.Questions Quietly p)
    (hes : Covered tables connection sourcePath targetPath es) :
    Goes tables connection sourcePath targetPath p es :=
  (meets_lookup (meets_history_grows p es) hp hes).mono fun _ _ h => ⟨h.1.1, h.2⟩

/-! ### Other servers of the share -/

theorem mem_shareTargets_cached :
    Meets .history (cachedResolvedConnections (A := RenameCall) (T := Bool) tables connection)
      (fun targets es' => ∀ target ∈ targets, ∃ e ∈ es', target ∈ shareTargets tables connection e)
      es := by
  rw [cachedResolvedConnections]
  refine meets_ask_history fun table => ?_
  cases hfind : QHash.constFind table (cacheKey tables connection) with
  | none =>
    rintro target ⟨⟩
  | some entry =>
    refine (meets_history_grows _ _).bind fun fresh es' hgrows => ?_
    intro target hmem
    refine ⟨_, hgrows (List.mem_append_right es (List.mem_singleton_self _)), ?_⟩
    show target ∈ ((QHash.constFind _ _).map _).getD []
    rw [hfind]
    split at hmem
    · exact hmem
    · cases hmem

theorem mem_shareTargets_resolved :
    Meets .history (resolveAndCache (A := RenameCall) (T := Bool) tables connection)
      (fun targets es' => ∀ target ∈ targets, ∃ e ∈ es', target ∈ shareTargets tables connection e)
      es := by
  rw [resolveAndCache]
  refine meets_ask_history fun resolved => ?_
  split
  · rintro target ⟨⟩
  · refine (meets_history_grows _ _).bind fun expiresAtUtc es' hgrows => ?_
    refine meets_ask_history fun _ => fun target hmem => ?_
    exact ⟨_, List.mem_append_left _ (hgrows (List.mem_append_right es (List.mem_singleton_self _))),
      hmem⟩

/-- A call with the paths as they were requested, on a candidate for the connection. -/
theorem renames_direct {candidate : Connection} (h : candidate = connection ∨
    ∃ e ∈ es, candidate ∈ shareTargets tables connection e) :
    Renames tables connection sourcePath targetPath es
      (.delegate ⟨candidate, sourcePath, targetPath⟩) :=
  .inl ⟨h, rfl, rfl⟩

theorem goes_cachedTargetsLoop {targets : List Connection} {lastFailoverError : Option AppError}
    (htargets : ∀ target ∈ targets, ∃ e ∈ es, target ∈ shareTargets tables connection e)
    (hes : Covered tables connection sourcePath targetPath es) :
    Goes tables connection sourcePath targetPath
      (cachedTargetsLoop (T := Bool) tables
        (fun candidate => (⟨candidate, sourcePath, targetPath⟩ : RenameCall)) connection targets
        lastFailoverError) es := by
  induction targets generalizing es lastFailoverError with
  | nil => exact ⟨fun e he => he, hes⟩
  | cons cached rest ih =>
    obtain ⟨hcached, hrest⟩ := List.forall_mem_cons.1 htargets
    rw [cachedTargetsLoop]
    refine meets_renameCall (renames_direct (.inr hcached)) hes fun answer es₁ hgrows hes₁ => ?_
    split
    · exact ⟨hgrows, hes₁⟩
    split
    · have hforget : Program.Questions Quietly
          (forgetCachedConnection (A := RenameCall) (T := Bool) tables connection) :=
        ⟨trivial, fun _ => trivial⟩
      refine (goes_quietly hforget hes₁).bind fun _ es₂ h => ?_
      exact ⟨List.Subset.trans hgrows h.1, h.2⟩
    split
    · exact ⟨hgrows, hes₁⟩
    · refine (ih (fun target hmem => ?_) hes₁).mono fun _ es₂ h => ⟨List.Subset.trans hgrows h.1, h.2⟩
      obtain ⟨e, he, htarget⟩ := hrest target hmem
      exact ⟨e, hgrows he, htarget⟩

theorem goes_resolvedTargetsLoop {targets : List Connection} {lastFailoverError : Option AppError}
    (htargets : ∀ target ∈ targets, ∃ e ∈ es, target ∈ shareTargets tables connection e)
    (hes : Covered tables connection sourcePath targetPath es) :
    Goes tables connection sourcePath targetPath
      (resolvedTargetsLoop (T := Bool)
        (fun candidate => (⟨candidate, sourcePath, targetPath⟩ : RenameCall)) targets
        lastFailoverError) es := by
  induction targets generalizing es lastFailoverError with
  | nil => exact ⟨fun e he => he, hes⟩
  | cons target rest ih =>
    obtain ⟨htarget, hrest⟩ := List.forall_mem_cons.1 htargets
    rw [resolvedTargetsLoop]
    refine meets_renameCall (renames_direct (.inr htarget)) hes fun answer es₁ hgrows hes₁ => ?_
    split
    · exact ⟨hgrows, hes₁⟩
    split
    · exact ⟨hgrows, hes₁⟩
    · refine (ih (fun target hmem => ?_) hes₁).mono fun _ es₂ h => ⟨List.Subset.trans hgrows h.1, h.2⟩
      obtain ⟨e, he, htarget⟩ := hrest target hmem
      exact ⟨e, hgrows he, htarget⟩

theorem goes_finish {loop : TargetsLoop Bool} {otherwise : DfsProgram RenameCall Bool (Result Bool)}
    (hes : Covered tables connection sourcePath targetPath es)
    (h : Goes tables connection sourcePath targetPath otherwise es) :
    Goes tables connection sourcePath targetPath (loop.finish otherwise) es := by
  cases loop with
  | returned result => exact ⟨fun e he => he, hes⟩
  | forgotten => exact h
  | exhausted lastFailoverError =>
    cases lastFailoverError with
    | none => exact h
    | some error => exact ⟨fun e he => he, hes⟩

/-- The fallback to other servers of the share leaves the paths as they are. -/
theorem goes_runWithDfsFallback (hes : Covered tables connection sourcePath targetPath es) :
    Goes tables connection sourcePath targetPath
      (runWithDfsFallback tables connection fun candidate =>
        (⟨candidate, sourcePath, targetPath⟩ : RenameCall)) es := by
  rw [runWithDfsFallback]
  refine (meets_lookup mem_shareTargets_cached
    (questions_cachedResolvedConnections trivial trivial) hes).bind fun targets es₁ h₁ => ?_
  obtain ⟨⟨htargets, hgrows₁⟩, hes₁⟩ := h₁
  refine (goes_cachedTargetsLoop htargets hes₁).bind fun loop es₂ h₂ => ?_
  have hgrows := List.Subset.trans hgrows₁ h₂.1
  refine (goes_finish h₂.2 ?_).mono fun _ es' h => ⟨List.Subset.trans hgrows h.1, h.2⟩
  refine meets_renameCall (renames_direct (.inl rfl)) h₂.2 fun answer es₃ hgrows₃ hes₃ => ?_
  split
  · exact ⟨hgrows₃, hes₃⟩
  refine (meets_lookup mem_shareTargets_resolved
    (questions_resolveAndCache trivial trivial fun _ _ => trivial) hes₃).bind
      fun targets es₄ h₄ => ?_
  obtain ⟨⟨htargets, hgrows₄⟩, hes₄⟩ := h₄
  refine (goes_resolvedTargetsLoop htargets hes₄).bind fun loop es₅ h₅ => ?_
  have hgrows := List.Subset.trans (List.Subset.trans hgrows₃ hgrows₄) h₅.1
  refine (goes_finish h₅.2 ?_).mono fun _ es' h => ⟨List.Subset.trans hgrows h.1, h.2⟩
  exact ⟨fun e he => he, h₅.2⟩

/-! ### Mappings -/

/-- A cached mapping for one of the paths applies to it. -/
theorem meets_cachedResolvedPathMapping (hpath : path = sourcePath ∨ path = targetPath)
    (hes : Covered tables connection sourcePath targetPath es) :
    Meets (inOneNamespace tables connection sourcePath targetPath)
      (cachedResolvedPathMapping tables connection path)
      (fun found es' => (∀ mapping ∈ found, Offered tables es' connection path mapping ∧
        MapsTo tables connection mapping path (targetPathForMapping mapping path)) ∧
        es ⊆ es' ∧ Covered tables connection sourcePath targetPath es') es := by
  rw [cachedResolvedPathMapping]
  refine (meets_lookup ((looksUp_cachedResolvedPathMappings es).and
    meets_cachedResolvedPathMappings_first)
      (questions_cachedResolvedPathMappings trivial trivial) hes).bind fun mappings es₁ h => ?_
  obtain ⟨⟨⟨⟨-, hoffered⟩, hfirst⟩, hgrows⟩, hes₁⟩ := h
  refine ⟨fun mapping hmapping => ?_, hgrows, hes₁⟩
  obtain ⟨table, htable, cached, hcached, hhead, hkey, hcovers⟩ := hfirst mapping hmapping
  refine ⟨hoffered mapping (List.mem_of_mem_head? hmapping), hkey, ?_, rfl⟩
  have hread : ReadAlike table path := by
    obtain hsource | htarget := hpath
    · rw [hsource]
      exact (hes₁ _ htable).1
    · rw [htarget]
      exact (hes₁ _ htable).2
  exact hread cached hcached mapping hhead hcovers

/-- The rename on cached mappings. -/
theorem goes_renameCached (hes : Covered tables connection sourcePath targetPath es) :
    Goes tables connection sourcePath targetPath
      (renameCached tables connection sourcePath targetPath) es := by
  rw [renameCached]
  refine (meets_cachedResolvedPathMapping (.inl rfl) hes).bind fun cachedSource es₁ h₁ => ?_
  obtain ⟨hsource, hgrows₁, hes₁⟩ := h₁
  refine (meets_cachedResolvedPathMapping (.inr rfl) hes₁).bind fun cachedTarget es₂ h₂ => ?_
  obtain ⟨htarget, hgrows₂, hes₂⟩ := h₂
  have hgrows := List.Subset.trans hgrows₁ hgrows₂
  cases cachedSource with
  | none => exact ⟨hgrows, hes₂⟩
  | some source =>
    cases cachedTarget with
    | none => exact ⟨hgrows, hes₂⟩
    | some target =>
      obtain ⟨hofferedSource, hmapsSource⟩ := hsource source rfl
      obtain ⟨hofferedTarget, hmapsTarget⟩ := htarget target rfl
      dsimp only
      split
      · rename_i hsame
        refine meets_renameCall (.inr ⟨source, target, .inl (hofferedSource.mono hgrows₂),
          .inr hofferedTarget, hmapsSource, hmapsTarget, rfl, .inr hsame⟩) hes₂
            fun answer es₃ hgrows₃ hes₃ => ?_
        have hgrows' := List.Subset.trans hgrows hgrows₃
        split
        · exact ⟨hgrows', hes₃⟩
        · have hforget : ∀ originalPrefix, Program.Questions Quietly
              (forgetCachedPathMapping (A := RenameCall) (T := Bool) tables connection
                originalPrefix) := fun _ => ⟨trivial, fun _ => trivial⟩
          refine (goes_quietly (hforget _) hes₃).bind fun _ es₄ h₄ => ?_
          refine (goes_quietly (hforget _) h₄.2).bind fun _ es₅ h₅ => ?_
          exact ⟨List.Subset.trans (List.Subset.trans hgrows' h₄.1) h₅.1, h₅.2⟩
      · exact ⟨hgrows, hes₂⟩

/-- The whole operation. -/
theorem goes_rename {sourceRemotePath targetRemotePath : QString} :
    Goes tables connection (normalizeRemotePath sourceRemotePath)
      (normalizeRemotePath targetRemotePath)
      (rename tables connection sourceRemotePath targetRemotePath) [] := by
  rw [rename]
  have hnone : Covered tables connection (normalizeRemotePath sourceRemotePath)
      (normalizeRemotePath targetRemotePath) [] := fun e he => absurd he List.not_mem_nil
  refine (goes_renameCached hnone).bind fun cachedResult es₁ h₁ => ?_
  cases cachedResult with
  | some cachedResult => exact ⟨h₁.1, h₁.2⟩
  | none =>
    refine (goes_runWithDfsFallback h₁.2).bind fun result es₂ h₂ => ?_
    split
    · exact ⟨List.nil_subset _, h₂.2⟩
    refine (meets_lookup ((looksUp_resolvePathAndCache es₂).and meets_resolvePathAndCache_first)
      (questions_resolvePathAndCache trivial trivial fun _ _ => trivial) h₂.2).bind
        fun mappings es₃ h₃ => ?_
    obtain ⟨⟨⟨⟨-, hoffered⟩, resolved, added, hes₃, hfirst⟩, -⟩, hcovered⟩ := h₃
    cases mappings with
    | nil => exact ⟨List.nil_subset _, hcovered⟩
    | cons mapping mappings =>
      obtain ⟨hnil, -⟩ | ⟨hok, -, first, hhead, mapping', hmapping', huntimed⟩ := hfirst
      · cases hnil
      obtain rfl : mapping = mapping' := Option.some.inj hmapping'
      have hevent := hcovered
        ⟨.resolvePathTargets connection (normalizeRemotePath sourceRemotePath), resolved⟩ (by
          rw [hes₃]
          exact List.mem_append_right es₂ List.mem_cons_self)
      obtain ⟨hsource, htarget⟩ := hevent hok first hhead
      have horiginal := congrArg DfsPathMapping.originalPrefix huntimed
      have hkey := congrArg DfsPathMapping.connectionKey huntimed
      change mapping.originalPrefix = _ at horiginal
      change mapping.connectionKey = cacheKey tables connection at hkey
      rw [← horiginal] at hsource htarget
      have hknown : Known tables connection (normalizeRemotePath sourceRemotePath)
          (normalizeRemotePath targetRemotePath) es₃ mapping :=
        .inl (hoffered mapping List.mem_cons_self)
      dsimp only
      rw [if_pos htarget, ← Program.bind_pure_right (delegate _)]
      refine meets_renameCall (.inr ⟨mapping, mapping, hknown, hknown, ⟨hkey, hsource, rfl⟩,
        ⟨hkey, htarget, rfl⟩, rfl, .inl rfl⟩) hcovered fun answer es₄ hgrows₄ hes₄ => ?_
      exact ⟨List.nil_subset _, hes₄⟩

/-! ### Failures -/

/-- The resolver names no target. -/
def NamesNone : Event (dfs RenameCall Bool) → Prop
  | ⟨.resolvePathTargets _ _, resolved⟩ =>
    Result.ok (T := List DfsResolvedPath) resolved = false ∨
      Result.value (T := List DfsResolvedPath) resolved = []
  | _ => False

/-- Mappings that cover the target whenever there are any leave it out where there are none. -/
theorem namesNone_of_leavesOut {e : Event (dfs RenameCall Bool)}
    (hcovers : CoversPaths tables connection sourcePath targetPath e)
    (hleaves : LeavesOut tables connection sourcePath targetPath e) : NamesNone e := by
  obtain ⟨op, ans⟩ := e
  cases op with
  | resolvePathTargets =>
    cases hok : Result.ok (T := List DfsResolvedPath) ans with
    | false => exact .inl hok
    | true =>
      cases hvalue : Result.value (T := List DfsResolvedPath) ans with
      | nil => exact .inr hvalue
      | cons first others =>
        have hfirst : first ∈ (Result.value (T := List DfsResolvedPath) ans).head? := by
          rw [hvalue]
          rfl
        have htarget := (hcovers hok first hfirst).2
        rw [hleaves hok first (List.mem_of_mem_head? hfirst)] at htarget
        cases htarget
  | _ => exact hleaves.elim

/-- A question that does not resolve a path. -/
def NoPathTargets : (dfs RenameCall Bool).Op → Prop
  | .resolvePathTargets _ _ => False
  | _ => True

theorem noPathTargets_of_timing {op : (dfs RenameCall Bool).Op} (h : Timing op) :
    NoPathTargets op := by
  cases op with
  | resolvePathTargets => exact h.elim
  | _ => trivial

theorem not_namesNone {e : Event (dfs RenameCall Bool)} (h : NoPathTargets e.op) :
    ¬ NamesNone e := by
  obtain ⟨op, ans⟩ := e
  cases op with
  | resolvePathTargets => exact h.elim
  | _ => exact fun h => h

theorem questions_renameCached : Program.Questions NoPathTargets
    (renameCached tables connection sourcePath targetPath) := by
  have hlookup : ∀ path, Program.Questions NoPathTargets
      (cachedResolvedPathMapping tables connection path) := fun path =>
    (questions_cachedResolvedPathMappings trivial trivial).bind fun _ => trivial
  rw [renameCached]
  refine (hlookup _).bind fun cachedSource => (hlookup _).bind fun cachedTarget => ?_
  cases cachedSource with
  | none => trivial
  | some source =>
    cases cachedTarget with
    | none => trivial
    | some target =>
      dsimp only
      split
      · refine Program.Questions.ask trivial fun answer => ?_
        split
        · trivial
        · exact ⟨trivial, fun _ => ⟨trivial, fun _ => trivial⟩⟩
      · trivial

variable {operation : Connection → RenameCall}

theorem questions_cachedTargetsLoop (targets : List Connection)
    (lastFailoverError : Option AppError) : Program.Questions NoPathTargets
      (cachedTargetsLoop (T := Bool) tables operation connection targets lastFailoverError) := by
  induction targets generalizing lastFailoverError with
  | nil => trivial
  | cons cached rest ih =>
    rw [cachedTargetsLoop]
    refine Program.Questions.ask trivial fun answer => ?_
    split
    · trivial
    split
    · exact ⟨trivial, fun _ => trivial⟩
    split
    · trivial
    · exact ih _

theorem questions_resolvedTargetsLoop (targets : List Connection)
    (lastFailoverError : Option AppError) : Program.Questions NoPathTargets
      (resolvedTargetsLoop (T := Bool) operation targets lastFailoverError) := by
  induction targets generalizing lastFailoverError with
  | nil => trivial
  | cons target rest ih =>
    rw [resolvedTargetsLoop]
    refine Program.Questions.ask trivial fun answer => ?_
    split
    · trivial
    split
    · trivial
    · exact ih _

theorem questions_finish {loop : TargetsLoop Bool}
    {otherwise : DfsProgram RenameCall Bool (Result Bool)}
    (h : Program.Questions NoPathTargets otherwise) :
    Program.Questions NoPathTargets (loop.finish otherwise) := by
  cases loop with
  | returned result => trivial
  | forgotten => exact h
  | exhausted lastFailoverError =>
    cases lastFailoverError with
    | none => exact h
    | some error => trivial

theorem questions_runWithDfsFallback : Program.Questions NoPathTargets
    (runWithDfsFallback (T := Bool) tables connection operation) := by
  rw [runWithDfsFallback]
  refine (questions_cachedResolvedConnections trivial trivial).bind fun targets => ?_
  refine (questions_cachedTargetsLoop _ _).bind fun loop => questions_finish ?_
  refine Program.Questions.ask trivial fun answer => ?_
  split
  · trivial
  refine (questions_resolveAndCache trivial trivial fun _ _ => trivial).bind fun targets => ?_
  exact (questions_resolvedTargetsLoop _ _).bind fun loop => questions_finish trivial

/-- The resolver has named a target whenever it was asked. -/
def Silent (es : List (Event (dfs RenameCall Bool))) : Prop := ∀ e ∈ es, ¬ NamesNone e

theorem Silent.append {added : List (Event (dfs RenameCall Bool))} (h : Silent es)
    (hadded : ∀ e ∈ added, NoPathTargets e.op) : Silent (es ++ added) := by
  intro e he
  rcases List.mem_append.1 he with he | he
  · exact h e he
  · exact not_namesNone (hadded e he)

/-- Events that name a target have none after which the operation must fail. -/
theorem Silent.fails (h : Silent es) (result : Result Bool) (earlier : List (Event (dfs RenameCall Bool)))
    (e : Event (dfs RenameCall Bool)) (later : List (Event (dfs RenameCall Bool)))
    (hes : es = earlier ++ e :: later) (hnone : NamesNone e) :
    later = [] ∧ result.ok = false := by
  subst hes
  exact absurd hnone (h e (List.mem_append_right _ List.mem_cons_self))

/-- Once the resolver names no target the operation fails with no further question. -/
theorem meets_rename_fails {sourceRemotePath targetRemotePath : QString} :
    Meets .history (rename tables connection sourceRemotePath targetRemotePath)
      (fun result es => ∀ earlier e later, es = earlier ++ e :: later → NamesNone e →
        later = [] ∧ result.ok = false) [] := by
  rw [rename]
  refine (questions_renameCached.meets (meets_history_grows _ _)).bind fun cachedResult es₁ h₁ => ?_
  obtain ⟨-, added₁, hes₁, hadded₁⟩ := h₁
  have hsilent₁ : Silent es₁ := by
    rw [hes₁]
    exact Silent.append (fun _ he => absurd he List.not_mem_nil) hadded₁
  cases cachedResult with
  | some cachedResult => exact hsilent₁.fails cachedResult
  | none =>
    refine (questions_runWithDfsFallback.meets (meets_history_grows _ _)).bind
      fun result es₂ h₂ => ?_
    obtain ⟨-, added₂, hes₂, hadded₂⟩ := h₂
    have hsilent₂ : Silent es₂ := by
      rw [hes₂]
      exact hsilent₁.append hadded₂
    split
    · exact hsilent₂.fails result
    rename_i hfailed
    simp only [Bool.or_eq_true, not_or, Bool.not_eq_true] at hfailed
    refine meets_resolvePathAndCache_first.bind fun mappings es₃ h₃ => ?_
    obtain ⟨resolved, added, hes₃, hfirst⟩ := h₃
    cases mappings with
    | nil =>
      obtain ⟨-, hadded⟩ | ⟨-, -, first, -, mapping, hmapping, -⟩ := hfirst
      · -- only the last event may name none
        rw [hadded] at hes₃
        rintro earlier e later rfl hnone
        refine ⟨?_, hfailed.1⟩
        rcases List.eq_nil_or_concat later with hlater | ⟨later', last, hlater⟩
        · exact hlater
        · have hmem : e ∈ es₂ := by
            rw [hlater, List.concat_eq_append, ← List.cons_append, ← List.append_assoc] at hes₃
            rw [← List.append_inj_left' hes₃ rfl]
            exact List.mem_append_right _ List.mem_cons_self
          exact absurd hnone (hsilent₂ e hmem)
      · cases hmapping
    | cons mapping mappings =>
      obtain ⟨hnil, -⟩ | ⟨hok, hadded, first, hhead, -⟩ := hfirst
      · cases hnil
      have hnamed : ¬ NamesNone (⟨.resolvePathTargets connection
          (normalizeRemotePath sourceRemotePath), resolved⟩ : Event (dfs RenameCall Bool)) := by
        rintro (hfail | hempty)
        · rw [hok] at hfail
          cases hfail
        · rw [hempty] at hhead
          cases hhead
      have hsilent₃ : Silent es₃ := by
        rw [hes₃, List.append_cons]
        refine Silent.append (fun e he => ?_) fun e he => noPathTargets_of_timing (hadded e he)
        rcases List.mem_append.1 he with he | he
        · exact hsilent₂ e he
        · rwa [List.mem_singleton.1 he]
      dsimp only
      rw [← Program.bind_pure_right (delegate _)]
      refine meets_ask_history fun answer => ?_
      refine Silent.fails (hsilent₃.append ?_) answer
      intro e he
      rw [List.mem_singleton.1 he]
      trivial

/-! ## The main results -/

/-- In every run whose mappings cover both paths, both arguments of every call on a mapped
    connection are images under mappings to it, and a target left out fails the call. -/
theorem rename_alike (tables : CaseTables) (connection : Connection)
    (sourceRemotePath targetRemotePath : QString) (es : List (Event (dfs RenameCall Bool)))
    (result : Result Bool) (hrun : (rename tables connection sourceRemotePath targetRemotePath).Runs
      es result)
    (hcovers : ∀ e ∈ es, CoversPaths tables connection (normalizeRemotePath sourceRemotePath)
      (normalizeRemotePath targetRemotePath) e) :
    Alike tables connection (normalizeRemotePath sourceRemotePath)
      (normalizeRemotePath targetRemotePath) es result where
  calls := by
    rintro earlier call answer later hes
    exact (goes_rename.guarded hrun hcovers).2 earlier _ later hes
  fails := by
    intro earlier e later hes hleaves
    have hmem : e ∈ es := by
      rw [hes]
      exact List.mem_append_right _ List.mem_cons_self
    exact meets_rename_fails.history hrun earlier e later hes
      (namesNone_of_leavesOut (hcovers e hmem) hleaves)

/-- The mappings that the events offer for the two paths. -/
theorem Known.originalPrefix_mem {mapping : DfsPathMapping}
    (h : Known tables connection sourcePath targetPath es mapping) :
    mapping.originalPrefix ∈ (es.flatMap fun e => offeredFor tables connection sourcePath e ++
      offeredFor tables connection targetPath e).map (·.originalPrefix) := by
  refine List.mem_map.2 ⟨mapping.untimed, ?_, rfl⟩
  rw [List.mem_flatMap]
  obtain ⟨e, he, hmem⟩ | ⟨e, he, hmem⟩ := h
  · exact ⟨e, he, List.mem_append_left _ hmem⟩
  · exact ⟨e, he, List.mem_append_right _ hmem⟩

end

/-! ### A share behind a link -/

namespace LinkedShare

open NestedReferral

/-- `/docs` of the root is all of the leaf. -/
def linked : Surroundings RenameCall Bool where
  delegate call :=
    if call.connection = server "leaf" then
      .success true
    else
      .failure notCovered.error
  resolvePathTargets _ _ :=
    .success [{ connection := server "leaf", originalPathPrefix := qStringLiteral "/docs"
                targetPathPrefix := qStringLiteral "/" }]

/-- The rename of `/docs/a`. -/
def served (target : String) : List (Event (dfs RenameCall Bool)) × Result Bool × DfsCaches :=
  (rename asciiTables (server "root") (qStringLiteral "/docs/a") (qStringLiteral target)).serve
    linked.handler {}

end LinkedShare

set_option maxRecDepth 10000 in
open LinkedShare NestedReferral in
/-- A rename from `/docs/a` to `/docs/b` succeeds on the leaf. -/
theorem rename_alike_docs :
    Alike asciiTables (server "root") (qStringLiteral "/docs/a") (qStringLiteral "/docs/b")
      (served "/docs/b").1 (served "/docs/b").2.1 ∧ (served "/docs/b").2.1.ok = true :=
  ⟨rename_alike asciiTables (server "root") (qStringLiteral "/docs/a") (qStringLiteral "/docs/b")
    _ _ (Program.runs_serve linked.handler _ {}) (by decide), rfl⟩

set_option maxRecDepth 10000 in
open LinkedShare NestedReferral in
/-- The mapping of `/docs/a` does not cover `/b`, which names a path of the root: the leaf is
    asked to rename to its own `/b`. -/
theorem not_rename_alike :
    ¬ ∀ tables connection sourceRemotePath targetRemotePath es result,
      (rename tables connection sourceRemotePath targetRemotePath).Runs es result →
        Alike tables connection (normalizeRemotePath sourceRemotePath)
          (normalizeRemotePath targetRemotePath) es result := by
  intro h
  have hrun := Program.runs_serve linked.handler
    (rename asciiTables (server "root") (qStringLiteral "/docs/a") (qStringLiteral "/b")) {}
  have hcalls := (h _ _ _ _ _ _ hrun).calls (served "/b").1.dropLast
    ⟨server "leaf", qStringLiteral "/a", qStringLiteral "/b"⟩ (.success true) [] rfl
  obtain hdirect | ⟨source, target, -, hknown, -, hmaps, -⟩ := hcalls
  · exact absurd hdirect.source (by decide)
  · have hmem := hknown.originalPrefix_mem
    have hprefix : target.originalPrefix ∈ [qStringLiteral "/docs"] := hmem
    have hcovers := hmaps.covers
    rw [List.mem_singleton.1 hprefix] at hcovers
    exact absurd hcovers (by decide)

end SmbBrowser.Dfs
