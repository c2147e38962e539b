import SmbBrowser.Base.Interleaving
import SmbBrowser.Dfs.Transfer

/-!
# The namespace behind the client

What paths designate is a function of the connection and the path.  A referral is true when
its mappings lead from the paths they are used for to the same objects, and the caches are
true when they hold such mappings only.

Results:
* `speaks_runWithPathDfsFallback`, `speaks_rename`, `speaks_transfer`: while the answers are
  true, an operation asks the delegate for the objects it was asked for, and caches the truth.
-/

namespace SmbBrowser.Dfs

open SmbBrowser.Base SmbBrowser.Qt SmbBrowser.Core

/-! ## True answers -/

/-- What paths designate.  The client takes connections with one cache key, and targets that
    compare equal, for the same. -/
structure Namespace (tables : CaseTables) (O : Type) where
  object : Connection → QString → O
  sameKey : ∀ {connection connection' : Connection},
    cacheKey tables connection = cacheKey tables connection' →
      object connection = object connection'
  sameTarget : ∀ {mapping mapping' : DfsPathMapping},
    sameResolvedTarget tables mapping mapping' = true →
      object mapping.targetConnection = object mapping'.targetConnection

/-- The first mapping of an answer covers the path, as it is or normalised once more. -/
def Covers (first : DfsPathMapping) (path : QString) : Prop :=
  isPathPrefix first.originalPrefix path = true ∨
    isPathPrefix first.originalPrefix (normalizeRemotePath path) = true

/-- The paths for which the client uses an answer: the one it asked for, the entries of that
    directory, and those which the first mapping covers. -/
def UsedFor (asked : QString) (first : DfsPathMapping) (path : QString) : Prop :=
  path = asked ∨ parentRemotePath path = asked ∨ Covers first path

instance (first : DfsPathMapping) (path : QString) : Decidable (Covers first path) :=
  inferInstanceAs (Decidable (_ ∨ _))

instance (asked : QString) (first : DfsPathMapping) (path : QString) :
    Decidable (UsedFor asked first path) :=
  inferInstanceAs (Decidable (_ ∨ _ ∨ _))

namespace Namespace

variable {tables : CaseTables} {O A T : Type} (space : Namespace tables O)

/-- The mapping leads from the path to the same object. -/
def Leads (connection : Connection) (path : QString) (mapping : DfsPathMapping) : Prop :=
  space.object mapping.targetConnection (targetPathForMapping mapping path) =
    space.object connection path

/-- The servers hold the same objects as the connections with the key. -/
def TrueTargets (key : QString) (targets : List Connection) : Prop :=
  ∀ target ∈ targets, ∀ connection, cacheKey tables connection = key →
    space.object target = space.object connection

/-- A cached entry whose mappings lead from all paths that its first mapping covers. -/
def TrueEntry (entry : DfsPathMappingCacheEntry) : Prop :=
  ∀ first ∈ entry.mappings.head?, ∀ connection,
    first.connectionKey = cacheKey tables connection →
      ∀ path, Covers first path → ∀ mapping ∈ entry.mappings, space.Leads connection path mapping

/-- An answer of the resolver whose mappings lead from all paths it is used for. -/
def TrueReferral (connection : Connection) (asked : QString) (resolved : List DfsResolvedPath) :
    Prop :=
  ∀ first ∈ resolved.head?, ∀ path,
    UsedFor asked (mappingFor tables connection asked first none) path →
      ∀ resolvedPath ∈ resolved,
        space.Leads connection path (mappingFor tables connection asked resolvedPath none)

/-- An answer of the resolver or of the caches that is true. -/
def Truthful : Event (dfs A T) → Prop
  | ⟨.resolveTargets connection, resolved⟩ =>
    ∀ target ∈ Result.value (T := List DfsResolvedConnection) resolved,
      space.object target.connection = space.object connection
  | ⟨.resolvePathTargets connection asked, resolved⟩ =>
    space.TrueReferral connection asked (Result.value (T := List DfsResolvedPath) resolved)
  | ⟨.resolvedConnections, table⟩ =>
    ∀ cached ∈ (show QHash QString DfsConnectionCacheEntry from table),
      space.TrueTargets cached.1 cached.2.targets
  | ⟨.resolvedPathMappings, table⟩ =>
    ∀ cached ∈ (show QHash QString DfsPathMappingCacheEntry from table), space.TrueEntry cached.2
  | _ => True

/-- A question that is right: a right call of the delegate, or the truth for the caches. -/
def Honest (right : A → Prop) : (dfs A T).Op → Prop
  | .delegate call => right call
  | .insertConnection key entry => space.TrueTargets key entry.targets
  | .insertPathMapping _ entry => space.TrueEntry entry
  | _ => True

/-- The program asks what is right while the answers keep the promise, and ends with a value
    that meets `P`. -/
abbrev Speaks {β : Type} (right : A → Prop) (promise : Event (dfs A T) → Prop)
    (p : DfsProgram A T β) (P : β → Prop) : Prop :=
  ∀ es, Meets (.guarded (fun _ => space.Honest right) promise) p (fun b _ => P b) es

section

variable {space} {right : A → Prop} {promise : Event (dfs A T) → Prop} {β γ : Type}
  {connection : Connection} {path : QString}

theorem Speaks.bind {p : DfsProgram A T β} {f : β → DfsProgram A T γ} {P : β → Prop}
    {P' : γ → Prop} (h : space.Speaks right promise p P)
    (hf : ∀ b, P b → space.Speaks right promise (f b) P') :
    space.Speaks right promise (p.bind f) P' :=
  fun es => (h es).bind fun b es' hb => hf b hb es'

theorem speaks_pure {b : β} {P : β → Prop} (h : P b) :
    space.Speaks right promise (.pure b : DfsProgram A T β) P := fun _ => h

theorem speaks_ask {op : DfsOp A} {f : (dfs A T).Ans op → DfsProgram A T β} {P : β → Prop}
    (hop : space.Honest (T := T) right op)
    (h : ∀ ans, promise ⟨op, ans⟩ → space.Speaks right promise (f ans) P) :
    space.Speaks right promise ((Program.perform (I := dfs A T) op).bind f) P := by
  intro es
  refine ⟨hop, ?_⟩
  rintro ans _ ⟨hans, rfl⟩
  exact h ans hans _

theorem speaks_call {call : A} {f : Result T → DfsProgram A T β} {P : β → Prop}
    (hcall : right call) (h : ∀ answer, space.Speaks right promise (f answer) P) :
    space.Speaks right promise ((delegate call).bind f) P := by
  have hask : space.Honest (T := T) right (.delegate call) := hcall
  exact speaks_ask hask fun answer _ => h answer

theorem speaks_lastCall {call : A} (hcall : right call) :
    space.Speaks right promise (delegate (T := T) call) (fun _ => True) :=
  fun _ => ⟨hcall, fun _ _ _ => trivial⟩

/-- What holds of every run of a program with harmless questions. -/
theorem speaks_of_history {p : DfsProgram A T β} {P : β → Prop}
    (h : ∀ es, Meets .history p (fun b _ => P b) es)
    (hp : Program.Questions (space.Honest right) p) : space.Speaks right promise p P := by
  intro es
  have hes := h es
  clear h
  induction p generalizing es with
  | pure b => exact hes
  | ask op k ih =>
    refine ⟨hp.1, ?_⟩
    rintro ans _ ⟨-, rfl⟩
    exact ih ans (hp.2 ans) _ (hes.2 ans _ rfl)

/-- A program with harmless questions. -/
theorem speaks_harmless {p : DfsProgram A T β} (hp : Program.Questions (space.Honest right) p) :
    space.Speaks right promise p (fun _ => True) :=
  speaks_of_history (fun es => (meets_history_grows p es).mono fun _ _ _ => trivial) hp

/-! ## Lookups -/

/-- The mappings of an answer of the resolver. -/
structure Named (space : Namespace tables O) (promise : Event (dfs A T) → Prop)
    (connection : Connection) (asked : QString) (mappings : List DfsPathMapping)
    (first : DfsPathMapping) : Prop where
  answered : ∃ resolved : Result (List DfsResolvedPath),
    promise ⟨.resolvePathTargets connection asked, resolved⟩ ∧
      ∃ resolvedFirst ∈ resolved.value.head?, first.originalPrefix =
        (mappingFor tables connection asked resolvedFirst none).originalPrefix
  leads : ∀ path, UsedFor asked first path →
    ∀ mapping ∈ mappings, space.Leads connection path mapping

/-- Timed mappings of a true answer are true. -/
theorem leads_of_trueReferral {asked : QString} {resolved : List DfsResolvedPath}
    {mappings : List DfsPathMapping} (h : space.TrueReferral connection asked resolved)
    (hmappings : mappings.map (·.untimed) = resolved.map fun resolvedPath =>
      mappingFor tables connection asked resolvedPath none) :
    ∀ first ∈ mappings.head?, first.connectionKey = cacheKey tables connection ∧
      (∃ resolvedFirst ∈ resolved.head?, first.originalPrefix =
        (mappingFor tables connection asked resolvedFirst none).originalPrefix) ∧
      ∀ path, UsedFor asked first path → ∀ mapping ∈ mappings,
        space.Leads connection path mapping := by
  intro first hfirst
  have hhead := congrArg List.head? hmappings
  rw [List.head?_map, List.head?_map, hfirst] at hhead
  obtain ⟨resolvedFirst, hresolvedFirst, huntimed⟩ := Option.map_eq_some_iff.1 hhead.symm
  have hkey := congrArg DfsPathMapping.connectionKey huntimed
  have hprefix := congrArg DfsPathMapping.originalPrefix huntimed
  refine ⟨hkey.symm, ⟨resolvedFirst, hresolvedFirst, hprefix.symm⟩, ?_⟩
  intro path hused mapping hmem
  have hmapped : mapping.untimed ∈ mappings.map (·.untimed) := List.mem_map_of_mem hmem
  rw [hmappings] at hmapped
  obtain ⟨resolvedPath, hresolvedPath, heq⟩ := List.mem_map.1 hmapped
  have hused' : UsedFor asked (mappingFor tables connection asked resolvedFirst none) path := by
    unfold UsedFor Covers at hused ⊢
    rw [ hprefix]
    exact hused
  have hleads := h resolvedFirst hresolvedFirst path hused' resolvedPath hresolvedPath
  rw [heq] at hleads
  exact hleads

variable (hpromise : ∀ e, promise e → space.Truthful e)

include hpromise

theorem speaks_cachedResolvedConnections :
    space.Speaks right promise (cachedResolvedConnections tables connection)
      (fun targets => ∀ target ∈ targets, space.object target = space.object connection) := by
  rw [cachedResolvedConnections]
  refine speaks_ask trivial fun (table : QHash QString DfsConnectionCacheEntry) htable => ?_
  have htrue := hpromise _ htable
  cases hfind : QHash.constFind table (cacheKey tables connection) with
  | none =>
    refine speaks_pure ?_
    rintro target ⟨⟩
  | some entry =>
    obtain ⟨cached, hcached, hentry⟩ := Option.map_eq_some_iff.1 hfind
    have hkey : cached.1 = cacheKey tables connection := by
      simpa using List.find?_some hcached
    have htargets := htrue cached (List.mem_of_find?_eq_some hcached)
    refine (speaks_harmless (questions_isCacheFresh trivial _)).bind fun fresh _ => ?_
    refine speaks_pure ?_
    intro target htarget
    split at htarget
    · rw [← hentry] at htarget
      exact htargets target htarget connection hkey.symm
    · cases htarget

theorem speaks_resolveAndCache :
    space.Speaks right promise (resolveAndCache tables connection)
      (fun targets => ∀ target ∈ targets, space.object target = space.object connection) := by
  rw [resolveAndCache]
  refine speaks_ask trivial fun (resolved : Result (List DfsResolvedConnection)) hresolved => ?_
  have htrue := hpromise _ hresolved
  split
  · refine speaks_pure ?_
    rintro target ⟨⟩
  · have htargets : ∀ target ∈ resolved.value.map (·.connection),
        space.object target = space.object connection := by
      intro target htarget
      obtain ⟨resolvedTarget, hmem, rfl⟩ := List.mem_map.1 htarget
      exact htrue resolvedTarget hmem
    refine (speaks_harmless (questions_targetsExpiry trivial _ _)).bind fun expiresAtUtc _ => ?_
    refine speaks_ask ?_ fun _ _ => speaks_pure htargets
    intro target htarget connection' hkey
    exact (htargets target htarget).trans (space.sameKey hkey.symm)

theorem speaks_cachedResolvedPathMappings :
    space.Speaks right promise (cachedResolvedPathMappings tables connection path)
      (fun mappings => ∀ mapping ∈ mappings, space.Leads connection path mapping) := by
  rw [cachedResolvedPathMappings]
  refine speaks_ask trivial fun (table : QHash QString DfsPathMappingCacheEntry) htable => ?_
  have htrue := hpromise _ htable
  have hbest : space.Speaks right promise
      (bestPathMapping (cacheKey tables connection) (normalizeRemotePath path) table none)
      (fun best => ∀ entry ∈ best, ∀ mapping ∈ entry.mappings,
        space.Leads connection path mapping) := by
    refine speaks_of_history (fun es => meets_bestPathMapping_history (by simp) ?_)
      (questions_bestPathMapping trivial _ _ _)
    intro cached hmem first rest hmappings hkey hpath
    exact htrue cached hmem first (by rw [hmappings]; rfl) connection hkey path (.inr hpath)
  refine hbest.bind fun best hmappings => ?_
  cases best with
  | none =>
    refine speaks_pure ?_
    rintro mapping ⟨⟩
  | some entry => exact speaks_pure (hmappings entry rfl)

theorem speaks_resolvePathAndCache {asked : QString} :
    space.Speaks right promise (resolvePathAndCache tables connection asked)
      (fun mappings => ∀ first ∈ mappings.head?,
        space.Named promise connection asked mappings first) := by
  rw [resolvePathAndCache]
  refine speaks_ask trivial fun (resolved : Result (List DfsResolvedPath)) hresolved => ?_
  have htrue := hpromise _ hresolved
  split
  · rename_i first others hok hvalue
    have hpaths : space.Speaks right promise
        (pathMappings tables connection asked (first :: others) none)
        (fun found => found.1.map (·.untimed) = (first :: others).map fun resolvedPath =>
          mappingFor tables connection asked resolvedPath none) :=
      speaks_of_history (fun es => meets_pathMappings_history) (questions_pathMappings trivial _ _)
    refine hpaths.bind fun found hfound => ?_
    have hreferral : space.TrueReferral connection asked (first :: others) := by
      rw [← hvalue]
      exact htrue
    have hleads := leads_of_trueReferral hreferral hfound
    refine speaks_ask ?_ fun _ _ => speaks_pure fun first' hfirst => ?_
    rotate_left
    · obtain ⟨-, hnamed, hleads⟩ := hleads first' hfirst
      exact ⟨⟨resolved, hresolved, by rwa [hvalue]⟩, hleads⟩
    intro first hfirst connection' hkey path hcovers mapping hmem
    obtain ⟨hown, -, hleads⟩ := hleads first hfirst
    have hobject := space.sameKey (hown.symm.trans hkey)
    have hleads' := hleads path (.inr (.inr hcovers)) mapping hmem
    unfold Leads at hleads' ⊢
    rw [hleads', hobject]
  · refine speaks_pure ?_
    rintro first ⟨⟩

omit hpromise in
/-- The mappings for a path lead from it. -/
theorem leads_of_asked {asked : QString} {mappings : List DfsPathMapping}
    (h : ∀ first ∈ mappings.head?, space.Named promise connection asked mappings first) :
    ∀ mapping ∈ mappings, space.Leads connection asked mapping := by
  intro mapping hmem
  obtain ⟨first, rest, rfl⟩ := List.exists_cons_of_ne_nil (List.ne_nil_of_mem hmem)
  exact (h first rfl).leads asked (.inl rfl) mapping hmem

/-- The first mapping of the cache leads from the path, for a rename as for a copy. -/
theorem speaks_firstCached :
    space.Speaks right promise (firstMapping (cachedResolvedPathMappings tables connection path))
      (fun found => ∀ mapping ∈ found, space.Leads connection path mapping) := by
  refine (speaks_cachedResolvedPathMappings hpromise).bind fun mappings hmappings => ?_
  refine speaks_pure fun mapping hmapping => ?_
  exact hmappings mapping (List.mem_of_mem_head? hmapping)

/-- The first mapping of the resolver leads from the path it was asked for, and from the
    entries of that directory. -/
theorem speaks_firstResolved {asked : QString}
    (hused : path = asked ∨ parentRemotePath path = asked) :
    space.Speaks right promise (firstMapping (resolvePathAndCache tables connection asked))
      (fun found => ∀ mapping ∈ found, space.Leads connection path mapping) := by
  refine (speaks_resolvePathAndCache hpromise).bind fun mappings hmappings => ?_
  refine speaks_pure fun mapping hmapping => ?_
  exact (hmappings mapping hmapping).leads path (hused.imp_right .inl) mapping
    (List.mem_of_mem_head? hmapping)

omit hpromise in
/-- The first of some servers, or the connection itself. -/
theorem object_head?_getD {targets : List Connection}
    (h : ∀ target ∈ targets, space.object target = space.object connection) :
    space.object (targets.head?.getD connection) = space.object connection := by
  cases targets with
  | nil => rfl
  | cons target targets => exact h target List.mem_cons_self

theorem speaks_cachedResolvedConnection :
    space.Speaks right promise (cachedResolvedConnection tables connection)
      (fun cached => space.object (cached.getD connection) = space.object connection) := by
  refine (speaks_cachedResolvedConnections hpromise).bind fun targets htargets => ?_
  exact speaks_pure (object_head?_getD htargets)

/-! ## Fallbacks -/

omit hpromise in
theorem speaks_finish {loop : TargetsLoop T} [Inhabited T]
    {otherwise : DfsProgram A T (Result T)}
    (h : space.Speaks right promise otherwise (fun _ => True)) :
    space.Speaks right promise (loop.finish otherwise) (fun _ => True) := by
  cases loop with
  | returned result => exact speaks_pure trivial
  | forgotten => exact h
  | exhausted lastFailoverError =>
    cases lastFailoverError with
    | none => exact h
    | some error => exact speaks_pure trivial

section

variable {operation : Connection → A} (hright : ∀ candidate,
  space.object candidate = space.object connection → right (operation candidate))

include hright

omit hpromise in
theorem speaks_cachedTargetsLoop {targets : List Connection} {lastFailoverError : Option AppError}
    (htargets : ∀ target ∈ targets, space.object target = space.object connection) :
    space.Speaks right promise
      (cachedTargetsLoop (T := T) tables operation connection targets lastFailoverError)
      (fun _ => True) := by
  induction targets generalizing lastFailoverError with
  | nil => exact speaks_pure trivial
  | cons cached rest ih =>
    obtain ⟨hcached, hrest⟩ := List.forall_mem_cons.1 htargets
    rw [cachedTargetsLoop]
    refine speaks_call (hright cached hcached) fun answer => ?_
    split
    · exact speaks_pure trivial
    split
    · exact speaks_ask trivial fun _ _ => speaks_pure trivial
    split
    · exact speaks_pure trivial
    · exact ih hrest

omit hpromise in
theorem speaks_resolvedTargetsLoop {targets : List Connection}
    {lastFailoverError : Option AppError}
    (htargets : ∀ target ∈ targets, space.object target = space.object connection) :
    space.Speaks right promise
      (resolvedTargetsLoop (T := T) operation targets lastFailoverError) (fun _ => True) := by
  induction targets generalizing lastFailoverError with
  | nil => exact speaks_pure trivial
  | cons target rest ih =>
    obtain ⟨htarget, hrest⟩ := List.forall_mem_cons.1 htargets
    rw [resolvedTargetsLoop]
    refine speaks_call (hright target htarget) fun answer => ?_
    split
    · exact speaks_pure trivial
    split
    · exact speaks_pure trivial
    · exact ih hrest

/-- On candidates for the connection, which hold the same objects. -/
theorem speaks_runWithDfsFallback [Inhabited T] :
    space.Speaks right promise (runWithDfsFallback (T := T) tables connection operation)
      (fun _ => True) := by
  rw [runWithDfsFallback]
  refine (speaks_cachedResolvedConnections hpromise).bind fun targets htargets => ?_
  refine (speaks_cachedTargetsLoop hright htargets).bind fun loop _ => speaks_finish ?_
  refine speaks_call (hright connection rfl) fun answer => ?_
  split
  · exact speaks_pure trivial
  refine (speaks_resolveAndCache hpromise).bind fun targets htargets => ?_
  refine (speaks_resolvedTargetsLoop hright htargets).bind fun loop _ => ?_
  exact speaks_finish (speaks_pure trivial)

end

section

variable [Inhabited T] {operation : Connection → QString → A} {rebase : T → DfsPathMapping → T}
  {wanted : O} (hright : ∀ connection path, space.object connection path = wanted →
    right (operation connection path))

include hright

omit hpromise in
/-- Mappings that lead from a path of the target of the outer one. -/
theorem speaks_nestedMappingsLoop {outer : DfsPathMapping}
    {deeper : DfsPathMapping → QString → AppError → DfsProgram A T (Option (Result T))}
    {mappings : List DfsPathMapping} {lastFailoverError : Option AppError}
    (hdeeper : ∀ mapping path error, space.object mapping.targetConnection path = wanted →
      space.Speaks right promise (deeper mapping path error) (fun _ => True))
    (hplace : space.object outer.targetConnection path = wanted)
    (hmappings : ∀ mapping ∈ mappings, space.Leads outer.targetConnection path mapping) :
    space.Speaks right promise
      (nestedMappingsLoop tables operation rebase deeper outer path mappings lastFailoverError)
      (fun _ => True) := by
  induction mappings generalizing lastFailoverError with
  | nil => exact speaks_pure trivial
  | cons mapping rest ih =>
    obtain ⟨hmapping, hrest⟩ := List.forall_mem_cons.1 hmappings
    have hnext := hmapping.trans hplace
    rw [nestedMappingsLoop]
    split
    · exact ih hrest
    split
    · exact ih hrest
    refine speaks_call (hright _ _ hnext) fun answer => ?_
    split
    · exact speaks_pure trivial
    refine (hdeeper _ _ _ hnext).bind fun deeperResult _ => ?_
    split
    · split
      · exact speaks_pure trivial
      · exact speaks_pure trivial
    · split
      · exact speaks_pure trivial
      · exact ih hrest

theorem speaks_tryNestedPathMappings {depth : ℕ} {outer : DfsPathMapping} {error : AppError}
    (hplace : space.object outer.targetConnection path = wanted) :
    space.Speaks right promise
      (tryNestedPathMappings tables operation rebase depth outer path error) (fun _ => True) := by
  induction depth generalizing outer path error with
  | zero => exact speaks_pure trivial
  | succ depth ih =>
    rw [tryNestedPathMappings]
    split
    · exact speaks_pure trivial
    have hloop : ∀ nestedMappings, (∀ mapping ∈ nestedMappings,
        space.Leads outer.targetConnection path mapping) → space.Speaks right promise
        (nestedMappingsLoop tables operation rebase
          (tryNestedPathMappings tables operation rebase depth) outer path nestedMappings none)
        (fun _ => True) := fun nestedMappings =>
      speaks_nestedMappingsLoop hright (fun _ _ _ hplace => ih hplace) hplace
    refine (speaks_cachedResolvedPathMappings hpromise).bind fun cachedMappings hcached => ?_
    split
    · refine (speaks_resolvePathAndCache hpromise).bind fun mappings hmappings => ?_
      exact hloop mappings (leads_of_asked hmappings)
    · exact hloop cachedMappings hcached

theorem speaks_cachedMappingsLoop {mappings : List DfsPathMapping}
    {lastFailoverError : Option AppError} (hplace : space.object connection path = wanted)
    (hmappings : ∀ mapping ∈ mappings, space.Leads connection path mapping) :
    space.Speaks right promise
      (cachedMappingsLoop tables operation rebase connection path mappings lastFailoverError)
      (fun _ => True) := by
  induction mappings generalizing lastFailoverError with
  | nil => exact speaks_pure trivial
  | cons mapping rest ih =>
    obtain ⟨hmapping, hrest⟩ := List.forall_mem_cons.1 hmappings
    have hnext := hmapping.trans hplace
    rw [cachedMappingsLoop]
    refine speaks_call (hright _ _ hnext) fun answer => ?_
    split
    · exact speaks_pure trivial
    refine (speaks_tryNestedPathMappings hpromise hright hnext).bind fun nestedResult _ => ?_
    split
    · exact speaks_pure trivial
    split
    · exact speaks_ask trivial fun _ _ => speaks_pure trivial
    split
    · exact speaks_pure trivial
    · exact ih hrest

theorem speaks_resolvedMappingsLoop {mappings : List DfsPathMapping}
    {lastFailoverError : Option AppError} (hplace : space.object connection path = wanted)
    (hmappings : ∀ mapping ∈ mappings, space.Leads connection path mapping) :
    space.Speaks right promise
      (resolvedMappingsLoop tables operation rebase path mappings lastFailoverError)
      (fun _ => True) := by
  induction mappings generalizing lastFailoverError with
  | nil => exact speaks_pure trivial
  | cons mapping rest ih =>
    obtain ⟨hmapping, hrest⟩ := List.forall_mem_cons.1 hmappings
    have hnext := hmapping.trans hplace
    rw [resolvedMappingsLoop]
    refine speaks_call (hright _ _ hnext) fun answer => ?_
    split
    · exact speaks_pure trivial
    refine (speaks_tryNestedPathMappings hpromise hright hnext).bind fun nestedResult _ => ?_
    split
    · exact speaks_pure trivial
    split
    · exact speaks_pure trivial
    · exact ih hrest

end

/-- An operation on one path. -/
theorem speaks_runWithPathDfsFallback [Inhabited T] {operation : Connection → QString → A}
    {rebase : T → DfsPathMapping → T} {remotePath : QString}
    (hright : ∀ candidate candidatePath, space.object candidate candidatePath =
      space.object connection (normalizeRemotePath remotePath) →
        right (operation candidate candidatePath)) :
    space.Speaks right promise
      (runWithPathDfsFallback tables operation rebase connection remotePath) (fun _ => True) := by
  rw [runWithPathDfsFallback]
  refine (speaks_cachedResolvedPathMappings hpromise).bind fun cachedMappings hcached => ?_
  refine (speaks_cachedMappingsLoop hpromise hright rfl hcached).bind fun loop _ =>
    speaks_finish ?_
  have hdirect : ∀ candidate, space.object candidate = space.object connection →
      right (operation candidate (normalizeRemotePath remotePath)) := fun candidate h =>
    hright candidate _ (congrFun h _)
  refine (speaks_runWithDfsFallback hpromise hdirect).bind fun result _ => ?_
  split
  · exact speaks_pure trivial
  refine (speaks_resolvePathAndCache hpromise).bind fun mappings hmappings => ?_
  refine (speaks_resolvedMappingsLoop hpromise hright rfl
    (leads_of_asked hmappings)).bind fun loop _ => ?_
  exact speaks_finish (speaks_pure trivial)

end

/-! ## Renames, copies and moves -/

section

variable {space} {connection : Connection}

/-- A call on the objects that are to be renamed. -/
def RightRename (space : Namespace tables O) (connection : Connection)
    (sourcePath targetPath : QString) (call : RenameCall) : Prop :=
  space.object call.connection call.source = space.object connection sourcePath ∧
    space.object call.connection call.target = space.object connection targetPath

/-- The first mapping that the resolver names covers the new name too. -/
def CoversTarget (tables : CaseTables) (targetPath : QString) :
    Event (dfs RenameCall Bool) → Prop
  | ⟨.resolvePathTargets connection asked, resolved⟩ =>
    ∀ first ∈ (Result.value (T := List DfsResolvedPath) resolved).head?,
      isPathPrefix (mappingFor tables connection asked first none).originalPrefix targetPath = true
  | _ => True

/-- A rename inside one referral. -/
theorem speaks_rename {promise : Event (dfs RenameCall Bool) → Prop}
    {sourceRemotePath targetRemotePath : QString}
    (hpromise : ∀ e, promise e → space.Truthful e)
    (hcovers : ∀ e, promise e → CoversTarget tables (normalizeRemotePath targetRemotePath) e) :
    space.Speaks (space.RightRename connection (normalizeRemotePath sourceRemotePath)
        (normalizeRemotePath targetRemotePath)) promise
      (rename tables connection sourceRemotePath targetRemotePath) (fun _ => True) := by
  generalize hsource : normalizeRemotePath sourceRemotePath = sourcePath
  generalize htarget : normalizeRemotePath targetRemotePath = targetPath at hcovers ⊢
  have hcached : ∀ path, space.Speaks (space.RightRename connection sourcePath targetPath) promise
      (cachedResolvedPathMapping tables connection path)
      (fun found => ∀ mapping ∈ found, space.Leads connection path mapping) :=
    fun path => speaks_firstCached hpromise
  have hrenameCached : space.Speaks (space.RightRename connection sourcePath targetPath) promise
      (renameCached tables connection sourcePath targetPath) (fun _ => True) := by
    rw [renameCached]
    refine (hcached sourcePath).bind fun cachedSource hleadsSource => ?_
    refine (hcached targetPath).bind fun cachedTarget hleadsTarget => ?_
    cases cachedSource with
    | none => exact speaks_pure trivial
    | some source =>
      cases cachedTarget with
      | none => exact speaks_pure trivial
      | some target =>
        dsimp only
        split
        · rename_i hsame
          have hright : space.RightRename connection sourcePath targetPath
              ⟨source.targetConnection, targetPathForMapping source sourcePath,
                targetPathForMapping target targetPath⟩ := by
            refine ⟨hleadsSource source rfl, ?_⟩
            rw [space.sameTarget hsame]
            exact hleadsTarget target rfl
          refine speaks_call hright fun answer => ?_
          split
          · exact speaks_pure trivial
          · exact speaks_ask trivial fun _ _ => speaks_ask trivial fun _ _ => speaks_pure trivial
        · exact speaks_pure trivial
  rw [rename, hsource, htarget]
  refine hrenameCached.bind fun cachedResult _ => ?_
  cases cachedResult with
  | some cachedResult => exact speaks_pure trivial
  | none =>
    have hdirect : ∀ candidate, space.object candidate = space.object connection →
        space.RightRename connection sourcePath targetPath ⟨candidate, sourcePath, targetPath⟩ :=
      fun candidate h => ⟨congrFun h _, congrFun h _⟩
    refine (speaks_runWithDfsFallback hpromise hdirect).bind fun result _ => ?_
    split
    · exact speaks_pure trivial
    refine (speaks_resolvePathAndCache hpromise).bind fun mappings hmappings => ?_
    cases mappings with
    | nil => exact speaks_pure trivial
    | cons mapping mappings =>
      obtain ⟨⟨resolved, hresolved, first, hfirst, hprefix⟩, hleads⟩ := hmappings mapping rfl
      have htargetCovered : isPathPrefix mapping.originalPrefix targetPath = true := by
        rw [ hprefix]
        exact hcovers _ hresolved first hfirst
      dsimp only
      rw [if_pos htargetCovered]
      refine speaks_lastCall ⟨?_, ?_⟩
      · exact hleads sourcePath (.inl rfl) mapping List.mem_cons_self
      · exact hleads targetPath (.inr (.inr (.inl htargetCovered))) mapping List.mem_cons_self

/-- The place is on the object that was asked for. -/
def RightPlace (space : Namespace tables O) (connection : Connection) (path : QString)
    (place : Place) : Prop :=
  space.object place.connection place.path = space.object connection path

/-- A call of the kind on the objects that are to be copied or moved. -/
def RightTransfer (space : Namespace tables O) (kind : TransferKind)
    (sourceConnection : Connection) (sourcePath : QString) (targetConnection : Connection)
    (targetPath : QString) (call : TransferCall) : Prop :=
  call.kind = kind ∧ space.RightPlace sourceConnection sourcePath call.source ∧
    space.RightPlace targetConnection targetPath call.target

theorem rightPlace_alongMapping {path : QString} {mapping : Option DfsPathMapping}
    {otherwise : Place} (hmapping : ∀ m ∈ mapping, space.Leads connection path m)
    (h : space.RightPlace connection path otherwise) :
    space.RightPlace connection path (alongMapping mapping path otherwise) := by
  cases mapping with
  | none => exact h
  | some mapping => exact hmapping mapping rfl

section

variable {promise : Event (dfs TransferCall Bool) → Prop} {kind : TransferKind}
  {sourceConnection targetConnection : Connection} {sourcePath targetPath : QString}

/-- After the first call. -/
theorem speaks_transferAgain {source target : Place} {result : Result Bool}
    (hpromise : ∀ e, promise e → space.Truthful e)
    (hsource : space.RightPlace sourceConnection sourcePath source)
    (htarget : space.RightPlace targetConnection targetPath target) :
    space.Speaks
      (space.RightTransfer kind sourceConnection sourcePath targetConnection targetPath) promise
      (transferAgain tables kind sourceConnection sourcePath targetConnection targetPath source
        target result) (fun _ => True) := by
  rw [transferAgain]
  split
  · refine (speaks_firstResolved hpromise (.inl rfl)).bind fun sourceMapping hsourceMapping => ?_
    refine (speaks_firstResolved hpromise (.inr rfl)).bind fun targetMapping htargetMapping => ?_
    exact speaks_lastCall ⟨rfl, rightPlace_alongMapping hsourceMapping hsource,
      rightPlace_alongMapping htargetMapping htarget⟩
  split
  · exact speaks_pure trivial
  · refine (speaks_resolveAndCache hpromise).bind fun sources hsources => ?_
    refine (speaks_resolveAndCache hpromise).bind fun targets htargets => ?_
    exact speaks_lastCall ⟨rfl, congrFun (object_head?_getD hsources) _,
      congrFun (object_head?_getD htargets) _⟩

theorem speaks_transfer {sourceRemotePath targetRemotePath : QString}
    (hpromise : ∀ e, promise e → space.Truthful e) :
    space.Speaks (space.RightTransfer kind sourceConnection (normalizeRemotePath sourceRemotePath)
        targetConnection (normalizeRemotePath targetRemotePath)) promise
      (transfer tables kind sourceConnection sourceRemotePath targetConnection targetRemotePath)
      (fun _ => True) := by
  generalize hsource : normalizeRemotePath sourceRemotePath = sourcePath
  generalize htarget : normalizeRemotePath targetRemotePath = targetPath
  rw [transfer, hsource, htarget]
  refine (speaks_cachedResolvedConnection hpromise).bind fun cachedSource hcachedSource => ?_
  refine (speaks_cachedResolvedConnection hpromise).bind fun cachedTarget hcachedTarget => ?_
  refine (speaks_firstCached hpromise).bind fun sourceMapping hsourceMapping => ?_
  refine (speaks_firstCached hpromise).bind fun targetMapping htargetMapping => ?_
  have hfirstSource : space.RightPlace sourceConnection sourcePath
      (alongMapping sourceMapping sourcePath ⟨cachedSource.getD sourceConnection, sourcePath⟩) :=
    rightPlace_alongMapping hsourceMapping (congrFun hcachedSource _)
  have hfirstTarget : space.RightPlace targetConnection targetPath
      (alongMapping targetMapping targetPath ⟨cachedTarget.getD targetConnection, targetPath⟩) :=
    rightPlace_alongMapping htargetMapping (congrFun hcachedTarget _)
  refine speaks_call ⟨rfl, hfirstSource, hfirstTarget⟩ fun result => ?_
  split
  · exact speaks_pure trivial
  · exact speaks_transferAgain hpromise hfirstSource hfirstTarget

end

end

end Namespace

end SmbBrowser.Dfs
