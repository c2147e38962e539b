import SmbBrowser.Dfs.Failover

/-!
# Where a result was found

A result of the client is the answer of the last call of the delegate: on a candidate
for the connection itself, or on the last target of a chain of mappings, each offered
for the target before it.  On the way back it is rebased along the chain, the last two
mappings in one.

Results:
* `meets_runWithPathDfsFallback_found`: of every run whose result succeeds.
-/

namespace SmbBrowser.Dfs

open SmbBrowser.Base SmbBrowser.Qt SmbBrowser.Core

variable {A T : Type}

/-! ## Chains of mappings -/

/-- The path on the last target of a chain. -/
def pathThrough : List DfsPathMapping → QString → QString
  | [], path => path
  | mapping :: chain, path => pathThrough chain (targetPathForMapping mapping path)

/-- The connection of the last target of a chain. -/
def lastTarget : DfsPathMapping → List DfsPathMapping → Connection
  | outer, [] => outer.targetConnection
  | _, mapping :: chain => lastTarget mapping chain

/-- A value of the last target of a chain in the namespace of its first mapping. -/
def rebaseThrough (rebase : T → DfsPathMapping → T) :
    DfsPathMapping → List DfsPathMapping → T → T
  | outer, [], value => rebase value outer
  | outer, [mapping], value => rebase value (composedMapping outer mapping)
  | outer, mapping :: mapping' :: chain, value =>
    rebase (rebaseThrough rebase mapping (mapping' :: chain) value) outer

/-- The mapping apart from its time-out. -/
def DfsPathMapping.untimed (mapping : DfsPathMapping) : DfsPathMapping :=
  { mapping with expiresAtUtc := none }

/-- A cache entry that answers for a connection and a path. -/
def answersFor (tables : CaseTables) (connection : Connection) (path : QString)
    (cached : QString × DfsPathMappingCacheEntry) : Bool :=
  match cached.2.mappings with
  | [] => false
  | firstMapping :: _ => firstMapping.connectionKey = cacheKey tables connection &&
    isPathPrefix firstMapping.originalPrefix (normalizeRemotePath path)

/-- The mappings that an answer of the cache or of the resolver offers for a connection
    and a path. -/
def offeredFor (tables : CaseTables) (connection : Connection) (path : QString) :
    Event (dfs A T) → List DfsPathMapping
  | ⟨.resolvedPathMappings, table⟩ =>
    (List.filter (answersFor tables connection path) table).flatMap fun cached =>
      cached.2.mappings.map (·.untimed)
  | ⟨.resolvePathTargets connection' path', resolved⟩ =>
    if connection' = connection ∧ path' = path then
      List.map (fun resolvedPath => mappingFor tables connection path resolvedPath none)
        (Result.value (T := List DfsResolvedPath) resolved)
    else
      []
  | _ => []

/-- A mapping that the cache or the resolver offered in a run. -/
structure Offered (tables : CaseTables) (es : List (Event (dfs A T))) (connection : Connection)
    (path : QString) (mapping : DfsPathMapping) : Prop where
  mem : ∃ e ∈ es, mapping.untimed ∈ offeredFor tables connection path e

/-- Nested mappings: each was offered for the target before it and for the path there,
    of which its original prefix is one. -/
def Nested (tables : CaseTables) (es : List (Event (dfs A T))) :
    DfsPathMapping → QString → List DfsPathMapping → Prop
  | _, _, [] => True
  | outer, path, mapping :: chain =>
    Offered tables es outer.targetConnection path mapping ∧
      isPathPrefix mapping.originalPrefix path = true ∧
      Nested tables es mapping (targetPathForMapping mapping path) chain

section

variable {tables : CaseTables} {es es' : List (Event (dfs A T))} {connection : Connection}
  {path : QString} {mapping outer : DfsPathMapping} {chain : List DfsPathMapping}

theorem Offered.mono (h : Offered tables es connection path mapping) (hes : es ⊆ es') :
    Offered tables es' connection path mapping := by
  obtain ⟨e, he, hmem⟩ := h.mem
  exact ⟨e, hes he, hmem⟩

theorem Nested.mono (h : Nested tables es outer path chain) (hes : es ⊆ es') :
    Nested tables es' outer path chain := by
  induction chain generalizing outer path with
  | nil => trivial
  | cons mapping chain ih => exact ⟨h.1.mono hes, h.2.1, ih h.2.2⟩

/-! ## Lookups offer what they return -/

/-- A lookup returns mappings that were offered. -/
abbrev LooksUp (tables : CaseTables) (connection : Connection) (path : QString)
    (p : DfsProgram A T (List DfsPathMapping)) : Prop :=
  ∀ es, Meets .history p (fun mappings es' => es ⊆ es' ∧
    ∀ mapping ∈ mappings, Offered tables es' connection path mapping) es

/-- The events so far stay. -/
theorem meets_history_grows {β : Type} (p : DfsProgram A T β) (es : List (Event (dfs A T))) :
    Meets .history p (fun _ es' => es ⊆ es') es := by
  induction p generalizing es with
  | pure a => exact fun e he => he
  | ask op k ih =>
    refine ⟨trivial, ?_⟩
    rintro ans m rfl
    refine (ih ans (es ++ [⟨op, ans⟩])).mono fun a es' h => ?_
    exact List.Subset.trans (List.subset_append_left ..) h

theorem meets_ask_history {β : Type} {op : DfsOp A} {f : (dfs A T).Ans op → DfsProgram A T β}
    {Q : β → List (Event (dfs A T)) → Prop}
    (h : ∀ ans, Meets .history (f ans) Q (es ++ [⟨op, ans⟩])) :
    Meets .history ((Program.perform (I := dfs A T) op).bind f) Q es := by
  refine ⟨trivial, ?_⟩
  rintro ans m rfl
  exact h ans

theorem meets_bestPathMapping_history {sourceKey normalizedPath : QString}
    {order : List (QString × DfsPathMappingCacheEntry)} {best : Option DfsPathMappingCacheEntry}
    {P : DfsPathMappingCacheEntry → Prop} (hbest : ∀ entry ∈ best, P entry)
    (horder : ∀ cached ∈ order, ∀ firstMapping rest, cached.2.mappings = firstMapping :: rest →
      firstMapping.connectionKey = sourceKey →
      isPathPrefix firstMapping.originalPrefix normalizedPath = true → P cached.2) :
    Meets .history (bestPathMapping (A := A) (T := T) sourceKey normalizedPath order best)
      (fun best _ => ∀ entry ∈ best, P entry) es := by
  induction order generalizing best es with
  | nil => exact hbest
  | cons cached order ih =>
    obtain ⟨key, entry⟩ := cached
    obtain ⟨hentry, hrest⟩ := List.forall_mem_cons.1 horder
    rw [bestPathMapping]
    refine (meets_history_grows _ es).bind fun fresh es' _ => ?_
    split
    · exact ih hbest hrest
    · rename_i firstMapping rest hmappings
      split
      · exact ih hbest hrest
      · rename_i htaken
        simp only [Bool.or_eq_true, Bool.not_eq_true', decide_eq_true_eq, not_or, not_not,
          Bool.not_eq_false] at htaken
        have hP := hentry firstMapping rest hmappings htaken.1.2 htaken.2
        have hsome : ∀ e ∈ some entry, P e := by
          rintro e ⟨⟩
          exact hP
        cases best with
        | none => exact ih hsome hrest
        | some found =>
          refine ih ?_ hrest
          split
          · exact hsome
          · exact hbest

theorem mem_offeredFor_table {table : QHash QString DfsPathMappingCacheEntry}
    {cached : QString × DfsPathMappingCacheEntry} {firstMapping : DfsPathMapping}
    {rest : List DfsPathMapping} (hmem : cached ∈ table)
    (hmappings : cached.2.mappings = firstMapping :: rest)
    (hkey : firstMapping.connectionKey = cacheKey tables connection)
    (hpath : isPathPrefix firstMapping.originalPrefix (normalizeRemotePath path) = true)
    (hmapping : mapping ∈ cached.2.mappings) :
    mapping.untimed ∈
      offeredFor tables connection path (⟨.resolvedPathMappings, table⟩ : Event (dfs A T)) := by
  have hanswers : answersFor tables connection path cached = true := by
    unfold answersFor
    rw [hmappings]
    simp only [hkey, hpath, decide_true, Bool.and_self]
  exact List.mem_flatMap.2 ⟨cached, List.mem_filter.2 ⟨hmem, hanswers⟩,
    List.mem_map_of_mem hmapping⟩

theorem looksUp_cachedResolvedPathMappings :
    LooksUp tables connection path
      (cachedResolvedPathMappings (A := A) (T := T) tables connection path) := by
  intro es
  refine (meets_history_grows _ es).and ?_
  rw [cachedResolvedPathMappings]
  refine meets_ask_history fun table => ?_
  refine ((meets_history_grows _ _).and (meets_bestPathMapping_history
    (P := fun entry => ∀ mapping ∈ entry.mappings, mapping.untimed ∈
      offeredFor tables connection path (⟨.resolvedPathMappings, table⟩ : Event (dfs A T)))
    (by simp) fun cached hmem firstMapping rest hmappings hkey hpath mapping hmapping =>
      mem_offeredFor_table hmem hmappings hkey hpath hmapping)).bind fun best es' hbest => ?_
  obtain ⟨hgrows, hbest⟩ := hbest
  cases best with
  | none =>
    rintro mapping ⟨⟩
  | some entry =>
    intro mapping hmem
    exact ⟨_, hgrows (by simp), hbest entry rfl mapping hmem⟩

theorem meets_pathMappings_history {remotePath : QString} {resolved : List DfsResolvedPath}
    {expiresAtUtc : QDateTime} :
    Meets .history
      (pathMappings (A := A) (T := T) tables connection remotePath resolved expiresAtUtc)
      (fun found _ => found.1.map (·.untimed) = resolved.map fun resolvedPath =>
        mappingFor tables connection remotePath resolvedPath none) es := by
  induction resolved generalizing expiresAtUtc es with
  | nil => rfl
  | cons resolvedPath resolved ih =>
    rw [pathMappings]
    refine (meets_history_grows _ es).bind fun now es' _ => ?_
    refine ih.bind fun found es'' h => ?_
    show List.map _ _ = _
    rw [List.map_cons, List.map_cons, h]
    rfl

theorem offeredFor_resolvePathTargets (resolved : Result (List DfsResolvedPath)) :
    offeredFor tables connection path
        (⟨.resolvePathTargets connection path, resolved⟩ : Event (dfs A T)) =
      resolved.value.map fun resolvedPath => mappingFor tables connection path resolvedPath none :=
  if_pos ⟨rfl, rfl⟩

theorem looksUp_resolvePathAndCache :
    LooksUp tables connection path
      (resolvePathAndCache (A := A) (T := T) tables connection path) := by
  intro es
  refine (meets_history_grows _ es).and ?_
  rw [resolvePathAndCache]
  refine meets_ask_history fun resolved => ?_
  split
  · rename_i first others _ hvalue
    refine ((meets_history_grows _ _).and meets_pathMappings_history).bind
      fun found es' hfound => ?_
    obtain ⟨hgrows, hfound⟩ := hfound
    refine meets_ask_history fun _ => ?_
    intro mapping hmem
    have hlast := hgrows (List.mem_append_right es (List.mem_singleton_self _))
    refine ⟨_, List.mem_append_left _ hlast, ?_⟩
    have huntimed : mapping.untimed ∈ found.1.map (·.untimed) := List.mem_map_of_mem hmem
    rw [hfound, ← hvalue] at huntimed
    exact (offeredFor_resolvePathTargets (A := A) (T := T) resolved).symm ▸ huntimed
  · rintro mapping ⟨⟩

end

/-! ## How a result was found -/

/-- The last event is a successful call. -/
structure EndsWith (es : List (Event (dfs A T))) (call : A) (answer : Result T) : Prop where
  last : ∃ earlier, es = earlier ++ [⟨.delegate call, answer⟩]
  ok : answer.ok = true

/-- A value that was found at the end of a chain of mappings, or without one: the answer
    of the last call, rebased along the chain. -/
def FoundThrough (tables : CaseTables) (operation : Connection → QString → A)
    (rebase : T → DfsPathMapping → T) (es : List (Event (dfs A T))) (connection : Connection)
    (path : QString) : List DfsPathMapping → Result T → T → Prop
  | [], answer, value =>
    (∃ candidate, EndsWith es (operation candidate path) answer) ∧ value = answer.value
  | mapping :: chain, answer, value =>
    EndsWith es (operation (lastTarget mapping chain) (pathThrough (mapping :: chain) path))
      answer ∧
    Offered tables es connection path mapping ∧
    Nested tables es mapping (targetPathForMapping mapping path) chain ∧
    value = rebaseThrough rebase mapping chain answer.value

/-- A result of nested mappings, when it succeeds, was found through the outer mapping and
    a chain below it. -/
def FoundBelow (tables : CaseTables) (operation : Connection → QString → A)
    (rebase : T → DfsPathMapping → T) (outer : DfsPathMapping) (path : QString)
    (nested : Option (Result T)) (es : List (Event (dfs A T))) : Prop :=
  ∀ result ∈ nested, result.ok = true → ∃ mapping chain answer,
    EndsWith es (operation (lastTarget mapping chain) (pathThrough (mapping :: chain) path))
      answer ∧
    Nested tables es outer path (mapping :: chain) ∧
    result.value = rebaseThrough rebase outer (mapping :: chain) answer.value

/-- A loop over targets returns results that, when they succeed, meet `Q`, and remembers
    only errors. -/
def LoopFinds (Q : Result T → List (Event (dfs A T)) → Prop) (loop : TargetsLoop T)
    (es : List (Event (dfs A T))) : Prop :=
  match loop with
  | .returned result => result.ok = true → Q result es
  | .forgotten => True
  | .exhausted lastFailoverError => ∀ error ∈ lastFailoverError, error.hasError = true

section

variable {tables : CaseTables} {es : List (Event (dfs A T))} {connection : Connection}
  {path : QString} {operation : Connection → QString → A} {rebase : T → DfsPathMapping → T}

/-- A mapping whose target answers, or below whose target an answer is found. -/
theorem foundThrough_direct {mapping : DfsPathMapping} {answer : Result T}
    (hmapping : Offered tables es connection path mapping) (hok : answer.ok = true) :
    FoundThrough tables operation rebase
      (es ++ [⟨.delegate (operation mapping.targetConnection
        (targetPathForMapping mapping path)), answer⟩])
      connection path [mapping] answer (rebase answer.value mapping) :=
  ⟨⟨⟨es, rfl⟩, hok⟩, hmapping.mono (List.subset_append_left ..), trivial, rfl⟩

theorem FoundBelow.foundThrough {mapping : DfsPathMapping} {nested : Option (Result T)}
    {result : Result T}
    (h : FoundBelow tables operation rebase mapping (targetPathForMapping mapping path) nested es)
    (hmapping : Offered tables es connection path mapping) (hresult : result ∈ nested)
    (hok : result.ok = true) :
    ∃ chain answer, FoundThrough tables operation rebase es connection path chain answer
      result.value := by
  obtain ⟨mapping', chain, answer, hends, hnested, hvalue⟩ := h result hresult hok
  exact ⟨mapping :: mapping' :: chain, answer, hends, hmapping, hnested, hvalue⟩

theorem meets_delegate_history {β : Type} {call : A} {f : Result T → DfsProgram A T β}
    {Q : β → List (Event (dfs A T)) → Prop}
    (h : ∀ answer, Meets .history (f answer) Q (es ++ [⟨.delegate call, answer⟩])) :
    Meets .history ((delegate call).bind f) Q es :=
  meets_ask_history h

theorem meets_cachedTargetsLoop_found {operation : Connection → A} {targets : List Connection}
    {lastFailoverError : Option AppError}
    (hlast : ∀ error ∈ lastFailoverError, error.hasError = true) :
    Meets .history (cachedTargetsLoop tables operation connection targets lastFailoverError)
      (LoopFinds fun result es' => ∃ candidate, EndsWith es' (operation candidate) result) es := by
  induction targets generalizing es lastFailoverError with
  | nil => exact hlast
  | cons cached rest ih =>
    rw [cachedTargetsLoop]
    refine meets_delegate_history fun cachedResult => ?_
    have hends : cachedResult.ok = true → ∃ candidate, EndsWith
        (es ++ [⟨.delegate (operation cached), cachedResult⟩]) (operation candidate)
        cachedResult := fun hok => ⟨cached, ⟨es, rfl⟩, hok⟩
    split
    · exact hends
    rename_i hfailed
    split
    · exact meets_ask_history fun _ => trivial
    split
    · exact hends
    · refine ih ?_
      rintro error ⟨⟩
      exact ok_eq_false.1 (Bool.eq_false_iff.2 hfailed)

theorem meets_resolvedTargetsLoop_found {operation : Connection → A}
    {targets : List Connection} {lastFailoverError : Option AppError}
    (hlast : ∀ error ∈ lastFailoverError, error.hasError = true) :
    Meets .history (resolvedTargetsLoop operation targets lastFailoverError)
      (LoopFinds fun result es' => ∃ candidate, EndsWith es' (operation candidate) result) es := by
  induction targets generalizing es lastFailoverError with
  | nil => exact hlast
  | cons target rest ih =>
    rw [resolvedTargetsLoop]
    refine meets_delegate_history fun resolvedResult => ?_
    have hends : resolvedResult.ok = true → ∃ candidate, EndsWith
        (es ++ [⟨.delegate (operation target), resolvedResult⟩]) (operation candidate)
        resolvedResult := fun hok => ⟨target, ⟨es, rfl⟩, hok⟩
    split
    · exact hends
    rename_i hfailed
    split
    · exact hends
    · refine ih ?_
      rintro error ⟨⟩
      exact ok_eq_false.1 (Bool.eq_false_iff.2 hfailed)

end

section

variable [Inhabited T] {tables : CaseTables} {es : List (Event (dfs A T))}
  {connection : Connection} {path : QString}

theorem not_ok_failure {error : AppError} (h : error.hasError = true) :
    (Result.failure (T := T) error).ok = false :=
  ok_eq_false.2 h

/-- After a loop, the rest of the program finds the result. -/
theorem meets_finish_found {loop : TargetsLoop T} {otherwise : DfsProgram A T (Result T)}
    {Q : Result T → List (Event (dfs A T)) → Prop} (hloop : LoopFinds Q loop es)
    (hrest : Meets .history otherwise (fun result es' => result.ok = true → Q result es') es) :
    Meets .history (loop.finish otherwise) (fun result es' => result.ok = true → Q result es')
      es := by
  cases loop with
  | returned result => exact hloop
  | forgotten => exact hrest
  | exhausted lastFailoverError =>
    cases lastFailoverError with
    | none => exact hrest
    | some error =>
      intro hok
      rw [not_ok_failure (hloop error rfl)] at hok
      cases hok

theorem meets_runWithDfsFallback_found {operation : Connection → A} :
    Meets .history (runWithDfsFallback tables connection operation)
      (fun result es' => result.ok = true →
        ∃ candidate, EndsWith es' (operation candidate) result) es := by
  rw [runWithDfsFallback]
  refine (meets_history_grows _ es).bind fun cachedTargets es₁ _ => ?_
  refine (meets_cachedTargetsLoop_found (by simp)).bind fun cachedLoop es₂ hloop => ?_
  refine meets_finish_found hloop ?_
  refine meets_delegate_history fun result => ?_
  split
  · exact fun hok => ⟨connection, ⟨es₂, rfl⟩, hok⟩
  · rename_i hfailed
    simp only [Bool.or_eq_true, not_or, Bool.not_eq_true] at hfailed
    refine (meets_history_grows _ _).bind fun targets es₃ _ => ?_
    refine (meets_resolvedTargetsLoop_found (by simp)).bind fun resolvedLoop es₄ hloop' => ?_
    refine meets_finish_found hloop' fun hok => ?_
    rw [hfailed.1] at hok
    cases hok

/-! ## Nested mappings -/

variable {operation : Connection → QString → A} {rebase : T → DfsPathMapping → T}

theorem meets_nestedMappingsLoop_found {outer : DfsPathMapping} {path : QString}
    {deeper : DfsPathMapping → QString → AppError → DfsProgram A T (Option (Result T))}
    {mappings : List DfsPathMapping} {lastFailoverError : Option AppError}
    (hdeeper : ∀ mapping path error es, Meets .history (deeper mapping path error)
      (FoundBelow tables operation rebase mapping path) es)
    (hlast : ∀ error ∈ lastFailoverError, error.hasError = true)
    (hoffered : ∀ mapping ∈ mappings, Offered tables es outer.targetConnection path mapping) :
    Meets .history
      (nestedMappingsLoop tables operation rebase deeper outer path mappings lastFailoverError)
      (FoundBelow tables operation rebase outer path) es := by
  induction mappings generalizing es lastFailoverError with
  | nil =>
    intro result hresult hok
    cases lastFailoverError with
    | none => cases hresult
    | some error =>
      injection hresult with hresult
      rw [← hresult, not_ok_failure (hlast error rfl)] at hok
      cases hok
  | cons mapping rest ih =>
    obtain ⟨hmapping, hrest⟩ := List.forall_mem_cons.1 hoffered
    rw [nestedMappingsLoop]
    split
    · exact ih hlast hrest
    split
    · exact ih hlast hrest
    rename_i hpath
    rw [Bool.not_eq_true', Bool.not_eq_false] at hpath
    refine meets_delegate_history fun answer => ?_
    split
    · rename_i hok
      rintro result ⟨⟩ -
      refine ⟨mapping, [], answer, ⟨⟨es, rfl⟩, hok⟩, ⟨?_, hpath, trivial⟩, rfl⟩
      exact hmapping.mono (List.subset_append_left ..)
    rename_i hfailed
    rw [Bool.not_eq_true] at hfailed
    refine ((meets_history_grows _ _).and (hdeeper ..)).bind fun deeperResult es' hdeep => ?_
    obtain ⟨hgrows, hdeep⟩ := hdeep
    have hgrows' : es ⊆ es' := List.Subset.trans (List.subset_append_left ..) hgrows
    cases hfilter : deeperResult.filter decides with
    | some result =>
      obtain ⟨hresult, -⟩ := Option.filter_eq_some_iff.1 hfilter
      dsimp only
      split
      · rename_i hok
        rintro _ ⟨⟩ -
        obtain ⟨mapping', chain, answer, hends, hnested, hvalue⟩ := hdeep result hresult hok
        exact ⟨mapping, mapping' :: chain, answer, hends,
          ⟨hmapping.mono hgrows', hpath, hnested⟩, congrArg (rebase · outer) hvalue⟩
      · rename_i hnot
        rintro _ ⟨⟩ hok
        exact absurd hok hnot
    | none =>
      dsimp only
      split
      · rintro result ⟨⟩ hok
        rw [not_ok_failure (ok_eq_false.1 hfailed)] at hok
        cases hok
      · refine ih ?_ fun mapping hmem => (hrest mapping hmem).mono hgrows'
        rintro error ⟨⟩
        exact ok_eq_false.1 hfailed

theorem meets_tryNestedPathMappings_found {depth : ℕ} {outer : DfsPathMapping}
    {error : AppError} :
    Meets .history (tryNestedPathMappings tables operation rebase depth outer path error)
      (FoundBelow tables operation rebase outer path) es := by
  induction depth generalizing es outer path error with
  | zero =>
    rintro result ⟨⟩
  | succ depth ih =>
    rw [tryNestedPathMappings]
    split
    · rintro result ⟨⟩
    have hloop : ∀ nestedMappings es₁, (∀ mapping ∈ nestedMappings,
        Offered tables es₁ outer.targetConnection path mapping) → Meets .history
        (nestedMappingsLoop tables operation rebase
          (tryNestedPathMappings tables operation rebase depth) outer path nestedMappings none)
        (FoundBelow tables operation rebase outer path) es₁ := fun nestedMappings es₁ hoffered =>
      meets_nestedMappingsLoop_found (fun _ _ _ _ => ih) (by simp) hoffered
    refine (looksUp_cachedResolvedPathMappings es).bind fun cachedMappings es₁ h₁ => ?_
    split
    · exact (looksUp_resolvePathAndCache es₁).bind fun mappings es₂ h₂ =>
        hloop mappings es₂ h₂.2
    · exact hloop cachedMappings es₁ h₁.2

/-! ## Fallback from path to path -/

theorem meets_cachedMappingsLoop_found {mappings : List DfsPathMapping}
    {lastFailoverError : Option AppError}
    (hlast : ∀ error ∈ lastFailoverError, error.hasError = true)
    (hoffered : ∀ mapping ∈ mappings, Offered tables es connection path mapping) :
    Meets .history
      (cachedMappingsLoop tables operation rebase connection path mappings lastFailoverError)
      (LoopFinds fun result es' => ∃ chain answer,
        FoundThrough tables operation rebase es' connection path chain answer result.value)
      es := by
  induction mappings generalizing es lastFailoverError with
  | nil => exact hlast
  | cons mapping rest ih =>
    obtain ⟨hmapping, hrest⟩ := List.forall_mem_cons.1 hoffered
    rw [cachedMappingsLoop]
    refine meets_delegate_history fun cachedResult => ?_
    split
    · rename_i hok
      exact fun _ => ⟨[mapping], cachedResult, foundThrough_direct hmapping hok⟩
    rename_i hfailed
    have herror := ok_eq_false.1 (Bool.eq_false_iff.2 hfailed)
    refine ((meets_history_grows _ _).and meets_tryNestedPathMappings_found).bind
      fun nestedResult es' hnested => ?_
    obtain ⟨hgrows, hnested⟩ := hnested
    have hgrows' : es ⊆ es' := List.Subset.trans (List.subset_append_left ..) hgrows
    cases hfilter : nestedResult.filter decides with
    | some result =>
      exact hnested.foundThrough (hmapping.mono hgrows') (Option.filter_eq_some_iff.1 hfilter).1
    | none =>
      dsimp only
      split
      · exact meets_ask_history fun _ => trivial
      split
      · exact fun hok => absurd hok hfailed
      · refine ih ?_ fun mapping hmem => (hrest mapping hmem).mono hgrows'
        rintro error ⟨⟩
        exact herror

theorem meets_resolvedMappingsLoop_found {mappings : List DfsPathMapping}
    {lastFailoverError : Option AppError}
    (hlast : ∀ error ∈ lastFailoverError, error.hasError = true)
    (hoffered : ∀ mapping ∈ mappings, Offered tables es connection path mapping) :
    Meets .history
      (resolvedMappingsLoop tables operation rebase path mappings lastFailoverError)
      (LoopFinds fun result es' => ∃ chain answer,
        FoundThrough tables operation rebase es' connection path chain answer result.value)
      es := by
  induction mappings generalizing es lastFailoverError with
  | nil => exact hlast
  | cons mapping rest ih =>
    obtain ⟨hmapping, hrest⟩ := List.forall_mem_cons.1 hoffered
    rw [resolvedMappingsLoop]
    refine meets_delegate_history fun resolvedResult => ?_
    split
    · rename_i hok
      exact fun _ => ⟨[mapping], resolvedResult, foundThrough_direct hmapping hok⟩
    rename_i hfailed
    have herror := ok_eq_false.1 (Bool.eq_false_iff.2 hfailed)
    refine ((meets_history_grows _ _).and meets_tryNestedPathMappings_found).bind
      fun nestedResult es' hnested => ?_
    obtain ⟨hgrows, hnested⟩ := hnested
    have hgrows' : es ⊆ es' := List.Subset.trans (List.subset_append_left ..) hgrows
    cases hfilter : nestedResult.filter decides with
    | some result =>
      exact hnested.foundThrough (hmapping.mono hgrows') (Option.filter_eq_some_iff.1 hfilter).1
    | none =>
      dsimp only
      split
      · exact fun hok => absurd hok hfailed
      · refine ih ?_ fun mapping hmem => (hrest mapping hmem).mono hgrows'
        rintro error ⟨⟩
        exact herror

/-- Whatever succeeds was found on a candidate connection or through a chain of
    mappings. -/
theorem meets_runWithPathDfsFallback_found {remotePath : QString} :
    Meets .history (runWithPathDfsFallback tables operation rebase connection remotePath)
      (fun result es' => result.ok = true → ∃ chain answer,
        FoundThrough tables operation rebase es' connection (normalizeRemotePath remotePath)
          chain answer result.value) es := by
  rw [runWithPathDfsFallback]
  refine (looksUp_cachedResolvedPathMappings es).bind fun cachedMappings es₁ h₁ => ?_
  refine (meets_cachedMappingsLoop_found (by simp) h₁.2).bind fun cachedLoop es₂ hloop => ?_
  refine meets_finish_found hloop ?_
  refine meets_runWithDfsFallback_found.bind fun result es₃ hresult => ?_
  split
  · intro hok
    obtain ⟨candidate, hends⟩ := hresult hok
    exact ⟨[], result, ⟨candidate, hends⟩, rfl⟩
  · rename_i hfailed
    simp only [Bool.or_eq_true, not_or, Bool.not_eq_true] at hfailed
    refine (looksUp_resolvePathAndCache es₃).bind fun mappings es₄ h₄ => ?_
    refine (meets_resolvedMappingsLoop_found (by simp) h₄.2).bind fun resolvedLoop es₅ hloop' => ?_
    refine meets_finish_found hloop' fun hok => ?_
    rw [hfailed.1] at hok
    cases hok

end

end SmbBrowser.Dfs
