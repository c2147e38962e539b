import SmbBrowser.Dfs.Client

/-!
# Failover discipline

Every program of the client goes from target to target while the calls of the
delegate fail, and ends with the first that succeeds.

Results:
* `runWithDfsFallback_disciplined`, `runWithPathDfsFallback_disciplined`: of every
  run, whatever the delegate, the resolver and the caches answer.
-/

namespace SmbBrowser.Dfs

open SmbBrowser.Base SmbBrowser.Qt SmbBrowser.Core

variable {A T : Type}

/-! ## The calls of a run -/

/-- What the delegate answered, if it was asked. -/
def delegateResult : Event (dfs A T) → Option (Result T)
  | ⟨.delegate _, result⟩ => some result
  | _ => none

/-- The results of the calls of a run, in order. -/
def delegateResults (es : List (Event (dfs A T))) : List (Result T) := es.filterMap delegateResult

/-- The largest of some numbers. -/
def largest (l : List ℕ) : ℕ := l.foldr max 0

theorem le_largest {l : List ℕ} {n : ℕ} (h : n ∈ l) : n ≤ largest l := by
  induction l with
  | nil => cases h
  | cons m l ih =>
    rw [largest, List.foldr_cons, ← largest]
    rcases List.mem_cons.1 h with rfl | h
    · exact le_max_left ..
    · exact (ih h).trans (le_max_right ..)

/-- The longest list of targets in a table of connections. -/
def targetsSize (table : QHash QString DfsConnectionCacheEntry) : ℕ :=
  largest (table.map fun entry => entry.2.targets.length)

/-- The longest list of mappings in a table of path mappings. -/
def mappingsSize (table : QHash QString DfsPathMappingCacheEntry) : ℕ :=
  largest (table.map fun entry => entry.2.mappings.length)

/-- How many targets an answer of the resolver or of a cache has at most. -/
def answerSize : Event (dfs A T) → ℕ
  | ⟨.resolveTargets _, resolved⟩ =>
    List.length (Result.value (T := List DfsResolvedConnection) resolved)
  | ⟨.resolvePathTargets _ _, resolved⟩ =>
    List.length (Result.value (T := List DfsResolvedPath) resolved)
  | ⟨.resolvedConnections, table⟩ => targetsSize table
  | ⟨.resolvedPathMappings, table⟩ => mappingsSize table
  | _ => 0

/-- An environment whose answers have at most `k` elements; its state is the results of
    the calls so far. -/
def attempts (k : ℕ) : Contract (dfs A T) (List (Result T)) where
  allows _ _ := True
  step s e s' := answerSize e ≤ k ∧ s' = s ++ (delegateResult e).toList

theorem steps_attempts {k : ℕ} {es : List (Event (dfs A T))} {s : List (Result T)}
    (h : ∀ e ∈ es, answerSize e ≤ k) : (attempts k).Steps s es (s ++ delegateResults es) := by
  induction es generalizing s with
  | nil => rw [Contract.steps_nil, delegateResults, List.filterMap_nil, List.append_nil]
  | cons e es ih =>
    obtain ⟨he, hes⟩ := List.forall_mem_cons.1 h
    refine ⟨s ++ (delegateResult e).toList, ⟨he, rfl⟩, ?_⟩
    have hrest := ih (s := s ++ (delegateResult e).toList) hes
    have hsplit : delegateResults (e :: es) = (delegateResult e).toList ++ delegateResults es := by
      rw [delegateResults, delegateResults, List.filterMap_cons]
      cases delegateResult e <;> rfl
    rwa [hsplit, ← List.append_assoc]

/-! ## Conclusive results -/

/-- All of the calls failed. -/
def AllFailed (calls : List (Result T)) : Prop := ∀ call ∈ calls, call.ok = false

/-- The error is one that a call failed with. -/
structure Carried (calls : List (Result T)) (error : AppError) : Prop where
  hasError : error.hasError = true
  mem : ∃ call ∈ calls, call.error = error

/-- The calls failed up to the last one, and the result is that of the calls: it
    succeeds as the last one does and fails with the error of one of them. -/
structure Conclusive (calls : List (Result T)) (result : Result T) : Prop where
  last : ∃ before last, calls = before ++ [last] ∧ AllFailed before ∧ result.ok = last.ok
  error : result.ok = false → ∃ call ∈ calls, call.error = result.error

section

variable {calls : List (Result T)} {call result : Result T} {error : AppError}

theorem ok_eq_false : result.ok = false ↔ result.error.hasError = true := by
  simp [Result.ok]

theorem AllFailed.concat (h : AllFailed calls) (hcall : call.ok = false) :
    AllFailed (calls ++ [call]) := by
  intro c hc
  rcases List.mem_append.1 hc with hc | hc
  · exact h c hc
  · rw [List.mem_singleton.1 hc, hcall]

theorem carried_concat (h : call.ok = false) : Carried (calls ++ [call]) call.error :=
  ⟨ok_eq_false.1 h, call, by simp, rfl⟩

/-- A success right after failures. -/
theorem conclusive_success (h : AllFailed calls) (hcall : call.ok = true)
    (hresult : result.ok = true) : Conclusive (calls ++ [call]) result := by
  refine ⟨⟨calls, call, rfl, h, by rw [hcall, hresult]⟩, fun hfailed => ?_⟩
  rw [hresult] at hfailed
  cases hfailed

/-- A failure with the error of one of the failed calls. -/
theorem conclusive_failure (h : AllFailed calls) (hcarried : Carried calls result.error) :
    Conclusive calls result := by
  obtain ⟨call, hmem, hcall⟩ := hcarried.mem
  have hresult : result.ok = false := ok_eq_false.2 hcarried.hasError
  rcases List.eq_nil_or_concat calls with rfl | ⟨before, last, rfl⟩
  · cases hmem
  · rw [List.concat_eq_append] at h hmem ⊢
    refine ⟨⟨before, last, rfl, fun c hc => h c (List.mem_append_left _ hc), ?_⟩,
      fun _ => ⟨call, hmem, hcall⟩⟩
    rw [hresult, h last (by simp)]

/-- A loop returns what a call came to. -/
theorem conclusive_call (h : AllFailed calls) : Conclusive (calls ++ [call]) call := by
  by_cases hcall : call.ok = true
  · exact conclusive_success h hcall hcall
  · rw [Bool.not_eq_true] at hcall
    exact conclusive_failure (h.concat hcall) (carried_concat hcall)

/-- At most `n` calls were added. -/
structure Grows (n : ℕ) (calls calls' : List (Result T)) : Prop where
  start : calls <+: calls'
  length : calls'.length ≤ calls.length + n

theorem Grows.refl {n : ℕ} : Grows n calls calls := ⟨List.prefix_rfl, by omega⟩

theorem Grows.concat {n : ℕ} : Grows (n + 1) calls (calls ++ [call]) :=
  ⟨List.prefix_append .., by simp⟩

theorem Grows.trans {n m : ℕ} {calls' calls'' : List (Result T)} (h : Grows n calls calls')
    (h' : Grows m calls' calls'') : Grows (n + m) calls calls'' := by
  have := h.length
  have := h'.length
  exact ⟨h.start.trans h'.start, by omega⟩

theorem Grows.mono {n m : ℕ} {calls' : List (Result T)} (h : Grows n calls calls')
    (hn : n ≤ m) : Grows m calls calls' := by
  have := h.length
  exact ⟨h.start, by omega⟩

theorem Carried.grows {n : ℕ} {calls' : List (Result T)} (h : Carried calls error)
    (hcalls : Grows n calls calls') : Carried calls' error := by
  obtain ⟨call, hmem, hcall⟩ := h.mem
  exact ⟨h.hasError, call, hcalls.start.subset hmem, hcall⟩

theorem Conclusive.allFailed (h : Conclusive calls result) (hresult : result.ok = false) :
    AllFailed calls := by
  obtain ⟨before, last, rfl, hbefore, hlast⟩ := h.last
  exact hbefore.concat (hlast.symm.trans hresult)

/-- Another value for a success. -/
theorem Conclusive.success (h : Conclusive calls result) (hresult : result.ok = true) (value : T) :
    Conclusive calls (.success value) := by
  obtain ⟨before, last, hcalls, hbefore, hlast⟩ := h.last
  refine ⟨⟨before, last, hcalls, hbefore, ?_⟩, fun hfailed => ?_⟩
  · rw [← hlast, hresult]
    rfl
  · cases hfailed

end

/-! ## Lookups ask no delegate -/

section

variable {k : ℕ} {s : List (Result T)} {tables : CaseTables}

theorem meets_delegate {β : Type} {call : A} {f : Result T → DfsProgram A T β}
    {Q : β → List (Result T) → Prop}
    (h : ∀ result, Meets (attempts k) (f result) Q (s ++ [result])) :
    Meets (attempts k) ((delegate call).bind f) Q s := by
  refine ⟨trivial, fun result s' hstep => ?_⟩
  obtain ⟨-, rfl⟩ := hstep
  exact h result

/-- A question that is not for the delegate. -/
theorem meets_quiet {β : Type} {op : DfsOp A} {f : (dfs A T).Ans op → DfsProgram A T β}
    {Q : β → List (Result T) → Prop}
    (hop : ∀ ans, delegateResult (⟨op, ans⟩ : Event (dfs A T)) = none)
    (h : ∀ ans, answerSize (⟨op, ans⟩ : Event (dfs A T)) ≤ k →
      Meets (attempts k) (f ans) Q s) :
    Meets (attempts k) ((Program.perform (I := dfs A T) op).bind f) Q s := by
  refine ⟨trivial, fun ans s' hstep => ?_⟩
  obtain ⟨hsize, rfl⟩ := hstep
  rw [hop, Option.toList_none, List.append_nil]
  exact h ans hsize

theorem meets_isCacheFresh {expiresAtUtc : QDateTime} :
    Meets (attempts k) (isCacheFresh (A := A) expiresAtUtc) (fun _ s' => s' = s) s := by
  rw [isCacheFresh]
  split
  · rfl
  · exact meets_quiet (fun _ => rfl) fun _ _ => rfl

theorem meets_targetsExpiry {targets : List DfsResolvedConnection} {expiresAtUtc : QDateTime} :
    Meets (attempts k) (targetsExpiry (A := A) targets expiresAtUtc) (fun _ s' => s' = s) s := by
  induction targets generalizing expiresAtUtc with
  | nil => rfl
  | cons target targets ih =>
    rw [targetsExpiry, expiresAtForTtl]
    exact meets_quiet (fun _ => rfl) fun _ _ => ih

/-- A lookup leaves the calls as they are and returns a list of at most `k` targets. -/
abbrev Looks {β : Type} (k : ℕ) (p : DfsProgram A T (List β)) : Prop :=
  ∀ s, Meets (attempts k) p (fun targets s' => s' = s ∧ targets.length ≤ k) s

theorem targets_length_le {table : QHash QString DfsConnectionCacheEntry} {key : QString}
    {entry : DfsConnectionCacheEntry} (h : QHash.constFind table key = some entry) :
    entry.targets.length ≤ targetsSize table := by
  rw [QHash.constFind, Option.map_eq_some_iff] at h
  obtain ⟨found, hfound, rfl⟩ := h
  exact le_largest (List.mem_map_of_mem (List.mem_of_find?_eq_some hfound))

theorem looks_cachedResolvedConnections {connection : Connection} :
    Looks k (cachedResolvedConnections (A := A) (T := T) tables connection) := by
  intro s
  rw [cachedResolvedConnections]
  refine meets_quiet (fun _ => rfl) fun table hsize => ?_
  cases hfind : QHash.constFind table (cacheKey tables connection) with
  | none => exact ⟨rfl, Nat.zero_le _⟩
  | some entry =>
    refine meets_isCacheFresh.bind fun fresh s' hs' => ⟨hs', ?_⟩
    by_cases hfresh : fresh = true
    · rw [if_pos hfresh]
      exact (targets_length_le hfind).trans hsize
    · rw [if_neg hfresh]
      exact Nat.zero_le _

theorem looks_resolveAndCache {connection : Connection} :
    Looks k (resolveAndCache (A := A) (T := T) tables connection) := by
  intro s
  rw [resolveAndCache]
  refine meets_quiet (fun _ => rfl) fun resolved hsize => ?_
  split
  · exact ⟨rfl, Nat.zero_le _⟩
  · refine meets_targetsExpiry.bind fun expiresAtUtc s' hs' => ?_
    rw [hs']
    exact meets_quiet (fun _ => rfl) fun _ _ => ⟨rfl, by rwa [List.length_map]⟩

theorem meets_bestPathMapping {sourceKey normalizedPath : QString}
    {table : List (QString × DfsPathMappingCacheEntry)} {best : Option DfsPathMappingCacheEntry}
    (htable : mappingsSize table ≤ k) (hbest : ∀ entry ∈ best, entry.mappings.length ≤ k) :
    Meets (attempts k) (bestPathMapping (A := A) sourceKey normalizedPath table best)
      (fun best s' => s' = s ∧ ∀ entry ∈ best, entry.mappings.length ≤ k) s := by
  induction table generalizing best with
  | nil => exact ⟨rfl, hbest⟩
  | cons found table ih =>
    obtain ⟨key, entry⟩ := found
    have hentry : entry.mappings.length ≤ k :=
      (le_largest (List.mem_map_of_mem (f := fun entry => entry.2.mappings.length)
        (List.mem_cons_self (a := (key, entry)) (l := table)))).trans htable
    have hrest : mappingsSize table ≤ k :=
      (le_max_right entry.mappings.length (mappingsSize table)).trans htable
    rw [bestPathMapping]
    refine meets_isCacheFresh.bind fun fresh s' hs' => ?_
    rw [hs']
    have hsome : ∀ e ∈ some entry, e.mappings.length ≤ k := by
      rintro e ⟨⟩
      exact hentry
    split
    · exact ih hrest hbest
    · split
      · exact ih hrest hbest
      · cases best with
        | none => exact ih hrest hsome
        | some found =>
          refine ih hrest ?_
          split
          · exact hsome
          · exact hbest

theorem looks_cachedResolvedPathMappings {connection : Connection} {remotePath : QString} :
    Looks k (cachedResolvedPathMappings (A := A) (T := T) tables connection remotePath) := by
  intro s
  rw [cachedResolvedPathMappings]
  refine meets_quiet (fun _ => rfl) fun table hsize => ?_
  refine (meets_bestPathMapping hsize (by simp)).bind fun best s' hbest => ?_
  obtain ⟨hs', hbest⟩ := hbest
  cases best with
  | none => exact ⟨hs', Nat.zero_le _⟩
  | some entry => exact ⟨hs', hbest entry rfl⟩

theorem meets_pathMappings {connection : Connection} {remotePath : QString}
    {resolved : List DfsResolvedPath} {expiresAtUtc : QDateTime} :
    Meets (attempts k) (pathMappings (A := A) tables connection remotePath resolved expiresAtUtc)
      (fun found s' => s' = s ∧ found.1.length = resolved.length) s := by
  induction resolved generalizing expiresAtUtc with
  | nil => exact ⟨rfl, rfl⟩
  | cons resolvedPath resolved ih =>
    rw [pathMappings, expiresAtForTtl]
    refine meets_quiet (fun _ => rfl) fun _ _ => ?_
    refine ih.bind fun found s' hfound => ?_
    exact ⟨hfound.1, by rw [List.length_cons, List.length_cons, hfound.2]⟩

theorem looks_resolvePathAndCache {connection : Connection} {remotePath : QString} :
    Looks k (resolvePathAndCache (A := A) (T := T) tables connection remotePath) := by
  intro s
  rw [resolvePathAndCache]
  refine meets_quiet (fun _ => rfl) fun resolved hsize => ?_
  split
  · rename_i first rest _ hvalue
    refine meets_pathMappings.bind fun found s' hfound => ?_
    rw [hfound.1]
    refine meets_quiet (fun _ => rfl) fun _ _ => ⟨rfl, ?_⟩
    rw [hfound.2, ← hvalue]
    exact hsize
  · exact ⟨rfl, Nat.zero_le _⟩

end

/-! ## Loops over targets -/

/-- What a loop over targets leaves: the calls it added failed, or it returns a
    conclusive result. -/
def LoopLeaves (loop : TargetsLoop T) (calls : List (Result T)) : Prop :=
  match loop with
  | .returned result => Conclusive calls result
  | .forgotten => AllFailed calls
  | .exhausted lastFailoverError =>
    AllFailed calls ∧ ∀ error ∈ lastFailoverError, Carried calls error

section

variable {k : ℕ} {s : List (Result T)} {tables : CaseTables} {connection : Connection}

theorem meets_cachedTargetsLoop {operation : Connection → A} {targets : List Connection}
    {lastFailoverError : Option AppError} (hs : AllFailed s)
    (hlast : ∀ error ∈ lastFailoverError, Carried s error) :
    Meets (attempts k)
      (cachedTargetsLoop (T := T) tables operation connection targets lastFailoverError)
      (fun loop s' => Grows targets.length s s' ∧ LoopLeaves loop s') s := by
  induction targets generalizing s lastFailoverError with
  | nil => exact ⟨.refl, hs, hlast⟩
  | cons cached rest ih =>
    rw [cachedTargetsLoop]
    refine meets_delegate fun cachedResult => ?_
    split
    · exact ⟨.concat, conclusive_call hs⟩
    · rename_i hfailed
      have hs' := hs.concat (Bool.eq_false_iff.2 hfailed)
      split
      · exact meets_quiet (fun _ => rfl) fun _ _ => ⟨.concat, hs'⟩
      · split
        · exact ⟨.concat, conclusive_call hs⟩
        · refine (ih hs' ?_).mono fun loop s'' h => ⟨?_, h.2⟩
          · rintro error ⟨⟩
            exact carried_concat (Bool.eq_false_iff.2 hfailed)
          · exact ((Grows.concat (n := 0)).trans h.1).mono (by rw [List.length_cons]; omega)

theorem meets_resolvedTargetsLoop {operation : Connection → A} {targets : List Connection}
    {lastFailoverError : Option AppError} (hs : AllFailed s)
    (hlast : ∀ error ∈ lastFailoverError, Carried s error) :
    Meets (attempts k) (resolvedTargetsLoop (T := T) operation targets lastFailoverError)
      (fun loop s' => Grows targets.length s s' ∧ LoopLeaves loop s') s := by
  induction targets generalizing s lastFailoverError with
  | nil => exact ⟨.refl, hs, hlast⟩
  | cons target rest ih =>
    rw [resolvedTargetsLoop]
    refine meets_delegate fun resolvedResult => ?_
    split
    · exact ⟨.concat, conclusive_call hs⟩
    · rename_i hfailed
      have hs' := hs.concat (Bool.eq_false_iff.2 hfailed)
      split
      · exact ⟨.concat, conclusive_call hs⟩
      · refine (ih hs' ?_).mono fun loop s'' h => ⟨?_, h.2⟩
        · rintro error ⟨⟩
          exact carried_concat (Bool.eq_false_iff.2 hfailed)
        · exact ((Grows.concat (n := 0)).trans h.1).mono (by rw [List.length_cons]; omega)

/-- After a loop, the rest of the program goes on with calls that all failed. -/
theorem meets_finish [Inhabited T] {loop : TargetsLoop T}
    {otherwise : DfsProgram A T (Result T)} {Q : Result T → List (Result T) → Prop}
    (hloop : LoopLeaves loop s) (hconclusive : ∀ result, Conclusive s result → Q result s)
    (hrest : AllFailed s → Meets (attempts k) otherwise Q s) :
    Meets (attempts k) (loop.finish otherwise) Q s := by
  cases loop with
  | returned result => exact hconclusive result hloop
  | forgotten => exact hrest hloop
  | exhausted lastFailoverError =>
    cases lastFailoverError with
    | none => exact hrest hloop.1
    | some error => exact hconclusive _ (conclusive_failure hloop.1 (hloop.2 error rfl))

theorem meets_runWithDfsFallback [Inhabited T] {operation : Connection → A} (hs : AllFailed s) :
    Meets (attempts k) (runWithDfsFallback tables connection operation)
      (fun result s' => Grows (k + 1 + k) s s' ∧ Conclusive s' result) s := by
  rw [runWithDfsFallback]
  refine (looks_cachedResolvedConnections s).bind fun cachedTargets s₁ h₁ => ?_
  obtain ⟨rfl, hcached⟩ := h₁
  refine (meets_cachedTargetsLoop hs (by simp)).bind fun cachedLoop s₂ h₂ => ?_
  obtain ⟨hgrows, hloop⟩ := h₂
  refine meets_finish hloop (fun result hresult => ⟨hgrows.mono (by omega), hresult⟩) ?_
  intro hs₂
  refine meets_delegate fun result => ?_
  have hgrows₃ : Grows _ _ (s₂ ++ [result]) := hgrows.trans (.concat (n := 0))
  split
  · exact ⟨hgrows₃.mono (by omega), conclusive_call hs₂⟩
  · rename_i hfailed
    simp only [Bool.or_eq_true, not_or, Bool.not_eq_true] at hfailed
    refine (looks_resolveAndCache _).bind fun targets s₄ h₄ => ?_
    obtain ⟨rfl, htargets⟩ := h₄
    refine (meets_resolvedTargetsLoop (hs₂.concat hfailed.1) (by simp)).bind
      fun resolvedLoop s₅ h₅ => ?_
    obtain ⟨hgrows₅, hloop'⟩ := h₅
    have hall := (hgrows₃.trans hgrows₅).mono (show _ ≤ k + 1 + k by omega)
    refine meets_finish hloop' (fun result hresult => ⟨hall, hresult⟩) fun hs₅ => ?_
    exact ⟨hall, conclusive_failure hs₅ ((carried_concat hfailed.1).grows hgrows₅)⟩

end

/-! ## Nested mappings -/

/-- What nested mappings leave. -/
def NestedLeaves (nested : Option (Result T)) (calls : List (Result T)) : Prop :=
  match nested with
  | none => AllFailed calls
  | some result => Conclusive calls result

theorem NestedLeaves.filter {nested : Option (Result T)} {calls : List (Result T)}
    (h : NestedLeaves nested calls) : NestedLeaves (nested.filter decides) calls := by
  cases nested with
  | none => exact h
  | some result =>
    rw [Option.filter_some]
    split
    · exact h
    · rename_i hdecides
      simp only [decides, Bool.or_eq_true, not_or, Bool.not_eq_true] at hdecides
      exact Conclusive.allFailed h hdecides.1

/-- The calls that nested mappings add at most, with `k` mappings at every level. -/
def nestedBound (k : ℕ) : ℕ → ℕ
  | 0 => 0
  | depth + 1 => k * (1 + nestedBound k depth)

section

variable [Inhabited T] {k : ℕ} {s : List (Result T)} {tables : CaseTables}
  {operation : Connection → QString → A} {rebase : T → DfsPathMapping → T}

theorem meets_nestedMappingsLoop {n : ℕ} {outerMapping : DfsPathMapping} {mappedPath : QString}
    {deeper : DfsPathMapping → QString → AppError → DfsProgram A T (Option (Result T))}
    {mappings : List DfsPathMapping} {lastFailoverError : Option AppError}
    (hdeeper : ∀ mapping path error s, AllFailed s → Meets (attempts k)
      (deeper mapping path error) (fun nested s' => Grows n s s' ∧ NestedLeaves nested s') s)
    (hs : AllFailed s) (hlast : ∀ error ∈ lastFailoverError, Carried s error) :
    Meets (attempts k)
      (nestedMappingsLoop tables operation rebase deeper outerMapping mappedPath mappings
        lastFailoverError)
      (fun nested s' => Grows (mappings.length * (1 + n)) s s' ∧ NestedLeaves nested s') s := by
  induction mappings generalizing s lastFailoverError with
  | nil =>
    refine ⟨.refl, ?_⟩
    cases lastFailoverError with
    | none => exact hs
    | some error => exact conclusive_failure hs (hlast error rfl)
  | cons nestedMapping rest ih =>
    have hlen : (nestedMapping :: rest).length * (1 + n) = 0 + 1 + n + rest.length * (1 + n) := by
      rw [List.length_cons, Nat.add_mul]
      omega
    have hmore : rest.length * (1 + n) ≤ (nestedMapping :: rest).length * (1 + n) := by omega
    rw [nestedMappingsLoop]
    split
    · exact (ih hs hlast).mono fun nested s' h => ⟨h.1.mono hmore, h.2⟩
    split
    · exact (ih hs hlast).mono fun nested s' h => ⟨h.1.mono hmore, h.2⟩
    refine meets_delegate fun nestedResult => ?_
    have hgrows : Grows (0 + 1) s (s ++ [nestedResult]) := .concat
    split
    · rename_i hok
      exact ⟨hgrows.mono (by omega), conclusive_success hs hok rfl⟩
    · rename_i hfailed
      rw [Bool.not_eq_true] at hfailed
      have hs' := hs.concat hfailed
      have hcarried : Carried (s ++ [nestedResult]) _ := carried_concat hfailed
      refine (hdeeper _ _ _ _ hs').bind fun deeperResult s'' hdeep => ?_
      obtain ⟨hgrows', hleaves⟩ := hdeep
      have hleaves' := hleaves.filter
      have hall := hgrows.trans hgrows'
      cases hfilter : deeperResult.filter decides with
      | some result =>
        rw [hfilter] at hleaves'
        by_cases hok : result.ok = true
        · simp only [hok, if_true]
          exact ⟨hall.mono (by omega), Conclusive.success hleaves' hok _⟩
        · simp only [hok]
          exact ⟨hall.mono (by omega), hleaves'⟩
      | none =>
        rw [hfilter] at hleaves'
        dsimp only
        split
        · exact ⟨hall.mono (by omega), conclusive_failure hleaves' (hcarried.grows hgrows')⟩
        · refine (ih hleaves' ?_).mono fun nested s₃ h => ⟨?_, h.2⟩
          · rintro error ⟨⟩
            exact hcarried.grows hgrows'
          · exact (hall.trans h.1).mono (by omega)

theorem meets_tryNestedPathMappings {depth : ℕ} {outerMapping : DfsPathMapping}
    {mappedPath : QString} {triggerError : AppError} (hs : AllFailed s) :
    Meets (attempts k)
      (tryNestedPathMappings tables operation rebase depth outerMapping mappedPath triggerError)
      (fun nested s' => Grows (nestedBound k depth) s s' ∧ NestedLeaves nested s') s := by
  induction depth generalizing s outerMapping mappedPath triggerError with
  | zero => exact ⟨.refl, hs⟩
  | succ depth ih =>
    rw [tryNestedPathMappings]
    split
    · exact ⟨.refl, hs⟩
    refine (looks_cachedResolvedPathMappings s).bind fun cachedMappings s₁ h₁ => ?_
    obtain ⟨rfl, hcached⟩ := h₁
    have hloop : ∀ nestedMappings s₂, s₂ = s₁ ∧ nestedMappings.length ≤ k → Meets (attempts k)
        (nestedMappingsLoop tables operation rebase
          (tryNestedPathMappings tables operation rebase depth) outerMapping mappedPath
          nestedMappings none)
        (fun nested s' => Grows (nestedBound k (depth + 1)) s₁ s' ∧ NestedLeaves nested s')
        s₂ := by
      rintro nestedMappings s₂ ⟨rfl, hlen⟩
      refine (meets_nestedMappingsLoop (fun _ _ _ _ hs => ih hs) hs (by simp)).mono
        fun nested s' h => ⟨h.1.mono ?_, h.2⟩
      rw [nestedBound]
      exact Nat.mul_le_mul_right _ hlen
    split
    · exact (looks_resolvePathAndCache s₁).bind hloop
    · exact hloop cachedMappings s₁ ⟨rfl, hcached⟩

/-! ## Fallback from path to path -/

/-- The calls that one mapping of a path adds at most. -/
def mappingBound (k : ℕ) : ℕ := 1 + nestedBound k kMaxNestedDfsDepth

theorem meets_cachedMappingsLoop {connection : Connection} {normalizedPath : QString}
    {mappings : List DfsPathMapping} {lastFailoverError : Option AppError} (hs : AllFailed s)
    (hlast : ∀ error ∈ lastFailoverError, Carried s error) :
    Meets (attempts k)
      (cachedMappingsLoop tables operation rebase connection normalizedPath mappings
        lastFailoverError)
      (fun loop s' => Grows (mappings.length * mappingBound k) s s' ∧ LoopLeaves loop s') s := by
  induction mappings generalizing s lastFailoverError with
  | nil => exact ⟨.refl, hs, hlast⟩
  | cons mapping rest ih =>
    have hlen : (mapping :: rest).length * mappingBound k =
        0 + 1 + nestedBound k kMaxNestedDfsDepth + rest.length * mappingBound k := by
      rw [List.length_cons, Nat.add_mul, mappingBound]
      omega
    rw [cachedMappingsLoop]
    refine meets_delegate fun cachedResult => ?_
    have hgrows : Grows (0 + 1) s (s ++ [cachedResult]) := .concat
    split
    · rename_i hok
      exact ⟨hgrows.mono (by omega), conclusive_success hs hok rfl⟩
    rename_i hfailed
    rw [Bool.not_eq_true] at hfailed
    have hcarried : Carried (s ++ [cachedResult]) _ := carried_concat hfailed
    refine (meets_tryNestedPathMappings (hs.concat hfailed)).bind fun nestedResult s'' h => ?_
    obtain ⟨hgrows', hleaves⟩ := h
    have hleaves' := hleaves.filter
    have hall := hgrows.trans hgrows'
    cases hfilter : nestedResult.filter decides with
    | some result =>
      rw [hfilter] at hleaves'
      exact ⟨hall.mono (by omega), hleaves'⟩
    | none =>
      rw [hfilter] at hleaves'
      dsimp only
      split
      · exact meets_quiet (fun _ => rfl) fun _ _ => ⟨hall.mono (by omega), hleaves'⟩
      split
      · exact ⟨hall.mono (by omega), conclusive_failure hleaves' (hcarried.grows hgrows')⟩
      · refine (ih hleaves' ?_).mono fun loop s₃ h => ⟨(hall.trans h.1).mono (by omega), h.2⟩
        rintro error ⟨⟩
        exact hcarried.grows hgrows'

theorem meets_resolvedMappingsLoop {normalizedPath : QString} {mappings : List DfsPathMapping}
    {lastFailoverError : Option AppError} (hs : AllFailed s)
    (hlast : ∀ error ∈ lastFailoverError, Carried s error) :
    Meets (attempts k)
      (resolvedMappingsLoop tables operation rebase normalizedPath mappings lastFailoverError)
      (fun loop s' => Grows (mappings.length * mappingBound k) s s' ∧ LoopLeaves loop s') s := by
  induction mappings generalizing s lastFailoverError with
  | nil => exact ⟨.refl, hs, hlast⟩
  | cons mapping rest ih =>
    have hlen : (mapping :: rest).length * mappingBound k =
        0 + 1 + nestedBound k kMaxNestedDfsDepth + rest.length * mappingBound k := by
      rw [List.length_cons, Nat.add_mul, mappingBound]
      omega
    rw [resolvedMappingsLoop]
    refine meets_delegate fun resolvedResult => ?_
    have hgrows : Grows (0 + 1) s (s ++ [resolvedResult]) := .concat
    split
    · rename_i hok
      exact ⟨hgrows.mono (by omega), conclusive_success hs hok rfl⟩
    rename_i hfailed
    rw [Bool.not_eq_true] at hfailed
    have hcarried : Carried (s ++ [resolvedResult]) _ := carried_concat hfailed
    refine (meets_tryNestedPathMappings (hs.concat hfailed)).bind fun nestedResult s'' h => ?_
    obtain ⟨hgrows', hleaves⟩ := h
    have hleaves' := hleaves.filter
    have hall := hgrows.trans hgrows'
    cases hfilter : nestedResult.filter decides with
    | some result =>
      rw [hfilter] at hleaves'
      exact ⟨hall.mono (by omega), hleaves'⟩
    | none =>
      rw [hfilter] at hleaves'
      dsimp only
      split
      · exact ⟨hall.mono (by omega), conclusive_failure hleaves' (hcarried.grows hgrows')⟩
      · refine (ih hleaves' ?_).mono fun loop s₃ h => ⟨(hall.trans h.1).mono (by omega), h.2⟩
        rintro error ⟨⟩
        exact hcarried.grows hgrows'

/-- The calls of one operation at most, with `k` targets or mappings in every answer. -/
def attemptBound (k : ℕ) : ℕ := k * mappingBound k + (k + 1 + k) + k * mappingBound k

theorem meets_runWithPathDfsFallback {connection : Connection} {remotePath : QString}
    (hs : AllFailed s) :
    Meets (attempts k) (runWithPathDfsFallback tables operation rebase connection remotePath)
      (fun result s' => Grows (attemptBound k) s s' ∧ Conclusive s' result) s := by
  rw [runWithPathDfsFallback]
  refine (looks_cachedResolvedPathMappings s).bind fun cachedMappings s₁ h₁ => ?_
  obtain ⟨rfl, hcached⟩ := h₁
  refine (meets_cachedMappingsLoop hs (by simp)).bind fun cachedLoop s₂ h₂ => ?_
  obtain ⟨hgrows₂, hloop⟩ := h₂
  have hgrows := hgrows₂.mono (Nat.mul_le_mul_right (mappingBound k) hcached)
  refine meets_finish hloop (fun result hresult => ⟨hgrows.mono ?_, hresult⟩) fun hs₂ => ?_
  · rw [attemptBound]
    omega
  refine (meets_runWithDfsFallback hs₂).bind fun result s₃ h₃ => ?_
  obtain ⟨hgrows₃, hresult⟩ := h₃
  have hgrows' := hgrows.trans hgrows₃
  split
  · refine ⟨hgrows'.mono ?_, hresult⟩
    rw [attemptBound]
    omega
  rename_i hfailed
  simp only [Bool.or_eq_true, not_or, Bool.not_eq_true] at hfailed
  have hs₃ := hresult.allFailed hfailed.1
  refine (looks_resolvePathAndCache s₃).bind fun mappings s₄ h₄ => ?_
  obtain ⟨rfl, hmappings⟩ := h₄
  refine (meets_resolvedMappingsLoop hs₃ (by simp)).bind fun resolvedLoop s₅ h₅ => ?_
  obtain ⟨hgrows₅, hloop'⟩ := h₅
  have hgrows₅' := hgrows₅.mono (Nat.mul_le_mul_right (mappingBound k) hmappings)
  have hall : Grows (attemptBound k) s₁ s₅ := hgrows'.trans hgrows₅'
  refine meets_finish hloop' (fun result hresult => ⟨hall, hresult⟩) fun hs₅ => ⟨hall, ?_⟩
  obtain ⟨call, hmem, hcall⟩ := hresult.error hfailed.1
  refine conclusive_failure hs₅ (Carried.grows ⟨ok_eq_false.1 hfailed.1, call, hmem, hcall⟩ hgrows₅)

/-! ## Runs -/

/-- What every run of a fallback is: conclusive, and with a bounded number of calls. -/
structure Disciplined (bound : ℕ → ℕ) (es : List (Event (dfs A T))) (result : Result T) : Prop where
  conclusive : Conclusive (delegateResults es) result
  finite : ∀ k, (∀ e ∈ es, answerSize e ≤ k) → (delegateResults es).length ≤ bound k

omit [Inhabited T] in
theorem disciplined_of_meets {bound : ℕ → ℕ} {p : DfsProgram A T (Result T)}
    {es : List (Event (dfs A T))} {result : Result T}
    (h : ∀ k, Meets (attempts k) p
      (fun result s' => Grows (bound k) [] s' ∧ Conclusive s' result) [])
    (hrun : Program.Runs p es result) : Disciplined bound es result := by
  have hmeets : ∀ k, (∀ e ∈ es, answerSize e ≤ k) →
      Grows (bound k) [] (delegateResults es) ∧ Conclusive (delegateResults es) result := by
    intro k hk
    exact (h k).sound hrun (steps_attempts hk)
  refine ⟨?_, fun k hk => ?_⟩
  · exact (hmeets (largest (es.map answerSize)) fun e he =>
      le_largest (List.mem_map_of_mem he)).2
  · have := (hmeets k hk).1.length
    rwa [List.length_nil, Nat.zero_add] at this

end

/-- Whatever the delegate, the resolver, the clock and the caches answer: no call follows
    one that succeeded, the result is a success exactly when the last call was, a failure
    has the error of a call that was made, and the calls are bounded by the targets. -/
theorem fallbacks_disciplined [Inhabited T] (tables : CaseTables) (connection : Connection) :
    (∀ (operation : Connection → A) es (result : Result T),
      Program.Runs (runWithDfsFallback tables connection operation) es result →
        Disciplined (fun k => k + 1 + k) es result) ∧
    (∀ (operation : Connection → QString → A) (rebase : T → DfsPathMapping → T) remotePath es
        result,
      Program.Runs (runWithPathDfsFallback tables operation rebase connection remotePath) es
          result →
        Disciplined attemptBound es result) := by
  constructor
  · intro operation es result hrun
    exact disciplined_of_meets (fun k => meets_runWithDfsFallback (by simp [AllFailed])) hrun
  · intro operation rebase remotePath es result hrun
    exact disciplined_of_meets (fun k => meets_runWithPathDfsFallback (by simp [AllFailed])) hrun

/-! ## A nested referral -/

namespace NestedReferral

/-- The case tables on ASCII letters. -/
def asciiTables : CaseTables where
  toLower s := s.map fun c => if 0x41 ≤ c ∧ c ≤ 0x5A then c + 0x20 else c
  sameIgnoringCase s t := s = t

/-- A connection to a server. -/
def server (name : String) : Connection := { server := qStringLiteral name }

/-- `STATUS_PATH_NOT_COVERED` of a server whose path lies behind a link. -/
def notCovered : Result (List RemoteFileEntry) :=
  .failure { code := .shareUnavailable
             sanitizedTechnicalDetails := qStringLiteral "path not covered" }

/-- `/docs` of the root lies in `/data/docs` of the middle server, whose `/data` is all
    of the leaf. -/
def surroundings : Surroundings DelegateCall (List RemoteFileEntry) where
  delegate call :=
    if call = .listDirectory (server "leaf") (qStringLiteral "/docs/x") then
      .success [{ name := qStringLiteral "f", remotePath := qStringLiteral "/docs/x/f" }]
    else
      notCovered
  resolvePathTargets connection _ :=
    if connection = server "root" then
      .success [{ connection := server "mid", originalPathPrefix := qStringLiteral "/docs"
                  targetPathPrefix := qStringLiteral "/data/docs" }]
    else if connection = server "mid" then
      .success [{ connection := server "leaf", originalPathPrefix := qStringLiteral "/data"
                  targetPathPrefix := qStringLiteral "/" }]
    else
      .success []

/-- The listing of `/docs/x`. -/
def served : List (Event (dfs DelegateCall (List RemoteFileEntry))) ×
    Result (List RemoteFileEntry) × DfsCaches :=
  (listDirectory asciiTables (server "root") (qStringLiteral "/docs/x")).serve
    surroundings.handler {}

end NestedReferral

set_option maxRecDepth 10000 in
open NestedReferral in
/-- Three calls, of which the last one succeeds. -/
theorem fallbacks_disciplined_nested :
    Disciplined attemptBound served.1 served.2.1 ∧ (delegateResults served.1).length = 3 ∧
      served.2.1.ok = true := by
  have hrun := Program.runs_serve surroundings.handler
    (listDirectory asciiTables (server "root") (qStringLiteral "/docs/x")) {}
  exact ⟨(fallbacks_disciplined asciiTables (server "root")).2 _ _ _ _ _ hrun, rfl, rfl⟩

end SmbBrowser.Dfs
