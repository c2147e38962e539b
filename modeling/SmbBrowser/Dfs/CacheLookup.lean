import Mathlib.Data.List.Nodup
import SmbBrowser.Dfs.Failover
import SmbBrowser.Dfs.PathSegments

/-!
# The lookup of cached path mappings

`cachedResolvedPathMappings` walks the hash table in the order of its buckets and
keeps the first entry whose prefix is longer than those before it.  Its answer is
the same for every order as long as no two entries tie.

Results:
* `cachedResolvedPathMappings_longest`: the answer in every cache that is filled with
  prefixes which normalising leaves as they are;
* `cachedResolvedPathMappings_tie`: two entries of one length, and two answers.
-/

namespace SmbBrowser.Dfs

open SmbBrowser.Base SmbBrowser.Qt SmbBrowser.Core

variable {A T : Type} {tables : CaseTables}

/-! ## Caches that can be reached -/

/-- The table of path mappings. -/
abbrev PathMappingTable := QHash QString DfsPathMappingCacheEntry

/-- The prefix under which the answers of the resolver are cached. -/
def cachedPrefix (remotePath : QString) (resolved : Result (List DfsResolvedPath)) : QString :=
  match resolved.value with
  | [] => []
  | first :: _ =>
    normalizeRemotePath
      (if first.originalPathPrefix.isEmpty then remotePath else first.originalPathPrefix)

/-- An answer of the resolver is cached under a prefix that meets `P`. -/
def StoresUnder (P : QString → Prop) : Event (dfs A T) → Prop
  | ⟨.resolvePathTargets _ remotePath, resolved⟩ => P (cachedPrefix remotePath resolved)
  | _ => True

/-- The tables after resolutions and forgets in any order, of any connections and
    paths, whose cached prefixes all meet `P`. -/
inductive Reachable (A T : Type) (tables : CaseTables) (P : QString → Prop) : DfsCaches → Prop where
  | empty : Reachable A T tables P {}
  | resolve {caches : DfsCaches} {connection : Connection} {remotePath : QString}
      {es : List (Event (dfs A T))} {mappings : List DfsPathMapping}
      (h : Reachable A T tables P caches)
      (hrun : Program.Runs (resolvePathAndCache tables connection remotePath) es mappings)
      (hcached : ∀ e ∈ es, StoresUnder P e) :
      Reachable A T tables P (es.foldl (fun caches e => caches.after e.op) caches)
  | forget {caches : DfsCaches} {connection : Connection} {originalPrefix : QString}
      {es : List (Event (dfs A T))} {u : Unit} (h : Reachable A T tables P caches)
      (hrun : Program.Runs (forgetCachedPathMapping tables connection originalPrefix) es u) :
      Reachable A T tables P (es.foldl (fun caches e => caches.after e.op) caches)

/-! ## Lookups -/

/-- An entry that the clock has not passed. -/
def Unexpired (now : QDateTime) (entry : DfsPathMappingCacheEntry) : Bool :=
  entry.expiresAtUtc.isNone || now.before entry.expiresAtUtc

/-- An unexpired entry of a connection whose prefix is one of the path; `clock` is the
    reading that was made for the entry of a key. -/
def Matching (sourceKey path : QString) (clock : QString → QDateTime)
    (cached : QString × DfsPathMappingCacheEntry) : Bool :=
  match cached.2.mappings with
  | [] => false
  | firstMapping :: _ => Unexpired (clock cached.1) cached.2 &&
    firstMapping.connectionKey = sourceKey && isPathPrefix firstMapping.originalPrefix path

/-- The readings of the clock for the entries that can expire. -/
def readings (clock : QString → QDateTime) (order : PathMappingTable) : List (Event (dfs A T)) :=
  (order.filter fun cached => cached.2.expiresAtUtc.isSome).map fun cached =>
    ⟨.currentDateTimeUtc, clock cached.1⟩

/-- The events of a lookup that finds the table in an order and reads the clock for
    every entry that can expire. -/
def lookupEvents (clock : QString → QDateTime) (order : PathMappingTable) :
    List (Event (dfs A T)) :=
  ⟨.resolvedPathMappings, order⟩ :: readings clock order

/-- The mappings of a matching entry that is longer than every other one, or none when
    no entry matches. -/
def IsLongest (sourceKey path : QString) (clock : QString → QDateTime) (table : PathMappingTable)
    (mappings : List DfsPathMapping) : Prop :=
  (∃ cached ∈ table, Matching sourceKey path clock cached = true ∧
    mappings = cached.2.mappings ∧
    ∀ other ∈ table, Matching sourceKey path clock other = true → other ≠ cached →
      other.2.prefixSize < cached.2.prefixSize) ∨
  ((∀ cached ∈ table, Matching sourceKey path clock cached = false) ∧ mappings = [])

/-- A lookup in the table answers the longest matching entry, whatever the order of the
    buckets. -/
structure AnswersLongest (A T : Type) (tables : CaseTables) (table : PathMappingTable)
    (connection : Connection) (path : QString) (clock : QString → QDateTime) : Prop where
  answer : ∃ mappings, IsLongest (cacheKey tables connection) (normalizeRemotePath path) clock
      table mappings ∧
    ∀ order : PathMappingTable, order.Perm table → ∀ found,
      Program.Runs (cachedResolvedPathMappings (A := A) (T := T) tables connection path)
        (lookupEvents clock order) found ↔ found = mappings

/-! ## The answer of a lookup -/

section

variable {sourceKey path : QString} {clock : QString → QDateTime}

/-- One turn of the lookup. -/
def better (sourceKey path : QString) (clock : QString → QDateTime)
    (best : Option DfsPathMappingCacheEntry) (cached : QString × DfsPathMappingCacheEntry) :
    Option DfsPathMappingCacheEntry :=
  if Matching sourceKey path clock cached then
    match best with
    | none => some cached.2
    | some found => if found.prefixSize < cached.2.prefixSize then some cached.2 else some found
  else
    best

/-- Asking whether an entry is fresh takes one reading if it can expire. -/
theorem runs_isCacheFresh {β : Type} {f : Bool → DfsProgram A T β} {result : β} {key : QString}
    {entry : DfsPathMappingCacheEntry} {order : PathMappingTable} :
    Program.Runs ((isCacheFresh entry.expiresAtUtc).bind f) (readings clock ((key, entry) :: order))
        result ↔
      Program.Runs (f (Unexpired (clock key) entry)) (readings clock order) result := by
  cases hexpires : entry.expiresAtUtc with
  | none =>
    rw [readings, List.filter_cons, hexpires, Option.isSome_none, if_neg (by simp), Unexpired,
      hexpires]
    exact Iff.rfl
  | some expiresAt =>
    rw [readings, List.filter_cons, hexpires, Option.isSome_some, if_pos rfl, List.map_cons,
      Unexpired, hexpires, Option.isNone_some, Bool.false_or]
    constructor
    · intro h
      obtain ⟨now, rest, hes, h⟩ := Program.runs_ask.1 h
      cases hes
      exact h
    · intro h
      exact Program.Runs.ask _ h

theorem better_of_not {best : Option DfsPathMappingCacheEntry}
    {cached : QString × DfsPathMappingCacheEntry}
    (h : Matching sourceKey path clock cached = false) :
    better sourceKey path clock best cached = best := by
  unfold better
  rw [h, if_neg (by simp)]

theorem better_none {cached : QString × DfsPathMappingCacheEntry}
    (h : Matching sourceKey path clock cached = true) :
    better sourceKey path clock none cached = some cached.2 := by
  unfold better
  rw [if_pos h]

theorem better_some {found : DfsPathMappingCacheEntry}
    {cached : QString × DfsPathMappingCacheEntry}
    (h : Matching sourceKey path clock cached = true) :
    better sourceKey path clock (some found) cached =
      if found.prefixSize < cached.2.prefixSize then some cached.2 else some found := by
  unfold better
  rw [if_pos h]

/-- The loop reads the clock once for every entry that can expire. -/
theorem runs_bestPathMapping {β : Type} {order : PathMappingTable}
    {best : Option DfsPathMappingCacheEntry}
    {f : Option DfsPathMappingCacheEntry → DfsProgram A T β} {result : β} :
    Program.Runs ((bestPathMapping sourceKey path order best).bind f) (readings clock order)
        result ↔
      Program.Runs (f (order.foldl (better sourceKey path clock) best)) [] result := by
  induction order generalizing best with
  | nil => exact Iff.rfl
  | cons cached order ih =>
    obtain ⟨key, entry⟩ := cached
    rw [bestPathMapping, Program.bind_eq, Program.bind_assoc, runs_isCacheFresh, List.foldl_cons]
    cases hmappings : entry.mappings with
    | nil =>
      have hmatching : Matching sourceKey path clock (key, entry) = false := by
        rw [Matching, hmappings]
      rw [better_of_not hmatching]
      exact ih
    | cons firstMapping rest =>
      have hsize : entry.prefixSize = firstMapping.originalPrefix.length := by
        rw [DfsPathMappingCacheEntry.prefixSize, hmappings]
      have hskip : (!Unexpired (clock key) entry ||
          decide (firstMapping.connectionKey ≠ sourceKey) ||
          !isPathPrefix firstMapping.originalPrefix path) =
            !Matching sourceKey path clock (key, entry) := by
        rw [Matching, hmappings]
        simp [Bool.not_and]
      dsimp only
      rw [hskip, ← hsize]
      cases hmatching : Matching sourceKey path clock (key, entry) with
      | false =>
        rw [better_of_not hmatching]
        exact ih
      | true =>
        cases best with
        | none =>
          rw [better_none hmatching]
          exact ih
        | some found =>
          rw [better_some hmatching]
          exact ih

/-- The mappings of an entry, none without an entry. -/
def mappingsOf (best : Option DfsPathMappingCacheEntry) : List DfsPathMapping :=
  (best.map (·.mappings)).getD []

/-- A lookup runs with the events of an order to what the turns in this order find. -/
theorem runs_cachedResolvedPathMappings {connection : Connection} {order : PathMappingTable}
    {found : List DfsPathMapping} :
    Program.Runs (cachedResolvedPathMappings (A := A) (T := T) tables connection path)
        (lookupEvents clock order) found ↔
      found = mappingsOf (order.foldl
        (better (cacheKey tables connection) (normalizeRemotePath path) clock) none) := by
  rw [cachedResolvedPathMappings, lookupEvents]
  constructor
  · intro h
    obtain ⟨table, rest, hes, h⟩ := Program.runs_ask.1 h
    cases hes
    have hfound := runs_bestPathMapping.1 h
    revert hfound
    generalize order.foldl _ none = best
    intro hfound
    cases best with
    | none => exact (Program.runs_pure.1 hfound).2
    | some entry => exact (Program.runs_pure.1 hfound).2
  · intro h
    refine Program.Runs.ask _ (runs_bestPathMapping.2 ?_)
    rw [h]
    generalize order.foldl _ none = best
    cases best with
    | none => exact .pure _
    | some entry => exact .pure _

/-- What the turns of a lookup keep: an entry they were given or that matches, at least
    as long as all of these. -/
theorem foldl_better {order : PathMappingTable} {best : Option DfsPathMappingCacheEntry} :
    (∀ entry ∈ order.foldl (better sourceKey path clock) best, entry ∈ best ∨
      ∃ cached ∈ order, Matching sourceKey path clock cached = true ∧ cached.2 = entry) ∧
    (∀ given ∈ best, ∃ entry ∈ order.foldl (better sourceKey path clock) best,
      given.prefixSize ≤ entry.prefixSize) ∧
    (∀ cached ∈ order, Matching sourceKey path clock cached = true →
      ∃ entry ∈ order.foldl (better sourceKey path clock) best,
        cached.2.prefixSize ≤ entry.prefixSize) := by
  induction order generalizing best with
  | nil => exact ⟨fun entry h => .inl h, fun given h => ⟨given, h, le_refl _⟩, by simp⟩
  | cons first order ih =>
    obtain ⟨hfrom, hgiven, hall⟩ := @ih (better sourceKey path clock best first)
    rw [List.foldl_cons]
    cases hfirst : Matching sourceKey path clock first with
    | false =>
      rw [better_of_not hfirst] at hfrom hgiven hall ⊢
      refine ⟨fun entry h => ?_, hgiven, fun cached hmem hmatching => ?_⟩
      · refine (hfrom entry h).imp_right ?_
        rintro ⟨cached, hmem, hcached⟩
        exact ⟨cached, List.mem_cons_of_mem _ hmem, hcached⟩
      · rcases List.mem_cons.1 hmem with rfl | hmem
        · rw [hfirst] at hmatching
          cases hmatching
        · exact hall cached hmem hmatching
    | true =>
      -- The turn keeps the first entry or a given one that is not shorter.
      obtain ⟨kept, hkept, hsize, horigin⟩ : ∃ kept,
          better sourceKey path clock best first = some kept ∧
          first.2.prefixSize ≤ kept.prefixSize ∧ (kept = first.2 ∨ best = some kept) := by
        cases best with
        | none => exact ⟨first.2, better_none hfirst, le_refl _, .inl rfl⟩
        | some found =>
          rw [better_some hfirst]
          split
          · exact ⟨first.2, rfl, le_refl _, .inl rfl⟩
          · exact ⟨found, rfl, by omega, .inr rfl⟩
      have hbest : ∀ given ∈ best, given.prefixSize ≤ kept.prefixSize := by
        rintro given rfl
        rw [better_some hfirst] at hkept
        split at hkept
        · injection hkept with hkept
          rw [← hkept]
          omega
        · injection hkept with hkept
          rw [hkept]
      rw [hkept] at hfrom hgiven hall ⊢
      obtain ⟨final, hfinal, hle⟩ := hgiven kept rfl
      refine ⟨fun entry h => ?_, fun given h => ⟨final, hfinal, (hbest given h).trans hle⟩,
        fun cached hmem hmatching => ?_⟩
      · rcases hfrom entry h with hentry | ⟨cached, hmem, hcached⟩
        · injection hentry with hentry
          rcases horigin with horigin | horigin
          · exact .inr ⟨first, by simp, hfirst, by rw [← hentry, horigin]⟩
          · exact .inl (by rw [← hentry]; exact horigin)
        · exact .inr ⟨cached, List.mem_cons_of_mem _ hmem, hcached⟩
      · rcases List.mem_cons.1 hmem with rfl | hmem
        · exact ⟨final, hfinal, hsize.trans hle⟩
        · exact hall cached hmem hmatching

/-- Without a tie, every order finds the longest matching entry. -/
theorem answersLongest_of_noTie {connection : Connection} {table : PathMappingTable}
    (htie : ∀ cached ∈ table, ∀ other ∈ table,
      Matching (cacheKey tables connection) (normalizeRemotePath path) clock cached = true →
      Matching (cacheKey tables connection) (normalizeRemotePath path) clock other = true →
      other.2.prefixSize = cached.2.prefixSize → other = cached) :
    AnswersLongest A T tables table connection path clock := by
  have hfold : ∀ order : PathMappingTable, order.Perm table → ∀ entry ∈ order.foldl
      (better (cacheKey tables connection) (normalizeRemotePath path) clock) none,
      ∃ cached ∈ table, Matching (cacheKey tables connection) (normalizeRemotePath path) clock
        cached = true ∧ cached.2 = entry := by
    intro order hperm entry hentry
    obtain hnone | ⟨cached, hmem, hcached⟩ := foldl_better.1 entry hentry
    · cases hnone
    · exact ⟨cached, hperm.subset hmem, hcached⟩
  by_cases hmatch : ∃ cached ∈ table,
      Matching (cacheKey tables connection) (normalizeRemotePath path) clock cached = true
  · obtain ⟨some_cached, hsome, hsomeMatching⟩ := hmatch
    obtain ⟨entry, hentry, -⟩ := foldl_better.2.2 some_cached hsome hsomeMatching
    obtain ⟨cached, hmem, hmatching, rfl⟩ := hfold table (List.Perm.refl _) entry hentry
    have hlongest : ∀ other ∈ table,
        Matching (cacheKey tables connection) (normalizeRemotePath path) clock other = true →
        other.2.prefixSize ≤ cached.2.prefixSize := by
      intro other hother hotherMatching
      obtain ⟨final, hfinal, hle⟩ := foldl_better.2.2 other hother hotherMatching
      rw [hentry] at hfinal
      injection hfinal with hfinal
      rwa [← hfinal] at hle
    refine ⟨cached.2.mappings, .inl ⟨cached, hmem, hmatching, rfl, ?_⟩, ?_⟩
    · intro other hother hotherMatching hne
      have hle := hlongest other hother hotherMatching
      have hdiffer : other.2.prefixSize ≠ cached.2.prefixSize := fun h =>
        hne (htie cached hmem other hother hmatching hotherMatching h)
      omega
    · intro order hperm found
      rw [runs_cachedResolvedPathMappings]
      obtain ⟨final, hfinal, hle⟩ := foldl_better.2.2 cached (hperm.symm.subset hmem) hmatching
      obtain ⟨other, hother, hotherMatching, rfl⟩ := hfold order hperm final hfinal
      have heq := htie cached hmem other hother hmatching hotherMatching
        (Nat.le_antisymm (hlongest other hother hotherMatching) hle)
      rw [hfinal, heq]
      exact Iff.rfl
  · refine ⟨[], .inr ⟨fun cached hmem => ?_, rfl⟩, fun order hperm found => ?_⟩
    · rw [Bool.eq_false_iff]
      exact fun h => hmatch ⟨cached, hmem, h⟩
    · rw [runs_cachedResolvedPathMappings]
      cases hfinal : order.foldl
          (better (cacheKey tables connection) (normalizeRemotePath path) clock) none with
      | none => exact Iff.rfl
      | some entry =>
        obtain ⟨cached, hmem, hmatching, -⟩ := hfold order hperm entry hfinal
        exact absurd ⟨cached, hmem, hmatching⟩ hmatch

end

/-! ## What the caches hold -/

/-- Every entry is stored under the key of its first mapping, whose prefix meets `P`. -/
structure WellKeyed (P : QString → Prop) (table : PathMappingTable) : Prop where
  nodup : (table.map (·.1)).Nodup
  entry : ∀ cached ∈ table, ∃ firstMapping rest, cached.2.mappings = firstMapping :: rest ∧
    cached.1 = firstMapping.connectionKey ++ newline ++
      normalizeRemotePath firstMapping.originalPrefix ∧ P firstMapping.originalPrefix

section

variable {P : QString → Prop} {table : PathMappingTable} {caches : DfsCaches}

theorem WellKeyed.remove (h : WellKeyed P table) (key : QString) :
    WellKeyed P (QHash.remove table key) := by
  refine ⟨?_, fun cached hmem => h.entry cached (List.mem_filter.1 hmem).1⟩
  exact h.nodup.sublist (List.Sublist.map _ List.filter_sublist)

theorem WellKeyed.insert (h : WellKeyed P table) {entry : DfsPathMappingCacheEntry}
    {firstMapping : DfsPathMapping} {rest : List DfsPathMapping}
    (hmappings : entry.mappings = firstMapping :: rest) (hpre : P firstMapping.originalPrefix) :
    WellKeyed P (QHash.insert table (firstMapping.connectionKey ++ newline ++
      normalizeRemotePath firstMapping.originalPrefix) entry) := by
  have hremove := h.remove (firstMapping.connectionKey ++ newline ++
    normalizeRemotePath firstMapping.originalPrefix)
  refine ⟨?_, ?_⟩
  · rw [QHash.insert, List.map_cons, List.nodup_cons]
    refine ⟨?_, hremove.nodup⟩
    rw [List.mem_map]
    rintro ⟨cached, hmem, hkey⟩
    have hne := (List.mem_filter.1 hmem).2
    simp [hkey] at hne
  · intro cached hmem
    rcases List.mem_cons.1 hmem with rfl | hmem
    · exact ⟨firstMapping, rest, hmappings, rfl, hpre⟩
    · exact hremove.entry cached hmem

/-- An environment that keeps the tables and whose resolver names prefixes that meet
    `P`. -/
def storing (P : QString → Prop) : Contract (dfs A T) DfsCaches where
  allows _ _ := True
  step caches e caches' := StoresUnder P e ∧ caches' = caches.after e.op

theorem steps_storing {es : List (Event (dfs A T))} (h : ∀ e ∈ es, StoresUnder P e) :
    (storing P).Steps caches es (es.foldl (fun caches e => caches.after e.op) caches) := by
  induction es generalizing caches with
  | nil => rfl
  | cons e es ih =>
    obtain ⟨he, hes⟩ := List.forall_mem_cons.1 h
    exact ⟨caches.after e.op, ⟨he, rfl⟩, ih hes⟩

theorem meets_storing {β : Type} {op : DfsOp A} {f : (dfs A T).Ans op → DfsProgram A T β}
    {Q : β → DfsCaches → Prop}
    (h : ∀ ans, StoresUnder P (⟨op, ans⟩ : Event (dfs A T)) →
      Meets (storing P) (f ans) Q (caches.after op)) :
    Meets (storing P) ((Program.perform (I := dfs A T) op).bind f) Q caches := by
  refine ⟨trivial, fun ans m hstep => ?_⟩
  obtain ⟨hstores, rfl⟩ := hstep
  exact h ans hstores

/-- The mappings of a resolution, in order. -/
theorem meets_pathMappings_storing {connection : Connection} {remotePath : QString}
    {resolved : List DfsResolvedPath} {expiresAtUtc : QDateTime} :
    Meets (storing (A := A) (T := T) P)
      (pathMappings tables connection remotePath resolved expiresAtUtc)
      (fun found caches' => caches' = caches ∧
        found.1.map (fun mapping => (mapping.connectionKey, mapping.originalPrefix)) =
          resolved.map fun resolvedPath => (cacheKey tables connection, normalizeRemotePath
            (if resolvedPath.originalPathPrefix.isEmpty then remotePath
              else resolvedPath.originalPathPrefix))) caches := by
  induction resolved generalizing expiresAtUtc with
  | nil => exact ⟨rfl, rfl⟩
  | cons resolvedPath resolved ih =>
    rw [pathMappings, expiresAtForTtl]
    refine meets_storing fun now _ => ?_
    refine ih.bind fun found caches' h => ⟨h.1, ?_⟩
    rw [List.map_cons, List.map_cons, h.2]
    rfl

/-- A resolution leaves the tables or stores its mappings under their first prefix. -/
theorem meets_resolvePathAndCache_storing {connection : Connection} {remotePath : QString}
    (h : WellKeyed P caches.resolvedPathMappings) :
    Meets (storing (A := A) (T := T) P) (resolvePathAndCache tables connection remotePath)
      (fun _ caches' => WellKeyed P caches'.resolvedPathMappings) caches := by
  rw [resolvePathAndCache]
  refine meets_storing fun resolved hstores => ?_
  split
  · rename_i first others _ hvalue
    refine meets_pathMappings_storing.bind fun found caches' hfound => ?_
    obtain ⟨rfl, hmap⟩ := hfound
    obtain ⟨mappings, expiresAtUtc⟩ := found
    cases mappings with
    | nil => simp at hmap
    | cons firstMapping rest =>
      rw [List.map_cons, List.map_cons, List.cons.injEq, Prod.mk.injEq] at hmap
      obtain ⟨⟨hkey, horiginal⟩, -⟩ := hmap
      refine meets_storing fun _ _ => ?_
      have hP : P firstMapping.originalPrefix := by
        have hstores' : P (cachedPrefix remotePath resolved) := hstores
        unfold cachedPrefix at hstores'
        rw [hvalue] at hstores'
        rwa [horiginal]
      have hmappings : (DfsPathMappingCacheEntry.mk (firstMapping :: rest) expiresAtUtc).mappings =
          firstMapping :: rest := rfl
      have hinsert := h.insert hmappings hP
      rw [hkey] at hinsert
      exact hinsert
  · exact h

theorem wellKeyed_of_reachable (h : Reachable A T tables P caches) :
    WellKeyed P caches.resolvedPathMappings := by
  induction h with
  | empty => exact ⟨List.nodup_nil, by simp⟩
  | resolve _ hrun hcached ih =>
    exact (meets_resolvePathAndCache_storing ih).sound hrun (steps_storing hcached)
  | forget _ hrun ih =>
    obtain ⟨u, rest, rfl, hrest⟩ := Program.runs_ask.1 hrun
    obtain ⟨rfl, -⟩ := Program.runs_pure.1 hrest
    exact ih.remove _

end

/-! ## The longest entry -/

section

variable {P : QString → Prop} {caches : DfsCaches}

theorem length_render_lt {o : List QString} {x : QString} {rest : List QString}
    (h : Names (o ++ x :: rest)) : (render o).length < (render (o ++ x :: rest)).length := by
  have hx := ((names_cons.1 (names_append.1 h).2).1).1
  have hpos := List.length_pos_iff.2 hx
  rw [render_of_ne (show o ++ x :: rest ≠ [] by simp)]
  by_cases ho : o = []
  · rw [ho, render_nil]
    simp [root]
    omega
  · rw [render_of_ne ho]
    simp

/-- A prefix that normalising leaves as it is. -/
abbrev StaysNormal (p : QString) : Prop := normalizeRemotePath p = p

/-- Two normal prefixes of one path with the same length are the same. -/
theorem eq_of_isPathPrefix {p o path : QString} (hp : StaysNormal p) (ho : StaysNormal o)
    (hpath : isPathPrefix p path = true) (hpath' : isPathPrefix o path = true)
    (hlen : o.length = p.length) : o = p := by
  obtain ⟨a, ha, hpa⟩ := exists_names p
  obtain ⟨b, hb, hob⟩ := exists_names o
  obtain ⟨l, hl, hrender⟩ := exists_names path
  rw [isPathPrefix_iff ha hl hpa hrender] at hpath
  rw [isPathPrefix_iff hb hl hob hrender] at hpath'
  have hpa' : p = render a := by rw [← hpa, hp]
  have hob' : o = render b := by rw [← hob, ho]
  rw [hpa', hob'] at hlen ⊢
  have hne : ∀ {a b : List QString}, Names b → a <+: b →
      (render b).length = (render a).length → b = a := by
    intro a b hb hpre hlen
    obtain ⟨rest, rfl⟩ := hpre
    cases rest with
    | nil => rw [List.append_nil]
    | cons x rest =>
      have := length_render_lt hb
      omega
  rcases List.prefix_or_prefix_of_prefix hpath hpath' with h | h
  · rw [hne hb h hlen]
  · rw [hne ha h hlen.symm]

/-- In every cache that was filled under prefixes which normalising leaves as they are,
    a lookup answers the longest unexpired entry of the connection, whatever the order
    of the table. -/
theorem cachedResolvedPathMappings_longest (h : Reachable A T tables StaysNormal caches)
    (connection : Connection) (path : QString) (clock : QString → QDateTime) :
    AnswersLongest A T tables caches.resolvedPathMappings connection path clock := by
  have hkeyed := wellKeyed_of_reachable h
  refine answersLongest_of_noTie fun cached hmem other hother hmatching hotherMatching hsize => ?_
  obtain ⟨firstMapping, rest, hmappings, hkey, hnormal⟩ := hkeyed.entry cached hmem
  obtain ⟨otherMapping, otherRest, hotherMappings, hotherKey, hotherNormal⟩ :=
    hkeyed.entry other hother
  rw [Matching, hmappings] at hmatching
  rw [Matching, hotherMappings] at hotherMatching
  simp only [Bool.and_eq_true, decide_eq_true_eq] at hmatching hotherMatching
  have hlen : otherMapping.originalPrefix.length = firstMapping.originalPrefix.length := by
    rwa [DfsPathMappingCacheEntry.prefixSize, DfsPathMappingCacheEntry.prefixSize, hmappings,
      hotherMappings] at hsize
  have hprefixes := eq_of_isPathPrefix hnormal hotherNormal hmatching.2 hotherMatching.2 hlen
  have hkeys : other.1 = cached.1 := by
    rw [hkey, hotherKey, hprefixes, hmatching.1.2, hotherMatching.1.2]
  exact List.inj_on_of_nodup_map hkeyed.nodup hother hmem hkeys

end

/-! ## Two entries of one length -/

section

variable {P : QString → Prop} {caches : DfsCaches}

/-- The entry of a resolution with one target. -/
def oneTarget (tables : CaseTables) (connection : Connection) (remotePath : QString)
    (resolvedPath : DfsResolvedPath) (now : QDateTime) : DfsPathMappingCacheEntry :=
  let expiresAtUtc := now.addSecs (max 1 resolvedPath.ttlSeconds)
  ⟨[mappingFor tables connection remotePath resolvedPath expiresAtUtc], expiresAtUtc⟩

/-- A cache after one more resolution with one target. -/
theorem Reachable.oneTarget (h : Reachable A T tables P caches) (connection : Connection)
    (remotePath : QString) (resolvedPath : DfsResolvedPath) (now : QDateTime)
    (hcached : P (cachedPrefix remotePath (.success [resolvedPath]))) :
    Reachable A T tables P { caches with
      resolvedPathMappings := caches.resolvedPathMappings.insert
        (pathCacheKey tables connection (cachedPrefix remotePath (.success [resolvedPath])))
        (oneTarget tables connection remotePath resolvedPath now) } := by
  have hrun : Program.Runs (resolvePathAndCache (A := A) (T := T) tables connection remotePath)
      [⟨.resolvePathTargets connection remotePath, Result.success [resolvedPath]⟩,
        ⟨.currentDateTimeUtc, now⟩,
        ⟨.insertPathMapping
          (pathCacheKey tables connection (cachedPrefix remotePath (.success [resolvedPath])))
          (Dfs.oneTarget tables connection remotePath resolvedPath now), ()⟩]
      (Dfs.oneTarget tables connection remotePath resolvedPath now).mappings :=
    .ask _ (.ask _ (.ask _ (.pure _)))
  refine h.resolve hrun ?_
  intro e he
  simp only [List.mem_cons, List.not_mem_nil, or_false] at he
  rcases he with rfl | rfl | rfl
  · exact hcached
  · trivial
  · trivial

end

namespace TiedPrefixes

open NestedReferral

/-- The target of a prefix. -/
def resolvedPath (name originalPathPrefix : String) : DfsResolvedPath :=
  { connection := server name, originalPathPrefix := qStringLiteral originalPathPrefix }

/-- The table after `/a/b` was resolved. -/
def first : DfsCaches :=
  { resolvedPathMappings := QHash.insert []
      (pathCacheKey asciiTables (server "d") (qStringLiteral "/a/b"))
      (oneTarget asciiTables (server "d") (qStringLiteral "/a/b/c") (resolvedPath "x" "/a/b")
        (some 0)) }

/-- The table after a referral named `/a  /` as well, which is cached as `/a  `. -/
def second : DfsCaches :=
  { resolvedPathMappings := first.resolvedPathMappings.insert
      (pathCacheKey asciiTables (server "d") (qStringLiteral "/a  "))
      (oneTarget asciiTables (server "d") (qStringLiteral "/a/b/c") (resolvedPath "y" "/a  /")
        (some 0)) }

theorem reachable_first : Reachable Unit Unit asciiTables StaysNormal first :=
  Reachable.empty.oneTarget (server "d") (qStringLiteral "/a/b/c") (resolvedPath "x" "/a/b")
    (some 0) (by decide)

theorem reachable_second : Reachable Unit Unit asciiTables (fun _ => True) second := by
  have hfirst : Reachable Unit Unit asciiTables (fun _ => True) first :=
    Reachable.empty.oneTarget (server "d") (qStringLiteral "/a/b/c") (resolvedPath "x" "/a/b")
      (some 0) trivial
  exact hfirst.oneTarget (server "d") (qStringLiteral "/a/b/c") (resolvedPath "y" "/a  /")
    (some 0) trivial

end TiedPrefixes

open TiedPrefixes NestedReferral in
/-- The lookup of a path below the one cached entry. -/
theorem cachedResolvedPathMappings_longest_first :
    AnswersLongest Unit Unit asciiTables first.resolvedPathMappings (server "d")
      (qStringLiteral "/a/b/c") fun _ => some 0 :=
  cachedResolvedPathMappings_longest reachable_first (server "d") (qStringLiteral "/a/b/c") _

open TiedPrefixes NestedReferral in
/-- `/a/b` and `/a  ` have the same length, and `/a/b/c` is taken to lie below both: the
    order of the table decides. -/
theorem cachedResolvedPathMappings_tie :
    ¬ ∀ (tables : CaseTables) (caches : DfsCaches),
      Reachable Unit Unit tables (fun _ => True) caches →
        ∀ (connection : Connection) (path : QString) (clock : QString → QDateTime),
          AnswersLongest Unit Unit tables caches.resolvedPathMappings connection path clock := by
  intro h
  obtain ⟨mappings, -, hfound⟩ := (h asciiTables second reachable_second (server "d")
    (qStringLiteral "/a/b/c") fun _ => some 0).answer
  have hforward := (hfound _ (List.Perm.refl _) _).1 (runs_cachedResolvedPathMappings.2 rfl)
  have hbackward := (hfound _ (List.reverse_perm _) _).1 (runs_cachedResolvedPathMappings.2 rfl)
  have hsame := congrArg (List.map (·.targetConnection.server))
    (hforward.trans hbackward.symm)
  exact absurd hsame (by decide)

end SmbBrowser.Dfs
