import SmbBrowser.Base.BreadthFirst
import SmbBrowser.Base.Program
import SmbBrowser.Core.Types

/-!
# The recursive search

`RecursiveSearchService::search` (application/RecursiveSearchService.cpp:25) keeps a queue of
directories with their depth.  It lists the directory in front, collects the entries that
match the query and puts the directories among them at the back.  The use case that lists
directories, the cancellation token and the progress callback are its environment.

Results:
* `meets_searchEntries`: the entries of one directory;
* `meets_searchLoop`: the queue, by the directories it visits;
* `search_breadthFirst`: what a search of a directory graph returns.
-/

namespace SmbBrowser.Application

open SmbBrowser.Base SmbBrowser.Qt SmbBrowser.Core

/-! ## Model -/

/-- `RecursiveSearchOptions` (RecursiveSearchService.h:7). -/
structure RecursiveSearchOptions where
  connectionId : QString
  startRemotePath : QString := qStringLiteral "/"
  query : QString := []
  maxDepth : ℤ := 5
  maxResults : ℤ := 1000
  includeDirectories : Bool := true

/-- `RecursiveSearchResult` (RecursiveSearchService.h:16). -/
structure RecursiveSearchResult where
  entries : List RemoteFileEntry := []
  scannedDirectories : ℤ := 0
  limitReached : Bool := false
  deriving DecidableEq

instance : Inhabited RecursiveSearchResult := ⟨{}⟩

/-- What a search reads of `OpenConnectionResult` (ConnectionOpenService.h:13). -/
structure DirectoryListing where
  entries : List RemoteFileEntry := []

instance : Inhabited DirectoryListing := ⟨{}⟩

/-- `OperationContext` (SmbClient.h:32): whether a cancellation token and a progress callback
    are set. -/
structure SearchContext where
  cancellationToken : Bool := false
  progressCallback : Bool := false

/-- What a search asks of its environment. -/
inductive SearchOp where
  | isCancellationRequested
  | listDirectory (connectionId remotePath : QString)
  | progressCallback (done total : ℤ)
  deriving DecidableEq

/-- The surroundings of a search. -/
abbrev searchInterface : Interface where
  Op := SearchOp
  Ans
    | .isCancellationRequested => Bool
    | .listDirectory _ _ => Result DirectoryListing
    | .progressCallback _ _ => Unit

/-- Programs of the search. -/
abbrev SearchM := Program searchInterface

namespace RecursiveSearchService

/-- `PendingDirectory` (RecursiveSearchService.cpp:9). -/
structure PendingDirectory where
  remotePath : QString
  depth : ℕ := 0

/-- `isCancellationRequested` (RecursiveSearchService.cpp:14). -/
def isCancellationRequested (context : SearchContext) : SearchM Bool :=
  if context.cancellationToken then
    Program.perform (I := searchInterface) .isCancellationRequested
  else
    return false

/-- `context.progressCallback(TransferProgress{done, total})`, if it is set. -/
def reportProgress (context : SearchContext) (done total : ℤ) : SearchM Unit :=
  if context.progressCallback then
    Program.perform (I := searchInterface) (.progressCallback done total)
  else
    return ()

/-- `RecursiveSearchService::normalizeRemotePath` (RecursiveSearchService.cpp:91). -/
def normalizeRemotePath (remotePath : QString) : QString :=
  let remotePath := remotePath.trimmed.replaceChar 0x5C 0x2F
  if remotePath.isEmpty then
    qStringLiteral "/"
  else
    let remotePath :=
      if remotePath.startsWith (qStringLiteral "/") then remotePath else 0x2F :: remotePath
    -- slashes are chopped off the end as long as something is before them
    match remotePath.rdropWhile (· = 0x2F) with
    | [] => qStringLiteral "/"
    | chopped => chopped

/-- `QString::contains` with `Qt::CaseInsensitive`. -/
def containsIgnoringCase (tables : CaseTables) (text needle : QString) : Bool :=
  text.tails.any fun t =>
    needle.length ≤ t.length && tables.sameIgnoringCase (t.take needle.length) needle

/-- `RecursiveSearchService::matchesQuery` (RecursiveSearchService.cpp:106). -/
def matchesQuery (tables : CaseTables) (entry : RemoteFileEntry) (query : QString) : Bool :=
  query.isEmpty || containsIgnoringCase tables entry.name query ||
    containsIgnoringCase tables entry.remotePath query

/-- `RecursiveSearchService::cancelledError` (RecursiveSearchService.cpp:112). -/
def cancelledError : AppError :=
  .fromCode .operationCancelled .general (qStringLiteral "Recursive search cancelled.")

/-- `RecursiveSearchService::invalidOptionsError` (RecursiveSearchService.cpp:120). -/
def invalidOptionsError (details : QString) : AppError :=
  .fromCode .invalidPath .validation details

/-- The directories that are put at the back of the queue while the entries of one at
    `depth` are looked at. -/
structure Enqueued (maxDepth : ℤ) (depth : ℕ) where
  directories : List PendingDirectory := []
  deeper : ∀ d ∈ directories, d.depth = depth + 1 ∧ (depth : ℤ) < maxDepth

/-- `pending.enqueue` (RecursiveSearchService.cpp:82). -/
def Enqueued.enqueue {maxDepth : ℤ} {depth : ℕ} (enqueued : Enqueued maxDepth depth)
    (remotePath : QString) (h : (depth : ℤ) < maxDepth) : Enqueued maxDepth depth where
  directories := enqueued.directories ++ [⟨remotePath, depth + 1⟩]
  deeper d hd := by
    rcases List.mem_append.1 hd with hd | hd
    · exact enqueued.deeper d hd
    · rw [List.mem_singleton.1 hd]
      exact ⟨rfl, h⟩

/-- How the loop over the entries of a directory ends. -/
inductive EntriesOutcome (maxDepth : ℤ) (depth : ℕ) where
  | cancelled
  | limitReached (result : RecursiveSearchResult)
  | finished (enqueued : Enqueued maxDepth depth) (result : RecursiveSearchResult)

section

variable (tables : CaseTables) (context : SearchContext) (options : RecursiveSearchOptions)

/-- `shouldInclude` (RecursiveSearchService.cpp:69). -/
def shouldInclude (entry : RemoteFileEntry) : Bool :=
  (options.includeDirectories || entry.type = .file) &&
    matchesQuery tables entry options.query.trimmed

/-- The loop over the entries of a directory (RecursiveSearchService.cpp:63). -/
def searchEntries (depth : ℕ) : List RemoteFileEntry → Enqueued options.maxDepth depth →
    RecursiveSearchResult → SearchM (EntriesOutcome options.maxDepth depth)
  | [], enqueued, result => return .finished enqueued result
  | entry :: entries, enqueued, result => do
    if ← isCancellationRequested context then
      return .cancelled
    else
      let included := shouldInclude tables options entry
      let result := if included then { result with entries := result.entries ++ [entry] } else result
      if included && options.maxResults ≤ result.entries.length then
        return .limitReached { result with limitReached := true }
      else if h : entry.type = .directory ∧ (depth : ℤ) < options.maxDepth then
        searchEntries depth entries (enqueued.enqueue (normalizeRemotePath entry.remotePath) h.2)
          result
      else
        searchEntries depth entries enqueued result

/-- The loop over the queue (RecursiveSearchService.cpp:44). -/
def searchLoop (pending : List PendingDirectory) (result : RecursiveSearchResult) :
    SearchM (Result RecursiveSearchResult) :=
  match pending with
  | [] => return .success result
  | current :: pending => do
    if ← isCancellationRequested context then
      return .failure cancelledError
    else
      let listed : Result DirectoryListing ← Program.perform (I := searchInterface)
        (.listDirectory options.connectionId current.remotePath)
      if !listed.ok then
        return .failure listed.error
      else
        let result := { result with scannedDirectories := result.scannedDirectories + 1 }
        reportProgress context result.scannedDirectories options.maxResults
        match ← searchEntries tables context options current.depth listed.value.entries
            ⟨[], fun _ h => absurd h List.not_mem_nil⟩ result with
        | .cancelled => return .failure cancelledError
        | .limitReached result => return .success result
        | .finished enqueued result => searchLoop (pending ++ enqueued.directories) result
termination_by (↑(pending.map fun d => (options.maxDepth - d.depth).toNat) : Multiset ℕ)
decreasing_by
  rw [List.map_append, List.map_cons]
  refine queue_lt fun w hw => ?_
  obtain ⟨d, hd, rfl⟩ := List.mem_map.1 hw
  obtain ⟨hdepth, hlt⟩ := enqueued.deeper d hd
  rw [hdepth]
  omega

/-- `RecursiveSearchService::search` (RecursiveSearchService.cpp:25). -/
def search : SearchM (Result RecursiveSearchResult) :=
  if options.connectionId.trimmed.isEmpty then
    return .failure (invalidOptionsError (qStringLiteral "Connection ID is required."))
  else if options.maxDepth < 0 || options.maxResults ≤ 0 then
    return .failure
      (invalidOptionsError (qStringLiteral "Depth and result limits must be positive."))
  else
    searchLoop tables context options [⟨normalizeRemotePath options.startRemotePath, 0⟩] {}

end

/-! ## Directory graphs -/

/-- The directories among the entries of a directory. -/
def subdirectories (entries : List RemoteFileEntry) : List QString :=
  (entries.filter (·.type = .directory)).map fun entry => normalizeRemotePath entry.remotePath

/-- A use case that presents a directory graph: every listing succeeds with the entries of
    the directory, and nobody cancels.  The state is the directories listed so far. -/
def presents (graph : QString → List RemoteFileEntry) : Contract searchInterface (List QString) where
  allows _ _ := True
  step listed e listed' := match e with
    | ⟨.isCancellationRequested, ans⟩ => (ans : Bool) = false ∧ listed' = listed
    | ⟨.listDirectory _ remotePath, ans⟩ =>
      (ans : Result DirectoryListing) = .success ⟨graph remotePath⟩ ∧
        listed' = listed ++ [remotePath]
    | ⟨.progressCallback _ _, _⟩ => listed' = listed

/-- An environment that presents the graph. -/
def serveGraph (graph : QString → List RemoteFileEntry) : Handler searchInterface (List QString)
  | listed, .isCancellationRequested => (false, listed)
  | listed, .listDirectory _ remotePath =>
    (Result.success ⟨graph remotePath⟩, listed ++ [remotePath])
  | listed, .progressCallback _ _ => ((), listed)

/-- The directories down to the depth limit, level by level. -/
def traversal (options : RecursiveSearchOptions) (graph : QString → List RemoteFileEntry) :
    List QString :=
  levels (fun remotePath => subdirectories (graph remotePath)) options.maxDepth.toNat
    [normalizeRemotePath options.startRemotePath]

section

variable {tables : CaseTables} {context : SearchContext} {options : RecursiveSearchOptions}
  {graph : QString → List RemoteFileEntry} {listed : List QString}

theorem step_serveGraph (listed : List QString) (op : SearchOp) :
    (presents graph).step listed ⟨op, (serveGraph graph listed op).1⟩
      (serveGraph graph listed op).2 := by
  cases op with
  | isCancellationRequested => exact ⟨rfl, rfl⟩
  | listDirectory => exact ⟨rfl, rfl⟩
  | progressCallback => rfl

theorem meets_isCancellationRequested {Q : Bool → List QString → Prop} (h : Q false listed) :
    Meets (presents graph) (isCancellationRequested context) Q listed := by
  unfold isCancellationRequested
  by_cases htoken : context.cancellationToken = true
  · rw [if_pos htoken]
    refine ⟨trivial, ?_⟩
    rintro ans m ⟨rfl, rfl⟩
    exact h
  · rw [if_neg htoken]
    exact h

theorem meets_listDirectory {connectionId remotePath : QString}
    {Q : Result DirectoryListing → List QString → Prop}
    (h : Q (.success ⟨graph remotePath⟩) (listed ++ [remotePath])) :
    Meets (presents graph)
      (Program.perform (I := searchInterface) (.listDirectory connectionId remotePath)) Q
      listed := by
  refine ⟨trivial, ?_⟩
  rintro ans m ⟨rfl, rfl⟩
  exact h

theorem meets_reportProgress {done total : ℤ} {Q : Unit → List QString → Prop}
    (h : Q () listed) : Meets (presents graph) (reportProgress context done total) Q listed := by
  unfold reportProgress
  by_cases hcallback : context.progressCallback = true
  · rw [if_pos hcallback]
    refine ⟨trivial, ?_⟩
    rintro ans m rfl
    exact h
  · rw [if_neg hcallback]
    exact h

/-! ## One directory -/

/-- The entries of a directory: the limit is reached at the entry that fills the result, or
    all of them are looked at. -/
theorem meets_searchEntries {depth : ℕ} {entries : List RemoteFileEntry}
    {enqueued : Enqueued options.maxDepth depth} {result : RecursiveSearchResult}
    {Q : EntriesOutcome options.maxDepth depth → List QString → Prop}
    (hroom : (result.entries.length : ℤ) < options.maxResults)
    (hlimit : options.maxResults ≤
        (result.entries ++ entries.filter (shouldInclude tables options)).length →
      Q (.limitReached { result with
        entries := (result.entries ++ entries.filter (shouldInclude tables options)).take
          options.maxResults.toNat
        limitReached := true }) listed)
    (hfinished : (result.entries ++ entries.filter (shouldInclude tables options)).length <
        options.maxResults →
      ∀ enqueued' : Enqueued options.maxDepth depth,
        enqueued'.directories = enqueued.directories ++
          (if (depth : ℤ) < options.maxDepth then
            (subdirectories entries).map (⟨·, depth + 1⟩) else []) →
        Q (.finished enqueued' { result with
          entries := result.entries ++ entries.filter (shouldInclude tables options) }) listed) :
    Meets (presents graph) (searchEntries tables context options depth entries enqueued result)
      Q listed := by
  induction entries generalizing enqueued result with
  | nil =>
    rw [searchEntries]
    have hdone := hfinished (by simpa using hroom) enqueued (by simp [subdirectories])
    rw [List.filter_nil, List.append_nil] at hdone
    exact hdone
  | cons entry entries ih =>
    rw [searchEntries]
    refine meets_bind.2 (meets_isCancellationRequested ?_)
    -- the entries behind this one, whether it was included or not
    have hrest : ∀ before : List RemoteFileEntry,
        before ++ entries.filter (shouldInclude tables options) =
          result.entries ++ (entry :: entries).filter (shouldInclude tables options) →
        (before.length : ℤ) < options.maxResults →
        Meets (presents graph)
          (if h : entry.type = .directory ∧ (depth : ℤ) < options.maxDepth then
            searchEntries tables context options depth entries
              (enqueued.enqueue (normalizeRemotePath entry.remotePath) h.2)
              { result with entries := before }
          else
            searchEntries tables context options depth entries enqueued
              { result with entries := before })
          Q listed := by
      intro before hbefore hbeforeRoom
      rw [← hbefore] at hlimit hfinished
      by_cases hdirectory : entry.type = .directory ∧ (depth : ℤ) < options.maxDepth
      · rw [dif_pos hdirectory]
        refine ih hbeforeRoom hlimit fun hlt enqueued' henqueued => hfinished hlt enqueued' ?_
        rw [henqueued, Enqueued.enqueue, if_pos hdirectory.2, if_pos hdirectory.2,
          List.append_assoc, subdirectories, subdirectories,
          List.filter_cons_of_pos (by simp [hdirectory.1])]
        rfl
      · rw [dif_neg hdirectory]
        refine ih hbeforeRoom hlimit fun hlt enqueued' henqueued => hfinished hlt enqueued' ?_
        rw [henqueued]
        by_cases hdepth : (depth : ℤ) < options.maxDepth
        · have hfile : ¬ entry.type = .directory := fun h => hdirectory ⟨h, hdepth⟩
          rw [if_pos hdepth, if_pos hdepth, subdirectories, subdirectories,
            List.filter_cons_of_neg (by simp [hfile])]
        · rw [if_neg hdepth, if_neg hdepth]
    by_cases hincluded : shouldInclude tables options entry = true
    · simp only [hincluded, if_true, Bool.true_and]
      rw [List.filter_cons_of_pos hincluded] at hrest hlimit
      by_cases hfull : options.maxResults ≤ ((result.entries ++ [entry]).length : ℤ)
      · have hlength : options.maxResults.toNat = (result.entries ++ [entry]).length := by
          rw [List.length_append, List.length_singleton] at hfull ⊢
          omega
        have htake : (result.entries ++ entry :: entries.filter (shouldInclude tables options)).take
            options.maxResults.toNat = result.entries ++ [entry] := by
          rw [List.append_cons, hlength, List.take_left]
        have hreached := hlimit (by
          rw [List.append_cons, List.length_append]
          omega)
        rw [htake] at hreached
        simp only [hfull, decide_true, if_true]
        exact hreached
      · simp only [hfull, decide_false, Bool.false_eq_true, if_false]
        exact hrest _ (by rw [List.append_assoc, List.singleton_append]) (not_le.1 hfull)
    · simp only [hincluded, Bool.false_eq_true, if_false, Bool.false_and]
      exact hrest _ (by rw [List.filter_cons_of_neg hincluded]) hroom

/-! ## The queue -/

/-- What was found in the directories visited, behind what was there before, and which of
    them were listed. -/
structure Finds (tables : CaseTables) (options : RecursiveSearchOptions)
    (graph : QString → List RemoteFileEntry) (before : List RemoteFileEntry)
    (visited earlier : List QString) (result : RecursiveSearchResult) (listed : List QString) :
    Prop where
  entries : result.entries =
    (before ++ (visited.flatMap graph).filter (shouldInclude tables options)).take
      options.maxResults.toNat
  limitReached : result.limitReached = true ↔ result.entries.length = options.maxResults.toNat
  scannedDirectories : result.scannedDirectories = listed.length
  inOrder : ∃ seen, seen <+: visited ∧ listed = earlier ++ seen ∧
    (result.limitReached = false → seen = visited)

/-- The queue and what is found in the directories it visits. -/
theorem meets_searchLoop {pending : List PendingDirectory} {visited : List QString}
    {result : RecursiveSearchResult}
    (hvisits : Visits (fun remotePath => subdirectories (graph remotePath))
      options.maxDepth.toNat (pending.map fun d => (d.remotePath, d.depth)) visited)
    (hroom : (result.entries.length : ℤ) < options.maxResults)
    (hlimit : result.limitReached = false)
    (hscanned : result.scannedDirectories = listed.length) :
    Meets (presents graph) (searchLoop tables context options pending result)
      (fun r listed' => ∃ final, r = .success final ∧
        Finds tables options graph result.entries visited listed final listed') listed := by
  generalize hqueue : pending.map (fun d => (d.remotePath, d.depth)) = queue at hvisits
  induction hvisits generalizing pending result listed with
  | done =>
    obtain rfl := List.map_eq_nil_iff.1 hqueue
    rw [searchLoop]
    refine ⟨result, rfl, ?_, ?_, hscanned, [], List.nil_prefix, by simp, fun _ => rfl⟩
    · rw [List.flatMap_nil, List.filter_nil, List.append_nil, List.take_of_length_le (by omega)]
    · rw [hlimit]
      exact iff_of_false Bool.false_ne_true (by omega)
  | @next remotePath depth queue visited hvisits ih =>
    obtain ⟨current, pending, rfl, hcurrent, hpending⟩ := List.map_eq_cons_iff.1 hqueue
    obtain ⟨rfl, rfl⟩ := Prod.mk.inj hcurrent
    rw [searchLoop]
    refine meets_bind.2 (meets_isCancellationRequested ?_)
    refine meets_bind.2 (meets_listDirectory ?_)
    refine meets_bind.2 (meets_reportProgress ?_)
    refine meets_bind.2 (meets_searchEntries hroom ?_ ?_)
    · -- the limit is reached in this directory
      intro hfilled
      have hfull : options.maxResults ≤ (result.entries ++
          (graph current.remotePath).filter (shouldInclude tables options)).length := hfilled
      refine ⟨_, rfl, ?_, ?_, ?_, [current.remotePath], ?_, rfl, ?_⟩
      · rw [List.flatMap_cons, List.filter_append, ← List.append_assoc]
        exact (List.take_append_of_le_length (by omega)).symm
      · refine iff_of_true rfl ?_
        rw [List.length_take]
        exact min_eq_left (by omega)
      · rw [List.length_append, List.length_singleton]
        push_cast
        rw [← hscanned]
      · exact List.cons_prefix_cons.2 ⟨rfl, List.nil_prefix⟩
      · rintro ⟨⟩
    · -- the directories of this one go to the back of the queue
      intro hspare enqueued henqueued
      have hspace : ((result.entries ++
          (graph current.remotePath).filter (shouldInclude tables options)).length : ℤ) <
            options.maxResults := hspare
      have hmap : (pending ++ enqueued.directories).map (fun d => (d.remotePath, d.depth)) =
          queue ++ if current.depth < options.maxDepth.toNat then
            (subdirectories (graph current.remotePath)).map (·, current.depth + 1) else [] := by
        rw [List.map_append, hpending, henqueued, List.nil_append]
        congr 1
        by_cases hdepth : (current.depth : ℤ) < options.maxDepth
        · rw [if_pos hdepth, if_pos (by omega), List.map_map]
          rfl
        · rw [if_neg hdepth, if_neg (by omega)]
          rfl
      refine (@ih _ _ { result with
        entries := result.entries ++
          (graph current.remotePath).filter (shouldInclude tables options)
        scannedDirectories := result.scannedDirectories + 1 } hspace hlimit ?_ hmap).mono ?_
      · rw [List.length_append, List.length_singleton]
        push_cast
        rw [← hscanned]
      · rintro r listed' ⟨final, rfl, hentries, hreached, hcount, seen, hseen, rfl, hall⟩
        refine ⟨final, rfl, ?_, hreached, hcount, current.remotePath :: seen, ?_, ?_, ?_⟩
        · rw [hentries, List.flatMap_cons, List.filter_append, ← List.append_assoc]
        · exact List.cons_prefix_cons.2 ⟨rfl, hseen⟩
        · rw [List.append_assoc, List.singleton_append]
        · intro hnone
          rw [hall hnone]

end

/-! ## The search -/

/-- The first entries of the breadth-first traversal that match, and the directories that
    were listed for them. -/
structure BreadthFirst (tables : CaseTables) (options : RecursiveSearchOptions)
    (graph : QString → List RemoteFileEntry) (result : RecursiveSearchResult)
    (listed : List QString) : Prop where
  entries : result.entries =
    (((traversal options graph).flatMap graph).filter (shouldInclude tables options)).take
      options.maxResults.toNat
  limitReached : result.limitReached = true ↔ result.entries.length = options.maxResults.toNat
  scannedDirectories : result.scannedDirectories = listed.length
  inOrder : listed <+: traversal options graph
  complete : result.limitReached = false → listed = traversal options graph

/-- A search of a directory graph comes to its end, and returns the first matching entries of
    the breadth-first traversal. -/
theorem search_breadthFirst (tables : CaseTables) (context : SearchContext)
    (options : RecursiveSearchOptions) (graph : QString → List RemoteFileEntry)
    (hconnection : options.connectionId.trimmed ≠ []) (hdepth : 0 ≤ options.maxDepth)
    (hresults : 0 < options.maxResults) :
    (∃ es r listed, (search tables context options).Runs es r ∧
        (presents graph).Steps [] es listed) ∧
      ∀ es r listed, (search tables context options).Runs es r →
        (presents graph).Steps [] es listed →
        ∃ result, r = .success result ∧ BreadthFirst tables options graph result listed := by
  constructor
  · exact ⟨_, _, _, Program.runs_serve (serveGraph graph) _ [],
      Program.steps_serve step_serveGraph _ []⟩
  · intro es r listed hrun hsteps
    have hvisits : Visits (fun remotePath => subdirectories (graph remotePath))
        options.maxDepth.toNat [(normalizeRemotePath options.startRemotePath, 0)]
        (traversal options graph) :=
      visits_levels _ 0 [normalizeRemotePath options.startRemotePath] (Nat.zero_add _)
    have hmeets : Meets (presents graph) (search tables context options)
        (fun r listed' => ∃ final, r = .success final ∧
          Finds tables options graph [] (traversal options graph) [] final listed') [] := by
      unfold search
      rw [if_neg (by simpa using hconnection), if_neg (by simp; omega)]
      exact @meets_searchLoop _ _ _ _ _ [⟨normalizeRemotePath options.startRemotePath, 0⟩] _ {}
        hvisits hresults rfl rfl
    obtain ⟨final, rfl, hentries, hlimit, hcount, seen, hseen, rfl, hall⟩ :=
      hmeets.sound hrun hsteps
    exact ⟨final, rfl, hentries, hlimit, hcount, hseen, hall⟩

/-- A root with a file and a folder, and a file in the folder. -/
def docs (remotePath : QString) : List RemoteFileEntry :=
  if remotePath = qStringLiteral "/" then
    [{ name := qStringLiteral "docs", remotePath := qStringLiteral "/docs", type := .directory },
      { name := qStringLiteral "readme", remotePath := qStringLiteral "/readme", type := .file }]
  else
    [{ name := qStringLiteral "Budget", remotePath := qStringLiteral "/docs/Budget", type := .file }]

/-- A search for `budget` lists both folders and finds the file in the second one. -/
theorem search_breadthFirst_docs : ∃ es result,
    (search .ascii {} { connectionId := qStringLiteral "c", query := qStringLiteral "budget" }).Runs
        es (.success result) ∧
      (presents docs).Steps [] es (traversal
        { connectionId := qStringLiteral "c", query := qStringLiteral "budget" } docs) ∧
      result.entries = [{ name := qStringLiteral "Budget",
                          remotePath := qStringLiteral "/docs/Budget", type := .file }] := by
  obtain ⟨⟨es, r, listed, hrun, hsteps⟩, hall⟩ := search_breadthFirst .ascii {}
    { connectionId := qStringLiteral "c", query := qStringLiteral "budget" } docs
    (by decide) (by decide) (by decide)
  obtain ⟨result, rfl, hfound⟩ := hall es r listed hrun hsteps
  have hentries := hfound.entries
  have hlimit : result.limitReached = false := by
    rw [← Bool.not_eq_true, hfound.limitReached, hentries]
    decide
  have hlisted := hfound.complete hlimit
  refine ⟨es, result, hrun, ?_, hentries.trans (by decide)⟩
  rw [← hlisted]
  exact hsteps

end RecursiveSearchService

end SmbBrowser.Application
