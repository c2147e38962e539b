import SmbBrowser.Application.CacheDirectory
import SmbBrowser.Base.Eviction
import SmbBrowser.Core.Types

/-!
# Cleaning up the cache

`TempFileCache::cleanup` (application/TempFileCache.cpp:154) first removes the files older
than a cutoff and then, from the oldest on, further files until the cache is not above its
size limit.  Both passes leave protected files alone and go on when a file cannot be
removed.  The sums of sizes and the count of files are integers without a bound.

Results:
* `removed_removeOldFiles`, `removed_removeUntilWithin`: the files each pass removes, with
  the counters they share;
* `cleanup_cleansUp`: what is removed, what stays and what is reported.
-/

namespace SmbBrowser.Application

open SmbBrowser.Base SmbBrowser.Qt SmbBrowser.Core

/-! ## Model -/

/-- `TempFileCacheCleanupOptions` (TempFileCache.h:12). -/
structure TempFileCacheCleanupOptions where
  removeFilesOlderThanUtc : QDateTime := none
  maxSizeBytes : ℤ := 0

/-- `TempFileCacheCleanupResult` (TempFileCache.h:17). -/
structure TempFileCacheCleanupResult where
  filesRemoved : ℤ := 0
  bytesRemoved : ℤ := 0
  bytesRemaining : ℤ := 0
  deriving DecidableEq

instance : Inhabited TempFileCacheCleanupResult := ⟨{}⟩

/-- What the cache needs of the local file system: `normalizedLocalPath`
    (TempFileCache.cpp:51) and the paths that can be removed. -/
structure LocalFiles where
  normalizedLocalPath : LocalPath → LocalPath
  deletable : LocalPath → Bool

/-- `std::sort` by `modifiedAtUtc` (TempFileCache.cpp:178); files of one age come in any
    order. -/
structure SortByAge where
  sort : List CacheFile → List CacheFile
  perm : ∀ files, (sort files).Perm files
  ordered : ∀ files, (sort files).Pairwise fun left right => left.modifiedAtUtc ≤ right.modifiedAtUtc

/-- Insertion sort. -/
def SortByAge.insertion : SortByAge where
  sort := List.insertionSort fun left right => left.modifiedAtUtc ≤ right.modifiedAtUtc
  perm := List.perm_insertionSort _
  ordered files := by
    have : Std.Total fun left right : CacheFile => left.modifiedAtUtc ≤ right.modifiedAtUtc :=
      ⟨fun left right => Int.le_total left.modifiedAtUtc right.modifiedAtUtc⟩
    have : IsTrans CacheFile fun left right => left.modifiedAtUtc ≤ right.modifiedAtUtc :=
      ⟨fun _ _ _ => Int.le_trans⟩
    exact List.pairwise_insertionSort _ files

/-- `totalSize` (TempFileCache.cpp:82). -/
def totalSize (files : List CacheFile) : ℤ := (files.map CacheFile.size).sum

/-- `TempFileCache` (TempFileCache.h:23). -/
structure TempFileCache where
  rootPath : LocalPath
  protectedPaths : List LocalPath := []

/-- The directory and the counters while they are worked on. -/
structure CleanupState where
  directory : CacheDirectory
  result : TempFileCacheCleanupResult

namespace TempFileCache

variable (system : LocalFiles) (cache : TempFileCache)

/-- `TempFileCache::protectPath` (TempFileCache.cpp:226). -/
def protectPath (localPath : LocalPath) : TempFileCache :=
  if localPath = [] then cache
  else { cache with protectedPaths := system.normalizedLocalPath localPath :: cache.protectedPaths }

/-- `TempFileCache::isProtectedPath` (TempFileCache.cpp:242). -/
def isProtectedPath (localPath : LocalPath) : Bool :=
  localPath ≠ [] && system.normalizedLocalPath localPath ∈ cache.protectedPaths

/-- `isProtected` (TempFileCache.cpp:55). -/
def isProtected (path : LocalPath) : Bool := system.normalizedLocalPath path ∈ cache.protectedPaths

/-- `removeCacheFile` (TempFileCache.cpp:90). -/
def removeCacheFile (file : CacheFile) (state : CleanupState) : Bool × CleanupState :=
  if cache.isProtected system file.path then (false, state)
  else
    match state.directory.remove cache.rootPath system.deletable file.path with
    | none => (false, state)
    | some directory =>
      (true, ⟨directory, { state.result with
        filesRemoved := state.result.filesRemoved + 1
        bytesRemoved := state.result.bytesRemoved + file.size }⟩)

/-- The loop over the files that are too old (TempFileCache.cpp:167). -/
def removeOldFiles (cutoff : ℤ) (files : List CacheFile) (state : CleanupState) : CleanupState :=
  files.foldl
    (fun state file =>
      if file.modifiedAtUtc < cutoff then (removeCacheFile system cache file state).2 else state)
    state

/-- The loop over the files in order of age (TempFileCache.cpp:182). -/
def removeUntilWithin (maxSizeBytes : ℤ) :
    List CacheFile → ℤ → CleanupState → CleanupState
  | [], _, state => state
  | file :: files, remaining, state =>
    if remaining ≤ maxSizeBytes then state
    else
      let (removed, state) := removeCacheFile system cache file state
      removeUntilWithin maxSizeBytes files (if removed then remaining - file.size else remaining)
        state

/-- The first pass of `cleanup` (TempFileCache.cpp:162). -/
def removeExpired (options : TempFileCacheCleanupOptions) (state : CleanupState) : CleanupState :=
  match options.removeFilesOlderThanUtc with
  | some cutoff =>
    removeOldFiles system cache cutoff (state.directory.files cache.rootPath) state
  | none => state

/-- The second pass of `cleanup` (TempFileCache.cpp:174). -/
def enforceMaxSize (byAge : SortByAge) (options : TempFileCacheCleanupOptions)
    (state : CleanupState) : CleanupState :=
  let files := state.directory.files cache.rootPath
  let remaining := totalSize files
  if options.maxSizeBytes > 0 ∧ remaining > options.maxSizeBytes then
    removeUntilWithin system cache options.maxSizeBytes (byAge.sort files) remaining state
  else state

/-- `TempFileCache::cleanup` (TempFileCache.cpp:154); `none` is a root that does not exist. -/
def cleanup (byAge : SortByAge) (options : TempFileCacheCleanupOptions) :
    Option CacheDirectory → Option CacheDirectory × Result TempFileCacheCleanupResult
  | none => (none, .success {})
  | some directory =>
    let state := removeExpired system cache options ⟨directory, {}⟩
    let state := enforceMaxSize system cache byAge options state
    let directory := state.directory.removeEmptyDirectories cache.rootPath system.deletable
    (some directory, .success
      { state.result with bytesRemaining := totalSize (directory.files cache.rootPath) })

/-! ## What is to be removed -/

/-- An unprotected file that can be deleted. -/
def removable (file : CacheFile) : Bool :=
  !cache.isProtectedPath system file.path && system.deletable file.path

/-- The files of the cache. -/
def filesOf : Option CacheDirectory → List CacheFile
  | none => []
  | some directory => directory.files cache.rootPath

end TempFileCache

/-- A file modified before the cutoff, if there is one. -/
def TempFileCacheCleanupOptions.expired (options : TempFileCacheCleanupOptions)
    (file : CacheFile) : Bool :=
  options.removeFilesOlderThanUtc.any (file.modifiedAtUtc < ·)

/-- A clean-up of the files `before` that leaves `after`: it removes the files `old` for
    their age and after them `evicted` for the size of the cache. -/
structure CleansUp (removable : CacheFile → Bool) (options : TempFileCacheCleanupOptions)
    (before after old evicted : List CacheFile) (result : TempFileCacheCleanupResult) : Prop where
  split : before.Perm (old ++ evicted ++ after)
  old_eq : old = before.filter fun file => options.expired file && removable file
  expired_gone : ∀ file ∈ after, options.expired file = true → removable file = false
  kept : ∀ file ∈ before, removable file = false → file ∈ after
  evicted_removable : ∀ file ∈ evicted, removable file = true
  evicted_by_age : evicted.Pairwise fun file file' => file.modifiedAtUtc ≤ file'.modifiedAtUtc
  evicted_oldest : ∀ file ∈ evicted, ∀ file' ∈ after, removable file' = true →
    file.modifiedAtUtc ≤ file'.modifiedAtUtc
  evicted_above : ∀ front file back, evicted = front ++ file :: back →
    0 < options.maxSizeBytes ∧ options.maxSizeBytes < totalSize (file :: back ++ after)
  within_limit : 0 < options.maxSizeBytes →
    totalSize after ≤ options.maxSizeBytes ∨ ∀ file ∈ after, removable file = false
  filesRemoved : result.filesRemoved = (old ++ evicted).length
  bytesRemoved : result.bytesRemoved = totalSize (old ++ evicted)
  bytesRemaining : result.bytesRemaining = totalSize after

/-! ## What one pass removes -/

/-- The files `removed` are off the list, and they are counted. -/
structure Removed (root : LocalPath) (removed : List CacheFile) (s s' : CleanupState) : Prop where
  files : (s.directory.files root).Perm (removed ++ s'.directory.files root)
  filesRemoved : s'.result.filesRemoved = s.result.filesRemoved + removed.length
  bytesRemoved : s'.result.bytesRemoved = s.result.bytesRemoved + totalSize removed

theorem totalSize_append (files files' : List CacheFile) :
    totalSize (files ++ files') = totalSize files + totalSize files' := by
  rw [totalSize, List.map_append, List.sum_append]
  rfl

theorem totalSize_perm {files files' : List CacheFile} (h : files.Perm files') :
    totalSize files = totalSize files' := (h.map _).sum_eq

namespace Removed

variable {root : LocalPath} {s s' s'' : CleanupState} {removed removed' : List CacheFile}

theorem refl : Removed root [] s s where
  files := List.Perm.refl _
  filesRemoved := (add_zero _).symm
  bytesRemoved := (add_zero _).symm

theorem trans (h : Removed root removed s s') (h' : Removed root removed' s' s'') :
    Removed root (removed ++ removed') s s'' where
  files := by
    rw [List.append_assoc]
    exact h.files.trans (h'.files.append_left removed)
  filesRemoved := by
    rw [h'.filesRemoved, h.filesRemoved, List.length_append, Int.natCast_add]
    omega
  bytesRemoved := by
    rw [h'.bytesRemoved, h.bytesRemoved, totalSize_append]
    omega

/-- A file that was there and is not the one removed is still there. -/
theorem mem_of_ne {file g : CacheFile} (h : Removed root [file] s s')
    (hg : g ∈ s.directory.files root) (hne : g ≠ file) : g ∈ s'.directory.files root :=
  (List.mem_cons.1 (h.files.mem_iff.1 hg)).resolve_left hne

end Removed

namespace TempFileCache

variable {system : LocalFiles} {cache : TempFileCache} {file : CacheFile} {s : CleanupState}
  {files : List CacheFile}

/-- Every file has a name, so that the two tests for protection agree. -/
theorem isProtectedPath_of_ne_nil {path : LocalPath} (h : path ≠ []) :
    cache.isProtectedPath system path = cache.isProtected system path := by
  rw [isProtectedPath, decide_eq_true h, Bool.true_and, isProtected]

theorem isProtectedPath_protectPath {path : LocalPath} (h : path ≠ []) :
    (cache.protectPath system path).isProtectedPath system path = true := by
  rw [isProtectedPath_of_ne_nil h, protectPath, if_neg h]
  exact decide_eq_true List.mem_cons_self

theorem removeCacheFile_of_removable (hmem : file ∈ s.directory.files cache.rootPath)
    (h : cache.removable system file = true) :
    ∃ s', removeCacheFile system cache file s = (true, s') ∧
      Removed cache.rootPath [file] s s' := by
  obtain ⟨hopen, hdeletable⟩ := Bool.and_eq_true_iff.1 h
  rw [isProtectedPath_of_ne_nil (DirEntries.path_ne_nil hmem)] at hopen
  obtain ⟨directory, hremove, hfiles⟩ := CacheDirectory.remove_of_mem hmem hdeletable
  have heq : removeCacheFile system cache file s = (true, ⟨directory, { s.result with
      filesRemoved := s.result.filesRemoved + 1
      bytesRemoved := s.result.bytesRemoved + file.size }⟩) := by
    rw [removeCacheFile, if_neg (by simpa using hopen), hremove]
  refine ⟨_, heq, hfiles, rfl, ?_⟩
  rw [totalSize, List.map_singleton, List.sum_singleton]

theorem removeCacheFile_of_not_removable (hmem : file ∈ s.directory.files cache.rootPath)
    (h : cache.removable system file = false) :
    removeCacheFile system cache file s = (false, s) := by
  rw [removable, isProtectedPath_of_ne_nil (DirEntries.path_ne_nil hmem)] at h
  rw [removeCacheFile]
  split
  · rfl
  next hopen =>
  rw [Bool.not_eq_true] at hopen
  rw [hopen, Bool.not_false, Bool.true_and] at h
  rw [CacheDirectory.remove_of_not_deletable h]

/-- The pass over the files that are too old, as long as it has files of the directory in
    front of it, each once. -/
theorem removed_removeOldFiles (cutoff : ℤ) (hnodup : files.Nodup)
    (hfiles : files ⊆ s.directory.files cache.rootPath) :
    Removed cache.rootPath
      (files.filter fun file => decide (file.modifiedAtUtc < cutoff) && cache.removable system file)
      s (removeOldFiles system cache cutoff files s) := by
  induction files generalizing s with
  | nil => exact .refl
  | cons file files ih =>
    obtain ⟨hnew, hnodup⟩ := List.nodup_cons.1 hnodup
    obtain ⟨hmem, hfiles⟩ := List.cons_subset.1 hfiles
    rw [removeOldFiles, List.foldl_cons]
    split
    · next hold =>
      cases hremovable : cache.removable system file with
      | true =>
        obtain ⟨s', heq, hremoved⟩ := removeCacheFile_of_removable hmem hremovable
        rw [heq, List.filter_cons_of_pos (by rw [decide_eq_true hold, hremovable]; rfl)]
        refine hremoved.trans (ih hnodup fun g hg => hremoved.mem_of_ne (hfiles hg) ?_)
        rintro rfl
        exact hnew hg
      | false =>
        rw [removeCacheFile_of_not_removable hmem hremovable,
          List.filter_cons_of_neg (by simp [hremovable])]
        exact ih hnodup hfiles
    · next hrecent =>
      rw [List.filter_cons_of_neg (by simp [hrecent])]
      exact ih hnodup hfiles

/-- The pass over the files in order of age. -/
theorem removed_removeUntilWithin (limit remaining : ℤ) (hnodup : files.Nodup)
    (hfiles : files ⊆ s.directory.files cache.rootPath) :
    Removed cache.rootPath
      (evicted CacheFile.size (cache.removable system) limit remaining files)
      s (removeUntilWithin system cache limit files remaining s) := by
  induction files generalizing s remaining with
  | nil => exact .refl
  | cons file files ih =>
    obtain ⟨hnew, hnodup⟩ := List.nodup_cons.1 hnodup
    obtain ⟨hmem, hfiles⟩ := List.cons_subset.1 hfiles
    rw [removeUntilWithin, evicted]
    split
    · exact .refl
    cases hremovable : cache.removable system file with
    | true =>
      obtain ⟨s', heq, hremoved⟩ := removeCacheFile_of_removable hmem hremovable
      rw [heq]
      refine hremoved.trans (ih _ hnodup fun g hg => hremoved.mem_of_ne (hfiles hg) ?_)
      rintro rfl
      exact hnew hg
    | false =>
      rw [removeCacheFile_of_not_removable hmem hremovable]
      exact ih _ hnodup hfiles

/-! ## The clean-up -/

/-- The files that the size limit costs. -/
def evictedFor (system : LocalFiles) (cache : TempFileCache)
    (options : TempFileCacheCleanupOptions) (byAge : SortByAge) (files : List CacheFile) :
    List CacheFile :=
  if 0 < options.maxSizeBytes then
    evicted CacheFile.size (cache.removable system) options.maxSizeBytes (totalSize files)
      (byAge.sort files)
  else []

/-- The two passes from `s` over `s'` to `s''` and the files each removes. -/
structure Passes (system : LocalFiles) (cache : TempFileCache)
    (options : TempFileCacheCleanupOptions) (byAge : SortByAge) (s s' s'' : CleanupState)
    (old new : List CacheFile) : Prop where
  old_eq : old = (s.directory.files cache.rootPath).filter fun file =>
    options.expired file && cache.removable system file
  new_eq : new = evictedFor system cache options byAge (s'.directory.files cache.rootPath)
  first : Removed cache.rootPath old s s'
  second : Removed cache.rootPath new s' s''

namespace Passes

variable {options : TempFileCacheCleanupOptions} {byAge : SortByAge} {s' s'' : CleanupState}
  {old new : List CacheFile}

theorem not_mem_after (h : Passes system cache options byAge s s' s'' old new)
    (hfile : file ∈ old ++ new) : file ∉ s''.directory.files cache.rootPath := by
  have hparts := (h.first.trans h.second).files.nodup_iff.1 CacheDirectory.nodup_cacheFiles
  exact List.disjoint_of_nodup_append hparts hfile

/-- What is evicted are the first of the files in order of age that can be removed. -/
theorem new_starts (h : Passes system cache options byAge s s' s'' old new) :
    new <+: (byAge.sort (s'.directory.files cache.rootPath)).filter (cache.removable system) := by
  rw [h.new_eq, evictedFor]
  split
  · exact evicted_starts _ _
  · exact List.nil_prefix

/-- A file that stays and could be removed comes among them, and not among the evicted. -/
theorem mem_sorted (h : Passes system cache options byAge s s' s'' old new)
    (hafter : file ∈ s''.directory.files cache.rootPath)
    (hremovable : cache.removable system file = true) :
    file ∈ (byAge.sort (s'.directory.files cache.rootPath)).filter (cache.removable system) := by
  rw [List.mem_filter, (byAge.perm _).mem_iff, h.second.files.mem_iff]
  exact ⟨List.mem_append_right _ hafter, hremovable⟩

theorem totalSize_between (h : Passes system cache options byAge s s' s'' old new) :
    totalSize (s'.directory.files cache.rootPath) =
      totalSize new + totalSize (s''.directory.files cache.rootPath) :=
  (totalSize_perm h.second.files).trans (totalSize_append _ _)

theorem expired_gone (h : Passes system cache options byAge s s' s'' old new)
    (hafter : file ∈ s''.directory.files cache.rootPath)
    (hexpired : options.expired file = true) : cache.removable system file = false := by
  by_contra hremovable
  rw [Bool.not_eq_false] at hremovable
  refine h.not_mem_after (List.mem_append_left _ ?_) hafter
  rw [h.old_eq, List.mem_filter, hexpired, hremovable]
  exact ⟨(h.first.trans h.second).files.mem_iff.2 (List.mem_append_right _ hafter), rfl⟩

theorem kept (h : Passes system cache options byAge s s' s'' old new)
    (hbefore : file ∈ s.directory.files cache.rootPath)
    (hkept : cache.removable system file = false) :
    file ∈ s''.directory.files cache.rootPath := by
  rcases List.mem_append.1 ((h.first.trans h.second).files.mem_iff.1 hbefore) with hgone | hafter
  · have hremovable : cache.removable system file = true := by
      rcases List.mem_append.1 hgone with hold | hnew
      · rw [h.old_eq, List.mem_filter, Bool.and_eq_true] at hold
        exact hold.2.2
      · exact (List.mem_filter.1 (h.new_starts.subset hnew)).2
    rw [hkept] at hremovable
    exact absurd hremovable Bool.false_ne_true
  · exact hafter

theorem evicted_by_age (h : Passes system cache options byAge s s' s'' old new) :
    new.Pairwise fun file file' => file.modifiedAtUtc ≤ file'.modifiedAtUtc :=
  ((byAge.ordered _).filter _).sublist h.new_starts.sublist

theorem evicted_oldest (h : Passes system cache options byAge s s' s'' old new)
    {file' : CacheFile} (hfile : file ∈ new)
    (hafter : file' ∈ s''.directory.files cache.rootPath)
    (hremovable : cache.removable system file' = true) :
    file.modifiedAtUtc ≤ file'.modifiedAtUtc := by
  have hordered := (byAge.ordered (s'.directory.files cache.rootPath)).filter
    (cache.removable system)
  obtain ⟨later, hlater⟩ := h.new_starts
  have hmem := h.mem_sorted hafter hremovable
  rw [← hlater] at hmem hordered
  have hlast := (List.mem_append.1 hmem).resolve_left fun hin =>
    h.not_mem_after (List.mem_append_right _ hin) hafter
  exact (List.pairwise_append.1 hordered).2.2 file hfile file' hlast

theorem evicted_above (h : Passes system cache options byAge s s' s'' old new)
    {front back : List CacheFile} (hsplit : new = front ++ file :: back) :
    0 < options.maxSizeBytes ∧
      options.maxSizeBytes < totalSize (file :: back ++ s''.directory.files cache.rootPath) := by
  have htotal := h.totalSize_between
  have hnew := h.new_eq
  rw [hsplit, evictedFor] at hnew
  split at hnew
  · next hpos =>
    have hlt := lt_of_evicted hnew.symm
    rw [hsplit, totalSize_append] at htotal
    rw [totalSize_append]
    have hfront : totalSize front = (front.map CacheFile.size).sum := rfl
    exact ⟨hpos, by omega⟩
  · exact absurd hnew (List.append_ne_nil_of_right_ne_nil _ (List.cons_ne_nil _ _))

theorem within_limit (h : Passes system cache options byAge s s' s'' old new)
    (hpos : 0 < options.maxSizeBytes) :
    totalSize (s''.directory.files cache.rootPath) ≤ options.maxSizeBytes ∨
      ∀ file ∈ s''.directory.files cache.rootPath, cache.removable system file = false := by
  have htotal := h.totalSize_between
  have hnew := h.new_eq
  rw [evictedFor, if_pos hpos] at hnew
  have hstops := @evicted_stops _ CacheFile.size (cache.removable system) options.maxSizeBytes
    (totalSize (s'.directory.files cache.rootPath))
    (byAge.sort (s'.directory.files cache.rootPath))
  rw [← hnew] at hstops
  refine hstops.imp (fun hle => ?_) fun heq file hafter => ?_
  · have hevicted : totalSize new = (new.map CacheFile.size).sum := rfl
    omega
  · by_contra hremovable
    rw [Bool.not_eq_false] at hremovable
    refine h.not_mem_after (List.mem_append_right _ ?_) hafter
    rw [heq]
    exact h.mem_sorted hafter hremovable

/-- Both passes from fresh counters are a clean-up. -/
theorem cleansUp (h : Passes system cache options byAge s s' s'' old new)
    (hstart : s.result = {}) :
    CleansUp (cache.removable system) options (s.directory.files cache.rootPath)
      (s''.directory.files cache.rootPath) old new
      { s''.result with bytesRemaining := totalSize (s''.directory.files cache.rootPath) } where
  split := (h.first.trans h.second).files
  old_eq := h.old_eq
  expired_gone _ := h.expired_gone
  kept _ := h.kept
  evicted_removable _ hfile := (List.mem_filter.1 (h.new_starts.subset hfile)).2
  evicted_by_age := h.evicted_by_age
  evicted_oldest _ hfile _ := h.evicted_oldest hfile
  evicted_above _ _ _ := h.evicted_above
  within_limit := h.within_limit
  filesRemoved := by
    rw [(h.first.trans h.second).filesRemoved, hstart]
    exact Int.zero_add _
  bytesRemoved := by
    rw [(h.first.trans h.second).bytesRemoved, hstart]
    exact Int.zero_add _
  bytesRemaining := rfl

end Passes

variable (system cache)

theorem removed_removeExpired (options : TempFileCacheCleanupOptions) (s : CleanupState) :
    Removed cache.rootPath
      ((s.directory.files cache.rootPath).filter fun file =>
        options.expired file && cache.removable system file)
      s (removeExpired system cache options s) := by
  cases hcutoff : options.removeFilesOlderThanUtc with
  | none =>
    have hnone : ((s.directory.files cache.rootPath).filter fun file =>
        options.expired file && cache.removable system file) = [] := by
      rw [List.filter_eq_nil_iff]
      intro file _
      rw [TempFileCacheCleanupOptions.expired, hcutoff]
      exact Bool.false_ne_true
    rw [hnone, removeExpired, hcutoff]
    exact .refl
  | some cutoff =>
    have hremoved := @removed_removeOldFiles system cache s _ cutoff
      CacheDirectory.nodup_cacheFiles
      (List.Subset.refl (s.directory.files cache.rootPath))
    simpa only [removeExpired, TempFileCacheCleanupOptions.expired, hcutoff, Option.any_some]
      using hremoved

theorem removed_enforceMaxSize (options : TempFileCacheCleanupOptions) (byAge : SortByAge)
    (s : CleanupState) :
    Removed cache.rootPath
      (evictedFor system cache options byAge (s.directory.files cache.rootPath))
      s (enforceMaxSize system cache byAge options s) := by
  have hperm := byAge.perm (s.directory.files cache.rootPath)
  rw [evictedFor, enforceMaxSize]
  split
  · next hpos =>
    split
    · exact removed_removeUntilWithin _ _
        (hperm.nodup_iff.2 CacheDirectory.nodup_cacheFiles) hperm.subset
    · next hwithin =>
      rw [evicted_of_le (Int.not_lt.1 fun hlt => hwithin ⟨hpos, hlt⟩)]
      exact .refl
  · next hunlimited =>
    rw [if_neg fun hboth => hunlimited hboth.1]
    exact .refl

/-- Whatever the files of the cache are, their sizes, times and marks, and whichever of them
    cannot be deleted: a clean-up removes the old files that can be, then the oldest of the
    others down to the limit, and reports what it did. -/
theorem cleanup_cleansUp (system : LocalFiles) (cache : TempFileCache) (byAge : SortByAge)
    (options : TempFileCacheCleanupOptions) (directory : Option CacheDirectory) :
    ∃ directory' result old new,
      cleanup system cache byAge options directory = (directory', .success result) ∧
      CleansUp (cache.removable system) options (cache.filesOf directory)
        (cache.filesOf directory') old new result := by
  cases directory with
  | none =>
    refine ⟨none, {}, [], [], rfl, ?_⟩
    constructor <;> simp [filesOf, totalSize]
  | some directory =>
    let s : CleanupState := ⟨directory, {}⟩
    let s' := removeExpired system cache options s
    let s'' := enforceMaxSize system cache byAge options s'
    have hfirst := removed_removeExpired system cache options s
    have hsecond := removed_enforceMaxSize system cache options byAge s'
    have hcleans := Passes.cleansUp ⟨rfl, rfl, hfirst, hsecond⟩ rfl
    have hfiles := @CacheDirectory.files_removeEmptyDirectories cache.rootPath s''.directory
      system.deletable
    rw [← hfiles] at hcleans
    exact ⟨_, _, _, _, rfl, hcleans⟩

/-- Of four files of 10 bytes, `a` is too old, `b` is open and `c` is older than `d`. -/
example :
    (cleanup ⟨id, fun _ => true⟩ (.protectPath ⟨id, fun _ => true⟩ ⟨[], []⟩ [[0x62]])
      .insertion ⟨some 5, 20⟩
      (some ⟨.file [0x61] 1 10 (.file [0x62] 2 10 (.file [0x64] 8 10 (.file [0x63] 7 10 .nil))),
        by simp [DirEntries.Distinct, DirEntries.names]⟩)).2.value =
      { filesRemoved := 2, bytesRemoved := 20, bytesRemaining := 20 } := by
  decide

end TempFileCache

end SmbBrowser.Application
