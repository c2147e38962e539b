import Mathlib.Data.List.Nodup
import SmbBrowser.Qt.QString

/-!
# The directory of the cache

A tree of files and directories without links, and what `TempFileCache` does with it
(application/TempFileCache.cpp): it lists the files, removes a file and removes the
directories that are empty.  `QDir` lists no entry whose name starts with a dot.

Results:
* `nodup_files`: no two files have one path;
* `remove_of_mem`: removing a file takes it and no other off the list;
* `files_removeEmptyDirectories`: removing empty directories leaves the files.
-/

namespace SmbBrowser.Application

open SmbBrowser.Qt

/-! ## Model -/

/-- An absolute path on the local machine: the names from the root down. -/
abbrev LocalPath := List QString

/-- The entries of a directory, in the order in which `entryInfoList` has them. -/
inductive DirEntries where
  | nil
  | file (name : QString) (lastModified : ℤ) (size : ℕ) (others : DirEntries)
  | directory (name : QString) (entries others : DirEntries)

/-- `CacheFile` (TempFileCache.cpp:45). -/
structure CacheFile where
  path : LocalPath
  modifiedAtUtc : ℤ
  size : ℤ := 0
  deriving DecidableEq

/-- An entry that `entryInfoList` leaves out, for `QDir::Hidden` is not among the filters. -/
def isHidden (name : QString) : Bool := name.startsWith (qStringLiteral ".")

namespace DirEntries

/-- The names in the directory itself. -/
def names : DirEntries → List QString
  | nil => []
  | file name _ _ others => name :: others.names
  | directory name _ others => name :: others.names

/-- No directory has two entries of one name. -/
def Distinct : DirEntries → Prop
  | nil => True
  | file name _ _ others => name ∉ others.names ∧ others.Distinct
  | directory name entries others => name ∉ others.names ∧ entries.Distinct ∧ others.Distinct

/-- `collectFiles` (TempFileCache.cpp:59), for the directory at `dir`. -/
def collectFiles (dir : LocalPath) : DirEntries → List CacheFile
  | nil => []
  | file name lastModified size others =>
    if isHidden name then others.collectFiles dir
    else ⟨dir ++ [name], lastModified, size⟩ :: others.collectFiles dir
  | directory name entries others =>
    if isHidden name then others.collectFiles dir
    else entries.collectFiles (dir ++ [name]) ++ others.collectFiles dir

/-- Whether there is a file at `path`. -/
def hasFile (path : LocalPath) (dir : LocalPath) : DirEntries → Bool
  | nil => false
  | file name _ _ others => dir ++ [name] = path || others.hasFile path dir
  | directory name entries others =>
    entries.hasFile path (dir ++ [name]) || others.hasFile path dir

/-- What is left when the file at `path` is gone. -/
def without (path : LocalPath) (dir : LocalPath) : DirEntries → DirEntries
  | nil => nil
  | file name lastModified size others =>
    if dir ++ [name] = path then others.without path dir
    else file name lastModified size (others.without path dir)
  | directory name entries others =>
    directory name (entries.without path (dir ++ [name])) (others.without path dir)

/-- No entry at all, not even a hidden one. -/
def isEmpty : DirEntries → Bool
  | nil => true
  | _ => false

/-- `removeEmptyDirectories` (TempFileCache.cpp:73); `rmdir` fails on a directory that is not
    empty and on those that are not `deletable`. -/
def removeEmptyDirectories (deletable : LocalPath → Bool) (dir : LocalPath) :
    DirEntries → DirEntries
  | nil => nil
  | file name lastModified size others =>
    file name lastModified size (others.removeEmptyDirectories deletable dir)
  | directory name entries others =>
    if isHidden name then
      directory name entries (others.removeEmptyDirectories deletable dir)
    else
      let child := entries.removeEmptyDirectories deletable (dir ++ [name])
      if child.isEmpty && deletable (dir ++ [name]) then
        others.removeEmptyDirectories deletable dir
      else
        directory name child (others.removeEmptyDirectories deletable dir)

/-! ## Names and paths -/

variable {deletable : LocalPath → Bool} {dir path : LocalPath} {entries : DirEntries}

theorem names_without : (entries.without path dir).names ⊆ entries.names := by
  induction entries with
  | nil => exact List.Subset.refl _
  | file name _ _ others ih =>
    rw [without]
    split
    · exact List.subset_cons_of_subset _ ih
    · exact List.cons_subset_cons _ ih
  | directory name entries others _ ih => exact List.cons_subset_cons _ ih

theorem names_removeEmptyDirectories :
    (entries.removeEmptyDirectories deletable dir).names ⊆ entries.names := by
  induction entries with
  | nil => exact List.Subset.refl _
  | file name _ _ others ih => exact List.cons_subset_cons _ ih
  | directory name entries others _ ih =>
    rw [removeEmptyDirectories]
    split
    · exact List.cons_subset_cons _ ih
    dsimp only
    split
    · exact List.subset_cons_of_subset _ ih
    · exact List.cons_subset_cons _ ih

theorem Distinct.without (h : entries.Distinct) : (entries.without path dir).Distinct := by
  induction entries generalizing dir with
  | nil => trivial
  | file name _ _ others ih =>
    rw [DirEntries.without]
    split
    · exact ih h.2
    · exact ⟨fun hmem => h.1 (names_without hmem), ih h.2⟩
  | directory name entries others ihe ih =>
    exact ⟨fun hmem => h.1 (names_without hmem), ihe h.2.1, ih h.2.2⟩

theorem Distinct.removeEmptyDirectories (h : entries.Distinct) :
    (entries.removeEmptyDirectories deletable dir).Distinct := by
  induction entries generalizing dir with
  | nil => trivial
  | file name _ _ others ih =>
    exact ⟨fun hmem => h.1 (names_removeEmptyDirectories hmem), ih h.2⟩
  | directory name entries others ihe ih =>
    rw [DirEntries.removeEmptyDirectories]
    split
    · exact ⟨fun hmem => h.1 (names_removeEmptyDirectories hmem), h.2.1, ih h.2.2⟩
    dsimp only
    split
    · exact ih h.2.2
    · exact ⟨fun hmem => h.1 (names_removeEmptyDirectories hmem), ihe h.2.1, ih h.2.2⟩

/-! ## The files of a directory -/

/-- A file that is listed is in the directory itself or below one of its entries. -/
theorem path_collectFiles {f : CacheFile} (h : f ∈ entries.collectFiles dir) :
    ∃ name ∈ entries.names, dir ++ [name] <+: f.path := by
  induction entries generalizing dir with
  | nil => cases h
  | file name t size others ih =>
    have hothers : f ∈ others.collectFiles dir →
        ∃ n ∈ (file name t size others).names, dir ++ [n] <+: f.path := fun hf =>
      let ⟨n, hn, hstarts⟩ := ih hf
      ⟨n, List.mem_cons_of_mem _ hn, hstarts⟩
    rw [collectFiles] at h
    split at h
    · exact hothers h
    rcases List.mem_cons.1 h with rfl | h
    · exact ⟨name, List.mem_cons_self, List.prefix_rfl⟩
    · exact hothers h
  | directory name entries others ihe ih =>
    have hothers : f ∈ others.collectFiles dir →
        ∃ n ∈ (directory name entries others).names, dir ++ [n] <+: f.path := fun hf =>
      let ⟨n, hn, hstarts⟩ := ih hf
      ⟨n, List.mem_cons_of_mem _ hn, hstarts⟩
    rw [collectFiles] at h
    split at h
    · exact hothers h
    rcases List.mem_append.1 h with h | h
    · obtain ⟨n, -, hstarts⟩ := ihe h
      exact ⟨name, List.mem_cons_self, (List.prefix_append _ _).trans hstarts⟩
    · exact hothers h

theorem path_ne_nil {f : CacheFile} (h : f ∈ entries.collectFiles dir) : f.path ≠ [] := by
  obtain ⟨name, -, hstarts⟩ := path_collectFiles h
  rintro hnil
  rw [hnil, List.prefix_nil] at hstarts
  exact List.append_ne_nil_of_right_ne_nil _ (List.cons_ne_nil _ _) hstarts

theorem name_eq_of_starts {name name' : QString} (h : dir ++ [name] <+: path)
    (h' : dir ++ [name'] <+: path) : name = name' := by
  have hlength : (dir ++ [name]).length = (dir ++ [name']).length := by
    simp only [List.length_append, List.length_singleton]
  have heq := (List.prefix_of_prefix_length_le h h' hlength.le).eq_of_length hlength
  exact List.singleton_inj.1 (List.append_cancel_left heq)

/-- What is at or below `name` is not among the files of the other entries. -/
theorem not_mem_others {name : QString} {others : DirEntries} {f : CacheFile}
    (hname : name ∉ others.names) (hstarts : dir ++ [name] <+: path)
    (h : f ∈ others.collectFiles dir) : path ≠ f.path := by
  rintro rfl
  obtain ⟨n, hn, hn'⟩ := path_collectFiles h
  exact hname (name_eq_of_starts hstarts hn' ▸ hn)

theorem nodup_collectFiles (h : entries.Distinct) :
    ((entries.collectFiles dir).map (·.path)).Nodup := by
  induction entries generalizing dir with
  | nil => exact List.nodup_nil
  | file name _ _ others ih =>
    rw [collectFiles]
    split
    · exact ih h.2
    rw [List.map_cons, List.nodup_cons]
    refine ⟨fun hmem => ?_, ih h.2⟩
    obtain ⟨f, hf, heq⟩ := List.mem_map.1 hmem
    exact not_mem_others h.1 List.prefix_rfl hf heq.symm
  | directory name entries others ihe ih =>
    rw [collectFiles]
    split
    · exact ih h.2.2
    rw [List.map_append]
    refine List.nodup_append.2 ⟨ihe h.2.1, ih h.2.2, fun p hp q hq => ?_⟩
    obtain ⟨f, hf, rfl⟩ := List.mem_map.1 hp
    obtain ⟨g, hg, rfl⟩ := List.mem_map.1 hq
    obtain ⟨n, -, hn⟩ := path_collectFiles hf
    exact not_mem_others h.1 ((List.prefix_append _ _).trans hn) hg

theorem hasFile_of_mem {f : CacheFile} (h : f ∈ entries.collectFiles dir) :
    entries.hasFile f.path dir = true := by
  induction entries generalizing dir with
  | nil => cases h
  | file name _ _ others ih =>
    rw [collectFiles] at h
    rw [hasFile, Bool.or_eq_true]
    split at h
    · exact .inr (ih h)
    rcases List.mem_cons.1 h with rfl | h
    · exact .inl (decide_eq_true rfl)
    · exact .inr (ih h)
  | directory name entries others ihe ih =>
    rw [collectFiles] at h
    rw [hasFile, Bool.or_eq_true]
    split at h
    · exact .inr (ih h)
    exact (List.mem_append.1 h).imp ihe ih

theorem collectFiles_without :
    (entries.without path dir).collectFiles dir =
      (entries.collectFiles dir).filter (·.path ≠ path) := by
  induction entries generalizing dir with
  | nil => rfl
  | file name t size others ih =>
    rw [without]
    by_cases hpath : dir ++ [name] = path
    · rw [if_pos hpath, collectFiles, ih]
      split
      · rfl
      · rw [List.filter_cons_of_neg (by simpa using hpath)]
    · rw [if_neg hpath, collectFiles, collectFiles, ih]
      split
      · rfl
      · rw [List.filter_cons_of_pos (by simpa using hpath)]
  | directory name entries others ihe ih =>
    rw [without, collectFiles, collectFiles, ihe, ih]
    split
    · rfl
    · rw [List.filter_append]

theorem eq_nil_of_isEmpty (h : entries.isEmpty = true) : entries = nil := by
  cases entries with
  | nil => rfl
  | file _ _ _ _ => cases h
  | directory _ _ _ => cases h

theorem collectFiles_removeEmptyDirectories :
    (entries.removeEmptyDirectories deletable dir).collectFiles dir =
      entries.collectFiles dir := by
  induction entries generalizing dir with
  | nil => rfl
  | file name t size others ih => rw [removeEmptyDirectories, collectFiles, collectFiles, ih]
  | directory name entries others ihe ih =>
    rw [removeEmptyDirectories]
    split
    · rw [collectFiles, collectFiles, ih]
    next hhidden =>
    dsimp only
    split
    · next hempty =>
      -- the directory that goes has no files, for nothing is in it
      have hchild := eq_nil_of_isEmpty (Bool.and_eq_true_iff.1 hempty).1
      have hfiles := @ihe (dir ++ [name])
      rw [hchild] at hfiles
      rw [ih, collectFiles, if_neg hhidden, ← hfiles]
      rfl
    · rw [collectFiles, collectFiles, ihe, ih]

end DirEntries

/-! ## Directories whose entries have distinct names -/

/-- A directory tree as a file system has it. -/
structure CacheDirectory where
  entries : DirEntries
  distinct : entries.Distinct

namespace CacheDirectory

variable (root : LocalPath) (directory : CacheDirectory)

/-- The files `collectFiles` finds in the directory at `root`. -/
def files : List CacheFile := directory.entries.collectFiles root

/-- `QFile::remove`: it fails where there is no file and on files that are not `deletable`. -/
def remove (deletable : LocalPath → Bool) (path : LocalPath) : Option CacheDirectory :=
  if directory.entries.hasFile path root && deletable path then
    some ⟨directory.entries.without path root, directory.distinct.without⟩
  else
    none

/-- `removeEmptyDirectories(root)`. -/
def removeEmptyDirectories (deletable : LocalPath → Bool) : CacheDirectory where
  entries := directory.entries.removeEmptyDirectories deletable root
  distinct := directory.distinct.removeEmptyDirectories

variable {root directory}

theorem nodup_files : ((directory.files root).map (·.path)).Nodup :=
  DirEntries.nodup_collectFiles directory.distinct

theorem nodup_cacheFiles : (directory.files root).Nodup := List.Nodup.of_map _ nodup_files

theorem files_removeEmptyDirectories {deletable : LocalPath → Bool} :
    (directory.removeEmptyDirectories root deletable).files root = directory.files root :=
  DirEntries.collectFiles_removeEmptyDirectories

theorem remove_of_not_deletable {deletable : LocalPath → Bool} {path : LocalPath}
    (h : deletable path = false) : directory.remove root deletable path = none :=
  if_neg (by simp [h])

theorem remove_of_mem {deletable : LocalPath → Bool} {file : CacheFile}
    (hmem : file ∈ directory.files root) (h : deletable file.path = true) :
    ∃ directory', directory.remove root deletable file.path = some directory' ∧
      (directory.files root).Perm (file :: directory'.files root) := by
  refine ⟨_, if_pos (Bool.and_eq_true_iff.2 ⟨DirEntries.hasFile_of_mem hmem, h⟩), ?_⟩
  have hfiles : files root ⟨directory.entries.without file.path root, directory.distinct.without⟩ =
      (directory.files root).filter (·.path ≠ file.path) :=
    DirEntries.collectFiles_without
  rw [hfiles, List.perm_ext_iff_of_nodup nodup_cacheFiles (List.nodup_cons.2
    ⟨fun hin => by simpa using (List.mem_filter.1 hin).2, nodup_cacheFiles.filter _⟩)]
  intro g
  rw [List.mem_cons, List.mem_filter]
  constructor
  · intro hg
    by_cases hpath : g.path = file.path
    · exact .inl (List.inj_on_of_nodup_map nodup_files hg hmem hpath)
    · exact .inr ⟨hg, decide_eq_true hpath⟩
  · rintro (rfl | ⟨hg, -⟩)
    · exact hmem
    · exact hg

end CacheDirectory

end SmbBrowser.Application
