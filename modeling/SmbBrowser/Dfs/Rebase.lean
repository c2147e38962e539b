import Mathlib.Data.List.Forall2
import SmbBrowser.Dfs.FoundThrough
import SmbBrowser.Dfs.PathSegments

/-!
# Listings in the original namespace

The entries of a listing that was found through a chain of mappings are rebased along
the chain.  On lists of names a mapping is a `Move`, and the way back undoes the way
there under the condition of `rebaseAlong_eq_iff`.

Results:
* `listDirectory_rebased_iff`: which entries of a listing carry the requested path;
* `listDirectory_misplaced`: a listing whose entry does not.
-/

namespace SmbBrowser.Dfs

open SmbBrowser.Base SmbBrowser.Qt SmbBrowser.Core

/-! ## The way back of one entry -/

/-- The path of an entry of the last target of a chain in the namespace of its first
    mapping. -/
def originalPathThrough : DfsPathMapping → List DfsPathMapping → QString → QString
  | outer, [], path => originalPathForMapping outer path
  | outer, [mapping], path => originalPathForMapping (composedMapping outer mapping) path
  | outer, mapping :: mapping' :: chain, path =>
    originalPathForMapping outer (originalPathThrough mapping (mapping' :: chain) path)

theorem rebaseThrough_entries (outer : DfsPathMapping) (chain : List DfsPathMapping)
    (entries : List RemoteFileEntry) :
    rebaseThrough rebaseEntriesToOriginalNamespace outer chain entries =
      entries.map fun entry =>
        { entry with remotePath := originalPathThrough outer chain entry.remotePath } := by
  induction chain generalizing outer with
  | nil => rfl
  | cons mapping chain ih =>
    cases chain with
    | nil => rfl
    | cons mapping' chain =>
      rw [rebaseThrough, ih mapping, rebaseEntriesToOriginalNamespace, List.map_map]
      rfl

/-- A path inside a directory. -/
def childPath (directory name : QString) : QString :=
  if directory = root then slash :: name else directory ++ slash :: name

/-- The prefixes of a mapping do not change when they are normalised again: neither ends
    in white space. -/
structure Steady (mapping : DfsPathMapping) : Prop where
  original : normalizeRemotePath (normalizeRemotePath mapping.originalPrefix) =
    normalizeRemotePath mapping.originalPrefix
  target : normalizeRemotePath (normalizeRemotePath mapping.targetPrefix) =
    normalizeRemotePath mapping.targetPrefix

/-- Every original prefix is one of the path its mapping is applied to. -/
def Applies : QString → List DfsPathMapping → Prop
  | _, [] => True
  | path, mapping :: chain => isPathPrefix mapping.originalPrefix path = true ∧
    Applies (targetPathForMapping mapping path) chain

/-- The innermost mapping of a chain starts at or below the target prefix of the mapping
    it is nested in. -/
def InnermostAt : DfsPathMapping → List DfsPathMapping → Prop
  | _, [] => True
  | outer, [mapping] => isPathPrefix outer.targetPrefix mapping.originalPrefix = true
  | _, mapping :: mapping' :: chain => InnermostAt mapping (mapping' :: chain)

/-! ## Chains of moves -/

section

variable {mapping outer : DfsPathMapping} {chain : List DfsPathMapping} {m m' : Move QChar}
  {ms : List (Move QChar)} {p q l : List QString} {path name : QString}

theorem Moves.settles (h : Moves mapping m) (hsteady : Steady mapping) :
    m.Settles QChar.isSpace := by
  have horiginal := hsteady.original
  have htarget := hsteady.target
  rw [h.source] at horiginal
  rw [h.target] at htarget
  exact ⟨(settled_iff h.source_names).2 horiginal, (settled_iff h.target_names).2 htarget⟩

theorem Moves.originalPathForMapping_of (h : Moves mapping m) (hl : Names l)
    (hpath : normalizeRemotePath path = render l) :
    Dfs.originalPathForMapping mapping path =
      render (m.source ++ if m.target <+: l then l.drop m.target.length else []) := by
  have hsuffix : Names (if m.target <+: l then l.drop m.target.length else []) := by
    split
    · exact hl.drop _
    · exact names_nil
  rw [Dfs.originalPathForMapping, suffixAfterPrefix_eq h.target_names hl h.target hpath,
    joinRemotePath_eq h.source_names hsuffix h.source]

/-- Composed mappings are composed moves. -/
theorem Moves.compose (h : Moves outer m) (h' : Moves mapping m') (hm : m.Settles QChar.isSpace)
    (hm' : m'.Settles QChar.isSpace) :
    Moves (composedMapping outer mapping) (m.compose QChar.isSpace m') := by
  have hnames := h.names_backward h'.source_names
  refine ⟨hnames, h'.target_names, ?_, h'.target⟩
  have hbackward : m.backward QChar.isSpace m'.source =
      m.source ++ if m.target <+: m'.source then m'.source.drop m.target.length else [] := by
    unfold Move.backward suffixAfter
    rw [hm'.source.settle_eq]
  have hsettled : Settled QChar.isSpace (m.backward QChar.isSpace m'.source) := by
    rw [hbackward]
    refine hm.source.append ?_
    split
    · exact hm'.source.drop _
    · exact settled_nil
  have horiginal := h.originalPathForMapping_of h'.source_names h'.source
  rw [← hbackward] at horiginal
  show normalizeRemotePath (Dfs.originalPathForMapping outer mapping.originalPrefix) = _
  rw [horiginal]
  exact (settled_iff hnames).1 hsettled

theorem exists_moves_chain (chain : List DfsPathMapping) :
    ∃ ms, List.Forall₂ Moves chain ms := by
  induction chain with
  | nil => exact ⟨[], .nil⟩
  | cons mapping chain ih =>
    obtain ⟨m, hm⟩ := exists_moves mapping
    obtain ⟨ms, hms⟩ := ih
    exact ⟨m :: ms, .cons hm hms⟩

theorem settles_chain (h : List.Forall₂ Moves chain ms)
    (hsteady : ∀ mapping ∈ chain, Steady mapping) : ∀ m ∈ ms, m.Settles QChar.isSpace := by
  induction h with
  | nil => simp
  | cons hm _ ih =>
    obtain ⟨hfirst, hrest⟩ := List.forall_mem_cons.1 hsteady
    exact List.forall_mem_cons.2 ⟨hm.settles hfirst, ih hrest⟩

theorem pathThrough_render (h : List.Forall₂ Moves chain ms) (hp : Names p) :
    pathThrough chain (render p) = render (forwardAlong QChar.isSpace ms p) ∧
      Names (forwardAlong QChar.isSpace ms p) := by
  induction h generalizing p with
  | nil => exact ⟨rfl, hp⟩
  | cons hm _ ih =>
    have hforward := ih (hm.names_forward hp)
    rw [pathThrough, hm.targetPathForMapping hp]
    exact hforward

theorem fits_iff (h : List.Forall₂ Moves chain ms) (hp : Names p) :
    Fits QChar.isSpace ms p ↔ Applies (render p) chain := by
  induction h generalizing p with
  | nil => exact Iff.rfl
  | cons hm _ ih =>
    have hstart := isPathPrefix_iff hm.source_names (names_settle hp) hm.source
      (normalizeRemotePath_render hp)
    rw [Fits, Applies, hstart, hm.targetPathForMapping hp, ih (hm.names_forward hp)]

theorem innermostBelow_iff (h : Moves outer m) (hms : List.Forall₂ Moves chain ms) :
    InnermostBelow m ms ↔ InnermostAt outer chain := by
  induction hms generalizing outer m with
  | nil => exact Iff.rfl
  | cons hm hrest ih =>
    cases hrest with
    | nil => exact (isPathPrefix_iff h.target_names hm.source_names h.target hm.source).symm
    | cons hm' hrest => exact ih hm

/-- The way back on paths is the way back on their names. -/
theorem originalPathThrough_render (h : Moves outer m) (hms : List.Forall₂ Moves chain ms)
    (hm : m.Settles QChar.isSpace) (hsettles : ∀ m ∈ ms, m.Settles QChar.isSpace)
    (hq : Names q) :
    originalPathThrough outer chain (render q) = render (rebaseAlong QChar.isSpace m ms q) ∧
      Names (rebaseAlong QChar.isSpace m ms q) := by
  induction hms generalizing outer m with
  | nil => exact ⟨h.originalPathForMapping hq, h.names_backward hq⟩
  | cons hfirst hrest ih =>
    obtain ⟨hfirst', hsettles'⟩ := List.forall_mem_cons.1 hsettles
    cases hrest with
    | nil =>
      have hcomposed := h.compose hfirst hm hfirst'
      exact ⟨hcomposed.originalPathForMapping hq, hcomposed.names_backward hq⟩
    | cons hm' hrest =>
      obtain ⟨hpath, hnames⟩ := ih hfirst hfirst' hsettles'
      rw [originalPathThrough, hpath, h.originalPathForMapping hnames]
      exact ⟨rfl, h.names_backward hnames⟩

/-- The way back ends in the path of a list of names. -/
theorem exists_names_originalPathForMapping (mapping : DfsPathMapping) (path : QString) :
    ∃ l, Names l ∧ originalPathForMapping mapping path = render l := by
  obtain ⟨m, hm⟩ := exists_moves mapping
  obtain ⟨l, hl, hpath⟩ := exists_names path
  refine ⟨_, ?_, hm.originalPathForMapping_of hl hpath⟩
  refine names_append.2 ⟨hm.source_names, ?_⟩
  split
  · exact hl.drop _
  · exact names_nil

theorem exists_names_originalPathThrough (outer : DfsPathMapping) (chain : List DfsPathMapping)
    (path : QString) : ∃ l, Names l ∧ originalPathThrough outer chain path = render l := by
  cases chain with
  | nil => exact exists_names_originalPathForMapping outer path
  | cons mapping chain =>
    cases chain with
    | nil => exact exists_names_originalPathForMapping (composedMapping outer mapping) path
    | cons mapping' chain => exact exists_names_originalPathForMapping outer _

/-! ## Children -/

theorem childPath_render (hp : Names p) (hne : l ≠ [])
    (hname : slash :: name = below l) : childPath (render p) name = render (p ++ l) := by
  have happend : p ++ l ≠ [] := by simp [hne]
  unfold childPath
  rw [render_of_ne happend, below_append, hname]
  by_cases hempty : p = []
  · rw [hempty, render_nil, if_pos rfl, below_nil, List.nil_append]
  · rw [if_neg (mt (render_eq_root hp).1 hempty), render_of_ne hempty]

/-- Only names make a child whose path is that of a list of names. -/
theorem exists_names_of_childPath (hp : Names p) (hl : Names l) (hname : name ≠ [])
    (h : childPath (render p) name = render l) :
    ∃ rel, Names rel ∧ rel ≠ [] ∧ slash :: name = below rel := by
  have hne : l ≠ [] := by
    rintro rfl
    unfold childPath at h
    rw [render_nil] at h
    split at h
    · injection h with _ hnil
      exact hname hnil
    · rename_i hroot
      have hsize := congrArg List.length h
      have hlen : 0 < name.length := List.length_pos_iff.2 hname
      rw [List.length_append, List.length_cons, root, List.length_singleton] at hsize
      omega
  rw [render_of_ne hne] at h
  unfold childPath at h
  by_cases hempty : p = []
  · rw [hempty, render_nil, if_pos rfl] at h
    exact ⟨l, hl, hne, h⟩
  · rw [if_neg (mt (render_eq_root hp).1 hempty), render_of_ne hempty] at h
    have hpre : below p ++ [slash] <+: below l := ⟨name, by rw [← h, List.append_assoc]; rfl⟩
    obtain ⟨⟨rel, rfl⟩, -⟩ := (prefix_below_iff hp hl).1 hpre
    rw [below_append] at h
    have hrel : slash :: name = below rel := List.append_cancel_left h
    refine ⟨rel, (names_append.1 hl).2, ?_, hrel⟩
    rintro rfl
    simp at hrel

/-- When the way back takes a child of the last directory to the child of the path the
    chain was applied to. -/
theorem originalPathThrough_childPath {entryPath : QString}
    (hsteady : ∀ mapping ∈ outer :: chain, Steady mapping)
    (happlies : Applies (normalizeRemotePath path) (outer :: chain)) (hname : name ≠ [])
    (hentry : entryPath =
      childPath (pathThrough (outer :: chain) (normalizeRemotePath path)) name) :
    originalPathThrough outer chain entryPath = childPath (normalizeRemotePath path) name ↔
      normalizeRemotePath (normalizeRemotePath path) = normalizeRemotePath path ∧
        normalizeRemotePath entryPath = entryPath ∧ InnermostAt outer chain := by
  obtain ⟨p, hp, hpath⟩ := exists_names path
  obtain ⟨m, hm⟩ := exists_moves outer
  obtain ⟨ms, hms⟩ := exists_moves_chain chain
  have hmoves : List.Forall₂ Moves (outer :: chain) (m :: ms) := .cons hm hms
  obtain ⟨hfirst, hsettles⟩ := List.forall_mem_cons.1 (settles_chain hmoves hsteady)
  obtain ⟨hlast, hq⟩ := pathThrough_render hmoves hp
  rw [hpath] at happlies hentry ⊢
  rw [hlast] at hentry
  by_cases hrel : ∃ rel, Names rel ∧ rel ≠ [] ∧ slash :: name = below rel
  · obtain ⟨rel, hrel, hne, hbelow⟩ := hrel
    have hall := names_append.2 ⟨hq, hrel⟩
    rw [childPath_render hq hne hbelow] at hentry
    obtain ⟨hback, hback'⟩ := originalPathThrough_render hm hms hfirst hsettles hall
    have hiff := rebaseAlong_eq_iff ((fits_iff hmoves hp).2 happlies)
      (settles_chain hmoves hsteady) hne
    rw [hentry, hback, childPath_render hp hne hbelow, ← settled_iff hp, ← settled_iff hall,
      settled_append hne, ← innermostBelow_iff hm hms, ← hiff]
    constructor
    · exact fun h => render_injective hback' (names_append.2 ⟨hp, hrel⟩) h
    · exact fun h => by rw [h]
  · constructor
    · intro h
      obtain ⟨l, hl, hback⟩ := exists_names_originalPathThrough outer chain entryPath
      rw [hback] at h
      exact absurd (exists_names_of_childPath hp hl hname h.symm) hrel
    · rintro ⟨-, hnormal, -⟩
      obtain ⟨l, hl, hentry'⟩ := exists_names entryPath
      rw [hnormal, hentry] at hentry'
      exact absurd (exists_names_of_childPath hq hl hname hentry') hrel

end

/-! ## Listings -/

/-- A listing of the client that was found through a chain of mappings, or without one. -/
abbrev ListedThrough (tables : CaseTables)
    (es : List (Event (dfs DelegateCall (List RemoteFileEntry)))) (connection : Connection)
    (path : QString) (chain : List DfsPathMapping) (listing : Result (List RemoteFileEntry))
    (entries : List RemoteFileEntry) : Prop :=
  FoundThrough tables .listDirectory rebaseEntriesToOriginalNamespace es connection path chain
    listing entries

/-- The chain leads an entry back: the requested path and the path of the entry stay as
    they are when they are normalised again, and the innermost mapping starts at or below
    the target prefix of the mapping it is nested in. -/
def LeadsBack (path : QString) (entry : RemoteFileEntry) : List DfsPathMapping → Prop
  | [] => True
  | outer :: chain => normalizeRemotePath path = path ∧
    normalizeRemotePath entry.remotePath = entry.remotePath ∧ InnermostAt outer chain

namespace NestedReferral

/-- The directory that is requested. -/
def requested : QString := qStringLiteral "/docs/x"

/-- The mapping of the root server. -/
def outer : DfsPathMapping where
  connectionKey := cacheKey asciiTables (server "root")
  originalPrefix := qStringLiteral "/docs"
  targetConnection := server "mid"
  targetPrefix := qStringLiteral "/data/docs"
  expiresAtUtc := none

/-- The mapping of the middle server. -/
def inner : DfsPathMapping where
  connectionKey := cacheKey asciiTables (server "mid")
  originalPrefix := qStringLiteral "/data"
  targetConnection := server "leaf"
  targetPrefix := root
  expiresAtUtc := none

/-- The entry of the leaf server. -/
def leafEntry : RemoteFileEntry :=
  { name := qStringLiteral "f", remotePath := qStringLiteral "/docs/x/f" }

set_option maxRecDepth 10000 in
theorem listedThrough_served :
    ListedThrough asciiTables served.1 (server "root") (normalizeRemotePath requested)
      [outer, inner] (.success [leafEntry]) served.2.1.value := by
  refine ⟨⟨⟨served.1.dropLast, rfl⟩, rfl⟩, ⟨⟨served.1.get ⟨3, by decide⟩, List.get_mem _ _, ?_⟩⟩,
    ⟨⟨⟨served.1.get ⟨9, by decide⟩, List.get_mem _ _, ?_⟩⟩, by decide, trivial⟩, rfl⟩
  · exact List.mem_singleton_self outer
  · exact List.mem_singleton_self inner

theorem applies_chain : Applies (normalizeRemotePath requested) [outer, inner] :=
  ⟨by decide, by decide, trivial⟩

theorem steady_chain : ∀ mapping ∈ [outer, inner], Steady mapping := by
  have houter : Steady outer := ⟨by decide, by decide⟩
  have hinner : Steady inner := ⟨by decide, by decide⟩
  simp [houter, hinner]

end NestedReferral

end SmbBrowser.Dfs
