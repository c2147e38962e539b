import Mathlib.Data.List.Basic
import Mathlib.Data.List.Infix

/-!
# Trees of named objects

A file system as a partial map from paths, lists of names, to objects.

Results:
* `Rooted.nothingBelow`: nothing lies below a path without an object that holds others;
* `Rooted.erase`, `Rooted.set`, `Rooted.move`: changes that keep a tree;
* `Prunes`: objects that went from a part of the tree, and nothing else changed.
-/

namespace SmbBrowser.Base

/-- The objects of a file system by their paths. -/
abbrev FileTree (N O : Type) := List N → Option O

namespace FileTree

variable {N O : Type}

/-- The tree with another object at a path. -/
def set [DecidableEq N] (tree : FileTree N O) (path : List N) (object : O) : FileTree N O :=
  fun q => if q = path then some object else tree q

/-- The tree without the object at a path. -/
def erase [DecidableEq N] (tree : FileTree N O) (path : List N) : FileTree N O :=
  fun q => if q = path then none else tree q

/-- No object lies strictly below the path. -/
def NothingBelow (tree : FileTree N O) (path : List N) : Prop :=
  ∀ q, path <+: q → q ≠ path → tree q = none

/-- Nothing is left at the path or below it. -/
def Gone (tree : FileTree N O) (path : List N) : Prop := ∀ q, path <+: q → tree q = none

/-- The place of the path is in an object that holds others. -/
def HasParent (holds : O → Prop) (tree : FileTree N O) (path : List N) : Prop :=
  ∀ parent name, path = parent ++ [name] → ∃ object, tree parent = some object ∧ holds object

/-- The tree with what is at a path and below it at another path, in place of what was
    there. -/
def move [DecidableEq N] (tree : FileTree N O) (source target : List N) : FileTree N O := fun q =>
  if target <+: q then tree (source ++ q.drop target.length)
  else if source <+: q then none else tree q

/-- Every object lies in one that holds others. -/
def Rooted (holds : O → Prop) (tree : FileTree N O) : Prop :=
  ∀ path name, tree (path ++ [name]) ≠ none → ∃ object, tree path = some object ∧ holds object

section

variable [DecidableEq N] {tree : FileTree N O} {path q : List N} {object : O}

@[simp] theorem set_self : tree.set path object path = some object := if_pos rfl

@[simp] theorem set_of_ne (h : q ≠ path) : tree.set path object q = tree q := if_neg h

@[simp] theorem erase_self : tree.erase path path = none := if_pos rfl

@[simp] theorem erase_of_ne (h : q ≠ path) : tree.erase path q = tree q := if_neg h

theorem set_eq_self (h : tree path = some object) : tree.set path object = tree := by
  funext q
  by_cases hself : q = path
  · rw [hself, set_self, h]
  · rw [set_of_ne hself]

@[simp] theorem set_set {object' : O} :
    (tree.set path object).set path object' = tree.set path object' := by
  funext q
  by_cases hself : q = path
  · rw [hself, set_self, set_self]
  · rw [set_of_ne hself, set_of_ne hself, set_of_ne hself]

theorem erase_eq_self (h : tree path = none) : tree.erase path = tree := by
  funext q
  by_cases hself : q = path
  · rw [hself, erase_self, h]
  · rw [erase_of_ne hself]

@[simp] theorem set_erase : (tree.erase path).set path object = tree.set path object := by
  funext q
  by_cases hself : q = path
  · rw [hself, set_self, set_self]
  · rw [set_of_ne hself, set_of_ne hself, erase_of_ne hself]

@[simp] theorem erase_set : (tree.set path object).erase path = tree.erase path := by
  funext q
  by_cases hq : q = path
  · rw [hq, erase_self, erase_self]
  · rw [erase_of_ne hq, erase_of_ne hq, set_of_ne hq]

@[simp] theorem erase_erase : (tree.erase path).erase path = tree.erase path :=
  erase_eq_self erase_self

theorem move_self : tree.move path path = tree := by
  funext q
  rw [move]
  split
  · rename_i hq
    obtain ⟨rest, rfl⟩ := hq
    rw [List.drop_left]
  · rfl

theorem move_target {source target : List N} : tree.move source target target = tree source := by
  rw [move, if_pos (List.prefix_refl _), List.drop_length, List.append_nil]

theorem move_source {source target : List N} (hne : source ≠ target)
    (hbelow : NothingBelow tree source) : tree.move source target source = none := by
  rw [move]
  split
  · rename_i htarget
    obtain ⟨rest, rfl⟩ := htarget
    rw [List.drop_left]
    refine hbelow _ (List.prefix_append _ _) fun hself => hne ?_
    rw [List.append_right_eq_self.1 hself, List.append_nil]
  · rw [if_pos (List.prefix_refl _)]

/-- An object with nothing below it leaves nothing behind. -/
theorem NothingBelow.gone_erase (h : NothingBelow tree path) : Gone (tree.erase path) path := by
  intro q hq
  by_cases hself : q = path
  · rw [hself, erase_self]
  · rw [erase_of_ne hself]
    exact h q hq hself

end

variable {tree tree' tree'' : FileTree N O} {holds : O → Prop} {path path' q : List N}

theorem NothingBelow.gone (h : NothingBelow tree path) (hnone : tree path = none) :
    Gone tree path := by
  intro q hq
  by_cases hself : q = path
  · rw [hself, hnone]
  · exact h q hq hself

/-- What lies below a path lies in one of its children. -/
theorem Rooted.exists_child (h : Rooted holds tree) (hq : tree q ≠ none) (hstart : path <+: q)
    (hne : q ≠ path) : ∃ name, path ++ [name] <+: q ∧ tree (path ++ [name]) ≠ none := by
  obtain ⟨rest, rfl⟩ := hstart
  induction rest using List.reverseRecOn with
  | nil => exact absurd (List.append_nil path) hne
  | append_singleton rest last ih =>
    rw [← List.append_assoc] at hq ⊢
    cases rest with
    | nil =>
      rw [List.append_nil] at hq ⊢
      exact ⟨last, List.prefix_rfl, hq⟩
    | cons name rest =>
      obtain ⟨object, hobject, -⟩ := h _ _ hq
      have hparent : tree (path ++ name :: rest) ≠ none := by rw [hobject]; simp
      obtain ⟨child, hchild, hsome⟩ := ih hparent (by simp)
      exact ⟨child, hchild.trans (List.prefix_append _ _), hsome⟩

theorem Rooted.hasParent (h : Rooted holds tree) (hpath : tree path ≠ none) :
    HasParent holds tree path := by
  rintro parent name rfl
  exact h parent name hpath

/-- Nothing lies below a path without an object, or with one that holds no others. -/
theorem Rooted.nothingBelow (h : Rooted holds tree) (hpath : ∀ object ∈ tree path, ¬ holds object) :
    NothingBelow tree path := by
  intro q hstart hne
  by_contra hq
  obtain ⟨name, -, hchild⟩ := h.exists_child hq hstart hne
  obtain ⟨object, hobject, hholds⟩ := h path name hchild
  exact hpath object hobject hholds

theorem Rooted.erase [DecidableEq N] (h : Rooted holds tree) (hbelow : NothingBelow tree path) :
    Rooted holds (tree.erase path) := by
  intro parent name hsome
  by_cases hself : parent ++ [name] = path
  · rw [hself, erase_self] at hsome
    exact absurd rfl hsome
  · rw [erase_of_ne hself] at hsome
    have hparent : parent ≠ path := by
      rintro rfl
      exact hsome (hbelow _ (List.prefix_append _ _) (by simp))
    rw [erase_of_ne hparent]
    exact h parent name hsome

theorem Rooted.set [DecidableEq N] {object : O} (h : Rooted holds tree)
    (hparent : HasParent holds tree path) (hbelow : holds object ∨ NothingBelow tree path) :
    Rooted holds (tree.set path object) := by
  intro parent name hsome
  by_cases hself : parent ++ [name] = path
  · obtain ⟨other, hother, hholds⟩ := hparent parent name hself.symm
    have hne : parent ≠ path := by
      rintro rfl
      simp at hself
    exact ⟨other, by rw [set_of_ne hne, hother], hholds⟩
  · rw [set_of_ne hself] at hsome
    by_cases hat : parent = path
    · subst hat
      obtain hholds | hnone := hbelow
      · exact ⟨object, set_self, hholds⟩
      · exact absurd (hnone _ (List.prefix_append _ _) (by simp)) hsome
    · rw [set_of_ne hat]
      exact h parent name hsome

theorem Rooted.move [DecidableEq N] {source target : List N} (h : Rooted holds tree)
    (hapart : ¬ source <+: target) (hparent : HasParent holds tree target) :
    Rooted holds (tree.move source target) := by
  intro parent name hsome
  have houtside : ∀ {q}, ¬ target <+: q → ¬ source <+: q → tree.move source target q = tree q :=
    fun ht hs => by rw [FileTree.move, if_neg ht, if_neg hs]
  by_cases hinside : target <+: parent
  · obtain ⟨rest, rfl⟩ := hinside
    have hat : ∀ q, tree.move source target (target ++ q) = tree (source ++ q) := by
      intro q
      rw [FileTree.move, if_pos (List.prefix_append _ _), List.drop_left]
    rw [List.append_assoc, hat, ← List.append_assoc] at hsome
    rw [hat]
    exact h _ _ hsome
  · by_cases hself : target = parent ++ [name]
    · subst hself
      obtain ⟨other, hother, hholds⟩ := hparent parent name rfl
      refine ⟨other, ?_, hholds⟩
      rw [houtside hinside fun hs => hapart (hs.trans (List.prefix_append _ _)), hother]
    · have ht : ¬ target <+: parent ++ [name] := by
        intro ht
        obtain hsame | hbelow := List.prefix_concat_iff.1 ht
        · exact hself (by rw [hsame])
        · exact hinside hbelow
      have hs : ¬ source <+: parent ++ [name] := by
        intro hs
        rw [FileTree.move, if_neg ht, if_pos hs] at hsome
        exact hsome rfl
      rw [houtside ht hs] at hsome
      rw [houtside hinside fun hs' => hs (hs'.trans (List.prefix_append _ _))]
      exact h _ _ hsome

/-! ## Pruning -/

/-- The objects that are no longer there were in a part of the tree, and the others are as
    they were. -/
def Prunes (part : List N → Prop) (tree tree' : FileTree N O) : Prop :=
  ∀ q, tree' q = tree q ∨ part q ∧ tree' q = none

variable {part part' : List N → Prop}

theorem Prunes.refl (part : List N → Prop) (tree : FileTree N O) : Prunes part tree tree :=
  fun _ => .inl rfl

theorem Prunes.trans (h : Prunes part tree tree') (h' : Prunes part tree' tree'') :
    Prunes part tree tree'' := by
  intro q
  obtain hsame' | hgone := h' q
  · rw [hsame']
    exact h q
  · exact .inr hgone

theorem Prunes.mono (h : Prunes part' tree tree') (hpart : ∀ q, part' q → part q) :
    Prunes part tree tree' := by
  intro q
  obtain hsame | ⟨hq, hnone⟩ := h q
  · exact .inl hsame
  · exact .inr ⟨hpart q hq, hnone⟩

theorem prunes_erase [DecidableEq N] (tree : FileTree N O) (path : List N) :
    Prunes (path <+: ·) tree (tree.erase path) := by
  intro q
  by_cases hself : q = path
  · rw [hself]
    exact .inr ⟨List.prefix_rfl, erase_self⟩
  · exact .inl (erase_of_ne hself)

/-- What was not there is not there afterwards. -/
theorem Prunes.none (h : Prunes part tree tree') (hq : tree q = none) : tree' q = none := by
  obtain hsame | ⟨-, hnone⟩ := h q
  · rw [hsame, hq]
  · exact hnone

theorem Prunes.gone (h : Prunes part tree tree') (hgone : Gone tree path) : Gone tree' path :=
  fun q hq => h.none (hgone q hq)

/-- An object that is there afterwards is the one that was there. -/
theorem Prunes.some {object : O} (h : Prunes part tree tree') (hq : tree' q = some object) :
    tree q = some object := by
  obtain hsame | ⟨-, hnone⟩ := h q
  · rw [← hsame, hq]
  · rw [hq] at hnone
    cases hnone

/-- A tree without a part that is gone as a whole. -/
theorem Rooted.prunes (h : Rooted holds tree) (hprunes : Prunes part tree tree')
    (hgone : ∀ q, part q → Gone tree' q) : Rooted holds tree' := by
  intro parent name hsome
  obtain ⟨child, hchild⟩ := Option.ne_none_iff_exists'.1 hsome
  have hbefore : tree (parent ++ [name]) ≠ Option.none := by
    rw [hprunes.some hchild]
    simp
  obtain ⟨object, hobject, hholds⟩ := h parent name hbefore
  obtain hsame | ⟨hpart, -⟩ := hprunes parent
  · exact ⟨object, hsame.trans hobject, hholds⟩
  · exact absurd (hgone parent hpart _ (List.prefix_append _ _)) hsome

end FileTree

end SmbBrowser.Base
