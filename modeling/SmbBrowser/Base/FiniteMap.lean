import Mathlib.Data.List.Induction
import Mathlib.Logic.Function.Basic

/-!
# Changes of a finite map

A change says what a map has under one key afterwards: a value, or nothing.

Results:
* `after_append`: the changes of two lists, one after the other;
* `after_of_forall_ne`: changes under other keys are not seen under a key;
* `after_eq_some_iff`: what a map has is what was last stored, unless it was removed.
-/

namespace SmbBrowser.Base.FiniteMap

variable {κ ν : Type}

/-- What a map has after an update is what was stored, or what it had under another key. -/
theorem update_eq_some [DecidableEq κ] {m : κ → Option ν} {key key' : κ} {entry : Option ν}
    {value : ν} (h : Function.update m key entry key' = some value) :
    (key' = key ∧ entry = some value) ∨ (key' ≠ key ∧ m key' = some value) := by
  by_cases hkey : key' = key
  · subst hkey
    rw [Function.update_self] at h
    exact Or.inl ⟨rfl, h⟩
  · rw [Function.update_of_ne hkey] at h
    exact Or.inr ⟨hkey, h⟩

/-- A change under `key`: to `value`, or to nothing. -/
structure Change (κ ν : Type) where
  key : κ
  value : Option ν

variable [DecidableEq κ]

/-- The map after one change. -/
def apply (m : κ → Option ν) (change : Change κ ν) : κ → Option ν :=
  Function.update m change.key change.value

/-- The map after a list of changes. -/
def after (m : κ → Option ν) (changes : List (Change κ ν)) : κ → Option ν :=
  changes.foldl apply m

section

variable {m : κ → Option ν} {change : Change κ ν} {changes changes' : List (Change κ ν)} {key : κ}

@[simp] theorem after_nil : after m [] = m := rfl

@[simp] theorem after_cons : after m (change :: changes) = after (apply m change) changes := rfl

theorem after_append : after m (changes ++ changes') = after (after m changes) changes' :=
  List.foldl_append

theorem apply_of_ne (h : key ≠ change.key) : apply m change key = m key :=
  Function.update_of_ne h _ _

theorem apply_self : apply m change change.key = change.value := Function.update_self _ _ _

/-- Changes under other keys are not seen under a key. -/
theorem after_of_forall_ne (h : ∀ change ∈ changes, change.key ≠ key) :
    after m changes key = m key := by
  induction changes generalizing m with
  | nil => rfl
  | cons change changes ih =>
    obtain ⟨hchange, hchanges⟩ := List.forall_mem_cons.1 h
    rw [after_cons, ih hchanges, apply_of_ne hchange.symm]

/-- What a map has is what was last stored, unless it was removed. -/
theorem after_eq_some_iff {value : ν} :
    after (fun _ => none) changes key = some value ↔
      ∃ before rest, changes = before ++ ⟨key, some value⟩ :: rest ∧
        ∀ change ∈ rest, change.key ≠ key := by
  constructor
  · intro h
    induction changes using List.reverseRecOn with
    | nil => exact absurd h (Option.some_ne_none value).symm
    | append_singleton changes change ih =>
      rw [after_append, after_cons, after_nil] at h
      by_cases hkey : change.key = key
      · subst hkey
        rw [apply_self] at h
        refine ⟨changes, [], ?_, fun _ hmem => absurd hmem List.not_mem_nil⟩
        rw [← h]
      · rw [apply_of_ne (Ne.symm hkey)] at h
        obtain ⟨before, rest, rfl, hrest⟩ := ih h
        refine ⟨before, rest ++ [change], by simp, ?_⟩
        intro change' hmem
        rcases List.mem_append.1 hmem with hmem | hmem
        · exact hrest change' hmem
        · exact List.mem_singleton.1 hmem ▸ hkey
  · rintro ⟨before, rest, rfl, hrest⟩
    rw [after_append, after_cons, after_of_forall_ne hrest]
    exact apply_self

end

end SmbBrowser.Base.FiniteMap
