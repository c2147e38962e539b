import Mathlib.Data.Multiset.DershowitzManna

/-!
# Breadth-first traversal with a queue

A queue holds nodes with their depth.  The node in front is visited, and its children go to
the back of the queue unless it lies at the depth limit.  Nodes are not marked: a graph is
traversed as the tree of its paths.

Results:
* `visits_levels`: from a start node the queue visits one level after another;
* `queue_lt`: the queue shrinks in the multiset order, so every traversal comes to its end.
-/

namespace SmbBrowser.Base

variable {α : Type} {children : α → List α}

/-- A level and the `n` levels below it, one after another. -/
def levels (children : α → List α) : ℕ → List α → List α
  | 0, level => level
  | n + 1, level => level ++ levels children n (level.flatMap children)

/-- The nodes that are visited from a queue on, in order. -/
inductive Visits (children : α → List α) (maxDepth : ℕ) : List (α × ℕ) → List α → Prop
  | done : Visits children maxDepth [] []
  | next {x : α} {depth : ℕ} {queue : List (α × ℕ)} {visited : List α}
      (h : Visits children maxDepth
        (queue ++ if depth < maxDepth then (children x).map (·, depth + 1) else []) visited) :
      Visits children maxDepth ((x, depth) :: queue) (x :: visited)

/-- What is left of a level, and what was found of the next one. -/
theorem visits_level {maxDepth : ℕ} (n depth : ℕ) (level found : List α)
    (hdepth : depth + (n + 1) = maxDepth) {visited : List α}
    (h : Visits children maxDepth ((found ++ level.flatMap children).map (·, depth + 1)) visited) :
    Visits children maxDepth (level.map (·, depth) ++ found.map (·, depth + 1))
      (level ++ visited) := by
  induction level generalizing found with
  | nil => simpa using h
  | cons x level ih =>
    rw [List.map_cons, List.cons_append, List.cons_append]
    refine .next ?_
    rw [if_pos (by omega), List.append_assoc, ← List.map_append]
    refine ih (found ++ children x) ?_
    rwa [List.append_assoc, ← List.flatMap_cons]

theorem visits_last {maxDepth : ℕ} (level : List α) :
    Visits children maxDepth (level.map (·, maxDepth)) level := by
  induction level with
  | nil => exact .done
  | cons x level ih =>
    refine .next ?_
    rwa [if_neg (lt_irrefl _), List.append_nil]

/-- A queue that holds one level visits it and the levels below it in turn. -/
theorem visits_levels {maxDepth : ℕ} (n depth : ℕ) (level : List α)
    (hdepth : depth + n = maxDepth) :
    Visits children maxDepth (level.map (·, depth)) (levels children n level) := by
  induction n generalizing depth level with
  | zero =>
    obtain rfl : depth = maxDepth := hdepth
    exact visits_last level
  | succ n ih =>
    have hbelow := ih (depth + 1) (level.flatMap children) (by omega)
    have hlevel := visits_level n depth level [] hdepth (by simpa using hbelow)
    rw [levels]
    simpa using hlevel

/-- Work in front of a queue that is replaced by less work behind it. -/
theorem queue_lt {work : ℕ} {queue added : List ℕ} (h : ∀ w ∈ added, w < work) :
    Multiset.IsDershowitzMannaLT (↑(queue ++ added) : Multiset ℕ) (↑(work :: queue)) := by
  refine ⟨↑queue, ↑added, {work}, Multiset.singleton_ne_zero work, rfl, ?_, ?_⟩
  · rw [add_comm]
    rfl
  · intro w hw
    exact ⟨work, Multiset.mem_singleton_self work, h w hw⟩

end SmbBrowser.Base
