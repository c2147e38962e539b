import Mathlib

/-!
# Eviction down to a limit

Items are looked at in an order.  As long as their total size is above a limit, an item is
evicted if it can be.

Results:
* `evicted_starts`: what is evicted are the first items that can be;
* `lt_of_evicted`: before every eviction the total is above the limit;
* `evicted_stops`: at the end the total is not above the limit, or nothing is left to evict.
-/

namespace SmbBrowser.Base

variable {α : Type} (size : α → ℤ) (removable : α → Bool) (limit : ℤ)

/-- The items that are evicted, in order. -/
def evicted : ℤ → List α → List α
  | _, [] => []
  | total, x :: items =>
    if total ≤ limit then []
    else if removable x then x :: evicted (total - size x) items
    else evicted total items

variable {size removable limit}

theorem evicted_of_le {total : ℤ} {items : List α} (h : total ≤ limit) :
    evicted size removable limit total items = [] := by
  cases items with
  | nil => rfl
  | cons x items => rw [evicted, if_pos h]

theorem evicted_starts (total : ℤ) (items : List α) :
    evicted size removable limit total items <+: items.filter removable := by
  induction items generalizing total with
  | nil => exact List.nil_prefix
  | cons x items ih =>
    rw [evicted]
    split
    · exact List.nil_prefix
    by_cases hx : removable x = true
    · rw [if_pos hx, List.filter_cons_of_pos hx]
      exact List.cons_prefix_cons.2 ⟨rfl, ih _⟩
    · rw [if_neg hx, List.filter_cons_of_neg hx]
      exact ih _

theorem lt_of_evicted {total : ℤ} {items front back : List α} {x : α}
    (h : evicted size removable limit total items = front ++ x :: back) :
    limit < total - (front.map size).sum := by
  induction items generalizing total front with
  | nil =>
    rw [evicted] at h
    exact absurd h.symm (List.append_ne_nil_of_right_ne_nil _ (List.cons_ne_nil _ _))
  | cons y items ih =>
    rw [evicted] at h
    split at h
    · exact absurd h.symm (List.append_ne_nil_of_right_ne_nil _ (List.cons_ne_nil _ _))
    next hover =>
    split at h
    · cases front with
      | nil =>
        rw [List.map_nil, List.sum_nil]
        omega
      | cons z front =>
        obtain ⟨rfl, hrest⟩ := List.cons.inj h
        have hlt := ih hrest
        rw [List.map_cons, List.sum_cons]
        omega
    · exact ih h

theorem evicted_stops (total : ℤ) (items : List α) :
    total - ((evicted size removable limit total items).map size).sum ≤ limit ∨
      evicted size removable limit total items = items.filter removable := by
  induction items generalizing total with
  | nil => exact .inr rfl
  | cons x items ih =>
    rw [evicted]
    split
    · next hunder => exact .inl (by simpa using hunder)
    by_cases hx : removable x = true
    · rw [if_pos hx, List.filter_cons_of_pos hx, List.map_cons, List.sum_cons, List.cons_inj_right]
      refine (ih (total - size x)).imp_left fun hle => ?_
      omega
    · rw [if_neg hx, List.filter_cons_of_neg hx]
      exact ih total

end SmbBrowser.Base
