import Mathlib.Data.List.Perm.Subperm
import SmbBrowser.Core.SecretOverlaps

/-!
# Secrets that overlap the mask

The mask of one secret can be taken for a part of another one (core/LogSanitizer.cpp:30).
Where secrets do not overlap each other but one overlaps the mask, the message is what is
missing around a mask to make that secret, with another secret in the place of the mask.

Results:
* `eq_of_occurs`: no other secret is in that message;
* `overlapFree_of_sanitizes`: secrets that are masked do not overlap the mask;
* `replaceSecrets_sanitizes`: when secrets are masked whole and in any order.
-/

namespace SmbBrowser.Core.LogSanitizer

open SmbBrowser.Base SmbBrowser.Qt

variable {values secrets : List QString} {s t u x y z : QString}

/-! ## Stars -/

/-- Nothing but characters of the mask. -/
def AllStars (s : QString) : Prop := ∀ c ∈ s, c = star

theorem allStars_mask : AllStars mask := fun c hc => by
  have hmask : mask = [star, star, star] := by decide
  rw [hmask] at hc
  simpa using hc

theorem AllStars.append (hx : AllStars x) (hy : AllStars y) : AllStars (x ++ y) := fun c hc =>
  (List.mem_append.1 hc).elim (hx c) (hy c)

theorem AllStars.subset (hx : AllStars x) (hy : y ⊆ x) : AllStars y := fun c hc => hx c (hy hc)

theorem clear_of_allStars (hx : AllStars x) (h : ∀ w ∈ secrets, ¬AllStars w) :
    ∀ j < x.length, ∀ w ∈ secrets, ¬w <+: (x.map id).drop j := by
  intro j _ w hw hstarts
  rw [List.map_id] at hstarts
  exact h w hw (hx.subset fun c hc => List.mem_of_mem_drop (hstarts.subset hc))

theorem allStars_two : AllStars [star, star] := fun c hc => by simpa using hc

theorem length_mask : mask.length = 3 := by decide

theorem replaceWord_of_allStars (hx : AllStars x) (hu : ¬AllStars u) :
    replaceWord id mask u x = x :=
  replaceWord_of_clear fun j hj =>
    clear_of_allStars hx (fun _ hw => List.mem_singleton.1 hw ▸ hu) j hj u List.mem_cons_self

/-- Of the secrets that do not overlap themselves only one is made of stars. -/
theorem eq_star_of_allStars (hsep : Separate secrets) (hs : s ∈ secrets) (hne : s ≠ [])
    (h : AllStars s) : s = [star] := by
  obtain ⟨n, rfl⟩ : ∃ n, s = List.replicate n star := ⟨_, List.eq_replicate_of_mem h⟩
  have hpos := List.length_pos_iff.2 hne
  rw [List.length_replicate] at hpos
  by_contra hlong
  have htwo : 1 < n := by
    by_contra hshort
    rw [(by omega : n = 1)] at hlong
    exact hlong rfl
  refine absurd (hsep _ hs _ hs 1 ⟨by rwa [List.length_replicate], .inl ?_⟩).1 Nat.one_ne_zero
  rw [List.drop_replicate]
  exact List.prefix_replicate_iff.2 ⟨by rw [List.length_replicate]; omega, by
    rw [List.length_replicate]⟩

theorem not_starts_stars {n : ℕ} (hn : 0 < n) (h : ¬AllStars u) :
    ¬u <+: List.replicate n star ++ u := by
  intro hstarts
  obtain ⟨r, hr⟩ := hstarts
  have hall : ∀ (i : ℕ) (c : QChar), u[i]? = some c → c = star := by
    intro i
    induction i using Nat.strong_induction_on with
    | _ i ih =>
      intro c hc
      have hget : (u ++ r)[i]? = some c := by
        rw [List.getElem?_append_left (List.getElem?_eq_some_iff.1 hc).1, hc]
      rw [hr] at hget
      rcases Nat.lt_or_ge i n with hlt | hge
      · rw [List.getElem?_append_left (by rwa [List.length_replicate]),
          List.getElem?_replicate, if_pos hlt] at hget
        exact (Option.some.inj hget).symm
      · rw [List.getElem?_append_right (by rwa [List.length_replicate]),
          List.length_replicate] at hget
        exact ih (i - n) (by omega) c hget
  refine h fun c hc => ?_
  obtain ⟨i, hi⟩ := List.mem_iff_getElem?.1 hc
  exact hall i c hi

/-! ## A secret in the place of the mask -/

/-- Between less than `u` and less than `u` there is no secret but `t`. -/
theorem eq_of_occurs (hsep : Separate secrets) (hu : u ∈ secrets) (ht : t ∈ secrets)
    (hz : z ∈ secrets) (hne : z ≠ []) (hx : x <+: u) (hxlt : x.length < u.length)
    (hy : y <:+ u) (hylt : y.length < u.length) {p : ℕ}
    (hocc : z <+: (x ++ (t ++ y)).drop p) : p = x.length ∧ z = t := by
  have hts : t <+: (x ++ (t ++ y)).drop x.length := by
    rw [List.drop_left]
    exact List.prefix_append t y
  rcases Nat.lt_or_ge p x.length with hp | hp
  · rcases Nat.lt_or_ge x.length (p + z.length) with hlong | hshort
    · -- it would start in front of `t` and reach into it
      have := (hsep z hz t ht _ (overlapsAt_of_occur hocc hts hp.le hlong)).1
      omega
    · -- it would be inside `x`, which is inside `u`
      rw [List.drop_append_of_le_length hp.le] at hocc
      have hin : z <+: x.drop p := List.prefix_of_prefix_length_le hocc (List.prefix_append _ _)
        (by rw [List.length_drop]; omega)
      obtain ⟨rfl, rfl⟩ := hsep u hu z hz p ⟨by omega, .inr (hin.trans (hx.drop p))⟩
      omega
  rcases Nat.lt_or_ge p (x.length + t.length) with hlt | hge
  · obtain ⟨hzero, rfl⟩ := hsep t ht z hz _ (overlapsAt_of_occur hts hocc hp hlt)
    exact ⟨by omega, rfl⟩
  · -- it would be inside `y`
    obtain ⟨q, rfl⟩ := Nat.exists_eq_add_of_le hge
    rw [← List.append_assoc, ← List.length_append, ← List.drop_drop, List.drop_left,
      List.suffix_iff_eq_drop.1 hy, List.drop_drop] at hocc
    have hlength := hocc.length_le
    have hpos := List.length_pos_iff.2 hne
    rw [List.length_drop] at hlength
    have := (hsep u hu z hz _ ⟨by omega, .inr hocc⟩).1
    omega

/-- Where `u` is taken for stars as soon as a mask stands between `x` and `y`, the message with
    `t` in its place shows which of the two came first. -/
theorem false_of_starred (h : Sanitizes values) (hsep : Separate (registered values).secretValues)
    (hmixed : ∀ w ∈ (registered values).secretValues, ¬AllStars w)
    (hu : u ∈ (registered values).secretValues) (ht : t ∈ (registered values).secretValues)
    (hne : u ≠ t) (hx : x <+: u) (hxlt : x.length < u.length) (hy : y <:+ u)
    (hylt : y.length < u.length)
    (hstars : AllStars (replaceWord id mask u (x ++ (mask ++ y))))
    (hrest : ¬AllStars (x ++ (mask ++ y))) : False := by
  have hoccurs : ∀ z ∈ (registered values).secretValues, ∀ p,
      z <+: (x ++ (t ++ y)).drop p → p = x.length ∧ z = t := fun z hz p =>
    eq_of_occurs hsep hu ht hz (registered_ne_nil hz) hx hxlt hy hylt
  have htpos := List.length_pos_iff.2 (registered_ne_nil ht)
  have hword : replaceWord id mask t (x ++ (t ++ y)) = x ++ (mask ++ y) := by
    rw [replaceWord_append_of_clear, replaceWord_self (registered_ne_nil ht), replaceWord_of_clear]
    · intro j hj hstarts
      rw [List.map_id] at hstarts
      have := (hoccurs t ht ((x ++ t).length + j) (by
        rwa [← List.append_assoc, ← List.drop_drop, List.drop_left])).1
      rw [List.length_append] at this
      omega
    · intro j hj hstarts
      rw [List.map_id] at hstarts
      have := (hoccurs t ht j hstarts).1
      omega
  have hothers : replaceEach id mask ((registered values).secretValues.erase t)
      (x ++ (t ++ y)) = x ++ (t ++ y) := by
    refine replaceEach_of_clear fun j _ z hz hstarts => ?_
    rw [List.map_id] at hstarts
    rw [(registered_split values).1.mem_erase_iff] at hz
    exact hz.1 (hoccurs z hz.2 j hstarts).2
  have heq := h.replaceEach_eq (perm_two ht hu hne) (perm_last ht) (x ++ (t ++ y))
  rw [replaceEach_cons, replaceEach_cons, hword, replaceEach_of_clear
    (clear_of_allStars hstars fun w hw =>
      hmixed w (List.mem_of_mem_erase (List.mem_of_mem_erase hw))),
    replaceEach_append, hothers, replaceEach_cons, hword] at heq
  rw [heq] at hstars
  exact hrest hstars

/-- The mask as a secret: a secret is three stars if it comes first, and nine if the star
    comes after it. -/
theorem false_of_star (h : Sanitizes values) (hsep : Separate (registered values).secretValues)
    (hstar : [star] ∈ (registered values).secretValues)
    (ht : t ∈ (registered values).secretValues) (hne : t ≠ [star]) : False := by
  have hnodup := (registered_split values).1
  have hno : ∀ w ∈ (registered values).secretValues, w ≠ [star] → star ∉ w := by
    intro w hw hw' hin
    obtain ⟨a, b, rfl⟩ := List.append_of_mem hin
    refine hw' (hsep _ hw _ hstar a.length ⟨?_, .inr ?_⟩).2
    · rw [List.length_append, List.length_cons]
      omega
    · rw [List.drop_left]
      exact List.prefix_append [star] b
  have hmixed : ∀ w ∈ (registered values).secretValues, w ≠ [star] → ¬AllStars w := by
    intro w hw hw' hall
    obtain ⟨c, w', rfl⟩ := List.exists_cons_of_ne_nil (registered_ne_nil hw)
    exact hno _ hw hw' (hall c List.mem_cons_self ▸ List.mem_cons_self)
  have hself := replaceWord_secret (registered_ne_nil ht)
  have hnone : replaceWord id mask [star] t = t := by
    refine replaceWord_of_clear fun j _ hstarts => hno t ht hne ?_
    rw [List.map_id] at hstarts
    exact List.mem_of_mem_drop (hstarts.subset List.mem_cons_self)
  have hnine : replaceWord id mask [star] mask = mask ++ (mask ++ mask) := by decide
  have heq := h.replaceEach_eq (perm_two ht hstar hne.symm) (perm_two hstar ht hne) t
  rw [replaceEach_cons, replaceEach_cons, hself, hnine, replaceEach_of_clear, replaceEach_cons,
    replaceEach_cons, hnone, hself, replaceEach_of_clear] at heq
  · exact absurd heq (by decide)
  · refine clear_of_allStars allStars_mask fun w hw => ?_
    have hw := List.mem_of_mem_erase hw
    rw [hnodup.mem_erase_iff] at hw
    exact hmixed w hw.2 hw.1
  · refine clear_of_allStars (allStars_mask.append (allStars_mask.append allStars_mask))
      fun w hw => ?_
    rw [(hnodup.erase t).mem_erase_iff] at hw
    exact hmixed w (List.mem_of_mem_erase hw.2) hw.1

/-! ## Secrets that overlap the mask -/

/-- Such a secret ends with a star, starts with one or holds the mask. -/
theorem star_of_overlaps (hne : u ≠ []) (h : ¬OverlapFree u mask) :
    (∃ x, u = x ++ [star]) ∨ (∃ y, u = star :: y) ∨ ∃ x y, u = x ++ (mask ++ y) := by
  rw [OverlapFree, not_forall] at h
  obtain ⟨k, h⟩ := h
  rw [not_and_or, not_not, not_not] at h
  rcases h with ⟨hk, hends | hholds⟩ | ⟨hk, hstarts⟩
  · refine .inl ⟨u.dropLast, ?_⟩
    have hdrop : u.drop k ≠ [] := by
      rw [← List.length_pos_iff, List.length_drop]
      omega
    have hlast : u.getLast hne = star := by
      rw [← List.getLast_drop hdrop]
      exact allStars_mask _ (hends.subset (List.getLast_mem hdrop))
    rw [← hlast, List.dropLast_append_getLast]
  · obtain ⟨y, hy⟩ := hholds
    refine .inr (.inr ⟨u.take k, y, ?_⟩)
    rw [hy, List.take_append_drop]
  · obtain ⟨c, u, rfl⟩ := List.exists_cons_of_ne_nil hne
    refine .inr (.inl ⟨u, ?_⟩)
    have hc : c ∈ mask.drop k := by
      rcases hstarts with hstarts | hstarts
      · obtain ⟨d, m, hm⟩ := List.exists_cons_of_ne_nil
          (List.length_pos_iff.1 (by rw [List.length_drop]; omega : 0 < (mask.drop k).length))
        rw [hm] at hstarts ⊢
        rw [(List.cons_prefix_cons.1 hstarts).1]
        exact List.mem_cons_self
      · exact hstarts.subset List.mem_cons_self
    rw [allStars_mask c (List.mem_of_mem_drop hc)]

theorem exists_ne_of_one_lt (h : 1 < (registered values).secretValues.length) (s : QString) :
    ∃ t ∈ (registered values).secretValues, t ≠ s := by
  by_contra hnone
  have hall : (registered values).secretValues ⊆ [s] := fun t ht => by
    by_contra hne
    exact hnone ⟨t, ht, fun heq => hne (heq ▸ List.mem_cons_self)⟩
  have hle := (List.subperm_of_subset (registered_split values).1 hall).length_le
  rw [List.length_singleton] at hle
  omega

theorem overlapFree_of_sanitizes (h : Sanitizes values)
    (hsep : Separate (registered values).secretValues)
    (hu : u ∈ (registered values).secretValues) (ht : t ∈ (registered values).secretValues)
    (hne : u ≠ t) : OverlapFree u mask := by
  by_contra hover
  have hmixed : ∀ w ∈ (registered values).secretValues, ¬AllStars w := by
    intro w hw hall
    have hw' := eq_star_of_allStars hsep hw (registered_ne_nil hw) hall
    rw [hw'] at hw
    by_cases hustar : u = [star]
    · exact false_of_star h hsep hw ht (hustar ▸ hne.symm)
    · exact false_of_star h hsep hw hu hustar
  have hune := registered_ne_nil hu
  have humixed := hmixed u hu
  rcases star_of_overlaps hune hover with ⟨x, rfl⟩ | ⟨y, rfl⟩ | ⟨x, y, rfl⟩
  · have hsplit : x ++ (mask ++ []) = x ++ [star] ++ [star, star] := by
      rw [List.append_assoc]
      rfl
    refine false_of_starred (y := []) h hsep hmixed hu ht hne (List.prefix_append _ _) ?_
      (List.nil_suffix) (List.length_pos_iff.2 hune) ?_ fun hall => humixed ?_
    · rw [List.length_append, List.length_singleton]
      omega
    · rw [hsplit, replaceWord_self hune, replaceWord_of_allStars allStars_two humixed]
      exact allStars_mask.append allStars_two
    · rw [hsplit] at hall
      exact hall.subset (List.subset_append_left _ _)
  · have hsplit : [] ++ (mask ++ y) = List.replicate 2 star ++ star :: y := rfl
    refine false_of_starred (x := []) h hsep hmixed hu ht hne List.nil_prefix
      (List.length_pos_iff.2 hune) (List.suffix_cons _ _) (Nat.lt_succ_self _) ?_
      fun hall => humixed ?_
    · rw [hsplit, replaceWord_append_of_clear, replaceWord_secret hune]
      · exact allStars_two.append allStars_mask
      · intro j hj hstarts
        rw [List.map_id] at hstarts
        rw [List.length_replicate] at hj
        rw [List.drop_append_of_le_length (by rw [List.length_replicate]; omega),
          List.drop_replicate] at hstarts
        exact not_starts_stars (by omega) humixed hstarts
    · rw [hsplit] at hall
      exact hall.subset (List.subset_append_right _ _)
  · refine false_of_starred h hsep hmixed hu ht hne (List.prefix_append _ _) ?_
      ((List.suffix_append _ _).trans (List.suffix_append _ _)) ?_ ?_ humixed
    · rw [List.length_append, List.length_append, length_mask]
      omega
    · rw [List.length_append, List.length_append, length_mask]
      omega
    · rw [replaceWord_secret hune]
      exact allStars_mask

/-! ## When secrets are masked -/

/-- Secrets that do not overlap each other or the mask are masked whole and in any order, and
    others are not, but for lists of which both a secret overlaps another one or itself and
    one overlaps the mask. -/
theorem replaceSecrets_sanitizes (values : List QString) :
    (KeepApart (registered values).secretValues → Sanitizes values) ∧
      (Sanitizes values → KeepApart (registered values).secretValues ∨
        ¬Separate (registered values).secretValues ∧
          1 < (registered values).secretValues.length ∧
          ∃ secret ∈ (registered values).secretValues, ¬OverlapFree secret mask) := by
  refine ⟨sanitizes_of_keepApart, fun h => ?_⟩
  by_cases hapart : (registered values).secretValues.length ≤ 1 ∨
      ∀ w ∈ (registered values).secretValues, OverlapFree w mask
  · exact .inl ⟨separate_of_sanitizes h hapart, hapart⟩
  rw [not_or, Nat.not_le] at hapart
  obtain ⟨hmany, hmask⟩ := hapart
  by_cases hsep : Separate (registered values).secretValues
  · -- every secret has another one next to it
    refine absurd (fun w hw => ?_) hmask
    obtain ⟨t, ht, hne⟩ := exists_ne_of_one_lt hmany w
    exact overlapFree_of_sanitizes h hsep hw ht hne.symm
  · exact .inr ⟨hsep, hmany, by simpa only [not_forall, exists_prop] using hmask⟩

/-- With `abc` registered before `abcdef`, the end of the longer one is left. -/
theorem not_sanitizes : ¬Sanitizes [qStringLiteral "abc", qStringLiteral "abcdef"] := fun h =>
  h.absent (qStringLiteral "abcdef") 3
    ⟨qStringLiteral "abcdef", by decide, 0, List.prefix_rfl, by decide, by decide⟩ 0x64 (by decide)

end SmbBrowser.Core.LogSanitizer
