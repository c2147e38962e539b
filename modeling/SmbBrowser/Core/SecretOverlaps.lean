import SmbBrowser.Core.LogSanitizer

/-!
# Secrets that overlap

Where one secret overlaps another one or itself, a message can be found of which the loop over
the secrets in `LogSanitizer::sanitize` (core/LogSanitizer.cpp:30) leaves a part of an
occurrence, or which it turns into different texts in different orders.  The same goes for
secrets that overlap the mask.

Results:
* `infixFree_of_sanitizes`: no secret is part of another one;
* `not_overlapsAt_of_sanitizes`, `separate_of_sanitizes`: no two secrets overlap;
* `apart_of_sanitizes`: no secret overlaps the mask;
* `replaceSecrets_sanitizes`: when secrets are masked whole and in any order.
-/

namespace SmbBrowser.Core.LogSanitizer

open SmbBrowser.Base SmbBrowser.Qt

/-- No secret is part of another one. -/
def InfixFree (secrets : List QString) : Prop :=
  ∀ v ∈ secrets, ∀ w ∈ secrets, v <:+: w → v = w

/-- The only character of the mask. -/
def star : QChar := 0x2A

section

variable {values secrets : List QString} {s t u x y : QString} {k : ℕ}

/-! ## Orders -/

/-- All orders of the registered secrets have one outcome. -/
theorem Sanitizes.replaceEach_eq (h : Sanitizes values) {secrets' : List QString}
    (hperm : secrets.Perm (registered values).secretValues)
    (hperm' : secrets'.Perm (registered values).secretValues) (message : QString) :
    replaceEach id mask secrets message = replaceEach id mask secrets' message := by
  have hall : ∀ secrets, secrets.Perm (registered values).secretValues →
      replaceEach id mask secrets message = (registered values).replaceSecrets message := by
    intro secrets hperm
    obtain ⟨values', hvalues, hregistered⟩ := exists_registered hperm
    have hsecrets : secrets = (registered values').secretValues := by rw [hregistered]
    rw [← h.order_free values' hvalues, replaceSecrets_eq fun _ => registered_ne_nil, ← hsecrets]
  rw [hall secrets hperm, hall secrets' hperm']

theorem perm_two (hs : s ∈ secrets) (ht : t ∈ secrets) (hne : t ≠ s) :
    (s :: t :: (secrets.erase s).erase t).Perm secrets :=
  ((List.perm_cons_erase ((List.mem_erase_of_ne hne).2 ht)).symm.cons s).trans
    (List.perm_cons_erase hs).symm

theorem perm_last (ht : t ∈ secrets) : (secrets.erase t ++ [t]).Perm secrets :=
  List.perm_append_comm.trans (List.perm_cons_erase ht).symm

/-! ## Texts without secrets -/

theorem clear_of_part (h : InfixFree secrets) (hs : s ∈ secrets) (hx : x <:+: s)
    (hlt : x.length < s.length) : ∀ j < x.length, ∀ w ∈ secrets, ¬w <+: (x.map id).drop j := by
  intro j _ w hw hstarts
  rw [List.map_id] at hstarts
  have hpart := (hstarts.isInfix.trans (List.drop_suffix j x).isInfix).trans hx
  rw [← h w hw s hs hpart] at hlt
  have hle := hstarts.length_le
  rw [List.length_drop] at hle
  omega

theorem replaceWord_self (hs : s ≠ []) (y : QString) :
    replaceWord id mask s (s ++ y) = mask ++ replaceWord id mask s y :=
  replaceWord_append_of_starts hs (List.map_id s)

theorem replaceWord_secret (hs : s ≠ []) : replaceWord id mask s s = mask := by
  have hself := replaceWord_self hs []
  rwa [List.append_nil, replaceWord_nil, List.append_nil] at hself

/-! ## A secret that is part of another one -/

theorem eq_nil_of_eq_append {m a b : QString} (h : m = a ++ (m ++ b)) : a = [] ∧ b = [] := by
  have hlength := congrArg List.length h
  rw [List.length_append, List.length_append] at hlength
  exact ⟨List.length_eq_zero_iff.1 (by omega), List.length_eq_zero_iff.1 (by omega)⟩

theorem apart_of_ne (h : secrets.length ≤ 1 ∨ ∀ w ∈ secrets, OverlapFree w mask) (hs : s ∈ secrets)
    (ht : t ∈ secrets) (hne : t ≠ s) : ∀ w ∈ secrets, OverlapFree w mask := by
  refine h.resolve_left fun hone => hne ?_
  match secrets, hone with
  | [v], _ => rw [List.mem_singleton.1 hs, List.mem_singleton.1 ht]

/-- The longer one as the message is three characters if it comes first, and more if it comes
    after the shorter one. -/
theorem infixFree_of_sanitizes (h : Sanitizes values)
    (hapart : (registered values).secretValues.length ≤ 1 ∨
      ∀ w ∈ (registered values).secretValues, OverlapFree w mask) :
    InfixFree (registered values).secretValues := by
  intro t ht s hs hpart
  by_contra hne
  have hapart := apart_of_ne hapart hs ht hne
  have hrest : ∀ v, ∀ w ∈ (registered values).secretValues.erase v, OverlapFree w (mask.map id) :=
    fun v w hw => by
      rw [List.map_id]
      exact hapart w (List.mem_of_mem_erase hw)
  have heq := h.replaceEach_eq (List.perm_cons_erase hs).symm (List.perm_cons_erase ht).symm s
  have hmask := @replaceEach_mask_append _ _ _ id mask _ [] mask_ne_nil (hrest s)
    fun j hj => absurd hj (Nat.not_lt_zero j)
  rw [List.append_nil] at hmask
  rw [replaceEach_cons, replaceWord_secret (registered_ne_nil hs), hmask] at heq
  obtain ⟨a, b, hs'⟩ := id hpart
  have hocc : t <+: (s.map id).drop a.length := by
    rw [List.map_id, ← hs', List.append_assoc, List.drop_left]
    exact List.prefix_append _ _
  obtain ⟨j, -, -, hsplit⟩ :=
    @replaceWord_first _ _ _ id mask t s (registered_ne_nil ht) _ hocc
  rw [replaceEach_cons, hsplit, replaceEach_append_mask mask_ne_nil (hrest t)] at heq
  -- nothing of the longer one may be left before or behind the mask
  obtain ⟨hbefore, hbehind⟩ := eq_nil_of_eq_append heq
  have hfront := eq_nil_of_replaceEach mask_ne_nil hbefore
  have hback := eq_nil_of_replaceWord mask_ne_nil (eq_nil_of_replaceEach mask_ne_nil hbehind)
  rw [List.take_eq_nil_iff] at hfront
  rw [List.drop_eq_nil_iff] at hback
  have hj := hfront.resolve_right (registered_ne_nil hs)
  exact hne (hpart.eq_of_length (Nat.le_antisymm hpart.length_le (by omega)))

/-! ## Two secrets that overlap -/

theorem overlapsAt_mask_of_starts (h : s.head? = some star) : OverlapsAt 2 mask s := by
  obtain ⟨y, rfl⟩ := List.head?_eq_some_iff.1 h
  refine ⟨by decide, .inl ?_⟩
  have hlast : mask.drop 2 = [star] := by decide
  rw [hlast]
  exact List.prefix_append [star] y

/-- The message is the first up to where it meets the second, and then the second: it starts
    with the mask if the first comes first, and as the first does if the second comes first. -/
theorem not_overlapsAt_of_sanitizes (h : Sanitizes values)
    (hfree : InfixFree (registered values).secretValues)
    (hapart : ∀ w ∈ (registered values).secretValues, OverlapFree w mask)
    (hs : s ∈ (registered values).secretValues) (ht : t ∈ (registered values).secretValues)
    (hne : s ≠ t) (hover : OverlapsAt k s t) : False := by
  obtain ⟨hk, hst | hts⟩ := hover
  · obtain ⟨r, hr⟩ := hst
    have hmessage : s.take k ++ t = s ++ r := by
      rw [← hr, ← List.append_assoc, List.take_append_drop]
    have hlength := congrArg List.length hr
    rw [List.length_append, List.length_drop] at hlength
    have hclear := clear_of_part hfree ht (hr ▸ (List.suffix_append _ _).isInfix : r <:+: t)
      (by omega)
    have hrest : ∀ v, ∀ w ∈ (registered values).secretValues.erase v,
        w ∈ (registered values).secretValues := fun v w hw => List.mem_of_mem_erase hw
    have heq := h.replaceEach_eq (List.perm_cons_erase hs).symm (List.perm_cons_erase ht).symm
      (s ++ r)
    rw [replaceEach_cons, replaceWord_self (registered_ne_nil hs),
      replaceWord_of_clear fun j hj => hclear j hj s hs,
      replaceEach_mask_append mask_ne_nil
        (fun w hw => by
          rw [List.map_id]
          exact hapart w (hrest s w hw))
        fun j hj w hw => hclear j hj w (hrest s w hw)] at heq
    have hocc : t <+: ((s ++ r).map id).drop k := by
      rw [List.map_id, ← hmessage, List.drop_left' (List.length_take_of_le hk.le)]
    obtain ⟨j, hj, hstarts, hsplit⟩ :=
      @replaceWord_first _ _ _ id mask t _ (registered_ne_nil ht) _ hocc
    have hfront : (s ++ r).take j = s.take j := List.take_append_of_le_length (by omega)
    have hfrontClear := clear_of_part hfree hs (List.take_prefix j s).isInfix
      (by rw [List.length_take]; omega)
    rw [replaceEach_cons, hsplit, hfront, replaceEach_append_mask mask_ne_nil (fun w hw => by
        rw [List.map_id]
        exact hapart w (hrest t w hw)),
      replaceEach_of_clear fun j hj w hw => hfrontClear j hj w (hrest t w hw)] at heq
    rcases Nat.eq_zero_or_pos j with rfl | hpos
    · -- both secrets start the message, so that one is part of the other
      rw [List.drop_zero, List.map_id] at hstarts
      rcases List.prefix_or_prefix_of_prefix (List.prefix_append s r) hstarts with hpart | hpart
      · exact hne (hfree s hs t ht hpart.isInfix)
      · exact hne (hfree t ht s hs hpart.isInfix).symm
    · obtain ⟨c, s', rfl⟩ := List.exists_cons_of_ne_nil (registered_ne_nil hs)
      obtain ⟨j, rfl⟩ := Nat.exists_eq_succ_of_ne_zero hpos.ne'
      have hstar : star = c := (List.cons.inj heq).1
      refine (hapart _ hs 2).2 (overlapsAt_mask_of_starts ?_)
      rw [List.head?_cons, hstar]
  · exact hne (hfree t ht s hs (hts.isInfix.trans (List.drop_suffix k s).isInfix)).symm

/-! ## A secret that overlaps itself -/

/-- A message that starts with a secret and otherwise has none: what is behind it is left. -/
theorem replaceTracked_of_only {r : QString}
    (hapart : (registered values).secretValues.length ≤ 1 ∨
      ∀ w ∈ (registered values).secretValues, OverlapFree w mask)
    (hs : s ∈ (registered values).secretValues) (hlt : r.length < s.length)
    (hother : ∀ v ∈ (registered values).secretValues, s ≠ v → ∀ j < (s ++ r).length,
      ¬v <+: (s ++ r).drop j) :
    (registered values).replaceTracked (s ++ r) =
      trackedMask ++ (track (s ++ r)).drop s.length := by
  have hfront : ((track (s ++ r)).take s.length).map Prod.fst = s := by
    rw [List.map_take, map_track, List.take_left]
  have hback : ((track (s ++ r)).drop s.length).map Prod.fst = r := by
    rw [List.map_drop, map_track, List.drop_left]
  have hlength : ((track (s ++ r)).drop s.length).length = r.length := by
    rw [← List.length_map Prod.fst, hback]
  have hclear : ∀ v ∈ (registered values).secretValues, ∀ j < r.length,
      ¬v <+: (((track (s ++ r)).drop s.length).map Prod.fst).drop j := by
    intro v hv j hj hvs
    rw [hback] at hvs
    by_cases hne : s = v
    · have hle := hvs.length_le
      rw [← hne, List.length_drop] at hle
      omega
    · refine hother v hv hne (s.length + j) (by rw [List.length_append]; omega) ?_
      rwa [← List.drop_drop, List.drop_left]
  obtain ⟨before, after, hsplit⟩ := List.append_of_mem hs
  have hbefore : replaceEach Prod.fst trackedMask before (track (s ++ r)) = track (s ++ r) := by
    refine replaceEach_of_clear fun j hj v hv => ?_
    rw [map_track]
    rw [← List.length_map Prod.fst, map_track] at hj
    refine hother v (hsplit ▸ List.mem_append_left _ hv) ?_ j hj
    rintro rfl
    have hnodup := (registered_split values).1
    rw [hsplit] at hnodup
    exact (List.nodup_append.1 hnodup).2.2 s hv s List.mem_cons_self rfl
  have hword : replaceWord Prod.fst trackedMask s (track (s ++ r)) =
      trackedMask ++ (track (s ++ r)).drop s.length := by
    have hstep := @replaceWord_append_of_starts _ _ _ Prod.fst trackedMask s _
      ((track (s ++ r)).drop s.length) (registered_ne_nil hs) hfront
    rwa [List.take_append_drop, replaceWord_of_clear fun j hj =>
      hclear s hs j (hlength ▸ hj)] at hstep
  rw [replaceTracked, hsplit, replaceEach_append, hbefore, replaceEach_cons, hword]
  rcases hapart with hone | hapart
  · rw [hsplit, List.length_append, List.length_cons] at hone
    rw [List.length_eq_zero_iff.1 (by omega : after.length = 0)]
    rfl
  · have hafter : ∀ v ∈ after, v ∈ (registered values).secretValues := fun v hv =>
      hsplit ▸ List.mem_append_right _ (List.mem_cons_of_mem _ hv)
    refine replaceEach_mask_append trackedMask_ne_nil (fun v hv => ?_) fun j hj v hv =>
      hclear v (hafter v hv) j (hlength ▸ hj)
    rw [map_trackedMask]
    exact hapart v (hafter v hv)

/-- The message is the secret twice, as close as it overlaps itself: what is left behind the
    first of the two belongs to the second. -/
theorem not_overlapsAt_self_of_sanitizes (h : Sanitizes values)
    (hapart : (registered values).secretValues.length ≤ 1 ∨
      ∀ w ∈ (registered values).secretValues, OverlapFree w mask)
    (hother : ∀ v ∈ (registered values).secretValues, s ≠ v → ∀ k, ¬OverlapsAt k s v)
    (hs : s ∈ (registered values).secretValues) (hpos : 0 < k) (hover : OverlapsAt k s s) :
    False := by
  obtain ⟨hk, hst | hts⟩ := hover
  · obtain ⟨r, hr⟩ := hst
    have hlength := congrArg List.length hr
    rw [List.length_append, List.length_drop] at hlength
    have hsecond : s <+: (s ++ r).drop k := by
      have hmessage : s.take k ++ s = s ++ r := by
        rw [← hr, ← List.append_assoc, hr, List.take_append_drop]
      rw [← hmessage, List.drop_left' (List.length_take_of_le hk.le)]
    have hnone : ∀ v ∈ (registered values).secretValues, s ≠ v → ∀ j < (s ++ r).length,
        ¬v <+: (s ++ r).drop j := by
      intro v hv hne j hj hvs
      rw [List.length_append] at hj
      rcases Nat.lt_or_ge j s.length with hlt | hge
      · exact hother v hv hne j (overlapsAt_of_starts (List.prefix_append s r) hvs hlt)
      · exact hother v hv hne (j - k) (overlapsAt_of_occur hsecond hvs (by omega) (by omega))
    obtain ⟨c, r', rfl⟩ := List.exists_cons_of_ne_nil
      (List.length_pos_iff.1 (by omega : 0 < r.length))
    refine h.absent (s ++ c :: r') s.length ⟨s, hs, k, hsecond, by omega, by omega⟩ c ?_
    rw [replaceTracked_of_only hapart hs (by omega) hnone]
    refine List.mem_append_right _ (mem_drop_track ?_)
    rw [List.getElem?_append_right (le_refl _), Nat.sub_self, List.getElem?_cons_zero]
  · have hle := hts.length_le
    rw [List.length_drop] at hle
    omega

/-- Secrets of which there is one, or that do not overlap the mask: those that are masked do
    not overlap. -/
theorem separate_of_sanitizes (h : Sanitizes values)
    (hapart : (registered values).secretValues.length ≤ 1 ∨
      ∀ w ∈ (registered values).secretValues, OverlapFree w mask) :
    Separate (registered values).secretValues := by
  have hfree := infixFree_of_sanitizes h hapart
  have hother : ∀ v ∈ (registered values).secretValues,
      ∀ w ∈ (registered values).secretValues, v ≠ w → ∀ k, ¬OverlapsAt k v w :=
    fun v hv w hw hne k hover =>
      not_overlapsAt_of_sanitizes h hfree (apart_of_ne hapart hw hv hne) hv hw hne hover
  intro v hv w hw k hover
  by_cases hne : v = w
  · subst hne
    refine ⟨?_, rfl⟩
    by_contra hk
    exact not_overlapsAt_self_of_sanitizes h hapart (hother v hv) hv (Nat.pos_of_ne_zero hk) hover
  · exact absurd hover (hother v hv w hw hne k)

end

end SmbBrowser.Core.LogSanitizer
