import Mathlib.Data.List.DropRight
import Mathlib.Data.List.Induction

/-!
# Paths of segments and prefix substitutions

A path is a list of segments over an alphabet some letters of which are blank.
Reading a path settles its end: it drops the blanks at the end of the last
segment, and the segment with them when nothing else is left.  A `Move` replaces a
prefix of a settled path by another, in either direction.

Results:
* `rebaseAlong_eq_iff`: when the way back along a chain of moves, the last two of
  them composed first, undoes the way there.
-/

namespace SmbBrowser.Base

variable {α : Type} {blank : α → Bool}

/-! ## Settling the end of a path -/

/-- Drop the blanks at the end of a path. -/
def settle (blank : α → Bool) : List (List α) → List (List α)
  | [] => []
  | [x] => if x.rdropWhile blank = [] then [] else [x.rdropWhile blank]
  | x :: y :: rest => x :: settle blank (y :: rest)

/-- The letters of a path that are not blank. -/
def weight (blank : α → Bool) (l : List (List α)) : ℕ := l.flatten.countP (!blank ·)

/-- The letters and the segments of a path. -/
def extent (l : List (List α)) : ℕ := l.flatten.length + l.length

section

variable {l l' : List (List α)}

theorem settle_append (hl : l' ≠ []) : settle blank (l ++ l') = l ++ settle blank l' := by
  induction l with
  | nil => rfl
  | cons x l ih =>
    cases h : l ++ l' with
    | nil => exact absurd (List.append_eq_nil_iff.1 h).2 hl
    | cons y rest => rw [List.cons_append, h, settle, ← h, ih, List.cons_append]

@[simp] theorem weight_append : weight blank (l ++ l') = weight blank l + weight blank l' := by
  simp [weight]

@[simp] theorem extent_append : extent (l ++ l') = extent l + extent l' := by
  simp only [extent, List.flatten_append, List.length_append]
  omega

theorem countP_rdropWhile (blank : α → Bool) (x : List α) :
    (x.rdropWhile blank).countP (!blank ·) = x.countP (!blank ·) := by
  induction x using List.reverseRecOn with
  | nil => rfl
  | append_singleton x c ih =>
    by_cases hc : blank c
    · rw [List.rdropWhile_concat_pos _ _ _ hc, ih, List.countP_append]
      simp [hc]
    · rw [List.rdropWhile_concat_neg _ _ _ hc]

/-- Settling drops nothing but blanks. -/
@[simp] theorem weight_settle : weight blank (settle blank l) = weight blank l := by
  induction l using List.reverseRecOn with
  | nil => rfl
  | append_singleton l x =>
    have hx := countP_rdropWhile blank x
    rw [settle_append (by simp), weight_append, weight_append, settle]
    split
    · rename_i hnil
      rw [hnil] at hx
      simp [weight, ← hx]
    · simp [weight, hx]

theorem extent_settle_le (blank : α → Bool) (l : List (List α)) :
    extent (settle blank l) ≤ extent l := by
  induction l using List.reverseRecOn with
  | nil => exact le_refl _
  | append_singleton l x =>
    have hx := (List.rdropWhile_prefix blank x).length_le
    rw [settle_append (by simp), extent_append, extent_append, settle]
    split
    · simp [extent]
    · simpa [extent] using hx

/-- A path that reads as it stands. -/
structure Settled (blank : α → Bool) (l : List (List α)) : Prop where
  settle_eq : settle blank l = l

theorem settled_nil : Settled blank [] := ⟨rfl⟩

theorem settled_append (hl : l' ≠ []) : Settled blank (l ++ l') ↔ Settled blank l' := by
  constructor
  · rintro ⟨h⟩
    rw [settle_append hl] at h
    exact ⟨List.append_cancel_left h⟩
  · rintro ⟨h⟩
    exact ⟨by rw [settle_append hl, h]⟩

theorem Settled.append (h : Settled blank l) (h' : Settled blank l') :
    Settled blank (l ++ l') := by
  by_cases hl : l' = []
  · rw [hl, List.append_nil]
    exact h
  · exact (settled_append hl).2 h'

theorem settle_append_settled (h : Settled blank l) :
    settle blank (l ++ l') = l ++ settle blank l' := by
  by_cases hl : l' = []
  · rw [hl, List.append_nil, h.settle_eq, settle, List.append_nil]
  · exact settle_append hl

theorem Settled.drop (h : Settled blank l) (n : ℕ) : Settled blank (l.drop n) := by
  by_cases hn : l.drop n = []
  · rw [hn]
    exact settled_nil
  · rw [← List.take_append_drop n l] at h
    exact (settled_append hn).1 h

/-- Whatever settling changes, it makes shorter. -/
theorem settled_of_extent (h : extent l ≤ extent (settle blank l)) : Settled blank l := by
  induction l using List.reverseRecOn with
  | nil => exact settled_nil
  | append_singleton l x =>
    rw [settle_append (by simp), extent_append, extent_append, settle] at h
    refine (settled_append (by simp)).2 ⟨?_⟩
    rw [settle]
    split
    · rename_i hnil
      have hx : extent [x] = x.length + 1 := by simp [extent]
      have hempty : extent ([] : List (List α)) = 0 := rfl
      rw [if_pos hnil, hx, hempty] at h
      omega
    · rename_i hne
      rw [if_neg hne] at h
      have hpre := List.rdropWhile_prefix blank x
      rw [List.IsPrefix.eq_of_length_le hpre (by simpa [extent] using h)]

/-- A settled path ends in a letter that is not blank. -/
theorem Settled.weight_pos (h : Settled blank l) (hl : l ≠ []) : 0 < weight blank l := by
  induction l using List.reverseRecOn with
  | nil => exact absurd rfl hl
  | append_singleton l x =>
    have hx := ((settled_append (by simp)).1 h).settle_eq
    rw [settle] at hx
    split at hx
    · cases hx
    · rename_i hne
      have hlast := List.rdropWhile_last_not blank x hne
      rw [weight_append]
      have hmem : (x.rdropWhile blank).getLast hne ∈ x :=
        (List.rdropWhile_prefix blank x).subset (List.getLast_mem hne)
      have hpos : 0 < x.countP (!blank ·) :=
        List.countP_pos_iff.2 ⟨_, hmem, by simpa using hlast⟩
      have hsingle : weight blank [x] = x.countP (!blank ·) := by simp [weight]
      omega

/-- A path that cannot be `p ++ rel`: it has too many letters or too few, or it
    is settled where the right one is not. -/
def Astray (blank : α → Bool) (p rel out : List (List α)) : Prop :=
  weight blank out ≠ weight blank p + weight blank rel ∨
    (Settled blank out ∧ ¬ Settled blank rel)

theorem Astray.ne {p rel out : List (List α)} (h : Astray blank p rel out) (hrel : rel ≠ []) :
    out ≠ p ++ rel := by
  rintro rfl
  rcases h with hweight | ⟨hsettled, hnot⟩
  · exact hweight weight_append
  · exact hnot ((settled_append hrel).1 hsettled)

end

/-! ## Moves -/

/-- A prefix of a path and what replaces it. -/
structure Move (α : Type) where
  source : List (List α)
  target : List (List α)

variable [DecidableEq α]

/-- What a settled path has after a prefix; nothing when it does not have it. -/
def suffixAfter (blank : α → Bool) (start p : List (List α)) : List (List α) :=
  if start <+: settle blank p then (settle blank p).drop start.length else []

namespace Move

/-- The path with the source replaced by the target. -/
def forward (blank : α → Bool) (m : Move α) (p : List (List α)) : List (List α) :=
  m.target ++ suffixAfter blank m.source p

/-- The path with the target replaced by the source. -/
def backward (blank : α → Bool) (m : Move α) (p : List (List α)) : List (List α) :=
  m.source ++ suffixAfter blank m.target p

/-- Two moves in one: the source of the inner one is taken back along the outer. -/
def compose (blank : α → Bool) (outer inner : Move α) : Move α :=
  ⟨outer.backward blank inner.source, inner.target⟩

/-- Source and target read as they stand. -/
structure Settles (blank : α → Bool) (m : Move α) : Prop where
  source : Settled blank m.source
  target : Settled blank m.target

end Move

open Move

/-- The path a chain of moves leads to. -/
def forwardAlong (blank : α → Bool) : List (Move α) → List (List α) → List (List α)
  | [], p => p
  | m :: ms, p => forwardAlong blank ms (m.forward blank p)

/-- The way back along a chain, its last two moves composed. -/
def rebaseAlong (blank : α → Bool) : Move α → List (Move α) → List (List α) → List (List α)
  | outer, [], q => outer.backward blank q
  | outer, [m], q => (outer.compose blank m).backward blank q
  | outer, m :: m' :: ms, q => outer.backward blank (rebaseAlong blank m (m' :: ms) q)

/-- Every source is a prefix of the path its move is applied to. -/
def Fits (blank : α → Bool) : List (Move α) → List (List α) → Prop
  | [], _ => True
  | m :: ms, p => m.source <+: settle blank p ∧ Fits blank ms (m.forward blank p)

/-- The source of the last move lies at or below the target of the move before it. -/
def InnermostBelow : Move α → List (Move α) → Prop
  | _, [] => True
  | outer, [m] => outer.target <+: m.source
  | _, m :: m' :: ms => InnermostBelow m (m' :: ms)

section

variable {m outer : Move α} {ms : List (Move α)} {p q rel s : List (List α)}

theorem suffixAfter_append (h : settle blank p = s ++ q) : suffixAfter blank s p = q := by
  rw [suffixAfter, h, if_pos (List.prefix_append s q), List.drop_left]

theorem suffixAfter_of_not (h : ¬ s <+: settle blank p) : suffixAfter blank s p = [] := by
  rw [suffixAfter, if_neg h]

/-- A path and the path it is moved to, by what both have after the prefix. -/
theorem exists_suffix (h : m.source <+: settle blank p) :
    ∃ rest, settle blank p = m.source ++ rest ∧ m.forward blank p = m.target ++ rest := by
  obtain ⟨rest, hrest⟩ := h
  exact ⟨rest, hrest.symm, by rw [forward, suffixAfter_append hrest.symm]⟩

theorem backward_forward (hm : m.source <+: settle blank p) (hrel : rel ≠ []) :
    m.backward blank (m.forward blank p ++ rel) = settle blank p ++ settle blank rel := by
  obtain ⟨rest, hp, hforward⟩ := exists_suffix hm
  have hsettle : settle blank (m.target ++ rest ++ rel) =
      m.target ++ (rest ++ settle blank rel) := by
    rw [settle_append hrel, List.append_assoc]
  rw [backward, hforward, suffixAfter_append hsettle, hp, List.append_assoc]

theorem settled_forward (hm : m.source <+: settle blank p) (hp : Settled blank p)
    (htarget : Settled blank m.target) : Settled blank (m.forward blank p) := by
  obtain ⟨rest, hrest, hforward⟩ := exists_suffix hm
  rw [hp.settle_eq] at hrest
  rw [hforward]
  refine htarget.append ?_
  have htail := hp.drop m.source.length
  rwa [hrest, List.drop_left] at htail

/-- A move whose source lies below the target of another is composed with it. -/
theorem compose_forward {m' : Move α} (hm : m.source <+: settle blank p)
    (hsource : Settled blank m'.source) (htarget : Settled blank m.target)
    (hm' : m'.source <+: settle blank (m.forward blank p)) (hbelow : m.target <+: m'.source) :
    ∃ lower rest rest', settle blank p = m.source ++ rest ∧
      settle blank rest = lower ++ rest' ∧
      m.compose blank m' = ⟨m.source ++ lower, m'.target⟩ ∧
      m'.forward blank (m.forward blank p) = m'.target ++ rest' := by
  obtain ⟨rest, hp, hforward⟩ := exists_suffix hm
  obtain ⟨rest', hp', hforward'⟩ := exists_suffix hm'
  obtain ⟨lower, hlower⟩ := hbelow
  refine ⟨lower, rest, rest', hp, ?_, ?_, hforward'⟩
  · rw [hforward, settle_append_settled htarget, ← hlower, List.append_assoc] at hp'
    exact List.append_cancel_left hp'
  · rw [compose, backward, suffixAfter_append (hsource.settle_eq.trans hlower.symm)]

/-! ## The way back -/

theorem extent_rebaseAlong (hfits : Fits blank (outer :: ms) p)
    (hsettles : ∀ m ∈ outer :: ms, m.Settles blank) (hbelow : InnermostBelow outer ms)
    (hrel : rel ≠ []) :
    extent (rebaseAlong blank outer ms (forwardAlong blank (outer :: ms) p ++ rel)) ≤
      extent (settle blank p) + extent (settle blank rel) := by
  induction ms generalizing outer p with
  | nil =>
    rw [rebaseAlong, forwardAlong, forwardAlong, backward_forward hfits.1 hrel, extent_append]
  | cons m ms ih =>
    obtain ⟨hfirst, hm, hrest⟩ := hfits
    have houter : outer.Settles blank := hsettles outer (by simp)
    cases ms with
    | nil =>
      obtain ⟨lower, rest, rest', hp, hlower, hcompose, hforward⟩ :=
        compose_forward hfirst (hsettles m (by simp)).source houter.target hm hbelow
      have hsettle : settle blank (m.target ++ rest' ++ rel) =
          m.target ++ (rest' ++ settle blank rel) := by
        rw [settle_append hrel, List.append_assoc]
      have hshorter : extent (lower ++ rest') ≤ extent rest := by
        rw [← hlower]
        exact extent_settle_le ..
      rw [rebaseAlong, forwardAlong, forwardAlong, forwardAlong, hforward, hcompose, backward,
        suffixAfter_append hsettle, hp]
      simp only [extent_append] at hshorter ⊢
      omega
    | cons m' ms =>
      have hout := ih ⟨hm, hrest⟩ (fun m hmem => hsettles m (List.mem_cons_of_mem _ hmem)) hbelow
      obtain ⟨rest, hp, hforward⟩ := exists_suffix hfirst
      have hshorter : extent (settle blank (outer.forward blank p)) ≤
          extent outer.target + extent rest := by
        rw [← extent_append, ← hforward]
        exact extent_settle_le ..
      rw [rebaseAlong, forwardAlong, backward, extent_append, hp, extent_append]
      by_cases htarget : outer.target <+: settle blank
          (rebaseAlong blank m (m' :: ms)
            (forwardAlong blank (m :: m' :: ms) (outer.forward blank p) ++ rel))
      · obtain ⟨tail, htail⟩ := htarget
        have hsettled := extent_settle_le blank (rebaseAlong blank m (m' :: ms)
          (forwardAlong blank (m :: m' :: ms) (outer.forward blank p) ++ rel))
        rw [suffixAfter_append htail.symm]
        rw [← htail, extent_append] at hsettled
        omega
      · rw [suffixAfter_of_not htarget]
        simp only [extent, List.flatten_nil, List.length_nil]
        omega

theorem astray_rebaseAlong (hfits : Fits blank (outer :: ms) p)
    (hsettles : ∀ m ∈ outer :: ms, m.Settles blank) (hbelow : ¬ InnermostBelow outer ms)
    (hrel : rel ≠ []) :
    Astray blank p rel
      (rebaseAlong blank outer ms (forwardAlong blank (outer :: ms) p ++ rel)) := by
  induction ms generalizing outer p with
  | nil => exact absurd trivial hbelow
  | cons m ms ih =>
    obtain ⟨hfirst, hm, hrest⟩ := hfits
    have houter : outer.Settles blank := hsettles outer (by simp)
    obtain ⟨rest, hp, hforward⟩ := exists_suffix hfirst
    have hweight : weight blank p = weight blank outer.source + weight blank rest := by
      rw [← weight_settle, hp, weight_append]
    cases ms with
    | nil =>
      -- The target of the outer move reaches below the source of the inner one.
      have hsource : Settled blank m.source := (hsettles m (by simp)).source
      have htarget : outer.target <+: settle blank (outer.forward blank p) := by
        rw [hforward, settle_append_settled houter.target]
        exact List.prefix_append ..
      obtain ⟨below, hbelow'⟩ := (List.prefix_or_prefix_of_prefix hm htarget).resolve_right hbelow
      have hne : below ≠ [] := by
        rintro rfl
        rw [List.append_nil] at hbelow'
        have hpre : outer.target <+: m.source := ⟨[], by rw [List.append_nil, hbelow']⟩
        exact hbelow hpre
      have hpos : 0 < weight blank below := by
        have htail := houter.target.drop m.source.length
        rw [← hbelow', List.drop_left] at htail
        exact htail.weight_pos hne
      obtain ⟨rest', hp', hforward'⟩ := exists_suffix hm
      have hmoved : weight blank m.source + weight blank rest' =
          weight blank outer.target + weight blank rest := by
        rw [← weight_append, ← weight_append, ← hp', weight_settle, hforward]
      have hcompose : outer.compose blank m = ⟨outer.source, m.target⟩ := by
        rw [compose, backward, suffixAfter_of_not (by rwa [hsource.settle_eq]), List.append_nil]
      have hsettle : settle blank (m.target ++ rest' ++ rel) =
          m.target ++ (rest' ++ settle blank rel) := by
        rw [settle_append hrel, List.append_assoc]
      refine .inl ?_
      rw [rebaseAlong, forwardAlong, forwardAlong, forwardAlong, hforward', hcompose, backward,
        suffixAfter_append hsettle]
      rw [← hbelow', weight_append] at hmoved
      simp only [weight_append, weight_settle]
      omega
    | cons m' ms =>
      have hout := ih ⟨hm, hrest⟩ (fun m hmem => hsettles m (List.mem_cons_of_mem _ hmem)) hbelow
      rw [rebaseAlong, forwardAlong]
      generalize rebaseAlong blank m (m' :: ms)
        (forwardAlong blank (m :: m' :: ms) (outer.forward blank p) ++ rel) = out at hout ⊢
      rw [backward]
      by_cases htarget : outer.target <+: settle blank out
      · obtain ⟨tail, htail⟩ := htarget
        rw [suffixAfter_append htail.symm]
        rcases hout with hweight' | ⟨hsettled, hnot⟩
        · refine .inl ?_
          have hmoved : weight blank out = weight blank outer.target + weight blank tail := by
            rw [← weight_settle, ← htail, weight_append]
          rw [hforward, weight_append] at hweight'
          rw [weight_append]
          omega
        · refine .inr ⟨houter.source.append ?_, hnot⟩
          have htail' := hsettled.drop outer.target.length
          rwa [← hsettled.settle_eq, ← htail, List.drop_left] at htail'
      · rw [suffixAfter_of_not htarget, List.append_nil]
        by_cases hsettled : Settled blank rel
        · have hpos := hsettled.weight_pos hrel
          exact .inl (by omega)
        · exact .inr ⟨houter.source, hsettled⟩

theorem rebaseAlong_of_settled (hfits : Fits blank (outer :: ms) p)
    (hsettles : ∀ m ∈ outer :: ms, m.Settles blank) (hbelow : InnermostBelow outer ms)
    (hp : Settled blank p) (hsettled : Settled blank rel) (hrel : rel ≠ []) :
    rebaseAlong blank outer ms (forwardAlong blank (outer :: ms) p ++ rel) = p ++ rel := by
  induction ms generalizing outer p with
  | nil =>
    rw [rebaseAlong, forwardAlong, forwardAlong, backward_forward hfits.1 hrel, hp.settle_eq,
      hsettled.settle_eq]
  | cons m ms ih =>
    obtain ⟨hfirst, hm, hrest⟩ := hfits
    have houter : outer.Settles blank := hsettles outer (by simp)
    cases ms with
    | nil =>
      obtain ⟨lower, rest, rest', hrest, hlower, hcompose, hforward⟩ :=
        compose_forward hfirst (hsettles m (by simp)).source houter.target hm hbelow
      rw [hp.settle_eq] at hrest
      have hrestSettled : Settled blank rest := by
        have htail := hp.drop outer.source.length
        rwa [hrest, List.drop_left] at htail
      rw [hrestSettled.settle_eq] at hlower
      have hsettle : settle blank (m.target ++ rest' ++ rel) = m.target ++ (rest' ++ rel) := by
        rw [settle_append hrel, hsettled.settle_eq, List.append_assoc]
      rw [rebaseAlong, forwardAlong, forwardAlong, forwardAlong, hforward, hcompose, backward,
        suffixAfter_append hsettle, hrest, hlower]
      simp only [List.append_assoc]
    | cons m' ms =>
      have hout := ih ⟨hm, hrest⟩ (fun m hmem => hsettles m (List.mem_cons_of_mem _ hmem)) hbelow
        (settled_forward hfirst hp houter.target)
      rw [rebaseAlong, forwardAlong, hout, backward_forward hfirst hrel, hp.settle_eq,
        hsettled.settle_eq]

/-- The way back undoes the way there exactly when the path and what is below it read
    as they stand and the last move starts at or below where the one before it leads. -/
theorem rebaseAlong_eq_iff (hfits : Fits blank (outer :: ms) p)
    (hsettles : ∀ m ∈ outer :: ms, m.Settles blank) (hrel : rel ≠ []) :
    rebaseAlong blank outer ms (forwardAlong blank (outer :: ms) p ++ rel) = p ++ rel ↔
      Settled blank p ∧ Settled blank rel ∧ InnermostBelow outer ms := by
  constructor
  · intro h
    have hbelow : InnermostBelow outer ms := by
      by_contra hbelow
      exact (astray_rebaseAlong hfits hsettles hbelow hrel).ne hrel h
    have hextent := extent_rebaseAlong hfits hsettles hbelow hrel
    have hp := extent_settle_le blank p
    have hrel' := extent_settle_le blank rel
    rw [h, extent_append] at hextent
    exact ⟨settled_of_extent (by omega), settled_of_extent (by omega), hbelow⟩
  · rintro ⟨hp, hsettled, hbelow⟩
    exact rebaseAlong_of_settled hfits hsettles hbelow hp hsettled hrel

end

end SmbBrowser.Base
