import Mathlib.Data.List.Infix
import Mathlib.Data.List.Nodup
import Mathlib.Data.Nat.Find

/-!
# Words that give way to a mask

The occurrences of a word in a text are replaced by a mask, from left to right, and then
those of the next word.  The characters of the text may carry more than what is compared:
`key` is the part that is.

Results:
* `replaceEach_eq`: for words that overlap neither each other nor the mask, one word after the
  other is the same as all of them at once;
* `uncovered_of_mem`: then nothing of an occurrence is left;
* `replaceEach_perm`: then the order of the words does not matter.
-/

namespace SmbBrowser.Base

/-! ## Overlaps -/

section

variable {κ : Type} {v w text : List κ} {words words' : List (List κ)} {k p q : ℕ}

/-- `w` starts `k` characters into `v`, and they agree where both of them are. -/
def OverlapsAt (k : ℕ) (v w : List κ) : Prop :=
  k < v.length ∧ (v.drop k <+: w ∨ w <+: v.drop k)

/-- No two of the words overlap, and none overlaps itself. -/
def Separate (words : List (List κ)) : Prop :=
  ∀ v ∈ words, ∀ w ∈ words, ∀ k, OverlapsAt k v w → k = 0 ∧ v = w

/-- Neither of the two overlaps the other. -/
def OverlapFree (v w : List κ) : Prop := ∀ k, ¬OverlapsAt k v w ∧ ¬OverlapsAt k w v

theorem overlapsAt_of_starts (hv : v <+: text) (hw : w <+: text.drop k) (hk : k < v.length) :
    OverlapsAt k v w := ⟨hk, List.prefix_or_prefix_of_prefix (hv.drop k) hw⟩

/-- Two occurrences of which one starts inside the other. -/
theorem overlapsAt_of_occur (hv : v <+: text.drop p) (hw : w <+: text.drop q) (hpq : p ≤ q)
    (hlt : q < p + v.length) : OverlapsAt (q - p) v w := by
  refine overlapsAt_of_starts hv ?_ (by omega)
  rwa [List.drop_drop, Nat.add_sub_cancel' hpq]

theorem Separate.subset (h : Separate words) (hsub : words' ⊆ words) : Separate words' :=
  fun v hv w hw => h v (hsub hv) w (hsub hw)

theorem Separate.eq_of_starts (h : Separate words) (hv : v ∈ words) (hw : w ∈ words)
    (hne : v ≠ []) (hvs : v <+: text) (hws : w <+: text) : v = w :=
  (h v hv w hw 0 (overlapsAt_of_starts hvs hws (List.length_pos_iff.2 hne))).2

theorem OverlapFree.ne_nil (h : OverlapFree v w) (hw : w ≠ []) : v ≠ [] := by
  rintro rfl
  exact (h 0).2 ⟨List.length_pos_iff.2 hw, .inr List.nil_prefix⟩

/-- A word that starts before the other one also ends before it. -/
theorem OverlapFree.starts_of_append {x y : List κ} (h : OverlapFree v w) (hstarts : v <+: x ++ (w ++ y)) :
    v <+: x := by
  rcases Nat.lt_or_ge x.length v.length with hlt | hle
  · refine absurd (overlapsAt_of_starts hstarts ?_ hlt) (h _).1
    rw [List.drop_left]
    exact List.prefix_append _ _
  · exact List.prefix_of_prefix_length_le hstarts (List.prefix_append _ _) hle

theorem OverlapFree.not_starts {y : List κ} (h : OverlapFree v w) (hk : k < w.length) :
    ¬v <+: (w ++ y).drop k := fun hstarts =>
  (h k).2 (overlapsAt_of_starts (List.prefix_append _ _) hstarts hk)

end

/-! ## Replacing -/

section

variable {α κ : Type} [DecidableEq κ] (key : α → κ) (mask : List α)

/-- Every occurrence of one of the words gives way to the mask; the first argument is how many
    characters are still to be passed over. -/
def replaceAny (words : List (List κ)) : ℕ → List α → List α
  | _, [] => []
  | skip + 1, _ :: text => replaceAny words skip text
  | 0, c :: text =>
    match words.find? fun w => w.isPrefixOf ((c :: text).map key) with
    | some w => mask ++ replaceAny words (w.length - 1) text
    | none => c :: replaceAny words 0 text

/-- The occurrences of one word. -/
def replaceWord (w : List κ) (text : List α) : List α := replaceAny key mask [w] 0 text

/-- One word after the other. -/
def replaceEach (words : List (List κ)) (text : List α) : List α :=
  words.foldl (fun text w => replaceWord key mask w text) text

variable {key mask} {words words' : List (List κ)} {w : List κ} {text x y : List α} {c : α}

theorem replaceAny_skip (skip : ℕ) :
    replaceAny key mask words skip text = replaceAny key mask words 0 (text.drop skip) := by
  induction text generalizing skip with
  | nil => rw [List.drop_nil, replaceAny, replaceAny]
  | cons c text ih =>
    cases skip with
    | zero => rfl
    | succ skip => rw [replaceAny, List.drop_succ_cons, ih]

theorem replaceAny_of_starts (hw : w ∈ words) (hne : w ≠ []) (hstarts : w <+: text.map key)
    (hunique : ∀ w' ∈ words, w' <+: text.map key → w' = w) :
    replaceAny key mask words 0 text =
      mask ++ replaceAny key mask words 0 (text.drop w.length) := by
  cases text with
  | nil => exact absurd (List.prefix_nil.1 hstarts) hne
  | cons c text =>
    rw [replaceAny]
    cases hfind : words.find? fun w => w.isPrefixOf ((c :: text).map key) with
    | none =>
      have hno := List.find?_eq_none.1 hfind w hw
      exact absurd (List.isPrefixOf_iff_prefix.2 hstarts) hno
    | some w' =>
      have hfound := List.find?_some hfind
      rw [hunique w' (List.mem_of_find?_eq_some hfind) (List.isPrefixOf_iff_prefix.1 hfound)]
      obtain ⟨c', w'', rfl⟩ := List.exists_cons_of_ne_nil hne
      rw [List.length_cons, List.drop_succ_cons, ← replaceAny_skip]
      rfl

theorem replaceAny_of_not_starts (h : ∀ w ∈ words, ¬w <+: (c :: text).map key) :
    replaceAny key mask words 0 (c :: text) = c :: replaceAny key mask words 0 text := by
  rw [replaceAny]
  have hfind : (words.find? fun w => w.isPrefixOf ((c :: text).map key)) = none := by
    rw [List.find?_eq_none]
    exact fun w hw hstarts => h w hw (List.isPrefixOf_iff_prefix.1 hstarts)
  rw [hfind]

theorem replaceAny_none : replaceAny key mask [] 0 text = text := by
  induction text with
  | nil => rfl
  | cons c text ih =>
    rw [replaceAny_of_not_starts fun w hw => absurd hw List.not_mem_nil, ih]

/-- What stands before the first occurrence stays. -/
theorem replaceAny_append_of_clear
    (h : ∀ j < x.length, ∀ w ∈ words, ¬w <+: ((x ++ y).map key).drop j) :
    replaceAny key mask words 0 (x ++ y) = x ++ replaceAny key mask words 0 y := by
  induction x with
  | nil => rfl
  | cons c x ih =>
    have hnot : ∀ w ∈ words, ¬w <+: (c :: (x ++ y)).map key := h 0 (Nat.succ_pos _)
    rw [List.cons_append, replaceAny_of_not_starts hnot,
      ih fun j hj => h (j + 1) (Nat.succ_lt_succ hj), List.cons_append]

theorem replaceAny_of_clear
    (h : ∀ j < text.length, ∀ w ∈ words, ¬w <+: (text.map key).drop j) :
    replaceAny key mask words 0 text = text := by
  have hclear := @replaceAny_append_of_clear α κ _ key mask words text [] (by
    rwa [List.append_nil])
  rwa [List.append_nil, replaceAny, List.append_nil] at hclear

theorem replaceWord_of_starts (hne : w ≠ []) (hstarts : w <+: text.map key) :
    replaceWord key mask w text = mask ++ replaceWord key mask w (text.drop w.length) :=
  replaceAny_of_starts List.mem_cons_self hne hstarts fun _ hw' _ => List.mem_singleton.1 hw'

theorem replaceWord_append_of_clear (h : ∀ j < x.length, ¬w <+: ((x ++ y).map key).drop j) :
    replaceWord key mask w (x ++ y) = x ++ replaceWord key mask w y :=
  replaceAny_append_of_clear fun j hj _ hw => List.mem_singleton.1 hw ▸ h j hj

theorem replaceWord_of_clear (h : ∀ j < text.length, ¬w <+: (text.map key).drop j) :
    replaceWord key mask w text = text :=
  replaceAny_of_clear fun j hj _ hw => List.mem_singleton.1 hw ▸ h j hj

theorem replaceWord_of_not_starts (h : ¬w <+: (c :: text).map key) :
    replaceWord key mask w (c :: text) = c :: replaceWord key mask w text :=
  replaceAny_of_not_starts fun _ hw => List.mem_singleton.1 hw ▸ h

theorem replaceWord_append_of_starts (hne : w ≠ []) (hx : x.map key = w) :
    replaceWord key mask w (x ++ y) = mask ++ replaceWord key mask w y := by
  have hstarts : w <+: (x ++ y).map key := by
    rw [List.map_append, hx]
    exact List.prefix_append _ _
  rw [replaceWord_of_starts hne hstarts, ← hx, List.length_map, List.drop_left]

/-- The first of the occurrences. -/
theorem replaceWord_first (hne : w ≠ []) {k : ℕ} (h : w <+: (text.map key).drop k) :
    ∃ j ≤ k, w <+: (text.map key).drop j ∧
      replaceWord key mask w text =
        text.take j ++ (mask ++ replaceWord key mask w (text.drop (j + w.length))) := by
  classical
  have hex : ∃ j, w <+: (text.map key).drop j := ⟨k, h⟩
  have hfirst := Nat.find_spec hex
  have hclear : ∀ j < (text.take (Nat.find hex)).length,
      ¬w <+: ((text.take (Nat.find hex) ++ text.drop (Nat.find hex)).map key).drop j := by
    intro j hj
    rw [List.take_append_drop]
    exact Nat.find_min hex (hj.trans_le (List.length_take_le _ _))
  refine ⟨Nat.find hex, Nat.find_min' hex h, hfirst, ?_⟩
  rw [← List.map_drop] at hfirst
  rw [← List.drop_drop, ← replaceWord_of_starts hne hfirst, ← replaceWord_append_of_clear hclear,
    List.take_append_drop]

theorem replaceEach_of_clear
    (h : ∀ j < text.length, ∀ w ∈ words, ¬w <+: (text.map key).drop j) :
    replaceEach key mask words text = text := by
  induction words with
  | nil => rfl
  | cons w words ih =>
    rw [replaceEach, List.foldl_cons, replaceWord_of_clear fun j hj => h j hj w List.mem_cons_self]
    exact ih fun j hj w' hw' => h j hj w' (List.mem_cons_of_mem _ hw')

theorem replaceEach_append (text : List α) :
    replaceEach key mask (words ++ words') text =
      replaceEach key mask words' (replaceEach key mask words text) := List.foldl_append

theorem replaceEach_cons (text : List α) :
    replaceEach key mask (w :: words) text =
      replaceEach key mask words (replaceWord key mask w text) := rfl

theorem replaceWord_nil : replaceWord key mask w [] = [] := by
  rw [replaceWord, replaceAny]

theorem replaceEach_nil : replaceEach key mask words [] = [] := by
  induction words with
  | nil => rfl
  | cons w words ih => rw [replaceEach_cons, replaceWord_nil, ih]

theorem eq_nil_of_replaceWord (hmask : mask ≠ []) (h : replaceWord key mask w text = []) :
    text = [] := by
  cases text with
  | nil => rfl
  | cons c text =>
    rw [replaceWord, replaceAny] at h
    split at h
    · exact absurd (List.append_eq_nil_iff.1 h).1 hmask
    · exact absurd h (List.cons_ne_nil _ _)

theorem eq_nil_of_replaceEach (hmask : mask ≠ []) (h : replaceEach key mask words text = []) :
    text = [] := by
  induction words generalizing text with
  | nil => exact h
  | cons w words ih => exact eq_nil_of_replaceWord hmask (ih h)

/-- The part that is compared is replaced by itself. -/
theorem map_replaceAny (skip : ℕ) :
    (replaceAny key mask words skip text).map key =
      replaceAny id (mask.map key) words skip (text.map key) := by
  induction text generalizing skip with
  | nil => rw [replaceAny, List.map_nil, replaceAny]
  | cons c text ih =>
    cases skip with
    | succ skip => rw [replaceAny, List.map_cons, replaceAny, ih]
    | zero =>
      rw [replaceAny, List.map_cons, replaceAny, ← List.map_cons, List.map_id]
      split
      · rw [List.map_append, ih]
      · rw [List.map_cons, ih]

theorem map_replaceEach :
    (replaceEach key mask words text).map key =
      replaceEach id (mask.map key) words (text.map key) := by
  induction words generalizing text with
  | nil => rfl
  | cons w words ih => rw [replaceEach_cons, replaceEach_cons, ih, replaceWord, map_replaceAny]; rfl

/-! ## Words apart from the mask -/

/-- A mask splits the text into two that are worked on separately. -/
theorem replaceWord_append_mask (hmask : mask ≠ []) (h : OverlapFree w (mask.map key)) :
    replaceWord key mask w (x ++ (mask ++ y)) =
      replaceWord key mask w x ++ (mask ++ replaceWord key mask w y) := by
  have hne : w ≠ [] := h.ne_nil (List.map_eq_nil_iff.not.2 hmask)
  induction hn : x.length using Nat.strong_induction_on generalizing x with
  | _ n ih =>
    subst hn
    by_cases hstarts : w <+: x.map key
    · have hlong : w.length ≤ x.length := by
        rw [← List.length_map key]
        exact hstarts.length_le
      have hwhole : w <+: (x ++ (mask ++ y)).map key := by
        rw [List.map_append]
        exact hstarts.trans (List.prefix_append _ _)
      have hshorter : (x.drop w.length).length < x.length := by
        have := List.length_pos_iff.2 hne
        rw [List.length_drop]
        omega
      rw [replaceWord_of_starts hne hwhole, replaceWord_of_starts hne hstarts,
        List.drop_append_of_le_length hlong, ih _ hshorter rfl, List.append_assoc]
    · cases x with
      | nil =>
        have hclear : ∀ j < mask.length, ¬w <+: ((mask ++ y).map key).drop j := by
          intro j hj
          rw [List.map_append]
          exact h.not_starts (by rwa [List.length_map])
        exact replaceWord_append_of_clear hclear
      | cons c x =>
        have hnot : ¬w <+: (c :: (x ++ (mask ++ y))).map key := by
          rw [← List.cons_append, List.map_append, List.map_append]
          exact fun hwhole => hstarts (h.starts_of_append hwhole)
        rw [List.cons_append, replaceWord_of_not_starts hnot,
          ih x.length (Nat.lt_succ_self _) rfl, replaceWord_of_not_starts hstarts,
          List.cons_append]

theorem replaceEach_append_mask (hmask : mask ≠ [])
    (h : ∀ w ∈ words, OverlapFree w (mask.map key)) :
    replaceEach key mask words (x ++ (mask ++ y)) =
      replaceEach key mask words x ++ (mask ++ replaceEach key mask words y) := by
  induction words generalizing x y with
  | nil => rfl
  | cons w words ih =>
    obtain ⟨hw, hwords⟩ := List.forall_mem_cons.1 h
    rw [replaceEach_cons, replaceWord_append_mask hmask hw]
    exact ih hwords

/-- The mask and what is behind it without a word stay. -/
theorem replaceEach_mask_append (hmask : mask ≠ [])
    (h : ∀ w ∈ words, OverlapFree w (mask.map key))
    (hy : ∀ j < y.length, ∀ w ∈ words, ¬w <+: (y.map key).drop j) :
    replaceEach key mask words (mask ++ y) = mask ++ y := by
  have hsplit := @replaceEach_append_mask _ _ _ key mask words [] y hmask h
  rwa [replaceEach_nil, replaceEach_of_clear hy] at hsplit

/-- What starts with the rest of a word did so before anything was replaced. -/
theorem OverlapFree.starts_of_replaceAny (h : OverlapFree w (mask.map key)) {j : ℕ}
    (hstarts : w.drop j <+: (replaceAny key mask words 0 text).map key) :
    w.drop j <+: text.map key := by
  induction text generalizing j with
  | nil => exact hstarts
  | cons c text ih =>
    rcases Nat.lt_or_ge j w.length with hj | hj
    · rw [replaceAny] at hstarts
      split at hstarts
      · rw [List.map_append] at hstarts
        exact absurd ⟨hj, List.prefix_or_prefix_of_prefix hstarts (List.prefix_append _ _)⟩
          (h j).1
      · rw [List.drop_eq_getElem_cons hj, List.map_cons, List.cons_prefix_cons] at hstarts ⊢
        exact ⟨hstarts.1, ih hstarts.2⟩
    · rw [List.drop_of_length_le hj]
      exact List.nil_prefix

/-! ## One word after the other -/

theorem replaceWord_replaceAny (hmask : mask ≠ []) (hsep : Separate (words ++ [w]))
    (hne : ∀ v ∈ words ++ [w], v ≠ []) (h : OverlapFree w (mask.map key)) :
    replaceWord key mask w (replaceAny key mask words 0 text) =
      replaceAny key mask (words ++ [w]) 0 text := by
  have hlast : w ∈ words ++ [w] := List.mem_append_right _ List.mem_cons_self
  have hunique : ∀ v ∈ words ++ [w], ∀ text : List κ, v <+: text →
      ∀ v' ∈ words ++ [w], v' <+: text → v' = v := fun v hv text hvs v' hv' hvs' =>
    hsep.eq_of_starts hv' hv (hne v' hv') hvs' hvs
  induction hn : text.length using Nat.strong_induction_on generalizing text with
  | _ n ih =>
    subst hn
    have hshorter : ∀ v ∈ words ++ [w], v <+: text.map key →
        (text.drop v.length).length < text.length := by
      intro v hv hvs
      have hpos := List.length_pos_iff.2 (hne v hv)
      have hle := hvs.length_le
      rw [List.length_map] at hle
      rw [List.length_drop]
      omega
    by_cases hstarts : ∃ v ∈ words, v <+: text.map key
    · -- another word stands here, and its mask stays as it is
      obtain ⟨v, hv, hvs⟩ := hstarts
      have hv' : v ∈ words ++ [w] := List.mem_append_left _ hv
      rw [replaceAny_of_starts hv (hne v hv') hvs fun v' hin =>
          hunique v hv' _ hvs v' (List.mem_append_left _ hin),
        replaceAny_of_starts hv' (hne v hv') hvs (hunique v hv' _ hvs),
        ← ih _ (hshorter v hv' hvs) rfl, ← List.nil_append (mask ++ _),
        replaceWord_append_mask hmask h]
      rfl
    by_cases hws : w <+: text.map key
    · -- the word itself stands here, and no other reaches into it
      have hsplit : text.take w.length ++ text.drop w.length = text := List.take_append_drop _ _
      have hlength : (text.take w.length).length ≤ w.length := List.length_take_le _ _
      have hfront : (text.take w.length).map key = w := by
        rw [List.map_take, ← List.prefix_iff_eq_take.1 hws]
      rw [replaceAny_of_starts hlast (hne w hlast) hws (hunique w hlast _ hws),
        ← ih _ (hshorter w hlast hws) rfl, ← replaceWord_append_of_starts (hne w hlast) hfront,
        ← replaceAny_append_of_clear]
      · rw [hsplit]
      · intro j hj v hv hvs
        rw [hsplit] at hvs
        obtain ⟨rfl, rfl⟩ := hsep w hlast v (List.mem_append_left _ hv) j
          (overlapsAt_of_starts hws hvs (by omega))
        exact hstarts ⟨w, hv, hvs⟩
    cases text with
    | nil => rfl
    | cons c text =>
      have hnone : ∀ v ∈ words, ¬v <+: (c :: text).map key := fun v hv hvs =>
        hstarts ⟨v, hv, hvs⟩
      have hwnone : ¬w <+: (c :: replaceAny key mask words 0 text).map key := by
        intro hvs
        rw [← replaceAny_of_not_starts hnone] at hvs
        rw [← @List.drop_zero _ w] at hvs hws
        exact hws (h.starts_of_replaceAny hvs)
      have hall : ∀ v ∈ words ++ [w], ¬v <+: (c :: text).map key := fun v hv =>
        (List.mem_append.1 hv).elim (hnone v) fun hin => List.mem_singleton.1 hin ▸ hws
      rw [replaceAny_of_not_starts hnone, replaceWord_of_not_starts hwnone,
        ih text.length (Nat.lt_succ_self _) rfl, replaceAny_of_not_starts hall]

/-- One word after the other is all of them at once. -/
theorem replaceEach_eq (hmask : mask ≠ []) (hsep : Separate words) (hne : ∀ w ∈ words, w ≠ [])
    (h : words.length ≤ 1 ∨ ∀ w ∈ words, OverlapFree w (mask.map key)) :
    replaceEach key mask words text = replaceAny key mask words 0 text := by
  induction words using List.reverseRecOn with
  | nil => exact replaceAny_none.symm
  | append_singleton words w ih =>
    rw [replaceEach_append]
    rcases h with hone | hapart
    · have hnil : words = [] := List.length_eq_zero_iff.1 (by simpa using hone)
      subst hnil
      rfl
    · have hfront := ih (hsep.subset (List.subset_append_left _ _))
        (fun v hv => hne v (List.mem_append_left _ hv))
        (.inr fun v hv => hapart v (List.mem_append_left _ hv))
      rw [hfront]
      exact replaceWord_replaceAny hmask hsep hne
        (hapart w (List.mem_append_right _ List.mem_cons_self))

/-- At most one of the words starts a text, whatever their order. -/
theorem replaceAny_perm (hsep : Separate words) (hne : ∀ w ∈ words, w ≠ [])
    (hperm : words.Perm words') (skip : ℕ) :
    replaceAny key mask words skip text = replaceAny key mask words' skip text := by
  induction text generalizing skip with
  | nil => rw [replaceAny, replaceAny]
  | cons c text ih =>
    cases skip with
    | succ skip => rw [replaceAny, replaceAny, ih]
    | zero =>
      have hfind : (words.find? fun w => w.isPrefixOf ((c :: text).map key)) =
          words'.find? fun w => w.isPrefixOf ((c :: text).map key) := by
        cases hfind : words.find? fun w => w.isPrefixOf ((c :: text).map key) with
        | none =>
          rw [List.find?_eq_none] at hfind
          exact (List.find?_eq_none.2 fun w hw => hfind w (hperm.mem_iff.2 hw)).symm
        | some w =>
          have hw := List.mem_of_find?_eq_some hfind
          have hws := List.find?_some hfind
          cases hfind' : words'.find? fun w => w.isPrefixOf ((c :: text).map key) with
          | none => exact absurd hws (List.find?_eq_none.1 hfind' w (hperm.mem_iff.1 hw))
          | some w' =>
            have hw' := hperm.mem_iff.2 (List.mem_of_find?_eq_some hfind')
            have hws' := List.find?_some hfind'
            rw [List.isPrefixOf_iff_prefix] at hws hws'
            rw [hsep.eq_of_starts hw hw' (hne w hw) hws hws']
      rw [replaceAny, replaceAny, hfind]
      split
      · rw [ih]
      · rw [ih]

/-- What is left of the text is in no occurrence of a word. -/
theorem uncovered_of_mem (hsep : Separate words) (hne : ∀ w ∈ words, w ≠ []) {q : ℕ}
    (hq : ∀ w ∈ words, ∀ p < q, w <+: (text.map key).drop p → p + w.length ≤ q) {a : α}
    (ha : a ∈ replaceAny key mask words 0 (text.drop q)) :
    a ∈ mask ∨ ∃ i, text[i]? = some a ∧
      ∀ w ∈ words, ∀ p ≤ i, w <+: (text.map key).drop p → p + w.length ≤ i := by
  induction hn : text.length - q using Nat.strong_induction_on generalizing q with
  | _ n ih =>
    subst hn
    rcases Nat.lt_or_ge q text.length with hlt | hge
    · by_cases hstarts : ∃ w ∈ words, w <+: (text.map key).drop q
      · obtain ⟨w, hw, hws⟩ := hstarts
        have hpos := List.length_pos_iff.2 (hne w hw)
        rw [replaceAny_of_starts hw (hne w hw) (by rwa [List.map_drop]) fun w' hw' hws' =>
          hsep.eq_of_starts hw' hw (hne w' hw') (by rwa [List.map_drop] at hws') hws,
          List.drop_drop, List.mem_append] at ha
        refine ha.elim .inl fun ha => ih _ (by omega) ?_ ha rfl
        intro v hv p hp hvs
        by_contra hover
        rcases Nat.lt_or_ge p q with hpq | hqp
        · have := hq v hv p hpq hvs
          omega
        · obtain ⟨hzero, rfl⟩ := hsep w hw v hv (p - q) (overlapsAt_of_occur hws hvs hqp hp)
          omega
      · have hnone : ∀ w ∈ words, ¬w <+: (text.map key).drop q := fun w hw hws =>
          hstarts ⟨w, hw, hws⟩
        have hnext : ∀ w ∈ words, ∀ p ≤ q, w <+: (text.map key).drop p → p + w.length ≤ q := by
          intro w hw p hp hws
          rcases Nat.lt_or_eq_of_le hp with hpq | rfl
          · exact hq w hw p hpq hws
          · exact absurd hws (hnone w hw)
        rw [List.drop_eq_getElem_cons hlt, replaceAny_of_not_starts fun w hw => by
          rw [← List.drop_eq_getElem_cons hlt, List.map_drop]
          exact hnone w hw, List.mem_cons] at ha
        rcases ha with rfl | ha
        · exact .inr ⟨q, List.getElem?_eq_getElem hlt, hnext⟩
        · refine ih _ (by omega) ?_ ha rfl
          intro w hw p hp hws
          exact (hnext w hw p (Nat.le_of_lt_succ hp) hws).trans (Nat.le_succ q)
    · rw [List.drop_of_length_le hge] at ha
      exact absurd ha List.not_mem_nil

end

end SmbBrowser.Base
