import Mathlib.Data.List.Infix
import SmbBrowser.Base.Segments
import SmbBrowser.Dfs.Paths

/-!
# Normalised paths are lists of names

`normalizeRemotePath` returns a path of the form `/name/.../name`.  Normalising such
a path again trims it once more: white space at the end of the last name goes, and
the name itself when nothing else is left of it.

Results:
* `exists_names`: every normalised path is the text of a list of names;
* `normalizeRemotePath_render`: normalising such a text settles the list;
* `isPathPrefix_iff`, `suffixAfterPrefix_eq`, `joinRemotePath_eq`: the path functions
  on lists of names.
-/

namespace SmbBrowser.Dfs

open SmbBrowser.Base SmbBrowser.Qt SmbBrowser.Core

/-- The names of a path: not empty and free of separators. -/
structure Names (l : List QString) : Prop where
  ne_nil : ∀ x ∈ l, x ≠ []
  slash : ∀ x ∈ l, slash ∉ x
  backslash : ∀ x ∈ l, backslash ∉ x

/-- The names, each behind a slash. -/
def below (l : List QString) : QString := l.flatMap (slash :: ·)

/-- The path of a list of names. -/
def render (l : List QString) : QString := if l = [] then root else below l

section

variable {l l' : List QString} {x : QString}

@[simp] theorem below_nil : below [] = [] := rfl

@[simp] theorem below_cons : below (x :: l) = slash :: (x ++ below l) := rfl

@[simp] theorem below_append : below (l ++ l') = below l ++ below l' := List.flatMap_append

@[simp] theorem render_nil : render [] = root := rfl

theorem render_of_ne (h : l ≠ []) : render l = below l := if_neg h

theorem names_nil : Names [] := ⟨by simp, by simp, by simp⟩

theorem names_cons :
    Names (x :: l) ↔ (x ≠ [] ∧ slash ∉ x ∧ backslash ∉ x) ∧ Names l := by
  constructor
  · intro h
    refine ⟨⟨h.ne_nil x (by simp), h.slash x (by simp), h.backslash x (by simp)⟩, ?_, ?_, ?_⟩
    · exact fun y hy => h.ne_nil y (List.mem_cons_of_mem _ hy)
    · exact fun y hy => h.slash y (List.mem_cons_of_mem _ hy)
    · exact fun y hy => h.backslash y (List.mem_cons_of_mem _ hy)
  · rintro ⟨⟨hx, hslash, hback⟩, h⟩
    exact ⟨List.forall_mem_cons.2 ⟨hx, h.ne_nil⟩, List.forall_mem_cons.2 ⟨hslash, h.slash⟩,
      List.forall_mem_cons.2 ⟨hback, h.backslash⟩⟩

theorem names_append : Names (l ++ l') ↔ Names l ∧ Names l' := by
  induction l with
  | nil => simp [names_nil]
  | cons y l ih => rw [List.cons_append, names_cons, names_cons, ih, ← and_assoc]

theorem Names.drop (h : Names l) (n : ℕ) : Names (l.drop n) := by
  rw [← List.take_append_drop n l] at h
  exact (names_append.1 h).2

/-- The first name of a text ends where the first slash stands. -/
theorem name_append_inj {x' s s' : QString} (hx : slash ∉ x) (hx' : slash ∉ x')
    (hs : ∀ c ∈ s.head?, c = slash) (hs' : ∀ c ∈ s'.head?, c = slash)
    (h : x ++ s = x' ++ s') : x = x' ∧ s = s' := by
  have htake : ∀ {y t : QString}, slash ∉ y → (∀ c ∈ t.head?, c = slash) →
      (y ++ t).takeWhile (· ≠ slash) = y := by
    intro y t hy ht
    have hall : ∀ c ∈ y, decide (c ≠ slash) = true := by
      intro c hc
      refine decide_eq_true ?_
      rintro rfl
      exact hy hc
    rw [List.takeWhile_append_of_pos hall]
    cases t with
    | nil => simp
    | cons c t => simp [ht c (by simp)]
  have hxx : x = x' := by rw [← htake hx hs, h, htake hx' hs']
  rw [hxx] at h
  exact ⟨hxx, List.append_cancel_left h⟩

theorem head_below (l : List QString) : ∀ c ∈ (below l).head?, c = slash := by
  cases l with
  | nil => simp
  | cons x l => simp [eq_comm]

/-- The text of a list of names says which names they are. -/
theorem below_injective (h : Names l) (h' : Names l') (heq : below l = below l') : l = l' := by
  induction l generalizing l' with
  | nil =>
    cases l' with
    | nil => rfl
    | cons x' l' => simp at heq
  | cons x l ih =>
    cases l' with
    | nil => simp at heq
    | cons x' l' =>
      obtain ⟨⟨-, hx, -⟩, hl⟩ := names_cons.1 h
      obtain ⟨⟨-, hx', -⟩, hl'⟩ := names_cons.1 h'
      rw [below_cons, below_cons, List.cons.injEq] at heq
      obtain ⟨rfl, hbelow⟩ := name_append_inj hx hx' (head_below l) (head_below l') heq.2
      rw [ih hl hl' hbelow]

theorem render_injective (h : Names l) (h' : Names l') (heq : render l = render l') : l = l' := by
  have hroot : ∀ {l : List QString}, Names l → l ≠ [] → render l ≠ root := by
    intro l hl hne hrender
    obtain ⟨x, l, rfl⟩ := List.exists_cons_of_ne_nil hne
    rw [render_of_ne hne, below_cons, root, List.cons.injEq] at hrender
    exact hl.ne_nil x (by simp) (List.append_eq_nil_iff.1 hrender.2).1
  by_cases hl : l = []
  · by_cases hl' : l' = []
    · rw [hl, hl']
    · rw [hl, render_nil] at heq
      exact absurd heq.symm (hroot h' hl')
  · by_cases hl' : l' = []
    · rw [hl', render_nil] at heq
      exact absurd heq (hroot h hl)
    · rw [render_of_ne hl, render_of_ne hl'] at heq
      exact below_injective h h' heq

end

/-! ## The loops of `normalizeRemotePath` -/

/-- Two slashes in a row. -/
def hasDouble : QString → Bool
  | c :: d :: s => (c = slash ∧ d = slash) || hasDouble (d :: s)
  | _ => false

section

variable {s t x : QString} {c : QChar} {l : List QString}

theorem hasDouble_iff : hasDouble s = true ↔ [slash, slash] <:+: s := by
  induction s with
  | nil => simp [hasDouble]
  | cons c s ih =>
    rw [List.infix_cons_iff]
    cases s with
    | nil => simp [hasDouble]
    | cons d s =>
      rw [hasDouble, Bool.or_eq_true, decide_eq_true_eq, ih, List.cons_prefix_cons,
        List.cons_prefix_cons]
      simp [eq_comm]

theorem contains_double : s.contains [slash, slash] = hasDouble s := by
  rw [Bool.eq_iff_iff, hasDouble_iff, List.infix_iff_prefix_suffix, QString.contains,
    List.any_eq_true]
  simp only [List.mem_tails, List.isPrefixOf_iff_prefix]
  constructor
  · rintro ⟨t, hsuffix, hpre⟩
    exact ⟨t, hpre, hsuffix⟩
  · rintro ⟨t, hpre, hsuffix⟩
    exact ⟨t, hsuffix, hpre⟩

theorem hasDouble_cons (hc : c ≠ slash) : hasDouble (c :: s) = hasDouble s := by
  cases s with
  | nil => rfl
  | cons d s => simp [hasDouble, hc]

theorem hasDouble_append (hx : slash ∉ x) : hasDouble (x ++ s) = hasDouble s := by
  induction x with
  | nil => rfl
  | cons c x ih =>
    rw [List.mem_cons, not_or] at hx
    rw [List.cons_append, hasDouble_cons (Ne.symm hx.1), ih hx.2]

theorem hasDouble_below (hl : Names l) : hasDouble (below l ++ s) = hasDouble s := by
  induction l with
  | nil => rfl
  | cons x l ih =>
    obtain ⟨⟨hne, hslash, -⟩, hrest⟩ := names_cons.1 hl
    obtain ⟨c, x, rfl⟩ := List.exists_cons_of_ne_nil hne
    have hc : c ≠ slash := fun h => hslash (by simp [h])
    rw [below_cons, List.cons_append, List.append_assoc, List.cons_append, hasDouble]
    simp only [hc, and_false, decide_false, Bool.false_or]
    rw [← List.cons_append, hasDouble_append hslash, ih hrest]

theorem not_hasDouble_of_within (h : t <:+: s) (hs : hasDouble s = false) :
    hasDouble t = false := by
  rw [Bool.eq_false_iff, Ne, hasDouble_iff] at hs ⊢
  exact fun ht => hs (ht.trans h)

theorem length_replaceFrom {n : ℕ} (hn : s.length ≤ n) :
    (QString.replaceFrom [slash, slash] [slash] n s).length ≤ s.length ∧
      (hasDouble s = true →
        (QString.replaceFrom [slash, slash] [slash] n s).length < s.length) := by
  induction n generalizing s with
  | zero =>
    obtain rfl := List.length_eq_zero_iff.1 (Nat.le_zero.1 hn)
    exact ⟨le_refl _, by simp [hasDouble]⟩
  | succ n ih =>
    cases s with
    | nil => exact ⟨le_refl _, by simp [hasDouble]⟩
    | cons c s =>
      rw [List.length_cons] at hn
      rw [QString.replaceFrom]
      by_cases hpre : List.isPrefixOf [slash, slash] (c :: s) = true
      · rw [if_pos hpre]
        have hlen := (List.isPrefixOf_iff_prefix.1 hpre).length_le
        have hrest : ((c :: s).drop [slash, slash].length).length ≤ n := by simp; omega
        have hle := (ih hrest).1
        simp only [List.length_append, List.length_drop, List.length_cons, List.length_nil]
          at hle hlen ⊢
        omega
      · rw [if_neg hpre]
        obtain ⟨hle, hlt⟩ := ih (show s.length ≤ n by omega)
        refine ⟨by simp only [List.length_cons]; omega, fun hdouble => ?_⟩
        rw [hasDouble_iff, List.infix_cons_iff] at hdouble
        rw [List.isPrefixOf_iff_prefix] at hpre
        have hlt' := hlt (hasDouble_iff.2 (hdouble.resolve_left hpre))
        simp only [List.length_cons]
        omega

theorem hasDouble_collapseSlashes {n : ℕ} (hn : s.length ≤ n) :
    hasDouble (collapseSlashes n s) = false := by
  induction n generalizing s with
  | zero =>
    obtain rfl := List.length_eq_zero_iff.1 (Nat.le_zero.1 hn)
    rfl
  | succ n ih =>
    rw [collapseSlashes, contains_double]
    by_cases h : hasDouble s = true
    · rw [if_pos h]
      have hlt := (length_replaceFrom (le_refl s.length)).2 h
      exact ih (by rw [QString.replaceString]; omega)
    · rw [if_neg h]
      exact Bool.eq_false_iff.2 h

theorem collapseSlashes_of_not {n : ℕ} (h : hasDouble s = false) : collapseSlashes n s = s := by
  cases n with
  | zero => rfl
  | succ n => rw [collapseSlashes, contains_double, h, if_neg (by simp)]

theorem mem_replaceFrom {before after : QString} {n : ℕ}
    (h : c ∈ QString.replaceFrom before after n s) : c ∈ s ∨ c ∈ after := by
  induction n generalizing s with
  | zero => exact .inl h
  | succ n ih =>
    cases s with
    | nil => exact .inl h
    | cons d s =>
      rw [QString.replaceFrom] at h
      split at h
      · rcases List.mem_append.1 h with h | h
        · exact .inr h
        · exact (ih h).imp_left List.mem_of_mem_drop
      · rcases List.mem_cons.1 h with rfl | h
        · exact .inl (by simp)
        · exact (ih h).imp_left (List.mem_cons_of_mem _)

theorem mem_collapseSlashes {n : ℕ} (h : c ∈ collapseSlashes n s) : c ∈ s ∨ c = slash := by
  induction n generalizing s with
  | zero => exact .inl h
  | succ n ih =>
    rw [collapseSlashes] at h
    split at h
    · rcases ih h with h | h
      · exact (mem_replaceFrom h).imp_right List.mem_singleton.1
      · exact .inr h
    · exact .inl h

/-- Chopping leaves a prefix that is one character or does not end in a slash. -/
theorem chopSlashes_spec {n : ℕ} (hn : s.length ≤ n) (hs : s ≠ []) :
    chopSlashes n s ≠ [] ∧ chopSlashes n s <+: s ∧
      ((chopSlashes n s).length = 1 ∨ (chopSlashes n s).getLast? ≠ some slash) := by
  induction n generalizing s with
  | zero => exact absurd (List.length_eq_zero_iff.1 (Nat.le_zero.1 hn)) hs
  | succ n ih =>
    rw [chopSlashes]
    have hpos : 0 < s.length := List.length_pos_iff.2 hs
    split
    · rename_i h
      have hlen : s.dropLast.length = s.length - 1 := List.length_dropLast
      have hne : s.dropLast ≠ [] := by
        rw [← List.length_pos_iff]
        omega
      obtain ⟨hnil, hpre, hlast⟩ := ih (by omega) hne
      exact ⟨hnil, hpre.trans (List.dropLast_prefix s), hlast⟩
    · rename_i h
      refine ⟨hs, List.prefix_rfl, ?_⟩
      rw [not_and_or] at h
      rcases h with h | h
      · exact .inl (by omega)
      · exact .inr (by simpa [QString.endsWithChar] using h)

theorem chopSlashes_of_not {n : ℕ} (h : s.getLast? ≠ some slash) : chopSlashes n s = s := by
  cases n with
  | zero => rfl
  | succ n =>
    rw [chopSlashes, if_neg]
    rintro ⟨-, hlast⟩
    exact h (by simpa [QString.endsWithChar] using hlast)

end

/-! ## Normalised paths -/

section

variable {s x : QString} {l : List QString}

theorem isSpace_slash : QChar.isSpace slash = false := by decide

theorem slash_ne_backslash : slash ≠ backslash := by decide

theorem trimmed_below : QString.trimmed (below (l ++ [x])) =
    below l ++ slash :: x.rdropWhile QChar.isSpace := by
  have hfirst : ∀ t : QString, (below l ++ slash :: t).dropWhile QChar.isSpace =
      below l ++ slash :: t := by
    intro t
    cases l with
    | nil => simp [isSpace_slash]
    | cons y l => simp [isSpace_slash]
  rw [below_append, below_cons, below_nil, List.append_nil, QString.trimmed, hfirst]
  clear hfirst
  induction x using List.reverseRecOn with
  | nil => rw [List.rdropWhile_concat_neg _ _ _ (by simp [isSpace_slash]), List.rdropWhile_nil]
  | append_singleton x c ih =>
    rw [← List.cons_append, ← List.append_assoc]
    by_cases hc : QChar.isSpace c
    · rw [List.rdropWhile_concat_pos _ _ _ hc, List.rdropWhile_concat_pos _ _ _ hc, ih]
    · rw [List.rdropWhile_concat_neg _ _ _ hc, List.rdropWhile_concat_neg _ _ _ hc]
      simp

theorem replaceChar_of_not_mem (h : backslash ∉ s) : s.replaceChar backslash slash = s := by
  rw [QString.replaceChar]
  conv_rhs => rw [← List.map_id s]
  refine List.map_congr_left fun c hc => if_neg ?_
  rintro rfl
  exact h hc

theorem backslash_not_mem_below (hl : Names l) : backslash ∉ below l := by
  rw [below, List.mem_flatMap]
  rintro ⟨x, hx, h⟩
  rcases List.mem_cons.1 h with h | h
  · exact slash_ne_backslash h.symm
  · exact hl.backslash x hx h

theorem getLast?_below (hl : Names l) : (below l).getLast? ≠ some slash := by
  rcases List.eq_nil_or_concat l with rfl | ⟨l, x, rfl⟩
  · simp
  · rw [List.concat_eq_append] at hl ⊢
    obtain ⟨⟨hne, hslash, -⟩, -⟩ := names_cons.1 (names_append.1 hl).2
    obtain ⟨x, c, rfl⟩ := List.eq_nil_or_concat x |>.resolve_left hne
    rw [List.concat_eq_append] at hslash
    have hc : c ≠ slash := by
      rintro rfl
      exact hslash (by simp)
    have hbelow : below (l ++ [x ++ [c]]) = (below l ++ slash :: x) ++ [c] := by simp
    rw [List.concat_eq_append, hbelow, List.getLast?_concat, Ne, Option.some.injEq]
    exact hc

theorem startsWith_root : QString.startsWith (slash :: s) root = true := by
  simp [QString.startsWith, root]

/-- What is left of `normalizeRemotePath` for a text that starts with a slash and has
    neither backslashes nor double slashes. -/
theorem normalizeRemotePath_of {t : QString} (htrimmed : s.trimmed = slash :: t)
    (hback : backslash ∉ slash :: t) (hdouble : hasDouble (slash :: t) = false) :
    normalizeRemotePath s = chopSlashes (slash :: t).length (slash :: t) := by
  rw [normalizeRemotePath, htrimmed, replaceChar_of_not_mem hback,
    collapseSlashes_of_not hdouble, List.isEmpty_cons]
  simp only [Bool.false_eq_true, if_false, startsWith_root, if_true]

theorem names_settle (hl : Names l) : Names (settle QChar.isSpace l) := by
  rcases List.eq_nil_or_concat l with rfl | ⟨l, x, rfl⟩
  · exact hl
  · rw [List.concat_eq_append] at hl ⊢
    obtain ⟨hinit, hx⟩ := names_append.1 hl
    obtain ⟨⟨-, hslash, hback⟩, -⟩ := names_cons.1 hx
    have hsub := (List.rdropWhile_prefix QChar.isSpace x).subset
    rw [settle_append (by simp), names_append, settle]
    refine ⟨hinit, ?_⟩
    split
    · exact names_nil
    · rename_i hne
      exact names_cons.2 ⟨⟨hne, fun h => hslash (hsub h), fun h => hback (hsub h)⟩, names_nil⟩

/-- Normalising the path of a list of names trims its end once more. -/
theorem normalizeRemotePath_render (hl : Names l) :
    normalizeRemotePath (render l) = render (settle QChar.isSpace l) := by
  rcases List.eq_nil_or_concat l with rfl | ⟨l, x, rfl⟩
  · decide
  rw [List.concat_eq_append] at hl ⊢
  obtain ⟨hinit, hx⟩ := names_append.1 hl
  obtain ⟨⟨-, hslash, hback⟩, -⟩ := names_cons.1 hx
  have hne : l ++ [x] ≠ [] := by simp
  have htrimmed := trimmed_below (l := l) (x := x)
  have hsub := (List.rdropWhile_prefix QChar.isSpace x).subset
  rw [render_of_ne hne, settle_append (by simp), settle]
  by_cases hnil : x.rdropWhile QChar.isSpace = []
  · -- Nothing but white space in the last name: the slash before it is chopped too.
    rw [hnil] at htrimmed
    rw [if_pos hnil, List.append_nil]
    obtain ⟨t, ht⟩ : ∃ t, below l ++ [slash] = slash :: t := by
      cases l with
      | nil => exact ⟨[], rfl⟩
      | cons y l => exact ⟨_, rfl⟩
    have hmem : backslash ∉ below l ++ [slash] := by
      rw [List.mem_append, not_or]
      exact ⟨backslash_not_mem_below hinit, by decide⟩
    have hdouble : hasDouble (below l ++ [slash]) = false := by rw [hasDouble_below hinit]; rfl
    rw [ht] at htrimmed hmem hdouble
    rw [normalizeRemotePath_of htrimmed hmem hdouble, ← ht]
    by_cases hl' : l = []
    · rw [hl']
      decide
    · have hlen : 0 < (below l).length := by
        obtain ⟨y, l, rfl⟩ := List.exists_cons_of_ne_nil hl'
        simp
      rw [List.length_append, List.length_singleton, chopSlashes, if_pos, List.dropLast_concat,
        chopSlashes_of_not (getLast?_below hinit), render_of_ne hl']
      exact ⟨by simp; omega, by simp [QString.endsWithChar]⟩
  · have hnames : Names (l ++ [x.rdropWhile QChar.isSpace]) := by
      have := names_settle hl
      rwa [settle_append (by simp), settle, if_neg hnil] at this
    rw [if_neg hnil, render_of_ne (by simp)]
    have hbelow : below (l ++ [x.rdropWhile QChar.isSpace]) =
        below l ++ slash :: x.rdropWhile QChar.isSpace := by simp
    rw [← hbelow] at htrimmed
    obtain ⟨t, ht⟩ : ∃ t, below (l ++ [x.rdropWhile QChar.isSpace]) = slash :: t := by
      cases l with
      | nil => exact ⟨_, rfl⟩
      | cons y l => exact ⟨_, rfl⟩
    have hdouble : hasDouble (below (l ++ [x.rdropWhile QChar.isSpace])) = false := by
      rw [← List.append_nil (below _), hasDouble_below hnames]
      rfl
    have hmem := backslash_not_mem_below hnames
    have hlast := getLast?_below hnames
    rw [ht] at htrimmed hmem hdouble hlast ⊢
    rw [normalizeRemotePath_of htrimmed hmem hdouble, chopSlashes_of_not hlast]

/-- A text without double slashes that starts with a slash and does not end in one. -/
theorem exists_below (hstart : ∀ c ∈ s.head?, c = slash) (hdouble : hasDouble s = false)
    (hback : backslash ∉ s) (hlast : s.getLast? ≠ some slash) :
    ∃ l, Names l ∧ s = below l := by
  induction hn : s.length using Nat.strong_induction_on generalizing s with
  | _ n ih =>
    cases s with
    | nil => exact ⟨[], names_nil, rfl⟩
    | cons c s =>
      obtain rfl : c = slash := hstart c (by simp)
      have hsplit : s.takeWhile (· ≠ slash) ++ s.dropWhile (· ≠ slash) = s :=
        List.takeWhile_append_dropWhile
      have hx : slash ∉ s.takeWhile (· ≠ slash) := by
        intro h
        simpa using List.mem_takeWhile_imp h
      have hrest : ∀ c ∈ (s.dropWhile (· ≠ slash)).head?, c = slash := by
        intro c hc
        have := List.head?_dropWhile_not (· ≠ slash) s
        rw [hc] at this
        simpa using this
      generalize s.takeWhile (· ≠ slash) = x at hsplit hx
      generalize s.dropWhile (· ≠ slash) = rest at hsplit hrest
      obtain rfl := hsplit
      have hne : x ≠ [] := by
        rintro rfl
        cases rest with
        | nil => exact hlast rfl
        | cons c rest =>
          obtain rfl : c = slash := hrest c (by simp)
          simp [hasDouble] at hdouble
      have hlast' : rest.getLast? ≠ some slash := by
        rcases List.eq_nil_or_concat rest with rfl | ⟨rest, c, rfl⟩
        · simp
        · rw [List.concat_eq_append, ← List.append_assoc, ← List.cons_append,
            List.getLast?_concat] at hlast
          rwa [List.concat_eq_append, List.getLast?_concat]
      have hin : rest <:+: slash :: (x ++ rest) := ⟨slash :: x, [], by simp⟩
      have hlen : rest.length < n := by
        rw [← hn, List.length_cons, List.length_append]
        omega
      obtain ⟨l, hl, hbelow⟩ := ih rest.length hlen hrest (not_hasDouble_of_within hin hdouble)
        (fun h => hback (hin.subset h)) hlast' rfl
      have hback' : backslash ∉ x := fun h => hback (by simp [h])
      exact ⟨x :: l, names_cons.2 ⟨⟨hne, hx, hback'⟩, hl⟩, by rw [below_cons, ← hbelow]⟩

theorem exists_names_chopSlashes (hdouble : hasDouble (slash :: s) = false)
    (hback : backslash ∉ slash :: s) :
    ∃ l, Names l ∧ chopSlashes (slash :: s).length (slash :: s) = render l := by
  obtain ⟨hne, hpre, hlast⟩ := chopSlashes_spec (le_refl (slash :: s).length) (by simp)
  generalize chopSlashes (slash :: s).length (slash :: s) = chopped at hne hpre hlast ⊢
  obtain ⟨c, t, rfl⟩ := List.exists_cons_of_ne_nil hne
  obtain ⟨rfl, -⟩ := List.cons_prefix_cons.1 hpre
  by_cases ht : t = []
  · rw [ht]
    exact ⟨[], names_nil, rfl⟩
  · have hlen : (slash :: t).length ≠ 1 := by
      rw [List.length_cons]
      have := List.length_pos_iff.2 ht
      omega
    obtain ⟨l, hl, hbelow⟩ := exists_below (by simp [eq_comm])
      (not_hasDouble_of_within hpre.isInfix hdouble) (fun h => hback (hpre.subset h))
      (hlast.resolve_left hlen)
    have hne' : l ≠ [] := by
      rintro rfl
      simp at hbelow
    exact ⟨l, hl, by rw [render_of_ne hne', hbelow]⟩

/-- Every normalised path is the path of a list of names. -/
theorem exists_names (remotePath : QString) :
    ∃ l, Names l ∧ normalizeRemotePath remotePath = render l := by
  unfold normalizeRemotePath
  dsimp only
  generalize hreplaced : remotePath.trimmed.replaceChar backslash slash = replaced
  have hback : backslash ∉ replaced := by
    rw [← hreplaced, QString.replaceChar, List.mem_map]
    rintro ⟨c, -, hc⟩
    split at hc
    · exact slash_ne_backslash hc
    · contradiction
  generalize hcollapsed : collapseSlashes replaced.length replaced = collapsed
  have hdouble : hasDouble collapsed = false := by
    rw [← hcollapsed]
    exact hasDouble_collapseSlashes (le_refl _)
  have hback' : backslash ∉ collapsed := by
    rw [← hcollapsed]
    intro h
    rcases mem_collapseSlashes h with h | h
    · exact hback h
    · exact slash_ne_backslash h.symm
  clear hreplaced hcollapsed
  cases collapsed with
  | nil => exact ⟨[], names_nil, by decide⟩
  | cons c s =>
    rw [List.isEmpty_cons]
    simp only [Bool.false_eq_true, if_false]
    by_cases hc : c = slash
    · subst hc
      simp only [startsWith_root, if_true]
      exact exists_names_chopSlashes hdouble hback'
    · have hstart : QString.startsWith (c :: s) root = false := by
        rw [QString.startsWith, root, Bool.eq_false_iff, Ne, List.isPrefixOf_iff_prefix,
          List.cons_prefix_cons]
        exact fun h => hc h.1.symm
      simp only [hstart, Bool.false_eq_true, if_false]
      refine exists_names_chopSlashes ?_ ?_
      · simp [hasDouble, hc, hdouble]
      · rw [List.mem_cons, not_or]
        exact ⟨Ne.symm slash_ne_backslash, hback'⟩

end

/-! ## The path functions -/

section

variable {start remotePath : QString} {o p : List QString}

/-- A text that goes on with a slash after some names has further names. -/
theorem prefix_below_iff (ho : Names o) (hp : Names p) :
    below o ++ [slash] <+: below p ↔ o <+: p ∧ o ≠ p := by
  induction o generalizing p with
  | nil =>
    cases p with
    | nil => simp
    | cons x rest => simp [List.cons_prefix_cons]
  | cons y o ih =>
    obtain ⟨⟨-, hslash, -⟩, ho'⟩ := names_cons.1 ho
    cases p with
    | nil => simp
    | cons x p =>
      obtain ⟨⟨-, hslash', -⟩, hp'⟩ := names_cons.1 hp
      have hhead : ∀ t, ∀ c ∈ (below o ++ [slash] ++ t).head?, c = slash := by
        intro t
        cases o with
        | nil => simp [eq_comm]
        | cons z o => simp [eq_comm]
      rw [below_cons, below_cons, List.cons_append, List.cons_prefix_cons, List.append_assoc,
        List.cons_prefix_cons, Ne, List.cons.injEq, not_and]
      constructor
      · rintro ⟨-, t, ht⟩
        rw [List.append_assoc] at ht
        obtain ⟨rfl, hrest⟩ := name_append_inj hslash hslash' (hhead t) (head_below p) ht
        obtain ⟨hpre, hne⟩ := (ih ho' hp').1 ⟨t, hrest⟩
        exact ⟨⟨rfl, hpre⟩, fun _ => hne⟩
      · rintro ⟨⟨rfl, hpre⟩, hne⟩
        obtain ⟨t, ht⟩ := (ih ho' hp').2 ⟨hpre, hne rfl⟩
        exact ⟨rfl, t, by rw [List.append_assoc, ht]⟩

theorem render_eq_root (ho : Names o) : render o = root ↔ o = [] := by
  rw [← render_nil]
  constructor
  · exact render_injective ho names_nil
  · rintro rfl
    rfl

theorem startsWith_render (ho : Names o) (hp : Names p) (hne : o ≠ []) :
    QString.startsWith (render p) (render o ++ [slash]) = true ↔ o <+: p ∧ o ≠ p := by
  rw [QString.startsWith, List.isPrefixOf_iff_prefix, render_of_ne hne]
  by_cases hempty : p = []
  · rw [hempty, List.prefix_nil]
    constructor
    · intro h
      have hlen := h.length_le
      obtain ⟨x, o, rfl⟩ := List.exists_cons_of_ne_nil hne
      simp [root] at hlen
    · exact fun h => absurd h.1 hne
  · rw [render_of_ne hempty, prefix_below_iff ho hp]

theorem isPathPrefix_iff (ho : Names o) (hp : Names p)
    (hstart : normalizeRemotePath start = render o)
    (hpath : normalizeRemotePath remotePath = render p) :
    isPathPrefix start remotePath = true ↔ o <+: p := by
  rw [isPathPrefix, hstart, hpath]
  simp only [decide_eq_true_eq]
  by_cases hne : o = []
  · simp [hne]
  rw [render_eq_root ho, startsWith_render ho hp hne]
  constructor
  · rintro (h | h | h)
    · exact absurd h hne
    · rw [render_injective hp ho h]
    · exact h.1
  · intro h
    by_cases heq : o = p
    · exact .inr (.inl (by rw [heq]))
    · exact .inr (.inr ⟨h, heq⟩)

theorem suffixAfterPrefix_eq (ho : Names o) (hp : Names p)
    (hstart : normalizeRemotePath start = render o)
    (hpath : normalizeRemotePath remotePath = render p) :
    suffixAfterPrefix remotePath start =
      below (if o <+: p then p.drop o.length else []) := by
  rw [suffixAfterPrefix, hstart, hpath]
  by_cases hne : o = []
  · rw [hne, render_nil, if_pos rfl, if_pos List.nil_prefix, List.length_nil, List.drop_zero]
    by_cases hempty : p = []
    · rw [hempty, render_nil, if_pos rfl, below_nil]
    · rw [if_neg (mt (render_eq_root hp).1 hempty), render_of_ne hempty]
  rw [if_neg (mt (render_eq_root ho).1 hne)]
  by_cases heq : render p = render o
  · rw [if_pos heq, render_injective hp ho heq]
    simp
  rw [if_neg heq]
  have hne' : o ≠ p := fun h => heq (by rw [h])
  by_cases hpre : o <+: p
  · have hstarts := (startsWith_render ho hp hne).2 ⟨hpre, hne'⟩
    obtain ⟨rest, rfl⟩ := hpre
    rw [hstarts, if_neg (by simp), if_pos (List.prefix_append o rest), List.drop_left,
      render_of_ne hne, render_of_ne (by simp [hne]), below_append, List.drop_left]
  · have hstarts : QString.startsWith (render p) (render o ++ [slash]) = false := by
      rw [Bool.eq_false_iff, Ne, startsWith_render ho hp hne]
      exact fun h => hpre h.1
    rw [hstarts, Bool.not_false, if_pos rfl, if_neg hpre, below_nil]

theorem joinRemotePath_eq (ho : Names o) (hp : Names p)
    (hstart : normalizeRemotePath start = render o) :
    joinRemotePath start (below p) = render (o ++ p) := by
  rw [joinRemotePath, hstart]
  by_cases hempty : p = []
  · rw [hempty, below_nil, List.isEmpty_nil, List.append_nil]
    simp
  obtain ⟨t, ht⟩ : ∃ t, below p = slash :: t := by
    obtain ⟨x, p, rfl⟩ := List.exists_cons_of_ne_nil hempty
    exact ⟨_, rfl⟩
  have hback := backslash_not_mem_below hp
  have hlast := getLast?_below hp
  rw [render_of_ne (show o ++ p ≠ [] by simp [hempty]), below_append]
  rw [ht] at hback hlast ⊢
  rw [List.isEmpty_cons, replaceChar_of_not_mem hback]
  simp only [Bool.false_eq_true, if_false, startsWith_root, if_true]
  rw [chopSlashes_of_not hlast]
  by_cases hne : o = []
  · rw [hne, render_nil, if_pos rfl, below_nil, List.nil_append]
  · rw [if_neg (mt (render_eq_root ho).1 hne), render_of_ne hne]

end

/-! ## Mappings as moves -/

/-- A mapping and the move between lists of names it stands for. -/
structure Moves (mapping : DfsPathMapping) (m : Move QChar) : Prop where
  source_names : Names m.source
  target_names : Names m.target
  source : normalizeRemotePath mapping.originalPrefix = render m.source
  target : normalizeRemotePath mapping.targetPrefix = render m.target

theorem exists_moves (mapping : DfsPathMapping) : ∃ m, Moves mapping m := by
  obtain ⟨source, hsource, hsource'⟩ := exists_names mapping.originalPrefix
  obtain ⟨target, htarget, htarget'⟩ := exists_names mapping.targetPrefix
  exact ⟨⟨source, target⟩, hsource, htarget, hsource', htarget'⟩

section

variable {mapping : DfsPathMapping} {m : Move QChar} {p o : List QString} {start : QString}

theorem names_suffixAfter (hp : Names p) : Names (suffixAfter QChar.isSpace o p) := by
  unfold suffixAfter
  split
  · exact (names_settle hp).drop _
  · exact names_nil

theorem suffixAfterPrefix_render (ho : Names o) (hp : Names p)
    (hstart : normalizeRemotePath start = render o) :
    suffixAfterPrefix (render p) start = below (suffixAfter QChar.isSpace o p) :=
  suffixAfterPrefix_eq ho (names_settle hp) hstart (normalizeRemotePath_render hp)

theorem Moves.names_forward (h : Moves mapping m) (hp : Names p) :
    Names (m.forward QChar.isSpace p) :=
  names_append.2 ⟨h.target_names, names_suffixAfter hp⟩

theorem Moves.names_backward (h : Moves mapping m) (hp : Names p) :
    Names (m.backward QChar.isSpace p) :=
  names_append.2 ⟨h.source_names, names_suffixAfter hp⟩

theorem Moves.targetPathForMapping (h : Moves mapping m) (hp : Names p) :
    targetPathForMapping mapping (render p) = render (m.forward QChar.isSpace p) := by
  rw [Dfs.targetPathForMapping, suffixAfterPrefix_render h.source_names hp h.source,
    joinRemotePath_eq h.target_names (names_suffixAfter hp) h.target, Move.forward]

theorem Moves.originalPathForMapping (h : Moves mapping m) (hp : Names p) :
    originalPathForMapping mapping (render p) = render (m.backward QChar.isSpace p) := by
  rw [Dfs.originalPathForMapping, suffixAfterPrefix_render h.target_names hp h.target,
    joinRemotePath_eq h.source_names (names_suffixAfter hp) h.source, Move.backward]

theorem settled_iff (hp : Names p) :
    Settled QChar.isSpace p ↔ normalizeRemotePath (render p) = render p := by
  rw [normalizeRemotePath_render hp]
  constructor
  · intro h
    rw [h.settle_eq]
  · intro h
    exact ⟨render_injective (names_settle hp) hp h⟩

end

end SmbBrowser.Dfs
