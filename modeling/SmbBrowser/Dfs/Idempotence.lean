import SmbBrowser.Dfs.PathSegments

/-!
# Normalising a path twice

`normalizeRemotePath` (infrastructure/smb/DfsResolvingSmbClient.cpp:20) trims a path before
it chops the slashes at its end, so white space in front of those slashes stays and is
trimmed by the next call.

Results:
* `letters_normalizeRemotePath`: a normalised path holds the characters of the trimmed one,
  its separators apart;
* `normalizeRemotePath_idempotent_iff`: when normalising twice is normalising once.
-/

namespace SmbBrowser.Dfs

open SmbBrowser.Base SmbBrowser.Qt SmbBrowser.Core

/-- The characters of a path, its separators apart. -/
def letters (remotePath : QString) : QString :=
  remotePath.filter fun c => c ≠ slash ∧ c ≠ backslash

section

variable {s t : QString} {n : ℕ}

@[simp] theorem letters_nil : letters [] = [] := rfl

@[simp] theorem letters_append : letters (s ++ t) = letters s ++ letters t := List.filter_append ..

@[simp] theorem letters_slash : letters (slash :: s) = letters s :=
  List.filter_cons_of_neg (by decide)

theorem letters_replaceChar : letters (s.replaceChar backslash slash) = letters s := by
  unfold QString.replaceChar
  induction s with
  | nil => rfl
  | cons c s ih =>
    rw [List.map_cons]
    by_cases hc : c = backslash
    · rw [if_pos hc, letters_slash, ih]
      exact (List.filter_cons_of_neg (by simp [hc])).symm
    · rw [if_neg hc]
      unfold letters at ih ⊢
      rw [List.filter_cons, List.filter_cons, ih]

theorem letters_replaceFrom :
    letters (QString.replaceFrom [slash, slash] [slash] n s) = letters s := by
  induction n generalizing s with
  | zero => rfl
  | succ n ih =>
    cases s with
    | nil => rfl
    | cons c s =>
      rw [QString.replaceFrom]
      split
      · next h =>
        obtain ⟨rest, hrest⟩ := List.isPrefixOf_iff_prefix.1 h
        rw [letters_append, ih, ← hrest, List.drop_left]
        simp
      · unfold letters at ih ⊢
        rw [List.filter_cons, List.filter_cons, ih]

theorem letters_collapseSlashes : letters (collapseSlashes n s) = letters s := by
  induction n generalizing s with
  | zero => rfl
  | succ n ih =>
    rw [collapseSlashes]
    split
    · rw [ih, QString.replaceString, letters_replaceFrom]
    · rfl

theorem letters_chopSlashes : letters (chopSlashes n s) = letters s := by
  induction n generalizing s with
  | zero => rfl
  | succ n ih =>
    rw [chopSlashes]
    split
    · next h =>
      have hlast : s.getLast? = some slash := by simpa [QString.endsWithChar] using h.2
      obtain ⟨init, rfl⟩ := List.getLast?_eq_some_iff.1 hlast
      rw [ih, List.dropLast_concat, letters_append]
      simp [letters]
    · rfl

/-- Normalising a path drops white space at its ends and moves separators. -/
theorem letters_normalizeRemotePath (remotePath : QString) :
    letters (normalizeRemotePath remotePath) = letters remotePath.trimmed := by
  unfold normalizeRemotePath
  dsimp only
  have hreplaced := letters_replaceChar (s := remotePath.trimmed)
  generalize remotePath.trimmed.replaceChar backslash slash = replaced at hreplaced ⊢
  have hcollapsed := letters_collapseSlashes (n := replaced.length) (s := replaced)
  generalize collapseSlashes replaced.length replaced = collapsed at hcollapsed ⊢
  have hfilled : letters (if collapsed.isEmpty then root else collapsed) = letters collapsed := by
    split
    · next hempty => rw [List.isEmpty_iff.1 hempty, root, letters_slash]
    · rfl
  generalize (if collapsed.isEmpty then root else collapsed) = filled at hfilled ⊢
  have hrooted : letters (if filled.startsWith root then filled else slash :: filled) =
      letters filled := by
    split
    · rfl
    · exact letters_slash
  rw [letters_chopSlashes, hrooted, hfilled, hcollapsed, hreplaced]

end

/-! ## Where the last name ends -/

section

variable {l : List QString}

theorem letters_below (hl : Names l) : letters (below l) = l.flatten := by
  induction l with
  | nil => rfl
  | cons x l ih =>
    obtain ⟨⟨-, hslash, hbackslash⟩, hrest⟩ := names_cons.1 hl
    have hx : letters x = x := by
      refine List.filter_eq_self.2 fun c hc => decide_eq_true ⟨?_, ?_⟩
      · rintro rfl
        exact hslash hc
      · rintro rfl
        exact hbackslash hc
    rw [below_cons, letters_slash, letters_append, hx, ih hrest, List.flatten_cons]

theorem letters_render (hl : Names l) : letters (render l) = l.flatten := by
  by_cases hne : l = []
  · rw [hne]
    rfl
  · rw [render_of_ne hne, letters_below hl]

/-- A path is settled when its last character, if it has one, is no white space. -/
theorem settled_iff_getLast? (hl : Names l) :
    Settled QChar.isSpace l ↔ ∀ c ∈ l.flatten.getLast?, QChar.isSpace c = false := by
  rcases List.eq_nil_or_concat l with rfl | ⟨l, x, rfl⟩
  · exact iff_of_true settled_nil (by simp)
  rw [List.concat_eq_append] at hl ⊢
  obtain ⟨x, c, rfl⟩ :=
    (List.eq_nil_or_concat x).resolve_left (names_cons.1 (names_append.1 hl).2).1.1
  rw [List.concat_eq_append] at hl ⊢
  have hlast : (l ++ [x ++ [c]]).flatten.getLast? = some c := by
    rw [List.flatten_append, List.flatten_singleton, ← List.append_assoc, List.getLast?_concat]
  rw [hlast, settled_append (List.cons_ne_nil _ _)]
  simp only [Option.mem_some_iff, forall_eq']
  constructor
  · rintro ⟨h⟩
    rw [settle] at h
    split at h
    · cases h
    have hx : (x ++ [c]).rdropWhile QChar.isSpace = x ++ [c] := List.singleton_inj.1 h
    rw [List.rdropWhile_eq_self_iff] at hx
    have hspace := hx (List.append_ne_nil_of_right_ne_nil _ (List.cons_ne_nil _ _))
    rw [List.getLast_append_singleton] at hspace
    exact Bool.eq_false_iff.2 hspace
  · intro hc
    refine ⟨?_⟩
    have hx : (x ++ [c]).rdropWhile QChar.isSpace = x ++ [c] :=
      List.rdropWhile_concat_neg _ _ _ (by rw [hc]; exact Bool.false_ne_true)
    rw [settle, hx, if_neg (List.append_ne_nil_of_right_ne_nil _ (List.cons_ne_nil _ _))]

end

/-! ## Idempotence -/

/-- Normalising twice is normalising once, unless the last character of the trimmed path
    that is not a separator is white space. -/
theorem normalizeRemotePath_idempotent_iff (remotePath : QString) :
    normalizeRemotePath (normalizeRemotePath remotePath) = normalizeRemotePath remotePath ↔
      ∀ c ∈ (letters remotePath.trimmed).getLast?, QChar.isSpace c = false := by
  obtain ⟨l, hl, hnormal⟩ := exists_names remotePath
  rw [← letters_normalizeRemotePath, hnormal, letters_render hl, ← settled_iff_getLast? hl]
  exact (settled_iff hl).symm

/-- A slash behind a space hides the space from the first call. -/
theorem not_normalizeRemotePath_idempotent :
    ¬ ∀ remotePath, normalizeRemotePath (normalizeRemotePath remotePath) =
      normalizeRemotePath remotePath := by
  intro h
  have hfirst : normalizeRemotePath (qStringLiteral "/docs /") = qStringLiteral "/docs " := by
    decide
  have hsecond : normalizeRemotePath (qStringLiteral "/docs ") = qStringLiteral "/docs" := by
    decide
  have hdocs := h (qStringLiteral "/docs /")
  rw [hfirst, hsecond] at hdocs
  exact absurd hdocs (by decide)

end SmbBrowser.Dfs
