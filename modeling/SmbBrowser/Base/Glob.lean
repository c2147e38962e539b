import Mathlib.Data.List.Basic
import Mathlib.Data.List.Infix
import Mathlib.Data.List.Forall2

/-!
# Glob patterns

A pattern over an alphabet with a letter for any sequence and a letter for any
one letter.  What a star may take can be restricted, by what it takes and what
is left behind it.

Results:
* `Glob.star_iff`, `Glob.letter_iff`: a pattern read from its first letter;
* `NarrowGlob`: matches in which a star at a star of the text takes just this
  letter; `NarrowGlob.catch_up`, why a matcher that reads such a star as a
  letter needs to remember one star only;
* `NarrowGlob.of_star_not_mem`: on a text without stars nothing is restricted.
-/

namespace SmbBrowser.Base

/-- The letters of glob patterns over `α`, and which letters are the same. -/
structure GlobLetters (α : Type) where
  star : α
  one : α
  same : α → α → Prop
  one_ne_star : one ≠ star
  same_star : ∀ c, same star c ↔ c = star

variable {α : Type} (G : GlobLetters α)

/-- A letter of the pattern, not a star, against one of the text. -/
def GlobLetters.Reads (p c : α) : Prop := p = G.one ∨ G.same p c

/-- A match of a pattern in which a star takes `taken` before `rest` only if
    `takes taken rest`. -/
inductive GlobMatches (takes : List α → List α → Prop) : List α → List α → Prop where
  | nil : GlobMatches takes [] []
  | letter {p c : α} {pattern text : List α} (hstar : p ≠ G.star) (hread : G.Reads p c)
      (h : GlobMatches takes pattern text) : GlobMatches takes (p :: pattern) (c :: text)
  | star {pattern : List α} (taken rest : List α) (htakes : takes taken rest)
      (h : GlobMatches takes pattern rest) : GlobMatches takes (G.star :: pattern) (taken ++ rest)

/-- The usual meaning of a pattern: a star takes any sequence. -/
def Glob (pattern text : List α) : Prop := GlobMatches G (fun _ _ => True) pattern text

/-- Where a star stands at a star of the text, it takes just this letter. -/
def GlobLetters.TakesStar (taken rest : List α) : Prop :=
  (taken ++ rest).head? = some G.star → taken = [G.star]

/-- The matches in which a star at a star of the text takes just this letter. -/
def NarrowGlob (pattern text : List α) : Prop := GlobMatches G G.TakesStar pattern text

variable {G}

namespace GlobMatches

variable {takes takes' : List α → List α → Prop} {pattern text : List α}

theorem mono (h : GlobMatches G takes pattern text)
    (htakes : ∀ taken rest, takes taken rest → takes' taken rest) :
    GlobMatches G takes' pattern text := by
  induction h with
  | nil => exact .nil
  | letter hstar hread _ ih => exact .letter hstar hread ih
  | star taken rest ht _ ih => exact .star taken rest (htakes _ _ ht) ih

/-- Restricting the stars only as far as the text goes. -/
theorem mono_of_suffix (h : GlobMatches G takes pattern text)
    (htakes : ∀ taken rest, taken ++ rest <:+ text → takes taken rest → takes' taken rest) :
    GlobMatches G takes' pattern text := by
  induction h with
  | nil => exact .nil
  | letter hstar hread _ ih =>
    refine .letter hstar hread (ih ?_)
    intro taken rest hsuffix
    exact htakes taken rest (hsuffix.trans (List.suffix_cons ..))
  | star taken rest ht _ ih =>
    refine .star taken rest (htakes _ _ (List.suffix_refl _) ht) (ih ?_)
    intro taken' rest' hsuffix
    exact htakes taken' rest' (hsuffix.trans (List.suffix_append ..))

theorem nil_left_iff : GlobMatches G takes [] text ↔ text = [] := by
  constructor
  · intro h
    cases h
    rfl
  · rintro rfl
    exact .nil

theorem letter_iff {p c : α} (hstar : p ≠ G.star) :
    GlobMatches G takes (p :: pattern) (c :: text) ↔
      G.Reads p c ∧ GlobMatches G takes pattern text := by
  constructor
  · intro h
    generalize htext : c :: text = whole at h
    cases h with
    | letter _ hread h =>
      cases htext
      exact ⟨hread, h⟩
    | star taken rest _ _ => exact absurd rfl hstar
  · rintro ⟨hread, h⟩
    exact .letter hstar hread h

theorem star_iff : GlobMatches G takes (G.star :: pattern) text ↔
    ∃ taken rest, text = taken ++ rest ∧ takes taken rest ∧ GlobMatches G takes pattern rest := by
  constructor
  · intro h
    cases h with
    | letter hstar _ _ => exact absurd rfl hstar
    | star taken rest ht h => exact ⟨taken, rest, rfl, ht, h⟩
  · rintro ⟨taken, rest, rfl, ht, h⟩
    exact .star taken rest ht h

end GlobMatches

namespace NarrowGlob

variable {pattern text : List α}

theorem glob (h : NarrowGlob G pattern text) : Glob G pattern text :=
  h.mono fun _ _ _ => trivial

/-- On a text without stars the narrow meaning is the usual one. -/
theorem of_star_not_mem (hstar : G.star ∉ text) (h : Glob G pattern text) :
    NarrowGlob G pattern text := by
  refine h.mono_of_suffix ?_
  intro taken rest hsuffix _ hhead
  exact absurd (hsuffix.subset (List.mem_of_mem_head? hhead)) hstar

/-- A star at a star of the text is read as a letter. -/
theorem star_star_iff :
    NarrowGlob G (G.star :: pattern) (G.star :: text) ↔ NarrowGlob G pattern text := by
  constructor
  · intro h
    obtain ⟨taken, rest, htext, htakes, h⟩ := GlobMatches.star_iff.1 h
    obtain rfl := htakes (by rw [← htext]; rfl)
    obtain rfl := List.cons.inj htext |>.2
    exact h
  · intro h
    exact .star [G.star] text (fun _ => rfl) h

/-- A star in front of another letter, or of nothing, takes any sequence. -/
theorem star_iff_of_head (hhead : text.head? ≠ some G.star) :
    NarrowGlob G (G.star :: pattern) text ↔ ∃ rest, rest <:+ text ∧ NarrowGlob G pattern rest := by
  constructor
  · intro h
    obtain ⟨taken, rest, rfl, -, h⟩ := GlobMatches.star_iff.1 h
    exact ⟨rest, List.suffix_append taken rest, h⟩
  · rintro ⟨rest, ⟨taken, rfl⟩, h⟩
    exact .star taken rest (fun hstar => absurd hstar hhead) h

theorem nil_right_iff : NarrowGlob G pattern [] ↔ ∀ p ∈ pattern, p = G.star := by
  induction pattern with
  | nil => simp [NarrowGlob, GlobMatches.nil_left_iff]
  | cons p pattern ih =>
    by_cases hstar : p = G.star
    · subst hstar
      rw [star_iff_of_head (by simp)]
      simp [List.suffix_nil, ih]
    · constructor
      · intro h
        generalize htext : ([] : List α) = text at h
        cases h with
        | letter _ _ _ => cases htext
        | star _ _ _ _ => exact absurd rfl hstar
      · intro h
        exact absurd (h p List.mem_cons_self) hstar

/-- A part `w` of the pattern was read letter by letter along `v`.  A match that
    starts later in the text still leaves a match of the rest of the pattern
    behind `v`, so a star met there makes every earlier one superfluous. -/
theorem catch_up {w v rest late : List α} (hread : List.Forall₂ G.Reads w v)
    (hlate : late <:+ v ++ rest) (h : NarrowGlob G (w ++ pattern) late) :
    ∃ s, s <:+ rest ∧ NarrowGlob G pattern s := by
  induction hread generalizing late with
  | nil => exact ⟨late, hlate, h⟩
  | @cons p c w v hpc _ ih =>
    rw [List.cons_append] at h
    rw [List.cons_append, List.suffix_cons_iff] at hlate
    by_cases hstar : p = G.star
    · subst hstar
      obtain rfl : c = G.star := by
        obtain hone | hsame := hpc
        · exact absurd hone.symm G.one_ne_star
        · exact (G.same_star c).1 hsame
      obtain ⟨taken, left, rfl, htakes, h⟩ := GlobMatches.star_iff.1 h
      refine ih ?_ h
      obtain hwhole | hlate := hlate
      · -- the star stands at the star it was read along
        obtain rfl := htakes (by rw [hwhole]; rfl)
        obtain rfl := List.cons.inj hwhole |>.2
        exact List.suffix_refl _
      · exact (List.suffix_append taken left).trans hlate
    · cases late with
      | nil =>
        generalize htext : ([] : List α) = text at h
        cases h with
        | letter _ _ _ => cases htext
        | star _ _ _ _ => exact absurd rfl hstar
      | cons d late =>
        refine ih ?_ ((GlobMatches.letter_iff hstar).1 h).2
        obtain hwhole | hlate := hlate
        · obtain rfl := List.cons.inj hwhole |>.2
          exact List.suffix_refl _
        · exact (List.suffix_cons d late).trans hlate

end NarrowGlob

end SmbBrowser.Base
