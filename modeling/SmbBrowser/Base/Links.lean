import Mathlib.Data.List.Pairwise

/-!
# Chains of linked entries

Entries that lie in one space of offsets. Whoever reads them finds at an offset
an entry and a link, the distance to the next entry; the link 0 ends the chain,
and so does an offset behind the end of the space. An entry takes up a range from
its offset on, as long as its size.

Results:
* `Chain.unique`: the links determine the chain;
* `Chain.apart_iff`: the ranges of a chain have no place in common if and only if
  every link reaches behind its entry.
-/

namespace SmbBrowser.Base

variable {α : Type} {found : ℕ → α → ℕ → Prop} {stop start : ℕ} {chain : List (ℕ × α)}

/-- The entries found from an offset on, each with its offset. -/
inductive Chain (found : ℕ → α → ℕ → Prop) (stop : ℕ) : ℕ → List (ℕ × α) → Prop
  | done {offset : ℕ} (h : stop ≤ offset) : Chain found stop offset []
  | last {offset : ℕ} {entry : α} (h : offset < stop) (hentry : found offset entry 0) :
      Chain found stop offset [(offset, entry)]
  | next {offset link : ℕ} {entry : α} {rest : List (ℕ × α)} (h : offset < stop)
      (hentry : found offset entry link) (hlink : link ≠ 0)
      (hrest : Chain found stop (offset + link) rest) :
      Chain found stop offset ((offset, entry) :: rest)

/-- The offsets the links lead to. -/
inductive Reached (links : ℕ → ℕ → Prop) (start : ℕ) : ℕ → Prop
  | first : Reached links start start
  | next {offset link : ℕ} (h : Reached links start offset) (hlink : links offset link) :
      Reached links start (offset + link)

/-- Two entries have no place in common. -/
def Apart (size : ℕ × α → ℕ) (x y : ℕ × α) : Prop :=
  x.1 + size x ≤ y.1 ∨ y.1 + size y ≤ x.1

/-- There is one entry and one link at an offset. -/
def Functional (found : ℕ → α → ℕ → Prop) : Prop :=
  ∀ {offset entry link entry' link'}, found offset entry link → found offset entry' link' →
    entry = entry' ∧ link = link'

/-! ## One chain -/

theorem Chain.unique {chain' : List (ℕ × α)} (h : Chain found stop start chain)
    (h' : Chain found stop start chain') (hfound : Functional found) : chain = chain' := by
  induction h generalizing chain' with
  | done hend =>
    cases h' with
    | done => rfl
    | last hlt => omega
    | next hlt => omega
  | last hlt hentry =>
    cases h' with
    | done hend => omega
    | last _ hentry' => rw [(hfound hentry hentry').1]
    | next _ hentry' hlink => exact absurd (hfound hentry hentry').2.symm hlink
  | next hlt hentry hlink _ ih =>
    cases h' with
    | done hend => omega
    | last _ hentry' => exact absurd (hfound hentry hentry').2 hlink
    | next _ hentry' _ hrest' =>
      obtain ⟨hsame, rfl⟩ := hfound hentry hentry'
      rw [hsame, ih hrest']

theorem Chain.start_le (h : Chain found stop start chain) : ∀ x ∈ chain, start ≤ x.1 := by
  induction h with
  | done => simp
  | last => simp
  | next _ _ _ _ ih =>
    intro x hx
    obtain rfl | hx := List.mem_cons.1 hx
    · exact Nat.le_refl _
    · have hle := ih x hx
      omega

/-- Every entry of a chain was found where it lies. -/
theorem Chain.found_at (h : Chain found stop start chain) :
    ∀ x ∈ chain, x.1 < stop ∧ ∃ link, found x.1 x.2 link := by
  induction h with
  | done => simp
  | last hlt hentry =>
    intro x hx
    obtain rfl := List.mem_singleton.1 hx
    exact ⟨hlt, 0, hentry⟩
  | next hlt hentry _ _ ih =>
    intro x hx
    obtain rfl | hx := List.mem_cons.1 hx
    · exact ⟨hlt, _, hentry⟩
    · exact ih x hx

/-! ## Ranges -/

theorem Reached.start_le {links : ℕ → ℕ → Prop} {offset : ℕ} (h : Reached links start offset) :
    start ≤ offset := by
  induction h with
  | first => exact Nat.le_refl _
  | next _ _ ih => omega

/-- A link in front of the others. -/
theorem Reached.cons {links : ℕ → ℕ → Prop} {link offset : ℕ} (hlink : links start link)
    (h : Reached links (start + link) offset) : Reached links start offset := by
  induction h with
  | first => exact Reached.next .first hlink
  | next _ hlink' ih => exact ih.next hlink'

/-- The link 0 leads nowhere. -/
theorem Reached.stays {links : ℕ → ℕ → Prop} {offset : ℕ}
    (hzero : ∀ {link}, links start link → link = 0) (h : Reached links start offset) :
    offset = start := by
  induction h with
  | first => rfl
  | next _ hlink ih =>
    subst ih
    rw [hzero hlink, Nat.add_zero]

/-- What is reached is reached in no step or over the first link. -/
theorem Reached.cases_first {links : ℕ → ℕ → Prop} {link offset : ℕ}
    (h : Reached links start offset) (hlink : links start link)
    (hunique : ∀ {offset link link'}, links offset link → links offset link' → link = link') :
    offset = start ∨ Reached links (start + link) offset := by
  induction h with
  | first => exact .inl rfl
  | next _ hlink' ih =>
    obtain rfl | h := ih
    · rw [hunique hlink' hlink]
      exact .inr .first
    · exact .inr (h.next hlink')

section

variable {size : ℕ × α → ℕ} {links : ℕ → ℕ → Prop}

/-- Every link from an offset on that is not the last one reaches behind its entry. -/
def Covers (links : ℕ → ℕ → Prop) (found : ℕ → α → ℕ → Prop) (size : ℕ × α → ℕ) (start : ℕ) :
    Prop :=
  ∀ {offset entry link}, Reached links start offset → found offset entry link → link ≠ 0 →
    size (offset, entry) ≤ link

theorem Covers.tail {link : ℕ} (hlink : links start link) (h : Covers links found size start) :
    Covers links found size (start + link) :=
  fun hreached => h (hreached.cons hlink)

/-- Links that reach behind their entries keep the entries apart. -/
theorem Chain.apart (h : Chain found stop start chain)
    (hlinks : ∀ {offset entry link}, found offset entry link → links offset link)
    (hcovers : Covers links found size start) : chain.Pairwise (Apart size) := by
  induction h with
  | done => exact .nil
  | last => exact List.pairwise_singleton _ _
  | next _ hentry hlink hrest ih =>
    refine List.pairwise_cons.2 ⟨?_, ih (hcovers.tail (hlinks hentry))⟩
    intro x hx
    have hfits := hcovers .first hentry hlink
    have hbehind := hrest.start_le x hx
    exact .inl (by omega)

/-- Where the links lead inside the space there is an entry. -/
theorem Chain.of_reached {offset : ℕ} (h : Chain found stop start chain)
    (hlinks : ∀ {offset entry link}, found offset entry link → links offset link)
    (hunique : ∀ {offset link link'}, links offset link → links offset link' → link = link')
    (hreached : Reached links start offset) (hlt : offset < stop) :
    ∃ entry link, found offset entry link := by
  induction h with
  | done =>
    have hle := hreached.start_le
    omega
  | last _ hentry =>
    obtain rfl := hreached.stays fun hlink => hunique hlink (hlinks hentry)
    exact ⟨_, _, hentry⟩
  | next _ hentry _ _ ih =>
    obtain rfl | hreached := hreached.cases_first (hlinks hentry) hunique
    · exact ⟨_, _, hentry⟩
    · exact ih hreached

/-- The first entry of a chain lies where the chain starts. -/
theorem Chain.head (h : Chain found stop start chain) :
    stop ≤ start ∨ ∃ entry rest, chain = (start, entry) :: rest := by
  cases h with
  | done hend => exact .inl hend
  | last => exact .inr ⟨_, _, rfl⟩
  | next => exact .inr ⟨_, _, rfl⟩

/-- Entries that lie apart have links that reach behind them. -/
theorem Chain.covers (h : Chain found stop start chain) (hfound : Functional found)
    (hlinks : ∀ {offset entry link}, found offset entry link → links offset link)
    (hunique : ∀ {offset link link'}, links offset link → links offset link' → link = link')
    (hinside : ∀ {offset entry link}, found offset entry link →
      0 < size (offset, entry) ∧ offset + size (offset, entry) ≤ stop)
    (hapart : chain.Pairwise (Apart size)) : Covers links found size start := by
  induction h with
  | done hend =>
    intro offset entry link hreached hentry
    have hle := hreached.start_le
    obtain ⟨hpos, hfits⟩ := hinside hentry
    omega
  | last hlt hentry =>
    intro offset entry' link hreached hentry' hlink
    obtain rfl := hreached.stays fun hlink => hunique hlink (hlinks hentry)
    exact absurd (hfound hentry' hentry).2 hlink
  | @next start link entry rest hlt hentry hlink hrest ih =>
    obtain ⟨hfirst, hrestApart⟩ := List.pairwise_cons.1 hapart
    intro offset entry' link' hreached hentry' hlink'
    obtain rfl | hreached := hreached.cases_first (hlinks hentry) hunique
    · obtain ⟨rfl, rfl⟩ := hfound hentry hentry'
      obtain ⟨-, hfits⟩ := hinside hentry
      obtain hend | ⟨second, others, rfl⟩ := hrest.head
      · omega
      · obtain ⟨_, link'', hsecond⟩ := hrest.found_at (offset + link, second) List.mem_cons_self
        obtain ⟨hpos, -⟩ := hinside hsecond
        have hbetween := hfirst (offset + link, second) List.mem_cons_self
        unfold Apart at hbetween
        simp only at hbetween
        omega
    · exact ih hrestApart hreached hentry' hlink'

/-- **The entries of a chain lie apart** if and only if every link from its start on
    that is not the last one reaches behind its entry. -/
theorem Chain.apart_iff (h : Chain found stop start chain) (hfound : Functional found)
    (hlinks : ∀ {offset entry link}, found offset entry link → links offset link)
    (hunique : ∀ {offset link link'}, links offset link → links offset link' → link = link')
    (hinside : ∀ {offset entry link}, found offset entry link →
      0 < size (offset, entry) ∧ offset + size (offset, entry) ≤ stop) :
    chain.Pairwise (Apart size) ↔ Covers links found size start :=
  ⟨h.covers hfound hlinks hunique hinside, h.apart hlinks⟩

end

end SmbBrowser.Base
