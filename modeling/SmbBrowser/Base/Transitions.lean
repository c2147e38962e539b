import Mathlib.Data.List.Basic
import Mathlib.Logic.Basic

/-!
# Runs of a transition function

A transition function takes an action in a state, or refuses it.  A run takes a list of
actions one after another.

Results:
* `run_append`: a run of two lists is a run of the first followed by one of the second;
* `run_invariant`: what every step keeps, a run keeps;
* `run_invariant_taken`: the same when each step of the run meets a condition in the state
  it is taken in;
* `visited_pairwise`: what steps relate, a run relates, from each state to the later ones.
-/

namespace SmbBrowser.Base.Transitions

variable {σ α : Type} {step : σ → α → Option σ}

/-- Take the actions one after another. -/
def run (step : σ → α → Option σ) : σ → List α → Option σ
  | s, [] => some s
  | s, a :: actions => (step s a).bind fun s' => run step s' actions

@[simp] theorem run_nil {s : σ} : run step s [] = some s := rfl

theorem run_cons {s s' : σ} {a : α} {actions : List α} :
    run step s (a :: actions) = some s' ↔ ∃ m, step s a = some m ∧ run step m actions = some s' :=
  Option.bind_eq_some_iff

/-- A run of two lists is a run of the first followed by one of the second. -/
theorem run_append {s s' : σ} {actions actions' : List α} :
    run step s (actions ++ actions') = some s' ↔
      ∃ m, run step s actions = some m ∧ run step m actions' = some s' := by
  induction actions generalizing s with
  | nil =>
    rw [List.nil_append]
    constructor
    · intro h
      exact ⟨s, rfl, h⟩
    · rintro ⟨m, hm, h⟩
      obtain rfl := Option.some.inj hm
      exact h
  | cons a actions ih =>
    rw [List.cons_append, run_cons]
    constructor
    · rintro ⟨m, ha, h⟩
      obtain ⟨m', hm, hrest⟩ := ih.1 h
      exact ⟨m', run_cons.2 ⟨m, ha, hm⟩, hrest⟩
    · rintro ⟨m', hm, hrest⟩
      obtain ⟨m, ha, h⟩ := run_cons.1 hm
      exact ⟨m, ha, ih.2 ⟨m', h, hrest⟩⟩

/-- What every step keeps, a run keeps. -/
theorem run_invariant {P : σ → Prop} (hstep : ∀ s a s', P s → step s a = some s' → P s') {s s' : σ}
    {actions : List α} (hrun : run step s actions = some s') (h : P s) : P s' := by
  induction actions generalizing s with
  | nil =>
    obtain rfl := Option.some.inj hrun
    exact h
  | cons a actions ih =>
    obtain ⟨m, ha, hrest⟩ := run_cons.1 hrun
    exact ih hrest (hstep s a m h ha)

/-- The run from `s₀` comes to take the action `a` in the state `s`. -/
def Taken (step : σ → α → Option σ) (s₀ : σ) (actions : List α) (s : σ) (a : α) : Prop :=
  ∃ before after, actions = before ++ a :: after ∧ run step s₀ before = some s

theorem Taken.head {s₀ : σ} {a : α} {actions : List α} : Taken step s₀ (a :: actions) s₀ a :=
  ⟨[], actions, rfl, rfl⟩

theorem Taken.tail {s₀ s₁ s : σ} {a b : α} {actions : List α} (hstep : step s₀ a = some s₁)
    (h : Taken step s₁ actions s b) : Taken step s₀ (a :: actions) s b := by
  obtain ⟨before, after, rfl, hrun⟩ := h
  exact ⟨a :: before, after, rfl, run_cons.2 ⟨s₁, hstep, hrun⟩⟩

/-- What is taken in a run that ends leads on to its end. -/
theorem Taken.rest {s₀ s s' : σ} {a : α} {actions : List α} (h : Taken step s₀ actions s a)
    (hrun : run step s₀ actions = some s') :
    ∃ m after, step s a = some m ∧ run step m after = some s' := by
  obtain ⟨before, after, rfl, hbefore⟩ := h
  obtain ⟨m, hm, hafter⟩ := run_append.1 hrun
  obtain rfl := Option.some.inj (hbefore.symm.trans hm)
  obtain ⟨m', hstep, hrest⟩ := run_cons.1 hafter
  exact ⟨m', after, hstep, hrest⟩

/-- What holds in the state in which an action is taken, of a property that every step
    keeps. -/
theorem Taken.invariant {P : σ → Prop} (hstep : ∀ s a s', P s → step s a = some s' → P s')
    {s₀ s : σ} {a : α} {actions : List α} (h : Taken step s₀ actions s a) (h₀ : P s₀) : P s := by
  obtain ⟨before, after, -, hrun⟩ := h
  exact run_invariant hstep hrun h₀

/-- What every step keeps that meets a condition, a run keeps whose steps all meet it. -/
theorem run_invariant_taken {P : σ → Prop} {C : σ → α → Prop}
    (hstep : ∀ s a s', P s → C s a → step s a = some s' → P s') {s s' : σ} {actions : List α}
    (hrun : run step s actions = some s') (htaken : ∀ m a, Taken step s actions m a → C m a)
    (h : P s) : P s' := by
  induction actions generalizing s with
  | nil =>
    obtain rfl := Option.some.inj hrun
    exact h
  | cons a actions ih =>
    obtain ⟨m, ha, hrest⟩ := run_cons.1 hrun
    exact ih hrest (fun m' b hb => htaken m' b (hb.tail ha)) (hstep s a m h (htaken s a .head) ha)

theorem taken_cons {s₀ s : σ} {a b : α} {actions : List α}
    (h : Taken step s₀ (a :: actions) s b) :
    (s = s₀ ∧ b = a) ∨ ∃ s₁, step s₀ a = some s₁ ∧ Taken step s₁ actions s b := by
  obtain ⟨before, after, hactions, hrun⟩ := h
  cases before with
  | nil =>
    obtain ⟨rfl, -⟩ := List.cons.inj hactions
    exact Or.inl ⟨(Option.some.inj hrun).symm, rfl⟩
  | cons a' before =>
    obtain ⟨rfl, rfl⟩ := List.cons.inj hactions
    obtain ⟨s₁, hstep, hrest⟩ := run_cons.1 hrun
    exact Or.inr ⟨s₁, hstep, before, after, rfl, hrest⟩

/-- Refuse what does not meet a condition. -/
def guarded (C : σ → α → Bool) (step : σ → α → Option σ) (s : σ) (a : α) : Option σ :=
  if C s a then step s a else none

theorem guarded_eq_some {C : σ → α → Bool} {s s' : σ} {a : α} :
    guarded C step s a = some s' ↔ C s a = true ∧ step s a = some s' := by
  unfold guarded
  split
  · next h => exact ⟨fun hstep => ⟨h, hstep⟩, fun h => h.2⟩
  · next h => exact iff_of_false (by rintro ⟨⟩) fun hstep => h hstep.1

/-- A run that refuses what does not meet a condition is a run whose steps all meet it. -/
theorem run_guarded {C : σ → α → Bool} {s s' : σ} {actions : List α}
    (h : run (guarded C step) s actions = some s') :
    run step s actions = some s' ∧ ∀ m a, Taken step s actions m a → C m a = true := by
  induction actions generalizing s with
  | nil =>
    refine ⟨h, ?_⟩
    rintro m a ⟨before, after, hnil, -⟩
    exact absurd hnil.symm (List.append_ne_nil_of_right_ne_nil _ (List.cons_ne_nil _ _))
  | cons a actions ih =>
    obtain ⟨s₁, hguarded, hrest⟩ := run_cons.1 h
    obtain ⟨hC, hstep⟩ := guarded_eq_some.1 hguarded
    obtain ⟨hrun, htaken⟩ := ih hrest
    refine ⟨run_cons.2 ⟨s₁, hstep, hrun⟩, ?_⟩
    intro m b hb
    rcases taken_cons hb with ⟨rfl, rfl⟩ | ⟨s₂, hstep', hlater⟩
    · exact hC
    · obtain rfl := Option.some.inj (hstep.symm.trans hstep')
      exact htaken m b hlater

/-! ## The states of a run -/

/-- The states a run comes through, from the first on. -/
def visited (step : σ → α → Option σ) : σ → List α → List σ
  | s, [] => [s]
  | s, a :: actions => s :: ((step s a).map fun s' => visited step s' actions).getD []

/-- What a step relates, a run relates: earlier states are related to later ones. -/
theorem visited_pairwise {P : σ → Prop} {R : σ → σ → Prop}
    (hkeep : ∀ s a s', P s → step s a = some s' → P s')
    (hstep : ∀ s a s', P s → step s a = some s' → R s s') (hrefl : ∀ s, R s s)
    (htrans : ∀ s s' s'', R s s' → R s' s'' → R s s'') {s : σ} (hs : P s) (actions : List α) :
    (visited step s actions).Pairwise R ∧ ∀ s' ∈ visited step s actions, R s s' := by
  induction actions generalizing s with
  | nil => exact ⟨List.pairwise_singleton _ _, by simp [visited, hrefl]⟩
  | cons a actions ih =>
    rw [visited]
    cases hnext : step s a with
    | none =>
      refine ⟨List.pairwise_singleton _ _, ?_⟩
      intro s' hs'
      obtain rfl := List.mem_singleton.1 hs'
      exact hrefl s'
    | some m =>
      obtain ⟨hpairwise, hfrom⟩ := ih (hkeep s a m hs hnext)
      have hlater : ∀ s' ∈ visited step m actions, R s s' := fun s' hs' =>
        htrans s m s' (hstep s a m hs hnext) (hfrom s' hs')
      refine ⟨List.pairwise_cons.2 ⟨hlater, hpairwise⟩, ?_⟩
      intro s' hs'
      obtain rfl | hs' := List.mem_cons.1 hs'
      · exact hrefl s'
      · exact hlater s' hs'

end SmbBrowser.Base.Transitions
