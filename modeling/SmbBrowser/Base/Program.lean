import Mathlib.Data.List.Basic
import Mathlib.Logic.Basic

/-!
# Programs that interact with an environment

A `Program I α` is a computation that asks its environment questions from the
interface `I` and ends with a value of type `α`.  The environment is not part
of the program: a run is a program together with the answers it received.

Results:
* `runs_bind`: a run of `p >>= f` is a run of `p` followed by a run of `f`;
* `Meets`: the weakest precondition of a program against a contract, which says
  what the program may ask in a state and what the environment may answer there;
* `Meets.sound`, `Meets.allowed`: what a program that meets its contract
  guarantees at the end of a run and at every question of it;
* `Meets.tracked`, `Meets.history`: a property of a state computed from the events
  of a run, and of the events themselves;
* `meets_history_of_runs`: the way back, from runs to a weakest precondition;
* `MeetsE`, `MeetsS`, `MeetsT`: the same for programs that throw, that throw and keep a
  state, and that keep a state;
* `Program.serve`: an executable environment, and the run it produces.
-/

namespace SmbBrowser.Base

/-- The questions a program can ask and, for each of them, the answers. -/
structure Interface where
  Op : Type
  Ans : Op → Type

/-- One question together with the answer it received. -/
structure Event (I : Interface) where
  op : I.Op
  ans : I.Ans op

/-- A computation that asks questions from `I` and returns an `α`. -/
inductive Program (I : Interface) (α : Type) where
  | pure (a : α)
  | ask (op : I.Op) (k : I.Ans op → Program I α)

variable {I : Interface} {α β γ S : Type}

namespace Program

/-- Run `p`, then `f` on its value. -/
def bind : Program I α → (α → Program I β) → Program I β
  | .pure a, f => f a
  | .ask op k, f => .ask op fun ans => (k ans).bind f

instance : Monad (Program I) where
  pure := .pure
  bind := bind

@[simp] theorem pure_eq (a : α) : (Pure.pure a : Program I α) = .pure a := rfl
@[simp] theorem bind_eq (p : Program I α) (f : α → Program I β) : p >>= f = p.bind f := rfl

@[simp] theorem bind_pure_left (a : α) (f : α → Program I β) : (Program.pure a).bind f = f a := rfl
@[simp] theorem bind_ask (op : I.Op) (k : I.Ans op → Program I α) (f : α → Program I β) :
    (Program.ask op k).bind f = .ask op fun ans => (k ans).bind f := rfl

theorem bind_pure_right (p : Program I α) : p.bind .pure = p := by
  induction p with
  | pure a => rfl
  | ask op k ih => simp only [bind_ask, ih]

theorem bind_assoc (p : Program I α) (f : α → Program I β) (g : β → Program I γ) :
    (p.bind f).bind g = p.bind fun a => (f a).bind g := by
  induction p with
  | pure a => rfl
  | ask op k ih => simp only [bind_ask, ih]

instance : LawfulMonad (Program I) :=
  LawfulMonad.mk' _ (fun p => bind_pure_right p) (fun _ _ => rfl) (fun p f g => bind_assoc p f g)

/-- Ask one question and return its answer. -/
def perform (op : I.Op) : Program I (I.Ans op) := .ask op .pure

@[simp] theorem perform_bind (op : I.Op) (f : I.Ans op → Program I β) :
    (perform op).bind f = .ask op f := rfl

/-! ## Runs -/

/-- `Runs p es a`: with the answers recorded in `es`, the program `p` asks
    exactly the questions of `es` and returns `a`. -/
inductive Runs : Program I α → List (Event I) → α → Prop where
  | pure (a : α) : Runs (.pure a) [] a
  | ask {op : I.Op} {k : I.Ans op → Program I α} {es : List (Event I)} {a : α} (ans : I.Ans op) :
      Runs (k ans) es a → Runs (.ask op k) (⟨op, ans⟩ :: es) a

@[simp] theorem runs_pure {a b : α} {es : List (Event I)} :
    Runs (.pure a : Program I α) es b ↔ es = [] ∧ b = a := by
  constructor
  · intro h
    cases h
    exact ⟨rfl, rfl⟩
  · rintro ⟨rfl, rfl⟩
    exact .pure b

theorem runs_ask {op : I.Op} {k : I.Ans op → Program I α} {es : List (Event I)} {a : α} :
    Runs (.ask op k) es a ↔ ∃ ans rest, es = ⟨op, ans⟩ :: rest ∧ Runs (k ans) rest a := by
  constructor
  · intro h
    cases h with
    | ask ans h => exact ⟨ans, _, rfl, h⟩
  · rintro ⟨ans, rest, rfl, h⟩
    exact .ask ans h

/-- A run of `p >>= f` is a run of `p` followed by a run of `f`. -/
theorem runs_bind {p : Program I α} {f : α → Program I β} {es : List (Event I)} {b : β} :
    Runs (p.bind f) es b ↔
      ∃ es₁ a es₂, es = es₁ ++ es₂ ∧ Runs p es₁ a ∧ Runs (f a) es₂ b := by
  induction p generalizing es with
  | pure a =>
    constructor
    · intro h
      exact ⟨[], a, es, rfl, .pure a, h⟩
    · rintro ⟨es₁, a', es₂, rfl, h₁, h₂⟩
      obtain ⟨rfl, rfl⟩ := runs_pure.1 h₁
      exact h₂
  | ask op k ih =>
    rw [bind_ask, runs_ask]
    constructor
    · rintro ⟨ans, rest, rfl, h⟩
      obtain ⟨es₁, a, es₂, rfl, h₁, h₂⟩ := (ih ans).1 h
      exact ⟨⟨op, ans⟩ :: es₁, a, es₂, rfl, .ask ans h₁, h₂⟩
    · rintro ⟨es₁, a, es₂, rfl, h₁, h₂⟩
      obtain ⟨ans, rest, rfl, h⟩ := runs_ask.1 h₁
      exact ⟨ans, rest ++ es₂, rfl, (ih ans).2 ⟨rest, a, es₂, rfl, h, h₂⟩⟩

end Program

/-! ## Contracts -/

/-- What a program may ask in a state of its environment, and how an event can
    change that state. -/
structure Contract (I : Interface) (S : Type) where
  allows : S → I.Op → Prop
  step : S → Event I → S → Prop

namespace Contract

/-- The environment moves from `s` to `s'` along the events `es`. -/
def Steps (C : Contract I S) : S → List (Event I) → S → Prop
  | s, [], s' => s' = s
  | s, e :: es, s' => ∃ m, C.step s e m ∧ C.Steps m es s'

@[simp] theorem steps_nil {C : Contract I S} {s s' : S} : C.Steps s [] s' ↔ s' = s := Iff.rfl

@[simp] theorem steps_cons {C : Contract I S} {s s' : S} {e : Event I} {es : List (Event I)} :
    C.Steps s (e :: es) s' ↔ ∃ m, C.step s e m ∧ C.Steps m es s' := Iff.rfl

theorem steps_append {C : Contract I S} {s s' : S} {es₁ es₂ : List (Event I)} :
    C.Steps s (es₁ ++ es₂) s' ↔ ∃ m, C.Steps s es₁ m ∧ C.Steps m es₂ s' := by
  induction es₁ generalizing s with
  | nil => simp
  | cons e es₁ ih =>
    simp only [List.cons_append, steps_cons, ih]
    constructor
    · rintro ⟨m, h, m', h₁, h₂⟩
      exact ⟨m', ⟨m, h, h₁⟩, h₂⟩
    · rintro ⟨m', ⟨m, h, h₁⟩, h₂⟩
      exact ⟨m, h, m', h₁, h₂⟩

/-- Every question of `es` is allowed in the state the environment has when it
    is asked. -/
def AllowsAll (C : Contract I S) : S → List (Event I) → Prop
  | _, [] => True
  | s, e :: es => C.allows s e.op ∧ ∀ m, C.step s e m → C.AllowsAll m es

@[simp] theorem allowsAll_nil {C : Contract I S} {s : S} : C.AllowsAll s [] := trivial

@[simp] theorem allowsAll_cons {C : Contract I S} {s : S} {e : Event I} {es : List (Event I)} :
    C.AllowsAll s (e :: es) ↔ C.allows s e.op ∧ ∀ m, C.step s e m → C.AllowsAll m es := Iff.rfl

end Contract

open Program

/-- The weakest precondition of a program against a contract: from `s`, every
    question it asks is allowed and every run ends in `Q`. -/
def Meets (C : Contract I S) : Program I α → (α → S → Prop) → S → Prop
  | .pure a, Q, s => Q a s
  | .ask op k, Q, s => C.allows s op ∧ ∀ ans m, C.step s ⟨op, ans⟩ m → Meets C (k ans) Q m

section Meets

variable {C : Contract I S} {s : S}

@[simp] theorem meets_pure {a : α} {Q : α → S → Prop} :
    Meets C (.pure a : Program I α) Q s ↔ Q a s := Iff.rfl

@[simp] theorem meets_ask {op : I.Op} {k : I.Ans op → Program I α} {Q : α → S → Prop} :
    Meets C (.ask op k) Q s ↔
      C.allows s op ∧ ∀ ans m, C.step s ⟨op, ans⟩ m → Meets C (k ans) Q m := Iff.rfl

theorem meets_bind {p : Program I α} {f : α → Program I β} {Q : β → S → Prop} :
    Meets C (p.bind f) Q s ↔ Meets C p (fun a m => Meets C (f a) Q m) s := by
  induction p generalizing s with
  | pure a => exact Iff.rfl
  | ask op k ih => simp only [bind_ask, meets_ask, ih]

theorem Meets.mono {p : Program I α} {Q Q' : α → S → Prop} (h : Meets C p Q s)
    (hQ : ∀ a m, Q a m → Q' a m) : Meets C p Q' s := by
  induction p generalizing s with
  | pure a => exact hQ a s h
  | ask op k ih => exact ⟨h.1, fun ans m hm => ih ans (h.2 ans m hm)⟩

theorem Meets.bind {p : Program I α} {f : α → Program I β} {P : α → S → Prop}
    {Q : β → S → Prop} (h : Meets C p P s) (hf : ∀ a m, P a m → Meets C (f a) Q m) :
    Meets C (p.bind f) Q s :=
  meets_bind.2 (h.mono hf)

theorem Meets.and {p : Program I α} {Q Q' : α → S → Prop} (h : Meets C p Q s)
    (h' : Meets C p Q' s) : Meets C p (fun a m => Q a m ∧ Q' a m) s := by
  induction p generalizing s with
  | pure a => exact ⟨h, h'⟩
  | ask op k ih => exact ⟨h.1, fun ans m hm => ih ans (h.2 ans m hm) (h'.2 ans m hm)⟩

/-- A run of a program that meets its contract ends in the postcondition. -/
theorem Meets.sound {p : Program I α} {Q : α → S → Prop} {es : List (Event I)} {a : α} {s' : S}
    (h : Meets C p Q s) (hr : Runs p es a) (hs : C.Steps s es s') : Q a s' := by
  induction hr generalizing s with
  | pure a =>
    obtain rfl := Contract.steps_nil.1 hs
    exact h
  | ask ans _ ih =>
    obtain ⟨m, hm, hs⟩ := hs
    exact ih (h.2 ans m hm) hs

/-- Every question asked in a run of a program that meets its contract is
    allowed. -/
theorem Meets.allowed {p : Program I α} {Q : α → S → Prop} {es : List (Event I)} {a : α}
    (h : Meets C p Q s) (hr : Runs p es a) : C.AllowsAll s es := by
  induction hr generalizing s with
  | pure a => trivial
  | ask ans _ ih => exact ⟨h.1, fun m hm => ih (h.2 ans m hm)⟩

end Meets

/-! ## Recording environments

An environment that answers anything, whose state is computed from the events:
what a program meets against it holds of every run. -/

/-- The contract that allows everything and moves the state by `after`. -/
def Contract.tracking (after : S → Event I → S) : Contract I S where
  allows _ _ := True
  step s e s' := s' = after s e

theorem Contract.steps_tracking {after : S → Event I → S} {s s' : S} {es : List (Event I)} :
    (Contract.tracking after).Steps s es s' ↔ s' = es.foldl after s := by
  induction es generalizing s with
  | nil => exact Iff.rfl
  | cons e es ih =>
    rw [Contract.steps_cons]
    constructor
    · rintro ⟨m, rfl, h⟩
      exact ih.1 h
    · intro h
      exact ⟨after s e, rfl, ih.2 h⟩

@[simp] theorem meets_tracking_ask {after : S → Event I → S} {op : I.Op}
    {k : I.Ans op → Program I α} {Q : α → S → Prop} {s : S} :
    Meets (.tracking after) (.ask op k) Q s ↔
      ∀ ans, Meets (.tracking after) (k ans) Q (after s ⟨op, ans⟩) := by
  constructor
  · intro h ans
    exact h.2 ans _ rfl
  · intro h
    refine ⟨trivial, ?_⟩
    rintro ans m rfl
    exact h ans

/-- What holds of the tracked state after every run. -/
theorem Meets.tracked {after : S → Event I → S} {p : Program I α} {Q : α → S → Prop} {s : S}
    {es : List (Event I)} {a : α} (h : Meets (.tracking after) p Q s) (hr : Runs p es a) :
    Q a (es.foldl after s) :=
  h.sound hr (Contract.steps_tracking.2 rfl)

/-- The contract whose state is the list of events so far. -/
def Contract.history : Contract I (List (Event I)) := .tracking fun es e => es ++ [e]

theorem foldl_history (es es' : List (Event I)) :
    es'.foldl (fun es e => es ++ [e]) es = es ++ es' := by
  induction es' generalizing es with
  | nil => simp
  | cons e es' ih => rw [List.foldl_cons, ih, List.append_assoc, List.singleton_append]

/-- What holds of the events of every run, after those so far. -/
theorem Meets.after {p : Program I α} {Q : α → List (Event I) → Prop} {es₀ es : List (Event I)}
    {a : α} (h : Meets .history p Q es₀) (hr : Runs p es a) : Q a (es₀ ++ es) := by
  have hfinal := h.tracked hr
  rwa [foldl_history] at hfinal

/-- What holds of the events of every run. -/
theorem Meets.history {p : Program I α} {Q : α → List (Event I) → Prop} {es : List (Event I)}
    {a : α} (h : Meets .history p Q []) (hr : Runs p es a) : Q a es :=
  h.after hr

/-- What holds of every run, as a weakest precondition: the run's events come
    after those so far. -/
theorem meets_history_of_runs {p : Program I α} {Q : α → List (Event I) → Prop}
    (h : ∀ es a, Runs p es a → Q a es) (es : List (Event I)) :
    Meets .history p (fun a es' => ∃ added, es' = es ++ added ∧ Q a added) es := by
  induction p generalizing Q es with
  | pure a => exact ⟨[], (List.append_nil es).symm, h _ a (.pure a)⟩
  | ask op k ih =>
    refine ⟨trivial, ?_⟩
    rintro ans m rfl
    refine (ih ans (fun es' a hrun => h _ a (.ask ans hrun)) _).mono ?_
    rintro a es' ⟨added, rfl, hadded⟩
    exact ⟨⟨op, ans⟩ :: added, by rw [List.append_assoc, List.singleton_append], hadded⟩

/-! ## Programs that throw, programs with a state

The weakest preconditions of `ExceptT ε (Program I)` and of
`ExceptT ε (StateT σ (Program I))`: the postcondition also speaks of the
exception and of the state the program leaves. -/

variable {ε σ : Type}

/-- `Meets` for a program that may throw. -/
def MeetsE (C : Contract I S) (p : ExceptT ε (Program I) α) (Q : Except ε α → S → Prop) (s : S) :
    Prop :=
  Meets C p.run Q s

/-- `Meets` for a program that may throw and has a state of its own. -/
def MeetsS (C : Contract I S) (p : ExceptT ε (StateT σ (Program I)) α)
    (Q : Except ε α → σ → S → Prop) (st : σ) (s : S) : Prop :=
  Meets C (p.run.run st) (fun r m => Q r.1 r.2 m) s

section MeetsE

variable {C : Contract I S} {s : S} {st : σ}

@[simp] theorem meetsE_pure {a : α} {Q : Except ε α → S → Prop} :
    MeetsE C (pure a : ExceptT ε (Program I) α) Q s ↔ Q (.ok a) s := Iff.rfl

@[simp] theorem meetsE_throw {e : ε} {Q : Except ε α → S → Prop} :
    MeetsE C (throw e : ExceptT ε (Program I) α) Q s ↔ Q (.error e) s := Iff.rfl

@[simp] theorem meetsE_mk {p : Program I (Except ε α)} {Q : Except ε α → S → Prop} :
    MeetsE C (ExceptT.mk p) Q s ↔ Meets C p Q s := Iff.rfl

theorem meetsE_lift {p : Program I α} {Q : Except ε α → S → Prop} :
    MeetsE C (ExceptT.lift p) Q s ↔ Meets C p (fun a m => Q (.ok a) m) s := by
  show Meets C (p.bind fun a => .pure (.ok a)) Q s ↔ _
  rw [meets_bind]
  exact Iff.rfl

theorem meetsE_bind {p : ExceptT ε (Program I) α} {f : α → ExceptT ε (Program I) β}
    {Q : Except ε β → S → Prop} :
    MeetsE C (p >>= f) Q s ↔
      MeetsE C p (fun r m => match r with
        | .ok a => MeetsE C (f a) Q m
        | .error e => Q (.error e) m) s := by
  have hbind : (p >>= f).run = p.run.bind fun r => match r with
      | .ok a => (f a).run
      | .error e => .pure (.error e) := by
    show p.run.bind _ = _
    congr 1
    funext r
    obtain (e | a) := r
    · rfl
    · rfl
  rw [MeetsE, hbind, meets_bind]
  constructor
  · intro h
    refine h.mono ?_
    rintro (e | a) m hm
    · exact hm
    · exact hm
  · intro h
    refine h.mono ?_
    rintro (e | a) m hm
    · exact hm
    · exact hm

theorem MeetsE.mono {p : ExceptT ε (Program I) α} {Q Q' : Except ε α → S → Prop}
    (h : MeetsE C p Q s) (hQ : ∀ r m, Q r m → Q' r m) : MeetsE C p Q' s :=
  Meets.mono h hQ

/-- Run `p` by its specification `P`, then `f` from every state `P` allows. -/
theorem MeetsE.bind {p : ExceptT ε (Program I) α} {f : α → ExceptT ε (Program I) β}
    {P : Except ε α → S → Prop} {Q : Except ε β → S → Prop} (h : MeetsE C p P s)
    (hok : ∀ a m, P (.ok a) m → MeetsE C (f a) Q m)
    (herror : ∀ e m, P (.error e) m → Q (.error e) m) : MeetsE C (p >>= f) Q s := by
  refine meetsE_bind.2 (h.mono ?_)
  rintro (e | a) m hm
  · exact herror e m hm
  · exact hok a m hm

@[simp] theorem meetsS_pure {a : α} {Q : Except ε α → σ → S → Prop} :
    MeetsS C (pure a : ExceptT ε (StateT σ (Program I)) α) Q st s ↔ Q (.ok a) st s := Iff.rfl

@[simp] theorem meetsS_throw {e : ε} {Q : Except ε α → σ → S → Prop} :
    MeetsS C (throw e : ExceptT ε (StateT σ (Program I)) α) Q st s ↔ Q (.error e) st s := Iff.rfl

@[simp] theorem meetsS_get {Q : Except ε σ → σ → S → Prop} :
    MeetsS C (get : ExceptT ε (StateT σ (Program I)) σ) Q st s ↔ Q (.ok st) st s := Iff.rfl

@[simp] theorem meetsS_set {st' : σ} {Q : Except ε PUnit → σ → S → Prop} :
    MeetsS C (set st' : ExceptT ε (StateT σ (Program I)) PUnit) Q st s ↔ Q (.ok ⟨⟩) st' s :=
  Iff.rfl

@[simp] theorem meetsS_modify {f : σ → σ} {Q : Except ε PUnit → σ → S → Prop} :
    MeetsS C (modify f : ExceptT ε (StateT σ (Program I)) PUnit) Q st s ↔ Q (.ok ⟨⟩) (f st) s :=
  Iff.rfl

theorem runS_bind (p : ExceptT ε (StateT σ (Program I)) α)
    (f : α → ExceptT ε (StateT σ (Program I)) β) (st : σ) :
    (p >>= f).run.run st = (p.run.run st).bind fun r => match r.1 with
      | .ok a => (f a).run.run r.2
      | .error e => .pure (.error e, r.2) := by
  show (p.run.run st).bind _ = _
  congr 1
  funext r
  obtain ⟨(e | a), st'⟩ := r
  · rfl
  · rfl

/-- A run of `p >>= f` is a run of `p` that throws, or one that does not followed
    by a run of `f`. -/
theorem runsS_bind {p : ExceptT ε (StateT σ (Program I)) α}
    {f : α → ExceptT ε (StateT σ (Program I)) β} {es : List (Event I)} {r : Except ε β} {st' : σ} :
    Runs ((p >>= f).run.run st) es (r, st') ↔
      (∃ e, r = .error e ∧ Runs (p.run.run st) es (.error e, st')) ∨
      ∃ es₁ a st₁ es₂, es = es₁ ++ es₂ ∧ Runs (p.run.run st) es₁ (.ok a, st₁) ∧
        Runs ((f a).run.run st₁) es₂ (r, st') := by
  rw [runS_bind, runs_bind]
  constructor
  · rintro ⟨es₁, ⟨x, st₁⟩, es₂, rfl, hp, hf⟩
    cases x with
    | error e =>
      obtain ⟨rfl, hr⟩ := runs_pure.1 hf
      obtain ⟨rfl, rfl⟩ := Prod.mk.inj hr
      rw [List.append_nil]
      exact .inl ⟨e, rfl, hp⟩
    | ok a => exact .inr ⟨es₁, a, st₁, es₂, rfl, hp, hf⟩
  · rintro (⟨e, rfl, hp⟩ | ⟨es₁, a, st₁, es₂, rfl, hp, hf⟩)
    · exact ⟨es, _, [], by rw [List.append_nil], hp, .pure _⟩
    · exact ⟨es₁, _, es₂, rfl, hp, hf⟩

theorem meetsS_bind {p : ExceptT ε (StateT σ (Program I)) α}
    {f : α → ExceptT ε (StateT σ (Program I)) β} {Q : Except ε β → σ → S → Prop} :
    MeetsS C (p >>= f) Q st s ↔
      MeetsS C p (fun r st' m => match r with
        | .ok a => MeetsS C (f a) Q st' m
        | .error e => Q (.error e) st' m) st s := by
  rw [MeetsS, runS_bind, meets_bind]
  constructor
  · intro h
    refine Meets.mono h ?_
    rintro ⟨(e | a), st'⟩ m hm
    · exact hm
    · exact hm
  · intro h
    refine Meets.mono h ?_
    rintro ⟨(e | a), st'⟩ m hm
    · exact hm
    · exact hm

theorem MeetsS.mono {p : ExceptT ε (StateT σ (Program I)) α} {Q Q' : Except ε α → σ → S → Prop}
    (h : MeetsS C p Q st s) (hQ : ∀ r st' m, Q r st' m → Q' r st' m) : MeetsS C p Q' st s :=
  Meets.mono h fun r m => hQ r.1 r.2 m

/-- A run of a program that meets its contract. -/
theorem MeetsS.sound {p : ExceptT ε (StateT σ (Program I)) α} {Q : Except ε α → σ → S → Prop}
    {es : List (Event I)} {r : Except ε α} {st' : σ} {s' : S} (h : MeetsS C p Q st s)
    (hr : Program.Runs (p.run.run st) es (r, st')) (hs : C.Steps s es s') : Q r st' s' := by
  have hmeets : Meets C (p.run.run st) (fun r m => Q r.1 r.2 m) s := h
  exact hmeets.sound hr hs

theorem MeetsS.and {p : ExceptT ε (StateT σ (Program I)) α} {Q Q' : Except ε α → σ → S → Prop}
    (h : MeetsS C p Q st s) (h' : MeetsS C p Q' st s) :
    MeetsS C p (fun r st' m => Q r st' m ∧ Q' r st' m) st s :=
  Meets.and h h'

/-- Run `p` by its specification `P`, then `f` from every state `P` allows. -/
theorem MeetsS.bind {p : ExceptT ε (StateT σ (Program I)) α}
    {f : α → ExceptT ε (StateT σ (Program I)) β} {P : Except ε α → σ → S → Prop}
    {Q : Except ε β → σ → S → Prop} (h : MeetsS C p P st s)
    (hok : ∀ a st' m, P (.ok a) st' m → MeetsS C (f a) Q st' m)
    (herror : ∀ e st' m, P (.error e) st' m → Q (.error e) st' m) :
    MeetsS C (p >>= f) Q st s := by
  refine meetsS_bind.2 (h.mono ?_)
  rintro (e | a) st' m hm
  · exact herror e st' m hm
  · exact hok a st' m hm

end MeetsE

/-! ## Programs with a state -/

/-- `Meets` for a program that has a state of its own. -/
def MeetsT (C : Contract I S) (p : StateT σ (Program I) α) (Q : α → σ → S → Prop) (st : σ) (s : S) :
    Prop :=
  Meets C (p.run st) (fun r m => Q r.1 r.2 m) s

section MeetsT

variable {C : Contract I S} {s : S} {st : σ}

@[simp] theorem meetsT_pure {a : α} {Q : α → σ → S → Prop} :
    MeetsT C (pure a : StateT σ (Program I) α) Q st s ↔ Q a st s := Iff.rfl

@[simp] theorem meetsT_get {Q : σ → σ → S → Prop} :
    MeetsT C (get : StateT σ (Program I) σ) Q st s ↔ Q st st s := Iff.rfl

@[simp] theorem meetsT_set {st' : σ} {Q : PUnit → σ → S → Prop} :
    MeetsT C (set st' : StateT σ (Program I) PUnit) Q st s ↔ Q ⟨⟩ st' s := Iff.rfl

theorem meetsT_bind {p : StateT σ (Program I) α} {f : α → StateT σ (Program I) β}
    {Q : β → σ → S → Prop} :
    MeetsT C (p >>= f) Q st s ↔ MeetsT C p (fun a st' m => MeetsT C (f a) Q st' m) st s :=
  meets_bind

theorem MeetsT.mono {p : StateT σ (Program I) α} {Q Q' : α → σ → S → Prop}
    (h : MeetsT C p Q st s) (hQ : ∀ a st' m, Q a st' m → Q' a st' m) : MeetsT C p Q' st s :=
  Meets.mono h fun r m => hQ r.1 r.2 m

/-- Run `p` by its specification `P`, then `f` from every state `P` allows. -/
theorem MeetsT.bind {p : StateT σ (Program I) α} {f : α → StateT σ (Program I) β}
    {P : α → σ → S → Prop} {Q : β → σ → S → Prop} (h : MeetsT C p P st s)
    (hf : ∀ a st' m, P a st' m → MeetsT C (f a) Q st' m) : MeetsT C (p >>= f) Q st s :=
  meetsT_bind.2 (h.mono hf)

/-- What holds of the tracked state after every run. -/
theorem MeetsT.tracked {after : S → Event I → S} {p : StateT σ (Program I) α}
    {Q : α → σ → S → Prop} {es : List (Event I)} {a : α} {st' : σ}
    (h : MeetsT (.tracking after) p Q st s) (hr : Runs (p.run st) es (a, st')) :
    Q a st' (es.foldl after s) := by
  have hmeets : Meets (.tracking after) (p.run st) (fun r m => Q r.1 r.2 m) s := h
  exact hmeets.tracked hr

end MeetsT

/-! ## Executable environments -/

/-- An environment that computes its answers from a state. -/
def Handler (I : Interface) (σ : Type) : Type := σ → (op : I.Op) → I.Ans op × σ

/-- Run a program against an executable environment: its events, its value and
    the environment's last state. -/
def Program.serve (h : Handler I σ) : Program I α → σ → List (Event I) × α × σ
  | .pure a, st => ([], a, st)
  | .ask op k, st =>
    let (ans, st') := h st op
    let (es, a, st'') := (k ans).serve h st'
    (⟨op, ans⟩ :: es, a, st'')

/-- Serving a program is one of its runs. -/
theorem Program.runs_serve (h : Handler I σ) (p : Program I α) (st : σ) :
    Runs p (p.serve h st).1 (p.serve h st).2.1 := by
  induction p generalizing st with
  | pure a => exact .pure a
  | ask op k ih => exact .ask _ (ih _ _)

/-- An environment that moves as a contract says leaves steps of the contract. -/
theorem Program.steps_serve {C : Contract I S} {h : Handler I S}
    (hstep : ∀ s op, C.step s ⟨op, (h s op).1⟩ (h s op).2) (p : Program I α) (s : S) :
    C.Steps s (p.serve h s).1 (p.serve h s).2.2 := by
  induction p generalizing s with
  | pure a => rfl
  | ask op k ih => exact ⟨_, hstep s op, ih _ _⟩

end SmbBrowser.Base
