import Mathlib.Data.List.Induction
import SmbBrowser.Base.Guarded

/-!
# Interleaved programs

Programs that run at the same time over a state they share.  Each is a party with an
interface of its own, and a history tells the events of all of them in the order in which
they happened.

Results:
* `eventsOf_append`: the events of one party, history by history;
* `Interleaves.guarded`: a rely-guarantee rule.  When the invariant of the shared state makes
  every answer keep the promise of its party, and questions that meet their guards keep the
  invariant, then all questions of all parties meet their guards.
-/

namespace SmbBrowser.Base

variable {ι S : Type} {I : ι → Interface} {α : ι → Type}

/-- The interface of all parties together. -/
abbrev Interface.joint (I : ι → Interface) : Interface where
  Op := Σ i, (I i).Op
  Ans op := (I op.1).Ans op.2

/-- An event of a party. -/
abbrev Event.by (i : ι) (e : Event (I i)) : Event (.joint I) := ⟨⟨i, e.op⟩, e.ans⟩

section

variable [DecidableEq ι]

/-- The event, if it is one of the party. -/
def eventOf (i : ι) : Event (.joint I) → Option (Event (I i))
  | ⟨⟨j, op⟩, ans⟩ => if h : j = i then some (h ▸ (⟨op, ans⟩ : Event (I j))) else none

/-- The events of a party in a history. -/
def eventsOf (i : ι) (history : List (Event (.joint I))) : List (Event (I i)) :=
  history.filterMap (eventOf i)

/-- What every party did so far is the start of a run of its program. -/
def Interleaves (p : ∀ i, Program (I i) (α i)) (history : List (Event (.joint I))) : Prop :=
  ∀ i, ∃ later a, (p i).Runs (eventsOf i history ++ later) a

variable {i j : ι} {e : Event (I i)} {history : List (Event (.joint I))}

@[simp] theorem eventOf_by : eventOf i (Event.by i e) = some e := dif_pos rfl

theorem eventOf_by_ne (h : i ≠ j) : eventOf j (Event.by i e) = none := dif_neg h

@[simp] theorem eventsOf_nil : eventsOf (I := I) i [] = [] := rfl

theorem eventsOf_append (history later : List (Event (.joint I))) :
    eventsOf i (history ++ later) = eventsOf i history ++ eventsOf i later :=
  List.filterMap_append

/-- One more event of a party. -/
theorem eventsOf_concat (history : List (Event (.joint I))) (e : Event (I i)) :
    eventsOf i (history ++ [Event.by i e]) = eventsOf i history ++ [e] := by
  rw [eventsOf_append, eventsOf, eventsOf, List.filterMap_cons_some eventOf_by,
    List.filterMap_nil]

/-- The others have the events they had. -/
theorem eventsOf_concat_ne (history : List (Event (.joint I))) (e : Event (I i)) (h : i ≠ j) :
    eventsOf j (history ++ [Event.by i e]) = eventsOf j history := by
  rw [eventsOf_append, eventsOf, eventsOf, List.filterMap_cons_none (eventOf_by_ne h),
    List.filterMap_nil, List.append_nil]

/-- A party that has finished. -/
theorem Program.Runs.starts {J : Interface} {β : Type} {p : Program J β} {es : List (Event J)}
    {b : β} (h : p.Runs es b) : ∃ later b, p.Runs (es ++ later) b := by
  refine ⟨[], b, ?_⟩
  rwa [List.append_nil]

theorem Interleaves.of_append {p : ∀ i, Program (I i) (α i)} {later : List (Event (.joint I))}
    (h : Interleaves p (history ++ later)) : Interleaves p history := by
  intro i
  obtain ⟨rest, a, hrun⟩ := h i
  rw [eventsOf_append, List.append_assoc] at hrun
  exact ⟨_, a, hrun⟩

/-- **Rely and guarantee**: programs that meet their guards while the answers keep their
    promises, over a shared state whose invariant makes the answers keep them. -/
theorem Interleaves.guarded {C : Contract (.joint I) S} {invariant : S → Prop}
    {guard : ∀ i, List (Event (I i)) → (I i).Op → Prop} {promise : ∀ i, Event (I i) → Prop}
    {p : ∀ i, Program (I i) (α i)} {Q : ∀ i, α i → List (Event (I i)) → Prop} {s s' : S}
    (hmeets : ∀ i, Meets (.guarded (guard i) (promise i)) (p i) (Q i) [])
    (hrely : ∀ i e s s', invariant s → C.step s (Event.by i e) s' → promise i e)
    (hguarantee : ∀ i e es s s', invariant s → promise i e → guard i es e.op →
      C.step s (Event.by i e) s' → invariant s')
    (h : Interleaves p history) (hs : invariant s) (hsteps : C.Steps s history s') :
    invariant s' ∧ ∀ i earlier e later, history = earlier ++ Event.by i e :: later →
      guard i (eventsOf i earlier) e.op := by
  -- the promises are kept up to here, so the next question meets its guard
  suffices hall : invariant s' ∧ (∀ i, ∀ e ∈ eventsOf i history, promise i e) ∧
      ∀ i earlier e later, history = earlier ++ Event.by i e :: later →
        guard i (eventsOf i earlier) e.op from ⟨hall.1, hall.2.2⟩
  induction history using List.reverseRecOn generalizing s' with
  | nil =>
    obtain rfl := Contract.steps_nil.1 hsteps
    refine ⟨hs, fun i e he => absurd he List.not_mem_nil, ?_⟩
    intro i earlier e later hnil
    simp at hnil
  | append_singleton history event ih =>
    obtain ⟨⟨i, op⟩, ans⟩ := event
    obtain ⟨m, hbefore, hlast⟩ := Contract.steps_append.1 hsteps
    obtain ⟨_, hstep, hend⟩ := hlast
    obtain rfl := Contract.steps_nil.1 hend
    obtain ⟨hm, hpromises, hguards⟩ := ih h.of_append hbefore
    have hnext : guard i (eventsOf i history) op := by
      obtain ⟨later, a, hrun⟩ := h i
      have hconcat := eventsOf_concat history (⟨op, ans⟩ : Event (I i))
      rw [hconcat, List.append_assoc] at hrun
      exact Contract.guard_of_allowsAll ((hmeets i).allowed hrun) (hpromises i)
    have hpromise : promise i ⟨op, ans⟩ := hrely i ⟨op, ans⟩ m _ hm hstep
    refine ⟨hguarantee i ⟨op, ans⟩ _ m _ hm hpromise hnext hstep, ?_, ?_⟩
    · intro j e he
      by_cases hij : i = j
      · subst hij
        have hconcat := eventsOf_concat history (⟨op, ans⟩ : Event (I i))
        rw [hconcat] at he
        rcases List.mem_append.1 he with he | he
        · exact hpromises i e he
        · rwa [List.mem_singleton.1 he]
      · have hconcat := eventsOf_concat_ne history (⟨op, ans⟩ : Event (I i)) hij
        rw [hconcat] at he
        exact hpromises j e he
    · intro j earlier e later heq
      rcases List.eq_nil_or_concat later with rfl | ⟨later, last, rfl⟩
      · obtain ⟨hhistory, hevent⟩ := List.append_inj' heq rfl
        subst hhistory
        cases hevent
        exact hnext
      · rw [List.concat_eq_append, ← List.cons_append, ← List.append_assoc] at heq
        obtain ⟨hhistory, -⟩ := List.append_inj' heq rfl
        exact hguards j earlier e later hhistory

end

end SmbBrowser.Base
