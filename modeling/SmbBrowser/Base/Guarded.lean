import SmbBrowser.Base.Program

/-!
# Questions guarded by the events so far

A contract whose state is the list of events so far: a guard says what may be asked after
them, and the answers are those that keep a promise.

Results:
* `Meets.guarded`: in a run that keeps the promise every question meets its guard;
* `Meets.guarded_of_history`: programs whose questions are free of the guard.
-/

namespace SmbBrowser.Base

variable {I : Interface} {α β : Type}

/-- The contract of a guard on questions and a promise on events. -/
def Contract.guarded (guard : List (Event I) → I.Op → Prop) (promise : Event I → Prop) :
    Contract I (List (Event I)) where
  allows := guard
  step es e es' := promise e ∧ es' = es ++ [e]

/-- Every question of the program meets `P`, whatever the answers. -/
def Program.Questions (P : I.Op → Prop) : Program I α → Prop
  | .pure _ => True
  | .ask op k => P op ∧ ∀ ans, (k ans).Questions P

section

variable {P : I.Op → Prop} {p : Program I α} {guard : List (Event I) → I.Op → Prop}
  {promise : Event I → Prop} {es : List (Event I)}

theorem Program.Questions.bind {f : α → Program I β} (hp : p.Questions P)
    (hf : ∀ a, (f a).Questions P) : (p.bind f).Questions P := by
  induction p with
  | pure a => exact hf a
  | ask op k ih => exact ⟨hp.1, fun ans => ih ans (hp.2 ans)⟩

theorem Program.Questions.ask {op : I.Op} {f : I.Ans op → Program I β} (hop : P op)
    (hf : ∀ ans, (f ans).Questions P) : ((Program.perform op).bind f).Questions P :=
  ⟨hop, hf⟩

/-- The events of a program come after those so far, and are of its questions. -/
theorem Program.Questions.meets {Q : α → List (Event I) → Prop} (hp : p.Questions P)
    (h : Meets .history p Q es) :
    Meets .history p (fun a es' => Q a es' ∧ ∃ added, es' = es ++ added ∧ ∀ e ∈ added, P e.op)
      es := by
  induction p generalizing es with
  | pure a => exact ⟨h, [], (List.append_nil es).symm, by simp⟩
  | ask op k ih =>
    refine ⟨trivial, ?_⟩
    rintro ans m rfl
    refine (ih ans (hp.2 ans) (h.2 ans _ rfl)).mono ?_
    rintro a es' ⟨hQ, added, rfl, hadded⟩
    refine ⟨hQ, ⟨op, ans⟩ :: added, by rw [List.append_assoc, List.singleton_append], ?_⟩
    exact List.forall_mem_cons.2 ⟨hp.1, hadded⟩

theorem Program.Questions.all (p : Program I α) : p.Questions fun _ => True := by
  induction p with
  | pure a => trivial
  | ask op k ih => exact ⟨trivial, ih⟩

/-- A program whose questions are free of the guard, by what its history is. -/
theorem Meets.guarded_of_history {Q : α → List (Event I) → Prop} (h : Meets .history p Q es)
    (hp : p.Questions P) (hguard : ∀ es op, P op → guard es op) (hes : ∀ e ∈ es, promise e) :
    Meets (.guarded guard promise) p (fun a es' => Q a es' ∧ ∀ e ∈ es', promise e) es := by
  induction p generalizing es with
  | pure a => exact ⟨h, hes⟩
  | ask op k ih =>
    refine ⟨hguard es op hp.1, ?_⟩
    rintro ans m ⟨hpromise, rfl⟩
    refine ih ans (h.2 ans _ rfl) (hp.2 ans) fun e he => ?_
    rcases List.mem_append.1 he with he | he
    · exact hes e he
    · rwa [List.mem_singleton.1 he]

theorem Contract.steps_guarded {added : List (Event I)} (h : ∀ e ∈ added, promise e) :
    (Contract.guarded guard promise).Steps es added (es ++ added) := by
  induction added generalizing es with
  | nil => exact List.append_nil es
  | cons e added ih =>
    obtain ⟨he, hadded⟩ := List.forall_mem_cons.1 h
    refine ⟨es ++ [e], ⟨he, rfl⟩, ?_⟩
    have hrest := @ih (es ++ [e]) hadded
    rwa [List.append_assoc] at hrest

theorem Contract.guard_of_allowsAll {earlier later : List (Event I)} {e : Event I}
    (h : (Contract.guarded guard promise).AllowsAll es (earlier ++ e :: later))
    (hpromise : ∀ e ∈ earlier, promise e) : guard (es ++ earlier) e.op := by
  induction earlier generalizing es with
  | nil =>
    rw [List.append_nil]
    exact h.1
  | cons first earlier ih =>
    obtain ⟨hfirst, hearlier⟩ := List.forall_mem_cons.1 hpromise
    have hrest := ih (h.2 (es ++ [first]) ⟨hfirst, rfl⟩) hearlier
    rwa [List.append_assoc] at hrest

/-- In a run whose events keep the promise, every question meets its guard. -/
theorem Meets.guarded {Q : α → List (Event I) → Prop} {added : List (Event I)} {a : α}
    (h : Meets (.guarded guard promise) p Q []) (hrun : p.Runs added a)
    (hpromise : ∀ e ∈ added, promise e) :
    Q a added ∧ ∀ earlier e later, added = earlier ++ e :: later → guard earlier e.op := by
  refine ⟨h.sound hrun (Contract.steps_guarded hpromise), ?_⟩
  rintro earlier e later rfl
  exact Contract.guard_of_allowsAll (h.allowed hrun) fun e he =>
    hpromise e (List.mem_append_left _ he)

end

end SmbBrowser.Base
