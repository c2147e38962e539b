import Mathlib.Data.List.Basic
import SmbBrowser.Application.OperationQueue
import SmbBrowser.Base.FiniteMap

/-!
# Recorded states and posted snapshots

`postChanged` (application/OperationQueue.cpp:177) takes a snapshot under the mutex and
posts it afterwards, so that other threads run in between.  Here these are two steps of the
thread that has the operation.

Results:
* `Operation.Moves.precedes`: a step takes a recorded state to the same or a later one;
* `Consistent.step`: what is held and what was posted is not later than what is recorded;
* `operation_states`: the states recorded for an operation and the snapshots posted for it,
  in every run.
-/

namespace SmbBrowser.Application

open SmbBrowser.Base SmbBrowser.Qt SmbBrowser.Core

/-! ## The order of states -/

/-- An operation can be recorded in the first state and then in the second. -/
def OperationState.Precedes (s s' : OperationState) : Prop :=
  s = s' ∨ s = .queued ∨ (s = .running ∧ s'.terminal = true)

namespace OperationState

theorem Precedes.refl (s : OperationState) : s.Precedes s := Or.inl rfl

theorem Precedes.trans {s s' s'' : OperationState} (h : s.Precedes s') (h' : s'.Precedes s'') :
    s.Precedes s'' := by
  rcases h with rfl | rfl | ⟨rfl, hterminal⟩
  · exact h'
  · exact Or.inr (Or.inl rfl)
  · rcases h' with rfl | rfl | ⟨rfl, -⟩
    · exact Or.inr (Or.inr ⟨rfl, hterminal⟩)
    · cases hterminal
    · cases hterminal

/-- A state that is not terminal can be followed by `Running` and by each terminal one. -/
theorem precedes_of_not_terminal {s s' : OperationState} (h : s.terminal = false)
    (h' : s' = .running ∨ s'.terminal = true) : s.Precedes s' := by
  cases s with
  | queued => exact Or.inr (Or.inl rfl)
  | running =>
    rcases h' with rfl | hterminal
    · exact Or.inl rfl
    · exact Or.inr (Or.inr ⟨rfl, hterminal⟩)
  | completed | failed | cancelled => cases h

/-- A terminal state is followed by no other. -/
theorem Precedes.eq_of_terminal {s s' : OperationState} (h : s.Precedes s')
    (hs : s.terminal = true) : s' = s := by
  rcases h with rfl | rfl | ⟨rfl, -⟩
  · rfl
  · cases hs
  · cases hs

/-- A sequence in which states only follow one another is first `Queued`, then `Running`, and
    then in one terminal state. -/
theorem phases {l : List OperationState} (h : l.Pairwise Precedes) :
    ∃ queued running ended t, t.terminal = true ∧ l = List.replicate queued .queued ++
      (List.replicate running .running ++ List.replicate ended t) := by
  induction l with
  | nil => exact ⟨0, 0, 0, .completed, rfl, rfl⟩
  | cons s l ih =>
    obtain ⟨hs, hl⟩ := List.pairwise_cons.1 h
    cases hterminal : s.terminal with
    | true =>
      refine ⟨0, 0, l.length + 1, s, hterminal, ?_⟩
      have hsame : l = List.replicate l.length s :=
        List.eq_replicate_iff.2 ⟨rfl, fun s' hs' => (hs s' hs').eq_of_terminal hterminal⟩
      rw [List.replicate_succ, ← hsame]
      rfl
    | false =>
      obtain ⟨queued, running, ended, t, ht, hphases⟩ := ih hl
      cases s with
      | queued => exact ⟨queued + 1, running, ended, t, ht, by rw [hphases]; rfl⟩
      | running =>
        cases queued with
        | zero => exact ⟨0, running + 1, ended, t, ht, by rw [hphases]; rfl⟩
        | succ queued =>
          have hback : OperationState.running.Precedes .queued :=
            hs .queued (by rw [hphases, List.replicate_succ]; exact List.mem_cons_self)
          rcases hback with h | h | ⟨-, h⟩
          · cases h
          · cases h
          · cases h
      | completed | failed | cancelled => cases hterminal

end OperationState

namespace Operation

variable {op op' : Operation}

/-- **A step takes a recorded state to the same or a later one.** -/
theorem Moves.precedes (h : op.Moves op') (horderly : op.Orderly) :
    op.data.state.Precedes op'.data.state := by
  obtain ⟨data, callback, stage⟩ := op
  cases h with
  | enter hstage =>
    obtain rfl : stage = .entering := hstage
    exact OperationState.precedes_of_not_terminal horderly.1 (Or.inl rfl)
  | settle state error hstage =>
    obtain rfl : stage = .settling state error := hstage
    exact OperationState.precedes_of_not_terminal horderly.1 (Or.inr horderly.2.1)
  | _ => exact .refl _

theorem Moves.id_eq (h : op.Moves op') : op'.data.id = op.data.id := by
  cases h with
  | _ => rfl

end Operation

/-! ## Who changes an operation -/

/-- What an action can do to an operation there is.  Its stage changes only when its thread
    goes on, or when its callback reports progress or returns. -/
inductive Operation.Effect (id : QString) (op : Operation) :
    OperationQueue.Action → Operation → Prop where
  | keep (a : OperationQueue.Action) : Effect id op a op
  | cancel (a : OperationQueue.Action) :
    Effect id op a { op with data := { op.data with cancellationToken := true } }
  | advance {op' : Operation} (h : op.Moves op') (hstage : op.stage ≠ .running) :
    Effect id op (.advance id) op'
  | progress (progress : TransferProgress) (h : op.stage = .running) :
    Effect id op (.progress id progress)
      { op with data := { op.data with progress }, stage := .reported }
  | finish (result : Result Bool) (h : op.stage = .running) :
    Effect id op (.finish id result) { op with stage := .returned result }

namespace OperationQueue

variable {q q' : OperationQueue} {a : Action} {id id' : QString} {op : Operation}

theorem advance_ne_running (h : q.advance id op = some q') : op.stage ≠ .running := by
  intro hstage
  unfold advance at h
  rw [hstage] at h
  cases h

theorem effect_of_update {op' : Operation} (hop : q.operations id = some op)
    (hq' : q'.operations = Function.update q.operations id' (some op'))
    (heffect : id' = id → op.Effect id a op') :
    ∃ op'', q'.operations id = some op'' ∧ op.Effect id a op'' := by
  by_cases hid : id' = id
  · subst hid
    exact ⟨op', by rw [hq', Function.update_self], heffect rfl⟩
  · exact ⟨op, by rw [hq', Function.update_of_ne (Ne.symm hid), hop], .keep a⟩

/-- What a step does to an operation there is. -/
theorem step_effect (h : q.step a = some q') (hop : q.operations id = some op) :
    ∃ op', q'.operations id = some op' ∧ op.Effect id a op' := by
  have hsame : ∀ {id' : QString} {op₀ : Operation}, q.operations id' = some op₀ → id' = id →
      op₀ = op := by
    intro id' op₀ hop₀ hid
    subst hid
    exact Option.some.inj (hop₀.symm.trans hop)
  cases a with
  | enqueue id' name callback =>
    rw [step] at h
    split at h
    · next hnew =>
      obtain rfl := Option.some.inj h
      have hne : id ≠ id' := by
        rintro rfl
        exact Option.some_ne_none op (hop.symm.trans hnew)
      exact ⟨op, (Function.update_of_ne hne _ _).trans hop, .keep _⟩
    · cases h
  | advance id' =>
    obtain ⟨op₀, hop₀, hadvance⟩ := Option.bind_eq_some_iff.1 h
    obtain ⟨op', hmoves, hq'⟩ := advance_moves hop₀ hadvance
    refine effect_of_update hop hq' ?_
    intro hid
    obtain rfl := hsame hop₀ hid
    subst hid
    exact .advance hmoves (advance_ne_running hadvance)
  | progress id' progress =>
    obtain ⟨op₀, hop₀, hreport⟩ := Option.bind_eq_some_iff.1 h
    split at hreport
    · next hstage =>
      obtain rfl := Option.some.inj hreport
      refine effect_of_update hop (modify_modify hop₀) ?_
      intro hid
      obtain rfl := hsame hop₀ hid
      subst hid
      exact .progress progress hstage
    · cases hreport
  | finish id' result =>
    obtain ⟨op₀, hop₀, hfinish⟩ := Option.bind_eq_some_iff.1 h
    split at hfinish
    · next hstage =>
      obtain rfl := Option.some.inj hfinish
      refine effect_of_update hop (modify_operations hop₀) ?_
      intro hid
      obtain rfl := hsame hop₀ hid
      subst hid
      exact .finish result hstage
    · cases hfinish
  | cancel id' =>
    obtain rfl := Option.some.inj h
    unfold cancel
    cases hop₀ : q.operations id' with
    | none => exact ⟨op, hop, .keep _⟩
    | some op₀ =>
      refine effect_of_update hop (modify_operations hop₀) ?_
      intro hid
      obtain rfl := hsame hop₀ hid
      exact .cancel _
  | destroy =>
    obtain rfl := Option.some.inj h
    exact ⟨_, congrArg (Option.map _) hop, .cancel _⟩
  | snapshot _ | snapshots | deliver =>
    obtain rfl := Option.some.inj h
    exact ⟨op, hop, .keep _⟩

end OperationQueue

/-! ## Posting in two steps -/

/-- The thread that has the operation is about to call `postChanged`. -/
def Stage.posts : Stage → Bool
  | .inserted | .entered | .reported | .settled => true
  | _ => false

/-- The queue with the snapshots its threads have taken and not yet posted, and all
    snapshots posted so far. -/
structure PostingQueue where
  queue : OperationQueue
  held : QString → Option OperationSnapshot := fun _ => none
  log : List OperationSnapshot := []

namespace PostingQueue

open OperationQueue Transitions

def new (maxConcurrentOperations : ℕ) : PostingQueue where
  queue := .new maxConcurrentOperations

/-- The thread that has an operation is about to call `postChanged`. -/
def isPosting (p : PostingQueue) (id : QString) : Bool :=
  ((p.queue.operations id).map fun op => op.stage.posts).getD false

/-- One step; `postChanged` first takes the snapshot, which the next step posts. -/
def step (p : PostingQueue) : Action → Option PostingQueue
  | .advance id =>
    match p.held id with
    | some snapshotValue =>
      (p.queue.step (.advance id)).map fun q => {
        queue := { q with posted := p.queue.posted ++ [snapshotValue] }
        held := Function.update p.held id none
        log := p.log ++ [snapshotValue] }
    | none =>
      if p.isPosting id then
        some { p with held := Function.update p.held id (some (p.queue.snapshot id)) }
      else
        (p.queue.step (.advance id)).map fun q => { p with queue := q }
  | a => (p.queue.step a).map fun q => { p with queue := q }

variable {p p' : PostingQueue} {a : Action} {id : QString}

theorem step_of_ne (ha : ∀ id, a ≠ .advance id) :
    p.step a = (p.queue.step a).map fun q => { p with queue := q } := by
  cases a with
  | advance id => exact absurd rfl (ha id)
  | _ => rfl

/-- What a step does: the queue's own step, taking a snapshot, or posting it with the rest of
    the queue's step. -/
theorem step_cases (h : p.step a = some p') :
    (∃ q, p.queue.step a = some q ∧ p' = { p with queue := q } ∧
      ∀ id, a = .advance id → p.held id = none ∧ p.isPosting id = false) ∨
    (∃ id, a = .advance id ∧ p.held id = none ∧ p.isPosting id = true ∧
      p' = { p with held := Function.update p.held id (some (p.queue.snapshot id)) }) ∨
    ∃ id snapshotValue q, a = .advance id ∧ p.held id = some snapshotValue ∧
      p.queue.step (.advance id) = some q ∧ p' = {
        queue := { q with posted := p.queue.posted ++ [snapshotValue] }
        held := Function.update p.held id none
        log := p.log ++ [snapshotValue] } := by
  by_cases hadvance : ∃ id, a = .advance id
  · obtain ⟨id, rfl⟩ := hadvance
    cases hheld : p.held id with
    | some snapshotValue =>
      simp only [step, hheld] at h
      obtain ⟨q, hq, rfl⟩ := Option.map_eq_some_iff.1 h
      exact Or.inr (Or.inr ⟨id, snapshotValue, q, rfl, hheld, hq, rfl⟩)
    | none =>
      simp only [step, hheld] at h
      cases hposting : p.isPosting id with
      | true =>
        rw [if_pos hposting] at h
        exact Or.inr (Or.inl ⟨id, rfl, hheld, hposting, (Option.some.inj h).symm⟩)
      | false =>
        rw [if_neg (by rw [hposting]; decide)] at h
        obtain ⟨q, hq, rfl⟩ := Option.map_eq_some_iff.1 h
        refine Or.inl ⟨q, hq, rfl, ?_⟩
        rintro id' ⟨⟩
        exact ⟨hheld, hposting⟩
  · rw [step_of_ne fun id hid => hadvance ⟨id, hid⟩] at h
    obtain ⟨q, hq, rfl⟩ := Option.map_eq_some_iff.1 h
    exact Or.inl ⟨q, hq, rfl, fun id hid => absurd ⟨id, hid⟩ hadvance⟩

/-- The operations change as in a step of the queue, or stay. -/
theorem step_operations (h : p.step a = some p') :
    p'.queue.operations = p.queue.operations ∨
      ∃ q, p.queue.step a = some q ∧ p'.queue.operations = q.operations := by
  rcases step_cases h with ⟨q, hq, rfl, -⟩ | ⟨id, -, -, -, rfl⟩ | ⟨id, s, q, rfl, -, hq, rfl⟩
  · exact Or.inr ⟨q, hq, rfl⟩
  · exact Or.inl rfl
  · exact Or.inr ⟨q, hq, rfl⟩

theorem step_progresses (h : p.step a = some p') (id : QString) :
    Progresses p.queue p'.queue id := by
  rcases step_operations h with hsame | ⟨q, hq, hsame⟩
  · exact progresses_of_eq (congrFun hsame id)
  · rcases OperationQueue.step_progresses hq id with ⟨op, op', hop, hop', hmoves⟩ | ⟨hnone, hnew⟩
    · exact Or.inl ⟨op, op', hop, (congrFun hsame id).trans hop', hmoves⟩
    · refine Or.inr ⟨hnone, ?_⟩
      rw [hsame]
      exact hnew

/-- The states recorded for an operation along a run. -/
def recordedStates (id : QString) (p : PostingQueue) (actions : List Action) :
    List OperationState :=
  (visited step p actions).filterMap fun m => (m.queue.operations id).map (·.data.state)

/-! ## What is held and what was posted -/

/-- Between the two halves of `postChanged` only its own thread changes an operation, the
    token apart. -/
theorem effect_posting {op op' : Operation} (h : op.Effect id a op')
    (hposts : op.stage.posts = true) (ha : a ≠ .advance id) :
    op'.stage = op.stage ∧ op'.data.state = op.data.state := by
  cases h with
  | keep => exact ⟨rfl, rfl⟩
  | cancel => exact ⟨rfl, rfl⟩
  | advance => exact absurd rfl ha
  | progress progress hstage =>
    rw [hstage] at hposts
    cases hposts
  | finish result hstage =>
    rw [hstage] at hposts
    cases hposts

/-- The state recorded for an operation is not before `state`. -/
def Reached (p : PostingQueue) (id : QString) (state : OperationState) : Prop :=
  ∃ op, p.queue.operations id = some op ∧ state.Precedes op.data.state

theorem Reached.step {state : OperationState} (h : p.Reached id state)
    (horderly : p.queue.Orderly) (hstep : p.step a = some p') : p'.Reached id state := by
  obtain ⟨op, hop, hstate⟩ := h
  rcases step_progresses hstep id with ⟨op₀, op', hop₀, hop', hmoves⟩ | ⟨hnone, -⟩
  · obtain rfl := Option.some.inj (hop.symm.trans hop₀)
    exact ⟨op', hop', hstate.trans (hmoves.precedes (horderly id op hop))⟩
  · exact absurd (hop.symm.trans hnone) (Option.some_ne_none op)

/-- A snapshot that is held shows the state that is recorded; those posted show states that
    follow one another and are not later. -/
structure Consistent (p : PostingQueue) : Prop where
  orderly : p.queue.Orderly
  id_eq : ∀ id op, p.queue.operations id = some op → op.data.id = id
  held : ∀ id snapshotValue, p.held id = some snapshotValue → ∃ op,
    p.queue.operations id = some op ∧ op.stage.posts = true ∧
      snapshotValue.id = id ∧ snapshotValue.state = op.data.state
  reached : ∀ snapshotValue ∈ p.log, p.Reached snapshotValue.id snapshotValue.state
  ordered : p.log.Pairwise fun s s' => s.id = s'.id → s.state.Precedes s'.state

theorem consistent_new (maxConcurrentOperations : ℕ) : (new maxConcurrentOperations).Consistent where
  orderly := orderly_new maxConcurrentOperations
  id_eq := by
    intro id op hop
    cases hop
  held := by
    intro id snapshotValue hheld
    cases hheld
  reached := by
    intro snapshotValue hlog
    cases hlog
  ordered := List.Pairwise.nil

theorem step_orderly (h : p.queue.Orderly) (hstep : p.step a = some p') : p'.queue.Orderly := by
  intro id op hop
  rcases step_operations hstep with hsame | ⟨q, hq, hsame⟩
  · exact h id op (by rw [← hsame, hop])
  · exact h.step hq id op (by rw [← hsame, hop])

theorem step_id_eq (h : ∀ id op, p.queue.operations id = some op → op.data.id = id)
    (hstep : p.step a = some p') : ∀ id op, p'.queue.operations id = some op → op.data.id = id := by
  intro id op hop
  rcases step_progresses hstep id with ⟨op₀, op', hop₀, hop', hmoves⟩ | ⟨-, hnone | ⟨name, callback,
    hnew⟩⟩
  · obtain rfl := Option.some.inj (hop.symm.trans hop')
    rw [hmoves.id_eq, h id op₀ hop₀]
  · exact absurd (hop.symm.trans hnone) (Option.some_ne_none op)
  · obtain rfl := Option.some.inj (hop.symm.trans hnew)
    rfl

/-- A snapshot stays as it is held while other threads take their steps. -/
theorem Consistent.held_step (h : p.Consistent) {q : OperationQueue} {snapshotValue : OperationSnapshot}
    (hq : p.queue.step a = some q) (ha : a ≠ .advance id) (hheld : p.held id = some snapshotValue) :
    ∃ op, q.operations id = some op ∧ op.stage.posts = true ∧ snapshotValue.id = id ∧
      snapshotValue.state = op.data.state := by
  obtain ⟨op, hop, hposts, hid, hstate⟩ := h.held id snapshotValue hheld
  obtain ⟨op', hop', heffect⟩ := step_effect hq hop
  obtain ⟨hstage, hsame⟩ := effect_posting heffect hposts ha
  exact ⟨op', hop', by rw [hstage, hposts], hid, by rw [hstate, hsame]⟩

theorem isPosting_eq_true (h : p.isPosting id = true) :
    ∃ op, p.queue.operations id = some op ∧ op.stage.posts = true := by
  unfold isPosting at h
  cases hop : p.queue.operations id with
  | none =>
    rw [hop] at h
    cases h
  | some op =>
    rw [hop] at h
    exact ⟨op, rfl, h⟩

theorem Consistent.held_take (h : p.Consistent) (hposting : p.isPosting id = true) :
    ∃ op, p.queue.operations id = some op ∧ op.stage.posts = true ∧
      (p.queue.snapshot id).id = id ∧ (p.queue.snapshot id).state = op.data.state := by
  obtain ⟨op, hop, hposts⟩ := isPosting_eq_true hposting
  refine ⟨op, hop, hposts, ?_, snapshot_state hop⟩
  unfold snapshot
  rw [hop]
  exact h.id_eq id op hop

/-- **What is held and what was posted is not later than what is recorded**, after every step. -/
theorem Consistent.step (h : p.Consistent) (hstep : p.step a = some p') : p'.Consistent := by
  have horderly := step_orderly h.orderly hstep
  have hids := step_id_eq h.id_eq hstep
  have hreached : ∀ s ∈ p.log, p'.Reached s.id s.state := fun s hs =>
    (h.reached s hs).step h.orderly hstep
  rcases step_cases hstep with ⟨q, hq, rfl, hadvance⟩ | ⟨id, -, -, hposting, rfl⟩ |
    ⟨id, snapshotValue, q, rfl, hheld, hq, rfl⟩
  · refine ⟨horderly, hids, ?_, hreached, h.ordered⟩
    intro id snapshotValue hheld
    refine h.held_step hq ?_ hheld
    intro ha
    exact Option.some_ne_none _ (hheld.symm.trans (hadvance id ha).1)
  · refine ⟨horderly, hids, ?_, hreached, h.ordered⟩
    intro id' snapshotValue hheld
    rcases FiniteMap.update_eq_some hheld with ⟨rfl, htaken⟩ | ⟨-, hheld⟩
    · obtain rfl := Option.some.inj htaken
      exact h.held_take hposting
    · exact h.held id' snapshotValue hheld
  · obtain ⟨op, hop, -, hid, hstate⟩ := h.held id snapshotValue hheld
    have hrecorded : p.Reached id snapshotValue.state := ⟨op, hop, by rw [hstate]; exact .refl _⟩
    refine ⟨horderly, hids, ?_, ?_, ?_⟩
    · intro id' other hother
      rcases FiniteMap.update_eq_some hother with ⟨-, hnone⟩ | ⟨hne, hother⟩
      · cases hnone
      · have hother' : Action.advance id ≠ .advance id' := fun ha =>
          hne (Action.advance.inj ha).symm
        exact h.held_step (q := q) hq hother' hother
    · intro s hs
      obtain hs | hs := List.mem_append.1 hs
      · exact hreached s hs
      · obtain rfl := List.mem_singleton.1 hs
        rw [hid]
        exact hrecorded.step h.orderly hstep
    · refine List.pairwise_append.2 ⟨h.ordered, List.pairwise_singleton _ _, ?_⟩
      intro s hs s' hs' hsame
      obtain rfl := List.mem_singleton.1 hs'
      -- what was posted before is not later than what is recorded, which `s'` shows
      obtain ⟨op₀, hop₀, hprecedes⟩ := h.reached s hs
      rw [hsame, hid] at hop₀
      obtain rfl := Option.some.inj (hop.symm.trans hop₀)
      rw [hstate]
      exact hprecedes

/-! ## The recorded states of a run -/

/-- The state recorded for an operation. -/
def recorded (p : PostingQueue) (id : QString) : Option OperationState :=
  (p.queue.operations id).map (·.data.state)

theorem reached_recorded {state : OperationState} (h : p.recorded id = some state) :
    p.Reached id state := by
  obtain ⟨op, hop, rfl⟩ := Option.map_eq_some_iff.1 h
  exact ⟨op, hop, .refl _⟩

theorem Reached.of_recorded {state : OperationState} (h : p.Reached id state)
    (h' : ∀ state', p.recorded id = some state' → p'.Reached id state') : p'.Reached id state := by
  obtain ⟨op, hop, hstate⟩ := h
  obtain ⟨op', hop', hstate'⟩ := h' op.data.state (congrArg (Option.map _) hop)
  exact ⟨op', hop', hstate.trans hstate'⟩

/-- In every run the recorded states of an operation follow one another. -/
theorem recordedStates_pairwise {actions : List Action} (h : p.queue.Orderly) :
    (recordedStates id p actions).Pairwise OperationState.Precedes := by
  unfold recordedStates
  rw [List.pairwise_filterMap]
  have hvisited := @visited_pairwise _ _ step (fun m => m.queue.Orderly)
    (fun m m' => ∀ state, m.recorded id = some state → m'.Reached id state)
    (fun _ _ _ => step_orderly)
    (fun _ _ _ horderly hstep _ hstate => (reached_recorded hstate).step horderly hstep)
    (fun _ _ hstate => reached_recorded hstate)
    (fun _ _ _ h h' state hstate => (h state hstate).of_recorded h') p h actions
  refine hvisited.1.imp ?_
  intro m m' hreached state hstate state' hstate'
  obtain ⟨op, hop, hprecedes⟩ := hreached state hstate
  rw [hop] at hstate'
  obtain rfl := Option.some.inj hstate'
  exact hprecedes

theorem recordedStates_cons {op : Operation} (h : p.queue.operations id = some op)
    (actions : List Action) : ∃ l, recordedStates id p actions = op.data.state :: l := by
  cases actions with
  | nil => exact ⟨[], by simp [recordedStates, visited, h]⟩
  | cons a actions =>
    unfold recordedStates
    rw [visited, List.filterMap_cons, h]
    exact ⟨_, rfl⟩

/-- The first state recorded for an operation is `Queued`. -/
theorem recordedStates_starts {actions : List Action} (h : p.queue.operations id = none) :
    recordedStates id p actions = [] ∨ ∃ l, recordedStates id p actions = .queued :: l := by
  induction actions generalizing p with
  | nil =>
    refine Or.inl ?_
    simp [recordedStates, visited, h]
  | cons a actions ih =>
    cases hstep : p.step a with
    | none =>
      refine Or.inl ?_
      simp [recordedStates, visited, h, hstep]
    | some m =>
      have hrest : recordedStates id p (a :: actions) = recordedStates id m actions := by
        simp [recordedStates, visited, h, hstep]
      rw [hrest]
      rcases step_progresses hstep id with ⟨op, op', hop, -, -⟩ | ⟨-, hnone | ⟨name, callback,
        hnew⟩⟩
      · exact absurd (hop.symm.trans h) (Option.some_ne_none op)
      · exact ih hnone
      · exact Or.inr (recordedStates_cons hnew actions)

end PostingQueue

/-! ## Completed operations -/

namespace Operation

variable {op op' : Operation} {id : QString} {a : OperationQueue.Action}

/-- The callback has not returned ok, and the worker has not decided on `Completed`. -/
def Uncompleted (op : Operation) : Prop :=
  op.data.state ≠ .completed ∧
    match op.stage with
    | .returned result => result.ok = false
    | .settling state _ => state ≠ .completed
    | _ => True

theorem decideState_not_completed {result : Result Bool} (h : result.ok = false) :
    ∃ state error, OperationQueue.decideState op result = .settling state error ∧
      state ≠ .completed := by
  unfold OperationQueue.decideState
  split
  · exact ⟨_, _, rfl, OperationState.noConfusion⟩
  · rw [if_neg (by rw [h]; decide)]
    exact ⟨_, _, rfl, OperationState.noConfusion⟩

theorem uncompleted_early {data : OperationData} {callback : Bool} {stage : Stage}
    (h : stage.early = true) (hstate : data.state ≠ .completed) :
    Uncompleted ⟨data, callback, stage⟩ := by
  refine ⟨hstate, ?_⟩
  cases stage with
  | inserted | posted | waiting | started => trivial
  | _ => cases h

theorem Uncompleted.moves (h : op.Uncompleted) (hmoves : op.Moves op')
    (hrunning : op.stage ≠ .running) : op'.Uncompleted := by
  obtain ⟨data, callback, stage⟩ := op
  obtain ⟨hstate, hstage'⟩ := h
  cases hmoves with
  | stay => exact ⟨hstate, hstage'⟩
  | cancel => exact ⟨hstate, hstage'⟩
  | wait stage' _ hearly => exact uncompleted_early hearly hstate
  | refuse => exact ⟨hstate, OperationState.noConfusion⟩
  | check => exact ⟨hstate, trivial⟩
  | look hstage =>
    obtain rfl : stage = .checked := hstage
    refine ⟨hstate, ?_⟩
    rcases @look_cases ⟨data, callback, .checked⟩ with ⟨error, hlook⟩ | hlook
    · rw [hlook]
      exact OperationState.noConfusion
    · rw [hlook]
      trivial
  | enter => exact ⟨OperationState.noConfusion, trivial⟩
  | run => exact ⟨hstate, trivial⟩
  | report progress hstage => exact absurd hstage hrunning
  | finish result hstage => exact absurd hstage hrunning
  | decide result hstage =>
    obtain rfl : stage = .returned result := hstage
    obtain ⟨state, error, hdecide, hne⟩ :=
      @decideState_not_completed ⟨data, callback, .returned result⟩ result hstage'
    refine ⟨hstate, ?_⟩
    rw [hdecide]
    exact hne
  | settle state error hstage =>
    obtain rfl : stage = .settling state error := hstage
    exact ⟨hstage', trivial⟩
  | leave => exact ⟨hstate, trivial⟩

theorem Uncompleted.effect (h : op.Uncompleted) (heffect : op.Effect id a op')
    (hfinish : ∀ result, a = .finish id result → result.ok = false) : op'.Uncompleted := by
  cases heffect with
  | keep => exact h
  | cancel => exact h
  | advance hmoves hrunning => exact h.moves hmoves hrunning
  | progress => exact ⟨h.1, trivial⟩
  | finish result => exact ⟨h.1, hfinish result rfl⟩

end Operation

namespace PostingQueue

open OperationQueue Transitions

variable {p p' : PostingQueue} {a : Action} {id : QString} {maxConcurrentOperations : ℕ}
  {actions : List Action}

/-- An operation that the queue has is not on its way to `Completed`. -/
def Uncompleted (id : QString) (p : PostingQueue) : Prop :=
  ∀ op, p.queue.operations id = some op → op.Uncompleted

theorem Uncompleted.step (h : p.Uncompleted id)
    (hfinish : ∀ result, a = .finish id result → result.ok = false)
    (hstep : p.step a = some p') : p'.Uncompleted id := by
  intro op' hop'
  rcases step_operations hstep with hsame | ⟨q, hq, hsame⟩
  · exact h op' (by rw [← hsame, hop'])
  · rw [hsame] at hop'
    rcases OperationQueue.step_progresses hq id with ⟨op, -, hop, -⟩ | ⟨-, hnone | ⟨name, callback,
      hnew⟩⟩
    · obtain ⟨op₁, hop₁, heffect⟩ := step_effect hq hop
      obtain rfl := Option.some.inj (hop'.symm.trans hop₁)
      exact (h op hop).effect heffect hfinish
    · exact absurd (hop'.symm.trans hnone) (Option.some_ne_none op')
    · obtain rfl := Option.some.inj (hop'.symm.trans hnew)
      exact ⟨OperationState.noConfusion, trivial⟩

/-- `Completed` is recorded only if the callback has returned ok. -/
theorem ok_of_completed (hrun : run step (new maxConcurrentOperations) actions = some p)
    (h : p.recorded id = some .completed) :
    ∃ m result, Taken step (new maxConcurrentOperations) actions m (.finish id result) ∧
      result.ok = true := by
  by_contra hnone
  have huncompleted : p.Uncompleted id :=
    run_invariant_taken (C := fun _ a => ∀ result, a = .finish id result → result.ok = false)
      (fun _ _ _ h hfinish hstep => h.step hfinish hstep) hrun ?_ ?_
  · obtain ⟨op, hop, hstate⟩ := Option.map_eq_some_iff.1 h
    exact (huncompleted op hop).1 hstate
  · rintro m a htaken result rfl
    by_contra hok
    exact hnone ⟨m, result, htaken, Bool.of_not_eq_false hok⟩
  · intro op hop
    cases hop

/-- The runnable ends only after a terminal state was recorded. -/
theorem terminal_of_finished {op : Operation} (h : op.Orderly) (hstage : op.stage = .finished) :
    op.data.state.terminal = true := by
  obtain ⟨data, callback, stage⟩ := op
  obtain rfl : stage = .finished := hstage
  exact h.1

theorem advance_isSome {q : OperationQueue} {op : Operation} (hfinished : op.stage ≠ .finished)
    (hwaiting : op.stage ≠ .waiting) (hrunning : op.stage ≠ .running) :
    (q.advance id op).isSome = true := by
  obtain ⟨data, callback, stage⟩ := op
  cases stage with
  | waiting => exact absurd rfl hwaiting
  | running => exact absurd rfl hrunning
  | finished => exact absurd rfl hfinished
  | _ => rfl

/-- The thread that has an operation is held up only by the pool and by the callback. -/
theorem step_advance_isSome {op : Operation} (hop : p.queue.operations id = some op)
    (hfinished : op.stage ≠ .finished) (hwaiting : op.stage ≠ .waiting)
    (hrunning : op.stage ≠ .running) : (p.step (.advance id)).isSome = true := by
  obtain ⟨q, hq⟩ := Option.isSome_iff_exists.1
    (@advance_isSome id p.queue op hfinished hwaiting hrunning)
  have hstep : p.queue.step (.advance id) = some q := Option.bind_eq_some_iff.2 ⟨op, hop, hq⟩
  rw [step, hstep]
  cases p.held id with
  | some snapshotValue => rfl
  | none =>
    dsimp only
    split
    · rfl
    · rfl

/-- In every run the states recorded for an operation are `Queued`, then possibly `Running`,
    then one terminal state; its runnable is held up only by the pool and by the callback, and
    ends only after the terminal state was recorded; `Completed` is recorded only if the
    callback has returned ok; and the snapshots posted for one operation show states that
    follow one another. -/
theorem operation_states {maxConcurrentOperations : ℕ} {actions : List Action} {p : PostingQueue}
    {id : QString} (hrun : run step (new maxConcurrentOperations) actions = some p) :
    (recordedStates id (new maxConcurrentOperations) actions = [] ∨
      ∃ queued running ended t, OperationState.terminal t = true ∧
        recordedStates id (new maxConcurrentOperations) actions =
          List.replicate (queued + 1) .queued ++
            (List.replicate running .running ++ List.replicate ended t)) ∧
    (∀ op, p.queue.operations id = some op →
      (op.stage = .finished → op.data.state.terminal = true) ∧
        (op.stage ≠ .finished → op.stage ≠ .waiting → op.stage ≠ .running →
          (p.step (.advance id)).isSome = true)) ∧
    (p.recorded id = some .completed →
      ∃ m result, Taken step (new maxConcurrentOperations) actions m (.finish id result) ∧
        result.ok = true) ∧
    (p.log.filter fun s => s.id = id).Pairwise fun s s' => s.state.Precedes s'.state := by
  have hconsistent : p.Consistent :=
    run_invariant (fun _ _ _ h hstep => h.step hstep) hrun (consistent_new maxConcurrentOperations)
  refine ⟨?_, ?_, ok_of_completed hrun, ?_⟩
  · have hpairwise := @recordedStates_pairwise (new maxConcurrentOperations) id actions
      (orderly_new maxConcurrentOperations)
    rcases @recordedStates_starts (new maxConcurrentOperations) id actions rfl with hnil | ⟨l, hl⟩
    · exact Or.inl hnil
    · rw [hl] at hpairwise ⊢
      obtain ⟨queued, running, ended, t, ht, rfl⟩ :=
        OperationState.phases (List.pairwise_cons.1 hpairwise).2
      exact Or.inr ⟨queued, running, ended, t, ht, rfl⟩
  · intro op hop
    exact ⟨terminal_of_finished (hconsistent.orderly id op hop), step_advance_isSome hop⟩
  · rw [List.pairwise_filter]
    refine hconsistent.ordered.imp ?_
    intro s s' hprecedes hs hs'
    exact hprecedes ((of_decide_eq_true hs).trans (of_decide_eq_true hs').symm)

/-! ### Two operations -/

/-- Two operations share a pool of one thread.  The first reports progress and succeeds; it is
    cancelled when its worker has looked at the token for the last time.  The second is
    cancelled while it waits. -/
def copyAndDelete : List Action :=
  let copy := qStringLiteral "a"
  let delete := qStringLiteral "b"
  [.enqueue copy (qStringLiteral "Copy") true, .enqueue delete (qStringLiteral "Delete") true] ++
    List.replicate 3 (.advance copy) ++ List.replicate 3 (.advance delete) ++
    List.replicate 6 (.advance copy) ++
    [.progress copy ⟨512, 1024⟩, .advance copy, .cancel delete, .advance copy,
      .finish copy (.success true), .advance copy, .cancel copy] ++
    List.replicate 3 (.advance copy) ++ List.replicate 6 (.advance delete)

/-- The states of the snapshots that were posted. -/
def postedStates (p : PostingQueue) : List (QString × OperationState) :=
  p.log.map fun s => (s.id, s.state)

theorem posted_of_run {actions : List Action} {states : List (QString × OperationState)}
    (h : (run step (new 1) actions).map postedStates = some states) :
    ∃ p, run step (new 1) actions = some p ∧ p.postedStates = states :=
  Option.map_eq_some_iff.1 h

theorem operation_states_copyAndDelete :
    ∃ p, run step (new 1) copyAndDelete = some p ∧
      p.postedStates = [(qStringLiteral "a", .queued), (qStringLiteral "b", .queued),
        (qStringLiteral "a", .running), (qStringLiteral "a", .running),
        (qStringLiteral "a", .completed), (qStringLiteral "b", .cancelled)] ∧
      (p.log.filter fun s => s.id = qStringLiteral "a").Pairwise
        fun s s' => s.state.Precedes s'.state := by
  obtain ⟨p, hrun, hposted⟩ := @posted_of_run copyAndDelete
    [(qStringLiteral "a", .queued), (qStringLiteral "b", .queued),
      (qStringLiteral "a", .running), (qStringLiteral "a", .running),
      (qStringLiteral "a", .completed), (qStringLiteral "b", .cancelled)] (by decide +kernel)
  have hstates := @operation_states 1 copyAndDelete p (qStringLiteral "a") hrun
  exact ⟨p, hrun, hposted, hstates.2.2.2⟩

end PostingQueue

end SmbBrowser.Application
