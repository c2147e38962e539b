import Mathlib.Logic.Function.Basic
import SmbBrowser.Base.Transitions
import SmbBrowser.Core.Types

/-!
# The operation queue

`OperationQueue` (application/OperationQueue.cpp) runs callbacks on the threads of a pool.
The queue, the thread that enqueues an operation and the one that runs it take their steps
in any order; what happens under `m_mutex` is one step, and so is each look at a
cancellation token.  A callback may do anything: it reports progress as often as it likes,
and ends with any result.

Results:
* `step_eq`: what a step does to each operation;
* `Caught.step`, `Missed.step`: an operation whose token is still looked at ends as
  cancelled, and one whose worker has decided otherwise does not;
* `cancel_honoured_iff`: when the cancellations of an operation show in its last state.
-/

namespace SmbBrowser.Application

open SmbBrowser.Base SmbBrowser.Qt SmbBrowser.Core

/-- `TransferProgress` (SmbClient.h:25). -/
structure TransferProgress where
  bytesTransferred : ℤ := 0
  totalBytes : ℤ := 0
  deriving DecidableEq

/-- `OperationState` (OperationQueue.h:15). -/
inductive OperationState where
  | queued
  | running
  | completed
  | failed
  | cancelled
  deriving DecidableEq

/-- A state in which an operation is left. -/
def OperationState.terminal : OperationState → Bool
  | .queued | .running => false
  | .completed | .failed | .cancelled => true

/-- `OperationSnapshot` (OperationQueue.h:23). -/
structure OperationSnapshot where
  id : QString := []
  name : QString := []
  state : OperationState := .queued
  progress : TransferProgress := {}
  error : AppError := {}
  deriving DecidableEq

/-- `OperationQueue::OperationData` (OperationQueue.cpp:9); of the token, whether it asks
    for cancellation. -/
structure OperationData where
  id : QString
  name : QString
  state : OperationState := .queued
  progress : TransferProgress := {}
  error : AppError := {}
  cancellationToken : Bool := false
  deriving DecidableEq

/-- `cancelledError` (OperationQueue.cpp:20). -/
def cancelledError : AppError :=
  .fromCode .operationCancelled .general (qStringLiteral "Operation cancelled.")

/-- How far `enqueue` and the runnable it starts have come with an operation. -/
inductive Stage where
  /-- `enqueue`, before `postChanged`. -/
  | inserted
  /-- `enqueue`, before it starts the runnable. -/
  | posted
  /-- The runnable waits for a thread. -/
  | waiting
  /-- The runnable, before it looks whether there is a callback. -/
  | started
  /-- Before the first look at the token. -/
  | checked
  /-- Before `setState(id, Running)`. -/
  | entering
  /-- In `setState(id, Running)`, before `postChanged`. -/
  | entered
  /-- In the callback. -/
  | running
  /-- In the callback, in `setProgress`, before `postChanged`. -/
  | reported
  /-- The callback has returned, before the last look at the token. -/
  | returned (result : Result Bool)
  /-- Before `setState` with a terminal state. -/
  | settling (state : OperationState) (error : AppError)
  /-- In that `setState`, before `postChanged`. -/
  | settled
  /-- The runnable has ended. -/
  | finished

/-- An operation with whether its callback is set, and its stage. -/
structure Operation where
  data : OperationData
  callback : Bool
  stage : Stage

/-- `OperationQueue` (OperationQueue.h:34) with its thread pool and the snapshots that are
    on their way to `operationChanged`. -/
structure OperationQueue where
  operations : QString → Option Operation := fun _ => none
  maxThreadCount : ℕ
  activeThreadCount : ℕ := 0
  waiting : List QString := []
  posted : List OperationSnapshot := []

namespace OperationQueue

/-- `OperationQueue::OperationQueue` (OperationQueue.cpp:44). -/
def new (maxConcurrentOperations : ℕ) : OperationQueue where
  maxThreadCount := max 1 maxConcurrentOperations

variable (q : OperationQueue)

/-- Change an operation that the queue has. -/
def modify (id : QString) (f : Operation → Operation) : OperationQueue :=
  { q with operations := Function.update q.operations id ((q.operations id).map f) }

/-- `OperationQueue::snapshot` (OperationQueue.cpp:128). -/
def snapshot (id : QString) : OperationSnapshot :=
  match q.operations id with
  | none => {}
  | some ⟨data, _, _⟩ => ⟨data.id, data.name, data.state, data.progress, data.error⟩

/-- `OperationQueue::postChanged` (OperationQueue.cpp:177). -/
def postChanged (id : QString) : OperationQueue := { q with posted := q.posted ++ [q.snapshot id] }

/-- What `OperationQueue::setState` (OperationQueue.cpp:151) does under the mutex. -/
def setState (id : QString) (state : OperationState) (error : AppError := {}) : OperationQueue :=
  q.modify id fun op => { op with data := { op.data with state, error } }

/-- What `OperationQueue::setProgress` (OperationQueue.cpp:165) does under the mutex. -/
def setProgress (id : QString) (progress : TransferProgress) : OperationQueue :=
  q.modify id fun op => { op with data := { op.data with progress } }

/-- The thread that has an operation goes on to a stage. -/
def goto (id : QString) (stage : Stage) : OperationQueue := q.modify id fun op => { op with stage }

/-- `OperationQueue::cancel` (OperationQueue.cpp:113). -/
def cancel (id : QString) : Bool × OperationQueue :=
  match q.operations id with
  | none => (false, q)
  | some _ =>
    (true, q.modify id fun op => { op with data := { op.data with cancellationToken := true } })

/-- `enqueue` inserts an operation (OperationQueue.cpp:63). -/
def insert (id name : QString) (callback : Bool) : OperationQueue :=
  { q with
    operations := Function.update q.operations id (some ⟨{ id, name }, callback, .inserted⟩) }

/-- The first look of a runnable at its token (OperationQueue.cpp:84). -/
def look (op : Operation) : Stage :=
  if op.data.cancellationToken then .settling .cancelled cancelledError else .entering

/-- The last look of a runnable at its token (OperationQueue.cpp:98). -/
def decideState (op : Operation) (result : Result Bool) : Stage :=
  if op.data.cancellationToken ∨ (!result.ok ∧ result.error.code = .operationCancelled) then
    .settling .cancelled (if result.ok then cancelledError else result.error)
  else if result.ok then
    .settling .completed {}
  else
    .settling .failed result.error

/-- The error of an operation without a callback (OperationQueue.cpp:76). -/
def emptyCallback : AppError :=
  .fromCode .unknown .general (qStringLiteral "Operation callback is empty.")

/-- The next step of the thread that has an operation; in the callback, the callback
    decides (`progress`, `finish`). -/
def advance (id : QString) (op : Operation) : Option OperationQueue :=
  match op.stage with
  | .inserted => some ((q.postChanged id).goto id .posted)
  | .posted => some { q.goto id .waiting with waiting := q.waiting ++ [id] }
  | .waiting =>
    -- a thread that is free takes the runnable that has waited longest
    if q.waiting.head? = some id ∧ q.activeThreadCount < q.maxThreadCount then
      some { q.goto id .started with
        waiting := q.waiting.tail, activeThreadCount := q.activeThreadCount + 1 }
    else
      none
  | .started =>
    some (q.goto id (if op.callback then .checked else .settling .failed emptyCallback))
  | .checked => some (q.goto id (look op))
  | .entering => some ((q.setState id .running).goto id .entered)
  | .entered => some ((q.postChanged id).goto id .running)
  | .running => none
  | .reported => some ((q.postChanged id).goto id .running)
  | .returned result => some (q.goto id (decideState op result))
  | .settling state error => some ((q.setState id state error).goto id .settled)
  | .settled =>
    some { (q.postChanged id).goto id .finished with activeThreadCount := q.activeThreadCount - 1 }
  | .finished => none

/-- What the threads do. -/
inductive Action where
  /-- `enqueue` makes an id, which is new, and inserts the operation. -/
  | enqueue (id name : QString) (callback : Bool)
  /-- The thread that has the operation takes its next step. -/
  | advance (id : QString)
  /-- The callback reports progress. -/
  | progress (id : QString) (progress : TransferProgress)
  /-- The callback returns. -/
  | finish (id : QString) (result : Result Bool)
  | cancel (id : QString)
  | snapshot (id : QString)
  | snapshots
  /-- The destructor cancels every operation. -/
  | destroy
  /-- `operationChanged` is emitted for the first snapshot on its way. -/
  | deliver

/-- One step of the queue and its threads. -/
def step (q : OperationQueue) : Action → Option OperationQueue
  | .enqueue id name callback =>
    if q.operations id = none then some (q.insert id name callback) else none
  | .advance id => (q.operations id).bind (q.advance id)
  | .progress id progress =>
    (q.operations id).bind fun op =>
      match op.stage with
      | .running => some ((q.setProgress id progress).goto id .reported)
      | _ => none
  | .finish id result =>
    (q.operations id).bind fun op =>
      match op.stage with
      | .running => some (q.goto id (.returned result))
      | _ => none
  | .cancel id => some (q.cancel id).2
  | .snapshot _ | .snapshots => some q
  | .destroy =>
    some { q with
      operations := fun id => (q.operations id).map fun op =>
        { op with data := { op.data with cancellationToken := true } } }
  | .deliver => some { q with posted := q.posted.tail }

end OperationQueue

/-! ## What a step does -/

/-- A stage before the runnable has looked for its callback. -/
def Stage.early : Stage → Bool
  | .inserted | .posted | .waiting | .started => true
  | _ => false

/-- A stage after the terminal state was recorded. -/
def Stage.over : Stage → Bool
  | .settled | .finished => true
  | _ => false

/-- What one step can do to an operation. -/
inductive Operation.Moves : Operation → Operation → Prop where
  | stay (op : Operation) : Moves op op
  | cancel (op : Operation) :
    Moves op { op with data := { op.data with cancellationToken := true } }
  | wait {op : Operation} (stage : Stage) (h : op.stage.early) (hstage : stage.early) :
    Moves op { op with stage }
  | refuse {op : Operation} (h : op.stage = .started) (hcallback : op.callback = false) :
    Moves op { op with stage := .settling .failed OperationQueue.emptyCallback }
  | check {op : Operation} (h : op.stage = .started) (hcallback : op.callback = true) :
    Moves op { op with stage := .checked }
  | look {op : Operation} (h : op.stage = .checked) :
    Moves op { op with stage := OperationQueue.look op }
  | enter {op : Operation} (h : op.stage = .entering) :
    Moves op { op with data := { op.data with state := .running, error := {} }, stage := .entered }
  | run {op : Operation} (h : op.stage = .entered ∨ op.stage = .reported) :
    Moves op { op with stage := .running }
  | report {op : Operation} (progress : TransferProgress) (h : op.stage = .running) :
    Moves op { op with data := { op.data with progress }, stage := .reported }
  | finish {op : Operation} (result : Result Bool) (h : op.stage = .running) :
    Moves op { op with stage := .returned result }
  | decide {op : Operation} (result : Result Bool) (h : op.stage = .returned result) :
    Moves op { op with stage := OperationQueue.decideState op result }
  | settle {op : Operation} (state : OperationState) (error : AppError)
      (h : op.stage = .settling state error) :
    Moves op { op with data := { op.data with state, error }, stage := .settled }
  | leave {op : Operation} (h : op.stage = .settled) : Moves op { op with stage := .finished }

namespace OperationQueue

variable {q q' : OperationQueue} {id : QString} {op : Operation}

theorem modify_operations {f : Operation → Operation} (h : q.operations id = some op) :
    (q.modify id f).operations = Function.update q.operations id (some (f op)) := by
  unfold modify
  rw [h, Option.map_some]

theorem modify_modify {f g : Operation → Operation} (h : q.operations id = some op) :
    ((q.modify id f).modify id g).operations =
      Function.update q.operations id (some (g (f op))) := by
  have hself : (q.modify id f).operations id = some (f op) := by
    rw [modify_operations h, Function.update_self]
  rw [modify_operations hself, modify_operations h, Function.update_idem]

/-- The thread that has an operation moves it and no other. -/
theorem advance_moves (hop : q.operations id = some op) (h : q.advance id op = some q') :
    ∃ op', op.Moves op' ∧ q'.operations = Function.update q.operations id (some op') := by
  unfold advance at h
  split at h
  · next hstage =>
    obtain rfl := Option.some.inj h
    exact ⟨_, .wait .posted (hstage ▸ rfl) rfl, modify_operations hop⟩
  · next hstage =>
    obtain rfl := Option.some.inj h
    exact ⟨_, .wait .waiting (hstage ▸ rfl) rfl, modify_operations hop⟩
  · next hstage =>
    split at h
    · obtain rfl := Option.some.inj h
      exact ⟨_, .wait .started (hstage ▸ rfl) rfl, modify_operations hop⟩
    · cases h
  · next hstage =>
    obtain rfl := Option.some.inj h
    cases hcallback : op.callback with
    | false => exact ⟨_, .refuse hstage hcallback, modify_operations hop⟩
    | true => exact ⟨_, .check hstage hcallback, modify_operations hop⟩
  · next hstage =>
    obtain rfl := Option.some.inj h
    exact ⟨_, .look hstage, modify_operations hop⟩
  · next hstage =>
    obtain rfl := Option.some.inj h
    exact ⟨_, .enter hstage, modify_modify hop⟩
  · next hstage =>
    obtain rfl := Option.some.inj h
    exact ⟨_, .run (Or.inl hstage), modify_operations hop⟩
  · cases h
  · next hstage =>
    obtain rfl := Option.some.inj h
    exact ⟨_, .run (Or.inr hstage), modify_operations hop⟩
  · next hstage =>
    obtain rfl := Option.some.inj h
    exact ⟨_, .decide _ hstage, modify_operations hop⟩
  · next hstage =>
    obtain rfl := Option.some.inj h
    exact ⟨_, .settle _ _ hstage, modify_modify hop⟩
  · next hstage =>
    obtain rfl := Option.some.inj h
    exact ⟨_, .leave hstage, modify_operations hop⟩
  · cases h

/-- What a step can do to the operation an id stands for. -/
def Progresses (q q' : OperationQueue) (id : QString) : Prop :=
  (∃ op op', q.operations id = some op ∧ q'.operations id = some op' ∧ op.Moves op') ∨
    q.operations id = none ∧ (q'.operations id = none ∨
      ∃ name callback, q'.operations id = some ⟨{ id, name }, callback, .inserted⟩)

theorem progresses_of_eq (h : q'.operations id = q.operations id) : Progresses q q' id := by
  cases hop : q.operations id with
  | none => exact Or.inr ⟨hop, Or.inl (h.trans hop)⟩
  | some op => exact Or.inl ⟨op, op, hop, h.trans hop, .stay op⟩

theorem progresses_of_update {id' : QString} {op' : Operation} (hop : q.operations id' = some op)
    (hmoves : op.Moves op') (hq' : q'.operations = Function.update q.operations id' (some op')) :
    Progresses q q' id := by
  by_cases hid : id = id'
  · subst hid
    exact Or.inl ⟨op, op', hop, by rw [hq', Function.update_self], hmoves⟩
  · exact progresses_of_eq (by rw [hq', Function.update_of_ne hid])

/-- A step inserts an operation, or moves those there are. -/
theorem step_progresses {a : Action} (h : q.step a = some q') (id : QString) :
    Progresses q q' id := by
  cases a with
  | enqueue id' name callback =>
    rw [step] at h
    split at h
    · next hnew =>
      obtain rfl := Option.some.inj h
      by_cases hid : id = id'
      · subst hid
        exact Or.inr ⟨hnew, Or.inr ⟨name, callback, Function.update_self _ _ _⟩⟩
      · exact progresses_of_eq (Function.update_of_ne hid _ _)
    · cases h
  | advance id' =>
    obtain ⟨op, hop, hadvance⟩ := Option.bind_eq_some_iff.1 h
    obtain ⟨op', hmoves, hq'⟩ := advance_moves hop hadvance
    exact progresses_of_update hop hmoves hq'
  | progress id' progress =>
    obtain ⟨op, hop, hreport⟩ := Option.bind_eq_some_iff.1 h
    split at hreport
    · next hstage =>
      obtain rfl := Option.some.inj hreport
      exact progresses_of_update hop (.report progress hstage) (modify_modify hop)
    · cases hreport
  | finish id' result =>
    obtain ⟨op, hop, hfinish⟩ := Option.bind_eq_some_iff.1 h
    split at hfinish
    · next hstage =>
      obtain rfl := Option.some.inj hfinish
      exact progresses_of_update hop (.finish result hstage) (modify_operations hop)
    · cases hfinish
  | cancel id' =>
    obtain rfl := Option.some.inj h
    unfold cancel
    cases hop : q.operations id' with
    | none => exact progresses_of_eq rfl
    | some op => exact progresses_of_update hop (.cancel op) (modify_operations hop)
  | snapshot _ =>
    obtain rfl := Option.some.inj h
    exact progresses_of_eq rfl
  | snapshots =>
    obtain rfl := Option.some.inj h
    exact progresses_of_eq rfl
  | destroy =>
    obtain rfl := Option.some.inj h
    cases hop : q.operations id with
    | none => exact Or.inr ⟨hop, Or.inl (congrArg (Option.map _) hop)⟩
    | some op => exact Or.inl ⟨op, _, hop, congrArg (Option.map _) hop, .cancel op⟩
  | deliver =>
    obtain rfl := Option.some.inj h
    exact progresses_of_eq rfl

end OperationQueue

/-! ## What becomes of an operation -/

namespace Operation

variable {op op' : Operation}

/-- The terminal state of an operation is recorded when it is settled, and not before;
    without a callback it is `Failed`. -/
def Orderly (op : Operation) : Prop :=
  match op.stage with
  | .inserted | .posted | .waiting | .started => op.data.state.terminal = false
  | .settling state _ =>
    op.data.state.terminal = false ∧ state.terminal = true ∧
      (op.callback = false → state = .failed)
  | .settled | .finished =>
    op.data.state.terminal = true ∧ (op.callback = false → op.data.state = .failed)
  | _ => op.data.state.terminal = false ∧ op.callback = true

/-- A cancelled operation whose worker has not decided otherwise. -/
def Caught (op : Operation) : Prop :=
  op.callback = true ∧ op.data.cancellationToken = true ∧
    match op.stage with
    | .settling state _ => state = .cancelled
    | .settled | .finished => op.data.state = .cancelled
    | _ => True

/-- An operation that will not be recorded as cancelled, or was not. -/
def Missed (op : Operation) : Prop :=
  match op.stage with
  | .inserted | .posted | .waiting | .started => op.callback = false
  | .settling state _ => state ≠ .cancelled
  | .settled | .finished => op.data.state ≠ .cancelled
  | _ => False

theorem look_caught (h : op.data.cancellationToken = true) :
    OperationQueue.look op = .settling .cancelled cancelledError := if_pos h

theorem decideState_caught {result : Result Bool} (h : op.data.cancellationToken = true) :
    OperationQueue.decideState op result =
      .settling .cancelled (if result.ok then cancelledError else result.error) :=
  if_pos (Or.inl h)

/-- The last look settles an operation in a terminal state. -/
theorem decideState_terminal {result : Result Bool} :
    ∃ state error, OperationQueue.decideState op result = .settling state error ∧
      state.terminal = true := by
  unfold OperationQueue.decideState
  split
  · exact ⟨_, _, rfl, rfl⟩
  split
  · exact ⟨_, _, rfl, rfl⟩
  · exact ⟨_, _, rfl, rfl⟩

theorem look_cases :
    (∃ error, OperationQueue.look op = .settling .cancelled error) ∨
      OperationQueue.look op = .entering := by
  unfold OperationQueue.look
  split
  · exact Or.inl ⟨_, rfl⟩
  · exact Or.inr rfl

theorem orderly_early {data : OperationData} {callback : Bool} {stage : Stage}
    (h : stage.early = true) : Orderly ⟨data, callback, stage⟩ ↔ data.state.terminal = false := by
  cases stage with
  | inserted | posted | waiting | started => exact Iff.rfl
  | _ => cases h

theorem missed_early {data : OperationData} {callback : Bool} {stage : Stage}
    (h : stage.early = true) : Missed ⟨data, callback, stage⟩ ↔ callback = false := by
  cases stage with
  | inserted | posted | waiting | started => exact Iff.rfl
  | _ => cases h

theorem Orderly.moves (h : op.Orderly) (hmoves : op.Moves op') : op'.Orderly := by
  obtain ⟨data, callback, stage⟩ := op
  cases hmoves with
  | stay => exact h
  | cancel => exact h
  | wait stage' hstage hstage' => exact (orderly_early hstage').2 ((orderly_early hstage).1 h)
  | refuse hstage hcallback =>
    obtain rfl : stage = .started := hstage
    exact ⟨h, rfl, fun _ => rfl⟩
  | check hstage hcallback =>
    obtain rfl : stage = .started := hstage
    exact ⟨h, hcallback⟩
  | look hstage =>
    obtain rfl : stage = .checked := hstage
    obtain ⟨hstate, hcallback⟩ := h
    rcases @look_cases ⟨data, callback, .checked⟩ with ⟨error, hlook⟩ | hlook
    · unfold Orderly
      rw [hlook]
      exact ⟨hstate, rfl, fun hnone => absurd (hcallback.symm.trans hnone) (by decide)⟩
    · unfold Orderly
      rw [hlook]
      exact ⟨hstate, hcallback⟩
  | enter hstage =>
    obtain rfl : stage = .entering := hstage
    exact ⟨rfl, h.2⟩
  | run hstage =>
    obtain rfl | rfl : stage = .entered ∨ stage = .reported := hstage
    · exact h
    · exact h
  | report progress hstage =>
    obtain rfl : stage = .running := hstage
    exact h
  | finish result hstage =>
    obtain rfl : stage = .running := hstage
    exact h
  | decide result hstage =>
    obtain rfl : stage = .returned result := hstage
    obtain ⟨hstate, hcallback⟩ := h
    obtain ⟨state, error, hdecide, hterminal⟩ :=
      @decideState_terminal ⟨data, callback, .returned result⟩ result
    unfold Orderly
    rw [hdecide]
    exact ⟨hstate, hterminal, fun hnone => absurd (hcallback.symm.trans hnone) (by decide)⟩
  | settle state error hstage =>
    obtain rfl : stage = .settling state error := hstage
    exact ⟨h.2.1, h.2.2⟩
  | leave hstage =>
    obtain rfl : stage = .settled := hstage
    exact h

/-- A cancelled operation stays so until it is recorded as cancelled. -/
theorem Caught.moves (h : op.Caught) (hmoves : op.Moves op') : op'.Caught := by
  obtain ⟨data, callback, stage⟩ := op
  obtain ⟨hcallback, htoken, hstage'⟩ := h
  cases hmoves with
  | stay => exact ⟨hcallback, htoken, hstage'⟩
  | cancel => exact ⟨hcallback, rfl, hstage'⟩
  | wait stage' _ hearly =>
    refine ⟨hcallback, htoken, ?_⟩
    cases stage' with
    | inserted | posted | waiting | started => trivial
    | _ => cases hearly
  | refuse hstage hnone => exact absurd (hcallback.symm.trans hnone) (by decide)
  | check hstage _ => exact ⟨hcallback, htoken, trivial⟩
  | look hstage =>
    refine ⟨hcallback, htoken, ?_⟩
    rw [look_caught htoken]
  | enter hstage => exact ⟨hcallback, htoken, trivial⟩
  | run hstage => exact ⟨hcallback, htoken, trivial⟩
  | report progress hstage => exact ⟨hcallback, htoken, trivial⟩
  | finish result hstage => exact ⟨hcallback, htoken, trivial⟩
  | decide result hstage =>
    refine ⟨hcallback, htoken, ?_⟩
    rw [decideState_caught htoken]
  | settle state error hstage =>
    obtain rfl : stage = .settling state error := hstage
    exact ⟨hcallback, htoken, hstage'⟩
  | leave hstage =>
    obtain rfl : stage = .settled := hstage
    exact ⟨hcallback, htoken, hstage'⟩

/-- An operation that the cancellation has missed is not recorded as cancelled. -/
theorem Missed.moves (h : op.Missed) (hmoves : op.Moves op') : op'.Missed := by
  obtain ⟨data, callback, stage⟩ := op
  cases hmoves with
  | stay => exact h
  | cancel => exact h
  | wait stage' hstage hstage' => exact (missed_early hstage').2 ((missed_early hstage).1 h)
  | refuse hstage hcallback => exact OperationState.noConfusion
  | check hstage hcallback =>
    obtain rfl : stage = .started := hstage
    exact absurd (hcallback.symm.trans h) (by decide)
  | look hstage =>
    obtain rfl : stage = .checked := hstage
    exact h.elim
  | enter hstage =>
    obtain rfl : stage = .entering := hstage
    exact h.elim
  | run hstage =>
    obtain rfl | rfl : stage = .entered ∨ stage = .reported := hstage
    · exact h.elim
    · exact h.elim
  | report progress hstage =>
    obtain rfl : stage = .running := hstage
    exact h.elim
  | finish result hstage =>
    obtain rfl : stage = .running := hstage
    exact h.elim
  | decide result hstage =>
    obtain rfl : stage = .returned result := hstage
    exact h.elim
  | settle state error hstage =>
    obtain rfl : stage = .settling state error := hstage
    exact h
  | leave hstage =>
    obtain rfl : stage = .settled := hstage
    exact h

end Operation

namespace OperationQueue

open Transitions

variable {q q' : OperationQueue} {id : QString}

/-- Every operation of the queue is orderly. -/
def Orderly (q : OperationQueue) : Prop := ∀ id op, q.operations id = some op → op.Orderly

theorem Orderly.step {a : Action} (h : q.Orderly) (hstep : q.step a = some q') : q'.Orderly := by
  intro id op hop
  rcases step_progresses hstep id with ⟨op₀, op', hop₀, hop', hmoves⟩ | ⟨-, hnone | ⟨name, callback,
    hnew⟩⟩
  · obtain rfl := Option.some.inj (hop.symm.trans hop')
    exact (h id op₀ hop₀).moves hmoves
  · exact absurd (hop.symm.trans hnone) (Option.some_ne_none op)
  · obtain rfl := Option.some.inj (hop.symm.trans hnew)
    exact rfl

theorem orderly_new (maxConcurrentOperations : ℕ) : (new maxConcurrentOperations).Orderly := by
  intro id op hop
  cases hop

/-- The queue has an operation with a property. -/
def Has (P : Operation → Prop) (id : QString) (q : OperationQueue) : Prop :=
  ∃ op, q.operations id = some op ∧ P op

theorem Has.step {P : Operation → Prop} {a : Action}
    (hmoves : ∀ op op', P op → op.Moves op' → P op') (h : Has P id q)
    (hstep : q.step a = some q') : Has P id q' := by
  obtain ⟨op, hop, hP⟩ := h
  rcases step_progresses hstep id with ⟨op₀, op', hop₀, hop', hmove⟩ | ⟨hnone, -⟩
  · obtain rfl := Option.some.inj (hop.symm.trans hop₀)
    exact ⟨op', hop', hmoves op op' hP hmove⟩
  · exact absurd (hop.symm.trans hnone) (Option.some_ne_none op)

theorem Has.run {P : Operation → Prop} {actions : List Action}
    (hmoves : ∀ op op', P op → op.Moves op' → P op') (h : Has P id q)
    (hrun : Transitions.run OperationQueue.step q actions = some q') : Has P id q' :=
  @run_invariant _ _ _ (Has P id) (fun _ _ _ hq hstep => hq.step hmoves hstep) _ _ _ hrun h

/-- `cancel(id)` returns true, and no terminal state is recorded yet. -/
def Accepted (q : OperationQueue) (id : QString) : Prop :=
  (q.cancel id).1 = true ∧ (q.snapshot id).state.terminal = false

/-- The operation has a callback, and its worker has not yet decided on a state other than
    `Cancelled`. -/
def InTime (q : OperationQueue) (id : QString) : Prop :=
  Has (fun op => op.callback = true ∧
    ∀ state error, op.stage = .settling state error → state = .cancelled) id q

theorem snapshot_state {op : Operation} (h : q.operations id = some op) :
    (q.snapshot id).state = op.data.state := by
  unfold snapshot
  rw [h]

theorem cancel_moves {op : Operation} (hop : q.operations id = some op)
    (hstep : q.step (.cancel id) = some q') :
    q'.operations id =
      some { op with data := { op.data with cancellationToken := true } } := by
  obtain rfl := Option.some.inj hstep
  unfold cancel
  rw [hop]
  exact (congrFun (modify_operations hop) id).trans (Function.update_self _ _ _)

/-- A cancellation in time catches the operation. -/
theorem caught_of_inTime (horderly : q.Orderly) (haccepted : Accepted q id) (h : InTime q id)
    (hstep : q.step (.cancel id) = some q') : Has Operation.Caught id q' := by
  obtain ⟨⟨data, callback, stage⟩, hop, hcallback, hsettling⟩ := h
  have hstate : data.state.terminal = false := (snapshot_state hop) ▸ haccepted.2
  have hfits := horderly id _ hop
  refine ⟨_, cancel_moves hop hstep, hcallback, rfl, ?_⟩
  cases stage with
  | settling state error => exact hsettling state error rfl
  | settled | finished => exact absurd (hfits.1.symm.trans hstate) (by decide)
  | _ => trivial

/-- A cancellation too late misses the operation. -/
theorem missed_of_late (horderly : q.Orderly) (haccepted : Accepted q id) (h : ¬InTime q id) :
    Has Operation.Missed id q := by
  cases hop : q.operations id with
  | none =>
    have hrefused : (q.cancel id).1 = false := by
      unfold cancel
      rw [hop]
    exact absurd (hrefused.symm.trans haccepted.1) (by decide)
  | some op =>
    obtain ⟨data, callback, stage⟩ := op
    have hstate : data.state.terminal = false := (snapshot_state hop) ▸ haccepted.2
    have hfits := horderly id _ hop
    refine ⟨_, hop, ?_⟩
    have hlate : callback = true → ∃ state error, stage = .settling state error ∧
        state ≠ .cancelled := by
      intro hcallback
      by_contra hnone
      refine h ⟨_, hop, hcallback, ?_⟩
      intro state error hstage
      by_contra hne
      exact hnone ⟨state, error, hstage, hne⟩
    cases callback with
    | true =>
      obtain ⟨state, error, rfl, hne⟩ := hlate rfl
      exact hne
    | false =>
      cases stage with
      | inserted | posted | waiting | started => exact rfl
      | settling state error =>
        obtain rfl := hfits.2.2 rfl
        exact OperationState.noConfusion
      | settled | finished => exact absurd (hfits.1.symm.trans hstate) (by decide)
      | _ => exact absurd hfits.2 Bool.false_ne_true

theorem over_of_terminal {op : Operation} (horderly : op.Orderly)
    (hterminal : op.data.state.terminal = true) : op.stage = .settled ∨ op.stage = .finished := by
  obtain ⟨data, callback, stage⟩ := op
  cases stage with
  | settled => exact Or.inl rfl
  | finished => exact Or.inr rfl
  | inserted | posted | waiting | started => exact absurd (hterminal.symm.trans horderly) (by decide)
  | _ => exact absurd (hterminal.symm.trans horderly.1) (by decide)

/-- In every run, an operation that was cancelled before its terminal state was recorded is
    recorded as cancelled exactly when no such cancellation came too late. -/
theorem cancel_honoured_iff {maxConcurrentOperations : ℕ} {actions : List Action}
    {q : OperationQueue} {id : QString}
    (hrun : run step (new maxConcurrentOperations) actions = some q)
    (hterminal : (q.snapshot id).state.terminal = true) :
    ((∃ m, Taken step (new maxConcurrentOperations) actions m (.cancel id) ∧ Accepted m id) →
        (q.snapshot id).state = .cancelled) ↔
      ∀ m, Taken step (new maxConcurrentOperations) actions m (.cancel id) → Accepted m id →
        InTime m id := by
  have horderly : ∀ {m}, Taken step (new maxConcurrentOperations) actions m (.cancel id) →
      m.Orderly := fun htaken =>
    htaken.invariant (fun _ _ _ => Orderly.step) (orderly_new maxConcurrentOperations)
  have hend : q.Orderly :=
    run_invariant (fun _ _ _ => Orderly.step) hrun (orderly_new maxConcurrentOperations)
  constructor
  · intro h m htaken haccepted
    by_contra hlate
    obtain ⟨m', after, hstep, hafter⟩ := htaken.rest hrun
    obtain ⟨op, hop, hmissed⟩ := ((missed_of_late (horderly htaken) haccepted hlate).step
      (fun _ _ => Operation.Missed.moves) hstep).run (fun _ _ => Operation.Missed.moves) hafter
    have hcancelled := h ⟨m, htaken, haccepted⟩
    rw [snapshot_state hop] at hterminal hcancelled
    obtain ⟨data, callback, stage⟩ := op
    rcases over_of_terminal (hend id _ hop) hterminal with hstage | hstage
    · obtain rfl : stage = .settled := hstage
      exact hmissed hcancelled
    · obtain rfl : stage = .finished := hstage
      exact hmissed hcancelled
  · rintro h ⟨m, htaken, haccepted⟩
    obtain ⟨m', after, hstep, hafter⟩ := htaken.rest hrun
    obtain ⟨op, hop, -, -, hcaught⟩ :=
      (caught_of_inTime (horderly htaken) haccepted (h m htaken haccepted) hstep).run
        (fun _ _ => Operation.Caught.moves) hafter
    rw [snapshot_state hop] at hterminal ⊢
    obtain ⟨data, callback, stage⟩ := op
    rcases over_of_terminal (hend id _ hop) hterminal with hstage | hstage
    · obtain rfl : stage = .settled := hstage
      exact hcaught
    · obtain rfl : stage = .finished := hstage
      exact hcaught

/-! ### Two cancellations -/

/-- An operation is enqueued, and its callback starts. -/
def startCopy : List Action :=
  .enqueue (qStringLiteral "a") (qStringLiteral "Copy") true ::
    List.replicate 7 (.advance (qStringLiteral "a"))

/-- It is cancelled while the callback runs, which succeeds. -/
def cancelRunning : List Action :=
  startCopy ++ [.cancel (qStringLiteral "a"), .finish (qStringLiteral "a") (.success true),
    .advance (qStringLiteral "a"), .advance (qStringLiteral "a")]

/-- It succeeds, and its worker has looked at the token. -/
def decideCopy : List Action :=
  startCopy ++ [.finish (qStringLiteral "a") (.success true), .advance (qStringLiteral "a")]

/-- It is cancelled then, before its state is recorded. -/
def cancelDecided : List Action :=
  decideCopy ++ [.cancel (qStringLiteral "a"), .advance (qStringLiteral "a")]

theorem state_of_run {actions : List Action} {id : QString} {state : OperationState}
    (h : (run step (new 1) actions).map (fun q => (q.snapshot id).state) = some state) :
    ∃ q, run step (new 1) actions = some q ∧ (q.snapshot id).state = state :=
  Option.map_eq_some_iff.1 h

theorem cancel_honoured_running :
    ∃ q, run step (new 1) cancelRunning = some q ∧
      (q.snapshot (qStringLiteral "a")).state = .cancelled ∧
      (((∃ m, Taken step (new 1) cancelRunning m (.cancel (qStringLiteral "a")) ∧
            Accepted m (qStringLiteral "a")) →
          (q.snapshot (qStringLiteral "a")).state = .cancelled) ↔
        ∀ m, Taken step (new 1) cancelRunning m (.cancel (qStringLiteral "a")) →
          Accepted m (qStringLiteral "a") → InTime m (qStringLiteral "a")) := by
  obtain ⟨q, hrun, hstate⟩ :=
    @state_of_run cancelRunning (qStringLiteral "a") .cancelled (by decide +kernel)
  exact ⟨q, hrun, hstate, cancel_honoured_iff hrun (by rw [hstate]; rfl)⟩

/-- The operation is recorded as completed although `cancel` has returned true before. -/
theorem cancel_not_honoured :
    ¬ ∀ (maxConcurrentOperations : ℕ) (actions : List Action) (q : OperationQueue) (id : QString),
      run step (new maxConcurrentOperations) actions = some q →
      (q.snapshot id).state.terminal = true →
      (∃ m, Taken step (new maxConcurrentOperations) actions m (.cancel id) ∧ Accepted m id) →
      (q.snapshot id).state = .cancelled := by
  intro h
  obtain ⟨q, hrun, hstate⟩ :=
    @state_of_run cancelDecided (qStringLiteral "a") .completed (by decide +kernel)
  obtain ⟨m, hbefore, haccepted⟩ : ∃ m, run step (new 1) decideCopy = some m ∧
      ((m.cancel (qStringLiteral "a")).1, (m.snapshot (qStringLiteral "a")).state) =
        (true, OperationState.running) :=
    Option.map_eq_some_iff.1 (by decide +kernel)
  obtain ⟨hcancel, hrunning⟩ := Prod.mk.inj haccepted
  have hterminal : (m.snapshot (qStringLiteral "a")).state.terminal = false := by
    rw [hrunning]
    rfl
  have hcancelled := h 1 cancelDecided q (qStringLiteral "a") hrun (by rw [hstate]; rfl)
    ⟨m, ⟨decideCopy, _, rfl, hbefore⟩, hcancel, hterminal⟩
  exact absurd (hstate.symm.trans hcancelled) (by decide)

end OperationQueue

end SmbBrowser.Application
