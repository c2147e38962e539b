import Mathlib.Logic.Function.Basic
import SmbBrowser.Application.OperationQueue
import SmbBrowser.Base.Program
import SmbBrowser.Core.PathNormalizer

/-!
# Copy and move from the remote browser

`RemoteBrowserWidget::copySelected` and `moveSelected` (ui/RemoteBrowserWidget.cpp) take
the selected entries and leave the work to the operation queue.  The work,
`copyOrMoveEntries`, is a program whose answers come from the use case, from the token and
from the widget, which may display another connection by then.

Results:
* `meets_copyOrMoveEntries`: each call is made on the connection that was read right
  before it;
* `Faithful.step`, `Marred.step`: what a step of the widget or of a worker does to the
  calls of a task;
* `sources_iff`: when all calls are made on the connection that was displayed at the
  start.
-/

namespace SmbBrowser.Ui

open SmbBrowser.Base SmbBrowser.Qt SmbBrowser.Core SmbBrowser.Application

/-- `RemoteDestination` (RemoteFileActionPrompter.h:14). -/
structure RemoteDestination where
  connectionId : QString
  remoteDirectory : QString

/-- `RemoteFileEntry`, as far as the widget reads it. -/
structure RemoteFileEntry where
  name : QString
  remotePath : QString
  size : ℤ := 0

namespace RemoteBrowserWidget

/-- `RemoteBrowserWidget::normalizeRemotePath` (RemoteBrowserWidget.cpp:1390). -/
def normalizeRemotePath (remotePath : QString) : QString :=
  let remotePath := QString.replaceChar backslash slash remotePath.trimmed
  let remotePath := if remotePath.head? = some slash then remotePath else slash :: remotePath
  -- slashes are chopped off the end as long as something is before them
  match remotePath.rdropWhile (· = slash) with
  | [] => [slash]
  | chopped => chopped

/-- `RemoteBrowserWidget::joinRemotePath` (RemoteBrowserWidget.cpp:1418). -/
def joinRemotePath (parentPath childName : QString) : QString :=
  let parent := normalizeRemotePath parentPath
  let child := childName.trimmed
  if parent = [slash] then slash :: child else parent ++ slash :: child

end RemoteBrowserWidget

/-! ## The work -/

/-- A call of `copy` or `move` of `RemoteFileTransferUseCase`. -/
structure TransferCall where
  move : Bool
  sourceConnectionId : QString
  sourceRemotePath : QString
  targetConnectionId : QString
  targetRemotePath : QString
  deriving DecidableEq

/-- What the work asks for. -/
inductive TransferOp where
  | isCancellationRequested
  /-- What `m_connectionId` of the widget is. -/
  | connectionId
  /-- The call, with the bytes that its progress is added to and their total. -/
  | transfer (call : TransferCall) (completedBytes totalBytes : ℤ)
  | reportProgress (progress : TransferProgress)

def transfers : Interface where
  Op := TransferOp
  Ans
    | .isCancellationRequested => Bool
    | .connectionId => QString
    | .transfer _ _ _ => Result Bool
    | .reportProgress _ => Unit

abbrev TransferProgram : Type → Type := Program transfers

namespace RemoteBrowserWidget

/-- The loop of `copyOrMoveEntries` (RemoteBrowserWidget.cpp:1142). -/
def transferEntries (move : Bool) (destination : RemoteDestination) (totalBytes : ℤ) :
    ℤ → List RemoteFileEntry → TransferProgram (Result Bool)
  | _, [] => return .success true
  | completedBytes, entry :: entries => do
    let cancelled : Bool ← Program.perform (I := transfers) .isCancellationRequested
    if cancelled then
      return .failure cancelledError
    else
      let targetPath := joinRemotePath destination.remoteDirectory entry.name
      let connectionId : QString ← Program.perform (I := transfers) .connectionId
      let result : Result Bool ← Program.perform (I := transfers)
        (.transfer ⟨move, connectionId, entry.remotePath, destination.connectionId, targetPath⟩
          completedBytes totalBytes)
      if result.ok then
        let completedBytes := completedBytes + if 0 < entry.size then entry.size else 1
        let _ : Unit ← Program.perform (I := transfers)
          (.reportProgress ⟨min completedBytes totalBytes, totalBytes⟩)
        transferEntries move destination totalBytes completedBytes entries
      else
        return result

/-- `RemoteBrowserWidget::copyOrMoveEntries` (RemoteBrowserWidget.cpp:1121). -/
def copyOrMoveEntries (move : Bool) (entries : List RemoteFileEntry)
    (destination : RemoteDestination) : TransferProgram (Result Bool) :=
  if destination.connectionId.trimmed.isEmpty || destination.remoteDirectory.trimmed.isEmpty then
    return .failure (.fromCode .invalidPath .validation
      (qStringLiteral "Destination connection and folder are required."))
  else
    let totalBytes : ℤ := entries.foldl (fun totalBytes entry => totalBytes + max entry.size 0) 0
    let totalBytes := if totalBytes = 0 then (entries.length : ℤ) else totalBytes
    transferEntries move destination totalBytes 0 entries

end RemoteBrowserWidget

/-! ## The widget and its workers -/

/-- Work that the queue has, with the connection that was displayed when it was asked for
    and the calls it has made. -/
structure Task where
  invoked : QString
  program : TransferProgram (Result Bool)
  calls : List TransferCall := []

/-- The dialog of `copySelected` or `moveSelected`. -/
structure Prompt where
  move : Bool
  entries : List RemoteFileEntry
  invoked : QString

/-- The widget, less what is not read by a copy or a move, and the work in the queue. -/
structure RemoteBrowser where
  connectionId : QString := []
  prompt : Option Prompt := none
  tasks : QString → Option Task := fun _ => none

/-- What the user, the use cases and the workers do. -/
inductive Action where
  /-- `setDirectory` or `applyDirectory` displays a connection. -/
  | setDirectory (connectionId : QString)
  | clear
  /-- `copySelected` or `moveSelected`, with the selected entries. -/
  | transferSelected (move : Bool) (entries : List RemoteFileEntry)
  /-- The dialog ends; with a destination, the work is enqueued under an id. -/
  | promptDestination (operationId : QString) (destination : Option RemoteDestination)
  /-- A worker takes its next step; of the answers, it gets the one it asks for. -/
  | work (operationId : QString) (answers : (op : TransferOp) → transfers.Ans op)

/-- The calls of a question. -/
def TransferOp.calls : TransferOp → List TransferCall
  | .transfer call _ _ => [call]
  | _ => []

/-- The widget answers for its own field. -/
def RemoteBrowser.answer (b : RemoteBrowser) (answers : (op : TransferOp) → transfers.Ans op) :
    (op : TransferOp) → transfers.Ans op
  | .connectionId => b.connectionId
  | .isCancellationRequested => answers .isCancellationRequested
  | .transfer call completedBytes totalBytes => answers (.transfer call completedBytes totalBytes)
  | .reportProgress progress => answers (.reportProgress progress)

/-- A worker goes on with its work, unless it has ended. -/
def Task.work (answer : (op : TransferOp) → transfers.Ans op) (task : Task) : Option Task :=
  match task.program with
  | .pure _ => none
  | .ask op k => some { task with program := k (answer op), calls := task.calls ++ op.calls }

/-- The calls that a worker has made, and the one it has in hand. -/
def Task.allCalls (task : Task) : List TransferCall :=
  match task.program with
  | .pure _ => task.calls
  | .ask op _ => task.calls ++ op.calls

/-- One step of the widget or of a worker. -/
def step (b : RemoteBrowser) : Action → Option RemoteBrowser
  | .setDirectory connectionId => some { b with connectionId }
  | .clear => some { b with connectionId := [] }
  | .transferSelected move entries =>
    if b.prompt.isSome then none
    else if b.connectionId.isEmpty || entries.isEmpty then some b
    else some { b with prompt := some ⟨move, entries, b.connectionId⟩ }
  | .promptDestination operationId destination =>
    b.prompt.bind fun prompt =>
      match destination with
      | none => some { b with prompt := none }
      | some destination =>
        if b.tasks operationId = none then
          some { b with
            prompt := none
            tasks := Function.update b.tasks operationId (some {
              invoked := prompt.invoked
              program :=
                RemoteBrowserWidget.copyOrMoveEntries prompt.move prompt.entries destination }) }
        else
          none
  | .work operationId answers =>
    (b.tasks operationId).bind fun task =>
      (task.work (b.answer answers)).map fun task =>
        { b with tasks := Function.update b.tasks operationId (some task) }

/-! ## Each call is made on what was read before it -/

/-- The contract of the work: the state is what was read of the widget since the last
    call. -/
def reading : Contract transfers (Option QString) where
  allows last op := match op with
    | .transfer call _ _ => last = some call.sourceConnectionId
    | _ => last = none
  step _ e last' := match e with
    | ⟨.connectionId, connectionId⟩ => last' = some connectionId
    | _ => last' = none

/-- Each call follows a reading, and is made on what was read. -/
def ReadsFirst (program : TransferProgram (Result Bool)) (last : Option QString) : Prop :=
  Meets reading program (fun _ last => last = none) last

theorem meets_transferEntries {move : Bool} {destination : RemoteDestination}
    {entries : List RemoteFileEntry} {totalBytes completedBytes : ℤ} :
    ReadsFirst (RemoteBrowserWidget.transferEntries move destination totalBytes completedBytes
      entries) none := by
  induction entries generalizing completedBytes with
  | nil => exact rfl
  | cons entry entries ih =>
    refine ⟨rfl, ?_⟩
    rintro (cancelled : Bool) last rfl
    cases cancelled with
    | true => exact rfl
    | false =>
      refine ⟨rfl, ?_⟩
      rintro (connectionId : QString) last rfl
      refine ⟨rfl, ?_⟩
      rintro (result : Result Bool) last rfl
      have hrest : Meets reading
          (if result.ok then do
            let completedBytes := completedBytes + if 0 < entry.size then entry.size else 1
            let _ : Unit ← Program.perform (I := transfers)
              (.reportProgress ⟨min completedBytes totalBytes, totalBytes⟩)
            RemoteBrowserWidget.transferEntries move destination totalBytes completedBytes entries
          else
            return result) (fun _ last => last = none) none := by
        split
        · refine ⟨rfl, ?_⟩
          rintro _ last rfl
          exact ih
        · exact rfl
      exact hrest

/-- Copying and moving make each call on the connection that was read right before it. -/
theorem meets_copyOrMoveEntries {move : Bool} {entries : List RemoteFileEntry}
    {destination : RemoteDestination} :
    ReadsFirst (RemoteBrowserWidget.copyOrMoveEntries move entries destination) none := by
  unfold RemoteBrowserWidget.copyOrMoveEntries
  split
  · exact rfl
  · exact meets_transferEntries

/-! ## The calls of a task -/

namespace Task

variable {task task' : Task} {answer : (op : TransferOp) → transfers.Ans op}

/-- The work of the task reads before each call. -/
def Sound (task : Task) : Prop := ∃ last, ReadsFirst task.program last

/-- What was read for the task is what was displayed when it was asked for, and so are
    the connections of its calls. -/
def Faithful (task : Task) : Prop :=
  ∃ last, ReadsFirst task.program last ∧ (∀ read, last = some read → read = task.invoked) ∧
    ∀ call ∈ task.calls, call.sourceConnectionId = task.invoked

/-- Something else was read for the task, and a call is made on it. -/
def Marred (task : Task) : Prop :=
  (∃ read, ReadsFirst task.program (some read) ∧ read ≠ task.invoked) ∨
    ∃ call ∈ task.calls, call.sourceConnectionId ≠ task.invoked

/-- The worker takes up an entry: it is about to read the connection. -/
def Reads (task : Task) : Prop := ∃ k, task.program = .ask .connectionId k

/-- The events of a step, one case for each question. -/
theorem work_cases (h : task.work answer = some task') {last : Option QString}
    (hreads : ReadsFirst task.program last) :
    task'.invoked = task.invoked ∧
      ((task.Reads ∧ task'.calls = task.calls ∧ last = none ∧
          ReadsFirst task'.program (some (answer .connectionId))) ∨
        (∃ call, task'.calls = task.calls ++ [call] ∧ last = some call.sourceConnectionId ∧
          ReadsFirst task'.program none) ∨
        (¬task.Reads ∧ task'.calls = task.calls ∧ last = none ∧ ReadsFirst task'.program none)) := by
  obtain ⟨invoked, program, calls⟩ := task
  cases program with
  | pure _ => cases h
  | ask op k =>
    obtain rfl := Option.some.inj h
    obtain ⟨hallowed, hnext⟩ := hreads
    refine ⟨rfl, ?_⟩
    cases op with
    | isCancellationRequested =>
      refine Or.inr (Or.inr ⟨?_, List.append_nil _, hallowed, hnext _ none rfl⟩)
      rintro ⟨k', hk'⟩
      cases hk'
    | connectionId => exact Or.inl ⟨⟨k, rfl⟩, List.append_nil _, hallowed, hnext _ _ rfl⟩
    | transfer call completedBytes totalBytes =>
      exact Or.inr (Or.inl ⟨call, rfl, hallowed, hnext _ none rfl⟩)
    | reportProgress progress =>
      refine Or.inr (Or.inr ⟨?_, List.append_nil _, hallowed, hnext _ none rfl⟩)
      rintro ⟨k', hk'⟩
      cases hk'

theorem Sound.work (h : task.Sound) (hwork : task.work answer = some task') : task'.Sound := by
  obtain ⟨last, hreads⟩ := h
  rcases (work_cases hwork hreads).2 with ⟨-, -, -, h⟩ | ⟨-, -, -, h⟩ | ⟨-, -, -, h⟩
  · exact ⟨_, h⟩
  · exact ⟨_, h⟩
  · exact ⟨_, h⟩

/-- A faithful task stays so when it reads what was displayed at the start. -/
theorem Faithful.work (h : task.Faithful) (hwork : task.work answer = some task')
    (hread : task.Reads → answer .connectionId = task.invoked) : task'.Faithful := by
  obtain ⟨last, hreads, hlast, hcalls⟩ := h
  obtain ⟨hinvoked, hcases⟩ := work_cases hwork hreads
  rcases hcases with ⟨hreading, hsame, -, hnext⟩ | ⟨call, hmade, hcall, hnext⟩ |
    ⟨-, hsame, -, hnext⟩
  · refine ⟨_, hnext, ?_, ?_⟩
    · intro read heq
      rw [hinvoked, ← hread hreading]
      exact (Option.some.inj heq).symm
    · rw [hsame, hinvoked]
      exact hcalls
  · refine ⟨_, hnext, fun read heq => absurd heq.symm (Option.some_ne_none read), ?_⟩
    rw [hmade, hinvoked]
    intro call' hmem
    rcases List.mem_append.1 hmem with hmem | hmem
    · exact hcalls call' hmem
    · obtain rfl := List.mem_singleton.1 hmem
      exact hlast _ hcall
  · refine ⟨_, hnext, fun read heq => absurd heq.symm (Option.some_ne_none read), ?_⟩
    rw [hsame, hinvoked]
    exact hcalls

theorem Marred.work (h : task.Marred) (hwork : task.work answer = some task')
    (hsound : task.Sound) : task'.Marred := by
  rcases h with ⟨read, hreads, hne⟩ | ⟨call, hmem, hne⟩
  · obtain ⟨hinvoked, hcases⟩ := work_cases hwork hreads
    rcases hcases with ⟨-, -, hnone, -⟩ | ⟨call, hmade, hcall, -⟩ | ⟨-, -, hnone, -⟩
    · cases hnone
    · refine Or.inr ⟨call, hmade ▸ List.mem_append_right _ List.mem_cons_self, ?_⟩
      rw [hinvoked, ← Option.some.inj hcall]
      exact hne
    · cases hnone
  · obtain ⟨last, hreads⟩ := hsound
    obtain ⟨hinvoked, hcases⟩ := work_cases hwork hreads
    have hkept : call ∈ task'.calls := by
      rcases hcases with ⟨-, hsame, -, -⟩ | ⟨call', hmade, -, -⟩ | ⟨-, hsame, -, -⟩
      · rwa [hsame]
      · rw [hmade]
        exact List.mem_append_left _ hmem
      · rwa [hsame]
    refine Or.inr ⟨call, hkept, ?_⟩
    rwa [hinvoked]

/-- A wrong reading mars the task. -/
theorem marred_of_read (hsound : task.Sound) (hwork : task.work answer = some task')
    (hreading : task.Reads) (hne : answer .connectionId ≠ task.invoked) : task'.Marred := by
  obtain ⟨last, hreads⟩ := hsound
  obtain ⟨hinvoked, hcases⟩ := work_cases hwork hreads
  obtain ⟨k, hk⟩ := hreading
  rcases hcases with ⟨-, -, -, hnext⟩ | ⟨call, -, hcall, -⟩ | ⟨hno, -, -, -⟩
  · exact Or.inl ⟨_, hnext, hinvoked ▸ hne⟩
  · rw [hk] at hreads
    have hnone : last = none := hreads.1
    cases hnone.symm.trans hcall
  · exact absurd ⟨k, hk⟩ hno

theorem Faithful.allCalls (h : task.Faithful) :
    ∀ call ∈ task.allCalls, call.sourceConnectionId = task.invoked := by
  obtain ⟨last, hreads, hlast, hcalls⟩ := h
  obtain ⟨invoked, program, calls⟩ := task
  cases program with
  | pure _ => exact hcalls
  | ask op k =>
    intro call hmem
    rcases List.mem_append.1 hmem with hmem | hmem
    · exact hcalls call hmem
    · cases op with
      | transfer call' completedBytes totalBytes =>
        obtain rfl := List.mem_singleton.1 hmem
        exact hlast _ hreads.1
      | _ => cases hmem

theorem Marred.allCalls (h : task.Marred) :
    ∃ call ∈ task.allCalls, call.sourceConnectionId ≠ task.invoked := by
  obtain ⟨invoked, program, calls⟩ := task
  rcases h with ⟨read, hreads, hne⟩ | ⟨call, hmem, hne⟩
  · cases program with
    | pure _ => cases hreads
    | ask op k =>
      cases op with
      | transfer call completedBytes totalBytes =>
        refine ⟨call, List.mem_append_right _ List.mem_cons_self, ?_⟩
        rw [← Option.some.inj hreads.1]
        exact hne
      | _ => exact absurd hreads.1 (Option.some_ne_none read)
  · refine ⟨call, ?_, hne⟩
    cases program with
    | pure _ => exact hmem
    | ask op k => exact List.mem_append_left _ hmem

end Task

/-! ## Runs of the widget and its workers -/

section Runs

open Transitions

variable {b b' : RemoteBrowser} {id : QString}

/-- What a step can do to the task an id stands for. -/
inductive Works (b b' : RemoteBrowser) (a : Action) (id : QString) : Prop where
  | same (h : b'.tasks id = b.tasks id)
  | enqueued (prompt : Prompt) (destination : RemoteDestination) (hnone : b.tasks id = none)
      (h : b'.tasks id = some {
        invoked := prompt.invoked
        program :=
          RemoteBrowserWidget.copyOrMoveEntries prompt.move prompt.entries destination })
  | worked (answers : (op : TransferOp) → transfers.Ans op) (task task' : Task)
      (ha : a = .work id answers) (htask : b.tasks id = some task)
      (hwork : task.work (b.answer answers) = some task') (h : b'.tasks id = some task')

theorem step_works {a : Action} (h : step b a = some b') (id : QString) : Works b b' a id := by
  cases a with
  | setDirectory connectionId =>
    obtain rfl := Option.some.inj h
    exact .same rfl
  | clear =>
    obtain rfl := Option.some.inj h
    exact .same rfl
  | transferSelected move entries =>
    rw [step] at h
    split at h
    · cases h
    split at h
    · obtain rfl := Option.some.inj h
      exact .same rfl
    · obtain rfl := Option.some.inj h
      exact .same rfl
  | promptDestination operationId destination =>
    obtain ⟨prompt, -, h⟩ := Option.bind_eq_some_iff.1 h
    cases destination with
    | none =>
      obtain rfl := Option.some.inj h
      exact .same rfl
    | some destination =>
      dsimp only at h
      split at h
      · next hnone =>
        obtain rfl := Option.some.inj h
        by_cases hid : id = operationId
        · subst hid
          exact .enqueued prompt destination hnone (Function.update_self _ _ _)
        · exact .same (Function.update_of_ne hid _ _)
      · cases h
  | work operationId answers =>
    obtain ⟨task, htask, h⟩ := Option.bind_eq_some_iff.1 h
    obtain ⟨task', hwork, rfl⟩ := Option.map_eq_some_iff.1 h
    by_cases hid : id = operationId
    · subst hid
      exact .worked answers task task' rfl htask hwork (Function.update_self _ _ _)
    · exact .same (Function.update_of_ne hid _ _)

/-- Every task of the widget has a property. -/
def AllTasks (P : Task → Prop) (b : RemoteBrowser) : Prop :=
  ∀ id task, b.tasks id = some task → P task

theorem AllTasks.step {P : Task → Prop} {a : Action}
    (henqueued : ∀ invoked move entries destination,
      P ⟨invoked, RemoteBrowserWidget.copyOrMoveEntries move entries destination, []⟩)
    (hworked : ∀ id answers task task', a = .work id answers → b.tasks id = some task → P task →
      task.work (b.answer answers) = some task' → P task')
    (h : AllTasks P b) (hstep : Ui.step b a = some b') : AllTasks P b' := by
  intro id task htask
  cases step_works hstep id with
  | same hsame => exact h id task (hsame ▸ htask)
  | enqueued prompt destination _ hnew =>
    obtain rfl := Option.some.inj (htask.symm.trans hnew)
    exact henqueued _ _ _ _
  | worked answers task₀ task' ha htask₀ hwork hnew =>
    obtain rfl := Option.some.inj (htask.symm.trans hnew)
    exact hworked id answers task₀ task ha htask₀ (h id task₀ htask₀) hwork

theorem allTasks_sound_step {a : Action} (h : AllTasks Task.Sound b)
    (hstep : step b a = some b') : AllTasks Task.Sound b' :=
  h.step (fun _ _ _ _ => ⟨none, meets_copyOrMoveEntries⟩)
    (fun _ _ _ _ _ _ hsound hwork => hsound.work hwork) hstep

/-- The task of an id is marred. -/
def MarredAt (id : QString) (b : RemoteBrowser) : Prop :=
  AllTasks Task.Sound b ∧ ∃ task, b.tasks id = some task ∧ task.Marred

/-- A task once marred stays so. -/
theorem MarredAt.step {a : Action} (h : MarredAt id b) (hstep : Ui.step b a = some b') :
    MarredAt id b' := by
  obtain ⟨hsound, task, htask, hmarred⟩ := h
  refine ⟨allTasks_sound_step hsound hstep, ?_⟩
  cases step_works hstep id with
  | same hsame => exact ⟨task, hsame.trans htask, hmarred⟩
  | enqueued prompt destination hnone => exact absurd (htask.symm.trans hnone) (Option.some_ne_none task)
  | worked answers task₀ task' ha htask₀ hwork hnew =>
    obtain rfl := Option.some.inj (htask.symm.trans htask₀)
    exact ⟨task', hnew, hmarred.work hwork (hsound id task htask)⟩

/-- A widget at the start: it may display a connection, and the queue has no work. -/
def Fresh (b : RemoteBrowser) : Prop := b.prompt = none ∧ ∀ id, b.tasks id = none

theorem Fresh.allTasks {P : Task → Prop} (h : Fresh b) : AllTasks P b := by
  intro id task htask
  exact absurd (htask.symm.trans (h.2 id)) (Option.some_ne_none task)

/-- Where a worker takes up an entry, the widget displays what it displayed when the work
    was asked for. -/
def DisplaysInvoked (b : RemoteBrowser) : Action → Prop
  | .work id _ => ∀ task, b.tasks id = some task → task.Reads → b.connectionId = task.invoked
  | _ => True

/-- All calls of all tasks are made on the connection that was displayed when the work was
    asked for exactly when each entry is taken up while the widget displays it. -/
theorem sources_iff {b₀ b : RemoteBrowser} {actions : List Action} (hfresh : Fresh b₀)
    (hrun : run step b₀ actions = some b) :
    (∀ id task, b.tasks id = some task → ∀ call ∈ task.allCalls,
        call.sourceConnectionId = task.invoked) ↔
      ∀ m a, Taken step b₀ actions m a → DisplaysInvoked m a := by
  constructor
  · intro h m a htaken
    cases a with
    | work id answers =>
      intro task htask hreading
      by_contra hne
      have hsound : AllTasks Task.Sound m :=
        htaken.invariant (fun _ _ _ => allTasks_sound_step) hfresh.allTasks
      obtain ⟨m', after, hstep, hafter⟩ := htaken.rest hrun
      obtain ⟨task₀, htask₀, hworked⟩ := Option.bind_eq_some_iff.1 hstep
      obtain rfl := Option.some.inj (htask.symm.trans htask₀)
      obtain ⟨task', hwork, rfl⟩ := Option.map_eq_some_iff.1 hworked
      have hmarred := Task.marred_of_read (hsound id task htask) hwork hreading hne
      have hat : MarredAt id { m with tasks := Function.update m.tasks id (some task') } :=
        ⟨allTasks_sound_step hsound hstep, task', Function.update_self _ _ _, hmarred⟩
      obtain ⟨-, last, hlast, hend⟩ := run_invariant (fun _ _ _ => MarredAt.step) hafter hat
      obtain ⟨call, hmem, hwrong⟩ := hend.allCalls
      exact hwrong (h id last hlast call hmem)
    | _ => trivial
  · intro h
    have hfaithful : AllTasks Task.Faithful b := by
      refine run_invariant_taken ?_ hrun h hfresh.allTasks
      intro s a s' hs hdisplays hstep
      refine hs.step ?_ ?_ hstep
      · intro invoked move entries destination
        refine ⟨none, meets_copyOrMoveEntries, ?_, ?_⟩
        · intro read hread
          cases hread
        · intro call hmem
          cases hmem
      · rintro id answers task task' rfl htask hfaithful hwork
        exact hfaithful.work hwork (hdisplays task htask)
    intro id task htask
    exact (hfaithful id task htask).allCalls

/-! ### A move while another connection is opened -/

/-- Nothing is cancelled, and every call succeeds. -/
def easyAnswers : (op : TransferOp) → transfers.Ans op
  | .isCancellationRequested => false
  | .connectionId => []
  | .transfer _ _ _ => .success true
  | .reportProgress _ => ()

/-- The widget displays a connection. -/
def officeBrowser : RemoteBrowser := { connectionId := qStringLiteral "office" }

/-- A file is selected there and moved, and a worker begins with it. -/
def moveReport : List Action :=
  [.transferSelected true [⟨qStringLiteral "report", qStringLiteral "/report", 5⟩],
    .promptDestination (qStringLiteral "move") (some ⟨qStringLiteral "archive",
      qStringLiteral "/in"⟩),
    .work (qStringLiteral "move") easyAnswers]

/-- The worker reads the connection, moves the file and reports. -/
def finishMove : List Action := List.replicate 3 (.work (qStringLiteral "move") easyAnswers)

/-- Where the calls of the task were made. -/
def callSources (b : RemoteBrowser) : Option (QString × List QString) :=
  (b.tasks (qStringLiteral "move")).map fun task =>
    (task.invoked, task.allCalls.map (·.sourceConnectionId))

theorem sources_iff_move :
    ∃ b, run step officeBrowser (moveReport ++ finishMove) = some b ∧
      callSources b = some (qStringLiteral "office", [qStringLiteral "office"]) ∧
      ((∀ id task, b.tasks id = some task → ∀ call ∈ task.allCalls,
          call.sourceConnectionId = task.invoked) ↔
        ∀ m a, Taken step officeBrowser (moveReport ++ finishMove) m a → DisplaysInvoked m a) := by
  obtain ⟨b, hrun, hsources⟩ : ∃ b, run step officeBrowser (moveReport ++ finishMove) = some b ∧
      callSources b = some (qStringLiteral "office", [qStringLiteral "office"]) :=
    Option.map_eq_some_iff.1 (by decide +kernel)
  exact ⟨b, hrun, hsources, sources_iff ⟨rfl, fun _ => rfl⟩ hrun⟩

/-- The file is moved on the connection that was opened in the meantime. -/
theorem moved_elsewhere :
    ¬ ∀ (b₀ b : RemoteBrowser) (actions : List Action), Fresh b₀ →
      run step b₀ actions = some b →
      ∀ id task, b.tasks id = some task → ∀ call ∈ task.allCalls,
        call.sourceConnectionId = task.invoked := by
  intro h
  obtain ⟨b, hrun, hsources⟩ : ∃ b, run step officeBrowser
        (moveReport ++ .setDirectory (qStringLiteral "home") :: finishMove) = some b ∧
      callSources b = some (qStringLiteral "office", [qStringLiteral "home"]) :=
    Option.map_eq_some_iff.1 (by decide +kernel)
  obtain ⟨task, htask, hcalls⟩ := Option.map_eq_some_iff.1 hsources
  obtain ⟨hinvoked, hcalls⟩ := Prod.mk.inj hcalls
  obtain ⟨call, hmem, hcall⟩ := List.mem_map.1 (hcalls ▸ List.mem_cons_self :
    qStringLiteral "home" ∈ task.allCalls.map (·.sourceConnectionId))
  have hsame := h officeBrowser b _ ⟨rfl, fun _ => rfl⟩ hrun _ task htask call hmem
  rw [hcall, hinvoked] at hsame
  exact absurd hsame (by decide)

end Runs

end SmbBrowser.Ui
