import SmbBrowser.Base.FiniteMap
import SmbBrowser.Ui.CopyOrMove

/-!
# The navigation history of the remote browser

`RemoteBrowserWidget::requestDirectory` (ui/RemoteBrowserWidget.cpp) enqueues the listing of
a directory, and `applyDirectory` displays it when it has come.  Until then the widget takes
other steps, and other listings come.

Results:
* `Sound.step`: a request belongs to a connection and was made with a path displayed;
* `returnsTo_iff`: which path `goForward` leads to, whatever happens until its listing comes;
* `navigation_iff`: when the completions of a run keep the history and the connection.
-/

namespace SmbBrowser.Ui

open SmbBrowser.Base SmbBrowser.Qt SmbBrowser.Core

namespace RemoteBrowserWidget

/-- `RemoteBrowserWidget::parentRemotePath` (RemoteBrowserWidget.cpp:1405). -/
def parentRemotePath (remotePath : QString) : QString :=
  let path := normalizeRemotePath remotePath
  if path = [slash] then path
  else
    -- from the last slash back
    match path.reverse.dropWhile (· ≠ slash) with
    | [] | [_] => [slash]
    | _ :: parent => parent.reverse

end RemoteBrowserWidget

namespace Navigation

open RemoteBrowserWidget Transitions

/-- `OpenConnectionResult` (ConnectionOpenService.h:13), as far as the history depends on
    it. -/
structure OpenConnectionResult where
  connectionId : QString
  currentRemotePath : QString

/-- `normalizedStartPath` (ConnectionOpenService.cpp:10). -/
def normalizedStartPath (path : QString) : QString :=
  let value := QString.replaceChar backslash slash path.trimmed
  slash :: (value.dropWhile (· = slash)).rdropWhile (· = slash)

/-- What `ConnectionOpenService::listDirectory` (ConnectionOpenService.cpp:50) returns when the
    listing succeeds. -/
def listDirectory (connectionId remotePath : QString) : OpenConnectionResult where
  connectionId := connectionId
  currentRemotePath := normalizedStartPath remotePath

/-- `RemoteBrowserWidget::HistoryMode` (RemoteBrowserWidget.h:85). -/
inductive HistoryMode where
  | push
  | replace
  | back
  | forward
  deriving DecidableEq

/-- What `requestDirectory` leaves with its operation. -/
structure DirectoryRequest where
  connectionId : QString
  targetPath : QString
  previousPath : QString
  historyMode : HistoryMode
  deriving DecidableEq

/-- `RemoteBrowserWidget` (RemoteBrowserWidget.h:34) with the requests whose operations have
    not ended, by the number of the operation. -/
structure Widget where
  connectionId : QString := []
  currentRemotePath : QString := []
  backStack : List QString := []
  forwardStack : List QString := []
  pending : ℕ → Option DirectoryRequest := fun _ => none
  enqueued : ℕ := 0

/-- `previous` is pushed on a stack, unless it is the target. -/
def pushPrevious (previous targetPath : QString) (stack : List QString) : List QString :=
  if previous ≠ [] ∧ previous ≠ targetPath then stack ++ [previous] else stack

/-- The target is taken from a stack if it is on top. -/
def removeTarget (targetPath : QString) (stack : List QString) : List QString :=
  if stack.getLast? = some targetPath then stack.dropLast else stack

namespace Widget

variable (w : Widget)

/-- `RemoteBrowserWidget::setDirectory` (RemoteBrowserWidget.cpp:324). -/
def setDirectory (result : OpenConnectionResult) : Widget :=
  { w with
    connectionId := result.connectionId
    currentRemotePath := normalizeRemotePath result.currentRemotePath
    backStack := []
    forwardStack := [] }

/-- `RemoteBrowserWidget::clear` (RemoteBrowserWidget.cpp:340). -/
def clear : Widget :=
  { w with connectionId := [], currentRemotePath := [], backStack := [], forwardStack := [] }

/-- `RemoteBrowserWidget::requestDirectory` (RemoteBrowserWidget.cpp:672). -/
def requestDirectory (remotePath : QString) (historyMode : HistoryMode) : Widget :=
  if w.connectionId = [] then w
  else
    { w with
      pending := Function.update w.pending w.enqueued (some {
        connectionId := w.connectionId
        targetPath := normalizeRemotePath remotePath
        previousPath := w.currentRemotePath
        historyMode })
      enqueued := w.enqueued + 1 }

/-- `RemoteBrowserWidget::openDirectory` (RemoteBrowserWidget.cpp:366). -/
def openDirectory (remotePath : QString) : Widget := w.requestDirectory remotePath .push

/-- `RemoteBrowserWidget::goBack` (RemoteBrowserWidget.cpp:370). -/
def goBack : Widget :=
  match w.backStack.getLast? with
  | none => w
  | some path => w.requestDirectory path .back

/-- `RemoteBrowserWidget::goForward` (RemoteBrowserWidget.cpp:377). -/
def goForward : Widget :=
  match w.forwardStack.getLast? with
  | none => w
  | some path => w.requestDirectory path .forward

/-- `RemoteBrowserWidget::goUp` (RemoteBrowserWidget.cpp:384). -/
def goUp : Widget :=
  let parent := parentRemotePath w.currentRemotePath
  if w.connectionId = [] ∨ parent = w.currentRemotePath then w
  else w.requestDirectory parent .push

/-- `RemoteBrowserWidget::refresh` (RemoteBrowserWidget.cpp:392). -/
def refresh : Widget :=
  if w.connectionId = [] ∨ w.currentRemotePath = [] then w
  else w.requestDirectory w.currentRemotePath .replace

/-- `RemoteBrowserWidget::applyDirectory` (RemoteBrowserWidget.cpp:805). -/
def applyDirectory (result : OpenConnectionResult) (historyMode : HistoryMode)
    (previousPath : QString) : Widget :=
  let targetPath := normalizeRemotePath result.currentRemotePath
  let previous := if previousPath = [] then [] else normalizeRemotePath previousPath
  let moved : Widget :=
    match historyMode with
    | .push =>
      { w with
        backStack := pushPrevious previous targetPath w.backStack
        forwardStack := [] }
    | .back =>
      { w with
        backStack := removeTarget targetPath w.backStack
        forwardStack := pushPrevious previous targetPath w.forwardStack }
    | .forward =>
      { w with
        backStack := pushPrevious previous targetPath w.backStack
        forwardStack := removeTarget targetPath w.forwardStack }
    | .replace => w
  { moved with connectionId := result.connectionId, currentRemotePath := targetPath }

/-- An operation has ended. -/
def settle (operation : ℕ) : Widget :=
  { w with pending := Function.update w.pending operation none }

end Widget

/-- What the user, the operations and the rest of the program do. -/
inductive Action where
  /-- A connection was opened. -/
  | setDirectory (result : OpenConnectionResult)
  | clear
  | openDirectory (remotePath : QString)
  | goBack
  | goForward
  | goUp
  | refresh
  /-- A listing has come, and `applyDirectory` displays it. -/
  | complete (operation : ℕ)
  /-- A listing has failed or was cancelled. -/
  | fail (operation : ℕ)

/-- One step of the widget. -/
def step (w : Widget) : Action → Option Widget
  | .setDirectory result => some (w.setDirectory result)
  | .clear => some w.clear
  | .openDirectory remotePath => some (w.openDirectory remotePath)
  | .goBack => some w.goBack
  | .goForward => some w.goForward
  | .goUp => some w.goUp
  | .refresh => some w.refresh
  | .complete operation =>
    (w.pending operation).map fun request =>
      (w.settle operation).applyDirectory (listDirectory request.connectionId request.targetPath)
        request.historyMode request.previousPath
  | .fail operation => (w.pending operation).map fun _ => w.settle operation

/-! ## Requests and their connections -/

theorem normalizeRemotePath_ne_nil (remotePath : QString) : normalizeRemotePath remotePath ≠ [] := by
  unfold normalizeRemotePath
  dsimp only
  split
  · exact List.cons_ne_nil _ _
  · assumption

/-- The directory at which a request was made. -/
def DirectoryRequest.previous (r : DirectoryRequest) : QString := normalizeRemotePath r.previousPath

/-- The directory that a request displays when its listing comes. -/
def DirectoryRequest.opened (r : DirectoryRequest) : QString :=
  normalizeRemotePath (normalizedStartPath r.targetPath)

/-- The directory that is displayed in the end when a path is asked for. -/
def openedPath (remotePath : QString) : QString :=
  normalizeRemotePath (normalizedStartPath (normalizeRemotePath remotePath))

/-- Requests are made for a connection, with a path displayed. -/
structure Sound (w : Widget) : Prop where
  displays : w.connectionId ≠ [] → w.currentRemotePath ≠ []
  asks : ∀ operation r, w.pending operation = some r → r.connectionId ≠ [] ∧ r.previousPath ≠ []

variable {w w' : Widget} {operation : ℕ} {r : DirectoryRequest}

theorem Sound.request (h : Sound w) (remotePath : QString) (historyMode : HistoryMode) :
    Sound (w.requestDirectory remotePath historyMode) := by
  unfold Widget.requestDirectory
  split
  · exact h
  · next hconnection =>
    refine ⟨h.displays, ?_⟩
    intro operation r hr
    rcases FiniteMap.update_eq_some hr with ⟨rfl, hnew⟩ | ⟨-, hold⟩
    · obtain rfl := Option.some.inj hnew
      exact ⟨hconnection, h.displays hconnection⟩
    · exact h.asks operation r hold

theorem Sound.settle (h : Sound w) (operation : ℕ) : Sound (w.settle operation) := by
  refine ⟨h.displays, ?_⟩
  intro operation' r hr
  rcases FiniteMap.update_eq_some hr with ⟨-, hnone⟩ | ⟨-, hold⟩
  · cases hnone
  · exact h.asks operation' r hold

section

variable (result : OpenConnectionResult) (historyMode : HistoryMode) (previousPath : QString)

@[simp] theorem applyDirectory_connectionId :
    (w.applyDirectory result historyMode previousPath).connectionId = result.connectionId := rfl

@[simp] theorem applyDirectory_currentRemotePath :
    (w.applyDirectory result historyMode previousPath).currentRemotePath =
      normalizeRemotePath result.currentRemotePath := rfl

@[simp] theorem applyDirectory_pending :
    (w.applyDirectory result historyMode previousPath).pending = w.pending := by
  cases historyMode with
  | _ => rfl

@[simp] theorem applyDirectory_enqueued :
    (w.applyDirectory result historyMode previousPath).enqueued = w.enqueued := by
  cases historyMode with
  | _ => rfl

end

theorem Sound.apply (h : Sound w) (result : OpenConnectionResult) (historyMode : HistoryMode)
    (previousPath : QString) : Sound (w.applyDirectory result historyMode previousPath) := by
  refine ⟨fun _ => normalizeRemotePath_ne_nil _, ?_⟩
  rw [applyDirectory_pending]
  exact h.asks

/-- What one step can do. -/
inductive Moves (w : Widget) : Widget → Prop where
  | stay : Moves w w
  | setDirectory (result : OpenConnectionResult) : Moves w (w.setDirectory result)
  | clear : Moves w w.clear
  | request (remotePath : QString) (historyMode : HistoryMode) :
    Moves w (w.requestDirectory remotePath historyMode)
  | complete {operation : ℕ} {r : DirectoryRequest} (h : w.pending operation = some r) :
    Moves w ((w.settle operation).applyDirectory (listDirectory r.connectionId r.targetPath)
      r.historyMode r.previousPath)
  | fail {operation : ℕ} : Moves w (w.settle operation)

theorem step_moves {a : Action} (h : step w a = some w') : Moves w w' := by
  cases a with
  | setDirectory result =>
    obtain rfl := Option.some.inj h
    exact .setDirectory result
  | clear =>
    obtain rfl := Option.some.inj h
    exact .clear
  | openDirectory remotePath =>
    obtain rfl := Option.some.inj h
    exact .request remotePath .push
  | goBack =>
    obtain rfl := Option.some.inj h
    unfold Widget.goBack
    split
    · exact .stay
    · exact .request _ .back
  | goForward =>
    obtain rfl := Option.some.inj h
    unfold Widget.goForward
    split
    · exact .stay
    · exact .request _ .forward
  | goUp =>
    obtain rfl := Option.some.inj h
    unfold Widget.goUp
    dsimp only
    split
    · exact .stay
    · exact .request _ .push
  | refresh =>
    obtain rfl := Option.some.inj h
    unfold Widget.refresh
    split
    · exact .stay
    · exact .request _ .replace
  | complete operation =>
    obtain ⟨r, hr, rfl⟩ := Option.map_eq_some_iff.1 h
    exact .complete hr
  | fail operation =>
    obtain ⟨r, -, rfl⟩ := Option.map_eq_some_iff.1 h
    exact .fail

/-- Every step keeps the requests sound. -/
theorem Sound.step {a : Action} (h : Sound w) (hstep : step w a = some w') : Sound w' := by
  cases step_moves hstep with
  | stay => exact h
  | setDirectory result => exact ⟨fun _ => normalizeRemotePath_ne_nil _, h.asks⟩
  | clear => exact ⟨fun hconnection => absurd rfl hconnection, h.asks⟩
  | request remotePath historyMode => exact h.request remotePath historyMode
  | complete => exact (h.settle _).apply _ _ _
  | fail => exact h.settle _

theorem sound_initial : Sound {} where
  displays := fun hconnection => absurd rfl hconnection
  asks := by
    intro operation r hr
    cases hr

/-! ## Where `goForward` leads -/

/-- What an operation was asked for, if it has not ended. -/
structure Asked (operation : ℕ) (r : DirectoryRequest) (w : Widget) : Prop where
  enqueued : operation < w.enqueued
  request : ∀ r', w.pending operation = some r' → r' = r

theorem Asked.step {a : Action} (h : Asked operation r w) (hstep : step w a = some w') :
    Asked operation r w' := by
  have hsettle : ∀ operation', Asked operation r (w.settle operation') := by
    intro operation'
    refine ⟨h.enqueued, ?_⟩
    intro r' hr'
    rcases FiniteMap.update_eq_some hr' with ⟨-, hnone⟩ | ⟨-, hold⟩
    · cases hnone
    · exact h.request r' hold
  cases step_moves hstep with
  | stay => exact h
  | setDirectory result => exact ⟨h.enqueued, h.request⟩
  | clear => exact ⟨h.enqueued, h.request⟩
  | request remotePath historyMode =>
    unfold Widget.requestDirectory
    split
    · exact h
    · refine ⟨Nat.lt_succ_of_lt h.enqueued, ?_⟩
      intro r' hr'
      rcases FiniteMap.update_eq_some hr' with ⟨hnew, -⟩ | ⟨-, hold⟩
      · exact absurd hnew (Nat.ne_of_lt h.enqueued)
      · exact h.request r' hold
  | @complete operation' _ _ =>
    refine ⟨?_, ?_⟩
    · rw [applyDirectory_enqueued]
      exact h.enqueued
    · rw [applyDirectory_pending]
      exact (hsettle operation').request
  | fail => exact hsettle _

/-- The directory displayed in the end after `goForward`, with a forward stack and a path
    displayed. -/
def forwardPath (forwardStack : List QString) (currentRemotePath : QString) : QString :=
  match forwardStack.getLast? with
  | none => currentRemotePath
  | some path => openedPath path

/-- `goForward` returns to a path: when its listing comes, whatever was done until then, or at
    once if there is nothing on the stack. -/
structure ReturnsTo (w : Widget) (remotePath : QString) : Prop where
  stays : w.forwardStack = [] → w.currentRemotePath = remotePath
  restored : ∀ w₁ actions w₂ w₃, w.forwardStack ≠ [] → step w .goForward = some w₁ →
    run step w₁ actions = some w₂ → step w₂ (.complete w.enqueued) = some w₃ →
    w₃.currentRemotePath = remotePath

theorem complete_currentRemotePath (hr : w.pending operation = some r)
    (h : step w (.complete operation) = some w') : w'.currentRemotePath = r.opened := by
  obtain ⟨r', hr', rfl⟩ := Option.map_eq_some_iff.1 h
  obtain rfl := Option.some.inj (hr.symm.trans hr')
  rw [applyDirectory_currentRemotePath, listDirectory, DirectoryRequest.opened]

theorem goForward_eq {path : QString} (hconnection : w.connectionId ≠ [])
    (hlast : w.forwardStack.getLast? = some path) :
    w.goForward.pending w.enqueued =
        some ⟨w.connectionId, normalizeRemotePath path, w.currentRemotePath, .forward⟩ ∧
      w.goForward.enqueued = w.enqueued + 1 := by
  unfold Widget.goForward Widget.requestDirectory
  rw [hlast]
  dsimp only
  rw [if_neg hconnection]
  exact ⟨Function.update_self _ _ _, rfl⟩

/-- Where `goForward` leads, whatever happens until its listing comes. -/
theorem returnsTo_iff {remotePath : QString} (hconnection : w.connectionId ≠ []) :
    ReturnsTo w remotePath ↔ forwardPath w.forwardStack w.currentRemotePath = remotePath := by
  unfold forwardPath
  cases hlast : w.forwardStack.getLast? with
  | none =>
    have hnil : w.forwardStack = [] := List.getLast?_eq_none_iff.1 hlast
    exact ⟨fun h => h.stays hnil, fun h => ⟨fun _ => h, fun _ _ _ _ hne => absurd hnil hne⟩⟩
  | some path =>
    have hne : w.forwardStack ≠ [] := by
      intro hnil
      rw [hnil] at hlast
      cases hlast
    obtain ⟨hpending, henqueued⟩ := goForward_eq hconnection hlast
    constructor
    · intro h
      obtain ⟨w₃, hw₃⟩ : ∃ w₃, step w.goForward (.complete w.enqueued) = some w₃ :=
        ⟨_, congrArg (Option.map _) hpending⟩
      have hpath := h.restored w.goForward [] w.goForward w₃ hne rfl rfl hw₃
      rw [complete_currentRemotePath hpending hw₃] at hpath
      exact hpath
    · intro h
      refine ⟨fun hnil => absurd hnil hne, ?_⟩
      intro w₁ actions w₂ w₃ _ hforward hrun hcomplete
      obtain rfl := Option.some.inj hforward
      have hasked : Asked w.enqueued
          ⟨w.connectionId, normalizeRemotePath path, w.currentRemotePath, .forward⟩ w.goForward := by
        refine ⟨by omega, ?_⟩
        intro r' hr'
        exact Option.some.inj (hr'.symm.trans hpending)
      have hlater := run_invariant (fun _ _ _ h hstep => h.step hstep) hrun hasked
      obtain ⟨r', hr', -⟩ := Option.map_eq_some_iff.1 hcomplete
      rw [complete_currentRemotePath hr' hcomplete, hlater.request r' hr']
      exact h

/-! ## When the history is kept -/

/-- What the completion of a request takes care of: a directory that was opened has the one
    displayed before it on top of the back stack; after going back, `goForward` returns to the
    directory displayed before; and the listing of a connection that is not displayed changes
    nothing that is. -/
structure KeepsHistory (w : Widget) (r : DirectoryRequest) (w' : Widget) : Prop where
  push : r.historyMode = .push → w'.backStack.getLast? = some w.currentRemotePath
  back : r.historyMode = .back → ReturnsTo w' w.currentRemotePath
  connection : r.connectionId ≠ w.connectionId →
    w'.connectionId = w.connectionId ∧ w'.currentRemotePath = w.currentRemotePath

/-- A request comes for the displayed connection and was made with the displayed path; if it
    leads to where it was made, the stacks are already as they should be. -/
def Timely (w : Widget) (r : DirectoryRequest) : Prop :=
  r.connectionId = w.connectionId ∧
    match r.historyMode with
    | .push =>
      if r.previous = r.opened then w.backStack.getLast? = some w.currentRemotePath
      else r.previous = w.currentRemotePath
    | .back =>
      if r.previous = r.opened then forwardPath w.forwardStack r.opened = w.currentRemotePath
      else openedPath r.previous = w.currentRemotePath
    | _ => True

instance : DecidablePred (Timely w) := fun r => by
  unfold Timely
  cases r.historyMode with
  | _ => infer_instance

theorem getLast_pushPrevious {previous targetPath : QString} {stack : List QString}
    (h : previous ≠ []) :
    (pushPrevious previous targetPath stack).getLast? =
      if previous = targetPath then stack.getLast? else some previous := by
  unfold pushPrevious
  by_cases hsame : previous = targetPath
  · rw [if_pos hsame, if_neg (by rintro ⟨-, hne⟩; exact hne hsame)]
  · rw [if_neg hsame, if_pos ⟨h, hsame⟩, List.getLast?_concat]

theorem complete_connectionId (hr : w.pending operation = some r)
    (h : step w (.complete operation) = some w') : w'.connectionId = r.connectionId := by
  obtain ⟨r', hr', rfl⟩ := Option.map_eq_some_iff.1 h
  obtain rfl := Option.some.inj (hr.symm.trans hr')
  rfl

theorem complete_backStack (hr : w.pending operation = some r) (hprevious : r.previousPath ≠ [])
    (hmode : r.historyMode = .push) (h : step w (.complete operation) = some w') :
    w'.backStack = pushPrevious r.previous r.opened w.backStack := by
  obtain ⟨r', hr', rfl⟩ := Option.map_eq_some_iff.1 h
  obtain rfl := Option.some.inj (hr.symm.trans hr')
  unfold Widget.applyDirectory
  rw [hmode, if_neg hprevious]
  rfl

theorem complete_forwardStack (hr : w.pending operation = some r) (hprevious : r.previousPath ≠ [])
    (hmode : r.historyMode = .back) (h : step w (.complete operation) = some w') :
    w'.forwardStack = pushPrevious r.previous r.opened w.forwardStack := by
  obtain ⟨r', hr', rfl⟩ := Option.map_eq_some_iff.1 h
  obtain rfl := Option.some.inj (hr.symm.trans hr')
  unfold Widget.applyDirectory
  rw [hmode, if_neg hprevious]
  rfl

/-- A completion keeps the history exactly when its request is timely. -/
theorem keepsHistory_iff (h : Sound w) (hr : w.pending operation = some r)
    (hstep : step w (.complete operation) = some w') : KeepsHistory w r w' ↔ Timely w r := by
  obtain ⟨hasked, hprevious⟩ := h.asks operation r hr
  have hne : r.previous ≠ [] := normalizeRemotePath_ne_nil _
  have hconnection' : w'.connectionId = r.connectionId := complete_connectionId hr hstep
  have hpath : w'.currentRemotePath = r.opened := complete_currentRemotePath hr hstep
  have hconnection : (r.connectionId ≠ w.connectionId → w'.connectionId = w.connectionId ∧
      w'.currentRemotePath = w.currentRemotePath) ↔ r.connectionId = w.connectionId := by
    constructor
    · intro hkeep
      by_contra hother
      exact hother (hconnection'.symm.trans (hkeep hother).1)
    · intro hsame hother
      exact absurd hsame hother
  have hpush : r.historyMode = .push → (w'.backStack.getLast? = some w.currentRemotePath ↔
      if r.previous = r.opened then w.backStack.getLast? = some w.currentRemotePath
      else r.previous = w.currentRemotePath) := by
    intro hmode
    rw [complete_backStack hr hprevious hmode hstep, getLast_pushPrevious hne]
    split
    · exact Iff.rfl
    · exact Option.some_inj
  have hback : r.historyMode = .back → (ReturnsTo w' w.currentRemotePath ↔
      if r.previous = r.opened then forwardPath w.forwardStack r.opened = w.currentRemotePath
      else openedPath r.previous = w.currentRemotePath) := by
    intro hmode
    rw [returnsTo_iff (by rw [hconnection']; exact hasked), hpath, forwardPath,
      complete_forwardStack hr hprevious hmode hstep, getLast_pushPrevious hne]
    by_cases hsame : r.previous = r.opened
    · rw [if_pos hsame, if_pos hsame]
      exact Iff.rfl
    · rw [if_neg hsame, if_neg hsame]
  have hsplit : KeepsHistory w r w' ↔
      (r.connectionId ≠ w.connectionId → w'.connectionId = w.connectionId ∧
        w'.currentRemotePath = w.currentRemotePath) ∧
      (r.historyMode = .push → w'.backStack.getLast? = some w.currentRemotePath) ∧
      (r.historyMode = .back → ReturnsTo w' w.currentRemotePath) :=
    ⟨fun h => ⟨h.connection, h.push, h.back⟩, fun h => ⟨h.2.1, h.2.2, h.1⟩⟩
  rw [hsplit, hconnection, Timely]
  refine and_congr_right fun _ => ?_
  cases hmode : r.historyMode with
  | push => simpa [hmode] using hpush hmode
  | back => simpa [hmode] using hback hmode
  | replace => simp
  | forward => simp

/-- A request that leads from the displayed directory to another one is timely, when
    normalising keeps the displayed path. -/
theorem timely_of_displayed (hconnection : r.connectionId = w.connectionId)
    (hpath : r.previousPath = w.currentRemotePath)
    (hnormal : normalizeRemotePath w.currentRemotePath = w.currentRemotePath)
    (hopens : openedPath w.currentRemotePath = w.currentRemotePath)
    (hother : r.opened ≠ w.currentRemotePath) : Timely w r := by
  have hprevious : r.previous = w.currentRemotePath := by
    rw [DirectoryRequest.previous, hpath, hnormal]
  have hleads : r.previous ≠ r.opened := by
    rw [hprevious]
    exact hother.symm
  refine ⟨hconnection, ?_⟩
  cases r.historyMode with
  | push =>
    dsimp only
    rw [if_neg hleads]
    exact hprevious
  | back =>
    dsimp only
    rw [if_neg hleads, hprevious]
    exact hopens
  | replace => trivial
  | forward => trivial

/-- A run completes a request. -/
structure Completes (actions : List Action) (w : Widget) (r : DirectoryRequest) (w' : Widget) :
    Prop where
  taken : ∃ operation, Taken step {} actions w (.complete operation) ∧
    w.pending operation = some r ∧ step w (.complete operation) = some w'

theorem sound_of_taken {actions : List Action} {a : Action} (h : Taken step {} actions w a) :
    Sound w :=
  h.invariant (fun _ _ _ h hstep => h.step hstep) sound_initial

/-- In every run, every completion keeps the history exactly when every request that is
    completed is timely. -/
theorem navigation_iff (actions : List Action) :
    (∀ w r w', Completes actions w r w' → KeepsHistory w r w') ↔
      ∀ w r w', Completes actions w r w' → Timely w r := by
  refine forall_congr' fun w => forall_congr' fun r => forall_congr' fun w' => ?_
  refine imp_congr_right ?_
  rintro ⟨operation, htaken, hr, hstep⟩
  exact keepsHistory_iff (sound_of_taken htaken) hr hstep

/-! ### One directory after another -/

/-- Whether a step completes a timely request, if it completes one. -/
def completesTimely (w : Widget) : Action → Bool
  | .complete operation => ((w.pending operation).map fun r => decide (Timely w r)).getD true
  | _ => true

/-- Directories are opened one after another, also back, forward, up and again. -/
def browseDocs : List Action := [
  .setDirectory ⟨qStringLiteral "office", qStringLiteral "/"⟩,
  .openDirectory (qStringLiteral "/docs"), .complete 0,
  .openDirectory (qStringLiteral "/docs/sub"), .complete 1,
  .goBack, .complete 2, .goForward, .complete 3, .goUp, .complete 4, .refresh, .complete 5]

theorem timely_of_guarded {actions : List Action}
    (h : (run (guarded completesTimely step) {} actions).isSome = true) (w : Widget)
    (r : DirectoryRequest) (w' : Widget) (hcompletes : Completes actions w r w') : Timely w r := by
  obtain ⟨operation, htaken, hr, -⟩ := hcompletes
  obtain ⟨end', hend⟩ := Option.isSome_iff_exists.1 h
  have htimely := (run_guarded hend).2 w _ htaken
  rw [completesTimely, hr] at htimely
  exact of_decide_eq_true htimely

theorem navigation_iff_browseDocs :
    ∀ w r w', Completes browseDocs w r w' → KeepsHistory w r w' :=
  (navigation_iff browseDocs).2 (timely_of_guarded (by decide +kernel))

/-! ### Two requests at a time -/

/-- Two directories are opened, and then their listings come. -/
def openTwice : List Action := [
  .setDirectory ⟨qStringLiteral "office", qStringLiteral "/"⟩,
  .openDirectory (qStringLiteral "/docs"), .openDirectory (qStringLiteral "/pictures"),
  .complete 0, .complete 1]

/-- A directory is opened after `goBack`, and its listing comes first. -/
def openWhileGoingBack : List Action := [
  .setDirectory ⟨qStringLiteral "office", qStringLiteral "/"⟩,
  .openDirectory (qStringLiteral "/docs"), .complete 0,
  .goBack, .openDirectory (qStringLiteral "/docs/sub"), .complete 2, .complete 1]

/-- Another connection is opened before the listing comes. -/
def switchConnection : List Action := [
  .setDirectory ⟨qStringLiteral "office", qStringLiteral "/"⟩,
  .openDirectory (qStringLiteral "/docs"),
  .setDirectory ⟨qStringLiteral "home", qStringLiteral "/"⟩, .complete 0]

/-- What the last completion of a run starts from, its request, and what it leads to. -/
def lastCompletion (before : List Action) (operation : ℕ) :
    Option (Widget × DirectoryRequest × Widget) :=
  (run step {} before).bind fun w => (w.pending operation).bind fun r =>
    (step w (.complete operation)).map fun w' => (w, r, w')

theorem completes_of_lastCompletion {before : List Action}
    (h : lastCompletion before operation = some (w, r, w')) :
    Completes (before ++ [.complete operation]) w r w' := by
  obtain ⟨w₀, hw, hrest⟩ := Option.bind_eq_some_iff.1 h
  obtain ⟨r₀, hr, hlast⟩ := Option.bind_eq_some_iff.1 hrest
  obtain ⟨w₁, hstep, hsame⟩ := Option.map_eq_some_iff.1 hlast
  cases hsame
  exact ⟨operation, ⟨before, [], rfl, hw⟩, hr, hstep⟩

theorem navigation_not_kept :
    (¬ ∀ w r w', Completes openTwice w r w' → r.historyMode = .push →
      w'.backStack.getLast? = some w.currentRemotePath) ∧
    (¬ ∀ w r w', Completes openWhileGoingBack w r w' → r.historyMode = .back →
      ReturnsTo w' w.currentRemotePath) ∧
    ¬ ∀ w r w', Completes switchConnection w r w' → r.connectionId ≠ w.connectionId →
      w'.connectionId = w.connectionId ∧ w'.currentRemotePath = w.currentRemotePath := by
  refine ⟨?_, ?_, ?_⟩
  · intro h
    obtain ⟨⟨w, r, w'⟩, hlast, hobserved⟩ : ∃ completion,
        lastCompletion openTwice.dropLast 1 = some completion ∧
          (completion.2.1.historyMode, completion.2.2.backStack.getLast?,
            completion.1.currentRemotePath) =
              (.push, some (qStringLiteral "/"), qStringLiteral "/docs") :=
      Option.map_eq_some_iff.1 (by decide +kernel)
    obtain ⟨hmode, hobserved⟩ := Prod.mk.inj hobserved
    obtain ⟨hback, hdisplayed⟩ := Prod.mk.inj hobserved
    have hkeeps := h w r w' (completes_of_lastCompletion hlast) hmode
    rw [hback, hdisplayed] at hkeeps
    exact absurd hkeeps (by decide)
  · intro h
    obtain ⟨⟨w, r, w'⟩, hlast, hobserved⟩ : ∃ completion,
        lastCompletion openWhileGoingBack.dropLast 1 = some completion ∧
          (completion.2.1.historyMode, completion.2.2.connectionId,
            forwardPath completion.2.2.forwardStack completion.2.2.currentRemotePath,
            completion.1.currentRemotePath) =
              (.back, qStringLiteral "office", qStringLiteral "/docs",
                qStringLiteral "/docs/sub") :=
      Option.map_eq_some_iff.1 (by decide +kernel)
    obtain ⟨hmode, hobserved⟩ := Prod.mk.inj hobserved
    obtain ⟨hconnection, hobserved⟩ := Prod.mk.inj hobserved
    obtain ⟨hforward, hdisplayed⟩ := Prod.mk.inj hobserved
    have hne : w'.connectionId ≠ [] := by
      rw [hconnection]
      decide
    have hreturns := (returnsTo_iff hne).1 (h w r w' (completes_of_lastCompletion hlast) hmode)
    rw [hforward, hdisplayed] at hreturns
    exact absurd hreturns (by decide)
  · intro h
    obtain ⟨⟨w, r, w'⟩, hlast, hobserved⟩ : ∃ completion,
        lastCompletion switchConnection.dropLast 0 = some completion ∧
          (completion.2.1.connectionId, completion.1.connectionId, completion.2.2.connectionId) =
            (qStringLiteral "office", qStringLiteral "home", qStringLiteral "office") :=
      Option.map_eq_some_iff.1 (by decide +kernel)
    obtain ⟨hasked, hobserved⟩ := Prod.mk.inj hobserved
    obtain ⟨hdisplayed, hshown⟩ := Prod.mk.inj hobserved
    have hother : r.connectionId ≠ w.connectionId := by
      rw [hasked, hdisplayed]
      decide
    obtain ⟨hkeeps, -⟩ := h w r w' (completes_of_lastCompletion hlast) hother
    rw [hshown, hdisplayed] at hkeeps
    exact absurd hkeeps (by decide)

end Navigation

end SmbBrowser.Ui
