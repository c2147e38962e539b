import SmbBrowser.Base.Splice
import SmbBrowser.Qt.Json
import SmbBrowser.Ui.CopyOrMove

/-!
# Open remote files

`RemoteBrowserWidget::openRemoteFile` (ui/RemoteBrowserWidget.cpp) downloads a file to a
local copy, opens it in an editor and has the copy watched; a change of the copy makes
`flushPendingOpenFileSyncs` upload it after a while.  The user, the editors, the watcher,
the timer and the workers of the queue take their steps in any order.  A file system call
is one step; an editor saves in one step and in place.

Results:
* `Inv.step`: what the widget keeps as long as each step is undisturbed;
* `openFiles_synchronised`: then every upload sends a complete content, and no editor save
  that was not uploaded is overwritten.
-/

namespace SmbBrowser.Ui

open SmbBrowser.Base SmbBrowser.Qt SmbBrowser.Core SmbBrowser.Application

namespace OpenFiles

/-- `RemoteBrowserWidget::OpenFileSession` (RemoteBrowserWidget.h:137). -/
structure OpenFileSession where
  connectionId : QString
  remotePath : QString
  localPath : QString
  deriving DecidableEq

/-- How far the work of `openRemoteFile` has come. -/
inductive OpenStage where
  /-- Before the local copy is opened for writing. -/
  | queued
  /-- In `downloadFile`, with the offset and the size of the remote file. -/
  | downloading (offset size : ℕ)
  | downloaded
  | ended
  deriving DecidableEq

/-- How far the work of a sync has come. -/
inductive SyncStage where
  | queued
  /-- Before the local copy is opened for reading. -/
  | attempting (attempt : ℕ)
  /-- In `uploadFile`, with what was read and written so far. -/
  | uploading (attempt : ℕ) (sent : QByteArray)
  | ended
  deriving DecidableEq

/-- Work in the operation queue. -/
inductive Task where
  | opening (connectionId remotePath localPath : QString) (stage : OpenStage)
  | syncing (session : OpenFileSession) (stage : SyncStage)
  deriving DecidableEq

/-- Where the content of a local copy comes from. -/
inductive Origin where
  /-- Not from one save or download. -/
  | mixed
  /-- A download has truncated the copy, and nothing else has written it since. -/
  | writing (task : ℕ)
  /-- The last save of an editor, or a completed download. -/
  | whole
  deriving DecidableEq

/-- A completed upload, with what was the last complete content of the copy then. -/
structure Upload where
  session : OpenFileSession
  sent : QByteArray
  complete : Option QByteArray
  deriving DecidableEq

/-- The parts of the widget that open files use, the local copies, and what has become of
    them. -/
structure Widget where
  connectionId : QString := []
  /-- `m_openFileSessions`. -/
  sessions : QString → Option OpenFileSession := fun _ => none
  /-- The paths that `m_openFileWatcher` watches. -/
  watched : QString → Bool := fun _ => false
  /-- Changes that the watcher has not yet reported. -/
  changes : List QString := []
  /-- `m_pendingOpenFileSyncs`. -/
  pending : List QString := []
  /-- Whether `m_openFileSyncTimer` runs. -/
  timer : Bool := false
  tasks : List Task := []
  /-- Calls of `registerOpenFileSession` on their way to the widget. -/
  registrations : List OpenFileSession := []
  files : QString → Option QByteArray := fun _ => none
  origin : QString → Origin := fun _ => .mixed
  /-- The content last saved by the editor or completely downloaded. -/
  complete : QString → Option QByteArray := fun _ => none
  /-- Whether an editor has saved the copy since it was last truncated. -/
  edited : QString → Bool := fun _ => false
  /-- The last save of an editor, until it is uploaded. -/
  unsynced : QString → Option QByteArray := fun _ => none
  /-- Whether that save was not watched, or a sync of it has failed. -/
  missed : QString → Bool := fun _ => false
  uploads : List Upload := []
  /-- Saves that were overwritten before they were uploaded. -/
  discarded : List (QString × QByteArray) := []

/-! ## Steps -/

/-- What the work of `openRemoteFile` meets. -/
inductive OpenEvent where
  /-- There is no directory, no connection, no remote file or no local file. -/
  | fail
  /-- The local copy is opened for writing, and truncated. -/
  | truncate (size : ℕ)
  | chunk (data : QByteArray)
  /-- The download is cancelled, cannot read, or writes a part and fails. -/
  | stop (part : QByteArray)
  /-- The loop of the download ends, at the size or at an empty chunk. -/
  | finish
  | openLocalFile (ok : Bool)

/-- What the work of a sync meets. -/
inductive SyncEvent where
  | start
  /-- The local copy cannot be read. -/
  | localError
  /-- The sync is cancelled, or has another error. -/
  | fail
  | openFile
  | chunk (size : ℕ)
  /-- The upload is at the end of the local copy. -/
  | finish

/-- One step of the user, an editor, the watcher, the timer or a worker. -/
inductive OpenAction where
  /-- A connection is displayed, or none. -/
  | setConnection (connectionId : QString)
  | openRemoteFile (remotePath : QString)
  | opening (task : ℕ) (event : OpenEvent)
  | syncing (task : ℕ) (event : SyncEvent)
  /-- `registerOpenFileSession` is called for the first registration. -/
  | register
  | editorSaves (localPath : QString) (content : QByteArray)
  /-- The watcher loses a file that was replaced, and has a change to report. -/
  | unwatch (localPath : QString)
  /-- `fileChanged`. -/
  | fileChanged (localPath : QString)
  | timeout

namespace Widget

variable (w : Widget)

/-- The local copy of a path gets a content; the watcher sees it. -/
def write (localPath : QString) (content : QByteArray) : Widget :=
  { w with
    files := Function.update w.files localPath (some content)
    changes := if w.watched localPath then w.changes ++ [localPath] else w.changes }

/-- A save that was not uploaded is gone. -/
def discard (localPath : QString) : Widget :=
  match w.unsynced localPath with
  | none => w
  | some content =>
    { w with
      unsynced := Function.update w.unsynced localPath none
      discarded := w.discarded ++ [(localPath, content)] }

def setTask (n : ℕ) (task : Task) : Widget := { w with tasks := w.tasks.set n task }

/-- A download truncates the local copy. -/
def truncate (n : ℕ) (localPath : QString) : Widget :=
  let w := (w.discard localPath).write localPath []
  { w with
    origin := Function.update w.origin localPath (.writing n)
    edited := Function.update w.edited localPath false }

/-- A download writes to the local copy. -/
def download (n : ℕ) (localPath : QString) (offset : ℕ) (data : QByteArray) : Widget :=
  let origin := if w.origin localPath = .writing n then .writing n else .mixed
  let content := splice ((w.files localPath).getD []) offset data
  let w := (w.discard localPath).write localPath content
  { w with origin := Function.update w.origin localPath origin }

/-- A download has ended without an error. -/
def completeDownload (n : ℕ) (localPath : QString) (offset size : ℕ) : Widget :=
  if w.origin localPath ≠ .writing n then w
  else if size ≤ offset then
    { w with
      origin := Function.update w.origin localPath .whole
      complete := Function.update w.complete localPath (w.files localPath) }
  else
    { w with origin := Function.update w.origin localPath .mixed }

/-- The work of `openRemoteFile` (RemoteBrowserWidget.cpp:1258) with the loop of
    `NativeSmbClient::downloadFile` (NativeSmbClient.cpp:538). -/
def workOpening (n : ℕ) (connectionId remotePath localPath : QString) (stage : OpenStage)
    (event : OpenEvent) : Option Widget :=
  let goto (stage : OpenStage) (w : Widget) : Widget :=
    w.setTask n (.opening connectionId remotePath localPath stage)
  match stage, event with
  | .queued, .fail => some (goto .ended w)
  | .queued, .truncate size => some (goto (.downloading 0 size) (w.truncate n localPath))
  | .downloading offset size, .chunk data =>
    if offset < size ∧ data ≠ [] then
      some (goto (.downloading (offset + data.length) size) (w.download n localPath offset data))
    else
      none
  | .downloading offset _, .stop part =>
    -- what was written so far stays in the local copy
    if part = [] then some (goto .ended w)
    else some (goto .ended (w.download n localPath offset part))
  | .downloading offset size, .finish =>
    some (goto .downloaded (w.completeDownload n localPath offset size))
  | .downloaded, .openLocalFile ok =>
    if ok then
      some (goto .ended { w with
        registrations := w.registrations ++ [⟨connectionId, remotePath, localPath⟩] })
    else
      some (goto .ended w)
  | _, _ => none

/-- A sync ends without success. -/
def missSync (localPath : QString) : Widget :=
  { w with
    missed := Function.update w.missed localPath
      (w.missed localPath || (w.unsynced localPath).isSome) }

/-- An upload has sent the local copy. -/
def completeSync (session : OpenFileSession) (sent : QByteArray) : Widget :=
  let w := { w with uploads := w.uploads ++ [⟨session, sent, w.complete session.localPath⟩] }
  if w.unsynced session.localPath = some sent then
    { w with
      unsynced := Function.update w.unsynced session.localPath none
      missed := Function.update w.missed session.localPath false }
  else
    w

/-- How often a sync is tried (RemoteBrowserWidget.cpp:1348). -/
def syncAttempts : ℕ := 30

/-- The work of a sync (RemoteBrowserWidget.cpp:1346) with the loop of
    `NativeSmbClient::uploadFile` (NativeSmbClient.cpp:619). -/
def workSyncing (n : ℕ) (session : OpenFileSession) (stage : SyncStage) (event : SyncEvent) :
    Option Widget :=
  let goto (stage : SyncStage) (w : Widget) : Widget := w.setTask n (.syncing session stage)
  let retry (attempt : ℕ) : Widget :=
    if attempt + 1 < syncAttempts then goto (.attempting (attempt + 1)) w
    else goto .ended (w.missSync session.localPath)
  match stage, event with
  | .queued, .start => some (goto (.attempting 0) w)
  | .queued, .fail => some (goto .ended (w.missSync session.localPath))
  | .attempting attempt, .localError => some (retry attempt)
  | .uploading attempt _, .localError => some (retry attempt)
  | .attempting _, .fail => some (goto .ended (w.missSync session.localPath))
  | .uploading _ _, .fail => some (goto .ended (w.missSync session.localPath))
  | .attempting attempt, .openFile =>
    if (w.files session.localPath).isSome then some (goto (.uploading attempt []) w) else none
  | .uploading attempt sent, .chunk size =>
    let rest := ((w.files session.localPath).getD []).drop sent.length
    if size = 0 ∨ rest = [] then none
    else some (goto (.uploading attempt (sent ++ rest.take size)) w)
  | .uploading _ sent, .finish =>
    if ((w.files session.localPath).getD []).length ≤ sent.length then
      some (goto .ended (w.completeSync session sent))
    else
      none
  | _, _ => none

/-- `RemoteBrowserWidget::registerOpenFileSession` (RemoteBrowserWidget.cpp:1293). -/
def registerOpenFileSession (registration : OpenFileSession) : Widget :=
  let localPath := registration.localPath
  if localPath.isEmpty || (w.files localPath).isNone then w
  else
    { w with
      sessions := Function.update w.sessions localPath (some {
        registration with
        remotePath := RemoteBrowserWidget.normalizeRemotePath registration.remotePath })
      watched := Function.update w.watched localPath true }

/-- `RemoteBrowserWidget::scheduleOpenFileSync` (RemoteBrowserWidget.cpp:1311). -/
def scheduleOpenFileSync (localPath : QString) : Widget :=
  if (w.sessions localPath).isNone then w
  else
    { w with
      watched :=
        if (w.files localPath).isSome then Function.update w.watched localPath true
        else w.watched
      pending := if localPath ∈ w.pending then w.pending else w.pending ++ [localPath]
      timer := true }

/-- The work that `flushPendingOpenFileSyncs` starts for a path
    (RemoteBrowserWidget.cpp:1332). -/
def syncTask (localPath : QString) : Option Task :=
  (w.sessions localPath).bind fun session =>
    if session.connectionId.isEmpty || session.remotePath.isEmpty ||
        (w.files session.localPath).isNone then none
    else some (.syncing session .queued)

/-- `RemoteBrowserWidget::flushPendingOpenFileSyncs` (RemoteBrowserWidget.cpp:1328). -/
def flushPendingOpenFileSyncs : Widget :=
  { w with pending := [], tasks := w.tasks ++ w.pending.filterMap w.syncTask }

/-- `RemoteBrowserWidget::openRemoteFile` (RemoteBrowserWidget.cpp:1242);
    `localPathFor` is `TempFileCache::localPathFor` (TempFileCache.cpp:121). -/
def openRemoteFile (localPathFor : QString → QString → QString) (remotePath : QString) : Widget :=
  if w.connectionId.isEmpty || remotePath.trimmed.isEmpty then w
  else
    { w with
      tasks := w.tasks ++
        [.opening w.connectionId remotePath (localPathFor w.connectionId remotePath) .queued] }

/-- An editor saves a local copy. -/
def editorSaves (localPath : QString) (content : QByteArray) : Widget :=
  { w.write localPath content with
    origin := Function.update w.origin localPath .whole
    complete := Function.update w.complete localPath (some content)
    edited := Function.update w.edited localPath true
    unsynced := Function.update w.unsynced localPath (some content)
    missed := Function.update w.missed localPath (!w.watched localPath) }

/-- The watcher loses a file. -/
def unwatch (localPath : QString) : Widget :=
  { w with
    watched := Function.update w.watched localPath false
    changes := w.changes ++ [localPath] }

/-- One step. -/
def step (localPathFor : QString → QString → QString) (w : Widget) : OpenAction → Option Widget
  | .setConnection connectionId => some { w with connectionId }
  | .openRemoteFile remotePath => some (w.openRemoteFile localPathFor remotePath)
  | .opening n event =>
    match w.tasks[n]? with
    | some (.opening connectionId remotePath localPath stage) =>
      w.workOpening n connectionId remotePath localPath stage event
    | _ => none
  | .syncing n event =>
    match w.tasks[n]? with
    | some (.syncing session stage) => w.workSyncing n session stage event
    | _ => none
  | .register =>
    match w.registrations with
    | [] => none
    | registration :: registrations =>
      some ({ w with registrations }.registerOpenFileSession registration)
  | .editorSaves localPath content =>
    if (w.files localPath).isSome then some (w.editorSaves localPath content) else none
  | .unwatch localPath => if w.watched localPath then some (w.unwatch localPath) else none
  | .fileChanged localPath =>
    if localPath ∈ w.changes then
      some ({ w with changes := w.changes.erase localPath }.scheduleOpenFileSync localPath)
    else
      none
  | .timeout => if w.timer then some { w.flushPendingOpenFileSyncs with timer := false } else none

end Widget

/-! ## Undisturbed steps -/

namespace Task

/-- The task syncs a local copy, and has not ended. -/
def syncs (localPath : QString) : Task → Bool
  | .syncing session stage => session.localPath = localPath && stage ≠ .ended
  | .opening _ _ _ _ => false

/-- What the task has sent of a local copy, if it has it open. -/
def sentOf (localPath : QString) : Task → Option QByteArray
  | .syncing session (.uploading _ sent) => if session.localPath = localPath then some sent else none
  | _ => none

end Task

namespace Widget

variable (w : Widget)

/-- Something of a local copy is still to be uploaded: a change is not reported, a sync is
    not started or not ended, or a save was missed. -/
def waits (localPath : QString) : Bool :=
  localPath ∈ w.changes || localPath ∈ w.pending || w.tasks.any (·.syncs localPath) ||
    w.missed localPath

/-- No upload has a local copy open. -/
def unopened (localPath : QString) : Bool := w.tasks.all fun task => task.sentOf localPath = none

/-- No upload has read a part of a local copy. -/
def unread (localPath : QString) : Bool :=
  w.tasks.all fun task => task.sentOf localPath = none || task.sentOf localPath = some []

/-- A download truncates no copy that an upload has open, or with a save that waits for its
    upload, and writes only what nobody else has written meanwhile; an upload opens only
    the last save or a completed download; and an editor does not save a copy that an
    upload is reading. -/
def undisturbed (w : Widget) : OpenAction → Bool
  | .opening n event =>
    match w.tasks[n]? with
    | some (.opening _ _ localPath _) =>
      match event with
      | .truncate _ => w.unopened localPath && (!w.edited localPath || !w.waits localPath)
      | .chunk _ => w.origin localPath = .writing n
      | .stop part => part = [] || w.origin localPath = .writing n
      | _ => true
    | _ => true
  | .syncing n .openFile =>
    match w.tasks[n]? with
    | some (.syncing session _) => w.origin session.localPath = .whole
    | _ => true
  | .editorSaves localPath _ => w.unread localPath
  | _ => true

/-! ## What undisturbed steps keep -/

variable {w} {w' : Widget} {p : QString}

/-- What is watched or waits has a session, and a session has a connection and a path. -/
structure Links (w : Widget) : Prop where
  session : ∀ p session, w.sessions p = some session →
    session.localPath = p ∧ session.connectionId ≠ [] ∧ session.remotePath ≠ []
  watched : ∀ p, w.watched p = true → (w.sessions p).isSome = true
  changes : ∀ p ∈ w.changes, (w.sessions p).isSome = true
  pending : ∀ p ∈ w.pending, (w.sessions p).isSome = true
  opening : ∀ connectionId remotePath localPath stage,
    .opening connectionId remotePath localPath stage ∈ w.tasks → connectionId ≠ []
  registrations : ∀ registration ∈ w.registrations, registration.connectionId ≠ []

/-- A copy whose content is one save or download has its last complete content; an upload
    reads such a copy from its start; and a save that was not uploaded is there and
    waits. -/
structure Copies (w : Widget) : Prop where
  whole : ∀ p, w.origin p = .whole → w.files p = w.complete p
  reading : ∀ task ∈ w.tasks, ∀ p sent, task.sentOf p = some sent →
    w.origin p = .whole ∧ ∃ content, w.files p = some content ∧ sent <+: content
  unsynced : ∀ p content, w.unsynced p = some content →
    w.files p = some content ∧ w.origin p = .whole ∧ w.edited p = true ∧ w.waits p = true
  uploads : ∀ upload ∈ w.uploads, upload.complete = some upload.sent
  discarded : w.discarded = []

theorem waits_iff :
    w.waits p = true ↔ p ∈ w.changes ∨ p ∈ w.pending ∨ (∃ task ∈ w.tasks, task.syncs p = true) ∨
      w.missed p = true := by
  simp [waits, or_assoc]

theorem links_start {files : QString → Option QByteArray} : Links { files } := by
  refine ⟨?_, ?_, ?_, ?_, ?_, ?_⟩
  · intro p session h
    cases h
  · intro p h
    cases h
  · intro p h
    cases h
  · intro p h
    cases h
  · intro connectionId remotePath localPath stage h
    cases h
  · intro registration h
    cases h

theorem copies_start {files : QString → Option QByteArray} : Copies { files } := by
  refine ⟨?_, ?_, ?_, ?_, rfl⟩
  · intro p h
    cases h
  · intro task h
    cases h
  · intro p content h
    cases h
  · intro upload h
    cases h

/-! ### Links -/

theorem normalizeRemotePath_ne_nil (remotePath : QString) :
    RemoteBrowserWidget.normalizeRemotePath remotePath ≠ [] := by
  unfold RemoteBrowserWidget.normalizeRemotePath
  dsimp only
  split
  · exact List.cons_ne_nil _ _
  · next hne => exact hne

theorem Links.write (h : Links w) (localPath : QString) (content : QByteArray) :
    Links (w.write localPath content) := by
  refine ⟨h.session, h.watched, ?_, h.pending, h.opening, h.registrations⟩
  intro p hmem
  unfold Widget.write at hmem
  dsimp only at hmem
  split at hmem
  · next hwatched =>
    rcases List.mem_append.1 hmem with hmem | hmem
    · exact h.changes p hmem
    · obtain rfl := List.mem_singleton.1 hmem
      exact h.watched p hwatched
  · exact h.changes p hmem

theorem Links.discard (h : Links w) (localPath : QString) : Links (w.discard localPath) := by
  unfold Widget.discard
  split
  · exact h
  · exact ⟨h.session, h.watched, h.changes, h.pending, h.opening, h.registrations⟩

theorem Links.setTask (h : Links w) {n : ℕ} {task : Task}
    (htask : ∀ connectionId remotePath localPath stage,
      task = .opening connectionId remotePath localPath stage → connectionId ≠ []) :
    Links (w.setTask n task) := by
  refine ⟨h.session, h.watched, h.changes, h.pending, ?_, h.registrations⟩
  intro connectionId remotePath localPath stage hmem
  rcases List.mem_or_eq_of_mem_set hmem with hmem | heq
  · exact h.opening connectionId remotePath localPath stage hmem
  · exact htask connectionId remotePath localPath stage heq.symm

theorem Links.truncate (h : Links w) (n : ℕ) (localPath : QString) :
    Links (w.truncate n localPath) := by
  have hwritten := (h.discard localPath).write localPath []
  exact ⟨hwritten.session, hwritten.watched, hwritten.changes, hwritten.pending,
    hwritten.opening, hwritten.registrations⟩

theorem Links.download (h : Links w) (n : ℕ) (localPath : QString) (offset : ℕ)
    (data : QByteArray) : Links (w.download n localPath offset data) := by
  have hwritten := (h.discard localPath).write localPath
    (splice ((w.files localPath).getD []) offset data)
  exact ⟨hwritten.session, hwritten.watched, hwritten.changes, hwritten.pending,
    hwritten.opening, hwritten.registrations⟩

theorem Links.completeDownload (h : Links w) (n : ℕ) (localPath : QString) (offset size : ℕ) :
    Links (w.completeDownload n localPath offset size) := by
  unfold Widget.completeDownload
  split
  · exact h
  split
  · exact ⟨h.session, h.watched, h.changes, h.pending, h.opening, h.registrations⟩
  · exact ⟨h.session, h.watched, h.changes, h.pending, h.opening, h.registrations⟩

theorem Links.missSync (h : Links w) (localPath : QString) : Links (w.missSync localPath) :=
  ⟨h.session, h.watched, h.changes, h.pending, h.opening, h.registrations⟩

theorem Links.completeSync (h : Links w) (session : OpenFileSession) (sent : QByteArray) :
    Links (w.completeSync session sent) := by
  unfold Widget.completeSync
  dsimp only
  split
  · exact ⟨h.session, h.watched, h.changes, h.pending, h.opening, h.registrations⟩
  · exact ⟨h.session, h.watched, h.changes, h.pending, h.opening, h.registrations⟩

theorem Links.workOpening (h : Links w) {n : ℕ} {connectionId remotePath localPath : QString}
    {stage : OpenStage} {event : OpenEvent} (hid : connectionId ≠ [])
    (hstep : w.workOpening n connectionId remotePath localPath stage event = some w') :
    Links w' := by
  have htask : ∀ stage connectionId' remotePath' localPath' stage',
      Task.opening connectionId remotePath localPath stage =
        .opening connectionId' remotePath' localPath' stage' → connectionId' ≠ [] := by
    intro stage connectionId' remotePath' localPath' stage' heq
    cases heq
    exact hid
  unfold Widget.workOpening at hstep
  dsimp only at hstep
  split at hstep
  · obtain rfl := Option.some.inj hstep
    exact h.setTask (htask _)
  · obtain rfl := Option.some.inj hstep
    exact (h.truncate n localPath).setTask (htask _)
  · split at hstep
    · obtain rfl := Option.some.inj hstep
      exact (h.download n localPath _ _).setTask (htask _)
    · cases hstep
  · split at hstep
    · obtain rfl := Option.some.inj hstep
      exact h.setTask (htask _)
    · obtain rfl := Option.some.inj hstep
      exact (h.download n localPath _ _).setTask (htask _)
  · obtain rfl := Option.some.inj hstep
    exact (h.completeDownload n localPath _ _).setTask (htask _)
  · split at hstep
    · obtain rfl := Option.some.inj hstep
      have hregistered : Links { w with
          registrations := w.registrations ++ [⟨connectionId, remotePath, localPath⟩] } := by
        refine ⟨h.session, h.watched, h.changes, h.pending, h.opening, ?_⟩
        intro registration hmem
        rcases List.mem_append.1 hmem with hmem | hmem
        · exact h.registrations registration hmem
        · obtain rfl := List.mem_singleton.1 hmem
          exact hid
      exact hregistered.setTask (htask _)
    · obtain rfl := Option.some.inj hstep
      exact h.setTask (htask _)
  · cases hstep

theorem Links.workSyncing (h : Links w) {n : ℕ} {session : OpenFileSession} {stage : SyncStage}
    {event : SyncEvent} (hstep : w.workSyncing n session stage event = some w') : Links w' := by
  have htask : ∀ stage connectionId remotePath localPath stage',
      Task.syncing session stage = .opening connectionId remotePath localPath stage' →
        connectionId ≠ [] := by
    intro stage connectionId remotePath localPath stage' heq
    cases heq
  have hretry : ∀ attempt, Links (if attempt + 1 < syncAttempts then
      w.setTask n (.syncing session (.attempting (attempt + 1)))
    else (w.missSync session.localPath).setTask n (.syncing session .ended)) := by
    intro attempt
    split
    · exact h.setTask (htask _)
    · exact (h.missSync session.localPath).setTask (htask _)
  unfold Widget.workSyncing at hstep
  dsimp only at hstep
  split at hstep
  · obtain rfl := Option.some.inj hstep
    exact h.setTask (htask _)
  · obtain rfl := Option.some.inj hstep
    exact (h.missSync session.localPath).setTask (htask _)
  · obtain rfl := Option.some.inj hstep
    exact hretry _
  · obtain rfl := Option.some.inj hstep
    exact hretry _
  · obtain rfl := Option.some.inj hstep
    exact (h.missSync session.localPath).setTask (htask _)
  · obtain rfl := Option.some.inj hstep
    exact (h.missSync session.localPath).setTask (htask _)
  · split at hstep
    · obtain rfl := Option.some.inj hstep
      exact h.setTask (htask _)
    · cases hstep
  · split at hstep
    · cases hstep
    · obtain rfl := Option.some.inj hstep
      exact h.setTask (htask _)
  · split at hstep
    · obtain rfl := Option.some.inj hstep
      exact (h.completeSync session _).setTask (htask _)
    · cases hstep
  · cases hstep

theorem isSome_update {sessions : QString → Option OpenFileSession} {p q : QString}
    {session : OpenFileSession} (h : (sessions q).isSome = true) :
    (Function.update sessions p (some session) q).isSome = true := by
  by_cases hq : q = p
  · subst hq
    rw [Function.update_self]
    rfl
  · rwa [Function.update_of_ne hq]

theorem Links.registerOpenFileSession (h : Links w) {registration : OpenFileSession}
    (hid : registration.connectionId ≠ []) : Links (w.registerOpenFileSession registration) := by
  unfold Widget.registerOpenFileSession
  dsimp only
  split
  · exact h
  · refine ⟨?_, ?_, fun p hmem => isSome_update (h.changes p hmem),
      fun p hmem => isSome_update (h.pending p hmem), h.opening, h.registrations⟩
    · intro p session hsession
      dsimp only at hsession
      by_cases hp : p = registration.localPath
      · subst hp
        rw [Function.update_self] at hsession
        obtain rfl := Option.some.inj hsession
        exact ⟨rfl, hid, normalizeRemotePath_ne_nil _⟩
      · rw [Function.update_of_ne hp] at hsession
        exact h.session p session hsession
    · intro p hwatched
      dsimp only at hwatched ⊢
      by_cases hp : p = registration.localPath
      · subst hp
        rw [Function.update_self]
        rfl
      · rw [Function.update_of_ne hp] at hwatched
        exact isSome_update (h.watched p hwatched)

theorem Links.scheduleOpenFileSync (h : Links w) (localPath : QString) :
    Links (w.scheduleOpenFileSync localPath) := by
  unfold Widget.scheduleOpenFileSync
  split
  · exact h
  next hsome =>
  have hsession : (w.sessions localPath).isSome = true := by
    rw [Option.isSome_iff_ne_none]
    exact fun hnone => hsome (Option.isNone_iff_eq_none.2 hnone)
  refine ⟨h.session, ?_, h.changes, ?_, h.opening, h.registrations⟩
  · intro p hwatched
    by_cases hp : p = localPath
    · subst hp
      exact hsession
    · refine h.watched p ?_
      dsimp only at hwatched
      split at hwatched
      · rwa [Function.update_of_ne hp] at hwatched
      · exact hwatched
  · intro p hmem
    dsimp only at hmem
    split at hmem
    · exact h.pending p hmem
    · rcases List.mem_append.1 hmem with hmem | hmem
      · exact h.pending p hmem
      · obtain rfl := List.mem_singleton.1 hmem
        exact hsession

theorem mem_syncTask {task : Task} (h : task ∈ w.pending.filterMap w.syncTask) :
    ∃ session, task = .syncing session .queued := by
  obtain ⟨localPath, -, htask⟩ := List.mem_filterMap.1 h
  obtain ⟨session, -, htask⟩ := Option.bind_eq_some_iff.1 htask
  split at htask
  · cases htask
  · exact ⟨session, (Option.some.inj htask).symm⟩

theorem Links.flushPendingOpenFileSyncs (h : Links w) : Links w.flushPendingOpenFileSyncs := by
  refine ⟨h.session, h.watched, h.changes, ?_, ?_, h.registrations⟩
  · intro p hmem
    cases hmem
  · intro connectionId remotePath localPath stage hmem
    rcases List.mem_append.1 hmem with hmem | hmem
    · exact h.opening connectionId remotePath localPath stage hmem
    · obtain ⟨session, htask⟩ := mem_syncTask hmem
      cases htask

theorem Links.openRemoteFile (h : Links w) (localPathFor : QString → QString → QString)
    (remotePath : QString) : Links (w.openRemoteFile localPathFor remotePath) := by
  unfold Widget.openRemoteFile
  split
  · exact h
  next hvalid =>
  refine ⟨h.session, h.watched, h.changes, h.pending, ?_, h.registrations⟩
  intro connectionId remotePath' localPath stage hmem
  rcases List.mem_append.1 hmem with hmem | hmem
  · exact h.opening connectionId remotePath' localPath stage hmem
  · cases List.mem_singleton.1 hmem
    rintro hnil
    rw [hnil] at hvalid
    exact hvalid rfl

theorem Links.editorSaves (h : Links w) (localPath : QString) (content : QByteArray) :
    Links (w.editorSaves localPath content) := by
  have hwritten := h.write localPath content
  exact ⟨hwritten.session, hwritten.watched, hwritten.changes, hwritten.pending,
    hwritten.opening, hwritten.registrations⟩

theorem Links.unwatch (h : Links w) {localPath : QString} (hwatched : w.watched localPath = true) :
    Links (w.unwatch localPath) := by
  refine ⟨h.session, ?_, ?_, h.pending, h.opening, h.registrations⟩
  · intro p hp
    unfold Widget.unwatch at hp
    dsimp only at hp
    by_cases heq : p = localPath
    · subst heq
      exact h.watched p hwatched
    · rw [Function.update_of_ne heq] at hp
      exact h.watched p hp
  · intro p hmem
    rcases List.mem_append.1 hmem with hmem | hmem
    · exact h.changes p hmem
    · obtain rfl := List.mem_singleton.1 hmem
      exact h.watched p hwatched

theorem Links.step (h : Links w) {localPathFor : QString → QString → QString} {a : OpenAction}
    (hstep : w.step localPathFor a = some w') : Links w' := by
  cases a with
  | setConnection connectionId =>
    obtain rfl := Option.some.inj hstep
    exact ⟨h.session, h.watched, h.changes, h.pending, h.opening, h.registrations⟩
  | openRemoteFile remotePath =>
    obtain rfl := Option.some.inj hstep
    exact h.openRemoteFile localPathFor remotePath
  | opening n event =>
    rw [Widget.step] at hstep
    split at hstep
    · next connectionId remotePath localPath stage htask =>
      exact h.workOpening (h.opening _ _ _ _ (List.mem_of_getElem? htask)) hstep
    · cases hstep
  | syncing n event =>
    rw [Widget.step] at hstep
    split at hstep
    · exact h.workSyncing hstep
    · cases hstep
  | register =>
    rw [Widget.step] at hstep
    split at hstep
    · cases hstep
    · next registration registrations hregistrations =>
      obtain rfl := Option.some.inj hstep
      have hrest : Links { w with registrations } := by
        refine ⟨h.session, h.watched, h.changes, h.pending, h.opening, ?_⟩
        intro registration' hmem
        exact h.registrations registration' (hregistrations ▸ List.mem_cons_of_mem _ hmem)
      exact hrest.registerOpenFileSession
        (h.registrations registration (hregistrations ▸ List.mem_cons_self))
  | editorSaves localPath content =>
    rw [Widget.step] at hstep
    split at hstep
    · obtain rfl := Option.some.inj hstep
      exact h.editorSaves localPath content
    · cases hstep
  | unwatch localPath =>
    rw [Widget.step] at hstep
    split at hstep
    · next hwatched =>
      obtain rfl := Option.some.inj hstep
      exact h.unwatch hwatched
    · cases hstep
  | fileChanged localPath =>
    rw [Widget.step] at hstep
    split at hstep
    · obtain rfl := Option.some.inj hstep
      have herased : Links { w with changes := w.changes.erase localPath } :=
        ⟨h.session, h.watched, fun p hmem => h.changes p (List.mem_of_mem_erase hmem), h.pending,
          h.opening, h.registrations⟩
      exact herased.scheduleOpenFileSync localPath
    · cases hstep
  | timeout =>
    rw [Widget.step] at hstep
    split at hstep
    · obtain rfl := Option.some.inj hstep
      have hflushed := h.flushPendingOpenFileSyncs
      exact ⟨hflushed.session, hflushed.watched, hflushed.changes, hflushed.pending,
        hflushed.opening, hflushed.registrations⟩
    · cases hstep

/-! ### Copies -/

theorem exists_syncs_set {tasks : List Task} {n : ℕ} {t t' : Task} (ht : tasks[n]? = some t)
    (hkeep : t.syncs p = true → t'.syncs p = true) (h : ∃ task ∈ tasks, task.syncs p = true) :
    ∃ task ∈ tasks.set n t', task.syncs p = true := by
  obtain ⟨task, hmem, hsyncs⟩ := h
  obtain ⟨m, hm⟩ := List.mem_iff_getElem?.1 hmem
  obtain ⟨hn, -⟩ := List.getElem?_eq_some_iff.1 ht
  by_cases hnm : n = m
  · subst hnm
    obtain rfl := Option.some.inj (ht.symm.trans hm)
    exact ⟨t', List.mem_set hn t', hkeep hsyncs⟩
  · refine ⟨task, List.mem_of_getElem? (i := m) ?_, hsyncs⟩
    rw [List.getElem?_set_ne hnm, hm]

/-- A task goes on: what it has read is the start of a whole copy, and it goes on syncing a
    save, or the save is missed. -/
theorem Copies.setTask (h : Copies w) {n : ℕ} {t t' : Task} (ht : w.tasks[n]? = some t)
    (hsent : ∀ p sent, t'.sentOf p = some sent →
      w.origin p = .whole ∧ ∃ content, w.files p = some content ∧ sent <+: content)
    (hsyncs : ∀ p content, w.unsynced p = some content → t.syncs p = true →
      t'.syncs p = true ∨ w.missed p = true) :
    Copies (w.setTask n t') := by
  refine ⟨h.whole, ?_, ?_, h.uploads, h.discarded⟩
  · intro task hmem p sent hp
    rcases List.mem_or_eq_of_mem_set hmem with hmem | rfl
    · exact h.reading task hmem p sent hp
    · exact hsent p sent hp
  · intro p content hunsynced
    obtain ⟨hfile, horigin, hedited, hwaits⟩ := h.unsynced p content hunsynced
    refine ⟨hfile, horigin, hedited, waits_iff.2 ?_⟩
    rcases waits_iff.1 hwaits with hchange | hpending | hsync | hmissed
    · exact Or.inl hchange
    · exact Or.inr (Or.inl hpending)
    · by_cases hmissed : w.missed p = true
      · exact Or.inr (Or.inr (Or.inr hmissed))
      · refine Or.inr (Or.inr (Or.inl (exists_syncs_set ht ?_ hsync)))
        intro hold
        exact (hsyncs p content hunsynced hold).resolve_right hmissed
    · exact Or.inr (Or.inr (Or.inr hmissed))

/-- The work of an open goes on. -/
theorem Copies.setOpening (h : Copies w) {n : ℕ} {connectionId remotePath localPath : QString}
    {stage stage' : OpenStage}
    (ht : w.tasks[n]? = some (.opening connectionId remotePath localPath stage)) :
    Copies (w.setTask n (.opening connectionId remotePath localPath stage')) := by
  refine h.setTask ht ?_ ?_
  · intro p sent hsent
    cases hsent
  · intro p content _ hsyncs
    cases hsyncs

theorem discard_of_none (h : w.unsynced p = none) : w.discard p = w := by
  unfold Widget.discard
  rw [h]

theorem mem_write_changes {content : QByteArray} {q : QString} (h : q ∈ w.changes) :
    q ∈ (w.write p content).changes := by
  unfold Widget.write
  dsimp only
  split
  · exact List.mem_append_left _ h
  · exact h

theorem waits_write {content : QByteArray} {q : QString} (h : w.waits q = true) :
    (w.write p content).waits q = true := by
  rcases waits_iff.1 h with hchange | hrest
  · exact waits_iff.2 (Or.inl (mem_write_changes hchange))
  · exact waits_iff.2 (Or.inr hrest)

theorem unopened_iff : w.unopened p = true ↔ ∀ task ∈ w.tasks, task.sentOf p = none := by
  simp [Widget.unopened]

theorem unread_iff :
    w.unread p = true ↔ ∀ task ∈ w.tasks, ∀ sent, task.sentOf p = some sent → sent = [] := by
  simp only [Widget.unread, List.all_eq_true, Bool.or_eq_true, decide_eq_true_eq]
  constructor
  · intro h task hmem sent hsent
    rcases h task hmem with hnone | hnil
    · exact absurd (hsent.symm.trans hnone) (Option.some_ne_none sent)
    · exact Option.some.inj (hsent.symm.trans hnil)
  · intro h task hmem
    cases hsent : task.sentOf p with
    | none => exact Or.inl rfl
    | some sent => exact Or.inr (congrArg some (h task hmem sent hsent))

/-- A truncation of a copy that nobody reads and in which no save waits. -/
theorem Copies.truncate (h : Copies w) {n : ℕ} (hunopened : w.unopened p = true)
    (hedited : w.edited p = true → w.waits p = false) : Copies (w.truncate n p) := by
  have hunsynced : w.unsynced p = none := by
    cases hp : w.unsynced p with
    | none => rfl
    | some content =>
      obtain ⟨-, -, hsaved, hwaits⟩ := h.unsynced p content hp
      exact absurd (hwaits.symm.trans (hedited hsaved)) (by decide)
  unfold Widget.truncate
  rw [discard_of_none hunsynced]
  refine ⟨?_, ?_, ?_, h.uploads, h.discarded⟩
  · intro q horigin
    by_cases hq : q = p
    · subst hq
      dsimp only at horigin
      rw [Function.update_self] at horigin
      cases horigin
    · dsimp only at horigin
      rw [Function.update_of_ne hq] at horigin
      exact (Function.update_of_ne hq _ _).trans (h.whole q horigin)
  · intro task hmem q sent hsent
    by_cases hq : q = p
    · subst hq
      exact absurd (hsent.symm.trans (unopened_iff.1 hunopened task hmem))
        (Option.some_ne_none sent)
    · obtain ⟨horigin, content, hfile, hstart⟩ := h.reading task hmem q sent hsent
      exact ⟨(Function.update_of_ne hq _ _).trans horigin, content,
        (Function.update_of_ne hq _ _).trans hfile, hstart⟩
  · intro q content hq
    have hne : q ≠ p := by
      rintro rfl
      exact absurd (hq.symm.trans hunsynced) (Option.some_ne_none content)
    obtain ⟨hfile, horigin, hsaved, hwaits⟩ := h.unsynced q content hq
    exact ⟨(Function.update_of_ne hne _ _).trans hfile,
      (Function.update_of_ne hne _ _).trans horigin,
      (Function.update_of_ne hne _ _).trans hsaved,
      @waits_write w p [] q hwaits⟩

/-- A download writes to a copy that is its own. -/
theorem Copies.download (h : Copies w) {n offset : ℕ} {data : QByteArray}
    (hown : w.origin p = .writing n) : Copies (w.download n p offset data) := by
  have hnot : w.origin p ≠ .whole := by
    rw [hown]
    exact Origin.noConfusion
  have hunsynced : w.unsynced p = none := by
    cases hp : w.unsynced p with
    | none => rfl
    | some content => exact absurd (h.unsynced p content hp).2.1 hnot
  unfold Widget.download
  dsimp only
  rw [discard_of_none hunsynced, if_pos hown]
  refine ⟨?_, ?_, ?_, h.uploads, h.discarded⟩
  · intro q horigin
    by_cases hq : q = p
    · subst hq
      dsimp only at horigin
      rw [Function.update_self] at horigin
      cases horigin
    · dsimp only at horigin
      rw [Function.update_of_ne hq] at horigin
      exact (Function.update_of_ne hq _ _).trans (h.whole q horigin)
  · intro task hmem q sent hsent
    obtain ⟨horigin, content, hfile, hstart⟩ := h.reading task hmem q sent hsent
    have hq : q ≠ p := by
      rintro rfl
      exact hnot horigin
    exact ⟨(Function.update_of_ne hq _ _).trans horigin, content,
      (Function.update_of_ne hq _ _).trans hfile, hstart⟩
  · intro q content hq
    obtain ⟨hfile, horigin, hsaved, hwaits⟩ := h.unsynced q content hq
    have hne : q ≠ p := by
      rintro rfl
      exact hnot horigin
    exact ⟨(Function.update_of_ne hne _ _).trans hfile,
      (Function.update_of_ne hne _ _).trans horigin, hsaved,
      @waits_write w p (splice ((w.files p).getD []) offset data) q hwaits⟩

theorem Copies.completeDownload (h : Copies w) {n offset size : ℕ} :
    Copies (w.completeDownload n p offset size) := by
  unfold Widget.completeDownload
  split
  · exact h
  next hown =>
  have hnot : w.origin p ≠ .whole := by
    rw [not_not.1 hown]
    exact Origin.noConfusion
  have hread : ∀ task ∈ w.tasks, ∀ q sent, task.sentOf q = some sent → q ≠ p := by
    rintro task hmem q sent hsent rfl
    exact hnot (h.reading task hmem q sent hsent).1
  have hsaved : ∀ q content, w.unsynced q = some content → q ≠ p := by
    rintro q content hq rfl
    exact hnot (h.unsynced q content hq).2.1
  split
  · refine ⟨?_, ?_, ?_, h.uploads, h.discarded⟩
    · intro q horigin
      by_cases hq : q = p
      · subst hq
        exact (Function.update_self q (w.files q) w.complete).symm
      · dsimp only at horigin ⊢
        rw [Function.update_of_ne hq] at horigin ⊢
        exact h.whole q horigin
    · intro task hmem q sent hsent
      obtain ⟨horigin, hcontent⟩ := h.reading task hmem q sent hsent
      exact ⟨(Function.update_of_ne (hread task hmem q sent hsent) _ _).trans horigin, hcontent⟩
    · intro q content hq
      obtain ⟨hfile, horigin, hrest⟩ := h.unsynced q content hq
      exact ⟨hfile, (Function.update_of_ne (hsaved q content hq) _ _).trans horigin, hrest⟩
  · refine ⟨?_, ?_, ?_, h.uploads, h.discarded⟩
    · intro q horigin
      by_cases hq : q = p
      · subst hq
        dsimp only at horigin
        rw [Function.update_self] at horigin
        cases horigin
      · dsimp only at horigin
        rw [Function.update_of_ne hq] at horigin
        exact h.whole q horigin
    · intro task hmem q sent hsent
      obtain ⟨horigin, hcontent⟩ := h.reading task hmem q sent hsent
      exact ⟨(Function.update_of_ne (hread task hmem q sent hsent) _ _).trans horigin, hcontent⟩
    · intro q content hq
      obtain ⟨hfile, horigin, hrest⟩ := h.unsynced q content hq
      exact ⟨hfile, (Function.update_of_ne (hsaved q content hq) _ _).trans horigin, hrest⟩

theorem Copies.missSync (h : Copies w) (localPath : QString) : Copies (w.missSync localPath) := by
  refine ⟨h.whole, h.reading, ?_, h.uploads, h.discarded⟩
  intro q content hq
  obtain ⟨hfile, horigin, hedited, hwaits⟩ := h.unsynced q content hq
  refine ⟨hfile, horigin, hedited, waits_iff.2 ?_⟩
  rcases waits_iff.1 hwaits with hchange | hpending | hsync | hmissed
  · exact Or.inl hchange
  · exact Or.inr (Or.inl hpending)
  · exact Or.inr (Or.inr (Or.inl hsync))
  · refine Or.inr (Or.inr (Or.inr ?_))
    unfold Widget.missSync
    dsimp only
    by_cases hp : q = localPath
    · subst hp
      rw [Function.update_self, hmissed, Bool.true_or]
    · rw [Function.update_of_ne hp, hmissed]

theorem missSync_missed {localPath : QString} {content : QByteArray}
    (h : w.unsynced localPath = some content) : (w.missSync localPath).missed localPath = true := by
  unfold Widget.missSync
  dsimp only
  rw [Function.update_self, h, Option.isSome_some, Bool.or_true]

theorem syncs_syncing {session : OpenFileSession} {stage : SyncStage} :
    (Task.syncing session stage).syncs p = true ↔ session.localPath = p ∧ stage ≠ .ended := by
  simp [Task.syncs]

/-- A sync that has nothing open goes on. -/
theorem Copies.setSyncing (h : Copies w) {n : ℕ} {session : OpenFileSession}
    {stage stage' : SyncStage} (ht : w.tasks[n]? = some (.syncing session stage))
    (hsent : ∀ p, (Task.syncing session stage').sentOf p = none) (hgoes : stage' ≠ .ended) :
    Copies (w.setTask n (.syncing session stage')) := by
  refine h.setTask ht ?_ ?_
  · intro p sent hp
    exact absurd (hp.symm.trans (hsent p)) (Option.some_ne_none sent)
  · intro p content _ hsyncs
    exact Or.inl (syncs_syncing.2 ⟨(syncs_syncing.1 hsyncs).1, hgoes⟩)

/-- A sync fails: if a save was to be uploaded, it is missed. -/
theorem Copies.failSync (h : Copies w) {n : ℕ} {session : OpenFileSession} {stage : SyncStage}
    (ht : w.tasks[n]? = some (.syncing session stage)) :
    Copies ((w.missSync session.localPath).setTask n (.syncing session .ended)) := by
  refine @Copies.setTask (w.missSync session.localPath) (h.missSync session.localPath) n _ _ ht ?_ ?_
  · intro p sent hp
    cases hp
  · intro p content hunsynced hsyncs
    obtain ⟨rfl, -⟩ := syncs_syncing.1 hsyncs
    exact Or.inr (missSync_missed hunsynced)

theorem Copies.retrySync (h : Copies w) {n attempt : ℕ} {session : OpenFileSession}
    {stage : SyncStage} (ht : w.tasks[n]? = some (.syncing session stage)) :
    Copies (if attempt + 1 < syncAttempts then
      w.setTask n (.syncing session (.attempting (attempt + 1)))
    else (w.missSync session.localPath).setTask n (.syncing session .ended)) := by
  split
  · exact h.setSyncing ht (fun _ => rfl) SyncStage.noConfusion
  · exact h.failSync ht

theorem sentOf_uploading {session : OpenFileSession} {attempt : ℕ} {sent sent' : QByteArray}
    (h : (Task.syncing session (.uploading attempt sent)).sentOf p = some sent') :
    session.localPath = p ∧ sent' = sent := by
  unfold Task.sentOf at h
  dsimp only at h
  split at h
  · next hp => exact ⟨hp, (Option.some.inj h).symm⟩
  · cases h

theorem sentOf_self {session : OpenFileSession} {attempt : ℕ} {sent : QByteArray} :
    (Task.syncing session (.uploading attempt sent)).sentOf session.localPath = some sent :=
  if_pos rfl

/-- An upload reads on in a copy that has a content beginning with what was sent. -/
theorem Copies.setUploading (h : Copies w) {n attempt : ℕ} {session : OpenFileSession}
    {stage : SyncStage} {sent content : QByteArray}
    (ht : w.tasks[n]? = some (.syncing session stage))
    (horigin : w.origin session.localPath = .whole)
    (hfile : w.files session.localPath = some content) (hstart : sent <+: content) :
    Copies (w.setTask n (.syncing session (.uploading attempt sent))) := by
  refine h.setTask ht ?_ ?_
  · intro p sent' hp
    obtain ⟨rfl, rfl⟩ := sentOf_uploading hp
    exact ⟨horigin, content, hfile, hstart⟩
  · intro p _ _ hsyncs
    exact Or.inl (syncs_syncing.2 ⟨(syncs_syncing.1 hsyncs).1, SyncStage.noConfusion⟩)

/-- The end of an upload that has read a whole copy. -/
theorem Copies.finishSync (h : Copies w) {n attempt : ℕ} {session : OpenFileSession}
    {sent : QByteArray} (ht : w.tasks[n]? = some (.syncing session (.uploading attempt sent)))
    (hend : ((w.files session.localPath).getD []).length ≤ sent.length) :
    Copies ((w.completeSync session sent).setTask n (.syncing session .ended)) := by
  obtain ⟨horigin, content, hfile, hstart⟩ :=
    h.reading _ (List.mem_of_getElem? ht) session.localPath sent sentOf_self
  rw [hfile, Option.getD_some] at hend
  obtain rfl : sent = content := hstart.eq_of_length_le hend
  have hcomplete : w.complete session.localPath = some sent :=
    (h.whole _ horigin).symm.trans hfile
  have huploads : ∀ upload ∈ w.uploads ++ [⟨session, sent, w.complete session.localPath⟩],
      upload.complete = some upload.sent := by
    intro upload hmem
    rcases List.mem_append.1 hmem with hmem | hmem
    · exact h.uploads upload hmem
    · obtain rfl := List.mem_singleton.1 hmem
      exact hcomplete
  unfold Widget.completeSync
  dsimp only
  split
  · next hsynced =>
    have hkept : Copies { w with
        uploads := w.uploads ++ [⟨session, sent, w.complete session.localPath⟩]
        unsynced := Function.update w.unsynced session.localPath none
        missed := Function.update w.missed session.localPath false } := by
      refine ⟨h.whole, h.reading, ?_, huploads, h.discarded⟩
      intro p content hp
      have hne : p ≠ session.localPath := by
        rintro rfl
        dsimp only at hp
        rw [Function.update_self] at hp
        cases hp
      dsimp only at hp
      rw [Function.update_of_ne hne] at hp
      obtain ⟨hfile', horigin', hedited, hwaits⟩ := h.unsynced p content hp
      refine ⟨hfile', horigin', hedited, waits_iff.2 ?_⟩
      rcases waits_iff.1 hwaits with hchange | hpending | hsync | hmissed
      · exact Or.inl hchange
      · exact Or.inr (Or.inl hpending)
      · exact Or.inr (Or.inr (Or.inl hsync))
      · exact Or.inr (Or.inr (Or.inr ((Function.update_of_ne hne _ _).trans hmissed)))
    refine hkept.setTask ht ?_ ?_
    · intro p sent' hp
      cases hp
    · intro p content hp hsyncs
      obtain ⟨rfl, -⟩ := syncs_syncing.1 hsyncs
      dsimp only at hp
      rw [Function.update_self] at hp
      cases hp
  · next hnot =>
    have hkept : Copies { w with
        uploads := w.uploads ++ [⟨session, sent, w.complete session.localPath⟩] } :=
      ⟨h.whole, h.reading, h.unsynced, huploads, h.discarded⟩
    refine hkept.setTask ht ?_ ?_
    · intro p sent' hp
      cases hp
    · intro p content hp hsyncs
      obtain ⟨rfl, -⟩ := syncs_syncing.1 hsyncs
      obtain ⟨hsaved, -⟩ := h.unsynced _ content hp
      have hunsynced : w.unsynced session.localPath = some content := hp
      exact absurd (hunsynced.trans (hsaved.symm.trans hfile)) hnot

theorem discard_tasks (w : Widget) (localPath : QString) :
    (w.discard localPath).tasks = w.tasks := by
  unfold Widget.discard
  split <;> rfl

theorem truncate_tasks (w : Widget) (n : ℕ) (localPath : QString) :
    (w.truncate n localPath).tasks = w.tasks :=
  discard_tasks w localPath

theorem download_tasks (w : Widget) (n : ℕ) (localPath : QString) (offset : ℕ)
    (data : QByteArray) : (w.download n localPath offset data).tasks = w.tasks :=
  discard_tasks w localPath

theorem completeDownload_tasks (w : Widget) (n : ℕ) (localPath : QString) (offset size : ℕ) :
    (w.completeDownload n localPath offset size).tasks = w.tasks := by
  unfold Widget.completeDownload
  split
  · rfl
  split <;> rfl

theorem Copies.workOpening (h : Copies w) {n : ℕ} {connectionId remotePath localPath : QString}
    {stage : OpenStage} {event : OpenEvent}
    (ht : w.tasks[n]? = some (.opening connectionId remotePath localPath stage))
    (hundisturbed : w.undisturbed (.opening n event) = true)
    (hstep : w.workOpening n connectionId remotePath localPath stage event = some w') :
    Copies w' := by
  simp only [Widget.undisturbed, ht] at hundisturbed
  unfold Widget.workOpening at hstep
  dsimp only at hstep
  split at hstep
  · obtain rfl := Option.some.inj hstep
    exact h.setOpening ht
  · next size =>
    obtain rfl := Option.some.inj hstep
    rw [Bool.and_eq_true, Bool.or_eq_true, Bool.not_eq_true', Bool.not_eq_true'] at hundisturbed
    have htruncated : Copies (w.truncate n localPath) :=
      h.truncate hundisturbed.1 fun hedited => hundisturbed.2.resolve_left fun hnot =>
        absurd (hedited.symm.trans hnot) (by decide)
    exact htruncated.setOpening ((truncate_tasks w n localPath).symm ▸ ht)
  · next offset size data =>
    split at hstep
    · obtain rfl := Option.some.inj hstep
      have hdownloaded : Copies (w.download n localPath offset data) :=
        h.download (of_decide_eq_true hundisturbed)
      exact hdownloaded.setOpening ((download_tasks w n localPath offset data).symm ▸ ht)
    · cases hstep
  · next offset size part =>
    split at hstep
    · obtain rfl := Option.some.inj hstep
      exact h.setOpening ht
    · next hpart =>
      obtain rfl := Option.some.inj hstep
      rw [Bool.or_eq_true, decide_eq_true_eq, decide_eq_true_eq] at hundisturbed
      have hdownloaded : Copies (w.download n localPath offset part) :=
        h.download (hundisturbed.resolve_left hpart)
      exact hdownloaded.setOpening ((download_tasks w n localPath offset part).symm ▸ ht)
  · next offset size =>
    obtain rfl := Option.some.inj hstep
    have hcompleted : Copies (w.completeDownload n localPath offset size) := h.completeDownload
    exact hcompleted.setOpening ((completeDownload_tasks w n localPath offset size).symm ▸ ht)
  · split at hstep
    · obtain rfl := Option.some.inj hstep
      have hregistered : Copies { w with
          registrations := w.registrations ++ [⟨connectionId, remotePath, localPath⟩] } :=
        ⟨h.whole, h.reading, h.unsynced, h.uploads, h.discarded⟩
      exact hregistered.setOpening ht
    · obtain rfl := Option.some.inj hstep
      exact h.setOpening ht
  · cases hstep

theorem append_take_isPrefix {sent content : QByteArray} (h : sent <+: content) (size : ℕ) :
    sent ++ (content.drop sent.length).take size <+: content := by
  obtain ⟨rest, rfl⟩ := h
  rw [List.drop_left]
  exact (List.prefix_append_right_inj sent).2 (List.take_prefix size rest)

theorem Copies.workSyncing (h : Copies w) {n : ℕ} {session : OpenFileSession} {stage : SyncStage}
    {event : SyncEvent} (ht : w.tasks[n]? = some (.syncing session stage))
    (hundisturbed : w.undisturbed (.syncing n event) = true)
    (hstep : w.workSyncing n session stage event = some w') : Copies w' := by
  unfold Widget.workSyncing at hstep
  dsimp only at hstep
  split at hstep
  · obtain rfl := Option.some.inj hstep
    exact h.setSyncing ht (fun _ => rfl) SyncStage.noConfusion
  · obtain rfl := Option.some.inj hstep
    exact h.failSync ht
  · obtain rfl := Option.some.inj hstep
    exact h.retrySync ht
  · obtain rfl := Option.some.inj hstep
    exact h.retrySync ht
  · obtain rfl := Option.some.inj hstep
    exact h.failSync ht
  · obtain rfl := Option.some.inj hstep
    exact h.failSync ht
  · split at hstep
    · next hsome =>
      obtain rfl := Option.some.inj hstep
      obtain ⟨content, hfile⟩ := Option.isSome_iff_exists.1 hsome
      simp only [Widget.undisturbed, ht, decide_eq_true_eq] at hundisturbed
      exact h.setUploading ht hundisturbed hfile List.nil_prefix
    · cases hstep
  · split at hstep
    · cases hstep
    · next attempt sent size hrest =>
      obtain rfl := Option.some.inj hstep
      obtain ⟨horigin, content, hfile, hstart⟩ :=
        h.reading _ (List.mem_of_getElem? ht) session.localPath sent sentOf_self
      rw [hfile, Option.getD_some]
      exact h.setUploading ht horigin hfile (append_take_isPrefix hstart size)
  · split at hstep
    · next hend =>
      obtain rfl := Option.some.inj hstep
      exact h.finishSync ht hend
    · cases hstep
  · cases hstep

theorem Copies.openRemoteFile (h : Copies w) (localPathFor : QString → QString → QString)
    (remotePath : QString) : Copies (w.openRemoteFile localPathFor remotePath) := by
  unfold Widget.openRemoteFile
  split
  · exact h
  refine ⟨h.whole, ?_, ?_, h.uploads, h.discarded⟩
  · intro task hmem p sent hsent
    rcases List.mem_append.1 hmem with hmem | hmem
    · exact h.reading task hmem p sent hsent
    · obtain rfl := List.mem_singleton.1 hmem
      cases hsent
  · intro p content hp
    obtain ⟨hfile, horigin, hedited, hwaits⟩ := h.unsynced p content hp
    refine ⟨hfile, horigin, hedited, waits_iff.2 ?_⟩
    rcases waits_iff.1 hwaits with hchange | hpending | ⟨task, hmem, hsyncs⟩ | hmissed
    · exact Or.inl hchange
    · exact Or.inr (Or.inl hpending)
    · exact Or.inr (Or.inr (Or.inl ⟨task, List.mem_append_left _ hmem, hsyncs⟩))
    · exact Or.inr (Or.inr (Or.inr hmissed))

/-- An editor saves a copy of which no upload has read a part. -/
theorem Copies.editorSaves (h : Copies w) {content : QByteArray} (hunread : w.unread p = true) :
    Copies (w.editorSaves p content) := by
  unfold Widget.editorSaves
  refine ⟨?_, ?_, ?_, h.uploads, h.discarded⟩
  · intro q horigin
    by_cases hq : q = p
    · subst hq
      exact (Function.update_self q (some content) w.files).trans
        (Function.update_self q (some content) w.complete).symm
    · dsimp only at horigin
      rw [Function.update_of_ne hq] at horigin
      exact (Function.update_of_ne hq _ _).trans
        ((h.whole q horigin).trans (Function.update_of_ne hq _ _).symm)
  · intro task hmem q sent hsent
    by_cases hq : q = p
    · subst hq
      obtain rfl := unread_iff.1 hunread task hmem sent hsent
      exact ⟨Function.update_self _ _ _, content, Function.update_self _ _ _, List.nil_prefix⟩
    · obtain ⟨horigin, content', hfile, hstart⟩ := h.reading task hmem q sent hsent
      exact ⟨(Function.update_of_ne hq _ _).trans horigin, content',
        (Function.update_of_ne hq _ _).trans hfile, hstart⟩
  · intro q content' hunsynced
    by_cases hq : q = p
    · subst hq
      dsimp only at hunsynced
      rw [Function.update_self] at hunsynced
      obtain rfl := Option.some.inj hunsynced
      refine ⟨Function.update_self _ _ _, Function.update_self _ _ _,
        Function.update_self _ _ _, waits_iff.2 ?_⟩
      cases hwatched : w.watched q with
      | true =>
        refine Or.inl ?_
        unfold Widget.write
        dsimp only
        rw [if_pos hwatched]
        exact List.mem_append_right _ List.mem_cons_self
      | false =>
        refine Or.inr (Or.inr (Or.inr ?_))
        dsimp only
        rw [Function.update_self, Bool.not_false]
    · dsimp only at hunsynced
      rw [Function.update_of_ne hq] at hunsynced
      obtain ⟨hfile, horigin, hedited, hwaits⟩ := h.unsynced q content' hunsynced
      refine ⟨(Function.update_of_ne hq _ _).trans hfile,
        (Function.update_of_ne hq _ _).trans horigin,
        (Function.update_of_ne hq _ _).trans hedited, waits_iff.2 ?_⟩
      rcases waits_iff.1 hwaits with hchange | hpending | hsync | hmissed
      · exact Or.inl (@mem_write_changes w p content q hchange)
      · exact Or.inr (Or.inl hpending)
      · exact Or.inr (Or.inr (Or.inl hsync))
      · exact Or.inr (Or.inr (Or.inr ((Function.update_of_ne hq _ _).trans hmissed)))

theorem Copies.unwatch (h : Copies w) (localPath : QString) : Copies (w.unwatch localPath) := by
  refine ⟨h.whole, h.reading, ?_, h.uploads, h.discarded⟩
  intro p content hp
  obtain ⟨hfile, horigin, hedited, hwaits⟩ := h.unsynced p content hp
  refine ⟨hfile, horigin, hedited, waits_iff.2 ?_⟩
  rcases waits_iff.1 hwaits with hchange | hrest
  · exact Or.inl (List.mem_append_left _ hchange)
  · exact Or.inr hrest

/-- A reported change makes its path wait for the timer. -/
theorem Copies.fileChanged (h : Copies w) (hlinks : Links w) (hmem : p ∈ w.changes) :
    Copies ({ w with changes := w.changes.erase p }.scheduleOpenFileSync p) := by
  obtain ⟨session, hsession⟩ := Option.isSome_iff_exists.1 (hlinks.changes p hmem)
  unfold Widget.scheduleOpenFileSync
  rw [if_neg (by rw [hsession]; exact Bool.false_ne_true)]
  have hpending : p ∈ (if p ∈ w.pending then w.pending else w.pending ++ [p]) ∧
      ∀ q ∈ w.pending, q ∈ (if p ∈ w.pending then w.pending else w.pending ++ [p]) := by
    split
    · next hp => exact ⟨hp, fun q hq => hq⟩
    · exact ⟨List.mem_append_right _ List.mem_cons_self, fun q hq => List.mem_append_left _ hq⟩
  refine ⟨h.whole, h.reading, ?_, h.uploads, h.discarded⟩
  intro q content hq
  obtain ⟨hfile, horigin, hedited, hwaits⟩ := h.unsynced q content hq
  refine ⟨hfile, horigin, hedited, waits_iff.2 ?_⟩
  rcases waits_iff.1 hwaits with hchange | hwaiting | hrest
  · by_cases hp : q = p
    · subst hp
      exact Or.inr (Or.inl hpending.1)
    · exact Or.inl ((List.mem_erase_of_ne hp).2 hchange)
  · exact Or.inr (Or.inl (hpending.2 q hwaiting))
  · exact Or.inr (Or.inr hrest)

/-- The timer starts a sync for each copy that waits for it. -/
theorem Copies.flushPendingOpenFileSyncs (h : Copies w) (hlinks : Links w) :
    Copies w.flushPendingOpenFileSyncs := by
  refine ⟨h.whole, ?_, ?_, h.uploads, h.discarded⟩
  · intro task hmem p sent hsent
    rcases List.mem_append.1 hmem with hmem | hmem
    · exact h.reading task hmem p sent hsent
    · obtain ⟨session, rfl⟩ := mem_syncTask hmem
      cases hsent
  · intro p content hp
    obtain ⟨hfile, horigin, hedited, hwaits⟩ := h.unsynced p content hp
    refine ⟨hfile, horigin, hedited, waits_iff.2 ?_⟩
    rcases waits_iff.1 hwaits with hchange | hpending | ⟨task, hmem, hsyncs⟩ | hmissed
    · exact Or.inl hchange
    · obtain ⟨session, hsession⟩ := Option.isSome_iff_exists.1 (hlinks.pending p hpending)
      obtain ⟨hlocal, hid, hremote⟩ := hlinks.session p session hsession
      have htask : w.syncTask p = some (.syncing session .queued) := by
        unfold Widget.syncTask
        rw [hsession, Option.bind_some, hlocal, hfile, if_neg]
        simp [hid, hremote]
      refine Or.inr (Or.inr (Or.inl ⟨.syncing session .queued, ?_, ?_⟩))
      · exact List.mem_append_right _ (List.mem_filterMap.2 ⟨p, hpending, htask⟩)
      · exact syncs_syncing.2 ⟨hlocal, SyncStage.noConfusion⟩
    · exact Or.inr (Or.inr (Or.inl ⟨task, List.mem_append_left _ hmem, hsyncs⟩))
    · exact Or.inr (Or.inr (Or.inr hmissed))

/-! ## Runs -/

/-- What the widget keeps. -/
structure Inv (w : Widget) : Prop where
  links : Links w
  copies : Copies w

theorem Inv.step (h : Inv w) {localPathFor : QString → QString → QString} {a : OpenAction}
    (hundisturbed : w.undisturbed a = true) (hstep : w.step localPathFor a = some w') :
    Inv w' := by
  refine ⟨h.links.step hstep, ?_⟩
  obtain ⟨hlinks, h⟩ := h
  cases a with
  | setConnection connectionId =>
    obtain rfl := Option.some.inj hstep
    exact ⟨h.whole, h.reading, h.unsynced, h.uploads, h.discarded⟩
  | openRemoteFile remotePath =>
    obtain rfl := Option.some.inj hstep
    exact h.openRemoteFile localPathFor remotePath
  | opening n event =>
    rw [Widget.step] at hstep
    split at hstep
    · next htask => exact h.workOpening htask hundisturbed hstep
    · cases hstep
  | syncing n event =>
    rw [Widget.step] at hstep
    split at hstep
    · next htask => exact h.workSyncing htask hundisturbed hstep
    · cases hstep
  | register =>
    rw [Widget.step] at hstep
    split at hstep
    · cases hstep
    · obtain rfl := Option.some.inj hstep
      unfold Widget.registerOpenFileSession
      dsimp only
      split
      · exact ⟨h.whole, h.reading, h.unsynced, h.uploads, h.discarded⟩
      · exact ⟨h.whole, h.reading, h.unsynced, h.uploads, h.discarded⟩
  | editorSaves localPath content =>
    rw [Widget.step] at hstep
    split at hstep
    · obtain rfl := Option.some.inj hstep
      exact h.editorSaves hundisturbed
    · cases hstep
  | unwatch localPath =>
    rw [Widget.step] at hstep
    split at hstep
    · obtain rfl := Option.some.inj hstep
      exact h.unwatch localPath
    · cases hstep
  | fileChanged localPath =>
    rw [Widget.step] at hstep
    split at hstep
    · next hmem =>
      obtain rfl := Option.some.inj hstep
      exact h.fileChanged hlinks hmem
    · cases hstep
  | timeout =>
    rw [Widget.step] at hstep
    split at hstep
    · obtain rfl := Option.some.inj hstep
      have hflushed := h.flushPendingOpenFileSyncs hlinks
      exact ⟨hflushed.whole, hflushed.reading, hflushed.unsynced, hflushed.uploads,
        hflushed.discarded⟩
    · cases hstep

/-- Every upload has sent the content last saved or completely downloaded, and no save was
    overwritten before it was uploaded. -/
def Synchronised (w : Widget) : Prop :=
  (∀ upload ∈ w.uploads, upload.complete = some upload.sent) ∧ w.discarded = []

open Transitions

/-- In every run of undisturbed steps, from any leftover local copies, the open files stay
    synchronised. -/
theorem openFiles_synchronised {localPathFor : QString → QString → QString}
    {files : QString → Option QByteArray} {actions : List OpenAction} {w : Widget}
    (hrun : run (Widget.step localPathFor) { files } actions = some w)
    (hundisturbed : ∀ m a, Taken (Widget.step localPathFor) { files } actions m a →
      m.undisturbed a = true) : Synchronised w := by
  have hinv : Inv w :=
    run_invariant_taken (fun _ _ _ hs hC hstep => hs.step hC hstep) hrun hundisturbed
      ⟨links_start, copies_start⟩
  exact ⟨hinv.copies.uploads, hinv.copies.discarded⟩

/-! ### A document that is opened twice -/

/-- The local copy of a document. -/
def docCopy : QString :=
  qStringLiteral "/cache/remote-files/d2/" ++
    qStringLiteral "d21e77f480bd1516c346cef3db180660fdb0e0d7882df0735cd83201ad744978"

/-- The document is opened, downloaded and registered. -/
def openDoc : List OpenAction :=
  [.setConnection (qStringLiteral "office"), .openRemoteFile (qStringLiteral "/doc"),
    .opening 0 (.truncate 3), .opening 0 (.chunk [1, 2, 3]), .opening 0 .finish,
    .opening 0 (.openLocalFile true), .register]

/-- The change of the local copy is reported, and the timer runs out. -/
def reportChange : List OpenAction := [.fileChanged docCopy, .timeout]

/-- An editor saves it, the save is uploaded, and the document is opened again. -/
def saveAndReopen : List OpenAction :=
  openDoc ++ .editorSaves docCopy [4, 5] :: reportChange ++
    [.syncing 1 .start, .syncing 1 .openFile, .syncing 1 (.chunk 2), .syncing 1 .finish,
      .openRemoteFile (qStringLiteral "/doc"), .opening 2 (.truncate 2),
      .opening 2 (.chunk [4, 5]), .opening 2 .finish]

/-- It is opened again, the download is cancelled, and a sync follows. -/
def cancelReopen : List OpenAction :=
  openDoc ++ [.openRemoteFile (qStringLiteral "/doc"), .opening 1 (.truncate 3),
    .opening 1 (.stop [])] ++ reportChange ++
    [.syncing 2 .start, .syncing 2 .openFile, .syncing 2 .finish]

/-- An editor saves it, and it is opened again before the timer runs out. -/
def reopenUnsynced : List OpenAction :=
  openDoc ++ [.editorSaves docCopy [4, 5], .openRemoteFile (qStringLiteral "/doc"),
    .opening 1 (.truncate 3)]

theorem openFiles_synchronised_doc :
    ∃ w, run (Widget.step fun _ _ => docCopy) { } saveAndReopen = some w ∧
      w.uploads.map (·.sent) = [[4, 5]] ∧ Synchronised w := by
  obtain ⟨w, hrun, huploads⟩ : ∃ w,
      run (guarded Widget.undisturbed (Widget.step fun _ _ => docCopy)) { } saveAndReopen = some w ∧
        w.uploads.map (·.sent) = [[4, 5]] :=
    Option.map_eq_some_iff.1 (by decide +kernel)
  obtain ⟨hrun, htaken⟩ := run_guarded hrun
  exact ⟨w, hrun, huploads, openFiles_synchronised hrun htaken⟩

/-- The remains of a cancelled download are uploaded, and a save is overwritten. -/
theorem openFiles_not_synchronised :
    (¬ ∀ (localPathFor : QString → QString → QString) (actions : List OpenAction) (w : Widget),
      run (Widget.step localPathFor) { } actions = some w →
      ∀ upload ∈ w.uploads, upload.complete = some upload.sent) ∧
    ¬ ∀ (localPathFor : QString → QString → QString) (actions : List OpenAction) (w : Widget),
      run (Widget.step localPathFor) { } actions = some w → w.discarded = [] := by
  constructor
  · intro h
    obtain ⟨w, hrun, huploads⟩ : ∃ w,
        run (Widget.step fun _ _ => docCopy) { } cancelReopen = some w ∧
          w.uploads.map (fun upload => (upload.sent, upload.complete)) =
            [([], some [1, 2, 3])] :=
      Option.map_eq_some_iff.1 (by decide +kernel)
    obtain ⟨upload, hmem, hupload⟩ := List.mem_map.1 (huploads ▸ List.mem_cons_self :
      ([], some [1, 2, 3]) ∈ w.uploads.map fun upload => (upload.sent, upload.complete))
    obtain ⟨hsent, hcomplete⟩ := Prod.mk.inj hupload
    have hsame := h _ _ w hrun upload hmem
    rw [hsent, hcomplete] at hsame
    cases hsame
  · intro h
    obtain ⟨w, hrun, hdiscarded⟩ : ∃ w,
        run (Widget.step fun _ _ => docCopy) { } reopenUnsynced = some w ∧
          w.discarded = [(docCopy, [4, 5])] :=
      Option.map_eq_some_iff.1 (by decide +kernel)
    rw [h _ _ w hrun] at hdiscarded
    cases hdiscarded

end Widget

end OpenFiles

end SmbBrowser.Ui
