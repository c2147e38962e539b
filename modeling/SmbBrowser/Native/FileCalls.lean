import SmbBrowser.Native.ServerCalls

/-!
# Calls that make, rename, read and write files

What `createDirectory`, `renameObject`, `readFileOnce` and `writeFileOnce`
(native_smb/NativeSmbSession.cpp) do to the tree of a file server.

Results:
* `meets_createDirectory`, `meets_renameObject`: a success is the change that was asked for,
  and a failure is that change or none;
* `meets_readFileOnce`: the tree stays, and the data are those of the file;
* `meets_writeFileOnce`: a success puts the acknowledged data into the file, which a first
  write makes, and a failure puts a part of the data there or does nothing.
-/

namespace SmbBrowser.Native

open SmbBrowser.Base

namespace FileServer

/-- The server answers whatever the client sends. -/
abbrev serves (server : FileServer) : Contract Wire ServerState :=
  server.contract false fun _ _ => True

section

variable {server : FileServer} {s s' : ServerState} {context : OperationContext} {messageId : ℕ}
  {treeId : UInt32} {sessionId : UInt64} {path : ByteVector} {session : Session}
  {fileId : FileId} {file : OpenFile} {body : RequestBody}

theorem maySend : MaySend false (fun _ _ => True) s body := ⟨by rintro ⟨⟩, trivial⟩

theorem serves_statObject :
    MeetsS server.serves (Session.statObject path context)
      (fun r _ s' => Stats statesObject server s path r s') session s :=
  meets_statObject (fun _ _ _ => trivial) (by rintro ⟨⟩)

theorem serves_deleteObject {directory : Bool} :
    MeetsS server.serves (Session.deleteObject path directory context)
      (fun r _ s' => DeletesObject server s path r s') session s :=
  meets_deleteObject trivial (fun _ _ _ => trivial) (fun _ _ => trivial) (by rintro ⟨⟩)

/-- CLOSE of an open file that is to stay. -/
theorem meets_closeKept (hfile : s.openFiles fileId = some file)
    (hkeep : file.deletePending = false) :
    MeetsE server.serves (closeExchanger messageId treeId sessionId context { fileId })
      (Ends (fun s' => s'.objects = s.objects) (fun _ _ => True) True) s := by
  refine (meets_closeExchanger maySend).mono ?_
  rintro (e | r) s' h
  · exact .of_throw (by rw [show s' = s from h])
  obtain ⟨-, hobjects⟩ := h.closes hfile
  rw [close_objects_of_kept hkeep, or_self] at hobjects
  cases r with
  | error e => exact h.2.ends hobjects rfl
  | ok a => exact .of_ok hobjects trivial

/-- The same at the end of a call. -/
theorem meets_closeAndReturn (hfile : s.openFiles fileId = some file)
    (hkeep : file.deletePending = false) :
    MeetsE server.serves (closeAndReturn messageId treeId sessionId context fileId)
      (Ends (fun s' => s'.objects = s.objects) (fun (_ : RemoteObjectResult) _ => True) True) s := by
  rw [closeAndReturn]
  refine meetsE_bind.2 ((meets_closeKept hfile hkeep).mono ?_)
  rintro (e | e | a) s' h
  · exact .of_throw h.always
  · exact h.handed id rfl id
  · exact .of_ok h.always trivial

/-- What a CREATE that was not taken as granted left. -/
theorem Left.opened {options : CreateRequestOptions} (h : server.Left s (.create options) s') :
    s'.objects = s.objects ∨
      ∃ create m, server.Opens s options create m ∧ s'.objects = m.objects := by
  obtain hsame | ⟨reply, m, ⟨create, -, hopens⟩, hsame⟩ := h.objects_cases
  · exact .inl hsame
  · exact .inr ⟨create, m, hopens, hsame⟩

/-! ## Directories -/

/-- A directory comes to be at a path. -/
structure MakesDirectory (objects : Objects) (path : ServerPath) (objects' : Objects) : Prop where
  absent : objects path = none
  parent : FileTree.HasParent FileObject.Holds objects path
  objects' : objects' = objects.set path { directory := true }

theorem actsOn_directoryCreateOptions :
    server.actsOn (directoryCreateOptions path) = server.target path := by
  refine actsOn_of_plain ?_
  show kFileDirectoryFile &&& kFileOpenReparsePoint = 0
  decide

theorem Opens.makesDirectory {create : CreateResponse}
    (h : server.Opens s (directoryCreateOptions path) create s') :
    MakesDirectory s.objects (server.target path) s'.objects := by
  obtain ⟨habsent, hmade⟩ := (disposes_create rfl).1 h.objects
  have hparent := h.parent habsent
  rw [actsOn_directoryCreateOptions] at habsent hmade hparent
  have hflag : decide (kFileDirectoryFile &&& kFileDirectoryFile ≠ 0) = true := by decide
  refine ⟨habsent, hparent, hmade.trans ?_⟩
  rw [show decide ((directoryCreateOptions path).createOptions &&& kFileDirectoryFile ≠ 0) = true
    from hflag]

/-- How `createDirectory` ends. -/
abbrev CreatesDirectory {α : Type} (server : FileServer) (s : ServerState) (path : ByteVector) :
    Except Exn (DecodeResult α) → ServerState → Prop :=
  Ends (fun s' => s'.objects = s.objects ∨
      MakesDirectory s.objects (server.target path) s'.objects)
    (fun _ s' => MakesDirectory s.objects (server.target path) s'.objects) True

theorem meets_objectCreateDirectory :
    MeetsE server.serves (objectCreateDirectory messageId treeId sessionId context path)
      (CreatesDirectory server s path) s := by
  rw [objectCreateDirectory, withObject]
  refine meetsE_bind.2 (meets_look (.of_cancelled (.inl rfl)) ?_)
  refine meetsE_bind.2 ((meets_openFile maySend).mono ?_)
  rintro (e | e | create) s₁ h
  · exact .of_throw (.inl (by rw [show s₁ = s from h]))
  · refine h.2.ends ?_ rfl
    obtain hsame | ⟨create, m, hopens, hsame⟩ := h.1.opened
    · exact .inl hsame
    · exact .inr (hsame ▸ hopens.makesDirectory)
  have hmade := h.opens.makesDirectory
  refine meetsE_bind.2 (meets_look (.of_cancelled (.inr hmade)) ?_)
  refine (meets_closeAndReturn h.opens.openFiles_eq rfl).mono fun r s₂ hclosed => ?_
  have hstill : MakesDirectory s.objects (server.target path) s₂.objects := hclosed.always ▸ hmade
  exact ⟨.inr hstill, fun _ _ => hstill, hclosed.error⟩

theorem meets_createDirectory :
    MeetsS server.serves (Session.createDirectory path context)
      (fun r _ s' => CreatesDirectory server s path r s') session s := by
  refine meetsS_withAllocatedIds fun m t sid => meets_objectCreateDirectory.mono ?_
  rintro (e | e | a) s' h
  · exact .of_throw h.always
  · exact fun e' hcode => h.handed id hcode id
  · exact .of_ok h.always (h.success a rfl)

/-! ## Renaming -/

/-- What is at a path and below it comes to be at another. -/
structure MovesObject (objects : Objects) (source target : ServerPath) (replaceIfExists : Bool)
    (objects' : Objects) : Prop where
  present : objects source ≠ none
  free : replaceIfExists = true ∨ objects target = none ∨ target = source
  apart : source <+: target → target = source
  parent : FileTree.HasParent FileObject.Holds objects target
  objects' : objects' = objects.move source target

/-- How `renameObject` ends. -/
abbrev RenamesObject {α : Type} (server : FileServer) (s : ServerState)
    (fromPath toPath : ByteVector) (replaceIfExists : Bool) :
    Except Exn (DecodeResult α) → ServerState → Prop :=
  Ends (fun s' => s'.objects = s.objects ∨ MovesObject s.objects (server.target fromPath)
      (server.locate toPath) replaceIfExists s'.objects)
    (fun _ s' => MovesObject s.objects (server.target fromPath) (server.locate toPath)
      replaceIfExists s'.objects) True

theorem Renames.movesObject {options : SetInfoRequestOptions} {toPath : ByteVector}
    {replaceIfExists : Bool} (h : server.Renames s options file s')
    (hbuild : buildFileRenameInformation toPath replaceIfExists = .ok options.buffer) :
    MovesObject s.objects file.path (server.locate toPath) replaceIfExists s'.objects := by
  obtain ⟨target, hpresent, htarget, hapart, hparent, rfl⟩ := h.state
  obtain ⟨rfl, hfree⟩ := htarget toPath replaceIfExists hbuild
  exact ⟨hpresent, hfree, hapart, hparent, rfl⟩

theorem Grants.renames {options : SetInfoRequestOptions} {reply : DecodeResult ByteVector}
    (h : server.Grants s (.setInfo options) reply s')
    (hclass : options.fileInfoClass = kFileRenameInformation)
    (hfile : s.openFiles options.fileId = some file) : server.Renames s options file s' := by
  obtain ⟨response, file', -, hfile', hsets⟩ := h
  rw [hfile] at hfile'
  cases hfile'
  have hother : options.fileInfoClass ≠ kFileDispositionInformation := by
    rw [hclass]
    decide
  rw [SetsInfo, if_neg hother, if_pos hclass] at hsets
  exact hsets

theorem Renames.openFiles {options : SetInfoRequestOptions}
    (h : server.Renames s options file s') :
    ∃ target, s'.openFiles options.fileId = some { file with path := target } := by
  obtain ⟨target, -, -, -, -, rfl⟩ := h.state
  exact ⟨target, ServerState.openFiles_setOpen _ _ _⟩

theorem meets_objectRename {toPath : ByteVector} {replaceIfExists : Bool} :
    MeetsE server.serves
      (objectRename messageId treeId sessionId context path toPath replaceIfExists)
      (RenamesObject server s path toPath replaceIfExists) s := by
  have hat := actsOn_openForMutation server path false
  rw [objectRename, setInfoOnObject, withObject]
  refine meetsE_bind.2 (meets_look (.of_cancelled (.inl rfl)) ?_)
  refine meetsE_bind.2 ((meets_openFile maySend).mono ?_)
  rintro (e | e | create) s₁ h
  · exact .of_throw (.inl (by rw [show s₁ = s from h]))
  · exact h.2.ends (.inl (h.1.objects_open rfl)) rfl
  obtain ⟨hkept₁, -⟩ := h.opens.objects_eq rfl
  have hfile := h.opens.openFiles_eq
  rw [hat] at hfile
  refine meetsE_bind.2 (meets_look (.of_cancelled (.inl hkept₁)) ?_)
  simp only [Bool.false_eq_true, if_false]
  refine meetsE_ofExcept.2 ?_
  cases hbuild : buildFileRenameInformation toPath replaceIfExists with
  | error e => exact .of_throw (.inl hkept₁)
  | ok buffer =>
  have hmoves : ∀ {options : SetInfoRequestOptions} {m : ServerState},
      server.Renames s₁ options { path := server.target path } m → options.buffer = buffer →
      MovesObject s.objects (server.target path) (server.locate toPath) replaceIfExists
        m.objects := by
    intro options m hrenames hbuffer
    rw [← hkept₁]
    exact hrenames.movesObject (hbuild.trans (by rw [hbuffer]))
  refine meetsE_bind.2 ((meets_setInfoExchanger maySend).mono ?_)
  rintro (e | e | renamed) s₂ h₂
  · exact .of_throw (.inl (by rw [show s₂ = s₁ from h₂, hkept₁]))
  · refine h₂.2.ends ?_ rfl
    obtain hsame | ⟨reply, m, hgrants, hsame⟩ := h₂.1.objects_cases
    · exact .inl (hsame.trans hkept₁)
    · exact .inr (hsame ▸ hmoves (hgrants.renames rfl hfile) rfl)
  obtain ⟨reply, -, hgrants⟩ := h₂
  have hrenames := hgrants.renames rfl hfile
  obtain ⟨target, hfile₂⟩ := hrenames.openFiles
  refine (meets_closeAndReturn hfile₂ rfl).mono fun r s₃ hclosed => ?_
  have hmoved : MovesObject s.objects (server.target path) (server.locate toPath)
      replaceIfExists s₃.objects :=
    hclosed.always ▸ hmoves hrenames rfl
  exact ⟨.inr hmoved, fun _ _ => hmoved, hclosed.error⟩

theorem meets_renameObject {toPath : ByteVector} {replaceIfExists : Bool} :
    MeetsS server.serves (Session.renameObject path toPath replaceIfExists context)
      (fun r _ s' => RenamesObject server s path toPath replaceIfExists r s') session s := by
  refine meetsS_withAllocatedIds fun m t sid => meets_objectRename.mono ?_
  rintro (e | e | a) s' h
  · exact .of_throw h.always
  · exact fun e' hcode => h.handed id hcode id
  · exact .of_ok h.always (h.success a rfl)

/-! ## Reading -/

/-- What a READ of a file gets. -/
structure ReadsFrom (objects : Objects) (path : ServerPath) (length : UInt32) (offset : UInt64)
    (data : ByteVector) : Prop where
  read : ∃ object, objects path = some object ∧ object.directory = false ∧
    data <+: (object.content.drop offset.toNat).take length.toNat ∧
    (data = [] → (object.content.drop offset.toNat).take length.toNat = [])

/-- How a read ends. -/
abbrev ReadsFile {α : Type} (server : FileServer) (s : ServerState) (path : ByteVector)
    (length : UInt32) (offset : UInt64) (data : α → ByteVector) :
    Except Exn (DecodeResult α) → ServerState → Prop :=
  Ends (fun s' => s'.objects = s.objects)
    (fun a _ => ReadsFrom s.objects (server.target path) length offset (data a)) True

theorem Left.objects_read {options : ReadRequestOptions} (h : server.Left s (.read options) s') :
    s'.objects = s.objects := by
  refine h.objects_eq ?_
  rintro reply m ⟨response, file, -, -, -, rfl⟩
  rfl

theorem actsOn_readFileOptions : server.actsOn (readFileOptions path) = server.target path := by
  refine actsOn_of_plain ?_
  show kFileNonDirectoryFile &&& kFileOpenReparsePoint = 0
  decide

theorem meets_readExchanger {options : ReadRequestOptions} :
    MeetsE server.serves (readExchanger messageId treeId sessionId context options)
      (Follows (server.Outcome s (.read options) decodeReadResponse) s) s :=
  meets_exchangeResponse maySend fun _ => rfl

theorem meets_fileReader {length : UInt32} {offset : UInt64} :
    MeetsE server.serves (fileReader messageId treeId sessionId context path length offset)
      (ReadsFile server s path length offset (·.data)) s := by
  have hat : server.actsOn (readFileOptions path) = server.target path := actsOn_readFileOptions
  rw [fileReader]
  refine meetsE_bind.2 (meets_look (.of_cancelled rfl) ?_)
  refine meetsE_bind.2 ((meets_createPayload maySend).mono ?_)
  rintro (e | e | createPayload) s₁ hcreate
  · exact .of_throw (by rw [show s₁ = s from hcreate])
  · exact hcreate.2.ends (hcreate.1.objects_open rfl) rfl
  have hcreated := hcreate.created
  have hkept₁ : s₁.objects = s.objects := by
    cases h : decodeCreateResponse createPayload with
    | ok create =>
      rw [h] at hcreated
      exact (hcreated.opens.objects_eq rfl).1
    | error e =>
      rw [h] at hcreated
      exact hcreated.1.objects_open rfl
  refine meetsE_bind.2 (meets_look (.of_cancelled hkept₁) ?_)
  simp only [Bool.false_eq_true, if_false]
  cases hdecoded : decodeCreateResponse createPayload with
  | error e =>
    rw [hdecoded] at hcreated
    exact hcreated.2.ends hkept₁ rfl
  | ok create =>
  rw [hdecoded] at hcreated
  have hopens := hcreated.opens
  have hfile := hopens.openFiles_eq
  rw [hat] at hfile
  refine meetsE_bind.2 (meets_readExchanger.mono ?_)
  rintro (e | e | read) s₂ hread
  · exact .of_throw (by rw [show s₂ = s₁ from hread, hkept₁])
  · exact hread.2.ends (hread.1.objects_read.trans hkept₁) rfl
  obtain ⟨reply, hreply, response, file, hreply', hfile', hreads, rfl⟩ := hread
  rw [hreply] at hreply'
  cases hreply'
  rw [hfile] at hfile'
  cases hfile'
  obtain ⟨object, hobject, hdata, hnone⟩ := hreads.data
  have hplain : object.directory = false := by
    refine hopens.fits ?_ object ?_
    · show kFileNonDirectoryFile &&& kFileNonDirectoryFile ≠ 0
      decide
    · rw [hat, ← hkept₁]
      exact hobject
  refine meetsE_bind.2 ((meets_closeKept hfile rfl).mono ?_)
  rintro (e | e | a) s₃ hclosed
  · exact .of_throw (hclosed.always.trans hkept₁)
  · exact hclosed.handed (fun hsame => hsame.trans hkept₁) rfl id
  · rw [hkept₁] at hobject
    exact .of_ok (hclosed.always.trans hkept₁) ⟨object, hobject, hplain, hdata, hnone⟩

theorem meets_readFileOnce {length : UInt32} {offset : UInt64} :
    MeetsS server.serves (Session.readFileOnce path length offset context)
      (fun r _ s' => ReadsFile server s path length offset (·.data) r s') session s := by
  rw [Session.readFileOnce]
  refine meetsS_enter ⟨trivial, ?_⟩
  rintro m rfl
  refine meetsS_allocateMessageIds.2 (meetsS_bind.2 (meetsS_withIds.2 (meets_fileReader.mono ?_)))
  rintro (e | e | a) s' h
  · exact .of_throw h.always
  · exact h.handed id rfl id
  · exact .of_ok h.always (h.success a rfl)

/-! ## Writing -/

/-- The file at a path, or the empty one that a first write makes there. -/
def FileAt (objects : Objects) (path : ServerPath) (object : FileObject) : Prop :=
  objects path = some object ∧ object.directory = false ∨
    objects path = none ∧ object = {} ∧ FileTree.HasParent FileObject.Holds objects path

/-- Data come to be in the file at a path. -/
structure WritesTo (objects : Objects) (path : ServerPath) (offset : UInt64) (data : ByteVector)
    (objects' : Objects) : Prop where
  written : ∃ object, FileAt objects path object ∧ objects' = objects.set path { object with
    content := writeAt object.content offset.toNat data }

/-- How a write ends. -/
abbrev WritesFile {α : Type} (server : FileServer) (s : ServerState) (path data : ByteVector)
    (offset : UInt64) (count : α → ℕ) : Except Exn (DecodeResult α) → ServerState → Prop :=
  Ends (fun s' => s'.objects = s.objects ∨
      ∃ n, WritesTo s.objects (server.target path) offset (data.take n) s'.objects)
    (fun a s' => count a ≤ data.length ∧ (server.shortWrites = false → count a = data.length) ∧
      WritesTo s.objects (server.target path) offset (data.take (count a)) s'.objects) True

theorem actsOn_writeFileOptions : server.actsOn (writeFileOptions path) = server.target path := by
  refine actsOn_of_plain ?_
  show kFileNonDirectoryFile &&& kFileOpenReparsePoint = 0
  decide

/-- The CREATE of a write opens the file, or makes an empty one. -/
theorem Opens.fileAt {create : CreateResponse}
    (h : server.Opens s (writeFileOptions path) create s') :
    ∃ object, FileAt s.objects (server.target path) object ∧
      s'.objects = s.objects.set (server.target path) object := by
  have hdisposes := (disposes_openIf rfl).1 h.objects
  have hparent := h.parent
  have hfits := h.fits (by
    show kFileNonDirectoryFile &&& kFileNonDirectoryFile ≠ 0
    decide)
  rw [actsOn_writeFileOptions] at hdisposes hparent hfits
  cases hobject : s.objects (server.target path) with
  | none =>
    rw [hobject] at hdisposes
    exact ⟨{}, .inr ⟨hobject, rfl, hparent hobject⟩, hdisposes⟩
  | some object =>
    rw [hobject] at hdisposes
    refine ⟨object, .inl ⟨hobject, hfits object hobject⟩, hdisposes.trans ?_⟩
    exact (FileTree.set_eq_self hobject).symm

theorem meets_writeExchanger {options : WriteRequestOptions} :
    MeetsE server.serves (writeExchanger messageId treeId sessionId context options)
      (Follows (server.Outcome s (.write options) decodeWriteResponse) s) s :=
  meets_exchangeResponse maySend fun _ => rfl

/-- A granted WRITE to an open file. -/
theorem Grants.writes {options : WriteRequestOptions} {reply : DecodeResult ByteVector}
    (h : server.Grants s (.write options) reply s')
    (hfile : s.openFiles options.fileId = some file) :
    ∃ response, decodedReply decodeWriteResponse reply = .ok response ∧
      server.Writes s options response file s' := by
  obtain ⟨response, file', hread, hfile', hwrites⟩ := h
  rw [hfile] at hfile'
  cases hfile'
  exact ⟨response, hread, hwrites⟩

/-- The file after a WRITE, seen from before it was opened. -/
theorem Writes.writesTo {options : WriteRequestOptions} {response : WriteResponse}
    {objects : Objects} {object : FileObject} (h : server.Writes s options response file s')
    (hat : FileAt objects file.path object)
    (hopened : s.objects = objects.set file.path object) :
    WritesTo objects file.path options.offset (options.data.take response.count.toNat)
      s'.objects := by
  obtain ⟨object', hobject', rfl⟩ := h.state
  rw [hopened, FileTree.set_self] at hobject'
  cases hobject'
  refine ⟨object, hat, ?_⟩
  show (s.objects.set file.path _) = _
  rw [hopened, FileTree.set_set]

theorem meets_fileWriter {data : ByteVector} {offset : UInt64} :
    MeetsE server.serves (fileWriter messageId treeId sessionId context path data offset)
      (WritesFile server s path data offset (·.bytesWritten.toNat)) s := by
  have hat : server.actsOn (writeFileOptions path) = server.target path := actsOn_writeFileOptions
  have hmade : ∀ {create m}, server.Opens s (writeFileOptions path) create m →
      WritesTo s.objects (server.target path) offset (data.take 0) m.objects := by
    intro create m hopens
    obtain ⟨object, hobject, hobjects⟩ := hopens.fileAt
    refine ⟨object, hobject, ?_⟩
    rw [List.take_zero, writeAt_nil]
    exact hobjects
  rw [fileWriter]
  refine meetsE_bind.2 (meets_look (.of_cancelled (.inl rfl)) ?_)
  refine meetsE_bind.2 ((meets_createPayload maySend).mono ?_)
  rintro (e | e | createPayload) s₁ hcreate
  · exact .of_throw (.inl (by rw [show s₁ = s from hcreate]))
  · refine hcreate.2.ends ?_ rfl
    obtain hsame | ⟨create, m, hopens, hsame⟩ := hcreate.1.opened
    · exact .inl hsame
    · exact .inr ⟨0, hsame ▸ hmade hopens⟩
  have hcreated := hcreate.created
  have hsofar : s₁.objects = s.objects ∨
      ∃ n, WritesTo s.objects (server.target path) offset (data.take n) s₁.objects := by
    cases h : decodeCreateResponse createPayload with
    | ok create =>
      rw [h] at hcreated
      exact .inr ⟨0, hmade hcreated.opens⟩
    | error e =>
      rw [h] at hcreated
      obtain hsame | ⟨create, m, hopens, hsame⟩ := hcreated.1.opened
      · exact .inl hsame
      · exact .inr ⟨0, hsame ▸ hmade hopens⟩
  refine meetsE_bind.2 (meets_look (.of_cancelled hsofar) ?_)
  simp only [Bool.false_eq_true, if_false]
  cases hdecoded : decodeCreateResponse createPayload with
  | error e =>
    rw [hdecoded] at hcreated
    exact hcreated.2.ends hsofar rfl
  | ok create =>
  rw [hdecoded] at hcreated
  have hopens := hcreated.opens
  obtain ⟨object, hobject, hopened⟩ := hopens.fileAt
  have hfile := hopens.openFiles_eq
  rw [hat] at hfile
  dsimp only
  split
  · -- nothing to write
    rename_i hdata
    refine meetsE_bind.2 ((meets_closeKept hfile rfl).mono ?_)
    rintro (e | e | a) s₂ hclosed
    · exact .of_throw (hclosed.always ▸ hsofar)
    · exact hclosed.handed (fun hsame => hsame ▸ hsofar) rfl id
    · refine .of_ok (hclosed.always ▸ hsofar) ⟨Nat.zero_le _, fun _ => ?_, ?_⟩
      · rw [hdata]
        rfl
      · rw [hclosed.always]
        exact hmade hopens
  refine meetsE_bind.2 (meets_writeExchanger.mono ?_)
  rintro (e | e | write) s₂ hwrite
  · exact .of_throw ((show s₂ = s₁ from hwrite) ▸ hsofar)
  · refine hwrite.2.ends ?_ rfl
    obtain hsame | ⟨reply, m, hgrants, hsame⟩ := hwrite.1.objects_cases
    · exact hsame ▸ hsofar
    · obtain ⟨response, -, hwrites⟩ := hgrants.writes hfile
      exact .inr ⟨_, hsame ▸ hwrites.writesTo hobject hopened⟩
  obtain ⟨reply, hreply, hgrants⟩ := hwrite
  obtain ⟨response, hreply', hwrites⟩ := hgrants.writes hfile
  rw [hreply] at hreply'
  cases hreply'
  have hwritten := hwrites.writesTo hobject hopened
  have hopen₂ : s₂.openFiles create.fileId = some { path := server.target path } := by
    obtain ⟨_, -, rfl⟩ := hwrites.state
    exact hfile
  refine meetsE_bind.2 ((meets_closeKept hopen₂ rfl).mono ?_)
  rintro (e | e | a) s₃ hclosed
  · exact .of_throw (.inr ⟨_, hclosed.always ▸ hwritten⟩)
  · exact hclosed.handed (fun hsame => .inr ⟨_, hsame ▸ hwritten⟩) rfl id
  · exact .of_ok (.inr ⟨_, hclosed.always ▸ hwritten⟩)
      ⟨hwrites.count, hwrites.whole, hclosed.always ▸ hwritten⟩

theorem meets_writeFileOnce {data : ByteVector} {offset : UInt64} :
    MeetsS server.serves (Session.writeFileOnce path data offset context)
      (fun r _ s' => WritesFile server s path data offset (·.bytesWritten.toNat) r s')
      session s := by
  rw [Session.writeFileOnce]
  refine meetsS_enter ⟨trivial, ?_⟩
  rintro m rfl
  refine meetsS_sessionGet.2 (meetsS_bind.2 (meetsS_withIds.2 (meets_fileWriter.mono ?_)))
  rintro (e | e | a) s' h
  · exact .of_throw h.always
  · exact h.handed id rfl id
  · exact .of_ok h.always (h.success a rfl)

end

end FileServer

end SmbBrowser.Native
