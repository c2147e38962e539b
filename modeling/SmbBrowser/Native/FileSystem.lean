import SmbBrowser.Base.Refinement
import SmbBrowser.Native.CopyCalls
import SmbBrowser.Native.RecursiveDelete
import SmbBrowser.Native.Throwing

/-!
# A session as a file system

What the calls of `NativeSmbSession` on files and directories are for: a file system whose
calls take effect as a whole or fail.  A call that fails has had its effect, a part of it or
none.

Results:
* `simulates_fileSystem`: every call of a session on a file server is a step of the file
  system;
* `session_refines_fileSystem`: so is every run of every program that makes such calls, and
  the objects of the share stay a tree.
-/

namespace SmbBrowser.Native

open SmbBrowser.Base

/-! ## Calls -/

/-- The calls of a session on files and directories. -/
inductive FileCall where
  | statObject (path : ByteVector)
  | listDirectory (path : ByteVector)
  | createDirectory (path : ByteVector)
  | deleteObject (path : ByteVector) (directory : Bool)
  | deleteTree (path : ByteVector)
  | deleteWildcard (parentPath pattern : ByteVector)
  | renameObject (fromPath toPath : ByteVector) (replaceIfExists : Bool)
  | readFileOnce (path : ByteVector) (length : UInt32) (offset : UInt64)
  | writeFileOnce (path data : ByteVector) (offset : UInt64)
  | copyFileServerSide (sourcePath targetPath : ByteVector) (size : UInt64)

namespace FileCall

/-- What a call returns. -/
abbrev Value : FileCall → Type
  | statObject _ => NativeStatResult
  | listDirectory _ => List NativeRemoteEntry
  | readFileOnce .. => NativeReadResult
  | writeFileOnce .. => NativeWriteResult
  | createDirectory _ => NativeObjectMutationResult
  | deleteObject .. => NativeObjectMutationResult
  | deleteTree _ => NativeObjectMutationResult
  | deleteWildcard .. => NativeObjectMutationResult
  | renameObject .. => NativeObjectMutationResult
  | copyFileServerSide .. => NativeObjectMutationResult

/-- The call of a session; `fuel` bounds the pages of a listing and the depth of a recursive
    delete. -/
def run (fuel : ℕ) (context : OperationContext) :
    (call : FileCall) → SessionM (DecodeResult call.Value)
  | statObject path => Session.statObject path context
  | listDirectory path => Session.listDirectory fuel path context
  | createDirectory path => Session.createDirectory path context
  | deleteObject path directory => Session.deleteObject path directory context
  | deleteTree path => Session.deleteTree fuel path context
  | deleteWildcard parentPath pattern => Session.deleteWildcard fuel parentPath pattern context
  | renameObject fromPath toPath replaceIfExists =>
    Session.renameObject fromPath toPath replaceIfExists context
  | readFileOnce path length offset => Session.readFileOnce path length offset context
  | writeFileOnce path data offset => Session.writeFileOnce path data offset context
  | copyFileServerSide sourcePath targetPath size =>
    Session.copyFileServerSide sourcePath targetPath size context

variable (server : FileServer)

/-- What a call that succeeds does to the tree, and what it returns. -/
def Does : (call : FileCall) → Objects → call.Value → Objects → Prop
  | statObject path, objects, stat, objects' => objects' = objects ∧
    ∃ object, objects (server.target path) = some object ∧ FileServer.statesObject stat object
  | listDirectory path, objects, listed, objects' => objects' = objects ∧
    ∃ entries, FileServer.listedEntries listed entries ∧
      server.Enumerates objects (server.target path) entries
  | createDirectory path, objects, _, objects' =>
    FileServer.MakesDirectory objects (server.target path) objects'
  | deleteObject path _, objects, _, objects' =>
    server.Erases objects (server.target path) objects'
  | deleteTree path, objects, _, objects' =>
    FileTree.Prunes (server.locate path <+: ·) objects objects' ∧
      FileTree.Gone objects' (server.locate path)
  | deleteWildcard parentPath pattern, objects, _, objects' =>
    server.DeletesMatches (server.target parentPath) pattern objects objects'
  | renameObject fromPath toPath replaceIfExists, objects, _, objects' =>
    FileServer.MovesObject objects (server.target fromPath) (server.locate toPath)
      replaceIfExists objects'
  | readFileOnce path length offset, objects, read, objects' => objects' = objects ∧
    FileServer.ReadsFrom objects (server.target path) length offset read.data
  | writeFileOnce path data offset, objects, written, objects' =>
    written.bytesWritten.toNat ≤ data.length ∧
      (server.shortWrites = false → written.bytesWritten.toNat = data.length) ∧
      FileServer.WritesTo objects (server.target path) offset
        (data.take written.bytesWritten.toNat) objects'
  | copyFileServerSide sourcePath targetPath size, objects, _, objects' =>
    FileServer.CopiesTo objects (server.target sourcePath) (server.target targetPath) size.toNat
      objects'

/-- What a call that fails leaves. -/
def Leaves : FileCall → Objects → Objects → Prop
  | statObject _, objects, objects' => objects' = objects
  | listDirectory _, objects, objects' => objects' = objects
  | createDirectory path, objects, objects' => objects' = objects ∨
    FileServer.MakesDirectory objects (server.target path) objects'
  | deleteObject path _, objects, objects' => objects' = objects ∨
    server.Erases objects (server.target path) objects'
  | deleteTree path, objects, objects' =>
    FileTree.Prunes (server.locate path <+: ·) objects objects' ∧ objects'.Rooted
  | deleteWildcard parentPath pattern, objects, objects' =>
    FileTree.Prunes (server.Matching (server.target parentPath) pattern) objects objects' ∧
      objects'.Rooted
  | renameObject fromPath toPath replaceIfExists, objects, objects' => objects' = objects ∨
    FileServer.MovesObject objects (server.target fromPath) (server.locate toPath)
      replaceIfExists objects'
  | readFileOnce .., objects, objects' => objects' = objects
  | writeFileOnce path data offset, objects, objects' => objects' = objects ∨
    ∃ n, FileServer.WritesTo objects (server.target path) offset (data.take n) objects'
  | copyFileServerSide sourcePath targetPath _, objects, objects' => objects' = objects ∨
    ∃ n, FileServer.CopiesTo objects (server.target sourcePath) (server.target targetPath) n
      objects'

/-- What an error says that claims that a file is not found. -/
def Missing : FileCall → Objects → Prop
  | statObject path, objects => objects (server.target path) = none
  | _, _ => True

end FileCall

/-! ## The file system -/

/-- The questions of a program that makes such calls. -/
abbrev Files : Interface where
  Op := FileCall × OperationContext
  Ans op := Except Exn (DecodeResult op.1.Value)

/-- The file system. -/
def fileSystem (server : FileServer) : Contract Files Objects where
  allows _ _ := True
  step objects e objects' :=
    match e with
    | ⟨(call, _), .ok (.ok value)⟩ => call.Does server objects value objects'
    | ⟨(call, _), .ok (.error error)⟩ => call.Leaves server objects objects' ∧
      error.code ≠ .none ∧ (error.code = .fileNotFound → call.Missing server objects)
    | ⟨(call, _), .error _⟩ => call.Leaves server objects objects'

/-- The calls carried out by a session. -/
def fileCalls (fuel : ℕ) : Service Files Wire Session := fun (call, context) session =>
  (call.run fuel context).run.run session

/-! ## The tree stays a tree -/

section

variable {server : FileServer} {objects objects' : Objects} {path source target : ServerPath}
  {object : FileObject}

/-- The object at a path, or the place of one. -/
theorem FileServer.FileAt.rooted_set (h : FileServer.FileAt objects path object)
    (hrooted : objects.Rooted) (object' : FileObject) :
    Objects.Rooted (objects.set path object') := by
  obtain ⟨hobject, hplain⟩ | ⟨hnone, -, hparent⟩ := h
  · refine hrooted.set (hrooted.hasParent (by rw [hobject]; simp)) (.inr ?_)
    refine hrooted.nothingBelow fun other hother hholds => ?_
    rw [hobject] at hother
    cases hother
    rw [hholds.1] at hplain
    cases hplain
  · refine hrooted.set hparent (.inr (hrooted.nothingBelow fun other hother => ?_))
    rw [hnone] at hother
    cases hother

theorem FileServer.MakesDirectory.rooted (h : FileServer.MakesDirectory objects path objects')
    (hrooted : objects.Rooted) : objects'.Rooted := by
  rw [h.objects']
  exact hrooted.set h.parent (.inl ⟨rfl, rfl⟩)

theorem FileServer.Erases.rooted (h : server.Erases objects path objects')
    (hfull : server.deletesFull = false) (hrooted : objects.Rooted) : objects'.Rooted := by
  rw [h.objects']
  exact hrooted.erase (h.empty hfull)

theorem FileServer.MovesObject.rooted {replaceIfExists : Bool}
    (h : FileServer.MovesObject objects source target replaceIfExists objects')
    (hrooted : objects.Rooted) : objects'.Rooted := by
  rw [h.objects']
  by_cases hsame : source <+: target
  · rw [h.apart hsame, FileTree.move_self]
    exact hrooted
  · exact hrooted.move hsame h.parent

theorem FileServer.WritesTo.rooted {offset : UInt64} {data : ByteVector}
    (h : FileServer.WritesTo objects path offset data objects') (hrooted : objects.Rooted) :
    objects'.Rooted := by
  obtain ⟨object, hat, hobjects⟩ := h.written
  rw [hobjects]
  exact hat.rooted_set hrooted _

theorem FileServer.CopiesTo.rooted {count : ℕ}
    (h : FileServer.CopiesTo objects source target count objects') (hrooted : objects.Rooted) :
    objects'.Rooted := by
  obtain ⟨object, hat⟩ := h.place
  obtain ⟨_, -, -, hobjects⟩ := h.copied
  rw [hobjects]
  exact hat.rooted_set hrooted _

theorem FileServer.DeletesMatches.rooted {pattern : ByteVector}
    (h : server.DeletesMatches path pattern objects objects') (hrooted : objects.Rooted) :
    objects'.Rooted := by
  obtain ⟨entries, -, hprunes, hgone⟩ := h.entries
  refine hrooted.prunes hprunes ?_
  rintro q ⟨entry, hmem, hmatches, hq⟩ q' hq'
  obtain ⟨hlisted, hdot⟩ := List.mem_filter.1 hmem
  exact hgone entry hlisted (by simpa using hdot) hmatches q' (hq.trans hq')

/-- A call that succeeds keeps a tree. -/
theorem FileCall.Does.rooted {call : FileCall} {value : call.Value}
    (h : call.Does server objects value objects') (hfull : server.deletesFull = false)
    (hrooted : objects.Rooted) : objects'.Rooted := by
  cases call with
  | statObject path =>
    obtain ⟨rfl, -⟩ := h
    exact hrooted
  | listDirectory path =>
    obtain ⟨rfl, -⟩ := h
    exact hrooted
  | createDirectory path => exact FileServer.MakesDirectory.rooted h hrooted
  | deleteObject path directory => exact FileServer.Erases.rooted h hfull hrooted
  | deleteTree path => exact hrooted.prunes h.1 fun q hq q' hq' => h.2 q' (hq.trans hq')
  | deleteWildcard parentPath pattern => exact FileServer.DeletesMatches.rooted h hrooted
  | renameObject fromPath toPath replaceIfExists => exact FileServer.MovesObject.rooted h hrooted
  | readFileOnce path length offset =>
    obtain ⟨rfl, -⟩ := h
    exact hrooted
  | writeFileOnce path data offset => exact FileServer.WritesTo.rooted h.2.2 hrooted
  | copyFileServerSide sourcePath targetPath size => exact FileServer.CopiesTo.rooted h hrooted

/-- So does a call that fails. -/
theorem FileCall.Leaves.rooted {call : FileCall} (h : call.Leaves server objects objects')
    (hfull : server.deletesFull = false) (hrooted : objects.Rooted) : objects'.Rooted := by
  have hkept : objects' = objects → objects'.Rooted := by
    rintro rfl
    exact hrooted
  cases call with
  | statObject path => exact hkept h
  | listDirectory path => exact hkept h
  | createDirectory path => exact h.elim hkept fun h => h.rooted hrooted
  | deleteObject path directory => exact h.elim hkept fun h => h.rooted hfull hrooted
  | deleteTree path => exact h.2
  | deleteWildcard parentPath pattern => exact h.2
  | renameObject fromPath toPath replaceIfExists => exact h.elim hkept fun h => h.rooted hrooted
  | readFileOnce path length offset => exact hkept h
  | writeFileOnce path data offset => exact h.elim hkept fun ⟨_, h⟩ => h.rooted hrooted
  | copyFileServerSide sourcePath targetPath size =>
    exact h.elim hkept fun ⟨_, h⟩ => h.rooted hrooted

end

/-! ## Every call is a step -/

section

variable {server : FileServer} {s s' : ServerState} {fuel : ℕ} {context : OperationContext}
  {session : Session} {call : FileCall}

/-- The end of a call is a step of the file system. -/
theorem FileServer.Ends.step {r : Except Exn (DecodeResult call.Value)}
    (h : FileServer.Ends (fun s' => call.Leaves server s.objects s'.objects)
      (fun value s' => call.Does server s.objects value s'.objects) (call.Missing server s.objects)
      r s') :
    (fileSystem server).step s.objects ⟨(call, context), r⟩ s'.objects := by
  obtain (e | e | value) := r
  · exact h.always
  · exact ⟨h.always, h.error e rfl⟩
  · exact h.success value rfl

theorem permits_serves (region : ServerPath → Prop) (objects : Objects) :
    FileServer.Permits server (fun _ _ => True) region objects :=
  ⟨fun _ _ _ => trivial, fun _ _ _ _ _ _ _ _ => trivial, fun _ _ _ _ _ => trivial,
    fun _ _ _ _ _ _ _ => trivial⟩

/-- **Each call.** -/
theorem meets_fileCall (hleaf : ∀ q, server.referent q = q) (hrooted : s.objects.Rooted) :
    MeetsS server.serves (call.run fuel context) (fun r _ s' =>
      FileServer.Ends (fun s' => call.Leaves server s.objects s'.objects)
        (fun value s' => call.Does server s.objects value s'.objects)
        (call.Missing server s.objects) r s') session s := by
  have hlook : FileServer.Lenient fun (_ : ServerState) (_ : RequestBody) => True :=
    fun _ _ _ => trivial
  have hlive : false = true → s.failed = false := by rintro ⟨⟩
  have hs : FileServer.Deleting false s.objects s := ⟨fun _ _ h => h, hrooted, hlive⟩
  cases call with
  | statObject path =>
    refine FileServer.serves_statObject.mono fun r _ s' h => ?_
    exact ⟨h.always, fun a hr => ⟨h.always, (h.success a hr).2⟩, h.error⟩
  | listDirectory path =>
    refine (FileServer.meets_listDirectory hlook (fun _ _ _ _ _ _ => trivial) hlive).mono
      fun r _ s' h => ?_
    exact ⟨h.always, fun a hr => ⟨h.always, (h.success a hr).2⟩, h.error⟩
  | createDirectory path => exact FileServer.meets_createDirectory
  | deleteObject path directory =>
    refine FileServer.serves_deleteObject.mono fun r _ s' h => ?_
    exact ⟨h.always, fun a hr => (h.success a hr).2, h.error⟩
  | deleteTree path =>
    refine (FileServer.meets_deleteTreeInternal (permits_serves (fun _ => True) s.objects)
      (fun q _ => hleaf q) (fun _ _ _ _ => trivial) trivial hs).mono fun r _ s' h => ?_
    exact ⟨h.always, fun a hr => ⟨h.always.1, (h.success a hr).2⟩, h.error⟩
  | deleteWildcard parentPath pattern =>
    exact FileServer.meets_deleteWildcard (permits_serves (fun _ => True) s.objects)
      (fun q _ => hleaf q) (fun _ _ _ _ => trivial) (fun _ _ _ _ _ _ => trivial)
      (fun _ _ => trivial) hs
  | renameObject fromPath toPath replaceIfExists => exact FileServer.meets_renameObject
  | readFileOnce path length offset =>
    refine FileServer.meets_readFileOnce.mono fun r _ s' h => ?_
    exact ⟨h.always, fun a hr => ⟨h.always, h.success a hr⟩, h.error⟩
  | writeFileOnce path data offset => exact FileServer.meets_writeFileOnce
  | copyFileServerSide sourcePath targetPath size => exact FileServer.meets_copyFileServerSide

/-- **The simulation.** -/
theorem simulates_fileSystem (hleaf : ∀ q, server.referent q = q)
    (hfull : server.deletesFull = false) :
    Simulates server.serves (fileCalls fuel) (fileSystem server)
      (fun s objects => s.objects = objects ∧ objects.Rooted) where
  op := by
    rintro ⟨call, context⟩ session s _ ⟨rfl, hrooted⟩ -
    have hcall : MeetsS server.serves (call.run fuel context) _ session s :=
      meets_fileCall hleaf hrooted
    refine Meets.mono hcall fun r s' h => ⟨s'.objects, FileServer.Ends.step h, rfl, ?_⟩
    obtain ⟨(e | e | value), session'⟩ := r
    · exact h.always.rooted hfull hrooted
    · exact h.always.rooted hfull hrooted
    · exact (h.success value rfl).rooted hfull hrooted

end

/-! ## A run -/

theorem replyPayload_framed {message : ByteVector} (hlength : message.length ≤ 0x00FFFFFF) :
    replyPayload (.ok (framed message)) = .ok message :=
  Prog.decode_framed hlength

theorem decodedReply_framed {α : Type} {decode : ByteVector → DecodeResult α}
    {message : ByteVector} {a : α} (hlength : message.length ≤ 0x00FFFFFF)
    (h : decode message = .ok a) : decodedReply decode (.ok (framed message)) = .ok a :=
  decodedReply_eq_ok.2 ⟨message, replyPayload_framed hlength, h⟩

/-- A program that makes one directory. -/
def makesDirectory : Program Files (Except Exn (DecodeResult NativeObjectMutationResult)) :=
  .ask (.createDirectory (ascii "d"), {}) .pure

def makeDirectory :
    List (Event Wire) × (Except Exn (DecodeResult NativeObjectMutationResult) × Session) ×
      (List (DecodeResult ByteVector) × List Bool) :=
  (makesDirectory.carryOut (fileCalls 1) (.new 1 1 1)).serve playback
    ([.ok (framed createdMessage), .ok (framed closedMessage)], [])

set_option maxRecDepth 100000 in
theorem makeDirectory_events : ∃ create close : SentRequest,
    create.request.body = .create (directoryCreateOptions (ascii "d")) ∧
    close.request.body = .close { fileId := {} } ∧
    makeDirectory.1 = [⟨.enter (.createDirectory (ascii "d")), ()⟩,
      ⟨.exchange create {}, .ok (framed createdMessage)⟩,
      ⟨.exchange close {}, .ok (framed closedMessage)⟩] :=
  ⟨_, _, rfl, rfl, rfl⟩

/-- The share with the directory that was made. -/
def withDirectory : Objects :=
  FileTree.set FileServer.oneFile [ascii "d"] { directory := true }

/-- The state between the two requests. -/
def directoryOpen : ServerState :=
  ServerState.setOpen { objects := withDirectory } {} (some { path := [ascii "d"] })

theorem opens_directory : FileServer.caseless.Opens { objects := FileServer.oneFile }
    (directoryCreateOptions (ascii "d")) {} directoryOpen := by
  have hplace : FileServer.caseless.locate (ascii "d") = [ascii "d"] := by decide +kernel
  have hat : FileServer.caseless.actsOn (directoryCreateOptions (ascii "d")) = [ascii "d"] :=
    FileServer.actsOn_directoryCreateOptions.trans hplace
  have habsent : FileServer.oneFile [ascii "d"] = none := by
    rw [FileServer.oneFile, if_neg (by simp), if_neg (by decide +kernel)]
  have hflag : decide (kFileDirectoryFile &&& kFileDirectoryFile ≠ 0) = true := by decide
  refine ⟨rfl, ?_, (FileServer.disposes_create rfl).2 ?_, fun _ => ?_, ?_, ?_, by rintro ⟨⟩⟩
  · intro h
    exact absurd (by decide) h
  · rw [hat]
    refine ⟨habsent, ?_⟩
    show withDirectory = FileTree.set FileServer.oneFile [ascii "d"]
      { directory := decide (kFileDirectoryFile &&& kFileDirectoryFile ≠ 0) }
    rw [hflag]
    rfl
  · rw [hat]
    intro parent name hpath
    have hroot : ([] : ServerPath) ++ [ascii "d"] = parent ++ [name] := hpath
    obtain ⟨rfl, -⟩ := List.append_inj' hroot rfl
    exact ⟨_, rfl, rfl, rfl⟩
  · rw [hat]
    have hmade : withDirectory [ascii "d"] = some { directory := true } := FileTree.set_self
    intro object hobject hplain
    obtain rfl := Option.some.inj (hmade.symm.trans hobject)
    cases hplain
  · rw [hat]
    rfl

theorem makeDirectory_runs : ∃ es, Program.Runs
      (makesDirectory.carryOut (fileCalls 1) (.new 1 1 1)) es makeDirectory.2.1 ∧
    FileServer.caseless.serves.Steps { objects := FileServer.oneFile } es
      (FileServer.close directoryOpen {} { path := [ascii "d"] }) := by
  have hrun : ∃ es, es = makeDirectory.1 ∧ Program.Runs
      (makesDirectory.carryOut (fileCalls 1) (.new 1 1 1)) es makeDirectory.2.1 := by
    unfold makeDirectory
    exact ⟨_, rfl, Program.runs_serve playback _ _⟩
  obtain ⟨es, hes, hrun⟩ := hrun
  have hevents := makeDirectory_events
  rw [← hes] at hevents
  obtain ⟨create, close, hcreate, hclose, rfl⟩ := hevents
  refine ⟨_, hrun, _, rfl, directoryOpen, .granted ?_, _, .granted ?_, rfl⟩
  · rw [hcreate]
    exact ⟨{}, decodedReply_framed (by simp) decode_createdMessage, opens_directory⟩
  · rw [hclose]
    exact ⟨{}, _, decodedReply_framed (by simp) decode_closedMessage, ServerState.openFiles_setOpen _ _ _, rfl⟩

end SmbBrowser.Native
