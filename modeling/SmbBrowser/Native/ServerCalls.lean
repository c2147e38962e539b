import SmbBrowser.Native.ErrorCodes
import SmbBrowser.Native.FileServer
import SmbBrowser.Native.ResponseBounds

/-!
# The calls of a session on a file server

What `statObject`, `listDirectory` and `deleteObject` (native_smb/NativeSmbSession.cpp) do
to the tree of a server, and what their results say about it.

Results:
* `meets_statObject`: the tree stays, and the result describes the object at the path;
* `meets_listDirectory`: the tree stays, and the entries are those of the directory;
* `meets_deleteObject`: at most the object at the path goes, and it does in a success.
-/

namespace SmbBrowser.Native

open SmbBrowser.Base

namespace FileServer

variable {server : FileServer} {strict : Bool} {guard : ServerState → RequestBody → Prop}
  {s s' : ServerState} {context : OperationContext} {messageId : ℕ} {treeId : UInt32}
  {sessionId : UInt64} {path : ByteVector} {session : Session}

/-- A request that looks at an object and leaves it as it is. -/
def Looks : RequestBody → Prop
  | .create options => options.createDisposition = kFileOpen ∧
    options.desiredAccess &&& kDeleteAccess = 0
  | .close _ => True
  | .queryInfo _ => True
  | _ => False

theorem looks_stat : Looks (.create (statCreateOptions path)) := by
  refine ⟨rfl, ?_⟩
  show kFileReadAttributes &&& kDeleteAccess = 0
  decide

/-- A guard that leaves the requests alone that only look. -/
def Lenient (guard : ServerState → RequestBody → Prop) : Prop :=
  ∀ s body, Looks body → guard s body

/-- The object at a path, or the one a reparse point there refers to. -/
def target (server : FileServer) (path : ByteVector) : ServerPath :=
  server.referent (server.locate path)

theorem actsOn_of_plain {options : CreateRequestOptions}
    (h : options.createOptions &&& kFileOpenReparsePoint = 0) :
    server.actsOn options = server.target options.path := if_neg (not_not_intro h)

/-! ## How calls end -/

/-- How a call ends: what holds in any case, what a success says, and what an error says. -/
structure Ends {α : Type} (always : ServerState → Prop) (done : α → ServerState → Prop)
    (missing : Prop) (r : Except Exn (DecodeResult α)) (s' : ServerState) : Prop where
  always : always s'
  success : ∀ a, r = .ok (.ok a) → done a s'
  error : ∀ e, r = .ok (.error e) → e.code ≠ .none ∧ (e.code = .fileNotFound → missing)

namespace Ends

variable {α β : Type} {always always' : ServerState → Prop} {done : α → ServerState → Prop}
  {done' : β → ServerState → Prop} {missing missing' : Prop} {r : Except Exn (DecodeResult α)}

theorem of_ok {a : α} (halways : always s') (hdone : done a s') :
    Ends always done missing (.ok (.ok a)) s' := by
  refine ⟨halways, ?_, by rintro e ⟨⟩⟩
  rintro _ ⟨⟩
  exact hdone

theorem of_error {e : ProtocolError} (halways : always s') (hcode : e.code ≠ .none)
    (hmissing : e.code = .fileNotFound → missing) :
    Ends always done missing (.ok (.error e)) s' := by
  refine ⟨halways, by rintro a ⟨⟩, ?_⟩
  rintro _ ⟨⟩
  exact ⟨hcode, hmissing⟩

theorem of_throw {e : Exn} (halways : always s') : Ends always done missing (.error e) s' :=
  ⟨halways, by rintro a ⟨⟩, by rintro e ⟨⟩⟩

theorem of_cancelled {text : String} (halways : always s') :
    Ends always done missing (.ok (failure .cancelled text)) s' :=
  .of_error halways (by rintro ⟨⟩) (by rintro ⟨⟩)

/-- An error of a helper, handed on with its code. -/
theorem handed {e e' : ProtocolError} (h : Ends always done missing (.ok (.error e)) s')
    (halways : always s' → always' s') (hcode : e'.code = e.code) (hmissing : missing → missing') :
    Ends always' done' missing' (.ok (.error e')) s' := by
  obtain ⟨hnone, hmiss⟩ := h.error e rfl
  exact .of_error (halways h.always) (hcode ▸ hnone) fun h' => hmissing (hmiss (hcode ▸ h'))

end Ends

/-- A refused request, after which something holds in any case. -/
theorem Refuses.ends {α : Type} {always : ServerState → Prop} {done : α → ServerState → Prop}
    {body : RequestBody} {e e' : ProtocolError} {m : ServerState} (h : server.Refuses m body e)
    (halways : always s') (hcode : e'.code = e.code) :
    Ends always done True (.ok (.error e')) s' :=
  .of_error halways (hcode ▸ h.1) fun _ => trivial

/-! ## Stat -/

theorem failsWith_decodeFileBasicInformation {P : ErrorCode → Prop} (hP : P .ioError)
    (bytes : ByteVector) : FailsWith P (decodeFileBasicInformation bytes) := by
  rw [decodeFileBasicInformation]
  refine .ite (fun _ => (failsWith_failure ..).2 hP) fun hlen => ?_
  simp (disch := omega) only [readU32Le_of_le, readU64Le_of_le, ok_bind]
  exact failsWith_ok _

theorem failsWith_decodeFileStandardInformation {P : ErrorCode → Prop} (hP : P .ioError)
    (bytes : ByteVector) : FailsWith P (decodeFileStandardInformation bytes) := by
  rw [decodeFileStandardInformation]
  refine .ite (fun _ => (failsWith_failure ..).2 hP) fun hlen => ?_
  simp (disch := omega) only [readU8_of_le, readU32Le_of_le, readU64Le_of_le, ok_bind]
  exact failsWith_ok _

/-- What a stat says about an object. -/
structure Describing (directory reparsePoint : Bool) (size : UInt64) (object : FileObject) : Prop where
  directory_eq : directory = object.directory
  reparsePoint_eq : reparsePoint = object.reparsePoint
  size_eq : object.directory = false → size.toNat = object.content.length

/-- How a stat ends: the tree stays, and the result describes the object at the path. -/
abbrev Stats {α : Type} (describes : α → FileObject → Prop) (server : FileServer)
    (s : ServerState) (path : ByteVector) : Except Exn (DecodeResult α) → ServerState → Prop :=
  Ends (fun s' => s'.objects = s.objects)
    (fun stat s' => s'.failed = s.failed ∧
      ∃ object, s.objects (server.target path) = some object ∧ describes stat object)
    (s.objects (server.target path) = none)

/-- What a result of the stat reader says. -/
def readsObject (stat : RemoteStatResult) (object : FileObject) : Prop :=
  Describing stat.directory stat.reparsePoint stat.endOfFile object

theorem actsOn_statCreateOptions : server.actsOn (statCreateOptions path) = server.target path := by
  refine actsOn_of_plain ?_
  show (0 : UInt32) &&& kFileOpenReparsePoint = 0
  decide

theorem meets_remoteStatReader (hguard : Lenient guard) (hlive : strict = true → s.failed = false) :
    MeetsE (server.contract strict guard) (remoteStatReader messageId treeId sessionId context path)
      (Stats readsObject server s path) s := by
  have hat : server.actsOn (statCreateOptions path) = server.target path := actsOn_statCreateOptions
  rw [remoteStatReader]
  refine meetsE_bind.2 (meets_look ?_ ?_)
  · exact .of_cancelled rfl
  refine meetsE_bind.2 ((meets_createPayload ⟨hlive, hguard _ _ looks_stat⟩).mono ?_)
  rintro (e | e | createPayload) s₁ hcreate
  · exact .of_throw (by rw [hcreate])
  · refine .of_error (hcreate.1.objects_open rfl) hcreate.2.1 fun hcode => ?_
    rw [← hat]
    exact hcreate.2.2 hcode
  have hcreated := hcreate.created
  have hkept₁ : s₁.objects = s.objects := by
    cases h : decodeCreateResponse createPayload with
    | ok create =>
      rw [h] at hcreated
      exact (hcreated.opens.objects_eq rfl).1
    | error e =>
      rw [h] at hcreated
      exact hcreated.1.objects_open rfl
  refine meetsE_bind.2 (meets_look ?_ ?_)
  · exact .of_cancelled hkept₁
  dsimp only [Bool.false_eq_true, if_false]
  cases hdecoded : decodeCreateResponse createPayload with
  | error e =>
    rw [hdecoded] at hcreated
    refine .of_error hkept₁ hcreated.2.1 fun hcode => ?_
    rw [← hat]
    exact hcreated.2.2 hcode
  | ok create =>
  rw [hdecoded] at hcreated
  have hopens := hcreated.opens
  have hfile : s₁.openFiles create.fileId = some { path := server.target path } := by
    rw [hopens.openFiles_eq, hat]
  have hlive₁ : strict = true → s₁.failed = false := by
    rw [hopens.failed_eq]
    exact hlive
  -- a query that fails leaves everything as it is, and one that succeeds describes the object
  have hquery : ∀ {infoClass : UInt8} {length : UInt32} {r : DecodeResult QueryInfoResponse}
      {m : ServerState}, server.Outcome s₁
        (.queryInfo (statQueryOptions create.fileId infoClass length)) decodeQueryInfoResponse r m →
      (∀ e, r = .error e → m.objects = s.objects ∧ e.code ≠ .none ∧
        (e.code = .fileNotFound → s.objects (server.target path) = none)) ∧
      ∀ response, r = .ok response → m = s₁ ∧ ∃ object, s.objects (server.target path) = some object ∧
        Describes (statQueryOptions create.fileId infoClass length) response object := by
    intro infoClass length r m h
    constructor
    · rintro e rfl
      refine ⟨h.1.objects_queryInfo.trans hkept₁, h.2.1, fun hcode => ?_⟩
      rw [← hkept₁]
      exact h.2.2 hcode _ hfile
    · rintro response rfl
      obtain ⟨hsame, object, hobject, hdescribes⟩ := h.describes hfile
      rw [hkept₁] at hobject
      exact ⟨hsame, object, hobject, hdescribes⟩
  refine meetsE_bind.2 ((meets_queryInfoExchanger ⟨hlive₁, hguard _ _ trivial⟩).mono ?_)
  rintro (e | r) s₂ hbasic
  · rw [show s₂ = s₁ from hbasic]
    exact .of_throw hkept₁
  obtain ⟨hbasicFails, hbasicOk⟩ := hquery hbasic
  cases r with
  | error e =>
    obtain ⟨hsame, hcode, hmissing⟩ := hbasicFails e rfl
    exact .of_error hsame hcode hmissing
  | ok basicResponse =>
  obtain ⟨rfl, object, hobject, hdescribes⟩ := hbasicOk _ rfl
  refine meetsE_bind.2 (meets_look ?_ ?_)
  · exact .of_cancelled hkept₁
  dsimp only [Bool.false_eq_true, if_false]
  cases hbasicInfo : decodeFileBasicInformation basicResponse.buffer with
  | error e =>
    obtain ⟨hcode, hfound⟩ := failsWith_decodeFileBasicInformation
      (P := fun code => code ≠ .none ∧ code ≠ .fileNotFound) (by decide) _ e hbasicInfo
    exact .of_error hkept₁ hcode fun h => absurd h hfound
  | ok basicInfo =>
  refine meetsE_bind.2 ((meets_queryInfoExchanger ⟨hlive₁, hguard _ _ trivial⟩).mono ?_)
  rintro (e | r) s₃ hstandard
  · rw [show s₃ = s₂ from hstandard]
    exact .of_throw hkept₁
  obtain ⟨hstandardFails, hstandardOk⟩ := hquery hstandard
  cases r with
  | error e =>
    obtain ⟨hsame, hcode, hmissing⟩ := hstandardFails e rfl
    exact .of_error hsame hcode hmissing
  | ok standardResponse =>
  obtain ⟨rfl, object', hobject', hdescribes'⟩ := hstandardOk _ rfl
  rw [hobject] at hobject'
  cases hobject'
  refine meetsE_bind.2 (meets_look ?_ ?_)
  · exact .of_cancelled hkept₁
  dsimp only [Bool.false_eq_true, if_false]
  cases hstandardInfo : decodeFileStandardInformation standardResponse.buffer with
  | error e =>
    obtain ⟨hcode, hfound⟩ := failsWith_decodeFileStandardInformation
      (P := fun code => code ≠ .none ∧ code ≠ .fileNotFound) (by decide) _ e hstandardInfo
    exact .of_error hkept₁ hcode fun h => absurd h hfound
  | ok standardInfo =>
  refine meetsE_bind.2 ((meets_closeExchanger ⟨hlive₁, hguard _ _ trivial⟩).mono ?_)
  rintro (e | r) s₄ hclosed
  · rw [show s₄ = s₃ from hclosed]
    exact .of_throw hkept₁
  obtain ⟨hclose, hobjects⟩ := hclosed.closes hfile
  have hkept₄ : s₄.objects = s.objects := by
    rw [close_objects_of_kept rfl, or_self] at hobjects
    exact hobjects.trans hkept₁
  cases r with
  | error e =>
    refine .of_error hkept₄ hclosed.2.1 fun hcode => ?_
    rw [← hkept₁]
    exact hclosed.2.2 hcode _ hfile
  | ok response =>
  have hreparse : (basicInfo.fileAttributes &&& kFileAttributeReparsePoint ≠ 0 ||
      create.isReparsePoint) = object.reparsePoint := by
    have hflag := hdescribes.basic rfl basicInfo hbasicInfo
    have hresponse : create.isReparsePoint = true → object.reparsePoint = true := by
      intro h
      refine hopens.reparsePoint h object ?_
      rw [hat, hkept₁]
      exact hobject
    rw [Bool.eq_iff_iff, Bool.or_eq_true, decide_eq_true_eq, hflag]
    exact ⟨fun h => h.elim id hresponse, .inl⟩
  obtain ⟨hdirectory, hsize⟩ := hdescribes'.standard rfl standardInfo hstandardInfo
  refine .of_ok hkept₄ ⟨?_, object, hobject, hdirectory, hreparse, hsize⟩
  rw [hclose _ rfl, close_failed, hopens.failed_eq]

/-! ## Methods of the session -/

/-- A helper's result, as the session hands it on. -/
def Returns {α β : Type} (Q : Except Exn (DecodeResult β) → ServerState → Prop) (result : α → β)
    (r : Except Exn (DecodeResult α)) (s' : ServerState) : Prop :=
  match r with
  | .ok (.ok a) => Q (.ok (.ok (result a))) s'
  | .ok (.error e) => ∀ e', e'.code = e.code → Q (.ok (.error e')) s'
  | .error e => Q (.error e) s'

theorem meetsS_withReportedIds {α β : Type} {call : SessionCall} {used : α → ℕ}
    {helper : ℕ → UInt32 → UInt64 → Prog (DecodeResult α)} {result : α → β}
    {Q : Except Exn (DecodeResult β) → ServerState → Prop}
    (h : ∀ m t sid, MeetsE (server.contract strict guard) (helper m t sid) (Returns Q result) s) :
    MeetsS (server.contract strict guard) (Session.withReportedIds call used helper result)
      (fun r _ s' => Q r s') session s := by
  rw [Session.withReportedIds]
  refine meetsS_enter ⟨trivial, ?_⟩
  rintro m rfl
  refine meetsS_sessionGet.2 (meetsS_bind.2 (meetsS_withIds.2 ((h _ _ _).mono ?_)))
  rintro (e | e | a) m hm
  · exact hm
  · exact hm _ rfl
  · exact hm

theorem meetsS_withAllocatedIds {α β : Type} {call : SessionCall} {count : ℕ}
    {helper : ℕ → UInt32 → UInt64 → Prog (DecodeResult α)} {result : α → β}
    {Q : Except Exn (DecodeResult β) → ServerState → Prop}
    (h : ∀ m t sid, MeetsE (server.contract strict guard) (helper m t sid) (Returns Q result) s) :
    MeetsS (server.contract strict guard) (Session.withAllocatedIds call count helper result)
      (fun r _ s' => Q r s') session s := by
  rw [Session.withAllocatedIds]
  refine meetsS_enter ⟨trivial, ?_⟩
  rintro m rfl
  refine meetsS_allocateMessageIds.2 (meetsS_bind.2 (meetsS_withIds.2 ((h _ _ _).mono ?_)))
  rintro (e | e | a) m hm
  · exact hm
  · exact hm _ rfl
  · exact hm

/-- What a result of `statObject` says. -/
def statesObject (stat : NativeStatResult) (object : FileObject) : Prop :=
  Describing stat.directory stat.reparsePoint stat.size object

theorem meets_statObject (hguard : Lenient guard) (hlive : strict = true → s.failed = false) :
    MeetsS (server.contract strict guard) (Session.statObject path context)
      (fun r _ s' => Stats statesObject server s path r s') session s := by
  refine meetsS_withReportedIds fun m t sid => (meets_remoteStatReader hguard hlive).mono ?_
  rintro (e | e | stat) s' h
  · exact .of_throw h.always
  · exact fun e' hcode => h.handed id hcode id
  · exact .of_ok h.always (h.success stat rfl)

/-! ## Listing -/

/-- A listing that has got as far as these entries. -/
structure Listing (server : FileServer) (s : ServerState) (directory : ServerPath) (fileId : FileId)
    (firstQuery : Bool) (entries : List DirectoryEntry) (s' : ServerState) : Prop where
  objects : s'.objects = s.objects
  failed : s'.failed = s.failed
  file : ∃ file, s'.openFiles fileId = some file ∧ file.path = directory ∧
    file.deletePending = false ∧
    if firstQuery then entries = []
    else server.Enumerates s.objects directory (entries ++ file.listing)

theorem Left.objects_queryDirectory {options : QueryDirectoryRequestOptions}
    (h : server.Left s (.queryDirectory options) s') : s'.objects = s.objects := by
  refine h.objects_eq ?_
  rintro reply m ⟨response, file, -, -, hlists⟩
  obtain ⟨rest, -, -, rfl⟩ := hlists.part
  rfl

/-- The listing after one more part of it. -/
theorem Listing.next {directory : ServerPath} {fileId : FileId} {firstQuery : Bool}
    {entries : List DirectoryEntry} {response : QueryDirectoryResponse} {s₀ : ServerState}
    (h : Listing server s₀ directory fileId firstQuery entries s)
    (houtcome : server.Outcome s (.queryDirectory
      { fileId, flags := if firstQuery then kQueryDirectoryRestartScans else 0 })
      decodeQueryDirectoryResponse (.ok response) s') :
    Listing server s₀ directory fileId false (entries ++ response.entries) s' ∧
      (response.status = kStatusNoMoreFiles ∨ response.entries = [] →
        server.Enumerates s₀.objects directory entries) := by
  obtain ⟨file, hfile, hpath, hkeep, hentries⟩ := h.file
  obtain ⟨reply, hread, response', file', hread', hfile', hlists⟩ := houtcome
  rw [hread] at hread'
  cases hread'
  rw [hfile] at hfile'
  cases hfile'
  obtain ⟨rest, hpart, hlast, rfl⟩ := hlists.part
  have hall : server.Enumerates s₀.objects directory (entries ++ response.entries ++ rest) := by
    cases firstQuery with
    | true =>
      rw [if_pos rfl] at hentries
      change if kQueryDirectoryRestartScans &&& kQueryDirectoryRestartScans ≠ 0 then _ else _
        at hpart
      rw [if_pos (by decide), h.objects, hpath] at hpart
      rw [hentries]
      exact hpart
    | false =>
      rw [if_neg Bool.false_ne_true] at hentries
      change if (0 : UInt8) &&& kQueryDirectoryRestartScans ≠ 0 then _ else _ at hpart
      rw [if_neg (by decide)] at hpart
      rw [hpart, ← List.append_assoc] at hentries
      exact hentries
  refine ⟨⟨h.objects, h.failed, _, ServerState.openFiles_setOpen _ _ _, hpath, hkeep, ?_⟩, ?_⟩
  · rw [if_neg Bool.false_ne_true]
    exact hall
  · intro hend
    obtain ⟨hnone, hrest⟩ := hlast hend
    rw [hnone, hrest, List.append_nil, List.append_nil] at hall
    exact hall

/-- How the pages of a listing end. -/
abbrev Pages (server : FileServer) (s : ServerState) (directory : ServerPath) (fileId : FileId) :
    Except Exn (DecodeResult (List DirectoryEntry × ℕ)) → ServerState → Prop :=
  Ends (fun s' => s'.objects = s.objects)
    (fun (entries, _) s' => server.Enumerates s.objects directory entries ∧
      ∃ rest, Listing server s directory fileId false rest s') True

/-- The directory at the path may be listed. -/
def MayList (guard : ServerState → RequestBody → Prop) (objects : Objects)
    (directory : ServerPath) : Prop :=
  ∀ s₁ options file, s₁.objects = objects → s₁.openFiles options.fileId = some file →
    file.path = directory → guard s₁ (.queryDirectory options)

theorem meets_listPages {directory : ServerPath} {fileId : FileId} {fuel used : ℕ}
    {firstQuery : Bool} {entries : List DirectoryEntry} {s₀ : ServerState}
    (hlist : MayList guard s₀.objects directory) (hlive : strict = true → s₀.failed = false)
    (h : Listing server s₀ directory fileId firstQuery entries s) :
    MeetsE (server.contract strict guard)
      (listPages messageId treeId sessionId context fileId fuel firstQuery used entries)
      (Pages server s₀ directory fileId) s := by
  induction fuel generalizing firstQuery entries used s with
  | zero => exact .of_throw h.objects
  | succ fuel ih =>
    rw [listPages]
    obtain ⟨file, hfile, hpath, -, -⟩ := h.file
    have hsend : MaySend strict guard s (.queryDirectory
        { fileId, flags := if firstQuery then kQueryDirectoryRestartScans else 0 }) := by
      refine ⟨fun hstrict => h.failed.trans (hlive hstrict), ?_⟩
      exact hlist s { fileId, flags := _ } file h.objects hfile hpath
    refine meetsE_bind.2 ((meets_queryDirectoryPayload hsend).mono ?_)
    rintro (e | e | payload) m hm
    · exact .of_throw (by rw [show m = s from hm, h.objects])
    · exact hm.2.ends (hm.1.objects_queryDirectory.trans h.objects) rfl
    have houtcome := hm.queried
    have hkept : m.objects = s₀.objects := by
      cases hdecoded : decodeQueryDirectoryResponse payload with
      | ok response =>
        rw [hdecoded] at houtcome
        exact (h.next houtcome).1.objects
      | error e =>
        rw [hdecoded] at houtcome
        exact houtcome.1.objects_queryDirectory.trans h.objects
    refine meetsE_bind.2 (meets_look ?_ ?_)
    · exact .of_cancelled hkept
    simp only [Bool.false_eq_true, if_false]
    cases hdecoded : decodeQueryDirectoryResponse payload with
    | error e =>
      rw [hdecoded] at houtcome
      exact houtcome.2.ends hkept rfl
    | ok response =>
    rw [hdecoded] at houtcome
    obtain ⟨hnext, hend⟩ := h.next houtcome
    have hended : response.status = kStatusNoMoreFiles ∨ response.entries = [] →
        Pages server s₀ directory fileId (.ok (.ok (entries, used + 1))) m := by
      exact fun hlast => .of_ok hkept ⟨hend hlast, _, hnext⟩
    dsimp only
    split
    · rename_i hstatus
      exact hended (.inl hstatus)
    split
    · rename_i hnone
      exact hended (.inr hnone)
    · exact ih hnext

/-- How the listing of a directory ends: the tree stays, and the result is what the directory
    holds. -/
abbrev ListsObjects {α : Type} (server : FileServer) (s : ServerState) (path : ByteVector)
    (entriesOf : α → List DirectoryEntry → Prop) :
    Except Exn (DecodeResult α) → ServerState → Prop :=
  Ends (fun s' => s'.objects = s.objects)
    (fun a s' => s'.failed = s.failed ∧
      ∃ entries, entriesOf a entries ∧ server.Enumerates s.objects (server.target path) entries)
    True

theorem actsOn_listCreateOptions (server : FileServer) (path : ByteVector) :
    server.actsOn (listCreateOptions path) = server.target path := by
  refine actsOn_of_plain ?_
  show kFileDirectoryFile &&& kFileOpenReparsePoint = 0
  decide

theorem looks_list : Looks (.create (listCreateOptions path)) := by
  refine ⟨rfl, ?_⟩
  show (kFileListDirectory ||| kFileReadEa ||| kFileReadAttributes) &&& kDeleteAccess = 0
  decide

theorem meets_directoryLister {fuel : ℕ} (hguard : Lenient guard)
    (hlist : MayList guard s.objects (server.target path))
    (hlive : strict = true → s.failed = false) :
    MeetsE (server.contract strict guard)
      (directoryLister messageId treeId sessionId context fuel path)
      (ListsObjects server s path fun result entries => result.entries = entries) s := by
  have hat := actsOn_listCreateOptions server path
  rw [directoryLister]
  refine meetsE_bind.2 (meets_look ?_ ?_)
  · exact .of_cancelled rfl
  refine meetsE_bind.2 ((meets_createPayload ⟨hlive, hguard _ _ looks_list⟩).mono ?_)
  rintro (e | e | createPayload) s₁ hcreate
  · exact .of_throw (by rw [show s₁ = s from hcreate])
  · exact hcreate.2.ends (hcreate.1.objects_open rfl) rfl
  have hcreated := hcreate.created
  have hkept₁ : s₁.objects = s.objects := by
    cases h : decodeCreateResponse createPayload with
    | ok create =>
      rw [h] at hcreated
      exact (hcreated.opens.objects_eq rfl).1
    | error e =>
      rw [h] at hcreated
      exact hcreated.1.objects_open rfl
  refine meetsE_bind.2 (meets_look ?_ ?_)
  · exact .of_cancelled hkept₁
  dsimp only [Bool.false_eq_true, if_false]
  cases hdecoded : decodeCreateResponse createPayload with
  | error e =>
    rw [hdecoded] at hcreated
    exact hcreated.2.ends hkept₁ rfl
  | ok create =>
  rw [hdecoded] at hcreated
  have hopens := hcreated.opens
  have hfile := hopens.openFiles_eq
  rw [hat] at hfile
  have hstart : Listing server s (server.target path) create.fileId true [] s₁ :=
    ⟨hkept₁, hopens.failed_eq, _, hfile, rfl, rfl, by rw [if_pos rfl]⟩
  refine meetsE_bind.2 ((meets_listPages hlist hlive hstart).mono ?_)
  rintro (e | e | ⟨entries, used⟩) s₂ hpages
  · exact .of_throw hpages.always
  · exact hpages.handed id rfl id
  obtain ⟨henumerates, rest, hlisting⟩ := hpages.success _ rfl
  obtain ⟨file, hfile₂, hpath, hkeep, -⟩ := hlisting.file
  have hlive₂ : strict = true → s₂.failed = false := fun h => hlisting.failed.trans (hlive h)
  refine meetsE_bind.2 ((meets_closeExchanger ⟨hlive₂, hguard _ _ trivial⟩).mono ?_)
  rintro (e | r) s₃ hclosed
  · exact .of_throw (by rw [show s₃ = s₂ from hclosed, hlisting.objects])
  obtain ⟨hdone, hobjects⟩ := hclosed.closes hfile₂
  have hkept₃ : s₃.objects = s.objects := by
    rw [close_objects_of_kept hkeep, or_self] at hobjects
    exact hobjects.trans hlisting.objects
  cases r with
  | error e => exact hclosed.2.ends hkept₃ rfl
  | ok response =>
    refine .of_ok hkept₃ ⟨?_, entries, rfl, henumerates⟩
    rw [hdone _ rfl, close_failed]
    exact hlisting.failed

/-- The entries that a session makes of a listing. -/
def listedEntries (listed : List NativeRemoteEntry) (entries : List DirectoryEntry) : Prop :=
  listed = (entries.filter fun entry => ¬ isDotEntry entry.name).map toNativeEntry

theorem meets_listDirectory {fuel : ℕ} (hguard : Lenient guard)
    (hlist : MayList guard s.objects (server.target path))
    (hlive : strict = true → s.failed = false) :
    MeetsS (server.contract strict guard) (Session.listDirectory fuel path context)
      (fun r _ s' => ListsObjects server s path listedEntries r s') session s := by
  rw [Session.listDirectory]
  refine meetsS_enter ⟨trivial, ?_⟩
  rintro m rfl
  refine meetsS_sessionGet.2 (meetsS_bind.2 (meetsS_withIds.2
    ((meets_directoryLister hguard hlist hlive).mono ?_)))
  rintro (e | e | result) s' h
  · exact .of_throw h.always
  · exact h.handed id rfl id
  · obtain ⟨hfailed, entries, rfl, henumerates⟩ := h.success result rfl
    exact .of_ok h.always ⟨hfailed, _, rfl, henumerates⟩

/-! ## Delete -/

/-- The object at a path goes. -/
structure Erases (server : FileServer) (objects : Objects) (path : ServerPath)
    (objects' : Objects) : Prop where
  present : objects path ≠ none
  empty : server.deletesFull = false → objects.NothingBelow path
  objects' : objects' = objects.erase path

/-- How a delete ends: at most the object at the path goes. -/
abbrev DeletesObject {α : Type} (server : FileServer) (s : ServerState) (path : ByteVector) :
    Except Exn (DecodeResult α) → ServerState → Prop :=
  Ends (fun s' => s'.objects = s.objects ∨
      server.Erases s.objects (server.target path) s'.objects)
    (fun _ s' => s'.failed = s.failed ∧
      server.Erases s.objects (server.target path) s'.objects) True

/-- The file that a delete marks. -/
def Marks (server : FileServer) (path : ByteVector) (objects : Objects) (s : ServerState)
    (options : SetInfoRequestOptions) : Prop :=
  s.objects = objects ∧ objects (server.target path) ≠ none ∧
    s.openFiles options.fileId = some { path := server.target path } ∧
    options.fileInfoClass = kFileDispositionInformation

theorem Left.objects_setInfo {options : SetInfoRequestOptions}
    (hclass : options.fileInfoClass = kFileDispositionInformation)
    (h : server.Left s (.setInfo options) s') : s'.objects = s.objects := by
  refine h.objects_eq ?_
  rintro reply m ⟨response, file, -, -, hsets⟩
  rw [SetsInfo, if_pos hclass] at hsets
  rw [hsets.2]
  rfl

theorem actsOn_openForMutation (server : FileServer) (path : ByteVector) (directory : Bool) :
    server.actsOn (openForMutationOptions path directory) = server.target path := by
  refine actsOn_of_plain ?_
  cases directory with
  | true =>
    show kFileDirectoryFile &&& kFileOpenReparsePoint = 0
    decide
  | false =>
    show (0 : UInt32) &&& kFileOpenReparsePoint = 0
    decide

theorem meets_objectDelete {directory : Bool}
    (hcreate : guard s (.create (openForMutationOptions path directory)))
    (hmark : ∀ s₁ options, Marks server path s.objects s₁ options → guard s₁ (.setInfo options))
    (hclose : ∀ s₁ options, guard s₁ (.close options)) (hlive : strict = true → s.failed = false) :
    MeetsE (server.contract strict guard)
      (objectDelete messageId treeId sessionId context path directory)
      (DeletesObject server s path) s := by
  have hat := actsOn_openForMutation server path directory
  rw [objectDelete, setInfoOnObject, withObject]
  refine meetsE_bind.2 (meets_look ?_ ?_)
  · exact .of_cancelled (.inl rfl)
  refine meetsE_bind.2 ((meets_openFile ⟨hlive, hcreate⟩).mono ?_)
  rintro (e | e | create) s₁ h
  · exact .of_throw (.inl (by rw [show s₁ = s from h]))
  · exact h.2.ends (.inl (h.1.objects_open rfl)) rfl
  have hopens := h.opens
  obtain ⟨hkept₁, hsome⟩ := hopens.objects_eq rfl
  rw [hat] at hsome
  have hfile := hopens.openFiles_eq
  rw [hat] at hfile
  have hlive₁ : strict = true → s₁.failed = false := by
    rw [hopens.failed_eq]
    exact hlive
  refine meetsE_bind.2 (meets_look ?_ ?_)
  · exact .of_cancelled (.inl hkept₁)
  dsimp only [Bool.false_eq_true, if_false]
  refine meetsE_ofExcept.2 ?_
  dsimp only
  have hmarks : ∀ options : SetInfoRequestOptions, options.fileId = create.fileId →
      options.fileInfoClass = kFileDispositionInformation → guard s₁ (.setInfo options) := by
    intro options hid hclass
    refine hmark s₁ options ⟨hkept₁, hsome, ?_, hclass⟩
    rw [hid]
    exact hfile
  refine meetsE_bind.2 ((meets_setInfoExchanger ⟨hlive₁, hmarks _ rfl rfl⟩).mono ?_)
  rintro (e | e | marked) s₂ hmarked
  · exact .of_throw (.inl (by rw [show s₂ = s₁ from hmarked, hkept₁]))
  · exact hmarked.2.ends (.inl ((hmarked.1.objects_setInfo rfl).trans hkept₁)) rfl
  obtain ⟨reply, -, response, file, -, hfile', hsets⟩ := hmarked
  rw [hfile] at hfile'
  cases hfile'
  rw [SetsInfo, if_pos rfl] at hsets
  obtain ⟨hempty, hsets⟩ := hsets
  have hfile₂ : s₂.openFiles create.fileId =
      some { path := server.target path, deletePending := true } := by
    rw [hsets]
    exact ServerState.openFiles_setOpen _ _ _
  have hkept₂ : s₂.objects = s.objects := by
    rw [hsets]
    exact hkept₁
  have hlive₂ : s₂.failed = s.failed := by
    rw [hsets]
    exact hopens.failed_eq
  rw [closeAndReturn]
  refine meetsE_bind.2 ((meets_closeExchanger ⟨fun h => hlive₂.trans (hlive h), hclose _ _⟩).mono ?_)
  rintro (e | r) s₃ hclosed
  · exact .of_throw (.inl (by rw [show s₃ = s₂ from hclosed, hkept₂]))
  obtain ⟨hdone, hobjects⟩ := hclosed.closes hfile₂
  have herase : (close s₂ create.fileId
      { path := server.target path, deletePending := true }).objects =
        s.objects.erase (server.target path) := by
    rw [← hkept₂]
    rfl
  rw [herase, hkept₂] at hobjects
  rw [hkept₁] at hempty
  have herases : s₃.objects = s.objects.erase (server.target path) →
      server.Erases s.objects (server.target path) s₃.objects :=
    fun hobjects => ⟨hsome, fun hfull => hempty hfull rfl, hobjects⟩
  cases r with
  | error e => exact hclosed.2.ends (hobjects.imp_right herases) rfl
  | ok response =>
    refine .of_ok (hobjects.imp_right herases) ⟨?_, herases ?_⟩
    · rw [hdone _ rfl]
      exact hlive₂
    · rw [hdone _ rfl]
      exact herase

theorem meets_deleteObject {directory : Bool}
    (hcreate : guard s (.create (openForMutationOptions path directory)))
    (hmark : ∀ s₁ options, Marks server path s.objects s₁ options → guard s₁ (.setInfo options))
    (hclose : ∀ s₁ options, guard s₁ (.close options)) (hlive : strict = true → s.failed = false) :
    MeetsS (server.contract strict guard) (Session.deleteObject path directory context)
      (fun r _ s' => DeletesObject server s path r s') session s := by
  refine meetsS_withAllocatedIds fun m t sid =>
    (meets_objectDelete hcreate hmark hclose hlive).mono ?_
  rintro (e | e | a) s' h
  · exact .of_throw h.always
  · exact fun e' hcode => h.handed id hcode id
  · exact .of_ok h.always (h.success a rfl)

end FileServer

end SmbBrowser.Native
