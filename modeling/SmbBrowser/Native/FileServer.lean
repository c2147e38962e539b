import SmbBrowser.Base.FileTree
import SmbBrowser.Native.CopyTiles

/-!
# A file server

An abstract server that keeps a tree of files and directories and answers the requests of
the native client: what a request that is granted does to the tree and to the open files,
and what the response says about them.  Any request may be refused, and a request may be
carried out although its response is lost.

Results:
* `Answers.outcome`: what the client reads in an answer, and what happened on the server;
* `meets_exchangePayload`, `meets_exchangeResponse`: one request of the client;
* `Left.objects_cases`: a request that is not taken as granted was carried out or not.
-/

namespace SmbBrowser.Native

open SmbBrowser.Base

/-! ## Objects and open files -/

/-- The names along the way to an object of a share. -/
abbrev ServerPath := List ByteVector

/-- A file, a directory or a reparse point. -/
structure FileObject where
  directory : Bool := false
  reparsePoint : Bool := false
  content : ByteVector := []

/-- Only directories hold other objects, and reparse points do not. -/
def FileObject.Holds (object : FileObject) : Prop :=
  object.directory = true ∧ object.reparsePoint = false

abbrev Objects := FileTree ByteVector FileObject

/-- An open file: the entries of a directory that were not listed yet come last. -/
structure OpenFile where
  path : ServerPath
  deletePending : Bool := false
  listing : List DirectoryEntry := []

/-- The state of a share.  `failed` remembers that some request was not answered with a
    success, or that the client was told to stop. -/
structure ServerState where
  objects : Objects
  openFiles : FileId → Option OpenFile := fun _ => none
  resumeKeys : ByteVector → Option ServerPath := fun _ => none
  failed : Bool := false

namespace ServerState

def fail (s : ServerState) : ServerState := { s with failed := true }

/-- Another open file, or none, behind a file id. -/
def setOpen (s : ServerState) (fileId : FileId) (file : Option OpenFile) : ServerState :=
  { s with openFiles := fun id => if id = fileId then file else s.openFiles id }

variable (s : ServerState) (fileId : FileId) (file : Option OpenFile)

@[simp] theorem objects_fail : s.fail.objects = s.objects := rfl

@[simp] theorem openFiles_fail : s.fail.openFiles = s.openFiles := rfl

@[simp] theorem objects_setOpen : (s.setOpen fileId file).objects = s.objects := rfl

@[simp] theorem failed_setOpen : (s.setOpen fileId file).failed = s.failed := rfl

@[simp] theorem openFiles_setOpen : (s.setOpen fileId file).openFiles fileId = file := if_pos rfl

end ServerState

/-- The name of a directory entry: not empty, and without separators. -/
structure PlainName (name : ByteVector) : Prop where
  nonempty : name ≠ []
  backslash : (0x5C : UInt8) ∉ name
  slash : (0x2F : UInt8) ∉ name

/-- How a server reads paths.  Names that it does not distinguish have the same `key`; a
    path locates an entry of the directory that the path before its last name refers to,
    and the `referent` of an entry is the object that it links to, or itself.  The server
    may write fewer bytes than it was sent only with `shortWrites`, and mark a directory that
    still holds something to be deleted only with `deletesFull`. -/
structure FileServer where
  key : ByteVector → ByteVector
  locate : ByteVector → ServerPath
  referent : ServerPath → ServerPath
  shortWrites : Bool := false
  deletesFull : Bool := false
  locate_join : ∀ parent name, PlainName name →
    locate (joinRemotePath parent name) = referent (locate parent) ++ [key name]

/-- The names between the separators of a path. -/
def pathNames (path : ByteVector) : List ByteVector :=
  (path.splitOnP fun b => b = 0x5C || b = 0x2F).filter (· ≠ [])

theorem pathNames_plain {name : ByteVector} (h : PlainName name) : pathNames name = [name] := by
  have hsplit : name.splitOnP (fun b => b = 0x5C || b = 0x2F) = [name] := by
    refine List.splitOnP_eq_singleton fun b hb => ?_
    have hbackslash : b ≠ 0x5C := fun hsame => h.backslash (hsame ▸ hb)
    have hslash : b ≠ 0x2F := fun hsame => h.slash (hsame ▸ hb)
    simp [hbackslash, hslash]
  rw [pathNames, hsplit]
  simp [h.nonempty]

theorem pathNames_append_cons (path rest : ByteVector) {b : UInt8} (hb : b = 0x5C ∨ b = 0x2F) :
    pathNames (path ++ b :: rest) = pathNames path ++ pathNames rest := by
  rw [pathNames, List.splitOnP_append_cons _ _ (by simpa using hb), List.filter_append]
  rfl

theorem pathNames_joinRemotePath (parent : ByteVector) {name : ByteVector} (h : PlainName name) :
    pathNames (joinRemotePath parent name) = pathNames parent ++ [name] := by
  unfold joinRemotePath
  split
  · rename_i hnone
    rw [hnone, pathNames_plain h]
    rfl
  split
  · rename_i hlast
    have hsplit : ∀ b, parent.getLast? = some b → b = 0x5C ∨ b = 0x2F →
        pathNames (parent ++ name) = pathNames parent ++ [name] := by
      intro b hb hseparator
      obtain ⟨start, rfl⟩ := List.getLast?_eq_some_iff.1 hb
      rw [List.append_assoc, List.singleton_append, pathNames_append_cons _ _ hseparator,
        pathNames_append_cons _ _ hseparator, pathNames_plain h]
      simp [pathNames]
    obtain hlast | hlast := hlast
    · exact hsplit _ hlast (.inl rfl)
    · exact hsplit _ hlast (.inr rfl)
  · rw [List.append_assoc, List.singleton_append, pathNames_append_cons _ _ (.inl rfl),
      pathNames_plain h]

/-- A server that walks along the names of a path and follows the links on the way. -/
def FileServer.walking (key : ByteVector → ByteVector) (referent : ServerPath → ServerPath) :
    FileServer where
  key := key
  locate path := (pathNames path).foldl (fun entry name => referent entry ++ [key name]) []
  referent := referent
  locate_join parent name h := by
    rw [pathNames_joinRemotePath parent h, List.foldl_append]
    rfl

/-- `content` with `data` at an offset, and zeros where nothing was; no data extend
    nothing. -/
def writeAt (content : ByteVector) (offset : ℕ) (data : ByteVector) : ByteVector :=
  if data = [] then content
  else content.take offset ++ List.replicate (offset - content.length) 0 ++ data ++
    content.drop (offset + data.length)

@[simp] theorem writeAt_nil (content : ByteVector) (offset : ℕ) :
    writeAt content offset [] = content := if_pos rfl

theorem writeAt_empty (data : ByteVector) : writeAt [] 0 data = data := by
  by_cases hdata : data = []
  · rw [hdata, writeAt_nil]
  · simp [writeAt, hdata]

/-- Writing what comes next in a file over a part of the file. -/
theorem writeAt_over {file : ByteVector} {offset length n : ℕ} (hn : offset ≤ n)
    (h : offset ≤ file.length) :
    writeAt (file.take n) offset ((file.drop offset).take length) =
      file.take (max n (offset + length)) := by
  have hlength : ((file.drop offset).take length).length = min length (file.length - offset) := by
    rw [List.length_take, List.length_drop]
  by_cases hdata : (file.drop offset).take length = []
  · rw [hdata, List.length_nil] at hlength
    rw [hdata, writeAt_nil, List.take_eq_take_iff]
    omega
  · have hpad : offset - (file.take n).length = 0 := by
      rw [List.length_take]
      omega
    have hend : offset + min length (file.length - offset) = min (offset + length) file.length := by
      omega
    rw [writeAt, if_neg hdata, hpad, List.replicate_zero, List.append_nil, List.take_take,
      Nat.min_eq_left hn, ← List.take_add, hlength, hend, List.drop_take, List.take_eq_take_min,
      ← List.take_add, List.take_eq_take_iff]
    omega

/-- Writing a part of what comes next in a file. -/
theorem writeAt_next {file : ByteVector} {offset length : ℕ} (h : offset ≤ file.length) :
    writeAt (file.take offset) offset ((file.drop offset).take length) =
      file.take (offset + length) := by
  rw [writeAt_over le_rfl h, Nat.max_eq_right (Nat.le_add_right _ _)]

/-! ## Granted requests -/

namespace FileServer

variable (server : FileServer) (s : ServerState)

/-- The object that a CREATE is about. -/
def actsOn (options : CreateRequestOptions) : ServerPath :=
  if options.createOptions &&& kFileOpenReparsePoint ≠ 0 then server.locate options.path
  else server.referent (server.locate options.path)

/-- What the disposition of a CREATE makes of the tree. -/
def Disposes (options : CreateRequestOptions) (path : ServerPath) (objects objects' : Objects) :
    Prop :=
  if options.createDisposition = kFileOpen then
    objects path ≠ none ∧ objects' = objects
  else if options.createDisposition = kFileOpenIf then
    objects' = if (objects path).isSome then objects else objects.set path {}
  else if options.createDisposition = kFileOverwriteIf then
    objects' = objects.set path {}
  else if options.createDisposition = kFileCreate then
    objects path = none ∧ objects' = objects.set path {
      directory := options.createOptions &&& kFileDirectoryFile ≠ 0 }
  else
    objects' = objects

section

variable {options : CreateRequestOptions} {path : ServerPath} {objects objects' : Objects}

theorem disposes_open (h : options.createDisposition = kFileOpen) :
    Disposes options path objects objects' ↔ objects path ≠ none ∧ objects' = objects := by
  rw [Disposes, if_pos h]

theorem disposes_openIf (h : options.createDisposition = kFileOpenIf) :
    Disposes options path objects objects' ↔
      objects' = if (objects path).isSome then objects else objects.set path {} := by
  rw [Disposes, h, if_neg (by decide), if_pos rfl]

theorem disposes_overwriteIf (h : options.createDisposition = kFileOverwriteIf) :
    Disposes options path objects objects' ↔ objects' = objects.set path {} := by
  rw [Disposes, h, if_neg (by decide), if_neg (by decide), if_pos rfl]

theorem disposes_create (h : options.createDisposition = kFileCreate) :
    Disposes options path objects objects' ↔ objects path = none ∧ objects' = objects.set path {
      directory := options.createOptions &&& kFileDirectoryFile ≠ 0 } := by
  rw [Disposes, h, if_neg (by decide), if_neg (by decide), if_neg (by decide), if_pos rfl]

end

/-- A CREATE that opens a file under a new file id. -/
structure Opens (options : CreateRequestOptions) (create : CreateResponse) (s' : ServerState) :
    Prop where
  fresh : s.openFiles create.fileId = none
  fits : options.createOptions &&& kFileNonDirectoryFile ≠ 0 →
    ∀ object ∈ s.objects (server.actsOn options), object.directory = false
  objects : Disposes options (server.actsOn options) s.objects s'.objects
  parent : s.objects (server.actsOn options) = none →
    FileTree.HasParent FileObject.Holds s.objects (server.actsOn options)
  endOfFile : ∀ object ∈ s'.objects (server.actsOn options), object.directory = false →
    create.endOfFile.toNat = object.content.length
  state : s' = { s with objects := s'.objects }.setOpen create.fileId
    (some { path := server.actsOn options })
  reparsePoint : create.isReparsePoint = true →
    ∀ object ∈ s'.objects (server.actsOn options), object.reparsePoint = true

/-- Closing a file that is to be deleted takes its object away. -/
def close (fileId : FileId) (file : OpenFile) : ServerState :=
  { s with
    objects := if file.deletePending then s.objects.erase file.path else s.objects }.setOpen
      fileId none

/-- What a response to QUERY_INFO says about an object. -/
structure Describes (options : QueryInfoRequestOptions) (response : QueryInfoResponse)
    (object : FileObject) : Prop where
  basic : options.fileInfoClass = kFileBasicInformation →
    ∀ info, decodeFileBasicInformation response.buffer = .ok info →
      (info.fileAttributes &&& kFileAttributeReparsePoint ≠ 0 ↔ object.reparsePoint = true)
  standard : options.fileInfoClass = kFileStandardInformation →
    ∀ info, decodeFileStandardInformation response.buffer = .ok info →
      info.directory = object.directory ∧
        (object.directory = false → info.endOfFile.toNat = object.content.length)

/-- The entries of a directory besides the dot entries, in some order, each with its
    attributes. -/
structure Enumerates (objects : Objects) (directory : ServerPath) (entries : List DirectoryEntry) :
    Prop where
  entry : ∀ entry ∈ entries, isDotEntry entry.name = false →
    PlainName entry.name ∧ ∃ object, objects (directory ++ [server.key entry.name]) = some object ∧
      entry.isDirectory = object.directory ∧ entry.isReparsePoint = object.reparsePoint
  complete : ∀ name, objects (directory ++ [name]) ≠ none →
    ∃ entry ∈ entries, isDotEntry entry.name = false ∧ server.key entry.name = name

/-- A part of a listing, which a first request starts over; an empty part ends it. -/
structure Lists (options : QueryDirectoryRequestOptions) (response : QueryDirectoryResponse)
    (file : OpenFile) (s' : ServerState) : Prop where
  part : ∃ rest,
    (if options.flags &&& kQueryDirectoryRestartScans ≠ 0 then
      server.Enumerates s.objects file.path (response.entries ++ rest)
    else file.listing = response.entries ++ rest) ∧
    (response.status = kStatusNoMoreFiles ∨ response.entries = [] →
      response.entries = [] ∧ rest = []) ∧
    s' = s.setOpen options.fileId (some { file with listing := rest })

/-- An open object gets another path, with everything below it; only where the request says
    so may it replace another object there. -/
structure Renames (options : SetInfoRequestOptions) (file : OpenFile) (s' : ServerState) : Prop where
  state : ∃ target, s.objects file.path ≠ none ∧
    (∀ newPath replaceIfExists,
      buildFileRenameInformation newPath replaceIfExists = .ok options.buffer →
      target = server.locate newPath ∧
        (replaceIfExists = true ∨ s.objects target = none ∨ target = file.path)) ∧
    (file.path <+: target → target = file.path) ∧
    FileTree.HasParent FileObject.Holds s.objects target ∧
    s' = { s with objects := s.objects.move file.path target }.setOpen options.fileId
      (some { file with path := target })

/-- SET_INFO marks a file to be deleted or gives it another path. -/
def SetsInfo (options : SetInfoRequestOptions) (file : OpenFile) (s' : ServerState) : Prop :=
  if options.fileInfoClass = kFileDispositionInformation then
    (server.deletesFull = false → options.buffer = buildFileDispositionInformation true →
      s.objects.NothingBelow file.path) ∧
    s' = s.setOpen options.fileId (some { file with
      deletePending := options.buffer = buildFileDispositionInformation true })
  else if options.fileInfoClass = kFileRenameInformation then
    server.Renames s options file s'
  else
    s' = s

/-- A WRITE of as many bytes as its response says. -/
structure Writes (options : WriteRequestOptions) (response : WriteResponse) (file : OpenFile)
    (s' : ServerState) : Prop where
  count : response.count.toNat ≤ options.data.length
  whole : server.shortWrites = false → response.count.toNat = options.data.length
  state : ∃ object, s.objects file.path = some object ∧
    s' = { s with objects := s.objects.set file.path { object with
      content := writeAt object.content options.offset.toNat
        (options.data.take response.count.toNat) } }

/-- A READ of bytes from the offset on, perhaps fewer than asked for, but some if there are
    any. -/
structure Reads (options : ReadRequestOptions) (response : ReadResponse) (file : OpenFile) : Prop where
  data : ∃ object, s.objects file.path = some object ∧
    response.data <+: (object.content.drop options.offset.toNat).take options.length.toNat ∧
    (response.data = [] →
      (object.content.drop options.offset.toNat).take options.length.toNat = [])

/-- A copy of a part of a chunk, as many bytes as the response says. -/
structure CopiesChunk (options : IoctlRequestOptions) (response : IoctlResponse) (file : OpenFile)
    (s' : ServerState) : Prop where
  state : ∃ source sourceObject object copied,
    s.resumeKeys (options.input.take 24) = some source ∧
    s.objects source = some sourceObject ∧ s.objects file.path = some object ∧
    copied <+: (sourceObject.content.drop (chunkOf options.input).sourceOffset.toNat).take
      (chunkOf options.input).length.toNat ∧
    (∀ parsed, decodeSrvCopyChunkResponse response.output = .ok parsed →
      copied.length = parsed.totalBytesWritten.toNat) ∧
    s' = { s with objects := s.objects.set file.path { object with
      content := writeAt object.content (chunkOf options.input).targetOffset.toNat copied } }

/-- IOCTL hands out a resume key of a file or copies a chunk. -/
def Controls (options : IoctlRequestOptions) (response : IoctlResponse) (file : OpenFile)
    (s' : ServerState) : Prop :=
  if options.ctlCode = kFsctlSrvRequestResumeKey then
    s' = { s with resumeKeys := fun key =>
      if key = response.output.take 24 then some file.path else s.resumeKeys key }
  else if options.ctlCode = kFsctlSrvCopyChunk then
    CopiesChunk s options response file s'
  else
    s' = s

/-- A request that was granted, with its response. -/
def Grants : RequestBody → DecodeResult ByteVector → ServerState → Prop
  | .create options, reply, s' => ∃ create,
    decodedReply decodeCreateResponse reply = .ok create ∧ server.Opens s options create s'
  | .close options, reply, s' => ∃ response file,
    decodedReply decodeCloseResponse reply = .ok response ∧
      s.openFiles options.fileId = some file ∧ s' = close s options.fileId file
  | .queryInfo options, reply, s' => ∃ response file object,
    decodedReply decodeQueryInfoResponse reply = .ok response ∧
      s.openFiles options.fileId = some file ∧ s.objects file.path = some object ∧
      Describes options response object ∧ s' = s
  | .queryDirectory options, reply, s' => ∃ response file,
    decodedReply decodeQueryDirectoryResponse reply = .ok response ∧
      s.openFiles options.fileId = some file ∧ server.Lists s options response file s'
  | .setInfo options, reply, s' => ∃ response file,
    decodedReply decodeSetInfoResponse reply = .ok response ∧
      s.openFiles options.fileId = some file ∧ server.SetsInfo s options file s'
  | .write options, reply, s' => ∃ response file,
    decodedReply decodeWriteResponse reply = .ok response ∧
      s.openFiles options.fileId = some file ∧ server.Writes s options response file s'
  | .read options, reply, s' => ∃ response file,
    decodedReply decodeReadResponse reply = .ok response ∧
      s.openFiles options.fileId = some file ∧ Reads s options response file ∧ s' = s
  | .ioctl options, reply, s' => ∃ response file,
    decodedReply decodeIoctlResponse reply = .ok response ∧
      s.openFiles options.fileId = some file ∧ Controls s options response file s'
  | .changeNotify _, reply, s' => ∃ response,
    decodedReply decodeChangeNotifyResponse reply = .ok response ∧ s' = s

/-! ## Answers -/

end FileServer

/-- The error of a result. -/
def errorOf {α : Type} : DecodeResult α → Option ProtocolError
  | .ok _ => none
  | .error e => some e

/-- The error that the client reads in the reply to a request. -/
def refusal : RequestBody → DecodeResult ByteVector → Option ProtocolError
  | .create _, reply => errorOf (decodedReply decodeCreateResponse reply)
  | .close _, reply => errorOf (decodedReply decodeCloseResponse reply)
  | .queryInfo _, reply => errorOf (decodedReply decodeQueryInfoResponse reply)
  | .queryDirectory _, reply => errorOf (decodedReply decodeQueryDirectoryResponse reply)
  | .setInfo _, reply => errorOf (decodedReply decodeSetInfoResponse reply)
  | .write _, reply => errorOf (decodedReply decodeWriteResponse reply)
  | .read _, reply => errorOf (decodedReply decodeReadResponse reply)
  | .ioctl _, reply => errorOf (decodedReply decodeIoctlResponse reply)
  | .changeNotify _, reply => errorOf (decodedReply decodeChangeNotifyResponse reply)

namespace FileServer

variable (server : FileServer)

/-- The object of a request is not there. -/
def Missing (s : ServerState) : RequestBody → Prop
  | .create options => s.objects (server.actsOn options) = none
  | .close options => ∀ file ∈ s.openFiles options.fileId, s.objects file.path = none
  | .queryInfo options => ∀ file ∈ s.openFiles options.fileId, s.objects file.path = none
  | _ => True

/-- A refusal is an error; it says that a file is not found only where there is none. -/
def Refuses (s : ServerState) (body : RequestBody) (e : ProtocolError) : Prop :=
  e.code ≠ .none ∧ (e.code = .fileNotFound → server.Missing s body)

/-- How the server answers: it grants a request, refuses it, or carries it out with its
    response lost. -/
inductive Answers (s : ServerState) (body : RequestBody) (reply : DecodeResult ByteVector) :
    ServerState → Prop where
  | granted {s'} : server.Grants s body reply s' → Answers s body reply s'
  | refused {e} : refusal body reply = some e → server.Refuses s body e →
      Answers s body reply s.fail
  | lost {e reply' s'} : refusal body reply = some e → server.Refuses s body e →
      server.Grants s body reply' s' → Answers s body reply s'.fail

/-- The server as the environment of the client, with a guard on the requests; where it is
    `strict`, nothing may be sent after a request that was refused or a cancellation. -/
def contract (strict : Bool) (guard : ServerState → RequestBody → Prop) :
    Contract Wire ServerState where
  allows s op :=
    match op with
    | .exchange sent _ => (strict = true → s.failed = false) ∧ guard s sent.request.body
    | _ => True
  step s e s' :=
    match e with
    | ⟨.exchange sent _, reply⟩ => server.Answers s sent.request.body reply s'
    | ⟨.isCancelled _, true⟩ => s' = s.fail
    | _ => s' = s

/-! ## One request of the client -/

/-- The client was told to stop, or not. -/
def Stopped (s s' : ServerState) : Prop := s' = s ∨ s' = s.fail

/-- What a request leaves that the client does not take as granted. -/
def Left (s : ServerState) (body : RequestBody) (s' : ServerState) : Prop :=
  ∃ m, (m = s ∨ ∃ reply, server.Answers s body reply m) ∧ Stopped m s'

/-- What one request with its decoder comes to. -/
def Outcome {α : Type} (s : ServerState) (body : RequestBody) (decode : ByteVector → DecodeResult α)
    (r : DecodeResult α) (s' : ServerState) : Prop :=
  match r with
  | .ok a => ∃ reply, decodedReply decode reply = .ok a ∧ server.Grants s body reply s'
  | .error e => server.Left s body s' ∧ server.Refuses s body e

/-- The decoder of the responses to a request. -/
def Decodes {α : Type} (body : RequestBody) (decode : ByteVector → DecodeResult α) : Prop :=
  ∀ reply, refusal body reply = errorOf (decodedReply decode reply)

section

variable {server} {α β : Type} {strict : Bool} {guard : ServerState → RequestBody → Prop}
  {s s' : ServerState} {body : RequestBody} {request : Request} {context : OperationContext}
  {reply : DecodeResult ByteVector} {decode : ByteVector → DecodeResult α} {asker : Asker}

theorem allowsLooks (server : FileServer) (strict : Bool)
    (guard : ServerState → RequestBody → Prop) : AllowsLooks (server.contract strict guard) where
  allows _ _ := trivial
  step h := h

theorem meets_look {Q : Except Exn Bool → ServerState → Prop} (hstop : Q (.ok true) s.fail)
    (hgo : Q (.ok false) s) :
    MeetsE (server.contract strict guard) (isCancelled asker context) Q s := by
  refine (allowsLooks server strict guard).isCancelled hgo ?_
  rintro m rfl
  exact hstop

theorem Stopped.objects_eq {m : ServerState} (h : Stopped m s') : s'.objects = m.objects := by
  obtain rfl | rfl := h
  · rfl
  · rfl

theorem Left.of_answers (h : server.Answers s body reply s') : server.Left s body s' :=
  ⟨s', .inr ⟨reply, h⟩, .inl rfl⟩

/-- The client reads the response to a request that was granted. -/
theorem Grants.refusal (h : server.Grants s body reply s') : Native.refusal body reply = none := by
  cases body with
  | create options =>
    obtain ⟨response, hread, -⟩ := h
    rw [Native.refusal, hread, errorOf]
  | close options =>
    obtain ⟨response, file, hread, -⟩ := h
    rw [Native.refusal, hread, errorOf]
  | queryInfo options =>
    obtain ⟨response, file, object, hread, -⟩ := h
    rw [Native.refusal, hread, errorOf]
  | queryDirectory options =>
    obtain ⟨response, file, hread, -⟩ := h
    rw [Native.refusal, hread, errorOf]
  | setInfo options =>
    obtain ⟨response, file, hread, -⟩ := h
    rw [Native.refusal, hread, errorOf]
  | write options =>
    obtain ⟨response, file, hread, -⟩ := h
    rw [Native.refusal, hread, errorOf]
  | read options =>
    obtain ⟨response, file, hread, -⟩ := h
    rw [Native.refusal, hread, errorOf]
  | ioctl options =>
    obtain ⟨response, file, hread, -⟩ := h
    rw [Native.refusal, hread, errorOf]
  | changeNotify options =>
    obtain ⟨response, hread, -⟩ := h
    rw [Native.refusal, hread, errorOf]

/-- A message that the client got, by what its decoder makes of it. -/
theorem Answers.outcome (h : server.Answers s body reply s') (hdecode : Decodes body decode)
    {r : DecodeResult α} (hr : decodedReply decode reply = r) :
    server.Outcome s body decode r s' := by
  subst hr
  have hrefusal := hdecode reply
  cases hresult : decodedReply decode reply with
  | ok a =>
    rw [hresult] at hrefusal
    cases h with
    | granted hgrants => exact ⟨reply, hresult, hgrants⟩
    | refused hrefused _ =>
      rw [hrefusal] at hrefused
      cases hrefused
    | lost hrefused _ _ =>
      rw [hrefusal] at hrefused
      cases hrefused
  | error e =>
    rw [hresult] at hrefusal
    refine ⟨.of_answers h, ?_⟩
    have hsome : ∀ e', refusal body reply = some e' → e' = e := by
      intro e' he'
      rw [hrefusal] at he'
      exact (Option.some.inj he').symm
    cases h with
    | granted hgrants =>
      rw [hgrants.refusal] at hrefusal
      cases hrefusal
    | refused hrefused hmissing => exact hsome _ hrefused ▸ hmissing
    | lost hrefused hmissing _ => exact hsome _ hrefused ▸ hmissing

theorem Outcome.of_cancelled {e : ProtocolError} (h : e.code = .cancelled)
    (hleft : server.Left s body s') : server.Outcome s body decode (.error e) s' := by
  refine ⟨hleft, by rw [h]; decide, fun hcode => ?_⟩
  rw [h] at hcode
  cases hcode

/-- An error with the same code. -/
theorem Outcome.same_code {e e' : ProtocolError} (h : server.Outcome s body decode (.error e) s')
    (hcode : e'.code = e.code) : server.Outcome s body decode (.error e') s' :=
  ⟨h.1, hcode ▸ h.2.1, fun h' => h.2.2 (hcode ▸ h')⟩

/-- The client may go on sending. -/
structure MaySend (strict : Bool) (guard : ServerState → RequestBody → Prop) (s : ServerState)
    (body : RequestBody) : Prop where
  live : strict = true → s.failed = false
  guard : guard s body

/-- What the client holds after a request before it decodes the message. -/
def Receives (server : FileServer) (s : ServerState) (body : RequestBody)
    (r : DecodeResult ByteVector) (s' : ServerState) : Prop :=
  match r with
  | .ok payload => ∃ reply, replyPayload reply = .ok payload ∧ server.Answers s body reply s'
  | .error e => server.Left s body s' ∧ server.Refuses s body e

/-- What a request that threw, or the answer to it, leaves. -/
def Follows (Q : DecodeResult α → ServerState → Prop) (s : ServerState) (r : Except Exn (DecodeResult α))
    (s' : ServerState) : Prop :=
  match r with
  | .ok a => Q a s'
  | .error _ => s' = s

theorem meets_exchangePayload (hsend : MaySend strict guard s request.body)
    (hdecode : Decodes request.body decode) :
    MeetsE (server.contract strict guard) (exchangePayload request context)
      (Follows (server.Receives s request.body) s) s := by
  rw [Native.exchangePayload]
  refine meetsE_bind.2 (exchangeFrame_meets (fun e _ => rfl) ?_)
  rintro sent rfl
  refine ⟨⟨hsend.live, hsend.guard⟩, fun reply m hm => ?_⟩
  have hanswers : server.Answers s sent.request.body reply m := hm
  cases reply with
  | error e => exact (hanswers.outcome hdecode (r := .error e) rfl).same_code rfl
  | ok frame =>
    have hpayload : replyPayload (.ok frame) = decodeDirectTcpPayload frame := rfl
    show server.Receives s sent.request.body (decodeDirectTcpPayload frame) m
    cases hmessage : decodeDirectTcpPayload frame with
    | ok payload => exact ⟨_, hpayload.trans hmessage, hanswers⟩
    | error e =>
      refine hanswers.outcome hdecode (r := .error e) ?_
      rw [decodedReply, hpayload, hmessage]
      rfl

/-- The message decoded. -/
theorem Receives.outcome {payload : ByteVector} (h : server.Receives s body (.ok payload) s')
    (hdecode : Decodes body decode) : server.Outcome s body decode (decode payload) s' := by
  obtain ⟨reply, hpayload, hanswers⟩ := h
  refine hanswers.outcome hdecode ?_
  rw [decodedReply, hpayload]
  rfl

/-- One request through an exchanger. -/
theorem meets_exchangeResponse {cancelled : String} (hsend : MaySend strict guard s request.body)
    (hdecode : Decodes request.body decode) :
    MeetsE (server.contract strict guard) (exchangeResponse cancelled decode request context)
      (Follows (server.Outcome s request.body decode) s) s := by
  rw [Native.exchangeResponse]
  refine meetsE_bind.2 (meets_look ?_ ?_)
  · show server.Outcome s request.body decode (failure .cancelled cancelled) s.fail
    exact Outcome.of_cancelled rfl ⟨s, .inl rfl, .inr rfl⟩
  · refine meetsE_bind.2 (exchangeFrame_meets (fun e _ => rfl) ?_)
    rintro sent rfl
    refine ⟨⟨hsend.live, hsend.guard⟩, fun reply m hm => ?_⟩
    have hanswers : server.Answers s sent.request.body reply m := hm
    cases reply with
    | error e => exact (hanswers.outcome hdecode (r := .error e) rfl).same_code rfl
    | ok frame =>
      refine meetsE_bind.2 (meets_look ?_ ?_)
      · show server.Outcome s sent.request.body decode (failure .cancelled cancelled) m.fail
        exact Outcome.of_cancelled rfl ⟨m, .inr ⟨_, hanswers⟩, .inr rfl⟩
      · have hpayload : replyPayload (.ok frame) = decodeDirectTcpPayload frame := rfl
        have hreceives : ∀ payload, decodeDirectTcpPayload frame = .ok payload →
            server.Outcome s sent.request.body decode (decode payload) m := by
          intro payload hmessage
          exact Receives.outcome ⟨_, hpayload.trans hmessage, hanswers⟩ hdecode
        dsimp only [Bool.false_eq_true, if_false]
        cases hmessage : decodeDirectTcpPayload frame with
        | error e =>
          have herror : decodedReply decode (.ok frame) = .error e := by
            rw [decodedReply, hpayload, hmessage]
            rfl
          exact (hanswers.outcome hdecode herror).same_code rfl
        | ok payload =>
          have houtcome := hreceives payload hmessage
          dsimp only
          cases hresult : decode payload with
          | error e =>
            rw [hresult] at houtcome
            exact houtcome.same_code rfl
          | ok a =>
            rw [hresult] at houtcome
            exact houtcome

section

variable {messageId : ℕ} {treeId : UInt32} {sessionId : UInt64}

/-- CREATE through `exchangePayload`. -/
theorem meets_createPayload {options : CreateRequestOptions}
    (hsend : MaySend strict guard s (.create options)) :
    MeetsE (server.contract strict guard)
      (exchangePayload ⟨.create options, messageId, treeId, sessionId⟩ context)
      (Follows (server.Receives s (.create options)) s) s := by
  have hdecode : Decodes (.create options) decodeCreateResponse := fun _ => rfl
  exact meets_exchangePayload hsend hdecode

theorem Receives.created {options : CreateRequestOptions} {payload : ByteVector}
    (h : server.Receives s (.create options) (.ok payload) s') :
    server.Outcome s (.create options) decodeCreateResponse (decodeCreateResponse payload) s' :=
  h.outcome fun _ => rfl

theorem meets_queryDirectoryPayload {options : QueryDirectoryRequestOptions}
    (hsend : MaySend strict guard s (.queryDirectory options)) :
    MeetsE (server.contract strict guard)
      (exchangePayload ⟨.queryDirectory options, messageId, treeId, sessionId⟩ context)
      (Follows (server.Receives s (.queryDirectory options)) s) s := by
  have hdecode : Decodes (.queryDirectory options) decodeQueryDirectoryResponse := fun _ => rfl
  exact meets_exchangePayload hsend hdecode

theorem Receives.queried {options : QueryDirectoryRequestOptions} {payload : ByteVector}
    (h : server.Receives s (.queryDirectory options) (.ok payload) s') :
    server.Outcome s (.queryDirectory options) decodeQueryDirectoryResponse
      (decodeQueryDirectoryResponse payload) s' :=
  h.outcome fun _ => rfl

theorem meets_openFile {options : CreateRequestOptions}
    (hsend : MaySend strict guard s (.create options)) :
    MeetsE (server.contract strict guard) (openFile messageId treeId sessionId context options)
      (Follows (server.Outcome s (.create options) decodeCreateResponse) s) s := by
  rw [openFile]
  refine meetsE_bind.2 ((meets_createPayload hsend).mono ?_)
  rintro (e | e | payload) m h
  · exact h
  · exact h
  · exact h.created

theorem meets_queryInfoExchanger {options : QueryInfoRequestOptions}
    (hsend : MaySend strict guard s (.queryInfo options)) :
    MeetsE (server.contract strict guard)
      (queryInfoExchanger messageId treeId sessionId context options)
      (Follows (server.Outcome s (.queryInfo options) decodeQueryInfoResponse) s) s :=
  meets_exchangeResponse hsend fun _ => rfl

theorem meets_setInfoExchanger {options : SetInfoRequestOptions}
    (hsend : MaySend strict guard s (.setInfo options)) :
    MeetsE (server.contract strict guard)
      (setInfoExchanger messageId treeId sessionId context options)
      (Follows (server.Outcome s (.setInfo options) decodeSetInfoResponse) s) s :=
  meets_exchangeResponse hsend fun _ => rfl

theorem meets_closeExchanger {options : CloseRequestOptions}
    (hsend : MaySend strict guard s (.close options)) :
    MeetsE (server.contract strict guard)
      (closeExchanger messageId treeId sessionId context options)
      (Follows (server.Outcome s (.close options) decodeCloseResponse) s) s :=
  meets_exchangeResponse hsend fun _ => rfl

end

/-! ## What the requests do -/

theorem Grants.failed_eq (h : server.Grants s body reply s') : s'.failed = s.failed := by
  cases body with
  | create options =>
    obtain ⟨create, -, hopens⟩ := h
    rw [hopens.state]
    rfl
  | close options =>
    obtain ⟨response, file, -, -, rfl⟩ := h
    rfl
  | queryInfo options =>
    obtain ⟨response, file, object, -, -, -, -, rfl⟩ := h
    rfl
  | queryDirectory options =>
    obtain ⟨response, file, -, -, hlists⟩ := h
    obtain ⟨rest, -, -, rfl⟩ := hlists.part
    rfl
  | setInfo options =>
    obtain ⟨response, file, -, -, hsets⟩ := h
    unfold SetsInfo at hsets
    split at hsets
    · rw [hsets.2]
      rfl
    split at hsets
    · obtain ⟨target, -, -, -, -, rfl⟩ := hsets.state
      rfl
    · rw [hsets]
  | write options =>
    obtain ⟨response, file, -, -, hwrites⟩ := h
    obtain ⟨object, -, rfl⟩ := hwrites.state
    rfl
  | read options =>
    obtain ⟨response, file, -, -, -, rfl⟩ := h
    rfl
  | ioctl options =>
    obtain ⟨response, file, -, -, hcontrols⟩ := h
    unfold Controls at hcontrols
    split at hcontrols
    · rw [hcontrols]
    split at hcontrols
    · obtain ⟨source, sourceObject, object, copied, -, -, -, -, -, rfl⟩ := hcontrols.state
      rfl
    · rw [hcontrols]
  | changeNotify options =>
    obtain ⟨response, -, rfl⟩ := h
    rfl

/-- A request that is not taken as granted left the tree as it was, or was carried out. -/
theorem Left.objects_cases (h : server.Left s body s') : s'.objects = s.objects ∨
    ∃ reply m, server.Grants s body reply m ∧ s'.objects = m.objects := by
  obtain ⟨m, hm, hstopped⟩ := h
  rw [hstopped.objects_eq]
  obtain rfl | ⟨reply, hanswers⟩ := hm
  · exact .inl rfl
  · cases hanswers with
    | granted hgrants => exact .inr ⟨_, _, hgrants, rfl⟩
    | refused _ _ => exact .inl rfl
    | lost _ _ hgrants => exact .inr ⟨_, _, hgrants, rfl⟩

/-- What is left of a request that keeps the tree when it is granted. -/
theorem Left.objects_eq (h : server.Left s body s')
    (hkeep : ∀ reply m, server.Grants s body reply m → m.objects = s.objects) :
    s'.objects = s.objects := by
  obtain hsame | ⟨reply, m, hgrants, hsame⟩ := h.objects_cases
  · exact hsame
  · exact hsame.trans (hkeep _ _ hgrants)

variable {create : CreateResponse} {options : CreateRequestOptions} {fileId : FileId}
  {file : OpenFile}

theorem Outcome.opens (h : server.Outcome s (.create options) decodeCreateResponse (.ok create) s') :
    server.Opens s options create s' := by
  obtain ⟨reply, hread, create', hread', hopens⟩ := h
  rw [hread] at hread'
  cases hread'
  exact hopens

/-- An object that is opened where it is keeps the tree. -/
theorem Opens.objects_eq (h : server.Opens s options create s')
    (hopen : options.createDisposition = kFileOpen) :
    s'.objects = s.objects ∧ s.objects (server.actsOn options) ≠ none := by
  obtain ⟨hsome, hsame⟩ := (disposes_open hopen).1 h.objects
  exact ⟨hsame, hsome⟩

theorem Opens.openFiles_eq (h : server.Opens s options create s') :
    s'.openFiles create.fileId = some { path := server.actsOn options } := by
  rw [h.state]
  exact ServerState.openFiles_setOpen _ _ _

theorem Opens.failed_eq (h : server.Opens s options create s') : s'.failed = s.failed := by
  rw [h.state]
  rfl

/-- An open that was not taken as granted keeps the tree. -/
theorem Left.objects_open (h : server.Left s (.create options) s')
    (hopen : options.createDisposition = kFileOpen) : s'.objects = s.objects := by
  refine h.objects_eq ?_
  rintro reply m ⟨create, -, hopens⟩
  exact (hopens.objects_eq hopen).1

theorem Left.objects_queryInfo {options : QueryInfoRequestOptions}
    (h : server.Left s (.queryInfo options) s') : s'.objects = s.objects := by
  refine h.objects_eq ?_
  rintro reply m ⟨response, file, object, -, -, -, -, rfl⟩
  rfl

theorem Outcome.describes {options : QueryInfoRequestOptions} {response : QueryInfoResponse}
    (h : server.Outcome s (.queryInfo options) decodeQueryInfoResponse (.ok response) s')
    (hfile : s.openFiles options.fileId = some file) :
    s' = s ∧ ∃ object, s.objects file.path = some object ∧ Describes options response object := by
  obtain ⟨reply, hread, response', file', object, hread', hfile', hobject, hdescribes, rfl⟩ := h
  rw [hread] at hread'
  cases hread'
  rw [hfile] at hfile'
  cases hfile'
  exact ⟨rfl, object, hobject, hdescribes⟩

/-- A CLOSE of an open file, granted or not. -/
theorem Outcome.closes {response : DecodeResult CloseResponse}
    (h : server.Outcome s (.close { fileId }) decodeCloseResponse response s')
    (hfile : s.openFiles fileId = some file) :
    (∀ a, response = .ok a → s' = close s fileId file) ∧
      (s'.objects = s.objects ∨ s'.objects = (close s fileId file).objects) := by
  have hgrants : ∀ reply m, server.Grants s (.close { fileId }) reply m → m = close s fileId file := by
    rintro reply m ⟨_, file', -, hfile', rfl⟩
    rw [hfile] at hfile'
    cases hfile'
    rfl
  cases response with
  | ok a =>
    obtain ⟨reply, -, hgranted⟩ := h
    have hclose := hgrants _ _ hgranted
    exact ⟨fun _ _ => hclose, .inr (by rw [hclose])⟩
  | error e =>
    refine ⟨by rintro a ⟨⟩, ?_⟩
    obtain hsame | ⟨reply, m, hgranted, hsame⟩ := h.1.objects_cases
    · exact .inl hsame
    · exact .inr (by rw [hsame, hgrants _ _ hgranted])

/-- Closing a file that is not to be deleted keeps the tree. -/
theorem close_objects_of_kept (h : file.deletePending = false) :
    (close s fileId file).objects = s.objects := by
  rw [close, h]
  rfl

theorem close_failed : (close s fileId file).failed = s.failed := rfl

end

end FileServer

end SmbBrowser.Native
