import SmbBrowser.Client.Download
import SmbBrowser.Client.Shares
import SmbBrowser.Native.FileSystem

/-!
# Calls that a server may grant

Replies with which the contract of the server lets it grant the requests of a call, so that
the runs of the client that the theorems speak of exist.

Results:
* `steps_stat`, `steps_read`, `steps_write`, `steps_setInfo`: the requests of one call each;
* `step_notFound`: a CREATE of what does not exist.
-/

namespace SmbBrowser.Client

open SmbBrowser.Base SmbBrowser.Native

/-! ## Replies -/

/-- FILE_STANDARD_INFORMATION of a file of this size. -/
def fileInformation (endOfFile : UInt64) : ByteVector :=
  List.replicate 8 0 ++ u64Le endOfFile ++ List.replicate 8 0

/-- The reply to a CREATE of what does not exist. -/
def notFoundMessage : ByteVector :=
  encodeSmb2SyncHeader {
    command := .create, flags := kFlagServerToRedir, status := kStatusObjectNameNotFound }

@[simp] theorem length_openedMessage (endOfFile : UInt64) :
    (openedMessage endOfFile).length = 152 := by
  simp [openedMessage, length_grantedMessage]

@[simp] theorem length_fileInformation (endOfFile : UInt64) :
    (fileInformation endOfFile).length = 24 := by
  simp [fileInformation]

@[simp] theorem length_basicInformation : basicInformation.length = 40 := List.length_replicate

@[simp] theorem length_setInfoMessage : setInfoMessage.length = 66 := by
  simp [setInfoMessage, length_grantedMessage]

@[simp] theorem length_notFoundMessage : notFoundMessage.length = 64 := by
  simp [notFoundMessage]

set_option maxRecDepth 10000 in
theorem decode_openedMessage :
    decodeCreateResponse (openedMessage 1) = .ok { endOfFile := 1 } := by
  rfl

set_option maxRecDepth 10000 in
theorem decode_fileInformationMessage :
    decodeQueryInfoResponse (informationMessage (fileInformation 1)) =
      .ok { outputBufferOffset := 72, buffer := fileInformation 1 } := by
  rfl

set_option maxRecDepth 10000 in
theorem decode_basicInformation : decodeFileBasicInformation basicInformation = .ok {} := by
  rfl

set_option maxRecDepth 10000 in
theorem decode_fileInformation :
    decodeFileStandardInformation (fileInformation 1) = .ok { endOfFile := 1 } := by
  rfl

set_option maxRecDepth 10000 in
theorem decode_setInfoMessage : decodeSetInfoResponse setInfoMessage = .ok {} := by
  rfl

set_option maxRecDepth 10000 in
theorem decode_notFoundMessage :
    ∃ e, decodeCreateResponse notFoundMessage = .error e ∧ e.code = .fileNotFound :=
  ⟨_, rfl, rfl⟩

/-- The server holds this tree, and the file id of the replies is free. -/
structure Idle (objects : Objects) (s : ServerState) : Prop where
  objects : s.objects = objects
  free : s.openFiles {} = none

/-- The server holds this tree, and this file is open under the file id of the replies. -/
structure Busy (objects : Objects) (file : OpenFile) (s : ServerState) : Prop where
  objects : s.objects = objects
  file : s.openFiles {} = some file

section

variable {server : FileServer} {s s' : ServerState} {objects objects' : Objects}
  {path : ByteVector} {sent : SentRequest} {context : OperationContext}
  {options : CreateRequestOptions} {object : FileObject} {file : OpenFile}
  {body : RequestBody} {message : ByteVector}

theorem step_granted (hbody : sent.request.body = body)
    (h : server.Grants s body (.ok (framed message)) s') :
    server.serves.step s ⟨.exchange sent context, .ok (framed message)⟩ s' :=
  .granted (hbody ▸ h)

/-! ## Opening and closing -/

/-- A CREATE opens the file that is there. -/
theorem opens_found (create : CreateResponse) (hidle : Idle objects s) (hopen : options.createDisposition = kFileOpen)
    (hobject : objects (server.actsOn options) = some object) (hplain : object.directory = false)
    (hsize : create.endOfFile.toNat = object.content.length) (hid : create.fileId = {})
    (hreparse : create.isReparsePoint = false) :
    server.Opens s options create
      (s.setOpen create.fileId (some { path := server.actsOn options })) := by
  obtain ⟨rfl, hfree⟩ := hidle
  have hsome : s.objects (server.actsOn options) ≠ none := by
    rw [hobject]
    simp
  refine ⟨hid ▸ hfree, fun _ other hother => ?_, (FileServer.disposes_open hopen).2 ⟨hsome, rfl⟩,
    fun hnone => absurd hnone hsome, fun other hother _ => ?_, rfl, fun h => ?_⟩
  · rw [hobject] at hother
    cases hother
    exact hplain
  · have hother' : s.objects (server.actsOn options) = some other := hother
    rw [hobject] at hother'
    cases hother'
    exact hsize
  · rw [hreparse] at h
    cases h

theorem step_opened (hidle : Idle objects s) (hbody : sent.request.body = .create options)
    (hopen : options.createDisposition = kFileOpen)
    (hobject : objects (server.actsOn options) = some object) (hplain : object.directory = false)
    (hsize : object.content.length = 1) :
    ∃ s', server.serves.step s ⟨.exchange sent context, .ok (framed (openedMessage 1))⟩ s' ∧
      Busy objects { path := server.actsOn options } s' := by
  have hopens := opens_found { endOfFile := 1 } hidle hopen hobject hplain (by rw [hsize]; rfl)
    rfl rfl
  exact ⟨_, step_granted hbody ⟨_, decodedReply_framed (by simp) decode_openedMessage, hopens⟩,
    hidle.objects, ServerState.openFiles_setOpen _ _ _⟩

theorem step_closed (hbusy : Busy objects file s) (hbody : sent.request.body = .close { fileId := {} }) :
    ∃ s', server.serves.step s ⟨.exchange sent context, .ok (framed closedMessage)⟩ s' ∧
      Idle (if file.deletePending then objects.erase file.path else objects) s' := by
  refine ⟨_, step_granted hbody
    ⟨{}, file, decodedReply_framed (by simp) decode_closedMessage, hbusy.file, rfl⟩, ?_,
    ServerState.openFiles_setOpen _ _ _⟩
  rw [← hbusy.objects]
  rfl

theorem step_notFound (hidle : Idle objects s) (hbody : sent.request.body = .create options)
    (hnone : objects (server.actsOn options) = none) :
    server.serves.step s ⟨.exchange sent context, .ok (framed notFoundMessage)⟩ s.fail := by
  obtain ⟨rfl, -⟩ := hidle
  obtain ⟨e, he, hcode⟩ := decode_notFoundMessage
  refine .refused ?_ ⟨by rw [hcode]; decide, fun _ => ?_⟩
  · rw [hbody, refusal, decodedReply, replyPayload_framed (by simp)]
    show errorOf (decodeCreateResponse notFoundMessage) = some e
    rw [he, errorOf]
  · rw [hbody]
    exact hnone

theorem Idle.fail (h : Idle objects s) : Idle objects s.fail := ⟨h.objects, h.free⟩

/-! ## Calls -/

/-- A stat of a file of one byte. -/
theorem steps_stat (hidle : Idle objects s) {opening basic standard closing : SentRequest}
    (hobject : objects (server.target path) = some object) (hplain : object.directory = false)
    (hreparse : object.reparsePoint = false) (hsize : object.content.length = 1)
    (hopening : opening.request.body = .create (statCreateOptions path))
    (hbasic : basic.request.body = .queryInfo (statQueryOptions {} kFileBasicInformation 40))
    (hstandard : standard.request.body =
      .queryInfo (statQueryOptions {} kFileStandardInformation 24))
    (hclosing : closing.request.body = .close { fileId := {} }) :
    ∃ s', server.serves.Steps s [
        ⟨.exchange opening context, .ok (framed (openedMessage 1))⟩,
        ⟨.exchange basic context, .ok (framed (informationMessage basicInformation))⟩,
        ⟨.exchange standard context, .ok (framed (informationMessage (fileInformation 1)))⟩,
        ⟨.exchange closing context, .ok (framed closedMessage)⟩] s' ∧ Idle objects s' := by
  have hplace : objects (server.actsOn (statCreateOptions path)) = some object := by
    rw [FileServer.actsOn_statCreateOptions]
    exact hobject
  obtain ⟨s₁, hstep₁, hbusy⟩ := step_opened hidle hopening rfl hplace hplain hsize
  obtain ⟨s', hstep₂, hidle'⟩ := step_closed hbusy hclosing
  have hthere : s₁.objects (server.actsOn (statCreateOptions path)) = some object := by
    rw [hbusy.objects]
    exact hplace
  refine ⟨s', ⟨s₁, hstep₁, s₁, step_granted hbasic ?_, s₁, step_granted hstandard ?_, s', hstep₂,
    rfl⟩, hidle'⟩
  · refine ⟨_, _, object, decodedReply_framed (by simp) decode_basicMessage, hbusy.file, hthere,
      ⟨fun _ info hinfo => ?_, fun h => ?_⟩, rfl⟩
    · rw [decode_basicInformation] at hinfo
      cases hinfo
      rw [hreparse]
      decide
    · cases h
  · refine ⟨_, _, object, decodedReply_framed (by simp) decode_fileInformationMessage, hbusy.file,
      hthere, ⟨fun h => ?_, fun _ info hinfo => ?_⟩, rfl⟩
    · cases h
    · rw [decode_fileInformation] at hinfo
      cases hinfo
      exact ⟨hplain.symm, fun _ => hsize.symm⟩

/-- A READ of its byte. -/
theorem steps_read (hidle : Idle objects s) {opening reading closing : SentRequest} {byte : UInt8}
    {length : UInt32} (hobject : objects (server.target path) = some { content := [byte] })
    (hlength : length ≠ 0)
    (hdecode : decodeReadResponse (readMessage [byte]) = .ok { dataOffset := 80, data := [byte] })
    (hopening : opening.request.body = .create (readFileOptions path))
    (hreading : reading.request.body = .read { fileId := {}, length, offset := 0 })
    (hclosing : closing.request.body = .close { fileId := {} }) :
    ∃ s', server.serves.Steps s [
        ⟨.exchange opening context, .ok (framed (openedMessage 1))⟩,
        ⟨.exchange reading context, .ok (framed (readMessage [byte]))⟩,
        ⟨.exchange closing context, .ok (framed closedMessage)⟩] s' ∧ Idle objects s' := by
  have hplace : objects (server.actsOn (readFileOptions path)) = some { content := [byte] } := by
    rw [FileServer.actsOn_readFileOptions]
    exact hobject
  obtain ⟨s₁, hstep₁, hbusy⟩ := step_opened hidle hopening rfl hplace rfl rfl
  obtain ⟨s', hstep₂, hidle'⟩ := step_closed hbusy hclosing
  have hthere : s₁.objects (server.actsOn (readFileOptions path)) = some { content := [byte] } := by
    rw [hbusy.objects]
    exact hplace
  refine ⟨s', ⟨s₁, hstep₁, s₁, step_granted hreading ?_, s', hstep₂, rfl⟩, hidle'⟩
  refine ⟨_, _, decodedReply_framed (by simp) hdecode, hbusy.file, ⟨_, hthere, ?_, ?_⟩, rfl⟩
  · have hsome : 1 ≤ length.toNat := Nat.one_le_iff_ne_zero.2 fun h => hlength (UInt32.toNat_inj.1 h)
    show [byte] <+: ([byte].drop 0).take length.toNat
    rw [List.drop_zero, List.take_of_length_le hsome]
  · rintro ⟨⟩

/-- A delete. -/
theorem steps_delete (hidle : Idle objects s) {opening marking closing : SentRequest}
    (hobject : objects (server.target path) = some object) (hplain : object.directory = false)
    (hsize : object.content.length = 1) (hbelow : objects.NothingBelow (server.target path))
    (hopening : opening.request.body = .create (openForMutationOptions path false))
    (hmarking : marking.request.body = .setInfo {
      fileId := {}, infoType := kInfoTypeFile, fileInfoClass := kFileDispositionInformation,
      buffer := buildFileDispositionInformation true })
    (hclosing : closing.request.body = .close { fileId := {} }) :
    ∃ s', server.serves.Steps s [
        ⟨.exchange opening context, .ok (framed (openedMessage 1))⟩,
        ⟨.exchange marking context, .ok (framed setInfoMessage)⟩,
        ⟨.exchange closing context, .ok (framed closedMessage)⟩] s' ∧
      Idle (objects.erase (server.target path)) s' := by
  have hat := FileServer.actsOn_openForMutation server path false
  obtain ⟨s₁, hstep₁, hbusy⟩ := step_opened hidle hopening rfl (hat ▸ hobject) hplain hsize
  rw [hat] at hbusy
  have hmarked : Busy objects { path := server.target path, deletePending := true }
      (s₁.setOpen {} (some { path := server.target path, deletePending := true })) :=
    ⟨hbusy.objects, ServerState.openFiles_setOpen _ _ _⟩
  obtain ⟨s', hstep₂, hidle'⟩ := step_closed hmarked hclosing
  refine ⟨s', ⟨s₁, hstep₁, _, step_granted hmarking ?_, s', hstep₂, rfl⟩, hidle'⟩
  refine ⟨_, _, decodedReply_framed (by simp) decode_setInfoMessage, hbusy.file, ?_⟩
  rw [FileServer.SetsInfo, if_pos rfl, hbusy.objects]
  refine ⟨fun _ _ => hbelow, ?_⟩
  rw [decide_eq_true rfl]

/-- A WRITE of a new file. -/
theorem steps_write (hidle : Idle objects s) {opening writing closing : SentRequest}
    {data : ByteVector} {count : UInt32} (hnone : objects (server.target path) = none)
    (hparent : FileTree.HasParent FileObject.Holds objects (server.target path))
    (hcount : count.toNat = data.length)
    (hdecode : decodeWriteResponse (writtenMessage count) = .ok { count })
    (hopening : opening.request.body = .create (writeFileOptions path))
    (hwriting : writing.request.body = .write { fileId := {}, data, offset := 0 })
    (hclosing : closing.request.body = .close { fileId := {} }) :
    ∃ s', server.serves.Steps s [
        ⟨.exchange opening context, .ok (framed createdMessage)⟩,
        ⟨.exchange writing context, .ok (framed (writtenMessage count))⟩,
        ⟨.exchange closing context, .ok (framed closedMessage)⟩] s' ∧
      Idle (objects.set (server.target path) { content := data }) s' := by
  obtain ⟨rfl, hfree⟩ := hidle
  have hat : server.actsOn (writeFileOptions path) = server.target path :=
    FileServer.actsOn_writeFileOptions
  let made : ServerState := ServerState.setOpen
    { s with objects := s.objects.set (server.target path) {} } {} (some { path := server.target path })
  have hmade : made.objects (server.target path) = some {} := FileTree.set_self
  have hopens : server.Opens s (writeFileOptions path) {} made := by
    refine ⟨hfree, fun _ other hother => ?_, (FileServer.disposes_openIf rfl).2 ?_, fun _ => ?_,
      fun other hother _ => ?_, ?_, by rintro ⟨⟩⟩
    · rw [hat, hnone] at hother
      cases hother
    · rw [hat, hnone]
      rfl
    · rw [hat]
      exact hparent
    · rw [hat, hmade] at hother
      cases hother
      rfl
    · rw [hat]
      rfl
  let written : ServerState := { made with objects := made.objects.set (server.target path) {
    content := writeAt [] 0 (data.take count.toNat) } }
  have hwrites : server.Writes made { fileId := {}, data, offset := 0 } { count }
      { path := server.target path } written :=
    ⟨hcount.le, fun _ => hcount, {}, hmade, rfl⟩
  have hbusy : Busy (s.objects.set (server.target path) { content := data })
      { path := server.target path } written := by
    refine ⟨?_, rfl⟩
    show (s.objects.set (server.target path) {}).set (server.target path) _ = _
    rw [FileTree.set_set, hcount, List.take_length, writeAt_empty]
  obtain ⟨s', hstep, hidle'⟩ := step_closed hbusy hclosing
  refine ⟨s', ⟨made, step_granted hopening ?_, written, step_granted hwriting ?_, s', hstep, rfl⟩,
    hidle'⟩
  · exact ⟨_, decodedReply_framed (by simp) decode_createdMessage, hopens⟩
  · exact ⟨_, _, decodedReply_framed (by simp) hdecode, ServerState.openFiles_setOpen _ _ _, hwrites⟩

/-- The requests of a call as events of the client. -/
theorem steps_native {net : Surroundings} {side : Side} {w : Shares} {es : List (Event Wire)}
    (h : (net.server side).serves.Steps ((net.share side).get w) es s') :
    net.contract.Steps w (es.map (nativeQuestions side).event) ((net.share side).set w s') := by
  induction es generalizing w with
  | nil =>
    obtain rfl : s' = (net.share side).get w := h
    exact (net.share side).set_get w
  | cons e es ih =>
    obtain ⟨m, hstep, hrest⟩ := h
    refine ⟨(net.share side).set w m, ⟨m, hstep, rfl⟩, ?_⟩
    rw [← (net.share side).set_set w m s']
    refine ih ?_
    rwa [(net.share side).get_set]

end

/-! ## A share with one file -/

/-- A share with one file of one byte. -/
def oneByte : Objects := fun q =>
  if q = [] then some { directory := true }
  else if q = [ascii "a"] then some { content := [7] } else none

theorem rooted_oneByte : oneByte.Rooted := by
  refine Objects.rooted_of_flat rfl ⟨rfl, rfl⟩ fun q name hq => ?_
  rw [oneByte, if_neg (by simp), if_neg (FileServer.append_singleton_ne hq _ _)]

theorem oneByte_absent : oneByte [ascii "b"] = none := by
  rw [oneByte, if_neg (by simp), if_neg (by decide +kernel)]

theorem hasParent_oneByte : FileTree.HasParent FileObject.Holds oneByte [ascii "b"] := by
  intro parent name hpath
  have hroot : ([] : ServerPath) ++ [ascii "b"] = parent ++ [name] := hpath
  obtain ⟨rfl, -⟩ := List.append_inj' hroot rfl
  exact ⟨_, rfl, rfl, rfl⟩

theorem target_a : FileServer.caseless.target (ascii "a") = [ascii "a"] := by decide +kernel

theorem nothingBelow_a : FileTree.NothingBelow oneByte (FileServer.caseless.target (ascii "a")) := by
  rw [target_a]
  refine rooted_oneByte.nothingBelow fun object hobject hholds => ?_
  have hfile : oneByte [ascii "a"] = some { content := [7] } := rfl
  rw [hfile] at hobject
  cases hobject
  cases hholds.1

theorem target_b : FileServer.caseless.target (ascii "b") = [ascii "b"] := by decide +kernel

end SmbBrowser.Client
