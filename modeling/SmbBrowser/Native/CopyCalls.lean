import SmbBrowser.Native.FileCalls

/-!
# Server-side copies on a file server

What `copyFileServerSide` (native_smb/NativeSmbSession.cpp:647) does to the tree of a file
server.  The target is overwritten before anything is copied, so that a file that is copied
onto itself is emptied.

Results:
* `meets_copyChunks`: the loop invariant, the target holds what lies before the offset;
* `meets_copyFileServerSide`: a success copies as many bytes as were asked for, and a failure
  leaves the target as it was, or with the first bytes of the source.
-/

namespace SmbBrowser.Native

open SmbBrowser.Base

namespace FileServer

section

variable {server : FileServer} {s s' : ServerState} {context : OperationContext}
  {session : Session} {fileId source target : FileId} {file : OpenFile} {body : RequestBody}

/-! ## Requests with a fresh id -/

/-- What is left of a request, up to the mark that it was not granted. -/
theorem Left.granted_or_not (h : server.Left s body s') :
    ∃ m, (m = s ∨ ∃ reply, server.Grants s body reply m) ∧ (s' = m ∨ s' = m.fail) := by
  obtain ⟨m, hm, hstopped⟩ := h
  obtain rfl | ⟨reply, hanswers⟩ := hm
  · exact ⟨m, .inl rfl, hstopped⟩
  · have hfailed : ∀ {m : ServerState}, Stopped m.fail s' → s' = m ∨ s' = m.fail := by
      rintro m (rfl | rfl)
      · exact .inr rfl
      · exact .inr rfl
    cases hanswers with
    | granted hgrants => exact ⟨m, .inr ⟨_, hgrants⟩, hstopped⟩
    | refused _ _ => exact ⟨s, .inl rfl, hfailed hstopped⟩
    | lost _ _ hgrants => exact ⟨_, .inr ⟨_, hgrants⟩, hfailed hstopped⟩

theorem meetsS_openWithFreshId {options : CreateRequestOptions} :
    MeetsS server.serves (Session.openWithFreshId options context)
      (fun r _ s' => Follows (server.Outcome s (.create options) decodeCreateResponse) s r s')
      session s := by
  rw [Session.openWithFreshId]
  exact meetsS_allocateMessageIds.2 (meetsS_withIds.2 (meets_openFile maySend))

theorem meetsS_ioctlWithFreshId {options : IoctlRequestOptions} :
    MeetsS server.serves (Session.ioctlWithFreshId options context)
      (fun r _ s' => Follows (server.Outcome s (.ioctl options) decodeIoctlResponse) s r s')
      session s := by
  have hdecode : Decodes (.ioctl options) decodeIoctlResponse := fun _ => rfl
  rw [Session.ioctlWithFreshId]
  refine meetsS_allocateMessageIds.2 (meetsS_withIds.2 ?_)
  refine meetsE_bind.2 ((meets_exchangePayload maySend hdecode).mono ?_)
  rintro (e | e | payload) m h
  · exact h
  · exact h
  · exact h.outcome hdecode

theorem meetsS_cancelled {α : Type} {stop f : SessionM α} {Q : Except Exn α → Session → ServerState → Prop}
    (hstop : MeetsS server.serves stop Q session s.fail)
    (hgo : MeetsS server.serves f Q session s) :
    MeetsS server.serves
      (SessionM.cancelled context >>= fun b => if b = true then stop else f) Q session s :=
  meetsS_bind.2 (meetsS_ofProg.2 (meets_look hstop hgo))

theorem meetsS_reportProgress {progress : TransferProgress} :
    MeetsS server.serves (SessionM.ofProg (reportProgress progress context))
      (fun r _ s' => r = .ok () ∧ s' = s) session s := by
  refine meetsS_ofProg.2 ?_
  rw [reportProgress]
  split
  · refine meetsE_lift.2 ⟨trivial, ?_⟩
    rintro _ m rfl
    exact ⟨rfl, rfl⟩
  · exact ⟨rfl, rfl⟩

/-! ## What a copy does -/

/-- A file is overwritten, and then gets the first bytes of what the source holds. -/
structure CopiesTo (objects : Objects) (source target : ServerPath) (count : ℕ)
    (objects' : Objects) : Prop where
  present : ∃ object, objects source = some object ∧ object.directory = false
  place : ∃ object, FileAt objects target object
  copied : ∃ object, (objects.set target {}) source = some object ∧
    count ≤ object.content.length ∧
    objects' = objects.set target { content := object.content.take count }

/-- How a copy ends. -/
abbrev CopiesFile (server : FileServer) (objects : Objects) (sourcePath targetPath : ByteVector)
    (size : ℕ) : Except Exn (DecodeResult NativeObjectMutationResult) → ServerState → Prop :=
  Ends (fun s' => s'.objects = objects ∨ ∃ n,
      CopiesTo objects (server.target sourcePath) (server.target targetPath) n s'.objects)
    (fun _ s' =>
      CopiesTo objects (server.target sourcePath) (server.target targetPath) size s'.objects) True

/-! ## Closing both files -/

/-- Closing the file keeps the tree. -/
def Stays (s : ServerState) (fileId : FileId) : Prop :=
  ∀ file ∈ s.openFiles fileId, file.deletePending = false

theorem stays_of_open (hfile : s.openFiles fileId = some file) (h : file.deletePending = false) :
    Stays s fileId := by
  intro file' hfile'
  rw [hfile] at hfile'
  cases hfile'
  exact h

theorem meetsS_closeStays (h : Stays s fileId) :
    MeetsS server.serves (Session.closeFile fileId {})
      (fun _ _ s' => s'.objects = s.objects ∧ ∀ id, Stays s id → Stays s' id) session s := by
  have hgranted : ∀ {reply m}, server.Grants s (.close { fileId }) reply m →
      m.objects = s.objects ∧ ∀ id, Stays s id → Stays m id := by
    rintro reply m ⟨response, file, -, hfile, rfl⟩
    refine ⟨close_objects_of_kept (h file hfile), fun id hid other hother => ?_⟩
    by_cases hsame : id = fileId
    · subst hsame
      cases (ServerState.openFiles_setOpen _ _ _).symm.trans hother
    · exact hid other ((if_neg hsame).symm.trans hother)
  rw [Session.closeFile]
  refine meetsS_allocateMessageIds.2 (meetsS_bind.2 (meetsS_withIds.2
    ((meets_closeExchanger maySend).mono ?_)))
  rintro (e | e | a) s₁ hclose
  · rw [show s₁ = s from hclose]
    exact ⟨rfl, fun _ hid => hid⟩
  · obtain ⟨m, hm, hleft⟩ := hclose.1.granted_or_not
    have hmid : m.objects = s.objects ∧ ∀ id, Stays s id → Stays m id := by
      obtain rfl | ⟨reply, hgrants⟩ := hm
      · exact ⟨rfl, fun _ hid => hid⟩
      · exact hgranted hgrants
    obtain rfl | rfl := hleft
    · exact hmid
    · exact hmid
  · obtain ⟨reply, -, hgrants⟩ := hclose
    exact hgranted hgrants

-- the steps of a run are taken by rules only
attribute [local irreducible] MeetsS

section

variable {objects : Objects} {sourcePath targetPath : ByteVector} {size : ℕ}
  {a : DecodeResult NativeObjectMutationResult}

/-- What a call comes to depends on the tree only. -/
theorem copiesFile_of_same (h : CopiesFile server objects sourcePath targetPath size (.ok a) s)
    (hsame : s'.objects = s.objects) :
    CopiesFile server objects sourcePath targetPath size (.ok a) s' := by
  refine ⟨?_, fun b hb => ?_, h.error⟩
  · rw [hsame]
    exact h.always
  · rw [hsame]
    exact h.success b hb

/-- A file is closed on the way out of the copy. -/
theorem meetsS_closeThen {f : SessionM (DecodeResult NativeObjectMutationResult)}
    (hstays : Stays s fileId)
    (h : CopiesFile server objects sourcePath targetPath size (.ok a) s)
    (hthen : ∀ session₁ s₁, s₁.objects = s.objects → (∀ id, Stays s id → Stays s₁ id) →
      MeetsS server.serves f
        (fun r _ s' => CopiesFile server objects sourcePath targetPath size r s') session₁ s₁) :
    MeetsS server.serves (Session.closeFile fileId {} >>= fun _ => f)
      (fun r _ s' => CopiesFile server objects sourcePath targetPath size r s') session s := by
  refine meetsS_bind.2 ((meetsS_closeStays hstays).mono ?_)
  rintro (e | closed) session₁ s₁ ⟨hsame, hstill⟩
  · exact .of_throw (hsame ▸ h.always)
  · exact hthen session₁ s₁ hsame hstill

theorem meetsS_closeSource (hsource : Stays s source)
    (h : CopiesFile server objects sourcePath targetPath size (.ok a) s) :
    MeetsS server.serves (Session.closeFile source {} >>= fun _ => pure a)
      (fun r _ s' => CopiesFile server objects sourcePath targetPath size r s') session s :=
  meetsS_closeThen hsource h fun _ _ hsame _ => meetsS_pure.2 (copiesFile_of_same h hsame)

/-- `closeBoth`, and then the call returns. -/
theorem meetsS_closeBoth (hsource : Stays s source) (htarget : Stays s target)
    (h : CopiesFile server objects sourcePath targetPath size (.ok a) s) :
    MeetsS server.serves (Session.closeBoth source target >>= fun _ => pure a)
      (fun r _ s' => CopiesFile server objects sourcePath targetPath size r s') session s := by
  rw [Session.closeBoth, bind_assoc]
  refine meetsS_closeThen htarget h fun session₁ s₁ hsame hstays => ?_
  rw [bind_assoc]
  exact meetsS_closeSource (hstays source hsource) (copiesFile_of_same h hsame)

end

/-! ## The copy -/

theorem failsWith_decodeSrvCopyChunkResponse {P : ErrorCode → Prop} (hP : P .ioError)
    (bytes : ByteVector) : FailsWith P (decodeSrvCopyChunkResponse bytes) := by
  rw [decodeSrvCopyChunkResponse]
  refine .ite (fun _ => (failsWith_failure ..).2 hP) fun hlen => ?_
  simp (disch := omega) only [readU32Le_of_le, ok_bind]
  exact failsWith_ok _

/-- The request of one chunk starts with the resume key. -/
theorem take_built {resumeKey input : ByteVector} {chunk : CopyChunk}
    (hkey : ¬ resumeKey.length < 24)
    (h : buildSrvCopyChunkRequest resumeKey [chunk] = .ok input) :
    input.take 24 = resumeKey.take 24 := by
  have hlength : (resumeKey.take 24).length = 24 := by
    rw [List.length_take]
    omega
  simp only [buildSrvCopyChunkRequest, hkey, List.length_singleton, u32Max, decide_false,
    throwWhen_false, Nat.reduceGT] at h
  obtain rfl := Except.ok.inj h
  simp only [List.append_assoc]
  exact List.take_left' hlength

/-- Between two turns of the loop: the target holds what lies before the offset. -/
structure CopiedUpTo (objects : Objects) (sourceAt targetAt : ServerPath) (object : FileObject)
    (resumeKey : ByteVector) (source target : FileId) (offset : ℕ) (s : ServerState) : Prop where
  present : ∃ object, objects sourceAt = some object ∧ object.directory = false
  place : ∃ object, FileAt objects targetAt object
  overwritten : (objects.set targetAt {}) sourceAt = some object
  within : offset ≤ object.content.length
  tree : s.objects = objects.set targetAt { content := object.content.take offset }
  key : s.resumeKeys (resumeKey.take 24) = some sourceAt
  sourceStays : Stays s source
  targetOpen : s.openFiles target = some { path := targetAt }

namespace CopiedUpTo

variable {objects : Objects} {sourceAt targetAt : ServerPath} {object : FileObject}
  {resumeKey : ByteVector} {offset : ℕ}

theorem copiesTo (h : CopiedUpTo objects sourceAt targetAt object resumeKey source target offset s) :
    CopiesTo objects sourceAt targetAt offset s.objects :=
  ⟨h.present, h.place, object, h.overwritten, h.within, h.tree⟩

theorem fail (h : CopiedUpTo objects sourceAt targetAt object resumeKey source target offset s) :
    CopiedUpTo objects sourceAt targetAt object resumeKey source target offset s.fail :=
  ⟨h.present, h.place, h.overwritten, h.within, h.tree, h.key, h.sourceStays, h.targetOpen⟩

/-- The source is what it was when the target was overwritten, also where both are the same
    file. -/
theorem source_eq
    (h : CopiedUpTo objects sourceAt targetAt object resumeKey source target offset s) :
    s.objects sourceAt = some object := by
  have hoverwritten := h.overwritten
  rw [h.tree]
  by_cases hself : sourceAt = targetAt
  · rw [hself, FileTree.set_self] at hoverwritten ⊢
    cases hoverwritten
    exact congrArg (fun content => some ({ content } : FileObject)) List.take_nil
  · rw [FileTree.set_of_ne hself] at hoverwritten ⊢
    exact hoverwritten

/-- A chunk that was granted, of which some bytes were copied. -/
theorem chunk {options : IoctlRequestOptions} {response : IoctlResponse}
    (h : CopiedUpTo objects sourceAt targetAt object resumeKey source target offset s)
    (hcopies : CopiesChunk s options response { path := targetAt } s')
    (hkey : options.input.take 24 = resumeKey.take 24)
    (hchunk : (chunkOf options.input).sourceOffset.toNat = offset ∧
      (chunkOf options.input).targetOffset.toNat = offset) :
    ∃ n, CopiedUpTo objects sourceAt targetAt object resumeKey source target (offset + n) s' ∧
      ∀ parsed, decodeSrvCopyChunkResponse response.output = .ok parsed →
        n = parsed.totalBytesWritten.toNat := by
  obtain ⟨from', sourceObject, targetObject, copied, hfrom, hsource, htarget, hpart, hcount,
    hstate⟩ := hcopies.state
  rw [hkey, h.key] at hfrom
  cases hfrom
  rw [h.source_eq] at hsource
  cases hsource
  have htarget' : (s.objects targetAt) = some targetObject := htarget
  rw [h.tree, FileTree.set_self] at htarget'
  cases htarget'
  rw [hchunk.1] at hpart
  have hcopied : copied = (object.content.drop offset).take copied.length :=
    List.prefix_iff_eq_take.1 (hpart.trans (List.take_prefix _ _))
  have hwithin : copied.length ≤ object.content.length - offset := by
    rw [← List.length_drop]
    exact (hpart.trans (List.take_prefix _ _)).length_le
  have hoffset := h.within
  have hwritten : writeAt (object.content.take offset) offset copied =
      object.content.take (offset + copied.length) := by
    have hnext : writeAt (object.content.take offset) offset
        ((object.content.drop offset).take copied.length) = _ := writeAt_next hoffset
    rwa [← hcopied] at hnext
  refine ⟨copied.length, ?_, hcount⟩
  subst hstate
  refine ⟨h.present, h.place, h.overwritten, by omega, ?_, h.key, h.sourceStays, h.targetOpen⟩
  show s.objects.set targetAt _ = _
  rw [h.tree, FileTree.set_set, hchunk.2, hwritten]

end CopiedUpTo

variable {sourcePath targetPath : ByteVector}

/-- A granted COPYCHUNK of an open file. -/
theorem Grants.copiesChunk {options : IoctlRequestOptions} {reply : DecodeResult ByteVector}
    (h : server.Grants s (.ioctl options) reply s') (hcode : options.ctlCode = kFsctlSrvCopyChunk)
    (hfile : s.openFiles options.fileId = some file) :
    ∃ response, decodedReply decodeIoctlResponse reply = .ok response ∧
      CopiesChunk s options response file s' := by
  obtain ⟨response, file', hread, hfile', hcontrols⟩ := h
  rw [hfile] at hfile'
  cases hfile'
  have hother : options.ctlCode ≠ kFsctlSrvRequestResumeKey := by
    rw [hcode]
    decide
  rw [Controls, if_neg hother, if_pos hcode] at hcontrols
  exact ⟨response, hread, hcontrols⟩

section

variable {objects : Objects} {object : FileObject} {resumeKey : ByteVector} {size offset : ℕ}

/-- The copy ends between two turns. -/
theorem CopiedUpTo.meets_done (h : CopiedUpTo objects (server.target sourcePath)
      (server.target targetPath) object resumeKey source target offset s)
    (hle : offset ≤ size) (hend : size ≤ offset) :
    MeetsS server.serves
      (Session.closeBoth source target >>= fun _ =>
        pure (.ok ({ path := targetPath } : NativeObjectMutationResult)))
      (fun r _ s' => CopiesFile server objects sourcePath targetPath size r s') session s := by
  have hstays : Stays s target := stays_of_open h.targetOpen rfl
  refine meetsS_closeBoth h.sourceStays hstays (.of_ok (.inr ⟨_, h.copiesTo⟩) ?_)
  rw [Nat.le_antisymm hend hle]
  exact h.copiesTo

/-- The copy is given up between two turns. -/
theorem CopiedUpTo.meets_failed (h : CopiedUpTo objects (server.target sourcePath)
      (server.target targetPath) object resumeKey source target offset s) {e : ProtocolError}
    (hcode : e.code ≠ .none) :
    MeetsS server.serves (Session.closeBoth source target >>= fun _ => pure (.error e))
      (fun r _ s' => CopiesFile server objects sourcePath targetPath size r s') session s := by
  have hstays : Stays s target := stays_of_open h.targetOpen rfl
  exact meetsS_closeBoth h.sourceStays hstays
    (.of_error (.inr ⟨_, h.copiesTo⟩) hcode fun _ => trivial)

/-- **The loop.**  The induction is on the turns left; before each of them the target holds
    what lies before the offset. -/
theorem meets_copyChunks (hkey : ¬ resumeKey.length < 24) (hsize : size < 2 ^ 64) {fuel : ℕ}
    (hle : offset ≤ size) (hfuel : size ≤ offset + fuel)
    (h : CopiedUpTo objects (server.target sourcePath) (server.target targetPath) object resumeKey
      source target offset s) :
    MeetsS server.serves
      (Session.copyChunks source target resumeKey targetPath size context fuel offset)
      (fun r _ s' => CopiesFile server objects sourcePath targetPath size r s') session s := by
  induction fuel generalizing offset session s with
  | zero => exact h.meets_done hle hfuel
  | succ fuel ih =>
    rw [Session.copyChunks]
    split
    · rename_i hend
      exact h.meets_done hle hend
    rename_i hrest
    refine meetsS_cancelled ?_ ?_
    · exact h.fail.meets_failed (by rintro ⟨⟩)
    obtain ⟨input, hinput, -⟩ := buildSrvCopyChunkRequest_single {
      sourceOffset := UInt64.ofNat offset, targetOffset := UInt64.ofNat offset,
      length := UInt32.ofNat (min Session.kCopyChunkSize (size - offset)) } hkey
    dsimp only
    rw [hinput]
    refine meetsS_bind.2 (meetsS_ofProg.2 (meetsE_pure.2 ?_))
    refine meetsS_bind.2 (meetsS_ioctlWithFreshId.mono ?_)
    have hchunk := chunkOf_built hkey hinput
    have hplace : (chunkOf input).sourceOffset.toNat = offset ∧
        (chunkOf input).targetOffset.toNat = offset := by
      rw [hchunk]
      have hsmall : (UInt64.ofNat offset).toNat = offset :=
        UInt64.toNat_ofNat'.trans (Nat.mod_eq_of_lt (by omega))
      exact ⟨hsmall, hsmall⟩
    have hinputKey := take_built hkey hinput
    rintro (e | e | copied) session₁ s₁ hioctl
    · exact .of_throw (.inr ⟨_, (show s₁ = s from hioctl) ▸ h.copiesTo⟩)
    · obtain ⟨m, hm, hleft⟩ := hioctl.1.granted_or_not
      have hsofar : ∃ n, CopiedUpTo objects (server.target sourcePath) (server.target targetPath)
          object resumeKey source target n m := by
        obtain rfl | ⟨reply, hgrants⟩ := hm
        · exact ⟨offset, h⟩
        · obtain ⟨response, -, hcopies⟩ := hgrants.copiesChunk rfl h.targetOpen
          obtain ⟨n, hnext, -⟩ := h.chunk hcopies hinputKey hplace
          exact ⟨_, hnext⟩
      obtain ⟨n, hsofar⟩ := hsofar
      obtain rfl | rfl := hleft
      · exact hsofar.meets_failed hioctl.2.1
      · exact hsofar.fail.meets_failed hioctl.2.1
    obtain ⟨reply, hreply, hgrants⟩ := hioctl
    obtain ⟨response, hreply', hcopies⟩ := hgrants.copiesChunk rfl h.targetOpen
    rw [hreply] at hreply'
    cases hreply'
    obtain ⟨n, hnext, hcount⟩ := h.chunk hcopies hinputKey hplace
    dsimp only
    have hcodes := failsWith_decodeSrvCopyChunkResponse (P := (· ≠ .none)) (by decide) copied.output
    cases hparsed : decodeSrvCopyChunkResponse copied.output with
    | error e =>
      rw [hparsed] at hcodes
      exact hnext.meets_failed (hcodes e rfl)
    | ok parsed =>
    dsimp only
    split
    · exact hnext.meets_failed (by rintro ⟨⟩)
    rename_i hinvalid
    obtain ⟨hzero, hmost⟩ := not_or.1 hinvalid
    have hn := hcount parsed hparsed
    have hpos := UInt32.toNat_inj.ne.2 hzero
    have hzeroNat : (0 : UInt32).toNat = 0 := rfl
    refine meetsS_bind.2 (meetsS_reportProgress.mono ?_)
    rintro r session₂ s₂ ⟨rfl, rfl⟩
    rw [← hn] at hmost ⊢
    exact ih (by omega) (by omega) hnext

end

theorem actsOn_copySourceOptions (path : ByteVector) :
    server.actsOn (copySourceOptions path) = server.target path := by
  refine actsOn_of_plain ?_
  show kFileNonDirectoryFile &&& kFileOpenReparsePoint = 0
  decide

theorem actsOn_copyTargetOptions (path : ByteVector) :
    server.actsOn (copyTargetOptions path) = server.target path := by
  refine actsOn_of_plain ?_
  show kFileNonDirectoryFile &&& kFileOpenReparsePoint = 0
  decide

/-- The CREATE of the source opens a file. -/
theorem Opens.isFile {path : ByteVector} {create : CreateResponse}
    (h : server.Opens s (copySourceOptions path) create s') :
    s'.objects = s.objects ∧
      ∃ object, s.objects (server.target path) = some object ∧ object.directory = false := by
  obtain ⟨hsame, hsome⟩ := h.objects_eq rfl
  have hfits := h.fits (by
    show kFileNonDirectoryFile &&& kFileNonDirectoryFile ≠ 0
    decide)
  rw [actsOn_copySourceOptions] at hsome hfits
  obtain ⟨object, hobject⟩ := Option.ne_none_iff_exists'.1 hsome
  exact ⟨hsame, object, hobject, hfits object hobject⟩

/-- The CREATE of the target leaves an empty file. -/
theorem Opens.overwrites {path : ByteVector} {create : CreateResponse}
    (h : server.Opens s (copyTargetOptions path) create s') :
    (∃ object, FileAt s.objects (server.target path) object) ∧
      s'.objects = s.objects.set (server.target path) {} := by
  have hmade := (disposes_overwriteIf rfl).1 h.objects
  have hparent := h.parent
  have hfits := h.fits (by
    show kFileNonDirectoryFile &&& kFileNonDirectoryFile ≠ 0
    decide)
  rw [actsOn_copyTargetOptions] at hmade hparent hfits
  refine ⟨?_, hmade⟩
  cases hobject : s.objects (server.target path) with
  | none => exact ⟨{}, .inr ⟨hobject, rfl, hparent hobject⟩⟩
  | some object => exact ⟨object, .inl ⟨hobject, hfits object hobject⟩⟩

theorem Opens.stays {options : CreateRequestOptions} {create : CreateResponse}
    (h : server.Opens s options create s') (hstays : Stays s fileId) : Stays s' fileId := by
  intro file hfile
  rw [h.state] at hfile
  by_cases hsame : fileId = create.fileId
  · subst hsame
    obtain rfl := Option.some.inj ((ServerState.openFiles_setOpen _ _ _).symm.trans hfile)
    rfl
  · exact hstays file ((if_neg hsame).symm.trans hfile)

/-- The target was overwritten, and nothing is copied yet. -/
theorem copiesTo_zero {objects : Objects} {sourceAt targetAt : ServerPath}
    (hpresent : ∃ object, objects sourceAt = some object ∧ object.directory = false)
    (hplace : ∃ object, FileAt objects targetAt object) :
    CopiesTo objects sourceAt targetAt 0 (objects.set targetAt {}) := by
  refine ⟨hpresent, hplace, ?_⟩
  obtain ⟨object, hobject, -⟩ := hpresent
  by_cases hself : sourceAt = targetAt
  · exact ⟨{}, by rw [hself, FileTree.set_self], Nat.zero_le _, rfl⟩
  · exact ⟨object, by rw [FileTree.set_of_ne hself, hobject], Nat.zero_le _, rfl⟩

/-- A granted request for a resume key. -/
theorem Grants.handsOut {options : IoctlRequestOptions} {reply : DecodeResult ByteVector}
    (h : server.Grants s (.ioctl options) reply s')
    (hcode : options.ctlCode = kFsctlSrvRequestResumeKey)
    (hfile : s.openFiles options.fileId = some file) :
    ∃ response, decodedReply decodeIoctlResponse reply = .ok response ∧
      s' = { s with resumeKeys := fun key =>
        if key = response.output.take 24 then some file.path else s.resumeKeys key } := by
  obtain ⟨response, file', hread, hfile', hcontrols⟩ := h
  rw [hfile] at hfile'
  cases hfile'
  rw [Controls, if_pos hcode] at hcontrols
  exact ⟨response, hread, hcontrols⟩

/-- Both files are open, and nothing is copied yet. -/
structure BothOpen (objects : Objects) (sourceAt targetAt : ServerPath) (source target : FileId)
    (s : ServerState) : Prop where
  copied : CopiesTo objects sourceAt targetAt 0 s.objects
  tree : s.objects = objects.set targetAt {}
  sourceOpen : s.openFiles source = some { path := sourceAt }
  targetOpen : s.openFiles target = some { path := targetAt }

namespace BothOpen

variable {objects : Objects} {size : ℕ}

theorem same {sourceAt targetAt : ServerPath}
    (h : BothOpen objects sourceAt targetAt source target s)
    (hobjects : s'.objects = s.objects) (hopen : s'.openFiles = s.openFiles) :
    BothOpen objects sourceAt targetAt source target s' :=
  ⟨hobjects ▸ h.copied, hobjects.trans h.tree, hopen ▸ h.sourceOpen, hopen ▸ h.targetOpen⟩

/-- The target is opened after the source. -/
theorem of_opens {create : CreateResponse} (hobjects : s.objects = objects)
    (hpresent : ∃ object, objects (server.target sourcePath) = some object ∧
      object.directory = false)
    (hsource : s.openFiles source = some { path := server.target sourcePath })
    (hopens : server.Opens s (copyTargetOptions targetPath) create s') :
    BothOpen objects (server.target sourcePath) (server.target targetPath) source create.fileId
      s' := by
  obtain ⟨hplace, htree⟩ := hopens.overwrites
  have htarget := hopens.openFiles_eq
  rw [actsOn_copyTargetOptions] at htarget
  have hapart : source ≠ create.fileId := by
    intro hsame
    have hfresh := hopens.fresh
    rw [← hsame, hsource] at hfresh
    cases hfresh
  rw [hobjects] at hplace htree
  refine ⟨htree ▸ copiesTo_zero hpresent hplace, htree, ?_, htarget⟩
  rw [hopens.state]
  exact (if_neg hapart).trans hsource

/-- The copy is over before a chunk is asked for. -/
theorem meets_close (h : BothOpen objects (server.target sourcePath) (server.target targetPath)
      source target s) {a : DecodeResult NativeObjectMutationResult}
    (ha : CopiesFile server objects sourcePath targetPath size (.ok a) s) :
    MeetsS server.serves (Session.closeBoth source target >>= fun _ => pure a)
      (fun r _ s' => CopiesFile server objects sourcePath targetPath size r s') session s :=
  meetsS_closeBoth (stays_of_open h.sourceOpen rfl) (stays_of_open h.targetOpen rfl) ha

/-- A request for a resume key leaves the tree and the open files as they are. -/
theorem left {sourceAt targetAt : ServerPath} {options : IoctlRequestOptions}
    (h : BothOpen objects sourceAt targetAt options.fileId target s)
    (hcode : options.ctlCode = kFsctlSrvRequestResumeKey)
    (hleft : server.Left s (.ioctl options) s') :
    BothOpen objects sourceAt targetAt options.fileId target s' := by
  obtain ⟨m, hm, hleft⟩ := hleft.granted_or_not
  have hmid : BothOpen objects sourceAt targetAt options.fileId target m := by
    obtain rfl | ⟨reply, hgrants⟩ := hm
    · exact h
    · obtain ⟨response, -, rfl⟩ := hgrants.handsOut hcode h.sourceOpen
      exact h.same rfl rfl
  obtain rfl | rfl := hleft
  · exact hmid
  · exact hmid.same rfl rfl

end BothOpen

/-- **A server-side copy.** -/
theorem meets_copyFileServerSide {size : UInt64} :
    MeetsS server.serves (Session.copyFileServerSide sourcePath targetPath size context)
      (fun r _ s' => CopiesFile server s.objects sourcePath targetPath size.toNat r s')
      session s := by
  rw [Session.copyFileServerSide]
  refine meetsS_enter ⟨trivial, ?_⟩
  rintro m rfl
  refine meetsS_cancelled (meetsS_pure.2 (.of_cancelled (.inl rfl))) ?_
  refine meetsS_bind.2 (meetsS_openWithFreshId.mono ?_)
  rintro (e | e | source) session₁ s₁ h₁
  · exact .of_throw (.inl (by rw [show s₁ = m from h₁]))
  · exact meetsS_pure.2 (h₁.2.ends (.inl (h₁.1.objects_open rfl)) rfl)
  obtain ⟨hkept₁, hpresent⟩ := h₁.opens.isFile
  have hsource := h₁.opens.openFiles_eq
  rw [actsOn_copySourceOptions] at hsource
  have hstays₁ : Stays s₁ source.fileId := stays_of_open hsource rfl
  refine meetsS_cancelled (meetsS_closeSource hstays₁ (.of_cancelled (.inl hkept₁))) ?_
  refine meetsS_bind.2 (meetsS_openWithFreshId.mono ?_)
  rintro (e | e | target) session₂ s₂ h₂
  · exact .of_throw (.inl (by rw [show s₂ = s₁ from h₂, hkept₁]))
  · -- the CREATE of the target may have been carried out
    obtain ⟨m₂, hm₂, hleft⟩ := h₂.1.granted_or_not
    have hsofar : (m₂.objects = m.objects ∨ ∃ n, CopiesTo m.objects (server.target sourcePath)
        (server.target targetPath) n m₂.objects) ∧ Stays m₂ source.fileId := by
      obtain rfl | ⟨reply, create, -, hopens⟩ := hm₂
      · exact ⟨.inl hkept₁, hstays₁⟩
      · exact ⟨.inr ⟨0, (BothOpen.of_opens hkept₁ hpresent hsource hopens).copied⟩,
          hopens.stays hstays₁⟩
    obtain rfl | rfl := hleft
    · exact meetsS_closeSource hsofar.2 (h₂.2.ends hsofar.1 rfl)
    · exact meetsS_closeSource hsofar.2 (h₂.2.ends hsofar.1 rfl)
  have hboth := BothOpen.of_opens hkept₁ hpresent hsource h₂.opens
  have hplace := hboth.copied.place
  dsimp only
  split
  · rename_i hempty
    refine hboth.meets_close (.of_ok (.inr ⟨0, hboth.copied⟩) ?_)
    rw [hempty]
    exact hboth.copied
  refine meetsS_bind.2 (meetsS_ioctlWithFreshId.mono ?_)
  rintro (e | e | resume) session₃ s₃ h₃
  · exact .of_throw (.inr ⟨0, (show s₃ = s₂ from h₃) ▸ hboth.copied⟩)
  · have hstill := hboth.left rfl h₃.1
    exact hstill.meets_close (h₃.2.ends (.inr ⟨0, hstill.copied⟩) rfl)
  obtain ⟨reply, hreply, hgrants⟩ := h₃
  obtain ⟨response, hreply', hstate⟩ := hgrants.handsOut rfl hboth.sourceOpen
  rw [hreply] at hreply'
  cases hreply'
  have hstill : BothOpen m.objects (server.target sourcePath) (server.target targetPath)
      source.fileId target.fileId s₃ := hboth.same (by rw [hstate]) (by rw [hstate])
  dsimp only
  split
  · exact hstill.meets_close
      (.of_error (.inr ⟨0, hstill.copied⟩) (by rintro ⟨⟩) fun _ => trivial)
  rename_i hkey
  obtain ⟨object, hoverwritten, -⟩ := hstill.copied.copied
  have hresume : s₃.resumeKeys (resume.output.take 24) = some (server.target sourcePath) := by
    rw [hstate]
    exact if_pos rfl
  exact meets_copyChunks hkey size.toNat_lt (Nat.zero_le _) (by omega) ⟨hpresent, hplace,
    hoverwritten, Nat.zero_le _, hstill.tree, hresume, stays_of_open hstill.sourceOpen rfl,
    hstill.targetOpen⟩

end

end FileServer

end SmbBrowser.Native
