import SmbBrowser.Native.DisjointIds
import SmbBrowser.Native.Exceptions
import SmbBrowser.Native.Replies

/-!
# Handles of the server-side copy

`copyFileServerSide` (native_smb/NativeSmbSession.cpp:647) opens a source and a
target and has eight exits.  Its clean-up runs in a context without a
cancellation token, so that every exit sends the CLOSE of what is open.

Results:
* `Closing`: the file ids obtained so far and the CLOSE requests the run has ended
  with so far;
* `closes_copyChunks`: every exit of the loop closes both files;
* `copyFileServerSide_closes`: every run ends with one CLOSE for each file id.
-/

namespace SmbBrowser.Native

open SmbBrowser.Base

/-! ## File ids and CLOSE requests of a run -/

/-- The file id of a CREATE response that could be decoded. -/
def obtainedBy : Event Wire → List FileId
  | ⟨.exchange sent _, reply⟩ =>
    match sent.request.body, decodedReply decodeCreateResponse reply with
    | .create _, .ok create => [create.fileId]
    | _, _ => []
  | _ => []

/-- The file ids a run obtained, in order. -/
def obtainedIds (es : List (Event Wire)) : List FileId := es.flatMap obtainedBy

/-- The requests of a run from its first CLOSE on. -/
def fromFirstClose (es : List (Event Wire)) : List RequestBody :=
  ((sentRequests es).map (·.request.body)).dropWhile fun body => !body.isClose

/-- The run obtained these file ids; from its first CLOSE on it closed these. -/
structure Closing (obtained closed : List FileId) (es : List (Event Wire)) : Prop where
  obtained : obtainedIds es = obtained
  closed : fromFirstClose es = closed.map fun fileId => .close { fileId }

variable {obtained closed : List FileId} {es : List (Event Wire)} {context : OperationContext}

theorem sentRequests_append (es es' : List (Event Wire)) :
    sentRequests (es ++ es') = sentRequests es ++ sentRequests es' := by
  induction es with
  | nil => rfl
  | cons e es ih =>
    obtain ⟨op, ans⟩ := e
    cases op with
    | exchange sent context => exact congrArg (sent :: ·) ih
    | _ => exact ih

theorem obtainedIds_append (e : Event Wire) :
    obtainedIds (es ++ [e]) = obtainedIds es ++ obtainedBy e := by
  rw [obtainedIds, obtainedIds, List.flatMap_append, List.flatMap_singleton]

/-- What does not send a request changes nothing. -/
theorem Closing.quiet (h : Closing obtained closed es) {e : Event Wire}
    (he : sentRequests [e] = []) : Closing obtained closed (es ++ [e]) := by
  have hnone : obtainedBy e = [] := by
    obtain ⟨op, ans⟩ := e
    cases op with
    | exchange sent context => cases he
    | _ => rfl
  refine ⟨?_, ?_⟩
  · rw [obtainedIds_append, hnone, List.append_nil, h.obtained]
  · rw [fromFirstClose, sentRequests_append, he, List.append_nil]
    exact h.closed

variable {sent : SentRequest} {reply : DecodeResult ByteVector}

theorem fromFirstClose_append :
    fromFirstClose (es ++ [⟨.exchange sent context, reply⟩]) =
      if fromFirstClose es = [] ∧ sent.request.body.isClose = false then []
      else fromFirstClose es ++ [sent.request.body] := by
  have hsent : sentRequests [(⟨.exchange sent context, reply⟩ : Event Wire)] = [sent] := rfl
  rw [fromFirstClose, sentRequests_append, hsent, List.map_append, List.dropWhile_append]
  by_cases hnone : (fromFirstClose es).isEmpty = true
  · have hnil : fromFirstClose es = [] := List.isEmpty_iff.1 hnone
    rw [fromFirstClose] at hnone
    rw [if_pos hnone, List.map_singleton, hnil]
    cases hbody : sent.request.body.isClose with
    | true => simp [hbody]
    | false => simp [hbody]
  · have hne : ¬ fromFirstClose es = [] := fun hnil => hnone (List.isEmpty_iff.2 hnil)
    rw [fromFirstClose] at hnone
    rw [if_neg hnone, if_neg fun h => hne h.1]
    rfl

/-- A request before the first CLOSE. -/
theorem Closing.send (h : Closing obtained [] es) (hbody : sent.request.body.isClose = false) :
    Closing (obtained ++ obtainedBy ⟨.exchange sent context, reply⟩) []
      (es ++ [⟨.exchange sent context, reply⟩]) where
  obtained := by rw [obtainedIds_append, h.obtained]
  closed := by rw [fromFirstClose_append, if_pos ⟨h.closed, hbody⟩, List.map_nil]

theorem Closing.close (h : Closing obtained closed es) {fileId : FileId}
    (hbody : sent.request.body = .close { fileId }) :
    Closing obtained (closed ++ [fileId]) (es ++ [⟨.exchange sent context, reply⟩]) where
  obtained := by
    have hnone : obtainedBy ⟨.exchange sent context, reply⟩ = [] := by
      rw [obtainedBy, hbody]
    rw [obtainedIds_append, hnone, List.append_nil, h.obtained]
  closed := by
    rw [fromFirstClose_append, if_neg (by simp [hbody, RequestBody.isClose]), h.closed, hbody,
      List.map_append, List.map_singleton]

/-! ## The steps of the copy -/

/-- Every file id was closed once, the last one first, and nothing else was sent
    from the first CLOSE on. -/
def ClosedAll (es : List (Event Wire)) : Prop :=
  fromFirstClose es = (obtainedIds es).reverse.map fun fileId => .close { fileId }

theorem Closing.closedAll (h : Closing obtained obtained.reverse es) : ClosedAll es := by
  rw [ClosedAll, h.closed, h.obtained]

variable {α β : Type}

/-- After a run with these file ids the program returns, and leaves everything
    closed. -/
structure Closes (obtained closed : List FileId) (p : SessionM α) : Prop where
  meets : ∀ session es, Closing obtained closed es →
    MeetsS .history p (fun r _ es => (∃ a, r = .ok a) ∧ ClosedAll es) session es

theorem closes_pure (a : α) : Closes obtained obtained.reverse (pure a : SessionM α) :=
  ⟨fun _ _ h => ⟨⟨a, rfl⟩, h.closedAll⟩⟩

theorem closes_look {p q : SessionM α} (hp : Closes obtained closed p)
    (hq : Closes obtained closed q) :
    Closes obtained closed (SessionM.cancelled context >>= fun b => if b = true then p else q) := by
  refine ⟨fun session es h => meetsS_bind.2 (meetsS_ofProg.2 (tracked_isCancelled ?_ fun _ => ?_))⟩
  · refine hq.meets _ _ ?_
    rw [looked]
    split
    · exact h.quiet rfl
    · exact h
  · exact hp.meets _ _ (h.quiet rfl)

theorem closes_reportProgress {progress : TransferProgress} {k : Unit → SessionM α}
    (hk : Closes obtained closed (k ())) :
    Closes obtained closed (SessionM.ofProg (reportProgress progress context) >>= k) := by
  refine ⟨fun session es h => meetsS_bind.2 (meetsS_ofProg.2 ?_)⟩
  rw [reportProgress]
  by_cases hreports : context.reportsProgress = true
  · rw [if_pos hreports]
    exact meetsE_lift.2 (meets_tracking_ask.2 fun _ => hk.meets _ _ (h.quiet rfl))
  · rw [if_neg hreports]
    exact hk.meets _ _ h

/-- A buffer that can be built before the next step. -/
theorem closes_built {x : Except Exn β} {a : β} {f : β → SessionM α} (hx : x = .ok a)
    (h : Closes obtained closed (f a)) :
    Closes obtained closed (SessionM.ofProg (Prog.ofExcept x) >>= f) := by
  subst hx
  exact ⟨h.meets⟩

theorem closes_openWithFreshId {options : CreateRequestOptions} (hc : options.createContexts = [])
    (hpath : fitsCreate options.path) {k : DecodeResult CreateResponse → SessionM α}
    (herror : ∀ e, Closes obtained [] (k (.error e)))
    (hok : ∀ create, Closes (obtained ++ [create.fileId]) [] (k (.ok create))) :
    Closes obtained [] (Session.openWithFreshId options context >>= k) := by
  refine ⟨fun session es h => meetsS_bind.2 (meetsS_allocateMessageIds.2 (meetsS_withIds.2
    (openFile_meets ?_ ?_)))⟩
  · intro e he
    obtain ⟨frame, hframe⟩ := (Request.frame_create_iff _ _ _ hc).2 hpath
    rw [hframe] at he
    cases he
  · rintro sent hsent
    have hbody : sent.request.body = .create options := by rw [hsent]
    refine ⟨trivial, ?_⟩
    rintro reply m rfl
    have hsend : Closing _ [] (es ++ [⟨.exchange sent context, reply⟩]) :=
      h.send (by rw [hbody]; rfl)
    rw [obtainedBy, hbody] at hsend
    constructor
    · intro create hcreate
      rw [hcreate] at hsend
      exact (hok create).meets _ _ hsend
    · intro hnone e
      cases hcreate : decodedReply decodeCreateResponse reply with
      | ok create => exact absurd hcreate (hnone create)
      | error e' =>
        rw [hcreate, List.append_nil] at hsend
        exact (herror e).meets _ _ hsend

theorem closes_ioctlWithFreshId {options : IoctlRequestOptions} (hinput : fitsIoctl options.input)
    {k : DecodeResult IoctlResponse → SessionM α} (herror : ∀ e, Closes obtained [] (k (.error e)))
    (hok : ∀ response, Closes obtained [] (k (.ok response))) :
    Closes obtained [] (Session.ioctlWithFreshId options context >>= k) := by
  refine ⟨fun session es h => meetsS_bind.2 (meetsS_allocateMessageIds.2 (meetsS_withIds.2
    (ioctl_meets ?_ ?_)))⟩
  · intro e he
    obtain ⟨frame, hframe⟩ := (Request.frame_ioctl_iff _ _ _).2 hinput
    rw [hframe] at he
    cases he
  · rintro sent hsent
    have hbody : sent.request.body = .ioctl options := by rw [hsent]
    refine ⟨trivial, ?_⟩
    rintro reply m rfl
    have hsend : Closing _ [] (es ++ [⟨.exchange sent context, reply⟩]) :=
      h.send (by rw [hbody]; rfl)
    rw [obtainedBy, hbody, List.append_nil] at hsend
    exact ⟨fun response _ => (hok response).meets _ _ hsend,
      fun _ e => (herror e).meets _ _ hsend⟩

/-- The clean-up always sends its CLOSE: its context cannot be cancelled. -/
theorem closes_closeFile {fileId : FileId} {k : DecodeResult Unit → SessionM α}
    (hk : ∀ r, Closes obtained (closed ++ [fileId]) (k r)) :
    Closes obtained closed (Session.closeFile fileId {} >>= k) := by
  refine ⟨fun session es h => meetsS_bind.2 (meetsS_allocateMessageIds.2 (meetsS_bind.2
    (meetsS_withIds.2 ?_)))⟩
  refine tracked_exchangeResponse (by intro hc; cases hc) (fun e he => ?_) ?_
  · obtain ⟨frame, hframe⟩ := Request.frame_close _ _ _ { fileId }
    rw [hframe] at he
    cases he
  · rintro sent hsent reply answered
    have hclosed : Closing obtained (closed ++ [fileId]) answered := h.close (by rw [hsent])
    refine ⟨fun _ _ e => (hk _).meets _ _ hclosed, fun frame _ => ⟨?_, ?_, ?_⟩⟩
    · intro hc
      cases hc
    · intro response _
      exact (hk _).meets _ _ hclosed
    · intro _ e
      exact (hk _).meets _ _ hclosed

/-! ## The copy -/

variable {source target : FileId} {path : ByteVector}

theorem closes_closeSource (a : α) :
    Closes [source] [] (Session.closeFile source {} >>= fun _ => pure a) :=
  closes_closeFile fun _ => closes_pure a

/-- `closeBoth`, and then the method returns. -/
theorem closes_closeBoth (source target : FileId) (a : α) :
    Closes [source, target] [] (Session.closeBoth source target >>= fun _ => pure a) := by
  rw [Session.closeBoth, bind_assoc]
  refine closes_closeFile fun _ => ?_
  rw [bind_assoc]
  refine closes_closeFile fun _ => ?_
  rw [pure_bind]
  exact closes_pure a

/-- **Every exit of the loop closes both files.** -/
theorem closes_copyChunks {resumeKey : ByteVector} (hkey : ¬ resumeKey.length < 24) (size : ℕ)
    (fuel offset : ℕ) :
    Closes [source, target] []
      (Session.copyChunks source target resumeKey path size context fuel offset) := by
  induction fuel generalizing offset with
  | zero => exact closes_closeBoth source target _
  | succ fuel ih =>
    rw [Session.copyChunks]
    split
    · exact closes_closeBoth source target _
    refine closes_look (closes_closeBoth source target _) ?_
    obtain ⟨input, hinput, hfits⟩ := buildSrvCopyChunkRequest_single {
      sourceOffset := UInt64.ofNat offset, targetOffset := UInt64.ofNat offset,
      length := UInt32.ofNat (min Session.kCopyChunkSize (size - offset)) } hkey
    refine closes_built hinput (closes_ioctlWithFreshId hfits
      (fun e => closes_closeBoth source target _) fun copied => ?_)
    dsimp only
    split
    · exact closes_closeBoth source target _
    split
    · exact closes_closeBoth source target _
    · exact closes_reportProgress (ih _)

theorem closes_copyFileServerSide {sourcePath targetPath : ByteVector} {size : UInt64}
    (hsource : fitsCreate sourcePath) (htarget : fitsCreate targetPath) (session : Session) :
    MeetsS .history (Session.copyFileServerSide sourcePath targetPath size context)
      (fun r _ es => (∃ a, r = .ok a) ∧ ClosedAll es) session [] := by
  have hnone : Closing [] [] [] := ⟨rfl, rfl⟩
  refine meetsS_enter ⟨trivial, ?_⟩
  rintro es rfl
  refine Closes.meets ?_ session _ (hnone.quiet rfl)
  refine closes_look (closes_pure _) ?_
  refine closes_openWithFreshId rfl hsource (fun e => closes_pure _) fun source => ?_
  refine closes_look (closes_closeSource _) ?_
  refine closes_openWithFreshId rfl htarget (fun e => closes_closeSource _) fun target => ?_
  dsimp only
  by_cases hempty : size = 0
  · rw [if_pos hempty]
    exact closes_closeBoth source.fileId target.fileId _
  rw [if_neg hempty]
  refine closes_ioctlWithFreshId fitsIoctl_nil
    (fun e => closes_closeBoth source.fileId target.fileId _) fun resume => ?_
  dsimp only
  by_cases hkey : resume.output.length < 24
  · rw [if_pos hkey]
    exact closes_closeBoth source.fileId target.fileId _
  · rw [if_neg hkey]
    exact closes_copyChunks hkey _ _ _

/-- **Handle discipline of the server-side copy**: every run returns a result, and
    from its first CLOSE on it sends one CLOSE for each file id it obtained, the
    target's before the source's, and nothing else. -/
theorem copyFileServerSide_closes {sourcePath targetPath : ByteVector}
    (hsource : fitsCreate sourcePath) (htarget : fitsCreate targetPath) {size : UInt64}
    {context : OperationContext} {session session' : Session} {es : List (Event Wire)}
    {r : Except Exn (DecodeResult NativeObjectMutationResult)}
    (hrun : Program.Runs ((Session.copyFileServerSide sourcePath targetPath size context).run.run
      session) es (r, session')) :
    (∃ result, r = .ok result) ∧
      fromFirstClose es = (obtainedIds es).reverse.map fun fileId => .close { fileId } :=
  (closes_copyFileServerSide hsource htarget session).history hrun

set_option maxRecDepth 10000 in
/-- An empty file is copied over an answering server: two file ids, two CLOSEs. -/
theorem copyFileServerSide_closes_empty :
    let run := Program.serve playback
      ((Session.copyFileServerSide (ascii "a") (ascii "b") 0 {}).run.run (.new 1 1 1))
      ([.ok (framed createdMessage), .ok (framed createdMessage), .ok (framed closedMessage),
        .ok (framed closedMessage)], [])
    obtainedIds run.1 = [{}, {}] ∧ (∃ result, run.2.1.1 = .ok result) ∧
      fromFirstClose run.1 = (obtainedIds run.1).reverse.map fun fileId => .close { fileId } := by
  intro run
  have hrun : Program.Runs ((Session.copyFileServerSide (ascii "a") (ascii "b") 0 {}).run.run
      (.new 1 1 1)) run.1 (run.2.1.1, run.2.1.2) := Program.runs_serve playback _ _
  have hsource : fitsCreate (ascii "a") := ⟨[0x61, 0], rfl, by decide⟩
  have htarget : fitsCreate (ascii "b") := ⟨[0x62, 0], rfl, by decide⟩
  obtain ⟨hresult, hclosed⟩ := copyFileServerSide_closes hsource htarget hrun
  exact ⟨by rfl, hresult, hclosed⟩

end SmbBrowser.Native
