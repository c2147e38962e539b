import SmbBrowser.Native.ReportedIds

/-!
# Helpers whose ids are taken before they run

One lemma for each helper: its requests lie below the first id plus the number
of ids the session has set aside, however the helper ends.

Results:
* `meets_openFile`, `meets_readExchanger`, `meets_closeExchanger`, `meets_ioctl`:
  single requests;
* `meets_fileReader`: CREATE, READ and CLOSE, where the READ may be charged more;
* `meets_setInfoOnObject`, `meets_objectCreateSymbolicLink`,
  `meets_directoryWatcher`: three requests.
-/

namespace SmbBrowser.Native

open SmbBrowser.Base

section

variable {t t₀ : Tally} {m n : ℕ} (treeId : UInt32) (sessionId : UInt64) (context : OperationContext)

/-! ## Single requests -/

/-- One request with the next id. -/
theorem Within.exchangeResponse {α : Type} {cancelled : String}
    {decode : ByteVector → DecodeResult α} (h : Within t₀ m t) (request : Request)
    (hid : m ≤ request.messageId)
    (hdecode : ∀ payload, request.body.accepts payload = succeeds (decode payload)) :
    MeetsE Tallied (Native.exchangeResponse cancelled decode request context)
      (fun _ => Within t₀ (request.messageId + max 1 request.charge.toNat)) t := by
  refine meets_exchangeResponse hdecode ?_ ?_ ?_ ?_
  · intro e _
    exact h.mono (by omega)
  · intro e
    exact (h.poll _ _).mono (by omega)
  · intro e
    exact h.send hid le_rfl false
  · intro a
    exact h.send hid le_rfl true

theorem Within.closeExchanger (h : Within t₀ m t) (o : CloseRequestOptions) :
    MeetsE Tallied (Native.closeExchanger m treeId sessionId context o)
      (fun _ => Within t₀ (m + 1)) t :=
  h.exchangeResponse context ⟨.close o, m, treeId, sessionId⟩ le_rfl fun _ => rfl

theorem Within.exchangePayload (h : Within t₀ m t) (request : Request)
    (hid : m ≤ request.messageId) :
    MeetsE Tallied (Native.exchangePayload request context)
      (fun _ => Within t₀ (request.messageId + max 1 request.charge.toNat)) t := by
  refine meets_exchangePayload ?_ ?_ ?_
  · intro e _
    exact h.mono (by omega)
  · intro e
    exact h.send hid le_rfl false
  · intro payload
    exact h.send hid le_rfl _

theorem Within.openFile (h : Within t₀ m t) (o : CreateRequestOptions) :
    MeetsE Tallied (Native.openFile m treeId sessionId context o)
      (fun _ => Within t₀ (m + 1)) t := by
  have hcreate := h.exchangePayload context ⟨.create o, m, treeId, sessionId⟩ le_rfl
  unfold Native.openFile
  refine hcreate.bind ?_ ?_
  · rintro (e | payload) t' h'
    · exact h'
    · exact h'
  · intro e t' h'
    exact h'

theorem Within.ioctl (h : Within t₀ m t) (o : IoctlRequestOptions) :
    MeetsE Tallied (Native.ioctl m treeId sessionId context o)
      (fun _ => Within t₀ (m + 1)) t := by
  have hioctl := h.exchangePayload context ⟨.ioctl o, m, treeId, sessionId⟩ le_rfl
  unfold Native.ioctl
  refine hioctl.bind ?_ ?_
  · rintro (e | payload) t' h'
    · exact h'
    · exact h'
  · intro e t' h'
    exact h'

/-- A chunk is read with the ids its length is charged. -/
theorem Within.readExchanger (h : Within t₀ m t) (o : ReadRequestOptions) :
    MeetsE Tallied (Native.readExchanger m treeId sessionId context o)
      (fun _ => Within t₀ (m + creditChargeForPayload o.length.toNat)) t := by
  have hcharge : max 1 (creditCharge o.length.toNat).toNat ≤
      creditChargeForPayload o.length.toNat := by
    unfold creditCharge creditChargeForPayload
    split
    · decide
    · have hle : (UInt16.ofNat (1 + (o.length.toNat - 1) / 65536)).toNat ≤
          1 + (o.length.toNat - 1) / 65536 := Nat.mod_le _ _
      omega
  refine (h.exchangeResponse context ⟨.read o, m, treeId, sessionId⟩ le_rfl fun _ => rfl).mono ?_
  intro r t' h'
  exact h'.mono (Nat.add_le_add_left hcharge m)

/-! ## Reading -/

theorem meets_fileReader (path : ByteVector) (length : UInt32) (offset : UInt64)
    (hlog : t.log = {}) (hcovers : t.settled → t.ordered = true ∧ t.next ≤ m) :
    MeetsE Tallied (fileReader m treeId sessionId context path length offset)
      (fun _ => Spent (.readFileOnce path length offset) t (m + 3)) t := by
  have h₀ := Sofar.begin hlog hcovers
  unfold fileReader
  refine meets_unlessCancelled ((h₀.poll _ _).spent (by omega)) ?_
  refine h₀.exchangePayload rfl (charge_create ..) (fun e _ => h₀.spent (by omega)) ?_ ?_
  · intro e h₁
    exact h₁.spent (by omega)
  intro payload h₁
  refine meets_unlessCancelled ((h₁.poll _ _).spent (by omega)) ?_
  cases decodeCreateResponse payload with
  | error e => exact h₁.spent (by omega)
  | ok create =>
    have hthree : ∀ log : CallLog, 2 ≤ log.requests →
        Accounted (.readFileOnce path length offset) log →
          fitsThreeIds (creditCharge length.toNat) log.requests := fun log _ hacc => hacc
    refine h₁.exchangeCharged context rfl (fun _ => rfl) hthree
      (not_refused (Request.frame_read _ _ _ rfl)) (fun e t' h => h) ?_
    intro read t' h hrequests
    refine h.closeThird treeId sessionId context hrequests hthree ?_
    rintro (e | closed) t'' h₃
    · exact h₃
    · exact h₃

/-! ## Objects -/

/-- What the object operations share: CREATE, then at most the rest of the
    ids. -/
theorem meets_withObject {cancelled : String} {options : CreateRequestOptions} {count : ℕ}
    {operation : FileId → Prog (DecodeResult RemoteObjectResult)} (h₀ : Sofar t₀ m 0 t)
    (hcount : 1 ≤ count)
    (hoperation : ∀ fileId t', Sofar t₀ m 1 t' →
      MeetsE Tallied (operation fileId) (fun _ => Within t₀ (m + count)) t') :
    MeetsE Tallied (withObject m treeId sessionId context cancelled options operation)
      (fun _ => Within t₀ (m + count)) t := by
  unfold withObject
  refine meets_unlessCancelled ((h₀.toWithin.poll _ _).mono (by omega)) ?_
  refine h₀.openFile (fun e => h₀.toWithin.mono (by omega)) ?_ ?_
  · intro e t' h
    exact h.mono (by omega)
  · intro create h₁
    refine meets_unlessCancelled ((h₁.toWithin.poll _ _).mono (by omega)) ?_
    exact hoperation create.fileId _ h₁

theorem Within.closeAndReturn (h : Within t₀ m t) (fileId : FileId) :
    MeetsE Tallied (Native.closeAndReturn m treeId sessionId context fileId)
      (fun _ => Within t₀ (m + 1)) t := by
  unfold Native.closeAndReturn
  refine (h.closeExchanger treeId sessionId context { fileId }).bind ?_ ?_
  · rintro (e | closed) t' h'
    · exact h'
    · exact h'
  · intro e t' h'
    exact h'

theorem meets_objectCreateDirectory (path : ByteVector) (h₀ : Sofar t₀ m 0 t) :
    MeetsE Tallied (objectCreateDirectory m treeId sessionId context path)
      (fun _ => Within t₀ (m + 2)) t := by
  refine meets_withObject treeId sessionId context h₀ (by decide) ?_
  intro fileId t' h₁
  exact h₁.toWithin.closeAndReturn treeId sessionId context fileId

theorem meets_setInfoOnObject {cancelled : String} {options : CreateRequestOptions}
    {fileInfoClass : UInt8} {buffer : Except Exn ByteVector} (h₀ : Sofar t₀ m 0 t) :
    MeetsE Tallied
      (setInfoOnObject m treeId sessionId context cancelled options fileInfoClass buffer)
      (fun _ => Within t₀ (m + 3)) t := by
  refine meets_withObject treeId sessionId context h₀ (by decide) ?_
  intro fileId t' h₁
  cases buffer with
  | error e => exact h₁.toWithin.mono (by omega)
  | ok buffer =>
    refine h₁.exchangeResponse rfl (charge_setInfo ..) (fun _ => rfl)
      (fun e _ => h₁.toWithin.mono (by omega)) (fun e t' h => h.mono (by omega)) ?_
    intro status h₂
    exact h₂.toWithin.closeAndReturn treeId sessionId context fileId

theorem meets_objectCreateSymbolicLink (linkPath targetPath : ByteVector)
    (directory relative : Bool) (h₀ : Sofar t₀ m 0 t) :
    MeetsE Tallied
      (objectCreateSymbolicLink m treeId sessionId context linkPath targetPath directory relative)
      (fun _ => Within t₀ (m + 3)) t := by
  refine meets_withObject treeId sessionId context h₀ (by decide) ?_
  intro fileId t' h₁
  cases buildSymbolicLinkReparseBuffer targetPath targetPath relative with
  | error e => exact h₁.toWithin.mono (by omega)
  | ok input =>
    refine (h₁.toWithin.ioctl treeId sessionId context _).bind ?_ ?_
    · rintro (e | response) t'' h
      · exact h.mono (by omega)
      · exact h.closeAndReturn treeId sessionId context fileId
    · intro e t'' h
      exact h.mono (by omega)

/-! ## Watching -/

theorem meets_directoryWatcher (path : ByteVector) (completionFilter : UInt32) (watchTree : Bool)
    (h₀ : Sofar t₀ m 0 t) :
    MeetsE Tallied
      (directoryWatcher m treeId sessionId context path completionFilter watchTree 65536)
      (fun _ => Within t₀ (m + 3)) t := by
  unfold directoryWatcher
  refine meets_unlessCancelled ((h₀.toWithin.poll _ _).mono (by omega)) ?_
  refine h₀.openFile (fun e => h₀.toWithin.mono (by omega)) ?_ ?_
  · intro e t' h
    exact h.mono (by omega)
  intro create h₁
  refine meets_unlessCancelled ((h₁.toWithin.poll _ _).mono (by omega)) ?_
  refine h₁.exchangeResponse rfl (show (creditCharge 65536).toNat ≤ 1 by decide) (fun _ => rfl)
    (not_refused (Request.frame_changeNotify ..)) (fun e t' h => h.mono (by omega)) ?_
  intro notify h₂
  refine (h₂.toWithin.closeExchanger treeId sessionId context _).bind ?_ ?_
  · rintro (e | closed) t' h
    · exact h
    · exact h
  · intro e t' h
    exact h

end

end SmbBrowser.Native
