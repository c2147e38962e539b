import SmbBrowser.Native.MessageIds

/-!
# Helpers that report the messages they used

One lemma for each helper: the requests of a call its log accounts for lie
below the first id plus the number of messages the helper reports.

Results:
* `meets_remoteStatReader`, `meets_setAttributes`, … for stat and metadata;
* `meets_remoteShareEnumerator`, `meets_remoteDfsReferralFetcher`;
* `meets_directoryLister`, `meets_fileWriter`, whose failures the session
  takes to have used three messages.
-/

namespace SmbBrowser.Native

open SmbBrowser.Base

/-! ## Stat -/

/-- The messages a result says were used. -/
def reportedIds {α : Type} (used : α → ℕ) : Except Exn (DecodeResult α) → ℕ
  | .error _ => 0
  | .ok (.error e) => e.messagesUsed
  | .ok (.ok a) => used a

/-- A cancelled helper that has sent a request is not accounted for. -/
theorem not_reportsStop_poll {log : CallLog} (h : log.requests ≠ 0) :
    ¬ reportsStop (log.poll .helper true) := by
  simp [reportsStop, h]

section Reporting

variable {t : Tally} {m : ℕ} (treeId : UInt32) (sessionId : UInt64) (context : OperationContext)

/-- A stat reports every request it sent, unless a helper's look at the token
    stopped it after the first. -/
theorem meets_remoteStatReader (path : ByteVector) (hlog : t.log = {})
    (hcovers : t.settled → t.ordered = true ∧ t.next ≤ m) :
    MeetsE Tallied (remoteStatReader m treeId sessionId context path)
      (fun r => Spent (.statObject path) t (m + reportedIds (·.messagesUsed) r)) t := by
  have h₀ := Sofar.begin hlog hcovers
  -- a helper's poll that stops the stat after the first request
  have stopped {t' : Tally} {n bound : ℕ} (h : Sofar t m (n + 1) t') :
      Spent (.statObject path) t bound (t'.poll .helper true) :=
    (h.poll .helper true).spent_of_not (not_reportsStop_poll (by rw [h.requests]; omega))
  unfold remoteStatReader
  refine meets_unlessCancelled ((h₀.poll _ _).spent (by simp)) ?_
  refine h₀.exchangePayload rfl (charge_create ..) (fun e _ => h₀.spent (by simp)) ?_ ?_
  · intro e h₁
    exact h₁.spent le_rfl
  intro payload h₁
  refine meets_unlessCancelled (stopped h₁) ?_
  cases decodeCreateResponse payload with
  | error e => exact h₁.spent le_rfl
  | ok create =>
    refine h₁.exchangeResponse rfl (charge_queryInfo ..) (fun _ => rfl)
      (not_refused (Request.frame_queryInfo _ _ _ rfl)) (fun e t' h => h.spent le_rfl) ?_
    intro basicResponse h₂
    refine meets_unlessCancelled (stopped h₂) ?_
    cases decodeFileBasicInformation basicResponse.buffer with
    | error e => exact h₂.spent le_rfl
    | ok basicInfo =>
      refine h₂.exchangeResponse rfl (charge_queryInfo ..) (fun _ => rfl)
        (not_refused (Request.frame_queryInfo _ _ _ rfl)) (fun e t' h => h.spent le_rfl) ?_
      intro standardResponse h₃
      refine meets_unlessCancelled (stopped h₃) ?_
      cases decodeFileStandardInformation standardResponse.buffer with
      | error e => exact h₃.spent le_rfl
      | ok standardInfo =>
        refine h₃.exchangeResponse rfl (charge_close ..) (fun _ => rfl)
          (not_refused (Request.frame_close ..)) (fun e t' h => h.spent le_rfl) ?_
        intro closed h₄
        exact h₄.spent le_rfl

/-! ## Metadata -/

/-- What the metadata operations share: the object is opened, and a helper's
    look at the token after that is not accounted for. -/
theorem meets_withMetadataObject {α : Type} {call : SessionCall} {used : α → ℕ} {code : ErrorCode}
    {text : String} {path : ByteVector} {desiredAccess : UInt32}
    {operation : CreateResponse → Prog (DecodeResult α)} (hlog : t.log = {})
    (hcovers : t.settled → t.ordered = true ∧ t.next ≤ m)
    (hreports : ∀ log, Accounted call log → reportsStop log)
    (hoperation : ∀ create t', Sofar t m 1 t' → t'.log.answered = true →
      MeetsE Tallied (operation create)
        (fun r => Spent call t (m + reportedIds used r)) t') :
    MeetsE Tallied (withMetadataObject m treeId sessionId context (failure code text) path
        desiredAccess operation)
      (fun r => Spent call t (m + reportedIds used r)) t := by
  have h₀ := Sofar.begin hlog hcovers
  unfold withMetadataObject openForMetadata
  refine meets_unlessCancelled ((h₀.poll _ _).spent (by simp)) ?_
  rw [LawfulMonad.bind_assoc]
  refine h₀.openFile (fun e => h₀.spent (by simp)) ?_ ?_
  · intro e t' h
    exact h.spent le_rfl
  · intro create h₁
    refine meets_unlessCancelled ?_ ?_
    · refine (h₁.poll _ _).spent_of_not fun hacc => ?_
      exact not_reportsStop_poll (by rw [h₁.requests]; decide) (hreports _ hacc)
    · exact hoperation create _ h₁ (by simp [hlog])

/-- SET_INFO and CLOSE after the object was opened; a SET_INFO that does not
    fit its frame is not accounted for. -/
theorem meets_setInfoAndClose {call : SessionCall} {t' : Tally} {create : CreateResponse}
    {options : SetInfoRequestOptions} (h₁ : Sofar t m 1 t')
    (hfits : Accounted call t'.log → fitsSetInfo options.buffer) :
    MeetsE Tallied (setInfoAndClose m treeId sessionId context create options)
      (fun r => Spent call t (m + reportedIds (·.messagesUsed) r)) t' := by
  unfold setInfoAndClose
  refine h₁.exchangeResponse rfl (charge_setInfo ..) (fun _ => rfl) ?_
    (fun e t' h => h.spent le_rfl) ?_
  · intro e he
    refine h₁.spent_of_not fun hacc => ?_
    obtain ⟨frame, hframe⟩ := Request.frame_setInfo (m + 1) treeId sessionId (hfits hacc)
    cases hframe.symm.trans he
  intro status h₂
  refine h₂.exchangeResponse rfl (charge_close ..) (fun _ => rfl)
    (not_refused (Request.frame_close ..)) (fun e t' h => h.spent le_rfl) ?_
  intro closed h₃
  exact h₃.spent le_rfl

theorem meets_metadataSetBasicInformation (path : ByteVector) (info : FileBasicInformation)
    (hlog : t.log = {}) (hcovers : t.settled → t.ordered = true ∧ t.next ≤ m) :
    MeetsE Tallied (metadataSetBasicInformation m treeId sessionId context path info)
      (fun r => Spent (.setBasicInformation path info) t
        (m + reportedIds (·.messagesUsed) r)) t := by
  refine meets_withMetadataObject treeId sessionId context hlog hcovers (fun log h => h) ?_
  intro create t' h₁ _
  refine meets_setInfoAndClose treeId sessionId context h₁ fun _ => ?_
  show 96 + (buildFileBasicInformation info).length ≤ kMaxDirectTcpPayloadLength
  simp [buildFileBasicInformation, kMaxDirectTcpPayloadLength]

theorem meets_metadataListExtendedAttributes (path : ByteVector)
    (hlog : t.log = {}) (hcovers : t.settled → t.ordered = true ∧ t.next ≤ m) :
    MeetsE Tallied (metadataListExtendedAttributes m treeId sessionId context path)
      (fun r => Spent (.listExtendedAttributes path) t
        (m + reportedIds (·.messagesUsed) r)) t := by
  refine meets_withMetadataObject treeId sessionId context hlog hcovers (fun log h => h) ?_
  intro create t' h₁ _
  refine h₁.exchangeResponse rfl (charge_queryInfo ..) (fun _ => rfl)
    (not_refused (Request.frame_queryInfo _ _ _ rfl)) (fun e t' h => h.spent le_rfl) ?_
  intro query h₂
  dsimp only
  cases decodeFileFullEaInformation query.buffer with
  | error e => exact h₂.spent le_rfl
  | ok entries =>
    refine h₂.exchangeResponse rfl (charge_close ..) (fun _ => rfl)
      (not_refused (Request.frame_close ..)) (fun e t' h => h.spent le_rfl) ?_
    intro closed h₃
    exact h₃.spent le_rfl

/-- The attribute buffer may be refused, or the frame that holds it. -/
theorem meets_setAttributes (call : SessionCall) {path : ByteVector}
    {entries : List FileFullEaInformation} (hlog : t.log = {})
    (hcovers : t.settled → t.ordered = true ∧ t.next ≤ m)
    (haccounted : ∀ log, Accounted call log →
      reportsStop log ∧ (fitsAttributes entries ∨ log.requests = 0 ∨ log.answered = false)) :
    MeetsE Tallied (metadataSetExtendedAttributes m treeId sessionId context path entries)
      (fun r => Spent call t (m + reportedIds (·.messagesUsed) r)) t := by
  refine meets_withMetadataObject treeId sessionId context hlog hcovers
    (fun log h => (haccounted log h).1) ?_
  intro create t' h₁ hanswered
  have hfits : Accounted call t'.log → fitsAttributes entries := by
    intro hacc
    obtain h | h | h := (haccounted _ hacc).2
    · exact h
    · simp [h₁.requests] at h
    · simp [hanswered] at h
  cases hbuild : buildFileFullEaInformation entries with
  | error e =>
    refine h₁.spent_of_not fun hacc => ?_
    obtain ⟨buffer, hbuffer, -⟩ := hfits hacc
    cases hbuild.symm.trans hbuffer
  | ok buffer =>
    refine meets_setInfoAndClose treeId sessionId context h₁ fun hacc => ?_
    obtain ⟨buffer', hbuffer, hfit⟩ := hfits hacc
    cases hbuild.symm.trans hbuffer
    exact hfit

theorem meets_metadataQuerySecurityDescriptor (path : ByteVector) (information : UInt32)
    (hlog : t.log = {}) (hcovers : t.settled → t.ordered = true ∧ t.next ≤ m) :
    MeetsE Tallied (metadataQuerySecurityDescriptor m treeId sessionId context path information)
      (fun r => Spent (.querySecurityDescriptor path information) t
        (m + reportedIds (·.messagesUsed) r)) t := by
  refine meets_withMetadataObject treeId sessionId context hlog hcovers (fun log h => h) ?_
  intro create t' h₁ _
  refine h₁.exchangeResponse rfl (charge_queryInfo ..) (fun _ => rfl)
    (not_refused (Request.frame_queryInfo _ _ _ rfl)) (fun e t' h => h.spent le_rfl) ?_
  intro query h₂
  refine h₂.exchangeResponse rfl (charge_close ..) (fun _ => rfl)
    (not_refused (Request.frame_close ..)) (fun e t' h => h.spent le_rfl) ?_
  intro closed h₃
  exact h₃.spent le_rfl

theorem meets_metadataSetSecurityDescriptor (path : ByteVector) (information : UInt32)
    (descriptor : ByteVector) (hlog : t.log = {})
    (hcovers : t.settled → t.ordered = true ∧ t.next ≤ m) :
    MeetsE Tallied
      (metadataSetSecurityDescriptor m treeId sessionId context path information descriptor)
      (fun r => Spent (.setSecurityDescriptor path information descriptor) t
        (m + reportedIds (·.messagesUsed) r)) t := by
  refine meets_withMetadataObject treeId sessionId context hlog hcovers (fun log h => h.1) ?_
  intro create t' h₁ hanswered
  refine meets_setInfoAndClose treeId sessionId context h₁ fun hacc => ?_
  obtain h | h | h := hacc.2
  · exact h
  · simp [h₁.requests] at h
  · simp [hanswered] at h

/-! ## DFS referrals and share list -/

theorem meets_remoteDfsReferralFetcher (requestPath : ByteVector) (hlog : t.log = {})
    (hcovers : t.settled → t.ordered = true ∧ t.next ≤ m) :
    MeetsE Tallied (remoteDfsReferralFetcher m treeId sessionId context requestPath)
      (fun r => Spent (.getDfsReferrals requestPath) t
        (m + reportedIds (·.messagesUsed) r)) t := by
  have h₀ := Sofar.begin hlog hcovers
  unfold remoteDfsReferralFetcher
  refine meets_unlessCancelled ((h₀.poll _ _).spent (by simp)) ?_
  cases buildDfsGetReferralRequest requestPath with
  | error e => exact h₀.spent (by simp)
  | ok input =>
    refine h₀.exchangePayload rfl (charge_ioctl ..) (fun e _ => h₀.spent (by simp)) ?_ ?_
    · intro e h₁
      exact h₁.spent le_rfl
    intro payload h₁
    dsimp only
    cases decodeIoctlResponse payload with
    | error e => exact h₁.spent le_rfl
    | ok ioctl =>
      dsimp only
      cases decodeDfsReferralResponse ioctl.output with
      | error e => exact h₁.spent le_rfl
      | ok referrals => exact h₁.spent le_rfl

/-- Share enumeration is not accounted for any more: its request took two
    credits or more and another request followed it. -/
structure Exceeded (t : Tally) (m : ℕ) (t' : Tally) : Prop where
  settled : t'.settled = t.settled
  call : t'.call = t.call
  requests : 3 ≤ t'.log.requests
  covers : t'.log.requests = 3 → Within t (m + 3) t'

section Exceeded

variable {treeId sessionId}
variable {t' : Tally} (h : Exceeded t m t')
include h

theorem Exceeded.poll (asker : Asker) (cancelled : Bool) :
    Exceeded t m (t'.poll asker cancelled) where
  settled := h.settled
  call := h.call
  requests := by simpa using h.requests
  covers heq := (h.covers (by simpa using heq)).poll asker cancelled

theorem Exceeded.send (request : Request) (good : Bool) : Exceeded t m (t'.send request good) where
  settled := h.settled
  call := h.call
  requests := by
    rw [Tally.send_log, CallLog.send_requests]
    exact Nat.le_succ_of_le h.requests
  covers heq := by
    rw [Tally.send_log, CallLog.send_requests] at heq
    have := h.requests
    omega

theorem Exceeded.spent {serverName : ByteVector} (hfits : ¬ fitsShareRequest serverName)
    {bound : ℕ} (hbound : m + 3 ≤ bound) : Spent (.listShares serverName) t bound t' where
  settled := h.settled
  call := h.call
  covers hsettled hacc := by
    have hrequests := h.requests
    obtain hfit | htwo | ⟨hthree, -⟩ := hacc
    · exact absurd hfit hfits
    · omega
    · obtain ⟨hordered, hnext⟩ := (h.covers hthree).covers hsettled
      exact ⟨hordered, by omega⟩

theorem Exceeded.exchangeResponse {α β : Type} {cancelled : String}
    {decode : ByteVector → DecodeResult α} {request : Request} {k : DecodeResult α → Prog β}
    {Q : Except Exn β → Tally → Prop}
    (hdecode : ∀ payload, request.body.accepts payload = succeeds (decode payload))
    (hthrow : ∀ e, request.frame = .error e → Q (.error e) t')
    (hdone : ∀ r t'', Exceeded t m t'' → MeetsE Tallied (k r) Q t'') :
    MeetsE Tallied (Native.exchangeResponse cancelled decode request context >>= k) Q t' := by
  refine meetsE_bind.2 (meets_exchangeResponse hdecode hthrow ?_ ?_ ?_)
  · intro e
    exact hdone _ _ (h.poll _ _)
  · intro e
    exact hdone _ _ (h.send _ _)
  · intro a
    exact hdone _ _ (h.send _ _)

end Exceeded

section SharePipe

variable {treeId sessionId}
variable {t' : Tally} {n : ℕ} {α β : Type} {serverName : ByteVector}

/-- The pipe is closed with the next free id. -/
theorem meets_closeOpenedPipe {used : α → ℕ} {fileId : FileId} {e : ProtocolError}
    (h : Within t (m + n) t') :
    MeetsE Tallied (closeOpenedPipe m treeId sessionId fileId e n : Prog (DecodeResult α))
      (fun r => Spent (.listShares serverName) t (m + reportedIds used r)) t' := by
  have sent (good : Bool) :
      Within t (m + (n + 1)) (t'.send ⟨.close { fileId }, m + n, treeId, sessionId⟩ good) :=
    h.send le_rfl (show m + n + 1 ≤ m + (n + 1) from le_rfl) good
  unfold closeOpenedPipe closePipe
  rw [LawfulMonad.bind_assoc]
  refine meetsE_bind.2 (meets_exchangeResponse (fun _ => rfl)
    (not_refused (Request.frame_close ..)) ?_ ?_ ?_)
  · intro e'
    exact (h.poll _ _).spent (by show m + n ≤ m + (n + 1); omega)
  · intro e'
    exact (sent false).spent le_rfl
  · intro a
    exact (sent true).spent le_rfl

theorem Exceeded.closeOpenedPipe {used : α → ℕ} {fileId : FileId} {e : ProtocolError}
    (h : Exceeded t m t') (hfits : ¬ fitsShareRequest serverName) (hn : 3 ≤ n) :
    MeetsE Tallied (closeOpenedPipe m treeId sessionId fileId e n : Prog (DecodeResult α))
      (fun r => Spent (.listShares serverName) t (m + reportedIds used r)) t' := by
  unfold Native.closeOpenedPipe closePipe
  rw [LawfulMonad.bind_assoc]
  refine h.exchangeResponse {} (fun _ => rfl) (not_refused (Request.frame_close ..)) ?_
  intro r t'' h'
  cases r with
  | error e' => exact h'.spent hfits (by show m + 3 ≤ m + (n + 1); omega)
  | ok closed => exact h'.spent hfits (by show m + 3 ≤ m + (n + 1); omega)

end SharePipe

section SharePipe

variable {treeId sessionId}
variable {t₀ t' : Tally} {n : ℕ} {β : Type} {fileId : FileId} {Q : Except Exn β → Tally → Prop}

/-- `writePipe` with data of one credit: a short write is a failure after a
    good reply. -/
theorem Sofar.writePipe (h : Sofar t₀ m n t') {data : ByteVector} {k : DecodeResult Unit → Prog β}
    (hlen : data.length ≤ 65536)
    (hfail : ∀ e t'', Within t₀ (m + (n + 1)) t'' → MeetsE Tallied (k (.error e)) Q t'')
    (hok : ∀ t'', Sofar t₀ m (n + 1) t'' → t''.log.closed = t'.log.closed →
      t''.log.answered = t'.log.answered → MeetsE Tallied (k (.ok ())) Q t'') :
    MeetsE Tallied (Native.writePipe (m + n) treeId sessionId context fileId data >>= k) Q t' := by
  have hcharge : (creditCharge data.length).toNat ≤ 1 := by
    unfold creditCharge
    split
    · decide
    · have hone : 1 + (data.length - 1) / 65536 = 1 := by omega
      rw [hone]
      decide
  have hframe : ∃ frame, (⟨.write { fileId, data }, m + n, treeId, sessionId⟩ : Request).frame =
      .ok frame :=
    Request.frame_write _ _ _ (show 112 + data.length ≤ 0xFFFFFF by omega) rfl
  unfold Native.writePipe
  rw [LawfulMonad.bind_assoc]
  refine h.exchangeResponse rfl hcharge (fun _ => rfl) (not_refused hframe) ?_ ?_
  · intro e t'' h'
    exact hfail _ t'' h'
  · intro written h'
    by_cases hcount : written.count.toNat = data.length
    · simpa [hcount] using hok _ h' (by simp [RequestBody.isClose]) (by simp)
    · simpa [hcount, failure] using hfail _ _ h'.toWithin

theorem Sofar.readPipe (h : Sofar t₀ m n t') {k : DecodeResult ByteVector → Prog β}
    (hfail : ∀ e t'', Within t₀ (m + (n + 1)) t'' → MeetsE Tallied (k (.error e)) Q t'')
    (hok : ∀ bytes t'', Sofar t₀ m (n + 1) t'' → t''.log.closed = t'.log.closed →
      t''.log.answered = t'.log.answered → MeetsE Tallied (k (.ok bytes)) Q t'') :
    MeetsE Tallied (Native.readPipe (m + n) treeId sessionId context fileId >>= k) Q t' := by
  unfold Native.readPipe
  rw [LawfulMonad.bind_assoc]
  refine h.exchangeResponse rfl (show creditCharge 65536 ≤ 1 by decide) (fun _ => rfl)
    (not_refused (Request.frame_read _ _ _ rfl)) ?_ ?_
  · intro e t'' h'
    exact hfail _ t'' h'
  · intro read h'
    exact hok _ _ h' (by simp [RequestBody.isClose]) (by simp)

end SharePipe

section SharePipe

variable {treeId sessionId}
variable {t' : Tally} {messageId : ℕ} {β : Type} {fileId : FileId} {Q : Except Exn β → Tally → Prop}

theorem Exceeded.writePipe (h : Exceeded t m t') {data : ByteVector}
    {k : DecodeResult Unit → Prog β}
    (hthrow : ∀ e, Q (.error e) t')
    (hdone : ∀ r t'', Exceeded t m t'' → MeetsE Tallied (k r) Q t'') :
    MeetsE Tallied (Native.writePipe messageId treeId sessionId context fileId data >>= k) Q t' := by
  unfold Native.writePipe
  rw [LawfulMonad.bind_assoc]
  refine h.exchangeResponse _ (fun _ => rfl) (fun e _ => hthrow e) ?_
  intro r t'' h'
  cases r with
  | error e => exact hdone _ _ h'
  | ok written =>
    by_cases hcount : written.count.toNat = data.length
    · simpa [hcount] using hdone _ _ h'
    · simpa [hcount] using hdone _ _ h'

theorem Exceeded.readPipe (h : Exceeded t m t') {k : DecodeResult ByteVector → Prog β}
    (hdone : ∀ r t'', Exceeded t m t'' → MeetsE Tallied (k r) Q t'') :
    MeetsE Tallied (Native.readPipe messageId treeId sessionId context fileId >>= k) Q t' := by
  unfold Native.readPipe
  rw [LawfulMonad.bind_assoc]
  refine h.exchangeResponse _ (fun _ => rfl) (not_refused (Request.frame_read _ _ _ rfl)) ?_
  intro r t'' h'
  cases r with
  | error e => exact hdone _ _ h'
  | ok read => exact hdone _ _ h'

end SharePipe

theorem length_buildDcerpcRequestPdu (opnum : UInt16) (stub : ByteVector) (callId : UInt32) :
    (buildDcerpcRequestPdu opnum stub callId).length = 24 + stub.length := by
  simp [buildDcerpcRequestPdu, dcerpcCommonHeader]
  omega

/-- The share request and its answer when they take a single credit each. -/
theorem Sofar.exchangeShareEnum {serverName requestPdu : ByteVector} {fileId : FileId} {t₃ : Tally}
    (h₃ : Sofar t m 3 t₃) (hlen : requestPdu.length ≤ 65536) :
    MeetsE Tallied (Native.exchangeShareEnum m treeId sessionId context fileId requestPdu)
      (fun r => Spent (.listShares serverName) t (m + reportedIds (·.messagesUsed) r)) t₃ := by
  unfold Native.exchangeShareEnum
  refine h₃.writePipe _ hlen (fun e t' h => meets_closeOpenedPipe h) ?_
  intro t₄ h₄ _ _
  refine h₄.readPipe _ (fun e t' h => meets_closeOpenedPipe h) ?_
  intro responseBytes t₅ h₅ _ _
  dsimp only
  cases decodeDcerpcResponse responseBytes with
  | error e => exact meets_closeOpenedPipe h₅.toWithin
  | ok rpcResponse =>
    dsimp only
    cases decodeNetrShareEnumResponseStub rpcResponse.stubData with
    | error e => exact meets_closeOpenedPipe h₅.toWithin
    | ok shareEnum =>
      dsimp only
      unfold closePipe
      rw [LawfulMonad.bind_assoc]
      refine h₅.exchangeResponse rfl (charge_close ..) (fun _ => rfl)
        (not_refused (Request.frame_close ..)) (fun e t' h => h.spent le_rfl) ?_
      intro closed h₆
      exact h₆.spent le_rfl

/-- The same when the request takes more credits: nothing is accounted for
    once it is sent and followed by another request. -/
theorem Exceeded.exchangeShareEnum {serverName requestPdu : ByteVector} {fileId : FileId}
    {t₃ : Tally} (x₃ : Exceeded t m t₃) (hfits : ¬ fitsShareRequest serverName)
    (hthrow : Spent (.listShares serverName) t m t₃) :
    MeetsE Tallied (Native.exchangeShareEnum m treeId sessionId context fileId requestPdu)
      (fun r => Spent (.listShares serverName) t (m + reportedIds (·.messagesUsed) r)) t₃ := by
  unfold Native.exchangeShareEnum
  refine x₃.writePipe _ (fun e => hthrow) ?_
  rintro (e | written) t₄ x₄
  · exact x₄.closeOpenedPipe hfits (by decide)
  refine x₄.readPipe _ ?_
  rintro (e | responseBytes) t₅ x₅
  · exact x₅.closeOpenedPipe hfits (by decide)
  dsimp only
  cases decodeDcerpcResponse responseBytes with
  | error e => exact x₅.closeOpenedPipe hfits (by decide)
  | ok rpcResponse =>
    dsimp only
    cases decodeNetrShareEnumResponseStub rpcResponse.stubData with
    | error e => exact x₅.closeOpenedPipe hfits (by decide)
    | ok shareEnum =>
      dsimp only
      unfold closePipe
      rw [LawfulMonad.bind_assoc]
      refine x₅.exchangeResponse _ (fun _ => rfl) (not_refused (Request.frame_close ..)) ?_
      rintro (e | closed) t₆ x₆
      · exact x₆.spent hfits (by show m + 3 ≤ m + 6; omega)
      · exact x₆.spent hfits (by show m + 3 ≤ m + 6; omega)

theorem meets_remoteShareEnumerator (serverName : ByteVector) (hlog : t.log = {})
    (hcovers : t.settled → t.ordered = true ∧ t.next ≤ m) :
    MeetsE Tallied (remoteShareEnumerator m treeId sessionId context serverName)
      (fun r => Spent (.listShares serverName) t (m + reportedIds (·.messagesUsed) r)) t := by
  have h₀ := Sofar.begin hlog hcovers
  unfold remoteShareEnumerator
  refine meets_unlessCancelled ((h₀.poll _ _).spent (by simp)) ?_
  refine h₀.exchangePayload rfl (charge_create ..) (fun e _ => h₀.spent (by simp)) ?_ ?_
  · intro e h₁
    exact h₁.spent le_rfl
  intro payload h₁
  dsimp only
  cases hcreate : decodeCreateResponse payload with
  | error e => exact h₁.spent le_rfl
  | ok create =>
    have hgood : RequestBody.accepts payload (.create srvsvcPipeOpenOptions) = true := by
      simp [RequestBody.accepts, hcreate]
    simp only [hgood] at h₁ ⊢
    refine h₁.writePipe _ (by decide) (fun e t' h => meets_closeOpenedPipe h) ?_
    intro t₂ h₂ hclosed₂ hanswered₂
    refine h₂.readPipe _ (fun e t' h => meets_closeOpenedPipe h) ?_
    intro bindBytes t₃ h₃ hclosed₃ hanswered₃
    dsimp only
    cases decodeDcerpcBindAck bindBytes with
    | error e => exact meets_closeOpenedPipe h₃.toWithin
    | ok ack =>
      have hclosed : t₃.log.closed = false := by
        rw [hclosed₃, hclosed₂]; simp [hlog, RequestBody.isClose]
      have hanswered : t₃.log.answered = true := by
        rw [hanswered₃, hanswered₂]; simp [hlog]
      -- a request that cannot be built or framed leaves three requests unreported
      have hthrow (hfits : ¬ fitsShareRequest serverName) :
          Spent (.listShares serverName) t m t₃ := by
        refine h₃.spent_of_not fun hacc => ?_
        obtain h | h | ⟨-, h | h⟩ := hacc
        · exact hfits h
        · rw [h₃.requests] at h; omega
        · rw [hclosed] at h; cases h
        · rw [hanswered] at h; cases h
      cases hstub : buildNetrShareEnumRequestStub serverName with
      | error e =>
        refine hthrow ?_
        rintro ⟨stub, hok, -⟩
        cases hstub.symm.trans hok
      | ok stub =>
        by_cases hlen : 24 + stub.length ≤ 65536
        · refine h₃.exchangeShareEnum treeId sessionId context ?_
          rw [length_buildDcerpcRequestPdu]
          exact hlen
        · have hfits : ¬ fitsShareRequest serverName := by
            rintro ⟨stub', hok, hle⟩
            cases hstub.symm.trans hok
            exact hlen hle
          have x₃ : Exceeded t m t₃ :=
            ⟨h₃.settled, h₃.call, h₃.requests.ge, fun _ => h₃.toWithin⟩
          exact x₃.exchangeShareEnum treeId sessionId context hfits (hthrow hfits)

/-! ## Listing -/

/-- The messages the session adds for a helper whose failures it takes to have
    used three messages. -/
def countedIds {α : Type} (used : α → ℕ) : Except Exn (DecodeResult α) → ℕ
  | .error _ => 0
  | .ok (.error _) => 3
  | .ok (.ok a) => used a

/-- A failed listing has used at most three messages, or it is not accounted
    for. -/
theorem Sofar.spent_listing {path : ByteVector} {n : ℕ} {t' : Tally} (h : Sofar t m n t')
    (hanswered : t'.log.answered = false) : Spent (.listDirectory path) t (m + 3) t' where
  settled := h.settled
  call := h.call
  covers hsettled hacc := by
    have hthree : t'.log.requests ≤ 3 := by
      obtain hthree | hall := hacc
      · exact hthree
      · rw [hanswered] at hall
        cases hall
    obtain ⟨hordered, hnext⟩ := h.covers hsettled
    have hrequests := h.requests
    exact ⟨hordered, by omega⟩

/-- What the pages of a listing leave: the requests are in order, whichever way
    they end, and a success counts them.  The one exception is the loop that
    does not end. -/
def ListedPages (path : ByteVector) (t : Tally) (m : ℕ) :
    Except Exn (DecodeResult (List DirectoryEntry × ℕ)) → Tally → Prop
  | .error e, t' => e = .unfinished ∧ ∃ bound, Within t bound t'
  | .ok (.error _), t' => Spent (.listDirectory path) t (m + 3) t'
  | .ok (.ok (_, used)), t' => Sofar t m used t' ∧ t'.log.answered = true

/-- The loop over the pages, by induction on the pages left. -/
theorem meets_listPages (path : ByteVector) {fileId : FileId} (fuel : ℕ) :
    ∀ {firstQuery : Bool} {n : ℕ} {entries : List DirectoryEntry} {t' : Tally}, Sofar t m n t' →
      t'.log.answered = true →
      MeetsE Tallied (listPages m treeId sessionId context fileId fuel firstQuery n entries)
        (ListedPages path t m) t' := by
  induction fuel with
  | zero =>
    intro firstQuery n entries t' h _
    exact ⟨rfl, _, h.toWithin⟩
  | succ fuel ih =>
    intro firstQuery n entries t' h hanswered
    unfold listPages
    refine h.exchangePayload rfl (charge_queryDirectory ..)
      (not_refused (Request.frame_queryDirectory _ _ _ rfl)) ?_ ?_
    · intro e h'
      exact h'.spent_listing (by simp)
    intro payload h'
    refine meets_unlessCancelled ((h'.poll _ _).spent_listing (by simp)) ?_
    cases hdecode : decodeQueryDirectoryResponse payload with
    | error e =>
      exact h'.spent_listing (by simp [RequestBody.accepts, hdecode])
    | ok response =>
      have hgood : (CallLog.answered (t'.log.send
          (.queryDirectory { fileId, flags := if firstQuery then kQueryDirectoryRestartScans else 0 })
          (succeeds (decodeQueryDirectoryResponse payload)))) = true := by
        simp [hdecode, hanswered]
      dsimp only
      by_cases hlast : response.status = kStatusNoMoreFiles
      · rw [if_pos hlast]
        exact ⟨h', hgood⟩
      by_cases hempty : response.entries = []
      · rw [if_neg hlast, if_pos hempty]
        exact ⟨h', hgood⟩
      · rw [if_neg hlast, if_neg hempty]
        exact ih h' hgood

/-- What a listing leaves, with the pages that do not end set apart. -/
def Listed (path : ByteVector) (t : Tally) (m : ℕ) :
    Except Exn (DecodeResult DirectoryListResult) → Tally → Prop
  | .error e, t' => (∃ bound, Within t bound t') ∧ (e ≠ .unfinished → Within t m t')
  | .ok r, t' => Spent (.listDirectory path) t (m + countedIds (·.messagesUsed) (.ok r)) t'

theorem meets_directoryLister (fuel : ℕ) (path : ByteVector) (hlog : t.log = {})
    (hcovers : t.settled → t.ordered = true ∧ t.next ≤ m) :
    MeetsE Tallied (directoryLister m treeId sessionId context fuel path) (Listed path t m) t := by
  have h₀ := Sofar.begin hlog hcovers
  unfold directoryLister
  refine meets_unlessCancelled ((h₀.poll _ _).spent (by show m + 0 ≤ m + 3; omega)) ?_
  refine h₀.exchangePayload rfl (charge_create ..)
    (fun e _ => ⟨⟨_, h₀.toWithin⟩, fun _ => h₀.toWithin⟩) ?_ ?_
  · intro e h₁
    exact h₁.spent_listing (by simp)
  intro payload h₁
  refine meets_unlessCancelled ((h₁.poll _ _).spent_listing (by simp)) ?_
  cases hdecode : decodeCreateResponse payload with
  | error e => exact h₁.spent_listing (by simp [RequestBody.accepts, hdecode])
  | ok create =>
    dsimp only
    refine (meets_listPages treeId sessionId context path fuel h₁
      (by simp [RequestBody.accepts, hdecode, hlog])).bind ?_ ?_
    · intro r t' hpages
      cases r with
      | error e => exact hpages
      | ok r =>
        obtain ⟨entries, used⟩ := r
        obtain ⟨h, hanswered⟩ := hpages
        refine meetsE_bind.2 (meets_exchangeResponse (fun _ => rfl)
          (not_refused (Request.frame_close ..)) ?_ ?_ ?_)
        · intro e
          exact (h.poll _ _).spent_listing (by simp)
        · intro e
          exact (h.send rfl (charge_close ..) false).spent_listing (by simp)
        · intro closed
          exact (h.send rfl (charge_close ..) true).spent le_rfl
    · rintro e t' ⟨rfl, hwithin⟩
      exact ⟨hwithin, fun hne => absurd rfl hne⟩

/-! ## Writing -/

/-- The second request of a three-message call takes `charge` credits; the call
    is accounted for when they fit, or when no third request was sent. -/
theorem Within.spent_charged {call : SessionCall} {charge : UInt16} {t' : Tally}
    (h : Within t (m + 1 + max 1 charge.toNat) t') (hrequests : t'.log.requests = 2)
    (hthree : Accounted call t'.log → fitsThreeIds charge t'.log.requests) :
    Spent call t (m + 3) t' where
  settled := h.settled
  call := h.call
  covers hsettled hacc := by
    obtain ⟨hordered, hnext⟩ := h.covers hsettled
    obtain hone | htwo | ⟨hcharge, -⟩ := hthree hacc
    · exact ⟨hordered, by omega⟩
    · omega
    · exact ⟨hordered, by omega⟩

/-- The second request of such a call. -/
theorem Sofar.exchangeCharged {call : SessionCall} {request : Request} {t' : Tally} {α β : Type}
    {cancelled : String} {decode : ByteVector → DecodeResult α} {k : DecodeResult α → Prog β}
    {Q : Except Exn β → Tally → Prop} (h₁ : Sofar t m 1 t') (hid : request.messageId = m + 1)
    (hdecode : ∀ payload, request.body.accepts payload = succeeds (decode payload))
    (hthree : ∀ log, 2 ≤ log.requests → Accounted call log →
      fitsThreeIds request.charge log.requests)
    (hthrow : ∀ e, request.frame = .error e → Q (.error e) t')
    (hfail : ∀ e t'', Spent call t (m + 3) t'' → MeetsE Tallied (k (.error e)) Q t'')
    (hok : ∀ a t'', Within t (m + 1 + max 1 request.charge.toNat) t'' → t''.log.requests = 2 →
      MeetsE Tallied (k (.ok a)) Q t'') :
    MeetsE Tallied (Native.exchangeResponse cancelled decode request context >>= k) Q t' := by
  have sent (good : Bool) :
      Within t (m + 1 + max 1 request.charge.toNat) (t'.send request good) ∧
        (t'.send request good).log.requests = 2 := by
    refine ⟨h₁.toWithin.send (by omega) (by omega) good, ?_⟩
    rw [Tally.send_log, CallLog.send_requests, h₁.requests]
  refine meetsE_bind.2 (meets_exchangeResponse hdecode hthrow ?_ ?_ ?_)
  · intro e
    exact hfail _ _ ((h₁.poll _ _).spent (by omega))
  · intro e
    obtain ⟨hwithin, hrequests⟩ := sent false
    exact hfail _ _ (hwithin.spent_charged hrequests (hthree _ hrequests.ge))
  · intro a
    obtain ⟨hwithin, hrequests⟩ := sent true
    exact hok _ _ hwithin hrequests

/-- CLOSE as the third request of such a call. -/
theorem Within.closeThird {call : SessionCall} {charge : UInt16} {t' : Tally} {β : Type}
    {fileId : FileId} {k : DecodeResult CloseResponse → Prog β} {Q : Except Exn β → Tally → Prop}
    (h : Within t (m + 1 + max 1 charge.toNat) t') (hrequests : t'.log.requests = 2)
    (hthree : ∀ log, 2 ≤ log.requests → Accounted call log → fitsThreeIds charge log.requests)
    (hdone : ∀ r t'', Spent call t (m + 3) t'' → MeetsE Tallied (k r) Q t'') :
    MeetsE Tallied (closeExchanger (m + 2) treeId sessionId context { fileId } >>= k) Q t' := by
  have sent (good : Bool) :
      Spent call t (m + 3) (t'.send ⟨.close { fileId }, m + 2, treeId, sessionId⟩ good) := by
    by_cases hone : charge.toNat ≤ 1
    · have hclose : Within t (m + 3)
          (t'.send ⟨.close { fileId }, m + 2, treeId, sessionId⟩ good) :=
        h.send (by show _ ≤ m + 2; omega) (by simp [Request.charge]) good
      exact hclose.spent le_rfl
    · refine ⟨h.settled, h.call, fun _ hacc => ?_⟩
      have hfit := hthree _ (by simp [hrequests]) hacc
      simp only [fitsThreeIds, Tally.send_log, CallLog.send_requests, hrequests] at hfit
      omega
  refine meetsE_bind.2 (meets_exchangeResponse (fun _ => rfl)
    (not_refused (Request.frame_close ..)) ?_ ?_ ?_)
  · intro e
    refine hdone _ _ ((h.poll _ _).spent_charged (by simpa using hrequests) fun hacc => ?_)
    exact hthree _ (by simp [hrequests]) hacc
  · intro e
    exact hdone _ _ (sent false)
  · intro closed
    exact hdone _ _ (sent true)

theorem meets_fileWriter (path data : ByteVector) (offset : UInt64) (hlog : t.log = {})
    (hcovers : t.settled → t.ordered = true ∧ t.next ≤ m) :
    MeetsE Tallied (fileWriter m treeId sessionId context path data offset)
      (fun r => Spent (.writeFileOnce path data offset) t
        (m + countedIds (·.messagesUsed) r)) t := by
  have h₀ := Sofar.begin hlog hcovers
  unfold fileWriter
  refine meets_unlessCancelled ((h₀.poll _ _).spent (by show m + 0 ≤ m + 3; omega)) ?_
  refine h₀.exchangePayload rfl (charge_create ..) (fun e _ => h₀.spent le_rfl) ?_ ?_
  · intro e h₁
    exact h₁.spent (by show m + 1 ≤ m + 3; omega)
  intro payload h₁
  refine meets_unlessCancelled ((h₁.poll _ _).spent (by show m + 1 ≤ m + 3; omega)) ?_
  cases hdecode : decodeCreateResponse payload with
  | error e => exact h₁.spent (by show m + 1 ≤ m + 3; omega)
  | ok create =>
    dsimp only
    by_cases hempty : data = []
    · rw [if_pos hempty]
      refine h₁.exchangeResponse rfl (charge_close ..) (fun _ => rfl)
        (not_refused (Request.frame_close ..)) ?_ ?_
      · intro e t' h
        exact h.spent (by show m + 2 ≤ m + 3; omega)
      · intro closed h₂
        exact h₂.spent le_rfl
    rw [if_neg hempty]
    have hthree : ∀ log, Accounted (.writeFileOnce path data offset) log →
        (fitsWrite data ∨ log.requests = 0 ∨ log.answered = false) ∧
          fitsThreeIds (creditCharge data.length) log.requests := by
      intro log hacc
      exact hacc.resolve_left hempty
    refine h₁.exchangeCharged context rfl (fun _ => rfl) (fun log _ hacc => (hthree log hacc).2)
      ?_ (fun e t' h => h) ?_
    · -- a frame that is refused after the CREATE
      intro e he
      refine h₁.spent_of_not fun hacc => ?_
      obtain hfits | hnone | hfailed := (hthree _ hacc).1
      · have hwrite : ∃ frame, (⟨.write { fileId := create.fileId, data, offset }, m + 1, treeId,
            sessionId⟩ : Request).frame = .ok frame := Request.frame_write _ _ _ hfits rfl
        obtain ⟨frame, hframe⟩ := hwrite
        cases hframe.symm.trans he
      · rw [h₁.requests] at hnone
        cases hnone
      · simp [RequestBody.accepts, hdecode, hlog] at hfailed
    · intro write t' h hrequests
      refine h.closeThird treeId sessionId context hrequests
        (fun log _ hacc => (hthree log hacc).2) ?_
      rintro (e | closed) t'' h₃
      · exact h₃
      · exact h₃

end Reporting

end SmbBrowser.Native
