import SmbBrowser.Native.Composite

/-!
# Accounting for message ids

What the environment did during one call of a session method (`CallLog`), when
the number of message ids the method takes covers the requests it sent
(`Accounted`), and the specifications of the exchangers against a `Tally` of
the ids in use.

Results:
* `meets_exchangeResponse`, `meets_exchangePayload`: what one exchange adds to
  the tally, and how its outcome shows in the log;
* `Request.frame_eq_ok`: the requests whose frame is never refused.
-/

namespace SmbBrowser.Native

open SmbBrowser.Base Program

/-! ## The log of a call -/

/-- A result that is not a failure. -/
def succeeds {α : Type} : DecodeResult α → Bool
  | .ok _ => true
  | .error _ => false

@[simp] theorem succeeds_ok {α : Type} (a : α) : succeeds (.ok a) = true := rfl
@[simp] theorem succeeds_error {α : Type} (e : ProtocolError) :
    succeeds (.error e : DecodeResult α) = false := rfl

/-- The response decoder of a request accepts the message. -/
def RequestBody.accepts (payload : ByteVector) : RequestBody → Bool
  | .create _ => succeeds (decodeCreateResponse payload)
  | .close _ => succeeds (decodeCloseResponse payload)
  | .read _ => succeeds (decodeReadResponse payload)
  | .write _ => succeeds (decodeWriteResponse payload)
  | .ioctl _ => succeeds (decodeIoctlResponse payload)
  | .setInfo _ => succeeds (decodeSetInfoResponse payload)
  | .queryInfo _ => succeeds (decodeQueryInfoResponse payload)
  | .queryDirectory _ => succeeds (decodeQueryDirectoryResponse payload)
  | .changeNotify _ => succeeds (decodeChangeNotifyResponse payload)

/-- The transport returned a frame with a response the decoder accepts. -/
def goodReply (body : RequestBody) : DecodeResult ByteVector → Bool
  | .error _ => false
  | .ok frame =>
    match decodeDirectTcpPayload frame with
    | .error _ => false
    | .ok payload => body.accepts payload

/-- What the environment did during one call: how many requests it took, whether
    a CLOSE was among them, whether it answered every request properly without
    cancelling, and whether a helper found the operation cancelled. -/
structure CallLog where
  requests : ℕ := 0
  closed : Bool := false
  answered : Bool := true
  stopped : Bool := false

def RequestBody.isClose : RequestBody → Bool
  | .close _ => true
  | _ => false

namespace CallLog

/-- The log after one more request. -/
def send (log : CallLog) (body : RequestBody) (good : Bool) : CallLog where
  requests := log.requests + 1
  closed := log.closed || body.isClose
  answered := log.answered && good
  stopped := log.stopped

/-- The log after one more look at the cancellation token; a session method
    looks outside the calls it makes. -/
def poll (log : CallLog) : Asker → Bool → CallLog
  | .session, _ => log
  | .helper, cancelled =>
    { log with answered := log.answered && !cancelled, stopped := log.stopped || cancelled }
  | .exchanger, cancelled => { log with answered := log.answered && !cancelled }

section

variable (log : CallLog) (body : RequestBody) (good cancelled : Bool) (asker : Asker)

@[simp] theorem send_requests : (log.send body good).requests = log.requests + 1 := rfl
@[simp] theorem send_closed : (log.send body good).closed = (log.closed || body.isClose) := rfl
@[simp] theorem send_answered : (log.send body good).answered = (log.answered && good) := rfl
@[simp] theorem send_stopped : (log.send body good).stopped = log.stopped := rfl
@[simp] theorem poll_requests : (log.poll asker cancelled).requests = log.requests := by
  cases asker <;> rfl
@[simp] theorem poll_closed : (log.poll asker cancelled).closed = log.closed := by
  cases asker <;> rfl
@[simp] theorem poll_answered_true (h : asker ≠ .session) :
    (log.poll asker true).answered = false := by
  cases asker <;> simp_all [poll]
@[simp] theorem poll_helper_stopped :
    (log.poll .helper cancelled).stopped = (log.stopped || cancelled) := rfl
@[simp] theorem poll_exchanger_stopped : (log.poll .exchanger cancelled).stopped = log.stopped := rfl

end

/-- The log after one event of the call. -/
def after (log : CallLog) : Event Wire → CallLog
  | ⟨.exchange sent _, reply⟩ => log.send sent.request.body (goodReply sent.request.body reply)
  | ⟨.isCancelled asker, cancelled⟩ => log.poll asker cancelled
  | _ => log

/-- The log of a call that goes on with the events until the next call. -/
def upTo : CallLog → List (Event Wire) → CallLog
  | log, [] => log
  | log, ⟨.enter _, _⟩ :: _ => log
  | log, e :: es => (log.after e).upTo es

end CallLog

/-- The calls of a run with their logs. -/
def callLogs : List (Event Wire) → List (SessionCall × CallLog)
  | [] => []
  | ⟨.enter call, _⟩ :: es => (call, CallLog.upTo {} es) :: callLogs es
  | _ :: es => callLogs es

/-! ## When a call accounts for its requests -/

/-- The message of SET_INFO with this buffer fits a Direct TCP frame. -/
def fitsSetInfo (buffer : ByteVector) : Prop := 96 + buffer.length ≤ kMaxDirectTcpPayloadLength

/-- The message of WRITE with this data fits a Direct TCP frame. -/
def fitsWrite (data : ByteVector) : Prop := 112 + data.length ≤ kMaxDirectTcpPayloadLength

/-- The attribute buffer can be built and sent. -/
def fitsAttributes (entries : List FileFullEaInformation) : Prop :=
  ∃ buffer, buildFileFullEaInformation entries = .ok buffer ∧ fitsSetInfo buffer

/-- The share request for this server name can be built, and its PDU is sent
    with a single credit. -/
def fitsShareRequest (serverName : ByteVector) : Prop :=
  ∃ stub, buildNetrShareEnumRequestStub serverName = .ok stub ∧ 24 + stub.length ≤ 65536

/-- A middle request of a three-message call whose credit charge fits the three
    ids, given how many requests were taken. -/
def fitsThreeIds (charge : UInt16) (requests : ℕ) : Prop :=
  charge.toNat ≤ 1 ∨ requests ≤ 1 ∨ charge.toNat = 2 ∧ requests = 2

/-- A call that gave up early did so before its first request, or where the
    helper reports the requests it sent. -/
def reportsStop (log : CallLog) : Prop := log.requests = 0 ∨ log.stopped = false

/-- The log under which a call takes as many message ids as its requests cover:
    a listing of more than three requests does not fail; the charge of READ and
    WRITE fits; no stat or metadata operation is cancelled between its requests;
    no builder throws after the first request. -/
def Accounted : SessionCall → CallLog → Prop
  | .listDirectory _, log => log.requests ≤ 3 ∨ log.answered = true
  | .readFileOnce _ length _, log => fitsThreeIds (creditCharge length.toNat) log.requests
  | .writeFileOnce _ data _, log =>
    data = [] ∨
      (fitsWrite data ∨ log.requests = 0 ∨ log.answered = false) ∧
        fitsThreeIds (creditCharge data.length) log.requests
  | .statObject _, log => reportsStop log
  | .setBasicInformation .., log => reportsStop log
  | .listExtendedAttributes _, log => reportsStop log
  | .querySecurityDescriptor .., log => reportsStop log
  | .setExtendedAttributes _ entries, log =>
    reportsStop log ∧ (fitsAttributes entries ∨ log.requests = 0 ∨ log.answered = false)
  | .removeExtendedAttribute _ name, log =>
    reportsStop log ∧ (fitsAttributes [{ name }] ∨ log.requests = 0 ∨ log.answered = false)
  | .setSecurityDescriptor _ _ descriptor, log =>
    reportsStop log ∧ (fitsSetInfo descriptor ∨ log.requests = 0 ∨ log.answered = false)
  | .listShares serverName, log =>
    fitsShareRequest serverName ∨ log.requests ≤ 2 ∨
      log.requests = 3 ∧ (log.closed = true ∨ log.answered = false)
  | _, _ => True

/-! ## The tally of ids in use -/

/-- The ids in use: the log of the current call, whether all calls before it
    are accounted for, the first id above every request, and whether every
    request began there. -/
structure Tally where
  settled : Prop := True
  call : Option SessionCall := none
  log : CallLog := {}
  next : ℕ := 0
  ordered : Bool := true

namespace Tally

/-- The current call is accounted for. -/
def callAccounted (t : Tally) : Prop :=
  match t.call with
  | some call => Accounted call t.log
  | none => True

/-- Every call so far is accounted for. -/
def accounted (t : Tally) : Prop := t.settled ∧ t.callAccounted

/-- The tally after a request. -/
def send (t : Tally) (request : Request) (good : Bool) : Tally :=
  { t with
    log := t.log.send request.body good
    next := request.messageId + max 1 request.charge.toNat
    ordered := t.ordered && decide (t.next ≤ request.messageId) }

/-- The tally after a look at the cancellation token. -/
def poll (t : Tally) (asker : Asker) (cancelled : Bool) : Tally :=
  { t with log := t.log.poll asker cancelled }

/-- The tally after one event. -/
def after (t : Tally) : Event Wire → Tally
  | ⟨.exchange sent _, reply⟩ => t.send sent.request (goodReply sent.request.body reply)
  | ⟨.isCancelled asker, cancelled⟩ => t.poll asker cancelled
  | ⟨.progress _, _⟩ => t
  | ⟨.enter call, _⟩ =>
    { settled := t.accounted, call := some call, next := t.next, ordered := t.ordered }

@[simp] theorem after_exchange (t : Tally) (sent : SentRequest) (context : OperationContext)
    (reply : DecodeResult ByteVector) :
    t.after ⟨.exchange sent context, reply⟩ =
      t.send sent.request (goodReply sent.request.body reply) := rfl

@[simp] theorem after_isCancelled (t : Tally) (asker : Asker) (cancelled : Bool) :
    t.after ⟨.isCancelled asker, cancelled⟩ = t.poll asker cancelled := rfl

@[simp] theorem after_progress (t : Tally) (p : TransferProgress) (u : Unit) :
    t.after ⟨.progress p, u⟩ = t := rfl

section

variable (t : Tally) (request : Request) (good : Bool) (asker : Asker) (cancelled : Bool)

@[simp] theorem send_settled : (t.send request good).settled = t.settled := rfl
@[simp] theorem send_call : (t.send request good).call = t.call := rfl
@[simp] theorem send_log : (t.send request good).log = t.log.send request.body good := rfl
@[simp] theorem send_next :
    (t.send request good).next = request.messageId + max 1 request.charge.toNat := rfl
@[simp] theorem send_ordered :
    (t.send request good).ordered = (t.ordered && decide (t.next ≤ request.messageId)) := rfl
@[simp] theorem poll_settled : (t.poll asker cancelled).settled = t.settled := rfl
@[simp] theorem poll_call : (t.poll asker cancelled).call = t.call := rfl
@[simp] theorem poll_log : (t.poll asker cancelled).log = t.log.poll asker cancelled := rfl
@[simp] theorem poll_next : (t.poll asker cancelled).next = t.next := rfl
@[simp] theorem poll_ordered : (t.poll asker cancelled).ordered = t.ordered := rfl

end

@[simp] theorem poll_false (t : Tally) (asker : Asker) : t.poll asker false = t := by
  cases asker <;> simp [poll, CallLog.poll]

@[simp] theorem poll_session (t : Tally) (cancelled : Bool) : t.poll .session cancelled = t := rfl

/-- A reply that is looked at too late counts as no good reply. -/
@[simp] theorem send_poll_exchanger (t : Tally) (request : Request) (good : Bool) :
    (t.send request good).poll .exchanger true = t.send request false := by
  simp [poll, send, CallLog.poll, CallLog.send]

end Tally

/-- The contract of a client whose ids are tallied. -/
abbrev Tallied : Contract Wire Tally := .tracking Tally.after

/-! ## Specifications of the exchanges -/

section

variable {t : Tally} {context : OperationContext} {α : Type}

theorem meets_isCancelled {asker : Asker} {Q : Except Exn Bool → Tally → Prop}
    (h : ∀ b, Q (.ok b) (t.poll asker b)) : MeetsE Tallied (isCancelled asker context) Q t := by
  by_cases hc : context.cancellable = true
  · rw [isCancelled, if_pos hc]
    exact meetsE_lift.2 (meets_tracking_ask.2 fun b => h b)
  · rw [isCancelled, if_neg hc]
    simpa using h false

theorem meets_reportProgress {progress : TransferProgress} {Q : Except Exn Unit → Tally → Prop}
    (h : Q (.ok ()) t) : MeetsE Tallied (reportProgress progress context) Q t := by
  by_cases hc : context.reportsProgress = true
  · rw [reportProgress, if_pos hc]
    exact meetsE_lift.2 (meets_tracking_ask.2 fun _ => h)
  · rw [reportProgress, if_neg hc]
    exact h

/-- A request is either refused by its builder or sent. -/
theorem meets_exchangeFrame {request : Request}
    {Q : Except Exn (DecodeResult ByteVector) → Tally → Prop}
    (hthrow : ∀ e, request.frame = .error e → Q (.error e) t)
    (hsent : ∀ reply, Q (.ok reply) (t.send request (goodReply request.body reply))) :
    MeetsE Tallied (exchangeFrame request context) Q t := by
  unfold exchangeFrame
  split
  · exact hthrow _ ‹_›
  · exact meetsE_lift.2 (meets_tracking_ask.2 fun reply => hsent reply)

theorem meets_exchangePayload {request : Request}
    {Q : Except Exn (DecodeResult ByteVector) → Tally → Prop}
    (hthrow : ∀ e, request.frame = .error e → Q (.error e) t)
    (hfail : ∀ e, Q (.ok (.error e)) (t.send request false))
    (hok : ∀ payload, Q (.ok (.ok payload)) (t.send request (request.body.accepts payload))) :
    MeetsE Tallied (exchangePayload request context) Q t := by
  unfold exchangePayload
  refine meetsE_bind.2 (meets_exchangeFrame hthrow fun reply => ?_)
  cases reply with
  | error e => exact hfail _
  | ok frame =>
    simp only [goodReply, meetsE_pure]
    cases decodeDirectTcpPayload frame with
    | error e => exact hfail e
    | ok payload => exact hok payload

/-- One exchange through an exchanger: it is refused by the builder, stopped
    before the request, fails after it, or succeeds with a good reply. -/
theorem meets_exchangeResponse {cancelled : String} {decode : ByteVector → DecodeResult α}
    {request : Request} {Q : Except Exn (DecodeResult α) → Tally → Prop}
    (hdecode : ∀ payload, request.body.accepts payload = succeeds (decode payload))
    (hthrow : ∀ e, request.frame = .error e → Q (.error e) t)
    (hstop : ∀ e, Q (.ok (.error e)) (t.poll .exchanger true))
    (hfail : ∀ e, Q (.ok (.error e)) (t.send request false))
    (hok : ∀ a, Q (.ok (.ok a)) (t.send request true)) :
    MeetsE Tallied (exchangeResponse cancelled decode request context) Q t := by
  unfold exchangeResponse
  refine meetsE_bind.2 (meets_isCancelled fun b => ?_)
  cases b with
  | true => exact hstop _
  | false =>
    rw [Tally.poll_false]
    refine meetsE_bind.2 (meets_exchangeFrame hthrow fun reply => ?_)
    cases reply with
    | error e => exact hfail _
    | ok frame =>
      refine meetsE_bind.2 (meets_isCancelled fun b => ?_)
      cases b with
      | true =>
        rw [Tally.send_poll_exchanger]
        exact hfail _
      | false =>
        rw [Tally.poll_false]
        simp only [goodReply, Bool.false_eq_true, if_false]
        cases decodeDirectTcpPayload frame with
        | error e => exact hfail _
        | ok payload =>
          simp only [hdecode]
          cases decode payload with
          | error e => exact hfail _
          | ok a => exact hok a

end

/-! ## Requests whose frame is never refused -/

namespace Request

/-- A request whose message is built and fits a frame. -/
theorem frame_eq_ok {request : Request} {message : ByteVector} (hbuild : request.build = .ok message)
    (hfits : message.length ≤ kMaxDirectTcpPayloadLength) : ∃ frame, request.frame = .ok frame := by
  refine ⟨0 :: (beBytes 3 message.length ++ message), ?_⟩
  have hnot : ¬ message.length > kMaxDirectTcpPayloadLength := by omega
  simp only [frame, hbuild, Bind.bind, Except.bind, encodeDirectTcpFrame, if_neg hnot]

variable (m : ℕ) (t : UInt32) (s : UInt64)

theorem frame_close (o : CloseRequestOptions) : ∃ frame, (⟨.close o, m, t, s⟩ : Request).frame =
    .ok frame :=
  frame_eq_ok rfl (by simp [fileIdBytes, kMaxDirectTcpPayloadLength])

theorem frame_queryInfo {o : QueryInfoRequestOptions} (h : o.inputBuffer = []) :
    ∃ frame, (⟨.queryInfo o, m, t, s⟩ : Request).frame = .ok frame := by
  refine frame_eq_ok (by simp [build, buildQueryInfoRequest, h, Bind.bind, Except.bind]; rfl) ?_
  simp [fileIdBytes, kMaxDirectTcpPayloadLength]

theorem frame_changeNotify (o : ChangeNotifyRequestOptions) :
    ∃ frame, (⟨.changeNotify o, m, t, s⟩ : Request).frame = .ok frame :=
  frame_eq_ok rfl (by simp [fileIdBytes, kMaxDirectTcpPayloadLength])

theorem frame_setInfo {o : SetInfoRequestOptions} (h : fitsSetInfo o.buffer) :
    ∃ frame, (⟨.setInfo o, m, t, s⟩ : Request).frame = .ok frame := by
  have hlen : ¬ o.buffer.length > u32Max := by
    simp only [fitsSetInfo, kMaxDirectTcpPayloadLength] at h
    simp only [u32Max]
    omega
  refine frame_eq_ok
    (by simp only [build, buildSetInfoRequest, hlen, decide_false, throwWhen_false]; rfl) ?_
  simp only [fitsSetInfo] at h
  simp [fileIdBytes]
  omega

theorem frame_write {o : WriteRequestOptions} (h : fitsWrite o.data) (hc : o.channelInfo = []) :
    ∃ frame, (⟨.write o, m, t, s⟩ : Request).frame = .ok frame := by
  have hlen : ¬ o.data.length > u32Max := by
    simp only [fitsWrite, kMaxDirectTcpPayloadLength] at h
    simp only [u32Max]
    omega
  refine frame_eq_ok
    (by simp only [build, buildWriteRequest, hlen, hc, decide_false, throwWhen_false]; rfl) ?_
  simp only [fitsWrite] at h
  simp [fileIdBytes]
  omega

theorem frame_read {o : ReadRequestOptions} (hc : o.channelInfo = []) :
    ∃ frame, (⟨.read o, m, t, s⟩ : Request).frame = .ok frame := by
  refine frame_eq_ok (by simp [build, buildReadRequest, hc, Bind.bind, Except.bind]; rfl) ?_
  simp [fileIdBytes, kMaxDirectTcpPayloadLength]

theorem frame_queryDirectory {o : QueryDirectoryRequestOptions} (hp : o.pattern = ascii "*") :
    ∃ frame, (⟨.queryDirectory o, m, t, s⟩ : Request).frame = .ok frame := by
  have hpattern : encodeUtf16Le (ascii "*") = .ok [0x2A, 0x00] := by decide
  refine frame_eq_ok
    (by simp only [build, buildQueryDirectoryRequest, hp, hpattern, Bind.bind, Except.bind]; rfl) ?_
  simp [fileIdBytes, kMaxDirectTcpPayloadLength]

end Request

end SmbBrowser.Native
