import SmbBrowser.Native.NeverThrows

/-!
# Handles of the session operations

Every method that opens an object for its own use closes it as its last request.
The exits between the two return without a CLOSE.

Results:
* `HandleLog`: the handles a run opened and closed, computed from its events;
* `SessionCall.closesHandles_iff`: when every handle is closed exactly once;
* `readFileOnce_leaks`: a refused READ leaves the file open on a working connection.
-/

namespace SmbBrowser.Native

open SmbBrowser.Base

variable {α β : Type}

/-! ## Handles of a run -/

/-- The information a QUERY_INFO was sent for is in its buffer. -/
def infoUnderstood (options : QueryInfoRequestOptions) (buffer : ByteVector) : Bool :=
  if options.infoType = kInfoTypeFile then
    if options.fileInfoClass = kFileBasicInformation then
      succeeds (decodeFileBasicInformation buffer)
    else if options.fileInfoClass = kFileStandardInformation then
      succeeds (decodeFileStandardInformation buffer)
    else if options.fileInfoClass = kFileFullEaInformation then
      succeeds (decodeFileFullEaInformation buffer)
    else true
  else true

/-- The message answers the request and carries what was asked for.  On a pipe
    a WRITE must take all its data and the READ must bring a bind
    acknowledgement. -/
def RequestBody.understands (pipe : Bool) (payload : ByteVector) : RequestBody → Bool
  | .queryInfo options =>
    match decodeQueryInfoResponse payload with
    | .ok response => infoUnderstood options response.buffer
    | .error _ => false
  | .write options =>
    match decodeWriteResponse payload with
    | .ok response => !pipe || response.count.toNat = options.data.length
    | .error _ => false
  | .read _ =>
    match decodeReadResponse payload with
    | .ok response => !pipe || succeeds (decodeDcerpcBindAck response.data)
    | .error _ => false
  | body => body.accepts payload

/-- The answer of the transport brings a message the client understands. -/
def understood (pipe : Bool) (body : RequestBody) (reply : DecodeResult ByteVector) : Bool :=
  match replyPayload reply with
  | .ok payload => body.understands pipe payload
  | .error _ => false

/-- The handle the server reports, with no CLOSE so far. -/
def openedBy (reply : DecodeResult ByteVector) : List (FileId × ℕ) :=
  match decodedReply decodeCreateResponse reply with
  | .ok create => [(create.fileId, 0)]
  | .error _ => []

/-- The handles after a CLOSE request. -/
def closeHandle (fileId : FileId) (handles : List (FileId × ℕ)) : List (FileId × ℕ) :=
  handles.map fun h => if h.1 = fileId then (h.1, h.2 + 1) else h

/-- The handles of a run with the number of CLOSE requests sent for each after
    it was opened; whether the transport answered every request; whether the
    operation was found cancelled or was not understood while a handle was open;
    how many requests and looks since the last of them it had seen when it was
    last found cancelled. -/
structure HandleLog where
  handles : List (FileId × ℕ) := []
  usable : Bool := true
  disturbed : Bool := false
  stopped : Option (ℕ × ℕ) := none
  requests : ℕ := 0
  looks : ℕ := 0

namespace HandleLog

/-- A handle is open. -/
def held (log : HandleLog) : Bool := log.handles.any fun h => h.2 == 0

/-- The log after one more request. -/
def send (log : HandleLog) (pipe : Bool) (body : RequestBody) (reply : DecodeResult ByteVector) :
    HandleLog where
  handles :=
    match body with
    | .create _ => log.handles ++ openedBy reply
    | .close options => closeHandle options.fileId log.handles
    | _ => log.handles
  usable := log.usable && succeeds reply
  disturbed :=
    match body with
    | .create _ => log.disturbed
    | .close _ => log.disturbed
    | body => log.disturbed || log.held && !understood pipe body reply
  stopped := log.stopped
  requests := log.requests + 1
  looks := 0

/-- The log after one more look at the cancellation token. -/
def look (log : HandleLog) (cancelled : Bool) : HandleLog where
  handles := log.handles
  usable := log.usable
  disturbed := log.disturbed || log.held && cancelled
  stopped := if cancelled then some (log.requests, log.looks) else log.stopped
  requests := log.requests
  looks := log.looks + 1

/-- The log after one event. -/
def after (pipe : Bool) (log : HandleLog) : Event Wire → HandleLog
  | ⟨.exchange sent _, reply⟩ => log.send pipe sent.request.body reply
  | ⟨.isCancelled _, cancelled⟩ => log.look cancelled
  | _ => log

/-- Every handle was closed exactly once. -/
def ClosedOnce (log : HandleLog) : Prop := ∀ h ∈ log.handles, h.2 = 1

end HandleLog

/-- The contract of a client whose handles are recorded. -/
abbrev Handled (pipe : Bool) : Contract Wire HandleLog := .tracking (HandleLog.after pipe)

/-! ## One handle -/

/-- No CREATE was answered with a handle so far. -/
structure Unopened (log : HandleLog) : Prop where
  handles : log.handles = []
  calm : log.disturbed = false

/-- The handle is open, and nothing went wrong since. -/
structure Held (fileId : FileId) (log : HandleLog) : Prop where
  handles : log.handles = [(fileId, 0)]
  calm : log.disturbed = false

/-- The handle is open, and something went wrong since. -/
structure Lost (fileId : FileId) (log : HandleLog) : Prop where
  handles : log.handles = [(fileId, 0)]
  disturbed : log.disturbed = true

/-- The handle was closed, and nothing went wrong before. -/
structure Closed (fileId : FileId) (log : HandleLog) : Prop where
  handles : log.handles = [(fileId, 1)]
  calm : log.disturbed = false

section

variable {log : HandleLog} {fileId : FileId} {pipe : Bool} {context : OperationContext}
  {asker : Asker}

theorem Held.held (h : Held fileId log) : log.held = true := by
  rw [HandleLog.held, h.handles]
  rfl

theorem Lost.held (h : Lost fileId log) : log.held = true := by
  rw [HandleLog.held, h.handles]
  rfl

theorem Closed.not_held (h : Closed fileId log) : log.held = false := by
  rw [HandleLog.held, h.handles]
  rfl

theorem Unopened.not_held (h : Unopened log) : log.held = false := by
  rw [HandleLog.held, h.handles]
  rfl

theorem Unopened.look (h : Unopened log) (cancelled : Bool) : Unopened (log.look cancelled) where
  handles := h.handles
  calm := by simp [HandleLog.look, h.calm, h.not_held]

theorem Closed.look (h : Closed fileId log) (cancelled : Bool) :
    Closed fileId (log.look cancelled) where
  handles := h.handles
  calm := by simp [HandleLog.look, h.calm, h.not_held]

theorem Lost.look (h : Lost fileId log) (cancelled : Bool) : Lost fileId (log.look cancelled) where
  handles := h.handles
  disturbed := by simp [HandleLog.look, h.disturbed]

theorem Held.look_false (h : Held fileId log) : Held fileId (log.look false) where
  handles := h.handles
  calm := by simp [HandleLog.look, h.calm]

/-- An operation found cancelled with its object open. -/
theorem Held.look_true (h : Held fileId log) : Lost fileId (log.look true) where
  handles := h.handles
  disturbed := by simp [HandleLog.look, h.held]

/-- A property that a look finding nothing keeps. -/
theorem of_looked {P : HandleLog → Prop} (hP : ∀ log, P log → P (log.look false)) (h : P log) :
    P (looked (HandleLog.after pipe) asker context log) := by
  rw [looked]
  split
  · exact hP log h
  · exact h

theorem Held.looked (h : Held fileId log) :
    Held fileId (Native.looked (HandleLog.after pipe) asker context log) :=
  of_looked (fun _ h => h.look_false) h

theorem Lost.looked (h : Lost fileId log) :
    Lost fileId (Native.looked (HandleLog.after pipe) asker context log) :=
  of_looked (fun _ h => h.look false) h

theorem Closed.looked (h : Closed fileId log) :
    Closed fileId (Native.looked (HandleLog.after pipe) asker context log) :=
  of_looked (fun _ h => h.look false) h

theorem Unopened.looked (h : Unopened log) :
    Unopened (Native.looked (HandleLog.after pipe) asker context log) :=
  of_looked (fun _ h => h.look false) h

/-! ## One request -/

variable {body : RequestBody} {reply : DecodeResult ByteVector}

/-- A request on an open object, neither CREATE nor CLOSE. -/
def RequestBody.isMiddle : RequestBody → Bool
  | .create _ => false
  | .close _ => false
  | _ => true

variable (log pipe reply) in
theorem send_middle (hbody : body.isMiddle = true) :
    (log.send pipe body reply).handles = log.handles ∧
      (log.send pipe body reply).disturbed =
        (log.disturbed || log.held && !understood pipe body reply) := by
  cases body with
  | create options => cases hbody
  | close options => cases hbody
  | _ => exact ⟨rfl, rfl⟩

theorem Held.send (h : Held fileId log) (hbody : body.isMiddle = true)
    (hreply : understood pipe body reply = true) : Held fileId (log.send pipe body reply) := by
  obtain ⟨hhandles, hdisturbed⟩ := send_middle log pipe reply hbody
  exact ⟨hhandles.trans h.handles, by simp [hdisturbed, h.calm, hreply]⟩

theorem Held.send_lost (h : Held fileId log) (hbody : body.isMiddle = true)
    (hreply : understood pipe body reply = false) : Lost fileId (log.send pipe body reply) := by
  obtain ⟨hhandles, hdisturbed⟩ := send_middle log pipe reply hbody
  exact ⟨hhandles.trans h.handles, by simp [hdisturbed, h.held, hreply]⟩

theorem Held.close (h : Held fileId log) :
    Closed fileId (log.send pipe (.close { fileId }) reply) where
  handles := by
    show closeHandle fileId log.handles = _
    rw [h.handles]
    simp [closeHandle]
  calm := h.calm

theorem Unopened.create (h : Unopened log) {options : CreateRequestOptions}
    {create : CreateResponse} (hreply : decodedReply decodeCreateResponse reply = .ok create) :
    Held create.fileId (log.send pipe (.create options) reply) where
  handles := by
    show log.handles ++ openedBy reply = _
    rw [h.handles, openedBy, hreply]
    rfl
  calm := h.calm

theorem Unopened.create_none (h : Unopened log) {options : CreateRequestOptions}
    (hreply : ∀ create, decodedReply decodeCreateResponse reply ≠ .ok create) :
    Unopened (log.send pipe (.create options) reply) where
  handles := by
    show log.handles ++ openedBy reply = _
    rw [h.handles, openedBy]
    cases hdecoded : decodedReply decodeCreateResponse reply with
    | error e => rfl
    | ok create => exact absurd hdecoded (hreply create)
  calm := h.calm

/-! ## How a method ends -/

/-- No object was opened, or it is still open and the run was not proper, or it
    was closed and the run was proper. -/
inductive Ends (proper : Prop) (log : HandleLog) : Prop where
  | unopened (hhandles : log.handles = [])
  | lost (fileId : FileId) (hhandles : log.handles = [(fileId, 0)]) (hproper : ¬ proper)
  | closed (fileId : FileId) (hhandles : log.handles = [(fileId, 1)]) (hproper : proper)

theorem Ends.closedOnce_iff {proper : Prop} (h : Ends proper log) :
    (log.usable = true → log.ClosedOnce) ↔
      log.usable = false ∨ log.handles = [] ∨ proper := by
  rw [HandleLog.ClosedOnce]
  cases h with
  | unopened hhandles => simp [hhandles]
  | lost fileId hhandles hproper => simp [hhandles, hproper]
  | closed fileId hhandles hproper => simp [hhandles, hproper]

/-- A helper that has ended leaves its object closed, or something went wrong
    while it was open, or what it sends does not fit. -/
def Finishes (fits : Prop) (r : Except Exn α) (log : HandleLog) : Prop :=
  r ≠ .error .unfinished → Ends (log.disturbed = false ∧ fits) log

variable {fits : Prop}

theorem Unopened.finishes (h : Unopened log) (r : Except Exn α) : Finishes fits r log :=
  fun _ => .unopened h.handles

theorem Lost.finishes (h : Lost fileId log) (r : Except Exn α) : Finishes fits r log := by
  refine fun _ => .lost fileId h.handles fun hproper => ?_
  have hdisturbed := h.disturbed
  rw [hproper.1] at hdisturbed
  cases hdisturbed

theorem Held.finishes_unfit (h : Held fileId log) (hfits : ¬ fits) (r : Except Exn α) :
    Finishes fits r log :=
  fun _ => .lost fileId h.handles fun hproper => hfits hproper.2

theorem Closed.finishes (h : Closed fileId log) (hfits : fits) (r : Except Exn α) :
    Finishes fits r log :=
  fun _ => .closed fileId h.handles ⟨h.calm, hfits⟩

/-! ## The exchanges on an open object -/

variable (body pipe) in
theorem understood_of_ok {payload : ByteVector} (hpayload : replyPayload reply = .ok payload) :
    understood pipe body reply = body.understands pipe payload := by
  rw [understood, hpayload]

theorem not_understood {decode : ByteVector → DecodeResult α}
    (hdecode : ∀ payload, body.understands pipe payload = true → ∃ a, decode payload = .ok a)
    (hnone : ∀ a, decodedReply decode reply ≠ .ok a) : understood pipe body reply = false := by
  cases hpayload : replyPayload reply with
  | error e => rw [understood, hpayload]
  | ok payload =>
    rw [understood_of_ok _ _ hpayload]
    by_contra hunderstood
    obtain ⟨a, ha⟩ := hdecode payload (by simpa using hunderstood)
    exact hnone a (decodedReply_eq_ok.2 ⟨payload, hpayload, ha⟩)

variable {request : Request} {decode : ByteVector → DecodeResult α} {cancelled : String}

/-- One request on an open object: refused by its builder, answered with what the
    method goes on with, or not. -/
theorem Held.exchangeResponse (h : Held fileId log) (hbody : request.body.isMiddle = true)
    (hdecode : ∀ payload, request.body.understands pipe payload = true →
      ∃ a, decode payload = .ok a)
    {Q : Except Exn (DecodeResult α) → HandleLog → Prop}
    (hthrow : ∀ e m, request.frame = .error e → Held fileId m → Q (.error e) m)
    (hlost : ∀ e m, Lost fileId m → Q (.ok (.error e)) m)
    (hheld : ∀ a payload m, decode payload = .ok a →
      request.body.understands pipe payload = true → (∃ frame, request.frame = .ok frame) →
      Held fileId m → Q (.ok (.ok a)) m)
    (hbad : ∀ a payload m, decode payload = .ok a →
      request.body.understands pipe payload = false → Lost fileId m → Q (.ok (.ok a)) m) :
    MeetsE (Handled pipe) (Native.exchangeResponse cancelled decode request context) Q log := by
  refine tracked_exchangeResponse (fun _ e => hlost e _ h.look_true)
    (fun e he => hthrow e _ he h.looked) ?_
  rintro sent rfl reply answered
  have hquestion : Held fileId (Native.looked (HandleLog.after pipe) .exchanger context log) := h.looked
  constructor
  · rintro e rfl e'
    exact hlost e' _ (hquestion.send_lost hbody rfl)
  · rintro frame rfl
    -- after the reply the object is open, whether it was understood or not
    by_cases hreply : understood pipe sent.request.body (.ok frame) = true
    · have hanswered : Held fileId answered := hquestion.send hbody hreply
      refine ⟨fun _ e => hlost e _ hanswered.look_true, fun a ha => ?_, fun hnone => ?_⟩
      · obtain ⟨payload, hpayload, ha⟩ := decodedReply_eq_ok.1 ha
        rw [understood_of_ok _ _ hpayload] at hreply
        exact hheld a payload _ ha hreply ⟨_, sent.built⟩ hanswered.looked
      · rw [not_understood hdecode hnone] at hreply
        cases hreply
    · rw [Bool.not_eq_true] at hreply
      have hanswered : Lost fileId answered := hquestion.send_lost hbody hreply
      refine ⟨fun _ e => hlost e _ (hanswered.look true), fun a ha => ?_, fun _ e => ?_⟩
      · obtain ⟨payload, hpayload, ha⟩ := decodedReply_eq_ok.1 ha
        rw [understood_of_ok _ _ hpayload] at hreply
        exact hbad a payload _ ha hreply hanswered.looked
      · exact hlost e _ hanswered.looked

/-- One request after which a failing method just returns. -/
theorem Held.step (h : Held fileId log) (hbody : request.body.isMiddle = true)
    (hdecode : ∀ payload, request.body.understands false payload = succeeds (decode payload))
    (hframe : (∃ frame, request.frame = .ok frame) ∨ ¬ fits)
    {k : DecodeResult α → Prog (DecodeResult β)} (herror : ∀ e, ∃ x, k (.error e) = pure x)
    (hok : ∀ a m, (∃ frame, request.frame = .ok frame) → Held fileId m →
      MeetsE (Handled false) (k (.ok a)) (Finishes fits) m) :
    MeetsE (Handled false) (Native.exchangeResponse cancelled decode request context >>= k)
      (Finishes fits) log := by
  refine meetsE_bind.2 (h.exchangeResponse hbody ?_ ?_ ?_ ?_ ?_)
  · intro payload hunderstood
    rw [hdecode] at hunderstood
    cases hresult : decode payload with
    | error e =>
      rw [hresult] at hunderstood
      cases hunderstood
    | ok a => exact ⟨a, rfl⟩
  · intro e m he hm
    obtain ⟨frame, hframe⟩ | hfits := hframe
    · rw [hframe] at he
      cases he
    · exact hm.finishes_unfit hfits _
  · intro e m hm
    obtain ⟨x, hx⟩ := herror e
    dsimp only
    rw [hx]
    exact hm.finishes _
  · intro a payload m _ _ hframe hm
    exact hok a m hframe hm
  · intro a payload m ha hbad _
    rw [hdecode, ha] at hbad
    cases hbad

/-- The CLOSE a method ends with. -/
theorem Held.closeExchanger (h : Held fileId log) {messageId : ℕ} {treeId : UInt32}
    {sessionId : UInt64} {Q : Except Exn (DecodeResult CloseResponse) → HandleLog → Prop}
    (hlost : ∀ e m, Lost fileId m → Q (.ok (.error e)) m)
    (hclosed : ∀ r m, Closed fileId m → Q (.ok r) m) :
    MeetsE (Handled pipe) (closeExchanger messageId treeId sessionId context { fileId }) Q log := by
  refine tracked_exchangeResponse (fun _ e => hlost e _ h.look_true) (fun e he => ?_) ?_
  · obtain ⟨frame, hframe⟩ := Request.frame_close messageId treeId sessionId { fileId }
    rw [hframe] at he
    cases he
  · rintro sent hsent reply answered
    have hbody : sent.request.body = .close { fileId } := by rw [hsent]
    have hanswered : Closed fileId answered := by
      show Closed fileId (HandleLog.send _ pipe sent.request.body reply)
      rw [hbody]
      exact Held.close h.looked
    constructor
    · rintro e rfl e'
      exact hclosed _ _ hanswered
    · rintro frame rfl
      refine ⟨fun _ e => hclosed _ _ (hanswered.look true), fun a ha => ?_, fun _ e => ?_⟩
      · exact hclosed _ _ hanswered.looked
      · exact hclosed _ _ hanswered.looked

theorem Held.lastClose (h : Held fileId log) (hfits : fits) {messageId : ℕ} {treeId : UInt32}
    {sessionId : UInt64} {k : DecodeResult CloseResponse → Prog (DecodeResult β)}
    (hk : ∀ r, ∃ x, k r = pure x) :
    MeetsE (Handled false) (Native.closeExchanger messageId treeId sessionId context { fileId } >>= k)
      (Finishes fits) log := by
  refine meetsE_bind.2 (h.closeExchanger (fun e m hm => ?_) fun r m hm => ?_)
  · obtain ⟨x, hx⟩ := hk (.error e)
    dsimp only
    rw [hx]
    exact hm.finishes _
  · obtain ⟨x, hx⟩ := hk r
    dsimp only
    rw [hx]
    exact hm.finishes hfits _

/-! ## The CREATE a method begins with -/

/-- The log after a CREATE whose reply is still to be decoded. -/
structure Created (payload : ByteVector) (log : HandleLog) : Prop where
  held : ∀ create, decodeCreateResponse payload = .ok create → Held create.fileId log
  unopened : (∀ create, decodeCreateResponse payload ≠ .ok create) → Unopened log

variable {payload : ByteVector}

theorem Created.looked (h : Created payload log) :
    Created payload (Native.looked (HandleLog.after pipe) asker context log) where
  held create hcreate := (h.held create hcreate).looked
  unopened hnone := (h.unopened hnone).looked

theorem Created.look_true (h : Created payload log) (r : Except Exn α) :
    Finishes fits r (log.look true) := by
  cases hcreate : decodeCreateResponse payload with
  | error e => exact ((h.unopened (by simp [hcreate])).look true).finishes r
  | ok create => exact (h.held create hcreate).look_true.finishes r

theorem Unopened.exchangeCreate (h : Unopened log) {options : CreateRequestOptions}
    (hc : options.createContexts = []) {messageId : ℕ} {treeId : UInt32} {sessionId : UInt64}
    {Q : Except Exn (DecodeResult ByteVector) → HandleLog → Prop}
    (hthrow : ∀ e m, Unopened m → Q (.error e) m)
    (hfail : ∀ e m, Unopened m → Q (.ok (.error e)) m)
    (hok : ∀ payload m, fitsCreate options.path → Created payload m →
      m.requests = log.requests + 1 → m.stopped = log.stopped → Q (.ok (.ok payload)) m) :
    MeetsE (Handled pipe)
      (exchangePayload ⟨.create options, messageId, treeId, sessionId⟩ context) Q log := by
  refine exchangePayload_meets (fun e _ => hthrow e _ h) fun sent hsent => ⟨trivial, ?_⟩
  rintro reply m rfl
  have hafter : HandleLog.after pipe log ⟨.exchange sent context, reply⟩ =
      log.send pipe (.create options) reply := by
    rw [HandleLog.after, hsent]
  rw [hafter]
  constructor
  · intro payload hpayload
    have hfits : fitsCreate options.path :=
      (Request.frame_create_iff _ _ _ hc).1 ⟨sent.frame, hsent ▸ sent.built⟩
    refine hok payload _ hfits ⟨fun create hcreate => ?_, fun hnone => ?_⟩ rfl rfl
    · exact h.create (decodedReply_eq_ok.2 ⟨payload, hpayload, hcreate⟩)
    · refine h.create_none fun create hcreate => ?_
      obtain ⟨payload', hpayload', hcreate⟩ := decodedReply_eq_ok.1 hcreate
      obtain rfl := Except.ok.inj (hpayload.symm.trans hpayload')
      exact hnone create hcreate
  · intro hnone e
    refine hfail e _ (h.create_none fun create hcreate => ?_)
    obtain ⟨payload, hpayload, -⟩ := decodedReply_eq_ok.1 hcreate
    exact hnone payload hpayload

/-- A method that opens its object, looks at the token and decodes the reply. -/
theorem Unopened.createPayload (h : Unopened log) {options : CreateRequestOptions}
    (hc : options.createContexts = []) {messageId : ℕ} {treeId : UInt32} {sessionId : UInt64}
    {k : DecodeResult ByteVector → Prog (DecodeResult β)}
    (herror : ∀ e, ∃ x, k (.error e) = pure x)
    (hok : ∀ payload m, fitsCreate options.path → Created payload m →
      MeetsE (Handled false) (k (.ok payload)) (Finishes fits) m) :
    MeetsE (Handled false)
      (exchangePayload ⟨.create options, messageId, treeId, sessionId⟩ context >>= k)
      (Finishes fits) log := by
  refine meetsE_bind.2 (h.exchangeCreate hc (fun e m hm => hm.finishes _) (fun e m hm => ?_)
    fun payload m hfits hm _ _ => hok payload m hfits hm)
  obtain ⟨x, hx⟩ := herror e
  dsimp only
  rw [hx]
  exact hm.finishes _

/-- A method that opens its object and goes on. -/
theorem Unopened.openFile (h : Unopened log) {options : CreateRequestOptions}
    (hc : options.createContexts = []) {messageId : ℕ} {treeId : UInt32} {sessionId : UInt64}
    {k : DecodeResult CreateResponse → Prog (DecodeResult β)}
    (herror : ∀ e, ∃ x, k (.error e) = pure x)
    (hok : ∀ create m, fitsCreate options.path → Held create.fileId m →
      MeetsE (Handled false) (k (.ok create)) (Finishes fits) m) :
    MeetsE (Handled false) (openFile messageId treeId sessionId context options >>= k)
      (Finishes fits) log := by
  have hrefused : ∀ e m, Unopened m →
      MeetsE (Handled false) (k (.error e)) (Finishes fits) m := by
    intro e m hm
    obtain ⟨x, hx⟩ := herror e
    rw [hx]
    exact hm.finishes _
  refine meetsE_bind.2 (meetsE_bind.2 (h.exchangeCreate hc (fun e m hm => hm.finishes _)
    (fun e m hm => hrefused _ m hm) fun payload m hfits hm _ _ => ?_))
  dsimp only
  cases hcreate : decodeCreateResponse payload with
  | error e => exact hrefused e m (hm.unopened (by simp [hcreate]))
  | ok create => exact hok create m hfits (hm.held create hcreate)

end

/-! ## The helpers that use one object -/

theorem understands_read (options : ReadRequestOptions) (payload : ByteVector) :
    (RequestBody.read options).understands false payload =
      succeeds (decodeReadResponse payload) := by
  rw [RequestBody.understands]
  cases decodeReadResponse payload with
  | error e => rfl
  | ok response => rfl

theorem understands_write (options : WriteRequestOptions) (payload : ByteVector) :
    (RequestBody.write options).understands false payload =
      succeeds (decodeWriteResponse payload) := by
  rw [RequestBody.understands]
  cases decodeWriteResponse payload with
  | error e => rfl
  | ok response => rfl

section

variable {log : HandleLog} {fits : Prop} (m : ℕ) (t : UInt32) (s : UInt64)
  (context : OperationContext)

theorem handles_fileReader (path : ByteVector) (length : UInt32) (offset : UInt64)
    (h : Unopened log) :
    MeetsE (Handled false) (fileReader m t s context path length offset)
      (Finishes (fitsCreate path)) log := by
  refine tracked_look (fun _ => (h.look true).finishes _) ?_
  refine h.looked.createPayload rfl (fun e => ⟨_, rfl⟩) fun payload log hfits hcreated => ?_
  refine tracked_look (fun _ => hcreated.look_true _) ?_
  cases hcreate : decodeCreateResponse payload with
  | error e => exact (hcreated.looked.unopened (by simp [hcreate])).finishes _
  | ok create =>
    refine (hcreated.looked.held create hcreate).step rfl (understands_read _)
      (.inl (Request.frame_read _ _ _ rfl)) (fun e => ⟨_, rfl⟩) fun read log _ hheld => ?_
    exact hheld.lastClose hfits fun r => by cases r <;> exact ⟨_, rfl⟩

theorem handles_fileWriter (path data : ByteVector) (offset : UInt64) (h : Unopened log) :
    MeetsE (Handled false) (fileWriter m t s context path data offset)
      (Finishes (fitsCreate path ∧ (data = [] ∨ fitsWrite data))) log := by
  refine tracked_look (fun _ => (h.look true).finishes _) ?_
  refine h.looked.createPayload rfl (fun e => ⟨_, rfl⟩) fun payload log hfits hcreated => ?_
  refine tracked_look (fun _ => hcreated.look_true _) ?_
  cases hcreate : decodeCreateResponse payload with
  | error e => exact (hcreated.looked.unopened (by simp [hcreate])).finishes _
  | ok create =>
    have hheld : Held create.fileId
        (Native.looked (HandleLog.after false) .helper context log) :=
      hcreated.looked.held create hcreate
    dsimp only
    split
    · rename_i hdata
      exact hheld.lastClose ⟨hfits, .inl hdata⟩ fun r => by cases r <;> exact ⟨_, rfl⟩
    · rename_i hdata
      refine hheld.step rfl (understands_write _) ?_ (fun e => ⟨_, rfl⟩) fun write log hframe hheld => ?_
      · by_cases hwrite : fitsWrite data
        · exact .inl (Request.frame_write _ _ _ hwrite rfl)
        · exact .inr fun hall => hwrite (hall.2.resolve_left hdata)
      · have hwrite : fitsWrite data := (Request.frame_write_iff _ _ _ rfl).1 hframe
        exact hheld.lastClose ⟨hfits, .inr hwrite⟩ fun r => by cases r <;> exact ⟨_, rfl⟩

/-- The pages of a listing: the directory stays open. -/
theorem handles_listPages {fileId : FileId} (fuel : ℕ) (firstQuery : Bool) (used : ℕ)
    (entries : List DirectoryEntry) (h : Held fileId log) :
    MeetsE (Handled false) (listPages m t s context fileId fuel firstQuery used entries)
      (fun r log => r ≠ .error .unfinished → (∃ pages, r = .ok (.ok pages) ∧ Held fileId log) ∨
        ∃ e, r = .ok (.error e) ∧ Lost fileId log) log := by
  induction fuel generalizing firstQuery used entries log with
  | zero => exact fun hne => absurd rfl hne
  | succ fuel ih =>
    rw [listPages]
    refine meetsE_bind.2 (exchangePayload_meets ?_ fun sent hsent => ⟨trivial, ?_⟩)
    · intro e he
      obtain ⟨frame, hframe⟩ := Request.frame_queryDirectory (m + used) t s
        (o := { fileId, flags := if firstQuery then kQueryDirectoryRestartScans else 0 }) rfl
      rw [hframe] at he
      cases he
    rintro reply after rfl
    have hbody : sent.request.body.isMiddle = true := by rw [hsent]; rfl
    have haccepts : ∀ payload, sent.request.body.understands false payload =
        succeeds (decodeQueryDirectoryResponse payload) := by
      intro payload
      rw [hsent]
      rfl
    constructor
    · intro payload hpayload
      have hanswer := understood_of_ok false sent.request.body hpayload
      rw [haccepts] at hanswer
      dsimp only
      cases hdecode : decodeQueryDirectoryResponse payload with
      | error e =>
        rw [hdecode] at hanswer
        have hlost := h.send_lost hbody hanswer
        refine tracked_look (fun _ _ => .inr ⟨_, rfl, hlost.look true⟩) ?_
        exact fun _ => .inr ⟨_, rfl, hlost.looked⟩
      | ok response =>
        rw [hdecode] at hanswer
        have hheld := h.send hbody hanswer
        refine tracked_look (fun _ _ => .inr ⟨_, rfl, hheld.look_true⟩) ?_
        dsimp only
        split
        · exact fun _ => .inl ⟨_, rfl, hheld.looked⟩
        split
        · exact fun _ => .inl ⟨_, rfl, hheld.looked⟩
        · exact ih _ _ _ hheld.looked
    · intro hnone e hne
      have hanswer : understood false sent.request.body reply = false := by
        rw [understood]
        cases hpayload : replyPayload reply with
        | error e => rfl
        | ok payload => exact absurd hpayload (hnone payload)
      exact .inr ⟨_, rfl, h.send_lost hbody hanswer⟩

theorem handles_directoryLister (fuel : ℕ) (path : ByteVector) (h : Unopened log) :
    MeetsE (Handled false) (directoryLister m t s context fuel path)
      (Finishes (fitsCreate path)) log := by
  refine tracked_look (fun _ => (h.look true).finishes _) ?_
  refine h.looked.createPayload rfl (fun e => ⟨_, rfl⟩) fun payload log hfits hcreated => ?_
  refine tracked_look (fun _ => hcreated.look_true _) ?_
  cases hcreate : decodeCreateResponse payload with
  | error e => exact (hcreated.looked.unopened (by simp [hcreate])).finishes _
  | ok create =>
    refine (handles_listPages m t s context fuel true 1 []
      (hcreated.looked.held create hcreate)).bind ?_ ?_
    · intro r log hpages
      obtain ⟨pages, hr, hheld⟩ | ⟨e, hr, hlost⟩ := hpages (by simp)
      · obtain rfl := Except.ok.inj hr
        exact hheld.lastClose hfits fun r => by cases r <;> exact ⟨_, rfl⟩
      · obtain rfl := Except.ok.inj hr
        exact hlost.finishes _
    · intro e log hpages hne
      obtain ⟨pages, hr, -⟩ | ⟨e', hr, -⟩ := hpages (fun he => hne (by cases he; rfl))
      · cases hr
      · cases hr

/-! ## Queries -/

/-- QUERY_INFO after which a failing method just returns: its buffer may still
    turn out not to hold the information. -/
theorem Held.queryInfo {fileId : FileId} (h : Held fileId log) {options : QueryInfoRequestOptions}
    (hinput : options.inputBuffer = []) {k : DecodeResult QueryInfoResponse → Prog (DecodeResult β)}
    (herror : ∀ e, ∃ x, k (.error e) = pure x)
    (hok : ∀ response log, infoUnderstood options response.buffer = true → Held fileId log →
      MeetsE (Handled false) (k (.ok response)) (Finishes fits) log)
    (hbad : ∀ response log, infoUnderstood options response.buffer = false → Lost fileId log →
      MeetsE (Handled false) (k (.ok response)) (Finishes fits) log) :
    MeetsE (Handled false) (queryInfoExchanger m t s context options >>= k) (Finishes fits) log := by
  have hunderstands : ∀ payload response, decodeQueryInfoResponse payload = .ok response →
      (RequestBody.queryInfo options).understands false payload =
        infoUnderstood options response.buffer := by
    intro payload response hresponse
    rw [RequestBody.understands, hresponse]
  refine meetsE_bind.2 (h.exchangeResponse rfl ?_ ?_ ?_ ?_ ?_)
  · intro payload hunderstood
    cases hresult : decodeQueryInfoResponse payload with
    | error e =>
      rw [RequestBody.understands, hresult] at hunderstood
      cases hunderstood
    | ok response => exact ⟨response, rfl⟩
  · intro e log he _
    obtain ⟨frame, hframe⟩ := Request.frame_queryInfo m t s hinput
    rw [hframe] at he
    cases he
  · intro e log hlost
    obtain ⟨x, hx⟩ := herror e
    dsimp only
    rw [hx]
    exact hlost.finishes _
  · intro response payload log hresponse hunderstood _ hheld
    exact hok response log ((hunderstands payload response hresponse).symm.trans hunderstood) hheld
  · intro response payload log hresponse hunderstood hlost
    exact hbad response log ((hunderstands payload response hresponse).symm.trans hunderstood) hlost

theorem handles_remoteStatReader (path : ByteVector) (h : Unopened log) :
    MeetsE (Handled false) (remoteStatReader m t s context path) (Finishes (fitsCreate path))
      log := by
  refine tracked_look (fun _ => (h.look true).finishes _) ?_
  refine h.looked.createPayload rfl (fun e => ⟨_, rfl⟩) fun payload log hfits hcreated => ?_
  refine tracked_look (fun _ => hcreated.look_true _) ?_
  cases hcreate : decodeCreateResponse payload with
  | error e => exact (hcreated.looked.unopened (by simp [hcreate])).finishes _
  | ok create =>
    refine (hcreated.looked.held create hcreate).queryInfo _ _ _ _ rfl (fun e => ⟨_, rfl⟩)
      (fun basic log hbasic hheld => ?_) fun basic log hbasic hlost => ?_
    · refine tracked_look (fun _ => hheld.look_true.finishes _) ?_
      have hdecode : succeeds (decodeFileBasicInformation basic.buffer) = true := hbasic
      cases hinfo : decodeFileBasicInformation basic.buffer with
      | error e => exact absurd hdecode (by simp [hinfo])
      | ok basicInfo =>
        refine hheld.looked.queryInfo _ _ _ _ rfl (fun e => ⟨_, rfl⟩)
          (fun standard log hstandard hheld => ?_) fun standard log hstandard hlost => ?_
        · refine tracked_look (fun _ => hheld.look_true.finishes _) ?_
          have hdecode : succeeds (decodeFileStandardInformation standard.buffer) = true := hstandard
          cases hinfo : decodeFileStandardInformation standard.buffer with
          | error e => exact absurd hdecode (by simp [hinfo])
          | ok standardInfo =>
            exact hheld.looked.lastClose hfits fun r => by cases r <;> exact ⟨_, rfl⟩
        · refine tracked_look (fun _ => (hlost.look true).finishes _) ?_
          have hdecode : succeeds (decodeFileStandardInformation standard.buffer) = false := hstandard
          cases hinfo : decodeFileStandardInformation standard.buffer with
          | error e => exact hlost.looked.finishes _
          | ok standardInfo => exact absurd hdecode (by simp [hinfo])
    · refine tracked_look (fun _ => (hlost.look true).finishes _) ?_
      have hdecode : succeeds (decodeFileBasicInformation basic.buffer) = false := hbasic
      cases hinfo : decodeFileBasicInformation basic.buffer with
      | error e => exact hlost.looked.finishes _
      | ok basicInfo => exact absurd hdecode (by simp [hinfo])

/-! ## Metadata, object and watch helpers -/

theorem handles_withMetadataObject {cancelled : DecodeResult α} {path : ByteVector}
    {desiredAccess : UInt32} {operation : CreateResponse → Prog (DecodeResult α)}
    (h : Unopened log)
    (hoperation : ∀ create log, fitsCreate path → Held create.fileId log →
      MeetsE (Handled false) (operation create) (Finishes fits) log) :
    MeetsE (Handled false)
      (withMetadataObject m t s context cancelled path desiredAccess operation) (Finishes fits)
      log := by
  refine tracked_look (fun _ => (h.look true).finishes _) ?_
  rw [openForMetadata, bind_assoc]
  refine h.looked.openFile rfl (fun e => ⟨_, rfl⟩) fun create log hfits hheld => ?_
  exact tracked_look (fun _ => hheld.look_true.finishes _) (hoperation create _ hfits hheld.looked)

variable (fits) in
theorem handles_setInfoAndClose {create : CreateResponse} {options : SetInfoRequestOptions}
    (h : Held create.fileId log) (hfits : fits ↔ fitsSetInfo options.buffer) :
    MeetsE (Handled false) (setInfoAndClose m t s context create options) (Finishes fits) log := by
  refine h.step rfl (fun _ => rfl) ?_ (fun e => ⟨_, rfl⟩) fun response log hframe hheld => ?_
  · by_cases hset : fitsSetInfo options.buffer
    · exact .inl (Request.frame_setInfo _ _ _ hset)
    · exact .inr fun hall => hset (hfits.1 hall)
  · exact hheld.lastClose (hfits.2 ((Request.frame_setInfo_iff _ _ _).1 hframe))
      fun r => by cases r <;> exact ⟨_, rfl⟩

theorem handles_metadataListExtendedAttributes (path : ByteVector) (h : Unopened log) :
    MeetsE (Handled false) (metadataListExtendedAttributes m t s context path)
      (Finishes (fitsCreate path)) log := by
  refine handles_withMetadataObject m t s context h fun create log hfits hheld => ?_
  refine hheld.queryInfo _ _ _ _ rfl (fun e => ⟨_, rfl⟩) (fun query log hquery hheld => ?_)
    fun query log hquery hlost => ?_
  · have hdecode : succeeds (decodeFileFullEaInformation query.buffer) = true := hquery
    dsimp only
    cases hinfo : decodeFileFullEaInformation query.buffer with
    | error e => exact absurd hdecode (by simp [hinfo])
    | ok entries => exact hheld.lastClose hfits fun r => by cases r <;> exact ⟨_, rfl⟩
  · have hdecode : succeeds (decodeFileFullEaInformation query.buffer) = false := hquery
    dsimp only
    cases hinfo : decodeFileFullEaInformation query.buffer with
    | error e => exact hlost.finishes _
    | ok entries => exact absurd hdecode (by simp [hinfo])

theorem handles_metadataQuerySecurityDescriptor (path : ByteVector) (information : UInt32)
    (h : Unopened log) :
    MeetsE (Handled false) (metadataQuerySecurityDescriptor m t s context path information)
      (Finishes (fitsCreate path)) log := by
  refine handles_withMetadataObject m t s context h fun create log hfits hheld => ?_
  refine hheld.queryInfo _ _ _ _ rfl (fun e => ⟨_, rfl⟩) (fun query log _ hheld => ?_)
    fun query log hquery _ => ?_
  · exact hheld.lastClose hfits fun r => by cases r <;> exact ⟨_, rfl⟩
  · cases hquery

theorem handles_metadataSetExtendedAttributes (path : ByteVector)
    (entries : List FileFullEaInformation) (h : Unopened log) :
    MeetsE (Handled false) (metadataSetExtendedAttributes m t s context path entries)
      (Finishes (fitsCreate path ∧ fitsAttributes entries)) log := by
  refine handles_withMetadataObject m t s context h fun create log hfits hheld => ?_
  refine meetsE_ofExcept.2 ?_
  cases hbuffer : buildFileFullEaInformation entries with
  | error e =>
    refine hheld.finishes_unfit ?_ _
    rintro ⟨-, buffer, hbuilt, -⟩
    rw [hbuffer] at hbuilt
    cases hbuilt
  | ok buffer =>
    refine handles_setInfoAndClose _ m t s context hheld
      ⟨?_, fun hset => ⟨hfits, buffer, hbuffer, hset⟩⟩
    rintro ⟨-, buffer', hbuilt, hset⟩
    obtain rfl := Except.ok.inj (hbuffer.symm.trans hbuilt)
    exact hset

theorem handles_withObject {cancelled : String} {options : CreateRequestOptions}
    {operation : FileId → Prog (DecodeResult RemoteObjectResult)} (h : Unopened log)
    (hc : options.createContexts = [])
    (hoperation : ∀ fileId log, fitsCreate options.path → Held fileId log →
      MeetsE (Handled false) (operation fileId) (Finishes fits) log) :
    MeetsE (Handled false) (withObject m t s context cancelled options operation) (Finishes fits)
      log := by
  refine tracked_look (fun _ => (h.look true).finishes _) ?_
  refine h.looked.openFile hc (fun e => ⟨_, rfl⟩) fun create log hfits hheld => ?_
  exact tracked_look (fun _ => hheld.look_true.finishes _) (hoperation create.fileId _ hfits hheld.looked)

variable (fits) in
theorem handles_closeAndReturn {fileId : FileId} (h : Held fileId log) (hfits : fits) :
    MeetsE (Handled false) (closeAndReturn m t s context fileId) (Finishes fits) log :=
  h.lastClose hfits fun r => by cases r <;> exact ⟨_, rfl⟩

theorem handles_setInfoOnObject {cancelled : String} {options : CreateRequestOptions}
    {fileInfoClass : UInt8} {buffer : Except Exn ByteVector} (h : Unopened log)
    (hc : options.createContexts = []) :
    MeetsE (Handled false)
      (setInfoOnObject m t s context cancelled options fileInfoClass buffer)
      (Finishes (fitsCreate options.path ∧ fitsBuilt fitsSetInfo buffer)) log := by
  refine handles_withObject m t s context h hc fun fileId log hfits hheld => ?_
  refine meetsE_ofExcept.2 ?_
  cases buffer with
  | error e =>
    refine hheld.finishes_unfit ?_ _
    rintro ⟨-, bytes, hbuilt, -⟩
    cases hbuilt
  | ok buffer =>
    refine hheld.step rfl (fun _ => rfl) ?_ (fun e => ⟨_, rfl⟩) fun response log hframe hheld => ?_
    · by_cases hset : fitsSetInfo buffer
      · exact .inl (Request.frame_setInfo _ _ _ hset)
      · refine .inr ?_
        rintro ⟨-, bytes, hbuilt, hbytes⟩
        cases hbuilt
        exact hset hbytes
    · have hset : fitsSetInfo buffer := (Request.frame_setInfo_iff _ _ _).1 hframe
      exact handles_closeAndReturn _ _ t s context hheld ⟨hfits, buffer, rfl, hset⟩

theorem handles_objectCreateSymbolicLink (linkPath targetPath : ByteVector)
    (directory relative : Bool) (h : Unopened log) :
    MeetsE (Handled false)
      (objectCreateSymbolicLink m t s context linkPath targetPath directory relative)
      (Finishes (fitsCreate linkPath ∧
        fitsBuilt fitsIoctl (buildSymbolicLinkReparseBuffer targetPath targetPath relative)))
      log := by
  refine handles_withObject m t s context h rfl fun fileId log hfits hheld => ?_
  refine meetsE_ofExcept.2 ?_
  cases hinput : buildSymbolicLinkReparseBuffer targetPath targetPath relative with
  | error e =>
    refine hheld.finishes_unfit ?_ _
    rintro ⟨-, bytes, hbuilt, -⟩
    cases hbuilt
  | ok input =>
    refine meetsE_bind.2 (ioctl_meets (fun e he => ?_) fun sent hsent => ⟨trivial, ?_⟩)
    · refine hheld.finishes_unfit ?_ _
      rintro ⟨-, bytes, hbuilt, hbytes⟩
      cases hbuilt
      obtain ⟨frame, hframe⟩ := (Request.frame_ioctl_iff (m + 1) t s (o := {
        ctlCode := kFsctlSetReparsePoint, fileId, input, maxOutputResponse := 0,
        flags := kIoctlIsFsctl })).2 hbytes
      rw [hframe] at he
      cases he
    rintro reply after rfl
    have hbody : sent.request.body.isMiddle = true := by rw [hsent]; rfl
    have haccepts : ∀ payload, sent.request.body.understands false payload =
        succeeds (decodeIoctlResponse payload) := by
      intro payload
      rw [hsent]
      rfl
    constructor
    · intro response hresponse
      obtain ⟨payload, hpayload, hdecode⟩ := decodedReply_eq_ok.1 hresponse
      have hanswer := understood_of_ok false sent.request.body hpayload
      rw [haccepts, hdecode] at hanswer
      have hbytes : fitsIoctl input :=
        (Request.frame_ioctl_iff _ _ _).1 ⟨sent.frame, hsent ▸ sent.built⟩
      exact handles_closeAndReturn _ _ t s context (hheld.send hbody hanswer)
        ⟨hfits, input, rfl, hbytes⟩
    · intro hnone e
      have hanswer : understood false sent.request.body reply = false := by
        refine not_understood (fun payload hunderstood => ?_) hnone
        rw [haccepts] at hunderstood
        cases hresult : decodeIoctlResponse payload with
        | error e =>
          rw [hresult] at hunderstood
          cases hunderstood
        | ok response => exact ⟨response, rfl⟩
      exact (hheld.send_lost hbody hanswer).finishes _

theorem handles_directoryWatcher (path : ByteVector) (completionFilter : UInt32)
    (watchTree : Bool) (outputBufferLength : UInt32) (h : Unopened log) :
    MeetsE (Handled false)
      (directoryWatcher m t s context path completionFilter watchTree outputBufferLength)
      (Finishes (fitsCreate path)) log := by
  refine tracked_look (fun _ => (h.look true).finishes _) ?_
  refine h.looked.openFile rfl (fun e => ⟨_, rfl⟩) fun create log hfits hheld => ?_
  refine tracked_look (fun _ => hheld.look_true.finishes _) ?_
  refine hheld.looked.step rfl (fun _ => rfl) (.inl (Request.frame_changeNotify _ _ _ _))
    (fun e => ⟨_, rfl⟩) fun notify log _ hheld => ?_
  exact hheld.lastClose hfits fun r => by cases r <;> exact ⟨_, rfl⟩

end

/-! ## The pipe of a share enumeration

Every failure while the pipe is open closes it, but for an exception of the
request builder and a cancellation found on the way to the last CLOSE. -/

/-- The shares can be asked for, or the enumeration failed before; and it was not
    found cancelled at the second look after the fifth reply, the share list. -/
def closesPipe (fits : Prop) (log : HandleLog) : Prop :=
  (fits ∨ log.disturbed = true) ∧ log.stopped ≠ some (5, 1)

/-- The pipe is open after `n` requests, and nothing failed. -/
structure Piped (fits : Prop) (fileId : FileId) (n : ℕ) (log : HandleLog) : Prop where
  handles : log.handles = [(fileId, 0)]
  requests : log.requests = n
  stopped : log.stopped = none
  calm : fits ∨ log.disturbed = false

/-- The pipe is open, and a step failed that closes it. -/
structure Broken (fits : Prop) (fileId : FileId) (log : HandleLog) : Prop where
  handles : log.handles = [(fileId, 0)]
  stopped : log.stopped ≠ some (5, 1)
  cause : fits ∨ log.disturbed = true

/-- The enumeration has ended. -/
def EndsPipe (fits : Prop) (r : Except Exn α) (log : HandleLog) : Prop :=
  r ≠ .error .unfinished → Ends (closesPipe fits log) log

/-- The looks since a reply that was read. -/
def looksOf (context : OperationContext) : ℕ := if context.cancellable then 1 else 0

section

variable {log : HandleLog} {fits : Prop} {fileId : FileId} {n : ℕ} (m : ℕ) (t : UInt32)
  (s : UInt64) (context : OperationContext)

theorem Piped.held (h : Piped fits fileId n log) : log.held = true := by
  rw [HandleLog.held, h.handles]
  rfl

theorem Piped.looked {asker : Asker} (h : Piped fits fileId n log) :
    Piped fits fileId n (Native.looked (HandleLog.after true) asker context log) :=
  of_looked (fun _ h => ⟨h.handles, h.requests, h.stopped, by simpa [HandleLog.look] using h.calm⟩) h

theorem Piped.look_true (h : Piped fits fileId n log) (hn : (n, log.looks) ≠ (5, 1)) :
    Broken fits fileId (log.look true) where
  handles := h.handles
  stopped := by
    rw [← h.requests] at hn
    simpa [HandleLog.look] using hn
  cause := .inr (by simp [HandleLog.look, h.held])

theorem Piped.endsPipe_unfit (h : Piped fits fileId n log) (hfits : ¬ fits) (r : Except Exn α) :
    EndsPipe fits r log := by
  refine fun _ => .lost fileId h.handles fun hproper => ?_
  have hdisturbed := hproper.1.resolve_left hfits
  rw [h.calm.resolve_left hfits] at hdisturbed
  cases hdisturbed

/-- One request over the open pipe. -/
theorem Piped.exchangeResponse (h : Piped fits fileId n log) (hn : n ≤ 4) {request : Request}
    {decode : ByteVector → DecodeResult α} {cancelled : String}
    (hbody : request.body.isMiddle = true)
    (hdecode : ∀ payload, request.body.understands true payload = true →
      ∃ a, decode payload = .ok a)
    {Q : Except Exn (DecodeResult α) → HandleLog → Prop}
    (hthrow : ∀ e m, request.frame = .error e → Piped fits fileId n m → Q (.error e) m)
    (hbroken : ∀ e m, Broken fits fileId m → Q (.ok (.error e)) m)
    (hok : ∀ a payload m, decode payload = .ok a → (∃ frame, request.frame = .ok frame) →
      (fits ∨ request.body.understands true payload = true → Piped fits fileId (n + 1) m) →
      (request.body.understands true payload = false → Broken fits fileId m) →
      m.looks = looksOf context → Q (.ok (.ok a)) m) :
    MeetsE (Handled true) (Native.exchangeResponse cancelled decode request context) Q log := by
  have hasked : Piped fits fileId n (Native.looked (HandleLog.after true) .exchanger context log) :=
    h.looked context
  refine tracked_exchangeResponse (fun _ e => hbroken e _ (h.look_true ?_))
    (fun e he => hthrow e _ he hasked) ?_
  · intro hlate
    injection hlate with hlate _
    omega
  rintro sent rfl reply answered
  obtain ⟨hhandles, hdisturbed⟩ := send_middle
    (Native.looked (HandleLog.after true) .exchanger context log) true reply hbody
  have hopen : answered.handles = [(fileId, 0)] := hhandles.trans hasked.handles
  have hrequests : answered.requests = n + 1 := congrArg (· + 1) hasked.requests
  have hstopped : answered.stopped = none := hasked.stopped
  rw [hasked.held, Bool.true_and] at hdisturbed
  -- a reply that is not understood is the cause of the CLOSE that follows
  have hfailed : understood true sent.request.body reply = false →
      Broken fits fileId answered := by
    intro hreply
    rw [hreply] at hdisturbed
    exact ⟨hopen, by simp [hstopped], .inr (hdisturbed.trans (by simp))⟩
  have hcalm : fits ∨ understood true sent.request.body reply = true →
      Piped fits fileId (n + 1) answered := by
    rintro (hfits | hreply)
    · exact ⟨hopen, hrequests, hstopped, .inl hfits⟩
    · refine ⟨hopen, hrequests, hstopped, hasked.calm.imp_right fun hcalm => ?_⟩
      exact hdisturbed.trans (by simp [hcalm, hreply])
  have hlooks : (Native.looked (HandleLog.after true) .exchanger context answered).looks =
      looksOf context := by
    rw [Native.looked, looksOf]
    split
    · rfl
    · rfl
  have hlast : ∀ {P : HandleLog → Prop}, (∀ log, P log → P (log.look false)) → P answered →
      P (Native.looked (HandleLog.after true) .exchanger context answered) := of_looked
  have hbrokenLook : ∀ log, Broken fits fileId log → Broken fits fileId (log.look false) :=
    fun log h => ⟨h.handles, h.stopped, by simpa [HandleLog.look] using h.cause⟩
  constructor
  · rintro e rfl e'
    exact hbroken e' _ (hfailed rfl)
  · rintro frame rfl
    refine ⟨fun _ e => hbroken e _ ⟨hopen, ?_, .inr ?_⟩, fun a ha => ?_, fun hnone e => ?_⟩
    · show some (answered.requests, 0) ≠ some (5, 1)
      simp
    · have hheld : answered.held = true := by
        rw [HandleLog.held, hopen]
        rfl
      show (answered.disturbed || answered.held && true) = true
      simp [hheld]
    · obtain ⟨payload, hpayload, ha⟩ := decodedReply_eq_ok.1 ha
      rw [understood_of_ok _ _ hpayload] at hfailed hcalm
      refine hok a payload _ ha ⟨_, sent.built⟩ (fun hgood => ?_) (fun hbad => ?_) hlooks
      · exact (hcalm hgood).looked context
      · exact hlast hbrokenLook (hfailed hbad)
    · exact hbroken e _ (hlast hbrokenLook (hfailed (not_understood hdecode hnone)))

/-- A failed step closes the pipe, whatever the server answers. -/
theorem Broken.closeOpenedPipe (h : Broken fits fileId log) (e : ProtocolError) (used : ℕ) :
    MeetsE (Handled true) (closeOpenedPipe m t s fileId e used : Prog (DecodeResult α))
      (EndsPipe fits) log := by
  have hclosed : ∀ reply, Ends (closesPipe fits (log.send true (.close { fileId }) reply))
      (log.send true (.close { fileId }) reply) := by
    intro reply
    refine .closed fileId ?_ ⟨h.cause, h.stopped⟩
    show closeHandle fileId log.handles = _
    rw [h.handles]
    simp [closeHandle]
  refine meetsE_bind.2 (meetsE_bind.2 (tracked_exchangeResponse ?_ (fun e he => ?_) ?_))
  · intro hcancellable
    cases hcancellable
  · obtain ⟨frame, hframe⟩ := Request.frame_close (m + used) t s { fileId }
    rw [hframe] at he
    cases he
  · intro sent hsent reply answered
    have hanswered : answered = log.send true (.close { fileId }) reply := by
      show HandleLog.send _ true sent.request.body reply = _
      rw [hsent]
      rfl
    have hends : Ends (closesPipe fits answered) answered := by
      rw [hanswered]
      exact hclosed reply
    constructor
    · rintro e rfl e'
      exact fun _ => hends
    · rintro frame rfl
      refine ⟨fun _ e _ => ?_, fun a _ _ => hends, fun _ e _ => hends⟩
      contradiction

/-- The CLOSE after the share list. -/
theorem Piped.lastClose (h : Piped fits fileId 5 log) (hfits : fits)
    (hlooks : log.looks = looksOf context) {k : DecodeResult Unit → Prog (DecodeResult β)}
    (hk : ∀ r, ∃ x, k r = pure x) :
    MeetsE (Handled true) (closePipe m t s context fileId >>= k) (EndsPipe fits) log := by
  have hend : ∀ (x : DecodeResult Unit) log, Ends (closesPipe fits log) log →
      MeetsE (Handled true) (k x) (EndsPipe fits) log := by
    intro x log hends
    obtain ⟨y, hy⟩ := hk x
    rw [hy]
    exact fun _ => hends
  refine meetsE_bind.2 (meetsE_bind.2 (tracked_exchangeResponse ?_ (fun e he => ?_) ?_))
  · intro hcancellable e
    refine hend _ _ (.lost fileId h.handles fun hproper => hproper.2 ?_)
    rw [looksOf, if_pos hcancellable] at hlooks
    show some (log.requests, log.looks) = some (5, 1)
    rw [h.requests, hlooks]
  · obtain ⟨frame, hframe⟩ := Request.frame_close m t s { fileId }
    rw [hframe] at he
    cases he
  · intro sent hsent reply answered
    have hasked : Piped fits fileId 5 (Native.looked (HandleLog.after true) .exchanger context log) :=
      h.looked context
    have hbody : sent.request.body = .close { fileId } := by rw [hsent]
    have hhandles : answered.handles = [(fileId, 1)] := by
      show (HandleLog.send _ true sent.request.body reply).handles = _
      rw [hbody]
      show closeHandle fileId _ = _
      rw [hasked.handles]
      simp [closeHandle]
    have hstopped : answered.stopped = none := hasked.stopped
    have hends : ∀ log, log.handles = answered.handles → log.stopped ≠ some (5, 1) →
        Ends (closesPipe fits log) log := fun log hlog hlate =>
      .closed fileId (hlog.trans hhandles) ⟨.inl hfits, hlate⟩
    have hlast : Ends (closesPipe fits (Native.looked (HandleLog.after true) .exchanger context
        answered)) (Native.looked (HandleLog.after true) .exchanger context answered) := by
      rw [Native.looked]
      split
      · refine hends _ rfl ?_
        show answered.stopped ≠ some (5, 1)
        simp [hstopped]
      · exact hends _ rfl (by simp [hstopped])
    constructor
    · rintro e rfl e'
      exact hend _ _ (hends _ rfl (by simp [hstopped]))
    · rintro frame rfl
      refine ⟨fun _ e => hend _ _ (hends _ rfl ?_), fun a _ => hend _ _ hlast,
        fun _ e => hend _ _ hlast⟩
      show some (answered.requests, 0) ≠ some (5, 1)
      simp

theorem Piped.writePipe (h : Piped fits fileId n log) (hn : n ≤ 4) {data : ByteVector}
    (hframe : fitsWrite data ∨ ¬ fits) {used : ℕ}
    {k : DecodeResult Unit → Prog (DecodeResult β)}
    (herror : ∀ e, k (.error e) = closeOpenedPipe m t s fileId e used)
    (hok : ∀ log, fitsWrite data → Piped fits fileId (n + 1) log →
      MeetsE (Handled true) (k (.ok ())) (EndsPipe fits) log) {id : ℕ} :
    MeetsE (Handled true) (writePipe id t s context fileId data >>= k) (EndsPipe fits) log := by
  have hfailed : ∀ e log, Broken fits fileId log →
      MeetsE (Handled true) (k (.error e)) (EndsPipe fits) log := by
    intro e log hbroken
    rw [herror]
    exact hbroken.closeOpenedPipe ..
  refine meetsE_bind.2 (meetsE_bind.2 (h.exchangeResponse context hn rfl ?_ ?_
    (fun e log hbroken => hfailed _ _ hbroken) ?_))
  · intro payload hunderstood
    rw [RequestBody.understands] at hunderstood
    cases hresult : decodeWriteResponse payload with
    | error e =>
      rw [hresult] at hunderstood
      cases hunderstood
    | ok response => exact ⟨response, rfl⟩
  · intro e log he hpiped
    obtain hwrite | hfits := hframe
    · obtain ⟨frame, hframe⟩ := Request.frame_write id t s (o := { fileId, data }) hwrite rfl
      rw [hframe] at he
      cases he
    · exact hpiped.endsPipe_unfit hfits _
  · intro written payload log hwritten hframe hpiped hbroken _
    have hunderstood : (RequestBody.write { fileId, data }).understands true payload =
        decide (written.count.toNat = data.length) := by
      rw [RequestBody.understands, hwritten]
      simp
    dsimp only
    split
    · rename_i hshort
      exact hfailed _ _ (hbroken (by simpa [hunderstood] using hshort))
    · rename_i hall
      refine hok log ((Request.frame_write_iff _ _ _ rfl).1 hframe) (hpiped (.inr ?_))
      simpa [hunderstood] using hall

theorem Piped.readPipe (h : Piped fits fileId n log) (hn : n ≤ 4) {used : ℕ}
    {k : DecodeResult ByteVector → Prog (DecodeResult β)}
    (herror : ∀ e, k (.error e) = closeOpenedPipe m t s fileId e used)
    (hok : ∀ data log,
      (fits ∨ succeeds (decodeDcerpcBindAck data) = true → Piped fits fileId (n + 1) log) →
      (succeeds (decodeDcerpcBindAck data) = false → Broken fits fileId log) →
      log.looks = looksOf context → MeetsE (Handled true) (k (.ok data)) (EndsPipe fits) log)
    {id : ℕ} :
    MeetsE (Handled true) (readPipe id t s context fileId >>= k) (EndsPipe fits) log := by
  refine meetsE_bind.2 (meetsE_bind.2 (h.exchangeResponse context hn rfl ?_ ?_
    (fun e log hbroken => ?_) ?_))
  · intro payload hunderstood
    rw [RequestBody.understands] at hunderstood
    cases hresult : decodeReadResponse payload with
    | error e =>
      rw [hresult] at hunderstood
      cases hunderstood
    | ok response => exact ⟨response, rfl⟩
  · intro e log he _
    obtain ⟨frame, hframe⟩ := Request.frame_read id t s (o := { fileId, length := 65536 }) rfl
    rw [hframe] at he
    cases he
  · dsimp only
    show MeetsE _ (k (.error _)) _ _
    rw [herror]
    exact hbroken.closeOpenedPipe ..
  · intro read payload log hread _ hpiped hbroken hlooks
    have hunderstood : (RequestBody.read { fileId, length := 65536 }).understands true payload =
        succeeds (decodeDcerpcBindAck read.data) := by
      rw [RequestBody.understands, hread]
      simp
    rw [hunderstood] at hpiped hbroken
    exact hok read.data log hpiped hbroken hlooks

theorem handles_exchangeShareEnum {stub : ByteVector}
    (h : Piped fits fileId 3 log)
    (hfits : fits ↔ fitsWrite (buildDcerpcRequestPdu kSrvsNetrShareEnumOpnum stub 2)) :
    MeetsE (Handled true) (exchangeShareEnum m t s context fileId
      (buildDcerpcRequestPdu kSrvsNetrShareEnumOpnum stub 2)) (EndsPipe fits) log := by
  refine h.writePipe m t s context (by omega) ?_ (fun e => rfl) fun log hwrite hpiped => ?_
  · by_cases hwrite : fitsWrite (buildDcerpcRequestPdu kSrvsNetrShareEnumOpnum stub 2)
    · exact .inl hwrite
    · exact .inr fun hall => hwrite (hfits.1 hall)
  have hall : fits := hfits.2 hwrite
  refine hpiped.readPipe m t s context le_rfl (fun e => rfl) fun data log hlisted _ hlooks => ?_
  have hlisted : Piped fits fileId 5 log := hlisted (.inl hall)
  have hbroken : Broken fits fileId log :=
    ⟨hlisted.handles, by simp [hlisted.stopped], .inl hall⟩
  dsimp only
  split
  · exact hbroken.closeOpenedPipe ..
  split
  · exact hbroken.closeOpenedPipe ..
  · exact hlisted.lastClose _ t s context hall hlooks fun r => by cases r <;> exact ⟨_, rfl⟩

theorem handles_remoteShareEnumerator (serverName : ByteVector) :
    MeetsE (Handled true) (remoteShareEnumerator m t s context serverName)
      (EndsPipe (fitsShareEnum serverName)) {} := by
  have hnone : Unopened {} := ⟨rfl, rfl⟩
  have hunopened : ∀ (r : Except Exn (DecodeResult NativeShareList)) log, Unopened log →
      EndsPipe (fitsShareEnum serverName) r log := fun r log h _ => .unopened h.handles
  refine tracked_look (fun _ => hunopened _ _ (hnone.look true)) ?_
  have hstart : (Native.looked (HandleLog.after true) .helper context {}).requests = 0 ∧
      (Native.looked (HandleLog.after true) .helper context {}).stopped = none := by
    rw [Native.looked]
    split
    · exact ⟨rfl, rfl⟩
    · exact ⟨rfl, rfl⟩
  have hlooked : Unopened (Native.looked (HandleLog.after true) .helper context {}) := hnone.looked
  refine meetsE_bind.2 (hlooked.exchangeCreate rfl
    (fun e log h => hunopened _ _ h) (fun e log h => hunopened _ _ h)
    fun payload log _ hcreated hrequests hstopped => ?_)
  rw [hstart.1] at hrequests
  rw [hstart.2] at hstopped
  dsimp only
  cases hcreate : decodeCreateResponse payload with
  | error e => exact hunopened _ _ (hcreated.unopened (by simp [hcreate]))
  | ok create =>
    have hheld := hcreated.held create hcreate
    have hpiped : Piped (fitsShareEnum serverName) create.fileId 1 log :=
      ⟨hheld.handles, hrequests, hstopped, .inr hheld.calm⟩
    have hbind : fitsWrite (buildDcerpcBindPdu srvsRpcSyntax 1) :=
      show 184 ≤ kMaxDirectTcpPayloadLength by decide
    refine hpiped.writePipe m t s context (by omega) (.inl hbind) (fun e => rfl)
      fun log _ hpiped => ?_
    refine hpiped.readPipe m t s context (by omega) (fun e => rfl)
      fun data log hbound hrefused _ => ?_
    dsimp only
    cases hack : decodeDcerpcBindAck data with
    | error e => exact (hrefused (by rw [hack]; rfl)).closeOpenedPipe ..
    | ok ack =>
      have hpiped := hbound (.inr (by rw [hack]; rfl))
      refine meetsE_ofExcept.2 ?_
      cases hstub : buildNetrShareEnumRequestStub serverName with
      | error e =>
        refine hpiped.endsPipe_unfit ?_ _
        rintro ⟨stub, hbuilt, -⟩
        rw [hstub] at hbuilt
        cases hbuilt
      | ok stub =>
        refine handles_exchangeShareEnum m t s context hpiped ⟨?_, fun hwrite => ⟨stub, hstub, hwrite⟩⟩
        rintro ⟨stub', hbuilt, hwrite⟩
        obtain rfl := Except.ok.inj (hstub.symm.trans hbuilt)
        exact hwrite

end

/-! ## The methods -/

/-- The methods that open an object for their own use. -/
def SessionCall.ownsHandle : SessionCall → Bool
  | .openFileForRead _ => false
  | .readFileChunk .. => false
  | .closeFileHandle _ => false
  | .copyFileServerSide .. => false
  | .getDfsReferrals _ => false
  | _ => true

def SessionCall.usesPipe : SessionCall → Bool
  | .listShares _ => true
  | _ => false

/-- The handles after the events of one call. -/
def handleLog (call : SessionCall) (es : List (Event Wire)) : HandleLog :=
  es.foldl (HandleLog.after call.usesPipe) {}

/-- The run in which a method reaches its CLOSE: it is not found cancelled and
    every reply is understood while the object is open, and what it sends can be
    encoded.  A share enumeration closes its pipe in more cases. -/
def SessionCall.Closes : SessionCall → HandleLog → Prop
  | .listShares serverName, log => closesPipe (fitsShareEnum serverName) log
  | call, log => log.disturbed = false ∧ call.Encodable

section

variable {session : Session} {call : SessionCall}

/-- What a method leaves of its handles. -/
def SessionCall.Ended (call : SessionCall) (r : Except Exn α) (log : HandleLog) : Prop :=
  r ≠ .error .unfinished → Ends (call.Closes log) log

theorem ended_discard {p : SessionM α}
    (h : MeetsS (Handled call.usesPipe) p (fun r _ log => call.Ended r log) session {}) :
    MeetsS (Handled call.usesPipe) (discard p) (fun r _ log => call.Ended r log) session {} := by
  have hdiscard : Functor.discard p = p >>= fun _ => pure () := by
    rw [Functor.discard, LawfulFunctor.map_const, Function.comp_apply, ← bind_pure_comp]
  rw [hdiscard]
  refine h.bind (fun a session log hended _ => hended (by simp)) fun e session log hended hne => ?_
  exact hended fun he => hne (by cases he; rfl)

/-- A helper run at the beginning of a method. -/
theorem ended_helper {helper : ℕ → UInt32 → UInt64 → Prog (DecodeResult α)}
    (hhelper : ∀ m t s, MeetsE (Handled call.usesPipe) (helper m t s)
      (fun r log => call.Ended r log) {}) {messageId : ℕ}
    {k : DecodeResult α → SessionM β} (hk : ∀ r session, ∃ x session',
      (k r).run.run session = .pure (.ok x, session')) :
    MeetsS (Handled call.usesPipe) (SessionM.withIds messageId helper >>= k)
      (fun r _ log => call.Ended r log) session {} := by
  refine meetsS_bind.2 (meetsS_withIds.2 ((hhelper messageId _ _).mono ?_))
  intro r log hended
  cases r with
  | error e => exact fun hne => hended fun he => hne (by cases he; rfl)
  | ok a =>
    obtain ⟨x, session', hx⟩ := hk a session
    show Meets _ ((k a).run.run session) _ log
    rw [hx]
    exact fun _ => hended (by simp)

theorem ended_withReportedIds {used : α → ℕ} {result : α → β}
    {helper : ℕ → UInt32 → UInt64 → Prog (DecodeResult α)}
    (hhelper : ∀ m t s, MeetsE (Handled call.usesPipe) (helper m t s)
      (fun r log => call.Ended r log) {}) :
    MeetsS (Handled call.usesPipe) (Session.withReportedIds call used helper result)
      (fun r _ log => call.Ended r log) session {} := by
  refine meetsS_enter ⟨trivial, ?_⟩
  rintro log rfl
  exact meetsS_sessionGet.2 (ended_helper hhelper fun r session => by
    cases r <;> exact ⟨_, _, rfl⟩)

theorem ended_withAllocatedIds {count : ℕ} {result : α → β}
    {helper : ℕ → UInt32 → UInt64 → Prog (DecodeResult α)}
    (hhelper : ∀ m t s, MeetsE (Handled call.usesPipe) (helper m t s)
      (fun r log => call.Ended r log) {}) :
    MeetsS (Handled call.usesPipe) (Session.withAllocatedIds call count helper result)
      (fun r _ log => call.Ended r log) session {} := by
  refine meetsS_enter ⟨trivial, ?_⟩
  rintro log rfl
  exact meetsS_allocateMessageIds.2 (ended_helper hhelper fun r session => by
    cases r <;> exact ⟨_, _, rfl⟩)

/-- What an ordinary method leaves, from what its helper leaves. -/
theorem Finishes.ended {fits : Prop} {r : Except Exn α} {log : HandleLog}
    (h : Finishes fits r log) (hfits : fits ↔ call.Encodable) (hcall : call.usesPipe = false) :
    call.Ended r log := by
  intro hne
  have hcloses : call.Closes log ↔ log.disturbed = false ∧ fits := by
    rw [hfits]
    cases call with
    | listShares serverName => cases hcall
    | _ => exact Iff.rfl
  rw [hcloses]
  exact h hne

variable (fuel : ℕ) (context : OperationContext)

theorem SessionCall.ended_run (hcall : call.ownsHandle = true) :
    MeetsS (Handled call.usesPipe) (call.run fuel context) (fun r _ log => call.Ended r log)
      session {} := by
  have hnone : Unopened {} := ⟨rfl, rfl⟩
  cases call with
  | openFileForRead path => cases hcall
  | readFileChunk fileId length offset => cases hcall
  | closeFileHandle fileId => cases hcall
  | copyFileServerSide sourcePath targetPath size => cases hcall
  | getDfsReferrals requestPath => cases hcall
  | listDirectory path =>
    refine ended_discard (meetsS_enter ⟨trivial, ?_⟩)
    rintro log rfl
    refine meetsS_sessionGet.2 (ended_helper (fun m t s => ?_) fun r session => by
      cases r <;> exact ⟨_, _, rfl⟩)
    exact (handles_directoryLister m t s context fuel path hnone).mono fun r log h =>
      h.ended (by simp [Encodable, opens, Fits]) rfl
  | readFileOnce path length offset =>
    refine ended_discard (meetsS_enter ⟨trivial, ?_⟩)
    rintro log rfl
    refine meetsS_allocateMessageIds.2 (ended_helper (fun m t s => ?_) fun r session => by
      cases r <;> exact ⟨_, _, rfl⟩)
    exact (handles_fileReader m t s context path length offset hnone).mono fun r log h =>
      h.ended (by simp [Encodable, opens, Fits]) rfl
  | writeFileOnce path data offset =>
    refine ended_discard (meetsS_enter ⟨trivial, ?_⟩)
    rintro log rfl
    refine meetsS_sessionGet.2 (ended_helper (fun m t s => ?_) fun r session => by
      cases r <;> exact ⟨_, _, rfl⟩)
    exact (handles_fileWriter m t s context path data offset hnone).mono fun r log h =>
      h.ended (by simp [Encodable, opens, Fits]) rfl
  | statObject path =>
    refine ended_discard (ended_withReportedIds fun m t s => ?_)
    exact (handles_remoteStatReader m t s context path hnone).mono fun r log h =>
      h.ended (by simp [Encodable, opens, Fits]) rfl
  | setBasicInformation path info =>
    refine ended_discard (ended_withReportedIds fun m t s => ?_)
    refine (handles_withMetadataObject m t s context hnone fun create log hfits hheld =>
      handles_setInfoAndClose (fitsCreate path) m t s context hheld ?_).mono fun r log h =>
        h.ended (by simp [Encodable, opens, Fits]) rfl
    simp [hfits, fitsSetInfo, buildFileBasicInformation, kMaxDirectTcpPayloadLength]
  | listExtendedAttributes path =>
    refine ended_discard (ended_withReportedIds fun m t s => ?_)
    exact (handles_metadataListExtendedAttributes m t s context path hnone).mono fun r log h =>
      h.ended (by simp [Encodable, opens, Fits]) rfl
  | setExtendedAttributes path entries =>
    refine ended_discard (ended_withReportedIds fun m t s => ?_)
    exact (handles_metadataSetExtendedAttributes m t s context path entries hnone).mono
      fun r log h => h.ended (by simp [Encodable, opens, Fits]) rfl
  | removeExtendedAttribute path name =>
    refine ended_discard (ended_withReportedIds fun m t s => ?_)
    exact (handles_metadataSetExtendedAttributes m t s context path [{ name }] hnone).mono
      fun r log h => h.ended (by simp [Encodable, opens, Fits]) rfl
  | querySecurityDescriptor path information =>
    refine ended_discard (ended_withReportedIds fun m t s => ?_)
    exact (handles_metadataQuerySecurityDescriptor m t s context path information hnone).mono
      fun r log h => h.ended (by simp [Encodable, opens, Fits]) rfl
  | setSecurityDescriptor path information descriptor =>
    refine ended_discard (ended_withReportedIds fun m t s => ?_)
    refine (handles_withMetadataObject m t s context hnone fun create log hfits hheld =>
      handles_setInfoAndClose (fitsCreate path ∧ fitsSetInfo descriptor) m t s context
        hheld (and_iff_right hfits)).mono fun r log h =>
          h.ended (by simp [Encodable, opens, Fits]) rfl
  | createDirectory path =>
    refine ended_discard (ended_withAllocatedIds fun m t s => ?_)
    exact (handles_withObject m t s context hnone rfl fun fileId log hfits hheld =>
      handles_closeAndReturn (fitsCreate path) _ t s context hheld hfits).mono
        fun r log h => h.ended (by simp [Encodable, opens, Fits]) rfl
  | deleteObject path directory =>
    refine ended_discard (ended_withAllocatedIds fun m t s => ?_)
    refine (handles_setInfoOnObject m t s context hnone rfl).mono fun r log h => h.ended ?_ rfl
    have hbuilt : fitsBuilt fitsSetInfo (.ok (buildFileDispositionInformation true)) :=
      ⟨_, rfl, show 96 + 1 ≤ kMaxDirectTcpPayloadLength by decide⟩
    simp [Encodable, opens, Fits, hbuilt, openForMutationOptions]
  | renameObject fromPath toPath replace =>
    refine ended_discard (ended_withAllocatedIds fun m t s => ?_)
    exact (handles_setInfoOnObject m t s context hnone rfl).mono fun r log h =>
      h.ended (by simp [Encodable, opens, Fits, openForMutationOptions]) rfl
  | createHardLink existingPath linkPath replace =>
    refine ended_discard (ended_withAllocatedIds fun m t s => ?_)
    exact (handles_setInfoOnObject m t s context hnone rfl).mono fun r log h =>
      h.ended (by simp [Encodable, opens, Fits, openForMutationOptions]) rfl
  | createSymbolicLink linkPath targetPath directory relative =>
    refine ended_discard (ended_withAllocatedIds fun m t s => ?_)
    exact (handles_objectCreateSymbolicLink m t s context linkPath targetPath directory relative
      hnone).mono fun r log h => h.ended (by simp [Encodable, opens, Fits]) rfl
  | watchDirectoryOnce path filter watchTree =>
    refine ended_discard (ended_withAllocatedIds fun m t s => ?_)
    exact (handles_directoryWatcher m t s context path filter watchTree _ hnone).mono
      fun r log h => h.ended (by simp [Encodable, opens, Fits]) rfl
  | listShares serverName =>
    refine ended_discard (ended_withReportedIds fun m t s => ?_)
    exact handles_remoteShareEnumerator m t s context serverName

end

/-- On a working connection every handle of a method is closed exactly once, if
    and only if the method reaches its CLOSE. -/
theorem SessionCall.closesHandles_iff {call : SessionCall} (hcall : call.ownsHandle = true)
    {fuel : ℕ} {context : OperationContext} {session session' : Session} {es : List (Event Wire)}
    {r : Except Exn Unit}
    (hrun : Program.Runs ((call.run fuel context).run.run session) es (r, session'))
    (hended : r ≠ .error .unfinished) :
    ((handleLog call es).usable = true → (handleLog call es).ClosedOnce) ↔
      (handleLog call es).usable = false ∨ (handleLog call es).handles = [] ∨
        call.Closes (handleLog call es) :=
  ((call.ended_run fuel context hcall).tracked hrun hended).closedOnce_iff

set_option maxRecDepth 10000 in
/-- A directory is created and closed over an answering server. -/
theorem closesHandles_createDirectory :
    let call := SessionCall.createDirectory (ascii "docs")
    let run := played (.call call) {} (.new 1 1 1)
      ([.ok (framed createdMessage), .ok (framed closedMessage)], [])
    (handleLog call run.1).handles = [({}, 1)] ∧
      (((handleLog call run.1).usable = true → (handleLog call run.1).ClosedOnce) ↔
        (handleLog call run.1).usable = false ∨ (handleLog call run.1).handles = [] ∨
          call.Closes (handleLog call run.1)) := by
  intro call run
  have hrun : Program.Runs ((call.run 1 {}).run.run (.new 1 1 1)) run.1 (run.2.1.1, run.2.1.2) :=
    Program.runs_serve playback _ _
  have hend : run.2.1.1 = .ok () := by rfl
  exact ⟨by rfl, SessionCall.closesHandles_iff rfl hrun (by simp [hend])⟩

/-- The reply to a READ of a range another client has locked. -/
def lockConflictMessage : ByteVector :=
  encodeSmb2SyncHeader { command := .read, flags := kFlagServerToRedir, status := 0xC0000054 }

set_option maxRecDepth 10000 in
/-- A READ that the server refuses: the file was opened, and no CLOSE is sent
    although the transport answered every request. -/
theorem readFileOnce_leaks :
    let call := SessionCall.readFileOnce (ascii "a") 16 0
    let run := played (.call call) {} (.new 1 1 1)
      ([.ok (framed createdMessage), .ok (framed lockConflictMessage)], [])
    run.2.1 = (.ok (), .new 1 1 4) ∧ (sentRequests run.1).length = 2 ∧
      (handleLog call run.1).usable = true ∧ ¬ (handleLog call run.1).ClosedOnce := by
  intro call run
  have hhandles : (handleLog call run.1).handles = [({}, 0)] := by rfl
  refine ⟨by rfl, by rfl, by rfl, fun hclosed => ?_⟩
  have hcount := hclosed ({}, 0) (by rw [hhandles]; exact List.mem_singleton_self _)
  cases hcount

end SmbBrowser.Native
