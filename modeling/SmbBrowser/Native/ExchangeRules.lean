import SmbBrowser.Native.Composite

/-!
# Rules for the exchanges

The weakest preconditions of the exchanges against an arbitrary contract of the
environment, for the properties that are not about message ids.

Results:
* `AllowsLooks.exchangeResponse`, `exchangePayload_meets`, `openFile_meets`: one
  request, by what its answer leads to;
* `tracked_exchangeResponse`: the same under a contract that records every look;
* `SessionM` rules: a helper run by a session meets what it meets on its own.
-/

namespace SmbBrowser.Native

open SmbBrowser.Base

variable {S α β : Type}

/-! ## Answers -/

/-- The message in an answer of the transport. -/
def replyPayload (reply : DecodeResult ByteVector) : DecodeResult ByteVector := do
  decodeDirectTcpPayload (← reply)

/-- The answer of the transport read by a decoder. -/
def decodedReply (decode : ByteVector → DecodeResult α) (reply : DecodeResult ByteVector) :
    DecodeResult α := do
  decode (← replyPayload reply)

@[simp] theorem replyPayload_error (e : ProtocolError) : replyPayload (.error e) = .error e := rfl

theorem decodedReply_eq_ok {decode : ByteVector → DecodeResult α} {reply : DecodeResult ByteVector}
    {a : α} : decodedReply decode reply = .ok a ↔
      ∃ payload, replyPayload reply = .ok payload ∧ decode payload = .ok a :=
  bind_eq_ok

/-- A contract under which the client may look at the cancellation token, and a
    look that finds nothing changes nothing. -/
structure AllowsLooks (C : Contract Wire S) : Prop where
  allows : ∀ s asker, C.allows s (.isCancelled asker)
  step : ∀ {s asker m}, C.step s ⟨.isCancelled asker, false⟩ m → m = s

/-- A request may be sent, and every answer leads to `P`. -/
def Sends (C : Contract Wire S) (request : Request) (context : OperationContext)
    (P : DecodeResult ByteVector → S → Prop) (s : S) : Prop :=
  ∀ sent : SentRequest, sent.request = request → C.allows s (.exchange sent context) ∧
    ∀ reply m, C.step s ⟨.exchange sent context, reply⟩ m → P reply m

section

variable {C : Contract Wire S} {s : S} {context : OperationContext} {request : Request}
  {asker : Asker}

theorem Sends.mono {P P' : DecodeResult ByteVector → S → Prop} (h : Sends C request context P s)
    (hP : ∀ reply m, P reply m → P' reply m) : Sends C request context P' s := by
  intro sent hsent
  obtain ⟨hallows, hstep⟩ := h sent hsent
  exact ⟨hallows, fun reply m hm => hP reply m (hstep reply m hm)⟩

theorem meetsE_ofExcept {x : Except Exn α} {f : α → Prog β} {Q : Except Exn β → S → Prop} :
    MeetsE C (Prog.ofExcept x >>= f) Q s ↔
      match x with
      | .ok a => MeetsE C (f a) Q s
      | .error e => Q (.error e) s := by
  rw [meetsE_bind]
  cases x with
  | error e => exact Iff.rfl
  | ok a => exact Iff.rfl

/-! ## The exchanges -/

theorem AllowsLooks.isCancelled (hC : AllowsLooks C) {Q : Except Exn Bool → S → Prop}
    (hno : Q (.ok false) s) (hyes : ∀ m, C.step s ⟨.isCancelled asker, true⟩ m → Q (.ok true) m) :
    MeetsE C (isCancelled asker context) Q s := by
  rw [Native.isCancelled]
  by_cases hc : context.cancellable = true
  · rw [if_pos hc]
    refine meetsE_lift.2 ⟨hC.allows s asker, ?_⟩
    intro answer m hm
    have hanswer : Q (.ok answer) m := by
      cases answer with
      | true => exact hyes m hm
      | false =>
        rw [hC.step hm]
        exact hno
    exact hanswer
  · rw [if_neg hc]
    exact hno

theorem exchangeFrame_meets {Q : Except Exn (DecodeResult ByteVector) → S → Prop}
    (hthrow : ∀ e, request.frame = .error e → Q (.error e) s)
    (hsend : Sends C request context (fun reply m => Q (.ok reply) m) s) :
    MeetsE C (exchangeFrame request context) Q s := by
  unfold exchangeFrame
  split
  · rename_i e herror
    exact hthrow e herror
  · rename_i frame hframe
    exact meetsE_lift.2 (hsend ⟨request, frame, hframe⟩ rfl)

theorem exchangePayload_meets {Q : Except Exn (DecodeResult ByteVector) → S → Prop}
    (hthrow : ∀ e, request.frame = .error e → Q (.error e) s)
    (hsend : Sends C request context (fun reply m =>
      (∀ payload, replyPayload reply = .ok payload → Q (.ok (.ok payload)) m) ∧
      ((∀ payload, replyPayload reply ≠ .ok payload) → ∀ e, Q (.ok (.error e)) m)) s) :
    MeetsE C (exchangePayload request context) Q s := by
  rw [exchangePayload]
  refine meetsE_bind.2 (exchangeFrame_meets hthrow (hsend.mono ?_))
  intro reply m hanswer
  obtain ⟨hok, hfail⟩ := hanswer
  cases reply with
  | error e => exact hfail (by simp) _
  | ok frame =>
    show Q (.ok (decodeDirectTcpPayload frame)) m
    cases hpayload : decodeDirectTcpPayload frame with
    | error e =>
      refine hfail ?_ e
      intro payload hreply
      have hsame : decodeDirectTcpPayload frame = .ok payload := hreply
      rw [hpayload] at hsame
      cases hsame
    | ok payload => exact hok payload hpayload

/-- One request through `exchangePayload` whose reply is decoded at once. -/
theorem decodedPayload_meets {decode : ByteVector → DecodeResult α}
    {Q : Except Exn (DecodeResult α) → S → Prop}
    (hthrow : ∀ e, request.frame = .error e → Q (.error e) s)
    (hsend : Sends C request context (fun reply m =>
      (∀ a, decodedReply decode reply = .ok a → Q (.ok (.ok a)) m) ∧
      ((∀ a, decodedReply decode reply ≠ .ok a) → ∀ e, Q (.ok (.error e)) m)) s) :
    MeetsE C (do
      match ← exchangePayload request context with
      | .error e => return failureFrom e
      | .ok payload => return decode payload) Q s := by
  refine meetsE_bind.2 (exchangePayload_meets hthrow (hsend.mono ?_))
  intro reply m hanswer
  obtain ⟨hok, hfail⟩ := hanswer
  constructor
  · intro payload hpayload
    show Q (.ok (decode payload)) m
    have hdecoded : decodedReply decode reply = decode payload := by
      rw [decodedReply, hpayload]
      rfl
    rw [hdecoded] at hok hfail
    cases hresult : decode payload with
    | error e => exact hfail (by rw [hresult]; simp) e
    | ok a => exact hok a hresult
  · intro hnone e
    refine hfail ?_ _
    intro a ha
    obtain ⟨payload, hpayload, -⟩ := decodedReply_eq_ok.1 ha
    exact hnone payload hpayload

theorem openFile_meets {messageId : ℕ} {treeId : UInt32} {sessionId : UInt64}
    {options : CreateRequestOptions} {Q : Except Exn (DecodeResult CreateResponse) → S → Prop}
    (hthrow : ∀ e, (⟨.create options, messageId, treeId, sessionId⟩ : Request).frame = .error e →
      Q (.error e) s)
    (hsend : Sends C ⟨.create options, messageId, treeId, sessionId⟩ context (fun reply m =>
      (∀ create, decodedReply decodeCreateResponse reply = .ok create → Q (.ok (.ok create)) m) ∧
      ((∀ create, decodedReply decodeCreateResponse reply ≠ .ok create) →
        ∀ e, Q (.ok (.error e)) m)) s) :
    MeetsE C (openFile messageId treeId sessionId context options) Q s :=
  decodedPayload_meets hthrow hsend

theorem ioctl_meets {messageId : ℕ} {treeId : UInt32} {sessionId : UInt64}
    {options : IoctlRequestOptions} {Q : Except Exn (DecodeResult IoctlResponse) → S → Prop}
    (hthrow : ∀ e, (⟨.ioctl options, messageId, treeId, sessionId⟩ : Request).frame = .error e →
      Q (.error e) s)
    (hsend : Sends C ⟨.ioctl options, messageId, treeId, sessionId⟩ context (fun reply m =>
      (∀ a, decodedReply decodeIoctlResponse reply = .ok a → Q (.ok (.ok a)) m) ∧
      ((∀ a, decodedReply decodeIoctlResponse reply ≠ .ok a) → ∀ e, Q (.ok (.error e)) m)) s) :
    MeetsE C (ioctl messageId treeId sessionId context options) Q s :=
  decodedPayload_meets hthrow hsend

/-- One request through an exchanger: stopped before it, refused by its builder,
    or answered, and then possibly stopped after it. -/
theorem AllowsLooks.exchangeResponse (hC : AllowsLooks C) {cancelled : String}
    {decode : ByteVector → DecodeResult α} {Q : Except Exn (DecodeResult α) → S → Prop}
    (hstop : ∀ e m, C.step s ⟨.isCancelled .exchanger, true⟩ m → Q (.ok (.error e)) m)
    (hthrow : ∀ e, request.frame = .error e → Q (.error e) s)
    (hsend : Sends C request context (fun reply m =>
      (∀ a, decodedReply decode reply = .ok a → Q (.ok (.ok a)) m) ∧
      ((∀ a, decodedReply decode reply ≠ .ok a) → ∀ e, Q (.ok (.error e)) m) ∧
      ∀ frame, reply = .ok frame → ∀ e m', C.step m ⟨.isCancelled .exchanger, true⟩ m' →
        Q (.ok (.error e)) m') s) :
    MeetsE C (exchangeResponse cancelled decode request context) Q s := by
  rw [Native.exchangeResponse]
  refine meetsE_bind.2 (hC.isCancelled ?_ fun m hm => hstop _ m hm)
  show MeetsE C (exchangeFrame request context >>= _) Q s
  refine meetsE_bind.2 (exchangeFrame_meets hthrow (hsend.mono ?_))
  intro reply m hanswer
  obtain ⟨hok, hfail, hstopped⟩ := hanswer
  cases reply with
  | error e =>
    refine hfail ?_ _
    intro a ha
    obtain ⟨payload, hpayload, -⟩ := decodedReply_eq_ok.1 ha
    cases hpayload
  | ok frame =>
    refine meetsE_bind.2 (hC.isCancelled ?_ fun m' hm' => hstopped frame rfl _ m' hm')
    have hpayload : replyPayload (.ok frame) = decodeDirectTcpPayload frame := rfl
    rw [decodedReply, hpayload] at hok hfail
    dsimp only
    cases hmessage : decodeDirectTcpPayload frame with
    | error e =>
      rw [hmessage] at hfail
      exact hfail (fun a ha => by cases ha) _
    | ok payload =>
      rw [hmessage] at hok hfail
      dsimp only
      cases hresult : decode payload with
      | error e => exact hfail (fun a ha => by cases hresult.symm.trans ha) _
      | ok a => exact hok a hresult

end

/-! ## Recorded exchanges

The rules under a recording contract whose state may also count the looks that
find nothing. -/

section

variable {after : S → Event Wire → S} {s : S} {context : OperationContext} {request : Request}
  {asker : Asker}

/-- The state after a look that found nothing, where the context can be cancelled. -/
def looked (after : S → Event Wire → S) (asker : Asker) (context : OperationContext) (s : S) : S :=
  if context.cancellable then after s ⟨.isCancelled asker, false⟩ else s

theorem tracked_isCancelled {Q : Except Exn Bool → S → Prop}
    (hno : Q (.ok false) (looked after asker context s))
    (hyes : context.cancellable = true → Q (.ok true) (after s ⟨.isCancelled asker, true⟩)) :
    MeetsE (.tracking after) (isCancelled asker context) Q s := by
  rw [looked] at hno
  rw [Native.isCancelled]
  by_cases hc : context.cancellable = true
  · rw [if_pos hc] at hno ⊢
    refine meetsE_lift.2 (meets_tracking_ask.2 fun answer => ?_)
    have hanswer : Q (.ok answer) (after s ⟨.isCancelled asker, answer⟩) := by
      cases answer with
      | true => exact hyes hc
      | false => exact hno
    exact hanswer
  · rw [if_neg hc] at hno ⊢
    exact hno

/-- `if (isCancelled(context)) { return x; }` followed by the rest of a helper. -/
theorem tracked_look {x : α} {rest : Prog α} {Q : Except Exn α → S → Prop}
    (hyes : context.cancellable = true → Q (.ok x) (after s ⟨.isCancelled asker, true⟩))
    (hno : MeetsE (.tracking after) rest Q (looked after asker context s)) :
    MeetsE (.tracking after)
      (isCancelled asker context >>= fun b => if b = true then pure x else rest) Q s :=
  meetsE_bind.2 (tracked_isCancelled hno hyes)

/-- What a request sent through an exchanger leads to: its reply cannot be read,
    is found cancelled, or is read. -/
def Records (after : S → Event Wire → S) (request : Request) (context : OperationContext)
    (decode : ByteVector → DecodeResult α) (Q : Except Exn (DecodeResult α) → S → Prop) (s : S) :
    Prop :=
  ∀ sent : SentRequest, sent.request = request → ∀ reply,
    let answered := after s ⟨.exchange sent context, reply⟩
    (∀ e, reply = .error e → ∀ e', Q (.ok (.error e')) answered) ∧
    ∀ frame, reply = .ok frame →
      (context.cancellable = true →
        ∀ e, Q (.ok (.error e)) (after answered ⟨.isCancelled .exchanger, true⟩)) ∧
      (∀ a, decodedReply decode reply = .ok a →
        Q (.ok (.ok a)) (looked after .exchanger context answered)) ∧
      ((∀ a, decodedReply decode reply ≠ .ok a) →
        ∀ e, Q (.ok (.error e)) (looked after .exchanger context answered))

theorem tracked_exchangeResponse {cancelled : String} {decode : ByteVector → DecodeResult α}
    {Q : Except Exn (DecodeResult α) → S → Prop}
    (hstop : context.cancellable = true →
      ∀ e, Q (.ok (.error e)) (after s ⟨.isCancelled .exchanger, true⟩))
    (hthrow : ∀ e, request.frame = .error e → Q (.error e) (looked after .exchanger context s))
    (hsend : Records after request context decode Q (looked after .exchanger context s)) :
    MeetsE (.tracking after) (exchangeResponse cancelled decode request context) Q s := by
  rw [Native.exchangeResponse]
  refine tracked_look (fun hc => hstop hc _) ?_
  refine meetsE_bind.2 (exchangeFrame_meets hthrow fun sent hsent => ⟨trivial, ?_⟩)
  rintro reply m rfl
  obtain ⟨hfail, hanswer⟩ := hsend sent hsent reply
  cases reply with
  | error e => exact hfail e rfl _
  | ok frame =>
    obtain ⟨hstopped, hok, hrefused⟩ := hanswer frame rfl
    refine tracked_look (fun hc => hstopped hc _) ?_
    have hpayload : replyPayload (.ok frame) = decodeDirectTcpPayload frame := rfl
    rw [decodedReply, hpayload] at hok hrefused
    cases hmessage : decodeDirectTcpPayload frame with
    | error e =>
      rw [hmessage] at hrefused
      exact hrefused (fun a ha => by cases ha) _
    | ok payload =>
      rw [hmessage] at hok hrefused
      dsimp only
      cases hresult : decode payload with
      | error e => exact hrefused (fun a ha => by cases hresult.symm.trans ha) _
      | ok a => exact hok a hresult

end

/-! ## Helpers of a session -/

section

variable {C : Contract Wire S} {s : S} {session : Session}
  {Q : Except Exn α → Session → S → Prop}

theorem meetsS_ofProg {p : Prog α} :
    MeetsS C (SessionM.ofProg p) Q session s ↔ MeetsE C p (fun r m => Q r session m) s := by
  show Meets C (p.run.bind fun r => .pure (r, session)) _ s ↔ _
  rw [meets_bind]
  exact Iff.rfl

theorem meetsS_withIds {messageId : ℕ} {f : ℕ → UInt32 → UInt64 → Prog α} :
    MeetsS C (SessionM.withIds messageId f) Q session s ↔
      MeetsE C (f messageId session.treeId session.sessionId) (fun r m => Q r session m) s :=
  meetsS_ofProg

theorem meetsS_enter {call : SessionCall} {f : Unit → SessionM α}
    (h : C.allows s (.enter call) ∧ ∀ m, C.step s ⟨.enter call, ()⟩ m →
      MeetsS C (f ()) Q session m) :
    MeetsS C (SessionM.enter call >>= f) Q session s := by
  rw [meetsS_bind, SessionM.enter, meetsS_ofProg]
  exact meetsE_lift.2 ⟨h.1, fun _ m hm => h.2 m hm⟩

theorem meetsS_sessionGet {f : Session → SessionM α} :
    MeetsS C (get >>= f) Q session s ↔ MeetsS C (f session) Q session s := Iff.rfl

theorem meetsS_allocateMessageIds {count : ℕ} {f : ℕ → SessionM α} :
    MeetsS C (allocateMessageIds count >>= f) Q session s ↔
      MeetsS C (f session.nextMessageId) Q
        { session with nextMessageId := session.nextMessageId + count } s := Iff.rfl

end

end SmbBrowser.Native
