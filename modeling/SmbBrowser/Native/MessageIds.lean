import SmbBrowser.Native.Accounting

/-!
# Message ids of a call

Every helper is given the first message id it may use.  `Spent` says how far
its requests reach when its log accounts for them; `Within` and `Sofar` say it
of a call in progress, whatever its log.

Results:
* `Sofar.exchangeResponse`, `Sofar.exchangePayload`, `Sofar.openFile`: one more
  request of a helper.
-/

namespace SmbBrowser.Native

open SmbBrowser.Base

/-! ## Reach of a helper -/

/-- The call of `t` went on to `t'`, and if its log accounts for its requests,
    they are in order and lie below `bound`. -/
structure Spent (c : SessionCall) (t : Tally) (bound : ℕ) (t' : Tally) : Prop where
  settled : t'.settled = t.settled
  call : t'.call = t.call
  covers : t.settled → Accounted c t'.log → t'.ordered = true ∧ t'.next ≤ bound

/-- The call of `t` went on to `t'`, and its requests are in order and lie
    below `bound`. -/
structure Within (t : Tally) (bound : ℕ) (t' : Tally) : Prop where
  settled : t'.settled = t.settled
  call : t'.call = t.call
  covers : t.settled → t'.ordered = true ∧ t'.next ≤ bound

/-- The call of `t`, given the first id `m`, has sent `n` requests with one
    credit each. -/
structure Sofar (t : Tally) (m n : ℕ) (t' : Tally) : Prop extends Within t (m + n) t' where
  requests : t'.log.requests = n

section Within

variable {t₀ t : Tally} {bound : ℕ} {call : SessionCall} (h : Within t₀ bound t)
include h

theorem Within.spent {bound' : ℕ} (hbound : bound ≤ bound') : Spent call t₀ bound' t where
  settled := h.settled
  call := h.call
  covers hsettled _ := by
    obtain ⟨hordered, hnext⟩ := h.covers hsettled
    exact ⟨hordered, by omega⟩

/-- Nothing is owed for a call its log does not account for. -/
theorem Within.spent_of_not {bound' : ℕ} (hnot : ¬ Accounted call t.log) :
    Spent call t₀ bound' t where
  settled := h.settled
  call := h.call
  covers _ hacc := absurd hacc hnot

theorem Within.mono {bound' : ℕ} (hbound : bound ≤ bound') : Within t₀ bound' t where
  settled := h.settled
  call := h.call
  covers hsettled := by
    obtain ⟨hordered, hnext⟩ := h.covers hsettled
    exact ⟨hordered, by omega⟩

theorem Within.poll (asker : Asker) (cancelled : Bool) :
    Within t₀ bound (t.poll asker cancelled) where
  settled := h.settled
  call := h.call
  covers := h.covers

/-- A request that begins above the requests so far. -/
theorem Within.send {request : Request} {bound' : ℕ} (hid : bound ≤ request.messageId)
    (hbound : request.messageId + max 1 request.charge.toNat ≤ bound') (good : Bool) :
    Within t₀ bound' (t.send request good) where
  settled := h.settled
  call := h.call
  covers hsettled := by
    obtain ⟨hordered, hnext⟩ := h.covers hsettled
    have hle : t.next ≤ request.messageId := by omega
    simp only [Tally.send_ordered, Tally.send_next, hordered, hle, decide_true, Bool.true_and]
    exact ⟨trivial, hbound⟩

end Within

/-- A call that has not sent anything. -/
theorem Sofar.begin {t : Tally} {m : ℕ} (hlog : t.log = {})
    (hcovers : t.settled → t.ordered = true ∧ t.next ≤ m) : Sofar t m 0 t where
  settled := rfl
  call := rfl
  covers := hcovers
  requests := by rw [hlog]

section Sofar

variable {t₀ t : Tally} {m n : ℕ} {call : SessionCall} (h : Sofar t₀ m n t)
include h

theorem Sofar.poll (asker : Asker) (cancelled : Bool) : Sofar t₀ m n (t.poll asker cancelled) where
  toWithin := h.toWithin.poll asker cancelled
  requests := by simpa using h.requests

/-- The next request of one credit begins where the requests so far end. -/
theorem Sofar.send {request : Request} (hid : request.messageId = m + n)
    (hcharge : request.charge.toNat ≤ 1) (good : Bool) :
    Sofar t₀ m (n + 1) (t.send request good) where
  toWithin := h.toWithin.send (by omega) (by omega) good
  requests := by simpa using h.requests

end Sofar

/-! ## Steps of a helper -/

section

variable {t : Tally} {context : OperationContext} {α β : Type}
  {Q : Except Exn β → Tally → Prop}

/-- `if (isCancelled(context)) { return x; }` followed by the rest of a helper. -/
theorem meets_unlessCancelled {x : β} {rest : Prog β} (hstop : Q (.ok x) (t.poll .helper true))
    (hrest : MeetsE Tallied rest Q t) :
    MeetsE Tallied (isCancelled .helper context >>= fun b => if b = true then pure x else rest)
      Q t := by
  refine meetsE_bind.2 (meets_isCancelled fun b => ?_)
  cases b with
  | true => exact hstop
  | false => simpa using hrest

variable {t₀ : Tally} {m n : ℕ} {request : Request}

/-- A request that is built is not refused. -/
theorem not_refused (h : ∃ frame, request.frame = .ok frame) {P : Exn → Prop} :
    ∀ e, request.frame = .error e → P e := by
  obtain ⟨frame, hframe⟩ := h
  intro e he
  cases hframe.symm.trans he

/-- One more exchange through an exchanger. -/
theorem Sofar.exchangeResponse (h : Sofar t₀ m n t) {cancelled : String}
    {decode : ByteVector → DecodeResult α} {k : DecodeResult α → Prog β}
    (hid : request.messageId = m + n) (hcharge : request.charge.toNat ≤ 1)
    (hdecode : ∀ payload, request.body.accepts payload = succeeds (decode payload))
    (hthrow : ∀ e, request.frame = .error e → Q (.error e) t)
    (hfail : ∀ e t', Within t₀ (m + (n + 1)) t' → MeetsE Tallied (k (.error e)) Q t')
    (hok : ∀ a, Sofar t₀ m (n + 1) (t.send request true) →
      MeetsE Tallied (k (.ok a)) Q (t.send request true)) :
    MeetsE Tallied (Native.exchangeResponse cancelled decode request context >>= k) Q t := by
  refine meetsE_bind.2 (meets_exchangeResponse hdecode hthrow ?_ ?_ ?_)
  · intro e
    exact hfail e _ ((h.poll _ _).toWithin.mono (by omega))
  · intro e
    exact hfail e _ (h.send hid hcharge false).toWithin
  · intro a
    exact hok a (h.send hid hcharge true)

/-- One more exchange through `exchangePayload`; the payload is still to be
    decoded. -/
theorem Sofar.exchangePayload (h : Sofar t₀ m n t) {k : DecodeResult ByteVector → Prog β}
    (hid : request.messageId = m + n) (hcharge : request.charge.toNat ≤ 1)
    (hthrow : ∀ e, request.frame = .error e → Q (.error e) t)
    (hfail : ∀ e, Sofar t₀ m (n + 1) (t.send request false) →
      MeetsE Tallied (k (.error e)) Q (t.send request false))
    (hok : ∀ payload, Sofar t₀ m (n + 1) (t.send request (request.body.accepts payload)) →
      MeetsE Tallied (k (.ok payload)) Q (t.send request (request.body.accepts payload))) :
    MeetsE Tallied (Native.exchangePayload request context >>= k) Q t := by
  refine meetsE_bind.2 (meets_exchangePayload hthrow ?_ ?_)
  · intro e
    exact hfail e (h.send hid hcharge false)
  · intro payload
    exact hok payload (h.send hid hcharge _)

/-- `openFile`: a failed CREATE may have been decoded. -/
theorem Sofar.openFile (h : Sofar t₀ m n t) {treeId : UInt32} {sessionId : UInt64}
    {options : CreateRequestOptions} {k : DecodeResult CreateResponse → Prog β}
    (hthrow : ∀ e, Q (.error e) t)
    (hfail : ∀ e t', Within t₀ (m + (n + 1)) t' → MeetsE Tallied (k (.error e)) Q t')
    (hok : ∀ create, Sofar t₀ m (n + 1) (t.send ⟨.create options, m + n, treeId, sessionId⟩ true) →
      MeetsE Tallied (k (.ok create)) Q
        (t.send ⟨.create options, m + n, treeId, sessionId⟩ true)) :
    MeetsE Tallied (Native.openFile (m + n) treeId sessionId context options >>= k) Q t := by
  unfold Native.openFile
  rw [LawfulMonad.bind_assoc]
  refine h.exchangePayload rfl (by simp [Request.charge]) (fun e _ => hthrow e) ?_ ?_
  · intro e h'
    exact hfail _ _ h'.toWithin
  · intro payload h'
    simp only [RequestBody.accepts, pure_bind] at h' ⊢
    cases hd : decodeCreateResponse payload with
    | error e =>
      rw [hd] at h'
      exact hfail e _ h'.toWithin
    | ok create =>
      rw [hd] at h'
      exact hok create h'

end

section Charges

variable (m : ℕ) (treeId : UInt32) (sessionId : UInt64)

theorem charge_create (o : CreateRequestOptions) :
    (⟨.create o, m, treeId, sessionId⟩ : Request).charge.toNat ≤ 1 := by simp [Request.charge]
theorem charge_close (o : CloseRequestOptions) :
    (⟨.close o, m, treeId, sessionId⟩ : Request).charge.toNat ≤ 1 := by simp [Request.charge]
theorem charge_ioctl (o : IoctlRequestOptions) :
    (⟨.ioctl o, m, treeId, sessionId⟩ : Request).charge.toNat ≤ 1 := by simp [Request.charge]
theorem charge_setInfo (o : SetInfoRequestOptions) :
    (⟨.setInfo o, m, treeId, sessionId⟩ : Request).charge.toNat ≤ 1 := by simp [Request.charge]
theorem charge_queryInfo (o : QueryInfoRequestOptions) :
    (⟨.queryInfo o, m, treeId, sessionId⟩ : Request).charge.toNat ≤ 1 := by simp [Request.charge]
theorem charge_queryDirectory (o : QueryDirectoryRequestOptions) :
    (⟨.queryDirectory o, m, treeId, sessionId⟩ : Request).charge.toNat ≤ 1 := by
  simp [Request.charge]

end Charges

end SmbBrowser.Native
