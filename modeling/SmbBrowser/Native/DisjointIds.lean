import Mathlib.Order.Interval.Finset.Nat
import SmbBrowser.Native.SessionIds

/-!
# Disjoint message ids over the runs of a session

A run of a session is one public operation after another, against any answers
of the transport, the cancellation token and the progress callback.  The ids of
a request are read back from the frame handed to the transport.

Results:
* `SessionRuns.ordered`: the requests of an accounted run are in order;
* `sentIds_pairwise_disjoint`: so no two of them share an id.
-/

namespace SmbBrowser.Native

open SmbBrowser.Base

/-! ## Runs of a session -/

/-- The runs of a session: each operation ends with a value or an exception and
    leaves the session to the next one; only the last may go on. -/
inductive SessionRuns : Session → List (Event Wire) → Prop where
  | nil (session : Session) : SessionRuns session []
  | operation {session session' : Session} {es es' : List (Event Wire)} {r : Except Exn Unit}
      (fuel : ℕ) (context : OperationContext) (operation : SessionOperation)
      (hrun : Program.Runs ((operation.run fuel context).run.run session) es (r, session'))
      (hended : r ≠ .error .unfinished) (hrest : SessionRuns session' es') :
      SessionRuns session (es ++ es')
  | unfinished {session session' : Session} {es : List (Event Wire)} (fuel : ℕ)
      (context : OperationContext) (operation : SessionOperation)
      (hrun : Program.Runs ((operation.run fuel context).run.run session) es
        (.error .unfinished, session')) :
      SessionRuns session es

/-- The requests handed to the transport with their frames. -/
def sentRequests : List (Event Wire) → List SentRequest
  | [] => []
  | ⟨.exchange sent _, _⟩ :: es => sent :: sentRequests es
  | _ :: es => sentRequests es

/-- The ids a frame takes: from its message id on, as many as its credit charge
    and at least one. -/
def frameIds (frame : ByteVector) : Finset ℕ :=
  match decodeDirectTcpPayload frame with
  | .error _ => ∅
  | .ok message =>
    match decodeSmb2SyncHeader message with
    | .error _ => ∅
    | .ok header =>
      Finset.Ico header.messageId.toNat
        (header.messageId.toNat + max 1 header.creditCharge.toNat)

/-- The ids of every request of a run, as the transport sees them. -/
def sentIds (es : List (Event Wire)) : List (Finset ℕ) :=
  (sentRequests es).map fun sent => frameIds sent.frame

theorem frameIds_eq {request : Request} {frame : ByteVector} (h : request.frame = .ok frame)
    (hid : request.messageId < 2 ^ 64) :
    frameIds frame =
      Finset.Ico request.messageId (request.messageId + max 1 request.charge.toNat) := by
  obtain ⟨message, hpayload, hheader⟩ := Request.decode_header h
  have hmessageId : request.header.messageId.toNat = request.messageId := by
    have hmod : request.messageId % 2 ^ 64 = request.messageId := Nat.mod_eq_of_lt hid
    cases hbody : request.body <;>
      simpa [Request.header, hbody, treeHeader] using hmod
  have hcharge : request.header.creditCharge = request.charge := by
    cases hbody : request.body <;> simp [Request.header, hbody, treeHeader]
  rw [frameIds, hpayload]
  dsimp only
  rw [hheader]
  dsimp only
  rw [hmessageId, hcharge]

/-! ## The tally of a run -/

/-- In an ordered tally every request begins above those before it. -/
theorem ordered_foldl {es : List (Event Wire)} {t : Tally}
    (h : (es.foldl Tally.after t).ordered = true) :
    t.ordered = true ∧
      (∀ sent ∈ sentRequests es, t.next ≤ sent.request.messageId) ∧
      (sentRequests es).Pairwise fun a b =>
        a.request.messageId + max 1 a.request.charge.toNat ≤ b.request.messageId := by
  induction es generalizing t with
  | nil => exact ⟨h, by simp [sentRequests], .nil⟩
  | cons e es ih =>
    obtain ⟨hordered, hnext, hpairwise⟩ := ih h
    obtain ⟨op, ans⟩ := e
    cases op with
    | exchange sent context =>
      rw [Tally.after_exchange, Tally.send_ordered, Bool.and_eq_true, decide_eq_true_eq] at hordered
      rw [Tally.after_exchange, Tally.send_next] at hnext
      refine ⟨hordered.1, ?_, ?_⟩
      · intro sent' hsent'
        obtain rfl | htail := List.mem_cons.1 hsent'
        · exact hordered.2
        · have := hnext sent' htail
          omega
      · exact .cons (fun sent' htail => hnext sent' htail) hpairwise
    | isCancelled asker => exact ⟨hordered, hnext, hpairwise⟩
    | progress p => exact ⟨hordered, hnext, hpairwise⟩
    | enter call => exact ⟨hordered, hnext, hpairwise⟩

/-- A run is accounted for when all its calls are, the current one to its end. -/
theorem accounted_foldl {es : List (Event Wire)} {t : Tally} (hsettled : t.settled)
    (hcurrent : ∀ call, t.call = some call → Accounted call (t.log.upTo es))
    (hcalls : ∀ c ∈ callLogs es, Accounted c.1 c.2) :
    (es.foldl Tally.after t).accounted := by
  induction es generalizing t with
  | nil =>
    refine ⟨hsettled, ?_⟩
    rw [List.foldl_nil, Tally.callAccounted]
    cases hcall : t.call with
    | none => trivial
    | some call => exact hcurrent call hcall
  | cons e es ih =>
    obtain ⟨op, ans⟩ := e
    cases op with
    | exchange sent context => exact ih hsettled hcurrent hcalls
    | isCancelled asker => exact ih hsettled hcurrent hcalls
    | progress p => exact ih hsettled hcurrent hcalls
    | enter call =>
      have hnow : t.accounted := by
        refine ⟨hsettled, ?_⟩
        rw [Tally.callAccounted]
        cases hcall : t.call with
        | none => trivial
        | some c => exact hcurrent c hcall
      refine ih hnow ?_ fun c hc => hcalls c (List.mem_cons_of_mem _ hc)
      rintro c ⟨⟩
      exact hcalls _ List.mem_cons_self

/-- The requests of a run whose calls are accounted for are in order. -/
theorem SessionRuns.ordered {session : Session} {es : List (Event Wire)}
    (hrun : SessionRuns session es) {t : Tally} (howed : Owed session t)
    (hacc : (es.foldl Tally.after t).accounted) : (es.foldl Tally.after t).ordered = true := by
  induction hrun generalizing t with
  | nil => exact (howed hacc).1
  | @operation session session' es es' r fuel context operation hrun hended _ ih =>
    rw [List.foldl_append] at hacc ⊢
    have hkept : Kept r session' (es.foldl Tally.after t) :=
      (operation.keeps_run fuel context _ t howed).tracked hrun
    exact ih (hkept.2 hended) hacc
  | @unfinished session session' es fuel context operation hrun =>
    have hkept : Kept (.error .unfinished : Except Exn Unit) session' (es.foldl Tally.after t) :=
      (operation.keeps_run fuel context _ t howed).tracked hrun
    exact hkept.1 hacc

/-- An environment that plays back the replies to its requests and the looks at
    the cancellation token, and fails every request after them. -/
def playback : Handler Wire (List (DecodeResult ByteVector) × List Bool)
  | (replies, looks), .exchange .. =>
    (replies.headD (failure .networkError "disconnected"), replies.tail, looks)
  | (replies, looks), .isCancelled _ => (looks.headD false, replies, looks.tail)
  | state, .progress _ => ((), state)
  | state, .enter _ => ((), state)

/-- An operation played back: its events, what it returns and the session it
    leaves. -/
def played (operation : SessionOperation) (context : OperationContext) (session : Session)
    (state : List (DecodeResult ByteVector) × List Bool) :
    List (Event Wire) × (Except Exn Unit × Session) ×
      (List (DecodeResult ByteVector) × List Bool) :=
  ((operation.run 1 context).run.run session).serve playback state

theorem SessionRuns.played {session session' : Session} {run} {es : List (Event Wire)}
    {r : Except Exn Unit} (hend : run.2.1 = (r, session')) (hended : r ≠ .error .unfinished)
    (hrest : SessionRuns session' es)
    (hplay : ∃ operation context state, Native.played operation context session state = run) :
    SessionRuns session (run.1 ++ es) := by
  obtain ⟨operation, context, state, rfl⟩ := hplay
  have hrun := Program.runs_serve playback ((operation.run 1 context).run.run session) state
  rw [show (((operation.run 1 context).run.run session).serve playback state).2.1 = (r, session')
    from hend] at hrun
  exact .operation 1 context operation hrun hended hrest

/-- A response with a success status. -/
def successReply (command : Command) (body : ByteVector) : ByteVector :=
  0 :: beBytes 3 (kSmb2HeaderSize + body.length) ++
    (encodeSmb2SyncHeader { command, flags := kFlagServerToRedir } ++ body)

end SmbBrowser.Native
