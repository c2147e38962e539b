import SmbBrowser.Native.ExchangeRules

/-!
# What passes between the client and its surroundings

The exchanges and progress reports of a run, without the looks at the
cancellation token and the marks of the log, and rules for what the runs that
return a value have exchanged.

Results:
* `Establishes.exchangePayload`, `Establishes.exchangeResponse`: one request of a
  helper, by its reply;
* `EstablishesS`: the same for the methods of a session.
-/

namespace SmbBrowser.Native

open SmbBrowser.Base

/-- One thing that passed. -/
inductive Trace where
  | exchanged (request : Request) (reply : DecodeResult ByteVector)
  | reported (progress : TransferProgress)

/-- What has passed after one more event. -/
def Trace.after (trace : List Trace) : Event Wire → List Trace
  | ⟨.exchange sent _, reply⟩ => trace ++ [.exchanged sent.request reply]
  | ⟨.progress progress, _⟩ => trace ++ [.reported progress]
  | ⟨.isCancelled _, _⟩ => trace
  | ⟨.enter _, _⟩ => trace

/-- What passed in a run. -/
def traceOf (es : List (Event Wire)) : List Trace := es.foldl Trace.after []

/-- The environment that records what passes. -/
abbrev Traced : Contract Wire (List Trace) := .tracking Trace.after

variable {α β : Type} {trace : List Trace} {request : Request} {context : OperationContext}

theorem looked_trace (asker : Asker) : looked Trace.after asker context trace = trace := by
  unfold looked
  split <;> rfl

/-- A recording environment asks for nothing. -/
theorem meets_traced {I : Interface} {S : Type} {after : S → Event I → S} (p : Program I α)
    (s : S) : Meets (.tracking after) p (fun _ _ => True) s := by
  induction p generalizing s with
  | pure a => trivial
  | ask op k ih => exact meets_tracking_ask.2 fun ans => ih ans _

/-! ## Helpers -/

/-- After this trace, what a helper returns without an error satisfies `P`. -/
structure Establishes (p : Prog (DecodeResult α)) (P : α → List Trace → Prop)
    (trace : List Trace) : Prop where
  meets : MeetsE Traced p (fun r trace => ∀ a, r = .ok (.ok a) → P a trace) trace

namespace Establishes

variable {P : α → List Trace → Prop}

theorem ok {a : α} (h : P a trace) : Establishes (pure (.ok a)) P trace := by
  refine ⟨?_⟩
  rintro b ⟨⟩
  exact h

theorem error {r : DecodeResult α} {e : ProtocolError} (h : r = .error e) :
    Establishes (pure r) P trace := by
  subst h
  refine ⟨?_⟩
  rintro b ⟨⟩

theorem throw (e : Exn) : Establishes (throw e) P trace := by
  refine ⟨?_⟩
  rintro b ⟨⟩

theorem mono {P' : α → List Trace → Prop} {p : Prog (DecodeResult α)}
    (h : Establishes p P trace) (hP : ∀ a trace, P a trace → P' a trace) :
    Establishes p P' trace :=
  ⟨MeetsE.mono h.meets fun _ m hr a ha => hP a m (hr a ha)⟩

/-- `if (isCancelled(context)) { return failure; }`. -/
theorem look {asker : Asker} {r : DecodeResult α} {e : ProtocolError}
    {rest : Prog (DecodeResult α)} (hr : r = .error e) (h : Establishes rest P trace) :
    Establishes (isCancelled asker context >>= fun b => if b = true then pure r else rest)
      P trace := by
  subst hr
  refine ⟨tracked_look ?_ ?_⟩
  · rintro - a ⟨⟩
  · rw [looked_trace]
    exact h.meets

/-- A helper that starts with another one. -/
theorem bind {p : Prog (DecodeResult β)} {f : DecodeResult β → Prog (DecodeResult α)}
    {P' : β → List Trace → Prop} (h : Establishes p P' trace)
    (hok : ∀ b trace, P' b trace → Establishes (f (.ok b)) P trace)
    (herror : ∀ e trace, Establishes (f (.error e)) P trace) :
    Establishes (p >>= f) P trace := by
  refine ⟨MeetsE.bind h.meets ?_ ?_⟩
  · rintro (e | b) m hb
    · exact (herror e m).meets
    · exact (hok b m (hb b rfl)).meets
  · rintro e m - a ⟨⟩

theorem exchangePayload (request : Request) (context : OperationContext) :
    Establishes (exchangePayload request context) (fun payload trace' =>
      ∃ reply, replyPayload reply = .ok payload ∧ trace' = trace ++ [.exchanged request reply])
      trace := by
  refine ⟨exchangePayload_meets ?_ ?_⟩
  · rintro e - a ⟨⟩
  · rintro sent rfl
    refine ⟨trivial, ?_⟩
    rintro reply m rfl
    refine ⟨?_, ?_⟩
    · rintro payload hpayload a ⟨⟩
      exact ⟨reply, hpayload, rfl⟩
    · rintro - e a ⟨⟩

theorem exchangeResponse (cancelled : String) (decode : ByteVector → DecodeResult α)
    (request : Request) (context : OperationContext) :
    Establishes (exchangeResponse cancelled decode request context) (fun a trace' =>
      ∃ reply, decodedReply decode reply = .ok a ∧ trace' = trace ++ [.exchanged request reply])
      trace := by
  refine ⟨tracked_exchangeResponse ?_ ?_ ?_⟩
  · rintro - e a ⟨⟩
  · rintro e - a ⟨⟩
  · rw [looked_trace]
    rintro sent rfl reply
    refine ⟨?_, ?_⟩
    · rintro e - e' a ⟨⟩
    · rintro frame rfl
      simp only [looked_trace]
      refine ⟨?_, ?_, ?_⟩
      · rintro - e a ⟨⟩
      · rintro b hb a ⟨⟩
        exact ⟨_, hb, rfl⟩
      · rintro - e a ⟨⟩

theorem openFile (messageId : ℕ) (treeId : UInt32) (sessionId : UInt64)
    (context : OperationContext) (options : CreateRequestOptions) :
    Establishes (openFile messageId treeId sessionId context options) (fun create trace' =>
      ∃ reply, decodedReply decodeCreateResponse reply = .ok create ∧
        trace' = trace ++ [.exchanged ⟨.create options, messageId, treeId, sessionId⟩ reply])
      trace := by
  refine (exchangePayload _ context).bind ?_ fun e _ => error rfl
  rintro payload _ ⟨reply, hpayload, rfl⟩
  refine ⟨?_⟩
  rintro create hcreate
  exact ⟨reply, decodedReply_eq_ok.2 ⟨payload, hpayload, Except.ok.inj hcreate⟩, rfl⟩

theorem ioctl (messageId : ℕ) (treeId : UInt32) (sessionId : UInt64)
    (context : OperationContext) (options : IoctlRequestOptions) :
    Establishes (ioctl messageId treeId sessionId context options) (fun response trace' =>
      ∃ reply, decodedReply decodeIoctlResponse reply = .ok response ∧
        trace' = trace ++ [.exchanged ⟨.ioctl options, messageId, treeId, sessionId⟩ reply])
      trace := by
  refine (exchangePayload _ context).bind ?_ fun e _ => error rfl
  rintro payload _ ⟨reply, hpayload, rfl⟩
  refine ⟨?_⟩
  rintro response hresponse
  exact ⟨reply, decodedReply_eq_ok.2 ⟨payload, hpayload, Except.ok.inj hresponse⟩, rfl⟩

end Establishes

/-- An exchanger sends its request or nothing, whatever it returns. -/
theorem sends_exchangeResponse (cancelled : String) (decode : ByteVector → DecodeResult α)
    (request : Request) (context : OperationContext) (trace : List Trace) :
    MeetsE Traced (exchangeResponse cancelled decode request context) (fun _ trace' =>
      trace' = trace ∨ ∃ reply, trace' = trace ++ [.exchanged request reply]) trace := by
  refine tracked_exchangeResponse ?_ ?_ ?_
  · rintro - e
    exact .inl rfl
  · rintro e -
    rw [looked_trace]
    exact .inl rfl
  · rw [looked_trace]
    rintro sent rfl reply
    refine ⟨?_, ?_⟩
    · rintro e - e'
      exact .inr ⟨reply, rfl⟩
    · rintro frame -
      simp only [looked_trace]
      refine ⟨?_, ?_, ?_⟩
      · rintro - e
        exact .inr ⟨reply, rfl⟩
      · rintro b -
        exact .inr ⟨reply, rfl⟩
      · rintro - e
        exact .inr ⟨reply, rfl⟩

/-- What one request leaves: a value read from its reply or a reply that cannot be read;
    a client that was cancelled may also leave nothing. -/
def Answers (decode : ByteVector → DecodeResult α) (request : Request) (trace : List Trace)
    (r : DecodeResult α) (trace' : List Trace) : Prop :=
  match r with
  | .ok a => ∃ reply, decodedReply decode reply = .ok a ∧
      trace' = trace ++ [.exchanged request reply]
  | .error e => e.code = .cancelled ∨ ∃ reply, (∀ a, decodedReply decode reply ≠ .ok a) ∧
      trace' = trace ++ [.exchanged request reply]

theorem answers_exchangeResponse (cancelled : String) (decode : ByteVector → DecodeResult α)
    (request : Request) (context : OperationContext) (trace : List Trace) :
    MeetsE Traced (exchangeResponse cancelled decode request context)
      (fun r trace' => ∀ a, r = .ok a → Answers decode request trace a trace') trace := by
  rw [exchangeResponse]
  refine tracked_look ?_ ?_
  · rintro - a ⟨⟩
    exact .inl rfl
  rw [looked_trace]
  refine meetsE_bind.2 (exchangeFrame_meets ?_ ?_)
  · rintro e - a ⟨⟩
  rintro sent rfl
  refine ⟨trivial, ?_⟩
  rintro reply m rfl
  cases reply with
  | error e =>
    rintro a ⟨⟩
    refine .inr ⟨_, ?_, rfl⟩
    rintro a ⟨⟩
  | ok frame =>
    refine tracked_look ?_ ?_
    · rintro - a ⟨⟩
      exact .inl rfl
    rw [looked_trace]
    have hpayload : replyPayload (.ok frame) = decodeDirectTcpPayload frame := rfl
    cases hmessage : decodeDirectTcpPayload frame with
    | error e =>
      rintro a ⟨⟩
      refine .inr ⟨_, ?_, rfl⟩
      intro a ha
      rw [decodedReply, hpayload, hmessage] at ha
      cases ha
    | ok payload =>
      dsimp only
      cases hresult : decode payload with
      | error e =>
        rintro a ⟨⟩
        refine .inr ⟨_, ?_, rfl⟩
        intro a ha
        rw [decodedReply, hpayload, hmessage] at ha
        cases hresult.symm.trans ha
      | ok a =>
        rintro _ ⟨⟩
        refine ⟨_, ?_, rfl⟩
        rw [decodedReply, hpayload, hmessage]
        exact hresult

/-- A CREATE leaves a reply, which can be read or not. -/
theorem answers_openFile (messageId : ℕ) (treeId : UInt32) (sessionId : UInt64)
    (context : OperationContext) (options : CreateRequestOptions) (trace : List Trace) :
    MeetsE Traced (openFile messageId treeId sessionId context options)
      (fun r trace' => ∀ a, r = .ok a → ∃ reply,
        trace' = trace ++ [.exchanged ⟨.create options, messageId, treeId, sessionId⟩ reply] ∧
        (∀ create, a = .ok create → decodedReply decodeCreateResponse reply = .ok create) ∧
        ∀ e, a = .error e → ∀ create, decodedReply decodeCreateResponse reply ≠ .ok create)
      trace := by
  refine openFile_meets ?_ ?_
  · rintro e - a ⟨⟩
  intro sent hsent
  rw [← hsent]
  refine ⟨trivial, ?_⟩
  rintro reply m rfl
  refine ⟨?_, ?_⟩
  · rintro create hcreate a ⟨⟩
    refine ⟨reply, rfl, ?_, ?_⟩
    · rintro _ ⟨⟩
      exact hcreate
    · rintro e ⟨⟩
  · rintro hnone e a ⟨⟩
    refine ⟨reply, rfl, ?_, ?_⟩
    · rintro _ ⟨⟩
    · rintro e' -
      exact hnone

/-! ## Methods of a session -/

/-- After this trace, what a method returns without an error satisfies `P`. -/
structure EstablishesS (p : SessionM (DecodeResult α)) (P : α → Session → List Trace → Prop)
    (session : Session) (trace : List Trace) : Prop where
  meets : MeetsS Traced p (fun r session trace => ∀ a, r = .ok (.ok a) → P a session trace) session
    trace

namespace EstablishesS

variable {P : α → Session → List Trace → Prop} {session : Session}

theorem ok {a : α} (h : P a session trace) : EstablishesS (pure (.ok a)) P session trace := by
  refine ⟨?_⟩
  rintro b ⟨⟩
  exact h

theorem error {r : DecodeResult α} {e : ProtocolError} (h : r = .error e) :
    EstablishesS (pure r) P session trace := by
  subst h
  refine ⟨?_⟩
  rintro b ⟨⟩

theorem mono {P' : α → Session → List Trace → Prop} {p : SessionM (DecodeResult α)}
    (h : EstablishesS p P session trace)
    (hP : ∀ a session trace, P a session trace → P' a session trace) :
    EstablishesS p P' session trace :=
  ⟨MeetsS.mono h.meets fun _ session m hr a ha => hP a session m (hr a ha)⟩

/-- What a method does first, by what it leaves. -/
theorem bind {p : SessionM β} {f : β → SessionM (DecodeResult α)}
    {P' : Session → List Trace → Prop}
    (hp : MeetsS Traced p (fun _ session' trace' => P' session' trace') session trace)
    (hf : ∀ b session' trace', P' session' trace' → EstablishesS (f b) P session' trace') :
    EstablishesS (p >>= f) P session trace := by
  refine ⟨MeetsS.bind hp ?_ ?_⟩
  · intro b session' trace' h
    exact (hf b session' trace' h).meets
  · rintro e session' trace' - a ⟨⟩

/-- Whatever a method does first, an error is returned. -/
theorem then_error {p : SessionM β} {r : DecodeResult α} {e : ProtocolError} (h : r = .error e) :
    EstablishesS (p >>= fun _ => pure r) P session trace := by
  have hany : MeetsS Traced p (fun _ _ _ => True) session trace := meets_traced _ trace
  exact bind hany fun _ _ _ _ => error h

/-- A run of the method, by what passed in it. -/
theorem run {p : SessionM (DecodeResult α)} (h : EstablishesS p P session [])
    {es : List (Event Wire)} {a : α} {session' : Session}
    (hrun : Program.Runs (p.run.run session) es (.ok (.ok a), session')) :
    P a session' (traceOf es) :=
  Meets.tracked h.meets hrun a rfl

theorem enter {call : SessionCall} {f : Unit → SessionM (DecodeResult α)}
    (h : EstablishesS (f ()) P session trace) :
    EstablishesS (SessionM.enter call >>= f) P session trace := by
  refine ⟨meetsS_enter ⟨trivial, ?_⟩⟩
  rintro m rfl
  exact h.meets

theorem get {f : Session → SessionM (DecodeResult α)} (h : EstablishesS (f session) P session trace) :
    EstablishesS (MonadState.get >>= f) P session trace :=
  ⟨meetsS_sessionGet.2 h.meets⟩

theorem allocateMessageIds {count : ℕ} {f : ℕ → SessionM (DecodeResult α)}
    (h : EstablishesS (f session.nextMessageId) P
      { session with nextMessageId := session.nextMessageId + count } trace) :
    EstablishesS (allocateMessageIds count >>= f) P session trace :=
  ⟨meetsS_allocateMessageIds.2 h.meets⟩

theorem useMessageIds {count : ℕ} {f : Unit → SessionM (DecodeResult α)}
    (h : EstablishesS (f ()) P
      { session with nextMessageId := session.nextMessageId + count } trace) :
    EstablishesS (useMessageIds count >>= f) P session trace :=
  ⟨meetsS_bind.2 (meetsS_modify.2 h.meets)⟩

/-- A method that starts with a helper. -/
theorem withIds {messageId : ℕ} {helper : ℕ → UInt32 → UInt64 → Prog (DecodeResult β)}
    {f : DecodeResult β → SessionM (DecodeResult α)} {P' : β → List Trace → Prop}
    (h : Establishes (helper messageId session.treeId session.sessionId) P' trace)
    (hok : ∀ b trace, P' b trace → EstablishesS (f (.ok b)) P session trace)
    (herror : ∀ e trace, EstablishesS (f (.error e)) P session trace) :
    EstablishesS (SessionM.withIds messageId helper >>= f) P session trace := by
  refine ⟨meetsS_bind.2 (meetsS_withIds.2 (MeetsE.mono h.meets ?_))⟩
  rintro (e | (e | b)) m hb
  · rintro a ⟨⟩
  · exact (herror e m).meets
  · exact (hok b m (hb b rfl)).meets

/-- `if (context.progressCallback) { … }`. -/
theorem reportProgress {progress : TransferProgress} {f : Unit → SessionM (DecodeResult α)}
    (h : EstablishesS (f ()) P session
      (if context.reportsProgress = true then trace ++ [.reported progress] else trace)) :
    EstablishesS (SessionM.ofProg (reportProgress progress context) >>= f) P session trace := by
  refine ⟨meetsS_bind.2 (meetsS_ofProg.2 ?_)⟩
  rw [Native.reportProgress]
  by_cases hreports : context.reportsProgress = true
  · rw [if_pos hreports] at h ⊢
    exact meetsE_lift.2 (meets_tracking_ask.2 fun _ => h.meets)
  · rw [if_neg hreports] at h ⊢
    exact h.meets

/-- A buffer that can be built before the next step. -/
theorem built {x : Except Exn β} {b : β} {f : β → SessionM (DecodeResult α)} (hx : x = .ok b)
    (h : EstablishesS (f b) P session trace) :
    EstablishesS (SessionM.ofProg (Prog.ofExcept x) >>= f) P session trace := by
  subst hx
  exact ⟨h.meets⟩

/-- `if (isCancelled(context)) { … }`. -/
theorem look {p q : SessionM (DecodeResult α)} (hp : EstablishesS p P session trace)
    (hq : EstablishesS q P session trace) :
    EstablishesS (SessionM.cancelled context >>= fun b => if b = true then p else q) P session
      trace := by
  refine ⟨meetsS_bind.2 (meetsS_ofProg.2 (tracked_isCancelled ?_ ?_))⟩
  · rw [looked_trace]
    exact hq.meets
  · rintro -
    exact hp.meets

end EstablishesS

end SmbBrowser.Native
