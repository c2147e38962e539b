import SmbBrowser.Client.NativeSmbClient
import SmbBrowser.Native.Traces

/-!
# What passes between the client and its surroundings

The exchanges of the sessions and the calls of the local file in a run of the client, in
the order they were made, and rules for the runs that end in a success.

Results:
* `meetsS_onSession`: a method of a session, by what passes in it;
* `Achieves.run`: what has passed in a run that ends in a success.
-/

namespace SmbBrowser.Client

open SmbBrowser.Base SmbBrowser.Qt SmbBrowser.Native
open SmbBrowser.Core (Connection Result AppError RemoteFileEntry)

/-- One thing that passed. -/
inductive ClientTrace where
  | native (side : Side) (passed : Trace)
  | openedLocal (file : ByteVector)
  | wroteLocal (data : ByteVector)

/-- What has passed after one more event. -/
def ClientTrace.after (trace : List ClientTrace) (e : Event ClientWire) : List ClientTrace :=
  match e with
  | ⟨.native side op, ans⟩ => trace ++ (Trace.after [] ⟨op, ans⟩).map (.native side)
  | ⟨.openLocal _, .ok file⟩ => trace ++ [.openedLocal file]
  | ⟨.writeLocal data, .ok ()⟩ => trace ++ [.wroteLocal data]
  | _ => trace

/-- What passed in a run. -/
def clientTraceOf (es : List (Event ClientWire)) : List ClientTrace :=
  es.foldl ClientTrace.after []

/-- The environment that records what passes. -/
abbrev Recorded : Contract ClientWire (List ClientTrace) := .tracking ClientTrace.after

variable {α β T : Type} {sessions : Sessions} {trace : List ClientTrace}
  {context : OperationContext}

/-! ## Sessions -/

@[simp] theorem Sessions.get_set (sessions : Sessions) (session : Session) (side : Side) :
    (sessions.set session side).get side = session := by
  cases side <;> rfl

@[simp] theorem Sessions.set_set (sessions : Sessions) (session session' : Session) (side : Side) :
    (sessions.set session side).set session' side = sessions.set session' side := by
  cases side <;> rfl

/-! ## Events -/

theorem trace_after (trace : List Trace) (e : Event Wire) :
    Trace.after trace e = trace ++ Trace.after [] e := by
  obtain ⟨op, ans⟩ := e
  cases op with
  | exchange => rfl
  | progress => rfl
  | isCancelled => exact (List.append_nil trace).symm
  | enter => exact (List.append_nil trace).symm

theorem foldl_trace (trace : List Trace) (es : List (Event Wire)) :
    es.foldl Trace.after trace = trace ++ traceOf es := by
  induction es generalizing trace with
  | nil => exact (List.append_nil trace).symm
  | cons e es ih =>
    rw [traceOf, List.foldl_cons, List.foldl_cons, ih, ih (Trace.after [] e), trace_after trace,
      List.append_assoc]

theorem traceOf_cons (e : Event Wire) (es : List (Event Wire)) :
    traceOf (e :: es) = Trace.after [] e ++ traceOf es := by
  rw [traceOf, List.foldl_cons, foldl_trace]

/-- The events of a method leave what passed in it. -/
theorem foldl_native (side : Side) (trace : List ClientTrace) (es : List (Event Wire)) :
    (es.map (nativeQuestions side).event).foldl ClientTrace.after trace =
      trace ++ (traceOf es).map (.native side) := by
  induction es generalizing trace with
  | nil => exact (List.append_nil trace).symm
  | cons e es ih =>
    rw [List.map_cons, List.foldl_cons, ih, traceOf_cons, List.map_append, ← List.append_assoc]
    rfl

/-! ## Programs of the client -/

/-- A method of a session, by what it meets with nothing passed before it. -/
theorem meetsS_onSession {side : Side} {method : SessionM α}
    {Q : Except Exn α → Sessions → List ClientTrace → Prop}
    (h : MeetsS Traced method (fun r session' passed =>
      Q r (sessions.set session' side) (trace ++ passed.map (.native side))) (sessions.get side) []) :
    MeetsS Recorded (ClientM.onSession side method) Q sessions trace := by
  show Meets Recorded (Program.bind _ _) _ trace
  rw [meets_bind, meets_tracking_iff]
  rintro es ⟨r, session'⟩ hrun
  obtain ⟨es', rfl, hrun'⟩ := runs_embed.1 hrun
  rw [foldl_native]
  exact Meets.tracked h hrun'

theorem meetsS_ask {op : ClientOp} {Q : Except Exn (ClientWire.Ans op) → Sessions →
    List ClientTrace → Prop} (h : ∀ ans, Q (.ok ans) sessions (ClientTrace.after trace ⟨op, ans⟩)) :
    MeetsS Recorded (ClientM.ask op) Q sessions trace := by
  refine meets_tracking_ask.2 fun ans => ?_
  exact h ans

theorem meetsS_cancelled {Q : Except Exn Bool → Sessions → List ClientTrace → Prop}
    (h : ∀ b, Q (.ok b) sessions trace) :
    MeetsS Recorded (ClientM.cancelled context) Q sessions trace := by
  rw [ClientM.cancelled]
  split
  · exact meetsS_ask fun ans => h ans
  · exact h false

theorem meetsS_reportProgress {bytesTransferred totalBytes : ℕ}
    {Q : Except Exn Unit → Sessions → List ClientTrace → Prop} (h : Q (.ok ()) sessions trace) :
    MeetsS Recorded (ClientM.reportProgress bytesTransferred totalBytes context) Q sessions
      trace := by
  rw [ClientM.reportProgress]
  split
  · exact meetsS_ask fun _ => h
  · exact h

/-! ## Runs that end in a success -/

/-- After this trace, an operation that returns a success leaves what satisfies `P`. -/
structure Achieves [Inhabited T] (p : ClientM (Result T)) (P : T → List ClientTrace → Prop)
    (sessions : Sessions) (trace : List ClientTrace) : Prop where
  meets : MeetsS Recorded p (fun r _ trace => ∀ result, r = .ok result → result.ok = true →
    P result.value trace) sessions trace

namespace Achieves

variable [Inhabited T] {P : T → List ClientTrace → Prop}

theorem success {value : T} (h : P value trace) :
    Achieves (pure (.success value)) P sessions trace := by
  refine ⟨?_⟩
  rintro _ ⟨⟩ -
  exact h

/-- A failure counts as a success when it carries `ErrorCode::None`. -/
theorem failure {error : AppError} (h : error.code = .none → P default trace) :
    Achieves (pure (Result.failure error : Result T)) P sessions trace := by
  refine ⟨?_⟩
  rintro _ ⟨⟩ hok
  by_cases hcode : error.code = .none
  · exact h hcode
  · simp [Result.ok, Result.failure, AppError.hasError, hcode] at hok

theorem throw (e : Exn) : Achieves (throw e : ClientM (Result T)) P sessions trace := by
  refine ⟨?_⟩
  rintro _ ⟨⟩

/-- A program that starts with another one, by what that leaves. -/
theorem bind {p : ClientM α} {f : α → ClientM (Result T)}
    {R : α → Sessions → List ClientTrace → Prop}
    (hp : MeetsS Recorded p (fun r sessions' trace' => ∀ a, r = .ok a → R a sessions' trace')
      sessions trace)
    (hf : ∀ a sessions' trace', R a sessions' trace' → Achieves (f a) P sessions' trace') :
    Achieves (p >>= f) P sessions trace := by
  refine ⟨MeetsS.bind hp ?_ ?_⟩
  · intro a sessions' trace' h
    exact (hf a sessions' trace' (h a rfl)).meets
  · rintro e sessions' trace' - _ ⟨⟩

/-- A run of the operation, by what passed in it. -/
theorem run {p : ClientM (Result T)} (h : Achieves p P sessions []) {es : List (Event ClientWire)}
    {result : Result T} {sessions' : Sessions}
    (hrun : Program.Runs (p.run.run sessions) es (.ok result, sessions'))
    (hok : result.ok = true) : P result.value (clientTraceOf es) :=
  Meets.tracked h.meets hrun result rfl hok

end Achieves

end SmbBrowser.Client
