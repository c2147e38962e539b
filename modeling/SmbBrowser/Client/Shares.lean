import SmbBrowser.Client.Traces
import SmbBrowser.Native.CopyCalls

/-!
# The client between two shares

The surroundings of an operation of the client: the share of the source and that of the
target, which may be one, on file servers, and the local file.

Results:
* `meetsS_onSession`: a method of a session, by what it does to the share of its side;
* `Ends`: how an operation ends.
-/

namespace SmbBrowser.Client

open SmbBrowser.Base SmbBrowser.Qt SmbBrowser.Native
open SmbBrowser.Core (Connection Result AppError)

/-! ## Surroundings -/

/-- The file servers of an operation, whether they serve the same share, and the local
    file, whose size is a `qint64`. -/
structure Surroundings where
  source : FileServer
  target : FileServer
  shared : Bool := false
  file : ByteVector := []
  same : shared = true → target = source
  small : file.length < 2 ^ 63

/-- The shares.  Where both sides have one share it is that of the source. -/
structure Shares where
  source : ServerState
  target : ServerState

namespace Surroundings

variable (net : Surroundings)

def server : Side → FileServer
  | .source => net.source
  | .target => net.target

/-- The share of a side. -/
def share : Side → Part Shares ServerState
  | .source => {
    get := Shares.source
    set w s := { w with source := s }
    get_set _ _ := rfl
    set_get _ := rfl
    set_set _ _ _ := rfl }
  | .target => {
    get w := if net.shared then w.source else w.target
    set w s := if net.shared then { w with source := s } else { w with target := s }
    get_set w s := by cases net.shared <;> rfl
    set_get w := by cases net.shared <;> rfl
    set_set w s s' := by cases net.shared <;> rfl }

/-- The servers answer the sessions, and what is not asked of a session leaves the shares as
    they are.  A connection that fails says why, and the local file is what it is. -/
def contract : Contract ClientWire Shares where
  allows w op :=
    match op with
    | .native side op => ((net.server side).serves.on (net.share side)).allows w op
    | _ => True
  step w e w' :=
    match e with
    | ⟨.native side op, ans⟩ => ((net.server side).serves.on (net.share side)).step w ⟨op, ans⟩ w'
    | ⟨.connect .., .error e⟩ => e.code ≠ .none ∧ w' = w
    | ⟨.openLocal _, .ok file⟩ => file = net.file ∧ w' = w
    | _ => w' = w

end Surroundings

section

variable {net : Surroundings} {w : Shares} {sessions : Sessions} {context : OperationContext}
  {side : Side} {α : Type}

/-- A method of a session, by what it does to the share of its side. -/
theorem serves_onSession {method : SessionM α} {Q : Except Exn α → Sessions → Shares → Prop}
    (h : MeetsS (net.server side).serves method (fun r session' s' =>
      Q r (sessions.set session' side) ((net.share side).set w s')) (sessions.get side)
      ((net.share side).get w)) :
    MeetsS net.contract (ClientM.onSession side method) Q sessions w := by
  have hpull : (nativeQuestions side).pull net.contract =
      (net.server side).serves.on (net.share side) := rfl
  show Meets net.contract (Program.bind _ _) _ w
  rw [meets_bind, meets_embed, hpull]
  exact meets_on h

theorem serves_ask {op : ClientOp} {Q : Except Exn (ClientWire.Ans op) → Sessions → Shares → Prop}
    (hallows : net.contract.allows w op)
    (h : ∀ ans w', net.contract.step w ⟨op, ans⟩ w' → Q (.ok ans) sessions w') :
    MeetsS net.contract (ClientM.ask op) Q sessions w :=
  ⟨hallows, h⟩

theorem serves_cancelled {Q : Except Exn Bool → Sessions → Shares → Prop}
    (h : ∀ b, Q (.ok b) sessions w) : MeetsS net.contract (ClientM.cancelled context) Q sessions w := by
  rw [ClientM.cancelled]
  split
  · refine serves_ask trivial ?_
    rintro b _ rfl
    exact h b
  · exact h false

theorem serves_reportProgress {done total : ℕ} {Q : Except Exn Unit → Sessions → Shares → Prop}
    (h : Q (.ok ()) sessions w) :
    MeetsS net.contract (ClientM.reportProgress done total context) Q sessions w := by
  rw [ClientM.reportProgress]
  split
  · refine serves_ask trivial ?_
    rintro ⟨⟩ _ rfl
    exact h
  · exact h

theorem serves_openNativeConnection {connection : Connection} :
    MeetsS net.contract (openNativeConnection side connection context)
      (fun r _ w' => w' = w ∧ ∃ a, r = .ok a ∧ ∀ e, a = .error e → e.code ≠ .none) sessions w := by
  rw [openNativeConnection]
  refine meetsS_bind.2 (serves_cancelled ?_)
  rintro (_ | _)
  · refine meetsS_bind.2 (serves_ask trivial ?_)
    rintro (e | connected) w' hstep
    · obtain ⟨hcode, rfl⟩ := hstep
      refine ⟨rfl, _, rfl, ?_⟩
      rintro _ ⟨⟩
      exact hcode
    · have hsame : w' = w := hstep
      exact ⟨hsame, _, rfl, by rintro e ⟨⟩⟩
  · refine ⟨rfl, _, rfl, ?_⟩
    rintro _ ⟨⟩
    decide

/-- A program that starts with opening a connection. -/
theorem serves_connected {connection : Connection} {f : DecodeResult Unit → ClientM α}
    {Q : Except Exn α → Sessions → Shares → Prop}
    (herror : ∀ e sessions', e.code ≠ .none → MeetsS net.contract (f (.error e)) Q sessions' w)
    (hok : ∀ sessions', MeetsS net.contract (f (.ok ())) Q sessions' w) :
    MeetsS net.contract (openNativeConnection side connection context >>= f) Q sessions w := by
  refine meetsS_bind.2 (serves_openNativeConnection.mono ?_)
  rintro _ sessions₁ w₁ ⟨rfl, e | ⟨⟩, rfl, hcode⟩
  · exact herror e sessions₁ (hcode e rfl)
  · exact hok sessions₁

/-! ## How operations end -/

theorem failure_not_ok {error : AppError} (hcode : error.code ≠ .none) :
    (Result.failure error : Result Bool).ok = false := by
  simp [Result.ok, Result.failure, AppError.hasError, hcode]

/-- A failure of a session is a failure of the operation. -/
theorem failed_not_ok {texts : Texts} {e : ProtocolError} (hcode : e.code ≠ .none) :
    (failed texts side e : Result Bool).ok = false := by
  refine failure_not_ok ?_
  show nativeToCoreError e.code ≠ .none
  cases hcore : e.code <;> first | exact absurd hcore hcode | rintro ⟨⟩

/-- How an operation ends: what holds in any case, and what a success says. -/
structure Ends (always done : Shares → Prop) (r : Except Exn (Result Bool)) (w : Shares) : Prop where
  always : always w
  success : ∀ result, r = .ok result → result.ok = true → done w

namespace Ends

variable {always done : Shares → Prop}

theorem of_throw {e : Exn} (h : always w) : Ends always done (.error e) w :=
  ⟨h, by rintro result ⟨⟩⟩

theorem of_success {b : Bool} (h : always w) (hdone : done w) :
    Ends always done (.ok (.success b)) w :=
  ⟨h, fun _ _ _ => hdone⟩

theorem of_failure {result : Result Bool} (h : always w) (hok : result.ok = false) :
    Ends always done (.ok result) w := by
  refine ⟨h, ?_⟩
  rintro _ ⟨⟩ hsuccess
  rw [hok] at hsuccess
  cases hsuccess

end Ends

end

end SmbBrowser.Client
