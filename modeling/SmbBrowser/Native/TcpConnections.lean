import SmbBrowser.Native.DirectTcp

/-!
# The connections of the Direct TCP transport

`DirectTcpTransport` connects again when it has closed its socket.

Results:
* `logs_exchange`: what an exchange does to the TCP connections;
* `OverTcp.unbroken`: requests that are not sent after a failure share a connection;
* `runs_exchange`, `runs_exchange_timeout`: any frame may be answered, and any reply be late.
-/

namespace SmbBrowser.Native

open SmbBrowser.Base

/-! ## Counting connections -/

/-- How many TCP connections were opened, and whether the last attempt was refused. -/
structure TcpLog where
  opened : ℕ
  refused : Bool

def TcpLog.after (log : TcpLog) : Event Tcp → TcpLog
  | ⟨.connectSocket, (.ok () : DecodeResult Unit)⟩ => { log with opened := log.opened + 1 }
  | ⟨.connectSocket, (.error _ : DecodeResult Unit)⟩ => { log with refused := true }
  | _ => log

/-- The environment that counts the connections. -/
abbrev Logged : Contract Tcp TcpLog := .tracking TcpLog.after

section

variable {α β : Type} {connected : Bool} {log : TcpLog} {context : OperationContext}

/-- A program that neither connects nor closes. -/
def KeepsSocket (p : TcpM α) : Prop :=
  ∀ connected log,
    MeetsT Logged p (fun _ connected' log' => connected' = connected ∧ log' = log) connected log

theorem KeepsSocket.pure (a : α) : KeepsSocket (pure a : TcpM α) := by
  intro connected log
  exact ⟨rfl, rfl⟩

theorem KeepsSocket.bind {p : TcpM α} {f : α → TcpM β} (hp : KeepsSocket p)
    (hf : ∀ a, KeepsSocket (f a)) : KeepsSocket (p >>= f) := by
  intro connected log
  refine (hp connected log).bind ?_
  rintro a _ _ ⟨rfl, rfl⟩
  exact hf a _ _

theorem KeepsSocket.ask {op : TcpOp} (hop : op ≠ .connectSocket) : KeepsSocket (TcpM.ask op) := by
  intro connected log
  refine meets_tracking_ask.2 fun ans => ?_
  refine ⟨rfl, ?_⟩
  cases op with
  | connectSocket => exact absurd rfl hop
  | isCancelled => rfl
  | waitForSocket writable => rfl
  | send bytes => rfl
  | recv size => rfl
  | closeSocket => rfl

theorem KeepsSocket.cancelled : KeepsSocket (TcpM.cancelled context) := by
  rw [TcpM.cancelled]
  split
  · exact .ask (by decide)
  · exact .pure _

open DirectTcpTransport

theorem keepsSocket_sendAll (turns : ℕ) (bytes : ByteVector) :
    KeepsSocket (sendAll context turns bytes) := by
  induction turns generalizing bytes with
  | zero =>
    cases bytes with
    | nil => exact .pure _
    | cons byte bytes => exact .pure _
  | succ turns ih =>
    cases bytes with
    | nil => exact .pure _
    | cons byte bytes =>
      rw [sendAll]
      refine KeepsSocket.cancelled.bind fun cancelled => ?_
      split
      · exact .pure _
      refine (KeepsSocket.ask (by decide)).bind fun ready => ?_
      split
      · exact .pure _
      refine (KeepsSocket.ask (by simp)).bind fun sent => ?_
      split
      · split
        · exact .pure _
        · exact ih _
      · exact ih _
      · exact .pure _

theorem keepsSocket_receiveExact (turns remaining : ℕ) (received : ByteVector) :
    KeepsSocket (receiveExact context turns remaining received) := by
  induction turns generalizing remaining received with
  | zero =>
    cases remaining with
    | zero => exact .pure _
    | succ remaining => exact .pure _
  | succ turns ih =>
    cases remaining with
    | zero => exact .pure _
    | succ remaining =>
      rw [receiveExact]
      refine KeepsSocket.cancelled.bind fun cancelled => ?_
      split
      · exact .pure _
      refine (KeepsSocket.ask (by decide)).bind fun ready => ?_
      split
      · exact .pure _
      refine (KeepsSocket.ask (by simp)).bind fun bytes => ?_
      split
      · split
        · exact .pure _
        · exact ih _ _
      · exact ih _ _
      · exact .pure _

/-- What an exchange leaves: a socket if and only if it returns a reply; without a refusal
    the connection is the one there was or a new one. -/
structure ExchangeEnds (connected : Bool) (opened : ℕ) (r : DecodeResult ByteVector)
    (connected' : Bool) (log : TcpLog) : Prop where
  socket : connected' = true ↔ ∃ reply, r = .ok reply
  refused : log.refused = true → ∃ e, r = .error e
  opened : log.refused = false → log.opened = opened + if connected = true then 0 else 1

theorem logs_connectIfNeeded (connected : Bool) (opened : ℕ) :
    MeetsT Logged connectIfNeeded (fun r connected' log => match r with
      | .ok () => connected' = true ∧ log = ⟨opened + if connected = true then 0 else 1, false⟩
      | .error _ => connected' = false ∧ log = ⟨opened, true⟩) connected ⟨opened, false⟩ := by
  rw [connectIfNeeded, meetsT_bind, meetsT_get]
  cases connected with
  | true => exact ⟨rfl, rfl⟩
  | false =>
    refine meetsT_bind.2 (meets_tracking_ask.2 ?_)
    rintro (e | ⟨⟩)
    · exact ⟨rfl, rfl⟩
    · exact ⟨rfl, rfl⟩

theorem logs_closeAndFail {r : DecodeResult ByteVector} {e : ProtocolError} (hr : r = .error e)
    (opened : ℕ) (log : TcpLog) (hopened : log.opened = opened + if connected = true then 0 else 1) :
    MeetsT Logged (closeAndFail r) (ExchangeEnds connected opened) true log := by
  refine meets_tracking_ask.2 fun _ => ?_
  subst hr
  refine ⟨?_, fun _ => ⟨e, rfl⟩, fun _ => hopened⟩
  refine iff_of_false Bool.false_ne_true ?_
  rintro ⟨reply, ⟨⟩⟩

theorem logs_exchange (turns : ℕ) (requestFrame : ByteVector) (connected : Bool) (opened : ℕ) :
    MeetsT Logged (exchange turns requestFrame context) (ExchangeEnds connected opened) connected
      ⟨opened, false⟩ := by
  unfold exchange
  refine (logs_connectIfNeeded connected opened).bind ?_
  rintro (e | ⟨⟩) _ _ ⟨rfl, rfl⟩
  · refine ⟨?_, fun _ => ⟨_, rfl⟩, ?_⟩
    · refine iff_of_false Bool.false_ne_true ?_
      rintro ⟨reply, ⟨⟩⟩
    · rintro ⟨⟩
  refine (keepsSocket_sendAll turns requestFrame _ _).bind ?_
  rintro (e | ⟨⟩) _ _ ⟨rfl, rfl⟩
  · exact logs_closeAndFail rfl opened _ rfl
  refine (keepsSocket_receiveExact turns _ [] _ _).bind ?_
  rintro (e | header) _ _ ⟨rfl, rfl⟩
  · exact logs_closeAndFail rfl opened _ rfl
  dsimp only
  split
  · exact logs_closeAndFail rfl opened _ rfl
  refine (keepsSocket_receiveExact turns _ [] _ _).bind ?_
  rintro (e | payload) _ _ ⟨rfl, rfl⟩
  · exact logs_closeAndFail rfl opened _ rfl
  refine ⟨?_, ?_, fun _ => rfl⟩
  · exact iff_of_true rfl ⟨_, rfl⟩
  · rintro ⟨⟩

end

/-! ## Requests on their connections -/

/-- A request with the TCP connection it was handed to and what came of it. -/
structure SentOver where
  connection : ℕ
  frame : ByteVector
  reply : DecodeResult ByteVector

/-- Requests exchanged one after the other over a Direct TCP transport, by the connections
    they were handed to.  One that got no connection is not among them. -/
inductive OverTcp : Bool → ℕ → List (ByteVector × DecodeResult ByteVector) → List SentOver → Prop
    where
  | nil (connected : Bool) (opened : ℕ) : OverTcp connected opened [] []
  | cons {connected connected' : Bool} {opened turns : ℕ} {frame : ByteVector}
      {context : OperationContext} {es : List (Event Tcp)} {reply : DecodeResult ByteVector}
      {log : TcpLog} {rest : List (ByteVector × DecodeResult ByteVector)} {sent : List SentOver}
      (hrun : Program.Runs ((DirectTcpTransport.exchange turns frame context).run connected) es
        (reply, connected'))
      (hlog : log = es.foldl TcpLog.after ⟨opened, false⟩)
      (hrest : OverTcp connected' log.opened rest sent) :
      OverTcp connected opened ((frame, reply) :: rest)
        (if log.refused = true then sent else ⟨log.opened, frame, reply⟩ :: sent)

/-- Nothing is sent after an exchange that failed. -/
def Unbroken (exchanges : List (ByteVector × DecodeResult ByteVector)) : Prop :=
  ∀ exchange ∈ exchanges.dropLast, ∃ reply, exchange.2 = .ok reply

/-- The connection requests go to when nothing breaks it. -/
def onlyConnection (connected : Bool) (opened : ℕ) : ℕ := opened + if connected = true then 0 else 1

/-- **Requests that are not sent after a failure** share a connection, and are handed to it
    in their order. -/
theorem OverTcp.unbroken {connected : Bool} {opened : ℕ}
    {exchanges : List (ByteVector × DecodeResult ByteVector)} {sent : List SentOver}
    (h : OverTcp connected opened exchanges sent) (hunbroken : Unbroken exchanges) :
    (∀ x ∈ sent, x.connection = onlyConnection connected opened) ∧
      sent.map (fun x => (x.frame, x.reply)) <+: exchanges := by
  induction h with
  | nil connected opened => exact ⟨by simp, List.nil_prefix⟩
  | @cons connected connected' opened turns frame context es reply log rest sent hrun hlog hrest ih =>
    have hends : ExchangeEnds connected opened reply connected' log := by
      rw [hlog]
      exact (logs_exchange turns frame connected opened).tracked hrun
    cases rest with
    | nil =>
      cases hrest
      split
      · exact ⟨by simp, List.nil_prefix⟩
      · rename_i hrefused
        refine ⟨?_, List.prefix_rfl⟩
        intro x hx
        rw [List.mem_singleton] at hx
        rw [hx]
        exact hends.opened (by simpa using hrefused)
    | cons next rest =>
      obtain ⟨r, hr⟩ := hunbroken (frame, reply) List.mem_cons_self
      have hsocket : connected' = true := hends.socket.2 ⟨r, hr⟩
      have hrefused : log.refused = false := by
        by_contra hne
        obtain ⟨e, he⟩ := hends.refused (by simpa using hne)
        cases hr.symm.trans he
      have hopened : log.opened = onlyConnection connected opened := hends.opened hrefused
      have hrest' : Unbroken (next :: rest) := fun x hx => hunbroken x (List.mem_cons_of_mem _ hx)
      obtain ⟨hconnection, hprefix⟩ := ih hrest'
      have hsame : onlyConnection connected' log.opened = onlyConnection connected opened := by
        rw [← hopened, onlyConnection, hsocket, if_pos rfl, Nat.add_zero]
      rw [hrefused, if_neg (by decide)]
      refine ⟨?_, ?_⟩
      · intro x hx
        rcases List.mem_cons.1 hx with rfl | hx
        · exact hopened
        · rw [hconnection x hx, hsame]
      · rw [List.map_cons]
        exact (List.prefix_cons_inj _).2 hprefix

/-! ## Answered and late -/

section

variable {connected : Bool} {frame message : ByteVector}

open DirectTcpTransport

/-- A run that leaves the count of connections alone. -/
def RunsQuietly {α : Type} (p : TcpM α) (st : Bool) (a : α) : Prop :=
  ∃ es, Program.Runs (p.run st) es (a, st) ∧ ∀ log, es.foldl TcpLog.after log = log

theorem runsQuietly_sendAll (st : Bool) (hlen : frame.length ≤ kIntMax) :
    RunsQuietly (sendAll {} 1 frame) st (.ok ()) := by
  cases frame with
  | nil => exact ⟨[], .pure _, fun _ => rfl⟩
  | cons byte bytes =>
    refine ⟨[⟨.waitForSocket true, (.ok () : DecodeResult Unit)⟩,
      ⟨.send ((byte :: bytes).take kIntMax), (.done (bytes.length + 1) : SocketResult ℕ)⟩], ?_,
      fun _ => rfl⟩
    have hrest : (byte :: bytes).drop (bytes.length + 1) = [] := List.drop_length
    have hdone : Program.Runs ((sendAll {} 0 ((byte :: bytes).drop (bytes.length + 1))).run st) []
        (.ok (), st) := by
      rw [hrest]
      exact .pure _
    exact .ask _ (.ask _ hdone)

theorem runsQuietly_receiveExact (st : Bool) {bytes : ByteVector} {size : ℕ}
    (hsize : bytes.length = size) (hlen : size ≤ kIntMax) :
    RunsQuietly (receiveExact {} 1 size []) st (.ok bytes) := by
  subst hsize
  cases bytes with
  | nil => exact ⟨[], .pure _, fun _ => rfl⟩
  | cons byte bytes =>
    refine ⟨[⟨.waitForSocket false, (.ok () : DecodeResult Unit)⟩,
      ⟨.recv (min (bytes.length + 1) kIntMax), (.done (byte :: bytes) : SocketResult ByteVector)⟩],
      ?_, fun _ => rfl⟩
    have hdone : Program.Runs ((receiveExact {} 0 (bytes.length + 1 - (byte :: bytes).length)
        ([] ++ byte :: bytes)).run st) [] (.ok (byte :: bytes), st) := by
      rw [List.length_cons, Nat.sub_self]
      exact .pure _
    exact .ask _ (.ask _ hdone)

/-- A run of the part of an exchange that connects. -/
theorem runs_connectIfNeeded (connected : Bool) :
    ∃ es, Program.Runs (connectIfNeeded.run connected) es (.ok (), true) ∧ ∀ opened,
      es.foldl TcpLog.after ⟨opened, false⟩ = ⟨onlyConnection connected opened, false⟩ := by
  cases connected with
  | true => exact ⟨[], .pure _, fun _ => rfl⟩
  | false =>
    exact ⟨[⟨.connectSocket, (.ok () : DecodeResult Unit)⟩], .ask _ (.pure _), fun _ => rfl⟩

/-- Any frame may be answered with any message. -/
theorem runs_exchange (connected : Bool) (hframe : frame.length ≤ kIntMax)
    (hmessage : message.length ≤ 0x00FFFFFF) :
    ∃ es, Program.Runs ((exchange 1 frame {}).run connected) es (.ok (framed message), true) ∧
      ∀ opened, es.foldl TcpLog.after ⟨opened, false⟩ =
        ⟨onlyConnection connected opened, false⟩ := by
  have hmax : kIntMax = 2147483647 := rfl
  obtain ⟨es₁, hconnect, hopened⟩ := runs_connectIfNeeded connected
  obtain ⟨es₂, hsend, hsent⟩ := runsQuietly_sendAll true hframe
  obtain ⟨es₃, hheader, hquiet₃⟩ := runsQuietly_receiveExact true
    (length_lengthField message.length) (by rw [hmax]; decide)
  obtain ⟨es₄, hpayload, hquiet₄⟩ := runsQuietly_receiveExact true (show message.length = _ from rfl)
    (by omega)
  refine ⟨es₁ ++ (es₂ ++ (es₃ ++ (es₄ ++ []))), Program.runs_bind.2 ⟨es₁, _, _, rfl, hconnect,
    Program.runs_bind.2 ⟨es₂, _, _, rfl, hsend, Program.runs_bind.2 ⟨es₃, _, _, rfl, hheader, ?_⟩⟩⟩,
    ?_⟩
  · dsimp only
    rw [decodeDirectTcpPayloadLength_lengthField hmessage]
    exact Program.runs_bind.2 ⟨es₄, _, [], rfl, hpayload, .pure _⟩
  · intro opened
    simp only [List.foldl_append, hopened, hsent, hquiet₃, hquiet₄, List.foldl_nil]

/-- The reply to any frame may be too late. -/
theorem runs_exchange_timeout (hframe : frame.length ≤ kIntMax) :
    ∃ es, Program.Runs ((exchange 1 frame {}).run true) es
      (withRequestContext { code := .timeout, message := "SMB Direct TCP operation timed out." } frame,
        false) ∧ ∀ opened, es.foldl TcpLog.after ⟨opened, false⟩ = ⟨opened, false⟩ := by
  obtain ⟨es₂, hsend, hsent⟩ := runsQuietly_sendAll true hframe
  refine ⟨[] ++ (es₂ ++ [⟨.waitForSocket false, (timeoutResult : DecodeResult Unit)⟩,
    ⟨.closeSocket, ()⟩]), ?_, ?_⟩
  · exact Program.runs_bind.2 ⟨[], _, _, rfl, .pure _, Program.runs_bind.2 ⟨es₂, _, _, rfl, hsend,
      .ask _ (.ask _ (.pure _))⟩⟩
  · intro opened
    rw [List.nil_append, List.foldl_append, hsent]
    rfl

/-- A request that can be sent in one turn, answered with a message. -/
def Answered (x : ByteVector × DecodeResult ByteVector) : Prop :=
  x.1.length ≤ kIntMax ∧ ∃ message, message.length ≤ 0x00FFFFFF ∧ x.2 = .ok (framed message)

theorem OverTcp.answered {opened : ℕ} {x : ByteVector × DecodeResult ByteVector}
    {rest : List (ByteVector × DecodeResult ByteVector)} {sent : List SentOver} (hx : Answered x)
    (hrest : OverTcp true (onlyConnection connected opened) rest sent) :
    OverTcp connected opened (x :: rest)
      (⟨onlyConnection connected opened, x.1, x.2⟩ :: sent) := by
  obtain ⟨frame, reply⟩ := x
  obtain ⟨hframe, message, hmessage, rfl⟩ := hx
  obtain ⟨es, hrun, hlog⟩ := runs_exchange connected hframe hmessage
  exact .cons hrun (hlog opened).symm hrest

theorem OverTcp.allAnswered {opened : ℕ} {exchanges rest : List (ByteVector × DecodeResult ByteVector)}
    {sent : List SentOver} (hall : ∀ x ∈ exchanges, Answered x) (hrest : OverTcp true opened rest sent) :
    OverTcp true opened (exchanges ++ rest)
      (exchanges.map (fun x => ⟨opened, x.1, x.2⟩) ++ sent) := by
  induction exchanges with
  | nil => exact hrest
  | cons x exchanges ih =>
    exact .answered (hall x List.mem_cons_self) (ih fun y hy => hall y (List.mem_cons_of_mem x hy))

end

end SmbBrowser.Native
