import SmbBrowser.Native.DirectTcp
import SmbBrowser.Native.DisjointIds
import SmbBrowser.Native.Replies

/-!
# Interim replies

A server may answer a request with interim responses before the final one.
`DirectTcpTransport::exchange` takes the first message that arrives, whatever it is.

Results:
* `delivers_exchange`: the replies are the messages of the server in their order;
* `Delivered.replies`: without interim responses every reply is the final response to its
  request, by induction on the exchanges;
* `not_fromFinal`: an interim response that is taken as the answer.
-/

namespace SmbBrowser.Native

open SmbBrowser.Base

/-! ## A connection that delivers in order -/

/-- STATUS_PENDING. -/
def kStatusPending : UInt32 := 0x00000103

/-- What a server sends for one request: interim responses, and then the final one. -/
structure ServerResponse where
  interim : List ByteVector := []
  final : ByteVector

namespace ServerResponse

def messages (response : ServerResponse) : List ByteVector := response.interim ++ [response.final]

def stream (response : ServerResponse) : ByteVector := response.messages.flatMap framed

end ServerResponse

/-- A TCP connection: the part of the request that is still to be sent, and the bytes of the
    server that are still to be read. -/
structure TcpStream where
  unsent : ByteVector
  arrived : ByteVector

/-- What an event of the socket does to the connection.  The server answers when it has got
    the last byte of the request, and its bytes are read in the order it sent them. -/
def TcpStream.Moves (response : ServerResponse) (s : TcpStream) (e : Event Tcp) (s' : TcpStream) :
    Prop :=
  match e with
  | ⟨.send _, (.done sent : SocketResult ℕ)⟩ =>
    s' = if s.unsent.drop sent = [] then ⟨[], s.arrived ++ response.stream⟩
      else ⟨s.unsent.drop sent, s.arrived⟩
  | ⟨.recv size, (.done bytes : SocketResult ByteVector)⟩ =>
    bytes.length ≤ size ∧ s.arrived = bytes ++ s'.arrived ∧ s'.unsent = s.unsent
  | ⟨.connectSocket, (.ok () : DecodeResult Unit)⟩ => s' = ⟨s.unsent, []⟩
  | _ => s' = s

/-- A socket whose server answers the request with this response. -/
def Delivers (response : ServerResponse) : Contract Tcp TcpStream where
  allows _ _ := True
  step := TcpStream.Moves response

section

variable {α : Type} {response : ServerResponse} {s : TcpStream} {connected : Bool}
  {context : OperationContext}

open DirectTcpTransport

theorem delivers_ask {op : TcpOp} {Q : Tcp.Ans op → Bool → TcpStream → Prop}
    (h : ∀ ans s', TcpStream.Moves response s ⟨op, ans⟩ s' → Q ans connected s') :
    MeetsT (Delivers response) (TcpM.ask op) Q connected s :=
  ⟨trivial, fun ans s' hs => h ans s' hs⟩

theorem sendAll_nil (turns : ℕ) : sendAll context turns [] = pure (.ok ()) := by
  cases turns <;> rfl

theorem delivers_cancelled {Q : Bool → Bool → TcpStream → Prop} (h : ∀ b, Q b connected s) :
    MeetsT (Delivers response) (TcpM.cancelled context) Q connected s := by
  rw [TcpM.cancelled]
  split
  · refine delivers_ask fun b s' hs => ?_
    cases (show s' = s from hs)
    exact h b
  · exact h false

/-- What was sent of a request: the server has answered it if it was sent as a whole. -/
theorem delivers_sendAll (turns : ℕ) (bytes arrived : ByteVector) :
    MeetsT (Delivers response) (sendAll context turns bytes) (fun r connected' s' =>
      connected' = connected ∧ (r = .ok () →
        s' = ⟨[], arrived ++ if bytes = [] then [] else response.stream⟩)) connected
      ⟨bytes, arrived⟩ := by
  induction turns generalizing bytes with
  | zero =>
    cases bytes with
    | nil =>
      rw [sendAll_nil, if_pos rfl, List.append_nil]
      exact ⟨rfl, fun _ => rfl⟩
    | cons byte bytes =>
      refine ⟨rfl, ?_⟩
      rintro ⟨⟩
  | succ turns ih =>
    cases bytes with
    | nil =>
      rw [sendAll_nil, if_pos rfl, List.append_nil]
      exact ⟨rfl, fun _ => rfl⟩
    | cons byte bytes =>
      rw [sendAll]
      refine meetsT_bind.2 (delivers_cancelled fun cancelled => ?_)
      split
      · refine ⟨rfl, ?_⟩
        rintro ⟨⟩
      refine meetsT_bind.2 (delivers_ask fun ready s' hs => ?_)
      cases (show s' = _ from hs)
      cases ready with
      | error e =>
        refine ⟨rfl, ?_⟩
        rintro ⟨⟩
      | ok =>
        refine meetsT_bind.2 (delivers_ask fun sent s' hs => ?_)
        cases sent with
        | wouldBlock =>
          cases (show s' = _ from hs)
          exact ih (byte :: bytes)
        | failed e =>
          refine ⟨rfl, ?_⟩
          rintro ⟨⟩
        | done sent =>
          dsimp only
          split
          · refine ⟨rfl, ?_⟩
            rintro ⟨⟩
          · have hmoved : s' = if (byte :: bytes).drop sent = [] then ⟨[], arrived ++ response.stream⟩
                else ⟨(byte :: bytes).drop sent, arrived⟩ := hs
            rw [if_neg (List.cons_ne_nil byte bytes)]
            by_cases hall : (byte :: bytes).drop sent = []
            · rw [if_pos hall] at hmoved
              rw [hall, hmoved, sendAll_nil]
              exact ⟨rfl, fun _ => rfl⟩
            · rw [if_neg hall] at hmoved
              rw [hmoved]
              have hsent := ih ((byte :: bytes).drop sent)
              rwa [if_neg hall] at hsent

/-- What is received is what arrived first. -/
theorem delivers_receiveExact (turns remaining : ℕ) (received : ByteVector) :
    MeetsT (Delivers response) (receiveExact context turns remaining received)
      (fun r connected' s' => connected' = connected ∧ ∀ bytes, r = .ok bytes →
        ∃ read, read.length = remaining ∧ bytes = received ++ read ∧
          s.arrived = read ++ s'.arrived) connected s := by
  induction turns generalizing remaining received s with
  | zero =>
    cases remaining with
    | zero =>
      refine ⟨rfl, ?_⟩
      rintro bytes ⟨⟩
      exact ⟨[], rfl, (List.append_nil received).symm, rfl⟩
    | succ remaining =>
      refine ⟨rfl, ?_⟩
      rintro bytes ⟨⟩
  | succ turns ih =>
    cases remaining with
    | zero =>
      refine ⟨rfl, ?_⟩
      rintro bytes ⟨⟩
      exact ⟨[], rfl, (List.append_nil received).symm, rfl⟩
    | succ remaining =>
      rw [receiveExact]
      refine meetsT_bind.2 (delivers_cancelled fun cancelled => ?_)
      split
      · refine ⟨rfl, ?_⟩
        rintro bytes ⟨⟩
      refine meetsT_bind.2 (delivers_ask fun ready s' hs => ?_)
      cases (show s' = _ from hs)
      cases ready with
      | error e =>
        refine ⟨rfl, ?_⟩
        rintro bytes ⟨⟩
      | ok =>
        refine meetsT_bind.2 (delivers_ask fun answer s' hs => ?_)
        cases answer with
        | wouldBlock =>
          cases (show s' = _ from hs)
          exact ih (remaining + 1) received
        | failed e =>
          refine ⟨rfl, ?_⟩
          rintro bytes ⟨⟩
        | done bytes =>
          obtain ⟨hsize, harrived, -⟩ := hs
          dsimp only
          split
          · refine ⟨rfl, ?_⟩
            rintro bytes ⟨⟩
          · refine (ih (remaining + 1 - bytes.length) (received ++ bytes)).mono ?_
            rintro r connected' s'' ⟨rfl, hread⟩
            refine ⟨rfl, fun all hall => ?_⟩
            obtain ⟨read, hlength, rfl, hrest⟩ := hread all hall
            refine ⟨bytes ++ read, ?_, ?_, ?_⟩
            · rw [List.length_append, hlength]
              omega
            · rw [List.append_assoc]
            · rw [harrived, hrest, List.append_assoc]

theorem delivers_connectIfNeeded {queue : List ByteVector} {arrived : ByteVector}
    (unsent : ByteVector) (harrived : connected = true → arrived = queue.flatMap framed) :
    MeetsT (Delivers response) connectIfNeeded (fun r connected' s' => match r with
      | .error _ => connected' = false
      | .ok () => connected' = true ∧
        s' = ⟨unsent, (if connected = true then queue else []).flatMap framed⟩) connected
      ⟨unsent, arrived⟩ := by
  rw [connectIfNeeded, meetsT_bind, meetsT_get]
  cases connected with
  | true =>
    rw [harrived rfl]
    exact ⟨rfl, rfl⟩
  | false =>
    refine meetsT_bind.2 (delivers_ask fun answer s' hs => ?_)
    cases answer with
    | error e => rfl
    | ok =>
      cases (show s' = _ from hs)
      exact ⟨rfl, rfl⟩

theorem delivers_closeAndFail {r : DecodeResult ByteVector} {e : ProtocolError} (hr : r = .error e)
    {P : ByteVector → Bool → TcpStream → Prop} :
    MeetsT (Delivers response) (closeAndFail r) (fun r connected' s' => match r with
      | .error _ => connected' = false
      | .ok reply => P reply connected' s') connected s := by
  subst hr
  refine meetsT_bind.2 ?_
  rw [close, meetsT_bind, meetsT_get]
  cases connected with
  | true =>
    refine meetsT_bind.2 (delivers_ask fun _ s' _ => ?_)
    exact (rfl : false = false)
  | false => exact (rfl : false = false)

/-- **The replies are the messages of the server in their order**: an exchange returns the
    first one that it has not read yet, or closes its socket. -/
theorem delivers_exchange (turns : ℕ) (frame : ByteVector) {queue : List ByteVector}
    {arrived : ByteVector} (harrived : connected = true → arrived = queue.flatMap framed)
    (hqueue : ∀ message ∈ queue ++ response.messages, message.length ≤ 0x00FFFFFF) :
    MeetsT (Delivers response) (exchange turns frame context) (fun r connected' s' => match r with
      | .error _ => connected' = false
      | .ok reply => connected' = true ∧ ∃ message rest, (if connected = true then queue else []) ++
          (if frame = [] then [] else response.messages) = message :: rest ∧
        reply = framed message ∧ s'.arrived = rest.flatMap framed) connected
      ⟨frame, arrived⟩ := by
  unfold exchange
  refine (delivers_connectIfNeeded frame harrived).bind ?_
  rintro (e | ⟨⟩) connected' s' hconnect
  · exact hconnect
  obtain ⟨rfl, rfl⟩ := hconnect
  refine (delivers_sendAll turns frame _).bind ?_
  rintro (e | ⟨⟩) _ s' ⟨rfl, hsent⟩
  · exact delivers_closeAndFail rfl
  obtain rfl := hsent rfl
  -- what the server has sent and the client has not read
  obtain ⟨pending, hpending⟩ : ∃ pending, pending = (if connected = true then queue else []) ++
      (if frame = [] then [] else response.messages) := ⟨_, rfl⟩
  have hstream : (if connected = true then queue else []).flatMap framed ++
      (if frame = [] then [] else response.stream) = pending.flatMap framed := by
    rw [hpending, List.flatMap_append]
    by_cases hempty : frame = []
    · rw [if_pos hempty, if_pos hempty, List.flatMap_nil]
    · rw [if_neg hempty, if_neg hempty]
      rfl
  have hfits : ∀ message ∈ pending, message.length ≤ 0x00FFFFFF := by
    intro message hmem
    refine hqueue message ?_
    rw [hpending] at hmem
    grind
  rw [hstream, ← hpending]
  refine (delivers_receiveExact turns kDirectTcpHeaderSize []).bind ?_
  rintro (e | header) _ s₁ ⟨rfl, hheader⟩
  · exact delivers_closeAndFail rfl
  obtain ⟨read, hlength, hread, harrived₁⟩ := hheader header rfl
  obtain rfl : header = read := hread
  cases pending with
  | nil =>
    rw [List.flatMap_nil] at harrived₁
    rw [(List.append_eq_nil_iff.1 harrived₁.symm).1] at hlength
    cases hlength
  | cons message rest =>
    have hmessage : message.length ≤ 0x00FFFFFF := hfits message List.mem_cons_self
    have hframed : framed message = lengthField message.length ++ message := rfl
    rw [List.flatMap_cons, hframed, List.append_assoc] at harrived₁
    obtain ⟨rfl, hrest⟩ := List.append_inj harrived₁ (by rw [length_lengthField, hlength])
    dsimp only
    rw [decodeDirectTcpPayloadLength_lengthField hmessage]
    refine (delivers_receiveExact turns message.length []).bind ?_
    rintro (e | payload) _ s₂ ⟨rfl, hpayload⟩
    · exact delivers_closeAndFail rfl
    obtain ⟨read, hsize, hread, harrived₂⟩ := hpayload payload rfl
    obtain rfl : payload = read := hread
    rw [← hrest] at harrived₂
    obtain ⟨rfl, hrest₂⟩ := List.append_inj harrived₂ hsize.symm
    exact ⟨rfl, message, rest, rfl, hframed.symm, hrest₂.symm⟩

end

/-! ## The requests of a session -/

/-- One request of a session, the transports it was handed to, what the server sent for it and
    the reply. -/
structure ServedRequest where
  chain : TransportChain
  sent : SentRequest
  context : OperationContext
  response : ServerResponse
  reply : DecodeResult ByteVector

/-- The frame of a message whose header satisfies `P`. -/
def HasHeader (P : Smb2SyncHeader → Prop) (frame : ByteVector) : Prop :=
  ∃ payload header, decodeDirectTcpPayload frame = .ok payload ∧
    decodeSmb2SyncHeader payload = .ok header ∧ P header

namespace ServedRequest

/-- The transports return this frame when the socket brings this message. -/
def Receives (x : ServedRequest) (message frame : ByteVector) : Prop :=
  ∃ raw chain', Program.Runs (x.chain.exchange x.sent.frame x.context)
    [⟨.exchange raw x.context, (.ok (framed message) : DecodeResult ByteVector)⟩]
    (.ok (.ok frame), chain')

/-- The header of a final response to the request. -/
def IsFinal (x : ServedRequest) (header : Smb2SyncHeader) : Prop :=
  header.messageId = UInt64.ofNat x.sent.request.messageId ∧ header.status ≠ kStatusPending

/-- The server answers the request: its interim responses say that it is pending, and the
    final one carries its message id. -/
structure IsAnswered (x : ServedRequest) : Prop where
  fits : ∀ message ∈ x.response.messages, message.length ≤ 0x00FFFFFF
  interim : ∀ message ∈ x.response.interim, ∀ frame, x.Receives message frame →
    HasHeader (fun header => header.status = kStatusPending) frame
  final : ∀ frame, x.Receives x.response.final frame → HasHeader x.IsFinal frame

/-- A reply is taken from the final response to the request. -/
def FromFinal (x : ServedRequest) : Prop :=
  ∀ frame, x.reply = .ok frame → x.Receives x.response.final frame ∧ HasHeader x.IsFinal frame

end ServedRequest

/-- What the raw transport is asked for one request, carried over a socket. -/
inductive Relayed (response : ServerResponse) :
    Bool → ByteVector → List (Event Link) → Bool → ByteVector → Prop where
  | unsent (connected : Bool) (arrived : ByteVector) :
    Relayed response connected arrived [] connected arrived
  | exchange {connected connected' : Bool} {turns : ℕ} {raw arrived : ByteVector}
      {context : OperationContext} {es : List (Event Tcp)} {r : DecodeResult ByteVector}
      {s' : TcpStream}
      (hrun : Program.Runs ((DirectTcpTransport.exchange turns raw context).run connected) es
        (r, connected'))
      (hsteps : (Delivers response).Steps ⟨raw, arrived⟩ es s') :
    Relayed response connected arrived [⟨.exchange raw context, r⟩] connected' s'.arrived

/-- Requests exchanged one after the other, each of them answered by the server: from the
    transports, the socket and the bytes on it that are not read. -/
inductive Delivered : TransportChain → Bool → ByteVector → List ServedRequest → Prop where
  | nil (chain : TransportChain) (connected : Bool) (arrived : ByteVector) :
    Delivered chain connected arrived []
  | cons {connected connected' : Bool} {arrived arrived' : ByteVector} {x : ServedRequest}
      {les : List (Event Link)} {chain' : TransportChain} {xs : List ServedRequest}
      (hlink : Program.Runs (x.chain.exchange x.sent.frame x.context) les (.ok x.reply, chain'))
      (hrelay : Relayed x.response connected arrived les connected' arrived')
      (hanswered : x.IsAnswered) (hrest : Delivered chain' connected' arrived' xs) :
    Delivered x.chain connected arrived (x :: xs)

/-- Transports that return a reply have got one from the raw transport. -/
theorem events_of_exchange {chain chain' : TransportChain} {frame reply : ByteVector}
    {context : OperationContext} {es : List (Event Link)}
    (h : Program.Runs (chain.exchange frame context) es (.ok (.ok reply), chain')) :
    ∃ raw answer, es = [⟨.exchange raw context, (.ok answer : DecodeResult ByteVector)⟩] := by
  induction chain generalizing chain' frame reply es with
  | raw =>
    obtain ⟨answer, rest, rfl, hrest⟩ := Program.runs_ask.1 h
    obtain ⟨rfl, hend⟩ := Program.runs_pure.1 hrest
    cases hend
    exact ⟨frame, reply, rfl⟩
  | signing inner sessionKey dialect verifyResponses ih =>
    rw [TransportChain.exchange] at h
    split at h
    · cases (Program.runs_pure.1 h).2
    · cases (Program.runs_pure.1 h).2
    · obtain ⟨es₁, ⟨r, inner'⟩, es₂, rfl, hinner, h⟩ := Program.runs_bind.1 h
      obtain ⟨rfl, h⟩ := Program.runs_pure.1 h
      obtain (e | (e | answer)) := r
      · cases h
      · cases h
      · rw [List.append_nil]
        exact ih hinner
  | encryption inner encryptionKey decryptionKey sessionId dialect counter ih =>
    rw [TransportChain.exchange] at h
    split at h
    · cases (Program.runs_pure.1 h).2
    · cases (Program.runs_pure.1 h).2
    · obtain ⟨es₁, ⟨r, inner'⟩, es₂, rfl, hinner, h⟩ := Program.runs_bind.1 h
      obtain ⟨rfl, h⟩ := Program.runs_pure.1 h
      obtain (e | (e | answer)) := r
      · cases h
      · cases h
      · rw [List.append_nil]
        exact ih hinner

/-- A request without interim responses whose socket holds nothing else: the reply is the
    final response, and an open socket holds nothing after it. -/
theorem Relayed.final {response : ServerResponse} {connected connected' : Bool}
    {arrived arrived' : ByteVector} {es : List (Event Link)}
    (h : Relayed response connected arrived es connected' arrived')
    (hfits : ∀ message ∈ response.messages, message.length ≤ 0x00FFFFFF)
    (hinterim : response.interim = []) (harrived : connected = true → arrived = []) :
    (connected' = true → arrived' = []) ∧ ∀ raw context answer,
      es = [⟨.exchange raw context, (.ok answer : DecodeResult ByteVector)⟩] →
        answer = framed response.final := by
  cases h with
  | unsent =>
    refine ⟨harrived, ?_⟩
    rintro raw context answer ⟨⟩
  | exchange hrun hsteps =>
    rename_i r s'
    have hmessages : response.messages = [response.final] := by
      rw [ServerResponse.messages, hinterim]
      rfl
    have hnone : connected = true → arrived = ([] : List ByteVector).flatMap framed := harrived
    have hexchange := Meets.sound (delivers_exchange _ _ hnone hfits) hrun hsteps
    cases r with
    | error e =>
      refine ⟨?_, ?_⟩
      · intro h
        cases hexchange.symm.trans h
      · rintro raw context answer h
        cases h
    | ok reply =>
      obtain ⟨-, message, rest, hpending, hreply, harrived'⟩ := hexchange
      rw [ite_self, List.nil_append, hmessages] at hpending
      have hfirst : message = response.final ∧ rest = [] := by grind
      obtain ⟨rfl, rfl⟩ := hfirst
      refine ⟨fun _ => harrived', ?_⟩
      rintro raw context answer h
      cases h
      exact hreply

/-- **Without interim responses every reply is taken from the final response to its request**,
    whatever else the session has exchanged. -/
theorem Delivered.replies {chain : TransportChain} {connected : Bool} {arrived : ByteVector}
    {xs : List ServedRequest} (h : Delivered chain connected arrived xs)
    (harrived : connected = true → arrived = [])
    (hinterim : ∀ x ∈ xs, x.response.interim = []) : ∀ x ∈ xs, x.FromFinal := by
  induction h with
  | nil => simp
  | @cons connected connected' arrived arrived' x les chain' xs hlink hrelay hanswered _ ih =>
    obtain ⟨hx, hxs⟩ := List.forall_mem_cons.1 hinterim
    obtain ⟨harrived', hfinal⟩ := hrelay.final hanswered.fits hx harrived
    refine List.forall_mem_cons.2 ⟨fun frame hreply => ?_, ih harrived' hxs⟩
    rw [hreply] at hlink
    obtain ⟨raw, answer, rfl⟩ := events_of_exchange hlink
    have hreceives : x.Receives x.response.final frame := by
      refine ⟨raw, chain', ?_⟩
      rw [← hfinal raw x.context answer rfl]
      exact hlink
    exact ⟨hreceives, hanswered.final frame hreceives⟩

/-! ## Operations of a session -/

/-- The exchanges of a run. -/
def exchangesOf : List (Event Wire) →
    List (SentRequest × OperationContext × DecodeResult ByteVector)
  | [] => []
  | ⟨.exchange sent context, reply⟩ :: es => (sent, context, reply) :: exchangesOf es
  | _ :: es => exchangesOf es

/-- Operations of a session over a connection whose server answers every request, after its
    interim responses, with one final response. -/
structure ServedSession (session : Session) (es : List (Event Wire)) (xs : List ServedRequest) :
    Prop where
  runs : SessionRuns session es
  exchanges : exchangesOf es = xs.map fun x => (x.sent, x.context, x.reply)
  delivered : ∃ chain connected, Delivered chain connected [] xs

/-- In a session whose server sends no interim response, every reply that an operation reads
    is the final response to the request it sent. -/
theorem ServedSession.fromFinal {session : Session} {es : List (Event Wire)} {xs : List ServedRequest}
    (h : ServedSession session es xs) (hinterim : ∀ x ∈ xs, x.response.interim = []) :
    ∀ x ∈ xs, x.FromFinal := by
  obtain ⟨chain, connected, hdelivered⟩ := h.delivered
  exact hdelivered.replies (fun _ => rfl) hinterim

/-! ## Reads of a pending file -/

namespace PendingRead

/-- A server that sends what is left of its bytes as far as it is asked for. -/
def socket (response : ServerResponse) : Handler Tcp TcpStream
  | s, .connectSocket => ((.ok () : DecodeResult Unit), ⟨s.unsent, []⟩)
  | s, .isCancelled => (false, s)
  | s, .waitForSocket _ => ((.ok () : DecodeResult Unit), s)
  | s, .send bytes => ((.done bytes.length : SocketResult ℕ),
      if s.unsent.drop bytes.length = [] then ⟨[], s.arrived ++ response.stream⟩
      else ⟨s.unsent.drop bytes.length, s.arrived⟩)
  | s, .recv size => ((.done (s.arrived.take size) : SocketResult ByteVector),
      ⟨s.unsent, s.arrived.drop size⟩)
  | s, .closeSocket => ((), s)

theorem socket_moves (response : ServerResponse) (s : TcpStream) (op : TcpOp) :
    TcpStream.Moves response s ⟨op, (socket response s op).1⟩ (socket response s op).2 := by
  cases op with
  | recv size =>
    refine ⟨?_, (List.take_append_drop size s.arrived).symm, rfl⟩
    exact List.length_take_le size s.arrived
  | _ => rfl

/-- An exchange of the raw transport over the socket. -/
def served (response : ServerResponse) (connected : Bool) (frame arrived : ByteVector) :
    List (Event Tcp) × (DecodeResult ByteVector × Bool) × TcpStream :=
  ((DirectTcpTransport.exchange 1 frame {}).run connected).serve (socket response) ⟨frame, arrived⟩

theorem relayed_served {response : ServerResponse} {connected connected' : Bool}
    {frame arrived arrived' : ByteVector} {r : DecodeResult ByteVector}
    (hend : (served response connected frame arrived).2.1 = (r, connected'))
    (hleft : (served response connected frame arrived).2.2.arrived = arrived') :
    Relayed response connected arrived [⟨.exchange frame {}, r⟩] connected' arrived' := by
  have hrun := Program.runs_serve (socket response)
    ((DirectTcpTransport.exchange 1 frame {}).run connected) ⟨frame, arrived⟩
  have hsteps := Program.steps_serve (C := Delivers response) (socket_moves response)
    ((DirectTcpTransport.exchange 1 frame {}).run connected) ⟨frame, arrived⟩
  rw [show (Program.serve _ _ _).2.1 = (r, connected') from hend] at hrun
  rw [← hleft]
  exact .exchange hrun hsteps

/-- A READ of four bytes. -/
def request (messageId : ℕ) (offset : UInt64) : Request :=
  ⟨.read { fileId := {}, length := 4, offset }, messageId, 1, 1⟩

def frame (messageId : ℕ) (offset : UInt64) : ByteVector :=
  match (request messageId offset).frame with
  | .ok frame => frame
  | .error _ => []

set_option maxRecDepth 10000 in
def first : SentRequest := ⟨request 1 0, frame 1 0, by rfl⟩

set_option maxRecDepth 10000 in
def second : SentRequest := ⟨request 2 4, frame 2 4, by rfl⟩

/-- The interim response to a READ. -/
def pendingMessage (messageId : UInt64) : ByteVector :=
  encodeSmb2SyncHeader
    { command := .read, flags := kFlagServerToRedir, status := kStatusPending, messageId } ++
    (u16Le 9 ++ List.replicate 7 0)

/-- The final response to a READ. -/
def dataMessage (messageId : UInt64) (data : ByteVector) : ByteVector :=
  encodeSmb2SyncHeader { command := .read, flags := kFlagServerToRedir, messageId } ++
    (u16Le 17 ++ [80, 0] ++ u32Le (UInt32.ofNat data.length) ++ List.replicate 8 0 ++ data)

/-- What the server sends for the two reads, and what they are answered with. -/
def exchanged (interim : List ByteVector) (reply reply' : ByteVector) : List ServedRequest :=
  [⟨.raw, first, {}, ⟨interim, dataMessage 1 (ascii "abcd")⟩, .ok (framed reply)⟩,
    ⟨.raw, second, {}, ⟨[], dataMessage 2 (ascii "efgh")⟩, .ok (framed reply')⟩]

/-- The two reads, by their answers. -/
def firstRead (reply : ByteVector) :
    List (Event Wire) × (Except Exn Unit × Session) × (List (DecodeResult ByteVector) × List Bool) :=
  played (.call (.readFileChunk {} 4 0)) {} (.new 1 1 1) ([.ok (framed reply)], [])

def secondRead (reply : ByteVector) :
    List (Event Wire) × (Except Exn Unit × Session) × (List (DecodeResult ByteVector) × List Bool) :=
  played (.call (.readFileChunk {} 4 4)) {} ⟨1, 1, 2⟩ ([.ok (framed reply)], [])

def events (reply reply' : ByteVector) : List (Event Wire) :=
  (firstRead reply).1 ++ ((secondRead reply').1 ++ [])

set_option maxRecDepth 10000 in
theorem exchanges_prompt :
    exchangesOf (events (dataMessage 1 (ascii "abcd")) (dataMessage 2 (ascii "efgh"))) =
      (exchanged [] (dataMessage 1 (ascii "abcd")) (dataMessage 2 (ascii "efgh"))).map
        fun x => (x.sent, x.context, x.reply) := by
  rfl

set_option maxRecDepth 10000 in
theorem exchanges_pending :
    exchangesOf (events (pendingMessage 1) (dataMessage 1 (ascii "abcd"))) =
      (exchanged [pendingMessage 1] (pendingMessage 1) (dataMessage 1 (ascii "abcd"))).map
        fun x => (x.sent, x.context, x.reply) := by
  rfl

theorem sessionRuns_prompt : SessionRuns (.new 1 1 1)
    (events (dataMessage 1 (ascii "abcd")) (dataMessage 2 (ascii "efgh"))) := by
  have hfirst : (firstRead (dataMessage 1 (ascii "abcd"))).2.1 = (.ok (), ⟨1, 1, 2⟩) := by
    decide +kernel
  have hsecond : (secondRead (dataMessage 2 (ascii "efgh"))).2.1 = (.ok (), ⟨1, 1, 3⟩) := by
    decide +kernel
  refine .played hfirst (by decide) ?_ ⟨_, _, _, rfl⟩
  exact .played hsecond (by decide) (.nil _) ⟨_, _, _, rfl⟩

theorem sessionRuns_pending : SessionRuns (.new 1 1 1)
    (events (pendingMessage 1) (dataMessage 1 (ascii "abcd"))) := by
  have hfirst : (firstRead (pendingMessage 1)).2.1 = (.ok (), ⟨1, 1, 2⟩) := by decide +kernel
  have hsecond : (secondRead (dataMessage 1 (ascii "abcd"))).2.1 = (.ok (), ⟨1, 1, 3⟩) := by
    decide +kernel
  refine .played hfirst (by decide) ?_ ⟨_, _, _, rfl⟩
  exact .played hsecond (by decide) (.nil _) ⟨_, _, _, rfl⟩

/-- The raw transport hands a message on as it came. -/
theorem receives_raw {x : ServedRequest} {message frame : ByteVector} (hchain : x.chain = .raw)
    (h : x.Receives message frame) : frame = framed message := by
  obtain ⟨raw, chain', hrun⟩ := h
  rw [hchain] at hrun
  obtain ⟨answer, rest, hes, hrest⟩ := Program.runs_ask.1 hrun
  cases hes
  cases (Program.runs_pure.1 hrest).2
  rfl

theorem hasHeader_framed {P : Smb2SyncHeader → Prop} {header : Smb2SyncHeader}
    {body : ByteVector} (hlen : body.length ≤ 100) (h : P header) :
    HasHeader P (framed (encodeSmb2SyncHeader header ++ body)) := by
  have hfits : (encodeSmb2SyncHeader header ++ body).length ≤ 0x00FFFFFF := by
    rw [List.length_append, length_encodeSmb2SyncHeader]
    omega
  have hframe := encodeDirectTcpFrame_framed hfits
  exact ⟨_, header, decodeDirectTcpPayload_encode hframe, decodeSmb2SyncHeader_encode header body, h⟩

theorem isAnswered_raw {x : ServedRequest} (hchain : x.chain = .raw)
    (hfits : ∀ message ∈ x.response.messages, message.length ≤ 0x00FFFFFF)
    (hinterim : ∀ message ∈ x.response.interim,
      HasHeader (fun header => header.status = kStatusPending) (framed message))
    (hfinal : HasHeader x.IsFinal (framed x.response.final)) : x.IsAnswered := by
  refine ⟨hfits, ?_, ?_⟩
  · intro message hmem frame hframe
    rw [receives_raw hchain hframe]
    exact hinterim message hmem
  · intro frame hframe
    rw [receives_raw hchain hframe]
    exact hfinal

/-- The two reads over the raw transport, from what the socket makes of them. -/
theorem delivered_exchanged {interim : List ByteVector} {reply reply' left left' : ByteVector}
    (hinterim : ∀ message ∈ interim, message = pendingMessage 1)
    (hfirst : Relayed ⟨interim, dataMessage 1 (ascii "abcd")⟩ false []
      [⟨.exchange first.frame {}, .ok (framed reply)⟩] true left)
    (hsecond : Relayed ⟨[], dataMessage 2 (ascii "efgh")⟩ true left
      [⟨.exchange second.frame {}, .ok (framed reply')⟩] true left') :
    Delivered .raw false [] (exchanged interim reply reply') := by
  have hdata : ∀ id data, List.length data = 4 → (dataMessage id data).length ≤ 0x00FFFFFF := by
    intro id data hlen
    simp [dataMessage, hlen]
  have hpending : (pendingMessage 1).length ≤ 0x00FFFFFF := by simp [pendingMessage]
  have hanswered : ServedRequest.IsAnswered
      ⟨.raw, first, {}, ⟨interim, dataMessage 1 (ascii "abcd")⟩, .ok (framed reply)⟩ := by
    refine isAnswered_raw rfl ?_ ?_ ?_
    · intro message hmem
      rcases List.mem_append.1 hmem with hmem | hmem
      · rw [hinterim message hmem]
        exact hpending
      · rw [List.mem_singleton.1 hmem]
        exact hdata _ _ rfl
    · intro message hmem
      rw [hinterim message hmem]
      exact hasHeader_framed (by simp) rfl
    · exact hasHeader_framed (by simp [ascii]) ⟨rfl, by decide⟩
  have hanswered' : ServedRequest.IsAnswered
      ⟨.raw, second, {}, ⟨[], dataMessage 2 (ascii "efgh")⟩, .ok (framed reply')⟩ := by
    refine isAnswered_raw rfl ?_ (by simp) ?_
    · intro message hmem
      rw [List.mem_singleton.1 hmem]
      exact hdata _ _ rfl
    · exact hasHeader_framed (by simp [ascii]) ⟨rfl, by decide⟩
  have hlink : ∀ (frame : ByteVector) (answer : DecodeResult ByteVector),
      Program.Runs (TransportChain.raw.exchange frame {}) [⟨.exchange frame {}, answer⟩]
        (.ok answer, .raw) := by
    intro frame answer
    exact Program.runs_ask.2 ⟨answer, [], rfl, .pure _⟩
  exact .cons (hlink _ _) hfirst hanswered (.cons (hlink _ _) hsecond hanswered' (.nil _ _ _))

theorem served_prompt : ServedSession (.new 1 1 1)
    (events (dataMessage 1 (ascii "abcd")) (dataMessage 2 (ascii "efgh")))
    (exchanged [] (dataMessage 1 (ascii "abcd")) (dataMessage 2 (ascii "efgh"))) := by
  have hfirst : Relayed ⟨[], dataMessage 1 (ascii "abcd")⟩ false []
      [⟨.exchange first.frame {}, .ok (framed (dataMessage 1 (ascii "abcd")))⟩] true [] :=
    relayed_served (by decide +kernel) (by decide +kernel)
  have hsecond : Relayed ⟨[], dataMessage 2 (ascii "efgh")⟩ true []
      [⟨.exchange second.frame {}, .ok (framed (dataMessage 2 (ascii "efgh")))⟩] true [] :=
    relayed_served (by decide +kernel) (by decide +kernel)
  exact ⟨sessionRuns_prompt, exchanges_prompt, _, _,
    delivered_exchanged (by simp) hfirst hsecond⟩

/-- The first read is answered with an interim response: the second one gets the data of the
    first. -/
theorem served_pending : ServedSession (.new 1 1 1)
    (events (pendingMessage 1) (dataMessage 1 (ascii "abcd")))
    (exchanged [pendingMessage 1] (pendingMessage 1) (dataMessage 1 (ascii "abcd"))) := by
  have hfirst : Relayed ⟨[pendingMessage 1], dataMessage 1 (ascii "abcd")⟩ false []
      [⟨.exchange first.frame {}, .ok (framed (pendingMessage 1))⟩] true
      (framed (dataMessage 1 (ascii "abcd"))) :=
    relayed_served (by decide +kernel) (by decide +kernel)
  have hsecond : Relayed ⟨[], dataMessage 2 (ascii "efgh")⟩ true
      (framed (dataMessage 1 (ascii "abcd")))
      [⟨.exchange second.frame {}, .ok (framed (dataMessage 1 (ascii "abcd")))⟩] true
      (framed (dataMessage 2 (ascii "efgh"))) :=
    relayed_served (by decide +kernel) (by decide +kernel)
  exact ⟨sessionRuns_pending, exchanges_pending, _, _,
    delivered_exchanged (by simp) hfirst hsecond⟩

end PendingRead

open PendingRead in
/-- Two reads that are answered at once. -/
theorem ServedSession.fromFinal_prompt :
    ServedSession (.new 1 1 1)
        (events (dataMessage 1 (ascii "abcd")) (dataMessage 2 (ascii "efgh")))
        (exchanged [] (dataMessage 1 (ascii "abcd")) (dataMessage 2 (ascii "efgh"))) ∧
      ∀ x ∈ exchanged [] (dataMessage 1 (ascii "abcd")) (dataMessage 2 (ascii "efgh")),
        x.FromFinal :=
  ⟨served_prompt, ServedSession.fromFinal served_prompt (by simp [exchanged])⟩

open PendingRead in
/-- After an interim response every later request of the connection is answered with the
    response to the one before it. -/
theorem not_fromFinal : ¬ ∀ session es xs, ServedSession session es xs → ∀ x ∈ xs, x.FromFinal := by
  intro h
  have hsecond := h _ _ _ served_pending _ (List.mem_cons_of_mem _ List.mem_cons_self) _ rfl
  have hframe := receives_raw rfl hsecond.1
  revert hframe
  decide +kernel

end SmbBrowser.Native
