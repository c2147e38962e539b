import SmbBrowser.Native.ConnectProtocol
import SmbBrowser.Native.ExchangeRules
import SmbBrowser.Native.TcpConnections

/-!
# Requests on authenticated connections

The transport knows nothing of the session that was set up over a connection it has closed.

Results:
* `authenticate_exchanges`: what the first stage of a connect sends;
* `requests_authenticated`: requests other than the handshake follow a handshake on their
  own TCP connection, in every run that sends nothing after an exchange that failed;
* `close_sent_unauthenticated`: a CLOSE sent after a READ that failed.
-/

namespace SmbBrowser.Native

open SmbBrowser.Base

/-! ## The exchanges of a connect -/

/-- The exchanges of the raw transport with what came of them. -/
def rawExchanges (es : List (Event Link)) : List (ByteVector × DecodeResult ByteVector) :=
  es.filterMap fun
    | ⟨.exchange frame _, reply⟩ => some (frame, reply)
    | _ => none

theorem rawExchanges_append (es es' : List (Event Link)) :
    rawExchanges (es ++ es') = rawExchanges es ++ rawExchanges es' :=
  List.filterMap_append

/-- The command of the message in a frame. -/
def commandOf (frame : ByteVector) : Option Command := do
  let payload ← (decodeDirectTcpPayload frame).toOption
  let header ← (decodeSmb2SyncHeader payload).toOption
  return header.command

theorem commandOf_encode {header : Smb2SyncHeader} {body frame : ByteVector}
    (h : encodeDirectTcpFrame (encodeSmb2SyncHeader header ++ body) = .ok frame) :
    commandOf frame = some header.command := by
  rw [commandOf, decodeDirectTcpPayload_encode h]
  show (do
    let header ← (decodeSmb2SyncHeader (encodeSmb2SyncHeader header ++ body)).toOption
    return header.command : Option Command) = _
  rw [decodeSmb2SyncHeader_encode]
  rfl

/-- A request that needs no session. -/
def Handshake (frame : ByteVector) : Prop :=
  commandOf frame = some .negotiate ∨ commandOf frame = some .sessionSetup

/-- NEGOTIATE, answered. -/
def Negotiated (frame : ByteVector) (reply : DecodeResult ByteVector) : Prop :=
  commandOf frame = some .negotiate ∧ ∃ offered response,
    decodedReply (decodeNegotiateResponse · offered) reply = .ok response

/-- SESSION_SETUP, answered with SUCCESS. -/
def SetUp (frame : ByteVector) (reply : DecodeResult ByteVector) : Prop :=
  commandOf frame = some .sessionSetup ∧ ∃ response,
    decodedReply decodeSessionSetupResponse reply = .ok response ∧
      response.status = kStatusSuccess

/-- A NEGOTIATE that was answered, and behind it a SESSION_SETUP that succeeded. -/
def HasSession (exchanges : List (ByteVector × DecodeResult ByteVector)) : Prop :=
  ∃ before negotiate between setup after,
    exchanges = before ++ negotiate :: (between ++ setup :: after) ∧
      Negotiated negotiate.1 negotiate.2 ∧ SetUp setup.1 setup.2

theorem HasSession.append {exchanges : List (ByteVector × DecodeResult ByteVector)}
    (h : HasSession exchanges) (rest : List (ByteVector × DecodeResult ByteVector)) :
    HasSession (exchanges ++ rest) := by
  obtain ⟨before, negotiate, between, setup, after, rfl, hnegotiated, hsetUp⟩ := h
  refine ⟨before, negotiate, between, setup, after ++ rest, ?_, hnegotiated, hsetUp⟩
  simp only [List.append_assoc, List.cons_append]

section

variable {sha512 : ByteVector → Vector UInt8 64} {options : NativeSmbConnectorOptions}
  {context : OperationContext} {es : List (Event Link)}

theorem cancelled_exchanges {chain : TransportChain} :
    LinkMeets (LinkM.cancelled context) (fun _ chain' es' => chain' = chain ∧
      rawExchanges es' = rawExchanges es) chain es := by
  rw [LinkM.cancelled]
  split
  · refine ⟨trivial, ?_⟩
    rintro ans m rfl
    refine ⟨rfl, ?_⟩
    rw [rawExchanges_append]
    exact List.append_nil _
  · exact ⟨rfl, rfl⟩

/-- What an exchange of the connector over the raw transport adds: nothing or its frame,
    and when it succeeds the frame with a reply it was read from. -/
def AddsExchange {α : Type} (request : Except Exn ByteVector)
    (decode : ByteVector → ByteVector → DecodeResult α) (r : Except Exn (DecodeResult α))
    (es es' : List (Event Link)) : Prop :=
  (rawExchanges es' = rawExchanges es ∧ ∀ a, r ≠ .ok (.ok a)) ∨
  ∃ message frame reply, request = .ok message ∧ encodeDirectTcpFrame message = .ok frame ∧
    rawExchanges es' = rawExchanges es ++ [(frame, reply)] ∧
    ∀ a, r = .ok (.ok a) → decodedReply (decode message) reply = .ok a

theorem linkExchange_exchanges {α : Type} (cancelled : String) (request : Except Exn ByteVector)
    (decode : ByteVector → ByteVector → DecodeResult α) :
    LinkMeets (linkExchange cancelled request decode context)
      (fun r chain' es' => chain' = .raw ∧ AddsExchange request decode r es es') .raw es := by
  rw [linkExchange]
  refine cancelled_exchanges.bind ?_ ?_
  swap
  · rintro e _ es₁ ⟨rfl, hes₁⟩
    exact ⟨rfl, .inl ⟨hes₁, by rintro a ⟨⟩⟩⟩
  rintro before _ es₁ ⟨rfl, hes₁⟩
  split
  · exact ⟨rfl, .inl ⟨hes₁, by rintro a ⟨⟩⟩⟩
  refine meets_ofExcept (fun message hrequest => ?_) fun e => ⟨rfl, .inl ⟨hes₁, by rintro a ⟨⟩⟩⟩
  refine meets_ofExcept (fun frame hframe => ?_) fun e => ⟨rfl, .inl ⟨hes₁, by rintro a ⟨⟩⟩⟩
  refine meets_exchange_raw fun reply => ?_
  have hadded : rawExchanges (es₁ ++ [⟨.exchange frame context, reply⟩]) =
      rawExchanges es ++ [(frame, reply)] := by
    rw [rawExchanges_append, hes₁]
    rfl
  cases reply with
  | error e => exact ⟨rfl, .inr ⟨message, frame, _, hrequest, hframe, hadded, by rintro a ⟨⟩⟩⟩
  | ok responseFrame =>
    refine cancelled_exchanges.bind ?_ ?_
    swap
    · rintro e _ es₂ ⟨rfl, hes₂⟩
      exact ⟨rfl, .inr ⟨message, frame, _, hrequest, hframe, hes₂.trans hadded, by rintro a ⟨⟩⟩⟩
    rintro after _ es₂ ⟨rfl, hes₂⟩
    split
    · exact ⟨rfl, .inr ⟨message, frame, _, hrequest, hframe, hes₂.trans hadded, by rintro a ⟨⟩⟩⟩
    cases hpayload : decodeDirectTcpPayload responseFrame with
    | error e =>
      exact ⟨rfl, .inr ⟨message, frame, _, hrequest, hframe, hes₂.trans hadded, by rintro a ⟨⟩⟩⟩
    | ok payload =>
      refine ⟨rfl, .inr ⟨message, frame, _, hrequest, hframe, hes₂.trans hadded, ?_⟩⟩
      intro a ha
      exact decodedReply_eq_ok.2 ⟨payload, hpayload, Except.ok.inj ha⟩

/-- NEGOTIATE sends handshake requests only, and when it succeeds its exchange is there. -/
theorem negotiate_exchanges {options : NegotiateRequestOptions} :
    LinkMeets (negotiate sha512 options context) (fun r chain' es' => chain' = .raw ∧
      (∃ added, rawExchanges es' = rawExchanges es ++ added ∧ ∀ x ∈ added, Handshake x.1) ∧
      ∀ a, r = .ok (.ok a) → ∃ x, rawExchanges es' = rawExchanges es ++ [x] ∧ Negotiated x.1 x.2)
      .raw es := by
  refine (linkExchange_exchanges _ _ _).mono ?_
  rintro r chain' es' ⟨hchain, ⟨hes', hnone⟩ | ⟨message, frame, reply, hrequest, hframe, hes', hok⟩⟩
  · exact ⟨hchain, ⟨[], by rw [hes', List.append_nil], by simp⟩, fun a ha => absurd ha (hnone a)⟩
  obtain ⟨header, body, rfl, hcommand⟩ := header_of_buildNegotiateRequest hrequest
  have hframe' : commandOf frame = some .negotiate := by
    rw [commandOf_encode hframe, hcommand]
  refine ⟨hchain, ⟨_, hes', ?_⟩, ?_⟩
  · intro x hx
    rw [List.mem_singleton] at hx
    rw [hx]
    exact .inl hframe'
  · intro a ha
    refine ⟨_, hes', hframe', offeredDialects options, ?_⟩
    obtain ⟨payload, hpayload, hdecode⟩ := decodedReply_eq_ok.1 (hok a ha)
    dsimp only at hdecode
    cases hresponse : decodeNegotiateResponse payload (offeredDialects options) with
    | error e =>
      rw [offeredDialects] at hresponse
      rw [hresponse] at hdecode
      cases hdecode
    | ok response => exact ⟨response, decodedReply_eq_ok.2 ⟨payload, hpayload, hresponse⟩⟩

theorem sessionSetupExchange_exchanges {options : SessionSetupRequestOptions} {messageId : ℕ}
    {sessionId : UInt64} :
    LinkMeets (sessionSetupExchange options messageId sessionId context) (fun r chain' es' =>
      chain' = .raw ∧
      (∃ added, rawExchanges es' = rawExchanges es ++ added ∧ ∀ x ∈ added, Handshake x.1) ∧
      ∀ session, r = .ok (.ok session) → session.moreProcessingRequired = false →
        ∃ x, rawExchanges es' = rawExchanges es ++ [x] ∧ SetUp x.1 x.2) .raw es := by
  refine (linkExchange_exchanges _ _ _).mono ?_
  rintro r chain' es' ⟨hchain, ⟨hes', hnone⟩ | ⟨message, frame, reply, hrequest, hframe, hes', hok⟩⟩
  · exact ⟨hchain, ⟨[], by rw [hes', List.append_nil], by simp⟩, fun a ha => absurd ha (hnone a)⟩
  have hframe' : commandOf frame = some .sessionSetup := by
    rw [buildSessionSetupRequest] at hrequest
    obtain ⟨checked, -, hmessage⟩ := bind_eq_ok.1 hrequest
    rw [pure_eq_ok] at hmessage
    rw [← hmessage] at hframe
    rw [commandOf_encode hframe]
  refine ⟨hchain, ⟨_, hes', ?_⟩, ?_⟩
  · intro x hx
    rw [List.mem_singleton] at hx
    rw [hx]
    exact .inr hframe'
  · intro session hsession hdone
    obtain ⟨payload, hpayload, hdecode⟩ := decodedReply_eq_ok.1 (hok session hsession)
    dsimp only at hdecode
    cases hresponse : decodeSessionSetupResponse payload with
    | error e =>
      rw [hresponse] at hdecode
      cases hdecode
    | ok response =>
      rw [hresponse] at hdecode
      obtain rfl := Except.ok.inj hdecode
      refine ⟨_, hes', hframe', response, decodedReply_eq_ok.2 ⟨payload, hpayload, hresponse⟩, ?_⟩
      have hstatus := status_of_decodeSessionSetupResponse hresponse
      have hlast : response.moreProcessingRequired = false := hdone
      rw [hlast, if_neg (by decide)] at hstatus
      exact hstatus

/-- The rounds send handshake requests only, and when they succeed the last of them did. -/
theorem sessionSetupRounds_exchanges {negotiated : NegotiatedConnection} {rounds : ℕ}
    (hrounds : 0 < rounds) {token : ByteVector} {state : SetupState} :
    LinkMeets (sessionSetupRounds sha512 options negotiated context rounds token state)
      (fun r chain' es' => chain' = .raw ∧
        (∃ added, rawExchanges es' = rawExchanges es ++ added ∧ ∀ x ∈ added, Handshake x.1) ∧
        ∀ setup, r = .ok (.ok setup) → ∃ more x,
          rawExchanges es' = rawExchanges es ++ more ++ [x] ∧ SetUp x.1 x.2) .raw es := by
  induction rounds generalizing token state es with
  | zero => omega
  | succ rounds ih =>
    rw [sessionSetupRounds]
    refine sessionSetupExchange_exchanges.bind ?_ ?_
    swap
    · rintro e _ es₁ ⟨rfl, hadded, -⟩
      exact ⟨rfl, hadded, by rintro setup ⟨⟩⟩
    rintro r _ es₁ ⟨rfl, ⟨added, hes₁, hhandshake⟩, hlast⟩
    cases r with
    | error e => exact ⟨rfl, ⟨added, hes₁, hhandshake⟩, by rintro setup ⟨⟩⟩
    | ok session =>
      dsimp only
      split
      · exact ⟨rfl, ⟨added, hes₁, hhandshake⟩, by rintro setup ⟨⟩⟩
      split
      · rename_i hdone
        refine ⟨rfl, ⟨added, hes₁, hhandshake⟩, ?_⟩
        rintro setup ⟨⟩
        obtain ⟨x, hx, hsetUp⟩ := hlast session rfl (by simpa using hdone)
        exact ⟨[], x, by rw [hx, List.append_nil], hsetUp⟩
      refine meets_linkAsk fun ans => ?_
      have hasked : rawExchanges (es₁ ++ [⟨.nextToken session, ans⟩]) =
          rawExchanges es ++ added := by
        rw [rawExchanges_append, hes₁]
        exact List.append_nil _
      split
      · exact ⟨rfl, ⟨added, hasked, hhandshake⟩, by rintro setup ⟨⟩⟩
      split
      · exact ⟨rfl, ⟨added, hasked, hhandshake⟩, by rintro setup ⟨⟩⟩
      rename_i hleft
      refine (ih (by omega)).mono ?_
      rintro r chain' es' ⟨hchain, ⟨added', hes', hhandshake'⟩, hlast'⟩
      refine ⟨hchain, ⟨added ++ added', ?_, ?_⟩, ?_⟩
      · rw [hes', hasked, List.append_assoc]
      · intro x hx
        rcases List.mem_append.1 hx with hx | hx
        · exact hhandshake x hx
        · exact hhandshake' x hx
      · intro setup hsetup
        obtain ⟨more, x, hx, hsetUp⟩ := hlast' setup hsetup
        exact ⟨added ++ more, x, by rw [hx, hasked, List.append_assoc (rawExchanges es)], hsetUp⟩

/-- **The first stage of a connect** sends handshake requests only, and leaves a session
    when it succeeds. -/
theorem authenticate_exchanges :
    LinkMeets (authenticate sha512 options context) (fun r chain' es' => chain' = .raw ∧
      (∀ x ∈ rawExchanges es', Handshake x.1) ∧
      ∀ a, r = .ok (.ok a) → HasSession (rawExchanges es')) .raw [] := by
  rw [authenticate]
  refine negotiate_exchanges.bind ?_ ?_
  swap
  · rintro e _ es₁ ⟨rfl, ⟨added, hes₁, hhandshake⟩, -⟩
    exact ⟨rfl, by rw [hes₁]; exact hhandshake, by rintro a ⟨⟩⟩
  rintro r _ es₁ ⟨rfl, ⟨added, hes₁, hhandshake⟩, hok⟩
  have hall : ∀ x ∈ rawExchanges es₁, Handshake x.1 := by
    rw [hes₁]
    exact hhandshake
  cases r with
  | error e => exact ⟨rfl, hall, by rintro a ⟨⟩⟩
  | ok negotiated =>
    obtain ⟨x, hx, hnegotiated⟩ := hok negotiated rfl
    dsimp only
    split
    · exact ⟨rfl, hall, by rintro a ⟨⟩⟩
    have hadds {base es' : List (Event Link)} {more : List (ByteVector × DecodeResult ByteVector)}
        (hbase : rawExchanges base = rawExchanges es₁)
        (hes' : rawExchanges es' = rawExchanges base ++ more)
        (hmore : ∀ x ∈ more, Handshake x.1) : ∀ x ∈ rawExchanges es', Handshake x.1 := by
      intro y hy
      rw [hes', hbase] at hy
      rcases List.mem_append.1 hy with hy | hy
      · exact hall y hy
      · exact hmore y hy
    refine meets_linkAsk fun token => ?_
    have hasked : rawExchanges (es₁ ++ [⟨.initialToken negotiated, token⟩]) = rawExchanges es₁ := by
      rw [rawExchanges_append]
      exact List.append_nil _
    split
    · exact ⟨rfl, by rw [hasked]; exact hall, by rintro a ⟨⟩⟩
    have hrounds : 0 < if options.maxSessionSetupRounds = 0 then 1
        else options.maxSessionSetupRounds := by
      split <;> omega
    refine (sessionSetupRounds_exchanges hrounds).bind ?_ ?_
    swap
    · rintro e _ es₂ ⟨rfl, ⟨more, hes₂, hmore⟩, -⟩
      exact ⟨rfl, hadds hasked hes₂ hmore, by rintro a ⟨⟩⟩
    rintro r _ es₂ ⟨rfl, ⟨more, hes₂, hmore⟩, hlast⟩
    cases r with
    | error e => exact ⟨rfl, hadds hasked hes₂ hmore, by rintro a ⟨⟩⟩
    | ok setup =>
      refine ⟨rfl, hadds hasked hes₂ hmore, ?_⟩
      rintro a -
      obtain ⟨between, y, hy, hsetUp⟩ := hlast setup rfl
      refine ⟨[], x, between, y, [], ?_, hnegotiated, hsetUp⟩
      rw [hy, hasked, hx]
      rfl

/-- Every request of a connect but those of the handshake follows a session. -/
theorem connect_exchanges {r : Except Exn (DecodeResult NativeSmbConnectedState)}
    {chain : TransportChain}
    (hrun : Program.Runs ((connect sha512 options context).run.run .raw) es (r, chain)) :
    (∀ x ∈ rawExchanges es, Handshake x.1) ∧ (∀ state, r ≠ .ok (.ok state)) ∨
      ∃ first rest, rawExchanges es = first ++ rest ∧ (∀ x ∈ first, Handshake x.1) ∧
        HasSession first := by
  rw [connect_eq, runsS_bind] at hrun
  have hfirst {es₁ : List (Event Link)} {r₁ : Except Exn (DecodeResult (NegotiatedConnection ×
      SetupState))} {chain₁ : TransportChain}
      (hrun₁ : Program.Runs ((authenticate sha512 options context).run.run .raw) es₁
        (r₁, chain₁)) : (∀ x ∈ rawExchanges es₁, Handshake x.1) ∧
        ∀ a, r₁ = .ok (.ok a) → HasSession (rawExchanges es₁) := by
    have hmeets : Meets .history ((authenticate sha512 options context).run.run .raw)
      (fun r es' => r.2 = .raw ∧ (∀ x ∈ rawExchanges es', Handshake x.1) ∧
        ∀ a, r.1 = .ok (.ok a) → HasSession (rawExchanges es')) [] := authenticate_exchanges
    exact (hmeets.history hrun₁).2
  rcases hrun with ⟨e, rfl, hrun₁⟩ | ⟨es₁, a, chain₁, es₂, rfl, hrun₁, hrun₂⟩
  · exact .inl ⟨(hfirst hrun₁).1, by rintro state ⟨⟩⟩
  obtain ⟨hhandshake, hsession⟩ := hfirst hrun₁
  cases a with
  | error e =>
    obtain ⟨rfl, hr⟩ := Program.runs_pure.1 hrun₂
    obtain ⟨rfl, rfl⟩ := Prod.mk.inj hr
    rw [List.append_nil]
    exact .inl ⟨hhandshake, by rintro state ⟨⟩⟩
  | ok a =>
    refine .inr ⟨rawExchanges es₁, rawExchanges es₂, rawExchanges_append _ _, hhandshake, ?_⟩
    exact hsession a rfl

end

/-! ## Runs over Direct TCP -/

/-- The exchanges of a connect and, when it succeeds, of any requests of its session. -/
inductive SessionRun (sha512 : ByteVector → Vector UInt8 64) (options : NativeSmbConnectorOptions)
    (context : OperationContext) : List (ByteVector × DecodeResult ByteVector) → Prop where
  | failed {es : List (Event Link)} {r : Except Exn (DecodeResult NativeSmbConnectedState)}
      {chain : TransportChain}
      (hrun : Program.Runs ((connect sha512 options context).run.run .raw) es (r, chain)) :
      SessionRun sha512 options context (rawExchanges es)
  | connected {es : List (Event Link)} {state : NativeSmbConnectedState} {chain : TransportChain}
      {log : List Exchanged}
      (hrun : Program.Runs ((connect sha512 options context).run.run .raw) es
        (.ok (.ok state), chain)) (hlog : Exchanges chain log) :
      SessionRun sha512 options context (rawExchanges (es ++ log.flatMap (·.events)))

/-- A request follows a session on its own TCP connection. -/
def Authenticated (before : List SentOver) (x : SentOver) : Prop :=
  ∃ first negotiate between setup rest, before = first ++ negotiate :: (between ++ setup :: rest) ∧
    negotiate.connection = x.connection ∧ setup.connection = x.connection ∧
    Negotiated negotiate.frame negotiate.reply ∧ SetUp setup.frame setup.reply

section

variable {sha512 : ByteVector → Vector UInt8 64} {options : NativeSmbConnectorOptions}
  {context : OperationContext} {exchanges : List (ByteVector × DecodeResult ByteVector)}
  {sent : List SentOver}

theorem SessionRun.split (h : SessionRun sha512 options context exchanges) :
    (∀ x ∈ exchanges, Handshake x.1) ∨ ∃ first rest, exchanges = first ++ rest ∧
      (∀ x ∈ first, Handshake x.1) ∧ HasSession first := by
  cases h with
  | failed hrun => exact (connect_exchanges hrun).imp_left And.left
  | connected hrun hlog =>
    rcases connect_exchanges hrun with ⟨-, hnone⟩ | ⟨first, rest, hes, hfirst, hsession⟩
    · exact absurd rfl (hnone _)
    · rw [rawExchanges_append, hes, List.append_assoc]
      exact .inr ⟨first, _, rfl, hfirst, hsession⟩

/-- A session among requests that share a connection. -/
theorem authenticated_of_session {before : List SentOver} {x : SentOver}
    (hconnection : ∀ y ∈ before, y.connection = x.connection)
    (hsession : HasSession (before.map fun x => (x.frame, x.reply))) : Authenticated before x := by
  obtain ⟨first, negotiate, between, setup, after, hmap, hnegotiated, hsetUp⟩ := hsession
  obtain ⟨first', rest₁, rfl, -, hmap₁⟩ := List.map_eq_append_iff.1 hmap
  obtain ⟨negotiate', rest₂, rfl, rfl, hmap₂⟩ := List.map_eq_cons_iff.1 hmap₁
  obtain ⟨between', rest₃, rfl, -, hmap₃⟩ := List.map_eq_append_iff.1 hmap₂
  obtain ⟨setup', rest₄, rfl, rfl, -⟩ := List.map_eq_cons_iff.1 hmap₃
  exact ⟨first', negotiate', between', setup', rest₄, rfl, hconnection _ (by simp),
    hconnection _ (by simp), hnegotiated, hsetUp⟩

/-- **Requests follow the handshake on their own TCP connection**, in every run of a connect
    and its session that sends nothing after an exchange that failed. -/
theorem requests_authenticated (hrun : SessionRun sha512 options context exchanges)
    (hsent : OverTcp false 0 exchanges sent) (hunbroken : Unbroken exchanges) :
    ∀ before x after, sent = before ++ x :: after → ¬ Handshake x.frame →
      Authenticated before x := by
  rintro before x after rfl hnot
  obtain ⟨hconnection, rest, hexchanges⟩ := hsent.unbroken hunbroken
  rw [List.map_append, List.map_cons, List.append_assoc, List.cons_append] at hexchanges
  rcases hrun.split with hall | ⟨first, later, hsplit, hfirst, hsession⟩
  · refine absurd (hall (x.frame, x.reply) ?_) hnot
    rw [← hexchanges]
    exact List.mem_append_right _ List.mem_cons_self
  have hx := hconnection x (List.mem_append_right _ List.mem_cons_self)
  refine authenticated_of_session ?_ ?_
  · intro y hy
    rw [hconnection y (List.mem_append_left _ hy), hx]
  · rw [hsplit] at hexchanges
    rcases List.append_eq_append_iff.1 hexchanges with ⟨extra, hfirst', hextra⟩ | ⟨extra, hmap, -⟩
    · cases extra with
      | nil =>
        rw [List.append_nil] at hfirst'
        rw [← hfirst']
        exact hsession
      | cons y extra =>
        -- the request would be one of the handshake
        obtain ⟨rfl, -⟩ := List.cons.inj hextra
        refine absurd (hfirst (x.frame, x.reply) ?_) hnot
        rw [hfirst']
        exact List.mem_append_right _ List.mem_cons_self
    · rw [hmap]
      exact hsession.append extra

end

/-! ## A session that goes on after a failure -/

namespace GuestConnection

/-- The exchanges of the connect of a guest. -/
def connectExchanges : List (ByteVector × DecodeResult ByteVector) :=
  rawExchanges (linkPlayed (connect noSha512 options {}) replies).1

set_option maxRecDepth 10000 in
theorem connectExchanges_eq :
    connectExchanges.map (fun x => (decide (x.1.length ≤ 1000), x.2)) =
      [(true, .ok negotiateReply), (true, .ok (framed setupMessage)), (true, .ok treeReply)] := by
  rfl

theorem answered_connectExchanges : ∀ x ∈ connectExchanges, Answered x := by
  intro x hx
  have hmem : (decide (x.1.length ≤ 1000), x.2) ∈
      connectExchanges.map (fun x => (decide (x.1.length ≤ 1000), x.2)) :=
    List.mem_map_of_mem hx
  have hmax : DirectTcpTransport.kIntMax = 2147483647 := rfl
  rw [connectExchanges_eq] at hmem
  simp only [List.mem_cons, Prod.mk.injEq, decide_eq_true_eq, List.not_mem_nil, or_false] at hmem
  rcases hmem with ⟨hlen, hreply⟩ | ⟨hlen, hreply⟩ | ⟨hlen, hreply⟩
  · exact ⟨by omega, _, by decide +kernel, hreply⟩
  · exact ⟨by omega, _, by decide +kernel, hreply⟩
  · exact ⟨by omega, _, by decide +kernel, hreply⟩

/-- READ of an open file, the first request of the session. -/
def readRequest : Request := ⟨.read { length := 4096 }, 3, 5, 1⟩

/-- CLOSE of that file, the second one. -/
def closeRequest : Request := ⟨.close {}, 4, 5, 1⟩

def lateMessage : ByteVector :=
  encodeSmb2SyncHeader readRequest.header ++ (u16Le 49 ++ [0, 0] ++ u32Le 4096 ++ u64Le 0 ++
    fileIdBytes {} ++ u32Le 0 ++ u32Le 0 ++ u32Le 0 ++ u16Le 0 ++ u16Le 0 ++ [0])

def closeMessage : ByteVector :=
  encodeSmb2SyncHeader closeRequest.header ++ (u16Le 24 ++ u16Le 0 ++ u32Le 0 ++ fileIdBytes {})

set_option maxRecDepth 10000 in
theorem readRequest_frame : readRequest.frame = .ok (framed lateMessage) := by
  rfl

set_option maxRecDepth 10000 in
theorem closeRequest_frame : closeRequest.frame = .ok (framed closeMessage) := by
  rfl

theorem commandOf_closeMessage : commandOf (framed closeMessage) = some .close :=
  commandOf_encode (encodeDirectTcpFrame_framed (by decide))

/-- The READ was not answered in time. -/
def lateReply : DecodeResult ByteVector :=
  DirectTcpTransport.withRequestContext
    { code := .timeout, message := "SMB Direct TCP operation timed out." } (framed lateMessage)

/-- The READ that is too late, and the CLOSE that follows it. -/
def readThenClose : List Exchanged :=
  [⟨framed lateMessage, .raw, [⟨.exchange (framed lateMessage) {}, lateReply⟩]⟩,
    ⟨framed closeMessage, .raw,
      [⟨.exchange (framed closeMessage) {}, (.ok (framed closeMessage) : DecodeResult ByteVector)⟩]⟩]

theorem exchanges_readThenClose : Exchanges .raw readThenClose := by
  have hread : encodeDirectTcpFrame lateMessage = .ok (framed lateMessage) :=
    encodeDirectTcpFrame_framed (by decide)
  have hclose : encodeDirectTcpFrame closeMessage = .ok (framed closeMessage) :=
    encodeDirectTcpFrame_framed (by decide)
  have hruns (frame : ByteVector) (reply : DecodeResult ByteVector) :
      Program.Runs (TransportChain.raw.exchange frame {}) [⟨.exchange frame {}, reply⟩]
        (.ok reply, .raw) := .ask _ (.pure _)
  exact .cons hread (hruns _ _) (.cons hclose (hruns _ _) (.nil _))

/-- The requests of the handshake and their replies, all over the first connection. -/
theorem overTcp_connect {rest : List (ByteVector × DecodeResult ByteVector)} {sent : List SentOver}
    (hrest : OverTcp true 1 rest sent) :
    OverTcp false 0 (connectExchanges ++ rest)
      (connectExchanges.map (fun x => ⟨1, x.1, x.2⟩) ++ sent) := by
  have hanswered := answered_connectExchanges
  obtain ⟨first, more, hfirst⟩ : ∃ first more, connectExchanges = first :: more := by
    refine List.exists_cons_of_ne_nil fun hnil => ?_
    have hmap := connectExchanges_eq
    rw [hnil] at hmap
    cases hmap
  rw [hfirst] at hanswered ⊢
  refine @OverTcp.answered false 0 _ _ _ (hanswered first List.mem_cons_self) ?_
  exact .allAnswered (fun x hx => hanswered x (List.mem_cons_of_mem _ hx)) hrest

theorem unbroken_connectExchanges : Unbroken connectExchanges := by
  intro x hx
  obtain ⟨-, message, -, hreply⟩ := answered_connectExchanges x (List.dropLast_subset _ hx)
  exact ⟨_, hreply⟩

end GuestConnection

open GuestConnection in
/-- The connect of a guest. -/
theorem requests_authenticated_guest :
    ∃ sent, SessionRun noSha512 options {} connectExchanges ∧ OverTcp false 0 connectExchanges sent ∧
      ∀ before x after, sent = before ++ x :: after → ¬ Handshake x.frame →
        Authenticated before x := by
  have hrun : SessionRun noSha512 options {} connectExchanges :=
    .failed GuestConnection.runs_connect
  have hsent := overTcp_connect (.nil true 1)
  rw [List.append_nil] at hsent
  exact ⟨_, hrun, hsent, requests_authenticated hrun hsent unbroken_connectExchanges⟩

open GuestConnection in
/-- A READ of the session is answered too late and the transport closes its socket: the
    CLOSE that follows is sent over a second connection, without a handshake. -/
theorem close_sent_unauthenticated :
    ∃ exchanges sent, SessionRun noSha512 options {} exchanges ∧ OverTcp false 0 exchanges sent ∧
      ∃ before read close, sent = before ++ [read, close] ∧ readRequest.frame = .ok read.frame ∧
        closeRequest.frame = .ok close.frame ∧ ¬ Handshake close.frame ∧
        (∀ y ∈ before ++ [read], y.connection ≠ close.connection) ∧
        ¬ Authenticated (before ++ [read]) close := by
  have hrun : SessionRun noSha512 options {} (connectExchanges ++
      [(framed lateMessage, lateReply), (framed closeMessage, .ok (framed closeMessage))]) := by
    have hconnected := SessionRun.connected GuestConnection.runs_connect exchanges_readThenClose
    rw [rawExchanges_append] at hconnected
    exact hconnected
  have hclose : OverTcp false 1 [(framed closeMessage, .ok (framed closeMessage))]
      [⟨2, framed closeMessage, .ok (framed closeMessage)⟩] :=
    @OverTcp.answered false 1 _ _ _ ⟨by decide, closeMessage, by decide, rfl⟩ (.nil true 2)
  have hlate : OverTcp true 1
      [(framed lateMessage, lateReply), (framed closeMessage, .ok (framed closeMessage))]
      [⟨1, framed lateMessage, lateReply⟩, ⟨2, framed closeMessage, .ok (framed closeMessage)⟩] := by
    have hlen : (framed lateMessage).length ≤ DirectTcpTransport.kIntMax := by decide
    obtain ⟨es, hruns, hlog⟩ := runs_exchange_timeout hlen
    exact .cons hruns (hlog 1).symm hclose
  have hother : ∀ y ∈ connectExchanges.map (fun x => (⟨1, x.1, x.2⟩ : SentOver)) ++
      [⟨1, framed lateMessage, lateReply⟩], y.connection ≠ 2 := by
    intro y hy
    rcases List.mem_append.1 hy with hy | hy
    · obtain ⟨x, -, rfl⟩ := List.mem_map.1 hy
      show (1 : ℕ) ≠ 2
      decide
    · rw [List.mem_singleton] at hy
      rw [hy]
      decide
  refine ⟨_, _, hrun, overTcp_connect hlate, _, _, _, rfl, readRequest_frame, closeRequest_frame, ?_,
    hother, ?_⟩
  · rintro (h | h) <;> rw [commandOf_closeMessage] at h <;> cases h
  · rintro ⟨first, negotiate, between, setup, rest, hbefore, hconnection, -⟩
    refine hother negotiate ?_ hconnection
    rw [hbefore]
    exact List.mem_append_right _ List.mem_cons_self

end SmbBrowser.Native
