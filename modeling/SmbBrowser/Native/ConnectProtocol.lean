import Mathlib.Data.List.Nodup
import SmbBrowser.Native.ConnectPolicies

/-!
# The requests of a connect

The messages `connect` sends over any server and any token provider, in their
order, with their message ids.

Results:
* `sessionSetupRounds_numbered`: the rounds of SESSION_SETUP continue the message
  ids and the session id, and only SUCCESS ends them;
* `connectTree_sent`: TREE_CONNECT is sent once or twice, with the next ids;
* `secureSession_verified`: the check of the final SESSION_SETUP response;
* `connect_protocol`: what a successful connect has exchanged.
-/

namespace SmbBrowser.Native

open SmbBrowser.Base

/-! ## Message ids -/

/-- The message id of a message with an SMB2 header. -/
def messageIdOf (message : ByteVector) : Option UInt64 :=
  (decodeSmb2SyncHeader message).toOption.map (·.messageId)

@[simp] theorem messageIdOf_encode (header : Smb2SyncHeader) (body : ByteVector) :
    messageIdOf (encodeSmb2SyncHeader header ++ body) = some header.messageId := by
  rw [messageIdOf, decodeSmb2SyncHeader_encode]
  rfl

section

variable {messageId : ℕ} {sessionId : UInt64} {message : ByteVector}

theorem messageIdOf_sessionSetup {options : SessionSetupRequestOptions}
    (h : buildSessionSetupRequest options messageId sessionId = .ok message) :
    messageIdOf message = some (UInt64.ofNat messageId) := by
  rw [buildSessionSetupRequest] at h
  obtain ⟨checked, -, h⟩ := bind_eq_ok.1 h
  rw [pure_eq_ok] at h
  rw [← h, messageIdOf_encode]

theorem messageIdOf_treeConnect {options : TreeConnectRequestOptions}
    (h : buildTreeConnectRequest options messageId sessionId = .ok message) :
    messageIdOf message = some (UInt64.ofNat messageId) := by
  rw [buildTreeConnectRequest] at h
  obtain ⟨unc, -, h⟩ := bind_eq_ok.1 h
  obtain ⟨path, -, h⟩ := bind_eq_ok.1 h
  obtain ⟨checked, -, h⟩ := bind_eq_ok.1 h
  rw [pure_eq_ok] at h
  rw [← h, messageIdOf_encode]

end

/-- The message ids from `first` on, as they are written. -/
def messageIdsFrom (first count : ℕ) : List (Option UInt64) :=
  (List.range' first count).map fun id => some (UInt64.ofNat id)

theorem messageIdsFrom_succ (first count : ℕ) :
    messageIdsFrom first (count + 1) =
      some (UInt64.ofNat first) :: messageIdsFrom (first + 1) count := by
  rw [messageIdsFrom, List.range'_succ, List.map_cons]
  rfl

theorem messageIdsFrom_append (first m n : ℕ) :
    messageIdsFrom first (m + n) = messageIdsFrom first m ++ messageIdsFrom (first + m) n := by
  rw [messageIdsFrom, ← List.range'_append_1, List.map_append]
  rfl

/-- Written ids are different, also where the counter starts again at zero. -/
theorem nodup_messageIdsFrom {first count : ℕ} (h : count ≤ 2 ^ 64) :
    (messageIdsFrom first count).Nodup := by
  refine List.Nodup.map_on (fun i hi j hj hij => ?_) List.nodup_range'
  rw [List.mem_range'_1] at hi hj
  injection hij with hij
  have hid : i % 2 ^ 64 = j % 2 ^ 64 := congrArg UInt64.toNat hij
  omega

theorem lt_of_mem_messageIdsFrom {first count : ℕ} (h : first + count ≤ 2 ^ 64) {id : UInt64}
    (hid : some id ∈ messageIdsFrom first count) : id.toNat < first + count := by
  obtain ⟨i, hi, hsame⟩ := List.mem_map.1 hid
  rw [List.mem_range'_1] at hi
  injection hsame with hsame
  rw [← hsame, UInt64.toNat_ofNat_of_lt' (by rw [UInt64.size]; omega)]
  omega

/-! ## SESSION_SETUP -/

/-- Rounds of SESSION_SETUP: the requests take the message ids one after the other
    and the session id of the response before them, every response but the last
    asks for another round, and the last one has the status SUCCESS and gives the
    session id. -/
inductive SetupRounds (options : NativeSmbConnectorOptions) :
    ℕ → UInt64 → List (ByteVector × ByteVector) → UInt64 → Prop where
  | last {messageId : ℕ} {sessionId : UInt64} {token request payload : ByteVector}
      {response : SessionSetupResponse}
      (hrequest : buildSessionSetupRequest (sessionSetupOptionsFrom options token) messageId
        sessionId = .ok request)
      (hresponse : decodeSessionSetupResponse payload = .ok response)
      (hstatus : response.status = kStatusSuccess) :
      SetupRounds options messageId sessionId [(request, payload)] response.sessionId
  | more {messageId : ℕ} {sessionId final : UInt64} {token request payload : ByteVector}
      {response : SessionSetupResponse} {rounds : List (ByteVector × ByteVector)}
      (hrequest : buildSessionSetupRequest (sessionSetupOptionsFrom options token) messageId
        sessionId = .ok request)
      (hresponse : decodeSessionSetupResponse payload = .ok response)
      (hstatus : response.status = kStatusMoreProcessingRequired)
      (hrest : SetupRounds options (messageId + 1) response.sessionId rounds final) :
      SetupRounds options messageId sessionId ((request, payload) :: rounds) final

section

variable {sha512 : ByteVector → Vector UInt8 64} {options : NativeSmbConnectorOptions}
  {context : OperationContext} {es : List (Event Link)}

theorem SetupRounds.messageIds {messageId : ℕ} {sessionId final : UInt64}
    {rounds : List (ByteVector × ByteVector)}
    (h : SetupRounds options messageId sessionId rounds final) :
    rounds.map (fun round => messageIdOf round.1) = messageIdsFrom messageId rounds.length := by
  induction h with
  | last hrequest =>
    rw [List.map_singleton, messageIdOf_sessionSetup hrequest]
    rfl
  | more hrequest _ _ _ ih =>
    rw [List.map_cons, messageIdOf_sessionSetup hrequest, ih, List.length_cons,
      messageIdsFrom_succ]

/-- **The rounds of SESSION_SETUP** continue the message ids and the session id,
    and only SUCCESS ends them. -/
theorem sessionSetupRounds_numbered {negotiated : NegotiatedConnection} {rounds : ℕ}
    (hrounds : 0 < rounds) {token : ByteVector} {state : SetupState} :
    LinkMeets (sessionSetupRounds sha512 options negotiated context rounds token state)
      (fun r chain' es' => chain' = .raw ∧ ∀ setup, r = .ok (.ok setup) →
        ∃ log, SetupRounds options state.messageId state.sessionId log setup.sessionId ∧
          log.length ≤ rounds ∧ setup.messageId = state.messageId + log.length ∧
          (∃ request, log.getLast? = some (request, setup.session.responsePayload)) ∧
          exchangedMessages es' = exchangedMessages es ++ roundMessages log)
      .raw es := by
  induction rounds generalizing token state es with
  | zero => omega
  | succ rounds ih =>
    rw [sessionSetupRounds]
    refine sessionSetupExchange_meets.bind ?_ (by rintro e _ es' ⟨rfl, -⟩; exact ⟨rfl, by simp⟩)
    rintro r _ es₁ ⟨rfl, hr⟩
    cases r with
    | error e => exact ⟨rfl, by rintro _ ⟨⟩⟩
    | ok session =>
      obtain ⟨hrequest, ⟨response, hresponse, hstatus, hid⟩, hmessages⟩ := hr session rfl
      dsimp only
      cases setupPreauthHash sha512 negotiated.dialect state.preauthIntegrityHash session with
      | error e => exact ⟨rfl, by rintro _ ⟨⟩⟩
      | ok hash =>
        dsimp only
        cases hmore : session.moreProcessingRequired with
        | false =>
          rw [hmore, if_neg (by decide)] at hstatus
          rw [if_pos (by decide)]
          refine ⟨rfl, ?_⟩
          rintro setup ⟨⟩
          refine ⟨[(session.requestPayload, session.responsePayload)], ?_, ?_, rfl,
            ⟨session.requestPayload, rfl⟩, hmessages⟩
          · show SetupRounds _ _ _ _ session.sessionId
            rw [← hid]
            exact .last hrequest hresponse hstatus
          · rw [List.length_singleton]
            omega
        | true =>
          rw [hmore, if_pos rfl] at hstatus
          rw [if_neg (by decide)]
          refine meets_linkAsk fun ans => ?_
          have hasked : exchangedMessages (es₁ ++ [⟨.nextToken session, ans⟩]) =
              exchangedMessages es ++ [session.requestPayload, session.responsePayload] := by
            rw [exchangedMessages_append, hmessages]
            simp [messagesOf]
          split
          · exact ⟨rfl, by rintro _ ⟨⟩⟩
          split
          · exact ⟨rfl, by rintro _ ⟨⟩⟩
          refine (ih (by omega)).mono ?_
          rintro r chain' es' ⟨hchain, hr⟩
          refine ⟨hchain, ?_⟩
          intro setup hsetup
          obtain ⟨log, hlog, hcount, hnext, ⟨request, hlast⟩, hmessages'⟩ := hr setup hsetup
          rw [← hid] at hlog
          refine ⟨(session.requestPayload, session.responsePayload) :: log,
            .more hrequest hresponse hstatus hlog, ?_, ?_, ⟨request, ?_⟩, ?_⟩
          · rw [List.length_cons]
            omega
          · rw [hnext, List.length_cons]
            dsimp only
            omega
          · rw [List.getLast?_cons, hlast]
            rfl
          · rw [hmessages', hasked, roundMessages_cons]
            simp

/-- The message id of the first SESSION_SETUP request. -/
def firstMessageId (options : NativeSmbConnectorOptions) : ℕ :=
  if options.firstSessionMessageId = 0 then 1 else options.firstSessionMessageId

/-- The first stage of a connect: NEGOTIATE and the rounds. -/
theorem authenticate_numbered :
    LinkMeets (authenticate sha512 options context)
      (fun r chain' es' => chain' = .raw ∧ ∀ negotiated setup, r = .ok (.ok (negotiated, setup)) →
        ∃ request response log,
          buildNegotiateRequest (negotiateOptionsFrom options) 0 = .ok request ∧
          SetupRounds options (firstMessageId options) 0 log setup.sessionId ∧
          log.length ≤ max 1 options.maxSessionSetupRounds ∧
          setup.messageId = firstMessageId options + log.length ∧
          (∃ request, log.getLast? = some (request, setup.session.responsePayload)) ∧
          exchangedMessages es' = request :: response :: roundMessages log) .raw [] := by
  rw [authenticate]
  refine negotiate_meets.bind ?_ (by rintro e _ es' ⟨rfl, -⟩; exact ⟨rfl, by rintro _ _ ⟨⟩⟩)
  rintro r _ es₁ ⟨rfl, hr⟩
  cases r with
  | error e => exact ⟨rfl, by rintro _ _ ⟨⟩⟩
  | ok negotiated =>
    obtain ⟨request, response, -, hrequest, -, -, -, hmessages, -⟩ := hr negotiated rfl
    dsimp only
    split
    · exact ⟨rfl, by rintro _ _ ⟨⟩⟩
    refine meets_linkAsk fun token => ?_
    have hasked : exchangedMessages (es₁ ++ [⟨.initialToken negotiated, token⟩]) =
        [request, response] := by
      rw [exchangedMessages_append, hmessages]
      simp [messagesOf]
    split
    · exact ⟨rfl, by rintro _ _ ⟨⟩⟩
    have hrounds : 0 < if options.maxSessionSetupRounds = 0 then 1
        else options.maxSessionSetupRounds := by
      split <;> omega
    refine (sessionSetupRounds_numbered hrounds).bind ?_
      (by rintro e _ es' ⟨rfl, -⟩; exact ⟨rfl, by rintro _ _ ⟨⟩⟩)
    rintro r _ es₂ ⟨rfl, hr⟩
    cases r with
    | error e => exact ⟨rfl, by rintro _ _ ⟨⟩⟩
    | ok setup =>
      refine ⟨rfl, ?_⟩
      rintro _ _ ⟨⟩
      obtain ⟨log, hlog, hcount, hnext, hlast, hmessages'⟩ := hr setup rfl
      rw [hasked] at hmessages'
      refine ⟨request, response, log, hrequest, hlog, ?_, hnext, hlast, hmessages'⟩
      split at hcount <;> omega

end

/-! ## TREE_CONNECT -/

/-- What the raw transport is handed for a message: its frame, the signed frame, or
    the frame encrypted. -/
def Carries (dialect : Dialect) (sessionId : UInt64) (message raw : ByteVector) : Prop :=
  ∃ frame, encodeDirectTcpFrame message = .ok frame ∧
    (raw = frame ∨ (∃ key, signSmb2DirectTcpFrame frame key dialect = .ok (.ok raw)) ∨
      Wraps dialect sessionId frame raw)

section

variable {dialect : Dialect} {sessionId : UInt64} {key : Option ByteVector} {encrypted : Bool}
  {chain chain' : TransportChain} {message frame : ByteVector} {context : OperationContext}
  {es es' : List (Event Link)} {r : Except Exn (DecodeResult ByteVector)}

theorem Adds.rawFrames (h : Adds Quiet es es') : rawFrames es' = rawFrames es := by
  obtain ⟨added, rfl, hadded⟩ := h
  have hnone : Native.rawFrames added = [] := by
    induction added with
    | nil => rfl
    | cons e added ih =>
      have hrest := ih fun e' he' => hadded e' (List.mem_cons_of_mem e he')
      have hquiet := hadded e List.mem_cons_self
      obtain ⟨op, ans⟩ := e
      cases op with
      | exchange raw context => exact absurd rfl (hquiet raw context)
      | _ => exact hrest
  rw [rawFrames_append, hnone, List.append_nil]

/-- A request the connection goes on with was handed to the raw transport.  One
    that is denied may have been encrypted or not. -/
theorem Stack.sent (hstack : Stack dialect sessionId key encrypted chain)
    (hframe : encodeDirectTcpFrame message = .ok frame)
    (hrun : Program.Runs (chain.exchange frame context) es (r, chain')) (hgoes : GoesOn r)
    (honce : encrypted = false ∨ ∃ reply, r = .ok (.ok reply)) :
    ∃ raw, rawFrames es = [raw] ∧ Carries dialect sessionId message raw := by
  cases encrypted with
  | false =>
    have hchain : chain = signingStack dialect key := signingStack_of_layers hstack
    rw [hchain] at hrun
    obtain ⟨-, hnone⟩ | ⟨raw, answer, rfl, hraw, -⟩ := exchange_signingStack hframe hrun
    · exact absurd hgoes hnone
    · refine ⟨raw, rfl, frame, hframe, ?_⟩
      exact hraw.imp_right .inl
  | true =>
    obtain hplain | ⟨reply, hreply⟩ := honce
    · cases hplain
    obtain ⟨-, hnone⟩ | ⟨raw, answer, rfl, hwraps, -⟩ := hstack.exchange hframe hrun
    · exact absurd hreply (hnone reply)
    · exact ⟨raw, rfl, frame, hframe, .inr (.inr (hwraps rfl))⟩

/-- An exchange of the connector that goes on has sent its request. -/
theorem linkExchange_sent {α : Type} {cancelled : String} {request : Except Exn ByteVector}
    {decode : ByteVector → ByteVector → DecodeResult α}
    (hstack : Stack dialect sessionId key encrypted chain) :
    LinkMeets (linkExchange cancelled request decode context) (fun r _ es' =>
      GoesOn r → (encrypted = false ∨ ∃ a, r = .ok (.ok a)) →
        ∃ message raw, request = .ok message ∧ rawFrames es' = rawFrames es ++ [raw] ∧
          Carries dialect sessionId message raw) chain es := by
  have hcancelled {β : Type} (text : String) :
      ¬ GoesOn (.ok (failure .cancelled text) : Except Exn (DecodeResult β)) := by
    intro h
    cases h
  rw [linkExchange]
  refine cancelled_quiet.bind ?_ ?_
  swap
  · intro e chain' es' _ hgoes
    exact hgoes.elim
  rintro before chain₁ es₁ ⟨rfl, hes₁⟩
  split
  · intro hgoes
    exact absurd hgoes (hcancelled _)
  refine meets_ofExcept (fun message hmessage => ?_) fun e hgoes => hgoes.elim
  refine meets_ofExcept (fun frame hframe => ?_) fun e hgoes => hgoes.elim
  have hexchange : LinkMeets (LinkM.exchange frame context) (fun r _ es' => GoesOn r →
      (encrypted = false ∨ ∃ reply, r = .ok (.ok reply)) →
      ∃ raw, rawFrames es' = rawFrames es ++ [raw] ∧ Carries dialect sessionId message raw)
      chain₁ es₁ := by
    have hruns : ∀ es' (r : Except Exn (DecodeResult ByteVector) × TransportChain),
        Program.Runs (chain₁.exchange frame context) es' r → GoesOn r.1 →
          (encrypted = false ∨ ∃ reply, r.1 = .ok (.ok reply)) →
          ∃ raw, rawFrames es' = [raw] ∧ Carries dialect sessionId message raw := by
      intro es' r hrun hgoes honce
      exact hstack.sent hframe hrun hgoes honce
    refine (meets_history_of_runs hruns es₁).mono ?_
    rintro ⟨r, chain'⟩ es' ⟨added, rfl, hsent⟩ hgoes honce
    obtain ⟨raw, hraw, hcarries⟩ := hsent hgoes honce
    exact ⟨raw, by rw [rawFrames_append, hraw, hes₁.rawFrames], hcarries⟩
  refine hexchange.bind ?_ ?_
  swap
  · intro e chain' es' _ hgoes
    exact hgoes.elim
  rintro response chain₂ es₂ hsent
  cases response with
  | error e =>
    rintro hgoes (hplain | ⟨a, ha⟩)
    · obtain ⟨raw, hraw, hcarries⟩ := hsent hgoes (.inl hplain)
      exact ⟨message, raw, hmessage, hraw, hcarries⟩
    · cases ha
  | ok responseFrame =>
    obtain ⟨raw, hraw, hcarries⟩ := hsent trivial (.inr ⟨responseFrame, rfl⟩)
    refine cancelled_quiet.bind ?_ ?_
    swap
    · intro e chain' es' _ hgoes
      exact hgoes.elim
    rintro after _ es₃ ⟨rfl, hes₃⟩
    have hall : ∃ message raw, request = .ok message ∧ rawFrames es₃ = rawFrames es ++ [raw] ∧
        Carries dialect sessionId message raw :=
      ⟨message, raw, hmessage, by rw [hes₃.rawFrames, hraw], hcarries⟩
    split
    · exact fun _ _ => hall
    split
    · exact fun _ _ => hall
    · exact fun _ _ => hall

end

/-- TREE_CONNECT requests with the message ids from `first` on. -/
def TreeRequests (config : ConnectionConfig) (first : ℕ) (sessionId : UInt64)
    (trees : List ByteVector) : Prop :=
  List.Forall₂ (fun id message => buildTreeConnectRequest
    { server := config.server, share := config.share } id sessionId = .ok message)
    (List.range' first trees.length) trees

theorem TreeRequests.messageIds {config : ConnectionConfig} {first : ℕ} {sessionId : UInt64}
    {trees : List ByteVector} (h : TreeRequests config first sessionId trees) :
    trees.map messageIdOf = messageIdsFrom first trees.length := by
  rw [messageIdsFrom]
  rw [TreeRequests] at h
  generalize List.range' first trees.length = ids at h
  induction h with
  | nil => rfl
  | cons hid _ ih => rw [List.map_cons, List.map_cons, messageIdOf_treeConnect hid, ih]

section

variable {config : ConnectionConfig} {negotiated : NegotiatedConnection} {setup : SetupState}
  {key : Option ByteVector} {encrypted : Bool} {chain : TransportChain}
  {context : OperationContext} {es : List (Event Link)} {sessionKey : ByteVector}

/-- TREE_CONNECT over the stack of a session: what becomes of the stack, and the
    request. -/
theorem treeConnect_sent {messageId : ℕ}
    (h : Established config negotiated setup key encrypted chain es) :
    LinkMeets (treeConnect { server := config.server, share := config.share } messageId
        setup.sessionId context)
      (fun r chain' es' => Established config negotiated setup key encrypted chain' es' ∧
        (GoesOn r → (encrypted = false ∨ ∃ tree, r = .ok (.ok tree)) →
          ∃ message raw, buildTreeConnectRequest { server := config.server, share := config.share }
              messageId setup.sessionId = .ok message ∧
            rawFrames es' = rawFrames es ++ [raw] ∧
            Carries negotiated.dialect setup.sessionId message raw)) chain es := by
  refine ((linkExchange_stack _ _ _ h.stack).and (linkExchange_sent h.stack)).mono ?_
  rintro r chain' es' ⟨⟨hstack, hes⟩, hsent⟩
  exact ⟨h.mono hstack hes.subset, hsent⟩

/-- **TREE_CONNECT** is sent once, or twice when it was denied, with the next
    message ids. -/
theorem connectTree_sent (h : Established config negotiated setup key encrypted chain es) :
    LinkMeets (connectTree config negotiated setup sessionKey encrypted context)
      (fun r _ es' => ∀ result, r = .ok (.ok result) →
        ∃ trees sent, (trees.length = 1 ∨ trees.length = 2) ∧
          TreeRequests config setup.messageId setup.sessionId trees ∧
          result.2 = setup.messageId + trees.length ∧
          rawFrames es' = rawFrames es ++ sent ∧
          List.Forall₂ (Carries negotiated.dialect setup.sessionId) trees sent) chain es := by
  rw [connectTree]
  refine (treeConnect_sent h).bind ?_ ?_
  swap
  · rintro e chain' es' - result ⟨⟩
  rintro r chain₁ es₁ ⟨h₁, hsent₁⟩
  cases r with
  | ok tree =>
    obtain ⟨message, raw, hmessage, hraw, hcarries⟩ := hsent₁ trivial (.inr ⟨tree, rfl⟩)
    refine (encryptForShare_stack h₁).mono ?_
    rintro r chain₂ es₂ ⟨hes₂, encrypted', -, hresult⟩ result hr
    obtain ⟨hresult, -⟩ := hresult result hr
    refine ⟨[message], [raw], .inl rfl, .cons hmessage .nil, ?_, ?_, .cons hcarries .nil⟩
    · rw [hresult]
      rfl
    · rw [hes₂.rawFrames, hraw]
  | error e =>
    dsimp only
    split
    swap
    · rintro result ⟨⟩
    rename_i hretry
    have hplain : encrypted = false := by simpa using hretry.2.2.2
    subst hplain
    obtain ⟨message, raw, hmessage, hraw, hcarries⟩ := hsent₁ hretry.1 (.inl rfl)
    refine (enableEncryption_stack h₁).bind ?_ ?_
    swap
    · rintro e chain' es' - result ⟨⟩
    rintro r chain₂ es₂ ⟨hes₂, hencrypted⟩
    cases r with
    | error e => rintro result ⟨⟩
    | ok u =>
      obtain ⟨-, hne⟩ | h₂ := hencrypted
      · exact absurd rfl hne
      refine (treeConnect_sent h₂).bind ?_ ?_
      swap
      · rintro e chain' es' - result ⟨⟩
      rintro r chain₃ es₃ ⟨h₃, hsent₃⟩
      cases r with
      | error e => rintro result ⟨⟩
      | ok tree =>
        obtain ⟨message', raw', hmessage', hraw', hcarries'⟩ :=
          hsent₃ trivial (.inr ⟨tree, rfl⟩)
        refine (encryptForShare_stack h₃).mono ?_
        rintro r chain₄ es₄ ⟨hes₄, encrypted', -, hresult⟩ result hr
        obtain ⟨hresult, -⟩ := hresult result hr
        refine ⟨[message, message'], [raw, raw'], .inr rfl, .cons hmessage (.cons hmessage' .nil),
          ?_, ?_, .cons hcarries (.cons hcarries' .nil)⟩
        · rw [hresult]
          rfl
        · rw [hes₄.rawFrames, hraw', hes₂.rawFrames, hraw, List.append_assoc]
          rfl

/-! ## The final response of SESSION_SETUP -/

/-- The response is flagged as signed. -/
def FlaggedSigned (payload : ByteVector) : Prop :=
  ∃ header, decodeSmb2SyncHeader payload = .ok header ∧ header.flags &&& kFlagSigned ≠ 0

/-- The frame of a response verifies with the key derived from a session key of the
    token provider. -/
def FinalVerified (negotiated : NegotiatedConnection) (preauthIntegrityHash payload : ByteVector)
    (es : List (Event Link)) : Prop :=
  ∃ sessionKey key frame, sessionKeyEvent sessionKey ∈ es ∧
    deriveSigningKey negotiated sessionKey preauthIntegrityHash = .ok key ∧
    encodeDirectTcpFrame payload = .ok frame ∧
    verifySmb2DirectTcpFrameSignature frame key negotiated.dialect = .ok true

theorem verified_of_verifyFinalSession {payload frame signingKey : ByteVector}
    (hframe : encodeDirectTcpFrame payload = .ok frame)
    (h : verifyFinalSession negotiated frame signingKey = .ok ())
    (hasked : FlaggedSigned payload ∨ negotiated.signingRequired = true) :
    verifySmb2DirectTcpFrameSignature frame signingKey negotiated.dialect = .ok true := by
  rw [verifyFinalSession, decodeDirectTcpPayload_encode hframe] at h
  dsimp only at h
  rw [if_pos] at h
  · cases hverify : verifySmb2DirectTcpFrameSignature frame signingKey negotiated.dialect with
    | error e =>
      rw [hverify] at h
      cases h
    | ok verified =>
      cases verified with
      | true => rfl
      | false =>
        rw [hverify] at h
        cases h
  · rw [Bool.or_eq_true]
    rcases hasked with ⟨header, hheader, hflag⟩ | hrequired
    · rw [hheader]
      exact .inl (decide_eq_true hflag)
    · exact .inr hrequired

/-- Signing asks the token provider for a session key first. -/
theorem secureSession_verified :
    LinkMeets (secureSession config negotiated setup) (fun r _ es' => ∀ secured,
      r = .ok (.ok secured) → setup.sessionId ≠ 0 ∧
        (shouldSignConnection config negotiated setup.session = true →
          FlaggedSigned setup.session.responsePayload ∨ negotiated.signingRequired = true →
          FinalVerified negotiated setup.preauthIntegrityHash setup.session.responsePayload es'))
      .raw es := by
  rw [secureSession]
  split
  · rintro _ ⟨⟩
  rename_i hid
  split
  · rintro _ ⟨⟩
  refine earlySessionKey_known.bind ?_ ?_
  swap
  · rintro e chain' es' - _ ⟨⟩
  rintro r _ es₁ ⟨rfl, -, hkey⟩
  cases r with
  | error e => rintro _ ⟨⟩
  | ok sessionKey =>
    have hsigned : LinkMeets (signConnection config negotiated setup sessionKey) (fun r _ es' =>
        r = .ok (.ok ()) → es' = es₁ ∧
        (shouldSignConnection config negotiated setup.session = true →
          FlaggedSigned setup.session.responsePayload ∨ negotiated.signingRequired = true →
          FinalVerified negotiated setup.preauthIntegrityHash setup.session.responsePayload es₁))
        .raw es₁ := by
      rw [signConnection]
      split
      · rename_i hsign
        exact fun _ => ⟨rfl, fun hsign' => absurd hsign' hsign⟩
      rename_i hsign
      split
      · rintro ⟨⟩
      split
      · rintro ⟨⟩
      · rename_i signingKey hderive
        refine meets_ofExcept (fun frame hframe => ?_) (by rintro e ⟨⟩)
        split
        · rintro ⟨⟩
        · rename_i hverified
          refine fun _ => ⟨rfl, fun hsign' hasked => ?_⟩
          exact ⟨sessionKey, signingKey, frame, hkey sessionKey rfl hsign', hderive, hframe,
            verified_of_verifyFinalSession hframe hverified hasked⟩
    have hstack := signConnection_stack (hkey sessionKey rfl)
    refine (hsigned.and hstack).bind ?_ ?_
    swap
    · rintro e chain' es' - _ ⟨⟩
    rintro r chain₂ es₂ ⟨hverified, hes₂, hestablished⟩
    cases r with
    | error e => rintro _ ⟨⟩
    | ok u =>
      obtain ⟨rfl, hverified⟩ := hverified rfl
      dsimp only
      split
      · obtain ⟨-, hne⟩ | ⟨key, h⟩ := hestablished
        · exact absurd rfl hne
        refine (enableEncryption_stack h).bind ?_ ?_
        swap
        · rintro e chain' es' - _ ⟨⟩
        rintro r chain₃ es₃ ⟨hes₃, -⟩
        cases r with
        | error e => rintro _ ⟨⟩
        | ok u =>
          rintro _ ⟨⟩
          refine ⟨hid, fun hsign hasked => ?_⟩
          obtain ⟨sessionKey', key', frame, hmem, hrest⟩ := hverified hsign hasked
          exact ⟨sessionKey', key', frame, hes₃.subset hmem, hrest⟩
      · rintro _ ⟨⟩
        exact ⟨hid, hverified⟩

end

/-! ## The whole connect -/

/-- What a successful connect has exchanged, in three parts: NEGOTIATE and the
    rounds of SESSION_SETUP, what secures the session, and TREE_CONNECT. -/
structure ConnectTranscript (sha512 : ByteVector → Vector UInt8 64)
    (options : NativeSmbConnectorOptions) (state : NativeSmbConnectedState)
    (handshake secured connected : List (Event Link)) (rounds : List (ByteVector × ByteVector))
    (trees : List ByteVector) : Prop where
  messages : ∃ request response,
    buildNegotiateRequest (negotiateOptionsFrom options) 0 = .ok request ∧
      exchangedMessages handshake = request :: response :: roundMessages rounds
  setup : SetupRounds options (firstMessageId options) 0 rounds state.connection.sessionId
  sessionId_ne_zero : state.connection.sessionId ≠ 0
  length_rounds : rounds.length ≤ max 1 options.maxSessionSetupRounds
  quiet : rawFrames secured = []
  length_trees : trees.length = 1 ∨ trees.length = 2
  requests : TreeRequests options.config (firstMessageId options + rounds.length)
    state.connection.sessionId trees
  sent : List.Forall₂ (Carries state.negotiated.dialect state.connection.sessionId) trees
    (rawFrames connected)
  nextMessageId : state.connection.nextMessageId =
    firstMessageId options + (rounds.length + trees.length)
  verified : ∃ request payload preauthIntegrityHash, rounds.getLast? = some (request, payload) ∧
    (state.negotiated.dialect = .smb311 →
      preauthIntegrityHash = preauthHash sha512 (exchangedMessages handshake).dropLast) ∧
    (shouldSignConnection options.config state.negotiated state.session = true →
      FlaggedSigned payload ∨ state.negotiated.signingRequired = true →
      FinalVerified state.negotiated preauthIntegrityHash payload secured)

section

variable {sha512 : ByteVector → Vector UInt8 64} {options : NativeSmbConnectorOptions}
  {context : OperationContext} {es handshake rest : List (Event Link)} {chain : TransportChain}
  {negotiated : NegotiatedConnection} {setup : SetupState} {state : NativeSmbConnectedState}

/-- The second stage of a successful connect secures the session and then connects
    to the tree. -/
theorem runs_establish (h : Program.Runs
      ((establish options.config context negotiated setup).run.run .raw) rest
      (.ok (.ok state), chain)) :
    ∃ secured connected sessionKey encrypted chain₁ tree messageId, rest = secured ++ connected ∧
      Program.Runs ((secureSession options.config negotiated setup).run.run .raw) secured
        (.ok (.ok (sessionKey, encrypted)), chain₁) ∧
      Program.Runs ((connectTree options.config negotiated setup sessionKey encrypted
        context).run.run chain₁) connected (.ok (.ok (tree, messageId)), chain) ∧
      state = { connection := .new tree.treeId setup.sessionId messageId, negotiated,
                session := setup.session, tree } := by
  rw [establish] at h
  obtain ⟨e, hr, -⟩ | ⟨secured, r, chain₁, rest₁, rfl, hsecured, h⟩ := runsS_bind.1 h
  · cases hr
  cases r with
  | error e =>
    obtain ⟨-, hr⟩ := Program.runs_pure.1 h
    cases hr
  | ok result =>
    obtain ⟨sessionKey, encrypted⟩ := result
    obtain ⟨e, hr, -⟩ | ⟨connected, r, chain₂, rest₂, rfl, hconnected, h⟩ := runsS_bind.1 h
    · cases hr
    cases r with
    | error e =>
      obtain ⟨-, hr⟩ := Program.runs_pure.1 h
      cases hr
    | ok result =>
      obtain ⟨tree, messageId⟩ := result
      obtain ⟨rfl, hr⟩ := Program.runs_pure.1 h
      injection hr with hr hchain
      injection hr with hr
      injection hr with hr
      rw [← hchain] at hconnected
      exact ⟨secured, connected, sessionKey, encrypted, chain₁, tree, messageId,
        by rw [List.append_nil], hsecured, hconnected, hr⟩

theorem dropLast_of_append_pair {messages : List ByteVector} (first : List ByteVector)
    {request response : ByteVector} (h : messages = first ++ [request, response]) :
    messages.dropLast = first ++ [request] := by
  rw [h, show first ++ [request, response] = (first ++ [request]) ++ [response] by simp,
    List.dropLast_concat]

/-- **The protocol of a connect.**  For any server and any token provider, a
    successful connect has set the session up in at most the allowed rounds, the last
    with the status SUCCESS and a session id, and has sent TREE_CONNECT once or twice;
    the message ids are consecutive and different and come before those of the session;
    and where the connection signs, a final SESSION_SETUP response that is flagged as
    signed, or has to be, was verified before. -/
theorem connect_protocol
    (hrun : Program.Runs ((connect sha512 options context).run.run .raw) es
      (.ok (.ok state), chain)) :
    ∃ handshake secured connected rounds trees, es = handshake ++ (secured ++ connected) ∧
      ConnectTranscript sha512 options state handshake secured connected rounds trees ∧
      (rounds.map Prod.fst ++ trees).map messageIdOf =
        messageIdsFrom (firstMessageId options) (rounds.length + trees.length) ∧
      (options.maxSessionSetupRounds < 2 ^ 16 →
        ((rounds.map Prod.fst ++ trees).map messageIdOf).Nodup) ∧
      (firstMessageId options + max 1 options.maxSessionSetupRounds + 2 < 2 ^ 64 →
        ∀ message ∈ rounds.map Prod.fst ++ trees, ∀ id, messageIdOf message = some id →
          id.toNat < state.connection.nextMessageId) := by
  obtain ⟨-, hfailed⟩ | ⟨handshake, negotiated, setup, rest, rfl, h⟩ := runs_connect hrun
  · exact absurd rfl (hfailed state)
  obtain ⟨secured, connected, sessionKey, encrypted, chain₁, tree, messageId, rfl, hsecured,
    hconnected, rfl⟩ := runs_establish h.established
  obtain ⟨-, hnumbered⟩ := Meets.history authenticate_numbered h.authenticated
  obtain ⟨request, response, rounds, hrequest, hrounds, hcount, hnext, ⟨last, hlast⟩, hmessages⟩ :=
    hnumbered negotiated setup rfl
  obtain ⟨hquiet, -, hestablished⟩ := Meets.history secureSession_stack hsecured
  obtain ⟨-, key, hestablished⟩ := hestablished sessionKey encrypted rfl
  obtain ⟨hid, hverified⟩ := Meets.history secureSession_verified hsecured _ rfl
  obtain ⟨trees, sent, htrees, hrequests, hmessageId, hsent, hcarried⟩ :=
    Meets.after (connectTree_sent hestablished) hconnected _ rfl
  rw [rawFrames_append] at hsent
  rw [← List.append_cancel_left hsent] at hcarried
  rw [hnext] at hrequests hmessageId
  have hmessageId : messageId = firstMessageId options + rounds.length + trees.length := hmessageId
  have hfirst : 0 < firstMessageId options := by
    rw [firstMessageId]
    split <;> omega
  have hsessionNext : (Session.new tree.treeId setup.sessionId messageId).nextMessageId =
      firstMessageId options + (rounds.length + trees.length) := by
    show (if messageId = 0 then 1 else messageId) = _
    rw [if_neg (by omega), hmessageId, Nat.add_assoc]
  obtain ⟨_, _, before, final, -, -, -, -, hfinal, htranscript, hhash⟩ := h.transcript
  have htranscript' := dropLast_of_append_pair (_ :: _ :: roundMessages before) htranscript
  have hids : (rounds.map Prod.fst ++ trees).map messageIdOf =
      messageIdsFrom (firstMessageId options) (rounds.length + trees.length) := by
    rw [List.map_append, List.map_map, messageIdsFrom_append, ← hrequests.messageIds]
    exact congrArg (· ++ _) hrounds.messageIds
  refine ⟨handshake, secured, connected, rounds, trees, rfl, ?_, hids, ?_, ?_⟩
  · exact {
      messages := ⟨request, response, hrequest, hmessages⟩
      setup := hrounds
      sessionId_ne_zero := hid
      length_rounds := hcount
      quiet := hquiet.rawFrames
      length_trees := htrees
      requests := hrequests
      sent := hcarried
      nextMessageId := hsessionNext
      verified := ⟨last, setup.session.responsePayload, setup.preauthIntegrityHash, hlast,
        (by intro hdialect; rw [htranscript']; exact hhash hdialect), hverified⟩ }
  · intro hbound
    rw [hids]
    exact nodup_messageIdsFrom (by omega)
  · intro hfits message hmem id hid
    have hid' : some id ∈ (rounds.map Prod.fst ++ trees).map messageIdOf :=
      List.mem_map.2 ⟨message, hmem, hid⟩
    rw [hids] at hid'
    rw [hsessionNext]
    exact lt_of_mem_messageIdsFrom (by omega) hid'

open ShareConnection in
/-- The connect to the share that asks for encryption: one round and one
    TREE_CONNECT. -/
theorem connect_protocol_share : ∃ rounds trees : List ByteVector,
    (rounds ++ trees).map messageIdOf = messageIdsFrom 1 2 := by
  obtain ⟨es, hconnect, -⟩ := ShareConnection.runs_connect
  obtain ⟨handshake, secured, connected, rounds, trees, -, htranscript, hids, -⟩ :=
    connect_protocol hconnect
  have hcount : 3 = 1 + (rounds.length + trees.length) := htranscript.nextMessageId
  rw [show rounds.length + trees.length = 2 by omega] at hids
  exact ⟨rounds.map Prod.fst, trees, hids⟩

end

end SmbBrowser.Native
