import SmbBrowser.Native.Layering

/-!
# The handshake and its transcript

`connect` in two stages: `authenticate` negotiates and sets the session up over
the raw transport, `establish` does the rest.

Results:
* `connect_eq`: the two stages are the whole of `connect`;
* `authenticate_meets`: for SMB 3.1.1 the hash the first stage hands to the
  second is the fold of SHA-512 over the messages it exchanged, the last one
  left out;
* `preauthIntegrityHash_transcript`: so it is in every run of `connect`.
-/

namespace SmbBrowser.Native

open SmbBrowser.Base

/-! ## The stages of a connect -/

/-- NEGOTIATE and the rounds of SESSION_SETUP (NativeSmbConnector.cpp:85–158). -/
def authenticate (sha512 : ByteVector → Vector UInt8 64) (options : NativeSmbConnectorOptions)
    (context : OperationContext) : LinkM (DecodeResult (NegotiatedConnection × SetupState)) := do
  match ← negotiate sha512 (negotiateOptionsFrom options) context with
  | .error e => return failureFrom e
  | .ok negotiated =>
    match checkNegotiatedEncryption options.config negotiated with
    | .error e => return .error e
    | .ok () =>
      match ← LinkM.ask (.initialToken negotiated) with
      | .error e => return failureFrom e
      | .ok token =>
        let firstMessageId :=
          if options.firstSessionMessageId = 0 then 1 else options.firstSessionMessageId
        let maxRounds :=
          if options.maxSessionSetupRounds = 0 then 1 else options.maxSessionSetupRounds
        match ← sessionSetupRounds sha512 options negotiated context maxRounds token {
            preauthIntegrityHash := negotiated.preauthIntegrityHash
            messageId := firstMessageId } with
        | .error e => return .error e
        | .ok setup => return .ok (negotiated, setup)

/-- Signing, encryption and TREE_CONNECT (NativeSmbConnector.cpp:160–339). -/
def establish (config : ConnectionConfig) (context : OperationContext)
    (negotiated : NegotiatedConnection) (setup : SetupState) :
    LinkM (DecodeResult NativeSmbConnectedState) := do
  match ← secureSession config negotiated setup with
  | .error e => return .error e
  | .ok (sessionKey, connectionEncrypted) =>
    match ← connectTree config negotiated setup sessionKey connectionEncrypted context with
    | .error e => return .error e
    | .ok (tree, messageId) =>
      return .ok {
        connection := .new tree.treeId setup.sessionId messageId
        negotiated
        session := setup.session
        tree }

theorem connect_eq (sha512 : ByteVector → Vector UInt8 64) (options : NativeSmbConnectorOptions)
    (context : OperationContext) :
    connect sha512 options context = (do
      match ← authenticate sha512 options context with
      | .error e => return .error e
      | .ok (negotiated, setup) => establish options.config context negotiated setup) := by
  rw [connect, authenticate, bind_assoc]
  congr 1
  funext negotiated
  cases negotiated with
  | error e => rfl
  | ok negotiated =>
    dsimp only
    cases checkNegotiatedEncryption options.config negotiated with
    | error e => rfl
    | ok u =>
      dsimp only
      rw [bind_assoc]
      congr 1
      funext token
      cases token with
      | error e => rfl
      | ok token =>
        dsimp only
        rw [bind_assoc]
        congr 1
        funext setup
        cases setup with
        | error e => rfl
        | ok setup => rfl

/-! ## The messages of a run -/

/-- The message in a frame, when it has one. -/
def messageIn (frame : ByteVector) : List ByteVector := (decodeDirectTcpPayload frame).toOption.toList

/-- The messages of one exchange with the raw transport, without their framing. -/
def messagesOf : Event Link → List ByteVector
  | ⟨.exchange frame _, (.ok reply : DecodeResult ByteVector)⟩ => messageIn frame ++ messageIn reply
  | ⟨.exchange frame _, (.error _ : DecodeResult ByteVector)⟩ => messageIn frame
  | _ => []

/-- The messages exchanged with the raw transport, in their order. -/
def exchangedMessages (es : List (Event Link)) : List ByteVector := es.flatMap messagesOf

@[simp] theorem exchangedMessages_nil : exchangedMessages [] = [] := rfl

@[simp] theorem exchangedMessages_append (es es' : List (Event Link)) :
    exchangedMessages (es ++ es') = exchangedMessages es ++ exchangedMessages es' :=
  List.flatMap_append

@[simp] theorem exchangedMessages_singleton (e : Event Link) :
    exchangedMessages [e] = messagesOf e :=
  List.flatMap_singleton ..

theorem messageIn_encode {message frame : ByteVector} (h : encodeDirectTcpFrame message = .ok frame) :
    messageIn frame = [message] := by
  rw [messageIn, decodeDirectTcpPayload_encode h]
  rfl

/-- The fold of SHA-512 over messages, from 64 zero bytes. -/
def preauthHash (sha512 : ByteVector → Vector UInt8 64) (messages : List ByteVector) : ByteVector :=
  messages.foldl (fun hash message => (sha512 (hash ++ message)).toList) (List.replicate 64 0)

theorem preauthHash_append (sha512 : ByteVector → Vector UInt8 64) (messages : List ByteVector)
    (message : ByteVector) :
    preauthHash sha512 (messages ++ [message]) =
      (sha512 (preauthHash sha512 messages ++ message)).toList := by
  rw [preauthHash, List.foldl_append]
  rfl

@[simp] theorem length_preauthHash (sha512 : ByteVector → Vector UInt8 64)
    (messages : List ByteVector) : (preauthHash sha512 messages).length = 64 := by
  have hfold : ∀ (messages : List ByteVector) (hash : ByteVector), hash.length = 64 →
      (messages.foldl (fun hash message => (sha512 (hash ++ message)).toList) hash).length = 64 := by
    intro messages
    induction messages with
    | nil => exact fun hash h => h
    | cons message messages ih => exact fun hash _ => ih _ (Vector.length_toList ..)
  exact hfold messages _ (List.length_replicate ..)

theorem updateSmb311PreauthHash_preauthHash (sha512 : ByteVector → Vector UInt8 64)
    (messages : List ByteVector) (message : ByteVector) :
    updateSmb311PreauthHash sha512 (preauthHash sha512 messages) message =
      .ok (preauthHash sha512 (messages ++ [message])) := by
  rw [updateSmb311PreauthHash, if_neg (by simp [kSha512DigestSize]), preauthHash_append]

/-! ## The transcript of the first stage -/

section

variable {sha512 : ByteVector → Vector UInt8 64} {options : NativeSmbConnectorOptions}
  {context : OperationContext} {es : List (Event Link)}

theorem cancelled_meets {chain : TransportChain} :
    LinkMeets (LinkM.cancelled context) (fun _ chain' es' => chain' = chain ∧
      exchangedMessages es' = exchangedMessages es) chain es := by
  rw [LinkM.cancelled]
  by_cases hc : context.cancellable = true
  · rw [if_pos hc]
    refine ⟨trivial, ?_⟩
    rintro ans m rfl
    refine ⟨rfl, ?_⟩
    simp [messagesOf]
  · rw [if_neg hc]
    exact ⟨rfl, rfl⟩

theorem meets_exchange_raw {β : Type} {frame : ByteVector}
    {f : DecodeResult ByteVector → LinkM β}
    {Q : Except Exn β → TransportChain → List (Event Link) → Prop}
    (h : ∀ response, LinkMeets (f response) Q .raw (es ++ [⟨.exchange frame context, response⟩])) :
    LinkMeets (LinkM.exchange frame context >>= f) Q .raw es := by
  rw [LinkMeets, meetsS_bind]
  refine ⟨trivial, ?_⟩
  rintro response m rfl
  exact h response

/-- A successful exchange over the raw transport adds its two messages. -/
theorem linkExchange_meets {α : Type} (cancelled : String) (request : Except Exn ByteVector)
    (decode : ByteVector → ByteVector → DecodeResult α) :
    LinkMeets (linkExchange cancelled request decode context)
      (fun r chain' es' => chain' = .raw ∧ ∀ a, r = .ok (.ok a) →
        ∃ requestPayload payload, request = .ok requestPayload ∧
          decode requestPayload payload = .ok a ∧
          exchangedMessages es' = exchangedMessages es ++ [requestPayload, payload]) .raw es := by
  rw [linkExchange]
  refine cancelled_meets.bind ?_ (by rintro e _ es' ⟨rfl, -⟩; exact ⟨rfl, by rintro _ ⟨⟩⟩)
  rintro cancelledBefore _ es₁ ⟨rfl, hes₁⟩
  split
  · exact ⟨rfl, by rintro _ ⟨⟩⟩
  refine meets_ofExcept (fun requestPayload hrequest => ?_) fun e => ⟨rfl, by rintro _ ⟨⟩⟩
  refine meets_ofExcept (fun requestFrame hframe => ?_) fun e => ⟨rfl, by rintro _ ⟨⟩⟩
  refine meets_exchange_raw fun response => ?_
  cases response with
  | error e => exact ⟨rfl, by rintro _ ⟨⟩⟩
  | ok responseFrame =>
    refine cancelled_meets.bind ?_ (by rintro e _ es' ⟨rfl, -⟩; exact ⟨rfl, by rintro _ ⟨⟩⟩)
    rintro cancelledAfter _ es₂ ⟨rfl, hes₂⟩
    split
    · exact ⟨rfl, by rintro _ ⟨⟩⟩
    cases hpayload : decodeDirectTcpPayload responseFrame with
    | error e => exact ⟨rfl, by rintro _ ⟨⟩⟩
    | ok payload =>
      refine ⟨rfl, ?_⟩
      rintro a ha
      have hdecode : decode requestPayload payload = .ok a := by
        injection ha
      refine ⟨requestPayload, payload, hrequest, hdecode, ?_⟩
      have hreply : messageIn responseFrame = [payload] := by
        rw [messageIn, hpayload]
        rfl
      rw [hes₂, exchangedMessages_append, exchangedMessages_singleton, messagesOf,
        messageIn_encode hframe, hreply, hes₁]
      rfl

/-- A response of SESSION_SETUP has one of the two statuses its decoder accepts. -/
theorem status_of_decodeSessionSetupResponse {payload : ByteVector} {response : SessionSetupResponse}
    (h : decodeSessionSetupResponse payload = .ok response) :
    response.status = (if response.moreProcessingRequired then kStatusMoreProcessingRequired
      else kStatusSuccess) := by
  rw [decodeSessionSetupResponse] at h
  obtain ⟨header, hheader, h⟩ := bind_eq_ok.1 h
  obtain ⟨-, -, -, haccepted⟩ := header_of_decodeResponseFixed hheader
  obtain ⟨securityBufferOffset, -, h⟩ := bind_eq_ok.1 h
  obtain ⟨securityBufferLength, -, h⟩ := bind_eq_ok.1 h
  split at h
  · cases h
  obtain ⟨sessionFlags, -, h⟩ := bind_eq_ok.1 h
  obtain ⟨securityBuffer, -, h⟩ := bind_eq_ok.1 h
  rw [pure_eq_ok] at h
  subst h
  by_cases hmore : header.status = kStatusMoreProcessingRequired
  · simp [hmore]
  · have hsuccess : header.status = kStatusSuccess := by
      simpa [sessionSetupFormat, hmore] using haccepted
    simp [hsuccess, kStatusSuccess, kStatusMoreProcessingRequired]

/-- One round of SESSION_SETUP: a request the connector built, and a response
    with this status. -/
def IsSetupRound (options : NativeSmbConnectorOptions) (status : UInt32)
    (round : ByteVector × ByteVector) : Prop :=
  (∃ token messageId sessionId, buildSessionSetupRequest (sessionSetupOptionsFrom options token)
    messageId sessionId = .ok round.1) ∧
  ∃ response, decodeSessionSetupResponse round.2 = .ok response ∧ response.status = status

/-- The messages of rounds in their order. -/
def roundMessages (rounds : List (ByteVector × ByteVector)) : List ByteVector :=
  rounds.flatMap fun round => [round.1, round.2]

@[simp] theorem roundMessages_cons (round : ByteVector × ByteVector)
    (rounds : List (ByteVector × ByteVector)) :
    roundMessages (round :: rounds) = round.1 :: round.2 :: roundMessages rounds := rfl

/-- The preauth hash after one round over the messages so far. -/
theorem setupPreauthHash_meets {messages : List ByteVector} {session : SessionSetupResponse}
    {hash : ByteVector}
    (h : setupPreauthHash sha512 .smb311 (preauthHash sha512 messages) session = .ok hash) :
    hash = preauthHash sha512 (messages ++ if session.moreProcessingRequired then
      [session.requestPayload, session.responsePayload] else [session.requestPayload]) := by
  rw [setupPreauthHash, if_pos rfl, updateSmb311PreauthHash_preauthHash] at h
  dsimp only at h
  cases hmore : session.moreProcessingRequired with
  | false =>
    rw [hmore, if_neg (by decide)] at h
    rw [if_neg (by decide)]
    injection h with h
    exact h.symm
  | true =>
    rw [hmore, if_pos rfl, updateSmb311PreauthHash_preauthHash] at h
    rw [if_pos rfl]
    injection h with h
    rw [← h, List.append_assoc]
    rfl

theorem sessionSetupExchange_meets {options : SessionSetupRequestOptions} {messageId : ℕ}
    {sessionId : UInt64} :
    LinkMeets (sessionSetupExchange options messageId sessionId context)
      (fun r chain' es' => chain' = .raw ∧ ∀ session, r = .ok (.ok session) →
        buildSessionSetupRequest options messageId sessionId = .ok session.requestPayload ∧
        (∃ response, decodeSessionSetupResponse session.responsePayload = .ok response ∧
          response.status = (if session.moreProcessingRequired then kStatusMoreProcessingRequired
            else kStatusSuccess) ∧
          response.sessionId = session.sessionId) ∧
        exchangedMessages es' =
          exchangedMessages es ++ [session.requestPayload, session.responsePayload]) .raw es := by
  refine (linkExchange_meets _ _ _).mono ?_
  rintro r chain' es' ⟨hchain, hr⟩
  refine ⟨hchain, ?_⟩
  intro session hsession
  obtain ⟨requestPayload, payload, hrequest, hdecode, hmessages⟩ := hr session hsession
  cases hresponse : decodeSessionSetupResponse payload with
  | error e =>
    rw [hresponse] at hdecode
    cases hdecode
  | ok response =>
    rw [hresponse] at hdecode
    injection hdecode with hdecode
    subst hdecode
    exact ⟨hrequest, ⟨response, hresponse, status_of_decodeSessionSetupResponse hresponse, rfl⟩,
      hmessages⟩

/-- **The rounds of SESSION_SETUP**: all but the last ask for another one, and
    the hash runs over every message but the last response. -/
theorem sessionSetupRounds_meets {negotiated : NegotiatedConnection} {rounds : ℕ}
    (hrounds : 0 < rounds) {token : ByteVector} {state : SetupState} :
    LinkMeets (sessionSetupRounds sha512 options negotiated context rounds token state)
      (fun r chain' es' => chain' = .raw ∧ ∀ setup, r = .ok (.ok setup) →
        ∃ more last, (∀ round ∈ more, IsSetupRound options kStatusMoreProcessingRequired round) ∧
          IsSetupRound options kStatusSuccess last ∧
          setup.session.responsePayload = last.2 ∧
          exchangedMessages es' = exchangedMessages es ++ (roundMessages more ++ [last.1, last.2]) ∧
          (negotiated.dialect = .smb311 →
            state.preauthIntegrityHash = preauthHash sha512 (exchangedMessages es) →
            setup.preauthIntegrityHash =
              preauthHash sha512 (exchangedMessages es ++ (roundMessages more ++ [last.1]))))
      .raw es := by
  induction rounds generalizing token state es with
  | zero => omega
  | succ rounds ih =>
    rw [sessionSetupRounds]
    refine sessionSetupExchange_meets.bind ?_ (by rintro e _ es' ⟨rfl, -⟩; exact ⟨rfl, by rintro _ ⟨⟩⟩)
    rintro r _ es₁ ⟨rfl, hr⟩
    cases r with
    | error e => exact ⟨rfl, by rintro _ ⟨⟩⟩
    | ok session =>
      obtain ⟨hrequest, ⟨response, hresponse, hstatus, -⟩, hmessages⟩ := hr session rfl
      dsimp only
      cases hhash : setupPreauthHash sha512 negotiated.dialect state.preauthIntegrityHash session with
      | error e => exact ⟨rfl, by rintro _ ⟨⟩⟩
      | ok hash =>
        dsimp only
        cases hmore : session.moreProcessingRequired with
        | false =>
          rw [hmore, if_neg (by decide)] at hstatus
          rw [if_pos (by decide)]
          refine ⟨rfl, ?_⟩
          rintro setup ⟨⟩
          refine ⟨[], (session.requestPayload, session.responsePayload), (by rintro _ ⟨⟩),
            ⟨⟨token, _, _, hrequest⟩, response, hresponse, hstatus⟩, rfl, hmessages, ?_⟩
          intro hdialect hstate
          rw [hdialect, hstate] at hhash
          have hlast := setupPreauthHash_meets hhash
          rw [hmore, if_neg (by decide)] at hlast
          exact hlast
        | true =>
          rw [hmore, if_pos rfl] at hstatus
          rw [if_neg (by decide)]
          refine meets_linkAsk fun ans => ?_
          have hasked : exchangedMessages (es₁ ++ [⟨.nextToken session, ans⟩]) =
              exchangedMessages es ++ [session.requestPayload, session.responsePayload] := by
            rw [exchangedMessages_append, hmessages]
            simp [messagesOf]
          split
          · exact ⟨rfl, by rintro _ ⟨⟩⟩
          split
          · exact ⟨rfl, by rintro _ ⟨⟩⟩
          rename_i hleft
          refine (ih (by omega)).mono ?_
          rintro r chain' es' ⟨hchain, hr⟩
          refine ⟨hchain, ?_⟩
          intro setup hsetup
          obtain ⟨more, last, hrounds, hlast, hresponse', hmessages', hfold⟩ := hr setup hsetup
          refine ⟨(session.requestPayload, session.responsePayload) :: more, last, ?_, hlast,
            hresponse', ?_, ?_⟩
          · intro round hround
            obtain rfl | hround := List.mem_cons.1 hround
            · exact ⟨⟨token, _, _, hrequest⟩, response, hresponse, hstatus⟩
            · exact hrounds round hround
          · rw [hmessages', hasked, roundMessages_cons]
            simp
          · intro hdialect hstate
            rw [hdialect, hstate] at hhash
            have hhere := setupPreauthHash_meets hhash
            rw [hmore, if_pos rfl, ← hasked] at hhere
            rw [hfold hdialect hhere, hasked, roundMessages_cons]
            simp

/-- A NEGOTIATE request starts with its header. -/
theorem header_of_buildNegotiateRequest {options : NegotiateRequestOptions} {messageId : ℕ}
    {message : ByteVector} (h : buildNegotiateRequest options messageId = .ok message) :
    ∃ header body, message = encodeSmb2SyncHeader header ++ body ∧ header.command = .negotiate := by
  have hheader (body : ByteVector) : ∃ header body',
      encodeSmb2SyncHeader { command := .negotiate, messageId := UInt64.ofNat messageId } ++ body =
        encodeSmb2SyncHeader header ++ body' ∧ header.command = .negotiate := ⟨_, body, rfl, rfl⟩
  rw [buildNegotiateRequest] at h
  obtain ⟨checked, -, h⟩ := bind_eq_ok.1 h
  dsimp only at h
  by_cases hcontexts : decide (Dialect.smb311 ∈ if options.dialects = [] then
      defaultInitialDialects else options.dialects) = true
  · rw [if_pos hcontexts, pure_eq_ok] at h
    by_cases hencryption : decide (options.capabilities &&& kCapabilityEncryption ≠ 0) = true
    · rw [if_pos hencryption] at h
      rw [← h]
      simp only [appendNegotiateContext, appendPadding, List.append_assoc]
      exact hheader _
    · rw [if_neg hencryption] at h
      rw [← h]
      simp only [appendNegotiateContext, appendPadding, List.append_assoc]
      exact hheader _
  · rw [if_neg hcontexts, pure_eq_ok] at h
    rw [← h]
    exact hheader _

/-- The dialects a connect offers. -/
def offeredDialects (options : NegotiateRequestOptions) : List Dialect :=
  if options.dialects = [] then defaultInitialDialects else options.dialects

theorem negotiate_meets {options : NegotiateRequestOptions} :
    LinkMeets (negotiate sha512 options context)
      (fun r chain' es' => chain' = .raw ∧ ∀ negotiated, r = .ok (.ok negotiated) →
        ∃ request response decoded, buildNegotiateRequest options 0 = .ok request ∧
          decodeNegotiateResponse response (offeredDialects options) = .ok decoded ∧
          negotiated.dialect = decoded.dialect ∧
          negotiated.signingRequired =
            (decoded.securityMode &&& 0x0002 ≠ 0 || options.signing = .required) ∧
          exchangedMessages es' = exchangedMessages es ++ [request, response] ∧
          (negotiated.dialect = .smb311 →
            negotiated.preauthIntegrityHash = preauthHash sha512 [request, response]))
      .raw es := by
  refine (linkExchange_meets _ _ _).mono ?_
  rintro r chain' es' ⟨hchain, hr⟩
  refine ⟨hchain, ?_⟩
  intro negotiated hnegotiated
  obtain ⟨request, response, hrequest, hdecode, hmessages⟩ := hr negotiated hnegotiated
  cases hresponse : decodeNegotiateResponse response (offeredDialects options) with
  | error e =>
    rw [offeredDialects] at hresponse
    rw [hresponse] at hdecode
    cases hdecode
  | ok decoded =>
    have hdecoded := hresponse
    rw [offeredDialects] at hresponse
    rw [hresponse] at hdecode
    dsimp only at hdecode
    cases hhash : negotiatePreauthHash sha512 decoded.dialect request response with
    | error e =>
      rw [hhash] at hdecode
      cases hdecode
    | ok hash =>
      rw [hhash] at hdecode
      injection hdecode with hdecode
      subst hdecode
      refine ⟨request, response, decoded, hrequest, hdecoded, rfl, rfl, hmessages, ?_⟩
      intro hdialect
      have hinitial : initialSmb311PreauthHash = preauthHash sha512 [] := rfl
      rw [negotiatePreauthHash, if_pos hdialect, hinitial, updateSmb311PreauthHash_preauthHash,
        List.nil_append] at hhash
      dsimp only at hhash
      rw [updateSmb311PreauthHash_preauthHash] at hhash
      injection hhash with hhash
      exact hhash.symm

/-- The messages of a successful first stage: NEGOTIATE, the rounds of
    SESSION_SETUP that ask for another one, and the last round.  For SMB 3.1.1 the
    preauth hash is the fold over all of them but the last response. -/
def IsTranscript (sha512 : ByteVector → Vector UInt8 64) (options : NativeSmbConnectorOptions)
    (negotiated : NegotiatedConnection) (setup : SetupState) (messages : List ByteVector) : Prop :=
  ∃ request response rounds last,
    buildNegotiateRequest (negotiateOptionsFrom options) 0 = .ok request ∧
    (∃ decoded, decodeNegotiateResponse response (offeredDialects (negotiateOptionsFrom options)) =
      .ok decoded ∧ negotiated.dialect = decoded.dialect) ∧
    (∀ round ∈ rounds, IsSetupRound options kStatusMoreProcessingRequired round) ∧
    IsSetupRound options kStatusSuccess last ∧
    setup.session.responsePayload = last.2 ∧
    messages = request :: response :: (roundMessages rounds ++ [last.1, last.2]) ∧
    (negotiated.dialect = .smb311 → setup.preauthIntegrityHash =
      preauthHash sha512 (request :: response :: (roundMessages rounds ++ [last.1])))

/-- **The first stage** stays on the raw transport, and its messages are a
    transcript. -/
theorem authenticate_meets :
    LinkMeets (authenticate sha512 options context)
      (fun r chain' es' => chain' = .raw ∧ ∀ negotiated setup,
        r = .ok (.ok (negotiated, setup)) →
          IsTranscript sha512 options negotiated setup (exchangedMessages es')) .raw [] := by
  rw [authenticate]
  refine negotiate_meets.bind ?_ (by rintro e _ es' ⟨rfl, -⟩; exact ⟨rfl, by rintro _ _ ⟨⟩⟩)
  rintro r _ es₁ ⟨rfl, hr⟩
  cases r with
  | error e => exact ⟨rfl, by rintro _ _ ⟨⟩⟩
  | ok negotiated =>
    obtain ⟨request, response, decoded, hrequest, hdecoded, hdialect, -, hmessages, hhash⟩ :=
      hr negotiated rfl
    dsimp only
    split
    · exact ⟨rfl, by rintro _ _ ⟨⟩⟩
    refine meets_linkAsk fun token => ?_
    have hasked : exchangedMessages (es₁ ++ [⟨.initialToken negotiated, token⟩]) =
        [request, response] := by
      rw [exchangedMessages_append, hmessages]
      simp [messagesOf]
    split
    · exact ⟨rfl, by rintro _ _ ⟨⟩⟩
    have hrounds : 0 < if options.maxSessionSetupRounds = 0 then 1
        else options.maxSessionSetupRounds := by
      split <;> omega
    refine (sessionSetupRounds_meets hrounds).bind ?_
      (by rintro e _ es' ⟨rfl, -⟩; exact ⟨rfl, by rintro _ _ ⟨⟩⟩)
    rintro r _ es₂ ⟨rfl, hr⟩
    cases r with
    | error e => exact ⟨rfl, by rintro _ _ ⟨⟩⟩
    | ok setup =>
      refine ⟨rfl, ?_⟩
      rintro _ _ ⟨⟩
      obtain ⟨rounds, last, hmore, hlast, hresponse, hmessages', hfold⟩ := hr setup rfl
      rw [hasked] at hmessages' hfold
      refine ⟨request, response, rounds, last, hrequest, ⟨decoded, hdecoded, hdialect⟩, hmore,
        hlast, hresponse, hmessages', ?_⟩
      intro hsmb311
      exact hfold hsmb311 (hhash hsmb311)

end

end SmbBrowser.Native
