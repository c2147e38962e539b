import SmbBrowser.Native.Responses
import SmbBrowser.Native.Session
import SmbBrowser.Native.Transports

/-!
# Connecting

Models of `Negotiator::negotiate`, `SessionSetupExchanger::exchange`,
`TreeConnector::connect` and `NativeSmbConnector::connect` (native_smb/).
`LinkM` carries the transport chain, which the connector wraps as it goes.
-/

namespace SmbBrowser.Native

open SmbBrowser.Base

/-- Programs of the connector: they may throw and change the transport chain. -/
abbrev LinkM (α : Type) := ExceptT Exn (StateT TransportChain (Program Link)) α

namespace LinkM

/-- Ask one question. -/
def ask (op : LinkOp) : LinkM (Link.Ans op) :=
  ExceptT.mk fun chain => .ask op fun ans => .pure (.ok ans, chain)

/-- `transport->exchange(frame, context)`. -/
def exchange (frame : ByteVector) (context : OperationContext) : LinkM (DecodeResult ByteVector) :=
  ExceptT.mk fun chain => chain.exchange frame context

/-- Rethrow the exception of a builder. -/
def ofExcept {α : Type} (x : Except Exn α) : LinkM α := ExceptT.mk fun chain => .pure (x, chain)

/-- `transport = std::make_unique<...>(std::move(transport), ...)`. -/
def wrap (layer : TransportChain → TransportChain) : LinkM Unit := modify layer

/-- `isCancellationRequested(context)`. -/
def cancelled (context : OperationContext) : LinkM Bool :=
  if context.cancellable then ask .isCancelled else pure false

end LinkM

/-! ## Exchanges of the connector -/

/-- The part the exchangers of the connector share: build, frame and send a
    message, look at the cancellation token, decode the reply.  The messages of
    request and reply are handed to `result`. -/
def linkExchange {α : Type} (cancelled : String) (request : Except Exn ByteVector)
    (decode : ByteVector → ByteVector → DecodeResult α) (context : OperationContext) :
    LinkM (DecodeResult α) := do
  if ← LinkM.cancelled context then
    return failure .cancelled cancelled
  let requestPayload ← LinkM.ofExcept request
  let requestFrame ← LinkM.ofExcept (encodeDirectTcpFrame requestPayload)
  match ← LinkM.exchange requestFrame context with
  | .error e => return failureFrom e
  | .ok responseFrame =>
    if ← LinkM.cancelled context then
      return failure .cancelled cancelled
    match decodeDirectTcpPayload responseFrame with
    | .error e => return failureFrom e
    | .ok payload => return decode requestPayload payload

/-! ## Options and results -/

/-- `ConnectionConfig` (SmbNative.h:50), as far as the connector reads it. -/
structure ConnectionConfig where
  server : ByteVector := []
  share : ByteVector := []
  signing : SecurityPolicy := .required
  encryption : SecurityPolicy := .preferred

/-- `NativeSmbConnectorOptions` (NativeSmbConnector.h:32). -/
structure NativeSmbConnectorOptions where
  config : ConnectionConfig := {}
  negotiateOptions : NegotiateRequestOptions := {}
  firstSessionMessageId : ℕ := 1
  maxSessionSetupRounds : ℕ := 8

/-- `TreeConnectResult` (TreeConnector.h:8). -/
structure TreeConnectResult where
  treeId : UInt32 := 0
  shareType : ShareType := .disk
  isDfs : Bool := false
  isDfsRoot : Bool := false
  requiresEncryption : Bool := false
  maximalAccess : UInt32 := 0
  deriving DecidableEq

/-- `NativeSmbConnectedState` (NativeSmbConnector.h:39): the connection's session
    and, as the state of `LinkM`, its transport. -/
structure NativeSmbConnectedState where
  connection : Session
  negotiated : NegotiatedConnection
  session : SessionSetupResponse
  tree : TreeConnectResult
  deriving DecidableEq

/-- `capabilityMask({Dfs, LargeMtu})`. -/
def kCapabilityDfsLargeMtu : UInt32 := 0x00000001 ||| 0x00000004

/-- The capabilities the connector offers (NativeSmbConnector.cpp:51 and 63). -/
def offeredCapabilities (config : ConnectionConfig) : UInt32 :=
  kCapabilityDfsLargeMtu |||
    (if config.encryption ≠ .disabled then kCapabilityEncryption else 0)

/-- Model of `negotiateOptionsFrom` (NativeSmbConnector.cpp:51). -/
def negotiateOptionsFrom (options : NativeSmbConnectorOptions) : NegotiateRequestOptions :=
  { options.negotiateOptions with
    signing := options.config.signing
    capabilities := options.negotiateOptions.capabilities ||| offeredCapabilities options.config }

/-- Model of `sessionSetupOptionsFrom` (NativeSmbConnector.cpp:63). -/
def sessionSetupOptionsFrom (options : NativeSmbConnectorOptions) (token : ByteVector) :
    SessionSetupRequestOptions where
  signing := options.config.signing
  capabilities := offeredCapabilities options.config
  securityBuffer := token

/-- A truth value in the text of `treeConnectFailureFrom`. -/
def boolText (b : Bool) : String := if b then "true" else "false"

/-- Model of `treeConnectFailureFrom` (NativeSmbConnector.cpp:28). -/
def treeConnectFailureFrom {α : Type} (e : ProtocolError) (negotiated : NegotiatedConnection)
    (session : SessionSetupResponse) : DecodeResult α :=
  failure e.code (e.message ++ " negotiated_dialect=0x" ++
    hexUpper 0 negotiated.dialect.code.toNat ++
    " signing_required=" ++ boolText negotiated.signingRequired ++
    " encryption_supported=" ++ boolText negotiated.encryptionSupported ++
    " session_encrypt=" ++ boolText session.encryptData ++
    " guest=" ++ boolText session.guestSession ++
    " null_session=" ++ boolText session.nullSession ++ ".")

/-! ## Negotiation and session setup -/

section

variable (sha512 : ByteVector → Vector UInt8 64)

/-- The preauth hash of a negotiation (Negotiator.cpp:72–85). -/
def negotiatePreauthHash (dialect : Dialect) (requestPayload payload : ByteVector) :
    DecodeResult ByteVector :=
  if dialect = .smb311 then
    match updateSmb311PreauthHash sha512 initialSmb311PreauthHash requestPayload with
    | .error e => failureFrom e
    | .ok updated =>
      match updateSmb311PreauthHash sha512 updated payload with
      | .error e => failureFrom e
      | .ok updated => .ok updated
  else .ok []

/-- Model of `Negotiator::negotiate` (Negotiator.cpp:31). -/
def negotiate (options : NegotiateRequestOptions) (context : OperationContext) :
    LinkM (DecodeResult NegotiatedConnection) :=
  let dialects := if options.dialects = [] then defaultInitialDialects else options.dialects
  linkExchange "SMB negotiation was cancelled." (buildNegotiateRequest options 0)
    (fun requestPayload payload =>
      match decodeNegotiateResponse payload dialects with
      | .error e => failureFrom e
      | .ok response =>
        match negotiatePreauthHash sha512 response.dialect requestPayload payload with
        | .error e => .error e
        | .ok preauthIntegrityHash =>
          .ok {
            dialect := response.dialect
            signingRequired :=
              response.securityMode &&& 0x0002 ≠ 0 || options.signing = .required
            encryptionSupported := response.capabilities &&& kCapabilityEncryption ≠ 0
            capabilities := response.capabilities
            maxReadSize := response.maxReadSize
            maxWriteSize := response.maxWriteSize
            securityBuffer := response.securityBuffer
            preauthIntegrityHash })
    context

/-- Model of `SessionSetupExchanger::exchange` (SessionSetupExchanger.cpp:24). -/
def sessionSetupExchange (options : SessionSetupRequestOptions) (messageId : ℕ)
    (sessionId : UInt64) (context : OperationContext) :
    LinkM (DecodeResult SessionSetupResponse) :=
  linkExchange "SMB session setup was cancelled."
    (buildSessionSetupRequest options messageId sessionId)
    (fun requestPayload payload =>
      match decodeSessionSetupResponse payload with
      | .error e => failureFrom e
      | .ok response => .ok { response with requestPayload, responsePayload := payload })
    context

/-- The tree a TREE_CONNECT reply names (TreeConnector.cpp:47–65). -/
def treeConnectResult (payload : ByteVector) : DecodeResult TreeConnectResult :=
  match decodeTreeConnectResponse payload with
  | .error e => failureFrom e
  | .ok response =>
    match decodeSmb2SyncHeader payload with
    | .error e => failureFrom e
    | .ok header =>
      .ok {
        treeId := header.treeId
        shareType := response.shareType
        isDfs := response.isDfs
        isDfsRoot := response.isDfsRoot
        requiresEncryption := response.requiresEncryption
        maximalAccess := response.maximalAccess }

/-- Model of `TreeConnector::connect` (TreeConnector.cpp:22). -/
def treeConnect (options : TreeConnectRequestOptions) (messageId : ℕ) (sessionId : UInt64)
    (context : OperationContext) : LinkM (DecodeResult TreeConnectResult) :=
  linkExchange "SMB tree connect was cancelled."
    (buildTreeConnectRequest options messageId sessionId)
    (fun _ payload => treeConnectResult payload) context

/-- The variables the loop of SESSION_SETUP changes. -/
structure SetupState where
  session : SessionSetupResponse := {}
  sessionId : UInt64 := 0
  preauthIntegrityHash : ByteVector := []
  messageId : ℕ := 1
  deriving DecidableEq

/-- The preauth hash after one round (NativeSmbConnector.cpp:127–144). -/
def setupPreauthHash (dialect : Dialect) (current : ByteVector) (session : SessionSetupResponse) :
    DecodeResult ByteVector :=
  if dialect = .smb311 then
    match updateSmb311PreauthHash sha512 current session.requestPayload with
    | .error e => failureFrom e
    | .ok updated =>
      if session.moreProcessingRequired then
        match updateSmb311PreauthHash sha512 updated session.responsePayload with
        | .error e => failureFrom e
        | .ok updated => .ok updated
      else .ok updated
  else .ok current

/-- The rounds of SESSION_SETUP (NativeSmbConnector.cpp:118–158); `rounds` are
    left. -/
def sessionSetupRounds (options : NativeSmbConnectorOptions) (negotiated : NegotiatedConnection)
    (context : OperationContext) :
    ℕ → ByteVector → SetupState → LinkM (DecodeResult SetupState)
  | 0, _, state => return .ok state
  | rounds + 1, token, state => do
    match ← sessionSetupExchange (sessionSetupOptionsFrom options token) state.messageId
        state.sessionId context with
    | .error e => return failureFrom e
    | .ok session =>
      match setupPreauthHash sha512 negotiated.dialect state.preauthIntegrityHash session with
      | .error e => return .error e
      | .ok preauthIntegrityHash =>
        let state : SetupState := {
          session, sessionId := session.sessionId, preauthIntegrityHash,
          messageId := state.messageId + 1 }
        if ¬ session.moreProcessingRequired then
          return .ok state
        match ← LinkM.ask (.nextToken session) with
        | .error e => return failureFrom e
        | .ok token =>
          if rounds = 0 then
            return failure .internalError "SMB SESSION_SETUP exceeded round limit."
          sessionSetupRounds options negotiated context rounds token state

end

/-! ## Signing and encryption -/

/-- The policy check after NEGOTIATE (NativeSmbConnector.cpp:91–103). -/
def checkNegotiatedEncryption (config : ConnectionConfig) (negotiated : NegotiatedConnection) :
    DecodeResult Unit :=
  if config.encryption = .required ∧ ¬ negotiated.encryptionSupported then
    failure .unsupportedCapability ("SMB encryption is required by policy, but the server did not " ++
      "advertise SMB3 encryption support.")
  else if config.encryption = .required ∧ ¬ supportsAesCcmEncryption negotiated.dialect then
    failure .unsupportedCapability ("SMB encryption is required by policy, but the negotiated " ++
      "dialect is not supported by the clean-room AES-CCM transform layer.")
  else .ok ()

/-- `sessionCanEncrypt` (NativeSmbConnector.cpp:163). -/
def sessionCanEncrypt (negotiated : NegotiatedConnection) (session : SessionSetupResponse) : Bool :=
  negotiated.encryptionSupported && supportsAesCcmEncryption negotiated.dialect &&
    ¬ session.guestSession && ¬ session.nullSession

/-- `shouldSignConnection` (NativeSmbConnector.cpp:176). -/
def shouldSignConnection (config : ConnectionConfig) (negotiated : NegotiatedConnection)
    (session : SessionSetupResponse) : Bool :=
  (negotiated.signingRequired || config.signing ≠ .disabled) && ¬ session.guestSession &&
    ¬ session.nullSession

/-- Whether the connection is encrypted before TREE_CONNECT
    (NativeSmbConnector.cpp:167). -/
def mustEncryptSession (config : ConnectionConfig) (session : SessionSetupResponse) : Bool :=
  session.encryptData || config.encryption = .required

/-- The signing key of a session (NativeSmbConnector.cpp:197–215). -/
def deriveSigningKey (negotiated : NegotiatedConnection) (sessionKey preauthIntegrityHash :
    ByteVector) : DecodeResult ByteVector :=
  if negotiated.dialect = .smb311 then
    match deriveSmb311SigningKey sessionKey preauthIntegrityHash with
    | .error e => failureFrom e
    | .ok key => .ok key
  else if supportsAesCmacSigning negotiated.dialect then
    match deriveSmb3SigningKey sessionKey negotiated.dialect with
    | .error e => failureFrom e
    | .ok key => .ok key
  else .ok sessionKey

/-- The check of the final SESSION_SETUP reply (NativeSmbConnector.cpp:217–238). -/
def verifyFinalSession (negotiated : NegotiatedConnection) (finalSessionFrame signingKey :
    ByteVector) : DecodeResult Unit :=
  match decodeDirectTcpPayload finalSessionFrame with
  | .error _ => .ok ()
  | .ok payload =>
    let finalSessionIsSigned := match decodeSmb2SyncHeader payload with
      | .error _ => false
      | .ok header => header.flags &&& kFlagSigned ≠ 0
    if finalSessionIsSigned || negotiated.signingRequired then
      match verifySmb2DirectTcpFrameSignature finalSessionFrame signingKey negotiated.dialect with
      | .error e => failureFrom e
      | .ok false =>
        failure .protocolUnsupported
          "SMB2 final SESSION_SETUP response has an invalid signature."
      | .ok true => .ok ()
    else .ok ()

/-- The signing part of `connect` (NativeSmbConnector.cpp:190–243). -/
def signConnection (config : ConnectionConfig) (negotiated : NegotiatedConnection)
    (setup : SetupState) (sessionKey : ByteVector) : LinkM (DecodeResult Unit) := do
  if ¬ shouldSignConnection config negotiated setup.session then
    return .ok ()
  if ¬ supportsSigning negotiated.dialect then
    return failure .unsupportedCapability
      "Clean-room SMB signing is not implemented for the negotiated dialect."
  match deriveSigningKey negotiated sessionKey setup.preauthIntegrityHash with
  | .error e => return .error e
  | .ok signingKey =>
    let finalSessionFrame ←
      LinkM.ofExcept (encodeDirectTcpFrame setup.session.responsePayload)
    match verifyFinalSession negotiated finalSessionFrame signingKey with
    | .error e => return .error e
    | .ok () =>
      LinkM.wrap fun transport => .signing transport signingKey negotiated.dialect true
      return .ok ()

/-- The session key, asked for when there is none yet
    (NativeSmbConnector.cpp:256–263). -/
def requireSessionKey (sessionKey : ByteVector) : LinkM (DecodeResult ByteVector) := do
  if sessionKey = [] then
    match ← LinkM.ask .sessionBaseKey with
    | .error e => return failureFrom e
    | .ok key => return .ok key
  else return .ok sessionKey

/-- The lambda `enableEncryption` of a connection that is not encrypted yet
    (NativeSmbConnector.cpp:246–285). -/
def enableEncryption (negotiated : NegotiatedConnection) (setup : SetupState)
    (sessionKey : ByteVector) : LinkM (DecodeResult Unit) := do
  if ¬ sessionCanEncrypt negotiated setup.session then
    return failure .unsupportedCapability ("SMB encryption is required, but the negotiated " ++
      "connection does not support the clean-room AES-CCM transform layer.")
  match ← requireSessionKey sessionKey with
  | .error e => return .error e
  | .ok sessionKey =>
    match deriveSmb3EncryptionKey sessionKey negotiated.dialect .clientToServer with
    | .error e => return failureFrom e
    | .ok encryptionKey =>
      match deriveSmb3EncryptionKey sessionKey negotiated.dialect .serverToClient with
      | .error e => return failureFrom e
      | .ok decryptionKey =>
        LinkM.wrap fun transport =>
          .encryption transport encryptionKey decryptionKey setup.sessionId negotiated.dialect 1
        return .ok ()

/-- The session key a connection needs before it can sign or encrypt
    (NativeSmbConnector.cpp:180–189). -/
def earlySessionKey (config : ConnectionConfig) (negotiated : NegotiatedConnection)
    (session : SessionSetupResponse) : LinkM (DecodeResult ByteVector) := do
  if shouldSignConnection config negotiated session || mustEncryptSession config session then
    match ← LinkM.ask .sessionBaseKey with
    | .error e => return failureFrom e
    | .ok key => return .ok key
  else return .ok []

/-- The transports set up before TREE_CONNECT (NativeSmbConnector.cpp:160–294):
    the session key and whether the connection is encrypted. -/
def secureSession (config : ConnectionConfig) (negotiated : NegotiatedConnection)
    (setup : SetupState) : LinkM (DecodeResult (ByteVector × Bool)) := do
  if setup.sessionId = 0 then
    return failure .internalError "SMB SESSION_SETUP completed without a session id."
  if mustEncryptSession config setup.session ∧ ¬ sessionCanEncrypt negotiated setup.session then
    return failure .unsupportedCapability ("SMB encryption is required, but the negotiated " ++
      "connection does not support the clean-room AES-CCM transform layer.")
  match ← earlySessionKey config negotiated setup.session with
  | .error e => return .error e
  | .ok sessionKey =>
    match ← signConnection config negotiated setup sessionKey with
    | .error e => return .error e
    | .ok () =>
      if mustEncryptSession config setup.session then
        match ← enableEncryption negotiated setup sessionKey with
        | .error e => return failureFrom e
        | .ok () => return .ok (sessionKey, true)
      else return .ok (sessionKey, false)

/-- Encryption after TREE_CONNECT when the share asks for it
    (NativeSmbConnector.cpp:318–327): the tree and the next message id. -/
def encryptForShare (config : ConnectionConfig) (negotiated : NegotiatedConnection)
    (setup : SetupState) (sessionKey : ByteVector) (connectionEncrypted : Bool)
    (tree : TreeConnectResult) (messageId : ℕ) : LinkM (DecodeResult (TreeConnectResult × ℕ)) := do
  if (mustEncryptSession config setup.session || tree.requiresEncryption) &&
      ¬ connectionEncrypted then
    match ← enableEncryption negotiated setup sessionKey with
    | .error e => return failureFrom e
    | .ok () => return .ok (tree, messageId)
  else return .ok (tree, messageId)

/-- TREE_CONNECT, and a second one over an encrypted connection when the first
    was denied (NativeSmbConnector.cpp:296–327). -/
def connectTree (config : ConnectionConfig) (negotiated : NegotiatedConnection)
    (setup : SetupState) (sessionKey : ByteVector) (connectionEncrypted : Bool)
    (context : OperationContext) : LinkM (DecodeResult (TreeConnectResult × ℕ)) := do
  let treeOptions : TreeConnectRequestOptions := { server := config.server, share := config.share }
  match ← treeConnect treeOptions setup.messageId setup.sessionId context with
  | .ok tree =>
    encryptForShare config negotiated setup sessionKey connectionEncrypted tree
      (setup.messageId + 1)
  | .error e =>
    if e.code = .permissionDenied ∧ config.encryption = .preferred ∧
        sessionCanEncrypt negotiated setup.session ∧ ¬ connectionEncrypted then
      match ← enableEncryption negotiated setup sessionKey with
      | .error e => return failureFrom e
      | .ok () =>
        match ← treeConnect treeOptions (setup.messageId + 1) setup.sessionId context with
        | .error e => return treeConnectFailureFrom e negotiated setup.session
        | .ok tree =>
          encryptForShare config negotiated setup sessionKey true tree (setup.messageId + 2)
    else return treeConnectFailureFrom e negotiated setup.session

/-- Model of `NativeSmbConnector::connect` (NativeSmbConnector.cpp:77). -/
def connect (sha512 : ByteVector → Vector UInt8 64) (options : NativeSmbConnectorOptions)
    (context : OperationContext) : LinkM (DecodeResult NativeSmbConnectedState) := do
  match ← negotiate sha512 (negotiateOptionsFrom options) context with
  | .error e => return failureFrom e
  | .ok negotiated =>
    match checkNegotiatedEncryption options.config negotiated with
    | .error e => return .error e
    | .ok () =>
      match ← LinkM.ask (.initialToken negotiated) with
      | .error e => return failureFrom e
      | .ok token =>
        let firstMessageId :=
          if options.firstSessionMessageId = 0 then 1 else options.firstSessionMessageId
        let maxRounds :=
          if options.maxSessionSetupRounds = 0 then 1 else options.maxSessionSetupRounds
        match ← sessionSetupRounds sha512 options negotiated context maxRounds token {
            preauthIntegrityHash := negotiated.preauthIntegrityHash
            messageId := firstMessageId } with
        | .error e => return .error e
        | .ok setup =>
          match ← secureSession options.config negotiated setup with
          | .error e => return .error e
          | .ok (sessionKey, connectionEncrypted) =>
            match ← connectTree options.config negotiated setup sessionKey connectionEncrypted
                context with
            | .error e => return .error e
            | .ok (tree, messageId) =>
              return .ok {
                connection := .new tree.treeId setup.sessionId messageId
                negotiated
                session := setup.session
                tree }

end SmbBrowser.Native
