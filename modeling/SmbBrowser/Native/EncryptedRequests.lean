import SmbBrowser.Native.Layering

/-!
# Requests over an encrypted connection

A request of a connection that signs and encrypts is encrypted first and signed
after that.

Results:
* `decrypt_signed_iff`: the signed frame decrypts to the request exactly when
  signing changed nothing in the encrypted one;
* `rawFrame_decrypts_iff`: so it is for every request after a successful connect.
-/

namespace SmbBrowser.Native

open SmbBrowser.Base

/-! ## Signing an encrypted frame -/

section

variable {key signingKey message frame encrypted raw : ByteVector} {sessionId : UInt64}
  {nonce : Nonce16} {dialect dialect' : Dialect}

/-- The authenticated header of a TRANSFORM message whose session id was not
    changed is not changed by signing. -/
theorem smb3AadFromHeader_of_signed {payload digest : ByteVector}
    (hlen : kSmb2HeaderSize ≤ payload.length) (hdigest : digest.length = 16)
    (hsession : ((splice (setSignedFlag payload) kSmb2SignatureOffset digest).drop 44).take 8 =
      (payload.drop 44).take 8) :
    smb3AadFromHeader (splice (setSignedFlag payload) kSmb2SignatureOffset digest) =
      smb3AadFromHeader payload := by
  rw [kSmb2HeaderSize] at hlen
  have hsigned : (splice (setSignedFlag payload) kSmb2SignatureOffset digest).length =
      payload.length := by
    rw [length_splice, length_setSignedFlag (by rwa [kSmb2HeaderSize]), hdigest,
      kSmb2SignatureOffset]
    omega
  refine ext_getD ?_ fun i => ?_
  · simp only [smb3AadFromHeader, List.length_take, List.length_drop, hsigned]
  show (((splice (setSignedFlag payload) 48 digest).drop 20).take 32).getD i 0 =
    ((payload.drop 20).take 32).getD i 0
  rw [getD_take_ite, getD_take_ite, getD_drop_add, getD_drop_add]
  by_cases hin : i < 32
  swap
  · rw [if_neg hin, if_neg hin]
  rw [if_pos hin, if_pos hin]
  by_cases hhead : i < 28
  · -- between the flags and the signature
    rw [getD_splice_of_lt _ (by omega), setSignedFlag,
      getD_splice_of_ge (by rw [length_u32Le, kSmb2FlagsOffset]; omega)]
  · -- the last four bytes lie in the session id
    have hbyte := congrArg (fun bytes : ByteVector => bytes.getD (i - 24) 0) hsession
    simp only [getD_take_ite, getD_drop_add] at hbyte
    rw [if_pos (by omega), if_pos (by omega), show 44 + (i - 24) = 20 + i by omega] at hbyte
    exact hbyte

/-- **The signed frame decrypts to the request exactly when signing changed
    nothing** in the encrypted one: when the encrypted frame already carries a
    signature that verifies. -/
theorem decrypt_signed_iff (hframe : encodeDirectTcpFrame message = .ok frame)
    (hencrypted : encryptSmb3DirectTcpFrame frame key sessionId nonce dialect =
      .ok (.ok encrypted))
    (hraw : signSmb2DirectTcpFrame encrypted signingKey dialect' = .ok (.ok raw)) :
    decryptSmb3DirectTcpFrame raw key sessionId dialect = .ok (.ok frame) ↔
      verifySmb2DirectTcpFrameSignature encrypted signingKey dialect' = .ok true := by
  obtain ⟨payload, hencode, htransforms⟩ := transforms_of_encrypt hframe hencrypted
  rw [← signSmb2DirectTcpFrame_eq_self hencode]
  constructor
  · intro h
    obtain ⟨-, hlen, digest, hdigest, hsigned⟩ := (signSmb2DirectTcpFrame_eq_ok hencode).1 hraw
    have hsize := length_of_smb2Signature hdigest
    have htransforms' := (decryptSmb3DirectTcpFrame_eq_ok hsigned hframe).1 h
    -- both frames name the same session, so the bytes of its id are the same
    have hsession : ((splice (setSignedFlag payload) kSmb2SignatureOffset digest).drop 44).take 8 =
        (payload.drop 44).take 8 := by
      rw [kSmb2HeaderSize] at hlen
      have hspliced : (splice (setSignedFlag payload) kSmb2SignatureOffset digest).length =
          payload.length := by
        rw [length_splice, length_setSignedFlag (by rwa [kSmb2HeaderSize]), hsize,
          kSmb2SignatureOffset]
        omega
      have hleft : (((splice (setSignedFlag payload) kSmb2SignatureOffset digest).drop 44).take
          8).length = 8 := by
        rw [List.length_take, List.length_drop, hspliced]
        omega
      have hright : ((payload.drop 44).take 8).length = 8 := by
        rw [List.length_take, List.length_drop]
        omega
      have hlt := leValue_lt (((splice (setSignedFlag payload) kSmb2SignatureOffset digest).drop
        44).take 8)
      have hlt' := leValue_lt ((payload.drop 44).take 8)
      rw [hleft] at hlt
      rw [hright] at hlt'
      have hvalue := congrArg UInt64.toNat (htransforms'.session.trans htransforms.session.symm)
      rw [UInt64.toNat_ofNat_of_lt' hlt, UInt64.toNat_ofNat_of_lt' hlt'] at hvalue
      exact eq_of_leValue (by rw [hleft, hright]) hvalue
    have hsame := htransforms.eq_of_aad htransforms'
      (smb3AadFromHeader_of_signed hlen hsize hsession)
    rw [hsame, hencode] at hsigned
    injection hsigned with hsigned
    rw [hraw, hsigned]
  · intro h
    have hsame : raw = encrypted := by
      rw [hraw] at h
      injection h with h
      injection h
    rw [hsame]
    exact decrypt_encryptSmb3DirectTcpFrame hframe hencrypted

end

/-! ## The requests of a connection -/

/-- A request handed to the transport of a connection: its frame, the chain as it
    was, and what the chain did with it. -/
structure Exchanged where
  frame : ByteVector
  before : TransportChain
  events : List (Event Link)

/-- Requests exchanged one after the other, against any answers of the raw
    transport: each is a message of any length in a frame. -/
inductive Exchanges : TransportChain → List Exchanged → Prop where
  | nil (chain : TransportChain) : Exchanges chain []
  | cons {chain chain' : TransportChain} {message frame : ByteVector} {context : OperationContext}
      {events : List (Event Link)} {r : Except Exn (DecodeResult ByteVector)}
      {rest : List Exchanged} (hframe : encodeDirectTcpFrame message = .ok frame)
      (hrun : Program.Runs (chain.exchange frame context) events (r, chain'))
      (hrest : Exchanges chain' rest) : Exchanges chain (⟨frame, chain, events⟩ :: rest)

/-- A request whose TRANSFORM frame, at its nonce, verifies as a signed SMB2 frame
    before it is signed. -/
def SignedByItself (encryptionKey signingKey : ByteVector) (sessionId : UInt64)
    (dialect : Dialect) (request : Exchanged) : Prop :=
  ∃ encrypted,
    encryptSmb3DirectTcpFrame request.frame encryptionKey sessionId
      (nextNonce request.before.nonceCounter) dialect = .ok (.ok encrypted) ∧
    verifySmb2DirectTcpFrameSignature encrypted signingKey dialect = .ok true

/-- Every exchange finds the layers the first one found. -/
theorem Exchanges.layers {chain : TransportChain} {log : List Exchanged}
    (h : Exchanges chain log) : ∀ x ∈ log, x.before.layers = chain.layers ∧
      ∃ message context r chain', encodeDirectTcpFrame message = .ok x.frame ∧
        Program.Runs (x.before.exchange x.frame context) x.events (r, chain') := by
  induction h with
  | nil chain =>
    intro x hx
    cases hx
  | @cons chain chain' message frame context events r rest hframe hrun _ ih =>
    intro x hx
    obtain rfl | hx := List.mem_cons.1 hx
    · exact ⟨rfl, message, context, r, chain', hframe, hrun⟩
    · obtain ⟨hlayers, hexchange⟩ := ih x hx
      exact ⟨hlayers.trans (TransportChain.layers_exchange hrun), hexchange⟩

theorem eq_of_layers {chain : TransportChain} {signingKey encryptionKey decryptionKey : ByteVector}
    {dialect : Dialect} {sessionId : UInt64}
    (h : chain.layers =
      .encryption (.signing .raw signingKey dialect true) encryptionKey decryptionKey sessionId
        dialect 0) :
    chain = .encryption (.signing .raw signingKey dialect true) encryptionKey decryptionKey
      sessionId dialect chain.nonceCounter := by
  cases chain with
  | raw => cases h
  | signing => cases h
  | encryption inner =>
    cases inner with
    | raw => cases h
    | encryption => cases h
    | signing inner =>
      cases inner with
      | raw =>
        cases h
        rfl
      | signing => cases h
      | encryption => cases h

/-- What reaches the raw transport for one request. -/
theorem rawFrame_of_exchange {chain chain' : TransportChain}
    {signingKey encryptionKey decryptionKey message frame raw : ByteVector} {dialect : Dialect}
    {sessionId : UInt64} {context : OperationContext} {events : List (Event Link)}
    {r : Except Exn (DecodeResult ByteVector)}
    (hlayers : chain.layers =
      .encryption (.signing .raw signingKey dialect true) encryptionKey decryptionKey sessionId
        dialect 0)
    (hframe : encodeDirectTcpFrame message = .ok frame)
    (hrun : Program.Runs (chain.exchange frame context) events (r, chain'))
    (hraw : raw ∈ rawFrames events) :
    decryptSmb3DirectTcpFrame raw encryptionKey sessionId dialect = .ok (.ok frame) ↔
      SignedByItself encryptionKey signingKey sessionId dialect ⟨frame, chain, events⟩ := by
  rw [eq_of_layers hlayers] at hrun
  obtain ⟨encrypted, hencrypted, hsigned⟩ := rawFrames_of_encryption hrun hraw
  rw [decrypt_signed_iff hframe hencrypted hsigned]
  constructor
  · intro h
    exact ⟨encrypted, hencrypted, h⟩
  · rintro ⟨encrypted', hencrypted', h⟩
    rw [hencrypted] at hencrypted'
    injection hencrypted' with hencrypted'
    injection hencrypted' with hsame
    rwa [hsame]

@[simp] theorem hasSigning_layers (chain : TransportChain) :
    chain.layers.hasSigning = chain.hasSigning := by
  induction chain with
  | raw => rfl
  | signing => rfl
  | encryption inner _ _ _ _ _ ih => exact ih

@[simp] theorem hasEncryption_layers (chain : TransportChain) :
    chain.layers.hasEncryption = chain.hasEncryption := by
  induction chain with
  | raw => rfl
  | signing inner _ _ _ ih => exact ih
  | encryption => rfl

/-- A chain the connector stacked that signs and encrypts. -/
theorem Stacked.both {dialect : Dialect} {sessionId : UInt64} {chain : TransportChain}
    {es : List (Event Link)} (h : Stacked dialect sessionId chain es)
    (hsigning : chain.hasSigning = true) (hencryption : chain.hasEncryption = true) :
    ∃ sessionKey encryptionKey decryptionKey signingKey,
      sessionKeyEvent sessionKey ∈ es ∧
      deriveSmb3EncryptionKey sessionKey dialect .clientToServer = .ok encryptionKey ∧
      chain.layers = .encryption (.signing .raw signingKey dialect true) encryptionKey
        decryptionKey sessionId dialect 0 := by
  rw [← hasSigning_layers] at hsigning
  rw [← hasEncryption_layers] at hencryption
  rcases h with (hraw | ⟨signingKey, hsigned⟩) |
    ⟨inner, encryptionKey, decryptionKey, sessionKey, hchain, hinner, hkey, hderive⟩
  · rw [hraw] at hsigning
    cases hsigning
  · rw [hsigned] at hencryption
    cases hencryption
  · obtain rfl | ⟨signingKey, rfl⟩ := hinner
    · rw [hchain] at hsigning
      cases hsigning
    · exact ⟨sessionKey, encryptionKey, decryptionKey, signingKey, hkey, hderive, hchain⟩

/-- After a successful connect that signs and encrypts, what the raw transport is
    handed for a request decrypts to the request, with the client's key and the
    session id, exactly when the request's TRANSFORM frame is signed by itself. -/
theorem rawFrame_decrypts_iff {sha512 : ByteVector → Vector UInt8 64}
    {options : NativeSmbConnectorOptions} {context : OperationContext}
    {es : List (Event Link)} {state : NativeSmbConnectedState} {chain : TransportChain}
    (hconnect : Program.Runs ((connect sha512 options context).run.run .raw) es
      (.ok (.ok state), chain))
    (hsigning : chain.hasSigning = true) (hencryption : chain.hasEncryption = true) :
    ∃ sessionKey encryptionKey decryptionKey signingKey,
      sessionKeyEvent sessionKey ∈ es ∧
      deriveSmb3EncryptionKey sessionKey state.negotiated.dialect .clientToServer =
        .ok encryptionKey ∧
      chain.layers = .encryption (.signing .raw signingKey state.negotiated.dialect true)
        encryptionKey decryptionKey state.connection.sessionId state.negotiated.dialect 0 ∧
      ∀ log, Exchanges chain log → ∀ x ∈ log, ∀ raw ∈ rawFrames x.events,
        (decryptSmb3DirectTcpFrame raw encryptionKey state.connection.sessionId
            state.negotiated.dialect = .ok (.ok x.frame) ↔
          SignedByItself encryptionKey signingKey state.connection.sessionId
            state.negotiated.dialect x) := by
  have hstacked : Stacked state.negotiated.dialect state.connection.sessionId chain es :=
    Meets.history connect_meets hconnect state rfl
  obtain ⟨sessionKey, encryptionKey, decryptionKey, signingKey, hkey, hderive, hlayers⟩ :=
    hstacked.both hsigning hencryption
  refine ⟨sessionKey, encryptionKey, decryptionKey, signingKey, hkey, hderive, hlayers, ?_⟩
  intro log hlog x hx raw hraw
  obtain ⟨hbefore, message, xcontext, r, chain', hframe, hrun⟩ := hlog.layers x hx
  exact rawFrame_of_exchange (hbefore.trans hlayers) hframe hrun hraw

/-! ## A connection that encrypts for a share -/

section

variable {α β : Type} {chain chain' : TransportChain} {es es' : List (Event Link)}

theorem LinkM.runs_bind {p : LinkM α} {f : α → LinkM β} {a : α}
    {r : Except Exn β × TransportChain} (hp : Program.Runs (p.run.run chain) es (.ok a, chain'))
    (hf : Program.Runs ((f a).run.run chain') es' r) :
    Program.Runs ((p >>= f).run.run chain) (es ++ es') r := by
  show Program.Runs ((p.run.run chain).bind _) (es ++ es') r
  exact Program.runs_bind.2 ⟨es, (.ok a, chain'), es', rfl, hp, hf⟩

/-- A first program that asks nothing. -/
theorem LinkM.runs_pure_bind {p : LinkM α} {f : α → LinkM β} {a : α}
    {r : Except Exn β × TransportChain} (hp : Program.Runs (p.run.run chain) [] (.ok a, chain'))
    (hf : Program.Runs ((f a).run.run chain') es r) :
    Program.Runs ((p >>= f).run.run chain) es r :=
  LinkM.runs_bind hp hf

theorem LinkM.runs_ask {op : LinkOp} (ans : Link.Ans op) :
    Program.Runs ((LinkM.ask op).run.run chain) [⟨op, ans⟩] (.ok ans, chain) :=
  .ask ans (.pure _)

theorem runs_exchange_signing {key frame signed reply : ByteVector} {dialect : Dialect}
    (context : OperationContext)
    (hsigned : signSmb2DirectTcpFrame frame key dialect = .ok (.ok signed))
    (hreply : verifySmb2DirectTcpFrameSignature reply key dialect = .ok true) :
    Program.Runs ((TransportChain.signing .raw key dialect true).exchange frame context)
      [⟨.exchange signed context, (.ok reply : DecodeResult ByteVector)⟩]
      (.ok (.ok reply), .signing .raw key dialect true) := by
  rw [TransportChain.exchange, hsigned]
  refine .ask _ ?_
  have hchecked : checkSignedReply true signed key dialect (.ok reply) =
      (.ok reply : DecodeResult ByteVector) := by
    rw [checkSignedReply]
    rw [if_neg (by simp), hreply]
  show Program.Runs (.pure (Except.ok (checkSignedReply true signed key dialect (.ok reply)),
    TransportChain.signing .raw key dialect true)) [] _
  rw [hchecked]
  exact .pure _

theorem runs_linkExchange (text : String) (decode : ByteVector → ByteVector → DecodeResult α)
    {message reply payload : ByteVector} (hmessage : message.length ≤ 0x00FFFFFF)
    (hrun : Program.Runs (chain.exchange (framed message) {}) es (.ok (.ok reply), chain'))
    (hpayload : decodeDirectTcpPayload reply = .ok payload) :
    Program.Runs ((linkExchange text (.ok message) decode {}).run.run chain) (es ++ [])
      (.ok (decode message payload), chain') := by
  refine LinkM.runs_pure_bind (.pure _) ?_
  refine LinkM.runs_pure_bind (.pure _) ?_
  rw [encodeDirectTcpFrame_framed hmessage]
  refine LinkM.runs_pure_bind (.pure _) ?_
  have hexchange : Program.Runs ((LinkM.exchange (framed message) {}).run.run chain) es
      (.ok (.ok reply), chain') := hrun
  refine LinkM.runs_bind hexchange ?_
  refine LinkM.runs_pure_bind (.pure _) ?_
  rw [hpayload]
  exact .pure _

end

/-- An environment that plays back what the raw transport and the token provider
    answer. -/
def linkPlayback : Handler Link (List (DecodeResult ByteVector))
  | replies, .exchange .. => (replies.headD (failure .networkError "disconnected"), replies.tail)
  | replies, .isCancelled => (false, replies)
  | replies, .initialToken _ => (replies.headD (failure .internalError "no token"), replies.tail)
  | replies, .nextToken _ => (replies.headD (failure .internalError "no token"), replies.tail)
  | replies, .sessionBaseKey => (replies.headD (failure .internalError "no key"), replies.tail)

/-- A program of the connector played back over the raw transport. -/
def linkPlayed {α : Type} (p : LinkM α) (replies : List (DecodeResult ByteVector)) :
    List (Event Link) × (Except Exn α × TransportChain) × List (DecodeResult ByteVector) :=
  (p.run.run .raw).serve linkPlayback replies

theorem runs_linkPlayed {α : Type} {p : LinkM α} {replies : List (DecodeResult ByteVector)}
    {r : Except Exn α × TransportChain} (h : (linkPlayed p replies).2.1 = r) :
    Program.Runs (p.run.run .raw) (linkPlayed p replies).1 r :=
  h ▸ Program.runs_serve linkPlayback (p.run.run .raw) replies

/-- Options that prefer signing and encryption and require neither. -/
def preferringOptions : NativeSmbConnectorOptions where
  config := { server := ascii "s", share := ascii "d", signing := .preferred }

/-- SMB 3.0 keeps no preauth hash. -/
def noSha512 : ByteVector → Vector UInt8 64 := fun _ => .replicate 64 0

namespace ShareConnection

def sessionKey : ByteVector := List.replicate 16 0x42

def signingKey : ByteVector :=
  smb3Kdf sessionKey (asciiWithNull "SMB2AESCMAC") (asciiWithNull "SmbSign")

def encryptionKey : ByteVector :=
  smb3Kdf sessionKey (asciiWithNull "SMB2AESCCM") (asciiWithNull "ServerIn ")

def decryptionKey : ByteVector :=
  smb3Kdf sessionKey (asciiWithNull "SMB2AESCCM") (asciiWithNull "ServerOut")

/-- NEGOTIATE: SMB 3.0 with encryption, signing not required. -/
def negotiateReply : ByteVector :=
  framed (encodeSmb2SyncHeader { command := .negotiate, flags := kFlagServerToRedir } ++
    (u16Le 65 ++ u16Le 1 ++ u16Le 0x0300 ++ u16Le 0 ++ List.replicate 16 0 ++
    u32Le kCapabilityEncryption ++ List.replicate 28 0 ++ u16Le 128 ++ u16Le 0 ++ u32Le 0))

def negotiated : NegotiatedConnection where
  dialect := .smb300
  encryptionSupported := true
  capabilities := kCapabilityEncryption

/-- SESSION_SETUP: session 1, not signed. -/
def setupMessage : ByteVector :=
  encodeSmb2SyncHeader {
    command := .sessionSetup, flags := kFlagServerToRedir, sessionId := 1 } ++
    (u16Le 9 ++ List.replicate 6 0)

def setup : SetupState where
  session := {
    sessionId := 1
    requestPayload :=
      encodeSmb2SyncHeader { command := .sessionSetup, messageId := 1, creditCharge := 1 } ++
      (u16Le 25 ++ [0, 1] ++ u32Le (offeredCapabilities preferringOptions.config) ++ u32Le 0 ++
      u16Le 88 ++ u16Le 0 ++ u64Le 0)
    responsePayload := setupMessage }
  sessionId := 1
  messageId := 2

/-- The header of the TREE_CONNECT reply before it is signed. -/
def treeHeader : Smb2SyncHeader where
  command := .treeConnect
  flags := kFlagServerToRedir
  treeId := 5
  sessionId := 1

/-- TREE_CONNECT: the share requires encryption. -/
def treeBody : ByteVector :=
  u16Le 16 ++ [1, 0] ++ u32Le kShareFlagEncryptData ++ List.replicate 8 0

def tree : TreeConnectResult where
  treeId := 5
  requiresEncryption := true

/-- The chain once the share is connected. -/
def chain : TransportChain :=
  .encryption (.signing .raw signingKey .smb300 true) encryptionKey decryptionKey 1 .smb300 1

set_option maxRecDepth 10000 in
theorem negotiate_played :
    (linkPlayed (negotiate noSha512 (negotiateOptionsFrom preferringOptions) {})
      [.ok negotiateReply]).2.1 = (.ok (.ok negotiated), .raw) := by
  rfl

set_option maxRecDepth 10000 in
theorem setup_played :
    (linkPlayed (sessionSetupRounds noSha512 preferringOptions negotiated {} 8 [] {})
      [.ok (framed setupMessage)]).2.1 = (.ok (.ok setup), .raw) := by
  rfl

/-- Whether an event asks the token provider for its session key. -/
def asksSessionKey (e : Event Link) : Bool :=
  match e.op with
  | .sessionBaseKey => true
  | _ => false

set_option maxRecDepth 10000 in
theorem negotiate_asks_no_key :
    (linkPlayed (negotiate noSha512 (negotiateOptionsFrom preferringOptions) {})
      [.ok negotiateReply]).1.all (fun e => ! asksSessionKey e) = true := by
  rfl

set_option maxRecDepth 10000 in
theorem setup_asks_no_key :
    (linkPlayed (sessionSetupRounds noSha512 preferringOptions negotiated {} 8 [] {})
      [.ok (framed setupMessage)]).1.all (fun e => ! asksSessionKey e) = true := by
  rfl

set_option maxRecDepth 10000 in
theorem negotiate_sends : (rawFrames (linkPlayed
    (negotiate noSha512 (negotiateOptionsFrom preferringOptions) {}) [.ok negotiateReply]).1).length
      = 1 := by
  rfl

set_option maxRecDepth 10000 in
theorem setup_sends : (rawFrames (linkPlayed
    (sessionSetupRounds noSha512 preferringOptions negotiated {} 8 [] {})
      [.ok (framed setupMessage)]).1).length = 1 := by
  rfl

set_option maxRecDepth 10000 in
theorem runs_signConnection :
    Program.Runs ((signConnection preferringOptions.config negotiated setup
      sessionKey).run.run .raw) [] (.ok (.ok ()), .signing .raw signingKey .smb300 true) := by
  have hfinal (key : ByteVector) :
      verifyFinalSession negotiated (framed setupMessage) key = .ok () := rfl
  have hframe : encodeDirectTcpFrame setup.session.responsePayload = .ok (framed setupMessage) := by
    rfl
  have hkey : deriveSigningKey negotiated sessionKey setup.preauthIntegrityHash =
      .ok signingKey := rfl
  rw [signConnection, if_neg (by decide), if_neg (by decide), hkey, hframe]
  refine LinkM.runs_pure_bind (.pure _) ?_
  rw [hfinal]
  exact .pure _

theorem runs_secureSession :
    Program.Runs ((secureSession preferringOptions.config negotiated setup).run.run .raw)
      ([sessionKeyEvent sessionKey] ++ [])
      (.ok (.ok (sessionKey, false)), .signing .raw signingKey .smb300 true) := by
  have hearly : Program.Runs
      ((earlySessionKey preferringOptions.config negotiated setup.session).run.run .raw)
      [sessionKeyEvent sessionKey] (.ok (.ok sessionKey), .raw) := .ask _ (.pure _)
  refine LinkM.runs_bind hearly ?_
  refine LinkM.runs_pure_bind runs_signConnection ?_
  exact .pure _

theorem runs_enableEncryption :
    Program.Runs ((enableEncryption negotiated setup sessionKey).run.run
      (.signing .raw signingKey .smb300 true)) [] (.ok (.ok ()), chain) := by
  have hin : deriveSmb3EncryptionKey sessionKey negotiated.dialect .clientToServer =
      .ok encryptionKey := rfl
  have hout : deriveSmb3EncryptionKey sessionKey negotiated.dialect .serverToClient =
      .ok decryptionKey := rfl
  rw [enableEncryption, if_neg (by decide)]
  refine LinkM.runs_pure_bind (.pure _) ?_
  dsimp only
  rw [hin, hout]
  exact .pure _

/-- What the client reads from the signed TREE_CONNECT reply, whatever its
    signature is. -/
theorem treeConnectResult_signed (digest : Vector UInt8 16) :
    treeConnectResult (encodeSmb2SyncHeader
      { treeHeader with flags := treeHeader.flags ||| kFlagSigned, signature := digest } ++
      treeBody) = .ok tree := by
  simp only [treeConnectResult, decodeTreeConnectResponse, decodeResponseFixed,
    decodeResponseHeader, decodeSmb2SyncHeader_encode, checkResponseBody, kSmb2HeaderSize]
  simp (disch := simp) only [readU16Le, readU32Le, readU8, readBytes_skip,
    length_encodeSmb2SyncHeader, List.length_append]
  rfl

def treeOptions : TreeConnectRequestOptions where
  server := preferringOptions.config.server
  share := preferringOptions.config.share

def treeRequestHeader : Smb2SyncHeader where
  command := .treeConnect
  messageId := 2
  sessionId := 1
  creditCharge := 1

def treeRequestBody : ByteVector :=
  u16Le 9 ++ u16Le 0 ++ u16Le 72 ++ u16Le 10 ++ [92, 0, 92, 0, 115, 0, 92, 0, 100, 0]

set_option maxRecDepth 10000 in
/-- The share is connected over the signing transport. -/
theorem runs_treeConnect :
    ∃ frame reply, Program.Runs
      ((treeConnect treeOptions setup.messageId setup.sessionId {}).run.run
        (.signing .raw signingKey .smb300 true))
      ([⟨.exchange frame {}, (.ok reply : DecodeResult ByteVector)⟩] ++ [])
      (.ok (.ok tree), .signing .raw signingKey .smb300 true) := by
  have hkey : signingKey.length = kAesBlockSize := length_smb3Kdf ..
  have hbuild : buildTreeConnectRequest treeOptions setup.messageId setup.sessionId =
        .ok (encodeSmb2SyncHeader treeRequestHeader ++ treeRequestBody) := by
    rfl
  have hbody : treeRequestBody.length ≤ 0x00FFFF00 := by decide
  have hreplyBody : treeBody.length ≤ 0x00FFFF00 := by decide
  have hfits (header : Smb2SyncHeader) (body : ByteVector) (h : body.length ≤ 0x00FFFF00) :
      (encodeSmb2SyncHeader header ++ body).length ≤ 0x00FFFFFF := by
    rw [List.length_append, length_encodeSmb2SyncHeader]
    omega
  have hlong (header : Smb2SyncHeader) (body : ByteVector) :
      kSmb2HeaderSize ≤ (encodeSmb2SyncHeader header ++ body).length := by
    rw [List.length_append, length_encodeSmb2SyncHeader, kSmb2HeaderSize]
    omega
  obtain ⟨requestDigest, hrequest⟩ := exists_signed
    (encodeDirectTcpFrame_framed (hfits treeRequestHeader treeRequestBody hbody)) (hlong _ _) hkey
  obtain ⟨replyDigest, hreply⟩ := exists_signed
    (encodeDirectTcpFrame_framed (hfits treeHeader treeBody hreplyBody)) (hlong _ _) hkey
  rw [splice_encodeSmb2SyncHeader] at hreply
  have hverified := verify_signSmb2DirectTcpFrame
    (encodeDirectTcpFrame_framed (hfits treeHeader treeBody hreplyBody)) hreply
  have hrun := runs_linkExchange "SMB tree connect was cancelled."
    (fun _ payload => treeConnectResult payload) (hfits treeRequestHeader treeRequestBody hbody)
    (runs_exchange_signing {} hrequest hverified)
    (decodeDirectTcpPayload_encode (encodeDirectTcpFrame_framed (hfits _ treeBody hreplyBody)))
  rw [treeConnectResult_signed] at hrun
  rw [treeConnect, hbuild]
  exact ⟨_, _, hrun⟩

/-- The connection is signed from the start and encrypted once the share asks for
    it. -/
theorem runs_connect :
    ∃ es, Program.Runs ((connect noSha512 preferringOptions {}).run.run .raw) es
        (.ok (.ok ⟨⟨5, 1, 3⟩, negotiated, setup.session, tree⟩), chain) ∧
      sessionKeyEvent sessionKey ∈ es ∧
      (∀ key, sessionKeyEvent key ∈ es → key = sessionKey) ∧ (rawFrames es).length = 3 := by
  obtain ⟨frame, reply, htree⟩ := runs_treeConnect
  have hencrypt : Program.Runs ((encryptForShare preferringOptions.config negotiated setup
      sessionKey false tree 3).run.run (.signing .raw signingKey .smb300 true)) []
      (.ok (.ok (tree, 3)), chain) := by
    rw [encryptForShare, if_pos (by decide)]
    refine LinkM.runs_pure_bind runs_enableEncryption ?_
    exact .pure _
  have hconnectTree : Program.Runs ((connectTree preferringOptions.config negotiated setup
      sessionKey false {}).run.run (.signing .raw signingKey .smb300 true))
      (([⟨.exchange frame {}, (.ok reply : DecodeResult ByteVector)⟩] ++ []) ++ [])
      (.ok (.ok (tree, 3)), chain) :=
    LinkM.runs_bind htree hencrypt
  have hnegotiate := runs_linkPlayed negotiate_played
  have hsetup := runs_linkPlayed setup_played
  have htoken : Program.Runs ((LinkM.ask (.initialToken negotiated)).run.run .raw)
      [⟨.initialToken negotiated, (.ok [] : DecodeResult ByteVector)⟩] (.ok (.ok []), .raw) :=
    LinkM.runs_ask _
  refine ⟨_, LinkM.runs_bind hnegotiate (LinkM.runs_bind htoken (LinkM.runs_bind hsetup
    (LinkM.runs_bind runs_secureSession (LinkM.runs_bind hconnectTree (.pure _))))), ?_, ?_, ?_⟩
  · simp
  · intro key hmem
    -- only the fourth part of the run asks for the session key
    have hno {es : List (Event Link)} (hall : es.all (fun e => ! asksSessionKey e) = true) :
        sessionKeyEvent key ∉ es := by
      intro hin
      have hevent := List.all_eq_true.1 hall _ hin
      cases hevent
    have hfirst := hno negotiate_asks_no_key
    have hthird := hno setup_asks_no_key
    simp only [List.mem_append, hfirst, hthird, List.mem_singleton, List.not_mem_nil, or_false,
      false_or] at hmem
    rcases hmem with htoken | hkey | hexchange
    · cases htoken
    · cases hkey
      rfl
    · cases hexchange
  · simp only [rawFrames_append, List.length_append, negotiate_sends, setup_sends]
    rfl

/-! ### The first request -/

/-- CLOSE, the first request of the session. -/
def closeRequest : Request := ⟨.close {}, 3, 5, 1⟩

def closeMessage : ByteVector :=
  encodeSmb2SyncHeader (Native.treeHeader .close 3 5 1) ++
    (u16Le 24 ++ u16Le 0 ++ u32Le 0 ++ fileIdBytes {})

set_option maxRecDepth 10000 in
theorem closeRequest_frame : closeRequest.frame = .ok (framed closeMessage) := by
  rfl

/-- The client's key, computed. -/
theorem encryptionKey_eq :
    encryptionKey = [196, 76, 250, 242, 149, 135, 229, 62, 62, 194, 247, 203, 188, 199, 174, 196] := by
  decide +kernel

/-- The last four bytes of the tag of the first request. -/
theorem close_tag :
    (aes128CcmEncrypt
      [196, 76, 250, 242, 149, 135, 229, 62, 62, 194, 247, 203, 188, 199, 174, 196]
      ((nextNonce 1).toList.take kSmb3AesCcmNonceSize) closeMessage
      (transformAad (UInt32.ofNat closeMessage.length) 1 (nextNonce 1) .smb300)
      kSmb3AesCcmTagSize).map (fun sealed => sealed.tag.drop 12) = .ok [231, 63, 17, 194] := by
  unfold aes128CcmEncrypt cbcMac ccmTagMask ccmStream
  rw [aes128EncryptBlock_eq_table]
  decide +kernel

/-- The first request is encrypted to a TRANSFORM message without the bit of the
    signed flag in its tag, and what reaches the raw transport is its signed
    frame. -/
theorem runs_close :
    ∃ encrypted payload raw events r chain',
      encryptSmb3DirectTcpFrame (framed closeMessage) encryptionKey 1 (nextNonce 1) .smb300 =
        .ok (.ok encrypted) ∧
      encodeDirectTcpFrame payload = .ok encrypted ∧
      flagsOf payload &&& kFlagSigned = 0 ∧
      Program.Runs (chain.exchange (framed closeMessage) {}) events (r, chain') ∧
      raw ∈ rawFrames events := by
  have hframe : encodeDirectTcpFrame closeMessage = .ok (framed closeMessage) :=
    encodeDirectTcpFrame_framed (by decide)
  obtain ⟨aad, haad⟩ : ∃ aad, aad = transformAad (UInt32.ofNat closeMessage.length) 1 (nextNonce 1)
      .smb300 := ⟨_, rfl⟩
  have haadlen : aad.length = 32 := by rw [haad, length_transformAad]
  obtain ⟨sealed, hsealed, htail⟩ : ∃ sealed,
      aes128CcmEncrypt encryptionKey ((nextNonce 1).toList.take kSmb3AesCcmNonceSize) closeMessage
        aad kSmb3AesCcmTagSize = .ok sealed ∧ sealed.tag.drop 12 = [231, 63, 17, 194] := by
    have htag := close_tag
    rw [← haad, ← encryptionKey_eq] at htag
    cases hresult : aes128CcmEncrypt encryptionKey
        ((nextNonce 1).toList.take kSmb3AesCcmNonceSize) closeMessage aad kSmb3AesCcmTagSize with
    | error e =>
      rw [hresult] at htag
      cases htag
    | ok sealed =>
      rw [hresult] at htag
      injection htag with htag
      exact ⟨sealed, rfl, htag⟩
  have htaglen : sealed.tag.length = 16 :=
    length_tag_of_aes128CcmEncrypt hsealed (by decide)
  have hcipher : sealed.ciphertext.length = 88 := by
    rw [ciphertext_of_aes128CcmEncrypt hsealed, length_ccmCrypt]
    decide
  have hlen : (buildTransformHeader sealed.tag aad ++ sealed.ciphertext).length = 140 := by
    simp only [buildTransformHeader, List.length_append, length_u32Le, htaglen, haadlen, hcipher]
  have hencode := encodeDirectTcpFrame_framed
    (show (buildTransformHeader sealed.tag aad ++ sealed.ciphertext).length ≤ 0x00FFFFFF by omega)
  have hencrypted : encryptSmb3DirectTcpFrame (framed closeMessage) encryptionKey 1 (nextNonce 1)
      .smb300 = .ok (.ok (framed (buildTransformHeader sealed.tag aad ++ sealed.ciphertext))) := by
    rw [encryptSmb3DirectTcpFrame_eq_ok hframe, ← haad]
    exact ⟨rfl, sealed, hsealed, hencode⟩
  -- the flags of the TRANSFORM message are the tail of its tag
  have hflags : flagsOf (buildTransformHeader sealed.tag aad ++ sealed.ciphertext) &&&
      kFlagSigned = 0 := by
    have hshape : buildTransformHeader sealed.tag aad ++ sealed.ciphertext =
        (u32Le kSmb3TransformProtocolId ++ sealed.tag.take 12) ++
          (sealed.tag.drop 12 ++ (aad ++ sealed.ciphertext)) := by
      rw [buildTransformHeader]
      nth_rewrite 1 [← List.take_append_drop 12 sealed.tag]
      simp only [List.append_assoc]
    have hhead : (u32Le kSmb3TransformProtocolId ++ sealed.tag.take 12).length =
        kSmb2FlagsOffset := by
      rw [List.length_append, length_u32Le, List.length_take, htaglen]
      rfl
    have hfour : ([231, 63, 17, 194] ++ (aad ++ sealed.ciphertext)).take 4 = [231, 63, 17, 194] :=
      List.take_left' rfl
    rw [flagsOf, hshape, ← hhead, List.drop_left, htail, hfour]
    decide
  obtain ⟨digest, hsigned⟩ := exists_signed hencode
    (show kSmb2HeaderSize ≤ _ by rw [hlen, kSmb2HeaderSize]; omega)
    (show signingKey.length = kAesBlockSize from length_smb3Kdf ..)
  have hrun : ∃ r chain', Program.Runs (chain.exchange (framed closeMessage) {})
      ([⟨.exchange (framed (splice (setSignedFlag (buildTransformHeader sealed.tag aad ++
        sealed.ciphertext)) kSmb2SignatureOffset digest.toList)) {},
        (failure .networkError "closed" : DecodeResult ByteVector)⟩] ++ [] ++ [])
      (r, chain') := by
    rw [chain, TransportChain.exchange, hencrypted]
    dsimp only
    rw [TransportChain.exchange, hsigned]
    exact ⟨_, _, Program.runs_bind.2 ⟨_, _, _, rfl, Program.runs_bind.2 ⟨_, _, _, rfl,
      .ask _ (.pure _), .pure _⟩, .pure _⟩⟩
  obtain ⟨r, chain', hrun⟩ := hrun
  exact ⟨_, _, _, _, r, chain', hencrypted, hencode, hflags, hrun, List.mem_singleton.2 rfl⟩

end ShareConnection

open ShareConnection in
/-- The connection of the share and its first request. -/
theorem rawFrame_decrypts_iff_close :
    ∃ encryptionKey signingKey events raw,
      raw ∈ rawFrames events ∧
      (decryptSmb3DirectTcpFrame raw encryptionKey 1 .smb300 = .ok (.ok (framed closeMessage)) ↔
        SignedByItself encryptionKey signingKey 1 .smb300
          ⟨framed closeMessage, ShareConnection.chain, events⟩) := by
  obtain ⟨es, hconnect, -, -⟩ := runs_connect
  obtain ⟨encrypted, payload, raw, events, r, chain', -, -, -, hrun, hraw⟩ := runs_close
  have hframe : encodeDirectTcpFrame closeMessage = .ok (framed closeMessage) :=
    encodeDirectTcpFrame_framed (by decide)
  obtain ⟨-, encryptionKey, -, signingKey, -, -, -, hall⟩ :=
    rawFrame_decrypts_iff hconnect rfl rfl
  exact ⟨encryptionKey, signingKey, events, raw, hraw,
    hall [_] (.cons hframe hrun (.nil chain')) _ List.mem_cons_self raw hraw⟩

open ShareConnection in
/-- The first CLOSE over the connection of the share: signing its TRANSFORM frame
    leaves the raw transport a frame that no client key of the session decrypts to
    the request. -/
theorem close_signed_over_transform :
    ∃ es state log,
      Program.Runs ((connect noSha512 preferringOptions {}).run.run .raw) es
        (.ok (.ok state), ShareConnection.chain) ∧
      ShareConnection.chain.hasSigning = true ∧ ShareConnection.chain.hasEncryption = true ∧
      Exchanges ShareConnection.chain log ∧
      ∃ x ∈ log, closeRequest.frame = .ok x.frame ∧ ∃ raw ∈ rawFrames x.events,
        ∀ key encryptionKey, sessionKeyEvent key ∈ es →
          deriveSmb3EncryptionKey key state.negotiated.dialect .clientToServer =
            .ok encryptionKey →
          decryptSmb3DirectTcpFrame raw encryptionKey state.connection.sessionId
            state.negotiated.dialect ≠ .ok (.ok x.frame) := by
  obtain ⟨es, hconnect, -, honly, -⟩ := runs_connect
  obtain ⟨encrypted, payload, raw, events, r, chain', hencrypted, hencode, hflags, hrun, hraw⟩ :=
    runs_close
  have hframe : encodeDirectTcpFrame closeMessage = .ok (framed closeMessage) :=
    encodeDirectTcpFrame_framed (by decide)
  refine ⟨es, _, [⟨framed closeMessage, _, events⟩], hconnect, rfl, rfl,
    .cons hframe hrun (.nil chain'), _, List.mem_cons_self, closeRequest_frame, raw, hraw, ?_⟩
  intro key key' hkey hderive hdecrypts
  obtain rfl := honly key hkey
  have hknown : deriveSmb3EncryptionKey sessionKey negotiated.dialect .clientToServer =
      .ok ShareConnection.encryptionKey := rfl
  obtain rfl : key' = ShareConnection.encryptionKey := Except.ok.inj (hderive.symm.trans hknown)
  obtain ⟨encrypted', hencrypted', hsigned⟩ := rawFrames_of_encryption hrun hraw
  obtain rfl : encrypted' = encrypted :=
    Except.ok.inj (Except.ok.inj (hencrypted'.symm.trans hencrypted))
  -- the tag would have to hold the signed flag
  have hverified := (decrypt_signed_iff hframe hencrypted hsigned).1 hdecrypts
  exact ((verifySmb2DirectTcpFrameSignature_eq_true hencode).1 hverified).2.2.1 hflags

end SmbBrowser.Native
