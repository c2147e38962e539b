import SmbBrowser.Native.Establishment

/-!
# What a connect guarantees

Every run of `connect` from the raw transport, for any replies of the server.

Results:
* `runs_connect`: a run is one of the first stage, followed by one of the second
  when the first ends with a session;
* `preauthIntegrityHash_transcript`: the hash the signing key is derived with is
  the fold over the messages of the handshake;
* `connect_encrypts`: encryption is installed where the policy, the session or
  the share asks for it, once, and for no session that cannot encrypt;
* `connect_signs_iff`: where signing is required, a session is signed exactly
  when it is neither a guest nor a null session.
-/

namespace SmbBrowser.Native

open SmbBrowser.Base

section

variable {sha512 : ByteVector → Vector UInt8 64} {options : NativeSmbConnectorOptions}
  {context : OperationContext} {es : List (Event Link)} {chain : TransportChain}
  {r : Except Exn (DecodeResult NativeSmbConnectedState)}

/-- A run of `connect`, given the events of its first stage and the session they
    end with. -/
structure ConnectRun (sha512 : ByteVector → Vector UInt8 64) (options : NativeSmbConnectorOptions)
    (context : OperationContext) (handshake : List (Event Link))
    (negotiated : NegotiatedConnection) (setup : SetupState) (rest : List (Event Link))
    (r : Except Exn (DecodeResult NativeSmbConnectedState)) (chain : TransportChain) : Prop where
  authenticated : Program.Runs ((authenticate sha512 options context).run.run .raw) handshake
    (.ok (.ok (negotiated, setup)), .raw)
  established : Program.Runs
    ((establish options.config context negotiated setup).run.run .raw) rest (r, chain)

/-- A run of `connect` fails on the raw transport, or gets to its second stage. -/
theorem runs_connect (hrun : Program.Runs ((connect sha512 options context).run.run .raw) es
    (r, chain)) :
    (chain = .raw ∧ ∀ state, r ≠ .ok (.ok state)) ∨
    ∃ handshake negotiated setup rest, es = handshake ++ rest ∧
      ConnectRun sha512 options context handshake negotiated setup rest r chain := by
  rw [connect_eq] at hrun
  have hfirst : ∀ {es r chain}, Program.Runs ((authenticate sha512 options context).run.run .raw) es
      (r, chain) → chain = .raw := by
    intro es r chain h
    exact (Meets.history authenticate_meets h).1
  obtain ⟨e, rfl, h⟩ | ⟨handshake, x, chain₁, rest, rfl, h, hrest⟩ := runsS_bind.1 hrun
  · exact .inl ⟨hfirst h, by rintro _ ⟨⟩⟩
  · obtain rfl := hfirst h
    cases x with
    | error e =>
      obtain ⟨rfl, hr⟩ := Program.runs_pure.1 hrest
      injection hr with hr hchain
      exact .inl ⟨hchain, by rw [hr]; rintro _ ⟨⟩⟩
    | ok session =>
      obtain ⟨negotiated, setup⟩ := session
      exact .inr ⟨handshake, negotiated, setup, rest, rfl, h, hrest⟩

section

variable {handshake rest : List (Event Link)} {negotiated : NegotiatedConnection}
  {setup : SetupState}

theorem ConnectRun.transcript
    (h : ConnectRun sha512 options context handshake negotiated setup rest r chain) :
    IsTranscript sha512 options negotiated setup (exchangedMessages handshake) :=
  (Meets.history authenticate_meets h.authenticated).2 negotiated setup rfl

/-- What the second stage of a run leaves. -/
theorem ConnectRun.left
    (h : ConnectRun sha512 options context handshake negotiated setup rest r chain) :
    chain.layers = .raw ∨ ∃ key encrypted,
      Established options.config negotiated setup key encrypted chain rest :=
  (Meets.history establish_meets h.established).1

/-- What a successful run leaves and sent. -/
theorem ConnectRun.succeeded {state : NativeSmbConnectedState}
    (h : ConnectRun sha512 options context handshake negotiated setup rest (.ok (.ok state))
      chain) :
    state.negotiated = negotiated ∧ state.session = setup.session ∧
      state.connection.sessionId = setup.sessionId ∧
      ∃ key encrypted, Established options.config negotiated setup key encrypted chain rest ∧
        (mustEncryptSession options.config setup.session = true ∨
          state.tree.requiresEncryption = true → encrypted = true) ∧
        ∀ e ∈ rest, StackEvent negotiated.dialect setup.sessionId key
          (mustEncryptSession options.config setup.session) True e := by
  obtain ⟨-, hok⟩ := Meets.history establish_meets h.established
  obtain ⟨hnegotiated, hsession, hid, key, encrypted, hleft, hencrypted, added, hrest, hadded⟩ :=
    hok state rfl
  rw [List.nil_append] at hrest
  exact ⟨hnegotiated, hsession, hid, key, encrypted, hleft, hencrypted, hrest ▸ hadded⟩

end

/-! ## The preauthentication transcript -/

/-- The key of the signing transport of a chain. -/
def TransportChain.signingKey? : TransportChain → Option ByteVector
  | .raw => none
  | .signing _ sessionKey _ _ => some sessionKey
  | .encryption inner _ _ _ _ _ => inner.signingKey?

theorem signingKey?_layers (chain : TransportChain) :
    chain.layers.signingKey? = chain.signingKey? := by
  induction chain with
  | raw => rfl
  | signing => rfl
  | encryption inner _ _ _ _ _ ih => exact ih

theorem Stack.signingKey? {dialect : Dialect} {sessionId : UInt64} {key : Option ByteVector}
    {encrypted : Bool} (h : Stack dialect sessionId key encrypted chain) :
    chain.signingKey? = key := by
  have hinner : (signingStack dialect key).signingKey? = key := by
    cases key <;> rfl
  rw [← signingKey?_layers]
  cases encrypted with
  | false =>
    have hlayers : chain.layers = signingStack dialect key := h
    rw [hlayers, hinner]
  | true =>
    obtain ⟨encryptionKey, decryptionKey, hlayers⟩ := h
    rw [hlayers]
    exact hinner

/-- In every run of `connect` that gets to its second stage, the messages of the
    first are a transcript, and the signing key of an SMB 3.1.1 connection is
    derived with the hash over it. -/
theorem preauthIntegrityHash_transcript
    (hrun : Program.Runs ((connect sha512 options context).run.run .raw) es (r, chain)) :
    (chain = .raw ∧ ∀ state, r ≠ .ok (.ok state)) ∨
    ∃ handshake negotiated setup rest, es = handshake ++ rest ∧
      ConnectRun sha512 options context handshake negotiated setup rest r chain ∧
      IsTranscript sha512 options negotiated setup (exchangedMessages handshake) ∧
      (negotiated.dialect = .smb311 → ∀ key, chain.signingKey? = some key →
        ∃ sessionKey, sessionKeyEvent sessionKey ∈ rest ∧
          deriveSmb311SigningKey sessionKey setup.preauthIntegrityHash = .ok key) := by
  refine (runs_connect hrun).imp_right ?_
  rintro ⟨handshake, negotiated, setup, rest, hes, h⟩
  refine ⟨handshake, negotiated, setup, rest, hes, h, h.transcript, ?_⟩
  intro hdialect key hkey
  obtain hraw | ⟨key', encrypted, hestablished⟩ := h.left
  · rw [← signingKey?_layers, hraw] at hkey
    cases hkey
  · rw [hestablished.stack.signingKey?] at hkey
    obtain ⟨sessionKey, hmem, hderived⟩ := hestablished.derived key hkey
    refine ⟨sessionKey, hmem, ?_⟩
    rw [deriveSigningKey, if_pos hdialect] at hderived
    cases hkey' : deriveSmb311SigningKey sessionKey setup.preauthIntegrityHash with
    | error e =>
      rw [hkey'] at hderived
      cases hderived
    | ok key'' =>
      rw [hkey'] at hderived
      injection hderived with hderived
      rw [hderived]

/-! ## Encryption -/

/-- The encrypting transports of a chain. -/
def TransportChain.encryptionTransports : TransportChain → ℕ
  | .raw => 0
  | .signing inner _ _ _ => inner.encryptionTransports
  | .encryption inner _ _ _ _ _ => inner.encryptionTransports + 1

theorem encryptionTransports_layers (chain : TransportChain) :
    chain.layers.encryptionTransports = chain.encryptionTransports := by
  induction chain with
  | raw => rfl
  | signing inner _ _ _ ih => exact ih
  | encryption inner _ _ _ _ _ ih => exact congrArg (· + 1) ih

theorem Stack.encryptionTransports {dialect : Dialect} {sessionId : UInt64}
    {key : Option ByteVector} {encrypted : Bool} (h : Stack dialect sessionId key encrypted chain) :
    chain.encryptionTransports = if encrypted then 1 else 0 := by
  have hinner : (signingStack dialect key).encryptionTransports = 0 := by
    cases key <;> rfl
  rw [← encryptionTransports_layers]
  cases encrypted with
  | false =>
    have hlayers : chain.layers = signingStack dialect key := h
    rw [hlayers, hinner]
    rfl
  | true =>
    obtain ⟨encryptionKey, decryptionKey, hlayers⟩ := h
    rw [hlayers]
    show (signingStack dialect key).encryptionTransports + 1 = _
    rw [hinner]
    rfl

/-- Every request handed to the chain reaches the raw transport encrypted, or not
    at all. -/
def EncryptsAll (dialect : Dialect) (sessionId : UInt64) (chain : TransportChain) : Prop :=
  ∀ log, Exchanges chain log → ∀ x ∈ log, ∀ raw ∈ rawFrames x.events,
    Wraps dialect sessionId x.frame raw

theorem Stack.encryptsAll {dialect : Dialect} {sessionId : UInt64} {key : Option ByteVector}
    (h : Stack dialect sessionId key true chain) : EncryptsAll dialect sessionId chain := by
  intro log hlog x hx raw hraw
  obtain ⟨hlayers, message, context, r, chain', hframe, hrun⟩ := hlog.layers x hx
  obtain ⟨hnone, -⟩ | ⟨raw', answer, hevents, hwraps, -⟩ :=
    (h.of_layers hlayers).exchange hframe hrun
  · rw [hnone] at hraw
    cases hraw
  · rw [hevents] at hraw
    rw [List.mem_singleton.1 hraw]
    exact hwraps rfl

/-- The sessions that may be encrypted. -/
theorem of_sessionCanEncrypt {negotiated : NegotiatedConnection} {session : SessionSetupResponse}
    (h : sessionCanEncrypt negotiated session = true) :
    (negotiated.dialect = .smb300 ∨ negotiated.dialect = .smb302) ∧
      session.guestSession = false ∧ session.nullSession = false := by
  simp only [sessionCanEncrypt, supportsAesCcmEncryption, Bool.and_eq_true, Bool.or_eq_true,
    decide_eq_true_eq, Bool.not_eq_true] at h
  exact ⟨h.1.1.2, h.1.2, h.2⟩

/-- In every run of `connect` at most one encrypting transport is installed, for
    no guest or null session and no other dialect than SMB 3.0 and 3.0.2.  When it
    succeeds, everything from TREE_CONNECT on is encrypted if the policy or the
    session asks for it, and everything after TREE_CONNECT if the share does. -/
theorem connect_encrypts
    (hrun : Program.Runs ((connect sha512 options context).run.run .raw) es (r, chain)) :
    (chain.encryptionTransports = 0 ∧ ∀ state, r ≠ .ok (.ok state)) ∨
    ∃ handshake negotiated setup rest, es = handshake ++ rest ∧
      ConnectRun sha512 options context handshake negotiated setup rest r chain ∧
      chain.encryptionTransports ≤ 1 ∧
      (chain.encryptionTransports ≠ 0 →
        (negotiated.dialect = .smb300 ∨ negotiated.dialect = .smb302) ∧
        setup.session.guestSession = false ∧ setup.session.nullSession = false) ∧
      ∀ state, r = .ok (.ok state) →
        state.negotiated = negotiated ∧ state.session = setup.session ∧
        state.connection.sessionId = setup.sessionId ∧
        (options.config.encryption = .required ∨ setup.session.encryptData = true →
          chain.encryptionTransports = 1 ∧
          (∀ e ∈ rest, WrappedExchange negotiated.dialect setup.sessionId e) ∧
          EncryptsAll negotiated.dialect setup.sessionId chain) ∧
        (state.tree.requiresEncryption = true →
          chain.encryptionTransports = 1 ∧
          EncryptsAll negotiated.dialect setup.sessionId chain) := by
  obtain ⟨rfl, hfailed⟩ | ⟨handshake, negotiated, setup, rest, hes, h⟩ := runs_connect hrun
  · exact .inl ⟨rfl, hfailed⟩
  refine .inr ⟨handshake, negotiated, setup, rest, hes, h, ?_, ?_, ?_⟩
  · obtain hraw | ⟨key, encrypted, hestablished⟩ := h.left
    · rw [← encryptionTransports_layers, hraw]
      exact Nat.zero_le 1
    · rw [hestablished.stack.encryptionTransports]
      split <;> omega
  · intro hinstalled
    obtain hraw | ⟨key, encrypted, hestablished⟩ := h.left
    · rw [← encryptionTransports_layers, hraw] at hinstalled
      exact absurd rfl hinstalled
    · rw [hestablished.stack.encryptionTransports] at hinstalled
      cases encrypted with
      | false => exact absurd rfl hinstalled
      | true => exact of_sessionCanEncrypt (hestablished.allowed rfl)
  · rintro state rfl
    obtain ⟨hnegotiated, hsession, hid, key, encrypted, hestablished, hencrypted, hevents⟩ :=
      h.succeeded
    refine ⟨hnegotiated, hsession, hid, ?_, ?_⟩
    · intro hasked
      have hmust : mustEncryptSession options.config setup.session = true := by
        rw [mustEncryptSession, Bool.or_eq_true, decide_eq_true_eq]
        exact hasked.symm
      obtain rfl := hencrypted (.inl hmust)
      exact ⟨hestablished.stack.encryptionTransports, fun e he => (hevents e he).2 hmust,
        hestablished.stack.encryptsAll⟩
    · intro hasked
      obtain rfl := hencrypted (.inr hasked)
      exact ⟨hestablished.stack.encryptionTransports, hestablished.stack.encryptsAll⟩

open ShareConnection in
/-- The connection of the share that asks for encryption. -/
theorem connect_encrypts_share : EncryptsAll .smb300 1 ShareConnection.chain := by
  obtain ⟨es, hconnect, -⟩ := ShareConnection.runs_connect
  obtain ⟨-, hfailed⟩ | ⟨handshake, negotiated, setup, rest, -, -, -, -, hok⟩ :=
    connect_encrypts hconnect
  · exact absurd rfl (hfailed _)
  · obtain ⟨rfl, -, hid, -, hshare⟩ := hok _ rfl
    have hencrypts := (hshare rfl).2
    rwa [← hid] at hencrypts

/-! ## Signing -/

/-- Everything from TREE_CONNECT on is signed with one key, and a reply the client
    goes on with is verified: the exchanges of the second stage of a connect, and
    every request handed to the chain it left. -/
def SignsAll (dialect : Dialect) (rest : List (Event Link)) (chain : TransportChain) : Prop :=
  ∃ key, (∀ e ∈ rest, SignedExchange dialect (some key) True e) ∧
    ∀ log, Exchanges chain log → ∀ x ∈ log, ∀ context r chain',
      Program.Runs (x.before.exchange x.frame context) x.events (r, chain') →
        ∀ e ∈ x.events, SignedExchange dialect (some key) (GoesOn r) e

open ShareConnection in
/-- A connection that is neither signed nor encrypted hands its requests on as
    they are. -/
theorem not_signsAll_raw {dialect : Dialect} {rest : List (Event Link)}
    (h : chain.layers = .raw) : ¬ SignsAll dialect rest chain := by
  obtain rfl : chain = .raw := by
    cases chain with
    | raw => rfl
    | signing => cases h
    | encryption => cases h
  rintro ⟨key, -, hlater⟩
  -- a CLOSE of the session
  have hframe : encodeDirectTcpFrame closeMessage = .ok (framed closeMessage) :=
    encodeDirectTcpFrame_framed (by decide)
  have hreply : DecodeResult ByteVector := failure .networkError "closed"
  have hrun : Program.Runs (TransportChain.raw.exchange (framed closeMessage) {})
      [⟨.exchange (framed closeMessage) {}, hreply⟩] (.ok hreply, .raw) := .ask _ (.pure _)
  have hsigned := hlater _ (.cons hframe hrun (.nil _)) _ List.mem_cons_self {} _ _ hrun _
    List.mem_cons_self
  have hflags : flagsOf closeMessage &&& kFlagSigned = 0 := by decide
  exact ((verifySmb2DirectTcpFrameSignature_eq_true hframe).1 (hsigned key rfl).1).2.2.1 hflags

/-- In every successful run of `connect` with signing required by the client or by
    the server, everything from TREE_CONNECT on is signed and verified exactly when
    the server made the session neither a guest nor a null session. -/
theorem connect_signs_iff {state : NativeSmbConnectedState}
    (hrun : Program.Runs ((connect sha512 options context).run.run .raw) es
      (.ok (.ok state), chain))
    (hrequired : options.config.signing = .required ∨ state.negotiated.signingRequired = true) :
    ∃ handshake setup rest, es = handshake ++ rest ∧
      ConnectRun sha512 options context handshake state.negotiated setup rest (.ok (.ok state))
        chain ∧
      state.session = setup.session ∧
      (SignsAll state.negotiated.dialect rest chain ↔
        state.session.guestSession = false ∧ state.session.nullSession = false) := by
  obtain ⟨-, hfailed⟩ | ⟨handshake, negotiated, setup, rest, hes, h⟩ := runs_connect hrun
  · exact absurd rfl (hfailed state)
  obtain ⟨rfl, hsession, hid, key, encrypted, hestablished, -, hevents⟩ := h.succeeded
  refine ⟨handshake, setup, rest, hes, h, hsession, ?_⟩
  have hasked : (state.negotiated.signingRequired || options.config.signing ≠ .disabled) = true := by
    rw [Bool.or_eq_true, decide_eq_true_eq]
    refine hrequired.symm.imp_right ?_
    intro hpolicy
    rw [hpolicy]
    rintro ⟨⟩
  have hsigns := hestablished.signs
  rw [shouldSignConnection, hasked, ← hsession] at hsigns
  constructor
  · intro hall
    by_contra hneither
    have hunsigned : key = none := by
      rw [← Option.not_isSome_iff_eq_none, hsigns]
      simpa using fun hguest => by simpa [hguest] using hneither
    have hplain : encrypted = false := by
      refine Bool.eq_false_of_not_eq_true fun hencrypted => hneither ?_
      rw [hsession]
      exact (of_sessionCanEncrypt (hestablished.allowed hencrypted)).2
    subst hunsigned hplain
    exact not_signsAll_raw hestablished.stack hall
  · rintro ⟨hguest, hnull⟩
    rw [hguest, hnull] at hsigns
    obtain ⟨key, rfl⟩ := Option.isSome_iff_exists.1 hsigns
    refine ⟨key, fun e he => (hevents e he).1, ?_⟩
    intro log hlog x hx context' r chain' hexchange e he
    obtain ⟨hlayers, message, -, -, -, hframe, -⟩ := hlog.layers x hx
    obtain ⟨hnone, -⟩ | ⟨raw, answer, hone, -, hsigned⟩ :=
      (hestablished.stack.of_layers hlayers).exchange hframe hexchange
    · rw [hnone] at he
      cases he
    · rw [hone] at he
      rw [List.mem_singleton.1 he]
      exact hsigned

end

/-! ## A guest session -/

namespace GuestConnection

/-- The default options require signing. -/
def options : NativeSmbConnectorOptions where
  config := { server := ascii "s", share := ascii "d" }

/-- NEGOTIATE: SMB 3.1.1, signing required. -/
def negotiateReply : ByteVector :=
  framed (encodeSmb2SyncHeader { command := .negotiate, flags := kFlagServerToRedir } ++
    (u16Le 65 ++ u16Le 3 ++ u16Le 0x0311 ++ u16Le 0 ++ List.replicate 48 0 ++ u16Le 128 ++
    u16Le 0 ++ u32Le 0))

/-- SESSION_SETUP: session 1, for a guest. -/
def setupMessage : ByteVector :=
  encodeSmb2SyncHeader {
    command := .sessionSetup, flags := kFlagServerToRedir, sessionId := 1 } ++
    (u16Le 9 ++ u16Le kSessionFlagIsGuest ++ u32Le 0)

/-- TREE_CONNECT: a share without flags. -/
def treeReply : ByteVector :=
  framed (encodeSmb2SyncHeader ShareConnection.treeHeader ++
    (u16Le 16 ++ [1, 0] ++ List.replicate 12 0))

def replies : List (DecodeResult ByteVector) :=
  [.ok negotiateReply, .ok [], .ok (framed setupMessage), .ok treeReply]

def state : NativeSmbConnectedState where
  connection := ⟨5, 1, 3⟩
  negotiated := {
    dialect := .smb311
    signingRequired := true
    preauthIntegrityHash := List.replicate 64 0 }
  session := {
    sessionId := 1
    sessionFlags := kSessionFlagIsGuest
    guestSession := true
    requestPayload :=
      encodeSmb2SyncHeader { command := .sessionSetup, messageId := 1, creditCharge := 1 } ++
      (u16Le 25 ++ [0, 3] ++ u32Le (offeredCapabilities options.config) ++ u32Le 0 ++ u16Le 88 ++
      u16Le 0 ++ u64Le 0)
    responsePayload := setupMessage }
  tree := { treeId := 5 }

set_option maxRecDepth 10000 in
theorem runs_connect : Program.Runs ((connect noSha512 options {}).run.run .raw)
    (linkPlayed (connect noSha512 options {}) replies).1 (.ok (.ok state), .raw) :=
  runs_linkPlayed (by rfl)

end GuestConnection

open GuestConnection in
/-- The guest session is signed only if it is none. -/
theorem connect_signs_iff_guest :
    ∃ handshake setup rest, ConnectRun noSha512 options {} handshake state.negotiated setup rest
        (.ok (.ok state)) .raw ∧
      (SignsAll .smb311 rest .raw ↔
        state.session.guestSession = false ∧ state.session.nullSession = false) := by
  obtain ⟨handshake, setup, rest, -, hconnect, -, hiff⟩ :=
    connect_signs_iff GuestConnection.runs_connect (.inl rfl)
  exact ⟨handshake, setup, rest, hconnect, hiff⟩

open GuestConnection in
/-- With signing required by both sides, `connect` returns a session for a guest
    that signs nothing. -/
theorem guest_session_unsigned :
    ∃ es, Program.Runs ((connect noSha512 options {}).run.run .raw) es (.ok (.ok state), .raw) ∧
      options.config.signing = .required ∧ state.negotiated.signingRequired = true ∧
      ∀ rest, ¬ SignsAll state.negotiated.dialect rest .raw :=
  ⟨_, GuestConnection.runs_connect, rfl, rfl, fun _ => not_signsAll_raw rfl⟩

open GuestConnection in
/-- The handshake of the guest session. -/
theorem preauthIntegrityHash_transcript_guest :
    ∃ handshake negotiated setup rest,
      ConnectRun noSha512 options {} handshake negotiated setup rest (.ok (.ok state)) .raw ∧
      IsTranscript noSha512 options negotiated setup (exchangedMessages handshake) := by
  obtain ⟨-, hfailed⟩ | ⟨handshake, negotiated, setup, rest, -, hconnect, htranscript, -⟩ :=
    preauthIntegrityHash_transcript GuestConnection.runs_connect
  · exact absurd rfl (hfailed state)
  · exact ⟨handshake, negotiated, setup, rest, hconnect, htranscript⟩

end SmbBrowser.Native
