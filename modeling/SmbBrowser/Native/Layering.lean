import SmbBrowser.Native.Connector

/-!
# Encryption over signing

What `NativeSmbConnector::connect` stacks around the raw transport, and what
becomes of a request that goes through it: the encrypting transport hands its
TRANSFORM message to the signing one, which writes a signature into it.
-/

namespace SmbBrowser.Native

open SmbBrowser.Base

/-! ## Programs that keep the layers -/

/-- The programs of the connector against the list of their events. -/
abbrev LinkMeets {α : Type} (p : LinkM α)
    (Q : Except Exn α → TransportChain → List (Event Link) → Prop) (chain : TransportChain)
    (es : List (Event Link)) : Prop :=
  MeetsS .history p Q chain es

/-- A program that changes nothing but the nonce counters of the chain. -/
def KeepsLayers {α : Type} (p : LinkM α) : Prop :=
  ∀ chain es, LinkMeets p (fun _ chain' es' => chain'.layers = chain.layers ∧ es ⊆ es') chain es

section

variable {α β : Type} {p : LinkM α} {f : α → LinkM β}

theorem KeepsLayers.pure (a : α) : KeepsLayers (pure a : LinkM α) := by
  intro chain es
  exact ⟨rfl, fun _ h => h⟩

theorem KeepsLayers.bind (hp : KeepsLayers p) (hf : ∀ a, KeepsLayers (f a)) :
    KeepsLayers (p >>= f) := by
  intro chain es
  refine (hp chain es).bind ?_ ?_
  · rintro a chain' es' ⟨hlayers, hes⟩
    refine (hf a chain' es').mono ?_
    rintro r chain'' es'' ⟨hlayers', hes'⟩
    exact ⟨hlayers'.trans hlayers, List.Subset.trans hes hes'⟩
  · rintro e chain' es' h
    exact h

theorem KeepsLayers.ofExcept (x : Except Exn α) : KeepsLayers (LinkM.ofExcept x) := by
  intro chain es
  exact ⟨rfl, fun _ h => h⟩

theorem KeepsLayers.ask (op : LinkOp) : KeepsLayers (LinkM.ask op) := by
  intro chain es
  refine ⟨trivial, ?_⟩
  rintro ans m rfl
  exact ⟨rfl, List.subset_append_left _ _⟩

theorem KeepsLayers.cancelled (context : OperationContext) :
    KeepsLayers (LinkM.cancelled context) := by
  rw [LinkM.cancelled]
  split
  · exact .ask _
  · exact .pure _

theorem KeepsLayers.exchange (frame : ByteVector) (context : OperationContext) :
    KeepsLayers (LinkM.exchange frame context) := by
  intro chain es
  have hlayers : ∀ es' r, Program.Runs (chain.exchange frame context) es' r →
      r.2.layers = chain.layers := fun _ ⟨_, _⟩ hrun => TransportChain.layers_exchange hrun
  refine (meets_history_of_runs hlayers es).mono ?_
  rintro r es' ⟨added, rfl, hr⟩
  exact ⟨hr, List.subset_append_left _ _⟩

theorem KeepsLayers.linkExchange (cancelled : String) (request : Except Exn ByteVector)
    (decode : ByteVector → ByteVector → DecodeResult α) (context : OperationContext) :
    KeepsLayers (linkExchange cancelled request decode context) := by
  refine (KeepsLayers.cancelled context).bind fun cancelledBefore => ?_
  split
  · exact .pure _
  refine (KeepsLayers.ofExcept _).bind fun requestPayload => ?_
  refine (KeepsLayers.ofExcept _).bind fun requestFrame => ?_
  refine (KeepsLayers.exchange _ context).bind fun response => ?_
  split
  · exact .pure _
  refine (KeepsLayers.cancelled context).bind fun cancelledAfter => ?_
  split
  · exact .pure _
  split
  · exact .pure _
  · exact .pure _

theorem KeepsLayers.sessionSetupRounds (sha512 : ByteVector → Vector UInt8 64)
    (options : NativeSmbConnectorOptions) (negotiated : NegotiatedConnection)
    (context : OperationContext) (rounds : ℕ) (token : ByteVector) (state : SetupState) :
    KeepsLayers (sessionSetupRounds sha512 options negotiated context rounds token state) := by
  induction rounds generalizing token state with
  | zero => exact .pure _
  | succ rounds ih =>
    refine (KeepsLayers.linkExchange _ _ _ context).bind fun response => ?_
    split
    · exact .pure _
    split
    · exact .pure _
    split
    · exact .pure _
    refine (KeepsLayers.ask _).bind fun next => ?_
    split
    · exact .pure _
    split
    · exact .pure _
    · exact ih _ _

end

/-! ## What the connector stacks -/

/-- The raw transport, or a signing transport over it. -/
def SignedAtMost (dialect : Dialect) (chain : TransportChain) : Prop :=
  chain = .raw ∨ ∃ signingKey, chain = .signing .raw signingKey dialect true

/-- The event of the token provider giving a session key. -/
def sessionKeyEvent (key : ByteVector) : Event Link :=
  ⟨.sessionBaseKey, (.ok key : DecodeResult ByteVector)⟩

/-- An encrypting transport over at most a signing one, with the client's key
    derived from a session key of the token provider. -/
def EncryptedOnce (dialect : Dialect) (sessionId : UInt64) (chain : TransportChain)
    (es : List (Event Link)) : Prop :=
  ∃ inner encryptionKey decryptionKey sessionKey,
    chain.layers = .encryption inner encryptionKey decryptionKey sessionId dialect 0 ∧
    SignedAtMost dialect inner ∧
    sessionKeyEvent sessionKey ∈ es ∧
    deriveSmb3EncryptionKey sessionKey dialect .clientToServer = .ok encryptionKey

/-- The chain of a connection: at most signed, or encrypted over that. -/
def Stacked (dialect : Dialect) (sessionId : UInt64) (chain : TransportChain)
    (es : List (Event Link)) : Prop :=
  SignedAtMost dialect chain.layers ∨ EncryptedOnce dialect sessionId chain es

/-- A session key the connector holds: none yet, or one of the provider. -/
def KeyKnown (sessionKey : ByteVector) (es : List (Event Link)) : Prop :=
  sessionKey = [] ∨ sessionKeyEvent sessionKey ∈ es

section

variable {dialect : Dialect} {sessionId : UInt64} {chain chain' : TransportChain}
  {es es' : List (Event Link)}

theorem KeyKnown.mono {sessionKey : ByteVector} (h : KeyKnown sessionKey es) (hes : es ⊆ es') :
    KeyKnown sessionKey es' :=
  h.imp_right fun hmem => hes hmem

theorem meets_ofExcept {α β : Type} {x : Except Exn α} {f : α → LinkM β}
    {Q : Except Exn β → TransportChain → List (Event Link) → Prop}
    (hok : ∀ a, x = .ok a → LinkMeets (f a) Q chain es) (herror : ∀ e, Q (.error e) chain es) :
    LinkMeets (LinkM.ofExcept x >>= f) Q chain es := by
  rw [LinkMeets, meetsS_bind]
  cases x with
  | error e => exact herror e
  | ok a => exact hok a rfl

/-- Signing stacks at most a signing transport on a bare chain. -/
theorem signConnection_meets {config : ConnectionConfig} {negotiated : NegotiatedConnection}
    {setup : SetupState} {sessionKey : ByteVector} (h : chain.layers = .raw) :
    LinkMeets (signConnection config negotiated setup sessionKey)
      (fun _ chain' es' => SignedAtMost negotiated.dialect chain'.layers ∧ es' = es) chain es := by
  have hplain : SignedAtMost negotiated.dialect chain.layers := .inl h
  rw [signConnection]
  split
  · exact ⟨hplain, rfl⟩
  split
  · exact ⟨hplain, rfl⟩
  split
  · exact ⟨hplain, rfl⟩
  · rename_i signingKey _
    refine meets_ofExcept (fun frame _ => ?_) fun e => ⟨hplain, rfl⟩
    split
    · exact ⟨hplain, rfl⟩
    · refine ⟨.inr ⟨signingKey, ?_⟩, rfl⟩
      show TransportChain.signing chain.layers signingKey negotiated.dialect true = _
      rw [h]

/-- A program that begins with one question. -/
theorem meets_linkAsk {β : Type} {op : LinkOp} {f : Link.Ans op → LinkM β}
    {Q : Except Exn β → TransportChain → List (Event Link) → Prop}
    (h : ∀ ans, LinkMeets (f ans) Q chain (es ++ [⟨op, ans⟩])) :
    LinkMeets (LinkM.ask op >>= f) Q chain es := by
  rw [LinkMeets, meetsS_bind]
  refine ⟨trivial, ?_⟩
  rintro ans m rfl
  exact h ans

theorem requireSessionKey_meets {sessionKey : ByteVector} (h : KeyKnown sessionKey es) :
    LinkMeets (requireSessionKey sessionKey)
      (fun r chain' es' => chain' = chain ∧ es ⊆ es' ∧
        ∀ key, r = .ok (.ok key) → KeyKnown key es' ∧ (key ≠ [] → sessionKeyEvent key ∈ es'))
      chain es := by
  rw [requireSessionKey]
  split
  · refine meets_linkAsk fun ans => ?_
    cases ans with
    | error e =>
      refine ⟨rfl, List.subset_append_left _ _, ?_⟩
      rintro key ⟨⟩
    | ok key' =>
      refine ⟨rfl, List.subset_append_left _ _, ?_⟩
      rintro _ ⟨⟩
      have hmem : sessionKeyEvent key' ∈ es ++ [⟨.sessionBaseKey, .ok key'⟩] :=
        List.mem_append_right _ (List.mem_singleton.2 rfl)
      exact ⟨.inr hmem, fun _ => hmem⟩
  · rename_i hne
    refine ⟨rfl, fun _ h => h, ?_⟩
    rintro key ⟨⟩
    exact ⟨h, fun _ => h.resolve_left hne⟩

theorem ne_nil_of_deriveSmb3EncryptionKey {key out : ByteVector} {direction : Smb3KeyDirection}
    (h : deriveSmb3EncryptionKey key dialect direction = .ok out) : key ≠ [] := by
  rintro rfl
  unfold deriveSmb3EncryptionKey at h
  split at h
  · cases h
  · cases h

/-- Encryption goes over at most a signing transport. -/
theorem enableEncryption_meets {negotiated : NegotiatedConnection} {setup : SetupState}
    {sessionKey : ByteVector} (h : SignedAtMost negotiated.dialect chain.layers)
    (hkey : KeyKnown sessionKey es) :
    LinkMeets (enableEncryption negotiated setup sessionKey)
      (fun r chain' es' => es ⊆ es' ∧ (r = .ok (.ok ()) →
        EncryptedOnce negotiated.dialect setup.sessionId chain' es')) chain es := by
  rw [enableEncryption]
  split
  · refine ⟨fun _ h => h, ?_⟩
    rintro ⟨⟩
  refine (requireSessionKey_meets hkey).bind ?_ ?_
  · rintro r chain' es' ⟨rfl, hes, hr⟩
    cases r with
    | error e =>
      refine ⟨hes, ?_⟩
      rintro ⟨⟩
    | ok key =>
      dsimp only
      cases hencryption : deriveSmb3EncryptionKey key negotiated.dialect .clientToServer with
      | error e =>
        refine ⟨hes, ?_⟩
        rintro ⟨⟩
      | ok encryptionKey =>
        cases hdecryption : deriveSmb3EncryptionKey key negotiated.dialect .serverToClient with
        | error e =>
          refine ⟨hes, ?_⟩
          rintro ⟨⟩
        | ok decryptionKey =>
          have hevent := (hr key rfl).2 (ne_nil_of_deriveSmb3EncryptionKey hencryption)
          exact ⟨hes, fun _ => ⟨chain'.layers, encryptionKey, decryptionKey, key, rfl, h, hevent,
            hencryption⟩⟩
  · rintro e chain' es' ⟨rfl, hes, -⟩
    refine ⟨hes, ?_⟩
    rintro ⟨⟩

theorem earlySessionKey_meets {config : ConnectionConfig} {negotiated : NegotiatedConnection}
    {session : SessionSetupResponse} :
    LinkMeets (earlySessionKey config negotiated session)
      (fun r chain' es' => chain' = chain ∧ es ⊆ es' ∧
        ∀ key, r = .ok (.ok key) → KeyKnown key es') chain es := by
  rw [earlySessionKey]
  split
  · refine meets_linkAsk fun ans => ?_
    cases ans with
    | error e =>
      refine ⟨rfl, List.subset_append_left _ _, ?_⟩
      rintro key ⟨⟩
    | ok key' =>
      refine ⟨rfl, List.subset_append_left _ _, ?_⟩
      rintro key ⟨⟩
      exact .inr (List.mem_append_right _ (List.mem_singleton.2 rfl))
  · refine ⟨rfl, fun _ h => h, ?_⟩
    rintro key ⟨⟩
    exact .inl rfl

/-- What `secureSession` leaves: the chain it stacked, and a key it knows. -/
def Secured (dialect : Dialect) (sessionId : UInt64) (sessionKey : ByteVector)
    (connectionEncrypted : Bool) (chain : TransportChain) (es : List (Event Link)) : Prop :=
  KeyKnown sessionKey es ∧
    if connectionEncrypted then EncryptedOnce dialect sessionId chain es
    else SignedAtMost dialect chain.layers

theorem secureSession_meets {config : ConnectionConfig} {negotiated : NegotiatedConnection}
    {setup : SetupState} (h : chain.layers = .raw) :
    LinkMeets (secureSession config negotiated setup)
      (fun r chain' es' => ∀ key encrypted, r = .ok (.ok (key, encrypted)) →
        Secured negotiated.dialect setup.sessionId key encrypted chain' es') chain es := by
  rw [secureSession]
  split
  · rintro key encrypted ⟨⟩
  split
  · rintro key encrypted ⟨⟩
  refine earlySessionKey_meets.bind ?_ (by rintro e chain' es' - key encrypted ⟨⟩)
  rintro early chain₁ es₁ ⟨rfl, -, hearly⟩
  cases early with
  | error e =>
    rintro key encrypted ⟨⟩
  | ok sessionKey =>
    have hkey := hearly sessionKey rfl
    refine (signConnection_meets h).bind ?_ ?_
    swap
    · rintro e chain' es' - key encrypted ⟨⟩
    rintro signed chain₂ es₂ ⟨hsigned, rfl⟩
    cases signed with
    | error e =>
      rintro key encrypted ⟨⟩
    | ok u =>
      dsimp only
      split
      · refine (enableEncryption_meets hsigned hkey).bind ?_
          (by rintro e chain' es' - key encrypted ⟨⟩)
        rintro r chain₃ es₃ ⟨hes, hencrypted⟩
        cases r with
        | error e =>
          rintro key encrypted ⟨⟩
        | ok u =>
          rintro key encrypted ⟨⟩
          exact ⟨hkey.mono hes, hencrypted rfl⟩
      · rintro key encrypted ⟨⟩
        exact ⟨hkey, hsigned⟩

theorem EncryptedOnce.of_layers (h : EncryptedOnce dialect sessionId chain es)
    (hlayers : chain'.layers = chain.layers) (hes : es ⊆ es') :
    EncryptedOnce dialect sessionId chain' es' := by
  obtain ⟨inner, encryptionKey, decryptionKey, key, hchain, hinner, hkey, hderive⟩ := h
  exact ⟨inner, encryptionKey, decryptionKey, key, hlayers.trans hchain, hinner, hes hkey, hderive⟩

theorem Secured.of_layers {sessionKey : ByteVector} {encrypted : Bool}
    (h : Secured dialect sessionId sessionKey encrypted chain es)
    (hlayers : chain'.layers = chain.layers) (hes : es ⊆ es') :
    Secured dialect sessionId sessionKey encrypted chain' es' := by
  refine ⟨h.1.mono hes, ?_⟩
  cases encrypted with
  | false =>
    have hplain : SignedAtMost dialect chain.layers := h.2
    exact hlayers ▸ hplain
  | true => exact EncryptedOnce.of_layers h.2 hlayers hes

section

variable {config : ConnectionConfig} {negotiated : NegotiatedConnection} {setup : SetupState}
  {sessionKey : ByteVector} {encrypted : Bool} {context : OperationContext}

theorem encryptForShare_meets {tree : TreeConnectResult} {messageId : ℕ}
    (h : Secured negotiated.dialect setup.sessionId sessionKey encrypted chain es) :
    LinkMeets (encryptForShare config negotiated setup sessionKey encrypted tree messageId)
      (fun r chain' es' => ∀ result, r = .ok (.ok result) →
        Stacked negotiated.dialect setup.sessionId chain' es') chain es := by
  obtain ⟨hkey, hchain⟩ := h
  rw [encryptForShare]
  cases encrypted with
  | true =>
    rw [if_neg (by simp)]
    rintro result -
    exact .inr hchain
  | false =>
    split
    · refine (enableEncryption_meets hchain hkey).bind ?_ (by rintro e chain' es' - result ⟨⟩)
      rintro r chain' es' ⟨-, hencrypted⟩
      cases r with
      | error e =>
        rintro result ⟨⟩
      | ok u =>
        rintro result -
        exact .inr (hencrypted rfl)
    · rintro result -
      exact .inl hchain

theorem connectTree_meets
    (h : Secured negotiated.dialect setup.sessionId sessionKey encrypted chain es) :
    LinkMeets (connectTree config negotiated setup sessionKey encrypted context)
      (fun r chain' es' => ∀ result, r = .ok (.ok result) →
        Stacked negotiated.dialect setup.sessionId chain' es') chain es := by
  rw [connectTree]
  refine (KeepsLayers.linkExchange _ _ _ context chain es).bind ?_
    (by rintro e chain' es' - result ⟨⟩)
  rintro r chain₁ es₁ ⟨hlayers, hes⟩
  have hsecured := h.of_layers hlayers hes
  cases r with
  | ok tree => exact encryptForShare_meets hsecured
  | error e =>
    dsimp only
    split
    · rename_i hretry
      -- the connection is not encrypted yet
      have hplain : encrypted = false := by simpa using hretry.2.2.2
      subst hplain
      refine (enableEncryption_meets hsecured.2 hsecured.1).bind ?_
        (by rintro e chain' es' - result ⟨⟩)
      rintro r chain₂ es₂ ⟨hes₂, hencrypted⟩
      cases r with
      | error e =>
        rintro result ⟨⟩
      | ok u =>
        have hsecured₂ : Secured negotiated.dialect setup.sessionId sessionKey true chain₂ es₂ :=
          ⟨hsecured.1.mono hes₂, hencrypted rfl⟩
        refine (KeepsLayers.linkExchange _ _ _ context chain₂ es₂).bind ?_
          (by rintro e chain' es' - result ⟨⟩)
        rintro r chain₃ es₃ ⟨hlayers₃, hes₃⟩
        cases r with
        | error e =>
          rintro result ⟨⟩
        | ok tree => exact encryptForShare_meets (hsecured₂.of_layers hlayers₃ hes₃)
    · rintro result ⟨⟩

/-- **What a successful connect stacks**: at most a signing transport over the
    raw one, or one encrypting transport over that. -/
theorem connect_meets {sha512 : ByteVector → Vector UInt8 64} {options : NativeSmbConnectorOptions} :
    LinkMeets (connect sha512 options context)
      (fun r chain' es' => ∀ state, r = .ok (.ok state) →
        Stacked state.negotiated.dialect state.connection.sessionId chain' es') .raw es := by
  rw [connect]
  refine (KeepsLayers.linkExchange _ _ _ context .raw es).bind ?_
    (by rintro e chain' es' - state ⟨⟩)
  rintro r chain₁ es₁ ⟨hlayers₁, -⟩
  cases r with
  | error e =>
    rintro state ⟨⟩
  | ok negotiated =>
    dsimp only
    split
    · rintro state ⟨⟩
    refine (KeepsLayers.ask _ chain₁ es₁).bind ?_ (by rintro e chain' es' - state ⟨⟩)
    rintro token chain₂ es₂ ⟨hlayers₂, -⟩
    split
    · rintro state ⟨⟩
    refine (KeepsLayers.sessionSetupRounds _ _ _ context _ _ _ chain₂ es₂).bind ?_
      (by rintro e chain' es' - state ⟨⟩)
    rintro r chain₃ es₃ ⟨hlayers₃, -⟩
    cases r with
    | error e =>
      rintro state ⟨⟩
    | ok setup =>
      have hraw : chain₃.layers = .raw := hlayers₃.trans (hlayers₂.trans hlayers₁)
      refine (secureSession_meets hraw).bind ?_ (by rintro e chain' es' - state ⟨⟩)
      rintro r chain₄ es₄ hsecured
      cases r with
      | error e =>
        rintro state ⟨⟩
      | ok secured =>
        obtain ⟨sessionKey, encrypted⟩ := secured
        refine (connectTree_meets (hsecured sessionKey encrypted rfl)).bind ?_
          (by rintro e chain' es' - state ⟨⟩)
        rintro r chain₅ es₅ hstacked
        cases r with
        | error e =>
          rintro state ⟨⟩
        | ok result =>
          rintro state ⟨⟩
          exact hstacked result rfl

end

end

end SmbBrowser.Native
