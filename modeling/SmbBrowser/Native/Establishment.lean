import SmbBrowser.Native.EncryptedRequests
import SmbBrowser.Native.ErrorCodes
import SmbBrowser.Native.Handshake

/-!
# Establishing a connection

The second stage of `connect`, exactly: which transports it stacks, and what
they do with the requests handed to them.

Results:
* `Stack.exchange`: one request of a stack is one exchange of the raw transport
  at most, encrypted and signed as the stack says;
* `establish_meets`: what every run of the second stage leaves, and what a
  successful one sent.
-/

namespace SmbBrowser.Native

open SmbBrowser.Base

/-! ## The stack of a connection -/

/-- The transports below an encrypting one: signing with this key, or none. -/
def signingStack (dialect : Dialect) : Option ByteVector → TransportChain
  | none => .raw
  | some key => .signing .raw key dialect true

/-- The chain of a connection that signs with `key`, or does not, and encrypts or
    does not. -/
def Stack (dialect : Dialect) (sessionId : UInt64) (key : Option ByteVector) (encrypted : Bool)
    (chain : TransportChain) : Prop :=
  if encrypted then
    ∃ encryptionKey decryptionKey, chain.layers =
      .encryption (signingStack dialect key) encryptionKey decryptionKey sessionId dialect 0
  else chain.layers = signingStack dialect key

/-- A frame the raw transport is handed carries the request encrypted: in a
    TRANSFORM frame, which may be signed after that. -/
def Wraps (dialect : Dialect) (sessionId : UInt64) (frame raw : ByteVector) : Prop :=
  ∃ encryptionKey nonce encrypted,
    encryptSmb3DirectTcpFrame frame encryptionKey sessionId nonce dialect = .ok (.ok encrypted) ∧
    (raw = encrypted ∨
      ∃ key, signSmb2DirectTcpFrame encrypted key dialect = .ok (.ok raw))

section

variable {dialect : Dialect} {sessionId : UInt64} {key : Option ByteVector} {encrypted : Bool}
  {chain chain' : TransportChain} {message frame : ByteVector} {context : OperationContext}
  {es es' : List (Event Link)} {r : Except Exn (DecodeResult ByteVector)}

theorem signingStack_of_layers (h : chain.layers = signingStack dialect key) :
    chain = signingStack dialect key := by
  cases key with
  | none =>
    cases chain with
    | raw => rfl
    | signing => cases h
    | encryption => cases h
  | some key =>
    cases chain with
    | raw => cases h
    | encryption => cases h
    | signing inner =>
      cases inner with
      | raw => exact h
      | signing => cases h
      | encryption => cases h

theorem Stack.of_layers (h : Stack dialect sessionId key encrypted chain)
    (hlayers : chain'.layers = chain.layers) : Stack dialect sessionId key encrypted chain' := by
  rw [Stack] at h ⊢
  rwa [hlayers]

theorem malformed_not_denied : Malformed (· ≠ .permissionDenied) :=
  ⟨by decide, by decide, by decide⟩

/-- The errors of a signature say nothing about permissions. -/
theorem failsWith_smb2Signature (payload signingKey : ByteVector) (dialect : Dialect) :
    FailsWith (· ≠ .permissionDenied) (smb2Signature payload signingKey dialect) := by
  rw [smb2Signature]
  refine .ite (fun _ => failsWith_ok _) fun _ => ?_
  have hmac : FailsWith (· ≠ .permissionDenied) (aes128Cmac signingKey payload) :=
    .ite (fun _ => (failsWith_failure ..).2 (by decide)) fun _ => failsWith_ok _
  cases h : aes128Cmac signingKey payload with
  | error e => exact (failsWith_failureFrom ..).2 (hmac e h)
  | ok digest => exact failsWith_ok _

theorem failsWith_verify (response signingKey : ByteVector) (dialect : Dialect) :
    FailsWith (· ≠ .permissionDenied)
      (verifySmb2DirectTcpFrameSignature response signingKey dialect) := by
  rw [verifySmb2DirectTcpFrameSignature]
  refine .ite (fun _ => (failsWith_failure ..).2 (by decide)) fun _ => ?_
  cases hpayload : decodeDirectTcpPayload response with
  | error e =>
    exact (failsWith_failureFrom ..).2
      (failsWith_decodeDirectTcpPayload malformed_not_denied response e hpayload)
  | ok payload =>
    refine .ite (fun _ => (failsWith_failure ..).2 (by decide)) fun _ => ?_
    refine .ite (fun _ => failsWith_ok _) fun _ => ?_
    dsimp only
    cases h : smb2Signature (zeroSmb2Signature payload) signingKey dialect with
    | error e => exact (failsWith_failureFrom ..).2 (failsWith_smb2Signature _ _ _ e h)
    | ok digest => exact failsWith_ok _

/-- Nor do those of signing a request. -/
theorem code_of_signSmb2DirectTcpFrame {signingKey : ByteVector} {e : ProtocolError}
    (h : signSmb2DirectTcpFrame frame signingKey dialect = .ok (.error e)) :
    e.code ≠ .permissionDenied := by
  have hfails {x : DecodeResult ByteVector} (hx : FailsWith (· ≠ .permissionDenied) x)
      (hxe : (.ok x : Except Exn (DecodeResult ByteVector)) = .ok (.error e)) :
      e.code ≠ .permissionDenied := hx e (Except.ok.inj hxe)
  rw [signSmb2DirectTcpFrame] at h
  by_cases hdialect : supportsSigning dialect = true
  · rw [if_neg (by simpa using hdialect)] at h
    cases hpayload : decodeDirectTcpPayload frame with
    | error e' =>
      rw [hpayload] at h
      exact hfails ((failsWith_failureFrom ..).2
        (failsWith_decodeDirectTcpPayload malformed_not_denied frame e' hpayload)) h
    | ok payload =>
      rw [hpayload] at h
      dsimp only at h
      by_cases hshort : payload.length < kSmb2HeaderSize
      · rw [if_pos hshort] at h
        exact hfails ((failsWith_failure ..).2 (by decide)) h
      · rw [if_neg hshort] at h
        cases hdigest : smb2Signature (zeroSmb2Signature (setSignedFlag payload)) signingKey
            dialect with
        | error e' =>
          rw [hdigest] at h
          exact hfails ((failsWith_failureFrom ..).2 (failsWith_smb2Signature _ _ _ e' hdigest)) h
        | ok digest =>
          rw [hdigest] at h
          dsimp only at h
          cases hencode : encodeDirectTcpFrame (splice (zeroSmb2Signature (setSignedFlag payload))
              kSmb2SignatureOffset digest) with
          | error exn =>
            rw [hencode] at h
            cases h
          | ok signed =>
            rw [hencode] at h
            cases h
  · rw [if_pos (by simpa using hdialect)] at h
    exact hfails ((failsWith_failure ..).2 (by decide)) h

/-- The connector goes on with this result: a success, or the denial that makes
    it try again over an encrypted connection. -/
def GoesOn {α : Type} (r : Except Exn (DecodeResult α)) : Prop :=
  match r with
  | .ok (.ok _) => True
  | .ok (.error e) => e.code = .permissionDenied
  | .error _ => False

/-- A reply a signing transport goes on with was verified. -/
theorem verified_of_checkSignedReply {signed signingKey rawReply : ByteVector}
    (h : GoesOn (.ok (checkSignedReply true signed signingKey dialect (.ok rawReply)))) :
    verifySmb2DirectTcpFrameSignature rawReply signingKey dialect = .ok true := by
  rw [checkSignedReply, if_neg (by decide)] at h
  cases hverify : verifySmb2DirectTcpFrameSignature rawReply signingKey dialect with
  | error e =>
    rw [hverify] at h
    exact absurd h (failsWith_verify rawReply signingKey dialect e hverify)
  | ok verified =>
    rw [hverify] at h
    cases verified with
    | true => rfl
    | false => cases h

/-- One exchange with the raw transport: the frame it was handed is signed when
    the connection signs, and so is the reply the connection goes on with. -/
def SignedExchange (dialect : Dialect) (key : Option ByteVector) (goesOn : Prop) :
    Event Link → Prop
  | ⟨.exchange raw _, (answer : DecodeResult ByteVector)⟩ => ∀ k, key = some k →
    verifySmb2DirectTcpFrameSignature raw k dialect = .ok true ∧
    ∀ rawReply, goesOn → answer = .ok rawReply →
      verifySmb2DirectTcpFrameSignature rawReply k dialect = .ok true
  | _ => True

/-- The signing part of a stack: at most one exchange, of the frame itself or of
    the signed one. -/
theorem exchange_signingStack (hframe : encodeDirectTcpFrame message = .ok frame)
    (hrun : Program.Runs ((signingStack dialect key).exchange frame context) es (r, chain')) :
    (es = [] ∧ ¬ GoesOn r) ∨
    ∃ raw answer, es = [⟨.exchange raw context, answer⟩] ∧
      (raw = frame ∨ ∃ k, signSmb2DirectTcpFrame frame k dialect = .ok (.ok raw)) ∧
      SignedExchange dialect key (GoesOn r) ⟨.exchange raw context, answer⟩ := by
  cases key with
  | none =>
    obtain ⟨answer, rest, rfl, hrest⟩ := Program.runs_ask.1 hrun
    obtain ⟨rfl, -⟩ := Program.runs_pure.1 hrest
    exact .inr ⟨frame, answer, rfl, .inl rfl, by rintro _ ⟨⟩⟩
  | some k =>
    rw [signingStack, TransportChain.exchange] at hrun
    cases hsigned : signSmb2DirectTcpFrame frame k dialect with
    | error e =>
      rw [hsigned] at hrun
      obtain ⟨rfl, hr⟩ := Program.runs_pure.1 hrun
      injection hr with hr
      exact .inl ⟨rfl, by rw [hr]; exact id⟩
    | ok signed =>
      cases signed with
      | error e =>
        rw [hsigned] at hrun
        obtain ⟨rfl, hr⟩ := Program.runs_pure.1 hrun
        injection hr with hr
        exact .inl ⟨rfl, by rw [hr]; exact code_of_signSmb2DirectTcpFrame hsigned⟩
      | ok raw =>
        rw [hsigned] at hrun
        obtain ⟨answer, rest, rfl, hrest⟩ := Program.runs_ask.1 hrun
        obtain ⟨rfl, hr⟩ := Program.runs_pure.1 hrest
        injection hr with hr
        refine .inr ⟨raw, answer, rfl, .inr ⟨k, hsigned⟩, ?_⟩
        rintro _ ⟨⟩
        refine ⟨verify_signSmb2DirectTcpFrame hframe hsigned, ?_⟩
        rintro rawReply hgoes rfl
        rw [hr] at hgoes
        exact verified_of_checkSignedReply hgoes

theorem SignedExchange.mono {goesOn goesOn' : Prop} {e : Event Link}
    (h : SignedExchange dialect key goesOn e) (hgoes : goesOn' → goesOn) :
    SignedExchange dialect key goesOn' e := by
  obtain ⟨op, answer⟩ := e
  cases op with
  | exchange raw context =>
    rintro k hk
    obtain ⟨hraw, hreply⟩ := h k hk
    exact ⟨hraw, fun rawReply hgoes' => hreply rawReply (hgoes hgoes')⟩
  | isCancelled => trivial
  | initialToken negotiated => trivial
  | nextToken challenge => trivial
  | sessionBaseKey => trivial

/-- **One request of a stack** is one exchange of the raw transport at most: what
    it is handed carries the request encrypted when the connection encrypts, and
    is signed when it signs. -/
theorem Stack.exchange (hstack : Stack dialect sessionId key encrypted chain)
    (hframe : encodeDirectTcpFrame message = .ok frame)
    (hrun : Program.Runs (chain.exchange frame context) es (r, chain')) :
    (es = [] ∧ ∀ reply, r ≠ .ok (.ok reply)) ∨
    ∃ raw answer, es = [⟨.exchange raw context, answer⟩] ∧
      (encrypted = true → Wraps dialect sessionId frame raw) ∧
      SignedExchange dialect key (GoesOn r) ⟨.exchange raw context, answer⟩ := by
  cases encrypted with
  | false =>
    have hchain : chain = signingStack dialect key := signingStack_of_layers hstack
    rw [hchain] at hrun
    obtain ⟨hes, hnone⟩ | ⟨raw, answer, hes, -, hsigned⟩ := exchange_signingStack hframe hrun
    · exact .inl ⟨hes, fun reply hr => hnone (by rw [hr]; trivial)⟩
    · exact .inr ⟨raw, answer, hes, (by rintro ⟨⟩), hsigned⟩
  | true =>
    obtain ⟨encryptionKey, decryptionKey, hlayers⟩ := hstack
    cases chain with
    | raw => cases hlayers
    | signing => cases hlayers
    | encryption inner encryptionKey' decryptionKey' sessionId' dialect' counter =>
      injection hlayers with hinner hkey _ hsession hdialect
      subst hkey hsession hdialect
      rw [signingStack_of_layers hinner, TransportChain.exchange] at hrun
      cases hencrypted : encryptSmb3DirectTcpFrame frame encryptionKey' sessionId'
          (nextNonce counter) dialect' with
      | error e =>
        rw [hencrypted] at hrun
        obtain ⟨rfl, hr⟩ := Program.runs_pure.1 hrun
        injection hr with hr
        exact .inl ⟨rfl, by rw [hr]; rintro _ ⟨⟩⟩
      | ok sealed =>
        cases sealed with
        | error e =>
          rw [hencrypted] at hrun
          obtain ⟨rfl, hr⟩ := Program.runs_pure.1 hrun
          injection hr with hr
          exact .inl ⟨rfl, by rw [hr]; rintro _ ⟨⟩⟩
        | ok sealed =>
          rw [hencrypted] at hrun
          obtain ⟨es₁, ⟨r₁, chain₁⟩, es₂, rfl, hinnerRun, hrest⟩ := Program.runs_bind.1 hrun
          obtain ⟨rfl, hr⟩ := Program.runs_pure.1 hrest
          injection hr with hr
          obtain ⟨payload, hencode, -⟩ := transforms_of_encrypt hframe hencrypted
          rw [List.append_nil]
          obtain ⟨rfl, hnone⟩ | ⟨raw, answer, rfl, hraw, hsigned⟩ :=
            exchange_signingStack hencode hinnerRun
          · refine .inl ⟨rfl, ?_⟩
            rintro reply rfl
            cases r₁ with
            | error e => cases hr
            | ok response =>
              cases response with
              | error e => cases hr
              | ok rawReply => exact hnone trivial
          · refine .inr ⟨raw, answer, rfl, fun _ => ?_, hsigned.mono ?_⟩
            · refine ⟨encryptionKey', nextNonce counter, sealed, hencrypted, ?_⟩
              obtain rfl | ⟨k, hk⟩ := hraw
              · exact .inl rfl
              · exact .inr ⟨k, hk⟩
            · intro hgoes
              rw [hr] at hgoes
              cases r₁ with
              | error e => exact hgoes
              | ok response =>
                cases response with
                | error e => exact hgoes
                | ok rawReply => trivial

/-- One exchange with the raw transport carries a framed message encrypted. -/
def WrappedExchange (dialect : Dialect) (sessionId : UInt64) : Event Link → Prop
  | ⟨.exchange raw _, _⟩ => ∃ message frame, encodeDirectTcpFrame message = .ok frame ∧
    Wraps dialect sessionId frame raw
  | _ => True

/-- What the exchanges of a stack are. -/
def StackEvent (dialect : Dialect) (sessionId : UInt64) (key : Option ByteVector)
    (encrypted : Bool) (goesOn : Prop) (e : Event Link) : Prop :=
  SignedExchange dialect key goesOn e ∧ (encrypted = true → WrappedExchange dialect sessionId e)

theorem StackEvent.mono {goesOn goesOn' : Prop} {e : Event Link}
    (h : StackEvent dialect sessionId key encrypted goesOn e) (hgoes : goesOn' → goesOn) :
    StackEvent dialect sessionId key encrypted goesOn' e :=
  ⟨h.1.mono hgoes, h.2⟩

/-- The events of a run come after the earlier ones and are of this kind. -/
def Adds (P : Event Link → Prop) (es es' : List (Event Link)) : Prop :=
  ∃ added, es' = es ++ added ∧ ∀ e ∈ added, P e

theorem Adds.refl (P : Event Link → Prop) (es : List (Event Link)) : Adds P es es :=
  ⟨[], (List.append_nil es).symm, by rintro _ ⟨⟩⟩

theorem Adds.trans {P : Event Link → Prop} {es es' es'' : List (Event Link)} (h : Adds P es es')
    (h' : Adds P es' es'') : Adds P es es'' := by
  obtain ⟨added, rfl, hadded⟩ := h
  obtain ⟨added', rfl, hadded'⟩ := h'
  refine ⟨added ++ added', List.append_assoc .., ?_⟩
  intro e he
  obtain he | he := List.mem_append.1 he
  · exact hadded e he
  · exact hadded' e he

theorem Adds.mono {P P' : Event Link → Prop} {es es' : List (Event Link)} (h : Adds P es es')
    (hP : ∀ e, P e → P' e) : Adds P' es es' := by
  obtain ⟨added, hes, hadded⟩ := h
  exact ⟨added, hes, fun e he => hP e (hadded e he)⟩

theorem Adds.subset {P : Event Link → Prop} (h : Adds P es es') : es ⊆ es' := by
  obtain ⟨added, rfl, -⟩ := h
  exact List.subset_append_left _ _

theorem Adds.one {P : Event Link → Prop} (es : List (Event Link)) {e : Event Link} (h : P e) :
    Adds P es (es ++ [e]) :=
  ⟨[e], rfl, fun e' he' => by rwa [List.mem_singleton.1 he']⟩

/-- A question that is no exchange. -/
def Quiet (e : Event Link) : Prop := ∀ raw context, e.op ≠ .exchange raw context

/-- Such a question is of every kind. -/
theorem Quiet.stackEvent {e : Event Link} (h : Quiet e) (dialect : Dialect) (sessionId : UInt64)
    (key : Option ByteVector) (encrypted : Bool) (goesOn : Prop) :
    StackEvent dialect sessionId key encrypted goesOn e := by
  obtain ⟨op, answer⟩ := e
  cases op with
  | exchange raw context => exact absurd rfl (h raw context)
  | isCancelled => exact ⟨trivial, fun _ => trivial⟩
  | initialToken negotiated => exact ⟨trivial, fun _ => trivial⟩
  | nextToken challenge => exact ⟨trivial, fun _ => trivial⟩
  | sessionBaseKey => exact ⟨trivial, fun _ => trivial⟩

theorem Adds.stackEvents (h : Adds Quiet es es') (dialect : Dialect) (sessionId : UInt64)
    (key : Option ByteVector) (encrypted : Bool) (goesOn : Prop) :
    Adds (StackEvent dialect sessionId key encrypted goesOn) es es' :=
  h.mono fun _ hquiet => hquiet.stackEvent ..

theorem cancelled_quiet : LinkMeets (LinkM.cancelled context) (fun _ chain' es' =>
    chain' = chain ∧ Adds Quiet es es') chain es := by
  rw [LinkM.cancelled]
  by_cases hc : context.cancellable = true
  · rw [if_pos hc]
    refine ⟨trivial, ?_⟩
    rintro ans m rfl
    exact ⟨rfl, .one es (by rintro _ _ ⟨⟩)⟩
  · rw [if_neg hc]
    exact ⟨rfl, .refl _ es⟩

theorem exchange_stack (hstack : Stack dialect sessionId key encrypted chain)
    (hframe : encodeDirectTcpFrame message = .ok frame) :
    LinkMeets (LinkM.exchange frame context) (fun r chain' es' =>
      Stack dialect sessionId key encrypted chain' ∧
      Adds (StackEvent dialect sessionId key encrypted (GoesOn r)) es es') chain es := by
  have hruns : ∀ es' (r : Except Exn (DecodeResult ByteVector) × TransportChain),
      Program.Runs (chain.exchange frame context) es' r →
        Stack dialect sessionId key encrypted r.2 ∧
          ∀ e ∈ es', StackEvent dialect sessionId key encrypted (GoesOn r.1) e := by
    rintro es' ⟨r, chain'⟩ hrun
    refine ⟨hstack.of_layers (TransportChain.layers_exchange hrun), ?_⟩
    obtain ⟨rfl, -⟩ | ⟨raw, answer, rfl, hwraps, hsigned⟩ := hstack.exchange hframe hrun
    · rintro _ ⟨⟩
    · intro e he
      rw [List.mem_singleton.1 he]
      exact ⟨hsigned, fun hencrypted => ⟨message, frame, hframe, hwraps hencrypted⟩⟩
  refine (meets_history_of_runs hruns es).mono ?_
  rintro ⟨r, chain'⟩ es' ⟨added, hes, hstack', hadded⟩
  exact ⟨hstack', added, hes, hadded⟩

/-- An exchange of the connector over a stack. -/
theorem linkExchange_stack {α : Type} (cancelled : String) (request : Except Exn ByteVector)
    (decode : ByteVector → ByteVector → DecodeResult α)
    (hstack : Stack dialect sessionId key encrypted chain) :
    LinkMeets (linkExchange cancelled request decode context) (fun r chain' es' =>
      Stack dialect sessionId key encrypted chain' ∧
      Adds (StackEvent dialect sessionId key encrypted (GoesOn r)) es es') chain es := by
  rw [linkExchange]
  refine cancelled_quiet.bind ?_ ?_
  swap
  · rintro e _ es' ⟨rfl, hes⟩
    exact ⟨hstack, hes.stackEvents ..⟩
  rintro cancelledBefore _ es₁ ⟨rfl, hes₁⟩
  split
  · exact ⟨hstack, hes₁.stackEvents ..⟩
  refine meets_ofExcept (fun requestPayload _ => ?_) fun e => ⟨hstack, hes₁.stackEvents ..⟩
  refine meets_ofExcept (fun requestFrame hframe => ?_) fun e => ⟨hstack, hes₁.stackEvents ..⟩
  refine (exchange_stack hstack hframe).bind ?_ ?_
  swap
  · rintro e chain₂ es₂ ⟨hstack₂, hes₂⟩
    exact ⟨hstack₂, (hes₁.stackEvents ..).trans hes₂⟩
  rintro response chain₂ es₂ ⟨hstack₂, hes₂⟩
  cases response with
  | error e => exact ⟨hstack₂, (hes₁.stackEvents ..).trans hes₂⟩
  | ok responseFrame =>
    -- a reply that was handed on was verified, whatever becomes of it
    have hany : ∀ goesOn, Adds (StackEvent dialect sessionId key encrypted goesOn) es es₂ :=
      fun goesOn => (hes₁.stackEvents ..).trans (hes₂.mono fun e h => h.mono fun _ => trivial)
    refine cancelled_quiet.bind ?_ ?_
    swap
    · rintro e _ es₃ ⟨rfl, hes₃⟩
      exact ⟨hstack₂, (hany _).trans (hes₃.stackEvents ..)⟩
    rintro cancelledAfter _ es₃ ⟨rfl, hes₃⟩
    split
    · exact ⟨hstack₂, (hany _).trans (hes₃.stackEvents ..)⟩
    split
    · exact ⟨hstack₂, (hany _).trans (hes₃.stackEvents ..)⟩
    · exact ⟨hstack₂, (hany _).trans (hes₃.stackEvents ..)⟩

end

/-! ## The second stage -/

/-- What a run of the second stage has stacked for a session: signing with a key
    derived from a session key of the token provider exactly when the session is
    to be signed, encryption only when the session can encrypt. -/
structure Established (config : ConnectionConfig) (negotiated : NegotiatedConnection)
    (setup : SetupState) (key : Option ByteVector) (encrypted : Bool) (chain : TransportChain)
    (es : List (Event Link)) : Prop where
  signs : key.isSome = shouldSignConnection config negotiated setup.session
  derived : ∀ k, key = some k → ∃ sessionKey, sessionKeyEvent sessionKey ∈ es ∧
    deriveSigningKey negotiated sessionKey setup.preauthIntegrityHash = .ok k
  allowed : encrypted = true → sessionCanEncrypt negotiated setup.session = true
  stack : Stack negotiated.dialect setup.sessionId key encrypted chain

section

variable {config : ConnectionConfig} {negotiated : NegotiatedConnection} {setup : SetupState}
  {key : Option ByteVector} {encrypted : Bool} {chain chain' : TransportChain}
  {context : OperationContext} {es es' : List (Event Link)} {sessionKey : ByteVector}

theorem Established.mono (h : Established config negotiated setup key encrypted chain es)
    (hstack : Stack negotiated.dialect setup.sessionId key encrypted chain') (hes : es ⊆ es') :
    Established config negotiated setup key encrypted chain' es' := by
  refine ⟨h.signs, ?_, h.allowed, hstack⟩
  intro k hk
  obtain ⟨sessionKey, hmem, hderived⟩ := h.derived k hk
  exact ⟨sessionKey, hes hmem, hderived⟩

/-- Signing over the raw transport: it is stacked when the session is to be
    signed, or the connect fails. -/
theorem signConnection_stack (hkey : shouldSignConnection config negotiated setup.session = true →
      sessionKeyEvent sessionKey ∈ es) :
    LinkMeets (signConnection config negotiated setup sessionKey) (fun r chain' es' => es' = es ∧
      (chain' = .raw ∧ r ≠ .ok (.ok ()) ∨
        ∃ key, Established config negotiated setup key false chain' es)) .raw es := by
  rw [signConnection]
  split
  · rename_i hsign
    refine ⟨rfl, .inr ⟨none, ?_, (by rintro _ ⟨⟩), (by rintro ⟨⟩), rfl⟩⟩
    rw [Bool.eq_false_of_not_eq_true hsign]
    rfl
  rename_i hsign
  have hsign := of_not_not hsign
  split
  · exact ⟨rfl, .inl ⟨rfl, by rintro ⟨⟩⟩⟩
  split
  · exact ⟨rfl, .inl ⟨rfl, by rintro ⟨⟩⟩⟩
  · rename_i signingKey hderive
    refine meets_ofExcept (fun frame _ => ?_) fun e => ⟨rfl, .inl ⟨rfl, by rintro ⟨⟩⟩⟩
    split
    · exact ⟨rfl, .inl ⟨rfl, by rintro ⟨⟩⟩⟩
    · refine ⟨rfl, .inr ⟨some signingKey, hsign.symm, ?_, (by rintro ⟨⟩), rfl⟩⟩
      rintro _ ⟨⟩
      exact ⟨sessionKey, hkey hsign, hderive⟩

/-- Encryption over a stack that does not encrypt yet, or nothing changes. -/
theorem enableEncryption_stack (h : Established config negotiated setup key false chain es) :
    LinkMeets (enableEncryption negotiated setup sessionKey) (fun r chain' es' =>
      Adds Quiet es es' ∧
      (Established config negotiated setup key false chain' es' ∧ r ≠ .ok (.ok ()) ∨
        Established config negotiated setup key true chain' es')) chain es := by
  rw [enableEncryption]
  split
  · exact ⟨.refl _ es, .inl ⟨h, by rintro ⟨⟩⟩⟩
  rename_i hcan
  have hcan := of_not_not hcan
  have hrequire : LinkMeets (requireSessionKey sessionKey) (fun _ chain' es' => chain' = chain ∧
      Adds Quiet es es') chain es := by
    rw [requireSessionKey]
    split
    · refine meets_linkAsk fun ans => ?_
      cases ans with
      | error e => exact ⟨rfl, .one es (by rintro _ _ ⟨⟩)⟩
      | ok key' => exact ⟨rfl, .one es (by rintro _ _ ⟨⟩)⟩
    · exact ⟨rfl, .refl _ es⟩
  refine hrequire.bind ?_ ?_
  swap
  · rintro e _ es' ⟨rfl, hes⟩
    exact ⟨hes, .inl ⟨h.mono h.stack hes.subset, by rintro ⟨⟩⟩⟩
  rintro r chain₁ es₁ ⟨rfl, hes₁⟩
  have h₁ := h.mono h.stack hes₁.subset
  cases r with
  | error e => exact ⟨hes₁, .inl ⟨h₁, by rintro ⟨⟩⟩⟩
  | ok sessionKey' =>
    dsimp only
    split
    · exact ⟨hes₁, .inl ⟨h₁, by rintro ⟨⟩⟩⟩
    split
    · exact ⟨hes₁, .inl ⟨h₁, by rintro ⟨⟩⟩⟩
    · rename_i encryptionKey _ _ decryptionKey _
      refine ⟨hes₁, .inr ⟨h₁.signs, h₁.derived, fun _ => hcan, encryptionKey, decryptionKey, ?_⟩⟩
      have hlayers : chain₁.layers = signingStack negotiated.dialect key := h.stack
      show TransportChain.encryption chain₁.layers _ _ _ _ 0 = _
      rw [hlayers]

/-- The session key a connection that signs has asked for. -/
theorem earlySessionKey_known :
    LinkMeets (earlySessionKey config negotiated setup.session) (fun r chain' es' =>
      chain' = .raw ∧ Adds Quiet es es' ∧ ∀ sessionKey, r = .ok (.ok sessionKey) →
        shouldSignConnection config negotiated setup.session = true →
          sessionKeyEvent sessionKey ∈ es') .raw es := by
  rw [earlySessionKey]
  split
  · refine meets_linkAsk fun ans => ?_
    cases ans with
    | error e => exact ⟨rfl, .one es (by rintro _ _ ⟨⟩), by rintro _ ⟨⟩⟩
    | ok sessionKey =>
      refine ⟨rfl, .one es (by rintro _ _ ⟨⟩), ?_⟩
      rintro _ ⟨⟩ -
      exact List.mem_append_right _ (List.mem_singleton.2 rfl)
  · rename_i hneither
    refine ⟨rfl, .refl _ es, ?_⟩
    intro sessionKey _ hsign
    rw [hsign] at hneither
    exact absurd rfl hneither

/-- The transports set up before TREE_CONNECT. -/
theorem secureSession_stack :
    LinkMeets (secureSession config negotiated setup) (fun r chain' es' => Adds Quiet es es' ∧
      (chain' = .raw ∨ ∃ key encrypted,
        Established config negotiated setup key encrypted chain' es') ∧
      ∀ sessionKey encrypted, r = .ok (.ok (sessionKey, encrypted)) →
        encrypted = mustEncryptSession config setup.session ∧
        ∃ key, Established config negotiated setup key encrypted chain' es') .raw es := by
  rw [secureSession]
  split
  · exact ⟨.refl _ es, .inl rfl, by rintro _ _ ⟨⟩⟩
  split
  · exact ⟨.refl _ es, .inl rfl, by rintro _ _ ⟨⟩⟩
  refine earlySessionKey_known.bind ?_
    (by rintro e _ es' ⟨rfl, hes, -⟩; exact ⟨hes, .inl rfl, by rintro _ _ ⟨⟩⟩)
  rintro r _ es₁ ⟨rfl, hes₁, hkey⟩
  cases r with
  | error e => exact ⟨hes₁, .inl rfl, by rintro _ _ ⟨⟩⟩
  | ok sessionKey =>
    refine (signConnection_stack (hkey sessionKey rfl)).bind ?_ ?_
    swap
    · rintro e chain' es' ⟨rfl, ⟨rfl, -⟩ | ⟨key, h⟩⟩
      · exact ⟨hes₁, .inl rfl, by rintro _ _ ⟨⟩⟩
      · exact ⟨hes₁, .inr ⟨key, false, h⟩, by rintro _ _ ⟨⟩⟩
    rintro r chain₂ es₂ ⟨rfl, hsigned⟩
    cases r with
    | error e =>
      obtain ⟨rfl, -⟩ | ⟨key, h⟩ := hsigned
      · exact ⟨hes₁, .inl rfl, by rintro _ _ ⟨⟩⟩
      · exact ⟨hes₁, .inr ⟨key, false, h⟩, by rintro _ _ ⟨⟩⟩
    | ok u =>
      obtain ⟨-, hne⟩ | ⟨key, h⟩ := hsigned
      · exact absurd rfl hne
      dsimp only
      split
      · rename_i hmust
        refine (enableEncryption_stack h).bind ?_ ?_
        swap
        · rintro e chain' es' ⟨hes, ⟨h', -⟩ | h'⟩
          · exact ⟨hes₁.trans hes, .inr ⟨key, false, h'⟩, by rintro _ _ ⟨⟩⟩
          · exact ⟨hes₁.trans hes, .inr ⟨key, true, h'⟩, by rintro _ _ ⟨⟩⟩
        rintro r chain₃ es₃ ⟨hes₃, hencrypted⟩
        cases r with
        | error e =>
          obtain ⟨h', -⟩ | h' := hencrypted
          · exact ⟨hes₁.trans hes₃, .inr ⟨key, false, h'⟩, by rintro _ _ ⟨⟩⟩
          · exact ⟨hes₁.trans hes₃, .inr ⟨key, true, h'⟩, by rintro _ _ ⟨⟩⟩
        | ok u =>
          obtain ⟨-, hne⟩ | h' := hencrypted
          · exact absurd rfl hne
          refine ⟨hes₁.trans hes₃, .inr ⟨key, true, h'⟩, ?_⟩
          rintro _ _ ⟨⟩
          exact ⟨hmust.symm, key, h'⟩
      · rename_i hmust
        refine ⟨hes₁, .inr ⟨key, false, h⟩, ?_⟩
        rintro _ _ ⟨⟩
        exact ⟨(Bool.eq_false_of_not_eq_true hmust).symm, key, h⟩

/-- Encryption after TREE_CONNECT: a share that asks for it gets it. -/
theorem encryptForShare_stack {tree : TreeConnectResult} {messageId : ℕ}
    (h : Established config negotiated setup key encrypted chain es) :
    LinkMeets (encryptForShare config negotiated setup sessionKey encrypted tree messageId)
      (fun r chain' es' => Adds Quiet es es' ∧ ∃ encrypted',
        Established config negotiated setup key encrypted' chain' es' ∧
        ∀ result, r = .ok (.ok result) → result = (tree, messageId) ∧
          (mustEncryptSession config setup.session = true ∨ tree.requiresEncryption = true →
            encrypted' = true)) chain es := by
  rw [encryptForShare]
  cases encrypted with
  | true =>
    rw [if_neg (by simp)]
    refine ⟨.refl _ es, true, h, ?_⟩
    rintro _ ⟨⟩
    exact ⟨rfl, fun _ => rfl⟩
  | false =>
    split
    · refine (enableEncryption_stack h).bind ?_ ?_
      swap
      · rintro e chain' es' ⟨hes, ⟨h', -⟩ | h'⟩
        · exact ⟨hes, false, h', by rintro _ ⟨⟩⟩
        · exact ⟨hes, true, h', by rintro _ ⟨⟩⟩
      rintro r chain' es' ⟨hes, hencrypted⟩
      cases r with
      | error e =>
        obtain ⟨h', -⟩ | h' := hencrypted
        · exact ⟨hes, false, h', by rintro _ ⟨⟩⟩
        · exact ⟨hes, true, h', by rintro _ ⟨⟩⟩
      | ok u =>
        obtain ⟨-, hne⟩ | h' := hencrypted
        · exact absurd rfl hne
        refine ⟨hes, true, h', ?_⟩
        rintro _ ⟨⟩
        exact ⟨rfl, fun _ => rfl⟩
    · rename_i hneither
      refine ⟨.refl _ es, false, h, ?_⟩
      rintro _ ⟨⟩
      refine ⟨rfl, ?_⟩
      intro hasked
      have hasked : (mustEncryptSession config setup.session || tree.requiresEncryption) = true := by
        rwa [Bool.or_eq_true]
      rw [hasked] at hneither
      exact absurd rfl hneither

/-- TREE_CONNECT over the stack of a session. -/
theorem connectTree_stack (h : Established config negotiated setup key encrypted chain es) :
    LinkMeets (connectTree config negotiated setup sessionKey encrypted context)
      (fun r chain' es' =>
        Adds (StackEvent negotiated.dialect setup.sessionId key encrypted (GoesOn r)) es es' ∧
        ∃ encrypted', Established config negotiated setup key encrypted' chain' es' ∧
          ∀ result, r = .ok (.ok result) →
            mustEncryptSession config setup.session = true ∨
              result.1.requiresEncryption = true → encrypted' = true) chain es := by
  rw [connectTree]
  refine (linkExchange_stack _ _ _ h.stack).bind ?_ ?_
  swap
  · rintro e chain' es' ⟨hstack, hes⟩
    exact ⟨hes, encrypted, h.mono hstack hes.subset, by rintro _ ⟨⟩⟩
  rintro r chain₁ es₁ ⟨hstack₁, hes₁⟩
  have h₁ := h.mono hstack₁ hes₁.subset
  cases r with
  | ok tree =>
    refine (encryptForShare_stack h₁).mono ?_
    rintro r chain₂ es₂ ⟨hes₂, encrypted', h₂, hresult⟩
    refine ⟨(hes₁.mono fun e he => he.mono fun _ => trivial).trans (hes₂.stackEvents ..),
      encrypted', h₂, ?_⟩
    intro result hr
    obtain ⟨htree, hasked⟩ := hresult result hr
    rwa [htree]
  | error e =>
    dsimp only
    split
    swap
    · exact ⟨hes₁, encrypted, h₁, by rintro _ ⟨⟩⟩
    rename_i hretry
    -- the first answer was the denial, over a connection that is not encrypted yet
    have hany : ∀ goesOn, Adds (StackEvent negotiated.dialect setup.sessionId key encrypted goesOn)
        es es₁ := fun goesOn => hes₁.mono fun e he => he.mono fun _ => hretry.1
    have hplain : encrypted = false := by simpa using hretry.2.2.2
    subst hplain
    refine (enableEncryption_stack h₁).bind ?_ ?_
    swap
    · rintro e chain' es' ⟨hes, ⟨h', -⟩ | h'⟩
      · exact ⟨(hany _).trans (hes.stackEvents ..), false, h', by rintro _ ⟨⟩⟩
      · exact ⟨(hany _).trans (hes.stackEvents ..), true, h', by rintro _ ⟨⟩⟩
    rintro r chain₂ es₂ ⟨hes₂, hencrypted⟩
    cases r with
    | error e =>
      obtain ⟨h', -⟩ | h' := hencrypted
      · exact ⟨(hany _).trans (hes₂.stackEvents ..), false, h', by rintro _ ⟨⟩⟩
      · exact ⟨(hany _).trans (hes₂.stackEvents ..), true, h', by rintro _ ⟨⟩⟩
    | ok u =>
      obtain ⟨-, hne⟩ | h₂ := hencrypted
      · exact absurd rfl hne
      have hfirst : ∀ goesOn, Adds (StackEvent negotiated.dialect setup.sessionId key false goesOn)
          es es₂ := fun goesOn => (hany goesOn).trans (hes₂.stackEvents ..)
      refine (linkExchange_stack _ _ _ h₂.stack).bind ?_ ?_
      swap
      · rintro e chain' es' ⟨hstack, hes⟩
        exact ⟨(hfirst _).trans (hes.mono fun e he => ⟨he.1, by rintro ⟨⟩⟩), true,
          h₂.mono hstack hes.subset, by rintro _ ⟨⟩⟩
      rintro r chain₃ es₃ ⟨hstack₃, hes₃⟩
      have h₃ := h₂.mono hstack₃ hes₃.subset
      cases r with
      | error e =>
        exact ⟨(hfirst _).trans (hes₃.mono fun e he => ⟨he.1, by rintro ⟨⟩⟩), true, h₃,
          by rintro _ ⟨⟩⟩
      | ok tree =>
        refine (encryptForShare_stack h₃).mono ?_
        rintro r chain₄ es₄ ⟨hes₄, encrypted', h₄, hresult⟩
        refine ⟨((hfirst _).trans
          (hes₃.mono fun e he => ⟨he.1.mono fun _ => trivial, by rintro ⟨⟩⟩)).trans
            (hes₄.stackEvents ..), encrypted', h₄, ?_⟩
        intro result hr
        obtain ⟨htree, hasked⟩ := hresult result hr
        rwa [htree]

/-- **The second stage**: what every run leaves is bare, or the stack of the
    session; a successful one encrypts when the policy, the session or the share
    asks for it, and its exchanges were signed and encrypted accordingly. -/
theorem establish_meets :
    LinkMeets (establish config context negotiated setup)
      (fun r chain' es' =>
        (chain'.layers = .raw ∨ ∃ key encrypted,
          Established config negotiated setup key encrypted chain' es') ∧
        ∀ state, r = .ok (.ok state) → state.negotiated = negotiated ∧
          state.session = setup.session ∧ state.connection.sessionId = setup.sessionId ∧
          ∃ key encrypted, Established config negotiated setup key encrypted chain' es' ∧
            (mustEncryptSession config setup.session = true ∨
              state.tree.requiresEncryption = true → encrypted = true) ∧
            Adds (StackEvent negotiated.dialect setup.sessionId key
              (mustEncryptSession config setup.session) True) es es') .raw es := by
  rw [establish]
  have hbare : TransportChain.raw.layers = .raw := rfl
  refine secureSession_stack.bind ?_ ?_
  swap
  · rintro e chain' es' ⟨-, hchain, -⟩
    exact ⟨hchain.imp_left fun hraw => by rw [hraw, hbare], by rintro _ ⟨⟩⟩
  rintro r chain₁ es₁ ⟨hes₁, hchain, hsecured⟩
  cases r with
  | error e => exact ⟨hchain.imp_left fun hraw => by rw [hraw, hbare], by rintro _ ⟨⟩⟩
  | ok secured =>
    obtain ⟨sessionKey, encrypted⟩ := secured
    obtain ⟨rfl, key, h₁⟩ := hsecured sessionKey encrypted rfl
    refine (connectTree_stack h₁).bind ?_ ?_
    swap
    · rintro e chain' es' ⟨-, encrypted', h', -⟩
      exact ⟨.inr ⟨key, encrypted', h'⟩, by rintro _ ⟨⟩⟩
    rintro r chain₂ es₂ ⟨hes₂, encrypted', h₂, hresult⟩
    cases r with
    | error e => exact ⟨.inr ⟨key, encrypted', h₂⟩, by rintro _ ⟨⟩⟩
    | ok result =>
      obtain ⟨tree, messageId⟩ := result
      refine ⟨.inr ⟨key, encrypted', h₂⟩, ?_⟩
      rintro state ⟨⟩
      refine ⟨rfl, rfl, rfl, key, encrypted', h₂, hresult _ rfl, ?_⟩
      exact (hes₁.stackEvents ..).trans (hes₂.mono fun e he => he.mono fun _ => trivial)

end

end SmbBrowser.Native
