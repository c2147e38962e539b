import Mathlib.Data.List.Nodup
import SmbBrowser.Native.EncryptedRequests
import SmbBrowser.Native.Handshake

/-!
# Nonces of a connected session

`Smb3EncryptionTransport` numbers the messages it encrypts and takes the nonce of
the cipher from the number (native_smb/Smb3Encryption.cpp:467-484).  The nonce is
read back from the frames handed to the raw transport.

Results:
* `ccmNonce_injective`: different numbers give different nonces of the cipher;
* `transformNonce_sign`: a signature leaves the nonce of a TRANSFORM frame alone;
* `connect_numbered`: a connected session that encrypts has numbered the messages
  it encrypted so far from one on;
* `nonces_nodup`: no nonce is used twice with the client's key.
-/

namespace SmbBrowser.Native

open SmbBrowser.Base

/-! ## Nonces and their numbers -/

/-- The part of a nonce that enters the cipher. -/
def ccmNonce (counter : UInt64) : ByteVector :=
  (nextNonce counter).toList.take kSmb3AesCcmNonceSize

theorem getD_ccmNonce (counter : UInt64) (i : ℕ) :
    (ccmNonce counter).getD i 0 = if i < 11 then (u64Le counter).getD i 0 else 0 := by
  rw [ccmNonce, getD_take_ite, kSmb3AesCcmNonceSize]
  by_cases hi : i < 11
  · rw [if_pos hi, if_pos hi, nextNonce, Vector.toList_ofFn, List.getD_eq_getElem?_getD,
      List.getElem?_ofFn, dif_pos (by omega)]
    rfl
  · rw [if_neg hi, if_neg hi]

/-- Different numbers give different nonces. -/
theorem ccmNonce_injective {a b : UInt64} (h : ccmNonce a = ccmNonce b) : a = b := by
  have hbytes : u64Le a = u64Le b := by
    refine ext_getD (by rw [length_u64Le, length_u64Le]) fun i => ?_
    by_cases hi : i < 11
    · have hbyte : (ccmNonce a).getD i 0 = (ccmNonce b).getD i 0 := by rw [h]
      rwa [getD_ccmNonce, getD_ccmNonce, if_pos hi, if_pos hi] at hbyte
    · rw [getD_of_le (by rw [length_u64Le]; omega), getD_of_le (by rw [length_u64Le]; omega)]
  rw [← ofNat_leValue_u64Le a, hbytes, ofNat_leValue_u64Le]

theorem ofNat_succ_add_one (count : ℕ) :
    UInt64.ofNat (count + 1) + 1 = UInt64.ofNat (count + 1 + 1) := by
  rw [UInt64.ofNat_add (count + 1) 1]
  rfl

/-- The nonces of the first `count` messages. -/
def firstNonces (count : ℕ) : List ByteVector :=
  (List.range count).map fun i => ccmNonce (UInt64.ofNat (i + 1))

theorem firstNonces_succ (count : ℕ) :
    firstNonces (count + 1) = firstNonces count ++ [ccmNonce (UInt64.ofNat (count + 1))] := by
  rw [firstNonces, List.range_succ, List.map_append, List.map_singleton]
  rfl

theorem firstNonces_add (count n : ℕ) :
    firstNonces (count + n) = firstNonces count ++
      (List.range n).map fun i => ccmNonce (UInt64.ofNat (count + i + 1)) := by
  rw [firstNonces, List.range_add, List.map_append, List.map_map]
  rfl

/-- No nonce repeats before the counter does. -/
theorem nodup_firstNonces {count : ℕ} (h : count < 2 ^ 64) : (firstNonces count).Nodup := by
  refine List.Nodup.map_on (fun i hi j hj hij => ?_) List.nodup_range
  rw [List.mem_range] at hi hj
  have hcounter := congrArg UInt64.toNat (ccmNonce_injective hij)
  rw [UInt64.toNat_ofNat_of_lt' (by rw [UInt64.size]; omega),
    UInt64.toNat_ofNat_of_lt' (by rw [UInt64.size]; omega)] at hcounter
  omega

/-! ## Nonces of frames -/

/-- The nonce of the cipher in a TRANSFORM frame. -/
def transformNonce (frame : ByteVector) : Option ByteVector :=
  let payload := frame.drop kDirectTcpHeaderSize
  if payload.take 4 = u32Le kSmb3TransformProtocolId then some (ccmNonceFromTransformNonce payload)
  else none

/-- The nonces of the TRANSFORM frames among these. -/
def transformNonces (frames : List ByteVector) : List ByteVector := frames.filterMap transformNonce

variable {dialect : Dialect} {sessionId : UInt64} {counter : UInt64} {nonce : Nonce16}
  {key message frame encrypted signed : ByteVector}

theorem transformNonce_encode (h : encodeDirectTcpFrame message = .ok frame) :
    transformNonce frame = if message.take 4 = u32Le kSmb3TransformProtocolId then
      some (ccmNonceFromTransformNonce message) else none := by
  have hdrop : frame.drop kDirectTcpHeaderSize = message := by
    rw [eq_of_encodeDirectTcpFrame h, ← List.append_assoc]
    exact List.drop_left' (by rw [List.length_append, length_beBytes]; rfl)
  rw [transformNonce, hdrop]

/-- Neither the protocol id nor the nonce is in the flags or the signature. -/
theorem transformNonce_sign (hframe : encodeDirectTcpFrame message = .ok frame)
    (h : signSmb2DirectTcpFrame frame key dialect = .ok (.ok signed)) :
    transformNonce signed = transformNonce frame := by
  obtain ⟨-, hlen, digest, hdigest, hencode⟩ := (signSmb2DirectTcpFrame_eq_ok hframe).1 h
  have hsize := length_of_smb2Signature hdigest
  have hset := length_setSignedFlag hlen
  rw [kSmb2HeaderSize] at hlen
  have hfield (off len : ℕ) (hoff : off + len ≤ 16 ∨ 20 ≤ off ∧ off + len ≤ 48) :
      ((splice (setSignedFlag message) kSmb2SignatureOffset digest).drop off).take len =
        (message.drop off).take len := by
    rw [take_drop_splice_of_disjoint (by rw [hset, hsize, kSmb2SignatureOffset]; omega)
      (by rw [kSmb2SignatureOffset]; omega), setSignedFlag,
      take_drop_splice_of_disjoint (by rw [length_u32Le, kSmb2FlagsOffset]; omega)
      (by rw [length_u32Le, kSmb2FlagsOffset]; omega)]
  have hid := hfield 0 4 (.inl (by omega))
  have hnonce := hfield 20 11 (.inr ⟨by omega, by omega⟩)
  rw [List.drop_zero, List.drop_zero] at hid
  rw [transformNonce_encode hencode, transformNonce_encode hframe, hid,
    ccmNonceFromTransformNonce, ccmNonceFromTransformNonce, kSmb3TransformNonceOffset,
    kSmb3AesCcmNonceSize, hnonce]

/-- The raw frame holds a message encrypted with this key and nonce, signed
    afterwards or not. -/
def Seals (key : ByteVector) (sessionId : UInt64) (dialect : Dialect) (ccmNonce raw : ByteVector) :
    Prop :=
  ∃ frame nonce encrypted,
    encryptSmb3DirectTcpFrame frame key sessionId nonce dialect = .ok (.ok encrypted) ∧
    nonce.toList.take kSmb3AesCcmNonceSize = ccmNonce ∧
    (raw = encrypted ∨ ∃ k, signSmb2DirectTcpFrame encrypted k dialect = .ok (.ok raw))

/-- An encrypted frame carries the nonce it was encrypted with. -/
theorem transformNonce_encrypt (hframe : encodeDirectTcpFrame message = .ok frame)
    (h : encryptSmb3DirectTcpFrame frame key sessionId nonce dialect = .ok (.ok encrypted)) :
    (∃ payload, encodeDirectTcpFrame payload = .ok encrypted) ∧
      transformNonce encrypted = some (nonce.toList.take kSmb3AesCcmNonceSize) := by
  obtain ⟨-, sealed, hsealed, hencode⟩ := (encryptSmb3DirectTcpFrame_eq_ok hframe).1 h
  have hfields : TransformFields _ sealed.tag sealed.ciphertext (UInt32.ofNat message.length)
      sessionId nonce dialect :=
    transformFields_build (length_tag_of_aes128CcmEncrypt hsealed le_rfl)
  have hid : (buildTransformHeader sealed.tag (transformAad (UInt32.ofNat message.length) sessionId
      nonce dialect) ++ sealed.ciphertext).take 4 = u32Le kSmb3TransformProtocolId := by
    rw [buildTransformHeader, List.append_assoc, List.take_left' (length_u32Le _)]
  refine ⟨⟨_, hencode⟩, ?_⟩
  rw [transformNonce_encode hencode, if_pos hid, hfields.ccmNonce]

/-! ## One exchange -/

section

variable {chain chain' inner : TransportChain} {context : OperationContext}
  {decryptionKey : ByteVector} {es : List (Event Link)} {r : Except Exn (DecodeResult ByteVector)}

/-- At most signed: the frame reaches the raw transport as it is or signed, or it
    does not and there is no reply. -/
theorem SignedAtMost.exchange (hchain : SignedAtMost dialect chain)
    (hframe : encodeDirectTcpFrame message = .ok frame)
    (hrun : Program.Runs (chain.exchange frame context) es (r, chain')) :
    chain' = chain ∧
      (rawFrames es = [] ∧ (∀ reply, r ≠ .ok (.ok reply)) ∨
        ∃ raw, rawFrames es = [raw] ∧ transformNonce raw = transformNonce frame ∧
          (raw = frame ∨ ∃ k, signSmb2DirectTcpFrame frame k dialect = .ok (.ok raw))) := by
  obtain rfl | ⟨k, rfl⟩ := hchain
  · obtain ⟨response, rest, rfl, hrest⟩ := Program.runs_ask.1 hrun
    obtain ⟨rfl, hr⟩ := Program.runs_pure.1 hrest
    cases hr
    exact ⟨rfl, .inr ⟨frame, rfl, rfl, .inl rfl⟩⟩
  · rw [TransportChain.exchange] at hrun
    cases hsigned : signSmb2DirectTcpFrame frame k dialect with
    | error e =>
      rw [hsigned] at hrun
      obtain ⟨rfl, hr⟩ := Program.runs_pure.1 hrun
      cases hr
      exact ⟨rfl, .inl ⟨rfl, by simp⟩⟩
    | ok signed =>
      cases signed with
      | error e =>
        rw [hsigned] at hrun
        obtain ⟨rfl, hr⟩ := Program.runs_pure.1 hrun
        cases hr
        exact ⟨rfl, .inl ⟨rfl, by simp⟩⟩
      | ok raw =>
        rw [hsigned] at hrun
        obtain ⟨response, rest, rfl, hrest⟩ := Program.runs_ask.1 hrun
        obtain ⟨rfl, hr⟩ := Program.runs_pure.1 hrest
        cases hr
        exact ⟨rfl, .inr ⟨raw, rfl, transformNonce_sign hframe hsigned, .inr ⟨k, hsigned⟩⟩⟩

/-- **One exchange of an encrypting transport** uses up one number: the frame
    reaches the raw transport encrypted with the nonce of that number, or it does
    not and there is no reply. -/
theorem exchange_encryption (hinner : SignedAtMost dialect inner)
    (hframe : encodeDirectTcpFrame message = .ok frame)
    (hrun : Program.Runs ((TransportChain.encryption inner key decryptionKey sessionId dialect
      counter).exchange frame context) es (r, chain')) :
    chain' = .encryption inner key decryptionKey sessionId dialect (counter + 1) ∧
      (rawFrames es = [] ∧ (∀ reply, r ≠ .ok (.ok reply)) ∨
        ∃ raw, rawFrames es = [raw] ∧ transformNonce raw = some (ccmNonce counter) ∧
          Seals key sessionId dialect (ccmNonce counter) raw) := by
  rw [TransportChain.exchange] at hrun
  cases hencrypted : encryptSmb3DirectTcpFrame frame key sessionId (nextNonce counter) dialect with
  | error e =>
    rw [hencrypted] at hrun
    obtain ⟨rfl, hr⟩ := Program.runs_pure.1 hrun
    cases hr
    exact ⟨rfl, .inl ⟨rfl, by simp⟩⟩
  | ok encrypted =>
    cases encrypted with
    | error e =>
      rw [hencrypted] at hrun
      obtain ⟨rfl, hr⟩ := Program.runs_pure.1 hrun
      cases hr
      exact ⟨rfl, .inl ⟨rfl, by simp⟩⟩
    | ok encrypted =>
      rw [hencrypted] at hrun
      obtain ⟨es₁, ⟨r₁, inner'⟩, es₂, rfl, hinnerRun, hrest⟩ := Program.runs_bind.1 hrun
      obtain ⟨rfl, hr⟩ := Program.runs_pure.1 hrest
      injection hr with hr hchain
      obtain ⟨⟨payload, hencode⟩, hnonce⟩ := transformNonce_encrypt hframe hencrypted
      obtain ⟨hsame, hsent⟩ := hinner.exchange hencode hinnerRun
      rw [List.append_nil]
      refine ⟨by rw [hchain, hsame], ?_⟩
      rcases hsent with ⟨hnone, hnoReply⟩ | ⟨raw, hraw, hrawNonce, hsigned⟩
      · refine .inl ⟨hnone, ?_⟩
        rintro reply rfl
        cases r₁ with
        | error e => cases hr
        | ok response =>
          cases response with
          | error e => cases hr
          | ok rawReply => exact hnoReply rawReply rfl
      · exact .inr ⟨raw, hraw, hrawNonce.trans hnonce, frame, nextNonce counter, encrypted,
          hencrypted, rfl, hsigned⟩

end

/-! ## The requests of a connect -/

/-- The message starts with an SMB2 header. -/
def StartsWithHeader (message : ByteVector) : Prop :=
  ∃ header body, message = encodeSmb2SyncHeader header ++ body

theorem StartsWithHeader.transformNonce (h : StartsWithHeader message)
    (hframe : encodeDirectTcpFrame message = .ok frame) : transformNonce frame = none := by
  obtain ⟨header, body, rfl⟩ := h
  have hid : (encodeSmb2SyncHeader header ++ body).take 4 = u32Le kSmb2ProtocolId := by
    rw [encodeSmb2SyncHeader, List.append_assoc, List.take_left' (length_u32Le _)]
  rw [transformNonce_encode hframe, if_neg]
  rw [hid]
  decide

theorem startsWithHeader_negotiate {options : NegotiateRequestOptions} {messageId : ℕ}
    (h : buildNegotiateRequest options messageId = .ok message) : StartsWithHeader message := by
  obtain ⟨header, body, hmessage, -⟩ := header_of_buildNegotiateRequest h
  exact ⟨header, body, hmessage⟩

theorem startsWithHeader_sessionSetup {options : SessionSetupRequestOptions} {messageId : ℕ}
    (h : buildSessionSetupRequest options messageId sessionId = .ok message) :
    StartsWithHeader message := by
  rw [buildSessionSetupRequest] at h
  obtain ⟨checked, -, h⟩ := bind_eq_ok.1 h
  rw [pure_eq_ok] at h
  exact ⟨_, _, h.symm⟩

theorem startsWithHeader_treeConnect {options : TreeConnectRequestOptions} {messageId : ℕ}
    (h : buildTreeConnectRequest options messageId sessionId = .ok message) :
    StartsWithHeader message := by
  rw [buildTreeConnectRequest] at h
  obtain ⟨unc, -, h⟩ := bind_eq_ok.1 h
  obtain ⟨path, -, h⟩ := bind_eq_ok.1 h
  obtain ⟨checked, -, h⟩ := bind_eq_ok.1 h
  rw [pure_eq_ok] at h
  exact ⟨_, _, h.symm⟩

/-! ## The connect -/

/-- Nothing was encrypted so far, and the transport does not encrypt. -/
def Plain (dialect : Dialect) (chain : TransportChain) (es : List (Event Link)) : Prop :=
  SignedAtMost dialect chain ∧ ∀ raw ∈ rawFrames es, transformNonce raw = none

/-- The transport encrypts with this key and has numbered `count` messages: each
    was handed to the raw transport, with the nonce of its number. -/
structure Numbered (dialect : Dialect) (sessionId : UInt64) (key : ByteVector) (count : ℕ)
    (chain : TransportChain) (es : List (Event Link)) : Prop where
  chain_eq : ∃ inner decryptionKey, SignedAtMost dialect inner ∧
    chain = .encryption inner key decryptionKey sessionId dialect (UInt64.ofNat (count + 1))
  nonces : transformNonces (rawFrames es) = firstNonces count
  seals : ∀ raw ∈ rawFrames es, ∀ nonce, transformNonce raw = some nonce →
    Seals key sessionId dialect nonce raw

section

variable {α : Type} {chain : TransportChain} {es : List (Event Link)} {context : OperationContext}
  {cancelled : String} {request : Except Exn ByteVector} {count : ℕ}
  {decode : ByteVector → ByteVector → DecodeResult α}

/-- A question that is no exchange. -/
theorem rawFrames_ask {op : LinkOp} (hop : ∀ raw context, op ≠ .exchange raw context)
    (ans : Link.Ans op) : rawFrames (es ++ [⟨op, ans⟩]) = rawFrames es := by
  rw [rawFrames_append]
  cases op with
  | exchange raw context => exact absurd rfl (hop raw context)
  | _ => exact List.append_nil _

theorem rawFrames_cancelled : LinkMeets (LinkM.cancelled context) (fun _ chain' es' =>
    chain' = chain ∧ rawFrames es' = rawFrames es) chain es := by
  rw [LinkM.cancelled]
  by_cases hc : context.cancellable = true
  · rw [if_pos hc]
    refine ⟨trivial, ?_⟩
    rintro ans m rfl
    exact ⟨rfl, rawFrames_ask (by simp) ans⟩
  · rw [if_neg hc]
    exact ⟨rfl, rfl⟩

/-- The frames of one exchange of the connector, by what its transport does. -/
theorem linkExchange_frames {P : Except Exn (DecodeResult ByteVector) → TransportChain →
      List ByteVector → Prop}
    (hexchange : ∀ message frame es' r chain', request = .ok message →
      encodeDirectTcpFrame message = .ok frame →
      Program.Runs (chain.exchange frame context) es' (r, chain') → P r chain' (rawFrames es')) :
    LinkMeets (linkExchange cancelled request decode context)
      (fun r chain' es' =>
        chain' = chain ∧ rawFrames es' = rawFrames es ∧ (∀ a, r ≠ .ok (.ok a)) ∨
        ∃ reply sent, P reply chain' sent ∧ rawFrames es' = rawFrames es ++ sent ∧
          ∀ a, r = .ok (.ok a) → ∃ frame, reply = .ok (.ok frame)) chain es := by
  have hnone (e : ProtocolError) (a : α) :
      (.ok (.error e) : Except Exn (DecodeResult α)) ≠ .ok (.ok a) := by simp
  rw [linkExchange]
  refine rawFrames_cancelled.bind ?_ ?_
  swap
  · rintro e chain' es' ⟨rfl, hes⟩
    exact .inl ⟨rfl, hes, by simp⟩
  rintro cancelledBefore chain' es₁ ⟨rfl, hes₁⟩
  split
  · exact .inl ⟨rfl, hes₁, hnone _⟩
  refine meets_ofExcept (fun message hmessage => ?_) fun e => .inl ⟨rfl, hes₁, by simp⟩
  refine meets_ofExcept (fun frame hframe => ?_) fun e => .inl ⟨rfl, hes₁, by simp⟩
  have hsend : LinkMeets (LinkM.exchange frame context) (fun r chain' es' => ∃ sent,
      P r chain' sent ∧ rawFrames es' = rawFrames es ++ sent) chain' es₁ := by
    refine (meets_history_of_runs (fun es' r hrun =>
      hexchange message frame es' r.1 r.2 hmessage hframe hrun) es₁).mono ?_
    rintro r es' ⟨added, rfl, hr⟩
    exact ⟨rawFrames added, hr, by rw [rawFrames_append, hes₁]⟩
  refine hsend.bind ?_ ?_
  swap
  · rintro e chain₂ es₂ ⟨sent, hP, hes₂⟩
    exact .inr ⟨_, sent, hP, hes₂, by simp⟩
  rintro reply chain₂ es₂ ⟨sent, hP, hes₂⟩
  cases reply with
  | error e => exact .inr ⟨_, sent, hP, hes₂, fun a ha => absurd ha (hnone _ a)⟩
  | ok replyFrame =>
    refine rawFrames_cancelled.bind ?_ ?_
    swap
    · rintro e chain₃ es₃ ⟨rfl, hes₃⟩
      exact .inr ⟨_, sent, hP, hes₃.trans hes₂, by simp⟩
    rintro cancelledAfter chain₃ es₃ ⟨rfl, hes₃⟩
    split
    · exact .inr ⟨_, sent, hP, hes₃.trans hes₂, fun _ _ => ⟨replyFrame, rfl⟩⟩
    split
    · exact .inr ⟨_, sent, hP, hes₃.trans hes₂, fun _ _ => ⟨replyFrame, rfl⟩⟩
    · exact .inr ⟨_, sent, hP, hes₃.trans hes₂, fun _ _ => ⟨replyFrame, rfl⟩⟩

theorem Plain.linkExchange (h : Plain dialect chain es)
    (hrequest : ∀ message, request = .ok message → StartsWithHeader message) :
    LinkMeets (Native.linkExchange cancelled request decode context)
      (fun _ chain' es' => chain' = chain ∧ Plain dialect chain es') chain es := by
  refine (linkExchange_frames (P := fun _ chain' sent => chain' = chain ∧
    ∀ raw ∈ sent, transformNonce raw = none) ?_).mono ?_
  · intro message frame es' r chain' hmessage hframe hrun
    obtain ⟨hchain, hsent⟩ := h.1.exchange hframe hrun
    refine ⟨hchain, fun raw hraw => ?_⟩
    rcases hsent with ⟨hnone, -⟩ | ⟨sent, hsent, hnonce, -⟩
    · rw [hnone] at hraw
      cases hraw
    · rw [hsent, List.mem_singleton] at hraw
      rw [hraw, hnonce, (hrequest message hmessage).transformNonce hframe]
  · rintro r chain' es' (⟨rfl, hes, -⟩ | ⟨reply, sent, ⟨rfl, hsent⟩, hes, -⟩)
    · exact ⟨rfl, h.1, by rw [hes]; exact h.2⟩
    · refine ⟨rfl, h.1, fun raw hraw => ?_⟩
      rw [hes, List.mem_append] at hraw
      rcases hraw with hraw | hraw
      · exact h.2 raw hraw
      · exact hsent raw hraw

/-- A successful exchange has used the next number. -/
theorem Numbered.linkExchange (h : Numbered dialect sessionId key count chain es) :
    LinkMeets (Native.linkExchange cancelled request decode context)
      (fun r chain' es' => ∀ a, r = .ok (.ok a) →
        Numbered dialect sessionId key (count + 1) chain' es') chain es := by
  obtain ⟨inner, decryptionKey, hinner, hchain⟩ := h.chain_eq
  refine (linkExchange_frames (P := fun r chain' sent =>
    chain' = .encryption inner key decryptionKey sessionId dialect (UInt64.ofNat (count + 1 + 1)) ∧
      (sent = [] ∧ (∀ reply, r ≠ .ok (.ok reply)) ∨
        ∃ raw, sent = [raw] ∧ transformNonce raw = some (ccmNonce (UInt64.ofNat (count + 1))) ∧
          Seals key sessionId dialect (ccmNonce (UInt64.ofNat (count + 1))) raw)) ?_).mono ?_
  · intro message frame es' r chain' _ hframe hrun
    rw [hchain] at hrun
    have hexchange := exchange_encryption hinner hframe hrun
    rwa [ofNat_succ_add_one] at hexchange
  · rintro r chain' es' (⟨-, -, hno⟩ | ⟨reply, sent, ⟨hchain', hsent⟩, hes, hreply⟩) a ha
    · exact absurd ha (hno a)
    obtain ⟨replyFrame, hreplyFrame⟩ := hreply a ha
    rcases hsent with ⟨-, hno⟩ | ⟨raw, hraw, hnonce, hseals⟩
    · exact absurd hreplyFrame (hno replyFrame)
    rw [hraw] at hes
    refine ⟨⟨inner, decryptionKey, hinner, hchain'⟩, ?_, fun raw' hraw' nonce hnonce' => ?_⟩
    · rw [hes, transformNonces, List.filterMap_append, ← transformNonces, h.nonces,
        firstNonces_succ, List.filterMap_cons, hnonce, List.filterMap_nil]
    · rw [hes, List.mem_append, List.mem_singleton] at hraw'
      rcases hraw' with hraw' | rfl
      · exact h.seals raw' hraw' nonce hnonce'
      · rw [hnonce] at hnonce'
        injection hnonce' with hnonce'
        rwa [← hnonce']

theorem enableEncryption_numbered {negotiated : NegotiatedConnection} {setup : SetupState}
    {sessionKey : ByteVector} (h : Plain negotiated.dialect chain es) :
    LinkMeets (enableEncryption negotiated setup sessionKey)
      (fun r chain' es' => r = .ok (.ok ()) →
        ∃ key, Numbered negotiated.dialect setup.sessionId key 0 chain' es') chain es := by
  have hrequire : LinkMeets (requireSessionKey sessionKey) (fun _ chain' es' =>
      chain' = chain ∧ rawFrames es' = rawFrames es) chain es := by
    rw [requireSessionKey]
    split
    · refine meets_linkAsk fun ans => ?_
      cases ans with
      | error e => exact ⟨rfl, rawFrames_ask (by simp) _⟩
      | ok key => exact ⟨rfl, rawFrames_ask (by simp) _⟩
    · exact ⟨rfl, rfl⟩
  rw [enableEncryption]
  split
  · rintro ⟨⟩
  refine hrequire.bind ?_ (by simp)
  rintro r chain₁ es₁ ⟨rfl, hes₁⟩
  cases r with
  | error e => simp
  | ok sessionKey' =>
    dsimp only
    cases hkey : deriveSmb3EncryptionKey sessionKey' negotiated.dialect .clientToServer with
    | error e => rintro ⟨⟩
    | ok key =>
      cases hdecryption : deriveSmb3EncryptionKey sessionKey' negotiated.dialect
          .serverToClient with
      | error e => rintro ⟨⟩
      | ok decryptionKey =>
        intro _
        have hnone : transformNonces (rawFrames es₁) = [] := by
          rw [hes₁, transformNonces, List.filterMap_eq_nil_iff]
          exact h.2
        refine ⟨key, ⟨chain₁, decryptionKey, h.1, rfl⟩, hnone, fun raw hraw nonce hnonce => ?_⟩
        rw [hes₁] at hraw
        rw [h.2 raw hraw] at hnonce
        cases hnonce

/-- Nothing is encrypted yet, or the transport has numbered what is. -/
def Counted (dialect : Dialect) (sessionId : UInt64) (encrypted : Bool) (chain : TransportChain)
    (es : List (Event Link)) : Prop :=
  if encrypted then ∃ key count, Numbered dialect sessionId key count chain es
  else Plain dialect chain es

/-- A program that leaves a transport that does not encrypt as it is. -/
def KeepsPlain (p : LinkM α) : Prop :=
  ∀ dialect chain es, Plain dialect chain es →
    LinkMeets p (fun _ chain' es' => chain' = chain ∧ Plain dialect chain es') chain es

theorem KeepsPlain.pure (a : α) : KeepsPlain (pure a : LinkM α) := fun _ _ _ h => ⟨rfl, h⟩

theorem KeepsPlain.bind {β : Type} {p : LinkM α} {f : α → LinkM β} (hp : KeepsPlain p)
    (hf : ∀ a, KeepsPlain (f a)) : KeepsPlain (p >>= f) := by
  intro dialect chain es h
  refine (hp dialect chain es h).bind ?_ ?_
  · rintro a chain' es' ⟨rfl, h'⟩
    exact hf a dialect chain' es' h'
  · rintro e chain' es' h'
    exact h'

theorem KeepsPlain.ask {op : LinkOp} (hop : ∀ raw context, op ≠ .exchange raw context) :
    KeepsPlain (LinkM.ask op) := by
  intro dialect chain es h
  refine ⟨trivial, ?_⟩
  rintro ans m rfl
  exact ⟨rfl, h.1, by rw [rawFrames_ask hop]; exact h.2⟩

theorem KeepsPlain.linkExchange
    (hrequest : ∀ message, request = .ok message → StartsWithHeader message) :
    KeepsPlain (Native.linkExchange cancelled request decode context) :=
  fun _ _ _ h => h.linkExchange hrequest

section

variable {sha512 : ByteVector → Vector UInt8 64} {options : NativeSmbConnectorOptions}

theorem keepsPlain_sessionSetupRounds {negotiated : NegotiatedConnection} (rounds : ℕ)
    (token : ByteVector) (state : SetupState) :
    KeepsPlain (sessionSetupRounds sha512 options negotiated context rounds token state) := by
  induction rounds generalizing token state with
  | zero => exact .pure _
  | succ rounds ih =>
    refine (KeepsPlain.linkExchange fun _ => startsWithHeader_sessionSetup).bind fun response => ?_
    split
    · exact .pure _
    split
    · exact .pure _
    split
    · exact .pure _
    refine (KeepsPlain.ask (by simp)).bind fun next => ?_
    split
    · exact .pure _
    split
    · exact .pure _
    · exact ih _ _

/-- NEGOTIATE and SESSION_SETUP are not encrypted. -/
theorem keepsPlain_authenticate : KeepsPlain (authenticate sha512 options context) := by
  refine (KeepsPlain.linkExchange fun _ => startsWithHeader_negotiate).bind fun negotiated => ?_
  split
  · exact .pure _
  split
  · exact .pure _
  refine (KeepsPlain.ask (by simp)).bind fun token => ?_
  split
  · exact .pure _
  refine (keepsPlain_sessionSetupRounds _ _ _).bind fun setup => ?_
  split
  · exact .pure _
  · exact .pure _

theorem keepsPlain_earlySessionKey {config : ConnectionConfig} {negotiated : NegotiatedConnection}
    {session : SessionSetupResponse} : KeepsPlain (earlySessionKey config negotiated session) := by
  rw [earlySessionKey]
  split
  · refine (KeepsPlain.ask (by simp)).bind fun key => ?_
    split
    · exact .pure _
    · exact .pure _
  · exact .pure _

end

section

variable {config : ConnectionConfig} {negotiated : NegotiatedConnection} {setup : SetupState}
  {sessionKey : ByteVector} {encrypted : Bool}

theorem signConnection_plain (h : Plain negotiated.dialect .raw es) :
    LinkMeets (signConnection config negotiated setup sessionKey)
      (fun _ chain' es' => Plain negotiated.dialect chain' es') .raw es := by
  rw [signConnection]
  split
  · exact h
  split
  · exact h
  split
  · exact h
  · rename_i signingKey _
    refine meets_ofExcept (fun frame _ => ?_) fun e => h
    split
    · exact h
    · exact ⟨.inr ⟨signingKey, rfl⟩, h.2⟩

theorem secureSession_counted (h : Plain negotiated.dialect .raw es) :
    LinkMeets (secureSession config negotiated setup) (fun r chain' es' =>
      ∀ sessionKey encrypted, r = .ok (.ok (sessionKey, encrypted)) →
        Counted negotiated.dialect setup.sessionId encrypted chain' es') .raw es := by
  rw [secureSession]
  split
  · rintro sessionKey encrypted ⟨⟩
  split
  · rintro sessionKey encrypted ⟨⟩
  refine (keepsPlain_earlySessionKey _ _ _ h).bind ?_ (by simp)
  rintro early chain₁ es₁ ⟨rfl, h₁⟩
  cases early with
  | error e => rintro sessionKey encrypted ⟨⟩
  | ok sessionKey =>
    refine (signConnection_plain h₁).bind ?_ (by simp)
    rintro signed chain₂ es₂ h₂
    cases signed with
    | error e => rintro sessionKey encrypted ⟨⟩
    | ok u =>
      dsimp only
      split
      · refine (enableEncryption_numbered h₂).bind ?_ (by simp)
        rintro r chain₃ es₃ hencrypted
        cases r with
        | error e => rintro sessionKey encrypted ⟨⟩
        | ok u =>
          rintro _ _ ⟨⟩
          obtain ⟨key, hnumbered⟩ := hencrypted rfl
          exact ⟨key, 0, hnumbered⟩
      · rintro _ _ ⟨⟩
        exact h₂

theorem encryptForShare_counted {tree : TreeConnectResult} {messageId : ℕ}
    (h : Counted negotiated.dialect setup.sessionId encrypted chain es) :
    LinkMeets (encryptForShare config negotiated setup sessionKey encrypted tree messageId)
      (fun r chain' es' => ∀ result, r = .ok (.ok result) →
        ∃ encrypted', Counted negotiated.dialect setup.sessionId encrypted' chain' es') chain es := by
  rw [encryptForShare]
  cases encrypted with
  | true =>
    rw [if_neg (by simp)]
    exact fun _ _ => ⟨true, h⟩
  | false =>
    split
    · refine (enableEncryption_numbered h).bind ?_ (by simp)
      rintro r chain' es' hencrypted
      cases r with
      | error e => rintro result ⟨⟩
      | ok u =>
        obtain ⟨key, hnumbered⟩ := hencrypted rfl
        exact fun _ _ => ⟨true, key, 0, hnumbered⟩
    · exact fun _ _ => ⟨false, h⟩

theorem treeConnect_counted {options : TreeConnectRequestOptions} {messageId : ℕ}
    (h : Counted dialect sessionId encrypted chain es) :
    LinkMeets (treeConnect options messageId sessionId context) (fun r chain' es' =>
      (encrypted = false ∨ ∃ tree, r = .ok (.ok tree)) →
        Counted dialect sessionId encrypted chain' es') chain es := by
  cases encrypted with
  | false =>
    have hplain : Plain dialect chain es := h
    refine (hplain.linkExchange fun _ => startsWithHeader_treeConnect).mono ?_
    rintro r chain' es' ⟨rfl, h'⟩ -
    exact h'
  | true =>
    obtain ⟨key, count, hnumbered⟩ := h
    refine hnumbered.linkExchange.mono ?_
    rintro r chain' es' h' (hplain | ⟨tree, htree⟩)
    · cases hplain
    · exact ⟨key, count + 1, h' tree htree⟩

/-- TREE_CONNECT and its repetition over an encrypted connection. -/
theorem connectTree_counted
    (h : Counted negotiated.dialect setup.sessionId encrypted chain es) :
    LinkMeets (connectTree config negotiated setup sessionKey encrypted context)
      (fun r chain' es' => ∀ result, r = .ok (.ok result) →
        ∃ encrypted', Counted negotiated.dialect setup.sessionId encrypted' chain' es') chain es := by
  rw [connectTree]
  refine (treeConnect_counted h).bind ?_ (by simp)
  rintro r chain₁ es₁ h₁
  cases r with
  | ok tree => exact encryptForShare_counted (h₁ (.inr ⟨tree, rfl⟩))
  | error e =>
    dsimp only
    split
    · rename_i hretry
      -- the denial came over a connection that is not encrypted yet
      have hplain : encrypted = false := by simpa using hretry.2.2.2
      subst hplain
      refine (enableEncryption_numbered (h₁ (.inl rfl))).bind ?_ (by simp)
      rintro r chain₂ es₂ hencrypted
      cases r with
      | error e => rintro result ⟨⟩
      | ok u =>
        obtain ⟨key, hnumbered⟩ := hencrypted rfl
        have h₂ : Counted negotiated.dialect setup.sessionId true chain₂ es₂ :=
          ⟨key, 0, hnumbered⟩
        refine (treeConnect_counted h₂).bind ?_ (by simp)
        rintro r chain₃ es₃ h₃
        cases r with
        | error e => rintro result ⟨⟩
        | ok tree => exact encryptForShare_counted (h₃ (.inr ⟨tree, rfl⟩))
    · rintro result ⟨⟩

end

/-- **A connected session** has encrypted nothing so far, or has numbered what it
    encrypted from one on. -/
theorem connect_numbered {sha512 : ByteVector → Vector UInt8 64}
    {options : NativeSmbConnectorOptions} :
    LinkMeets (connect sha512 options context)
      (fun r chain' es' => ∀ state, r = .ok (.ok state) → ∃ encrypted,
        Counted state.negotiated.dialect state.connection.sessionId encrypted chain' es')
      .raw [] := by
  have hnone (dialect : Dialect) : Plain dialect .raw [] := ⟨.inl rfl, by simp [rawFrames]⟩
  rw [connect_eq]
  have hstart : LinkMeets (authenticate sha512 options context) (fun _ chain' es' =>
      chain' = .raw ∧ ∀ raw ∈ rawFrames es', transformNonce raw = none) .raw [] := by
    refine (keepsPlain_authenticate .smb300 _ _ (hnone _)).mono ?_
    rintro r chain' es' ⟨rfl, h⟩
    exact ⟨rfl, h.2⟩
  refine hstart.bind ?_ (by simp)
  rintro r _ es₁ ⟨rfl, h₁⟩
  cases r with
  | error e => rintro state ⟨⟩
  | ok result =>
    obtain ⟨negotiated, setup⟩ := result
    show LinkMeets (establish options.config context negotiated setup) _ .raw es₁
    rw [establish]
    refine (secureSession_counted ⟨.inl rfl, h₁⟩).bind ?_ (by simp)
    rintro r chain₂ es₂ h₂
    cases r with
    | error e => rintro state ⟨⟩
    | ok secured =>
      obtain ⟨sessionKey, encrypted⟩ := secured
      refine (connectTree_counted (h₂ sessionKey encrypted rfl)).bind ?_ (by simp)
      rintro r chain₃ es₃ h₃
      cases r with
      | error e => rintro state ⟨⟩
      | ok result =>
        rintro state ⟨⟩
        exact h₃ result rfl

end

/-! ## The requests of a session -/

section

variable {inner chain : TransportChain} {decryptionKey : ByteVector} {log : List Exchanged}

/-- An exchange took its number: it handed the raw transport one frame encrypted
    with the nonce of the number, or none. -/
def Sealed (key : ByteVector) (sessionId : UInt64) (dialect : Dialect) (x : Exchanged) : Prop :=
  rawFrames x.events = [] ∨ ∃ raw, rawFrames x.events = [raw] ∧
    transformNonce raw = some (ccmNonce x.before.nonceCounter) ∧
    Seals key sessionId dialect (ccmNonce x.before.nonceCounter) raw

/-- The requests of a session that encrypts take the numbers one after the other,
    whether they reach the raw transport or not. -/
theorem exchanges_numbered (hinner : SignedAtMost dialect inner) {count : ℕ}
    (h : Exchanges (.encryption inner key decryptionKey sessionId dialect
      (UInt64.ofNat (count + 1))) log) :
    log.map (fun x => ccmNonce x.before.nonceCounter) =
        (List.range log.length).map (fun i => ccmNonce (UInt64.ofNat (count + i + 1))) ∧
      ∀ x ∈ log, Sealed key sessionId dialect x := by
  induction log generalizing count with
  | nil => exact ⟨rfl, by simp⟩
  | cons x log ih =>
    cases h with
    | @cons _ chain' message frame context events r _ hframe hrun hrest =>
      obtain ⟨hchain', hsent⟩ := exchange_encryption hinner hframe hrun
      rw [hchain', ofNat_succ_add_one] at hrest
      obtain ⟨hnumbers, hsealed⟩ := ih hrest
      refine ⟨?_, fun x hx => ?_⟩
      · rw [List.map_cons, hnumbers, List.length_cons, List.range_succ_eq_map, List.map_cons,
          List.map_map]
        refine congrArg₂ _ rfl (List.map_congr_left fun i _ => ?_)
        rw [Function.comp_apply, show count + (i + 1) + 1 = count + 1 + i + 1 by omega]
      · obtain rfl | hx := List.mem_cons.1 hx
        · exact hsent.imp (fun hnone => hnone.1) id
        · exact hsealed x hx

/-- What reached the raw transport is some of what was numbered. -/
theorem sublist_transformNonces (h : ∀ x ∈ log, Sealed key sessionId dialect x) :
    (transformNonces (log.flatMap fun x => rawFrames x.events)).Sublist
      (log.map fun x => ccmNonce x.before.nonceCounter) := by
  induction log with
  | nil => exact .slnil
  | cons x log ih =>
    have hrest := ih fun y hy => h y (List.mem_cons_of_mem x hy)
    rw [List.flatMap_cons, transformNonces, List.filterMap_append, ← transformNonces,
      ← transformNonces, List.map_cons]
    rcases h x List.mem_cons_self with hnone | ⟨raw, hraw, hnonce, -⟩
    · rw [hnone]
      exact hrest.cons _
    · rw [hraw, transformNonces, List.filterMap_cons, hnonce, List.filterMap_nil]
      exact hrest.cons_cons _

end

/-- A session that does not encrypt never does. -/
theorem Exchanges.hasEncryption {chain : TransportChain} {log : List Exchanged}
    (h : Exchanges chain log) : ∀ x ∈ log, x.before.hasEncryption = chain.hasEncryption := by
  intro x hx
  rw [← hasEncryption_layers, (h.layers x hx).1, hasEncryption_layers]

/-- **No nonce is used twice** with the client's key: neither by the TREE_CONNECT
    requests of the connect nor by the requests of the session, up to 2^64 of them,
    those that fail and reach no raw transport included. -/
theorem nonces_nodup {sha512 : ByteVector → Vector UInt8 64} {options : NativeSmbConnectorOptions}
    {context : OperationContext} {es : List (Event Link)} {state : NativeSmbConnectedState}
    {chain : TransportChain}
    (hconnect : Program.Runs ((connect sha512 options context).run.run .raw) es
      (.ok (.ok state), chain)) :
    (chain.hasEncryption = false ∧ (∀ raw ∈ rawFrames es, transformNonce raw = none) ∧
        ∀ log, Exchanges chain log → ∀ x ∈ log, x.before.hasEncryption = false) ∨
      ∃ sessionKey key, sessionKeyEvent sessionKey ∈ es ∧
        deriveSmb3EncryptionKey sessionKey state.negotiated.dialect .clientToServer = .ok key ∧
        (∀ raw ∈ rawFrames es, ∀ nonce, transformNonce raw = some nonce →
          Seals key state.connection.sessionId state.negotiated.dialect nonce raw) ∧
        ∀ log, Exchanges chain log → (rawFrames es).length + log.length < 2 ^ 64 →
          (transformNonces (rawFrames es) ++
            log.map fun x => ccmNonce x.before.nonceCounter).Nodup ∧
          (transformNonces (rawFrames es ++ log.flatMap fun x => rawFrames x.events)).Nodup ∧
          ∀ x ∈ log, Sealed key state.connection.sessionId state.negotiated.dialect x := by
  have hstacked : Stacked state.negotiated.dialect state.connection.sessionId chain es :=
    Meets.history connect_meets hconnect state rfl
  obtain ⟨encrypted, hcounted⟩ :
      ∃ encrypted, Counted state.negotiated.dialect state.connection.sessionId encrypted chain es :=
    Meets.history connect_numbered hconnect state rfl
  cases encrypted with
  | false =>
    obtain ⟨hplain, hnone⟩ : Plain state.negotiated.dialect chain es := hcounted
    have hchain : chain.hasEncryption = false := by
      obtain rfl | ⟨signingKey, rfl⟩ := hplain
      · rfl
      · rfl
    refine .inl ⟨hchain, hnone, fun log hlog x hx => ?_⟩
    rw [hlog.hasEncryption x hx, hchain]
  | true =>
    obtain ⟨key, count, ⟨inner, decryptionKey, hinner, hchain⟩, hnonces, hseals⟩ := hcounted
    obtain ⟨sessionKey, hkey, hderive⟩ : ∃ sessionKey, sessionKeyEvent sessionKey ∈ es ∧
        deriveSmb3EncryptionKey sessionKey state.negotiated.dialect .clientToServer = .ok key := by
      rw [hchain] at hstacked
      rcases hstacked with (hraw | ⟨signingKey, hsigned⟩) |
        ⟨_, _, _, sessionKey, hlayers, -, hkey, hderive⟩
      · cases hraw
      · cases hsigned
      · injection hlayers with _ hsame
        rw [hsame]
        exact ⟨sessionKey, hkey, hderive⟩
    refine .inr ⟨sessionKey, key, hkey, hderive, hseals, fun log hlog hfew => ?_⟩
    rw [hchain] at hlog
    obtain ⟨hnumbers, hsealed⟩ := exchanges_numbered hinner hlog
    -- each number of the connect belongs to a frame of its own
    have hcount : count ≤ (rawFrames es).length := by
      calc count = (firstNonces count).length := by rw [firstNonces, List.length_map,
              List.length_range]
        _ = (transformNonces (rawFrames es)).length := by rw [hnonces]
        _ ≤ (rawFrames es).length := List.length_filterMap_le ..
    have hall : (transformNonces (rawFrames es) ++
        log.map fun x => ccmNonce x.before.nonceCounter).Nodup := by
      rw [hnonces, hnumbers, ← firstNonces_add]
      exact nodup_firstNonces (by omega)
    refine ⟨hall, ?_, hsealed⟩
    rw [transformNonces, List.filterMap_append, ← transformNonces, ← transformNonces]
    exact ((sublist_transformNonces hsealed).append_left _).nodup hall

open ShareConnection in
/-- The connect that the share makes encrypt, and the first request after it. -/
theorem nonces_nodup_close :
    ∃ es log, Exchanges ShareConnection.chain log ∧ log.length = 1 ∧
      (transformNonces (rawFrames es) ++
        log.map fun x => ccmNonce x.before.nonceCounter).Nodup := by
  obtain ⟨es, hconnect, -, -, hlength⟩ := ShareConnection.runs_connect
  obtain ⟨encrypted, payload, raw, events, r, chain', -, -, -, hrun, -⟩ := runs_close
  have hframe : encodeDirectTcpFrame closeMessage = .ok (framed closeMessage) :=
    encodeDirectTcpFrame_framed (by decide)
  have hlog : Exchanges ShareConnection.chain [⟨framed closeMessage, _, events⟩] :=
    .cons hframe hrun (.nil chain')
  rcases nonces_nodup hconnect with ⟨hplain, -⟩ | ⟨sessionKey, key, -, -, -, hall⟩
  · cases hplain
  · exact ⟨es, _, hlog, rfl, (hall _ hlog (by rw [hlength, List.length_singleton]; decide)).1⟩

end SmbBrowser.Native
