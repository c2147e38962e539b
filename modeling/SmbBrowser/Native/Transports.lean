import SmbBrowser.Base.Program
import SmbBrowser.Native.Encryption

/-!
# The transport chain

The transports a connection stacks on the raw one: `SigningTransport`
(native_smb/Smb2Signing.cpp) and `Smb3EncryptionTransport`
(native_smb/Smb3Encryption.cpp).  Programs over the interface `Link` talk to the
raw transport and to the token provider.

Results:
* `TransportChain.layers_exchange`: an exchange changes nothing but the nonce
  counters;
* `rawFrames_of_encryption`: what the raw transport is handed by an
  encrypting transport over a signing one.
-/

namespace SmbBrowser.Native

open SmbBrowser.Base

/-! ## The interface -/

/-- `NegotiatedConnection` (Negotiator.h:8). -/
structure NegotiatedConnection where
  dialect : Dialect := .smb202
  signingRequired : Bool := false
  encryptionSupported : Bool := false
  capabilities : UInt32 := 0
  maxReadSize : UInt32 := 0
  maxWriteSize : UInt32 := 0
  securityBuffer : ByteVector := []
  preauthIntegrityHash : ByteVector := []
  deriving DecidableEq

/-- The questions of the connector: an exchange of the raw transport, the
    cancellation token, and the methods of `SessionSetupTokenProvider`. -/
inductive LinkOp where
  | exchange (frame : ByteVector) (context : OperationContext)
  | isCancelled
  | initialToken (negotiated : NegotiatedConnection)
  | nextToken (challenge : SessionSetupResponse)
  | sessionBaseKey

/-- The answers. -/
abbrev Link : Interface where
  Op := LinkOp
  Ans
    | .exchange .. => DecodeResult ByteVector
    | .isCancelled => Bool
    | .initialToken _ => DecodeResult ByteVector
    | .nextToken _ => DecodeResult ByteVector
    | .sessionBaseKey => DecodeResult ByteVector

/-- The frames handed to the raw transport. -/
def rawFrames : List (Event Link) → List ByteVector
  | [] => []
  | ⟨.exchange frame _, _⟩ :: es => frame :: rawFrames es
  | _ :: es => rawFrames es

theorem rawFrames_append (es es' : List (Event Link)) :
    rawFrames (es ++ es') = rawFrames es ++ rawFrames es' := by
  induction es with
  | nil => rfl
  | cons e es ih =>
    obtain ⟨op, ans⟩ := e
    cases op with
    | exchange frame context => exact congrArg (frame :: ·) ih
    | _ => exact ih

/-! ## Transports -/

/-- A raw transport and the transports around it with their fields. -/
inductive TransportChain where
  | raw
  | signing (inner : TransportChain) (sessionKey : ByteVector) (dialect : Dialect)
      (verifyResponses : Bool)
  | encryption (inner : TransportChain) (encryptionKey decryptionKey : ByteVector)
      (sessionId : UInt64) (dialect : Dialect) (nonceCounter : UInt64)
  deriving DecidableEq

/-- Model of `Smb3EncryptionTransport::nextNonce` (Smb3Encryption.cpp:476). -/
def nextNonce (nonceCounter : UInt64) : Nonce16 := .ofFn fun i => (u64Le nonceCounter).getD i 0

/-- What `SigningTransport::exchange` makes of the reply (Smb2Signing.cpp:727). -/
def checkSignedReply (verifyResponses : Bool) (signedRequest sessionKey : ByteVector)
    (dialect : Dialect) (response : DecodeResult ByteVector) : DecodeResult ByteVector :=
  match response with
  | .error e => .error e
  | .ok reply =>
    if ¬ verifyResponses then
      .ok reply
    else
      match verifySmb2DirectTcpFrameSignature reply sessionKey dialect with
      | .error e => failureFrom e
      | .ok false =>
        failure .protocolUnsupported
          (describeSignatureVerificationFailure signedRequest reply dialect)
      | .ok true => .ok reply

namespace TransportChain

/-- Models of `SigningTransport::exchange` (Smb2Signing.cpp:727) and
    `Smb3EncryptionTransport::exchange` (Smb3Encryption.cpp:467).  The chain is
    returned with its counters, also after an exception. -/
def exchange : TransportChain → ByteVector → OperationContext →
    Program Link (Except Exn (DecodeResult ByteVector) × TransportChain)
  | raw, frame, context =>
    .ask (.exchange frame context) fun response => .pure (.ok response, raw)
  | signing inner sessionKey dialect verifyResponses, frame, context =>
    match signSmb2DirectTcpFrame frame sessionKey dialect with
    | .error e => .pure (.error e, signing inner sessionKey dialect verifyResponses)
    | .ok (.error e) => .pure (.ok (.error e), signing inner sessionKey dialect verifyResponses)
    | .ok (.ok signedRequest) =>
      (inner.exchange signedRequest context).bind fun r =>
        .pure (checkSignedReply verifyResponses signedRequest sessionKey dialect <$> r.1,
          signing r.2 sessionKey dialect verifyResponses)
  | encryption inner encryptionKey decryptionKey sessionId dialect nonceCounter, frame, context =>
    let nonce := nextNonce nonceCounter
    match encryptSmb3DirectTcpFrame frame encryptionKey sessionId nonce dialect with
    | .error e =>
      .pure (.error e,
        encryption inner encryptionKey decryptionKey sessionId dialect (nonceCounter + 1))
    | .ok (.error e) =>
      .pure (.ok (.error e),
        encryption inner encryptionKey decryptionKey sessionId dialect (nonceCounter + 1))
    | .ok (.ok encryptedRequest) =>
      (inner.exchange encryptedRequest context).bind fun r =>
        .pure (r.1 >>= fun response => match response with
            | .error e => .ok (.error e)
            | .ok reply => decryptSmb3DirectTcpFrame reply decryptionKey sessionId dialect,
          encryption r.2 encryptionKey decryptionKey sessionId dialect (nonceCounter + 1))

/-- The chain with its nonce counters set back. -/
def layers : TransportChain → TransportChain
  | raw => raw
  | signing inner sessionKey dialect verifyResponses =>
    signing inner.layers sessionKey dialect verifyResponses
  | encryption inner encryptionKey decryptionKey sessionId dialect _ =>
    encryption inner.layers encryptionKey decryptionKey sessionId dialect 0

/-- Whether the chain contains a `SigningTransport`. -/
def hasSigning : TransportChain → Bool
  | raw => false
  | signing .. => true
  | encryption inner .. => inner.hasSigning

/-- Whether the chain contains an `Smb3EncryptionTransport`. -/
def hasEncryption : TransportChain → Bool
  | raw => false
  | signing inner .. => inner.hasEncryption
  | encryption .. => true

/-- The counter the next request of the outermost encrypting transport takes its
    nonce from. -/
def nonceCounter : TransportChain → UInt64
  | raw => 0
  | signing inner .. => inner.nonceCounter
  | encryption _ _ _ _ _ counter => counter

/-- An exchange changes nothing but the nonce counters. -/
theorem layers_exchange {chain chain' : TransportChain} {frame : ByteVector}
    {context : OperationContext} {es : List (Event Link)}
    {r : Except Exn (DecodeResult ByteVector)}
    (h : Program.Runs (chain.exchange frame context) es (r, chain')) :
    chain'.layers = chain.layers := by
  induction chain generalizing chain' frame es r with
  | raw =>
    obtain ⟨response, rest, -, h⟩ := Program.runs_ask.1 h
    obtain ⟨-, h⟩ := Program.runs_pure.1 h
    cases h
    rfl
  | signing inner sessionKey dialect verifyResponses ih =>
    rw [exchange] at h
    split at h
    · obtain ⟨-, h⟩ := Program.runs_pure.1 h
      cases h
      rfl
    · obtain ⟨-, h⟩ := Program.runs_pure.1 h
      cases h
      rfl
    · obtain ⟨es₁, r₁, es₂, -, hinner, h⟩ := Program.runs_bind.1 h
      obtain ⟨-, h⟩ := Program.runs_pure.1 h
      cases h
      rw [layers, layers, ih hinner]
  | encryption inner encryptionKey decryptionKey sessionId dialect counter ih =>
    rw [exchange] at h
    split at h
    · obtain ⟨-, h⟩ := Program.runs_pure.1 h
      cases h
      rfl
    · obtain ⟨-, h⟩ := Program.runs_pure.1 h
      cases h
      rfl
    · obtain ⟨es₁, r₁, es₂, -, hinner, h⟩ := Program.runs_bind.1 h
      obtain ⟨-, h⟩ := Program.runs_pure.1 h
      cases h
      rw [layers, layers, ih hinner]

end TransportChain

/-! ## Signing over the raw transport, encryption over both -/

section

variable {signingKey encryptionKey decryptionKey frame : ByteVector} {dialect dialect' : Dialect}
  {sessionId : UInt64} {counter : UInt64} {verify : Bool} {context : OperationContext}
  {es : List (Event Link)} {r : Except Exn (DecodeResult ByteVector)} {chain' : TransportChain}

/-- A signing transport hands the signed frame to the raw one, or nothing. -/
theorem rawFrames_of_signing
    (h : Program.Runs
      ((TransportChain.signing .raw signingKey dialect verify).exchange frame context) es
      (r, chain')) {raw : ByteVector} (hraw : raw ∈ rawFrames es) :
    signSmb2DirectTcpFrame frame signingKey dialect = .ok (.ok raw) := by
  rw [TransportChain.exchange] at h
  split at h
  · obtain ⟨rfl, -⟩ := Program.runs_pure.1 h
    cases hraw
  · obtain ⟨rfl, -⟩ := Program.runs_pure.1 h
    cases hraw
  · rename_i signed hsigned
    obtain ⟨es₁, r₁, es₂, rfl, hinner, hend⟩ := Program.runs_bind.1 h
    obtain ⟨rfl, -⟩ := Program.runs_pure.1 hend
    obtain ⟨response, rest, rfl, hrest⟩ := Program.runs_ask.1 hinner
    obtain ⟨rfl, -⟩ := Program.runs_pure.1 hrest
    obtain rfl : raw = signed := List.mem_singleton.1 hraw
    exact hsigned

/-- An encrypting transport over a signing one hands the frame encrypted and then
    signed to the raw transport, or nothing. -/
theorem rawFrames_of_encryption
    (h : Program.Runs ((TransportChain.encryption (.signing .raw signingKey dialect' verify)
      encryptionKey decryptionKey sessionId dialect counter).exchange frame context) es
      (r, chain')) {raw : ByteVector} (hraw : raw ∈ rawFrames es) :
    ∃ encrypted,
      encryptSmb3DirectTcpFrame frame encryptionKey sessionId (nextNonce counter) dialect =
        .ok (.ok encrypted) ∧
      signSmb2DirectTcpFrame encrypted signingKey dialect' = .ok (.ok raw) := by
  rw [TransportChain.exchange] at h
  split at h
  · obtain ⟨rfl, -⟩ := Program.runs_pure.1 h
    cases hraw
  · obtain ⟨rfl, -⟩ := Program.runs_pure.1 h
    cases hraw
  · rename_i encrypted hencrypted
    obtain ⟨es₁, r₁, es₂, rfl, hinner, hend⟩ := Program.runs_bind.1 h
    obtain ⟨rfl, -⟩ := Program.runs_pure.1 hend
    rw [List.append_nil] at hraw
    exact ⟨encrypted, hencrypted, rawFrames_of_signing hinner hraw⟩

end

end SmbBrowser.Native
