import SmbBrowser.Crypto.Md
import SmbBrowser.Native.NtlmCrypto
import SmbBrowser.Native.SpnegoRoundTrip
import SmbBrowser.Native.TargetInfo
import SmbBrowser.Native.Transports

/-!
# The NTLMv2 token provider

Model of native_smb/NtlmV2TokenProvider.cpp: the tokens of SESSION_SETUP for the
modes of authentication, and the session base key they leave.  What the random
source and the clock give is an input.
-/

namespace SmbBrowser.Native

open SmbBrowser.Base

def kNtlmNegotiateUnicode : UInt32 := 0x00000001
def kNtlmNegotiateNtlm : UInt32 := 0x00000200
def kNtlmNegotiateExtendedSessionSecurity : UInt32 := 0x00080000
def kNtlmNegotiateVersion : UInt32 := 0x02000000
def kNtlmNegotiateKeyExchange : UInt32 := 0x40000000

/-- `NtlmV2TokenProviderOptions` (NtlmV2TokenProvider.h:18); the two generators are in
    `TokenSources`. -/
structure NtlmV2TokenProviderOptions where
  workstation : ByteVector := []
  negotiateFlags : UInt32 := 0x00000001 ||| 0x00000004 ||| 0x00000010 ||| 0x00000020 |||
    0x00000200 ||| 0x00008000 ||| 0x00080000 ||| 0x00800000 ||| 0x02000000 ||| 0x20000000 |||
    0x80000000
  useServerTimestamp : Bool := true
  omitLmResponse : Bool := false
  useSpnego : Bool := true
  fixedClientChallenge : Option (Vector UInt8 8) := none
  fixedTimestamp : Option UInt64 := none

/-- What `clientChallengeGenerator` or the random source, and `timestampProvider` or the
    clock, answer in one call. -/
structure TokenSources where
  clientChallenge : Vector UInt8 8
  timestamp : UInt64

/-- The fields of `ConnectionConfig` (SmbNative.h:47) that the provider reads. -/
structure IdentityConfig where
  authMode : AuthMode := .password
  domain : ByteVector := []
  username : ByteVector := []

/-- `NtlmV2TokenProvider` (NtlmV2TokenProvider.h:35). -/
structure NtlmV2TokenProvider where
  password : ByteVector
  options : NtlmV2TokenProviderOptions := {}
  lastNegotiateMessage : ByteVector := []
  sessionBaseKey : Digest16 := Vector.replicate 16 0

/-- How a call ends without a result: a read outside a string, or an exception. -/
inductive TokenStop where
  | fault (fault : Fault)
  | thrown (exn : Exn)
  deriving DecidableEq

/-- `AuthIdentity` (NtlmV2TokenProvider.cpp:118). -/
structure AuthIdentity where
  domain : ByteVector
  username : ByteVector
  anonymous : Bool
  deriving DecidableEq

/-- Model of `authIdentityFromConfig` (NtlmV2TokenProvider.cpp:124). -/
def authIdentityFromConfig (config : IdentityConfig) : DecodeResult AuthIdentity :=
  match config.authMode with
  | .password => .ok ⟨config.domain, config.username, false⟩
  | .guest =>
    .ok ⟨config.domain, if config.username = [] then ascii "Guest" else config.username, false⟩
  | .anonymous => .ok ⟨[], [], true⟩
  | .currentUser =>
    failure .unsupportedCapability ("Current-user/Kerberos authentication is not implemented by " ++
      "the clean-room native SMB engine yet.")

/-- Model of `authFlagsForChallenge` (NtlmV2TokenProvider.cpp:106). -/
def authFlagsForChallenge (challengeFlags requestedFlags : UInt32) : UInt32 :=
  ((challengeFlags &&& requestedFlags) ||| kNtlmNegotiateUnicode ||| kNtlmNegotiateNtlm |||
    kNtlmNegotiateExtendedSessionSecurity) &&& ~~~kNtlmNegotiateKeyExchange

/-- Model of `clientChallengeFromOptions` (NtlmV2TokenProvider.cpp:85). -/
def clientChallengeFromOptions (options : NtlmV2TokenProviderOptions) (sources : TokenSources) :
    Vector UInt8 8 :=
  options.fixedClientChallenge.getD sources.clientChallenge

/-- Model of `timestampFromOptions` (NtlmV2TokenProvider.cpp:96). -/
def timestampFromOptions (options : NtlmV2TokenProviderOptions) (sources : TokenSources) :
    UInt64 :=
  options.fixedTimestamp.getD sources.timestamp

/-- The time of a response: the server's if it is wanted and sent. -/
def responseTimestamp (options : NtlmV2TokenProviderOptions) (sources : TokenSources)
    (targetTimestamp : Option UInt64) : UInt64 :=
  if options.useServerTimestamp then targetTimestamp.getD (timestampFromOptions options sources)
  else timestampFromOptions options sources

namespace NtlmV2TokenProvider

/-- The result of a call and the provider after it. -/
abbrev Outcome (α : Type) := Except TokenStop (DecodeResult α) × NtlmV2TokenProvider

/-- Model of `initialToken` (NtlmV2TokenProvider.cpp:157). -/
def initialToken (provider : NtlmV2TokenProvider) (config : IdentityConfig) :
    Outcome ByteVector :=
  match authIdentityFromConfig config with
  | .error e => (.ok (failureFrom e), provider)
  | .ok identity =>
    match buildNtlmNegotiateMessage {
        domain := identity.domain
        workstation := provider.options.workstation
        flags := provider.options.negotiateFlags } with
    | .error exn => (.error (.thrown exn), provider)
    | .ok message =>
      (.ok (.ok (if provider.options.useSpnego then buildSpnegoNegTokenInit message else message)),
        { provider with lastNegotiateMessage := message })

/-- The AUTHENTICATE message of an identity, without its responses. -/
def authenticateOptions (provider : NtlmV2TokenProvider) (identity : AuthIdentity)
    (challengeFlags : UInt32) : NtlmAuthenticateOptions :=
  let flags := authFlagsForChallenge challengeFlags provider.options.negotiateFlags
  { domain := identity.domain
    username := identity.username
    workstation := provider.options.workstation
    flags
    includeVersion := flags &&& kNtlmNegotiateVersion ≠ 0 }

/-- The end of `nextToken`: the message is built and wrapped. -/
def finish (provider : NtlmV2TokenProvider) (auth : NtlmAuthenticateOptions) :
    Outcome ByteVector :=
  match buildNtlmAuthenticateMessage auth with
  | .error exn => (.error (.thrown exn), provider)
  | .ok token =>
    (.ok (.ok (if provider.options.useSpnego then buildSpnegoNegTokenResp token else token)),
      provider)

/-- The answer to a decoded challenge (NtlmV2TokenProvider.cpp:197–243). -/
def answer (provider : NtlmV2TokenProvider) (sources : TokenSources)
    (challenge : NtlmChallengeMessage) (config : IdentityConfig) : Outcome ByteVector :=
  match timestampFromTargetInfo challenge.targetInfo with
  | .error e => (.ok (failureFrom e), provider)
  | .ok targetTimestamp =>
    match authIdentityFromConfig config with
    | .error e => (.ok (failureFrom e), provider)
    | .ok identity =>
      let auth := provider.authenticateOptions identity challenge.flags
      if identity.anonymous then
        provider.finish { auth with lmChallengeResponse := [0] }
      else
        match computeNtlmV2Response md4 hmacMd5 provider.password identity.username identity.domain
            challenge.serverChallenge (clientChallengeFromOptions provider.options sources)
            (responseTimestamp provider.options sources targetTimestamp) challenge.targetInfo with
        | .error exn => (.error (.thrown exn), provider)
        | .ok (.error e) => (.ok (failureFrom e), provider)
        | .ok (.ok response) =>
          finish { provider with sessionBaseKey := response.sessionBaseKey } {
            auth with
            ntChallengeResponse := response.ntChallengeResponse
            lmChallengeResponse :=
              if provider.options.omitLmResponse then [] else response.lmChallengeResponse }

/-- Model of `nextToken` (NtlmV2TokenProvider.cpp:176). -/
def nextToken (provider : NtlmV2TokenProvider) (sources : TokenSources)
    (challenge : SessionSetupResponse) (config : IdentityConfig) : Outcome ByteVector :=
  let challengeToken :=
    if provider.options.useSpnego then unwrapSpnegoNtlmToken challenge.securityBuffer
    else .ok (.ok challenge.securityBuffer)
  match challengeToken with
  | .error fault => (.error (.fault fault), provider)
  | .ok (.error e) => (.ok (failureFrom e), provider)
  | .ok (.ok token) =>
    if ¬ startsWithNtlmSignature token then
      (.ok (failure .protocolUnsupported
        "NTLMv2 token provider received a non-NTLMSSP challenge token."), provider)
    else
      match decodeNtlmChallengeMessage token with
      | .error e => (.ok (failureFrom e), provider)
      | .ok decoded => provider.answer sources decoded config

/-- Model of `sessionBaseKey` (NtlmV2TokenProvider.cpp:250). -/
def sessionBaseKeyResult (provider : NtlmV2TokenProvider) : DecodeResult ByteVector :=
  if provider.sessionBaseKey.toList.any (· ≠ 0) then .ok provider.sessionBaseKey.toList
  else failure .authenticationFailed
    "NTLMv2 session base key is not available before authentication."

end NtlmV2TokenProvider

end SmbBrowser.Native
