import SmbBrowser.Native.Requests

/-!
# The negotiate contexts of a NEGOTIATE request

`buildNegotiateRequest` computes the offset of the contexts before the dialects
and the padding in front of them are appended.  A reader starts at that offset
and walks as many contexts as the count says, each padded to 8 bytes.

Results:
* `readNegotiateContext_append`: reading back one appended context;
* `length_appendPadding`: padding goes up to the next multiple;
* `buildNegotiateRequest_contexts`: the walk finds what was appended and ends
  with the message.
-/

namespace SmbBrowser.Native

open SmbBrowser.Base

/-! ## Walking contexts -/

/-- A negotiate context as a reader sees it. -/
structure NegotiateContext where
  type : UInt16
  data : ByteVector
  deriving DecidableEq

/-- One context and the offset behind its padding. -/
def readNegotiateContext (message : ByteVector) (offset : ℕ) :
    DecodeResult (NegotiateContext × ℕ) := do
  let type ← readU16Le message offset
  let length ← readU16Le message (offset + 2)
  let data ← readBytes message (offset + 8) length.toNat
  return ({ type, data }, (offset + 8 + length.toNat + 7) / 8 * 8)

/-- `count` contexts from `offset` on and the offset behind the last of them. -/
def walkNegotiateContexts (message : ByteVector) :
    ℕ → ℕ → DecodeResult (List NegotiateContext × ℕ)
  | 0, offset => return ([], offset)
  | count + 1, offset => do
    let parsed ← readNegotiateContext message offset
    let rest ← walkNegotiateContexts message count parsed.2
    return (parsed.1 :: rest.1, rest.2)

/-- The preauthentication integrity context: SHA-512 and a salt made of the
    client GUID twice. -/
def preauthIntegrityContext (clientGuid : Vector UInt8 16) : NegotiateContext where
  type := 0x0001
  data := [1, 0, 32, 0, 1, 0] ++ clientGuid.toList ++ clientGuid.toList

/-- The encryption context: AES-128-CCM only. -/
def encryptionContext : NegotiateContext where
  type := 0x0002
  data := [1, 0, 1, 0]

/-! ## Fields behind a known part -/

theorem readBytes_behind {a b : ByteVector} (rest : ByteVector) {off : ℕ} (h : a.length = off) :
    readBytes (a ++ (b ++ rest)) off b.length = .ok b := by
  rw [readBytes_skip _ (le_of_eq h), h, Nat.sub_self, readBytes_here _ rfl]

theorem readU16Le_behind {a : ByteVector} (v : UInt16) (rest : ByteVector) {off : ℕ}
    (h : a.length = off) : readU16Le (a ++ (u16Le v ++ rest)) off = .ok v := by
  have hread := readBytes_behind (b := u16Le v) rest h
  rw [length_u16Le] at hread
  rw [readU16Le, hread]
  exact congrArg Except.ok (ofNat_leValue_u16Le v)

theorem readU32Le_behind {a : ByteVector} (v : UInt32) (rest : ByteVector) {off : ℕ}
    (h : a.length = off) : readU32Le (a ++ (u32Le v ++ rest)) off = .ok v := by
  have hread := readBytes_behind (b := u32Le v) rest h
  rw [length_u32Le] at hread
  rw [readU32Le, hread]
  exact congrArg Except.ok (ofNat_leValue_u32Le v)

/-! ## Padding and one context -/

theorem length_appendPadding (bytes : ByteVector) :
    (appendPadding bytes 8).length = (bytes.length + 7) / 8 * 8 := by
  rw [appendPadding, List.length_append, List.length_replicate]
  omega

/-- The bytes one context takes behind an aligned message. -/
def contextBytes (context : NegotiateContext) : ByteVector :=
  u16Le context.type ++ (u16Le (UInt16.ofNat context.data.length) ++ (u32Le 0 ++
    (context.data ++ List.replicate ((8 - context.data.length % 8) % 8) 0)))

theorem length_contextBytes (context : NegotiateContext) :
    (contextBytes context).length = (8 + context.data.length + 7) / 8 * 8 := by
  simp only [contextBytes, List.length_append, length_u16Le, length_u32Le, List.length_replicate]
  omega

theorem appendNegotiateContext_eq {bytes : ByteVector} (h : bytes.length % 8 = 0)
    (context : NegotiateContext) :
    appendNegotiateContext bytes context.type context.data = bytes ++ contextBytes context := by
  have hpad : (8 - (bytes.length + (2 + (2 + (4 + context.data.length)))) % 8) % 8 =
      (8 - context.data.length % 8) % 8 := by omega
  simp only [appendNegotiateContext, appendPadding, contextBytes, List.append_assoc,
    List.length_append, length_u16Le, length_u32Le, hpad]

/-- Reading back one appended context, whatever follows it. -/
theorem readNegotiateContext_append {message : ByteVector} (rest : ByteVector)
    {context : NegotiateContext} (halign : message.length % 8 = 0)
    (hlen : context.data.length < 2 ^ 16) :
    readNegotiateContext (message ++ (contextBytes context ++ rest)) message.length =
      .ok (context, message.length + (contextBytes context).length) := by
  have hnat : (UInt16.ofNat context.data.length).toNat = context.data.length :=
    UInt16.toNat_ofNat_of_lt hlen
  have hend : (message.length + 8 + context.data.length + 7) / 8 * 8 =
      message.length + (contextBytes context).length := by
    rw [length_contextBytes]
    omega
  have htype : readU16Le (message ++ (contextBytes context ++ rest)) message.length =
      .ok context.type := by
    simp only [contextBytes, List.append_assoc]
    exact readU16Le_behind _ _ rfl
  have hlength : readU16Le (message ++ (contextBytes context ++ rest)) (message.length + 2) =
      .ok (UInt16.ofNat context.data.length) := by
    simp only [contextBytes, List.append_assoc]
    rw [← List.append_assoc message]
    exact readU16Le_behind _ _ (by simp)
  have hdata : readBytes (message ++ (contextBytes context ++ rest)) (message.length + 8)
      context.data.length = .ok context.data := by
    simp only [contextBytes, List.append_assoc]
    rw [← List.append_assoc message, ← List.append_assoc (message ++ _),
      ← List.append_assoc (message ++ _ ++ _)]
    exact readBytes_behind _ (by simp)
  rw [readNegotiateContext, htype, hlength]
  simp only [Bind.bind, Except.bind, hnat, hdata, hend, Pure.pure, Except.pure]

/-! ## The request -/

/-- The contexts a request carries. -/
def negotiateContexts (options : NegotiateRequestOptions) : List NegotiateContext :=
  if options.capabilities &&& kCapabilityEncryption ≠ 0 then
    [preauthIntegrityContext options.clientGuid, encryptionContext]
  else [preauthIntegrityContext options.clientGuid]

/-- What is promised about the contexts of a request: with SMB 3.1.1 the walk from
    the stored offset over the stored count finds them and ends with the message,
    behind the dialects; without it there are none. -/
def ContextsPlaced (options : NegotiateRequestOptions) (message : ByteVector) : Prop :=
  ∃ (contextOffset : UInt32) (contextCount : UInt16),
    readU32Le message 92 = .ok contextOffset ∧ readU16Le message 96 = .ok contextCount ∧
    readBytes message 100 (2 * options.dialects.length) =
      .ok (options.dialects.flatMap fun dialect => u16Le dialect.code) ∧
    if Dialect.smb311 ∈ options.dialects then
      100 + 2 * options.dialects.length ≤ contextOffset.toNat ∧
      walkNegotiateContexts message contextCount.toNat contextOffset.toNat =
        .ok (negotiateContexts options, message.length)
    else contextOffset = 0 ∧ contextCount = 0 ∧ message.length = 100 + 2 * options.dialects.length

/-- The walk over contexts behind an aligned message finds them all and ends
    behind the last. -/
theorem walkNegotiateContexts_append {contexts : List NegotiateContext} :
    ∀ {message : ByteVector}, message.length % 8 = 0 →
      (∀ context ∈ contexts, context.data.length < 2 ^ 16) →
        walkNegotiateContexts (message ++ contexts.flatMap contextBytes) contexts.length
          message.length =
            .ok (contexts, (message ++ contexts.flatMap contextBytes).length) := by
  induction contexts with
  | nil =>
    intro message _ _
    simp only [List.flatMap_nil, List.append_nil, List.length_nil, walkNegotiateContexts]
    rfl
  | cons context contexts ih =>
    intro message halign hlen
    have hread := readNegotiateContext_append (contexts.flatMap contextBytes) halign
      (hlen context List.mem_cons_self)
    have hnext : (message ++ contextBytes context).length % 8 = 0 := by
      rw [List.length_append, length_contextBytes]
      omega
    have hrest := ih hnext (fun other hother => hlen other (List.mem_cons_of_mem _ hother))
    rw [List.append_assoc, List.length_append] at hrest
    rw [List.flatMap_cons, List.length_cons, walkNegotiateContexts, hread]
    simp only [Bind.bind, Except.bind, hrest, Pure.pure, Except.pure]

/-- The fixed part of the request up to the offset of the contexts. -/
def negotiateFront (options : NegotiateRequestOptions) (messageId : ℕ) : ByteVector :=
  encodeSmb2SyncHeader { command := .negotiate, messageId := UInt64.ofNat messageId } ++
    (u16Le 36 ++ u16Le (UInt16.ofNat options.dialects.length) ++
    u16Le (securityModeForPolicy options.signing) ++ u16Le 0 ++ u32Le options.capabilities ++
    options.clientGuid.toList)

theorem length_negotiateFront (options : NegotiateRequestOptions) (messageId : ℕ) :
    (negotiateFront options messageId).length = 92 := by
  simp [negotiateFront]

/-- The fixed part and the dialects. -/
def negotiateFixed (options : NegotiateRequestOptions) (messageId : ℕ) (contextCount : UInt16) :
    ByteVector :=
  negotiateFront options messageId ++ (u32Le (negotiateContextOffset options.dialects) ++
    (u16Le contextCount ++ (u16Le 0 ++ options.dialects.flatMap fun dialect =>
      u16Le dialect.code)))

theorem length_dialectBytes (dialects : List Dialect) :
    (dialects.flatMap fun dialect => u16Le dialect.code).length = 2 * dialects.length := by
  induction dialects with
  | nil => rfl
  | cons dialect dialects ih =>
    rw [List.flatMap_cons, List.length_append, ih, length_u16Le, List.length_cons]
    omega

theorem length_negotiateFixed (options : NegotiateRequestOptions) (messageId : ℕ)
    (contextCount : UInt16) :
    (negotiateFixed options messageId contextCount).length = 100 + 2 * options.dialects.length := by
  simp only [negotiateFixed, List.length_append, length_negotiateFront, length_u32Le,
    length_u16Le, length_dialectBytes]
  omega

/-- The fields of the fixed part, whatever follows it. -/
theorem negotiateFixed_fields (options : NegotiateRequestOptions) (messageId : ℕ)
    (contextCount : UInt16) (rest : ByteVector) :
    readU32Le (negotiateFixed options messageId contextCount ++ rest) 92 =
        .ok (negotiateContextOffset options.dialects) ∧
      readU16Le (negotiateFixed options messageId contextCount ++ rest) 96 = .ok contextCount ∧
      readBytes (negotiateFixed options messageId contextCount ++ rest) 100
        (2 * options.dialects.length) =
          .ok (options.dialects.flatMap fun dialect => u16Le dialect.code) := by
  have hfront := length_negotiateFront options messageId
  simp only [negotiateFixed, List.append_assoc]
  refine ⟨?_, ?_, ?_⟩
  · exact readU32Le_behind _ _ hfront
  · rw [← List.append_assoc (negotiateFront options messageId)]
    exact readU16Le_behind _ _ (by simp [hfront])
  · rw [← List.append_assoc (negotiateFront options messageId), ← List.append_assoc (_ ++ _),
      ← List.append_assoc (_ ++ _), ← length_dialectBytes]
    exact readBytes_behind _ (by simp [hfront])

theorem length_data_negotiateContexts {options : NegotiateRequestOptions}
    {context : NegotiateContext} (h : context ∈ negotiateContexts options) :
    context.data.length < 2 ^ 16 := by
  have hpreauth : (preauthIntegrityContext options.clientGuid).data.length = 38 := by
    simp [preauthIntegrityContext]
  have hencryption : encryptionContext.data.length = 4 := rfl
  rw [negotiateContexts] at h
  split at h
  · simp only [List.mem_cons, List.not_mem_nil, or_false] at h
    rcases h with rfl | rfl <;> omega
  · rw [List.mem_singleton] at h
    rw [h, hpreauth]
    omega

/-- The count written for the contexts of a request. -/
theorem contextCount_eq (options : NegotiateRequestOptions) :
    ((if options.capabilities &&& kCapabilityEncryption ≠ 0 then 2 else 1 : UInt16)).toNat =
      (negotiateContexts options).length := by
  rw [negotiateContexts]
  split <;> rfl

/-- The contexts appended one after the other. -/
theorem appendNegotiateContexts_eq (options : NegotiateRequestOptions) {bytes : ByteVector}
    (h : bytes.length % 8 = 0) :
    (if options.capabilities &&& kCapabilityEncryption ≠ 0 then
      appendNegotiateContext (appendNegotiateContext bytes 0x0001
        (buildPreauthIntegrityContext options.clientGuid)) 0x0002
          buildEncryptionCapabilitiesContext
    else appendNegotiateContext bytes 0x0001 (buildPreauthIntegrityContext options.clientGuid)) =
      bytes ++ (negotiateContexts options).flatMap contextBytes := by
  have hdata : buildPreauthIntegrityContext options.clientGuid =
      (preauthIntegrityContext options.clientGuid).data := by
    have hsalt : (options.clientGuid.toList ++ options.clientGuid.toList).length = 32 := by simp
    rw [buildPreauthIntegrityContext, preauthIntegrityContext, hsalt, ← List.append_assoc]
    rfl
  have hpreauth := appendNegotiateContext_eq h (preauthIntegrityContext options.clientGuid)
  have halign : (bytes ++ contextBytes (preauthIntegrityContext options.clientGuid)).length % 8 =
      0 := by
    rw [List.length_append, length_contextBytes]
    omega
  have hencryption := appendNegotiateContext_eq halign encryptionContext
  have htype : (preauthIntegrityContext options.clientGuid).type = 0x0001 := rfl
  rw [htype, ← hdata] at hpreauth
  rw [hpreauth, negotiateContexts]
  split
  · rw [List.flatMap_cons, List.flatMap_singleton, ← List.append_assoc]
    exact hencryption
  · rw [List.flatMap_singleton]

/-- The request with and without SMB 3.1.1. -/
theorem buildNegotiateRequest_eq {options : NegotiateRequestOptions} (messageId : ℕ)
    (hpos : 1 ≤ options.dialects.length) (hmax : options.dialects.length ≤ 65535) :
    buildNegotiateRequest options messageId =
      .ok (if Dialect.smb311 ∈ options.dialects then
        appendPadding (negotiateFixed options messageId
          (if options.capabilities &&& kCapabilityEncryption ≠ 0 then 2 else 1)) 8 ++
            (negotiateContexts options).flatMap contextBytes
      else negotiateFixed options messageId 0) := by
  have hne : ¬ options.dialects = [] := List.length_pos_iff.1 hpos
  have hsize : decide (options.dialects.length > u16Max) = false := by
    rw [decide_eq_false_iff_not, u16Max]
    omega
  rw [buildNegotiateRequest, if_neg hne]
  simp only [hsize, throwWhen_false, Bind.bind, Except.bind]
  by_cases h311 : Dialect.smb311 ∈ options.dialects
  · have halign : (appendPadding (negotiateFixed options messageId
        (if options.capabilities &&& kCapabilityEncryption ≠ 0 then 2 else 1)) 8).length % 8 = 0 := by
      rw [length_appendPadding]
      omega
    have happend := appendNegotiateContexts_eq options halign
    rw [← happend]
    simp only [h311, negotiateFixed, negotiateFront, List.append_assoc, decide_true, if_true,
      decide_eq_true_eq]
    rfl
  · simp only [h311, negotiateFixed, negotiateFront, List.append_assoc, decide_false, if_false,
      Bool.false_eq_true]
    rfl

/-- **The contexts of a NEGOTIATE request are where it says**, for every list of
    1 to 65535 dialects. -/
theorem buildNegotiateRequest_contexts {options : NegotiateRequestOptions} (messageId : ℕ)
    (hpos : 1 ≤ options.dialects.length) (hmax : options.dialects.length ≤ 65535) :
    ∃ message, buildNegotiateRequest options messageId = .ok message ∧
      ContextsPlaced options message := by
  refine ⟨_, buildNegotiateRequest_eq messageId hpos hmax, ?_⟩
  by_cases h311 : Dialect.smb311 ∈ options.dialects
  · rw [if_pos h311]
    have hlength := length_negotiateFixed options messageId
      (if options.capabilities &&& kCapabilityEncryption ≠ 0 then 2 else 1)
    generalize hfixed : negotiateFixed options messageId
      (if options.capabilities &&& kCapabilityEncryption ≠ 0 then 2 else 1) = fixed at hlength
    have hpadded := length_appendPadding fixed
    rw [hlength] at hpadded
    have hoffset : (negotiateContextOffset options.dialects).toNat =
        (appendPadding fixed 8).length := by
      rw [negotiateContextOffset, if_pos h311, hpadded, kSmb2HeaderSize, UInt32.toNat_ofNat']
      omega
    have halign : (appendPadding fixed 8).length % 8 = 0 := by
      rw [hpadded]
      omega
    have hwalk := walkNegotiateContexts_append halign
      (fun context h => @length_data_negotiateContexts options context h)
    have hfields := negotiateFixed_fields options messageId
      (if options.capabilities &&& kCapabilityEncryption ≠ 0 then 2 else 1)
      (List.replicate ((8 - fixed.length % 8) % 8) 0 ++
        (negotiateContexts options).flatMap contextBytes)
    rw [hfixed, ← List.append_assoc] at hfields
    refine ⟨_, _, hfields.1, hfields.2.1, hfields.2.2, ?_⟩
    rw [if_pos h311]
    constructor
    · rw [hoffset, hpadded]
      omega
    · rw [contextCount_eq, hoffset]
      exact hwalk
  · rw [if_neg h311]
    have hfields := negotiateFixed_fields options messageId 0 []
    rw [List.append_nil] at hfields
    refine ⟨_, _, hfields.1, hfields.2.1, hfields.2.2, ?_⟩
    rw [if_neg h311]
    refine ⟨?_, rfl, length_negotiateFixed options messageId 0⟩
    rw [negotiateContextOffset, if_neg h311]

/-- Two dialects and the encryption capability. -/
theorem buildNegotiateRequest_contexts_two :
    ∃ message, buildNegotiateRequest
        { dialects := [.smb311, .smb300], capabilities := kCapabilityEncryption } 0 = .ok message ∧
      ContextsPlaced { dialects := [.smb311, .smb300], capabilities := kCapabilityEncryption }
        message :=
  buildNegotiateRequest_contexts 0 (by decide) (by decide)

end SmbBrowser.Native
