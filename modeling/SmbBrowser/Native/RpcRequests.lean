import SmbBrowser.Native.DisjointIds
import SmbBrowser.Native.ExchangeRules
import SmbBrowser.Native.Replies
import SmbBrowser.Native.RequestLayout
import SmbBrowser.Native.TextRoundTrip

/-!
# The request for the shares of a server

`buildDcerpcRequestPdu` (native_smb/Dcerpc.cpp) writes the length of the fragment as 16
bits and takes a stub of any length; the stub of `NetrShareEnum` grows with the name of
the server.

Results:
* `isFragment_buildDcerpcRequestPdu`: the stubs whose request is one fragment;
* `length_buildNetrShareEnumRequestStub`: the length of the stub for a server name;
* `Asks.run`: a program that sends only certain requests does so in every run;
* `shareRequest_isFragment_iff`: the server names for which what the enumerator writes to
  the pipe is one fragment.
-/

namespace SmbBrowser.Native

open SmbBrowser.Base

/-! ## One fragment -/

/-- A request PDU of one fragment: its length field is its size, and the stub is what
    follows the 24 bytes of the headers. -/
structure IsFragment (pdu stub : ByteVector) : Prop where
  fragLength_eq : readNumber pdu 8 2 = .ok pdu.length
  stub_eq : readBytes pdu 24 (pdu.length - 24) = .ok stub

section

variable {opnum : UInt16} {stub : ByteVector} {callId : UInt32}

theorem readNumber_fragLength :
    readNumber (buildDcerpcRequestPdu opnum stub callId) 8 2 =
      .ok ((24 + stub.length) % 65536) := by
  rw [buildDcerpcRequestPdu, dcerpcCommonHeader, List.append_assoc, List.append_assoc,
    List.append_assoc, readNumber_skip _ (by simp)]
  show readNumber (u16Le _ ++ _) 0 2 = _
  rw [readNumber_u16Le, UInt16.toNat_ofNat']
  rfl

theorem readBytes_stub :
    readBytes (buildDcerpcRequestPdu opnum stub callId) 24 stub.length = .ok stub := by
  have hheaders : buildDcerpcRequestPdu opnum stub callId =
      (dcerpcCommonHeader kDcerpcPacketTypeRequest
        (UInt16.ofNat (kDcerpcCommonHeaderSize + 8 + stub.length)) callId ++
        (u32Le (UInt32.ofNat stub.length) ++ u16Le 0 ++ u16Le opnum)) ++ stub := by
    simp only [buildDcerpcRequestPdu, List.append_assoc]
  rw [hheaders, readBytes_skip _ (by simp [dcerpcCommonHeader])]
  have hlen : (dcerpcCommonHeader kDcerpcPacketTypeRequest
      (UInt16.ofNat (kDcerpcCommonHeaderSize + 8 + stub.length)) callId ++
      (u32Le (UInt32.ofNat stub.length) ++ u16Le 0 ++ u16Le opnum)).length = 24 := by
    simp [dcerpcCommonHeader]
  rw [hlen, Nat.sub_self, readBytes_zero_length]

/-- The stubs whose request is one fragment. -/
theorem isFragment_buildDcerpcRequestPdu :
    IsFragment (buildDcerpcRequestPdu opnum stub callId) stub ↔ stub.length ≤ 65511 := by
  constructor
  · intro h
    have hlength := h.fragLength_eq
    rw [readNumber_fragLength, length_buildDcerpcRequestPdu] at hlength
    have hmod : (24 + stub.length) % 65536 = 24 + stub.length := Except.ok.inj hlength
    omega
  · intro h
    refine ⟨?_, ?_⟩
    · rw [readNumber_fragLength, length_buildDcerpcRequestPdu, Nat.mod_eq_of_lt (by omega)]
    · rw [length_buildDcerpcRequestPdu, Nat.add_sub_cancel_left, readBytes_stub]

end

/-! ## The stub -/

/-- The length of the stub for a server name, from the UTF-16 of the normalized name. -/
theorem length_buildNetrShareEnumRequestStub {serverName stub : ByteVector}
    (h : buildNetrShareEnumRequestStub serverName = .ok stub) :
    ∃ units, encodeUtf16Le (normalizeServerName serverName) = .ok units ∧
      stub.length = (units.length + 21) / 4 * 4 + 28 := by
  rw [buildNetrShareEnumRequestStub] at h
  obtain ⟨bytes, hbytes, hstub⟩ := bind_eq_ok.1 h
  rw [appendNdrUtf16String] at hbytes
  obtain ⟨units, hunits, hname⟩ := bind_eq_ok.1 hbytes
  rw [pure_eq_ok] at hstub hname
  refine ⟨units, hunits, ?_⟩
  rw [← hstub, ← hname]
  simp only [List.length_append, length_align4, length_u32Le, length_u16Le]
  omega

/-! ## Programs that send only certain requests -/

/-- The environment that answers anything, and allows only these requests. -/
def OnlyRequests (allowed : Request → Prop) : Contract Wire Unit where
  allows
    | _, .exchange sent _ => allowed sent.request
    | _, _ => True
  step _ _ _ := True

theorem allowsLooks_onlyRequests (allowed : Request → Prop) :
    AllowsLooks (OnlyRequests allowed) where
  allows _ _ := trivial
  step _ := rfl

/-- A program that sends only requests of this kind. -/
def Asks {α : Type} (allowed : Request → Prop) (p : Prog α) : Prop :=
  MeetsE (OnlyRequests allowed) p (fun _ _ => True) ()

section

variable {α β : Type} {allowed : Request → Prop} {request : Request} {context : OperationContext}

theorem Asks.pure (a : α) : Asks allowed (pure a : Prog α) := trivial

theorem Asks.bind {p : Prog α} {f : α → Prog β} (hp : Asks allowed p)
    (hf : ∀ a, Asks allowed (f a)) : Asks allowed (p >>= f) := by
  refine MeetsE.bind hp ?_ ?_
  · rintro a ⟨⟩ -
    exact hf a
  · rintro e ⟨⟩ -
    trivial

theorem Asks.isCancelled (asker : Asker) : Asks allowed (isCancelled asker context) :=
  (allowsLooks_onlyRequests allowed).isCancelled trivial fun _ _ => trivial

theorem sends_onlyRequests (h : allowed request) :
    Sends (OnlyRequests allowed) request context (fun _ _ => True) () := by
  rintro sent rfl
  exact ⟨h, fun _ _ _ => trivial⟩

theorem Asks.exchangePayload (h : allowed request) :
    Asks allowed (exchangePayload request context) := by
  refine exchangePayload_meets (fun _ _ => trivial) ((sends_onlyRequests h).mono ?_)
  exact fun _ _ _ => ⟨fun _ _ => trivial, fun _ _ => trivial⟩

theorem Asks.exchangeResponse {cancelled : String} {decode : ByteVector → DecodeResult α}
    (h : allowed request) : Asks allowed (exchangeResponse cancelled decode request context) := by
  refine (allowsLooks_onlyRequests allowed).exchangeResponse (fun _ _ _ => trivial)
    (fun _ _ => trivial) ((sends_onlyRequests h).mono ?_)
  exact fun _ _ _ => ⟨fun _ _ => trivial, fun _ _ => trivial, fun _ _ _ _ _ => trivial⟩

/-- What the WRITE requests of a run carry. -/
def writtenData (es : List (Event Wire)) : List ByteVector :=
  es.filterMap fun
    | ⟨.exchange sent _, _⟩ =>
      match sent.request.body with
      | .write options => some options.data
      | _ => none
    | _ => none

/-- Every request of every run is of this kind. -/
theorem Asks.run {p : Prog α} (h : Asks allowed p) {es : List (Event Wire)} {r : Except Exn α}
    (hrun : Program.Runs p.run es r) :
    ∀ e ∈ es, ∀ sent context, e.op = .exchange sent context → allowed sent.request := by
  have hall := Meets.allowed h hrun
  clear hrun
  induction es with
  | nil => simp
  | cons e es ih =>
    obtain ⟨hfirst, hrest⟩ := hall
    intro e' he' sent context hop
    rcases List.mem_cons.1 he' with rfl | he'
    · rw [hop] at hfirst
      exact hfirst
    · exact ih (hrest () trivial) e' he' sent context hop

end

/-! ## The enumerator -/

/-- What the enumerator writes to the pipe: the bind PDU, or the request PDU of the stub for
    the server name. -/
def PipeData (serverName data : ByteVector) : Prop :=
  data = buildDcerpcBindPdu srvsRpcSyntax 1 ∨
    ∃ stub, buildNetrShareEnumRequestStub serverName = .ok stub ∧
      data = buildDcerpcRequestPdu kSrvsNetrShareEnumOpnum stub 2

/-- The WRITE requests of the enumerator. -/
def WritesShareRequest (serverName : ByteVector) (request : Request) : Prop :=
  ∀ options, request.body = .write options → PipeData serverName options.data

section

variable {serverName : ByteVector} {messageId : ℕ} {treeId : UInt32} {sessionId : UInt64}
  {context : OperationContext} {fileId : FileId}

theorem asks_writePipe {data : ByteVector} (h : PipeData serverName data) :
    Asks (WritesShareRequest serverName)
      (writePipe messageId treeId sessionId context fileId data) := by
  refine Asks.bind (.exchangeResponse ?_) fun written => ?_
  · rintro options ⟨⟩
    exact h
  · split
    · exact .pure _
    · split
      · exact .pure _
      · exact .pure _

theorem asks_readPipe : Asks (WritesShareRequest serverName)
    (readPipe messageId treeId sessionId context fileId) := by
  refine Asks.bind (.exchangeResponse (by rintro options ⟨⟩)) fun read => ?_
  split
  · exact .pure _
  · exact .pure _

theorem asks_closePipe : Asks (WritesShareRequest serverName)
    (closePipe messageId treeId sessionId context fileId) := by
  refine Asks.bind (.exchangeResponse (by rintro options ⟨⟩)) fun closed => ?_
  split
  · exact .pure _
  · exact .pure _

theorem asks_closeOpenedPipe {α : Type} {e : ProtocolError} {messagesUsed : ℕ} :
    Asks (WritesShareRequest serverName)
      (closeOpenedPipe messageId treeId sessionId fileId e messagesUsed : Prog (DecodeResult α)) :=
  Asks.bind asks_closePipe fun _ => .pure _

theorem asks_exchangeShareEnum {stub : ByteVector}
    (h : buildNetrShareEnumRequestStub serverName = .ok stub) :
    Asks (WritesShareRequest serverName) (exchangeShareEnum messageId treeId sessionId context fileId
      (buildDcerpcRequestPdu kSrvsNetrShareEnumOpnum stub 2)) := by
  refine Asks.bind (asks_writePipe (.inr ⟨stub, h, rfl⟩)) fun written => ?_
  split
  · exact asks_closeOpenedPipe
  refine Asks.bind asks_readPipe fun responseBytes => ?_
  split
  · exact asks_closeOpenedPipe
  split
  · exact asks_closeOpenedPipe
  split
  · exact asks_closeOpenedPipe
  refine Asks.bind asks_closePipe fun closed => ?_
  split
  · exact .pure _
  · exact .pure _

theorem asks_remoteShareEnumerator : Asks (WritesShareRequest serverName)
    (remoteShareEnumerator messageId treeId sessionId context serverName) := by
  refine Asks.bind (.isCancelled _) fun cancelled => ?_
  split
  · exact .pure _
  refine Asks.bind (.exchangePayload (by rintro options ⟨⟩)) fun createPayload => ?_
  split
  · exact .pure _
  split
  · exact .pure _
  refine Asks.bind (asks_writePipe (.inl rfl)) fun bound => ?_
  split
  · exact asks_closeOpenedPipe
  refine Asks.bind asks_readPipe fun bindBytes => ?_
  split
  · exact asks_closeOpenedPipe
  split
  · exact asks_closeOpenedPipe
  refine meetsE_ofExcept.2 ?_
  split
  · rename_i stub hstub
    exact asks_exchangeShareEnum hstub
  · trivial

/-- Everything a run of the enumerator writes to the pipe. -/
theorem pipeData_of_remoteShareEnumerator {es : List (Event Wire)}
    {r : Except Exn (DecodeResult NativeShareList)}
    (hrun : Program.Runs
      (remoteShareEnumerator messageId treeId sessionId context serverName).run es r) :
    ∀ data ∈ writtenData es, PipeData serverName data := by
  intro data hdata
  obtain ⟨e, he, hwritten⟩ := List.mem_filterMap.1 hdata
  obtain ⟨op, reply⟩ := e
  cases op with
  | exchange sent context' =>
    dsimp only at hwritten
    split at hwritten
    · rename_i options hbody
      obtain rfl := Option.some.inj hwritten
      exact asks_remoteShareEnumerator.run hrun _ he sent context' rfl options hbody
    · cases hwritten
  | isCancelled asker => cases hwritten
  | progress progress => cases hwritten
  | enter call => cases hwritten

end

/-- **The request for the shares is one fragment** exactly for stubs of up to 65511 bytes:
    for the enumerator, for server names of up to 65462 bytes of UTF-16. -/
theorem shareRequest_isFragment_iff (opnum : UInt16) (stub : ByteVector) (callId : UInt32) :
    (IsFragment (buildDcerpcRequestPdu opnum stub callId) stub ↔ stub.length ≤ 65511) ∧
    ∀ serverName messageId treeId sessionId context es r,
      Program.Runs (remoteShareEnumerator messageId treeId sessionId context serverName).run es r →
      ∀ data ∈ writtenData es, data ≠ buildDcerpcBindPdu srvsRpcSyntax 1 →
        ∃ stub units, buildNetrShareEnumRequestStub serverName = .ok stub ∧
          data = buildDcerpcRequestPdu kSrvsNetrShareEnumOpnum stub 2 ∧
          encodeUtf16Le (normalizeServerName serverName) = .ok units ∧
          (IsFragment data stub ↔ units.length ≤ 65462) := by
  refine ⟨isFragment_buildDcerpcRequestPdu, ?_⟩
  intro serverName messageId treeId sessionId context es r hrun data hwritten hbind
  obtain hdata | ⟨stub, hstub, hdata⟩ := pipeData_of_remoteShareEnumerator hrun data hwritten
  · exact absurd hdata hbind
  obtain ⟨units, hunits, hlength⟩ := length_buildNetrShareEnumRequestStub hstub
  refine ⟨stub, units, hstub, hdata, hunits, ?_⟩
  rw [hdata, isFragment_buildDcerpcRequestPdu]
  omega

/-- The request for the shares of the server `s`, over a pipe that is bound and then lost. -/
def playedEnumeration :
    List (Event Wire) × Except Exn (DecodeResult NativeShareList) ×
      (List (DecodeResult ByteVector) × List Bool) :=
  (remoteShareEnumerator 0 0 0 {} (ascii "s")).run.serve playback
    ([.ok (framed createdMessage), .ok (framed (writtenMessage 72)),
      .ok (framed (readMessage bindAckPdu))], [])

set_option maxRecDepth 10000 in
theorem writtenData_playedEnumeration : writtenData playedEnumeration.1 =
    [buildDcerpcBindPdu srvsRpcSyntax 1, (buildNetrShareEnumRequestStub (ascii "s")).toOption.elim []
      fun stub => buildDcerpcRequestPdu kSrvsNetrShareEnumOpnum stub 2] := by
  rfl

/-- The request for the shares of the server `s`. -/
theorem shareRequest_isFragment_iff_short :
    ∃ es r data stub, Program.Runs (remoteShareEnumerator 0 0 0 {} (ascii "s")).run es r ∧
      data ∈ writtenData es ∧ buildNetrShareEnumRequestStub (ascii "s") = .ok stub ∧
      IsFragment data stub := by
  have hrun : Program.Runs (remoteShareEnumerator 0 0 0 {} (ascii "s")).run playedEnumeration.1
      playedEnumeration.2.1 := by
    unfold playedEnumeration
    exact Program.runs_serve playback _ _
  have hmem := List.mem_cons_of_mem (buildDcerpcBindPdu srvsRpcSyntax 1) (List.mem_singleton_self
    ((buildNetrShareEnumRequestStub (ascii "s")).toOption.elim [] fun stub =>
      buildDcerpcRequestPdu kSrvsNetrShareEnumOpnum stub 2))
  rw [← writtenData_playedEnumeration] at hmem
  have hne : (buildNetrShareEnumRequestStub (ascii "s")).toOption.elim [] (fun stub =>
      buildDcerpcRequestPdu kSrvsNetrShareEnumOpnum stub 2) ≠
        buildDcerpcBindPdu srvsRpcSyntax 1 := by
    decide
  obtain ⟨stub, units, hstub, -, hunits, hiff⟩ :=
    (shareRequest_isFragment_iff 0 [] 0).2 _ _ _ _ _ _ _ hrun _ hmem hne
  have hname : encodeUtf16Le (normalizeServerName (ascii "s")) = .ok [0x5C, 0, 0x5C, 0, 0x73, 0] := by
    rfl
  obtain rfl : [0x5C, 0, 0x5C, 0, 0x73, 0] = units := Except.ok.inj (hname.symm.trans hunits)
  exact ⟨_, _, _, stub, hrun, hmem, hstub, hiff.2 (by decide)⟩

/-! ## A long server name -/

theorem encodeUtf16Le_letters (n : ℕ) : ∃ units,
    encodeUtf16Le (normalizeServerName (List.replicate (n + 1) 0x61)) = .ok units ∧
      units.length = 2 * n + 6 := by
  have hslash : (List.replicate (n + 1) 0x61).map (fun ch : UInt8 => if ch = 0x2F then 0x5C else ch) =
      List.replicate (n + 1) 0x61 := by
    rw [List.map_replicate]
    rfl
  have htake : (List.replicate (n + 1) (0x61 : UInt8)).take 2 ≠ [0x5C, 0x5C] := by
    rw [List.replicate_succ, List.take_succ_cons]
    simp
  have hdrop : (List.replicate (n + 1) (0x61 : UInt8)).dropWhile (fun ch => decide (ch = 0x5C)) =
      List.replicate (n + 1) 0x61 := by
    rw [List.dropWhile_replicate]
    rfl
  have hchars : normalizeServerName (List.replicate (n + 1) 0x61) =
      ('\\' :: '\\' :: List.replicate (n + 1) 'a').flatMap String.utf8EncodeChar := by
    have hletter : String.utf8EncodeChar 'a' = [0x61] := rfl
    simp only [normalizeServerName, hslash, if_neg htake, hdrop]
    rw [List.flatMap_cons, List.flatMap_cons, List.flatMap_replicate, hletter,
      List.flatten_replicate_singleton]
    rfl
  rw [hchars, encodeUtf16Le_chars]
  refine ⟨_, rfl, ?_⟩
  have hslash' : (utf16Le '\\').length = 2 := rfl
  have hletter' : (utf16Le 'a').length = 2 := rfl
  simp only [List.flatMap_cons, List.flatMap_replicate, List.length_append, List.length_flatten,
    List.map_replicate, List.sum_replicate_nat, hslash', hletter']
  omega

/-- The stub for a server name of 40000 letters is taken, and its request has a wrong
    length. -/
theorem shareRequest_truncated :
    ∃ stub, buildNetrShareEnumRequestStub (List.replicate 40000 0x61) = .ok stub ∧
      ¬ IsFragment (buildDcerpcRequestPdu kSrvsNetrShareEnumOpnum stub 2) stub := by
  obtain ⟨units, hunits, hlen⟩ := encodeUtf16Le_letters 39999
  obtain ⟨stub, hstub⟩ :
      ∃ stub, buildNetrShareEnumRequestStub (List.replicate 40000 0x61) = .ok stub := by
    rw [buildNetrShareEnumRequestStub, appendNdrUtf16String, hunits]
    exact ⟨_, rfl⟩
  obtain ⟨units', hunits', hlength⟩ := length_buildNetrShareEnumRequestStub hstub
  obtain rfl : units = units' := Except.ok.inj (hunits.symm.trans hunits')
  refine ⟨stub, hstub, ?_⟩
  rw [isFragment_buildDcerpcRequestPdu]
  omega

end SmbBrowser.Native
