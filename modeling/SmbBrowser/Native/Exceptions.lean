import SmbBrowser.Native.Accounting
import SmbBrowser.Native.ExchangeRules

/-!
# Exceptions of the session operations

The builders throw on texts and buffers that fit no field, and no session method
catches them.

Results:
* `Request.frame_create_iff` and its siblings: which requests can be built;
* `SessionCall.safe_run`: a method whose arguments can be encoded never throws,
  whatever the environment answers.
-/

namespace SmbBrowser.Native

open SmbBrowser.Base

variable {α β : Type}

/-! ## Builders -/

/-- A builder that fails with `std::invalid_argument` only. -/
def Refuses (x : Except Exn α) : Prop :=
  (∃ what, x = .error (.invalidArgument what)) ∨ ∃ a, x = .ok a

theorem refuses_ok (a : α) : Refuses (.ok a) := .inr ⟨a, rfl⟩

theorem refuses_error (what : String) : Refuses (.error (.invalidArgument what) : Except Exn α) :=
  .inl ⟨what, rfl⟩

theorem Refuses.bind {x : Except Exn α} {f : α → Except Exn β} (hx : Refuses x)
    (hf : ∀ a, Refuses (f a)) : Refuses (x >>= f) := by
  obtain ⟨what, rfl⟩ | ⟨a, rfl⟩ := hx
  · exact refuses_error what
  · exact hf a

theorem refuses_throwWhen (condition : Bool) (what : String) :
    Refuses (throwWhen condition what) := by
  cases condition with
  | false => exact refuses_ok ()
  | true => exact refuses_error what

/-- One turn over a text takes at most four bytes. -/
theorem nextCodePoint_cases (first : UInt8) (rest : ByteVector) :
    (∃ what, nextCodePoint first rest = .error (.invalidArgument what)) ∨
    ∃ codePoint tail, nextCodePoint first rest = .ok (codePoint, tail) ∧
      tail.length ≤ rest.length ∧ rest.length ≤ tail.length + 3 := by
  simp only [nextCodePoint]
  split
  · exact .inr ⟨_, _, rfl, le_rfl, Nat.le_add_right ..⟩
  split
  · split
    · split
      · exact .inr ⟨_, _, rfl, by simp, by simp⟩
      · exact .inl ⟨_, rfl⟩
    · exact .inl ⟨_, rfl⟩
  split
  · split
    · split
      · exact .inr ⟨_, _, rfl, by simp; omega, by simp⟩
      · exact .inl ⟨_, rfl⟩
    · exact .inl ⟨_, rfl⟩
  split
  · split
    · split
      · exact .inr ⟨_, _, rfl, by simp; omega, by simp⟩
      · exact .inl ⟨_, rfl⟩
    · exact .inl ⟨_, rfl⟩
  · exact .inl ⟨_, rfl⟩

/-- A code point makes at least one unit. -/
theorem utf16Units_cases (codePoint : UInt32) :
    (∃ what, utf16Units codePoint = .error (.invalidArgument what)) ∨
    ∃ units, utf16Units codePoint = .ok units ∧ 2 ≤ units.length := by
  rw [utf16Units]
  split
  · exact .inr ⟨_, rfl, by simp⟩
  split
  · exact .inr ⟨_, rfl, by simp⟩
  · exact .inl ⟨_, rfl⟩

/-- A text is refused, or encoded to at least two bytes for four of its own. -/
theorem encodeUtf16LeLoop_cases {fuel : ℕ} {text : ByteVector} (h : text.length ≤ fuel) :
    (∃ what, encodeUtf16LeLoop fuel text = .error (.invalidArgument what)) ∨
    ∃ units, encodeUtf16LeLoop fuel text = .ok units ∧ text.length ≤ 2 * units.length := by
  induction fuel generalizing text with
  | zero =>
    obtain rfl := List.length_eq_zero_iff.1 (Nat.le_zero.1 h)
    exact .inr ⟨[], rfl, le_rfl⟩
  | succ fuel ih =>
    cases text with
    | nil => exact .inr ⟨[], rfl, le_rfl⟩
    | cons first rest =>
      rw [List.length_cons] at h
      rw [encodeUtf16LeLoop]
      obtain ⟨what, hcode⟩ | ⟨codePoint, tail, hcode, htail, hrest⟩ := nextCodePoint_cases first rest
      · exact .inl ⟨what, by rw [hcode]; rfl⟩
      rw [hcode]
      show (∃ what, (utf16Units codePoint >>= _) = _) ∨ ∃ units, (utf16Units codePoint >>= _) = _ ∧ _
      obtain ⟨what, hunits⟩ | ⟨units, hunits, hlen⟩ := utf16Units_cases codePoint
      · exact .inl ⟨what, by rw [hunits]; rfl⟩
      rw [hunits]
      show (∃ what, (encodeUtf16LeLoop fuel tail >>= _) = _) ∨
        ∃ units, (encodeUtf16LeLoop fuel tail >>= _) = _ ∧ _
      obtain ⟨what, hmore⟩ | ⟨more, hmore, hmoreLen⟩ := ih (show tail.length ≤ fuel by omega)
      · exact .inl ⟨what, by rw [hmore]; rfl⟩
      · refine .inr ⟨units ++ more, by rw [hmore]; rfl, ?_⟩
        rw [List.length_cons, List.length_append]
        omega

theorem refuses_encodeUtf16Le (text : ByteVector) : Refuses (encodeUtf16Le text) := by
  obtain h | ⟨units, h, -⟩ := encodeUtf16LeLoop_cases (le_refl text.length)
  · exact .inl h
  · exact .inr ⟨units, h⟩

/-- The encoding of a text is at least half as long as the text. -/
theorem length_le_of_encodeUtf16Le {text units : ByteVector} (h : encodeUtf16Le text = .ok units) :
    text.length ≤ 2 * units.length := by
  obtain ⟨what, herror⟩ | ⟨units', hunits, hlen⟩ := encodeUtf16LeLoop_cases (le_refl text.length)
  · rw [encodeUtf16Le, herror] at h
    cases h
  · rw [encodeUtf16Le, hunits] at h
    injection h with h
    rwa [← h]

theorem refuses_encodeDirectTcpFrame (payload : ByteVector) :
    Refuses (encodeDirectTcpFrame payload) := by
  rw [encodeDirectTcpFrame]
  split
  · exact refuses_error _
  · exact refuses_ok _

/-- A request is built and framed, or refused. -/
theorem Request.refuses_frame (request : Request) : Refuses request.frame := by
  refine Refuses.bind ?_ fun message => refuses_encodeDirectTcpFrame message
  obtain ⟨body, m, t, s⟩ := request
  cases body with
  | create o =>
    refine (refuses_encodeUtf16Le _).bind fun name => ?_
    exact (refuses_throwWhen ..).bind fun _ => (refuses_throwWhen ..).bind fun _ => refuses_ok _
  | close o => exact refuses_ok _
  | read o => exact (refuses_throwWhen ..).bind fun _ => refuses_ok _
  | write o =>
    exact (refuses_throwWhen ..).bind fun _ => (refuses_throwWhen ..).bind fun _ => refuses_ok _
  | ioctl o => exact (refuses_throwWhen ..).bind fun _ => refuses_ok _
  | setInfo o => exact (refuses_throwWhen ..).bind fun _ => refuses_ok _
  | queryInfo o => exact (refuses_throwWhen ..).bind fun _ => refuses_ok _
  | queryDirectory o =>
    refine (refuses_encodeUtf16Le _).bind fun pattern => ?_
    exact (refuses_throwWhen ..).bind fun _ => refuses_ok _
  | changeNotify o => exact refuses_ok _

theorem refuses_buildFileFullEaInformation (entries : List FileFullEaInformation) :
    Refuses (buildFileFullEaInformation entries) := by
  induction entries with
  | nil => exact refuses_ok _
  | cons entry rest ih =>
    have hentry : Refuses (fullEaEntry entry rest.isEmpty) :=
      (refuses_throwWhen ..).bind fun _ => (refuses_throwWhen ..).bind fun _ =>
        (refuses_throwWhen ..).bind fun _ => refuses_ok _
    exact hentry.bind fun _ => ih.bind fun _ => refuses_ok _

theorem refuses_buildFileNameInformation (emptyPath tooLarge : String) (newPath : ByteVector)
    (replaceIfExists : Bool) :
    Refuses (buildFileNameInformation emptyPath tooLarge newPath replaceIfExists) :=
  (refuses_encodeUtf16Le _).bind fun _ => (refuses_throwWhen ..).bind fun _ =>
    (refuses_throwWhen ..).bind fun _ => refuses_ok _

theorem refuses_buildSymbolicLinkReparseBuffer (substituteName printName : ByteVector)
    (relative : Bool) :
    Refuses (buildSymbolicLinkReparseBuffer substituteName printName relative) :=
  (refuses_throwWhen ..).bind fun _ => (refuses_encodeUtf16Le _).bind fun _ =>
    (refuses_encodeUtf16Le _).bind fun _ => (refuses_throwWhen ..).bind fun _ => refuses_ok _

theorem refuses_buildNetrShareEnumRequestStub (serverName : ByteVector) :
    Refuses (buildNetrShareEnumRequestStub serverName) :=
  Refuses.bind ((refuses_encodeUtf16Le _).bind fun _ => refuses_ok _) fun _ => refuses_ok _

theorem refuses_buildDfsGetReferralRequest (requestPath : ByteVector) :
    Refuses (buildDfsGetReferralRequest requestPath) :=
  (refuses_encodeUtf16Le _).bind fun _ => refuses_ok _

/-! ## What can be encoded -/

/-- The path fits the name field of CREATE. -/
def fitsCreate (path : ByteVector) : Prop :=
  ∃ name, encodeUtf16Le path = .ok name ∧ name.length ≤ u16Max

/-- The input of IOCTL fits a Direct TCP frame. -/
def fitsIoctl (input : ByteVector) : Prop := 120 + input.length ≤ kMaxDirectTcpPayloadLength

theorem fitsIoctl_nil : fitsIoctl [] := by
  rw [fitsIoctl, kMaxDirectTcpPayloadLength, List.length_nil]
  omega

/-- A builder makes a buffer that fits. -/
def fitsBuilt (fits : ByteVector → Prop) (buffer : Except Exn ByteVector) : Prop :=
  ∃ bytes, buffer = .ok bytes ∧ fits bytes

namespace Request

/-- A message too long for a Direct TCP frame is refused. -/
theorem frame_eq_ok_iff {request : Request} {message : ByteVector}
    (hbuild : request.build = .ok message) :
    (∃ frame, request.frame = .ok frame) ↔ message.length ≤ kMaxDirectTcpPayloadLength := by
  refine ⟨?_, frame_eq_ok hbuild⟩
  rintro ⟨frame, hframe⟩
  by_contra hlong
  rw [Request.frame, hbuild] at hframe
  have hthrow : encodeDirectTcpFrame message = .ok frame := hframe
  rw [encodeDirectTcpFrame, if_pos (by omega)] at hthrow
  cases hthrow

variable (m : ℕ) (t : UInt32) (s : UInt64)

theorem frame_create_iff {o : CreateRequestOptions} (hc : o.createContexts = []) :
    (∃ frame, (⟨.create o, m, t, s⟩ : Request).frame = .ok frame) ↔ fitsCreate o.path := by
  constructor
  · rintro ⟨frame, hframe⟩
    obtain ⟨message, hbuild, -⟩ := bind_eq_ok.1 hframe
    obtain ⟨name, hname, hrest⟩ := bind_eq_ok.1 hbuild
    obtain ⟨_, hlen, _⟩ := bind_eq_ok.1 hrest
    rw [throwWhen_eq_ok, decide_eq_false_iff_not] at hlen
    exact ⟨name, hname, by omega⟩
  · rintro ⟨name, hname, hlen⟩
    have hnot : ¬ name.length > u16Max := by omega
    refine frame_eq_ok (by
      simp only [build, buildCreateRequest, hname, hc, hnot, List.length_nil, Nat.not_lt_zero,
        gt_iff_lt, decide_false, throwWhen_false, Bind.bind, Except.bind]
      rfl) ?_
    rw [u16Max] at hlen
    by_cases hempty : name = []
    · subst hempty
      simp [kMaxDirectTcpPayloadLength]
    · simp [hempty, kMaxDirectTcpPayloadLength]
      omega

theorem frame_setInfo_iff {o : SetInfoRequestOptions} :
    (∃ frame, (⟨.setInfo o, m, t, s⟩ : Request).frame = .ok frame) ↔ fitsSetInfo o.buffer := by
  refine ⟨?_, fun h => frame_setInfo m t s h⟩
  rintro ⟨frame, hframe⟩
  obtain ⟨message, hbuild, -⟩ := bind_eq_ok.1 hframe
  have hlen := (frame_eq_ok_iff hbuild).1 ⟨frame, hframe⟩
  obtain ⟨-, -, hrest⟩ := bind_eq_ok.1 hbuild
  rw [pure_eq_ok] at hrest
  rw [← hrest] at hlen
  rw [fitsSetInfo]
  simp [fileIdBytes] at hlen
  omega

theorem frame_write_iff {o : WriteRequestOptions} (hc : o.channelInfo = []) :
    (∃ frame, (⟨.write o, m, t, s⟩ : Request).frame = .ok frame) ↔ fitsWrite o.data := by
  refine ⟨?_, fun h => frame_write m t s h hc⟩
  rintro ⟨frame, hframe⟩
  obtain ⟨message, hbuild, -⟩ := bind_eq_ok.1 hframe
  have hlen := (frame_eq_ok_iff hbuild).1 ⟨frame, hframe⟩
  obtain ⟨-, -, hrest⟩ := bind_eq_ok.1 hbuild
  obtain ⟨-, -, hrest⟩ := bind_eq_ok.1 hrest
  rw [pure_eq_ok] at hrest
  rw [← hrest, hc] at hlen
  rw [fitsWrite]
  simp [fileIdBytes] at hlen
  omega

theorem frame_ioctl_iff {o : IoctlRequestOptions} :
    (∃ frame, (⟨.ioctl o, m, t, s⟩ : Request).frame = .ok frame) ↔ fitsIoctl o.input := by
  rw [fitsIoctl]
  constructor
  · rintro ⟨frame, hframe⟩
    obtain ⟨message, hbuild, -⟩ := bind_eq_ok.1 hframe
    have hlen := (frame_eq_ok_iff hbuild).1 ⟨frame, hframe⟩
    obtain ⟨-, -, hrest⟩ := bind_eq_ok.1 hbuild
    rw [pure_eq_ok] at hrest
    rw [← hrest] at hlen
    simp [fileIdBytes] at hlen
    omega
  · intro h
    have hnot : ¬ o.input.length > u32Max := by
      rw [kMaxDirectTcpPayloadLength] at h
      rw [u32Max]
      omega
    refine frame_eq_ok
      (by simp only [build, buildIoctlRequest, hnot, decide_false, throwWhen_false]; rfl) ?_
    rw [kMaxDirectTcpPayloadLength] at h ⊢
    by_cases hempty : o.input = []
    · simp [hempty, fileIdBytes]
    · simp [hempty, fileIdBytes]
      omega

end Request

/-! ## Programs that never throw -/

/-- The contract that allows everything and remembers nothing. -/
abbrev Anything : Contract Wire Unit := .tracking fun _ _ => ()

theorem anything_looks : AllowsLooks Anything := ⟨fun _ _ => trivial, fun _ => rfl⟩

/-- An outcome that is no exception of a builder. -/
def NoThrow (r : Except Exn α) : Prop := ∀ what, r ≠ .error (.invalidArgument what)

/-- A helper that never throws, whatever it is answered. -/
structure Prog.Safe (p : Prog α) : Prop where
  meets : MeetsE Anything p (fun r _ => NoThrow r) ()

/-- A program of a session that never throws. -/
structure SessionM.Safe (p : SessionM α) : Prop where
  meets : ∀ session, MeetsS Anything p (fun r _ _ => NoThrow r) session ()

theorem noThrow_ok (a : α) : NoThrow (.ok a) := by
  rintro what ⟨⟩

theorem noThrow_unfinished : NoThrow (.error .unfinished : Except Exn α) := by
  rintro what ⟨⟩

theorem NoThrow.of_error {e : Exn} (h : NoThrow (.error e : Except Exn α)) :
    NoThrow (.error e : Except Exn β) := by
  rintro what ⟨⟩
  exact h what rfl

namespace Prog

variable {context : OperationContext} {request : Request}

theorem safe_pure (a : α) : (pure a : Prog α).Safe := ⟨noThrow_ok a⟩

theorem safe_unfinished : (throw .unfinished : Prog α).Safe := ⟨noThrow_unfinished⟩

theorem Safe.bind {p : Prog α} {f : α → Prog β} (hp : p.Safe) (hf : ∀ a, (f a).Safe) :
    (p >>= f).Safe :=
  ⟨hp.meets.bind (fun a _ _ => (hf a).meets) fun _ _ h => h.of_error⟩

/-- A step that may fail. -/
theorem Safe.step {p : Prog (DecodeResult α)} {f : DecodeResult α → Prog β} (hp : p.Safe)
    (herror : ∀ e, (f (.error e)).Safe) (hok : ∀ a, (f (.ok a)).Safe) : (p >>= f).Safe := by
  refine hp.bind fun r => ?_
  cases r with
  | error e => exact herror e
  | ok a => exact hok a

theorem safe_isCancelled (asker : Asker) (context : OperationContext) :
    (Native.isCancelled asker context).Safe :=
  ⟨anything_looks.isCancelled (noThrow_ok _) fun _ _ => noThrow_ok _⟩

/-- A look at the token before the next step. -/
theorem safe_look {asker : Asker} {context : OperationContext} {p q : Prog α} (hp : p.Safe)
    (hq : q.Safe) :
    (Native.isCancelled asker context >>= fun cancelled => if cancelled then p else q).Safe := by
  refine (safe_isCancelled asker context).bind fun cancelled => ?_
  cases cancelled with
  | true => exact hp
  | false => exact hq

theorem safe_reportProgress (progress : TransferProgress) (context : OperationContext) :
    (Native.reportProgress progress context).Safe := by
  rw [Native.reportProgress]
  split
  · exact ⟨meetsE_lift.2 (meets_tracking_ask.2 fun _ => noThrow_ok _)⟩
  · exact safe_pure _

theorem safe_exchangePayload (h : ∃ frame, request.frame = .ok frame) :
    (Native.exchangePayload request context).Safe := by
  obtain ⟨frame, hframe⟩ := h
  refine ⟨exchangePayload_meets (fun e herror => ?_) fun sent _ => ⟨trivial, fun reply m _ => ?_⟩⟩
  · rw [hframe] at herror
    cases herror
  · exact ⟨fun _ _ => noThrow_ok _, fun _ _ => noThrow_ok _⟩

theorem safe_exchangeResponse {cancelled : String} {decode : ByteVector → DecodeResult α}
    (h : ∃ frame, request.frame = .ok frame) :
    (Native.exchangeResponse cancelled decode request context).Safe := by
  obtain ⟨frame, hframe⟩ := h
  refine ⟨anything_looks.exchangeResponse (fun _ _ _ => noThrow_ok _) (fun e herror => ?_)
    fun sent _ => ⟨trivial, fun reply m _ => ?_⟩⟩
  · rw [hframe] at herror
    cases herror
  · exact ⟨fun _ _ => noThrow_ok _, fun _ _ => noThrow_ok _, fun _ _ _ _ _ => noThrow_ok _⟩

end Prog

/-! ## The helpers -/

section

variable (m : ℕ) (t : UInt32) (s : UInt64) (context : OperationContext)

theorem safe_closeExchanger (options : CloseRequestOptions) :
    (closeExchanger m t s context options).Safe :=
  Prog.safe_exchangeResponse (Request.frame_close m t s options)

/-- The CLOSE a helper ends with. -/
theorem safe_lastClose {options : CloseRequestOptions} {error : ProtocolError → DecodeResult α}
    {result : CloseResponse → DecodeResult α} :
    (closeExchanger m t s context options >>= fun r => match r with
      | .error e => pure (error e)
      | .ok a => pure (result a) : Prog (DecodeResult α)).Safe :=
  (safe_closeExchanger m t s context options).step (fun _ => Prog.safe_pure _)
    fun _ => Prog.safe_pure _

theorem safe_create {options : CreateRequestOptions} (hc : options.createContexts = [])
    (h : fitsCreate options.path) :
    (exchangePayload ⟨.create options, m, t, s⟩ context).Safe :=
  Prog.safe_exchangePayload ((Request.frame_create_iff m t s hc).2 h)

theorem safe_openFile {options : CreateRequestOptions} (hc : options.createContexts = [])
    (h : fitsCreate options.path) : (openFile m t s context options).Safe :=
  (safe_create m t s context hc h).step (fun _ => Prog.safe_pure _) fun _ => Prog.safe_pure _

theorem safe_ioctl {options : IoctlRequestOptions} (h : fitsIoctl options.input) :
    (ioctl m t s context options).Safe :=
  (Prog.safe_exchangePayload ((Request.frame_ioctl_iff m t s).2 h)).step
    (fun _ => Prog.safe_pure _) fun _ => Prog.safe_pure _

theorem safe_queryInfoExchanger {options : QueryInfoRequestOptions}
    (h : options.inputBuffer = []) : (queryInfoExchanger m t s context options).Safe :=
  Prog.safe_exchangeResponse (Request.frame_queryInfo m t s h)

theorem safe_setInfoExchanger {options : SetInfoRequestOptions} (h : fitsSetInfo options.buffer) :
    (setInfoExchanger m t s context options).Safe :=
  Prog.safe_exchangeResponse (Request.frame_setInfo m t s h)

theorem safe_listPages (fileId : FileId) (fuel : ℕ) (firstQuery : Bool) (used : ℕ)
    (entries : List DirectoryEntry) :
    (listPages m t s context fileId fuel firstQuery used entries).Safe := by
  induction fuel generalizing firstQuery used entries with
  | zero => exact Prog.safe_unfinished
  | succ fuel ih =>
    refine (Prog.safe_exchangePayload (Request.frame_queryDirectory _ t s rfl)).step
      (fun _ => Prog.safe_pure _) fun payload => ?_
    refine Prog.safe_look (Prog.safe_pure _) ?_
    split
    · exact Prog.safe_pure _
    split
    · exact Prog.safe_pure _
    split
    · exact Prog.safe_pure _
    · exact ih _ _ _

theorem safe_directoryLister (fuel : ℕ) {path : ByteVector} (h : fitsCreate path) :
    (directoryLister m t s context fuel path).Safe := by
  refine Prog.safe_look (Prog.safe_pure _) ?_
  refine (safe_create m t s context rfl h).step (fun _ => Prog.safe_pure _) fun payload => ?_
  refine Prog.safe_look (Prog.safe_pure _) ?_
  split
  · exact Prog.safe_pure _
  · refine (safe_listPages m t s context _ fuel true 1 []).step (fun _ => Prog.safe_pure _)
      fun pages => ?_
    exact safe_lastClose _ t s context

theorem safe_fileReader {path : ByteVector} (length : UInt32) (offset : UInt64)
    (h : fitsCreate path) : (fileReader m t s context path length offset).Safe := by
  refine Prog.safe_look (Prog.safe_pure _) ?_
  refine (safe_create m t s context rfl h).step (fun _ => Prog.safe_pure _) fun payload => ?_
  refine Prog.safe_look (Prog.safe_pure _) ?_
  split
  · exact Prog.safe_pure _
  · refine (Prog.safe_exchangeResponse (Request.frame_read _ t s rfl)).step
      (fun _ => Prog.safe_pure _) fun read => ?_
    exact safe_lastClose _ t s context

theorem safe_fileWriter {path data : ByteVector} (offset : UInt64) (h : fitsCreate path)
    (hdata : data = [] ∨ fitsWrite data) : (fileWriter m t s context path data offset).Safe := by
  refine Prog.safe_look (Prog.safe_pure _) ?_
  refine (safe_create m t s context rfl h).step (fun _ => Prog.safe_pure _) fun payload => ?_
  refine Prog.safe_look (Prog.safe_pure _) ?_
  split
  · exact Prog.safe_pure _
  by_cases hempty : data = []
  · rw [if_pos hempty]
    exact safe_lastClose _ t s context
  · rw [if_neg hempty]
    refine (Prog.safe_exchangeResponse (Request.frame_write _ t s (hdata.resolve_left hempty)
      rfl)).step (fun _ => Prog.safe_pure _) fun write => ?_
    exact safe_lastClose _ t s context

theorem safe_remoteStatReader {path : ByteVector} (h : fitsCreate path) :
    (remoteStatReader m t s context path).Safe := by
  refine Prog.safe_look (Prog.safe_pure _) ?_
  refine (safe_create m t s context rfl h).step (fun _ => Prog.safe_pure _) fun payload => ?_
  refine Prog.safe_look (Prog.safe_pure _) ?_
  split
  · exact Prog.safe_pure _
  refine (safe_queryInfoExchanger _ t s context rfl).step (fun _ => Prog.safe_pure _)
    fun basicResponse => ?_
  refine Prog.safe_look (Prog.safe_pure _) ?_
  split
  · exact Prog.safe_pure _
  refine (safe_queryInfoExchanger _ t s context rfl).step (fun _ => Prog.safe_pure _)
    fun standardResponse => ?_
  refine Prog.safe_look (Prog.safe_pure _) ?_
  split
  · exact Prog.safe_pure _
  · exact safe_lastClose _ t s context

theorem safe_withMetadataObject {cancelled : DecodeResult α} {path : ByteVector} (access : UInt32)
    {operation : CreateResponse → Prog (DecodeResult α)} (h : fitsCreate path)
    (hoperation : ∀ create, (operation create).Safe) :
    (withMetadataObject m t s context cancelled path access operation).Safe := by
  refine Prog.safe_look (Prog.safe_pure _) ?_
  have hopen : (openForMetadata m t s context (metadataOpenOptions path access)).Safe :=
    (safe_openFile m t s context rfl h).step (fun _ => Prog.safe_pure _) fun _ => Prog.safe_pure _
  refine hopen.step (fun _ => Prog.safe_pure _) fun create => ?_
  exact Prog.safe_look (Prog.safe_pure _) (hoperation create)

theorem safe_setInfoAndClose {create : CreateResponse} {options : SetInfoRequestOptions}
    (h : fitsSetInfo options.buffer) : (setInfoAndClose m t s context create options).Safe := by
  refine (safe_setInfoExchanger _ t s context h).step (fun _ => Prog.safe_pure _) fun _ => ?_
  exact safe_lastClose _ t s context

theorem safe_metadataListExtendedAttributes {path : ByteVector} (h : fitsCreate path) :
    (metadataListExtendedAttributes m t s context path).Safe := by
  refine safe_withMetadataObject m t s context _ h fun create => ?_
  refine (safe_queryInfoExchanger _ t s context rfl).step (fun _ => Prog.safe_pure _)
    fun query => ?_
  dsimp only
  split
  · exact Prog.safe_pure _
  · exact safe_lastClose _ t s context

theorem safe_metadataQuerySecurityDescriptor {path : ByteVector} (securityInformation : UInt32)
    (h : fitsCreate path) :
    (metadataQuerySecurityDescriptor m t s context path securityInformation).Safe := by
  refine safe_withMetadataObject m t s context _ h fun create => ?_
  refine (safe_queryInfoExchanger _ t s context rfl).step (fun _ => Prog.safe_pure _)
    fun query => ?_
  exact safe_lastClose _ t s context

theorem safe_metadataSetExtendedAttributes {path : ByteVector}
    {entries : List FileFullEaInformation} (h : fitsCreate path)
    (hentries : fitsAttributes entries) :
    (metadataSetExtendedAttributes m t s context path entries).Safe := by
  obtain ⟨buffer, hbuffer, hfits⟩ := hentries
  refine safe_withMetadataObject m t s context _ h fun create => ?_
  rw [hbuffer]
  exact safe_setInfoAndClose m t s context hfits

theorem safe_closeAndReturn (fileId : FileId) : (closeAndReturn m t s context fileId).Safe :=
  safe_lastClose m t s context

theorem safe_withObject {cancelled : String} {options : CreateRequestOptions}
    {operation : FileId → Prog (DecodeResult RemoteObjectResult)}
    (hc : options.createContexts = []) (h : fitsCreate options.path)
    (hoperation : ∀ fileId, (operation fileId).Safe) :
    (withObject m t s context cancelled options operation).Safe := by
  refine Prog.safe_look (Prog.safe_pure _) ?_
  refine (safe_openFile m t s context hc h).step (fun _ => Prog.safe_pure _) fun create => ?_
  exact Prog.safe_look (Prog.safe_pure _) (hoperation create.fileId)

theorem safe_setInfoOnObject {cancelled : String} {options : CreateRequestOptions}
    (fileInfoClass : UInt8) {buffer : Except Exn ByteVector} (hc : options.createContexts = [])
    (h : fitsCreate options.path) (hbuffer : fitsBuilt fitsSetInfo buffer) :
    (setInfoOnObject m t s context cancelled options fileInfoClass buffer).Safe := by
  obtain ⟨bytes, rfl, hfits⟩ := hbuffer
  refine safe_withObject m t s context hc h fun fileId => ?_
  refine (safe_setInfoExchanger _ t s context hfits).step (fun _ => Prog.safe_pure _) fun _ => ?_
  exact safe_closeAndReturn _ t s context _

theorem safe_objectDelete {path : ByteVector} (directory : Bool) (h : fitsCreate path) :
    (objectDelete m t s context path directory).Safe :=
  safe_setInfoOnObject m t s context _ rfl h
    ⟨_, rfl, show 97 ≤ kMaxDirectTcpPayloadLength by decide⟩

theorem safe_objectCreateSymbolicLink {linkPath targetPath : ByteVector}
    (directory relative : Bool) (h : fitsCreate linkPath)
    (htarget : fitsBuilt fitsIoctl
      (buildSymbolicLinkReparseBuffer targetPath targetPath relative)) :
    (objectCreateSymbolicLink m t s context linkPath targetPath directory relative).Safe := by
  obtain ⟨input, hinput, hfits⟩ := htarget
  refine safe_withObject m t s context rfl h fun fileId => ?_
  rw [hinput]
  have hioctl : (ioctl (m + 1) t s context {
      ctlCode := kFsctlSetReparsePoint, fileId, input, maxOutputResponse := 0,
      flags := kIoctlIsFsctl }).Safe := safe_ioctl _ t s context hfits
  refine hioctl.step (fun _ => Prog.safe_pure _) fun _ => ?_
  exact safe_closeAndReturn _ t s context _

theorem safe_directoryWatcher {path : ByteVector} (completionFilter : UInt32) (watchTree : Bool)
    (outputBufferLength : UInt32) (h : fitsCreate path) :
    (directoryWatcher m t s context path completionFilter watchTree outputBufferLength).Safe := by
  refine Prog.safe_look (Prog.safe_pure _) ?_
  refine (safe_openFile m t s context rfl h).step (fun _ => Prog.safe_pure _) fun create => ?_
  refine Prog.safe_look (Prog.safe_pure _) ?_
  refine (Prog.safe_exchangeResponse (Request.frame_changeNotify _ t s _)).step
    (fun _ => Prog.safe_pure _) fun notify => ?_
  exact safe_lastClose _ t s context

theorem safe_writePipe (fileId : FileId) {data : ByteVector} (h : fitsWrite data) :
    (writePipe m t s context fileId data).Safe := by
  refine (Prog.safe_exchangeResponse (Request.frame_write m t s h rfl)).step
    (fun _ => Prog.safe_pure _) fun written => ?_
  dsimp only
  split
  · exact Prog.safe_pure _
  · exact Prog.safe_pure _

theorem safe_readPipe (fileId : FileId) : (readPipe m t s context fileId).Safe :=
  (Prog.safe_exchangeResponse (Request.frame_read m t s rfl)).step (fun _ => Prog.safe_pure _)
    fun _ => Prog.safe_pure _

theorem safe_closePipe (fileId : FileId) : (closePipe m t s context fileId).Safe :=
  safe_lastClose m t s context

theorem safe_closeOpenedPipe (fileId : FileId) (e : ProtocolError) (used : ℕ) :
    (closeOpenedPipe m t s fileId e used : Prog (DecodeResult α)).Safe :=
  (safe_closePipe _ t s _ fileId).bind fun _ => Prog.safe_pure _

/-- The share request for this server name can be built and written. -/
def fitsShareEnum (serverName : ByteVector) : Prop :=
  fitsBuilt (fun stub => fitsWrite (buildDcerpcRequestPdu kSrvsNetrShareEnumOpnum stub 2))
    (buildNetrShareEnumRequestStub serverName)

theorem safe_exchangeShareEnum (fileId : FileId) {requestPdu : ByteVector}
    (h : fitsWrite requestPdu) : (exchangeShareEnum m t s context fileId requestPdu).Safe := by
  refine (safe_writePipe _ t s context fileId h).step (fun _ => safe_closeOpenedPipe m t s ..)
    fun _ => ?_
  refine (safe_readPipe _ t s context fileId).step (fun _ => safe_closeOpenedPipe m t s ..)
    fun responseBytes => ?_
  dsimp only
  split
  · exact safe_closeOpenedPipe m t s ..
  split
  · exact safe_closeOpenedPipe m t s ..
  · exact (safe_closePipe _ t s context fileId).step (fun _ => Prog.safe_pure _)
      fun _ => Prog.safe_pure _

theorem safe_remoteShareEnumerator {serverName : ByteVector} (h : fitsShareEnum serverName) :
    (remoteShareEnumerator m t s context serverName).Safe := by
  obtain ⟨stub, hstub, hfits⟩ := h
  have hpipe : fitsCreate srvsvcPipeOpenOptions.path := ⟨_, rfl, by decide⟩
  have hbind : fitsWrite (buildDcerpcBindPdu srvsRpcSyntax 1) :=
    show 184 ≤ kMaxDirectTcpPayloadLength by decide
  refine Prog.safe_look (Prog.safe_pure _) ?_
  refine (safe_create m t s context rfl hpipe).step (fun _ => Prog.safe_pure _)
    fun createPayload => ?_
  dsimp only
  split
  · exact Prog.safe_pure _
  refine (safe_writePipe _ t s context _ hbind).step (fun e => ?_) fun _ => ?_
  · exact safe_closeOpenedPipe m t s ..
  refine (safe_readPipe _ t s context _).step (fun e => ?_) fun bindBytes => ?_
  · exact safe_closeOpenedPipe m t s ..
  dsimp only
  split
  · exact safe_closeOpenedPipe m t s ..
  · rw [hstub]
    exact safe_exchangeShareEnum m t s context _ hfits

theorem safe_remoteDfsReferralFetcher {requestPath : ByteVector}
    (h : fitsBuilt fitsIoctl (buildDfsGetReferralRequest requestPath)) :
    (remoteDfsReferralFetcher m t s context requestPath).Safe := by
  obtain ⟨input, hinput, hfits⟩ := h
  refine Prog.safe_look (Prog.safe_pure _) ?_
  rw [hinput]
  refine (Prog.safe_exchangePayload ((Request.frame_ioctl_iff m t s).2 hfits)).step
    (fun _ => Prog.safe_pure _) fun payload => ?_
  dsimp only
  split
  · exact Prog.safe_pure _
  split
  · exact Prog.safe_pure _
  · exact Prog.safe_pure _

end

/-! ## The methods of a session -/

namespace SessionM

variable {context : OperationContext}

theorem safe_pure (a : α) : (pure a : SessionM α).Safe := ⟨fun _ => noThrow_ok a⟩

theorem safe_unfinished : (throw .unfinished : SessionM α).Safe := ⟨fun _ => noThrow_unfinished⟩

theorem Safe.bind {p : SessionM α} {f : α → SessionM β} (hp : p.Safe) (hf : ∀ a, (f a).Safe) :
    (p >>= f).Safe := by
  refine ⟨fun session => ?_⟩
  exact (hp.meets session).bind (fun a session' _ _ => (hf a).meets session') fun _ _ _ h =>
    h.of_error

/-- A step that may fail. -/
theorem Safe.step {p : SessionM (DecodeResult α)} {f : DecodeResult α → SessionM β} (hp : p.Safe)
    (herror : ∀ e, (f (.error e)).Safe) (hok : ∀ a, (f (.ok a)).Safe) : (p >>= f).Safe := by
  refine hp.bind fun r => ?_
  cases r with
  | error e => exact herror e
  | ok a => exact hok a

theorem Safe.discard {p : SessionM α} (hp : p.Safe) : (discard p).Safe := by
  have hdiscard : Functor.discard p = p >>= fun _ => pure () := by
    rw [Functor.discard, LawfulFunctor.map_const, Function.comp_apply, ← bind_pure_comp]
  rw [hdiscard]
  exact hp.bind fun _ => safe_pure ()

theorem safe_ofProg {p : Prog α} (h : p.Safe) : (ofProg p).Safe :=
  ⟨fun _ => meetsS_ofProg.2 h.meets⟩

/-- A buffer that can be built before the next step. -/
theorem safe_built {x : Except Exn α} {a : α} {f : α → SessionM β} (hx : x = .ok a)
    (h : (f a).Safe) : (ofProg (Prog.ofExcept x) >>= f).Safe := by
  subst hx
  exact ⟨fun session => h.meets session⟩

theorem safe_withIds (messageId : ℕ) {f : ℕ → UInt32 → UInt64 → Prog α}
    (h : ∀ m t s, (f m t s).Safe) : (withIds messageId f).Safe :=
  ⟨fun session => meetsS_withIds.2 (h messageId session.treeId session.sessionId).meets⟩

theorem safe_enter (call : SessionCall) : (enter call).Safe :=
  safe_ofProg ⟨meetsE_lift.2 (meets_tracking_ask.2 fun _ => noThrow_ok ())⟩

theorem safe_cancelled (context : OperationContext) : (cancelled context).Safe :=
  safe_ofProg (Prog.safe_isCancelled .session context)

/-- A look at the token before the next step. -/
theorem safe_look {p q : SessionM α} (hp : p.Safe) (hq : q.Safe) :
    (cancelled context >>= fun b => if b then p else q).Safe := by
  refine (safe_cancelled context).bind fun b => ?_
  cases b with
  | true => exact hp
  | false => exact hq

theorem safe_allocateMessageIds (count : ℕ) : (allocateMessageIds count).Safe :=
  ⟨fun _ => noThrow_ok _⟩

theorem safe_useMessageIds (count : ℕ) : (useMessageIds count).Safe := ⟨fun _ => noThrow_ok _⟩

theorem safe_get : (get : SessionM Session).Safe := ⟨fun _ => noThrow_ok _⟩

end SessionM

section

variable (context : OperationContext)

theorem safe_withReportedIds {call : SessionCall} {used : α → ℕ}
    {helper : ℕ → UInt32 → UInt64 → Prog (DecodeResult α)} {result : α → β}
    (h : ∀ m t s, (helper m t s).Safe) : (Session.withReportedIds call used helper result).Safe := by
  refine (SessionM.safe_enter call).bind fun _ => SessionM.safe_get.bind fun session => ?_
  refine (SessionM.safe_withIds _ h).step (fun e => ?_) fun a => ?_
  · exact (SessionM.safe_useMessageIds _).bind fun _ => SessionM.safe_pure _
  · exact (SessionM.safe_useMessageIds _).bind fun _ => SessionM.safe_pure _

theorem safe_withAllocatedIds {call : SessionCall} {count : ℕ}
    {helper : ℕ → UInt32 → UInt64 → Prog (DecodeResult α)} {result : α → β}
    (h : ∀ m t s, (helper m t s).Safe) :
    (Session.withAllocatedIds call count helper result).Safe := by
  refine (SessionM.safe_enter call).bind fun _ => ?_
  refine (SessionM.safe_allocateMessageIds count).bind fun messageId => ?_
  exact (SessionM.safe_withIds _ h).step (fun _ => SessionM.safe_pure _)
    fun _ => SessionM.safe_pure _

theorem safe_closeFile (fileId : FileId) : (Session.closeFile fileId context).Safe := by
  refine (SessionM.safe_allocateMessageIds 1).bind fun messageId => ?_
  refine (SessionM.safe_withIds _ fun m t s => safe_closeExchanger m t s context _).step
    (fun _ => SessionM.safe_pure _) fun _ => SessionM.safe_pure _

theorem safe_listDirectory (fuel : ℕ) {path : ByteVector} (h : fitsCreate path) :
    (Session.listDirectory fuel path context).Safe := by
  refine (SessionM.safe_enter _).bind fun _ => SessionM.safe_get.bind fun session => ?_
  refine (SessionM.safe_withIds _ fun m t s => safe_directoryLister m t s context fuel h).step
    (fun e => ?_) fun result => ?_
  · exact (SessionM.safe_useMessageIds _).bind fun _ => SessionM.safe_pure _
  · exact (SessionM.safe_useMessageIds _).bind fun _ => SessionM.safe_pure _

theorem safe_deleteObject {path : ByteVector} (directory : Bool) (h : fitsCreate path) :
    (Session.deleteObject path directory context).Safe :=
  safe_withAllocatedIds fun m t s => safe_objectDelete m t s context directory h

/-! ### Server-side copy -/

theorem safe_closeBoth (source target : FileId) : (Session.closeBoth source target).Safe :=
  (safe_closeFile {} target).bind fun _ => (safe_closeFile {} source).bind fun _ =>
    SessionM.safe_pure ()

/-- Both handles are closed before the method ends with this result. -/
theorem safe_closeBothThen (source target : FileId) (result : α) :
    (do Session.closeBoth source target; return result : SessionM α).Safe :=
  (safe_closeBoth source target).bind fun _ => SessionM.safe_pure result

theorem safe_openWithFreshId {options : CreateRequestOptions} (hc : options.createContexts = [])
    (h : fitsCreate options.path) : (Session.openWithFreshId options context).Safe :=
  (SessionM.safe_allocateMessageIds 1).bind fun messageId =>
    SessionM.safe_withIds messageId fun m t s => safe_openFile m t s context hc h

theorem safe_ioctlWithFreshId {options : IoctlRequestOptions} (h : fitsIoctl options.input) :
    (Session.ioctlWithFreshId options context).Safe :=
  (SessionM.safe_allocateMessageIds 1).bind fun messageId =>
    SessionM.safe_withIds messageId fun m t s => safe_ioctl m t s context h

/-- The request of one chunk can be built: the resume key was checked. -/
theorem buildSrvCopyChunkRequest_single {resumeKey : ByteVector} (chunk : CopyChunk)
    (h : ¬ resumeKey.length < 24) : fitsBuilt fitsIoctl (buildSrvCopyChunkRequest resumeKey [chunk]) := by
  refine ⟨_, by simp only [buildSrvCopyChunkRequest, h, List.length_singleton, u32Max, decide_false,
    throwWhen_false, Nat.reduceGT]; rfl, ?_⟩
  rw [fitsIoctl]
  simp [kMaxDirectTcpPayloadLength]
  omega

theorem safe_copyChunks (source target : FileId) {resumeKey : ByteVector} (targetPath : ByteVector)
    (size : ℕ) (h : ¬ resumeKey.length < 24) (fuel offset : ℕ) :
    (Session.copyChunks source target resumeKey targetPath size context fuel offset).Safe := by
  induction fuel generalizing offset with
  | zero => exact safe_closeBothThen source target _
  | succ fuel ih =>
    rw [Session.copyChunks]
    split
    · exact safe_closeBothThen source target _
    refine SessionM.safe_look (safe_closeBothThen source target _) ?_
    obtain ⟨input, hinput, hfits⟩ := buildSrvCopyChunkRequest_single {
      sourceOffset := UInt64.ofNat offset, targetOffset := UInt64.ofNat offset,
      length := UInt32.ofNat (min Session.kCopyChunkSize (size - offset)) } h
    refine SessionM.safe_built hinput ?_
    have hioctl : (Session.ioctlWithFreshId {
        ctlCode := kFsctlSrvCopyChunk, fileId := target, input, maxOutputResponse := 16,
        flags := kIoctlIsFsctl } context).Safe := safe_ioctlWithFreshId context hfits
    refine hioctl.step (fun e => safe_closeBothThen source target _) fun copied => ?_
    dsimp only
    split
    · exact safe_closeBothThen source target _
    split
    · exact safe_closeBothThen source target _
    · refine (SessionM.safe_ofProg (Prog.safe_reportProgress _ context)).bind fun _ => ?_
      exact ih _

theorem safe_requestResumeKey (source : FileId) :
    (Session.ioctlWithFreshId {
      ctlCode := kFsctlSrvRequestResumeKey, fileId := source, maxOutputResponse := 32,
      flags := kIoctlIsFsctl } context).Safe :=
  safe_ioctlWithFreshId context fitsIoctl_nil

theorem safe_copyFileServerSide {sourcePath targetPath : ByteVector} (size : UInt64)
    (hsource : fitsCreate sourcePath) (htarget : fitsCreate targetPath) :
    (Session.copyFileServerSide sourcePath targetPath size context).Safe := by
  refine (SessionM.safe_enter _).bind fun _ => ?_
  refine SessionM.safe_look (SessionM.safe_pure _) ?_
  refine (safe_openWithFreshId context rfl hsource).step (fun _ => SessionM.safe_pure _)
    fun source => ?_
  refine SessionM.safe_look ?_ ?_
  · exact (safe_closeFile {} source.fileId).bind fun _ => SessionM.safe_pure _
  refine (safe_openWithFreshId context rfl htarget).step (fun e => ?_) fun target => ?_
  · exact (safe_closeFile {} source.fileId).bind fun _ => SessionM.safe_pure _
  dsimp only
  by_cases hempty : size = 0
  · rw [if_pos hempty]
    exact safe_closeBothThen source.fileId target.fileId _
  rw [if_neg hempty]
  refine (safe_requestResumeKey context source.fileId).step
    (fun e => safe_closeBothThen source.fileId target.fileId _) fun resume => ?_
  dsimp only
  split
  · exact safe_closeBothThen source.fileId target.fileId _
  · rename_i hlong
    exact safe_copyChunks context source.fileId target.fileId targetPath size.toNat hlong _ 0

end

/-! ### Every method -/

/-- The paths a method opens with CREATE. -/
def SessionCall.opens : SessionCall → List ByteVector
  | .listDirectory path => [path]
  | .readFileOnce path _ _ => [path]
  | .openFileForRead path => [path]
  | .writeFileOnce path _ _ => [path]
  | .statObject path => [path]
  | .setBasicInformation path _ => [path]
  | .listExtendedAttributes path => [path]
  | .setExtendedAttributes path _ => [path]
  | .removeExtendedAttribute path _ => [path]
  | .querySecurityDescriptor path _ => [path]
  | .setSecurityDescriptor path _ _ => [path]
  | .createDirectory path => [path]
  | .deleteObject path _ => [path]
  | .renameObject fromPath _ _ => [fromPath]
  | .createHardLink existingPath _ _ => [existingPath]
  | .createSymbolicLink linkPath _ _ _ => [linkPath]
  | .copyFileServerSide sourcePath targetPath _ => [sourcePath, targetPath]
  | .watchDirectoryOnce path _ _ => [path]
  | .readFileChunk .. => []
  | .closeFileHandle _ => []
  | .listShares _ => []
  | .getDfsReferrals _ => []

/-- What a method builds from its other arguments can be built and sent. -/
def SessionCall.Fits : SessionCall → Prop
  | .writeFileOnce _ data _ => data = [] ∨ fitsWrite data
  | .setExtendedAttributes _ entries => fitsAttributes entries
  | .removeExtendedAttribute _ name => fitsAttributes [{ name }]
  | .setSecurityDescriptor _ _ descriptor => fitsSetInfo descriptor
  | .renameObject _ toPath replace =>
    fitsBuilt fitsSetInfo (buildFileRenameInformation toPath replace)
  | .createHardLink _ linkPath replace =>
    fitsBuilt fitsSetInfo (buildFileLinkInformation linkPath replace)
  | .createSymbolicLink _ targetPath _ relative =>
    fitsBuilt fitsIoctl (buildSymbolicLinkReparseBuffer targetPath targetPath relative)
  | .listShares serverName => fitsShareEnum serverName
  | .getDfsReferrals requestPath => fitsBuilt fitsIoctl (buildDfsGetReferralRequest requestPath)
  | _ => True

/-- The arguments of a method can be encoded. -/
def SessionCall.Encodable (call : SessionCall) : Prop :=
  (∀ path ∈ call.opens, fitsCreate path) ∧ call.Fits

/-- A method whose arguments can be encoded never throws. -/
theorem SessionCall.safe_run {call : SessionCall} (h : call.Encodable) (fuel : ℕ)
    (context : OperationContext) : (call.run fuel context).Safe := by
  obtain ⟨hopens, hfits⟩ := h
  cases call with
  | listDirectory path =>
    exact (safe_listDirectory context fuel (hopens path (by simp [opens]))).discard
  | readFileOnce path length offset =>
    refine SessionM.Safe.discard ?_
    refine (SessionM.safe_enter _).bind fun _ => ?_
    refine (SessionM.safe_allocateMessageIds 3).bind fun messageId => ?_
    exact (SessionM.safe_withIds _ fun m t s =>
      safe_fileReader m t s context length offset (hopens path (by simp [opens]))).step
      (fun _ => SessionM.safe_pure _) fun _ => SessionM.safe_pure _
  | openFileForRead path =>
    refine SessionM.Safe.discard ?_
    refine (SessionM.safe_enter _).bind fun _ => ?_
    refine (SessionM.safe_allocateMessageIds 1).bind fun messageId => ?_
    exact (SessionM.safe_withIds _ fun m t s =>
      safe_openFile m t s context rfl (hopens path (by simp [opens]))).step
      (fun _ => SessionM.safe_pure _) fun _ => SessionM.safe_pure _
  | readFileChunk fileId length offset =>
    refine SessionM.Safe.discard ?_
    refine (SessionM.safe_enter _).bind fun _ => ?_
    refine (SessionM.safe_allocateMessageIds _).bind fun messageId => ?_
    exact (SessionM.safe_withIds _ fun m t s =>
      Prog.safe_exchangeResponse (Request.frame_read m t s rfl)).step
      (fun _ => SessionM.safe_pure _) fun _ => SessionM.safe_pure _
  | closeFileHandle fileId =>
    exact ((SessionM.safe_enter _).bind fun _ => safe_closeFile context fileId).discard
  | writeFileOnce path data offset =>
    refine SessionM.Safe.discard ?_
    refine (SessionM.safe_enter _).bind fun _ => SessionM.safe_get.bind fun session => ?_
    refine (SessionM.safe_withIds _ fun m t s =>
      safe_fileWriter m t s context offset (hopens path (by simp [opens])) hfits).step
      (fun e => ?_) fun result => ?_
    · exact (SessionM.safe_useMessageIds _).bind fun _ => SessionM.safe_pure _
    · exact (SessionM.safe_useMessageIds _).bind fun _ => SessionM.safe_pure _
  | statObject path =>
    exact (safe_withReportedIds fun m t s =>
      safe_remoteStatReader m t s context (hopens path (by simp [opens]))).discard
  | setBasicInformation path info =>
    refine (safe_withReportedIds fun m t s => ?_).discard
    refine safe_withMetadataObject m t s context _ (hopens path (by simp [opens])) fun create => ?_
    exact safe_setInfoAndClose m t s context (by simp [fitsSetInfo, buildFileBasicInformation,
      kMaxDirectTcpPayloadLength])
  | listExtendedAttributes path =>
    exact (safe_withReportedIds fun m t s =>
      safe_metadataListExtendedAttributes m t s context (hopens path (by simp [opens]))).discard
  | setExtendedAttributes path entries =>
    exact (safe_withReportedIds fun m t s =>
      safe_metadataSetExtendedAttributes m t s context (hopens path (by simp [opens]))
        hfits).discard
  | removeExtendedAttribute path name =>
    exact (safe_withReportedIds fun m t s =>
      safe_metadataSetExtendedAttributes m t s context (hopens path (by simp [opens]))
        hfits).discard
  | querySecurityDescriptor path information =>
    exact (safe_withReportedIds fun m t s =>
      safe_metadataQuerySecurityDescriptor m t s context information
        (hopens path (by simp [opens]))).discard
  | setSecurityDescriptor path information descriptor =>
    refine (safe_withReportedIds fun m t s => ?_).discard
    refine safe_withMetadataObject m t s context _ (hopens path (by simp [opens])) fun create => ?_
    exact safe_setInfoAndClose m t s context hfits
  | createDirectory path =>
    refine (safe_withAllocatedIds fun m t s => ?_).discard
    exact safe_withObject m t s context rfl (hopens path (by simp [opens])) fun fileId =>
      safe_closeAndReturn _ t s context fileId
  | deleteObject path directory =>
    exact (safe_deleteObject context directory (hopens path (by simp [opens]))).discard
  | renameObject fromPath toPath replace =>
    exact (safe_withAllocatedIds fun m t s =>
      safe_setInfoOnObject m t s context _ rfl (hopens fromPath (by simp [opens])) hfits).discard
  | createHardLink existingPath linkPath replace =>
    exact (safe_withAllocatedIds fun m t s =>
      safe_setInfoOnObject m t s context _ rfl (hopens existingPath (by simp [opens]))
        hfits).discard
  | createSymbolicLink linkPath targetPath directory relative =>
    exact (safe_withAllocatedIds fun m t s =>
      safe_objectCreateSymbolicLink m t s context directory relative
        (hopens linkPath (by simp [opens])) hfits).discard
  | copyFileServerSide sourcePath targetPath size =>
    exact (safe_copyFileServerSide context size (hopens sourcePath (by simp [opens]))
      (hopens targetPath (by simp [opens]))).discard
  | watchDirectoryOnce path filter watchTree =>
    exact (safe_withAllocatedIds fun m t s =>
      safe_directoryWatcher m t s context filter watchTree _
        (hopens path (by simp [opens]))).discard
  | listShares serverName =>
    exact (safe_withReportedIds fun m t s =>
      safe_remoteShareEnumerator m t s context hfits).discard
  | getDfsReferrals requestPath =>
    exact (safe_withReportedIds fun m t s =>
      safe_remoteDfsReferralFetcher m t s context hfits).discard

end SmbBrowser.Native
