import SmbBrowser.Native.DisjointIds
import SmbBrowser.Native.Throwing

/-!
# Operations that never throw

The recursive and wildcard deletes read the names they go on with off the wire,
so whether they can throw depends on what a server can list.

Results:
* `Listable.exists_utf16`: a name a server can list is decoded from UTF-16;
* `SessionOperation.neverThrows_iff`: an operation never throws exactly when its
  arguments, and every name it may be given by a server, can be encoded.
-/

namespace SmbBrowser.Native

open SmbBrowser.Base

variable {α β : Type}

/-! ## Names a server can list -/

/-- Some reply to QUERY_DIRECTORY lists an object of this name. -/
def Listable (name : ByteVector) : Prop :=
  ∃ message response, message.length ≤ kMaxDirectTcpPayloadLength ∧
    decodeQueryDirectoryResponse message = .ok response ∧
    ∃ entry ∈ response.entries, entry.name = name

theorem utf8CodePoint_ne_nil (codePoint : UInt32) : 1 ≤ (utf8CodePoint codePoint).length := by
  rw [utf8CodePoint]
  split_ifs <;> simp

/-- A decoded text has at least one byte for four of its encoding. -/
theorem length_le_of_decodeUtf16LeLoop {utf16 text : ByteVector}
    (h : decodeUtf16LeLoop utf16 = .ok text) : utf16.length ≤ 4 * text.length + 1 := by
  fun_induction decodeUtf16LeLoop utf16 generalizing text with
  | case1 => cases h
  | case2 low high unit hunit low' high' rest next hnext codePoint =>
    rename_i ih
    obtain ⟨more, hmore, hrest⟩ := bind_eq_ok.1 h
    rw [pure_eq_ok] at hrest
    have hfirst := utf8CodePoint_ne_nil codePoint
    have hlen := ih hmore
    rw [← hrest, List.length_append]
    simp only [List.length_cons]
    omega
  | case3 => cases h
  | case4 => cases h
  | case5 low high rest unit hhigh hlow =>
    rename_i ih
    obtain ⟨more, hmore, hrest⟩ := bind_eq_ok.1 h
    rw [pure_eq_ok] at hrest
    have hfirst := utf8CodePoint_ne_nil unit
    have hlen := ih hmore
    rw [← hrest, List.length_append]
    simp only [List.length_cons]
    omega
  | case6 bytes hshort =>
    rcases bytes with _ | ⟨low, _ | ⟨high, rest⟩⟩
    · simp
    · simp
    · exact absurd rfl (hshort low high rest)

theorem length_le_of_decodeUtf16Le {utf16 text : ByteVector} (h : decodeUtf16Le utf16 = .ok text) :
    utf16.length ≤ 4 * text.length + 1 := by
  rw [decodeUtf16Le] at h
  split at h
  · cases h
  · exact length_le_of_decodeUtf16LeLoop h

theorem length_of_readBytes {data bytes : ByteVector} {off len : ℕ}
    (h : readBytes data off len = .ok bytes) : bytes.length = len := by
  rw [readBytes] at h
  split at h
  · rename_i slice hslice
    injection h with h
    rw [← h]
    exact length_of_slice hslice
  · cases h

/-- A message in a frame is no longer than the three bytes of its length say. -/
theorem length_of_decodeDirectTcpPayload {frame payload : ByteVector}
    (h : decodeDirectTcpPayload frame = .ok payload) :
    payload.length ≤ kMaxDirectTcpPayloadLength := by
  rw [decodeDirectTcpPayload] at h
  split at h
  · cases h
  rename_i payloadLength hlength
  split at h
  · cases h
  rw [length_of_readBytes h]
  rw [decodeDirectTcpPayloadLength] at hlength
  split at hlength
  · cases hlength
  obtain ⟨marker, -, hlength⟩ := bind_eq_ok.1 hlength
  split at hlength
  · cases hlength
  obtain ⟨field, hfield, hlength⟩ := bind_eq_ok.1 hlength
  rw [pure_eq_ok] at hlength
  have hlt : beValue field < 256 ^ 3 := by
    have hvalue := leValue_lt field.reverse
    rwa [List.length_reverse, length_of_readBytes hfield] at hvalue
  rw [kMaxDirectTcpPayloadLength]
  omega

/-- What the decoder of one entry gives holds of every entry. -/
theorem mem_decodeEntriesLoop {entryAt : ℕ → DecodeResult (α × UInt32)} {entriesEnd : ℕ}
    {P : α → Prop} (hP : ∀ offset entry next, entryAt offset = .ok (entry, next) → P entry)
    {fuel offset : ℕ} {entries : List α}
    (h : decodeEntriesLoop entryAt entriesEnd fuel offset = .ok entries) :
    ∀ entry ∈ entries, P entry := by
  induction fuel generalizing offset entries with
  | zero =>
    injection h with h
    rw [← h]
    simp
  | succ fuel ih =>
    rw [decodeEntriesLoop] at h
    split at h
    · rw [pure_eq_ok] at h
      rw [← h]
      simp
    obtain ⟨⟨entry, next⟩, hentry, h⟩ := bind_eq_ok.1 h
    have hfirst := hP _ _ _ hentry
    dsimp only at h
    split at h
    · rw [pure_eq_ok] at h
      rw [← h]
      intro listed hlisted
      rwa [List.mem_singleton.1 hlisted]
    · obtain ⟨more, hmore, h⟩ := bind_eq_ok.1 h
      rw [pure_eq_ok] at h
      rw [← h]
      intro listed hlisted
      obtain rfl | hlisted := List.mem_cons.1 hlisted
      · exact hfirst
      · exact ih hmore listed hlisted

theorem exists_utf16_of_decodeDirectoryEntry {data : ByteVector} {entryOffset entriesEnd : ℕ}
    {entry : DirectoryEntry} {next : UInt32}
    (h : decodeDirectoryEntry data entryOffset entriesEnd = .ok (entry, next)) :
    ∃ utf16, decodeUtf16Le utf16 = .ok entry.name := by
  rw [decodeDirectoryEntry] at h
  split at h
  · cases h
  obtain ⟨_, -, h⟩ := bind_eq_ok.1 h
  obtain ⟨_, -, h⟩ := bind_eq_ok.1 h
  dsimp only at h
  split at h
  · cases h
  split at h
  · cases h
  obtain ⟨utf16, -, h⟩ := bind_eq_ok.1 h
  split at h
  · cases h
  rename_i name hname
  iterate 10 obtain ⟨_, -, h⟩ := bind_eq_ok.1 h
  rw [pure_eq_ok] at h
  injection h with h
  rw [← h]
  exact ⟨utf16, hname⟩

/-- The two outcomes of a listing reply. -/
theorem decodeQueryDirectoryResponse_eq_ok {message : ByteVector} {response : QueryDirectoryResponse}
    (h : decodeQueryDirectoryResponse message = .ok response) :
    (response.status = kStatusNoMoreFiles ∧ response.entries = []) ∨
    (response.status ≠ kStatusNoMoreFiles ∧ ∃ offset length,
      decodeEntries (decodeDirectoryEntry message) offset length = .ok response.entries) := by
  rw [decodeQueryDirectoryResponse] at h
  obtain ⟨header, -, h⟩ := bind_eq_ok.1 h
  split at h
  · rename_i hstatus
    rw [pure_eq_ok] at h
    rw [← h]
    exact .inl ⟨hstatus, rfl⟩
  rename_i hstatus
  obtain ⟨_, -, h⟩ := bind_eq_ok.1 h
  obtain ⟨offset, -, h⟩ := bind_eq_ok.1 h
  obtain ⟨length, -, h⟩ := bind_eq_ok.1 h
  split at h
  · cases h
  obtain ⟨entries, hentries, h⟩ := bind_eq_ok.1 h
  rw [pure_eq_ok] at h
  rw [← h]
  exact .inr ⟨hstatus, _, _, hentries⟩

/-- A name a server can list is decoded from UTF-16. -/
theorem Listable.exists_utf16 {name : ByteVector} (h : Listable name) :
    ∃ utf16, decodeUtf16Le utf16 = .ok name := by
  obtain ⟨message, response, -, hdecode, entry, hentry, rfl⟩ := h
  obtain ⟨-, hnone⟩ | ⟨-, offset, length, hentries⟩ := decodeQueryDirectoryResponse_eq_ok hdecode
  · rw [hnone] at hentry
    cases hentry
  · exact mem_decodeEntriesLoop (fun _ _ _ => exists_utf16_of_decodeDirectoryEntry) hentries entry
      hentry

/-! ## What a listing returns -/

/-- Every value the helper returns satisfies `P`. -/
structure Prog.Yields (p : Prog α) (P : α → Prop) : Prop where
  meets : MeetsE Anything p (fun r _ => ∀ a, r = .ok a → P a) ()

namespace Prog

variable {context : OperationContext} {request : Request} {P : α → Prop} {Q : β → Prop}

theorem yields_pure {a : α} (h : P a) : (pure a : Prog α).Yields P := by
  refine ⟨fun b hb => ?_⟩
  injection hb with hb
  rwa [← hb]

/-- A failure has no value to speak of. -/
theorem yields_failed (e : ProtocolError) :
    (pure (.error e) : Prog (DecodeResult α)).Yields fun r => ∀ a, r = .ok a → P a :=
  yields_pure fun a ha => by cases ha

theorem yields_throw (e : Exn) : (throw e : Prog α).Yields P := ⟨fun a ha => by cases ha⟩

theorem Yields.bind {p : Prog α} {f : α → Prog β} (hp : p.Yields P)
    (hf : ∀ a, P a → (f a).Yields Q) : (p >>= f).Yields Q :=
  ⟨hp.meets.bind (fun a _ ha => (hf a (ha a rfl)).meets) fun _ _ _ _ h => by cases h⟩

theorem yields_any (p : Prog α) : p.Yields fun _ => True := by
  refine ⟨?_⟩
  show Meets Anything p.run _ ()
  generalize p.run = q
  induction q with
  | pure r => exact fun _ _ => trivial
  | ask op k ih => exact ⟨trivial, fun ans _ _ => ih ans⟩

theorem yields_look {asker : Asker} {q q' : Prog β} (hq : q.Yields Q) (hq' : q'.Yields Q) :
    (Native.isCancelled asker context >>= fun cancelled => if cancelled then q else q').Yields Q := by
  refine (yields_any _).bind fun cancelled _ => ?_
  cases cancelled with
  | true => exact hq
  | false => exact hq'

/-- A message the client reads fits a Direct TCP frame. -/
theorem yields_exchangePayload : (Native.exchangePayload request context).Yields fun r =>
    ∀ message, r = .ok message → message.length ≤ kMaxDirectTcpPayloadLength := by
  refine ⟨exchangePayload_meets (fun e _ a ha => by cases ha) fun sent _ =>
    ⟨trivial, fun reply m _ => ⟨?_, ?_⟩⟩⟩
  · intro payload hpayload a ha message hmessage
    injection ha with ha
    rw [← ha] at hmessage
    injection hmessage with hmessage
    obtain ⟨frame, -, hframe⟩ := bind_eq_ok.1 hpayload
    rw [← hmessage]
    exact length_of_decodeDirectTcpPayload hframe
  · intro _ e a ha message hmessage
    injection ha with ha
    rw [← ha] at hmessage
    cases hmessage

end Prog

section

variable (m : ℕ) (t : UInt32) (s : UInt64) (context : OperationContext)

theorem yields_listPages (fileId : FileId) {fuel used : ℕ} {firstQuery : Bool}
    {entries : List DirectoryEntry} (h : ∀ entry ∈ entries, Listable entry.name) :
    (listPages m t s context fileId fuel firstQuery used entries).Yields fun r =>
      ∀ pages, r = .ok pages → ∀ entry ∈ pages.1, Listable entry.name := by
  induction fuel generalizing firstQuery used entries with
  | zero => exact Prog.yields_throw _
  | succ fuel ih =>
    refine Prog.yields_exchangePayload.bind fun r hr => ?_
    cases r with
    | error e => exact Prog.yields_failed _
    | ok message =>
      refine Prog.yields_look (Prog.yields_failed _) ?_
      split
      · exact Prog.yields_failed _
      rename_i response hdecode
      have hpage : ∀ pages, (.ok (entries, used + 1) : DecodeResult _) = .ok pages →
          ∀ entry ∈ pages.1, Listable entry.name := by
        intro pages hpages
        injection hpages with hpages
        rwa [← hpages]
      split
      · exact Prog.yields_pure hpage
      split
      · exact Prog.yields_pure hpage
      · refine ih fun entry hentry => ?_
        obtain hentry | hentry := List.mem_append.1 hentry
        · exact h entry hentry
        · exact ⟨message, response, hr message rfl, hdecode, entry, hentry, rfl⟩

theorem yields_directoryLister (fuel : ℕ) (path : ByteVector) :
    (directoryLister m t s context fuel path).Yields fun r =>
      ∀ result, r = .ok result → ∀ entry ∈ result.entries, Listable entry.name := by
  refine Prog.yields_look (Prog.yields_failed _) ?_
  refine (Prog.yields_any _).bind fun r _ => ?_
  cases r with
  | error e => exact Prog.yields_failed _
  | ok payload =>
    refine Prog.yields_look (Prog.yields_failed _) ?_
    split
    · exact Prog.yields_failed _
    refine (yields_listPages m t s context _ (by simp)).bind fun pages hpages => ?_
    cases pages with
    | error e => exact Prog.yields_failed _
    | ok pages =>
      refine (Prog.yields_any _).bind fun closed _ => ?_
      cases closed with
      | error e => exact Prog.yields_failed _
      | ok _ =>
        refine Prog.yields_pure fun result hresult => ?_
        injection hresult with hresult
        rw [← hresult]
        exact hpages pages rfl

end

/-- The names in a listing a session returns can be listed and are no dot
    entries. -/
theorem meets_listDirectory {fuel : ℕ} {path : ByteVector} (h : fitsCreate path)
    (context : OperationContext) (session : Session) :
    MeetsS Anything (Session.listDirectory fuel path context)
      (fun r _ _ => NoThrow r ∧ ∀ entries, r = .ok (.ok entries) → ∀ entry ∈ entries,
        Listable entry.name ∧ isDotEntry entry.name = false) session () := by
  refine meetsS_enter ⟨trivial, fun _ _ => ?_⟩
  refine meetsS_sessionGet.2 (meetsS_bind.2 (meetsS_withIds.2 ?_))
  have hsafe := (safe_directoryLister session.nextMessageId session.treeId session.sessionId context
    fuel h).meets
  have hlisted := (yields_directoryLister session.nextMessageId session.treeId session.sessionId
    context fuel path).meets
  refine (Meets.and hsafe hlisted).mono ?_
  intro r m' hanswer
  obtain ⟨hnothrow, hnames⟩ := hanswer
  cases r with
  | error e => exact ⟨hnothrow.of_error, fun _ h => by cases h⟩
  | ok result =>
    cases result with
    | error e => exact ⟨noThrow_ok _, fun _ h => by cases h⟩
    | ok result =>
      refine ⟨noThrow_ok _, fun entries hentries entry hentry => ?_⟩
      have hsame := Except.ok.inj (Except.ok.inj hentries)
      rw [← hsame] at hentry
      obtain ⟨listed, hmem, rfl⟩ := List.mem_map.1 hentry
      obtain ⟨hmem, hdot⟩ := List.mem_filter.1 hmem
      have hname : isDotEntry listed.name = false := by simpa using hdot
      exact ⟨hnames _ rfl result rfl listed hmem, hname⟩

/-! ## Recursive and wildcard deletes -/

/-- The arguments of an operation, and every name a server can give it, can be
    encoded: a recursive delete may only be refused, and a wildcard must match
    no name at all. -/
def SessionOperation.Encodable : SessionOperation → Prop
  | .call c => c.Encodable
  | .deleteTree path => path = []
  | .deleteWildcard parentPath pattern =>
    pattern = [] ∨ fitsCreate parentPath ∧ ∀ name, Listable name → isDotEntry name = false →
      Session.wildcardMatches pattern name = false

/-- No run of the operation ends with an exception of a builder. -/
def SessionOperation.NeverThrows (operation : SessionOperation) : Prop :=
  ∀ fuel context session es r session',
    Program.Runs ((operation.run fuel context).run.run session) es (r, session') → NoThrow r

/-- Entries that are not selected are skipped. -/
theorem deleteEntries_skip {select : NativeRemoteEntry → Bool} {text : String}
    {parent : ByteVector} {context : OperationContext}
    {deleteTree : ByteVector → SessionM (DecodeResult NativeObjectMutationResult)}
    {entries : List NativeRemoteEntry} (h : ∀ entry ∈ entries, select entry = false) :
    Session.deleteEntries select text parent context deleteTree entries = pure none := by
  induction entries with
  | nil => rfl
  | cons entry entries ih =>
    have hskip : (isDotEntry entry.name || ¬ select entry) = true := by
      rw [h entry List.mem_cons_self]
      simp
    rw [Session.deleteEntries, if_pos hskip]
    exact ih fun e he => h e (List.mem_cons_of_mem _ he)

theorem safe_deleteWildcard (fuel : ℕ) (context : OperationContext) {parentPath pattern : ByteVector}
    (h : fitsCreate parentPath) (hnone : ∀ name, Listable name → isDotEntry name = false →
      Session.wildcardMatches pattern name = false) :
    (Session.deleteWildcard fuel parentPath pattern context).Safe := by
  rw [Session.deleteWildcard]
  split
  · exact SessionM.safe_pure _
  refine SessionM.safe_look (SessionM.safe_pure _) ⟨fun session => ?_⟩
  refine meetsS_bind.2 ((meets_listDirectory h context session).mono ?_)
  intro r session' _ hanswer
  obtain ⟨hnothrow, hlisted⟩ := hanswer
  cases r with
  | error e => exact hnothrow.of_error
  | ok listing =>
    cases listing with
    | error e => exact noThrow_ok _
    | ok entries =>
      have hskip : ∀ entry ∈ entries, Session.wildcardMatches pattern entry.name = false := by
        intro entry hentry
        obtain ⟨hname, hdot⟩ := hlisted entries rfl entry hentry
        exact hnone _ hname hdot
      dsimp only
      rw [deleteEntries_skip hskip]
      exact noThrow_ok _

/-- An operation whose arguments can be encoded never throws. -/
theorem SessionOperation.safe_run {operation : SessionOperation} (h : operation.Encodable)
    (fuel : ℕ) (context : OperationContext) : (operation.run fuel context).Safe := by
  cases operation with
  | call c => exact c.safe_run h fuel context
  | deleteTree path =>
    obtain rfl : path = [] := h
    refine SessionM.Safe.discard ?_
    rw [Session.deleteTree]
    cases fuel with
    | zero => exact SessionM.safe_unfinished
    | succ fuel =>
      rw [Session.deleteTreeInternal, if_pos rfl]
      exact SessionM.safe_pure _
  | deleteWildcard parentPath pattern =>
    obtain rfl | ⟨hparent, hnone⟩ := h
    · refine SessionM.Safe.discard ?_
      rw [Session.deleteWildcard, if_pos rfl]
      exact SessionM.safe_pure _
    · exact (safe_deleteWildcard fuel context hparent hnone).discard

/-! ## Listings that make a delete throw -/

section

variable (m : ℕ) (t : UInt32) (s : UInt64)

/-- One page with these entries, then the end of the listing. -/
theorem returns_listPages (fileId : FileId) {fuel : ℕ} {message : ByteVector}
    {response : QueryDirectoryResponse} (hlen : message.length ≤ kMaxDirectTcpPayloadLength)
    (hdecode : decodeQueryDirectoryResponse message = .ok response)
    (hstatus : response.status ≠ kStatusNoMoreFiles) (hentries : response.entries ≠ []) :
    (listPages m t s {} fileId (fuel + 2) true 1 []).Returns (.ok (response.entries, 3)) := by
  rw [listPages]
  refine (Prog.returns_exchangePayload (Request.frame_queryDirectory _ t s rfl) hlen).bind ?_
  refine Prog.returns_look ?_
  rw [hdecode]
  dsimp only
  rw [if_neg hstatus, if_neg hentries, listPages]
  have hend : noMoreFilesMessage.length ≤ 0x00FFFFFF := by simp
  refine (Prog.returns_exchangePayload (Request.frame_queryDirectory _ t s rfl) hend).bind ?_
  refine Prog.returns_look ?_
  rw [decode_noMoreFilesMessage]
  exact Prog.returns_pure _

theorem returns_directoryLister {fuel : ℕ} {path message : ByteVector}
    {response : QueryDirectoryResponse} (h : fitsCreate path)
    (hlen : message.length ≤ kMaxDirectTcpPayloadLength)
    (hdecode : decodeQueryDirectoryResponse message = .ok response)
    (hstatus : response.status ≠ kStatusNoMoreFiles) (hentries : response.entries ≠ []) :
    (directoryLister m t s {} (fuel + 2) path).Returns
      (.ok { entries := response.entries, messagesUsed := 4 }) := by
  have hcreate : createdMessage.length ≤ 0x00FFFFFF := by simp
  have hframe := (Request.frame_create_iff m t s (o := listCreateOptions path) rfl).2 h
  refine Prog.returns_look ((Prog.returns_exchangePayload hframe hcreate).bind ?_)
  refine Prog.returns_look ?_
  rw [decode_createdMessage]
  refine (returns_listPages m t s _ hlen hdecode hstatus hentries).bind ?_
  exact (returns_closeExchanger _ t s _).bind (Prog.returns_pure _)

theorem returns_remoteStatReader {path : ByteVector} (h : fitsCreate path) :
    (remoteStatReader m t s {} path).Returns (.ok { messagesUsed := 4, directory := true }) := by
  have hcreate : createdMessage.length ≤ 0x00FFFFFF := by simp
  have hbasicLength : (informationMessage basicInformation).length ≤ 0x00FFFFFF := by
    simp [basicInformation]
  have hdirectoryLength : (informationMessage directoryInformation).length ≤ 0x00FFFFFF := by
    simp [directoryInformation]
  have hbasic : decodeFileBasicInformation basicInformation = .ok {} := rfl
  have hdirectory : decodeFileStandardInformation directoryInformation =
      .ok { directory := true } := rfl
  have hframe := (Request.frame_create_iff m t s (o := statCreateOptions path) rfl).2 h
  refine Prog.returns_look ((Prog.returns_exchangePayload hframe hcreate).bind ?_)
  refine Prog.returns_look ?_
  rw [decode_createdMessage]
  refine (Prog.returns_exchangeResponse (Request.frame_queryInfo _ t s rfl) hbasicLength
    decode_basicMessage).bind (Prog.returns_look ?_)
  dsimp only
  rw [hbasic]
  refine (Prog.returns_exchangeResponse (Request.frame_queryInfo _ t s rfl) hdirectoryLength
    decode_directoryMessage).bind (Prog.returns_look ?_)
  dsimp only
  rw [hdirectory]
  exact (returns_closeExchanger _ t s _).bind (Prog.returns_pure _)

end

/-- A listing whose only page is this message. -/
theorem returns_listDirectory (fuel : ℕ) {path message : ByteVector}
    {response : QueryDirectoryResponse} (h : fitsCreate path)
    (hlen : message.length ≤ kMaxDirectTcpPayloadLength)
    (hdecode : decodeQueryDirectoryResponse message = .ok response)
    (hstatus : response.status ≠ kStatusNoMoreFiles) (hentries : response.entries ≠ []) :
    (Session.listDirectory (fuel + 2) path {}).Returns
      (.ok ((response.entries.filter fun entry => ¬ isDotEntry entry.name).map toNativeEntry)) := by
  refine (SessionM.returns_enter _).bind (SessionM.returns_get fun session => ?_)
  refine (SessionM.returns_withIds _ fun m t s =>
    returns_directoryLister m t s h hlen hdecode hstatus hentries).bind ?_
  exact (SessionM.returns_useMessageIds _).bind (SessionM.returns_pure _)

/-- A delete that throws on every selected entry throws when there is one. -/
theorem throws_deleteEntries {select : NativeRemoteEntry → Bool} {text : String}
    {parent : ByteVector} {deleteTree : ByteVector → SessionM (DecodeResult NativeObjectMutationResult)}
    {entries : List NativeRemoteEntry}
    (hdelete : ∀ entry ∈ entries, isDotEntry entry.name = false → select entry = true →
      (if entry.directory && ¬ entry.reparsePoint then deleteTree (joinRemotePath parent entry.name)
        else Session.deleteObject (joinRemotePath parent entry.name) entry.directory {}).Throws)
    (h : ∃ entry ∈ entries, isDotEntry entry.name = false ∧ select entry = true) :
    (Session.deleteEntries select text parent {} deleteTree entries).Throws := by
  induction entries with
  | nil => exact absurd h (by simp)
  | cons entry entries ih =>
    rw [Session.deleteEntries]
    split
    · rename_i hskip
      refine ih (fun e he => hdelete e (List.mem_cons_of_mem _ he)) ?_
      obtain ⟨e, he, hdot, hselect⟩ := h
      obtain rfl | he := List.mem_cons.1 he
      · simp [hdot, hselect] at hskip
      · exact ⟨e, he, hdot, hselect⟩
    · rename_i hkeep
      have hselected : isDotEntry entry.name = false ∧ select entry = true := by simpa using hkeep
      refine SessionM.throws_look ?_
      have hthrow := hdelete entry List.mem_cons_self hselected.1 hselected.2
      dsimp only
      split at hthrow
      · rename_i hdirectory
        rw [if_pos hdirectory]
        exact hthrow.bind
      · rename_i hdirectory
        rw [if_neg hdirectory]
        exact hthrow.bind

theorem length_le_joinRemotePath (parent name : ByteVector) :
    name.length ≤ (joinRemotePath parent name).length := by
  rw [joinRemotePath]
  split_ifs
  · exact le_rfl
  · rw [List.length_append]
    omega
  · rw [List.length_append]
    omega

/-- A path of 140000 bytes fits no CREATE. -/
theorem not_fitsCreate_of_long {path : ByteVector} (h : 140000 ≤ path.length) :
    ¬ fitsCreate path := by
  rintro ⟨name, hname, hlen⟩
  have hunits := length_le_of_encodeUtf16Le hname
  rw [u16Max] at hlen
  omega

/-- A text of the letter `a`, in UTF-16. -/
def wideLetters : ℕ → ByteVector
  | 0 => []
  | n + 1 => 0x61 :: 0 :: wideLetters n

theorem length_wideLetters (n : ℕ) : (wideLetters n).length = 2 * n := by
  induction n with
  | zero => rfl
  | succ n ih =>
    rw [wideLetters, List.length_cons, List.length_cons, ih]
    omega

theorem decode_wideLetters (n : ℕ) :
    decodeUtf16Le (wideLetters n) = .ok (List.replicate n 0x61) := by
  have hloop : decodeUtf16LeLoop (wideLetters n) = .ok (List.replicate n 0x61) := by
    induction n with
    | zero => rw [wideLetters, decodeUtf16LeLoop, List.replicate_zero]; simp
    | succ n ih =>
      rw [wideLetters, decodeUtf16LeLoop.eq_def]
      dsimp only
      rw [if_neg (by decide), if_neg (by decide), ih]
      rfl
  rw [decodeUtf16Le, length_wideLetters, if_neg (by omega), hloop]

theorem isDotEntry_letters {n : ℕ} (h : 1 ≤ n) : isDotEntry (List.replicate n 0x61) = false := by
  obtain ⟨k, rfl⟩ := Nat.exists_eq_add_of_le' h
  simp [isDotEntry, ascii, List.replicate_succ]

/-- The entries a session reads from a listing of one object. -/
theorem listed_singleton (attributes : UInt32) {name : ByteVector} (h : isDotEntry name = false) :
    ([listedEntry attributes name].filter fun entry => ¬ isDotEntry entry.name).map toNativeEntry =
      [toNativeEntry (listedEntry attributes name)] := by
  have hkeep : isDotEntry (listedEntry attributes name).name = false := h
  simp [hkeep]

/-- A directory the server fills with an entry of a long name. -/
theorem throws_deleteTreeInternal (pages : ℕ) {fuel : ℕ} {path : ByteVector} (h : path ≠ []) :
    (Session.deleteTreeInternal (pages + 2) {} (fuel + 1) path).Throws := by
  rw [Session.deleteTreeInternal, if_neg h]
  refine SessionM.throws_look ?_
  by_cases hpath : fitsCreate path
  swap
  · exact (throws_statObject hpath).bind
  refine (returns_withReportedIds fun m t s => returns_remoteStatReader m t s hpath).throws ?_
  have hmessage : (listingMessage 0 (wideLetters 140000)).length ≤ kMaxDirectTcpPayloadLength := by
    rw [length_listingMessage, length_wideLetters, kMaxDirectTcpPayloadLength]
    omega
  have hdecode := decode_listingMessage 0 (wideLetters 140000) (decode_wideLetters 140000) (by
    rw [length_wideLetters]
    omega)
  have hstatus : kStatusSuccess ≠ kStatusNoMoreFiles := by decide
  refine (returns_listDirectory pages hpath hmessage hdecode hstatus (List.cons_ne_nil _ _)).throws ?_
  have hname : 140000 ≤ (joinRemotePath path (List.replicate 140000 0x61)).length := by
    have hlen := length_le_joinRemotePath path (List.replicate 140000 0x61)
    rwa [List.length_replicate] at hlen
  dsimp only
  rw [listed_singleton 0 (isDotEntry_letters (n := 140000) (by omega))]
  refine (throws_deleteEntries ?_ ⟨_, List.mem_singleton_self _, ?_, rfl⟩).bind
  · intro entry hentry _ _
    rw [List.mem_singleton.1 hentry]
    exact throws_deleteObject (not_fitsCreate_of_long hname)
  · exact isDotEntry_letters (by omega)

/-- A pattern that matches the empty name matches the name `a`. -/
theorem wildcardLoop_stars {fuel : ℕ} {pattern : ByteVector}
    {star : Option (ByteVector × ByteVector)} (hall : pattern.all (· == 0x2A) = true)
    (hstar : pattern = [] → ∃ after, star = some (after, [0x61]) ∧ after.all (· == 0x2A) = true)
    (hfuel : pattern.length + 2 ≤ fuel) :
    Session.wildcardLoop fuel pattern [0x61] star = true := by
  induction pattern generalizing fuel star with
  | nil =>
    obtain ⟨after, rfl, hafter⟩ := hstar rfl
    obtain ⟨k, rfl⟩ := Nat.exists_eq_add_of_le hfuel
    rw [show ([] : ByteVector).length + 2 + k = k + 1 + 1 by simp; omega]
    simpa [Session.wildcardLoop] using hafter
  | cons p rest ih =>
    obtain ⟨hp, hrest⟩ : p = 0x2A ∧ rest.all (· == 0x2A) = true := by simpa using hall
    subst hp
    obtain ⟨k, rfl⟩ := Nat.exists_eq_add_of_le hfuel
    rw [List.length_cons, show rest.length + 1 + 2 + k = rest.length + 2 + k + 1 by omega,
      Session.wildcardLoop.eq_def]
    dsimp only
    rw [if_neg (by decide), if_pos rfl]
    exact ih hrest (fun _ => ⟨rest, rfl, hrest⟩) (by omega)

theorem wildcardMatches_letter {pattern : ByteVector} (hne : pattern ≠ [])
    (h : Session.wildcardMatches pattern [] = true) :
    Session.wildcardMatches pattern [0x61] = true := by
  have hall : pattern.all (· == 0x2A) = true := by
    rw [Session.wildcardMatches, List.length_nil,
      show (0 + 1) * (0 + pattern.length + 2) = pattern.length + 1 + 1 by omega,
      Session.wildcardLoop] at h
    exact h
  exact wildcardLoop_stars hall (fun hnil => absurd hnil hne) (by simp; omega)

/-- A wildcard that selects a name which, as a directory, is listed in turn. -/
theorem throws_deleteWildcard_directory {parentPath pattern utf16 name : ByteVector}
    (hparent : fitsCreate parentPath) (hpattern : pattern ≠ [])
    (hname : decodeUtf16Le utf16 = .ok name) (hlen : utf16.length ≤ 0x00FFFF00)
    (hdot : isDotEntry name = false) (hmatch : Session.wildcardMatches pattern name = true)
    (hchild : joinRemotePath parentPath name ≠ []) :
    (Session.deleteWildcard 2 parentPath pattern {}).Throws := by
  rw [Session.deleteWildcard, if_neg hpattern]
  refine SessionM.throws_look ?_
  have hmessage : (listingMessage kFileAttributeDirectory utf16).length ≤
      kMaxDirectTcpPayloadLength := by
    rw [length_listingMessage, kMaxDirectTcpPayloadLength]
    omega
  have hdecode := decode_listingMessage kFileAttributeDirectory utf16 hname hlen
  have hstatus : kStatusSuccess ≠ kStatusNoMoreFiles := by decide
  refine (returns_listDirectory 0 hparent hmessage hdecode hstatus (List.cons_ne_nil _ _)).throws ?_
  dsimp only
  rw [listed_singleton kFileAttributeDirectory hdot]
  refine (throws_deleteEntries ?_ ⟨_, List.mem_singleton_self _, hdot, hmatch⟩).bind
  intro entry hentry _ _
  rw [List.mem_singleton.1 hentry]
  exact throws_deleteTreeInternal 0 hchild

/-- A wildcard that selects a name too long for CREATE. -/
theorem throws_deleteWildcard_long {parentPath pattern name : ByteVector}
    (hparent : fitsCreate parentPath) (hpattern : pattern ≠ []) (hname : Listable name)
    (hdot : isDotEntry name = false) (hmatch : Session.wildcardMatches pattern name = true)
    (hlong : ∀ name, Listable name → isDotEntry name = false →
      Session.wildcardMatches pattern name = true →
      ¬ fitsCreate (joinRemotePath parentPath name)) :
    (Session.deleteWildcard 2 parentPath pattern {}).Throws := by
  obtain ⟨message, response, hlen, hdecode, entry, hentry, rfl⟩ := hname
  have hlisted : ∀ e ∈ response.entries, Listable e.name := fun e he =>
    ⟨message, response, hlen, hdecode, e, he, rfl⟩
  rw [Session.deleteWildcard, if_neg hpattern]
  refine SessionM.throws_look ?_
  obtain ⟨-, hnone⟩ | ⟨hstatus, -⟩ := decodeQueryDirectoryResponse_eq_ok hdecode
  · rw [hnone] at hentry
    cases hentry
  have hentries : response.entries ≠ [] := List.ne_nil_of_mem hentry
  refine (returns_listDirectory 0 hparent hlen hdecode hstatus hentries).throws ?_
  refine (throws_deleteEntries ?_ ⟨toNativeEntry entry, ?_, hdot, hmatch⟩).bind
  · intro child hmem hchildDot hchildMatch
    obtain ⟨listed, hlistedMem, rfl⟩ := List.mem_map.1 hmem
    have hfits := hlong _ (hlisted listed (List.mem_filter.1 hlistedMem).1) hchildDot hchildMatch
    split
    · have hne : joinRemotePath parentPath listed.name ≠ [] := by
        intro hnil
        rw [hnil] at hfits
        exact hfits ⟨[], rfl, Nat.zero_le _⟩
      exact throws_deleteTreeInternal 0 hne
    · exact throws_deleteObject hfits
  · refine List.mem_map_of_mem (List.mem_filter.2 ⟨hentry, ?_⟩)
    rw [hdot]
    rfl

theorem throws_deleteWildcard {parentPath pattern : ByteVector} (hpattern : pattern ≠ [])
    (h : fitsCreate parentPath → ∃ name, Listable name ∧ isDotEntry name = false ∧
      Session.wildcardMatches pattern name = true) :
    (Session.deleteWildcard 2 parentPath pattern {}).Throws := by
  by_cases hparent : fitsCreate parentPath
  swap
  · rw [Session.deleteWildcard, if_neg hpattern]
    exact SessionM.throws_look (throws_listDirectory 2 hparent).bind
  obtain ⟨name, hname, hdot, hmatch⟩ := h hparent
  by_cases hlong : ∀ name, Listable name → isDotEntry name = false →
      Session.wildcardMatches pattern name = true → ¬ fitsCreate (joinRemotePath parentPath name)
  · exact throws_deleteWildcard_long hparent hpattern hname hdot hmatch hlong
  push Not at hlong
  obtain ⟨short, hshort, hdot, hmatch, units, hunits, hlen⟩ := hlong
  by_cases hchild : joinRemotePath parentPath short = []
  · -- the empty name in the root is selected by stars only, which select `a` too
    have hempty : short = [] := by
      have hle := length_le_joinRemotePath parentPath short
      rw [hchild] at hle
      exact List.length_eq_zero_iff.1 (Nat.le_zero.1 hle)
    rw [hempty] at hmatch
    refine throws_deleteWildcard_directory hparent hpattern (decode_wideLetters 1) (by decide)
      rfl (wildcardMatches_letter hpattern hmatch) fun hnil => ?_
    have hle := length_le_joinRemotePath parentPath (List.replicate 1 0x61)
    rw [hnil] at hle
    cases hle
  · obtain ⟨utf16, hutf16⟩ := hshort.exists_utf16
    have hchildLen := length_le_of_encodeUtf16Le hunits
    have hnameLen := length_le_joinRemotePath parentPath short
    have hutf16Len := length_le_of_decodeUtf16Le hutf16
    rw [u16Max] at hlen
    exact throws_deleteWildcard_directory hparent hpattern hutf16 (by omega) hdot hmatch hchild

/-! ## The operations that never throw -/

/-- Session operations catch nothing: an operation never throws exactly when
    everything it may have to encode can be encoded. -/
theorem SessionOperation.neverThrows_iff (operation : SessionOperation) :
    operation.NeverThrows ↔ operation.Encodable := by
  constructor
  · intro h
    by_contra hno
    have hthrows : (operation.run 2 {}).Throws := by
      cases operation with
      | call c => exact c.throws_run hno 2
      | deleteTree path => exact (throws_deleteTreeInternal 0 hno).discard
      | deleteWildcard parentPath pattern =>
        obtain ⟨hpattern, hnone⟩ := not_or.1 hno
        refine (throws_deleteWildcard hpattern fun hparent => ?_).discard
        by_contra hnames
        refine hnone ⟨hparent, fun name hname hdot => ?_⟩
        by_contra hmatch
        exact hnames ⟨name, hname, hdot, by simpa using hmatch⟩
    obtain ⟨es, what, session', hrun⟩ := hthrows.run (.new 1 1 1)
    exact h 2 {} (.new 1 1 1) es _ session' hrun what rfl
  · intro h fuel context session es r session' hrun
    have hsafe := (operation.safe_run h fuel context).meets session
    exact hsafe.tracked hrun

/-- What an operation that never throws returns when it is played back. -/
theorem SessionOperation.NeverThrows.played {operation : SessionOperation}
    (h : operation.NeverThrows) {session' : Session} {run} {r : Except Exn Unit}
    (hplay : ∃ context session state, Native.played operation context session state = run)
    (hend : run.2.1 = (r, session')) : NoThrow r := by
  obtain ⟨context, session, state, rfl⟩ := hplay
  have hrun := Program.runs_serve playback ((operation.run 1 context).run.run session) state
  rw [show (((operation.run 1 context).run.run session).serve playback state).2.1 = (r, session')
    from hend] at hrun
  exact h 1 context session _ r session' hrun

/-- An attribute without a name: the object is opened, the attribute buffer
    cannot be built, and the exception leaves the handle open and the CREATE
    uncounted. -/
theorem setExtendedAttributes_throws :
    let operation := SessionOperation.call (.setExtendedAttributes (ascii "docs") [{}])
    let run := played operation {} (.new 1 1 1) ([.ok (framed createdMessage)], [])
    ((sentRequests run.1).map fun sent => match sent.request.body with
        | .create options => options.path
        | _ => []) = [ascii "docs"] ∧
      (∃ what, run.2.1 = (.error (.invalidArgument what), .new 1 1 1)) ∧
      ¬ operation.NeverThrows := by
  intro operation run
  have hend : run.2.1 = (.error (.invalidArgument "SMB2 EA name is empty."), .new 1 1 1) := by
    decide +kernel
  refine ⟨by decide +kernel, ⟨_, hend⟩, fun hnever => ?_⟩
  have hplay : ∃ context session state, played operation context session state = run :=
    ⟨_, _, _, rfl⟩
  exact hnever.played hplay hend _ rfl

end SmbBrowser.Native
