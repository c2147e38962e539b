import Mathlib.Data.List.Forall2
import SmbBrowser.Native.Replies
import SmbBrowser.Native.Traces

/-!
# Directory listings

`DirectoryLister::list` asks for pages until the server says that there are no
more files, or sends a page without entries.

Results:
* `establishes_listPages`: the queries of a listing and the pages they bring, by
  induction on the pages;
* `listDirectory_pages`: what a successful listing has sent and what it returns.
-/

namespace SmbBrowser.Native

open SmbBrowser.Base

/-- The reply that ends a listing: no more files, or a page without entries. -/
def EndsListing (response : QueryDirectoryResponse) : Prop :=
  response.status = kStatusNoMoreFiles ∨ response.entries = []

section

variable (messageId : ℕ) (treeId : UInt32) (sessionId : UInt64)

/-- Message `index` of a listing asks for a page; the first one starts the scan. -/
def pageQuery (fileId : FileId) (index : ℕ) : Request :=
  ⟨.queryDirectory { fileId, flags := if index = 1 then kQueryDirectoryRestartScans else 0 },
    messageId + index, treeId, sessionId⟩

/-- The queries from message `index` on, with their replies. -/
def pageTrace (fileId : FileId) (index : ℕ) (replies : List (DecodeResult ByteVector)) :
    List Trace :=
  (replies.zipIdx index).map fun (reply, i) =>
    .exchanged (pageQuery messageId treeId sessionId fileId i) reply

/-- The replies bring these pages and the end of the listing. -/
def BringPages (replies : List (DecodeResult ByteVector)) (pages : List QueryDirectoryResponse)
    (last : QueryDirectoryResponse) : Prop :=
  List.Forall₂ (fun reply response => decodedReply decodeQueryDirectoryResponse reply = .ok response)
    replies (pages ++ [last]) ∧ (∀ page ∈ pages, ¬ EndsListing page) ∧ EndsListing last

variable {messageId treeId sessionId} {context : OperationContext}

/-- The loop from message `used` on, which is the first query if and only if it is
    message 1. -/
theorem establishes_listPages (fileId : FileId) (fuel : ℕ) {first : Bool} {used : ℕ}
    (hused : 1 ≤ used) (hfirst : first = true ↔ used = 1) (entries : List DirectoryEntry)
    (trace : List Trace) :
    Establishes (listPages messageId treeId sessionId context fileId fuel first used entries)
      (fun listed trace' => ∃ replies pages last, BringPages replies pages last ∧
        trace' = trace ++ pageTrace messageId treeId sessionId fileId used replies ∧
        listed = (entries ++ pages.flatMap (·.entries), used + pages.length + 1)) trace := by
  induction fuel generalizing first used entries trace with
  | zero => exact .throw _
  | succ fuel ih =>
    unfold listPages
    simp only [hfirst]
    refine (Establishes.exchangePayload (pageQuery messageId treeId sessionId fileId used)
      context).bind ?_ fun e _ => .error rfl
    rintro payload _ ⟨reply, hpayload, rfl⟩
    refine .look rfl ?_
    cases hdecode : decodeQueryDirectoryResponse payload with
    | error e => exact .error rfl
    | ok response =>
      have hreply : decodedReply decodeQueryDirectoryResponse reply = .ok response :=
        decodedReply_eq_ok.2 ⟨payload, hpayload, hdecode⟩
      have hlast : EndsListing response → ∃ replies pages last, BringPages replies pages last ∧
          trace ++ [.exchanged (pageQuery messageId treeId sessionId fileId used) reply] =
            trace ++ pageTrace messageId treeId sessionId fileId used replies ∧
          (entries, used + 1) =
            (entries ++ pages.flatMap QueryDirectoryResponse.entries, used + pages.length + 1) := by
        intro hends
        refine ⟨[reply], [], response, ⟨.cons hreply .nil, by simp, hends⟩, rfl, ?_⟩
        simp
      dsimp only
      by_cases hmore : response.status = kStatusNoMoreFiles
      · rw [if_pos hmore]
        exact .ok (hlast (.inl hmore))
      by_cases hempty : response.entries = []
      · rw [if_neg hmore, if_pos hempty]
        exact .ok (hlast (.inr hempty))
      rw [if_neg hmore, if_neg hempty]
      refine (ih (by omega) (by simp; omega) _ _).mono ?_
      rintro listed _ ⟨replies, pages, last, ⟨hreplies, hpages, hends⟩, rfl, rfl⟩
      refine ⟨reply :: replies, response :: pages, last, ⟨.cons hreply hreplies, ?_, hends⟩, ?_, ?_⟩
      · rintro page (_ | ⟨_, hpage⟩)
        · rintro (h | h)
          · exact hmore h
          · exact hempty h
        · exact hpages page hpage
      · rw [List.append_assoc]
        rfl
      · simp only [List.flatMap_cons, List.append_assoc, List.length_cons]
        congr 1
        omega

end

/-- A listing with these pages: the directory is opened, queried with the file id
    of the CREATE, and closed. -/
def IsListing (path : ByteVector) (session : Session) (pages : List QueryDirectoryResponse)
    (trace : List Trace) : Prop :=
  ∃ createReply create replies last closeReply close,
    decodedReply decodeCreateResponse createReply = .ok create ∧
    BringPages replies pages last ∧
    decodedReply decodeCloseResponse closeReply = .ok close ∧
    trace = [.exchanged ⟨.create (listCreateOptions path), session.nextMessageId, session.treeId,
        session.sessionId⟩ createReply] ++
      pageTrace session.nextMessageId session.treeId session.sessionId create.fileId 1 replies ++
      [.exchanged ⟨.close { fileId := create.fileId }, session.nextMessageId + replies.length + 1,
        session.treeId, session.sessionId⟩ closeReply]

/-- The entries a listing returns for its pages. -/
def listedEntries (pages : List QueryDirectoryResponse) : List NativeRemoteEntry :=
  ((pages.flatMap (·.entries)).filter fun entry => ¬ isDotEntry entry.name).map toNativeEntry

theorem establishes_directoryLister (session : Session) (context : OperationContext) (fuel : ℕ)
    (path : ByteVector) :
    Establishes (directoryLister session.nextMessageId session.treeId session.sessionId context
        fuel path) (fun result trace => ∃ pages, IsListing path session pages trace ∧
          result.entries = pages.flatMap (·.entries) ∧ result.messagesUsed = pages.length + 3)
      [] := by
  unfold directoryLister
  refine .look rfl ((Establishes.exchangePayload _ context).bind ?_ fun e _ => .error rfl)
  rintro payload _ ⟨createReply, hpayload, rfl⟩
  refine .look rfl ?_
  cases hdecode : decodeCreateResponse payload with
  | error e => exact .error rfl
  | ok create =>
    have hcreate : decodedReply decodeCreateResponse createReply = .ok create :=
      decodedReply_eq_ok.2 ⟨payload, hpayload, hdecode⟩
    refine (establishes_listPages create.fileId fuel le_rfl (by simp) [] _).bind ?_
      fun e _ => .error rfl
    rintro _ _ ⟨replies, pages, last, hpages, rfl, rfl⟩
    refine (Establishes.exchangeResponse _ _ _ context).bind ?_ fun e _ => .error rfl
    rintro close _ ⟨closeReply, hclose, rfl⟩
    have hlength : replies.length = pages.length + 1 := by
      rw [hpages.1.length_eq, List.length_append]
      rfl
    refine .ok ⟨pages, ⟨createReply, create, replies, last, closeReply, close, hcreate, hpages,
      hclose, ?_⟩, rfl, ?_⟩
    · rw [hlength]
      congr 4
      omega
    · dsimp only
      omega

theorem establishes_listDirectory (session : Session) (context : OperationContext) (fuel : ℕ)
    (path : ByteVector) :
    EstablishesS (Session.listDirectory fuel path context) (fun entries session' trace =>
      ∃ pages, IsListing path session pages trace ∧ entries = listedEntries pages ∧
        session' = { session with nextMessageId := session.nextMessageId + pages.length + 3 })
      session [] := by
  unfold Session.listDirectory
  refine .enter (.get (.withIds (establishes_directoryLister session context fuel path) ?_ ?_))
  · rintro result trace ⟨pages, hlisting, hentries, hused⟩
    refine .useMessageIds (.ok ⟨pages, hlisting, ?_, ?_⟩)
    · rw [hentries]
      rfl
    · rw [hused, Nat.add_assoc]
  · intro e trace
    exact .useMessageIds (.error rfl)

/-- A listing that succeeds has opened the directory, asked for its pages with
    consecutive message ids and the file id of the CREATE, the first query alone
    from the start of the scan, and closed it; it returns the entries of all pages
    in order but `.` and `..`. -/
theorem listDirectory_pages {fuel : ℕ} {path : ByteVector} {context : OperationContext}
    {session session' : Session} {es : List (Event Wire)} {entries : List NativeRemoteEntry}
    (hrun : Program.Runs ((Session.listDirectory fuel path context).run.run session) es
      (.ok (.ok entries), session')) :
    ∃ pages, IsListing path session pages (traceOf es) ∧ entries = listedEntries pages ∧
      session' = { session with nextMessageId := session.nextMessageId + pages.length + 3 } :=
  (establishes_listDirectory session context fuel path).run hrun

/-! ## A server that pages a directory -/

/-- A server that grants the requests of a listing and of a delete: it answers the
    queries with these pages, and then that there are no more files. -/
def pagedServer : Handler Wire (List ByteVector)
  | pages, .exchange sent _ =>
    match sent.request.body with
    | .create _ => (.ok (framed createdMessage), pages)
    | .queryDirectory _ => (.ok (framed (pages.headD noMoreFilesMessage)), pages.tail)
    | .setInfo _ => (.ok (framed setInfoMessage), pages)
    | .close _ => (.ok (framed closedMessage), pages)
    | _ => (failure .networkError "disconnected", pages)
  | pages, .isCancelled _ => (false, pages)
  | pages, .progress _ => ((), pages)
  | pages, .enter _ => ((), pages)

/-- The entries of a page. -/
def pageEntries (message : ByteVector) : List DirectoryEntry :=
  match decodeQueryDirectoryResponse message with
  | .ok response => response.entries
  | .error _ => []

/-- A page without entries. -/
def emptyPageMessage : ByteVector :=
  grantedMessage .queryDirectory (u16Le 9 ++ u16Le 0 ++ u32Le 0)

/-- The listing of a directory against the server. -/
def pagedListing (pages : List ByteVector) :
    List (Event Wire) × (Except Exn (DecodeResult (List NativeRemoteEntry)) × Session) ×
      List ByteVector :=
  ((Session.listDirectory 5 (ascii "docs") {}).run.run (.new 1 1 1)).serve pagedServer pages

theorem pagedListing_runs {pages : List ByteVector} {entries : List NativeRemoteEntry}
    {session' : Session} (hend : (pagedListing pages).2.1 = (.ok (.ok entries), session')) :
    Program.Runs ((Session.listDirectory 5 (ascii "docs") {}).run.run (.new 1 1 1))
      (pagedListing pages).1 (.ok (.ok entries), session') := by
  unfold pagedListing at hend ⊢
  generalize (Session.listDirectory 5 (ascii "docs") {}).run.run (.new 1 1 1) = p at hend ⊢
  have hrun := Program.runs_serve pagedServer p pages
  rwa [hend] at hrun

/-- A directory on two pages. -/
def twoPages : List ByteVector := [listingMessage 0 [0x61, 0], listingMessage 0 [0x62, 0]]

theorem pagedListing_twoPages : (pagedListing twoPages).2.1 =
    (.ok (.ok [{ name := ascii "a" }, { name := ascii "b" }]), ⟨1, 1, 6⟩) := by
  decide +kernel

theorem listDirectory_pages_docs : ∃ pages,
    IsListing (ascii "docs") (.new 1 1 1) pages (traceOf (pagedListing twoPages).1) ∧
      [{ name := ascii "a" }, { name := ascii "b" }] = listedEntries pages ∧
      (⟨1, 1, 6⟩ : Session) =
        { Session.new 1 1 1 with nextMessageId := 1 + pages.length + 3 } :=
  listDirectory_pages (pagedListing_runs pagedListing_twoPages)

/-- A server may put a page without entries between two others: the listing then
    succeeds without the entries behind it. -/
theorem listDirectory_empty_page :
    let pages := [listingMessage 0 [0x61, 0], emptyPageMessage, listingMessage 0 [0x62, 0]]
    (pagedListing pages).2.1.1 = .ok (.ok [{ name := ascii "a" }]) ∧
      ¬ ∀ entries, (pagedListing pages).2.1.1 = .ok (.ok entries) →
        entries = ((pages.flatMap pageEntries).filter fun entry =>
          ¬ isDotEntry entry.name).map toNativeEntry := by
  intro pages
  have hend : (pagedListing pages).2.1.1 = .ok (.ok [{ name := ascii "a" }]) := by
    decide +kernel
  refine ⟨hend, ?_⟩
  intro hall
  have hnames := hall _ hend
  revert hnames
  decide +kernel

end SmbBrowser.Native
