import SmbBrowser.Client.Traces
import SmbBrowser.Native.DisjointIds
import SmbBrowser.Native.Replies

/-!
# Downloads

`NativeSmbClient::downloadFile` writes what the READ replies carry to the local file until
it has as many bytes as the CREATE reply reported.  It ends early, and with a success, when
a reply carries no bytes, and it does not ask whether one carries more than was asked for.

Results:
* `downloadChunks_sofar`: what the loop leaves of the local file;
* `downloadFile_iff`: when the local file of a successful download is the remote one.
-/

namespace SmbBrowser.Client

open SmbBrowser.Base SmbBrowser.Qt SmbBrowser.Native
open SmbBrowser.Core (Connection Result AppError)

/-! ## What a download leaves -/

/-- A READ: the offset it asks from, and its reply. -/
def readOf : ClientTrace → Option (ℕ × DecodeResult ByteVector)
  | .native _ (.exchanged request reply) =>
    match request.body with
    | .read options => some (options.offset.toNat, reply)
    | _ => none
  | _ => none

/-- The READs, in order. -/
def reads (trace : List ClientTrace) : List (ℕ × DecodeResult ByteVector) := trace.filterMap readOf

/-- The end of file a reply to CREATE reports. -/
def endOfFileOf : ClientTrace → Option UInt64
  | .native _ (.exchanged request reply) =>
    match request.body with
    | .create _ =>
      match decodedReply decodeCreateResponse reply with
      | .ok create => some create.endOfFile
      | .error _ => none
    | _ => none
  | _ => none

/-- The size reported at open. -/
def reportedSize (trace : List ClientTrace) : Option UInt64 := trace.findSome? endOfFileOf

/-- The bytes written to the local file by one thing that passed. -/
def writtenBy : ClientTrace → ByteVector
  | .wroteLocal data => data
  | _ => []

/-- What the local file holds. -/
def localFile (trace : List ClientTrace) : ByteVector := trace.flatMap writtenBy

/-- The replies are those of a server whose file holds `content`: it is at least as long as
    was reported, and a READ reply carries the bytes from the offset on, be they fewer or
    more than asked for. -/
structure Truthful (content : ByteVector) (trace : List ClientTrace) : Prop where
  size : ∀ size, reportedSize trace = some size → size.toNat ≤ content.length
  data : ∀ read ∈ reads trace, ∀ response, decodedReply decodeReadResponse read.2 = .ok response →
    response.data <+: content.drop read.1

/-- A READ is answered with some bytes that end within the size. -/
def Delivers (size : ℕ) (read : ℕ × DecodeResult ByteVector) : Prop :=
  ∃ response, decodedReply decodeReadResponse read.2 = .ok response ∧ response.data ≠ [] ∧
    read.1 + response.data.length ≤ size

/-- The local file is the remote one up to the reported size. -/
def Downloaded (content : ByteVector) (trace : List ClientTrace) : Prop :=
  ∃ size, reportedSize trace = some size ∧ localFile trace = content.take size.toNat

/-- The open is answered with a size and every READ with bytes that end within it. -/
def AllDelivered (trace : List ClientTrace) : Prop :=
  ∃ size, reportedSize trace = some size ∧ ∀ read ∈ reads trace, Delivers size.toNat read

/-! ### One thing more -/

section

variable {trace trace' : List ClientTrace} {content : ByteVector} {size : UInt64}

theorem reads_append : reads (trace ++ trace') = reads trace ++ reads trace' :=
  List.filterMap_append

theorem localFile_append : localFile (trace ++ trace') = localFile trace ++ localFile trace' :=
  List.flatMap_append

theorem reportedSize_append (h : reportedSize trace = some size) :
    reportedSize (trace ++ trace') = some size := by
  rw [reportedSize, List.findSome?_append]
  rw [reportedSize] at h
  rw [h]
  rfl

theorem Truthful.of_append (h : Truthful content (trace ++ trace')) : Truthful content trace := by
  refine ⟨?_, ?_⟩
  · intro size hsize
    exact h.size size (reportedSize_append hsize)
  · intro read hread
    refine h.data read ?_
    rw [reads_append]
    exact List.mem_append_left _ hread

end

/-- Nothing that concerns the local file or a READ. -/
structure Quiet (trace : List ClientTrace) : Prop where
  reads : reads trace = []
  file : localFile trace = []

/-! ## The loop -/

/-- All was delivered so far. -/
structure Intact (content : ByteVector) (size offset : UInt64) (trace : List ClientTrace) : Prop where
  le : offset ≤ size
  file : localFile trace = content.take offset.toNat
  delivered : ∀ read ∈ reads trace, Delivers size.toNat read

/-- A READ was not delivered, and the local file is too long by then. -/
structure Overlong (size : UInt64) (trace : List ClientTrace) : Prop where
  file : size.toNat < (localFile trace).length
  undelivered : ∃ read ∈ reads trace, ¬ Delivers size.toNat read

/-- Where a download stands after it was told the size. -/
structure Sofar (content : ByteVector) (size offset : UInt64) (trace : List ClientTrace) : Prop where
  reported : reportedSize trace = some size
  stands : Truthful content trace → Intact content size offset trace ∨ Overlong size trace

section

variable {content : ByteVector} {size offset : UInt64} {trace trace' : List ClientTrace}

theorem Sofar.quiet (h : Sofar content size offset trace) (hquiet : Quiet trace') :
    Sofar content size offset (trace ++ trace') := by
  have hfile : localFile (trace ++ trace') = localFile trace := by
    rw [localFile_append, hquiet.file, List.append_nil]
  have hreads : reads (trace ++ trace') = reads trace := by
    rw [reads_append, hquiet.reads, List.append_nil]
  refine ⟨reportedSize_append h.reported, ?_⟩
  intro htruthful
  rcases h.stands htruthful.of_append with hintact | hoverlong
  · left
    refine ⟨hintact.le, ?_, ?_⟩
    · rw [hfile]
      exact hintact.file
    · rw [hreads]
      exact hintact.delivered
  · right
    refine ⟨?_, ?_⟩
    · rw [hfile]
      exact hoverlong.file
    · rw [hreads]
      exact hoverlong.undelivered

theorem Overlong.iff (hreported : reportedSize trace = some size) (h : Overlong size trace) :
    Downloaded content trace ↔ AllDelivered trace := by
  refine iff_of_false ?_ ?_
  · rintro ⟨size', hsize, hfile⟩
    obtain rfl : size = size' := Option.some.inj (hreported.symm.trans hsize)
    have hlong := h.file
    rw [hfile, List.length_take] at hlong
    omega
  · rintro ⟨size', hsize, hall⟩
    obtain rfl : size = size' := Option.some.inj (hreported.symm.trans hsize)
    obtain ⟨read, hread, hnot⟩ := h.undelivered
    exact hnot (hall read hread)

/-- The loop ends at the size. -/
theorem Sofar.finished (h : Sofar content size offset trace) (hend : size ≤ offset)
    (htruthful : Truthful content trace) : Downloaded content trace ↔ AllDelivered trace := by
  rcases h.stands htruthful with hintact | hoverlong
  · have hoffset : offset = size := UInt64.le_antisymm hintact.le hend
    refine iff_of_true ⟨size, h.reported, ?_⟩ ⟨size, h.reported, hintact.delivered⟩
    rw [hintact.file, hoffset]
  · exact hoverlong.iff h.reported

/-- The loop ends before the size, after a READ that was not delivered and added nothing. -/
theorem Sofar.stopped (h : Sofar content size offset trace) (hbefore : offset < size)
    (read : ℕ × DecodeResult ByteVector) (hread : reads trace' = [read])
    (hnot : ¬ Delivers size.toNat read) (hfile : localFile trace' = [])
    (htruthful : Truthful content (trace ++ trace')) :
    Downloaded content (trace ++ trace') ↔ AllDelivered (trace ++ trace') := by
  have hreported : reportedSize (trace ++ trace') = some size := reportedSize_append h.reported
  have hsame : localFile (trace ++ trace') = localFile trace := by
    rw [localFile_append, hfile, List.append_nil]
  refine iff_of_false ?_ ?_
  · rintro ⟨size', hsize, htaken⟩
    obtain rfl : size = size' := Option.some.inj (hreported.symm.trans hsize)
    have hlen : (localFile trace).length = size.toNat := by
      rw [← hsame, htaken, List.length_take]
      exact min_eq_left (htruthful.size size hreported)
    rcases h.stands htruthful.of_append with hintact | hoverlong
    · rw [hintact.file, List.length_take] at hlen
      have hlt : offset.toNat < size.toNat := UInt64.lt_iff_toNat_lt.1 hbefore
      omega
    · have hlong := hoverlong.file
      omega
  · rintro ⟨size', hsize, hall⟩
    obtain rfl : size = size' := Option.some.inj (hreported.symm.trans hsize)
    refine hnot (hall read ?_)
    rw [reads_append, hread]
    exact List.mem_append_right _ (List.mem_singleton_self read)

/-- One READ more that was answered with bytes, which were written. -/
theorem Sofar.next (h : Sofar content size offset trace) (hbefore : offset < size)
    {reply : DecodeResult ByteVector} {response : ReadResponse}
    (hread : reads trace' = [(offset.toNat, reply)])
    (hdecoded : decodedReply decodeReadResponse reply = .ok response) (hne : response.data ≠ [])
    (hfile : localFile trace' = response.data) :
    Sofar content size (offset + UInt64.ofNat response.data.length) (trace ++ trace') := by
  have hnow : (offset.toNat, reply) ∈ reads (trace ++ trace') := by
    rw [reads_append, hread]
    exact List.mem_append_right _ (List.mem_singleton_self _)
  have hreported : reportedSize (trace ++ trace') = some size := reportedSize_append h.reported
  refine ⟨hreported, ?_⟩
  intro htruthful
  rcases h.stands htruthful.of_append with hintact | hoverlong
  · have hlt : offset.toNat < size.toNat := UInt64.lt_iff_toNat_lt.1 hbefore
    have hsize : size.toNat ≤ content.length := htruthful.size size hreported
    by_cases hfits : offset.toNat + response.data.length ≤ size.toNat
    · have hnext : (offset + UInt64.ofNat response.data.length).toNat =
          offset.toNat + response.data.length := by
        have hsmall := size.toNat_lt
        rw [UInt64.toNat_add, UInt64.toNat_ofNat']
        omega
      left
      refine ⟨?_, ?_, ?_⟩
      · rw [UInt64.le_iff_toNat_le, hnext]
        exact hfits
      · have hprefix : response.data <+: content.drop offset.toNat :=
          htruthful.data _ hnow response hdecoded
        rw [localFile_append, hintact.file, hfile, hnext, List.take_add,
          ← List.prefix_iff_eq_take.1 hprefix]
      · intro read hmem
        rw [reads_append, hread, List.mem_append, List.mem_singleton] at hmem
        rcases hmem with hold | rfl
        · exact hintact.delivered read hold
        · exact ⟨response, hdecoded, hne, hfits⟩
    · right
      refine ⟨?_, _, hnow, ?_⟩
      · rw [localFile_append, hintact.file, hfile, List.length_append, List.length_take]
        omega
      · rintro ⟨response', hdecoded', -, hfits'⟩
        obtain rfl : response = response' := Except.ok.inj (hdecoded.symm.trans hdecoded')
        exact hfits hfits'
  · right
    refine ⟨?_, ?_⟩
    · have hlong := hoverlong.file
      rw [localFile_append, List.length_append]
      omega
    · obtain ⟨read, hmem, hnot⟩ := hoverlong.undelivered
      refine ⟨read, ?_, hnot⟩
      rw [reads_append]
      exact List.mem_append_left _ hmem

end

/-! ## The programs -/

section

variable {sessions : Sessions} {trace : List ClientTrace} {context : OperationContext}

/-- The close at the end leaves nothing but its exchange. -/
theorem meets_closeRemoteFile (fileId : FileId) :
    MeetsS Recorded (closeRemoteFile fileId context)
      (fun _ _ trace' => ∃ quiet, Quiet quiet ∧ trace' = trace ++ quiet) sessions trace := by
  have hclose : MeetsS Traced (Session.closeFileHandle fileId context)
      (fun _ _ passed => passed = [] ∨ ∃ (request : Request) (reply : DecodeResult ByteVector),
        request.body = .close { fileId } ∧ passed = [.exchanged request reply])
      (sessions.get .source) [] := by
    unfold Session.closeFileHandle Session.closeFile
    refine meetsS_enter ⟨trivial, ?_⟩
    rintro m rfl
    refine meetsS_allocateMessageIds.2 (meetsS_bind.2 (meetsS_withIds.2 ?_))
    refine (sends_exchangeResponse _ _ _ context _).mono ?_
    rintro (e | (e | response)) passed hpassed
    all_goals
      rcases hpassed with rfl | ⟨reply, rfl⟩
      · exact .inl rfl
      · exact .inr ⟨_, reply, rfl, rfl⟩
  unfold closeRemoteFile
  refine meetsS_bind.2 (meetsS_onSession (hclose.mono ?_))
  rintro r session passed hpassed
  have hquiet : ∃ quiet, Quiet quiet ∧
      trace ++ passed.map (.native .source) = trace ++ quiet := by
    refine ⟨_, ?_, rfl⟩
    rcases hpassed with rfl | ⟨request, reply, hbody, rfl⟩
    · exact ⟨rfl, rfl⟩
    · refine ⟨?_, rfl⟩
      simp [reads, readOf, hbody]
  cases r with
  | error e => exact hquiet
  | ok result => exact hquiet

/-- `closeRemoteFile(); return result;`. -/
theorem achieves_closeRemoteFile {fileId : FileId} {result : Result Bool}
    {P : Bool → List ClientTrace → Prop}
    (h : ∀ quiet, Quiet quiet → result.ok = true → P result.value (trace ++ quiet)) :
    Achieves (do closeRemoteFile fileId context; return result) P sessions trace := by
  refine .bind (R := fun _ _ trace' => ∃ quiet, Quiet quiet ∧ trace' = trace ++ quiet)
    ((meets_closeRemoteFile fileId).mono fun _ _ _ hquiet _ _ => hquiet) ?_
  rintro _ sessions' _ ⟨quiet, hquiet, rfl⟩
  refine ⟨?_⟩
  rintro _ ⟨⟩ hok
  exact h quiet hquiet hok

/-- What a chunk leaves: its READ, answered or not. -/
def ChunkRead (options : ReadRequestOptions) (r : DecodeResult NativeReadResult)
    (passed : List Trace) : Prop :=
  ∃ request : Request, request.body = .read options ∧
    match r with
    | .ok read => ∃ reply response, decodedReply decodeReadResponse reply = .ok response ∧
        read.data = response.data ∧ passed = [.exchanged request reply]
    | .error e => e.code = .cancelled ∨ ∃ reply,
        (∀ response, decodedReply decodeReadResponse reply ≠ .ok response) ∧
        passed = [.exchanged request reply]

theorem chunkRead_readFileChunk (fileId : FileId) (length : UInt32) (offset : UInt64)
    (session : Session) :
    MeetsS Traced (Session.readFileChunk fileId length offset context)
      (fun r _ passed => ∀ a, r = .ok a → ChunkRead { fileId, length, offset } a passed)
      session [] := by
  unfold Session.readFileChunk
  refine meetsS_enter ⟨trivial, ?_⟩
  rintro m rfl
  refine meetsS_allocateMessageIds.2 (meetsS_bind.2 (meetsS_withIds.2 ?_))
  refine (answers_exchangeResponse _ _ _ context _).mono ?_
  rintro (e | (e | response)) passed hanswers
  · rintro a ⟨⟩
  · rintro a ⟨⟩
    refine ⟨⟨.read { fileId, length, offset }, session.nextMessageId, session.treeId,
      session.sessionId⟩, rfl, ?_⟩
    rcases hanswers _ rfl with hcancelled | ⟨reply, hnone, rfl⟩
    · exact .inl hcancelled
    · exact .inr ⟨reply, hnone, rfl⟩
  · rintro a ⟨⟩
    obtain ⟨reply, hdecoded, rfl⟩ := hanswers _ rfl
    exact ⟨⟨.read { fileId, length, offset }, _, _, _⟩, rfl, reply, response, hdecoded, rfl, rfl⟩

/-- What the open leaves: the size it reports, or no size. -/
structure Opened (r : DecodeResult NativeFileHandle) (trace : List ClientTrace) : Prop where
  quiet : Quiet trace
  reported : ∀ opened, r = .ok opened → reportedSize trace = some opened.size
  unreported : ∀ e, r = .error e → reportedSize trace = none

theorem opened_openFileForRead (path : ByteVector) (session : Session) :
    MeetsS Traced (Session.openFileForRead path context)
      (fun r _ passed => ∀ a, r = .ok a → Opened a (passed.map (.native .source))) session [] := by
  unfold Session.openFileForRead
  refine meetsS_enter ⟨trivial, ?_⟩
  rintro m rfl
  refine meetsS_allocateMessageIds.2 (meetsS_bind.2 (meetsS_withIds.2 ?_))
  refine (answers_openFile _ _ _ context _ _).mono ?_
  rintro (e | (e | create)) passed hanswers
  · rintro a ⟨⟩
  · rintro a ⟨⟩
    obtain ⟨reply, rfl, -, hnone⟩ := hanswers _ rfl
    refine ⟨⟨rfl, rfl⟩, ?_, ?_⟩
    · rintro opened ⟨⟩
    · rintro e' -
      cases hreply : decodedReply decodeCreateResponse reply with
      | error e => simp [reportedSize, Trace.after, endOfFileOf, hreply]
      | ok create => exact absurd hreply (hnone e rfl create)
  · rintro a ⟨⟩
    obtain ⟨reply, rfl, hdecoded, -⟩ := hanswers _ rfl
    refine ⟨⟨rfl, rfl⟩, ?_, ?_⟩
    · rintro opened ⟨⟩
      simp [reportedSize, Trace.after, endOfFileOf, hdecoded create rfl]
    · rintro e ⟨⟩

/-- A successful download leaves the local file as it should be if and only if everything
    was delivered. -/
def DownloadEnds (content : ByteVector) (_ : Bool) (trace : List ClientTrace) : Prop :=
  Truthful content trace → (Downloaded content trace ↔ AllDelivered trace)

variable {texts : Texts} {content : ByteVector}

/-- The end of a download after a READ that was not answered. -/
theorem Sofar.failed {size offset : UInt64} (h : Sofar content size offset trace)
    (hbefore : offset < size) {fileId : FileId} {e : ProtocolError} {options : ReadRequestOptions}
    (hoffset : options.offset = offset) {passed : List Trace}
    (hread : ChunkRead options (.error e) passed) :
    Achieves (do closeRemoteFile fileId context; return Client.failed texts .source e)
      (DownloadEnds content) sessions (trace ++ passed.map (.native .source)) := by
  obtain ⟨request, hbody, hanswers⟩ := hread
  refine achieves_closeRemoteFile ?_
  intro quiet hquiet hok
  rcases hanswers with hcancelled | ⟨reply, hnone, rfl⟩
  · simp [Client.failed, appError, Result.ok, Result.failure, AppError.hasError, AppError.fromCode,
      hcancelled, nativeToCoreError] at hok
  · rw [DownloadEnds, List.append_assoc]
    refine h.stopped hbefore (offset.toNat, reply) ?_ ?_ ?_
    · rw [reads_append, hquiet.reads, List.append_nil]
      simp [reads, readOf, hbody, hoffset]
    · rintro ⟨response, hdecoded, -⟩
      exact hnone response hdecoded
    · rw [localFile_append, hquiet.file]
      rfl

theorem downloadChunks_sofar {size offset : UInt64} {fileId : FileId} (fuel : ℕ)
    (h : Sofar content size offset trace) :
    Achieves (downloadChunks texts fileId size context fuel offset) (DownloadEnds content) sessions
      trace := by
  induction fuel generalizing offset sessions trace with
  | zero => exact .throw _
  | succ fuel ih =>
    rw [downloadChunks]
    split
    · rename_i hend
      refine achieves_closeRemoteFile fun quiet hquiet _ => ?_
      exact (h.quiet hquiet).finished hend
    rename_i hbefore
    have hlt : offset < size := UInt64.not_le.1 hbefore
    refine .bind (R := fun _ _ trace' => trace' = trace)
      (meetsS_cancelled fun _ _ _ => rfl) ?_
    rintro cancelled sessions' trace' rfl
    split
    · refine achieves_closeRemoteFile fun quiet _ hok => ?_
      cases hok
    refine .bind (R := fun a _ trace'' => ∃ (options : ReadRequestOptions) (passed : List Trace),
        options.offset = offset ∧ trace'' = trace' ++ passed.map (.native .source) ∧
          ChunkRead options a passed)
      (meetsS_onSession ((chunkRead_readFileChunk fileId _ offset _).mono ?_)) ?_
    · intro r session passed hread a ha
      exact ⟨_, passed, rfl, rfl, hread a ha⟩
    rintro (e | read) sessions'' trace'' ⟨options, passed, hoffset, rfl, hread⟩
    · exact h.failed hlt hoffset hread
    obtain ⟨request, hbody, reply, response, hdecoded, hdata, rfl⟩ := hread
    refine .bind (R := fun a _ trace'' => a = .ok () → trace'' = trace' ++
        [.native .source (.exchanged request reply), .wroteLocal response.data])
      (meetsS_ask ?_) ?_
    · rintro ans _ ⟨⟩ rfl
      rw [hdata]
      exact List.append_assoc _ _ _
    rintro (errorString | ⟨⟩) sessions''' trace''' hwritten
    · refine achieves_closeRemoteFile fun quiet _ hok => ?_
      cases hok
    obtain rfl := hwritten rfl
    refine .bind (R := fun _ _ trace'' => trace'' = trace' ++
        [.native .source (.exchanged request reply), .wroteLocal response.data])
      (meetsS_reportProgress fun _ _ => rfl) ?_
    rintro _ sessions'''' _ rfl
    have hread : reads [.native .source (.exchanged request reply), .wroteLocal response.data] =
        [(offset.toNat, reply)] := by
      simp [reads, readOf, hbody, hoffset]
    have hfile : localFile [.native .source (.exchanged request reply),
        .wroteLocal response.data] = response.data := by
      simp [localFile, writtenBy]
    rw [hdata]
    split
    · rename_i hempty
      refine achieves_closeRemoteFile fun quiet hquiet _ => ?_
      rw [DownloadEnds, List.append_assoc]
      refine h.stopped hlt (offset.toNat, reply) ?_ ?_ ?_
      · rw [reads_append, hread, hquiet.reads, List.append_nil]
      · rintro ⟨response', hdecoded', hne, -⟩
        obtain rfl : response = response' := Except.ok.inj (hdecoded.symm.trans hdecoded')
        exact hne hempty
      · rw [localFile_append, hfile, hempty, hquiet.file]
        rfl
    · rename_i hne
      exact ih (h.next hlt hread hdecoded hne hfile)

theorem meets_openNativeConnection {side : Side} {connection : Connection} :
    MeetsS Recorded (openNativeConnection side connection context)
      (fun _ _ trace' => trace' = trace) sessions trace := by
  unfold openNativeConnection
  refine meetsS_bind.2 (meetsS_cancelled ?_)
  rintro (_ | _)
  · refine meetsS_bind.2 (meetsS_ask ?_)
    rintro (e | connected)
    · exact rfl
    · exact rfl
  · exact rfl

/-- Nothing was opened. -/
theorem DownloadEnds.unopened {b : Bool} (h : reportedSize trace = none) :
    DownloadEnds content b trace := by
  intro htruthful
  refine iff_of_false ?_ ?_
  · rintro ⟨size, hsize, -⟩
    cases h.symm.trans hsize
  · rintro ⟨size, hsize, -⟩
    cases h.symm.trans hsize

theorem achieves_downloadFile (texts : Texts) (fuel : ℕ) (connection : Connection)
    (remotePath localPath : QString) (context : OperationContext) (sessions : Sessions) :
    Achieves (downloadFile texts fuel connection remotePath localPath context)
      (DownloadEnds content) sessions [] := by
  unfold downloadFile
  refine .bind (R := fun _ _ trace => trace = [])
    (meets_openNativeConnection.mono fun _ _ _ h _ _ => h) ?_
  rintro (e | ⟨⟩) sessions₁ _ rfl
  · exact .failure fun _ => .unopened rfl
  refine .bind (R := fun a _ trace => Opened a trace)
    (meetsS_onSession (opened_openFileForRead _ _)) ?_
  rintro (e | opened) sessions₂ trace₂ hopened
  · exact .failure fun _ => .unopened (hopened.unreported e rfl)
  refine .bind (R := fun _ _ trace => trace = trace₂) (meetsS_ask ?_) ?_
  · rintro (e | ⟨⟩) _ -
    · exact rfl
    · exact rfl
  rintro (errorString | ⟨⟩) sessions₃ _ rfl
  · refine achieves_closeRemoteFile fun quiet _ hok => ?_
    cases hok
  · refine downloadChunks_sofar fuel ⟨hopened.reported opened rfl, fun _ => ?_⟩
    refine .inl ⟨UInt64.zero_le, ?_, ?_⟩
    · rw [hopened.quiet.file]
      rfl
    · rw [hopened.quiet.reads]
      rintro read ⟨⟩

end

/-- A download that is reported as a success leaves the remote file, up to the size that
    was reported at open, in the local one if and only if the open was answered with a size
    and every READ with some bytes that end within it. -/
theorem downloadFile_iff {texts : Texts} {fuel : ℕ} {connection : Connection}
    {remotePath localPath : QString} {context : OperationContext} {sessions sessions' : Sessions}
    {es : List (Event ClientWire)} {result : Result Bool} {content : ByteVector}
    (hrun : Program.Runs
      ((downloadFile texts fuel connection remotePath localPath context).run.run sessions) es
      (.ok result, sessions'))
    (hok : result.ok = true) (htruthful : Truthful content (clientTraceOf es)) :
    Downloaded content (clientTraceOf es) ↔ AllDelivered (clientTraceOf es) :=
  (achieves_downloadFile texts fuel connection remotePath localPath context sessions).run hrun hok
    htruthful

/-! ## Two short downloads -/

/-- The reply to a CREATE that opens a file of this size. -/
def openedMessage (endOfFile : UInt64) : ByteVector :=
  grantedMessage .create
    (u16Le 89 ++ List.replicate 46 0 ++ u64Le endOfFile ++ List.replicate 32 0)

/-- An environment in which everything local works, the connection is opened, and the
    replies to its requests are played back. -/
def clientPlayback : Handler ClientWire (List (DecodeResult ByteVector))
  | replies, .native _ op =>
    let (ans, replies, _) := playback (replies, []) op
    (ans, replies)
  | replies, .connect .. =>
    (.ok { connection := .new 1 1 1, negotiated := {}, session := {}, tree := {} }, replies)
  | replies, .isCancelled => (false, replies)
  | replies, .progress .. => ((), replies)
  | replies, .createLocal _ => (.ok (), replies)
  | replies, .writeLocal _ => (.ok (), replies)
  | replies, .openLocal _ => (.ok [], replies)
  | replies, .readLocal => (.ok (), replies)

/-- Conversions for texts of ASCII characters. -/
def plainTexts : Texts where
  toStdString text := text.map fun c => UInt8.ofNat c.toNat
  fromStdString text := text.map fun c => UInt16.ofNat c.toNat
  details _ _ := []

deriving instance DecidableEq for Core.Result, Sessions

/-- A download of the file `a` with these replies to its requests. -/
def playedDownload (replies : List ByteVector) :
    List (Event ClientWire) × (Except Exn (Result Bool) × Sessions) ×
      List (DecodeResult ByteVector) :=
  ((downloadFile plainTexts 2 {} [0x61] [0x61] {}).run.run ⟨.new 1 1 1, .new 1 1 1⟩).serve
    clientPlayback (replies.map fun message => .ok (framed message))

theorem runs_playedDownload {replies : List ByteVector} {result : Result Bool} {sessions : Sessions}
    (hend : (playedDownload replies).2.1 = (.ok result, sessions)) :
    Program.Runs ((downloadFile plainTexts 2 {} [0x61] [0x61] {}).run.run
      ⟨.new 1 1 1, .new 1 1 1⟩) (playedDownload replies).1 (.ok result, sessions) := by
  unfold playedDownload at hend ⊢
  generalize (downloadFile plainTexts 2 {} [0x61] [0x61] {}).run.run
    ⟨.new 1 1 1, .new 1 1 1⟩ = p at hend ⊢
  have hrun := Program.runs_serve clientPlayback p (replies.map fun message => .ok (framed message))
  rwa [hend] at hrun

/-- The replies to a download of three bytes, which the READ brings. -/
def fullReplies : List ByteVector := [openedMessage 3, readMessage [1, 2, 3], closedMessage]

/-- The replies to a download of three bytes whose READ brings none. -/
def emptyReplies : List ByteVector := [openedMessage 3, readMessage [], closedMessage]

/-- A download of three bytes with one READ, by what passes in it. -/
theorem truthful_playedDownload {data content : ByteVector}
    (hsize : reportedSize (clientTraceOf
      (playedDownload [openedMessage 3, readMessage data, closedMessage]).1) = some 3)
    (hle : 3 ≤ content.length)
    (hreads : reads (clientTraceOf
      (playedDownload [openedMessage 3, readMessage data, closedMessage]).1) =
        [(0, .ok (framed (readMessage data)))])
    (hdecoded : decodedReply decodeReadResponse (.ok (framed (readMessage data))) =
      .ok { dataOffset := 80, data })
    (hdata : data <+: content) :
    Truthful content (clientTraceOf
      (playedDownload [openedMessage 3, readMessage data, closedMessage]).1) := by
  generalize clientTraceOf
    (playedDownload [openedMessage 3, readMessage data, closedMessage]).1 = trace at hsize hreads ⊢
  refine ⟨?_, ?_⟩
  · intro size hsize'
    obtain rfl : 3 = size := Option.some.inj (hsize.symm.trans hsize')
    exact hle
  · intro read hread response hdecoded'
    rw [hreads, List.mem_singleton] at hread
    subst hread
    obtain rfl : { dataOffset := 80, data } = response :=
      Except.ok.inj (hdecoded.symm.trans hdecoded')
    exact hdata

theorem downloadFile_iff_full :
    Downloaded [1, 2, 3] (clientTraceOf (playedDownload fullReplies).1) ↔
      AllDelivered (clientTraceOf (playedDownload fullReplies).1) := by
  have hend : (playedDownload fullReplies).2.1 =
      (.ok (.success true), ⟨⟨1, 1, 4⟩, .new 1 1 1⟩) := by decide +kernel
  have htruthful : Truthful [1, 2, 3] (clientTraceOf (playedDownload fullReplies).1) :=
    truthful_playedDownload (by decide +kernel) (by decide) (by decide +kernel) (by decide +kernel)
      (by decide)
  exact downloadFile_iff (runs_playedDownload hend) (by decide) htruthful

/-- A READ that brings nothing ends the download with a success and an empty file. -/
theorem downloadFile_truncates :
    ∃ es result sessions, Program.Runs
        ((downloadFile plainTexts 2 {} [0x61] [0x61] {}).run.run ⟨.new 1 1 1, .new 1 1 1⟩) es
        (.ok result, sessions) ∧
      result.ok = true ∧ Truthful [1, 2, 3] (clientTraceOf es) ∧
      ¬ Downloaded [1, 2, 3] (clientTraceOf es) := by
  have hend : (playedDownload emptyReplies).2.1 =
      (.ok (.success true), ⟨⟨1, 1, 4⟩, .new 1 1 1⟩) := by decide +kernel
  have htruthful : Truthful [1, 2, 3] (clientTraceOf (playedDownload emptyReplies).1) :=
    truthful_playedDownload (by decide +kernel) (by decide) (by decide +kernel) (by decide +kernel)
      (by decide)
  have hsize : reportedSize (clientTraceOf (playedDownload emptyReplies).1) = some 3 := by
    decide +kernel
  have hfile : localFile (clientTraceOf (playedDownload emptyReplies).1) = [] := by decide +kernel
  refine ⟨_, _, _, runs_playedDownload hend, by decide, htruthful, ?_⟩
  rintro ⟨size, hreported, hcontent⟩
  obtain rfl : 3 = size := Option.some.inj (hsize.symm.trans hreported)
  rw [hfile] at hcontent
  exact absurd hcontent (by decide)

end SmbBrowser.Client
