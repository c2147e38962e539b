import SmbBrowser.Native.DisjointIds
import SmbBrowser.Native.Exceptions
import SmbBrowser.Native.Replies
import SmbBrowser.Native.Traces

/-!
# The chunks of a server-side copy

The server may copy any part of the chunk it is asked for; the loop of
`copyFileServerSide` goes on behind what was acknowledged.

Results:
* `copyChunks_turns`: the size bounds the turns of the loop;
* `establishes_copyChunks`: the chunks from an offset on tile the rest of the file;
* `copyFileServerSide_tiles`: the chunks and reports of a copy that succeeds.
-/

namespace SmbBrowser.Native

open SmbBrowser.Base

/-! ## Chunks and reports of a trace -/

/-- The chunk a SRV_COPYCHUNK buffer of one chunk asks for. -/
def chunkOf (input : ByteVector) : CopyChunk where
  sourceOffset := UInt64.ofNat (leValue ((input.drop 32).take 8))
  targetOffset := UInt64.ofNat (leValue ((input.drop 40).take 8))
  length := UInt32.ofNat (leValue ((input.drop 48).take 4))

/-- The number of bytes a reply acknowledges. -/
def acknowledged (reply : DecodeResult ByteVector) : ℕ :=
  match decodedReply decodeIoctlResponse reply with
  | .ok response =>
    match decodeSrvCopyChunkResponse response.output with
    | .ok parsed => parsed.totalBytesWritten.toNat
    | .error _ => 0
  | .error _ => 0

/-- The chunk of a COPYCHUNK request with the bytes its reply acknowledges. -/
def copiedBy : Trace → Option (CopyChunk × ℕ)
  | .exchanged request reply =>
    match request.body with
    | .ioctl options =>
      if options.ctlCode = kFsctlSrvCopyChunk then
        some (chunkOf options.input, acknowledged reply)
      else none
    | _ => none
  | .reported _ => none

/-- The chunks of a trace. -/
def copies (trace : List Trace) : List (CopyChunk × ℕ) := trace.filterMap copiedBy

/-- The progress reports of a trace. -/
def reports (trace : List Trace) : List TransferProgress :=
  trace.filterMap fun
    | .exchanged _ _ => none
    | .reported progress => some progress

/-- From `offset` on the chunks lie end to end up to `size`: each starts where the
    acknowledged bytes of the one before it end, in the source as in the target, and
    asks for no more than a megabyte and the rest of the file. -/
def Tiles (size : ℕ) : ℕ → List (CopyChunk × ℕ) → Prop
  | offset, [] => offset = size
  | offset, (chunk, count) :: rest =>
    chunk.sourceOffset.toNat = offset ∧ chunk.targetOffset.toNat = offset ∧
      0 < count ∧ count ≤ chunk.length.toNat ∧
      chunk.length.toNat ≤ Session.kCopyChunkSize ∧ chunk.length.toNat ≤ size - offset ∧
      Tiles size (offset + count) rest

/-- Where the acknowledged parts end. -/
def tileEnds : ℕ → List (CopyChunk × ℕ) → List ℕ
  | _, [] => []
  | offset, (_, count) :: rest => (offset + count) :: tileEnds (offset + count) rest

theorem Tiles.le {size offset : ℕ} {tiles : List (CopyChunk × ℕ)} (h : Tiles size offset tiles) :
    offset ≤ size := by
  induction tiles generalizing offset with
  | nil => exact Nat.le_of_eq h
  | cons tile tiles ih =>
    obtain ⟨-, -, -, -, -, -, hrest⟩ := h
    have hle := ih hrest
    omega

/-- The ends grow, from the first offset to the size. -/
theorem Tiles.ends {size offset : ℕ} {tiles : List (CopyChunk × ℕ)} (h : Tiles size offset tiles) :
    (offset :: tileEnds offset tiles).Pairwise (· < ·) ∧
      (tileEnds offset tiles).getLastD offset = size := by
  induction tiles generalizing offset with
  | nil => exact ⟨List.pairwise_singleton _ _, h⟩
  | cons tile tiles ih =>
    obtain ⟨chunk, count⟩ := tile
    obtain ⟨-, -, hpos, -, -, -, hrest⟩ := h
    obtain ⟨hpairwise, hlast⟩ := ih hrest
    refine ⟨List.pairwise_cons.2 ⟨?_, hpairwise⟩, ?_⟩
    · intro e he
      obtain rfl | he := List.mem_cons.1 he
      · omega
      · have hlt := (List.pairwise_cons.1 hpairwise).1 e he
        omega
    · rw [← hlast]
      exact List.getLastD_cons ..

theorem Tiles.ends_le {size offset : ℕ} {tiles : List (CopyChunk × ℕ)}
    (h : Tiles size offset tiles) : ∀ e ∈ tileEnds offset tiles, e ≤ size := by
  induction tiles generalizing offset with
  | nil => simp [tileEnds]
  | cons tile tiles ih =>
    obtain ⟨chunk, count⟩ := tile
    obtain ⟨-, -, -, -, -, -, hrest⟩ := h
    intro e he
    obtain rfl | he := List.mem_cons.1 he
    · exact hrest.le
    · exact ih hrest e he

theorem copies_append (trace trace' : List Trace) :
    copies (trace ++ trace') = copies trace ++ copies trace' :=
  List.filterMap_append ..

theorem reports_append (trace trace' : List Trace) :
    reports (trace ++ trace') = reports trace ++ reports trace' :=
  List.filterMap_append ..

/-! ## The steps of the copy -/

variable {α : Type} {context : OperationContext} {session : Session} {trace : List Trace}
  {P : α → Session → List Trace → Prop}

/-- Nothing was copied or reported in between. -/
structure Idle (trace trace' : List Trace) : Prop where
  copied : copies trace' = copies trace
  reported : reports trace' = reports trace

theorem Idle.refl (trace : List Trace) : Idle trace trace := ⟨rfl, rfl⟩

theorem Idle.trans {trace₁ trace₂ trace₃ : List Trace} (h : Idle trace₁ trace₂)
    (h' : Idle trace₂ trace₃) : Idle trace₁ trace₃ :=
  ⟨h'.copied.trans h.copied, h'.reported.trans h.reported⟩

/-- An exchange that copies nothing. -/
theorem Idle.exchanged {request : Request} {reply : DecodeResult ByteVector}
    (h : copiedBy (.exchanged request reply) = none) :
    Idle trace (trace ++ [.exchanged request reply]) where
  copied := by
    have hnone : copies [.exchanged request reply] = [] := List.filterMap_cons_none h
    rw [copies_append, hnone, List.append_nil]
  reported := by
    rw [reports_append]
    exact List.append_nil _

theorem idle_closeFile (fileId : FileId) (session : Session) (trace : List Trace) :
    MeetsS Traced (Session.closeFile fileId {}) (fun _ _ trace' =>
      Idle trace trace') session trace := by
  refine meetsS_allocateMessageIds.2 (meetsS_bind.2 (meetsS_withIds.2
    ((sends_exchangeResponse _ _ _ _ trace).mono ?_)))
  intro r trace' hsent
  have hidle : Idle trace trace' := by
    obtain rfl | ⟨reply, rfl⟩ := hsent
    · exact .refl _
    · exact .exchanged rfl
  cases r with
  | error e => exact hidle
  | ok r =>
    cases r with
    | error e => exact hidle
    | ok close => exact hidle

/-- `closeBoth`, and then the copy succeeds. -/
theorem establishes_closeBoth (source target : FileId) {a : α}
    (h : ∀ session' trace', Idle trace trace' → P a session' trace') :
    EstablishesS (Session.closeBoth source target >>= fun _ => pure (.ok a)) P session trace := by
  rw [Session.closeBoth, bind_assoc]
  refine .bind (idle_closeFile target session trace) ?_
  intro r session₁ trace₁ hidle₁
  rw [bind_assoc]
  refine .bind (idle_closeFile source session₁ trace₁) ?_
  intro r session₂ trace₂ hidle₂
  rw [pure_bind]
  exact .ok (h session₂ trace₂ (hidle₁.trans hidle₂))

/-- The session after one more request. -/
def next (session : Session) : Session :=
  { session with nextMessageId := session.nextMessageId + 1 }

theorem establishes_openWithFreshId {options : CreateRequestOptions}
    {k : DecodeResult CreateResponse → SessionM (DecodeResult α)}
    (hok : ∀ create trace', Idle trace trace' →
      EstablishesS (k (.ok create)) P (next session) trace')
    (herror : ∀ e trace', EstablishesS (k (.error e)) P (next session) trace') :
    EstablishesS (Session.openWithFreshId options context >>= k) P session trace := by
  rw [Session.openWithFreshId, bind_assoc]
  refine .allocateMessageIds (.withIds (.openFile _ _ _ _ _) ?_ herror)
  rintro create trace' ⟨reply, -, rfl⟩
  exact hok create _ (.exchanged rfl)

theorem establishes_ioctlWithFreshId {options : IoctlRequestOptions}
    {k : DecodeResult IoctlResponse → SessionM (DecodeResult α)}
    (hok : ∀ response reply, decodedReply decodeIoctlResponse reply = .ok response →
      EstablishesS (k (.ok response)) P (next session) (trace ++ [.exchanged
        ⟨.ioctl options, session.nextMessageId, session.treeId, session.sessionId⟩ reply]))
    (herror : ∀ e trace', EstablishesS (k (.error e)) P (next session) trace') :
    EstablishesS (Session.ioctlWithFreshId options context >>= k) P session trace := by
  rw [Session.ioctlWithFreshId, bind_assoc]
  refine .allocateMessageIds (.withIds (.ioctl _ _ _ _ _) ?_ herror)
  rintro response trace' ⟨reply, hreply, rfl⟩
  exact hok response reply hreply

/-- An IOCTL that copies nothing. -/
theorem establishes_idleIoctl {options : IoctlRequestOptions}
    (hcode : options.ctlCode ≠ kFsctlSrvCopyChunk)
    {k : DecodeResult IoctlResponse → SessionM (DecodeResult α)}
    (hok : ∀ response trace', Idle trace trace' →
      EstablishesS (k (.ok response)) P (next session) trace')
    (herror : ∀ e trace', EstablishesS (k (.error e)) P (next session) trace') :
    EstablishesS (Session.ioctlWithFreshId options context >>= k) P session trace :=
  establishes_ioctlWithFreshId
    (fun response _ _ => hok response _ (.exchanged (if_neg hcode))) herror

section Loop

variable (source target : FileId) (path : ByteVector) (size : ℕ) (context : OperationContext)

/-- **The size bounds the turns of the loop**: a chunk is acknowledged in part at
    least, so that more turns than the rest of the file has bytes are never taken. -/
theorem copyChunks_turns (resumeKey : ByteVector) {fuel offset : ℕ} (h : size ≤ offset + fuel)
    (more : ℕ) :
    Session.copyChunks source target resumeKey path size context (fuel + more) offset =
      Session.copyChunks source target resumeKey path size context fuel offset := by
  induction fuel generalizing offset with
  | zero =>
    cases more with
    | zero => rfl
    | succ more =>
      have hdone : size ≤ offset := h
      rw [Nat.zero_add, Session.copyChunks, Session.copyChunks, if_pos hdone]
  | succ fuel ih =>
    rw [Nat.succ_add, Session.copyChunks, Session.copyChunks]
    congr 1
    refine bind_congr fun cancelled => ?_
    congr 1
    refine bind_congr fun input => bind_congr fun copied => ?_
    cases copied with
    | error e => rfl
    | ok copied =>
      dsimp only
      split
      · rfl
      · split
        · rfl
        · rename_i hcount
          refine bind_congr fun _ => ih ?_
          have hpos := UInt32.toNat_inj.ne.2 (not_or.1 hcount).1
          have hzero : (0 : UInt32).toNat = 0 := rfl
          omega

/-- The reports of a copy whose parts end here. -/
def reportsOf (ends : List ℕ) : List TransferProgress :=
  if context.reportsProgress = true then
    ends.map fun done => { bytesTransferred := UInt64.ofNat done, totalBytes := UInt64.ofNat size }
  else []

/-- The request of one chunk asks for that chunk. -/
theorem chunkOf_built {resumeKey input : ByteVector} {chunk : CopyChunk}
    (hkey : ¬ resumeKey.length < 24)
    (h : buildSrvCopyChunkRequest resumeKey [chunk] = .ok input) : chunkOf input = chunk := by
  have hlength : (resumeKey.take 24).length = 24 := by
    rw [List.length_take]
    omega
  simp only [buildSrvCopyChunkRequest, hkey, List.length_singleton, u32Max, decide_false,
    throwWhen_false, Nat.reduceGT] at h
  obtain rfl := Except.ok.inj h
  obtain ⟨sourceOffset, targetOffset, length⟩ := chunk
  generalize resumeKey.take 24 = key at hlength
  have hkeyDrop : ∀ n, 24 ≤ n → key.drop n = [] := fun n hn => List.drop_eq_nil_of_le (by omega)
  have hwordDrop : ∀ n, 4 ≤ n → ∀ v, (u32Le v).drop n = [] := fun n hn v =>
    List.drop_eq_nil_of_le (by rw [length_u32Le]; omega)
  have hlongDrop : ∀ n, 8 ≤ n → ∀ v, (u64Le v).drop n = [] := fun n hn v =>
    List.drop_eq_nil_of_le (by rw [length_u64Le]; omega)
  simp [chunkOf, List.drop_append, hlength, hkeyDrop, hwordDrop, hlongDrop]

/-- What a trace of the loop shows, from an offset on. -/
def Copied (offset : ℕ) (trace trace' : List Trace) : Prop :=
  ∃ tiles, Tiles size offset tiles ∧ copies trace' = copies trace ++ tiles ∧
    reports trace' = reports trace ++ reportsOf size context (tileEnds offset tiles)

theorem Copied.done {offset : ℕ} {trace trace' : List Trace} (hle : offset ≤ size)
    (hend : size ≤ offset) (h : Idle trace trace') : Copied size context offset trace trace' := by
  refine ⟨[], Nat.le_antisymm hle hend, ?_, ?_⟩
  · rw [h.copied, List.append_nil]
  · rw [h.reported, reportsOf, tileEnds, List.map_nil, ite_self, List.append_nil]

variable {size context}

theorem copies_turn {exchanged : Trace} {tile : CopyChunk × ℕ}
    (hcopied : copiedBy exchanged = some tile) (trace : List Trace) (progress : TransferProgress) :
    copies (if context.reportsProgress = true then trace ++ [exchanged] ++ [.reported progress]
      else trace ++ [exchanged]) = copies trace ++ [tile] := by
  have htile : copies (trace ++ [exchanged]) = copies trace ++ [tile] := by
    rw [copies_append]
    exact congrArg _ (List.filterMap_cons_some hcopied)
  split
  · rw [copies_append, htile]
    exact List.append_nil _
  · exact htile

theorem reports_turn (trace : List Trace) (request : Request) (reply : DecodeResult ByteVector)
    (done : ℕ) :
    reports (if context.reportsProgress = true then
        trace ++ [.exchanged request reply] ++
          [.reported { bytesTransferred := UInt64.ofNat done, totalBytes := UInt64.ofNat size }]
      else trace ++ [.exchanged request reply]) =
      reports trace ++ reportsOf size context [done] := by
  have hnone : reports (trace ++ [.exchanged request reply]) = reports trace := by
    rw [reports_append]
    exact List.append_nil _
  unfold reportsOf
  split
  · rw [reports_append, hnone]
    rfl
  · rw [hnone, List.append_nil]

theorem reportsOf_cons (done : ℕ) (ends : List ℕ) :
    reportsOf size context (done :: ends) =
      reportsOf size context [done] ++ reportsOf size context ends := by
  unfold reportsOf
  split
  · rfl
  · rfl

/-- A turn in front of the others. -/
theorem Copied.cons (chunk : CopyChunk) {offset count : ℕ} {trace trace' : List Trace}
    {request : Request} {reply : DecodeResult ByteVector}
    (hcopied : copiedBy (.exchanged request reply) = some (chunk, count))
    (hsource : chunk.sourceOffset.toNat = offset) (htarget : chunk.targetOffset.toNat = offset)
    (hlength : chunk.length.toNat = min Session.kCopyChunkSize (size - offset))
    (hpos : 0 < count) (hcount : count ≤ chunk.length.toNat)
    (h : Copied size context (offset + count)
      (if context.reportsProgress = true then trace ++ [.exchanged request reply] ++ [.reported
          { bytesTransferred := UInt64.ofNat (offset + count), totalBytes := UInt64.ofNat size }]
        else trace ++ [.exchanged request reply]) trace') :
    Copied size context offset trace trace' := by
  obtain ⟨tiles, htiles, hcopies, hreports⟩ := h
  refine ⟨(chunk, count) :: tiles, ⟨hsource, htarget, hpos, hcount, ?_, ?_, htiles⟩, ?_, ?_⟩
  · omega
  · omega
  · rw [hcopies, copies_turn hcopied, List.append_assoc, List.singleton_append]
  · rw [hreports, reports_turn, tileEnds, reportsOf_cons _ (tileEnds _ _),
      List.append_assoc]

variable (size context)

/-- **What the loop copies.**  The induction is on the turns left; from its offset on
    the loop tiles the rest of the file, and reports the end of each part. -/
theorem establishes_copyChunks {resumeKey : ByteVector} (hkey : ¬ resumeKey.length < 24)
    (hsize : size < 2 ^ 64) {fuel offset : ℕ} (hle : offset ≤ size) (hfuel : size ≤ offset + fuel)
    (session : Session) (trace : List Trace) :
    EstablishesS (Session.copyChunks source target resumeKey path size context fuel offset)
      (fun _ _ trace' => Copied size context offset trace trace') session trace := by
  induction fuel generalizing offset session trace with
  | zero => exact establishes_closeBoth source target fun _ _ => .done size context hle hfuel
  | succ fuel ih =>
    rw [Session.copyChunks]
    split
    · rename_i hend
      exact establishes_closeBoth source target fun _ _ => .done size context hle hend
    rename_i hrest
    refine .look (.then_error rfl) ?_
    obtain ⟨input, hinput, -⟩ := buildSrvCopyChunkRequest_single {
      sourceOffset := UInt64.ofNat offset, targetOffset := UInt64.ofNat offset,
      length := UInt32.ofNat (min Session.kCopyChunkSize (size - offset)) } hkey
    refine .built hinput (establishes_ioctlWithFreshId ?_ fun e _ => .then_error rfl)
    intro copied reply hreply
    dsimp only
    cases hparsed : decodeSrvCopyChunkResponse copied.output with
    | error e => exact .then_error rfl
    | ok parsed =>
      dsimp only
      by_cases hcount : parsed.totalBytesWritten = 0 ∨
          parsed.totalBytesWritten.toNat > min Session.kCopyChunkSize (size - offset)
      · rw [if_pos hcount]
        exact .then_error rfl
      · rw [if_neg hcount]
        obtain ⟨hzero, hmost⟩ := not_or.1 hcount
        have hpos := UInt32.toNat_inj.ne.2 hzero
        have hzeroNat : (0 : UInt32).toNat = 0 := rfl
        refine .reportProgress ((ih (by omega) (by omega) _ _).mono ?_)
        intro _ _ trace' h
        have hchunk := chunkOf_built hkey hinput
        have hlength : (chunkOf input).length.toNat =
            min Session.kCopyChunkSize (size - offset) := by
          have hsmall : Session.kCopyChunkSize < 2 ^ 32 := by decide
          rw [hchunk]
          exact UInt32.toNat_ofNat'.trans (Nat.mod_eq_of_lt (by omega))
        refine Copied.cons (chunkOf input) ?_ ?_ ?_ hlength ?_ ?_ h
        · simp only [copiedBy, acknowledged, hreply, hparsed, if_true]
        · rw [hchunk]
          exact UInt64.toNat_ofNat'.trans (Nat.mod_eq_of_lt (by omega))
        · rw [hchunk]
          exact UInt64.toNat_ofNat'.trans (Nat.mod_eq_of_lt (by omega))
        · omega
        · omega

/-- A copy before the resume key is known. -/
theorem establishes_copyFileServerSide (sourcePath targetPath : ByteVector) (size : UInt64)
    (session : Session) :
    EstablishesS (Session.copyFileServerSide sourcePath targetPath size context)
      (fun _ _ trace' => Copied size.toNat context 0 [] trace') session [] := by
  unfold Session.copyFileServerSide
  refine .enter (.look (.error rfl) ?_)
  refine establishes_openWithFreshId ?_ fun e _ => .error rfl
  intro source trace₁ hidle₁
  refine .look (.then_error rfl) ?_
  refine establishes_openWithFreshId ?_ fun e _ => .then_error rfl
  intro target trace₂ hidle₂
  dsimp only
  have hidle := hidle₁.trans hidle₂
  by_cases hempty : size = 0
  · rw [if_pos hempty]
    subst hempty
    exact establishes_closeBoth _ _ fun _ _ hclosed =>
      .done _ _ le_rfl le_rfl (hidle.trans hclosed)
  rw [if_neg hempty]
  have hcode : kFsctlSrvRequestResumeKey ≠ kFsctlSrvCopyChunk := by decide
  refine establishes_idleIoctl hcode ?_ fun e _ => .then_error rfl
  intro resume trace₃ hidle₃
  dsimp only
  by_cases hkey : resume.output.length < 24
  · rw [if_pos hkey]
    exact .then_error rfl
  rw [if_neg hkey]
  refine (establishes_copyChunks source.fileId target.fileId targetPath size.toNat context hkey
    size.toNat_lt (Nat.zero_le _) (by omega) _ _).mono ?_
  rintro _ _ trace' ⟨tiles, htiles, hcopies, hreports⟩
  refine ⟨tiles, htiles, ?_, ?_⟩
  · rw [hcopies, (hidle.trans hidle₃).copied]
  · rw [hreports, (hidle.trans hidle₃).reported]

end Loop

/-- **Tiling of the server-side copy.**  More turns than the size are never taken; when
    the copy succeeds, the chunks it asked for, cut to what was acknowledged, lie end
    to end from 0 to the size, at equal offsets in both files, and the reported
    progress grows from one report to the next up to the size. -/
theorem copyFileServerSide_tiles (sourcePath targetPath : ByteVector) (size : UInt64)
    (context : OperationContext) :
    (∀ source target resumeKey more,
      Session.copyChunks source target resumeKey targetPath size.toNat context
          (size.toNat + more) 0 =
        Session.copyChunks source target resumeKey targetPath size.toNat context size.toNat 0) ∧
    ∀ session session' es result, Program.Runs
        ((Session.copyFileServerSide sourcePath targetPath size context).run.run session) es
        (.ok (.ok result), session') →
      Tiles size.toNat 0 (copies (traceOf es)) ∧
      (context.reportsProgress = true →
        (0 :: (reports (traceOf es)).map (·.bytesTransferred.toNat)).Pairwise (· < ·) ∧
        ((reports (traceOf es)).map (·.bytesTransferred.toNat)).getLastD 0 = size.toNat ∧
        ∀ progress ∈ reports (traceOf es), progress.totalBytes = size) := by
  refine ⟨?_, ?_⟩
  · intro source target resumeKey more
    exact copyChunks_turns source target targetPath size.toNat context resumeKey (by omega) more
  · intro session session' es result hrun
    obtain ⟨tiles, htiles, hcopies, hreports⟩ :=
      (establishes_copyFileServerSide context sourcePath targetPath size session).run hrun
    have hcopies : copies (traceOf es) = tiles := hcopies
    rw [hcopies]
    refine ⟨htiles, fun hreporting => ?_⟩
    have hreports : reports (traceOf es) = (tileEnds 0 tiles).map fun done =>
        { bytesTransferred := UInt64.ofNat done, totalBytes := UInt64.ofNat size.toNat } := by
      rw [hreports, reportsOf, if_pos hreporting]
      rfl
    have hdone : (reports (traceOf es)).map (·.bytesTransferred.toNat) = tileEnds 0 tiles := by
      rw [hreports, List.map_map]
      refine (List.map_congr_left ?_).trans (List.map_id _)
      intro done hmem
      have hle := htiles.ends_le done hmem
      have hlt := size.toNat_lt
      exact UInt64.toNat_ofNat'.trans (Nat.mod_eq_of_lt (by omega))
    obtain ⟨hgrow, hend⟩ := htiles.ends
    rw [hdone]
    refine ⟨hgrow, hend, ?_⟩
    rw [hreports]
    intro progress hprogress
    obtain ⟨done, -, rfl⟩ := List.mem_map.1 hprogress
    exact UInt64.ofNat_toNat

/-! ## A copy in two parts -/

/-- The reply to an IOCTL with this output. -/
def ioctlMessage (output : ByteVector) : ByteVector :=
  grantedMessage .ioctl (u16Le 49 ++ List.replicate 22 0 ++ u32Le 112 ++ u32Le 0 ++ u32Le 112 ++
    u32Le (UInt32.ofNat output.length) ++ List.replicate 8 0 ++ output)

/-- The reply to a COPYCHUNK that acknowledges so many bytes. -/
def copiedMessage (count : UInt32) : ByteVector :=
  ioctlMessage (u32Le 1 ++ u32Le count ++ u32Le count)

/-- The replies to a copy of five bytes: three of them are copied, then the rest. -/
def twoParts : List (DecodeResult ByteVector) :=
  [createdMessage, createdMessage, ioctlMessage (List.replicate 32 7), copiedMessage 3,
    copiedMessage 2, closedMessage, closedMessage].map fun message => .ok (framed message)

def copyInTwoParts :
    List (Event Wire) × (Except Exn (DecodeResult NativeObjectMutationResult) × Session) ×
      (List (DecodeResult ByteVector) × List Bool) :=
  ((Session.copyFileServerSide (ascii "a") (ascii "b") 5 { reportsProgress := true }).run.run
    (.new 1 1 1)).serve playback (twoParts, [])

theorem copyInTwoParts_runs {result : NativeObjectMutationResult} {session' : Session}
    (hend : copyInTwoParts.2.1 = (.ok (.ok result), session')) :
    Program.Runs ((Session.copyFileServerSide (ascii "a") (ascii "b") 5
      { reportsProgress := true }).run.run (.new 1 1 1)) copyInTwoParts.1
      (.ok (.ok result), session') := by
  unfold copyInTwoParts at hend ⊢
  generalize (Session.copyFileServerSide (ascii "a") (ascii "b") 5
    { reportsProgress := true }).run.run (.new 1 1 1) = p at hend ⊢
  have hrun := Program.runs_serve playback p (twoParts, [])
  rwa [hend] at hrun

theorem copyInTwoParts_end :
    copyInTwoParts.2.1 = (.ok (.ok { path := ascii "b" }), ⟨1, 1, 8⟩) := by
  decide +kernel

theorem copyFileServerSide_tiles_parts :
    Tiles (5 : UInt64).toNat 0 (copies (traceOf copyInTwoParts.1)) ∧
      (0 :: (reports (traceOf copyInTwoParts.1)).map (·.bytesTransferred.toNat)).Pairwise
        (· < ·) := by
  have hrun := copyInTwoParts_runs copyInTwoParts_end
  generalize copyInTwoParts.1 = es at hrun ⊢
  obtain ⟨-, htiles⟩ :=
    copyFileServerSide_tiles (ascii "a") (ascii "b") 5 { reportsProgress := true }
  obtain ⟨htiled, hreports⟩ := htiles _ _ _ _ hrun
  exact ⟨htiled, (hreports rfl).1⟩

end SmbBrowser.Native
