import SmbBrowser.Native.AllocatedIds

/-!
# Message ids of the session

The invariant of `NativeSmbSession`: as long as every call is accounted for,
the requests are in order and lie below the next message id.  Every method
keeps it, and so does every operation made of methods.

Results:
* `SessionCall.keeps_run`: one lemma for every primitive method;
* `SessionOperation.keeps_run`: the same for the recursive and wildcard deletes;
* `SessionRuns.ordered`: the requests of a whole run are in order.
-/

namespace SmbBrowser.Native

open SmbBrowser.Base

/-! ## The invariant -/

/-- While every call is accounted for, the requests are in order and lie below
    the session's next id. -/
def Owed (session : Session) (t : Tally) : Prop :=
  t.accounted → t.ordered = true ∧ t.next ≤ session.nextMessageId

/-- What a method leaves: the invariant, or at least the order of the requests
    when it does not end. -/
def Kept {α : Type} (r : Except Exn α) (session : Session) (t : Tally) : Prop :=
  (t.accounted → t.ordered = true) ∧ (r ≠ .error .unfinished → Owed session t)

/-- A program of the session that keeps the invariant. -/
def Keeps {α : Type} (p : SessionM α) : Prop :=
  ∀ session t, Owed session t → MeetsS Tallied p Kept session t

/-- The tally when a method begins. -/
def Tally.enter (t : Tally) (call : SessionCall) : Tally where
  settled := t.accounted
  call := some call
  next := t.next
  ordered := t.ordered

section

variable {α β : Type} {session : Session} {t t' : Tally}

theorem Owed.kept (h : Owed session t) (r : Except Exn α) : Kept r session t :=
  ⟨fun hacc => (h hacc).1, fun _ => h⟩

/-- A method that has ended keeps the invariant if its requests are spent. -/
theorem Spent.owed {call : SessionCall} {bound : ℕ} (h : Spent call (t.enter call) bound t')
    (hbound : bound ≤ session.nextMessageId) : Owed session t' := by
  rintro ⟨hsettled, hcall⟩
  rw [h.settled] at hsettled
  rw [Tally.callAccounted, h.call] at hcall
  obtain ⟨hordered, hnext⟩ := h.covers hsettled hcall
  exact ⟨hordered, by omega⟩

theorem Within.owed {call : SessionCall} {bound : ℕ} (h : Within (t.enter call) bound t')
    (hbound : bound ≤ session.nextMessageId) : Owed session t' := by
  have hspent : Spent call (t.enter call) bound t' := h.spent le_rfl
  exact hspent.owed hbound

theorem Owed.covers (h : Owed session t) (call : SessionCall) :
    (t.enter call).settled →
      (t.enter call).ordered = true ∧ (t.enter call).next ≤ session.nextMessageId := h

theorem Owed.within (h : Owed session t) (call : SessionCall) :
    Within (t.enter call) session.nextMessageId (t.enter call) :=
  ⟨rfl, rfl, h⟩

theorem Owed.sofar (h : Owed session t) (call : SessionCall) :
    Sofar (t.enter call) session.nextMessageId 0 (t.enter call) :=
  .begin rfl h

/-! ## Rules for the session's monad -/

variable {Q : Except Exn α → Session → Tally → Prop}

theorem meets_ofProg {p : Prog α} :
    MeetsS Tallied (SessionM.ofProg p) Q session t ↔
      MeetsE Tallied p (fun r t' => Q r session t') t := by
  show Meets Tallied (p.run.bind fun r => .pure (r, session)) _ t ↔ _
  rw [meets_bind]
  exact Iff.rfl

theorem meets_withIds {m : ℕ} {f : ℕ → UInt32 → UInt64 → Prog α} :
    MeetsS Tallied (SessionM.withIds m f) Q session t ↔
      MeetsE Tallied (f m session.treeId session.sessionId) (fun r t' => Q r session t') t :=
  meets_ofProg

/-- A method begins. -/
theorem meets_enter {call : SessionCall} {f : Unit → SessionM α} :
    MeetsS Tallied (SessionM.enter call >>= f) Q session t ↔
      MeetsS Tallied (f ()) Q session (t.enter call) := by
  rw [meetsS_bind, SessionM.enter, meets_ofProg]
  show Meets Tallied (Program.ask _ fun _ => _) _ t ↔ _
  rw [meets_tracking_ask]
  constructor
  · intro h
    exact h ()
  · intro h _
    exact h

theorem meets_get {f : Session → SessionM α} :
    MeetsS Tallied (get >>= f) Q session t ↔ MeetsS Tallied (f session) Q session t := Iff.rfl

theorem meets_allocateMessageIds {count : ℕ} {f : ℕ → SessionM α} :
    MeetsS Tallied (allocateMessageIds count >>= f) Q session t ↔
      MeetsS Tallied (f session.nextMessageId) Q
        { session with nextMessageId := session.nextMessageId + count } t := Iff.rfl

theorem keeps_pure (a : α) : Keeps (pure a : SessionM α) := by
  intro session t h
  exact h.kept _

theorem keeps_unfinished : Keeps (throw .unfinished : SessionM α) := by
  intro session t h
  exact h.kept _

theorem Keeps.bind {p : SessionM α} {f : α → SessionM β} (hp : Keeps p)
    (hf : ∀ a, Keeps (f a)) : Keeps (p >>= f) := by
  intro session t h
  refine (hp session t h).bind ?_ ?_
  · intro a session' t' hkept
    exact hf a session' t' (hkept.2 (by simp))
  · intro e session' t' hkept
    exact ⟨hkept.1, fun hne => hkept.2 (by simpa using hne)⟩

theorem Keeps.discard {p : SessionM α} (hp : Keeps p) : Keeps (discard p) := by
  have hdiscard : Functor.discard p = p >>= fun _ => pure () := by
    rw [Functor.discard, LawfulFunctor.map_const, Function.comp_apply, ← bind_pure_comp]
  rw [hdiscard]
  exact hp.bind fun _ => keeps_pure ()

theorem keeps_cancelled (context : OperationContext) : Keeps (SessionM.cancelled context) := by
  intro session t h
  refine meets_ofProg.2 (meets_isCancelled fun b => ?_)
  rw [Tally.poll_session]
  exact h.kept _

end

/-! ## Methods that count the messages a helper reports -/

section

variable {α β : Type} (context : OperationContext)

theorem keeps_withReportedIds {call : SessionCall} {used : α → ℕ} {result : α → β}
    {helper : ℕ → UInt32 → UInt64 → Prog (DecodeResult α)}
    (hhelper : ∀ {t : Tally} {m : ℕ} treeId sessionId, t.log = {} →
      (t.settled → t.ordered = true ∧ t.next ≤ m) →
      MeetsE Tallied (helper m treeId sessionId)
        (fun r => Spent call t (m + reportedIds used r)) t) :
    Keeps (Session.withReportedIds call used helper result) := by
  intro session t h
  unfold Session.withReportedIds
  refine meets_enter.2 (meets_get.2 (meetsS_bind.2 (meets_withIds.2 ?_)))
  refine (hhelper session.treeId session.sessionId rfl (h.covers call)).mono ?_
  rintro (e | e | a) t' hspent
  · exact Owed.kept (hspent.owed le_rfl) _
  · exact Owed.kept (hspent.owed le_rfl) _
  · exact Owed.kept (hspent.owed le_rfl) _

theorem keeps_listDirectory (fuel : ℕ) (path : ByteVector) :
    Keeps (Session.listDirectory fuel path context) := by
  intro session t h
  unfold Session.listDirectory
  refine meets_enter.2 (meets_get.2 (meetsS_bind.2 (meets_withIds.2 ?_)))
  refine (meets_directoryLister session.treeId session.sessionId context fuel path rfl
    (h.covers _)).mono ?_
  rintro (e | e | a) t' hlisted
  · obtain ⟨⟨bound, hwithin⟩, hfinished⟩ := hlisted
    refine ⟨fun hacc => ?_, fun hne => (hfinished (by simpa using hne)).owed le_rfl⟩
    have howed : Owed { session with nextMessageId := bound } t' := hwithin.owed le_rfl
    exact (howed hacc).1
  · exact Owed.kept (hlisted.owed le_rfl) _
  · exact Owed.kept (hlisted.owed le_rfl) _

theorem keeps_writeFileOnce (path data : ByteVector) (offset : UInt64) :
    Keeps (Session.writeFileOnce path data offset context) := by
  intro session t h
  unfold Session.writeFileOnce
  refine meets_enter.2 (meets_get.2 (meetsS_bind.2 (meets_withIds.2 ?_)))
  refine (meets_fileWriter session.treeId session.sessionId context path data offset rfl
    (h.covers _)).mono ?_
  rintro (e | e | a) t' hspent
  · exact Owed.kept (hspent.owed le_rfl) _
  · exact Owed.kept (hspent.owed le_rfl) _
  · exact Owed.kept (hspent.owed le_rfl) _

/-! ## Methods whose ids are taken before the helper runs -/

theorem keeps_withAllocatedIds {call : SessionCall} {count : ℕ} {result : α → β}
    {helper : ℕ → UInt32 → UInt64 → Prog (DecodeResult α)}
    (hhelper : ∀ {t₀ t : Tally} {m : ℕ} treeId sessionId, Sofar t₀ m 0 t →
      MeetsE Tallied (helper m treeId sessionId) (fun _ => Within t₀ (m + count)) t) :
    Keeps (Session.withAllocatedIds call count helper result) := by
  intro session t h
  unfold Session.withAllocatedIds
  refine meets_enter.2 (meets_allocateMessageIds.2 (meetsS_bind.2 (meets_withIds.2 ?_)))
  refine (hhelper session.treeId session.sessionId (h.sofar call)).mono ?_
  rintro (e | e | a) t' hwithin
  · exact Owed.kept (hwithin.owed le_rfl) _
  · exact Owed.kept (hwithin.owed le_rfl) _
  · exact Owed.kept (hwithin.owed le_rfl) _

theorem keeps_readFileOnce (path : ByteVector) (length : UInt32) (offset : UInt64) :
    Keeps (Session.readFileOnce path length offset context) := by
  intro session t h
  unfold Session.readFileOnce
  refine meets_enter.2 (meets_allocateMessageIds.2 (meetsS_bind.2 (meets_withIds.2 ?_)))
  refine (meets_fileReader session.treeId session.sessionId context path length offset rfl
    (h.covers _)).mono ?_
  rintro (e | e | a) t' hspent
  · exact Owed.kept (hspent.owed le_rfl) _
  · exact Owed.kept (hspent.owed le_rfl) _
  · exact Owed.kept (hspent.owed le_rfl) _

/-! ## Steps inside a method -/

/-- A program inside a call that keeps the requests of the call below the next
    id of the session. -/
def KeepsWithin (p : SessionM α) : Prop :=
  ∀ session t₀ t, Within t₀ session.nextMessageId t →
    MeetsS Tallied p (fun _ session' t' => Within t₀ session'.nextMessageId t') session t

variable {context}

theorem KeepsWithin.bind {p : SessionM α} {f : α → SessionM β} (hp : KeepsWithin p)
    (hf : ∀ a, KeepsWithin (f a)) : KeepsWithin (p >>= f) := by
  intro session t₀ t h
  refine (hp session t₀ t h).bind ?_ ?_
  · intro a session' t' h'
    exact hf a session' t₀ t' h'
  · intro e session' t' h'
    exact h'

theorem keepsWithin_pure (a : α) : KeepsWithin (pure a : SessionM α) := by
  intro session t₀ t h
  exact h

theorem keepsWithin_cancelled : KeepsWithin (SessionM.cancelled context) := by
  intro session t₀ t h
  refine meets_ofProg.2 (meets_isCancelled fun b => ?_)
  rw [Tally.poll_session]
  exact h

theorem keepsWithin_ofExcept (x : Except Exn α) :
    KeepsWithin (SessionM.ofProg (Prog.ofExcept x)) := by
  intro session t₀ t h
  exact h

theorem keepsWithin_reportProgress (progress : TransferProgress) :
    KeepsWithin (SessionM.ofProg (reportProgress progress context)) := by
  intro session t₀ t h
  exact meets_ofProg.2 (meets_reportProgress h)

/-- One request with a fresh id. -/
theorem keepsWithin_freshId {count : ℕ} {helper : ℕ → UInt32 → UInt64 → Prog α}
    (hhelper : ∀ {t₀ t : Tally} {m : ℕ} treeId sessionId, Within t₀ m t →
      MeetsE Tallied (helper m treeId sessionId) (fun _ => Within t₀ (m + count)) t) :
    KeepsWithin (allocateMessageIds count >>= fun m => SessionM.withIds m helper) := by
  intro session t₀ t h
  refine meets_allocateMessageIds.2 (meets_withIds.2 ?_)
  exact hhelper session.treeId session.sessionId h

/-- The same with more of the method after it. -/
theorem keepsWithin_freshId_bind {count : ℕ} {helper : ℕ → UInt32 → UInt64 → Prog α}
    {f : α → SessionM β}
    (hhelper : ∀ {t₀ t : Tally} {m : ℕ} treeId sessionId, Within t₀ m t →
      MeetsE Tallied (helper m treeId sessionId) (fun _ => Within t₀ (m + count)) t)
    (hf : ∀ a, KeepsWithin (f a)) :
    KeepsWithin (allocateMessageIds count >>= fun m => SessionM.withIds m helper >>= f) := by
  rw [← LawfulMonad.bind_assoc]
  exact (keepsWithin_freshId hhelper).bind hf

theorem keepsWithin_closeFile (fileId : FileId) :
    KeepsWithin (Session.closeFile fileId context) := by
  refine keepsWithin_freshId_bind
    (fun treeId sessionId h => h.closeExchanger treeId sessionId context { fileId }) ?_
  rintro (e | closed)
  · exact keepsWithin_pure _
  · exact keepsWithin_pure _

theorem keepsWithin_openWithFreshId (options : CreateRequestOptions) :
    KeepsWithin (Session.openWithFreshId options context) :=
  keepsWithin_freshId fun treeId sessionId h => h.openFile treeId sessionId context options

theorem keepsWithin_ioctlWithFreshId (options : IoctlRequestOptions) :
    KeepsWithin (Session.ioctlWithFreshId options context) :=
  keepsWithin_freshId fun treeId sessionId h => h.ioctl treeId sessionId context options

/-- A method whose steps keep its requests below the next id keeps the
    invariant. -/
theorem KeepsWithin.keeps {call : SessionCall} {p : SessionM α} (hp : KeepsWithin p) :
    Keeps (SessionM.enter call >>= fun _ => p) := by
  intro session t h
  refine meets_enter.2 ((hp session (t.enter call) (t.enter call) (h.within call)).mono ?_)
  intro r session' t' hwithin
  exact Owed.kept (hwithin.owed le_rfl) r

theorem keeps_openFileForRead (path : ByteVector) :
    Keeps (Session.openFileForRead path context) := by
  refine KeepsWithin.keeps (keepsWithin_freshId_bind
    (fun treeId sessionId h => h.openFile treeId sessionId context _) ?_)
  rintro (e | create)
  · exact keepsWithin_pure _
  · exact keepsWithin_pure _

theorem keeps_readFileChunk (fileId : FileId) (length : UInt32) (offset : UInt64) :
    Keeps (Session.readFileChunk fileId length offset context) := by
  refine KeepsWithin.keeps (keepsWithin_freshId_bind
    (fun treeId sessionId h => h.readExchanger treeId sessionId context _) ?_)
  rintro (e | read)
  · exact keepsWithin_pure _
  · exact keepsWithin_pure _

theorem keeps_closeFileHandle (fileId : FileId) :
    Keeps (Session.closeFileHandle fileId context) :=
  KeepsWithin.keeps (keepsWithin_closeFile fileId)

/-! ## Server-side copy -/

theorem keepsWithin_closeBoth (source target : FileId) :
    KeepsWithin (Session.closeBoth source target) := by
  refine (keepsWithin_closeFile target).bind fun _ => ?_
  refine (keepsWithin_closeFile source).bind fun _ => ?_
  exact keepsWithin_pure _

/-- Close both files, then return. -/
theorem keepsWithin_closeBoth_pure (source target : FileId) (a : α) :
    KeepsWithin (Session.closeBoth source target >>= fun _ => pure a) :=
  (keepsWithin_closeBoth source target).bind fun _ => keepsWithin_pure a

/-- The loop over the chunks, by induction on the turns left. -/
theorem keepsWithin_copyChunks (source target : FileId) (resumeKey targetPath : ByteVector)
    (size fuel : ℕ) : ∀ offset,
      KeepsWithin (Session.copyChunks source target resumeKey targetPath size context fuel
        offset) := by
  induction fuel with
  | zero =>
    intro offset
    exact keepsWithin_closeBoth_pure source target _
  | succ fuel ih =>
    intro offset
    unfold Session.copyChunks
    by_cases hdone : size ≤ offset
    · rw [if_pos hdone]
      exact keepsWithin_closeBoth_pure source target _
    rw [if_neg hdone]
    refine keepsWithin_cancelled.bind ?_
    rintro (_ | _)
    · refine (keepsWithin_ofExcept _).bind fun input => ?_
      refine (keepsWithin_ioctlWithFreshId _).bind ?_
      rintro (e | copied)
      · exact keepsWithin_closeBoth_pure source target _
      · dsimp only
        cases decodeSrvCopyChunkResponse copied.output with
        | error e => exact keepsWithin_closeBoth_pure source target _
        | ok parsed =>
          dsimp only
          split
          · exact keepsWithin_closeBoth_pure source target _
          · refine (keepsWithin_reportProgress _).bind fun _ => ?_
            exact ih _
    · exact keepsWithin_closeBoth_pure source target _

theorem keeps_copyFileServerSide (sourcePath targetPath : ByteVector) (size : UInt64) :
    Keeps (Session.copyFileServerSide sourcePath targetPath size context) := by
  refine KeepsWithin.keeps (keepsWithin_cancelled.bind ?_)
  rintro (_ | _)
  swap
  · exact keepsWithin_pure _
  refine (keepsWithin_openWithFreshId _).bind ?_
  rintro (e | source)
  · exact keepsWithin_pure _
  refine keepsWithin_cancelled.bind ?_
  rintro (_ | _)
  swap
  · exact (keepsWithin_closeFile _).bind fun _ => keepsWithin_pure _
  refine (keepsWithin_openWithFreshId _).bind ?_
  rintro (e | target)
  · exact (keepsWithin_closeFile _).bind fun _ => keepsWithin_pure _
  dsimp only
  split
  · exact keepsWithin_closeBoth_pure _ _ _
  refine (keepsWithin_ioctlWithFreshId _).bind ?_
  rintro (e | resume)
  · exact keepsWithin_closeBoth_pure _ _ _
  dsimp only
  split
  · exact keepsWithin_closeBoth_pure _ _ _
  · exact keepsWithin_copyChunks _ _ _ _ _ _ _

end

/-! ## Every method -/

/-- Every primitive method keeps the invariant. -/
theorem SessionCall.keeps_run (fuel : ℕ) (context : OperationContext) (call : SessionCall) :
    Keeps (call.run fuel context) := by
  cases call with
  | listDirectory path => exact (keeps_listDirectory context fuel path).discard
  | readFileOnce path length offset => exact (keeps_readFileOnce context path length offset).discard
  | openFileForRead path => exact (keeps_openFileForRead path).discard
  | readFileChunk fileId length offset => exact (keeps_readFileChunk fileId length offset).discard
  | closeFileHandle fileId => exact (keeps_closeFileHandle fileId).discard
  | writeFileOnce path data offset => exact (keeps_writeFileOnce context path data offset).discard
  | statObject path =>
    exact (keeps_withReportedIds fun treeId sessionId hlog hcovers =>
      meets_remoteStatReader treeId sessionId context path hlog hcovers).discard
  | setBasicInformation path info =>
    exact (keeps_withReportedIds fun treeId sessionId hlog hcovers =>
      meets_metadataSetBasicInformation treeId sessionId context path info hlog hcovers).discard
  | listExtendedAttributes path =>
    exact (keeps_withReportedIds fun treeId sessionId hlog hcovers =>
      meets_metadataListExtendedAttributes treeId sessionId context path hlog hcovers).discard
  | setExtendedAttributes path entries =>
    exact (keeps_withReportedIds fun treeId sessionId hlog hcovers =>
      meets_setAttributes treeId sessionId context (.setExtendedAttributes path entries) hlog
        hcovers fun log hacc => hacc).discard
  | removeExtendedAttribute path name =>
    exact (keeps_withReportedIds fun treeId sessionId hlog hcovers =>
      meets_setAttributes treeId sessionId context (.removeExtendedAttribute path name) hlog
        hcovers fun log hacc => hacc).discard
  | querySecurityDescriptor path information =>
    exact (keeps_withReportedIds fun treeId sessionId hlog hcovers =>
      meets_metadataQuerySecurityDescriptor treeId sessionId context path information hlog
        hcovers).discard
  | setSecurityDescriptor path information descriptor =>
    exact (keeps_withReportedIds fun treeId sessionId hlog hcovers =>
      meets_metadataSetSecurityDescriptor treeId sessionId context path information descriptor hlog
        hcovers).discard
  | createDirectory path =>
    exact (keeps_withAllocatedIds fun treeId sessionId h =>
      meets_objectCreateDirectory treeId sessionId context path h).discard
  | deleteObject path directory =>
    exact (keeps_withAllocatedIds fun treeId sessionId h =>
      meets_setInfoOnObject treeId sessionId context h).discard
  | renameObject fromPath toPath replace =>
    exact (keeps_withAllocatedIds fun treeId sessionId h =>
      meets_setInfoOnObject treeId sessionId context h).discard
  | createHardLink existingPath linkPath replace =>
    exact (keeps_withAllocatedIds fun treeId sessionId h =>
      meets_setInfoOnObject treeId sessionId context h).discard
  | createSymbolicLink linkPath targetPath directory relative =>
    exact (keeps_withAllocatedIds fun treeId sessionId h =>
      meets_objectCreateSymbolicLink treeId sessionId context linkPath targetPath directory relative
        h).discard
  | copyFileServerSide sourcePath targetPath size =>
    exact (keeps_copyFileServerSide sourcePath targetPath size).discard
  | watchDirectoryOnce path filter watchTree =>
    exact (keeps_withAllocatedIds fun treeId sessionId h =>
      meets_directoryWatcher treeId sessionId context path filter watchTree h).discard
  | listShares serverName =>
    exact (keeps_withReportedIds fun treeId sessionId hlog hcovers =>
      meets_remoteShareEnumerator treeId sessionId context serverName hlog hcovers).discard
  | getDfsReferrals requestPath =>
    exact (keeps_withReportedIds fun treeId sessionId hlog hcovers =>
      meets_remoteDfsReferralFetcher treeId sessionId context requestPath hlog hcovers).discard

section

variable {context : OperationContext}

theorem keeps_statObject (path : ByteVector) : Keeps (Session.statObject path context) :=
  keeps_withReportedIds fun treeId sessionId hlog hcovers =>
    meets_remoteStatReader treeId sessionId context path hlog hcovers

theorem keeps_deleteObject (path : ByteVector) (directory : Bool) :
    Keeps (Session.deleteObject path directory context) :=
  keeps_withAllocatedIds fun treeId sessionId h => meets_setInfoOnObject treeId sessionId context h

/-- The loop over the entries, by induction on the entries. -/
theorem keeps_deleteEntries {select : NativeRemoteEntry → Bool} {text : String}
    {parent : ByteVector}
    {deleteTree : ByteVector → SessionM (DecodeResult NativeObjectMutationResult)}
    (htree : ∀ path, Keeps (deleteTree path)) (entries : List NativeRemoteEntry) :
    Keeps (Session.deleteEntries select text parent context deleteTree entries) := by
  induction entries with
  | nil => exact keeps_pure _
  | cons entry entries ih =>
    unfold Session.deleteEntries
    split
    · exact ih
    refine (keeps_cancelled context).bind ?_
    rintro (_ | _)
    · simp only [Bool.false_eq_true, if_false]
      split
      · refine (htree _).bind ?_
        rintro (e | result)
        · exact keeps_pure _
        · exact ih
      · refine (keeps_deleteObject _ entry.directory).bind ?_
        rintro (e | result)
        · exact keeps_pure _
        · exact ih
    · exact keeps_pure _

/-- The recursion over the directories, by induction on the depth left. -/
theorem keeps_deleteTreeInternal (pages fuel : ℕ) :
    ∀ path, Keeps (Session.deleteTreeInternal pages context fuel path) := by
  induction fuel with
  | zero =>
    intro path
    exact keeps_unfinished
  | succ fuel ih =>
    intro path
    unfold Session.deleteTreeInternal
    split
    · exact keeps_pure _
    refine (keeps_cancelled context).bind ?_
    rintro (_ | _)
    swap
    · exact keeps_pure _
    refine (keeps_statObject path).bind ?_
    rintro (e | stat)
    · exact keeps_pure _
    dsimp only
    split
    · exact keeps_deleteObject path _
    refine (keeps_listDirectory context pages path).bind ?_
    rintro (e | entries)
    · exact keeps_pure _
    refine (keeps_deleteEntries ih entries).bind ?_
    rintro (_ | result)
    · exact keeps_deleteObject path true
    · exact keeps_pure _

theorem keeps_deleteWildcard (fuel : ℕ) (parentPath pattern : ByteVector) :
    Keeps (Session.deleteWildcard fuel parentPath pattern context) := by
  unfold Session.deleteWildcard
  split
  · exact keeps_pure _
  refine (keeps_cancelled context).bind ?_
  rintro (_ | _)
  swap
  · exact keeps_pure _
  refine (keeps_listDirectory context fuel parentPath).bind ?_
  rintro (e | entries)
  · exact keeps_pure _
  refine (keeps_deleteEntries (keeps_deleteTreeInternal fuel fuel) entries).bind ?_
  rintro (_ | result)
  · exact keeps_pure _
  · exact keeps_pure _

end

/-- Every public operation keeps the invariant. -/
theorem SessionOperation.keeps_run (fuel : ℕ) (context : OperationContext)
    (operation : SessionOperation) : Keeps (operation.run fuel context) := by
  cases operation with
  | call call => exact call.keeps_run fuel context
  | deleteTree path => exact (keeps_deleteTreeInternal fuel fuel path).discard
  | deleteWildcard parentPath pattern =>
    exact (keeps_deleteWildcard fuel parentPath pattern).discard

end SmbBrowser.Native
