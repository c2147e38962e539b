import SmbBrowser.Client.Granting

/-!
# Uploads

`NativeSmbClient::uploadFile` (infrastructure/smb/NativeSmbClient.cpp:581) deletes what stands
at the remote path and writes the local file there in chunks, each of which makes the file
where it is missing.  No chunk is written of an empty local file.

Results:
* `serves_deleteExisting`: what stands at the path goes, or the operation fails;
* `serves_uploadChunks`: the loop invariant, the remote file holds what lies before the offset;
* `uploadFile_stores`: what every run of an upload leaves.
-/

namespace SmbBrowser.Client

open SmbBrowser.Base SmbBrowser.Qt SmbBrowser.Native
open SmbBrowser.Core (Connection Result AppError)

section

variable {net : Surroundings} {w w' : Shares} {sessions : Sessions} {context : OperationContext}
  {side : Side} {texts : Texts} {path : ByteVector} {s s' : ServerState} {objects : Objects}
  {at' : ServerPath} {content data : ByteVector}

/-! ## Deleting what stands at the path -/

/-- What `deleteExisting` leaves of the share of its side. -/
structure Clears (objects : Objects) (path : ServerPath) (r : Except Exn (Option (Result Bool)))
    (objects' : Objects) : Prop where
  always : objects' = objects ∨ objects' = objects.erase path
  cleared : r = .ok none → objects' = objects.erase path
  failed : ∀ result, r = .ok (some result) → result.ok = false

theorem serves_deleteExisting :
    MeetsS net.contract (deleteExisting texts side path context) (fun r _ w' =>
      ∃ s', w' = (net.share side).set w s' ∧ Clears ((net.share side).get w).objects
        ((net.server side).target path) r s'.objects) sessions w := by
  rw [deleteExisting]
  refine meetsS_bind.2 (serves_onSession (FileServer.serves_statObject.mono ?_))
  rintro (e | e | existing) session' s₁ hstat
  · exact ⟨s₁, rfl, .inl hstat.always, by rintro ⟨⟩, by rintro result ⟨⟩⟩
  · dsimp only
    obtain ⟨hcode, hmissing⟩ := hstat.error e rfl
    split
    · refine ⟨s₁, rfl, .inl hstat.always, by rintro ⟨⟩, ?_⟩
      rintro _ ⟨⟩
      exact failed_not_ok hcode
    · rename_i hfound
      refine ⟨s₁, rfl, .inl hstat.always, fun _ => ?_, by rintro result ⟨⟩⟩
      rw [FileTree.erase_eq_self (hmissing (not_not.1 hfound))]
      exact hstat.always
  · dsimp only
    refine meetsS_bind.2 (serves_onSession ?_)
    rw [(net.share side).get_set]
    refine FileServer.serves_deleteObject.mono ?_
    intro r session₂ s₂ hdelete
    rw [(net.share side).set_set]
    have hobjects := hdelete.always
    rw [hstat.always] at hobjects
    have halways := hobjects.imp_right FileServer.Erases.objects'
    obtain (e | e | a) := r
    · exact ⟨s₂, rfl, halways, by rintro ⟨⟩, by rintro result ⟨⟩⟩
    · refine ⟨s₂, rfl, halways, by rintro ⟨⟩, ?_⟩
      rintro _ ⟨⟩
      exact failed_not_ok (hdelete.error e rfl).1
    · refine ⟨s₂, rfl, halways, fun _ => ?_, by rintro result ⟨⟩⟩
      have herases := (hdelete.success a rfl).2
      rw [hstat.always] at herases
      exact herases.objects'

/-! ## Writing a file in chunks -/

/-- The file at a path holds these bytes; where it holds none it may be missing. -/
def Holding (objects : Objects) (path : ServerPath) (content : ByteVector) (objects' : Objects) :
    Prop :=
  objects' = objects.set path { content } ∨ content = [] ∧ objects' = objects.erase path

/-- One write to such a file. -/
theorem Holding.writes {objects' objects'' : Objects} {offset : UInt64}
    (h : Holding objects at' content objects')
    (hwrites : FileServer.WritesTo objects' at' offset data objects'') :
    objects'' = objects.set at' { content := writeAt content offset.toNat data } := by
  obtain ⟨object, hat, rfl⟩ := hwrites.written
  obtain rfl | ⟨rfl, rfl⟩ := h
  · obtain ⟨hobject, -⟩ | ⟨hnone, -⟩ := hat
    · rw [FileTree.set_self] at hobject
      cases hobject
      exact FileTree.set_set
    · rw [FileTree.set_self] at hnone
      cases hnone
  · obtain ⟨hobject, -⟩ | ⟨-, rfl, -⟩ := hat
    · rw [FileTree.erase_self] at hobject
      cases hobject
    · exact FileTree.set_erase

/-- What a chunk leaves that was written over a part of the file. -/
theorem Holding.over {objects' objects'' : Objects} {offset : UInt64} {file : ByteVector}
    {length n : ℕ} (h : Holding objects at' (file.take n) objects') (hn : offset.toNat ≤ n)
    (hoffset : offset.toNat ≤ file.length)
    (hwrites : FileServer.WritesTo objects' at' offset ((file.drop offset.toNat).take length)
      objects'') :
    objects'' = objects.set at' { content := file.take (max n (offset.toNat + length)) } := by
  rw [h.writes hwrites, writeAt_over hn hoffset]

/-- What the next chunk leaves. -/
theorem Holding.next {objects' objects'' : Objects} {offset : UInt64} {file : ByteVector}
    {length : ℕ} (h : Holding objects at' (file.take offset.toNat) objects')
    (hoffset : offset.toNat ≤ file.length)
    (hwrites : FileServer.WritesTo objects' at' offset ((file.drop offset.toNat).take length)
      objects'') : Holding objects at' (file.take (offset.toNat + length)) objects'' := by
  have hover := h.over le_rfl hoffset hwrites
  rw [Nat.max_eq_right (Nat.le_add_right _ _)] at hover
  exact .inl hover

theorem Holding.whole {objects' : Objects} {file : ByteVector} {n : ℕ}
    (h : Holding objects at' (file.take n) objects') (hend : file.length ≤ n) :
    Holding objects at' file objects' := by
  rwa [List.take_of_length_le hend] at h

/-- The next chunk of a file. -/
theorem chunk_eq (file : ByteVector) (offset size : ℕ) :
    (file.drop offset).take size =
        (file.drop offset).take (min size (file.length - offset)) ∧
      (file.drop offset).drop size = file.drop (offset + min size (file.length - offset)) := by
  obtain hle | hlt := Nat.le_total size (file.length - offset)
  · rw [Nat.min_eq_left hle, List.drop_drop]
    exact ⟨rfl, rfl⟩
  · have hlength : (file.drop offset).length ≤ size := by
      rw [List.length_drop]
      exact hlt
    have hend : file.drop (offset + (file.length - offset)) = [] :=
      List.drop_eq_nil_of_le (by omega)
    rw [Nat.min_eq_right hlt, List.take_of_length_le hlength, List.drop_eq_nil_of_le hlength, hend,
      ← List.length_drop, List.take_length]
    exact ⟨rfl, rfl⟩

/-- **The loop.**  The induction is on the turns left; before each of them the remote file
    holds what lies before the offset. -/
theorem serves_uploadChunks (hwhole : net.source.shortWrites = false) {total fuel : ℕ}
    {offset : UInt64} (hoffset : offset.toNat ≤ net.file.length)
    (hfuel : net.file.length ≤ offset.toNat + fuel)
    (h : Holding objects (net.source.target path) (net.file.take offset.toNat) w.source.objects) :
    MeetsS net.contract
      (uploadChunks texts path total context fuel offset (net.file.drop offset.toNat))
      (fun r _ w' => Ends
        (fun w' => ∃ n,
          Holding objects (net.source.target path) (net.file.take n) w'.source.objects)
        (fun w' => Holding objects (net.source.target path) net.file w'.source.objects) r w')
      sessions w := by
  induction fuel generalizing offset w sessions with
  | zero => exact .of_success ⟨_, h⟩ (h.whole hfuel)
  | succ fuel ih =>
    rw [uploadChunks]
    split
    · rename_i hrest
      exact .of_success ⟨_, h⟩ (h.whole (List.drop_eq_nil_iff.1 hrest))
    rename_i hmore
    rw [List.drop_eq_nil_iff] at hmore
    refine meetsS_bind.2 (serves_cancelled ?_)
    rintro (_ | _)
    case true => exact .of_failure ⟨_, h⟩ rfl
    simp only [Bool.false_eq_true, if_false]
    refine meetsS_bind.2 (serves_ask trivial ?_)
    rintro (errorString | ⟨⟩) _ rfl
    · exact .of_failure ⟨_, h⟩ rfl
    dsimp only
    refine meetsS_bind.2 (serves_onSession (FileServer.meets_writeFileOnce.mono ?_))
    intro r session₁ s₁ hwrite
    obtain ⟨hchunk, hrest⟩ : _ ∧ _ := chunk_eq net.file offset.toNat kChunkSize
    have hsmall := net.small
    have hlength : ((net.file.drop offset.toNat).take (min kChunkSize
        (net.file.length - offset.toNat))).length = min kChunkSize
          (net.file.length - offset.toNat) := by
      rw [List.length_take, List.length_drop, Nat.min_assoc, Nat.min_self]
    have hle : offset.toNat + min kChunkSize (net.file.length - offset.toNat) ≤
      net.file.length := by omega
    have hmoves : net.file.length ≤
        offset.toNat + min kChunkSize (net.file.length - offset.toNat) + fuel := by
      rw [kChunkSize]
      omega
    rw [hchunk] at hwrite
    rw [hchunk, hrest, hlength]
    generalize min kChunkSize (net.file.length - offset.toNat) = length at *
    have hkept : ∃ n, Holding objects (net.source.target path) (net.file.take n) s₁.objects := by
      obtain hsame | ⟨n, hwrites⟩ := hwrite.always
      · exact ⟨_, hsame ▸ h⟩
      · rw [List.take_take] at hwrites
        exact ⟨_, h.next hoffset hwrites⟩
    obtain (e | e | a) := r
    · exact .of_throw hkept
    · exact .of_failure hkept (failed_not_ok (hwrite.error e rfl).1)
    obtain ⟨-, hcount, hwrites⟩ := hwrite.success a rfl
    have hnext : (offset + UInt64.ofNat length).toNat = offset.toNat + length := by
      rw [UInt64.toNat_add, UInt64.toNat_ofNat']
      omega
    rw [hcount hwhole, List.take_length] at hwrites
    refine meetsS_bind.2 (serves_reportProgress ?_)
    rw [← hnext] at hle ⊢
    dsimp only
    refine ih (w := (net.share .source).set _ s₁) hle (hnext ▸ hmoves) ?_
    rw [hnext]
    exact h.next hoffset hwrites

/-! ## The upload -/

/-- What an upload of this file leaves of the share. -/
structure Stores (file : ByteVector) (place : ServerPath) (objects : Objects)
    (r : Except Exn (Result Bool)) (objects' : Objects) : Prop where
  always : objects' = objects ∨ ∃ n, Holding objects place (file.take n) objects'
  success : ∀ result, r = .ok result → result.ok = true → objects' =
    if file = [] then objects.erase place else objects.set place { content := file }

theorem Stores.unsuccessful {file : ByteVector} {r : Except Exn (Result Bool)} {objects' : Objects}
    (halways : objects' = objects ∨ ∃ n, Holding objects at' (file.take n) objects')
    (hok : ∀ result, r = .ok result → result.ok = false) : Stores file at' objects r objects' := by
  refine ⟨halways, fun result hresult hsuccess => ?_⟩
  rw [hok result hresult] at hsuccess
  cases hsuccess

theorem serves_uploadFile (hwhole : net.source.shortWrites = false) {connection : Connection}
    {localPath remotePath : QString} :
    MeetsS net.contract (uploadFile texts connection localPath remotePath context)
      (fun r _ w' => Stores net.file (net.source.target (nativePath texts remotePath))
        w.source.objects r w'.source.objects) sessions w := by
  rw [uploadFile]
  refine serves_connected (fun e _ hcode => .unsuccessful (.inl rfl) ?_) fun sessions₁ => ?_
  · rintro _ ⟨⟩
    exact failed_not_ok hcode
  dsimp only
  refine meetsS_bind.2 (serves_ask trivial ?_)
  rintro (errorString | file) w₂ hstep
  · obtain rfl : w = w₂ := hstep.symm
    refine .unsuccessful (.inl rfl) ?_
    rintro _ ⟨⟩
    rfl
  obtain ⟨rfl, hsame⟩ : file = net.file ∧ w₂ = w := hstep
  obtain rfl := hsame.symm
  dsimp only
  refine meetsS_bind.2 (serves_deleteExisting.mono ?_)
  rintro r sessions₃ w₃ ⟨s₁, rfl, hclears⟩
  have halways : s₁.objects = w.source.objects ∨ ∃ n, Holding w.source.objects
      (net.source.target (nativePath texts remotePath)) (net.file.take n) s₁.objects :=
    hclears.always.imp_right fun herased => ⟨0, .inr ⟨rfl, herased⟩⟩
  obtain (e | _ | result) := r
  · exact .unsuccessful halways (by rintro result ⟨⟩)
  case ok.some =>
    refine .unsuccessful halways ?_
    rintro _ ⟨⟩
    exact hclears.failed result rfl
  have hcleared := hclears.cleared rfl
  by_cases hempty : net.file = []
  · rw [hempty]
    refine ⟨.inr ⟨0, .inr ⟨rfl, hcleared⟩⟩, fun _ _ _ => ?_⟩
    rw [if_pos rfl]
    exact hcleared
  have hzero : net.file.length ≤ (0 : UInt64).toNat + net.file.length := by
    rw [UInt64.toNat_zero, Nat.zero_add]
  have hstart : Holding w.source.objects (net.source.target (nativePath texts remotePath))
      (net.file.take (0 : UInt64).toNat) s₁.objects := .inr ⟨rfl, hcleared⟩
  refine (serves_uploadChunks (w := (net.share .source).set w s₁) hwhole (Nat.zero_le _) hzero
    hstart).mono ?_
  intro r sessions₄ w₄ h
  refine ⟨.inr h.always, fun result hresult hok => ?_⟩
  rw [if_neg hempty]
  exact (h.success result hresult hok).resolve_right fun hnil => hempty hnil.1

end

/-! ## A short upload -/

/-- A share to which a local file of 72 bytes is uploaded. -/
def uploadNet : Surroundings where
  source := FileServer.caseless
  target := FileServer.caseless
  file := List.replicate 72 7
  same _ := rfl
  small := by decide

/-- The local file is that of the upload. -/
def uploadPlayback : Handler ClientWire (List (DecodeResult ByteVector))
  | replies, .openLocal _ => (.ok uploadNet.file, replies)
  | replies, op => clientPlayback replies op

def playedUpload :
    List (Event ClientWire) × (Except Exn (Result Bool) × Sessions) ×
      List (DecodeResult ByteVector) :=
  ((uploadFile plainTexts {} [] [0x62] {}).run.run ⟨.new 1 1 1, .new 1 1 1⟩).serve uploadPlayback
    ([notFoundMessage, createdMessage, writtenMessage 72, closedMessage].map fun message =>
      .ok (framed message))

set_option maxRecDepth 100000 in
theorem uploadEvents : ∃ (connected : NativeSmbConnectedState) (stat create write close : SentRequest),
    stat.request.body = .create (statCreateOptions (ascii "b")) ∧
    create.request.body = .create (writeFileOptions (ascii "b")) ∧
    write.request.body = .write { fileId := {}, data := uploadNet.file, offset := 0 } ∧
    close.request.body = .close { fileId := {} } ∧
    playedUpload.1 = [⟨.connect .source {}, .ok connected⟩, ⟨.openLocal [], .ok uploadNet.file⟩] ++
      (([⟨.enter (.statObject (ascii "b")), ()⟩,
          ⟨.exchange stat {}, .ok (framed notFoundMessage)⟩] : List (Event Wire)).map
        (nativeQuestions .source).event ++
      (⟨.readLocal, .ok ()⟩ ::
      ([⟨.enter (.writeFileOnce (ascii "b") uploadNet.file 0), ()⟩,
          ⟨.exchange create {}, .ok (framed createdMessage)⟩,
          ⟨.exchange write {}, .ok (framed (writtenMessage 72))⟩,
          ⟨.exchange close {}, .ok (framed closedMessage)⟩] : List (Event Wire)).map
        (nativeQuestions .source).event)) :=
  ⟨_, _, _, _, _, rfl, rfl, rfl, rfl, rfl⟩

theorem upload_runs : ∃ es, Program.Runs
      ((uploadFile plainTexts {} [] [0x62] {}).run.run ⟨.new 1 1 1, .new 1 1 1⟩) es
      playedUpload.2.1 ∧
    ∃ w', uploadNet.contract.Steps ⟨{ objects := oneByte }, { objects := oneByte }⟩ es w' := by
  have hrun : ∃ es, es = playedUpload.1 ∧ Program.Runs
      ((uploadFile plainTexts {} [] [0x62] {}).run.run ⟨.new 1 1 1, .new 1 1 1⟩) es
      playedUpload.2.1 := by
    unfold playedUpload
    exact ⟨_, rfl, Program.runs_serve uploadPlayback _ _⟩
  obtain ⟨es, hes, hrun⟩ := hrun
  have hevents := uploadEvents
  rw [← hes] at hevents
  obtain ⟨connected, stat, create, write, close, hstat, hcreate, hwrite, hclose, rfl⟩ := hevents
  let start : ServerState := { objects := oneByte }
  have hidle : Idle oneByte start := ⟨rfl, rfl⟩
  have hnone : oneByte (FileServer.caseless.target (ascii "b")) = none :=
    (congrArg _ target_b).trans oneByte_absent
  have hmissing : FileServer.caseless.serves.step start
      ⟨.exchange stat {}, .ok (framed notFoundMessage)⟩ start.fail :=
    step_notFound hidle hstat (FileServer.actsOn_statCreateOptions ▸ hnone)
  have hparent : FileTree.HasParent FileObject.Holds oneByte
      (FileServer.caseless.target (ascii "b")) := target_b.symm ▸ hasParent_oneByte
  obtain ⟨s', hwritten, -⟩ := steps_write hidle.fail hnone hparent rfl decode_writtenMessage
    hcreate hwrite hclose
  refine ⟨_, hrun, ⟨s', start⟩, Contract.steps_append.2
    ⟨⟨start, start⟩, ⟨⟨start, start⟩, rfl, ⟨start, start⟩, ⟨rfl, rfl⟩, rfl⟩, ?_⟩⟩
  refine Contract.steps_append.2 ⟨⟨start.fail, start⟩,
    steps_native ⟨start, rfl, _, hmissing, rfl⟩, ?_⟩
  exact ⟨⟨start.fail, start⟩, rfl, steps_native ⟨_, rfl, hwritten⟩⟩

end SmbBrowser.Client
