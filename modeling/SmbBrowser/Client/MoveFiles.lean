import SmbBrowser.Client.CopyFiles

/-!
# Moves

`NativeSmbClient::move` (infrastructure/smb/NativeSmbClient.cpp:761) renames where both
connections lead to one share; otherwise it copies and then removes the source.

Results:
* `serves_rename`, `serves_remove`: what the calls it is made of do to the share of the source;
* `move_keeps`: no run of a move loses the file.
-/

namespace SmbBrowser.Client

open SmbBrowser.Base SmbBrowser.Qt SmbBrowser.Native
open SmbBrowser.Core (Connection Result AppError)

section

variable {net : Surroundings} {w w' : Shares} {sessions : Sessions} {context : OperationContext}
  {texts : Texts} {connection : Connection} {object : FileObject}

/-! ## Renaming and removing -/

/-- How a call of the source side ends, by the tree. -/
abbrev Alters (net : Surroundings) (w : Shares) (altered : Objects → Prop) :
    Except Exn (Result Bool) → Shares → Prop :=
  Ends (fun w' => ∃ s', w' = (net.share .source).set w s' ∧
      (s'.objects = w.source.objects ∨ altered s'.objects))
    (fun w' => altered w'.source.objects)

theorem Alters.of_failure {altered : Objects → Prop} {result : Result Bool} {s' : ServerState}
    (h : s'.objects = w.source.objects ∨ altered s'.objects) (hok : result.ok = false) :
    Alters net w altered (.ok result) ((net.share .source).set w s') :=
  Ends.of_failure ⟨s', rfl, h⟩ hok

theorem Alters.of_start {altered : Objects → Prop} {result : Result Bool} (hok : result.ok = false) :
    Alters net w altered (.ok result) w :=
  Ends.of_failure ⟨w.source, rfl, .inl rfl⟩ hok

theorem serves_rename {sourceRemotePath targetRemotePath : QString} :
    MeetsS net.contract (rename texts connection sourceRemotePath targetRemotePath context)
      (fun r _ w' => Alters net w (FileServer.MovesObject w.source.objects
        (net.source.target (nativePath texts sourceRemotePath))
        (net.source.locate (nativePath texts targetRemotePath)) true) r w') sessions w := by
  rw [rename, withConnection]
  refine serves_connected (fun e _ hcode => ?_) fun sessions₁ => ?_
  · exact meetsS_pure.2 (.of_start (failed_not_ok hcode))
  dsimp only
  refine meetsS_bind.2 (serves_onSession (FileServer.meets_renameObject.mono ?_))
  intro r session₂ s₂ hrename
  obtain (e | e | a) := r
  · exact .of_throw ⟨s₂, rfl, hrename.always⟩
  · exact meetsS_pure.2 (.of_failure hrename.always (failed_not_ok (hrename.error e rfl).1))
  · exact .of_success ⟨s₂, rfl, hrename.always⟩ (hrename.success a rfl)

/-- A file is deleted as such, and not as a directory. -/
theorem serves_remove {fuel : ℕ} {remotePath : QString}
    (hobject : w.source.objects (net.source.target (nativePath texts remotePath)) = some object)
    (hplain : object.directory = false) :
    MeetsS net.contract (remove texts fuel connection remotePath context)
      (fun r _ w' => Alters net w (· = w.source.objects.erase
        (net.source.target (nativePath texts remotePath))) r w') sessions w := by
  rw [remove]
  refine serves_connected (fun e _ hcode => ?_) fun sessions₁ => ?_
  · exact meetsS_pure.2 (.of_start (failed_not_ok hcode))
  dsimp only
  refine meetsS_bind.2 (serves_onSession (FileServer.serves_statObject.mono ?_))
  intro r session₂ s₂ hstat
  have hkept : s₂.objects = w.source.objects := hstat.always
  obtain (e | e | stat) := r
  · exact .of_throw ⟨s₂, rfl, .inl hkept⟩
  · exact meetsS_pure.2 (.of_failure (.inl hkept) (failed_not_ok (hstat.error e rfl).1))
  obtain ⟨-, other, hother, hdescribing⟩ := hstat.success stat rfl
  obtain rfl : object = other := Option.some.inj (hobject.symm.trans hother)
  have hfile : stat.directory = false := hdescribing.directory_eq.trans hplain
  simp only [hfile, Bool.false_and, Bool.false_eq_true, if_false]
  refine meetsS_bind.2 (serves_onSession (FileServer.serves_deleteObject.mono ?_))
  intro r session₃ s₃ hdelete
  have halways : s₃.objects = w.source.objects ∨
      s₃.objects = w.source.objects.erase (net.source.target (nativePath texts remotePath)) := by
    rw [← hkept]
    exact hdelete.always.imp_right FileServer.Erases.objects'
  obtain (e | e | a) := r
  · exact .of_throw ⟨s₃, rfl, halways⟩
  · exact meetsS_pure.2 (.of_failure halways (failed_not_ok (hdelete.error e rfl).1))
  · have herases := (hdelete.success a rfl).2
    exact .of_success ⟨s₃, rfl, halways⟩ (hkept ▸ herases.objects')

/-! ## The move -/

/-- A file with these contents is at the path. -/
def HoldsCopy (objects : Objects) (place : ServerPath) (object : FileObject) : Prop :=
  ∃ copy, objects place = some copy ∧ copy.directory = false ∧ copy.content = object.content

/-- What a move of a file leaves. -/
structure Moves (net : Surroundings) (sourcePath : ByteVector) (place : ServerPath)
    (object : FileObject) (r : Except Exn (Result Bool)) (w' : Shares) : Prop where
  always : w'.source.objects (net.source.target sourcePath) = some object ∨
    HoldsCopy (net.objects .target w') place object
  success : ∀ result, r = .ok result → result.ok = true →
    w'.source.objects (net.source.target sourcePath) = none ∧
      HoldsCopy (net.objects .target w') place object

/-- What is at the target after a call on the source side that changes nothing there. -/
theorem Surroundings.holdsCopy {place : ServerPath} {s' : ServerState}
    (h : HoldsCopy (net.objects .target w) place object)
    (hstill : net.shared = true → s'.objects place = w.source.objects place) :
    HoldsCopy (net.objects .target ((net.share .source).set w s')) place object := by
  cases hshared : net.shared with
  | false =>
    simp only [Surroundings.objects, Surroundings.share, hshared, Bool.false_eq_true,
      if_false] at h ⊢
    exact h
  | true =>
    rw [Surroundings.objects_target hshared] at h ⊢
    obtain ⟨copy, hcopy, hrest⟩ := h
    exact ⟨copy, (hstill hshared).trans hcopy, hrest⟩

theorem Kept.source_eq (h : Kept net w w') : w'.source.objects = w.source.objects := by
  cases hshared : net.shared with
  | false => exact h.source hshared
  | true =>
    have htarget := h.target
    rwa [Surroundings.objects_target hshared, Surroundings.objects_target hshared] at htarget

theorem serves_move (hwhole : net.target.shortWrites = false) {tables : CaseTables} {fuel : ℕ}
    {sourceConnection targetConnection : Connection} {sourceRemotePath targetRemotePath : QString}
    (hsame : sameRemoteTree tables sourceConnection targetConnection = true → net.shared = true)
    (hapart : net.shared = true → net.source.target (nativePath texts sourceRemotePath) ≠
      net.target.target (nativePath texts targetRemotePath))
    (hleaf : ∀ q, net.target.referent q = q) (hrooted : w.source.objects.Rooted)
    (hobject : w.source.objects (net.source.target (nativePath texts sourceRemotePath)) = some object)
    (hplain : object.directory = false) :
    MeetsS net.contract (move texts tables fuel sourceConnection sourceRemotePath targetConnection
        targetRemotePath context)
      (fun r _ w' => Moves net (nativePath texts sourceRemotePath)
        (net.target.target (nativePath texts targetRemotePath)) object r w') sessions w := by
  rw [move]
  split
  · rename_i htrees
    have hshared := hsame htrees
    have hserver := net.same hshared
    have hlocate : net.source.locate (nativePath texts targetRemotePath) =
        net.target.target (nativePath texts targetRemotePath) := by
      rw [← hserver]
      exact (hleaf _).symm
    refine serves_rename.mono fun r sessions' w' h => ?_
    rw [hlocate] at h
    have hmoved : ∀ {objects'}, FileServer.MovesObject w.source.objects
        (net.source.target (nativePath texts sourceRemotePath))
        (net.target.target (nativePath texts targetRemotePath)) true objects' →
        objects' (net.target.target (nativePath texts targetRemotePath)) = some object := by
      intro objects' hmoves
      rw [hmoves.objects', FileTree.move_target]
      exact hobject
    refine ⟨?_, fun result hresult hok => ?_⟩
    · obtain ⟨s', rfl, hsame' | hmoves⟩ := h.always
      · exact .inl ((congrFun hsame' _).trans hobject)
      · refine .inr ⟨object, ?_, hplain, rfl⟩
        rw [Surroundings.objects_target hshared]
        exact hmoved hmoves
    · have hmoves := h.success result hresult hok
      refine ⟨?_, object, ?_, hplain, rfl⟩
      · rw [hmoves.objects']
        refine FileTree.move_source (hapart hshared) (hrooted.nothingBelow fun other hother hholds => ?_)
        obtain rfl : object = other := Option.some.inj (hobject.symm.trans hother)
        rw [hholds.1] at hplain
        cases hplain
      · rw [Surroundings.objects_target hshared]
        exact hmoved hmoves
  · refine meetsS_bind.2 ((serves_copy hwhole hsame hapart).mono ?_)
    intro r sessions₁ w₁ hcopy
    have hkept : w₁.source.objects (net.source.target (nativePath texts sourceRemotePath)) =
        some object := by
      obtain hkept | ⟨_, _, -, hcarried⟩ := hcopy.always
      · exact (congrFun (Kept.source_eq hkept) _).trans hobject
      · exact (hcarried.source_at hapart).trans hobject
    obtain (e | copied) := r
    · exact ⟨.inl hkept, by rintro result ⟨⟩⟩
    dsimp only
    split
    · rename_i hfailed
      refine ⟨.inl hkept, ?_⟩
      rintro _ ⟨⟩ hok
      exact absurd hok hfailed
    rename_i hok
    rw [not_not] at hok
    obtain ⟨other, hother, -, hcopied⟩ := hcopy.success copied rfl hok
    obtain rfl : object = other := Option.some.inj (hobject.symm.trans hother)
    have hcopy' : HoldsCopy (net.objects .target w₁)
        (net.target.target (nativePath texts targetRemotePath)) object :=
      ⟨_, (congrFun hcopied.target _).trans FileTree.set_self, rfl, rfl⟩
    refine (serves_remove hkept hplain).mono fun r sessions' w' h => ?_
    obtain ⟨s', rfl, hremoved⟩ := h.always
    have hstill : HoldsCopy (net.objects .target ((net.share .source).set w₁ s'))
        (net.target.target (nativePath texts targetRemotePath)) object := by
      refine Surroundings.holdsCopy hcopy' fun hshared => ?_
      obtain hsame' | herased := hremoved
      · rw [hsame']
      · rw [herased, FileTree.erase_of_ne (hapart hshared).symm]
    refine ⟨.inr hstill, fun result hresult hok => ⟨?_, hstill⟩⟩
    rw [h.success result hresult hok, FileTree.erase_self]

end

/-! ## A short move -/

/-- The second half of the move, in the sessions that the copy left. -/
def playedRemove :
    List (Event ClientWire) × (Except Exn (Result Bool) × Sessions) ×
      List (DecodeResult ByteVector) :=
  ((remove plainTexts 2 {} [0x61] {}).run.run ⟨⟨1, 1, 8⟩, ⟨1, 1, 5⟩⟩).serve clientPlayback
    ((statReplies ++ [openedMessage 1, setInfoMessage, closedMessage]).map fun message =>
      .ok (framed message))

set_option maxRecDepth 100000 in
theorem removeEvents : ∃ (connected : NativeSmbConnectedState)
      (opening basic standard closing opening' marking closing' : SentRequest),
    opening.request.body = .create (statCreateOptions (ascii "a")) ∧
    basic.request.body = .queryInfo (statQueryOptions {} kFileBasicInformation 40) ∧
    standard.request.body = .queryInfo (statQueryOptions {} kFileStandardInformation 24) ∧
    closing.request.body = .close { fileId := {} } ∧
    opening'.request.body = .create (openForMutationOptions (ascii "a") false) ∧
    marking.request.body = .setInfo {
      fileId := {}, infoType := kInfoTypeFile, fileInfoClass := kFileDispositionInformation,
      buffer := buildFileDispositionInformation true } ∧
    closing'.request.body = .close { fileId := {} } ∧
    playedRemove.1 = ⟨.connect .source {}, .ok connected⟩ ::
      (([⟨.enter (.statObject (ascii "a")), ()⟩,
          ⟨.exchange opening {}, .ok (framed (openedMessage 1))⟩,
          ⟨.exchange basic {}, .ok (framed (informationMessage basicInformation))⟩,
          ⟨.exchange standard {}, .ok (framed (informationMessage (fileInformation 1)))⟩,
          ⟨.exchange closing {}, .ok (framed closedMessage)⟩] : List (Event Wire)).map
        (nativeQuestions .source).event ++
      ([⟨.enter (.deleteObject (ascii "a") false), ()⟩,
          ⟨.exchange opening' {}, .ok (framed (openedMessage 1))⟩,
          ⟨.exchange marking {}, .ok (framed setInfoMessage)⟩,
          ⟨.exchange closing' {}, .ok (framed closedMessage)⟩] : List (Event Wire)).map
        (nativeQuestions .source).event) :=
  ⟨_, _, _, _, _, _, _, _, rfl, rfl, rfl, rfl, rfl, rfl, rfl, rfl⟩

theorem remove_runs {w : Shares} (hidle : Idle oneByte w.source) : ∃ es, Program.Runs
      ((remove plainTexts 2 {} [0x61] {}).run.run ⟨⟨1, 1, 8⟩, ⟨1, 1, 5⟩⟩) es playedRemove.2.1 ∧
    ∃ w', copyNet.contract.Steps w es w' := by
  have hrun : ∃ es, es = playedRemove.1 ∧ Program.Runs
      ((remove plainTexts 2 {} [0x61] {}).run.run ⟨⟨1, 1, 8⟩, ⟨1, 1, 5⟩⟩) es playedRemove.2.1 := by
    unfold playedRemove
    exact ⟨_, rfl, Program.runs_serve clientPlayback _ _⟩
  obtain ⟨es, hes, hrun⟩ := hrun
  have hevents := removeEvents
  rw [← hes] at hevents
  obtain ⟨connected, opening, basic, standard, closing, opening', marking, closing', hopening, hbasic,
    hstandard, hclosing, hopening', hmarking, hclosing', rfl⟩ := hevents
  have hobject : oneByte (FileServer.caseless.target (ascii "a")) = some { content := [7] } :=
    congrArg oneByte target_a
  obtain ⟨s₁, hstat, hidle₁⟩ := steps_stat hidle hobject rfl rfl rfl hopening hbasic hstandard hclosing
  obtain ⟨s₂, hdelete, -⟩ := steps_delete hidle₁ hobject rfl rfl nothingBelow_a hopening' hmarking
    hclosing'
  exact ⟨_, hrun, ⟨s₂, w.target⟩, w, rfl, Contract.steps_append.2
    ⟨⟨s₁, w.target⟩, steps_native ⟨w.source, rfl, hstat⟩, steps_native ⟨s₁, rfl, hdelete⟩⟩⟩

end SmbBrowser.Client
