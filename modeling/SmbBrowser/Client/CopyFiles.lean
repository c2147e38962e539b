import SmbBrowser.Client.Upload

/-!
# Copies

`NativeSmbClient::copy` (infrastructure/smb/NativeSmbClient.cpp:641) deletes what stands at the
target path and has the server copy the file where both connections lead to the same share.
Otherwise, and where the server could not, the bytes pass through the client.

Results:
* `serves_copyStream`: the loop invariant, which holds also over what a failed attempt left;
* `copy_copies`: what every run of a copy leaves.
-/

namespace SmbBrowser.Client

open SmbBrowser.Base SmbBrowser.Qt SmbBrowser.Native
open SmbBrowser.Core (Connection Result AppError)

/-! ## What a copy has done so far -/

/-- The tree of a share. -/
def Surroundings.objects (net : Surroundings) (side : Side) (w : Shares) : Objects :=
  ((net.share side).get w).objects

/-- The target side has got so far, and the source side, where it is another share, stays. -/
structure Reaches (net : Surroundings) (w : Shares) (P : Objects → Prop) (w' : Shares) : Prop where
  target : P (net.objects .target w')
  source : net.shared = false → w'.source.objects = w.source.objects

/-- Nothing was done yet. -/
abbrev Kept (net : Surroundings) (w : Shares) : Shares → Prop :=
  Reaches net w (· = net.objects .target w)

/-- The target path holds these bytes, or nothing. -/
abbrev Carried (net : Surroundings) (w : Shares) (place : ServerPath) (content : ByteVector) :
    Shares → Prop :=
  Reaches net w (Holding (net.objects .target w) place content)

/-- The target path holds exactly these bytes. -/
abbrev Copied (net : Surroundings) (w : Shares) (place : ServerPath) (content : ByteVector) :
    Shares → Prop :=
  Reaches net w (· = (net.objects .target w).set place { content })

section

variable {net : Surroundings} {w w₀ w' : Shares} {sessions : Sessions} {context : OperationContext}
  {texts : Texts} {sourcePath targetPath : ByteVector} {place : ServerPath} {s' : ServerState}
  {content : ByteVector} {object : FileObject} {P P' : Objects → Prop}

theorem Surroundings.objects_set : net.objects .target ((net.share .target).set w s') = s'.objects := by
  rw [Surroundings.objects, (net.share .target).get_set]

theorem Surroundings.objects_target (hshared : net.shared = true) :
    net.objects .target w = w.source.objects := by
  simp only [Surroundings.objects, Surroundings.share, hshared, if_true]

/-- Where both sides have one share, a call on the source side is one on the target side. -/
theorem Surroundings.set_source (hshared : net.shared = true) :
    (net.share .source).set w s' = (net.share .target).set w s' := by
  simp only [Surroundings.share, hshared, if_true]

namespace Reaches

/-- A call on the target side. -/
theorem onTarget (h : Reaches net w₀ P w) (htarget : P' s'.objects) :
    Reaches net w₀ P' ((net.share .target).set w s') := by
  refine ⟨?_, fun hshared => ?_⟩
  · rw [Surroundings.objects_set]
    exact htarget
  · simp only [Surroundings.share, hshared, Bool.false_eq_true, if_false]
    exact h.source hshared

/-- A call on the target side that keeps the tree. -/
theorem onTarget_kept (h : Reaches net w₀ P w) (hsame : s'.objects = net.objects .target w) :
    Reaches net w₀ P ((net.share .target).set w s') :=
  h.onTarget (hsame ▸ h.target)

/-- A call on the source side that keeps the tree. -/
theorem onSource_kept (h : Reaches net w₀ P w) (hsame : s'.objects = w.source.objects) :
    Reaches net w₀ P ((net.share .source).set w s') := by
  cases hshared : net.shared with
  | false =>
    refine ⟨?_, fun _ => hsame.trans (h.source hshared)⟩
    have htarget := h.target
    simp only [Surroundings.objects, Surroundings.share, hshared, Bool.false_eq_true,
      if_false] at htarget ⊢
    exact htarget
  | true =>
    rw [Surroundings.set_source hshared]
    exact h.onTarget_kept (hsame.trans (Surroundings.objects_target hshared).symm)

/-- The tree of the source stays but for the target path, where both sides have one share. -/
theorem source_at (h : Carried net w₀ place content w) {q : ServerPath}
    (hq : net.shared = true → q ≠ place) : w.source.objects q = w₀.source.objects q := by
  cases hshared : net.shared with
  | false => rw [h.source hshared]
  | true =>
    have htarget := h.target
    rw [Surroundings.objects_target hshared, Surroundings.objects_target hshared] at htarget
    obtain hset | ⟨-, herase⟩ := htarget
    · rw [hset, FileTree.set_of_ne (hq hshared)]
    · rw [herase, FileTree.erase_of_ne (hq hshared)]

/-- Some bytes are there. -/
theorem copied (h : Carried net w₀ place content w) (hsome : content ≠ []) :
    Copied net w₀ place content w :=
  ⟨h.target.resolve_right fun hnil => hsome hnil.1, h.source⟩

end Reaches

/-! ## The bytes through the client -/

/-- The file that is copied, apart from the target path. -/
structure CopiesFrom (net : Surroundings) (w : Shares) (sourcePath : ByteVector)
    (place : ServerPath) (object : FileObject) : Prop where
  present : w.source.objects (net.source.target sourcePath) = some object
  apart : net.shared = true → net.source.target sourcePath ≠ place

theorem CopiesFrom.still (hfrom : CopiesFrom net w₀ sourcePath place object)
    (h : Carried net w₀ place content w) :
    w.source.objects (net.source.target sourcePath) = some object :=
  (h.source_at hfrom.apart).trans hfrom.present

/-- Where a READ within the file ends. -/
theorem read_end {size offset : UInt64} {data : ByteVector} (hsize : size.toNat = content.length)
    (hoffset : offset.toNat ≤ size.toNat) (hdata : data <+: content.drop offset.toNat) :
    (offset + UInt64.ofNat data.length).toNat = offset.toNat + data.length ∧
      offset.toNat + data.length ≤ size.toNat := by
  have hlength := hdata.length_le
  have hsmall := size.toNat_lt
  rw [List.length_drop] at hlength
  rw [UInt64.toNat_add, UInt64.toNat_ofNat']
  omega

/-- Within the file a READ asks for some bytes, and gets some. -/
theorem read_some {size offset : UInt64} {data : ByteVector} (hsize : size.toNat = content.length)
    (hmore : ¬ size ≤ offset)
    (hnone : data = [] → (content.drop offset.toNat).take
      (UInt32.ofNat (min kChunkSize (size - offset).toNat)).toNat = []) : data ≠ [] := by
  intro hdata
  have hlt : offset.toNat < size.toNat := UInt64.lt_iff_toNat_lt.1 (UInt64.not_le.1 hmore)
  have hsub : (size - offset).toNat = size.toNat - offset.toNat :=
    UInt64.toNat_sub_of_le _ _ (UInt64.le_of_lt (UInt64.not_le.1 hmore))
  have hlength := congrArg List.length (hnone hdata)
  rw [List.length_take, List.length_drop, UInt32.toNat_ofNat', hsub, kChunkSize,
    List.length_nil] at hlength
  omega

/-- **The loop.**  The induction is on the turns left; before each of them the target path
    holds a part of the file that reaches at least to the offset. -/
theorem serves_copyStream (hwhole : net.target.shortWrites = false) {size offset : UInt64}
    {fuel n : ℕ} (hfrom : CopiesFrom net w₀ sourcePath (net.target.target targetPath) object)
    (hsize : size.toNat = object.content.length) (hoffset : offset.toNat ≤ size.toNat)
    (hn : offset.toNat ≤ n)
    (h : Carried net w₀ (net.target.target targetPath) (object.content.take n) w) :
    MeetsS net.contract (copyStream texts sourcePath targetPath size context fuel offset)
      (fun r _ w' => Ends
        (fun w' => ∃ n, Carried net w₀ (net.target.target targetPath) (object.content.take n) w')
        (Carried net w₀ (net.target.target targetPath) object.content) r w') sessions w := by
  induction fuel generalizing offset n w sessions with
  | zero => exact .of_throw ⟨n, h⟩
  | succ fuel ih =>
    rw [copyStream]
    split
    · rename_i hend
      have hwhole := h
      rw [List.take_of_length_le ((hsize ▸ UInt64.le_iff_toNat_le.1 hend).trans hn)] at hwhole
      exact .of_success ⟨n, h⟩ hwhole
    rename_i hmore
    refine meetsS_bind.2 (serves_cancelled ?_)
    rintro (_ | _)
    case true => exact .of_failure ⟨n, h⟩ rfl
    simp only [Bool.false_eq_true, if_false]
    refine meetsS_bind.2 (serves_onSession (FileServer.meets_readFileOnce.mono ?_))
    intro r session₁ s₁ hread
    have h₁ := h.onSource_kept hread.always
    obtain (e | e | read) := r
    · exact .of_throw ⟨n, h₁⟩
    · exact .of_failure ⟨n, h₁⟩ (failed_not_ok (hread.error e rfl).1)
    obtain ⟨other, hother, -, hdata, hnone⟩ := (hread.success read rfl).read
    obtain rfl : object = other := Option.some.inj ((hfrom.still h).symm.trans hother)
    have hpart : read.data <+: object.content.drop offset.toNat :=
      hdata.trans (List.take_prefix _ _)
    have heq : read.data = (object.content.drop offset.toNat).take read.data.length :=
      List.prefix_iff_eq_take.1 hpart
    obtain ⟨hnext, hle⟩ := read_end hsize hoffset hpart
    have hsome := read_some hsize hmore hnone
    dsimp only
    refine meetsS_bind.2 (serves_onSession (FileServer.meets_writeFileOnce.mono ?_))
    intro r session₂ s₂ hwrite
    -- what of the chunk was written lies over the part of the file that is there
    have hover : ∀ {k : ℕ}, FileServer.WritesTo (net.objects .target ((net.share .source).set w s₁))
        (net.target.target targetPath) offset (read.data.take k) s₂.objects →
        Carried net w₀ (net.target.target targetPath)
          (object.content.take (max n (offset.toNat + min k read.data.length)))
          ((net.share .target).set ((net.share .source).set w s₁) s₂) := by
      intro k hwrites
      rw [heq, List.take_take] at hwrites
      exact h₁.onTarget (.inl (h₁.target.over hn (hsize ▸ hoffset) hwrites))
    have hkept : ∃ n, Carried net w₀ (net.target.target targetPath) (object.content.take n)
        ((net.share .target).set ((net.share .source).set w s₁) s₂) := by
      obtain hsame | ⟨k, hwrites⟩ := hwrite.always
      · exact ⟨n, h₁.onTarget_kept hsame⟩
      · exact ⟨_, hover hwrites⟩
    obtain (e | e | written) := r
    · exact .of_throw hkept
    · exact .of_failure hkept (failed_not_ok (hwrite.error e rfl).1)
    obtain ⟨-, hcount, hwrites⟩ := hwrite.success written rfl
    have h₂ := hover hwrites
    rw [hcount hwhole, Nat.min_self] at h₂
    refine meetsS_bind.2 (serves_reportProgress ?_)
    dsimp only
    rw [if_neg hsome]
    refine ih (w := (net.share .target).set _ s₂) (by omega) ?_ h₂
    rw [hnext]
    exact Nat.le_max_right _ _

/-- How the second half of a copy ends. -/
abbrev Transfers (net : Surroundings) (w : Shares) (place : ServerPath) (content : ByteVector) :
    Except Exn (Result Bool) → Shares → Prop :=
  Ends (fun w' => ∃ n, Carried net w place (content.take n) w') (Copied net w place content)

theorem serves_copyThrough (hwhole : net.target.shortWrites = false) {size : UInt64}
    {fuel n : ℕ} (hfrom : CopiesFrom net w₀ sourcePath (net.target.target targetPath) object)
    (hsize : size.toNat = object.content.length)
    (h : Carried net w₀ (net.target.target targetPath) (object.content.take n) w) :
    MeetsS net.contract (copyThrough texts fuel sourcePath targetPath size context)
      (fun r _ w' => Transfers net w₀ (net.target.target targetPath) object.content r w')
      sessions w := by
  rw [copyThrough]
  split
  · rename_i hzero
    rw [hzero, UInt64.toNat_zero] at hsize
    have hnil : object.content = [] := List.length_eq_zero_iff.1 hsize.symm
    rw [hnil] at h ⊢
    rw [List.take_nil] at h
    refine meetsS_bind.2 (serves_onSession (FileServer.meets_writeFileOnce.mono ?_))
    intro r session₁ s₁ hwrite
    have hwritten : ∀ {k : ℕ}, FileServer.WritesTo (net.objects .target w)
        (net.target.target targetPath) 0 (([] : ByteVector).take k) s₁.objects →
        s₁.objects = (net.objects .target w₀).set (net.target.target targetPath) {} := by
      intro k hwrites
      rw [List.take_nil] at hwrites
      exact h.target.writes hwrites
    have hkept : ∃ n, Carried net w₀ (net.target.target targetPath) (([] : ByteVector).take n)
        ((net.share .target).set w s₁) := by
      obtain hsame | ⟨k, hwrites⟩ := hwrite.always
      · exact ⟨0, h.onTarget_kept hsame⟩
      · exact ⟨0, h.onTarget (.inl (hwritten hwrites))⟩
    obtain (e | e | written) := r
    · exact .of_throw hkept
    · exact .of_failure hkept (failed_not_ok (hwrite.error e rfl).1)
    obtain ⟨-, -, hwrites⟩ := hwrite.success written rfl
    refine meetsS_bind.2 (serves_reportProgress (.of_success hkept ?_))
    exact h.onTarget (hwritten hwrites)
  · rename_i hzero
    have hsome : object.content ≠ [] := by
      intro hnil
      rw [hnil, List.length_nil] at hsize
      exact hzero (UInt64.toNat_inj.1 hsize)
    refine (serves_copyStream hwhole hfrom hsize (Nat.zero_le _) (Nat.zero_le n) h).mono ?_
    intro r session₁ w₁ hends
    exact ⟨hends.always, fun result hresult hok => (hends.success result hresult hok).copied hsome⟩

/-! ## The copy on the server -/

theorem Holding.set {objects objects' : Objects} {at' : ServerPath} {other : FileObject}
    (h : Holding objects at' content objects') : objects'.set at' other = objects.set at' other := by
  obtain rfl | ⟨-, rfl⟩ := h
  · exact FileTree.set_set
  · exact FileTree.set_erase

theorem Holding.erase {objects objects' : Objects} {at' : ServerPath}
    (h : Holding objects at' content objects') : objects'.erase at' = objects.erase at' := by
  obtain rfl | ⟨-, rfl⟩ := h
  · exact FileTree.erase_set
  · exact FileTree.erase_erase

/-- What the server copied. -/
theorem CopiesFrom.copied (hfrom : CopiesFrom net w₀ sourcePath place object)
    (h : Carried net w₀ place content w) (hshared : net.shared = true) {count : ℕ}
    (hcopies : FileServer.CopiesTo w.source.objects (net.source.target sourcePath) place count
      s'.objects) :
    s'.objects = (net.objects .target w₀).set place { content := object.content.take count } := by
  obtain ⟨other, hother, -, hcopied⟩ := hcopies.copied
  rw [FileTree.set_of_ne (hfrom.apart hshared), hfrom.still h] at hother
  cases hother
  rw [← Surroundings.objects_target hshared] at hcopied
  rw [hcopied, h.target.set]

/-- What `copyServerSide` leaves; where it returns nothing the copy goes on. -/
theorem serves_copyServerSide (hshared : net.shared = true) {size : UInt64} {n : ℕ}
    (hfrom : CopiesFrom net w₀ sourcePath (net.target.target targetPath) object)
    (hsize : size.toNat = object.content.length)
    (h : Carried net w₀ (net.target.target targetPath) (object.content.take n) w) :
    MeetsS net.contract (copyServerSide texts sourcePath targetPath size context)
      (fun r _ w' =>
        (∃ n, Carried net w₀ (net.target.target targetPath) (object.content.take n) w') ∧
        ∀ result, r = .ok (some result) → result.ok = true →
          Copied net w₀ (net.target.target targetPath) object.content w') sessions w := by
  have hplace : net.source.target targetPath = net.target.target targetPath := by
    rw [net.same hshared]
  rw [copyServerSide]
  refine meetsS_bind.2 (serves_onSession (FileServer.meets_copyFileServerSide.mono ?_))
  intro r session₁ s₁ hcopy
  have hcopied : ∀ {count : ℕ}, FileServer.CopiesTo w.source.objects
      (net.source.target sourcePath) (net.source.target targetPath) count s₁.objects →
      s₁.objects = (net.objects .target w₀).set (net.target.target targetPath)
        { content := object.content.take count } := by
    intro count hcopies
    rw [hplace] at hcopies
    exact hfrom.copied h hshared hcopies
  obtain ⟨n₁, h₁⟩ : ∃ n, Carried net w₀ (net.target.target targetPath) (object.content.take n)
      ((net.share .source).set w s₁) := by
    obtain hsame | ⟨count, hcopies⟩ := hcopy.always
    · exact ⟨n, h.onSource_kept hsame⟩
    · rw [Surroundings.set_source hshared]
      exact ⟨count, h.onTarget (.inl (hcopied hcopies))⟩
  obtain (e | e | copied) := r
  · exact ⟨⟨n₁, h₁⟩, by rintro result ⟨⟩⟩
  · dsimp only
    split
    · refine ⟨⟨n₁, h₁⟩, ?_⟩
      rintro _ ⟨⟩ hok
      rw [failed_not_ok (hcopy.error e rfl).1] at hok
      cases hok
    refine meetsS_bind.2 (serves_onSession (FileServer.serves_statObject.mono ?_))
    intro r session₂ s₂ hstat
    have h₂ := h₁.onTarget_kept hstat.always
    obtain (e | e | existing) := r
    · exact ⟨⟨n₁, h₂⟩, by rintro result ⟨⟩⟩
    · exact ⟨⟨n₁, h₂⟩, by rintro result ⟨⟩⟩
    refine meetsS_bind.2 (serves_onSession (FileServer.serves_deleteObject.mono ?_))
    intro r session₃ s₃ hdelete
    have h₃ : ∃ n, Carried net w₀ (net.target.target targetPath) (object.content.take n)
        ((net.share .target).set ((net.share .target).set ((net.share .source).set w s₁) s₂) s₃) := by
      obtain hsame | herases := hdelete.always
      · exact ⟨n₁, h₂.onTarget_kept hsame⟩
      · exact ⟨0, h₂.onTarget (.inr ⟨rfl, herases.objects'.trans h₂.target.erase⟩)⟩
    obtain (e | a) := r
    · exact ⟨h₃, by rintro result ⟨⟩⟩
    · exact ⟨h₃, by rintro result ⟨⟩⟩
  · refine ⟨⟨n₁, h₁⟩, ?_⟩
    rintro _ ⟨⟩ -
    have hwhole := hcopied (hcopy.success copied rfl)
    rw [hsize, List.take_length] at hwhole
    rw [Surroundings.set_source hshared]
    exact h.onTarget hwhole

/-! ## The copy -/

/-- What a copy leaves. -/
structure Copies (net : Surroundings) (sourcePath : ByteVector) (place : ServerPath) (w : Shares)
    (r : Except Exn (Result Bool)) (w' : Shares) : Prop where
  always : Kept net w w' ∨ ∃ object n,
    w.source.objects (net.source.target sourcePath) = some object ∧
      Carried net w place (object.content.take n) w'
  success : ∀ result, r = .ok result → result.ok = true → ∃ object,
    w.source.objects (net.source.target sourcePath) = some object ∧ object.directory = false ∧
      Copied net w place object.content w'

namespace Copies

variable {r : Except Exn (Result Bool)}

theorem of_failure (h : Kept net w w' ∨ ∃ object n,
      w.source.objects (net.source.target sourcePath) = some object ∧
        Carried net w place (object.content.take n) w')
    (hok : ∀ result, r = .ok result → result.ok = false) :
    Copies net sourcePath place w r w' := by
  refine ⟨h, fun result hresult hsuccess => ?_⟩
  rw [hok result hresult] at hsuccess
  cases hsuccess

/-- The second half. -/
theorem of_transfers (h : Transfers net w place object.content r w')
    (hobject : w.source.objects (net.source.target sourcePath) = some object)
    (hplain : object.directory = false) : Copies net sourcePath place w r w' := by
  obtain ⟨n, hcarried⟩ := h.always
  exact ⟨.inr ⟨object, n, hobject, hcarried⟩, fun result hresult hsuccess =>
    ⟨object, hobject, hplain, h.success result hresult hsuccess⟩⟩

end Copies

theorem serves_copy (hwhole : net.target.shortWrites = false) {tables : CaseTables} {fuel : ℕ}
    {sourceConnection targetConnection : Connection} {sourceRemotePath targetRemotePath : QString}
    (hsame : sameRemoteTree tables sourceConnection targetConnection = true → net.shared = true)
    (hapart : net.shared = true → net.source.target (nativePath texts sourceRemotePath) ≠
      net.target.target (nativePath texts targetRemotePath)) :
    MeetsS net.contract (copy texts tables fuel sourceConnection sourceRemotePath targetConnection
        targetRemotePath context)
      (fun r _ w' => Copies net (nativePath texts sourceRemotePath)
        (net.target.target (nativePath texts targetRemotePath)) w r w') sessions w := by
  have hstart : Kept net w w := ⟨rfl, fun _ => rfl⟩
  rw [copy]
  refine serves_connected (fun e _ hcode => .of_failure (.inl hstart) ?_) fun sessions₁ => ?_
  · rintro _ ⟨⟩
    exact failed_not_ok hcode
  dsimp only
  refine serves_connected (fun e _ hcode => .of_failure (.inl hstart) ?_) fun sessions₂ => ?_
  · rintro _ ⟨⟩
    exact failed_not_ok hcode
  dsimp only
  refine meetsS_bind.2 (serves_onSession (FileServer.serves_statObject.mono ?_))
  intro r sessions₃ s₃ hstat
  have h₃ := hstart.onSource_kept hstat.always
  obtain (e | e | stat) := r
  · exact .of_failure (.inl h₃) (by rintro result ⟨⟩)
  · refine .of_failure (.inl h₃) ?_
    rintro _ ⟨⟩
    exact failed_not_ok (hstat.error e rfl).1
  obtain ⟨-, object, hobject, hdescribing⟩ := hstat.success stat rfl
  dsimp only
  split
  · refine .of_failure (.inl h₃) ?_
    rintro _ ⟨⟩
    rfl
  rename_i hplain
  rw [hdescribing.directory_eq, Bool.not_eq_true] at hplain
  have hsize := hdescribing.size_eq hplain
  refine meetsS_bind.2 (serves_deleteExisting.mono ?_)
  rintro r sessions₄ _ ⟨s₄, rfl, hclears⟩
  have htree : ((net.share .target).get ((net.share .source).set w s₃)).objects =
    net.objects .target w := h₃.target
  rw [htree] at hclears
  have hfrom : CopiesFrom net w (nativePath texts sourceRemotePath)
    (net.target.target (nativePath texts targetRemotePath)) object := ⟨hobject, hapart⟩
  have herased (h : s₄.objects = (net.objects .target w).erase
      (net.target.target (nativePath texts targetRemotePath))) :
      Carried net w (net.target.target (nativePath texts targetRemotePath)) (object.content.take 0)
        ((net.share .target).set ((net.share .source).set w s₃) s₄) :=
    h₃.onTarget (.inr ⟨rfl, h⟩)
  have halways : Kept net w ((net.share .target).set ((net.share .source).set w s₃) s₄) ∨
      ∃ object n, w.source.objects (net.source.target (nativePath texts sourceRemotePath)) =
        some object ∧ Carried net w (net.target.target (nativePath texts targetRemotePath))
          (object.content.take n) ((net.share .target).set ((net.share .source).set w s₃) s₄) := by
    refine hclears.always.imp (fun h => ?_) fun h => ⟨object, 0, hobject, herased h⟩
    exact h₃.onTarget_kept (h.trans h₃.target.symm)
  obtain (e | _ | result) := r
  · exact .of_failure halways (by rintro result ⟨⟩)
  case ok.some =>
    refine .of_failure halways ?_
    rintro _ ⟨⟩
    exact hclears.failed result rfl
  have h₄ := herased (hclears.cleared rfl)
  dsimp only
  split
  · rename_i htrees
    refine meetsS_bind.2 ((serves_copyServerSide (hsame htrees) hfrom hsize h₄).mono ?_)
    rintro (e | _ | result) sessions₅ w₅ ⟨⟨n, h₅⟩, hsuccess⟩
    · exact ⟨.inr ⟨object, n, hobject, h₅⟩, by rintro result ⟨⟩⟩
    · refine (serves_copyThrough hwhole hfrom hsize h₅).mono fun r sessions₆ w₆ h₆ => ?_
      exact .of_transfers h₆ hobject hplain
    · refine .of_transfers ⟨⟨n, h₅⟩, ?_⟩ hobject hplain
      rintro _ ⟨⟩
      exact hsuccess result rfl
  · refine (serves_copyThrough hwhole hfrom hsize h₄).mono fun r sessions₆ w₆ h₆ => ?_
    exact .of_transfers h₆ hobject hplain

/-- What was deleted is not copied by the server. -/
theorem serves_copyServerSide_missing (hshared : net.shared = true) {size : UInt64}
    (hself : net.source.target sourcePath = net.target.target targetPath)
    (hnone : w.source.objects (net.source.target sourcePath) = none) :
    MeetsS net.contract (copyServerSide texts sourcePath targetPath size context)
      (fun r _ w' => w'.source.objects = w.source.objects ∧
        ∀ result, r = .ok (some result) → result.ok = false) sessions w := by
  have hcopies : ∀ {place : ServerPath} {count : ℕ} {objects' : Objects},
      ¬ FileServer.CopiesTo w.source.objects (net.source.target sourcePath) place count objects' := by
    intro place count objects' h
    obtain ⟨object, hobject, -⟩ := h.present
    rw [hnone] at hobject
    cases hobject
  rw [copyServerSide]
  refine meetsS_bind.2 (serves_onSession (FileServer.meets_copyFileServerSide.mono ?_))
  intro r session₁ s₁ hcopy
  have hkept : s₁.objects = w.source.objects :=
    hcopy.always.resolve_right fun ⟨_, h⟩ => hcopies h
  obtain (e | e | copied) := r
  · exact ⟨hkept, by rintro result ⟨⟩⟩
  · dsimp only
    split
    · refine ⟨hkept, ?_⟩
      rintro _ ⟨⟩
      exact failed_not_ok (hcopy.error e rfl).1
    refine meetsS_bind.2 (serves_onSession (FileServer.serves_statObject.mono ?_))
    intro r session₂ s₂ hstat
    have hget : (net.share .target).get ((net.share .source).set w s₁) = s₁ := by
      rw [Surroundings.set_source hshared, (net.share .target).get_set]
    rw [hget] at hstat
    have hkept₂ : ((net.share .target).set ((net.share .source).set w s₁) s₂).source.objects =
        w.source.objects := by
      rw [← Surroundings.set_source hshared]
      exact hstat.always.trans hkept
    obtain (e | e | existing) := r
    · exact ⟨hkept₂, by rintro result ⟨⟩⟩
    · exact ⟨hkept₂, by rintro result ⟨⟩⟩
    obtain ⟨-, object, hobject, -⟩ := hstat.success existing rfl
    rw [hkept] at hobject
    rw [hself] at hnone
    cases hnone.symm.trans hobject
  · exact absurd (hcopy.success copied rfl) hcopies

/-- Nor do its bytes pass through the client. -/
theorem serves_copyThrough_missing {fuel : ℕ} {size : UInt64} (hsize : size ≠ 0)
    (hnone : w.source.objects (net.source.target sourcePath) = none) :
    MeetsS net.contract (copyThrough texts fuel sourcePath targetPath size context)
      (fun r _ w' => w'.source.objects = w.source.objects ∧
        ∀ result, r = .ok result → result.ok = false) sessions w := by
  rw [copyThrough, if_neg hsize]
  cases fuel with
  | zero => exact ⟨rfl, by rintro result ⟨⟩⟩
  | succ fuel =>
    have hmore : ¬ size ≤ 0 := by
      rw [UInt64.le_iff_toNat_le, UInt64.toNat_zero, Nat.le_zero]
      exact fun h => hsize (UInt64.toNat_inj.1 h)
    rw [copyStream, if_neg hmore]
    refine meetsS_bind.2 (serves_cancelled ?_)
    rintro (_ | _)
    case true =>
      refine ⟨rfl, ?_⟩
      rintro _ ⟨⟩
      rfl
    simp only [Bool.false_eq_true, if_false]
    refine meetsS_bind.2 (serves_onSession (FileServer.meets_readFileOnce.mono ?_))
    intro r session₁ s₁ hread
    obtain (e | e | read) := r
    · exact ⟨hread.always, by rintro result ⟨⟩⟩
    · refine ⟨hread.always, ?_⟩
      rintro _ ⟨⟩
      exact failed_not_ok (hread.error e rfl).1
    · obtain ⟨object, hobject, -⟩ := (hread.success read rfl).read
      cases hnone.symm.trans hobject

/-- What a copy of a file onto itself leaves. -/
structure Loses (net : Surroundings) (sourcePath : ByteVector) (w : Shares)
    (r : Except Exn (Result Bool)) (w' : Shares) : Prop where
  always : w'.source.objects = w.source.objects ∨
    w'.source.objects = w.source.objects.erase (net.source.target sourcePath)
  failure : ∀ result, r = .ok result → result.ok = false

theorem serves_copy_self (hshared : net.shared = true) {tables : CaseTables} {fuel : ℕ}
    {sourceConnection targetConnection : Connection} {sourceRemotePath targetRemotePath : QString}
    (hself : net.source.target (nativePath texts sourceRemotePath) =
      net.target.target (nativePath texts targetRemotePath))
    (hobject : w.source.objects (net.source.target (nativePath texts sourceRemotePath)) = some object)
    (hcontent : object.content ≠ []) :
    MeetsS net.contract (copy texts tables fuel sourceConnection sourceRemotePath targetConnection
        targetRemotePath context)
      (fun r _ w' => Loses net (nativePath texts sourceRemotePath) w r w') sessions w := by
  rw [copy]
  refine serves_connected (fun e _ hcode => ⟨.inl rfl, ?_⟩) fun sessions₁ => ?_
  · rintro _ ⟨⟩
    exact failed_not_ok hcode
  dsimp only
  refine serves_connected (fun e _ hcode => ⟨.inl rfl, ?_⟩) fun sessions₂ => ?_
  · rintro _ ⟨⟩
    exact failed_not_ok hcode
  dsimp only
  refine meetsS_bind.2 (serves_onSession (FileServer.serves_statObject.mono ?_))
  intro r sessions₃ s₃ hstat
  have hkept : s₃.objects = w.source.objects := hstat.always
  obtain (e | e | stat) := r
  · exact ⟨.inl hkept, by rintro result ⟨⟩⟩
  · refine ⟨.inl hkept, ?_⟩
    rintro _ ⟨⟩
    exact failed_not_ok (hstat.error e rfl).1
  obtain ⟨-, other, hother, hdescribing⟩ := hstat.success stat rfl
  obtain rfl : object = other := Option.some.inj (hobject.symm.trans hother)
  dsimp only
  split
  · refine ⟨.inl hkept, ?_⟩
    rintro _ ⟨⟩
    rfl
  rename_i hplain
  rw [hdescribing.directory_eq, Bool.not_eq_true] at hplain
  have hsize : stat.size ≠ 0 := by
    intro hzero
    have hlength := hdescribing.size_eq hplain
    rw [hzero] at hlength
    exact hcontent (List.length_eq_zero_iff.1 hlength.symm)
  refine meetsS_bind.2 (serves_deleteExisting.mono ?_)
  rintro r sessions₄ _ ⟨s₄, rfl, hclears⟩
  have hget : (net.share .target).get ((net.share .source).set w s₃) = s₃ := by
    rw [Surroundings.set_source hshared, (net.share .target).get_set]
  have hset : (net.share .target).set ((net.share .source).set w s₃) s₄ =
      (net.share .source).set w s₄ := by
    rw [← Surroundings.set_source hshared]
    rfl
  have hplace : (net.server .target).target (nativePath texts targetRemotePath) =
      net.source.target (nativePath texts sourceRemotePath) := hself.symm
  rw [hget, hkept, hplace] at hclears
  rw [hset]
  obtain (e | _ | result) := r
  · exact ⟨hclears.always, by rintro result ⟨⟩⟩
  case ok.some =>
    refine ⟨hclears.always, ?_⟩
    rintro _ ⟨⟩
    exact hclears.failed result rfl
  have herased := hclears.cleared rfl
  have hnone : ((net.share .source).set w s₄).source.objects
      (net.source.target (nativePath texts sourceRemotePath)) = none := by
    show s₄.objects _ = none
    rw [herased, FileTree.erase_self]
  dsimp only
  split
  · refine meetsS_bind.2 ((serves_copyServerSide_missing hshared hself hnone).mono ?_)
    rintro (e | _ | result) sessions₅ w₅ ⟨hsame, hfailed⟩
    · exact ⟨.inr (hsame.trans herased), by rintro result ⟨⟩⟩
    · rw [← hsame] at hnone
      refine (serves_copyThrough_missing hsize hnone).mono fun r sessions₆ w₆ h => ?_
      exact ⟨.inr (h.1.trans (hsame.trans herased)), h.2⟩
    · refine ⟨.inr (hsame.trans herased), ?_⟩
      rintro _ ⟨⟩
      exact hfailed result rfl
  · refine (serves_copyThrough_missing hsize hnone).mono fun r sessions₆ w₆ h => ?_
    exact ⟨.inr (h.1.trans herased), h.2⟩

/-- **A file onto itself.**  A copy whose two paths lead to one file that is not empty deletes
    the file before it reads it: no run of it succeeds, and the file is what it was or gone. -/
theorem copy_self_loses (hshared : net.shared = true) {tables : CaseTables} {fuel : ℕ}
    {sourceConnection targetConnection : Connection} {sourceRemotePath targetRemotePath : QString}
    (hself : net.source.target (nativePath texts sourceRemotePath) =
      net.target.target (nativePath texts targetRemotePath))
    (hobject : w.source.objects (net.source.target (nativePath texts sourceRemotePath)) = some object)
    (hcontent : object.content ≠ []) {es : List (Event ClientWire)}
    {r : Except Exn (Result Bool)} {sessions' : Sessions}
    (hrun : Program.Runs ((copy texts tables fuel sourceConnection sourceRemotePath
      targetConnection targetRemotePath context).run.run sessions) es (r, sessions'))
    (hsteps : net.contract.Steps w es w') :
    Loses net (nativePath texts sourceRemotePath) w r w' :=
  (serves_copy_self hshared hself hobject hcontent).sound hrun hsteps

end

/-! ## A short copy -/

/-- Two shares. -/
def copyNet : Surroundings where
  source := FileServer.caseless
  target := FileServer.caseless
  same _ := rfl
  small := by decide

/-- The replies to a stat of a file of one byte. -/
def statReplies : List ByteVector :=
  [openedMessage 1, informationMessage basicInformation, informationMessage (fileInformation 1),
    closedMessage]

def playedCopy :
    List (Event ClientWire) × (Except Exn (Result Bool) × Sessions) ×
      List (DecodeResult ByteVector) :=
  ((copy plainTexts .ascii 2 {} [0x61] {} [0x62] {}).run.run ⟨.new 1 1 1, .new 1 1 1⟩).serve
    clientPlayback ((statReplies ++ [notFoundMessage, openedMessage 1, readMessage [7], closedMessage,
      createdMessage, writtenMessage 1, closedMessage]).map fun message => .ok (framed message))

set_option maxRecDepth 100000 in
theorem copyEvents : ∃ (connected : NativeSmbConnectedState)
      (opening basic standard closing missing opening' reading closing' making writing
        closing'' : SentRequest),
    opening.request.body = .create (statCreateOptions (ascii "a")) ∧
    basic.request.body = .queryInfo (statQueryOptions {} kFileBasicInformation 40) ∧
    standard.request.body = .queryInfo (statQueryOptions {} kFileStandardInformation 24) ∧
    closing.request.body = .close { fileId := {} } ∧
    missing.request.body = .create (statCreateOptions (ascii "b")) ∧
    opening'.request.body = .create (readFileOptions (ascii "a")) ∧
    reading.request.body = .read { fileId := {}, length := 1, offset := 0 } ∧
    closing'.request.body = .close { fileId := {} } ∧
    making.request.body = .create (writeFileOptions (ascii "b")) ∧
    writing.request.body = .write { fileId := {}, data := [7], offset := 0 } ∧
    closing''.request.body = .close { fileId := {} } ∧
    playedCopy.1 = [⟨.connect .source {}, .ok connected⟩, ⟨.connect .target {}, .ok connected⟩] ++
      (([⟨.enter (.statObject (ascii "a")), ()⟩,
          ⟨.exchange opening {}, .ok (framed (openedMessage 1))⟩,
          ⟨.exchange basic {}, .ok (framed (informationMessage basicInformation))⟩,
          ⟨.exchange standard {}, .ok (framed (informationMessage (fileInformation 1)))⟩,
          ⟨.exchange closing {}, .ok (framed closedMessage)⟩] : List (Event Wire)).map
        (nativeQuestions .source).event ++
      (([⟨.enter (.statObject (ascii "b")), ()⟩,
          ⟨.exchange missing {}, .ok (framed notFoundMessage)⟩] : List (Event Wire)).map
        (nativeQuestions .target).event ++
      (([⟨.enter (.readFileOnce (ascii "a") 1 0), ()⟩,
          ⟨.exchange opening' {}, .ok (framed (openedMessage 1))⟩,
          ⟨.exchange reading {}, .ok (framed (readMessage [7]))⟩,
          ⟨.exchange closing' {}, .ok (framed closedMessage)⟩] : List (Event Wire)).map
        (nativeQuestions .source).event ++
      ([⟨.enter (.writeFileOnce (ascii "b") [7] 0), ()⟩,
          ⟨.exchange making {}, .ok (framed createdMessage)⟩,
          ⟨.exchange writing {}, .ok (framed (writtenMessage 1))⟩,
          ⟨.exchange closing'' {}, .ok (framed closedMessage)⟩] : List (Event Wire)).map
        (nativeQuestions .target).event))) :=
  ⟨_, _, _, _, _, _, _, _, _, _, _, _, rfl, rfl, rfl, rfl, rfl, rfl, rfl, rfl, rfl, rfl, rfl, rfl⟩

set_option maxRecDepth 10000 in
theorem decode_readByte :
    decodeReadResponse (readMessage [7]) = .ok { dataOffset := 80, data := [7] } := by
  rfl

set_option maxRecDepth 10000 in
theorem decode_writtenByte : decodeWriteResponse (writtenMessage 1) = .ok { count := 1 } := by rfl

theorem copy_runs : ∃ es, Program.Runs
      ((copy plainTexts .ascii 2 {} [0x61] {} [0x62] {}).run.run ⟨.new 1 1 1, .new 1 1 1⟩) es
      playedCopy.2.1 ∧
    ∃ w', copyNet.contract.Steps ⟨{ objects := oneByte }, { objects := oneByte }⟩ es w' ∧
      Idle oneByte w'.source := by
  have hrun : ∃ es, es = playedCopy.1 ∧ Program.Runs
      ((copy plainTexts .ascii 2 {} [0x61] {} [0x62] {}).run.run ⟨.new 1 1 1, .new 1 1 1⟩) es
      playedCopy.2.1 := by
    unfold playedCopy
    exact ⟨_, rfl, Program.runs_serve clientPlayback _ _⟩
  obtain ⟨es, hes, hrun⟩ := hrun
  have hevents := copyEvents
  rw [← hes] at hevents
  obtain ⟨connected, opening, basic, standard, closing, missing, opening', reading, closing', making,
    writing, closing'', hopening, hbasic, hstandard, hclosing, hmissing, hopening', hreading,
    hclosing', hmaking, hwriting, hclosing'', rfl⟩ := hevents
  let start : ServerState := { objects := oneByte }
  have hidle : Idle oneByte start := ⟨rfl, rfl⟩
  have hobject : oneByte (FileServer.caseless.target (ascii "a")) = some { content := [7] } :=
    congrArg oneByte target_a
  have hnone : oneByte (FileServer.caseless.target (ascii "b")) = none :=
    (congrArg _ target_b).trans oneByte_absent
  obtain ⟨s₁, hstat, hidle₁⟩ := steps_stat hidle hobject rfl rfl rfl hopening hbasic hstandard hclosing
  have hfailed : FileServer.caseless.serves.step start
      ⟨.exchange missing {}, .ok (framed notFoundMessage)⟩ start.fail :=
    step_notFound hidle hmissing (FileServer.actsOn_statCreateOptions ▸ hnone)
  obtain ⟨s₂, hread, hidle₂⟩ := steps_read hidle₁ hobject (by decide) decode_readByte hopening' hreading
    hclosing'
  obtain ⟨s₃, hwritten, -⟩ := steps_write hidle.fail hnone (target_b.symm ▸ hasParent_oneByte) rfl
    decode_writtenByte hmaking hwriting hclosing''
  refine ⟨_, hrun, ⟨s₂, s₃⟩, Contract.steps_append.2
    ⟨⟨start, start⟩, ⟨⟨start, start⟩, rfl, ⟨start, start⟩, rfl, rfl⟩, ?_⟩, hidle₂⟩
  refine Contract.steps_append.2 ⟨⟨s₁, start⟩, steps_native ⟨start, rfl, hstat⟩, ?_⟩
  refine Contract.steps_append.2 ⟨⟨s₁, start.fail⟩,
    steps_native ⟨start, rfl, _, hfailed, rfl⟩, ?_⟩
  exact Contract.steps_append.2 ⟨⟨s₂, start.fail⟩, steps_native ⟨s₁, rfl, hread⟩,
    steps_native ⟨start.fail, rfl, hwritten⟩⟩

theorem copy_ends : playedCopy.2.1 = (.ok (.success true), ⟨⟨1, 1, 8⟩, ⟨1, 1, 5⟩⟩) := by
  decide +kernel

/-- One share on both sides, which the client does not know. -/
def selfNet : Surroundings where
  source := FileServer.caseless
  target := FileServer.caseless
  shared := true
  same _ := rfl
  small := by decide

def playedSelf :
    List (Event ClientWire) × (Except Exn (Result Bool) × Sessions) ×
      List (DecodeResult ByteVector) :=
  ((copy plainTexts .ascii 2 {} [0x61] {} [0x61] {}).run.run ⟨.new 1 1 1, .new 1 1 1⟩).serve
    clientPlayback ((statReplies ++ statReplies ++ [openedMessage 1, setInfoMessage, closedMessage,
      notFoundMessage]).map fun message => .ok (framed message))

set_option maxRecDepth 100000 in
theorem selfEvents : ∃ (connected : NativeSmbConnectedState)
      (opening basic standard closing opening' basic' standard' closing' marked marking closing''
        reading : SentRequest),
    opening.request.body = .create (statCreateOptions (ascii "a")) ∧
    basic.request.body = .queryInfo (statQueryOptions {} kFileBasicInformation 40) ∧
    standard.request.body = .queryInfo (statQueryOptions {} kFileStandardInformation 24) ∧
    closing.request.body = .close { fileId := {} } ∧
    opening'.request.body = .create (statCreateOptions (ascii "a")) ∧
    basic'.request.body = .queryInfo (statQueryOptions {} kFileBasicInformation 40) ∧
    standard'.request.body = .queryInfo (statQueryOptions {} kFileStandardInformation 24) ∧
    closing'.request.body = .close { fileId := {} } ∧
    marked.request.body = .create (openForMutationOptions (ascii "a") false) ∧
    marking.request.body = .setInfo {
      fileId := {}, infoType := kInfoTypeFile, fileInfoClass := kFileDispositionInformation,
      buffer := buildFileDispositionInformation true } ∧
    closing''.request.body = .close { fileId := {} } ∧
    reading.request.body = .create (readFileOptions (ascii "a")) ∧
    playedSelf.1 = [⟨.connect .source {}, .ok connected⟩, ⟨.connect .target {}, .ok connected⟩] ++
      (([⟨.enter (.statObject (ascii "a")), ()⟩,
          ⟨.exchange opening {}, .ok (framed (openedMessage 1))⟩,
          ⟨.exchange basic {}, .ok (framed (informationMessage basicInformation))⟩,
          ⟨.exchange standard {}, .ok (framed (informationMessage (fileInformation 1)))⟩,
          ⟨.exchange closing {}, .ok (framed closedMessage)⟩] : List (Event Wire)).map
        (nativeQuestions .source).event ++
      (([⟨.enter (.statObject (ascii "a")), ()⟩,
          ⟨.exchange opening' {}, .ok (framed (openedMessage 1))⟩,
          ⟨.exchange basic' {}, .ok (framed (informationMessage basicInformation))⟩,
          ⟨.exchange standard' {}, .ok (framed (informationMessage (fileInformation 1)))⟩,
          ⟨.exchange closing' {}, .ok (framed closedMessage)⟩] : List (Event Wire)).map
        (nativeQuestions .target).event ++
      (([⟨.enter (.deleteObject (ascii "a") false), ()⟩,
          ⟨.exchange marked {}, .ok (framed (openedMessage 1))⟩,
          ⟨.exchange marking {}, .ok (framed setInfoMessage)⟩,
          ⟨.exchange closing'' {}, .ok (framed closedMessage)⟩] : List (Event Wire)).map
        (nativeQuestions .target).event ++
      ([⟨.enter (.readFileOnce (ascii "a") 1 0), ()⟩,
          ⟨.exchange reading {}, .ok (framed notFoundMessage)⟩] : List (Event Wire)).map
        (nativeQuestions .source).event))) :=
  ⟨_, _, _, _, _, _, _, _, _, _, _, _, _, rfl, rfl, rfl, rfl, rfl, rfl, rfl, rfl, rfl, rfl, rfl, rfl,
    rfl⟩

theorem self_runs : ∃ es, Program.Runs
      ((copy plainTexts .ascii 2 {} [0x61] {} [0x61] {}).run.run ⟨.new 1 1 1, .new 1 1 1⟩) es
      playedSelf.2.1 ∧
    ∃ w', selfNet.contract.Steps ⟨{ objects := oneByte }, { objects := oneByte }⟩ es w' ∧
      w'.source.objects = FileTree.erase oneByte (FileServer.caseless.target (ascii "a")) := by
  have hrun : ∃ es, es = playedSelf.1 ∧ Program.Runs
      ((copy plainTexts .ascii 2 {} [0x61] {} [0x61] {}).run.run ⟨.new 1 1 1, .new 1 1 1⟩) es
      playedSelf.2.1 := by
    unfold playedSelf
    exact ⟨_, rfl, Program.runs_serve clientPlayback _ _⟩
  obtain ⟨es, hes, hrun⟩ := hrun
  have hevents := selfEvents
  rw [← hes] at hevents
  obtain ⟨connected, opening, basic, standard, closing, opening', basic', standard', closing', marked,
    marking, closing'', reading, hopening, hbasic, hstandard, hclosing, hopening', hbasic',
    hstandard', hclosing', hmarked, hmarking, hclosing'', hreading, rfl⟩ := hevents
  let start : ServerState := { objects := oneByte }
  have hobject : oneByte (FileServer.caseless.target (ascii "a")) = some { content := [7] } :=
    congrArg oneByte target_a
  have hidle : Idle oneByte start := ⟨rfl, rfl⟩
  obtain ⟨s₁, hstat, hidle₁⟩ := steps_stat hidle hobject rfl rfl rfl hopening hbasic hstandard hclosing
  obtain ⟨s₂, hstat', hidle₂⟩ := steps_stat hidle₁ hobject rfl rfl rfl hopening' hbasic' hstandard'
    hclosing'
  obtain ⟨s₃, hdelete, hidle₃⟩ := steps_delete hidle₂ hobject rfl rfl nothingBelow_a hmarked hmarking
    hclosing''
  have hgone : FileTree.erase oneByte (FileServer.caseless.target (ascii "a"))
      (FileServer.caseless.actsOn (readFileOptions (ascii "a"))) = none := by
    rw [FileServer.actsOn_readFileOptions, FileTree.erase_self]
  have hfailed : FileServer.caseless.serves.step s₃
      ⟨.exchange reading {}, .ok (framed notFoundMessage)⟩ s₃.fail :=
    step_notFound hidle₃ hreading hgone
  refine ⟨_, hrun, ⟨s₃.fail, start⟩, Contract.steps_append.2
    ⟨⟨start, start⟩, ⟨⟨start, start⟩, rfl, ⟨start, start⟩, rfl, rfl⟩, ?_⟩, hidle₃.objects⟩
  refine Contract.steps_append.2 ⟨⟨s₁, start⟩, steps_native ⟨start, rfl, hstat⟩, ?_⟩
  refine Contract.steps_append.2 ⟨⟨s₂, start⟩, steps_native ⟨s₁, rfl, hstat'⟩, ?_⟩
  exact Contract.steps_append.2 ⟨⟨s₃, start⟩, steps_native ⟨s₂, rfl, hdelete⟩,
    steps_native ⟨s₃, rfl, _, hfailed, rfl⟩⟩

theorem copy_self_loses_byte : ∃ es r w', Program.Runs
      ((copy plainTexts .ascii 2 {} [0x61] {} [0x61] {}).run.run ⟨.new 1 1 1, .new 1 1 1⟩) es r ∧
    selfNet.contract.Steps ⟨{ objects := oneByte }, { objects := oneByte }⟩ es w' ∧
    Loses selfNet (nativePath plainTexts [0x61])
      ⟨{ objects := oneByte }, { objects := oneByte }⟩ r.1 w' ∧
    w'.source.objects = FileTree.erase oneByte (FileServer.caseless.target (ascii "a")) := by
  obtain ⟨es, hrun, w', hsteps, hgone⟩ := self_runs
  refine ⟨es, _, w', hrun, hsteps, ?_, hgone⟩
  generalize playedSelf.2.1 = r at hrun ⊢
  obtain ⟨r, sessions⟩ := r
  have hobject : oneByte (FileServer.caseless.target (nativePath plainTexts [0x61])) =
      some { content := [7] } := congrArg oneByte target_a
  exact copy_self_loses rfl rfl hobject (by decide) hrun hsteps

end SmbBrowser.Client
