import SmbBrowser.Native.RecursiveDelete

/-!
# Deleting links

The deletes of `NativeSmbSession` against a server on which a CREATE acts on the object that
a reparse point refers to, unless it asks for the reparse point itself.
`openForMutationOptions` (RemoteObjectOperator.cpp:44) never asks for it.

Results:
* `deletion_sparesTargets`: without links among the named objects only these are marked.
-/

namespace SmbBrowser.Native

open SmbBrowser.Base

/-- The deletes of a session. -/
inductive Deletion where
  | object (path : ByteVector) (directory : Bool)
  | tree (path : ByteVector)
  | wildcard (parentPath pattern : ByteVector)

namespace Deletion

def run (fuel : ℕ) (context : OperationContext) :
    Deletion → SessionM (DecodeResult NativeObjectMutationResult)
  | object path directory => Session.deleteObject path directory context
  | tree path => Session.deleteTree fuel path context
  | wildcard parentPath pattern => Session.deleteWildcard fuel parentPath pattern context

/-- The entries that a delete names: one object, a subtree, or the subtrees of the matching
    entries of a directory. -/
def Named (server : FileServer) : Deletion → ServerPath → Prop
  | object path _, q => q = server.locate path
  | tree path, q => server.locate path <+: q
  | wildcard parentPath pattern, q => server.Matching (server.target parentPath) pattern q

end Deletion

namespace FileServer

/-- Only named entries are marked, and a link is opened for deletion as the link itself. -/
def SparesTargets (server : FileServer) (named : ServerPath → Prop) (s : ServerState) :
    RequestBody → Prop
  | .create options => options.desiredAccess &&& kDeleteAccess ≠ 0 →
    ∀ object ∈ s.objects (server.locate options.path), object.reparsePoint = true →
      options.createOptions &&& kFileOpenReparsePoint ≠ 0
  | .setInfo options => options.fileInfoClass = kFileDispositionInformation →
    ∀ file ∈ s.openFiles options.fileId, named file.path
  | _ => True

section

variable {server : FileServer} {named : ServerPath → Prop} {objects : Objects}

theorem sparesTargets_of_looks {s : ServerState} {body : RequestBody} (h : Looks body) :
    server.SparesTargets named s body := by
  cases body with
  | create options => exact fun hdelete => absurd h.2 hdelete
  | setInfo options => exact h.elim
  | close options => trivial
  | queryInfo options => trivial
  | queryDirectory options => trivial
  | write options => trivial
  | read options => trivial
  | ioctl options => trivial
  | changeNotify options => trivial

theorem sparesTargets_of_plain {s : ServerState} {path : ByteVector} {directory : Bool}
    (hplain : ∀ object ∈ s.objects (server.locate path), object.reparsePoint = false) :
    server.SparesTargets named s (.create (openForMutationOptions path directory)) := by
  intro _ object hobject hreparse
  rw [hplain object hobject] at hreparse
  cases hreparse

theorem permits_sparesTargets
    (hplain : ∀ q, named q → ∀ object ∈ objects q, object.reparsePoint = false) :
    Permits server (server.SparesTargets named) named objects where
  look _ _ h := sparesTargets_of_looks h
  list _ _ _ _ _ _ _ _ := trivial
  delete s path directory hnamed hremains :=
    sparesTargets_of_plain fun object hobject => hplain _ hnamed object (hremains _ _ hobject)
  mark s options file hfile _ hnamed _ := by
    intro _ file' hfile'
    rw [hfile] at hfile'
    cases hfile'
    exact hnamed

end

/-- In every run of a delete only named entries are marked. -/
def Spares (server : FileServer) (s : ServerState) (deletion : Deletion) : Prop :=
  ∀ fuel context session es result,
    Program.Runs ((deletion.run fuel context).run.run session) es result →
    (server.contract false (server.SparesTargets (deletion.Named server))).AllowsAll s es

/-- A reparse point is the only thing that refers to another object. -/
def LinksRefer (server : FileServer) (objects : Objects) : Prop :=
  ∀ q, (∀ object ∈ objects q, object.reparsePoint = false) → server.referent q = q

section

variable {server : FileServer} {s : ServerState} {fuel : ℕ} {context : OperationContext}
  {session : Session}

theorem meets_deletion {deletion : Deletion} (hrooted : s.objects.Rooted)
    (hlinks : LinksRefer server s.objects)
    (hplain : ∀ q, deletion.Named server q → ∀ object ∈ s.objects q, object.reparsePoint = false) :
    MeetsS (server.contract false (server.SparesTargets (deletion.Named server)))
      (deletion.run fuel context) (fun _ _ _ => True) session s := by
  have hpermits : Permits server (server.SparesTargets (deletion.Named server))
      (deletion.Named server) s.objects := permits_sparesTargets hplain
  have hself : ∀ q, deletion.Named server q → server.referent q = q :=
    fun q hq => hlinks q (hplain q hq)
  have hs : Deleting false s.objects s := ⟨fun _ _ h => h, hrooted, by rintro ⟨⟩⟩
  cases deletion with
  | object path directory =>
    have hnamed : (Deletion.object path directory).Named server (server.locate path) := rfl
    refine (meets_deleteObject (sparesTargets_of_plain (hplain _ hnamed)) ?_ (fun _ _ => trivial)
      (by rintro ⟨⟩)).mono fun _ _ _ _ => trivial
    rintro s₁ options ⟨-, -, hfile, -⟩ _ file hfile'
    rw [hfile] at hfile'
    cases hfile'
    exact hself _ hnamed
  | tree path =>
    refine (meets_deleteTreeInternal hpermits hself (fun q q' h h' => h.trans h') List.prefix_rfl
      hs).mono fun _ _ _ _ => trivial
  | wildcard parentPath pattern =>
    refine (meets_deleteWildcard hpermits hself ?_ (fun _ _ _ _ _ _ => trivial)
      (fun q hq => hq) hs).mono fun _ _ _ _ => trivial
    rintro q q' ⟨name, hmatches, hq⟩ hq'
    exact ⟨name, hmatches, hq.trans hq'⟩

end

/-- **Deletes and links.**  Where no named entry is a reparse point, every run of a delete
    marks named entries only, whatever the links elsewhere refer to, and it never opens a
    reparse point for deletion without asking for the reparse point itself. -/
theorem deletion_sparesTargets {server : FileServer} {s : ServerState} {deletion : Deletion}
    (hrooted : s.objects.Rooted) (hlinks : LinksRefer server s.objects)
    (hplain : ∀ q, deletion.Named server q → ∀ object ∈ s.objects q, object.reparsePoint = false) :
    Spares server s deletion := by
  intro fuel context session es result hrun
  exact (meets_deletion hrooted hlinks hplain).allowed hrun

/-! ## A share with a link -/

/-- A share with a file and a link to it. -/
def fileAndLink : Objects := fun q =>
  if q = [] then some { directory := true }
  else if q = [ascii "t"] then some { content := [0x64] }
  else if q = [ascii "l"] then some { reparsePoint := true } else none

def linkTarget (q : ServerPath) : ServerPath := if q = [ascii "l"] then [ascii "t"] else q

/-- The server of the share, which follows the link. -/
def following : FileServer := .walking id linkTarget

theorem rooted_fileAndLink : fileAndLink.Rooted := by
  refine Objects.rooted_of_flat rfl ⟨rfl, rfl⟩ fun q name hq => ?_
  rw [fileAndLink, if_neg (by simp), if_neg (append_singleton_ne hq _ _),
    if_neg (append_singleton_ne hq _ _)]

theorem linksRefer_following : LinksRefer following fileAndLink := by
  intro q hplain
  show linkTarget q = q
  rw [linkTarget, if_neg]
  rintro rfl
  have hlink := hplain { reparsePoint := true } rfl
  cases hlink

theorem deletion_sparesTargets_file :
    Spares following { objects := fileAndLink } (.object (ascii "t") false) := by
  refine deletion_sparesTargets rooted_fileAndLink linksRefer_following ?_
  rintro q rfl object hobject
  have hplace : following.locate (ascii "t") = [ascii "t"] := by decide +kernel
  rw [hplace] at hobject
  cases hobject
  rfl

end FileServer

end SmbBrowser.Native
