import SmbBrowser.Dfs.Namespace

/-!
# Operations over shared caches

Operations of one client run at the same time.  They share its two cache tables, each of
which is read or changed in one step, and nothing else; the delegate and the clock answer
anything.

Results:
* `speaks_program`: what each operation asks while the answers are true;
* `calls_designate`: of every interleaving of operations, whatever they find in the caches.
-/

namespace SmbBrowser.Dfs

open SmbBrowser.Base SmbBrowser.Qt SmbBrowser.Core

/-! ## Operations -/

/-- An operation of the client with its arguments. -/
inductive ClientOperation where
  | checkConnection (connection : Connection)
  | listDirectory (connection : Connection) (remotePath : QString)
  | createDirectory (connection : Connection) (remotePath : QString)
  | remove (connection : Connection) (remotePath : QString)
  | rename (connection : Connection) (sourceRemotePath targetRemotePath : QString)
  | downloadFile (connection : Connection) (remotePath localPath : QString)
  | uploadFile (connection : Connection) (localPath remotePath : QString)
  | transfer (kind : TransferKind) (sourceConnection : Connection) (sourceRemotePath : QString)
    (targetConnection : Connection) (targetRemotePath : QString)

namespace ClientOperation

/-- The calls of the delegate that an operation makes. -/
abbrev Call : ClientOperation → Type
  | .rename .. => RenameCall
  | .transfer .. => TransferCall
  | _ => DelegateCall

/-- What they and the operation return. -/
abbrev Value : ClientOperation → Type
  | .listDirectory .. => List RemoteFileEntry
  | _ => Bool

/-- The program of an operation. -/
def program (tables : CaseTables) :
    (operation : ClientOperation) → DfsProgram operation.Call operation.Value
      (Result operation.Value)
  | .checkConnection connection => Dfs.checkConnection tables connection
  | .listDirectory connection remotePath => Dfs.listDirectory tables connection remotePath
  | .createDirectory connection remotePath => Dfs.createDirectory tables connection remotePath
  | .remove connection remotePath => Dfs.remove tables connection remotePath
  | .rename connection sourceRemotePath targetRemotePath =>
    Dfs.rename tables connection sourceRemotePath targetRemotePath
  | .downloadFile connection remotePath localPath =>
    Dfs.downloadFile tables connection remotePath localPath
  | .uploadFile connection localPath remotePath =>
    Dfs.uploadFile tables connection localPath remotePath
  | .transfer kind sourceConnection sourceRemotePath targetConnection targetRemotePath =>
    Dfs.transfer tables kind sourceConnection sourceRemotePath targetConnection targetRemotePath

/-- The question or answer of an operation. -/
abbrev Wire (operation : ClientOperation) : Interface := dfs operation.Call operation.Value

variable {tables : CaseTables} {O : Type} (space : Namespace tables O)

/-- A call for what the operation was asked to do, on the same objects. -/
def Right : (operation : ClientOperation) → operation.Call → Prop
  | .checkConnection connection, call => ∃ candidate, call = DelegateCall.checkConnection candidate ∧
    space.object candidate = space.object connection
  | .listDirectory connection remotePath, call => ∃ candidate path,
    call = DelegateCall.listDirectory candidate path ∧
      space.object candidate path = space.object connection (normalizeRemotePath remotePath)
  | .createDirectory connection remotePath, call => ∃ candidate path,
    call = DelegateCall.createDirectory candidate path ∧
      space.object candidate path = space.object connection (normalizeRemotePath remotePath)
  | .remove connection remotePath, call => ∃ candidate path,
    call = DelegateCall.remove candidate path ∧
      space.object candidate path = space.object connection (normalizeRemotePath remotePath)
  | .rename connection sourceRemotePath targetRemotePath, call =>
    space.RightRename connection (normalizeRemotePath sourceRemotePath)
      (normalizeRemotePath targetRemotePath) call
  | .downloadFile connection remotePath localPath, call => ∃ candidate path,
    call = DelegateCall.downloadFile candidate path localPath ∧
      space.object candidate path = space.object connection (normalizeRemotePath remotePath)
  | .uploadFile connection localPath remotePath, call => ∃ candidate path,
    call = DelegateCall.uploadFile candidate localPath path ∧
      space.object candidate path = space.object connection (normalizeRemotePath remotePath)
  | .transfer kind sourceConnection sourceRemotePath targetConnection targetRemotePath, call =>
    space.RightTransfer kind sourceConnection (normalizeRemotePath sourceRemotePath)
      targetConnection (normalizeRemotePath targetRemotePath) call

/-- For a rename, an answer of the resolver that covers the new name too. -/
def Suits (tables : CaseTables) : (operation : ClientOperation) → Event operation.Wire → Prop
  | .rename _ _ targetRemotePath, e =>
    Namespace.CoversTarget tables (normalizeRemotePath targetRemotePath) e
  | _, _ => True

/-- True answers that suit the operation. -/
def Promise (operation : ClientOperation) (e : Event operation.Wire) : Prop :=
  space.Truthful e ∧ operation.Suits tables e

variable {space}

/-- Every operation asks for what it was asked to do, while the answers are true. -/
theorem speaks_program (operation : ClientOperation) :
    space.Speaks (operation.Right space) (operation.Promise space) (operation.program tables)
      (fun _ => True) := by
  cases operation with
  | checkConnection connection =>
    exact Namespace.speaks_runWithDfsFallback (fun e he => he.1)
      fun candidate h => ⟨candidate, rfl, h⟩
  | listDirectory connection remotePath =>
    exact Namespace.speaks_runWithPathDfsFallback (fun e he => he.1)
      fun candidate path h => ⟨candidate, path, rfl, h⟩
  | createDirectory connection remotePath =>
    exact Namespace.speaks_runWithPathDfsFallback (fun e he => he.1)
      fun candidate path h => ⟨candidate, path, rfl, h⟩
  | remove connection remotePath =>
    exact Namespace.speaks_runWithPathDfsFallback (fun e he => he.1)
      fun candidate path h => ⟨candidate, path, rfl, h⟩
  | rename connection sourceRemotePath targetRemotePath =>
    exact Namespace.speaks_rename (fun e he => he.1) fun e he => he.2
  | downloadFile connection remotePath localPath =>
    exact Namespace.speaks_runWithPathDfsFallback (fun e he => he.1)
      fun candidate path h => ⟨candidate, path, rfl, h⟩
  | uploadFile connection localPath remotePath =>
    exact Namespace.speaks_runWithPathDfsFallback (fun e he => he.1)
      fun candidate path h => ⟨candidate, path, rfl, h⟩
  | transfer kind sourceConnection sourceRemotePath targetConnection targetRemotePath =>
    exact Namespace.speaks_transfer fun e he => he.1

end ClientOperation

/-! ## Shared caches -/

section

variable {tables : CaseTables} {O A T : Type} (space : Namespace tables O)

/-- Both tables hold the truth only. -/
structure TrueCaches (caches : DfsCaches) : Prop where
  connections : ∀ cached ∈ caches.resolvedConnections,
    space.TrueTargets cached.1 cached.2.targets
  mappings : ∀ cached ∈ caches.resolvedPathMappings, space.TrueEntry cached.2

/-- An answer of the shared tables: each is read as it is, in any order of its buckets. -/
def ReadFrom (caches : DfsCaches) : Event (dfs A T) → Prop
  | ⟨.resolvedConnections, table⟩ =>
    (show QHash QString DfsConnectionCacheEntry from table).Perm caches.resolvedConnections
  | ⟨.resolvedPathMappings, table⟩ =>
    (show QHash QString DfsPathMappingCacheEntry from table).Perm caches.resolvedPathMappings
  | _ => True

/-- An answer of the resolver that is true. -/
def TrulyResolved : Event (dfs A T) → Prop
  | ⟨.resolveTargets connection, resolved⟩ =>
    ∀ target ∈ Result.value (T := List DfsResolvedConnection) resolved,
      space.object target.connection = space.object connection
  | ⟨.resolvePathTargets connection asked, resolved⟩ =>
    space.TrueReferral connection asked (Result.value (T := List DfsResolvedPath) resolved)
  | _ => True

variable {ι : Type} (operations : ι → ClientOperation)

/-- The tables under the events of all operations, with a resolver that tells the truth. -/
def sharedCaches : Contract (.joint fun i => (operations i).Wire) DfsCaches where
  allows _ _ := True
  step caches e caches' := ReadFrom caches (⟨e.op.2, e.ans⟩ : Event (operations e.op.1).Wire) ∧
    TrulyResolved space (⟨e.op.2, e.ans⟩ : Event (operations e.op.1).Wire) ∧
    (operations e.op.1).Suits tables ⟨e.op.2, e.ans⟩ ∧ caches' = caches.after e.op.2

variable {space} {caches : DfsCaches}

/-- What is read from true tables, or truly resolved, is true. -/
theorem truthful_of_trueCaches {e : Event (dfs A T)} (h : TrueCaches space caches)
    (hread : ReadFrom caches e) (hresolved : TrulyResolved space e) : space.Truthful e := by
  obtain ⟨op, ans⟩ := e
  cases op with
  | resolvedConnections =>
    intro cached hcached
    exact h.connections cached (hread.subset hcached)
  | resolvedPathMappings =>
    intro cached hcached
    exact h.mappings cached (hread.subset hcached)
  | resolveTargets connection => exact hresolved
  | resolvePathTargets connection asked => exact hresolved
  | _ => trivial

/-- Honest questions leave the tables true. -/
theorem TrueCaches.after {right : A → Prop} {op : DfsOp A} (h : TrueCaches space caches)
    (hop : space.Honest (T := T) right op) : TrueCaches space (caches.after op) := by
  cases op with
  | insertConnection key entry =>
    refine ⟨List.forall_mem_cons.2 ⟨hop, fun cached hcached => ?_⟩, h.mappings⟩
    exact h.connections cached (List.mem_filter.1 hcached).1
  | insertPathMapping key entry =>
    refine ⟨h.connections, List.forall_mem_cons.2 ⟨hop, fun cached hcached => ?_⟩⟩
    exact h.mappings cached (List.mem_filter.1 hcached).1
  | removeConnection key =>
    exact ⟨fun cached hcached => h.connections cached (List.mem_filter.1 hcached).1, h.mappings⟩
  | removePathMapping key =>
    exact ⟨h.connections, fun cached hcached => h.mappings cached (List.mem_filter.1 hcached).1⟩
  | _ => exact h

theorem trueCaches_empty : TrueCaches space {} where
  connections _ h := absurd h List.not_mem_nil
  mappings _ h := absurd h List.not_mem_nil

/-- **The client over a namespace**: in every interleaving of operations over one pair of
    caches with a resolver that tells the truth, the caches hold the truth only, and every
    call of the delegate does what its operation was asked to do, on the same objects. -/
theorem calls_designate [DecidableEq ι] (space : Namespace tables O)
    (operations : ι → ClientOperation)
    (history : List (Event (.joint fun i => (operations i).Wire))) (caches caches' : DfsCaches)
    (hruns : Interleaves (fun i => (operations i).program tables) history)
    (hcaches : TrueCaches space caches)
    (hsteps : (sharedCaches space operations).Steps caches history caches') :
    TrueCaches space caches' ∧ ∀ i earlier (call : (operations i).Call) answer later,
      history = earlier ++ Event.by i
          (⟨DfsOp.delegate call, answer⟩ : Event (operations i).Wire) :: later →
        (operations i).Right space call := by
  have hrely : ∀ i (e : Event (operations i).Wire) s s', TrueCaches space s →
      (sharedCaches space operations).step s (Event.by i e) s' →
        (operations i).Promise space e := by
    rintro i e s s' hs ⟨hread, hresolved, hsuits, -⟩
    exact ⟨truthful_of_trueCaches hs hread hresolved, hsuits⟩
  have hguarantee : ∀ i (e : Event (operations i).Wire) (es : List (Event (operations i).Wire))
      s s', TrueCaches space s → (operations i).Promise space e →
        space.Honest ((operations i).Right space) e.op →
          (sharedCaches space operations).step s (Event.by i e) s' → TrueCaches space s' := by
    rintro i e es s s' hs - hguard ⟨-, -, -, rfl⟩
    exact hs.after hguard
  obtain ⟨htrue, hguards⟩ := Interleaves.guarded
    (fun i => ClientOperation.speaks_program (operations i) []) hrely hguarantee hruns hcaches hsteps
  refine ⟨htrue, ?_⟩
  intro i earlier call answer later hhistory
  exact hguards i earlier ⟨DfsOp.delegate call, answer⟩ later hhistory

end

/-! ## A removal on the way to another -/

namespace LinkedShare

open NestedReferral

/-- `/docs` of the root is all of the leaf. -/
def docsReferral : DfsResolvedPath :=
  { connection := server "leaf", originalPathPrefix := qStringLiteral "/docs"
    targetPathPrefix := root }

/-- The mapping that the resolver names for `/docs/a`. -/
def docsMapping : DfsPathMapping :=
  mappingFor asciiTables (server "root") (qStringLiteral "/docs/a") docsReferral none

/-- The path on the leaf where the root refers to it, by the key of a connection. -/
def behindLink (key path : QString) : QString × QString :=
  if key = cacheKey asciiTables (server "root") ∧
      UsedFor (qStringLiteral "/docs/a") docsMapping path then
    (cacheKey asciiTables (server "leaf"), targetPathForMapping docsMapping path)
  else
    (key, path)

/-- The namespace of the root and the leaf. -/
def linkedSpace : Namespace asciiTables (QString × QString) where
  object connection := behindLink (cacheKey asciiTables connection)
  sameKey h := congrArg behindLink h
  sameTarget h := by
    simp only [sameResolvedTarget, asciiTables, Bool.and_eq_true, decide_eq_true_eq] at h
    obtain ⟨⟨⟨⟨hserver, hshare⟩, hdomain⟩, husername⟩, hauth⟩ := h
    simp only [cacheKey, hserver, hshare, hdomain, husername, hauth]

/-- The referral of the root is true. -/
theorem trueReferral_docs :
    linkedSpace.TrueReferral (server "root") (qStringLiteral "/docs/a") [docsReferral] := by
  rintro _ ⟨⟩ path hused resolvedPath hresolved
  obtain rfl := List.mem_singleton.1 hresolved
  have hleaf : ¬ (cacheKey asciiTables (server "leaf") = cacheKey asciiTables (server "root") ∧
      UsedFor (qStringLiteral "/docs/a") docsMapping (targetPathForMapping docsMapping path)) :=
    fun h => absurd h.1 (by decide)
  show behindLink (cacheKey asciiTables (server "leaf")) _ =
    behindLink (cacheKey asciiTables (server "root")) path
  exact (if_neg hleaf).trans (if_pos ⟨rfl, hused⟩).symm

/-- A delegate on which only the leaf removes. -/
def removing : Surroundings DelegateCall Bool where
  delegate call :=
    if call = .remove (server "leaf") (qStringLiteral "/a") ∨
        call = .remove (server "leaf") (qStringLiteral "/b") then
      .success true
    else
      .failure notCovered.error
  resolvePathTargets _ _ := .success [docsReferral]

/-- Two removals at the same time. -/
def removals : Bool → ClientOperation
  | true => .remove (server "root") (qStringLiteral "/docs/a")
  | false => .remove (server "root") (qStringLiteral "/docs/b")

/-- The first removal, and the tables after it. -/
def firstRemoval : List (Event (dfs DelegateCall Bool)) × Result Bool × DfsCaches :=
  (remove asciiTables (server "root") (qStringLiteral "/docs/a")).serve removing.handler {}

/-- The second one, which finds the mapping in the cache. -/
def secondRemoval : List (Event (dfs DelegateCall Bool)) × Result Bool × DfsCaches :=
  (remove asciiTables (server "root") (qStringLiteral "/docs/b")).serve removing.handler
    firstRemoval.2.2

set_option maxRecDepth 10000 in
theorem secondRemoval_events : secondRemoval.1 =
    [⟨.resolvedPathMappings, firstRemoval.2.2.resolvedPathMappings⟩,
      ⟨.currentDateTimeUtc, removing.now⟩,
      ⟨.delegate (.remove (server "leaf") (qStringLiteral "/b")), .success true⟩] := by
  rfl

/-- The second removal runs before the first one makes its last call. -/
def removalHistory : List (Event (.joint fun i => (removals i).Wire)) :=
  (firstRemoval.1.dropLast.map (Event.by true) ++ secondRemoval.1.map (Event.by false)) ++
    (firstRemoval.1.drop 6).map (Event.by true)

end LinkedShare

set_option maxRecDepth 10000 in
open LinkedShare NestedReferral in
/-- Both removals are carried out on the leaf. -/
theorem calls_designate_docs :
    TrueCaches linkedSpace firstRemoval.2.2 ∧
      ∀ i earlier (call : (removals i).Call) answer later,
        removalHistory = earlier ++ Event.by i
            (⟨DfsOp.delegate call, answer⟩ : Event (removals i).Wire) :: later →
          (removals i).Right linkedSpace call := by
  refine calls_designate linkedSpace removals removalHistory {} firstRemoval.2.2 ?_
    trueCaches_empty ?_
  · intro i
    cases i with
    | true =>
      have hevents : eventsOf true removalHistory = firstRemoval.1 := by
        rw [removalHistory, eventsOf_append, eventsOf_append]
        rfl
      rw [hevents]
      exact (Program.runs_serve removing.handler _ {}).starts
    | false =>
      have hevents : eventsOf false removalHistory = secondRemoval.1 := by
        rw [removalHistory, eventsOf_append, eventsOf_append]
        rfl
      rw [hevents]
      exact (Program.runs_serve removing.handler _ firstRemoval.2.2).starts
  · have hstep : ∀ {i : Bool} {e : Event (removals i).Wire} {caches : DfsCaches},
        ReadFrom caches e → TrulyResolved linkedSpace e →
          (sharedCaches linkedSpace removals).step caches (Event.by i e) (caches.after e.op) := by
      intro i e caches hread hresolved
      refine ⟨hread, hresolved, ?_, rfl⟩
      cases i <;> trivial
    have hfirst : (sharedCaches linkedSpace removals).Steps {}
        (firstRemoval.1.dropLast.map (Event.by true)) firstRemoval.2.2 :=
      ⟨_, hstep (.refl _) trivial, _, hstep (.refl _) trivial, _, hstep trivial trivial,
        _, hstep trivial trueReferral_docs, _, hstep trivial trivial, _, hstep trivial trivial,
        rfl⟩
    have hsecond : (sharedCaches linkedSpace removals).Steps firstRemoval.2.2
        (secondRemoval.1.map (Event.by false)) firstRemoval.2.2 := by
      rw [secondRemoval_events]
      exact ⟨_, hstep (.refl _) trivial, _, hstep trivial trivial, _, hstep trivial trivial, rfl⟩
    have hlast : (sharedCaches linkedSpace removals).Steps firstRemoval.2.2
        ((firstRemoval.1.drop 6).map (Event.by true)) firstRemoval.2.2 :=
      ⟨_, hstep trivial trivial, rfl⟩
    exact Contract.steps_append.2 ⟨_, Contract.steps_append.2 ⟨_, hfirst, hsecond⟩, hlast⟩

end SmbBrowser.Dfs
