import SmbBrowser.Dfs.Rename

/-!
# Copies and moves across referrals

Model of `DfsResolvingSmbClient::copy` and `DfsResolvingSmbClient::move`
(DfsResolvingSmbClient.cpp:570, 640), which differ in the call of the delegate only: each end
is taken from the caches, and after a failure that looks like a referral the ends are
resolved and the call is made once more.

Result: `transfer_tries`, of every run.
-/

namespace SmbBrowser.Dfs

open SmbBrowser.Base SmbBrowser.Qt SmbBrowser.Core

/-! ## The operations -/

/-- A path on a connection. -/
structure Place where
  connection : Connection
  path : QString
  deriving DecidableEq

inductive TransferKind where
  | copy
  | move
  deriving DecidableEq

/-- `m_delegate.copy` or `m_delegate.move` of one place to another. -/
structure TransferCall where
  kind : TransferKind
  source : Place
  target : Place
  deriving DecidableEq

/-- `parentRemotePath` (DfsResolvingSmbClient.cpp:89). -/
def parentRemotePath (remotePath : QString) : QString :=
  let normalized := normalizeRemotePath remotePath
  let parent : QString := (normalized.rdropWhile (· ≠ slash)).dropLast
  if parent = [] then root else parent

section

variable {A T : Type} (tables : CaseTables)

/-- `cachedResolvedConnection` (DfsResolvingSmbClient.cpp:754). -/
def cachedResolvedConnection (connection : Connection) : DfsProgram A T (Option Connection) := do
  return (← cachedResolvedConnections tables connection).head?

/-- The first mapping of a lookup; for the calls of this module
    `cachedResolvedPathMapping` (DfsResolvingSmbClient.cpp:764). -/
def firstMapping (lookup : DfsProgram A T (List DfsPathMapping)) :
    DfsProgram A T (Option DfsPathMapping) := do
  return (← lookup).head?

/-- Where a mapping leads from a path; `otherwise` without one. -/
def alongMapping (mapping : Option DfsPathMapping) (path : QString) (otherwise : Place) : Place :=
  match mapping with
  | none => otherwise
  | some mapping => ⟨mapping.targetConnection, targetPathForMapping mapping path⟩

/-- The second call, after a failure of the first (DfsResolvingSmbClient.cpp:610–637). -/
def transferAgain (kind : TransferKind) (sourceConnection : Connection)
    (originalSourcePath : QString) (targetConnection : Connection) (originalTargetPath : QString)
    (source target : Place) (result : Result Bool) : DfsProgram TransferCall Bool (Result Bool) :=
  if looksLikePathDfsReferralFailure tables result.error then do
    let sourceMapping ←
      firstMapping (resolvePathAndCache tables sourceConnection originalSourcePath)
    let targetMapping ←
      firstMapping (resolvePathAndCache tables targetConnection
        (parentRemotePath originalTargetPath))
    delegate ⟨kind, alongMapping sourceMapping originalSourcePath source,
      alongMapping targetMapping originalTargetPath target⟩
  else if !looksLikeShareDfsReferralFailure tables result.error then
    return result
  else do
    let resolvedSources ← resolveAndCache tables sourceConnection
    let resolvedTargets ← resolveAndCache tables targetConnection
    delegate ⟨kind, ⟨resolvedSources.head?.getD sourceConnection, originalSourcePath⟩,
      ⟨resolvedTargets.head?.getD targetConnection, originalTargetPath⟩⟩

/-- `copy` and `move`. -/
def transfer (kind : TransferKind) (sourceConnection : Connection) (sourceRemotePath : QString)
    (targetConnection : Connection) (targetRemotePath : QString) :
    DfsProgram TransferCall Bool (Result Bool) := do
  let originalSourcePath := normalizeRemotePath sourceRemotePath
  let originalTargetPath := normalizeRemotePath targetRemotePath
  let cachedSource ← cachedResolvedConnection tables sourceConnection
  let cachedTarget ← cachedResolvedConnection tables targetConnection
  let sourceMapping ←
    firstMapping (cachedResolvedPathMappings tables sourceConnection originalSourcePath)
  let targetMapping ←
    firstMapping (cachedResolvedPathMappings tables targetConnection originalTargetPath)
  let source := alongMapping sourceMapping originalSourcePath
    ⟨cachedSource.getD sourceConnection, originalSourcePath⟩
  let target := alongMapping targetMapping originalTargetPath
    ⟨cachedTarget.getD targetConnection, originalTargetPath⟩
  let result ← delegate ⟨kind, source, target⟩
  if result.ok then
    return result
  else
    transferAgain tables kind sourceConnection originalSourcePath targetConnection
      originalTargetPath source target result

/-- `copy` (DfsResolvingSmbClient.cpp:570). -/
def copy (sourceConnection : Connection) (sourceRemotePath : QString)
    (targetConnection : Connection) (targetRemotePath : QString) :
    DfsProgram TransferCall Bool (Result Bool) :=
  transfer tables .copy sourceConnection sourceRemotePath targetConnection targetRemotePath

/-- `move` (DfsResolvingSmbClient.cpp:640). -/
def move (sourceConnection : Connection) (sourceRemotePath : QString)
    (targetConnection : Connection) (targetRemotePath : QString) :
    DfsProgram TransferCall Bool (Result Bool) :=
  transfer tables .move sourceConnection sourceRemotePath targetConnection targetRemotePath

end

/-! ## One call or two -/

/-- The call of an event of the delegate, and its answer. -/
def transferCall : Event (dfs TransferCall Bool) → Option (TransferCall × Result Bool)
  | ⟨.delegate call, result⟩ => some (call, result)
  | _ => none

/-- The calls of a run and their answers. -/
def transferCalls (es : List (Event (dfs TransferCall Bool))) :
    List (TransferCall × Result Bool) := es.filterMap transferCall

/-- The delegate is called once, or once more after a failure that looks like a referral.
    The last answer is the result. -/
inductive Tries (tables : CaseTables) (kind : TransferKind) (result : Result Bool) :
    List (TransferCall × Result Bool) → Prop where
  | once {call : TransferCall} (hkind : call.kind = kind)
      (hends : result.ok = true ∨ looksLikeDfsReferralFailure tables result.error = false) :
      Tries tables kind result [(call, result)]
  | again {call second : TransferCall} {failed : Result Bool} (hkind : call.kind = kind)
      (hkind' : second.kind = kind) (hfailed : failed.ok = false)
      (hreferral : looksLikeDfsReferralFailure tables failed.error = true) :
      Tries tables kind result [(call, failed), (second, result)]

section

variable {tables : CaseTables} {kind : TransferKind}
  {es : List (Event (dfs TransferCall Bool))}

/-- A question that is not for the delegate. -/
def NoTransfer : (dfs TransferCall Bool).Op → Prop
  | .delegate _ => False
  | _ => True

theorem transferCalls_quiet {added : List (Event (dfs TransferCall Bool))}
    (h : ∀ e ∈ added, NoTransfer e.op) : transferCalls (es ++ added) = transferCalls es := by
  have hnone : transferCalls added = [] := by
    refine List.filterMap_eq_nil_iff.2 fun e he => ?_
    have hquiet := h e he
    obtain ⟨op, ans⟩ := e
    cases op with
    | delegate call => exact hquiet.elim
    | _ => rfl
  rw [transferCalls, List.filterMap_append, ← transferCalls, ← transferCalls, hnone,
    List.append_nil]

theorem transferCalls_call (call : TransferCall) (answer : Result Bool) :
    transferCalls (es ++ [⟨.delegate call, answer⟩]) = transferCalls es ++ [(call, answer)] := by
  rw [transferCalls, List.filterMap_append]
  rfl

/-- A lookup makes no call. -/
theorem meets_noTransfer {β : Type} {p : DfsProgram TransferCall Bool β}
    (hp : Program.Questions NoTransfer p) :
    Meets .history p (fun _ es' => transferCalls es' = transferCalls es) es := by
  refine (hp.meets (meets_history_grows p es)).mono ?_
  rintro _ _ ⟨-, added, rfl, hadded⟩
  exact transferCalls_quiet hadded

theorem questions_firstMapping {lookup : DfsProgram TransferCall Bool (List DfsPathMapping)}
    (h : Program.Questions NoTransfer lookup) :
    Program.Questions NoTransfer (firstMapping lookup) :=
  h.bind fun _ => trivial

theorem questions_cachedResolvedConnection (connection : Connection) :
    Program.Questions NoTransfer (cachedResolvedConnection tables connection) :=
  (questions_cachedResolvedConnections trivial trivial).bind fun _ => trivial

/-- The last call of an operation. -/
theorem meets_lastCall (call : TransferCall) :
    Meets .history (delegate call)
      (fun result es' => transferCalls es' = transferCalls es ++ [(call, result)]) es := by
  refine ⟨trivial, ?_⟩
  rintro answer _ rfl
  exact transferCalls_call call answer

theorem looksLikeDfsReferralFailure_iff {error : AppError} :
    looksLikeDfsReferralFailure tables error = true ↔
      looksLikeShareDfsReferralFailure tables error = true ∨
        looksLikePathDfsReferralFailure tables error = true := by
  rw [looksLikeDfsReferralFailure, Bool.or_eq_true]

/-- After the first call. -/
theorem meets_transferAgain {sourceConnection targetConnection : Connection}
    {originalSourcePath originalTargetPath : QString} {source target : Place}
    {result : Result Bool} (hfailed : result.ok = false)
    (hes : transferCalls es = [(⟨kind, source, target⟩, result)]) :
    Meets .history (transferAgain tables kind sourceConnection originalSourcePath targetConnection
        originalTargetPath source target result)
      (fun last es' => Tries tables kind last (transferCalls es')) es := by
  have hagain : ∀ {second : TransferCall} {es' : List (Event (dfs TransferCall Bool))},
      second.kind = kind → looksLikeDfsReferralFailure tables result.error = true →
      transferCalls es' = transferCalls es →
      Meets .history (delegate second) (fun last es'' => Tries tables kind last
        (transferCalls es'')) es' := by
    intro second es' hkind hreferral hes'
    refine (meets_lastCall second).mono fun last es'' h => ?_
    rw [h, hes', hes]
    exact .again rfl hkind hfailed hreferral
  rw [transferAgain]
  split
  · rename_i hpath
    have hreferral := looksLikeDfsReferralFailure_iff.2 (.inr hpath)
    have hresolve : ∀ connection path, Program.Questions NoTransfer
        (firstMapping (resolvePathAndCache tables connection path)) := fun connection path =>
      questions_firstMapping (questions_resolvePathAndCache trivial trivial fun _ _ => trivial)
    refine (meets_noTransfer (hresolve _ _)).bind fun sourceMapping es₁ h₁ => ?_
    refine (meets_noTransfer (hresolve _ _)).bind fun targetMapping es₂ h₂ => ?_
    exact hagain rfl hreferral (h₂.trans h₁)
  rename_i hpath
  split
  · rename_i hshare
    show Tries tables kind result (transferCalls es)
    rw [hes]
    refine .once rfl (.inr ?_)
    simp only [Bool.not_eq_true', Bool.not_eq_true] at hshare hpath
    rw [looksLikeDfsReferralFailure, hshare, hpath]
    rfl
  · rename_i hshare
    simp only [Bool.not_eq_true', Bool.not_eq_false] at hshare
    have hreferral := looksLikeDfsReferralFailure_iff.2 (.inl hshare)
    have hresolve : ∀ connection, Program.Questions NoTransfer
        (resolveAndCache tables connection) := fun connection =>
      questions_resolveAndCache trivial trivial fun _ _ => trivial
    refine (meets_noTransfer (hresolve _)).bind fun resolvedSources es₁ h₁ => ?_
    refine (meets_noTransfer (hresolve _)).bind fun resolvedTargets es₂ h₂ => ?_
    exact hagain rfl hreferral (h₂.trans h₁)

/-- **Tries**: a copy or a move makes one call, and a second one only when the first failed
    like a referral; its result is the answer to the last. -/
theorem transfer_tries (tables : CaseTables) (kind : TransferKind) (sourceConnection : Connection)
    (sourceRemotePath : QString) (targetConnection : Connection) (targetRemotePath : QString)
    (es : List (Event (dfs TransferCall Bool))) (result : Result Bool)
    (hrun : (transfer tables kind sourceConnection sourceRemotePath targetConnection
      targetRemotePath).Runs es result) :
    Tries tables kind result (transferCalls es) := by
  refine Meets.history (Q := fun result es => Tries tables kind result (transferCalls es)) ?_ hrun
  have hcached : ∀ connection path, Program.Questions NoTransfer
      (firstMapping (cachedResolvedPathMappings tables connection path)) := fun connection path =>
    questions_firstMapping (questions_cachedResolvedPathMappings trivial trivial)
  rw [transfer]
  refine (meets_noTransfer (questions_cachedResolvedConnection _)).bind fun cachedSource es₁ h₁ => ?_
  refine (meets_noTransfer (questions_cachedResolvedConnection _)).bind fun cachedTarget es₂ h₂ => ?_
  refine (meets_noTransfer (hcached _ _)).bind fun sourceMapping es₃ h₃ => ?_
  refine (meets_noTransfer (hcached _ _)).bind fun targetMapping es₄ h₄ => ?_
  have hnone : transferCalls es₄ = [] := h₄.trans (h₃.trans (h₂.trans h₁))
  refine (meets_lastCall _).bind fun answer es₅ h₅ => ?_
  rw [hnone, List.nil_append] at h₅
  split
  · rename_i hok
    show Tries tables kind answer (transferCalls es₅)
    rw [h₅]
    exact .once rfl (.inl hok)
  · rename_i hfailed
    exact meets_transferAgain (Bool.eq_false_iff.2 hfailed) h₅

end

namespace LinkedCopy

open NestedReferral

/-- `/docs` of the root is all of the leaf, which only the resolver knows. -/
def linkedServers : Surroundings TransferCall Bool where
  delegate call :=
    if call.source = ⟨server "leaf", qStringLiteral "/a"⟩ then
      .success true
    else
      .failure notCovered.error
  resolvePathTargets _ asked :=
    if asked = qStringLiteral "/docs/a" then
      .success [{ connection := server "leaf", originalPathPrefix := qStringLiteral "/docs"
                  targetPathPrefix := root }]
    else
      .success []

/-- A copy of `/docs/a` to `/b`. -/
def copied : List (Event (dfs TransferCall Bool)) × Result Bool × DfsCaches :=
  (copy asciiTables (server "root") (qStringLiteral "/docs/a") (server "root")
    (qStringLiteral "/b")).serve linkedServers.handler {}

end LinkedCopy

set_option maxRecDepth 10000 in
open LinkedCopy NestedReferral in
/-- The first call fails, the second copies from the leaf. -/
theorem transfer_tries_docs :
    Tries asciiTables .copy copied.2.1 (transferCalls copied.1) ∧
      (transferCalls copied.1).length = 2 ∧ copied.2.1.ok = true := by
  have hrun := Program.runs_serve linkedServers.handler
    (copy asciiTables (server "root") (qStringLiteral "/docs/a") (server "root")
      (qStringLiteral "/b")) {}
  exact ⟨transfer_tries asciiTables .copy _ _ _ _ _ _ hrun, rfl, rfl⟩

end SmbBrowser.Dfs
