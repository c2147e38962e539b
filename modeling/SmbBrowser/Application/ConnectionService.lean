import SmbBrowser.Storage.Repositories

/-!
# The connection service

`ConnectionService` (application/ConnectionService.cpp) keeps a connection in the
repository and its secret in the credential store.  `ServiceCall` is one call of its
three operations that write.

Results:
* `meets_create`, `meets_update`, `meets_remove`: what a call does to the stores,
  whichever of its calls fails (`Creates`, `Updates`, `Removes`);
* `meets_perform`: the same for a `ServiceCall`.
-/

namespace SmbBrowser.Application

open SmbBrowser.Base SmbBrowser.Qt SmbBrowser.Core SmbBrowser.Storage

namespace ConnectionService

/-- `missingCredentialError` (ConnectionService.cpp:9). -/
def missingCredentialError : AppError :=
  .fromCode .credentialNotFound .credentials
    (qStringLiteral "Password authentication requires a credential secret.")

variable (sanitize : QString → QString)

/-- The end of `create`: a connection that is not added loses its secret again. -/
def addOrCleanup (connection : Connection) : StoreProgram (Result Connection) := do
  let shouldCleanupCredential : Bool :=
    connection.authType = .password ∧ ¬connection.credentialRef.isEmpty
  let added ← ConnectionRepository.add sanitize connection
  if !added.ok && shouldCleanupCredential then
    let _ ← removeCredential connection.credentialRef
    return added
  else
    return added

/-- `ConnectionService::create` (ConnectionService.cpp:25). -/
def create (connection : Connection) (secret : Option QByteArray) :
    StoreProgram (Result Connection) := do
  let connection ← ConnectionRepository.withId connection
  if connection.authType = .password then
    match secret with
    | none => return .failure missingCredentialError
    | some secret =>
      let saved ← saveCredential connection.id secret
      if saved.ok then addOrCleanup sanitize { connection with credentialRef := saved.value }
      else return .failure saved.error
  else
    addOrCleanup sanitize { connection with credentialRef := [] }

/-- `ConnectionService::credentialIsShared` (ConnectionService.cpp:144). -/
def credentialIsShared (credentialRef excludingConnectionId : QString) : StoreProgram Bool := do
  let connections ← ConnectionRepository.list
  if connections.ok then
    return connections.value.any fun connection =>
      connection.id ≠ excludingConnectionId && connection.credentialRef = credentialRef
  else
    return true

/-- Whether a reference is there and no other connection has it. -/
def isOwned (credentialRef connectionId : QString) : StoreProgram Bool := do
  if credentialRef.isEmpty then
    return false
  else
    let shared ← credentialIsShared credentialRef connectionId
    return !shared

/-- The part of `update` that changes the credential store: the connection to keep, or
    the error that ends the call. -/
def settleCredential (connection : Connection) (secret : Option QByteArray)
    (previousCredentialRef : QString) : StoreProgram (Except AppError Connection) := do
  if connection.authType = .password then
    match secret with
    | some secret =>
      if connection.credentialRef.isEmpty then
        let saved ← saveCredential connection.id secret
        if saved.ok then return .ok { connection with credentialRef := saved.value }
        else return .error saved.error
      else
        let updated ← updateCredential connection.credentialRef secret
        if updated.ok then return .ok connection else return .error updated.error
    | none =>
      if connection.credentialRef.isEmpty then return .error missingCredentialError
      else return .ok connection
  else
    let owned ← isOwned previousCredentialRef connection.id
    if owned then
      let removed ← removeCredential previousCredentialRef
      if removed.ok then return .ok { connection with credentialRef := [] }
      else return .error removed.error
    else
      return .ok { connection with credentialRef := [] }

/-- `ConnectionService::update` (ConnectionService.cpp:60). -/
def update (connection : Connection) (secret : Option QByteArray) :
    StoreProgram (Result Connection) := do
  let existing ← ConnectionRepository.getById connection.id
  if existing.ok then
    let settled ← settleCredential connection secret existing.value.credentialRef
    match settled with
    | .ok connection => ConnectionRepository.update sanitize connection
    | .error error => return .failure error
  else
    return .failure existing.error

/-- `ConnectionService::remove` (ConnectionService.cpp:105). -/
def remove (connectionId : QString) : StoreProgram (Result Bool) := do
  let existing ← ConnectionRepository.getById connectionId
  if existing.ok then
    let credentialRef := existing.value.credentialRef
    let shouldRemoveCredential ← isOwned credentialRef connectionId
    let removedConnection ← ConnectionRepository.remove connectionId
    if !removedConnection.ok then
      return removedConnection
    else if !removedConnection.value then
      return .success false
    else if shouldRemoveCredential then
      let removedCredential ← removeCredential credentialRef
      if removedCredential.ok then return .success true
      else return .failure removedCredential.error
    else
      return .success true
  else
    return .failure existing.error

/-! ## Calls -/

/-- A call of an operation that writes. -/
inductive ServiceCall where
  | create (connection : Connection) (secret : Option QByteArray)
  | update (connection : Connection) (secret : Option QByteArray)
  | remove (connectionId : QString)

/-- The call, and the error of its result. -/
def ServiceCall.perform : ServiceCall → StoreProgram AppError
  | .create connection secret => do
    let result ← ConnectionService.create sanitize connection secret
    return result.error
  | .update connection secret => do
    let result ← ConnectionService.update sanitize connection secret
    return result.error
  | .remove connectionId => do
    let result ← ConnectionService.remove connectionId
    return result.error

/-! ## What the calls do -/

/-- Another stored connection has the reference. -/
def Shared (s : Stores) (credentialRef connectionId : QString) : Prop :=
  ∃ id connection, s.connections id = some connection ∧ id ≠ connectionId ∧
    connection.credentialRef = credentialRef

@[simp] theorem ok_failure {T : Type} [Inhabited T] (error : AppError) :
    (Result.failure error : Result T).ok = !error.hasError := rfl

theorem hasError_of_not_ok {T : Type} {r : Result T} (h : r.ok = false) :
    r.error.hasError = true := by
  rwa [Result.ok, Bool.not_eq_false'] at h

variable {sanitize} {readings : ℤ → Prop} {env : Environment} {α : Type}

/-- How `create` ends. -/
inductive Creates (connection : Connection) (secret : Option QByteArray) (env : Environment) :
    Result Connection → Environment → Prop where
  /-- No secret is given, and nothing is asked. -/
  | refused {r} : r.ok = false → Creates connection secret env r env
  /-- One call fails; a secret that was saved is removed again. -/
  | failed {r op} : r.ok = false → Creates connection secret env r (env.fail op)
  /-- The insertion fails, and then the removal of the secret. -/
  | leftBehind {r op op' ref value} : r.ok = false → env.state.credentials ref = none →
      Creates connection secret env r
        (((env.set (env.state.setCredential ref value)).fail op).fail op')
  | added {r row ref value} (hid : row.id ≠ []) : r.ok = true →
      connection.authType = .password → secret = some value → ref ≠ [] →
      env.state.credentials ref = none → env.state.connections row.id = none →
      row.authType = .password → row.credentialRef = ref →
      Creates connection secret env r
        (env.set ((env.state.setCredential ref value).setConnection row hid))
  | addedOpen {r row} (hid : row.id ≠ []) : r.ok = true →
      connection.authType ≠ .password → env.state.connections row.id = none →
      row.authType ≠ .password → row.credentialRef = [] →
      Creates connection secret env r (env.set (env.state.setConnection row hid))

theorem meets_addOrCleanup_password {connection : Connection} {secret : Option QByteArray}
    {ref : QString} {value : QByteArray} {id : QString} (hpassword : connection.authType = .password)
    (hsecret : secret = some value) (href : ref ≠ []) (hnew : env.state.credentials ref = none) :
    Meets (keeping readings) (addOrCleanup sanitize { connection with id, credentialRef := ref })
      (Creates connection secret env) (env.set (env.state.setCredential ref value)) := by
  have hcleanup : (decide (connection.authType = .password ∧ ¬ref.isEmpty)) = true := by
    simp [hpassword, href]
  unfold addOrCleanup
  refine meets_bind.2 (ConnectionRepository.meets_add ?_ ?_)
  · intro row text
    simp only [ok_storageError, hcleanup, Bool.not_false, Bool.and_self, if_true]
    refine meets_removeCredential ?_ ?_
    · intro removed _
      exact .leftBehind (ok_storageError text) hnew
    · intro removed _
      have hundone : ((env.set (env.state.setCredential ref value)).fail
          (.insertConnection row)).set
            ((env.state.setCredential ref value).dropCredential ref) =
          env.fail (.insertConnection row) := by
        rw [Stores.drop_setCredential _ _ _ hnew]
        rfl
      have hfailed : Creates connection secret env (.failure (storageError text))
          (env.fail (.insertConnection row)) := .failed (ok_storageError text)
      exact hundone ▸ hfailed
  · intro now added _ hadded hfree hid
    simp only [ok_success, Bool.not_true, Bool.false_and, Bool.false_eq_true, if_false]
    have hrow := hadded.rest
    refine .added _ (ok_success _) hpassword hsecret href hnew hfree ?_ ?_
    · rw [ConnectionRepository.bindConnection_authType, hrow, hpassword]
    · rw [ConnectionRepository.bindConnection_credentialRef, hrow]

theorem meets_addOrCleanup_open {connection : Connection} {secret : Option QByteArray}
    {id : QString} (hopen : connection.authType ≠ .password) :
    Meets (keeping readings) (addOrCleanup sanitize { connection with id, credentialRef := [] })
      (Creates connection secret env) env := by
  have hcleanup : (decide (connection.authType = .password ∧ ¬([] : QString).isEmpty)) = false := by
    simp [hopen]
  unfold addOrCleanup
  refine meets_bind.2 (ConnectionRepository.meets_add ?_ ?_)
  · intro row text
    simp only [hcleanup, Bool.and_false, Bool.false_eq_true, if_false]
    exact .failed (ok_storageError text)
  · intro now added _ hadded hfree hid
    simp only [hcleanup, Bool.and_false, Bool.false_eq_true, if_false]
    have hrow := hadded.rest
    refine .addedOpen _ (ok_success _) hopen hfree ?_ ?_
    · rw [ConnectionRepository.bindConnection_authType, hrow]
      exact hopen
    · rw [ConnectionRepository.bindConnection_credentialRef, hrow]

theorem meets_create {connection : Connection} {secret : Option QByteArray} :
    Meets (keeping readings) (create sanitize connection secret)
      (Creates connection secret env) env := by
  unfold create
  refine ConnectionRepository.meets_withId fun id _ _ => ?_
  by_cases hpassword : connection.authType = .password
  · rw [if_pos hpassword]
    cases secret with
    | none => exact .refused rfl
    | some value =>
      refine meets_saveCredential ?_ ?_
      · intro saved hsaved
        simp only [hsaved, Bool.false_eq_true, if_false]
        refine .failed ?_
        rw [ok_failure, hasError_of_not_ok hsaved, Bool.not_true]
      · intro saved hsaved href hnew
        simp only [hsaved, if_true]
        exact meets_addOrCleanup_password hpassword rfl href hnew
  · rw [if_neg hpassword]
    exact meets_addOrCleanup_open hpassword

theorem meets_credentialIsShared {ref id : QString} {f : Bool → StoreProgram α}
    {Q : α → Environment → Prop}
    (hfail : Meets (keeping readings) (f true) Q (env.fail .selectConnections))
    (hok : ∀ shared : Bool, (shared = true ↔ Shared env.state ref id) →
      Meets (keeping readings) (f shared) Q env) :
    Meets (keeping readings) (credentialIsShared ref id >>= f) Q env := by
  unfold credentialIsShared
  refine meets_bind.2 (meets_bind.2 (ConnectionRepository.meets_list ?_ ?_))
  · intro text
    exact hfail
  · intro rows hrows
    refine hok _ ?_
    simp only [Result.success, List.any_eq_true, Bool.and_eq_true, decide_eq_true_eq]
    constructor
    · rintro ⟨connection, hmem, hne, href⟩
      exact ⟨connection.id, connection, (hrows connection).1 hmem, hne, href⟩
    · rintro ⟨id', connection, hfound, hne, href⟩
      have hid := env.state.connection_id id' connection hfound
      refine ⟨connection, (hrows connection).2 (hid ▸ hfound), ?_, href⟩
      rw [hid]
      exact hne

theorem meets_isOwned {ref id : QString} {f : Bool → StoreProgram α} {Q : α → Environment → Prop}
    (hno : ref = [] ∨ Shared env.state ref id → Meets (keeping readings) (f false) Q env)
    (hunlisted : ref ≠ [] → Meets (keeping readings) (f false) Q (env.fail .selectConnections))
    (hyes : ref ≠ [] → ¬Shared env.state ref id → Meets (keeping readings) (f true) Q env) :
    Meets (keeping readings) (isOwned ref id >>= f) Q env := by
  unfold isOwned
  by_cases hempty : ref = []
  · rw [hempty]
    exact hno (Or.inl hempty)
  have hnonempty : ref.isEmpty = false := by
    rw [Bool.eq_false_iff]
    exact fun h => hempty (List.isEmpty_iff.1 h)
  simp only [hnonempty, Bool.false_eq_true, if_false, Program.bind_eq, Program.bind_assoc]
  refine meets_credentialIsShared (hunlisted hempty) ?_
  intro shared hshared
  cases shared with
  | true => exact hno (Or.inr (hshared.1 rfl))
  | false => exact hyes hempty fun h => absurd (hshared.2 h) Bool.false_ne_true

/-- How `settleCredential` ends, for a stored connection with `previousCredentialRef`. -/
inductive Settles (connection : Connection) (secret : Option QByteArray)
    (previousCredentialRef : QString) (env : Environment) :
    Except AppError Connection → Environment → Prop where
  | refused {error} : error.hasError = true →
      Settles connection secret previousCredentialRef env (.error error) env
  | failed {error op} : error.hasError = true → (∀ row, op ≠ .updateConnection row) →
      Settles connection secret previousCredentialRef env (.error error) (env.fail op)
  | saved {ref value} : connection.authType = .password → secret = some value →
      connection.credentialRef = [] → ref ≠ [] → env.state.credentials ref = none →
      Settles connection secret previousCredentialRef env
        (.ok { connection with credentialRef := ref }) (env.set (env.state.setCredential ref value))
  | replaced {value} : connection.authType = .password → secret = some value →
      connection.credentialRef ≠ [] →
      Settles connection secret previousCredentialRef env (.ok connection)
        (env.set (env.state.setCredential connection.credentialRef value))
  | kept : connection.authType = .password → secret = none → connection.credentialRef ≠ [] →
      Settles connection secret previousCredentialRef env (.ok connection) env
  | dropped : connection.authType ≠ .password → previousCredentialRef ≠ [] →
      ¬Shared env.state previousCredentialRef connection.id →
      Settles connection secret previousCredentialRef env
        (.ok { connection with credentialRef := [] })
        (env.set (env.state.dropCredential previousCredentialRef))
  | spared : connection.authType ≠ .password →
      previousCredentialRef = [] ∨ Shared env.state previousCredentialRef connection.id →
      Settles connection secret previousCredentialRef env
        (.ok { connection with credentialRef := [] }) env
  /-- The connections could not be listed, and the secret stays. -/
  | unlisted : connection.authType ≠ .password → previousCredentialRef ≠ [] →
      Settles connection secret previousCredentialRef env
        (.ok { connection with credentialRef := [] }) (env.fail .selectConnections)

theorem meets_settleCredential {connection : Connection} {secret : Option QByteArray}
    {previousCredentialRef : QString} :
    Meets (keeping readings) (settleCredential connection secret previousCredentialRef)
      (Settles connection secret previousCredentialRef env) env := by
  unfold settleCredential
  by_cases hpassword : connection.authType = .password
  · rw [if_pos hpassword]
    cases secret with
    | none =>
      by_cases hempty : connection.credentialRef = []
      · rw [if_pos (List.isEmpty_iff.2 hempty)]
        exact .refused rfl
      · rw [if_neg fun h => hempty (List.isEmpty_iff.1 h)]
        exact .kept hpassword rfl hempty
    | some value =>
      by_cases hempty : connection.credentialRef = []
      · simp only [List.isEmpty_iff.2 hempty, if_true]
        refine meets_saveCredential ?_ ?_
        · intro saved hsaved
          simp only [hsaved, Bool.false_eq_true, if_false]
          exact .failed (hasError_of_not_ok hsaved) fun row => StoreOp.noConfusion
        · intro saved hsaved href hnew
          simp only [hsaved, if_true]
          exact .saved hpassword rfl hempty href hnew
      · simp only [if_neg fun h => hempty (List.isEmpty_iff.1 h)]
        refine meets_updateCredential ?_ ?_
        · intro updated hupdated
          simp only [hupdated, Bool.false_eq_true, if_false]
          exact .failed (hasError_of_not_ok hupdated) fun row => StoreOp.noConfusion
        · intro updated hupdated
          simp only [hupdated, if_true]
          exact .replaced hpassword rfl hempty
  · rw [if_neg hpassword]
    refine meets_isOwned ?_ ?_ ?_
    · intro hspared
      exact .spared hpassword hspared
    · intro hprevious
      exact .unlisted hpassword hprevious
    · intro hprevious hshared
      refine meets_removeCredential ?_ ?_
      · intro removed hremoved
        simp only [hremoved, Bool.false_eq_true, if_false]
        exact .failed (hasError_of_not_ok hremoved) fun row => StoreOp.noConfusion
      · intro removed hremoved
        simp only [hremoved, if_true]
        exact .dropped hpassword hprevious hshared

theorem Settles.id {connection settled : Connection} {secret : Option QByteArray}
    {previous : QString} {env' : Environment}
    (h : Settles connection secret previous env (.ok settled) env') :
    settled.id = connection.id := by
  cases h <;> rfl

theorem Settles.connections {connection : Connection} {secret : Option QByteArray}
    {previous : QString} {r : Except AppError Connection} {env' : Environment}
    (h : Settles connection secret previous env r env') :
    env'.state.connections = env.state.connections := by
  cases h <;> rfl

/-- How `update` ends. -/
inductive Updates (connection : Connection) (secret : Option QByteArray) (env : Environment) :
    Result Connection → Environment → Prop where
  /-- The connection is not stored, or its password is missing. -/
  | refused {r} : r.ok = false → Updates connection secret env r env
  /-- A call before the update of the row fails. -/
  | failed {r op} : r.ok = false → (∀ row, op ≠ .updateConnection row) →
      Updates connection secret env r (env.fail op)
  /-- The secret is settled, and the update of the row fails. -/
  | lost {r existing settled mid row} : r.ok = false →
      env.state.connections connection.id = some existing →
      Settles connection secret existing.credentialRef env (.ok settled) mid →
      Updates connection secret env r (mid.fail (.updateConnection row))
  | stored {r existing settled mid row} (hid : row.id ≠ []) : r.ok = true →
      env.state.connections connection.id = some existing →
      Settles connection secret existing.credentialRef env (.ok settled) mid →
      row.id = connection.id → row.authType = settled.authType →
      row.credentialRef = settled.credentialRef →
      Updates connection secret env r (mid.set (mid.state.setConnection row hid))

theorem meets_update {connection : Connection} {secret : Option QByteArray} :
    Meets (keeping readings) (update sanitize connection secret)
      (Updates connection secret env) env := by
  unfold update
  refine meets_bind.2 (ConnectionRepository.meets_getById ?_ ?_ ?_)
  · intro text
    exact .failed (ok_storageError text) fun row => StoreOp.noConfusion
  · intro _
    exact .refused (ok_connectionNotFound _)
  · intro existing hfound
    simp only [ok_success, if_true]
    refine meets_settleCredential.bind ?_
    intro settled mid hsettled
    cases settled with
    | error error =>
      cases hsettled with
      | refused herror => exact .refused (by rw [ok_failure, herror, Bool.not_true])
      | failed herror hop => exact .failed (by rw [ok_failure, herror, Bool.not_true]) hop
    | ok settled =>
      have hid := hsettled.id
      refine ConnectionRepository.meets_update ?_ ?_ ?_
      · intro row text
        exact .lost (ok_storageError text) hfound hsettled
      · intro hmissing
        rw [hsettled.connections, hid, hfound] at hmissing
        exact absurd hmissing (Option.some_ne_none existing)
      · rintro now updated _ rfl _ hne
        exact .stored _ (ok_success _) hfound hsettled hid rfl rfl

/-- How `remove` ends. -/
inductive Removes (connectionId : QString) (env : Environment) :
    Result Bool → Environment → Prop where
  | missing {r} : r.ok = false → Removes connectionId env r env
  | failed {r op} : r.ok = false → (∀ ref, op ≠ .removeCredential ref) →
      Removes connectionId env r (env.fail op)
  /-- Both the listing and the deletion fail. -/
  | failedTwice {r op op'} : r.ok = false → Removes connectionId env r ((env.fail op).fail op')
  | removed {r existing} : r.ok = true → env.state.connections connectionId = some existing →
      existing.credentialRef = [] ∨ Shared env.state existing.credentialRef connectionId →
      Removes connectionId env r (env.set (env.state.removeConnection connectionId))
  /-- The connections could not be listed, and the secret stays. -/
  | unlisted {r existing} : r.ok = true →
      env.state.connections connectionId = some existing → existing.credentialRef ≠ [] →
      Removes connectionId env r
        ((env.fail .selectConnections).set (env.state.removeConnection connectionId))
  | dropped {r existing} : r.ok = true → env.state.connections connectionId = some existing →
      existing.credentialRef ≠ [] → ¬Shared env.state existing.credentialRef connectionId →
      Removes connectionId env r
        (env.set ((env.state.removeConnection connectionId).dropCredential existing.credentialRef))
  /-- The connection is deleted, and the removal of its secret fails. -/
  | leftBehind {r existing} : r.ok = false →
      env.state.connections connectionId = some existing →
      Removes connectionId env r
        ((env.set (env.state.removeConnection connectionId)).fail
          (.removeCredential existing.credentialRef))

theorem meets_remove {connectionId : QString} :
    Meets (keeping readings) (remove connectionId) (Removes connectionId env) env := by
  unfold remove
  refine meets_bind.2 (ConnectionRepository.meets_getById ?_ ?_ ?_)
  · intro text
    exact .failed (ok_storageError text) fun row => StoreOp.noConfusion
  · intro _
    exact .missing (ok_connectionNotFound _)
  · intro existing hfound
    have hremoved : ∀ removed : Bool, (removed = true ↔ env.state.connections connectionId ≠ none) →
        removed = true := by
      intro removed h
      rw [h, hfound]
      exact Option.some_ne_none existing
    simp only [ok_success, if_true]
    refine meets_isOwned ?_ ?_ ?_
    · intro hspared
      refine meets_bind.2 (ConnectionRepository.meets_remove ?_ ?_)
      · intro text
        exact .failed (ok_storageError text) fun row => StoreOp.noConfusion
      · intro removed h
        obtain rfl := hremoved removed h
        exact .removed (ok_success true) hfound hspared
    · intro href
      refine meets_bind.2 (ConnectionRepository.meets_remove ?_ ?_)
      · intro text
        exact .failedTwice (ok_storageError text)
      · intro removed h
        obtain rfl := hremoved removed h
        exact .unlisted (ok_success true) hfound href
    · intro href hshared
      refine meets_bind.2 (ConnectionRepository.meets_remove ?_ ?_)
      · intro text
        exact .failed (ok_storageError text) fun row => StoreOp.noConfusion
      · intro removed h
        obtain rfl := hremoved removed h
        simp only [ok_success, Bool.not_true, Bool.false_eq_true, if_false, if_true]
        refine meets_removeCredential ?_ ?_
        · intro removedCredential hfailed
          simp only [hfailed, Bool.false_eq_true, if_false]
          refine .leftBehind ?_ hfound
          rw [ok_failure, hasError_of_not_ok hfailed, Bool.not_true]
        · intro removedCredential hok
          simp only [hok, if_true]
          exact .dropped (ok_success true) hfound href hshared

/-- How a call ends, by its operation. -/
def ServiceCall.Ends (env : Environment) : ServiceCall → AppError → Environment → Prop
  | .create connection secret, error, env' =>
    ∃ r, error = r.error ∧ Creates connection secret env r env'
  | .update connection secret, error, env' =>
    ∃ r, error = r.error ∧ Updates connection secret env r env'
  | .remove connectionId, error, env' =>
    ∃ r, error = r.error ∧ Removes connectionId env r env'

theorem meets_perform (call : ServiceCall) :
    Meets (keeping readings) (call.perform sanitize) (call.Ends env) env := by
  cases call with
  | create connection secret => exact meets_bind.2 (meets_create.mono fun r _ h => ⟨r, rfl, h⟩)
  | update connection secret => exact meets_bind.2 (meets_update.mono fun r _ h => ⟨r, rfl, h⟩)
  | remove connectionId => exact meets_bind.2 (meets_remove.mono fun r _ h => ⟨r, rfl, h⟩)

theorem hasError_iff {T : Type} {r : Result T} : r.error.hasError = true ↔ r.ok = false := by
  rw [Result.ok, Bool.not_eq_false']

end ConnectionService

end SmbBrowser.Application
