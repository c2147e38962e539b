import Mathlib.Logic.Function.Basic
import SmbBrowser.Base.Program
import SmbBrowser.Core.Types
import SmbBrowser.Qt.Json

/-!
# Repositories and the stores behind them

`ConnectionRepository` and `ConnectionGroupRepository`
(infrastructure/storage/*.cpp) run one SQL statement for each call; a
`CredentialStore` (core/CredentialStore.h) keeps secrets by reference.  The database,
the credential store, the clock and the generator of UUIDs are the environment.  A
row holds the fields that `bindConnection` binds.

Results:
* `Stores`: what the environment keeps, and the contract of its calls, each of which
  succeeds with its effect or fails with none;
* the specifications of the repository calls against that contract.
-/

namespace SmbBrowser.Storage

open SmbBrowser.Base SmbBrowser.Qt SmbBrowser.Core

/-! ## The environment -/

/-- What a service asks of the stores. -/
inductive StoreOp where
  | insertConnection (row : Connection)
  | selectConnection (id : QString)
  | selectConnections
  | updateConnection (row : Connection)
  | deleteConnection (id : QString)
  | insertGroup (row : ConnectionGroup)
  | selectGroups
  | updateGroup (row : ConnectionGroup)
  | saveCredential (ownerId : QString) (secret : QByteArray)
  | loadCredential (credentialRef : QString)
  | updateCredential (credentialRef : QString) (secret : QByteArray)
  | removeCredential (credentialRef : QString)
  | currentDateTimeUtc
  | createUuid
  | randomBytes (size : ℕ)

/-- A statement answers the text of its error, or rows, or how many rows it affected. -/
def stores : Interface where
  Op := StoreOp
  Ans
    | .insertConnection _ => Except QString Unit
    | .selectConnection _ => Except QString (Option Connection)
    | .selectConnections => Except QString (List Connection)
    | .updateConnection _ => Except QString ℕ
    | .deleteConnection _ => Except QString ℕ
    | .insertGroup _ => Except QString Unit
    | .selectGroups => Except QString (List ConnectionGroup)
    | .updateGroup _ => Except QString ℕ
    | .saveCredential _ _ => Result QString
    | .loadCredential _ => Result QByteArray
    | .updateCredential _ _ => Result Bool
    | .removeCredential _ => Result Bool
    | .currentDateTimeUtc => ℤ
    | .createUuid => QString
    | .randomBytes _ => QByteArray

/-- A program over the stores. -/
abbrev StoreProgram : Type → Type := Program stores

def currentDateTimeUtc : StoreProgram ℤ := Program.perform (I := stores) .currentDateTimeUtc

def createUuid : StoreProgram QString := Program.perform (I := stores) .createUuid

/-- `CredentialStore::save`. -/
def saveCredential (ownerId : QString) (secret : QByteArray) : StoreProgram (Result QString) :=
  Program.perform (I := stores) (.saveCredential ownerId secret)

/-- `CredentialStore::load`. -/
def loadCredential (credentialRef : QString) : StoreProgram (Result QByteArray) :=
  Program.perform (I := stores) (.loadCredential credentialRef)

/-- `CredentialStore::update`. -/
def updateCredential (credentialRef : QString) (secret : QByteArray) : StoreProgram (Result Bool) :=
  Program.perform (I := stores) (.updateCredential credentialRef secret)

/-- `CredentialStore::remove`. -/
def removeCredential (credentialRef : QString) : StoreProgram (Result Bool) :=
  Program.perform (I := stores) (.removeCredential credentialRef)

/-! ## Connections -/

/-- `storageError` (ConnectionRepository.cpp:17). -/
def storageError (details : QString) : AppError :=
  .fromCode .storageError .storage details

namespace ConnectionRepository

/-- `notFoundError` (ConnectionRepository.cpp:23). -/
def notFoundError (id : QString) : AppError :=
  .fromCode .fileNotFound .storage (qStringLiteral "Connection was not found: " ++ id)

variable (sanitize : QString → QString)

/-- The row that `bindConnection` binds (ConnectionRepository.cpp:164); `sanitize` is
    `LogSanitizer::sanitize`. -/
def bindConnection (connection : Connection) : Connection :=
  { connection with lastErrorMessage := sanitize connection.lastErrorMessage }

section

variable (connection : Connection)

@[simp] theorem bindConnection_id : (bindConnection sanitize connection).id = connection.id := rfl
@[simp] theorem bindConnection_authType :
    (bindConnection sanitize connection).authType = connection.authType := rfl
@[simp] theorem bindConnection_credentialRef :
    (bindConnection sanitize connection).credentialRef = connection.credentialRef := rfl

end

/-- An empty id is replaced by a UUID. -/
def withId (connection : Connection) : StoreProgram Connection :=
  if connection.id.isEmpty then do
    let id ← createUuid
    return { connection with id }
  else
    return connection

/-- `ConnectionRepository::add` (ConnectionRepository.cpp:209). -/
def add (connection : Connection) : StoreProgram (Result Connection) := do
  let connection ← withId connection
  let now ← currentDateTimeUtc
  let createdAt := if connection.createdAt.isNone then some now else connection.createdAt
  let connection := { connection with createdAt, updatedAt := some now }
  let executed : Except QString Unit ←
    Program.perform (I := stores) (.insertConnection (bindConnection sanitize connection))
  match executed with
  | .error text => return .failure (storageError text)
  | .ok _ => return .success connection

/-- `ConnectionRepository::getById` (ConnectionRepository.cpp:246). -/
def getById (id : QString) : StoreProgram (Result Connection) := do
  let executed : Except QString (Option Connection) ←
    Program.perform (I := stores) (.selectConnection id)
  match executed with
  | .error text => return .failure (storageError text)
  | .ok none => return .failure (notFoundError id)
  | .ok (some connection) => return .success connection

/-- `ConnectionRepository::list` (ConnectionRepository.cpp:264). -/
def list : StoreProgram (Result (List Connection)) := do
  let executed : Except QString (List Connection) ←
    Program.perform (I := stores) .selectConnections
  match executed with
  | .error text => return .failure (storageError text)
  | .ok connections => return .success connections

/-- `ConnectionRepository::update` (ConnectionRepository.cpp:283). -/
def update (connection : Connection) : StoreProgram (Result Connection) :=
  if connection.id.isEmpty then
    return .failure (notFoundError connection.id)
  else do
    let now ← currentDateTimeUtc
    let connection := { connection with updatedAt := some now }
    let executed : Except QString ℕ ←
      Program.perform (I := stores) (.updateConnection (bindConnection sanitize connection))
    match executed with
    | .error text => return .failure (storageError text)
    | .ok 0 => return .failure (notFoundError connection.id)
    | .ok (_ + 1) => return .success connection

/-- `ConnectionRepository::remove` (ConnectionRepository.cpp:321). -/
def remove (id : QString) : StoreProgram (Result Bool) := do
  let executed : Except QString ℕ ← Program.perform (I := stores) (.deleteConnection id)
  match executed with
  | .error text => return .failure (storageError text)
  | .ok affected => return .success (0 < affected)

end ConnectionRepository

/-! ## Groups -/

namespace ConnectionGroupRepository

/-- `notFoundError` (ConnectionGroupRepository.cpp:20). -/
def notFoundError (id : QString) : AppError :=
  .fromCode .fileNotFound .storage (qStringLiteral "Connection group was not found: " ++ id)

/-- An empty id is replaced by a UUID. -/
def withId (group : ConnectionGroup) : StoreProgram ConnectionGroup :=
  if group.id.isEmpty then do
    let id ← createUuid
    return { group with id }
  else
    return group

/-- `ConnectionGroupRepository::add` (ConnectionGroupRepository.cpp:75). -/
def add (group : ConnectionGroup) : StoreProgram (Result ConnectionGroup) := do
  let group ← withId group
  let now ← currentDateTimeUtc
  let createdAt := if group.createdAt.isNone then some now else group.createdAt
  let group := { group with createdAt, updatedAt := some now }
  let executed : Except QString Unit ← Program.perform (I := stores) (.insertGroup group)
  match executed with
  | .error text => return .failure (storageError text)
  | .ok _ => return .success group

/-- `ConnectionGroupRepository::list` (ConnectionGroupRepository.cpp:120). -/
def list : StoreProgram (Result (List ConnectionGroup)) := do
  let executed : Except QString (List ConnectionGroup) ←
    Program.perform (I := stores) .selectGroups
  match executed with
  | .error text => return .failure (storageError text)
  | .ok groups => return .success groups

/-- `ConnectionGroupRepository::update` (ConnectionGroupRepository.cpp:138). -/
def update (group : ConnectionGroup) : StoreProgram (Result ConnectionGroup) :=
  if group.id.isEmpty then
    return .failure (notFoundError group.id)
  else do
    let now ← currentDateTimeUtc
    let group := { group with updatedAt := some now }
    let executed : Except QString ℕ ← Program.perform (I := stores) (.updateGroup group)
    match executed with
    | .error text => return .failure (storageError text)
    | .ok 0 => return .failure (notFoundError group.id)
    | .ok (_ + 1) => return .success group

end ConnectionGroupRepository

/-! ## The contract of the stores -/

/-- What the stores keep: rows under their ids, which are not empty, and secrets under
    their references. -/
@[ext] structure Stores where
  connections : QString → Option Connection
  groups : QString → Option ConnectionGroup
  credentials : QString → Option QByteArray
  connection_id : ∀ id connection, connections id = some connection → connection.id = id
  connection_id_ne : connections [] = none
  group_id : ∀ id group, groups id = some group → group.id = id

namespace Stores

theorem update_id {Row : Type} {rows : QString → Option Row} {rowId : Row → QString}
    (hrows : ∀ id row, rows id = some row → rowId row = id) {id : QString} {row : Option Row}
    (hrow : ∀ r, row = some r → rowId r = id) (id' : QString) (row' : Row)
    (h : Function.update rows id row id' = some row') : rowId row' = id' := by
  by_cases hid : id' = id
  · subst hid
    rw [Function.update_self] at h
    exact hrow row' h
  · rw [Function.update_of_ne hid] at h
    exact hrows id' row' h

/-- Stores that keep nothing. -/
def empty : Stores where
  connections _ := none
  groups _ := none
  credentials _ := none
  connection_id _ _ h := by cases h
  connection_id_ne := rfl
  group_id _ _ h := by cases h

def setConnection (s : Stores) (row : Connection) (hid : row.id ≠ []) : Stores :=
  { s with
    connections := Function.update s.connections row.id (some row)
    connection_id := update_id s.connection_id fun r h => by cases h; rfl
    connection_id_ne := by rw [Function.update_of_ne hid.symm, s.connection_id_ne] }

def removeConnection (s : Stores) (id : QString) : Stores :=
  { s with
    connections := Function.update s.connections id none
    connection_id := update_id s.connection_id fun r h => by cases h
    connection_id_ne := by
      by_cases hid : [] = id
      · rw [← hid, Function.update_self]
      · rw [Function.update_of_ne hid, s.connection_id_ne] }

def setGroup (s : Stores) (row : ConnectionGroup) : Stores :=
  { s with
    groups := Function.update s.groups row.id (some row)
    group_id := update_id s.group_id fun r h => by cases h; rfl }

def setCredential (s : Stores) (credentialRef : QString) (secret : QByteArray) : Stores :=
  { s with credentials := Function.update s.credentials credentialRef (some secret) }

def dropCredential (s : Stores) (credentialRef : QString) : Stores :=
  { s with credentials := Function.update s.credentials credentialRef none }

section

variable (s : Stores) (row : Connection) (group : ConnectionGroup) (id ref : QString)
  (secret : QByteArray) (hid : row.id ≠ [])

@[simp] theorem setConnection_connections :
    (s.setConnection row hid).connections = Function.update s.connections row.id (some row) := rfl
@[simp] theorem setConnection_groups : (s.setConnection row hid).groups = s.groups := rfl
@[simp] theorem setConnection_credentials :
    (s.setConnection row hid).credentials = s.credentials := rfl
@[simp] theorem removeConnection_connections :
    (s.removeConnection id).connections = Function.update s.connections id none := rfl
@[simp] theorem removeConnection_groups : (s.removeConnection id).groups = s.groups := rfl
@[simp] theorem removeConnection_credentials :
    (s.removeConnection id).credentials = s.credentials := rfl
@[simp] theorem setGroup_connections : (s.setGroup group).connections = s.connections := rfl
@[simp] theorem setGroup_groups :
    (s.setGroup group).groups = Function.update s.groups group.id (some group) := rfl
@[simp] theorem setGroup_credentials : (s.setGroup group).credentials = s.credentials := rfl
@[simp] theorem setCredential_connections :
    (s.setCredential ref secret).connections = s.connections := rfl
@[simp] theorem setCredential_groups : (s.setCredential ref secret).groups = s.groups := rfl
@[simp] theorem setCredential_credentials :
    (s.setCredential ref secret).credentials =
      Function.update s.credentials ref (some secret) := rfl
@[simp] theorem dropCredential_connections :
    (s.dropCredential ref).connections = s.connections := rfl
@[simp] theorem dropCredential_groups : (s.dropCredential ref).groups = s.groups := rfl
@[simp] theorem dropCredential_credentials :
    (s.dropCredential ref).credentials = Function.update s.credentials ref none := rfl

/-- A secret that is kept and dropped again leaves no trace. -/
theorem drop_setCredential (h : s.credentials ref = none) :
    (s.setCredential ref secret).dropCredential ref = s := by
  refine Stores.ext rfl rfl ?_
  rw [dropCredential_credentials, setCredential_credentials, Function.update_idem, ← h,
    Function.update_eq_self]

end

end Stores

/-- The stores, and the calls that have failed so far. -/
@[ext] structure Environment where
  state : Stores
  failures : List StoreOp := []

namespace Environment

/-- A call fails and has no effect. -/
def fail (env : Environment) (op : StoreOp) : Environment :=
  { env with failures := env.failures ++ [op] }

/-- A call changes the stores. -/
def set (env : Environment) (state : Stores) : Environment := { env with state }

section

variable (env : Environment) (op : StoreOp) (s : Stores)

@[simp] theorem fail_state : (env.fail op).state = env.state := rfl
@[simp] theorem fail_failures : (env.fail op).failures = env.failures ++ [op] := rfl
@[simp] theorem set_state : (env.set s).state = s := rfl
@[simp] theorem set_failures : (env.set s).failures = env.failures := rfl

end

/-- A statement fails, or it answers `a` and the stores become what `effect a` allows. -/
def Executes {α : Type} (env : Environment) (op : StoreOp) (answer : Except QString α)
    (effect : α → Stores → Prop) (env' : Environment) : Prop :=
  match answer with
  | .error _ => env' = env.fail op
  | .ok a => ∃ s, effect a s ∧ env' = env.set s

/-- A call of the credential store fails, or it succeeds with its effect. -/
def Keeps {T : Type} (env : Environment) (op : StoreOp) (answer : Result T)
    (effect : T → Stores → Prop) (env' : Environment) : Prop :=
  if answer.ok then ∃ s, effect answer.value s ∧ env' = env.set s else env' = env.fail op

/-- How the environment can answer; `readings` are those of the clock.  A reference
    that `save` makes is new and not empty: it ends with a UUID. -/
def Answers (readings : ℤ → Prop) (env : Environment) : (op : StoreOp) → stores.Ans op → Environment → Prop
  | .insertConnection row, answer, env' =>
    env.Executes (.insertConnection row) answer (fun _ s =>
      env.state.connections row.id = none ∧
        ∃ hid : row.id ≠ [], s = env.state.setConnection row hid) env'
  | .selectConnection id, answer, env' =>
    env.Executes (.selectConnection id) answer (fun found s =>
      found = env.state.connections id ∧ s = env.state) env'
  | .selectConnections, answer, env' =>
    env.Executes .selectConnections answer (fun rows s =>
      (∀ row, row ∈ rows ↔ env.state.connections row.id = some row) ∧ s = env.state) env'
  | .updateConnection row, answer, env' =>
    env.Executes (.updateConnection row) answer (fun affected s =>
      if env.state.connections row.id = none then affected = 0 ∧ s = env.state
      else affected ≠ 0 ∧ ∃ hid : row.id ≠ [], s = env.state.setConnection row hid) env'
  | .deleteConnection id, answer, env' =>
    env.Executes (.deleteConnection id) answer (fun affected s =>
      (affected = 0 ↔ env.state.connections id = none) ∧
        s = env.state.removeConnection id) env'
  | .insertGroup row, answer, env' =>
    env.Executes (.insertGroup row) answer (fun _ s =>
      env.state.groups row.id = none ∧ s = env.state.setGroup row) env'
  | .selectGroups, answer, env' =>
    env.Executes .selectGroups answer (fun rows s =>
      (∀ row, row ∈ rows ↔ env.state.groups row.id = some row) ∧ s = env.state) env'
  | .updateGroup row, answer, env' =>
    env.Executes (.updateGroup row) answer (fun affected s =>
      if env.state.groups row.id = none then affected = 0 ∧ s = env.state
      else affected ≠ 0 ∧ s = env.state.setGroup row) env'
  | .saveCredential ownerId secret, answer, env' =>
    env.Keeps (.saveCredential ownerId secret) answer (fun ref s =>
      ref ≠ [] ∧ env.state.credentials ref = none ∧
        s = env.state.setCredential ref secret) env'
  | .loadCredential ref, answer, env' =>
    env.Keeps (.loadCredential ref) answer (fun secret s =>
      env.state.credentials ref = some secret ∧ s = env.state) env'
  | .updateCredential ref secret, answer, env' =>
    env.Keeps (.updateCredential ref secret) answer (fun _ s =>
      s = env.state.setCredential ref secret) env'
  | .removeCredential ref, answer, env' =>
    env.Keeps (.removeCredential ref) answer (fun _ s =>
      s = env.state.dropCredential ref) env'
  | .currentDateTimeUtc, (now : ℤ), env' => readings now ∧ env' = env
  | .createUuid, (id : QString), env' => id ≠ [] ∧ env' = env
  | .randomBytes size, (bytes : QByteArray), env' => bytes.length = size ∧ env' = env

end Environment

/-- The contract of the stores. -/
def keeping (readings : ℤ → Prop) : Contract stores Environment where
  allows _ _ := True
  step env e env' := env.Answers readings e.op e.ans env'

/-- The update of a row that is there. -/
theorem step_updateConnection {readings : ℤ → Prop} {env : Environment} {row : Connection} {n : ℕ}
    (hfound : env.state.connections row.id ≠ none) (hid : row.id ≠ []) :
    (keeping readings).step env ⟨.updateConnection row, (.ok (n + 1) : Except QString ℕ)⟩
      (env.set (env.state.setConnection row hid)) := by
  have hwritten : n + 1 ≠ 0 ∧
      ∃ hid : row.id ≠ [], env.state.setConnection row hid = env.state.setConnection row hid :=
    ⟨Nat.succ_ne_zero n, hid, rfl⟩
  exact ⟨_, Eq.mpr (if_neg hfound) hwritten, rfl⟩

/-! ## What the calls do -/

@[simp] theorem ok_success {T : Type} (value : T) : (Result.success value).ok = true := rfl

@[simp] theorem ok_storageError {T : Type} [Inhabited T] (text : QString) :
    (Result.failure (storageError text) : Result T).ok = false := rfl

@[simp] theorem ok_connectionNotFound {T : Type} [Inhabited T] (id : QString) :
    (Result.failure (ConnectionRepository.notFoundError id) : Result T).ok = false := rfl

@[simp] theorem ok_groupNotFound {T : Type} [Inhabited T] (id : QString) :
    (Result.failure (ConnectionGroupRepository.notFoundError id) : Result T).ok = false := rfl

section

variable {α : Type} {readings : ℤ → Prop} {env : Environment}

theorem meets_currentDateTimeUtc {f : ℤ → StoreProgram α} {Q : α → Environment → Prop}
    (h : ∀ now, readings now → Meets (keeping readings) (f now) Q env) :
    Meets (keeping readings) (currentDateTimeUtc >>= f) Q env := by
  refine ⟨trivial, ?_⟩
  rintro now env' ⟨hnow, rfl⟩
  exact h now hnow

theorem meets_createUuid {f : QString → StoreProgram α} {Q : α → Environment → Prop}
    (h : ∀ id, id ≠ [] → Meets (keeping readings) (f id) Q env) :
    Meets (keeping readings) (createUuid >>= f) Q env := by
  refine ⟨trivial, ?_⟩
  rintro id env' ⟨hid, rfl⟩
  exact h id hid

theorem Environment.Keeps.cases {env' : Environment} {op : StoreOp} {T : Type} {answer : Result T}
    {effect : T → Stores → Prop} (h : env.Keeps op answer effect env') :
    (answer.ok = false ∧ env' = env.fail op) ∨
      (answer.ok = true ∧ ∃ s, effect answer.value s ∧ env' = env.set s) := by
  unfold Keeps at h
  split at h
  · next hok => exact Or.inr ⟨hok, h⟩
  · next hok => exact Or.inl ⟨Bool.not_eq_true _ ▸ hok, h⟩

theorem meets_saveCredential {ownerId : QString} {secret : QByteArray}
    {f : Result QString → StoreProgram α} {Q : α → Environment → Prop}
    (hfail : ∀ saved, saved.ok = false →
      Meets (keeping readings) (f saved) Q (env.fail (.saveCredential ownerId secret)))
    (hok : ∀ saved, saved.ok = true → saved.value ≠ [] →
      env.state.credentials saved.value = none →
      Meets (keeping readings) (f saved) Q (env.set (env.state.setCredential saved.value secret))) :
    Meets (keeping readings) (saveCredential ownerId secret >>= f) Q env := by
  refine ⟨trivial, ?_⟩
  intro saved env' hstep
  simp only [keeping, Environment.Answers] at hstep
  obtain ⟨hsaved, rfl⟩ | ⟨hsaved, s, ⟨hne, hnew, rfl⟩, rfl⟩ := hstep.cases
  · exact hfail saved hsaved
  · exact hok saved hsaved hne hnew

theorem meets_updateCredential {ref : QString} {secret : QByteArray}
    {f : Result Bool → StoreProgram α} {Q : α → Environment → Prop}
    (hfail : ∀ updated, updated.ok = false →
      Meets (keeping readings) (f updated) Q (env.fail (.updateCredential ref secret)))
    (hok : ∀ updated, updated.ok = true →
      Meets (keeping readings) (f updated) Q (env.set (env.state.setCredential ref secret))) :
    Meets (keeping readings) (updateCredential ref secret >>= f) Q env := by
  refine ⟨trivial, ?_⟩
  intro updated env' hstep
  simp only [keeping, Environment.Answers] at hstep
  obtain ⟨hupdated, rfl⟩ | ⟨hupdated, s, rfl, rfl⟩ := hstep.cases
  · exact hfail updated hupdated
  · exact hok updated hupdated

theorem meets_removeCredential {ref : QString} {f : Result Bool → StoreProgram α}
    {Q : α → Environment → Prop}
    (hfail : ∀ removed, removed.ok = false →
      Meets (keeping readings) (f removed) Q (env.fail (.removeCredential ref)))
    (hok : ∀ removed, removed.ok = true →
      Meets (keeping readings) (f removed) Q (env.set (env.state.dropCredential ref))) :
    Meets (keeping readings) (removeCredential ref >>= f) Q env := by
  refine ⟨trivial, ?_⟩
  intro removed env' hstep
  simp only [keeping, Environment.Answers] at hstep
  obtain ⟨hremoved, rfl⟩ | ⟨hremoved, s, rfl, rfl⟩ := hstep.cases
  · exact hfail removed hremoved
  · exact hok removed hremoved

end

/-! ### Repositories -/

namespace ConnectionRepository

variable {readings : ℤ → Prop} {env : Environment} {sanitize : QString → QString}
  {connection : Connection} {id : QString}

/-- What `add` stores: the connection under an id, with the time of the call. -/
structure Added (connection : Connection) (now : ℤ) (added : Connection) : Prop where
  id : connection.id ≠ [] → added.id = connection.id
  rest : added = { connection with
    id := added.id, createdAt := added.createdAt, updatedAt := some now }

theorem meets_withId {f : Connection → StoreProgram (Result Connection)}
    {Q : Result Connection → Environment → Prop}
    (h : ∀ id, id ≠ [] → (connection.id ≠ [] → id = connection.id) →
      Meets (keeping readings) (f { connection with id }) Q env) :
    Meets (keeping readings) (withId connection >>= f) Q env := by
  unfold withId
  split
  · next hempty =>
    refine meets_createUuid fun id hid => h id hid ?_
    intro hne
    exact absurd (List.isEmpty_iff.1 hempty) hne
  · next hne =>
    have hid : connection.id ≠ [] := fun h => hne (List.isEmpty_iff.2 h)
    exact h connection.id hid fun _ => rfl

theorem meets_add {Q : Result Connection → Environment → Prop}
    (hfail : ∀ row text, Q (.failure (storageError text)) (env.fail (.insertConnection row)))
    (hok : ∀ now added, readings now → Added connection now added →
      env.state.connections added.id = none → ∀ hid,
      Q (.success added)
        (env.set (env.state.setConnection (bindConnection sanitize added) hid))) :
    Meets (keeping readings) (add sanitize connection) Q env := by
  refine meets_withId fun id _ hid => meets_currentDateTimeUtc fun now hnow => ⟨trivial, ?_⟩
  intro executed env' hstep
  simp only [keeping, Environment.Answers] at hstep
  rcases executed with text | _
  · obtain rfl := hstep
    exact hfail _ text
  · obtain ⟨s, ⟨hnew, hne, rfl⟩, rfl⟩ := hstep
    have hadded : Added connection now { connection with
        id
        createdAt := if connection.createdAt.isNone then some now else connection.createdAt
        updatedAt := some now } := ⟨hid, rfl⟩
    exact hok now _ hnow hadded hnew hne

theorem meets_getById {Q : Result Connection → Environment → Prop}
    (hfail : ∀ text, Q (.failure (storageError text)) (env.fail (.selectConnection id)))
    (hmissing : env.state.connections id = none → Q (.failure (notFoundError id)) env)
    (hok : ∀ found, env.state.connections id = some found → Q (.success found) env) :
    Meets (keeping readings) (getById id) Q env := by
  refine ⟨trivial, ?_⟩
  intro executed env' hstep
  simp only [keeping, Environment.Answers] at hstep
  rcases executed with text | _ | found
  · obtain rfl := hstep
    exact hfail text
  · obtain ⟨s, ⟨hfound, rfl⟩, rfl⟩ := hstep
    exact hmissing hfound.symm
  · obtain ⟨s, ⟨hfound, rfl⟩, rfl⟩ := hstep
    exact hok found hfound.symm

theorem meets_list {Q : Result (List Connection) → Environment → Prop}
    (hfail : ∀ text, Q (.failure (storageError text)) (env.fail .selectConnections))
    (hok : ∀ rows, (∀ row, row ∈ rows ↔ env.state.connections row.id = some row) →
      Q (.success rows) env) :
    Meets (keeping readings) list Q env := by
  refine ⟨trivial, ?_⟩
  intro executed env' hstep
  simp only [keeping, Environment.Answers] at hstep
  rcases executed with text | rows
  · obtain rfl := hstep
    exact hfail text
  · obtain ⟨s, ⟨hrows, rfl⟩, rfl⟩ := hstep
    exact hok rows hrows

theorem meets_update {Q : Result Connection → Environment → Prop}
    (hfail : ∀ row text, Q (.failure (storageError text)) (env.fail (.updateConnection row)))
    (hmissing : env.state.connections connection.id = none →
      Q (.failure (notFoundError connection.id)) env)
    (hok : ∀ now updated, readings now → updated = { connection with updatedAt := some now } →
      env.state.connections connection.id ≠ none → ∀ hid,
      Q (.success updated)
        (env.set (env.state.setConnection (bindConnection sanitize updated) hid))) :
    Meets (keeping readings) (update sanitize connection) Q env := by
  unfold update
  split
  · next hempty =>
    refine hmissing ?_
    rw [List.isEmpty_iff.1 hempty, env.state.connection_id_ne]
  refine meets_currentDateTimeUtc fun now hnow => ⟨trivial, ?_⟩
  intro executed env' hstep
  simp only [keeping, Environment.Answers] at hstep
  rcases executed with text | affected
  · obtain rfl := hstep
    exact hfail _ text
  · obtain ⟨s, hs, rfl⟩ := hstep
    split at hs
    · next hnone =>
      obtain ⟨rfl, rfl⟩ := hs
      exact hmissing hnone
    · next hfound =>
      obtain ⟨haffected, hid, rfl⟩ := hs
      cases affected with
      | zero => exact absurd rfl haffected
      | succ n => exact hok now _ hnow rfl hfound hid

theorem meets_remove {Q : Result Bool → Environment → Prop}
    (hfail : ∀ text, Q (.failure (storageError text)) (env.fail (.deleteConnection id)))
    (hok : ∀ removed : Bool, (removed = true ↔ env.state.connections id ≠ none) →
      Q (.success removed) (env.set (env.state.removeConnection id))) :
    Meets (keeping readings) (remove id) Q env := by
  refine ⟨trivial, ?_⟩
  intro executed env' hstep
  simp only [keeping, Environment.Answers] at hstep
  rcases executed with text | affected
  · obtain rfl := hstep
    exact hfail text
  · obtain ⟨s, ⟨haffected, rfl⟩, rfl⟩ := hstep
    refine hok (0 < affected) ?_
    rw [decide_eq_true_iff, Nat.pos_iff_ne_zero, Ne, haffected]

end ConnectionRepository

namespace ConnectionGroupRepository

variable {readings : ℤ → Prop} {env : Environment} {group : ConnectionGroup}

/-- What `add` stores: the group under an id, with the time of the call. -/
structure Added (group : ConnectionGroup) (now : ℤ) (added : ConnectionGroup) : Prop where
  id : group.id ≠ [] → added.id = group.id
  rest : added = { group with
    id := added.id, createdAt := added.createdAt, updatedAt := some now }

theorem meets_withId {f : ConnectionGroup → StoreProgram (Result ConnectionGroup)}
    {Q : Result ConnectionGroup → Environment → Prop}
    (h : ∀ id, id ≠ [] → (group.id ≠ [] → id = group.id) →
      Meets (keeping readings) (f { group with id }) Q env) :
    Meets (keeping readings) (withId group >>= f) Q env := by
  unfold withId
  split
  · next hempty =>
    refine meets_createUuid fun id hid => h id hid ?_
    intro hne
    exact absurd (List.isEmpty_iff.1 hempty) hne
  · next hne =>
    have hid : group.id ≠ [] := fun h => hne (List.isEmpty_iff.2 h)
    exact h group.id hid fun _ => rfl

theorem meets_add {Q : Result ConnectionGroup → Environment → Prop}
    (hfail : ∀ row text, Q (.failure (storageError text)) (env.fail (.insertGroup row)))
    (hok : ∀ now added, readings now → Added group now added →
      env.state.groups added.id = none →
      Q (.success added) (env.set (env.state.setGroup added))) :
    Meets (keeping readings) (add group) Q env := by
  refine meets_withId fun id _ hid => meets_currentDateTimeUtc fun now hnow => ⟨trivial, ?_⟩
  intro executed env' hstep
  simp only [keeping, Environment.Answers] at hstep
  rcases executed with text | _
  · obtain rfl := hstep
    exact hfail _ text
  · obtain ⟨s, ⟨hnew, rfl⟩, rfl⟩ := hstep
    exact hok now _ hnow ⟨hid, rfl⟩ hnew

theorem meets_list {Q : Result (List ConnectionGroup) → Environment → Prop}
    (hfail : ∀ text, Q (.failure (storageError text)) (env.fail .selectGroups))
    (hok : ∀ rows, (∀ row, row ∈ rows ↔ env.state.groups row.id = some row) →
      Q (.success rows) env) :
    Meets (keeping readings) list Q env := by
  refine ⟨trivial, ?_⟩
  intro executed env' hstep
  simp only [keeping, Environment.Answers] at hstep
  rcases executed with text | rows
  · obtain rfl := hstep
    exact hfail text
  · obtain ⟨s, ⟨hrows, rfl⟩, rfl⟩ := hstep
    exact hok rows hrows

theorem meets_update {Q : Result ConnectionGroup → Environment → Prop}
    (hfail : ∀ row text, Q (.failure (storageError text)) (env.fail (.updateGroup row)))
    (hmissing : group.id = [] ∨ env.state.groups group.id = none →
      Q (.failure (notFoundError group.id)) env)
    (hok : ∀ now updated, readings now → updated = { group with updatedAt := some now } →
      env.state.groups group.id ≠ none →
      Q (.success updated) (env.set (env.state.setGroup updated))) :
    Meets (keeping readings) (update group) Q env := by
  unfold update
  split
  · next hempty => exact hmissing (Or.inl (List.isEmpty_iff.1 hempty))
  refine meets_currentDateTimeUtc fun now hnow => ⟨trivial, ?_⟩
  intro executed env' hstep
  simp only [keeping, Environment.Answers] at hstep
  rcases executed with text | affected
  · obtain rfl := hstep
    exact hfail _ text
  · obtain ⟨s, hs, rfl⟩ := hstep
    split at hs
    · next hnone =>
      obtain ⟨rfl, rfl⟩ := hs
      exact hmissing (Or.inr hnone)
    · next hfound =>
      obtain ⟨haffected, rfl⟩ := hs
      cases affected with
      | zero => exact absurd rfl haffected
      | succ n => exact hok now _ hnow rfl hfound

end ConnectionGroupRepository

end SmbBrowser.Storage
