import SmbBrowser.Application.ConnectionService
import SmbBrowser.Application.ImportExport

/-!
# Calls that fail half-way

A call of a service makes several calls of the repositories and of the credential
store, and any of them can fail.

Results:
* `serviceCall_atomic`: exactly when a failed call of `ConnectionService`, in which one
  call failed, leaves the stores as they were;
* `import_atomic`: a failed import leaves the connections and the groups as they were
  exactly when it had written none.
-/

namespace SmbBrowser.Application

open SmbBrowser.Base SmbBrowser.Qt SmbBrowser.Core SmbBrowser.Storage

namespace ConnectionService

/-! ## The connection service -/

/-- The update would write the secret that is there, or remove none. -/
def LeavesCredentials (s : Stores) (connection : Connection) (secret : Option QByteArray) : Prop :=
  if connection.authType = .password then
    ∀ value, secret = some value →
      connection.credentialRef ≠ [] ∧ s.credentials connection.credentialRef = some value
  else
    ∀ existing, s.connections connection.id = some existing →
      existing.credentialRef = [] ∨ Shared s existing.credentialRef connection.id ∨
        s.credentials existing.credentialRef = none

/-- The call is undone, or nothing has to be: `create` removes the secret again; `update`
    does not, when its last call fails; `remove` has deleted the connection before it
    removes the secret. -/
def ServiceCall.Recovers (s : Stores) (failures : List StoreOp) : ServiceCall → Prop
  | .create _ _ => True
  | .update connection secret =>
    (∀ row, .updateConnection row ∉ failures) ∨ LeavesCredentials s connection secret
  | .remove _ => ∀ ref, .removeCredential ref ∉ failures

theorem setCredential_eq_self {s : Stores} {ref : QString} {value : QByteArray} :
    s.setCredential ref value = s ↔ s.credentials ref = some value := by
  constructor
  · intro h
    have hcredentials := congrArg (fun s => s.credentials ref) h
    simp only [Stores.setCredential_credentials, Function.update_self] at hcredentials
    exact hcredentials.symm
  · intro h
    refine Stores.ext rfl rfl ?_
    rw [Stores.setCredential_credentials, ← h, Function.update_eq_self]

theorem dropCredential_eq_self {s : Stores} {ref : QString} :
    s.dropCredential ref = s ↔ s.credentials ref = none := by
  constructor
  · intro h
    have hcredentials := congrArg (fun s => s.credentials ref) h
    simp only [Stores.dropCredential_credentials, Function.update_self] at hcredentials
    exact hcredentials.symm
  · intro h
    refine Stores.ext rfl rfl ?_
    rw [Stores.dropCredential_credentials, ← h, Function.update_eq_self]

variable {connection : Connection} {secret : Option QByteArray} {s : Stores} {env : Environment}

theorem Creates.atomic {r : Result Connection} (h : Creates connection secret ⟨s, []⟩ r env)
    (hsingle : env.failures.length ≤ 1) (hr : r.ok = false) : env.state = s := by
  cases h with
  | refused => rfl
  | failed => rfl
  | leftBehind =>
    simp only [Environment.fail_failures, List.length_append, List.length_singleton] at hsingle
    omega
  | added _ hok => exact absurd (hr.symm.trans hok) Bool.false_ne_true
  | addedOpen _ hok => exact absurd (hr.symm.trans hok) Bool.false_ne_true

/-- The stores between the settling of the secret and a failed update of the row. -/
theorem Settles.unchanged_iff {existing settled : Connection}
    (h : Settles connection secret existing.credentialRef ⟨s, []⟩ (.ok settled) env)
    (hfound : s.connections connection.id = some existing) (hnone : env.failures = []) :
    env.state = s ↔ LeavesCredentials s connection secret := by
  unfold LeavesCredentials
  have hopen : (∀ found, s.connections connection.id = some found →
      found.credentialRef = [] ∨ Shared s found.credentialRef connection.id ∨
        s.credentials found.credentialRef = none) ↔
      (existing.credentialRef = [] ∨ Shared s existing.credentialRef connection.id ∨
        s.credentials existing.credentialRef = none) := by
    constructor
    · intro h
      exact h existing hfound
    · intro h found hfound'
      rw [hfound, Option.some.injEq] at hfound'
      exact hfound' ▸ h
  cases h with
  | saved hpassword hsecret hempty _ hnew =>
    rw [if_pos hpassword, Environment.set_state]
    refine iff_of_false ?_ ?_
    · intro h
      exact absurd ((setCredential_eq_self.1 h).symm.trans hnew) (Option.some_ne_none _)
    · intro h
      exact (h _ hsecret).1 hempty
  | replaced hpassword hsecret href =>
    rw [if_pos hpassword, Environment.set_state, setCredential_eq_self, hsecret]
    constructor
    · rintro h value hvalue
      exact ⟨href, h.trans hvalue⟩
    · intro h
      exact (h _ rfl).2
  | kept hpassword hsecret =>
    rw [if_pos hpassword, hsecret]
    exact iff_of_true rfl fun value h => by cases h
  | dropped hpassword hprevious hshared =>
    rw [if_neg hpassword, Environment.set_state, dropCredential_eq_self, hopen]
    constructor
    · intro h
      exact Or.inr (Or.inr h)
    · intro h
      exact (h.resolve_left hprevious).resolve_left hshared
  | spared hpassword hspared =>
    rw [if_neg hpassword, hopen]
    exact iff_of_true rfl (hspared.imp (fun h => h) Or.inl)
  | unlisted => simp at hnone

theorem Settles.not_updateConnection {r : Except AppError Connection} {previous : QString}
    (h : Settles connection secret previous ⟨s, []⟩ r env) (row : Connection) :
    .updateConnection row ∉ env.failures := by
  cases h with
  | failed _ hop =>
    intro hmem
    simp only [Environment.fail_failures, List.nil_append, List.mem_singleton] at hmem
    exact hop row hmem.symm
  | _ => simp

theorem Updates.atomic {r : Result Connection} (h : Updates connection secret ⟨s, []⟩ r env)
    (hsingle : env.failures.length ≤ 1) :
    (r.ok = false → env.state = s) ↔
      (∀ row, .updateConnection row ∉ env.failures) ∨ LeavesCredentials s connection secret := by
  cases h with
  | refused => exact iff_of_true (fun _ => rfl) (Or.inl fun row => List.not_mem_nil)
  | failed _ hop =>
    refine iff_of_true (fun _ => rfl) (Or.inl ?_)
    intro row hmem
    simp only [Environment.fail_failures, List.nil_append, List.mem_singleton] at hmem
    exact hop row hmem.symm
  | lost hr hfound hsettled =>
    rename_i mid row
    have hnone : mid.failures = [] := by
      simp only [Environment.fail_failures, List.length_append, List.length_singleton] at hsingle
      exact List.eq_nil_of_length_eq_zero (by omega)
    have hmem : .updateConnection row ∈ (mid.fail (.updateConnection row)).failures := by
      simp
    rw [Environment.fail_state, ← hsettled.unchanged_iff hfound hnone]
    constructor
    · intro h
      exact Or.inr (h hr)
    · rintro (h | h) _
      · exact absurd hmem (h row)
      · exact h
  | stored _ hok _ hsettled =>
    refine iff_of_true ?_ (Or.inl fun row => hsettled.not_updateConnection row)
    intro hr
    exact absurd (hr.symm.trans hok) Bool.false_ne_true

theorem Removes.atomic {connectionId : QString} {r : Result Bool}
    (h : Removes connectionId ⟨s, []⟩ r env) (hsingle : env.failures.length ≤ 1) :
    (r.ok = false → env.state = s) ↔ ∀ ref, .removeCredential ref ∉ env.failures := by
  cases h with
  | missing => exact iff_of_true (fun _ => rfl) fun ref => List.not_mem_nil
  | failed _ hop =>
    refine iff_of_true (fun _ => rfl) ?_
    intro ref hmem
    simp only [Environment.fail_failures, List.nil_append, List.mem_singleton] at hmem
    exact hop ref hmem.symm
  | failedTwice =>
    simp only [Environment.fail_failures, List.length_append, List.length_singleton] at hsingle
    omega
  | removed hok => simp [hok]
  | unlisted hok => simp [hok]
  | dropped hok => simp [hok]
  | leftBehind hr hfound =>
    rename_i existing
    refine iff_of_false ?_ ?_
    · intro h
      have hconnections := congrArg (fun s => s.connections connectionId) (h hr)
      simp only [Environment.fail_state, Environment.set_state, Stores.removeConnection_connections,
        Function.update_self] at hconnections
      exact absurd (hconnections.trans hfound) (Option.some_ne_none _).symm
    · intro h
      exact h existing.credentialRef (by simp)

/-- A call of the service with at most one failed call in it: its failure leaves the
    stores as they were exactly when the call recovers. -/
theorem serviceCall_atomic {sanitize : QString → QString} {readings : ℤ → Prop}
    {call : ServiceCall} {es : List (Event stores)} {error : AppError}
    (hrun : Program.Runs (call.perform sanitize) es error)
    (hsteps : (keeping readings).Steps ⟨s, []⟩ es env) (hsingle : env.failures.length ≤ 1) :
    (error.hasError = true → env.state = s) ↔ call.Recovers s env.failures := by
  have hends := (meets_perform call).sound hrun hsteps
  cases call with
  | create connection secret =>
    obtain ⟨r, rfl, hcreates⟩ := hends
    rw [hasError_iff]
    exact iff_of_true (hcreates.atomic hsingle) trivial
  | update connection secret =>
    obtain ⟨r, rfl, hupdates⟩ := hends
    rw [hasError_iff]
    exact hupdates.atomic hsingle
  | remove connectionId =>
    obtain ⟨r, rfl, hremoves⟩ := hends
    rw [hasError_iff]
    exact hremoves.atomic hsingle

/-! ### A password connection becomes a guest connection, and its row is not updated -/

/-- A stored connection with a saved password. -/
def savedConnection : Connection where
  id := qStringLiteral "a"
  credentialRef := qStringLiteral "vault:a:1"
  createdAt := some 0
  updatedAt := some 0

/-- The stores with that connection and its password. -/
def savedStores : Stores :=
  (Stores.empty.setConnection savedConnection (by decide)).setCredential
    savedConnection.credentialRef [1]

/-- The connection as the user saves it now, and the row that is not written. -/
def guestConnection : Connection := { savedConnection with authType := .guest }

def guestRow : Connection := { guestConnection with credentialRef := [], updatedAt := some 1 }

/-- The removal of the password succeeds, and the update of the row fails. -/
def lostUpdate : List (Event stores) :=
  [⟨.selectConnection savedConnection.id, (.ok (some savedConnection) : Except QString _)⟩,
    ⟨.selectConnections, (.ok [savedConnection] : Except QString _)⟩,
    ⟨.removeCredential savedConnection.credentialRef, Result.success true⟩,
    ⟨.currentDateTimeUtc, (1 : ℤ)⟩,
    ⟨.updateConnection guestRow, (.error [] : Except QString ℕ)⟩]

theorem runs_lostUpdate :
    Program.Runs ((ServiceCall.update guestConnection none).perform id) lostUpdate
      (storageError []) :=
  .ask _ (.ask _ (.ask _ (.ask _ (.ask _ (.pure _)))))

theorem steps_lostUpdate :
    (keeping fun _ => True).Steps ⟨savedStores, []⟩ lostUpdate
      ⟨savedStores.dropCredential savedConnection.credentialRef, [.updateConnection guestRow]⟩ := by
  have hrows : ∀ row, row ∈ [savedConnection] ↔ savedStores.connections row.id = some row := by
    intro row
    rw [List.mem_singleton]
    constructor
    · rintro rfl
      rfl
    · intro h
      simp only [savedStores, Stores.setCredential_connections, Stores.setConnection_connections]
        at h
      by_cases hid : row.id = savedConnection.id
      · rw [hid, Function.update_self, Option.some.injEq] at h
        exact h.symm
      · rw [Function.update_of_ne hid] at h
        cases h
  refine ⟨_, ⟨_, ⟨rfl, rfl⟩, rfl⟩, _, ⟨_, ⟨hrows, rfl⟩, rfl⟩, _, ⟨_, rfl, rfl⟩, _,
    ⟨trivial, rfl⟩, _, rfl, rfl⟩

theorem serviceCall_atomic_lostUpdate :
    ((storageError []).hasError = true →
        savedStores.dropCredential savedConnection.credentialRef = savedStores) ↔
      (ServiceCall.update guestConnection none).Recovers savedStores
        [.updateConnection guestRow] :=
  serviceCall_atomic runs_lostUpdate steps_lostUpdate (by decide)

/-- The stored connection still refers to the password that was removed. -/
theorem update_not_atomic :
    ¬ ∀ (sanitize : QString → QString) (readings : ℤ → Prop) (call : ServiceCall) (s : Stores)
      (env : Environment) (es : List (Event stores)) (error : AppError),
      Program.Runs (call.perform sanitize) es error → (keeping readings).Steps ⟨s, []⟩ es env →
      env.failures.length ≤ 1 → error.hasError = true →
      env.state = s ∧ ∀ id connection, env.state.connections id = some connection →
        s.credentials connection.credentialRef ≠ none →
        env.state.credentials connection.credentialRef ≠ none := by
  intro h
  have hkept := (h _ _ _ _ _ _ _ runs_lostUpdate steps_lostUpdate (by decide) rfl).2
    savedConnection.id savedConnection rfl (by decide)
  refine hkept ?_
  rw [Stores.dropCredential_credentials, Function.update_self]

end ConnectionService

/-! ## The import -/

namespace ConnectionImportExportService

/-- A statement that has changed a row of a table. -/
def Wrote : Event stores → Prop
  | ⟨.insertConnection _, (answer : Except QString Unit)⟩ => answer = .ok ()
  | ⟨.updateConnection _, (answer : Except QString ℕ)⟩ => ∃ affected, answer = .ok (affected + 1)
  | ⟨.deleteConnection _, (answer : Except QString ℕ)⟩ => ∃ affected, answer = .ok (affected + 1)
  | ⟨.insertGroup _, (answer : Except QString Unit)⟩ => answer = .ok ()
  | ⟨.updateGroup _, (answer : Except QString ℕ)⟩ => ∃ affected, answer = .ok (affected + 1)
  | _ => False

/-- Connections and groups are as they were. -/
def SameRows (s s' : Stores) : Prop :=
  s'.connections = s.connections ∧ s'.groups = s.groups

theorem SameRows.trans {s s' s'' : Stores} (h : SameRows s s') (h' : SameRows s' s'') :
    SameRows s s'' :=
  ⟨h'.1.trans h.1, h'.2.trans h.2⟩

section

variable {readings : ℤ → Prop} {env env' : Environment}

theorem sameRows_of_executes {T : Type} {op : StoreOp} {answer : Except QString T}
    {effect : T → Stores → Prop} (h : env.Executes op answer effect env')
    (heffect : ∀ a s, answer = .ok a → effect a s → SameRows env.state s) :
    SameRows env.state env'.state := by
  cases answer with
  | error text =>
    obtain rfl := h
    exact ⟨rfl, rfl⟩
  | ok a =>
    obtain ⟨s, hs, rfl⟩ := h
    exact heffect a s rfl hs

theorem sameRows_of_keeps {T : Type} {op : StoreOp} {answer : Result T}
    {effect : T → Stores → Prop} (h : env.Keeps op answer effect env')
    (heffect : ∀ s, effect answer.value s → SameRows env.state s) :
    SameRows env.state env'.state := by
  obtain ⟨_, rfl⟩ | ⟨_, s, hs, rfl⟩ := h.cases
  · exact ⟨rfl, rfl⟩
  · exact heffect s hs

theorem sameRows_step {e : Event stores} (h : (keeping readings).step env e env')
    (hwrote : ¬Wrote e) : SameRows env.state env'.state := by
  obtain ⟨op, answer⟩ := e
  simp only [keeping] at h
  cases op <;> simp only [Environment.Answers] at h
  case insertConnection row =>
    refine sameRows_of_executes h ?_
    rintro _ s rfl _
    exact absurd rfl hwrote
  case selectConnection id =>
    refine sameRows_of_executes h ?_
    rintro _ s _ ⟨_, rfl⟩
    exact ⟨rfl, rfl⟩
  case selectConnections =>
    refine sameRows_of_executes h ?_
    rintro _ s _ ⟨_, rfl⟩
    exact ⟨rfl, rfl⟩
  case updateConnection row =>
    refine sameRows_of_executes h ?_
    rintro affected s rfl hs
    split at hs
    · rw [hs.2]
      exact ⟨rfl, rfl⟩
    · obtain ⟨n, rfl⟩ := Nat.exists_eq_succ_of_ne_zero hs.1
      exact absurd ⟨n, rfl⟩ hwrote
  case deleteConnection id =>
    refine sameRows_of_executes h ?_
    rintro affected s rfl ⟨hnone, rfl⟩
    cases affected with
    | succ n => exact absurd ⟨n, rfl⟩ hwrote
    | zero =>
      refine ⟨?_, rfl⟩
      rw [Stores.removeConnection_connections, ← hnone.1 rfl, Function.update_eq_self]
  case insertGroup row =>
    refine sameRows_of_executes h ?_
    rintro _ s rfl _
    exact absurd rfl hwrote
  case selectGroups =>
    refine sameRows_of_executes h ?_
    rintro _ s _ ⟨_, rfl⟩
    exact ⟨rfl, rfl⟩
  case updateGroup row =>
    refine sameRows_of_executes h ?_
    rintro affected s rfl hs
    split at hs
    · rw [hs.2]
      exact ⟨rfl, rfl⟩
    · obtain ⟨n, rfl⟩ := Nat.exists_eq_succ_of_ne_zero hs.1
      exact absurd ⟨n, rfl⟩ hwrote
  case saveCredential ownerId secret =>
    refine sameRows_of_keeps h ?_
    rintro s ⟨_, _, rfl⟩
    exact ⟨rfl, rfl⟩
  case loadCredential ref =>
    refine sameRows_of_keeps h ?_
    rintro s ⟨_, rfl⟩
    exact ⟨rfl, rfl⟩
  case updateCredential ref secret =>
    refine sameRows_of_keeps h ?_
    rintro s rfl
    exact ⟨rfl, rfl⟩
  case removeCredential ref =>
    refine sameRows_of_keeps h ?_
    rintro s rfl
    exact ⟨rfl, rfl⟩
  case currentDateTimeUtc =>
    rw [h.2]
    exact ⟨rfl, rfl⟩
  case createUuid =>
    rw [h.2]
    exact ⟨rfl, rfl⟩
  case randomBytes size =>
    rw [h.2]
    exact ⟨rfl, rfl⟩

/-- Rows change only where a statement has written. -/
theorem sameRows_steps {es : List (Event stores)} (h : (keeping readings).Steps env es env')
    (hwrote : ∀ e ∈ es, ¬Wrote e) : SameRows env.state env'.state := by
  induction es generalizing env with
  | nil =>
    obtain rfl := h
    exact ⟨rfl, rfl⟩
  | cons e es ih =>
    obtain ⟨mid, hstep, hrest⟩ := h
    have hmid := sameRows_step hstep (hwrote e List.mem_cons_self)
    exact hmid.trans (ih hrest fun e' he' => hwrote e' (List.mem_cons_of_mem _ he'))

end

/-! ### Stamps

Every row that an import writes carries a reading of the clock. -/

/-- A date is a reading of the clock. -/
def Reading (readings : ℤ → Prop) (dateTime : QDateTime) : Prop :=
  ∃ now, readings now ∧ dateTime = some now

/-- The contract of a program that stamps the rows it writes, and deletes none. -/
def stamping (readings : ℤ → Prop) : Contract stores Unit where
  allows _ op :=
    match op with
    | .insertConnection row => Reading readings row.updatedAt
    | .updateConnection row => Reading readings row.updatedAt
    | .deleteConnection _ => False
    | .insertGroup row => Reading readings row.updatedAt
    | .updateGroup row => Reading readings row.updatedAt
    | _ => True
  step _ e _ := ∀ now : ℤ, e = ⟨.currentDateTimeUtc, now⟩ → readings now

/-- A program stamps the rows it writes. -/
def Stamps {α : Type} (readings : ℤ → Prop) (p : StoreProgram α) : Prop :=
  Meets (stamping readings) p (fun _ _ => True) ()

section

variable {α β : Type} {readings : ℤ → Prop}

theorem stamps_pure (a : α) : Stamps readings (.pure a) := trivial

theorem Stamps.bind {p : StoreProgram α} {f : α → StoreProgram β} (h : Stamps readings p)
    (hf : ∀ a, Stamps readings (f a)) : Stamps readings (p >>= f) :=
  Meets.bind h fun a _ _ => hf a

theorem stamps_ask {op : StoreOp} {k : stores.Ans op → StoreProgram α}
    (hop : (stamping readings).allows () op) (hk : ∀ answer, Stamps readings (k answer)) :
    Stamps readings (.ask op k) :=
  ⟨hop, fun answer _ _ => hk answer⟩

theorem stamps_currentDateTimeUtc {f : ℤ → StoreProgram α}
    (hf : ∀ now, readings now → Stamps readings (f now)) :
    Stamps readings (currentDateTimeUtc >>= f) :=
  ⟨trivial, fun now _ hstep => hf now (hstep now rfl)⟩

theorem stamps_createUuid : Stamps readings createUuid :=
  stamps_ask trivial fun _ => stamps_pure _

theorem stamps_connectionWithId (connection : Connection) :
    Stamps readings (ConnectionRepository.withId connection) := by
  unfold ConnectionRepository.withId
  split
  · exact stamps_createUuid.bind fun _ => stamps_pure _
  · exact stamps_pure _

theorem stamps_connectionAdd (sanitize : QString → QString) (connection : Connection) :
    Stamps readings (ConnectionRepository.add sanitize connection) := by
  refine (stamps_connectionWithId connection).bind fun connection => ?_
  refine stamps_currentDateTimeUtc fun now hnow => stamps_ask ⟨now, hnow, rfl⟩ ?_
  intro executed
  rcases executed with text | _ <;> exact stamps_pure _

theorem stamps_connectionList : Stamps readings ConnectionRepository.list := by
  refine stamps_ask trivial ?_
  intro executed
  rcases executed with text | rows <;> exact stamps_pure _

theorem stamps_connectionUpdate (sanitize : QString → QString) (connection : Connection) :
    Stamps readings (ConnectionRepository.update sanitize connection) := by
  unfold ConnectionRepository.update
  split
  · exact stamps_pure _
  refine stamps_currentDateTimeUtc fun now hnow => stamps_ask ⟨now, hnow, rfl⟩ ?_
  intro executed
  rcases executed with text | _ | n <;> exact stamps_pure _

theorem stamps_groupWithId (group : ConnectionGroup) :
    Stamps readings (ConnectionGroupRepository.withId group) := by
  unfold ConnectionGroupRepository.withId
  split
  · exact stamps_createUuid.bind fun _ => stamps_pure _
  · exact stamps_pure _

theorem stamps_groupAdd (group : ConnectionGroup) :
    Stamps readings (ConnectionGroupRepository.add group) := by
  refine (stamps_groupWithId group).bind fun group => ?_
  refine stamps_currentDateTimeUtc fun now hnow => stamps_ask ⟨now, hnow, rfl⟩ ?_
  intro executed
  rcases executed with text | _ <;> exact stamps_pure _

theorem stamps_groupList : Stamps readings ConnectionGroupRepository.list := by
  refine stamps_ask trivial ?_
  intro executed
  rcases executed with text | rows <;> exact stamps_pure _

theorem stamps_groupUpdate (group : ConnectionGroup) :
    Stamps readings (ConnectionGroupRepository.update group) := by
  unfold ConnectionGroupRepository.update
  split
  · exact stamps_pure _
  refine stamps_currentDateTimeUtc fun now hnow => stamps_ask ⟨now, hnow, rfl⟩ ?_
  intro executed
  rcases executed with text | _ | n <;> exact stamps_pure _

theorem stamps_importRecord (platform : Platform) (policy : DuplicatePolicy) (index : ℤ)
    (value : JsonValue) (loop : ImportExportService.ImportLoop) :
    Stamps readings (ImportExportService.importRecord platform policy index value loop) := by
  unfold ImportExportService.importRecord
  cases value with
  | object object =>
    dsimp only
    split
    · exact stamps_pure _
    split
    · cases policy with
      | skip => exact stamps_pure _
      | replace => exact stamps_pure _
      | createCopy => exact stamps_createUuid.bind fun _ => stamps_pure _
    · exact stamps_pure _
  | _ => exact stamps_pure _

theorem stamps_importRecords (platform : Platform) (policy : DuplicatePolicy)
    (values : List JsonValue) (index : ℤ) (loop : ImportExportService.ImportLoop) :
    Stamps readings (ImportExportService.importRecords platform policy index values loop) := by
  induction values generalizing index loop with
  | nil => exact stamps_pure _
  | cons value values ih =>
    exact (stamps_importRecord platform policy index value loop).bind fun loop => ih _ loop

theorem stamps_importPlain (platform : Platform) (root : JsonObject) (options : ImportOptions) :
    Stamps readings (ImportExportService.importPlain platform root options) := by
  unfold ImportExportService.importPlain
  split
  · exact stamps_pure _
  · exact (stamps_importRecords ..).bind fun _ => stamps_pure _

theorem stamps_serializerImport (platform : Platform) (bytes : QByteArray)
    (options : ImportOptions) :
    Stamps readings (ImportExportService.importConnections platform bytes options) := by
  rcases ImportExportService.importConnections_cases platform bytes options with
    ⟨error, _, h⟩ | ⟨root, h⟩
  · rw [h]
    exact stamps_pure _
  · rw [h]
    exact stamps_importPlain platform root options

theorem stamps_persistEachGroup (existingGroupIds : List QString) (groups : List ConnectionGroup) :
    Stamps readings (persistEachGroup existingGroupIds groups) := by
  induction groups with
  | nil => exact stamps_pure _
  | cons group groups ih =>
    have hsaved : Stamps readings (saveGroup existingGroupIds group) := by
      unfold saveGroup
      split
      · exact stamps_groupUpdate group
      · exact stamps_groupAdd group
    refine hsaved.bind fun saved => ?_
    split
    · exact ih
    · exact stamps_pure _

theorem stamps_persistConnections (platform : Platform) (existingConnectionIds : List QString)
    (policy : DuplicatePolicy) (connections : List Connection) :
    Stamps readings (persistConnections platform existingConnectionIds policy connections) := by
  induction connections with
  | nil => exact stamps_pure _
  | cons connection connections ih =>
    have hsaved : Stamps readings
        (saveConnection platform existingConnectionIds policy connection) := by
      unfold saveConnection
      dsimp only
      split
      · exact stamps_connectionUpdate platform.sanitize connection
      · exact stamps_connectionAdd platform.sanitize connection
    refine hsaved.bind fun saved => ?_
    split
    · exact ih
    · exact stamps_pure _

theorem stamps_importConnections (platform : Platform) (bytes : QByteArray)
    (policy : DuplicatePolicy) :
    Stamps readings (importConnections platform bytes policy) := by
  refine stamps_connectionList.bind fun existingConnections => ?_
  split
  · refine (stamps_serializerImport platform bytes _).bind fun imported => ?_
    split
    · have hgroups : Stamps readings (persistGroups imported.value.groups) := by
        refine stamps_groupList.bind fun existingGroups => ?_
        split
        · exact stamps_persistEachGroup _ _
        · exact stamps_pure _
      refine hgroups.bind fun persistedGroups => ?_
      split
      · refine (stamps_persistConnections ..).bind fun persistedConnections => ?_
        split <;> exact stamps_pure _
      · exact stamps_pure _
    · exact stamps_pure _
  · exact stamps_pure _

end

/-! ### The rows of a run -/

/-- A connection or a group carries a reading of the clock. -/
def HasStamp (readings : ℤ → Prop) (s : Stores) : Prop :=
  (∃ id row, s.connections id = some row ∧ Reading readings row.updatedAt) ∨
    ∃ id row, s.groups id = some row ∧ Reading readings row.updatedAt

section

variable {readings clock : ℤ → Prop} {env env' : Environment}

theorem hasStamp_setConnection {s : Stores} {row : Connection} (hid : row.id ≠ [])
    (hrow : Reading readings row.updatedAt) : HasStamp readings (s.setConnection row hid) :=
  Or.inl ⟨row.id, row, Function.update_self _ _ _, hrow⟩

theorem hasStamp_setGroup {s : Stores} {row : ConnectionGroup}
    (hrow : Reading readings row.updatedAt) : HasStamp readings (s.setGroup row) :=
  Or.inr ⟨row.id, row, Function.update_self _ _ _, hrow⟩

theorem HasStamp.sameRows {s s' : Stores} (h : HasStamp readings s) (hsame : SameRows s s') :
    HasStamp readings s' := by
  unfold HasStamp
  rw [hsame.1, hsame.2]
  exact h

/-- A step of a program that stamps its rows leaves the stamps, and its write adds one. -/
theorem hasStamp_step {e : Event stores} (h : (keeping clock).step env e env')
    (hop : (stamping readings).allows () e.op) (hstamp : HasStamp readings env.state ∨ Wrote e) :
    HasStamp readings env'.state := by
  by_cases hwrote : Wrote e
  · obtain ⟨op, answer⟩ := e
    simp only [keeping] at h
    cases op <;> simp only [Environment.Answers] at h
    case insertConnection row =>
      obtain rfl : answer = .ok () := hwrote
      obtain ⟨s, ⟨_, hid, rfl⟩, rfl⟩ := h
      exact hasStamp_setConnection hid hop
    case updateConnection row =>
      obtain ⟨n, rfl⟩ := hwrote
      obtain ⟨s, hs, rfl⟩ := h
      split at hs
      · exact absurd hs.1 (Nat.succ_ne_zero n)
      · obtain ⟨_, hid, rfl⟩ := hs
        exact hasStamp_setConnection hid hop
    case deleteConnection id => exact absurd hop not_false
    case insertGroup row =>
      obtain rfl : answer = .ok () := hwrote
      obtain ⟨s, ⟨_, rfl⟩, rfl⟩ := h
      exact hasStamp_setGroup hop
    case updateGroup row =>
      obtain ⟨n, rfl⟩ := hwrote
      obtain ⟨s, hs, rfl⟩ := h
      split at hs
      · exact absurd hs.1 (Nat.succ_ne_zero n)
      · rw [hs.2]
        exact hasStamp_setGroup hop
    all_goals exact absurd hwrote not_false
  · exact (hstamp.resolve_right hwrote).sameRows (sameRows_step h hwrote)

theorem hasStamp_steps {es : List (Event stores)} (h : (keeping clock).Steps env es env')
    (hops : ∀ e ∈ es, (stamping readings).allows () e.op)
    (hstamp : HasStamp readings env.state ∨ ∃ e ∈ es, Wrote e) : HasStamp readings env'.state := by
  induction es generalizing env with
  | nil =>
    obtain rfl := h
    refine hstamp.resolve_right ?_
    rintro ⟨e, hmem, _⟩
    exact absurd hmem List.not_mem_nil
  | cons e es ih =>
    obtain ⟨mid, hstep, hrest⟩ := h
    have hop := hops e List.mem_cons_self
    have hrestOps : ∀ e' ∈ es, (stamping readings).allows () e'.op := fun e' he' =>
      hops e' (List.mem_cons_of_mem _ he')
    by_cases hfirst : HasStamp readings env.state ∨ Wrote e
    · exact ih hrest hrestOps (Or.inl (hasStamp_step hstep hop hfirst))
    · refine ih hrest hrestOps (Or.inr ?_)
      obtain ⟨e', hmem, hwrote⟩ := hstamp.resolve_left fun h => hfirst (Or.inl h)
      rcases List.mem_cons.1 hmem with rfl | hmem
      · exact absurd (Or.inr hwrote) hfirst
      · exact ⟨e', hmem, hwrote⟩

theorem stamping_allows {es : List (Event stores)}
    (h : (stamping readings).AllowsAll () es)
    (hclock : ∀ now : ℤ, (⟨.currentDateTimeUtc, now⟩ : Event stores) ∈ es → readings now) :
    ∀ e ∈ es, (stamping readings).allows () e.op := by
  induction es with
  | nil => exact fun e hmem => absurd hmem List.not_mem_nil
  | cons e es ih =>
    obtain ⟨hop, hrest⟩ := h
    have hstep : (stamping readings).step () e () := by
      rintro now rfl
      exact hclock now List.mem_cons_self
    have htail := ih (hrest () hstep) fun now hmem => hclock now (List.mem_cons_of_mem _ hmem)
    exact List.forall_mem_cons.2 ⟨hop, htail⟩

end

/-- No row of the stores is as new as a reading of the clock in the run. -/
def ClockMovedOn (s : Stores) (es : List (Event stores)) : Prop :=
  ∀ now : ℤ, (⟨.currentDateTimeUtc, now⟩ : Event stores) ∈ es →
    (∀ id row, s.connections id = some row → row.updatedAt ≠ some now) ∧
      ∀ id row, s.groups id = some row → row.updatedAt ≠ some now

/-- A failed import: when no statement of it has written, the connections and the groups
    are as they were; and they are not when one has, if the clock has moved on since
    they were written. -/
theorem import_atomic {platform : Platform} {bytes : QByteArray} {policy : DuplicatePolicy}
    {readings : ℤ → Prop} {s : Stores} {env : Environment} {es : List (Event stores)}
    {r : Result ImportResult}
    (hrun : Program.Runs (importConnections platform bytes policy) es r)
    (hsteps : (keeping readings).Steps ⟨s, []⟩ es env) :
    r.ok = false →
      ((∀ e ∈ es, ¬Wrote e) → SameRows s env.state) ∧
        (ClockMovedOn s es → SameRows s env.state → ∀ e ∈ es, ¬Wrote e) := by
  intro _
  refine ⟨sameRows_steps hsteps, ?_⟩
  rintro hlater ⟨hconnections, hgroups⟩ e hmem hwrote
  have hallowed := stamping_allows ((stamps_importConnections platform bytes policy).allowed hrun)
    fun now h => h
  have hstamp := hasStamp_steps hsteps hallowed (Or.inr ⟨e, hmem, hwrote⟩)
  rcases hstamp with ⟨id, row, hrow, now, hnow, hdate⟩ | ⟨id, row, hrow, now, hnow, hdate⟩
  · rw [hconnections] at hrow
    exact (hlater now hnow).1 id row hrow hdate
  · rw [hgroups] at hrow
    exact (hlater now hnow).2 id row hrow hdate

/-! ### Two records with one id -/

/-- The record of a connection `a`. -/
def twiceRecord : JsonObject :=
  [(qStringLiteral "id", .string (qStringLiteral "a")),
    (qStringLiteral "inputPath", .string (qStringLiteral "//s/d"))]

/-- A document with that record twice. -/
def twiceRoot : JsonObject :=
  [(qStringLiteral "connections", .array [.object twiceRecord, .object twiceRecord]),
    (qStringLiteral "schema", .string ImportExportService.plainExportSchema),
    (qStringLiteral "version", .number 1)]

/-- The text of the document. -/
def twiceBytes : QByteArray :=
  ("\x7b\"connections\":[\x7b\"id\":\"a\",\"inputPath\":\"//s/d\"\x7d," ++
    "\x7b\"id\":\"a\",\"inputPath\":\"//s/d\"\x7d]," ++
    "\"schema\":\"smb-browser.connections.export\",\"version\":1\x7d").toList.map
      fun c => UInt8.ofNat c.toNat

/-- Qt, as far as the import of the document uses it. -/
def twicePlatform : Platform :=
  { (default : Platform) with
    codec := { (default : Platform).codec with
      fromJson := fun bytes =>
        if bytes = twiceBytes then .ok (.object twiceRoot)
        else .error (qStringLiteral "illegal value") } }

/-- The connection of a record, as the first of them is stored. -/
def twiceConnection : Connection where
  id := qStringLiteral "a"
  inputPath := qStringLiteral "//s/d"
  normalizedUri := qStringLiteral "smb://s/d"
  server := qStringLiteral "s"
  share := qStringLiteral "d"
  createdAt := some 1
  updatedAt := some 1

/-- The row of the second record, which the table refuses. -/
def twiceRow : Connection := { twiceConnection with createdAt := some 2, updatedAt := some 2 }

/-- The import of the document into empty stores. -/
def twiceEvents : List (Event stores) :=
  [⟨.selectConnections, (.ok [] : Except QString _)⟩,
    ⟨.selectGroups, (.ok [] : Except QString _)⟩,
    ⟨.currentDateTimeUtc, (1 : ℤ)⟩,
    ⟨.insertConnection twiceConnection, (.ok () : Except QString Unit)⟩,
    ⟨.currentDateTimeUtc, (2 : ℤ)⟩,
    ⟨.insertConnection twiceRow,
      (.error (qStringLiteral "UNIQUE constraint failed: connections.id") : Except QString Unit)⟩]

theorem importConnections_twice (options : ImportOptions) :
    ImportExportService.importConnections twicePlatform twiceBytes options =
      ImportExportService.importPlain twicePlatform twiceRoot options := by
  have hread : twicePlatform.codec.fromJson twiceBytes = .ok (.object twiceRoot) := by
    simp only [twicePlatform, if_true]
  have hschema : JsonValue.toString (JsonObject.value twiceRoot (qStringLiteral "schema")) ≠
      ImportExportService.encryptedExportSchema := by
    decide +kernel
  rw [ImportExportService.importConnections, hread]
  simp only [if_neg hschema]

/-- The connection that a record is read as. -/
def twiceParsed : Connection := { twiceConnection with createdAt := none, updatedAt := none }

theorem connectionFromJson_twice :
    (ImportExportService.connectionFromJson twicePlatform twiceRecord).ok = true ∧
      (ImportExportService.connectionFromJson twicePlatform twiceRecord).value = twiceParsed := by
  decide +kernel

theorem importPlain_twice (existingConnectionIds : List QString) :
    ImportExportService.importPlain twicePlatform twiceRoot
        { duplicatePolicy := .replace, existingConnectionIds } =
      .pure (.success { connections := [twiceParsed, twiceParsed] }) := by
  have hschema : ¬(JsonValue.toString (JsonObject.value twiceRoot (qStringLiteral "schema")) ≠
        ImportExportService.plainExportSchema ∨
      JsonValue.toInt (JsonObject.value twiceRoot (qStringLiteral "version")) ≠
        ImportExportService.exportSchemaVersion) := by
    decide +kernel
  have hvalues : JsonValue.toArray (JsonObject.value twiceRoot (qStringLiteral "connections")) =
      [.object twiceRecord, .object twiceRecord] := rfl
  have hgroups : ImportExportService.importGroups twicePlatform twiceRoot = [] := rfl
  obtain ⟨hok, hvalue⟩ := connectionFromJson_twice
  rw [ImportExportService.importPlain, if_neg hschema]
  simp only [hvalues, hgroups, ImportExportService.importRecords,
    ImportExportService.importRecord, hok, hvalue, Bool.not_true, Bool.false_eq_true, if_false,
    ite_self]
  rfl

theorem runs_twice :
    Program.Runs (importConnections twicePlatform twiceBytes .replace) twiceEvents
      (.failure (storageError (qStringLiteral "UNIQUE constraint failed: connections.id"))) := by
  refine Program.runs_bind.2 ⟨[_], .success [], _, rfl, .ask _ (.pure _), ?_⟩
  simp only [ok_success, if_true, importConnections_twice, importPlain_twice]
  exact .ask _ (.ask _ (.ask _ (.ask _ (.ask _ (.pure _)))))

theorem steps_twice :
    (keeping fun _ => True).Steps ⟨Stores.empty, []⟩ twiceEvents
      ⟨Stores.empty.setConnection twiceConnection (by decide), [.insertConnection twiceRow]⟩ := by
  refine ⟨_, ⟨_, ⟨?_, rfl⟩, rfl⟩, _, ⟨_, ⟨?_, rfl⟩, rfl⟩, _, ⟨trivial, rfl⟩, _,
    ⟨_, ⟨rfl, by decide, rfl⟩, rfl⟩, _, ⟨trivial, rfl⟩, _, rfl, rfl⟩
  · intro row
    exact iff_of_false List.not_mem_nil (Option.some_ne_none row).symm
  · intro row
    exact iff_of_false List.not_mem_nil (Option.some_ne_none row).symm

theorem import_atomic_twice :
    ((∀ e ∈ twiceEvents, ¬Wrote e) →
        SameRows Stores.empty (Stores.empty.setConnection twiceConnection (by decide))) ∧
      (ClockMovedOn Stores.empty twiceEvents →
        SameRows Stores.empty (Stores.empty.setConnection twiceConnection (by decide)) →
        ∀ e ∈ twiceEvents, ¬Wrote e) :=
  import_atomic runs_twice steps_twice rfl

/-- The first record is stored although the import fails at the second. -/
theorem import_not_atomic :
    ¬ ∀ (platform : Platform) (bytes : QByteArray) (policy : DuplicatePolicy)
      (readings : ℤ → Prop) (s : Stores) (env : Environment) (es : List (Event stores))
      (r : Result ImportResult),
      Program.Runs (importConnections platform bytes policy) es r →
      (keeping readings).Steps ⟨s, []⟩ es env → r.ok = false → SameRows s env.state := by
  intro h
  have hsame := h _ _ _ _ _ _ _ _ runs_twice steps_twice rfl
  have hrow := congrFun hsame.1 twiceConnection.id
  rw [Stores.setConnection_connections, Function.update_self] at hrow
  cases hrow

end ConnectionImportExportService

end SmbBrowser.Application
