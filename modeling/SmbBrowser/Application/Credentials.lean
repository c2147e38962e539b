import SmbBrowser.Application.ConnectionService
import SmbBrowser.Application.ImportExport

/-!
# References to credentials

A stored connection refers to its secret in the credential store; connections may share
a reference.  `ConnectionService` and the import change both stores, one call after the
other.

Results:
* `references_resolve`: a successful call leaves every reference resolved, and no call
  removes the secret of another connection;
* `credentials_balanced`: in a run whose calls meet a condition, the credential store
  holds exactly the secrets that stored connections refer to.
-/

namespace SmbBrowser.Application

open SmbBrowser.Base SmbBrowser.Qt SmbBrowser.Core SmbBrowser.Storage
open ConnectionService ConnectionImportExportService

/-! ## What an import does to connections -/

/-- Connections change only to rows without a reference, and only under new ids or under
    those of `replaced`; secrets stay. -/
structure Imported (replaced : List QString) (s s' : Stores) : Prop where
  credentials : s'.credentials = s.credentials
  connections : ∀ id, s'.connections id = s.connections id ∨
    (s.connections id = none ∨ id ∈ replaced) ∧
      ∃ row, s'.connections id = some row ∧ row.credentialRef = []

namespace Imported

variable {replaced : List QString} {s s' s'' : Stores}

theorem refl (replaced : List QString) (s : Stores) : Imported replaced s s :=
  ⟨rfl, fun _ => Or.inl rfl⟩

theorem trans (h : Imported replaced s s') (h' : Imported replaced s' s'') :
    Imported replaced s s'' := by
  refine ⟨h'.credentials.trans h.credentials, ?_⟩
  intro id
  rcases h'.connections id with hsame' | ⟨hold', hrow'⟩
  · rcases h.connections id with hsame | ⟨hold, hrow⟩
    · exact Or.inl (hsame'.trans hsame)
    · exact Or.inr ⟨hold, hsame' ▸ hrow⟩
  · refine Or.inr ⟨?_, hrow'⟩
    rcases h.connections id with hsame | ⟨hold, row, hrow, _⟩
    · exact hsame ▸ hold'
    · rcases hold' with hnone | hmem
      · exact absurd (hrow.symm.trans hnone) (Option.some_ne_none row)
      · exact Or.inr hmem

theorem setConnection {row : Connection} (hid : row.id ≠ []) (href : row.credentialRef = [])
    (hold : s.connections row.id = none ∨ row.id ∈ replaced) :
    Imported replaced s (s.setConnection row hid) := by
  refine ⟨rfl, ?_⟩
  intro id
  rw [Stores.setConnection_connections]
  by_cases h : id = row.id
  · subst h
    exact Or.inr ⟨hold, row, Function.update_self _ _ _, href⟩
  · exact Or.inl (Function.update_of_ne h _ _)

theorem setGroup (row : ConnectionGroup) : Imported replaced s (s.setGroup row) :=
  ⟨rfl, fun _ => Or.inl rfl⟩

end Imported

/-- The ids of the records of a document that can be read. -/
def recordIds (platform : Platform) (root : JsonObject) : List QString :=
  (JsonValue.toArray (root.value (qStringLiteral "connections"))).filterMap fun value =>
    match value with
    | .object object =>
      let parsed := ImportExportService.connectionFromJson platform object
      if parsed.ok then some parsed.value.id else none
    | _ => none

/-- The ids of the records of a text, as the import reads it without a passphrase. -/
def documentIds (platform : Platform) (bytes : QByteArray) : List QString :=
  match platform.codec.fromJson bytes with
  | .ok (.object root) => recordIds platform root
  | _ => []

/-- The ids under which an import may replace a connection. -/
def replacedIds (platform : Platform) (bytes : QByteArray) (policy : DuplicatePolicy) :
    List QString :=
  if policy = .replace then documentIds platform bytes else []

section

variable {platform : Platform} {readings : ℤ → Prop} {env : Environment}

theorem connectionFromJson_credentialRef (object : JsonObject) :
    (ImportExportService.connectionFromJson platform object).value.credentialRef = [] := by
  unfold ImportExportService.connectionFromJson
  dsimp only
  split <;> rfl

/-- The records a loop has collected: without references and, unless copies are made,
    under ids of the document. -/
def Collected (policy : DuplicatePolicy) (ids : List QString)
    (loop : ImportExportService.ImportLoop) : Prop :=
  ∀ connection ∈ loop.result.connections,
    connection.credentialRef = [] ∧ (policy = .replace → connection.id ∈ ids)

theorem collected_push {policy : DuplicatePolicy} {ids : List QString}
    {loop : ImportExportService.ImportLoop} {connection : Connection}
    (h : Collected policy ids loop) (href : connection.credentialRef = [])
    (hid : policy = .replace → connection.id ∈ ids) :
    Collected policy ids (loop.push connection) := by
  intro connection' hmem
  rcases List.mem_append.1 hmem with hmem | hmem
  · exact h connection' hmem
  · obtain rfl := List.mem_singleton.1 hmem
    exact ⟨href, hid⟩

theorem meets_importRecord {policy : DuplicatePolicy} {ids : List QString} {index : ℤ}
    {value : JsonValue} {loop : ImportExportService.ImportLoop} (h : Collected policy ids loop)
    (hids : ∀ object, value = .object object →
      (ImportExportService.connectionFromJson platform object).ok = true →
      (ImportExportService.connectionFromJson platform object).value.id ∈ ids) :
    Meets (keeping readings) (ImportExportService.importRecord platform policy index value loop)
      (fun loop' env' => Collected policy ids loop' ∧ env' = env) env := by
  unfold ImportExportService.importRecord
  cases value with
  | object object =>
    have href : (ImportExportService.connectionFromJson platform object).value.credentialRef = [] :=
      connectionFromJson_credentialRef object
    dsimp only
    split
    · exact ⟨h, rfl⟩
    next hok =>
      have hid := hids object rfl (by simpa using hok)
      split
      · cases policy with
        | skip => exact ⟨h, rfl⟩
        | replace => exact ⟨collected_push h href fun _ => hid, rfl⟩
        | createCopy =>
          refine meets_createUuid fun id _ => ⟨collected_push h href ?_, rfl⟩
          intro hpolicy
          cases hpolicy
      · exact ⟨collected_push h href fun _ => hid, rfl⟩
  | _ => exact ⟨h, rfl⟩

theorem meets_importRecords {policy : DuplicatePolicy} {ids : List QString}
    {values : List JsonValue} {index : ℤ} {loop : ImportExportService.ImportLoop}
    (h : Collected policy ids loop)
    (hids : ∀ object, .object object ∈ values →
      (ImportExportService.connectionFromJson platform object).ok = true →
      (ImportExportService.connectionFromJson platform object).value.id ∈ ids) :
    Meets (keeping readings) (ImportExportService.importRecords platform policy index values loop)
      (fun loop' env' => Collected policy ids loop' ∧ env' = env) env := by
  induction values generalizing index loop with
  | nil => exact ⟨h, rfl⟩
  | cons value values ih =>
    have hfirst : ∀ object, value = .object object →
        (ImportExportService.connectionFromJson platform object).ok = true →
        (ImportExportService.connectionFromJson platform object).value.id ∈ ids := by
      rintro object rfl hok
      exact hids object List.mem_cons_self hok
    refine (meets_importRecord h hfirst).bind ?_
    rintro loop' env' ⟨hloop, rfl⟩
    exact ih hloop fun object hmem hok => hids object (List.mem_cons_of_mem _ hmem) hok

/-- The records of a successful import. -/
def ReadFrom (platform : Platform) (bytes : QByteArray) (policy : DuplicatePolicy)
    (imported : Result ImportResult) : Prop :=
  imported.ok = true → ∀ connection ∈ imported.value.connections,
    connection.credentialRef = [] ∧
      (policy = .replace → connection.id ∈ documentIds platform bytes)

theorem mem_recordIds {root object : JsonObject}
    (hmem : .object object ∈ JsonValue.toArray (root.value (qStringLiteral "connections")))
    (hok : (ImportExportService.connectionFromJson platform object).ok = true) :
    (ImportExportService.connectionFromJson platform object).value.id ∈ recordIds platform root := by
  refine List.mem_filterMap.2 ⟨.object object, hmem, ?_⟩
  simp only [hok, if_true]

theorem meets_serializerImport {bytes : QByteArray} {policy : DuplicatePolicy}
    {existingConnectionIds : List QString} :
    Meets (keeping readings)
      (ImportExportService.importConnections platform bytes
        { duplicatePolicy := policy, existingConnectionIds })
      (fun imported env' => ReadFrom platform bytes policy imported ∧ env' = env) env := by
  rw [ImportExportService.importConnections]
  cases hread : platform.codec.fromJson bytes with
  | error errorString =>
    refine ⟨?_, rfl⟩
    intro hok
    cases hok
  | ok value =>
    cases value with
    | object root =>
      dsimp only
      split
      · -- there is no passphrase, and the document is not opened
        refine ⟨?_, rfl⟩
        intro hok
        cases hok
      · unfold ImportExportService.importPlain
        split
        · refine ⟨?_, rfl⟩
          intro hok
          cases hok
        · have hnone : Collected policy (recordIds platform root)
              ⟨existingConnectionIds, { groups := ImportExportService.importGroups platform root }⟩ :=
            fun connection hmem => absurd hmem List.not_mem_nil
          refine (meets_importRecords hnone fun object hmem hok => mem_recordIds hmem hok).bind ?_
          rintro loop env' ⟨hloop, rfl⟩
          refine ⟨fun _ connection hmem => ?_, rfl⟩
          unfold documentIds
          rw [hread]
          exact hloop connection hmem
    | _ =>
      refine ⟨?_, rfl⟩
      intro hok
      cases hok

theorem meets_persistEachGroup (replaced : List QString) {existingGroupIds : List QString}
    {groups : List ConnectionGroup} :
    Meets (keeping readings) (persistEachGroup existingGroupIds groups)
      (fun _ env' => Imported replaced env.state env'.state) env := by
  induction groups generalizing env with
  | nil => exact .refl replaced env.state
  | cons group groups ih =>
    have hsaved : Meets (keeping readings) (saveGroup existingGroupIds group)
        (fun _ env' => Imported replaced env.state env'.state) env := by
      unfold saveGroup
      split
      · refine ConnectionGroupRepository.meets_update ?_ ?_ ?_
        · exact fun row text => .refl replaced env.state
        · exact fun _ => .refl replaced env.state
        · exact fun now updated _ _ _ => .setGroup updated
      · refine ConnectionGroupRepository.meets_add ?_ ?_
        · exact fun row text => .refl replaced env.state
        · exact fun now added _ _ _ => .setGroup added
    refine hsaved.bind ?_
    intro saved mid hmid
    split
    · exact ih.mono fun _ env' h => hmid.trans h
    · exact hmid

theorem meets_persistConnections (replaced : List QString) {existingConnectionIds : List QString}
    {policy : DuplicatePolicy} {connections : List Connection}
    (href : ∀ connection ∈ connections, connection.credentialRef = [])
    (hreplaced : policy = .replace → ∀ connection ∈ connections, connection.id ∈ replaced) :
    Meets (keeping readings)
      (persistConnections platform existingConnectionIds policy connections)
      (fun _ env' => Imported replaced env.state env'.state) env := by
  induction connections generalizing env with
  | nil => exact .refl replaced env.state
  | cons connection connections ih =>
    obtain ⟨hfirst, hrest⟩ := List.forall_mem_cons.1 href
    have hsaved : Meets (keeping readings)
        (saveConnection platform existingConnectionIds policy connection)
        (fun _ env' => Imported replaced env.state env'.state) env := by
      unfold saveConnection
      dsimp only
      split
      · next hupdate =>
        have hpolicy : policy = .replace := by
          rw [Bool.and_eq_true, decide_eq_true_eq] at hupdate
          exact hupdate.1
        refine ConnectionRepository.meets_update ?_ ?_ ?_
        · exact fun row text => .refl replaced env.state
        · exact fun _ => .refl replaced env.state
        · rintro now updated _ rfl _ hid
          refine .setConnection hid hfirst (Or.inr ?_)
          exact hreplaced hpolicy connection List.mem_cons_self
      · refine ConnectionRepository.meets_add ?_ ?_
        · exact fun row text => .refl replaced env.state
        · intro now added _ hadded hnew hid
          refine .setConnection hid ?_ (Or.inl hnew)
          rw [ConnectionRepository.bindConnection_credentialRef, hadded.rest]
          exact hfirst
    refine hsaved.bind ?_
    intro saved mid hmid
    split
    · have htail : policy = .replace → ∀ connection ∈ connections, connection.id ∈ replaced :=
        fun hpolicy c hmem => hreplaced hpolicy c (List.mem_cons_of_mem _ hmem)
      exact (ih hrest htail).mono fun _ env' h => hmid.trans h
    · exact hmid

/-- What an import does to connections and secrets, whether it succeeds or not. -/
theorem meets_importConnections {bytes : QByteArray} {policy : DuplicatePolicy} :
    Meets (keeping readings) (importConnections platform bytes policy)
      (fun _ env' => Imported (replacedIds platform bytes policy) env.state env'.state) env := by
  have hsame := Imported.refl (replacedIds platform bytes policy) env.state
  unfold importConnections
  refine meets_bind.2 (ConnectionRepository.meets_list ?_ ?_)
  · intro text
    exact hsame
  · intro rows _
    simp only [ok_success, if_true]
    refine meets_serializerImport.bind ?_
    rintro imported env' ⟨hread, rfl⟩
    split
    · next hok =>
      have hrecords := hread hok
      have hreplaced : policy = .replace → ∀ connection ∈ imported.value.connections,
          connection.id ∈ replacedIds platform bytes policy := by
        intro hpolicy connection hmem
        rw [replacedIds, if_pos hpolicy]
        exact (hrecords connection hmem).2 hpolicy
      unfold persistGroups
      refine meets_bind.2 (meets_bind.2 (ConnectionGroupRepository.meets_list ?_ ?_))
      · intro text
        exact hsame
      · intro groups _
        simp only [ok_success, if_true]
        refine (meets_persistEachGroup (replacedIds platform bytes policy)).mono ?_
        intro persistedGroups mid hmid
        split
        · refine (meets_persistConnections (replacedIds platform bytes policy)
            (fun connection hmem => (hrecords connection hmem).1) hreplaced).bind ?_
          intro persistedConnections env'' h
          have hall := hmid.trans h
          split <;> exact hall
        · exact hmid
    · exact hsame

end

/-! ## Calls and reachable stores -/

/-- A call that writes to the stores. -/
inductive StoreCall where
  | service (call : ServiceCall)
  | importDocument (bytes : QByteArray) (duplicatePolicy : DuplicatePolicy)

/-- The call, and the error of its result. -/
def StoreCall.perform (platform : Platform) : StoreCall → StoreProgram AppError
  | .service call => call.perform platform.sanitize
  | .importDocument bytes duplicatePolicy => do
    let result ← importConnections platform bytes duplicatePolicy
    return result.error

/-- How a call ends. -/
def StoreCall.Ends (platform : Platform) (env : Environment) :
    StoreCall → AppError → Environment → Prop
  | .service call, error, env' => call.Ends env error env'
  | .importDocument bytes duplicatePolicy, _, env' =>
    Imported (replacedIds platform bytes duplicatePolicy) env.state env'.state

theorem meets_storeCall (platform : Platform) {readings : ℤ → Prop} {env : Environment}
    (call : StoreCall) :
    Meets (keeping readings) (call.perform platform) (call.Ends platform env) env := by
  cases call with
  | service call => exact meets_perform call
  | importDocument bytes policy =>
    exact meets_bind.2 (meets_importConnections.mono fun result env' h => h)

/-- The stores after any calls, successful or not, from empty stores. -/
inductive Reachable (platform : Platform) : Stores → Prop where
  | empty : Reachable platform Stores.empty
  | call {s : Stores} {call : StoreCall} {readings : ℤ → Prop} {es : List (Event stores)}
      {error : AppError} {env : Environment} :
      Reachable platform s → Program.Runs (call.perform platform) es error →
      (keeping readings).Steps ⟨s, []⟩ es env → Reachable platform env.state

/-! ## References resolve -/

/-- Only password connections have a reference. -/
def OpenWithoutRef (s : Stores) : Prop :=
  ∀ id connection, s.connections id = some connection → connection.authType ≠ .password →
    connection.credentialRef = []

/-- The reference of every password connection resolves. -/
def PasswordsResolve (s : Stores) : Prop :=
  ∀ id connection, s.connections id = some connection → connection.authType = .password →
    s.credentials connection.credentialRef ≠ none

/-- Every reference resolves, and no password connection is without one that does. -/
def RefsResolve (s : Stores) : Prop :=
  ∀ id connection, s.connections id = some connection →
    connection.authType = .password ∨ connection.credentialRef ≠ [] →
    s.credentials connection.credentialRef ≠ none

/-- The secrets that connections other than `target` refer to are still there. -/
def KeepsOthers (target : QString) (s s' : Stores) : Prop :=
  ∀ id connection, s.connections id = some connection → id ≠ target →
    s.credentials connection.credentialRef ≠ none → s'.credentials connection.credentialRef ≠ none

section

variable {s : Stores} {connection settled : Connection} {secret : Option QByteArray}
  {env env' : Environment} {ref ref' previous id target : QString} {value : QByteArray}

theorem RefsResolve.of_passwords (h : PasswordsResolve s) (hopen : OpenWithoutRef s) :
    RefsResolve s := by
  intro id connection hfound hhas
  by_cases hpassword : connection.authType = .password
  · exact h id connection hfound hpassword
  · exact absurd (hopen id connection hfound hpassword) (hhas.resolve_left hpassword)

theorem setCredential_ne_none (h : s.credentials ref ≠ none) :
    (s.setCredential ref' value).credentials ref ≠ none := by
  rw [Stores.setCredential_credentials]
  by_cases href : ref = ref'
  · rw [href, Function.update_self]
    exact Option.some_ne_none value
  · rwa [Function.update_of_ne href]

theorem dropCredential_ne_none (h : s.credentials ref ≠ none) (href : ref ≠ ref') :
    (s.dropCredential ref').credentials ref ≠ none := by
  rwa [Stores.dropCredential_credentials, Function.update_of_ne href]

/-- A reference that is not shared is that of no other connection. -/
theorem ref_ne_of_not_shared (h : ¬Shared s ref target)
    (hfound : s.connections id = some connection) (hid : id ≠ target) :
    connection.credentialRef ≠ ref :=
  fun href => h ⟨id, connection, hfound, hid, href⟩

theorem settles_openWithoutRef
    (h : Settles connection secret previous env (.ok settled) env')
    (hopen : settled.authType ≠ .password) : settled.credentialRef = [] := by
  cases h with
  | saved hpassword => exact absurd hpassword hopen
  | replaced hpassword => exact absurd hpassword hopen
  | kept hpassword => exact absurd hpassword hopen
  | dropped => rfl
  | spared => rfl
  | unlisted => rfl

theorem settles_keepsOthers {r : Except AppError Connection}
    (h : Settles connection secret previous env r env') :
    KeepsOthers connection.id env.state env'.state := by
  intro id other hfound hid hsecret
  cases h with
  | saved => exact setCredential_ne_none hsecret
  | replaced => exact setCredential_ne_none hsecret
  | dropped _ _ hshared =>
    exact dropCredential_ne_none hsecret (ref_ne_of_not_shared hshared hfound hid)
  | _ => exact hsecret

theorem settles_resolves {existing : Connection}
    (h : Settles connection secret existing.credentialRef env (.ok settled) env')
    (hresolve : RefsResolve env.state)
    (hfound : env.state.connections connection.id = some existing)
    (href : connection.credentialRef = [] ∨ connection.credentialRef = existing.credentialRef)
    (hhas : settled.authType = .password ∨ settled.credentialRef ≠ []) :
    env'.state.credentials settled.credentialRef ≠ none := by
  cases h with
  | saved =>
    rw [Environment.set_state, Stores.setCredential_credentials, Function.update_self]
    exact Option.some_ne_none _
  | replaced =>
    rw [Environment.set_state, Stores.setCredential_credentials, Function.update_self]
    exact Option.some_ne_none _
  | kept _ _ hne =>
    have hsame := href.resolve_left hne
    rw [hsame]
    exact hresolve _ existing hfound (Or.inr (hsame ▸ hne))
  | dropped hopen => exact absurd rfl (hhas.resolve_left hopen)
  | spared hopen => exact absurd rfl (hhas.resolve_left hopen)
  | unlisted hopen => exact absurd rfl (hhas.resolve_left hopen)

/-! ### Only password connections have references -/

theorem OpenWithoutRef.setConnection {row : Connection} (h : OpenWithoutRef s)
    (hid : row.id ≠ []) (hrow : row.authType ≠ .password → row.credentialRef = []) :
    OpenWithoutRef (s.setConnection row hid) := by
  intro id' other hfound hopen
  rw [Stores.setConnection_connections] at hfound
  by_cases hid' : id' = row.id
  · rw [hid', Function.update_self, Option.some.injEq] at hfound
    exact hfound ▸ hrow (hfound ▸ hopen)
  · rw [Function.update_of_ne hid'] at hfound
    exact h id' other hfound hopen

theorem OpenWithoutRef.removeConnection (h : OpenWithoutRef s) :
    OpenWithoutRef (s.removeConnection id) := by
  intro id' other hfound hopen
  rw [Stores.removeConnection_connections] at hfound
  by_cases hid' : id' = id
  · rw [hid', Function.update_self] at hfound
    cases hfound
  · rw [Function.update_of_ne hid'] at hfound
    exact h id' other hfound hopen

theorem OpenWithoutRef.of_connections {s' : Stores} (h : OpenWithoutRef s)
    (hsame : s'.connections = s.connections) : OpenWithoutRef s' := by
  unfold OpenWithoutRef
  rw [hsame]
  exact h

theorem OpenWithoutRef.imported {s' : Stores} {replaced : List QString} (h : OpenWithoutRef s)
    (himported : Imported replaced s s') : OpenWithoutRef s' := by
  intro id' other hfound hopen
  rcases himported.connections id' with hsame | ⟨_, row, hrow, href⟩
  · exact h id' other (hsame ▸ hfound) hopen
  · rw [hrow, Option.some.injEq] at hfound
    exact hfound ▸ href

theorem OpenWithoutRef.ends {platform : Platform} {call : StoreCall} {error : AppError}
    (h : OpenWithoutRef env.state) (hends : call.Ends platform env error env') :
    OpenWithoutRef env'.state := by
  cases call with
  | importDocument bytes policy => exact h.imported hends
  | service call =>
    cases call with
    | create connection secret =>
      obtain ⟨r, _, hcreates⟩ := hends
      cases hcreates with
      | refused => exact h
      | failed => exact h
      | leftBehind => exact h
      | added hid _ _ _ _ _ _ hpassword =>
        exact (h.of_connections rfl).setConnection hid fun hopen =>
          absurd hpassword hopen
      | addedOpen hid _ _ _ _ href => exact h.setConnection hid fun _ => href
    | update connection secret =>
      obtain ⟨r, _, hupdates⟩ := hends
      cases hupdates with
      | refused => exact h
      | failed => exact h
      | lost _ _ hsettled => exact h.of_connections hsettled.connections
      | stored hid _ _ hsettled _ hauth href =>
        refine (h.of_connections hsettled.connections).setConnection hid ?_
        intro hopen
        rw [href]
        exact settles_openWithoutRef hsettled (hauth ▸ hopen)
    | remove connectionId =>
      obtain ⟨r, _, hremoves⟩ := hends
      cases hremoves with
      | missing => exact h
      | failed => exact h
      | failedTwice => exact h
      | removed => exact h.removeConnection
      | unlisted => exact h.removeConnection
      | dropped => exact h.removeConnection.of_connections rfl
      | leftBehind => exact h.removeConnection

theorem Reachable.openWithoutRef {platform : Platform} (h : Reachable platform s) :
    OpenWithoutRef s := by
  induction h with
  | empty =>
    intro id' other hfound
    cases hfound
  | call _ hrun hsteps ih =>
    exact OpenWithoutRef.ends ih ((meets_storeCall platform _).sound hrun hsteps)

/-! ### No call removes the secret of another connection -/

/-- The connection that a call is about. -/
def targetOf : ServiceCall → QString
  | .create connection _ => connection.id
  | .update connection _ => connection.id
  | .remove connectionId => connectionId

theorem keepsOthers_ends {call : ServiceCall} {error : AppError}
    (h : call.Ends env error env') : KeepsOthers (targetOf call) env.state env'.state := by
  intro id' other hfound hid hsecret
  cases call with
  | create connection secret =>
    obtain ⟨r, _, hcreates⟩ := h
    cases hcreates with
    | refused => exact hsecret
    | failed => exact hsecret
    | leftBehind => exact setCredential_ne_none hsecret
    | added => exact setCredential_ne_none hsecret
    | addedOpen => exact hsecret
  | update connection secret =>
    obtain ⟨r, _, hupdates⟩ := h
    cases hupdates with
    | refused => exact hsecret
    | failed => exact hsecret
    | lost _ _ hsettled => exact settles_keepsOthers hsettled id' other hfound hid hsecret
    | stored _ _ _ hsettled => exact settles_keepsOthers hsettled id' other hfound hid hsecret
  | remove connectionId =>
    obtain ⟨r, _, hremoves⟩ := h
    cases hremoves with
    | dropped _ _ _ hshared =>
      exact dropCredential_ne_none hsecret (ref_ne_of_not_shared hshared hfound hid)
    | _ => exact hsecret

/-! ### References resolve after a call -/

theorem RefsResolve.setConnection {row : Connection} (hid : row.id ≠ [])
    (h : ∀ id other, s.connections id = some other → id ≠ row.id →
      other.authType = .password ∨ other.credentialRef ≠ [] →
      s.credentials other.credentialRef ≠ none)
    (hrow : row.authType = .password ∨ row.credentialRef ≠ [] →
      s.credentials row.credentialRef ≠ none) :
    RefsResolve (s.setConnection row hid) := by
  intro id' other hfound hhas
  rw [Stores.setConnection_connections] at hfound
  rw [Stores.setConnection_credentials]
  by_cases hid' : id' = row.id
  · rw [hid', Function.update_self, Option.some.injEq] at hfound
    exact hfound ▸ hrow (hfound ▸ hhas)
  · rw [Function.update_of_ne hid'] at hfound
    exact h id' other hfound hid' hhas

theorem RefsResolve.removeConnection (h : ∀ id' other, s.connections id' = some other → id' ≠ id →
      other.authType = .password ∨ other.credentialRef ≠ [] →
      s.credentials other.credentialRef ≠ none) :
    RefsResolve (s.removeConnection id) := by
  intro id' other hfound hhas
  rw [Stores.removeConnection_connections] at hfound
  rw [Stores.removeConnection_credentials]
  by_cases hid' : id' = id
  · rw [hid', Function.update_self] at hfound
    cases hfound
  · rw [Function.update_of_ne hid'] at hfound
    exact h id' other hfound hid' hhas

/-- An update that brings no reference of its own: the connection has none, or the one
    that is stored. -/
def KeepsRef (s : Stores) : ServiceCall → Prop
  | .update connection _ => connection.credentialRef = [] ∨
      ∀ existing, s.connections connection.id = some existing →
        connection.credentialRef = existing.credentialRef
  | _ => True

theorem RefsResolve.ends {call : ServiceCall} {error : AppError} (h : RefsResolve env.state)
    (hends : call.Ends env error env') (herror : error.hasError = false)
    (hkeeps : KeepsRef env.state call) : RefsResolve env'.state := by
  have hothers := keepsOthers_ends hends
  have hfails : ∀ {T : Type} {r : Result T}, r.ok = false → error = r.error → False := by
    rintro T r hr rfl
    exact absurd ((hasError_iff.2 hr).symm.trans herror).symm Bool.false_ne_true
  cases call with
  | create connection secret =>
    obtain ⟨r, rfl, hcreates⟩ := hends
    cases hcreates with
    | refused hr => exact (hfails hr rfl).elim
    | failed hr => exact (hfails hr rfl).elim
    | leftBehind hr => exact (hfails hr rfl).elim
    | added hid _ _ _ _ _ _ _ href =>
      refine RefsResolve.setConnection hid ?_ ?_
      · intro id' other hfound _ hhas
        exact setCredential_ne_none (h id' other hfound hhas)
      · intro _
        rw [href, Stores.setCredential_credentials, Function.update_self]
        exact Option.some_ne_none _
    | addedOpen hid _ _ _ hopen href =>
      refine RefsResolve.setConnection hid
        (fun id' other hfound _ hhas => h id' other hfound hhas) ?_
      intro hhas
      exact absurd href (hhas.resolve_left hopen)
  | update connection secret =>
    obtain ⟨r, rfl, hupdates⟩ := hends
    cases hupdates with
    | refused hr => exact (hfails hr rfl).elim
    | failed hr => exact (hfails hr rfl).elim
    | lost hr => exact (hfails hr rfl).elim
    | stored hid _ hfound hsettled hrowId hauth href =>
      refine RefsResolve.setConnection hid ?_ ?_
      · intro id' other hother hid' hhas
        rw [hsettled.connections] at hother
        exact settles_keepsOthers hsettled id' other hother (hrowId ▸ hid') (h id' other hother hhas)
      · rw [hauth, href]
        exact settles_resolves hsettled h hfound (hkeeps.imp (fun h => h) fun h => h _ hfound)
  | remove connectionId =>
    obtain ⟨r, rfl, hremoves⟩ := hends
    cases hremoves with
    | missing hr => exact (hfails hr rfl).elim
    | failed hr => exact (hfails hr rfl).elim
    | failedTwice hr => exact (hfails hr rfl).elim
    | leftBehind hr => exact (hfails hr rfl).elim
    | removed => exact .removeConnection fun id' other hfound _ hhas => h id' other hfound hhas
    | unlisted => exact .removeConnection fun id' other hfound _ hhas => h id' other hfound hhas
    | dropped =>
      intro id' other hfound hhas
      rw [Environment.set_state, Stores.dropCredential_connections,
        Stores.removeConnection_connections] at hfound
      by_cases hid' : id' = connectionId
      · rw [hid', Function.update_self] at hfound
        cases hfound
      · rw [Function.update_of_ne hid'] at hfound
        exact hothers id' other hfound hid' (h id' other hfound hhas)

end

/-- A stored connection has the reference. -/
def Referred (s : Stores) (ref : QString) : Prop :=
  ref ≠ [] ∧ ∃ id connection, s.connections id = some connection ∧ connection.credentialRef = ref

/-- The credential store holds exactly the secrets that are referred to. -/
def Balanced (s : Stores) : Prop := ∀ ref, s.credentials ref ≠ none ↔ Referred s ref

/-- A call does not lose a reference that no other connection has.  An update that gives
    up the stored reference must remove its secret, which it does for a connection
    without a password, if the connections can be listed; a password connection without
    a new secret must have a reference that resolves.  An import that replaces
    connections must leave one that has their reference. -/
def StoreCall.Balances (platform : Platform) (s : Stores) (failures : List StoreOp) :
    StoreCall → Prop
  | .service (.create _ _) => True
  | .service (.update connection secret) =>
    ∀ existing, s.connections connection.id = some existing →
      (existing.credentialRef = [] ∨ Shared s existing.credentialRef connection.id ∨
        connection.authType = .password ∧ connection.credentialRef = existing.credentialRef ∨
        connection.authType ≠ .password ∧ failures = []) ∧
      (connection.authType = .password → secret = none →
        s.credentials connection.credentialRef ≠ none)
  | .service (.remove connectionId) =>
    ∀ existing, s.connections connectionId = some existing →
      existing.credentialRef = [] ∨ Shared s existing.credentialRef connectionId ∨ failures = []
  | .importDocument bytes duplicatePolicy =>
    ∀ id existing, s.connections id = some existing →
      id ∈ replacedIds platform bytes duplicatePolicy → existing.credentialRef = [] ∨
        ∃ id' other, s.connections id' = some other ∧
          id' ∉ replacedIds platform bytes duplicatePolicy ∧
          other.credentialRef = existing.credentialRef

/-- The stores after successful calls that meet a condition, from empty stores. -/
inductive Succeeds (platform : Platform) (P : Stores → List StoreOp → StoreCall → Prop) :
    Stores → Prop where
  | empty : Succeeds platform P Stores.empty
  | call {s : Stores} {call : StoreCall} {readings : ℤ → Prop} {es : List (Event stores)}
      {error : AppError} {env : Environment} :
      Succeeds platform P s → Program.Runs (call.perform platform) es error →
      (keeping readings).Steps ⟨s, []⟩ es env → error.hasError = false →
      P s env.failures call → Succeeds platform P env.state

section

variable {s : Stores} {connection settled existing : Connection} {secret : Option QByteArray}
  {env env' : Environment} {ref ref' id target : QString} {value : QByteArray}

theorem setCredential_ne_none_iff :
    (s.setCredential ref' value).credentials ref ≠ none ↔
      ref = ref' ∨ s.credentials ref ≠ none := by
  rw [Stores.setCredential_credentials]
  by_cases h : ref = ref'
  · rw [h, Function.update_self]
    exact iff_of_true (Option.some_ne_none value) (Or.inl rfl)
  · rw [Function.update_of_ne h]
    exact (or_iff_right h).symm

theorem dropCredential_ne_none_iff :
    (s.dropCredential ref').credentials ref ≠ none ↔ ref ≠ ref' ∧ s.credentials ref ≠ none := by
  rw [Stores.dropCredential_credentials]
  by_cases h : ref = ref'
  · rw [h, Function.update_self]
    exact iff_of_false (fun hne => hne rfl) fun hne => hne.1 rfl
  · rw [Function.update_of_ne h]
    exact (and_iff_right h).symm

/-- A reference is that of one connection, or another one has it. -/
theorem referred_iff (target : QString) :
    Referred s ref ↔ ref ≠ [] ∧
      ((∃ connection, s.connections target = some connection ∧ connection.credentialRef = ref) ∨
        Shared s ref target) := by
  refine and_congr_right fun _ => ?_
  constructor
  · rintro ⟨id, connection, hfound, href⟩
    by_cases hid : id = target
    · exact Or.inl ⟨connection, hid ▸ hfound, href⟩
    · exact Or.inr ⟨id, connection, hfound, hid, href⟩
  · rintro (⟨connection, hfound, href⟩ | ⟨id, connection, hfound, _, href⟩)
    · exact ⟨target, connection, hfound, href⟩
    · exact ⟨id, connection, hfound, href⟩

theorem shared_of_update {row : Option Connection} {s' : Stores}
    (h : s'.connections = Function.update s.connections target row) :
    Shared s' ref target ↔ Shared s ref target := by
  unfold Shared
  rw [h]
  constructor
  · rintro ⟨id, connection, hfound, hid, href⟩
    rw [Function.update_of_ne hid] at hfound
    exact ⟨id, connection, hfound, hid, href⟩
  · rintro ⟨id, connection, hfound, hid, href⟩
    exact ⟨id, connection, by rwa [Function.update_of_ne hid], hid, href⟩

theorem referred_setConnection {row : Connection} (hid : row.id ≠ []) :
    Referred (s.setConnection row hid) ref ↔
      ref ≠ [] ∧ (row.credentialRef = ref ∨ Shared s ref row.id) := by
  rw [referred_iff row.id, shared_of_update (Stores.setConnection_connections s row hid),
    Stores.setConnection_connections, Function.update_self]
  simp

theorem referred_removeConnection :
    Referred (s.removeConnection id) ref ↔ ref ≠ [] ∧ Shared s ref id := by
  rw [referred_iff id, shared_of_update (Stores.removeConnection_connections s id),
    Stores.removeConnection_connections, Function.update_self]
  simp

/-- The references of stores with a connection that is about to change. -/
theorem referred_of_found (hfound : s.connections target = some existing) :
    Referred s ref ↔ ref ≠ [] ∧ (existing.credentialRef = ref ∨ Shared s ref target) := by
  rw [referred_iff target, hfound]
  simp

theorem referred_of_new (hnew : s.connections target = none) :
    Referred s ref ↔ ref ≠ [] ∧ Shared s ref target := by
  rw [referred_iff target, hnew]
  simp

theorem Balanced.imported {s' : Stores} {replaced : List QString} (h : Balanced s)
    (himported : Imported replaced s s')
    (hleft : ∀ id existing, s.connections id = some existing → id ∈ replaced →
      existing.credentialRef = [] ∨ ∃ id' other, s.connections id' = some other ∧
        id' ∉ replaced ∧ other.credentialRef = existing.credentialRef) : Balanced s' := by
  have hstays : ∀ id other, s.connections id = some other → id ∉ replaced →
      s'.connections id = some other := by
    intro id other hfound hnot
    rcases himported.connections id with hsame | ⟨hnone | hmem, _⟩
    · exact hsame.trans hfound
    · exact absurd (hfound.symm.trans hnone) (Option.some_ne_none other)
    · exact absurd hmem hnot
  intro ref
  rw [himported.credentials, h ref]
  refine and_congr_right fun hne => ?_
  constructor
  · rintro ⟨id, connection, hfound, rfl⟩
    by_cases hmem : id ∈ replaced
    · obtain ⟨id', other, hother, hnot, href⟩ :=
        (hleft id connection hfound hmem).resolve_left hne
      exact ⟨id', other, hstays id' other hother hnot, href⟩
    · exact ⟨id, connection, hstays id connection hfound hmem, rfl⟩
  · rintro ⟨id, connection, hfound, rfl⟩
    rcases himported.connections id with hsame | ⟨_, row, hrow, href⟩
    · exact ⟨id, connection, hsame ▸ hfound, rfl⟩
    · rw [hrow, Option.some.injEq] at hfound
      exact absurd (hfound ▸ href) hne

/-- The stores after a settled update. -/
theorem Balanced.of_settles {row : Connection} (hid : row.id ≠ []) (h : Balanced env.state)
    (hfound : env.state.connections connection.id = some existing)
    (hsettled : Settles connection secret existing.credentialRef env (.ok settled) env')
    (hrowId : row.id = connection.id) (href : row.credentialRef = settled.credentialRef)
    (hkept : existing.credentialRef = [] ∨ Shared env.state existing.credentialRef connection.id ∨
      connection.authType = .password ∧ connection.credentialRef = existing.credentialRef ∨
      connection.authType ≠ .password ∧ env'.failures = env.failures)
    (hsecret : connection.authType = .password → secret = none →
      env.state.credentials connection.credentialRef ≠ none) :
    Balanced (env'.state.setConnection row hid) := by
  intro ref
  have hrefs : Referred (env'.state.setConnection row hid) ref ↔
      ref ≠ [] ∧ (settled.credentialRef = ref ∨ Shared env.state ref connection.id) := by
    rw [referred_setConnection, href, hrowId]
    unfold Shared
    rw [hsettled.connections]
  have hold : env.state.credentials ref ≠ none ↔
      ref ≠ [] ∧ (existing.credentialRef = ref ∨ Shared env.state ref connection.id) :=
    (h ref).trans (referred_of_found hfound)
  rw [Stores.setConnection_credentials, hrefs]
  cases hsettled with
  | saved hpassword hvalue hempty hne =>
    rw [Environment.set_state, setCredential_ne_none_iff, hold]
    grind
  | replaced hpassword hvalue hne =>
    rw [Environment.set_state, setCredential_ne_none_iff, hold]
    grind
  | kept hpassword hnone hne =>
    have hthere := hsecret hpassword hnone
    grind
  | dropped hopen hprevious hshared =>
    rw [Environment.set_state, dropCredential_ne_none_iff, hold]
    grind
  | spared hopen hspared =>
    rw [hold]
    grind
  | unlisted hopen hprevious =>
    have hfailures : (env.fail .selectConnections).failures ≠ env.failures := by simp
    rw [Environment.fail_state, hold]
    grind

/-- A successful call that meets the condition keeps the balance. -/
theorem Balanced.ends {platform : Platform} {call : StoreCall} {error : AppError}
    (h : Balanced env.state) (hnone : env.failures = [])
    (hends : call.Ends platform env error env') (herror : error.hasError = false)
    (hbalances : call.Balances platform env.state env'.failures) : Balanced env'.state := by
  have hfails : ∀ {T : Type} {r : Result T}, r.ok = false → error = r.error → False := by
    rintro T r hr rfl
    exact absurd ((hasError_iff.2 hr).symm.trans herror).symm Bool.false_ne_true
  cases call with
  | importDocument bytes policy => exact h.imported hends hbalances
  | service call =>
    cases call with
    | create connection secret =>
      obtain ⟨r, rfl, hcreates⟩ := hends
      cases hcreates with
      | refused hr => exact (hfails hr rfl).elim
      | failed hr => exact (hfails hr rfl).elim
      | leftBehind hr => exact (hfails hr rfl).elim
      | added hid _ _ _ hne _ hnew _ href =>
        intro ref
        rw [Environment.set_state, Stores.setConnection_credentials, setCredential_ne_none_iff,
          referred_setConnection, h ref, referred_of_new hnew, href]
        unfold Shared
        rw [Stores.setCredential_connections]
        grind
      | addedOpen hid _ _ hnew _ href =>
        intro ref
        rw [Environment.set_state, Stores.setConnection_credentials, referred_setConnection, h ref,
          referred_of_new hnew, href]
        grind
    | update connection secret =>
      obtain ⟨r, rfl, hupdates⟩ := hends
      cases hupdates with
      | refused hr => exact (hfails hr rfl).elim
      | failed hr => exact (hfails hr rfl).elim
      | lost hr => exact (hfails hr rfl).elim
      | stored hid _ hfound hsettled hrowId _ href =>
        obtain ⟨hkept, hsecret⟩ := hbalances _ hfound
        refine h.of_settles hid hfound hsettled hrowId href ?_ hsecret
        rw [hnone]
        exact hkept
    | remove connectionId =>
      obtain ⟨r, rfl, hremoves⟩ := hends
      cases hremoves with
      | missing hr => exact (hfails hr rfl).elim
      | failed hr => exact (hfails hr rfl).elim
      | failedTwice hr => exact (hfails hr rfl).elim
      | leftBehind hr => exact (hfails hr rfl).elim
      | removed _ hfound hspared =>
        intro ref
        rw [Environment.set_state, Stores.removeConnection_credentials, referred_removeConnection,
          h ref, referred_of_found hfound]
        grind
      | unlisted _ hfound hne =>
        have hspared := hbalances _ hfound
        intro ref
        rw [Environment.set_state, Stores.removeConnection_credentials, referred_removeConnection,
          h ref, referred_of_found hfound]
        simp only [Environment.set_failures, Environment.fail_failures, hnone, List.nil_append,
          List.cons_ne_nil, or_false] at hspared
        grind
      | dropped _ hfound hne hshared =>
        intro ref
        have hsame : ∀ ref',
            Referred ((env.state.removeConnection connectionId).dropCredential ref') ref ↔
              Referred (env.state.removeConnection connectionId) ref := fun _ => Iff.rfl
        rw [Environment.set_state, dropCredential_ne_none_iff,
          Stores.removeConnection_credentials, hsame, referred_removeConnection, h ref,
          referred_of_found hfound]
        grind

end

/-- The reference of a first password, and that of a second. -/
def firstRef : QString := qStringLiteral "vault:a:1"

def secondRef : QString := qStringLiteral "vault:a:2"

/-- A password connection before it is created. -/
def newConnection : Connection := { id := qStringLiteral "a" }

/-- Its row with a reference, written at a time. -/
def rowWith (ref : QString) (now : ℤ) : Connection :=
  { newConnection with credentialRef := ref, createdAt := some 0, updatedAt := some now }

@[simp] theorem rowWith_id (ref : QString) (now : ℤ) : (rowWith ref now).id = newConnection.id := rfl

/-- The creation of the connection with a password. -/
def createEvents : List (Event stores) :=
  [⟨.saveCredential newConnection.id [1], Result.success firstRef⟩,
    ⟨.currentDateTimeUtc, (0 : ℤ)⟩,
    ⟨.insertConnection (rowWith firstRef 0), (.ok () : Except QString Unit)⟩]

/-- The stores with the connection and its first password. -/
def createdStores : Stores :=
  (Stores.empty.setCredential firstRef [1]).setConnection (rowWith firstRef 0) (by decide)

theorem runs_create :
    Program.Runs ((ServiceCall.create newConnection (some [1])).perform
      (default : Platform).sanitize) createEvents {} :=
  .ask _ (.ask _ (.ask _ (.pure _)))

theorem steps_create :
    (keeping fun _ => True).Steps ⟨Stores.empty, []⟩ createEvents ⟨createdStores, []⟩ :=
  ⟨_, ⟨_, ⟨by decide, rfl, rfl⟩, rfl⟩, _, ⟨trivial, rfl⟩, _,
    ⟨_, ⟨rfl, by decide, rfl⟩, rfl⟩, rfl⟩

theorem succeeds_create (P : Stores → List StoreOp → StoreCall → Prop)
    (hP : P Stores.empty [] (.service (.create newConnection (some [1])))) :
    Succeeds default P createdStores := by
  have hrun : Program.Runs (StoreCall.perform default
      (.service (.create newConnection (some [1])))) createEvents {} := runs_create
  exact .call .empty hrun steps_create rfl hP

/-- The stored connection without its reference, as it is updated with another password. -/
def renewedConnection : Connection := rowWith [] 0

/-- The update. -/
def renewEvents : List (Event stores) :=
  [⟨.selectConnection renewedConnection.id,
      (.ok (some (rowWith firstRef 0)) : Except QString (Option Connection))⟩,
    ⟨.saveCredential renewedConnection.id [2], Result.success secondRef⟩,
    ⟨.currentDateTimeUtc, (1 : ℤ)⟩,
    ⟨.updateConnection (rowWith secondRef 1), (.ok 1 : Except QString ℕ)⟩]

/-- The stores then. -/
def renewedStores : Stores :=
  (createdStores.setCredential secondRef [2]).setConnection (rowWith secondRef 1) (by decide)

theorem runs_renew :
    Program.Runs (StoreCall.perform default (.service (.update renewedConnection (some [2]))))
      renewEvents {} :=
  .ask _ (.ask _ (.ask _ (.ask _ (.pure _))))

/-- The stores before the row is updated. -/
def secretEnvironment : Environment := ⟨createdStores.setCredential secondRef [2], []⟩

theorem steps_renew :
    (keeping fun _ => True).Steps ⟨createdStores, []⟩ renewEvents ⟨renewedStores, []⟩ := by
  have hfound : secretEnvironment.state.connections (rowWith secondRef 1).id ≠ none := by
    unfold secretEnvironment
    rw [Stores.setCredential_connections, createdStores, Stores.setConnection_connections,
      rowWith_id, rowWith_id, Function.update_self]
    exact Option.some_ne_none _
  have hstored : createdStores.connections renewedConnection.id = some (rowWith firstRef 0) := by
    rw [createdStores, Stores.setConnection_connections]
    exact Function.update_self _ _ _
  have hnew : createdStores.credentials secondRef = none := by decide
  have hupdated := @step_updateConnection (fun _ => True) secretEnvironment
    (rowWith secondRef 1) 0 hfound (by decide)
  exact ⟨⟨createdStores, []⟩, ⟨_, ⟨hstored.symm, rfl⟩, rfl⟩, secretEnvironment,
    ⟨_, ⟨by decide, hnew, rfl⟩, rfl⟩, _, ⟨trivial, rfl⟩, _, hupdated, rfl⟩

end SmbBrowser.Application
