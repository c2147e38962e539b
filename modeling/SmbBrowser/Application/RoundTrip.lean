import SmbBrowser.Application.ImportExport

/-!
# Export and import again

`connectionFromJson` takes most fields from where `connectionToJson` has put them, but
it reads server, share and initial path from the normalised URI, which
`PathNormalizer` makes of server and share alone.

Results:
* `value_connectionFields`, `connectionFromJson_connectionFields`: an exported connection as
  it is read back;
* `kept_iff`: which connections are read back as they were;
* `importRecords_connectionFields`: records without duplicates are imported in their order;
* `roundTrip_iff`: exactly when importing what was exported gives the same connections.
-/

namespace SmbBrowser.Application

open SmbBrowser.Base SmbBrowser.Qt SmbBrowser.Core SmbBrowser.Storage

namespace ImportExportService

variable {platform : Platform} {c : Connection}

/-! ## Fields -/

/-- An entry that may be left out. -/
def insertEntry (object : JsonObject) (entry : QString × Option JsonValue) : JsonObject :=
  match entry.2 with
  | some v => object.insert entry.1 v
  | none => object

theorem value_insertEntry_ne {object : JsonObject} {entry : QString × Option JsonValue}
    {key : QString} (h : entry.1 ≠ key) :
    (insertEntry object entry).value key = object.value key := by
  unfold insertEntry
  split
  · rw [JsonObject.value_insert, if_neg h]
  · rfl

theorem value_foldl_insertEntry {entries : List (QString × Option JsonValue)}
    {object : JsonObject} {key : QString} (h : key ∉ entries.map (·.1)) :
    (entries.foldl insertEntry object).value key = object.value key := by
  induction entries generalizing object with
  | nil => rfl
  | cons entry entries ih =>
    obtain ⟨hne, hrest⟩ := not_or.1 (List.mem_cons.not.1 (List.map_cons ▸ h))
    rw [List.foldl_cons, ih hrest, value_insertEntry_ne fun heq => hne heq.symm]

/-- Entries with different keys are all found. -/
theorem value_of_mem {entries : List (QString × Option JsonValue)} {object : JsonObject}
    {key : QString} {v : Option JsonValue} (hnodup : (entries.map (·.1)).Nodup)
    (hnone : object.value key = none) (hmem : (key, v) ∈ entries) :
    (entries.foldl insertEntry object).value key = v := by
  induction entries generalizing object with
  | nil => exact absurd hmem List.not_mem_nil
  | cons entry entries ih =>
    rw [List.map_cons, List.nodup_cons] at hnodup
    rw [List.foldl_cons]
    rcases List.mem_cons.1 hmem with rfl | hmem
    · rw [value_foldl_insertEntry hnodup.1]
      unfold insertEntry
      cases v with
      | none => exact hnone
      | some v => rw [JsonObject.value_insert, if_pos rfl]
    · refine ih hnodup.2 ?_ hmem
      have hne : entry.1 ≠ key := fun heq =>
        hnodup.1 (heq ▸ List.mem_map_of_mem hmem)
      rw [value_insertEntry_ne hne, hnone]

/-- The entries of an exported connection, in the order in which they are inserted. -/
def exportedEntries (platform : Platform) (c : Connection) : List (QString × Option JsonValue) :=
  let date (dateTime : QDateTime) : Option JsonValue :=
    dateTime.map fun t => .string (platform.dateToIso t)
  [(qStringLiteral "id", some (.string c.id)),
    (qStringLiteral "name", some (.string c.name)),
    (qStringLiteral "inputPath", some (.string c.inputPath)),
    (qStringLiteral "normalizedUri", some (.string c.normalizedUri)),
    (qStringLiteral "server", some (.string c.server)),
    (qStringLiteral "share", some (.string c.share)),
    (qStringLiteral "initialRemotePath", some (.string c.initialRemotePath)),
    (qStringLiteral "domain", some (.string c.domain)),
    (qStringLiteral "username", some (.string c.username)),
    (qStringLiteral "authType", some (.string c.authType.toQString)),
    (qStringLiteral "comment", some (.string c.comment)),
    (qStringLiteral "groupId", some (.string c.groupId)),
    (qStringLiteral "favorite", some (.bool c.isFavorite)),
    (qStringLiteral "lastErrorCode", some (.string c.lastErrorCode.toQString)),
    (qStringLiteral "lastErrorMessage", some (.string (platform.sanitize c.lastErrorMessage))),
    (qStringLiteral "lastOpenedAt", date c.lastOpenedAt),
    (qStringLiteral "createdAt", date c.createdAt),
    (qStringLiteral "updatedAt", date c.updatedAt),
    (qStringLiteral "lastSuccessfulCheckAt", date c.lastSuccessfulCheckAt)]

theorem addDateTime_eq (object : JsonObject) (key : QString) (dateTime : QDateTime) :
    addDateTime platform object key dateTime =
      insertEntry object (key, dateTime.map fun t => .string (platform.dateToIso t)) := by
  cases dateTime <;> rfl

theorem connectionFields_eq :
    connectionFields platform c = (exportedEntries platform c).foldl insertEntry [] := by
  simp only [connectionFields, addDateTime_eq]
  rfl

theorem nodup_exportedEntries : ((exportedEntries platform c).map (·.1)).Nodup := by
  have hkeys : (exportedEntries platform c).map (·.1) = (exportedEntries default {}).map (·.1) := rfl
  rw [hkeys]
  decide +kernel

theorem value_connectionFields {key : QString} {v : Option JsonValue}
    (h : (key, v) ∈ exportedEntries platform c) : (connectionFields platform c).value key = v := by
  rw [connectionFields_eq]
  exact value_of_mem nodup_exportedEntries rfl h

/-! ## One connection -/

/-- A date as it is read back. -/
def rereadDate (platform : Platform) (dateTime : QDateTime) : QDateTime :=
  dateTime.bind fun t => platform.dateFromIso (platform.dateToIso t)

theorem dateTimeFromJson_of_value {object : JsonObject} {key : QString} {dateTime : QDateTime}
    (h : object.value key = dateTime.map fun t => .string (platform.dateToIso t)) :
    dateTimeFromJson platform object key = rereadDate platform dateTime := by
  unfold dateTimeFromJson
  rw [h]
  cases dateTime <;> rfl

theorem errorCodeFromString_toQString (code : ErrorCode) :
    errorCodeFromString code.toQString = code := by
  cases code <;> decide

theorem authTypeFromString_toQString (authType : AuthType) :
    authTypeFromString authType.toQString = authType := by
  cases authType <;> decide

/-- An exported connection as it is read with a normalised path. -/
def reread (platform : Platform) (c : Connection) (path : NormalizedSmbPath) : Connection :=
  { c with
    normalizedUri := path.normalizedUri
    server := path.server
    share := path.share
    initialRemotePath := path.initialRemotePath
    credentialRef := []
    lastErrorMessage := platform.sanitize (platform.sanitize c.lastErrorMessage)
    lastOpenedAt := rereadDate platform c.lastOpenedAt
    createdAt := rereadDate platform c.createdAt
    updatedAt := rereadDate platform c.updatedAt
    lastSuccessfulCheckAt := rereadDate platform c.lastSuccessfulCheckAt }

theorem connectionFromJson_connectionFields :
    connectionFromJson platform (connectionFields platform c) =
      let normalized := PathNormalizer.normalizeSmbPath platform.tables platform.url c.normalizedUri
      if normalized.ok then .success (reread platform c normalized.value)
      else .failure normalized.error := by
  have hfields : ∀ k {key v}, (exportedEntries platform c)[k]? = some (key, v) →
      (connectionFields platform c).value key = v :=
    fun _ {_ _} h => value_connectionFields (List.mem_of_getElem? h)
  unfold connectionFromJson
  simp only [hfields 0 rfl, hfields 1 rfl, hfields 2 rfl, hfields 3 rfl, hfields 7 rfl,
    hfields 8 rfl, hfields 9 rfl, hfields 10 rfl, hfields 11 rfl, hfields 12 rfl, hfields 13 rfl,
    hfields 14 rfl, dateTimeFromJson_of_value (hfields 15 rfl),
    dateTimeFromJson_of_value (hfields 16 rfl), dateTimeFromJson_of_value (hfields 17 rfl),
    dateTimeFromJson_of_value (hfields 18 rfl), JsonValue.toString, JsonValue.toBool,
    authTypeFromString_toQString, errorCodeFromString_toQString]
  rfl

/-! ## Connections built from paths -/

/-- What `QUrl` and `QString` guarantee. -/
structure Documented (platform : Platform) : Prop where
  /-- A text is itself, case aside. -/
  sameIgnoringCase_self : ∀ text, platform.tables.sameIgnoringCase text text = true
  /-- A slash ends the host. -/
  host : ∀ text, slash ∉ (platform.url text).host
  /-- The path of a valid URI starts at the slash behind the server, if not later, and
      decoding makes it no longer. -/
  path : ∀ server share, slash ∉ server →
    (platform.url (PathNormalizer.smbUri server share)).isValid = true →
    (platform.url (PathNormalizer.smbUri server share)).path.length ≤ share.length + 1

/-- A connection whose path comes from an input that the normaliser accepts. -/
def Built (platform : Platform) (c : Connection) : Prop :=
  ∃ inputPath path,
    (PathNormalizer.normalizeSmbPath platform.tables platform.url inputPath).ok = true ∧
    (PathNormalizer.normalizeSmbPath platform.tables platform.url inputPath).value = path ∧
    c.normalizedUri = path.normalizedUri ∧ c.server = path.server ∧ c.share = path.share ∧
    c.initialRemotePath = path.initialRemotePath

/-- A connection, less the reference of its secret and the text of its last error. -/
def exported (c : Connection) : Connection :=
  { c with credentialRef := [], lastErrorMessage := [] }

/-- A connection that keeps server, share and path when its URI is read, and its dates
    when they are. -/
structure Kept (platform : Platform) (c : Connection) : Prop where
  isValid : (platform.url c.normalizedUri).isValid = true
  scheme :
    platform.tables.sameIgnoringCase (platform.url c.normalizedUri).scheme (qStringLiteral "smb")
      = true
  userName : (platform.url c.normalizedUri).userName = []
  password : (platform.url c.normalizedUri).password = []
  host : (platform.url c.normalizedUri).host.trimmed = c.server
  share : (splitPath (platform.url c.normalizedUri).path).head?.map QString.trimmed = some c.share
  initialRemotePath : c.initialRemotePath = []
  lastOpenedAt : rereadDate platform c.lastOpenedAt = c.lastOpenedAt
  createdAt : rereadDate platform c.createdAt = c.createdAt
  updatedAt : rereadDate platform c.updatedAt = c.updatedAt
  lastSuccessfulCheckAt :
    rereadDate platform c.lastSuccessfulCheckAt = c.lastSuccessfulCheckAt

theorem Built.normal (hplatform : Documented platform) (h : Built platform c) :
    PathNormalizer.Normal c.server ∧ PathNormalizer.Normal c.share ∧
      c.normalizedUri = PathNormalizer.smbUri c.server c.share := by
  obtain ⟨inputPath, path, hok, rfl, huri, hserver, hshare, -⟩ := h
  have hnormal := PathNormalizer.normal_of_ok hplatform.host hok
  rw [huri, hserver, hshare]
  exact hnormal

theorem exported_reread_iff {path : NormalizedSmbPath} :
    exported (reread platform c path) = exported c ↔
      (path.normalizedUri = c.normalizedUri ∧ path.server = c.server ∧ path.share = c.share ∧
        path.initialRemotePath = c.initialRemotePath) ∧
      rereadDate platform c.lastOpenedAt = c.lastOpenedAt ∧
      rereadDate platform c.createdAt = c.createdAt ∧
      rereadDate platform c.updatedAt = c.updatedAt ∧
      rereadDate platform c.lastSuccessfulCheckAt = c.lastSuccessfulCheckAt := by
  simp only [exported, reread, Connection.mk.injEq, true_and, and_assoc]

/-- A connection is read back as it was exactly when it is kept. -/
theorem kept_iff (hplatform : Documented platform) (hbuilt : Built platform c) :
    ((PathNormalizer.normalizeSmbPath platform.tables platform.url c.normalizedUri).ok = true ∧
        exported (reread platform c
          (PathNormalizer.normalizeSmbPath platform.tables platform.url c.normalizedUri).value) =
            exported c) ↔
      Kept platform c := by
  obtain ⟨hserver, hshare, huri⟩ := hbuilt.normal hplatform
  have htrimmed : c.normalizedUri.trimmed = c.normalizedUri := by
    rw [huri, PathNormalizer.trimmed_smbUri hshare]
  have hparse : PathNormalizer.parse platform.tables platform.url c.normalizedUri.trimmed =
      PathNormalizer.parseUri platform.tables (platform.url c.normalizedUri) := by
    rw [htrimmed, huri, PathNormalizer.parse_smbUri hplatform.sameIgnoringCase_self]
  have hne : c.normalizedUri.trimmed ≠ [] := by
    rw [htrimmed, huri]
    exact List.cons_ne_nil _ _
  -- there is no room in the URI for a path below the share
  have hroom : (platform.url c.normalizedUri).isValid = true →
      (platform.url c.normalizedUri).path.length ≤ c.share.length + 1 := by
    rw [huri]
    exact hplatform.path _ _ hserver.no_slash
  constructor
  · rintro ⟨hok, hexported⟩
    obtain ⟨-, parsed, hread, hserver', hshare', hvalue⟩ :=
      PathNormalizer.normalizeSmbPath_ok_iff.1 ⟨hok, rfl⟩
    rw [hparse] at hread
    obtain ⟨⟨hvalid, hscheme, huser, hpassword⟩, share, rest, hparts, -, rfl⟩ :=
      PathNormalizer.parseUri_ok_iff.1 ⟨hread, hshare'⟩
    rw [hvalue] at hexported
    obtain ⟨⟨-, hhost, hsegment, hinitial⟩, hopened, hcreated, hupdated, hchecked⟩ :=
      exported_reread_iff.1 hexported
    replace hsegment : share.trimmed = c.share := hsegment
    obtain rfl : rest = [] := by
      refine PathNormalizer.rest_eq_nil hparts ?_
      rw [hsegment]
      exact hroom hvalid
    refine ⟨hvalid, hscheme, huser, hpassword, hhost, ?_, hinitial.symm, hopened, hcreated,
      hupdated, hchecked⟩
    rw [hparts, List.head?_cons, Option.map_some]
    exact congrArg some hsegment
  · intro h
    obtain ⟨share, hhead, hsegment⟩ := Option.map_eq_some_iff.1 h.share
    obtain ⟨rest, hparts⟩ : ∃ rest, splitPath (platform.url c.normalizedUri).path = share :: rest :=
      List.head?_eq_some_iff.1 hhead
    obtain rfl : rest = [] := by
      refine PathNormalizer.rest_eq_nil hparts ?_
      rw [hsegment]
      exact hroom h.isValid
    obtain ⟨hread, -⟩ := PathNormalizer.parseUri_ok_iff.2
      ⟨⟨h.isValid, h.scheme, h.userName, h.password⟩, share, [], hparts,
        hsegment ▸ hshare.ne_nil, rfl⟩
    rw [← hparse] at hread
    obtain ⟨hok, hvalue⟩ := PathNormalizer.normalizeSmbPath_ok_iff.2
      ⟨hne, _, hread, h.host ▸ hserver.ne_nil, hsegment ▸ hshare.ne_nil, rfl⟩
    refine ⟨hok, ?_⟩
    rw [hvalue, h.host, hsegment, ← huri]
    exact exported_reread_iff.2 ⟨⟨rfl, rfl, rfl, h.initialRemotePath.symm⟩, h.lastOpenedAt,
      h.createdAt, h.updatedAt, h.lastSuccessfulCheckAt⟩

/-! ## Documents -/

/-- An exported connection as it is read back, if it is. -/
def readBack (platform : Platform) (c : Connection) : Option Connection :=
  let normalized := PathNormalizer.normalizeSmbPath platform.tables platform.url c.normalizedUri
  if normalized.ok then some (reread platform c normalized.value) else none

theorem readBack_iff (hplatform : Documented platform) (hbuilt : Built platform c) :
    (readBack platform c).map exported = some (exported c) ↔ Kept platform c := by
  rw [← kept_iff hplatform hbuilt]
  unfold readBack
  dsimp only
  split
  · next hok =>
    rw [Option.map_some, Option.some_inj, and_iff_right hok]
  · next hrefused =>
    exact iff_of_false (fun h => by cases h) fun h => hrefused h.1

theorem map_filterMap_eq_iff {α β γ : Type} {f : α → Option β} {g : β → γ} {g' : α → γ}
    {l : List α} :
    (l.filterMap f).map g = l.map g' ↔ ∀ a ∈ l, (f a).map g = some (g' a) := by
  induction l with
  | nil => simp
  | cons a l ih =>
    rw [List.forall_mem_cons, ← ih]
    cases ha : f a with
    | none =>
      rw [List.filterMap_cons_none ha]
      refine iff_of_false ?_ fun h => by cases h.1
      intro h
      have hle := List.length_filterMap_le f l
      have hlength := congrArg List.length h
      rw [List.length_map, List.length_map, List.length_cons] at hlength
      omega
    | some b =>
      rw [List.filterMap_cons_some ha, List.map_cons, List.map_cons, List.cons.injEq,
        Option.map_some, Option.some_inj]

/-- No two records have one id, and none an id that exists. -/
structure NoDuplicates (existingConnectionIds : List QString) (connections : List Connection) :
    Prop where
  distinct : connections.Pairwise fun c c' => c.id ≠ [] → c'.id ≠ c.id
  fresh : ∀ c ∈ connections, c.id ≠ [] → c.id ∉ existingConnectionIds

theorem connectionFromJson_of_readBack :
    (∃ c', readBack platform c = some c' ∧ c'.id = c.id ∧
      connectionFromJson platform (connectionFields platform c) = .success c') ∨
    readBack platform c = none ∧
      (connectionFromJson platform (connectionFields platform c)).ok = false := by
  rw [connectionFromJson_connectionFields]
  unfold readBack
  dsimp only
  split
  · exact Or.inl ⟨_, rfl, rfl, rfl⟩
  · next hrefused => exact Or.inr ⟨rfl, Bool.eq_false_iff.2 hrefused⟩

theorem importRecord_connectionFields {policy : DuplicatePolicy} {index : ℤ} {loop : ImportLoop}
    (hfresh : c.id ≠ [] → c.id ∉ loop.existingIds) :
    ∃ loop', importRecord platform policy index (.object (connectionFields platform c)) loop =
        .pure loop' ∧
      loop'.result.connections = loop.result.connections ++ (readBack platform c).toList ∧
      ∀ id ∈ loop'.existingIds, id ∈ loop.existingIds ∨ id = c.id := by
  rcases @connectionFromJson_of_readBack platform c with ⟨c', hread, hid, hparsed⟩ |
    ⟨hread, hparsed⟩
  · have hnew : (!c'.id.isEmpty && loop.existingIds.contains c'.id) = false := by
      rw [hid]
      simpa using hfresh
    refine ⟨loop.push c', ?_, by rw [hread]; rfl, ?_⟩
    · simp only [importRecord, hparsed, ok_success, Bool.not_true, Bool.false_eq_true, if_false]
      exact if_neg (Bool.eq_false_iff.1 hnew)
    · intro id hmem
      unfold ImportLoop.push at hmem
      dsimp only at hmem
      split at hmem
      · exact Or.inl hmem
      · exact hid ▸ (List.mem_cons.1 hmem).symm
  · refine ⟨loop.reject {
        index
        recordName := JsonValue.toString
          ((connectionFields platform c).value (qStringLiteral "name"))
        error := (connectionFromJson platform (connectionFields platform c)).error },
      ?_, ?_, fun id hmem => Or.inl hmem⟩
    · simp only [importRecord, hparsed, Bool.not_false, if_true]
      rfl
    · rw [hread]
      exact (List.append_nil _).symm

/-- The records of connections without duplicates are imported in their order. -/
theorem importRecords_connectionFields {policy : DuplicatePolicy} {connections : List Connection}
    {index : ℤ} {loop : ImportLoop} (hnew : NoDuplicates loop.existingIds connections) :
    ∃ loop', importRecords platform policy index
        (connections.map fun c => .object (connectionFields platform c)) loop = .pure loop' ∧
      loop'.result.connections =
        loop.result.connections ++ connections.filterMap (readBack platform) := by
  induction connections generalizing index loop with
  | nil => exact ⟨loop, rfl, (List.append_nil _).symm⟩
  | cons c connections ih =>
    obtain ⟨hdistinct, hrest⟩ := List.pairwise_cons.1 hnew.distinct
    obtain ⟨hfresh, hfreshRest⟩ := List.forall_mem_cons.1 hnew.fresh
    obtain ⟨next, hrecord, hnext, hids⟩ :=
      @importRecord_connectionFields platform c policy index loop hfresh
    have hnewRest : NoDuplicates next.existingIds connections := by
      refine ⟨hrest, ?_⟩
      intro c' hmem hne hexists
      rcases hids _ hexists with hold | heq
      · exact hfreshRest c' hmem hne hold
      · exact hdistinct c' hmem (heq ▸ hne) heq
    obtain ⟨loop', hloop, hresult⟩ := @ih (index + 1) next hnewRest
    refine ⟨loop', ?_, ?_⟩
    · rw [List.map_cons, importRecords, hrecord]
      exact hloop
    · rw [hresult, hnext, List.append_assoc, List.filterMap_cons]
      cases readBack platform c <;> rfl

/-- The document of an export in the clear. -/
def exportedDocument (platform : Platform) (payload : ExportPayload) (now : ℤ) : JsonObject :=
  exportRoot platform now (payload.connections.map fun c => .object (connectionFields platform c))
    (payload.groups.map fun group => .object (groupToJson platform group))

/-- An export in the clear reads the clock once. -/
theorem exportConnections_eq {payload : ExportPayload} {options : ExportOptions}
    (hpasswords : options.includePlainTextPasswords = false)
    (hencrypt : options.encryptExport = false) :
    exportConnections platform payload options =
      Program.ask (I := stores) .currentDateTimeUtc fun (now : ℤ) =>
        .pure (.success (platform.codec.toJson .indented
          (exportedDocument platform payload now))) := by
  have hitems : ∀ connections : List Connection,
      connectionsToJson platform options connections =
        .pure (.ok (connections.map fun c => .object (connectionFields platform c))) := by
    intro connections
    induction connections with
    | nil => rfl
    | cons c connections ih =>
      simp only [connectionsToJson, connectionToJson, hpasswords, Bool.false_eq_true, false_and,
        if_false, ih]
      rfl
  simp only [exportConnections, hpasswords, hencrypt, hitems, Bool.false_and,
    Bool.false_eq_true, if_false]
  rfl

/-- What an import looks for in an exported document. -/
theorem value_exportRoot {now : ℤ} {connections groups : List JsonValue} :
    (exportRoot platform now connections groups).value (qStringLiteral "schema") =
        some (.string plainExportSchema) ∧
      (exportRoot platform now connections groups).value (qStringLiteral "version") =
        some (.number exportSchemaVersion) ∧
      (exportRoot platform now connections groups).value (qStringLiteral "connections") =
        some (.array connections) := by
  have hkeys : [qStringLiteral "schema", qStringLiteral "version", qStringLiteral "exportedAt",
      qStringLiteral "connections", qStringLiteral "groups"].Nodup := by
    decide +kernel
  simp only [List.nodup_cons, List.mem_cons, List.not_mem_nil, or_false, not_or] at hkeys
  obtain ⟨⟨h₁, h₂, h₃, h₄⟩, ⟨h₅, h₆, h₇⟩, ⟨h₈, h₉⟩, h₁₀, -⟩ := hkeys
  unfold exportRoot
  dsimp only
  simp only [JsonObject.value_insert, if_true]
  refine ⟨?_, ?_, ?_⟩
  · rw [if_neg (Ne.symm h₄), if_neg (Ne.symm h₃), if_neg (Ne.symm h₂), if_neg (Ne.symm h₁)]
  · rw [if_neg (Ne.symm h₇), if_neg (Ne.symm h₆), if_neg (Ne.symm h₅)]
  · rw [if_neg (Ne.symm h₁₀)]

theorem schemas_ne : plainExportSchema ≠ encryptedExportSchema := by decide +kernel

/-- The import of a document that an export in the clear has written. -/
theorem importConnections_exportRoot {options : ImportOptions} {bytes : QByteArray} {now : ℤ}
    {connections : List Connection} {groups : List JsonValue}
    (hread : platform.codec.fromJson bytes = .ok (.object (exportRoot platform now
      (connections.map fun c => .object (connectionFields platform c)) groups)))
    (hnew : NoDuplicates options.existingConnectionIds connections) :
    ∃ result, importConnections platform bytes options = .pure (.success result) ∧
      result.connections = connections.filterMap (readBack platform) := by
  obtain ⟨hschema, hversion, hconnections⟩ := @value_exportRoot platform now
    (connections.map fun c => .object (connectionFields platform c)) groups
  have hone : JsonValue.toInt (some (.number exportSchemaVersion)) = exportSchemaVersion := by
    decide
  rw [importConnections, hread]
  simp only [hschema, JsonValue.toString_string, if_neg schemas_ne]
  unfold importPlain
  rw [hschema, hversion, hconnections, JsonValue.toString_string, hone,
    if_neg (by simp only [ne_eq, not_true, or_self, not_false_eq_true])]
  obtain ⟨loop, hloop, hresult⟩ := @importRecords_connectionFields platform
    options.duplicatePolicy connections 0 {
      existingIds := options.existingConnectionIds
      result := { groups := importGroups platform (exportRoot platform now
        (connections.map fun c => .object (connectionFields platform c)) groups) } } hnew
  refine ⟨loop.result, ?_, hresult⟩
  dsimp only [JsonValue.toArray_array]
  rw [hloop]
  rfl

/-- The import of an export gives the connections again when each of them is kept. -/
theorem importConnections_exportedDocument {payload : ExportPayload} {options : ImportOptions}
    {bytes : QByteArray} {now : ℤ} (hplatform : Documented platform)
    (hbuilt : ∀ c ∈ payload.connections, Built platform c)
    (hnew : NoDuplicates options.existingConnectionIds payload.connections)
    (hread : platform.codec.fromJson bytes = .ok (.object (exportedDocument platform payload now))) :
    ∃ result, importConnections platform bytes options = .pure (.success result) ∧
      (result.connections.map exported = payload.connections.map exported ↔
        ∀ c ∈ payload.connections, Kept platform c) := by
  obtain ⟨result, hresult, hconnections⟩ := importConnections_exportRoot hread hnew
  refine ⟨result, hresult, ?_⟩
  rw [hconnections, map_filterMap_eq_iff]
  constructor
  · intro h c hmem
    exact (readBack_iff hplatform (hbuilt c hmem)).1 (h c hmem)
  · intro h c hmem
    exact (readBack_iff hplatform (hbuilt c hmem)).2 (h c hmem)

/-- Connections that were built from paths come back from an export as they were exactly
    when each of them is kept. -/
theorem roundTrip_iff {payload : ExportPayload} {options : ExportOptions}
    {importOptions : ImportOptions} {es es' : List (Event stores)} {bytes : QByteArray}
    {r : Result ImportResult} (hplatform : Documented platform)
    (hbuilt : ∀ c ∈ payload.connections, Built platform c)
    (hnew : NoDuplicates importOptions.existingConnectionIds payload.connections)
    (hpasswords : options.includePlainTextPasswords = false)
    (hencrypt : options.encryptExport = false)
    (hread : ∀ now : ℤ, (⟨.currentDateTimeUtc, now⟩ : Event stores) ∈ es →
      platform.codec.fromJson
          (platform.codec.toJson .indented (exportedDocument platform payload now)) =
        .ok (.object (exportedDocument platform payload now)))
    (hexport : Program.Runs (exportConnections platform payload options) es (.success bytes))
    (himport : Program.Runs (importConnections platform bytes importOptions) es' r) :
    (r.ok = true ∧ r.value.connections.map exported = payload.connections.map exported) ↔
      ∀ c ∈ payload.connections, Kept platform c := by
  rw [exportConnections_eq hpasswords hencrypt] at hexport
  obtain ⟨now, rest, rfl, hanswered⟩ := Program.runs_ask.1 hexport
  obtain ⟨rfl, hbytes⟩ := Program.runs_pure.1 hanswered
  obtain rfl : bytes = platform.codec.toJson .indented (exportedDocument platform payload now) :=
    congrArg Result.value hbytes
  obtain ⟨result, hresult, hkept⟩ :=
    importConnections_exportedDocument hplatform hbuilt hnew (hread now List.mem_cons_self)
  rw [hresult] at himport
  obtain ⟨-, rfl⟩ := Program.runs_pure.1 himport
  exact ⟨fun h => hkept.1 h.2, fun h => ⟨rfl, hkept.2 h⟩⟩

/-! ### A share and a folder of it -/

/-- A connection to a folder of a share, or to the share. -/
def docsConnection (folder : QString) : Connection where
  id := qStringLiteral "a"
  name := qStringLiteral "Docs"
  inputPath := qStringLiteral "//server/share/" ++ folder
  normalizedUri := qStringLiteral "smb://server/share"
  server := qStringLiteral "server"
  share := qStringLiteral "share"
  initialRemotePath := folder

/-- The export of that connection. -/
def docsPayload (folder : QString) : ExportPayload := ⟨[docsConnection folder], []⟩

/-- The text of the export. -/
def docsText (folder : String) : QByteArray :=
  ("\x7b\n" ++
    "    \"connections\": [\n" ++
    "        \x7b\n" ++
    "            \"authType\": \"password\",\n" ++
    "            \"comment\": \"\",\n" ++
    "            \"domain\": \"\",\n" ++
    "            \"favorite\": false,\n" ++
    "            \"groupId\": \"\",\n" ++
    "            \"id\": \"a\",\n" ++
    "            \"initialRemotePath\": \"" ++ folder ++ "\",\n" ++
    "            \"inputPath\": \"//server/share/" ++ folder ++ "\",\n" ++
    "            \"lastErrorCode\": \"none\",\n" ++
    "            \"lastErrorMessage\": \"\",\n" ++
    "            \"name\": \"Docs\",\n" ++
    "            \"normalizedUri\": \"smb://server/share\",\n" ++
    "            \"server\": \"server\",\n" ++
    "            \"share\": \"share\",\n" ++
    "            \"username\": \"\"\n" ++
    "        \x7d\n" ++
    "    ],\n" ++
    "    \"exportedAt\": \"1970-01-01T00:00:00.000Z\",\n" ++
    "    \"groups\": [\n" ++
    "    ],\n" ++
    "    \"schema\": \"smb-browser.connections.export\",\n" ++
    "    \"version\": 1\n" ++
    "\x7d\n").toList.map fun c => UInt8.ofNat c.toNat

/-- The only URI that is read. -/
def docsUrl (text : QString) : QUrl :=
  if text = PathNormalizer.smbUri (qStringLiteral "server") (qStringLiteral "share") then
    { isValid := true
      scheme := qStringLiteral "smb"
      host := qStringLiteral "server"
      path := qStringLiteral "/share" }
  else {}

/-- Dates and URIs, as far as the round trip uses them. -/
def docsPlatform : Platform :=
  { (default : Platform) with
    url := docsUrl
    dateToIso := fun _ => qStringLiteral "1970-01-01T00:00:00.000Z" }

/-- JSON, as far as the round trip uses it. -/
def docsCodec (folder : String) : Codec :=
  { (default : Platform).codec with
    toJson := fun _ _ => docsText folder
    fromJson := fun bytes =>
      if bytes = docsText folder then
        .ok (.object (exportedDocument docsPlatform (docsPayload (qStringLiteral folder)) 0))
      else .error (qStringLiteral "illegal value") }

/-- The platform of the round trip. -/
def docsPlatformOf (folder : String) : Platform := { docsPlatform with codec := docsCodec folder }

theorem documented_docs (folder : String) :
    Documented (docsPlatformOf folder) := by
  refine ⟨fun text => decide_eq_true rfl, ?_, ?_⟩
  · intro text
    have hhost : slash ∉ (docsUrl text).host := by
      unfold docsUrl
      split <;> decide
    exact hhost
  · intro server share _ hvalid
    have hpath : (docsUrl (PathNormalizer.smbUri server share)).isValid = true →
        (docsUrl (PathNormalizer.smbUri server share)).path.length ≤ share.length + 1 := by
      unfold docsUrl
      split
      · next huri =>
        intro _
        unfold PathNormalizer.smbUri at huri
        rw [List.append_assoc, List.append_assoc, List.append_cancel_left_eq] at huri
        obtain ⟨-, -, rfl⟩ :=
          (List.append_cons_inj_of_notMem (by decide) (by decide)).1 huri.symm
        decide
      · exact fun h => absurd h Bool.false_ne_true
    exact hpath hvalid

theorem normalizeSmbPath_docs :
    (PathNormalizer.normalizeSmbPath docsPlatform.tables docsPlatform.url
        (qStringLiteral "//server/share/reports")).ok = true ∧
      (PathNormalizer.normalizeSmbPath docsPlatform.tables docsPlatform.url
        (qStringLiteral "//server/share/reports")).value =
        ⟨qStringLiteral "//server/share/reports", qStringLiteral "smb://server/share",
          qStringLiteral "server", qStringLiteral "share", qStringLiteral "reports"⟩ ∧
      (PathNormalizer.normalizeSmbPath docsPlatform.tables docsPlatform.url
        (qStringLiteral "//server/share/")).ok = true ∧
      (PathNormalizer.normalizeSmbPath docsPlatform.tables docsPlatform.url
        (qStringLiteral "//server/share/")).value =
        ⟨qStringLiteral "//server/share/", qStringLiteral "smb://server/share",
          qStringLiteral "server", qStringLiteral "share", []⟩ := by
  decide +kernel

theorem toJson_docs (folder : String) (object : JsonObject) :
    (docsPlatformOf folder).codec.toJson .indented object = docsText folder := by
  unfold docsPlatformOf docsCodec
  dsimp only

theorem runs_export_docs (folder : String) :
    Program.Runs (exportConnections (docsPlatformOf folder) (docsPayload (qStringLiteral folder)) {})
      [⟨.currentDateTimeUtc, (0 : ℤ)⟩] (.success (docsText folder)) := by
  rw [@exportConnections_eq (docsPlatformOf folder) _ {} rfl rfl]
  simp only [toJson_docs]
  exact .ask _ (.pure _)

theorem exportedDocument_codec {codec : Codec} {payload : ExportPayload} {now : ℤ} :
    exportedDocument { platform with codec := codec } payload now =
      exportedDocument platform payload now := rfl

theorem read_docs (folder : String) (now : ℤ)
    (h : (⟨.currentDateTimeUtc, now⟩ : Event stores) ∈
      [(⟨.currentDateTimeUtc, (0 : ℤ)⟩ : Event stores)]) :
    (docsPlatformOf folder).codec.fromJson ((docsPlatformOf folder).codec.toJson .indented
        (exportedDocument (docsPlatformOf folder) (docsPayload (qStringLiteral folder)) now)) =
      .ok (.object (exportedDocument (docsPlatformOf folder)
        (docsPayload (qStringLiteral folder)) now)) := by
  obtain rfl : now = 0 := by
    cases List.mem_singleton.1 h
    rfl
  have hdocument : exportedDocument (docsPlatformOf folder) (docsPayload (qStringLiteral folder)) 0 =
      exportedDocument docsPlatform (docsPayload (qStringLiteral folder)) 0 :=
    @exportedDocument_codec docsPlatform (docsCodec folder) _ _
  rw [toJson_docs, hdocument]
  unfold docsPlatformOf docsCodec
  simp only [if_true]

theorem noDuplicates_docs (folder : QString) :
    NoDuplicates [] (docsPayload folder).connections := by
  refine ⟨List.pairwise_singleton _ _, ?_⟩
  intro c _ _
  exact List.not_mem_nil

theorem built_docs : ∀ c ∈ (docsPayload []).connections, Built (docsPlatformOf "") c := by
  intro c hmem
  obtain rfl := List.mem_singleton.1 hmem
  obtain ⟨-, -, hok, hvalue⟩ := normalizeSmbPath_docs
  exact ⟨_, _, hok, hvalue, rfl, rfl, rfl, rfl⟩

/-- The connection to the share is kept. -/
theorem roundTrip_docs :
    ∃ es' r, Program.Runs (importConnections (docsPlatformOf "") (docsText "") {}) es' r ∧
      ((r.ok = true ∧
          r.value.connections.map exported = (docsPayload []).connections.map exported) ↔
        ∀ c ∈ (docsPayload []).connections, Kept (docsPlatformOf "") c) ∧
      Kept (docsPlatformOf "") (docsConnection []) := by
  have hread := read_docs "" 0 List.mem_cons_self
  rw [toJson_docs] at hread
  obtain ⟨result, hresult, -⟩ := @importConnections_exportedDocument _ (docsPayload []) {} _ _
    (documented_docs "") built_docs (noDuplicates_docs []) hread
  have himport : Program.Runs (importConnections (docsPlatformOf "") (docsText "") {}) []
      (.success result) := by
    rw [hresult]
    exact .pure _
  refine ⟨[], .success result, himport, ?_, ?_⟩
  · exact roundTrip_iff (documented_docs "") built_docs (noDuplicates_docs []) rfl rfl
      (read_docs "") (runs_export_docs "") himport
  · exact ⟨rfl, rfl, rfl, rfl, rfl, rfl, rfl, rfl, rfl, rfl, rfl⟩

/-- The connection to the folder comes back as one to the share. -/
theorem initialRemotePath_lost :
    ¬ ∀ (platform : Platform) (payload : ExportPayload) (importOptions : ImportOptions)
      (es es' : List (Event stores)) (bytes : QByteArray) (r : Result ImportResult),
      Documented platform → (∀ c ∈ payload.connections, Built platform c) →
      NoDuplicates importOptions.existingConnectionIds payload.connections →
      (∀ now : ℤ, (⟨.currentDateTimeUtc, now⟩ : Event stores) ∈ es →
        platform.codec.fromJson
            (platform.codec.toJson .indented (exportedDocument platform payload now)) =
          .ok (.object (exportedDocument platform payload now))) →
      Program.Runs (exportConnections platform payload {}) es (.success bytes) →
      Program.Runs (importConnections platform bytes importOptions) es' r →
      r.ok = true ∧ r.value.connections.map exported = payload.connections.map exported := by
  intro h
  have hbuilt : ∀ c ∈ (docsPayload (qStringLiteral "reports")).connections,
      Built (docsPlatformOf "reports") c := by
    intro c hmem
    obtain rfl := List.mem_singleton.1 hmem
    obtain ⟨hok, hvalue, -⟩ := normalizeSmbPath_docs
    exact ⟨_, _, hok, hvalue, rfl, rfl, rfl, rfl⟩
  have hnew := noDuplicates_docs (qStringLiteral "reports")
  have hread := read_docs "reports" 0 List.mem_cons_self
  rw [toJson_docs] at hread
  obtain ⟨result, hresult, hkept⟩ := @importConnections_exportedDocument _
    (docsPayload (qStringLiteral "reports")) {} _ _ (documented_docs "reports") hbuilt hnew hread
  have himport : Program.Runs (importConnections (docsPlatformOf "reports") (docsText "reports") {})
      [] (.success result) := by
    rw [hresult]
    exact .pure _
  obtain ⟨-, hsame⟩ := h _ _ _ _ _ _ _ (documented_docs "reports") hbuilt hnew
    (read_docs "reports") (runs_export_docs "reports") himport
  have hfolder := (hkept.1 hsame _ List.mem_cons_self).initialRemotePath
  exact absurd hfolder (by decide)

end ImportExportService

end SmbBrowser.Application
