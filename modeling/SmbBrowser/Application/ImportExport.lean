import SmbBrowser.Core.PathNormalizer
import SmbBrowser.Crypto.Sodium
import SmbBrowser.Storage.Repositories

/-!
# Export and import of connections

`ImportExportService` (application/ImportExportService.cpp) writes connections and
groups to a JSON document and reads them back; `ConnectionImportExportService`
(application/ConnectionImportExportService.cpp) takes them from the repositories and
persists them there.
-/

namespace SmbBrowser.Application

open SmbBrowser.Base SmbBrowser.Qt SmbBrowser.Core SmbBrowser.Crypto SmbBrowser.Storage

/-- What the services use of Qt, of libsodium and of the log sanitizer. -/
structure Platform where
  codec : Codec
  sodium : Sodium
  tables : CaseTables
  url : QString → QUrl
  /-- `LogSanitizer::sanitize`. -/
  sanitize : QString → QString
  /-- `QDateTime::toString(Qt::ISODateWithMs)` of a valid date in UTC. -/
  dateToIso : ℤ → QString
  /-- `QDateTime::fromString(Qt::ISODateWithMs)`. -/
  dateFromIso : QString → QDateTime
  /-- `QString::fromUtf8`. -/
  fromUtf8 : QByteArray → QString

/-- A platform that reads and encrypts nothing. -/
instance : Inhabited Platform where
  default := {
    codec := {
      toJson := fun _ _ => []
      fromJson := fun _ => .error (qStringLiteral "illegal value")
      toBase64 := fun _ => []
      fromBase64 := fun _ => [] }
    sodium := {
      initialized := false
      pwhash := fun _ _ => none
      secretboxEasy := fun _ _ _ => []
      secretboxOpenEasy := fun _ _ _ => none }
    tables := { toLower := fun s => s, sameIgnoringCase := fun s t => s = t }
    url := fun _ => {}
    sanitize := fun text => text
    dateToIso := fun _ => []
    dateFromIso := fun _ => none
    fromUtf8 := fun _ => [] }

/-- `ExportPayload` (ImportExportService.h:16). -/
structure ExportPayload where
  connections : List Connection
  groups : List ConnectionGroup

/-- `ExportOptions` (ImportExportService.h:21). -/
structure ExportOptions where
  includePlainTextPasswords : Bool := false
  confirmPlainTextPasswordExport : Bool := false
  /-- Whether there is a credential store. -/
  credentialStore : Bool := false
  encryptExport : Bool := false
  encryptionPassphrase : QByteArray := []

/-- `DuplicatePolicy` (ImportExportService.h:29). -/
inductive DuplicatePolicy where
  | skip
  | replace
  | createCopy
  deriving DecidableEq, Repr

/-- `ImportOptions` (ImportExportService.h:35). -/
structure ImportOptions where
  duplicatePolicy : DuplicatePolicy := .skip
  existingConnectionIds : List QString := []
  encryptionPassphrase : QByteArray := []

/-- `ImportRecordError` (ImportExportService.h:41). -/
structure ImportRecordError where
  index : ℤ := -1
  recordName : QString := []
  error : AppError := {}

/-- `ImportResult` (ImportExportService.h:47). -/
structure ImportResult where
  connections : List Connection := []
  groups : List ConnectionGroup := []
  errors : List ImportRecordError := []
  skippedDuplicates : ℤ := 0

instance : Inhabited ImportResult := ⟨{}⟩

/-! ## The serializer -/

namespace ImportExportService

/-- `kExportSchemaVersion`. -/
def exportSchemaVersion : ℤ := 1

/-- `kEncryptedExportSchemaVersion`. -/
def encryptedExportSchemaVersion : ℤ := 1

/-- `plainExportSchema` (ImportExportService.cpp:19). -/
def plainExportSchema : QString := qStringLiteral "smb-browser.connections.export"

/-- `encryptedExportSchema` (ImportExportService.cpp:23). -/
def encryptedExportSchema : QString := qStringLiteral "smb-browser.connections.encrypted-export"

/-- `authTypeFromString` (ImportExportService.cpp:42). -/
def authTypeFromString (value : QString) : AuthType :=
  if value = qStringLiteral "guest" then .guest
  else if value = qStringLiteral "anonymous" then .anonymous
  else if value = qStringLiteral "current_user" then .currentUser
  else .password

/-- The known codes of `errorCodeFromString`. -/
def knownCodes : List ErrorCode :=
  [.none, .invalidPath, .dnsError, .serverUnavailable, .shareUnavailable, .authenticationFailed,
    .permissionDenied, .timeout, .protocolUnsupported, .networkError, .fileNotFound,
    .alreadyExists, .directoryNotEmpty, .operationCancelled, .localIoError, .storageError,
    .credentialStoreUnavailable, .credentialNotFound, .unknown]

/-- `errorCodeFromString` (ImportExportService.cpp:55). -/
def errorCodeFromString (value : QString) : ErrorCode :=
  (knownCodes.find? fun code => code.toQString = value).getD .none

/-- `validationError` (ImportExportService.cpp:85). -/
def validationError (details : QString) : AppError := .fromCode .invalidPath .validation details

/-- `credentialError` (ImportExportService.cpp:91). -/
def credentialError (code : ErrorCode) (details : QString) : AppError :=
  .fromCode code .credentials details

variable (platform : Platform)

/-- `addDateTime` (ImportExportService.cpp:27). -/
def addDateTime (object : JsonObject) (key : QString) (dateTime : QDateTime) : JsonObject :=
  match dateTime with
  | some t => object.insert key (.string (platform.dateToIso t))
  | none => object

/-- `dateTimeFromJson` (ImportExportService.cpp:34). -/
def dateTimeFromJson (object : JsonObject) (key : QString) : QDateTime :=
  let value := object.value key
  if JsonValue.isString value then platform.dateFromIso (JsonValue.toString value) else none

/-- `encryptExportPayload` (ImportExportService.cpp:131). -/
def encryptExportPayload (plaintext passphrase : QByteArray) : StoreProgram (Result QByteArray) :=
  if passphrase.isEmpty then
    return .failure (validationError (qStringLiteral "Encrypted export requires passphrase."))
  else if !platform.sodium.initialized then
    return .failure (credentialError .credentialStoreUnavailable
      (qStringLiteral "libsodium initialization failed."))
  else do
    let salt : QByteArray ← Program.perform (I := stores) (.randomBytes cryptoPwhashSaltBytes)
    let nonce : QByteArray ← Program.perform (I := stores) (.randomBytes cryptoSecretboxNonceBytes)
    match platform.sodium.pwhash passphrase salt with
    | none =>
      return .failure (credentialError .credentialStoreUnavailable
        (qStringLiteral "Unable to derive export key."))
    | some key =>
      let ciphertext := platform.sodium.secretboxEasy plaintext nonce key
      let base64 bytes : JsonValue := .string (platform.codec.toBase64 bytes)
      let root : JsonObject := []
      let root := root.insert (qStringLiteral "schema") (.string encryptedExportSchema)
      let root := root.insert (qStringLiteral "version") (.number encryptedExportSchemaVersion)
      let root := root.insert (qStringLiteral "kdf")
        (.string (qStringLiteral "libsodium-crypto_pwhash"))
      let root := root.insert (qStringLiteral "cipher")
        (.string (qStringLiteral "crypto_secretbox"))
      let root := root.insert (qStringLiteral "salt") (base64 salt)
      let root := root.insert (qStringLiteral "nonce") (base64 nonce)
      let root := root.insert (qStringLiteral "ciphertext") (base64 ciphertext)
      return .success (platform.codec.toJson .indented root)

/-- `decryptExportPayload` (ImportExportService.cpp:178). -/
def decryptExportPayload (root : JsonObject) (passphrase : QByteArray) : Result QByteArray :=
  if passphrase.isEmpty then
    .failure (validationError (qStringLiteral "Encrypted import requires passphrase."))
  else if !platform.sodium.initialized then
    .failure (credentialError .credentialStoreUnavailable
      (qStringLiteral "libsodium initialization failed."))
  else if JsonValue.toInt (root.value (qStringLiteral "version")) ≠
      encryptedExportSchemaVersion then
    .failure (validationError (qStringLiteral "Unsupported encrypted export version."))
  else
    let fromBase64 key := platform.codec.fromBase64 (JsonValue.toString (root.value key))
    let salt := fromBase64 (qStringLiteral "salt")
    let nonce := fromBase64 (qStringLiteral "nonce")
    let ciphertext := fromBase64 (qStringLiteral "ciphertext")
    if salt.length ≠ cryptoPwhashSaltBytes ∨ nonce.length ≠ cryptoSecretboxNonceBytes ∨
        ciphertext.length < cryptoSecretboxMacBytes then
      .failure (validationError (qStringLiteral "Encrypted export structure is invalid."))
    else
      match platform.sodium.pwhash passphrase salt with
      | none =>
        .failure (credentialError .credentialStoreUnavailable
          (qStringLiteral "Unable to derive export key."))
      | some key =>
        match platform.sodium.secretboxOpenEasy ciphertext nonce key with
        | none =>
          .failure (credentialError .permissionDenied
            (qStringLiteral "Encrypted export decryption failed."))
        | some plaintext => .success plaintext

/-! ### Writing -/

/-- The fields of a connection that every export has (ImportExportService.cpp:380). -/
def connectionFields (connection : Connection) : JsonObject :=
  let object : JsonObject := []
  let object := object.insert (qStringLiteral "id") (.string connection.id)
  let object := object.insert (qStringLiteral "name") (.string connection.name)
  let object := object.insert (qStringLiteral "inputPath") (.string connection.inputPath)
  let object := object.insert (qStringLiteral "normalizedUri") (.string connection.normalizedUri)
  let object := object.insert (qStringLiteral "server") (.string connection.server)
  let object := object.insert (qStringLiteral "share") (.string connection.share)
  let object := object.insert (qStringLiteral "initialRemotePath")
    (.string connection.initialRemotePath)
  let object := object.insert (qStringLiteral "domain") (.string connection.domain)
  let object := object.insert (qStringLiteral "username") (.string connection.username)
  let object := object.insert (qStringLiteral "authType") (.string connection.authType.toQString)
  let object := object.insert (qStringLiteral "comment") (.string connection.comment)
  let object := object.insert (qStringLiteral "groupId") (.string connection.groupId)
  let object := object.insert (qStringLiteral "favorite") (.bool connection.isFavorite)
  let object := object.insert (qStringLiteral "lastErrorCode")
    (.string connection.lastErrorCode.toQString)
  let object := object.insert (qStringLiteral "lastErrorMessage")
    (.string (platform.sanitize connection.lastErrorMessage))
  let object := addDateTime platform object (qStringLiteral "lastOpenedAt") connection.lastOpenedAt
  let object := addDateTime platform object (qStringLiteral "createdAt") connection.createdAt
  let object := addDateTime platform object (qStringLiteral "updatedAt") connection.updatedAt
  addDateTime platform object (qStringLiteral "lastSuccessfulCheckAt")
    connection.lastSuccessfulCheckAt

/-- `ImportExportService::connectionToJson` (ImportExportService.cpp:377). -/
def connectionToJson (connection : Connection) (options : ExportOptions) :
    StoreProgram (Result JsonObject) := do
  let object := connectionFields platform connection
  if options.includePlainTextPasswords ∧ connection.authType = .password then
    if connection.credentialRef.isEmpty then
      return .failure (credentialError .credentialNotFound
        (qStringLiteral "Connection has no credential reference."))
    else
      let secret ← loadCredential connection.credentialRef
      if secret.ok then
        return .success (object.insert (qStringLiteral "plainTextPassword")
          (.string (platform.fromUtf8 secret.value)))
      else
        return .failure secret.error
  else
    return .success object

/-- The loop over the connections in `exportConnections`. -/
def connectionsToJson (options : ExportOptions) :
    List Connection → StoreProgram (Except AppError (List JsonValue))
  | [] => return .ok []
  | connection :: connections => do
    let item ← connectionToJson platform connection options
    if item.ok then
      let items ← connectionsToJson options connections
      return items.map fun items => .object item.value :: items
    else
      return .error item.error

/-- `ImportExportService::groupToJson` (ImportExportService.cpp:429). -/
def groupToJson (group : ConnectionGroup) : JsonObject :=
  let object : JsonObject := []
  let object := object.insert (qStringLiteral "id") (.string group.id)
  let object := object.insert (qStringLiteral "name") (.string group.name)
  let object := object.insert (qStringLiteral "sortOrder") (.number group.sortOrder)
  let object := addDateTime platform object (qStringLiteral "createdAt") group.createdAt
  addDateTime platform object (qStringLiteral "updatedAt") group.updatedAt

/-- The document of `exportConnections` (ImportExportService.cpp:266). -/
def exportRoot (now : ℤ) (connections groups : List JsonValue) : JsonObject :=
  let root : JsonObject := []
  let root := root.insert (qStringLiteral "schema") (.string plainExportSchema)
  let root := root.insert (qStringLiteral "version") (.number exportSchemaVersion)
  let root := root.insert (qStringLiteral "exportedAt") (.string (platform.dateToIso now))
  let root := root.insert (qStringLiteral "connections") (.array connections)
  root.insert (qStringLiteral "groups") (.array groups)

/-- `ImportExportService::exportConnections` (ImportExportService.cpp:233). -/
def exportConnections (payload : ExportPayload) (options : ExportOptions) :
    StoreProgram (Result QByteArray) :=
  if options.includePlainTextPasswords && !options.confirmPlainTextPasswordExport then
    return .failure (.fromCode .unknown .validation
      (qStringLiteral "Plain-text password export requires explicit confirmation."))
  else if options.includePlainTextPasswords && !options.credentialStore then
    return .failure (credentialError .credentialStoreUnavailable
      (qStringLiteral "Credential store is required for plain-text password export."))
  else do
    let connections ← connectionsToJson platform options payload.connections
    match connections with
    | .error error => return .failure error
    | .ok connections =>
      let groups := payload.groups.map fun group => .object (groupToJson platform group)
      let now ← currentDateTimeUtc
      let root := exportRoot platform now connections groups
      if options.encryptExport then
        encryptExportPayload platform (platform.codec.toJson .compact root)
          options.encryptionPassphrase
      else
        return .success (platform.codec.toJson .indented root)

/-! ### Reading -/

/-- `ImportExportService::connectionFromJson` (ImportExportService.cpp:440). -/
def connectionFromJson (object : JsonObject) : Result Connection :=
  let text key := JsonValue.toString (object.value (qStringLiteral key))
  let path := JsonValue.toString (object.value (qStringLiteral "normalizedUri")) (text "inputPath")
  let normalized := PathNormalizer.normalizeSmbPath platform.tables platform.url path
  if normalized.ok then
    .success {
      id := text "id"
      name := text "name"
      inputPath := JsonValue.toString (object.value (qStringLiteral "inputPath"))
        normalized.value.inputPath
      normalizedUri := normalized.value.normalizedUri
      server := normalized.value.server
      share := normalized.value.share
      initialRemotePath := normalized.value.initialRemotePath
      domain := text "domain"
      username := text "username"
      authType := authTypeFromString (text "authType")
      credentialRef := []
      comment := text "comment"
      groupId := text "groupId"
      isFavorite := JsonValue.toBool (object.value (qStringLiteral "favorite"))
      lastErrorCode := errorCodeFromString (text "lastErrorCode")
      lastErrorMessage := platform.sanitize (text "lastErrorMessage")
      lastOpenedAt := dateTimeFromJson platform object (qStringLiteral "lastOpenedAt")
      createdAt := dateTimeFromJson platform object (qStringLiteral "createdAt")
      updatedAt := dateTimeFromJson platform object (qStringLiteral "updatedAt")
      lastSuccessfulCheckAt :=
        dateTimeFromJson platform object (qStringLiteral "lastSuccessfulCheckAt") }
  else
    .failure normalized.error

/-- `ImportExportService::groupFromJson` (ImportExportService.cpp:483). -/
def groupFromJson (object : JsonObject) : ConnectionGroup where
  id := JsonValue.toString (object.value (qStringLiteral "id"))
  name := JsonValue.toString (object.value (qStringLiteral "name"))
  sortOrder := JsonValue.toInt (object.value (qStringLiteral "sortOrder"))
  createdAt := dateTimeFromJson platform object (qStringLiteral "createdAt")
  updatedAt := dateTimeFromJson platform object (qStringLiteral "updatedAt")

/-- The ids that exist and the result, in the loop over the records. -/
structure ImportLoop where
  existingIds : List QString
  result : ImportResult

namespace ImportLoop

/-- A record is left out with an error. -/
def reject (loop : ImportLoop) (error : ImportRecordError) : ImportLoop :=
  { loop with result := { loop.result with errors := loop.result.errors ++ [error] } }

/-- A duplicate is skipped. -/
def skip (loop : ImportLoop) : ImportLoop :=
  { loop with
    result := { loop.result with skippedDuplicates := loop.result.skippedDuplicates + 1 } }

/-- A connection is imported. -/
def push (loop : ImportLoop) (connection : Connection) : ImportLoop where
  existingIds :=
    if connection.id.isEmpty then loop.existingIds else connection.id :: loop.existingIds
  result := { loop.result with connections := loop.result.connections ++ [connection] }

end ImportLoop

/-- The name of a copy. -/
def copyName (name : QString) : QString :=
  if name.isEmpty then qStringLiteral "Imported copy" else name ++ qStringLiteral " Copy"

/-- One record of the document (ImportExportService.cpp:334). -/
def importRecord (duplicatePolicy : DuplicatePolicy) (index : ℤ) (value : JsonValue)
    (loop : ImportLoop) : StoreProgram ImportLoop :=
  match value with
  | .object object =>
    let parsed := connectionFromJson platform object
    if !parsed.ok then
      return loop.reject {
        index
        recordName := JsonValue.toString (JsonObject.value object (qStringLiteral "name"))
        error := parsed.error }
    else
      let connection := parsed.value
      if !connection.id.isEmpty && loop.existingIds.contains connection.id then
        match duplicatePolicy with
        | .skip => return loop.skip
        | .replace => return loop.push connection
        | .createCopy => do
          let id ← createUuid
          return loop.push { connection with id, name := copyName connection.name }
      else
        return loop.push connection
  | _ =>
    return loop.reject {
      index
      error := .fromCode .invalidPath .validation
        (qStringLiteral "Connection entry is not an object.") }

/-- The loop over the records. -/
def importRecords (duplicatePolicy : DuplicatePolicy) :
    ℤ → List JsonValue → ImportLoop → StoreProgram ImportLoop
  | _, [], loop => return loop
  | index, value :: values, loop => do
    let loop ← importRecord platform duplicatePolicy index value loop
    importRecords duplicatePolicy (index + 1) values loop

/-- The groups of a document. -/
def importGroups (root : JsonObject) : List ConnectionGroup :=
  (JsonValue.toArray (root.value (qStringLiteral "groups"))).filterMap fun value =>
    match value with
    | .object object => some (groupFromJson platform object)
    | _ => none

/-- The import of a document that is not encrypted (ImportExportService.cpp:311). -/
def importPlain (root : JsonObject) (options : ImportOptions) :
    StoreProgram (Result ImportResult) :=
  if JsonValue.toString (root.value (qStringLiteral "schema")) ≠ plainExportSchema ∨
      JsonValue.toInt (root.value (qStringLiteral "version")) ≠ exportSchemaVersion then
    return .failure (.fromCode .invalidPath .validation
      (qStringLiteral "Unsupported import schema or version."))
  else do
    let values := JsonValue.toArray (root.value (qStringLiteral "connections"))
    let loop ← importRecords platform options.duplicatePolicy 0 values
      { existingIds := options.existingConnectionIds
        result := { groups := importGroups platform root } }
    return .success loop.result

theorem passphrase_ne_nil {platform : Platform} {root : JsonObject} {passphrase : QByteArray}
    (h : (decryptExportPayload platform root passphrase).ok = true) : passphrase ≠ [] := by
  rintro rfl
  exact absurd h Bool.false_ne_true

/-- `ImportExportService::importConnections` (ImportExportService.cpp:284). -/
def importConnections (bytes : QByteArray) (options : ImportOptions) :
    StoreProgram (Result ImportResult) :=
  match platform.codec.fromJson bytes with
  | .error errorString => return .failure (.fromCode .invalidPath .validation errorString)
  | .ok (.object root) =>
    if JsonValue.toString (JsonObject.value root (qStringLiteral "schema")) =
        encryptedExportSchema then
      let decrypted := decryptExportPayload platform root options.encryptionPassphrase
      if _h : decrypted.ok then
        importConnections decrypted.value { options with encryptionPassphrase := [] }
      else
        return .failure decrypted.error
    else
      importPlain platform root options
  | .ok _ =>
    return .failure (.fromCode .invalidPath .validation (qStringLiteral "no error occurred"))
termination_by options.encryptionPassphrase.length
decreasing_by exact List.length_pos_iff.2 (passphrase_ne_nil _h)

/-- An import is refused at once, or it is that of a document in the clear. -/
theorem importConnections_cases (platform : Platform) (bytes : QByteArray)
    (options : ImportOptions) :
    (∃ error, error.hasError = true ∧
      importConnections platform bytes options = .pure (.failure error)) ∨
    ∃ root, importConnections platform bytes options = importPlain platform root options := by
  induction bytes, options using importConnections.induct platform with
  | case1 bytes options errorString hread =>
    rw [importConnections, hread]
    exact Or.inl ⟨_, rfl, rfl⟩
  | case2 bytes options root hread hschema decrypted hok ih =>
    have hdecrypted : (decryptExportPayload platform root options.encryptionPassphrase).ok = true :=
      hok
    rw [importConnections, hread]
    simp only [hschema, if_true, hdecrypted, dif_pos]
    exact ih
  | case3 bytes options root hread hschema decrypted hok =>
    have hdecrypted : ¬(decryptExportPayload platform root options.encryptionPassphrase).ok = true :=
      hok
    rw [importConnections, hread]
    simp only [hschema, if_true, hdecrypted]
    refine Or.inl ⟨_, ?_, rfl⟩
    rwa [Result.ok, Bool.not_eq_true, Bool.not_eq_false'] at hdecrypted
  | case4 bytes options root hread hschema =>
    rw [importConnections, hread]
    simp only [hschema, if_false]
    exact Or.inr ⟨root, rfl⟩
  | case5 bytes options value hvalue hread =>
    rw [importConnections, hread]
    cases value with
    | object root => exact absurd rfl (hvalue root)
    | _ => exact Or.inl ⟨_, rfl, rfl⟩

end ImportExportService

/-! ## The use case -/

/-- `ExportConnectionsRequest` (ConnectionImportExportService.h:10). -/
structure ExportConnectionsRequest where
  includePlainTextPasswords : Bool := false
  plainTextPasswordExportConfirmed : Bool := false

namespace ConnectionImportExportService

variable (platform : Platform)

/-- `ConnectionImportExportService::exportConnections`
    (ConnectionImportExportService.cpp:22). -/
def exportConnections (request : ExportConnectionsRequest) : StoreProgram (Result QByteArray) := do
  let connections ← ConnectionRepository.list
  if connections.ok then
    let groups ← ConnectionGroupRepository.list
    if groups.ok then
      ImportExportService.exportConnections platform ⟨connections.value, groups.value⟩ {
        includePlainTextPasswords := request.includePlainTextPasswords
        confirmPlainTextPasswordExport := request.plainTextPasswordExportConfirmed
        credentialStore := request.includePlainTextPasswords }
    else
      return .failure groups.error
  else
    return .failure connections.error

/-- One group of a document is updated or added. -/
def saveGroup (existingGroupIds : List QString) (group : ConnectionGroup) :
    StoreProgram (Result ConnectionGroup) :=
  if existingGroupIds.contains group.id then ConnectionGroupRepository.update group
  else ConnectionGroupRepository.add group

/-- The groups of a document, one by one. -/
def persistEachGroup (existingGroupIds : List QString) :
    List ConnectionGroup → StoreProgram (Result Bool)
  | [] => return .success true
  | group :: groups => do
    let saved ← saveGroup existingGroupIds group
    if saved.ok then persistEachGroup existingGroupIds groups else return .failure saved.error

/-- `ConnectionImportExportService::persistGroups`
    (ConnectionImportExportService.cpp:81). -/
def persistGroups (groups : List ConnectionGroup) : StoreProgram (Result Bool) := do
  let existingGroups ← ConnectionGroupRepository.list
  if existingGroups.ok then persistEachGroup (existingGroups.value.map (·.id)) groups
  else return .failure existingGroups.error

/-- One connection of a document is updated or added. -/
def saveConnection (existingConnectionIds : List QString) (duplicatePolicy : DuplicatePolicy)
    (connection : Connection) : StoreProgram (Result Connection) :=
  let shouldUpdate : Bool :=
    duplicatePolicy = .replace && existingConnectionIds.contains connection.id
  if shouldUpdate then ConnectionRepository.update platform.sanitize connection
  else ConnectionRepository.add platform.sanitize connection

/-- `ConnectionImportExportService::persistConnections`
    (ConnectionImportExportService.cpp:105). -/
def persistConnections (existingConnectionIds : List QString) (duplicatePolicy : DuplicatePolicy) :
    List Connection → StoreProgram (Result Bool)
  | [] => return .success true
  | connection :: connections => do
    let saved ← saveConnection platform existingConnectionIds duplicatePolicy connection
    if saved.ok then persistConnections existingConnectionIds duplicatePolicy connections
    else return .failure saved.error

/-- `ConnectionImportExportService::importConnections`
    (ConnectionImportExportService.cpp:46). -/
def importConnections (bytes : QByteArray) (duplicatePolicy : DuplicatePolicy) :
    StoreProgram (Result ImportResult) := do
  let existingConnections ← ConnectionRepository.list
  if existingConnections.ok then
    let existingConnectionIds := existingConnections.value.map (·.id)
    let imported ← ImportExportService.importConnections platform bytes
      { duplicatePolicy, existingConnectionIds }
    if imported.ok then
      let persistedGroups ← persistGroups imported.value.groups
      if persistedGroups.ok then
        let persistedConnections ← persistConnections platform existingConnectionIds
          duplicatePolicy imported.value.connections
        if persistedConnections.ok then return imported
        else return .failure persistedConnections.error
      else
        return .failure persistedGroups.error
    else
      return imported
  else
    return .failure existingConnections.error

end ConnectionImportExportService

end SmbBrowser.Application
