import SmbBrowser.Application.Atomicity
import SmbBrowser.Application.Credentials

/-!
# The ids of imported connections

An import keeps the ids it has seen (ImportExportService.cpp:329–374): a record with one of
them is skipped, copied under a UUID or, where it replaces, taken as it is.  The use case adds
the connections that replace none (ConnectionImportExportService.cpp:105–121).

Results:
* `Seen.importRecords`: the loop over the records collects ids that were not seen, unless it
  replaces;
* `nodup_addedIds_persist`: connections with different ids are added under different ids;
* `importIds_distinct_iff`: ids do not collide exactly when the readable records of a document
  that replaces have different ids;
* `importIds_twice_collide`: a record that is in the document twice.
-/

namespace SmbBrowser.Application

open SmbBrowser.Base SmbBrowser.Qt SmbBrowser.Core SmbBrowser.Storage
open ImportExportService (ImportLoop importRecord importRecords importPlain decryptExportPayload
  encryptedExportSchema connectionFromJson)

namespace ConnectionImportExportService

/-! ## Ids -/

/-- The ids that are not empty, in their order. -/
def idsOf (ids : List QString) : List QString := ids.filter (· ≠ [])

theorem mem_idsOf {ids : List QString} {id : QString} : id ∈ idsOf ids ↔ id ∈ ids ∧ id ≠ [] := by
  rw [idsOf, List.mem_filter, decide_eq_true_eq]

theorem idsOf_append (ids ids' : List QString) : idsOf (ids ++ ids') = idsOf ids ++ idsOf ids' :=
  List.filter_append ..

theorem idsOf_cons {id : QString} (h : id ≠ []) (ids : List QString) :
    idsOf (id :: ids) = id :: idsOf ids :=
  List.filter_cons_of_pos (decide_eq_true h)

/-- The id of a row that is added. -/
def addedId : Event stores → Option QString
  | ⟨.insertConnection row, _⟩ => some row.id
  | _ => none

/-- The ids of the rows that are added in a run. -/
def addedIds (es : List (Event stores)) : List QString := es.filterMap addedId

/-- The UUID that is drawn in an event. -/
def uuid : Event stores → Option QString
  | ⟨.createUuid, id⟩ => some id
  | _ => none

/-- The UUIDs that are drawn in a run. -/
def uuids (es : List (Event stores)) : List QString := es.filterMap uuid

/-- `QUuid::createUuid` draws no text twice, and none of those that are known. -/
structure FreshUuids (known : List QString) (es : List (Event stores)) : Prop where
  distinct : (uuids es).Nodup
  new : ∀ id ∈ uuids es, id ≠ [] ∧ id ∉ known

section

variable {known : List QString} {es es' : List (Event stores)}

theorem uuids_append : uuids (es ++ es') = uuids es ++ uuids es' := List.filterMap_append

theorem addedIds_append : addedIds (es ++ es') = addedIds es ++ addedIds es' :=
  List.filterMap_append

theorem FreshUuids.left (h : FreshUuids known (es ++ es')) : FreshUuids known es := by
  obtain ⟨hdistinct, hnew⟩ := h
  rw [uuids_append] at hdistinct hnew
  exact ⟨(List.nodup_append.1 hdistinct).1, fun id hmem => hnew id (List.mem_append_left _ hmem)⟩

/-- What is drawn later is new beside what was drawn before. -/
theorem FreshUuids.right (h : FreshUuids known (es ++ es')) :
    FreshUuids (known ++ uuids es) es' := by
  obtain ⟨hdistinct, hnew⟩ := h
  rw [uuids_append] at hdistinct hnew
  obtain ⟨-, hnodup, hdisjoint⟩ := List.nodup_append.1 hdistinct
  refine ⟨hnodup, fun id hmem => ?_⟩
  obtain ⟨hne, hknown⟩ := hnew id (List.mem_append_right _ hmem)
  refine ⟨hne, fun hmem' => ?_⟩
  rcases List.mem_append.1 hmem' with hmem' | hmem'
  · exact hknown hmem'
  · exact hdisjoint id hmem' id hmem rfl

theorem FreshUuids.mono {known' : List QString} (h : FreshUuids known es) (hsub : known' ⊆ known) :
    FreshUuids known' es :=
  ⟨h.distinct, fun id hmem => ⟨(h.new id hmem).1, fun hknown => (h.new id hmem).2 (hsub hknown)⟩⟩

end

/-! ## The loop over the records -/

/-- The connection that a value of the document is read as. -/
def readRecord (platform : Platform) : JsonValue → Option Connection
  | .object object =>
    let parsed := connectionFromJson platform object
    if parsed.ok then some parsed.value else none
  | _ => none

/-- The ids that are seen, where the import has come with these connections. -/
structure Seen (existing known : List QString) (loop : ImportLoop) : Prop where
  starts : ∀ id ∈ existing, id ∈ loop.existingIds
  collects : ∀ id ∈ idsOf (loop.result.connections.map (·.id)), id ∈ loop.existingIds
  within : ∀ id ∈ loop.existingIds, id ∈ known
  distinct : (idsOf (loop.result.connections.map (·.id))).Nodup
  apart : ∀ id ∈ idsOf (loop.result.connections.map (·.id)), id ∉ existing

section

variable {platform : Platform} {existing known : List QString} {loop loop' : ImportLoop}
  {index : ℤ} {value : JsonValue} {values : List JsonValue} {es : List (Event stores)}

theorem ids_push (connection : Connection) :
    idsOf ((loop.push connection).result.connections.map (·.id)) =
      idsOf (loop.result.connections.map (·.id)) ++ idsOf [connection.id] := by
  rw [← idsOf_append, ImportLoop.push, List.map_append, List.map_singleton]

theorem Seen.mono {known' : List QString} (h : Seen existing known loop) (hsub : known ⊆ known') :
    Seen existing known' loop :=
  { h with within := fun id hmem => hsub (h.within id hmem) }

/-- A connection without an id, or with one that is not seen. -/
theorem Seen.push {connection : Connection} (h : Seen existing known loop)
    (hnew : connection.id ≠ [] → connection.id ∉ loop.existingIds)
    (hknown : connection.id ≠ [] → connection.id ∈ known) :
    Seen existing known (loop.push connection) := by
  by_cases hid : connection.id = []
  · have hids : idsOf ((loop.push connection).result.connections.map (·.id)) =
        idsOf (loop.result.connections.map (·.id)) := by
      rw [ids_push, hid]
      exact List.append_nil _
    have hexisting : (loop.push connection).existingIds = loop.existingIds := by
      rw [ImportLoop.push, hid]
      rfl
    refine ⟨?_, ?_, ?_, ?_, ?_⟩
    · rw [hexisting]
      exact h.starts
    · rw [hids, hexisting]
      exact h.collects
    · rw [hexisting]
      exact h.within
    · rw [hids]
      exact h.distinct
    · rw [hids]
      exact h.apart
  · have hids : idsOf ((loop.push connection).result.connections.map (·.id)) =
        idsOf (loop.result.connections.map (·.id)) ++ [connection.id] := by
      rw [ids_push, idsOf_cons hid]
      rfl
    have hexisting : (loop.push connection).existingIds = connection.id :: loop.existingIds := by
      rw [ImportLoop.push, if_neg (by simpa using hid)]
    have hunseen := hnew hid
    refine ⟨?_, ?_, ?_, ?_, ?_⟩
    · rw [hexisting]
      exact fun id hmem => List.mem_cons_of_mem _ (h.starts id hmem)
    · rw [hids, hexisting]
      intro id hmem
      rcases List.mem_append.1 hmem with hmem | hmem
      · exact List.mem_cons_of_mem _ (h.collects id hmem)
      · rw [List.mem_singleton.1 hmem]
        exact List.mem_cons_self
    · rw [hexisting]
      exact List.forall_mem_cons.2 ⟨hknown hid, h.within⟩
    · rw [hids, List.nodup_append]
      refine ⟨h.distinct, List.pairwise_singleton _ _, ?_⟩
      rintro id hmem _ hmem' rfl
      rw [List.mem_singleton.1 hmem'] at hmem
      exact hunseen (h.collects _ hmem)
    · rw [hids]
      intro id hmem hstored
      rcases List.mem_append.1 hmem with hmem | hmem
      · exact h.apart id hmem hstored
      · rw [List.mem_singleton.1 hmem] at hstored
        exact hunseen (h.starts _ hstored)

/-- One record, unless it replaces. -/
theorem Seen.importRecord {policy : DuplicatePolicy} (h : Seen existing known loop)
    (hpolicy : policy ≠ .replace)
    (hrun : Program.Runs (importRecord platform policy index value loop) es loop')
    (hfresh : FreshUuids known es)
    (hstated : ∀ connection ∈ readRecord platform value, connection.id ≠ [] →
      connection.id ∈ known) :
    Seen existing (known ++ uuids es) loop' := by
  have hgrown := h.mono (List.subset_append_left known (uuids es))
  rw [ImportExportService.importRecord.eq_def] at hrun
  cases value with
  | object object =>
    dsimp only at hrun
    split at hrun
    · obtain ⟨rfl, rfl⟩ := Program.runs_pure.1 hrun
      exact { hgrown with }
    · rename_i hok
      rw [Bool.not_eq_true, Bool.not_eq_false'] at hok
      have hknown : (connectionFromJson platform object).value.id ≠ [] →
          (connectionFromJson platform object).value.id ∈ known ++ uuids es := fun hid =>
        List.mem_append_left _ (hstated _ (if_pos hok) hid)
      split at hrun
      · rename_i hseen
        cases policy with
        | skip =>
          obtain ⟨rfl, rfl⟩ := Program.runs_pure.1 hrun
          exact { hgrown with }
        | replace => exact absurd rfl hpolicy
        | createCopy =>
          obtain ⟨id, rest, rfl, hrest⟩ := Program.runs_ask.1 hrun
          obtain ⟨rfl, rfl⟩ := Program.runs_pure.1 hrest
          have hid : id ∈ uuids [(⟨.createUuid, id⟩ : Event stores)] := List.mem_singleton_self id
          refine hgrown.push (fun _ hmem => ?_) fun _ => List.mem_append_right _ hid
          exact (hfresh.new id hid).2 (h.within id hmem)
      · rename_i hunseen
        obtain ⟨rfl, rfl⟩ := Program.runs_pure.1 hrun
        refine hgrown.push (fun hid hmem => hunseen ?_) hknown
        rw [Bool.and_eq_true, Bool.not_eq_true', List.isEmpty_eq_false_iff, List.contains_iff_mem]
        exact ⟨hid, hmem⟩
  | _ =>
    obtain ⟨rfl, rfl⟩ := Program.runs_pure.1 hrun
    exact { hgrown with }

/-- All records, unless they replace. -/
theorem Seen.importRecords {policy : DuplicatePolicy} (h : Seen existing known loop)
    (hpolicy : policy ≠ .replace)
    (hrun : Program.Runs (importRecords platform policy index values loop) es loop')
    (hfresh : FreshUuids known es)
    (hstated : ∀ value ∈ values, ∀ connection ∈ readRecord platform value, connection.id ≠ [] →
      connection.id ∈ known) :
    Seen existing (known ++ uuids es) loop' := by
  induction values generalizing index loop known es with
  | nil =>
    obtain ⟨rfl, rfl⟩ := Program.runs_pure.1 hrun
    exact h.mono (List.subset_append_left ..)
  | cons value values ih =>
    obtain ⟨es₁, next, es₂, rfl, hfirst, hrest⟩ := Program.runs_bind.1 hrun
    obtain ⟨hvalue, hvalues⟩ := List.forall_mem_cons.1 hstated
    have hnext := h.importRecord hpolicy hfirst hfresh.left hvalue
    have hlast := ih hnext hrest hfresh.right fun value hmem connection hread hid =>
      List.mem_append_left _ (hvalues value hmem connection hread hid)
    rwa [List.append_assoc, ← uuids_append] at hlast

/-- A record that replaces is taken as it is. -/
theorem ids_importRecord_replace
    (hrun : Program.Runs (importRecord platform .replace index value loop) es loop') :
    loop'.result.connections.map (·.id) =
      loop.result.connections.map (·.id) ++ (readRecord platform value).toList.map (·.id) := by
  rw [ImportExportService.importRecord.eq_def] at hrun
  cases value with
  | object object =>
    dsimp only at hrun
    split at hrun
    · rename_i hfailed
      obtain ⟨-, rfl⟩ := Program.runs_pure.1 hrun
      rw [Bool.not_eq_true'] at hfailed
      have hread : readRecord platform (.object object) = none :=
        if_neg (by rw [hfailed]; exact Bool.false_ne_true)
      rw [hread]
      exact (List.append_nil _).symm
    · rename_i hok
      rw [Bool.not_eq_true, Bool.not_eq_false'] at hok
      have hread : readRecord platform (.object object) =
          some (connectionFromJson platform object).value := if_pos hok
      rw [ite_self] at hrun
      obtain ⟨-, rfl⟩ := Program.runs_pure.1 hrun
      rw [hread, ImportLoop.push, List.map_append]
      rfl
  | _ =>
    obtain ⟨-, rfl⟩ := Program.runs_pure.1 hrun
    exact (List.append_nil _).symm

theorem ids_importRecords_replace
    (hrun : Program.Runs (importRecords platform .replace index values loop) es loop') :
    loop'.result.connections.map (·.id) =
      loop.result.connections.map (·.id) ++ (values.filterMap (readRecord platform)).map (·.id) := by
  induction values generalizing index loop es with
  | nil =>
    obtain ⟨-, rfl⟩ := Program.runs_pure.1 hrun
    exact (List.append_nil _).symm
  | cons value values ih =>
    obtain ⟨es₁, next, es₂, rfl, hfirst, hrest⟩ := Program.runs_bind.1 hrun
    rw [ih hrest, ids_importRecord_replace hfirst, List.append_assoc]
    cases hread : readRecord platform value with
    | none =>
      rw [List.filterMap_cons_none hread]
      rfl
    | some connection =>
      rw [List.filterMap_cons_some hread]
      rfl

end

/-! ## Adding -/

section

variable {platform : Platform} {existing known : List QString} {policy : DuplicatePolicy}
  {connection : Connection} {connections : List Connection} {es : List (Event stores)}

/-- An addition adds the id of the connection, or a UUID where it has none. -/
theorem addedIds_add {r : Result Connection}
    (hrun : Program.Runs (ConnectionRepository.add platform.sanitize connection) es r) :
    (connection.id ≠ [] ∧ addedIds es = [connection.id]) ∨
      (connection.id = [] ∧ addedIds es = uuids es) := by
  obtain ⟨es₁, stored, es₂, rfl, hid, hrest⟩ := Program.runs_bind.1 hrun
  obtain ⟨now, es₃, rfl, hinsert⟩ := Program.runs_ask.1 hrest
  obtain ⟨executed, es₄, rfl, hend⟩ := Program.runs_ask.1 hinsert
  have hes₄ : es₄ = [] := by
    cases executed with
    | error text => exact (Program.runs_pure.1 hend).1
    | ok done => exact (Program.runs_pure.1 hend).1
  subst hes₄
  rw [ConnectionRepository.withId] at hid
  split at hid
  · rename_i hempty
    obtain ⟨id, rest, rfl, hdone⟩ := Program.runs_ask.1 hid
    obtain ⟨rfl, rfl⟩ := Program.runs_pure.1 hdone
    exact .inr ⟨List.isEmpty_iff.1 hempty, rfl⟩
  · rename_i hnonempty
    obtain ⟨rfl, rfl⟩ := Program.runs_pure.1 hid
    exact .inl ⟨fun hnil => hnonempty (List.isEmpty_iff.2 hnil), rfl⟩

theorem addedIds_update {r : Result Connection}
    (hrun : Program.Runs (ConnectionRepository.update platform.sanitize connection) es r) :
    addedIds es = [] := by
  rw [ConnectionRepository.update] at hrun
  split at hrun
  · obtain ⟨rfl, -⟩ := Program.runs_pure.1 hrun
    rfl
  · obtain ⟨now, rest, rfl, hupdate⟩ := Program.runs_ask.1 hrun
    obtain ⟨executed, rest, rfl, hend⟩ := Program.runs_ask.1 hupdate
    have hrest : rest = [] := by
      cases executed with
      | error text => exact (Program.runs_pure.1 hend).1
      | ok affected =>
        cases affected with
        | zero => exact (Program.runs_pure.1 hend).1
        | succ affected => exact (Program.runs_pure.1 hend).1
    subst hrest
    rfl

/-- A connection that is saved under an id: its own, which is not to be replaced, or a UUID. -/
theorem addedIds_saveConnection {r : Result Connection}
    (hrun : Program.Runs (saveConnection platform existing policy connection) es r) :
    addedIds es = [] ∨
      (connection.id ≠ [] ∧ addedIds es = [connection.id] ∧
        (policy = .replace → connection.id ∉ existing)) ∨
      addedIds es = uuids es := by
  rw [saveConnection] at hrun
  split at hrun
  · exact .inl (addedIds_update hrun)
  · rename_i hnot
    obtain ⟨hid, hadded⟩ | ⟨-, hadded⟩ := addedIds_add hrun
    · refine .inr (.inl ⟨hid, hadded, ?_⟩)
      rintro rfl hstored
      exact hnot (by simpa using hstored)
    · exact .inr (.inr hadded)

/-- The ids that are added are those of the connections, and UUIDs. -/
theorem mem_addedIds_persist {r : Result Bool}
    (hrun : Program.Runs (persistConnections platform existing policy connections) es r) :
    ∀ id ∈ addedIds es, id ∈ uuids es ∨
      (id ∈ idsOf (connections.map (·.id)) ∧ (policy = .replace → id ∉ existing)) := by
  induction connections generalizing es with
  | nil =>
    obtain ⟨rfl, -⟩ := Program.runs_pure.1 hrun
    exact fun id hmem => absurd hmem List.not_mem_nil
  | cons connection connections ih =>
    obtain ⟨es₁, saved, es₂, rfl, hfirst, hrest⟩ := Program.runs_bind.1 hrun
    intro id hmem
    rw [addedIds_append] at hmem
    rw [uuids_append]
    rcases List.mem_append.1 hmem with hmem | hmem
    · obtain hnone | ⟨hid, hadded, hexisting⟩ | hadded := addedIds_saveConnection hfirst
      · rw [hnone] at hmem
        exact absurd hmem List.not_mem_nil
      · rw [hadded, List.mem_singleton] at hmem
        subst hmem
        refine .inr ⟨mem_idsOf.2 ⟨List.mem_cons_self, hid⟩, hexisting⟩
      · rw [hadded] at hmem
        exact .inl (List.mem_append_left _ hmem)
    · have hlater : id ∈ uuids es₂ ∨
          (id ∈ idsOf (connections.map (·.id)) ∧ (policy = .replace → id ∉ existing)) := by
        split at hrest
        · exact ih hrest id hmem
        · obtain ⟨rfl, -⟩ := Program.runs_pure.1 hrest
          exact absurd hmem List.not_mem_nil
      obtain huuid | ⟨hid, hexisting⟩ := hlater
      · exact .inl (List.mem_append_right _ huuid)
      · obtain ⟨hid, hne⟩ := mem_idsOf.1 hid
        exact .inr ⟨mem_idsOf.2 ⟨List.mem_cons_of_mem _ hid, hne⟩, hexisting⟩

/-- Different ids are added, each of them once. -/
theorem nodup_addedIds_persist {r : Result Bool}
    (hrun : Program.Runs (persistConnections platform existing policy connections) es r)
    (hfresh : FreshUuids known es)
    (hdistinct : (idsOf (connections.map (·.id))).Nodup)
    (hknown : ∀ id ∈ idsOf (connections.map (·.id)), id ∈ known) : (addedIds es).Nodup := by
  induction connections generalizing es known with
  | nil =>
    obtain ⟨rfl, -⟩ := Program.runs_pure.1 hrun
    exact List.nodup_nil
  | cons connection connections ih =>
    obtain ⟨es₁, saved, es₂, rfl, hfirst, hrest⟩ := Program.runs_bind.1 hrun
    have hsub : idsOf (connections.map (·.id)) ⊆ idsOf ((connection :: connections).map (·.id)) :=
      (List.sublist_cons_self ..).filter _ |>.subset
    have hdistinct' : (idsOf (connections.map (·.id))).Nodup :=
      hdistinct.sublist ((List.sublist_cons_self ..).filter _)
    have hlater : (addedIds es₂).Nodup ∧ ∀ id ∈ addedIds es₂, id ∈ uuids es₂ ∨
        id ∈ idsOf (connections.map (·.id)) := by
      split at hrest
      · refine ⟨ih hrest hfresh.right hdistinct' fun id hmem =>
          List.mem_append_left _ (hknown id (hsub hmem)), fun id hmem => ?_⟩
        exact (mem_addedIds_persist hrest id hmem).imp_right And.left
      · obtain ⟨rfl, -⟩ := Program.runs_pure.1 hrest
        exact ⟨List.nodup_nil, fun id hmem => absurd hmem List.not_mem_nil⟩
    obtain ⟨hnodup, hlater⟩ := hlater
    rw [addedIds_append]
    obtain hnone | ⟨hid, hadded, -⟩ | hadded := addedIds_saveConnection hfirst
    · rw [hnone]
      exact hnodup
    · have hids := hdistinct
      rw [List.map_cons, idsOf_cons hid, List.nodup_cons] at hids
      have hfirstKnown : connection.id ∈ known :=
        hknown _ (mem_idsOf.2 ⟨List.mem_cons_self, hid⟩)
      rw [hadded, List.singleton_append, List.nodup_cons]
      refine ⟨fun hmem => ?_, hnodup⟩
      rcases hlater _ hmem with huuid | hmem
      · exact (hfresh.right.new _ huuid).2 (List.mem_append_left _ hfirstKnown)
      · exact hids.1 hmem
    · rw [hadded, List.nodup_append]
      refine ⟨hfresh.left.distinct, hnodup, ?_⟩
      rintro id hmem _ hmem' rfl
      rcases hlater _ hmem' with huuid | hmem'
      · exact (hfresh.right.new _ huuid).2 (List.mem_append_right _ hmem)
      · exact (hfresh.left.new _ hmem).2 (hknown _ (hsub hmem'))

end

/-! ## The document -/

section

variable (platform : Platform)

/-- The document in the clear that an import comes to. -/
def plainRoot (bytes passphrase : QByteArray) : Option JsonObject :=
  match platform.codec.fromJson bytes with
  | .ok (.object root) =>
    if JsonValue.toString (JsonObject.value root (qStringLiteral "schema")) =
        encryptedExportSchema then
      let decrypted := decryptExportPayload platform root passphrase
      if _h : decrypted.ok then plainRoot decrypted.value [] else none
    else
      some root
  | _ => none
termination_by passphrase.length
decreasing_by exact List.length_pos_iff.2 (ImportExportService.passphrase_ne_nil _h)

/-- The ids that the readable records of a document state. -/
def statedIds (bytes passphrase : QByteArray) : List QString :=
  ((plainRoot platform bytes passphrase).map fun root => idsOf (recordIds platform root)).getD []

end

section

variable {platform : Platform} {bytes : QByteArray} {options : ImportOptions}

theorem importConnections_plainRoot (platform : Platform) (bytes : QByteArray)
    (options : ImportOptions) :
    (∃ error, error.hasError = true ∧
      ImportExportService.importConnections platform bytes options = .pure (.failure error)) ∨
    ∃ root, plainRoot platform bytes options.encryptionPassphrase = some root ∧
      ImportExportService.importConnections platform bytes options =
        importPlain platform root options := by
  induction bytes, options using ImportExportService.importConnections.induct platform with
  | case1 bytes options errorString hread =>
    rw [ImportExportService.importConnections, hread]
    exact .inl ⟨_, rfl, rfl⟩
  | case2 bytes options root hread hschema decrypted hok ih =>
    have hdecrypted : (decryptExportPayload platform root options.encryptionPassphrase).ok = true :=
      hok
    rw [ImportExportService.importConnections, plainRoot, hread]
    simp only [hschema, if_true, hdecrypted, dif_pos]
    exact ih
  | case3 bytes options root hread hschema decrypted hok =>
    have hdecrypted : ¬(decryptExportPayload platform root options.encryptionPassphrase).ok = true :=
      hok
    rw [ImportExportService.importConnections, hread]
    simp only [hschema, if_true, hdecrypted]
    refine .inl ⟨_, ?_, rfl⟩
    rwa [Result.ok, Bool.not_eq_true, Bool.not_eq_false'] at hdecrypted
  | case4 bytes options root hread hschema =>
    rw [ImportExportService.importConnections, plainRoot, hread]
    simp only [hschema, if_false]
    exact .inr ⟨root, rfl, rfl⟩
  | case5 bytes options value hvalue hread =>
    rw [ImportExportService.importConnections, hread]
    cases value with
    | object root => exact absurd rfl (hvalue root)
    | _ => exact .inl ⟨_, rfl, rfl⟩

theorem recordIds_eq (root : JsonObject) :
    recordIds platform root =
      ((JsonValue.toArray (root.value (qStringLiteral "connections"))).filterMap
        (readRecord platform)).map (·.id) := by
  rw [recordIds, List.map_filterMap]
  refine List.filterMap_congr fun value _ => ?_
  cases value with
  | object object =>
    rw [readRecord]
    dsimp only
    split
    · rfl
    · rfl
  | _ => rfl

/-- A successful import is a run of the loop over the records. -/
theorem runs_importRecords {es : List (Event stores)} {imported : ImportResult}
    (hrun : Program.Runs (ImportExportService.importConnections platform bytes options) es
      (.success imported)) :
    ∃ root loop, plainRoot platform bytes options.encryptionPassphrase = some root ∧
      Program.Runs (importRecords platform options.duplicatePolicy 0
        (JsonValue.toArray (root.value (qStringLiteral "connections")))
        { existingIds := options.existingConnectionIds
          result := { groups := ImportExportService.importGroups platform root } }) es loop ∧
      loop.result = imported := by
  obtain ⟨error, herror, hfailed⟩ | ⟨root, hroot, hplain⟩ :=
    importConnections_plainRoot platform bytes options
  · rw [hfailed] at hrun
    obtain ⟨-, hresult⟩ := Program.runs_pure.1 hrun
    have hnone := congrArg (fun r => r.error.hasError) hresult
    change false = error.hasError at hnone
    rw [herror] at hnone
    cases hnone
  · rw [hplain, importPlain] at hrun
    split at hrun
    · obtain ⟨-, hresult⟩ := Program.runs_pure.1 hrun
      have hnone := congrArg (fun r => r.error.hasError) hresult
      cases hnone
    · obtain ⟨es₁, loop, es₂, rfl, hloop, hend⟩ := Program.runs_bind.1 hrun
      obtain ⟨rfl, hresult⟩ := Program.runs_pure.1 hend
      rw [List.append_nil]
      exact ⟨root, loop, hroot, hloop, (congrArg Result.value hresult).symm⟩

/-- The imported ids do not collide: not with each other, not with those that exist unless
    they replace them, and no id is added that is stored. -/
structure NeverCollides (platform : Platform) (options : ImportOptions) (stated : List QString)
    (es : List (Event stores)) (imported : ImportResult) : Prop where
  distinct : (idsOf (imported.connections.map (·.id))).Nodup
  apart : options.duplicatePolicy ≠ .replace →
    ∀ id ∈ idsOf (imported.connections.map (·.id)), id ∉ options.existingConnectionIds
  adds : ∀ es' r, Program.Runs (persistConnections platform options.existingConnectionIds
      options.duplicatePolicy imported.connections) es' r →
    FreshUuids (options.existingConnectionIds ++ stated ++ uuids es) es' →
      (addedIds es').Nodup ∧ ∀ id ∈ addedIds es', id ∉ options.existingConnectionIds

/-- Different ids that are known, and that exist only to be replaced. -/
theorem NeverCollides.of_distinct {stated : List QString} {es : List (Event stores)}
    {imported : ImportResult} (hdistinct : (idsOf (imported.connections.map (·.id))).Nodup)
    (hknown : ∀ id ∈ idsOf (imported.connections.map (·.id)),
      id ∈ options.existingConnectionIds ++ stated ++ uuids es)
    (hapart : options.duplicatePolicy ≠ .replace →
      ∀ id ∈ idsOf (imported.connections.map (·.id)), id ∉ options.existingConnectionIds) :
    NeverCollides platform options stated es imported where
  distinct := hdistinct
  apart := hapart
  adds := by
    intro es' r hrun hfresh
    refine ⟨nodup_addedIds_persist hrun hfresh hdistinct hknown, fun id hmem hstored => ?_⟩
    obtain huuid | ⟨hid, hreplaced⟩ := mem_addedIds_persist hrun id hmem
    · refine (hfresh.new id huuid).2 ?_
      rw [List.append_assoc]
      exact List.mem_append_left _ hstored
    · by_cases hpolicy : options.duplicatePolicy = .replace
      · exact hreplaced hpolicy hstored
      · exact hapart hpolicy id hid hstored

/-- **Import ids** do not collide exactly when the readable records of a document that
    replaces state different ids. -/
theorem importIds_distinct_iff {es : List (Event stores)} {imported : ImportResult}
    (hrun : Program.Runs (ImportExportService.importConnections platform bytes options) es
      (.success imported))
    (hfresh : FreshUuids (options.existingConnectionIds ++
      statedIds platform bytes options.encryptionPassphrase) es) :
    NeverCollides platform options (statedIds platform bytes options.encryptionPassphrase) es
        imported ↔
      (options.duplicatePolicy = .replace →
        (statedIds platform bytes options.encryptionPassphrase).Nodup) := by
  obtain ⟨root, loop, hroot, hloop, rfl⟩ := runs_importRecords hrun
  have hstated : statedIds platform bytes options.encryptionPassphrase =
      idsOf (recordIds platform root) := by
    rw [statedIds, hroot]
    rfl
  rw [hstated] at hfresh ⊢
  by_cases hpolicy : options.duplicatePolicy = .replace
  · rw [hpolicy] at hloop
    have hids : loop.result.connections.map (·.id) = recordIds platform root := by
      rw [ids_importRecords_replace hloop, recordIds_eq]
      rfl
    constructor
    · intro h _
      rw [← hids]
      exact h.distinct
    · intro h
      refine .of_distinct ?_ ?_ fun hnot => absurd hpolicy hnot
      · rw [hids]
        exact h hpolicy
      · rw [hids]
        exact fun id hmem => List.mem_append_left _ (List.mem_append_right _ hmem)
  · refine iff_of_true ?_ fun hreplace => absurd hreplace hpolicy
    have hstart : Seen options.existingConnectionIds
        (options.existingConnectionIds ++ idsOf (recordIds platform root))
        { existingIds := options.existingConnectionIds
          result := { groups := ImportExportService.importGroups platform root } } :=
      ⟨fun id hmem => hmem, fun id hmem => absurd hmem List.not_mem_nil,
        fun id hmem => List.mem_append_left _ hmem, List.nodup_nil,
        fun id hmem => absurd hmem List.not_mem_nil⟩
    have hseen := hstart.importRecords hpolicy hloop hfresh ?_
    · exact .of_distinct hseen.distinct (fun id hmem => hseen.within id (hseen.collects id hmem))
        fun _ => hseen.apart
    · intro value hvalue connection hread hid
      refine List.mem_append_right _ (mem_idsOf.2 ⟨?_, hid⟩)
      rw [recordIds_eq]
      exact List.mem_map_of_mem (List.mem_filterMap.2 ⟨value, hvalue, hread⟩)

end

/-! ### Two records with one id -/

theorem plainRoot_twice (passphrase : QByteArray) :
    plainRoot twicePlatform twiceBytes passphrase = some twiceRoot := by
  have hread : twicePlatform.codec.fromJson twiceBytes = .ok (.object twiceRoot) := by
    simp only [twicePlatform, if_true]
  have hschema : JsonValue.toString (JsonObject.value twiceRoot (qStringLiteral "schema")) ≠
      encryptedExportSchema := by
    decide +kernel
  rw [plainRoot, hread]
  simp only [if_neg hschema]

theorem statedIds_twice (passphrase : QByteArray) :
    statedIds twicePlatform twiceBytes passphrase = [qStringLiteral "a", qStringLiteral "a"] := by
  have hids : idsOf (recordIds twicePlatform twiceRoot) =
      [qStringLiteral "a", qStringLiteral "a"] := by
    decide +kernel
  rw [statedIds, plainRoot_twice]
  exact hids

/-- The copy of the second record. -/
def twiceCopy : Connection :=
  { twiceParsed with id := qStringLiteral "u", name := qStringLiteral "Imported copy" }

theorem runs_twice_copy :
    Program.Runs (ImportExportService.importConnections twicePlatform twiceBytes
      { duplicatePolicy := .createCopy }) [⟨.createUuid, qStringLiteral "u"⟩]
      (.success { connections := [twiceParsed, twiceCopy] }) := by
  have hschema : ¬(JsonValue.toString (JsonObject.value twiceRoot (qStringLiteral "schema")) ≠
        ImportExportService.plainExportSchema ∨
      JsonValue.toInt (JsonObject.value twiceRoot (qStringLiteral "version")) ≠
        ImportExportService.exportSchemaVersion) := by
    decide +kernel
  have hvalues : JsonValue.toArray (JsonObject.value twiceRoot (qStringLiteral "connections")) =
      [.object twiceRecord, .object twiceRecord] := rfl
  have hgroups : ImportExportService.importGroups twicePlatform twiceRoot = [] := rfl
  obtain ⟨hok, hvalue⟩ := connectionFromJson_twice
  rw [importConnections_twice, importPlain, if_neg hschema]
  simp only [hvalues, hgroups, importRecords, importRecord, hok, hvalue]
  exact .ask _ (.pure _)

/-- The copy has an id of its own. -/
theorem importIds_twice_copied :
    NeverCollides twicePlatform { duplicatePolicy := .createCopy }
      [qStringLiteral "a", qStringLiteral "a"] [⟨.createUuid, qStringLiteral "u"⟩]
      { connections := [twiceParsed, twiceCopy] } := by
  have hfresh : FreshUuids ([] ++ statedIds twicePlatform twiceBytes [])
      [(⟨.createUuid, qStringLiteral "u"⟩ : Event stores)] := by
    rw [statedIds_twice]
    exact ⟨by decide, by decide⟩
  have hnever := (importIds_distinct_iff runs_twice_copy hfresh).2 fun hreplace => by cases hreplace
  rwa [statedIds_twice] at hnever

/-- Where the document replaces, both records keep the one id, and both are added. -/
theorem importIds_twice_collide :
    ¬ ∀ platform bytes options es imported,
      Program.Runs (ImportExportService.importConnections platform bytes options) es
        (.success imported) →
      FreshUuids (options.existingConnectionIds ++
        statedIds platform bytes options.encryptionPassphrase) es →
      NeverCollides platform options (statedIds platform bytes options.encryptionPassphrase) es
        imported := by
  intro h
  have hrun : Program.Runs (ImportExportService.importConnections twicePlatform twiceBytes
      { duplicatePolicy := .replace }) [] (.success { connections := [twiceParsed, twiceParsed] }) := by
    rw [importConnections_twice, importPlain_twice]
    exact .pure _
  have hnever := h _ _ _ _ _ hrun ⟨List.nodup_nil, fun id hmem => absurd hmem List.not_mem_nil⟩
  exact absurd hnever.distinct (by decide)

end ConnectionImportExportService

end SmbBrowser.Application
