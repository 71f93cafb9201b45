import DollState.Model.Records

/-!
# The model manifest service

The calls of `ModelManifestService`. A call first reads, one query at a time, and validates; then it
runs one transaction. The transactions of `activate_binding` and `rollback_binding` change two
bindings: the second one is read again inside the transaction and changed whatever it then says.
-/

namespace DollState.Model

open StateLib

/-- The surroundings of a call, with the clock when it activates a binding and when it changes the
second row. What `_utc_now` writes passes for a timestamp. -/
structure Context extends Surroundings where
  activatedAt : Text
  otherNow : Text
  activatedAt_ok : timestamp (.str activatedAt) = .ok activatedAt

inductive ManifestActor where
  | user | model | runtime | importer | system
deriving DecidableEq, Repr

/-- `_actor_provenance`. -/
def ManifestActor.provenance : ManifestActor → RecordProvenance
  | .user => .userCreated
  | .model => .modelProposed
  | .importer => .imported
  | .runtime => .systemGenerated
  | .system => .systemGenerated

/-- `_audit_actor`. -/
def ManifestActor.audit : ManifestActor → AuditActor
  | .user => .user
  | .model => .model
  | .runtime => .runtime
  | .importer => .system
  | .system => .system

/-- Whether a manifest is one of a runtime or of a model. -/
inductive ManifestKind where
  | runtime | model
deriving DecidableEq, Repr

def ManifestKind.recordType : ManifestKind → String
  | .runtime => runtimeType
  | .model => modelType

/-- The key under which a binding names the manifest. -/
def ManifestKind.key : ManifestKind → String
  | .runtime => "runtime_manifest_id"
  | .model => "model_manifest_id"

/-- A text of the metadata as SQLite extracts it. -/
def extracted (record : RecordEnvelope) (key : String) : Option Text :=
  match record.metadata.get key with
  | .str value => some value
  | _ => none

theorem extracted_eq_some {record : RecordEnvelope} {key : String} {value : Text} :
    extracted record key = some value ↔ record.metadata.get key = .str value := by
  unfold extracted
  cases record.metadata.get key <;> simp

/-! ## Transactions -/

/-- Where `model_binding_one_active_scope_idx` keeps a row, if it does. -/
def activeScope (row : RecordEnvelope) : Option (Text × Text) :=
  if row.recordType = bindingType ∧ row.status = .active ∧
      extracted row "binding_state" = some BindingState.active.text then
    (extracted row "scope_type").bind fun scopeType =>
      (extracted row "scope_key").map fun scopeKey => (scopeType, scopeKey)
  else none

/-- The unique index admits the row in place of the one with its identifier. -/
def uniqueScope (row : RecordEnvelope) (db : Database) : Prop :=
  ∀ scope ∈ activeScope row, ∀ r ∈ db.records.rows, r.id ≠ row.id → activeScope r ≠ some scope

instance (row : RecordEnvelope) (db : Database) : Decidable (uniqueScope row db) := by
  unfold uniqueScope
  infer_instance

/-- What `_sql_update_record` makes of a row. -/
def updatedRow (metadata : Metadata) (provenance : RecordProvenance) (now : Text)
    (row : RecordEnvelope) : RecordEnvelope :=
  { row with
    updatedAt := now, revision := row.revision + 1, provenance := provenance, metadata := metadata }

/-- `_sql_update_record`. -/
def sqlUpdateRecord (id : RecordId) (metadata : Metadata) (provenance : RecordProvenance)
    (expectedRevision : Int) (now : Text) (db : Database) : Result Database := do
  let changed ← orFail ⟨.staleRevision, "manifest record revision changed during update"⟩ <|
    db.updateWhere id (fun row => row.revision = expectedRevision ∧ row.status = .active)
      (updatedRow metadata provenance now)
  ensure (∀ row ∈ changed.find? id, uniqueScope row changed)
    ⟨.sqlite, "UNIQUE constraint failed: index 'model_binding_one_active_scope_idx'"⟩
  return changed

/-- `get_record` inside a transaction, and the comparison of its revision with the expected one. -/
def refreshed (id : RecordId) (expectedRevision : Int) (db : Database) : Result RecordEnvelope := do
  let row ← db.getRecord id
  let found := row.revision
  ensure (found = expectedRevision)
    ⟨.staleRevision, s!"record revision is {found}, expected {expectedRevision}"⟩
  return row

/-- `metadata.update(changes)`. -/
def setAll (metadata : Metadata) (changes : List (String × Json)) : Metadata :=
  changes.foldl (fun metadata change => metadata.set change.1 change.2) metadata

/-- What an activation writes to the binding that was active. -/
def demotion : List (String × Json) :=
  [("binding_state", .str BindingState.previous.text), ("fallback_eligible", .bool false),
    ("fallback_priority", .null)]

/-- What an activation writes to its own binding. -/
def promotion (runtimeRevision modelRevision : Int) (activatedAt : Text) (evidence : List RecordId)
    (previousId : Option RecordId) : List (String × Json) :=
  [("runtime_manifest_revision", .int runtimeRevision),
    ("model_manifest_revision", .int modelRevision),
    ("binding_state", .str BindingState.active.text), ("activated_at", .str activatedAt),
    ("activation_evidence_ids", .ofIds evidence),
    ("previous_binding_id", .ofText? (previousId.map uuidText)), ("fallback_priority", .null),
    ("fallback_eligible", .bool false), ("rollback_target_id", .ofText? (previousId.map uuidText)),
    ("rollback_reason", .null)]

/-- What a rollback writes to the binding that it restores. -/
def restoration (activatedAt : Text) : List (String × Json) :=
  [("binding_state", .str BindingState.active.text), ("activated_at", .str activatedAt),
    ("previous_binding_id", .null), ("fallback_priority", .null), ("fallback_eligible", .bool false),
    ("rollback_target_id", .null), ("rollback_reason", .null)]

/-- What a rollback writes to its own binding. -/
def withdrawal (previousId : RecordId) (reason : Text) : List (String × Json) :=
  [("binding_state", .str BindingState.rolledBack.text), ("fallback_priority", .null),
    ("fallback_eligible", .bool false), ("rollback_target_id", .str (uuidText previousId)),
    ("rollback_reason", .str reason)]

/-- What a call ends with: the transaction it is going to run. -/
inductive Write where
  /-- of `_create_record` -/
  | create (row : RecordEnvelope) (draft : AuditDraft)
  /-- of `_update_one` -/
  | update (id : RecordId) (expectedRevision : Int) (metadata : Metadata)
      (provenance : RecordProvenance) (now : Text) (draft : AuditDraft)
  /-- of `activate_binding` -/
  | activate (ctx : Context) (id : RecordId) (expectedRevision runtimeRevision modelRevision : Int)
      (evidence : List RecordId) (currentActive : Option RecordId) (draft : AuditDraft)
  /-- of `rollback_binding` -/
  | rollback (ctx : Context) (id : RecordId) (expectedRevision : Int) (previousId : RecordId)
      (reason : Text) (draft : AuditDraft)

section

variable [ModuleRules]

/-- The error of the database in a transaction that does not replace it. -/
def databaseFailed : DollError := ⟨.sqlite, "database error"⟩

/-- The transaction of `_update_one`. -/
def updateOne (id : RecordId) (expectedRevision : Int) (metadata : Metadata)
    (provenance : RecordProvenance) (now : Text) (draft : AuditDraft) (db : Database) :
    Result Database := do
  let _ ← refreshed id expectedRevision db
  let db ← sqlUpdateRecord id metadata provenance expectedRevision now db
  let db ← insertAudit draft id databaseFailed db
  return db.commitStateRevision

/-- The part of the transaction of `activate_binding` that changes the binding that was active. -/
def demote (ctx : Context) (currentActive : Option RecordId) (db : Database) : Result Database :=
  match currentActive with
  | none => .ok db
  | some previousId => do
    let previous ← db.getRecord previousId
    sqlUpdateRecord previousId (setAll previous.metadata demotion) .userConfirmed previous.revision
      ctx.otherNow db

/-- The transaction of `activate_binding`, up to the handler of an `IntegrityError`. -/
def activateTransaction (ctx : Context) (id : RecordId)
    (expectedRevision runtimeRevision modelRevision : Int) (evidence : List RecordId)
    (currentActive : Option RecordId) (draft : AuditDraft) (db : Database) : Result Database := do
  let row ← refreshed id expectedRevision db
  let db ← demote ctx currentActive db
  let db ← sqlUpdateRecord id
    (setAll row.metadata
      (promotion runtimeRevision modelRevision ctx.activatedAt evidence currentActive))
    .userConfirmed expectedRevision ctx.now db
  let db ← insertAudit draft id databaseFailed db
  return db.commitStateRevision

/-- The transaction of `rollback_binding`. -/
def rollbackTransaction (ctx : Context) (id : RecordId) (expectedRevision : Int)
    (previousId : RecordId) (reason : Text) (draft : AuditDraft) (db : Database) :
    Result Database := do
  let row ← refreshed id expectedRevision db
  let previous ← db.getRecord previousId
  let db ← sqlUpdateRecord id (setAll row.metadata (withdrawal previousId reason)) .userConfirmed
    expectedRevision ctx.now db
  let db ← sqlUpdateRecord previousId (setAll previous.metadata (restoration ctx.activatedAt))
    .userConfirmed previous.revision ctx.otherNow db
  let db ← insertAudit draft id databaseFailed db
  return db.commitStateRevision

/-- Run the transaction on the database it finds. -/
def Write.commit : Write → Database → Result Database
  | .create row draft =>
    createTransaction row draft ⟨.stateCorrupt, "manifest record could not be created"⟩
  | .update id expectedRevision metadata provenance now draft =>
    updateOne id expectedRevision metadata provenance now draft
  | .activate ctx id expectedRevision runtimeRevision modelRevision evidence currentActive draft =>
    fun db => catching (DollError.isA [.sqlite]) (invalid "scope already has an active binding") <|
      activateTransaction ctx id expectedRevision runtimeRevision modelRevision evidence
        currentActive draft db
  | .rollback ctx id expectedRevision previousId reason draft =>
    rollbackTransaction ctx id expectedRevision previousId reason draft

end

/-! ## Reading -/

section

variable [PythonLibrary]

/-- `_require_record`. -/
def requireRecord (recordId : Text) (recordType : String) : Reader RecordEnvelope := do
  let id ← identifier "record ID" (.str recordId)
  let row ← selectRecord id
  let record ← orFail (invalid "manifest record does not exist") row
  ensure (record.recordType = recordType) (invalid "record has the wrong manifest type")
  return record

/-- `get_binding`. -/
def getBinding (recordId : Text) : Reader ModelBindingInfo := do
  bindingFromRecord (← requireRecord recordId bindingType)

/-- What makes an evidence record acceptable. -/
def isPortableEvidence (record : RecordEnvelope) : Bool :=
  record.recordType = "evidence" ∧ record.status = .active ∧ record.sensitivity ≠ .secret

/-- The check of one evidence record. -/
def requireEvidence (id : RecordId) : Reader Unit := do
  let row ← selectRecord id
  let record ← orFail (invalid "evidence record does not exist") row
  ensure (isPortableEvidence record = true) (invalid "evidence record is not active and portable")

/-- `_evidence_ids`. -/
def evidenceIds (values : List Text) : Reader (List RecordId) := do
  let result ← identifiers "evidence IDs" (values.map .str)
  ReadProgram.forEach requireEvidence result
  return result

/-- `_require_no_selectable_bindings`. -/
def requireNoSelectableBindings (manifestId : Text) (kind : ManifestKind) : Reader Unit := do
  let rows ← activeRows bindingType
  ensure (∀ row ∈ rows, ¬ (extracted row kind.key = some manifestId ∧
      (extracted row "binding_state" = some BindingState.active.text ∨
        extracted row "binding_state" = some BindingState.fallback.text)))
    (invalid "selectable bindings must be disabled before manifest deactivation")

/-- The rows that `_active_for_scope` selects, in the order of their identifiers. -/
def activeInScope (rows : List RecordEnvelope) (scopeType scopeKey : Text) : List RecordEnvelope :=
  (rows.filter fun row => activeScope row = some (scopeType, scopeKey)).insertionSort
    fun a b => a.id.toNat ≤ b.id.toNat

/-- `_active_for_scope`. -/
def activeForScope (scopeType scopeKey : Text) (excludeId : Option Text) :
    Reader (Option ModelBindingInfo) := do
  let rows ← activeRows bindingType
  let ids := ((activeInScope rows scopeType scopeKey).map fun row => uuidText row.id).filter
    fun id => some id ≠ excludeId
  let active ← ReadProgram.collect getBinding ids
  ensure (active.length ≤ 1)
    (DollError.mk .modelManifestCorrupt "scope has multiple active bindings")
  return active.head?

section

variable [ModuleRules]

/-- `get_runtime`. -/
def getRuntime (recordId : Text) : Reader RuntimeManifestInfo := do
  runtimeFromRecord (← requireRecord recordId runtimeType)

variable [CaseLibrary]

/-- `get_model`. -/
def getModel (recordId : Text) : Reader ModelManifestInfo := do
  modelFromRecord (← requireRecord recordId modelType)

/-- The checks of `_activation_manifests`, of the manifests of a binding. -/
def checkManifests (binding : BindingContent) (runtime : RuntimeManifestInfo)
    (model : ModelManifestInfo) : Result Unit := do
  ensure (runtime.envelope.lifecycleStatus = .active ∧ runtime.content.manifestState = .verified)
    (invalid "binding runtime is not verified")
  ensure (model.envelope.lifecycleStatus = .active ∧ model.content.manifestState = .verified)
    (invalid "binding model is not verified")
  ensure (model.content.runtimeManifestId = runtime.envelope.id)
    (invalid "binding model belongs to another runtime")
  ensure (runtime.envelope.revision = binding.runtimeManifestRevision)
    (invalid "binding runtime revision is stale")
  ensure (model.envelope.revision = binding.modelManifestRevision)
    (invalid "binding model revision is stale")

/-- `_activation_manifests`. -/
def activationManifests (binding : BindingContent) :
    Reader (RuntimeManifestInfo × ModelManifestInfo) := do
  let runtime ← getRuntime (uuidText binding.runtimeManifestId)
  let model ← getModel (uuidText binding.modelManifestId)
  checkManifests binding runtime model
  return (runtime, model)

/-- `resolve_binding`. -/
def resolveBinding (bindingId : Text) :
    Reader (ModelBindingInfo × RuntimeManifestInfo × ModelManifestInfo) := do
  let binding ← getBinding bindingId
  let manifests ← activationManifests binding.content
  return (binding, manifests)

/-- `resolve_active_binding`. -/
def resolveActiveBinding (scopeType scopeKeyText : Text) :
    Reader (ModelBindingInfo × RuntimeManifestInfo × ModelManifestInfo) := do
  let safeScopeType ← token "binding scope type" (.str scopeType)
  let safeScopeKey ← scopeKey (.str scopeKeyText)
  let active ← activeForScope safeScopeType safeScopeKey none
  let binding ← orFail (invalid "scope has no active binding") active
  let manifests ← activationManifests binding.content
  return (binding, manifests)

end

end

end DollState.Model
