import DollState.Library.Like
import DollState.Library.ReadProgram
import DollState.State.Database
import Mathlib.Data.List.Sort

/-!
# The state repository

A call of the repository has two halves. The first validates: it reads records one at a time,
outside any transaction, and ends with what is to be written. The second is one transaction
(`BEGIN IMMEDIATE` to `COMMIT`) on the database it then finds. The first half is a `Reader`, the
second a function from databases to results, so that a call can be run on one database or with
other clients' transactions in between.
-/

namespace DollState

open StateLib

/-! ## Reading -/

/-- The `SELECT`s the services make outside a transaction. -/
inductive StateQuery where
  /-- one record by its identifier -/
  | record (id : RecordId)
  /-- the identifiers of the records of a type that are active -/
  | activeIds (recordType : String)
  /-- the schema version in the metadata row -/
  | schemaVersion
  /-- the records of a type that are active -/
  | activeRows (recordType : String)
  /-- whether an audit event has this operation identifier, or one that `LIKE` matches with it, a
  dot and `%` -/
  | usedOperation (operationId : Text)
  /-- the identifiers of the records of a type, in their order -/
  | recordIds (recordType : String)
  /-- the identifiers of the records of a type that are not secret, in their order -/
  | publicIds (recordType : String)
  /-- the state revision in the metadata row -/
  | stateRevision
  /-- the workspace, the schema version and the state revision of the metadata row -/
  | metadataRow
  /-- how many records there are -/
  | recordCount
  /-- the identifiers and types of all records, by identifier -/
  | recordTypes
  /-- the records of a type, by identifier -/
  | rowsById (recordType : String)
  /-- the identifiers of the records of a type, by their creation -/
  | createdIds (recordType : String)
  /-- whether a record of one of the types has the text in the field of its metadata that is given
  with the type -/
  | usedMetadata (fields : List (String × String)) (value : Text)
  /-- the audit events, in their sequence -/
  | auditRows
  /-- the migration history -/
  | migrationRows

def StateQuery.Answer : StateQuery → Type
  | .record _ => Option RecordEnvelope
  | .activeIds _ => List RecordId
  | .schemaVersion => Nat
  | .activeRows _ => List RecordEnvelope
  | .usedOperation _ => Bool
  | .recordIds _ => List RecordId
  | .publicIds _ => List RecordId
  | .stateRevision => Nat
  | .metadataRow => RecordId × Nat × Nat
  | .recordCount => Nat
  | .recordTypes => List (RecordId × String)
  | .rowsById _ => List RecordEnvelope
  | .createdIds _ => List RecordId
  | .usedMetadata _ _ => Bool
  | .auditRows => List AuditEvent
  | .migrationRows => List MigrationRun

/-- `SELECT id FROM records WHERE … ORDER BY id`. -/
def Database.idsWhere (db : Database) (p : RecordEnvelope → Prop) [DecidablePred p] : List RecordId :=
  ((db.records.rows.filter fun r => p r).map (·.id)).insertionSort fun a b =>
    a.toNat ≤ b.toNat

/-- What a query reads from a database. -/
def Database.answer (db : Database) : (q : StateQuery) → q.Answer
  | .record id => db.find? id
  | .activeIds recordType =>
    (db.records.rows.filter fun r => r.recordType = recordType ∧ r.status = .active).map (·.id)
  | .schemaVersion => db.schemaVersion
  | .activeRows recordType =>
    db.records.rows.filter fun r => r.recordType = recordType ∧ r.status = .active
  | .usedOperation operationId => db.auditEvents.rows.any fun e =>
    e.operationId = operationId ∨ like (operationId ++ ['.'] ++ ['%']) e.operationId = true
  | .recordIds recordType => db.idsWhere fun r => r.recordType = recordType
  | .publicIds recordType =>
    db.idsWhere fun r => r.recordType = recordType ∧ r.sensitivity ≠ .secret
  | .stateRevision => db.stateRevision
  | .metadataRow => (db.workspaceId, db.schemaVersion, db.stateRevision)
  | .recordCount => db.records.rows.length
  | .recordTypes => (db.records.rows.insertionSort fun a b => a.id.toNat ≤ b.id.toNat).map
    fun r => (r.id, r.recordType)
  | .rowsById recordType => (db.records.rows.filter fun r =>
    r.recordType = recordType).insertionSort fun a b => a.id.toNat ≤ b.id.toNat
  | .createdIds recordType => ((db.records.rows.filter fun r =>
    r.recordType = recordType).insertionSort fun a b =>
      a.createdAt < b.createdAt ∨ (a.createdAt = b.createdAt ∧ a.id.toNat ≤ b.id.toNat)).map (·.id)
  | .usedMetadata fields value => db.records.rows.any fun r => fields.any fun field =>
    r.recordType = field.1 ∧ Json.eq (r.metadata.get field.2) (.str value) = true
  | .auditRows => db.auditEvents.rows
  | .migrationRows => db.migrationHistory

/-- A computation that reads the database query by query. -/
abbrev Reader := ReadProgram StateQuery StateQuery.Answer DollError

/-- The result of a reader whose queries are all answered by one database. -/
abbrev Reader.on {α : Type} (p : Reader α) (db : Database) : Result α := p.run db.answer

/-- `SELECT … FROM records WHERE id = ?`. -/
def selectRecord (id : RecordId) : Reader (Option RecordEnvelope) :=
  ReadProgram.read (StateQuery.record id)

/-- `SELECT id FROM records WHERE record_type = ? AND status = 'active'`. -/
def activeIds (recordType : String) : Reader (List RecordId) :=
  ReadProgram.read (StateQuery.activeIds recordType)

/-- `SELECT … FROM records WHERE record_type = ? AND status = 'active'`. -/
def activeRows (recordType : String) : Reader (List RecordEnvelope) :=
  ReadProgram.read (StateQuery.activeRows recordType)

/-- `SELECT 1 FROM audit_events WHERE operation_id = ? OR operation_id LIKE ?`, the pattern being the
identifier, a dot and `%`. -/
def usedOperation (operationId : Text) : Reader Bool :=
  ReadProgram.read (StateQuery.usedOperation operationId)

/-- `SELECT id FROM records WHERE record_type = ? ORDER BY id`. -/
def recordIds (recordType : String) : Reader (List RecordId) :=
  ReadProgram.read (StateQuery.recordIds recordType)

/-- `SELECT id FROM records WHERE record_type = ? AND sensitivity <> 'secret' ORDER BY id`. -/
def publicIds (recordType : String) : Reader (List RecordId) :=
  ReadProgram.read (StateQuery.publicIds recordType)

/-- The state revision of `repository.status()`. -/
def selectStateRevision : Reader Nat := ReadProgram.read StateQuery.stateRevision

/-- The schema version of `repository.status()`. -/
def selectSchemaVersion : Reader Nat := ReadProgram.read StateQuery.schemaVersion

/-- `repository.get_record` for a canonical identifier. -/
def getRecord (id : RecordId) : Reader RecordEnvelope := do
  let row ← selectRecord id
  orFail (DollError.noRecord (uuidText id)) row

/-- `repository.get_record` for any text: only a canonical identifier is a row's. -/
def getRecordText [PythonLibrary] (text : Text) : Reader RecordEnvelope := do
  let id ← orFail (DollError.noRecord text) (canonicalId? text)
  getRecord id

@[simp] theorem getRecord_on (id : RecordId) (db : Database) :
    (getRecord id).on db = db.getRecord id := rfl

theorem getRecordText_on [PythonLibrary] (text : Text) (db : Database) {r : RecordEnvelope} :
    (getRecordText text).on db = .ok r ↔ ∃ id, text = uuidText id ∧ db.find? id = some r := by
  simp only [getRecordText, Reader.on, ReadProgram.run_bind, ReadProgram.run_lift, bind_eq_ok,
    orFail_eq_ok, canonicalId?_eq_some]
  exact exists_congr fun id => and_congr_right fun _ => Database.getRecord_eq_ok

/-! ## What a reader has read -/

/-- Every answer is the one the database gives. -/
def AnsweredBy (ok : (q : StateQuery) → q.Answer → Prop) (db : Database) : Prop :=
  ∀ q a, ok q a → a = db.answer q

/-- The answers of a reader that has seen one database. -/
def answersOf (db : Database) (q : StateQuery) (a : q.Answer) : Prop := a = db.answer q

/-- What holds whatever the answers are holds of a run on one database. -/
theorem post_of_on {α : Type} {db : Database} {p : Reader α} {post : α → Prop}
    (h : p.All (answersOf db) post) {a : α} (hrun : p.on db = .ok a) : post a :=
  h.run (fun _ => rfl) hrun

/-- Some answer was this row. -/
def Seen (ok : (q : StateQuery) → q.Answer → Prop) (r : RecordEnvelope) : Prop :=
  ∃ id, ok (.record id) (some r)

theorem getRecord_all {ok : (q : StateQuery) → q.Answer → Prop} (id : RecordId) :
    (getRecord id).All ok fun r => ok (.record id) (some r) :=
  .bind (.read fun _ h => h) fun _ hrow => .lift fun _ h => orFail_eq_ok.1 h ▸ hrow

theorem getRecordText_all [PythonLibrary] {ok : (q : StateQuery) → q.Answer → Prop}
    (text : Text) : (getRecordText text).All ok (Seen ok) :=
  .bind (.trivial _) fun id _ => .mono (fun _ _ h => h) (fun _ h => ⟨id, h⟩) (getRecord_all id)

theorem getRecordText_all_id [PythonLibrary] {ok : (q : StateQuery) → q.Answer → Prop}
    (text : Text) :
    (getRecordText text).All ok fun r => ∃ id, text = uuidText id ∧ ok (.record id) (some r) :=
  .bind (.lift fun _ h => canonicalId?_eq_some.1 (orFail_eq_ok.1 h)) fun id hid =>
    .mono (fun _ _ h => h) (fun _ h => ⟨id, hid, h⟩) (getRecord_all id)

/-- A record with the identifier exists and meets `P`. -/
def Database.Has (db : Database) (id : RecordId) (P : RecordEnvelope → Prop) : Prop :=
  ∃ r, db.find? id = some r ∧ P r

/-- A link validator, `try: … except: raise e`, that fails with `e` alone: the target has to exist
and to be accepted. -/
def linkTo (e : DollError) (accepts : RecordEnvelope → Bool) (id : RecordId) : Reader Unit := do
  let row ← selectRecord id
  match row with
  | some r => ensure (accepts r = true) e
  | none => .done (.error e)

theorem linkTo_on {e : DollError} {accepts : RecordEnvelope → Bool} {id : RecordId}
    {db : Database} {u : Unit} :
    (linkTo e accepts id).on db = .ok u ↔ db.Has id fun r => accepts r = true := by
  have hrun : (linkTo e accepts id).on db = match db.find? id with
      | some r => ensure (accepts r = true) e
      | none => .error e := by
    show (match db.find? id with
      | some r => monadLift (ensure (accepts r = true) e)
      | none => ReadProgram.done (.error e) : Reader Unit).on db = _
    cases db.find? id <;> rfl
  rw [hrun, Database.Has]
  cases db.find? id with
  | none => simp
  | some r => simp [ensure_eq_ok]

@[simp] theorem activeIds_on (recordType : String) (db : Database) :
    (activeIds recordType).on db = .ok ((db.records.rows.filter fun r =>
      r.recordType = recordType ∧ r.status = .active).map (·.id)) := rfl

/-! ## The surroundings of a call -/

/-- What a call takes from its surroundings: whether its connection may write, the readings of the
clock while it validates, for its record and for its audit event, and the identifiers `uuid4` draws
for it. -/
structure Surroundings where
  readOnly : Bool
  calledAt : Text
  now : Text
  auditNow : Text
  newId : RecordId
  eventId : RecordId
  operationUuid : RecordId

/-- The arguments of `AuditLog.append`. -/
structure AuditAppendArgs where
  action : Text
  result : AuditResult
  actorType : AuditActor
  operationId : Option Text
  actorId : Option Text
  targetType : Option Text
  targetId : Option Text
  summary : Option Text
  errorClass : Option Text
  metadata : Metadata

/-- The rules of the modules whose own records are not modelled. Each is a function of its
arguments alone. -/
class ModuleRules where
  /-- `validate_secret_reference_metadata`: the message of its error, if it raises. -/
  secretReferenceError : Metadata → Option String
  /-- `audit._validate_token`. -/
  auditToken : String → Text → Nat → Result Text
  /-- `audit._serialize_metadata` accepts the metadata. -/
  auditMetadataError : Metadata → Option String
  /-- What `AuditLog.append` makes of the values it is given, before it opens its transaction. -/
  sanitizeAudit : AuditAppendArgs → Result AuditAppendArgs
  /-- `hashlib.sha256` of the canonical JSON text of a value. -/
  sha256 : Json → BitVec 256
  /-- `_memory_from_record` accepts the record. -/
  isMemory : RecordEnvelope → Bool
  /-- `_evidence_from_record` accepts the record. -/
  isEvidence : RecordEnvelope → Bool
  /-- `_policy_from_record` accepts the record. -/
  isPolicy : RecordEnvelope → Bool
  /-- `_artifact_from_record` accepts the record. -/
  isArtifact : RecordEnvelope → Bool

/-- `if repository.read_only: raise`. -/
def requireWrite (env : Surroundings) : Result Unit :=
  ensure (env.readOnly = false)
    ⟨.readOnlyState, "state repository is open in read-only mode"⟩

/-- `_validate_record_fields`; the other fields are of types that hold only valid values. -/
def validateRecordFields (recordType : String) (schemaVersion : Int) : Result Unit := do
  ensure (strip recordType.toList ≠ []) ⟨.recordValidation, "record type must not be blank"⟩
  ensure (1 ≤ schemaVersion) ⟨.recordValidation, "record schema version must be at least 1"⟩

/-- `validate_ordinary_state_record`, its errors raised as record validation errors. -/
def validateSecretBoundary [ModuleRules] (recordType : String) (sensitivity : RecordSensitivity)
    (metadata : Metadata) : Result Unit :=
  if recordType = "secret_reference" then do
    ensure (sensitivity = .sensitive ∨ sensitivity = .secret)
      ⟨.recordValidation, "SecretReference records require sensitive or secret sensitivity"⟩
    match ModuleRules.secretReferenceError metadata with
    | some message => .error ⟨.recordValidation, message⟩
    | none => .ok ()
  else
    ensure (sensitivity ≠ .secret)
      ⟨.recordValidation, "secret sensitivity does not permit secret values in ordinary Doll " ++
        "State; store only a validated SecretReference record"⟩

/-! ## `create_record` -/

structure CreateRecordArgs where
  recordType : String
  schemaVersion : Int
  status : RecordStatus
  provenance : RecordProvenance
  sensitivity : RecordSensitivity
  title : Option Text
  metadata : Metadata
  recordId : Option Text

section

variable [PythonLibrary] [ModuleRules]

/-- `_validate_record_id`. -/
def validateRecordId (value : Text) : Result RecordId := do
  let id ← orFail ⟨.recordValidation, "record identifier is invalid"⟩ (uuid value)
  ensure (uuidText id = value)
    ⟨.recordValidation, "record identifier must use canonical UUID text"⟩
  return id

/-- `create_record` up to its transaction: the row it is going to insert. -/
def prepareCreateRecord (env : Surroundings) (args : CreateRecordArgs) :
    Result RecordEnvelope := do
  requireWrite env
  validateRecordFields args.recordType args.schemaVersion
  validateSecretBoundary args.recordType args.sensitivity args.metadata
  let id ← match args.recordId with
    | none | some [] => pure env.newId
    | some text => validateRecordId text
  return {
    id := id, recordType := args.recordType, schemaVersion := args.schemaVersion,
    createdAt := env.now, updatedAt := env.now, revision := 1, status := args.status,
    provenance := args.provenance, sensitivity := args.sensitivity, title := args.title,
    metadata := args.metadata }

/-- The transaction of `create_record`. -/
def createRecordTransaction (row : RecordEnvelope) (db : Database) : Result Database := do
  let db ← orFail ⟨.recordValidation, "record identifier already exists"⟩ (db.insertRecord row)
  return db.commitStateRevision

/-! ## `update_record` -/

structure UpdateRecordArgs where
  recordId : Text
  expectedRevision : Int
  status : Option RecordStatus
  title : Option Text
  metadata : Option Metadata

/-- What an update is going to write: the values of the columns it sets, `none` for a column it
leaves alone, and the row `base` they were computed from. -/
structure RecordUpdate where
  base : RecordEnvelope
  expectedRevision : Int
  schemaVersion : Option Int
  status : RecordStatus
  provenance : Option RecordProvenance
  title : Option (Option Text)
  metadata : Metadata
  now : Text

/-- The row an update leaves in place of `row`. -/
def RecordUpdate.apply (u : RecordUpdate) (row : RecordEnvelope) : RecordEnvelope :=
  { row with
    schemaVersion := u.schemaVersion.getD row.schemaVersion, updatedAt := u.now,
    revision := row.revision + 1, status := u.status,
    provenance := u.provenance.getD row.provenance, title := u.title.getD row.title,
    metadata := u.metadata }

omit [PythonLibrary] [ModuleRules] in
@[simp] theorem RecordUpdate.apply_id (u : RecordUpdate) (row : RecordEnvelope) :
    (u.apply row).id = row.id := rfl

/-- `update_record` up to its transaction. -/
def prepareUpdateRecord (env : Surroundings) (args : UpdateRecordArgs) :
    Reader RecordUpdate := do
  requireWrite env
  let current ← getRecordText args.recordId
  let found := current.revision
  let expected := args.expectedRevision
  ensure (found = expected)
    (DollError.mk .staleRevision s!"record revision is {found}, expected {expected}")
  let nextStatus := args.status.getD current.status
  let nextTitle := args.title.or current.title
  let nextMetadata := args.metadata.getD current.metadata
  ensure (¬ (current.recordType = "instruction_origin" ∧
      (nextTitle ≠ current.title ∨ Json.eq (.obj nextMetadata) (.obj current.metadata) = false)))
    (DollError.mk .recordValidation "instruction-origin title and metadata are immutable")
  validateSecretBoundary current.recordType current.sensitivity nextMetadata
  return {
    base := current, expectedRevision := expected, schemaVersion := none, status := nextStatus,
    provenance := none, title := some nextTitle, metadata := nextMetadata, now := env.now }

end

/-- `UPDATE records SET … WHERE id = ? AND …`, which has to change one row. -/
def Database.updateWhere (db : Database) (id : RecordId) (cond : RecordEnvelope → Prop)
    [DecidablePred cond] (set : RecordEnvelope → RecordEnvelope) : Option Database :=
  (db.find? id).bind fun row => if cond row then some (db.replaceRecord (set row)) else none

/-- The transaction of `update_record`. -/
def updateRecordTransaction (u : RecordUpdate) (db : Database) : Result Database := do
  let db ← orFail ⟨.staleRevision, "record revision changed during update"⟩ <|
    db.updateWhere u.base.id (fun row => row.revision = u.expectedRevision) u.apply
  return db.commitStateRevision

theorem Database.updateWhere_eq_some {db db' : Database} {id : RecordId}
    {cond : RecordEnvelope → Prop} [DecidablePred cond] {set : RecordEnvelope → RecordEnvelope} :
    db.updateWhere id cond set = some db' ↔
      ∃ row, db.find? id = some row ∧ cond row ∧ db' = db.replaceRecord (set row) := by
  simp only [updateWhere, Option.bind_eq_some_iff, Option.ite_none_right_eq_some,
    Option.some.injEq, eq_comm (a := db')]

/-- An update that keeps the row's identifier replaces that row and no other. -/
theorem Database.find?_updateWhere {db db' : Database} {id : RecordId}
    {cond : RecordEnvelope → Prop} [DecidablePred cond] {set : RecordEnvelope → RecordEnvelope}
    (hset : ∀ row, (set row).id = row.id) (h : db.updateWhere id cond set = some db') :
    ∃ row, db.find? id = some row ∧ cond row ∧
      ∀ id', db'.find? id' = if id = id' then some (set row) else db.find? id' := by
  obtain ⟨row, hrow, hcond, rfl⟩ := updateWhere_eq_some.1 h
  have hid : (set row).id = id := (hset row).trans (id_of_find? hrow)
  refine ⟨row, hrow, hcond, fun id' => ?_⟩
  rw [find?_replaceRecord (by rw [hid, hrow]; rfl), hid]

theorem Database.extends_updateWhere {db db' : Database} {id : RecordId}
    {cond : RecordEnvelope → Prop} [DecidablePred cond] {set : RecordEnvelope → RecordEnvelope}
    (hset : ∀ row, (set row).id = row.id) (h : db.updateWhere id cond set = some db') :
    db.Extends db' ∧ (db'.find? id).isSome := by
  obtain ⟨row, hrow, -, hfind⟩ := find?_updateWhere hset h
  obtain ⟨row', hrow', -, rfl⟩ := updateWhere_eq_some.1 h
  have hid : (set row').id = id := (hset row').trans (id_of_find? hrow')
  exact ⟨extends_replaceRecord (by rw [hid, hrow]; rfl), by rw [hfind, if_pos rfl]; rfl⟩

/-! ## `AuditLog.append` -/

/-- `append` up to its transaction: the event it is going to insert. -/
def prepareAuditAppend [ModuleRules] (env : Surroundings) (args : AuditAppendArgs) :
    Reader AuditEvent := do
  requireWrite env
  let schemaVersion ← selectSchemaVersion
  ensure (2 ≤ schemaVersion) (DollError.mk .audit
    "audit schema is unavailable; open the state repository in writable mode to migrate")
  let args ← ModuleRules.sanitizeAudit args
  return {
    eventId := env.eventId, operationId := args.operationId.getD (uuidText env.operationUuid),
    occurredAt := env.auditNow, actorType := args.actorType, actorId := args.actorId,
    action := args.action, targetType := args.targetType, targetId := args.targetId,
    result := args.result, summary := args.summary, errorClass := args.errorClass,
    metadata := args.metadata }

/-- The transaction of `append`. -/
def auditAppendTransaction (event : AuditEvent) (db : Database) : Result Database := do
  let db ← orFail ⟨.stateCorrupt, "audit event could not be appended"⟩ (db.insertAuditEvent event)
  return db.commitStateRevision

/-! ## The transactions of the services

The project, work-item and checkpoint services share the shape of their transactions: they read the
row again, compare its revision with the caller's, write the row and an audit event, and advance
the state revision. -/

/-- The audit event of a service call, before its values are validated. The project and work-item
services validate the operation identifier before they open the transaction, the checkpoint service
inside it. -/
structure AuditDraft where
  eventId : RecordId
  occurredAt : Text
  operationId : Result Text
  actorType : AuditActor
  action : String
  targetType : String
  summary : String
  metadata : Result Metadata

/-- The errors of a service's transaction: for a row that is archived, for an `UPDATE` that changes
no row, and for an error of the database. -/
structure TransactionErrors where
  archived : DollError
  unchanged : DollError
  failed : DollError

section

variable [ModuleRules]

/-- `value or str(uuid4())`, validated as an audit token. -/
def operationId (env : Surroundings) (value : Option Text) : Result Text :=
  ModuleRules.auditToken "operation ID" (match value with
    | none | some [] => uuidText env.operationUuid
    | some text => text) 200

/-- `_insert_audit`: the event of a change to the record `target`. -/
def insertAudit (draft : AuditDraft) (target : RecordId) (failed : DollError) (db : Database) :
    Result Database := do
  let safeOperationId ← draft.operationId
  let auditMetadata ← draft.metadata
  let action ← ModuleRules.auditToken "action" draft.action.toList 120
  match ModuleRules.auditMetadataError auditMetadata with
  | some message => .error ⟨.auditValidation, message⟩
  | none => orFail failed (db.insertAuditEvent {
      eventId := draft.eventId, operationId := safeOperationId, occurredAt := draft.occurredAt,
      actorType := draft.actorType, actorId := none, action := action,
      targetType := some draft.targetType.toList, targetId := some (uuidText target),
      result := .success, summary := some draft.summary.toList, errorClass := none,
      metadata := auditMetadata })

/-- The transaction that creates a service's record. -/
def createTransaction (row : RecordEnvelope) (draft : AuditDraft) (failed : DollError)
    (db : Database) : Result Database := do
  let db ← orFail failed (db.insertRecord row)
  let db ← insertAudit draft row.id failed db
  return db.commitStateRevision

/-- The transaction that changes a service's record. -/
def updateTransaction (u : RecordUpdate) (draft : AuditDraft) (errors : TransactionErrors)
    (db : Database) : Result Database := do
  let refreshed ← db.getRecord u.base.id
  let found := refreshed.revision
  let expected := u.expectedRevision
  ensure (found = expected)
    ⟨.staleRevision, s!"record revision is {found}, expected {expected}"⟩
  ensure (refreshed.status = .active) errors.archived
  let db ← orFail errors.unchanged <|
    db.updateWhere u.base.id
      (fun row => row.revision = u.expectedRevision ∧ row.status = .active) u.apply
  let db ← insertAudit draft u.base.id errors.failed db
  return db.commitStateRevision

/-- What the first half of a call ends with: the transaction it is going to run. -/
inductive Write where
  /-- of `create_record` -/
  | insert (row : RecordEnvelope)
  /-- of `update_record` -/
  | set (u : RecordUpdate)
  /-- of `AuditLog.append` -/
  | append (event : AuditEvent)
  /-- of a service's creation -/
  | create (row : RecordEnvelope) (draft : AuditDraft) (failed : DollError)
  /-- of a service's change -/
  | change (u : RecordUpdate) (draft : AuditDraft) (errors : TransactionErrors)

/-- Run the transaction on the database it finds. -/
def Write.commit : Write → Database → Result Database
  | .insert row => createRecordTransaction row
  | .set u => updateRecordTransaction u
  | .append event => auditAppendTransaction event
  | .create row draft failed => createTransaction row draft failed
  | .change u draft errors => updateTransaction u draft errors

/-- The update of the write, if it is one. -/
def Write.update? : Write → Option RecordUpdate
  | .set u => some u
  | .change u _ _ => some u
  | _ => none

/-! ### What a transaction leaves -/

/-- Every row but `row` is as it was, and `row` is there. -/
def Database.Writes (db : Database) (row : RecordEnvelope) (db' : Database) : Prop :=
  ∀ id, db'.find? id = if row.id = id then some row else db.find? id

theorem find?_insertAudit {draft : AuditDraft} {target : RecordId} {failed : DollError}
    {db db' : Database} (h : insertAudit draft target failed db = .ok db') (id : RecordId) :
    db'.find? id = db.find? id := by
  rw [insertAudit, bind_eq_ok] at h
  obtain ⟨_, -, h⟩ := h
  obtain ⟨_, -, h⟩ := bind_eq_ok.1 h
  obtain ⟨_, -, h⟩ := bind_eq_ok.1 h
  split at h
  · cases h
  · exact Database.find?_insertAuditEvent (orFail_eq_ok.1 h) id

/-- A creation inserts its row, whose identifier was free. -/
theorem createTransaction_writes {row : RecordEnvelope} {draft : AuditDraft} {failed : DollError}
    {db db' : Database} (h : createTransaction row draft failed db = .ok db') :
    db.find? row.id = none ∧ db.Writes row db' := by
  rw [createTransaction, bind_eq_ok] at h
  obtain ⟨db₁, h₁, h⟩ := h
  obtain ⟨db₂, h₂, h⟩ := bind_eq_ok.1 h
  have hinsert := orFail_eq_ok.1 h₁
  refine ⟨Database.find?_none_of_insertRecord hinsert, fun id => ?_⟩
  rw [← pure_eq_ok.1 h, Database.find?_commitStateRevision, find?_insertAudit h₂,
    Database.find?_insertRecord hinsert]

/-- A change replaces the active row it finds, which is at the expected revision. -/
theorem updateTransaction_writes {u : RecordUpdate} {draft : AuditDraft}
    {errors : TransactionErrors} {db db' : Database}
    (h : updateTransaction u draft errors db = .ok db') :
    ∃ row, db.find? u.base.id = some row ∧ row.revision = u.expectedRevision ∧
      row.status = .active ∧ db.Writes (u.apply row) db' := by
  rw [updateTransaction, bind_eq_ok] at h
  obtain ⟨refreshed, -, h⟩ := h
  obtain ⟨-, h⟩ := check_bind_eq_ok.1 h
  obtain ⟨-, h⟩ := check_bind_eq_ok.1 h
  obtain ⟨db₁, h₁, h⟩ := bind_eq_ok.1 h
  obtain ⟨db₂, h₂, h⟩ := bind_eq_ok.1 h
  obtain ⟨row, hrow, ⟨hrevision, hactive⟩, hfind⟩ :=
    Database.find?_updateWhere u.apply_id (orFail_eq_ok.1 h₁)
  refine ⟨row, hrow, hrevision, hactive, fun id => ?_⟩
  rw [← pure_eq_ok.1 h, Database.find?_commitStateRevision, find?_insertAudit h₂, hfind,
    u.apply_id, Database.id_of_find? hrow]

/-- The three things a transaction can do to the records. -/
inductive Write.Effect (w : Write) (db db' : Database) : Prop
  | inserted (row : RecordEnvelope) (hupdate : w.update? = none)
      (hfree : db.find? row.id = none) (hwrites : db.Writes row db')
  | updated (u : RecordUpdate) (row : RecordEnvelope) (hupdate : w.update? = some u)
      (hfound : db.find? u.base.id = some row) (hrevision : row.revision = u.expectedRevision)
      (hwrites : db.Writes (u.apply row) db')
  | kept (hupdate : w.update? = none) (hsame : ∀ id, db'.find? id = db.find? id)

theorem Write.effect_of_commit {w : Write} {db db' : Database} (h : w.commit db = .ok db') :
    w.Effect db db' := by
  cases w with
  | insert row =>
    obtain ⟨db₁, h₁, h⟩ := bind_eq_ok.1 h
    have hinsert := orFail_eq_ok.1 h₁
    refine .inserted row rfl (Database.find?_none_of_insertRecord hinsert) fun id => ?_
    rw [← pure_eq_ok.1 h, Database.find?_commitStateRevision, Database.find?_insertRecord hinsert]
  | set u =>
    obtain ⟨db₁, h₁, h⟩ := bind_eq_ok.1 h
    obtain ⟨row, hrow, hrevision, hfind⟩ :=
      Database.find?_updateWhere u.apply_id (orFail_eq_ok.1 h₁)
    refine .updated u row rfl hrow hrevision fun id => ?_
    rw [← pure_eq_ok.1 h, Database.find?_commitStateRevision, hfind,
      u.apply_id, Database.id_of_find? hrow]
  | append event =>
    obtain ⟨db₁, h₁, h⟩ := bind_eq_ok.1 h
    refine .kept rfl fun id => ?_
    rw [← pure_eq_ok.1 h, Database.find?_commitStateRevision,
      Database.find?_insertAuditEvent (orFail_eq_ok.1 h₁)]
  | create row draft failed =>
    obtain ⟨hfree, hwrites⟩ := createTransaction_writes h
    exact .inserted row rfl hfree hwrites
  | change u draft errors =>
    obtain ⟨row, hrow, hrevision, -, hwrites⟩ := updateTransaction_writes h
    exact .updated u row rfl hrow hrevision hwrites

/-! ## How a row changes -/

/-- Rows stay, their revisions do not go down, and a row at the same revision is the same row. -/
def Database.Evolves (db db' : Database) : Prop :=
  ∀ id r, db.find? id = some r →
    ∃ r', db'.find? id = some r' ∧ r.revision ≤ r'.revision ∧ (r.revision = r'.revision → r = r')

omit [ModuleRules] in
theorem Database.Evolves.refl (db : Database) : db.Evolves db :=
  fun _ r hr => ⟨r, hr, le_refl _, fun _ => rfl⟩

omit [ModuleRules] in
theorem Database.Evolves.trans {db₁ db₂ db₃ : Database} (h : db₁.Evolves db₂)
    (h' : db₂.Evolves db₃) : db₁.Evolves db₃ := by
  intro id r hr
  obtain ⟨r₂, hr₂, hle₂, heq₂⟩ := h id r hr
  obtain ⟨r₃, hr₃, hle₃, heq₃⟩ := h' id r₂ hr₂
  refine ⟨r₃, hr₃, hle₂.trans hle₃, fun h => ?_⟩
  rw [heq₂ (by omega), heq₃ (by omega)]

omit [ModuleRules] in
/-- A row put in place of none, or of a row at a lower revision. -/
theorem Database.Writes.evolves {db db' : Database} {row : RecordEnvelope}
    (h : db.Writes row db') (hrow : ∀ r, db.find? row.id = some r → r.revision < row.revision) :
    db.Evolves db' := by
  intro id r hr
  rw [h id]
  split
  · rename_i hid
    have hlt := hrow r (hid ▸ hr)
    exact ⟨row, rfl, by omega, fun e => by omega⟩
  · exact ⟨r, hr, le_refl _, fun _ => rfl⟩

/-- Every transaction makes the database evolve. -/
theorem Write.evolves {w : Write} {db db' : Database} (h : w.commit db = .ok db') :
    db.Evolves db' := by
  cases w.effect_of_commit h with
  | inserted row _ hfree hwrites =>
    refine hwrites.evolves fun r hr => ?_
    rw [hfree] at hr
    cases hr
  | updated u row _ hfound _ hwrites =>
    refine hwrites.evolves fun r hr => ?_
    rw [u.apply_id, Database.id_of_find? hfound, hfound, Option.some.injEq] at hr
    rw [← hr]
    exact Int.lt_succ _
  | kept _ hsame => exact fun id r hr => ⟨r, by rw [hsame, hr], le_refl _, fun _ => rfl⟩

/-- An update that commits finds its row, at the expected revision. -/
theorem Write.update_found {w : Write} {db db' : Database} {u : RecordUpdate}
    (h : w.commit db = .ok db') (hu : w.update? = some u) :
    ∃ row, db.find? u.base.id = some row ∧ row.revision = u.expectedRevision := by
  cases w.effect_of_commit h with
  | inserted row hnone => cases hu.symm.trans hnone
  | updated u' row hsome hfound hrevision =>
    cases hu.symm.trans hsome
    exact ⟨row, hfound, hrevision⟩
  | kept hnone => cases hu.symm.trans hnone

end

end DollState
