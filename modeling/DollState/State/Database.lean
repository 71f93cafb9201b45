import DollState.Library.Check
import DollState.Library.Table
import DollState.State.Record

/-!
# The state database

The SQLite database of one workspace: the singleton metadata row (`workspaceId`, `schemaVersion`,
`stateRevision`), the records, the append-only audit events and the migration history. A write
transaction is a function on databases; it either commits, and then the database it returns has a
state revision one above the one it started from, or leaves the database as it was.
-/

namespace DollState

open StateLib

inductive AuditActor where
  | user | system | model | runtime | capability | migration
deriving DecidableEq, Repr

inductive AuditResult where
  | success | denied | failed | cancelled | partialSuccess
deriving DecidableEq, Repr

/-- One row of the `audit_events` table; its sequence is its position. -/
structure AuditEvent where
  eventId : RecordId
  operationId : Text
  occurredAt : Text
  actorType : AuditActor
  actorId : Option Text
  action : Text
  targetType : Option Text
  targetId : Option Text
  result : AuditResult
  summary : Option Text
  errorClass : Option Text
  metadata : Metadata

/-- One row of the `migration_history` table. -/
structure MigrationRun where
  migrationRunId : RecordId
  migrationId : Text
  fromSchemaVersion : Int
  toSchemaVersion : Int
  startedAt : Text
  completedAt : Option Text
  status : Text
  errorClass : Option Text

structure Database where
  workspaceId : RecordId
  schemaVersion : Nat
  stateRevision : Nat
  records : Table RecordId RecordEnvelope RecordEnvelope.id
  auditEvents : Table RecordId AuditEvent AuditEvent.eventId
  migrationHistory : List MigrationRun

namespace Database

/-- A database just after its migrations, before any record. -/
def fresh (workspaceId : RecordId) (history : List MigrationRun) : Database where
  workspaceId := workspaceId
  schemaVersion := 3
  stateRevision := 0
  records := .empty
  auditEvents := .empty
  migrationHistory := history

/-- The row with an identifier. -/
def find? (db : Database) (id : RecordId) : Option RecordEnvelope := db.records.find? id

/-- `repository.get_record` inside a transaction. -/
def getRecord (db : Database) (id : RecordId) : Result RecordEnvelope :=
  orFail (.noRecord (uuidText id)) (db.find? id)

/-- `INSERT INTO records`. -/
def insertRecord (db : Database) (record : RecordEnvelope) : Option Database :=
  (db.records.insert? record).map fun records => { db with records }

/-- `UPDATE records` of the row with the identifier of `record`. -/
def replaceRecord (db : Database) (record : RecordEnvelope) : Database :=
  { db with records := db.records.replace record }

/-- `INSERT INTO audit_events`. -/
def insertAuditEvent (db : Database) (event : AuditEvent) : Option Database :=
  (db.auditEvents.insert? event).map fun auditEvents => { db with auditEvents }

/-- `_commit_state_revision`, followed by the commit. -/
def commitStateRevision (db : Database) : Database :=
  { db with stateRevision := db.stateRevision + 1 }

/-! ## What a lookup finds after a write -/

theorem getRecord_eq_ok {db : Database} {id : RecordId} {r : RecordEnvelope} :
    db.getRecord id = .ok r ↔ db.find? id = some r := orFail_eq_ok

theorem find?_eq_some {db : Database} {id : RecordId} {r : RecordEnvelope} :
    db.find? id = some r ↔ r ∈ db.records ∧ r.id = id := Table.find?_eq_some

/-- The row a lookup finds has the identifier looked up. -/
theorem id_of_find? {db : Database} {id : RecordId} {r : RecordEnvelope}
    (h : db.find? id = some r) : r.id = id := (find?_eq_some.1 h).2

theorem mem_iff_find? {db : Database} {r : RecordEnvelope} :
    r ∈ db.records ↔ db.find? r.id = some r :=
  ⟨fun h => find?_eq_some.2 ⟨h, rfl⟩, fun h => (find?_eq_some.1 h).1⟩

@[simp] theorem find?_commitStateRevision (db : Database) (id : RecordId) :
    db.commitStateRevision.find? id = db.find? id := rfl

@[simp] theorem stateRevision_commitStateRevision (db : Database) :
    db.commitStateRevision.stateRevision = db.stateRevision + 1 := rfl

@[simp] theorem records_commitStateRevision (db : Database) :
    db.commitStateRevision.records = db.records := rfl

theorem insertAuditEvent_eq_some {db db' : Database} {event : AuditEvent} :
    db.insertAuditEvent event = some db' ↔
      ∃ events, db.auditEvents.insert? event = some events ∧
        db' = { db with auditEvents := events } := by
  simp [insertAuditEvent, eq_comm]

theorem insertRecord_eq_some {db db' : Database} {record : RecordEnvelope} :
    db.insertRecord record = some db' ↔
      ∃ records, db.records.insert? record = some records ∧ db' = { db with records } := by
  simp [insertRecord, eq_comm]

theorem find?_insertRecord {db db' : Database} {record : RecordEnvelope}
    (h : db.insertRecord record = some db') (id : RecordId) :
    db'.find? id = if record.id = id then some record else db.find? id := by
  obtain ⟨records, hrecords, rfl⟩ := insertRecord_eq_some.1 h
  exact Table.find?_insert? hrecords id

theorem find?_none_of_insertRecord {db db' : Database} {record : RecordEnvelope}
    (h : db.insertRecord record = some db') : db.find? record.id = none := by
  obtain ⟨records, hrecords, -⟩ := insertRecord_eq_some.1 h
  exact Table.insert?_isSome.1 (by rw [hrecords]; rfl)

theorem find?_replaceRecord {db : Database} {record : RecordEnvelope}
    (h : (db.find? record.id).isSome) (id : RecordId) :
    (db.replaceRecord record).find? id = if record.id = id then some record else db.find? id := by
  split
  · rename_i hid
    exact hid ▸ Table.find?_replace_self h
  · rename_i hid
    exact Table.find?_replace_of_ne (Ne.symm hid)

theorem find?_insertAuditEvent {db db' : Database} {event : AuditEvent}
    (h : db.insertAuditEvent event = some db') (id : RecordId) :
    db'.find? id = db.find? id := by
  obtain ⟨events, -, rfl⟩ := insertAuditEvent_eq_some.1 h
  rfl

/-! ## What a write keeps -/

/-- What everything that writes keeps: rows stay, and the database stays the same workspace's. -/
structure Extends (db db' : Database) : Prop where
  workspaceId : db'.workspaceId = db.workspaceId
  stateRevision : db.stateRevision ≤ db'.stateRevision
  records : ∀ id, (db.find? id).isSome → (db'.find? id).isSome
  auditEvents : ∀ id, (db.auditEvents.find? id).isSome → (db'.auditEvents.find? id).isSome

theorem Extends.refl (db : Database) : db.Extends db :=
  ⟨rfl, le_refl _, fun _ h => h, fun _ h => h⟩

theorem Extends.trans {db₁ db₂ db₃ : Database} (h : db₁.Extends db₂) (h' : db₂.Extends db₃) :
    db₁.Extends db₃ where
  workspaceId := h'.workspaceId.trans h.workspaceId
  stateRevision := Nat.le_trans h.stateRevision h'.stateRevision
  records id hid := h'.records id (h.records id hid)
  auditEvents id hid := h'.auditEvents id (h.auditEvents id hid)

theorem extends_insertRecord {db db' : Database} {record : RecordEnvelope}
    (h : db.insertRecord record = some db') : db.Extends db' := by
  have hfind := find?_insertRecord h
  obtain ⟨records, -, rfl⟩ := insertRecord_eq_some.1 h
  refine ⟨rfl, le_refl _, fun id hid => ?_, fun _ hid => hid⟩
  rw [hfind]
  split
  · rfl
  · exact hid

theorem extends_replaceRecord {db : Database} {record : RecordEnvelope}
    (h : (db.find? record.id).isSome) : db.Extends (db.replaceRecord record) := by
  refine ⟨rfl, le_refl _, fun id hid => ?_, fun _ hid => hid⟩
  rw [find?_replaceRecord h]
  split
  · rfl
  · exact hid

theorem extends_insertAuditEvent {db db' : Database} {event : AuditEvent}
    (h : db.insertAuditEvent event = some db') : db.Extends db' := by
  obtain ⟨events, hevents, rfl⟩ := insertAuditEvent_eq_some.1 h
  refine ⟨rfl, le_refl _, fun _ hid => hid, fun id hid => ?_⟩
  show (events.find? id).isSome
  rw [Table.find?_insert? hevents]
  split
  · rfl
  · exact hid

theorem extends_commitStateRevision (db : Database) : db.Extends db.commitStateRevision :=
  ⟨rfl, Nat.le_succ _, fun _ h => h, fun _ h => h⟩

end Database

end DollState
