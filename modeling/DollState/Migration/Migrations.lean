import DollState.State.Database

/-!
# Schema migrations

`apply_migrations` brings a database from its schema version to the current one, one migration at a
time. A migration runs in one transaction: it records that it is running, executes its statements,
advances the schema version if that is still the one it starts from, and records that it has
completed. When anything in the transaction fails, the database is rolled back and a second
transaction records the failure.

The two tables of the bootstrap are modelled by their rows. The rest of the database is a parameter
`τ`, and a statement is any function on the whole database that may fail: it may write to the two
tables as well.
-/

namespace DollState.Migrations

open StateLib

/-- `CURRENT_SCHEMA_VERSION`. -/
def currentSchemaVersion : Int := 3

/-- The row of `schema_metadata` with `singleton = 1`, as far as migrations use it. -/
structure SchemaMetadata where
  schemaVersion : Nat
  updatedAt : Text

/-- A table is `none` once a statement has dropped it; of `schema_metadata`, the row itself may be
missing too. -/
structure StateDatabase (τ : Type) where
  schemaMetadata : Option (Option SchemaMetadata)
  migrationHistory : Option (Table RecordId MigrationRun MigrationRun.migrationRunId)
  tables : τ

/-- One statement: the database after it, or the class of the error it raises. -/
abbrev Statement (τ : Type) := StateDatabase τ → Except Text (StateDatabase τ)

structure Migration (τ : Type) where
  migrationId : Text
  fromVersion : Int
  toVersion : Int
  statements : List (Statement τ)

/-- What a run of a migration takes from its surroundings: the identifier `uuid4` draws for it and
its readings of the clock. -/
structure Draws where
  migrationRunId : RecordId
  startedAt : Text
  completedAt : Text
  failedAt : Text

variable {τ : Type}

namespace StateDatabase

/-- The schema version that is stored. -/
def version? (db : StateDatabase τ) : Option Nat :=
  db.schemaMetadata.bind fun row => row.map (·.schemaVersion)

/-- The rows of `migration_history`. -/
def runs (db : StateDatabase τ) : List MigrationRun :=
  (db.migrationHistory.map (·.rows)).getD []

/-- `INSERT INTO migration_history`. -/
def insertRun (run : MigrationRun) (db : StateDatabase τ) : Except Text (StateDatabase τ) := do
  let history ← orFail "OperationalError".toList db.migrationHistory
  let history ← orFail "IntegrityError".toList (history.insert? run)
  return { db with migrationHistory := some history }

/-- `UPDATE schema_metadata SET schema_version = ? … AND schema_version = ?`, which has to change
one row. -/
def advance (fromVersion toVersion : Int) (now : Text) (db : StateDatabase τ) :
    Except Text (StateDatabase τ) := do
  let row ← orFail "OperationalError".toList db.schemaMetadata
  let row ← orFail "StateCorruptError".toList row
  ensure (row.schemaVersion = fromVersion) "StateCorruptError".toList
  -- the table's CHECK constraint
  ensure (0 ≤ toVersion) "IntegrityError".toList
  return { db with schemaMetadata := some (some ⟨toVersion.toNat, now⟩) }

/-- `UPDATE migration_history SET … status = 'completed' WHERE migration_run_id = ?`: whether a row
has changed is not looked at. -/
def completeRun (id : RecordId) (now : Text) (db : StateDatabase τ) :
    Except Text (StateDatabase τ) := do
  let history ← orFail "OperationalError".toList db.migrationHistory
  match history.find? id with
  | none => return db
  | some run =>
    let completed := { run with completedAt := some now, status := "completed".toList }
    return { db with migrationHistory := some (history.replace completed) }

end StateDatabase

namespace Migration

/-- The row a migration's transaction begins with. -/
def runningRow (m : Migration τ) (draws : Draws) : MigrationRun where
  migrationRunId := draws.migrationRunId
  migrationId := m.migrationId
  fromSchemaVersion := m.fromVersion
  toSchemaVersion := m.toVersion
  startedAt := draws.startedAt
  completedAt := none
  status := "running".toList
  errorClass := none

/-- The row of a migration that has completed. -/
def completedRow (m : Migration τ) (draws : Draws) : MigrationRun :=
  { m.runningRow draws with completedAt := some draws.completedAt, status := "completed".toList }

/-- The row of a migration that has failed. -/
def failedRow (m : Migration τ) (draws : Draws) (errorClass : Text) : MigrationRun :=
  { m.runningRow draws with
    completedAt := some draws.failedAt, status := "failed".toList, errorClass := some errorClass }

end Migration

section

-- the class of the error that `COMMIT` raises on a database that violates a deferred constraint
variable (commitError : StateDatabase τ → Option Text)

/-- The transaction of `_apply_migration`: the database it commits, or the class of the error it is
rolled back for. -/
def migrationTransaction (draws : Draws) (m : Migration τ) (db : StateDatabase τ) :
    Except Text (StateDatabase τ) := do
  let db ← db.insertRun (m.runningRow draws)
  let db ← m.statements.foldlM (fun db statement => statement db) db
  let db ← db.advance m.fromVersion m.toVersion draws.completedAt
  let db ← db.completeRun draws.migrationRunId draws.completedAt
  match commitError db with
  | some errorClass => .error errorClass
  | none => .ok db

/-- `_apply_migration`, with `_record_failed_migration`. -/
def applyMigration (draws : Draws) (m : Migration τ) (db : StateDatabase τ) :
    Result Unit × StateDatabase τ :=
  match migrationTransaction commitError draws m db with
  | .ok db => (.ok (), db)
  | .error errorClass =>
    match db.insertRun (m.failedRow draws errorClass) with
    | .ok db =>
      let id := String.ofList m.migrationId
      (.error ⟨.migration, s!"migration {id} failed and was rolled back"⟩, db)
    | .error unrecorded => (.error ⟨.sqlite, String.ofList unrecorded⟩, db)

/-- `_index_migrations`: the migrations by the version they start from. -/
def indexMigrations (migrations : List (Migration τ)) : Result (List (Migration τ)) :=
  migrations.foldlM (fun byFromVersion m => do
    let version := m.fromVersion
    let id := String.ofList m.migrationId
    ensure (∀ m' ∈ byFromVersion, m'.fromVersion ≠ version)
      (DollError.mk .stateCorrupt s!"multiple migrations start at schema version {version}")
    ensure (∀ m' ∈ byFromVersion, m'.migrationId ≠ m.migrationId)
      (DollError.mk .stateCorrupt s!"duplicate migration id: {id}")
    return byFromVersion ++ [m]) []

/-- `_metadata_row`. -/
def metadataRow (db : StateDatabase τ) : Result SchemaMetadata := do
  let row ← orFail ⟨.stateCorrupt, "state database metadata is unreadable"⟩ db.schemaMetadata
  orFail ⟨.stateCorrupt, "state database metadata is missing"⟩ row

/-- The loop of `apply_migrations`, `pending` versions below the current one. What each run draws is
given by the version it starts from. -/
def applyPending (draws : Int → Draws) (byFromVersion : List (Migration τ)) :
    Nat → Int → StateDatabase τ → Result Int × StateDatabase τ
  | 0, version, db => (.ok version, db)
  | pending + 1, version, db =>
    match byFromVersion.find? fun m => m.fromVersion = version with
    | none =>
      (.error ⟨.stateCorrupt, s!"no valid migration from schema version {version}"⟩, db)
    | some m =>
      let id := String.ofList m.migrationId
      if m.toVersion ≠ version + 1 then
        (.error ⟨.stateCorrupt, s!"migration {id} must advance exactly one schema version"⟩, db)
      else if m.toVersion > currentSchemaVersion then
        (.error ⟨.stateCorrupt,
          s!"migration {id} exceeds supported schema version {currentSchemaVersion}"⟩, db)
      else
        match applyMigration commitError (draws version) m db with
        | (.error e, db) => (.error e, db)
        | (.ok (), db) => applyPending draws byFromVersion pending m.toVersion db

/-- `apply_migrations`: its result, and the database it leaves. -/
def applyMigrations (draws : Int → Draws) (migrations : List (Migration τ))
    (db : StateDatabase τ) : Result Int × StateDatabase τ :=
  match indexMigrations migrations, metadataRow db with
  | .error e, _ => (.error e, db)
  | .ok _, .error e => (.error e, db)
  | .ok byFromVersion, .ok row =>
    let version := row.schemaVersion
    if version > currentSchemaVersion then
      (.error ⟨.futureSchemaVersion, s!"state schema version {version} is newer than " ++
        s!"supported version {currentSchemaVersion}"⟩, db)
    else
      applyPending commitError draws byFromVersion (currentSchemaVersion - version).toNat version db

end

/-! ## The migrations of the repository

Their statements create tables, indexes and triggers. Here the rest of the database is the list of
the names of these objects. -/

/-- `CREATE … name`, on a table if it is an index or a trigger. -/
def create (name : String) (table : Option String) : Statement (List String) := fun db =>
  if name ∈ db.tables then .error "OperationalError".toList
  else
    match table with
    | none => .ok { db with tables := db.tables ++ [name] }
    | some table =>
      if table ∈ db.tables then .ok { db with tables := db.tables ++ [name] }
      else .error "OperationalError".toList

/-- `MIGRATION_0001`. -/
def migration0001 : Migration (List String) where
  migrationId := "0001-initial-authoritative-state".toList
  fromVersion := 0
  toVersion := 1
  statements := [create "records" none, create "records_type_status_idx" (some "records"),
    create "records_updated_at_idx" (some "records")]

/-- `MIGRATION_0002`. -/
def migration0002 : Migration (List String) where
  migrationId := "0002-append-oriented-audit-events".toList
  fromVersion := 1
  toVersion := 2
  statements := [create "audit_events" none,
    create "audit_events_operation_idx" (some "audit_events"),
    create "audit_events_action_idx" (some "audit_events"),
    create "audit_events_actor_idx" (some "audit_events"),
    create "audit_events_result_idx" (some "audit_events"),
    create "audit_events_no_update" (some "audit_events"),
    create "audit_events_no_delete" (some "audit_events")]

/-- `MIGRATION_0003`. -/
def migration0003 : Migration (List String) where
  migrationId := "0003-local-model-manifests-and-bindings".toList
  fromVersion := 2
  toVersion := 3
  statements := [create "runtime_manifest_state_idx" (some "records"),
    create "model_manifest_runtime_idx" (some "records"),
    create "model_binding_scope_state_idx" (some "records"),
    create "model_binding_one_active_scope_idx" (some "records")]

/-- `MIGRATIONS`. -/
def MIGRATIONS : List (Migration (List String)) := [migration0001, migration0002, migration0003]

/-- The database that `_bootstrap` leaves. -/
def bootstrapped (now : Text) : StateDatabase (List String) where
  schemaMetadata := some (some ⟨0, now⟩)
  migrationHistory := some .empty
  tables := []

end DollState.Migrations
