import Mathlib.Logic.Function.Basic
import DollState.Library.Run
import DollState.State.Repository

/-!
# Commits and the workspace file

A workspace keeps its state revision twice: in the database, advanced by every write transaction,
and in `workspace.json`, which the writer brings up to date after its commit. Several clients work
on one workspace. Each step of the system is one access of one client to something they share: a
`SELECT`, a transaction, reading `workspace.json`, replacing it. What a client does between two
such accesses touches nothing shared and belongs to the step before. A client may crash at any
point (`Step.crash`).
-/

namespace DollState

open StateLib

/-! ## The workspace file -/

/-- The contents of `workspace.json`. -/
structure WorkspaceRecord where
  workspaceId : RecordId
  schemaVersion : Nat
  updatedAt : Text
  productVersionLastOpened : Text
  stateRevision : Nat

/-- `load_workspace`, the file being readable. -/
def loadWorkspace (file : WorkspaceRecord) : Result WorkspaceRecord := do
  let found := file.schemaVersion
  ensure (found ≤ 1) ⟨.workspaceRecord,
    s!"workspace schema version {found} is newer than supported version 1"⟩
  return file

/-- `update_workspace_state_revision` between loading the file and replacing it: the record to
write, or `none` if the file holds the revision already. -/
def planRevision (now version : Text) (loaded : WorkspaceRecord) (revision : Nat) :
    Result (Option WorkspaceRecord) :=
  let current := loaded.stateRevision
  if revision < current then
    .error ⟨.workspaceRevision,
      s!"workspace state revision cannot decrease from {current} to {revision}"⟩
  else if revision = current then .ok none
  else .ok (some { loaded with
    stateRevision := revision, updatedAt := now, productVersionLastOpened := version })

theorem planRevision_eq_some {now version : Text} {loaded new : WorkspaceRecord} {revision : Nat} :
    planRevision now version loaded revision = .ok (some new) ↔
      loaded.stateRevision < revision ∧ new = { loaded with
        stateRevision := revision, updatedAt := now, productVersionLastOpened := version } := by
  simp only [planRevision]
  split
  · simp only [reduceCtorEq, false_iff, not_and]
    omega
  · split
    · simp only [Except.ok.injEq, reduceCtorEq, false_iff, not_and]
      omega
    · simp only [Except.ok.injEq, Option.some.injEq]
      constructor
      · rintro rfl
        exact ⟨by omega, rfl⟩
      · rintro ⟨-, rfl⟩
        rfl

theorem planRevision_eq_none {now version : Text} {loaded : WorkspaceRecord} {revision : Nat} :
    planRevision now version loaded revision = .ok none ↔ revision = loaded.stateRevision := by
  simp only [planRevision]
  split
  · simp only [reduceCtorEq, false_iff]
    omega
  · split <;> simp_all

theorem planRevision_eq_error {now version : Text} {loaded : WorkspaceRecord} {revision : Nat} :
    (∃ e, planRevision now version loaded revision = .error e) ↔
      revision < loaded.stateRevision := by
  simp only [planRevision]
  split
  · simp_all
  · split <;> simp_all

theorem loadWorkspace_eq_ok {file record : WorkspaceRecord} :
    loadWorkspace file = .ok record ↔ file.schemaVersion ≤ 1 ∧ record = file := by
  rw [loadWorkspace, check_bind_eq_ok, ensure_eq_ok, pure_eq_ok, eq_comm (a := file)]

/-- `CURRENT_SCHEMA_VERSION`. -/
def currentSchemaVersion : Nat := 3

/-- `_validate_database_identity`. -/
def validateDatabaseIdentity (db : Database) (workspace : WorkspaceRecord) :
    Result (Nat × Nat) := do
  ensure (db.workspaceId = workspace.workspaceId)
    ⟨.stateCorrupt, "state database belongs to a different workspace"⟩
  let found := db.schemaVersion
  let current := currentSchemaVersion
  ensure (found ≤ current) ⟨.futureSchemaVersion,
    s!"state schema version {found} is newer than supported version {current}"⟩
  return (db.schemaVersion, db.stateRevision)

/-- One migration: the schema version advances, the state revision does not. -/
def Database.migrate (db : Database) (run : MigrationRun) : Database :=
  { db with
    schemaVersion := db.schemaVersion + 1, migrationHistory := db.migrationHistory ++ [run] }

/-- The error of an open that finds the file ahead of the database. -/
def aheadError : DollError :=
  ⟨.stateRevisionMismatch, "workspace state revision is ahead of the authoritative database"⟩

/-! ## Calls -/

/-- The repository calls that write. -/
inductive RepositoryCall where
  | createRecord (env : Surroundings) (args : CreateRecordArgs)
  | updateRecord (env : Surroundings) (args : UpdateRecordArgs)
  | appendAudit (env : Surroundings) (args : AuditAppendArgs)

/-- What a call has written, and reads back at its end. -/
inductive Written where
  | record (id : RecordId)
  | event (id : RecordId)

/-- The final `get` of a call. -/
def Written.readBack (db : Database) : Written → Result Unit
  | .record id => (db.getRecord id).map fun _ => ()
  | .event id => (orFail (DollError.noRecord (uuidText id)) (db.auditEvents.find? id)).map
      fun _ => ()

/-- A validated call: its transaction and what that is going to write. -/
structure Pending where
  transaction : Database → Result Database
  target : Written

/-- A call up to its transaction. -/
def RepositoryCall.prepare [PythonLibrary] [ModuleRules] : RepositoryCall → Reader Pending
  | .createRecord env args => do
    let row ← prepareCreateRecord env args
    return ⟨createRecordTransaction row, .record row.id⟩
  | .updateRecord env args => do
    let u ← prepareUpdateRecord env args
    return ⟨updateRecordTransaction u, .record u.base.id⟩
  | .appendAudit env args => do
    let event ← prepareAuditAppend env args
    return ⟨auditAppendTransaction event, .event event.eventId⟩

/-! ## The system -/

/-- Why a client brings the file up to date: it has committed a call, or it is opening. -/
inductive Purpose where
  | call (target : Written)
  | opening

/-- A synchronisation of the file with a revision of the database. -/
structure Job where
  purpose : Purpose
  revision : Nat

/-- Where a client is. -/
inductive Phase where
  | idle
  /-- validating a call -/
  | preparing (p : Reader Pending)
  /-- about to load the file -/
  | syncing (job : Job)
  /-- about to replace the file by `record` -/
  | writing (job : Job) (record : WorkspaceRecord)
  /-- about to load the file again -/
  | synced (job : Job)
  /-- about to read back what was written -/
  | reloaded (job : Job)
  /-- a call has ended; `committed` tells whether its transaction has -/
  | finished (target : Option Written) (committed : Bool) (result : Result Unit)
  /-- opening: the file is loaded, the database is not read yet -/
  | openLoaded (record : WorkspaceRecord)
  | openMigrating (record : WorkspaceRecord)
  | opened
  | openFailed (e : DollError)

/-- The client is not in the middle of anything. -/
def Phase.Resting : Phase → Prop
  | .idle | .finished .. | .opened | .openFailed _ => True
  | _ => False

/-- The phase of a synchronisation that failed. An open reports a refused revision as a mismatch. -/
def Job.failed (job : Job) (e : DollError) : Phase :=
  match job.purpose with
  | .call target => .finished (some target) true (.error e)
  | .opening => .openFailed (if e.kind = .workspaceRevision then
      ⟨.stateRevisionMismatch, "workspace state revision could not be synchronized"⟩ else e)

/-- `_sync_workspace_revision` up to its first access to the file. -/
def openWith (record : WorkspaceRecord) (revision : Nat) : Phase :=
  if revision < record.stateRevision then .openFailed aheadError
  else if record.stateRevision < revision then .syncing ⟨.opening, revision⟩
  else .synced ⟨.opening, revision⟩

/-- One workspace and its clients. -/
structure World (Client : Type) where
  db : Database
  file : WorkspaceRecord
  phase : Client → Phase

/-- The kinds of steps a client takes. -/
inductive Action where
  | begin | read | reject | rollback | commit | load | replace | reload | readBack
  | openLoad | identify | migrate | migrated | crash
deriving DecidableEq

variable {Client : Type} [DecidableEq Client]

/-- The client `c` moves to `phase`. -/
def World.goto (w : World Client) (c : Client) (phase : Phase) : World Client :=
  { w with phase := Function.update w.phase c phase }

@[simp] theorem World.goto_db (w : World Client) (c : Client) (phase : Phase) :
    (w.goto c phase).db = w.db := rfl

@[simp] theorem World.goto_file (w : World Client) (c : Client) (phase : Phase) :
    (w.goto c phase).file = w.file := rfl

@[simp] theorem World.goto_self (w : World Client) (c : Client) (phase : Phase) :
    (w.goto c phase).phase c = phase := Function.update_self ..

theorem World.goto_of_ne (w : World Client) {c d : Client} (h : d ≠ c) (phase : Phase) :
    (w.goto c phase).phase d = w.phase d := Function.update_of_ne h ..

variable [PythonLibrary] [ModuleRules]

/-- One step of one client. -/
inductive Step : World Client → Client × Action → World Client → Prop
  | begin {w : World Client} {c : Client} (call : RepositoryCall) :
      (w.phase c).Resting → Step w (c, .begin) (w.goto c (.preparing call.prepare))
  | read {w : World Client} {c : Client} {q : StateQuery} {k : q.Answer → Reader Pending} :
      w.phase c = .preparing (.ask q k) →
      Step w (c, .read) (w.goto c (.preparing (k (w.db.answer q))))
  | reject {w : World Client} {c : Client} {e : DollError} :
      w.phase c = .preparing (.done (.error e)) →
      Step w (c, .reject) (w.goto c (.finished none false (.error e)))
  /-- The transaction fails, in one of its own checks or because SQLite refuses it. -/
  | rollback {w : World Client} {c : Client} {p : Pending} (e : DollError) :
      w.phase c = .preparing (.done (.ok p)) →
      Step w (c, .rollback) (w.goto c (.finished (some p.target) false (.error e)))
  | commit {w : World Client} {c : Client} {p : Pending} {db : Database} :
      w.phase c = .preparing (.done (.ok p)) → p.transaction w.db = .ok db →
      Step w (c, .commit)
        ({ w with db := db }.goto c (.syncing ⟨.call p.target, db.stateRevision⟩))
  /-- The file is loaded and holds the revision already. -/
  | loadEqual {w : World Client} {c : Client} {job : Job} {record : WorkspaceRecord}
      (now version : Text) :
      w.phase c = .syncing job → loadWorkspace w.file = .ok record →
      planRevision now version record job.revision = .ok none →
      Step w (c, .load) (w.goto c (.synced job))
  | loadOlder {w : World Client} {c : Client} {job : Job} {record new : WorkspaceRecord}
      (now version : Text) :
      w.phase c = .syncing job → loadWorkspace w.file = .ok record →
      planRevision now version record job.revision = .ok (some new) →
      Step w (c, .load) (w.goto c (.writing job new))
  | loadNewer {w : World Client} {c : Client} {job : Job} {record : WorkspaceRecord} {e : DollError}
      (now version : Text) :
      w.phase c = .syncing job → loadWorkspace w.file = .ok record →
      planRevision now version record job.revision = .error e →
      Step w (c, .load) (w.goto c (job.failed e))
  | loadFailed {w : World Client} {c : Client} {job : Job} {e : DollError} :
      w.phase c = .syncing job → loadWorkspace w.file = .error e →
      Step w (c, .load) (w.goto c (job.failed e))
  | replace {w : World Client} {c : Client} {job : Job} {record : WorkspaceRecord} :
      w.phase c = .writing job record →
      Step w (c, .replace) ({ w with file := record }.goto c (.synced job))
  | reload {w : World Client} {c : Client} {job : Job} {record : WorkspaceRecord} :
      w.phase c = .synced job → loadWorkspace w.file = .ok record →
      Step w (c, .reload) (w.goto c (.reloaded job))
  | reloadFailed {w : World Client} {c : Client} {job : Job} {e : DollError} :
      w.phase c = .synced job → loadWorkspace w.file = .error e →
      Step w (c, .reload) (w.goto c (job.failed e))
  | readBack {w : World Client} {c : Client} {target : Written} {revision : Nat} :
      w.phase c = .reloaded ⟨.call target, revision⟩ →
      Step w (c, .readBack) (w.goto c (.finished (some target) true (target.readBack w.db)))
  | opened {w : World Client} {c : Client} {revision : Nat} :
      w.phase c = .reloaded ⟨.opening, revision⟩ → Step w (c, .readBack) (w.goto c .opened)
  | openLoad {w : World Client} {c : Client} {record : WorkspaceRecord} :
      (w.phase c).Resting → loadWorkspace w.file = .ok record →
      Step w (c, .openLoad) (w.goto c (.openLoaded record))
  | openLoadFailed {w : World Client} {c : Client} {e : DollError} :
      (w.phase c).Resting → loadWorkspace w.file = .error e →
      Step w (c, .openLoad) (w.goto c (.openFailed e))
  | identify {w : World Client} {c : Client} {record : WorkspaceRecord} {version revision : Nat} :
      w.phase c = .openLoaded record →
      validateDatabaseIdentity w.db record = .ok (version, revision) →
      Step w (c, .identify) (w.goto c (if version < currentSchemaVersion then
        .openMigrating record else openWith record revision))
  | identifyFailed {w : World Client} {c : Client} {record : WorkspaceRecord} {e : DollError} :
      w.phase c = .openLoaded record → validateDatabaseIdentity w.db record = .error e →
      Step w (c, .identify) (w.goto c (.openFailed e))
  | migrate {w : World Client} {c : Client} {record : WorkspaceRecord} (run : MigrationRun) :
      w.phase c = .openMigrating record → w.db.schemaVersion < currentSchemaVersion →
      Step w (c, .migrate) { w with db := w.db.migrate run }
  /-- With its migrations done, an open checks the identity of the database again. -/
  | migrated {w : World Client} {c : Client} {record : WorkspaceRecord} :
      w.phase c = .openMigrating record → currentSchemaVersion ≤ w.db.schemaVersion →
      Step w (c, .migrated) (w.goto c (.openLoaded record))
  | crash {w : World Client} {c : Client} : Step w (c, .crash) (w.goto c .idle)

/-! ## What a step leaves alone -/

/-- A step of one client leaves the others where they are. -/
theorem Step.phase_of_ne {w w' : World Client} {c d : Client} {a : Action}
    (h : Step w (c, a) w') (hd : d ≠ c) : w'.phase d = w.phase d := by
  cases h <;> first
    | exact World.goto_of_ne _ hd _
    | rfl

/-- Only replacing the file changes it. -/
theorem Step.file_eq {w w' : World Client} {c : Client} {a : Action} (h : Step w (c, a) w')
    (ha : a ≠ .replace) : w'.file = w.file := by
  cases h <;> first
    | rfl
    | exact absurd rfl ha

end DollState
