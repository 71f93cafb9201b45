import DollState.Sync.System

/-!
# The file never runs ahead of the database

The invariant of the system (`World.Ok`): the revision in `workspace.json`, and every revision a
client is about to write there, is at most the one in the database; the file and the database are
the same workspace's; and what a committed call has written is still there. It holds in every
reachable state, whatever the order of the steps and wherever clients crash (`World.Ok.run`).
-/

namespace DollState

open StateLib

variable {Client : Type}

/-- What a call has written is in the database. -/
def Written.Present (db : Database) : Written → Prop
  | .record id => (db.find? id).isSome
  | .event id => (db.auditEvents.find? id).isSome

theorem Written.Present.extends {db db' : Database} (h : db.Extends db') {target : Written}
    (ht : target.Present db) : target.Present db' := by
  cases target with
  | record id => exact h.records id ht
  | event id => exact h.auditEvents id ht

theorem Written.readBack_of_present {db : Database} {target : Written} (h : target.Present db) :
    target.readBack db = .ok () := by
  cases target with
  | record id =>
    obtain ⟨r, hr⟩ := Option.isSome_iff_exists.1 h
    rw [readBack, Database.getRecord_eq_ok.2 hr]
    rfl
  | event id =>
    obtain ⟨event, hevent⟩ := Option.isSome_iff_exists.1 h
    rw [readBack, orFail_eq_ok.2 hevent]
    rfl

/-- A transaction that, if it commits, keeps what is there, advances the revision by one and writes
its target. -/
def Pending.Sound (p : Pending) : Prop :=
  ∀ db db', p.transaction db = .ok db' →
    db.Extends db' ∧ db'.stateRevision = db.stateRevision + 1 ∧
      db'.schemaVersion = db.schemaVersion ∧ p.target.Present db'

/-! ## The transactions of the calls -/

theorem createRecordTransaction_sound (row : RecordEnvelope) :
    Pending.Sound ⟨createRecordTransaction row, .record row.id⟩ := by
  intro db db' h
  obtain ⟨db₁, hinsert, hcommit⟩ := bind_eq_ok.1 h
  rw [orFail_eq_ok] at hinsert
  obtain rfl := pure_eq_ok.1 hcommit
  refine ⟨(Database.extends_insertRecord hinsert).trans (Database.extends_commitStateRevision _),
    ?_, ?_, ?_⟩
  · obtain ⟨records, -, rfl⟩ := Database.insertRecord_eq_some.1 hinsert
    rfl
  · obtain ⟨records, -, rfl⟩ := Database.insertRecord_eq_some.1 hinsert
    rfl
  · show (db₁.find? row.id).isSome
    rw [Database.find?_insertRecord hinsert, if_pos rfl]
    rfl

theorem updateRecordTransaction_sound (u : RecordUpdate) :
    Pending.Sound ⟨updateRecordTransaction u, .record u.base.id⟩ := by
  intro db db' h
  obtain ⟨db₁, hupdate, hcommit⟩ := bind_eq_ok.1 h
  rw [orFail_eq_ok] at hupdate
  obtain rfl := pure_eq_ok.1 hcommit
  obtain ⟨hextends, hpresent⟩ := Database.extends_updateWhere (by intro; rfl) hupdate
  obtain ⟨row, -, -, rfl⟩ := Database.updateWhere_eq_some.1 hupdate
  exact ⟨hextends.trans (Database.extends_commitStateRevision _), rfl, rfl, hpresent⟩

theorem auditAppendTransaction_sound (event : AuditEvent) :
    Pending.Sound ⟨auditAppendTransaction event, .event event.eventId⟩ := by
  intro db db' h
  obtain ⟨db₁, hinsert, hcommit⟩ := bind_eq_ok.1 h
  rw [orFail_eq_ok] at hinsert
  obtain rfl := pure_eq_ok.1 hcommit
  refine ⟨(Database.extends_insertAuditEvent hinsert).trans
    (Database.extends_commitStateRevision _), ?_, ?_, ?_⟩
  all_goals obtain ⟨events, hevents, rfl⟩ := Database.insertAuditEvent_eq_some.1 hinsert
  · rfl
  · rfl
  · show (events.find? event.eventId).isSome
    rw [Table.find?_insert? hevents, if_pos rfl]
    rfl

/-- Whatever a call reads while it validates, the transaction it ends with is sound. -/
theorem RepositoryCall.prepare_sound [PythonLibrary] [ModuleRules] (call : RepositoryCall) :
    call.prepare.All (fun _ _ => True) Pending.Sound := by
  cases call with
  | createRecord env args =>
    exact .after _ fun row => .pure (createRecordTransaction_sound row)
  | updateRecord env args =>
    exact .after _ fun u => .pure (updateRecordTransaction_sound u)
  | appendAudit env args =>
    exact .after _ fun event => .pure (auditAppendTransaction_sound event)

/-! ## The invariant -/

/-- A committed call still finds what it wrote. -/
def Job.Present (job : Job) (db : Database) : Prop :=
  ∀ target, job.purpose = .call target → target.Present db

/-- What is known of a client by the phase it is in. -/
def World.PhaseOk (w : World Client) : Phase → Prop
  | .preparing p => p.All (fun _ _ => True) Pending.Sound
  | .syncing job => job.revision ≤ w.db.stateRevision ∧ job.Present w.db
  | .writing job record =>
    job.revision ≤ w.db.stateRevision ∧ job.Present w.db ∧
      record.stateRevision = job.revision ∧ record.schemaVersion ≤ 1 ∧
      record.workspaceId = w.db.workspaceId
  | .synced job | .reloaded job => job.Present w.db
  | .openLoaded record | .openMigrating record =>
    record.stateRevision ≤ w.db.stateRevision ∧ record.workspaceId = w.db.workspaceId
  | .openFailed e => e ≠ aheadError
  | .idle | .finished .. | .opened => True

/-- The invariant of the system. -/
structure World.Ok (w : World Client) : Prop where
  revision : w.file.stateRevision ≤ w.db.stateRevision
  fileSchema : w.file.schemaVersion ≤ 1
  workspaceId : w.file.workspaceId = w.db.workspaceId
  schema : w.db.schemaVersion ≤ currentSchemaVersion
  phase : ∀ c, w.PhaseOk (w.phase c)

theorem World.PhaseOk.extends {w w' : World Client} (h : w.db.Extends w'.db) {phase : Phase}
    (hp : w.PhaseOk phase) : w'.PhaseOk phase := by
  have hpresent : ∀ {job : Job}, job.Present w.db → job.Present w'.db :=
    fun hj target ht => (hj target ht).extends h
  cases phase with
  | syncing job => exact ⟨hp.1.trans h.stateRevision, hpresent hp.2⟩
  | writing job record =>
    obtain ⟨hle, hj, hrev, hschema, hid⟩ := hp
    exact ⟨hle.trans h.stateRevision, hpresent hj, hrev, hschema, hid.trans h.workspaceId.symm⟩
  | synced job => exact hpresent hp
  | reloaded job => exact hpresent hp
  | openLoaded record => exact ⟨hp.1.trans h.stateRevision, hp.2.trans h.workspaceId.symm⟩
  | openMigrating record => exact ⟨hp.1.trans h.stateRevision, hp.2.trans h.workspaceId.symm⟩
  | _ => exact hp

theorem World.Ok.known {w : World Client} (h : w.Ok) {c : Client} {phase : Phase}
    (hc : w.phase c = phase) : w.PhaseOk phase := hc ▸ h.phase c

/-- A client that moves without touching the database or the file keeps the invariant, if what is
known of its new phase holds. -/
theorem World.Ok.goto [DecidableEq Client] {w : World Client} (h : w.Ok) {c : Client} {phase : Phase}
    (hp : w.PhaseOk phase) : (w.goto c phase).Ok where
  revision := h.revision
  fileSchema := h.fileSchema
  workspaceId := h.workspaceId
  schema := h.schema
  phase d := by
    by_cases hd : d = c
    · subst hd
      rw [World.goto_self]
      exact hp.extends (.refl _)
    · rw [World.goto_of_ne _ hd]
      exact (h.phase d).extends (.refl _)

/-- Changing the database as transactions do keeps the invariant. -/
theorem World.Ok.setDb {w : World Client} (h : w.Ok) {db : Database} (hdb : w.db.Extends db)
    (hschema : db.schemaVersion ≤ currentSchemaVersion) : World.Ok { w with db := db } where
  revision := h.revision.trans hdb.stateRevision
  fileSchema := h.fileSchema
  workspaceId := h.workspaceId.trans hdb.workspaceId.symm
  schema := hschema
  phase d := World.PhaseOk.extends hdb (h.phase d)

theorem World.PhaseOk.failed {w : World Client} {job : Job} {e : DollError} (he : e ≠ aheadError) :
    w.PhaseOk (job.failed e) := by
  unfold Job.failed
  split
  · trivial
  · show _ ≠ aheadError
    split
    · decide
    · exact he

theorem World.PhaseOk.openWith {w : World Client} {record : WorkspaceRecord}
    (h : record.stateRevision ≤ w.db.stateRevision) :
    w.PhaseOk (DollState.openWith record w.db.stateRevision) := by
  have hopening : ∀ revision, (Job.mk .opening revision).Present w.db :=
    fun _ _ ht => by cases ht
  rw [DollState.openWith, if_neg (by omega)]
  split
  · exact ⟨le_refl _, hopening _⟩
  · exact hopening _

theorem planRevision_ne_ahead {now version : Text} {record : WorkspaceRecord} {revision : Nat}
    {e : DollError} (h : planRevision now version record revision = .error e) :
    e ≠ aheadError := by
  simp only [planRevision] at h
  split at h
  · cases h
    intro he
    cases he
  · split at h <;> cases h

theorem loadWorkspace_of_ok {w : World Client} (h : w.Ok) : loadWorkspace w.file = .ok w.file :=
  loadWorkspace_eq_ok.2 ⟨h.fileSchema, rfl⟩

theorem validateDatabaseIdentity_eq_ok {db : Database} {record : WorkspaceRecord}
    {version revision : Nat} :
    validateDatabaseIdentity db record = .ok (version, revision) ↔
      db.workspaceId = record.workspaceId ∧ db.schemaVersion ≤ currentSchemaVersion ∧
        version = db.schemaVersion ∧ revision = db.stateRevision := by
  rw [validateDatabaseIdentity, check_bind_eq_ok, ensure_eq_ok, check_bind_eq_ok, ensure_eq_ok,
    pure_eq_ok, Prod.mk.injEq, eq_comm (a := db.schemaVersion), eq_comm (a := db.stateRevision)]

theorem World.Ok.setFile {w : World Client} (h : w.Ok) {file : WorkspaceRecord}
    (hrev : file.stateRevision ≤ w.db.stateRevision) (hschema : file.schemaVersion ≤ 1)
    (hid : file.workspaceId = w.db.workspaceId) : World.Ok { w with file := file } where
  revision := hrev
  fileSchema := hschema
  workspaceId := hid
  schema := h.schema
  phase d := World.PhaseOk.extends (.refl w.db) (h.phase d)

theorem Database.extends_migrate (db : Database) (run : MigrationRun) :
    db.Extends (db.migrate run) :=
  ⟨rfl, le_refl _, fun _ h => h, fun _ h => h⟩

variable [DecidableEq Client] [PythonLibrary] [ModuleRules]

/-- Every step of every client keeps the invariant. -/
theorem World.Ok.step {w w' : World Client} {l : Client × Action} (h : w.Ok) (hs : Step w l w') :
    w'.Ok := by
  cases hs with
  | begin call => exact h.goto call.prepare_sound
  | read hphase =>
    have hask : ReadProgram.All _ _ _ := h.known hphase
    exact h.goto (ReadProgram.All.ask.1 hask _ trivial)
  | reject => exact h.goto trivial
  | rollback => exact h.goto trivial
  | commit hphase hcommit =>
    have hdone : ReadProgram.All _ _ _ := h.known hphase
    obtain ⟨hextends, hrev, hschema, hpresent⟩ := ReadProgram.All.done_ok.1 hdone _ _ hcommit
    refine (h.setDb hextends (hschema ▸ h.schema)).goto ⟨le_refl _, ?_⟩
    rintro target ⟨⟩
    exact hpresent
  | loadEqual now version hphase => exact h.goto (h.known hphase).2
  | loadOlder now version hphase hfile hplan =>
    obtain ⟨hle, hj⟩ := h.known hphase
    obtain ⟨-, rfl⟩ := loadWorkspace_eq_ok.1 hfile
    obtain ⟨-, rfl⟩ := planRevision_eq_some.1 hplan
    exact h.goto ⟨hle, hj, rfl, h.fileSchema, h.workspaceId⟩
  | loadNewer now version hphase hfile hplan => exact h.goto (.failed (planRevision_ne_ahead hplan))
  | loadFailed hphase hfile =>
    rw [loadWorkspace_of_ok h] at hfile
    cases hfile
  | replace hphase =>
    obtain ⟨hle, hj, hrev, hschema, hid⟩ := h.known hphase
    exact (h.setFile (hrev ▸ hle) hschema hid).goto hj
  | reload hphase =>
    have hpresent := h.known hphase
    exact h.goto hpresent
  | reloadFailed hphase hfile =>
    rw [loadWorkspace_of_ok h] at hfile
    cases hfile
  | readBack => exact h.goto trivial
  | opened => exact h.goto trivial
  | openLoad hrest hfile =>
    obtain ⟨-, rfl⟩ := loadWorkspace_eq_ok.1 hfile
    exact h.goto ⟨h.revision, h.workspaceId⟩
  | openLoadFailed hrest hfile =>
    rw [loadWorkspace_of_ok h] at hfile
    cases hfile
  | identify hphase hid =>
    obtain ⟨-, -, -, rfl⟩ := validateDatabaseIdentity_eq_ok.1 hid
    obtain ⟨hrev, hws⟩ := h.known hphase
    refine h.goto ?_
    split
    · exact ⟨hrev, hws⟩
    · exact .openWith hrev
  | identifyFailed hphase hid =>
    rw [validateDatabaseIdentity_eq_ok.2 ⟨(h.known hphase).2.symm, h.schema, rfl, rfl⟩] at hid
    cases hid
  | migrate run hphase hlt =>
    exact h.setDb (Database.extends_migrate _ _) (Nat.succ_le_of_lt hlt)
  | migrated hphase =>
    have hrecord := h.known hphase
    exact h.goto hrecord
  | crash => exact h.goto trivial

/-- The invariant holds after every run. -/
theorem World.Ok.run {w₀ w : World Client} {tr : List (Taken (World Client) (Client × Action))}
    (h₀ : w₀.Ok) (h : Run Step w₀ tr w) : w.Ok :=
  h.invariant h₀ fun _ _ _ => World.Ok.step

end DollState
