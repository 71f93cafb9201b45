import DollState.Migration.Migrations

/-!
# Migrations advance by whole steps

`apply_migrations` stops after some of the migrations, each committed whole and in order, and the
database it leaves is the one they lead to, but for the row that records a failure
(`applyMigrations_wholeSteps`). A statement may do anything to the database, so this needs the
statements to leave the rows of `migration_history` alone: a statement that deletes its own running
row is not noticed (`not_wholeSteps_forgetful`).
-/

namespace DollState.Migrations

open StateLib

variable {τ : Type} (commitError : StateDatabase τ → Option Text) (draws : Int → Draws)

/-- The transactions of these migrations were committed one after the other, each starting from the
version that the one before it has advanced to. -/
inductive Committed : Nat → StateDatabase τ → List (Migration τ) → StateDatabase τ → Prop
  | nil (version : Nat) (db : StateDatabase τ) : Committed version db [] db
  | cons {version : Nat} {db db₁ db' : StateDatabase τ} {m : Migration τ} {ms : List (Migration τ)} :
      m.fromVersion = version → m.toVersion = version + 1 →
      migrationTransaction commitError (draws version) m db = .ok db₁ →
      Committed (version + 1) db₁ ms db' → Committed version db (m :: ms) db'

/-- A row of `migration_history` about a migration. -/
def IsRunOf (m : Migration τ) (status : String) (run : MigrationRun) : Prop :=
  run.migrationId = m.migrationId ∧ run.fromSchemaVersion = m.fromVersion ∧
    run.toSchemaVersion = m.toVersion ∧ run.status = status.toList

/-- What `apply_migrations` leaves, `completed` being the migrations that it has completed: started
at schema version `version`, it has raised or returned the current version; the version is advanced
by their number, their effects and nothing else are in the database, and the history has a row for
each of them and, of what has failed, a row for the next one only. -/
structure WholeSteps (migrations : List (Migration τ)) (db : StateDatabase τ) (version : Nat)
    (out : Result Int × StateDatabase τ) (completed : List (Migration τ)) : Prop where
  returned : ∀ v, out.1 = .ok v → v = currentSchemaVersion ∧ version + completed.length = v
  listed : ∀ m ∈ completed, m ∈ migrations
  stored : out.2.version? = some (version + completed.length)
  effects : ∃ db', Committed commitError draws version db completed db' ∧
    out.2.schemaMetadata = db'.schemaMetadata ∧ out.2.tables = db'.tables
  kept : ∀ run ∈ db.runs, run ∈ out.2.runs
  completedRows : ∀ m ∈ completed, ∃ run ∈ out.2.runs, IsRunOf m "completed" run
  failedRows : ∀ run ∈ out.2.runs, run.status = "failed".toList → run ∈ db.runs ∨
    (∃ e, out.1 = .error e) ∧ ∃ m ∈ migrations, m.fromVersion = version + completed.length ∧
      IsRunOf m "failed" run

/-- A statement that leaves the rows of `migration_history` as they are. -/
def KeepsHistory (statement : Statement τ) : Prop :=
  ∀ db db', statement db = .ok db' → db'.migrationHistory = db.migrationHistory

variable {commitError draws}

/-! ## The transaction of one migration -/

theorem StateDatabase.insertRun_eq_ok {run : MigrationRun} {db db' : StateDatabase τ} :
    db.insertRun run = .ok db' ↔ ∃ history history', db.migrationHistory = some history ∧
      history.insert? run = some history' ∧
      db' = { db with migrationHistory := some history' } := by
  simp only [insertRun, bind_eq_ok, orFail_eq_ok, pure_eq_ok, eq_comm (a := db')]
  constructor
  · rintro ⟨history, hhistory, history', hinsert, hdb⟩
    exact ⟨history, history', hhistory, hinsert, hdb⟩
  · rintro ⟨history, history', hhistory, hinsert, hdb⟩
    exact ⟨history, hhistory, history', hinsert, hdb⟩

/-- An inserted run is one more row, and nothing else changes. -/
theorem StateDatabase.insertRun_spec {run : MigrationRun} {db db' : StateDatabase τ}
    (h : db.insertRun run = .ok db') : db'.runs = db.runs ++ [run] ∧
      db'.schemaMetadata = db.schemaMetadata ∧ db'.tables = db.tables := by
  obtain ⟨history, history', hhistory, hinsert, rfl⟩ := insertRun_eq_ok.1 h
  refine ⟨?_, rfl, rfl⟩
  simp only [runs, hhistory, Option.map_some, Option.getD_some]
  exact Table.rows_insert? hinsert

/-- The version is advanced from the one it was found at. -/
theorem StateDatabase.advance_spec {fromVersion toVersion : Int} {now : Text}
    {db db' : StateDatabase τ} (h : db.advance fromVersion toVersion now = .ok db') :
    db'.version? = some toVersion.toNat ∧ db'.migrationHistory = db.migrationHistory := by
  rw [advance, bind_eq_ok] at h
  obtain ⟨row, -, h⟩ := h
  obtain ⟨row, -, h⟩ := bind_eq_ok.1 h
  obtain ⟨-, h⟩ := check_bind_eq_ok.1 h
  obtain ⟨-, h⟩ := check_bind_eq_ok.1 h
  rw [← pure_eq_ok.1 h]
  exact ⟨rfl, rfl⟩

/-- Completing the run that was inserted last. -/
theorem StateDatabase.completeRun_spec {id : RecordId} {now : Text} {db db' : StateDatabase τ}
    {history history' : Table RecordId MigrationRun MigrationRun.migrationRunId}
    {run : MigrationRun} (hid : run.migrationRunId = id)
    (hinsert : history.insert? run = some history') (hdb : db.migrationHistory = some history')
    (h : db.completeRun id now = .ok db') :
    db'.runs = history.rows ++ [{ run with completedAt := some now, status := "completed".toList }]
      ∧ db'.version? = db.version? := by
  have hfind : history'.find? id = some run := by
    rw [Table.find?_insert? hinsert, if_pos hid]
  rw [completeRun, hdb, orFail, ok_bind] at h
  simp only [hfind] at h
  rw [← pure_eq_ok.1 h]
  refine ⟨?_, rfl⟩
  have hrows : ∀ run' ∈ history.rows, run'.migrationRunId ≠ id := by
    rw [← hid]
    exact Table.find?_eq_none.1 (Table.find?_of_insert? hinsert)
  simp only [runs, Option.map_some, Option.getD_some, Table.replace, Table.rows_insert? hinsert,
    List.map_append, List.map_singleton, hid, if_true]
  congr 1
  conv_rhs => rw [← List.map_id history.rows]
  refine List.map_congr_left fun run' hrun' => ?_
  exact if_neg (hrows run' hrun')

/-- Statements that leave the history alone do so one after the other. -/
theorem history_foldlM {statements : List (Statement τ)} (h : ∀ s ∈ statements, KeepsHistory s)
    {db db' : StateDatabase τ} (hrun : statements.foldlM (fun db s => s db) db = .ok db') :
    db'.migrationHistory = db.migrationHistory := by
  refine foldlM_induction (fun _ db₁ => db₁.migrationHistory = db.migrationHistory) rfl ?_ hrun
  intro done s rest db₁ db₂ hl h₁ hs
  exact (h s (by rw [hl]; simp) _ _ hs).trans h₁

/-- A transaction that is committed advances the version and leaves one row, of a completed run. -/
theorem migrationTransaction_spec {d : Draws} {m : Migration τ} {db db' : StateDatabase τ}
    (hm : ∀ s ∈ m.statements, KeepsHistory s)
    (h : migrationTransaction commitError d m db = .ok db') :
    db'.version? = some m.toVersion.toNat ∧ db'.runs = db.runs ++ [m.completedRow d] := by
  rw [migrationTransaction, bind_eq_ok] at h
  obtain ⟨db₁, hinsert, h⟩ := h
  obtain ⟨db₂, hstatements, h⟩ := bind_eq_ok.1 h
  obtain ⟨db₃, hadvance, h⟩ := bind_eq_ok.1 h
  obtain ⟨db₄, hcomplete, h⟩ := bind_eq_ok.1 h
  have hdb' : db₄ = db' := by
    split at h
    · cases h
    · exact Except.ok.inj h
  subst hdb'
  obtain ⟨history, history', hhistory, hrow, rfl⟩ := StateDatabase.insertRun_eq_ok.1 hinsert
  obtain ⟨hversion, hkept⟩ := StateDatabase.advance_spec hadvance
  have hfound : db₃.migrationHistory = some history' := hkept.trans (history_foldlM hm hstatements)
  obtain ⟨hruns, hstill⟩ := StateDatabase.completeRun_spec rfl hrow hfound hcomplete
  refine ⟨hstill.trans hversion, ?_⟩
  rw [hruns, StateDatabase.runs, hhistory]
  rfl

/-- A failed migration leaves the database as it was, but for the row of the failure. -/
theorem applyMigration_error {d : Draws} {m : Migration τ} {db db' : StateDatabase τ}
    {e : DollError} (h : applyMigration commitError d m db = (.error e, db')) :
    db' = db ∨ ∃ errorClass, db.insertRun (m.failedRow d errorClass) = .ok db' := by
  unfold applyMigration at h
  split at h
  · cases h
  · split at h
    · rename_i hrow
      cases h
      exact .inr ⟨_, hrow⟩
    · cases h
      exact .inl rfl

theorem applyMigration_ok {d : Draws} {m : Migration τ} {db db' : StateDatabase τ} {u : Unit}
    (h : applyMigration commitError d m db = (.ok u, db')) :
    migrationTransaction commitError d m db = .ok db' := by
  unfold applyMigration at h
  split at h
  · rename_i hcommit
    cases h
    exact hcommit
  · split at h
    · cases h
    · cases h

/-! ## The loop -/

variable {migrations : List (Migration τ)} {db : StateDatabase τ} {version : Nat}

/-- Nothing was completed and nothing was recorded. -/
theorem WholeSteps.raised (hversion : db.version? = some version) (e : DollError) :
    WholeSteps commitError draws migrations db version (.error e, db) [] where
  returned v h := by cases h
  listed := by simp
  stored := hversion
  effects := ⟨db, .nil _ _, rfl, rfl⟩
  kept _ h := h
  completedRows := by simp
  failedRows _ h _ := .inl h

/-- The first migration failed. -/
theorem WholeSteps.failed {m : Migration τ} {d : Draws} {e : DollError} {db' : StateDatabase τ}
    (hversion : db.version? = some version) (hm : m ∈ migrations) (hfrom : m.fromVersion = version)
    (h : applyMigration commitError d m db = (.error e, db')) :
    WholeSteps commitError draws migrations db version (.error e, db') [] := by
  rcases applyMigration_error h with rfl | ⟨errorClass, hrow⟩
  · exact .raised hversion e
  obtain ⟨hruns, hmetadata, htables⟩ := StateDatabase.insertRun_spec hrow
  exact {
    returned := fun v h => by cases h
    listed := by simp
    stored := by
      show db'.version? = some version
      rw [← hversion, StateDatabase.version?, hmetadata]
      rfl
    effects := ⟨db, .nil _ _, hmetadata, htables⟩
    kept := fun run hrun => by
      show run ∈ db'.runs
      rw [hruns]
      exact List.mem_append_left _ hrun
    completedRows := by simp
    failedRows := fun run hrun _ => by
      change run ∈ db'.runs at hrun
      rw [hruns, List.mem_append, List.mem_singleton] at hrun
      refine hrun.imp id fun hrun => ⟨⟨e, rfl⟩, m, hm, by simpa using hfrom, ?_⟩
      rw [hrun]
      exact ⟨rfl, rfl, rfl, rfl⟩ }

/-- One migration was completed before the others. -/
theorem WholeSteps.cons {m : Migration τ} {db₁ : StateDatabase τ}
    {out : Result Int × StateDatabase τ} {completed : List (Migration τ)}
    (hm : m ∈ migrations) (hkeeps : ∀ s ∈ m.statements, KeepsHistory s)
    (hfrom : m.fromVersion = version) (hto : m.toVersion = version + 1)
    (hcommit : migrationTransaction commitError (draws version) m db = .ok db₁)
    (h : WholeSteps commitError draws migrations db₁ (version + 1) out completed) :
    WholeSteps commitError draws migrations db version out (m :: completed) := by
  obtain ⟨-, hruns⟩ := migrationTransaction_spec hkeeps hcommit
  have hlength : version + (m :: completed).length = version + 1 + completed.length := by
    rw [List.length_cons]
    omega
  have hrow : m.completedRow (draws version) ∈ db₁.runs := by simp [hruns]
  obtain ⟨db', hcommitted, hmetadata, htables⟩ := h.effects
  exact {
    returned := fun v hv => by
      obtain ⟨hcurrent, hv⟩ := h.returned v hv
      exact ⟨hcurrent, by push_cast [List.length_cons] at hv ⊢; omega⟩
    listed := List.forall_mem_cons.2 ⟨hm, h.listed⟩
    stored := by rw [hlength]; exact h.stored
    effects := ⟨db', .cons hfrom hto hcommit hcommitted, hmetadata, htables⟩
    kept := fun run hrun => h.kept run (by rw [hruns]; exact List.mem_append_left _ hrun)
    completedRows := List.forall_mem_cons.2
      ⟨⟨_, h.kept _ hrow, rfl, rfl, rfl, rfl⟩, h.completedRows⟩
    failedRows := fun run hrun hstatus => by
      rcases h.failedRows run hrun hstatus with hold | ⟨he, m', hm', hnext, hrun⟩
      · rw [hruns, List.mem_append, List.mem_singleton] at hold
        refine .inl (hold.resolve_right fun hrun => ?_)
        rw [hrun] at hstatus
        have hstatuses : "completed".toList ≠ "failed".toList := by decide
        exact hstatuses hstatus
      · refine .inr ⟨he, m', hm', ?_, hrun⟩
        push_cast [List.length_cons] at hnext ⊢
        omega }

/-- The loop completes migrations in order until it is done or one fails. -/
theorem applyPending_wholeSteps {byFromVersion : List (Migration τ)}
    (hlisted : ∀ m ∈ byFromVersion, m ∈ migrations)
    (hkeeps : ∀ m ∈ migrations, ∀ s ∈ m.statements, KeepsHistory s) {pending : Nat}
    (hpending : (version : Int) + pending = currentSchemaVersion)
    (hversion : db.version? = some version) :
    ∃ completed, WholeSteps commitError draws migrations db version
      (applyPending commitError draws byFromVersion pending version db) completed := by
  induction pending generalizing version db with
  | zero =>
    refine ⟨[], ?_, by simp, hversion, ⟨db, .nil _ _, rfl, rfl⟩, fun _ h => h, by simp,
      fun _ h _ => .inl h⟩
    intro v hv
    cases hv
    simpa using hpending
  | succ pending ih =>
    rw [applyPending]
    split
    · exact ⟨[], .raised hversion _⟩
    · rename_i m hfind
      have hm : m ∈ migrations := hlisted m (List.mem_of_find?_eq_some hfind)
      have hfrom : m.fromVersion = version := by simpa using List.find?_some hfind
      split
      · exact ⟨[], .raised hversion _⟩
      rename_i hto
      have hto : m.toVersion = version + 1 := not_not.1 hto
      split
      · exact ⟨[], .raised hversion _⟩
      split
      · rename_i e db' happly
        exact ⟨[], .failed hversion hm hfrom happly⟩
      · rename_i db₁ happly
        have hcommit := applyMigration_ok happly
        obtain ⟨hversion₁, -⟩ := migrationTransaction_spec (hkeeps m hm) hcommit
        have hnext : m.toVersion = ((version + 1 : Nat) : Int) := hto
        rw [hnext, Int.toNat_natCast] at hversion₁
        rw [hnext]
        have hpending : ((version + 1 : Nat) : Int) + pending = currentSchemaVersion := by
          push_cast at hpending ⊢
          omega
        obtain ⟨completed, hcompleted⟩ := ih hpending hversion₁
        exact ⟨m :: completed, .cons hm (hkeeps m hm) hfrom hto hcommit hcompleted⟩

/-- The index of the migrations holds them and no others. -/
theorem mem_of_indexMigrations {byFromVersion : List (Migration τ)}
    (h : indexMigrations migrations = .ok byFromVersion) : ∀ m ∈ byFromVersion, m ∈ migrations := by
  refine foldlM_induction (fun done index => ∀ m ∈ index, m ∈ done) (by simp) ?_ h
  intro done m rest index index' _ hindex hstep
  obtain ⟨-, hstep⟩ := check_bind_eq_ok.1 hstep
  obtain ⟨-, hstep⟩ := check_bind_eq_ok.1 hstep
  rw [← pure_eq_ok.1 hstep]
  intro m' hm'
  rcases List.mem_append.1 hm' with hm' | hm'
  · exact List.mem_append_left _ (hindex m' hm')
  · exact List.mem_append_right _ hm'

theorem exists_wholeSteps (hkeeps : ∀ m ∈ migrations, ∀ s ∈ m.statements, KeepsHistory s)
    (hversion : db.version? = some version) :
    ∃ completed, WholeSteps commitError draws migrations db version
      (applyMigrations commitError draws migrations db) completed := by
  unfold applyMigrations
  split
  · exact ⟨[], .raised hversion _⟩
  · exact ⟨[], .raised hversion _⟩
  · rename_i byFromVersion row hindex hrow
    have hstored : row.schemaVersion = version := by
      rw [metadataRow, bind_eq_ok] at hrow
      obtain ⟨row', hrow', hrow⟩ := hrow
      rw [orFail_eq_ok] at hrow' hrow
      rw [StateDatabase.version?, hrow', hrow] at hversion
      exact Option.some.inj hversion
    subst hstored
    dsimp only
    split
    · exact ⟨[], .raised hversion _⟩
    · rename_i hle
      refine applyPending_wholeSteps (mem_of_indexMigrations hindex) hkeeps ?_ hversion
      omega

/-- `apply_migrations` advances by whole steps, from whatever version it finds, and run again, with
whatever migrations, it goes on from the version it has left. -/
theorem applyMigrations_wholeSteps (commitError : StateDatabase τ → Option Text)
    (draws draws' : Int → Draws) (migrations migrations' : List (Migration τ))
    (db : StateDatabase τ) (version : Nat) (hversion : db.version? = some version)
    (hkeeps : ∀ m ∈ migrations, ∀ s ∈ m.statements, KeepsHistory s)
    (hkeeps' : ∀ m ∈ migrations', ∀ s ∈ m.statements, KeepsHistory s) :
    let out := applyMigrations commitError draws migrations db
    ∃ completed, WholeSteps commitError draws migrations db version out completed ∧
      ∃ completed', WholeSteps commitError draws' migrations' out.2 (version + completed.length)
        (applyMigrations commitError draws' migrations' out.2) completed' := by
  obtain ⟨completed, h⟩ : ∃ completed, WholeSteps commitError draws migrations db version
      (applyMigrations commitError draws migrations db) completed :=
    exists_wholeSteps hkeeps hversion
  exact ⟨completed, h, exists_wholeSteps hkeeps' h.stored⟩

theorem keepsHistory_create (name : String) (table : Option String) :
    KeepsHistory (create name table) := by
  intro db db' h
  unfold create at h
  split at h
  · cases h
  · split at h
    · cases h
      rfl
    · split at h
      · cases h
        rfl
      · cases h

/-- The repository's own migrations leave the history alone. -/
theorem keepsHistory_of_mem_MIGRATIONS :
    ∀ m ∈ MIGRATIONS, ∀ s ∈ m.statements, KeepsHistory s := by
  have hstatements : ∀ m ∈ MIGRATIONS, m.statements.Forall KeepsHistory := by
    refine List.forall_iff_forall_mem.1 ⟨?_, ?_, ?_⟩
    all_goals
      repeat' apply And.intro
      all_goals exact keepsHistory_create _ _
  exact fun m hm => List.forall_iff_forall_mem.1 (hstatements m hm)

/-- The runs of a test draw their identifiers from the version they start from. -/
def countedDraws (base : Int) (version : Int) : Draws :=
  ⟨BitVec.ofInt 128 (base + version), [], [], []⟩

/-- The second migration, the disk being full at its third statement. -/
def interrupted0002 : Migration (List String) :=
  { migration0002 with statements := migration0002.statements.take 2 ++
      [fun _ => .error "OperationalError".toList] }

theorem applyMigrations_wholeSteps_interrupted :
    let out := applyMigrations (fun _ => none) (countedDraws 0)
      [migration0001, interrupted0002, migration0003] (bootstrapped [])
    ∃ completed, WholeSteps (fun _ => none) (countedDraws 0)
        [migration0001, interrupted0002, migration0003] (bootstrapped []) 0 out completed ∧
      ∃ completed', WholeSteps (fun _ => none) (countedDraws 10) MIGRATIONS out.2
        (0 + completed.length) (applyMigrations (fun _ => none) (countedDraws 10) MIGRATIONS out.2)
        completed' := by
  refine applyMigrations_wholeSteps _ _ _ _ _ _ 0 rfl ?_ keepsHistory_of_mem_MIGRATIONS
  intro m hm s hs
  simp only [List.mem_cons, List.not_mem_nil, or_false] at hm
  rcases hm with rfl | rfl | rfl
  · exact keepsHistory_of_mem_MIGRATIONS _ (by simp [MIGRATIONS]) s hs
  · rcases List.mem_append.1 hs with hs | hs
    · exact keepsHistory_of_mem_MIGRATIONS migration0002 (by simp [MIGRATIONS]) s
        (List.mem_of_mem_take hs)
    · rw [List.mem_singleton.1 hs]
      exact fun db db' h => by cases h
  · exact keepsHistory_of_mem_MIGRATIONS _ (by simp [MIGRATIONS]) s hs

/-! ## A statement that writes to the history -/

/-- `DELETE FROM migration_history`. -/
def deleteHistory : Statement (List String) := fun db =>
  .ok { db with migrationHistory := db.migrationHistory.map fun _ => .empty }

/-- A migration that clears the history. -/
def forgetful : Migration (List String) := ⟨"0001-clear-history".toList, 0, 1, [deleteHistory]⟩

/-- Nothing notices that the row of the running migration is gone: the version is advanced and no
row says that the migration has completed. -/
theorem not_wholeSteps_forgetful :
    ¬ ∃ completed, WholeSteps (fun _ => none) (countedDraws 0) [forgetful] (bootstrapped []) 0
      (applyMigrations (fun _ => none) (countedDraws 0) [forgetful] (bootstrapped [])) completed := by
  rintro ⟨completed, h⟩
  have hlength : completed.length = 1 := by
    have hstored := h.stored
    rw [show (applyMigrations (fun _ => none) (countedDraws 0) [forgetful]
      (bootstrapped [])).2.version? = some 1 from rfl] at hstored
    have := Option.some.inj hstored
    omega
  obtain ⟨m, rfl⟩ := List.length_eq_one_iff.1 hlength
  obtain ⟨run, hrun, -⟩ := h.completedRows m (List.mem_singleton.2 rfl)
  have hnone : (applyMigrations (fun _ => none) (countedDraws 0) [forgetful]
      (bootstrapped [])).2.runs.isEmpty = true := by decide
  rw [List.isEmpty_iff.1 hnone] at hrun
  exact List.not_mem_nil hrun

end DollState.Migrations
