import DollState.Domain.ProjectService
import DollState.Library.Moments
import DollState.Model.Service
import DollState.Settings.Service
import DollState.State.Reference

/-!
# The transactions of the services

`Transaction` is any of the transactions that the services run on the database. Each one that commits
leaves the workspace its identity and raises the state revision, or it changes nothing: a process that
finds the revision as it was has the database before it that it had (`Transaction.later`). Whatever the
processes read and however their steps fall, no two databases of one run share a revision
(`revision_determines`).
-/

namespace DollState

open StateLib

inductive Transaction where
  /-- of the records, the audit log, and the services of the domain -/
  | records (w : Write)
  /-- of the manifests and the bindings -/
  | manifests (w : Model.Write)
  /-- of the settings, the permissions and the policies -/
  | settings (w : Settings.Write)

/-- A later state of one workspace; at the same revision, the same state. -/
structure Database.Later (db db' : Database) : Prop where
  workspaceId : db'.workspaceId = db.workspaceId
  stateRevision : db.stateRevision ≤ db'.stateRevision
  unchanged : db.stateRevision = db'.stateRevision → db = db'

namespace Database

theorem Later.refl (db : Database) : db.Later db := ⟨rfl, le_refl _, fun _ => rfl⟩

theorem Later.trans {db₁ db₂ db₃ : Database} (h : db₁.Later db₂) (h' : db₂.Later db₃) : db₁.Later db₃ where
  workspaceId := h'.workspaceId.trans h.workspaceId
  stateRevision := h.stateRevision.trans h'.stateRevision
  unchanged hsame := by
    have hfirst := h.stateRevision
    have hsecond := h'.stateRevision
    rw [h.unchanged (by omega), h'.unchanged (by omega)]

/-- The metadata row is as it was. -/
structure SameRow (db db' : Database) : Prop where
  workspaceId : db'.workspaceId = db.workspaceId
  stateRevision : db'.stateRevision = db.stateRevision

theorem SameRow.refl (db : Database) : db.SameRow db := ⟨rfl, rfl⟩

theorem SameRow.trans {db₁ db₂ db₃ : Database} (h : db₁.SameRow db₂) (h' : db₂.SameRow db₃) :
    db₁.SameRow db₃ := ⟨h'.workspaceId.trans h.workspaceId, h'.stateRevision.trans h.stateRevision⟩

theorem sameRow_insertRecord {db db' : Database} {row : RecordEnvelope}
    (h : db.insertRecord row = some db') : db.SameRow db' := by
  obtain ⟨records, -, rfl⟩ := insertRecord_eq_some.1 h
  exact ⟨rfl, rfl⟩

theorem sameRow_updateWhere {db db' : Database} {id : RecordId} {cond : RecordEnvelope → Prop}
    [DecidablePred cond] {set : RecordEnvelope → RecordEnvelope} (h : db.updateWhere id cond set = some db') :
    db.SameRow db' := by
  obtain ⟨row, -, -, rfl⟩ := updateWhere_eq_some.1 h
  exact ⟨rfl, rfl⟩

theorem sameRow_insertAuditEvent {db db' : Database} {event : AuditEvent}
    (h : db.insertAuditEvent event = some db') : db.SameRow db' := by
  obtain ⟨events, -, rfl⟩ := insertAuditEvent_eq_some.1 h
  exact ⟨rfl, rfl⟩

/-- What a transaction leaves that has changed the tables before it raises the revision. -/
theorem SameRow.later {db db' : Database} (h : db.SameRow db') : db.Later db'.commitStateRevision where
  workspaceId := h.workspaceId
  stateRevision := h.stateRevision ▸ Nat.le_succ _
  unchanged hsame := by
    rw [stateRevision_commitStateRevision, h.stateRevision] at hsame
    omega

end Database

section

variable [ModuleRules]

theorem sameRow_insertAudit {draft : AuditDraft} {target : RecordId} {failed : DollError} {db db' : Database}
    (h : insertAudit draft target failed db = .ok db') : db.SameRow db' := by
  rw [insertAudit, bind_eq_ok] at h
  obtain ⟨_, -, h⟩ := h
  obtain ⟨_, -, h⟩ := bind_eq_ok.1 h
  obtain ⟨_, -, h⟩ := bind_eq_ok.1 h
  split at h
  · cases h
  · exact Database.sameRow_insertAuditEvent (orFail_eq_ok.1 h)

/-- An audit event, and the end of the transaction. -/
theorem later_of_insertAudit {draft : AuditDraft} {target : RecordId} {failed : DollError}
    {db db₁ db' : Database} (hbefore : db.SameRow db₁)
    (h : (do let db ← insertAudit draft target failed db₁; return db.commitStateRevision) = .ok db') :
    db.Later db' := by
  obtain ⟨db₂, haudit, h⟩ := bind_eq_ok.1 h
  rw [← pure_eq_ok.1 h]
  exact (hbefore.trans (sameRow_insertAudit haudit)).later

theorem Write.later {w : Write} {db db' : Database} (h : w.commit db = .ok db') : db.Later db' := by
  cases w with
  | insert row =>
    obtain ⟨db₁, hinsert, h⟩ := bind_eq_ok.1 h
    rw [← pure_eq_ok.1 h]
    exact (Database.sameRow_insertRecord (orFail_eq_ok.1 hinsert)).later
  | set u =>
    obtain ⟨db₁, hupdate, h⟩ := bind_eq_ok.1 h
    rw [← pure_eq_ok.1 h]
    exact (Database.sameRow_updateWhere (orFail_eq_ok.1 hupdate)).later
  | append event =>
    obtain ⟨db₁, hinsert, h⟩ := bind_eq_ok.1 h
    rw [← pure_eq_ok.1 h]
    exact (Database.sameRow_insertAuditEvent (orFail_eq_ok.1 hinsert)).later
  | create row draft failed =>
    obtain ⟨db₁, hinsert, h⟩ := bind_eq_ok.1 h
    exact later_of_insertAudit (Database.sameRow_insertRecord (orFail_eq_ok.1 hinsert)) h
  | change u draft errors =>
    obtain ⟨refreshed, -, h⟩ := bind_eq_ok.1 h
    obtain ⟨-, h⟩ := check_bind_eq_ok.1 h
    obtain ⟨-, h⟩ := check_bind_eq_ok.1 h
    obtain ⟨db₁, hupdate, h⟩ := bind_eq_ok.1 h
    exact later_of_insertAudit (Database.sameRow_updateWhere (orFail_eq_ok.1 hupdate)) h

namespace Model

omit [ModuleRules] in
theorem sameRow_sqlUpdateRecord {id : RecordId} {metadata : Metadata} {provenance : RecordProvenance}
    {expectedRevision : Int} {now : Text} {db db' : Database}
    (h : sqlUpdateRecord id metadata provenance expectedRevision now db = .ok db') : db.SameRow db' := by
  obtain ⟨db₁, hupdate, h⟩ := bind_eq_ok.1 h
  obtain ⟨-, h⟩ := check_bind_eq_ok.1 h
  rw [← pure_eq_ok.1 h]
  exact Database.sameRow_updateWhere (orFail_eq_ok.1 hupdate)

omit [ModuleRules] in
theorem sameRow_demote {ctx : Context} {currentActive : Option RecordId} {db db' : Database}
    (h : demote ctx currentActive db = .ok db') : db.SameRow db' := by
  cases currentActive with
  | none =>
    cases h
    exact .refl _
  | some previousId =>
    obtain ⟨previous, -, h⟩ := bind_eq_ok.1 h
    exact sameRow_sqlUpdateRecord h

theorem Write.later {w : Write} {db db' : Database} (h : w.commit db = .ok db') : db.Later db' := by
  cases w with
  | create row draft => exact DollState.Write.later (w := .create row draft _) h
  | update id expectedRevision metadata provenance now draft =>
    obtain ⟨_, -, h⟩ := bind_eq_ok.1 h
    obtain ⟨db₁, hupdate, h⟩ := bind_eq_ok.1 h
    exact later_of_insertAudit (sameRow_sqlUpdateRecord hupdate) h
  | activate ctx id expectedRevision runtimeRevision modelRevision evidence currentActive draft =>
    obtain ⟨row, -, h⟩ := bind_eq_ok.1 (catching_eq_ok.1 h)
    obtain ⟨db₁, hdemote, h⟩ := bind_eq_ok.1 h
    obtain ⟨db₂, hupdate, h⟩ := bind_eq_ok.1 h
    exact later_of_insertAudit ((sameRow_demote hdemote).trans (sameRow_sqlUpdateRecord hupdate)) h
  | rollback ctx id expectedRevision previousId reason draft =>
    obtain ⟨row, -, h⟩ := bind_eq_ok.1 h
    obtain ⟨previous, -, h⟩ := bind_eq_ok.1 h
    obtain ⟨db₁, hwithdrawn, h⟩ := bind_eq_ok.1 h
    obtain ⟨db₂, hrestored, h⟩ := bind_eq_ok.1 h
    exact later_of_insertAudit
      ((sameRow_sqlUpdateRecord hwithdrawn).trans (sameRow_sqlUpdateRecord hrestored)) h

end Model

variable [PythonLibrary] [CaseLibrary] [FloatLibrary]

theorem Settings.Write.later {w : Settings.Write} {db db' : Database} (h : w.commit db = .ok db') :
    db.Later db' := by
  cases w with
  | create row identity draft =>
    obtain ⟨-, h⟩ := check_bind_eq_ok.1 h
    obtain ⟨db₁, hinsert, h⟩ := bind_eq_ok.1 h
    exact later_of_insertAudit (Database.sameRow_insertRecord (orFail_eq_ok.1 hinsert)) h
  | update u draft =>
    obtain ⟨refreshed, -, h⟩ := bind_eq_ok.1 h
    obtain ⟨-, h⟩ := check_bind_eq_ok.1 h
    obtain ⟨db₁, hupdate, h⟩ := bind_eq_ok.1 h
    exact later_of_insertAudit (Database.sameRow_updateWhere (orFail_eq_ok.1 hupdate)) h
  | nothing =>
    cases h
    exact .refl _

/-- Run the transaction on the database it finds. -/
def Transaction.commit : Transaction → Database → Result Database
  | .records w => w.commit
  | .manifests w => w.commit
  | .settings w => w.commit

/-- Every transaction leads to a later state. -/
theorem Transaction.later {t : Transaction} {db db' : Database} (h : t.commit db = .ok db') :
    db.Later db' := by
  cases t with
  | records w => exact w.later h
  | manifests w => exact w.later h
  | settings w => exact w.later h

/-! ## Runs -/

variable {Q ι κ : Type} {A : Q → Type} [DecidableEq ι] {answer : Database → (q : Q) → A q}
  {prepare : κ → ReadProgram Q A DollError Transaction}

/-- In every run of any programs that end with a transaction, the database is the same at any two moments at
which its revision is. -/
theorem revision_determines {W₀ W : Clients.World Database ι Q A DollError Transaction κ}
    {tr : List (Taken (Clients.World Database ι Q A DollError Transaction κ) (ι × Clients.Action Transaction κ))}
    (hidle : ∀ i, W₀.client i = .idle) (h : Run (Clients.Step answer prepare Transaction.commit) W₀ tr W)
    {db db' : Database} (hdb : db ∈ Clients.states tr W.shared) (hdb' : db' ∈ Clients.states tr W.shared)
    (hrevision : db.stateRevision = db'.stateRevision) : db = db' := by
  have hadvances : Clients.Advances answer prepare Transaction.commit (fun _ => True) Database.Later :=
    fun _ _ _ _ _ _ _ _ _ hcommit => ⟨trivial, Transaction.later hcommit⟩
  obtain ⟨hpairwise, -⟩ := Clients.Run.forward Database.Later.refl Database.Later.trans hadvances trivial hidle h
  have hsame := hpairwise.imp fun hlater => hlater.unchanged
  have hsymm : Std.Symm fun s t : Database => s.stateRevision = t.stateRevision → s = t :=
    ⟨fun _ _ hst hts => (hst hts.symm).symm⟩
  exact hsame.forall_of_forall (fun _ _ _ => rfl) hdb hdb' hrevision

end

section Reference

attribute [local instance] asciiLibrary asciiCase acceptingRules fractionFloats

/-- A transaction that changes the records changes the revision. -/
theorem revision_determines_garden : ∃ db : Database,
    (Transaction.records (.insert (Project.gardenRecord 7))).commit Project.gardenDatabase = .ok db ∧
      Project.gardenDatabase.stateRevision ≠ db.stateRevision := by
  have hcount : ((Transaction.records (.insert (Project.gardenRecord 7))).commit
      Project.gardenDatabase).map (fun db => db.records.rows.length) = .ok 2 := by decide +kernel
  obtain ⟨db, hdb, hrows⟩ := map_eq_ok.1 hcount
  refine ⟨db, hdb, fun hrevision => ?_⟩
  let before : Clients.World Database ℕ StateQuery StateQuery.Answer DollError Transaction Transaction :=
    ⟨Project.gardenDatabase, fun _ => .idle⟩
  have hstart : Clients.Step Database.answer pure Transaction.commit before (0, .start _) _ :=
    .start (.records (.insert (Project.gardenRecord 7))) rfl
  have hrun := (Run.start.next hstart).next (.commit (Clients.World.goto_self _ _ _) hdb)
  have hsame : Project.gardenDatabase = db := revision_determines (fun _ => rfl) hrun List.mem_cons_self
    (List.mem_append_right _ (List.mem_singleton.2 rfl)) hrevision
  rw [← hsame] at hrows
  exact absurd hrows (by decide)

end Reference

end DollState
