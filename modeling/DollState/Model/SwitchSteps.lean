import DollState.Model.ActiveScope
import DollState.Model.Switch

/-!
# The steps of a switch

What the manifest calls of a switch do to a database that nobody else writes: which transaction they
prepare, what it leaves, and the audit event it adds to the log.
-/

namespace DollState.Model

open Capability StateLib

section

variable [PythonLibrary] [ModuleRules]

/-! ## The log -/

/-- The audit event of a transaction, before its values are validated. -/
def Write.draft : Write → AuditDraft
  | .create _ draft => draft
  | .update _ _ _ _ _ draft => draft
  | .activate _ _ _ _ _ _ _ draft => draft
  | .rollback _ _ _ _ _ draft => draft

/-- The log has grown by the event of the draft. -/
def Logged (draft : AuditDraft) (db db' : Database) : Prop :=
  ∃ event, db'.auditEvents.rows = db.auditEvents.rows ++ [event] ∧
    ModuleRules.auditToken "action" draft.action.toList 120 = .ok event.action

omit [PythonLibrary] in
theorem insertAudit_logged {draft : AuditDraft} {target : RecordId} {failed : DollError}
    {db db' : Database} (h : insertAudit draft target failed db = .ok db') : Logged draft db db' := by
  obtain ⟨_, -, h⟩ := bind_eq_ok.1 h
  obtain ⟨_, -, h⟩ := bind_eq_ok.1 h
  obtain ⟨action, haction, h⟩ := bind_eq_ok.1 h
  split at h
  · cases h
  · obtain ⟨events, hevents, rfl⟩ := Database.insertAuditEvent_eq_some.1 (orFail_eq_ok.1 h)
    exact ⟨_, Table.rows_insert? hevents, haction⟩

omit [PythonLibrary] [ModuleRules] in
theorem sqlUpdateRecord_auditEvents {id : RecordId} {metadata : Metadata}
    {provenance : RecordProvenance} {revision : Int} {now : Text} {db db' : Database}
    (h : sqlUpdateRecord id metadata provenance revision now db = .ok db') :
    db'.auditEvents = db.auditEvents := by
  obtain ⟨changed, hchanged, h⟩ := bind_eq_ok.1 h
  obtain ⟨-, h⟩ := check_bind_eq_ok.1 h
  obtain rfl := pure_eq_ok.1 h
  obtain ⟨_, -, -, rfl⟩ := Database.updateWhere_eq_some.1 (orFail_eq_ok.1 hchanged)
  rfl

omit [PythonLibrary] [ModuleRules] in
theorem demote_auditEvents {ctx : Context} {currentActive : Option RecordId} {db db' : Database}
    (h : demote ctx currentActive db = .ok db') : db'.auditEvents = db.auditEvents := by
  cases currentActive with
  | none =>
    obtain rfl := Except.ok.inj h
    rfl
  | some previousId =>
    obtain ⟨_, -, h⟩ := bind_eq_ok.1 h
    exact sqlUpdateRecord_auditEvents h

omit [PythonLibrary] in
/-- A transaction adds one event to the log. -/
theorem Write.logged {w : Write} {db db' : Database} (h : w.commit db = .ok db') :
    Logged w.draft db db' := by
  cases w with
  | create row draft =>
    obtain ⟨db₁, h₁, h⟩ := bind_eq_ok.1 h
    obtain ⟨db₂, h₂, h⟩ := bind_eq_ok.1 h
    obtain rfl := pure_eq_ok.1 h
    obtain ⟨_, -, rfl⟩ := Database.insertRecord_eq_some.1 (orFail_eq_ok.1 h₁)
    obtain ⟨event, hrows, haction⟩ := insertAudit_logged h₂
    exact ⟨event, hrows, haction⟩
  | update =>
    obtain ⟨_, -, h⟩ := bind_eq_ok.1 h
    obtain ⟨db₁, h₁, h⟩ := bind_eq_ok.1 h
    obtain ⟨db₂, h₂, h⟩ := bind_eq_ok.1 h
    obtain rfl := pure_eq_ok.1 h
    obtain ⟨event, hrows, haction⟩ := insertAudit_logged h₂
    rw [sqlUpdateRecord_auditEvents h₁] at hrows
    exact ⟨event, hrows, haction⟩
  | activate =>
    have h := catching_eq_ok.1 h
    obtain ⟨_, -, h⟩ := bind_eq_ok.1 h
    obtain ⟨db₁, h₁, h⟩ := bind_eq_ok.1 h
    obtain ⟨db₂, h₂, h⟩ := bind_eq_ok.1 h
    obtain ⟨db₃, h₃, h⟩ := bind_eq_ok.1 h
    obtain rfl := pure_eq_ok.1 h
    obtain ⟨event, hrows, haction⟩ := insertAudit_logged h₃
    rw [sqlUpdateRecord_auditEvents h₂, demote_auditEvents h₁] at hrows
    exact ⟨event, hrows, haction⟩
  | rollback =>
    obtain ⟨_, -, h⟩ := bind_eq_ok.1 h
    obtain ⟨_, -, h⟩ := bind_eq_ok.1 h
    obtain ⟨db₁, h₁, h⟩ := bind_eq_ok.1 h
    obtain ⟨db₂, h₂, h⟩ := bind_eq_ok.1 h
    obtain ⟨db₃, h₃, h⟩ := bind_eq_ok.1 h
    obtain rfl := pure_eq_ok.1 h
    obtain ⟨event, hrows, haction⟩ := insertAudit_logged h₃
    rw [sqlUpdateRecord_auditEvents h₂, sqlUpdateRecord_auditEvents h₁] at hrows
    exact ⟨event, hrows, haction⟩

/-! ## Manifest calls -/

/-- A call of the user that prepares the change of one record. -/
theorem prepareUpdate_on {ctx : Context} {id : RecordId} {revision : Int} {metadata : Metadata}
    {provenance : RecordProvenance} {caller : Caller} {action : String} {db : Database}
    {row : RecordEnvelope} (hwritable : ctx.readOnly = false) (hrow : db.find? id = some row) :
    (prepareUpdate ctx (uuidText id) revision metadata provenance caller action).on db =
      .ok (.update id revision metadata provenance ctx.now
        (auditDraft ctx caller caller.actorType action row.recordType
          [("revision", .int (revision + 1))])) := by
  have hget : (getRecordText (uuidText id)).run db.answer = .ok row :=
    (getRecordText_on _ db).2 ⟨id, rfl, hrow⟩
  rw [prepareUpdate, Reader.on, ReadProgram.run_bind, ReadProgram.run_lift, requireWrite,
    ensure_of hwritable, ok_bind, ReadProgram.run_bind, hget, ok_bind, Database.id_of_find? hrow]
  rfl

theorem setSmokeTest_on {ctx : Context} {id : RecordId} {revision : Int} {status : SmokeTestStatus}
    {operation : Option Text} {db : Database} {row : RecordEnvelope}
    (hwritable : ctx.readOnly = false) (hrow : db.find? id = some row)
    (htype : row.recordType = bindingType) :
    ∃ draft, (setSmokeTest ctx (uuidText id) revision status ⟨.user, operation⟩).on db =
      .ok (.update id revision (setAll row.metadata (smokeTested status)) .userConfirmed ctx.now
        draft) := by
  have hrequire : (requireRecord (uuidText id) bindingType).run db.answer = .ok row :=
    requireRecord_on.2 ⟨hrow, htype⟩
  apply Exists.intro
  rw [setSmokeTest, Reader.on, ReadProgram.run_bind, ReadProgram.run_lift, requireUser,
    ensure_of rfl, ok_bind, ReadProgram.run_bind, hrequire, ok_bind]
  exact prepareUpdate_on hwritable hrow

variable [CaseLibrary] [DigestLibrary]

/-- An activation of a binding that can be activated, in a scope with another active binding. -/
theorem activateBinding_on {ctx : Context} {id activeId : RecordId} {revision : Int}
    {operation : Option Text} {db : Database} {row active : RecordEnvelope} {c a : BindingContent}
    {runtime : RuntimeManifestInfo} {model : ModelManifestInfo} (hwritable : ctx.readOnly = false)
    (hrow : db.find? id = some row) (hc : IsBinding row c)
    (hstate : c.bindingState ∈ [BindingState.candidate, .fallback, .previous, .disabled])
    (hsmoke : c.smokeTestStatus = .passed)
    (hmanifests : (activationManifests c).on db = .ok (runtime, model))
    (hactive : IsActive db (c.scopeType, c.scopeKey) activeId) (ha : db.find? activeId = some active)
    (hac : IsBinding active a) (hne : id ≠ activeId) :
    ∃ draft, (activateBinding ctx (uuidText id) revision [] ⟨.user, operation⟩).on db =
      .ok (.activate ctx id revision runtime.envelope.revision model.envelope.revision []
        (some activeId) draft) := by
  have hget : (getBinding (uuidText id)).run db.answer = .ok ⟨.of row, c⟩ := hc.getBinding_on hrow
  have hexclude : some (uuidText activeId) ≠ some (uuidText id) := fun heq =>
    hne (uuidText_injective (Option.some.inj heq)).symm
  have hfind : (activeForScope c.scopeType c.scopeKey (some (uuidText id))).run db.answer =
      .ok (some ⟨.of active, a⟩) := hactive.activeForScope_on ha hac hexclude
  have hevidence : (evidenceIds []).run db.answer = .ok [] := rfl
  have hid : (Envelope.of row).id = id := Database.id_of_find? hrow
  have hactiveId : (Envelope.of active).id = activeId := Database.id_of_find? ha
  apply Exists.intro
  rw [activateBinding, Reader.on, ReadProgram.run_bind, ReadProgram.run_lift, requireUser,
    ensure_of rfl, ok_bind, ReadProgram.run_bind, hget, ok_bind, ReadProgram.run_bind,
    ReadProgram.run_lift, ensure_of hstate, ok_bind, ReadProgram.run_bind, ReadProgram.run_lift,
    ensure_of hsmoke, ok_bind, ReadProgram.run_bind,
    show (activationManifests c).run db.answer = _ from hmanifests, ok_bind, ReadProgram.run_bind,
    hevidence, ok_bind, ReadProgram.run_bind, hfind, ok_bind, ReadProgram.run_bind,
    ReadProgram.run_lift, requireWrite, ensure_of hwritable, ok_bind, ReadProgram.run_pure, hid,
    Option.map_some, hactiveId]

end

end DollState.Model
