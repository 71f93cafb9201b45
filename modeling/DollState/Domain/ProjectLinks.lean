import DollState.Domain.Project

/-!
# The links of projects and decisions

What it takes for the live readers of projects and decisions to succeed on one database. All of it
is about records that are there, so a project stays readable while rows are added, or rows of other
types are changed.
-/

namespace DollState

open StateLib

/-- Every record of `db` whose type is not `recordType` is the same in `db'`. -/
def Database.KeepsOthers (db db' : Database) (recordType : String) : Prop :=
  ∀ id r, db.find? id = some r → r.recordType ≠ recordType → db'.find? id = some r

/-- A condition that excludes the type is still met by the same record. -/
theorem Database.KeepsOthers.has {db db' : Database} {recordType : String}
    (h : db.KeepsOthers db' recordType) {id : RecordId} {P : RecordEnvelope → Prop}
    (hP : ∀ r, P r → r.recordType ≠ recordType) (hhas : db.Has id P) : db'.Has id P := by
  obtain ⟨r, hr, hPr⟩ := hhas
  exact ⟨r, h id r hr (hP r hPr), hPr⟩

/-- Writing a row of a type, over none or over a row of that type, keeps the other types' rows. -/
theorem Database.Writes.keepsOthers {db db' : Database} {row : RecordEnvelope}
    (h : db.Writes row db')
    (hrow : ∀ r, db.find? row.id = some r → r.recordType = row.recordType) :
    db.KeepsOthers db' row.recordType := by
  intro id r hr htype
  rw [h id, if_neg, hr]
  rintro rfl
  exact htype (hrow r hr)

namespace Project

variable [PythonLibrary] [ModuleRules]

/-- Every link leads to a record that is accepted for it. -/
structure TypedLinks.Hold (db : Database) (links : TypedLinks) : Prop where
  project : ∀ id ∈ links.projectId.toList, db.Has id fun r => isProject r = true
  supersedes : ∀ id ∈ links.supersedesId.toList, db.Has id fun r => isDecision r = true
  decisions : ∀ id ∈ links.decisionIds, db.Has id fun r => isDecision r = true
  memories : ∀ id ∈ links.memoryIds, db.Has id fun r => isMemory r = true
  artifacts : ∀ id ∈ links.artifactIds, db.Has id fun r => isManagedArtifact r = true
  policies : ∀ id ∈ links.policyIds, db.Has id fun r => isActivePolicy r = true

theorem validateTypedLinks_on {links : TypedLinks} {db : Database} {u : Unit} :
    (validateTypedLinks links).on db = .ok u ↔ links.Hold db := by
  simp only [validateTypedLinks, Reader.on, ReadProgram.run_bind, ReadProgram.run_forEach,
    check_bind_eq_ok, forEach_eq_ok, linkTo_on]
  exact ⟨fun ⟨h₁, h₂, h₃, h₄, h₅, h₆⟩ => ⟨h₁, h₂, h₃, h₄, h₅, h₆⟩,
    fun ⟨h₁, h₂, h₃, h₄, h₅, h₆⟩ => ⟨h₁, h₂, h₃, h₄, h₅, h₆⟩⟩

theorem projectFromRecordLive_on {record : RecordEnvelope} {db : Database} {info : ProjectInfo} :
    (projectFromRecordLive record).on db = .ok info ↔
      ∃ content, readProject record = .ok content ∧ content.links.Hold db ∧
        info = ProjectInfo.ofRecord record content := by
  simp only [projectFromRecordLive, Reader.on, ReadProgram.run_catching, catching_eq_ok,
    ReadProgram.run_bind, ReadProgram.run_lift, bind_eq_ok, ReadProgram.run_pure]
  refine exists_congr fun content => and_congr_right fun _ => ?_
  constructor
  · rintro ⟨u, hlinks, hinfo⟩
    exact ⟨validateTypedLinks_on.1 hlinks, (Except.ok.inj hinfo).symm⟩
  · rintro ⟨hlinks, rfl⟩
    exact ⟨(), validateTypedLinks_on.2 hlinks, rfl⟩

theorem decisionFromRecordLive_on {record : RecordEnvelope} {db : Database}
    {info : DecisionInfo} :
    (decisionFromRecordLive record).on db = .ok info ↔
      ∃ content, readDecision record = .ok content ∧ content.links.Hold db ∧
        info = DecisionInfo.ofRecord record content := by
  simp only [decisionFromRecordLive, Reader.on, ReadProgram.run_catching, catching_eq_ok,
    ReadProgram.run_bind, ReadProgram.run_lift, bind_eq_ok, ReadProgram.run_pure]
  refine exists_congr fun content => and_congr_right fun _ => ?_
  constructor
  · rintro ⟨u, hlinks, hinfo⟩
    exact ⟨validateTypedLinks_on.1 hlinks, (Except.ok.inj hinfo).symm⟩
  · rintro ⟨hlinks, rfl⟩
    exact ⟨(), validateTypedLinks_on.2 hlinks, rfl⟩

/-! ## Links while other records change -/

omit [ModuleRules] in
theorem recordType_of_isProject {r : RecordEnvelope} (h : isProject r = true) :
    r.recordType = "project" := by
  simpa using (Bool.and_eq_true_iff.1 h).1

omit [ModuleRules] in
theorem recordType_of_isDecision {r : RecordEnvelope} (h : isDecision r = true) :
    r.recordType = "decision" := by
  simpa using (Bool.and_eq_true_iff.1 h).1

omit [PythonLibrary] in
theorem recordType_of_isMemory {r : RecordEnvelope} (h : isMemory r = true) :
    r.recordType = "memory" := by
  simpa using (Bool.and_eq_true_iff.1 h).1

omit [PythonLibrary] in
theorem recordType_of_isActivePolicy {r : RecordEnvelope} (h : isActivePolicy r = true) :
    r.recordType = "policy" := by
  simpa using (Bool.and_eq_true_iff.1 (Bool.and_eq_true_iff.1 h).1).1

theorem recordType_of_isManagedArtifact {r : RecordEnvelope} (h : isManagedArtifact r = true) :
    r.recordType = "artifact" := by
  obtain ⟨u, hu⟩ := exists_of_isOk (Bool.and_eq_true_iff.1 h).1
  rw [validateArtifactLinkEnvelope, check_bind_eq_ok, ensure_eq_ok] at hu
  exact hu.1

/-- Links do not depend on records of a type that no link leads to. -/
theorem TypedLinks.Hold.keep {db db' : Database} {links : TypedLinks} {recordType : String}
    (h : links.Hold db) (hkeep : db.KeepsOthers db' recordType)
    (htype : recordType ∉ ["project", "decision", "memory", "artifact", "policy"]) :
    links.Hold db' := by
  simp only [List.mem_cons, List.not_mem_nil, or_false, not_or] at htype
  obtain ⟨hproject, hdecision, hmemory, hartifact, hpolicy⟩ := htype
  exact {
    project := fun id hid => hkeep.has
      (fun r hr => recordType_of_isProject hr ▸ Ne.symm hproject) (h.project id hid)
    supersedes := fun id hid => hkeep.has
      (fun r hr => recordType_of_isDecision hr ▸ Ne.symm hdecision) (h.supersedes id hid)
    decisions := fun id hid => hkeep.has
      (fun r hr => recordType_of_isDecision hr ▸ Ne.symm hdecision) (h.decisions id hid)
    memories := fun id hid => hkeep.has
      (fun r hr => recordType_of_isMemory hr ▸ Ne.symm hmemory) (h.memories id hid)
    artifacts := fun id hid => hkeep.has
      (fun r hr => recordType_of_isManagedArtifact hr ▸ Ne.symm hartifact) (h.artifacts id hid)
    policies := fun id hid => hkeep.has
      (fun r hr => recordType_of_isActivePolicy hr ▸ Ne.symm hpolicy) (h.policies id hid) }

end Project

end DollState
