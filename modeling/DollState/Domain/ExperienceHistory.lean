import DollState.Domain.ExperienceService
import DollState.Domain.ProjectRecord
import DollState.Domain.WorkItemHistory

/-!
# Recorded experience over runs

An event is recorded once and never written again, but its reader checks the work item it is about as
it is now, and that work item its own links. So a later step on a project, a work item or a piece of
evidence can make the event unreadable. `history_kept` is about every run whose steps spare what the
recorded events are read with; `archiveGarden` is a run with a step that does not.
-/

namespace DollState.Experience

open StateLib

section

variable [PythonLibrary] [ModuleRules] {db db' : Database}

/-! ## The links of an event on one database -/

/-- An event of the sensitivity may link to the record. -/
def Discreet (sensitivity : RecordSensitivity) (r : RecordEnvelope) : Prop :=
  ¬ (r.sensitivity = .secret ∧ sensitivity ≠ .secret)

/-- The record is a work item of the project that can be read. -/
def ItemLink (db : Database) (sensitivity : RecordSensitivity) (projectId a : RecordId) : Prop :=
  ∃ r b, WorkItem.LinkedItem db a r b ∧ Discreet sensitivity r ∧ b.projectId = projectId

/-- The link checks of an event succeed. -/
structure Links (db : Database) (sensitivity : RecordSensitivity) (c : ExperienceContent) : Prop where
  project : db.Has c.projectId fun r => r.recordType = "project" ∧ Discreet sensitivity r ∧
    ∃ content, Project.readProject r = .ok content
  workItem : ∀ a ∈ c.workItemId, ItemLink db sensitivity c.projectId a
  evidence : ∀ id ∈ c.evidenceIds, db.Has id fun r =>
    r.recordType = "evidence" ∧ Discreet sensitivity r ∧ ModuleRules.isEvidence r = true
  related : ∀ id ∈ c.relatedRecordIds, db.Has id (Discreet sensitivity)
  sources : ∀ id ∈ c.sourceIds, db.Has id (Discreet sensitivity)
  supersedes : ∀ id ∈ c.supersedesId, db.Has id fun r => Discreet sensitivity r ∧
    r.recordType = "project_experience" ∧
      ∃ prior, readExperience r = .ok prior ∧ prior.projectId = c.projectId

omit [PythonLibrary] [ModuleRules] in
theorem linkedRecord_on {missing : String} {id : RecordId} {r : RecordEnvelope} :
    (linkedRecord missing id).on db = .ok r ↔ db.find? id = some r := by
  simp only [linkedRecord, Reader.on, ReadProgram.run_catching, catching_eq_ok, getRecord_on,
    Database.getRecord_eq_ok]

omit [PythonLibrary] [ModuleRules] in
theorem rejectSecretLink_eq_ok {r : RecordEnvelope} {sensitivity : RecordSensitivity}
    {label : String} {u : Unit} : rejectSecretLink r sensitivity label = .ok u ↔
      Discreet sensitivity r := ensure_eq_ok

omit [ModuleRules] in
theorem projectFromRecord_eq_ok {r : RecordEnvelope} :
    (∃ info, Project.projectFromRecord r = .ok info) ↔
      ∃ content, Project.readProject r = .ok content := by
  simp only [Project.projectFromRecord, catching_eq_ok, bind_eq_ok, pure_eq_ok]
  exact ⟨fun ⟨_, c, hc, _⟩ => ⟨c, hc⟩, fun ⟨c, hc⟩ => ⟨_, c, hc, rfl⟩⟩

omit [ModuleRules] in
theorem experienceFromRecord_eq_ok {r : RecordEnvelope} {info : ExperienceInfo} :
    experienceFromRecord r = .ok info ↔
      ∃ c, readExperience r = .ok c ∧ info = ExperienceInfo.ofRecord r c := by
  rw [experienceFromRecord, catching_eq_ok, bind_eq_ok]
  exact exists_congr fun c => and_congr_right fun _ => pure_eq_ok.trans eq_comm

theorem validateNewLinks_on (hwf : WorkItem.WellFormed db) {sensitivity : RecordSensitivity}
    {c : ExperienceContent} {u : Unit} :
    (validateNewLinks sensitivity c).on db = .ok u ↔ Links db sensitivity c := by
  have hproject : (validateProject sensitivity c.projectId).on db = .ok () ↔
      db.Has c.projectId fun r => r.recordType = "project" ∧ Discreet sensitivity r ∧
        ∃ content, Project.readProject r = .ok content := by
    simp only [validateProject, Reader.on, ReadProgram.run_bind, ReadProgram.run_lift, bind_eq_ok,
      ensure_eq_ok, rejectSecretLink_eq_ok, exists_const, ReadProgram.run_pure]
    refine exists_congr fun r => and_congr linkedRecord_on (and_congr_right fun _ =>
      and_congr_right fun _ => ?_)
    rw [← projectFromRecord_eq_ok]
    simp
  have hitem : ∀ a, (validateWorkItem c.projectId sensitivity a).on db = .ok () ↔
      ItemLink db sensitivity c.projectId a := by
    intro a
    simp only [validateWorkItem, Reader.on, ReadProgram.run_bind, ReadProgram.run_lift, bind_eq_ok,
      ensure_eq_ok, rejectSecretLink_eq_ok, exists_const]
    constructor
    · rintro ⟨r, hr, htype, hdiscreet, item, hitem, hproject⟩
      have hfind := linkedRecord_on.1 hr
      obtain ⟨b, hb⟩ := hwf a r hfind htype
      obtain ⟨hlinked, rfl⟩ := (WorkItem.workItemFromRecordLive_on hwf hb).1 hitem
      exact ⟨r, b, ⟨hfind, hb, Database.id_of_find? hfind ▸ hlinked⟩, hdiscreet, hproject⟩
    · rintro ⟨r, b, hb, hdiscreet, hproject⟩
      refine ⟨r, linkedRecord_on.2 hb.row, hb.encodes.recordType, hdiscreet, _,
        (WorkItem.workItemFromRecordLive_on hwf hb.encodes).2 ⟨?_, rfl⟩, hproject⟩
      exact (Database.id_of_find? hb.row).symm ▸ hb.linked
  have hevidence : ∀ id, (validateEvidence sensitivity id).on db = .ok () ↔ db.Has id fun r =>
      r.recordType = "evidence" ∧ Discreet sensitivity r ∧ ModuleRules.isEvidence r = true := by
    intro id
    simp only [validateEvidence, Reader.on, ReadProgram.run_bind, ReadProgram.run_lift, bind_eq_ok,
      ensure_eq_ok, rejectSecretLink_eq_ok, exists_const]
    exact exists_congr fun r => and_congr_left fun _ => linkedRecord_on
  have hgeneric : ∀ label id, (validateGenericLink label sensitivity id).on db = .ok () ↔
      db.Has id (Discreet sensitivity) := by
    intro label id
    simp only [validateGenericLink, Reader.on, ReadProgram.run_bind, ReadProgram.run_lift,
      bind_eq_ok, rejectSecretLink_eq_ok]
    exact exists_congr fun r => and_congr_left fun _ => linkedRecord_on
  have hsupersedes : ∀ id, (validateSupersedes c.projectId sensitivity id).on db = .ok () ↔
      db.Has id fun r => Discreet sensitivity r ∧ r.recordType = "project_experience" ∧
        ∃ prior, readExperience r = .ok prior ∧ prior.projectId = c.projectId := by
    intro id
    simp only [validateSupersedes, Reader.on, ReadProgram.run_bind, ReadProgram.run_lift,
      bind_eq_ok, ensure_eq_ok, rejectSecretLink_eq_ok, exists_const, experienceFromRecord_eq_ok]
    refine exists_congr fun r => and_congr linkedRecord_on (and_congr_right fun _ =>
      and_congr_right fun _ => ?_)
    constructor
    · rintro ⟨_, ⟨prior, hprior, rfl⟩, hsame⟩
      exact ⟨prior, hprior, hsame⟩
    · rintro ⟨prior, hprior, hsame⟩
      exact ⟨_, ⟨prior, hprior, rfl⟩, hsame⟩
  simp only [validateNewLinks, Reader.on, ReadProgram.run_bind, ReadProgram.run_forEach,
    check_bind_eq_ok, forEach_eq_ok]
  simp only [Reader.on] at hproject hitem hevidence hgeneric hsupersedes
  simp only [hproject, hitem, hevidence, hgeneric, hsupersedes, Option.mem_toList]
  constructor
  · rintro ⟨h₁, h₂, h₃, h₄, h₅, h₆⟩
    exact ⟨h₁, h₂, h₃, h₄, h₅, h₆⟩
  · rintro ⟨h₁, h₂, h₃, h₄, h₅, h₆⟩
    exact ⟨h₁, h₂, h₃, h₄, h₅, h₆⟩

theorem validateLinks_on (hwf : WorkItem.WellFormed db) {r : RecordEnvelope}
    {c : ExperienceContent} {u : Unit} : (validateLinks r c).on db = .ok u ↔
      Links db r.sensitivity c ∧ c.supersedesId ≠ some r.id := by
  rw [← validateNewLinks_on hwf (u := u)]
  simp only [validateLinks, validateNewLinks, Reader.on, ReadProgram.run_bind,
    ReadProgram.run_forEach, ReadProgram.run_lift, check_bind_eq_ok, ensure_eq_ok]
  constructor
  · rintro ⟨h₁, h₂, h₃, h₄, h₅, h₆, h₇⟩
    exact ⟨⟨h₁, h₂, h₃, h₄, h₅, h₇⟩, h₆⟩
  · rintro ⟨⟨h₁, h₂, h₃, h₄, h₅, h₇⟩, h₆⟩
    exact ⟨h₁, h₂, h₃, h₄, h₅, h₆, h₇⟩

theorem experienceFromRecordLive_on (hwf : WorkItem.WellFormed db) {r : RecordEnvelope}
    {info : ExperienceInfo} : (experienceFromRecordLive r).on db = .ok info ↔
      ∃ c, readExperience r = .ok c ∧ (Links db r.sensitivity c ∧ c.supersedesId ≠ some r.id) ∧
        info = ExperienceInfo.ofRecord r c := by
  simp only [experienceFromRecordLive, Reader.on, ReadProgram.run_catching, catching_eq_ok,
    ReadProgram.run_bind, ReadProgram.run_lift, bind_eq_ok, ReadProgram.run_pure]
  refine exists_congr fun c => and_congr_right fun _ => ?_
  constructor
  · rintro ⟨u, hlinks, hinfo⟩
    exact ⟨(validateLinks_on hwf).1 hlinks, (Except.ok.inj hinfo).symm⟩
  · rintro ⟨hlinks, rfl⟩
    exact ⟨(), (validateLinks_on hwf).2 hlinks, rfl⟩

theorem get_on {id : RecordId} {info : ExperienceInfo} : (get (uuidText id)).on db = .ok info ↔
    ∃ r, db.find? id = some r ∧ (experienceFromRecordLive r).on db = .ok info := by
  have hid : uuidOf "experience ID" (uuidText id) = .ok id := uuidField_eq_ok.2 (uuid_uuidText id)
  simp only [get, Reader.on, ReadProgram.run_bind, ReadProgram.run_lift, hid, ok_bind, bind_eq_ok]
  exact exists_congr fun r => and_congr_left fun _ => linkedRecord_on

/-! ## What the calls write -/

/-- A call writes an event whose links hold. -/
theorem Call.prepare_on (hwf : WorkItem.WellFormed db) {env : Surroundings} {call : Call} {w : Write}
    (h : (call.prepare env).on db = .ok w) :
    ∃ row c, w = .insert row ∧ Encodes row c ∧ Links db row.sensitivity c := by
  have hrecord : ∀ v, (Experience.record env v).on db = .ok w →
      ∃ row c, w = .insert row ∧ Encodes row c ∧ Links db row.sensitivity c := by
    intro v h
    simp only [Experience.record, Reader.on, ReadProgram.run_bind, ReadProgram.run_lift] at h
    obtain ⟨assertionState, hassertion, h⟩ := bind_eq_ok.1 h
    obtain ⟨-, h⟩ := check_bind_eq_ok.1 h
    obtain ⟨c, hc, h⟩ := bind_eq_ok.1 h
    obtain ⟨hlinks, h⟩ := check_bind_eq_ok.1 h
    obtain ⟨row, hrow, h⟩ := bind_eq_ok.1 h
    cases h
    obtain ⟨hok, -, hparsed⟩ := checkedValues_ok hc
    obtain rfl : assertionState = c.assertionState := Except.ok.inj (hassertion.symm.trans hparsed)
    obtain ⟨-, hrow⟩ := check_bind_eq_ok.1 hrow
    obtain ⟨-, hrow⟩ := check_bind_eq_ok.1 hrow
    obtain ⟨-, hrow⟩ := check_bind_eq_ok.1 hrow
    cases hrow
    exact ⟨_, c, rfl, ⟨rfl, rfl, rfl, rfl, rfl, rfl, hok⟩, (validateNewLinks_on hwf).1 hlinks⟩
  cases call with
  | record v => exact hrecord v h
  | correct experienceId v =>
    simp only [Call.prepare, Experience.correct, Reader.on, ReadProgram.run_bind] at h
    obtain ⟨prior, -, h⟩ := bind_eq_ok.1 h
    exact hrecord _ h

/-! ## Links while a row is put -/

omit [PythonLibrary] [ModuleRules] in
theorem Discreet.of_puts {row r : RecordEnvelope} {sensitivity : RecordSensitivity}
    (h : db.Puts row db') (hr : db.find? row.id = some r) (hdiscreet : Discreet sensitivity r) :
    Discreet sensitivity row := by
  rw [Discreet, ← h.sensitivity r hr]
  exact hdiscreet

/-- The links of an event hold after a row is put that can still be read in the place of the record
that they lead to. -/
theorem Links.of_puts {row : RecordEnvelope} {sensitivity : RecordSensitivity}
    {c : ExperienceContent} (hlinks : Links db sensitivity c) (h : db.Puts row db')
    (hproject : row.recordType = "project" → c.projectId = row.id →
      ∃ content, Project.readProject row = .ok content)
    (hevidence : row.recordType = "evidence" → ∀ r, db.find? row.id = some r →
      ModuleRules.isEvidence r = true → ModuleRules.isEvidence row = true)
    (hevent : row.recordType = "project_experience" → db.find? row.id = none)
    (hitem : ∀ a ∈ c.workItemId, ItemLink db sensitivity c.projectId a →
      ItemLink db' sensitivity c.projectId a) : Links db' sensitivity c where
  project := h.has (fun r hr hP hsame => by
    have htype := (h.recordType r hr).symm.trans hP.1
    exact ⟨htype, hP.2.1.of_puts h hr, hproject htype hsame⟩) hlinks.project
  workItem a ha := hitem a ha (hlinks.workItem a ha)
  evidence id hid := h.has (fun r hr hP _ => by
    have htype := (h.recordType r hr).symm.trans hP.1
    exact ⟨htype, hP.2.1.of_puts h hr, hevidence htype r hr hP.2.2⟩) (hlinks.evidence id hid)
  related id hid := h.has (fun r hr hP _ => hP.of_puts h hr) (hlinks.related id hid)
  sources id hid := h.has (fun r hr hP _ => hP.of_puts h hr) (hlinks.sources id hid)
  supersedes id hid := h.has (fun r hr hP _ => by
    have hfree := hevent ((h.recordType r hr).symm.trans hP.2.1)
    cases hfree.symm.trans hr) (hlinks.supersedes id hid)

/-- A work item is linked to as it was after a row of another type is put that serves it. -/
theorem ItemLink.of_puts {row : RecordEnvelope} {sensitivity : RecordSensitivity}
    {projectId a : RecordId} (hlink : ItemLink db sensitivity projectId a) (h : db.Puts row db')
    (htype : row.recordType ∉ ["work_item", "decision", "memory", "artifact", "policy"])
    (hserves : ∀ r b, WorkItem.LinkedItem db a r b → b.projectId = projectId →
      WorkItem.ServesReader db db' row b) : ItemLink db' sensitivity projectId a := by
  obtain ⟨r, b, hb, hdiscreet, hproject⟩ := hlink
  have hitem : row.recordType ≠ "work_item" := fun e => htype (e ▸ List.mem_cons_self)
  refine ⟨r, b, ⟨?_, hb.encodes, hb.linked.of_puts h htype (hserves r b hb hproject)⟩, hdiscreet,
    hproject⟩
  exact (WorkItem.find?_of_puts h hitem hb.encodes.recordType).2 hb.row

/-! ## The services together -/

/-- A writing call of one of the services. -/
inductive Service where
  | project (call : Project.Call)
  | workItem (call : WorkItem.Call)
  | evidence (call : Truth.Call)
  | experience (call : Call)

variable [CaseLibrary] [UtcLibrary] [Audit.AuditRules] [Truth.TruthRules]

/-- The call up to its transaction. -/
def Service.prepare (env : Surroundings) : Service → Reader Write
  | .project call => call.prepare env
  | .workItem call => call.prepare env
  | .evidence call => call.prepare env
  | .experience call => call.prepare env

/-- The call runs on the database and commits. -/
def Commits (db : Database) (call : Surroundings × Service) (db' : Database) : Prop :=
  ∃ w, (call.2.prepare call.1).on db = .ok w ∧ w.commit db = .ok db'

/-- The step has returned the event: it has recorded it and has read it back. -/
def Returned (t : Taken Database (Surroundings × Service)) (info : ExperienceInfo) : Prop :=
  ∃ call row, t.label.2 = .experience call ∧
    (call.prepare t.label.1).on t.pre = .ok (.insert row) ∧
    (experienceFromRecordLive row).on t.post = .ok info

/-- The clock of the call gives timestamps. -/
structure Timely (env : Surroundings) : Prop where
  now : IsUtc env.now
  calledAt : (Truth.validateOptionalUtc "reviewed time" (some env.calledAt)).isOk = true

/-- A recorded event is about the work item `a`, of the content `b`. -/
def IsAbout (db : Database) (a : RecordId) (b : WorkItem.WorkItemContent) : Prop :=
  ∃ id r c r', db.find? id = some r ∧ readExperience r = .ok c ∧ c.workItemId = some a ∧
    db.find? a = some r' ∧ WorkItem.readWorkItem r' = .ok b

/-- A recorded event is read with the project: it is the event's own, or that of a decision which the
work item of an event comes from. -/
def ReadsProject (db : Database) (x : RecordId) : Prop :=
  (∃ id r c, db.find? id = some r ∧ readExperience r = .ok c ∧ c.projectId = x) ∨
    ∃ a b, IsAbout db a b ∧ ∃ d ∈ b.sourceDecisionIds, ∃ r content, db.find? d = some r ∧
      Project.readDecision r = .ok content ∧ content.projectId = some x

/-- The call leaves alone what the recorded events are read with. It archives no project and no
evidence that the work item of an event names; it spares the work items of the events; and the clock
of a change to a project that an event is read with is not behind the creation of the project. -/
def Spares (db : Database) : Surroundings × Service → Prop
  | (env, .project call) =>
    (∀ x a b, call.ArchivesProject x → IsAbout db a b → x ≠ b.projectId ∧ x ∉ b.sourceIds) ∧
      ∀ x r, call.target? = some (uuidText x) → ReadsProject db x → db.find? x = some r →
        instant r.createdAt ≤ instant env.now
  | (_, .workItem call) => ∀ a b, IsAbout db a b → call.Spares db a b
  | (_, .evidence call) => ∀ x a b, call.Archives x → IsAbout db a b →
      x ∉ b.verificationEvidenceIds ∧ x ∉ b.sourceIds
  | (_, .experience _) => True

/-- Every recorded event can be read. -/
structure Kept (db : Database) : Prop where
  grounded : WorkItem.Grounded db
  noCycle : WorkItem.NoCycle db
  events : ∀ id r, db.find? id = some r → r.recordType = "project_experience" →
    ∃ c, Encodes r c ∧ Links db r.sensitivity c ∧ c.supersedesId ≠ some r.id

/-! ## One step -/

variable {row : RecordEnvelope}

/-- The types of records that a row may not have for the links to work items to be about it. -/
def foreignTypes : List String := ["work_item", "decision", "memory", "artifact", "policy"]

omit [CaseLibrary] [UtcLibrary] [Audit.AuditRules] [Truth.TruthRules] in
/-- The events can be read after a row is put that no work item is, if their links hold. -/
theorem Kept.of_puts (hkept : Kept db) (h : db.Puts row db') (htype : row.recordType ∉ foreignTypes)
    (hlinks : ∀ id r c, db.find? id = some r → Encodes r c → Links db r.sensitivity c →
      Links db' r.sensitivity c)
    (hevent : row.recordType = "project_experience" →
      ∃ c, Encodes row c ∧ Links db' row.sensitivity c ∧ c.supersedesId ≠ some row.id) :
    Kept db' := by
  have hitem : row.recordType ≠ "work_item" := fun e => htype (e ▸ List.mem_cons_self)
  refine ⟨hkept.grounded.of_puts h hitem, fun projectId => ?_, fun id r hr hrtype => ?_⟩
  · rw [WorkItem.dependencies_of_puts h hitem]
    exact hkept.noCycle projectId
  · by_cases hid : id = row.id
    · subst hid
      cases h.find?_self.symm.trans hr
      exact hevent hrtype
    · have hold := (h.find?_of_ne hid).symm.trans hr
      obtain ⟨c, hc, hl, hself⟩ := hkept.events id r hold hrtype
      exact ⟨c, hc, hlinks id r c hold hc hl, hself⟩

omit [ModuleRules] [CaseLibrary] [UtcLibrary] [Audit.AuditRules] [Truth.TruthRules] in
/-- The work item that an event is linked to is what the event is about. -/
theorem isAbout_of_item {id a : RecordId} {r r' : RecordEnvelope} {c : ExperienceContent}
    {b : WorkItem.WorkItemContent} (hr : db.find? id = some r) (hc : Encodes r c)
    (ha : a ∈ c.workItemId) (hrow : db.find? a = some r') (hb : WorkItem.Encodes r' b) :
    IsAbout db a b :=
  ⟨id, r, c, r', hr, readExperience_of_encodes hc, ha, hrow, WorkItem.readWorkItem_of_encodes hb⟩

omit [CaseLibrary] [Audit.AuditRules] [Truth.TruthRules] in
theorem Kept.project {env : Surroundings} {call : Project.Call} {w : Write} (hkept : Kept db)
    (htimely : Timely env) (hspares : Spares db (env, .project call))
    (h : (call.prepare env).on db = .ok w) (hcommit : w.commit db = .ok db') : Kept db' := by
  obtain ⟨row, hputs, htype, hchanged, hstatus⟩ := Project.Call.puts htimely.now h hcommit
  obtain ⟨harchives, hclock⟩ := hspares
  have hforeign : row.recordType ∉ foreignTypes := by rw [htype]; decide
  -- a project that an event is read with is there, so the call changes it
  have hreads : ReadsProject db row.id → (db.find? row.id).isSome →
      ∃ c, Project.readProject row = .ok c ∧ (row.status = .active → c.links.Hold db) := by
    intro hreads hsome
    obtain ⟨r, hr⟩ := Option.isSome_iff_exists.1 hsome
    obtain ⟨htarget, hread⟩ := hchanged r hr
    exact hread (hclock _ r htarget hreads hr)
  have hactive : ∀ a b, IsAbout db a b → row.id = b.projectId ∨ row.id ∈ b.sourceIds →
      row.status = .active := by
    intro a b habout hnamed
    refine hstatus.resolve_right fun harchived => ?_
    obtain ⟨h₁, h₂⟩ := harchives _ a b harchived habout
    exact hnamed.elim h₁ h₂
  refine hkept.of_puts hputs hforeign (fun id r c hr hc hl => ?_) fun hevent => by
    exact absurd (htype.symm.trans hevent) (by decide)
  refine hl.of_puts hputs (fun _ hsame => ?_) (fun he => ?_) (fun he => ?_) fun a ha hlink => ?_
  · obtain ⟨r', hr', -⟩ := hl.project
    obtain ⟨content, hread, -⟩ := hreads
      (.inl ⟨id, r, c, hr, readExperience_of_encodes hc, hsame⟩) (by rw [← hsame, hr']; rfl)
    exact ⟨content, hread⟩
  · exact absurd (htype.symm.trans he) (by decide)
  · exact absurd (htype.symm.trans he) (by decide)
  · refine hlink.of_puts hputs hforeign fun r' b hb hproject => ?_
    have habout := isAbout_of_item hr hc ha hb.row hb.encodes
    refine ⟨fun hsame hold => ?_, fun d hd hdecision => ?_, fun _ old hold hevidence => ?_,
      fun hmem => hactive a b habout (.inr hmem)⟩
    · obtain ⟨old, hr', -⟩ := hold
      obtain ⟨content, hread, hhold⟩ := hreads
        (.inl ⟨id, r, c, hr, readExperience_of_encodes hc, hproject.symm.trans hsame.symm⟩)
        (by rw [hsame, hr']; rfl)
      have hrow := hactive a b habout (.inl hsame)
      refine ⟨row, hsame ▸ hputs.find?_self, htype, hrow, content, hread, ?_⟩
      refine WorkItem.TypedLinks.hold_of_puts (hhold hrow) hputs (by rw [htype]; decide) ?_
      exact fun _ _ hmem => by cases hmem
    · refine hdecision.of_puts hputs (by rw [htype]; decide) fun r₁ content hr₁ hread hnames old hold _ => ?_
      obtain ⟨p, hp, -⟩ := hreads (.inr ⟨a, b, habout, d, hd, r₁, content, hr₁, hread, hnames⟩)
        (by rw [hold]; rfl)
      obtain ⟨info, hinfo⟩ := projectFromRecord_eq_ok.2 ⟨p, hp⟩
      rw [Project.isProject, hinfo, htype]
      rfl
    · have htype' := WorkItem.recordType_of_isActiveEvidence hevidence
      rw [hputs.recordType old hold, htype] at htype'
      exact absurd htype' (by decide)

theorem Kept.evidence {env : Surroundings} {call : Truth.Call} {w : Write} (hkept : Kept db)
    (hrule : ∀ r, ModuleRules.isEvidence r = true ↔ Truth.Readable r) (htimely : Timely env)
    (hspares : Spares db (env, .evidence call)) (h : (call.prepare env).on db = .ok w)
    (hcommit : w.commit db = .ok db') : Kept db' := by
  obtain ⟨row, hputs, htype, hreadable, hstatus⟩ := Truth.Call.puts htimely.calledAt h hcommit
  have hother : row.recordType ∉ "project" :: "project_experience" :: foreignTypes := by
    intro hmem
    have hdisjoint : ∀ t ∈ Truth.recordTypes, t ∉ "project" :: "project_experience" :: foreignTypes := by
      decide
    exact hdisjoint _ htype hmem
  have hproject : row.recordType ≠ "project" := fun e => hother (e ▸ List.mem_cons_self)
  have hevent : row.recordType ≠ "project_experience" := fun e =>
    hother (List.mem_cons_of_mem _ (e ▸ List.mem_cons_self))
  have hforeign : row.recordType ∉ foreignTypes := fun hmem =>
    hother (List.mem_cons_of_mem _ (List.mem_cons_of_mem _ hmem))
  have hlinkTypes : row.recordType ∉ ["decision", "memory", "artifact", "policy"] := fun hmem =>
    hforeign (List.mem_cons_of_mem _ hmem)
  have hactive : ∀ a b, IsAbout db a b →
      row.id ∈ b.verificationEvidenceIds ∨ row.id ∈ b.sourceIds → row.status = .active := by
    intro a b habout hnamed
    refine hstatus.resolve_right fun harchived => ?_
    obtain ⟨h₁, h₂⟩ := hspares _ a b harchived habout
    exact hnamed.elim h₁ h₂
  have hevidence : ∀ r, db.find? row.id = some r → ModuleRules.isEvidence r = true →
      ModuleRules.isEvidence row = true := fun r hr hP =>
    (hrule row).2 (hreadable r hr ((hrule r).1 hP))
  refine hkept.of_puts hputs hforeign (fun id r c hr hc hl => ?_) fun he => absurd he hevent
  refine hl.of_puts hputs (fun he => absurd he hproject) (fun _ => hevidence)
    (fun he => absurd he hevent) fun a ha hlink => ?_
  refine hlink.of_puts hputs hforeign fun r' b hb _ => ?_
  have habout := isAbout_of_item hr hc ha hb.row hb.encodes
  refine ⟨fun hsame hold => ?_, fun d _ hdecision => ?_, fun hmem old hold hP => ?_,
    fun hmem => hactive a b habout (.inr hmem)⟩
  · obtain ⟨old, hr', htype', -⟩ := hold
    exact absurd ((hputs.recordType old (hsame ▸ hr')).symm.trans htype') hproject
  · refine hdecision.of_puts hputs hlinkTypes fun _ _ _ _ _ old hold hP => ?_
    have htype' := Project.recordType_of_isProject hP
    exact absurd ((hputs.recordType old hold).symm.trans htype') hproject
  · have htype' := WorkItem.recordType_of_isActiveEvidence hP
    have hrow : row.recordType = "evidence" := (hputs.recordType old hold).symm.trans htype'
    have hread := hevidence old hold (Bool.and_eq_true_iff.1 hP).2
    rw [WorkItem.isActiveEvidence, hrow, hactive a b habout (.inl hmem), hread]
    rfl

omit [CaseLibrary] [UtcLibrary] [Audit.AuditRules] [Truth.TruthRules] in
/-- An event that is recorded leaves those that are there alone, and can be read itself. -/
theorem Kept.experience {env : Surroundings} {call : Call} {w : Write} (hkept : Kept db)
    (h : (call.prepare env).on db = .ok w) (hcommit : w.commit db = .ok db') :
    ∃ row c, w = .insert row ∧ db.Puts row db' ∧ db.find? row.id = none ∧ Encodes row c ∧
      Links db' row.sensitivity c ∧ c.supersedesId ≠ some row.id ∧ Kept db' := by
  obtain ⟨row, c, rfl, hc, hl⟩ := Call.prepare_on hkept.grounded.wellFormed h
  obtain ⟨db₁, hinsert, hend⟩ := bind_eq_ok.1 hcommit
  have hfree := Database.find?_none_of_insertRecord (orFail_eq_ok.1 hinsert)
  have hputs : db.Puts row db' := .of_created (fun id => by
    rw [← pure_eq_ok.1 hend, Database.find?_commitStateRevision,
      Database.find?_insertRecord (orFail_eq_ok.1 hinsert)]) hfree
  have hforeign : row.recordType ∉ foreignTypes := by rw [hc.recordType]; decide
  have hlinks : ∀ {s : RecordSensitivity} {d : ExperienceContent}, Links db s d → Links db' s d := by
    intro s d hd
    refine hd.of_puts hputs (fun he => ?_) (fun he => ?_) (fun _ => hfree) fun a _ hlink => ?_
    · exact absurd (hc.recordType.symm.trans he) (by decide)
    · exact absurd (hc.recordType.symm.trans he) (by decide)
    · refine hlink.of_puts hputs hforeign fun r b _ _ => ⟨fun hsame hold => ?_,
        fun d _ hdecision => ?_, fun _ old hold => ?_, fun _ => hc.status⟩
      · obtain ⟨old, hr, -⟩ := hold
        cases hfree.symm.trans (hsame ▸ hr)
      · refine hdecision.of_puts hputs (by rw [hc.recordType]; decide) fun _ _ _ _ _ old hold => ?_
        cases hfree.symm.trans hold
      · cases hfree.symm.trans hold
  have hself : c.supersedesId ≠ some row.id := by
    intro hsame
    obtain ⟨old, hold, -⟩ := hl.supersedes row.id hsame
    cases hfree.symm.trans hold
  refine ⟨row, c, rfl, hputs, hfree, hc, hlinks hl, hself, ?_⟩
  exact hkept.of_puts hputs hforeign (fun _ _ _ _ _ hd => hlinks hd) fun _ =>
    ⟨c, hc, hlinks hl, hself⟩

omit [CaseLibrary] [UtcLibrary] [Audit.AuditRules] [Truth.TruthRules] in
theorem Kept.workItem {env : Surroundings} {call : WorkItem.Call} (hkept : Kept db)
    (hspares : Spares db (env, .workItem call)) (h : WorkItem.Call.Commits db (env, call) db') :
    Kept db' := by
  have hwf := hkept.grounded.wellFormed
  obtain ⟨hground, hnone⟩ := h.keeps hkept.grounded hkept.noCycle
  obtain ⟨row, d, hput, hreplaces, -⟩ := h.puts hwf
  have hputs : db.Puts row db' := ⟨hput.writes, fun r hr =>
    (hreplaces.recordType r hr).trans hput.encodes.recordType.symm, hreplaces.sensitivity⟩
  have hrow := hput.encodes.recordType
  refine ⟨hground, hnone, fun id r hr htype => ?_⟩
  have hne : id ≠ row.id := by
    rintro rfl
    cases hput.find?_self.symm.trans hr
    exact absurd (hrow.symm.trans htype) (by decide)
  have hold := (hput.find?_of_ne hne).symm.trans hr
  obtain ⟨c, hc, hl, hself⟩ := hkept.events id r hold htype
  refine ⟨c, hc, ?_, hself⟩
  refine hl.of_puts hputs (fun he => ?_) (fun he => ?_) (fun he => ?_) fun a ha hlink => ?_
  · exact absurd (hrow.symm.trans he) (by decide)
  · exact absurd (hrow.symm.trans he) (by decide)
  · exact absurd (hrow.symm.trans he) (by decide)
  · obtain ⟨r', b, hb, hdiscreet, hproject⟩ := hlink
    have habout := isAbout_of_item hold hc ha hb.row hb.encodes
    obtain ⟨r₂, b₂, hb₂, hproject₂, hsensitivity⟩ := h.linked hkept.grounded hb (hspares a b habout)
    refine ⟨r₂, b₂, hb₂, ?_, hproject₂.trans hproject⟩
    rw [Discreet, hsensitivity]
    exact hdiscreet

/-- A step that spares the recorded events keeps them. -/
theorem Kept.step {call : Surroundings × Service} (hkept : Kept db)
    (hrule : ∀ r, ModuleRules.isEvidence r = true ↔ Truth.Readable r) (htimely : Timely call.1)
    (hspares : Spares db call) (h : Commits db call db') : Kept db' := by
  obtain ⟨env, service⟩ := call
  obtain ⟨w, hon, hcommit⟩ := h
  cases service with
  | project call => exact hkept.project htimely hspares hon hcommit
  | workItem call => exact hkept.workItem hspares ⟨w, hon, hcommit⟩
  | evidence call => exact hkept.evidence hrule htimely hspares hon hcommit
  | experience call =>
    obtain ⟨_, _, -, -, -, -, -, -, h⟩ := hkept.experience hon hcommit
    exact h

/-- A step puts one row in place, and an event only where there is none. -/
theorem Kept.puts {call : Surroundings × Service} (hkept : Kept db) (htimely : Timely call.1)
    (h : Commits db call db') :
    ∃ row, db.Puts row db' ∧ (row.recordType = "project_experience" → db.find? row.id = none) := by
  obtain ⟨env, service⟩ := call
  obtain ⟨w, hon, hcommit⟩ := h
  cases service with
  | project call =>
    obtain ⟨row, hputs, htype, -⟩ := Project.Call.puts htimely.now hon hcommit
    exact ⟨row, hputs, fun he => absurd (htype.symm.trans he) (by decide)⟩
  | workItem call =>
    have hcommits : WorkItem.Call.Commits db (env, call) db' := ⟨w, hon, hcommit⟩
    obtain ⟨row, d, hput, hreplaces, -⟩ := hcommits.puts hkept.grounded.wellFormed
    refine ⟨row, ⟨hput.writes, fun r hr =>
      (hreplaces.recordType r hr).trans hput.encodes.recordType.symm, hreplaces.sensitivity⟩, ?_⟩
    exact fun he => absurd (hput.encodes.recordType.symm.trans he) (by decide)
  | evidence call =>
    obtain ⟨row, hputs, htype, -⟩ := Truth.Call.puts htimely.calledAt hon hcommit
    exact ⟨row, hputs, fun he => absurd (he ▸ htype) (by decide)⟩
  | experience call =>
    obtain ⟨row, _, -, hputs, hfree, -⟩ := hkept.experience hon hcommit
    exact ⟨row, hputs, fun _ => hfree⟩

/-! ## Runs -/

variable {tr : List (Taken Database (Surroundings × Service))}

/-- Over a run whose steps spare the recorded events, each of them stays there, and can be read. -/
theorem Kept.run (hkept : Kept db) (hrule : ∀ r, ModuleRules.isEvidence r = true ↔ Truth.Readable r)
    (htimely : ∀ t ∈ tr, Timely t.label.1) (hspares : ∀ t ∈ tr, Spares t.pre t.label)
    (h : Run Commits db tr db') : Kept db' ∧ ∀ id r, db.find? id = some r →
      r.recordType = "project_experience" → db'.find? id = some r := by
  refine h.invariant_of_steps (I := fun s => Kept s ∧ ∀ id r, db.find? id = some r →
      r.recordType = "project_experience" → s.find? id = some r)
    (K := fun t => Timely t.label.1 ∧ Spares t.pre t.label) ⟨hkept, fun _ _ hr _ => hr⟩ ?_
    fun t ht => ⟨htimely t ht, hspares t ht⟩
  rintro s call s' ⟨hs, hrows⟩ hstep ⟨ht, hsp⟩
  refine ⟨hs.step hrule ht hsp hstep, fun id r hr htype => ?_⟩
  have hold := hrows id r hr htype
  obtain ⟨row, hputs, hfree⟩ := hs.puts ht hstep
  have hne : id ≠ row.id := by
    rintro rfl
    have hnone := hfree ((hputs.recordType r hold).symm.trans htype)
    cases hnone.symm.trans hold
  exact (hputs.find?_of_ne hne).trans hold

omit [CaseLibrary] [UtcLibrary] [Audit.AuditRules] [Truth.TruthRules] in
/-- Every event that is there can be read. -/
theorem Kept.get (hkept : Kept db) {id : RecordId} {r : RecordEnvelope} (hr : db.find? id = some r)
    (htype : r.recordType = "project_experience") {c : ExperienceContent}
    (hc : readExperience r = .ok c) :
    (Experience.get (uuidText id)).on db = .ok (ExperienceInfo.ofRecord r c) := by
  obtain ⟨c', hc', hl, hself⟩ := hkept.events id r hr htype
  obtain rfl : c = c' := Except.ok.inj (hc.symm.trans (readExperience_of_encodes hc'))
  exact get_on.2 ⟨r, hr,
    (experienceFromRecordLive_on hkept.grounded.wellFormed).2 ⟨c, hc, ⟨hl, hself⟩, rfl⟩⟩

omit [CaseLibrary] [UtcLibrary] [Audit.AuditRules] [Truth.TruthRules] in
theorem listFrom_on (hkept : Kept db) (projectId : Option RecordId) (includeArchived : Bool)
    (limit : Nat) (result : List ExperienceInfo) (rest : List RecordId)
    (hrest : ∀ id ∈ rest, db.Has id fun r => r.recordType = "project_experience") :
    ∃ items, (listFrom projectId includeArchived limit result rest).on db = .ok items := by
  induction rest generalizing result with
  | nil => exact ⟨result, rfl⟩
  | cons id rest ih =>
    obtain ⟨⟨r, hr, htype⟩, hrest⟩ := List.forall_mem_cons.1 hrest
    obtain ⟨c, hc, -⟩ := hkept.events id r hr htype
    have hget := hkept.get hr htype (readExperience_of_encodes hc)
    simp only [Reader.on] at hget
    simp only [listFrom, Reader.on, ReadProgram.run_bind, hget, ok_bind]
    split
    · exact ih result hrest
    · split
      · exact ⟨_, rfl⟩
      · exact ih _ hrest

omit [CaseLibrary] [UtcLibrary] [Audit.AuditRules] [Truth.TruthRules] in
/-- A list of events never fails for what has happened to the records that they link to. -/
theorem Kept.list (hkept : Kept db) {projectId : Option Text} {limit : Int} (includeArchived : Bool)
    (hlimit : 1 ≤ limit ∧ limit ≤ maxListLimit)
    (hproject : ∀ text ∈ projectId, (uuid text).isSome) :
    ∃ items, (Experience.list projectId includeArchived limit).on db = .ok items := by
  obtain ⟨safeId, hsafe⟩ : ∃ id, optionally (uuidOf "project ID") projectId = .ok id := by
    cases projectId with
    | none => exact ⟨none, rfl⟩
    | some text =>
      obtain ⟨id, hid⟩ := Option.isSome_iff_exists.1 (hproject text rfl)
      have hof : uuidOf "project ID" text = .ok id := uuidField_eq_ok.2 hid
      exact ⟨some id, by rw [optionally, hof]; rfl⟩
  obtain ⟨items, hitems⟩ := listFrom_on hkept safeId includeArchived limit.toNat []
    (db.answer (.createdIds "project_experience")) fun id hid => by
      obtain ⟨r, hr, rfl⟩ := List.mem_map.1 hid
      obtain ⟨hmem, htype⟩ := List.mem_filter.1 ((List.mem_insertionSort _).1 hr)
      exact ⟨r, Database.find?_eq_some.2 ⟨hmem, rfl⟩, by simpa using htype⟩
  refine ⟨items, ?_⟩
  simp only [Experience.list, Reader.on, ReadProgram.run_bind, ReadProgram.run_lift,
    ensure_of hlimit, hsafe, ok_bind]
  exact hitems

/-- In every run from a database without work items and events, whose steps spare the recorded
events: an event that has been returned is read unchanged at the end of the run, which is any later
state, and no list of events fails. -/
theorem history_kept {db₀ : Database}
    (hrule : ∀ r, ModuleRules.isEvidence r = true ↔ Truth.Readable r)
    (hnew : ∀ id r, db₀.find? id = some r → r.recordType ∉ ["work_item", "project_experience"])
    (h : Run Commits db₀ tr db) (htimely : ∀ t ∈ tr, Timely t.label.1)
    (hspares : ∀ t ∈ tr, Spares t.pre t.label) :
    (∀ t ∈ tr, ∀ info, Returned t info →
      (Experience.get (uuidText info.experienceId)).on db = .ok info) ∧
    ∀ projectId includeArchived limit, 1 ≤ limit ∧ limit ≤ maxListLimit →
      (∀ text ∈ projectId, (uuid text).isSome) →
      ∃ items, (Experience.list projectId includeArchived limit).on db = .ok items := by
  have hkept₀ : Kept db₀ := by
    have hitem : ∀ id r, db₀.find? id = some r → r.recordType ≠ "work_item" := fun id r hr he =>
      hnew id r hr (he ▸ List.mem_cons_self)
    refine ⟨⟨fun id r hr he => absurd he (hitem id r hr),
      fun id r c hr _ hc => absurd hc.recordType (hitem id r hr)⟩, fun projectId => ?_,
      fun id r hr he => absurd (by rw [he]; simp) (hnew id r hr)⟩
    intro id hcycle
    obtain ⟨_, hedge, -⟩ := Relation.TransGen.head'_iff.1 hcycle
    obtain ⟨⟨ids, hids, -⟩, -⟩ := Digraph.mem_edges.1 hedge
    obtain ⟨r, item, hr, htype, -⟩ := WorkItem.dependencies_eq_some.1 hids
    exact hitem id r hr htype
  obtain ⟨hkept, -⟩ := hkept₀.run hrule htimely hspares h
  refine ⟨fun t ht info hinfo => ?_, fun projectId includeArchived limit hlimit hproject =>
    hkept.list includeArchived hlimit hproject⟩
  obtain ⟨pre, post, rfl⟩ := List.append_of_mem ht
  obtain ⟨hbefore, hstep, hafter⟩ := h.split rfl
  simp only [List.forall_mem_append, List.forall_mem_cons] at htimely hspares
  obtain ⟨hkeptPre, -⟩ := hkept₀.run hrule htimely.1 hspares.1 hbefore
  obtain ⟨call, row, hcall, hon, hread⟩ := hinfo
  obtain ⟨w, hw, hcommit⟩ := hstep
  rw [hcall] at hw
  cases hw.symm.trans hon
  obtain ⟨_, c, ⟨⟩, hputs, -, hc, -, -, hkeptPost⟩ := hkeptPre.experience hon hcommit
  obtain ⟨c', hc', -, rfl⟩ := (experienceFromRecordLive_on hkeptPost.grounded.wellFormed).1 hread
  obtain ⟨-, hrows⟩ := hkeptPost.run hrule htimely.2.2 hspares.2.2 hafter
  exact hkept.get (hrows row.id row hputs.find?_self hc.recordType) hc.recordType hc'

end

section Runs

attribute [local instance] asciiLibrary asciiCase

@[reducible] def countedUtc : UtcLibrary where
  utcText value := some (writeTimestamp value.instant)

@[reducible] def silentAudit : Audit.AuditRules where
  isSecret _ := false
  unsafeMessage _ := none
  isSecretField _ := false
  isPrivateField _ := false
  sanitizeFreeText text _ := text

@[reducible] def acceptingTruth : Truth.TruthRules where
  accepts _ := true

attribute [local instance] countedUtc silentAudit acceptingTruth

/-- The module rules that read evidence as `trust` does. -/
@[reducible] def evidenceRules : ModuleRules :=
  { acceptingRules with isEvidence := fun r => (Truth.evidenceFromRecord r).isOk }

attribute [local instance] evidenceRules

/-- Create the task that gets the identifier 1. -/
def digging : Surroundings × Service :=
  ((WorkItem.createTask 0 "Dig").1, .workItem (WorkItem.createTask 0 "Dig").2)

/-- Record that it has been attempted. -/
def attempted : Surroundings × Service :=
  (surroundings 1, .experience (.record
    { projectId := uuidText 100, eventKind := "attempt".toList, summary := "Dug a bed".toList,
      occurredAt := "2026-01-01T00:00:00Z".toList, assertionState := "user_recorded".toList,
      actorType := .user, outcome := none, workItemId := some (uuidText 1), relatedRecordIds := [],
      evidenceIds := [], sourceIds := [], supersedesId := none, sensitivity := .personal }))

/-- Archive the project. -/
def closing : Surroundings × Service :=
  (surroundings 2, .project (.archive (uuidText 100) 1 ⟨none, .user⟩))

/-- Record an attempt at a task, and read it back. -/
def digGarden : Result (Write × RecordEnvelope × Database × Database × ExperienceInfo) := do
  let creating ← (digging.2.prepare digging.1).on Project.gardenDatabase
  let db₁ ← creating.commit Project.gardenDatabase
  let recording ← (attempted.2.prepare attempted.1).on db₁
  let db₂ ← recording.commit db₁
  match recording with
  | .insert row => do
    let info ← (experienceFromRecordLive row).on db₂
    return (creating, row, db₁, db₂, info)
  | _ => .error (.noRecord [])

/-- Then archive the project: the event cannot be read any more. -/
def archiveGarden : Result Unit := do
  let dug ← digGarden
  let db₂ := dug.2.2.2.1
  let archiving ← (closing.2.prepare closing.1).on db₂
  let db₃ ← archiving.commit db₂
  ensure (((get (uuidText dug.2.2.2.2.experienceId)).on db₃).isOk = false) (.noRecord [])

theorem archiveGarden_isOk : archiveGarden.isOk = true := by decide +kernel

theorem digGarden_run {creating : Write} {row : RecordEnvelope} {db₁ db₂ : Database}
    {info : ExperienceInfo} (h : digGarden = .ok (creating, row, db₁, db₂, info)) :
    Run Commits Project.gardenDatabase
        ([] ++ [⟨Project.gardenDatabase, digging, db₁⟩] ++ [⟨db₁, attempted, db₂⟩]) db₂ ∧
      Returned ⟨db₁, attempted, db₂⟩ info := by
  obtain ⟨creating, hcreating, h⟩ := bind_eq_ok.1 h
  obtain ⟨db₁, h₁, h⟩ := bind_eq_ok.1 h
  obtain ⟨recording, hrecording, h⟩ := bind_eq_ok.1 h
  obtain ⟨db₂, h₂, h⟩ := bind_eq_ok.1 h
  cases recording with
  | insert row =>
    obtain ⟨info, hinfo, h⟩ := bind_eq_ok.1 h
    cases h
    exact ⟨(Run.start.next ⟨_, hcreating, h₁⟩).next ⟨_, hrecording, h₂⟩,
      _, row, rfl, hrecording, hinfo⟩
  | _ => cases h

theorem gardenDatabase_isNew : ∀ id r, Project.gardenDatabase.find? id = some r →
    r.recordType ∉ ["work_item", "project_experience"] := by
  intro id r h
  have hmem : r ∈ [Project.gardenRecord 100] := (Database.find?_eq_some.1 h).1
  rw [List.mem_singleton.1 hmem]
  decide

theorem timely_surroundings (n : Nat) : Timely (surroundings n) where
  now := by
    change IsUtc "2026-01-01T00:00:00Z".toList
    rw [IsUtc]
    decide +kernel
  calledAt := by
    change (Truth.validateOptionalUtc _ (some "2026-01-01T00:00:00Z".toList)).isOk = true
    decide +kernel

/-- The rule applies to the run that records an attempt at a task. -/
theorem history_kept_digGarden :
    ∃ (db : Database) (tr : List (Taken Database (Surroundings × Service))) (info : ExperienceInfo),
      Run Commits Project.gardenDatabase tr db ∧ (∃ t ∈ tr, Returned t info) ∧
        (get (uuidText info.experienceId)).on db = .ok info := by
  obtain ⟨⟨creating, row, db₁, db₂, info⟩, hdug, -⟩ :=
    bind_eq_ok.1 (exists_of_isOk archiveGarden_isOk).choose_spec
  obtain ⟨hrun, hreturned⟩ := digGarden_run hdug
  refine ⟨db₂, _, info, hrun, ⟨_, List.mem_append_right _ (List.mem_singleton.2 rfl), hreturned⟩, ?_⟩
  refine (history_kept (fun _ => Iff.rfl) gardenDatabase_isNew hrun ?_ ?_).1 _
    (List.mem_append_right _ (List.mem_singleton.2 rfl)) info hreturned
  · simp only [List.nil_append, List.cons_append, List.forall_mem_cons]
    exact ⟨timely_surroundings 0, timely_surroundings 1, by simp⟩
  · simp only [List.nil_append, List.cons_append, List.forall_mem_cons]
    exact ⟨fun _ _ _ => trivial, trivial, by simp⟩

theorem not_history_kept : ¬ ∀ (db₀ db : Database)
      (tr : List (Taken Database (Surroundings × Service))),
    (∀ id r, db₀.find? id = some r → r.recordType ∉ ["work_item", "project_experience"]) →
    Run Commits db₀ tr db → (∀ t ∈ tr, Timely t.label.1) →
    ∀ t ∈ tr, ∀ info, Returned t info →
      (get (uuidText info.experienceId)).on db = .ok info := by
  intro hall
  obtain ⟨_, h⟩ := exists_of_isOk archiveGarden_isOk
  obtain ⟨⟨creating, row, db₁, db₂, info⟩, hdug, h⟩ := bind_eq_ok.1 h
  obtain ⟨archiving, harchiving, h⟩ := bind_eq_ok.1 h
  obtain ⟨db₃, h₃, h⟩ := bind_eq_ok.1 h
  obtain ⟨hrun, hreturned⟩ := digGarden_run hdug
  have hget := hall _ db₃ _ gardenDatabase_isNew (hrun.next ⟨archiving, harchiving, h₃⟩) (by
    simp only [List.nil_append, List.cons_append, List.forall_mem_cons]
    exact ⟨timely_surroundings 0, timely_surroundings 1, timely_surroundings 2, by simp⟩)
    ⟨db₁, attempted, db₂⟩ (by simp) info hreturned
  have hlost := ensure_eq_ok.1 h
  rw [hget] at hlost
  cases hlost

end Runs

end DollState.Experience
