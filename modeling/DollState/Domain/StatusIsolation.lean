import DollState.Domain.CheckpointFreshness
import DollState.Domain.StatusErrors
import DollState.Library.Asked

/-!
# Whose records a status depends on

Two databases agree on a project when they hold the same row for it, for everything that is linked
to it and for what these link to. The statuses of the project on them are the same, up to the state
revision, exactly when the databases also agree on whether every record of the four types is
readable: the builder reads the records of all projects before it keeps those of one, and a single
record of another project that cannot be read is the end of every status.
-/

namespace DollState

open StateLib

namespace Status

/-! ## Reading every record of a type -/

section

variable {α : Type} {recordType : String} {get : Text → Reader α} {db db' : Database}

/-- The records of a type, by their identifiers. -/
def idsOf (recordType : String) (db : Database) : List RecordId :=
  db.idsWhere fun r => r.recordType = recordType

/-- Every record of the type is read. -/
def AllRead (recordType : String) (get : Text → Reader α) (db : Database) : Prop :=
  ∀ id ∈ idsOf recordType db, ∃ a, (get (uuidText id)).on db = .ok a

theorem mem_idsOf {id : RecordId} :
    id ∈ idsOf recordType db ↔ db.Has id fun r => r.recordType = recordType := by
  simp only [idsOf, Database.idsWhere, List.mem_insertionSort, List.mem_map, List.mem_filter,
    decide_eq_true_eq, Database.Has]
  constructor
  · rintro ⟨r, ⟨hr, htype⟩, rfl⟩
    exact ⟨r, Database.mem_iff_find?.1 hr, htype⟩
  · rintro ⟨r, hr, htype⟩
    obtain ⟨hmem, rfl⟩ := Database.find?_eq_some.1 hr
    exact ⟨r, ⟨hmem, htype⟩, rfl⟩

theorem sorted_idsOf : (idsOf recordType db).Pairwise fun a b => a.toNat < b.toNat := by
  have hsorted : (idsOf recordType db).Pairwise fun a b => a.toNat ≤ b.toNat :=
    List.pairwise_insertionSort _ _
  have hnodup : (idsOf recordType db).Nodup :=
    ((List.perm_insertionSort _ _).nodup_iff).2
      (db.records.nodup.sublist (List.filter_sublist.map _))
  refine hsorted.imp₂ (fun a b hle hne => lt_of_le_of_ne hle fun he => hne ?_) hnodup
  exact BitVec.eq_of_toNat_eq he

theorem scan_on : (scan recordType get).on db =
    (idsOf recordType db).mapM fun id => (get (uuidText id)).on db := by
  have hrun : (scan recordType get).on db =
      Reader.on (ReadProgram.collect (fun id => get (uuidText id)) (idsOf recordType db)) db := rfl
  rw [hrun, Reader.on, ReadProgram.run_collect]

/-- A scan returns exactly when every record is read, and fails as the reader of a record does. -/
theorem scan_cases (hraises : ∀ id r, db.find? id = some r → r.recordType = recordType →
      RaisesOnly Caught ((get (uuidText id)).on db)) :
    (AllRead recordType get db ∧ ∃ vs, (scan recordType get).on db = .ok vs) ∨
      (¬ AllRead recordType get db ∧ ∃ e, (scan recordType get).on db = .error e ∧ Caught e) := by
  rw [scan_on]
  cases hrun : (idsOf recordType db).mapM fun id => (get (uuidText id)).on db with
  | ok vs =>
    refine .inl ⟨fun id hid => ?_, vs, rfl⟩
    obtain ⟨v, -, hv⟩ := mapM_ok_of_mem hrun hid
    exact ⟨v, hv⟩
  | error e =>
    refine .inr ⟨fun hall => ?_, e, rfl, ?_⟩
    · obtain ⟨vs, hvs⟩ := exists_mapM_ok hall
      cases hrun.symm.trans hvs
    · refine RaisesOnly.mapM (fun id hid => ?_) e hrun
      obtain ⟨r, hr, htype⟩ := mem_idsOf.1 hid
      exact hraises id r hr htype

/-- What is kept of a record is the same on both databases: the record is in the other one as well,
and if it is read there, its value is the same. -/
def Keeps (recordType : String) (get : Text → Reader α) (mine : α → Bool) (db db' : Database) :
    Prop :=
  ∀ id r v, db.find? id = some r → r.recordType = recordType →
    (get (uuidText id)).on db = .ok v → mine v = true →
      db'.find? id = some r ∧ ∀ v', (get (uuidText id)).on db' = .ok v' → v' = v

/-- The values are those of the records that their keys name. -/
def Named (recordType : String) (get : Text → Reader α) (key : α → RecordId) : Prop :=
  ∀ db id r v, db.find? id = some r → r.recordType = recordType →
    (get (uuidText id)).on db = .ok v → key v = id

theorem sorted_scan {key : α → RecordId} {vs : List α} (hnamed : Named recordType get key)
    (hvs : (scan recordType get).on db = .ok vs) :
    vs.Pairwise fun v w => (key v).toNat < (key w).toNat := by
  rw [scan_on] at hvs
  have hkeys : vs.map key = (idsOf recordType db).map id := map_of_mapM hvs fun id hid v hv => by
    obtain ⟨r, hr, htype⟩ := mem_idsOf.1 hid
    exact hnamed db id r v hr htype hv
  have hsorted : ((vs.map key).Pairwise fun a b => a.toNat < b.toNat) := by
    rw [hkeys, List.map_id]
    exact sorted_idsOf
  exact (List.pairwise_map (R := fun a b : RecordId => a.toNat < b.toNat)).1 hsorted

theorem mem_scan_of_keeps {mine : α → Bool} {vs vs' : List α}
    (hkeeps : Keeps recordType get mine db db') (hvs : (scan recordType get).on db = .ok vs)
    (hvs' : (scan recordType get).on db' = .ok vs') {v : α} (hv : v ∈ vs.filter mine) :
    v ∈ vs'.filter mine := by
  rw [scan_on] at hvs hvs'
  obtain ⟨hmem, hmine⟩ := List.mem_filter.1 hv
  obtain ⟨id, hid, hget⟩ := exists_of_mem_mapM hvs hmem
  obtain ⟨r, hr, htype⟩ := mem_idsOf.1 hid
  obtain ⟨hr', hvalue⟩ := hkeeps id r v hr htype hget hmine
  obtain ⟨v', hv', hget'⟩ := mapM_ok_of_mem hvs' (mem_idsOf.2 ⟨r, hr', htype⟩)
  exact List.mem_filter.2 ⟨hvalue v' hget' ▸ hv', hmine⟩

/-- Two scans keep the same, in the same order. -/
theorem filter_scan_eq {mine : α → Bool} {key : α → RecordId} {vs vs' : List α}
    (hnamed : Named recordType get key)
    (hkeeps : Keeps recordType get mine db db') (hkeeps' : Keeps recordType get mine db' db)
    (hvs : (scan recordType get).on db = .ok vs) (hvs' : (scan recordType get).on db' = .ok vs') :
    vs.filter mine = vs'.filter mine := by
  have hanti : Std.Antisymm fun v w : α => (key v).toNat < (key w).toNat :=
    ⟨fun _ _ h h' => absurd h (lt_asymm h')⟩
  have hirrefl : Std.Irrefl fun v w : α => (key v).toNat < (key w).toNat := ⟨fun _ => lt_irrefl _⟩
  exact ((sorted_scan hnamed hvs).filter mine).eq_of_mem_iff ((sorted_scan hnamed hvs').filter mine)
    fun v => ⟨mem_scan_of_keeps hkeeps hvs hvs', mem_scan_of_keeps hkeeps' hvs' hvs⟩

end

section

variable [PythonLibrary] [ModuleRules]

/-! ## Agreement -/

/-- What a project links to. -/
def projectLinks (c : Project.ProjectContent) : List RecordId :=
  c.decisionIds ++ (c.memoryIds ++ (c.artifactIds ++ c.links.policyIds))

/-- The record is a work item, a checkpoint, a decision or a procedure of the project, with these
links. -/
inductive Linked (projectId : RecordId) (r : RecordEnvelope) : List RecordId → Prop
  | workItem {c : WorkItem.WorkItemContent} (hc : WorkItem.readWorkItem r = .ok c)
      (hproject : c.projectId = projectId) : Linked projectId r
        (c.dependsOnIds ++ c.blockedByIds ++ c.verificationEvidenceIds ++ c.sourceDecisionIds ++
          c.artifactIds ++ c.sourceIds)
  | checkpoint {c : Checkpoint.CheckpointContent} (hc : Checkpoint.readCheckpoint r = .ok c)
      (hproject : c.projectId = projectId) : Linked projectId r c.basis
  | decision {c : Project.DecisionContent} (hc : Project.readDecision r = .ok c)
      (hproject : c.projectId = some projectId) : Linked projectId r
        (c.supersedesId.toList ++ c.memoryIds ++ c.artifactIds)
  | procedure {c : Procedure.ProcedureContent} (hc : Procedure.readProcedure r = .ok c)
      (hproject : c.projectId = projectId) : Linked projectId r
        (c.sourceIds ++ c.verificationEvidenceIds ++ c.supersedesId.toList ++
          c.supersededById.toList)

/-- The databases hold the same row, or both none. -/
def Alike (db db' : Database) (id : RecordId) : Prop := db'.find? id = db.find? id

/-- The databases agree on the project, on every record linked to it in either of them and on what
these link to. -/
structure AgreeOn (projectId : RecordId) (db db' : Database) : Prop where
  project : Alike db db' projectId
  projectLinks : ∀ r c, db.find? projectId = some r → Project.readProject r = .ok c →
    ∀ id ∈ projectLinks c, Alike db db' id
  linked : ∀ id r ids, db.find? id = some r ∨ db'.find? id = some r → Linked projectId r ids →
    ∀ id' ∈ id :: ids, Alike db db' id'

theorem AgreeOn.symm {projectId : RecordId} {db db' : Database} (h : AgreeOn projectId db db') :
    AgreeOn projectId db' db where
  project := h.project.symm
  projectLinks r c hr hc id hid := (h.projectLinks r c (h.project ▸ hr) hc id hid).symm
  linked id r ids hr hlinked id' hid' := (h.linked id r ids hr.symm hlinked id' hid').symm

/-! ## What the readers ask -/

section

variable {db db' : Database} {S : RecordId → Prop}

/-- A query for one of the records. -/
def RecordOf (S : RecordId → Prop) (q : StateQuery) : Prop := ∃ id, S id ∧ q = .record id

omit [PythonLibrary] [ModuleRules] in
theorem asksOnly_getRecord {id : RecordId} (h : S id) :
    (getRecord id).AsksOnly db.answer (RecordOf S) :=
  .bind (.read ⟨id, h, rfl⟩) fun _ _ => .lift _

omit [PythonLibrary] [ModuleRules] in
theorem asksOnly_linkTo {e : DollError} {accepts : RecordEnvelope → Bool} {id : RecordId}
    (h : S id) : (linkTo e accepts id).AsksOnly db.answer (RecordOf S) := by
  refine .bind (.read ⟨id, h, rfl⟩) fun row _ => ?_
  split
  · exact .lift _
  · exact .lift (.error e)

omit [PythonLibrary] [ModuleRules] in
theorem asksOnly_succeeds {kinds : List ErrorKind} {p : Reader Bool} {sort : StateQuery → Prop}
    (h : p.AsksOnly db.answer sort) : (Checkpoint.succeeds kinds p).AsksOnly db.answer sort := by
  have hasked : (Checkpoint.succeeds kinds p).asked db.answer = p.asked db.answer := by
    clear h
    induction p with
    | done r =>
      cases r with
      | ok b => rfl
      | error e =>
        rw [Checkpoint.succeeds]
        split <;> rfl
    | ask q k ih => exact congrArg (q :: ·) (ih (db.answer q))
  rw [ReadProgram.AsksOnly, hasked]
  exact h

theorem asksOnly_projectFromRecordLive {r : RecordEnvelope}
    (h : ∀ c, Project.readProject r = .ok c → ∀ id ∈ projectLinks c, S id) :
    (Project.projectFromRecordLive r).AsksOnly db.answer (RecordOf S) := by
  refine .catching (.bind (.lift _) fun c hc => .bind ?_ fun _ _ => .pure _)
  have hids := h c hc
  simp only [projectLinks, List.forall_mem_append] at hids
  refine .bind (.forEach nofun) fun _ _ => .bind (.forEach nofun) fun _ _ => ?_
  refine .bind (.forEach fun id hid => asksOnly_linkTo (hids.1 id hid)) fun _ _ => ?_
  refine .bind (.forEach fun id hid => asksOnly_linkTo (hids.2.1 id hid)) fun _ _ => ?_
  refine .bind (.forEach fun id hid => asksOnly_linkTo (hids.2.2.1 id hid)) fun _ _ => ?_
  exact .forEach fun id hid => asksOnly_linkTo (hids.2.2.2 id hid)

/-- The freshness of a checkpoint depends on its basis and on what its project links to. -/
theorem asksOnly_deriveFreshness {c : Checkpoint.CheckpointContent}
    (hrevisions : c.confirmationState = .confirmed →
      ∀ entry ∈ c.basisRecordRevisions, S entry.1)
    (hbasis : ∀ id ∈ c.basis, S id)
    (hproject : ∀ r c', db.find? c.projectId = some r → Project.readProject r = .ok c' →
      ∀ id ∈ projectLinks c', S id) :
    (Checkpoint.deriveFreshness c).AsksOnly db.answer (RecordOf S) := by
  have hunchanged : ∀ revisions : Checkpoint.BasisRevisions,
      (∀ entry ∈ revisions, S entry.1) →
        (Checkpoint.basisUnchanged revisions).AsksOnly db.answer (RecordOf S) := by
    intro revisions
    induction revisions with
    | nil => exact fun _ => .pure true
    | cons entry rest ih =>
      intro hentries
      obtain ⟨hentry, hrest⟩ := List.forall_mem_cons.1 hentries
      refine .bind (asksOnly_getRecord hentry) fun r _ => ?_
      split
      · exact ih hrest
      · exact .pure false
  have hrole : ∀ (status : WorkItem.WorkItemStatus) (kind : Option WorkItem.WorkItemKind) (id),
      S id →
        (Checkpoint.validateRole c.projectId status kind id).AsksOnly db.answer (RecordOf S) := by
    intro status kind id hid
    refine .bind (.catching (.bind (asksOnly_getRecord hid) fun r _ => ?_)) fun item _ => ?_
    · exact .bind (.lift _) fun _ _ => .lift _
    · exact .bind (.lift _) fun _ _ => .bind (.lift _) fun _ _ => .lift _
  have hlinks : (Checkpoint.validateLiveLinks c).AsksOnly db.answer (RecordOf S) := by
    simp only [Checkpoint.CheckpointContent.basis, Checkpoint.CheckpointContent.automaticBasis,
      List.cons_append, List.forall_mem_cons, List.forall_mem_append] at hbasis
    obtain ⟨hp, ⟨⟨⟨⟨hactive, hnext⟩, hblocked⟩, hcompleted⟩, hvalidations⟩, hrecords⟩ := hbasis
    refine .bind (.catching (.bind (asksOnly_getRecord hp) fun r hr => ?_)) fun _ _ => ?_
    · refine .bind (.lift _) fun _ _ => .bind ?_ fun _ _ => .pure _
      exact asksOnly_projectFromRecordLive (hproject r · (Database.getRecord_eq_ok.1 hr))
    · refine .bind ?_ fun _ _ => .forEach fun id hid => ?_
      · refine .bind (.forEach fun id hid => hrole _ _ id (hactive id hid)) fun _ _ => ?_
        refine .bind (.forEach fun id hid => hrole _ _ id (hnext id hid)) fun _ _ => ?_
        refine .bind (.forEach fun id hid => hrole _ _ id (hblocked id hid)) fun _ _ => ?_
        exact .forEach fun id hid => hrole _ _ id (hcompleted id hid)
      · refine .bind (.catching (asksOnly_getRecord ?_)) fun _ _ => .lift _
        exact (List.mem_append.1 hid).elim (hvalidations id) (hrecords id)
  unfold Checkpoint.deriveFreshness
  split
  · exact .pure none
  · exact .pure _
  · rename_i hconfirmed
    refine .bind (asksOnly_succeeds ?_) fun _ _ => .pure _
    refine .bind (hunchanged _ (hrevisions hconfirmed)) fun unchanged _ => ?_
    split
    · exact .bind hlinks fun _ _ => .pure true
    · exact .pure false

end

/-! ## The values of the readers -/

section

variable {db db' : Database} {projectId id : RecordId} {r : RecordEnvelope}

theorem workItemFromRecordLive_ok {item : WorkItem.WorkItemInfo}
    (h : (WorkItem.workItemFromRecordLive r).on db = .ok item) :
    ∃ c, WorkItem.readWorkItem r = .ok c ∧ item = .ofRecord r c := by
  simp only [WorkItem.workItemFromRecordLive, Reader.on, ReadProgram.run_catching, catching_eq_ok,
    ReadProgram.run_bind, ReadProgram.run_lift, ReadProgram.run_pure] at h
  obtain ⟨c, hc, h⟩ := bind_eq_ok.1 h
  obtain ⟨-, h⟩ := check_bind_eq_ok.1 h
  exact ⟨c, hc, (Except.ok.inj h).symm⟩

theorem procedureFromRecordLive_ok {item : Procedure.ProcedureInfo}
    (h : (Procedure.procedureFromRecordLive r).on db = .ok item) :
    ∃ c, Procedure.readProcedure r = .ok c ∧ item = .ofRecord r c := by
  simp only [Procedure.procedureFromRecordLive, Reader.on, ReadProgram.run_catching, catching_eq_ok,
    ReadProgram.run_bind, ReadProgram.run_lift, ReadProgram.run_pure] at h
  obtain ⟨c, hc, h⟩ := bind_eq_ok.1 h
  obtain ⟨-, h⟩ := check_bind_eq_ok.1 h
  exact ⟨c, hc, (Except.ok.inj h).symm⟩

theorem checkpointFromRecordLive_ok {item : Checkpoint.CheckpointInfo}
    (h : (Checkpoint.checkpointFromRecordLive r).on db = .ok item) :
    ∃ c freshness, Checkpoint.readCheckpoint r = .ok c ∧
      (Checkpoint.deriveFreshness c).on db = .ok freshness ∧ item = .ofRecord r c freshness := by
  simp only [Checkpoint.checkpointFromRecordLive, Reader.on, ReadProgram.run_catching,
    catching_eq_ok, ReadProgram.run_bind, ReadProgram.run_lift, ReadProgram.run_pure] at h
  obtain ⟨c, hc, h⟩ := bind_eq_ok.1 h
  obtain ⟨freshness, hfreshness, h⟩ := bind_eq_ok.1 h
  exact ⟨c, freshness, hc, hfreshness, (Except.ok.inj h).symm⟩

end

/-! ## The same records, the same values -/

section

variable {db db' : Database} {projectId : RecordId}

omit [ModuleRules] in
theorem asksOnly_requireRecord {recordType : String} {S : RecordId → Prop} (h : S projectId) :
    (Project.requireRecord (uuidText projectId) recordType).AsksOnly db.answer (RecordOf S) := by
  refine .bind (.bind (.lift _) fun id hid => ?_) fun r _ => .bind (.lift _) fun _ _ => .pure _
  rw [ReadProgram.run_lift, orFail_eq_ok, canonicalId?_eq_some] at hid
  cases uuidText_injective hid
  exact asksOnly_getRecord h

omit [ModuleRules] in
theorem requireRecord_on {recordType : String} {r : RecordEnvelope} :
    (Project.requireRecord (uuidText projectId) recordType).on db = .ok r ↔
      db.find? projectId = some r ∧ r.recordType = recordType := by
  have hread : ∀ r, (getRecordText (uuidText projectId)).run db.answer = .ok r ↔
      db.find? projectId = some r := by
    intro r
    refine (getRecordText_on (uuidText projectId) db).trans ⟨?_, fun hr => ⟨projectId, rfl, hr⟩⟩
    rintro ⟨id, hid, hr⟩
    exact uuidText_injective hid ▸ hr
  simp only [Project.requireRecord, Reader.on, ReadProgram.run_bind, ReadProgram.run_lift,
    ReadProgram.run_pure, bind_eq_ok, hread, ensure_eq_ok, exists_const, Except.ok.injEq]
  constructor
  · rintro ⟨r', hr, htype, rfl⟩
    exact ⟨hr, htype⟩
  · rintro ⟨hr, htype⟩
    exact ⟨r, hr, htype, rfl⟩

theorem AgreeOn.getProject (h : AgreeOn projectId db db') :
    (Project.get (uuidText projectId)).on db' = (Project.get (uuidText projectId)).on db := by
  have hasks : (Project.get (uuidText projectId)).AsksOnly db.answer (RecordOf (Alike db db')) := by
    refine .bind (asksOnly_requireRecord h.project) fun r hr => ?_
    exact asksOnly_projectFromRecordLive fun c hc => h.projectLinks r c (requireRecord_on.1 hr).1 hc
  refine hasks.run_eq ?_
  rintro _ ⟨id, hid, rfl⟩
  exact hid

theorem AgreeOn.deriveFreshness (h : AgreeOn projectId db db') {id : RecordId} {r : RecordEnvelope}
    {c : Checkpoint.CheckpointContent} (hr : db.find? id = some r)
    (hc : Checkpoint.readCheckpoint r = .ok c) (hproject : c.projectId = projectId) :
    (Checkpoint.deriveFreshness c).on db' = (Checkpoint.deriveFreshness c).on db := by
  have hbasis : ∀ id' ∈ c.basis, Alike db db' id' := fun id' hid' =>
    h.linked id r c.basis (.inl hr) (.checkpoint hc hproject) id' (List.mem_cons_of_mem _ hid')
  refine ReadProgram.AsksOnly.run_eq (asksOnly_deriveFreshness ?_ hbasis ?_) ?_
  · intro hconfirmed entry hentry
    have hcover := (Checkpoint.reads_of_readCheckpoint hc).cover (by rw [hconfirmed]; decide)
    exact hbasis _ (hcover.1 _ (List.mem_map_of_mem hentry))
  · rw [hproject]
    exact h.projectLinks
  · rintro _ ⟨id', hid', rfl⟩
    exact hid'

end

/-! ## What a status depends on -/

section

variable {db db' : Database} {projectId : RecordId}

theorem keeps_workItems (h : AgreeOn projectId db db') :
    Keeps "work_item" WorkItem.get (isWork projectId) db db' := by
  intro id r v hr htype hget hmine
  rw [WorkItem.get_uuidText hr htype] at hget
  obtain ⟨c, hc, rfl⟩ := workItemFromRecordLive_ok hget
  have hproject : c.projectId = projectId := by
    simp only [isWork, Bool.and_eq_true, decide_eq_true_eq] at hmine
    exact hmine.1
  have hr' : db'.find? id = some r :=
    (h.linked id r _ (.inl hr) (.workItem hc hproject) id List.mem_cons_self).trans hr
  refine ⟨hr', fun v' hget' => ?_⟩
  rw [WorkItem.get_uuidText hr' htype] at hget'
  obtain ⟨c', hc', rfl⟩ := workItemFromRecordLive_ok hget'
  cases hc.symm.trans hc'
  rfl

theorem keeps_checkpoints (h : AgreeOn projectId db db') :
    Keeps "project_checkpoint" Checkpoint.get (isCheckpoint projectId) db db' := by
  intro id r v hr htype hget hmine
  rw [Checkpoint.get_uuidText hr htype] at hget
  obtain ⟨c, freshness, hc, hfreshness, rfl⟩ := checkpointFromRecordLive_ok hget
  have hproject : c.projectId = projectId := by
    simp only [isCheckpoint, Bool.and_eq_true, decide_eq_true_eq] at hmine
    exact hmine.1.1
  have hr' : db'.find? id = some r :=
    (h.linked id r _ (.inl hr) (.checkpoint hc hproject) id List.mem_cons_self).trans hr
  refine ⟨hr', fun v' hget' => ?_⟩
  rw [Checkpoint.get_uuidText hr' htype] at hget'
  obtain ⟨c', freshness', hc', hfreshness', rfl⟩ := checkpointFromRecordLive_ok hget'
  cases hc.symm.trans hc'
  rw [h.deriveFreshness hr hc hproject, hfreshness] at hfreshness'
  cases hfreshness'
  rfl

theorem keeps_procedures (h : AgreeOn projectId db db') :
    Keeps "procedure" Procedure.get (isProcedure projectId) db db' := by
  intro id r v hr htype hget hmine
  rw [Procedure.get_uuidText hr htype] at hget
  obtain ⟨c, hc, rfl⟩ := procedureFromRecordLive_ok hget
  have hproject : c.projectId = projectId := by
    simp only [isProcedure, Bool.and_eq_true, decide_eq_true_eq] at hmine
    exact hmine.1.1
  have hr' : db'.find? id = some r :=
    (h.linked id r _ (.inl hr) (.procedure hc hproject) id List.mem_cons_self).trans hr
  refine ⟨hr', fun v' hget' => ?_⟩
  rw [Procedure.get_uuidText hr' htype] at hget'
  obtain ⟨c', hc', rfl⟩ := procedureFromRecordLive_ok hget'
  cases hc.symm.trans hc'
  rfl

/-- The decisions of a project are those that name it and those that it names. -/
theorem keeps_decisions (h : AgreeOn projectId db db') {project : Project.ProjectInfo}
    (hproject : (Project.get (uuidText projectId)).on db = .ok project) :
    Keeps "decision" Project.getDecision (isGoverning project) db db' := by
  intro id r v hr htype hget hmine
  rw [Project.getDecision_uuidText hr htype] at hget
  obtain ⟨c, hc, -, rfl⟩ := Project.decisionFromRecordLive_on.1 hget
  have hr' : db'.find? id = some r := by
    refine Eq.trans ?_ hr
    simp only [isGoverning, Bool.and_eq_true, Bool.or_eq_true, decide_eq_true_eq] at hmine
    obtain ⟨p, hp, hproject⟩ := bind_eq_ok.1 ((ReadProgram.run_bind _ _).symm.trans hproject)
    obtain ⟨cp, hcp, -, rfl⟩ := Project.projectFromRecordLive_on.1 hproject
    have hfound := (requireRecord_on.1 hp).1
    rcases hmine.2 with hnames | hnamed
    · refine h.linked id r _ (.inl hr) (.decision hc ?_) id List.mem_cons_self
      exact hnames.trans (congrArg some (Database.id_of_find? hfound))
    · refine h.projectLinks p cp hfound hcp id (List.mem_append_left _ ?_)
      exact Database.id_of_find? hr ▸ hnamed
  refine ⟨hr', fun v' hget' => ?_⟩
  rw [Project.getDecision_uuidText hr' htype] at hget'
  obtain ⟨c', hc', -, rfl⟩ := Project.decisionFromRecordLive_on.1 hget'
  cases hc.symm.trans hc'
  rfl

end

end

section

variable [PythonLibrary] [ModuleRules] [FoldLibrary]
  {db db' : Database} {projectId : RecordId} {project : Project.ProjectInfo}

/-! ## When the builder has its inputs -/

/-- Every record of the types that the builder scans is read. -/
structure Readable (db : Database) : Prop where
  workItems : AllRead "work_item" WorkItem.get db
  checkpoints : AllRead "project_checkpoint" Checkpoint.get db
  decisions : AllRead "decision" Project.getDecision db
  procedures : AllRead "procedure" Procedure.get db

/-- Every policy of the project is read. -/
def PoliciesRead (db : Database) (project : Project.ProjectInfo) : Prop :=
  ∀ id ∈ governingPolicyIds project, ∃ policy, (Settings.Policy.get (uuidText id)).on db = .ok policy

/-- A status can be asked for: the project is read, active and not secret, and its policies are
read. -/
def Selected (db : Database) (projectId : RecordId) : Prop :=
  ∃ project, (Project.get (uuidText projectId)).on db = .ok project ∧
    project.lifecycleStatus = .active ∧ project.sensitivity ≠ .secret ∧ PoliciesRead db project

/-- The policies of a project, read one after the other. -/
def readPolicies (project : Project.ProjectInfo) : Reader (List Settings.PolicyInfo) :=
  ReadProgram.collect (fun id => Settings.Policy.get (uuidText id)) (governingPolicyIds project)

/-- What is kept of a scan. -/
def kept {α κ : Type} [LinearOrder κ] (key : α → κ) (mine : α → Bool)
    (sensitivity : α → RecordSensitivity) (items : List α) : List α × Nat :=
  (sortedBy key (visible mine sensitivity items).1, (visible mine sensitivity items).2)

omit [PythonLibrary] [ModuleRules] [FoldLibrary] in
theorem on_map {α β : Type} {p : Reader α} {f : α → β} :
    Reader.on (p >>= fun a => pure (f a)) db = f <$> p.on db := by
  rw [Reader.on, ReadProgram.run_bind, Reader.on]
  cases p.run db.answer <;> rfl

theorem workItems_on : (workItems project).on db =
    kept workSortKey (isWork project.projectId) (·.sensitivity) <$>
      (scan "work_item" WorkItem.get).on db := on_map

omit [FoldLibrary] in
theorem checkpoints_on : (checkpoints project).on db =
    kept checkpointSortKey (isCheckpoint project.projectId) (·.sensitivity) <$>
      (scan "project_checkpoint" Checkpoint.get).on db := on_map

omit [FoldLibrary] in
theorem decisions_on : (decisions project).on db =
    kept decisionSortKey (isGoverning project) (·.sensitivity) <$>
      (scan "decision" Project.getDecision).on db := on_map

theorem procedures_on : (procedures project).on db =
    kept procedureSortKey (isProcedure project.projectId) (·.sensitivity) <$>
      (scan "procedure" Procedure.get).on db := on_map

omit [ModuleRules] [FoldLibrary] in
theorem policies_on : (policies project).on db =
    kept policySortKey (fun item => item.status = .active) (·.sensitivity) <$>
      (readPolicies project).on db := on_map

/-- What the builder has read when its scans have returned these. -/
def gathered (project : Project.ProjectInfo) (ws : List WorkItem.WorkItemInfo)
    (cs : List Checkpoint.CheckpointInfo) (ds : List Project.DecisionInfo)
    (ps : List Settings.PolicyInfo) (rs : List Procedure.ProcedureInfo) (revision : Nat) : Inputs :=
  let work := kept workSortKey (isWork project.projectId) (·.sensitivity) ws
  let checkpoints :=
    kept checkpointSortKey (isCheckpoint project.projectId) (·.sensitivity) cs
  let decisions := kept decisionSortKey (isGoverning project) (·.sensitivity) ds
  let policies := kept policySortKey (fun item => item.status = .active) (·.sensitivity) ps
  let procedures := kept procedureSortKey (isProcedure project.projectId) (·.sensitivity) rs
  { project, workItems := work.1, checkpoints := checkpoints.1, decisions := decisions.1,
    policies := policies.1, procedures := procedures.1, sourceRevision := revision
    omitted := ⟨work.2, checkpoints.2, decisions.2, policies.2, procedures.2⟩ }

/-- What the builder reads of a project that can be selected. -/
theorem inputs_on (hproject : (Project.get (uuidText projectId)).on db = .ok project)
    (hactive : project.lifecycleStatus = .active) (hpublic : project.sensitivity ≠ .secret) :
    (inputs projectId).on db = (do
      let ws ← (scan "work_item" WorkItem.get).on db
      let cs ← (scan "project_checkpoint" Checkpoint.get).on db
      let ds ← (scan "decision" Project.getDecision).on db
      let ps ← (readPolicies project).on db
      let rs ← (scan "procedure" Procedure.get).on db
      return gathered project ws cs ds ps rs db.stateRevision) := by
  have hws : (workItems project).on db = _ := workItems_on
  have hcs : (checkpoints project).on db = _ := checkpoints_on
  have hds : (decisions project).on db = _ := decisions_on
  have hps : (policies project).on db = _ := policies_on
  have hrs : (procedures project).on db = _ := procedures_on
  simp only [Reader.on] at hproject hws hcs hds hps hrs
  simp only [inputs, Reader.on, ReadProgram.run_bind, ReadProgram.run_lift]
  rw [hproject, ok_bind, ensure_of hactive, ok_bind, ensure_of hpublic, ok_bind, hws, hcs, hds, hps,
    hrs]
  simp only [bind_map_left]
  rfl

omit [FoldLibrary] in
theorem raises_getWorkItem (db : Database) (id : RecordId) (r : RecordEnvelope)
    (hr : db.find? id = some r) (htype : r.recordType = "work_item") :
    RaisesOnly Caught ((WorkItem.get (uuidText id)).on db) := by
  rw [WorkItem.get_uuidText hr htype]
  exact raises_widen WorkItem.raises_workItemFromRecordLive (by decide)

omit [FoldLibrary] in
theorem raises_getCheckpoint (db : Database) (id : RecordId) (r : RecordEnvelope)
    (hr : db.find? id = some r) (htype : r.recordType = "project_checkpoint") :
    RaisesOnly Caught ((Checkpoint.get (uuidText id)).on db) := by
  rw [Checkpoint.get_uuidText hr htype]
  exact raises_widen Checkpoint.raises_checkpointFromRecordLive (by decide)

omit [FoldLibrary] in
theorem raises_getDecision (db : Database) (id : RecordId) (r : RecordEnvelope)
    (hr : db.find? id = some r) (htype : r.recordType = "decision") :
    RaisesOnly Caught ((Project.getDecision (uuidText id)).on db) := by
  rw [Project.getDecision_uuidText hr htype]
  exact raises_widen Project.raises_decisionFromRecordLive (by decide)

omit [FoldLibrary] in
theorem raises_getProcedure (db : Database) (id : RecordId) (r : RecordEnvelope)
    (hr : db.find? id = some r) (htype : r.recordType = "procedure") :
    RaisesOnly Caught ((Procedure.get (uuidText id)).on db) := by
  rw [Procedure.get_uuidText hr htype]
  exact raises_widen Procedure.raises_procedureFromRecordLive (by decide)

omit [ModuleRules] [FoldLibrary] in
theorem readPolicies_cases (db : Database) (project : Project.ProjectInfo) :
    (PoliciesRead db project ∧ ∃ ps, (readPolicies project).on db = .ok ps) ∨
      (¬ PoliciesRead db project ∧ ∃ e, (readPolicies project).on db = .error e ∧ Caught e) := by
  rw [readPolicies, Reader.on, ReadProgram.run_collect]
  cases hrun : (governingPolicyIds project).mapM fun id =>
      (Settings.Policy.get (uuidText id)).run db.answer with
  | ok ps =>
    refine .inl ⟨fun id hid => ?_, ps, rfl⟩
    obtain ⟨p, -, hp⟩ := mapM_ok_of_mem hrun hid
    exact ⟨p, hp⟩
  | error e =>
    refine .inr ⟨fun hall => ?_, e, rfl, RaisesOnly.mapM (fun _ _ => raises_getPolicy) e hrun⟩
    obtain ⟨ps, hps⟩ := exists_mapM_ok hall
    cases hrun.symm.trans hps

/-- The builder has its inputs exactly when everything it reads is read, and it fails with an error
that it catches otherwise. -/
theorem inputs_cases (hproject : (Project.get (uuidText projectId)).on db = .ok project)
    (hactive : project.lifecycleStatus = .active) (hpublic : project.sensitivity ≠ .secret) :
    ((Readable db ∧ PoliciesRead db project) ∧ ∃ ws cs ds ps rs,
      (scan "work_item" WorkItem.get).on db = .ok ws ∧
      (scan "project_checkpoint" Checkpoint.get).on db = .ok cs ∧
      (scan "decision" Project.getDecision).on db = .ok ds ∧
      (readPolicies project).on db = .ok ps ∧ (scan "procedure" Procedure.get).on db = .ok rs ∧
      (inputs projectId).on db = .ok (gathered project ws cs ds ps rs db.stateRevision)) ∨
    (¬ (Readable db ∧ PoliciesRead db project) ∧
      ∃ e, (inputs projectId).on db = .error e ∧ Caught e) := by
  rw [inputs_on hproject hactive hpublic]
  rcases scan_cases (raises_getWorkItem db) with ⟨hw, ws, hws⟩ | ⟨hw, e, he, hcaught⟩
  · rcases scan_cases (raises_getCheckpoint db) with ⟨hc, cs, hcs⟩ | ⟨hc, e, he, hcaught⟩
    · rcases scan_cases (raises_getDecision db) with ⟨hd, ds, hds⟩ | ⟨hd, e, he, hcaught⟩
      · rcases readPolicies_cases db project with
          ⟨hp, ps, hps⟩ | ⟨hp, e, he, hcaught⟩
        · rcases scan_cases (raises_getProcedure db) with
            ⟨hr, rs, hrs⟩ | ⟨hr, e, he, hcaught⟩
          · refine .inl ⟨⟨⟨hw, hc, hd, hr⟩, hp⟩, ws, cs, ds, ps, rs, hws, hcs, hds, hps, hrs, ?_⟩
            rw [hws, hcs, hds, hps, hrs]
            rfl
          · refine .inr ⟨fun h => hr h.1.procedures, e, ?_, hcaught⟩
            rw [hws, hcs, hds, hps, he]
            rfl
        · refine .inr ⟨fun h => hp h.2, e, ?_, hcaught⟩
          rw [hws, hcs, hds, he]
          rfl
      · refine .inr ⟨fun h => hd h.1.decisions, e, ?_, hcaught⟩
        rw [hws, hcs, he]
        rfl
    · refine .inr ⟨fun h => hc h.1.checkpoints, e, ?_, hcaught⟩
      rw [hws, he]
      rfl
  · refine .inr ⟨fun h => hw h.1.workItems, e, ?_, hcaught⟩
    rw [he]
    rfl

/-! ## The same status -/

/-- A status without the revision of the state it was read from. -/
def upToRevision (status : ProjectStatusInfo) : ProjectStatusInfo :=
  { status with sourceStateRevision := 0 }

/-- The same error, or statuses that differ in the state revision at most. -/
def SameStatus (x y : Result ProjectStatusInfo) : Prop := upToRevision <$> x = upToRevision <$> y

omit [PythonLibrary] [ModuleRules] [FoldLibrary] in
theorem SameStatus.isOk {x y : Result ProjectStatusInfo} (h : SameStatus x y) : x.isOk = y.isOk := by
  cases x <;> cases y <;> first | rfl | cases h

omit [PythonLibrary] [ModuleRules] [FoldLibrary] in
theorem kept_congr {α κ : Type} [LinearOrder κ] {key : α → κ} {mine : α → Bool}
    {sensitivity : α → RecordSensitivity} {items items' : List α}
    (h : items.filter mine = items'.filter mine) :
    kept key mine sensitivity items = kept key mine sensitivity items' := by
  simp only [kept, visible, h]

omit [FoldLibrary] in
theorem named_workItem : Named "work_item" WorkItem.get (·.workItemId) := by
  intro db id r item hr htype hget
  rw [WorkItem.get_uuidText hr htype] at hget
  obtain ⟨c, -, rfl⟩ := workItemFromRecordLive_ok hget
  exact Database.id_of_find? hr

omit [FoldLibrary] in
theorem named_checkpoint : Named "project_checkpoint" Checkpoint.get (·.checkpointId) := by
  intro db id r item hr htype hget
  rw [Checkpoint.get_uuidText hr htype] at hget
  obtain ⟨c, _, -, -, rfl⟩ := checkpointFromRecordLive_ok hget
  exact Database.id_of_find? hr

omit [FoldLibrary] in
theorem named_decision : Named "decision" Project.getDecision (·.decisionId) := by
  intro db id r item hr htype hget
  rw [Project.getDecision_uuidText hr htype] at hget
  obtain ⟨c, -, -, rfl⟩ := Project.decisionFromRecordLive_on.1 hget
  exact Database.id_of_find? hr

omit [FoldLibrary] in
theorem named_procedure : Named "procedure" Procedure.get (·.procedureId) := by
  intro db id r item hr htype hget
  rw [Procedure.get_uuidText hr htype] at hget
  obtain ⟨c, -, rfl⟩ := procedureFromRecordLive_ok hget
  exact Database.id_of_find? hr

omit [FoldLibrary] in
/-- A project that is read is the one asked for, and its policies are among its links. -/
theorem getProject_on (h : (Project.get (uuidText projectId)).on db = .ok project) :
    ∃ r c, db.find? projectId = some r ∧ Project.readProject r = .ok c ∧
      project.projectId = projectId ∧ project.content = c := by
  obtain ⟨r, hr, h⟩ := bind_eq_ok.1 ((ReadProgram.run_bind _ _).symm.trans h)
  obtain ⟨c, hc, -, rfl⟩ := Project.projectFromRecordLive_on.1 h
  have hfound := (requireRecord_on.1 hr).1
  exact ⟨r, c, hfound, hc, Database.id_of_find? hfound, rfl⟩

omit [FoldLibrary] in
theorem AgreeOn.readPolicies (h : AgreeOn projectId db db')
    (hproject : (Project.get (uuidText projectId)).on db = .ok project) :
    (readPolicies project).on db' = (readPolicies project).on db := by
  obtain ⟨r, c, hr, hc, -, rfl⟩ := getProject_on hproject
  have hasks : (Status.readPolicies project).AsksOnly db.answer (RecordOf (Alike db db')) := by
    refine .collect fun id hid => .bind ?_ fun _ _ => .lift _
    refine asksOnly_requireRecord (h.projectLinks r _ hr hc id ?_)
    rw [governingPolicyIds, List.mem_insertionSort] at hid
    simp only [Status.projectLinks, List.mem_append]
    exact .inr (.inr (.inr hid))
  refine hasks.run_eq ?_
  rintro _ ⟨id, hid, rfl⟩
  exact hid

theorem AgreeOn.gathered (h : AgreeOn projectId db db')
    (hproject : (Project.get (uuidText projectId)).on db = .ok project)
    {ws ws' : List WorkItem.WorkItemInfo} {cs cs' : List Checkpoint.CheckpointInfo}
    {ds ds' : List Project.DecisionInfo} {rs rs' : List Procedure.ProcedureInfo}
    (ps : List Settings.PolicyInfo) (revision : Nat)
    (hws : (scan "work_item" WorkItem.get).on db = .ok ws)
    (hws' : (scan "work_item" WorkItem.get).on db' = .ok ws')
    (hcs : (scan "project_checkpoint" Checkpoint.get).on db = .ok cs)
    (hcs' : (scan "project_checkpoint" Checkpoint.get).on db' = .ok cs')
    (hds : (scan "decision" Project.getDecision).on db = .ok ds)
    (hds' : (scan "decision" Project.getDecision).on db' = .ok ds')
    (hrs : (scan "procedure" Procedure.get).on db = .ok rs)
    (hrs' : (scan "procedure" Procedure.get).on db' = .ok rs') :
    gathered project ws cs ds ps rs revision = gathered project ws' cs' ds' ps rs' revision := by
  obtain ⟨-, -, -, -, hid, -⟩ := getProject_on hproject
  have hproject' := h.getProject.trans hproject
  have hw := filter_scan_eq named_workItem (keeps_workItems h) (keeps_workItems h.symm) hws hws'
  have hc := filter_scan_eq named_checkpoint (keeps_checkpoints h) (keeps_checkpoints h.symm) hcs hcs'
  have hd := filter_scan_eq named_decision (keeps_decisions h hproject)
    (keeps_decisions h.symm hproject') hds hds'
  have hr := filter_scan_eq named_procedure (keeps_procedures h) (keeps_procedures h.symm) hrs hrs'
  rw [← hid] at hw hc hr
  simp only [Status.gathered, kept_congr hw, kept_congr hc, kept_congr hd, kept_congr hr]

theorem build_on {text : Text} (htext : uuid text = some projectId) :
    (build text).on db =
      statusOf <$> catching (DollError.isA malformed) corrupt ((inputs projectId).on db) := by
  have hrun : (build text).on db = Reader.on (do
      let inputs ← ReadProgram.catching (DollError.isA malformed) corrupt (inputs projectId)
      return statusOf inputs) db := by
    simp only [build, Reader.on, ReadProgram.run_bind, ReadProgram.run_lift, htext, orFail_some,
      ok_bind]
  rw [hrun, on_map, Reader.on, ReadProgram.run_catching]

/-- The builder fails alike on two states whose inputs it fails to read. -/
theorem build_of_caught {text : Text} (htext : uuid text = some projectId) {e : DollError}
    (he : (inputs projectId).on db = .error e) (hcaught : Caught e) :
    (build text).on db = .error corrupt := by
  rw [build_on htext, he, catching, if_pos (show e.isA malformed = true from hcaught)]
  rfl

theorem build_of_ok {text : Text} (htext : uuid text = some projectId) {i : Inputs}
    (hi : (inputs projectId).on db = .ok i) : (build text).on db = .ok (statusOf i) := by
  rw [build_on htext, hi]
  rfl

/-- Before the scans the builder looks at the project alone. -/
theorem inputs_unselected
    (hsame : (Project.get (uuidText projectId)).on db' = (Project.get (uuidText projectId)).on db)
    (hnot : ∀ project, (Project.get (uuidText projectId)).on db = .ok project →
      project.lifecycleStatus = .active → project.sensitivity = .secret) :
    (inputs projectId).on db' = (inputs projectId).on db := by
  simp only [Reader.on] at hsame hnot
  simp only [inputs, Reader.on, ReadProgram.run_bind, ReadProgram.run_lift, hsame]
  cases hproject : (Project.get (uuidText projectId)).run db.answer with
  | error e => rfl
  | ok project =>
    simp only [ok_bind]
    by_cases hactive : project.lifecycleStatus = .active
    · have hsecret : ¬ project.sensitivity ≠ .secret := not_not_intro (hnot project hproject hactive)
      rw [ensure_of hactive, ensure, if_neg hsecret]
      rfl
    · rw [ensure, if_neg hactive]
      rfl

omit [FoldLibrary] in
theorem AgreeOn.policiesRead_iff (h : AgreeOn projectId db db')
    (hproject : (Project.get (uuidText projectId)).on db = .ok project) :
    PoliciesRead db project ↔ PoliciesRead db' project := by
  have hsame := h.readPolicies hproject
  rcases readPolicies_cases db project with ⟨hp, ps, hps⟩ | ⟨hp, e, he, -⟩
  · rcases readPolicies_cases db' project with ⟨hp', -⟩ | ⟨-, e, he, -⟩
    · exact iff_of_true hp hp'
    · cases (hsame ▸ he).symm.trans hps
  · rcases readPolicies_cases db' project with ⟨-, ps, hps⟩ | ⟨hp', -⟩
    · cases (hsame ▸ hps).symm.trans he
    · exact iff_of_false hp hp'

/-- The statuses of a project that can be selected. -/
theorem sameStatus_of_selected {text : Text} (htext : uuid text = some projectId)
    (h : AgreeOn projectId db db')
    (hproject : (Project.get (uuidText projectId)).on db = .ok project)
    (hactive : project.lifecycleStatus = .active) (hpublic : project.sensitivity ≠ .secret) :
    SameStatus ((build text).on db) ((build text).on db') ↔
      (PoliciesRead db project → (Readable db ↔ Readable db')) := by
  have hpolicies := h.policiesRead_iff hproject
  have hproject' := h.getProject.trans hproject
  rcases inputs_cases hproject hactive hpublic with
    ⟨⟨hread, hp⟩, ws, cs, ds, ps, rs, hws, hcs, hds, hps, hrs, hi⟩ | ⟨hnot, e, he, hcaught⟩ <;>
  rcases inputs_cases hproject' hactive hpublic with
    ⟨⟨hread', hp'⟩, ws', cs', ds', ps', rs', hws', hcs', hds', hps', hrs', hi'⟩ |
      ⟨hnot', e', he', hcaught'⟩
  · refine iff_of_true ?_ fun _ => iff_of_true hread hread'
    cases (h.readPolicies hproject ▸ hps').symm.trans hps
    rw [SameStatus, build_of_ok htext hi, build_of_ok htext hi',
      h.gathered hproject ps _ hws hws' hcs hcs' hds hds' hrs hrs']
    rfl
  · refine iff_of_false ?_ fun hiff => hnot' ⟨(hiff hp).1 hread, hpolicies.1 hp⟩
    rw [SameStatus, build_of_ok htext hi, build_of_caught htext he' hcaught']
    exact nofun
  · refine iff_of_false ?_ fun hiff => hnot ⟨(hiff (hpolicies.2 hp')).2 hread', hpolicies.2 hp'⟩
    rw [SameStatus, build_of_ok htext hi', build_of_caught htext he hcaught]
    exact nofun
  · refine iff_of_true ?_ fun hp => iff_of_false (fun hread => hnot ⟨hread, hp⟩)
      fun hread => hnot' ⟨hread, hpolicies.1 hp⟩
    rw [SameStatus, build_of_caught htext he hcaught, build_of_caught htext he' hcaught']

/-- On states that agree on a project its status is the same exactly when, if it can be asked for,
every record of the four types is readable on both or some record is not on either. -/
theorem sameStatus_iff {text : Text} (htext : uuid text = some projectId)
    (h : AgreeOn projectId db db') :
    SameStatus ((build text).on db) ((build text).on db') ↔
      (Selected db projectId → (Readable db ↔ Readable db')) := by
  by_cases hselect : ∃ project, (Project.get (uuidText projectId)).on db = .ok project ∧
      project.lifecycleStatus = .active ∧ project.sensitivity ≠ .secret
  · obtain ⟨project, hproject, hactive, hpublic⟩ := hselect
    rw [sameStatus_of_selected htext h hproject hactive hpublic]
    refine imp_congr_left ⟨fun hp => ⟨project, hproject, hactive, hpublic, hp⟩, ?_⟩
    rintro ⟨p, hp, -, -, hread⟩
    cases hp.symm.trans hproject
    exact hread
  · refine iff_of_true ?_ fun ⟨p, hp, ha, hs, _⟩ => absurd ⟨p, hp, ha, hs⟩ hselect
    have hinputs := inputs_unselected h.getProject fun p hp ha =>
      not_not.1 fun hs => hselect ⟨p, hp, ha, hs⟩
    rw [SameStatus, build_on htext, build_on htext, hinputs]

end

section Runs

attribute [local instance] asciiLibrary acceptingRules asciiFold

/-- A work item of another project that lacks its fields. -/
def brokenItem : RecordEnvelope :=
  { Project.gardenRecord 200 with
    recordType := "work_item", title := none, metadata := [("project_id", .str (uuidText 300))] }

/-- The garden, and next to it that work item. -/
def brokenDatabase : Database :=
  { Project.gardenDatabase with
    records := ⟨[Project.gardenRecord 100, brokenItem], by decide⟩ }

theorem not_linked {projectId : RecordId} {r : RecordEnvelope} {ids : List RecordId}
    (hr : r = Project.gardenRecord 100 ∨ r = brokenItem) : ¬ Linked projectId r ids := by
  have hnone : ∀ {α : Type} {x : Result α} {a : α}, x.isOk = false → x ≠ .ok a := by
    rintro α x a hx rfl
    cases hx
  rintro (⟨hc, -⟩ | ⟨hc, -⟩ | ⟨hc, -⟩ | ⟨hc, -⟩)
  all_goals
    rcases hr with rfl | rfl
    · exact hnone (by decide) hc
    · exact hnone (by decide) hc

theorem agreeOn_broken : AgreeOn 100 Project.gardenDatabase brokenDatabase where
  project := rfl
  projectLinks r c hr hc id hid := by
    have hlinks : (projectLinks <$> Project.readProject (Project.gardenRecord 100)).toOption =
        some [] := by decide
    have hgarden : r = Project.gardenRecord 100 :=
      List.mem_singleton.1 (Database.find?_eq_some.1 hr).1
    rw [← hgarden, hc] at hlinks
    rw [Option.some.inj hlinks] at hid
    cases hid
  linked id r ids hr hlinked := by
    refine absurd hlinked (not_linked ?_)
    rcases hr with hr | hr
    · exact .inl (List.mem_singleton.1 (Database.find?_eq_some.1 hr).1)
    · have hmem : r ∈ [Project.gardenRecord 100, brokenItem] := (Database.find?_eq_some.1 hr).1
      simpa using hmem

theorem sameStatus_iff_broken :
    SameStatus ((build (uuidText 100)).on Project.gardenDatabase)
        ((build (uuidText 100)).on brokenDatabase) ↔
      (Selected Project.gardenDatabase 100 →
        (Readable Project.gardenDatabase ↔ Readable brokenDatabase)) :=
  sameStatus_iff (uuid_uuidText 100) agreeOn_broken

theorem selected_garden : Selected Project.gardenDatabase 100 := by
  have hok : ((Project.get (uuidText 100)).on Project.gardenDatabase >>= fun project =>
      ensure (project.lifecycleStatus = .active ∧ project.sensitivity ≠ .secret ∧
        governingPolicyIds project = []) (.noRecord [])).isOk = true := by decide
  obtain ⟨_, h⟩ := exists_of_isOk hok
  obtain ⟨project, hproject, h⟩ := bind_eq_ok.1 h
  obtain ⟨hactive, hpublic, hpolicies⟩ := ensure_eq_ok.1 h
  refine ⟨project, hproject, hactive, hpublic, fun id hid => ?_⟩
  rw [hpolicies] at hid
  cases hid

/-- The garden has a status until another project has a malformed work item. -/
theorem not_isolated : ¬ ∀ (db db' : Database) (projectId : RecordId) (text : Text),
    uuid text = some projectId → AgreeOn projectId db db' → Selected db projectId →
      SameStatus ((build text).on db) ((build text).on db') := by
  intro hall
  have hsame := hall _ _ 100 (uuidText 100) (uuid_uuidText 100) agreeOn_broken selected_garden
  have hok : ((build (uuidText 100)).on Project.gardenDatabase).isOk = true := by decide
  have hfails : ((build (uuidText 100)).on brokenDatabase).isOk = false := by decide
  rw [hsame.isOk, hfails] at hok
  cases hok

end Runs

end Status

end DollState
