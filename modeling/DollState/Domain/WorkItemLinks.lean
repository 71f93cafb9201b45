import DollState.Domain.ProjectLinks
import DollState.Domain.WorkItemRecord

/-!
# The links of work items

What it takes for the link checks of a work item to succeed on one database (`Linked`), and the
dependency graph of a project (`dependencies`), which `_validate_dependency_graph` puts together
from the work items it reads.
-/

namespace DollState.WorkItem

open StateLib

variable [PythonLibrary]

/-- Every work item of the database is as the service writes it. -/
def WellFormed (db : Database) : Prop :=
  ∀ id r, db.find? id = some r → r.recordType = "work_item" → ∃ c, Encodes r c

/-- The work item with an identifier is active, of the project, and has the dependencies. -/
def dependencies (db : Database) (projectId id : RecordId) : Option (List RecordId) :=
  (db.find? id).bind fun r =>
    if r.recordType = "work_item" ∧ r.status = .active then
      match workItemFromRecord r with
      | .ok item =>
        if item.content.projectId = projectId then some item.content.dependsOnIds else none
      | .error _ => none
    else none

theorem dependencies_eq_some {db : Database} {projectId id : RecordId} {ids : List RecordId} :
    dependencies db projectId id = some ids ↔
      ∃ r item, db.find? id = some r ∧ r.recordType = "work_item" ∧ r.status = .active ∧
        workItemFromRecord r = .ok item ∧ item.content.projectId = projectId ∧
        item.content.dependsOnIds = ids := by
  simp only [dependencies, Option.bind_eq_some_iff]
  constructor
  · rintro ⟨r, hr, h⟩
    split at h
    · rename_i htype
      split at h
      · rename_i item hitem
        split at h
        · rename_i hproject
          exact ⟨r, item, hr, htype.1, htype.2, hitem, hproject, Option.some.inj h⟩
        · cases h
      · cases h
    · cases h
  · rintro ⟨r, item, hr, htype, hactive, hitem, hproject, hids⟩
    refine ⟨r, hr, ?_⟩
    rw [if_pos ⟨htype, hactive⟩, hitem]
    simp only [if_pos hproject, hids]

/-- The dependencies of a work item as the service writes it. -/
theorem dependencies_of_encodes {db : Database} {id : RecordId} {r : RecordEnvelope}
    {c : WorkItemContent} (hr : db.find? id = some r) (h : Encodes r c) (projectId : RecordId) :
    dependencies db projectId id =
      if r.status = .active ∧ c.projectId = projectId then some c.dependsOnIds else none := by
  rw [dependencies, hr, Option.bind_some, workItemFromRecord_of_encodes h]
  by_cases hactive : r.status = .active <;>
    simp [h.recordType, hactive, WorkItemInfo.ofRecord]

theorem workItemId_of_workItemFromRecord {r : RecordEnvelope} {item : WorkItemInfo}
    (h : workItemFromRecord r = .ok item) : item.workItemId = r.id := by
  rw [workItemFromRecord, catching_eq_ok, bind_eq_ok] at h
  obtain ⟨c, -, h⟩ := h
  rw [← pure_eq_ok.1 h]
  rfl

/-! ## The dependency graph that is checked -/

omit [PythonLibrary] in
theorem mem_activeIds {db : Database} {recordType : String} {id : RecordId} :
    id ∈ (db.records.rows.filter fun r => r.recordType = recordType ∧ r.status = .active).map
      (·.id) ↔ ∃ r, db.find? id = some r ∧ r.recordType = recordType ∧ r.status = .active := by
  simp only [List.mem_map, List.mem_filter, decide_eq_true_eq, Database.find?_eq_some]
  constructor
  · rintro ⟨r, ⟨hr, hP⟩, rfl⟩
    exact ⟨r, ⟨hr, rfl⟩, hP⟩
  · rintro ⟨r, ⟨hr, rfl⟩, hP⟩
    exact ⟨r, ⟨hr, hP⟩, rfl⟩

/-- The graph put together from the work items read has the entries of `dependencies`, with the
candidate's own. -/
theorem lookup_graph {db : Database} {projectId candidateId : RecordId} {deps : List RecordId}
    {items : List WorkItemInfo}
    (hfrom : ∀ item ∈ items, ∃ id r, id ≠ candidateId ∧ db.find? id = some r ∧
      r.recordType = "work_item" ∧ r.status = .active ∧ workItemFromRecord r = .ok item)
    (hall : ∀ id r, id ≠ candidateId → db.find? id = some r → r.recordType = "work_item" →
      r.status = .active → ∃ item ∈ items, workItemFromRecord r = .ok item) (x : RecordId) :
    List.lookup x ((candidateId, deps) :: (items.filter (·.content.projectId = projectId)).map
      fun item => (item.workItemId, item.content.dependsOnIds)) =
        Function.update (dependencies db projectId) candidateId (some deps) x := by
  refine Digraph.lookup_eq_of_entries (List.forall_mem_cons.2 ⟨Function.update_self .., ?_⟩) x ?_
  · intro e he
    obtain ⟨item, hitem, rfl⟩ := List.mem_map.1 he
    obtain ⟨hmem, hproject⟩ := List.mem_filter.1 hitem
    obtain ⟨id, r, hne, hr, htype, hactive, hread⟩ := hfrom item hmem
    have hid : item.workItemId = id :=
      (workItemId_of_workItemFromRecord hread).trans (Database.id_of_find? hr)
    rw [hid, Function.update_of_ne hne]
    exact dependencies_eq_some.2 ⟨r, item, hr, htype, hactive, hread, by simpa using hproject, rfl⟩
  · intro hsome
    rw [List.map_cons, List.mem_cons]
    by_cases hx : x = candidateId
    · exact .inl hx
    · rw [Function.update_of_ne hx] at hsome
      obtain ⟨ids, hids⟩ := Option.isSome_iff_exists.1 hsome
      obtain ⟨r, item, hr, htype, hactive, hread, hproject, -⟩ := dependencies_eq_some.1 hids
      obtain ⟨item', hmem, hread'⟩ := hall x r hx hr htype hactive
      cases hread.symm.trans hread'
      have hid : item.workItemId = x :=
        (workItemId_of_workItemFromRecord hread).trans (Database.id_of_find? hr)
      refine .inr (List.mem_map.2 ⟨(item.workItemId, item.content.dependsOnIds), ?_, hid⟩)
      exact List.mem_map.2 ⟨item, List.mem_filter.2 ⟨hmem, by simpa using hproject⟩, rfl⟩

/-- The cycle check is about the project's graph with the candidate's dependencies in it. -/
theorem validateDependencyGraph_on {db : Database} (hwf : WellFormed db)
    {projectId candidateId : RecordId} {deps : List RecordId} {u : Unit} :
    (validateDependencyGraph projectId candidateId deps).on db = .ok u ↔
      Digraph.Acyclic (Digraph.edges
        (Function.update (dependencies db projectId) candidateId (some deps))) := by
  set ids := ((db.records.rows.filter fun r => r.recordType = "work_item" ∧ r.status = .active).map
    (·.id)).filter (· ≠ candidateId) with hids
  have hmem : ∀ id, id ∈ ids ↔ id ≠ candidateId ∧
      ∃ r, db.find? id = some r ∧ r.recordType = "work_item" ∧ r.status = .active := by
    intro id
    rw [hids, List.mem_filter, mem_activeIds, and_comm]
    simp
  set step : RecordId → Result WorkItemInfo := fun id => db.getRecord id >>= workItemFromRecord
    with hstep
  have hread : ∀ {id r}, db.find? id = some r → step id = workItemFromRecord r := fun hr => by
    simp only [hstep, Database.getRecord_eq_ok.2 hr, ok_bind]
  obtain ⟨items, hitems⟩ : ∃ items, ids.mapM step = .ok items := by
    refine exists_mapM_ok fun id hid => ?_
    obtain ⟨-, r, hr, htype, -⟩ := (hmem id).1 hid
    obtain ⟨c, hc⟩ := hwf id r hr htype
    exact ⟨_, (hread hr).trans (workItemFromRecord_of_encodes hc)⟩
  have hrun : (validateDependencyGraph projectId candidateId deps).on db =
      ensure (Digraph.acyclic (DependencyGraph.next ((candidateId, deps) ::
        (items.filter (·.content.projectId = projectId)).map
          fun item => (item.workItemId, item.content.dependsOnIds)))
        (List.map (·.1) ((candidateId, deps) ::
        (items.filter (·.content.projectId = projectId)).map
          fun item => (item.workItemId, item.content.dependsOnIds))) = true)
        (invalid "work-item dependency cycle is not allowed") := by
    simp only [validateDependencyGraph, Reader.on, ReadProgram.run_bind, activeIds_on, ok_bind,
      ReadProgram.run_collect, ReadProgram.run_lift, getRecord_on]
    rw [show (List.mapM (fun id => db.getRecord id >>= fun record => workItemFromRecord record)
      ids) = .ok items from hitems]
    rfl
  rw [hrun, ensure_eq_ok]
  set graph : DependencyGraph := (candidateId, deps) ::
    (items.filter (·.content.projectId = projectId)).map
      fun item => (item.workItemId, item.content.dependsOnIds) with hgraph
  have hlookup : (fun x => graph.lookup x) =
      Function.update (dependencies db projectId) candidateId (some deps) := by
    refine funext fun x => lookup_graph (fun item hitem => ?_) (fun id r hne hr htype hactive => ?_) x
    · obtain ⟨id, hid, hok⟩ := exists_of_mem_mapM hitems hitem
      obtain ⟨hne, r, hr, htype, hactive⟩ := (hmem id).1 hid
      exact ⟨id, r, hne, hr, htype, hactive, (hread hr).symm.trans hok⟩
    · obtain ⟨item, hitem, hok⟩ :=
        mapM_ok_of_mem hitems ((hmem id).2 ⟨hne, r, hr, htype, hactive⟩)
      exact ⟨item, hitem, (hread hr).symm.trans hok⟩
  rw [← hlookup]
  have hkeys : ∀ x, (graph.lookup x).isSome → x ∈ graph.map (·.1) := by
    intro x hx
    rw [List.lookup_isSome_iff] at hx
    obtain ⟨e, he, hxe⟩ := hx
    exact List.mem_map.2 ⟨e, he, (beq_iff_eq.1 hxe).symm⟩
  refine Digraph.acyclic_iff (fun x y hy => ?_) (fun x hx => ?_)
  · exact hkeys y (Digraph.mem_edges.1 hy).2
  · obtain ⟨y, hy⟩ := List.exists_mem_of_ne_nil _ hx
    obtain ⟨⟨ys, hys, -⟩, -⟩ := Digraph.mem_edges.1 hy
    exact hkeys x (by rw [hys]; rfl)

/-! ## The links that are checked -/

/-- The record is an active work item of the project, of the content `c`. -/
def Related (db : Database) (projectId id : RecordId) (c : WorkItemContent) : Prop :=
  ∃ r, db.find? id = some r ∧ r.status = .active ∧ Encodes r c ∧ c.projectId = projectId

theorem recordType_of_readWorkItem {r : RecordEnvelope} {c : WorkItemContent}
    (h : readWorkItem r = .ok c) : r.recordType = "work_item" := by
  rw [readWorkItem, check_bind_eq_ok, ensure_eq_ok] at h
  exact h.1.1

theorem workItemFromRecord_eq_ok {r : RecordEnvelope} {item : WorkItemInfo} :
    workItemFromRecord r = .ok item ↔
      ∃ c, readWorkItem r = .ok c ∧ item = WorkItemInfo.ofRecord r c := by
  rw [workItemFromRecord, catching_eq_ok, bind_eq_ok]
  exact exists_congr fun c => and_congr_right fun _ => pure_eq_ok.trans eq_comm

/-- In a well-formed database a record that reads as a work item encodes what it reads as. -/
theorem WellFormed.encodes {db : Database} (hwf : WellFormed db) {id : RecordId}
    {r : RecordEnvelope} {c : WorkItemContent} (hr : db.find? id = some r)
    (h : readWorkItem r = .ok c) : Encodes r c := by
  obtain ⟨c', hc'⟩ := hwf id r hr (recordType_of_readWorkItem h)
  cases h.symm.trans (readWorkItem_of_encodes hc')
  exact hc'

theorem relationTarget_on {db : Database} (hwf : WellFormed db) {projectId id : RecordId}
    {item : WorkItemInfo} :
    (relationTarget projectId id).on db = .ok item ↔
      ∃ r c, db.find? id = some r ∧ r.status = .active ∧ Encodes r c ∧ c.projectId = projectId ∧
        item = WorkItemInfo.ofRecord r c := by
  simp only [relationTarget, Reader.on, ReadProgram.run_bind, ReadProgram.run_catching,
    catching_eq_ok, ReadProgram.run_lift, bind_eq_ok, getRecord_on, Database.getRecord_eq_ok,
    ensure_eq_ok, workItemFromRecord_eq_ok]
  constructor
  · rintro ⟨item', ⟨r, hr, -, hactive, c, hc, rfl⟩, -, hproject, h⟩
    exact ⟨r, c, hr, hactive, hwf.encodes hr hc, hproject, (Except.ok.inj h).symm⟩
  · rintro ⟨r, c, hr, hactive, hc, hproject, rfl⟩
    exact ⟨_, ⟨r, hr, (), hactive, c, readWorkItem_of_encodes hc, rfl⟩, (), hproject, rfl⟩

theorem validateWorkItemRelations_on {db : Database} (hwf : WellFormed db)
    {selfId projectId : RecordId} {deps blockers : List RecordId} {u : Unit} :
    (validateWorkItemRelations selfId projectId deps blockers).on db = .ok u ↔
      (∀ id ∈ deps, ∃ d, Related db projectId id d) ∧
        (∀ id ∈ blockers, ∃ b, Related db projectId id b ∧ ¬ b.workStatus.Terminal) ∧
        Digraph.Acyclic (Digraph.edges
          (Function.update (dependencies db projectId) selfId (some deps))) := by
  have htarget : ∀ (p : WorkItemContent → Prop) id,
      (∃ item, (relationTarget projectId id).on db = .ok item ∧ p item.content) ↔
        ∃ c, Related db projectId id c ∧ p c := by
    intro p id
    constructor
    · rintro ⟨item, hitem, hp⟩
      obtain ⟨r, c, hr, hactive, hc, hproject, rfl⟩ := (relationTarget_on hwf).1 hitem
      exact ⟨c, ⟨r, hr, hactive, hc, hproject⟩, hp⟩
    · rintro ⟨c, ⟨r, hr, hactive, hc, hproject⟩, hp⟩
      exact ⟨_, (relationTarget_on hwf).2 ⟨r, c, hr, hactive, hc, hproject, rfl⟩, hp⟩
  have hdeps := exists_mapM_ok_iff (fun id => (relationTarget projectId id).on db) deps
    fun _ => True
  have hblockers := exists_mapM_ok_iff (fun id => (relationTarget projectId id).on db) blockers
    fun item => ¬ item.content.workStatus.Terminal
  simp only [htarget fun c => ¬ c.workStatus.Terminal] at hblockers
  simp only [htarget fun _ => True] at hdeps
  simp only [implies_true, and_true] at hdeps
  rw [← hdeps, ← hblockers, ← validateDependencyGraph_on hwf (u := u)]
  simp only [validateWorkItemRelations, Reader.on, ReadProgram.run_bind, ReadProgram.run_collect,
    ReadProgram.run_lift, bind_eq_ok, forEach_eq_ok, ensure_eq_ok]
  constructor
  · rintro ⟨items, hitems, blocking, hblocking, ⟨⟩, hopen, hgraph⟩
    exact ⟨⟨items, hitems⟩, ⟨blocking, hblocking, hopen⟩, hgraph⟩
  · rintro ⟨⟨items, hitems⟩, ⟨blocking, hblocking, hopen⟩, hgraph⟩
    exact ⟨items, hitems, blocking, hblocking, (), hopen, hgraph⟩

section Links

variable [ModuleRules]

/-- The record is an active project whose own links hold. -/
def ProjectLink (db : Database) (id : RecordId) : Prop :=
  db.Has id fun r => r.recordType = "project" ∧ r.status = .active ∧
    ∃ content, Project.readProject r = .ok content ∧ content.links.Hold db

/-- The record is an active decision whose own links hold. -/
def DecisionLink (db : Database) (id : RecordId) : Prop :=
  db.Has id fun r => r.recordType = "decision" ∧ r.status = .active ∧
    ∃ content, Project.readDecision r = .ok content ∧ content.links.Hold db

/-- The link checks of a work item succeed. -/
structure Linked (db : Database) (selfId : RecordId) (c : WorkItemContent) : Prop where
  project : ProjectLink db c.projectId
  dependsOn : ∀ id ∈ c.dependsOnIds, ∃ d, Related db c.projectId id d
  blockedBy : ∀ id ∈ c.blockedByIds, ∃ b, Related db c.projectId id b ∧ ¬ b.workStatus.Terminal
  acyclic : Digraph.Acyclic (Digraph.edges
    (Function.update (dependencies db c.projectId) selfId (some c.dependsOnIds)))
  decisions : ∀ id ∈ c.sourceDecisionIds, DecisionLink db id
  evidence : ∀ id ∈ c.verificationEvidenceIds, db.Has id fun r => isActiveEvidence r = true
  artifacts : ∀ id ∈ c.artifactIds, db.Has id fun r => isActiveArtifact r = true
  sources : ∀ id ∈ c.sourceIds, db.Has id fun r => r.status = .active ∧ r.sensitivity ≠ .secret

theorem validateProjectLink_on {db : Database} {id : RecordId} {u : Unit} :
    (validateProjectLink id).on db = .ok u ↔ ProjectLink db id := by
  simp only [validateProjectLink, Reader.on, ReadProgram.run_bind, ReadProgram.run_catching,
    catching_eq_ok, ReadProgram.run_lift, bind_eq_ok, getRecord_on, Database.getRecord_eq_ok,
    ensure_eq_ok, Project.projectFromRecordLive_on]
  constructor
  · rintro ⟨r, hr, -, ⟨htype, hactive⟩, info, ⟨content, hread, hlinks, -⟩, -⟩
    exact ⟨r, hr, htype, hactive, content, hread, hlinks⟩
  · rintro ⟨r, hr, htype, hactive, content, hread, hlinks⟩
    exact ⟨r, hr, (), ⟨htype, hactive⟩, _, ⟨content, hread, hlinks, rfl⟩, rfl⟩

theorem validateDecisionLink_on {db : Database} {id : RecordId} {u : Unit} :
    (validateDecisionLink id).on db = .ok u ↔ DecisionLink db id := by
  simp only [validateDecisionLink, Reader.on, ReadProgram.run_bind, ReadProgram.run_catching,
    catching_eq_ok, ReadProgram.run_lift, bind_eq_ok, getRecord_on, Database.getRecord_eq_ok,
    ensure_eq_ok, Project.decisionFromRecordLive_on]
  constructor
  · rintro ⟨r, hr, -, ⟨htype, hactive⟩, info, ⟨content, hread, hlinks, -⟩, -⟩
    exact ⟨r, hr, htype, hactive, content, hread, hlinks⟩
  · rintro ⟨r, hr, htype, hactive, content, hread, hlinks⟩
    exact ⟨r, hr, (), ⟨htype, hactive⟩, _, ⟨content, hread, hlinks, rfl⟩, rfl⟩

omit [PythonLibrary] [ModuleRules] in
theorem validateSourceLink_on {db : Database} {id : RecordId} {u : Unit} :
    (validateSourceLink id).on db = .ok u ↔
      db.Has id fun r => r.status = .active ∧ r.sensitivity ≠ .secret := by
  simp only [validateSourceLink, Reader.on, ReadProgram.run_bind, ReadProgram.run_catching,
    catching_eq_ok, ReadProgram.run_lift, bind_eq_ok, getRecord_on, Database.getRecord_eq_ok,
    ensure_eq_ok]
  rfl

/-- The link checks succeed on a database exactly if the links hold there. -/
theorem validateLinks_on {db : Database} (hwf : WellFormed db) {selfId : RecordId}
    {c : WorkItemContent} {u : Unit} :
    (validateLinks selfId c).on db = .ok u ↔ Linked db selfId c := by
  simp only [validateLinks, validateTypedLinks, Reader.on, ReadProgram.run_bind, check_bind_eq_ok,
    validateProjectLink_on, validateWorkItemRelations_on hwf, ReadProgram.run_forEach,
    forEach_eq_ok, validateDecisionLink_on, linkTo_on, validateSourceLink_on]
  constructor
  · rintro ⟨h₁, ⟨h₂, h₃, h₄⟩, h₅, h₆, h₇, h₈⟩
    exact ⟨h₁, h₂, h₃, h₄, h₅, h₆, h₇, h₈⟩
  · rintro ⟨h₁, h₂, h₃, h₄, h₅, h₆, h₇, h₈⟩
    exact ⟨h₁, ⟨h₂, h₃, h₄⟩, h₅, h₆, h₇, h₈⟩

/-- A record that encodes a content is read with a repository exactly if its links hold. -/
theorem workItemFromRecordLive_on {db : Database} (hwf : WellFormed db) {r : RecordEnvelope}
    {c : WorkItemContent} (h : Encodes r c) {info : WorkItemInfo} :
    (workItemFromRecordLive r).on db = .ok info ↔
      Linked db r.id c ∧ info = WorkItemInfo.ofRecord r c := by
  simp only [workItemFromRecordLive, Reader.on, ReadProgram.run_bind, ReadProgram.run_catching,
    catching_eq_ok, ReadProgram.run_lift, readWorkItem_of_encodes h, ok_bind, check_bind_eq_ok,
    validateLinks_on hwf, ReadProgram.run_pure, Except.ok.injEq]
  exact and_congr_right fun _ => eq_comm

end Links

end DollState.WorkItem
