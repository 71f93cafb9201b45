import DollState.Domain.EvidenceWrites
import DollState.Domain.WorkItemReaders

/-!
# A work item while other records change

What a work item is read with, and what a call of the work-item service (`Call.Commits.linked`) or a
row of another type (`Linked.of_puts`) has to leave alone of it. An archived work item is read with
the graph of its project and its own dependencies in it, which no writer looks at.
-/

namespace DollState.WorkItem

open StateLib

section

variable [PythonLibrary] [ModuleRules] {db db' : Database} {row : RecordEnvelope}

/-! ## Rows of other types -/

omit [ModuleRules] in
theorem dependencies_of_puts (h : db.Puts row db') (htype : row.recordType ≠ "work_item")
    (projectId : RecordId) : dependencies db' projectId = dependencies db projectId := by
  funext id
  by_cases hid : id = row.id
  · have hnew : dependencies db' projectId id = none := by
      rw [dependencies, hid, h.find?_self, Option.bind_some, if_neg fun hitem => htype hitem.1]
    cases hold : dependencies db projectId id with
    | none => exact hnew
    | some ids =>
      obtain ⟨r, -, hr, hitem, -⟩ := dependencies_eq_some.1 hold
      exact absurd ((h.recordType r (hid ▸ hr)).symm.trans hitem) htype
  · rw [dependencies, dependencies, h.find?_of_ne hid]

omit [PythonLibrary] [ModuleRules] in
/-- A work item is as it was. -/
theorem find?_of_puts (h : db.Puts row db') (htype : row.recordType ≠ "work_item") {id : RecordId}
    {r : RecordEnvelope} (hitem : r.recordType = "work_item") :
    db'.find? id = some r ↔ db.find? id = some r := by
  by_cases hid : id = row.id
  · subst hid
    constructor
    · intro hr
      cases h.find?_self.symm.trans hr
      exact absurd hitem htype
    · exact fun hr => absurd ((h.recordType r hr).symm.trans hitem) htype
  · rw [h.find?_of_ne hid]

omit [ModuleRules] in
theorem Grounded.of_puts (hground : Grounded db) (h : db.Puts row db')
    (htype : row.recordType ≠ "work_item") : Grounded db' where
  wellFormed id r hr hitem := hground.wellFormed id r ((find?_of_puts h htype hitem).1 hr) hitem
  dependsOn id r c hr hactive hc d hd := by
    have hsome := hground.dependsOn id r c ((find?_of_puts h htype hc.recordType).1 hr) hactive hc d hd
    by_cases hid : d = row.id
    · rw [hid, h.find?_self]
      rfl
    · rw [h.find?_of_ne hid]
      exact hsome

/-- What a row of another type has to be for a work item that is read with it. -/
structure ServesReader (db db' : Database) (row : RecordEnvelope) (b : WorkItemContent) : Prop where
  project : row.id = b.projectId → ProjectLink db b.projectId → ProjectLink db' b.projectId
  decisions : ∀ id ∈ b.sourceDecisionIds, DecisionLink db id → DecisionLink db' id
  evidence : row.id ∈ b.verificationEvidenceIds →
    (∀ r, db.find? row.id = some r → isActiveEvidence r = true → isActiveEvidence row = true)
  sources : row.id ∈ b.sourceIds → row.status = .active

theorem TypedLinks.hold_of_puts {links : Project.TypedLinks} (hlinks : links.Hold db)
    (h : db.Puts row db') (htype : row.recordType ∉ ["decision", "memory", "artifact", "policy"])
    (hproject : ∀ r, db.find? row.id = some r → row.id ∈ links.projectId.toList →
      Project.isProject r = true → Project.isProject row = true) : links.Hold db' := by
  have hother : ∀ {id : RecordId} {P : RecordEnvelope → Prop} {recordType : String},
      recordType ∈ ["decision", "memory", "artifact", "policy"] →
      (∀ r, P r → r.recordType = recordType) → db.Has id P → db'.Has id P := by
    intro id P recordType hmem hP hhas
    refine h.has (fun r hr hPr _ => ?_) hhas
    exact absurd ((h.recordType r hr).symm.trans (hP r hPr) ▸ hmem) htype
  exact {
    project := fun id hid => h.has
      (fun r hr hPr hsame => hproject r hr (hsame ▸ hid) hPr) (hlinks.project id hid)
    supersedes := fun id hid => hother (by simp)
      (fun r => Project.recordType_of_isDecision) (hlinks.supersedes id hid)
    decisions := fun id hid => hother (by simp)
      (fun r => Project.recordType_of_isDecision) (hlinks.decisions id hid)
    memories := fun id hid => hother (by simp)
      (fun r => Project.recordType_of_isMemory) (hlinks.memories id hid)
    artifacts := fun id hid => hother (by simp)
      (fun r => Project.recordType_of_isManagedArtifact) (hlinks.artifacts id hid)
    policies := fun id hid => hother (by simp)
      (fun r => Project.recordType_of_isActivePolicy) (hlinks.policies id hid) }

/-- A project that is not the row is linked to as it was. -/
theorem ProjectLink.of_puts {id : RecordId} (hlink : ProjectLink db id) (h : db.Puts row db')
    (htype : row.recordType ∉ ["decision", "memory", "artifact", "policy"]) (hne : id ≠ row.id) :
    ProjectLink db' id := by
  obtain ⟨r, hr, hproject, hactive, content, hread, hlinks⟩ := hlink
  refine ⟨r, (h.find?_of_ne hne).trans hr, hproject, hactive, content, hread, ?_⟩
  exact TypedLinks.hold_of_puts hlinks h htype fun _ _ hmem => by cases hmem

/-- A decision is linked to as it was, if the row is not its project, or can still be read. -/
theorem DecisionLink.of_puts {id : RecordId} (hlink : DecisionLink db id) (h : db.Puts row db')
    (htype : row.recordType ∉ ["decision", "memory", "artifact", "policy"])
    (hproject : ∀ r content, db.find? id = some r → Project.readDecision r = .ok content →
      content.projectId = some row.id → ∀ old, db.find? row.id = some old →
      Project.isProject old = true → Project.isProject row = true) : DecisionLink db' id := by
  obtain ⟨r, hr, hdecision, hactive, content, hread, hlinks⟩ := hlink
  have hne : id ≠ row.id := by
    rintro rfl
    refine htype ?_
    rw [← h.recordType r hr, hdecision]
    exact List.mem_cons_self
  refine ⟨r, (h.find?_of_ne hne).trans hr, hdecision, hactive, content, hread, ?_⟩
  refine TypedLinks.hold_of_puts hlinks h htype fun old hold hmem => ?_
  exact hproject r content hr hread (Option.mem_toList.1 hmem) old hold

/-- The links of a work item hold after a row of another type is put that serves it. -/
theorem Linked.of_puts {id : RecordId} {b : WorkItemContent} (hb : Linked db id b)
    (h : db.Puts row db') (htype : row.recordType ∉ ["work_item", "decision", "memory", "artifact", "policy"])
    (hserves : ServesReader db db' row b) : Linked db' id b := by
  have hitem : row.recordType ≠ "work_item" := fun e => htype (e ▸ List.mem_cons_self)
  have hother : row.recordType ∉ ["decision", "memory", "artifact", "policy"] := fun hmem =>
    htype (List.mem_cons_of_mem _ hmem)
  have hrelated : ∀ {target : RecordId} {d : WorkItemContent},
      Related db b.projectId target d → Related db' b.projectId target d := by
    rintro target d ⟨r, hr, hactive, hencodes, hproject⟩
    exact ⟨r, (find?_of_puts h hitem hencodes.recordType).2 hr, hactive, hencodes, hproject⟩
  exact {
    project := by
      by_cases hid : b.projectId = row.id
      · exact hserves.project hid.symm hb.project
      · exact hb.project.of_puts h hother hid
    dependsOn := by
      intro target htarget
      obtain ⟨d, hd⟩ := hb.dependsOn target htarget
      exact ⟨d, hrelated hd⟩
    blockedBy := by
      intro target htarget
      obtain ⟨d, hd, hopen⟩ := hb.blockedBy target htarget
      exact ⟨d, hrelated hd, hopen⟩
    acyclic := by
      rw [dependencies_of_puts h hitem]
      exact hb.acyclic
    decisions := fun target htarget => hserves.decisions target htarget (hb.decisions target htarget)
    evidence := fun target htarget => h.has
      (fun r hr hP hsame => hserves.evidence (hsame ▸ htarget) r hr hP) (hb.evidence target htarget)
    artifacts := fun target htarget => h.has (fun r hr hP _ => by
      refine absurd ?_ htype
      rw [← h.recordType r hr, recordType_of_isActiveArtifact hP]
      simp) (hb.artifacts target htarget)
    sources := fun target htarget => h.has
      (fun r hr hP hsame => ⟨hserves.sources (hsame ▸ htarget), h.sensitivity r hr ▸ hP.2⟩)
      (hb.sources target htarget) }

/-! ## Calls of the service -/

/-- The dependencies that a call gives a work item. -/
def Call.dependenciesAfter (c : WorkItemContent) : Call → Result (List RecordId)
  | .updateDefinition _ _ d _ => referenceIds "work-item dependency IDs" d.dependsOnIds
  | _ => .ok c.dependsOnIds

omit [ModuleRules] in
/-- The dependencies are written as they were validated. -/
theorem dependsOnIds_of_metadata {selfId selfId' : RecordId} {c c' : WorkItemContent}
    (h : c.Ok selfId) (h' : c'.Ok selfId') (heq : c.metadata = c'.metadata) :
    c.dependsOnIds = c'.dependsOnIds := by
  have hread := metadataIds_dependsOn h
  rw [heq, metadataIds_dependsOn h'] at hread
  exact (Except.ok.inj hread).symm

omit [ModuleRules] in
theorem dependsOnIds_of_checked {selfId selfId' : RecordId} {v : WorkItemValues}
    {c c₀ : WorkItemContent} (hchecked : Checked selfId v c) (h₀ : c₀.Ok selfId')
    (hv : v.dependsOnIds = c₀.dependsOnIds.map uuidText) : c.dependsOnIds = c₀.dependsOnIds := by
  have hread := hchecked.dependsOnIds
  rw [hv, referenceIds, referenceIds_uuidText h₀.dependsOnIds] at hread
  exact (Except.ok.inj hread).symm

/-- The update of a work item writes the dependencies that the call gives it. -/
def WritesDependencies (call : Call) (w : Write) : Prop :=
  ∀ u draft errors (c₀ c : WorkItemContent), w = .change u draft errors → Encodes u.base c₀ →
    c.Ok u.base.id → u.metadata = c.metadata → call.dependenciesAfter c₀ = .ok c.dependsOnIds

theorem updateWorkItem_dependencies {ok : (q : StateQuery) → q.Answer → Prop} {env : Surroundings}
    {workItemId : Text} {base : RecordEnvelope} {c₀ c : WorkItemContent} {v : WorkItemValues}
    {expectedRevision : Int} {operation : Option Text} {action : String} {call : Call} {w : Write}
    (hcurrent : Current ok workItemId base c₀) (hvalid : Checked base.id v c)
    (hgives : c₀.Ok base.id → call.dependenciesAfter c₀ = .ok c.dependsOnIds)
    (h : updateWorkItem env base expectedRevision c.metadata .active operation action = .ok w) :
    WritesDependencies call w := by
  rintro u draft errors c₁ c' rfl hbase hok hmetadata
  obtain ⟨-, h⟩ := check_bind_eq_ok.1 h
  obtain ⟨_, -, h⟩ := bind_eq_ok.1 h
  cases h
  obtain rfl : c₀ = c₁ := Except.ok.inj (hcurrent.content.symm.trans (readWorkItem_of_encodes hbase))
  rw [hgives hbase.ok, dependsOnIds_of_metadata hvalid.ok hok hmetadata]

theorem createWorkItem_dependencies {env : Surroundings} {metadata : Metadata}
    {provenance : RecordProvenance} {sensitivity : RecordSensitivity} {operation : Option Text}
    {action : String} {actorType : WorkItemActor} {call : Call} {w : Write}
    (h : createWorkItem env env.newId metadata provenance sensitivity operation action actorType =
      .ok w) : WritesDependencies call w := by
  rintro u draft errors c₀ c rfl
  obtain ⟨-, h⟩ := check_bind_eq_ok.1 h
  obtain ⟨-, h⟩ := check_bind_eq_ok.1 h
  obtain ⟨_, -, h⟩ := bind_eq_ok.1 h
  cases h

theorem Call.prepare_dependencies {ok : (q : StateQuery) → q.Answer → Prop} (env : Surroundings)
    (call : Call) : (call.prepare env).All ok (WritesDependencies call) := by
  cases call with
  | propose projectId kind d sensitivity caller =>
    rw [Call.prepare, WorkItem.propose]
    exact .after _ fun c => .lift fun w h => createWorkItem_dependencies h
  | create projectId kind d sensitivity caller =>
    rw [Call.prepare, WorkItem.create]
    exact .after _ fun _ => .after _ fun c => .lift fun w h => createWorkItem_dependencies h
  | updateDefinition workItemId expectedRevision d caller =>
    rw [Call.prepare, WorkItem.updateDefinition]
    refine .after _ fun _ => .bind (currentWorkItem_shown _) ?_
    rintro ⟨record, current⟩ ⟨hcurrent, hid⟩
    dsimp only at hcurrent hid ⊢
    rw [hid]
    refine .bind (validatedWorkItemValues_all _ _) fun c hvalid => .lift fun w h => ?_
    exact updateWorkItem_dependencies hcurrent hvalid.1 (fun _ => hvalid.1.dependsOnIds) h
  | transition workItemId expectedRevision toStatus occurredAt blockedByIds caller =>
    rw [Call.prepare, WorkItem.transition]
    refine .after _ fun _ => .bind (currentWorkItem_shown _) ?_
    rintro ⟨record, current⟩ ⟨hcurrent, hid⟩
    dsimp only at hcurrent hid ⊢
    rw [hid]
    refine .after _ fun s => .after _ fun _ => .after _ fun _ => .after _ fun _ => ?_
    refine .bind (validatedWorkItemValues_all _ _) fun c hvalid => .lift fun w h => ?_
    exact updateWorkItem_dependencies hcurrent hvalid.1
      (fun h₀ => congrArg _ (dependsOnIds_of_checked hvalid.1 h₀ rfl).symm) h
  | setVerification workItemId expectedRevision verificationState evidenceIds caller =>
    rw [Call.prepare, WorkItem.setVerification]
    refine .after _ fun _ => .bind (currentWorkItem_shown _) ?_
    rintro ⟨record, current⟩ ⟨hcurrent, hid⟩
    dsimp only at hcurrent hid ⊢
    rw [hid]
    refine .bind (validatedWorkItemValues_all _ _) fun c hvalid => .lift fun w h => ?_
    exact updateWorkItem_dependencies hcurrent hvalid.1
      (fun h₀ => congrArg _ (dependsOnIds_of_checked hvalid.1 h₀ rfl).symm) h
  | archive workItemId expectedRevision caller =>
    rw [Call.prepare, WorkItem.archive]
    refine .after _ fun _ => .after _ fun current => .lift fun w h => ?_
    rintro u draft errors c₀ c rfl hbase hok hmetadata
    obtain ⟨-, h⟩ := check_bind_eq_ok.1 h
    obtain ⟨_, -, h⟩ := bind_eq_ok.1 h
    cases h
    exact congrArg _ (dependsOnIds_of_metadata hbase.ok hok (hbase.metadata.symm.trans hmetadata))

/-- The graph of a work item's project with its own dependencies in it, be it archived or not. -/
def graphWith (db : Database) (a : RecordId) (b : WorkItemContent) :
    RecordId → Option (List RecordId) :=
  Function.update (dependencies db b.projectId) a (some b.dependsOnIds)

/-- The call leaves alone what the work item `a`, of the content `b`, is read with: it archives
nothing that it names, completes and cancels none of its blockers, and gives no work item
dependencies that lead back to it over `a`. -/
def Call.Spares (db : Database) (a : RecordId) (b : WorkItemContent) : Call → Prop
  | .archive workItemId _ _ => ∀ x, uuid workItemId = some x →
      x ∉ b.dependsOnIds ∧ x ∉ b.blockedByIds ∧ x ∉ b.sourceIds
  | .transition workItemId _ toStatus _ _ _ => ∀ x s, uuid workItemId = some x →
      parseWorkStatus toStatus = .ok s → s.Terminal → x ∉ b.blockedByIds
  | .updateDefinition workItemId _ d _ => ∀ x ids, uuid workItemId = some x → x ≠ a →
      referenceIds "work-item dependency IDs" d.dependsOnIds = .ok ids →
      ∀ target ∈ ids, ¬ Digraph.Reaches (Digraph.edges (graphWith db a b)) target x
  | _ => True

/-- The graph after a call, with the work item in it, has no cycle. -/
theorem Put.acyclic_graphWith {call : Call} {c b : WorkItemContent} {a : RecordId}
    (hput : Put (answersOf db) db db' row c) (hreplaces : Replaces db row c)
    (hground : Grounded db) (hne : a ≠ row.id) (hb : Linked db a b)
    (hchanged : ∀ base c₀, db.find? row.id = some base → Encodes base c₀ →
      base.status = .active ∧ call.dependenciesAfter c₀ = .ok c.dependsOnIds ∧
        ∃ workItemId, call.target? = some workItemId ∧ uuid workItemId = some row.id)
    (hspares : call.Spares db a b) : Digraph.Acyclic (Digraph.edges (graphWith db' a b)) := by
  rw [graphWith, hput.dependencies_eq, Function.update_comm hne.symm]
  by_cases hin : row.status = .active ∧ c.projectId = b.projectId
  · rw [if_pos hin]
    have hself : row.id ∉ c.dependsOnIds := hput.encodes.ok.irreflexive.1
    cases hbase : db.find? row.id with
    | none =>
      -- nothing depends on what does not exist
      refine hb.acyclic.update_of_source (fun x ids hx hids hmem => ?_) hself
      by_cases hxa : x = a
      · rw [hxa, Function.update_self] at hids
        cases hids
        obtain ⟨_, r, hr, -⟩ := hb.dependsOn _ hmem
        cases hbase.symm.trans hr
      · rw [Function.update_of_ne hxa] at hids
        have hsome := hground.isSome_of_mem hids hmem
        rw [hbase] at hsome
        cases hsome
    | some base =>
      obtain ⟨c₀, hencodes⟩ := hground.wellFormed _ _ hbase (hreplaces.recordType _ hbase)
      obtain ⟨hactive, hgives, workItemId, htarget, hid⟩ := hchanged base c₀ hbase hencodes
      have hold : graphWith db a b row.id = some c₀.dependsOnIds := by
        rw [graphWith, Function.update_of_ne hne.symm, dependencies_of_encodes hbase hencodes,
          if_pos ⟨hactive, (hreplaces.project _ _ hbase hencodes).symm.trans hin.2⟩]
      have hsame : c₀.dependsOnIds = c.dependsOnIds →
          Digraph.Acyclic (Digraph.edges (Function.update (graphWith db a b) row.id
            (some c.dependsOnIds))) := by
        intro heq
        rw [← heq, ← hold, Function.update_eq_self]
        exact hb.acyclic
      cases call with
      | updateDefinition _ expectedRevision d caller =>
        cases htarget
        refine (hb.acyclic.update_iff (g := graphWith db a b) (by rw [hold]; rfl)).2 ?_
        intro target hmem
        exact ⟨fun e => hself (e ▸ hmem), hspares _ _ hid hne.symm hgives target hmem⟩
      | propose => cases htarget
      | create => cases htarget
      | transition => exact hsame (Except.ok.inj hgives)
      | setVerification => exact hsame (Except.ok.inj hgives)
      | archive => exact hsame (Except.ok.inj hgives)
  · rw [if_neg hin]
    refine hb.acyclic.edges_mono fun x ids hids => ?_
    by_cases hx : x = row.id
    · rw [hx, Function.update_self] at hids
      cases hids
    · rw [Function.update_of_ne hx] at hids
      exact ⟨ids, hids, List.Subset.refl _⟩

/-- What a work item is that can be read. -/
structure LinkedItem (db : Database) (a : RecordId) (r : RecordEnvelope) (b : WorkItemContent) :
    Prop where
  row : db.find? a = some r
  encodes : Encodes r b
  linked : Linked db a b

theorem Call.Commits.keeps {call : Surroundings × Call} (h : Call.Commits db call db')
    (hground : Grounded db) (hnone : NoCycle db) : Grounded db' ∧ NoCycle db' := by
  obtain ⟨w, hw⟩ := h.committed hground.wellFormed
  obtain ⟨row, c, hput, -, -⟩ := h.puts hground.wellFormed
  exact ⟨hw.grounded hground (answersOf_seen hground.wellFormed),
    hput.noCycle (hput.linked hground.wellFormed) hnone⟩

/-- What is read with the row that a call puts in place, when the call spares it. -/
theorem Puts.serves {call : Call} {c b : WorkItemContent} {a : RecordId} (h : Puts db call row c)
    (hrow : Encodes row c) (hb : Linked db a b) (hspares : call.Spares db a b) : Serves row c b := by
  cases h with
  | created htarget hfree hactive =>
    refine ⟨fun _ => hactive, fun hmem => ?_, fun _ => hactive⟩
    obtain ⟨_, ⟨r, hr, -⟩, -⟩ := hb.blockedBy _ hmem
    cases hfree.symm.trans hr
  | @changed workItemId base c₀ htarget hid hbase hactive hencodes harchives hstatus =>
    have hopen : ¬ call.Archives → row.status = .active := fun hnot =>
      hrow.status.resolve_right fun harchived => hnot (harchives.1 harchived)
    -- a blocker that keeps its status is still open
    have hkeeps : c.workStatus = c₀.workStatus → row.id ∈ b.blockedByIds →
        ¬ c.workStatus.Terminal := by
      intro hsame hmem
      obtain ⟨_, ⟨r, hr, -, hencodes', -⟩, hnot⟩ := hb.blockedBy _ hmem
      cases hbase.symm.trans hr
      cases hencodes.unique hencodes'
      exact hsame ▸ hnot
    cases call with
    | propose => cases htarget
    | create => cases htarget
    | updateDefinition =>
      have hsame := WorkItemStatus.text_injective hstatus
      exact ⟨fun _ => hopen id, fun hmem => ⟨hopen id, hkeeps hsame hmem⟩, fun _ => hopen id⟩
    | setVerification =>
      have hsame := WorkItemStatus.text_injective hstatus
      exact ⟨fun _ => hopen id, fun hmem => ⟨hopen id, hkeeps hsame hmem⟩, fun _ => hopen id⟩
    | transition _ _ toStatus =>
      cases htarget
      refine ⟨fun _ => hopen id, fun hmem => ⟨hopen id, fun hterminal => ?_⟩, fun _ => hopen id⟩
      exact hspares _ _ hid (parseWorkStatus_eq_ok.2 hstatus) hterminal hmem
    | archive =>
      cases htarget
      obtain ⟨h₁, h₂, h₃⟩ := hspares _ hid
      exact ⟨fun hmem => absurd hmem h₁, fun hmem => absurd hmem h₂, fun hmem => absurd hmem h₃⟩

/-- A work item that can be read before a call that spares it can be read after it. -/
theorem Call.Commits.linked {call : Surroundings × Call} (h : Call.Commits db call db')
    (hground : Grounded db) {a : RecordId} {r : RecordEnvelope} {b : WorkItemContent}
    (hb : LinkedItem db a r b) (hspares : call.2.Spares db a b) :
    ∃ r' b', LinkedItem db' a r' b' ∧ b'.projectId = b.projectId ∧
      r'.sensitivity = r.sensitivity := by
  have hwf := hground.wellFormed
  obtain ⟨w, hon, hcommit⟩ := h
  have hprepared := post_of_on (call.2.prepare_all call.1) hon
  have hwrites := post_of_on (call.2.prepare_dependencies call.1) hon
  obtain ⟨row, c, hput, hreplaces, hputs, hfound⟩ :=
    (hprepared.committed hwf (answersOf_seen hwf) hcommit).puts
  have hlinked := hput.linked hwf
  by_cases hid : a = row.id
  · subst hid
    have hproject := hreplaces.project r b hb.row hb.encodes
    have hok := hput.encodes.ok
    refine ⟨row, c, ⟨hput.find?_self, hput.encodes, ?_⟩, hproject,
      (hreplaces.sensitivity r hb.row).symm⟩
    refine hlinked.of_put hput hreplaces ⟨fun hmem => absurd hmem hok.irreflexive.1,
      fun hmem => absurd hmem hok.irreflexive.2, fun hmem => absurd hmem hok.noSelfSource⟩ ?_
    rw [hput.dependencies_eq, Function.update_idem]
    exact hlinked.acyclic
  · refine ⟨r, b, ⟨(hput.find?_of_ne hid).trans hb.row, hb.encodes, ?_⟩, rfl, rfl⟩
    refine hb.linked.of_put hput hreplaces (hputs.serves hput.encodes hb.linked hspares) ?_
    refine hput.acyclic_graphWith hreplaces hground hid hb.linked (fun base c₀ hbase hencodes => ?_)
      hspares
    obtain ⟨u, draft, errors, hw, rfl, hmetadata⟩ := hfound base hbase
    have hbaseId : row.id = u.base.id := (Database.id_of_find? hbase).symm
    have hgives := hwrites u draft errors c₀ c hw hencodes (hbaseId ▸ hput.encodes.ok) hmetadata
    cases hputs with
    | created htarget hfree => cases hfree.symm.trans hbase
    | changed htarget hid' hbase' hactive =>
      cases hbase.symm.trans hbase'
      exact ⟨hactive, hgives, _, htarget, hid'⟩

end

end DollState.WorkItem
