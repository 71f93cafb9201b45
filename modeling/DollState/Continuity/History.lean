import DollState.Continuity.Preflight
import DollState.Domain.ExperienceHistory
import DollState.Library.Asked

/-!
# What history does to a preflight

The last check of a preflight looks at the failed experiences of the project, and it only advises: two
databases that differ in their experiences alone get the same decision from everything else, and differ at
most between `clear` and `warning` (`adviceOnly`). Over a run of the services, the experiences that it warns
of are those that some call has recorded, in scope, and that no later call has superseded
(`priorFailure_mem_iff`), whoever made either of the calls.
-/

namespace DollState.Continuity

open StateLib Capability ReadProgram

/-! ## Databases that differ in their experiences -/

/-- The rows that are no experiences are the same. -/
def SameButExperience (db db' : Database) : Prop :=
  (db'.records.rows.filter fun r => r.recordType ≠ "project_experience") =
    db.records.rows.filter fun r => r.recordType ≠ "project_experience"

namespace SameButExperience

variable {db db' : Database}

/-- A record that both databases have is one record if it is no experience in the first. -/
theorem eq_of_find? (h : SameButExperience db db') {id : RecordId} {r r' : RecordEnvelope}
    (hr : db.find? id = some r) (hr' : db'.find? id = some r') (htype : r.recordType ≠ "project_experience") :
    r = r' := by
  have hmem : r ∈ db'.records.rows.filter fun r => r.recordType ≠ "project_experience" := by
    rw [h, List.mem_filter]
    exact ⟨(Database.find?_eq_some.1 hr).1, by simpa using htype⟩
  have hfound := Database.mem_iff_find?.1 (List.mem_of_mem_filter hmem)
  rw [Database.id_of_find? hr, hr'] at hfound
  exact (Option.some.inj hfound).symm

theorem activeIds_eq (h : SameButExperience db db') {recordType : String}
    (htype : recordType ≠ "project_experience") :
    db'.answer (.activeIds recordType) = db.answer (.activeIds recordType) := by
  have hrows : ∀ d : Database, (d.records.rows.filter fun r => r.recordType = recordType ∧ r.status = .active) =
      (d.records.rows.filter fun r => r.recordType ≠ "project_experience").filter
        fun r => r.recordType = recordType ∧ r.status = .active := by
    intro d
    rw [List.filter_filter]
    refine List.filter_congr fun r _ => ?_
    by_cases hr : r.recordType = recordType
    · simp [hr, htype]
    · simp [hr]
  show (List.filter _ _).map _ = (List.filter _ _).map _
  rw [hrows db, hrows db', h]

end SameButExperience

/-! ## What the experiences add -/

theorem mem_sortedCodes {codes : List WarningCode} {code : WarningCode} : code ∈ sortedCodes codes ↔ code ∈ codes := by
  unfold sortedCodes
  rw [List.mem_insertionSort, List.mem_dedup]

/-- The findings, and the experiences that are warned of. -/
def Findings.advised (f : Findings) (items : List Experience.ExperienceInfo) : Findings :=
  (f.addMatched (items.map fun item => item.experienceId)).warn
    (items.map fun item => .priorFailure item.content.assertionState)

/-- The experiences that a preflight warns of, among those of the project. -/
def relevant (workItemId : Option RecordId) (experiences : List Experience.ExperienceInfo) :
    List Experience.ExperienceInfo :=
  experiences.filter fun item => item.experienceId ∉ experiences.filterMap (fun item => item.content.supersedesId) ∧
    item.content.outcome = some .failed ∧ inScope workItemId item = true

/-- The second result differs from the first in what it advises, and in nothing that decides. -/
structure AdviceOnly (r r' : ContinuityPreflightResult) : Prop where
  projectId : r'.projectId = r.projectId
  proposedActionClass : r'.proposedActionClass = r.proposedActionClass
  authoritativeBlockerIds : r'.authoritativeBlockerIds = r.authoritativeBlockerIds
  requiresConfirmation : r'.requiresConfirmation = r.requiresConfirmation
  warningCodes : ∀ code, (∀ assertionState, code ≠ .priorFailure assertionState) →
    (code ∈ r'.warningCodes ↔ code ∈ r.warningCodes)
  status : r'.status = r.status ∨
    (r.status = .clear ∨ r.status = .warning) ∧ (r'.status = .clear ∨ r'.status = .warning)

theorem mem_advised {f : Findings} {items : List Experience.ExperienceInfo} {code : WarningCode} :
    code ∈ (f.advised items).warnings ↔
      code ∈ f.warnings ∨ ∃ item ∈ items, code = .priorFailure item.content.assertionState := by
  show code ∈ f.warnings ++ _ ↔ _
  rw [List.mem_append, List.mem_map]
  simp only [eq_comm]

/-- A warning of an experience blocks nothing. -/
theorem any_blocks_advised (f : Findings) (items : List Experience.ExperienceInfo) :
    (f.advised items).warnings.any WarningCode.blocks = f.warnings.any WarningCode.blocks := by
  rw [Bool.eq_iff_iff, List.any_eq_true, List.any_eq_true]
  constructor
  · rintro ⟨code, hcode, hblocks⟩
    rcases mem_advised.1 hcode with hcode | ⟨item, -, rfl⟩
    · exact ⟨code, hcode, hblocks⟩
    · cases hblocks
  · rintro ⟨code, hcode, hblocks⟩
    exact ⟨code, mem_advised.2 (.inl hcode), hblocks⟩

theorem status_advised (f : Findings) (items : List Experience.ExperienceInfo) :
    (f.advised items).status = f.status ∨ f.status = .clear ∧ (f.advised items).status = .warning := by
  have hblockers : (f.advised items).blockers = f.blockers := rfl
  have hconfirmation : (f.advised items).requiresConfirmation = f.requiresConfirmation := rfl
  unfold Findings.status
  rw [any_blocks_advised, hblockers, hconfirmation]
  by_cases hblocked : f.blockers ≠ [] ∨ f.warnings.any WarningCode.blocks = true
  · rw [if_pos hblocked, if_pos hblocked]
    exact .inl rfl
  · rw [if_neg hblocked, if_neg hblocked]
    by_cases hconfirm : f.requiresConfirmation = true
    · rw [if_pos hconfirm, if_pos hconfirm]
      exact .inl rfl
    · rw [if_neg hconfirm, if_neg hconfirm]
      by_cases hwarned : f.warnings = []
      · by_cases hitems : (f.advised items).warnings = []
        · simp [hwarned, hitems]
        · simp [hwarned, hitems]
      · have hitems : (f.advised items).warnings ≠ [] := by
          intro hnil
          exact hwarned (List.append_eq_nil_iff.1 hnil).1
        simp [hwarned, hitems]

theorem adviceOnly_advised (f : Findings) (items items' : List Experience.ExperienceInfo) (projectId : RecordId)
    (action : Text) :
    AdviceOnly ((f.advised items).result projectId action) ((f.advised items').result projectId action) where
  projectId := rfl
  proposedActionClass := rfl
  authoritativeBlockerIds := rfl
  requiresConfirmation := rfl
  warningCodes code hcode := by
    have hnot : ∀ items : List Experience.ExperienceInfo,
        ¬ ∃ item ∈ items, code = .priorFailure item.content.assertionState := by
      rintro items ⟨item, -, rfl⟩
      exact hcode _ rfl
    show code ∈ sortedCodes _ ↔ code ∈ sortedCodes _
    rw [mem_sortedCodes, mem_sortedCodes, mem_advised, mem_advised, or_iff_left (hnot _), or_iff_left (hnot _)]
  status := by
    show (f.advised items').status = (f.advised items).status ∨ _
    rcases status_advised f items with h | ⟨h, hw⟩
    · rcases status_advised f items' with h' | ⟨h', hw'⟩
      · exact .inl (h'.trans h.symm)
      · exact .inr ⟨.inl (h.trans h'), .inr hw'⟩
    · rcases status_advised f items' with h' | ⟨-, hw'⟩
      · exact .inr ⟨.inr hw, .inl (h'.trans h)⟩
      · exact .inl (hw'.trans hw.symm)

/-- None of the warnings is of an experience. -/
def Findings.Sober (f : Findings) : Prop := ∀ assertionState, WarningCode.priorFailure assertionState ∉ f.warnings

theorem Findings.Sober.warn {f : Findings} (h : f.Sober) (code : WarningCode)
    (hcode : ∀ assertionState, code ≠ .priorFailure assertionState) : (f.warn [code]).Sober := by
  intro assertionState hmem
  rcases List.mem_append.1 hmem with hmem | hmem
  · exact h assertionState hmem
  · exact hcode assertionState (List.mem_singleton.1 hmem).symm

/-! ## Everything else decides alike -/

/-- A reader of records of another type, each by its identifier. -/
theorem concordant_record {db db' : Database} (h : SameButExperience db db') {p : Reader RecordEnvelope}
    (id : RecordId) {recordType : String} (htype : recordType ≠ "project_experience")
    (hp : ∀ d r, p.on d = .ok r → d.find? id = some r ∧ r.recordType = recordType) :
    Concordant db.answer db'.answer p := by
  intro r r' hr hr'
  obtain ⟨hfind, hrtype⟩ := hp db r hr
  exact h.eq_of_find? hfind (hp db' r' hr').1 (hrtype ▸ htype)

section

variable [PythonLibrary] {db db' : Database}

/-- The record of an identifier in any notation, and the check of its type. -/
theorem concordant_uuid (h : SameButExperience db db') {recordType name : String} {kind : ErrorKind}
    {missing wrong : DollError} {text : Text} (htype : recordType ≠ "project_experience") :
    Concordant db.answer db'.answer (do
      let safeId ← uuidField kind name text
      let record ← ReadProgram.catching (DollError.isA [.key]) missing (getRecord safeId)
      ensure (record.recordType = recordType) wrong
      return record : Reader RecordEnvelope) := by
  cases hid : uuid text with
  | none =>
    intro r r' hr
    rw [run_bind] at hr
    obtain ⟨id, hsafe, -⟩ := bind_eq_ok.1 hr
    cases hid.symm.trans (uuidField_eq_ok.1 hsafe)
  | some id =>
    refine concordant_record h id htype fun d r hr => ?_
    simp only [Reader.on, run_bind, run_lift, bind_eq_ok, uuidField_eq_ok, run_catching, catching_eq_ok,
      ensure_eq_ok, exists_const, run_pure] at hr
    obtain ⟨id', hid', record, hrecord, hrtype, hr⟩ := hr
    cases hid.symm.trans hid'
    cases hr
    exact ⟨Database.getRecord_eq_ok.1 hrecord, hrtype⟩

/-- The record of an identifier in its canonical notation, and the check of its type. -/
theorem concordant_canonical (h : SameButExperience db db') {recordType : String} {wrong : DollError}
    {text : Text} (htype : recordType ≠ "project_experience") :
    Concordant db.answer db'.answer (do
      let record ← getRecordText text
      ensure (record.recordType = recordType) wrong
      return record : Reader RecordEnvelope) := by
  by_cases hid : ∃ id, text = uuidText id
  · obtain ⟨id, rfl⟩ := hid
    refine concordant_record h id htype fun d r hr => ?_
    simp only [Reader.on, run_bind, run_lift, bind_eq_ok, ensure_eq_ok, exists_const, run_pure] at hr
    obtain ⟨record, hrecord, hrtype, hr⟩ := hr
    cases hr
    obtain ⟨id', hsame, hfind⟩ := (getRecordText_on _ d).1 hrecord
    exact ⟨uuidText_injective hsame ▸ hfind, hrtype⟩
  · intro r r' hr
    rw [run_bind] at hr
    obtain ⟨record, hrecord, -⟩ := bind_eq_ok.1 hr
    obtain ⟨id, hsame, -⟩ := (getRecordText_on _ db).1 hrecord
    exact absurd ⟨id, hsame⟩ hid

theorem concordant_addPolicy (h : SameButExperience db db') (f : Findings) (policyId : Text) :
    Concordant db.answer db'.answer (addPolicy f policyId) := by
  refine .bind (.catching (.bind (concordant_canonical h (by decide)) fun _ _ _ => .lift _)) fun _ _ _ => ?_
  exact .after _ (.after _ (.pure _))

section

variable [CaseLibrary] [FloatLibrary]

/-- The permissions are read from the rows that are permissions. -/
theorem concordant_resolve (h : SameButExperience db db') (ctx : Settings.Context) (capabilityId : Text)
    (scope : Settings.Scope) :
    Concordant db.answer db'.answer (Settings.Permission.resolve ctx capabilityId scope) := by
  refine .bind (.lift _) fun _ _ _ => .bind (.lift _) fun _ _ _ => ?_
  refine .bind (.read (h.activeIds_eq (by decide))) fun ids hids _ => ?_
  refine .bind (.collect fun id hid => ?_) fun _ _ _ => .bind (.lift _) fun _ _ _ => ?_
  · intro r r' hr hr'
    have hids : ids = db.answer (.activeIds "permission") := (Except.ok.inj hids).symm
    rw [hids] at hid
    obtain ⟨row, hrow, rfl⟩ := List.mem_map.1 hid
    obtain ⟨hmem, hactive⟩ := List.mem_filter.1 hrow
    have hfind := Database.getRecord_eq_ok.1 hr
    cases (Database.mem_iff_find?.1 hmem).symm.trans hfind
    refine h.eq_of_find? hfind (Database.getRecord_eq_ok.1 hr') ?_
    rw [(of_decide_eq_true hactive).1]
    decide
  · split
    · exact .pure _
    · exact .pure _
    · exact .lift _

theorem concordant_addPermission (h : SameButExperience db db') (service : ContinuityPreflightService)
    (definition : CapabilityDefinition) (scope : Settings.Scope) (f : Findings) :
    Concordant db.answer db'.answer (addPermission service definition scope f) := by
  refine .bind (.catching (concordant_resolve h _ _ _)) fun _ _ _ => .after _ ?_
  split
  · exact .pure _
  · split
    · exact .pure _
    · exact .pure _

theorem concordant_checkCapability (h : SameButExperience db db') (service : ContinuityPreflightService)
    (request : PreflightRequest) (f : Findings) :
    Concordant db.answer db'.answer (checkCapability service request f) := by
  unfold checkCapability
  split
  · refine .bind (.lift _) fun definition _ _ => .bind ?_ fun _ _ _ => ?_
    · unfold addScope
      split
      · exact .after _ (.pure _)
      · exact .bind (.lift _) fun scope _ _ => concordant_addPermission h _ _ _ _
    · split
      · exact .pure _
      · exact .pure _
  · exact .after _ (.pure _)
  · exact .lift _

end

section

variable [ModuleRules]

theorem concordant_project (h : SameButExperience db db') (projectId : Text) :
    Concordant db.answer db'.answer (checkedProject projectId) := by
  refine .bind (.catching (.bind (concordant_canonical h (by decide)) fun record _ _ => ?_)) fun _ _ _ =>
    .after _ (.pure _)
  exact .catching (.bind (.lift _) fun _ _ _ => .after _ (.pure _))

theorem concordant_workItem (h : SameButExperience db db') (workItemId : Text) :
    Concordant db.answer db'.answer (WorkItem.get workItemId) := by
  refine .bind (concordant_uuid h (by decide)) fun record _ _ => ?_
  exact .catching (.bind (.lift _) fun _ _ _ => .after _ (.pure _))

theorem concordant_procedure (h : SameButExperience db db') (procedureId : Text) :
    Concordant db.answer db'.answer (Procedure.get procedureId) := by
  refine .bind (concordant_uuid h (by decide)) fun record _ _ => ?_
  exact .catching (.bind (.lift _) fun _ _ _ => .after _ (.pure _))

theorem concordant_addWorkItem (h : SameButExperience db db') (projectId : RecordId) (workItemId : Text)
    (f : Findings) : Concordant db.answer db'.answer (addWorkItem projectId workItemId f) := by
  refine .bind (.catching (concordant_workItem h _)) fun item _ _ => .after _ (.after _ ?_)
  refine .bind (.foldlM (fun f id _ => ?_) _) fun _ _ _ => .pure _
  refine .bind (.catching (concordant_workItem h _)) fun dependency _ _ => .after _ ?_
  split
  · exact .pure _
  · exact .pure _

theorem concordant_addProcedure (h : SameButExperience db db') (projectId : RecordId) (f : Findings)
    (procedureId : Text) : Concordant db.answer db'.answer (addProcedure projectId f procedureId) := by
  refine .bind (.catching (concordant_procedure h _)) fun _ _ _ => .after _ (.after _ (.after _ ?_))
  split
  · exact .pure _
  · exact .pure _

theorem concordant_checkRecords (h : SameButExperience db db') (service : ContinuityPreflightService)
    (request : PreflightRequest) : Concordant db.answer db'.answer (checkRecords service request) := by
  refine .after _ (.bind (.lift _) fun _ _ _ => .bind (.lift _) fun _ _ _ => .bind (.lift _) fun _ _ _ => ?_)
  refine .bind (concordant_project h _) fun project _ _ => ?_
  dsimp only
  split
  · refine .bind (.pure _) fun _ _ _ => .bind (.foldlM (fun f id _ => ?_) _) fun _ _ _ =>
      .bind (.foldlM (fun f id _ => ?_) _) fun _ _ _ => .pure _
    · exact concordant_addPolicy h f id
    · exact concordant_addProcedure h project.projectId f id
  · refine .bind (concordant_addWorkItem h _ _ _) fun _ _ _ => .bind (.pure _) fun _ _ _ =>
      .bind (.foldlM (fun f id _ => ?_) _) fun _ _ _ => .bind (.foldlM (fun f id _ => ?_) _) fun _ _ _ => .pure _
    · exact concordant_addPolicy h f id
    · exact concordant_addProcedure h project.projectId f id

end

end

/-! ## The preflight as a whole -/

section

variable [PythonLibrary] [ModuleRules] [CaseLibrary] [FloatLibrary] {db db' : Database}

/-- A preflight that returns. -/
theorem of_check {service : ContinuityPreflightService} {request : PreflightRequest}
    {result : ContinuityPreflightResult} (h : (check service request).on db = .ok result) :
    ∃ action projectId workItemId f₀ f experiences,
      (checkRecords service request).on db = .ok (action, projectId, workItemId, f₀) ∧
      (checkCapability service request f₀).on db = .ok f ∧
      (db.answer (.activeIds "project_experience")).length ≤ maxProjectExperiences ∧
      (Experience.list (some (uuidText projectId)) false maxProjectExperiences).on db = .ok experiences ∧
      result = (f.advised (relevant workItemId experiences)).result projectId action := by
  unfold check at h
  rw [Reader.on, run_bind] at h
  obtain ⟨⟨action, projectId, workItemId, f₀⟩, hrecords, h⟩ := bind_eq_ok.1 h
  rw [run_bind] at h
  obtain ⟨f, hcapability, h⟩ := bind_eq_ok.1 h
  rw [run_bind] at h
  obtain ⟨g, hadvised, h⟩ := bind_eq_ok.1 h
  cases h
  unfold addFailedExperienceWarnings at hadvised
  simp only [run_bind, run_lift, run_catching] at hadvised
  obtain ⟨active, hactive, h₁⟩ := bind_eq_ok.1 hadvised
  obtain ⟨hcount, h₂⟩ := check_bind_eq_ok.1 h₁
  obtain ⟨experiences, hlist, h₃⟩ := bind_eq_ok.1 h₂
  cases hactive
  cases h₃
  exact ⟨action, projectId, workItemId, f₀, f, experiences, hrecords, hcapability, ensure_eq_ok.1 hcount,
    catching_eq_ok.1 hlist, rfl⟩

/-- History only advises: whatever experiences a database holds, the decision is that of its other records. -/
theorem adviceOnly (h : SameButExperience db db') {service : ContinuityPreflightService}
    {request : PreflightRequest} {r r' : ContinuityPreflightResult} (hr : (check service request).on db = .ok r)
    (hr' : (check service request).on db' = .ok r') : AdviceOnly r r' := by
  obtain ⟨action, projectId, workItemId, f₀, f, items, hrecords, hcapability, -, -, rfl⟩ := of_check hr
  obtain ⟨action', projectId', workItemId', f₀', f', items', hrecords', hcapability', -, -, rfl⟩ := of_check hr'
  cases concordant_checkRecords h service request _ _ hrecords hrecords'
  cases concordant_checkCapability h service request f₀ _ _ hcapability hcapability'
  exact adviceOnly_advised f _ _ _ _

end

/-! ## Warnings of the other checks -/

section

variable [PythonLibrary] {ok : (q : StateQuery) → q.Answer → Prop}

theorem addPolicy_sober {f : Findings} (h : f.Sober) (id : Text) : (addPolicy f id).All ok Findings.Sober :=
  .after _ fun _ => .after _ fun _ => .after _ fun _ =>
    .pure (Findings.Sober.warn h .policyDenial (by simp))

section

variable [CaseLibrary] [FloatLibrary]

theorem addScope_sober (service : ContinuityPreflightService) (definition : CapabilityDefinition)
    (permissionScope : Option Settings.Scope) {f : Findings} (h : f.Sober) :
    (addScope service definition permissionScope f).All ok Findings.Sober := by
  unfold addScope
  split
  · exact .after _ fun _ => .pure h
  · refine .after _ fun scope => .after _ fun permission => .after _ fun _ => ?_
    dsimp only
    split
    · exact .pure (Findings.Sober.warn h .userActionRequired (by simp))
    · split
      · exact .pure h
      · exact .pure (Findings.Sober.warn h (.permissionDenied permission.reason) (by simp))

theorem checkCapability_sober (service : ContinuityPreflightService) (request : PreflightRequest)
    {f : Findings} (h : f.Sober) : (checkCapability service request f).All ok Findings.Sober := by
  unfold checkCapability
  split
  · refine .after _ fun definition => .bind (m := Findings.Sober) (addScope_sober _ _ _ ?_) fun f hf => ?_
    · split
      · exact Findings.Sober.warn h .highRiskConfirmationRequired (by simp)
      · exact h
    · split
      · exact .pure hf
      · exact .pure (Findings.Sober.warn hf .releaseExcluded (by simp))
  · exact .after _ fun _ => .pure h
  · exact .lift fun _ hr => by cases hr

end

variable [ModuleRules]

theorem addDependency_sober (projectId : RecordId) {f : Findings} (h : f.Sober) (id : RecordId) :
    (addDependency projectId f id).All ok Findings.Sober := by
  refine .after _ fun dependency => .after _ fun _ => ?_
  split
  · exact .pure (Findings.Sober.warn h .dependencyIncomplete (by simp))
  · exact .pure h

theorem addWorkItem_sober (projectId : RecordId) (workItemId : Text) {f : Findings} (h : f.Sober) :
    (addWorkItem projectId workItemId f).All ok fun x => x.2.Sober := by
  refine .after _ fun item => .after _ fun _ => .after _ fun _ => ?_
  refine .bind (m := Findings.Sober) (.foldlM (fun f hf id _ => addDependency_sober projectId hf id) ?_)
    fun f hf => .pure hf
  split
  · exact Findings.Sober.warn h .workItemBlocked (by simp)
  · exact h

theorem addProcedure_sober (projectId : RecordId) {f : Findings} (h : f.Sober) (id : Text) :
    (addProcedure projectId f id).All ok Findings.Sober := by
  refine .after _ fun procedure => .after _ fun _ => .after _ fun _ => .after _ fun _ => ?_
  split
  · exact .pure (Findings.Sober.warn h .procedureNotApproved (by simp))
  · exact .pure h

theorem checkRecords_sober (service : ContinuityPreflightService) (request : PreflightRequest) :
    (checkRecords service request).All ok fun x => x.2.2.2.Sober := by
  have hempty : Findings.empty.Sober := by
    intro assertionState hmem
    cases hmem
  have htail : ∀ {f : Findings} {policyIds procedureIds : List Text} {projectId : RecordId} {action : Text}
      {workItemId : Option RecordId}, f.Sober →
      (do let f ← policyIds.foldlM addPolicy f
          let f ← procedureIds.foldlM (addProcedure projectId) f
          return (action, projectId, workItemId, f) : Reader (Text × RecordId × Option RecordId × Findings)).All ok
        fun x => x.2.2.2.Sober := by
    intro f policyIds procedureIds projectId action workItemId hf
    refine .bind (m := Findings.Sober) (.foldlM (fun f hf id _ => addPolicy_sober hf id) hf) fun f hf => ?_
    exact .bind (m := Findings.Sober) (.foldlM (fun f hf id _ => addProcedure_sober projectId hf id) hf)
      fun f hf => .pure hf
  refine .after _ fun _ => .after _ fun _ => .after _ fun _ => .after _ fun _ => .after _ fun project => ?_
  dsimp only
  split
  · exact .bind (m := fun x => x.2.Sober) (.pure hempty) fun x hx => htail hx
  · exact .bind (addWorkItem_sober _ _ hempty) fun x hx =>
      .bind (m := fun x => x.2.Sober) (.pure hx) fun x hx => htail hx

end

/-! ## The experiences of a project -/

/-- The identifiers of all experiences, in the order of their creation. -/
def createdEvents (db : Database) : List RecordId := db.answer (.createdIds "project_experience")

section

variable [PythonLibrary] [ModuleRules] {db : Database}

/-- The active experiences of a project that can be read, in the order of their creation. -/
def eventsFrom (db : Database) (projectId : RecordId) (ids : List RecordId) : List Experience.ExperienceInfo :=
  (ids.filterMap fun id => ((Experience.get (uuidText id)).on db).toOption).filter fun item =>
    item.lifecycleStatus = .active ∧ item.content.projectId = projectId

/-- The active experiences of a project. -/
def eventsOf (db : Database) (projectId : RecordId) : List Experience.ExperienceInfo :=
  eventsFrom db projectId (createdEvents db)

theorem eventsFrom_cons {projectId id : RecordId} {ids : List RecordId} {item : Experience.ExperienceInfo}
    (h : (Experience.get (uuidText id)).on db = .ok item) :
    eventsFrom db projectId (id :: ids) =
      if item.lifecycleStatus = .active ∧ item.content.projectId = projectId then
        item :: eventsFrom db projectId ids
      else eventsFrom db projectId ids := by
  unfold eventsFrom
  rw [List.filterMap_cons, h]
  show List.filter _ (item :: _) = _
  rw [List.filter_cons]
  simp only [decide_eq_true_eq]

/-- A list that its limit does not cut short has all the events. -/
theorem listFrom_eq {projectId : RecordId} {limit : ℕ} {ids : List RecordId}
    {found items : List Experience.ExperienceInfo}
    (hlimit : found.length + (eventsFrom db projectId ids).length ≤ limit)
    (h : (Experience.listFrom (some projectId) false limit found ids).on db = .ok items) :
    items = found ++ eventsFrom db projectId ids := by
  induction ids generalizing found with
  | nil =>
    cases h
    exact (List.append_nil _).symm
  | cons id ids ih =>
    rw [Experience.listFrom, Reader.on, run_bind] at h
    obtain ⟨item, hitem, h⟩ := bind_eq_ok.1 h
    rw [eventsFrom_cons hitem] at hlimit ⊢
    have hskip : ((!false && decide (item.lifecycleStatus ≠ .active)) ||
        (some projectId).any (item.content.projectId ≠ ·)) = true ↔
          ¬ (item.lifecycleStatus = .active ∧ item.content.projectId = projectId) := by
      simp only [Bool.not_false, Bool.true_and, Option.any_some, Bool.or_eq_true, decide_eq_true_eq]
      exact not_and_or.symm
    by_cases hmine : item.lifecycleStatus = .active ∧ item.content.projectId = projectId
    · rw [if_neg (fun hs => hskip.1 hs hmine)] at h
      rw [if_pos hmine, List.length_cons] at hlimit
      rw [if_pos hmine]
      split at h
      · rename_i hfull
        rw [List.length_append, List.length_singleton] at hfull
        have hnone : eventsFrom db projectId ids = [] := List.length_eq_zero_iff.1 (by omega)
        cases h
        rw [hnone]
      · rw [ih (by rw [List.length_append, List.length_singleton]; omega) h, List.append_assoc]
        rfl
    · rw [if_pos (hskip.2 hmine)] at h
      rw [if_neg hmine] at hlimit ⊢
      exact ih hlimit h

theorem of_get {id : RecordId} {item : Experience.ExperienceInfo}
    (h : (Experience.get (uuidText id)).on db = .ok item) :
    ∃ r c, db.find? id = some r ∧ Experience.readExperience r = .ok c ∧
      item = Experience.ExperienceInfo.ofRecord r c := by
  obtain ⟨r, hr, hread⟩ := Experience.get_on.1 h
  unfold Experience.experienceFromRecordLive at hread
  simp only [Reader.on, run_catching, catching_eq_ok, run_bind, run_lift] at hread
  obtain ⟨c, hc, hread⟩ := bind_eq_ok.1 hread
  obtain ⟨-, hread⟩ := check_bind_eq_ok.1 hread
  cases hread
  exact ⟨r, c, hr, hc, rfl⟩

theorem mem_eventsOf {projectId : RecordId} {item : Experience.ExperienceInfo} :
    item ∈ eventsOf db projectId ↔ (db.Has item.experienceId fun r => r.recordType = "project_experience") ∧
      (Experience.get (uuidText item.experienceId)).on db = .ok item ∧ item.lifecycleStatus = .active ∧
      item.content.projectId = projectId := by
  unfold eventsOf eventsFrom
  rw [List.mem_filter, List.mem_filterMap, decide_eq_true_eq]
  constructor
  · rintro ⟨⟨id, hid, hget⟩, hactive, hproject⟩
    obtain ⟨r, hr, rfl⟩ := List.mem_map.1 hid
    obtain ⟨hmem, htype⟩ := List.mem_filter.1 ((List.mem_insertionSort _).1 hr)
    have hfind := Database.mem_iff_find?.1 (show r ∈ db.records from hmem)
    have hread : (Experience.get (uuidText r.id)).on db = .ok item := by
      cases hrun : (Experience.get (uuidText r.id)).on db with
      | ok info =>
        rw [hrun] at hget
        cases hget
        rfl
      | error e =>
        rw [hrun] at hget
        cases hget
    obtain ⟨r', c, hr', -, rfl⟩ := of_get hread
    cases hfind.symm.trans hr'
    exact ⟨⟨r, hfind, of_decide_eq_true htype⟩, hread, hactive, hproject⟩
  · rintro ⟨⟨r, hr, htype⟩, hget, hactive, hproject⟩
    refine ⟨⟨item.experienceId, List.mem_map.2 ⟨r, ?_, Database.id_of_find? hr⟩, by rw [hget]; rfl⟩, hactive, hproject⟩
    rw [List.mem_insertionSort, List.mem_filter]
    exact ⟨(Database.find?_eq_some.1 hr).1, by simpa using htype⟩

theorem eventsFrom_sublist (db : Database) (projectId : RecordId) (ids : List RecordId) :
    ((eventsFrom db projectId ids).map fun item => item.experienceId).Sublist ids := by
  induction ids with
  | nil => exact List.Sublist.slnil
  | cons id ids ih =>
    cases hget : (Experience.get (uuidText id)).on db with
    | error e =>
      have hskip : eventsFrom db projectId (id :: ids) = eventsFrom db projectId ids := by
        unfold eventsFrom
        rw [List.filterMap_cons, hget]
        rfl
      rw [hskip]
      exact ih.cons _
    | ok item =>
      obtain ⟨r, c, hr, -, rfl⟩ := of_get hget
      rw [eventsFrom_cons hget]
      split
      · have hid : (Experience.ExperienceInfo.ofRecord r c).experienceId = id := Database.id_of_find? hr
        rw [List.map_cons, hid]
        exact ih.cons_cons _
      · exact ih.cons _

/-- A project has no more active experiences than there are. -/
theorem length_eventsOf_le (db : Database) (projectId : RecordId) :
    (eventsOf db projectId).length ≤ (db.answer (.activeIds "project_experience")).length := by
  have hnodup : ((eventsOf db projectId).map fun item => item.experienceId).Nodup := by
    refine List.Nodup.sublist (eventsFrom_sublist db projectId (createdEvents db)) ?_
    refine ((List.perm_insertionSort _ _).map _).nodup_iff.2 ?_
    exact db.records.nodup.sublist (List.filter_sublist.map _)
  have hsubset : ((eventsOf db projectId).map fun item => item.experienceId) ⊆
      db.answer (.activeIds "project_experience") := by
    intro id hid
    obtain ⟨item, hitem, rfl⟩ := List.mem_map.1 hid
    obtain ⟨⟨r, hr, htype⟩, hget, hactive, -⟩ := mem_eventsOf.1 hitem
    obtain ⟨r', c, hr', -, rfl⟩ := of_get hget
    cases hr.symm.trans hr'
    refine List.mem_map.2 ⟨r, List.mem_filter.2 ⟨(Database.find?_eq_some.1 hr).1, ?_⟩, rfl⟩
    exact decide_eq_true ⟨htype, hactive⟩
  rw [← List.length_map (f := fun item : Experience.ExperienceInfo => item.experienceId)]
  exact (List.subperm_of_subset hnodup hsubset).length_le

/-- The list of a preflight has all active experiences of the project. -/
theorem list_eq {projectId : RecordId} {items : List Experience.ExperienceInfo}
    (hcount : (db.answer (.activeIds "project_experience")).length ≤ maxProjectExperiences)
    (h : (Experience.list (some (uuidText projectId)) false maxProjectExperiences).on db = .ok items) :
    items = eventsOf db projectId := by
  have hid : optionally (Experience.uuidOf "project ID") (some (uuidText projectId)) = .ok (some projectId) := by
    have hof : Experience.uuidOf "project ID" (uuidText projectId) = .ok projectId :=
      uuidField_eq_ok.2 (uuid_uuidText projectId)
    rw [optionally, hof]
    rfl
  unfold Experience.list at h
  simp only [Reader.on, run_bind, run_lift, hid, ok_bind] at h
  obtain ⟨-, h₁⟩ := check_bind_eq_ok.1 h
  obtain ⟨ids, hids, h₂⟩ := bind_eq_ok.1 h₁
  cases hids
  rw [Int.toNat_natCast] at h₂
  have hroom : ([] : List Experience.ExperienceInfo).length + (eventsOf db projectId).length ≤
      maxProjectExperiences := by
    rw [List.length_nil, Nat.zero_add]
    exact (length_eventsOf_le db projectId).trans hcount
  exact listFrom_eq hroom h₂

/-- A database without work items and experiences. -/
theorem kept_of_new {db₀ : Database}
    (hnew : ∀ id r, db₀.find? id = some r → r.recordType ∉ ["work_item", "project_experience"]) :
    Experience.Kept db₀ := by
  have hitem : ∀ id r, db₀.find? id = some r → r.recordType ≠ "work_item" := fun id r hr he =>
    hnew id r hr (he ▸ List.mem_cons_self)
  refine ⟨⟨fun id r hr he => absurd he (hitem id r hr),
    fun id r c hr _ hc => absurd hc.recordType (hitem id r hr)⟩, fun projectId id hcycle => ?_,
    fun id r hr he => absurd (by rw [he]; simp) (hnew id r hr)⟩
  obtain ⟨_, hedge, -⟩ := Relation.TransGen.head'_iff.1 hcycle
  obtain ⟨⟨ids, hids, -⟩, -⟩ := Digraph.mem_edges.1 hedge
  obtain ⟨r, item, hr, htype, -⟩ := WorkItem.dependencies_eq_some.1 hids
  exact hitem id r hr htype

theorem workItemId_of_get {text : Text} {item : WorkItem.WorkItemInfo} (h : (WorkItem.get text).on db = .ok item) :
    uuid text = some item.workItemId := by
  unfold WorkItem.get WorkItem.requireRecord WorkItem.workItemFromRecordLive at h
  simp only [Reader.on, run_bind, run_lift, run_catching] at h
  obtain ⟨record, hrecord, h₁⟩ := bind_eq_ok.1 h
  obtain ⟨id, hid, h₂⟩ := bind_eq_ok.1 hrecord
  obtain ⟨r, hr, h₃⟩ := bind_eq_ok.1 h₂
  cases (check_bind_eq_ok.1 h₃).2
  obtain ⟨c, -, h₄⟩ := bind_eq_ok.1 (catching_eq_ok.1 h₁)
  cases (check_bind_eq_ok.1 h₄).2
  have hfind := Database.getRecord_eq_ok.1 (catching_eq_ok.1 hr)
  rw [uuidField_eq_ok.1 hid]
  exact congrArg some (Database.id_of_find? hfind).symm

/-- The work item that a preflight is about is the one that was asked for. -/
theorem workItemId_of_checkRecords {service : ContinuityPreflightService} {request : PreflightRequest}
    {action : Text} {projectId : RecordId} {workItemId : Option RecordId} {f : Findings}
    (h : (checkRecords service request).on db = .ok (action, projectId, workItemId, f)) :
    workItemId = request.workItemId.bind uuid := by
  unfold checkRecords at h
  simp only [Reader.on, run_bind, run_lift] at h
  obtain ⟨-, h₁⟩ := check_bind_eq_ok.1 h
  obtain ⟨_, -, h₂⟩ := bind_eq_ok.1 h₁
  obtain ⟨_, -, h₃⟩ := bind_eq_ok.1 h₂
  obtain ⟨_, -, h₄⟩ := bind_eq_ok.1 h₃
  obtain ⟨project, -, h₅⟩ := bind_eq_ok.1 h₄
  cases hitem : request.workItemId with
  | none =>
    rw [hitem] at h₅
    simp only [run_bind, run_pure, ok_bind] at h₅
    obtain ⟨_, -, h₆⟩ := bind_eq_ok.1 h₅
    obtain ⟨_, -, h₇⟩ := bind_eq_ok.1 h₆
    cases h₇
    rfl
  | some text =>
    rw [hitem] at h₅
    simp only [run_bind, run_pure, ok_bind] at h₅
    obtain ⟨⟨id, g⟩, hadded, h₆⟩ := bind_eq_ok.1 h₅
    obtain ⟨_, -, h₇⟩ := bind_eq_ok.1 h₆
    obtain ⟨_, -, h₈⟩ := bind_eq_ok.1 h₇
    cases h₈
    unfold addWorkItem at hadded
    simp only [run_bind, run_lift, run_catching] at hadded
    obtain ⟨item, hget, h₉⟩ := bind_eq_ok.1 hadded
    obtain ⟨-, h₁₀⟩ := check_bind_eq_ok.1 h₉
    obtain ⟨-, h₁₁⟩ := check_bind_eq_ok.1 h₁₀
    obtain ⟨_, -, h₁₂⟩ := bind_eq_ok.1 h₁₁
    cases h₁₂
    exact (workItemId_of_get (catching_eq_ok.1 hget)).symm

end

/-! ## Runs of the services -/

section

variable [PythonLibrary] [ModuleRules] [CaseLibrary] [UtcLibrary] [Audit.AuditRules] [Truth.TruthRules]
  {db db' : Database} {tr : List (Taken Database (Surroundings × Experience.Service))}

/-- Some call of the run has returned the experience. -/
def Recorded (tr : List (Taken Database (Surroundings × Experience.Service)))
    (info : Experience.ExperienceInfo) : Prop := ∃ t ∈ tr, Experience.Returned t info

/-- The row of a step is that of an experience only if the call returns it. -/
theorem puts_returned {call : Surroundings × Experience.Service} (hkept : Experience.Kept db)
    (htimely : Experience.Timely call.1) (h : Experience.Commits db call db') :
    ∃ row, db.Puts row db' ∧ (row.recordType = "project_experience" → ∃ c, Experience.Encodes row c ∧
      Experience.Returned ⟨db, call, db'⟩ (Experience.ExperienceInfo.ofRecord row c)) := by
  obtain ⟨env, service⟩ := call
  obtain ⟨w, hon, hcommit⟩ := h
  cases service with
  | project call =>
    obtain ⟨row, hputs, htype, -⟩ := Project.Call.puts htimely.now hon hcommit
    exact ⟨row, hputs, fun he => absurd (htype.symm.trans he) (by decide)⟩
  | workItem call =>
    have hcommits : WorkItem.Call.Commits db (env, call) db' := ⟨w, hon, hcommit⟩
    obtain ⟨row, d, hput, hreplaces, -⟩ := hcommits.puts hkept.grounded.wellFormed
    refine ⟨row, ⟨hput.writes, fun r hr =>
      (hreplaces.recordType r hr).trans hput.encodes.recordType.symm, hreplaces.sensitivity⟩, ?_⟩
    exact fun he => absurd (hput.encodes.recordType.symm.trans he) (by decide)
  | evidence call =>
    obtain ⟨row, hputs, htype, -⟩ := Truth.Call.puts htimely.calledAt hon hcommit
    exact ⟨row, hputs, fun he => absurd (he ▸ htype) (by decide)⟩
  | experience call =>
    obtain ⟨row, c, rfl, hputs, -, hc, hlinks, hself, hpost⟩ := hkept.experience hon hcommit
    refine ⟨row, hputs, fun _ => ⟨c, hc, call, row, rfl, hon, ?_⟩⟩
    exact (Experience.experienceFromRecordLive_on hpost.grounded.wellFormed).2
      ⟨c, Experience.readExperience_of_encodes hc, ⟨hlinks, hself⟩, rfl⟩

/-- Every experience at the end of a run that starts without any has been returned by a call. -/
theorem recorded_of_find? {db₀ : Database} (hrule : ∀ r, ModuleRules.isEvidence r = true ↔ Truth.Readable r)
    (hkept₀ : Experience.Kept db₀) (hnew : ∀ id r, db₀.find? id = some r → r.recordType ≠ "project_experience")
    (h : Run Experience.Commits db₀ tr db) (htimely : ∀ t ∈ tr, Experience.Timely t.label.1)
    (hspares : ∀ t ∈ tr, Experience.Spares t.pre t.label) {id : RecordId} {r : RecordEnvelope}
    (hr : db.find? id = some r) (htype : r.recordType = "project_experience") :
    ∃ c, Experience.Encodes r c ∧ Recorded tr (Experience.ExperienceInfo.ofRecord r c) := by
  induction h with
  | start => exact absurd htype (hnew id r hr)
  | @next tr s s' l hrun hs ih =>
    simp only [List.forall_mem_append, List.forall_mem_singleton] at htimely hspares
    obtain ⟨hkept, -⟩ := hkept₀.run hrule htimely.1 hspares.1 hrun
    obtain ⟨row, hputs, hreturned⟩ := puts_returned hkept htimely.2 hs
    by_cases hid : id = row.id
    · subst hid
      cases hputs.find?_self.symm.trans hr
      obtain ⟨c, hc, hlast⟩ := hreturned htype
      exact ⟨c, hc, _, List.mem_append_right _ (List.mem_singleton.2 rfl), hlast⟩
    · obtain ⟨c, hc, t, ht, hold⟩ := ih htimely.1 hspares.1 ((hputs.find?_of_ne hid).symm.trans hr)
      exact ⟨c, hc, t, List.mem_append_left _ ht, hold⟩

/-- The active experiences of a project are those that calls of the run have returned. -/
theorem mem_eventsOf_run {db₀ : Database} (hrule : ∀ r, ModuleRules.isEvidence r = true ↔ Truth.Readable r)
    (hnew : ∀ id r, db₀.find? id = some r → r.recordType ∉ ["work_item", "project_experience"])
    (h : Run Experience.Commits db₀ tr db) (htimely : ∀ t ∈ tr, Experience.Timely t.label.1)
    (hspares : ∀ t ∈ tr, Experience.Spares t.pre t.label) {projectId : RecordId}
    {item : Experience.ExperienceInfo} :
    item ∈ eventsOf db projectId ↔ Recorded tr item ∧ item.content.projectId = projectId := by
  have hrecorded : ∀ {id r}, db.find? id = some r → r.recordType = "project_experience" →
      ∃ c, Experience.Encodes r c ∧ Recorded tr (Experience.ExperienceInfo.ofRecord r c) := by
    intro id r hr htype
    refine recorded_of_find? hrule (kept_of_new hnew) (fun id r hr he => ?_) h htimely hspares hr htype
    exact hnew id r hr (by rw [he]; simp)
  rw [mem_eventsOf]
  constructor
  · rintro ⟨⟨r, hr, htype⟩, hget, -, hproject⟩
    obtain ⟨r', c', hr', hc', hitem⟩ := of_get hget
    cases hr.symm.trans hr'
    obtain ⟨c, hc, hret⟩ := hrecorded hr htype
    cases (Experience.readExperience_of_encodes hc).symm.trans hc'
    exact ⟨hitem ▸ hret, hproject⟩
  · rintro ⟨⟨t, ht, hret⟩, hproject⟩
    have hget := (Experience.history_kept hrule hnew h htimely hspares).1 t ht item hret
    obtain ⟨r, c, hr, hc, hitem⟩ := of_get hget
    have htype : r.recordType = "project_experience" :=
      (ensure_eq_ok.1 (check_bind_eq_ok.1 hc).1).1
    obtain ⟨c', hc', -⟩ := hrecorded hr htype
    refine ⟨⟨r, hr, htype⟩, hget, ?_, hproject⟩
    rw [hitem]
    exact hc'.status

/-- Recording an experience changes the experiences alone. -/
theorem SameButExperience.of_commits (hkept : Experience.Kept db) {env : Surroundings}
    {call : Experience.Call} (h : Experience.Commits db (env, .experience call) db') :
    SameButExperience db db' := by
  obtain ⟨w, hon, hcommit⟩ := h
  obtain ⟨row, c, rfl, hc, -⟩ := Experience.Call.prepare_on hkept.grounded.wellFormed hon
  obtain ⟨db₁, hinsert, hcommit⟩ := bind_eq_ok.1 hcommit
  cases hcommit
  obtain ⟨records, hrecords, rfl⟩ := Option.map_eq_some_iff.1 (orFail_eq_ok.1 hinsert)
  unfold Table.insert? at hrecords
  split at hrecords
  · cases hrecords
  · cases hrecords
    show (db.records.rows ++ [row]).filter _ = _
    rw [List.filter_append, List.filter_singleton, hc.recordType]
    exact List.append_nil _

variable [FloatLibrary]

/-- Over a run of the services that starts without experiences, a preflight warns of a failure of an assertion
state if and only if some call has recorded one, in the project and about the work item of the preflight or
none, and no call has superseded it. It does not matter who has superseded it. -/
theorem priorFailure_mem_iff {db₀ : Database} (hrule : ∀ r, ModuleRules.isEvidence r = true ↔ Truth.Readable r)
    (hnew : ∀ id r, db₀.find? id = some r → r.recordType ∉ ["work_item", "project_experience"])
    (h : Run Experience.Commits db₀ tr db) (htimely : ∀ t ∈ tr, Experience.Timely t.label.1)
    (hspares : ∀ t ∈ tr, Experience.Spares t.pre t.label) {service : ContinuityPreflightService}
    {request : PreflightRequest} {result : ContinuityPreflightResult}
    (hcheck : (check service request).on db = .ok result) (assertionState : Experience.AssertionState) :
    WarningCode.priorFailure assertionState ∈ result.warningCodes ↔
      ∃ info, Recorded tr info ∧ info.content.projectId = result.projectId ∧
        inScope (request.workItemId.bind uuid) info = true ∧ info.content.outcome = some .failed ∧
        info.content.assertionState = assertionState ∧
        ¬ ∃ later, Recorded tr later ∧ later.content.projectId = result.projectId ∧
          later.content.supersedesId = some info.experienceId := by
  obtain ⟨action, projectId, workItemId, f₀, f, items, hrecords, hcapability, hcount, hlist, rfl⟩ :=
    of_check hcheck
  have hsober : f.Sober := by
    have hrecordsSober : f₀.Sober := post_of_on (checkRecords_sober service request) hrecords
    exact post_of_on (checkCapability_sober service request hrecordsSober) hcapability
  obtain rfl := workItemId_of_checkRecords hrecords
  obtain rfl := list_eq hcount hlist
  have hevents {item : Experience.ExperienceInfo} :
      item ∈ eventsOf db projectId ↔ Recorded tr item ∧ item.content.projectId = projectId :=
    mem_eventsOf_run hrule hnew h htimely hspares
  show WarningCode.priorFailure assertionState ∈ sortedCodes _ ↔ _
  rw [mem_sortedCodes, mem_advised, or_iff_right (hsober assertionState)]
  unfold relevant
  simp only [List.mem_filter, List.mem_filterMap, decide_eq_true_eq, WarningCode.priorFailure.injEq, hevents]
  constructor
  · rintro ⟨item, ⟨⟨hrec, hproject⟩, hlive, hfailed, hscope⟩, rfl⟩
    refine ⟨item, hrec, hproject, hscope, hfailed, rfl, ?_⟩
    rintro ⟨later, hlater, hsame, hsupersedes⟩
    exact hlive ⟨later, ⟨hlater, hsame⟩, hsupersedes⟩
  · rintro ⟨item, hrec, hproject, hscope, hfailed, rfl, hlive⟩
    refine ⟨item, ⟨⟨hrec, hproject⟩, ?_, hfailed, hscope⟩, rfl⟩
    rintro ⟨later, ⟨hlater, hsame⟩, hsupersedes⟩
    exact hlive ⟨later, hlater, hsame, hsupersedes⟩

end

section Failing

attribute [local instance] asciiLibrary asciiCase fractionFloats Experience.countedUtc Experience.silentAudit
  Experience.acceptingTruth Experience.evidenceRules

/-- Record that a bed could not be dug. -/
def failing : Surroundings × Experience.Service :=
  (surroundings 0, .experience (.record
    { projectId := uuidText 100, eventKind := "outcome".toList, summary := "The ground is frozen".toList,
      occurredAt := "2026-01-01T00:00:00Z".toList, assertionState := "user_recorded".toList,
      actorType := .user, outcome := some "failed".toList, workItemId := none, relatedRecordIds := [],
      evidenceIds := [], sourceIds := [], supersedesId := none, sensitivity := .personal }))

/-- A preflight without capabilities. -/
def gardenPreflight : ContinuityPreflightService where
  capabilityRegistry := ⟨[], List.nodup_nil⟩
  context := { surroundings 1 with readOnly := true, decidedAt := 0 }

/-- Before a bed is dug. -/
def beforeDigging : PreflightRequest where
  projectId := uuidText 100
  proposedActionClass := "garden.dig".toList
  workItemId := none
  capabilityId := none
  capabilityVersion := none
  permissionScope := none
  applicablePolicyDenialIds := []
  requiredProcedureIds := []

/-- Check, record the failure, and check again. -/
def failGarden : Result (Database × ContinuityPreflightResult × ContinuityPreflightResult) := do
  let before ← (check gardenPreflight beforeDigging).on Project.gardenDatabase
  let recording ← (failing.2.prepare failing.1).on Project.gardenDatabase
  let db ← recording.commit Project.gardenDatabase
  let result ← (check gardenPreflight beforeDigging).on db
  ensure (before.status = .clear ∧ result.status = .warning ∧
    .priorFailure .userRecorded ∈ result.warningCodes) (invalid "")
  return (db, before, result)

theorem failGarden_isOk : failGarden.isOk = true := by decide +kernel

theorem kept_gardenDatabase : Experience.Kept Project.gardenDatabase :=
  kept_of_new Experience.gardenDatabase_isNew

theorem failGarden_spec : ∃ db before result,
    Experience.Commits Project.gardenDatabase failing db ∧
      (check gardenPreflight beforeDigging).on Project.gardenDatabase = .ok before ∧
      (check gardenPreflight beforeDigging).on db = .ok result ∧
      before.status = .clear ∧ result.status = .warning ∧
      .priorFailure .userRecorded ∈ result.warningCodes := by
  obtain ⟨_, h⟩ := exists_of_isOk failGarden_isOk
  obtain ⟨before, hbefore, h⟩ := bind_eq_ok.1 h
  obtain ⟨recording, hrecording, h⟩ := bind_eq_ok.1 h
  obtain ⟨db, hcommit, h⟩ := bind_eq_ok.1 h
  obtain ⟨result, hresult, h⟩ := bind_eq_ok.1 h
  exact ⟨db, before, result, ⟨recording, hrecording, hcommit⟩, hbefore, hresult,
    ensure_eq_ok.1 (check_bind_eq_ok.1 h).1⟩

/-- The failure that is recorded turns a clear preflight into a warning, and changes nothing else. -/
theorem adviceOnly_failGarden : ∃ r r' : ContinuityPreflightResult,
    r.status = .clear ∧ r'.status = .warning ∧ AdviceOnly r r' := by
  obtain ⟨db, before, result, hcommits, hbefore, hresult, hclear, hwarning, -⟩ := failGarden_spec
  have hsame := SameButExperience.of_commits kept_gardenDatabase hcommits
  exact ⟨before, result, hclear, hwarning, adviceOnly hsame hbefore hresult⟩

/-- The run that records the failure is one that the rule speaks of. -/
theorem priorFailure_mem_iff_failGarden :
    ∃ (tr : List (Taken Database (Surroundings × Experience.Service))) (info : Experience.ExperienceInfo),
      Recorded tr info ∧ info.content.outcome = some .failed ∧
        info.content.assertionState = .userRecorded := by
  obtain ⟨db, before, result, hcommits, -, hresult, -, -, hwarned⟩ := failGarden_spec
  have hrun := Run.start.next hcommits
  have hmem := (priorFailure_mem_iff (fun _ => Iff.rfl) Experience.gardenDatabase_isNew hrun ?_ ?_ hresult
    .userRecorded).1 hwarned
  · obtain ⟨info, hrecorded, -, -, hfailed, hstate, -⟩ := hmem
    exact ⟨_, info, hrecorded, hfailed, hstate⟩
  · simp only [List.nil_append, List.forall_mem_singleton]
    exact Experience.timely_surroundings 0
  · simp only [List.nil_append, List.forall_mem_singleton]
    exact trivial

end Failing

end DollState.Continuity
