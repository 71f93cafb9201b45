import DollState.Domain.WorkItemService

/-!
# Work items read back as they were written

`WorkItemContent.Ok` is what the service checks of a work item without looking at other records. The
validator of a call establishes it (`ok_of_checkedValues`), and a record that encodes such a content
is read back as that content (`readWorkItem_of_encodes`).
-/

namespace DollState.WorkItem

open StateLib

section

variable [PythonLibrary]

/-! ## Well-formed contents -/

structure CriterionOk (c : AcceptanceCriterion) : Prop where
  criterionId : isToken c.criterionId = true
  description : WordsOk c.description maxCriterionLength
  evidenceKind : ∀ k ∈ c.requiredEvidenceKind, isToken k = true

structure CriteriaOk (cs : List AcceptanceCriterion) : Prop where
  length : cs.length ≤ maxListItems
  nodup : (cs.map (·.criterionId)).Nodup
  each : ∀ c ∈ cs, CriterionOk c

/-- What a work item of the identifier `selfId` has to satisfy by itself. -/
structure WorkItemContent.Ok (selfId : RecordId) (c : WorkItemContent) : Prop where
  title : WordsOk c.title maxTitleLength
  description : WordsOk c.description maxDescriptionLength
  priority : 0 ≤ c.priority ∧ c.priority ≤ 100
  startedAt : ∀ t ∈ c.startedAt, IsUtc t
  completedAt : ∀ t ∈ c.completedAt, IsUtc t
  order : ∀ completed ∈ c.completedAt, ∃ started ∈ c.startedAt,
    instant started ≤ instant completed
  completion : ¬ (c.workStatus = .completed ∧ c.completedAt = none)
  noCompletion : ¬ (c.workStatus ≠ .completed ∧ c.completedAt ≠ none)
  dependsOnIds : IdsOk maxLinks c.dependsOnIds
  blockedByIds : IdsOk maxLinks c.blockedByIds
  blockers : ¬ (c.workStatus = .blocked ∧ c.blockedByIds = [])
  noBlockers : ¬ (c.workStatus ≠ .blocked ∧ c.blockedByIds ≠ [])
  irreflexive : selfId ∉ c.dependsOnIds ∧ selfId ∉ c.blockedByIds
  disjoint : ∀ id ∈ c.dependsOnIds, id ∉ c.blockedByIds
  acceptanceCriteria : CriteriaOk c.acceptanceCriteria
  verificationEvidenceIds : IdsOk maxLinks c.verificationEvidenceIds
  evidence : ¬ (c.verificationState ∈ [.passed, .failed] ∧ c.verificationEvidenceIds = [])
  noEvidence : ¬ (c.verificationState ∈ [.notVerified, .notApplicable] ∧
    c.verificationEvidenceIds ≠ [])
  sourceDecisionIds : IdsOk maxLinks c.sourceDecisionIds
  artifactIds : IdsOk maxLinks c.artifactIds
  sourceIds : IdsOk maxLinks c.sourceIds
  noSelfSource : selfId ∉ c.sourceIds

/-! ## What the validators accept -/

omit [PythonLibrary] in
theorem parseKind_text (kind : WorkItemKind) : parseKind kind.text = .ok kind :=
  orFail_eq_ok.2 (WorkItemKind.ofText?_text kind)

omit [PythonLibrary] in
theorem parseWorkStatus_text (status : WorkItemStatus) : parseWorkStatus status.text = .ok status :=
  orFail_eq_ok.2 (WorkItemStatus.ofText?_text status)

omit [PythonLibrary] in
theorem parseVerificationState_text (state : VerificationState) :
    parseVerificationState state.text = .ok state :=
  orFail_eq_ok.2 (VerificationState.ofText?_text state)

omit [PythonLibrary] in
theorem priorityField_eq_ok {value priority : Int} :
    priorityField (.int value) = .ok priority ↔ priority = value ∧ 0 ≤ value ∧ value ≤ 100 := by
  rw [priorityField, check_bind_eq_ok, ensure_eq_ok, pure_eq_ok, and_comm, eq_comm]

omit [PythonLibrary] in
theorem token_eq_ok {name : String} {value text : Text} :
    token name value = .ok text ↔ text = value ∧ isToken value = true := by
  rw [token, check_bind_eq_ok, ensure_eq_ok, pure_eq_ok, and_comm, eq_comm]

theorem optionalUtc_eq_ok {name : String} {value result : Option Text} :
    optionalUtc name (Json.ofText? value) = .ok result ↔
      result = value ∧ ∀ t ∈ value, IsUtc t := by
  have h : optionalUtc name (Json.ofText? value) = optionally (utcField .workItemValidation
      " must use UTC Z notation" " is invalid" name) value := by
    cases value <;> rfl
  rw [h]
  exact optionally_eq_ok fun a b => utcField_eq_ok

theorem criteriaFrom_ok {result values cs : List AcceptanceCriterion}
    (hnodup : (result.map (·.criterionId)).Nodup) (heach : ∀ c ∈ result, CriterionOk c)
    (h : criteriaFrom result values = .ok cs) :
    (cs.map (·.criterionId)).Nodup ∧ (∀ c ∈ cs, CriterionOk c) ∧
      cs.length = result.length + values.length := by
  induction values generalizing result with
  | nil =>
    obtain rfl : result = cs := by simpa [criteriaFrom] using h
    exact ⟨hnodup, heach, rfl⟩
  | cons value values ih =>
    rw [criteriaFrom, bind_eq_ok] at h
    obtain ⟨criterionId, htoken, h⟩ := h
    rw [check_bind_eq_ok, ensure_eq_ok] at h
    obtain ⟨hnew, h⟩ := h
    obtain ⟨description, hdescription, h⟩ := bind_eq_ok.1 h
    obtain ⟨evidenceKind, hevidence, h⟩ := bind_eq_ok.1 h
    obtain ⟨rfl, hid⟩ := token_eq_ok.1 htoken
    obtain ⟨rfl, hkind⟩ := (optionally_eq_ok fun _ _ => token_eq_ok).1 hevidence
    have hok : CriterionOk ⟨value.criterionId, description, value.requiredEvidenceKind,
        value.blocking⟩ := ⟨hid, (wordsField_eq_ok.1 hdescription).2, hkind⟩
    obtain ⟨h₁, h₂, h₃⟩ := ih (by
        rw [List.map_append, List.map_singleton]
        exact List.nodup_append.2 ⟨hnodup, List.nodup_singleton _, fun x hx y hy e =>
          hnew (List.mem_singleton.1 hy ▸ e ▸ hx)⟩)
      (List.forall_mem_append.2 ⟨heach, List.forall_mem_singleton.2 hok⟩) h
    refine ⟨h₁, h₂, ?_⟩
    rw [h₃, List.length_append, List.length_singleton, List.length_cons]
    omega

theorem criteriaFrom_self {result cs : List AcceptanceCriterion}
    (hnodup : ((result ++ cs).map (·.criterionId)).Nodup) (heach : ∀ c ∈ cs, CriterionOk c) :
    criteriaFrom result cs = .ok (result ++ cs) := by
  induction cs generalizing result with
  | nil => rw [criteriaFrom, List.append_nil]
  | cons c cs ih =>
    obtain ⟨hc, hcs⟩ := List.forall_mem_cons.1 heach
    have hnew : c.criterionId ∉ result.map (·.criterionId) := fun hmem => by
      rw [List.map_append] at hnodup
      exact (List.nodup_append.1 hnodup).2.2 _ hmem _ List.mem_cons_self rfl
    rw [criteriaFrom, token_eq_ok.2 ⟨rfl, hc.criterionId⟩, ok_bind, ensure_of hnew, ok_bind, words,
      wordsField_idem hc.description, ok_bind,
      (optionally_eq_ok fun _ _ => token_eq_ok).2 ⟨rfl, hc.evidenceKind⟩, ok_bind]
    rw [← List.singleton_append, ← List.append_assoc] at hnodup
    rw [ih hnodup hcs, List.append_assoc, List.singleton_append]

theorem criteria_ok {values cs : List AcceptanceCriterion} (h : criteria values = .ok cs) :
    CriteriaOk cs := by
  rw [criteria, check_bind_eq_ok, ensure_eq_ok] at h
  obtain ⟨hnodup, heach, hlen⟩ := criteriaFrom_ok (by simp) (by simp) h.2
  refine ⟨?_, hnodup, heach⟩
  rw [hlen, List.length_nil]
  omega

theorem criteria_self {cs : List AcceptanceCriterion} (h : CriteriaOk cs) :
    criteria cs = .ok cs := by
  rw [criteria, ensure_of h.length, ok_bind]
  have hself : criteriaFrom [] cs = .ok ([] ++ cs) := criteriaFrom_self h.nodup h.each
  rwa [List.nil_append] at hself

theorem readCriterion_payload {c : AcceptanceCriterion} (h : CriterionOk c) :
    readCriterion c.payload = .ok c := by
  have hid : c.criterionId ≠ [] := fun e => by
    have := h.criterionId
    rw [e] at this
    cases this
  have hrid : required [("criterion_id", .str c.criterionId), ("description", .str c.description),
      ("required_evidence_kind", Json.ofText? c.requiredEvidenceKind),
      ("blocking", .bool c.blocking)] "criterion_id" = .ok c.criterionId :=
    requiredString_eq_ok.2 ⟨rfl, hid⟩
  have hrdesc : required [("criterion_id", .str c.criterionId), ("description", .str c.description),
      ("required_evidence_kind", Json.ofText? c.requiredEvidenceKind),
      ("blocking", .bool c.blocking)] "description" = .ok c.description :=
    requiredString_eq_ok.2 ⟨rfl, h.description.2.1⟩
  obtain ⟨criterionId, description, evidenceKind, blocking⟩ := c
  cases evidenceKind <;>
    simp only [readCriterion, AcceptanceCriterion.payload, hrid, hrdesc, ok_bind] <;> rfl

theorem metadataCriteria_payload {metadata : Metadata} {key : String}
    {cs : List AcceptanceCriterion}
    (hget : metadata.get key = .arr (cs.map AcceptanceCriterion.payload)) (h : CriteriaOk cs) :
    metadataCriteria metadata key = .ok cs := by
  have hread : (cs.map AcceptanceCriterion.payload).mapM readCriterion = .ok cs := by
    rw [mapM_eq_ok, List.forall₂_map_left_iff]
    exact List.forall₂_same.2 fun c hc => readCriterion_payload (h.each c hc)
  rw [metadataCriteria, metadataList, hget]
  simp only [ok_bind, hread]
  exact criteria_self h

/-! ## Contents that have been validated -/

/-- What `_validated_work_item_values` has established before it looks at other records. -/
structure Checked (selfId : RecordId) (v : WorkItemValues) (c : WorkItemContent) : Prop where
  ok : c.Ok selfId
  projectId : uuid v.projectId = some c.projectId
  workStatus : c.workStatus.text = v.workStatus
  dependsOnIds : referenceIds "work-item dependency IDs" v.dependsOnIds = .ok c.dependsOnIds
  blockedByIds : referenceIds "work-item blocker IDs" v.blockedByIds = .ok c.blockedByIds
  sourceIds : referenceIds "work-item source IDs" v.sourceIds = .ok c.sourceIds

theorem checked_of_checkedValues {selfId : RecordId} {v : WorkItemValues} {c : WorkItemContent}
    (h : checkedValues selfId v = .ok c) : Checked selfId v c := by
  rw [checkedValues, bind_eq_ok] at h
  obtain ⟨projectId, hproject, h⟩ := h
  obtain ⟨kind, -, h⟩ := bind_eq_ok.1 h
  obtain ⟨title, htitle, h⟩ := bind_eq_ok.1 h
  obtain ⟨description, hdescription, h⟩ := bind_eq_ok.1 h
  obtain ⟨workStatus, hstatus, h⟩ := bind_eq_ok.1 h
  obtain ⟨priority, hpriority, h⟩ := bind_eq_ok.1 h
  obtain ⟨startedAt, hstarted, h⟩ := bind_eq_ok.1 h
  obtain ⟨completedAt, hcompleted, h⟩ := bind_eq_ok.1 h
  obtain ⟨horder, h⟩ := (check_bind_eq_ok.1 h).imp_left ensure_eq_ok.1
  obtain ⟨hcompletion, h⟩ := (check_bind_eq_ok.1 h).imp_left ensure_eq_ok.1
  obtain ⟨hnoCompletion, h⟩ := (check_bind_eq_ok.1 h).imp_left ensure_eq_ok.1
  obtain ⟨dependsOnIds, hdepends, h⟩ := bind_eq_ok.1 h
  obtain ⟨blockedByIds, hblocked, h⟩ := bind_eq_ok.1 h
  obtain ⟨hblockers, h⟩ := (check_bind_eq_ok.1 h).imp_left ensure_eq_ok.1
  obtain ⟨hnoBlockers, h⟩ := (check_bind_eq_ok.1 h).imp_left ensure_eq_ok.1
  obtain ⟨hself, h⟩ := (check_bind_eq_ok.1 h).imp_left ensure_eq_ok.1
  obtain ⟨hdisjoint, h⟩ := (check_bind_eq_ok.1 h).imp_left ensure_eq_ok.1
  obtain ⟨acceptanceCriteria, hcriteria, h⟩ := bind_eq_ok.1 h
  obtain ⟨verificationState, -, h⟩ := bind_eq_ok.1 h
  obtain ⟨evidenceIds, hevidence, h⟩ := bind_eq_ok.1 h
  obtain ⟨hneeded, h⟩ := (check_bind_eq_ok.1 h).imp_left ensure_eq_ok.1
  obtain ⟨hallowed, h⟩ := (check_bind_eq_ok.1 h).imp_left ensure_eq_ok.1
  obtain ⟨decisionIds, hdecisions, h⟩ := bind_eq_ok.1 h
  obtain ⟨artifactIds, hartifacts, h⟩ := bind_eq_ok.1 h
  obtain ⟨sourceIds, hsources, h⟩ := bind_eq_ok.1 h
  obtain ⟨hnoSelf, h⟩ := (check_bind_eq_ok.1 h).imp_left ensure_eq_ok.1
  obtain ⟨rfl, hrange⟩ := priorityField_eq_ok.1 hpriority
  obtain ⟨rfl, hstartUtc⟩ := optionalUtc_eq_ok.1 hstarted
  obtain ⟨rfl, hcompletionUtc⟩ := optionalUtc_eq_ok.1 hcompleted
  rw [← pure_eq_ok.1 h]
  exact {
    projectId := uuidField_eq_ok.1 hproject
    workStatus := text_of_ofText? (orFail_eq_ok.1 hstatus)
    dependsOnIds := hdepends
    blockedByIds := hblocked
    sourceIds := hsources
    ok := {
      title := (wordsField_eq_ok.1 htitle).2
      description := (wordsField_eq_ok.1 hdescription).2
      priority := hrange
      startedAt := hstartUtc
      completedAt := hcompletionUtc
      order := horder
      completion := hcompletion
      noCompletion := hnoCompletion
      dependsOnIds := referenceIds_ok hdepends
      blockedByIds := referenceIds_ok hblocked
      blockers := hblockers
      noBlockers := hnoBlockers
      irreflexive := hself
      disjoint := hdisjoint
      acceptanceCriteria := criteria_ok hcriteria
      verificationEvidenceIds := referenceIds_ok hevidence
      evidence := hneeded
      noEvidence := hallowed
      sourceDecisionIds := referenceIds_ok hdecisions
      artifactIds := referenceIds_ok hartifacts
      sourceIds := referenceIds_ok hsources
      noSelfSource := hnoSelf } }

/-! ## Records that encode a content -/

/-- The record is a work item as the service writes it, of the content `c`. -/
structure Encodes (r : RecordEnvelope) (c : WorkItemContent) : Prop where
  recordType : r.recordType = "work_item"
  schemaVersion : r.schemaVersion = 1
  status : r.status = .active ∨ r.status = .archived
  revision : 1 ≤ r.revision
  title : r.title = some c.title
  provenance : c.workStatus = .proposed ∨ r.provenance = .userCreated ∨
    r.provenance = .userConfirmed
  metadata : r.metadata = c.metadata
  ok : c.Ok r.id

theorem validatePersistedSemantics_ok {selfId : RecordId} {c : WorkItemContent} (h : c.Ok selfId) :
    validatePersistedSemantics selfId c = .ok () := by
  rw [validatePersistedSemantics, ensure_of h.completion, ok_bind, ensure_of h.noCompletion, ok_bind,
    ensure_of h.order, ok_bind, ensure_of h.blockers, ok_bind, ensure_of h.noBlockers, ok_bind,
    ensure_of ⟨h.irreflexive.1, h.irreflexive.2, h.noSelfSource⟩, ok_bind, ensure_of h.disjoint,
    ok_bind, ensure_of h.evidence, ok_bind, ensure_of h.noEvidence]

/-- A record reads back as the content it encodes. -/
theorem readWorkItem_of_encodes {r : RecordEnvelope} {c : WorkItemContent} (h : Encodes r c) :
    readWorkItem r = .ok c := by
  have hok := h.ok
  rw [readWorkItem, h.metadata]
  refine check_bind_eq_ok.2 ⟨ensure_of ⟨h.recordType, h.schemaVersion⟩ _, ?_⟩
  refine check_bind_eq_ok.2 ⟨ensure_of h.status _, ?_⟩
  refine check_bind_eq_ok.2 ⟨ensure_of h.revision _, ?_⟩
  refine bind_eq_ok.2 ⟨_, requiredString_eq_ok.2 ⟨rfl, uuidText_ne_nil _⟩, ?_⟩
  refine bind_eq_ok.2 ⟨_, uuidField_eq_ok.2 (uuid_uuidText _), ?_⟩
  refine bind_eq_ok.2 ⟨_, requiredString_eq_ok.2 ⟨rfl, by cases c.kind <;> decide⟩, ?_⟩
  refine bind_eq_ok.2 ⟨_, parseKind_text _, ?_⟩
  refine bind_eq_ok.2 ⟨_, requiredString_eq_ok.2 ⟨rfl, hok.title.2.1⟩, ?_⟩
  refine bind_eq_ok.2 ⟨_, wordsField_idem hok.title, ?_⟩
  refine check_bind_eq_ok.2 ⟨ensure_of h.title _, ?_⟩
  refine bind_eq_ok.2 ⟨_, requiredString_eq_ok.2 ⟨rfl, hok.description.2.1⟩, ?_⟩
  refine bind_eq_ok.2 ⟨_, wordsField_idem hok.description, ?_⟩
  refine bind_eq_ok.2 ⟨_, requiredString_eq_ok.2 ⟨rfl, by cases c.workStatus <;> decide⟩, ?_⟩
  refine bind_eq_ok.2 ⟨_, parseWorkStatus_text _, ?_⟩
  refine check_bind_eq_ok.2 ⟨ensure_of h.provenance _, ?_⟩
  refine bind_eq_ok.2 ⟨_, priorityField_eq_ok.2 ⟨rfl, hok.priority⟩, ?_⟩
  refine bind_eq_ok.2 ⟨_, optionalUtc_eq_ok.2 ⟨rfl, hok.startedAt⟩, ?_⟩
  refine bind_eq_ok.2 ⟨_, optionalUtc_eq_ok.2 ⟨rfl, hok.completedAt⟩, ?_⟩
  refine bind_eq_ok.2 ⟨_, metadataIds_ofIds rfl hok.dependsOnIds, ?_⟩
  refine bind_eq_ok.2 ⟨_, metadataIds_ofIds rfl hok.blockedByIds, ?_⟩
  refine bind_eq_ok.2 ⟨_, metadataCriteria_payload rfl hok.acceptanceCriteria, ?_⟩
  refine bind_eq_ok.2 ⟨_, requiredString_eq_ok.2 ⟨rfl, by cases c.verificationState <;> decide⟩, ?_⟩
  refine bind_eq_ok.2 ⟨_, parseVerificationState_text _, ?_⟩
  refine bind_eq_ok.2 ⟨_, metadataIds_ofIds rfl hok.verificationEvidenceIds, ?_⟩
  refine bind_eq_ok.2 ⟨_, metadataIds_ofIds rfl hok.sourceDecisionIds, ?_⟩
  refine bind_eq_ok.2 ⟨_, metadataIds_ofIds rfl hok.artifactIds, ?_⟩
  refine bind_eq_ok.2 ⟨_, metadataIds_ofIds rfl hok.sourceIds, ?_⟩
  exact check_bind_eq_ok.2 ⟨validatePersistedSemantics_ok hok, rfl⟩

theorem workItemFromRecord_of_encodes {r : RecordEnvelope} {c : WorkItemContent}
    (h : Encodes r c) : workItemFromRecord r = .ok (WorkItemInfo.ofRecord r c) := by
  rw [workItemFromRecord, readWorkItem_of_encodes h]
  rfl

/-- A record encodes one content only. -/
theorem Encodes.unique {r : RecordEnvelope} {c c' : WorkItemContent} (h : Encodes r c)
    (h' : Encodes r c') : c = c' := by
  have := (readWorkItem_of_encodes h).symm.trans (readWorkItem_of_encodes h')
  exact Except.ok.inj this

end

end DollState.WorkItem
