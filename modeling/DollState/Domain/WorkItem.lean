import DollState.Library.Digraph
import DollState.Domain.Project

/-!
# Work items

The model of `work_item` up to its service. `readWorkItem` is the part of the record reader that
looks at the record alone; `validateLinks` checks a work item's links against the database as it is
at each check, and is run both when a work item is written and when it is read.
-/

namespace DollState.WorkItem

open StateLib

/-! ## Values -/

def maxTitleLength : Nat := 240
def maxDescriptionLength : Nat := 6000
def maxCriterionLength : Nat := 2000
def maxListItems : Nat := 100
def maxLinks : Nat := 100

/-- `WorkItemValidationError(message)`. -/
def invalid (message : String) : DollError := ⟨.workItemValidation, message⟩

inductive WorkItemKind where
  | task | milestone | investigation | maintenance | review
deriving DecidableEq, Repr

def WorkItemKind.all : List WorkItemKind := [.task, .milestone, .investigation, .maintenance, .review]

def WorkItemKind.text : WorkItemKind → Text
  | .task => "task".toList
  | .milestone => "milestone".toList
  | .investigation => "investigation".toList
  | .maintenance => "maintenance".toList
  | .review => "review".toList

inductive WorkItemStatus where
  | proposed | ready | inProgress | blocked | completed | cancelled
deriving DecidableEq, Repr

def WorkItemStatus.all : List WorkItemStatus :=
  [.proposed, .ready, .inProgress, .blocked, .completed, .cancelled]

def WorkItemStatus.text : WorkItemStatus → Text
  | .proposed => "proposed".toList
  | .ready => "ready".toList
  | .inProgress => "in_progress".toList
  | .blocked => "blocked".toList
  | .completed => "completed".toList
  | .cancelled => "cancelled".toList

/-- No transition leads out of the status. -/
def WorkItemStatus.Terminal (status : WorkItemStatus) : Prop :=
  status = .completed ∨ status = .cancelled

instance (status : WorkItemStatus) : Decidable status.Terminal :=
  inferInstanceAs (Decidable (_ ∨ _))

/-- `_ALLOWED_TRANSITIONS`. -/
def allowedTransitions : WorkItemStatus → List WorkItemStatus
  | .proposed => [.ready, .cancelled]
  | .ready => [.inProgress, .blocked, .cancelled]
  | .inProgress => [.blocked, .completed, .cancelled]
  | .blocked => [.ready, .inProgress, .cancelled]
  | .completed => []
  | .cancelled => []

inductive VerificationState where
  | notVerified | pending | passed | failed | notApplicable
deriving DecidableEq, Repr

def VerificationState.all : List VerificationState :=
  [.notVerified, .pending, .passed, .failed, .notApplicable]

def VerificationState.text : VerificationState → Text
  | .notVerified => "not_verified".toList
  | .pending => "pending".toList
  | .passed => "passed".toList
  | .failed => "failed".toList
  | .notApplicable => "not_applicable".toList

theorem WorkItemKind.ofText?_text (kind : WorkItemKind) :
    ofText? WorkItemKind.all WorkItemKind.text kind.text = some kind := by
  cases kind <;> decide

theorem WorkItemStatus.ofText?_text (status : WorkItemStatus) :
    ofText? WorkItemStatus.all WorkItemStatus.text status.text = some status := by
  cases status <;> decide

theorem VerificationState.ofText?_text (state : VerificationState) :
    ofText? VerificationState.all VerificationState.text state.text = some state := by
  cases state <;> decide

inductive WorkItemActor where
  | user | model | runtime | capability | system
deriving DecidableEq, Repr

structure AcceptanceCriterion where
  criterionId : Text
  description : Text
  requiredEvidenceKind : Option Text
  blocking : Bool
deriving DecidableEq

/-- What the metadata of a work-item record holds. -/
structure WorkItemContent where
  projectId : RecordId
  kind : WorkItemKind
  title : Text
  description : Text
  workStatus : WorkItemStatus
  priority : Int
  startedAt : Option Text
  completedAt : Option Text
  dependsOnIds : List RecordId
  blockedByIds : List RecordId
  acceptanceCriteria : List AcceptanceCriterion
  verificationState : VerificationState
  verificationEvidenceIds : List RecordId
  sourceDecisionIds : List RecordId
  artifactIds : List RecordId
  sourceIds : List RecordId

/-- `WorkItemInfo`: the content of a work-item record with its envelope. -/
structure WorkItemInfo where
  workItemId : RecordId
  content : WorkItemContent
  revision : Int
  lifecycleStatus : RecordStatus
  provenance : RecordProvenance
  sensitivity : RecordSensitivity
  createdAt : Text
  updatedAt : Text

def WorkItemInfo.ofRecord (record : RecordEnvelope) (content : WorkItemContent) :
    WorkItemInfo where
  workItemId := record.id
  content := content
  revision := record.revision
  lifecycleStatus := record.status
  provenance := record.provenance
  sensitivity := record.sensitivity
  createdAt := record.createdAt
  updatedAt := record.updatedAt

/-- `_criterion_payload`. -/
def AcceptanceCriterion.payload (criterion : AcceptanceCriterion) : Json :=
  .obj [("criterion_id", .str criterion.criterionId), ("description", .str criterion.description),
    ("required_evidence_kind", Json.ofText? criterion.requiredEvidenceKind),
    ("blocking", .bool criterion.blocking)]

/-- The metadata a work item is written as. -/
def WorkItemContent.metadata (content : WorkItemContent) : Metadata :=
  [("project_id", .str (uuidText content.projectId)), ("kind", .str content.kind.text),
    ("title", .str content.title), ("description", .str content.description),
    ("status", .str content.workStatus.text), ("priority", .int content.priority),
    ("started_at", Json.ofText? content.startedAt),
    ("completed_at", Json.ofText? content.completedAt),
    ("depends_on_ids", Json.ofIds content.dependsOnIds),
    ("blocked_by_ids", Json.ofIds content.blockedByIds),
    ("acceptance_criteria", .arr (content.acceptanceCriteria.map AcceptanceCriterion.payload)),
    ("verification_state", .str content.verificationState.text),
    ("verification_evidence_ids", Json.ofIds content.verificationEvidenceIds),
    ("source_decision_ids", Json.ofIds content.sourceDecisionIds),
    ("artifact_ids", Json.ofIds content.artifactIds),
    ("source_ids", Json.ofIds content.sourceIds)]

/-! ## Field validators -/

section

variable [PythonLibrary]

def parseKind (value : Text) : Result WorkItemKind :=
  orFail (invalid "work-item kind is invalid") (ofText? WorkItemKind.all WorkItemKind.text value)

def parseWorkStatus (value : Text) : Result WorkItemStatus :=
  orFail (invalid "work-item status is invalid")
    (ofText? WorkItemStatus.all WorkItemStatus.text value)

def parseVerificationState (value : Text) : Result VerificationState :=
  orFail (invalid "verification state is invalid")
    (ofText? VerificationState.all VerificationState.text value)

/-- `_priority`. -/
def priorityField : Json → Result Int
  | .int value => do
    ensure (0 ≤ value ∧ value ≤ 100)
      (invalid "work-item priority must be an integer from 0 to 100")
    return value
  | _ => .error (invalid "work-item priority must be an integer from 0 to 100")

def words (name : String) (value : Text) (maximum : Nat) : Result Text :=
  wordsField .workItemValidation name value maximum

def token (name : String) (value : Text) : Result Text := do
  ensure (isToken value = true) (invalid s!"{name} is invalid")
  return value

/-- `_optional_utc`. -/
def optionalUtc (name : String) : Json → Result (Option Text)
  | .null => .ok none
  | .str value => do
    return some (← utcField .workItemValidation " must use UTC Z notation" " is invalid" name value)
  | _ => .error ⟨.workItemValidation, name ++ " must use UTC Z notation"⟩

def referenceIds (name : String) (values : List Text) : Result (List RecordId) :=
  DollState.referenceIds .workItemValidation maxLinks name values

def metadataIds (metadata : Metadata) (key : String) : Result (List RecordId) :=
  DollState.metadataIds .workItemValidation maxLinks metadata key

/-- `_required_string` of this module. -/
def required (metadata : Metadata) (key : String) : Result Text :=
  requiredString .workItemValidation metadata key

/-- The loop of `_criteria`, `result` being the criteria read so far. -/
def criteriaFrom (result : List AcceptanceCriterion) :
    List AcceptanceCriterion → Result (List AcceptanceCriterion)
  | [] => .ok result
  | value :: values => do
    let criterionId ← token "criterion ID" value.criterionId
    ensure (criterionId ∉ result.map (·.criterionId))
      (invalid "acceptance criterion IDs must be unique")
    let description ← words "criterion description" value.description maxCriterionLength
    let evidenceKind ← optionally (token "required evidence kind") value.requiredEvidenceKind
    criteriaFrom (result ++ [⟨criterionId, description, evidenceKind, value.blocking⟩]) values

/-- `_criteria`. -/
def criteria (values : List AcceptanceCriterion) : Result (List AcceptanceCriterion) := do
  ensure (values.length ≤ maxListItems) (invalid "acceptance criteria are invalid")
  criteriaFrom [] values

/-- The body of the loop of `_metadata_criteria`. -/
def readCriterion : Json → Result AcceptanceCriterion
  | .obj raw => do
    let evidenceKind ← match Metadata.get raw "required_evidence_kind" with
      | .null => .ok none
      | .str text => .ok (some text)
      | _ => .error (invalid "required evidence kind is invalid")
    let blocking ← match Metadata.get raw "blocking" with
      | .bool b => .ok b
      | _ => .error (invalid "criterion blocking flag is invalid")
    return ⟨← required raw "criterion_id", ← required raw "description", evidenceKind, blocking⟩
  | _ => .error (invalid "acceptance criterion must be an object")

def metadataCriteria (metadata : Metadata) (key : String) :
    Result (List AcceptanceCriterion) := do
  let raw ← metadataList .workItemValidation metadata key
  criteria (← raw.mapM readCriterion)

/-! ## Reading a record -/

/-- `_validate_persisted_semantics`. -/
def validatePersistedSemantics (selfId : RecordId) (c : WorkItemContent) : Result Unit := do
  ensure (¬ (c.workStatus = .completed ∧ c.completedAt = none))
    (invalid "completed work requires completed-at")
  ensure (¬ (c.workStatus ≠ .completed ∧ c.completedAt ≠ none))
    (invalid "non-completed work cannot have completed-at")
  ensure (∀ completed ∈ c.completedAt, ∃ started ∈ c.startedAt, instant started ≤ instant completed)
    (invalid "work-item completion precedes start")
  ensure (¬ (c.workStatus = .blocked ∧ c.blockedByIds = []))
    (invalid "blocked work requires a blocker")
  ensure (¬ (c.workStatus ≠ .blocked ∧ c.blockedByIds ≠ []))
    (invalid "only blocked work may declare blockers")
  ensure (selfId ∉ c.dependsOnIds ∧ selfId ∉ c.blockedByIds ∧ selfId ∉ c.sourceIds)
    (invalid "work-item relation contains self")
  ensure (∀ id ∈ c.dependsOnIds, id ∉ c.blockedByIds)
    (invalid "dependency and blocker relations overlap")
  ensure (¬ (c.verificationState ∈ [.passed, .failed] ∧ c.verificationEvidenceIds = []))
    (invalid "verification evidence is missing")
  ensure (¬ (c.verificationState ∈ [.notVerified, .notApplicable] ∧
      c.verificationEvidenceIds ≠ []))
    (invalid "verification evidence is not allowed")

/-- `_work_item_from_record` up to its link checks. -/
def readWorkItem (record : RecordEnvelope) : Result WorkItemContent := do
  let metadata := record.metadata
  ensure (record.recordType = "work_item" ∧ record.schemaVersion = 1)
    (invalid "work-item envelope is unsupported")
  ensure (record.status = .active ∨ record.status = .archived)
    (invalid "work-item envelope status is unsupported")
  ensure (1 ≤ record.revision) (invalid "work-item revision must be positive")
  let projectId ← uuidField .workItemValidation "work-item project ID"
    (← required metadata "project_id")
  let kind ← parseKind (← required metadata "kind")
  let title ← words "work-item title" (← required metadata "title") maxTitleLength
  ensure (record.title = some title) (invalid "work-item title is inconsistent")
  let description ← words "work-item description" (← required metadata "description")
    maxDescriptionLength
  let workStatus ← parseWorkStatus (← required metadata "status")
  ensure (workStatus = .proposed ∨ record.provenance = .userCreated ∨
      record.provenance = .userConfirmed)
    (invalid "accepted work requires trusted provenance")
  let priority ← priorityField (metadata.get "priority")
  let startedAt ← optionalUtc "work-item started-at" (metadata.get "started_at")
  let completedAt ← optionalUtc "work-item completed-at" (metadata.get "completed_at")
  let dependsOnIds ← metadataIds metadata "depends_on_ids"
  let blockedByIds ← metadataIds metadata "blocked_by_ids"
  let acceptanceCriteria ← metadataCriteria metadata "acceptance_criteria"
  let verificationState ← parseVerificationState (← required metadata "verification_state")
  let verificationEvidenceIds ← metadataIds metadata "verification_evidence_ids"
  let sourceDecisionIds ← metadataIds metadata "source_decision_ids"
  let artifactIds ← metadataIds metadata "artifact_ids"
  let sourceIds ← metadataIds metadata "source_ids"
  let content : WorkItemContent :=
    { projectId, kind, title, description, workStatus, priority, startedAt, completedAt,
      dependsOnIds, blockedByIds, acceptanceCriteria, verificationState, verificationEvidenceIds,
      sourceDecisionIds, artifactIds, sourceIds }
  validatePersistedSemantics record.id content
  return content

/-- What the reader catches. -/
def malformed : List ErrorKind := [.key, .value, .workItemValidation]

/-- `_work_item_from_record` without a repository. -/
def workItemFromRecord (record : RecordEnvelope) : Result WorkItemInfo :=
  catching (DollError.isA malformed) ⟨.workItemCorrupt, "work-item record is malformed"⟩ do
    let content ← readWorkItem record
    return WorkItemInfo.ofRecord record content

/-! ## Links -/

/-- A dependency graph: the dependencies of each of its nodes. -/
abbrev DependencyGraph := List (RecordId × List RecordId)

/-- The dependencies of a node that are nodes themselves. -/
def DependencyGraph.next (graph : DependencyGraph) (node : RecordId) : List RecordId :=
  ((graph.lookup node).getD []).filter fun dependency => (graph.lookup dependency).isSome

/-- `_validate_dependency_graph`. -/
def validateDependencyGraph (projectId candidateId : RecordId)
    (candidateDependencies : List RecordId) : Reader Unit := do
  let ids ← activeIds "work_item"
  let items ← ReadProgram.collect (fun id => do
    let record ← getRecord id
    workItemFromRecord record) (ids.filter (· ≠ candidateId))
  let graph : DependencyGraph := (candidateId, candidateDependencies) ::
    (items.filter (·.content.projectId = projectId)).map
      fun item => (item.workItemId, item.content.dependsOnIds)
  ensure (Digraph.acyclic graph.next (graph.map (·.1)) = true)
    (invalid "work-item dependency cycle is not allowed")

/-- The body of the first loop of `_validate_work_item_relations`. -/
def relationTarget (projectId linkedId : RecordId) : Reader WorkItemInfo := do
  let item ← ReadProgram.catching
    (DollError.isA [.key, .workItemCorrupt, .workItemValidation])
    (invalid "work-item relation target is invalid") do
      let linkedRecord ← getRecord linkedId
      ensure (linkedRecord.status = .active) (invalid "linked work item is not active")
      workItemFromRecord linkedRecord
  ensure (item.content.projectId = projectId) (invalid "work-item relation crosses project scope")
  return item

/-- `_validate_work_item_relations`. No identifier is both a dependency and a blocker here. -/
def validateWorkItemRelations (selfId projectId : RecordId)
    (dependsOnIds blockedByIds : List RecordId) : Reader Unit := do
  let _ ← ReadProgram.collect (relationTarget projectId) dependsOnIds
  let blockers ← ReadProgram.collect (relationTarget projectId) blockedByIds
  forEach (fun item : WorkItemInfo => ensure (¬ item.content.workStatus.Terminal)
    (invalid "terminal work cannot be a current blocker")) blockers
  validateDependencyGraph projectId selfId dependsOnIds

variable [ModuleRules]

/-- `_validate_project_link`. -/
def validateProjectLink (projectId : RecordId) : Reader Unit :=
  ReadProgram.catching (DollError.isA [.key, .projectDecisionCorrupt, .workItemValidation])
      (invalid "work item requires a valid active project") do
    let record ← getRecord projectId
    ensure (record.recordType = "project" ∧ record.status = .active)
      (invalid "work-item project link is invalid")
    let _ ← Project.projectFromRecordLive record

def validateDecisionLink (decisionId : RecordId) : Reader Unit :=
  ReadProgram.catching (DollError.isA [.key, .projectDecisionCorrupt, .workItemValidation])
      (invalid "source decision link is invalid") do
    let record ← getRecord decisionId
    ensure (record.recordType = "decision" ∧ record.status = .active)
      (invalid "source decision link is invalid")
    let _ ← Project.decisionFromRecordLive record

def isActiveEvidence (record : RecordEnvelope) : Bool :=
  record.recordType = "evidence" && record.status = .active && ModuleRules.isEvidence record

def isActiveArtifact (record : RecordEnvelope) : Bool :=
  record.recordType = "artifact" && record.status = .active && ModuleRules.isArtifact record

def validateSourceLink (sourceId : RecordId) : Reader Unit := do
  let record ← ReadProgram.catching (DollError.isA [.key])
    (invalid "work-item source link is missing") (getRecord sourceId)
  ensure (record.status = .active ∧ record.sensitivity ≠ .secret)
    (invalid "work-item source link is not portable")

/-- `_validate_typed_links`. -/
def validateTypedLinks (decisionIds evidenceIds artifactIds sourceIds : List RecordId) :
    Reader Unit := do
  ReadProgram.forEach validateDecisionLink decisionIds
  ReadProgram.forEach (linkTo (invalid "verification evidence link is invalid") isActiveEvidence)
    evidenceIds
  ReadProgram.forEach (linkTo (invalid "work-item artifact link is invalid") isActiveArtifact)
    artifactIds
  ReadProgram.forEach validateSourceLink sourceIds

/-- The link checks of a work item. -/
def validateLinks (selfId : RecordId) (c : WorkItemContent) : Reader Unit := do
  validateProjectLink c.projectId
  validateWorkItemRelations selfId c.projectId c.dependsOnIds c.blockedByIds
  validateTypedLinks c.sourceDecisionIds c.verificationEvidenceIds c.artifactIds c.sourceIds

/-- `_work_item_from_record` with a repository. -/
def workItemFromRecordLive (record : RecordEnvelope) : Reader WorkItemInfo :=
  ReadProgram.catching (DollError.isA malformed)
      ⟨.workItemCorrupt, "work-item record is malformed"⟩ do
    let content ← readWorkItem record
    validateLinks record.id content
    return WorkItemInfo.ofRecord record content

end

end DollState.WorkItem
