import DollState.Domain.WorkItem
import DollState.State.Reference

/-!
# The work-item service

The writing calls of `WorkItemService`. Each validates its arguments against the records it reads
and ends with the transaction to run; the transaction itself only looks at the work item it writes.
-/

namespace DollState.WorkItem

open StateLib

/-! ## The values a caller gives -/

/-- The arguments of `_validated_work_item_values`. -/
structure WorkItemValues where
  projectId : Text
  kind : Text
  title : Text
  description : Text
  workStatus : Text
  priority : Int
  startedAt : Option Text
  completedAt : Option Text
  dependsOnIds : List Text
  blockedByIds : List Text
  acceptanceCriteria : List AcceptanceCriterion
  verificationState : Text
  verificationEvidenceIds : List Text
  sourceDecisionIds : List Text
  artifactIds : List Text
  sourceIds : List Text

/-- The values of a work item that has been read. -/
def WorkItemContent.values (c : WorkItemContent) : WorkItemValues where
  projectId := uuidText c.projectId
  kind := c.kind.text
  title := c.title
  description := c.description
  workStatus := c.workStatus.text
  priority := c.priority
  startedAt := c.startedAt
  completedAt := c.completedAt
  dependsOnIds := c.dependsOnIds.map uuidText
  blockedByIds := c.blockedByIds.map uuidText
  acceptanceCriteria := c.acceptanceCriteria
  verificationState := c.verificationState.text
  verificationEvidenceIds := c.verificationEvidenceIds.map uuidText
  sourceDecisionIds := c.sourceDecisionIds.map uuidText
  artifactIds := c.artifactIds.map uuidText
  sourceIds := c.sourceIds.map uuidText

/-- The arguments that define a work item. -/
structure Definition where
  title : Text
  description : Text
  priority : Int
  dependsOnIds : List Text
  acceptanceCriteria : List AcceptanceCriterion
  sourceDecisionIds : List Text
  artifactIds : List Text
  sourceIds : List Text

/-- The arguments common to the calls: an audit operation identifier and who is calling. -/
structure Caller where
  operationId : Option Text
  actorType : WorkItemActor

section

variable [PythonLibrary] [ModuleRules]

/-- `_validated_work_item_values` up to its link checks; `selfId` is the identifier of a record. -/
def checkedValues (selfId : RecordId) (v : WorkItemValues) : Result WorkItemContent := do
  let projectId ← uuidField .workItemValidation "work-item project ID" v.projectId
  let kind ← parseKind v.kind
  let title ← words "work-item title" v.title maxTitleLength
  let description ← words "work-item description" v.description maxDescriptionLength
  let workStatus ← parseWorkStatus v.workStatus
  let priority ← priorityField (.int v.priority)
  let startedAt ← optionalUtc "work-item started-at" (Json.ofText? v.startedAt)
  let completedAt ← optionalUtc "work-item completed-at" (Json.ofText? v.completedAt)
  ensure (∀ completed ∈ completedAt, ∃ started ∈ startedAt, instant started ≤ instant completed)
    (invalid "work-item completion precedes start")
  ensure (¬ (workStatus = .completed ∧ completedAt = none))
    (invalid "completed work requires completed-at")
  ensure (¬ (workStatus ≠ .completed ∧ completedAt ≠ none))
    (invalid "non-completed work cannot have completed-at")
  let dependsOnIds ← referenceIds "work-item dependency IDs" v.dependsOnIds
  let blockedByIds ← referenceIds "work-item blocker IDs" v.blockedByIds
  ensure (¬ (workStatus = .blocked ∧ blockedByIds = []))
    (invalid "blocked work requires at least one blocker")
  ensure (¬ (workStatus ≠ .blocked ∧ blockedByIds ≠ []))
    (invalid "only blocked work may declare current blockers")
  ensure (selfId ∉ dependsOnIds ∧ selfId ∉ blockedByIds)
    (invalid "work item cannot depend on or be blocked by itself")
  ensure (∀ id ∈ dependsOnIds, id ∉ blockedByIds)
    (invalid "dependency and blocker relations must remain distinct")
  let acceptanceCriteria ← criteria v.acceptanceCriteria
  let verificationState ← parseVerificationState v.verificationState
  let verificationEvidenceIds ← referenceIds "verification evidence IDs" v.verificationEvidenceIds
  ensure (¬ (verificationState ∈ [.passed, .failed] ∧ verificationEvidenceIds = []))
    (invalid "passed or failed verification requires evidence")
  ensure (¬ (verificationState ∈ [.notVerified, .notApplicable] ∧ verificationEvidenceIds ≠ []))
    (invalid "verification state cannot carry evidence")
  let sourceDecisionIds ← referenceIds "source decision IDs" v.sourceDecisionIds
  let artifactIds ← referenceIds "work-item artifact IDs" v.artifactIds
  let sourceIds ← referenceIds "work-item source IDs" v.sourceIds
  ensure (selfId ∉ sourceIds) (invalid "work item cannot cite itself as a source")
  return { projectId, kind, title, description, workStatus, priority, startedAt, completedAt,
           dependsOnIds, blockedByIds, acceptanceCriteria, verificationState,
           verificationEvidenceIds, sourceDecisionIds, artifactIds, sourceIds }

/-- `_validated_work_item_values`. -/
def validatedWorkItemValues (selfId : RecordId) (v : WorkItemValues) : Reader WorkItemContent := do
  let content ← checkedValues selfId v
  validateLinks selfId content
  return content

/-! ## Transactions -/

def WorkItemActor.audit : WorkItemActor → AuditActor
  | .user => .user
  | .model => .model
  | .runtime => .runtime
  | .capability => .capability
  | .system => .system

/-- `metadata["title"]`, as the column that holds it. -/
def titleColumn (metadata : Metadata) : Option Text :=
  match metadata.get "title" with
  | .str title => some title
  | _ => none

/-- The audit metadata `_insert_audit` makes of a record's metadata. -/
def auditMetadata (sensitivity : RecordSensitivity) (metadata : Metadata) : Result Metadata := do
  let domainStatus ← required metadata "status"
  let kind ← required metadata "kind"
  let dependencies ← metadataList .workItemValidation metadata "depends_on_ids"
  let blockers ← metadataList .workItemValidation metadata "blocked_by_ids"
  let criteria ← metadataList .workItemValidation metadata "acceptance_criteria"
  return [("record_type", .str "work_item".toList), ("domain_status", .str domainStatus),
    ("kind", .str kind), ("sensitivity", .str sensitivity.text),
    ("dependency_count", .int dependencies.length), ("blocker_count", .int blockers.length),
    ("criterion_count", .int criteria.length)]

def auditDraft (env : Surroundings) (safeOperationId : Text) (action : String)
    (actorType : WorkItemActor) (sensitivity : RecordSensitivity) (metadata : Metadata) :
    AuditDraft where
  eventId := env.eventId
  occurredAt := env.auditNow
  operationId := .ok safeOperationId
  actorType := actorType.audit
  action := action
  targetType := "work_item"
  summary := "Changed authoritative work-item record"
  metadata := auditMetadata sensitivity metadata

/-- `_create_work_item`. -/
def createWorkItem (env : Surroundings) (recordId : RecordId) (metadata : Metadata)
    (provenance : RecordProvenance) (sensitivity : RecordSensitivity) (operation : Option Text)
    (action : String) (actorType : WorkItemActor) : Result Write := do
  requireWrite env
  validateRecordFields "work_item" 1
  let safeOperationId ← operationId env operation
  return .create
    { id := recordId, recordType := "work_item", schemaVersion := 1, createdAt := env.now,
      updatedAt := env.now, revision := 1, status := .active, provenance := provenance,
      sensitivity := sensitivity, title := titleColumn metadata, metadata := metadata }
    (auditDraft env safeOperationId action actorType sensitivity metadata)
    ⟨.stateCorrupt, "work-item record could not be created"⟩

/-- `_update_work_item`. -/
def updateWorkItem (env : Surroundings) (currentRecord : RecordEnvelope) (expectedRevision : Int)
    (metadata : Metadata) (lifecycleStatus : RecordStatus) (operation : Option Text)
    (action : String) : Result Write := do
  requireWrite env
  let safeOperationId ← operationId env operation
  return .change
    { base := currentRecord, expectedRevision := expectedRevision, schemaVersion := none,
      status := lifecycleStatus, provenance := some .userConfirmed,
      title := some (titleColumn metadata), metadata := metadata, now := env.now }
    (auditDraft env safeOperationId action .user currentRecord.sensitivity metadata)
    { archived := invalid "archived work item cannot be changed"
      unchanged := ⟨.staleRevision, "record revision changed during update"⟩
      failed := ⟨.stateCorrupt, "work-item record could not be updated"⟩ }

/-! ## The service -/

/-- `_require_record`. -/
def requireRecord (workItemId : Text) : Reader RecordEnvelope := do
  let safeId ← uuidField .workItemValidation "work-item ID" workItemId
  let record ← ReadProgram.catching (DollError.isA [.key]) (invalid "work item does not exist")
    (getRecord safeId)
  ensure (record.recordType = "work_item") (invalid "record is not a work item")
  return record

def requireActive (item : WorkItemInfo) : Result Unit :=
  ensure (item.lifecycleStatus = .active) (invalid "archived work item cannot be changed")

def requireUser (actorType : WorkItemActor) : Result Unit :=
  ensure (actorType = .user) (invalid "accepted work-item mutation requires the user path")

def proposalProvenance : WorkItemActor → RecordProvenance
  | .user => .userCreated
  | .model => .modelProposed
  | _ => .systemGenerated

def get (workItemId : Text) : Reader WorkItemInfo := do
  let record ← requireRecord workItemId
  workItemFromRecordLive record

/-- The work item a change starts from. -/
def currentWorkItem (workItemId : Text) : Reader (RecordEnvelope × WorkItemInfo) := do
  let currentRecord ← requireRecord workItemId
  let current ← workItemFromRecordLive currentRecord
  requireActive current
  return (currentRecord, current)

/-- The values of a work item about to be created with a status. -/
def Definition.newValues (d : Definition) (projectId kind workStatus : Text) : WorkItemValues where
  projectId := projectId
  kind := kind
  title := d.title
  description := d.description
  workStatus := workStatus
  priority := d.priority
  startedAt := none
  completedAt := none
  dependsOnIds := d.dependsOnIds
  blockedByIds := []
  acceptanceCriteria := d.acceptanceCriteria
  verificationState := "not_verified".toList
  verificationEvidenceIds := []
  sourceDecisionIds := d.sourceDecisionIds
  artifactIds := d.artifactIds
  sourceIds := d.sourceIds

def propose (env : Surroundings) (projectId kind : Text) (d : Definition)
    (sensitivity : RecordSensitivity) (caller : Caller) : Reader Write := do
  let provenance := proposalProvenance caller.actorType
  let content ← validatedWorkItemValues env.newId (d.newValues projectId kind "proposed".toList)
  createWorkItem env env.newId content.metadata provenance sensitivity caller.operationId
    "work-item.propose" caller.actorType

def create (env : Surroundings) (projectId kind : Text) (d : Definition)
    (sensitivity : RecordSensitivity) (caller : Caller) : Reader Write := do
  requireUser caller.actorType
  let content ← validatedWorkItemValues env.newId (d.newValues projectId kind "ready".toList)
  createWorkItem env env.newId content.metadata .userCreated sensitivity caller.operationId
    "work-item.create" .user

/-- The values of a work item about to be redefined. -/
def WorkItemContent.redefined (c : WorkItemContent) (d : Definition) : WorkItemValues :=
  { c.values with
    title := d.title, description := d.description, priority := d.priority,
    dependsOnIds := d.dependsOnIds, acceptanceCriteria := d.acceptanceCriteria,
    sourceDecisionIds := d.sourceDecisionIds, artifactIds := d.artifactIds,
    sourceIds := d.sourceIds }

def updateDefinition (env : Surroundings) (workItemId : Text) (expectedRevision : Int)
    (d : Definition) (caller : Caller) : Reader Write := do
  requireUser caller.actorType
  let (currentRecord, current) ← currentWorkItem workItemId
  let content ← validatedWorkItemValues current.workItemId (current.content.redefined d)
  updateWorkItem env currentRecord expectedRevision content.metadata .active caller.operationId
    "work-item.update"

/-- The start and completion times after a transition at `timestamp`. -/
def transitionTimes (current : WorkItemContent) (toStatus : WorkItemStatus) (timestamp : Text) :
    Option Text × Option Text :=
  match toStatus with
  | .inProgress => (some (current.startedAt.getD timestamp), none)
  | .completed => (some (current.startedAt.getD timestamp), some timestamp)
  | _ => (current.startedAt, none)

/-- The blockers after a transition. -/
def transitionBlockers (current : WorkItemContent) (toStatus : WorkItemStatus)
    (blockedByIds : Option (List Text)) : Result (List Text) :=
  if toStatus = .blocked then
    .ok (blockedByIds.getD (current.blockedByIds.map uuidText))
  else do
    ensure (blockedByIds.getD [] = []) (invalid "only blocked work may declare current blockers")
    return []

/-- The values of a work item about to go to another status. -/
def WorkItemContent.transitioned (c : WorkItemContent) (toStatus : WorkItemStatus)
    (timestamp : Text) (blockers : List Text) : WorkItemValues :=
  { c.values with
    workStatus := toStatus.text, startedAt := (transitionTimes c toStatus timestamp).1,
    completedAt := (transitionTimes c toStatus timestamp).2, blockedByIds := blockers }

def transition (env : Surroundings) (workItemId : Text) (expectedRevision : Int) (toStatus : Text)
    (occurredAt : Option Text) (blockedByIds : Option (List Text)) (caller : Caller) :
    Reader Write := do
  requireUser caller.actorType
  let (currentRecord, current) ← currentWorkItem workItemId
  let safeStatus ← parseWorkStatus toStatus
  ensure (safeStatus ∈ allowedTransitions current.content.workStatus)
    (invalid "work-item lifecycle transition is not allowed")
  let occurred ← optionalUtc "work-item transition time" (Json.ofText? occurredAt)
  let blockers ← transitionBlockers current.content safeStatus blockedByIds
  let content ← validatedWorkItemValues current.workItemId
    (current.content.transitioned safeStatus (occurred.getD env.calledAt) blockers)
  updateWorkItem env currentRecord expectedRevision content.metadata .active caller.operationId
    ("work-item." ++ String.ofList safeStatus.text)

/-- The values of a work item about to get another verification. -/
def WorkItemContent.verified (c : WorkItemContent) (verificationState : Text)
    (evidenceIds : List Text) : WorkItemValues :=
  { c.values with
    verificationState := verificationState, verificationEvidenceIds := evidenceIds }

def setVerification (env : Surroundings) (workItemId : Text) (expectedRevision : Int)
    (verificationState : Text) (evidenceIds : List Text) (caller : Caller) : Reader Write := do
  requireUser caller.actorType
  let (currentRecord, current) ← currentWorkItem workItemId
  let content ← validatedWorkItemValues current.workItemId
    (current.content.verified verificationState evidenceIds)
  updateWorkItem env currentRecord expectedRevision content.metadata .active caller.operationId
    "work-item.verify"

def archive (env : Surroundings) (workItemId : Text) (expectedRevision : Int) (caller : Caller) :
    Reader Write := do
  requireUser caller.actorType
  let (currentRecord, _) ← currentWorkItem workItemId
  updateWorkItem env currentRecord expectedRevision currentRecord.metadata .archived
    caller.operationId "work-item.archive"

/-- A writing call of `WorkItemService`. -/
inductive Call where
  | propose (projectId kind : Text) (d : Definition) (sensitivity : RecordSensitivity)
      (caller : Caller)
  | create (projectId kind : Text) (d : Definition) (sensitivity : RecordSensitivity)
      (caller : Caller)
  | updateDefinition (workItemId : Text) (expectedRevision : Int) (d : Definition)
      (caller : Caller)
  | transition (workItemId : Text) (expectedRevision : Int) (toStatus : Text)
      (occurredAt : Option Text) (blockedByIds : Option (List Text)) (caller : Caller)
  | setVerification (workItemId : Text) (expectedRevision : Int) (verificationState : Text)
      (evidenceIds : List Text) (caller : Caller)
  | archive (workItemId : Text) (expectedRevision : Int) (caller : Caller)

/-- The call up to its transaction. -/
def Call.prepare (env : Surroundings) : Call → Reader Write
  | .propose projectId kind d sensitivity caller =>
    WorkItem.propose env projectId kind d sensitivity caller
  | .create projectId kind d sensitivity caller =>
    WorkItem.create env projectId kind d sensitivity caller
  | .updateDefinition workItemId expectedRevision d caller =>
    WorkItem.updateDefinition env workItemId expectedRevision d caller
  | .transition workItemId expectedRevision toStatus occurredAt blockedByIds caller =>
    WorkItem.transition env workItemId expectedRevision toStatus occurredAt blockedByIds caller
  | .setVerification workItemId expectedRevision verificationState evidenceIds caller =>
    WorkItem.setVerification env workItemId expectedRevision verificationState evidenceIds caller
  | .archive workItemId expectedRevision caller =>
    WorkItem.archive env workItemId expectedRevision caller

end

/-! ## Tasks to run the service with -/

/-- The definition of a task with the given dependencies. -/
def task (title : String) (dependsOnIds : List RecordId) : Definition where
  title := title.toList
  description := "Garden work".toList
  priority := 50
  dependsOnIds := dependsOnIds.map uuidText
  acceptanceCriteria := []
  sourceDecisionIds := []
  artifactIds := []
  sourceIds := []

/-- Create a task of the project, under the identifier `3 * n + 1`. -/
def createTask (n : Nat) (title : String) : Surroundings × Call :=
  (surroundings n, .create (uuidText 100) "task".toList (task title []) .personal ⟨none, .user⟩)

end DollState.WorkItem
