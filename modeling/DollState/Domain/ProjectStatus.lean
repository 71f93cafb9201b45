import DollState.Domain.CheckpointService
import DollState.Domain.Procedure
import DollState.Domain.ProjectService
import DollState.Domain.WorkItemService
import DollState.Settings.Service
import Mathlib.Data.List.Lex
import Mathlib.Data.Prod.Lex

/-!
# The status of a project

The model of `ProjectStatusService.build`. It reads the project, then every work item, checkpoint,
decision and procedure of the workspace, one record after the other, and keeps those of the project.
`inputs` is the part that reads, `statusOf` what it makes of what it has read.
-/

namespace DollState

open StateLib

/-- `DecisionService.get`. -/
def Project.getDecision [PythonLibrary] [ModuleRules] (decisionId : Text) :
    Reader Project.DecisionInfo := do
  let record ← Project.requireRecord decisionId "decision"
  Project.decisionFromRecordLive record

namespace Status

/-! ## Values -/

/-- `ProjectStatusValidationError(message)`. -/
def invalid (message : String) : DollError := ⟨.projectStatusValidation, message⟩

def corrupt : DollError :=
  ⟨.projectStatusCorrupt, "authoritative project status inputs are malformed"⟩

/-- The letter case that names are sorted by. -/
class FoldLibrary where
  /-- `str.casefold`. -/
  casefold : Text → Text

/-- Letter case in ASCII. -/
@[reducible] def asciiFold : FoldLibrary where
  casefold := List.map Char.toLower

structure StatusWorkItem where
  workItemId : RecordId
  kind : WorkItem.WorkItemKind
  title : Text
  workStatus : WorkItem.WorkItemStatus
  priority : Int
  blockedByIds : List RecordId
  verificationState : WorkItem.VerificationState
  revision : Int
deriving DecidableEq

structure PendingValidation where
  workItemId : RecordId
  title : Text
  workStatus : WorkItem.WorkItemStatus
  verificationState : WorkItem.VerificationState
  blockingCriterionIds : List Text
  verificationEvidenceIds : List RecordId
deriving DecidableEq

structure StatusCheckpoint where
  checkpointId : RecordId
  asOf : Text
  currentPhase : Text
  currentGoal : Text
  confirmationState : Checkpoint.ConfirmationState
  freshness : Option Checkpoint.CheckpointFreshness
  basisFingerprint : Option Text
  requiredValidationIds : List RecordId
  revision : Int
deriving DecidableEq

structure StatusDecision where
  decisionId : RecordId
  decision : Text
  reason : Text
  decidedAt : Text
  constraints : List Text
  revision : Int
deriving DecidableEq

structure StatusPolicy where
  policyId : RecordId
  key : Text
  rule : Text
  enabled : Bool
  revision : Int
deriving DecidableEq

structure StatusProcedure where
  procedureId : RecordId
  title : Text
  purpose : Text
  version : Int
  lastVerifiedAt : Option Text
  revision : Int
deriving DecidableEq

/-- `omitted_record_counts`. -/
structure OmittedCounts where
  workItems : Nat
  checkpoints : Nat
  decisions : Nat
  policies : Nat
  procedures : Nat
deriving DecidableEq

structure ProjectStatusInfo where
  projectId : RecordId
  projectName : Text
  objective : Option Text
  projectStatus : Project.ProjectStatus
  projectRevision : Int
  currentPhase : Option Text
  currentGoal : Option Text
  activeWork : List StatusWorkItem
  nextReadyWork : List StatusWorkItem
  blockedWork : List StatusWorkItem
  pendingRequiredValidation : List PendingValidation
  latestCheckpoint : Option StatusCheckpoint
  governingDecisions : List StatusDecision
  governingPolicies : List StatusPolicy
  approvedProcedures : List StatusProcedure
  omittedRecordCounts : OmittedCounts
  sourceStateRevision : Nat
deriving DecidableEq

/-! ## Sorting -/

/-- `sorted(items, key=key)`. -/
def sortedBy {α κ : Type} [LinearOrder κ] (key : α → κ) (items : List α) : List α :=
  items.insertionSort fun a b => key a ≤ key b

section

variable [FoldLibrary]

def workSortKey (item : WorkItem.WorkItemInfo) : Int ×ₗ Text ×ₗ Nat :=
  toLex (item.content.priority,
    toLex (FoldLibrary.casefold item.content.title, item.workItemId.toNat))

def procedureSortKey (item : Procedure.ProcedureInfo) : Text ×ₗ Int ×ₗ Nat :=
  toLex (FoldLibrary.casefold item.content.title,
    toLex (item.content.version, item.procedureId.toNat))

end

def checkpointSortKey (item : Checkpoint.CheckpointInfo) : Text ×ₗ Text ×ₗ Nat :=
  toLex (item.content.asOf, toLex (item.createdAt, item.checkpointId.toNat))

def decisionSortKey (item : Project.DecisionInfo) : Text ×ₗ Nat :=
  toLex (item.content.decidedAt, item.decisionId.toNat)

def policySortKey (item : Settings.PolicyInfo) : Text ×ₗ Nat :=
  toLex (item.content.key, item.recordId.toNat)

/-! ## What is read -/

/-- The items that `mine` keeps: those that are not secret, and the number of those that are. -/
def visible {α : Type} (mine : α → Bool) (sensitivity : α → RecordSensitivity) (items : List α) :
    List α × Nat :=
  ((items.filter mine).filter fun item => sensitivity item ≠ .secret,
    ((items.filter mine).filter fun item => sensitivity item = .secret).length)

/-- Every record of a type as its service returns it. -/
def scan {α : Type} (recordType : String) (get : Text → Reader α) : Reader (List α) := do
  let ids ← recordIds recordType
  ReadProgram.collect (fun id => get (uuidText id)) ids

/-- What the builder has read. -/
structure Inputs where
  project : Project.ProjectInfo
  workItems : List WorkItem.WorkItemInfo
  checkpoints : List Checkpoint.CheckpointInfo
  decisions : List Project.DecisionInfo
  policies : List Settings.PolicyInfo
  procedures : List Procedure.ProcedureInfo
  omitted : OmittedCounts
  sourceRevision : Nat

/-- The work items of a project. -/
def isWork (projectId : RecordId) (item : WorkItem.WorkItemInfo) : Bool :=
  item.content.projectId = projectId && item.lifecycleStatus = .active

/-- The checkpoints of a project that have been confirmed. -/
def isCheckpoint (projectId : RecordId) (item : Checkpoint.CheckpointInfo) : Bool :=
  item.content.projectId = projectId && item.lifecycleStatus = .active &&
    item.content.confirmationState ≠ .proposed

/-- The decisions that hold for a project. -/
def isGoverning (project : Project.ProjectInfo) (item : Project.DecisionInfo) : Bool :=
  item.lifecycleStatus = .active && item.content.decisionStatus = .accepted &&
    (item.content.projectId = some project.projectId ||
      item.decisionId ∈ project.content.decisionIds)

/-- The procedures of a project that have been approved. -/
def isProcedure (projectId : RecordId) (item : Procedure.ProcedureInfo) : Bool :=
  item.content.projectId = projectId && item.lifecycleStatus = .active &&
    item.content.procedureStatus = .approved

/-- The identifiers of the policies of a project, in their order. -/
def governingPolicyIds (project : Project.ProjectInfo) : List RecordId :=
  project.content.links.policyIds.insertionSort fun a b => a.toNat ≤ b.toNat

section

variable [PythonLibrary] [ModuleRules] [FoldLibrary]

/-- `_work_items`. -/
def workItems (project : Project.ProjectInfo) : Reader (List WorkItem.WorkItemInfo × Nat) := do
  let items ← scan "work_item" WorkItem.get
  let (mine, omitted) := visible (isWork project.projectId) (·.sensitivity) items
  return (sortedBy workSortKey mine, omitted)

/-- `_checkpoints`. -/
def checkpoints (project : Project.ProjectInfo) :
    Reader (List Checkpoint.CheckpointInfo × Nat) := do
  let items ← scan "project_checkpoint" Checkpoint.get
  let (mine, omitted) := visible (isCheckpoint project.projectId) (·.sensitivity) items
  return (sortedBy checkpointSortKey mine, omitted)

/-- `_decisions`. -/
def decisions (project : Project.ProjectInfo) : Reader (List Project.DecisionInfo × Nat) := do
  let items ← scan "decision" Project.getDecision
  let (mine, omitted) := visible (isGoverning project) (·.sensitivity) items
  return (sortedBy decisionSortKey mine, omitted)

/-- `_policies`. -/
def policies (project : Project.ProjectInfo) : Reader (List Settings.PolicyInfo × Nat) := do
  let items ← ReadProgram.collect (fun id => Settings.Policy.get (uuidText id))
    (governingPolicyIds project)
  let (mine, omitted) := visible (fun item => item.status = .active) (·.sensitivity) items
  return (sortedBy policySortKey mine, omitted)

/-- `_procedures`. -/
def procedures (project : Project.ProjectInfo) : Reader (List Procedure.ProcedureInfo × Nat) := do
  let items ← scan "procedure" Procedure.get
  let (mine, omitted) := visible (isProcedure project.projectId) (·.sensitivity) items
  return (sortedBy procedureSortKey mine, omitted)

/-- What the builder reads, in its order. -/
def inputs (safeProjectId : RecordId) : Reader Inputs := do
  let project ← Project.get (uuidText safeProjectId)
  ensure (project.lifecycleStatus = .active)
    (invalid "live project status requires an active ProjectRecord")
  ensure (project.sensitivity ≠ .secret)
    (invalid "secret projects cannot use normal project-status output")
  let (workItems, omittedWork) ← workItems project
  let (checkpoints, omittedCheckpoints) ← checkpoints project
  let (decisions, omittedDecisions) ← decisions project
  let (policies, omittedPolicies) ← policies project
  let (procedures, omittedProcedures) ← procedures project
  let sourceRevision ← selectStateRevision
  return {
    project, workItems, checkpoints, decisions, policies, procedures, sourceRevision
    omitted := ⟨omittedWork, omittedCheckpoints, omittedDecisions, omittedPolicies,
      omittedProcedures⟩ }

end

/-! ## What is made of it -/

def statusWorkItem (item : WorkItem.WorkItemInfo) : StatusWorkItem where
  workItemId := item.workItemId
  kind := item.content.kind
  title := item.content.title
  workStatus := item.content.workStatus
  priority := item.content.priority
  blockedByIds := item.content.blockedByIds
  verificationState := item.content.verificationState
  revision := item.revision

/-- `_requires_validation`. -/
def requiresValidation (item : WorkItem.WorkItemInfo) : Bool :=
  item.content.workStatus ∉ [.proposed, .cancelled] &&
    item.content.verificationState ∉ [.passed, .notApplicable] &&
    item.content.acceptanceCriteria.any (·.blocking)

def pendingValidation (item : WorkItem.WorkItemInfo) : PendingValidation where
  workItemId := item.workItemId
  title := item.content.title
  workStatus := item.content.workStatus
  verificationState := item.content.verificationState
  blockingCriterionIds := (item.content.acceptanceCriteria.filter (·.blocking)).map (·.criterionId)
  verificationEvidenceIds := item.content.verificationEvidenceIds

def statusCheckpoint (item : Checkpoint.CheckpointInfo) : StatusCheckpoint where
  checkpointId := item.checkpointId
  asOf := item.content.asOf
  currentPhase := item.content.currentPhase
  currentGoal := item.content.currentGoal
  confirmationState := item.content.confirmationState
  freshness := item.freshness
  basisFingerprint := item.content.basisFingerprint
  requiredValidationIds := item.content.requiredValidationIds
  revision := item.revision

def statusDecision (item : Project.DecisionInfo) : StatusDecision where
  decisionId := item.decisionId
  decision := item.content.decision
  reason := item.content.reason
  decidedAt := item.content.decidedAt
  constraints := item.content.constraints
  revision := item.revision

def statusPolicy (item : Settings.PolicyInfo) : StatusPolicy where
  policyId := item.recordId
  key := item.content.key
  rule := item.content.rule
  enabled := item.content.enabled
  revision := item.revision

def statusProcedure (item : Procedure.ProcedureInfo) : StatusProcedure where
  procedureId := item.procedureId
  title := item.content.title
  purpose := item.content.purpose
  version := item.content.version
  lastVerifiedAt := item.content.lastVerifiedAt
  revision := item.revision

/-- The work of a status. -/
def workOf (status : WorkItem.WorkItemStatus) (items : List WorkItem.WorkItemInfo) :
    List StatusWorkItem :=
  (items.filter fun item => item.content.workStatus = status).map statusWorkItem

/-- The status that the builder makes of what it has read. -/
def statusOf (i : Inputs) : ProjectStatusInfo where
  projectId := i.project.projectId
  projectName := i.project.content.name
  objective := i.project.content.charter.map (·.objective)
  projectStatus := i.project.content.projectStatus
  projectRevision := i.project.revision
  currentPhase := i.checkpoints.getLast?.map (·.content.currentPhase)
  currentGoal := i.checkpoints.getLast?.map (·.content.currentGoal)
  activeWork := workOf .inProgress i.workItems
  nextReadyWork := workOf .ready i.workItems
  blockedWork := workOf .blocked i.workItems
  pendingRequiredValidation := (i.workItems.filter requiresValidation).map pendingValidation
  latestCheckpoint := i.checkpoints.getLast?.map statusCheckpoint
  governingDecisions := i.decisions.map statusDecision
  governingPolicies := i.policies.map statusPolicy
  approvedProcedures := i.procedures.map statusProcedure
  omittedRecordCounts := i.omitted
  sourceStateRevision := i.sourceRevision

/-- What the builder catches. -/
def malformed : List ErrorKind := [.key, .projectDecisionCorrupt, .workItemCorrupt,
  .checkpointCorrupt, .procedureCorrupt, .settingsCorrupt]

variable [PythonLibrary] [ModuleRules] [FoldLibrary]

/-- `ProjectStatusService.build`. -/
def build (projectId : Text) : Reader ProjectStatusInfo := do
  let safeProjectId ← orFail (invalid "project ID is invalid") (uuid projectId)
  let inputs ← ReadProgram.catching (DollError.isA malformed) corrupt (inputs safeProjectId)
  return statusOf inputs

end Status

end DollState
