import DollState.Capability.Preflight
import DollState.Domain.ExperienceService
import DollState.Domain.Procedure
import DollState.Domain.ProjectService
import DollState.Settings.Service

/-!
# The continuity preflight

The model of `ContinuityPreflightService.check`: it reads what is on record of a project and a proposed
action, and says what stands against the action. Its findings are collected in the order of the checks;
the result has them without repetitions, and sorted.
-/

namespace DollState.Continuity

open StateLib Capability

def maxExplicitLinks : ℕ := 64
def maxProjectExperiences : ℕ := 500
def maxActionClassLength : ℕ := 120

/-- `ContinuityPreflightValidationError(message)`. -/
def invalid (message : String) : DollError := ⟨.continuityPreflightValidation, message⟩

inductive PreflightStatus where
  | clear | warning | confirmationRequired | blocked
deriving DecidableEq, Repr

inductive WarningCode where
  | workItemBlocked
  | dependencyIncomplete
  | policyDenial
  | procedureNotApproved
  | highRiskConfirmationRequired
  | userActionRequired
  | permissionDenied (reason : Settings.DecisionReason)
  | releaseExcluded
  | priorFailure (assertionState : Experience.AssertionState)
deriving DecidableEq

def WarningCode.text : WarningCode → String
  | .workItemBlocked => "work_item.blocked"
  | .dependencyIncomplete => "work_item.dependency_incomplete"
  | .policyDenial => "policy.authoritative_denial"
  | .procedureNotApproved => "procedure.required_not_approved"
  | .highRiskConfirmationRequired => "capability.high_risk_confirmation_required"
  | .userActionRequired => "permission.user_action_required"
  | .permissionDenied reason => "permission.denied." ++ Settings.Permission.reasonText reason
  | .releaseExcluded => "capability.release_excluded"
  | .priorFailure .userRecorded => "experience.prior_failure.user_recorded"
  | .priorFailure .userConfirmed => "experience.prior_failure.user_confirmed"
  | .priorFailure .deterministicSystem => "experience.prior_failure.deterministic_system"
  | .priorFailure .importedExternal => "experience.prior_failure.imported_advisory"
  | .priorFailure .modelProposed => "experience.prior_failure.model_advisory"

/-- A code that blocks the action without a record that does. -/
def WarningCode.blocks : WarningCode → Bool
  | .permissionDenied _ => true
  | .releaseExcluded => true
  | _ => false

/-- The arguments of `check`. -/
structure PreflightRequest where
  projectId : Text
  proposedActionClass : Text
  workItemId : Option Text
  capabilityId : Option Text
  capabilityVersion : Option Text
  permissionScope : Option Settings.Scope
  applicablePolicyDenialIds : List Text
  requiredProcedureIds : List Text

/-- `ContinuityPreflightResult`; its rule set is always the same. -/
structure ContinuityPreflightResult where
  projectId : RecordId
  proposedActionClass : Text
  status : PreflightStatus
  matchedRecordIds : List RecordId
  warningCodes : List WarningCode
  authoritativeBlockerIds : List RecordId
  requiresConfirmation : Bool

/-- `ContinuityPreflightService`, with the surroundings of its call. -/
structure ContinuityPreflightService where
  capabilityRegistry : CapabilityRegistry
  context : Settings.Context

/-! ## Findings -/

/-- What the checks have collected. -/
structure Findings where
  matched : List RecordId
  warnings : List WarningCode
  blockers : List RecordId
  requiresConfirmation : Bool

def Findings.empty : Findings := ⟨[], [], [], false⟩

def Findings.addMatched (f : Findings) (ids : List RecordId) : Findings :=
  { f with matched := f.matched ++ ids }

def Findings.warn (f : Findings) (codes : List WarningCode) : Findings :=
  { f with warnings := f.warnings ++ codes }

def Findings.block (f : Findings) (ids : List RecordId) : Findings :=
  { f with blockers := f.blockers ++ ids }

def Findings.confirm (f : Findings) : Findings := { f with requiresConfirmation := true }

/-- `tuple(sorted(ids))` of a set of identifiers. -/
def sortedIds (ids : List RecordId) : List RecordId :=
  ids.dedup.insertionSort fun a b => a.toNat ≤ b.toNat

/-- `tuple(sorted(codes))` of a set of codes. -/
def sortedCodes (codes : List WarningCode) : List WarningCode :=
  codes.dedup.insertionSort fun a b => a.text ≤ b.text

def Findings.status (f : Findings) : PreflightStatus :=
  if f.blockers ≠ [] ∨ f.warnings.any WarningCode.blocks = true then .blocked
  else if f.requiresConfirmation = true then .confirmationRequired
  else if f.warnings ≠ [] then .warning
  else .clear

/-- The result of the checks. -/
def Findings.result (f : Findings) (projectId : RecordId) (action : Text) : ContinuityPreflightResult where
  projectId := projectId
  proposedActionClass := action
  status := f.status
  matchedRecordIds := sortedIds f.matched
  warningCodes := sortedCodes f.warnings
  authoritativeBlockerIds := sortedIds f.blockers
  requiresConfirmation := f.requiresConfirmation

/-! ## Arguments -/

/-- `_action_class`. -/
def actionClass (value : Text) : Result Text := do
  let normalized := strip value
  ensure (normalized ≠ [] ∧ normalized.length ≤ maxActionClassLength ∧ isToken normalized = true)
    (invalid "proposed action class is invalid")
  return normalized

/-- `_explicit_ids`. -/
def explicitIds (name : String) (values : List Text) : Result (List Text) := do
  ensure (values.length ≤ maxExplicitLinks) (invalid s!"{name} exceeds the bounded limit")
  ensure values.Nodup (invalid s!"{name} contains duplicate IDs")
  ensure (∀ value ∈ values, value ≠ []) (invalid s!"{name} contains an invalid ID")
  return values

/-! ## The checks -/

/-- `ProjectDecisionError`. -/
def projectDecisionErrors : List ErrorKind :=
  [.projectDecisionValidation, .forbiddenAuthorityMutation, .projectDecisionCorrupt]

/-- `WorkItemError`. -/
def workItemErrors : List ErrorKind := [.workItemValidation, .workItemCorrupt]

/-- `ProcedureError`. -/
def procedureErrors : List ErrorKind := [.procedureValidation, .procedureCorrupt]

/-- `SettingsError`. -/
def settingsErrors : List ErrorKind :=
  [.settingsValidation, .duplicateSetting, .forbiddenPermissionMutation, .permissionDenied,
    .settingsCorrupt]

/-- `ProjectExperienceError`. -/
def experienceErrors : List ErrorKind := [.experienceValidation, .experienceCorrupt]

section

variable [PythonLibrary] [ModuleRules]

/-- The project of the action. -/
def checkedProject (projectId : Text) : Reader Project.ProjectInfo := do
  let project ← ReadProgram.catching (DollError.isA (.key :: projectDecisionErrors))
    (invalid "preflight project is invalid") (Project.get projectId)
  ensure (project.lifecycleStatus = .active) (invalid "preflight project is not active")
  return project

/-- A work item that the one of the action depends on. -/
def addDependency (projectId : RecordId) (f : Findings) (dependencyId : RecordId) : Reader Findings := do
  let dependency ← ReadProgram.catching (DollError.isA (.key :: workItemErrors))
    (invalid "preflight work-item dependency is invalid") (WorkItem.get (uuidText dependencyId))
  ensure (dependency.content.projectId = projectId)
    (invalid "preflight work-item dependency belongs to another project")
  let f := f.addMatched [dependency.workItemId]
  if dependency.lifecycleStatus ≠ .active ∨ dependency.content.workStatus ≠ .completed then
    return (f.block [dependency.workItemId]).warn [.dependencyIncomplete]
  else return f

/-- The work item of the action. -/
def addWorkItem (projectId : RecordId) (workItemId : Text) (f : Findings) :
    Reader (RecordId × Findings) := do
  let item ← ReadProgram.catching (DollError.isA (.key :: workItemErrors))
    (invalid "preflight work item is invalid") (WorkItem.get workItemId)
  ensure (item.content.projectId = projectId) (invalid "preflight work item belongs to another project")
  ensure (item.lifecycleStatus = .active) (invalid "preflight work item is not active")
  let f := f.addMatched [item.workItemId]
  let f := if item.content.workStatus = .blocked then
      ((f.block (item.workItemId :: item.content.blockedByIds)).addMatched item.content.blockedByIds).warn
        [.workItemBlocked]
    else f
  let f ← item.content.dependsOnIds.foldlM (addDependency projectId) f
  return (item.workItemId, f)

variable [CaseLibrary] [FloatLibrary]

omit [ModuleRules] in
/-- A policy that denies the action. -/
def addPolicy (f : Findings) (policyId : Text) : Reader Findings := do
  let policy ← ReadProgram.catching (DollError.isA (.key :: settingsErrors))
    (invalid "applicable denial policy is invalid") (Settings.Policy.get policyId)
  ensure (policy.status = .active ∧ policy.content.enabled = true)
    (invalid "applicable denial policy is not active and enabled")
  ensure (policy.sensitivity ≠ .secret)
    (invalid "secret policy cannot be exposed through continuity preflight")
  return ((f.addMatched [policy.recordId]).block [policy.recordId]).warn [.policyDenial]

omit [CaseLibrary] [FloatLibrary] in
/-- A procedure that the action has to follow. -/
def addProcedure (projectId : RecordId) (f : Findings) (procedureId : Text) : Reader Findings := do
  let procedure ← ReadProgram.catching (DollError.isA (.key :: procedureErrors))
    (invalid "required procedure is invalid") (Procedure.get procedureId)
  ensure (procedure.content.projectId = projectId) (invalid "required procedure belongs to another project")
  ensure (procedure.lifecycleStatus = .active) (invalid "required procedure is not active")
  ensure (procedure.sensitivity ≠ .secret)
    (invalid "secret procedure cannot be exposed through continuity preflight")
  let f := f.addMatched [procedure.procedureId]
  if procedure.content.procedureStatus ≠ .approved then
    return (f.block [procedure.procedureId]).warn [.procedureNotApproved]
  else return f

/-- The permission of a capability that needs one. -/
def addPermission (service : ContinuityPreflightService) (definition : CapabilityDefinition)
    (scope : Settings.Scope) (f : Findings) : Reader Findings := do
  let permission ← ReadProgram.catching (DollError.isA settingsErrors)
    (invalid "capability permission could not be resolved")
    (Settings.Permission.resolve service.context definition.capabilityId scope)
  ensure (Json.eq (Metadata.get permission.scope "kind") (.str definition.permissionScopeKind) = true)
    (invalid "permission scope is incompatible with the capability")
  let f := f.addMatched permission.recordId.toList
  if permission.effectiveMode = .ask then return f.confirm.warn [.userActionRequired]
  else if permission.effectiveMode = .allowOnce ∨ permission.effectiveMode = .scoped then return f
  else return (f.block permission.recordId.toList).warn [.permissionDenied permission.reason]

/-- The scope of a capability. -/
def addScope (service : ContinuityPreflightService) (definition : CapabilityDefinition)
    (permissionScope : Option Settings.Scope) (f : Findings) : Reader Findings :=
  if definition.permissionScopeKind = "none".toList then do
    ensure (∀ scope ∈ permissionScope,
        Json.eq (.obj scope.entries) (.obj [("kind", .str "none".toList)]) = true)
      (invalid "permission scope is incompatible with the capability")
    return f
  else do
    let scope ← orFail (invalid "capability requires an explicit permission scope") permissionScope
    addPermission service definition scope f

/-- The capability of the action. -/
def addCapability (service : ContinuityPreflightService) (capabilityId version : Text)
    (permissionScope : Option Settings.Scope) (f : Findings) : Reader Findings := do
  let definition ← orFail (invalid "preflight capability is not registered at the requested version")
    (service.capabilityRegistry.get capabilityId version)
  let f := if definition.riskTier = .highRisk then f.confirm.warn [.highRiskConfirmationRequired] else f
  let f ← addScope service definition permissionScope f
  if definition.releaseAvailable = true then return f else return f.warn [.releaseExcluded]

/-- The part of `check` about the capability. -/
def checkCapability (service : ContinuityPreflightService) (request : PreflightRequest) (f : Findings) :
    Reader Findings :=
  match request.capabilityId, request.capabilityVersion with
  | some capabilityId, some version =>
    addCapability service capabilityId version request.permissionScope f
  | none, none => do
    ensure (request.permissionScope.isNone = true) (invalid "permission scope requires a capability")
    return f
  | _, _ => ReadProgram.done (.error (invalid "capability ID and version must be supplied together"))

omit [CaseLibrary] [FloatLibrary] in
/-- The experience is about the project as a whole, or about the work item of the action. -/
def inScope (workItemId : Option RecordId) (item : Experience.ExperienceInfo) : Bool :=
  item.content.workItemId = none || item.content.workItemId = workItemId

omit [CaseLibrary] [FloatLibrary] in
/-- `_add_failed_experience_warnings`. What it counts are the active experiences of all projects. -/
def addFailedExperienceWarnings (projectId : RecordId) (workItemId : Option RecordId) (f : Findings) :
    Reader Findings := do
  let active ← activeIds "project_experience"
  ensure (active.length ≤ maxProjectExperiences)
    (invalid "project experience scope exceeds the bounded preflight limit")
  let experiences ← ReadProgram.catching (DollError.isA experienceErrors)
    (invalid "project experience could not be inspected")
    (Experience.list (some (uuidText projectId)) false maxProjectExperiences)
  let supersededIds := experiences.filterMap fun item => item.content.supersedesId
  let relevant := experiences.filter fun item =>
    item.experienceId ∉ supersededIds ∧ item.content.outcome = some .failed ∧ inScope workItemId item = true
  return (f.addMatched (relevant.map fun item => item.experienceId)).warn
    (relevant.map fun item => .priorFailure item.content.assertionState)

/-- What `check` finds before it looks at the experiences of the project. -/
def checkRecords (service : ContinuityPreflightService) (request : PreflightRequest) :
    Reader (Text × RecordId × Option RecordId × Findings) := do
  ensure (service.context.readOnly = true) (invalid "ContinuityPreflight requires a read-only repository")
  let action ← actionClass request.proposedActionClass
  let policyIds ← explicitIds "applicable policy denial IDs" request.applicablePolicyDenialIds
  let procedureIds ← explicitIds "required procedure IDs" request.requiredProcedureIds
  let project ← checkedProject request.projectId
  let (workItemId, f) ← match request.workItemId with
    | none => pure (none, Findings.empty)
    | some workItemId => do
      let (id, f) ← addWorkItem project.projectId workItemId .empty
      pure (some id, f)
  let f ← policyIds.foldlM addPolicy f
  let f ← procedureIds.foldlM (addProcedure project.projectId) f
  return (action, project.projectId, workItemId, f)

/-- `check`. -/
def check (service : ContinuityPreflightService) (request : PreflightRequest) :
    Reader ContinuityPreflightResult := do
  let (action, projectId, workItemId, f) ← checkRecords service request
  let f ← checkCapability service request f
  let f ← addFailedExperienceWarnings projectId workItemId f
  return f.result projectId action

end

end DollState.Continuity
