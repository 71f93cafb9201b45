import DollState.Domain.Fields

/-!
# Projects and decisions

The model of `project_state`. A project record is schema version 1 or, with a charter, version 2; a
decision record is version 1. `readProject` and `readDecision` are the parts of the record readers
that look at the record alone; the live readers check the record's links as well, against the
database as it is at each check.
-/

namespace DollState.Project

open StateLib

/-! ## Values -/

def maxNameLength : Nat := 240
def maxDecisionLength : Nat := 1000
def maxDescriptionLength : Nat := 6000
def maxReasonLength : Nat := 6000
def maxListItemLength : Nat := 1000
def maxListItems : Nat := 100
def maxLinks : Nat := 100

/-- `ProjectDecisionValidationError(message)`. -/
def invalid (message : String) : DollError := ⟨.projectDecisionValidation, message⟩

inductive ProjectStatus where
  | planned | active | onHold | completed | cancelled
deriving DecidableEq, Repr

def ProjectStatus.all : List ProjectStatus := [.planned, .active, .onHold, .completed, .cancelled]

def ProjectStatus.text : ProjectStatus → Text
  | .planned => "planned".toList
  | .active => "active".toList
  | .onHold => "on_hold".toList
  | .completed => "completed".toList
  | .cancelled => "cancelled".toList

theorem ProjectStatus.ofText?_text (status : ProjectStatus) :
    ofText? ProjectStatus.all ProjectStatus.text status.text = some status := by
  cases status <;> decide

inductive DecisionStatus where
  | accepted | superseded | reversed
deriving DecidableEq, Repr

def DecisionStatus.all : List DecisionStatus := [.accepted, .superseded, .reversed]

def DecisionStatus.text : DecisionStatus → Text
  | .accepted => "accepted".toList
  | .superseded => "superseded".toList
  | .reversed => "reversed".toList

inductive AuthorityActor where
  | user | model | runtime | capability | system
deriving DecidableEq, Repr

/-- The fields that only a version 2 project has. -/
structure ProjectCharter where
  objective : Text
  inScope : List Text
  outOfScope : List Text
  successCriteria : List Text
  governingPolicyIds : List RecordId

/-- What the metadata of a project record holds; `charter` is `none` for version 1. -/
structure ProjectContent where
  name : Text
  description : Text
  projectStatus : ProjectStatus
  startedAt : Text
  endedAt : Option Text
  decisionIds : List RecordId
  memoryIds : List RecordId
  artifactIds : List RecordId
  charter : Option ProjectCharter

/-- What the metadata of a decision record holds. -/
structure DecisionContent where
  decision : Text
  reason : Text
  decisionStatus : DecisionStatus
  decidedAt : Text
  alternatives : List Text
  constraints : List Text
  reviewAfter : Option Text
  supersedesId : Option RecordId
  projectId : Option RecordId
  memoryIds : List RecordId
  artifactIds : List RecordId

/-- `ProjectInfo`: the content of a project record with its envelope. -/
structure ProjectInfo where
  projectId : RecordId
  schemaVersion : Int
  content : ProjectContent
  revision : Int
  lifecycleStatus : RecordStatus
  provenance : RecordProvenance
  sensitivity : RecordSensitivity
  createdAt : Text
  updatedAt : Text

/-- `DecisionInfo`: the content of a decision record with its envelope. -/
structure DecisionInfo where
  decisionId : RecordId
  content : DecisionContent
  revision : Int
  lifecycleStatus : RecordStatus
  provenance : RecordProvenance
  sensitivity : RecordSensitivity
  createdAt : Text
  updatedAt : Text

def ProjectInfo.ofRecord (record : RecordEnvelope) (content : ProjectContent) : ProjectInfo where
  projectId := record.id
  schemaVersion := record.schemaVersion
  content := content
  revision := record.revision
  lifecycleStatus := record.status
  provenance := record.provenance
  sensitivity := record.sensitivity
  createdAt := record.createdAt
  updatedAt := record.updatedAt

def DecisionInfo.ofRecord (record : RecordEnvelope) (content : DecisionContent) : DecisionInfo where
  decisionId := record.id
  content := content
  revision := record.revision
  lifecycleStatus := record.status
  provenance := record.provenance
  sensitivity := record.sensitivity
  createdAt := record.createdAt
  updatedAt := record.updatedAt

def ProjectCharter.metadata (charter : ProjectCharter) : Metadata :=
  [("objective", .str charter.objective), ("in_scope", .arr (charter.inScope.map .str)),
    ("out_of_scope", .arr (charter.outOfScope.map .str)),
    ("success_criteria", .arr (charter.successCriteria.map .str)),
    ("governing_policy_ids", Json.ofIds charter.governingPolicyIds)]

/-- The metadata a project is written as. -/
def ProjectContent.metadata (content : ProjectContent) : Metadata :=
  [("name", .str content.name), ("description", .str content.description),
    ("status", .str content.projectStatus.text), ("started_at", .str content.startedAt),
    ("ended_at", Json.ofText? content.endedAt), ("decision_ids", Json.ofIds content.decisionIds),
    ("memory_ids", Json.ofIds content.memoryIds),
    ("artifact_ids", Json.ofIds content.artifactIds)] ++
  match content.charter with
  | none => []
  | some charter => charter.metadata

/-! ## Field validators -/

section

variable [PythonLibrary]

/-- `_validate_text`. -/
def validateText (name : String) (value : Text) (maximum : Nat) : Result Text := do
  let normalized := joinLines value
  ensure (normalized ≠ [] ∧ normalized.length ≤ maximum) (invalid s!"{name} is empty or too long")
  ensure (hasControlCharacter normalized = false) (invalid s!"{name} contains control characters")
  ensure (contains "file://".toList normalized = false ∧ hasLocalPath normalized = false)
    (invalid "authoritative record must not contain an absolute local path")
  return normalized

/-- `_validate_text_items`; its values come from a caller or from stored metadata. -/
def validateTextItems (name : String) (values : List Json) : Result (List Text) := do
  ensure (values.length ≤ maxListItems) (invalid s!"{name} exceeds {maxListItems} entries")
  let normalized ← values.mapM fun value => match value with
    | .str text => validateText name text maxListItemLength
    | _ => .error (invalid s!"{name} must be text")
  ensure normalized.Nodup (invalid s!"{name} contains duplicates")
  return normalized

def validateProjectStatus (value : Text) : Result ProjectStatus :=
  orFail ⟨.projectDecisionValidation, "invalid project status: " ++ String.ofList value⟩
    (ofText? ProjectStatus.all ProjectStatus.text value)

def validateDecisionStatus (value : Text) : Result DecisionStatus :=
  orFail ⟨.projectDecisionValidation, "invalid decision status: " ++ String.ofList value⟩
    (ofText? DecisionStatus.all DecisionStatus.text value)

def validateUtc (name : String) (value : Text) : Result Text :=
  utcField .projectDecisionValidation " must be UTC and end in Z" " is not a valid timestamp" name
    value

def validateOptionalUtc (name : String) (value : Option Text) : Result (Option Text) :=
  optionally (validateUtc name) value

/-- `_require_later_or_equal`, on timestamps that have been validated. -/
def requireLaterOrEqual (name : String) (later earlier : Text) : Result Unit :=
  ensure (instant earlier ≤ instant later) (invalid s!"{name} precedes its reference time")

/-- `_validate_reference_id`. -/
def validateReferenceId (name : String) : Json → Result RecordId
  | .str text => orFail (invalid s!"{name} contains an invalid record ID") (uuid text)
  | _ => .error (invalid s!"{name} must contain text IDs")

def validateOptionalReferenceId (name : String) (value : Option Text) :
    Result (Option RecordId) :=
  optionally (fun text => validateReferenceId name (.str text)) value

/-- `_validate_reference_ids`. -/
def validateReferenceIds (name : String) (values : List Json) : Result (List RecordId) := do
  ensure (values.length ≤ maxLinks) (invalid s!"{name} exceeds {maxLinks} entries")
  distinctFrom (validateReferenceId name) (invalid s!"{name} contains duplicate IDs") [] values

def optionalString (metadata : Metadata) (key : String) : Result (Option Text) :=
  match metadata.get key with
  | .null => .ok none
  | .str s => if s = [] then .error (invalid s!"{key} is invalid") else .ok (some s)
  | _ => .error (invalid s!"{key} is invalid")

def metadataReferenceIds (metadata : Metadata) (key : String) : Result (List RecordId) := do
  validateReferenceIds key (← metadataList .projectDecisionValidation metadata key)

def metadataTextItems (metadata : Metadata) (key : String) : Result (List Text) := do
  validateTextItems key (← metadataList .projectDecisionValidation metadata key)

def metadataOptionalReferenceId (metadata : Metadata) (key : String) :
    Result (Option RecordId) := do
  validateOptionalReferenceId key (← optionalString metadata key)

/-! ## Reading a record -/

/-- `_required_string` of this module. -/
def required (metadata : Metadata) (key : String) : Result Text :=
  requiredString .projectDecisionValidation metadata key

/-- `_validate_envelope`. -/
def validateEnvelope (record : RecordEnvelope) (recordType : String)
    (provenance : RecordProvenance) : Result Unit := do
  ensure (record.recordType = recordType) (invalid "record type is inconsistent")
  ensure (record.schemaVersion = 1 ∨ (recordType = "project" ∧ record.schemaVersion = 2))
    (invalid "record schema version is unsupported")
  ensure (1 ≤ record.revision) (invalid "record revision must be positive")
  ensure (record.status = .active ∨ record.status = .archived)
    (invalid "record lifecycle status is unsupported")
  ensure (record.provenance = provenance) (invalid "record provenance is inconsistent")
  let createdAt ← validateUtc "record created-at" record.createdAt
  let updatedAt ← validateUtc "record updated-at" record.updatedAt
  requireLaterOrEqual "record updated-at" updatedAt createdAt

/-- The part of `_project_from_record` that reads the fields of version 2. -/
def readCharter (metadata : Metadata) : Result ProjectCharter := do
  let objective ← validateText "project objective" (← required metadata "objective")
    maxDescriptionLength
  let inScope ← metadataTextItems metadata "in_scope"
  let outOfScope ← metadataTextItems metadata "out_of_scope"
  let successCriteria ← metadataTextItems metadata "success_criteria"
  let governingPolicyIds ← metadataReferenceIds metadata "governing_policy_ids"
  return { objective, inScope, outOfScope, successCriteria, governingPolicyIds }

/-- `_project_from_record` up to its link checks. -/
def readProject (record : RecordEnvelope) : Result ProjectContent := do
  validateEnvelope record "project" .userCreated
  let metadata := record.metadata
  let name ← validateText "project name" (← required metadata "name") maxNameLength
  let description ← validateText "project description" (← required metadata "description")
    maxDescriptionLength
  ensure (record.title = some name) (invalid "project title and name are inconsistent")
  let projectStatus ← validateProjectStatus (← required metadata "status")
  let startedAt ← validateUtc "project started-at" (← required metadata "started_at")
  let endedAt ← validateOptionalUtc "project ended-at" (← optionalString metadata "ended_at")
  forEach (fun ended => requireLaterOrEqual "project ended-at" ended startedAt) endedAt.toList
  let decisionIds ← metadataReferenceIds metadata "decision_ids"
  let memoryIds ← metadataReferenceIds metadata "memory_ids"
  let artifactIds ← metadataReferenceIds metadata "artifact_ids"
  let charter ← if record.schemaVersion = 1 then pure none else some <$> readCharter metadata
  return { name, description, projectStatus, startedAt, endedAt, decisionIds, memoryIds,
           artifactIds, charter }

/-- `_decision_from_record` up to its link checks. -/
def readDecision (record : RecordEnvelope) : Result DecisionContent := do
  validateEnvelope record "decision" .userConfirmed
  let metadata := record.metadata
  let decision ← validateText "decision" (← required metadata "decision") maxDecisionLength
  let reason ← validateText "decision reason" (← required metadata "reason") maxReasonLength
  ensure (record.title = some decision) (invalid "decision title and content are inconsistent")
  let decisionStatus ← validateDecisionStatus (← required metadata "status")
  let decidedAt ← validateUtc "decision decided-at" (← required metadata "decided_at")
  let alternatives ← metadataTextItems metadata "alternatives"
  let constraints ← metadataTextItems metadata "constraints"
  let reviewAfter ← validateOptionalUtc "decision review-after"
    (← optionalString metadata "review_after")
  forEach (fun review => requireLaterOrEqual "decision review-after" review decidedAt)
    reviewAfter.toList
  let supersedesId ← metadataOptionalReferenceId metadata "supersedes_id"
  let projectId ← metadataOptionalReferenceId metadata "project_id"
  let memoryIds ← metadataReferenceIds metadata "memory_ids"
  let artifactIds ← metadataReferenceIds metadata "artifact_ids"
  ensure (supersedesId ≠ some record.id) (invalid "decision cannot supersede itself")
  return { decision, reason, decisionStatus, decidedAt, alternatives, constraints, reviewAfter,
           supersedesId, projectId, memoryIds, artifactIds }

/-- What the readers catch. -/
def malformed : List ErrorKind := [.key, .value, .projectDecisionValidation]

/-- `_project_from_record` without a repository. -/
def projectFromRecord (record : RecordEnvelope) : Result ProjectInfo :=
  catching (DollError.isA malformed) ⟨.projectDecisionCorrupt, "project record is malformed"⟩ do
    let content ← readProject record
    return ProjectInfo.ofRecord record content

/-- `_decision_from_record` without a repository. -/
def decisionFromRecord (record : RecordEnvelope) : Result DecisionInfo :=
  catching (DollError.isA malformed) ⟨.projectDecisionCorrupt, "decision record is malformed"⟩ do
    let content ← readDecision record
    return DecisionInfo.ofRecord record content

/-! ## Links -/

/-- `_validate_artifact_link_envelope`. -/
def validateArtifactLinkEnvelope (record : RecordEnvelope) : Result Unit := do
  ensure (record.recordType = "artifact")
    (invalid "artifact link target has the wrong record type")
  ensure (record.schemaVersion = 1) (invalid "artifact link target has an unsupported schema")
  ensure (1 ≤ record.revision) (invalid "artifact link target has an invalid revision")
  ensure (record.status = .active)
    (invalid "artifact link target is not an active managed artifact")
  let createdAt ← validateUtc "artifact created-at" record.createdAt
  let updatedAt ← validateUtc "artifact updated-at" record.updatedAt
  requireLaterOrEqual "artifact updated-at" updatedAt createdAt

variable [ModuleRules]

def isProject (record : RecordEnvelope) : Bool :=
  record.recordType = "project" && (projectFromRecord record).isOk

def isDecision (record : RecordEnvelope) : Bool :=
  record.recordType = "decision" && (decisionFromRecord record).isOk

/-- `ConfirmedMemoryService.get` succeeds. -/
def isMemory (record : RecordEnvelope) : Bool :=
  record.recordType = "memory" && ModuleRules.isMemory record

/-- The artifact link check and `WorkspaceFileService.get` succeed. -/
def isManagedArtifact (record : RecordEnvelope) : Bool :=
  (validateArtifactLinkEnvelope record).isOk && ModuleRules.isArtifact record

def isActivePolicy (record : RecordEnvelope) : Bool :=
  record.recordType = "policy" && ModuleRules.isPolicy record && record.status = .active

/-- The arguments of `_validate_typed_links`. -/
structure TypedLinks where
  projectId : Option RecordId
  supersedesId : Option RecordId
  decisionIds : List RecordId
  memoryIds : List RecordId
  artifactIds : List RecordId
  policyIds : List RecordId

/-- `_validate_typed_links`. -/
def validateTypedLinks (links : TypedLinks) : Reader Unit := do
  ReadProgram.forEach (linkTo (invalid "project link does not reference a valid project") isProject)
    links.projectId.toList
  ReadProgram.forEach
    (linkTo (invalid "supersedes link does not reference a valid decision") isDecision)
    links.supersedesId.toList
  ReadProgram.forEach (linkTo (invalid "project decision link is invalid") isDecision)
    links.decisionIds
  ReadProgram.forEach
    (linkTo (invalid "memory link does not reference valid confirmed memory") isMemory)
    links.memoryIds
  ReadProgram.forEach
    (linkTo (invalid "artifact link does not reference a valid managed artifact") isManagedArtifact)
    links.artifactIds
  ReadProgram.forEach
    (linkTo (invalid "governing policy link does not reference a valid active policy")
      isActivePolicy) links.policyIds

def ProjectContent.links (content : ProjectContent) : TypedLinks where
  projectId := none
  supersedesId := none
  decisionIds := content.decisionIds
  memoryIds := content.memoryIds
  artifactIds := content.artifactIds
  policyIds := match content.charter with
    | none => []
    | some charter => charter.governingPolicyIds

def DecisionContent.links (content : DecisionContent) : TypedLinks where
  projectId := content.projectId
  supersedesId := content.supersedesId
  decisionIds := []
  memoryIds := content.memoryIds
  artifactIds := content.artifactIds
  policyIds := []

/-- `_project_from_record` with a repository. -/
def projectFromRecordLive (record : RecordEnvelope) : Reader ProjectInfo :=
  ReadProgram.catching (DollError.isA malformed)
      ⟨.projectDecisionCorrupt, "project record is malformed"⟩ do
    let content ← readProject record
    validateTypedLinks content.links
    return ProjectInfo.ofRecord record content

/-- `_decision_from_record` with a repository. -/
def decisionFromRecordLive (record : RecordEnvelope) : Reader DecisionInfo :=
  ReadProgram.catching (DollError.isA malformed)
      ⟨.projectDecisionCorrupt, "decision record is malformed"⟩ do
    let content ← readDecision record
    validateTypedLinks content.links
    return DecisionInfo.ofRecord record content

end

end DollState.Project
