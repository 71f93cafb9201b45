import DollState.Domain.WorkItemService

/-!
# Project experience

The model of the record reader of `project_experience`. A record of project experience is schema
version 1. What was asserted decides its provenance, and a record that is not secret links to no
record that is.
-/

namespace DollState.Experience

open StateLib

/-! ## Values -/

def maxSummaryLength : Nat := 6000
def maxLinks : Nat := 100

/-- `ProjectExperienceValidationError(message)`. -/
def invalid (message : String) : DollError := ⟨.experienceValidation, message⟩

inductive EventKind where
  | observation | hypothesis | attempt | outcome | resolution | lesson
deriving DecidableEq, Repr

def EventKind.all : List EventKind :=
  [.observation, .hypothesis, .attempt, .outcome, .resolution, .lesson]

def EventKind.text : EventKind → Text
  | .observation => "observation".toList
  | .hypothesis => "hypothesis".toList
  | .attempt => "attempt".toList
  | .outcome => "outcome".toList
  | .resolution => "resolution".toList
  | .lesson => "lesson".toList

inductive Outcome where
  | worked | failed | partially | unknown
deriving DecidableEq, Repr

def Outcome.all : List Outcome := [.worked, .failed, .partially, .unknown]

def Outcome.text : Outcome → Text
  | .worked => "worked".toList
  | .failed => "failed".toList
  | .partially => "partial".toList
  | .unknown => "unknown".toList

inductive AssertionState where
  | userRecorded | userConfirmed | deterministicSystem | importedExternal | modelProposed
deriving DecidableEq, Repr

def AssertionState.all : List AssertionState :=
  [.userRecorded, .userConfirmed, .deterministicSystem, .importedExternal, .modelProposed]

def AssertionState.text : AssertionState → Text
  | .userRecorded => "user_recorded".toList
  | .userConfirmed => "user_confirmed".toList
  | .deterministicSystem => "deterministic_system".toList
  | .importedExternal => "imported_external".toList
  | .modelProposed => "model_proposed".toList

/-- `_ASSERTION_PROVENANCE`. -/
def AssertionState.provenance : AssertionState → RecordProvenance
  | .userRecorded => .userCreated
  | .userConfirmed => .userConfirmed
  | .deterministicSystem => .systemGenerated
  | .importedExternal => .imported
  | .modelProposed => .modelProposed

/-- What the metadata of a record of project experience holds. -/
structure ExperienceContent where
  projectId : RecordId
  workItemId : Option RecordId
  eventKind : EventKind
  summary : Text
  outcome : Option Outcome
  occurredAt : Text
  assertionState : AssertionState
  relatedRecordIds : List RecordId
  evidenceIds : List RecordId
  sourceIds : List RecordId
  supersedesId : Option RecordId

/-- `ProjectExperienceInfo`: the content of the record with its envelope. -/
structure ExperienceInfo where
  experienceId : RecordId
  content : ExperienceContent
  revision : Int
  lifecycleStatus : RecordStatus
  provenance : RecordProvenance
  sensitivity : RecordSensitivity
  createdAt : Text
  updatedAt : Text

def ExperienceInfo.ofRecord (record : RecordEnvelope) (content : ExperienceContent) :
    ExperienceInfo where
  experienceId := record.id
  content := content
  revision := record.revision
  lifecycleStatus := record.status
  provenance := record.provenance
  sensitivity := record.sensitivity
  createdAt := record.createdAt
  updatedAt := record.updatedAt

/-! ## Field validators -/

section

variable [PythonLibrary]

/-- `_required_string`: a missing key is a `KeyError`. -/
def required (metadata : Metadata) (key : String) : Result Text :=
  match metadata.lookup key with
  | none => .error (.noRecord key.toList)
  | some (.str s) => .ok s
  | some _ => .error (invalid s!"{key} must be text")

/-- `_optional_string`. -/
def optionalString (metadata : Metadata) (key : String) : Result (Option Text) :=
  match metadata.get key with
  | .null => .ok none
  | .str s => .ok (some s)
  | _ => .error (invalid s!"{key} must be text or null")

def uuidOf (name : String) (value : Text) : Result RecordId :=
  uuidField .experienceValidation name value

/-- `_uuid`, on a JSON value. -/
def uuidValue (name : String) : Json → Result RecordId
  | .str s => uuidOf name s
  | _ => .error (invalid s!"{name} must be text")

/-- `_metadata_ids`, with `_ids`. -/
def metadataIds (metadata : Metadata) (key : String) : Result (List RecordId) :=
  match metadata.get key with
  | .arr values => do
    ensure (values.length ≤ maxLinks) (invalid s!"{key} exceeds {maxLinks} entries")
    distinctFrom (uuidValue key) (invalid s!"{key} contains duplicates") [] values
  | _ => .error (invalid s!"{key} must be an ID list")

def parseEventKind (value : Text) : Result EventKind :=
  orFail (invalid "project experience event kind is invalid")
    (ofText? EventKind.all EventKind.text value)

def parseOutcome (value : Text) : Result Outcome :=
  orFail (invalid "project experience outcome is invalid") (ofText? Outcome.all Outcome.text value)

def parseAssertionState (value : Text) : Result AssertionState :=
  orFail (invalid "project experience assertion state is invalid")
    (ofText? AssertionState.all AssertionState.text value)

/-- `_utc`. -/
def utc (name : String) (value : Text) : Result Text :=
  utcField .experienceValidation " must be UTC and end in Z" " is invalid" name value

/-- `_text`. -/
def text (name : String) (value : Text) (maximum : Nat) : Result Text := do
  let normalized := joinLines value
  ensure (normalized ≠ [] ∧ normalized.length ≤ maximum) (invalid s!"{name} is empty or too long")
  ensure (hasControlCharacter normalized = false) (invalid s!"{name} contains control characters")
  ensure (hasLocalPath normalized = false)
    (invalid s!"{name} must not contain private absolute paths")
  return normalized

/-! ## Reading a record -/

/-- `_project_experience_from_record` up to its link checks. -/
def readExperience (record : RecordEnvelope) : Result ExperienceContent := do
  let metadata := record.metadata
  ensure (record.recordType = "project_experience" ∧ record.schemaVersion = 1)
    (invalid "project-experience envelope is unsupported")
  ensure ((record.status = .active ∨ record.status = .archived) ∧ 1 ≤ record.revision)
    (invalid "project-experience lifecycle is unsupported")
  let projectId ← uuidOf "project experience project ID" (← required metadata "project_id")
  let workItemId ← optionally (uuidOf "project experience work-item ID")
    (← optionalString metadata "work_item_id")
  let eventKind ← parseEventKind (← required metadata "event_kind")
  let summary ← text "project experience summary" (← required metadata "summary") maxSummaryLength
  let outcome ← optionally parseOutcome (← optionalString metadata "outcome")
  let occurredAt ← utc "project experience occurred-at" (← required metadata "occurred_at")
  let assertionState ← parseAssertionState (← required metadata "assertion_state")
  ensure (record.provenance = assertionState.provenance)
    (invalid "project-experience provenance is inconsistent")
  let relatedRecordIds ← metadataIds metadata "related_record_ids"
  let evidenceIds ← metadataIds metadata "evidence_ids"
  let sourceIds ← metadataIds metadata "source_ids"
  let supersedesId ← optionally (uuidOf "supersedes experience ID")
    (← optionalString metadata "supersedes_id")
  ensure (¬ (eventKind = .outcome ∧ outcome = none))
    (invalid "outcome event is missing outcome value")
  return { projectId, workItemId, eventKind, summary, outcome, occurredAt, assertionState,
           relatedRecordIds, evidenceIds, sourceIds, supersedesId }

/-- What the reader catches. -/
def malformed : List ErrorKind := [.key, .value, .projectDecisionCorrupt, .workItemCorrupt,
  .truthCorrupt, .experienceValidation]

/-- `_project_experience_from_record` without a repository. -/
def experienceFromRecord (record : RecordEnvelope) : Result ExperienceInfo :=
  catching (DollError.isA malformed)
      ⟨.experienceCorrupt, "project-experience record is malformed"⟩ do
    let content ← readExperience record
    return ExperienceInfo.ofRecord record content

/-! ## Links -/

/-- `_reject_secret_link`. -/
def rejectSecretLink (record : RecordEnvelope) (sensitivity : RecordSensitivity) (label : String) :
    Result Unit :=
  ensure (¬ (record.sensitivity = .secret ∧ sensitivity ≠ .secret))
    (invalid s!"non-secret experience cannot reference secret {label}")

/-- The record a link leads to. -/
def linkedRecord (missing : String) (recordId : RecordId) : Reader RecordEnvelope :=
  ReadProgram.catching (DollError.isA [.key]) (invalid missing) (getRecord recordId)

def validateProject (sensitivity : RecordSensitivity) (projectId : RecordId) : Reader Unit := do
  let record ← linkedRecord "linked project does not exist" projectId
  ensure (record.recordType = "project") (invalid "project link points to another record type")
  rejectSecretLink record sensitivity "project"
  let _ ← Project.projectFromRecord record

/-- `_validate_generic_links`, for one record. -/
def validateGenericLink (label : String) (sensitivity : RecordSensitivity) (recordId : RecordId) :
    Reader Unit := do
  let record ← linkedRecord (label ++ " does not exist") recordId
  rejectSecretLink record sensitivity label

def validateSupersedes (projectId : RecordId) (sensitivity : RecordSensitivity)
    (supersedesId : RecordId) : Reader Unit := do
  let record ← linkedRecord "superseded experience does not exist" supersedesId
  rejectSecretLink record sensitivity "superseded experience"
  ensure (record.recordType = "project_experience")
    (invalid "superseded experience points to another record type")
  let prior ← experienceFromRecord record
  ensure (prior.content.projectId = projectId)
    (invalid "superseded experience belongs to another project")

variable [ModuleRules]

def validateWorkItem (projectId : RecordId) (sensitivity : RecordSensitivity)
    (workItemId : RecordId) : Reader Unit := do
  let record ← linkedRecord "linked work item does not exist" workItemId
  ensure (record.recordType = "work_item")
    (invalid "work-item link points to another record type")
  rejectSecretLink record sensitivity "work item"
  let item ← WorkItem.workItemFromRecordLive record
  ensure (item.content.projectId = projectId) (invalid "work item belongs to another project")

/-- `_validate_evidence`, for one record. -/
def validateEvidence (sensitivity : RecordSensitivity) (evidenceId : RecordId) : Reader Unit := do
  let record ← linkedRecord "linked evidence does not exist" evidenceId
  ensure (record.recordType = "evidence") (invalid "evidence link points to another record type")
  rejectSecretLink record sensitivity "evidence"
  ensure (ModuleRules.isEvidence record = true)
    (DollError.mk .truthCorrupt "evidence record is malformed")

/-- The link checks of a record of project experience. -/
def validateLinks (record : RecordEnvelope) (c : ExperienceContent) : Reader Unit := do
  let sensitivity := record.sensitivity
  validateProject sensitivity c.projectId
  ReadProgram.forEach (validateWorkItem c.projectId sensitivity) c.workItemId.toList
  ReadProgram.forEach (validateEvidence sensitivity) c.evidenceIds
  ReadProgram.forEach (validateGenericLink "related record" sensitivity) c.relatedRecordIds
  ReadProgram.forEach (validateGenericLink "source" sensitivity) c.sourceIds
  ensure (c.supersedesId ≠ some record.id) (invalid "project experience cannot supersede itself")
  ReadProgram.forEach (validateSupersedes c.projectId sensitivity) c.supersedesId.toList

/-- `_project_experience_from_record` with a repository. -/
def experienceFromRecordLive (record : RecordEnvelope) : Reader ExperienceInfo :=
  ReadProgram.catching (DollError.isA malformed)
      ⟨.experienceCorrupt, "project-experience record is malformed"⟩ do
    let content ← readExperience record
    validateLinks record content
    return ExperienceInfo.ofRecord record content

/-- `ProjectExperienceService.get`. -/
def get (experienceId : Text) : Reader ExperienceInfo := do
  let safeId ← uuidOf "experience ID" experienceId
  let record ← linkedRecord "project experience does not exist" safeId
  experienceFromRecordLive record

end

end DollState.Experience
