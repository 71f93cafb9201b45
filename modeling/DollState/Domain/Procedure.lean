import DollState.Domain.WorkItem

/-!
# Procedures

The model of `procedure` as far as its service reads. `readProcedure` is the part of the record reader
that looks at the record alone; `validateLinks` checks a procedure's links against the database.
-/

namespace DollState.Procedure

open StateLib

/-! ## Values -/

def maxTitleLength : Nat := 240
def maxPurposeLength : Nat := 6000
def maxItemLength : Nat := 2000
def maxItems : Nat := 200
def maxLinks : Nat := 100

/-- `ProcedureValidationError(message)`. -/
def invalid (message : String) : DollError := ⟨.procedureValidation, message⟩

inductive ProcedureStatus where
  | draft | approved | deprecated | superseded
deriving DecidableEq, Repr

def ProcedureStatus.all : List ProcedureStatus := [.draft, .approved, .deprecated, .superseded]

def ProcedureStatus.text : ProcedureStatus → Text
  | .draft => "draft".toList
  | .approved => "approved".toList
  | .deprecated => "deprecated".toList
  | .superseded => "superseded".toList

/-- What the metadata of a procedure record holds. -/
structure ProcedureContent where
  projectId : RecordId
  title : Text
  purpose : Text
  procedureStatus : ProcedureStatus
  version : Int
  prerequisites : List Text
  orderedSteps : List Text
  requiredCapabilityIds : List Text
  expectedOutputs : List Text
  validationSteps : List Text
  rollbackSteps : List Text
  platformConstraints : List Text
  sourceIds : List RecordId
  lastVerifiedAt : Option Text
  verificationEvidenceIds : List RecordId
  supersedesId : Option RecordId
  supersededById : Option RecordId
  approvedAt : Option Text

/-- `ProcedureInfo`: the content of a procedure record with its envelope. -/
structure ProcedureInfo where
  procedureId : RecordId
  content : ProcedureContent
  revision : Int
  lifecycleStatus : RecordStatus
  provenance : RecordProvenance
  sensitivity : RecordSensitivity
  createdAt : Text
  updatedAt : Text

def ProcedureInfo.ofRecord (record : RecordEnvelope) (content : ProcedureContent) :
    ProcedureInfo where
  procedureId := record.id
  content := content
  revision := record.revision
  lifecycleStatus := record.status
  provenance := record.provenance
  sensitivity := record.sensitivity
  createdAt := record.createdAt
  updatedAt := record.updatedAt

/-! ## Field validators -/

section

variable [PythonLibrary]

def parseStatus (value : Text) : Result ProcedureStatus :=
  orFail (invalid "procedure status is invalid")
    (ofText? ProcedureStatus.all ProcedureStatus.text value)

/-- `_version`. -/
def versionField : Json → Result Int
  | .int value => do
    ensure (1 ≤ value) (invalid "procedure version must be a positive integer")
    return value
  | _ => .error (invalid "procedure version must be a positive integer")

def words (name : String) (value : Text) (maximum : Nat) : Result Text :=
  wordsField .procedureValidation name value maximum

/-- The texts of a list in the metadata that holds nothing else. -/
def metadataTexts (metadata : Metadata) (key kind : String) : Result (List Text) :=
  match metadata.get key with
  | .arr values => orFail (invalid s!"{key} must be a {kind} list") (texts? values)
  | _ => .error (invalid s!"{key} must be a {kind} list")

/-- `_metadata_text_items`. -/
def metadataTextItems (metadata : Metadata) (key : String) : Result (List Text) := do
  let values ← metadataTexts metadata key "text"
  ensure (values.length ≤ maxItems) (invalid s!"{key} are invalid")
  values.mapM fun value => words key value maxItemLength

def token (name : String) (value : Text) : Result Text := do
  ensure (isToken value = true) (invalid s!"{name} contain an invalid token")
  return value

/-- `_metadata_tokens`. -/
def metadataTokens (metadata : Metadata) (key : String) : Result (List Text) := do
  let values ← metadataTexts metadata key "token"
  ensure (values.length ≤ maxItems) (invalid s!"{key} are invalid")
  distinctFrom (token key) (invalid s!"{key} contain duplicates") [] values

def metadataIds (metadata : Metadata) (key : String) : Result (List RecordId) :=
  DollState.metadataIds .procedureValidation maxLinks metadata key

/-- `_required_string` of this module. -/
def required (metadata : Metadata) (key : String) : Result Text :=
  requiredString .procedureValidation metadata key

/-- `_optional_uuid`. -/
def optionalUuid (name : String) : Json → Result (Option RecordId)
  | .null => .ok none
  | .str value => do return some (← uuidField .procedureValidation name value)
  | _ => .error (invalid s!"{name} is invalid")

/-- `_optional_utc`. -/
def optionalUtc (name : String) : Json → Result (Option Text)
  | .null => .ok none
  | .str value => do
    return some (← utcField .procedureValidation " must use UTC Z notation" " is invalid" name value)
  | _ => .error (invalid s!"{name} must use UTC Z notation")

/-! ## Reading a record -/

/-- `_validate_persisted_semantics`. -/
def validatePersistedSemantics (selfId : RecordId) (c : ProcedureContent) : Result Unit := do
  ensure (selfId ∉ c.sourceIds ∧ c.supersedesId ≠ some selfId ∧ c.supersededById ≠ some selfId)
    (invalid "procedure relation contains self")
  ensure (c.procedureStatus = .draft → c.approvedAt = none ∧ c.supersededById = none)
    (invalid "draft procedure contains accepted metadata")
  ensure (c.procedureStatus ≠ .draft → c.approvedAt ≠ none)
    (invalid "accepted procedure requires approved-at")
  ensure (c.procedureStatus ≠ .draft →
      c.orderedSteps ≠ [] ∧ c.validationSteps ≠ [] ∧ c.rollbackSteps ≠ [])
    (invalid "accepted procedure is incomplete")
  ensure (c.procedureStatus = .superseded → c.supersededById ≠ none)
    (invalid "superseded procedure requires replacement")
  ensure (c.procedureStatus ≠ .superseded → c.supersededById = none)
    (invalid "replacement link requires superseded status")
  ensure (c.lastVerifiedAt = none → c.verificationEvidenceIds = [])
    (invalid "verification evidence requires verified-at")
  ensure (∀ verified ∈ c.lastVerifiedAt, ∀ approved ∈ c.approvedAt,
      instant approved ≤ instant verified)
    (invalid "procedure verification precedes approval")

/-- `_procedure_from_record` up to its link checks. -/
def readProcedure (record : RecordEnvelope) : Result ProcedureContent := do
  let metadata := record.metadata
  ensure (record.recordType = "procedure" ∧ record.schemaVersion = 1)
    (invalid "procedure envelope is unsupported")
  ensure ((record.status = .active ∨ record.status = .archived) ∧ 1 ≤ record.revision)
    (invalid "procedure envelope state is invalid")
  let projectId ← uuidField .procedureValidation "procedure project ID"
    (← required metadata "project_id")
  let title ← words "procedure title" (← required metadata "title") maxTitleLength
  ensure (record.title = some title) (invalid "procedure title is inconsistent")
  let purpose ← words "procedure purpose" (← required metadata "purpose") maxPurposeLength
  let procedureStatus ← parseStatus (← required metadata "status")
  ensure (procedureStatus = .draft ∨ record.provenance = .userCreated ∨
      record.provenance = .userConfirmed)
    (invalid "accepted procedure requires trusted provenance")
  let version ← versionField (metadata.get "version")
  let prerequisites ← metadataTextItems metadata "prerequisites"
  let orderedSteps ← metadataTextItems metadata "ordered_steps"
  let requiredCapabilityIds ← metadataTokens metadata "required_capability_ids"
  let expectedOutputs ← metadataTextItems metadata "expected_outputs"
  let validationSteps ← metadataTextItems metadata "validation_steps"
  let rollbackSteps ← metadataTextItems metadata "rollback_steps"
  let platformConstraints ← metadataTextItems metadata "platform_constraints"
  let sourceIds ← metadataIds metadata "source_ids"
  let lastVerifiedAt ← optionalUtc "procedure verified-at" (metadata.get "last_verified_at")
  let verificationEvidenceIds ← metadataIds metadata "verification_evidence_ids"
  let supersedesId ← optionalUuid "procedure supersedes ID" (metadata.get "supersedes_id")
  let supersededById ← optionalUuid "procedure replacement ID" (metadata.get "superseded_by_id")
  let approvedAt ← optionalUtc "procedure approved-at" (metadata.get "approved_at")
  let content : ProcedureContent :=
    { projectId, title, purpose, procedureStatus, version, prerequisites, orderedSteps,
      requiredCapabilityIds, expectedOutputs, validationSteps, rollbackSteps, platformConstraints,
      sourceIds, lastVerifiedAt, verificationEvidenceIds, supersedesId, supersededById, approvedAt }
  validatePersistedSemantics record.id content
  return content

/-- What the reader catches. -/
def malformed : List ErrorKind := [.key, .value, .procedureValidation]

/-- `_procedure_from_record` without a repository. -/
def procedureFromRecord (record : RecordEnvelope) : Result ProcedureInfo :=
  catching (DollError.isA malformed) ⟨.procedureCorrupt, "procedure record is malformed"⟩ do
    let content ← readProcedure record
    return ProcedureInfo.ofRecord record content

/-! ## Links -/

/-- The body of the loop of `_validate_procedure_links`, up to its tests of the relation. -/
def linkedProcedure (relation : String) (projectId linkedId : RecordId) : Reader ProcedureInfo := do
  let linked ← ReadProgram.catching (DollError.isA [.key, .procedureCorrupt])
    (invalid s!"procedure {relation} link is invalid") do
      let record ← getRecord linkedId
      procedureFromRecord record
  ensure (linked.content.projectId = projectId)
    (invalid s!"procedure {relation} crosses project scope")
  return linked

def validatePredecessor (selfId : RecordId) (c : ProcedureContent) (linkedId : RecordId) :
    Reader Unit := do
  let linked ← linkedProcedure "predecessor" c.projectId linkedId
  ensure (linked.content.version < c.version)
    (invalid "procedure predecessor version must be lower")
  ensure (linked.content.procedureStatus ∈ [.approved, .superseded])
    (invalid "procedure predecessor is not accepted")
  ensure (linked.content.procedureStatus = .superseded →
      linked.content.supersededById = some selfId)
    (invalid "procedure predecessor has another replacement")

def validateReplacement (selfId : RecordId) (c : ProcedureContent) (linkedId : RecordId) :
    Reader Unit := do
  let linked ← linkedProcedure "replacement" c.projectId linkedId
  ensure (c.version < linked.content.version)
    (invalid "procedure replacement version must be higher")
  ensure (linked.content.supersedesId = some selfId)
    (invalid "procedure replacement is not reciprocal")

variable [ModuleRules]

/-- `_validate_project_link`. -/
def validateProjectLink (projectId : RecordId) : Reader Unit :=
  ReadProgram.catching (DollError.isA [.key, .projectDecisionCorrupt, .procedureValidation])
      (invalid "procedure requires a valid active project") do
    let record ← getRecord projectId
    ensure (record.recordType = "project" ∧ record.status = .active)
      (invalid "procedure project link is invalid")
    let _ ← Project.projectFromRecordLive record

def validateSourceLink (sourceId : RecordId) : Reader Unit := do
  let record ← ReadProgram.catching (DollError.isA [.key])
    (invalid "procedure source link is missing") (getRecord sourceId)
  ensure (record.status = .active ∧ record.sensitivity ≠ .secret)
    (invalid "procedure source link is not portable")

/-- The link checks of a procedure; those of its evidence and of its predecessor and replacement are
`_validate_evidence_links` and `_validate_procedure_links`. -/
def validateLinks (selfId : RecordId) (c : ProcedureContent) : Reader Unit := do
  validateProjectLink c.projectId
  ReadProgram.forEach validateSourceLink c.sourceIds
  ReadProgram.forEach
    (linkTo (invalid "procedure evidence link is invalid") WorkItem.isActiveEvidence)
    c.verificationEvidenceIds
  ReadProgram.forEach (validatePredecessor selfId c) c.supersedesId.toList
  ReadProgram.forEach (validateReplacement selfId c) c.supersededById.toList

/-- `_procedure_from_record` with a repository. -/
def procedureFromRecordLive (record : RecordEnvelope) : Reader ProcedureInfo :=
  ReadProgram.catching (DollError.isA malformed)
      ⟨.procedureCorrupt, "procedure record is malformed"⟩ do
    let content ← readProcedure record
    validateLinks record.id content
    return ProcedureInfo.ofRecord record content

/-! ## The service -/

/-- `_require_record`. -/
def requireRecord (procedureId : Text) : Reader RecordEnvelope := do
  let safeId ← uuidField .procedureValidation "procedure ID" procedureId
  let record ← ReadProgram.catching (DollError.isA [.key]) (invalid "procedure does not exist")
    (getRecord safeId)
  ensure (record.recordType = "procedure") (invalid "record is not a procedure")
  return record

def get (procedureId : Text) : Reader ProcedureInfo := do
  let record ← requireRecord procedureId
  procedureFromRecordLive record

end

end DollState.Procedure
