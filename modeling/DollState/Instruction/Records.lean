import DollState.Domain.SafeFields
import DollState.Instruction.Origin
import DollState.Library.Rollback
import DollState.Settings.Records

/-!
# Instruction-origin records

The model of `InstructionOriginService.create` and `get`. A record holds the content of an instruction,
normalised line by line, and where the instruction comes from. What `create` writes is read back at once:
every field that has been validated is one that the readers accept as it is.
-/

namespace DollState.Instruction

open StateLib

/-! ## Values -/

inductive AuthorityClass where
  | systemPolicy
  | currentUserInstruction
  | durableUserPolicy
  | userManagementAction
  | untrustedData
  | modelProposal
  | unknownData
deriving DecidableEq, Repr

def AuthorityClass.all : List AuthorityClass := [.systemPolicy, .currentUserInstruction, .durableUserPolicy,
  .userManagementAction, .untrustedData, .modelProposal, .unknownData]

def AuthorityClass.text : AuthorityClass → Text
  | .systemPolicy => "system_policy".toList
  | .currentUserInstruction => "current_user_instruction".toList
  | .durableUserPolicy => "durable_user_policy".toList
  | .userManagementAction => "user_management_action".toList
  | .untrustedData => "untrusted_data".toList
  | .modelProposal => "model_proposal".toList
  | .unknownData => "unknown_data".toList

/-- `_ORIGIN_AUTHORITY`. -/
def authorityForOrigin : OriginClass → AuthorityClass
  | .systemPolicy => .systemPolicy
  | .currentUserInstruction => .currentUserInstruction
  | .durableUserPolicy => .durableUserPolicy
  | .userManagementAction => .userManagementAction
  | .externalContent | .importedData | .toolResult | .runtimeOutput => .untrustedData
  | .modelProposal => .modelProposal
  | .unknown => .unknownData

/-- `_AUTHORITY_RANK`. -/
def AuthorityClass.rank : AuthorityClass → ℕ
  | .unknownData | .untrustedData | .modelProposal => 0
  | .durableUserPolicy => 2
  | .currentUserInstruction | .userManagementAction => 3
  | .systemPolicy => 4

/-- `_DATA_ONLY_ORIGINS`. -/
def isDataOnly (origin : OriginClass) : Bool :=
  origin ∈ [.externalContent, .importedData, .toolResult, .runtimeOutput, .modelProposal, .unknown]

inductive AcquisitionMethod where
  | systemDefined | userEntry | policyReference | managementAction | retrieval | «import» | extraction | ocr
  | transcription | toolExecution | runtimeExecution | modelGeneration | unknown
deriving DecidableEq, Repr

def AcquisitionMethod.all : List AcquisitionMethod := [.systemDefined, .userEntry, .policyReference,
  .managementAction, .retrieval, .import, .extraction, .ocr, .transcription, .toolExecution, .runtimeExecution,
  .modelGeneration, .unknown]

def AcquisitionMethod.text : AcquisitionMethod → Text
  | .systemDefined => "system_defined".toList
  | .userEntry => "user_entry".toList
  | .policyReference => "policy_reference".toList
  | .managementAction => "management_action".toList
  | .retrieval => "retrieval".toList
  | .import => "import".toList
  | .extraction => "extraction".toList
  | .ocr => "ocr".toList
  | .transcription => "transcription".toList
  | .toolExecution => "tool_execution".toList
  | .runtimeExecution => "runtime_execution".toList
  | .modelGeneration => "model_generation".toList
  | .unknown => "unknown".toList

inductive Transformation where
  | normalization | extraction | ocr | transcription | summarization | translation | formatConversion
deriving DecidableEq, Repr

def Transformation.all : List Transformation :=
  [.normalization, .extraction, .ocr, .transcription, .summarization, .translation, .formatConversion]

def Transformation.text : Transformation → Text
  | .normalization => "normalization".toList
  | .extraction => "extraction".toList
  | .ocr => "ocr".toList
  | .transcription => "transcription".toList
  | .summarization => "summarization".toList
  | .translation => "translation".toList
  | .formatConversion => "format_conversion".toList

def ActorType.all : List ActorType :=
  [.system, .user, .retriever, .extractor, .importer, .tool, .runtime, .model, .unknown]

def OriginClass.all : List OriginClass := [.systemPolicy, .currentUserInstruction, .durableUserPolicy,
  .userManagementAction, .externalContent, .importedData, .toolResult, .runtimeOutput, .modelProposal, .unknown]

theorem ActorType.ofText?_text (actor : ActorType) : ofText? ActorType.all ActorType.text actor.text = some actor := by
  cases actor <;> decide

theorem OriginClass.ofText?_text (origin : OriginClass) :
    ofText? OriginClass.all OriginClass.text origin.text = some origin := by
  cases origin <;> decide

theorem AuthorityClass.ofText?_text (authority : AuthorityClass) :
    ofText? AuthorityClass.all AuthorityClass.text authority.text = some authority := by
  cases authority <;> decide

theorem AcquisitionMethod.ofText?_text (m : AcquisitionMethod) :
    ofText? AcquisitionMethod.all AcquisitionMethod.text m.text = some m := by
  cases m <;> decide

theorem Transformation.ofText?_text (t : Transformation) :
    ofText? Transformation.all Transformation.text t.text = some t := by
  cases t <;> decide

def maxTitleLength : ℕ := 240
def maxContentLength : ℕ := 16000
def maxIdentifierLength : ℕ := 300
def maxTransformations : ℕ := 12

/-- `InstructionOriginValidationError(message)`. -/
def invalid (message : String) : DollError := ⟨.instructionOriginValidation, message⟩

/-- The fields of an `InstructionSource`, the transformations as they are given. -/
structure InstructionSource (Transformations : Type) where
  originClass : OriginClass
  actorType : ActorType
  acquisitionMethod : AcquisitionMethod
  sourceIdentifier : Option Text := none
  parentOperationId : Option Text := none
  sessionId : Option Text := none
  contentHash : Option Text := none
  observedAt : Option Text := none
  transformations : Transformations
  derivedFromInstructionId : Option Text := none
  authorityReferenceId : Option Text := none
  authorityReferenceRevision : Option Int := none
  modelManifestId : Option Text := none
  runtimeAdapterId : Option Text := none

/-- `InstructionOriginInfo`. -/
structure InstructionOriginInfo where
  recordId : RecordId
  title : Text
  content : Text
  authorityClass : AuthorityClass
  source : InstructionSource (List Transformation)
  revision : Int
  status : RecordStatus
  recordProvenance : RecordProvenance
  sensitivity : RecordSensitivity
  createdAt : Text
  updatedAt : Text

/-! ## Sources -/

/-- `_validate_transformations`. -/
def validateTransformations (values : List Json) : Result (List Transformation) := do
  ensure (values.length ≤ maxTransformations) (invalid s!"transformations exceed {maxTransformations} entries")
  let result ← values.mapM fun value => match value with
    | .str text => orFail (invalid "invalid instruction transformation")
      (ofText? Transformation.all Transformation.text text)
    | _ => .error (invalid "invalid instruction transformation")
  ensure result.Nodup (invalid "transformations contain duplicates")
  return result

/-- The actors and methods that go with an origin. -/
def expected : OriginClass → List ActorType × List AcquisitionMethod
  | .systemPolicy => ([.system], [.systemDefined])
  | .currentUserInstruction => ([.user], [.userEntry])
  | .durableUserPolicy => ([.user], [.policyReference])
  | .userManagementAction => ([.user], [.managementAction])
  | .externalContent => ([.retriever, .extractor], [.retrieval, .extraction, .ocr, .transcription])
  | .importedData => ([.importer], [.import])
  | .toolResult => ([.tool], [.toolExecution])
  | .runtimeOutput => ([.runtime], [.runtimeExecution])
  | .modelProposal => ([.model], [.modelGeneration])
  | .unknown => ([.unknown], [.unknown])

/-- `_require_present`. -/
def requirePresent {α : Type} (value : Option α) (message : String) : Result Unit :=
  ensure (value.isSome = true) (invalid message)

/-- `_forbid_authority_reference`. -/
def forbidAuthorityReference {T : Type} (source : InstructionSource T) : Result Unit :=
  ensure (source.authorityReferenceId.isNone = true ∧ source.authorityReferenceRevision.isNone = true)
    (invalid "this origin class cannot assert an authority reference")

/-- `_validate_origin_combination`. -/
def validateOriginCombination {T : Type} (source : InstructionSource T) : Result Unit := do
  ensure (source.actorType ∈ (expected source.originClass).1 ∧
      source.acquisitionMethod ∈ (expected source.originClass).2)
    (invalid "origin, actor, and acquisition method disagree")
  match source.originClass with
  | .systemPolicy => do
    requirePresent source.authorityReferenceId "system policy requires an authority reference"
    requirePresent source.authorityReferenceRevision "system policy requires a reference revision"
  | .currentUserInstruction => do
    requirePresent source.sessionId "current user instruction requires a session ID"
    forbidAuthorityReference source
  | .durableUserPolicy => do
    requirePresent source.authorityReferenceId "durable user policy requires a policy record reference"
    requirePresent source.authorityReferenceRevision "durable user policy requires a policy revision"
  | .userManagementAction => do
    requirePresent source.parentOperationId "user management action requires a parent operation"
    requirePresent source.authorityReferenceId "user management action requires an action reference"
    requirePresent source.authorityReferenceRevision "user management action requires a reference revision"
  | .externalContent | .importedData | .toolResult => do
    requirePresent source.sourceIdentifier s!"{source.originClass.name} requires a source identifier"
    requirePresent source.parentOperationId s!"{source.originClass.name} requires a parent operation"
    forbidAuthorityReference source
  | .runtimeOutput => do
    requirePresent source.runtimeAdapterId "runtime output requires a runtime adapter ID"
    requirePresent source.parentOperationId "runtime output requires a parent operation"
    forbidAuthorityReference source
  | .modelProposal => do
    requirePresent source.modelManifestId "model proposal requires a model manifest ID"
    requirePresent source.runtimeAdapterId "model proposal requires a runtime adapter ID"
    requirePresent source.sessionId "model proposal requires a session ID"
    requirePresent source.parentOperationId "model proposal requires a parent operation"
    forbidAuthorityReference source
  | .unknown => do
    forbidAuthorityReference source
    ensure (source.sourceIdentifier.isNone = true ∧ source.parentOperationId.isNone = true ∧
        source.sessionId.isNone = true ∧ source.modelManifestId.isNone = true ∧
        source.runtimeAdapterId.isNone = true)
      (invalid ("unknown origin cannot assert source, actor, operation, session, " ++
        "model, or runtime identity"))

/-- `_record_provenance`. -/
def recordProvenance {T : Type} (source : InstructionSource T) : RecordProvenance :=
  if source.originClass = .importedData then .imported
  else if source.originClass = .modelProposal then .modelProposed
  else if source.actorType = .user then .userCreated
  else .systemGenerated

/-- `_source_metadata`. -/
def sourceMetadata (source : InstructionSource (List Transformation)) : Metadata :=
  [("actor_type", .str source.actorType.text), ("acquisition_method", .str source.acquisitionMethod.text),
    ("source_identifier", Json.ofText? source.sourceIdentifier),
    ("parent_operation_id", Json.ofText? source.parentOperationId),
    ("session_id", Json.ofText? source.sessionId), ("content_hash", Json.ofText? source.contentHash),
    ("observed_at", Json.ofText? source.observedAt),
    ("transformations", .arr (source.transformations.map fun t => .str t.text)),
    ("derived_from_instruction_id", Json.ofText? source.derivedFromInstructionId),
    ("authority_reference_id", Json.ofText? source.authorityReferenceId),
    ("authority_reference_revision", (source.authorityReferenceRevision.map .int).getD .null),
    ("model_manifest_id", Json.ofText? source.modelManifestId),
    ("runtime_adapter_id", Json.ofText? source.runtimeAdapterId)]

section

variable [PythonLibrary] [CaseLibrary] [UtcLibrary] [Audit.AuditRules]

/-- `_validate_text`. -/
def validateText (name : String) (value : Text) (maximum : ℕ) : Result Text :=
  safeWords .instructionOriginValidation name value maximum

/-- `_validate_content`. -/
def validateContent (value : Text) : Result Text :=
  safeLines .instructionOriginValidation "instruction content" value maxContentLength

/-- `_validate_optional_identifier`. -/
def validateOptionalIdentifier (name : String) (value : Option Text) : Result (Option Text) :=
  optionally (fun text => safeWords .instructionOriginValidation name text maxIdentifierLength) value

/-- `_validate_optional_uuid`; an identifier is kept as its canonical text. -/
def validateOptionalUuid (name : String) (value : Option Text) : Result (Option Text) :=
  optionally (fun text => do return uuidText (← anyCaseUuid .instructionOriginValidation name text)) value

/-- `_validate_source_values`. -/
def validateSource (source : InstructionSource (List Json)) : Result (InstructionSource (List Transformation)) := do
  let transformations ← validateTransformations source.transformations
  let sourceIdentifier ← validateOptionalIdentifier "source identifier" source.sourceIdentifier
  let parentOperationId ← validateOptionalIdentifier "parent operation ID" source.parentOperationId
  let sessionId ← validateOptionalIdentifier "session ID" source.sessionId
  let contentHash ← optionally (contentHash .instructionOriginValidation "content hash") source.contentHash
  let observedAt ← optionally (utcText .instructionOriginValidation "observed at") source.observedAt
  let derivedFromInstructionId ←
    validateOptionalUuid "derived instruction ID" source.derivedFromInstructionId
  let authorityReferenceId ←
    validateOptionalIdentifier "authority reference ID" source.authorityReferenceId
  ensure (∀ revision ∈ source.authorityReferenceRevision, 1 ≤ revision)
    (invalid "authority reference revision must be a positive integer or null")
  let modelManifestId ← validateOptionalIdentifier "model manifest ID" source.modelManifestId
  let runtimeAdapterId ← validateOptionalIdentifier "runtime adapter ID" source.runtimeAdapterId
  let validated : InstructionSource (List Transformation) := {
    originClass := source.originClass, actorType := source.actorType,
    acquisitionMethod := source.acquisitionMethod, sourceIdentifier, parentOperationId, sessionId, contentHash,
    observedAt, transformations, derivedFromInstructionId, authorityReferenceId,
    authorityReferenceRevision := source.authorityReferenceRevision, modelManifestId, runtimeAdapterId }
  validateOriginCombination validated
  return validated

/-! ## Reading a record -/

/-- `_required_string` of this module, which takes the empty text. -/
def requiredText (metadata : Metadata) (key : String) : Result Text :=
  match metadata.get key with
  | .str s => .ok s
  | _ => .error (invalid s!"{key} is missing or invalid")

/-- `_optional_string`. -/
def optionalText (metadata : Metadata) (key : String) : Result (Option Text) :=
  match metadata.get key with
  | .null => .ok none
  | .str s => .ok (some s)
  | _ => .error (invalid s!"{key} is invalid")

/-- `_optional_int`. -/
def optionalInt (metadata : Metadata) (key : String) : Result (Option Int) :=
  match metadata.get key with
  | .null => .ok none
  | .int i => .ok (some i)
  | _ => .error (invalid s!"{key} is invalid")

/-- A member of an enumeration. -/
def requiredMember {α : Type} (all : List α) (text : α → Text) (message : String) (metadata : Metadata)
    (key : String) : Result α := do
  orFail (invalid message) (ofText? all text (← requiredText metadata key))

/-- `_validate_instruction_envelope`. -/
def validateEnvelope (record : RecordEnvelope) : Result Unit := do
  ensure (record.recordType = "instruction_origin") (invalid "record is not instruction_origin")
  ensure (record.schemaVersion = 1) (invalid "unsupported instruction-origin schema version")
  ensure (1 ≤ record.revision) (invalid "instruction-origin revision is invalid")
  ensure (record.status = .active ∨ record.status = .archived)
    (invalid "instruction-origin status is invalid")
  ensure (record.provenance ≠ .userConfirmed) (invalid "instruction-origin provenance is invalid")
  validateRecordFields record.recordType record.schemaVersion

/-- The source that a record's metadata holds. -/
def readSource (metadata : Metadata) (origin : OriginClass) : Result (InstructionSource (List Transformation)) := do
  validateSource {
    originClass := origin
    actorType := ← requiredMember ActorType.all ActorType.text "invalid instruction actor type" metadata
      "actor_type"
    acquisitionMethod := ← requiredMember AcquisitionMethod.all AcquisitionMethod.text
      "invalid instruction acquisition method" metadata "acquisition_method"
    sourceIdentifier := ← optionalText metadata "source_identifier"
    parentOperationId := ← optionalText metadata "parent_operation_id"
    sessionId := ← optionalText metadata "session_id"
    contentHash := ← optionalText metadata "content_hash"
    observedAt := ← optionalText metadata "observed_at"
    transformations := ← match metadata.get "transformations" with
      | .arr values => .ok values
      | _ => .error (invalid "transformations is not a list")
    derivedFromInstructionId := ← optionalText metadata "derived_from_instruction_id"
    authorityReferenceId := ← optionalText metadata "authority_reference_id"
    authorityReferenceRevision := ← optionalInt metadata "authority_reference_revision"
    modelManifestId := ← optionalText metadata "model_manifest_id"
    runtimeAdapterId := ← optionalText metadata "runtime_adapter_id" }

/-- The value is this flag. -/
def isFlag : Json → Bool → Bool
  | .bool b, flag => b == flag
  | _, _ => false

/-- The part of `_instruction_origin_from_record` inside its `try`. -/
def readOrigin (record : RecordEnvelope) : Result InstructionOriginInfo := do
  validateEnvelope record
  let metadata := record.metadata
  ensure ((← requiredText metadata "instruction_kind") = "instruction_origin".toList)
    (invalid "instruction kind is invalid")
  let title ← validateText "instruction title" (← requiredText metadata "title") maxTitleLength
  ensure (record.title = some title) (invalid "instruction title is inconsistent")
  let content ← validateContent (← requiredText metadata "content")
  let origin ← requiredMember OriginClass.all OriginClass.text "invalid instruction origin class" metadata
    "origin_class"
  let authority ← requiredMember AuthorityClass.all AuthorityClass.text "invalid instruction authority class"
    metadata "authority_class"
  ensure (authority = authorityForOrigin origin) (invalid "instruction authority does not match origin")
  ensure (isFlag (metadata.get "data_only") (isDataOnly origin) = true)
    (invalid "instruction data-only flag does not match origin")
  let source ← readSource metadata origin
  ensure (record.provenance = recordProvenance source) (invalid "record provenance does not match origin")
  return {
    recordId := record.id, title, content, authorityClass := authority, source, revision := record.revision,
    status := record.status, recordProvenance := record.provenance, sensitivity := record.sensitivity,
    createdAt := record.createdAt, updatedAt := record.updatedAt }

/-- `_instruction_origin_from_record`. -/
def originFromRecord (record : RecordEnvelope) : Result InstructionOriginInfo :=
  catching (DollError.isA [.key, .value, .instructionOriginValidation])
    ⟨.instructionOriginCorrupt, "instruction-origin record is malformed"⟩ (readOrigin record)

variable [ModuleRules]

/-- `InstructionOriginService.get`. -/
def get (recordId : Text) : Reader InstructionOriginInfo := do
  let safeId ← anyCaseUuid .instructionOriginValidation "instruction record ID" recordId
  let record ← getRecord safeId
  ensure (record.recordType = "instruction_origin") (DollError.noRecord recordId)
  originFromRecord record

/-! ## Creating a record -/

/-- The part of `_validate_source_references` about a durable policy. -/
def validatePolicyReference (source : InstructionSource (List Transformation)) (content : Text) :
    Reader Unit := do
  let policyId ← anyCaseUuid .instructionOriginValidation "policy record ID"
    (source.authorityReferenceId.getD [])
  let row ← selectRecord policyId
  let record ← orFail (invalid "referenced durable policy does not exist") row
  ensure (record.recordType = "policy") (invalid "durable policy reference is not a policy record")
  let policy ← catching (DollError.isA [.settingsCorrupt]) (invalid "referenced durable policy is malformed")
    (Settings.policyFromRecord record)
  ensure (policy.status = .active ∧ policy.content.enabled = true)
    (invalid "referenced durable policy is not active")
  ensure (source.authorityReferenceRevision = some policy.revision)
    (invalid "durable policy reference revision is stale")
  ensure (policy.content.rule = content) (invalid "durable policy content must match the referenced rule")

/-- The part of `_validate_source_references` about a derived instruction. -/
def validateDerivation (parentId : Text) (authority : AuthorityClass) : Reader Unit := do
  let row ← match canonicalId? parentId with
    | some id => selectRecord id
    | none => pure none
  let record ← orFail (invalid "derived instruction record does not exist") row
  ensure (record.recordType = "instruction_origin")
    (invalid "derived instruction reference has the wrong type")
  let parent ← originFromRecord record
  ensure (authority.rank ≤ parent.authorityClass.rank)
    (invalid "derived content cannot raise instruction authority")

/-- `_validate_source_references`. -/
def validateSourceReferences (source : InstructionSource (List Transformation)) (content : Text)
    (authority : AuthorityClass) : Reader Unit := do
  if source.originClass = .durableUserPolicy then validatePolicyReference source content
  match source.derivedFromInstructionId with
  | some parentId => validateDerivation parentId authority
  | none => pure ()

/-- `_audit_actor`. -/
def auditActor : ActorType → AuditActor
  | .retriever | .extractor | .importer | .unknown | .system => .system
  | .tool => .capability
  | .user => .user
  | .runtime => .runtime
  | .model => .model

/-- `_instruction_audit_metadata`. -/
def auditMetadata (authority : AuthorityClass) (source : InstructionSource (List Transformation)) : Metadata :=
  [("origin_class", .str source.originClass.text), ("authority_class", .str authority.text),
    ("data_only", .bool (isDataOnly source.originClass)),
    ("acquisition_method", .str source.acquisitionMethod.text),
    ("source_identifier_present", .bool source.sourceIdentifier.isSome),
    ("content_hash_present", .bool source.contentHash.isSome),
    ("parent_operation_present", .bool source.parentOperationId.isSome),
    ("derived_instruction_present", .bool source.derivedFromInstructionId.isSome),
    ("authority_reference_present", .bool source.authorityReferenceId.isSome),
    ("transformation_count", .int source.transformations.length)]

/-- The metadata of a record. -/
def originMetadata (title content : Text) (source : InstructionSource (List Transformation)) : Metadata :=
  [("instruction_kind", .str "instruction_origin".toList), ("title", .str title), ("content", .str content),
    ("origin_class", .str source.originClass.text),
    ("authority_class", .str (authorityForOrigin source.originClass).text),
    ("data_only", .bool (isDataOnly source.originClass))] ++ sourceMetadata source

/-- `create` up to its transaction. -/
def prepareCreate (env : Surroundings) (title content : Text) (source : InstructionSource (List Transformation))
    (operation : Option Text) (sensitivity : RecordSensitivity) : Reader Write := do
  let safeTitle ← validateText "instruction title" title maxTitleLength
  let safeContent ← validateContent content
  let authority := authorityForOrigin source.originClass
  validateSourceReferences source safeContent authority
  let metadata := originMetadata safeTitle safeContent source
  requireWrite env
  validateRecordFields "instruction_origin" 1
  validateSecretBoundary "instruction_origin" sensitivity metadata
  let safeOperationId ← operationId env operation
  return .create
    { id := env.newId, recordType := "instruction_origin", schemaVersion := 1, createdAt := env.now,
      updatedAt := env.now, revision := 1, status := .active, provenance := recordProvenance source,
      sensitivity := sensitivity, title := some safeTitle, metadata := metadata }
    { eventId := env.eventId, occurredAt := env.auditNow, operationId := .ok safeOperationId,
      actorType := auditActor source.actorType, action := "instruction_origin.create",
      targetType := "instruction_origin", summary := "Changed instruction-origin record",
      metadata := .ok (auditMetadata authority source) }
    ⟨.stateCorrupt, "instruction-origin record could not be created"⟩

/-- `InstructionOriginService.create`, its source being validated by the caller. -/
def create (env : Surroundings) (title content : Text) (source : InstructionSource (List Transformation))
    (operation : Option Text) (sensitivity : RecordSensitivity) :
    Attempt Database DollError InstructionOriginInfo := do
  let db ← Attempt.read
  let prepared ← (prepareCreate env title content source operation sensitivity).on db
  let created ← prepared.commit db
  Attempt.write created
  (get (uuidText env.newId)).on created

end

end DollState.Instruction
