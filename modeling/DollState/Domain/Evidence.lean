import DollState.Domain.Fields
import DollState.Domain.SafeFields

/-!
# Evidence

The model of the evidence records of `trust`: the reader, and the calls that create evidence and that
review and archive records of the module. Of the module's other records, claims, inferences and trust
assessments, only whether they are readable matters here.
-/

namespace DollState.Truth

open StateLib

/-! ## Values -/

def maxTitleLength : Nat := 240
def maxBodyLength : Nat := 8000
def maxUncertaintyLength : Nat := 2000
def maxMethodLength : Nat := 1000
def maxReviewNoteLength : Nat := 2000
def maxIdentifierLength : Nat := 300
def maxReferenceCount : Nat := 100

/-- `TruthValidationError(message)`. -/
def invalid (message : String) : DollError := ⟨.truthValidation, message⟩

inductive TruthActor where
  | user | model | runtime | tool | system | importer | migration
deriving DecidableEq, Repr

def TruthActor.all : List TruthActor :=
  [.user, .model, .runtime, .tool, .system, .importer, .migration]

def TruthActor.name : TruthActor → String
  | .user => "user"
  | .model => "model"
  | .runtime => "runtime"
  | .tool => "tool"
  | .system => "system"
  | .importer => "importer"
  | .migration => "migration"

inductive TruthOrigin where
  | userStatement | importedContent | externalSource | toolResult | runtimeOutput | modelProposal
  | systemObservation | migrated | restored | unknown
deriving DecidableEq, Repr

def TruthOrigin.all : List TruthOrigin :=
  [.userStatement, .importedContent, .externalSource, .toolResult, .runtimeOutput, .modelProposal,
    .systemObservation, .migrated, .restored, .unknown]

def TruthOrigin.name : TruthOrigin → String
  | .userStatement => "user_statement"
  | .importedContent => "imported_content"
  | .externalSource => "external_source"
  | .toolResult => "tool_result"
  | .runtimeOutput => "runtime_output"
  | .modelProposal => "model_proposal"
  | .systemObservation => "system_observation"
  | .migrated => "migrated"
  | .restored => "restored"
  | .unknown => "unknown"

inductive ReviewState where
  | unreviewed | reviewed | disputed | rejected
deriving DecidableEq, Repr

def ReviewState.all : List ReviewState := [.unreviewed, .reviewed, .disputed, .rejected]

def ReviewState.name : ReviewState → String
  | .unreviewed => "unreviewed"
  | .reviewed => "reviewed"
  | .disputed => "disputed"
  | .rejected => "rejected"

inductive EvidenceType where
  | source | observation | record | artifact
deriving DecidableEq, Repr

def EvidenceType.all : List EvidenceType := [.source, .observation, .record, .artifact]

def EvidenceType.name : EvidenceType → String
  | .source => "source"
  | .observation => "observation"
  | .record => "record"
  | .artifact => "artifact"

/-- `TruthSource`. -/
structure TruthSource where
  originType : TruthOrigin
  creatorActorType : TruthActor
  sourceIdentifier : Option Text
  observedAt : Option Text
  sourceContentHash : Option Text
  transformationMethod : Option Text
  modelManifestId : Option Text
  runtimeAdapterId : Option Text
  sessionId : Option Text
  originOperationId : Option Text

/-- The review fields of a record. -/
structure Review where
  state : ReviewState
  reviewedAt : Option Text
  reviewerActorType : Option Text
  note : Option Text

/-- What the metadata of an evidence record holds; the confidence is a float, or null. -/
structure EvidenceContent where
  title : Text
  summary : Text
  evidenceType : EvidenceType
  supports : List RecordId
  contradicts : List RecordId
  contextualizes : List RecordId
  confidence : Json
  uncertainty : Option Text
  review : Review
  source : TruthSource

def TruthSource.metadata (s : TruthSource) : Metadata :=
  [("origin_type", .str s.originType.name.toList),
    ("creator_actor_type", .str s.creatorActorType.name.toList),
    ("source_identifier", Json.ofText? s.sourceIdentifier),
    ("observed_at", Json.ofText? s.observedAt),
    ("source_content_hash", Json.ofText? s.sourceContentHash),
    ("transformation_method", Json.ofText? s.transformationMethod),
    ("model_manifest_id", Json.ofText? s.modelManifestId),
    ("runtime_adapter_id", Json.ofText? s.runtimeAdapterId),
    ("session_id", Json.ofText? s.sessionId),
    ("origin_operation_id", Json.ofText? s.originOperationId)]

def Review.metadata (r : Review) : Metadata :=
  [("review_state", .str r.state.name.toList), ("reviewed_at", Json.ofText? r.reviewedAt),
    ("reviewer_actor_type", Json.ofText? r.reviewerActorType), ("review_note", Json.ofText? r.note)]

def EvidenceContent.metadata (c : EvidenceContent) : Metadata :=
  [("truth_kind", .str "evidence".toList), ("title", .str c.title), ("summary", .str c.summary),
    ("evidence_type", .str c.evidenceType.name.toList),
    ("supports_claim_ids", Json.ofIds c.supports),
    ("contradicts_claim_ids", Json.ofIds c.contradicts),
    ("contextualizes_claim_ids", Json.ofIds c.contextualizes), ("confidence", c.confidence),
    ("uncertainty", Json.ofText? c.uncertainty)] ++ c.review.metadata ++ c.source.metadata

/-- `_record_provenance`. -/
def TruthSource.provenance (s : TruthSource) : RecordProvenance :=
  if s.originType = .migrated then .migrated
  else if s.originType = .restored then .restored
  else if s.originType = .importedContent ∨ s.creatorActorType = .importer then .imported
  else if s.originType = .modelProposal ∨ s.creatorActorType = .model then .modelProposed
  else if s.creatorActorType = .user then .userCreated
  else .systemGenerated

/-! ## Field validators -/

/-- `_required_string`. -/
def required (metadata : Metadata) (key : String) : Result Text :=
  match metadata.get key with
  | .str s => .ok s
  | _ => .error (invalid s!"{key} is missing or invalid")

/-- `_optional_string`. -/
def optionalString (metadata : Metadata) (key : String) : Result (Option Text) :=
  match metadata.get key with
  | .null => .ok none
  | .str s => .ok (some s)
  | _ => .error (invalid s!"{key} is invalid")

/-- `_metadata_list`. -/
def metadataValues (metadata : Metadata) (key : String) : Result (List Json) :=
  match metadata.get key with
  | .arr values => .ok values
  | _ => .error (invalid s!"{key} is not a list")

/-- The value of an enumeration with a name. -/
def named {α : Type} (all : List α) (name : α → String) (message : String) (value : Text) :
    Result α :=
  orFail (invalid message) (ofText? all (fun a => (name a).toList) value)

/-- `_validate_optional_confidence`; an integer from `2 ^ 1024 - 2 ^ 970` on is too large for a
float. -/
def validateConfidence : Json → Result Json
  | .null => .ok .null
  | .int i => do
    ensure (i.natAbs < 2 ^ 1024 - 2 ^ 970) ⟨.overflow, "int too large to convert to float"⟩
    ensure (0 ≤ i ∧ i ≤ 1) (invalid "confidence must be between 0 and 1")
    return .real i
  | .real q => do
    ensure (0 ≤ q ∧ q ≤ 1) (invalid "confidence must be between 0 and 1")
    return .real q
  | .minusZero => .ok .minusZero
  | _ => .error (invalid "confidence must be a number or null")

/-- `_require_disjoint_relations`. -/
def requireDisjoint (supports contradicts contextualizes : List RecordId) : Result Unit := do
  let message := "one claim cannot have multiple evidence relations"
  ensure (∀ id ∈ contradicts, id ∉ supports) (invalid message)
  ensure (∀ id ∈ contextualizes, id ∉ supports ∧ id ∉ contradicts) (invalid message)

/-- The origin that `_validate_source_values` demands of an actor. -/
def TruthActor.requiredOrigin? : TruthActor → Option TruthOrigin
  | .model => some .modelProposal
  | .runtime => some .runtimeOutput
  | .tool => some .toolResult
  | .importer => some .importedContent
  | .migration => some .migrated
  | _ => none

/-- The rules of `_validate_source_values` for what goes together. -/
def TruthSource.checkOrigin (s : TruthSource) : Result Unit := do
  match s.originType with
  | .userStatement =>
    ensure (s.creatorActorType = .user)
      (invalid "user-statement origin requires a user creator")
  | .importedContent =>
    ensure (s.creatorActorType = .importer)
      (invalid "imported-content origin requires an importer creator")
    ensure (s.sourceIdentifier ≠ none ∧ s.originOperationId ≠ none)
      (invalid "imported-content origin requires source and operation provenance")
  | .externalSource =>
    ensure (s.sourceIdentifier ≠ none)
      (invalid "external-source origin requires a source identifier")
  | .toolResult =>
    ensure (s.creatorActorType = .tool) (invalid "tool-result origin requires a tool creator")
    ensure (s.sourceIdentifier ≠ none ∧ s.originOperationId ≠ none)
      (invalid "tool-result origin requires source and operation provenance")
  | .runtimeOutput =>
    ensure (s.creatorActorType = .runtime)
      (invalid "runtime-output origin requires a runtime creator")
    ensure (s.runtimeAdapterId ≠ none ∧ s.originOperationId ≠ none)
      (invalid "runtime-output origin requires runtime and operation provenance")
  | .modelProposal =>
    ensure (s.creatorActorType = .model)
      (invalid "model-proposal origin requires a model creator")
    ensure (s.modelManifestId ≠ none ∧ s.runtimeAdapterId ≠ none ∧ s.sessionId ≠ none ∧
        s.originOperationId ≠ none)
      (invalid "model-proposal origin requires model, runtime, session, and operation provenance")
  | .systemObservation =>
    ensure (s.creatorActorType = .system)
      (invalid "system-observation origin requires a system creator")
  | .migrated =>
    ensure (s.creatorActorType = .migration)
      (invalid "migrated origin requires a migration creator")
  | .restored =>
    ensure (s.creatorActorType = .system) (invalid "restored origin requires a system creator")
  | .unknown => pure ()
  match s.creatorActorType.requiredOrigin? with
  | none => pure ()
  | some origin =>
    ensure (s.originType = origin)
      (invalid s!"{s.creatorActorType.name} creator requires {origin.name} origin")

section

variable [PythonLibrary] [CaseLibrary] [UtcLibrary] [Audit.AuditRules]

/-- `_validate_text`. -/
def validateText (name : String) (value : Text) (maximum : Nat) : Result Text :=
  safeWords .truthValidation name value maximum

/-- `_validate_optional_text` and `_validate_optional_identifier`. -/
def validateOptionalText (name : String) (value : Option Text) (maximum : Nat) :
    Result (Option Text) :=
  optionally (fun text => validateText name text maximum) value

/-- `_validate_optional_utc`. -/
def validateOptionalUtc (name : String) (value : Option Text) : Result (Option Text) :=
  optionally (utcText .truthValidation name) value

/-- `_validate_source_values`, which `TruthSource(…)` replaces its fields by. -/
def validateSource (s : TruthSource) : Result TruthSource := do
  let sourceIdentifier ←
    validateOptionalText "source identifier" s.sourceIdentifier maxIdentifierLength
  let observedAt ← validateOptionalUtc "observation time" s.observedAt
  let sourceContentHash ←
    optionally (contentHash .truthValidation "source content hash") s.sourceContentHash
  let transformationMethod ←
    validateOptionalText "transformation method" s.transformationMethod maxMethodLength
  let modelManifestId ← validateOptionalText "model manifest ID" s.modelManifestId maxIdentifierLength
  let runtimeAdapterId ←
    validateOptionalText "runtime adapter ID" s.runtimeAdapterId maxIdentifierLength
  let sessionId ← validateOptionalText "session ID" s.sessionId maxIdentifierLength
  let originOperationId ←
    validateOptionalText "origin operation ID" s.originOperationId maxIdentifierLength
  let source : TruthSource :=
    { s with sourceIdentifier, observedAt, sourceContentHash, transformationMethod,
             modelManifestId, runtimeAdapterId, sessionId, originOperationId }
  source.checkOrigin
  return source

/-- `_validate_reference_ids`. -/
def validateReferenceIds (name : String) (values : List Text) : Result (List RecordId) := do
  ensure (values.length ≤ maxReferenceCount)
    (invalid s!"{name} exceeds {maxReferenceCount} entries")
  let result ← values.mapM (anyCaseUuid .truthValidation name)
  ensure result.Nodup (invalid s!"{name} contains duplicate IDs")
  return result

/-- `_metadata_reference_ids`. -/
def metadataReferenceIds (metadata : Metadata) (key : String) : Result (List RecordId) := do
  let values ← metadataValues metadata key
  let texts ← orFail (invalid s!"{key} contains a non-string ID") (texts? values)
  validateReferenceIds key texts

/-- `_initial_review_values`, called at the time `now`. -/
def initialReview (now : Text) (actor : TruthActor) (reviewState : Text) (note : Option Text) :
    Result Review := do
  let state ← named ReviewState.all ReviewState.name "invalid review state" reviewState
  let note ← validateOptionalText "review note" note maxReviewNoteLength
  ensure (¬ (actor ≠ .user ∧ state ≠ .unreviewed))
    ⟨.forbiddenTruthMutation, "non-user truth records must be created as unreviewed"⟩
  if state = .unreviewed then do
    ensure (note = none) (invalid "unreviewed record cannot have a review note")
    return { state := .unreviewed, reviewedAt := none, reviewerActorType := none, note := none }
  else
    return { state, reviewedAt := some now, reviewerActorType := some "user".toList, note }

/-! ## Reading a record -/

/-- `_review_from_metadata`. -/
def readReview (metadata : Metadata) : Result Review := do
  let state ← named ReviewState.all ReviewState.name "invalid review state"
    (← required metadata "review_state")
  let reviewedAt ← validateOptionalUtc "reviewed time" (← optionalString metadata "reviewed_at")
  let reviewer ← optionalString metadata "reviewer_actor_type"
  let note ← validateOptionalText "review note" (← optionalString metadata "review_note")
    maxReviewNoteLength
  if state = .unreviewed then do
    ensure (reviewedAt = none ∧ reviewer = none ∧ note = none)
      (invalid "unreviewed record contains review metadata")
    return { state, reviewedAt := none, reviewerActorType := none, note := none }
  else do
    ensure (reviewedAt ≠ none ∧ reviewer = some "user".toList)
      (invalid "reviewed record lacks user review provenance")
    return { state, reviewedAt, reviewerActorType := reviewer, note }

/-- `_source_from_metadata`. -/
def readSource (metadata : Metadata) : Result TruthSource := do
  let originType ← required metadata "origin_type"
  let creatorActorType ← required metadata "creator_actor_type"
  let sourceIdentifier ← optionalString metadata "source_identifier"
  let observedAt ← optionalString metadata "observed_at"
  let sourceContentHash ← optionalString metadata "source_content_hash"
  let transformationMethod ← optionalString metadata "transformation_method"
  let modelManifestId ← optionalString metadata "model_manifest_id"
  let runtimeAdapterId ← optionalString metadata "runtime_adapter_id"
  let sessionId ← optionalString metadata "session_id"
  let originOperationId ← optionalString metadata "origin_operation_id"
  let originType ← named TruthOrigin.all TruthOrigin.name "invalid truth origin type" originType
  let creatorActorType ← named TruthActor.all TruthActor.name "invalid truth creator actor type"
    creatorActorType
  validateSource { originType, creatorActorType, sourceIdentifier, observedAt, sourceContentHash,
                   transformationMethod, modelManifestId, runtimeAdapterId, sessionId,
                   originOperationId }

/-- `_validate_truth_envelope`, of a record of one of the module's types. -/
def validateEnvelope (record : RecordEnvelope) : Result Unit := do
  ensure (record.schemaVersion = 1) (invalid "truth record schema version is unsupported")
  ensure (1 ≤ record.revision) (invalid "truth record revision must be positive")
  ensure (record.status = .active ∨ record.status = .archived)
    (invalid "truth record lifecycle is unsupported")
  ensure (record.provenance ≠ .userConfirmed) (invalid "truth record provenance is unsupported")

/-- The part of `_evidence_from_record_unchecked` that reads the metadata. -/
def readContent (title? : Option Text) (provenance : RecordProvenance) (metadata : Metadata) :
    Result EvidenceContent := do
  let title ← validateText "evidence title" (← required metadata "title") maxTitleLength
  ensure (title? = some title) (invalid "evidence title is inconsistent")
  let summary ← validateText "evidence summary" (← required metadata "summary") maxBodyLength
  let evidenceType ← named EvidenceType.all EvidenceType.name "invalid evidence type"
    (← required metadata "evidence_type")
  let supports ← metadataReferenceIds metadata "supports_claim_ids"
  let contradicts ← metadataReferenceIds metadata "contradicts_claim_ids"
  let contextualizes ← metadataReferenceIds metadata "contextualizes_claim_ids"
  requireDisjoint supports contradicts contextualizes
  ensure (supports ≠ [] ∨ contradicts ≠ [] ∨ contextualizes ≠ [])
    (invalid "evidence has no claim relation")
  let confidence ← validateConfidence (metadata.get "confidence")
  let uncertainty ← validateOptionalText "evidence uncertainty"
    (← optionalString metadata "uncertainty") maxUncertaintyLength
  let review ← readReview metadata
  let source ← readSource metadata
  ensure (provenance = source.provenance)
    (invalid "record provenance and source provenance are inconsistent")
  return { title, summary, evidenceType, supports, contradicts, contextualizes, confidence,
           uncertainty, review, source }

/-- `_parse_truth_record` of an evidence record, before its errors are caught. -/
def readEvidence (record : RecordEnvelope) : Result EvidenceContent := do
  ensure (record.recordType = "evidence") (invalid "unsupported truth record type")
  validateEnvelope record
  let kind ← required record.metadata "truth_kind"
  ensure (kind = record.recordType.toList) (invalid "truth kind and record type are inconsistent")
  readContent record.title record.provenance record.metadata

/-- What the reader catches. -/
def malformed : List ErrorKind := [.key, .value, .truthValidation]

/-- `_evidence_from_record`. -/
def evidenceFromRecord (record : RecordEnvelope) : Result EvidenceContent :=
  catching (DollError.isA malformed) ⟨.truthCorrupt, "truth-model record is malformed"⟩
    (readEvidence record)

end

/-! ## The service -/

/-- The module's other records. -/
class TruthRules where
  /-- `_parse_truth_record` accepts a claim, an inference or a trust assessment. -/
  accepts : RecordEnvelope → Bool

/-- The arguments of `create_evidence`. -/
structure EvidenceValues where
  title : Text
  summary : Text
  evidenceType : Text
  source : TruthSource
  supportsClaimIds : List Text
  contradictsClaimIds : List Text
  contextualizesClaimIds : List Text
  confidence : Json
  uncertainty : Option Text
  reviewState : Text
  reviewNote : Option Text

/-- `metadata.get(key) is not None`. -/
def isPresent (metadata : Metadata) (key : String) : Json :=
  .bool (match metadata.get key with
    | .null => false
    | _ => true)

/-- `len(_metadata_list(metadata, key))`. -/
def countOf (metadata : Metadata) (key : String) : Result Json := do
  let values ← metadataValues metadata key
  return .int values.length

/-- `_truth_audit_metadata`. -/
def auditMetadata (metadata : Metadata) : Result Metadata := do
  let kind ← required metadata "truth_kind"
  let common ← if kind ∈ ["claim".toList, "evidence".toList, "inference".toList] then do
      let originType ← required metadata "origin_type"
      let reviewState ← required metadata "review_state"
      pure [("origin_type", .str originType), ("review_state", .str reviewState),
        ("confidence_present", isPresent metadata "confidence"),
        ("uncertainty_present", isPresent metadata "uncertainty"),
        ("source_identifier_present", isPresent metadata "source_identifier"),
        ("source_hash_present", isPresent metadata "source_content_hash")]
    else pure []
  let own ← if kind = "evidence".toList then do
      pure [("supports_count", ← countOf metadata "supports_claim_ids"),
        ("contradicts_count", ← countOf metadata "contradicts_claim_ids"),
        ("context_count", ← countOf metadata "contextualizes_claim_ids")]
    else if kind = "inference".toList then do
      pure [("claim_count", ← countOf metadata "claim_ids"),
        ("evidence_count", ← countOf metadata "evidence_ids")]
    else if kind = "trust_assessment".toList then do
      pure [("subject_type", .str (← required metadata "subject_type")),
        ("level", .str (← required metadata "level")),
        ("assessor_type", .str (← required metadata "assessor_type")),
        ("evidence_count", ← countOf metadata "evidence_ids"),
        ("policy_reference_present", isPresent metadata "policy_reference")]
    else pure []
  return ("truth_kind", .str kind) :: common ++ own

/-- `_audit_actor`. -/
def TruthActor.audit : TruthActor → AuditActor
  | .user => .user
  | .model => .model
  | .runtime => .runtime
  | .tool => .capability
  | .system => .system
  | .importer => .system
  | .migration => .migration

/-- The audit event of a change to a record of the module. -/
def auditDraft (env : Surroundings) (safeOperationId : Text) (actor : TruthActor)
    (recordType change : String) (metadata : Result Metadata) : AuditDraft where
  eventId := env.eventId
  occurredAt := env.auditNow
  operationId := .ok safeOperationId
  actorType := actor.audit
  action := s!"truth.{recordType}.{change}"
  targetType := recordType
  summary := "Changed truth-status or trust record"
  metadata := metadata

section

variable [PythonLibrary] [CaseLibrary] [UtcLibrary] [Audit.AuditRules] [ModuleRules] [TruthRules]

/-- `_parse_truth_record`. -/
def parseTruthRecord (record : RecordEnvelope) : Result Unit :=
  if record.recordType = "evidence" then do
    let _ ← evidenceFromRecord record
    return ()
  else ensure (TruthRules.accepts record = true) ⟨.truthCorrupt, "truth-model record is malformed"⟩

/-- `_validate_record_references`, for one claim. -/
def requireClaim (id : RecordId) : Reader Unit := do
  let record ← ReadProgram.catching (DollError.isA [.key])
    (invalid "referenced claim record does not exist") (getRecord id)
  ensure (record.recordType = "claim") (invalid "referenced record is not claim")
  parseTruthRecord record

def createEvidence (env : Surroundings) (v : EvidenceValues) (sensitivity : RecordSensitivity)
    (operation : Option Text) : Reader Write := do
  let source ← validateSource v.source
  let title ← validateText "evidence title" v.title maxTitleLength
  let summary ← validateText "evidence summary" v.summary maxBodyLength
  let evidenceType ← named EvidenceType.all EvidenceType.name "invalid evidence type" v.evidenceType
  let supports ← validateReferenceIds "supporting claim IDs" v.supportsClaimIds
  let contradicts ← validateReferenceIds "contradicting claim IDs" v.contradictsClaimIds
  let contextualizes ← validateReferenceIds "contextual claim IDs" v.contextualizesClaimIds
  requireDisjoint supports contradicts contextualizes
  ensure (supports ≠ [] ∨ contradicts ≠ [] ∨ contextualizes ≠ [])
    (invalid "evidence must relate to at least one claim")
  ReadProgram.forEach requireClaim (supports ++ contradicts ++ contextualizes)
  let confidence ← validateConfidence v.confidence
  let uncertainty ← validateOptionalText "evidence uncertainty" v.uncertainty maxUncertaintyLength
  let review ← initialReview env.calledAt source.creatorActorType v.reviewState v.reviewNote
  let content : EvidenceContent :=
    { title, summary, evidenceType, supports, contradicts, contextualizes, confidence, uncertainty,
      review, source }
  requireWrite env
  validateRecordFields "evidence" 1
  validateSecretBoundary "evidence" sensitivity content.metadata
  let safeOperationId ← operationId env operation
  return .create
    { id := env.newId, recordType := "evidence", schemaVersion := 1, createdAt := env.now,
      updatedAt := env.now, revision := 1, status := .active, provenance := source.provenance,
      sensitivity := sensitivity, title := some title, metadata := content.metadata }
    (auditDraft env safeOperationId source.creatorActorType "evidence" "create"
      (auditMetadata content.metadata))
    ⟨.stateCorrupt, "truth-model record could not be created"⟩

/-- `_update_truth_record`. -/
def updateTruthRecord (env : Surroundings) (current : RecordEnvelope) (expectedRevision : Int)
    (metadata : Metadata) (status : RecordStatus) (operation : Option Text) (change : String) :
    Result Write := do
  requireWrite env
  let safeOperationId ← operationId env operation
  validateSecretBoundary current.recordType current.sensitivity metadata
  return .change
    { base := current, expectedRevision := expectedRevision, schemaVersion := none,
      status := status, provenance := none, title := none, metadata := metadata, now := env.now }
    (auditDraft env safeOperationId .user current.recordType change (auditMetadata metadata))
    { archived := invalid "archived truth-model record cannot be changed"
      unchanged := ⟨.staleRevision, "record revision changed during update"⟩
      failed := ⟨.stateCorrupt, "truth-model record could not be updated"⟩ }

/-- `metadata.update(values)`. -/
def updated (metadata values : Metadata) : Metadata :=
  values.foldl (fun metadata entry => metadata.set entry.1 entry.2) metadata

/-- The record a review or an archival starts from. -/
def currentRecord (recordId : Text) (recordTypes : List String) : Reader RecordEnvelope := do
  let record ← getRecordText recordId
  ensure (record.recordType ∈ recordTypes) (DollError.noRecord recordId)
  parseTruthRecord record
  ensure (record.status = .active) (invalid "archived truth-model record cannot be changed")
  return record

def review (env : Surroundings) (recordId : Text) (expectedRevision : Int) (reviewState : Text)
    (reviewNote : Option Text) (operation : Option Text) (actorType : TruthActor) :
    Reader Write := do
  ensure (actorType = .user) (DollError.mk .forbiddenTruthMutation
    "only the user may review truth-status records")
  let record ← currentRecord recordId ["claim", "evidence", "inference"]
  let values ← initialReview env.calledAt .user reviewState reviewNote
  updateTruthRecord env record expectedRevision (updated record.metadata values.metadata) .active
    operation "review"

def archive (env : Surroundings) (recordId : Text) (expectedRevision : Int)
    (operation : Option Text) (actorType : TruthActor) : Reader Write := do
  ensure (actorType = .user) (DollError.mk .forbiddenTruthMutation
    "only the user may archive truth-model records")
  let record ← currentRecord recordId ["claim", "evidence", "inference", "trust_assessment"]
  updateTruthRecord env record expectedRevision record.metadata .archived operation "archive"

/-- A writing call of `ClaimEvidenceTrustService` on evidence. -/
inductive Call where
  | createEvidence (v : EvidenceValues) (sensitivity : RecordSensitivity) (operation : Option Text)
  | review (recordId : Text) (expectedRevision : Int) (reviewState : Text)
      (reviewNote : Option Text) (operation : Option Text) (actorType : TruthActor)
  | archive (recordId : Text) (expectedRevision : Int) (operation : Option Text)
      (actorType : TruthActor)

/-- The call up to its transaction. -/
def Call.prepare (env : Surroundings) : Call → Reader Write
  | .createEvidence v sensitivity operation => Truth.createEvidence env v sensitivity operation
  | .review recordId expectedRevision reviewState reviewNote operation actorType =>
    Truth.review env recordId expectedRevision reviewState reviewNote operation actorType
  | .archive recordId expectedRevision operation actorType =>
    Truth.archive env recordId expectedRevision operation actorType

end

end DollState.Truth
