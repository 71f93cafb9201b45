import DollState.Domain.Project

/-!
# The project service

The writing calls of `ProjectService`. Each validates its arguments, reading the project and the
records it links to, and ends with the transaction to run.
-/

namespace DollState.Project

open StateLib

/-! ## The values a caller gives -/

structure ProjectValues where
  name : Text
  description : Text
  projectStatus : Text
  startedAt : Text
  endedAt : Option Text
  decisionIds : List Text
  memoryIds : List Text
  artifactIds : List Text

structure CharterValues where
  objective : Text
  inScope : List Text
  outOfScope : List Text
  successCriteria : List Text
  governingPolicyIds : List Text

/-- The arguments common to the calls: an audit operation identifier and who is calling. -/
structure Caller where
  operationId : Option Text
  actorType : AuthorityActor

section

variable [PythonLibrary] [ModuleRules]

/-- `_validated_project_values`. -/
def validatedProjectValues (v : ProjectValues) : Reader ProjectContent := do
  let name ← validateText "project name" v.name maxNameLength
  let description ← validateText "project description" v.description maxDescriptionLength
  let projectStatus ← validateProjectStatus v.projectStatus
  let startedAt ← validateUtc "project started-at" v.startedAt
  let endedAt ← validateOptionalUtc "project ended-at" v.endedAt
  forEach (fun ended => requireLaterOrEqual "project ended-at" ended startedAt) endedAt.toList
  let decisionIds ← validateReferenceIds "project decision IDs" (v.decisionIds.map .str)
  let memoryIds ← validateReferenceIds "project memory IDs" (v.memoryIds.map .str)
  let artifactIds ← validateReferenceIds "project artifact IDs" (v.artifactIds.map .str)
  validateTypedLinks { projectId := none, supersedesId := none, decisionIds, memoryIds,
                       artifactIds, policyIds := [] }
  return { name, description, projectStatus, startedAt, endedAt, decisionIds, memoryIds,
           artifactIds, charter := none }

/-- `_validated_project_v2_values`. -/
def validatedProjectV2Values (v : ProjectValues) (c : CharterValues) : Reader ProjectContent := do
  let content ← validatedProjectValues v
  let objective ← validateText "project objective" c.objective maxDescriptionLength
  let inScope ← validateTextItems "project in-scope work" (c.inScope.map .str)
  let outOfScope ← validateTextItems "project out-of-scope work" (c.outOfScope.map .str)
  let successCriteria ← validateTextItems "project success criteria" (c.successCriteria.map .str)
  let governingPolicyIds ←
    validateReferenceIds "project governing policy IDs" (c.governingPolicyIds.map .str)
  validateTypedLinks { projectId := none, supersedesId := none, decisionIds := [], memoryIds := [],
                       artifactIds := [], policyIds := governingPolicyIds }
  return { content with
    charter := some { objective, inScope, outOfScope, successCriteria, governingPolicyIds } }

/-! ## Transactions -/

/-- The value is not `None`. -/
def present : Json → Bool
  | .null => false
  | _ => true

/-- The audit metadata `_insert_audit` makes of a record's metadata. -/
def auditMetadata (recordType : String) (sensitivity : RecordSensitivity) (metadata : Metadata) :
    Result Metadata := do
  let domainStatus ← required metadata "status"
  let memories ← metadataList .projectDecisionValidation metadata "memory_ids"
  let artifacts ← metadataList .projectDecisionValidation metadata "artifact_ids"
  let common : Metadata :=
    [("record_type", .str recordType.toList), ("domain_status", .str domainStatus),
      ("sensitivity", .str sensitivity.text), ("memory_count", .int memories.length),
      ("artifact_count", .int artifacts.length)]
  if recordType = "project" then do
    let decisions ← metadataList .projectDecisionValidation metadata "decision_ids"
    return common ++ [("decision_count", .int decisions.length),
      ("has_ended_at", .bool (present (metadata.get "ended_at")))]
  else
    return common ++ [("has_project", .bool (present (metadata.get "project_id"))),
      ("has_supersedes", .bool (present (metadata.get "supersedes_id"))),
      ("has_review_after", .bool (present (metadata.get "review_after")))]

def auditDraft (env : Surroundings) (safeOperationId : Text) (action recordType : String)
    (sensitivity : RecordSensitivity) (metadata : Metadata) : AuditDraft where
  eventId := env.eventId
  occurredAt := env.auditNow
  operationId := .ok safeOperationId
  actorType := .user
  action := action
  targetType := recordType
  summary := s!"Changed authoritative {recordType} record"
  metadata := auditMetadata recordType sensitivity metadata

/-- `_create_record`. -/
def createRecord (env : Surroundings) (recordType : String) (title : Text) (metadata : Metadata)
    (provenance : RecordProvenance) (sensitivity : RecordSensitivity) (operation : Option Text)
    (action : String) (schemaVersion : Int) : Result Write := do
  requireWrite env
  validateRecordFields recordType schemaVersion
  let safeOperationId ← operationId env operation
  return .create
    { id := env.newId, recordType := recordType, schemaVersion := schemaVersion,
      createdAt := env.now, updatedAt := env.now, revision := 1, status := .active,
      provenance := provenance, sensitivity := sensitivity, title := some title,
      metadata := metadata }
    (auditDraft env safeOperationId action recordType sensitivity metadata)
    ⟨.stateCorrupt, s!"{recordType} record could not be created"⟩

/-- `_update_record`. -/
def updateRecord (env : Surroundings) (currentRecord : RecordEnvelope) (expectedRevision : Int)
    (title : Text) (metadata : Metadata) (lifecycleStatus : RecordStatus)
    (provenance : RecordProvenance) (operation : Option Text) (action : String)
    (schemaVersion : Option Int) : Result Write := do
  requireWrite env
  let safeOperationId ← operationId env operation
  let recordType := currentRecord.recordType
  return .change
    { base := currentRecord, expectedRevision := expectedRevision,
      schemaVersion := some (schemaVersion.getD currentRecord.schemaVersion),
      status := lifecycleStatus, provenance := some provenance, title := some (some title),
      metadata := metadata, now := env.now }
    (auditDraft env safeOperationId action recordType currentRecord.sensitivity metadata)
    { archived := invalid "archived authoritative record cannot be changed"
      unchanged := ⟨.staleRevision, "record revision changed during update"⟩
      failed := ⟨.stateCorrupt, s!"{recordType} record could not be updated"⟩ }

/-! ## The service -/

/-- `_require_record`. -/
def requireRecord (recordId : Text) (recordType : String) : Reader RecordEnvelope := do
  let record ← getRecordText recordId
  ensure (record.recordType = recordType) (DollError.noRecord recordId)
  return record

def requireUserActor (actorType : AuthorityActor) : Result Unit :=
  ensure (actorType = .user) ⟨.forbiddenAuthorityMutation,
    "authoritative project and decision mutation requires the user path"⟩

def requireActive (status : RecordStatus) : Result Unit :=
  ensure (status = .active) (invalid "archived authoritative record cannot be changed")

/-- The project an update or an archival starts from. -/
def currentProject (projectId : Text) : Reader (RecordEnvelope × ProjectInfo) := do
  let currentRecord ← requireRecord projectId "project"
  let current ← projectFromRecordLive currentRecord
  requireActive current.lifecycleStatus
  return (currentRecord, current)

def create (env : Surroundings) (v : ProjectValues) (sensitivity : RecordSensitivity)
    (caller : Caller) : Reader Write := do
  requireUserActor caller.actorType
  let content ← validatedProjectValues v
  createRecord env "project" content.name content.metadata .userCreated sensitivity
    caller.operationId "project.create" 1

def createV2 (env : Surroundings) (v : ProjectValues) (c : CharterValues)
    (sensitivity : RecordSensitivity) (caller : Caller) : Reader Write := do
  requireUserActor caller.actorType
  let content ← validatedProjectV2Values v c
  createRecord env "project" content.name content.metadata .userCreated sensitivity
    caller.operationId "project.create_v2" 2

def update (env : Surroundings) (projectId : Text) (expectedRevision : Int) (v : ProjectValues)
    (caller : Caller) : Reader Write := do
  requireUserActor caller.actorType
  let (currentRecord, current) ← currentProject projectId
  ensure (current.schemaVersion = 1)
    (invalid "ProjectRecord v2 requires the explicit update_v2 path")
  let content ← validatedProjectValues v
  updateRecord env currentRecord expectedRevision content.name content.metadata .active .userCreated
    caller.operationId "project.update" none

def updateV2 (env : Surroundings) (projectId : Text) (expectedRevision : Int) (v : ProjectValues)
    (c : CharterValues) (caller : Caller) : Reader Write := do
  requireUserActor caller.actorType
  let (currentRecord, _) ← currentProject projectId
  let content ← validatedProjectV2Values v c
  updateRecord env currentRecord expectedRevision content.name content.metadata .active .userCreated
    caller.operationId "project.update_v2" (some 2)

def archive (env : Surroundings) (projectId : Text) (expectedRevision : Int) (caller : Caller) :
    Reader Write := do
  requireUserActor caller.actorType
  let (currentRecord, current) ← currentProject projectId
  updateRecord env currentRecord expectedRevision current.content.name currentRecord.metadata
    .archived .userCreated caller.operationId "project.archive" none

def get (projectId : Text) : Reader ProjectInfo := do
  let record ← requireRecord projectId "project"
  projectFromRecordLive record

/-- A writing call of `ProjectService`. -/
inductive Call where
  | create (v : ProjectValues) (sensitivity : RecordSensitivity) (caller : Caller)
  | createV2 (v : ProjectValues) (c : CharterValues) (sensitivity : RecordSensitivity)
      (caller : Caller)
  | update (projectId : Text) (expectedRevision : Int) (v : ProjectValues) (caller : Caller)
  | updateV2 (projectId : Text) (expectedRevision : Int) (v : ProjectValues) (c : CharterValues)
      (caller : Caller)
  | archive (projectId : Text) (expectedRevision : Int) (caller : Caller)

/-- The call up to its transaction. -/
def Call.prepare (env : Surroundings) : Call → Reader Write
  | .create v sensitivity caller => Project.create env v sensitivity caller
  | .createV2 v c sensitivity caller => Project.createV2 env v c sensitivity caller
  | .update projectId expectedRevision v caller =>
    Project.update env projectId expectedRevision v caller
  | .updateV2 projectId expectedRevision v c caller =>
    Project.updateV2 env projectId expectedRevision v c caller
  | .archive projectId expectedRevision caller =>
    Project.archive env projectId expectedRevision caller

end

/-- A version 1 project without links, for running the model on fixed inputs. -/
def gardenContent : ProjectContent where
  name := "Garden".toList
  description := "Vegetable beds".toList
  projectStatus := .active
  startedAt := "2026-01-01T00:00:00Z".toList
  endedAt := none
  decisionIds := []
  memoryIds := []
  artifactIds := []
  charter := none

/-- The record of that project. -/
def gardenRecord (id : RecordId) : RecordEnvelope where
  id := id
  recordType := "project"
  schemaVersion := 1
  createdAt := "2026-01-01T00:00:00Z".toList
  updatedAt := "2026-01-01T00:00:00Z".toList
  revision := 1
  status := .active
  provenance := .userCreated
  sensitivity := .personal
  title := some gardenContent.name
  metadata := gardenContent.metadata

/-- A database whose only record is that project. -/
def gardenDatabase : Database :=
  { Database.fresh 0 [] with records := ⟨[gardenRecord 100], List.nodup_singleton _⟩ }

theorem gardenDatabase_new (id : RecordId) (r : RecordEnvelope)
    (h : gardenDatabase.find? id = some r) : r.recordType ≠ "work_item" := by
  have hmem : r ∈ [gardenRecord 100] := (Database.find?_eq_some.1 h).1
  rw [List.mem_singleton.1 hmem]
  decide

end DollState.Project
