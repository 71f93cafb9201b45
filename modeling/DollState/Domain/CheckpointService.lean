import DollState.Domain.Checkpoint

/-!
# The checkpoint service

The writing calls of `ProjectCheckpointService`. Confirming reads the revisions of the basis one
record at a time and stores them with the fingerprint; superseding and archiving keep the stored
basis.
-/

namespace DollState.Checkpoint

open StateLib

/-! ## The values a caller gives -/

/-- The arguments of `_validated_checkpoint_values`. -/
structure CheckpointValues where
  projectId : Text
  asOf : Text
  summary : Text
  currentPhase : Text
  currentGoal : Text
  activeWorkItemIds : List Text
  nextWorkItemIds : List Text
  blockedWorkItemIds : List Text
  completedMilestoneIds : List Text
  requiredValidationIds : List Text
  basisRecordIds : List Text
  basisRecordRevisions : List (Text × Int)
  basisFingerprint : Option Text
  confirmationState : Text
  confirmedBy : Option Text

/-- The arguments of `propose` that describe the checkpoint. -/
structure Proposal where
  projectId : Text
  asOf : Text
  summary : Text
  currentPhase : Text
  currentGoal : Text
  activeWorkItemIds : List Text
  nextWorkItemIds : List Text
  blockedWorkItemIds : List Text
  completedMilestoneIds : List Text
  requiredValidationIds : List Text
  basisRecordIds : List Text

/-- The arguments common to the calls: an audit operation identifier and who is calling. -/
structure Caller where
  operationId : Option Text
  actorType : CheckpointActor

section

variable [PythonLibrary] [ModuleRules]

/-- `_validated_checkpoint_values` up to its link checks; `selfId` is the identifier of a record. -/
def checkedValues (selfId : RecordId) (v : CheckpointValues) : Result CheckpointContent := do
  let projectId ← uuidField .checkpointValidation "checkpoint project ID" v.projectId
  let asOf ← utc "checkpoint as-of" v.asOf
  let summary ← words "checkpoint summary" v.summary maxSummaryLength
  let currentPhase ← words "checkpoint current phase" v.currentPhase maxPhaseLength
  let currentGoal ← words "checkpoint current goal" v.currentGoal maxGoalLength
  let activeWorkItemIds ← referenceIds "active work-item IDs" v.activeWorkItemIds
  let nextWorkItemIds ← referenceIds "next work-item IDs" v.nextWorkItemIds
  let blockedWorkItemIds ← referenceIds "blocked work-item IDs" v.blockedWorkItemIds
  let completedMilestoneIds ← referenceIds "completed milestone IDs" v.completedMilestoneIds
  let requiredValidationIds ← referenceIds "required validation IDs" v.requiredValidationIds
  let basisRecordIds ← referenceIds "additional basis record IDs" v.basisRecordIds
  requireDisjointWorkLists
    [activeWorkItemIds, nextWorkItemIds, blockedWorkItemIds, completedMilestoneIds]
  let unconfirmed : CheckpointContent :=
    { projectId, asOf, summary, currentPhase, currentGoal, activeWorkItemIds, nextWorkItemIds,
      blockedWorkItemIds, completedMilestoneIds, requiredValidationIds, basisRecordIds,
      basisRecordRevisions := [], basisFingerprint := none, confirmationState := .proposed,
      confirmedByUser := false }
  validateBasis selfId unconfirmed "checkpoint cannot include itself in its basis"
    "additional basis records duplicate required basis"
  let confirmationState ← parseConfirmationState v.confirmationState
  let confirmedByUser ← confirmedBy (Json.ofText? v.confirmedBy)
  let basisRecordRevisions ← basisRevisions v.basisRecordRevisions
  if confirmationState = .proposed then
    ensure (basisRecordRevisions = [] ∧ v.basisFingerprint = none ∧ confirmedByUser = false)
      proposedWithBasis
  else do
    ensure (confirmedByUser = true) (invalid "confirmed checkpoint requires user confirmation")
    ensure (basisRecordRevisions.Cover unconfirmed.basis)
      (invalid "checkpoint basis revisions do not match its declared basis")
    fingerprint v.basisFingerprint
  return { unconfirmed with
    basisRecordRevisions, basisFingerprint := v.basisFingerprint, confirmationState,
    confirmedByUser }

/-- `_validated_checkpoint_values`. -/
def validatedCheckpointValues (selfId : RecordId) (v : CheckpointValues) :
    Reader CheckpointContent := do
  let content ← checkedValues selfId v
  validateLiveLinks content
  return content

/-! ## Transactions -/

/-- `_audit_actor`. -/
def auditActor : CheckpointActor → AuditActor
  | .user => .user
  | .model => .model
  | .runtime => .runtime
  | .importer => .system
  | .system => .system

/-- `len(metadata["basis_record_revisions"])`, for an object. -/
def basisCount (metadata : Metadata) : Nat :=
  match metadata.get "basis_record_revisions" with
  | .obj entries => entries.length
  | _ => 0

/-- The audit metadata `_insert_audit` makes of a record's metadata. -/
def auditMetadata (sensitivity : RecordSensitivity) (metadata : Metadata) : Result Metadata := do
  let confirmationState ← required metadata "confirmation_state"
  let active ← metadataList .checkpointValidation metadata "active_work_item_ids"
  let blocked ← metadataList .checkpointValidation metadata "blocked_work_item_ids"
  return [("record_type", .str "project_checkpoint".toList),
    ("confirmation_state", .str confirmationState), ("sensitivity", .str sensitivity.text),
    ("active_work_count", .int active.length), ("blocked_work_count", .int blocked.length),
    ("basis_count", .int (basisCount metadata))]

/-- The event of a change; the transaction validates the operation identifier itself. -/
def auditDraft (env : Surroundings) (operation : Option Text) (action : String)
    (actorType : CheckpointActor) (sensitivity : RecordSensitivity) (metadata : Metadata) :
    AuditDraft where
  eventId := env.eventId
  occurredAt := env.auditNow
  operationId := operationId env operation
  actorType := auditActor actorType
  action := action
  targetType := "project_checkpoint"
  summary := "Changed authoritative project-checkpoint record"
  metadata := auditMetadata sensitivity metadata

/-- `_create_checkpoint`. -/
def createCheckpoint (env : Surroundings) (recordId : RecordId) (metadata : Metadata)
    (provenance : RecordProvenance) (sensitivity : RecordSensitivity) (operation : Option Text)
    (action : String) (actorType : CheckpointActor) : Result Write := do
  requireWrite env
  validateRecordFields "project_checkpoint" 1
  return .create
    { id := recordId, recordType := "project_checkpoint", schemaVersion := 1,
      createdAt := env.now, updatedAt := env.now, revision := 1, status := .active,
      provenance := provenance, sensitivity := sensitivity, title := none, metadata := metadata }
    (auditDraft env operation action actorType sensitivity metadata)
    ⟨.stateCorrupt, "project checkpoint could not be created"⟩

/-- `_update_checkpoint`. -/
def updateCheckpoint (env : Surroundings) (currentRecord : RecordEnvelope)
    (expectedRevision : Int) (metadata : Metadata) (lifecycleStatus : RecordStatus)
    (operation : Option Text) (action : String) : Result Write := do
  requireWrite env
  return .change
    { base := currentRecord, expectedRevision := expectedRevision, schemaVersion := none,
      status := lifecycleStatus, provenance := some .userConfirmed, title := none,
      metadata := metadata, now := env.now }
    (auditDraft env operation action .user currentRecord.sensitivity metadata)
    { archived := invalid "archived checkpoint cannot be changed"
      unchanged := ⟨.staleRevision, "checkpoint revision changed during update"⟩
      failed := ⟨.stateCorrupt, "project checkpoint could not be updated"⟩ }

/-! ## The service -/

/-- `_require_record`. -/
def requireRecord (checkpointId : Text) : Reader RecordEnvelope := do
  let safeId ← uuidField .checkpointValidation "checkpoint ID" checkpointId
  let record ← ReadProgram.catching (DollError.isA [.key]) (invalid "checkpoint does not exist")
    (getRecord safeId)
  ensure (record.recordType = "project_checkpoint") (invalid "record is not a project checkpoint")
  return record

def requireActive (checkpoint : CheckpointInfo) : Result Unit :=
  ensure (checkpoint.lifecycleStatus = .active) (invalid "archived checkpoint cannot be changed")

def requireUser (actorType : CheckpointActor) : Result Unit :=
  ensure (actorType = .user) (invalid "checkpoint confirmation requires the user path")

def proposalProvenance : CheckpointActor → RecordProvenance
  | .user => .userCreated
  | .model => .modelProposed
  | .importer => .imported
  | _ => .systemGenerated

def get (checkpointId : Text) : Reader CheckpointInfo := do
  let record ← requireRecord checkpointId
  checkpointFromRecordLive record

/-- The checkpoint a change starts from. -/
def currentCheckpoint (checkpointId : Text) : Reader (RecordEnvelope × CheckpointInfo) := do
  let currentRecord ← requireRecord checkpointId
  let current ← checkpointFromRecordLive currentRecord
  requireActive current
  return (currentRecord, current)

/-- The values of a checkpoint about to be proposed. -/
def Proposal.values (p : Proposal) : CheckpointValues where
  projectId := p.projectId
  asOf := p.asOf
  summary := p.summary
  currentPhase := p.currentPhase
  currentGoal := p.currentGoal
  activeWorkItemIds := p.activeWorkItemIds
  nextWorkItemIds := p.nextWorkItemIds
  blockedWorkItemIds := p.blockedWorkItemIds
  completedMilestoneIds := p.completedMilestoneIds
  requiredValidationIds := p.requiredValidationIds
  basisRecordIds := p.basisRecordIds
  basisRecordRevisions := []
  basisFingerprint := none
  confirmationState := "proposed".toList
  confirmedBy := none

def propose (env : Surroundings) (p : Proposal) (sensitivity : RecordSensitivity)
    (caller : Caller) : Reader Write := do
  let content ← validatedCheckpointValues env.newId p.values
  createCheckpoint env env.newId content.metadata (proposalProvenance caller.actorType) sensitivity
    caller.operationId "checkpoint.propose" caller.actorType

/-- The basis as `_capture_basis_revisions` goes through it: each record once, in order. -/
def CheckpointContent.orderedBasis (c : CheckpointContent) : List RecordId :=
  c.basis.dedup.mergeSort fun a b => a.toNat ≤ b.toNat

/-- `_capture_basis_revisions`. -/
def captureBasisRevisions (c : CheckpointContent) : Reader BasisRevisions :=
  ReadProgram.collect (fun recordId => do
    let record ← ReadProgram.catching (DollError.isA [.key])
      (invalid "checkpoint basis record is missing") (getRecord recordId)
    return (recordId, record.revision)) c.orderedBasis

/-- The metadata `confirm` makes of a proposal's. -/
def confirmedMetadata (metadata : Metadata) (revisions : BasisRevisions) (fingerprint : Text) :
    Metadata :=
  (((metadata.set "basis_record_revisions" revisions.payload).set "basis_fingerprint"
    (.str fingerprint)).set "confirmation_state" (.str "confirmed".toList)).set "confirmed_by"
    (.str "user".toList)

def confirm (env : Surroundings) (checkpointId : Text) (expectedRevision : Int)
    (caller : Caller) : Reader Write := do
  requireUser caller.actorType
  let (currentRecord, current) ← currentCheckpoint checkpointId
  ensure (current.content.confirmationState = .proposed)
    (invalid "only proposed checkpoints may be confirmed")
  validateLiveLinks current.content
  let revisions ← captureBasisRevisions current.content
  let fingerprint := basisFingerprint current.checkpointId current.content revisions
  updateCheckpoint env currentRecord expectedRevision
    (confirmedMetadata currentRecord.metadata revisions fingerprint) .active caller.operationId
    "checkpoint.confirm"

def supersede (env : Surroundings) (checkpointId : Text) (expectedRevision : Int)
    (caller : Caller) : Reader Write := do
  requireUser caller.actorType
  let (currentRecord, current) ← currentCheckpoint checkpointId
  ensure (current.content.confirmationState = .confirmed)
    (invalid "only confirmed checkpoints may be superseded")
  updateCheckpoint env currentRecord expectedRevision
    (currentRecord.metadata.set "confirmation_state" (.str "superseded".toList)) .active
    caller.operationId "checkpoint.supersede"

def archive (env : Surroundings) (checkpointId : Text) (expectedRevision : Int)
    (caller : Caller) : Reader Write := do
  requireUser caller.actorType
  let (currentRecord, _) ← currentCheckpoint checkpointId
  updateCheckpoint env currentRecord expectedRevision currentRecord.metadata .archived
    caller.operationId "checkpoint.archive"

/-- A writing call of `ProjectCheckpointService`. -/
inductive Call where
  | propose (p : Proposal) (sensitivity : RecordSensitivity) (caller : Caller)
  | confirm (checkpointId : Text) (expectedRevision : Int) (caller : Caller)
  | supersede (checkpointId : Text) (expectedRevision : Int) (caller : Caller)
  | archive (checkpointId : Text) (expectedRevision : Int) (caller : Caller)

/-- The call up to its transaction. -/
def Call.prepare (env : Surroundings) : Call → Reader Write
  | .propose p sensitivity caller => Checkpoint.propose env p sensitivity caller
  | .confirm checkpointId expectedRevision caller =>
    Checkpoint.confirm env checkpointId expectedRevision caller
  | .supersede checkpointId expectedRevision caller =>
    Checkpoint.supersede env checkpointId expectedRevision caller
  | .archive checkpointId expectedRevision caller =>
    Checkpoint.archive env checkpointId expectedRevision caller

end

end DollState.Checkpoint
