import DollState.Domain.WorkItemService

/-!
# Project checkpoints

The model of `checkpoint`. A proposal lists work items by their role; confirming it fixes the
revisions of its basis and a fingerprint of both. The links are checked when a checkpoint is
proposed or confirmed; when one is read they only decide whether it is fresh.
-/

namespace DollState.Checkpoint

open StateLib

/-! ## Values -/

def maxSummaryLength : Nat := 8000
def maxPhaseLength : Nat := 500
def maxGoalLength : Nat := 2000
def maxLinks : Nat := 300

/-- `CheckpointValidationError(message)`. -/
def invalid (message : String) : DollError := ⟨.checkpointValidation, message⟩

inductive ConfirmationState where
  | proposed | confirmed | superseded
deriving DecidableEq, Repr

def ConfirmationState.all : List ConfirmationState := [.proposed, .confirmed, .superseded]

def ConfirmationState.text : ConfirmationState → Text
  | .proposed => "proposed".toList
  | .confirmed => "confirmed".toList
  | .superseded => "superseded".toList

theorem ConfirmationState.ofText?_text (state : ConfirmationState) :
    ofText? ConfirmationState.all ConfirmationState.text state.text = some state := by
  cases state <;> decide

inductive CheckpointFreshness where
  | current | stale | superseded
deriving DecidableEq, Repr

inductive CheckpointActor where
  | user | model | runtime | importer | system
deriving DecidableEq, Repr

/-- The revisions of the basis records, in the order of their identifiers. -/
abbrev BasisRevisions := List (RecordId × Int)

/-- What the metadata of a checkpoint record holds; only the user confirms a checkpoint, so
`confirmedBy` says whether it has been. -/
structure CheckpointContent where
  projectId : RecordId
  asOf : Text
  summary : Text
  currentPhase : Text
  currentGoal : Text
  activeWorkItemIds : List RecordId
  nextWorkItemIds : List RecordId
  blockedWorkItemIds : List RecordId
  completedMilestoneIds : List RecordId
  requiredValidationIds : List RecordId
  basisRecordIds : List RecordId
  basisRecordRevisions : BasisRevisions
  basisFingerprint : Option Text
  confirmationState : ConfirmationState
  confirmedByUser : Bool

/-- `ProjectCheckpointInfo`: the content of a checkpoint record with its envelope. -/
structure CheckpointInfo where
  checkpointId : RecordId
  content : CheckpointContent
  freshness : Option CheckpointFreshness
  revision : Int
  lifecycleStatus : RecordStatus
  provenance : RecordProvenance
  sensitivity : RecordSensitivity
  createdAt : Text
  updatedAt : Text

def CheckpointInfo.ofRecord (record : RecordEnvelope) (content : CheckpointContent)
    (freshness : Option CheckpointFreshness) : CheckpointInfo where
  checkpointId := record.id
  content := content
  freshness := freshness
  revision := record.revision
  lifecycleStatus := record.status
  provenance := record.provenance
  sensitivity := record.sensitivity
  createdAt := record.createdAt
  updatedAt := record.updatedAt

/-- The JSON object of the basis revisions. -/
def BasisRevisions.payload (revisions : BasisRevisions) : Json :=
  .obj (revisions.map fun entry => (String.ofList (uuidText entry.1), .int entry.2))

/-- The metadata a checkpoint is written as. -/
def CheckpointContent.metadata (c : CheckpointContent) : Metadata :=
  [("project_id", .str (uuidText c.projectId)), ("as_of", .str c.asOf), ("summary", .str c.summary),
    ("current_phase", .str c.currentPhase), ("current_goal", .str c.currentGoal),
    ("active_work_item_ids", Json.ofIds c.activeWorkItemIds),
    ("next_work_item_ids", Json.ofIds c.nextWorkItemIds),
    ("blocked_work_item_ids", Json.ofIds c.blockedWorkItemIds),
    ("completed_milestone_ids", Json.ofIds c.completedMilestoneIds),
    ("required_validation_ids", Json.ofIds c.requiredValidationIds),
    ("basis_record_ids", Json.ofIds c.basisRecordIds),
    ("basis_record_revisions", c.basisRecordRevisions.payload),
    ("basis_fingerprint", Json.ofText? c.basisFingerprint),
    ("confirmation_state", .str c.confirmationState.text),
    ("confirmed_by", if c.confirmedByUser then .str "user".toList else .null),
    ("fingerprint_format_version", .int 1)]

/-- The identifiers a checkpoint lists in a role or as a required validation, with its project. -/
def CheckpointContent.automaticBasis (c : CheckpointContent) : List RecordId :=
  c.projectId :: (c.activeWorkItemIds ++ c.nextWorkItemIds ++ c.blockedWorkItemIds ++
    c.completedMilestoneIds ++ c.requiredValidationIds)

/-- Every identifier of the basis. -/
def CheckpointContent.basis (c : CheckpointContent) : List RecordId :=
  c.automaticBasis ++ c.basisRecordIds

/-! ## Field validators -/

section

variable [PythonLibrary]

def words (name : String) (value : Text) (maximum : Nat) : Result Text :=
  wordsField .checkpointValidation name value maximum

def utc (name : String) (value : Text) : Result Text :=
  utcField .checkpointValidation " must use UTC Z notation" " is invalid" name value

def referenceIds (name : String) (values : List Text) : Result (List RecordId) :=
  DollState.referenceIds .checkpointValidation maxLinks name values

def metadataIds (metadata : Metadata) (key : String) : Result (List RecordId) :=
  DollState.metadataIds .checkpointValidation maxLinks metadata key

/-- `_required_string` of this module. -/
def required (metadata : Metadata) (key : String) : Result Text :=
  requiredString .checkpointValidation metadata key

def parseConfirmationState (value : Text) : Result ConfirmationState :=
  orFail (invalid "checkpoint confirmation state is invalid")
    (ofText? ConfirmationState.all ConfirmationState.text value)

/-- `_confirmed_by`. -/
def confirmedBy : Json → Result Bool
  | .null => .ok false
  | .str value =>
    if value = "user".toList then .ok true else .error (invalid "checkpoint confirmer is invalid")
  | _ => .error (invalid "checkpoint confirmer is invalid")

/-- `sorted(revisions.items())`: canonical identifiers sort as their numbers do. -/
def BasisRevisions.sort (revisions : BasisRevisions) : BasisRevisions :=
  revisions.mergeSort fun a b => a.1.toNat ≤ b.1.toNat

/-- The loop of `_basis_revisions`, `result` being the revisions read so far. -/
def basisRevisionsFrom (result : BasisRevisions) : List (Text × Int) → Result BasisRevisions
  | [] => .ok result
  | (rawId, rawRevision) :: rest => do
    let recordId ← uuidField .checkpointValidation "checkpoint basis record ID" rawId
    ensure (1 ≤ rawRevision) (invalid "checkpoint basis revision is invalid")
    ensure (recordId ∉ result.map Prod.fst) (invalid "checkpoint basis contains duplicate IDs")
    basisRevisionsFrom (result ++ [(recordId, rawRevision)]) rest

/-- `_basis_revisions`. -/
def basisRevisions (value : List (Text × Int)) : Result BasisRevisions := do
  ensure (value.length ≤ maxLinks) (invalid "checkpoint basis has too many records")
  let result ← basisRevisionsFrom [] value
  return result.sort

def metadataBasisRevisions (metadata : Metadata) : Result BasisRevisions :=
  match metadata.get "basis_record_revisions" with
  | .obj value => do
    let typed ← value.mapM fun entry => match entry.2 with
      | .int revision => Except.ok (entry.1.toList, revision)
      | _ => .error (invalid "checkpoint basis revision is invalid")
    basisRevisions typed
  | _ => .error (invalid "checkpoint basis revisions must be an object")

/-- `_FINGERPRINT_PATTERN.fullmatch`. -/
def isFingerprint (value : Text) : Bool :=
  "sha256:".toList.isPrefixOf value && (value.drop 7).length == 64 &&
    (value.drop 7).all fun c => ('0' ≤ c && c ≤ '9') || ('a' ≤ c && c ≤ 'f')

/-- `_fingerprint`. -/
def fingerprint (value : Option Text) : Result Unit :=
  ensure (∃ text ∈ value, isFingerprint text = true)
    (invalid "checkpoint basis fingerprint is invalid")

/-- `_require_disjoint_work_lists`. -/
def requireDisjointWorkLists (groups : List (List RecordId)) : Result Unit :=
  ensure (groups.Pairwise fun a b => ∀ id ∈ a, id ∉ b)
    (invalid "checkpoint work-item roles must be disjoint")

/-- The checks of the basis that a checkpoint about to be written and a stored one share. -/
def validateBasis (selfId : RecordId) (c : CheckpointContent) (contains duplicate : String) :
    Result Unit := do
  ensure (selfId ∉ c.automaticBasis ∧ selfId ∉ c.basisRecordIds) (invalid contains)
  ensure (∀ id ∈ c.automaticBasis, id ∉ c.basisRecordIds) (invalid duplicate)

/-- The revisions name exactly the basis. -/
def BasisRevisions.Cover (revisions : BasisRevisions) (basis : List RecordId) : Prop :=
  (∀ id ∈ revisions.map Prod.fst, id ∈ basis) ∧ ∀ id ∈ basis, id ∈ revisions.map Prod.fst

instance (revisions : BasisRevisions) (basis : List RecordId) :
    Decidable (revisions.Cover basis) := inferInstanceAs (Decidable (_ ∧ _))

def proposedWithBasis : DollError := invalid "proposed checkpoint contains confirmed basis metadata"

variable [ModuleRules]

/-- `_basis_fingerprint`. -/
def basisFingerprint (checkpointId : RecordId) (c : CheckpointContent)
    (revisions : BasisRevisions) : Text :=
  let payload : Json := .obj [("fingerprint_format_version", .int 1),
    ("checkpoint_id", .str (uuidText checkpointId)), ("project_id", .str (uuidText c.projectId)),
    ("as_of", .str c.asOf), ("summary", .str c.summary), ("current_phase", .str c.currentPhase),
    ("current_goal", .str c.currentGoal),
    ("active_work_item_ids", Json.ofIds c.activeWorkItemIds),
    ("next_work_item_ids", Json.ofIds c.nextWorkItemIds),
    ("blocked_work_item_ids", Json.ofIds c.blockedWorkItemIds),
    ("completed_milestone_ids", Json.ofIds c.completedMilestoneIds),
    ("required_validation_ids", Json.ofIds c.requiredValidationIds),
    ("basis_record_ids", Json.ofIds c.basisRecordIds),
    ("basis_record_revisions", revisions.payload)]
  "sha256:".toList ++ hexDigits 64 (ModuleRules.sha256 payload).toNat

/-! ## Reading a record -/

/-- `_checkpoint_from_record` up to the derivation of its freshness. -/
def readCheckpoint (record : RecordEnvelope) : Result CheckpointContent := do
  let metadata := record.metadata
  ensure (record.recordType = "project_checkpoint" ∧ record.schemaVersion = 1)
    (invalid "checkpoint envelope is unsupported")
  ensure ((record.status = .active ∨ record.status = .archived) ∧ 1 ≤ record.revision)
    (invalid "checkpoint envelope state is invalid")
  ensure (record.title = none) (invalid "checkpoint record must not use an envelope title")
  let projectId ← uuidField .checkpointValidation "checkpoint project ID"
    (← required metadata "project_id")
  let asOf ← utc "checkpoint as-of" (← required metadata "as_of")
  let summary ← words "checkpoint summary" (← required metadata "summary") maxSummaryLength
  let currentPhase ← words "checkpoint current phase" (← required metadata "current_phase")
    maxPhaseLength
  let currentGoal ← words "checkpoint current goal" (← required metadata "current_goal")
    maxGoalLength
  let activeWorkItemIds ← metadataIds metadata "active_work_item_ids"
  let nextWorkItemIds ← metadataIds metadata "next_work_item_ids"
  let blockedWorkItemIds ← metadataIds metadata "blocked_work_item_ids"
  let completedMilestoneIds ← metadataIds metadata "completed_milestone_ids"
  let requiredValidationIds ← metadataIds metadata "required_validation_ids"
  let basisRecordIds ← metadataIds metadata "basis_record_ids"
  requireDisjointWorkLists
    [activeWorkItemIds, nextWorkItemIds, blockedWorkItemIds, completedMilestoneIds]
  let confirmationState ← parseConfirmationState (← required metadata "confirmation_state")
  let confirmedByUser ← confirmedBy (metadata.get "confirmed_by")
  let basisRecordRevisions ← metadataBasisRevisions metadata
  let basisFingerprint ← match metadata.get "basis_fingerprint" with
    | .null => .ok none
    | .str value => .ok (some value)
    | _ => .error (invalid "checkpoint fingerprint is invalid")
  ensure (Json.eq (metadata.get "fingerprint_format_version") (.int 1) = true)
    (invalid "checkpoint fingerprint format is unsupported")
  let content : CheckpointContent :=
    { projectId, asOf, summary, currentPhase, currentGoal, activeWorkItemIds, nextWorkItemIds,
      blockedWorkItemIds, completedMilestoneIds, requiredValidationIds, basisRecordIds,
      basisRecordRevisions, basisFingerprint, confirmationState, confirmedByUser }
  validateBasis record.id content "checkpoint basis contains itself"
    "checkpoint basis contains duplicate roles"
  if confirmationState = .proposed then
    ensure (basisRecordRevisions = [] ∧ basisFingerprint = none ∧ confirmedByUser = false)
      proposedWithBasis
  else do
    ensure ((record.provenance = .userCreated ∨ record.provenance = .userConfirmed) ∧
        confirmedByUser = true)
      (invalid "confirmed checkpoint requires trusted user provenance")
    ensure (basisRecordRevisions.Cover content.basis)
      (invalid "checkpoint basis revisions do not match declared basis")
    fingerprint basisFingerprint
    ensure (basisFingerprint =
        some (Checkpoint.basisFingerprint record.id content basisRecordRevisions))
      (invalid "checkpoint basis fingerprint is inconsistent")
  return content

/-- What the reader catches. -/
def malformed : List ErrorKind := [.key, .value, .checkpointValidation]

/-- `_checkpoint_from_record` without a repository. -/
def checkpointFromRecord (record : RecordEnvelope) : Result CheckpointInfo :=
  catching (DollError.isA malformed)
      ⟨.checkpointCorrupt, "project checkpoint record is malformed"⟩ do
    let content ← readCheckpoint record
    return CheckpointInfo.ofRecord record content none

/-! ## Links -/

/-- `_validate_project_link`. -/
def validateProjectLink (projectId : RecordId) : Reader Unit :=
  ReadProgram.catching (DollError.isA [.key, .projectDecisionCorrupt, .checkpointValidation])
      (invalid "checkpoint requires a valid active project") do
    let record ← getRecord projectId
    ensure (record.recordType = "project" ∧ record.status = .active)
      (invalid "checkpoint project link is invalid")
    let _ ← Project.projectFromRecordLive record

/-- `_active_work_item`. -/
def activeWorkItem (recordId : RecordId) : Reader WorkItem.WorkItemInfo :=
  ReadProgram.catching (DollError.isA [.key, .workItemCorrupt, .checkpointValidation])
      (invalid "checkpoint work-item link is invalid") do
    let record ← getRecord recordId
    ensure (record.recordType = "work_item" ∧ record.status = .active)
      (invalid "checkpoint work-item link is invalid")
    WorkItem.workItemFromRecord record

/-- The body of the loop of `_validate_work_item_lists`. -/
def validateRole (projectId : RecordId) (status : WorkItem.WorkItemStatus)
    (expectedKind : Option WorkItem.WorkItemKind) (recordId : RecordId) : Reader Unit := do
  let item ← activeWorkItem recordId
  ensure (item.content.projectId = projectId)
    (invalid "checkpoint work-item link crosses project scope")
  ensure (item.content.workStatus = status)
    (invalid "checkpoint work-item link has the wrong domain state")
  ensure (∀ kind ∈ expectedKind, item.content.kind = kind)
    (invalid "completed milestone link is not a milestone")

/-- `_validate_work_item_lists`. -/
def validateWorkItemLists (c : CheckpointContent) : Reader Unit := do
  ReadProgram.forEach (validateRole c.projectId .inProgress none) c.activeWorkItemIds
  ReadProgram.forEach (validateRole c.projectId .ready none) c.nextWorkItemIds
  ReadProgram.forEach (validateRole c.projectId .blocked none) c.blockedWorkItemIds
  ReadProgram.forEach (validateRole c.projectId .completed (some .milestone))
    c.completedMilestoneIds

def validateBasisLink (recordId : RecordId) : Reader Unit := do
  let record ← ReadProgram.catching (DollError.isA [.key])
    (invalid "checkpoint basis link is missing") (getRecord recordId)
  ensure (record.status = .active ∧ record.sensitivity ≠ .secret)
    (invalid "checkpoint basis link is not portable")

/-- `_validate_live_links`; its last part is `_validate_generic_basis_links`. -/
def validateLiveLinks (c : CheckpointContent) : Reader Unit := do
  validateProjectLink c.projectId
  validateWorkItemLists c
  ReadProgram.forEach validateBasisLink (c.requiredValidationIds ++ c.basisRecordIds)

/-- The loop of `_derive_freshness`: every basis record is at its revision. -/
def basisUnchanged : BasisRevisions → Reader Bool
  | [] => pure true
  | (recordId, expectedRevision) :: rest => do
    let record ← getRecord recordId
    if record.revision = expectedRevision then basisUnchanged rest else pure false

/-- Run a program that may fail with the kinds `kinds`, and return whether it did not. -/
def succeeds (kinds : List ErrorKind) : Reader Bool → Reader Bool
  | .done (.ok b) => .done (.ok b)
  | .done (.error e) => if e.isA kinds then .done (.ok false) else .done (.error e)
  | .ask q k => .ask q fun a => succeeds kinds (k a)

/-- `_derive_freshness`. -/
def deriveFreshness (c : CheckpointContent) : Reader (Option CheckpointFreshness) :=
  match c.confirmationState with
  | .proposed => pure none
  | .superseded => pure (some .superseded)
  | .confirmed => do
    let current ← succeeds [.key, .checkpointValidation] do
      let unchanged ← basisUnchanged c.basisRecordRevisions
      if unchanged then do
        validateLiveLinks c
        return true
      else return false
    return some (if current then .current else .stale)

/-- `_checkpoint_from_record` with a repository. -/
def checkpointFromRecordLive (record : RecordEnvelope) : Reader CheckpointInfo :=
  ReadProgram.catching (DollError.isA malformed)
      ⟨.checkpointCorrupt, "project checkpoint record is malformed"⟩ do
    let content ← readCheckpoint record
    let freshness ← deriveFreshness content
    return CheckpointInfo.ofRecord record content freshness

end

end DollState.Checkpoint
