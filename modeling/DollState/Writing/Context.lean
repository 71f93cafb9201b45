import DollState.Confirmation.SingleUse
import DollState.Domain.ProjectStatus
import DollState.Instruction.Written
import DollState.Memory.Records

/-!
# Selected writing context

The model of `SelectedWritingContextService`. `plan` reads the selected memories, projects and decisions and
writes each as one line of JSON; `materialize` then records the texts as instruction origins, one transaction
after the other. The planner counts the characters of all texts together, and the writer of an origin has rules
of its own for each of them.
-/

namespace DollState.Writing

open StateLib Instruction
open Capability (DigestLibrary)

/-! ## Plans -/

inductive ContextKind where
  | memory | project | decision
deriving DecidableEq, Repr

def ContextKind.text : ContextKind → Text
  | .memory => "memory".toList
  | .project => "project".toList
  | .decision => "decision".toList

def maxSelectedMemories : ℕ := 8
def maxSelectedProjects : ℕ := 4
def maxSelectedDecisions : ℕ := 8
def maxSelectedContextItems : ℕ := 10
def maxSelectedContextChars : ℕ := 24000

/-- `_SENSITIVITY_RANK`. -/
def sensitivityRank : RecordSensitivity → ℕ
  | .public => 0
  | .internal => 1
  | .personal => 2
  | .sensitive => 3
  | .secret => 4

/-- An error of the planner: one that it raises itself, or one of a service that it does not catch. -/
inductive ContextError where
  | validation (message : String)
  | other (e : DollError)
deriving DecidableEq, Repr

/-- `SelectedWritingContextSnapshot`. -/
structure Snapshot where
  kind : ContextKind
  recordId : RecordId
  revision : Int
  content : Text
  sensitivity : RecordSensitivity

/-- `SelectedWritingContextPlan`. -/
structure Plan where
  snapshots : List Snapshot
  memoryIds : List Text
  projectIds : List Text
  decisionIds : List Text
  memoryRevisions : List Int
  projectRevisions : List Int
  decisionRevisions : List Int
  characterCount : ℕ
  requiredSensitivity : RecordSensitivity

/-- `SelectedWritingContextResult`. -/
structure ContextResult where
  instructionIds : List RecordId
  memoryIds : List Text
  projectIds : List Text
  decisionIds : List Text
  memoryRevisions : List Int
  projectRevisions : List Int
  decisionRevisions : List Int
  characterCount : ℕ
  requiredSensitivity : RecordSensitivity

/-- `_selected_ids`. -/
def selectedIds (label : String) (values : List Text) (maximum : ℕ) : Except ContextError (List Text) := do
  ensure (∀ value ∈ values, strip value ≠ []) (.validation s!"{label} contain an invalid value")
  ensure (values.length ≤ maximum) (.validation s!"{label} exceed the configured selection limit")
  ensure values.Nodup (.validation s!"{label} contain duplicates")
  return values

/-- `except (KeyError, …): raise SelectedWritingContextValidationError(message)`. -/
def orUnavailable {α : Type} (caught : List ErrorKind) (message : String) : Result α → Except ContextError α
  | .ok a => .ok a
  | .error e => .error (if DollError.isA caught e then .validation message else .other e)

/-- `_maximum_sensitivity`. -/
def maximumSensitivity : List RecordSensitivity → RecordSensitivity
  | [] => .public
  | value :: values => values.foldl (fun best value =>
      if sensitivityRank best < sensitivityRank value then value else best) value

section

variable [PythonLibrary] [ModuleRules]

/-- `_memory`. -/
def selectedMemory (db : Database) (recordId : Text) : Except ContextError Memory.ConfirmedMemoryInfo := do
  let memory ← orUnavailable [.key, .memoryValidation, .forbiddenMemoryMutation, .memoryCorrupt]
    "selected confirmed memory is unavailable" ((Memory.get recordId).on db)
  ensure (memory.status = .active) (.validation "selected confirmed memory is not active")
  ensure (memory.sensitivity ≠ .secret) (.validation "secret confirmed memory cannot enter writing context")
  return memory

/-- The subclasses of `ProjectDecisionError`, and `KeyError`. -/
def projectDecisionKinds : List ErrorKind :=
  [.key, .projectDecisionValidation, .forbiddenAuthorityMutation, .projectDecisionCorrupt]

/-- `_project`. -/
def selectedProject (db : Database) (recordId : Text) : Except ContextError Project.ProjectInfo := do
  let project ← orUnavailable projectDecisionKinds "selected project is unavailable"
    ((Project.get recordId).on db)
  ensure (project.lifecycleStatus = .active) (.validation "selected project is not active")
  ensure (project.sensitivity ≠ .secret) (.validation "secret project cannot enter writing context")
  return project

/-- `_decision`. -/
def selectedDecision (db : Database) (recordId : Text) : Except ContextError Project.DecisionInfo := do
  let decision ← orUnavailable projectDecisionKinds "selected decision is unavailable"
    ((Project.getDecision recordId).on db)
  ensure (decision.lifecycleStatus = .active) (.validation "selected decision is not active")
  ensure (decision.sensitivity ≠ .secret) (.validation "secret decision cannot enter writing context")
  return decision

variable [FloatLibrary]

/-- `_memory_snapshot`. -/
def memorySnapshot (memory : Memory.ConfirmedMemoryInfo) : Snapshot where
  kind := .memory
  recordId := memory.recordId
  revision := memory.revision
  content := canonicalJson (.obj [
    ("context_kind", .str "confirmed_memory".toList), ("record_id", .str (uuidText memory.recordId)),
    ("revision", .int memory.revision), ("subject", .str memory.subject), ("content", .str memory.content),
    ("valid_from", Json.ofText? memory.validFrom), ("valid_until", Json.ofText? memory.validUntil),
    ("confidence", memory.confidence)])
  sensitivity := memory.sensitivity

/-- `_project_snapshot`. -/
def projectSnapshot (project : Project.ProjectInfo) : Snapshot where
  kind := .project
  recordId := project.projectId
  revision := project.revision
  content := canonicalJson (.obj ([
    ("context_kind", .str "project".toList), ("record_id", .str (uuidText project.projectId)),
    ("revision", .int project.revision), ("schema_version", .int project.schemaVersion),
    ("name", .str project.content.name), ("description", .str project.content.description),
    ("project_status", .str project.content.projectStatus.text),
    ("started_at", .str project.content.startedAt), ("ended_at", Json.ofText? project.content.endedAt)] ++
    match project.content.charter with
    | none => []
    | some charter => [
      ("objective", .str charter.objective), ("in_scope", .arr (charter.inScope.map .str)),
      ("out_of_scope", .arr (charter.outOfScope.map .str)),
      ("success_criteria", .arr (charter.successCriteria.map .str))]))
  sensitivity := project.sensitivity

/-- `_decision_snapshot`. -/
def decisionSnapshot (decision : Project.DecisionInfo) : Snapshot where
  kind := .decision
  recordId := decision.decisionId
  revision := decision.revision
  content := canonicalJson (.obj [
    ("context_kind", .str "decision".toList), ("record_id", .str (uuidText decision.decisionId)),
    ("revision", .int decision.revision), ("decision", .str decision.content.decision),
    ("reason", .str decision.content.reason),
    ("decision_status", .str decision.content.decisionStatus.text),
    ("decided_at", .str decision.content.decidedAt),
    ("alternatives", .arr (decision.content.alternatives.map .str)),
    ("constraints", .arr (decision.content.constraints.map .str)),
    ("review_after", Json.ofText? decision.content.reviewAfter),
    ("supersedes_id", Json.ofText? (decision.content.supersedesId.map uuidText)),
    ("project_id", Json.ofText? (decision.content.projectId.map uuidText))])
  sensitivity := decision.sensitivity

/-- `SelectedWritingContextService.plan`. -/
def plan (db : Database) (memoryIds projectIds decisionIds : List Text) : Except ContextError Plan := do
  let safeMemoryIds ← selectedIds "memory IDs" memoryIds maxSelectedMemories
  let safeProjectIds ← selectedIds "project IDs" projectIds maxSelectedProjects
  let safeDecisionIds ← selectedIds "decision IDs" decisionIds maxSelectedDecisions
  ensure (safeMemoryIds.length + safeProjectIds.length + safeDecisionIds.length ≤ maxSelectedContextItems)
    (.validation "selected writing context exceeds the configured item limit")
  let memories ← safeMemoryIds.mapM (selectedMemory db)
  let projects ← safeProjectIds.mapM (selectedProject db)
  let decisions ← safeDecisionIds.mapM (selectedDecision db)
  let snapshots := memories.map memorySnapshot ++ projects.map projectSnapshot ++
    decisions.map decisionSnapshot
  let characterCount := (snapshots.map fun snapshot => snapshot.content.length).sum
  ensure (characterCount ≤ maxSelectedContextChars)
    (.validation "selected writing context exceeds the configured character limit")
  return {
    snapshots, memoryIds := safeMemoryIds, projectIds := safeProjectIds, decisionIds := safeDecisionIds,
    memoryRevisions := memories.map (·.revision), projectRevisions := projects.map (·.revision),
    decisionRevisions := decisions.map (·.revision), characterCount,
    requiredSensitivity := maximumSensitivity (snapshots.map (·.sensitivity)) }

end

/-! ## Recording a plan -/

section

variable [DigestLibrary]

/-- `_sha256_text`. -/
def sha256Text (value : Text) : Text := "sha256:".toList ++ DigestLibrary.sha256Hex value

/-- `_context_operation_id`. -/
def contextOperationId (operation : Text) (snapshot : Snapshot) : Text :=
  "imp065.context.".toList ++ snapshot.kind.text ++ ['.'] ++
    (DigestLibrary.sha256Hex (operation ++ '\x00' :: snapshot.kind.text ++ '\x00' :: uuidText snapshot.recordId ++
      '\x00' :: (toString snapshot.revision).toList)).take 32

/-- An instruction origin of the database names the operation as its parent. -/
def isPrepared (db : Database) (operationId : Text) : Bool :=
  db.answer (.usedMetadata [("instruction_origin", "parent_operation_id")] operationId)

/-- `require_unused`. -/
def requireUnused (operation : Text) (plan : Plan) (db : Database) : Except ContextError Unit :=
  forEach (fun snapshot => ensure (isPrepared db (contextOperationId operation snapshot) = false)
    (.validation "selected writing context preparation already exists")) plan.snapshots

def contextTitle : ContextKind → Text
  | .memory => "Selected confirmed-memory context".toList
  | .project => "Selected project context".toList
  | .decision => "Selected decision context".toList

/-- The source that `materialize` gives for a snapshot. -/
def contextSource (conversationId operation : Text) (snapshot : Snapshot) : InstructionSource (List Json) where
  originClass := .externalContent
  actorType := .retriever
  acquisitionMethod := .retrieval
  sourceIdentifier := some (snapshot.kind.text ++ ':' :: uuidText snapshot.recordId ++ ":revision:".toList ++
    (toString snapshot.revision).toList)
  parentOperationId := some (contextOperationId operation snapshot)
  sessionId := some conversationId
  contentHash := some (sha256Text snapshot.content)
  transformations := []

variable [PythonLibrary] [CaseLibrary] [UtcLibrary] [Audit.AuditRules] [ModuleRules]

/-- One step of the loop of `materialize`. -/
def createSnapshot (env : Surroundings) (conversationId operation : Text) (snapshot : Snapshot) :
    Attempt Database DollError InstructionOriginInfo := do
  let source ← validateSource (contextSource conversationId operation snapshot)
  create env (contextTitle snapshot.kind) snapshot.content source (some (contextOperationId operation snapshot))
    snapshot.sensitivity

/-- The loop of `materialize`; the calls of `create` draw on the surroundings in turn. -/
def createSnapshots (env : ℕ → Surroundings) (conversationId operation : Text) :
    List Snapshot → Attempt Database DollError (List RecordId)
  | [] => pure []
  | snapshot :: snapshots => do
    let origin ← createSnapshot (env 0) conversationId operation snapshot
    let ids ← createSnapshots (fun n => env (n + 1)) conversationId operation snapshots
    return origin.recordId :: ids

/-- `materialize`. -/
def materialize (env : ℕ → Surroundings) (conversationId operation : Text) (plan : Plan) :
    Attempt Database DollError ContextResult := do
  let instructionIds ← createSnapshots env conversationId operation plan.snapshots
  return {
    instructionIds, memoryIds := plan.memoryIds, projectIds := plan.projectIds,
    decisionIds := plan.decisionIds, memoryRevisions := plan.memoryRevisions,
    projectRevisions := plan.projectRevisions, decisionRevisions := plan.decisionRevisions,
    characterCount := plan.characterCount, requiredSensitivity := plan.requiredSensitivity }

end

end DollState.Writing
