import DollState.Domain.Experience
import DollState.Domain.ProjectStatus

/-!
# Resume Bundles

The model of `ResumeBundleService`. A bundle is made of the status of a project and of the records
that the status names, each of them read once more by its service, of what is known about the
records these link to, and of a revision of the state that is read last. What becomes of all this
afterwards, its JSON texts, its checksums, the archive and its verification, depends on it alone.
-/

namespace DollState.Resume

open StateLib

/-- `ResumeBundleValidationError(message)`. -/
def invalid (message : String) : DollError := ⟨.resumeBundleValidation, message⟩

/-- What a reference takes of an artifact. -/
structure ArtifactInfo where
  artifactId : RecordId
  title : Text
  managedPath : Text
  contentHash : Text
  sizeBytes : Int
  format : Option Text
  mediaType : Option Text
deriving DecidableEq

/-- An entry of `artifact-references.jsonl` or `source-references.jsonl`. -/
inductive Reference where
  /-- `_missing_reference` -/
  | missing (recordId : RecordId) (expectedType : String)
  /-- `_unavailable_reference` -/
  | unavailable (recordId : RecordId) (recordType : String) (title : Option Text)
      (status : RecordStatus) (revision : Int) (reason : String)
  | artifact (info : ArtifactInfo)
  | source (recordId : RecordId) (recordType : String) (title : Option Text)
      (status : RecordStatus) (revision : Int)
deriving DecidableEq

/-- The contents of a bundle. -/
structure ResumeBundle where
  workspaceId : RecordId
  stateRevision : Nat
  project : Project.ProjectInfo
  latestCheckpoint : Option Status.StatusCheckpoint
  active : List WorkItem.WorkItemInfo
  ready : List WorkItem.WorkItemInfo
  blocked : List WorkItem.WorkItemInfo
  decisions : List Project.DecisionInfo
  procedures : List Procedure.ProcedureInfo
  policies : List Settings.PolicyInfo
  pendingRequiredValidation : List Status.PendingValidation
  artifactReferences : List Reference
  sourceReferences : List Reference
  omittedRecordCounts : Status.OmittedCounts
  artifactOmissions : Nat
  sourceOmissions : Nat
  projectExperienceOmissions : Nat
  handoff : Text

/-- The parts of the export that the contents of a bundle decide. -/
class BundleRules where
  /-- `_artifact_from_record`. -/
  artifactFromRecord : RecordEnvelope → Result ArtifactInfo
  /-- The JSON texts of the contents, `_validate_shareable_members`, the archive, its verification
  and its place: the error that is raised, if one is. -/
  publicationError : ResumeBundle → Option DollError

/-! ## The handoff -/

/-- The text, or what stands for none. -/
def orElse (text : Option Text) (default : String) : Text :=
  match text with
  | some (c :: cs) => c :: cs
  | _ => default.toList

/-- The lines, or the line that stands for none. -/
def orNone (lines : List Text) : List Text := if lines = [] then ["- none".toList] else lines

/-- `_handoff_work`. -/
def handoffWork (items : List Status.StatusWorkItem) : List Text :=
  orNone (items.map fun item => "- ".toList ++ item.title)

def freshnessText : Checkpoint.CheckpointFreshness → Text
  | .current => "current".toList
  | .stale => "stale".toList
  | .superseded => "superseded".toList

/-- `_handoff`. -/
def handoff (status : Status.ProjectStatusInfo) : Text :=
  ['\n', '\n'].intercalate <|
    ["# Project Resume Handoff".toList, [],
      ("> This file is generated and non-authoritative. Machine-readable files " ++
        "in this bundle are derived from Doll authoritative records.").toList,
      "## Objective\n\n".toList ++ orElse status.objective "[not recorded]",
      "## Current phase\n\n".toList ++ orElse status.currentPhase "[no confirmed checkpoint]",
      "## Current goal\n\n".toList ++ orElse status.currentGoal "[no confirmed checkpoint]"] ++
    "## Active work".toList :: handoffWork status.activeWork ++
    "## Next work".toList :: handoffWork status.nextReadyWork ++
    "## Blockers".toList :: handoffWork status.blockedWork ++
    "## Important decisions".toList ::
      orNone (status.governingDecisions.map fun item => "- ".toList ++ item.decision) ++
    "## Applicable procedures".toList ::
      orNone (status.approvedProcedures.map fun item => "- ".toList ++ item.title ++
        " (version ".toList ++ (toString item.version).toList ++ [')']) ++
    "## Governing policies and prohibitions".toList ::
      orNone (status.governingPolicies.map fun item =>
        "- ".toList ++ item.key ++ ": ".toList ++ item.rule) ++
    "## Pending validation".toList ::
      orNone (status.pendingRequiredValidation.map fun item =>
        "- ".toList ++ item.title ++ ": ".toList ++
          ", ".toList.intercalate item.blockingCriterionIds) ++
    ["## Checkpoint freshness".toList,
      match status.latestCheckpoint with
      | some checkpoint =>
        "- ".toList ++ orElse (checkpoint.freshness.map freshnessText) "unknown"
      | none => "- no confirmed checkpoint".toList,
      "## Machine-readable files".toList,
      "- Start with manifest.json and verify checksums.json.".toList,
      ("- Project, checkpoint, work, decisions, procedures, policies, validation, " ++
        "artifact references, and source references are separate files.").toList,
      "- Artifact and external source content is not included in bundle v1.".toList, []]

/-! ## References -/

/-- The parts of `PurePosixPath(value)` but for its root. -/
def pathParts (value : Text) : List Text :=
  (value.splitOn '/').filter fun part => part ≠ [] ∧ part ≠ ['.']

/-- The managed path is absolute, empty, leads upwards or names a drive. -/
def isUnsafePath (path : Text) : Bool :=
  path.head? = some '/' || (pathParts path).contains ['.', '.'] ||
    match pathParts path with
    | [] => true
    | part :: _ => part.contains ':'

/-- The identifiers of a set, in their order. -/
def sortedIds (ids : List RecordId) : List RecordId :=
  ids.dedup.insertionSort fun a b => a.toNat ≤ b.toNat

/-- The references and the number of records that are omitted. -/
def tally (entries : List (Option Reference)) : List Reference × Nat :=
  (entries.filterMap id, (entries.filter Option.isNone).length)

section

variable [PythonLibrary] [ModuleRules] [Status.FoldLibrary] [BundleRules]

/-- The body of the loop of `_artifact_references`; a secret record is omitted. -/
def artifactReference (recordId : RecordId) : Reader (Option Reference) := do
  match ← selectRecord recordId with
  | none => return some (.missing recordId "artifact")
  | some record =>
    if record.recordType ≠ "artifact" then
      return some (.unavailable record.id record.recordType record.title record.status
        record.revision "wrong_record_type")
    else if record.sensitivity = .secret then return none
    else do
      let artifact ← BundleRules.artifactFromRecord record
      ensure (isUnsafePath artifact.managedPath = false)
        (invalid "artifact reference path is unsafe")
      return some (.artifact artifact)

/-- The body of the loop of `_source_references`. -/
def sourceReference (recordId : RecordId) : Reader (Option Reference) := do
  match ← selectRecord recordId with
  | none => return some (.missing recordId "source")
  | some record =>
    if record.sensitivity = .secret then return none
    else return some (.source record.id record.recordType record.title record.status
      record.revision)

/-- `_project_experience_omissions`. -/
def projectExperienceOmissions (projectId : RecordId) : Reader Nat := do
  let ids ← publicIds "project_experience"
  let experiences ← ReadProgram.collect (fun id => Experience.get (uuidText id)) ids
  return (experiences.filter fun item => item.content.projectId = projectId).length

/-- What `_members` reads, in its order. -/
def members (workspaceId : RecordId) (projectId : Text) : Reader ResumeBundle := do
  let status ← Status.build projectId
  let project ← Project.get (uuidText status.projectId)
  let work := ReadProgram.collect fun item : Status.StatusWorkItem =>
    WorkItem.get (uuidText item.workItemId)
  let active ← work status.activeWork
  let ready ← work status.nextReadyWork
  let blocked ← work status.blockedWork
  let decisions ← ReadProgram.collect (fun item => Project.getDecision (uuidText item.decisionId))
    status.governingDecisions
  let procedures ← ReadProgram.collect (fun item => Procedure.get (uuidText item.procedureId))
    status.approvedProcedures
  let policies ← ReadProgram.collect (fun item => Settings.Policy.get (uuidText item.policyId))
    status.governingPolicies
  let items := active ++ ready ++ blocked
  let artifactIds := project.content.artifactIds ++ items.flatMap (·.content.artifactIds) ++
    decisions.flatMap (·.content.artifactIds)
  let sourceIds := project.content.memoryIds ++ items.flatMap (·.content.sourceIds) ++
    decisions.flatMap (·.content.memoryIds) ++ procedures.flatMap (·.content.sourceIds)
  let artifactEntries ← ReadProgram.collect artifactReference (sortedIds artifactIds)
  let sourceEntries ← ReadProgram.collect sourceReference (sortedIds sourceIds)
  let projectExperienceOmissions ← projectExperienceOmissions status.projectId
  let stateRevision ← selectStateRevision
  return {
    workspaceId, stateRevision, project, active, ready, blocked, decisions, procedures, policies
    latestCheckpoint := status.latestCheckpoint
    pendingRequiredValidation := status.pendingRequiredValidation
    artifactReferences := (tally artifactEntries).1
    sourceReferences := (tally sourceEntries).1
    omittedRecordCounts := status.omittedRecordCounts
    artifactOmissions := (tally artifactEntries).2
    sourceOmissions := (tally sourceEntries).2
    projectExperienceOmissions
    handoff := handoff status }

/-- `ResumeBundleService.export`; `output` is what the checks of the output path come to. -/
def exportBundle (readOnly : Bool) (output : Result Unit) (workspaceId : RecordId)
    (projectId : Text) : Reader ResumeBundle := do
  ensure (readOnly = true) (invalid "Resume Bundle export requires a read-only repository")
  output
  let bundle ← members workspaceId projectId
  match BundleRules.publicationError bundle with
  | some e => .done (.error e)
  | none => return bundle

end

end DollState.Resume
