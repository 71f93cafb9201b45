import DollState.Domain.Experience

/-!
# The project-experience service

The writing calls of `ProjectExperienceService`. A recorded event is never written again: a correction
records another one, which names the event that it takes the place of. What a call writes is read back
as the content that it validated (`readExperience_of_encodes`).
-/

namespace DollState.Experience

open StateLib

def maxListLimit : Int := 500

/-! ## The values a caller gives -/

inductive ExperienceActor where
  | user | system | importer | model
deriving DecidableEq, Repr

/-- `_ASSERTION_ACTORS`. -/
def AssertionState.actor : AssertionState → ExperienceActor
  | .userRecorded => .user
  | .userConfirmed => .user
  | .deterministicSystem => .system
  | .importedExternal => .importer
  | .modelProposed => .model

/-- The arguments of `record`. -/
structure ExperienceValues where
  projectId : Text
  eventKind : Text
  summary : Text
  occurredAt : Text
  assertionState : Text
  actorType : ExperienceActor
  outcome : Option Text
  workItemId : Option Text
  relatedRecordIds : List Text
  evidenceIds : List Text
  sourceIds : List Text
  supersedesId : Option Text
  sensitivity : RecordSensitivity

/-- The arguments of `correct` besides the event to correct. -/
structure CorrectionValues where
  summary : Text
  occurredAt : Text
  assertionState : Text
  actorType : ExperienceActor
  eventKind : Option Text
  outcome : Option Text
  relatedRecordIds : List Text
  evidenceIds : List Text
  sourceIds : List Text
  sensitivity : Option RecordSensitivity

/-- The metadata an event is written as. -/
def ExperienceContent.metadata (c : ExperienceContent) : Metadata :=
  [("project_id", .str (uuidText c.projectId)),
    ("work_item_id", Json.ofText? (c.workItemId.map uuidText)),
    ("event_kind", .str c.eventKind.text), ("summary", .str c.summary),
    ("outcome", Json.ofText? (c.outcome.map Outcome.text)), ("occurred_at", .str c.occurredAt),
    ("assertion_state", .str c.assertionState.text),
    ("related_record_ids", Json.ofIds c.relatedRecordIds), ("evidence_ids", Json.ofIds c.evidenceIds),
    ("source_ids", Json.ofIds c.sourceIds),
    ("supersedes_id", Json.ofText? (c.supersedesId.map uuidText))]

section

variable [PythonLibrary]

/-- `_ids`. -/
def ids (name : String) (values : List Text) : Result (List RecordId) := do
  ensure (values.length ≤ maxLinks) (invalid s!"{name} exceeds {maxLinks} entries")
  distinctFrom (uuidOf name) (invalid s!"{name} contains duplicates") [] values

/-- `_validated_values` up to its link checks. -/
def checkedValues (v : ExperienceValues) : Result ExperienceContent := do
  let projectId ← uuidOf "project experience project ID" v.projectId
  let workItemId ← optionally (uuidOf "project experience work-item ID") v.workItemId
  let eventKind ← parseEventKind v.eventKind
  let summary ← text "project experience summary" v.summary maxSummaryLength
  let outcome ← optionally parseOutcome v.outcome
  let occurredAt ← utc "project experience occurred-at" v.occurredAt
  let assertionState ← parseAssertionState v.assertionState
  let relatedRecordIds ← ids "related record IDs" v.relatedRecordIds
  let evidenceIds ← ids "evidence IDs" v.evidenceIds
  let sourceIds ← ids "source IDs" v.sourceIds
  let supersedesId ← optionally (uuidOf "supersedes experience ID") v.supersedesId
  ensure (v.sensitivity ≠ .secret)
    (invalid "secret project experience content must use the existing SecretReference boundary")
  ensure (¬ (eventKind = .outcome ∧ outcome = none)) (invalid "outcome events require an outcome value")
  return { projectId, workItemId, eventKind, summary, outcome, occurredAt, assertionState,
           relatedRecordIds, evidenceIds, sourceIds, supersedesId }

/-- `_title_for_summary`. -/
def titleForSummary (summary : Text) : Text := ((splitLines [] summary).headD []).take 240

variable [ModuleRules]

/-- The link checks of an event that is about to be recorded. -/
def validateNewLinks (sensitivity : RecordSensitivity) (c : ExperienceContent) : Reader Unit := do
  validateProject sensitivity c.projectId
  ReadProgram.forEach (validateWorkItem c.projectId sensitivity) c.workItemId.toList
  ReadProgram.forEach (validateEvidence sensitivity) c.evidenceIds
  ReadProgram.forEach (validateGenericLink "related record" sensitivity) c.relatedRecordIds
  ReadProgram.forEach (validateGenericLink "source" sensitivity) c.sourceIds
  ReadProgram.forEach (validateSupersedes c.projectId sensitivity) c.supersedesId.toList

/-! ## The service -/

/-- `record` up to the transaction of `create_record`. -/
def record (env : Surroundings) (v : ExperienceValues) : Reader Write := do
  let assertionState ← parseAssertionState v.assertionState
  ensure (v.actorType = assertionState.actor)
    (invalid "project experience assertion state does not match the producing actor")
  let content ← checkedValues v
  validateNewLinks v.sensitivity content
  let row ← prepareCreateRecord env
    { recordType := "project_experience", schemaVersion := 1, status := .active,
      provenance := assertionState.provenance, sensitivity := v.sensitivity,
      title := some (titleForSummary content.summary), metadata := content.metadata,
      recordId := none }
  return .insert row

/-- The event that takes the place of another. -/
def ExperienceInfo.corrected (prior : ExperienceInfo) (v : CorrectionValues) : ExperienceValues where
  projectId := uuidText prior.content.projectId
  eventKind := match v.eventKind with
    | none | some [] => prior.content.eventKind.text
    | some kind => kind
  summary := v.summary
  occurredAt := v.occurredAt
  assertionState := v.assertionState
  actorType := v.actorType
  outcome := v.outcome.or (prior.content.outcome.map Outcome.text)
  workItemId := prior.content.workItemId.map uuidText
  relatedRecordIds := v.relatedRecordIds
  evidenceIds := v.evidenceIds
  sourceIds := v.sourceIds
  supersedesId := some (uuidText prior.experienceId)
  sensitivity := v.sensitivity.getD prior.sensitivity

/-- `correct` up to the transaction of `create_record`. -/
def correct (env : Surroundings) (experienceId : Text) (v : CorrectionValues) : Reader Write := do
  let prior ← get experienceId
  record env (prior.corrected v)

/-- A writing call of `ProjectExperienceService`. -/
inductive Call where
  | record (v : ExperienceValues)
  | correct (experienceId : Text) (v : CorrectionValues)

/-- The call up to its transaction. -/
def Call.prepare (env : Surroundings) : Call → Reader Write
  | .record v => Experience.record env v
  | .correct experienceId v => Experience.correct env experienceId v

/-- The loop of `list`, over the identifiers that are left. -/
def listFrom (projectId : Option RecordId) (includeArchived : Bool) (limit : Nat) :
    List ExperienceInfo → List RecordId → Reader (List ExperienceInfo)
  | result, [] => pure result
  | result, id :: rest => do
    let item ← get (uuidText id)
    if (!includeArchived && item.lifecycleStatus ≠ .active) ||
        projectId.any (item.content.projectId ≠ ·) then
      listFrom projectId includeArchived limit result rest
    else if limit ≤ (result ++ [item]).length then pure (result ++ [item])
    else listFrom projectId includeArchived limit (result ++ [item]) rest

def list (projectId : Option Text) (includeArchived : Bool) (limit : Int) :
    Reader (List ExperienceInfo) := do
  ensure (1 ≤ limit ∧ limit ≤ maxListLimit) (invalid "project-experience list limit is invalid")
  let safeProjectId ← optionally (uuidOf "project ID") projectId
  let experienceIds ← ReadProgram.read (StateQuery.createdIds "project_experience")
  listFrom safeProjectId includeArchived limit.toNat [] experienceIds

end

/-! ## Records that encode an event -/

section

variable [PythonLibrary]

/-- A text that `_text` returns. -/
structure TextOk (text : Text) : Prop where
  joined : joinLines text = text
  ne_nil : text ≠ []
  length : text.length ≤ maxSummaryLength
  control : hasControlCharacter text = false
  path : hasLocalPath text = false

theorem text_ok {name : String} {value summary : Text}
    (h : text name value maxSummaryLength = .ok summary) : TextOk summary := by
  simp only [text, check_bind_eq_ok, ensure_eq_ok, pure_eq_ok] at h
  obtain ⟨⟨hne, hlength⟩, hcontrol, hpath, rfl⟩ := h
  exact ⟨joinLines_joinLines value, hne, hlength, hcontrol, hpath⟩

theorem text_idem {name : String} {summary : Text} (h : TextOk summary) :
    text name summary maxSummaryLength = .ok summary := by
  simp only [text, h.joined]
  rw [ensure_of ⟨h.ne_nil, h.length⟩, ok_bind, ensure_of h.control, ok_bind, ensure_of h.path]
  rfl

/-- What an event has to satisfy by itself. -/
structure ExperienceContent.Ok (c : ExperienceContent) : Prop where
  summary : TextOk c.summary
  occurredAt : IsUtc c.occurredAt
  outcome : ¬ (c.eventKind = .outcome ∧ c.outcome = none)
  relatedRecordIds : IdsOk maxLinks c.relatedRecordIds
  evidenceIds : IdsOk maxLinks c.evidenceIds
  sourceIds : IdsOk maxLinks c.sourceIds

/-- The record is an event as the service writes it, of the content `c`. -/
structure Encodes (r : RecordEnvelope) (c : ExperienceContent) : Prop where
  recordType : r.recordType = "project_experience"
  schemaVersion : r.schemaVersion = 1
  status : r.status = .active
  revision : r.revision = 1
  provenance : r.provenance = c.assertionState.provenance
  metadata : r.metadata = c.metadata
  ok : c.Ok

theorem ids_ok {name : String} {values : List Text} {result : List RecordId}
    (h : ids name values = .ok result) : IdsOk maxLinks result := by
  rw [ids, check_bind_eq_ok, ensure_eq_ok] at h
  obtain ⟨hnodup, hlength⟩ := distinctFrom_nodup List.nodup_nil h.2
  refine ⟨hnodup, ?_⟩
  rw [hlength, List.length_nil, Nat.zero_add]
  exact h.1

theorem checkedValues_ok {v : ExperienceValues} {c : ExperienceContent}
    (h : checkedValues v = .ok c) : c.Ok ∧ v.sensitivity ≠ .secret ∧
      parseAssertionState v.assertionState = .ok c.assertionState := by
  obtain ⟨projectId, -, h⟩ := bind_eq_ok.1 h
  obtain ⟨workItemId, -, h⟩ := bind_eq_ok.1 h
  obtain ⟨eventKind, -, h⟩ := bind_eq_ok.1 h
  obtain ⟨summary, hsummary, h⟩ := bind_eq_ok.1 h
  obtain ⟨outcome, -, h⟩ := bind_eq_ok.1 h
  obtain ⟨occurredAt, hoccurred, h⟩ := bind_eq_ok.1 h
  obtain ⟨assertionState, hassertion, h⟩ := bind_eq_ok.1 h
  obtain ⟨relatedRecordIds, hrelated, h⟩ := bind_eq_ok.1 h
  obtain ⟨evidenceIds, hevidence, h⟩ := bind_eq_ok.1 h
  obtain ⟨sourceIds, hsources, h⟩ := bind_eq_ok.1 h
  obtain ⟨supersedesId, -, h⟩ := bind_eq_ok.1 h
  obtain ⟨hsecret, h⟩ := (check_bind_eq_ok.1 h).imp_left ensure_eq_ok.1
  obtain ⟨houtcome, h⟩ := (check_bind_eq_ok.1 h).imp_left ensure_eq_ok.1
  cases h
  obtain ⟨rfl, hutc⟩ := utcField_eq_ok.1 hoccurred
  refine ⟨?_, hsecret, hassertion⟩
  exact ⟨text_ok hsummary, hutc, houtcome, ids_ok hrelated, ids_ok hevidence, ids_ok hsources⟩

omit [PythonLibrary] in
theorem required_of_get {metadata : Metadata} {key : String} {value : Text}
    (h : metadata.lookup key = some (.str value)) : required metadata key = .ok value := by
  rw [required, h]

omit [PythonLibrary] in
theorem optionalString_ofText? {metadata : Metadata} {key : String} {value : Option Text}
    (h : metadata.get key = Json.ofText? value) : optionalString metadata key = .ok value := by
  rw [optionalString, h]
  cases value <;> rfl

theorem optionally_uuidOf {name : String} (id : Option RecordId) :
    optionally (uuidOf name) (id.map uuidText) = .ok id := by
  cases id with
  | none => rfl
  | some id =>
    have hid : uuidOf name (uuidText id) = .ok id := uuidField_eq_ok.2 (uuid_uuidText id)
    rw [Option.map_some, optionally, hid]
    rfl

omit [PythonLibrary] in
theorem optionally_parseOutcome (outcome : Option Outcome) :
    optionally parseOutcome (outcome.map Outcome.text) = .ok outcome := by
  cases outcome with
  | none => rfl
  | some outcome => cases outcome <;> rfl

theorem metadataIds_ofIds {metadata : Metadata} {key : String} {values : List RecordId}
    (hget : metadata.get key = Json.ofIds values) (h : IdsOk maxLinks values) :
    metadataIds metadata key = .ok values := by
  have hread : ∀ id, uuidValue key (.str (uuidText id)) = .ok id := fun id => by
    rw [uuidValue, uuidOf, uuidField, uuid_uuidText]
    rfl
  rw [metadataIds, hget, Json.ofIds]
  simp only
  rw [ensure_of (by rw [List.length_map]; exact h.2), ok_bind]
  exact distinctFrom_map hread (by simpa using h.1)

/-- A record reads back as the event it encodes. -/
theorem readExperience_of_encodes {r : RecordEnvelope} {c : ExperienceContent} (h : Encodes r c) :
    readExperience r = .ok c := by
  have hok := h.ok
  rw [readExperience, h.metadata]
  refine check_bind_eq_ok.2 ⟨ensure_of ⟨h.recordType, h.schemaVersion⟩ _, ?_⟩
  refine check_bind_eq_ok.2 ⟨ensure_of ⟨.inl h.status, h.revision ▸ le_refl _⟩ _, ?_⟩
  refine bind_eq_ok.2 ⟨_, required_of_get rfl, ?_⟩
  refine bind_eq_ok.2 ⟨_, uuidField_eq_ok.2 (uuid_uuidText _), ?_⟩
  refine bind_eq_ok.2 ⟨_, optionalString_ofText? rfl, ?_⟩
  refine bind_eq_ok.2 ⟨_, optionally_uuidOf _, ?_⟩
  refine bind_eq_ok.2 ⟨_, required_of_get rfl, ?_⟩
  refine bind_eq_ok.2 ⟨c.eventKind, by cases c.eventKind <;> rfl, ?_⟩
  refine bind_eq_ok.2 ⟨_, required_of_get rfl, ?_⟩
  refine bind_eq_ok.2 ⟨_, text_idem hok.summary, ?_⟩
  refine bind_eq_ok.2 ⟨_, optionalString_ofText? rfl, ?_⟩
  refine bind_eq_ok.2 ⟨_, optionally_parseOutcome _, ?_⟩
  refine bind_eq_ok.2 ⟨_, required_of_get rfl, ?_⟩
  refine bind_eq_ok.2 ⟨_, utcField_idem hok.occurredAt, ?_⟩
  refine bind_eq_ok.2 ⟨_, required_of_get rfl, ?_⟩
  refine bind_eq_ok.2 ⟨c.assertionState, by cases c.assertionState <;> rfl, ?_⟩
  refine check_bind_eq_ok.2 ⟨ensure_of h.provenance _, ?_⟩
  refine bind_eq_ok.2 ⟨_, metadataIds_ofIds rfl hok.relatedRecordIds, ?_⟩
  refine bind_eq_ok.2 ⟨_, metadataIds_ofIds rfl hok.evidenceIds, ?_⟩
  refine bind_eq_ok.2 ⟨_, metadataIds_ofIds rfl hok.sourceIds, ?_⟩
  refine bind_eq_ok.2 ⟨_, optionalString_ofText? rfl, ?_⟩
  refine bind_eq_ok.2 ⟨_, optionally_uuidOf _, ?_⟩
  exact check_bind_eq_ok.2 ⟨ensure_of hok.outcome _, rfl⟩

end

end DollState.Experience
