import DollState.Domain.SafeFields
import DollState.Library.Rollback
import DollState.State.CanonicalJson
import DollState.State.Repository

/-!
# Conversations and their events

The model of `ConversationRecord`, `ConversationEventRecord` and `save_conversation_event`. An event is checked
when it is built, written with all its fields, and read back from its record with the checks of its parents.
-/

namespace DollState.Conversation

open StateLib

/-! ## Errors -/

/-- The errors of a turn: those of the state and its records, and those of classes of their own. -/
inductive TurnError where
  | state (e : DollError)
  /-- `ConversationValidationError` -/
  | conversation (message : String)
  /-- `WorkspaceFileError` -/
  | workspaceFile (message : String)
  /-- `ArtifactRegistrationError` -/
  | registration (message : String)
  /-- `PromptInjectionError` -/
  | promptInjection (message : String)
  /-- `UnicodeEncodeError` -/
  | encode
  /-- `LocalConversationValidationError` -/
  | validation (message : String)
  /-- `DuplicateConversationOperationError` -/
  | duplicateOperation (message : String)
  /-- `LocalConversationPersistenceError` -/
  | persistence (message : String)
  /-- `LocalConversationRollbackError` -/
  | rollback (message : String)
deriving DecidableEq, Repr

/-- The result of a step of a turn. -/
abbrev Outcome (α : Type) := Except TurnError α

/-- An error of the state, in a turn. -/
def ofState {α : Type} : Result α → Outcome α
  | .ok a => .ok a
  | .error e => .error (.state e)

/-- `StateCorruptError(message)`. -/
def corrupt (message : String) : TurnError := .state ⟨.stateCorrupt, message⟩

/-! ## Values -/

inductive EventKind where
  | userMessage | assistantMessage | systemContextSnapshot | modelRuntimeChange | toolRequest | toolResult
  | attachmentReference | branchCreation | editRegeneration | citationReference | error | importedUnknownEvent
deriving DecidableEq, Repr

def EventKind.all : List EventKind := [.userMessage, .assistantMessage, .systemContextSnapshot, .modelRuntimeChange,
  .toolRequest, .toolResult, .attachmentReference, .branchCreation, .editRegeneration, .citationReference, .error,
  .importedUnknownEvent]

def EventKind.text : EventKind → Text
  | .userMessage => "user_message".toList
  | .assistantMessage => "assistant_message".toList
  | .systemContextSnapshot => "system_context_snapshot".toList
  | .modelRuntimeChange => "model_runtime_change".toList
  | .toolRequest => "tool_request".toList
  | .toolResult => "tool_result".toList
  | .attachmentReference => "attachment_reference".toList
  | .branchCreation => "branch_creation".toList
  | .editRegeneration => "edit_regeneration".toList
  | .citationReference => "citation_reference".toList
  | .error => "error".toList
  | .importedUnknownEvent => "imported_unknown_event".toList

inductive ConversationActor where
  | user | assistant | system | model | runtime | tool | importer | unknown
deriving DecidableEq, Repr

def ConversationActor.all : List ConversationActor :=
  [.user, .assistant, .system, .model, .runtime, .tool, .importer, .unknown]

def ConversationActor.text : ConversationActor → Text
  | .user => "user".toList
  | .assistant => "assistant".toList
  | .system => "system".toList
  | .model => "model".toList
  | .runtime => "runtime".toList
  | .tool => "tool".toList
  | .importer => "importer".toList
  | .unknown => "unknown".toList

inductive ConversationOrigin where
  | currentUserInstruction | externalContent | importedData | toolResult | runtimeOutput | modelProposal | unknown
deriving DecidableEq, Repr

def ConversationOrigin.all : List ConversationOrigin :=
  [.currentUserInstruction, .externalContent, .importedData, .toolResult, .runtimeOutput, .modelProposal, .unknown]

def ConversationOrigin.text : ConversationOrigin → Text
  | .currentUserInstruction => "current_user_instruction".toList
  | .externalContent => "external_content".toList
  | .importedData => "imported_data".toList
  | .toolResult => "tool_result".toList
  | .runtimeOutput => "runtime_output".toList
  | .modelProposal => "model_proposal".toList
  | .unknown => "unknown".toList

def maxConversationTitle : ℕ := 240
def maxConversationIdentifier : ℕ := 1024
def maxConversationContentReference : ℕ := 2048
def maxConversationParents : ℕ := 64
def maxConversationExtensions : ℕ := 64

/-- `ConversationEventRecord`, its identifiers parsed. -/
structure ConversationEvent where
  eventId : RecordId
  conversationId : RecordId
  eventKind : EventKind
  actorType : ConversationActor
  originClass : ConversationOrigin
  parentEventIds : List RecordId := []
  sequenceHint : Option Int := none
  contentReference : Option Text := none
  occurredAt : Option Text := none
  sourceEventKind : Option Text := none
  sourceEnvironmentId : Option Text := none
  sourceObjectId : Option Text := none
  providerId : Option Text := none
  applicationId : Option Text := none
  interfaceId : Option Text := none
  modelManifestId : Option Text := none
  runtimeAdapterId : Option Text := none
  operationId : Option Text := none
  extensions : Metadata := []

/-- `canonical_metadata` of an event. -/
def ConversationEvent.metadata (event : ConversationEvent) : Metadata :=
  [("conversation_id", .str (uuidText event.conversationId)), ("event_kind", .str event.eventKind.text),
    ("actor_type", .str event.actorType.text), ("origin_class", .str event.originClass.text),
    ("parent_event_ids", Json.ofIds event.parentEventIds),
    ("sequence_hint", (event.sequenceHint.map Json.int).getD .null),
    ("content_reference", Json.ofText? event.contentReference), ("occurred_at", Json.ofText? event.occurredAt),
    ("source_event_kind", Json.ofText? event.sourceEventKind),
    ("source_environment_id", Json.ofText? event.sourceEnvironmentId),
    ("source_object_id", Json.ofText? event.sourceObjectId), ("provider_id", Json.ofText? event.providerId),
    ("application_id", Json.ofText? event.applicationId), ("interface_id", Json.ofText? event.interfaceId),
    ("model_manifest_id", Json.ofText? event.modelManifestId),
    ("runtime_adapter_id", Json.ofText? event.runtimeAdapterId),
    ("operation_id", Json.ofText? event.operationId), ("extensions", .obj event.extensions)]

/-! ## Checks -/

/-- `_validate_conversation_text`. -/
def conversationText (name : String) (maximum : ℕ) : Option Text → Outcome (Option Text)
  | none => .ok none
  | some value => do
    let normalized := strip value
    ensure (normalized ≠ []) (.conversation s!"{name} must not be blank")
    ensure (normalized.length ≤ maximum) (.conversation s!"{name} exceeds the maximum length")
    ensure (normalized.any (fun c => c.toNat < 32 || c.toNat == 127) = false)
      (.conversation s!"{name} contains a control character")
    return some normalized

/-- `^[a-z0-9][a-z0-9_.-]{0,127}$` matches the whole key. -/
def isExtensionKey : Text → Bool
  | [] => false
  | c :: cs => (c.isLower || c.isDigit) && cs.length ≤ 127 &&
      cs.all fun c => c.isLower || c.isDigit || c ∈ ['_', '.', '-']

section

variable [PythonLibrary] [CaseLibrary]

/-- `_validate_conversation_timestamp`. -/
def conversationTimestamp (name : String) (value : Option Text) : Outcome (Option Text) := do
  match ← conversationText name maxConversationIdentifier value with
  | none => return none
  | some normalized =>
    let parsed ← orFail (.conversation s!"{name} is invalid")
      (PythonLibrary.fromisoformat (replaceZulu normalized))
    ensure (parsed.utcoffset ≠ none) (.conversation s!"{name} must be timezone-aware")
    return some normalized

omit [PythonLibrary] in
/-- `_validate_conversation_extensions`; every value is one that JSON can write. -/
def conversationExtensions (value : Metadata) : Outcome Metadata := do
  ensure (value.length ≤ maxConversationExtensions) (.conversation "too many extensions")
  value.foldlM (fun normalized entry => do
    let key := CaseLibrary.lower (strip entry.1.toList)
    ensure (isExtensionKey key = true) (.conversation "extension key is invalid")
    return Metadata.set normalized (String.ofList key) entry.2) []

/-- `ConversationEventRecord.__post_init__`. -/
def validateEvent (event : ConversationEvent) : Outcome ConversationEvent := do
  ensure (event.parentEventIds.length ≤ maxConversationParents)
    (.conversation "too many parent event identifiers")
  ensure (event.eventId ∉ event.parentEventIds) (.conversation "event cannot be its own parent")
  ensure event.parentEventIds.Nodup (.conversation "parent event identifiers must be unique")
  ensure (∀ hint ∈ event.sequenceHint, 0 ≤ hint)
    (.conversation "sequence hint must be a non-negative integer")
  let contentReference ← conversationText "content reference" maxConversationContentReference
    event.contentReference
  let occurredAt ← conversationTimestamp "occurred at" event.occurredAt
  let identifier := fun (name : String) => conversationText name maxConversationIdentifier
  let sourceEventKind ← identifier "source event kind" event.sourceEventKind
  let sourceEnvironmentId ← identifier "source environment id" event.sourceEnvironmentId
  let sourceObjectId ← identifier "source object id" event.sourceObjectId
  let providerId ← identifier "provider id" event.providerId
  let applicationId ← identifier "application id" event.applicationId
  let interfaceId ← identifier "interface id" event.interfaceId
  let modelManifestId ← identifier "model manifest id" event.modelManifestId
  let runtimeAdapterId ← identifier "runtime adapter id" event.runtimeAdapterId
  let operationId ← identifier "operation id" event.operationId
  ensure (event.eventKind = .importedUnknownEvent → sourceEventKind ≠ none)
    (.conversation "imported unknown event requires a source event kind")
  let extensions ← conversationExtensions event.extensions
  return { event with
    contentReference, occurredAt, sourceEventKind, sourceEnvironmentId, sourceObjectId, providerId,
    applicationId, interfaceId, modelManifestId, runtimeAdapterId, operationId, extensions }

/-! ## Reading records -/

/-- `cast(str | None, metadata[key])`, of which the checks accept a text or nothing. -/
def optionalField (metadata : Metadata) (key : String) : Outcome (Option Text) :=
  match metadata.get key with
  | .null => .ok none
  | .str text => .ok (some text)
  | _ => .error (.conversation s!"{key} must be text")

/-- A member of an enumeration. -/
def memberField {α : Type} (all : List α) (text : α → Text) (message : String) (metadata : Metadata)
    (key : String) : Outcome α :=
  match metadata.get key with
  | .str value => orFail (.conversation message) (ofText? all text value)
  | _ => .error (.conversation message)

/-- `_validate_conversation_uuid`. -/
def identifierField (name : String) : Json → Outcome RecordId
  | .str text => orFail (.conversation s!"{name} is invalid") (uuid text)
  | _ => .error (.conversation s!"{name} must be text")

def sequenceField : Json → Outcome (Option Int)
  | .null => .ok none
  | .int hint => .ok (some hint)
  | _ => .error (.conversation "sequence hint must be a non-negative integer")

/-- `except ConversationValidationError: raise StateCorruptError(message)`. -/
def orCorrupt {α : Type} (message : String) : Outcome α → Outcome α
  | .error (.conversation _) => .error (corrupt message)
  | outcome => outcome

/-- The keys of an object, each once. -/
def sameKeys (metadata : Metadata) (keys : List String) : Bool :=
  (metadata.map (·.1)).all (· ∈ keys) && keys.all (· ∈ metadata.map (·.1))

def conversationKeys : List String := ["source_environment_id", "source_conversation_id"]

def eventKeys : List String := ["conversation_id", "event_kind", "actor_type", "origin_class", "parent_event_ids",
  "sequence_hint", "content_reference", "occurred_at", "source_event_kind", "source_environment_id",
  "source_object_id", "provider_id", "application_id", "interface_id", "model_manifest_id", "runtime_adapter_id",
  "operation_id", "extensions"]

/-- `_conversation_from_envelope`; a turn uses the identifier. -/
def conversationFromEnvelope (envelope : RecordEnvelope) : Outcome RecordId := do
  ensure (envelope.recordType = "conversation" ∧ envelope.schemaVersion = 1)
    (corrupt "record is not a supported canonical conversation")
  ensure (sameKeys envelope.metadata conversationKeys = true)
    (corrupt "canonical conversation metadata shape is invalid")
  orCorrupt "canonical conversation metadata is invalid" do
    let _ ← conversationText "conversation title" maxConversationTitle envelope.title
    let _ ← conversationText "source environment identifier" maxConversationIdentifier
      (← optionalField envelope.metadata "source_environment_id")
    let _ ← conversationText "source conversation identifier" maxConversationIdentifier
      (← optionalField envelope.metadata "source_conversation_id")
    return envelope.id

/-- The fields of `_conversation_event_from_envelope`. -/
def readEvent (envelope : RecordEnvelope) (parents : List Json) (extensions : Metadata) :
    Outcome ConversationEvent := do
  let metadata := envelope.metadata
  validateEvent {
    eventId := envelope.id
    conversationId := ← identifierField "conversation identifier" (metadata.get "conversation_id")
    eventKind := ← memberField EventKind.all EventKind.text "event kind is invalid" metadata "event_kind"
    actorType := ← memberField ConversationActor.all ConversationActor.text "actor type is invalid" metadata
      "actor_type"
    originClass := ← memberField ConversationOrigin.all ConversationOrigin.text "origin class is invalid" metadata
      "origin_class"
    parentEventIds := ← parents.mapM (identifierField "parent event identifier")
    sequenceHint := ← sequenceField (metadata.get "sequence_hint")
    contentReference := ← optionalField metadata "content_reference"
    occurredAt := ← optionalField metadata "occurred_at"
    sourceEventKind := ← optionalField metadata "source_event_kind"
    sourceEnvironmentId := ← optionalField metadata "source_environment_id"
    sourceObjectId := ← optionalField metadata "source_object_id"
    providerId := ← optionalField metadata "provider_id"
    applicationId := ← optionalField metadata "application_id"
    interfaceId := ← optionalField metadata "interface_id"
    modelManifestId := ← optionalField metadata "model_manifest_id"
    runtimeAdapterId := ← optionalField metadata "runtime_adapter_id"
    operationId := ← optionalField metadata "operation_id"
    extensions }

/-- `_conversation_event_from_envelope`. -/
def eventFromEnvelope (envelope : RecordEnvelope) : Outcome ConversationEvent := do
  ensure (envelope.recordType = "conversation_event" ∧ envelope.schemaVersion = 1)
    (corrupt "record is not a supported canonical conversation event")
  ensure (sameKeys envelope.metadata eventKeys = true)
    (corrupt "canonical conversation event metadata shape is invalid")
  match envelope.metadata.get "parent_event_ids", envelope.metadata.get "extensions" with
  | .arr parents, .obj extensions =>
    orCorrupt "canonical conversation event metadata is invalid" (readEvent envelope parents extensions)
  | .arr _, _ => .error (corrupt "canonical conversation extensions are invalid")
  | _, _ => .error (corrupt "canonical conversation parent metadata is invalid")

/-- `get_conversation`. -/
def getConversation (db : Database) (conversationId : Text) : Outcome RecordId := do
  conversationFromEnvelope (← ofState ((getRecordText conversationId).on db))

/-- The parents of an event belong to its conversation. -/
def checkParents (readParent : RecordId → Outcome ConversationEvent) (foreign : TurnError)
    (event : ConversationEvent) : Outcome Unit :=
  forEach (fun parentId => do
    let parent ← readParent parentId
    ensure (parent.conversationId = event.conversationId) foreign) event.parentEventIds

/-- `get_conversation_event`. -/
def getConversationEvent (db : Database) (eventId : RecordId) : Outcome ConversationEvent := do
  let event ← eventFromEnvelope (← ofState ((getRecord eventId).on db))
  ensure ((db.find? event.conversationId).isSome = true) (corrupt "persisted event conversation is missing")
  let _ ← getConversation db (uuidText event.conversationId)
  checkParents (fun parentId => do
      eventFromEnvelope (← orFail (corrupt "persisted parent event is missing") (db.find? parentId)))
    (corrupt "persisted parent event belongs to another conversation") event
  return event

variable [ModuleRules]

/-- `save_conversation_event`, the event having been built. -/
def saveConversationEvent (env : Surroundings) (event : ConversationEvent) (provenance : RecordProvenance)
    (sensitivity : RecordSensitivity) : Attempt Database TurnError Unit := do
  let db ← Attempt.read
  let _ ← getConversation db (uuidText event.conversationId)
  checkParents (fun parentId => do
      let _ ← orFail (.conversation "parent event does not exist") (db.find? parentId)
      getConversationEvent db parentId)
    (.conversation "parent event belongs to a different conversation") event
  let row ← ofState (prepareCreateRecord env {
    recordType := "conversation_event", schemaVersion := 1, status := .active, provenance, sensitivity,
    title := none, metadata := event.metadata, recordId := some (uuidText event.eventId) })
  let saved ← ofState (createRecordTransaction row db)
  Attempt.write saved
  let _ ← getConversationEvent saved event.eventId

end

end DollState.Conversation
