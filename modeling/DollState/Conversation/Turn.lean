import DollState.Audit.Append
import DollState.Capability.Contracts
import DollState.Conversation.Events
import DollState.Instruction.Written
import DollState.Model.Switch
import DollState.Redaction.Detection

/-!
# Turns of a conversation

The model of `execute_turn` and `execute_streaming_turn`. A turn records the origin of the user's message, asks the
runtime, records the origin of its answer, and writes the artifacts and the events of both. Each write is a
transaction of its own, and a turn that fails deletes what it has written. What the runtime answers is given as
data.
-/

namespace DollState.Conversation

open StateLib Instruction
open Capability (DigestLibrary)
open Redaction (RegexLibrary)
open DollState.Runtime (GenerationFields RuntimeGenerationResult RuntimeStreamResult newGenerationResult)

/-! ## Artifacts -/

/-- The managed files of the workspace: their paths, and the texts whose UTF-8 they hold. -/
abbrev Files := List (Text × Text)

/-- What a turn writes to. -/
abbrev World := Database × Files

inductive ArtifactCreator where
  | user | system | model
deriving DecidableEq, Repr

def ArtifactCreator.text : ArtifactCreator → Text
  | .user => "user".toList
  | .system => "system".toList
  | .model => "model".toList

def ArtifactCreator.actor : ArtifactCreator → AuditActor
  | .user => .user
  | .system => .system
  | .model => .model

/-- `_provenance_for_creator`. -/
def ArtifactCreator.provenance : ArtifactCreator → RecordProvenance
  | .user => .userCreated
  | .model => .modelProposed
  | .system => .systemGenerated

/-- The arguments of `create_text`. -/
structure ArtifactValues where
  managedPath : Text
  text : Text
  title : Text
  artifactType : Text
  operationId : Text
  createdBy : ArtifactCreator
  sensitivity : RecordSensitivity
  format : Text := "txt".toList
  mediaType : Text := "text/plain".toList

/-- The rules of managed paths. -/
class PathRules where
  /-- `validate_managed_path(value).as_posix()`. -/
  managedPath : Text → Outcome Text

/-- `ArtifactValidationError(message)`. -/
def artifactInvalid (message : String) : TurnError := .state ⟨.artifactValidation, message⟩

/-- `_validate_title`. -/
def artifactTitle (value : Text) : Outcome Text := do
  let normalized := joinWords value
  ensure (normalized ≠ [] ∧ normalized.length ≤ 240) (artifactInvalid "artifact title is empty or too long")
  ensure (normalized.any (fun c => c.toNat < 32) = false)
    (artifactInvalid "artifact title contains control characters")
  return normalized

/-- `_validate_identifier` of artifacts. -/
def artifactIdentifier (name : String) (value : Text) (maximum : ℕ) : Outcome Text := do
  let normalized := strip value
  ensure (normalized ≠ [] ∧ normalized.length ≤ maximum) (artifactInvalid s!"{name} is empty or too long")
  ensure (isToken normalized = true) (artifactInvalid s!"{name} contains unsupported characters")
  return normalized

/-- One side of `[A-Za-z0-9][A-Za-z0-9!#$&^_.+-]*`. -/
def isMediaName : Text → Bool
  | [] => false
  | c :: cs => c.isAlphanum && cs.all fun c => c.isAlphanum || c ∈ "!#$&^_.+-".toList

/-- `_MEDIA_TYPE_PATTERN` matches the whole text. -/
def isMediaType (value : Text) : Bool :=
  isMediaName (value.takeWhile (· ≠ '/')) && match value.dropWhile (· ≠ '/') with
    | '/' :: rest => isMediaName rest
    | _ => false

/-- No file is at the path, above it or below it. -/
def isFree (files : Files) (path : Text) : Bool :=
  files.all fun file => file.1 != path && !(file.1 ++ ['/']).isPrefixOf path && !(path ++ ['/']).isPrefixOf file.1

section

variable [DigestLibrary]

/-- `_sha256_text`. -/
def sha256Text (value : Text) : Text := "sha256:".toList ++ DigestLibrary.sha256Hex value

/-- `_turn_path`. -/
def turnPath (conversationId operationId : Text) : Text :=
  "conversations/".toList ++ conversationId ++ "/turns/".toList ++
    (DigestLibrary.sha256Hex operationId).take 32

/-- The metadata of an artifact. -/
def artifactMetadata (values : ArtifactValues) (path artifactType operationId format mediaType : Text) : Metadata :=
  [("artifact_type", .str artifactType), ("managed_path", .str path),
    ("content_hash", .str (sha256Text values.text)), ("size_bytes", .int (utf8Size values.text)),
    ("created_by", .str values.createdBy.text), ("operation_id", .str operationId), ("format", .str format),
    ("media_type", .str mediaType)]

variable [PythonLibrary] [CaseLibrary] [ModuleRules] [PathRules]

/-- `_register`. -/
def registerArtifact (env : Surroundings) (values : ArtifactValues) (operationId : Text) (row : RecordEnvelope)
    (db : Database) : Outcome Database :=
  match ModuleRules.auditMetadataError [("content_hash", .str (sha256Text values.text)),
      ("size_bytes", .int (utf8Size values.text))] with
  | some _ => .error (.registration "artifact could not be registered authoritatively")
  | none => do
    let inserted ← orFail (.registration "artifact could not be registered authoritatively") (db.insertRecord row)
    let audited ← orFail (.registration "artifact could not be registered authoritatively")
      (inserted.insertAuditEvent {
        eventId := env.eventId, operationId := operationId, occurredAt := env.now,
        actorType := values.createdBy.actor, actorId := none, action := "artifact.create".toList,
        targetType := some "artifact".toList, targetId := some (uuidText row.id), result := .success,
        summary := some "Created managed artifact".toList, errorClass := none,
        metadata := [("content_hash", .str (sha256Text values.text)),
          ("size_bytes", .int (utf8Size values.text))] })
    return audited.commitStateRevision

/-- `create_text` up to the publication of the file: the row it is going to insert, with the path and the operation.
`maximumBytes` is the limit of the service and of the call. -/
def prepareArtifact (env : Surroundings) (maximumBytes : ℕ) (values : ArtifactValues) (files : Files) :
    Outcome (RecordEnvelope × Text × Text) := do
  ensure (env.readOnly = false) (.state ⟨.readOnlyState, "state repository is open in read-only mode"⟩)
  let path ← PathRules.managedPath values.managedPath
  let title ← artifactTitle values.title
  let artifactType ← artifactIdentifier "artifact type" values.artifactType 120
  let safeOperationId ← ofState (operationId env (some values.operationId))
  let format ← artifactIdentifier "artifact format" values.format 80
  let mediaType := CaseLibrary.lower (strip values.mediaType)
  ensure (mediaType.length ≤ 120 ∧ isMediaType mediaType = true)
    (artifactInvalid "artifact media type is invalid")
  ensure (utf8Size values.text ≤ maximumBytes)
    (.workspaceFile "artifact content exceeds the accepted size limit")
  ensure (isFree files path = true) (.workspaceFile "managed path is not free")
  let row : RecordEnvelope := {
    id := env.newId, recordType := "artifact", schemaVersion := 1, createdAt := env.now, updatedAt := env.now,
    revision := 1, status := .active, provenance := values.createdBy.provenance,
    sensitivity := values.sensitivity, title := some title,
    metadata := artifactMetadata values path artifactType safeOperationId format mediaType }
  return (row, path, safeOperationId)

/-- `_artifact_from_record` of the new row. -/
def readArtifact (row : RecordEnvelope) : Outcome Unit :=
  ensure (ModuleRules.isArtifact row = true)
    (.state ⟨.artifactCorrupt, "artifact record contains invalid metadata"⟩)

/-- `create_text`. -/
def createText (env : Surroundings) (maximumBytes : ℕ) (values : ArtifactValues) :
    Attempt World TurnError (RecordId × Text) := do
  let w ← Attempt.read
  let (row, path, safeOperationId) ← prepareArtifact env maximumBytes values w.2
  let registered ← registerArtifact env values safeOperationId row w.1
  Attempt.write (registered, w.2 ++ [(path, values.text)])
  readArtifact row
  return (row.id, path)

end

/-! ## Requests and results -/

/-- What `package_context` returns, as far as a turn uses it. -/
structure PromptPackage where
  /-- `_render_prompt` of the package. -/
  promptText : Text
  totalItems : ℕ
  promptInjectionFindingCount : ℕ
  secretRedactionCount : ℕ
  /-- The channels of `_context_snapshot`. -/
  channels : Json

/-- The rules of the prompt defense and of the guidance for failures. -/
class PromptRules where
  /-- `require_authority` for the last record, and `package_context` of all. -/
  packageContext : Database → List Text → Outcome PromptPackage
  /-- What `guidance_for_runtime_failure` adds to the extensions of an error event. -/
  guidance : DollState.Runtime.FailureCode → Metadata
  /-- The identifier of that guidance, and the number of its options. -/
  guidanceId : DollState.Runtime.FailureCode → Text
  optionCount : DollState.Runtime.FailureCode → ℕ
  /-- The text of a failure code. -/
  failureText : DollState.Runtime.FailureCode → Text
  /-- The text of an outcome. -/
  outcomeText : DollState.Runtime.GenerationOutcome → Text

structure TurnRequest where
  conversationId : Text
  scopeType : Text
  scopeKey : Text
  userText : Text
  operationId : Text
  parentEventId : Option Text
  contextInstructionIds : List Text
  sensitivity : RecordSensitivity

/-- The service: the registry of its runtime boundary, what the adapter declares, and its limit. -/
structure TurnService where
  registry : DollState.Runtime.Registry Unit
  reply : DollState.Runtime.Reply DollState.Runtime.RuntimeAdapterDeclaration
  maximumArtifactBytes : ℕ

/-- What a turn has looked up before it writes. -/
structure PreparedTurn where
  conversationId : RecordId
  parentEventIds : List RecordId
  sequence : Int
  binding : Model.ModelBindingInfo
  runtime : Model.RuntimeManifestInfo
  model : Model.ModelManifestInfo

/-- `LocalConversationResult`, without the copies of its arguments. -/
structure TurnResult where
  userEventId : RecordId
  contextEventId : RecordId
  assistantEventId : Option RecordId
  errorEventId : Option RecordId
  outcome : DollState.Runtime.GenerationOutcome
  failureCode : Option DollState.Runtime.FailureCode
  runtimeId : Option Text
  promptInjectionFindingCount : ℕ
  secretRedactionCount : ℕ

/-- What a turn makes of the answer of its runtime: the result it records, the text it stores, and the number of
events it displays. -/
structure Settled where
  result : RuntimeGenerationResult
  assistantText : Option Text
  displayed : ℕ := 0

/-- `_CreatedTurnState`; of an artifact the rollback uses the path. -/
structure Created where
  recordIds : List RecordId := []
  paths : List Text := []

/-! ## The answer -/

section

variable [RegexLibrary]

/-- `redact_text(text)` has changed the text or has reached a limit. -/
def isRedacted (text : Text) : Outcome Bool :=
  match Redaction.redactText (JsonText.Str.ofText text) Redaction.defaultMaxScanChars
      Redaction.defaultMaxFindings with
  | .ok scan => .ok (!scan.findings.isEmpty || scan.inputTruncated || scan.findingLimitReached)
  | .error message => .error (.state ⟨.value, message⟩)

/-- The result of a turn whose answer cannot be used. -/
def invalidResponse (operationId adapterId : Text) (runtimeId : Option Text) (modelId : Text) :
    Outcome RuntimeGenerationResult :=
  ofState (newGenerationResult {
    operationId, adapterId, runtimeId, modelId, outcome := .failed, outputText := none, finishReason := none,
    failureCode := some .invalidResponse })

/-- `_validate_runtime_result`. -/
def validateRuntimeResult (result : RuntimeGenerationResult) : Outcome Settled :=
  if result.outcome ≠ .completed then .ok { result, assistantText := none }
  else match result.outputText with
    | some text =>
      if strip text = [] then do
        return { result := ← invalidResponse result.operationId result.adapterId result.runtimeId result.modelId
                 assistantText := none }
      else .ok { result, assistantText := some text }
    | none => do
      return { result := ← invalidResponse result.operationId result.adapterId result.runtimeId result.modelId
               assistantText := none }

/-- What `execute_turn` makes of the answer. -/
def settle (operationId adapterId modelId : Text) (answer : Result RuntimeGenerationResult) : Outcome Settled := do
  let result ← ofState answer
  let settled ← validateRuntimeResult result
  match settled.assistantText with
  | none => return settled
  | some text =>
    if ← isRedacted text then
      return { result := ← invalidResponse operationId adapterId result.runtimeId modelId, assistantText := none }
    else return settled

/-- The text of a stream. -/
def streamText (result : RuntimeStreamResult) : Text :=
  result.events.flatMap fun event => if event.kind = .delta then event.text.getD [] else []

/-- A stream that cannot be used is displayed as two events. -/
def sanitizedStream (operationId adapterId modelId : Text) (result : RuntimeStreamResult) : Outcome Settled := do
  return { result := ← invalidResponse operationId adapterId result.runtimeId modelId
           assistantText := none, displayed := 2 }

/-- `_normalize_stream_result`. -/
def normalizeStreamResult (operationId adapterId modelId : Text) (result : RuntimeStreamResult) : Outcome Settled :=
  if result.operationId ≠ operationId ∨ result.adapterId ≠ adapterId ∨ result.modelId ≠ modelId then
    sanitizedStream operationId adapterId modelId result
  else if result.outcome = .completed then
    match result.events.getLast? with
    | some terminal =>
      if strip (streamText result) = [] ∨ terminal.kind ≠ .complete then
        sanitizedStream operationId adapterId modelId result
      else do
        let completed ← ofState (newGenerationResult {
          operationId, adapterId, runtimeId := result.runtimeId, modelId, outcome := .completed,
          outputText := some (streamText result), finishReason := terminal.finishReason, failureCode := none })
        return { result := completed, assistantText := some (streamText result), displayed := result.events.length }
    | none => sanitizedStream operationId adapterId modelId result
  else do
    let failed ← ofState (newGenerationResult {
      operationId, adapterId, runtimeId := result.runtimeId, modelId, outcome := result.outcome,
      outputText := none, finishReason := none, failureCode := some (result.failureCode.getD .invalidResponse) })
    return { result := failed, assistantText := none, displayed := result.events.length }

/-- What `execute_streaming_turn` makes of the answer. -/
def settleStream (operationId adapterId modelId : Text) (answer : Result RuntimeStreamResult) : Outcome Settled := do
  let result ← ofState answer
  let settled ← normalizeStreamResult operationId adapterId modelId result
  if streamText result = [] then return settled
  else if ← isRedacted (streamText result) then sanitizedStream operationId adapterId modelId result
  else return settled

end

/-! ## Before the turn -/

section

variable [PythonLibrary] [CaseLibrary] [UtcLibrary] [Audit.AuditRules] [ModuleRules] [DigestLibrary] [FloatLibrary]
  [PathRules] [PromptRules]

/-- `_message_text`. -/
def messageText (value : Text) : Outcome Text := do
  ensure (strip value ≠ []) (.validation "user message must not be blank")
  ensure (value.length ≤ 262144) (.validation "user message exceeds the size limit")
  ensure ('\x00' ∉ value) (.validation "user message contains a null character")
  return value

/-- `_require_unused_operation`. -/
def requireUnusedOperation (db : Database) (operationId : Text) : Outcome Unit :=
  let used : Bool := db.answer (.usedMetadata [("conversation_event", "operation_id"), ("artifact", "operation_id"),
    ("instruction_origin", "parent_operation_id")] operationId)
  ensure (used = false) (.duplicateOperation "conversation operation ID already exists")

/-- `_validate_parent`. -/
def validateParent (db : Database) (conversationId : Text) : Option Text → Outcome (List RecordId)
  | none => .ok []
  | some text => do
    let envelope ← match (getRecordText text).on db with
      | .ok envelope => .ok envelope
      | .error e => .error (if e.kind = .key then .validation "parent event does not exist" else .state e)
    let parent ← getConversationEvent db envelope.id
    ensure (uuidText parent.conversationId = conversationId)
      (.validation "parent event belongs to another conversation")
    return [parent.eventId]

/-- `_next_sequence`. -/
def nextSequence (db : Database) (conversationId : Text) : Outcome Int := do
  let rows := db.records.rows.filter fun row => row.recordType = "conversation_event"
  let events ← rows.mapM fun row => getConversationEvent db row.id
  let own := events.filter fun event => uuidText event.conversationId = conversationId
  ensure (own.length < 500) (.validation "conversation event limit is reached")
  return (own.filterMap (·.sequenceHint)).foldl (fun next hint => max next (hint + 1)) 0

/-- `_validate_adapter_declaration`. -/
def checkDeclaration (service : TurnService) (runtime : Model.RuntimeManifestInfo) : Outcome Unit := do
  let declaration ← ofState (Model.boundaryDeclaration service.registry runtime.content.adapterId service.reply)
  let declared ← orFail (.validation "bound local runtime adapter is unavailable") declaration
  ensure (Model.MatchesManifest declared runtime.content)
    (.validation "bound runtime declaration does not match the active manifest")

/-- The part of `execute_turn` before its `try`. -/
def prepareTurn (env : Surroundings) (service : TurnService) (request : TurnRequest) (db : Database) :
    Outcome PreparedTurn := do
  ensure (env.readOnly = false) (.state ⟨.readOnlyState, "state repository is open in read-only mode"⟩)
  ensure (DollState.Runtime.isOperationId request.operationId = true) (.validation "operation ID is invalid")
  let _ ← messageText request.userText
  requireUnusedOperation db request.operationId
  let conversationId ← getConversation db request.conversationId
  let parentEventIds ← validateParent db request.conversationId request.parentEventId
  let sequence ← nextSequence db request.conversationId
  let (binding, runtime, model) ← match
      (Model.resolveActiveBinding request.scopeType request.scopeKey).on db with
    | .ok found => .ok found
    | .error e => .error (if DollError.isA [.key, .modelManifestValidation] e then
        .validation "active local model binding is unavailable" else .state e)
  checkDeclaration service runtime
  ensure (DollState.Runtime.isIdentifier model.content.runtimePrivateLocator = true)
    (.validation "bound model locator is not an adapter-facing model identifier")
  return { conversationId, parentEventIds, sequence, binding, runtime, model }

/-! ## Writing -/

/-- A program on the database, in a turn. -/
def inDatabase {α : Type} (x : Attempt Database DollError α) : Attempt World TurnError α := fun w =>
  match x w.1 with
  | (.ok a, db) => (.ok a, db, w.2)
  | (.error e, db) => (.error (.state e), db, w.2)

/-- A program on the database that fails with the errors of a turn. -/
def inRecords {α : Type} (x : Attempt Database TurnError α) : Attempt World TurnError α := Attempt.lift x

/-- `created.record_ids.append(id)`. -/
def noteRecord (id : RecordId) : Attempt (World × Created) TurnError Unit := fun s =>
  (.ok (), s.1, { s.2 with recordIds := s.2.recordIds ++ [id] })

/-- `created.artifacts.append(artifact)`. -/
def noteArtifact (id : RecordId) (path : Text) : Attempt (World × Created) TurnError Unit := fun s =>
  (.ok (), s.1, { recordIds := s.2.recordIds ++ [id], paths := s.2.paths ++ [path] })

/-- The source of the user's message. -/
def userSource (request : TurnRequest) : InstructionSource (List Json) where
  originClass := .currentUserInstruction
  actorType := .user
  acquisitionMethod := .userEntry
  parentOperationId := some request.operationId
  sessionId := some request.conversationId
  contentHash := some (sha256Text request.userText)
  transformations := []

/-- The source of the runtime's answer. -/
def runtimeSource (prepared : PreparedTurn) (request : TurnRequest) (text : Text) :
    InstructionSource (List Json) where
  originClass := .runtimeOutput
  actorType := .runtime
  acquisitionMethod := .runtimeExecution
  parentOperationId := some request.operationId
  sessionId := some request.conversationId
  contentHash := some (sha256Text text)
  transformations := []
  modelManifestId := some (uuidText prepared.model.envelope.id)
  runtimeAdapterId := some prepared.runtime.content.adapterId

/-- `InstructionSource(…)` and `origins.create`. -/
def createOrigin (env : Surroundings) (title : String) (text : Text) (source : InstructionSource (List Json))
    (operationId : Text) (sensitivity : RecordSensitivity) : Attempt (World × Created) TurnError RecordId := do
  let validated ← ofState (validateSource source)
  let origin ← inDatabase (create env title.toList text validated (some operationId) sensitivity)
  noteRecord origin.recordId
  return origin.recordId

/-- The origin of the answer, if there is one. -/
def createAnswerOrigin (env : Surroundings) (prepared : PreparedTurn) (request : TurnRequest) :
    Option Text → Attempt (World × Created) TurnError (Option RecordId)
  | none => pure none
  | some text => do
    let id ← createOrigin env "Local runtime output" text (runtimeSource prepared request text)
      request.operationId request.sensitivity
    return some id

/-- `create_text`, noted. -/
def writeArtifact (env : Surroundings) (service : TurnService) (values : ArtifactValues) :
    Attempt (World × Created) TurnError RecordId := do
  let (id, path) ← createText env service.maximumArtifactBytes values
  noteArtifact id path
  return id

/-- A message as an artifact. -/
def messageArtifact (request : TurnRequest) (file title : String) (text : Text) (createdBy : ArtifactCreator) :
    ArtifactValues where
  managedPath := turnPath request.conversationId request.operationId ++ '/' :: file.toList
  text := text
  title := title.toList
  artifactType := "conversation_message".toList
  operationId := request.operationId
  createdBy := createdBy
  sensitivity := request.sensitivity

/-- The artifact of the answer, if there is one. -/
def writeAnswer (env : Surroundings) (service : TurnService) (request : TurnRequest) :
    Option Text → Attempt (World × Created) TurnError (Option RecordId)
  | none => pure none
  | some text => do
    let id ← writeArtifact env service
      (messageArtifact request "assistant.txt" "Local conversation assistant message" text .model)
    return some id

/-- `_context_snapshot`. -/
def contextSnapshot (prepared : PreparedTurn) (package : PromptPackage) : Text :=
  canonicalJson (.obj [
    ("schema_version", .int 1), ("renderer_version", .str "doll.local-conversation.prompt.v1".toList),
    ("prompt_hash", .str (sha256Text package.promptText)),
    ("binding", .obj [("id", .str (uuidText prepared.binding.envelope.id)),
      ("revision", .int prepared.binding.envelope.revision)]),
    ("runtime_manifest", .obj [("id", .str (uuidText prepared.runtime.envelope.id)),
      ("revision", .int prepared.runtime.envelope.revision),
      ("declaration_fingerprint", .str prepared.runtime.content.declarationFingerprint)]),
    ("model_manifest", .obj [("id", .str (uuidText prepared.model.envelope.id)),
      ("revision", .int prepared.model.envelope.revision),
      ("exact_revision_hash", .str (sha256Text prepared.model.content.exactRevision))]),
    ("totals", .obj [("items", .int package.totalItems),
      ("prompt_injection_findings", .int package.promptInjectionFindingCount),
      ("secret_redactions", .int package.secretRedactionCount)]),
    ("channels", package.channels)])

/-- The context snapshot as an artifact. -/
def contextArtifact (prepared : PreparedTurn) (request : TurnRequest) (package : PromptPackage) :
    ArtifactValues where
  managedPath := turnPath request.conversationId request.operationId ++ "/context.json".toList
  text := contextSnapshot prepared package
  title := "Local conversation context snapshot".toList
  artifactType := "conversation_context_snapshot".toList
  operationId := request.operationId
  createdBy := .system
  sensitivity := request.sensitivity
  format := "json".toList
  mediaType := "application/json".toList

/-- `ConversationEventRecord(…)` and `save_conversation_event`. -/
def saveEvent (env : Surroundings) (event : ConversationEvent) (provenance : RecordProvenance)
    (sensitivity : RecordSensitivity) : Attempt (World × Created) TurnError RecordId := do
  let validated ← validateEvent event
  inRecords (saveConversationEvent env validated provenance sensitivity)
  noteRecord validated.eventId
  return validated.eventId

/-- The event of the user's message. -/
def userEvent (env : Surroundings) (prepared : PreparedTurn) (request : TurnRequest)
    (artifactId originId : RecordId) : ConversationEvent where
  eventId := env.newId
  conversationId := prepared.conversationId
  eventKind := .userMessage
  actorType := .user
  originClass := .currentUserInstruction
  parentEventIds := prepared.parentEventIds
  sequenceHint := some prepared.sequence
  contentReference := some ("artifact:".toList ++ uuidText artifactId)
  operationId := some request.operationId
  extensions := [("instruction_origin_id", .str (uuidText originId))]

/-- The event of the context. -/
def contextEvent (env : Surroundings) (prepared : PreparedTurn) (request : TurnRequest)
    (artifactId parent : RecordId) : ConversationEvent where
  eventId := env.newId
  conversationId := prepared.conversationId
  eventKind := .systemContextSnapshot
  actorType := .system
  originClass := .currentUserInstruction
  parentEventIds := [parent]
  sequenceHint := some (prepared.sequence + 1)
  contentReference := some ("artifact:".toList ++ uuidText artifactId)
  modelManifestId := some (uuidText prepared.model.envelope.id)
  runtimeAdapterId := some prepared.runtime.content.adapterId
  operationId := some request.operationId
  extensions := [("binding_id", .str (uuidText prepared.binding.envelope.id)),
    ("renderer_version", .str "doll.local-conversation.prompt.v1".toList)]

/-- The event of a completed answer. -/
def assistantEvent (env : Surroundings) (prepared : PreparedTurn) (request : TurnRequest)
    (artifactId originId parent : RecordId) : ConversationEvent where
  eventId := env.newId
  conversationId := prepared.conversationId
  eventKind := .assistantMessage
  actorType := .assistant
  originClass := .runtimeOutput
  parentEventIds := [parent]
  sequenceHint := some (prepared.sequence + 2)
  contentReference := some ("artifact:".toList ++ uuidText artifactId)
  modelManifestId := some (uuidText prepared.model.envelope.id)
  runtimeAdapterId := some prepared.runtime.content.adapterId
  operationId := some request.operationId
  extensions := [("instruction_origin_id", .str (uuidText originId))]

/-- The event of an answer that is not completed. -/
def errorEvent (env : Surroundings) (prepared : PreparedTurn) (request : TurnRequest)
    (result : RuntimeGenerationResult) (code : DollState.Runtime.FailureCode) (parent : RecordId) :
    ConversationEvent where
  eventId := env.newId
  conversationId := prepared.conversationId
  eventKind := .error
  actorType := .runtime
  originClass := .runtimeOutput
  parentEventIds := [parent]
  sequenceHint := some (prepared.sequence + 2)
  modelManifestId := some (uuidText prepared.model.envelope.id)
  runtimeAdapterId := some prepared.runtime.content.adapterId
  operationId := some request.operationId
  extensions := [("failure_code", .str (PromptRules.failureText code)),
    ("outcome", .str (PromptRules.outcomeText result.outcome))] ++ PromptRules.guidance code

/-- The last event of `_persist_turn`: the assistant's message, or the error. -/
def saveAnswer (env : Surroundings) (prepared : PreparedTurn) (request : TurnRequest)
    (result : RuntimeGenerationResult) (parent : RecordId) (artifactId originId : Option RecordId) :
    Attempt (World × Created) TurnError (Option RecordId × Option RecordId) :=
  if result.outcome = .completed then
    match artifactId, originId with
    | some artifactId, some originId => do
      let id ← saveEvent env (assistantEvent env prepared request artifactId originId parent) .modelProposed
        request.sensitivity
      return (some id, none)
    | _, _ => Attempt.raise (.persistence "completed output is incomplete")
  else match result.failureCode with
    | some code => do
      let id ← saveEvent env (errorEvent env prepared request result code parent) .systemGenerated
        request.sensitivity
      return (none, some id)
    | none => Attempt.raise (.persistence "failed local runtime result has no failure code")

/-- `_persist_turn`; its steps draw on the surroundings from the third on. -/
def persistTurn (env : ℕ → Surroundings) (service : TurnService) (prepared : PreparedTurn) (request : TurnRequest)
    (package : PromptPackage) (userOriginId : RecordId) (answer : Settled) (runtimeOriginId : Option RecordId) :
    Attempt (World × Created) TurnError TurnResult := do
  let userArtifactId ← writeArtifact (env 2) service
    (messageArtifact request "user.txt" "Local conversation user message" request.userText .user)
  let contextArtifactId ← writeArtifact (env 3) service (contextArtifact prepared request package)
  let assistantArtifactId ← writeAnswer (env 4) service request answer.assistantText
  let userEventId ← saveEvent (env 5) (userEvent (env 5) prepared request userArtifactId userOriginId) .userCreated
    request.sensitivity
  let contextEventId ← saveEvent (env 6)
    (contextEvent (env 6) prepared request contextArtifactId userEventId) .systemGenerated request.sensitivity
  let (assistantEventId, errorEventId) ← saveAnswer (env 7) prepared request answer.result contextEventId
    assistantArtifactId runtimeOriginId
  return {
    userEventId, contextEventId, assistantEventId, errorEventId, outcome := answer.result.outcome,
    failureCode := answer.result.failureCode, runtimeId := answer.result.runtimeId,
    promptInjectionFindingCount := package.promptInjectionFindingCount,
    secretRedactionCount := package.secretRedactionCount }

/-- `AuditService.append`. -/
def appendAudit (env : Surroundings) (args : AuditAppendArgs) : Attempt World TurnError Unit := do
  let w ← Attempt.read
  let event ← ofState ((prepareAuditAppend env args).on w.1)
  let appended ← ofState (auditAppendTransaction event w.1)
  Attempt.write (appended, w.2)

/-- What distinguishes the two kinds of turn in their audit events and their errors. -/
structure TurnKind where
  name : String
  action : String
  metadata : TurnResult → ℕ → Metadata

/-- The event of the audit log for a turn. -/
def turnAudit (kind : TurnKind) (prepared : PreparedTurn) (request : TurnRequest) (turn : TurnResult)
    (displayed : ℕ) : AuditAppendArgs where
  action := kind.action.toList
  result := match turn.outcome with
    | .completed => .success
    | .cancelled => .cancelled
    | _ => .failed
  actorType := .system
  operationId := some request.operationId
  actorId := none
  targetType := some "conversation".toList
  targetId := some request.conversationId
  summary := none
  errorClass := none
  metadata := [("binding_id", .str (uuidText prepared.binding.envelope.id)),
    ("outcome", .str (PromptRules.outcomeText turn.outcome)),
    ("failure_code", Json.ofText? (turn.failureCode.map PromptRules.failureText)),
    ("finding_count", .int turn.promptInjectionFindingCount),
    ("redaction_count", .int turn.secretRedactionCount)] ++ kind.metadata turn displayed

/-! ## A turn -/

/-- `_context_ids`. -/
def contextIds (values : List Text) (userOriginId : RecordId) : Outcome (List Text) := do
  ensure (uuidText userOriginId ∉ values ∧ values.Nodup)
    (.validation "context instruction IDs contain duplicates")
  return values ++ [uuidText userOriginId]

/-- The package of the prompt, which fits into a request. -/
def packagePrompt (db : Database) (request : TurnRequest) (userOriginId : RecordId) : Outcome PromptPackage := do
  let ids ← contextIds request.contextInstructionIds userOriginId
  let package ← PromptRules.packageContext db ids
  ensure (package.promptText.length ≤ DollState.Runtime.maxRuntimeInputChars)
    (.validation "rendered local context exceeds runtime limit")
  return package

/-- The part of `execute_turn` inside its `try`. -/
def turnBody (env : ℕ → Surroundings) (service : TurnService) (prepared : PreparedTurn) (request : TurnRequest)
    (kind : TurnKind) (settled : Outcome Settled) : Attempt (World × Created) TurnError TurnResult := do
  let userOriginId ← createOrigin (env 0) "Current user message" request.userText
    (userSource request) request.operationId request.sensitivity
  let s ← (Attempt.read : Attempt (World × Created) TurnError (World × Created))
  let package ← packagePrompt s.1.1 request userOriginId
  let answer ← settled
  let runtimeOriginId ← createAnswerOrigin (env 1) prepared request answer.assistantText
  let turn ← persistTurn env service prepared request package userOriginId answer runtimeOriginId
  appendAudit (env 8) (turnAudit kind prepared request turn answer.displayed)
  return turn

/-- The rows of these identifiers are deleted. -/
def deleteRecords (db : Database) (ids : List RecordId) : Database :=
  { db with
    records := ⟨db.records.rows.filter fun row => row.id ∉ ids,
      db.records.nodup.sublist (List.filter_sublist.map _)⟩ }

/-- `_rollback_created`. -/
def rollbackCreated (created : Created) : Attempt World TurnError Unit := fun w =>
  (.ok (), (deleteRecords w.1 created.recordIds).commitStateRevision,
    w.2.filter fun file => file.1 ∉ created.paths)

/-- What `execute_turn` raises for an error of its body. -/
def raisedError (kind : TurnKind) : TurnError → TurnError
  | .validation message => .validation message
  | .duplicateOperation message => .duplicateOperation message
  | .persistence message => .persistence message
  | .rollback message => .rollback message
  | .promptInjection _ => .validation s!"{kind.name} input or context was rejected"
  | .state e =>
    if DollError.isA [.readOnlyState, .modelManifestValidation] e then .state e
    else if DollError.isA [.instructionOriginValidation, .instructionOriginCorrupt,
        .forbiddenInstructionMutation, .runtimeContract, .key] e then
      .validation s!"{kind.name} input or context was rejected"
    else .persistence s!"{kind.name} turn did not persist"
  | _ => .persistence s!"{kind.name} turn did not persist"

/-- The handler of `execute_turn`. -/
def cleanUpTurn (kind : TurnKind) (created : Created) (e : TurnError) : Attempt World TurnError TurnResult := do
  if created.recordIds ≠ [] ∨ created.paths ≠ [] then rollbackCreated created
  Attempt.raise (raisedError kind e)

/-- A turn of a kind, whose answer is settled as the function says. -/
def runTurn (env : ℕ → Surroundings) (service : TurnService) (request : TurnRequest) (kind : TurnKind)
    (settled : PreparedTurn → Outcome Settled) : Attempt World TurnError TurnResult := do
  let w ← Attempt.read
  let prepared ← prepareTurn (env 0) service request w.1
  Attempt.handling {} (turnBody env service prepared request kind (settled prepared)) (cleanUpTurn kind)

def turnKind : TurnKind where
  name := "local conversation"
  action := "local_conversation.turn"
  metadata turn _ :=
    [("guidance_id", Json.ofText? (turn.failureCode.map PromptRules.guidanceId)),
      ("available_option_count", .int ((turn.failureCode.map PromptRules.optionCount).getD 0))]

def streamingTurnKind : TurnKind where
  name := "local streaming conversation"
  action := "local_conversation.stream_turn"
  metadata _ displayed := [("stream_event_count", .int displayed)]

variable [RegexLibrary]

/-- What `execute_turn` makes of an answer. -/
def settleTurn (request : TurnRequest) (answer : Result RuntimeGenerationResult) (prepared : PreparedTurn) :
    Outcome Settled :=
  settle request.operationId prepared.runtime.content.adapterId prepared.model.content.runtimePrivateLocator answer

/-- What `execute_streaming_turn` makes of an answer. -/
def settleStreamingTurn (request : TurnRequest) (answer : Result RuntimeStreamResult) (prepared : PreparedTurn) :
    Outcome Settled :=
  settleStream request.operationId prepared.runtime.content.adapterId prepared.model.content.runtimePrivateLocator
    answer

/-- `execute_turn`. -/
def executeTurn (env : ℕ → Surroundings) (service : TurnService) (request : TurnRequest)
    (answer : Result RuntimeGenerationResult) : Attempt World TurnError TurnResult :=
  runTurn env service request turnKind (settleTurn request answer)

/-- `execute_streaming_turn`, without the events to display. -/
def executeStreamingTurn (env : ℕ → Surroundings) (service : TurnService) (request : TurnRequest)
    (answer : Result RuntimeStreamResult) : Attempt World TurnError TurnResult :=
  runTurn env service request streamingTurnKind (settleStreamingTurn request answer)

end

end DollState.Conversation
