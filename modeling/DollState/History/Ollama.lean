import DollState.History.Objects

/-!
# The Ollama session adapter

The model of `ollama_session_import`. A session bundle is one JSON document with exact keys at every
level; what is wrong anywhere in it ends the import.
-/

namespace DollState.History.Ollama

open StateLib JsonText Import

/-! ## Fields -/

def rootKeys : List String :=
  ["format", "format_version", "source_environment_id", "runtime_version", "exported_at",
    "conversations"]

def conversationKeys : List String := ["conversation_id", "title", "created_at", "messages"]

def messageKeys : List String :=
  ["message_id", "role", "content", "created_at", "parent_message_ids", "model", "attachments",
    "tool_calls"]

def attachmentKeys : List String := ["attachment_id", "name", "media_type", "size_bytes", "sha256"]

def toolCallKeys : List String := ["tool_call_id", "name", "arguments"]

def maxIdentifierLength : Nat := 256
def maxTextLength : Nat := 1048576

/-- `_require_exact_keys`; the keys of a decoded object are distinct. -/
def requireExactKeys (entries : List (Str × Json)) (expected : List String) (name : String) :
    Staged Unit :=
  ensure (entries.length = expected.length ∧ ∀ k ∈ expected, key k ∈ entries.map Prod.fst)
    (adapterError s!"{name} shape is invalid")

/-- `_text`. -/
def text (name : String) (allowEmpty : Bool) : Json → Staged Str
  | .str s => do
    ensure ((allowEmpty ∨ s ≠ []) ∧ s.length ≤ maxTextLength)
      (adapterError s!"{name} is outside the supported length")
    return s
  | _ => .error (adapterError s!"{name} must be text")

/-- `_optional_text`. -/
def optionalText (name : String) : Json → Staged (Option Str)
  | .null => .ok none
  | value => do
    let s ← text name false value
    return some s

/-- `_identifier`. -/
def identifier (name : String) (value : Json) : Staged Str := do
  let s ← text name false value
  ensure (s.length ≤ maxIdentifierLength ∧ s.all (fun c => 32 ≤ c.toNat) = true)
    (adapterError s!"{name} is invalid")
  return s

/-- `_nonnegative_int`. -/
def nonnegativeInt (name : String) : Json → Staged Int
  | .int i => do
    ensure (0 ≤ i) (adapterError s!"{name} must be a non-negative integer")
    return i
  | _ => .error (adapterError s!"{name} must be a non-negative integer")

def isHexDigit (c : CodePoint) : Bool :=
  (48 ≤ c.toNat && c.toNat ≤ 57) || (97 ≤ c.toNat && c.toNat ≤ 102)

/-- `_optional_sha256`. -/
def optionalSha256 (name : String) : Json → Staged (Option Str)
  | .null => .ok none
  | value => do
    let s ← text name false value
    ensure (s.length = 64 ∧ s.all isHexDigit = true) (adapterError s!"{name} is invalid")
    return some s

section

variable [PythonLibrary] [HistoryLibrary]

/-- `_timestamp`. -/
def timestamp (name : String) (value : Json) : Staged Str := do
  let s ← text name false value
  let normalized := if s.getLast? = some (.scalar 'Z') then s.dropLast ++ key "+00:00" else s
  let parsed ← orFail (adapterError s!"{name} is invalid") (parseIso normalized)
  ensure (parsed.utcoffset.isSome = true) (adapterError s!"{name} must include a timezone")
  return s

/-- `_optional_timestamp`. -/
def optionalTimestamp (name : String) : Json → Staged (Option Str)
  | .null => .ok none
  | value => do
    let s ← timestamp name value
    return some s

end

/-! ## Messages -/

/-- A message of a conversation, and the conversation. -/
def conversationId (conversation : Str) : NativeId := ⟨.conversation, conversation, [], arity_conversation⟩

def messageId (conversation message : Str) : NativeId := ⟨.message, conversation, [message], rfl⟩

/-- The body of the loop over the tool calls of a message. -/
def mapToolCall (conversation message : Str) (createdAt : Option Str) (index : Nat)
    (rawToolCall : Json) : Staged SourceObject := do
  let toolCall ← object s!"tool call {index}" rawToolCall
  requireExactKeys toolCall toolCallKeys "tool call"
  let toolId ← identifier "tool call id" (entry toolCall (key "tool_call_id"))
  let name ← text "tool call name" false (entry toolCall (key "name"))
  let arguments ← object "tool call arguments" (entry toolCall (key "arguments"))
  return {
    native := ⟨.toolCall, conversation, [message, toolId], rfl⟩
    sourceType := "tool-request"
    parents := [messageId conversation message]
    payload := [(key "name", .str name), (key "arguments", .obj arguments),
      (key "occurred_at", ofStr? createdAt), (key "source_tool_call_id", .str toolId)] }

/-- The body of the loop over the attachments of a message. -/
def mapAttachment (conversation message : Str) (createdAt : Option Str) (index : Nat)
    (rawAttachment : Json) : Staged SourceObject := do
  let attachment ← object s!"attachment {index}" rawAttachment
  requireExactKeys attachment attachmentKeys "attachment"
  let attachmentId ← identifier "attachment id" (entry attachment (key "attachment_id"))
  let name ← text "attachment name" false (entry attachment (key "name"))
  let mediaType ← optionalText "attachment media type" (entry attachment (key "media_type"))
  let sizeBytes ← nonnegativeInt "attachment size" (entry attachment (key "size_bytes"))
  let sha256 ← optionalSha256 "attachment SHA-256" (entry attachment (key "sha256"))
  return {
    native := ⟨.attachment, conversation, [message, attachmentId], rfl⟩
    sourceType := "attachment"
    parents := [messageId conversation message]
    payload := [(key "name", .str name), (key "media_type", ofStr? mediaType),
      (key "size_bytes", .int sizeBytes), (key "sha256", ofStr? sha256),
      (key "occurred_at", ofStr? createdAt), (key "source_attachment_id", .str attachmentId)] }

/-- The results of a body for the values, with the index of each, in their order. -/
def mapIndexed {α : Type} (body : Nat → Json → Staged α) : Nat → List Json → Staged (List α)
  | _, [] => .ok []
  | index, value :: values => do
    let mapped ← body index value
    let others ← mapIndexed body (index + 1) values
    return mapped :: others

/-- Source objects, the number of attachments and that of tool calls. -/
structure Mapped where
  objects : List SourceObject
  attachmentCount : Nat
  toolCallCount : Nat

section

variable [PythonLibrary] [HistoryLibrary]

/-- `_map_message`. -/
def mapMessage (conversation : Str) (index : Nat) (rawMessage : Json) : Staged Mapped := do
  let message ← object s!"message {index}" rawMessage
  requireExactKeys message messageKeys "message"
  let name ← identifier "message id" (entry message (key "message_id"))
  let role ← text "message role" false (entry message (key "role"))
  let content ← text "message content" true (entry message (key "content"))
  let createdAt ← optionalTimestamp "message created at" (entry message (key "created_at"))
  let model ← optionalText "message model" (entry message (key "model"))
  let parentItems ← list "parent message ids" (entry message (key "parent_message_ids"))
  let parentIds ← parentItems.mapM (identifier "parent message id")
  let self : SourceObject :=
    { native := messageId conversation name
      sourceType := (roleToSourceType role).getD "ollama-unsupported-role"
      parents := if parentIds = [] then [conversationId conversation]
        else parentIds.map (messageId conversation)
      payload := [(key "text", .str content), (key "occurred_at", ofStr? createdAt),
        (key "sequence_hint", .int (index + 1)), (key "source_role", .str role),
        (key "source_model", ofStr? model), (key "source_message_id", .str name)] }
  let toolCalls ← list "tool calls" (entry message (key "tool_calls"))
  let calls ← mapIndexed (mapToolCall conversation name createdAt) 0 toolCalls
  let attachments ← list "attachments" (entry message (key "attachments"))
  let files ← mapIndexed (mapAttachment conversation name createdAt) 0 attachments
  return ⟨self :: calls ++ files, attachments.length, toolCalls.length⟩

/-- `_map_conversation`, with the number of messages. -/
def mapConversation (runtimeVersion : Option Str) (index : Nat) (rawConversation : Json) :
    Staged (Mapped × Nat) := do
  let conversation ← object s!"conversation {index}" rawConversation
  requireExactKeys conversation conversationKeys "conversation"
  let name ← identifier "conversation id" (entry conversation (key "conversation_id"))
  let title ← optionalText "conversation title" (entry conversation (key "title"))
  let createdAt ← optionalTimestamp "conversation created at" (entry conversation (key "created_at"))
  let messages ← list "conversation messages" (entry conversation (key "messages"))
  let mapped ← mapIndexed (mapMessage name) 0 messages
  let self : SourceObject :=
    { native := conversationId name
      sourceType := "conversation"
      parents := []
      payload := [(key "title", ofStr? title), (key "occurred_at", ofStr? createdAt),
        (key "source_conversation_id", .str name),
        (key "source_runtime_version", ofStr? runtimeVersion)] }
  return (⟨self :: mapped.flatMap Mapped.objects, (mapped.map Mapped.attachmentCount).sum,
    (mapped.map Mapped.toolCallCount).sum⟩, messages.length)

end

/-! ## The adapter -/

/-- What an adapter is built with, which it has found to be compatible. -/
structure Adapter where
  contract : SourceAdapterContract
  adapterId : contract.adapterId = "ollama-api-session".toList
  adapterVersion : contract.adapterVersion = "1.0.0".toList
  environmentClass : contract.sourceEnvironmentClass = "local-ai-runtime-session".toList
  offline : contract.networkBehavior = .none

/-- `OllamaSessionInventory`. -/
structure Inventory where
  sourceRootHash : Digest
  runtimeVersion : Option Str
  conversationCount : Nat
  messageCount : Nat
  attachmentCount : Nat
  toolCallCount : Nat
  sourceObjectCount : Nat

/-- `OllamaSessionStageResult`. -/
structure StageResult where
  sourceEnvironment : SourceEnvironmentRecord
  inventory : Inventory
  stageResult : GenericImportStageResult

/-- The fields of a bundle. -/
structure Bundle where
  sourceEnvironmentId : Str
  runtimeVersion : Option Str
  exportedAt : Str
  conversations : List Json

/-- What the conversations of a bundle are mapped to. -/
structure MappedBundle where
  objects : List SourceObject
  messageCount : Nat
  attachmentCount : Nat
  toolCallCount : Nat

/-- The environment that the objects are staged for. -/
def intermediateEnvironment (environmentId : RecordId) (observedAt : Option Text) :
    SourceEnvironmentRecord where
  environmentId := environmentId
  environmentClass := "local-ai-runtime-session".toList
  providerId := none
  applicationId := some "ollama".toList
  interfaceId := some "ollama.api".toList
  runtimeId := some "ollama.local".toList
  exportFormat := none
  exportVersion := none
  observedAt := observedAt

/-- The stager of the adapter. -/
def Adapter.stager (adapter : Adapter) (environmentId : RecordId) (observedAt : Option Text) :
    Stager where
  adapter := adapter.contract
  environment := intermediateEnvironment environmentId observedAt
  offline := adapter.offline
  sameClass := adapter.environmentClass

section

variable [PythonLibrary] [ImportLibrary] [HistoryLibrary]

/-- The part of `stage` that reads the fields of the bundle. -/
def Adapter.loadBundle (adapter : Adapter) (sourceBytes : ByteArray) : Staged (Text × Bundle) := do
  ensure (sourceBytes.size ≠ 0) (adapterError "source input must not be empty")
  ensure (sourceBytes.size ≤ adapter.contract.resourceLimits.maxInputBytes)
    (adapterError "source input exceeds adapter byte limit")
  let sourceText ← orFail (adapterError "source input is not valid UTF-8") (decodeUtf8 sourceBytes)
  let value ← loadJson sourceText "source input is not valid canonical JSON"
  let root ← object "source root" value
  requireExactKeys root rootKeys "source root"
  ensure ((entry root (key "format")).str? = some (key "ollama-api-chat-session"))
    (adapterError "source format is unsupported")
  ensure (∃ version ∈ adapter.contract.supportedSourceVersions,
      (entry root (key "format_version")).str? = some (Str.ofText version))
    (adapterError "source format version is unsupported")
  let sourceEnvironmentId ← text "source environment id" false
    (entry root (key "source_environment_id"))
  let runtimeVersion ← optionalText "runtime version" (entry root (key "runtime_version"))
  let exportedAt ← timestamp "exported at" (entry root (key "exported_at"))
  let conversations ← list "conversations" (entry root (key "conversations"))
  return (sourceText, ⟨sourceEnvironmentId, runtimeVersion, exportedAt, conversations⟩)

/-- The source objects of a bundle. -/
def Adapter.sourceObjects (adapter : Adapter) (bundle : Bundle) : Staged MappedBundle := do
  let mapped ← mapIndexed (mapConversation bundle.runtimeVersion) 0 bundle.conversations
  let objects := mapped.flatMap fun m => m.1.objects
  ensure (objects.length ≤ adapter.contract.resourceLimits.maxObjectCount)
    (adapterError "source object count exceeds adapter limit")
  return ⟨objects, (mapped.map Prod.snd).sum, (mapped.map fun m => m.1.attachmentCount).sum,
    (mapped.map fun m => m.1.toolCallCount).sum⟩

/-- The check of `observed_at` by the environment record. A time with a surrogate for its separator
passes it, but the record here holds texts only. -/
def checkObservedAt (exportedAt : Str) : Staged (Option Text) :=
  match exportedAt.toText? with
  | some observedAt => (validateTimestamp "observed at" observedAt).map some
  | none => do
    let parsed ← orFail (Import.contract "observed at is invalid") (parseIso (replaceZulu exportedAt))
    ensure (parsed.utcoffset.isSome = true) (Import.contract "observed at must be timezone-aware")
    return none

/-- What a bundle is mapped to, and the stager that its objects are staged with. -/
structure Prepared where
  sourceText : Text
  bundle : Bundle
  mapped : MappedBundle
  stager : Stager

/-- The part of `stage` before the objects are written. -/
def Adapter.prepare (adapter : Adapter) (sourceBytes : ByteArray) : Staged Prepared := do
  let (sourceText, bundle) ← adapter.loadBundle sourceBytes
  let mapped ← adapter.sourceObjects bundle
  -- a string with a surrogate is no UUID
  let sourceEnvironmentId ← orFail (Import.contract "environment id is invalid")
    bundle.sourceEnvironmentId.toText?
  let environmentId ← validateUuid "environment id" sourceEnvironmentId
  let observedAt ← checkObservedAt bundle.exportedAt
  return ⟨sourceText, bundle, mapped, adapter.stager environmentId observedAt⟩

/-- `stage`. -/
def Adapter.stage (adapter : Adapter) (sourceBytes : ByteArray) (batch : BatchContext) :
    Staged StageResult := do
  let p ← adapter.prepare sourceBytes
  let sourceRootHash := ImportLibrary.sha256 p.sourceText
  let staged ← stageObjects p.stager sourceRootHash p.mapped.objects batch
  return {
    sourceEnvironment := { p.stager.environment with
      exportFormat := some "ollama-api-chat-session".toList
      exportVersion := some "1".toList }
    inventory := { sourceRootHash, runtimeVersion := p.bundle.runtimeVersion
                   conversationCount := p.bundle.conversations.length
                   messageCount := p.mapped.messageCount
                   attachmentCount := p.mapped.attachmentCount
                   toolCallCount := p.mapped.toolCallCount
                   sourceObjectCount := p.mapped.objects.length }
    stageResult := staged }

end

end DollState.History.Ollama
