import DollState.History.Objects

/-!
# The ChatGPT export adapter

The model of `chatgpt_export_import`. A `conversations.json` is a list of conversations, each with a
mapping from node identifiers to nodes, which may hold a message. The selected conversations are mapped
to source objects, the others are only counted. What is wrong with a message makes it a malformed
object, what is wrong with a conversation ends the import.
-/

namespace DollState.History.ChatGPT

open StateLib JsonText Import

/-! ## Fields -/

def conversationKeys : List String :=
  ["id", "conversation_id", "title", "create_time", "update_time", "mapping", "current_node",
    "conversation_template_id", "gizmo_id", "is_archived", "is_starred", "safe_urls", "blocked_urls",
    "default_model_slug", "conversation_origin", "voice", "async_status", "disabled_tool_ids",
    "is_do_not_remember", "project_id", "sugar_item_id", "sugar_item_visible", "context_scopes",
    "moderation_results", "plugin_ids"]

def nodeKeys : List String := ["id", "message", "parent", "children"]

def messageKeys : List String :=
  ["id", "author", "create_time", "update_time", "content", "status", "end_turn", "weight", "metadata",
    "recipient", "channel"]

def authorKeys : List String := ["role", "name", "metadata"]

def contentKeys : List String :=
  ["content_type", "parts", "text", "result", "language", "response_format_name"]

/-- `sorted(set(entries) - known)`. -/
def unknownKeys (entries : List (Str × Json)) (known : List String) : List Str :=
  ((entries.map Prod.fst).filter fun k => k ∉ known.map key).insertionSort Str.le

def maxTextLength : Nat := 1048576
def maxSelectionCount : Nat := 1000

/-- `_text`. -/
def text (name : String) (maximum : Nat) : Json → Staged Str
  | .str s => do
    ensure (s ≠ [] ∧ s.length ≤ maximum) (adapterError s!"{name} must be bounded non-empty text")
    return s
  | _ => .error (adapterError s!"{name} must be bounded non-empty text")

/-- `_optional_text`. -/
def optionalText (name : String) (maximum : Nat) : Json → Staged (Option Str)
  | .null => .ok none
  | value => do
    let s ← text name maximum value
    return some s

/-- A character that `_IDENTIFIER_PATTERN` refuses. -/
def isControl (c : CodePoint) : Bool := c.toNat < 32 || c.toNat == 127

/-- `_identifier`. -/
def identifier (name : String) (value : Json) : Staged Str := do
  let s ← text name 256 value
  ensure (s.any isControl = false) (adapterError s!"{name} is invalid")
  return s

/-- `_optional_identifier`. -/
def optionalIdentifier (name : String) : Json → Staged (Option Str)
  | .null => .ok none
  | value => do
    let s ← identifier name value
    return some s

/-- `float(value)` raises. -/
def overflowsFloat (i : Int) : Bool := 2 ^ 1024 - 2 ^ 970 ≤ i.natAbs

section

variable [PythonLibrary] [HistoryLibrary]

/-- `_optional_timestamp`. -/
def optionalTimestamp (name : String) : Json → Staged (Option Text)
  | .null => .ok none
  | .int i => do
    ensure (overflowsFloat i = false) ⟨.overflow, "int too large to convert to float"⟩
    let written ← orFail (adapterError s!"{name} is invalid") (HistoryLibrary.timestampText (.int i))
    return some written
  | .float literal => do
    let written ← orFail (adapterError s!"{name} is invalid")
      (HistoryLibrary.timestampText (.float literal))
    return some written
  | .str s => do
    ensure (s ≠ []) (adapterError s!"{name} is invalid")
    let parsed ← orFail (adapterError s!"{name} is invalid") (parseIso (replaceZulu s))
    ensure (parsed.utcoffset.isSome = true) (adapterError s!"{name} must include a timezone")
    let written ← orFail ⟨.overflow, "date value out of range"⟩ (HistoryLibrary.utcText parsed)
    return some written
  | _ => .error (adapterError s!"{name} is invalid")

end

def attachmentKeys : List String :=
  ["asset_pointer", "file_id", "attachment_id", "image_asset_pointer"]

mutual

/-- `_attachment_reference_count`. -/
def attachmentReferenceCount : Json → Nat
  | .obj entries => attachmentCountOfEntries entries
  | .arr items => attachmentCountOfItems items
  | _ => 0

/-- The keys of a dictionary that refer to an attachment, and those in its values. -/
def attachmentCountOfEntries : List (Str × Json) → Nat
  | [] => 0
  | (name, value) :: entries =>
    (if name ∈ attachmentKeys.map key then 1 else 0) + attachmentReferenceCount value +
      attachmentCountOfEntries entries

def attachmentCountOfItems : List Json → Nat
  | [] => 0
  | item :: items => attachmentReferenceCount item + attachmentCountOfItems items

end

/-- `_metadata_value`. -/
def metadataValue (value : Json) (name : String) : Json :=
  match value with
  | .obj entries => entry entries (key name)
  | _ => .null

/-! ## Counts -/

/-- `_ConversationCounts`. -/
structure ConversationCounts where
  nodeCount : Nat
  messageCount : Nat
  selectedMessageCount : Nat
  supportedMessageCount : Nat
  unsupportedMessageCount : Nat
  attachmentReferenceCount : Nat
  malformedObjectCount : Nat
  unknownFieldCount : Nat
deriving DecidableEq

def ConversationCounts.zero : ConversationCounts := ⟨0, 0, 0, 0, 0, 0, 0, 0⟩

def ConversationCounts.add (a b : ConversationCounts) : ConversationCounts where
  nodeCount := a.nodeCount + b.nodeCount
  messageCount := a.messageCount + b.messageCount
  selectedMessageCount := a.selectedMessageCount + b.selectedMessageCount
  supportedMessageCount := a.supportedMessageCount + b.supportedMessageCount
  unsupportedMessageCount := a.unsupportedMessageCount + b.unsupportedMessageCount
  attachmentReferenceCount := a.attachmentReferenceCount + b.attachmentReferenceCount
  malformedObjectCount := a.malformedObjectCount + b.malformedObjectCount
  unknownFieldCount := a.unknownFieldCount + b.unknownFieldCount

/-- Source objects with their counts. -/
abbrev Mapped := List SourceObject × ConversationCounts

/-- The counts of a message in a conversation that is not selected. -/
def inventoryMessage (message : List (Str × Json)) : ConversationCounts :=
  let author := entry message (key "author")
  let content := entry message (key "content")
  let unknownOf : Json → List String → Nat
    | .obj entries, known => (unknownKeys entries known).length
    | _, _ => 0
  let malformedOf : Json → Nat
    | .obj _ => 0
    | _ => 1
  { ConversationCounts.zero with
    messageCount := 1
    attachmentReferenceCount := (match content with
      | .obj entries => attachmentReferenceCount (.obj entries)
      | _ => 0) + attachmentReferenceCount (entry message (key "metadata"))
    malformedObjectCount := malformedOf author + malformedOf content
    unknownFieldCount := (unknownKeys message messageKeys).length + unknownOf author authorKeys +
      unknownOf content contentKeys }

/-- The counts of a node in a conversation that is not selected. -/
def inventoryNode : Json → ConversationCounts
  | .obj node =>
    let unknown := (unknownKeys node nodeKeys).length
    match entry node (key "message") with
    | .null => { ConversationCounts.zero with unknownFieldCount := unknown }
    | .obj message => ConversationCounts.add { ConversationCounts.zero with
        unknownFieldCount := unknown } (inventoryMessage message)
    | _ => { ConversationCounts.zero with malformedObjectCount := 1, unknownFieldCount := unknown }
  | _ => { ConversationCounts.zero with malformedObjectCount := 1 }

/-- `_inventory_conversation`. -/
def inventoryConversation (conversation : List (Str × Json)) : Staged ConversationCounts := do
  let mapping ← object "conversation mapping" (entry conversation (key "mapping"))
  return (mapping.map fun e => inventoryNode e.2).foldl ConversationCounts.add
    { ConversationCounts.zero with
      nodeCount := mapping.length
      unknownFieldCount := (unknownKeys conversation conversationKeys).length }

/-! ## Messages -/

/-- `_unsupported_object`. -/
def unsupportedObject (native : NativeId) (scope : String) (fieldNames : List Str)
    (parent : NativeId) : SourceObject where
  native := native
  sourceType := "chatgpt-unknown-provider-fields"
  parents := [parent]
  payload := [(key "scope", .str (key scope)), (key "field_names", .arr (fieldNames.map .str)),
    (key "field_count", .int fieldNames.length)]

/-- A conversation under which nodes are mapped. -/
def conversationId (conversation : Str) : NativeId := ⟨.conversation, conversation, [], rfl⟩

/-- An object of a node. -/
def nodeId (kind : ObjectKind) (h : kind.arity = 1) (conversation node : Str) : NativeId :=
  ⟨kind, conversation, [node], h.symm⟩

/-- `_nearest_message_parent`, for the nodes that have not been visited. A node that has been visited
or is missing is named as the parent, so that the search ends after every node has been visited. -/
def nearestMessageParent (conversation : Str) (messageNodes : List Str) :
    Nat → List (Str × Json) → Json → Staged NativeId
  | _, _, .null => .ok (conversationId conversation)
  | 0, _, current => do
    let parentId ← identifier "parent node id" current
    return nodeId .message rfl conversation parentId
  | nodes + 1, unvisited, current => do
    let parentId ← identifier "parent node id" current
    match unvisited.lookup parentId with
    | none => return nodeId .message rfl conversation parentId
    | some .null => return nodeId .message rfl conversation parentId
    | some rawParent =>
      if parentId ∈ messageNodes then return nodeId .message rfl conversation parentId
      else do
        let parent ← object "parent node" rawParent
        nearestMessageParent conversation messageNodes nodes
          (unvisited.filter fun e => e.1 ≠ parentId) (entry parent (key "parent"))

/-- The node holds a message. -/
def isMessageNode : Json → Bool
  | .obj node => match entry node (key "message") with
    | .obj _ => true
    | _ => false
  | _ => false

/-- The names of the unknown fields of a message. -/
def unknownMessageFields (node message author content : List (Str × Json)) : List Str :=
  unknownKeys node nodeKeys ++ (unknownKeys message messageKeys).map (key "message." ++ ·) ++
    (unknownKeys author authorKeys).map (key "author." ++ ·) ++
    (unknownKeys content contentKeys).map (key "content." ++ ·)

/-- The parts of a text, if all of them are. -/
def textParts (parts : List Json) : Option (List Str) := parts.mapM Value.str?

section

variable [PythonLibrary] [HistoryLibrary]

/-- The payload of a supported message. -/
def messagePayload (message author : List (Str × Json)) (nodeName : Str) (index : Nat) (role : Str)
    (contentType : Str) (occurredAt : Option Text) (messageName : Option Str) (parts : List Str) :
    Staged (List (Str × Json)) := do
  let text := [CodePoint.scalar '\n'].intercalate parts
  ensure (text.length ≤ maxTextLength) (adapterError "message text exceeds adapter limit")
  let name ← optionalText "author name" 256 (entry author (key "name"))
  let status ← optionalText "message status" 128 (entry message (key "status"))
  let model ← optionalText "source model" 256
    (metadataValue (entry message (key "metadata")) "model_slug")
  return [(key "text", .str text), (key "occurred_at", ofStr? (occurredAt.map Str.ofText)),
    (key "sequence_hint", .int (index + 1)), (key "source_role", .str role),
    (key "source_author_name", ofStr? name), (key "source_message_id", ofStr? messageName),
    (key "source_node_id", .str nodeName), (key "source_status", ofStr? status),
    (key "source_model", ofStr? model), (key "source_content_type", .str contentType)]

/-- The source object of a message that is mapped as text, if it is. -/
def supportedMessage (conversation nodeName : Str) (index : Nat) (parent : NativeId)
    (message author content : List (Str × Json)) (role contentType : Str)
    (occurredAt : Option Text) (messageName : Option Str) : Staged (Option SourceObject) :=
  match roleToSourceType role with
  | none => .ok none
  | some sourceType =>
    if contentType = key "text" then do
      let parts ← list "message content parts" (entry content (key "parts"))
      match textParts parts with
      | none => return none
      | some parts => do
        let payload ← messagePayload message author nodeName index role contentType occurredAt
          messageName parts
        return some ⟨nodeId .message rfl conversation nodeName, sourceType, [parent], payload⟩
    else .ok none

/-- `_map_message`. -/
def mapMessage (conversation nodeName : Str) (index : Nat) (parent : NativeId) (rawMessage : Json)
    (node : List (Str × Json)) : Staged Mapped := do
  let message ← object s!"message node {index}" rawMessage
  let _ ← identifier "node id" (.str nodeName)
  let messageName ← optionalIdentifier "message id" (entry message (key "id"))
  let author ← object "message author" (entry message (key "author"))
  let role ← text "message role" 64 (entry author (key "role"))
  let content ← object "message content" (entry message (key "content"))
  let contentType ← text "content type" 128 (entry content (key "content_type"))
  let occurredAt ← optionalTimestamp "message create time" (entry message (key "create_time"))
  let unknownFields := unknownMessageFields node message author content
  let attachments := attachmentReferenceCount (.obj content) +
    attachmentReferenceCount (entry message (key "metadata"))
  let supported ← supportedMessage conversation nodeName index parent message author content role
    contentType occurredAt messageName
  let holder := if supported.isSome then nodeId .message rfl conversation nodeName
    else conversationId conversation
  let mapped : SourceObject := supported.getD
    { native := nodeId .unsupported rfl conversation nodeName
      sourceType := "chatgpt-unsupported-message"
      parents := [parent]
      payload := [(key "occurred_at", ofStr? (occurredAt.map Str.ofText)),
        (key "source_role", .str role), (key "source_node_id", .str nodeName),
        (key "source_message_id", ofStr? messageName), (key "source_content_type", .str contentType),
        (key "attachment_reference_count", .int attachments)] }
  let references : List SourceObject := if attachments = 0 then [] else
    [{ native := nodeId .attachmentReference rfl conversation nodeName
       sourceType := "chatgpt-attachment-reference"
       parents := [holder]
       payload := [(key "source_node_id", .str nodeName),
         (key "attachment_reference_count", .int attachments)] }]
  let fields : List SourceObject := if unknownFields = [] then [] else
    [unsupportedObject (nodeId .messageFields rfl conversation nodeName) "message" unknownFields
      holder]
  return (mapped :: references ++ fields,
    { ConversationCounts.zero with
      messageCount := 1
      selectedMessageCount := 1
      supportedMessageCount := if supported.isSome then 1 else 0
      unsupportedMessageCount := if supported.isSome then 0 else 1
      attachmentReferenceCount := attachments
      unknownFieldCount := unknownFields.length })

/-! ## Conversations -/

/-- What a message is mapped to that an exception of the adapter has been raised for. -/
def malformedMessage (conversation nodeName : Str) (reason : String) : Mapped :=
  ([{ native := nodeId .malformed rfl conversation nodeName
      sourceType := "chatgpt-malformed-message"
      parents := [conversationId conversation]
      payload := [(key "source_node_id", .str nodeName), (key "reason", .str (key reason))] }],
    { ConversationCounts.zero with
      messageCount := 1
      selectedMessageCount := 1
      unsupportedMessageCount := 1
      malformedObjectCount := 1 })

/-- `except ChatGPTExportImportError`. -/
def orMalformed (conversation nodeName : Str) (x : Staged Mapped) : Staged Mapped :=
  match x with
  | .ok mapped => .ok mapped
  | .error e =>
    if e.kind = .adapter then .ok (malformedMessage conversation nodeName e.message) else .error e

/-- A node without a message. -/
def mapEmptyNode (conversation nodeName : Str) (node : List (Str × Json)) : Mapped :=
  let unknown := unknownKeys node nodeKeys
  (if unknown = [] then [] else
    [unsupportedObject (nodeId .nodeFields rfl conversation nodeName) "node" unknown
      (conversationId conversation)],
    { ConversationCounts.zero with
      malformedObjectCount := if unknown = [] then 0 else 1
      unknownFieldCount := unknown.length })

/-- The body of the loop of `_map_conversation`. -/
def mapNode (conversation : Str) (mapping : List (Str × Json)) (index : Nat) (nodeName : Str)
    (rawNode : Json) : Staged Mapped := do
  let node ← object s!"conversation node {index}" rawNode
  match entry node (key "message") with
  | .null => return mapEmptyNode conversation nodeName node
  | message => orMalformed conversation nodeName do
    let parent ← nearestMessageParent conversation
      ((mapping.filter fun e => isMessageNode e.2).map Prod.fst) mapping.length mapping
      (entry node (key "parent"))
    mapMessage conversation nodeName index parent message node

/-- The loop of `_map_conversation` from an index on. -/
def mapNodes (conversation : Str) (mapping : List (Str × Json)) :
    Nat → List (Str × Json) → Staged Mapped
  | _, [] => .ok ([], .zero)
  | index, (nodeName, rawNode) :: nodes => do
    let (objects, counts) ← mapNode conversation mapping index nodeName rawNode
    let (others, more) ← mapNodes conversation mapping (index + 1) nodes
    return (objects ++ others, counts.add more)

/-- `_map_conversation`. -/
def mapConversation (conversation : List (Str × Json)) (name : Str) : Staged Mapped := do
  let title ← optionalText "conversation title" 4096 (entry conversation (key "title"))
  let createdAt ← optionalTimestamp "conversation create time"
    (entry conversation (key "create_time"))
  let mapping ← object "conversation mapping" (entry conversation (key "mapping"))
  let unknown := unknownKeys conversation conversationKeys
  let currentNode ← optionalIdentifier "current node" (entry conversation (key "current_node"))
  let (nodes, counts) ← mapNodes name mapping 0 (mapping.insertionSort fun a b => a.1.le b.1)
  let self : SourceObject :=
    { native := conversationId name
      sourceType := "conversation"
      parents := []
      payload := [(key "title", ofStr? title),
        (key "occurred_at", ofStr? (createdAt.map Str.ofText)),
        (key "source_conversation_id", .str name), (key "source_current_node", ofStr? currentNode)] }
  let fields : List SourceObject := if unknown = [] then [] else
    [unsupportedObject ⟨.conversationFields, name, [], rfl⟩ "conversation" unknown
      (conversationId name)]
  return (self :: fields ++ nodes,
    ConversationCounts.add { ConversationCounts.zero with
      nodeCount := mapping.length, unknownFieldCount := unknown.length } counts)

/-! ## The root -/

/-- `first != second` is false. -/
def sameIdentity : Json → Json → Bool
  | .str s, .str t => s = t
  | .str _, _ => false
  | _, .str _ => false
  | first, second => HistoryLibrary.sameValue first second

/-- `_conversation_identity`. -/
def conversationIdentity (index : Nat) (rawConversation : Json) :
    Staged (List (Str × Json) × Str) := do
  let conversation ← object s!"conversation {index}" rawConversation
  match entry conversation (key "id"), entry conversation (key "conversation_id") with
  | .null, .null => .error (adapterError "conversation id is missing")
  | .null, second => do
    let name ← identifier "conversation id" second
    return (conversation, name)
  | first, .null => do
    let name ← identifier "conversation id" first
    return (conversation, name)
  | first, second => do
    ensure (sameIdentity first second = true) (adapterError "conversation identifiers conflict")
    let name ← identifier "conversation id" first
    return (conversation, name)

/-- A conversation that is selected is mapped, any other only counted. -/
def mapOrCount (selected : List Str) (conversation : List (Str × Json)) (name : Str) :
    Staged Mapped :=
  if name ∈ selected then mapConversation conversation name
  else do
    let counts ← inventoryConversation conversation
    return ([], counts)

/-- The loop of `stage` from an index on: the objects, the counts and the identifiers found. -/
def mapRoot (selected : List Str) : Nat → List Json → Staged (Mapped × List Str)
  | _, [] => .ok (([], .zero), [])
  | index, rawConversation :: rest => do
    let (conversation, name) ← conversationIdentity index rawConversation
    let (objects, counts) ← mapOrCount selected conversation name
    let ((others, more), found) ← mapRoot selected (index + 1) rest
    return ((objects ++ others, counts.add more), if name ∈ selected then name :: found else found)

/-- `_selected_ids`. -/
def selectedIds (value : List Str) : Staged (List Str) := do
  ensure (value ≠ [] ∧ value.length ≤ maxSelectionCount)
    (adapterError "selected conversation ids are invalid")
  let selected ← value.mapM fun item => identifier "selected conversation id" (.str item)
  ensure (selected.Nodup) (adapterError "selected conversation ids contain duplicates")
  return selected

end

/-! ## The adapter -/

/-- `_json_depth`. -/
def jsonDepth (value : Json) : Nat := calls value

/-- What an adapter is built with, which it has found to be compatible. -/
structure Adapter where
  contract : SourceAdapterContract
  adapterId : contract.adapterId = "chatgpt-conversations".toList
  adapterVersion : contract.adapterVersion = "1.0.0".toList
  environmentClass : contract.sourceEnvironmentClass = "cloud-ai-history-export".toList
  offline : contract.networkBehavior = .none

/-- `ChatGPTExportInventory`. -/
structure Inventory where
  sourceRootHash : Digest
  conversationCount : Nat
  selectedConversationCount : Nat
  counts : ConversationCounts
  sourceObjectCount : Nat

/-- `ChatGPTExportStageResult`. -/
structure StageResult where
  sourceEnvironment : SourceEnvironmentRecord
  inventory : Inventory
  stageResult : GenericImportStageResult

/-- The arguments of `stage` besides the source. -/
structure StageArgs where
  sourceEnvironmentId : Text
  selectedConversationIds : List Str
  batch : BatchContext
  observedAt : Text

/-- The environment that the objects are staged for. -/
def intermediateEnvironment (environmentId : RecordId) (observedAt : Text) :
    SourceEnvironmentRecord where
  environmentId := environmentId
  environmentClass := "cloud-ai-history-export".toList
  providerId := some "openai".toList
  applicationId := some "chatgpt".toList
  interfaceId := some "chatgpt.export".toList
  runtimeId := none
  exportFormat := none
  exportVersion := none
  observedAt := some observedAt

section

variable [PythonLibrary] [ImportLibrary] [HistoryLibrary]

/-- The stager of the adapter, for the generic format. -/
def Adapter.stager (adapter : Adapter) (environmentId : RecordId) (observedAt : Text) : Stager where
  adapter := { adapter.contract with
    supportedSourceVersions := ["1".toList]
    fingerprint := HistoryLibrary.fingerprint
      { adapter.contract with supportedSourceVersions := ["1".toList] } }
  environment := intermediateEnvironment environmentId observedAt
  offline := adapter.offline
  sameClass := adapter.environmentClass

/-- `_timestamp`. -/
def timestamp (name : String) (value : Text) : Staged Text := do
  let written ← optionalTimestamp name (.str (Str.ofText value))
  orFail (adapterError s!"{name} is required") written

/-- `_load_root`, with the checks of the bytes before it. -/
def Adapter.loadRoot (adapter : Adapter) (sourceBytes : ByteArray) (args : StageArgs) :
    Staged (Text × List Str × List Json) := do
  ensure (sourceBytes.size ≠ 0) (adapterError "source input must not be empty")
  ensure (sourceBytes.size ≤ adapter.contract.resourceLimits.maxInputBytes)
    (adapterError "source input exceeds adapter byte limit")
  let selected ← selectedIds args.selectedConversationIds
  let sourceText ← orFail (adapterError "source input is not valid UTF-8") (decodeUtf8 sourceBytes)
  let value ← loadJson sourceText "source input is not valid JSON"
  let root ← list "source root" value
  return (sourceText, selected, root)

/-- The source objects of a root, with their counts. -/
def Adapter.sourceObjects (adapter : Adapter) (selected : List Str) (root : List Json) :
    Staged Mapped := do
  ensure (jsonDepth (.arr root) ≤ ImportLibrary.depthLevels)
    (adapterError "source nesting exceeds safe parser depth")
  ensure (jsonDepth (.arr root) ≤ adapter.contract.resourceLimits.maxNestingDepth)
    (adapterError "source nesting exceeds adapter limit")
  ensure (root.length ≤ adapter.contract.resourceLimits.maxObjectCount)
    (adapterError "conversation count exceeds adapter object limit")
  let (mapped, found) ← mapRoot selected 0 root
  ensure (∀ name ∈ selected, name ∈ found)
    (adapterError "one or more selected conversation ids were not found")
  ensure (mapped.1.length ≤ adapter.contract.resourceLimits.maxObjectCount)
    (adapterError "source object count exceeds adapter limit")
  return mapped

/-- What a source is mapped to, and the stager that its objects are staged with. -/
structure Prepared where
  sourceText : Text
  conversationCount : Nat
  selectedCount : Nat
  mapped : Mapped
  stager : Stager

/-- The part of `stage` before the objects are written. -/
def Adapter.prepare (adapter : Adapter) (sourceBytes : ByteArray) (args : StageArgs) :
    Staged Prepared := do
  let (sourceText, selected, root) ← adapter.loadRoot sourceBytes args
  let mapped ← adapter.sourceObjects selected root
  let observedAt ← timestamp "observed at" args.observedAt
  let environmentId ← validateUuid "environment id" args.sourceEnvironmentId
  let observedAt ← validateTimestamp "observed at" observedAt
  return ⟨sourceText, root.length, selected.length, mapped,
    adapter.stager environmentId observedAt⟩

/-- `stage`. -/
def Adapter.stage (adapter : Adapter) (sourceBytes : ByteArray) (args : StageArgs) :
    Staged StageResult := do
  let p ← adapter.prepare sourceBytes args
  let sourceRootHash := ImportLibrary.sha256 p.sourceText
  let staged ← stageObjects p.stager sourceRootHash p.mapped.1 args.batch
  return {
    sourceEnvironment := { p.stager.environment with
      exportFormat := some "chatgpt-conversations-json".toList
      exportVersion := some "observed-v1".toList }
    inventory := { sourceRootHash, conversationCount := p.conversationCount
                   selectedConversationCount := p.selectedCount, counts := p.mapped.2
                   sourceObjectCount := p.mapped.1.length }
    stageResult := staged }

end

end DollState.History.ChatGPT
