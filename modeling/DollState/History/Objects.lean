import DollState.Library.JsonLoads
import DollState.Import.Stage

/-!
# The objects of a chat history

What `chatgpt_export_import` and `ollama_session_import` share: a history is mapped to source objects,
which are written as a JSON source of the generic format and staged by `GenericImportStager`. The
identifier of a source object joins the texts that identify it in the history, its native identity.
-/

namespace DollState.History

open StateLib JsonText Import

abbrev Json := Value Str

/-- `ChatGPTExportImportError(message)` and `OllamaSessionImportError(message)`. -/
def adapterError (message : String) : ImportError := ⟨.adapter, message⟩

/-- What Python has beside the parts that a generic import rests on. -/
class HistoryLibrary where
  /-- `datetime.fromisoformat` of a string with an unpaired surrogate, `none` for a `ValueError`. -/
  fromisoformat : Str → Option Datetime
  /-- `value.astimezone(UTC).isoformat().replace("+00:00", "Z")`, `none` for an `OverflowError`. -/
  utcText : Datetime → Option Text
  /-- `datetime.fromtimestamp(float(value), tz=UTC)` of a number, written like that: `none` if the
  float is negative or not finite, and for an exception of `fromtimestamp`. -/
  timestampText : Json → Option Text
  /-- `==` of two values that are no strings. -/
  sameValue : Json → Json → Bool
  /-- The fingerprint of a contract. -/
  fingerprint : SourceAdapterContract → Digest

/-! ## Native identities -/

inductive ObjectKind where
  | conversation | message | unsupported | malformed | attachmentReference
  | conversationFields | nodeFields | messageFields | toolCall | attachment
deriving DecidableEq, Repr

/-- What the identifiers of the kind begin with. -/
def ObjectKind.lead : ObjectKind → String
  | .conversation => "conversation"
  | .message => "message"
  | .unsupported => "unsupported"
  | .malformed => "malformed"
  | .attachmentReference => "attachment-reference"
  | .conversationFields | .nodeFields | .messageFields => "unknown-fields"
  | .toolCall => "tool-call"
  | .attachment => "attachment"

/-- What the identifiers of the kind end with. -/
def ObjectKind.tail : ObjectKind → String
  | .conversationFields => ":conversation"
  | .nodeFields => ":node"
  | .messageFields => ":message"
  | _ => ""

/-- How many texts identify an object of the kind within its conversation. -/
def ObjectKind.arity : ObjectKind → Nat
  | .conversation | .conversationFields => 0
  | .toolCall | .attachment => 2
  | _ => 1

theorem arity_conversation : ([] : List Str).length = ObjectKind.conversation.arity := rfl

theorem arity_message : ObjectKind.message.arity = 1 := rfl

theorem arity_unsupported : ObjectKind.unsupported.arity = 1 := rfl

theorem arity_attachmentReference : ObjectKind.attachmentReference.arity = 1 := rfl

theorem arity_messageFields : ObjectKind.messageFields.arity = 1 := rfl

/-- The native identity of a source object. -/
structure NativeId where
  kind : ObjectKind
  conversation : Str
  path : List Str
  path_length : path.length = kind.arity
deriving DecidableEq

def colon : CodePoint := .scalar ':'

/-- The identifier that an adapter gives to a source object. -/
def NativeId.str (n : NativeId) : Str :=
  key n.kind.lead ++ colon :: [colon].intercalate (n.conversation :: n.path) ++ key n.kind.tail

/-! ## Source objects -/

/-- The arguments of `_generic_object`. -/
structure SourceObject where
  native : NativeId
  sourceType : String
  parents : List NativeId
  payload : List (Str × Json)

/-- `_generic_object`. -/
def SourceObject.json (o : SourceObject) : Json :=
  .obj [(key "source_object_id", .str o.native.str), (key "source_type", .str (key o.sourceType)),
    (key "parent_source_object_ids", .arr (o.parents.map fun p => .str p.str)),
    (key "payload", .obj o.payload)]

/-- A text of a payload, or null. -/
def ofStr? : Option Str → Json
  | none => .null
  | some s => .str s

/-- `_ROLE_TO_SOURCE_TYPE.get(role)`. -/
def roleToSourceType (role : Str) : Option String :=
  if role = key "user" then some "user-message"
  else if role = key "assistant" then some "assistant-message"
  else if role = key "system" then some "system-message"
  else if role = key "tool" then some "tool-result"
  else none

/-! ## Values of a history -/

/-- `_object`; the keys of a decoded object are strings. -/
def object (name : String) : Json → Staged (List (Str × Json))
  | .obj entries => .ok entries
  | _ => .error (adapterError s!"{name} must be an object")

/-- `_list`. -/
def list (name : String) : Json → Staged (List Json)
  | .arr items => .ok items
  | _ => .error (adapterError s!"{name} must be a list")

/-- `value.replace("Z", "+00:00")`. -/
def replaceZulu (s : Str) : Str :=
  s.flatMap fun c => if c = .scalar 'Z' then key "+00:00" else [c]

section

variable [PythonLibrary] [ImportLibrary] [HistoryLibrary]

/-- `datetime.fromisoformat`. -/
def parseIso (s : Str) : Option Datetime :=
  match s.toText? with
  | some text => PythonLibrary.fromisoformat text
  | none => HistoryLibrary.fromisoformat s

/-! ## The generic source -/

/-- `_load_root` up to its last line. -/
def loadJson (sourceText : Text) (message : String) : Staged Json :=
  match loadsHooked hookConstant distinctKeys ImportLibrary.decodeLevels sourceText with
  | .ok value => .ok value
  | .error .recursion => .error recursionError
  | .error .value => .error ⟨.value, "Exceeds the limit (4300 digits) for integer string conversion"⟩
  | .error .decode => .error (adapterError message)
  | .error .hook => .error (adapterError message)

/-- `json.dumps(…).encode("utf-8")`. -/
def dumps (value : Json) : Staged Text := do
  match firstError ImportLibrary.floatRepr ImportLibrary.encodeLevels value with
  | some .notFinite => .error ⟨.value, "Out of range float values are not JSON compliant"⟩
  | some .recursion => .error recursionError
  | none => .ok ()
  let value ← orFail ⟨.unicodeEncode, "surrogates not allowed"⟩ value.toText?
  return Import.canonicalJson value

/-- The document that the source objects are written as. -/
def genericSource (sourceEnvironmentId : Text) (objects : List SourceObject) : Json :=
  .obj [(key "format", .str (key "doll-generic-import")), (key "format_version", .str (key "1")),
    (key "source_environment_id", .str (Str.ofText sourceEnvironmentId)),
    (key "objects", .arr (objects.map SourceObject.json))]

/-- The raw objects that the stager reads from what the source objects are written as. -/
def rawsOf (stager : Stager) (objects : List SourceObject) : Staged (List RawObject) := do
  let genericText ← dumps (genericSource (uuidText stager.environment.environmentId) objects)
  let (_, raws) ← stager.readText genericText .json
  return raws

/-- Write the source objects and stage them, for the source with this hash. -/
def stageObjects (stager : Stager) (sourceRootHash : Digest) (objects : List SourceObject)
    (ctx : BatchContext) : Staged GenericImportStageResult := do
  let genericText ← dumps (genericSource (uuidText stager.environment.environmentId) objects)
  let staged ← stager.stage (encodeUtf8 genericText) .json ctx
  return { staged with
    sourceRootHash := sourceRootHash
    importBatch := { staged.importBatch with sourceRootHash := sourceRootHash } }

end

end DollState.History
