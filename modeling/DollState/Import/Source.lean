import DollState.Import.Contracts

/-!
# The objects of a source

The model of the parsers of `generic_import`. A source is a JSON document or JSON Lines; each of
the two parsers returns the manifest and the raw objects, numbered in their order. An object whose
value has been hashed holds no unpaired surrogate and no infinite number, so that its strings are
texts from there on. `parseCandidate` turns a raw object into a candidate for staging.
-/

namespace DollState.Import

open StateLib JsonText

section

variable [PythonLibrary] [ImportLibrary]

/-! ## JSON -/

/-- `_strict_object`. -/
def strictObject (pairs : List (Str × Value Str)) : Option (List (Str × Value Str)) :=
  if (pairs.map Prod.fst).Nodup then some pairs else none

/-- `_strict_json_loads`. -/
def strictJsonLoads (sourceText : Text) (context : String) : Staged (Value Str) :=
  orFail (staging s!"{context} is invalid")
    (decode strictObject ImportLibrary.decodeLevels sourceText)

/-- A JSON value whose strings are texts. -/
abbrev TextValue := Value Text

/-- `_canonical_json`, of a value that is canonical. -/
def canonicalJson (value : TextValue) : Text := encode ImportLibrary.floatRepr value

/-- `_hash_json_value`, of a value that is canonical. -/
def hashValue (value : TextValue) : Digest := ImportLibrary.sha256 (canonicalJson value)

/-- `_hash_json_value`: the value that has been hashed and its hash. -/
def hashJsonValue (value : Value Str) : Staged (TextValue × Digest) := do
  match firstError ImportLibrary.floatRepr ImportLibrary.encodeLevels value with
  | some .notFinite => .error (staging "source value is not canonical JSON")
  | some .recursion => .error recursionError
  | none => .ok ()
  let value ← orFail ⟨.unicodeEncode, "surrogates not allowed"⟩ value.toText?
  return (value, hashValue value)

/-- `value[key]`, of an object that has the key. -/
def entry {S : Type} [DecidableEq S] (entries : List (S × Value S)) (key : S) : Value S :=
  (entries.lookup key).getD .null

/-- A key as the decoder returns it. -/
def key (name : String) : Str := Str.ofText name.toList

/-- `_require_exact_keys`; the keys of an object are distinct. -/
def requireExactKeys {S : Type} [DecidableEq S] (entries : List (S × Value S)) (expected : List S)
    (context : String) : Staged Unit :=
  ensure (entries.length = expected.length ∧ ∀ name ∈ expected, name ∈ entries.map Prod.fst)
    (staging s!"{context} fields are invalid")

/-! ## Raw objects -/

/-- `_RawObject`: a value, or the reason why there is none. -/
structure RawObject where
  inputIndex : Nat
  value : Option TextValue
  sourceHash : Digest
  parseReason : Option String

/-- The `manifest` dictionary of the parsers. -/
structure Manifest where
  format : Value Str
  formatVersion : Value Str
  sourceEnvironmentId : Value Str

def Manifest.ofEntries (entries : List (Str × Value Str)) : Manifest where
  format := entry entries (key "format")
  formatVersion := entry entries (key "format_version")
  sourceEnvironmentId := entry entries (key "source_environment_id")

/-- The raw object at an index of the list of the JSON document. -/
def rawObject (inputIndex : Nat) (item : Value Str) : Staged RawObject := do
  let (value, sourceHash) ← hashJsonValue item
  return ⟨inputIndex, some value, sourceHash, none⟩

/-- The raw objects of a list of values, the first of which is at `inputIndex`. -/
def rawObjects (inputIndex : Nat) : List (Value Str) → Staged (List RawObject)
  | [] => .ok []
  | item :: items => do
    let raw ← rawObject inputIndex item
    let raws ← rawObjects (inputIndex + 1) items
    return raw :: raws

/-- `_parse_json_envelope`. -/
def parseJsonEnvelope (sourceText : Text) : Staged (Manifest × List RawObject) := do
  match ← strictJsonLoads sourceText "JSON source envelope" with
  | .obj entries => do
    requireExactKeys entries
      [key "format", key "format_version", key "source_environment_id", key "objects"]
      "JSON source envelope"
    match entry entries (key "objects") with
    | .arr objects => do
      let raws ← rawObjects 0 objects
      return (Manifest.ofEntries entries, raws)
    | _ => .error (staging "JSON source objects must be a list")
  | _ => .error (staging "JSON source envelope must be an object")

/-- The keys of a source object. -/
def objectKeys : List String :=
  ["source_object_id", "source_type", "parent_source_object_ids", "payload"]

/-- The `try` block for one line: the value of its object without the kind of record, unhashed. -/
def lineObject (line : Text) : Staged (Value Str) := do
  match ← strictJsonLoads line "JSONL object" with
  | .obj entries => do
    requireExactKeys entries ((objectKeys ++ ["record_kind"]).map key) "JSONL object"
    ensure ((entry entries (key "record_kind")).str? = some (key "object"))
      (staging "JSONL source record kind is invalid")
    return .obj (entries.filter fun e => e.1 ≠ key "record_kind")
  | _ => .error (staging "JSONL object record must be an object")

/-- The raw object of a line. What the handler does not catch ends the whole parse. -/
def lineRawObject (inputIndex : Nat) (line : Text) : Staged RawObject :=
  match lineObject line >>= hashJsonValue with
  | .ok (value, sourceHash) => .ok ⟨inputIndex, some value, sourceHash, none⟩
  | .error e =>
    if e.kind = .staging then
      .ok ⟨inputIndex, none, ImportLibrary.sha256 line, some "malformed-jsonl-object"⟩
    else .error e

/-- The raw objects of the lines that are not blank, the first of which is at `inputIndex`. -/
def lineRawObjects (inputIndex : Nat) : List Text → Staged (List RawObject)
  | [] => .ok []
  | line :: lines =>
    if strip line = [] then lineRawObjects inputIndex lines
    else do
      let raw ← lineRawObject inputIndex line
      let raws ← lineRawObjects (inputIndex + 1) lines
      return raw :: raws

/-- The manifest of a first line. -/
def manifestLine (line : Text) : Staged Manifest := do
  match ← strictJsonLoads line "JSONL manifest" with
  | .obj entries => do
    requireExactKeys entries
      [key "record_kind", key "format", key "format_version", key "source_environment_id"]
      "JSONL manifest"
    ensure ((entry entries (key "record_kind")).str? = some (key "manifest"))
      (staging "JSONL first record must be a manifest")
    return Manifest.ofEntries entries
  | _ => .error (staging "JSONL manifest must be an object")

/-- `_parse_jsonl_envelope`. -/
def parseJsonlEnvelope (sourceText : Text) : Staged (Manifest × List RawObject) :=
  match splitLines [] sourceText with
  | [] => .error (staging "JSONL manifest line is missing")
  | first :: lines => do
    ensure (strip first ≠ []) (staging "JSONL manifest line is missing")
    let manifest ← manifestLine first
    let raws ← lineRawObjects 0 lines
    return (manifest, raws)

/-- `_validate_manifest`. -/
def validateManifest (manifest : Manifest) (environment : SourceEnvironmentRecord)
    (adapter : SourceAdapterContract) : Staged Text := do
  ensure (manifest.format.str? = some (key "doll-generic-import"))
    (staging "generic source format name is invalid")
  let version ← orFail (staging "generic source format version is invalid")
    manifest.formatVersion.str?
  -- a version with a surrogate is none that an adapter declares
  let version ← orFail
    (staging "generic source format version is unsupported by the adapter") version.toText?
  let formatVersion := strip version
  ensure (formatVersion ≠ []) (staging "generic source format version is invalid")
  ensure (formatVersion ∈ adapter.supportedSourceVersions)
    (staging "generic source format version is unsupported by the adapter")
  ensure (∀ expected ∈ environment.exportVersion, expected = formatVersion)
    (staging "source version does not match source environment")
  ensure (manifest.sourceEnvironmentId.str? = some (Str.ofText (uuidText environment.environmentId)))
    (staging "source environment identifier does not match staging context")
  return formatVersion

/-! ## Candidates -/

/-- `_Candidate`. -/
structure Candidate where
  inputIndex : Nat
  sourceObjectId : Text
  sourceType : Text
  parentSourceObjectIds : List Text
  payloadJson : Text
  sourceHash : Digest
deriving DecidableEq

/-- `_ObjectProblem`. -/
structure ObjectProblem where
  reason : String
  sourceObjectId : Option Text
deriving DecidableEq

/-- `_validate_source_id`, `none` for an error. -/
def validateSourceId (value : TextValue) : Option Text :=
  match value with
  | .str text =>
    let normalized := strip text
    if normalized ≠ [] ∧ normalized.length ≤ 1024 ∧ hasControl normalized = false then
      some normalized
    else none
  | _ => none

/-- `_validate_identifier` of this module, `none` for an error. -/
def validateSourceType (value : TextValue) : Option Text :=
  match value with
  | .str text =>
    let normalized := ImportLibrary.lower (strip text)
    match normalized with
    | [] => none
    | c :: cs =>
      if normalized.length ≤ 128 ∧ PythonLibrary.isalnum c = true ∧
          (c :: cs).all (fun d => PythonLibrary.isalnum d || d == '.' || d == '_' || d == '-') = true
      then some normalized
      else none
  | _ => none

/-- `_validate_parent_ids`, `none` for an error. -/
def validateParentIds (value : TextValue) : Option (List Text) :=
  match value with
  | .arr items => do
    let parents ← items.mapM validateSourceId
    if parents.Nodup then some (parents.insertionSort (· ≤ ·)) else none
  | _ => none

/-- The object a candidate is hashed as. -/
def normalizedObject (sourceObjectId sourceType : Text) (parents : List Text)
    (payload : List (Text × TextValue)) : TextValue :=
  .obj [("source_object_id".toList, .str sourceObjectId), ("source_type".toList, .str sourceType),
    ("parent_source_object_ids".toList, .arr (parents.map .str)),
    ("payload".toList, .obj payload)]

/-- `_parse_candidate`. -/
def parseCandidate (raw : RawObject) : Except ObjectProblem Candidate :=
  match raw.value with
  | some (.obj value) => do
    let sourceObjectId ← orFail ⟨"invalid-source-object-id", none⟩
      (validateSourceId (entry value "source_object_id".toList))
    let malformed : ObjectProblem := ⟨"malformed-source-object", some sourceObjectId⟩
    ensure (value.length = objectKeys.length ∧
      ∀ name ∈ objectKeys, name.toList ∈ value.map Prod.fst) malformed
    let sourceType ← orFail malformed (validateSourceType (entry value "source_type".toList))
    let parents ← orFail malformed
      (validateParentIds (entry value "parent_source_object_ids".toList))
    ensure (sourceObjectId ∉ parents) ⟨"self-parent-relationship", some sourceObjectId⟩
    match entry value "payload".toList with
    | .obj payload =>
      return {
        inputIndex := raw.inputIndex
        sourceObjectId := sourceObjectId
        sourceType := sourceType
        parentSourceObjectIds := parents
        payloadJson := canonicalJson (.obj payload)
        sourceHash := hashValue (normalizedObject sourceObjectId sourceType parents payload) }
    | _ => .error ⟨"payload-not-an-object", some sourceObjectId⟩
  | _ => .error ⟨"source-object-not-an-object", none⟩

end

end DollState.Import
