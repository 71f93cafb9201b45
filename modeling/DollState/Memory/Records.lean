import DollState.Domain.Fields
import DollState.State.Repository

/-!
# Confirmed memories

The model of `ConfirmedMemoryService.get`: a memory is read from its record and every field is validated
again. Subject and content are normalised line by line, references to other memories are read as
identifiers, and the other fields are taken as they are stored.
-/

namespace DollState.Memory

open StateLib

def maxSubjectLength : ℕ := 240
def maxContentLength : ℕ := 6000
def maxIdentifierLength : ℕ := 200
def maxReferenceCount : ℕ := 100

/-- `MemoryValidationError(message)`. -/
def invalid (message : String) : DollError := ⟨.memoryValidation, message⟩

inductive MemorySourceType where
  | userStatement | acceptedSuggestion | approvedImport | migrated | restored
deriving DecidableEq, Repr

def MemorySourceType.all : List MemorySourceType :=
  [.userStatement, .acceptedSuggestion, .approvedImport, .migrated, .restored]

def MemorySourceType.text : MemorySourceType → Text
  | .userStatement => "user_statement".toList
  | .acceptedSuggestion => "accepted_suggestion".toList
  | .approvedImport => "approved_import".toList
  | .migrated => "migrated".toList
  | .restored => "restored".toList

/-- `_provenance_for_source`. -/
def MemorySourceType.provenance : MemorySourceType → RecordProvenance
  | .userStatement | .acceptedSuggestion => .userConfirmed
  | .approvedImport => .imported
  | .migrated => .migrated
  | .restored => .restored

/-- `ConfirmedMemoryInfo`; its confirmation state has one value. The confidence is a float. -/
structure ConfirmedMemoryInfo where
  recordId : RecordId
  subject : Text
  content : Text
  sourceType : MemorySourceType
  validFrom : Option Text
  validUntil : Option Text
  confidence : Json
  relatedMemoryIds : List RecordId
  contradictsMemoryIds : List RecordId
  sourceReference : Option Text
  modelManifestId : Option Text
  runtimeAdapterId : Option Text
  sessionId : Option Text
  originOperationId : Option Text
  revision : Int
  status : RecordStatus
  provenance : RecordProvenance
  sensitivity : RecordSensitivity
  createdAt : Text
  updatedAt : Text

section

variable [PythonLibrary]

/-! ## Field validators -/

/-- `_validate_text`. -/
def validateText (name : String) (value : Text) (maximum : ℕ) : Result Text := do
  let normalized := joinLines value
  ensure (normalized ≠ [] ∧ normalized.length ≤ maximum) (invalid s!"{name} is empty or too long")
  ensure (hasControlCharacter normalized = false) (invalid s!"{name} contains control characters")
  ensure (contains "file://".toList normalized = false ∧ hasLocalPath normalized = false)
    (invalid "confirmed memory must not contain an absolute local path")
  return normalized

/-- `_validate_optional_utc`, on a text. -/
def validateUtc (name : String) (value : Text) : Result Text :=
  utcField .memoryValidation " must be UTC and end in Z" " is not a valid timestamp" name value

/-- `_validate_validity_window`. -/
def validateValidityWindow (validFrom validUntil : Option Text) : Result Unit :=
  match validFrom, validUntil with
  | some start, some stop => ensure (instant start < instant stop)
    (invalid "memory valid-until must be later than valid-from")
  | _, _ => .ok ()

/-- `_validate_confidence`; `float` raises on an integer that no float is near. -/
def validateConfidence (value : Json) : Result Json :=
  let outOfRange := invalid "memory confidence must be between 0 and 1"
  match value with
  | .int i => do
    ensure (i.natAbs < 2 ^ 1024 - 2 ^ 970) ⟨.overflow, "int too large to convert to float"⟩
    ensure (0 ≤ i ∧ i ≤ 1) outOfRange
    return .real i
  | .real q => do
    ensure (0 ≤ q ∧ q ≤ 1) outOfRange
    return .real q
  | .minusZero => .ok .minusZero
  | _ => .error (invalid "memory confidence must be a number")

/-- One element of the loop of `_validate_reference_ids`. -/
def validateReferenceId (name : String) : Json → Result RecordId
  | .str text => orFail (invalid s!"{name} contains an invalid record ID") (uuid text)
  | _ => .error (invalid s!"{name} must contain text IDs")

/-- `_validate_reference_ids`. -/
def validateReferenceIds (name : String) (values : List Json) : Result (List RecordId) := do
  ensure (values.length ≤ maxReferenceCount) (invalid s!"{name} exceeds {maxReferenceCount} entries")
  distinctFrom (validateReferenceId name) (invalid s!"{name} contains duplicate IDs") [] values

/-- `_validate_optional_identifier`, on a text. -/
def validateIdentifier (name : String) (value : Text) : Result Text := do
  let normalized := strip value
  ensure (normalized ≠ [] ∧ normalized.length ≤ maxIdentifierLength) (invalid s!"{name} is empty or too long")
  ensure (isToken normalized = true) (invalid s!"{name} contains unsupported characters")
  return normalized

/-! ## Reading a record -/

/-- `_required_string` of this module. -/
def required (metadata : Metadata) (key : String) : Result Text :=
  requiredString .memoryValidation metadata key

def optionalString (metadata : Metadata) (key : String) : Result (Option Text) :=
  match metadata.get key with
  | .null => .ok none
  | .str s => if s = [] then .error (invalid s!"{key} is invalid") else .ok (some s)
  | _ => .error (invalid s!"{key} is invalid")

/-- `_metadata_reference_ids`. -/
def metadataReferenceIds (metadata : Metadata) (key : String) : Result (List RecordId) := do
  validateReferenceIds key (← metadataList .memoryValidation metadata key)

/-- `_validate_memory_envelope`. -/
def validateEnvelope (record : RecordEnvelope) : Result Unit := do
  ensure (record.schemaVersion = 1) (invalid "confirmed memory schema version is unsupported")
  ensure (1 ≤ record.revision) (invalid "confirmed memory revision must be positive")
  ensure (record.status = .active ∨ record.status = .archived)
    (invalid "confirmed memory status is unsupported")
  ensure (record.provenance ∈ [.userConfirmed, .imported, .migrated, .restored])
    (invalid "confirmed memory provenance is unsupported")
  let createdAt ← validateUtc "memory created-at" record.createdAt
  let updatedAt ← validateUtc "memory updated-at" record.updatedAt
  ensure (instant createdAt ≤ instant updatedAt)
    (invalid "confirmed memory updated-at precedes created-at")

/-- The part of `_memory_from_record` inside its `try`. -/
def readMemory (record : RecordEnvelope) : Result ConfirmedMemoryInfo := do
  validateEnvelope record
  let metadata := record.metadata
  ensure ((← required metadata "memory_class") = "confirmed".toList) (invalid "memory class is not confirmed")
  ensure ((← required metadata "confirmation_state") = "confirmed".toList)
    (invalid "memory confirmation state is invalid")
  let subject ← validateText "memory subject" (← required metadata "subject") maxSubjectLength
  let content ← validateText "memory content" (← required metadata "content") maxContentLength
  ensure (record.title = some subject) (invalid "memory title and subject are inconsistent")
  let rawSourceType ← required metadata "source_type"
  let sourceType ← orFail (invalid ("invalid memory source type: " ++ String.ofList rawSourceType))
    (ofText? MemorySourceType.all MemorySourceType.text rawSourceType)
  ensure (record.provenance = sourceType.provenance) (invalid "memory provenance is inconsistent")
  let validFrom ← optionally (validateUtc "memory valid-from") (← optionalString metadata "valid_from")
  let validUntil ← optionally (validateUtc "memory valid-until") (← optionalString metadata "valid_until")
  validateValidityWindow validFrom validUntil
  let confidence ← validateConfidence (metadata.get "confidence")
  let related ← metadataReferenceIds metadata "related_memory_ids"
  let contradicts ← metadataReferenceIds metadata "contradicts_memory_ids"
  ensure (∀ id ∈ related, id ∉ contradicts)
    (invalid "memory references overlap between related and contradicting")
  let identifier := fun (name key : String) => do
    optionally (validateIdentifier name) (← optionalString metadata key)
  let sourceReference ← identifier "source reference" "source_reference"
  let modelManifestId ← identifier "model manifest ID" "model_manifest_id"
  let runtimeAdapterId ← identifier "runtime adapter ID" "runtime_adapter_id"
  let sessionId ← identifier "session ID" "session_id"
  let originOperationId ← identifier "origin operation ID" "origin_operation_id"
  ensure (sourceType = .acceptedSuggestion →
      modelManifestId ≠ none ∧ runtimeAdapterId ≠ none ∧ sessionId ≠ none ∧ originOperationId ≠ none)
    (invalid "accepted suggestion provenance is incomplete")
  return {
    recordId := record.id, subject, content, sourceType, validFrom, validUntil, confidence,
    relatedMemoryIds := related, contradictsMemoryIds := contradicts, sourceReference, modelManifestId,
    runtimeAdapterId, sessionId, originOperationId, revision := record.revision, status := record.status,
    provenance := record.provenance, sensitivity := record.sensitivity, createdAt := record.createdAt,
    updatedAt := record.updatedAt }

/-- `_memory_from_record`. -/
def memoryFromRecord (record : RecordEnvelope) : Result ConfirmedMemoryInfo :=
  catching (DollError.isA [.key, .value, .memoryValidation])
    ⟨.memoryCorrupt, "confirmed memory record is malformed"⟩ (readMemory record)

/-- `ConfirmedMemoryService.get`. -/
def get (recordId : Text) : Reader ConfirmedMemoryInfo := do
  let record ← getRecordText recordId
  ensure (record.recordType = "memory") (DollError.noRecord recordId)
  memoryFromRecord record

/-! ## What has been read -/

theorem memoryFromRecord_eq_ok {record : RecordEnvelope} {info : ConfirmedMemoryInfo} :
    memoryFromRecord record = .ok info ↔ readMemory record = .ok info := catching_eq_ok

theorem validateText_eq_ok {name : String} {value text : Text} {maximum : ℕ}
    (h : validateText name value maximum = .ok text) : text = joinLines value := by
  unfold validateText at h
  obtain ⟨-, h⟩ := check_bind_eq_ok.1 h
  obtain ⟨-, h⟩ := check_bind_eq_ok.1 h
  obtain ⟨-, h⟩ := check_bind_eq_ok.1 h
  exact (Except.ok.inj h).symm

omit [PythonLibrary] in
theorem validateIdentifier_eq_ok {name : String} {value text : Text}
    (h : validateIdentifier name value = .ok text) : text = strip value := by
  unfold validateIdentifier at h
  obtain ⟨-, h⟩ := check_bind_eq_ok.1 h
  obtain ⟨-, h⟩ := check_bind_eq_ok.1 h
  exact (Except.ok.inj h).symm

omit [PythonLibrary] in
theorem optionalString_eq_some {metadata : Metadata} {key : String} {s : Text}
    (h : optionalString metadata key = .ok (some s)) : metadata.get key = .str s := by
  unfold optionalString at h
  split at h
  · cases h
  · rename_i raw hget
    split at h
    · cases h
    · rw [hget, Option.some.inj (Except.ok.inj h)]
  · cases h

omit [PythonLibrary] in
/-- An optional field is read from a string of the metadata. -/
theorem of_optional {metadata : Metadata} {key : String} {read : Text → Result Text} {value : Option Text}
    {field : Option Text} (hfield : optionalString metadata key = .ok field)
    (h : optionally read field = .ok value) :
    ∀ text ∈ value, ∃ raw, metadata.get key = .str raw ∧ read raw = .ok text := by
  rintro text rfl
  cases field with
  | none => cases h
  | some raw =>
    obtain ⟨read', hread, h⟩ := bind_eq_ok.1 h
    obtain rfl := Option.some.inj (Except.ok.inj h)
    exact ⟨raw, optionalString_eq_some hfield, hread⟩

theorem validateReferenceId_eq_ok {name : String} {value : Json} {id : RecordId}
    (h : validateReferenceId name value = .ok id) : ∃ text, value = .str text ∧ uuid text = some id := by
  unfold validateReferenceId at h
  split at h
  · exact ⟨_, rfl, orFail_eq_ok.1 h⟩
  · cases h

omit [PythonLibrary] in
theorem forall₂_of_distinctFrom {α β : Type} [DecidableEq α] {read : β → Result α} {duplicate : DollError}
    {result as : List α} {values : List β} (h : distinctFrom read duplicate result values = .ok as) :
    ∃ bs, as = result ++ bs ∧ List.Forall₂ (fun value a => read value = .ok a) values bs := by
  induction values generalizing result with
  | nil => exact ⟨[], by rw [List.append_nil, Except.ok.inj h], .nil⟩
  | cons value values ih =>
    rw [distinctFrom] at h
    obtain ⟨a, ha, h⟩ := bind_eq_ok.1 h
    obtain ⟨bs, rfl, hbs⟩ := ih (check_bind_eq_ok.1 h).2
    exact ⟨a :: bs, by rw [List.append_assoc, List.singleton_append], .cons ha hbs⟩

theorem of_metadataReferenceIds {metadata : Metadata} {key : String} {ids : List RecordId}
    (h : metadataReferenceIds metadata key = .ok ids) : ∃ values, metadata.get key = .arr values ∧
      List.Forall₂ (fun value id => ∃ text, value = Json.str text ∧ uuid text = some id) values ids := by
  unfold metadataReferenceIds at h
  obtain ⟨values, hvalues, h⟩ := bind_eq_ok.1 h
  unfold metadataList at hvalues
  split at hvalues
  · rename_i raw hget
    obtain rfl := Except.ok.inj hvalues
    obtain ⟨bs, rfl, hbs⟩ := forall₂_of_distinctFrom (check_bind_eq_ok.1 h).2
    exact ⟨raw, hget, hbs.imp fun _ _ => validateReferenceId_eq_ok⟩
  · cases hvalues

/-- What reading a record takes over from it. -/
structure ReadFrom (record : RecordEnvelope) (info : ConfirmedMemoryInfo) : Prop where
  recordId : info.recordId = record.id
  revision : info.revision = record.revision
  status : info.status = record.status
  sensitivity : info.sensitivity = record.sensitivity
  confirmationState : record.metadata.get "confirmation_state" = .str "confirmed".toList
  subject : ∃ raw, record.metadata.get "subject" = .str raw ∧ info.subject = joinLines raw
  content : ∃ raw, record.metadata.get "content" = .str raw ∧ info.content = joinLines raw
  sourceType : record.metadata.get "source_type" = .str info.sourceType.text
  validFrom : ∀ text ∈ info.validFrom, record.metadata.get "valid_from" = .str text ∧ IsUtc text
  validUntil : ∀ text ∈ info.validUntil, record.metadata.get "valid_until" = .str text ∧ IsUtc text
  related : ∃ values, record.metadata.get "related_memory_ids" = .arr values ∧ List.Forall₂
    (fun value id => ∃ text, value = Json.str text ∧ uuid text = some id) values info.relatedMemoryIds
  contradicts : ∃ values, record.metadata.get "contradicts_memory_ids" = .arr values ∧ List.Forall₂
    (fun value id => ∃ text, value = Json.str text ∧ uuid text = some id) values info.contradictsMemoryIds
  identifiers : ∀ key value, (key, value) ∈ [("source_reference", info.sourceReference),
      ("model_manifest_id", info.modelManifestId), ("runtime_adapter_id", info.runtimeAdapterId),
      ("session_id", info.sessionId), ("origin_operation_id", info.originOperationId)] →
    ∀ text ∈ value, ∃ raw, record.metadata.get key = .str raw ∧ text = strip raw

theorem readFrom_of_readMemory {record : RecordEnvelope} {info : ConfirmedMemoryInfo}
    (h : readMemory record = .ok info) : ReadFrom record info := by
  unfold readMemory at h
  obtain ⟨-, h⟩ := check_bind_eq_ok.1 h
  obtain ⟨memoryClass, -, h⟩ := bind_eq_ok.1 h
  obtain ⟨-, h⟩ := check_bind_eq_ok.1 h
  obtain ⟨state, hstate, h⟩ := bind_eq_ok.1 h
  obtain ⟨hconfirmed, h⟩ := check_bind_eq_ok.1 h
  obtain ⟨rawSubject, hrawSubject, h⟩ := bind_eq_ok.1 h
  obtain ⟨subject, hsubject, h⟩ := bind_eq_ok.1 h
  obtain ⟨rawContent, hrawContent, h⟩ := bind_eq_ok.1 h
  obtain ⟨content, hcontent, h⟩ := bind_eq_ok.1 h
  obtain ⟨-, h⟩ := check_bind_eq_ok.1 h
  obtain ⟨rawSource, hrawSource, h⟩ := bind_eq_ok.1 h
  obtain ⟨sourceType, hsource, h⟩ := bind_eq_ok.1 h
  obtain ⟨-, h⟩ := check_bind_eq_ok.1 h
  obtain ⟨rawFrom, hrawFrom, h⟩ := bind_eq_ok.1 h
  obtain ⟨validFrom, hfrom, h⟩ := bind_eq_ok.1 h
  obtain ⟨rawUntil, hrawUntil, h⟩ := bind_eq_ok.1 h
  obtain ⟨validUntil, huntil, h⟩ := bind_eq_ok.1 h
  obtain ⟨-, h⟩ := check_bind_eq_ok.1 h
  obtain ⟨confidence, -, h⟩ := bind_eq_ok.1 h
  obtain ⟨related, hrelated, h⟩ := bind_eq_ok.1 h
  obtain ⟨contradicts, hcontradicts, h⟩ := bind_eq_ok.1 h
  obtain ⟨-, h⟩ := check_bind_eq_ok.1 h
  have hidentifier : ∀ {name key : String} {value : Option Text},
      (do optionally (validateIdentifier name) (← optionalString record.metadata key)) = .ok value →
      ∀ text ∈ value, ∃ raw, record.metadata.get key = .str raw ∧ text = strip raw := by
    intro name key value hvalue text htext
    obtain ⟨field, hfield, hvalue⟩ := bind_eq_ok.1 hvalue
    obtain ⟨raw, hget, hraw⟩ := of_optional hfield hvalue text htext
    exact ⟨raw, hget, validateIdentifier_eq_ok hraw⟩
  obtain ⟨sourceReference, hreference, h⟩ := bind_eq_ok.1 h
  obtain ⟨modelManifestId, hmodel, h⟩ := bind_eq_ok.1 h
  obtain ⟨runtimeAdapterId, hruntime, h⟩ := bind_eq_ok.1 h
  obtain ⟨sessionId, hsession, h⟩ := bind_eq_ok.1 h
  obtain ⟨originOperationId, horigin, h⟩ := bind_eq_ok.1 h
  obtain ⟨-, h⟩ := check_bind_eq_ok.1 h
  obtain rfl := Except.ok.inj h
  have hutc : ∀ {name key : String} {value field : Option Text},
      optionalString record.metadata key = .ok field → optionally (validateUtc name) field = .ok value →
      ∀ text ∈ value, record.metadata.get key = .str text ∧ IsUtc text := by
    intro name key value field hfield hvalue text htext
    obtain ⟨raw, hget, hraw⟩ := of_optional hfield hvalue text htext
    obtain ⟨rfl, hutc⟩ := utcField_eq_ok.1 hraw
    exact ⟨hget, hutc⟩
  refine ⟨rfl, rfl, rfl, rfl, ?_, ?_, ?_, ?_, hutc hrawFrom hfrom, hutc hrawUntil huntil,
    of_metadataReferenceIds hrelated, of_metadataReferenceIds hcontradicts, ?_⟩
  · rw [(requiredString_eq_ok.1 hstate).1, ensure_eq_ok.1 hconfirmed]
  · exact ⟨rawSubject, (requiredString_eq_ok.1 hrawSubject).1, validateText_eq_ok hsubject⟩
  · exact ⟨rawContent, (requiredString_eq_ok.1 hrawContent).1, validateText_eq_ok hcontent⟩
  · rw [(requiredString_eq_ok.1 hrawSource).1, text_of_ofText? (orFail_eq_ok.1 hsource)]
  · intro key value hmem
    simp only [List.mem_cons, List.not_mem_nil, or_false, Prod.mk.injEq] at hmem
    rcases hmem with ⟨rfl, rfl⟩ | ⟨rfl, rfl⟩ | ⟨rfl, rfl⟩ | ⟨rfl, rfl⟩ | ⟨rfl, rfl⟩
    · exact hidentifier hreference
    · exact hidentifier hmodel
    · exact hidentifier hruntime
    · exact hidentifier hsession
    · exact hidentifier horigin

theorem get_on {id : RecordId} {db : Database} {info : ConfirmedMemoryInfo} :
    (get (uuidText id)).on db = .ok info ↔
      ∃ record, db.find? id = some record ∧ record.recordType = "memory" ∧ readMemory record = .ok info := by
  have hread : ∀ r, (getRecordText (uuidText id)).run db.answer = .ok r ↔ db.find? id = some r := by
    intro r
    refine (getRecordText_on (uuidText id) db).trans ⟨?_, fun hr => ⟨id, rfl, hr⟩⟩
    rintro ⟨other, hid, hr⟩
    exact uuidText_injective hid ▸ hr
  simp only [get, Reader.on, ReadProgram.run_bind, ReadProgram.run_lift, bind_eq_ok, hread, ensure_eq_ok,
    memoryFromRecord_eq_ok, exists_const]

end

end DollState.Memory
