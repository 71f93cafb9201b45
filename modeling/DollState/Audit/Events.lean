import DollState.Domain.Fields
import DollState.Settings.Values
import DollState.State.Database

/-!
# Audit events

What `audit.py` makes of the metadata of an event before it is stored, and what it checks of a stored
event when it reads it back. Free text is redacted when it is written; a stored event that would be
redacted again is refused as corrupt. The detectors of secrets and paths are taken from `AuditRules`.
-/

namespace DollState.Audit

open StateLib

def maxActionLength : Nat := 120
def maxIdentifierLength : Nat := 200
def maxSummaryLength : Nat := 500
def maxErrorClassLength : Nat := 120
def maxMetadataBytes : Nat := 8192
def maxMetadataStringLength : Nat := 4096
def maxMetadataDepth : Nat := 6
def maxMetadataItems : Nat := 256

/-- The detectors that audit events are checked with. -/
class AuditRules where
  /-- `_reject_secret_text` raises. -/
  isSecret : Text → Bool
  /-- The message with which `_reject_unsafe_identifier_text` raises, if it does. -/
  unsafeMessage : Text → Option String
  /-- `is_secret_field_name`. -/
  isSecretField : Text → Bool
  /-- `is_private_environment_field_name`. -/
  isPrivateField : Text → Bool
  /-- `_sanitize_free_text`, with the number of characters it scans. -/
  sanitizeFreeText : Text → Nat → Text

def invalid (message : String) : DollError := ⟨.auditValidation, message⟩

section

variable [AuditRules]

/-! ## Identifiers and summaries -/

/-- `_reject_unsafe_identifier_text`. -/
def rejectUnsafeText (text : Text) : Result Unit :=
  match AuditRules.unsafeMessage text with
  | none => .ok ()
  | some message => .error (invalid message)

/-- `_validate_token`. -/
def validateToken (name : String) (value : Text) (maximum : Nat) : Result Text := do
  let normalized := strip value
  ensure (normalized ≠ []) (invalid s!"{name} must not be blank")
  ensure (normalized.length ≤ maximum) (invalid s!"{name} exceeds {maximum} characters")
  ensure (isToken normalized = true) (invalid s!"{name} contains unsupported characters")
  rejectUnsafeText normalized
  return normalized

/-- `_validate_optional_identifier`. -/
def validateOptionalIdentifier (name : String) (value : Option Text) : Result (Option Text) :=
  optionally (fun text => do
    let normalized := joinWords text
    ensure (normalized ≠ []) (invalid s!"{name} must not be blank")
    ensure (normalized.length ≤ maxIdentifierLength)
      (invalid s!"{name} exceeds {maxIdentifierLength} characters")
    ensure ((normalized.any fun c => c.toNat < 32) = false)
      (invalid s!"{name} contains control characters")
    rejectUnsafeText normalized
    return normalized) value

/-- `_sanitize_summary`. -/
def sanitizeSummary (summary : Option Text) : Result (Option Text) :=
  match summary with
  | none => .ok none
  | some text =>
    let normalized := joinWords text
    if normalized = [] then .ok none
    else do
      ensure (normalized.length ≤ maxSummaryLength)
        (invalid s!"audit summary exceeds {maxSummaryLength} characters")
      return some (AuditRules.sanitizeFreeText normalized maxSummaryLength)

/-- `_validate_stored_summary`. -/
def validateStoredSummary (summary : Option Text) : Result (Option Text) := do
  let sanitized ← sanitizeSummary summary
  let normalized := summary.bind fun text =>
    if joinWords text = [] then none else some (joinWords text)
  ensure (sanitized = normalized) (invalid "audit summary contains unsafe data")
  return sanitized

/-! ## Metadata -/

/-- The check of a metadata key. -/
def validateMetadataKey (key : Text) : Result Unit := do
  ensure (key ≠ []) (invalid "audit metadata keys must not be blank")
  ensure (AuditRules.isSecretField key = false)
    (invalid "audit metadata contains a prohibited secret-like key")
  ensure (AuditRules.isPrivateField key = false)
    (invalid "audit metadata contains a prohibited private-environment key")
  rejectUnsafeText key

/-- `_consume_metadata_item`. -/
def consumeMetadataItem (itemsSeen : Nat) : Result Nat := do
  ensure (itemsSeen < maxMetadataItems)
    (invalid s!"audit metadata exceeds {maxMetadataItems} items")
  return itemsSeen + 1

/-- `_sanitize_metadata_value` of a value that is neither text nor a container. -/
def sanitizeMetadataScalar (depth itemsSeen : Nat) (value : Json) : Result (Json × Nat) := do
  ensure (depth ≤ maxMetadataDepth) (invalid s!"audit metadata exceeds depth {maxMetadataDepth}")
  return (value, itemsSeen)

mutual

/-- `_sanitize_metadata_value`; it counts the items it goes through. -/
def sanitizeMetadataValue (depth itemsSeen : Nat) : Json → Result (Json × Nat)
  | .obj entries => do
    ensure (depth ≤ maxMetadataDepth) (invalid s!"audit metadata exceeds depth {maxMetadataDepth}")
    let (result, itemsSeen) ← sanitizeMetadataEntries depth itemsSeen [] entries
    return (.obj result, itemsSeen)
  | .arr xs => do
    ensure (depth ≤ maxMetadataDepth) (invalid s!"audit metadata exceeds depth {maxMetadataDepth}")
    let (result, itemsSeen) ← sanitizeMetadataElements depth itemsSeen xs
    return (.arr result, itemsSeen)
  | .str s => do
    ensure (depth ≤ maxMetadataDepth) (invalid s!"audit metadata exceeds depth {maxMetadataDepth}")
    return (.str (AuditRules.sanitizeFreeText s maxMetadataStringLength), itemsSeen)
  | .null => sanitizeMetadataScalar depth itemsSeen .null
  | .bool b => sanitizeMetadataScalar depth itemsSeen (.bool b)
  | .int i => sanitizeMetadataScalar depth itemsSeen (.int i)
  | .real q => sanitizeMetadataScalar depth itemsSeen (.real q)
  | .minusZero => sanitizeMetadataScalar depth itemsSeen .minusZero

def sanitizeMetadataEntries (depth itemsSeen : Nat) (result : Metadata) :
    List (String × Json) → Result (Metadata × Nat)
  | [] => .ok (result, itemsSeen)
  | (rawKey, nested) :: entries => do
    let itemsSeen ← consumeMetadataItem itemsSeen
    let key := strip rawKey.toList
    validateMetadataKey key
    let (value, itemsSeen) ← sanitizeMetadataValue (depth + 1) itemsSeen nested
    sanitizeMetadataEntries depth itemsSeen (Metadata.set result (String.ofList key) value) entries

def sanitizeMetadataElements (depth itemsSeen : Nat) : List Json → Result (List Json × Nat)
  | [] => .ok ([], itemsSeen)
  | nested :: xs => do
    let itemsSeen ← consumeMetadataItem itemsSeen
    let (value, itemsSeen) ← sanitizeMetadataValue (depth + 1) itemsSeen nested
    let (result, itemsSeen) ← sanitizeMetadataElements depth itemsSeen xs
    return (value :: result, itemsSeen)

end

/-- `_sanitize_metadata`. -/
def sanitizeMetadata (metadata : Metadata) : Result Metadata := do
  let (sanitized, _) ← sanitizeMetadataValue 0 0 (.obj metadata)
  match sanitized with
  | .obj result => .ok result
  | _ => .error (invalid "audit metadata is not a JSON object")

variable [FloatLibrary]

/-- `_encode_metadata`; the text it returns stands for the metadata. -/
def encodeMetadata (metadata : Metadata) : Result Unit := do
  ensure (Settings.writable (.obj metadata) = true)
    (invalid "audit metadata must be JSON-compatible")
  ensure (utf8Size (canonicalJson (.obj metadata)) ≤ maxMetadataBytes)
    (invalid s!"audit metadata exceeds {maxMetadataBytes} bytes")

/-- `_serialize_metadata_for_write`: the metadata that is stored. -/
def serializeMetadataForWrite (metadata : Metadata) : Result Metadata := do
  let sanitized ← sanitizeMetadata metadata
  encodeMetadata sanitized
  return sanitized

/-- `_validate_stored_metadata`. -/
def validateStoredMetadata (metadata : Metadata) : Result Metadata := do
  let sanitized ← sanitizeMetadata metadata
  ensure (Json.eq (.obj sanitized) (.obj metadata) = true)
    (invalid "audit metadata contains unsafe data")
  encodeMetadata sanitized
  return sanitized

/-! ## Events -/

/-- The validators of `_event_from_row`. -/
def validateEvent [PythonLibrary] (row : AuditEvent) : Result AuditEvent := do
  let operationId ← validateToken "operation ID" row.operationId maxIdentifierLength
  let occurredAt ← utcField .auditValidation " must use UTC Z notation" " is invalid"
    "audit timestamp" row.occurredAt
  let actorId ← validateOptionalIdentifier "actor ID" row.actorId
  let action ← validateToken "action" row.action maxActionLength
  let targetType ←
    optionally (fun text => validateToken "target type" text maxActionLength) row.targetType
  let targetId ← validateOptionalIdentifier "target ID" row.targetId
  let summary ← validateStoredSummary row.summary
  let errorClass ←
    optionally (fun text => validateToken "error class" text maxErrorClassLength) row.errorClass
  let metadata ← validateStoredMetadata row.metadata
  return { row with
    operationId, occurredAt, actorId, action, targetType, targetId, summary, errorClass, metadata }

/-- `_event_from_row`. -/
def eventFromRow [PythonLibrary] (row : AuditEvent) : Result AuditEvent :=
  catching (DollError.isA [.auditValidation])
    ⟨.stateCorrupt, "audit event contains invalid data"⟩ (validateEvent row)

/-! ## What is stored, and what is read of it -/

/-- The key under which an entry is stored. -/
def storedKey (rawKey : String) : String := String.ofList (strip rawKey.toList)

omit [FloatLibrary] in
theorem get_sanitizeMetadataEntries_of_not_mem {depth seen seen' : Nat} {result out entries : Metadata}
    (h : sanitizeMetadataEntries depth seen result entries = .ok (out, seen')) {key : String}
    (hkey : key ∉ entries.map fun e => storedKey e.1) : out.get key = result.get key := by
  induction entries generalizing seen result with
  | nil =>
    cases h
    rfl
  | cons e entries ih =>
    obtain ⟨rawKey, nested⟩ := e
    rw [List.map_cons, List.mem_cons, not_or] at hkey
    simp only [sanitizeMetadataEntries, bind_eq_ok] at h
    obtain ⟨_, -, _, -, ⟨value, _⟩, -, hrest⟩ := h
    have hset := Metadata.get_set result (storedKey rawKey) key value
    rw [if_neg hkey.1] at hset
    rw [ih hrest hkey.2, ← hset]
    rfl

omit [FloatLibrary] in
/-- A text is stored as its redaction, if no later entry has its key. -/
theorem get_sanitizeMetadataEntries {depth seen seen' : Nat} {result out entries : Metadata}
    (h : sanitizeMetadataEntries depth seen result entries = .ok (out, seen'))
    (hkeys : (entries.map fun e => storedKey e.1).Nodup) {key : String} {s : Text}
    (hs : (key, Json.str s) ∈ entries) :
    out.get (storedKey key) = .str (AuditRules.sanitizeFreeText s maxMetadataStringLength) := by
  induction entries generalizing seen result with
  | nil => cases hs
  | cons e entries ih =>
    obtain ⟨rawKey, nested⟩ := e
    rw [List.map_cons, List.nodup_cons] at hkeys
    simp only [sanitizeMetadataEntries, bind_eq_ok] at h
    obtain ⟨_, -, _, -, ⟨value, _⟩, hvalue, hrest⟩ := h
    rcases List.mem_cons.1 hs with heq | hs
    · cases heq
      simp only [sanitizeMetadataValue, bind_eq_ok, pure_eq_ok, Prod.mk.injEq] at hvalue
      obtain ⟨_, -, rfl, -⟩ := hvalue
      rw [get_sanitizeMetadataEntries_of_not_mem hrest hkeys.1]
      have hset := Metadata.get_set result (storedKey key) (storedKey key)
        (.str (AuditRules.sanitizeFreeText s maxMetadataStringLength))
      rwa [if_pos rfl] at hset
    · exact ih hrest hkeys.2 hs

theorem get_serializeMetadataForWrite {metadata stored : Metadata}
    (h : serializeMetadataForWrite metadata = .ok stored)
    (hkeys : (metadata.map fun e => storedKey e.1).Nodup) {key : String} {s : Text}
    (hs : (key, Json.str s) ∈ metadata) :
    stored.get (storedKey key) = .str (AuditRules.sanitizeFreeText s maxMetadataStringLength) := by
  simp only [serializeMetadataForWrite, sanitizeMetadata, sanitizeMetadataValue, bind_eq_ok,
    pure_eq_ok] at h
  obtain ⟨_, ⟨_, ⟨_, -, ⟨out, _⟩, hout, rfl⟩, hobj⟩, _, -, rfl⟩ := h
  cases hobj
  exact get_sanitizeMetadataEntries hout hkeys hs

omit [AuditRules] [FloatLibrary] in
/-- Equal objects have the same texts. -/
theorem get_eq_str_of_eq {m m' : Metadata} (h : Json.eq (.obj m) (.obj m') = true) {key : String}
    {s : Text} (hs : m.get key = .str s) : m'.get key = .str s := by
  rw [Json.eq, Bool.and_eq_true] at h
  obtain ⟨-, h⟩ := h
  induction m with
  | nil => cases hs
  | cons e m ih =>
    obtain ⟨k, v⟩ := e
    rw [Json.eqEntries, Bool.and_eq_true] at h
    rw [Metadata.get_cons] at hs
    by_cases hk : key = k
    · rw [if_pos hk] at hs
      subst hk hs
      cases hlookup : m'.lookup key with
      | none => simp [hlookup] at h
      | some w =>
        rw [Metadata.get, hlookup, Option.getD_some]
        cases w with
        | str t =>
          have hst : s = t := by simpa [hlookup, Json.eq] using h.1
          rw [hst]
        | null | bool | int | real | minusZero | arr | obj => simp [hlookup, Json.eq] at h
    · rw [if_neg hk] at hs
      exact ih hs h.2

/-- What is read of a stored event is what is stored, with the action stripped. -/
theorem eventFromRow_spec [PythonLibrary] {row event : AuditEvent} (h : eventFromRow row = .ok event) :
    event.action = strip row.action ∧ event.result = row.result ∧
      Json.eq (.obj event.metadata) (.obj row.metadata) = true := by
  rw [eventFromRow, catching_eq_ok] at h
  simp only [validateEvent, bind_eq_ok, pure_eq_ok] at h
  obtain ⟨_, -, _, -, _, -, action, haction, _, -, _, -, _, -, _, -, metadata, hmetadata, rfl⟩ := h
  simp only [validateToken, bind_eq_ok, pure_eq_ok] at haction
  simp only [validateStoredMetadata, bind_eq_ok, exists_const, ensure_eq_ok, pure_eq_ok] at hmetadata
  obtain ⟨_, -, _, -, _, -, _, -, rfl⟩ := haction
  obtain ⟨_, -, heq, _, -, rfl⟩ := hmetadata
  exact ⟨rfl, rfl, heq⟩

/-- What is documented of redaction: a text is returned with its words joined by single spaces, or
with a marker in square brackets. -/
structure LawfulRedaction : Prop where
  marked : ∀ text maximum, AuditRules.sanitizeFreeText text maximum = joinWords text ∨
    '[' ∈ AuditRules.sanitizeFreeText text maximum

end

end DollState.Audit
