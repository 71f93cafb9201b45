import DollState.Capability.Contracts
import DollState.Domain.Fields
import DollState.Settings.Values

/-!
# Capability requests

A request is validated before any gate looks at it: its tokens and texts are stripped, its mappings
are copied through their JSON text. What validation has returned, it accepts again and returns
unchanged (`validateRequestEnvelope_idem`), so that a service that is handed an envelope may validate
it once more.
-/

namespace DollState.Capability

open Instruction StateLib

def maxCapabilityIdLength : Nat := 120
def maxVersionLength : Nat := 32
def maxOperationIdLength : Nat := 200
def maxSessionIdLength : Nat := 200
def maxCancellationIdLength : Nat := 200
def maxArgumentNameLength : Nat := 80
def maxArgumentTextLength : Nat := 16000
def maxArgumentJsonBytes : Nat := 32 * 1024
def maxTargetIdentifierLength : Nat := 2048
def maxPermissionScopeBytes : Nat := 4096
def maxTimeoutSeconds : Int := 3600

/-- A mapping from texts to JSON values. -/
structure JsonMapping where
  entries : Metadata
  distinct : (Json.obj entries).DistinctKeys

/-- `key in mapping`. -/
def JsonMapping.has (mapping : JsonMapping) (key : String) : Bool :=
  (mapping.entries.lookup key).isSome

structure CapabilityTarget where
  kind : TargetKind
  identifier : Text
deriving DecidableEq

structure CapabilityRequest where
  capabilityId : Text
  capabilityVersion : Text
  operationId : Text
  actorType : ActorType
  originClass : OriginClass
  arguments : JsonMapping
  target : CapabilityTarget
  destination : Option Text
  declaredSideEffects : Finset SideEffect
  declaredRiskTier : Int
  permissionScope : JsonMapping
  resourceLimits : CapabilityResourceLimits
  timeoutSeconds : Int
  sessionId : Option Text
  cancellationId : Option Text

def invalidRequest (message : String) : DollError := ⟨.capabilityRequestValidation, message⟩

/-! ## Texts -/

/-- `_contains_control`. -/
def containsControl (value : Text) : Bool := value.any fun c => c.toNat < 32

/-- `[0-9]+(?:\.[0-9]+){0,2}` matches the whole text. -/
def isVersion (value : Text) : Bool :=
  let parts := value.splitOn '.'
  parts.length ≤ 3 && parts.all fun part => !part.isEmpty && part.all Char.isDigit

/-- `_validate_token` of a request. -/
def validateToken (name : String) (value : Text) (maximum : Nat) : Result Text := do
  let normalized := strip value
  ensure (normalized ≠ [] ∧ normalized.length ≤ maximum ∧ isToken normalized = true)
    (invalidRequest s!"{name} is invalid")
  return normalized

/-- `_validate_optional_token`. -/
def validateOptionalToken (name : String) (value : Option Text) (maximum : Nat) :
    Result (Option Text) :=
  optionally (fun text => validateToken name text maximum) value

/-- `_validate_version` of a request. -/
def validateVersion (value : Text) : Result Text := do
  let normalized := strip value
  ensure (normalized.length ≤ maxVersionLength ∧ isVersion normalized = true)
    (invalidRequest "capability version is invalid")
  return normalized

/-- `_validate_text`. -/
def validateText (name : String) (value : Text) (maximum : Nat) : Result Text := do
  let normalized := strip value
  ensure (normalized ≠ [] ∧ normalized.length ≤ maximum ∧ containsControl normalized = false)
    (invalidRequest s!"{name} is invalid")
  return normalized

/-- `_positive_integer` of a request. -/
def positiveInteger (value : Int) (name : String) : Result Int := do
  ensure (1 ≤ value) (invalidRequest s!"{name} must be a positive integer")
  return value

theorem strip_strip (value : Text) : strip (strip value) = strip value :=
  strip_eq_self (stripped_strip value)

theorem validateToken_idem {name : String} {value token : Text} {maximum : Nat}
    (h : validateToken name value maximum = .ok token) :
    validateToken name token maximum = .ok token := by
  simp only [validateToken, check_bind_eq_ok, ensure_eq_ok, pure_eq_ok] at h ⊢
  obtain ⟨hok, rfl⟩ := h
  rw [strip_strip]
  exact ⟨hok, rfl⟩

theorem validateVersion_idem {value version : Text} (h : validateVersion value = .ok version) :
    validateVersion version = .ok version := by
  simp only [validateVersion, check_bind_eq_ok, ensure_eq_ok, pure_eq_ok] at h ⊢
  obtain ⟨hok, rfl⟩ := h
  rw [strip_strip]
  exact ⟨hok, rfl⟩

theorem validateText_idem {name : String} {value text : Text} {maximum : Nat}
    (h : validateText name value maximum = .ok text) :
    validateText name text maximum = .ok text := by
  simp only [validateText, check_bind_eq_ok, ensure_eq_ok, pure_eq_ok] at h ⊢
  obtain ⟨hok, rfl⟩ := h
  rw [strip_strip]
  exact ⟨hok, rfl⟩

theorem positiveInteger_eq_ok {value result : Int} {name : String} :
    positiveInteger value name = .ok result ↔ 1 ≤ value ∧ result = value := by
  simp only [positiveInteger, check_bind_eq_ok, ensure_eq_ok, pure_eq_ok]
  exact and_congr_right fun _ => eq_comm

/-- A check that accepts what it has returned does so of an optional value. -/
theorem optionally_idem {α : Type} {check : α → Result α}
    (hcheck : ∀ a b, check a = .ok b → check b = .ok b) {value result : Option α}
    (h : optionally check value = .ok result) : optionally check result = .ok result := by
  cases value with
  | none =>
    cases h
    rfl
  | some a =>
    obtain ⟨b, hb, h⟩ := bind_eq_ok.1 h
    rw [← pure_eq_ok.1 h]
    exact bind_eq_ok.2 ⟨b, hcheck a b hb, rfl⟩

/-! ## Mappings -/

mutual

/-- `_validate_json_value`; the copy it returns is equal to the value. -/
def validateJsonValue (name : String) (depth : Nat) : Json → Result Unit
  | .obj entries => do
    ensure (depth ≤ 8) (invalidRequest s!"{name} nesting is too deep")
    validateJsonEntries name depth entries
  | .arr xs => do
    ensure (depth ≤ 8) (invalidRequest s!"{name} nesting is too deep")
    validateJsonElements name depth xs
  | .str s => do
    ensure (depth ≤ 8) (invalidRequest s!"{name} nesting is too deep")
    ensure (s.length ≤ maxArgumentTextLength ∧ containsControl s = false)
      (invalidRequest s!"{name} contains invalid text")
  | .null | .bool _ | .int _ | .real _ | .minusZero =>
    ensure (depth ≤ 8) (invalidRequest s!"{name} nesting is too deep")

def validateJsonEntries (name : String) (depth : Nat) : List (String × Json) → Result Unit
  | [] => .ok ()
  | (key, item) :: entries => do
    ensure (key.toList ≠ [] ∧ containsControl key.toList = false)
      (invalidRequest s!"{name} contains an invalid JSON key")
    validateJsonValue name (depth + 1) item
    validateJsonEntries name depth entries

def validateJsonElements (name : String) (depth : Nat) : List Json → Result Unit
  | [] => .ok ()
  | item :: xs => do
    validateJsonValue name (depth + 1) item
    validateJsonElements name depth xs

end

section

variable [FloatLibrary]

/-- `_safe_mapping`. What `json.loads` reads back are the entries that `json.dumps` has written. -/
def safeMapping (value : JsonMapping) (name : String) (maximumBytes : Nat) :
    Result JsonMapping := do
  forEach (fun (entry : String × Json) => do
    ensure (entry.1.toList ≠ [] ∧ entry.1.toList.length ≤ maxArgumentNameLength)
      (invalidRequest s!"{name} contains an invalid key")
    ensure (containsControl entry.1.toList = false)
      (invalidRequest s!"{name} contains a control character")
    validateJsonValue name 0 entry.2) value.entries
  ensure (Settings.writable (.obj value.entries) = true)
    (invalidRequest s!"{name} is not JSON-compatible")
  ensure (utf8Size (canonicalJson (.obj value.entries)) ≤ maximumBytes)
    (invalidRequest s!"{name} exceeds {maximumBytes} bytes")
  return value

/-- A mapping is accepted unchanged. -/
theorem safeMapping_idem {value result : JsonMapping} {name : String} {maximumBytes : Nat}
    (h : safeMapping value name maximumBytes = .ok result) :
    result = value ∧ safeMapping result name maximumBytes = .ok result := by
  have hresult : result = value := by
    simp only [safeMapping, check_bind_eq_ok, pure_eq_ok] at h
    exact h.2.2.2.symm
  subst hresult
  exact ⟨rfl, h⟩

/-! ## The envelope -/

/-- `_validate_request_limits`. -/
def validateRequestLimits (limits : CapabilityResourceLimits) : Result CapabilityResourceLimits := do
  let maxInputChars ← positiveInteger limits.maxInputChars "maximum input characters"
  let maxOutputBytes ← positiveInteger limits.maxOutputBytes "maximum output bytes"
  let maxItems ← positiveInteger limits.maxItems "maximum items"
  return { maxInputChars, maxOutputBytes, maxItems }

/-- `_validate_request_envelope`. -/
def validateRequestEnvelope (request : CapabilityRequest) : Result CapabilityRequest := do
  let capabilityId ← validateToken "capability ID" request.capabilityId maxCapabilityIdLength
  let version ← validateVersion request.capabilityVersion
  let operationId ← validateToken "operation ID" request.operationId maxOperationIdLength
  let sessionId ← validateOptionalToken "session ID" request.sessionId maxSessionIdLength
  let cancellationId ←
    validateOptionalToken "cancellation ID" request.cancellationId maxCancellationIdLength
  let arguments ← safeMapping request.arguments "arguments" maxArgumentJsonBytes
  let identifier ←
    validateText "target identifier" request.target.identifier maxTargetIdentifierLength
  let destination ← optionally
    (fun text => validateText "destination" text maxTargetIdentifierLength) request.destination
  ensure (0 ≤ request.declaredRiskTier ∧ request.declaredRiskTier ≤ 3)
    (invalidRequest "declared risk tier is outside 0 through 3")
  let permissionScope ←
    safeMapping request.permissionScope "permission scope" maxPermissionScopeBytes
  let limits ← validateRequestLimits request.resourceLimits
  let timeout ← positiveInteger request.timeoutSeconds "request timeout"
  ensure (timeout ≤ maxTimeoutSeconds)
    (invalidRequest "request timeout exceeds the global limit")
  return {
    capabilityId := capabilityId, capabilityVersion := version, operationId := operationId,
    actorType := request.actorType, originClass := request.originClass, arguments := arguments,
    target := ⟨request.target.kind, identifier⟩, destination := destination,
    declaredSideEffects := request.declaredSideEffects,
    declaredRiskTier := request.declaredRiskTier, permissionScope := permissionScope,
    resourceLimits := limits, timeoutSeconds := timeout, sessionId := sessionId,
    cancellationId := cancellationId }

omit [FloatLibrary] in
theorem validateRequestLimits_eq_ok {limits result : CapabilityResourceLimits} :
    validateRequestLimits limits = .ok result ↔
      (1 ≤ limits.maxInputChars ∧ 1 ≤ limits.maxOutputBytes ∧ 1 ≤ limits.maxItems) ∧
        result = limits := by
  simp only [validateRequestLimits, bind_eq_ok, positiveInteger_eq_ok, pure_eq_ok]
  constructor
  · rintro ⟨_, ⟨hinput, rfl⟩, _, ⟨houtput, rfl⟩, _, ⟨hitems, rfl⟩, rfl⟩
    exact ⟨⟨hinput, houtput, hitems⟩, rfl⟩
  · rintro ⟨⟨hinput, houtput, hitems⟩, rfl⟩
    exact ⟨_, ⟨hinput, rfl⟩, _, ⟨houtput, rfl⟩, _, ⟨hitems, rfl⟩, rfl⟩

/-- An envelope is accepted unchanged. -/
theorem validateRequestEnvelope_idem {request envelope : CapabilityRequest}
    (h : validateRequestEnvelope request = .ok envelope) :
    validateRequestEnvelope envelope = .ok envelope := by
  simp only [validateRequestEnvelope, bind_eq_ok, exists_const, pure_eq_ok, ensure_eq_ok,
    positiveInteger_eq_ok, validateRequestLimits_eq_ok] at h ⊢
  obtain ⟨capabilityId, hcapability, version, hversion, operationId, hoperation, sessionId, hsession,
    cancellationId, hcancellation, arguments, harguments, identifier, hidentifier, destination,
    hdestination, htier, permissionScope, hscope, limits, ⟨hlimits, rfl⟩, timeout,
    ⟨hpositive, rfl⟩, hbounded, rfl⟩ := h
  exact ⟨_, validateToken_idem hcapability, _, validateVersion_idem hversion, _,
    validateToken_idem hoperation, _, optionally_idem (fun _ _ => validateToken_idem) hsession, _,
    optionally_idem (fun _ _ => validateToken_idem) hcancellation, _,
    (safeMapping_idem harguments).2, _, validateText_idem hidentifier, _,
    optionally_idem (fun _ _ => validateText_idem) hdestination, htier, _,
    (safeMapping_idem hscope).2, _, ⟨hlimits, rfl⟩, _, ⟨hpositive, rfl⟩, hbounded, rfl⟩

end

end DollState.Capability
