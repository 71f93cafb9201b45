import DollState.Audit.Events
import DollState.Capability.Gates

/-!
# Confirmations of Tier 3 operations

The values a confirmation is made of, and the fingerprint of the exact operation that it confirms:
the digest of the canonical JSON text of everything the operation depends on.
-/

namespace DollState.Confirmation

open Capability Instruction StateLib

inductive ConfirmationReason where
  | notRequired
  | notEvaluated
  | approved
  | missing
  | denied
  | expired
  | consumed
  | revoked
  | mismatch
  | corrupt
deriving DecidableEq, Repr

def ConfirmationReason.name : ConfirmationReason → String
  | .notRequired => "not_required"
  | .notEvaluated => "not_evaluated"
  | .approved => "approved"
  | .missing => "missing"
  | .denied => "denied"
  | .expired => "expired"
  | .consumed => "consumed"
  | .revoked => "revoked"
  | .mismatch => "mismatch"
  | .corrupt => "corrupt"

inductive ConfirmationDecision where
  | approved | denied
deriving DecidableEq, Repr

def ConfirmationDecision.text : ConfirmationDecision → Text
  | .approved => "approved".toList
  | .denied => "denied".toList

inductive ConfirmationMutationActor where
  | user | model | runtime | capability | system | tool | content | «import»
deriving DecidableEq, Repr

def defaultConfirmationTtlSeconds : Int := 120
def maxConfirmationTtlSeconds : Int := 600
def maxConfirmationEvents : Nat := 32
def maxPreviewTextLength : Nat := 500
def maxCredentialClassLength : Nat := 120
def maxConfirmationIdLength : Nat := 200

/-- `ConfirmationPreview`: the consequences that the user is shown. -/
structure ConfirmationPreview where
  effectSummary : Text
  irreversible : Bool
  recoveryDescription : Option Text
  credentialClass : Option Text
  accountLabel : Option Text

structure ConfirmationInfo where
  confirmationId : Text
  operationId : Text
  capabilityId : Text
  capabilityVersion : Text
  requestFingerprint : Text
  registryFingerprint : Text
  decision : ConfirmationDecision
  issuedAt : Text
  expiresAt : Text
  targetKind : Text
  destinationHost : Option Text
  sideEffects : List Text
  credentialClass : Option Text
  dataLeavesMachine : Bool
  irreversible : Bool
  recoveryAvailable : Bool
  effectSummary : Text
  accountLabel : Option Text
  recoveryDescription : Option Text

structure ConfirmationResolution where
  confirmationId : Option Text
  reason : ConfirmationReason
  requestFingerprint : Text
  info : Option ConfirmationInfo

def ConfirmationResolution.approved (resolution : ConfirmationResolution) : Bool :=
  resolution.reason = .approved

def invalid (message : String) : DollError := ⟨.confirmationValidation, message⟩
def corrupt (message : String) : DollError := ⟨.confirmationCorrupt, message⟩

/-! ## Checks -/

/-- `require_user_management`. -/
def requireUserManagement (actorType : ConfirmationMutationActor) (originClass : OriginClass) :
    Result Unit :=
  ensure (actorType = .user ∧ originClass = .userManagementAction)
    ⟨.forbiddenConfirmationMutation,
      "confirmation requires a trusted user-controlled management action"⟩

/-- `validate_ttl`. -/
def validateTtl (value : Int) : Result Int := do
  ensure (1 ≤ value ∧ value ≤ maxConfirmationTtlSeconds)
    (invalid s!"confirmation TTL must be between 1 and {maxConfirmationTtlSeconds} seconds")
  return value

/-- `safe_now` of a reading of the clock, `none` for a clock that raises: the instant. -/
def safeNow (reading : Option Datetime) : Result Int :=
  match reading with
  | none => .error (invalid "confirmation clock failed")
  | some ⟨_, none⟩ => .error (invalid "confirmation clock must return a timezone-aware value")
  | some ⟨instant, some _⟩ => .ok instant

/-- `value.replace("Z", "+00:00")`. -/
def replaceZulu (value : Text) : Text :=
  value.flatMap fun c => if c = 'Z' then "+00:00".toList else [c]

/-- `parse_utc`. -/
def parseUtc [PythonLibrary] (value : Text) : Result Int :=
  match PythonLibrary.fromisoformat (replaceZulu value) with
  | none => .error (corrupt "confirmation timestamp is invalid")
  | some ⟨_, none⟩ => .error (corrupt "confirmation timestamp is not timezone-aware")
  | some ⟨instant, some _⟩ => .ok instant

/-- `validate_token`. -/
def validateToken (name : String) (value : Text) (maximum : Nat) : Result Text := do
  let normalized := strip value
  ensure (normalized ≠ [] ∧ normalized.length ≤ maximum ∧ isToken normalized = true)
    (invalid s!"{name} is invalid")
  return normalized

/-- `validate_optional_token`. -/
def validateOptionalToken (name : String) (value : Option Text) (maximum : Nat) :
    Result (Option Text) :=
  optionally (fun text => validateToken name text maximum) value

/-- `sha256:[0-9a-f]{64}` matches the whole text. -/
def isFingerprint (value : Text) : Bool :=
  "sha256:".toList.isPrefixOf value && (value.drop 7).length = 64 &&
    (value.drop 7).all fun c => c.isDigit || ('a' ≤ c && c ≤ 'f')

/-- `validate_fingerprint`. -/
def validateFingerprint (name : String) (value : Text) : Result Text := do
  ensure (isFingerprint value = true) (invalid s!"{name} is invalid")
  return value

section

variable [Audit.AuditRules]

/-! ## The preview -/

/-- `_serialize_metadata({"value": normalized})` accepts the text. -/
def isSafePreviewText [FloatLibrary] (normalized : Text) : Bool :=
  match Audit.serializeMetadataForWrite [("value", .str normalized)] with
  | .ok sanitized => Json.eq (.obj sanitized) (.obj [("value", .str normalized)])
  | .error _ => false

/-- `_validate_preview_text`, of a text that is given. -/
def validatePreviewText [FloatLibrary] (name : String) (required : Bool) (value : Text) :
    Result (Option Text) := do
  let normalized := joinWords value
  if normalized = [] then do
    ensure (required = false) (invalid s!"{name} is required")
    return none
  else do
    ensure (normalized.length ≤ maxPreviewTextLength)
      (invalid s!"{name} exceeds {maxPreviewTextLength} characters")
    ensure (isSafePreviewText normalized = true) (invalid s!"{name} contains unsafe data")
    return some normalized

/-- `_validate_preview_text`, of a text that may be missing. -/
def validateOptionalPreviewText [FloatLibrary] (name : String) (value : Option Text) :
    Result (Option Text) :=
  match value with
  | none => .ok none
  | some text => validatePreviewText name false text

/-- `validate_preview`. -/
def validatePreview [FloatLibrary] (preview : ConfirmationPreview) : Result ConfirmationPreview := do
  let effectSummary ← validatePreviewText "effect summary" true preview.effectSummary
  let recovery ← validateOptionalPreviewText "recovery description" preview.recoveryDescription
  let credential ←
    validateOptionalToken "credential class" preview.credentialClass maxCredentialClassLength
  let account ← validateOptionalPreviewText "account label" preview.accountLabel
  return {
    effectSummary := effectSummary.getD [], irreversible := preview.irreversible,
    recoveryDescription := recovery, credentialClass := credential, accountLabel := account }

/-! ## The fingerprint -/

mutual

/-- `_canonical_value` accepts the value; it sorts its entries, which nothing observes. -/
def isCanonicalValue : Json → Bool
  | .null | .bool _ | .int _ | .str _ => true
  | .real _ | .minusZero => false
  | .arr xs => areCanonicalValues xs
  | .obj entries => areCanonicalEntries entries

def areCanonicalValues : List Json → Bool
  | [] => true
  | x :: xs => isCanonicalValue x && areCanonicalValues xs

def areCanonicalEntries : List (String × Json) → Bool
  | [] => true
  | (_, x) :: entries => isCanonicalValue x && areCanonicalEntries entries

end

/-- `_canonical_value` of a mapping. -/
def canonicalValue (mapping : JsonMapping) : Result Json := do
  ensure (isCanonicalValue (.obj mapping.entries) = true)
    (invalid "confirmation input contains unsupported JSON data")
  return .obj mapping.entries

mutual

/-- `_reject_secret_strings`. A key is rejected with an error of the audit module. -/
def rejectSecretStrings : Json → Result Unit
  | .obj entries => rejectSecretEntries entries
  | .arr xs => rejectSecretElements xs
  | .str s => ensure (Audit.AuditRules.isSecret s = false)
      (invalid "secret-like values cannot be embedded in confirmation input")
  | .null | .bool _ | .int _ | .real _ | .minusZero => .ok ()

def rejectSecretEntries : List (String × Json) → Result Unit
  | [] => .ok ()
  | (key, nested) :: entries => do
    ensure (Audit.AuditRules.isSecret key.toList = false)
      (Audit.invalid "audit data appears to contain secret material")
    rejectSecretStrings nested
    rejectSecretEntries entries

def rejectSecretElements : List Json → Result Unit
  | [] => .ok ()
  | item :: xs => do
    rejectSecretStrings item
    rejectSecretElements xs

end

/-- The payload of `confirmation_fingerprint`. -/
def fingerprintPayload (envelope : CapabilityRequest) (registryFingerprint : Text)
    (arguments permissionScope : Json) (normalizedDestination credentialClass : Option Text) : Json :=
  .obj [
    ("schema_version", .int 1),
    ("registry_fingerprint", .str registryFingerprint),
    ("capability_id", .str envelope.capabilityId),
    ("capability_version", .str envelope.capabilityVersion),
    ("operation_id", .str envelope.operationId),
    ("session_id", Json.ofText? envelope.sessionId),
    ("actor_type", .str envelope.actorType.text),
    ("origin_class", .str envelope.originClass.text),
    ("arguments", arguments),
    ("target", .obj [
      ("kind", .str envelope.target.kind.text),
      ("identifier", .str envelope.target.identifier)]),
    ("destination", Json.ofText? normalizedDestination),
    ("side_effects", .arr (sortedSideEffects envelope.declaredSideEffects)),
    ("risk_tier", .int envelope.declaredRiskTier),
    ("permission_scope", permissionScope),
    ("resource_limits", .obj [
      ("max_input_chars", .int envelope.resourceLimits.maxInputChars),
      ("max_output_bytes", .int envelope.resourceLimits.maxOutputBytes),
      ("max_items", .int envelope.resourceLimits.maxItems)]),
    ("timeout_seconds", .int envelope.timeoutSeconds),
    ("cancellation_id", Json.ofText? envelope.cancellationId),
    ("credential_class", Json.ofText? credentialClass)]

variable [FloatLibrary]

/-- What `confirmation_fingerprint` hashes: the JSON text of its payload. -/
def fingerprintText (request : CapabilityRequest) (registryFingerprint : Text)
    (normalizedDestination credentialClass : Option Text) : Result Text := do
  let envelope ← validateRequestEnvelope request
  let safeRegistry ← validateFingerprint "registry fingerprint" registryFingerprint
  let safeCredential ←
    validateOptionalToken "credential class" credentialClass maxCredentialClassLength
  rejectSecretStrings (.obj envelope.arguments.entries)
  rejectSecretStrings (.obj envelope.permissionScope.entries)
  let arguments ← canonicalValue envelope.arguments
  let permissionScope ← canonicalValue envelope.permissionScope
  return canonicalJson (fingerprintPayload envelope safeRegistry arguments permissionScope
    normalizedDestination safeCredential)

/-- `confirmation_fingerprint`. -/
def confirmationFingerprint [DigestLibrary] (request : CapabilityRequest)
    (registryFingerprint : Text) (normalizedDestination credentialClass : Option Text) :
    Result Text := do
  let text ← fingerprintText request registryFingerprint normalizedDestination credentialClass
  return "sha256:".toList ++ DigestLibrary.sha256Hex text

end

end DollState.Confirmation
