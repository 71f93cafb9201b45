import DollState.Model.Fields
import DollState.State.Repository

/-!
# Runtime manifests, model manifests and bindings

The three records of `model_manifest.py`, as a row of the database is read: its metadata has exactly
the keys of its kind, and every value passes the check of its field. Besides the envelope, what a
record says is its content.
-/

namespace DollState.Model

open StateLib

def runtimeType : String := "runtime_manifest"
def modelType : String := "model_manifest"
def bindingType : String := "model_binding"

/-! ## States -/

inductive ManifestState where
  | draft | candidate | verified | quarantined | deprecated | unavailable
deriving DecidableEq, Repr

inductive LicenseReviewState where
  | unreviewed | reviewedCompatible | reviewedRestricted | rejected
deriving DecidableEq, Repr

inductive BindingState where
  | candidate | active | previous | fallback | disabled | rolledBack
deriving DecidableEq, Repr

inductive SmokeTestStatus where
  | notRun | passed | failed
deriving DecidableEq, Repr

def ManifestState.text : ManifestState → Text
  | .draft => "draft".toList
  | .candidate => "candidate".toList
  | .verified => "verified".toList
  | .quarantined => "quarantined".toList
  | .deprecated => "deprecated".toList
  | .unavailable => "unavailable".toList

def LicenseReviewState.text : LicenseReviewState → Text
  | .unreviewed => "unreviewed".toList
  | .reviewedCompatible => "reviewed_compatible".toList
  | .reviewedRestricted => "reviewed_restricted".toList
  | .rejected => "rejected".toList

def BindingState.text : BindingState → Text
  | .candidate => "candidate".toList
  | .active => "active".toList
  | .previous => "previous".toList
  | .fallback => "fallback".toList
  | .disabled => "disabled".toList
  | .rolledBack => "rolled_back".toList

def SmokeTestStatus.text : SmokeTestStatus → Text
  | .notRun => "not_run".toList
  | .passed => "passed".toList
  | .failed => "failed".toList

/-- The member of an enumeration that a value names. -/
def member {α : Type} (members : List α) (name : α → Text) (message : String) :
    Json → Result α
  | .str value => orFail (invalid message) (members.find? fun a => name a = value)
  | _ => .error (invalid message)

/-- `_manifest_state`. -/
def manifestState : Json → Result ManifestState :=
  member [.draft, .candidate, .verified, .quarantined, .deprecated, .unavailable]
    ManifestState.text "manifest state is invalid"

/-- `_license_state`. -/
def licenseState : Json → Result LicenseReviewState :=
  member [.unreviewed, .reviewedCompatible, .reviewedRestricted, .rejected]
    LicenseReviewState.text "license review state is invalid"

/-- `_binding_state`. -/
def bindingState : Json → Result BindingState :=
  member [.candidate, .active, .previous, .fallback, .disabled, .rolledBack]
    BindingState.text "binding state is invalid"

/-- `_smoke_state`. -/
def smokeState : Json → Result SmokeTestStatus :=
  member [.notRun, .passed, .failed] SmokeTestStatus.text "smoke-test state is invalid"

theorem bindingState_eq_ok {value : Json} {state : BindingState} :
    bindingState value = .ok state ↔ value = .str state.text := by
  constructor
  · intro h
    cases value with
    | str s =>
      have hfind := List.find?_some (orFail_eq_ok.1 h)
      rw [decide_eq_true_eq] at hfind
      rw [hfind]
    | _ => cases h
  · rintro rfl
    cases state <;> rfl

theorem manifestState_eq_ok {value : Json} {state : ManifestState} :
    manifestState value = .ok state ↔ value = .str state.text := by
  constructor
  · intro h
    cases value with
    | str s =>
      have hfind := List.find?_some (orFail_eq_ok.1 h)
      rw [decide_eq_true_eq] at hfind
      rw [hfind]
    | _ => cases h
  · rintro rfl
    cases state <;> rfl

theorem BindingState.text_injective : Function.Injective BindingState.text := by
  intro a b h
  cases a <;> cases b <;> first | rfl | exact absurd h (by decide)

/-! ## Records -/

/-- The envelope of a record, as the services return it. -/
structure Envelope where
  id : RecordId
  revision : Int
  lifecycleStatus : RecordStatus
  provenance : RecordProvenance
  sensitivity : RecordSensitivity
  createdAt : Text
  updatedAt : Text

def Envelope.of (record : RecordEnvelope) : Envelope where
  id := record.id
  revision := record.revision
  lifecycleStatus := record.status
  provenance := record.provenance
  sensitivity := record.sensitivity
  createdAt := record.createdAt
  updatedAt := record.updatedAt

structure RuntimeContent where
  adapterId : Text
  adapterVersion : Text
  runtimeClass : Text
  connectionKind : Text
  runtimeVersion : Option Text
  declarationFingerprint : Text
  operations : List Text
  offlineCapable : Bool
  cloudFallback : Bool
  automaticDownload : Bool
  platforms : List Text
  compatibility : List Text
  sourceReferences : List Text
  manifestState : ManifestState
  verificationEvidenceIds : List RecordId
  quarantineReason : Option Text

structure RuntimeManifestInfo where
  envelope : Envelope
  label : Text
  content : RuntimeContent

structure ModelContent where
  runtimeManifestId : RecordId
  runtimePrivateLocator : Text
  displayName : Text
  exactRevision : Text
  checksums : List (Text × Text)
  sourceReferences : List Text
  licenseId : Text
  licenseReviewState : LicenseReviewState
  modelFormat : Text
  sizeBytes : Option Int
  contextLimit : Option Int
  capabilities : List Text
  platforms : List Text
  compatibility : List Text
  manifestState : ManifestState
  verificationEvidenceIds : List RecordId
  quarantineReason : Option Text

structure ModelManifestInfo where
  envelope : Envelope
  content : ModelContent

structure BindingContent where
  scopeType : Text
  scopeKey : Text
  runtimeManifestId : RecordId
  runtimeManifestRevision : Int
  modelManifestId : RecordId
  modelManifestRevision : Int
  bindingState : BindingState
  activatedAt : Option Text
  activationEvidenceIds : List RecordId
  previousBindingId : Option RecordId
  fallbackPriority : Option Int
  fallbackEligible : Bool
  rollbackTargetId : Option RecordId
  rollbackReason : Option Text
  smokeTestStatus : SmokeTestStatus

structure ModelBindingInfo where
  envelope : Envelope
  content : BindingContent

/-! ## Shapes -/

def runtimeKeys : List String :=
  ["adapter_id", "adapter_version", "runtime_class", "connection_kind", "runtime_version",
    "declaration_fingerprint", "operations", "offline_capable", "cloud_fallback",
    "automatic_download", "platforms", "compatibility", "source_references", "manifest_state",
    "verification_evidence_ids", "quarantine_reason"]

def modelKeys : List String :=
  ["runtime_manifest_id", "runtime_private_locator", "display_name", "exact_revision",
    "checksums", "source_references", "license_id", "license_review_state", "model_format",
    "size_bytes", "context_limit", "capabilities", "platforms", "compatibility", "manifest_state",
    "verification_evidence_ids", "quarantine_reason"]

def bindingKeys : List String :=
  ["scope_type", "scope_key", "runtime_manifest_id", "runtime_manifest_revision",
    "model_manifest_id", "model_manifest_revision", "binding_state", "activated_at",
    "activation_evidence_ids", "previous_binding_id", "fallback_priority", "fallback_eligible",
    "rollback_target_id", "rollback_reason", "smoke_test_status"]

/-- `frozenset(metadata) == keys`. -/
def hasKeys (metadata : Metadata) (keys : List String) : Prop :=
  (∀ entry ∈ metadata, entry.1 ∈ keys) ∧ ∀ key ∈ keys, (metadata.lookup key).isSome

instance (metadata : Metadata) (keys : List String) : Decidable (hasKeys metadata keys) := by
  unfold hasKeys
  infer_instance

/-- `_require_shape`; every schema version is 1. -/
def requireShape (record : RecordEnvelope) (recordType : String) (keys : List String) :
    Result Unit := do
  ensure (record.recordType = recordType ∧ record.schemaVersion = 1)
    (invalid "record type or schema is invalid")
  ensure (record.status = .active ∨ record.status = .archived)
    (invalid "record lifecycle is invalid")
  ensure (hasKeys record.metadata keys) (invalid "record metadata shape is invalid")

/-- The handler of the three readers. -/
def orCorrupt {α : Type} (message : String) : Result α → Result α :=
  catching (DollError.isA [.key, .value, .modelManifestValidation])
    ⟨.modelManifestCorrupt, message⟩

/-! ## Runtime manifests -/

/-- The operations that a runtime may have. -/
def allowedOperations : List Text :=
  ["health", "inventory", "generate", "stream", "cancel"].map String.toList

/-- `_runtime_fingerprint`. -/
def runtimeFingerprint [ModuleRules] (adapterId adapterVersion runtimeClass connectionKind : Text)
    (operations : List Text) (offlineCapable cloudFallback automaticDownload : Bool) : Text :=
  "sha256:".toList ++ hexDigits 64 (ModuleRules.sha256 (.obj
    [("adapter_id", .str adapterId), ("adapter_version", .str adapterVersion),
      ("automatic_download", .bool automaticDownload), ("cloud_fallback", .bool cloudFallback),
      ("connection_kind", .str connectionKind), ("offline_capable", .bool offlineCapable),
      ("operations", .arr (operations.map .str)), ("runtime_class", .str runtimeClass)])).toNat

/-- `_fingerprint`. -/
def fingerprint : Json → Result Text
  | .str value => do
    ensure ("sha256:".toList.isPrefixOf value = true ∧ (value.drop 7).length = 64 ∧
        (value.drop 7).all (fun c => c.isDigit || ('a' ≤ c && c ≤ 'f')) = true)
      (invalid "declaration fingerprint is invalid")
    return value
  | _ => .error (invalid "declaration fingerprint is invalid")

section

variable [PythonLibrary]

/-- What the readers check of a manifest's state and quarantine reason. -/
def stateAndReason (metadata : Metadata) (message : String) :
    Result (ManifestState × Option Text) := do
  let state ← manifestState (metadata.get "manifest_state")
  let reason ← optional (text "quarantine reason" · maxText) (metadata.get "quarantine_reason")
  ensure (state = .quarantined ↔ reason ≠ none) (invalid message)
  return (state, reason)

/-- The checks of `_runtime_from_record`, of the metadata. -/
def readRuntime [ModuleRules] (metadata : Metadata) : Result RuntimeContent := do
  let adapterId ← token "adapter ID" (metadata.get "adapter_id")
  let adapterVersion ← token "adapter version" (metadata.get "adapter_version")
  let runtimeClass ← token "runtime class" (metadata.get "runtime_class")
  let connectionKind ← token "connection kind" (metadata.get "connection_kind")
  let operations ← tokens "operations" (← list (metadata.get "operations"))
    (some allowedOperations)
  let stored ← fingerprint (metadata.get "declaration_fingerprint")
  let offlineCapable ← flag "offline capable" (metadata.get "offline_capable")
  let cloudFallback ← flag "cloud fallback" (metadata.get "cloud_fallback")
  let automaticDownload ← flag "automatic download" (metadata.get "automatic_download")
  ensure (stored = runtimeFingerprint adapterId adapterVersion runtimeClass connectionKind
      operations offlineCapable cloudFallback automaticDownload)
    (invalid "runtime declaration fingerprint does not match")
  let (manifestState, quarantineReason) ← stateAndReason metadata
    "runtime quarantine metadata is inconsistent"
  return {
    adapterId, adapterVersion, runtimeClass, connectionKind
    runtimeVersion := ← optional (token "runtime version") (metadata.get "runtime_version")
    declarationFingerprint := stored
    operations, offlineCapable, cloudFallback, automaticDownload
    platforms := ← tokens "platforms" (← list (metadata.get "platforms")) none
    compatibility := ← tokens "compatibility" (← list (metadata.get "compatibility")) none
    sourceReferences := ← references (← list (metadata.get "source_references"))
    manifestState
    verificationEvidenceIds := ← identifiers "verification evidence IDs"
      (← list (metadata.get "verification_evidence_ids"))
    quarantineReason }

/-- `_runtime_from_record`. -/
def runtimeFromRecord [ModuleRules] (record : RecordEnvelope) : Result RuntimeManifestInfo :=
  orCorrupt "runtime manifest record is invalid" do
    requireShape record runtimeType runtimeKeys
    let content ← readRuntime record.metadata
    let label ← text "runtime label" (Json.ofText? record.title) maxDisplay
    return { envelope := .of record, label, content }

/-! ## Model manifests -/

/-- The checks of `_model_from_record`, of the metadata. -/
def readModel [CaseLibrary] (metadata : Metadata) : Result ModelContent := do
  let (manifestState, quarantineReason) ← stateAndReason metadata
    "model quarantine metadata is inconsistent"
  return {
    runtimeManifestId := ← identifier "runtime manifest ID" (metadata.get "runtime_manifest_id")
    runtimePrivateLocator := ← locator (metadata.get "runtime_private_locator")
    displayName := ← text "model display name" (metadata.get "display_name") maxDisplay
    exactRevision := ← text "exact model revision" (metadata.get "exact_revision") maxText
    checksums := ← checksumPayload (metadata.get "checksums")
    sourceReferences := ← references (← list (metadata.get "source_references"))
    licenseId := ← token "license ID" (metadata.get "license_id")
    licenseReviewState := ← licenseState (metadata.get "license_review_state")
    modelFormat := ← token "model format" (metadata.get "model_format")
    sizeBytes := ← optional (positiveInt "model size") (metadata.get "size_bytes")
    contextLimit := ← optional (positiveInt "context limit") (metadata.get "context_limit")
    capabilities := ← tokens "capabilities" (← list (metadata.get "capabilities")) none
    platforms := ← tokens "platforms" (← list (metadata.get "platforms")) none
    compatibility := ← tokens "compatibility" (← list (metadata.get "compatibility")) none
    manifestState
    verificationEvidenceIds := ← identifiers "verification evidence IDs"
      (← list (metadata.get "verification_evidence_ids"))
    quarantineReason }

/-- `_model_from_record`. -/
def modelFromRecord [CaseLibrary] (record : RecordEnvelope) : Result ModelManifestInfo :=
  orCorrupt "model manifest record is invalid" do
    requireShape record modelType modelKeys
    let content ← readModel record.metadata
    return { envelope := .of record, content }

/-! ## Bindings -/

/-- The checks of `_binding_from_record`, of the metadata. -/
def readBinding (metadata : Metadata) : Result BindingContent := do
  let state ← bindingState (metadata.get "binding_state")
  let activatedAt ← optional timestamp (metadata.get "activated_at")
  let fallbackPriority ← optional (positiveInt "fallback priority")
    (metadata.get "fallback_priority")
  let fallbackEligible ← flag "fallback eligible" (metadata.get "fallback_eligible")
  ensure (¬ (state = .active ∧ activatedAt = none))
    (invalid "active binding has no activation time")
  ensure (¬ (state = .fallback ∧ (fallbackEligible = false ∨ fallbackPriority = none)))
    (invalid "fallback binding metadata is inconsistent")
  ensure (¬ (state ≠ .fallback ∧ (fallbackEligible = true ∨ fallbackPriority ≠ none)))
    (invalid "non-fallback binding has fallback metadata")
  return {
    scopeType := ← token "scope type" (metadata.get "scope_type")
    scopeKey := ← scopeKey (metadata.get "scope_key")
    runtimeManifestId := ← identifier "runtime manifest ID" (metadata.get "runtime_manifest_id")
    runtimeManifestRevision := ← positiveInt "runtime manifest revision"
      (metadata.get "runtime_manifest_revision")
    modelManifestId := ← identifier "model manifest ID" (metadata.get "model_manifest_id")
    modelManifestRevision := ← positiveInt "model manifest revision"
      (metadata.get "model_manifest_revision")
    bindingState := state
    activatedAt
    activationEvidenceIds := ← identifiers "activation evidence IDs"
      (← list (metadata.get "activation_evidence_ids"))
    previousBindingId := ← optional (identifier "previous binding ID")
      (metadata.get "previous_binding_id")
    fallbackPriority, fallbackEligible
    rollbackTargetId := ← optional (identifier "rollback target ID")
      (metadata.get "rollback_target_id")
    rollbackReason := ← optional (text "rollback reason" · maxText)
      (metadata.get "rollback_reason")
    smokeTestStatus := ← smokeState (metadata.get "smoke_test_status") }

/-- `_binding_from_record`. -/
def bindingFromRecord (record : RecordEnvelope) : Result ModelBindingInfo :=
  orCorrupt "model binding record is invalid" do
    requireShape record bindingType bindingKeys
    let content ← readBinding record.metadata
    return { envelope := .of record, content }

end

end DollState.Model
