import DollState.Capability.Contracts
import DollState.Model.Service

/-!
# The calls of the model manifest service

Each call up to its transaction. A call that changes one record writes back the metadata it read
before its transaction, with its own fields set; the transaction compares only the revision it finds
with the one the caller expects.
-/

namespace DollState.Model

open Capability StateLib

/-- The text of a provenance. -/
def provenanceText : RecordProvenance → Text
  | .userCreated => "user-created".toList
  | .userConfirmed => "user-confirmed".toList
  | .imported => "imported".toList
  | .modelProposed => "model-proposed".toList
  | .systemGenerated => "system-generated".toList
  | .migrated => "migrated".toList
  | .restored => "restored".toList

/-- The arguments common to the calls. -/
structure Caller where
  actorType : ManifestActor
  operationId : Option Text

/-- The arguments common to the calls that create a record. -/
structure Creator extends Caller where
  sensitivity : RecordSensitivity

structure RuntimeArgs where
  label : Text
  adapterId : Text
  adapterVersion : Text
  runtimeClass : Text
  connectionKind : Text
  operations : List Text
  offlineCapable : Bool
  cloudFallback : Bool
  automaticDownload : Bool
  runtimeVersion : Option Text
  platforms : List Text
  compatibility : List Text
  sourceReferences : List Text

structure ModelArgs where
  runtimeManifestId : Text
  runtimePrivateLocator : Text
  displayName : Text
  exactRevision : Text
  checksums : List (Text × Text)
  licenseId : Text
  modelFormat : Text
  sizeBytes : Option Int
  contextLimit : Option Int
  capabilities : List Text
  platforms : List Text
  compatibility : List Text
  sourceReferences : List Text

/-- A list of texts as it is stored. -/
def textList (values : List Text) : Json := .arr (values.map .str)

/-- An optional number as it is stored. -/
def optionalInt : Option Int → Json
  | none => .null
  | some i => .int i

section

variable [ModuleRules]

/-! ## What a call ends with -/

def auditDraft (ctx : Context) (caller : Caller) (actor : ManifestActor) (action targetType : String)
    (metadata : Metadata) : AuditDraft where
  eventId := ctx.eventId
  occurredAt := ctx.auditNow
  operationId := operationId ctx.toSurroundings caller.operationId
  actorType := actor.audit
  action := action
  targetType := targetType
  summary := "Changed authoritative local-model configuration"
  metadata := .ok metadata

/-- `_create_record`, up to its transaction. -/
def createRecord (ctx : Context) (recordType : String) (title : Text) (metadata : Metadata)
    (creator : Creator) (action : String) : Result Write := do
  requireWrite ctx.toSurroundings
  validateRecordFields recordType 1
  validateSecretBoundary recordType creator.sensitivity metadata
  let provenance := creator.actorType.provenance
  return .create
    { id := ctx.newId, recordType := recordType, schemaVersion := 1, createdAt := ctx.now,
      updatedAt := ctx.now, revision := 1, status := .active, provenance := provenance,
      sensitivity := creator.sensitivity, title := some title, metadata := metadata }
    (auditDraft ctx creator.toCaller creator.actorType action recordType
      [("provenance", .str (provenanceText provenance)), ("state", .str "candidate".toList)])

/-- `_require_user`. -/
def requireUser (actor : ManifestActor) (action : String) : Result Unit :=
  ensure (actor = .user) (invalid s!"{action} requires the user path")

/-- `_require_quarantine_actor`, and the checks of the two calls that mark a manifest unavailable. -/
def requireUserOrSystem (actor : ManifestActor) (message : String) : Result Unit :=
  ensure (actor = .user ∨ actor = .system) (invalid message)

variable [PythonLibrary]

/-- `_update_one`, up to its transaction. -/
def prepareUpdate (ctx : Context) (recordId : Text) (expectedRevision : Int) (metadata : Metadata)
    (provenance : RecordProvenance) (caller : Caller) (action : String) : Reader Write := do
  requireWrite ctx.toSurroundings
  let record ← getRecordText recordId
  return .update record.id expectedRevision metadata provenance ctx.now
    (auditDraft ctx caller caller.actorType action record.recordType
      [("revision", .int (expectedRevision + 1))])

/-! ## Creation -/

/-- `create_runtime`. -/
def createRuntime (ctx : Context) (args : RuntimeArgs) (creator : Creator) : Result Write := do
  let adapterId ← token "adapter ID" (.str args.adapterId)
  let adapterVersion ← token "adapter version" (.str args.adapterVersion)
  let runtimeClass ← token "runtime class" (.str args.runtimeClass)
  let connection ← token "connection kind" (.str args.connectionKind)
  let operations ← tokens "operations" (args.operations.map .str) (some allowedOperations)
  let runtimeVersion ← optional (token "runtime version") (.ofText? args.runtimeVersion)
  let platforms ← tokens "platforms" (args.platforms.map .str) none
  let compatibility ← tokens "compatibility" (args.compatibility.map .str) none
  let sourceReferences ← references (args.sourceReferences.map .str)
  let label ← text "runtime label" (.str args.label) maxDisplay
  createRecord ctx runtimeType label
    [("adapter_id", .str adapterId), ("adapter_version", .str adapterVersion),
      ("runtime_class", .str runtimeClass), ("connection_kind", .str connection),
      ("runtime_version", .ofText? runtimeVersion),
      ("declaration_fingerprint", .str (runtimeFingerprint adapterId adapterVersion runtimeClass
        connection operations args.offlineCapable args.cloudFallback args.automaticDownload)),
      ("operations", textList operations), ("offline_capable", .bool args.offlineCapable),
      ("cloud_fallback", .bool args.cloudFallback),
      ("automatic_download", .bool args.automaticDownload), ("platforms", textList platforms),
      ("compatibility", textList compatibility), ("source_references", textList sourceReferences),
      ("manifest_state", .str ManifestState.candidate.text),
      ("verification_evidence_ids", .arr []), ("quarantine_reason", .null)]
    creator "runtime_manifest.create"

variable [CaseLibrary]

/-- `create_model`. -/
def createModel (ctx : Context) (args : ModelArgs) (creator : Creator) : Reader Write := do
  let runtime ← getRuntime args.runtimeManifestId
  ensure (runtime.envelope.lifecycleStatus = .active) (invalid "runtime manifest is archived")
  let locator ← locator (.str args.runtimePrivateLocator)
  let displayName ← text "model display name" (.str args.displayName) maxDisplay
  let exactRevision ← text "exact model revision" (.str args.exactRevision) maxText
  let checksums ← checksums args.checksums
  let sourceReferences ← references (args.sourceReferences.map .str)
  let licenseId ← token "license ID" (.str args.licenseId)
  let modelFormat ← token "model format" (.str args.modelFormat)
  let sizeBytes ← optional (positiveInt "model size") (optionalInt args.sizeBytes)
  let contextLimit ← optional (positiveInt "context limit") (optionalInt args.contextLimit)
  let capabilities ← tokens "capabilities" (args.capabilities.map .str) none
  let platforms ← tokens "platforms" (args.platforms.map .str) none
  let compatibility ← tokens "compatibility" (args.compatibility.map .str) none
  createRecord ctx modelType displayName
    [("runtime_manifest_id", .str (uuidText runtime.envelope.id)),
      ("runtime_private_locator", .str locator), ("display_name", .str displayName),
      ("exact_revision", .str exactRevision), ("checksums", checksumList checksums),
      ("source_references", textList sourceReferences), ("license_id", .str licenseId),
      ("license_review_state", .str LicenseReviewState.unreviewed.text),
      ("model_format", .str modelFormat), ("size_bytes", optionalInt sizeBytes),
      ("context_limit", optionalInt contextLimit), ("capabilities", textList capabilities),
      ("platforms", textList platforms), ("compatibility", textList compatibility),
      ("manifest_state", .str ManifestState.candidate.text),
      ("verification_evidence_ids", .arr []), ("quarantine_reason", .null)]
    creator "model_manifest.create"

/-- `create_binding`. -/
def createBinding (ctx : Context) (scopeType scopeKeyText runtimeManifestId modelManifestId : Text)
    (smokeTestStatus : SmokeTestStatus) (creator : Creator) : Reader Write := do
  let runtime ← getRuntime runtimeManifestId
  let model ← getModel modelManifestId
  ensure (model.content.runtimeManifestId = runtime.envelope.id)
    (invalid "model manifest belongs to another runtime")
  let scopeType ← token "binding scope type" (.str scopeType)
  let key ← scopeKey (.str scopeKeyText)
  createRecord ctx bindingType (scopeType ++ ':' :: key)
    [("scope_type", .str scopeType), ("scope_key", .str key),
      ("runtime_manifest_id", .str (uuidText runtime.envelope.id)),
      ("runtime_manifest_revision", .int runtime.envelope.revision),
      ("model_manifest_id", .str (uuidText model.envelope.id)),
      ("model_manifest_revision", .int model.envelope.revision),
      ("binding_state", .str BindingState.candidate.text), ("activated_at", .null),
      ("activation_evidence_ids", .arr []), ("previous_binding_id", .null),
      ("fallback_priority", .null), ("fallback_eligible", .bool false),
      ("rollback_target_id", .null), ("rollback_reason", .null),
      ("smoke_test_status", .str smokeTestStatus.text)]
    creator "model_binding.create"

/-! ## Manifests -/

/-- What a verification writes. -/
def verification (evidence : List RecordId) : List (String × Json) :=
  [("manifest_state", .str ManifestState.verified.text),
    ("verification_evidence_ids", .ofIds evidence), ("quarantine_reason", .null)]

/-- `verify_runtime`. -/
def verifyRuntime (ctx : Context) (manifestId : Text) (expectedRevision : Int)
    (evidence : List Text) (caller : Caller) : Reader Write := do
  requireUser caller.actorType "runtime verification"
  let current ← getRuntime manifestId
  ensure (current.content.manifestState = .draft ∨ current.content.manifestState = .candidate)
    (invalid "runtime manifest cannot be verified from its state")
  ensure (current.content.offlineCapable = true ∧ current.content.cloudFallback = false ∧
    current.content.automaticDownload = false) (invalid "runtime declaration is not local-only")
  let record ← requireRecord manifestId runtimeType
  let evidence ← evidenceIds evidence
  prepareUpdate ctx manifestId expectedRevision (setAll record.metadata (verification evidence))
    .userConfirmed caller "runtime_manifest.verify"

/-- `review_model_license`. -/
def reviewModelLicense (ctx : Context) (manifestId : Text) (expectedRevision : Int)
    (reviewState : LicenseReviewState) (caller : Caller) : Reader Write := do
  requireUser caller.actorType "model license review"
  ensure (reviewState ≠ .unreviewed) (invalid "license review cannot be reset to unreviewed")
  let current ← getModel manifestId
  ensure (current.content.manifestState = .draft ∨ current.content.manifestState = .candidate)
    (invalid "verified or inactive model license review is immutable")
  let record ← requireRecord manifestId modelType
  prepareUpdate ctx manifestId expectedRevision
    (setAll record.metadata [("license_review_state", .str reviewState.text)]) .userConfirmed caller
    "model_manifest.review_license"

/-- `verify_model`. -/
def verifyModel (ctx : Context) (manifestId : Text) (expectedRevision : Int) (evidence : List Text)
    (caller : Caller) : Reader Write := do
  requireUser caller.actorType "model verification"
  let current ← getModel manifestId
  ensure (current.content.manifestState = .draft ∨ current.content.manifestState = .candidate)
    (invalid "model manifest cannot be verified from its state")
  let runtime ← getRuntime (uuidText current.content.runtimeManifestId)
  ensure (runtime.envelope.lifecycleStatus = .active ∧ runtime.content.manifestState = .verified)
    (invalid "model runtime is not verified")
  ensure (current.content.licenseReviewState = .reviewedCompatible ∨
    current.content.licenseReviewState = .reviewedRestricted)
    (invalid "model license has not been accepted for use")
  ensure (¬ (current.content.platforms ≠ [] ∧ runtime.content.platforms ≠ [] ∧
    ∀ p ∈ current.content.platforms, p ∉ runtime.content.platforms))
    (invalid "model and runtime platforms are incompatible")
  let record ← requireRecord manifestId modelType
  let evidence ← evidenceIds evidence
  prepareUpdate ctx manifestId expectedRevision (setAll record.metadata (verification evidence))
    .userConfirmed caller "model_manifest.verify"

/-- The provenance that a change to a manifest's availability writes. -/
def ManifestActor.changeProvenance (actor : ManifestActor) : RecordProvenance :=
  if actor = .user then .userConfirmed else .systemGenerated

/-- `quarantine_runtime` and `quarantine_model`. -/
def quarantine (ctx : Context) (kind : ManifestKind) (manifestId : Text) (expectedRevision : Int)
    (reason : Text) (caller : Caller) : Reader Write := do
  requireUserOrSystem caller.actorType "manifest quarantine requires user or system authority"
  let record ← requireRecord manifestId kind.recordType
  requireNoSelectableBindings manifestId kind
  let reason ← text "quarantine reason" (.str reason) maxText
  prepareUpdate ctx manifestId expectedRevision
    (setAll record.metadata [("manifest_state", .str ManifestState.quarantined.text),
      ("quarantine_reason", .str reason)])
    caller.actorType.changeProvenance caller (kind.recordType ++ ".quarantine")

/-- `_set_manifest_inactive`. -/
def setManifestInactive (ctx : Context) (kind : ManifestKind) (manifestId : Text)
    (expectedRevision : Int) (state : ManifestState) (caller : Caller) : Reader Write := do
  let record ← requireRecord manifestId kind.recordType
  requireNoSelectableBindings manifestId kind
  prepareUpdate ctx manifestId expectedRevision
    (setAll record.metadata [("manifest_state", .str state.text), ("quarantine_reason", .null)])
    caller.actorType.changeProvenance caller
    (kind.recordType ++ "." ++ String.ofList state.text)

/-- `deprecate_runtime` and `deprecate_model`. -/
def deprecateManifest (ctx : Context) (kind : ManifestKind) (manifestId : Text) (expectedRevision : Int)
    (caller : Caller) : Reader Write := do
  requireUser caller.actorType
    (match kind with
      | .runtime => "runtime deprecation"
      | .model => "model deprecation")
  setManifestInactive ctx kind manifestId expectedRevision .deprecated caller

/-- `mark_runtime_unavailable` and `mark_model_unavailable`. -/
def markUnavailable (ctx : Context) (kind : ManifestKind) (manifestId : Text)
    (expectedRevision : Int) (caller : Caller) : Reader Write := do
  requireUserOrSystem caller.actorType
    (match kind with
      | .runtime => "runtime unavailability requires user or system authority"
      | .model => "model unavailability requires user or system authority")
  setManifestInactive ctx kind manifestId expectedRevision .unavailable caller

/-! ## Bindings -/

variable [DigestLibrary]

/-- `_scope_hash`. -/
def scopeHash (value : Text) : Json := .str ("sha256:".toList ++ DigestLibrary.sha256Hex value)

/-- What `set_smoke_test` writes. -/
def smokeTested (status : SmokeTestStatus) : List (String × Json) :=
  [("smoke_test_status", .str status.text)]

/-- What `set_fallback` writes. -/
def fallback (priority : Int) : List (String × Json) :=
  [("binding_state", .str BindingState.fallback.text), ("fallback_priority", .int priority),
    ("fallback_eligible", .bool true)]

/-- What `disable_binding` writes. -/
def disabling : List (String × Json) :=
  [("binding_state", .str BindingState.disabled.text), ("fallback_priority", .null),
    ("fallback_eligible", .bool false)]

/-- `set_smoke_test`. -/
def setSmokeTest (ctx : Context) (bindingId : Text) (expectedRevision : Int)
    (status : SmokeTestStatus) (caller : Caller) : Reader Write := do
  requireUser caller.actorType "binding smoke-test confirmation"
  let record ← requireRecord bindingId bindingType
  prepareUpdate ctx bindingId expectedRevision
    (setAll record.metadata (smokeTested status)) .userConfirmed caller "model_binding.smoke_test"

/-- `activate_binding`. -/
def activateBinding (ctx : Context) (bindingId : Text) (expectedRevision : Int)
    (evidence : List Text) (caller : Caller) : Reader Write := do
  requireUser caller.actorType "binding activation"
  let candidate ← getBinding bindingId
  let content := candidate.content
  ensure (content.bindingState ∈ [.candidate, .fallback, .previous, .disabled])
    (invalid "binding cannot be activated from its state")
  ensure (content.smokeTestStatus = .passed) (invalid "binding smoke test has not passed")
  let (runtime, model) ← activationManifests content
  let evidence ← evidenceIds evidence
  let currentActive ← activeForScope content.scopeType content.scopeKey (some bindingId)
  requireWrite ctx.toSurroundings
  return .activate ctx candidate.envelope.id expectedRevision runtime.envelope.revision
    model.envelope.revision evidence (currentActive.map fun active => active.envelope.id)
    (auditDraft ctx caller .user "model_binding.activate" bindingType
      [("scope_key_hash", scopeHash content.scopeKey),
        ("previous_binding", .bool currentActive.isSome)])

/-- `set_fallback`. -/
def setFallback (ctx : Context) (bindingId : Text) (expectedRevision priority : Int)
    (caller : Caller) : Reader Write := do
  requireUser caller.actorType "fallback eligibility"
  let binding ← getBinding bindingId
  ensure (binding.content.bindingState ∈ [.candidate, .previous, .disabled, .fallback])
    (invalid "binding cannot become fallback from its state")
  ensure (binding.content.smokeTestStatus = .passed)
    (invalid "fallback smoke test has not passed")
  let _ ← activationManifests binding.content
  ensure (1 ≤ priority ∧ priority ≤ 1000) (invalid "fallback priority is invalid")
  let record ← requireRecord bindingId bindingType
  prepareUpdate ctx bindingId expectedRevision
    (setAll record.metadata (fallback priority)) .userConfirmed caller "model_binding.set_fallback"

/-- `disable_binding`. -/
def disableBinding (ctx : Context) (bindingId : Text) (expectedRevision : Int) (caller : Caller) :
    Reader Write := do
  requireUser caller.actorType "binding disable"
  let binding ← getBinding bindingId
  ensure (binding.content.bindingState ≠ .rolledBack)
    (invalid "rolled-back binding cannot be disabled")
  let record ← requireRecord bindingId bindingType
  prepareUpdate ctx bindingId expectedRevision
    (setAll record.metadata disabling) .userConfirmed caller "model_binding.disable"

/-- `rollback_binding`. -/
def rollbackBinding (ctx : Context) (bindingId : Text) (expectedRevision : Int) (reason : Text)
    (caller : Caller) : Reader Write := do
  requireUser caller.actorType "binding rollback"
  let active ← getBinding bindingId
  ensure (active.content.bindingState = .active) (invalid "active binding has no rollback target")
  let previousId ← orFail (invalid "active binding has no rollback target")
    active.content.previousBindingId
  let previous ← getBinding (uuidText previousId)
  ensure (previous.content.scopeKey = active.content.scopeKey ∧
      previous.content.bindingState = .previous)
    (invalid "rollback target is not the previous scope binding")
  let _ ← activationManifests previous.content
  let reason ← text "rollback reason" (.str reason) maxText
  requireWrite ctx.toSurroundings
  return .rollback ctx active.envelope.id expectedRevision previousId reason
    (auditDraft ctx caller .user "model_binding.rollback" bindingType
      [("scope_key_hash", scopeHash active.content.scopeKey),
        ("restored_binding_id", .str (uuidText previousId))])

/-! ## Calls -/

inductive Call where
  | createRuntime (args : RuntimeArgs) (creator : Creator)
  | createModel (args : ModelArgs) (creator : Creator)
  | createBinding (scopeType scopeKey runtimeManifestId modelManifestId : Text)
      (smokeTestStatus : SmokeTestStatus) (creator : Creator)
  | verifyRuntime (manifestId : Text) (expectedRevision : Int) (evidence : List Text)
      (caller : Caller)
  | reviewModelLicense (manifestId : Text) (expectedRevision : Int)
      (reviewState : LicenseReviewState) (caller : Caller)
  | verifyModel (manifestId : Text) (expectedRevision : Int) (evidence : List Text)
      (caller : Caller)
  | quarantine (kind : ManifestKind) (manifestId : Text) (expectedRevision : Int) (reason : Text)
      (caller : Caller)
  | deprecateManifest (kind : ManifestKind) (manifestId : Text) (expectedRevision : Int) (caller : Caller)
  | markUnavailable (kind : ManifestKind) (manifestId : Text) (expectedRevision : Int)
      (caller : Caller)
  | setSmokeTest (bindingId : Text) (expectedRevision : Int) (status : SmokeTestStatus)
      (caller : Caller)
  | activateBinding (bindingId : Text) (expectedRevision : Int) (evidence : List Text)
      (caller : Caller)
  | setFallback (bindingId : Text) (expectedRevision priority : Int) (caller : Caller)
  | disableBinding (bindingId : Text) (expectedRevision : Int) (caller : Caller)
  | rollbackBinding (bindingId : Text) (expectedRevision : Int) (reason : Text) (caller : Caller)

/-- What a call does up to its transaction. -/
def Call.prepare : Context × Call → Reader Write
  | (ctx, .createRuntime args creator) => Model.createRuntime ctx args creator
  | (ctx, .createModel args creator) => Model.createModel ctx args creator
  | (ctx, .createBinding scopeType key runtimeId modelId smoke creator) =>
    Model.createBinding ctx scopeType key runtimeId modelId smoke creator
  | (ctx, .verifyRuntime id revision evidence caller) =>
    Model.verifyRuntime ctx id revision evidence caller
  | (ctx, .reviewModelLicense id revision state caller) =>
    Model.reviewModelLicense ctx id revision state caller
  | (ctx, .verifyModel id revision evidence caller) =>
    Model.verifyModel ctx id revision evidence caller
  | (ctx, .quarantine kind id revision reason caller) =>
    Model.quarantine ctx kind id revision reason caller
  | (ctx, .deprecateManifest kind id revision caller) =>
    Model.deprecateManifest ctx kind id revision caller
  | (ctx, .markUnavailable kind id revision caller) =>
    Model.markUnavailable ctx kind id revision caller
  | (ctx, .setSmokeTest id revision status caller) =>
    Model.setSmokeTest ctx id revision status caller
  | (ctx, .activateBinding id revision evidence caller) =>
    Model.activateBinding ctx id revision evidence caller
  | (ctx, .setFallback id revision priority caller) =>
    Model.setFallback ctx id revision priority caller
  | (ctx, .disableBinding id revision caller) => Model.disableBinding ctx id revision caller
  | (ctx, .rollbackBinding id revision reason caller) =>
    Model.rollbackBinding ctx id revision reason caller

end

end DollState.Model
