import DollState.Capability.Preflight
import DollState.Confirmation.Types

/-!
# Bindings and lifecycles of confirmations

`validatedHighRiskBinding` decides which requests a confirmation may be issued for: the Tier 3
requests that pass the gates of the preflight, permission and network apart
(`validatedHighRiskBinding_eq_ok`). `resolutionFromEvents` reads the state of a confirmation from its
audit events.
-/

namespace DollState.Confirmation

open Capability Instruction StateLib

/-! ## The binding -/

section

variable [CaseLibrary] [FloatLibrary] [UrlLibrary]

/-- `validated_high_risk_binding`. -/
def validatedHighRiskBinding (request : CapabilityRequest) (registry : CapabilityRegistry) :
    Result (CapabilityRequest × CapabilityDefinition × Option Text) := do
  let envelope ← validateRequestEnvelope request
  let definition ← orFail (invalid "confirmation requires a registered version")
    (registry.get envelope.capabilityId envelope.capabilityVersion)
  ensure (definition.riskTier = .highRisk)
    (invalid "confirmation may be issued only for Tier 3")
  ensure (definition.releaseAvailable = true)
    (invalid "release-excluded capability cannot be confirmed")
  ensure (actorMatchesOrigin envelope.actorType envelope.originClass = true ∧
      envelope.originClass ∈ definition.allowedRequestOrigins)
    (invalid "request actor or origin is not authorized")
  ensure (argumentsMatch definition envelope.arguments = true)
    (invalid "request arguments do not match capability")
  ensure (targetMatches definition.target envelope.target = true)
    (invalid "request target does not match capability")
  let destination ← orFail (invalid "request destination is inconsistent")
    (destinationFor definition envelope)
  ensure (envelope.declaredSideEffects = definition.sideEffects)
    (invalid "request side effects do not match capability")
  ensure (envelope.declaredRiskTier = 3) (invalid "request must declare Tier 3")
  ensure (resourceLimitsMatch definition.resourceContract envelope.resourceLimits = true ∧
      declaredLimitsCoverRequest envelope = true)
    (invalid "request resource limits are invalid")
  ensure (timeoutMatches definition.resourceContract envelope.timeoutSeconds = true)
    (invalid "request timeout is invalid")
  ensure (cancellationMatches definition envelope.cancellationId = true)
    (invalid "request cancellation identity is invalid")
  let scope ← orFail (invalid "request permission scope is invalid")
    (permissionScope envelope.permissionScope)
  ensure (Json.eq (scope.entries.get "kind") (.str definition.permissionScopeKind) = true)
    (invalid "request permission scope is invalid")
  let bound ← bindingsMatch definition envelope destination scope
  ensure (bound = true) (invalid "request binding is inconsistent")
  return (envelope, definition, destination)

/-- A request is bound if its definition is registered, is of Tier 3 and lets it through its gates. -/
theorem validatedHighRiskBinding_eq_ok {request envelope : CapabilityRequest}
    {registry : CapabilityRegistry} {definition : CapabilityDefinition} {destination : Option Text} :
    validatedHighRiskBinding request registry = .ok (envelope, definition, destination) ↔
      validateRequestEnvelope request = .ok envelope ∧
        registry.get envelope.capabilityId envelope.capabilityVersion = some definition ∧
        definition.riskTier = .highRisk ∧
        ∃ scope, PassesGates definition envelope destination scope := by
  simp only [validatedHighRiskBinding, bind_eq_ok, exists_const, ensure_eq_ok, orFail_eq_ok,
    pure_eq_ok, Prod.mk.injEq]
  constructor
  · rintro ⟨e, henvelope, d, hfound, htier, hrelease, ⟨hactor, horigin⟩, harguments, htarget, _,
      hdestination, heffects, hthree, ⟨hlimits, hcoverage⟩, htimeout, hcancellation, scope, hscope,
      hkind, _, hbindings, rfl, rfl, rfl, rfl⟩
    have hdeclared : e.declaredRiskTier = d.riskTier.toInt := by
      rw [hthree, htier]
      rfl
    exact ⟨henvelope, hfound, htier, scope, hactor, horigin, harguments, htarget, hdestination,
      heffects, hdeclared, hlimits, hcoverage, htimeout, hcancellation, hscope, hkind, hbindings,
      hrelease⟩
  · rintro ⟨henvelope, hfound, htier, scope, h⟩
    have hthree : envelope.declaredRiskTier = 3 := by
      rw [h.riskTier, htier]
      rfl
    exact ⟨envelope, henvelope, definition, hfound, htier, h.release, ⟨h.actor, h.origin⟩, h.arguments,
      h.target, destination, h.destination_eq, h.sideEffects, hthree, ⟨h.limits, h.coverage⟩,
      h.timeout, h.cancellation, scope, h.scope_eq, h.scopeKind, true, h.bindings, rfl, rfl, rfl, rfl⟩

end

/-! ## Events -/

/-- `urlsplit(destination).hostname`, if there is a destination. -/
def destinationHost [UrlLibrary] : Option Text → Result (Option Text)
  | none => .ok none
  | some url => (UrlLibrary.urlsplit url).map SplitUrl.hostname

/-- `confirmation_metadata`. -/
def confirmationMetadata [UrlLibrary] (confirmationId : Text) (request : CapabilityRequest)
    (definition : CapabilityDefinition) (requestFingerprint registryFingerprint : Text)
    (destination : Option Text) (decision : ConfirmationDecision) (expiresAt : Text)
    (preview : ConfirmationPreview) : Result Metadata := do
  let host ← destinationHost destination
  return [
    ("confirmation_schema_version", .int 1),
    ("confirmation_id", .str confirmationId),
    ("decision", .str decision.text),
    ("request_fingerprint", .str requestFingerprint),
    ("registry_fingerprint", .str registryFingerprint),
    ("capability_id", .str request.capabilityId),
    ("capability_version", .str request.capabilityVersion),
    ("risk_tier", .int 3),
    ("target_kind", .str request.target.kind.text),
    ("destination_host", Json.ofText? host),
    ("side_effects", .arr (sortedSideEffects definition.sideEffects)),
    ("auth_material_class", Json.ofText? preview.credentialClass),
    ("data_leaves_machine", .bool destination.isSome),
    ("irreversible", .bool preview.irreversible),
    ("recovery_available", .bool preview.recoveryDescription.isSome),
    ("expires_at", .str expiresAt),
    ("effect_summary", .str preview.effectSummary),
    ("account_label", Json.ofText? preview.accountLabel),
    ("recovery_description", Json.ofText? preview.recoveryDescription)]

def issueAction : Text := "confirmation.issue".toList
def consumeAction : Text := "confirmation.consume".toList
def revokeAction : Text := "confirmation.revoke".toList
def confirmationTarget : Text := "confirmation".toList

/-- The error of a malformed issue event. -/
def malformed : DollError := corrupt "confirmation issue metadata is malformed"

/-- `_metadata_string`. -/
def metadataString (metadata : Metadata) (key : String) : Result Text :=
  match metadata.get key with
  | .str s => if s = [] then .error malformed else .ok s
  | _ => .error malformed

/-- `_metadata_optional_string`. -/
def metadataOptionalString (metadata : Metadata) (key : String) : Result (Option Text) :=
  match metadata.get key with
  | .null => .ok none
  | .str s => if s = [] then .error malformed else .ok (some s)
  | _ => .error malformed

/-- `_metadata_bool`. -/
def metadataBool (metadata : Metadata) (key : String) : Result Bool :=
  match metadata.get key with
  | .bool b => .ok b
  | _ => .error malformed

/-- The reading of the decision. -/
def metadataDecision (metadata : Metadata) : Result ConfirmationDecision := do
  let decision ← metadataString metadata "decision"
  if decision = "approved".toList then return .approved
  else do
    ensure (decision = "denied".toList) malformed
    return .denied

/-- The reading of the side effects. -/
def metadataSideEffects (metadata : Metadata) : Result (List Text) :=
  match metadata.get "side_effects" with
  | .arr effects => effects.mapM fun
    | .str s => .ok s
    | _ => .error malformed
  | _ => .error malformed

/-- `info_from_issue`. -/
def infoFromIssue (event : AuditEvent) : Result ConfirmationInfo := do
  let metadata := event.metadata
  ensure (Json.eq (metadata.get "confirmation_schema_version") (.int 1) = true) malformed
  let confirmationId ← metadataString metadata "confirmation_id"
  let decision ← metadataDecision metadata
  let requestFingerprint ← metadataString metadata "request_fingerprint"
  ensure (isFingerprint requestFingerprint = true) malformed
  let registryFingerprint ← metadataString metadata "registry_fingerprint"
  ensure (isFingerprint registryFingerprint = true) malformed
  ensure (Json.eq (metadata.get "risk_tier") (.int 3) = true) malformed
  let sideEffects ← metadataSideEffects metadata
  let capabilityId ← metadataString metadata "capability_id"
  let capabilityVersion ← metadataString metadata "capability_version"
  let expiresAt ← metadataString metadata "expires_at"
  let targetKind ← metadataString metadata "target_kind"
  let destinationHost ← metadataOptionalString metadata "destination_host"
  let credentialClass ← metadataOptionalString metadata "auth_material_class"
  let dataLeavesMachine ← metadataBool metadata "data_leaves_machine"
  let irreversible ← metadataBool metadata "irreversible"
  let recoveryAvailable ← metadataBool metadata "recovery_available"
  let effectSummary ← metadataString metadata "effect_summary"
  let accountLabel ← metadataOptionalString metadata "account_label"
  let recoveryDescription ← metadataOptionalString metadata "recovery_description"
  return {
    confirmationId, operationId := event.operationId, capabilityId, capabilityVersion,
    requestFingerprint, registryFingerprint, decision, issuedAt := event.occurredAt, expiresAt,
    targetKind, destinationHost, sideEffects, credentialClass, dataLeavesMachine, irreversible,
    recoveryAvailable, effectSummary, accountLabel, recoveryDescription }

/-- The check of one event in `_validate_lifecycle_events`. -/
def validateLifecycleEvent (info : ConfirmationInfo) (event : AuditEvent) : Result Unit := do
  ensure (event.targetType = some confirmationTarget ∧ event.targetId = some info.confirmationId)
    (corrupt "confirmation lifecycle target is invalid")
  if event.action = issueAction then .ok ()
  else if event.action = consumeAction then do
    ensure ((event.actorType = .capability ∨ event.actorType = .system) ∧ event.result = .success)
      (corrupt "confirmation consume authority is invalid")
    ensure (Json.eq (event.metadata.get "request_fingerprint") (.str info.requestFingerprint) = true)
      (corrupt "confirmation consume fingerprint is invalid")
  else if event.action = revokeAction then
    ensure (event.actorType = .user ∧ event.result = .success)
      (corrupt "confirmation revocation authority is invalid")
  else .error (corrupt "confirmation lifecycle action is invalid")

/-- `_validate_lifecycle_events`. -/
def validateLifecycleEvents (events : List AuditEvent) (info : ConfirmationInfo) : Result Unit := do
  ensure ((events.filter (·.action = consumeAction)).length ≤ 1 ∧
      (events.filter (·.action = revokeAction)).length ≤ 1)
    (corrupt "confirmation lifecycle has duplicate terminal events")
  forEach (validateLifecycleEvent info) events

/-- The rest of `resolution_from_events`, once the events are known to be in order. -/
def reasonFromEvents [PythonLibrary] (events : List AuditEvent) (issue : AuditEvent)
    (info : ConfirmationInfo) (expectedOperationId expectedFingerprint : Text) (now : Int) :
    Result ConfirmationReason :=
  if issue.operationId ≠ expectedOperationId ∨ info.requestFingerprint ≠ expectedFingerprint then
    .ok .mismatch
  else if events.any (·.action = revokeAction) then .ok .revoked
  else if events.any (·.action = consumeAction) then .ok .consumed
  else if info.decision = .denied ∨ issue.result = .denied then .ok .denied
  else do
    let expiresAt ← parseUtc info.expiresAt
    return if expiresAt ≤ now then .expired else .approved

/-- `resolution_from_events`. -/
def resolutionFromEvents [PythonLibrary] (confirmationId : Text) (events : List AuditEvent)
    (expectedOperationId expectedFingerprint : Text) (now : Int) : Result ConfirmationResolution :=
  if events = [] then .ok ⟨confirmationId, .missing, expectedFingerprint, none⟩
  else match events.filter (·.action = issueAction) with
    | [issue] => do
      ensure (issue.actorType = .user ∧ issue.targetId = some confirmationId)
        (corrupt "confirmation issue authority is invalid")
      let info ← infoFromIssue issue
      validateLifecycleEvents events info
      let reason ← reasonFromEvents events issue info expectedOperationId expectedFingerprint now
      return ⟨confirmationId, reason, expectedFingerprint, some info⟩
    | _ => .error (corrupt "confirmation must have exactly one issue event")

/-- `audit_actor`. -/
def auditActor : ActorType → AuditActor
  | .user => .user
  | .model => .model
  | .runtime => .runtime
  | .system => .system
  | .tool => .capability
  | _ => .system

end DollState.Confirmation
