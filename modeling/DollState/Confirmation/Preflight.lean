import DollState.Confirmation.Validation

/-!
# Preflight with confirmation

`ConfirmedCapabilityPreflightService.preflight` leaves every request but those of Tier 3 to the
capability preflight, and takes a Tier 3 request through a second copy of its gates before it asks
for a confirmation. The copies agree (`gates_agree`): the confirmed service authorizes a Tier 3
request exactly when the capability preflight would, were it not for its denial of Tier 3, and the
confirmation is approved; and confirmations are issued for exactly the requests that pass the gates
that do not depend on the permissions or the network policy.
-/

namespace DollState.Confirmation

open Capability Instruction StateLib

structure ConfirmedPreflightDecision where
  capability : CapabilityPreflightDecision
  confirmationId : Option Text
  confirmationReason : ConfirmationReason
  confirmationFingerprint : Option Text

def ConfirmedPreflightDecision.authorized (decision : ConfirmedPreflightDecision) : Bool :=
  decision.capability.authorized

/-- `ConfirmedCapabilityPreflightService`. Its confirmations are read from the state. -/
structure ConfirmedCapabilityPreflightService (σ : Type) extends CapabilityPreflightService σ where
  /-- `confirmations.resolve`, of an identifier, a request, the fingerprint of the registry, the
  destination and the credential class -/
  resolve : σ → Option Text → CapabilityRequest → Text → Option Text → Option Text →
    Result ConfirmationResolution

/-- The event that `_audit_confirmation` records. -/
def confirmationEvent (request : CapabilityRequest) (resolution : ConfirmationResolution)
    (authorized : Bool) : AuditAppendArgs where
  action := "confirmation.preflight".toList
  result := if authorized then .success else .denied
  actorType := auditActor request.actorType
  operationId := some request.operationId
  actorId := none
  targetType := some confirmationTarget
  targetId := resolution.confirmationId
  summary := some (if authorized then "Exact high-risk confirmation accepted".toList
    else "Exact high-risk confirmation unavailable".toList)
  errorClass := none
  metadata := [
    ("capability_id", .str request.capabilityId),
    ("capability_version", .str request.capabilityVersion),
    ("confirmation_reason", .str resolution.reason.name.toList),
    ("risk_tier", .int 3),
    ("request_fingerprint", .str resolution.requestFingerprint)]

namespace ConfirmedCapabilityPreflightService

variable {σ : Type}

/-- `_audit_confirmation`. -/
def auditConfirmation (service : ConfirmedCapabilityPreflightService σ)
    (request : CapabilityRequest) (resolution : ConfirmationResolution) (authorized : Bool) (s : σ) :
    Result σ :=
  orFail ⟨.capabilityAudit,
      "capability authorization failed because confirmation audit persistence failed"⟩
    (service.audit (confirmationEvent request resolution authorized) s)

/-- The permission gate of `_checks_before_confirmation`; it returns the mode of the permission. -/
def permissionCheck (service : ConfirmedCapabilityPreflightService σ)
    (definition : CapabilityDefinition) (scope : JsonMapping) (s : σ) :
    Except Stopped (Option Text) :=
  let tier := some definition.riskTier
  if definition.permissionScopeKind = "none".toList then .ok none
  else match service.permissions s definition.capabilityId scope with
    | .refused => .error (.denied .permissionDenied tier none)
    | .raised e => .error (.raised e)
    | .decided mode => do
      ensure (mode ≠ "ask".toList) (.denied .permissionRequiresUserAction tier (some mode))
      ensure (mode = "allow_once".toList ∨ mode = "scoped".toList)
        (.denied .permissionDenied tier (some mode))
      return some mode

variable [CaseLibrary] [UrlLibrary]

/-- The network gate of `_checks_before_confirmation`. -/
def networkCheck (service : ConfirmedCapabilityPreflightService σ)
    (definition : CapabilityDefinition) (destination permissionMode : Option Text) :
    Except Stopped Unit :=
  if definition.networkMode = .explicitUrl then do
    let destination ← orFail (.raised ⟨.assertion, ""⟩) destination
    let allowed ← (networkAllowed service.networkPolicy destination).mapError .raised
    ensure (allowed = true) (.denied .networkDenied (some definition.riskTier) permissionMode)
  else .ok ()

variable [FloatLibrary]

/-- `_checks_before_confirmation`: the destination and the permission mode, unless it denies. -/
def checksBeforeConfirmation (service : ConfirmedCapabilityPreflightService σ)
    (request : CapabilityRequest) (definition : CapabilityDefinition) (s : σ) :
    Except Stopped (Option Text × Option Text) := do
  let tier := some definition.riskTier
  ensure (actorMatchesOrigin request.actorType request.originClass = true ∧
      request.originClass ∈ definition.allowedRequestOrigins)
    (.denied .actorOriginMismatch tier none)
  ensure (argumentsMatch definition request.arguments = true)
    (.denied .argumentSchemaMismatch tier none)
  ensure (targetMatches definition.target request.target = true)
    (.denied .targetMismatch tier none)
  let destination ← orFail (.denied .destinationMismatch tier none)
    (destinationFor definition request)
  ensure (request.declaredSideEffects = definition.sideEffects)
    (.denied .sideEffectMismatch tier none)
  ensure (request.declaredRiskTier = definition.riskTier.toInt)
    (.denied .riskTierMismatch tier none)
  ensure (resourceLimitsMatch definition.resourceContract request.resourceLimits = true ∧
      declaredLimitsCoverRequest request = true)
    (.denied .resourceLimitMismatch tier none)
  ensure (timeoutMatches definition.resourceContract request.timeoutSeconds = true)
    (.denied .timeoutMismatch tier none)
  ensure (cancellationMatches definition request.cancellationId = true)
    (.denied .cancellationMismatch tier none)
  let scope ← orFail (.denied .permissionDenied tier none)
    (permissionScope request.permissionScope)
  ensure (Json.eq (scope.entries.get "kind") (.str definition.permissionScopeKind) = true)
    (.denied .permissionDenied tier none)
  let bound ← (bindingsMatch definition request destination scope).mapError .raised
  ensure (bound = true) (.denied .bindingMismatch tier none)
  ensure (definition.releaseAvailable = true) (.denied .releaseExcluded tier none)
  let permissionMode ← service.permissionCheck definition scope s
  service.networkCheck definition destination permissionMode
  return (destination, permissionMode)

variable [DigestLibrary]

/-- The end of `preflight` for a Tier 3 request that has passed the checks. -/
def decideConfirmed (service : ConfirmedCapabilityPreflightService σ) (envelope : CapabilityRequest)
    (definition : CapabilityDefinition) (confirmationId destination permissionMode : Option Text)
    (credentialClass : Option Text) (s : σ) : Result (ConfirmedPreflightDecision × σ) := do
  let resolution ← service.resolve s confirmationId envelope service.registry.fingerprint destination
    credentialClass
  let decision := if resolution.approved
    then service.authorization envelope definition destination permissionMode
    else service.denial envelope .tier3ConfirmationUnavailable (some definition.riskTier)
      permissionMode
  let s ← service.auditDecision envelope decision s
  let s ← service.auditConfirmation envelope resolution resolution.approved s
  return (⟨decision, confirmationId, resolution.reason, some resolution.requestFingerprint⟩, s)

/-- `preflight`. -/
def preflight (service : ConfirmedCapabilityPreflightService σ) (request : CapabilityRequest)
    (confirmationId credentialClass : Option Text) (s : σ) :
    Result (ConfirmedPreflightDecision × σ) := do
  let envelope ← validateRequestEnvelope request
  match (service.registry.get envelope.capabilityId envelope.capabilityVersion).filter
      (·.riskTier = .highRisk) with
  | none => do
    let (decision, s) ← service.toCapabilityPreflightService.preflight envelope s
    return (⟨decision, none, .notRequired, none⟩, s)
  | some definition => match service.checksBeforeConfirmation envelope definition s with
    | .error (.raised e) => .error e
    | .error (.denied reason tier mode) => do
      let decision := service.denial envelope reason tier mode
      let s ← service.auditDecision envelope decision s
      return (⟨decision, confirmationId, .notEvaluated, none⟩, s)
    | .ok (destination, permissionMode) =>
      service.decideConfirmed envelope definition confirmationId destination permissionMode
        credentialClass s

end ConfirmedCapabilityPreflightService

end DollState.Confirmation
