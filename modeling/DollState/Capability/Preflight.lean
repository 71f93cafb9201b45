import DollState.Capability.Gates
import DollState.State.Repository

/-!
# Capability preflight

`CapabilityPreflightService.preflight` takes a request through the gates in order, stops at the first
that refuses it, records its decision in the audit log and returns it. It has no authority to execute
anything. Its gates are those of `PassesGates`, in which the order is gone, a denial of every Tier 3
definition, and the two that depend on more than the request and the definition:
`PermissionAllows` and `NetworkAllows`.
-/

namespace DollState.Capability

open Instruction StateLib

inductive DecisionReason where
  | authorized
  | unknownCapability
  | unsupportedVersion
  | argumentSchemaMismatch
  | targetMismatch
  | destinationMismatch
  | bindingMismatch
  | sideEffectMismatch
  | riskTierMismatch
  | resourceLimitMismatch
  | timeoutMismatch
  | cancellationMismatch
  | releaseExcluded
  | permissionDenied
  | permissionRequiresUserAction
  | networkDenied
  | actorOriginMismatch
  | tier3ConfirmationUnavailable
deriving DecidableEq, Repr

def DecisionReason.name : DecisionReason → String
  | .authorized => "authorized"
  | .unknownCapability => "unknown_capability"
  | .unsupportedVersion => "unsupported_version"
  | .argumentSchemaMismatch => "argument_schema_mismatch"
  | .targetMismatch => "target_mismatch"
  | .destinationMismatch => "destination_mismatch"
  | .bindingMismatch => "binding_mismatch"
  | .sideEffectMismatch => "side_effect_mismatch"
  | .riskTierMismatch => "risk_tier_mismatch"
  | .resourceLimitMismatch => "resource_limit_mismatch"
  | .timeoutMismatch => "timeout_mismatch"
  | .cancellationMismatch => "cancellation_mismatch"
  | .releaseExcluded => "release_excluded"
  | .permissionDenied => "permission_denied"
  | .permissionRequiresUserAction => "permission_requires_user_action"
  | .networkDenied => "network_denied"
  | .actorOriginMismatch => "actor_origin_mismatch"
  | .tier3ConfirmationUnavailable => "tier3_confirmation_unavailable"

structure CapabilityPreflightDecision where
  authorized : Bool
  reason : DecisionReason
  capabilityId : Text
  capabilityVersion : Text
  operationId : Text
  riskTier : Option RiskTier
  registryFingerprint : Text
  permissionMode : Option Text
  normalizedDestination : Option Text

/-- What `permissions.resolve` does. -/
inductive Resolved where
  /-- it returns a decision with this effective mode -/
  | decided (effectiveMode : Text)
  /-- it raises a `SettingsError` or another `StateError` -/
  | refused
  /-- it raises anything else -/
  | raised (e : DollError)

/-- How the gates are left before their end. -/
inductive Stopped where
  | denied (reason : DecisionReason) (riskTier : Option RiskTier) (permissionMode : Option Text)
  | raised (e : DollError)

/-- `CapabilityPreflightService`. The permissions are read from a state, and the audit log is a part
of it: `audit` fails where an event cannot be recorded. -/
structure CapabilityPreflightService (σ : Type) where
  registry : CapabilityRegistry
  permissions : σ → Text → JsonMapping → Resolved
  audit : AuditAppendArgs → σ → Option σ
  networkPolicy : OutboundNetworkPolicy

/-- `_audit_actor`. -/
def auditActor : ActorType → AuditActor
  | .user => .user
  | .system => .system
  | .model => .model
  | .runtime => .runtime
  | _ => .capability

/-- The event that `_audit_decision` records. -/
def decisionEvent (request : CapabilityRequest) (decision : CapabilityPreflightDecision) :
    AuditAppendArgs where
  action := "capability.preflight".toList
  result := if decision.authorized then .success else .denied
  actorType := auditActor request.actorType
  operationId := some request.operationId
  actorId := none
  targetType := some "capability_request".toList
  targetId := some request.operationId
  summary := some (if decision.authorized then "Capability preflight authorized".toList
    else "Capability preflight denied".toList)
  errorClass := none
  metadata := [
    ("capability_id", .str request.capabilityId),
    ("capability_version", .str request.capabilityVersion),
    ("origin_class", .str request.originClass.text),
    ("target_kind", .str request.target.kind.text),
    ("risk_tier", optionalInt (decision.riskTier.map RiskTier.toInt)),
    ("decision_reason", .str decision.reason.name.toList),
    ("side_effect_count", .int request.declaredSideEffects.card)]

namespace CapabilityPreflightService

variable {σ : Type}

/-- `_audit_decision`. -/
def auditDecision (service : CapabilityPreflightService σ) (request : CapabilityRequest)
    (decision : CapabilityPreflightDecision) (s : σ) : Result σ :=
  orFail ⟨.capabilityAudit,
      "capability authorization failed because required audit persistence failed"⟩
    (service.audit (decisionEvent request decision) s)

/-- The permission gate of `preflight`; it returns the mode of the permission. -/
def permissionGate (service : CapabilityPreflightService σ) (definition : CapabilityDefinition)
    (scope : JsonMapping) (s : σ) : Except Stopped (Option Text) :=
  let tier := some definition.riskTier
  if definition.permissionScopeKind = "none".toList then .ok none
  else match service.permissions s definition.capabilityId scope with
    | .refused => .error (.denied .permissionDenied tier none)
    | .raised e => .error (.raised e)
    | .decided mode => do
      ensure (mode ≠ "ask".toList) (.denied .permissionRequiresUserAction tier (some mode))
      ensure (mode = "allow_once".toList ∨ mode = "scoped".toList)
        (.denied .permissionDenied tier (some mode))
      return some mode

variable [CaseLibrary] [UrlLibrary]

/-- The network gate of `preflight`. -/
def networkGate (service : CapabilityPreflightService σ) (definition : CapabilityDefinition)
    (destination permissionMode : Option Text) : Except Stopped Unit :=
  if definition.networkMode = .explicitUrl then do
    let destination ← orFail (.raised ⟨.assertion, ""⟩) destination
    let allowed ← (networkAllowed service.networkPolicy destination).mapError .raised
    ensure (allowed = true) (.denied .networkDenied (some definition.riskTier) permissionMode)
  else .ok ()

variable [FloatLibrary]

/-- The gates of `preflight`. Without `tier3Denied` the denial of Tier 3 is left out. -/
def gates (service : CapabilityPreflightService σ) (tier3Denied : Bool)
    (envelope : CapabilityRequest) (s : σ) :
    Except Stopped (CapabilityDefinition × Option Text × Option Text) := do
  ensure (service.registry.versions envelope.capabilityId ≠ [])
    (.denied .unknownCapability none none)
  let definition ← orFail (.denied .unsupportedVersion none none)
    (service.registry.get envelope.capabilityId envelope.capabilityVersion)
  let tier := some definition.riskTier
  ensure (actorMatchesOrigin envelope.actorType envelope.originClass = true ∧
      envelope.originClass ∈ definition.allowedRequestOrigins)
    (.denied .actorOriginMismatch tier none)
  ensure (argumentsMatch definition envelope.arguments = true)
    (.denied .argumentSchemaMismatch tier none)
  ensure (targetMatches definition.target envelope.target = true)
    (.denied .targetMismatch tier none)
  let destination ← orFail (.denied .destinationMismatch tier none)
    (destinationFor definition envelope)
  ensure (envelope.declaredSideEffects = definition.sideEffects)
    (.denied .sideEffectMismatch tier none)
  ensure (envelope.declaredRiskTier = definition.riskTier.toInt)
    (.denied .riskTierMismatch tier none)
  ensure (resourceLimitsMatch definition.resourceContract envelope.resourceLimits = true ∧
      declaredLimitsCoverRequest envelope = true)
    (.denied .resourceLimitMismatch tier none)
  ensure (timeoutMatches definition.resourceContract envelope.timeoutSeconds = true)
    (.denied .timeoutMismatch tier none)
  ensure (cancellationMatches definition envelope.cancellationId = true)
    (.denied .cancellationMismatch tier none)
  let scope ← orFail (.denied .permissionDenied tier none)
    (permissionScope envelope.permissionScope)
  ensure (Json.eq (scope.entries.get "kind") (.str definition.permissionScopeKind) = true)
    (.denied .permissionDenied tier none)
  let bound ← (bindingsMatch definition envelope destination scope).mapError .raised
  ensure (bound = true) (.denied .bindingMismatch tier none)
  ensure (definition.releaseAvailable = true) (.denied .releaseExcluded tier none)
  ensure (¬ (tier3Denied = true ∧ definition.riskTier = .highRisk))
    (.denied .tier3ConfirmationUnavailable tier none)
  let permissionMode ← service.permissionGate definition scope s
  service.networkGate definition destination permissionMode
  return (definition, destination, permissionMode)

variable [DigestLibrary]

/-- The decision of `_deny`. -/
def denial (service : CapabilityPreflightService σ) (request : CapabilityRequest)
    (reason : DecisionReason) (riskTier : Option RiskTier) (permissionMode : Option Text) :
    CapabilityPreflightDecision where
  authorized := false
  reason := reason
  capabilityId := request.capabilityId
  capabilityVersion := request.capabilityVersion
  operationId := request.operationId
  riskTier := riskTier
  registryFingerprint := service.registry.fingerprint
  permissionMode := permissionMode
  normalizedDestination := none

/-- The decision at the end of `preflight`. -/
def authorization (service : CapabilityPreflightService σ) (request : CapabilityRequest)
    (definition : CapabilityDefinition) (destination permissionMode : Option Text) :
    CapabilityPreflightDecision where
  authorized := true
  reason := .authorized
  capabilityId := request.capabilityId
  capabilityVersion := request.capabilityVersion
  operationId := request.operationId
  riskTier := some definition.riskTier
  registryFingerprint := service.registry.fingerprint
  permissionMode := permissionMode
  normalizedDestination := destination

/-- The decision that `preflight` comes to, before it has recorded it. -/
def decision (service : CapabilityPreflightService σ) (tier3Denied : Bool)
    (envelope : CapabilityRequest) (s : σ) : Result CapabilityPreflightDecision :=
  match service.gates tier3Denied envelope s with
  | .error (.raised e) => .error e
  | .error (.denied reason tier mode) => .ok (service.denial envelope reason tier mode)
  | .ok (definition, destination, mode) =>
    .ok (service.authorization envelope definition destination mode)

/-- `preflight`, with the denial of Tier 3 or without it. -/
def preflightWith (service : CapabilityPreflightService σ) (tier3Denied : Bool)
    (request : CapabilityRequest) (s : σ) : Result (CapabilityPreflightDecision × σ) := do
  let envelope ← validateRequestEnvelope request
  let decision ← service.decision tier3Denied envelope s
  let s ← service.auditDecision envelope decision s
  return (decision, s)

/-- `preflight`. -/
def preflight (service : CapabilityPreflightService σ) (request : CapabilityRequest) (s : σ) :
    Result (CapabilityPreflightDecision × σ) :=
  service.preflightWith true request s

end CapabilityPreflightService

/-! ## What the gates let through -/

/-- The gates that depend on the request and the definition alone. -/
structure PassesGates [CaseLibrary] [FloatLibrary] [UrlLibrary] (definition : CapabilityDefinition)
    (envelope : CapabilityRequest) (destination : Option Text) (scope : JsonMapping) : Prop where
  actor : actorMatchesOrigin envelope.actorType envelope.originClass = true
  origin : envelope.originClass ∈ definition.allowedRequestOrigins
  arguments : argumentsMatch definition envelope.arguments = true
  target : targetMatches definition.target envelope.target = true
  destination_eq : destinationFor definition envelope = some destination
  sideEffects : envelope.declaredSideEffects = definition.sideEffects
  riskTier : envelope.declaredRiskTier = definition.riskTier.toInt
  limits : resourceLimitsMatch definition.resourceContract envelope.resourceLimits = true
  coverage : declaredLimitsCoverRequest envelope = true
  timeout : timeoutMatches definition.resourceContract envelope.timeoutSeconds = true
  cancellation : cancellationMatches definition envelope.cancellationId = true
  scope_eq : permissionScope envelope.permissionScope = some scope
  scopeKind : Json.eq (scope.entries.get "kind") (.str definition.permissionScopeKind) = true
  bindings : bindingsMatch definition envelope destination scope = .ok true
  release : definition.releaseAvailable = true

/-- The answer of the permissions lets the request through with this mode. -/
def PermissionAllows (answer : Resolved) (definition : CapabilityDefinition)
    (permissionMode : Option Text) : Prop :=
  if definition.permissionScopeKind = "none".toList then permissionMode = none
  else ∃ mode, answer = .decided mode ∧
    (mode = "allow_once".toList ∨ mode = "scoped".toList) ∧ permissionMode = some mode

/-- The network policy lets the request through. -/
def NetworkAllows [CaseLibrary] [UrlLibrary] (policy : OutboundNetworkPolicy)
    (definition : CapabilityDefinition) (destination : Option Text) : Prop :=
  definition.networkMode = .explicitUrl →
    ∃ url, destination = some url ∧ networkAllowed policy url = .ok true

namespace CapabilityPreflightService

variable {σ : Type}

theorem permissionGate_eq_ok {service : CapabilityPreflightService σ}
    {definition : CapabilityDefinition} {scope : JsonMapping} {s : σ} {mode : Option Text} :
    service.permissionGate definition scope s = .ok mode ↔
      PermissionAllows (service.permissions s definition.capabilityId scope) definition mode := by
  unfold permissionGate PermissionAllows
  split
  · simp [eq_comm]
  · cases service.permissions s definition.capabilityId scope with
    | refused => simp
    | raised e => simp
    | decided answer =>
      simp only [check_bind_eq_ok, ensure_eq_ok, pure_eq_ok, Resolved.decided.injEq]
      constructor
      · rintro ⟨-, hmode, rfl⟩
        exact ⟨answer, rfl, hmode, rfl⟩
      · rintro ⟨_, rfl, hmode, rfl⟩
        refine ⟨?_, hmode, rfl⟩
        rintro rfl
        revert hmode
        decide

variable [CaseLibrary] [UrlLibrary]

theorem networkGate_eq_ok {service : CapabilityPreflightService σ}
    {definition : CapabilityDefinition} {destination mode : Option Text} {u : Unit} :
    service.networkGate definition destination mode = .ok u ↔
      NetworkAllows service.networkPolicy definition destination := by
  unfold networkGate NetworkAllows
  split
  · rename_i hurl
    simp only [bind_eq_ok, orFail_eq_ok, mapError_eq_ok, ensure_eq_ok, hurl, forall_const]
    constructor
    · rintro ⟨url, hdestination, _, hallowed, rfl⟩
      exact ⟨url, hdestination, hallowed⟩
    · rintro ⟨url, hdestination, hallowed⟩
      exact ⟨url, hdestination, true, hallowed, rfl⟩
  · rename_i hnone
    simp [hnone]

variable [FloatLibrary]

/-- A request passes the gates of `preflight` if its definition is registered, its Tier is not one
that is denied, and it passes each of them. -/
theorem gates_eq_ok {service : CapabilityPreflightService σ} {tier3Denied : Bool}
    {envelope : CapabilityRequest} {s : σ} {definition : CapabilityDefinition}
    {destination mode : Option Text} :
    service.gates tier3Denied envelope s = .ok (definition, destination, mode) ↔
      service.registry.get envelope.capabilityId envelope.capabilityVersion = some definition ∧
        ¬ (tier3Denied = true ∧ definition.riskTier = .highRisk) ∧
        ∃ scope, PassesGates definition envelope destination scope ∧
          PermissionAllows (service.permissions s definition.capabilityId scope) definition mode ∧
          NetworkAllows service.networkPolicy definition destination := by
  simp only [gates, bind_eq_ok, exists_const, ensure_eq_ok, orFail_eq_ok, mapError_eq_ok, pure_eq_ok,
    permissionGate_eq_ok, networkGate_eq_ok, Prod.mk.injEq]
  constructor
  · rintro ⟨-, found, hfound, ⟨hactor, horigin⟩, harguments, htarget, _, hdestination, heffects, htier,
      ⟨hlimits, hcoverage⟩, htimeout, hcancellation, scope, hscope, hkind, _, hbindings, rfl, hrelease,
      hdenied, _, hpermission, hnetwork, rfl, rfl, rfl⟩
    exact ⟨hfound, hdenied, scope, ⟨hactor, horigin, harguments, htarget, hdestination, heffects,
      htier, hlimits, hcoverage, htimeout, hcancellation, hscope, hkind, hbindings, hrelease⟩,
      hpermission, hnetwork⟩
  · rintro ⟨hfound, hdenied, scope, h, hpermission, hnetwork⟩
    exact ⟨CapabilityRegistry.versions_ne_nil hfound, definition, hfound, ⟨h.actor, h.origin⟩,
      h.arguments, h.target, destination, h.destination_eq, h.sideEffects, h.riskTier,
      ⟨h.limits, h.coverage⟩, h.timeout, h.cancellation, scope, h.scope_eq, h.scopeKind, true,
      h.bindings, rfl, h.release, hdenied, mode, hpermission, hnetwork, rfl, rfl, rfl⟩

/-- A decision authorizes the request if the request has passed the gates. -/
theorem decision_authorized [DigestLibrary] {service : CapabilityPreflightService σ}
    {tier3Denied : Bool} {envelope : CapabilityRequest} {s : σ}
    {decision : CapabilityPreflightDecision} :
    service.decision tier3Denied envelope s = .ok decision ∧ decision.authorized = true ↔
      ∃ definition destination mode,
        service.gates tier3Denied envelope s = .ok (definition, destination, mode) ∧
          decision = service.authorization envelope definition destination mode := by
  unfold CapabilityPreflightService.decision
  split
  · rename_i hgates
    simp [hgates]
  · rename_i hgates
    simp only [hgates, Except.ok.injEq, reduceCtorEq, false_and, exists_false, iff_false, not_and]
    rintro rfl
    simp [denial]
  · rename_i definition destination mode hgates
    simp only [hgates, Except.ok.injEq, Prod.mk.injEq]
    constructor
    · rintro ⟨rfl, -⟩
      exact ⟨definition, destination, mode, ⟨rfl, rfl, rfl⟩, rfl⟩
    · rintro ⟨_, _, _, ⟨rfl, rfl, rfl⟩, rfl⟩
      exact ⟨rfl, rfl⟩

end CapabilityPreflightService

end DollState.Capability
