import DollState.Confirmation.Preflight

/-!
# The copies of the capability gate agree

The gates are written out three times: in the capability preflight, in the preflight with
confirmation and where confirmations are issued. Each copy lets through the requests that meet
`PassesGates` and what else that copy asks for, so that no copy has lost a gate (`gates_agree`).
-/

namespace DollState.Confirmation

open Capability StateLib

variable {σ : Type} [CaseLibrary] [FloatLibrary] [UrlLibrary]

/-- The request is valid, and the registry has this definition of what it asks for. -/
def AsksFor (registry : CapabilityRegistry) (request envelope : CapabilityRequest)
    (definition : CapabilityDefinition) : Prop :=
  validateRequestEnvelope request = .ok envelope ∧
    registry.get envelope.capabilityId envelope.capabilityVersion = some definition

omit [CaseLibrary] [UrlLibrary] in
theorem AsksFor.unique {registry : CapabilityRegistry} {request envelope envelope' : CapabilityRequest}
    {definition definition' : CapabilityDefinition} (h : AsksFor registry request envelope definition)
    (h' : AsksFor registry request envelope' definition') :
    envelope = envelope' ∧ definition = definition' := by
  obtain rfl : envelope = envelope' := Except.ok.inj (h.1.symm.trans h'.1)
  exact ⟨rfl, Option.some.inj (h.2.symm.trans h'.2)⟩

namespace ConfirmedCapabilityPreflightService

omit [CaseLibrary] [FloatLibrary] [UrlLibrary] in
theorem permissionCheck_eq_ok {service : ConfirmedCapabilityPreflightService σ}
    {definition : CapabilityDefinition} {scope : JsonMapping} {s : σ} {mode : Option Text} :
    service.permissionCheck definition scope s = .ok mode ↔
      PermissionAllows (service.permissions s definition.capabilityId scope) definition mode := by
  have hcopy : service.permissionCheck definition scope s =
      service.toCapabilityPreflightService.permissionGate definition scope s := rfl
  rw [hcopy, CapabilityPreflightService.permissionGate_eq_ok]

omit [FloatLibrary] in
theorem networkCheck_eq_ok {service : ConfirmedCapabilityPreflightService σ}
    {definition : CapabilityDefinition} {destination mode : Option Text} {u : Unit} :
    service.networkCheck definition destination mode = .ok u ↔
      NetworkAllows service.networkPolicy definition destination := by
  have hcopy : service.networkCheck definition destination mode =
      service.toCapabilityPreflightService.networkGate definition destination mode := rfl
  rw [hcopy, CapabilityPreflightService.networkGate_eq_ok]

/-- The checks before a confirmation are the gates, the permission and the network policy. -/
theorem checksBeforeConfirmation_eq_ok {service : ConfirmedCapabilityPreflightService σ}
    {request : CapabilityRequest} {definition : CapabilityDefinition} {s : σ}
    {destination mode : Option Text} :
    service.checksBeforeConfirmation request definition s = .ok (destination, mode) ↔
      ∃ scope, PassesGates definition request destination scope ∧
        PermissionAllows (service.permissions s definition.capabilityId scope) definition mode ∧
        NetworkAllows service.networkPolicy definition destination := by
  simp only [checksBeforeConfirmation, bind_eq_ok, exists_const, ensure_eq_ok, orFail_eq_ok,
    mapError_eq_ok, pure_eq_ok, permissionCheck_eq_ok, networkCheck_eq_ok, Prod.mk.injEq]
  constructor
  · rintro ⟨⟨hactor, horigin⟩, harguments, htarget, _, hdestination, heffects, htier,
      ⟨hlimits, hcoverage⟩, htimeout, hcancellation, scope, hscope, hkind, _, hbindings, rfl, hrelease,
      _, hpermission, hnetwork, rfl, rfl⟩
    exact ⟨scope, ⟨hactor, horigin, harguments, htarget, hdestination, heffects, htier, hlimits,
      hcoverage, htimeout, hcancellation, hscope, hkind, hbindings, hrelease⟩, hpermission, hnetwork⟩
  · rintro ⟨scope, h, hpermission, hnetwork⟩
    exact ⟨⟨h.actor, h.origin⟩, h.arguments, h.target, destination, h.destination_eq, h.sideEffects,
      h.riskTier, ⟨h.limits, h.coverage⟩, h.timeout, h.cancellation, scope, h.scope_eq, h.scopeKind,
      true, h.bindings, rfl, h.release, mode, hpermission, hnetwork, rfl, rfl⟩

end ConfirmedCapabilityPreflightService

variable [DigestLibrary]

/-- The capability preflight, without its denial of Tier 3, authorizes the request: the decision and
the state in which it has been recorded. -/
def BaseAuthorizes (service : CapabilityPreflightService σ) (request : CapabilityRequest) (s : σ)
    (decision : CapabilityPreflightDecision) (s' : σ) : Prop :=
  service.preflightWith false request s = .ok (decision, s') ∧ decision.authorized = true

/-- The preflight with confirmation authorizes the request. -/
def Authorizes (service : ConfirmedCapabilityPreflightService σ) (request : CapabilityRequest)
    (confirmationId credentialClass : Option Text) (s : σ) : Prop :=
  ∃ decision s', service.preflight request confirmationId credentialClass s = .ok (decision, s') ∧
    decision.authorized = true

theorem baseAuthorizes_iff {service : CapabilityPreflightService σ} {request : CapabilityRequest}
    {s s' : σ} {decision : CapabilityPreflightDecision} :
    BaseAuthorizes service request s decision s' ↔
      ∃ envelope definition destination mode scope, AsksFor service.registry request envelope definition ∧
        PassesGates definition envelope destination scope ∧
        PermissionAllows (service.permissions s definition.capabilityId scope) definition mode ∧
        NetworkAllows service.networkPolicy definition destination ∧
        decision = service.authorization envelope definition destination mode ∧
        service.auditDecision envelope decision s = .ok s' := by
  simp only [BaseAuthorizes, CapabilityPreflightService.preflightWith, bind_eq_ok, pure_eq_ok,
    Prod.mk.injEq]
  constructor
  · rintro ⟨⟨envelope, henvelope, _, hdecision, _, haudit, rfl, rfl⟩, hauthorized⟩
    obtain ⟨definition, destination, mode, hgates, rfl⟩ :=
      CapabilityPreflightService.decision_authorized.1 ⟨hdecision, hauthorized⟩
    obtain ⟨hfound, -, scope, hpasses, hpermission, hnetwork⟩ :=
      CapabilityPreflightService.gates_eq_ok.1 hgates
    exact ⟨envelope, definition, destination, mode, scope, ⟨henvelope, hfound⟩, hpasses, hpermission,
      hnetwork, rfl, haudit⟩
  · rintro ⟨envelope, definition, destination, mode, scope, ⟨henvelope, hfound⟩, hpasses, hpermission,
      hnetwork, hdecision, haudit⟩
    have hgates : service.gates false envelope s = .ok (definition, destination, mode) :=
      CapabilityPreflightService.gates_eq_ok.2
        ⟨hfound, by simp, scope, hpasses, hpermission, hnetwork⟩
    obtain ⟨hreached, hauthorized⟩ := CapabilityPreflightService.decision_authorized.2
      ⟨definition, destination, mode, hgates, hdecision⟩
    exact ⟨⟨envelope, henvelope, decision, hreached, s', haudit, rfl, rfl⟩, hauthorized⟩

/-- A request whose definition is not of Tier 3 gets the decision of the capability preflight. -/
theorem preflight_of_not_highRisk (service : ConfirmedCapabilityPreflightService σ)
    (request : CapabilityRequest) (confirmationId credentialClass : Option Text) (s : σ)
    (htier : ∀ envelope definition, AsksFor service.registry request envelope definition →
      definition.riskTier ≠ .highRisk) :
    service.preflight request confirmationId credentialClass s =
      (service.toCapabilityPreflightService.preflight request s).map fun (decision, s') =>
        (⟨decision, none, .notRequired, none⟩, s') := by
  unfold ConfirmedCapabilityPreflightService.preflight
  cases henvelope : validateRequestEnvelope request with
  | error e =>
    rw [CapabilityPreflightService.preflight, CapabilityPreflightService.preflightWith, henvelope]
    rfl
  | ok envelope =>
    have hfilter : (service.registry.get envelope.capabilityId envelope.capabilityVersion).filter
        (·.riskTier = .highRisk) = none := by
      rw [Option.filter_eq_none_iff]
      intro definition hfound
      simpa using htier envelope definition ⟨henvelope, hfound⟩
    have hbase : service.toCapabilityPreflightService.preflight envelope s =
        service.toCapabilityPreflightService.preflight request s := by
      rw [CapabilityPreflightService.preflight, CapabilityPreflightService.preflight,
        CapabilityPreflightService.preflightWith, CapabilityPreflightService.preflightWith, henvelope,
        validateRequestEnvelope_idem henvelope]
    simp only [ok_bind, hfilter, hbase]
    cases service.toCapabilityPreflightService.preflight request s <;> rfl

/-- A Tier 3 request is authorized if it passes the checks, the confirmation is approved and both
events are recorded. -/
theorem authorizes_highRisk {service : ConfirmedCapabilityPreflightService σ}
    {request envelope : CapabilityRequest} {definition : CapabilityDefinition}
    {confirmationId credentialClass : Option Text} {s : σ}
    (hasks : AsksFor service.registry request envelope definition)
    (htier : definition.riskTier = .highRisk) :
    Authorizes service request confirmationId credentialClass s ↔
      ∃ destination mode resolution s₁,
        service.checksBeforeConfirmation envelope definition s = .ok (destination, mode) ∧
        service.resolve s confirmationId envelope service.registry.fingerprint destination
          credentialClass = .ok resolution ∧ resolution.approved = true ∧
        service.auditDecision envelope
          (service.authorization envelope definition destination mode) s = .ok s₁ ∧
        (service.audit (confirmationEvent envelope resolution true) s₁).isSome = true := by
  have hfilter : (service.registry.get envelope.capabilityId envelope.capabilityVersion).filter
      (·.riskTier = .highRisk) = some definition := by
    rw [hasks.2, Option.filter_some, if_pos (by simpa using htier)]
  unfold Authorizes ConfirmedCapabilityPreflightService.preflight
  simp only [hasks.1, ok_bind, hfilter]
  constructor
  · rintro ⟨decision, s', h, hauthorized⟩
    split at h
    · cases h
    · simp only [bind_eq_ok, pure_eq_ok, Prod.mk.injEq] at h
      obtain ⟨_, -, rfl, -⟩ := h
      cases hauthorized
    · rename_i destination mode hchecks
      simp only [ConfirmedCapabilityPreflightService.decideConfirmed, bind_eq_ok, pure_eq_ok,
        Prod.mk.injEq] at h
      obtain ⟨resolution, hresolve, s₁, hdecision, s₂, hconfirmation, rfl, -⟩ := h
      by_cases happroved : resolution.approved = true
      · rw [if_pos happroved] at hdecision
        rw [happroved, ConfirmedCapabilityPreflightService.auditConfirmation, orFail_eq_ok]
          at hconfirmation
        exact ⟨destination, mode, resolution, s₁, hchecks, hresolve, happroved, hdecision,
          by rw [hconfirmation]; rfl⟩
      · simp [ConfirmedPreflightDecision.authorized, happroved,
          CapabilityPreflightService.denial] at hauthorized
  · rintro ⟨destination, mode, resolution, s₁, hchecks, hresolve, happroved, hdecision, hrecorded⟩
    obtain ⟨s₂, hs₂⟩ := Option.isSome_iff_exists.1 hrecorded
    have hconfirmation : service.auditConfirmation envelope resolution true s₁ = .ok s₂ :=
      orFail_eq_ok.2 hs₂
    refine ⟨⟨service.authorization envelope definition destination mode, confirmationId,
      resolution.reason, some resolution.requestFingerprint⟩, s₂, ?_, rfl⟩
    rw [hchecks]
    simp only [ConfirmedCapabilityPreflightService.decideConfirmed, hresolve, ok_bind, happroved,
      if_true, hdecision, hconfirmation]
    rfl

/-- The three copies of the capability gate agree. A request that is not of Tier 3 gets the same
decision from both services. A Tier 3 request is authorized exactly when the capability preflight
without its denial of Tier 3 authorizes it and the confirmation is approved, provided that the
audit log takes the events. A confirmation may be issued for exactly the Tier 3 requests that pass
the gates of the checks before a confirmation, permission and network apart. -/
theorem gates_agree (service : ConfirmedCapabilityPreflightService σ) (request : CapabilityRequest)
    (confirmationId credentialClass : Option Text) (s : σ) :
    ((∀ envelope definition, AsksFor service.registry request envelope definition →
        definition.riskTier ≠ .highRisk) →
      service.preflight request confirmationId credentialClass s =
        (service.toCapabilityPreflightService.preflight request s).map fun (decision, s') =>
          (⟨decision, none, .notRequired, none⟩, s')) ∧
    (∀ envelope definition, AsksFor service.registry request envelope definition →
      definition.riskTier = .highRisk →
      (Authorizes service request confirmationId credentialClass s ↔
        ∃ decision s₁ resolution,
          BaseAuthorizes service.toCapabilityPreflightService request s decision s₁ ∧
          service.resolve s confirmationId envelope service.registry.fingerprint
            decision.normalizedDestination credentialClass = .ok resolution ∧
          resolution.approved = true ∧
          (service.audit (confirmationEvent envelope resolution true) s₁).isSome = true) ∧
      ((∀ event t, (service.audit event t).isSome = true) →
        (Authorizes service request confirmationId credentialClass s ↔
          ∃ decision s₁ resolution,
            BaseAuthorizes service.toCapabilityPreflightService request s decision s₁ ∧
            service.resolve s confirmationId envelope service.registry.fingerprint
              decision.normalizedDestination credentialClass = .ok resolution ∧
            resolution.approved = true))) ∧
    ((∃ bound, validatedHighRiskBinding request service.registry = .ok bound) ↔
      ∃ envelope definition destination scope,
        AsksFor service.registry request envelope definition ∧ definition.riskTier = .highRisk ∧
          PassesGates definition envelope destination scope) ∧
    ∀ envelope definition destination mode,
      service.checksBeforeConfirmation envelope definition s = .ok (destination, mode) ↔
        ∃ scope, PassesGates definition envelope destination scope ∧
          PermissionAllows (service.permissions s definition.capabilityId scope) definition mode ∧
          NetworkAllows service.networkPolicy definition destination := by
  refine ⟨preflight_of_not_highRisk service request confirmationId credentialClass s, ?_, ?_,
    fun _ _ _ _ => ConfirmedCapabilityPreflightService.checksBeforeConfirmation_eq_ok⟩
  · intro envelope definition hasks htier
    have hexact : Authorizes service request confirmationId credentialClass s ↔
        ∃ decision s₁ resolution,
          BaseAuthorizes service.toCapabilityPreflightService request s decision s₁ ∧
          service.resolve s confirmationId envelope service.registry.fingerprint
            decision.normalizedDestination credentialClass = .ok resolution ∧
          resolution.approved = true ∧
          (service.audit (confirmationEvent envelope resolution true) s₁).isSome = true := by
      rw [authorizes_highRisk hasks htier]
      constructor
      · rintro ⟨destination, mode, resolution, s₁, hchecks, hresolve, happroved, hdecision, hrecorded⟩
        obtain ⟨scope, hpasses, hpermission, hnetwork⟩ :=
          ConfirmedCapabilityPreflightService.checksBeforeConfirmation_eq_ok.1 hchecks
        exact ⟨_, s₁, resolution, baseAuthorizes_iff.2 ⟨envelope, definition, destination, mode, scope,
          hasks, hpasses, hpermission, hnetwork, rfl, hdecision⟩, hresolve, happroved, hrecorded⟩
      · rintro ⟨decision, s₁, resolution, hbase, hresolve, happroved, hrecorded⟩
        obtain ⟨_, _, destination, mode, scope, hasks', hpasses, hpermission, hnetwork, rfl,
          hdecision⟩ := baseAuthorizes_iff.1 hbase
        obtain ⟨rfl, rfl⟩ := hasks.unique hasks'
        exact ⟨destination, mode, resolution, s₁,
          ConfirmedCapabilityPreflightService.checksBeforeConfirmation_eq_ok.2
            ⟨scope, hpasses, hpermission, hnetwork⟩, hresolve, happroved, hdecision, hrecorded⟩
    refine ⟨hexact, fun haudit => hexact.trans ?_⟩
    simp only [haudit, and_true]
  · constructor
    · rintro ⟨⟨envelope, definition, destination⟩, hbound⟩
      obtain ⟨henvelope, hfound, htier, scope, hpasses⟩ := validatedHighRiskBinding_eq_ok.1 hbound
      exact ⟨envelope, definition, destination, scope, ⟨henvelope, hfound⟩, htier, hpasses⟩
    · rintro ⟨envelope, definition, destination, scope, hasks, htier, hpasses⟩
      exact ⟨_, validatedHighRiskBinding_eq_ok.2 ⟨hasks.1, hasks.2, htier, scope, hpasses⟩⟩

end DollState.Confirmation
