import DollState.Credential.Store

/-!
# The credential broker

`CredentialAuthorizationAuthority` issues grants and consumes them; `CredentialBroker.execute` is the
only path to a credential. Both are programs of calls (`issue`, `execute`); what the authority answers
under its lock is `Authority.register` and `Authority.consume`.
-/

namespace DollState.Credential

open StateLib

/-! ## The authority -/

/-- The grants that an authority has issued, by their identifiers. -/
structure Authority where
  states : Text → Option AuthorizationState

def Authority.empty : Authority := ⟨fun _ => none⟩

/-- The authority with a state for one grant. -/
def Authority.put (s : Authority) (grantId : Text) (state : AuthorizationState) : Authority :=
  ⟨fun id => if id = grantId then some state else s.states id⟩

/-- The end of `issue`, under the lock. -/
def Authority.register (s : Authority) (state : AuthorizationState) : Bool × Authority :=
  match s.states state.grant.fields.grantId with
  | some _ => (false, s)
  | none => (true, s.put state.grant.fields.grantId state)

/-- The end of `consume`, under the lock. -/
def Authority.consume (s : Authority) (grant : CredentialAuthorizationGrant) (signature : IntentFields)
    (now : Rat) : Option CredentialFailureCode × Authority :=
  match s.states grant.fields.grantId with
  | none => (some .authorizationMissing, s)
  | some state =>
    if state.grant ≠ grant then (some .authorizationMissing, s)
    else if state.consumed then (some .authorizationConsumed, s)
    else if state.grant.fields.expiresAtMonotonic ≤ now then
      (some .authorizationExpired, s.put grant.fields.grantId { state with consumed := true })
    else if state.intentSignature ≠ signature then (some .authorizationMismatch, s)
    else (none, s.put grant.fields.grantId { state with consumed := true })

/-- What may come back from a call, the authority's own steps excepted, and what it leaves. -/
def Authority.Respond (s : Authority) : (effect : Effect) → effect.Answer → Authority → Prop
  | .register state, answer, s' => (answer, s') = s.register state
  | .consume grant signature now, answer, s' => (answer, s') = s.consume grant signature now
  | _, _, s' => s' = s

/-- The authority answers its own calls, and `other` the rest. -/
def Authority.serve (other : (effect : Effect) → effect.Answer) (s : Authority) :
    (effect : Effect) → effect.Answer × Authority
  | .register state => s.register state
  | .consume grant signature now => s.consume grant signature now
  | effect => (other effect, s)

theorem respond_serve (other : (effect : Effect) → effect.Answer) (s : Authority) (effect : Effect) :
    s.Respond effect (s.serve other effect).1 (s.serve other effect).2 := by
  cases effect <;> rfl

/-- `_intent_signature`. -/
def intentSignature (intent : CredentialUseIntent) : IntentFields := intent.fields

/-- `_safe_clock_value`. -/
def safeClockValue (name : String) : Option Rat → Checked Rat
  | none => .error (contractError s!"{name} failed")
  | some value => do
    ensure (0 ≤ value) (contractError s!"{name} failed")
    return value

/-- `CredentialAuthorizationAuthority._now`. -/
def authorityNow : Calls Rat := do
  let reading ← (call .authorityClock : Calls (Option Rat))
  safeClockValue "authorization clock" reading

/-- The identifier that a factory has made. -/
def checkGrantId : IdAnswer → Checked Text
  | .raises => .error (contractError "authorization ID generation failed")
  | .other => .error (contractError "invalid authorization grant ID")
  | .text value => .ok value

/-- `issue`. -/
def issue (intent : CredentialUseIntent) (ttlSeconds : Rat) : Calls CredentialAuthorizationGrant := do
  ensure (0 < ttlSeconds ∧ ttlSeconds ≤ maxCredentialAuthorizationTtlSeconds)
    (contractError "invalid authorization TTL")
  let now ← authorityNow
  let made ← (call .newGrantId : Calls IdAnswer)
  let grantId ← checkGrantId made
  let grant ← construct GrantFields.validate
    { grantId := grantId
      operationId := intent.fields.operationId
      capabilityId := intent.fields.capabilityId
      capabilityVersion := intent.fields.capabilityVersion
      referenceId := intent.fields.reference.referenceId
      operationScope := intent.fields.operationScope
      destination := intent.fields.destination
      riskTier := intent.fields.riskTier
      expiresAtMonotonic := now + ttlSeconds }
  let fresh : Bool ← call (.register ⟨grant, intentSignature intent, false⟩)
  ensure (fresh = true) (contractError "duplicate authorization grant ID")
  return grant

/-- `consume`. -/
def consume (grant : Option CredentialAuthorizationGrant) (intent : CredentialUseIntent) :
    Calls (Option CredentialFailureCode) :=
  match grant with
  | none => return some .authorizationMissing
  | some grant => do
    let now ← authorityNow
    call (.consume grant (intentSignature intent) now)

/-! ## Results and audit events -/

/-- `_result`. -/
def result (intent : IntentFields) (failureCode : CredentialFailureCode)
    (completion : CredentialCompletion) (handlerResultCode : Option Text) :
    Checked CredentialBrokerResult :=
  construct BrokerResultFields.validate
    { operationId := intent.operationId
      capabilityId := intent.capabilityId
      capabilityVersion := intent.capabilityVersion
      referenceId := intent.reference.referenceId
      operationScope := intent.operationScope
      destination := intent.destination
      succeeded := false
      failureCode := some failureCode
      completion := completion
      handlerResultCode := handlerResultCode }

/-- `_result_from_handler`, and the result of a handler that raises. -/
def resultFromHandler (intent : IntentFields) : HandlerAnswer → Checked CredentialBrokerResult
  | .raises => result intent .handlerFailure .unknown none
  | .other => result intent .malformedHandlerResult .unknown none
  | .returns handlerResult =>
    if handlerResult.fields.succeeded then
      construct BrokerResultFields.validate
        { operationId := intent.operationId
          capabilityId := intent.capabilityId
          capabilityVersion := intent.capabilityVersion
          referenceId := intent.reference.referenceId
          operationScope := intent.operationScope
          destination := intent.destination
          succeeded := true
          failureCode := none
          completion := .completed
          handlerResultCode := some handlerResult.fields.resultCode }
    else result intent .handlerResult handlerResult.fields.completion
      (some handlerResult.fields.resultCode)

/-- `_map_store_failure`. -/
def mapStoreFailure : SecretStoreFailureCode → CredentialFailureCode
  | .adapterFailure => .adapterFailure
  | .adapterNotConfigured => .adapterNotConfigured
  | .alreadyExists => .adapterFailure
  | .cancelled => .cancelled
  | .invalidReferenceState => .invalidReferenceState
  | .locked => .locked
  | .notFound => .notFound
  | .permissionDenied => .permissionDenied
  | .referenceRevoked => .referenceRevoked
  | .storeUnavailable => .storeUnavailable
  | .timeout => .timeout
  | .unsupportedOperation => .unsupportedOperation
  | .userPresenceRequired => .userPresenceRequired
  | .userPresenceUnavailable => .userPresenceUnavailable

/-- The failures that an audit event calls a denial. -/
def denials : List CredentialFailureCode :=
  [.authorizationConsumed, .authorizationExpired, .authorizationMismatch, .authorizationMissing,
    .destinationOutOfScope, .handlerMismatch, .handlerNotRegistered, .invalidReferenceState,
    .operationOutOfScope, .permissionDenied, .referenceRevoked, .userPresenceRequired,
    .userPresenceUnavailable]

/-- `_audit_result`. -/
def auditResult (result : BrokerResultFields) : CredentialAuditResult :=
  if result.succeeded then .success
  else if result.failureCode = some .cancelled then .cancelled
  else if result.completion = .unknown then .partly
  else if ∃ code ∈ result.failureCode, code ∈ denials then .denied
  else .failed

/-- The event of an attempt. -/
def attemptEvent (intent : IntentFields) : AuditEventFields where
  phase := .attempt
  operationId := intent.operationId
  actorType := intent.actorType
  actorId := intent.actorId
  capabilityId := intent.capabilityId
  capabilityVersion := intent.capabilityVersion
  referenceId := intent.reference.referenceId
  credentialClass := intent.reference.credentialClass.text
  operationScope := intent.operationScope
  destination := intent.destination
  riskTier := intent.riskTier
  result := .success
  failureCode := none
  completion := none
  handlerResultCode := none

/-- The event of a result. -/
def resultEvent (intent : IntentFields) (result : BrokerResultFields) : AuditEventFields :=
  { attemptEvent intent with
    phase := .result
    result := auditResult result
    failureCode := result.failureCode
    completion := some result.completion
    handlerResultCode := result.handlerResultCode }

/-- Whether an audit sink has accepted an event. -/
def record (fields : AuditEventFields) : Calls Bool := do
  let event ← construct AuditEventFields.validate fields
  call (.record event)

/-- `_record_attempt`. -/
def recordAttempt (intent : IntentFields) : Calls Bool := record (attemptEvent intent)

/-- `_record_terminal`. -/
def recordTerminal (intent : IntentFields) (terminal : CredentialBrokerResult) :
    Calls CredentialBrokerResult := do
  if ← record (resultEvent intent terminal.fields) then return terminal
  else result intent .auditFailure terminal.fields.completion terminal.fields.handlerResultCode

/-- A result that is recorded and returned. -/
def finishWith (intent : IntentFields) (failureCode : CredentialFailureCode)
    (completion : CredentialCompletion) (handlerResultCode : Option Text) :
    Calls CredentialBrokerResult := do
  let terminal ← result intent failureCode completion handlerResultCode
  recordTerminal intent terminal

/-! ## The broker -/

/-- `CredentialBroker._now`. -/
def now : Calls Rat := do
  let reading ← (call .clock : Calls (Option Rat))
  safeClockValue "credential broker clock" reading

/-- What is checked of a handler's declaration. -/
def Declares (declared : HandlerDeclaration) (intent : IntentFields) : Prop :=
  declared.capabilityId = intent.capabilityId ∧
    declared.capabilityVersion = intent.capabilityVersion ∧
    declared.operationScope = intent.operationScope ∧
    declared.riskTier = CredentialRiskTier.tier3.text

instance (declared : HandlerDeclaration) (intent : IntentFields) :
    Decidable (Declares declared intent) := by
  unfold Declares
  infer_instance

/-- The properties of a handler agree with the intent, and reading them does not raise. -/
def matchesIntent (handler : HandlerId) (intent : IntentFields) : Calls Bool := do
  match ← (call (.declaration handler) : Calls (Option HandlerDeclaration)) with
  | some declared => return decide (Declares declared intent)
  | none => return false

/-- A look at the token and at the clock: the code of a failure, if there is one. -/
def interruption (cancellation : TokenId) (deadline : Rat) : Calls (Option CredentialFailureCode) := do
  if ← isCancelled cancellation then return some .cancelled
  else
    let now ← now
    return if deadline ≤ now then some .timeout else none

/-- The part of `_preflight` that follows the look at the reference. -/
def authorize (intent : CredentialUseIntent) (grant : Option CredentialAuthorizationGrant)
    (deadline : Rat) (handler : HandlerId) : Calls (CredentialFailureCode ⊕ HandlerId) := do
  if ← matchesIntent handler intent.fields then
    match ← consume grant intent with
    | some code => return .inl code
    | none =>
      match ← interruption intent.fields.cancellation deadline with
      | some code => return .inl code
      | none => return .inr handler
  else return .inl .handlerMismatch

/-- `_preflight`: the code of a failure, or the handler. -/
def preflight (broker : Broker) (intent : CredentialUseIntent)
    (grant : Option CredentialAuthorizationGrant) (deadline : Rat) :
    Calls (CredentialFailureCode ⊕ HandlerId) := do
  match ← interruption intent.fields.cancellation deadline with
  | some code => return .inl code
  | none =>
    if intent.fields.reference.status ≠ .active then return .inl .invalidReferenceState
    else if intent.fields.operationScope ∉ intent.fields.reference.allowedOperationScope then
      return .inl .operationOutOfScope
    else if intent.fields.destination ∉ intent.fields.reference.allowedDestinationScope then
      return .inl .destinationOutOfScope
    else
      -- `CredentialHandlerRegistry.get` checks its arguments
      validateToken "capability ID" intent.fields.capabilityId
      validateVersion intent.fields.capabilityVersion
      match broker.handlers intent.fields.capabilityId intent.fields.capabilityVersion with
      | none => return .inl .handlerNotRegistered
      | some handler => authorize intent grant deadline handler

/-- What a handler is told. -/
def contextFields (intent : IntentFields) (deadline : Rat) : ContextFields where
  operationId := intent.operationId
  capabilityId := intent.capabilityId
  capabilityVersion := intent.capabilityVersion
  referenceId := intent.reference.referenceId
  operationScope := intent.operationScope
  destination := intent.destination
  riskTier := intent.riskTier
  deadlineMonotonic := deadline
  cancellation := intent.cancellation

abbrev borrow (material : MaterialId) : Calls Bool := call (.borrow material)

abbrev handle (handler : HandlerId) (context : CredentialHandlerContext) (material : MaterialId) :
    Calls HandlerAnswer := call (.handle handler context material)

/-- `with material.borrow() as credential: handler.execute(context, credential)`. -/
def invoke (handler : HandlerId) (context : CredentialHandlerContext) (material : MaterialId) :
    Calls HandlerAnswer := do
  if ← borrow material then handle handler context material
  else return .raises

/-- The body of `with lookup`: a result that is returned, or one that is still to be judged. -/
def useMaterial (intent : IntentFields) (deadline : Rat) (handler : HandlerId)
    (material : MaterialId) : Calls (CredentialBrokerResult ⊕ CredentialBrokerResult) := do
  if ← isClosed material then
    let returned ← finishWith intent .adapterFailure .notStarted none
    return .inl returned
  else
    match ← interruption intent.cancellation deadline with
    | some code =>
      let returned ← finishWith intent code .notStarted none
      return .inl returned
    | none =>
      let context ← construct ContextFields.validate (contextFields intent deadline)
      let answer ← invoke handler context material
      let judged ← resultFromHandler intent answer
      return .inr judged

/-- What follows the handler's call. -/
def conclude (intent : IntentFields) (deadline : Rat) (judged : CredentialBrokerResult) :
    Calls CredentialBrokerResult := do
  match ← interruption intent.cancellation deadline with
  | some code => finishWith intent code .unknown judged.fields.handlerResultCode
  | none => recordTerminal intent judged

/-- What follows a lookup that has found material. -/
def withMaterial (intent : IntentFields) (deadline : Rat) (handler : HandlerId)
    (material : MaterialId) : Calls CredentialBrokerResult := do
  match ← (useMaterial intent deadline handler material).ensuring (close material) with
  | .inl returned => return returned
  | .inr judged => conclude intent deadline judged

section

variable [DigitLibrary]

/-- What follows the preflight. -/
def lookUpAndUse (broker : Broker) (intent : IntentFields) (deadline : Rat) (handler : HandlerId) :
    Calls CredentialBrokerResult := do
  let now ← now
  if deadline - now ≤ 0 then finishWith intent .timeout .notStarted none
  else
    let request ← construct RequestFields.validate
      ⟨intent.operationId, deadline - now, intent.userPresence, intent.cancellation⟩
    match ← lookup broker intent.reference request.fields with
    | .failed code => finishWith intent (mapStoreFailure code) .notStarted none
    | .found material => withMaterial intent deadline handler material

/-- `execute`, from the audit event of the attempt on. -/
def attempt (broker : Broker) (intent : CredentialUseIntent)
    (grant : Option CredentialAuthorizationGrant) (deadline : Rat) :
    Calls CredentialBrokerResult := do
  if ← recordAttempt intent.fields then
    match ← preflight broker intent grant deadline with
    | .inl code => finishWith intent.fields code .notStarted none
    | .inr handler => lookUpAndUse broker intent.fields deadline handler
  else result intent.fields .auditFailure .notStarted none

/-- `execute`. -/
def execute (broker : Broker) (intent : CredentialUseIntent)
    (grant : Option CredentialAuthorizationGrant) : Calls CredentialBrokerResult := do
  ensure (isValidReference intent.fields.reference = true)
    (contractError "credential broker requires a validated SecretReference")
  let started ← now
  attempt broker intent grant (started + intent.fields.timeoutSeconds)

end

/-! ## Calls on one authority -/

/-- A call of a client: on the authority, to issue a grant, or on a broker of that authority. -/
inductive Task where
  | issue (intent : CredentialUseIntent) (ttlSeconds : Rat)
  | execute (broker : Broker) (intent : CredentialUseIntent)
      (grant : Option CredentialAuthorizationGrant)

/-- What such a call returns. -/
inductive Returned where
  | grant (grant : CredentialAuthorizationGrant)
  | result (result : CredentialBrokerResult)

def Task.program [DigitLibrary] : Task → Calls Returned
  | .issue intent ttlSeconds => do
    let grant ← Credential.issue intent ttlSeconds
    return .grant grant
  | .execute broker intent grant => do
    let result ← Credential.execute broker intent grant
    return .result result

end DollState.Credential
