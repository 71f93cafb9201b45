import DollState.Credential.Contract
import DollState.Library.Traces

/-!
# Calling out, and looking up a secret

What the broker and the secret store call, and what may come back, are the `Effect`s. All of their
code is a program of such calls; nothing is assumed of the answers here. `lookup` is the one operation
of `ExternalSecretStore` that the broker uses; the others are in `Credential.Custody`.
-/

namespace DollState.Credential

open StateLib

/-! ## What passes between a store and its adapters -/

inductive SecretStoreFailureCode where
  | adapterNotConfigured
  | adapterFailure
  | alreadyExists
  | cancelled
  | invalidReferenceState
  | locked
  | notFound
  | permissionDenied
  | referenceRevoked
  | storeUnavailable
  | timeout
  | unsupportedOperation
  | userPresenceRequired
  | userPresenceUnavailable
deriving DecidableEq, Repr

inductive SecretStoreOperation where
  | create | replace | lookup | revoke | delete
deriving DecidableEq, Repr

inductive SecretStoreCompletion where
  | confirmed | notCompleted | unknown
deriving DecidableEq, Repr

inductive SecretStoreAvailability where
  | available | unavailable
deriving DecidableEq, Repr

inductive SecretStoreLockState where
  | unlocked | locked | unknown | notApplicable
deriving DecidableEq, Repr

inductive SecretStoreUserPresence where
  | absent | optional | required | unknown
deriving DecidableEq, Repr

/-- `SecretStoreStatus`. -/
structure SecretStoreStatus where
  adapterClass : Text
  availability : SecretStoreAvailability
  lockState : SecretStoreLockState
  userPresence : SecretStoreUserPresence
  supportedOperations : List SecretStoreOperation
  failureCode : Option SecretStoreFailureCode

/-- `unavailable_status`. -/
def unavailableStatus (adapterClass : Text) (code : SecretStoreFailureCode) : SecretStoreStatus where
  adapterClass := adapterClass
  availability := .unavailable
  lockState := .unknown
  userPresence := .unknown
  supportedOperations := []
  failureCode := some code

/-- The fields of a `SecretStoreRequest`. -/
structure RequestFields where
  operationId : Text
  timeoutSeconds : Rat
  userPresence : SecretStoreUserPresencePolicy
  cancellation : TokenId

def RequestFields.validate (r : RequestFields) : Checked Unit := do
  ensure (isTokenOf 128 r.operationId = true) (storeError "invalid secret-store operation ID")
  ensure (0 < r.timeoutSeconds ∧ r.timeoutSeconds ≤ maxSecretStoreTimeoutSeconds)
    (storeError "invalid secret-store timeout")

abbrev SecretStoreRequest := Validated RequestFields RequestFields.validate

/-- The fields of a `SecretStoreAdapterContext`. -/
structure AdapterContextFields where
  operationId : Text
  deadlineMonotonic : Rat
  userPresence : SecretStoreUserPresencePolicy
  cancellation : TokenId

def AdapterContextFields.validate (c : AdapterContextFields) : Checked Unit :=
  ensure (isTokenOf 128 c.operationId = true) (storeError "invalid adapter operation ID")

abbrev SecretStoreAdapterContext := Validated AdapterContextFields AdapterContextFields.validate

/-! ## Calls and answers -/

abbrev HandlerId := Nat
abbrev AdapterId := Nat

/-- The identity of a `SecretMaterial`. -/
abbrev MaterialId := Nat

/-- What a handler says of itself. -/
structure HandlerDeclaration where
  capabilityId : Text
  capabilityVersion : Int
  operationScope : Text
  riskTier : Text

/-- What an ID factory comes to. -/
inductive IdAnswer where
  | raises
  | other
  | text (value : Text)

/-- What `adapter.lookup` comes to: a `SecretStoreAdapterFailure`, another `Exception`, something that
is no material, or a material. -/
inductive LookupAnswer where
  | failure (code : SecretStoreFailureCode)
  | raises
  | other
  | material (material : MaterialId)

/-- `SecretStoreAdapterFailure`. -/
structure SecretStoreAdapterFailure where
  code : SecretStoreFailureCode
  completion : SecretStoreCompletion
  unconfirmed : completion ≠ .confirmed

/-- What `adapter.create`, `replace`, `revoke` or `delete` comes to: a `SecretStoreAdapterFailure`,
another `Exception`, or anything that is returned. -/
inductive MutationAnswer where
  | failure (failure : SecretStoreAdapterFailure)
  | raises
  | returns

/-- What `handler.execute` comes to, with the release of the borrowed view: an `Exception`, something
that is no `CredentialHandlerResult`, or a result. -/
inductive HandlerAnswer where
  | raises
  | other
  | returns (result : CredentialHandlerResult)

/-- `_AuthorizationState`. The signature of an intent is made of all its fields. -/
structure AuthorizationState where
  grant : CredentialAuthorizationGrant
  intentSignature : IntentFields
  consumed : Bool
deriving DecidableEq

/-- A call out of the broker, the authority or the store. -/
inductive Effect where
  /-- the broker's clock -/
  | clock
  /-- `audit.record` -/
  | record (event : CredentialAuditEvent)
  /-- `cancellation.is_cancelled` -/
  | isCancelled (cancellation : TokenId)
  /-- the properties of a handler -/
  | declaration (handler : HandlerId)
  /-- `handler.execute` -/
  | handle (handler : HandlerId) (context : CredentialHandlerContext) (material : MaterialId)
  /-- the authority's clock -/
  | authorityClock
  /-- the authority's ID factory -/
  | newGrantId
  /-- the end of `issue`, under the lock -/
  | register (state : AuthorizationState)
  /-- the end of `consume`, under the lock -/
  | consume (grant : CredentialAuthorizationGrant) (signature : IntentFields) (now : Rat)
  /-- the store's clock -/
  | storeClock
  /-- `adapter.adapter_class` and `adapter.status` -/
  | status (adapter : AdapterId)
  /-- `adapter.lookup` -/
  | lookup (adapter : AdapterId) (reference : SecretReferenceMetadata)
      (context : SecretStoreAdapterContext)
  /-- `adapter.create`, `replace`, `revoke` or `delete` -/
  | mutate (operation : SecretStoreOperation) (adapter : AdapterId)
      (reference : SecretReferenceMetadata) (material : Option MaterialId)
      (context : SecretStoreAdapterContext)
  /-- `material.is_closed` -/
  | isClosed (material : MaterialId)
  /-- `material.close` -/
  | close (material : MaterialId)
  /-- the entry of `material.borrow` -/
  | borrow (material : MaterialId)

/-- What may come back from a call. -/
def Effect.Answer : Effect → Type
  -- a finite reading, if there is one
  | .clock | .authorityClock | .storeClock => Option Rat
  -- whether the sink has not raised
  | .record _ => Bool
  | .isCancelled _ => Bool
  -- the properties, unless reading one of them raises
  | .declaration _ => Option HandlerDeclaration
  | .handle _ _ _ => HandlerAnswer
  | .newGrantId => IdAnswer
  -- whether the identifier was free
  | .register _ => Bool
  | .consume _ _ _ => Option CredentialFailureCode
  -- the class, and the status if it is one, unless the adapter raises
  | .status _ => Option (Text × Option SecretStoreStatus)
  | .lookup _ _ _ => LookupAnswer
  | .mutate _ _ _ _ _ => MutationAnswer
  | .isClosed _ => Bool
  | .close _ => Unit
  -- whether the material was open
  | .borrow _ => Bool

/-- A program of such calls. -/
abbrev Calls (α : Type) := ReadProgram Effect Effect.Answer CredentialError α

/-- The calls of a run, and their answers. -/
abbrev Trace := List (Event Effect Effect.Answer)

/-- Make one call. -/
abbrev call (effect : Effect) : Calls effect.Answer := ReadProgram.read effect

abbrev isCancelled (cancellation : TokenId) : Calls Bool := call (.isCancelled cancellation)

abbrev isClosed (material : MaterialId) : Calls Bool := call (.isClosed material)

abbrev close (material : MaterialId) : Calls Unit := call (.close material)

/-! ## The store -/

/-- The registries that a broker and its store have been given. -/
structure Broker where
  handlers : Text → Int → Option HandlerId
  adapters : Text → Option AdapterId

/-- `SecretStoreLookupResult`. -/
inductive SecretStoreLookupResult where
  | failed (code : SecretStoreFailureCode)
  | found (material : MaterialId)

/-- `ExternalSecretStore._now`. -/
def storeNow : Calls Rat := do
  match ← (call .storeClock : Calls (Option Rat)) with
  | some now => return now
  | none => Except.error (storeError "secret-store clock failed")

/-- The checks of `SecretStoreOperationResult`, for the lookup of a reference. -/
def checkOperationResult (reference : SecretReferenceMetadata) : Checked Unit := do
  ensure (isTokenOf 128 reference.referenceId = true)
    (storeError "invalid secret-store result reference")
  ensure (isAdapterClass reference.storeAdapterClass = true)
    (storeError "invalid secret-store adapter class")

/-- `SecretStoreLookupResult(self._failure("lookup", …))`. -/
def failedLookup (reference : SecretReferenceMetadata) (code : SecretStoreFailureCode) :
    Checked SecretStoreLookupResult := do
  checkOperationResult reference
  return .failed code

/-- The same after `material.close()`. -/
def closedLookup (reference : SecretReferenceMetadata) (material : MaterialId)
    (code : SecretStoreFailureCode) : Calls SecretStoreLookupResult := do
  close material
  failedLookup reference code

/-- `SecretStoreLookupResult(self._success("lookup", reference), material)`. -/
def foundLookup (reference : SecretReferenceMetadata) (material : MaterialId) :
    Calls SecretStoreLookupResult := do
  checkOperationResult reference
  let closed ← isClosed material
  ensure (closed = false) (storeError "successful lookup requires open secret material")
  return .found material

/-- `_adapter_status`. -/
def adapterStatus (adapterClass : Text) (adapter : AdapterId) : Calls SecretStoreStatus := do
  match ← (call (.status adapter) : Calls (Option (Text × Option SecretStoreStatus))) with
  | some (declaredClass, some status) =>
    if declaredClass = adapterClass ∧ status.adapterClass = adapterClass then return status
    else return unavailableStatus adapterClass .adapterFailure
  | _ => return unavailableStatus adapterClass .adapterFailure

/-- `_user_presence_failure`. -/
def userPresenceFailure (policy : SecretStoreUserPresencePolicy)
    (capability : SecretStoreUserPresence) : Option SecretStoreFailureCode :=
  if policy = .forbid ∧ capability ≠ .absent then some .userPresenceRequired
  else if policy = .require ∧ capability ∉ [SecretStoreUserPresence.optional, .required] then
    some .userPresenceUnavailable
  else none

/-- What the status of an adapter says against a lookup. -/
def statusFailure (policy : SecretStoreUserPresencePolicy) (status : SecretStoreStatus) :
    Option SecretStoreFailureCode :=
  if status.availability = .unavailable then some (status.failureCode.getD .storeUnavailable)
  else if SecretStoreOperation.lookup ∉ status.supportedOperations then some .unsupportedOperation
  else if status.lockState = .locked then some .locked
  else userPresenceFailure policy status.userPresence

/-- `_prepare`, from the clock on, for a lookup: a failure, or the adapter and its context. -/
def prepareAdapter (broker : Broker) (reference : SecretReferenceMetadata)
    (request : RequestFields) : Calls (SecretStoreFailureCode ⊕
      AdapterId × SecretStoreAdapterContext) := do
  let started ← storeNow
  let deadline := started + request.timeoutSeconds
  ensure (isAdapterClass reference.storeAdapterClass = true)
    (storeError "invalid secret-store adapter class")
  match broker.adapters reference.storeAdapterClass with
  | none => return .inl .adapterNotConfigured
  | some adapter =>
    let status ← adapterStatus reference.storeAdapterClass adapter
    if ← isCancelled request.cancellation then return .inl .cancelled
    else
      let now ← storeNow
      if deadline ≤ now then return .inl .timeout
      else
        match statusFailure request.userPresence status with
        | some code => return .inl code
        | none =>
          let context ← construct AdapterContextFields.validate
            ⟨request.operationId, deadline, request.userPresence, request.cancellation⟩
          return .inr (adapter, context)

section

variable [DigitLibrary]

/-- `_prepare`, for a lookup. -/
def prepare (broker : Broker) (reference : SecretReferenceMetadata) (request : RequestFields) :
    Calls (SecretStoreFailureCode ⊕ AdapterId × SecretStoreAdapterContext) := do
  ensure (isValidReference reference = true)
    (storeError "secret-store operation requires a validated reference")
  if reference.status = .revoked then return .inl .referenceRevoked
  else if ← isCancelled request.cancellation then return .inl .cancelled
  else prepareAdapter broker reference request

/-- What `lookup` makes of the material that an adapter has returned. -/
def takeMaterial (reference : SecretReferenceMetadata) (request : RequestFields)
    (context : AdapterContextFields) (material : MaterialId) : Calls SecretStoreLookupResult := do
  if ← isClosed material then
    closedLookup reference material .adapterFailure
  else if ← isCancelled request.cancellation then closedLookup reference material .cancelled
  else
    let now ← storeNow
    if context.deadlineMonotonic ≤ now then closedLookup reference material .timeout
    else foundLookup reference material

/-- `lookup`. -/
def lookup (broker : Broker) (reference : SecretReferenceMetadata) (request : RequestFields) :
    Calls SecretStoreLookupResult := do
  match ← prepare broker reference request with
  | .inl code => failedLookup reference code
  | .inr (adapter, context) =>
    match ← (call (.lookup adapter reference context) : Calls LookupAnswer) with
    | .failure code => failedLookup reference code
    | .raises | .other => failedLookup reference .adapterFailure
    | .material material => takeMaterial reference request context.fields material

end

end DollState.Credential
