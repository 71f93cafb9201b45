import Mathlib.Data.Set.Insert
import DollState.Credential.Store

/-!
# The operations of the external secret store

`create`, `replace`, `revoke` and `delete` of `ExternalSecretStore` beside its `lookup`, over any
behaviour of adapters and clocks. `Custody` follows which materials are closed along the calls: a check
tells the truth, `close` closes, and an adapter can close what it has in its hands but cannot open it
again.
-/

namespace DollState.Credential

open StateLib

/-! ## Results -/

/-- The fields of a `SecretStoreOperationResult`. -/
structure OperationResultFields where
  operation : SecretStoreOperation
  referenceId : Text
  adapterClass : Text
  succeeded : Bool
  failureCode : Option SecretStoreFailureCode
  completion : SecretStoreCompletion
deriving DecidableEq

def OperationResultFields.validate (r : OperationResultFields) : Checked Unit := do
  ensure (isTokenOf 128 r.referenceId = true) (storeError "invalid secret-store result reference")
  ensure (isAdapterClass r.adapterClass = true) (storeError "invalid secret-store adapter class")
  if r.succeeded then
    ensure (r.failureCode = none ∧ r.completion = .confirmed)
      (storeError "invalid successful secret-store result")
  else
    ensure (r.failureCode ≠ none ∧ r.completion ≠ .confirmed)
      (storeError "invalid failed secret-store result")

abbrev SecretStoreOperationResult :=
  Validated OperationResultFields OperationResultFields.validate

/-- `_success`. -/
def success (operation : SecretStoreOperation) (reference : SecretReferenceMetadata) :
    Checked SecretStoreOperationResult :=
  construct OperationResultFields.validate
    { operation
      referenceId := reference.referenceId
      adapterClass := reference.storeAdapterClass
      succeeded := true
      failureCode := none
      completion := .confirmed }

/-- `_failure`. -/
def failure (operation : SecretStoreOperation) (reference : SecretReferenceMetadata)
    (code : SecretStoreFailureCode) (completion : SecretStoreCompletion) :
    Checked SecretStoreOperationResult :=
  construct OperationResultFields.validate
    { operation
      referenceId := reference.referenceId
      adapterClass := reference.storeAdapterClass
      succeeded := false
      failureCode := some code
      completion }

/-! ## Preparation -/

/-- `_reference_state_failure`. -/
def referenceStateFailure (operation : SecretStoreOperation) (reference : SecretReferenceMetadata) :
    Option SecretStoreFailureCode :=
  if reference.status = .revoked ∧ operation ≠ .delete then some .referenceRevoked
  else if operation = .create ∧ reference.status ≠ .active then some .invalidReferenceState
  else none

/-- What the status of an adapter says against an operation. -/
def statusFailureOf (operation : SecretStoreOperation) (policy : SecretStoreUserPresencePolicy)
    (status : SecretStoreStatus) : Option SecretStoreFailureCode :=
  if status.availability = .unavailable then some (status.failureCode.getD .storeUnavailable)
  else if operation ∉ status.supportedOperations then some .unsupportedOperation
  else if status.lockState = .locked then some .locked
  else userPresenceFailure policy status.userPresence

/-- `_prepare`, from the clock on. -/
def prepareAdapterFor (operation : SecretStoreOperation) (broker : Broker)
    (reference : SecretReferenceMetadata) (request : RequestFields) :
    Calls (SecretStoreFailureCode ⊕ AdapterId × SecretStoreAdapterContext) := do
  let started ← storeNow
  let deadline := started + request.timeoutSeconds
  ensure (isAdapterClass reference.storeAdapterClass = true)
    (storeError "invalid secret-store adapter class")
  match broker.adapters reference.storeAdapterClass with
  | none => return .inl .adapterNotConfigured
  | some adapter =>
    let status ← adapterStatus reference.storeAdapterClass adapter
    if ← isCancelled request.cancellation then return .inl .cancelled
    else
      let now ← storeNow
      if deadline ≤ now then return .inl .timeout
      else
        match statusFailureOf operation request.userPresence status with
        | some code => return .inl code
        | none =>
          let context ← construct AdapterContextFields.validate
            ⟨request.operationId, deadline, request.userPresence, request.cancellation⟩
          return .inr (adapter, context)

section

variable [DigitLibrary]

/-- `_prepare`. -/
def prepareFor (operation : SecretStoreOperation) (broker : Broker)
    (reference : SecretReferenceMetadata) (request : RequestFields) :
    Calls (SecretStoreFailureCode ⊕ AdapterId × SecretStoreAdapterContext) := do
  ensure (isValidReference reference = true)
    (storeError "secret-store operation requires a validated reference")
  match referenceStateFailure operation reference with
  | some code => return .inl code
  | none =>
    if ← isCancelled request.cancellation then return .inl .cancelled
    else prepareAdapterFor operation broker reference request

/-- What a lookup does first is what every operation does first. -/
theorem prepareFor_lookup (broker : Broker) (reference : SecretReferenceMetadata)
    (request : RequestFields) :
    prepareFor .lookup broker reference request = prepare broker reference request := by
  unfold prepareFor prepare referenceStateFailure
  congr 1
  funext u
  by_cases hstatus : reference.status = .revoked
  · simp [hstatus]
  · simp only [hstatus, false_and, reduceIte, reduceCtorEq]
    rfl

/-! ## The operations -/

/-- `_post_mutation_result`. -/
def postMutationResult (operation : SecretStoreOperation) (reference : SecretReferenceMetadata)
    (request : RequestFields) (context : AdapterContextFields) :
    Calls SecretStoreOperationResult := do
  if ← isCancelled request.cancellation then failure operation reference .cancelled .unknown
  else
    let now ← storeNow
    if context.deadlineMonotonic ≤ now then failure operation reference .timeout .unknown
    else success operation reference

/-- What a call of the adapter comes to. -/
def judgeMutation (operation : SecretStoreOperation) (reference : SecretReferenceMetadata)
    (request : RequestFields) (context : AdapterContextFields) :
    MutationAnswer → Calls SecretStoreOperationResult
  | .failure f => failure operation reference f.code f.completion
  | .raises => failure operation reference .adapterFailure .unknown
  | .returns => postMutationResult operation reference request context

/-- `_no_material_operation`, and what `_write_operation` does with an open material. -/
def mutateWith (operation : SecretStoreOperation) (broker : Broker)
    (reference : SecretReferenceMetadata) (material : Option MaterialId)
    (request : RequestFields) : Calls SecretStoreOperationResult := do
  match ← prepareFor operation broker reference request with
  | .inl code => failure operation reference code .notCompleted
  | .inr (adapter, context) =>
    let answer ← (call (.mutate operation adapter reference material context) :
      Calls MutationAnswer)
    judgeMutation operation reference request context.fields answer

/-- `_write_operation`. -/
def writeOperation (operation : SecretStoreOperation) (broker : Broker)
    (reference : SecretReferenceMetadata) (material : MaterialId) (request : RequestFields) :
    Calls SecretStoreOperationResult := do
  let closed ← isClosed material
  ensure (closed = false) (storeError "secret material is closed")
  (mutateWith operation broker reference (some material) request).ensuring (close material)

/-- A call of the store. -/
inductive StoreTask where
  | create (reference : SecretReferenceMetadata) (material : MaterialId)
      (request : SecretStoreRequest)
  | replace (reference : SecretReferenceMetadata) (material : MaterialId)
      (request : SecretStoreRequest)
  | lookup (reference : SecretReferenceMetadata) (request : SecretStoreRequest)
  | revoke (reference : SecretReferenceMetadata) (request : SecretStoreRequest)
  | delete (reference : SecretReferenceMetadata) (request : SecretStoreRequest)

/-- What a call of the store returns. -/
inductive StoreReturned where
  | operation (result : SecretStoreOperationResult)
  | lookup (result : SecretStoreLookupResult)

def StoreTask.program (broker : Broker) : StoreTask → Calls StoreReturned
  | .create reference material request => do
    return .operation (← writeOperation .create broker reference material request.fields)
  | .replace reference material request => do
    return .operation (← writeOperation .replace broker reference material request.fields)
  | .lookup reference request => do
    return .lookup (← Credential.lookup broker reference request.fields)
  | .revoke reference request => do
    return .operation (← mutateWith .revoke broker reference none request.fields)
  | .delete reference request => do
    return .operation (← mutateWith .delete broker reference none request.fields)

end

def StoreTask.reference : StoreTask → SecretReferenceMetadata
  | .create reference _ _ | .replace reference _ _ | .lookup reference _ | .revoke reference _
  | .delete reference _ => reference

def StoreTask.request : StoreTask → SecretStoreRequest
  | .create _ _ request | .replace _ _ request | .lookup _ request | .revoke _ request
  | .delete _ request => request

/-- The material that a call is given. -/
def StoreTask.material : StoreTask → Option MaterialId
  | .create _ material _ | .replace _ material _ => some material
  | .lookup _ _ | .revoke _ _ | .delete _ _ => none

/-- The completion of the `SecretStoreOperationResult` that is returned, by itself or in the result of
a lookup. -/
def StoreReturned.completion : StoreReturned → SecretStoreCompletion
  | .operation result => result.fields.completion
  | .lookup (.found _) => .confirmed
  | .lookup (.failed _) => .notCompleted

/-! ## Which materials are closed -/

/-- What a call with its answer leaves of the set of closed materials. -/
def Effect.Leaves (closed closed' : Set MaterialId) : (effect : Effect) → effect.Answer → Prop
  | .isClosed material, answer => ((answer : Bool) = true ↔ material ∈ closed) ∧ closed' = closed
  | .borrow material, answer => ((answer : Bool) = true ↔ material ∉ closed) ∧ closed' = closed
  | .close material, _ => closed' = insert material closed
  | .status _, _ | .lookup _ _ _, _ | .mutate _ _ _ _ _, _ | .handle _ _ _, _ => closed ⊆ closed'
  | _, _ => closed' = closed

/-- `Custody closed t closed'`: the materials in `closed` are closed before the calls `t`, and those in
`closed'` after them. -/
inductive Custody : Set MaterialId → Trace → Set MaterialId → Prop
  | nil (closed : Set MaterialId) : Custody closed [] closed
  | cons {closed closed₁ closed' : Set MaterialId} {e : Event Effect Effect.Answer} {t : Trace} :
      e.1.Leaves closed closed₁ e.2 → Custody closed₁ t closed' → Custody closed (e :: t) closed'

end DollState.Credential
