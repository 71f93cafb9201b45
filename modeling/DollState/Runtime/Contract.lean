import DollState.State.Record
import DollState.Library.Check

/-!
# The runtime adapter contract

The values that pass between a local runtime adapter and the boundary: declarations, health,
requests, stream events and transcripts. A value of one of these classes has passed the checks of its
`__post_init__`; here it carries the proof that it has.
-/

namespace DollState.Runtime

open StateLib

/-! ## Enumerations -/

inductive Operation where
  | inventory | generate | stream
deriving DecidableEq, Repr

inductive ConnectionKind where
  | inProcess | localProcess | localSocket
deriving DecidableEq, Repr

inductive HealthState where
  | ready | degraded | unavailable
deriving DecidableEq, Repr

inductive FinishReason where
  | stop | length
deriving DecidableEq, Repr

inductive GenerationOutcome where
  | completed | failed | cancelled | timeout
deriving DecidableEq, Repr

inductive StreamEventKind where
  | start | delta | complete | error | cancelled
deriving DecidableEq, Repr

inductive FailureCode where
  | adapterNotConfigured
  | adapterFailure
  | cancelled
  | invalidResponse
  | modelNotFound
  | resourceLimit
  | runtimeUnavailable
  | timeout
  | unsupportedOperation
deriving DecidableEq, Repr

def Operation.text : Operation → Text
  | .inventory => "inventory".toList
  | .generate => "generate".toList
  | .stream => "stream".toList

def ConnectionKind.text : ConnectionKind → Text
  | .inProcess => "in_process".toList
  | .localProcess => "local_process".toList
  | .localSocket => "local_socket".toList

/-- `kind in {"complete", "error", "cancelled"}`. -/
def StreamEventKind.isTerminal : StreamEventKind → Bool
  | .start | .delta => false
  | .complete | .error | .cancelled => true

/-! ## Limits -/

def maxRuntimeTimeoutSeconds : Rat := 600
def maxRuntimeInputChars : Nat := 262144
def maxRuntimeOutputChars : Nat := 262144
def maxRuntimeStreamEvents : Nat := 16384

/-! ## Texts -/

def contractError (message : String) : DollError := ⟨.runtimeContract, message⟩

/-- `^[a-z0-9][a-z0-9._-]{0,127}$` matches the whole text. -/
def isIdentifier : Text → Bool
  | [] => false
  | c :: cs => (c.isLower || c.isDigit) && cs.length ≤ 127 &&
      cs.all fun d => d.isLower || d.isDigit || d == '.' || d == '_' || d == '-'

/-- `^[A-Za-z0-9][A-Za-z0-9._+\-]{0,127}$` matches the whole text. -/
def isVersion : Text → Bool
  | [] => false
  | c :: cs => c.isAlphanum && cs.length ≤ 127 &&
      cs.all fun d => d.isAlphanum || d == '.' || d == '_' || d == '+' || d == '-'

/-- `^[A-Za-z0-9][A-Za-z0-9._:-]{0,127}$` matches the whole text. -/
def isOperationId (value : Text) : Bool := isToken value && value.length ≤ 128

/-- `_validate_identifier`. -/
def validateIdentifier (label : String) (value : Text) : Result Text := do
  ensure (isIdentifier value = true) (contractError s!"invalid {label}")
  return value

/-- `_validate_operation_id`. -/
def validateOperationId (value : Text) : Result Text := do
  ensure (isOperationId value = true) (contractError "invalid runtime operation ID")
  return value

/-- `_validate_text`. -/
def validateText (label : String) (value : Text) (maximum : Nat) (allowEmpty allowControls : Bool) :
    Result Unit := do
  ensure (allowEmpty = true ∨ value ≠ []) (contractError s!"{label} must not be empty")
  ensure (value.length ≤ maximum) (contractError s!"{label} exceeds the accepted size limit")
  ensure (value.all (fun c => c.toNat ≠ 0) = true ∧
      (allowControls = true ∨ value.all (fun c => 32 ≤ c.toNat) = true))
    (contractError s!"{label} contains invalid control characters")

/-! ## Declarations and health -/

/-- `values == tuple(sorted(values))` without duplicates, for the names of operations. -/
def sortedOperations (values : List Operation) : Bool :=
  values = [Operation.generate, .inventory, .stream].filter (· ∈ values)

/-- The fields of a `RuntimeAdapterDeclaration`. -/
structure DeclarationFields where
  adapterId : Text
  adapterVersion : Text
  runtimeClass : Text
  connectionKind : ConnectionKind
  supportedOperations : List Operation
  offlineCapable : Bool
  cloudFallback : Bool
  automaticDownload : Bool
deriving DecidableEq

def DeclarationFields.validate (d : DeclarationFields) : Result Unit := do
  ensure (isIdentifier d.adapterId = true) (contractError "invalid adapter ID")
  ensure (isVersion d.adapterVersion = true) (contractError "invalid adapter version")
  ensure (isIdentifier d.runtimeClass = true) (contractError "invalid runtime class")
  ensure (d.supportedOperations ≠ [])
    (contractError "runtime operations must use a non-empty tuple")
  ensure (sortedOperations d.supportedOperations = true)
    (contractError "runtime operations must be unique and sorted")
  ensure (d.offlineCapable = true)
    (contractError "local runtime adapter must be offline capable")
  ensure (d.cloudFallback = false)
    (contractError "local runtime adapter cannot declare cloud fallback")
  ensure (d.automaticDownload = false)
    (contractError "local runtime adapter cannot declare automatic download")

structure RuntimeAdapterDeclaration extends DeclarationFields where
  valid : toDeclarationFields.validate = .ok ()

/-- The fields of a `RuntimeHealth`. -/
structure HealthFields where
  adapterId : Text
  runtimeId : Option Text
  state : HealthState
  failureCode : Option FailureCode
deriving DecidableEq

def HealthFields.validate (h : HealthFields) : Result Unit := do
  ensure (isIdentifier h.adapterId = true) (contractError "invalid adapter ID")
  ensure (h.runtimeId.all isIdentifier = true) (contractError "invalid runtime ID")
  if h.state = .ready then
    ensure (h.runtimeId ≠ none ∧ h.failureCode = none)
      (contractError "invalid ready runtime health")
  else
    ensure (h.failureCode ≠ none) (contractError "non-ready runtime health requires a failure code")

structure RuntimeHealth extends HealthFields where
  valid : toHealthFields.validate = .ok ()

/-! ## Requests -/

/-- The fields of a `RuntimeGenerationRequest`; its cancellation token is read while the call runs. -/
structure RequestFields where
  operationId : Text
  modelId : Text
  inputText : Text
  maxOutputChars : Int
  timeoutSeconds : Rat

def RequestFields.validate (r : RequestFields) : Result Unit := do
  ensure (isOperationId r.operationId = true) (contractError "invalid runtime operation ID")
  ensure (isIdentifier r.modelId = true) (contractError "invalid model ID")
  validateText "runtime input" r.inputText maxRuntimeInputChars false true
  ensure (1 ≤ r.maxOutputChars ∧ r.maxOutputChars ≤ (maxRuntimeOutputChars : Int))
    (contractError "invalid maximum output size")
  ensure (0 < r.timeoutSeconds ∧ r.timeoutSeconds ≤ maxRuntimeTimeoutSeconds)
    (contractError "invalid runtime timeout")

structure RuntimeGenerationRequest extends RequestFields where
  valid : toRequestFields.validate = .ok ()

/-! ## Stream events -/

/-- The fields of a `RuntimeStreamEvent`. -/
structure EventFields where
  operationId : Text
  sequence : Nat
  kind : StreamEventKind
  text : Option Text
  finishReason : Option FinishReason
  failureCode : Option FailureCode
deriving DecidableEq

/-- What the kind of an event says of its other fields. -/
def EventFields.validateKind (e : EventFields) : Result Unit :=
  match e.kind with
  | .start => ensure (e.sequence = 0 ∧ e.text = none ∧ e.finishReason = none ∧ e.failureCode = none)
      (contractError "invalid stream start event")
  | .delta => ensure (e.text ≠ none ∧ e.finishReason = none ∧ e.failureCode = none)
      (contractError "invalid stream delta event")
  | .complete => ensure (e.text = none ∧ e.finishReason ≠ none ∧ e.failureCode = none)
      (contractError "invalid stream completion event")
  | .error => ensure (e.text = none ∧ e.finishReason = none ∧ e.failureCode ≠ none)
      (contractError "invalid stream error event")
  | .cancelled =>
      ensure (e.text = none ∧ e.finishReason = none ∧ e.failureCode = some FailureCode.cancelled)
        (contractError "invalid stream cancellation event")

def EventFields.validate (e : EventFields) : Result Unit := do
  ensure (isOperationId e.operationId = true) (contractError "invalid runtime operation ID")
  match e.text with
  | some text => validateText "stream text" text maxRuntimeOutputChars false true
  | none => pure ()
  e.validateKind

structure RuntimeStreamEvent extends EventFields where
  valid : toEventFields.validate = .ok ()

/-- `RuntimeStreamEvent(…)`. -/
def newStreamEvent (fields : EventFields) : Result RuntimeStreamEvent :=
  match h : fields.validate with
  | .ok () => .ok ⟨fields, h⟩
  | .error e => .error e

/-- `len(event.text or "")`. -/
def EventFields.textLength (e : EventFields) : Nat := (e.text.getD []).length

/-! ## Transcripts -/

/-- The number of characters that a list of events carries. -/
def totalChars (events : List RuntimeStreamEvent) : Nat := (events.map fun e => e.textLength).sum

/-- `_validate_stream_transcript`. -/
def validateStreamTranscript (operationId : Text) (outcome : GenerationOutcome)
    (events : List RuntimeStreamEvent) (failureCode : Option FailureCode)
    (runtimeId : Option Text) : Result Unit := do
  ensure ((events.head?.map fun e => e.kind) = some StreamEventKind.start)
    (contractError "stream transcript must start with a start event")
  ensure ((events.map fun e => (e.operationId, e.sequence)) =
      (List.range events.length).map fun i => (operationId, i))
    (contractError "invalid stream transcript ordering")
  ensure (events.dropLast.all (fun e => !e.kind.isTerminal) = true)
    (contractError "stream transcript contains an early terminal event")
  ensure (totalChars events ≤ maxRuntimeOutputChars)
    (contractError "stream transcript output limit exceeded")
  let terminal := events.getLast?
  if outcome = .completed then
    ensure (runtimeId ≠ none ∧ (terminal.map fun e => e.kind) = some StreamEventKind.complete ∧
        failureCode = none)
      (contractError "invalid completed stream result")
  else
    let expectedKind := if outcome = .cancelled then StreamEventKind.cancelled else .error
    ensure ((terminal.map fun e => e.kind) = some expectedKind ∧ failureCode ≠ none)
      (contractError "invalid failed stream result")
    ensure ((outcome = .cancelled → failureCode = some FailureCode.cancelled) ∧
        (outcome = .timeout → failureCode = some FailureCode.timeout))
      (contractError "stream outcome and failure code disagree")
    ensure ((terminal.bind fun e => e.failureCode) = failureCode)
      (contractError "stream terminal and result failure codes disagree")

/-- The fields of a `RuntimeStreamResult`. -/
structure StreamResultFields where
  operationId : Text
  adapterId : Text
  runtimeId : Option Text
  modelId : Text
  outcome : GenerationOutcome
  events : List RuntimeStreamEvent
  failureCode : Option FailureCode

def StreamResultFields.validate (r : StreamResultFields) : Result Unit := do
  ensure (isOperationId r.operationId = true) (contractError "invalid runtime operation ID")
  ensure (isIdentifier r.adapterId = true) (contractError "invalid adapter ID")
  ensure (r.runtimeId.all isIdentifier = true) (contractError "invalid runtime ID")
  ensure (isIdentifier r.modelId = true) (contractError "invalid model ID")
  ensure (r.events.length ≤ maxRuntimeStreamEvents) (contractError "stream event limit exceeded")
  validateStreamTranscript r.operationId r.outcome r.events r.failureCode r.runtimeId

structure RuntimeStreamResult extends StreamResultFields where
  valid : toStreamResultFields.validate = .ok ()

/-- `RuntimeStreamResult(…)`. -/
def newStreamResult (fields : StreamResultFields) : Result RuntimeStreamResult :=
  match h : fields.validate with
  | .ok () => .ok ⟨fields, h⟩
  | .error e => .error e

theorem newStreamEvent_eq_ok {fields : EventFields} {event : RuntimeStreamEvent} :
    newStreamEvent fields = .ok event ↔ event.toEventFields = fields := by
  unfold newStreamEvent
  split
  · rename_i h
    constructor
    · rintro h
      cases h
      rfl
    · rintro rfl
      rfl
  · rename_i e h
    simp only [reduceCtorEq, false_iff]
    rintro rfl
    rw [event.valid] at h
    cases h

theorem newStreamResult_eq_ok {fields : StreamResultFields} {result : RuntimeStreamResult} :
    newStreamResult fields = .ok result ↔ result.toStreamResultFields = fields := by
  unfold newStreamResult
  split
  · rename_i h
    constructor
    · rintro h
      cases h
      rfl
    · rintro rfl
      rfl
  · rename_i e h
    simp only [reduceCtorEq, false_iff]
    rintro rfl
    rw [result.valid] at h
    cases h

/-- A result whose fields pass the checks is built. -/
theorem exists_newStreamResult {fields : StreamResultFields} (h : fields.validate = .ok ()) :
    ∃ result, newStreamResult fields = .ok result ∧ result.toStreamResultFields = fields :=
  ⟨⟨fields, h⟩, newStreamResult_eq_ok.2 rfl, rfl⟩

end DollState.Runtime
