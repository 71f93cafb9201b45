import DollState.Runtime.Contract

/-!
# The local runtime boundary

`LocalRuntimeBoundary` calls an adapter and turns whatever the adapter does into a normalized result.
What happens during a call is given as data: what each call on the adapter comes to, and what the
boundary sees each time it looks at the cancellation token and at its clock.
-/

namespace DollState.Runtime

open StateLib

/-! ## What an adapter does -/

/-- An exception that leaves the code of an adapter. -/
inductive Exc where
  /-- `RuntimeAdapterFailure(code)` -/
  | adapterFailure (code : FailureCode)
  /-- any other `Exception` -/
  | exception
  /-- a `BaseException` that is not an `Exception` -/
  | interrupt
deriving DecidableEq, Repr

/-- What a call on an adapter comes to: an exception, or a value, `none` when it is not an instance
of the class that the boundary asks for. -/
abbrev Reply (α : Type) := Except Exc (Option α)

/-- What the boundary sees when it looks at the cancellation token and at its clock. -/
structure Look where
  isCancelled : Bool
  now : Rat

/-- How a stream ends: it stops, and the boundary looks once more, or it raises. -/
inductive StreamEnd where
  | stops (look : Look)
  | raises (exc : Exc)

/-- The iteration over a stream: each value it yields, `none` for one that is not an event, with what
the boundary then sees, and the end. -/
structure Iteration where
  items : List (Look × Option RuntimeStreamEvent)
  ending : StreamEnd

/-- The answers to the calls that `_prepare` makes on an adapter. -/
structure PrepareReplies where
  /-- `adapter.declaration()` in `declaration` -/
  declaration : Reply RuntimeAdapterDeclaration
  /-- `adapter.declaration()` in `_safe_health` -/
  healthDeclaration : Reply RuntimeAdapterDeclaration
  health : Reply RuntimeHealth

/-- What an adapter does during one call of `stream`. -/
structure StreamAdapter extends PrepareReplies where
  stream : Reply Iteration

/-- A registry, whose adapters have identifiers. -/
structure Registry (α : Type) where
  get : Text → Option α
  valid : ∀ adapterId adapter, get adapterId = some adapter → isIdentifier adapterId = true

/-- What a call takes from its surroundings: the clock when it starts, and what it sees at the
beginning and at the end of `_prepare`. -/
structure CallLooks where
  started : Rat
  entry : Look
  prepared : Look

/-- Addition of floats. -/
class FloatAddition where
  add : Rat → Rat → Rat

/-! ## Deadlines -/

/-- `RuntimeAdapterContext`. -/
structure RuntimeAdapterContext where
  operationId : Text
  deadlineMonotonic : Rat

/-- `_context`. -/
def context [FloatAddition] (operationId : Text) (timeoutSeconds started : Rat) :
    Result RuntimeAdapterContext := do
  let operation ← validateOperationId operationId
  ensure (0 < timeoutSeconds ∧ timeoutSeconds ≤ maxRuntimeTimeoutSeconds)
    (contractError "invalid runtime timeout")
  return { operationId := operation, deadlineMonotonic := FloatAddition.add started timeoutSeconds }

/-- `_post_failure`. -/
def postFailure (context : RuntimeAdapterContext) (look : Look) : Option FailureCode :=
  if look.isCancelled then some .cancelled
  else if context.deadlineMonotonic ≤ look.now then some .timeout
  else none

/-! ## Preparation -/

/-- `except Exception: return otherwise`: an exception that is no interrupt becomes `otherwise`. -/
def exceptException {α : Type} (otherwise : α) : Except Exc α → Except Exc α
  | .error .interrupt => .error .interrupt
  | .error _ => .ok otherwise
  | .ok value => .ok value

/-- `declaration`. -/
def declaration (adapterId : Text) (reply : Reply RuntimeAdapterDeclaration) :
    Reply RuntimeAdapterDeclaration :=
  exceptException none <| reply.map fun value => value.filter fun d => d.adapterId = adapterId

/-- `_unavailable_health`, as far as it is used: the code of its failure. -/
inductive SafeHealth where
  | unavailable (code : FailureCode)
  | health (health : RuntimeHealth)

/-- `_safe_health`. -/
def safeHealth (adapterId : Text) (replies : PrepareReplies) : Except Exc SafeHealth :=
  exceptException (.unavailable .adapterFailure) do
    let declaration ← replies.healthDeclaration
    let health ← replies.health
    match declaration, health with
    | some declaration, some health =>
      if declaration.adapterId = adapterId ∧ health.adapterId = adapterId then return .health health
      else return .unavailable .adapterFailure
    | _, _ => return .unavailable .adapterFailure

/-- `_prepare`: a failure code, or the health of the adapter. -/
def prepare {α : Type} (adapterId : Text) (operation : Operation) (context : RuntimeAdapterContext)
    (looks : CallLooks) (replies : α → PrepareReplies) (adapter : Option α) :
    Except Exc (FailureCode ⊕ (α × RuntimeHealth)) :=
  match postFailure context looks.entry with
  | some code => return .inl code
  | none =>
    match adapter with
    | none => return .inl .adapterNotConfigured
    | some adapter => do
      match ← declaration adapterId (replies adapter).declaration with
      | none => return .inl .adapterFailure
      | some declared =>
        if operation ∉ declared.supportedOperations then return .inl .unsupportedOperation
        else match ← safeHealth adapterId (replies adapter) with
          | .unavailable code => return .inl code
          | .health health =>
            if health.state = .unavailable then
              return .inl (health.failureCode.getD .runtimeUnavailable)
            else match postFailure context looks.prepared with
              | some code => return .inl code
              | none => return .inr (adapter, health)

/-! ## Streaming -/

/-- `_prefix_before_terminal`. -/
def prefixBeforeTerminal (events : List RuntimeStreamEvent) : List RuntimeStreamEvent :=
  events.takeWhile fun e => !e.kind.isTerminal

/-- The outcome of a failure, and the kind of the event that ends its transcript. -/
def failureOutcome : FailureCode → GenerationOutcome × StreamEventKind
  | .cancelled => (.cancelled, .cancelled)
  | .timeout => (.timeout, .error)
  | _ => (.failed, .error)

/-- The event that a failure transcript starts with when it keeps none. -/
def startEvent (operationId : Text) : EventFields where
  operationId := operationId
  sequence := 0
  kind := .start
  text := none
  finishReason := none
  failureCode := none

/-- The event that ends a failure transcript. -/
def failureEvent (operationId : Text) (sequence : Nat) (code : FailureCode) : EventFields where
  operationId := operationId
  sequence := sequence
  kind := (failureOutcome code).2
  text := none
  finishReason := none
  failureCode := some code

/-- The events that a failure transcript keeps. -/
def safeEvents (events : List RuntimeStreamEvent) : List RuntimeStreamEvent :=
  (prefixBeforeTerminal events).take (maxRuntimeStreamEvents - 1)

/-- What a failure transcript puts before its terminal event. -/
def leadingEvents (operationId : Text) (events : List RuntimeStreamEvent) :
    Result (List RuntimeStreamEvent) :=
  if safeEvents events = [] then do
    let start ← newStreamEvent (startEvent operationId)
    return [start]
  else return safeEvents events

/-- `_stream_failure`. -/
def streamFailure (adapterId : Text) (request : RuntimeGenerationRequest) (runtimeId : Option Text)
    (code : FailureCode) (events : List RuntimeStreamEvent) : Result RuntimeStreamResult := do
  let leading ← leadingEvents request.operationId events
  let terminal ← newStreamEvent (failureEvent request.operationId leading.length code)
  newStreamResult
    { operationId := request.operationId, adapterId := adapterId, runtimeId := runtimeId,
      modelId := request.modelId, outcome := (failureOutcome code).1,
      events := leading ++ [terminal], failureCode := some code }

/-- An error of the boundary's own code inside a `try`. -/
def inTry {α : Type} : Result α → Except Exc α
  | .ok value => .ok value
  | .error _ => .error .exception

section Stream

variable (adapterId : Text) (request : RuntimeGenerationRequest) (context : RuntimeAdapterContext)
  (runtimeId : Option Text)

/-- The loop over a stream and what follows it inside the `try`, from the events accepted so far:
the events accepted at the end, and what the `try` block returns or raises. -/
def streamLoop (ending : StreamEnd) : List RuntimeStreamEvent →
    List (Look × Option RuntimeStreamEvent) →
    List RuntimeStreamEvent × Except Exc RuntimeStreamResult
  | events, [] =>
    match ending with
    | .raises exc => (events, .error exc)
    | .stops look =>
      match postFailure context look with
      | some code => (events, inTry (streamFailure adapterId request runtimeId code events))
      | none => (events, inTry (newStreamResult
          { operationId := request.operationId, adapterId := adapterId, runtimeId := runtimeId,
            modelId := request.modelId, outcome := .completed, events := events,
            failureCode := none }))
  | events, (look, yielded) :: items =>
    match postFailure context look with
    | some code => (events, inTry (streamFailure adapterId request runtimeId code events))
    | none =>
      match yielded with
      | none => (events, .error .exception)
      | some event =>
        if event.operationId ≠ request.operationId ∨ event.sequence ≠ events.length then
          (events, .error .exception)
        else if maxRuntimeStreamEvents < (events ++ [event]).length ∨
            request.maxOutputChars < totalChars (events ++ [event]) then
          (events ++ [event],
            inTry (streamFailure adapterId request runtimeId .resourceLimit events))
        else streamLoop ending (events ++ [event]) items

/-- The body of the `try` statement of `stream`. -/
def streamBody (stream : Reply Iteration) :
    List RuntimeStreamEvent × Except Exc RuntimeStreamResult :=
  match stream with
  | .error exc => ([], .error exc)
  | .ok none => ([], .error .exception)
  | .ok (some iteration) =>
    streamLoop adapterId request context runtimeId iteration.ending [] iteration.items

/-- The handlers of the `try` statement of `stream`. -/
def handleStream (events : List RuntimeStreamEvent) :
    Except Exc RuntimeStreamResult → Except Exc RuntimeStreamResult
  | .ok result => .ok result
  | .error (.adapterFailure code) => inTry (streamFailure adapterId request runtimeId code events)
  | .error .exception => inTry (streamFailure adapterId request runtimeId
      (if events = [] then .adapterFailure else .invalidResponse) events)
  | .error .interrupt => .error .interrupt

/-- The `try` statement of `stream`. -/
def streamEvents (stream : Reply Iteration) : Except Exc RuntimeStreamResult :=
  let body := streamBody adapterId request context runtimeId stream
  handleStream adapterId request runtimeId body.1 body.2

end Stream

/-- `stream`. -/
def stream [FloatAddition] (registry : Registry StreamAdapter) (looks : CallLooks)
    (adapterId : Text) (request : RuntimeGenerationRequest) : Except Exc RuntimeStreamResult := do
  let normalized ← inTry (validateIdentifier "adapter ID" adapterId)
  let context ← inTry (context request.operationId request.timeoutSeconds looks.started)
  match ← prepare normalized .stream context looks StreamAdapter.toPrepareReplies
      (registry.get normalized) with
  | .inl code => inTry (streamFailure normalized request none code [])
  | .inr (adapter, health) =>
    streamEvents normalized request context health.runtimeId adapter.stream

end DollState.Runtime
