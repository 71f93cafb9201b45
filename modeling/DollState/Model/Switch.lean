import Mathlib.Data.List.Dedup
import DollState.Audit.Append
import DollState.Library.Script
import DollState.Model.Calls
import DollState.Runtime.Generate

/-!
# Switching a model

`ModelSwitchService` makes another binding of a scope the active one: it probes the target, activates
it, probes it again and goes back to the binding that was active if the second probe fails. A switch
is a script: its reads, its probes and its transactions follow each other, and what the adapter does
in each of the calls on it is given as data.
-/

namespace DollState.Model

open Capability DollState.Runtime StateLib

def switchInvalid (message : String) : DollError := ⟨.modelSwitchValidation, message⟩

def rollbackError (message : String) : DollError := ⟨.modelSwitchRollback, message⟩

def maxProbeOutput : Nat := 2048

/-- `MODEL_SWITCH_PROBE_INPUT`. -/
def probeInput : Text :=
  ("purpose=local_model_switch_smoke_test\n" ++
    "Generate a brief plain-text acknowledgement that this local model can produce output. " ++
    "The response is discarded and grants no authority.").toList

/-- `^[A-Za-z0-9][A-Za-z0-9._:-]{0,95}$` matches the whole text. -/
def isSwitchOperation (value : Text) : Bool := isToken value && value.length ≤ 96

/-- `_operation_id`. -/
def switchOperation (value : Text) : Result Text := do
  ensure (isSwitchOperation value = true) (switchInvalid "operation ID is invalid")
  return value

/-- `_runtime_model_id`. -/
def runtimeModelId (value : Text) : Result Text := do
  ensure (isIdentifier value = true)
    (switchInvalid "bound model locator is not an adapter-facing model identifier")
  return value

/-- `validate_model_switch_probe_output`, of a text or `None`. -/
def validProbeOutput : Option Text → Bool
  | none => false
  | some value => strip value ≠ [] ∧ value.length ≤ maxProbeOutput ∧ '\x00' ∉ value

/-! ## What a switch takes from its surroundings -/

/-- What the adapter does during a probe, and what the boundary sees. -/
structure ProbeCall where
  looks : GenerateLooks
  adapter : GenerateAdapter

/-- What a switch takes from its surroundings: whether its connection may write, which adapters there
are, what they do in each call on them, and the surroundings of each of its transactions. -/
structure SwitchContext where
  readOnly : Bool
  registry : Registry Unit
  /-- `adapter.declaration()` for the active binding, the target and the activated binding -/
  activeDeclaration : Reply RuntimeAdapterDeclaration
  targetDeclaration : Reply RuntimeAdapterDeclaration
  activatedDeclaration : Reply RuntimeAdapterDeclaration
  preflight : ProbeCall
  postActivate : ProbeCall
  reserving : Surroundings
  smokeTest : Context
  activation : Context
  rollback : Context
  postFailed : Context
  completing : Surroundings

/-- The surroundings of an audit event of the switch. -/
def SwitchContext.audit (env : SwitchContext) (surroundings : Surroundings) : Surroundings :=
  { surroundings with readOnly := env.readOnly }

/-- The surroundings of a manifest call of the switch. -/
def SwitchContext.call (env : SwitchContext) (ctx : Context) : Context :=
  { ctx with readOnly := env.readOnly }

/-- The adapters, each of which answers as given. -/
def answering {α : Type} (registry : Registry Unit) (adapter : α) : Registry α where
  get adapterId := (registry.get adapterId).map fun _ => adapter
  valid adapterId _ h := by
    obtain ⟨u, hu, -⟩ := Option.map_eq_some_iff.1 h
    exact registry.valid adapterId u hu

/-- The error that an exception out of the boundary is. -/
def raised {α : Type} : Except Exc α → Result α
  | .ok a => .ok a
  | .error .interrupt => .error ⟨.interrupt, "interrupted"⟩
  | .error _ => .error (contractError "runtime boundary failed")

/-! ## Declarations and probes -/

section

variable [ModuleRules]

/-- `boundary.declaration`. -/
def boundaryDeclaration (registry : Registry Unit) (adapterId : Text)
    (reply : Reply RuntimeAdapterDeclaration) : Result (Option RuntimeAdapterDeclaration) := do
  let adapterId ← validateIdentifier "adapter ID" adapterId
  match registry.get adapterId with
  | none => return none
  | some _ => raised (declaration adapterId reply)

/-- `tuple(sorted({*declaration.supported_operations, "health", "cancel"}))`. -/
def declaredOperations (declared : RuntimeAdapterDeclaration) : List Text :=
  sortTexts (declared.supportedOperations.map Operation.text ++
    ["health".toList, "cancel".toList]).dedup

/-- What `_validate_adapter_declaration` compares. -/
def MatchesManifest (declared : RuntimeAdapterDeclaration) (content : RuntimeContent) : Prop :=
  declared.adapterId = content.adapterId ∧ declared.adapterVersion = content.adapterVersion ∧
    declared.runtimeClass = content.runtimeClass ∧
    declared.connectionKind.text = content.connectionKind ∧
    declaredOperations declared = content.operations ∧
    declared.offlineCapable = content.offlineCapable ∧
    declared.cloudFallback = content.cloudFallback ∧
    declared.automaticDownload = content.automaticDownload ∧
    runtimeFingerprint declared.adapterId declared.adapterVersion declared.runtimeClass
      declared.connectionKind.text (declaredOperations declared) declared.offlineCapable
      declared.cloudFallback declared.automaticDownload = content.declarationFingerprint ∧
    "generate".toList ∈ content.operations

instance (declared : RuntimeAdapterDeclaration) (content : RuntimeContent) :
    Decidable (MatchesManifest declared content) := by
  unfold MatchesManifest
  infer_instance

/-- `_validate_adapter_declaration`. -/
def validateAdapterDeclaration (registry : Registry Unit) (reply : Reply RuntimeAdapterDeclaration)
    (runtime : RuntimeManifestInfo) : Result Unit := do
  let declaration ← boundaryDeclaration registry runtime.content.adapterId reply
  let declared ← orFail (switchInvalid "bound local runtime adapter is unavailable") declaration
  ensure (MatchesManifest declared runtime.content)
    (switchInvalid "bound runtime declaration does not match the manifest")

omit [ModuleRules] in
variable [FloatAddition] in
/-- `_probe`: the code of its failure, if it fails. -/
def probe (registry : Registry Unit) (call : ProbeCall) (runtime : RuntimeManifestInfo)
    (model : ModelManifestInfo) (operationId : Text) : Result (Option FailureCode) := do
  let modelId ← runtimeModelId model.content.runtimePrivateLocator
  let request ← newGenerationRequest
    { operationId := operationId, modelId := modelId, inputText := probeInput,
      maxOutputChars := maxProbeOutput, timeoutSeconds := 60 }
  let result ← raised <|
    generate (answering registry call.adapter) call.looks runtime.content.adapterId request
  if result.outcome ≠ .completed then return some (result.failureCode.getD .adapterFailure)
  else if validProbeOutput result.outputText then return none
  else return some .invalidResponse

end

/-! ## Before the reservation -/

structure SwitchArgs where
  scopeType : Text
  scopeKey : Text
  targetBindingId : Text
  operationId : Text
  requireFallback : Bool

/-- What a switch has found when it reserves its operation. -/
structure Plan where
  operationId : Text
  active : ModelBindingInfo
  target : ModelBindingInfo
  runtime : RuntimeManifestInfo
  model : ModelManifestInfo

section

variable [PythonLibrary] [ModuleRules] [CaseLibrary]

/-- `_resolve_active`. -/
def resolveActive (registry : Registry Unit) (reply : Reply RuntimeAdapterDeclaration)
    (scopeType scopeKey : Text) :
    Reader (ModelBindingInfo × RuntimeManifestInfo × ModelManifestInfo) :=
  ReadProgram.catching (DollError.isA [.key, .modelManifestValidation])
      (switchInvalid "active local model binding is unavailable") do
    let (active, runtime, model) ← resolveActiveBinding scopeType scopeKey
    validateAdapterDeclaration registry reply runtime
    let _ ← runtimeModelId model.content.runtimePrivateLocator
    return (active, runtime, model)

/-- The checks of `_resolve_target`, of the target. -/
def checkTarget (active target : ModelBindingInfo) (requireFallback : Bool) : Result Unit := do
  ensure (target.envelope.id ≠ active.envelope.id) (switchInvalid "target binding is already active")
  ensure (target.content.scopeType = active.content.scopeType ∧
      target.content.scopeKey = active.content.scopeKey)
    (switchInvalid "target binding belongs to another scope")
  ensure (target.content.bindingState ∈
      [BindingState.candidate, .previous, .fallback, .disabled])
    (switchInvalid "target binding cannot be switched from its state")
  ensure (requireFallback = true → target.content.bindingState = .fallback ∧
      target.content.fallbackEligible = true ∧ target.content.fallbackPriority ≠ none ∧
      target.content.smokeTestStatus = .passed)
    (switchInvalid "target binding is not an eligible fallback")

/-- `_resolve_target`. -/
def resolveTarget (registry : Registry Unit) (reply : Reply RuntimeAdapterDeclaration)
    (active : ModelBindingInfo) (targetBindingId : Text) (requireFallback : Bool) :
    Reader (ModelBindingInfo × RuntimeManifestInfo × ModelManifestInfo) := do
  let (target, runtime, model) ←
    ReadProgram.catching (DollError.isA [.key, .modelManifestValidation])
      (switchInvalid "target local model binding is unavailable") (resolveBinding targetBindingId)
  checkTarget active target requireFallback
  validateAdapterDeclaration registry reply runtime
  let _ ← runtimeModelId model.content.runtimePrivateLocator
  return (target, runtime, model)

/-- `_require_unused_operation`. -/
def requireUnusedOperation (operationId : Text) : Reader Unit := do
  let used ← usedOperation operationId
  ensure (used = false)
    (DollError.mk .duplicateModelSwitchOperation "model switch operation ID already exists")

/-- `_switch`, up to the reservation of its operation. -/
def planSwitch (env : SwitchContext) (args : SwitchArgs) : Reader Plan := do
  ensure (env.readOnly = false)
    (DollError.mk .readOnlyState "state repository is open in read-only mode")
  let operationId ← switchOperation args.operationId
  let (active, _, _) ←
    resolveActive env.registry env.activeDeclaration args.scopeType args.scopeKey
  let (target, runtime, model) ← resolveTarget env.registry env.targetDeclaration active
    args.targetBindingId args.requireFallback
  requireUnusedOperation operationId
  return { operationId, active, target, runtime, model }

end

/-! ## The steps of a switch -/

inductive SwitchOutcome where
  | switched | preflightFailed | rolledBack
deriving DecidableEq, Repr

def SwitchOutcome.text : SwitchOutcome → Text
  | .switched => "switched".toList
  | .preflightFailed => "preflight_failed".toList
  | .rolledBack => "rolled_back".toList

structure ModelSwitchResult where
  operationId : Text
  scopeType : Text
  scopeKeyHash : Json
  targetBindingId : RecordId
  previousBindingId : RecordId
  activeBindingId : RecordId
  targetRuntimeManifestId : RecordId
  targetRuntimeManifestRevision : Int
  targetModelManifestId : RecordId
  targetModelManifestRevision : Int
  outcome : SwitchOutcome
  failureCode : Option FailureCode
  fallbackSelected : Bool

/-- A transaction of a switch: one of a manifest call, or one that appends an audit event. -/
inductive SwitchWrite where
  | manifest (w : Write)
  | append (surroundings : Surroundings) (args : AuditAppendArgs)

def SwitchWrite.commit [ModuleRules] [Audit.AuditRules] [FloatLibrary] :
    SwitchWrite → Database → Result Database
  | .manifest w => w.commit
  | .append surroundings args => Audit.append surroundings args

abbrev SwitchScript := Script StateQuery StateQuery.Answer SwitchWrite DollError

/-- The text of a failure code. -/
def failureText : FailureCode → Text
  | .adapterNotConfigured => "adapter_not_configured".toList
  | .adapterFailure => "adapter_failure".toList
  | .cancelled => "cancelled".toList
  | .invalidResponse => "invalid_response".toList
  | .modelNotFound => "model_not_found".toList
  | .resourceLimit => "resource_limit".toList
  | .runtimeUnavailable => "runtime_unavailable".toList
  | .timeout => "timeout".toList
  | .unsupportedOperation => "unsupported_operation".toList

section

variable [DigestLibrary]

def beginAction : Text := "model_switch.begin".toList

/-- The event of `_reserve_operation`. -/
def reservation (plan : Plan) (fallbackSelected : Bool) : AuditAppendArgs where
  action := beginAction
  result := .partialSuccess
  actorType := .user
  operationId := some plan.operationId
  actorId := none
  targetType := some "model_binding".toList
  targetId := some (uuidText plan.target.envelope.id)
  summary := none
  errorClass := none
  metadata := [("scope_type", .str plan.active.content.scopeType),
    ("scope_key_hash", scopeHash plan.active.content.scopeKey),
    ("active_binding_id", .str (uuidText plan.active.envelope.id)),
    ("fallback_selected", .bool fallbackSelected)]

omit [DigestLibrary] in
/-- The event of `_complete_audit`. -/
def completion (operationId : Text) (activeId targetId : RecordId) (outcome : SwitchOutcome)
    (failureCode : Option FailureCode) (fallbackSelected : Bool) : AuditAppendArgs where
  action := "model_switch.complete".toList
  result := if outcome = .switched then .success else .failed
  actorType := .system
  operationId := some operationId
  actorId := none
  targetType := some "model_binding".toList
  targetId := some (uuidText targetId)
  summary := none
  errorClass := none
  metadata := [("active_binding_id", .str (uuidText activeId)),
    ("target_binding_id", .str (uuidText targetId)), ("outcome", .str outcome.text),
    ("fallback_selected", .bool fallbackSelected)] ++
      (failureCode.map fun code => ("failure_code", Json.str (failureText code))).toList

/-- `_result`. -/
def switchResult (operationId : Text) (active previous target : ModelBindingInfo)
    (runtime : RuntimeManifestInfo) (model : ModelManifestInfo) (outcome : SwitchOutcome)
    (failureCode : Option FailureCode) (fallbackSelected : Bool) : ModelSwitchResult where
  operationId := operationId
  scopeType := active.content.scopeType
  scopeKeyHash := scopeHash active.content.scopeKey
  targetBindingId := target.envelope.id
  previousBindingId := previous.envelope.id
  activeBindingId := active.envelope.id
  targetRuntimeManifestId := runtime.envelope.id
  targetRuntimeManifestRevision := runtime.envelope.revision
  targetModelManifestId := model.envelope.id
  targetModelManifestRevision := model.envelope.revision
  outcome := outcome
  failureCode := failureCode
  fallbackSelected := fallbackSelected

end

section

variable [PythonLibrary] [ModuleRules] [CaseLibrary] [DigestLibrary]

/-- A manifest call: its reads, its transaction, and the binding as it is read back. -/
def changeBinding (bindingId : RecordId) (prepare : Reader Write) : SwitchScript ModelBindingInfo := do
  let write ← prepare
  Script.commit (.manifest write)
  getBinding (uuidText bindingId)

/-- The user calls on behalf of an operation, with a suffix of its identifier. -/
def onBehalf (plan : Plan) (suffix : String) : Caller :=
  ⟨.user, some (plan.operationId ++ suffix.toList)⟩

/-- The errors that a switch takes for a failure of the activated binding. -/
def postFailureOf (e : DollError) : Result FailureCode :=
  if DollError.isA [.key, .modelManifestValidation, .modelSwitchValidation] e then
    .ok .invalidResponse
  else .error e

/-- The binding that is active after an activation, and the failure of its probe. -/
structure Checked where
  resolved : ModelBindingInfo
  runtime : RuntimeManifestInfo
  model : ModelManifestInfo
  failure : Option FailureCode

variable [FloatAddition]

/-- What the activated binding is asked for, once it has been resolved. -/
def checkActivated (env : SwitchContext) (plan : Plan) (activated resolved : ModelBindingInfo)
    (runtime : RuntimeManifestInfo) (model : ModelManifestInfo) : Result (Option FailureCode) := do
  ensure (resolved.envelope.id = activated.envelope.id)
    (switchInvalid "activated binding did not become scope active")
  probe env.registry env.postActivate runtime model (plan.operationId ++ ".post-activate".toList)

/-- The `try` statement after an activation. -/
def recheck (env : SwitchContext) (plan : Plan) (activated : ModelBindingInfo) :
    SwitchScript Checked := do
  let resolution ← (Script.reading <| resolveActive env.registry env.activatedDeclaration
    plan.active.content.scopeType plan.active.content.scopeKey).attempt
  match resolution with
  | .error e => return ⟨activated, plan.runtime, plan.model, some (← postFailureOf e)⟩
  | .ok (resolved, runtime, model) =>
    match checkActivated env plan activated resolved runtime model with
    | .error e => return ⟨resolved, runtime, model, some (← postFailureOf e)⟩
    | .ok failure => return ⟨resolved, runtime, model, failure⟩

omit [FloatAddition] in
/-- The body of the `try` statement that undoes an activation: the restored binding and the one that
was rolled back. -/
def restore (env : SwitchContext) (plan : Plan) (activated : ModelBindingInfo) :
    SwitchScript (ModelBindingInfo × ModelBindingInfo) := do
  let rolledBack ← changeBinding activated.envelope.id <|
    rollbackBinding (env.call env.rollback) (uuidText activated.envelope.id)
      activated.envelope.revision "post-activation smoke test failed".toList
      (onBehalf plan ".rollback")
  let rolledBack ← changeBinding rolledBack.envelope.id <|
    setSmokeTest (env.call env.postFailed) (uuidText rolledBack.envelope.id)
      rolledBack.envelope.revision .failed (onBehalf plan ".post-failed")
  let (restored, _, _) ← ReadProgram.catching (DollError.isA [.key, .modelManifestValidation])
    (rollbackError "restored binding could not be revalidated")
    (resolveActiveBinding plan.active.content.scopeType plan.active.content.scopeKey)
  ensure (restored.envelope.id = plan.active.envelope.id)
    (rollbackError "previous binding was not restored")
  return (restored, rolledBack)

/-- The handlers of that statement. -/
def asRollbackError (e : DollError) : DollError :=
  if e.kind = .modelSwitchRollback then e
  else rollbackError "model switch rollback did not complete"

omit [FloatAddition] in
/-- The end of a switch: its second audit event, about the target, and its result. -/
def complete (env : SwitchContext) (plan : Plan) (targetId : RecordId)
    (active target : ModelBindingInfo) (runtime : RuntimeManifestInfo) (model : ModelManifestInfo)
    (outcome : SwitchOutcome) (failureCode : Option FailureCode) (fallbackSelected : Bool) :
    SwitchScript ModelSwitchResult := do
  Script.commit (.append (env.audit env.completing)
    (completion plan.operationId active.envelope.id targetId outcome failureCode fallbackSelected))
  return switchResult plan.operationId active plan.active target runtime model outcome failureCode
    fallbackSelected

/-- The end of a switch whose activation has been checked. -/
def settle (env : SwitchContext) (plan : Plan) (target activated : ModelBindingInfo)
    (fallbackSelected : Bool) : SwitchScript ModelSwitchResult := do
  let checked ← recheck env plan activated
  match checked.failure with
  | none =>
    complete env plan target.envelope.id checked.resolved checked.resolved checked.runtime
      checked.model .switched none fallbackSelected
  | some code => do
    let (restored, rolledBack) ← (restore env plan activated).mapError asRollbackError
    complete env plan rolledBack.envelope.id restored rolledBack checked.runtime checked.model
      .rolledBack (some code) fallbackSelected

/-- `_switch`, from the reservation of its operation on. -/
def runSwitch (env : SwitchContext) (plan : Plan) (fallbackSelected : Bool) :
    SwitchScript ModelSwitchResult := do
  let failure ← probe env.registry env.preflight plan.runtime plan.model
    (plan.operationId ++ ".preflight".toList)
  let target := plan.target
  match failure with
  | some code => do
    let target ← changeBinding target.envelope.id <|
      setSmokeTest (env.call env.smokeTest) (uuidText target.envelope.id) target.envelope.revision
        .failed (onBehalf plan ".smoke-failed")
    complete env plan target.envelope.id plan.active target plan.runtime plan.model
      .preflightFailed (some code) fallbackSelected
  | none => do
    let target ← changeBinding target.envelope.id <|
      setSmokeTest (env.call env.smokeTest) (uuidText target.envelope.id) target.envelope.revision
        .passed (onBehalf plan ".smoke-passed")
    let activated ← changeBinding target.envelope.id <|
      activateBinding (env.call env.activation) (uuidText target.envelope.id)
        target.envelope.revision [] (onBehalf plan ".activate")
    settle env plan target activated fallbackSelected

/-- `_switch`. -/
def switch (env : SwitchContext) (args : SwitchArgs) : SwitchScript ModelSwitchResult := do
  let plan ← planSwitch env args
  Script.commit (.append (env.audit env.reserving) (reservation plan args.requireFallback))
  runSwitch env plan args.requireFallback

/-- `switch_binding`. -/
def switchBinding (env : SwitchContext) (scopeType scopeKey targetBindingId operationId : Text) :
    SwitchScript ModelSwitchResult :=
  switch env ⟨scopeType, scopeKey, targetBindingId, operationId, false⟩

/-- `switch_to_fallback`. -/
def switchToFallback (env : SwitchContext) (scopeType scopeKey targetBindingId operationId : Text) :
    SwitchScript ModelSwitchResult :=
  switch env ⟨scopeType, scopeKey, targetBindingId, operationId, true⟩

end

end DollState.Model
