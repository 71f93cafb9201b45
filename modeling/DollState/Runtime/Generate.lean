import DollState.Runtime.StreamIsolation

/-!
# Generation

`LocalRuntimeBoundary.generate`: one request and one response. Whatever the adapter answers or
raises, the call returns a normalized result, but for a `BaseException` that is not an `Exception`,
which leaves it (`generate_eq_error`).
-/

namespace DollState.Runtime

open StateLib

/-! ## Responses and results -/

/-- The fields of a `RuntimeAdapterResponse`. -/
structure ResponseFields where
  runtimeId : Text
  modelId : Text
  outputText : Text
  finishReason : FinishReason

def ResponseFields.validate (r : ResponseFields) : Result Unit := do
  ensure (isIdentifier r.runtimeId = true) (contractError "invalid runtime ID")
  ensure (isIdentifier r.modelId = true) (contractError "invalid model ID")
  validateText "runtime output" r.outputText maxRuntimeOutputChars true true

structure RuntimeAdapterResponse extends ResponseFields where
  valid : toResponseFields.validate = .ok ()

/-- The fields of a `RuntimeGenerationResult`. -/
structure GenerationFields where
  operationId : Text
  adapterId : Text
  runtimeId : Option Text
  modelId : Text
  outcome : GenerationOutcome
  outputText : Option Text
  finishReason : Option FinishReason
  failureCode : Option FailureCode

/-- What the outcome of a result says of its other fields. -/
def GenerationFields.validateOutcome (r : GenerationFields) : Result Unit :=
  if r.outcome = .completed then
    ensure (r.runtimeId ≠ none ∧ r.outputText ≠ none ∧ r.finishReason ≠ none ∧ r.failureCode = none)
      (contractError "invalid completed generation result")
  else do
    ensure (r.outputText = none ∧ r.finishReason = none ∧ r.failureCode ≠ none)
      (contractError "invalid failed generation result")
    ensure ((r.outcome = .cancelled → r.failureCode = some FailureCode.cancelled) ∧
        (r.outcome = .timeout → r.failureCode = some FailureCode.timeout))
      (contractError "generation outcome and failure code disagree")

def GenerationFields.validate (r : GenerationFields) : Result Unit := do
  ensure (isOperationId r.operationId = true) (contractError "invalid runtime operation ID")
  ensure (isIdentifier r.adapterId = true) (contractError "invalid adapter ID")
  ensure (r.runtimeId.all isIdentifier = true) (contractError "invalid runtime ID")
  ensure (isIdentifier r.modelId = true) (contractError "invalid model ID")
  match r.outputText with
  | some text => validateText "runtime output" text maxRuntimeOutputChars true true
  | none => pure ()
  r.validateOutcome

structure RuntimeGenerationResult extends GenerationFields where
  valid : toGenerationFields.validate = .ok ()

/-- `RuntimeGenerationResult(…)`. -/
def newGenerationResult (fields : GenerationFields) : Result RuntimeGenerationResult :=
  match h : fields.validate with
  | .ok () => .ok ⟨fields, h⟩
  | .error e => .error e

/-- `RuntimeGenerationRequest(…)`. -/
def newGenerationRequest (fields : RequestFields) : Result RuntimeGenerationRequest :=
  match h : fields.validate with
  | .ok () => .ok ⟨fields, h⟩
  | .error e => .error e

theorem exists_newGenerationResult {fields : GenerationFields} (h : fields.validate = .ok ()) :
    ∃ result, newGenerationResult fields = .ok result := by
  unfold newGenerationResult
  split
  · exact ⟨_, rfl⟩
  · rename_i e he
    cases h.symm.trans he

theorem exists_newGenerationRequest {fields : RequestFields} (h : fields.validate = .ok ()) :
    ∃ request, newGenerationRequest fields = .ok request := by
  unfold newGenerationRequest
  split
  · exact ⟨_, rfl⟩
  · rename_i e he
    cases h.symm.trans he

/-! ## The call -/

/-- What an adapter does during one call of `generate`. -/
structure GenerateAdapter extends PrepareReplies where
  generate : Reply RuntimeAdapterResponse

/-- What a call of `generate` sees, the last time after the adapter has answered. -/
structure GenerateLooks extends CallLooks where
  answered : Look

/-- `_generation_failure`. -/
def generationFailure (adapterId : Text) (request : RuntimeGenerationRequest)
    (runtimeId : Option Text) (code : FailureCode) : Result RuntimeGenerationResult :=
  newGenerationResult
    { operationId := request.operationId, adapterId := adapterId, runtimeId := runtimeId,
      modelId := request.modelId, outcome := (failureOutcome code).1, outputText := none,
      finishReason := none, failureCode := some code }

/-- What `generate` makes of the answer of an adapter. -/
def handleGeneration (adapterId : Text) (request : RuntimeGenerationRequest)
    (context : RuntimeAdapterContext) (runtimeId : Option Text) (answered : Look) :
    Reply RuntimeAdapterResponse → Except Exc RuntimeGenerationResult
  | .error .interrupt => .error .interrupt
  | .error (.adapterFailure code) => inTry (generationFailure adapterId request runtimeId code)
  | .error .exception => inTry (generationFailure adapterId request runtimeId .adapterFailure)
  | .ok none => inTry (generationFailure adapterId request runtimeId .invalidResponse)
  | .ok (some response) =>
    if some response.runtimeId ≠ runtimeId ∨ response.modelId ≠ request.modelId ∨
        request.maxOutputChars < response.outputText.length then
      inTry (generationFailure adapterId request runtimeId .invalidResponse)
    else match postFailure context answered with
      | some code => inTry (generationFailure adapterId request runtimeId code)
      | none => inTry (newGenerationResult
          { operationId := request.operationId, adapterId := adapterId,
            runtimeId := some response.runtimeId, modelId := request.modelId, outcome := .completed,
            outputText := some response.outputText, finishReason := some response.finishReason,
            failureCode := none })

/-- `generate`. -/
def generate [FloatAddition] (registry : Registry GenerateAdapter) (looks : GenerateLooks)
    (adapterId : Text) (request : RuntimeGenerationRequest) : Except Exc RuntimeGenerationResult := do
  let normalized ← inTry (validateIdentifier "adapter ID" adapterId)
  let context ← inTry (context request.operationId request.timeoutSeconds looks.started)
  match ← prepare normalized .generate context looks.toCallLooks GenerateAdapter.toPrepareReplies
      (registry.get normalized) with
  | .inl code => inTry (generationFailure normalized request none code)
  | .inr (adapter, health) =>
    handleGeneration normalized request context health.runtimeId looks.answered adapter.generate

/-! ## What leaves the boundary -/

theorem exceptException_eq_error {α : Type} {otherwise : α} {x : Except Exc α} {exc : Exc}
    (h : exceptException otherwise x = .error exc) : exc = .interrupt := by
  match x, h with
  | .error .interrupt, h => exact (Except.error.inj h).symm

theorem prepare_eq_error {α : Type} {adapterId : Text} {operation : Operation}
    {context : RuntimeAdapterContext} {looks : CallLooks} {replies : α → PrepareReplies}
    {adapter : Option α} {exc : Exc}
    (h : prepare adapterId operation context looks replies adapter = .error exc) :
    exc = .interrupt := by
  unfold prepare at h
  split at h
  · cases h
  split at h
  · cases h
  rw [bind_eq_error] at h
  rcases h with h | ⟨declared, -, h⟩
  · exact exceptException_eq_error h
  split at h
  · cases h
  split at h
  · cases h
  rw [bind_eq_error] at h
  rcases h with h | ⟨health, -, h⟩
  · exact exceptException_eq_error h
  split at h
  · cases h
  split at h
  · cases h
  split at h <;> cases h

theorem exists_generationFailure {adapterId : Text} {runtimeId : Option Text}
    (request : RuntimeGenerationRequest) (code : FailureCode)
    (hadapter : isIdentifier adapterId = true) (hruntime : runtimeId.all isIdentifier = true) :
    ∃ result, generationFailure adapterId request runtimeId code = .ok result := by
  obtain ⟨hoperation, hmodel, -⟩ := request.checks
  refine exists_newGenerationResult ?_
  simp only [GenerationFields.validate, ensure_of hoperation, ensure_of hadapter, ensure_of hruntime,
    ensure_of hmodel, ok_bind]
  cases code <;> rfl

theorem inTry_generationFailure {adapterId : Text} {runtimeId : Option Text}
    {request : RuntimeGenerationRequest} {code : FailureCode} {exc : Exc}
    (hadapter : isIdentifier adapterId = true) (hruntime : runtimeId.all isIdentifier = true) :
    inTry (generationFailure adapterId request runtimeId code) ≠ .error exc := by
  obtain ⟨result, hresult⟩ := exists_generationFailure request code hadapter hruntime
  rw [hresult]
  nofun

theorem handleGeneration_eq_error {adapterId : Text} {runtimeId : Option Text}
    {request : RuntimeGenerationRequest} {context : RuntimeAdapterContext} {answered : Look}
    {reply : Reply RuntimeAdapterResponse} {exc : Exc} (hadapter : isIdentifier adapterId = true)
    (hruntime : runtimeId.all isIdentifier = true)
    (h : handleGeneration adapterId request context runtimeId answered reply = .error exc) :
    exc = .interrupt := by
  unfold handleGeneration at h
  split at h
  · exact (Except.error.inj h).symm
  · exact absurd h (inTry_generationFailure hadapter hruntime)
  · exact absurd h (inTry_generationFailure hadapter hruntime)
  · exact absurd h (inTry_generationFailure hadapter hruntime)
  · rename_i response
    split at h
    · exact absurd h (inTry_generationFailure hadapter hruntime)
    split at h
    · exact absurd h (inTry_generationFailure hadapter hruntime)
    -- a response that has passed its own checks makes a result that passes its checks
    obtain ⟨hoperation, hmodel, -⟩ := request.checks
    obtain ⟨hresponse, htext⟩ := check_bind_eq_ok.1 response.valid
    obtain ⟨-, htext⟩ := check_bind_eq_ok.1 htext
    have hid : (some response.runtimeId).all isIdentifier = true := ensure_eq_ok.1 hresponse
    obtain ⟨result, hresult⟩ := @exists_newGenerationResult
      { operationId := request.operationId, adapterId := adapterId,
        runtimeId := some response.runtimeId, modelId := request.modelId, outcome := .completed,
        outputText := some response.outputText, finishReason := some response.finishReason,
        failureCode := none } (by
      simp only [GenerationFields.validate, ensure_of hoperation, ensure_of hadapter, ensure_of hid,
        ensure_of hmodel, ok_bind, htext]
      rfl)
    rw [hresult] at h
    cases h

/-- All that leaves `generate` is a `BaseException` that is not an `Exception`. -/
theorem generate_eq_error [FloatAddition] {registry : Registry GenerateAdapter}
    {looks : GenerateLooks} {adapterId : Text} {request : RuntimeGenerationRequest} {exc : Exc}
    (hadapter : isIdentifier adapterId = true)
    (h : generate registry looks adapterId request = .error exc) : exc = .interrupt := by
  have hnormalized : inTry (validateIdentifier "adapter ID" adapterId) = .ok adapterId := by
    rw [validateIdentifier, ensure_of hadapter]
    rfl
  have hcontext : inTry (context request.operationId request.timeoutSeconds looks.started) =
      .ok (callContext request looks.toCallLooks) := by
    rw [context_eq]
    rfl
  rw [generate, hnormalized, ok_bind, hcontext, ok_bind, bind_eq_error] at h
  rcases h with h | ⟨prepared, -, h⟩
  · exact prepare_eq_error h
  cases prepared with
  | inl code => exact absurd h (inTry_generationFailure hadapter rfl)
  | inr prepared =>
    exact handleGeneration_eq_error hadapter prepared.2.isIdentifier_runtimeId h

end DollState.Runtime
