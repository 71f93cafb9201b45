import Mathlib.Algebra.Order.Ring.Rat
import Mathlib.Tactic.Linarith
import DollState.Credential.Exact

/-!
# What a call of the broker reports

Whatever the adapter, the handler and the audit sink do, `execute` returns a result, and its result,
its audit events and what it has really done agree (`execute_truthful`), as long as the clocks give
readings that do not go back and no one else closes the material that the adapter has handed out.
-/

namespace DollState.Credential

open StateLib ReadProgram

/-! ## What a trace amounts to -/

/-- The event that the audit sink has accepted. -/
def acceptedEvent : Event Effect Effect.Answer → Option CredentialAuditEvent
  | ⟨.record event, (true : Bool)⟩ => some event
  | _ => none

/-- The events that the audit sink has accepted. -/
def accepted (t : Trace) : List CredentialAuditEvent := t.filterMap acceptedEvent

/-- The readings of the broker's clock. -/
def reading : Event Effect Effect.Answer → Option Rat
  | ⟨.clock, answer⟩ => answer
  | _ => none

def readings (t : Trace) : List Rat := t.filterMap reading

/-- The materials that are still open, when a call has handed one out or closed one. -/
def outstanding (materials : List MaterialId) : Event Effect Effect.Answer → List MaterialId
  | ⟨.lookup _ _ _, LookupAnswer.material material⟩ => material :: materials
  | ⟨.close material, _⟩ => materials.filter (· ≠ material)
  | _ => materials

/-- A material that was open stays open until it is closed. -/
def Held (t : Trace) : Prop := ∀ before between e after material,
  t = before ++ ⟨.isClosed material, false⟩ :: (between ++ e :: after) →
    (∀ e' ∈ between, e'.1 ≠ .close material) →
      e ≠ ⟨.isClosed material, true⟩ ∧ e ≠ ⟨.borrow material, false⟩

/-- The clocks give readings, and those of the broker's clock do not go back. -/
structure Timed (t : Trace) : Prop where
  clock : ∀ answer, ⟨.clock, answer⟩ ∈ t → ∃ now : Rat, answer = some now
  authorityClock : ∀ answer, ⟨.authorityClock, answer⟩ ∈ t → ∃ now : Rat, answer = some now
  storeClock : ∀ answer, ⟨.storeClock, answer⟩ ∈ t → ∃ now : Rat, answer = some now
  nondecreasing : (readings t).Pairwise (· ≤ ·)

/-- What is assumed of the clocks and of the materials. -/
structure Steady (t : Trace) : Prop extends Timed t where
  nonneg : ∀ now : Rat, ⟨.clock, some now⟩ ∈ t → 0 ≤ now
  authority_nonneg : ∀ now : Rat, ⟨.authorityClock, some now⟩ ∈ t → 0 ≤ now
  held : Held t

theorem Held.left {t t' : Trace} (h : Held (t ++ t')) : Held t := by
  intro before between e after material ht hquiet
  refine h before between e (after ++ t') material ?_ hquiet
  rw [ht]
  simp

theorem Held.right {t t' : Trace} (h : Held (t ++ t')) : Held t' := by
  intro before between e after material ht hquiet
  refine h (t ++ before) between e after material ?_ hquiet
  rw [ht]
  simp

theorem readings_append (t t' : Trace) : readings (t ++ t') = readings t ++ readings t' :=
  List.filterMap_append ..

theorem Steady.left {t t' : Trace} (h : Steady (t ++ t')) : Steady t where
  clock answer hmem := h.clock answer (List.mem_append_left _ hmem)
  authorityClock answer hmem := h.authorityClock answer (List.mem_append_left _ hmem)
  storeClock answer hmem := h.storeClock answer (List.mem_append_left _ hmem)
  nondecreasing := (List.pairwise_append.1 (readings_append t t' ▸ h.nondecreasing)).1
  nonneg now hmem := h.nonneg now (List.mem_append_left _ hmem)
  authority_nonneg now hmem := h.authority_nonneg now (List.mem_append_left _ hmem)
  held := h.held.left

theorem Steady.right {t t' : Trace} (h : Steady (t ++ t')) : Steady t' where
  clock answer hmem := h.clock answer (List.mem_append_right _ hmem)
  authorityClock answer hmem := h.authorityClock answer (List.mem_append_right _ hmem)
  storeClock answer hmem := h.storeClock answer (List.mem_append_right _ hmem)
  nondecreasing := (List.pairwise_append.1 (readings_append t t' ▸ h.nondecreasing)).2.1
  nonneg now hmem := h.nonneg now (List.mem_append_right _ hmem)
  authority_nonneg now hmem := h.authority_nonneg now (List.mem_append_right _ hmem)
  held := h.held.right

theorem Steady.tail {e : Event Effect Effect.Answer} {t : Trace} (h : Steady (e :: t)) : Steady t :=
  Steady.right (t := [e]) h

/-! ## The checks of what an intent is written into -/

theorem star_notMem {value : Text} (h : isTokenOf 128 value = true) : '*' ∉ value := by
  cases value with
  | nil => exact List.not_mem_nil
  | cons c cs =>
    simp only [isTokenOf, isToken, Bool.and_eq_true, List.all_eq_true, Bool.or_eq_true,
      beq_iff_eq] at h
    obtain ⟨⟨hc, hcs⟩, -⟩ := h
    intro hstar
    rcases List.mem_cons.1 hstar with rfl | hstar
    · cases hc
    · exact absurd (hcs '*' hstar) (by decide)

theorem validateToken_eq_ok {name : String} {value : Text} {u : Unit} :
    validateToken name value = .ok u ↔ isTokenOf 128 value = true := by
  rw [validateToken, check_bind_eq_ok, ensure_eq_ok, ensure_eq_ok]
  exact ⟨And.left, fun h => ⟨h, star_notMem h⟩⟩

/-- What an intent and its reference have passed. -/
structure Checks (i : IntentFields) : Prop where
  operation : isTokenOf 128 i.operationId = true
  capability : isTokenOf 128 i.capabilityId = true
  version : validateVersion i.capabilityVersion = .ok ()
  actor : validateActorId i.actorId = .ok ()
  scope : isTokenOf 128 i.operationScope = true
  destination : validateDestination i.destination = .ok ()
  timeout : 0 < i.timeoutSeconds ∧ i.timeoutSeconds ≤ maxSecretStoreTimeoutSeconds
  reference : isTokenOf 128 i.reference.referenceId = true
  adapterClass : isAdapterClass i.reference.storeAdapterClass = true

theorem checks_of_valid [DigitLibrary] (intent : CredentialUseIntent)
    (h : isValidReference intent.fields.reference = true) : Checks intent.fields := by
  have hvalid := intent.valid
  simp only [IntentFields.validate, check_bind_eq_ok, validateToken_eq_ok] at hvalid
  obtain ⟨hoperation, hcapability, hversion, hactor, hscope, hdestination, htimeout⟩ := hvalid
  obtain ⟨hreference, hadapter⟩ := checks_of_isValidReference h
  exact ⟨hoperation, hcapability, hversion, hactor, hscope, hdestination, ensure_eq_ok.1 htimeout,
    hreference, hadapter⟩

theorem isTokenOf_credentialClass (c : CredentialClass) : isTokenOf 128 c.text = true := by
  cases c <;> decide

section

variable {intent : IntentFields}

theorem exists_result (h : Checks intent) {code : CredentialFailureCode}
    {completion : CredentialCompletion} {handlerCode : Option Text}
    (hcode : validateHandlerResultCode handlerCode = .ok ()) :
    ∃ r, result intent code completion handlerCode = .ok r := by
  refine exists_construct ?_
  simp only [BrokerResultFields.validate, check_bind_eq_ok, validateToken_eq_ok]
  exact ⟨h.operation, h.capability, h.version, h.reference, h.scope, h.destination, hcode,
    by rw [if_neg Bool.false_ne_true]; exact ensure_of nofun _⟩

theorem result_spec {code : CredentialFailureCode} {completion : CredentialCompletion}
    {handlerCode : Option Text} {r : CredentialBrokerResult}
    (h : result intent code completion handlerCode = .ok r) :
    r.fields.succeeded = false ∧ r.fields.failureCode = some code ∧
      r.fields.completion = completion ∧ r.fields.handlerResultCode = handlerCode := by
  rw [construct_eq_ok.1 h]
  exact ⟨rfl, rfl, rfl, rfl⟩

theorem validateHandlerResultCode_of (r : CredentialBrokerResult) :
    validateHandlerResultCode r.fields.handlerResultCode = .ok () := by
  have hvalid := r.valid
  simp only [BrokerResultFields.validate, check_bind_eq_ok] at hvalid
  exact hvalid.2.2.2.2.2.2.1

/-- What a handler has answered makes a result, which says that the handler was called. -/
theorem resultFromHandler_spec (h : Checks intent) (answer : HandlerAnswer) :
    ∃ r, resultFromHandler intent answer = .ok r ∧ r.fields.completion ≠ .notStarted ∧
      (r.fields.succeeded = true → ∃ returned, answer = .returns returned ∧
        returned.fields.succeeded = true) := by
  have hfailed : ∀ {code completion handlerCode}, validateHandlerResultCode handlerCode = .ok () →
      completion ≠ .notStarted → ∃ r, result intent code completion handlerCode = .ok r ∧
        r.fields.completion ≠ .notStarted ∧ (r.fields.succeeded = true → ∃ returned,
          answer = .returns returned ∧ returned.fields.succeeded = true) := by
    intro code completion handlerCode hcode hcompletion
    obtain ⟨r, hr⟩ := @exists_result _ h code completion _ hcode
    obtain ⟨hsucceeded, -, hcompleted, -⟩ := result_spec hr
    refine ⟨r, hr, hcompleted ▸ hcompletion, fun hsuccess => ?_⟩
    rw [hsucceeded] at hsuccess
    cases hsuccess
  cases answer with
  | raises => exact hfailed rfl nofun
  | other => exact hfailed rfl nofun
  | returns returned =>
    have hvalid := returned.valid
    simp only [HandlerResultFields.validate, check_bind_eq_ok, ensure_eq_ok] at hvalid
    obtain ⟨hcode, -, hstarted⟩ := hvalid
    rw [resultFromHandler]
    split
    · rename_i hsucceeded
      refine (exists_construct ?_).imp fun r hr => ⟨hr, ?_, fun _ => ⟨returned, rfl, hsucceeded⟩⟩
      · simp only [BrokerResultFields.validate, check_bind_eq_ok, validateToken_eq_ok]
        exact ⟨h.operation, h.capability, h.version, h.reference, h.scope, h.destination, hcode,
          by rw [if_pos True.intro]; exact ensure_of ⟨True.intro, True.intro, nofun⟩ _⟩
      · rw [construct_eq_ok.1 hr]
        nofun
    · rename_i hsucceeded
      exact hfailed hcode (hstarted (Bool.not_eq_true _ |>.mp hsucceeded))

theorem validate_attemptEvent (h : Checks intent) : (attemptEvent intent).validate = .ok () := by
  simp only [AuditEventFields.validate, attemptEvent, check_bind_eq_ok, validateToken_eq_ok]
  exact ⟨h.operation, h.actor, h.capability, h.version, h.reference, isTokenOf_credentialClass _,
    h.scope, h.destination, rfl, ensure_of (by simp) _⟩

theorem validate_resultEvent (h : Checks intent) (r : CredentialBrokerResult) :
    (resultEvent intent r.fields).validate = .ok () := by
  simp only [AuditEventFields.validate, resultEvent, attemptEvent, check_bind_eq_ok,
    validateToken_eq_ok]
  exact ⟨h.operation, h.actor, h.capability, h.version, h.reference, isTokenOf_credentialClass _,
    h.scope, h.destination, validateHandlerResultCode_of r, ensure_of nofun _⟩

end

/-! ## Recording a result -/

/-- No event is recorded, no handler called and no material handed out or closed. -/
def Effect.isQuiet : Effect → Bool
  | .record _ | .handle _ _ _ | .lookup _ _ _ | .close _ => false
  | _ => true

def Quiet (t : Trace) : Prop := ∀ e ∈ t, e.1.isQuiet = true

theorem Quiet.append {t t' : Trace} (h : Quiet t) (h' : Quiet t') : Quiet (t ++ t') :=
  List.forall_mem_append.2 ⟨h, h'⟩

theorem accepted_eq_nil {t : Trace} (h : ∀ e ∈ t, e.1.isRecord = false) : accepted t = [] := by
  refine List.filterMap_eq_nil_iff.2 fun e he => ?_
  obtain ⟨q, a⟩ := e
  cases q with
  | record => cases h _ he
  | _ => rfl

theorem isRecord_of_isQuiet {q : Effect} (h : q.isQuiet = true) : q.isRecord = false := by
  cases q <;> first | rfl | cases h

theorem isRecord_of_ofStore {q : Effect} (h : q.ofStore = true) : q.isRecord = false := by
  cases q <;> first | rfl | cases h

theorem Quiet.accepted {t : Trace} (h : Quiet t) : accepted t = [] :=
  accepted_eq_nil fun e he => isRecord_of_isQuiet (h e he)

theorem Quiet.unhandled {t : Trace} (h : Quiet t) : Unhandled t := by
  intro e he
  obtain ⟨q, a⟩ := e
  cases q with
  | handle => cases h _ he
  | _ => rfl

theorem Quiet.outstanding {t : Trace} (h : Quiet t) (materials : List MaterialId) :
    t.foldl outstanding materials = materials := by
  induction t with
  | nil => rfl
  | cons e t ih =>
    obtain ⟨he, ht⟩ := List.forall_mem_cons.1 h
    obtain ⟨q, a⟩ := e
    cases q with
    | lookup | close => cases he
    | _ => exact ih ht

theorem isQuiet_of_ofPreflight {q : Effect} (h : q.ofPreflight = true) : q.isQuiet = true := by
  cases q <;> first | rfl | cases h

theorem accepted_append (t t' : Trace) : accepted (t ++ t') = accepted t ++ accepted t' :=
  List.filterMap_append ..

/-- The result is the one that has been recorded, or says that it has not. -/
def Reported (intent : IntentFields) (t : Trace) (result : CredentialBrokerResult) : Prop :=
  (∃ event : CredentialAuditEvent, accepted t = [event] ∧
    event.fields = resultEvent intent result.fields) ∨
  accepted t = [] ∧ result.fields.failureCode = some .auditFailure

/-- What is known of a result that a call has recorded. -/
structure Reports (intent : IntentFields) (completion : CredentialCompletion) (succeeded : Prop)
    (t : Trace) (result : CredentialBrokerResult) : Prop where
  reported : Reported intent t result
  completion : result.fields.completion = completion
  success : result.fields.succeeded = true → succeeded
  recording : ∀ e ∈ t, e.1.isRecord = true

section

variable {intent : IntentFields} {t : Trace}

theorem traced_record_of {fields : AuditEventFields} {r : Checked Bool}
    (hvalid : fields.validate = .ok ()) (h : Traced (record fields) t r) :
    ∃ (event : CredentialAuditEvent) (accepted : Bool), event.fields = fields ∧
      t = [⟨.record event, accepted⟩] ∧ r = .ok accepted := by
  obtain ⟨event, hevent⟩ := exists_construct hvalid
  obtain ⟨answer, ht, hr⟩ := traced_read.1 ((traced_ok_bind hevent).1 h)
  exact ⟨event, answer, construct_eq_ok.1 hevent, ht, hr⟩

theorem recordTerminal_reports (hi : Checks intent) {terminal : CredentialBrokerResult}
    {r : Checked CredentialBrokerResult} (h : Traced (recordTerminal intent terminal) t r) :
    ∃ result, r = .ok result ∧ Reports intent terminal.fields.completion
      (terminal.fields.succeeded = true) t result := by
  obtain ⟨accepted, t₁, t₂, rfl, ⟨event, hevent, rfl⟩, hrest⟩ := h.bind_ok
    (fun t₁ accepted => ∃ event : CredentialAuditEvent,
      event.fields = resultEvent intent terminal.fields ∧ t₁ = [⟨.record event, accepted⟩])
    fun t₁ t₂ r₁ _ h₁ => by
      obtain ⟨event, accepted, hevent, ht, hr⟩ :=
        traced_record_of (validate_resultEvent hi terminal) h₁
      exact ⟨accepted, hr, event, hevent, ht⟩
  cases accepted with
  | true =>
    obtain ⟨rfl, rfl⟩ := traced_pure.1 hrest
    exact ⟨terminal, rfl, .inl ⟨event, rfl, hevent⟩, rfl, id, by simp [Effect.isRecord]⟩
  | false =>
    obtain ⟨rfl, rfl⟩ := traced_lift.1 hrest
    obtain ⟨result, hresult⟩ := exists_result hi (validateHandlerResultCode_of terminal)
    obtain ⟨hsucceeded, hfailure, hcompletion, -⟩ := result_spec hresult
    refine ⟨result, hresult, .inr ⟨rfl, hfailure⟩, hcompletion, fun hsuccess => ?_,
      by simp [Effect.isRecord]⟩
    rw [hsucceeded] at hsuccess
    cases hsuccess

theorem finishWith_reports (hi : Checks intent) {code : CredentialFailureCode}
    {completion : CredentialCompletion} {handlerCode : Option Text}
    (hcode : validateHandlerResultCode handlerCode = .ok ()) {r : Checked CredentialBrokerResult}
    (h : Traced (finishWith intent code completion handlerCode) t r) :
    ∃ result, r = .ok result ∧ Reports intent completion False t result := by
  obtain ⟨terminal, hterminal⟩ := @exists_result _ hi code completion _ hcode
  obtain ⟨hsucceeded, -, hcompletion, -⟩ := result_spec hterminal
  obtain ⟨result, hr, hreports⟩ := recordTerminal_reports hi ((traced_ok_bind hterminal).1 h)
  refine ⟨result, hr, hreports.reported, hreports.completion.trans hcompletion, fun hsuccess => ?_,
    hreports.recording⟩
  rw [hsucceeded] at hreports
  cases hreports.success hsuccess

end

/-! ## Looking at the clock and at the token -/

theorem safeClockValue_of {name : String} {now : Rat} (h : 0 ≤ now) :
    safeClockValue name (some now) = .ok now := by
  rw [safeClockValue, ensure_of h]
  rfl

theorem traced_now {t : Trace} {r : Checked Rat} (hs : Steady t) (h : Traced now t r) :
    ∃ v, r = .ok v ∧ t = [⟨.clock, some v⟩] ∧ 0 ≤ v := by
  obtain ⟨answer, t', rfl, hrest⟩ := traced_read_bind.1 h
  obtain ⟨v, rfl⟩ := hs.clock answer (List.mem_cons_self ..)
  have hv := hs.nonneg v (List.mem_cons_self ..)
  obtain ⟨rfl, rfl⟩ := traced_lift.1 hrest
  exact ⟨v, safeClockValue_of hv, rfl, hv⟩

/-- The deadline has not passed, and the call has not been cancelled. -/
def InTime (cancellation : TokenId) (deadline : Rat) (t : Trace) : Prop :=
  ⟨.isCancelled cancellation, false⟩ ∈ t ∧ ∃ v : Rat, ⟨.clock, some v⟩ ∈ t ∧ v < deadline

theorem traced_interruption {cancellation : TokenId} {deadline : Rat} {t : Trace}
    {r : Checked (Option CredentialFailureCode)} (hs : Steady t)
    (h : Traced (interruption cancellation deadline) t r) : ∃ code, r = .ok code ∧ Quiet t ∧
      (code = none → InTime cancellation deadline t) := by
  have hquiet : Quiet t := fun e he => isQuiet_of_ofPreflight (only_interruption.traced h e he)
  obtain ⟨cancelled, t', rfl, hrest⟩ := traced_read_bind.1 h
  cases cancelled with
  | true =>
    obtain ⟨rfl, rfl⟩ := traced_pure.1 hrest
    exact ⟨_, rfl, hquiet, nofun⟩
  | false =>
    obtain ⟨v, t₁, t₂, rfl, rfl, hpure⟩ := hrest.bind_ok (fun t₁ v => t₁ = [⟨.clock, some v⟩])
      fun t₁ t₂ r₁ ht h₁ => by
        subst ht
        obtain ⟨v, hr, ht, -⟩ := traced_now hs.tail.left h₁
        exact ⟨v, hr, ht⟩
    obtain ⟨rfl, rfl⟩ := traced_pure.1 hpure
    refine ⟨_, rfl, hquiet, fun hcode => ⟨by simp, v, by simp, ?_⟩⟩
    split at hcode
    · cases hcode
    · rename_i hdeadline
      exact not_le.1 hdeadline

/-! ## The handler's call and what follows it -/

section

variable {intent : IntentFields} {deadline : Rat} {handler : HandlerId} {material : MaterialId}
  {t : Trace}

/-- A material that is open when it is looked at is open when it is borrowed. -/
theorem traced_invoke {context : CredentialHandlerContext} {before : Trace}
    {r : Checked HandlerAnswer} (hheld : Held (⟨.isClosed material, false⟩ :: (before ++ t)))
    (hbefore : Quiet before) (h : Traced (invoke handler context material) t r) :
    ∃ answer, r = .ok answer ∧
      t = [⟨.borrow material, true⟩, ⟨.handle handler context material, answer⟩] := by
  obtain ⟨opened, t', rfl, hrest⟩ := traced_read_bind.1 h
  cases opened with
  | true =>
    obtain ⟨answer, rfl, rfl⟩ := traced_read.1 hrest
    exact ⟨answer, rfl, rfl⟩
  | false =>
    refine absurd rfl (hheld [] before _ t' material rfl fun e he heq => ?_).2
    cases heq ▸ hbefore e he

/-- Either a result is recorded and no handler called, or a handler is called and its answer judged. -/
theorem traced_useMaterial {r : Checked (CredentialBrokerResult ⊕ CredentialBrokerResult)}
    (hi : Checks intent) (hdeadline : 0 ≤ deadline) (hs : Steady t)
    (h : Traced (useMaterial intent deadline handler material) t r) :
    (∃ returned t₁ t₂, r = .ok (.inl returned) ∧ t = t₁ ++ t₂ ∧ Quiet t₁ ∧
      Reports intent .notStarted False t₂ returned) ∨
    ∃ judged t₁ context answer, r = .ok (.inr judged) ∧
      t = t₁ ++ [⟨.handle handler context material, answer⟩] ∧ Quiet t₁ ∧
        judged.fields.completion ≠ .notStarted ∧ (judged.fields.succeeded = true →
          ∃ returned, answer = .returns returned ∧ returned.fields.succeeded = true) := by
  have hreturn : ∀ {code t r}, Traced (finishWith intent code .notStarted none >>= fun returned =>
      (pure (.inl returned) : Calls (CredentialBrokerResult ⊕ CredentialBrokerResult))) t r →
        ∃ returned, r = .ok (.inl returned) ∧ Reports intent .notStarted False t returned := by
    intro code t r h
    obtain ⟨returned, t₁, t₂, rfl, hreports, hrest⟩ := h.bind_ok _
      fun _ _ _ _ h₁ => finishWith_reports hi rfl h₁
    obtain ⟨rfl, rfl⟩ := traced_pure.1 hrest
    exact ⟨returned, rfl, (List.append_nil _).symm ▸ hreports⟩
  obtain ⟨closed, t₀, rfl, hrest⟩ := traced_read_bind.1 h
  have hlook : Quiet [⟨.isClosed material, closed⟩] := by simp [Quiet, Effect.isQuiet]
  cases closed with
  | true =>
    obtain ⟨returned, hr, hreports⟩ := hreturn hrest
    exact .inl ⟨returned, _, t₀, hr, rfl, hlook, hreports⟩
  | false =>
    obtain ⟨code, t₁, t₂, rfl, hquiet, hrest⟩ := hrest.bind_ok (fun t₁ _ => Quiet t₁)
      fun t₁ t₂ r₁ ht h₁ => by
        subst ht
        obtain ⟨code, hr, hquiet, -⟩ := traced_interruption hs.tail.left h₁
        exact ⟨code, hr, hquiet⟩
    cases code with
    | some code =>
      obtain ⟨returned, hr, hreports⟩ := hreturn hrest
      exact .inl ⟨returned, _, t₂, hr, rfl, hlook.append hquiet, hreports⟩
    | none =>
      obtain ⟨context, hcontext⟩ : ∃ context, construct ContextFields.validate
          (contextFields intent deadline) = .ok context := by
        refine exists_construct ?_
        simp only [ContextFields.validate, contextFields, check_bind_eq_ok, validateToken_eq_ok]
        exact ⟨hi.operation, hi.capability, hi.version, hi.reference, hi.scope, hi.destination,
          ensure_of hdeadline _⟩
      obtain ⟨answer, t₃, t₄, rfl, rfl, hjudge⟩ := ((traced_ok_bind hcontext).1 hrest).bind_ok
        (fun t₃ answer => t₃ = [⟨.borrow material, true⟩, ⟨.handle handler context material, answer⟩])
        fun t₃ t₄ r₁ ht h₁ => by
          subst ht
          have hheld := hs.held
          rw [← List.append_assoc, ← List.cons_append] at hheld
          exact traced_invoke hheld.left hquiet h₁
      obtain ⟨judged, hjudged, hcompletion, hsuccess⟩ := resultFromHandler_spec hi answer
      have hpure := (traced_ok_bind hjudged).1 hjudge
      obtain ⟨rfl, rfl⟩ := traced_pure.1 hpure
      refine .inr ⟨judged, [⟨.isClosed material, false⟩] ++ (t₁ ++ [⟨.borrow material, true⟩]),
        context, answer, rfl, by simp, ?_, hcompletion, hsuccess⟩
      exact hlook.append (hquiet.append (by simp [Quiet, Effect.isQuiet]))

/-- What follows the handler's call never says that it was not started. -/
theorem traced_conclude {judged : CredentialBrokerResult} {r : Checked CredentialBrokerResult}
    (hi : Checks intent) (hjudged : judged.fields.completion ≠ .notStarted) (hs : Steady t)
    (h : Traced (conclude intent deadline judged) t r) : ∃ result t₁ t₂ completion,
      r = .ok result ∧ t = t₁ ++ t₂ ∧ Quiet t₁ ∧ completion ≠ .notStarted ∧
        Reports intent completion (judged.fields.succeeded = true ∧
          InTime intent.cancellation deadline t₁) t₂ result := by
  obtain ⟨code, t₁, t₂, rfl, ⟨hquiet, hintime⟩, hrest⟩ := h.bind_ok
    (fun t₁ code => Quiet t₁ ∧ (code = none → InTime intent.cancellation deadline t₁))
    fun t₁ t₂ r₁ ht h₁ => by
      subst ht
      exact traced_interruption hs.left h₁
  cases code with
  | some code =>
    obtain ⟨result, hr, hreports⟩ := finishWith_reports hi (validateHandlerResultCode_of judged) hrest
    exact ⟨result, t₁, t₂, .unknown, hr, rfl, hquiet, nofun,
      { hreports with success := fun hsuccess => (hreports.success hsuccess).elim }⟩
  | none =>
    obtain ⟨result, hr, hreports⟩ := recordTerminal_reports hi hrest
    exact ⟨result, t₁, t₂, judged.fields.completion, hr, rfl, hquiet, hjudged,
      { hreports with success := fun hsuccess => ⟨hreports.success hsuccess, hintime rfl⟩ }⟩

/-! ## The end of a call -/

/-- The handler has returned a success, and after that the call was in time. -/
def Succeeded (intent : IntentFields) (deadline : Rat) (t : Trace) : Prop :=
  ∃ before handler context material returned after,
    t = before ++ ⟨.handle handler context material, .returns returned⟩ :: after ∧
      returned.fields.succeeded = true ∧ InTime intent.cancellation deadline after

/-- What the calls that follow the attempt come to, when there are `materials` that are open. -/
structure Settled (intent : IntentFields) (deadline : Rat) (materials : List MaterialId) (t : Trace)
    (result : CredentialBrokerResult) : Prop where
  reported : Reported intent t result
  completion : result.fields.completion = .notStarted ↔ Unhandled t
  success : result.fields.succeeded = true → Succeeded intent deadline t
  closed : t.foldl outstanding materials = []

theorem Unhandled.of_record {t : Trace} (h : ∀ e ∈ t, e.1.isRecord = true) : Unhandled t :=
  fun e he => isHandle_of_isRecord (h e he)

theorem outstanding_of_record {t : Trace} (h : ∀ e ∈ t, e.1.isRecord = true)
    (materials : List MaterialId) : t.foldl outstanding materials = materials := by
  induction t with
  | nil => rfl
  | cons e t ih =>
    obtain ⟨he, ht⟩ := List.forall_mem_cons.1 h
    obtain ⟨q, a⟩ := e
    cases q with
    | record => exact ih ht
    | _ => cases he

theorem Reported.quiet {t₁ t₂ : Trace} {result : CredentialBrokerResult} (h₁ : accepted t₁ = [])
    (h : Reported intent t₂ result) : Reported intent (t₁ ++ t₂) result := by
  rw [Reported, accepted_append, h₁]
  exact h

/-- A result that is recorded without a call of the handler. -/
theorem Reports.settled {result : CredentialBrokerResult}
    (h : Reports intent .notStarted False t result) : Settled intent deadline [] t result where
  reported := h.reported
  completion := iff_of_true h.completion (.of_record h.recording)
  success hsuccess := (h.success hsuccess).elim
  closed := outstanding_of_record h.recording []

theorem Succeeded.after (h : Succeeded intent deadline t) (t₁ : Trace) :
    Succeeded intent deadline (t₁ ++ t) := by
  obtain ⟨before, handler, context, material, returned, after, rfl, hreturned⟩ := h
  exact ⟨t₁ ++ before, handler, context, material, returned, after, by simp, hreturned⟩

/-- Calls that neither record an event nor call a handler may come before. -/
theorem Settled.after {t₁ t₂ : Trace} {materials materials' : List MaterialId}
    {result : CredentialBrokerResult} (h : Settled intent deadline materials' t₂ result)
    (haccepted : accepted t₁ = []) (hunhandled : Unhandled t₁)
    (hopen : t₁.foldl outstanding materials = materials') :
    Settled intent deadline materials (t₁ ++ t₂) result where
  reported := h.reported.quiet haccepted
  completion := h.completion.trans
    ⟨hunhandled.append, fun h' => (List.forall_mem_append.1 h').2⟩
  success hsuccess := (h.success hsuccess).after t₁
  closed := by rw [List.foldl_append, hopen, h.closed]

theorem Settled.after_quiet {t₁ t₂ : Trace} {materials : List MaterialId}
    {result : CredentialBrokerResult} (h : Settled intent deadline materials t₂ result)
    (hquiet : Quiet t₁) : Settled intent deadline materials (t₁ ++ t₂) result :=
  h.after hquiet.accepted hquiet.unhandled (hquiet.outstanding materials)

/-- `finally: material.close()`. -/
theorem traced_ensuring_close {α : Type} {p : Calls α} {r : Checked α}
    (h : Traced (p.ensuring (close material)) t r) :
    ∃ t', t = t' ++ [⟨.close material, ()⟩] ∧ Traced p t' r := by
  obtain ⟨r', t₁, t₂, rfl, hp, hclose⟩ := traced_ensuring.1 h
  obtain ⟨-, t₃, rfl, hdone⟩ := traced_read_bind.1 hclose
  obtain ⟨rfl, rfl⟩ := traced_done.1 hdone
  exact ⟨t₁, rfl, hp⟩

/-- The last event closes the material. -/
theorem Reports.closed {result : CredentialBrokerResult}
    (h : Reports intent .notStarted False t result) :
    Settled intent deadline [material] (t ++ [⟨.close material, ()⟩]) result where
  reported := by
    rw [Reported, accepted_append, show accepted [⟨.close material, ()⟩] = [] from rfl,
      List.append_nil]
    exact h.reported
  completion := iff_of_true h.completion
    ((Unhandled.of_record h.recording).append (by simp [Unhandled, Effect.isHandle]))
  success hsuccess := (h.success hsuccess).elim
  closed := by
    rw [List.foldl_append, outstanding_of_record h.recording]
    simp [outstanding]

/-- A result that is recorded after a call of the handler. -/
theorem Reports.handled {result : CredentialBrokerResult} {completion : CredentialCompletion}
    {context : CredentialHandlerContext} {answer : HandlerAnswer} {t₁ : Trace} {succeeded : Prop}
    (h : Reports intent completion (succeeded ∧ InTime intent.cancellation deadline t₁) t result)
    (hcompletion : completion ≠ .notStarted) (hsuccess : succeeded → ∃ returned,
      answer = .returns returned ∧ returned.fields.succeeded = true) (hquiet : Quiet t₁) :
    Settled intent deadline [material] (⟨.handle handler context material, answer⟩ ::
      ⟨.close material, ()⟩ :: (t₁ ++ t)) result where
  reported := by
    rw [Reported, ← List.singleton_append, ← List.singleton_append (l := t₁ ++ t),
      accepted_append, accepted_append, accepted_append, hquiet.accepted]
    exact h.reported
  completion := by
    refine iff_of_false (h.completion ▸ hcompletion) fun hunhandled => ?_
    cases hunhandled _ (List.mem_cons_self ..)
  success hsucceeded := by
    obtain ⟨hs, hcancelled, v, hclock, hv⟩ := h.success hsucceeded
    obtain ⟨returned, rfl, hreturned⟩ := hsuccess hs
    exact ⟨[], handler, context, material, returned, _, rfl, hreturned, by simp [hcancelled], v,
      by simp [hclock], hv⟩
  closed := by
    rw [List.foldl_cons, List.foldl_cons, List.foldl_append, hquiet.outstanding,
      outstanding_of_record h.recording]
    simp [outstanding]

theorem traced_withMaterial {r : Checked CredentialBrokerResult} (hi : Checks intent)
    (hdeadline : 0 ≤ deadline) (hs : Steady t)
    (h : Traced (withMaterial intent deadline handler material) t r) :
    ∃ result, r = .ok result ∧ Settled intent deadline [material] t result := by
  obtain ⟨used, t₁, t₂, rfl, ⟨t', rfl, huse⟩, hrest⟩ := h.bind_ok
    (fun t₁ used => ∃ t', t₁ = t' ++ [⟨.close material, ()⟩] ∧
      Traced (useMaterial intent deadline handler material) t' (.ok used))
    fun t₁ t₂ r₁ ht h₁ => by
      subst ht
      obtain ⟨t', rfl, huse⟩ := traced_ensuring_close h₁
      rcases traced_useMaterial hi hdeadline hs.left.left huse with
        ⟨returned, _, _, rfl, -⟩ | ⟨judged, _, _, _, rfl, -⟩
      · exact ⟨_, rfl, t', rfl, huse⟩
      · exact ⟨_, rfl, t', rfl, huse⟩
  rcases traced_useMaterial hi hdeadline hs.left.left huse with
    ⟨returned, t₃, t₄, hused, rfl, hquiet, hreports⟩ |
    ⟨judged, t₃, context, answer, hused, rfl, hquiet, hcompletion, hsuccess⟩
  · cases hused
    obtain ⟨rfl, rfl⟩ := traced_pure.1 hrest
    refine ⟨returned, rfl, ?_⟩
    rw [List.append_nil, List.append_assoc]
    exact hreports.closed.after_quiet hquiet
  · cases hused
    obtain ⟨result, t₅, t₆, completion, hr, rfl, hquiet', hcompletion', hreports⟩ :=
      traced_conclude hi hcompletion hs.right hrest
    refine ⟨result, hr, ?_⟩
    rw [List.append_assoc, List.append_assoc]
    exact (hreports.handled hcompletion' hsuccess hquiet').after_quiet hquiet

end

/-! ## The lookup -/

section

variable {reference : SecretReferenceMetadata} {request : RequestFields} {t : Trace}

theorem traced_storeNow {r : Checked Rat} (hs : Steady t) (h : Traced storeNow t r) :
    ∃ v, r = .ok v ∧ t = [⟨.storeClock, some v⟩] := by
  obtain ⟨answer, t', rfl, hrest⟩ := traced_read_bind.1 h
  obtain ⟨v, rfl⟩ := hs.storeClock answer (List.mem_cons_self ..)
  obtain ⟨rfl, rfl⟩ := traced_pure.1 hrest
  exact ⟨v, rfl, rfl⟩

theorem checkOperationResult_of (hreference : isTokenOf 128 reference.referenceId = true)
    (hadapter : isAdapterClass reference.storeAdapterClass = true) :
    checkOperationResult reference = .ok () := by
  rw [checkOperationResult, ensure_of hreference, ok_bind, ensure_of hadapter]

theorem isQuiet_of_ofPreparation {q : Effect} (h : q.ofPreparation = true) : q.isQuiet = true := by
  cases q <;> first | rfl | cases h

/-- A material is closed and a failure returned. -/
theorem traced_closedLookup (hchecks : checkOperationResult reference = .ok ())
    {material : MaterialId} {code : SecretStoreFailureCode} {r : Checked SecretStoreLookupResult}
    (h : Traced (closedLookup reference material code) t r) :
    r = .ok (.failed code) ∧ t.foldl outstanding [material] = [] := by
  obtain ⟨-, t', rfl, hrest⟩ := traced_read_bind.1 h
  obtain ⟨rfl, rfl⟩ := traced_lift.1 hrest
  rw [failedLookup, hchecks]
  exact ⟨rfl, by simp [outstanding]⟩

/-- The material is closed, or it is open and returned. -/
theorem traced_takeMaterial (hchecks : checkOperationResult reference = .ok ())
    {context : AdapterContextFields} {material : MaterialId} {r : Checked SecretStoreLookupResult}
    (hs : Steady t) (h : Traced (takeMaterial reference request context material) t r) :
    (∃ code, r = .ok (.failed code) ∧ t.foldl outstanding [material] = []) ∨
      r = .ok (.found material) ∧ t.foldl outstanding [material] = [material] := by
  obtain ⟨closed, t₁, rfl, hopen⟩ := traced_read_bind.1 h
  cases closed with
  | true =>
    obtain ⟨hr, hclosed⟩ := traced_closedLookup hchecks hopen
    exact .inl ⟨_, hr, hclosed⟩
  | false =>
    obtain ⟨cancelled, t₂, rfl, hlook⟩ := traced_read_bind.1 hopen
    cases cancelled with
    | true =>
      obtain ⟨hr, hclosed⟩ := traced_closedLookup hchecks hlook
      exact .inl ⟨_, hr, hclosed⟩
    | false =>
      obtain ⟨v, t₃, t₄, rfl, rfl, hrest⟩ := hlook.bind_ok
        (fun t₃ v => t₃ = [⟨.storeClock, some v⟩]) fun t₃ t₄ r₁ ht h₁ => by
          subst ht
          exact traced_storeNow hs.tail.tail.left h₁
      split at hrest
      · obtain ⟨hr, hclosed⟩ := traced_closedLookup hchecks hrest
        exact .inl ⟨_, hr, hclosed⟩
      · obtain ⟨closed, t₅, rfl, hfound⟩ := traced_read_bind.1 ((traced_ok_bind hchecks).1 hrest)
        cases closed with
        | true =>
          -- it was open before
          have hheld := hs.held [] [⟨.isCancelled request.cancellation, false⟩, ⟨.storeClock, some v⟩]
            _ t₅ material rfl (by simp)
          exact absurd rfl hheld.1
        | false =>
          obtain ⟨rfl, rfl⟩ := traced_pure.1 hfound
          exact .inr ⟨rfl, rfl⟩

theorem traced_adapterStatus {adapterClass : Text} {adapter : AdapterId}
    {r : Checked SecretStoreStatus} (h : Traced (adapterStatus adapterClass adapter) t r) :
    ∃ status, r = .ok status := by
  obtain ⟨answer, t', -, hrest⟩ := traced_read_bind.1 h
  split at hrest
  · split at hrest
    · exact ⟨_, (traced_pure.1 hrest).2⟩
    · exact ⟨_, (traced_pure.1 hrest).2⟩
  · exact ⟨_, (traced_pure.1 hrest).2⟩

theorem traced_prepareAdapter {broker : Broker}
    {r : Checked (SecretStoreFailureCode ⊕ AdapterId × SecretStoreAdapterContext)} (hs : Steady t)
    (hadapter : isAdapterClass reference.storeAdapterClass = true)
    (hoperation : isTokenOf 128 request.operationId = true)
    (h : Traced (prepareAdapter broker reference request) t r) : ∃ x, r = .ok x := by
  obtain ⟨started, t₁, t₂, rfl, -, hrest⟩ := h.bind_ok (fun _ _ => True) fun t₁ t₂ r₁ ht h₁ => by
    subst ht
    obtain ⟨v, hv, -⟩ := traced_storeNow hs.left h₁
    exact ⟨v, hv, True.intro⟩
  have hrest := (traced_ok_bind (ensure_of hadapter _)).1 hrest
  split at hrest
  · exact ⟨_, (traced_pure.1 hrest).2⟩
  obtain ⟨status, t₃, t₄, rfl, -, hask⟩ := hrest.bind_ok (fun _ _ => True) fun t₃ t₄ r₁ _ h₁ => by
    obtain ⟨status, hstatus⟩ := traced_adapterStatus h₁
    exact ⟨status, hstatus, True.intro⟩
  obtain ⟨cancelled, t₅, rfl, htime⟩ := traced_read_bind.1 hask
  split at htime
  · exact ⟨_, (traced_pure.1 htime).2⟩
  obtain ⟨now, t₆, t₇, rfl, -, hjudge⟩ := htime.bind_ok (fun _ _ => True) fun t₆ t₇ r₁ ht h₁ => by
    subst ht
    obtain ⟨v, hv, -⟩ := traced_storeNow hs.right.right.tail.left h₁
    exact ⟨v, hv, True.intro⟩
  split at hjudge
  · exact ⟨_, (traced_pure.1 hjudge).2⟩
  split at hjudge
  · exact ⟨_, (traced_pure.1 hjudge).2⟩
  · obtain ⟨context, hcontext⟩ : ∃ context, construct AdapterContextFields.validate
        ⟨request.operationId, started + request.timeoutSeconds, request.userPresence,
          request.cancellation⟩ = .ok context := exists_construct (ensure_of hoperation _)
    have hpure := (traced_ok_bind hcontext).1 hjudge
    exact ⟨_, (traced_pure.1 hpure).2⟩

section

variable [DigitLibrary]

theorem traced_prepare {broker : Broker}
    {r : Checked (SecretStoreFailureCode ⊕ AdapterId × SecretStoreAdapterContext)} (hs : Steady t)
    (hreference : isValidReference reference = true)
    (hoperation : isTokenOf 128 request.operationId = true)
    (h : Traced (prepare broker reference request) t r) : ∃ x, r = .ok x ∧ Quiet t := by
  have hquiet : Quiet t := fun e he => isQuiet_of_ofPreparation (only_prepare.traced h e he)
  have h := (traced_ok_bind (ensure_of hreference _)).1 h
  split at h
  · exact ⟨_, (traced_pure.1 h).2, hquiet⟩
  obtain ⟨cancelled, t', rfl, hrest⟩ := traced_read_bind.1 h
  split at hrest
  · exact ⟨_, (traced_pure.1 hrest).2, hquiet⟩
  · obtain ⟨x, hx⟩ := traced_prepareAdapter hs.tail (checks_of_isValidReference hreference).2
      hoperation hrest
    exact ⟨x, hx, hquiet⟩

/-- A lookup does not fail, and no other material is left open than the one it returns. -/
theorem traced_lookup {broker : Broker} {r : Checked SecretStoreLookupResult} (hs : Steady t)
    (hreference : isValidReference reference = true)
    (hoperation : isTokenOf 128 request.operationId = true)
    (h : Traced (lookup broker reference request) t r) :
    (∃ code, r = .ok (.failed code) ∧ t.foldl outstanding [] = []) ∨
      ∃ material, r = .ok (.found material) ∧ t.foldl outstanding [] = [material] := by
  obtain ⟨hid, hadapter⟩ := checks_of_isValidReference hreference
  have hchecks := checkOperationResult_of hid hadapter
  have hfailed : ∀ {code t r}, Traced (monadLift (failedLookup reference code) : Calls _) t r →
      t = [] ∧ r = .ok (.failed code) := by
    intro code t r h
    obtain ⟨rfl, rfl⟩ := traced_lift.1 h
    rw [failedLookup, hchecks]
    exact ⟨rfl, rfl⟩
  obtain ⟨prepared, t₁, t₂, rfl, hquiet, hrest⟩ := h.bind_ok (fun t₁ _ => Quiet t₁)
    fun t₁ t₂ r₁ ht h₁ => by
      subst ht
      exact traced_prepare hs.left hreference hoperation h₁
  rw [List.foldl_append, hquiet.outstanding]
  cases prepared with
  | inl code =>
    obtain ⟨rfl, rfl⟩ := hfailed hrest
    exact .inl ⟨code, rfl, rfl⟩
  | inr prepared =>
    obtain ⟨answer, t₃, rfl, htake⟩ := traced_read_bind.1 hrest
    cases answer with
    | failure code =>
      obtain ⟨rfl, rfl⟩ := hfailed htake
      exact .inl ⟨code, rfl, rfl⟩
    | raises | other =>
      obtain ⟨rfl, rfl⟩ := hfailed htake
      exact .inl ⟨_, rfl, rfl⟩
    | material material =>
      rcases traced_takeMaterial hchecks hs.right.tail htake with ⟨code, hr, hclosed⟩ | ⟨hr, hopen⟩
      · exact .inl ⟨code, hr, hclosed⟩
      · exact .inr ⟨material, hr, hopen⟩

end

end

/-! ## The preflight -/

section

variable {intent : CredentialUseIntent} {grant : Option CredentialAuthorizationGrant}
  {deadline : Rat} {t : Trace}

theorem traced_consume_ok {r : Checked (Option CredentialFailureCode)} (hs : Steady t)
    (h : Traced (consume grant intent) t r) : ∃ x, r = .ok x := by
  cases grant with
  | none => exact ⟨_, (traced_pure.1 h).2⟩
  | some grant =>
    obtain ⟨now, t₁, t₂, rfl, -, hrest⟩ := h.bind_ok (fun _ _ => True) fun t₁ t₂ r₁ ht h₁ => by
      subst ht
      obtain ⟨answer, t', rfl, hlift⟩ := traced_read_bind.1 h₁
      obtain ⟨v, rfl⟩ := hs.authorityClock answer (List.mem_cons_self ..)
      have hv := hs.authority_nonneg v (List.mem_cons_self ..)
      exact ⟨v, (traced_lift.1 hlift).2.trans (safeClockValue_of hv), True.intro⟩
    obtain ⟨answer, -, hr⟩ := traced_read.1 hrest
    exact ⟨answer, hr⟩

theorem traced_authorize_ok {handler : HandlerId} {r : Checked (CredentialFailureCode ⊕ HandlerId)}
    (hs : Steady t) (h : Traced (authorize intent grant deadline handler) t r) :
    ∃ x, r = .ok x := by
  obtain ⟨matching, t₁, t₂, rfl, -, hrest⟩ := h.bind_ok (fun _ _ => True) fun t₁ t₂ r₁ ht h₁ => by
    obtain ⟨answer, t', -, hmatch⟩ := traced_read_bind.1 h₁
    cases answer with
    | none => exact ⟨_, (traced_pure.1 hmatch).2, True.intro⟩
    | some declared => exact ⟨_, (traced_pure.1 hmatch).2, True.intro⟩
  split at hrest
  · obtain ⟨failure, t₃, t₄, rfl, -, hlook⟩ := hrest.bind_ok (fun _ _ => True)
      fun t₃ t₄ r₁ ht h₁ => by
        subst ht
        obtain ⟨x, hx⟩ := traced_consume_ok hs.right.left h₁
        exact ⟨x, hx, True.intro⟩
    split at hlook
    · exact ⟨_, (traced_pure.1 hlook).2⟩
    · obtain ⟨code, t₅, t₆, rfl, -, hpure⟩ := hlook.bind_ok (fun _ _ => True)
        fun t₅ t₆ r₁ ht h₁ => by
          subst ht
          obtain ⟨code, hcode, -⟩ := traced_interruption hs.right.right.left h₁
          exact ⟨code, hcode, True.intro⟩
      split at hpure
      · exact ⟨_, (traced_pure.1 hpure).2⟩
      · exact ⟨_, (traced_pure.1 hpure).2⟩
  · exact ⟨_, (traced_pure.1 hrest).2⟩

theorem traced_preflight_ok {broker : Broker} {r : Checked (CredentialFailureCode ⊕ HandlerId)}
    (hi : Checks intent.fields) (hs : Steady t)
    (h : Traced (preflight broker intent grant deadline) t r) : ∃ x, r = .ok x ∧ Quiet t := by
  have hquiet : Quiet t := fun e he => isQuiet_of_ofPreflight (only_preflight.traced h e he)
  obtain ⟨code, t₁, t₂, rfl, -, hrest⟩ := h.bind_ok (fun _ _ => True) fun t₁ t₂ r₁ ht h₁ => by
    subst ht
    obtain ⟨code, hcode, -⟩ := traced_interruption hs.left h₁
    exact ⟨code, hcode, True.intro⟩
  cases code with
  | some code => exact ⟨_, (traced_pure.1 hrest).2, hquiet⟩
  | none =>
    dsimp only at hrest
    split at hrest
    · exact ⟨_, (traced_pure.1 hrest).2, hquiet⟩
    split at hrest
    · exact ⟨_, (traced_pure.1 hrest).2, hquiet⟩
    split at hrest
    · exact ⟨_, (traced_pure.1 hrest).2, hquiet⟩
    have hcapability : validateToken "capability ID" intent.fields.capabilityId = .ok () :=
      validateToken_eq_ok.2 hi.capability
    have hrest := (traced_ok_bind hcapability).1 hrest
    have hrest := (traced_ok_bind hi.version).1 hrest
    split at hrest
    · exact ⟨_, (traced_pure.1 hrest).2, hquiet⟩
    · obtain ⟨x, hx⟩ := traced_authorize_ok hs.right hrest
      exact ⟨x, hx, hquiet⟩

end

/-! ## The whole call -/

section

variable [DigitLibrary] {intent : CredentialUseIntent} {grant : Option CredentialAuthorizationGrant}
  {deadline : Rat} {t : Trace}

theorem traced_lookUpAndUse {broker : Broker} {handler : HandlerId}
    {r : Checked CredentialBrokerResult}
    (hreference : isValidReference intent.fields.reference = true) (hdeadline : 0 ≤ deadline)
    (hremaining : ∀ v ∈ readings t, deadline - v ≤ maxSecretStoreTimeoutSeconds) (hs : Steady t)
    (h : Traced (lookUpAndUse broker intent.fields deadline handler) t r) :
    ∃ result, r = .ok result ∧ Settled intent.fields deadline [] t result := by
  have hi := checks_of_valid intent hreference
  have hfinish : ∀ {code t r}, Traced (finishWith intent.fields code .notStarted none) t r →
      ∃ result, r = .ok result ∧ Settled intent.fields deadline [] t result := by
    intro code t r h
    obtain ⟨result, hr, hreports⟩ := finishWith_reports hi rfl h
    exact ⟨result, hr, hreports.settled⟩
  obtain ⟨v, t₁, t₂, rfl, rfl, hrest⟩ := h.bind_ok (fun t₁ v => t₁ = [⟨.clock, some v⟩])
    fun t₁ t₂ r₁ ht h₁ => by
      subst ht
      obtain ⟨v, hv, ht, -⟩ := traced_now hs.left h₁
      exact ⟨v, hv, ht⟩
  have hclock : Quiet [⟨.clock, some v⟩] := by simp [Quiet, Effect.isQuiet]
  split at hrest
  · obtain ⟨result, hr, hsettled⟩ := hfinish hrest
    exact ⟨result, hr, hsettled.after_quiet hclock⟩
  rename_i hpositive
  have hrange : 0 < deadline - v ∧ deadline - v ≤ maxSecretStoreTimeoutSeconds :=
    ⟨not_le.1 hpositive, hremaining v (List.mem_cons_self ..)⟩
  obtain ⟨request, hrequest⟩ : ∃ request, construct RequestFields.validate
      ⟨intent.fields.operationId, deadline - v, intent.fields.userPresence,
        intent.fields.cancellation⟩ = .ok request := by
    refine exists_construct ?_
    rw [RequestFields.validate, ensure_of hi.operation, ok_bind, ensure_of hrange]
  have hfields := construct_eq_ok.1 hrequest
  obtain ⟨found, t₃, t₄, rfl, ⟨hstore, hfound⟩, huse⟩ :=
    ((traced_ok_bind hrequest).1 hrest).bind_ok
      (fun t₃ found => (∀ e ∈ t₃, e.1.ofStore = true) ∧
        ((∃ code, found = .failed code ∧ t₃.foldl outstanding [] = []) ∨
          ∃ material, found = .found material ∧ t₃.foldl outstanding [] = [material]))
      fun t₃ t₄ r₁ ht h₁ => by
        subst ht
        have hstore := only_lookup.traced h₁
        rcases traced_lookup hs.right.left hreference (by rw [hfields]; exact hi.operation) h₁ with
          ⟨code, hr, hclosed⟩ | ⟨material, hr, hopen⟩
        · exact ⟨_, hr, hstore, .inl ⟨code, rfl, hclosed⟩⟩
        · exact ⟨_, hr, hstore, .inr ⟨material, rfl, hopen⟩⟩
  have haccepted := accepted_eq_nil fun e he => isRecord_of_ofStore (hstore e he)
  have hunhandled : Unhandled t₃ := fun e he => isHandle_of_ofStore (hstore e he)
  rcases hfound with ⟨code, rfl, hclosed⟩ | ⟨material, rfl, hopen⟩
  · obtain ⟨result, hr, hsettled⟩ := hfinish huse
    exact ⟨result, hr, (hsettled.after haccepted hunhandled hclosed).after_quiet hclock⟩
  · obtain ⟨result, hr, hsettled⟩ := traced_withMaterial hi hdeadline hs.right.right huse
    exact ⟨result, hr, (hsettled.after haccepted hunhandled hopen).after_quiet hclock⟩

/-- The result of a call agrees with what the call has done: with the audit events that were accepted,
with the call of the handler, and with what the handler has answered in time; and no material is open. -/
structure Truthful (intent : IntentFields) (t : Trace) (result : CredentialBrokerResult) : Prop where
  paired : accepted t = [] ∧ result.fields.failureCode = some .auditFailure ∨
    ∃ attempt rest, accepted t = attempt :: rest ∧ attempt.fields = attemptEvent intent ∧
      ((∃ event : CredentialAuditEvent, rest = [event] ∧
        event.fields = resultEvent intent result.fields) ∨
          rest = [] ∧ result.fields.failureCode = some .auditFailure)
  completion : result.fields.completion = .notStarted ↔ Unhandled t
  success : result.fields.succeeded = true → ∃ started rest, readings t = started :: rest ∧
    Succeeded intent (started + intent.timeoutSeconds) t
  closed : t.foldl outstanding [] = []

/-- What follows the audit event of the attempt. -/
theorem traced_attempt {broker : Broker} {r : Checked CredentialBrokerResult}
    (hreference : isValidReference intent.fields.reference = true) (hdeadline : 0 ≤ deadline)
    (hremaining : ∀ v ∈ readings t, deadline - v ≤ maxSecretStoreTimeoutSeconds) (hs : Steady t)
    (h : Traced (attempt broker intent grant deadline) t r) : ∃ result, r = .ok result ∧
      ((∃ event, t = [⟨.record event, false⟩] ∧ result.fields.failureCode = some .auditFailure ∧
          result.fields.completion = .notStarted ∧ result.fields.succeeded = false) ∨
        ∃ event t', t = ⟨.record event, true⟩ :: t' ∧ event.fields = attemptEvent intent.fields ∧
          Settled intent.fields deadline [] t' result) := by
  have hi := checks_of_valid intent hreference
  obtain ⟨accepted, t₁, t₂, rfl, ⟨event, hevent, rfl⟩, hrest⟩ := h.bind_ok
    (fun t₁ accepted => ∃ event : CredentialAuditEvent,
      event.fields = attemptEvent intent.fields ∧ t₁ = [⟨.record event, accepted⟩])
    fun t₁ t₂ r₁ _ h₁ => by
      obtain ⟨event, accepted, hevent, ht, hr⟩ := traced_record_of (validate_attemptEvent hi) h₁
      exact ⟨accepted, hr, event, hevent, ht⟩
  cases accepted with
  | false =>
    obtain ⟨rfl, rfl⟩ := traced_lift.1 hrest
    obtain ⟨result, hresult⟩ := @exists_result _ hi .auditFailure .notStarted none rfl
    obtain ⟨hsucceeded, hfailure, hcompletion, -⟩ := result_spec hresult
    exact ⟨result, hresult, .inl ⟨event, rfl, hfailure, hcompletion, hsucceeded⟩⟩
  | true =>
    obtain ⟨cleared, t₃, t₄, rfl, hquiet, huse⟩ := hrest.bind_ok (fun t₃ _ => Quiet t₃)
      fun t₃ t₄ r₁ ht h₁ => by
        subst ht
        exact traced_preflight_ok hi hs.right.left h₁
    cases cleared with
    | inl code =>
      obtain ⟨result, hr, hreports⟩ := finishWith_reports hi rfl huse
      exact ⟨result, hr, .inr ⟨event, _, rfl, hevent, hreports.settled.after_quiet hquiet⟩⟩
    | inr handler =>
      have hlater : ∀ v ∈ readings t₄, deadline - v ≤ maxSecretStoreTimeoutSeconds := fun v hv => by
        obtain ⟨e, he, hreading⟩ := List.mem_filterMap.1 hv
        exact hremaining v (List.mem_filterMap.2 ⟨e, by simp [he], hreading⟩)
      obtain ⟨result, hr, hsettled⟩ :=
        traced_lookUpAndUse hreference hdeadline hlater hs.right.right huse
      exact ⟨result, hr, .inr ⟨event, _, rfl, hevent, hsettled.after_quiet hquiet⟩⟩

end

/-! ## Runs with fixed answers -/

theorem timed_of_answers {f : (effect : Effect) → effect.Answer} {t : Trace}
    (hclock : f .clock = some (0 : Rat)) (hauthority : f .authorityClock = some (0 : Rat))
    (hstore : f .storeClock = some (0 : Rat)) (h : ∀ e ∈ t, e.2 = f e.1) : Timed t where
  clock answer hmem := ⟨0, (h _ hmem).trans hclock⟩
  authorityClock answer hmem := ⟨0, (h _ hmem).trans hauthority⟩
  storeClock answer hmem := ⟨0, (h _ hmem).trans hstore⟩
  nondecreasing := by
    have hzero : ∀ v ∈ readings t, v = 0 := fun v hv => by
      obtain ⟨⟨q, a⟩, he, hreading⟩ := List.mem_filterMap.1 hv
      cases q with
      | clock => exact Option.some.inj (hreading.symm.trans ((h _ he).trans hclock))
      | _ => cases hreading
    refine List.pairwise_of_forall_mem_list fun v hv w hw => ?_
    rw [hzero v hv, hzero w hw]

/-- The calls and the outcome of the sample when the callbacks have fixed answers. -/
def sampleRun [DigitLibrary] (f : (effect : Effect) → effect.Answer) :
    Trace × Checked CredentialBrokerResult × Unit :=
  (execute sampleBroker sampleIntent (some sampleGrant)).play (fun _ effect => (f effect, ())) ()

theorem answers_sampleRun [DigitLibrary] (f : (effect : Effect) → effect.Answer) :
    ∀ e ∈ (sampleRun f).1, e.2 = f e.1 := forall_mem_play (fun _ _ => rfl) _ _

theorem steady_sampleRun [DigitLibrary] : Steady (sampleRun smoothly).1 where
  toTimed := timed_of_answers rfl rfl rfl (answers_sampleRun smoothly)
  nonneg now hmem := by
    rw [← Option.some.inj (answers_sampleRun smoothly _ hmem).symm]
  authority_nonneg now hmem := by
    rw [← Option.some.inj (answers_sampleRun smoothly _ hmem).symm]
  held before between e after material ht _ := by
    have he := answers_sampleRun smoothly e (by rw [ht]; simp)
    constructor
    · rintro rfl
      cases he
    · rintro rfl
      cases he

/-- The adapter closes the material that it has handed out before it is borrowed. -/
def closingEarly : (effect : Effect) → effect.Answer
  | .borrow _ => false
  | effect => smoothly effect

section

attribute [local instance] asciiDigits

end

end DollState.Credential
