import DollState.Runtime.Boundary

/-!
# A stream never breaks its boundary

Whatever an adapter yields or raises, `stream` returns a transcript that is in order, with one
exception: an adapter whose first event is a delta. The events accepted so far then start with no
start event, so that no failure transcript can be built of them either, and the error of the second
attempt leaves `stream`.
-/

namespace DollState.Runtime

open StateLib

/-! ## Transcripts in order -/

/-- The last event says what the outcome and the failure code say. -/
def Agrees (outcome : GenerationOutcome) (failureCode : Option FailureCode)
    (last : RuntimeStreamEvent) : Prop :=
  match outcome with
  | .completed => last.kind = .complete ∧ failureCode = none
  | .cancelled => last.kind = .cancelled ∧ failureCode = some .cancelled ∧
      last.failureCode = failureCode
  | .timeout => last.kind = .error ∧ failureCode = some .timeout ∧ last.failureCode = failureCode
  | .failed => last.kind = .error ∧ failureCode ≠ none ∧ last.failureCode = failureCode

/-- The transcript of a result starts with a start event, is numbered consecutively, and has one
terminal event, the last, which agrees with the result. -/
structure RuntimeStreamResult.WellFormed (result : RuntimeStreamResult) : Prop where
  starts : ∃ first rest, result.events = first :: rest ∧ first.kind = .start
  numbered : ∀ (i : Nat) (h : i < result.events.length),
    result.events[i].operationId = result.operationId ∧ result.events[i].sequence = i
  terminal : ∃ before last, result.events = before ++ [last] ∧ last.kind.isTerminal = true ∧
    (∀ e ∈ before, e.kind.isTerminal = false) ∧ Agrees result.outcome result.failureCode last

def isDelta (e : RuntimeStreamEvent) : Bool := e.kind = .delta

/-- The events that an adapter yields. -/
def yielded (items : List (Look × Option RuntimeStreamEvent)) : List RuntimeStreamEvent :=
  items.filterMap (·.2)

/-- The events that an adapter yields when its stream is iterated over. -/
def StreamAdapter.yielded (adapter : StreamAdapter) : List RuntimeStreamEvent :=
  match adapter.stream with
  | .ok (some iteration) => Runtime.yielded iteration.items
  | _ => []

/-- What `stream` is to return for a request and the events of the adapter. -/
structure Isolated (request : RuntimeGenerationRequest) (events : List RuntimeStreamEvent)
    (result : RuntimeStreamResult) : Prop where
  wellFormed : result.WellFormed
  operationId : result.operationId = request.operationId
  bounded : (totalChars result.events : Int) ≤ request.maxOutputChars
  deltas : result.events.filter isDelta <+: events.filter isDelta

/-! ## What validation says -/

theorem RuntimeGenerationRequest.checks (request : RuntimeGenerationRequest) :
    isOperationId request.operationId = true ∧ isIdentifier request.modelId = true ∧
      (1 ≤ request.maxOutputChars ∧ request.maxOutputChars ≤ maxRuntimeOutputChars) ∧
      0 < request.timeoutSeconds ∧ request.timeoutSeconds ≤ maxRuntimeTimeoutSeconds := by
  have h := request.valid
  simp only [RequestFields.validate, check_bind_eq_ok, ensure_eq_ok] at h
  obtain ⟨hoperation, hmodel, -, houtput, htimeout⟩ := h
  exact ⟨hoperation, hmodel, houtput, htimeout⟩

theorem RuntimeHealth.isIdentifier_runtimeId (health : RuntimeHealth) :
    health.runtimeId.all isIdentifier = true := by
  have h := health.valid
  simp only [HealthFields.validate, check_bind_eq_ok, ensure_eq_ok] at h
  exact h.2.1

/-- The events of a transcript, from the pairs of identifier and number that are compared. -/
theorem map_eq_range_iff {operationId : Text} {events : List RuntimeStreamEvent} :
    (events.map fun e => (e.operationId, e.sequence)) =
        ((List.range events.length).map fun i => (operationId, i)) ↔
      ∀ (i : Nat) (h : i < events.length),
        events[i].operationId = operationId ∧ events[i].sequence = i := by
  constructor
  · intro heq i hi
    have := congrArg (fun l => l[i]?) heq
    simpa [hi] using this
  · intro h
    refine List.ext_getElem (by simp) fun i hi _ => ?_
    have hi : i < events.length := by simpa using hi
    simp [h i hi]

/-- The checks of the last event. -/
theorem agrees_iff {outcome : GenerationOutcome} {failureCode : Option FailureCode}
    {runtimeId : Option Text} {last : RuntimeStreamEvent} {e₁ e₂ e₃ e₄ : DollError} {u : Unit} :
    (if outcome = .completed then
        ensure (runtimeId ≠ none ∧ some last.kind = some StreamEventKind.complete ∧
          failureCode = none) e₁
      else do
        let expectedKind := if outcome = .cancelled then StreamEventKind.cancelled else .error
        ensure (some last.kind = some expectedKind ∧ failureCode ≠ none) e₂
        ensure ((outcome = .cancelled → failureCode = some FailureCode.cancelled) ∧
          (outcome = .timeout → failureCode = some FailureCode.timeout)) e₃
        ensure (last.failureCode = failureCode) e₄) = .ok u ↔
      (outcome = .completed → runtimeId ≠ none) ∧ Agrees outcome failureCode last := by
  cases outcome with
  | completed => simp [ensure_eq_ok, Agrees]
  | failed => simp [check_bind_eq_ok, ensure_eq_ok, Agrees, and_assoc]
  | cancelled =>
    simp only [reduceCtorEq, if_false, if_true, check_bind_eq_ok, ensure_eq_ok, Option.some.injEq,
      false_implies, true_and, true_implies, and_true, Agrees]
    constructor
    · rintro ⟨⟨hkind, -⟩, hcode, hlast⟩
      exact ⟨hkind, hcode, hlast⟩
    · rintro ⟨hkind, hcode, hlast⟩
      exact ⟨⟨hkind, by simp [hcode]⟩, hcode, hlast⟩
  | timeout =>
    simp only [reduceCtorEq, if_false, check_bind_eq_ok, ensure_eq_ok, Option.some.injEq,
      false_implies, true_and, true_implies, Agrees]
    constructor
    · rintro ⟨⟨hkind, -⟩, hcode, hlast⟩
      exact ⟨hkind, hcode, hlast⟩
    · rintro ⟨hkind, hcode, hlast⟩
      exact ⟨⟨hkind, by simp [hcode]⟩, hcode, hlast⟩

theorem validateStreamTranscript_concat_eq_ok {operationId : Text} {outcome : GenerationOutcome}
    {before : List RuntimeStreamEvent} {last : RuntimeStreamEvent}
    {failureCode : Option FailureCode} {runtimeId : Option Text} {u : Unit} :
    validateStreamTranscript operationId outcome (before ++ [last]) failureCode runtimeId = .ok u ↔
      (∃ first rest, before ++ [last] = first :: rest ∧ first.kind = .start) ∧
      (∀ (i : Nat) (h : i < (before ++ [last]).length),
        (before ++ [last])[i].operationId = operationId ∧ (before ++ [last])[i].sequence = i) ∧
      (∀ e ∈ before, e.kind.isTerminal = false) ∧
      totalChars (before ++ [last]) ≤ maxRuntimeOutputChars ∧
      (outcome = .completed → runtimeId ≠ none) ∧ Agrees outcome failureCode last := by
  have hstart : ((before ++ [last]).head?.map fun e => e.kind) = some StreamEventKind.start ↔
      ∃ first rest, before ++ [last] = first :: rest ∧ first.kind = .start := by
    cases before with
    | nil => simp
    | cons first rest => simp
  have hlast : (before ++ [last]).getLast? = some last := List.getLast?_concat
  simp only [validateStreamTranscript, check_bind_eq_ok, ensure_eq_ok, hstart, map_eq_range_iff,
    List.dropLast_concat, List.all_eq_true, Bool.not_eq_true', hlast, Option.map_some,
    Option.bind_some]
  rw [agrees_iff]

/-- A result is as well formed as its transcript. -/
theorem RuntimeStreamResult.wellFormed (result : RuntimeStreamResult) : result.WellFormed := by
  have h := result.valid
  simp only [StreamResultFields.validate, check_bind_eq_ok] at h
  obtain ⟨-, -, -, -, -, h⟩ := h
  rcases List.eq_nil_or_concat' result.events with hnil | ⟨before, last, hevents⟩
  · rw [hnil, validateStreamTranscript, check_bind_eq_ok, ensure_eq_ok] at h
    simp at h
  · rw [hevents, validateStreamTranscript_concat_eq_ok] at h
    obtain ⟨hstarts, hnumbered, hbefore, -, -, hagrees⟩ := h
    rw [← hevents] at hstarts
    refine ⟨hstarts, fun i hi => ?_, before, last, hevents, ?_, hbefore, hagrees⟩
    · simp only [hevents] at hi ⊢
      exact hnumbered i hi
    · unfold Agrees at hagrees
      split at hagrees <;> simp [StreamEventKind.isTerminal, hagrees.1]

/-! ## Failure transcripts -/

/-- Events that the loop has accepted, which do not start with a delta. -/
structure Accepted (request : RuntimeGenerationRequest) (events : List RuntimeStreamEvent) :
    Prop where
  numbered : ∀ (i : Nat) (h : i < events.length),
    events[i].operationId = request.operationId ∧ events[i].sequence = i
  length : events.length ≤ maxRuntimeStreamEvents
  bounded : (totalChars events : Int) ≤ request.maxOutputChars
  noDelta : ∀ e ∈ events.head?, e.kind ≠ .delta

theorem accepted_nil (request : RuntimeGenerationRequest) : Accepted request [] := by
  refine ⟨by simp, by simp, ?_, by simp⟩
  have hmin : 1 ≤ request.maxOutputChars := request.checks.2.2.1.1
  have hzero : totalChars [] = 0 := rfl
  omega

theorem totalChars_append (events rest : List RuntimeStreamEvent) :
    totalChars (events ++ rest) = totalChars events + totalChars rest := by
  simp [totalChars]

theorem totalChars_singleton (e : RuntimeStreamEvent) : totalChars [e] = e.textLength := by
  simp [totalChars]

theorem totalChars_le_of_prefix {events rest : List RuntimeStreamEvent} (h : events <+: rest) :
    totalChars events ≤ totalChars rest := by
  obtain ⟨tail, rfl⟩ := h
  rw [totalChars_append]
  exact Nat.le_add_right _ _

/-- Numbering survives the addition of an event with the next number. -/
theorem numbered_concat {operationId : Text} {events : List RuntimeStreamEvent}
    {e : RuntimeStreamEvent} (h : ∀ (i : Nat) (h : i < events.length),
      events[i].operationId = operationId ∧ events[i].sequence = i)
    (hoperation : e.operationId = operationId) (hsequence : e.sequence = events.length) :
    ∀ (i : Nat) (h : i < (events ++ [e]).length),
      (events ++ [e])[i].operationId = operationId ∧ (events ++ [e])[i].sequence = i := by
  intro i hi
  rw [List.length_append, List.length_singleton] at hi
  by_cases hlt : i < events.length
  · rw [List.getElem_append_left hlt]
    exact h i hlt
  · obtain rfl : i = events.length := by omega
    rw [List.getElem_concat_length rfl]
    exact ⟨hoperation, hsequence⟩

theorem safeEvents_prefix (events : List RuntimeStreamEvent) : safeEvents events <+: events :=
  (List.take_prefix _ _).trans (List.takeWhile_prefix _)

theorem not_isTerminal_of_mem_safeEvents {events : List RuntimeStreamEvent} {e : RuntimeStreamEvent}
    (h : e ∈ safeEvents events) : e.kind.isTerminal = false := by
  have := List.mem_takeWhile_imp (List.mem_of_mem_take h)
  simpa using this

/-- What a failure transcript puts before its terminal event. -/
structure Leading (request : RuntimeGenerationRequest) (events leading : List RuntimeStreamEvent) :
    Prop where
  starts : ∃ first rest, leading = first :: rest ∧ first.kind = .start
  numbered : ∀ (i : Nat) (h : i < leading.length),
    leading[i].operationId = request.operationId ∧ leading[i].sequence = i
  open_ : ∀ e ∈ leading, e.kind.isTerminal = false
  length : leading.length + 1 ≤ maxRuntimeStreamEvents
  bounded : (totalChars leading : Int) ≤ request.maxOutputChars
  deltas : leading.filter isDelta <+: events.filter isDelta

theorem leading_safeEvents {request : RuntimeGenerationRequest} {events : List RuntimeStreamEvent}
    (h : Accepted request events) (hne : safeEvents events ≠ []) :
    Leading request events (safeEvents events) := by
  have hscheme := safeEvents_prefix events
  obtain ⟨first, rest, hfirst⟩ := List.exists_cons_of_ne_nil hne
  refine ⟨⟨first, rest, hfirst, ?_⟩, fun i hi => ?_, fun e => not_isTerminal_of_mem_safeEvents, ?_,
    ?_, hscheme.filter _⟩
  · have hmem : first ∈ safeEvents events := hfirst ▸ List.mem_cons_self
    have hhead : events.head? = some first := by
      obtain ⟨tail, htail⟩ := hscheme
      rw [← htail, hfirst]
      rfl
    have hdelta := h.noDelta first hhead
    have hopen := not_isTerminal_of_mem_safeEvents hmem
    cases hkind : first.kind with
    | start => rfl
    | delta => exact absurd hkind hdelta
    | complete => simp [hkind, StreamEventKind.isTerminal] at hopen
    | error => simp [hkind, StreamEventKind.isTerminal] at hopen
    | cancelled => simp [hkind, StreamEventKind.isTerminal] at hopen
  · rw [hscheme.getElem hi]
    exact h.numbered i _
  · have : (safeEvents events).length ≤ maxRuntimeStreamEvents - 1 := List.length_take_le _ _
    have hmax : 1 ≤ maxRuntimeStreamEvents := by decide
    omega
  · have hle := totalChars_le_of_prefix hscheme
    have hbounded := h.bounded
    omega

theorem exists_newStreamEvent {fields : EventFields} (h : fields.validate = .ok ()) :
    ∃ event, newStreamEvent fields = .ok event ∧ event.toEventFields = fields :=
  ⟨⟨fields, h⟩, newStreamEvent_eq_ok.2 rfl, rfl⟩

/-- A failure transcript has something to put before its terminal event. -/
theorem exists_leadingEvents {request : RuntimeGenerationRequest}
    {events : List RuntimeStreamEvent} (h : Accepted request events) :
    ∃ leading, leadingEvents request.operationId events = .ok leading ∧
      Leading request events leading := by
  by_cases hsafe : safeEvents events = []
  · have hvalid : (startEvent request.operationId).validate = .ok () := by
      simp [EventFields.validate, EventFields.validateKind, startEvent, ensure_of, request.checks.1]
    obtain ⟨start, hstart, hfields⟩ := exists_newStreamEvent hvalid
    refine ⟨[start], by rw [leadingEvents, if_pos hsafe, hstart]; rfl, ?_⟩
    refine ⟨⟨start, [], rfl, by rw [hfields]; rfl⟩, fun i hi => ?_, ?_, ?_, ?_, ?_⟩
    · obtain rfl : i = 0 := by simpa using hi
      simp [hfields, startEvent]
    · simp [hfields, startEvent, StreamEventKind.isTerminal]
    · rw [List.length_singleton]
      decide
    · have hmin : 1 ≤ request.maxOutputChars := request.checks.2.2.1.1
      have hlength : start.textLength = 0 := by rw [hfields]; rfl
      rw [totalChars_singleton, hlength]
      omega
    · simp [isDelta, hfields, startEvent]
  · exact ⟨safeEvents events, by rw [leadingEvents, if_neg hsafe]; rfl, leading_safeEvents h hsafe⟩

theorem failureEvent_validate {operationId : Text} (h : isOperationId operationId = true)
    (sequence : Nat) (code : FailureCode) :
    (failureEvent operationId sequence code).validate = .ok () := by
  cases code <;>
    simp [EventFields.validate, EventFields.validateKind, failureEvent, failureOutcome, ensure_of, h]

/-- The terminal event of a failure transcript agrees with the failure. -/
theorem agrees_failureEvent {code : FailureCode} {operationId : Text} {sequence : Nat}
    {terminal : RuntimeStreamEvent}
    (h : terminal.toEventFields = failureEvent operationId sequence code) :
    Agrees (failureOutcome code).1 (some code) terminal ∧ (failureOutcome code).1 ≠ .completed ∧
      terminal.kind.isTerminal = true := by
  have hkind : terminal.kind = (failureOutcome code).2 := by rw [h]; rfl
  have hcode : terminal.failureCode = some code := by rw [h]; rfl
  cases code <;> simp [Agrees, failureOutcome, hkind, hcode, StreamEventKind.isTerminal]

/-- From accepted events a failure transcript is built. -/
theorem streamFailure_isolated {adapterId : Text} {request : RuntimeGenerationRequest}
    {runtimeId : Option Text} {events : List RuntimeStreamEvent} (code : FailureCode)
    (h : Accepted request events) (hadapter : isIdentifier adapterId = true)
    (hruntime : runtimeId.all isIdentifier = true) :
    ∃ result, streamFailure adapterId request runtimeId code events = .ok result ∧
      Isolated request events result := by
  obtain ⟨hoperation, hmodel, ⟨-, hmax⟩, -⟩ := request.checks
  obtain ⟨leading, hleading, hl⟩ := exists_leadingEvents h
  obtain ⟨terminal, hterminal, hfields⟩ :=
    exists_newStreamEvent (failureEvent_validate hoperation leading.length code)
  obtain ⟨hagrees, houtcome, -⟩ := agrees_failureEvent hfields
  have hlength : terminal.textLength = 0 := by rw [hfields]; rfl
  have htotal : totalChars (leading ++ [terminal]) = totalChars leading := by
    rw [totalChars_append, totalChars_singleton, hlength, Nat.add_zero]
  have hbounded := hl.bounded
  have hvalid : StreamResultFields.validate
      { operationId := request.operationId, adapterId := adapterId, runtimeId := runtimeId,
        modelId := request.modelId, outcome := (failureOutcome code).1,
        events := leading ++ [terminal], failureCode := some code } = .ok () := by
    simp only [StreamResultFields.validate, check_bind_eq_ok, ensure_eq_ok,
      validateStreamTranscript_concat_eq_ok]
    refine ⟨hoperation, hadapter, hruntime, hmodel, ?_, ?_, ?_, hl.open_, by omega,
      fun h => absurd h houtcome, hagrees⟩
    · rw [List.length_append, List.length_singleton]
      exact hl.length
    · obtain ⟨first, rest, rfl, hkind⟩ := hl.starts
      exact ⟨first, rest ++ [terminal], rfl, hkind⟩
    · exact numbered_concat hl.numbered (by rw [hfields]; rfl) (by rw [hfields]; rfl)
  obtain ⟨result, hresult, hresultFields⟩ := exists_newStreamResult hvalid
  refine ⟨result, ?_, result.wellFormed, by rw [hresultFields], ?_, ?_⟩
  · simp only [streamFailure, hleading, hterminal, ok_bind]
    exact hresult
  · rw [hresultFields]
    simp only [htotal]
    exact hbounded
  · have hdelta : isDelta terminal = false := by
      have hkind : terminal.kind = (failureOutcome code).2 := by rw [hfields]; rfl
      cases code <;> simp [isDelta, hkind, failureOutcome]
    rw [hresultFields, List.filter_append, List.filter_singleton, hdelta]
    simpa using hl.deltas

/-- No failure transcript is built of events that start with a delta. -/
theorem streamFailure_of_delta {adapterId : Text} {request : RuntimeGenerationRequest}
    {runtimeId : Option Text} {first : RuntimeStreamEvent} {rest : List RuntimeStreamEvent}
    (code : FailureCode) (hkind : first.kind = .delta) (result : RuntimeStreamResult) :
    streamFailure adapterId request runtimeId code (first :: rest) ≠ .ok result := by
  have hopen : first.kind.isTerminal = false := by rw [hkind]; rfl
  have hsafe : safeEvents (first :: rest) =
      first :: (prefixBeforeTerminal rest).take (maxRuntimeStreamEvents - 2) := by
    rw [safeEvents, prefixBeforeTerminal, List.takeWhile_cons_of_pos (by rw [hopen]; rfl)]
    rfl
  intro h
  simp only [streamFailure, bind_eq_ok] at h
  obtain ⟨leading, hleading, terminal, -, hresult⟩ := h
  rw [leadingEvents, hsafe, if_neg (by simp), pure_eq_ok] at hleading
  obtain ⟨first', rest', hevents, hstart⟩ := result.wellFormed.starts
  rw [newStreamResult_eq_ok.1 hresult, ← hleading] at hevents
  obtain rfl : first = first' := (List.cons.inj hevents).1
  rw [hkind] at hstart
  cases hstart

theorem inTry_streamFailure_of_delta {adapterId : Text} {request : RuntimeGenerationRequest}
    {runtimeId : Option Text} {first : RuntimeStreamEvent} (code : FailureCode)
    (hkind : first.kind = .delta) (rest : List RuntimeStreamEvent) (result : RuntimeStreamResult) :
    inTry (streamFailure adapterId request runtimeId code (first :: rest)) ≠ .ok result := by
  intro h
  cases hf : streamFailure adapterId request runtimeId code (first :: rest) with
  | ok result' => exact streamFailure_of_delta code hkind result' hf
  | error e =>
    rw [hf] at h
    cases h

/-! ## The loop -/

theorem Isolated.mono {request : RuntimeGenerationRequest} {events events' : List RuntimeStreamEvent}
    {result : RuntimeStreamResult} (h : Isolated request events result) (hle : events <+: events') :
    Isolated request events' result :=
  { h with deltas := h.deltas.trans (hle.filter _) }

section Loop

variable {adapterId : Text} {request : RuntimeGenerationRequest} {context : RuntimeAdapterContext}
  {runtimeId : Option Text} {ending : StreamEnd}

variable (request context) in
/-- The first value that a stream yields is a delta event that the loop accepts. -/
def leadsWithDelta : List (Look × Option RuntimeStreamEvent) → Bool
  | (look, some event) :: _ => postFailure context look = none ∧
      event.operationId = request.operationId ∧ event.sequence = 0 ∧ event.kind = .delta ∧
      (event.textLength : Int) ≤ request.maxOutputChars
  | _ => false

variable (request) in
/-- The `try` block has returned a good result, or has left events of which one can be built. -/
def Handled (events : List RuntimeStreamEvent)
    (body : List RuntimeStreamEvent × Except Exc RuntimeStreamResult) : Prop :=
  (∃ result, body.2 = .ok result ∧ Isolated request events result) ∨
    (∃ exc, body.2 = .error exc ∧ exc ≠ .interrupt) ∧ Accepted request body.1 ∧ body.1 <+: events

theorem Handled.mono {events events' : List RuntimeStreamEvent}
    {body : List RuntimeStreamEvent × Except Exc RuntimeStreamResult}
    (h : Handled request events body) (hle : events <+: events') :
    Handled request events' body := by
  rcases h with ⟨result, hresult, hisolated⟩ | ⟨hexc, haccepted, hscheme⟩
  · exact .inl ⟨result, hresult, hisolated.mono hle⟩
  · exact .inr ⟨hexc, haccepted, hscheme.trans hle⟩

/-- A failure that is returned inside the `try` block. -/
theorem handled_streamFailure {events kept : List RuntimeStreamEvent} (code : FailureCode)
    (h : Accepted request events) (hadapter : isIdentifier adapterId = true)
    (hruntime : runtimeId.all isIdentifier = true) :
    Handled request events
      (kept, inTry (streamFailure adapterId request runtimeId code events)) := by
  obtain ⟨result, hresult, hisolated⟩ := streamFailure_isolated code h hadapter hruntime
  exact .inl ⟨result, by rw [hresult]; rfl, hisolated⟩

/-- The end of a stream whose events have all been accepted. -/
theorem streamLoop_nil_handled {events : List RuntimeStreamEvent} (h : Accepted request events)
    (hadapter : isIdentifier adapterId = true) (hruntime : runtimeId.all isIdentifier = true)
    (hending : ending ≠ .raises .interrupt) :
    Handled request events (streamLoop adapterId request context runtimeId ending events []) := by
  unfold streamLoop
  split
  · rename_i exc
    exact .inr ⟨⟨exc, rfl, fun hexc => hending (by rw [hexc])⟩, h, List.prefix_rfl⟩
  · split
    · exact handled_streamFailure _ h hadapter hruntime
    · cases hnew : newStreamResult
        { operationId := request.operationId, adapterId := adapterId, runtimeId := runtimeId,
          modelId := request.modelId, outcome := .completed, events := events,
          failureCode := none } with
      | error e => exact .inr ⟨⟨.exception, rfl, by decide⟩, h, List.prefix_rfl⟩
      | ok result =>
        have hfields := newStreamResult_eq_ok.1 hnew
        refine .inl ⟨result, rfl, result.wellFormed, by rw [hfields], ?_, ?_⟩
        · rw [hfields]
          exact h.bounded
        · exact ⟨[], by rw [List.append_nil, hfields]⟩

/-- A step of the loop: an accepted event. -/
theorem Accepted.concat {events : List RuntimeStreamEvent} {event : RuntimeStreamEvent}
    (h : Accepted request events) (hoperation : event.operationId = request.operationId)
    (hsequence : event.sequence = events.length)
    (hlength : (events ++ [event]).length ≤ maxRuntimeStreamEvents)
    (hbounded : (totalChars (events ++ [event]) : Int) ≤ request.maxOutputChars)
    (hdelta : events = [] → event.kind ≠ .delta) : Accepted request (events ++ [event]) := by
  refine ⟨numbered_concat h.numbered hoperation hsequence, hlength, hbounded, ?_⟩
  cases events with
  | nil => simpa using hdelta rfl
  | cons first rest => simpa using h.noDelta

theorem streamLoop_handled (hadapter : isIdentifier adapterId = true)
    (hruntime : runtimeId.all isIdentifier = true) (hending : ending ≠ .raises .interrupt)
    {items : List (Look × Option RuntimeStreamEvent)} {events : List RuntimeStreamEvent}
    (h : Accepted request events)
    (hleads : events = [] → leadsWithDelta request context items = false) :
    Handled request (events ++ yielded items)
      (streamLoop adapterId request context runtimeId ending events items) := by
  induction items generalizing events with
  | nil =>
    rw [yielded, List.filterMap_nil, List.append_nil]
    exact streamLoop_nil_handled h hadapter hruntime hending
  | cons item items ih =>
    obtain ⟨look, value⟩ := item
    have hscheme : events <+: events ++ yielded ((look, value) :: items) := List.prefix_append _ _
    unfold streamLoop
    split
    · exact (handled_streamFailure _ h hadapter hruntime).mono hscheme
    · rename_i hlook
      cases value with
      | none => exact .inr ⟨⟨.exception, rfl, by decide⟩, h, hscheme⟩
      | some event =>
        dsimp only
        split
        · exact .inr ⟨⟨.exception, rfl, by decide⟩, h, hscheme⟩
        rename_i horder
        rw [not_or, not_not, not_not] at horder
        split
        · exact (handled_streamFailure _ h hadapter hruntime).mono hscheme
        · rename_i hlimits
          rw [not_or, not_lt, not_lt] at hlimits
          have hdelta : events = [] → event.kind ≠ .delta := by
            rintro rfl hkind
            have hlead := hleads rfl
            have hbounded := hlimits.2
            rw [List.nil_append, totalChars_singleton] at hbounded
            simp [leadsWithDelta, hlook, horder, hkind, hbounded] at hlead
          have haccepted := h.concat horder.1 horder.2 hlimits.1 hlimits.2 hdelta
          have hall : events ++ yielded ((look, some event) :: items) =
              events ++ [event] ++ yielded items := by simp [yielded]
          rw [hall]
          exact ih haccepted (by simp)

/-- Once a delta has been accepted first, nothing that follows makes the `try` block return. -/
theorem streamLoop_of_delta {first : RuntimeStreamEvent} (hkind : first.kind = .delta)
    (items : List (Look × Option RuntimeStreamEvent)) (rest : List RuntimeStreamEvent) :
    (∀ result, (streamLoop adapterId request context runtimeId ending (first :: rest) items).2 ≠
      .ok result) ∧ ∃ rest',
      (streamLoop adapterId request context runtimeId ending (first :: rest) items).1 =
        first :: rest' := by
  induction items generalizing rest with
  | nil =>
    unfold streamLoop
    split
    · exact ⟨nofun, rest, rfl⟩
    · split
      · exact ⟨inTry_streamFailure_of_delta _ hkind _, rest, rfl⟩
      · refine ⟨fun result h => ?_, rest, rfl⟩
        cases hnew : newStreamResult
          { operationId := request.operationId, adapterId := adapterId, runtimeId := runtimeId,
            modelId := request.modelId, outcome := .completed, events := first :: rest,
            failureCode := none } with
        | error e =>
          simp only [hnew] at h
          cases h
        | ok result =>
          obtain ⟨first', rest', hevents, hstart⟩ := result.wellFormed.starts
          rw [newStreamResult_eq_ok.1 hnew] at hevents
          obtain rfl : first = first' := (List.cons.inj hevents).1
          rw [hkind] at hstart
          cases hstart
  | cons item items ih =>
    obtain ⟨look, value⟩ := item
    unfold streamLoop
    split
    · exact ⟨inTry_streamFailure_of_delta _ hkind _, rest, rfl⟩
    · cases value with
      | none => exact ⟨nofun, rest, rfl⟩
      | some event =>
        dsimp only
        split
        · exact ⟨nofun, rest, rfl⟩
        split
        · exact ⟨inTry_streamFailure_of_delta _ hkind _, rest ++ [event], rfl⟩
        · exact ih (rest ++ [event])

variable (adapterId runtimeId) in
/-- The handlers return a good result whenever the `try` block does or leaves good events. -/
theorem Handled.exists_handled {events : List RuntimeStreamEvent}
    {body : List RuntimeStreamEvent × Except Exc RuntimeStreamResult}
    (h : Handled request events body) (hadapter : isIdentifier adapterId = true)
    (hruntime : runtimeId.all isIdentifier = true) :
    ∃ result, handleStream adapterId request runtimeId body.1 body.2 = .ok result ∧
      Isolated request events result := by
  rcases h with ⟨result, hresult, hisolated⟩ | ⟨⟨exc, hexc, hne⟩, haccepted, hscheme⟩
  · exact ⟨result, by rw [hresult]; rfl, hisolated⟩
  · have hfailure : ∀ code, ∃ result,
        inTry (streamFailure adapterId request runtimeId code body.1) = .ok result ∧
          Isolated request events result := by
      intro code
      obtain ⟨result, hresult, hisolated⟩ :=
        streamFailure_isolated code haccepted hadapter hruntime
      exact ⟨result, by rw [hresult]; rfl, hisolated.mono hscheme⟩
    rw [hexc]
    cases exc with
    | adapterFailure code => exact hfailure code
    | exception => exact hfailure _
    | interrupt => exact absurd rfl hne

/-- The `try` statement on a stream that leads with a delta raises. -/
theorem streamEvents_of_delta {iteration : Iteration}
    (h : leadsWithDelta request context iteration.items = true) (result : RuntimeStreamResult) :
    streamEvents adapterId request context runtimeId (.ok (some iteration)) ≠ .ok result := by
  obtain ⟨items, ending⟩ := iteration
  match items, h with
  | (look, some event) :: items, h =>
    simp only [leadsWithDelta, decide_eq_true_eq] at h
    obtain ⟨hlook, hoperation, hsequence, hkind, hbounded⟩ := h
    have htotal : totalChars [event] = event.textLength := totalChars_singleton event
    have hlimits : ¬ (maxRuntimeStreamEvents < ([] ++ [event]).length ∨
        request.maxOutputChars < totalChars ([] ++ [event])) := by
      rw [List.nil_append, htotal, not_or, not_lt, not_lt]
      exact ⟨by rw [List.length_singleton]; decide, hbounded⟩
    have hstep : streamLoop adapterId request context runtimeId ending []
          ((look, some event) :: items) =
        streamLoop adapterId request context runtimeId ending [event] items := by
      rw [streamLoop, hlook]
      dsimp only
      rw [if_neg (by simp [hoperation, hsequence]), if_neg hlimits, List.nil_append]
    obtain ⟨hnot, rest, hrest⟩ := @streamLoop_of_delta adapterId request context runtimeId ending event hkind items []
    intro hresult
    rw [streamEvents, streamBody, hstep, hrest] at hresult
    cases hbody : (streamLoop adapterId request context runtimeId ending [event] items).2 with
    | ok result' => exact hnot result' hbody
    | error exc =>
      rw [hbody] at hresult
      cases exc with
      | adapterFailure code => exact inTry_streamFailure_of_delta code hkind rest result hresult
      | exception => exact inTry_streamFailure_of_delta _ hkind rest result hresult
      | interrupt => cases hresult

end Loop

/-! ## The call -/

/-- Nothing but exceptions of class `Exception` leaves the adapter while it is prepared. -/
structure PrepareReplies.RaisesExceptions (replies : PrepareReplies) : Prop where
  declaration : replies.declaration ≠ .error .interrupt
  healthDeclaration : replies.healthDeclaration ≠ .error .interrupt
  health : replies.health ≠ .error .interrupt

/-- Nothing but exceptions of class `Exception` leaves the adapter during a call of `stream`. -/
structure StreamAdapter.RaisesExceptions (adapter : StreamAdapter) : Prop where
  prepare : adapter.toPrepareReplies.RaisesExceptions
  stream : adapter.stream ≠ .error .interrupt
  ending : ∀ iteration, adapter.stream = .ok (some iteration) →
    iteration.ending ≠ .raises .interrupt

theorem exists_exceptException {α : Type} {otherwise : α} {x : Except Exc α}
    (h : x ≠ .error .interrupt) : ∃ a, exceptException otherwise x = .ok a := by
  match x, h with
  | .ok a, _ => exact ⟨a, rfl⟩
  | .error (.adapterFailure _), _ => exact ⟨otherwise, rfl⟩
  | .error .exception, _ => exact ⟨otherwise, rfl⟩

theorem exists_declaration {adapterId : Text} {reply : Reply RuntimeAdapterDeclaration}
    (h : reply ≠ .error .interrupt) : ∃ d, declaration adapterId reply = .ok d := by
  refine exists_exceptException fun hmap => ?_
  cases reply with
  | error exc =>
    cases hmap
    exact h rfl
  | ok value => cases hmap

theorem exists_safeHealth {adapterId : Text} {replies : PrepareReplies}
    (h : replies.RaisesExceptions) : ∃ health, safeHealth adapterId replies = .ok health := by
  refine exists_exceptException fun hdo => ?_
  rw [bind_eq_error] at hdo
  rcases hdo with hdo | ⟨declared, -, hdo⟩
  · exact h.healthDeclaration hdo
  rw [bind_eq_error] at hdo
  rcases hdo with hdo | ⟨health, -, hdo⟩
  · exact h.health hdo
  split at hdo
  · split at hdo <;> cases hdo
  · cases hdo

theorem exists_prepare {α : Type} {adapterId : Text} {operation : Operation}
    {context : RuntimeAdapterContext} {looks : CallLooks} {replies : α → PrepareReplies} {adapter : α}
    (h : (replies adapter).RaisesExceptions) :
    ∃ r, prepare adapterId operation context looks replies (some adapter) = .ok r ∧
      ∀ adapter' health, r = .inr (adapter', health) → adapter' = adapter := by
  obtain ⟨declared, hdeclared⟩ := @exists_declaration adapterId _ h.declaration
  obtain ⟨health, hhealth⟩ := @exists_safeHealth adapterId _ h
  unfold prepare
  simp only [hdeclared, hhealth, ok_bind]
  repeat' split
  all_goals exact ⟨_, rfl, by simp +contextual⟩

section Call

variable [FloatAddition]

/-- The deadline of a call. -/
def callContext (request : RuntimeGenerationRequest) (looks : CallLooks) : RuntimeAdapterContext where
  operationId := request.operationId
  deadlineMonotonic := FloatAddition.add looks.started request.timeoutSeconds

theorem context_eq (request : RuntimeGenerationRequest) (looks : CallLooks) :
    context request.operationId request.timeoutSeconds looks.started =
      .ok (callContext request looks) := by
  obtain ⟨hoperation, -, -, htimeout⟩ := request.checks
  simp only [context, validateOperationId, ensure_of hoperation, ensure_of htimeout, ok_bind]
  rfl

/-- The call comes to the stream of the adapter, and the first value that the stream yields is a
delta event that the loop accepts. -/
def BeginsWithDelta (looks : CallLooks) (adapterId : Text) (request : RuntimeGenerationRequest)
    (adapter : StreamAdapter) : Prop :=
  ∃ health iteration, prepare adapterId .stream (callContext request looks) looks
      StreamAdapter.toPrepareReplies (some adapter) = .ok (.inr (adapter, health)) ∧
    adapter.stream = .ok (some iteration) ∧
    leadsWithDelta request (callContext request looks) iteration.items = true

omit [FloatAddition] in
/-- The `try` statement, for an adapter that does not lead with a delta. -/
theorem streamEvents_isolated {adapterId : Text} {request : RuntimeGenerationRequest}
    {context : RuntimeAdapterContext} {runtimeId : Option Text} {adapter : StreamAdapter}
    (hadapter : isIdentifier adapterId = true) (hruntime : runtimeId.all isIdentifier = true)
    (hexceptions : adapter.RaisesExceptions)
    (hdelta : ∀ iteration, adapter.stream = .ok (some iteration) →
      leadsWithDelta request context iteration.items = false) :
    ∃ result, streamEvents adapterId request context runtimeId adapter.stream = .ok result ∧
      Isolated request adapter.yielded result := by
  suffices h : Handled request adapter.yielded
      (streamBody adapterId request context runtimeId adapter.stream) from
    h.exists_handled adapterId runtimeId hadapter hruntime
  rw [StreamAdapter.yielded]
  cases hstream : adapter.stream with
  | error exc =>
    refine .inr ⟨⟨exc, rfl, ?_⟩, accepted_nil request, List.nil_prefix⟩
    rintro rfl
    exact hexceptions.stream hstream
  | ok value =>
    cases value with
    | none => exact .inr ⟨⟨.exception, rfl, by decide⟩, accepted_nil request, List.nil_prefix⟩
    | some iteration =>
      have hloop := @streamLoop_handled adapterId request context runtimeId iteration.ending
        hadapter hruntime (hexceptions.ending iteration hstream) iteration.items []
        (accepted_nil request) fun _ => hdelta iteration hstream
      rwa [List.nil_append] at hloop

/-- The call of a registered adapter, its arguments being valid. -/
theorem stream_eq {registry : Registry StreamAdapter} {looks : CallLooks} {adapterId : Text}
    (request : RuntimeGenerationRequest) (hid : isIdentifier adapterId = true) :
    stream registry looks adapterId request =
      prepare adapterId .stream (callContext request looks) looks StreamAdapter.toPrepareReplies
        (registry.get adapterId) >>= fun prepared => match prepared with
        | .inl code => inTry (streamFailure adapterId request none code [])
        | .inr (adapter, health) => streamEvents adapterId request (callContext request looks)
            health.runtimeId adapter.stream := by
  have hnormalized : inTry (validateIdentifier "adapter ID" adapterId) = .ok adapterId := by
    rw [validateIdentifier, ensure_of hid]
    rfl
  have hcontext : inTry (context request.operationId request.timeoutSeconds looks.started) =
      .ok (callContext request looks) := congrArg inTry (context_eq request looks)
  simp only [stream, hnormalized, ok_bind, hcontext]
  all_goals exact Eq.refl _

end Call

/-! ## An adapter that leads with a delta -/

section Run

/-- Instants that are added exactly. -/
@[reducible] def exactAddition : FloatAddition where
  add := (· + ·)

attribute [local instance] exactAddition

def early : Look := { isCancelled := false, now := 0 }

def earlyLooks : CallLooks := { started := 0, entry := early, prepared := early }

def exampleRequest : RuntimeGenerationRequest where
  operationId := "op".toList
  modelId := "model".toList
  inputText := "hello".toList
  maxOutputChars := 10
  timeoutSeconds := 60
  valid := by decide +kernel

def exampleDeclaration : RuntimeAdapterDeclaration where
  adapterId := "local".toList
  adapterVersion := "1".toList
  runtimeClass := "local".toList
  connectionKind := .inProcess
  supportedOperations := [.generate, .stream]
  offlineCapable := true
  cloudFallback := false
  automaticDownload := false
  valid := by decide +kernel

def exampleHealth : RuntimeHealth where
  adapterId := "local".toList
  runtimeId := some "runtime".toList
  state := .ready
  failureCode := none
  valid := by decide +kernel

def exampleReplies : PrepareReplies where
  declaration := .ok (some exampleDeclaration)
  healthDeclaration := .ok (some exampleDeclaration)
  health := .ok (some exampleHealth)

def deltaEvent (sequence : Nat) : EventFields where
  operationId := "op".toList
  sequence := sequence
  kind := .delta
  text := some "hi".toList
  finishReason := none
  failureCode := none

/-- An adapter that yields one delta, numbered 0, and stops. -/
def deltaAdapter : StreamAdapter where
  toPrepareReplies := exampleReplies
  stream := .ok (some
    { items := [(early, some ⟨deltaEvent 0, by decide +kernel⟩)], ending := .stops early })

/-- An adapter that yields nothing and raises. -/
def failingAdapter : StreamAdapter where
  toPrepareReplies := exampleReplies
  stream := .ok (some { items := [], ending := .raises .exception })

/-- The registry of one adapter, `local`. -/
def singleRegistry (adapter : StreamAdapter) : Registry StreamAdapter where
  get adapterId := if adapterId = "local".toList then some adapter else none
  valid adapterId adapter h := by
    split at h
    · rename_i hid
      rw [hid]
      decide
    · cases h

theorem raisesExceptions_exampleReplies : exampleReplies.RaisesExceptions :=
  ⟨nofun, nofun, nofun⟩

theorem raisesExceptions_failingAdapter : failingAdapter.RaisesExceptions where
  prepare := raisesExceptions_exampleReplies
  stream := nofun
  ending iteration h := by
    cases h
    exact nofun

theorem raisesExceptions_deltaAdapter : deltaAdapter.RaisesExceptions where
  prepare := raisesExceptions_exampleReplies
  stream := nofun
  ending iteration h := by
    cases h
    exact nofun

end Run

end DollState.Runtime
