import DollState.Credential.Custody
import DollState.Credential.Truthful

/-!
# Secret material does not outlive its operation

`Kept` is what a call of the store has to do with the materials in its hands and what its result may
say. It holds of every call but one kind: a `lookup` whose adapter has handed a material over and whose
clock then fails. `_now` raises there and leaves the material open, as nothing closes it on that way.
-/

namespace DollState.Credential

open StateLib ReadProgram

/-! ## What a call has to do -/

/-- The operation of an adapter has returned normally, in a context: with anything, or for a lookup
with a material. -/
def Answers (reference : SecretReferenceMetadata) (context : AdapterContextFields)
    (e : Event Effect Effect.Answer) : Prop :=
  (∃ operation adapter material c, c.fields = context ∧
    e = ⟨.mutate operation adapter reference material c, .returns⟩) ∨
  ∃ adapter material c, c.fields = context ∧
    e = ⟨.lookup adapter reference c, .material material⟩

/-- The adapter has returned normally, and after that the call was not cancelled and the deadline had
not passed. -/
def Confirmed (reference : SecretReferenceMetadata) (request : RequestFields) (t : Trace) : Prop :=
  ∃ before e after context started now, t = before ++ e :: after ∧ Answers reference context e ∧
    ⟨.storeClock, some started⟩ ∈ before ∧
    context.deadlineMonotonic = started + request.timeoutSeconds ∧
    ⟨.isCancelled request.cancellation, false⟩ ∈ after ∧
    ⟨.storeClock, some now⟩ ∈ after ∧ now < context.deadlineMonotonic

/-- What the call `task` has to do, when `closed` are the closed materials before it and `closed'` those
after it. -/
structure Kept [DigitLibrary] (task : StoreTask) (closed : Set MaterialId) (t : Trace)
    (r : Checked StoreReturned) (closed' : Set MaterialId) : Prop where
  /-- a material that the call was given -/
  given : ∀ material, task.material = some material → material ∉ closed → material ∈ closed'
  /-- a material that the adapter has returned -/
  found : ∀ adapter reference context material,
    ⟨.lookup adapter reference context, .material material⟩ ∈ t →
      (material ∉ closed' ↔ r = .ok (.lookup (.found material)))
  returns : isValidReference task.reference = true → ⟨.storeClock, none⟩ ∉ t →
    (∀ material, task.material = some material → material ∉ closed) → ∃ result, r = .ok result
  confirmed : ∀ result, r = .ok result → result.completion = .confirmed →
    Confirmed task.reference task.request.fields t
  /-- a mutation that is reported as not completed -/
  notCompleted : ∀ result, r = .ok (.operation result) → result.fields.completion = .notCompleted →
    ∀ operation adapter reference material context answer,
      ⟨.mutate operation adapter reference material context, answer⟩ ∈ t →
        ∃ failure, answer = .failure failure ∧ failure.completion = .notCompleted

/-- The clock fails after the adapter of a lookup has returned a material. -/
def ClockLost (t : Trace) : Prop :=
  ∃ before adapter reference context material after,
    t = before ++ ⟨.lookup adapter reference context, .material material⟩ :: after ∧
      ⟨.storeClock, none⟩ ∈ after

/-! ## The closed materials -/

theorem Custody.append {closed closed' : Set MaterialId} {t₁ t₂ : Trace}
    (h : Custody closed (t₁ ++ t₂) closed') :
    ∃ closed₁, Custody closed t₁ closed₁ ∧ Custody closed₁ t₂ closed' := by
  induction t₁ generalizing closed with
  | nil => exact ⟨closed, .nil closed, h⟩
  | cons e t₁ ih =>
    cases h with
    | cons he h =>
      obtain ⟨closed₁, h₁, h₂⟩ := ih h
      exact ⟨closed₁, .cons he h₁, h₂⟩

theorem Custody.uncons {closed closed' : Set MaterialId} {e : Event Effect Effect.Answer} {t : Trace}
    (h : Custody closed (e :: t) closed') :
    ∃ closed₁, e.1.Leaves closed closed₁ e.2 ∧ Custody closed₁ t closed' := by
  cases h with
  | cons he h => exact ⟨_, he, h⟩

/-- A call that leaves the materials alone. -/
theorem Custody.skip {closed closed' : Set MaterialId} {e : Event Effect Effect.Answer} {t : Trace}
    (h : Custody closed (e :: t) closed') (he : ∀ closed₁, e.1.Leaves closed closed₁ e.2 →
      closed₁ = closed) : Custody closed t closed' := by
  obtain ⟨closed₁, hleaves, h⟩ := h.uncons
  exact he closed₁ hleaves ▸ h

/-- A check of a material tells the truth. -/
theorem Custody.isClosed_iff {closed closed' : Set MaterialId} {material : MaterialId}
    {answer : Bool} {t : Trace} (h : Custody closed (⟨.isClosed material, answer⟩ :: t) closed') :
    answer = true ↔ material ∈ closed := by
  obtain ⟨_, ⟨htruth, -⟩, -⟩ := h.uncons
  exact htruth

theorem Custody.eq_of_nil {closed closed' : Set MaterialId} (h : Custody closed [] closed') :
    closed' = closed := by
  cases h
  rfl

/-- A closed material stays closed. -/
theorem Effect.Leaves.subset {closed closed' : Set MaterialId} {q : Effect} {a : q.Answer}
    (h : q.Leaves closed closed' a) : closed ⊆ closed' := by
  cases q with
  | close material =>
    rw [show closed' = insert material closed from h]
    exact Set.subset_insert _ _
  | status | lookup | mutate | handle => exact h
  | isClosed | borrow => exact h.2.ge
  | _ => exact Eq.ge h

theorem Custody.subset {closed closed' : Set MaterialId} {t : Trace} (h : Custody closed t closed') :
    closed ⊆ closed' := by
  induction h with
  | nil => exact subset_rfl
  | cons he _ ih => exact he.subset.trans ih

/-- What is closed after a material has been closed. -/
theorem Custody.mem_of_close {closed closed' : Set MaterialId} {material : MaterialId}
    (h : Custody closed [⟨.close material, ()⟩] closed') : material ∈ closed' := by
  obtain ⟨closed₁, hleaves, h⟩ := h.uncons
  have hclosed : closed₁ = insert material closed := hleaves
  exact h.subset (hclosed ▸ Set.mem_insert ..)

/-! ## Parts of a call -/

def Effect.isLookup : Effect → Bool
  | .lookup _ _ _ => true
  | _ => false

/-- The calls of a part that neither asks for a material nor passes one on. -/
def Preparatory (t : Trace) : Prop := ∀ e ∈ t, e.1.ofPreparation = true

theorem Preparatory.append {t₁ t₂ : Trace} (h₁ : Preparatory t₁) (h₂ : Preparatory t₂) :
    Preparatory (t₁ ++ t₂) := List.forall_mem_append.2 ⟨h₁, h₂⟩

theorem Preparatory.not_mutate {t : Trace} (h : Preparatory t) {operation : SecretStoreOperation}
    {adapter : AdapterId} {reference : SecretReferenceMetadata} {material : Option MaterialId}
    {context : SecretStoreAdapterContext} {answer : MutationAnswer} :
    ⟨.mutate operation adapter reference material context, answer⟩ ∉ t :=
  fun he => by cases h _ he

theorem isLookup_of_ofPreparation {q : Effect} (h : q.ofPreparation = true) : q.isLookup = false := by
  cases q <;> first | rfl | cases h

theorem Preparatory.not_lookup {t : Trace} (h : Preparatory t) : ∀ e ∈ t, e.1.isLookup = false :=
  fun e he => isLookup_of_ofPreparation (h e he)

/-- The context that an adapter is called with. -/
def Prepared (request : RequestFields) (context : AdapterContextFields) (t : Trace) : Prop :=
  ∃ started, ⟨.storeClock, some started⟩ ∈ t ∧
    context.deadlineMonotonic = started + request.timeoutSeconds

/-- A result in the shape in which the calls of a store return it. -/
theorem traced_map {α β : Type} {p : Calls α} {f : α → β} {t : Trace} {r : Checked β}
    (h : Traced (p >>= fun a => pure (f a)) t r) : ∃ r', Traced p t r' ∧ r = r'.map f := by
  rcases traced_bind.1 h with ⟨e, rfl, hp⟩ | ⟨a, t₁, t₂, rfl, hp, hrest⟩
  · exact ⟨_, hp, rfl⟩
  · obtain ⟨rfl, rfl⟩ := traced_pure.1 hrest
    exact ⟨.ok a, by simpa using hp, rfl⟩

theorem eq_of_map_operation {r : Checked SecretStoreOperationResult} {result : StoreReturned}
    (h : r.map .operation = .ok result) :
    ∃ operation, r = .ok operation ∧ result = .operation operation := by
  obtain ⟨operation, hr, rfl⟩ := map_eq_ok.1 h
  exact ⟨operation, hr, rfl⟩

theorem Confirmed.frame {reference : SecretReferenceMetadata} {request : RequestFields} {t : Trace}
    (h : Confirmed reference request t) (t₁ t₂ : Trace) :
    Confirmed reference request (t₁ ++ t ++ t₂) := by
  obtain ⟨before, e, after, context, started, now, rfl, hanswers, hstarted, hdeadline, hcancelled,
    hnow, hlt⟩ := h
  exact ⟨t₁ ++ before, e, after ++ t₂, context, started, now, by simp, hanswers,
    List.mem_append_right _ hstarted, hdeadline, List.mem_append_left _ hcancelled,
    List.mem_append_left _ hnow, hlt⟩

theorem traced_storeNow_of {t : Trace} {r : Checked Rat} (h : Traced storeNow t r) :
    (∃ now, t = [⟨.storeClock, some now⟩] ∧ r = .ok now) ∨
      t = [⟨.storeClock, none⟩] ∧ r = .error (storeError "secret-store clock failed") := by
  obtain ⟨reading, t', rfl, hrest⟩ := traced_read_bind.1 h
  cases reading with
  | some now =>
    obtain ⟨rfl, rfl⟩ := traced_pure.1 hrest
    exact .inl ⟨now, rfl, rfl⟩
  | none =>
    obtain ⟨rfl, rfl⟩ := traced_lift.1 hrest
    exact .inr ⟨rfl, rfl⟩

/-- A reading of the clock in front of a program. -/
theorem traced_storeNow_bind {α : Type} {f : Rat → Calls α} {t : Trace} {r : Checked α}
    (h : Traced (storeNow >>= f) t r) :
    (∃ now t', t = ⟨.storeClock, some now⟩ :: t' ∧ Traced (f now) t' r) ∨
      t = [⟨.storeClock, none⟩] ∧ r = .error (storeError "secret-store clock failed") := by
  rcases traced_bind.1 h with ⟨e, rfl, hnow⟩ | ⟨now, t₁, t₂, rfl, hnow, hrest⟩
  · rcases traced_storeNow_of hnow with ⟨_, _, hr⟩ | ⟨rfl, hr⟩
    · cases hr
    · cases hr
      exact .inr ⟨rfl, rfl⟩
  · rcases traced_storeNow_of hnow with ⟨_, rfl, hr⟩ | ⟨_, hr⟩
    · cases hr
      exact .inl ⟨now, t₂, rfl, hrest⟩
    · cases hr

/-- What `_prepare` comes to: a failure code, an adapter with its context, or the clock has failed. -/
theorem traced_prepareAdapterFor {operation : SecretStoreOperation} {broker : Broker}
    {reference : SecretReferenceMetadata} {request : RequestFields} {t : Trace}
    {r : Checked (SecretStoreFailureCode ⊕ AdapterId × SecretStoreAdapterContext)}
    (hadapter : isAdapterClass reference.storeAdapterClass = true)
    (hoperation : isTokenOf 128 request.operationId = true)
    (h : Traced (prepareAdapterFor operation broker reference request) t r) : Preparatory t ∧
      ((∃ code, r = .ok (.inl code)) ∨ ⟨.storeClock, none⟩ ∈ t ∧ (∃ e, r = .error e) ∨
        ∃ adapter context, r = .ok (.inr (adapter, context)) ∧
          Prepared request context.fields t) := by
  rcases traced_storeNow_bind h with ⟨started, t₁, rfl, hrest⟩ | ⟨rfl, rfl⟩
  swap
  · exact ⟨by simp [Preparatory, Effect.ofPreparation], .inr (.inl ⟨by simp, _, rfl⟩)⟩
  have hrest := (traced_ok_bind (ensure_of hadapter _)).1 hrest
  split at hrest
  · obtain ⟨rfl, rfl⟩ := traced_pure.1 hrest
    exact ⟨by simp [Preparatory, Effect.ofPreparation], .inl ⟨_, rfl⟩⟩
  obtain ⟨status, t₂, t₃, rfl, hstatus, hask⟩ := hrest.bind_ok (fun t₂ _ => Preparatory t₂)
    fun t₂ t₃ r₁ _ h₁ => by
      obtain ⟨status, hr⟩ := traced_adapterStatus h₁
      exact ⟨status, hr, only_adapterStatus.traced h₁⟩
  have hfirst : Preparatory (⟨.storeClock, some started⟩ :: t₂) :=
    List.forall_mem_cons.2 ⟨rfl, hstatus⟩
  obtain ⟨cancelled, t₄, rfl, htime⟩ := traced_read_bind.1 hask
  have hsecond : Preparatory ((⟨.storeClock, some started⟩ :: t₂) ++
      [⟨.isCancelled request.cancellation, cancelled⟩]) :=
    hfirst.append (by simp [Preparatory, Effect.ofPreparation])
  split at htime
  · obtain ⟨rfl, rfl⟩ := traced_pure.1 htime
    exact ⟨hsecond, .inl ⟨_, rfl⟩⟩
  rcases traced_storeNow_bind htime with ⟨now, t₅, rfl, hjudge⟩ | ⟨rfl, rfl⟩
  swap
  · refine ⟨?_, .inr (.inl ⟨by simp, _, rfl⟩)⟩
    have hthird : Preparatory [⟨.storeClock, none⟩] := by simp [Preparatory, Effect.ofPreparation]
    simpa using hsecond.append hthird
  have hthird := hsecond.append
    (show Preparatory [⟨.storeClock, some now⟩] by simp [Preparatory, Effect.ofPreparation])
  suffices t₅ = [] ∧ ((∃ code, r = .ok (.inl code)) ∨
      ∃ adapter context, r = .ok (.inr (adapter, context)) ∧
        context.fields.deadlineMonotonic = started + request.timeoutSeconds) by
    obtain ⟨rfl, hcode | ⟨adapter, context, hr, hdeadline⟩⟩ := this
    · exact ⟨by simpa using hthird, .inl hcode⟩
    · exact ⟨by simpa using hthird, .inr (.inr ⟨adapter, context, hr, started, by simp, hdeadline⟩)⟩
  split at hjudge
  · obtain ⟨rfl, rfl⟩ := traced_pure.1 hjudge
    exact ⟨rfl, .inl ⟨_, rfl⟩⟩
  split at hjudge
  · obtain ⟨rfl, rfl⟩ := traced_pure.1 hjudge
    exact ⟨rfl, .inl ⟨_, rfl⟩⟩
  · obtain ⟨context, hcontext⟩ : ∃ context, construct AdapterContextFields.validate
        ⟨request.operationId, started + request.timeoutSeconds, request.userPresence,
          request.cancellation⟩ = .ok context := exists_construct (ensure_of hoperation _)
    have hpure := (traced_ok_bind hcontext).1 hjudge
    obtain ⟨rfl, rfl⟩ := traced_pure.1 hpure
    refine ⟨rfl, .inr ⟨_, context, rfl, ?_⟩⟩
    rw [construct_eq_ok.1 hcontext]

section

variable [DigitLibrary]

theorem traced_prepareFor {operation : SecretStoreOperation} {broker : Broker}
    {reference : SecretReferenceMetadata} {request : RequestFields} {t : Trace}
    {r : Checked (SecretStoreFailureCode ⊕ AdapterId × SecretStoreAdapterContext)}
    (hreference : isValidReference reference = true)
    (hoperation : isTokenOf 128 request.operationId = true)
    (h : Traced (prepareFor operation broker reference request) t r) : Preparatory t ∧
      ((∃ code, r = .ok (.inl code)) ∨ ⟨.storeClock, none⟩ ∈ t ∧ (∃ e, r = .error e) ∨
        ∃ adapter context, r = .ok (.inr (adapter, context)) ∧
          Prepared request context.fields t) := by
  have h := (traced_ok_bind (ensure_of hreference _)).1 h
  split at h
  · obtain ⟨rfl, rfl⟩ := traced_pure.1 h
    exact ⟨List.forall_mem_nil _, .inl ⟨_, rfl⟩⟩
  obtain ⟨cancelled, t', rfl, hrest⟩ := traced_read_bind.1 h
  split at hrest
  · obtain ⟨rfl, rfl⟩ := traced_pure.1 hrest
    exact ⟨by simp [Preparatory, Effect.ofPreparation], .inl ⟨_, rfl⟩⟩
  · obtain ⟨hquiet, hr⟩ := traced_prepareAdapterFor (checks_of_isValidReference hreference).2
      hoperation hrest
    refine ⟨List.forall_mem_cons.2 ⟨rfl, hquiet⟩, ?_⟩
    rcases hr with hcode | ⟨hclock, he⟩ | ⟨adapter, context, hr, started, hstarted, hdeadline⟩
    · exact .inl hcode
    · exact .inr (.inl ⟨List.mem_cons_of_mem _ hclock, he⟩)
    · exact .inr (.inr ⟨adapter, context, hr, started, List.mem_cons_of_mem _ hstarted, hdeadline⟩)

/-- A reference that is not valid is refused before anything is called. -/
theorem traced_prepareFor_invalid {operation : SecretStoreOperation} {broker : Broker}
    {reference : SecretReferenceMetadata} {request : RequestFields} {t : Trace}
    {r : Checked (SecretStoreFailureCode ⊕ AdapterId × SecretStoreAdapterContext)}
    (hreference : ¬ isValidReference reference = true)
    (h : Traced (prepareFor operation broker reference request) t r) :
    t = [] ∧ ∃ e, r = .error e := by
  rcases traced_lift_bind.1 h with ⟨e, -, rfl, rfl⟩ | ⟨_, he, -⟩
  · exact ⟨rfl, e, rfl⟩
  · exact absurd (ensure_eq_ok.1 he) hreference

/-! ## The mutating operations -/

theorem exists_failure {reference : SecretReferenceMetadata} {completion : SecretStoreCompletion}
    (hreference : isValidReference reference = true) (hcompletion : completion ≠ .confirmed)
    (operation : SecretStoreOperation) (code : SecretStoreFailureCode) :
    ∃ result, failure operation reference code completion = .ok result ∧
      result.fields.completion = completion := by
  obtain ⟨hid, hadapter⟩ := checks_of_isValidReference hreference
  obtain ⟨result, hresult⟩ : ∃ result, failure operation reference code completion = .ok result :=
    exists_construct (by
      simp [OperationResultFields.validate, hid, hadapter, ensure_of, hcompletion])
  exact ⟨result, hresult, by rw [construct_eq_ok.1 hresult]⟩

theorem exists_success {reference : SecretReferenceMetadata}
    (hreference : isValidReference reference = true) (operation : SecretStoreOperation) :
    ∃ result, success operation reference = .ok result ∧ result.fields.completion = .confirmed := by
  obtain ⟨hid, hadapter⟩ := checks_of_isValidReference hreference
  obtain ⟨result, hresult⟩ : ∃ result, success operation reference = .ok result :=
    exists_construct (by simp [OperationResultFields.validate, hid, hadapter, ensure_of])
  exact ⟨result, hresult, by rw [construct_eq_ok.1 hresult]⟩

/-- What is said of a mutation whose adapter has answered. -/
structure Judged (request : RequestFields) (context : AdapterContextFields)
    (answer : MutationAnswer) (t : Trace) (r : Checked SecretStoreOperationResult) : Prop where
  preparatory : Preparatory t
  returns : (∃ result, r = .ok result) ∨ ⟨.storeClock, none⟩ ∈ t
  confirmed : ∀ result, r = .ok result → result.fields.completion = .confirmed →
    answer = .returns ∧ ⟨.isCancelled request.cancellation, false⟩ ∈ t ∧
      ∃ now, ⟨.storeClock, some now⟩ ∈ t ∧ now < context.deadlineMonotonic
  notCompleted : ∀ result, r = .ok result → result.fields.completion = .notCompleted →
    ∃ failure, answer = .failure failure ∧ failure.completion = .notCompleted

omit [DigitLibrary] in
/-- A failure that is neither confirmed nor, unless the adapter has said so, not completed. -/
theorem Judged.of_failure {request : RequestFields} {context : AdapterContextFields}
    {answer : MutationAnswer} {t : Trace} {result : SecretStoreOperationResult}
    (ht : Preparatory t) (hconfirmed : result.fields.completion ≠ .confirmed)
    (hcompletion : result.fields.completion = .notCompleted →
      ∃ failure, answer = .failure failure ∧ failure.completion = .notCompleted) :
    Judged request context answer t (.ok result) where
  preparatory := ht
  returns := .inl ⟨result, rfl⟩
  confirmed _ hr h := by
    cases hr
    exact absurd h hconfirmed
  notCompleted _ hr h := by
    cases hr
    exact hcompletion h

theorem traced_judgeMutation {operation : SecretStoreOperation}
    {reference : SecretReferenceMetadata} {request : RequestFields}
    {context : AdapterContextFields} {answer : MutationAnswer} {t : Trace}
    {r : Checked SecretStoreOperationResult} (hreference : isValidReference reference = true)
    (h : Traced (judgeMutation operation reference request context answer) t r) :
    Judged request context answer t r := by
  have hunknown : ∀ code, ∃ result, failure operation reference code .unknown = .ok result ∧
      result.fields.completion = .unknown := fun code =>
    exists_failure hreference (by decide) operation code
  cases answer with
  | failure f =>
    obtain ⟨result, hresult, hcompletion⟩ := exists_failure hreference f.unconfirmed
      operation f.code
    obtain ⟨rfl, rfl⟩ := traced_lift.1 h
    rw [hresult]
    exact .of_failure (List.forall_mem_nil _) (hcompletion ▸ f.unconfirmed)
      fun h' => ⟨f, rfl, hcompletion ▸ h'⟩
  | raises =>
    obtain ⟨result, hresult, hcompletion⟩ := hunknown .adapterFailure
    obtain ⟨rfl, rfl⟩ := traced_lift.1 h
    rw [hresult]
    exact .of_failure (List.forall_mem_nil _) (by rw [hcompletion]; nofun)
      (by rw [hcompletion]; nofun)
  | returns =>
    obtain ⟨cancelled, t₁, rfl, hrest⟩ := traced_read_bind.1 h
    cases cancelled with
    | true =>
      obtain ⟨result, hresult, hcompletion⟩ := hunknown .cancelled
      obtain ⟨rfl, rfl⟩ := traced_lift.1 hrest
      rw [hresult]
      exact .of_failure (by simp [Preparatory, Effect.ofPreparation])
        (by rw [hcompletion]; nofun) (by rw [hcompletion]; nofun)
    | false =>
      rcases traced_storeNow_bind hrest with ⟨now, t₂, rfl, hjudge⟩ | ⟨rfl, rfl⟩
      · split at hjudge
        · obtain ⟨result, hresult, hcompletion⟩ := hunknown .timeout
          obtain ⟨rfl, rfl⟩ := traced_lift.1 hjudge
          rw [hresult]
          exact .of_failure (by simp [Preparatory, Effect.ofPreparation])
            (by rw [hcompletion]; nofun) (by rw [hcompletion]; nofun)
        · rename_i hnow
          obtain ⟨result, hresult, hcompletion⟩ := exists_success hreference operation
          obtain ⟨rfl, rfl⟩ := traced_lift.1 hjudge
          rw [hresult]
          exact {
            preparatory := by simp [Preparatory, Effect.ofPreparation]
            returns := .inl ⟨result, rfl⟩
            confirmed := fun _ _ _ => ⟨rfl, by simp, now, by simp, lt_of_not_ge hnow⟩
            notCompleted := by
              intro _ hr h'
              cases hr
              cases hcompletion.symm.trans h' }
      · exact {
          preparatory := by simp [Preparatory, Effect.ofPreparation]
          returns := .inr (by simp)
          confirmed := nofun
          notCompleted := nofun }

/-- The run of a mutation: its adapter is not called, or it is called once. -/
theorem traced_mutateWith {operation : SecretStoreOperation} {broker : Broker}
    {reference : SecretReferenceMetadata} {material : Option MaterialId} {request : RequestFields}
    {t : Trace} {r : Checked SecretStoreOperationResult}
    (hreference : isValidReference reference = true)
    (hoperation : isTokenOf 128 request.operationId = true)
    (h : Traced (mutateWith operation broker reference material request) t r) :
    (Preparatory t ∧ ((∃ result, r = .ok result ∧ result.fields.completion = .notCompleted) ∨
      ⟨.storeClock, none⟩ ∈ t ∧ ∃ e, r = .error e)) ∨
    ∃ t₁ adapter context answer t₂,
      t = t₁ ++ ⟨.mutate operation adapter reference material context, answer⟩ :: t₂ ∧
        Preparatory t₁ ∧ Prepared request context.fields t₁ ∧
          Judged request context.fields answer t₂ r := by
  rcases traced_bind.1 h with ⟨e, rfl, hprepare⟩ | ⟨prepared, t₁, t₂, rfl, hprepare, hrest⟩
  · obtain ⟨hquiet, ⟨code, hr⟩ | ⟨hclock, -⟩ | ⟨adapter, context, hr, -⟩⟩ :=
      traced_prepareFor hreference hoperation hprepare
    · cases hr
    · exact .inl ⟨hquiet, .inr ⟨hclock, e, rfl⟩⟩
    · cases hr
  obtain ⟨hquiet, ⟨code, hr⟩ | ⟨hclock, e, hr⟩ | ⟨adapter, context, hr, hprepared⟩⟩ :=
    traced_prepareFor hreference hoperation hprepare
  · cases hr
    obtain ⟨result, hresult, hcompletion⟩ : ∃ result,
        failure operation reference code .notCompleted = .ok result ∧
          result.fields.completion = .notCompleted :=
      exists_failure hreference (by decide) operation code
    obtain ⟨rfl, rfl⟩ := traced_lift.1 hrest
    rw [hresult]
    exact .inl ⟨by simpa using hquiet, .inl ⟨result, rfl, hcompletion⟩⟩
  · cases hr
  · cases hr
    obtain ⟨answer, t₃, rfl, hjudge⟩ := traced_read_bind.1 hrest
    exact .inr ⟨t₁, adapter, context, answer, t₃, rfl, hquiet, hprepared,
      traced_judgeMutation hreference hjudge⟩

/-- What a mutation does apart from the material that it is given. -/
structure Managed (reference : SecretReferenceMetadata) (request : RequestFields) (t : Trace)
    (r : Checked SecretStoreOperationResult) : Prop where
  not_lookup : ∀ e ∈ t, e.1.isLookup = false
  returns : isValidReference reference = true → ⟨.storeClock, none⟩ ∉ t → ∃ result, r = .ok result
  confirmed : ∀ result, r = .ok result → result.fields.completion = .confirmed →
    Confirmed reference request t
  notCompleted : ∀ result, r = .ok result → result.fields.completion = .notCompleted →
    ∀ operation adapter reference material context answer,
      ⟨.mutate operation adapter reference material context, answer⟩ ∈ t →
        ∃ failure, answer = .failure failure ∧ failure.completion = .notCompleted

theorem managed_of_traced {operation : SecretStoreOperation} {broker : Broker}
    {reference : SecretReferenceMetadata} {material : Option MaterialId}
    {request : SecretStoreRequest} {t : Trace} {r : Checked SecretStoreOperationResult}
    (h : Traced (mutateWith operation broker reference material request.fields) t r) :
    Managed reference request.fields t r := by
  have hoperation : isTokenOf 128 request.fields.operationId = true :=
    ensure_eq_ok.1 (check_bind_eq_ok.1 request.valid).1
  by_cases hreference : isValidReference reference = true
  swap
  · have hinvalid : t = [] ∧ ∃ e, r = .error e := by
      rcases traced_bind.1 h with ⟨e, rfl, hprepare⟩ | ⟨prepared, t₁, t₂, rfl, hprepare, -⟩
      · exact ⟨(traced_prepareFor_invalid hreference hprepare).1, e, rfl⟩
      · obtain ⟨-, e, he⟩ := traced_prepareFor_invalid hreference hprepare
        cases he
    obtain ⟨rfl, e, rfl⟩ := hinvalid
    exact ⟨List.forall_mem_nil _, fun hvalid => absurd hvalid hreference, nofun, nofun⟩
  rcases traced_mutateWith hreference hoperation h with ⟨hquiet, hr⟩ |
    ⟨t₁, adapter, context, answer, t₂, rfl, hquiet, ⟨started, hstarted, hdeadline⟩, hjudged⟩
  · refine ⟨hquiet.not_lookup, fun _ hclock => ?_, fun result hok hconfirmed => ?_,
      fun _ _ _ _ _ _ _ _ _ he => absurd he hquiet.not_mutate⟩
    · rcases hr with ⟨result, hr, -⟩ | ⟨hnone, -⟩
      · exact ⟨result, hr⟩
      · exact absurd hnone hclock
    · rcases hr with ⟨result', hr, hcompletion⟩ | ⟨-, e, hr⟩
      · cases hok.symm.trans hr
        cases hconfirmed.symm.trans hcompletion
      · cases hok.symm.trans hr
  · refine ⟨List.forall_mem_append.2 ⟨hquiet.not_lookup,
      List.forall_mem_cons.2 ⟨rfl, hjudged.preparatory.not_lookup⟩⟩, fun _ hclock => ?_,
      fun result hok hconfirmed => ?_, fun result hok hcompletion => ?_⟩
    · exact hjudged.returns.resolve_right fun hnone =>
        hclock (List.mem_append_right _ (List.mem_cons_of_mem _ hnone))
    · obtain ⟨rfl, hcancelled, now, hnow, hlt⟩ := hjudged.confirmed result hok hconfirmed
      exact ⟨t₁, _, t₂, context.fields, started, now, rfl,
        .inl ⟨operation, adapter, material, context, rfl, rfl⟩, hstarted, hdeadline, hcancelled,
        hnow, hlt⟩
    · intro operation' adapter' reference' material' context' answer' he
      obtain ⟨f, hanswer, hf⟩ := hjudged.notCompleted result hok hcompletion
      rcases List.mem_append.1 he with he | he
      · exact absurd he hquiet.not_mutate
      · rcases List.mem_cons.1 he with he | he
        · cases he
          exact ⟨f, hanswer, hf⟩
        · exact absurd he hjudged.preparatory.not_mutate

/-- A mutation within the check and the closing of a material. -/
theorem traced_writeOperation {operation : SecretStoreOperation} {broker : Broker}
    {reference : SecretReferenceMetadata} {material : MaterialId} {request : RequestFields}
    {t : Trace} {r : Checked SecretStoreOperationResult}
    (h : Traced (writeOperation operation broker reference material request) t r) :
    t = [⟨.isClosed material, true⟩] ∧ (∃ e, r = .error e) ∨
      ∃ t', t = [⟨.isClosed material, false⟩] ++ t' ++ [⟨.close material, ()⟩] ∧
        Traced (mutateWith operation broker reference (some material) request) t' r := by
  obtain ⟨closed, t₁, rfl, hrest⟩ := traced_read_bind.1 h
  cases closed with
  | true =>
    obtain ⟨rfl, rfl⟩ := traced_done.1 hrest
    exact .inl ⟨rfl, _, rfl⟩
  | false =>
    obtain ⟨t', rfl, hmutate⟩ := traced_ensuring_close hrest
    exact .inr ⟨t', rfl, hmutate⟩

/-- What `Kept` says of a call that is managed so and looks nothing up. -/
theorem Managed.kept {task : StoreTask} {closed closed' : Set MaterialId} {t t₁ t₂ : Trace}
    {r : Checked SecretStoreOperationResult}
    (h : Managed task.reference task.request.fields t r)
    (ht : ∀ e ∈ t₁ ++ t₂, ∃ material, (∃ a, e = ⟨.isClosed material, a⟩) ∨ e = ⟨.close material, ()⟩)
    (hgiven : ∀ material, task.material = some material → material ∉ closed → material ∈ closed') :
    Kept task closed (t₁ ++ t ++ t₂) (r.map .operation) closed' := by
  have hmem : ∀ {e}, e ∈ t₁ ++ t ++ t₂ → (∀ material a, e ≠ ⟨.isClosed material, a⟩) →
      (∀ material, e ≠ ⟨.close material, ()⟩) → e ∈ t := by
    intro e he hisClosed hclose
    simp only [List.mem_append, or_assoc] at he
    rcases he with he | he | he
    · obtain ⟨material, ⟨a, rfl⟩ | rfl⟩ := ht e (List.mem_append_left _ he)
      · exact absurd rfl (hisClosed material a)
      · exact absurd rfl (hclose material)
    · exact he
    · obtain ⟨material, ⟨a, rfl⟩ | rfl⟩ := ht e (List.mem_append_right _ he)
      · exact absurd rfl (hisClosed material a)
      · exact absurd rfl (hclose material)
  exact {
    given := hgiven
    found := fun adapter reference context material he =>
      nomatch h.not_lookup _ (hmem he nofun nofun)
    returns := fun hreference hclock _ => by
      obtain ⟨result, rfl⟩ := h.returns hreference fun hnone =>
        hclock (List.mem_append_left _ (List.mem_append_right _ hnone))
      exact ⟨_, rfl⟩
    confirmed := fun result hr hcompletion => by
      obtain ⟨operation, rfl, rfl⟩ := eq_of_map_operation hr
      exact (h.confirmed operation rfl hcompletion).frame t₁ t₂
    notCompleted := fun result hr hcompletion operation adapter reference material context answer he => by
      obtain ⟨result', rfl, hr'⟩ := eq_of_map_operation hr
      cases hr'
      exact h.notCompleted result rfl hcompletion operation adapter reference material context answer
        (hmem he nofun nofun) }

end

/-! ## The lookup -/

section

variable [DigitLibrary]

theorem traced_failedLookup {reference : SecretReferenceMetadata} {code : SecretStoreFailureCode}
    {t : Trace} {r : Checked SecretStoreLookupResult} (hreference : isValidReference reference = true)
    (h : Traced (monadLift (failedLookup reference code) : Calls _) t r) :
    t = [] ∧ r = .ok (.failed code) := by
  obtain ⟨hid, hadapter⟩ := checks_of_isValidReference hreference
  obtain ⟨rfl, rfl⟩ := traced_lift.1 h
  rw [failedLookup, checkOperationResult_of hid hadapter]
  exact ⟨rfl, rfl⟩

theorem traced_closedLookup_of {reference : SecretReferenceMetadata} {material : MaterialId}
    {code : SecretStoreFailureCode} {t : Trace} {r : Checked SecretStoreLookupResult}
    (hreference : isValidReference reference = true)
    (h : Traced (closedLookup reference material code) t r) :
    t = [⟨.close material, ()⟩] ∧ r = .ok (.failed code) := by
  obtain ⟨-, t', rfl, hrest⟩ := traced_read_bind.1 h
  obtain ⟨rfl, rfl⟩ := traced_failedLookup hreference hrest
  exact ⟨rfl, rfl⟩

/-- What comes of a material that the adapter has returned. -/
structure Taken (request : RequestFields) (context : AdapterContextFields) (material : MaterialId)
    (closed' : Set MaterialId) (t : Trace) (r : Checked SecretStoreLookupResult) : Prop where
  not_lookup : ∀ e ∈ t, e.1.isLookup = false
  outcome : (∃ code, r = .ok (.failed code) ∧ material ∈ closed' ∧ ⟨.storeClock, none⟩ ∉ t) ∨
    (r = .ok (.found material) ∧ material ∉ closed' ∧ ⟨.storeClock, none⟩ ∉ t ∧
      ⟨.isCancelled request.cancellation, false⟩ ∈ t ∧
      ∃ now, ⟨.storeClock, some now⟩ ∈ t ∧ now < context.deadlineMonotonic) ∨
    (∃ e, r = .error e) ∧ material ∉ closed' ∧ ⟨.storeClock, none⟩ ∈ t

theorem taken_of_traced {reference : SecretReferenceMetadata} {request : RequestFields}
    {context : AdapterContextFields} {material : MaterialId} {closed closed' : Set MaterialId}
    {t : Trace} {r : Checked SecretStoreLookupResult} (hreference : isValidReference reference = true)
    (h : Traced (takeMaterial reference request context material) t r)
    (hcustody : Custody closed t closed') : Taken request context material closed' t r := by
  obtain ⟨isclosed, t₁, rfl, hopen⟩ := traced_read_bind.1 h
  have htruth := hcustody.isClosed_iff
  have hcustody₁ := hcustody.skip fun _ h => h.2
  cases isclosed with
  | true =>
    obtain ⟨rfl, rfl⟩ := traced_closedLookup_of hreference hopen
    exact ⟨by simp [Effect.isLookup], .inl ⟨_, rfl, hcustody₁.mem_of_close, nofun⟩⟩
  | false =>
    have hout : material ∉ closed := fun hmem => by cases htruth.2 hmem
    obtain ⟨cancelled, t₂, rfl, hlook⟩ := traced_read_bind.1 hopen
    have hcustody₂ := hcustody₁.skip fun _ h => h
    cases cancelled with
    | true =>
      obtain ⟨rfl, rfl⟩ := traced_closedLookup_of hreference hlook
      exact ⟨by simp [Effect.isLookup], .inl ⟨_, rfl, hcustody₂.mem_of_close, nofun⟩⟩
    | false =>
      rcases traced_storeNow_bind hlook with ⟨now, t₃, rfl, hrest⟩ | ⟨rfl, rfl⟩
      swap
      · -- nothing closes the material any more
        cases (hcustody₂.skip fun _ h => h).eq_of_nil
        exact ⟨by simp [Effect.isLookup], .inr (.inr ⟨⟨_, rfl⟩, hout, by simp⟩)⟩
      have hcustody₃ := hcustody₂.skip fun _ h => h
      split at hrest
      · obtain ⟨rfl, rfl⟩ := traced_closedLookup_of hreference hrest
        exact ⟨by simp [Effect.isLookup], .inl ⟨_, rfl, hcustody₃.mem_of_close, nofun⟩⟩
      · rename_i hnow
        obtain ⟨hid, hadapter⟩ := checks_of_isValidReference hreference
        have hfound := (traced_ok_bind (checkOperationResult_of hid hadapter)).1 hrest
        obtain ⟨isclosed, t₄, rfl, hend⟩ := traced_read_bind.1 hfound
        cases isclosed with
        | true => exact absurd (hcustody₃.isClosed_iff.1 rfl) hout
        | false =>
          obtain ⟨rfl, rfl⟩ := traced_pure.1 hend
          cases (hcustody₃.skip fun _ h => h.2).eq_of_nil
          exact ⟨by simp [Effect.isLookup],
            .inr (.inl ⟨rfl, hout, nofun, by simp, now, by simp, lt_of_not_ge hnow⟩)⟩

/-- The run of a lookup: its adapter is not called, it returns no material, or it returns one. -/
theorem traced_lookup_of {broker : Broker} {reference : SecretReferenceMetadata}
    {request : RequestFields} {t : Trace} {r : Checked SecretStoreLookupResult}
    (hreference : isValidReference reference = true)
    (hoperation : isTokenOf 128 request.operationId = true)
    (h : Traced (lookup broker reference request) t r) :
    (Preparatory t ∧ ((∃ code, r = .ok (.failed code)) ∨ ⟨.storeClock, none⟩ ∈ t ∧ ∃ e, r = .error e)) ∨
    ∃ t₁ adapter context answer t₂, t = t₁ ++ ⟨.lookup adapter reference context, answer⟩ :: t₂ ∧
      Preparatory t₁ ∧ Prepared request context.fields t₁ ∧
      ((∀ material, answer ≠ .material material) ∧ t₂ = [] ∧ (∃ code, r = .ok (.failed code)) ∨
        ∃ material, answer = .material material ∧
          Traced (takeMaterial reference request context.fields material) t₂ r) := by
  rw [lookup, ← prepareFor_lookup] at h
  rcases traced_bind.1 h with ⟨e, rfl, hprepare⟩ | ⟨prepared, t₁, t₂, rfl, hprepare, hrest⟩
  · obtain ⟨hquiet, ⟨code, hr⟩ | ⟨hclock, -⟩ | ⟨adapter, context, hr, -⟩⟩ :=
      traced_prepareFor hreference hoperation hprepare
    · cases hr
    · exact .inl ⟨hquiet, .inr ⟨hclock, e, rfl⟩⟩
    · cases hr
  obtain ⟨hquiet, ⟨code, hr⟩ | ⟨hclock, e, hr⟩ | ⟨adapter, context, hr, hprepared⟩⟩ :=
    traced_prepareFor hreference hoperation hprepare
  · cases hr
    obtain ⟨rfl, rfl⟩ := traced_failedLookup hreference hrest
    exact .inl ⟨by simpa using hquiet, .inl ⟨code, rfl⟩⟩
  · cases hr
  · cases hr
    obtain ⟨answer, t₃, rfl, htake⟩ := traced_read_bind.1 hrest
    refine .inr ⟨t₁, adapter, context, answer, t₃, rfl, hquiet, hprepared, ?_⟩
    cases answer with
    | failure code =>
      obtain ⟨rfl, rfl⟩ := traced_failedLookup hreference htake
      exact .inl ⟨nofun, rfl, _, rfl⟩
    | raises | other =>
      obtain ⟨rfl, rfl⟩ := traced_failedLookup hreference htake
      exact .inl ⟨nofun, rfl, _, rfl⟩
    | material material => exact .inr ⟨material, rfl, htake⟩

end

/-! ## Every call -/

theorem not_clockLost {t : Trace} (h : ∀ e ∈ t, e.1.isLookup = false) : ¬ ClockLost t := by
  rintro ⟨before, adapter, reference, context, material, after, rfl, -⟩
  cases h _ (List.mem_append_right _ (List.mem_cons_self ..))

/-- With one lookup in the trace, the clock is lost if it fails after it. -/
theorem clockLost_iff {t₁ t₂ : Trace} {adapter : AdapterId} {reference : SecretReferenceMetadata}
    {context : SecretStoreAdapterContext} {material : MaterialId} (h₁ : Preparatory t₁)
    (h₂ : ∀ e ∈ t₂, e.1.isLookup = false) :
    ClockLost (t₁ ++ ⟨.lookup adapter reference context, .material material⟩ :: t₂) ↔
      ⟨.storeClock, none⟩ ∈ t₂ := by
  constructor
  · rintro ⟨before, adapter', reference', context', material', after, ht, hnone⟩
    obtain ⟨-, -, rfl⟩ := (List.append_cons_inj_of_notMem
      (fun he => by cases h₁ _ he) fun he => by cases h₂ _ he).1 ht
    exact hnone
  · exact fun hnone => ⟨t₁, adapter, reference, context, material, t₂, rfl, hnone⟩

section

variable [DigitLibrary]

theorem kept_of_write (task : StoreTask) {operation : SecretStoreOperation} {broker : Broker}
    {material : MaterialId} {closed closed' : Set MaterialId} {t : Trace}
    {r : Checked SecretStoreOperationResult} (hmaterial : task.material = some material)
    (h : Traced (writeOperation operation broker task.reference material task.request.fields) t r)
    (hcustody : Custody closed t closed') :
    Kept task closed t (r.map .operation) closed' ∧ ¬ ClockLost t := by
  rcases traced_writeOperation h with ⟨rfl, e, rfl⟩ | ⟨t', rfl, hmutate⟩
  · -- the material was closed before
    have hclosed : material ∈ closed := hcustody.isClosed_iff.1 rfl
    have hgiven : ∀ material', task.material = some material' → material' ∈ closed :=
      fun material' h' => Option.some.inj (hmaterial.symm.trans h') ▸ hclosed
    have hlookup : ∀ e ∈ [(⟨.isClosed material, true⟩ : Event Effect Effect.Answer)],
        e.1.isLookup = false := by simp [Effect.isLookup]
    refine ⟨?_, not_clockLost hlookup⟩
    exact {
      given := fun material' h' hout => absurd (hgiven material' h') hout
      found := fun _ _ _ _ he => nomatch hlookup _ he
      returns := fun _ _ hout => absurd hclosed (hout material hmaterial)
      confirmed := nofun
      notCompleted := nofun }
  · have hmanaged := managed_of_traced hmutate
    refine ⟨hmanaged.kept ?_ ?_, not_clockLost ?_⟩
    · exact List.forall_mem_cons.2 ⟨⟨material, .inl ⟨_, rfl⟩⟩,
        List.forall_mem_singleton.2 ⟨material, .inr rfl⟩⟩
    · intro material' h' _
      obtain rfl := Option.some.inj (hmaterial.symm.trans h')
      obtain ⟨closed₁, -, hclose⟩ := hcustody.append
      exact hclose.mem_of_close
    · simp only [List.forall_mem_append]
      exact ⟨⟨by simp [Effect.isLookup], hmanaged.not_lookup⟩, by simp [Effect.isLookup]⟩

theorem kept_of_noMaterial (task : StoreTask) {operation : SecretStoreOperation} {broker : Broker}
    {closed closed' : Set MaterialId} {t : Trace} {r : Checked SecretStoreOperationResult}
    (hmaterial : task.material = none)
    (h : Traced (mutateWith operation broker task.reference none task.request.fields) t r) :
    Kept task closed t (r.map .operation) closed' ∧ ¬ ClockLost t := by
  have hmanaged := managed_of_traced h
  have hkept : Kept task closed ([] ++ t ++ []) (r.map .operation) closed' :=
    hmanaged.kept (by simp) (by rw [hmaterial]; nofun)
  exact ⟨by simpa using hkept, not_clockLost hmanaged.not_lookup⟩

end

theorem eq_of_map_lookup {r : Checked SecretStoreLookupResult} {result : StoreReturned}
    (h : r.map StoreReturned.lookup = .ok result) :
    ∃ found, r = .ok found ∧ result = .lookup found := by
  obtain ⟨found, hr, rfl⟩ := map_eq_ok.1 h
  exact ⟨found, hr, rfl⟩

theorem map_lookup_eq_found {r : Checked SecretStoreLookupResult} {material : MaterialId} :
    r.map StoreReturned.lookup = .ok (.lookup (.found material)) ↔ r = .ok (.found material) := by
  rw [map_eq_ok]
  constructor
  · rintro ⟨found, hr, h⟩
    cases h
    exact hr
  · exact fun hr => ⟨_, hr, rfl⟩

section

variable [DigitLibrary]

/-- A lookup that returns no material, when its adapter has returned none. -/
theorem kept_of_noLookup {reference : SecretReferenceMetadata} {request : SecretStoreRequest}
    {closed closed' : Set MaterialId} {t : Trace} {r : Checked SecretStoreLookupResult}
    (hnone : ∀ adapter reference context material,
      ⟨.lookup adapter reference context, .material material⟩ ∉ t)
    (hr : (∃ code, r = .ok (.failed code)) ∨
      (isValidReference reference = true → ⟨.storeClock, none⟩ ∈ t) ∧ ∃ e, r = .error e) :
    Kept (.lookup reference request) closed t (r.map .lookup) closed' ∧ ¬ ClockLost t := by
  refine ⟨?_, ?_⟩
  · refine ⟨nofun, fun _ _ _ _ he => absurd he (hnone _ _ _ _), fun hreference hclock _ => ?_,
      fun result hok hconfirmed => ?_, fun result hok => ?_⟩
    · rcases hr with ⟨code, rfl⟩ | ⟨hlost, -⟩
      · exact ⟨_, rfl⟩
      · exact absurd (hlost hreference) hclock
    · rcases hr with ⟨code, rfl⟩ | ⟨-, e, rfl⟩
      · cases hok
        cases hconfirmed
      · cases hok
    · obtain ⟨_, -, h⟩ := eq_of_map_lookup hok
      cases h
  · rintro ⟨before, adapter, reference', context, material, after, rfl, -⟩
    exact hnone _ _ _ _ (List.mem_append_right _ (List.mem_cons_self ..))

/-- A lookup whose adapter has returned a material. -/
theorem kept_iff_of_taken {adapter : AdapterId} {reference : SecretReferenceMetadata}
    {request : SecretStoreRequest} {context : SecretStoreAdapterContext} {material : MaterialId}
    {closed closed' : Set MaterialId} {t₁ t₂ : Trace} {r : Checked SecretStoreLookupResult}
    (hquiet : Preparatory t₁) (hprepared : Prepared request.fields context.fields t₁)
    (htaken : Taken request.fields context.fields material closed' t₂ r) :
    Kept (.lookup reference request) closed
      (t₁ ++ ⟨.lookup adapter reference context, .material material⟩ :: t₂) (r.map .lookup) closed' ↔
        ¬ ClockLost (t₁ ++ ⟨.lookup adapter reference context, .material material⟩ :: t₂) := by
  rw [clockLost_iff hquiet htaken.not_lookup]
  have honly : ∀ {adapter' reference' context' material'},
      ⟨.lookup adapter' reference' context', .material material'⟩ ∈
        t₁ ++ ⟨.lookup adapter reference context, .material material⟩ :: t₂ →
          material' = material := by
    intro adapter' reference' context' material' he
    rcases List.mem_append.1 he with he | he
    · cases hquiet _ he
    · rcases List.mem_cons.1 he with he | he
      · cases he
        rfl
      · cases htaken.not_lookup _ he
  constructor
  · -- where the clock is lost the material is open, and nothing is returned
    intro hkept hlost
    rcases htaken.outcome with ⟨_, -, -, hnone⟩ | ⟨-, -, hnone, -⟩ | ⟨⟨e, rfl⟩, hout, -⟩
    · exact hnone hlost
    · exact hnone hlost
    · cases (hkept.found adapter reference context material (by simp)).1 hout
  · intro hclock
    refine ⟨nofun, fun adapter' reference' context' material' he => ?_, fun _ _ _ => ?_,
      fun result hok hconfirmed => ?_, fun result hok => ?_⟩
    · obtain rfl := honly he
      rw [map_lookup_eq_found]
      rcases htaken.outcome with ⟨code, rfl, hin, -⟩ | ⟨rfl, hout, -⟩ | ⟨-, -, hlost⟩
      · exact iff_of_false (not_not_intro hin) nofun
      · exact iff_of_true hout rfl
      · exact absurd hlost hclock
    · rcases htaken.outcome with ⟨code, rfl, -⟩ | ⟨rfl, -⟩ | ⟨-, -, hlost⟩
      · exact ⟨_, rfl⟩
      · exact ⟨_, rfl⟩
      · exact absurd hlost hclock
    · rcases htaken.outcome with ⟨code, rfl, -⟩ |
        ⟨rfl, -, -, hcancelled, now, hnow, hlt⟩ | ⟨⟨e, rfl⟩, -⟩
      · cases hok
        cases hconfirmed
      · obtain ⟨started, hstarted, hdeadline⟩ := hprepared
        exact ⟨t₁, _, t₂, context.fields, started, now, rfl,
          .inr ⟨adapter, material, context, rfl, rfl⟩, hstarted, hdeadline, hcancelled, hnow, hlt⟩
      · cases hok
    · obtain ⟨_, -, h⟩ := eq_of_map_lookup hok
      cases h

end

/-! ## A lookup whose clock fails in the end -/

theorem custody_of_forall {closed : Set MaterialId} {t : Trace}
    (h : ∀ e ∈ t, e.1.Leaves closed closed e.2) : Custody closed t closed := by
  induction t with
  | nil => exact .nil closed
  | cons e t ih =>
    obtain ⟨he, ht⟩ := List.forall_mem_cons.1 h
    exact .cons he (ih ht)

def Effect.isClose : Effect → Bool
  | .close _ => true
  | _ => false

/-- Nothing goes wrong but that the clock can be read only so often. -/
def runningDown (readings : Nat) : (effect : Effect) → effect.Answer × Nat
  | .storeClock =>
    match readings with
    | 0 => ((none : Option Rat), 0)
    | readings + 1 => (some (0 : Rat), readings)
  | effect => (smoothly effect, readings)

def sampleRequest : SecretStoreRequest where
  fields :=
    { operationId := "operation".toList
      timeoutSeconds := 30
      userPresence := .allow
      cancellation := 0 }
  valid := by decide +kernel

/-- A lookup whose clock fails when it is read for the third time. -/
def lostLookup [DigitLibrary] : Trace × Checked StoreReturned × Nat :=
  (StoreTask.program sampleBroker (.lookup sampleReference sampleRequest)).play runningDown 2

section

attribute [local instance] asciiDigits

theorem traced_lostLookup : Traced (StoreTask.program sampleBroker
    (.lookup sampleReference sampleRequest)) lostLookup.1 lostLookup.2.1 := traced_play ..

/-- No material is closed in it. -/
theorem custody_lostLookup : Custody ∅ lostLookup.1 ∅ := by
  have hclose : lostLookup.1.all (fun e => !e.1.isClose) = true := by decide +kernel
  have hleaves : ∀ e ∈ lostLookup.1, e.1.isClose = true ∨ e.1.Leaves ∅ ∅ e.2 := by
    refine forall_mem_play (fun readings effect => ?_) _ _
    cases effect with
    | close => exact .inl rfl
    | isClosed => exact .inr ⟨⟨nofun, nofun⟩, rfl⟩
    | borrow => exact .inr ⟨⟨fun _ => Set.notMem_empty _, fun _ => rfl⟩, rfl⟩
    | status | lookup | mutate | handle => exact .inr subset_rfl
    | _ => exact .inr rfl
  refine custody_of_forall fun e he => (hleaves e he).resolve_left fun h => ?_
  have hnot := List.all_eq_true.1 hclose e he
  rw [h] at hnot
  cases hnot

end

end DollState.Credential
