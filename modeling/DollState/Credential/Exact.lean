import DollState.Credential.Broker

/-!
# Grants are used once and exactly

Any number of calls of `issue` and `execute` work on one authority, a call from inside a callback
being one more of them. A handler is called at most once for each grant that was issued, and only by a
call whose intent is the one the grant was issued for, which has consumed the grant before its expiry
and whose attempt has been accepted by the audit sink (`handled_exact`).
-/

namespace DollState.Credential

open StateLib ReadProgram Interleaving

/-! ## What the parts of a call can call -/

/-- A call that the store makes. -/
def Effect.ofStore : Effect → Bool
  | .storeClock | .status _ | .lookup _ _ _ | .isClosed _ | .close _ | .isCancelled _ => true
  | _ => false

/-- A call that the store makes before it asks an adapter for a material. -/
def Effect.ofPreparation : Effect → Bool
  | .storeClock | .status _ | .isCancelled _ => true
  | _ => false

/-- A call that is made before the store is asked. -/
def Effect.ofPreflight : Effect → Bool
  | .clock | .isCancelled _ | .declaration _ | .authorityClock | .consume _ _ _ => true
  | _ => false

def Effect.isRecord : Effect → Bool
  | .record _ => true
  | _ => false

def Effect.isHandle : Effect → Bool
  | .handle _ _ _ => true
  | _ => false

def Effect.isRegister : Effect → Bool
  | .register _ => true
  | _ => false

theorem only_storeNow : storeNow.Only fun q => q.ofPreparation = true := by
  refine Only.bind (Only.read rfl) fun reading => ?_
  split
  · exact Only.pure
  · exact Only.done

theorem only_adapterStatus {adapterClass : Text} {adapter : AdapterId} :
    (adapterStatus adapterClass adapter).Only fun q => q.ofPreparation = true := by
  refine Only.bind (Only.read rfl) fun answer => ?_
  split
  · split <;> exact Only.pure
  · exact Only.pure

theorem only_prepareAdapter {broker : Broker} {reference : SecretReferenceMetadata}
    {request : RequestFields} :
    (prepareAdapter broker reference request).Only fun q => q.ofPreparation = true := by
  refine Only.bind only_storeNow fun started => Only.lift_bind fun _ _ => ?_
  split
  · exact Only.pure
  · refine Only.bind only_adapterStatus fun status => Only.bind (Only.read rfl) fun cancelled => ?_
    split
    · exact Only.pure
    · refine Only.bind only_storeNow fun now => ?_
      split
      · exact Only.pure
      · split
        · exact Only.pure
        · exact Only.lift_bind fun _ _ => Only.pure

theorem ofStore_of_ofPreparation {q : Effect} (h : q.ofPreparation = true) : q.ofStore = true := by
  cases q <;> first | rfl | cases h

theorem only_closedLookup {reference : SecretReferenceMetadata} {material : MaterialId}
    {code : SecretStoreFailureCode} :
    (closedLookup reference material code).Only fun q => q.ofStore = true :=
  Only.bind (Only.read rfl) fun _ => Only.done

theorem only_takeMaterial {reference : SecretReferenceMetadata} {request : RequestFields}
    {context : AdapterContextFields} {material : MaterialId} :
    (takeMaterial reference request context material).Only fun q => q.ofStore = true := by
  refine Only.bind (Only.read rfl) fun closed => ?_
  split
  · exact only_closedLookup
  · refine Only.bind (Only.read rfl) fun cancelled => ?_
    split
    · exact only_closedLookup
    · refine Only.bind (only_storeNow.mono fun _ => ofStore_of_ofPreparation) fun now => ?_
      split
      · exact only_closedLookup
      · refine Only.lift_bind fun _ _ => Only.bind (Only.read rfl) fun _ => ?_
        exact Only.lift_bind fun _ _ => Only.pure

section

variable [DigitLibrary]

theorem only_prepare {broker : Broker} {reference : SecretReferenceMetadata}
    {request : RequestFields} :
    (prepare broker reference request).Only fun q => q.ofPreparation = true := by
  refine Only.lift_bind fun _ _ => ?_
  split
  · exact Only.pure
  · refine Only.bind (Only.read rfl) fun cancelled => ?_
    split
    · exact Only.pure
    · exact only_prepareAdapter

theorem only_lookup {broker : Broker} {reference : SecretReferenceMetadata}
    {request : RequestFields} :
    (lookup broker reference request).Only fun q => q.ofStore = true := by
  refine Only.bind (only_prepare.mono fun _ => ofStore_of_ofPreparation) fun prepared => ?_
  split
  · exact Only.done
  · refine Only.bind (Only.read rfl) fun answer => ?_
    split
    · exact Only.done
    · exact Only.done
    · exact Only.done
    · exact only_takeMaterial

end

theorem only_record {fields : AuditEventFields} :
    (record fields).Only fun q => q.isRecord = true :=
  Only.lift_bind fun _ _ => Only.read rfl

theorem only_recordTerminal {intent : IntentFields} {terminal : CredentialBrokerResult} :
    (recordTerminal intent terminal).Only fun q => q.isRecord = true := by
  refine Only.bind only_record fun accepted => ?_
  split
  · exact Only.pure
  · exact Only.done

theorem only_finishWith {intent : IntentFields} {code : CredentialFailureCode}
    {completion : CredentialCompletion} {handlerCode : Option Text} :
    (finishWith intent code completion handlerCode).Only fun q => q.isRecord = true :=
  Only.lift_bind fun _ _ => only_recordTerminal

theorem only_now : now.Only fun q => q.ofPreflight = true :=
  Only.bind (Only.read rfl) fun _ => Only.done

theorem only_interruption {cancellation : TokenId} {deadline : Rat} :
    (interruption cancellation deadline).Only fun q => q.ofPreflight = true := by
  refine Only.bind (Only.read rfl) fun cancelled => ?_
  split
  · exact Only.pure
  · exact Only.bind only_now fun _ => Only.pure

theorem only_consume {grant : Option CredentialAuthorizationGrant} {intent : CredentialUseIntent} :
    (consume grant intent).Only fun q => q.ofPreflight = true := by
  cases grant with
  | none => exact Only.pure
  | some grant => exact Only.bind (Only.bind (Only.read rfl) fun _ => Only.done) fun _ => Only.read rfl

theorem only_authorize {intent : CredentialUseIntent} {grant : Option CredentialAuthorizationGrant}
    {deadline : Rat} {handler : HandlerId} :
    (authorize intent grant deadline handler).Only fun q => q.ofPreflight = true := by
  refine Only.bind (Only.bind (Only.read rfl) fun declared => ?_) fun matching => ?_
  · split <;> exact Only.pure
  · split
    · refine Only.bind only_consume fun failure => ?_
      split
      · exact Only.pure
      · refine Only.bind only_interruption fun interrupted => ?_
        split <;> exact Only.pure
    · exact Only.pure

theorem only_preflight {broker : Broker} {intent : CredentialUseIntent}
    {grant : Option CredentialAuthorizationGrant} {deadline : Rat} :
    (preflight broker intent grant deadline).Only fun q => q.ofPreflight = true := by
  refine Only.bind only_interruption fun interrupted => ?_
  split
  · exact Only.pure
  split
  · exact Only.pure
  split
  · exact Only.pure
  split
  · exact Only.pure
  refine Only.lift_bind fun _ _ => Only.lift_bind fun _ _ => ?_
  split
  · exact Only.pure
  · exact only_authorize

/-! ## What a call has done when it goes on -/

theorem traced_authorityNow {t : Trace} {now : Rat} (h : Traced authorityNow t (.ok now)) :
    t = [⟨.authorityClock, some now⟩] := by
  obtain ⟨reading, t', ht, hrest⟩ := traced_read_bind.1 h
  obtain ⟨rfl, hreading⟩ := traced_lift.1 hrest
  rw [ht]
  cases reading with
  | none => cases hreading
  | some value =>
    obtain ⟨-, hvalue⟩ := check_bind_eq_ok.1 hreading.symm
    rw [pure_eq_ok.1 hvalue]

/-- A grant that is consumed was given to the call, and its reading of the clock went with it. -/
theorem traced_consume {grant : Option CredentialAuthorizationGrant} {intent : CredentialUseIntent}
    {t : Trace} (h : Traced (consume grant intent) t (.ok none)) : ∃ g now, grant = some g ∧
      t = [⟨.authorityClock, some now⟩, ⟨.consume g (intentSignature intent) now, none⟩] := by
  cases grant with
  | none => cases (traced_pure.1 h).2
  | some g =>
    rcases traced_bind.1 h with ⟨e, he, -⟩ | ⟨now, t₁, t₂, rfl, hnow, h⟩
    · cases he
    obtain ⟨answer, rfl, hanswer⟩ := traced_read.1 h
    refine ⟨g, now, rfl, ?_⟩
    rw [traced_authorityNow hnow, ← Except.ok.inj hanswer]
    rfl

/-- What `_preflight` has found when it returns a handler. -/
structure Cleared (broker : Broker) (intent : CredentialUseIntent)
    (grant : Option CredentialAuthorizationGrant) (handler : HandlerId) (t : Trace) : Prop where
  status : intent.fields.reference.status = .active
  operation : intent.fields.operationScope ∈ intent.fields.reference.allowedOperationScope
  destination : intent.fields.destination ∈ intent.fields.reference.allowedDestinationScope
  registered :
    broker.handlers intent.fields.capabilityId intent.fields.capabilityVersion = some handler
  declared : ∃ declared, ⟨.declaration handler, some declared⟩ ∈ t ∧ Declares declared intent.fields
  consumed : ∃ g now, grant = some g ∧ ⟨.authorityClock, some now⟩ ∈ t ∧
    ⟨.consume g (intentSignature intent) now, none⟩ ∈ t

theorem traced_authorize {intent : CredentialUseIntent}
    {grant : Option CredentialAuthorizationGrant} {deadline : Rat} {handler found : HandlerId}
    {t : Trace} (h : Traced (authorize intent grant deadline handler) t (.ok (.inr found))) :
    found = handler ∧
      (∃ declared, ⟨.declaration handler, some declared⟩ ∈ t ∧ Declares declared intent.fields) ∧
      ∃ g now, grant = some g ∧ ⟨.authorityClock, some now⟩ ∈ t ∧
        ⟨.consume g (intentSignature intent) now, none⟩ ∈ t := by
  rcases traced_bind.1 h with ⟨e, he, -⟩ | ⟨matching, t₁, t₂, ht, hmatching, hrest⟩
  · cases he
  obtain ⟨answer, t', ht₁, hmatching⟩ := traced_read_bind.1 hmatching
  cases matching with
  | false => cases (traced_pure.1 hrest).2
  | true =>
    rcases traced_bind.1 hrest with ⟨e, he, -⟩ | ⟨failure, t₃, t₄, ht₂, hconsume, hrest⟩
    · cases he
    cases failure with
    | some code => cases (traced_pure.1 hrest).2
    | none =>
      rcases traced_bind.1 hrest with ⟨e, he, -⟩ | ⟨interrupted, t₅, t₆, ht₄, -, hrest⟩
      · cases he
      cases interrupted with
      | some code => cases (traced_pure.1 hrest).2
      | none =>
        obtain ⟨g, now, hgrant, ht₃⟩ := traced_consume hconsume
        rw [ht, ht₁, ht₂, ht₃]
        refine ⟨Sum.inr.inj (Except.ok.inj (traced_pure.1 hrest).2), ?_, g, now, hgrant, by simp,
          by simp⟩
        cases answer with
        | none => cases (traced_pure.1 hmatching).2
        | some declared =>
          have hdeclares := Except.ok.inj (traced_pure.1 hmatching).2
          exact ⟨declared, by simp, of_decide_eq_true hdeclares.symm⟩

theorem traced_preflight {broker : Broker} {intent : CredentialUseIntent}
    {grant : Option CredentialAuthorizationGrant} {deadline : Rat} {handler : HandlerId} {t : Trace}
    (h : Traced (preflight broker intent grant deadline) t (.ok (.inr handler))) :
    Cleared broker intent grant handler t := by
  rcases traced_bind.1 h with ⟨e, he, -⟩ | ⟨interrupted, t₁, t₂, rfl, -, h⟩
  · cases he
  cases interrupted with
  | some code => cases (traced_pure.1 h).2
  | none =>
    dsimp only at h
    split at h
    · cases (traced_pure.1 h).2
    split at h
    · cases (traced_pure.1 h).2
    split at h
    · cases (traced_pure.1 h).2
    rename_i hstatus hoperation hdestination
    obtain ⟨_, -, h⟩ := (traced_lift_bind.1 h).resolve_left (by rintro ⟨e, -, -, he⟩; cases he)
    obtain ⟨_, -, h⟩ := (traced_lift_bind.1 h).resolve_left (by rintro ⟨e, -, -, he⟩; cases he)
    split at h
    · cases (traced_pure.1 h).2
    rename_i registered hhandler
    obtain ⟨rfl, ⟨declared, hdeclared, hdeclares⟩, g, now, hgrant, hclock, hconsume⟩ :=
      traced_authorize h
    exact {
      status := not_not.1 hstatus
      operation := not_not.1 hoperation
      destination := not_not.1 hdestination
      registered := hhandler
      declared := ⟨declared, List.mem_append_right _ hdeclared, hdeclares⟩
      consumed := ⟨g, now, hgrant, List.mem_append_right _ hclock, List.mem_append_right _ hconsume⟩ }

theorem traced_record {fields : AuditEventFields} {t : Trace} {accepted : Bool}
    (h : Traced (record fields) t (.ok accepted)) :
    ∃ event : CredentialAuditEvent, event.fields = fields ∧ t = [⟨.record event, accepted⟩] := by
  obtain ⟨event, hevent, h⟩ := (traced_lift_bind.1 h).resolve_left (by rintro ⟨e, -, -, he⟩; cases he)
  obtain ⟨answer, rfl, hanswer⟩ := traced_read.1 h
  rw [Except.ok.inj hanswer]
  exact ⟨event, construct_eq_ok.1 hevent, rfl⟩

/-! ## The call of the handler -/

/-- No handler has been called. -/
def Unhandled (t : Trace) : Prop := ∀ e ∈ t, e.1.isHandle = false

theorem Unhandled.append {t t' : Trace} (h : Unhandled t) (h' : Unhandled t') :
    Unhandled (t ++ t') := List.forall_mem_append.2 ⟨h, h'⟩

theorem isHandle_of_ofStore {q : Effect} (h : q.ofStore = true) : q.isHandle = false := by
  cases q <;> first | rfl | cases h

theorem isHandle_of_ofPreflight {q : Effect} (h : q.ofPreflight = true) : q.isHandle = false := by
  cases q <;> first | rfl | cases h

theorem isHandle_of_isRecord {q : Effect} (h : q.isRecord = true) : q.isHandle = false := by
  cases q <;> first | rfl | cases h

theorem only_conclude {intent : IntentFields} {deadline : Rat} {judged : CredentialBrokerResult} :
    (conclude intent deadline judged).Only fun q => q.isHandle = false := by
  refine Only.bind (only_interruption.mono fun _ => isHandle_of_ofPreflight) fun interrupted => ?_
  split
  · exact only_finishWith.mono fun _ => isHandle_of_isRecord
  · exact only_recordTerminal.mono fun _ => isHandle_of_isRecord

theorem not_asks_finishWith {intent : IntentFields} {code : CredentialFailureCode}
    {completion : CredentialCompletion} {handlerCode : Option Text} {t : Trace} {handler : HandlerId}
    {context : CredentialHandlerContext} {material : MaterialId} :
    ¬ Asks (finishWith intent code completion handlerCode) t (.handle handler context material) :=
  fun h => nomatch (only_finishWith.asks h).1

theorem asks_handle_invoke {handler handler' : HandlerId} {context context' : CredentialHandlerContext}
    {material material' : MaterialId} {t : Trace}
    (h : Asks (invoke handler context material) t (.handle handler' context' material')) :
    handler' = handler ∧ Unhandled t := by
  rcases asks_read_bind.1 h with ⟨-, h⟩ | ⟨opened, t', ht, hrest⟩
  · cases h
  split at hrest
  · obtain ⟨ht', h⟩ := asks_read.1 hrest
    cases h
    rw [ht, ht']
    exact ⟨rfl, by simp [Unhandled, Effect.isHandle]⟩
  · exact absurd hrest not_asks_done

theorem asks_handle_useMaterial {intent : IntentFields} {deadline : Rat}
    {handler handler' : HandlerId} {material material' : MaterialId}
    {context : CredentialHandlerContext} {t : Trace}
    (h : Asks (useMaterial intent deadline handler material) t (.handle handler' context material')) :
    handler' = handler ∧ Unhandled t := by
  rcases asks_read_bind.1 h with ⟨-, h⟩ | ⟨closed, t', ht, hrest⟩
  · cases h
  have hopen : Unhandled [⟨.isClosed material, closed⟩] := by simp [Unhandled, Effect.isHandle]
  rw [ht, ← List.singleton_append]
  split at hrest
  · rcases asks_bind.1 hrest with h | ⟨_, _, _, -, -, h⟩
    · exact absurd h not_asks_finishWith
    · exact absurd h not_asks_done
  rcases asks_bind.1 hrest with h | ⟨interrupted, t₁, t₂, ht', hinterruption, hrest⟩
  · cases (only_interruption.asks h).1
  have hquiet : Unhandled t₁ := fun e he =>
    isHandle_of_ofPreflight (only_interruption.traced hinterruption e he)
  rw [ht']
  split at hrest
  · rcases asks_bind.1 hrest with h | ⟨_, _, _, -, -, h⟩
    · exact absurd h not_asks_finishWith
    · exact absurd h not_asks_done
  obtain ⟨told, -, hrest⟩ := asks_lift_bind.1 hrest
  rcases asks_bind.1 hrest with h | ⟨answer, _, _, -, -, h⟩
  · obtain ⟨hhandler, hinvoke⟩ := asks_handle_invoke h
    exact ⟨hhandler, hopen.append (hquiet.append hinvoke)⟩
  · obtain ⟨_, -, h⟩ := asks_lift_bind.1 h
    exact absurd h not_asks_done

theorem asks_handle_withMaterial {intent : IntentFields} {deadline : Rat}
    {handler handler' : HandlerId} {material material' : MaterialId}
    {context : CredentialHandlerContext} {t : Trace}
    (h : Asks (withMaterial intent deadline handler material) t
      (.handle handler' context material')) : handler' = handler ∧ Unhandled t := by
  rcases asks_bind.1 h with h | ⟨used, _, _, -, -, h⟩
  · rcases asks_ensuring.1 h with h | ⟨_, _, _, -, -, h⟩
    · exact asks_handle_useMaterial h
    · rcases asks_read_bind.1 h with ⟨-, h⟩ | ⟨_, _, -, h⟩
      · cases h
      · exact absurd h not_asks_done
  · split at h
    · exact absurd h not_asks_done
    · cases (only_conclude.asks h).1

section

variable [DigitLibrary]

theorem asks_handle_lookUpAndUse {broker : Broker} {intent : IntentFields} {deadline : Rat}
    {handler handler' : HandlerId} {material : MaterialId} {context : CredentialHandlerContext}
    {t : Trace} (h : Asks (lookUpAndUse broker intent deadline handler) t
      (.handle handler' context material)) : handler' = handler ∧ Unhandled t := by
  rcases asks_bind.1 h with h | ⟨started, t₁, t₂, ht, hnow, hrest⟩
  · cases (only_now.asks h).1
  have hquiet : Unhandled t₁ := fun e he => isHandle_of_ofPreflight (only_now.traced hnow e he)
  rw [ht]
  split at hrest
  · exact absurd hrest not_asks_finishWith
  obtain ⟨request, -, hrest⟩ := asks_lift_bind.1 hrest
  rcases asks_bind.1 hrest with h | ⟨found, t₃, t₄, ht₂, hlookup, hrest⟩
  · cases (only_lookup.asks h).1
  have hstore : Unhandled t₃ := fun e he => isHandle_of_ofStore (only_lookup.traced hlookup e he)
  rw [ht₂]
  split at hrest
  · exact absurd hrest not_asks_finishWith
  · obtain ⟨hhandler, huse⟩ := asks_handle_withMaterial hrest
    exact ⟨hhandler, hquiet.append (hstore.append huse)⟩

/-- Before it calls a handler, a call has been cleared and its attempt accepted, and it has not called
a handler before. -/
theorem asks_handle_execute {broker : Broker} {intent : CredentialUseIntent}
    {grant : Option CredentialAuthorizationGrant} {handler : HandlerId} {material : MaterialId}
    {context : CredentialHandlerContext} {t : Trace}
    (h : Asks (execute broker intent grant) t (.handle handler context material)) :
    Cleared broker intent grant handler t ∧ Unhandled t ∧
      ∃ event : CredentialAuditEvent, event.fields = attemptEvent intent.fields ∧
        ⟨.record event, true⟩ ∈ t := by
  obtain ⟨_, -, h⟩ := asks_lift_bind.1 h
  rcases asks_bind.1 h with h | ⟨started, t₁, t₂, ht, hnow, h⟩
  · cases (only_now.asks h).1
  rcases asks_bind.1 h with h | ⟨accepted, t₃, t₄, ht₂, hrecord, hrest⟩
  · cases (only_record.asks h).1
  obtain ⟨event, hevent, ht₃⟩ := traced_record hrecord
  cases accepted with
  | false => exact absurd hrest not_asks_done
  | true =>
    rcases asks_bind.1 hrest with h | ⟨cleared, t₅, t₆, ht₄, hpreflight, hrest⟩
    · cases (only_preflight.asks h).1
    cases cleared with
    | inl code => exact absurd hrest not_asks_finishWith
    | inr found =>
      obtain ⟨rfl, huse⟩ := asks_handle_lookUpAndUse hrest
      have hcleared := traced_preflight hpreflight
      have hstarted : Unhandled t₁ := fun e he => isHandle_of_ofPreflight (only_now.traced hnow e he)
      have hchecked : Unhandled t₅ := fun e he =>
        isHandle_of_ofPreflight (only_preflight.traced hpreflight e he)
      have hmem : ∀ e ∈ t₅, e ∈ t := fun e he => by
        rw [ht, ht₂, ht₄]
        simp [he]
      refine ⟨{ hcleared with declared := ?_, consumed := ?_ }, ?_, event, hevent, ?_⟩
      · obtain ⟨declared, hdeclared, hdeclares⟩ := hcleared.declared
        exact ⟨declared, hmem _ hdeclared, hdeclares⟩
      · obtain ⟨g, now, hgrant, hclock, hconsume⟩ := hcleared.consumed
        exact ⟨g, now, hgrant, hmem _ hclock, hmem _ hconsume⟩
      · rw [ht, ht₂, ht₃, ht₄]
        exact hstarted.append (.append (by simp [Unhandled, Effect.isHandle]) (hchecked.append huse))
      · rw [ht, ht₂, ht₃]
        simp

end

/-! ## The authority -/

theorem isRegister_of_ofStore {q : Effect} (h : q.ofStore = true) : q.isRegister = false := by
  cases q <;> first | rfl | cases h

theorem isRegister_of_ofPreflight {q : Effect} (h : q.ofPreflight = true) :
    q.isRegister = false := by
  cases q <;> first | rfl | cases h

theorem isRegister_of_isRecord {q : Effect} (h : q.isRecord = true) : q.isRegister = false := by
  cases q <;> first | rfl | cases h

theorem only_withMaterial {intent : IntentFields} {deadline : Rat} {handler : HandlerId}
    {material : MaterialId} :
    (withMaterial intent deadline handler material).Only fun q => q.isRegister = false := by
  have hfinish := fun {intent code completion handlerCode} =>
    (@only_finishWith intent code completion handlerCode).mono fun _ => isRegister_of_isRecord
  have hinterruption := fun {cancellation deadline} =>
    (@only_interruption cancellation deadline).mono fun _ => isRegister_of_ofPreflight
  refine Only.bind (Only.ensuring (Only.bind (Only.read rfl) fun closed => ?_) (Only.read rfl))
    fun used => ?_
  · split
    · exact hfinish.bind fun _ => Only.pure
    · refine hinterruption.bind fun interrupted => ?_
      split
      · exact hfinish.bind fun _ => Only.pure
      · refine Only.lift_bind fun _ _ => Only.bind (Only.bind (Only.read rfl) fun opened => ?_)
          fun answer => Only.lift_bind fun _ _ => Only.pure
        split
        · exact Only.read rfl
        · exact Only.pure
  · split
    · exact Only.pure
    · refine hinterruption.bind fun interrupted => ?_
      split
      · exact hfinish
      · exact only_recordTerminal.mono fun _ => isRegister_of_isRecord

section

variable [DigitLibrary]

theorem only_execute {broker : Broker} {intent : CredentialUseIntent}
    {grant : Option CredentialAuthorizationGrant} :
    (execute broker intent grant).Only fun q => q.isRegister = false := by
  have hfinish := fun {intent code completion handlerCode} =>
    (@only_finishWith intent code completion handlerCode).mono fun _ => isRegister_of_isRecord
  have hnow := only_now.mono fun _ => isRegister_of_ofPreflight
  refine Only.lift_bind fun _ _ => hnow.bind fun started => ?_
  refine Only.bind (only_record.mono fun _ => isRegister_of_isRecord) fun accepted => ?_
  split
  · refine Only.bind (only_preflight.mono fun _ => isRegister_of_ofPreflight) fun cleared => ?_
    split
    · exact hfinish
    · refine hnow.bind fun now => ?_
      split
      · exact hfinish
      · refine Only.lift_bind fun _ _ =>
          Only.bind (only_lookup.mono fun _ => isRegister_of_ofStore) fun found => ?_
        split
        · exact hfinish
        · exact only_withMaterial
  · exact Only.done

omit [DigitLibrary] in
/-- What `issue` registers. -/
theorem asks_register_issue {intent : CredentialUseIntent} {ttlSeconds : Rat}
    {state : AuthorizationState} {t : Trace}
    (h : Asks (issue intent ttlSeconds) t (.register state)) :
    state.intentSignature = intentSignature intent := by
  obtain ⟨_, -, h⟩ := asks_lift_bind.1 h
  rcases asks_bind.1 h with h | ⟨now, _, t₂, -, -, h⟩
  · rcases asks_read_bind.1 h with ⟨-, h⟩ | ⟨_, _, -, h⟩
    · cases h
    · exact absurd h not_asks_done
  rcases asks_read_bind.1 h with ⟨-, h⟩ | ⟨made, t₃, -, h⟩
  · cases h
  obtain ⟨grantId, -, h⟩ := asks_lift_bind.1 h
  obtain ⟨grant, -, h⟩ := asks_lift_bind.1 h
  rcases asks_read_bind.1 h with ⟨-, h⟩ | ⟨fresh, t₄, -, h⟩
  · cases h
    rfl
  · obtain ⟨_, -, h⟩ := asks_lift_bind.1 h
    exact absurd h not_asks_done

/-- A grant is registered by the call that issues it. -/
theorem asks_register {task : Task} {state : AuthorizationState} {t : Trace}
    (h : Asks task.program t (.register state)) : ∃ intent ttlSeconds,
      task = .issue intent ttlSeconds ∧ state.intentSignature = intentSignature intent := by
  cases task with
  | issue intent ttlSeconds =>
    rcases asks_bind.1 h with h | ⟨_, _, _, -, -, h⟩
    · exact ⟨intent, ttlSeconds, rfl, asks_register_issue h⟩
    · exact absurd h not_asks_done
  | execute broker intent grant =>
    rcases asks_bind.1 h with h | ⟨_, _, _, -, -, h⟩
    · cases (only_execute.asks h).1
    · exact absurd h not_asks_done

/-- A handler is called by a call of `execute`. -/
theorem asks_handle {task : Task} {handler : HandlerId} {material : MaterialId}
    {context : CredentialHandlerContext} {t : Trace}
    (h : Asks task.program t (.handle handler context material)) :
    ∃ broker intent grant, task = .execute broker intent grant ∧
      Cleared broker intent grant handler t ∧ Unhandled t ∧
        ∃ event : CredentialAuditEvent, event.fields = attemptEvent intent.fields ∧
          ⟨.record event, true⟩ ∈ t := by
  cases task with
  | issue intent ttlSeconds =>
    rcases asks_bind.1 h with h | ⟨_, _, _, -, -, h⟩
    · have honly : (issue intent ttlSeconds).Only fun q => q.isHandle = false := by
        refine Only.lift_bind fun _ _ => Only.bind ?_ fun now => Only.bind (Only.read rfl) fun made => ?_
        · exact Only.bind (Only.read rfl) fun _ => Only.done
        · refine Only.lift_bind fun _ _ => Only.lift_bind fun _ _ => Only.bind (Only.read rfl) ?_
          exact fun _ => Only.lift_bind fun _ _ => Only.pure
      cases (honly.asks h).1
    · exact absurd h not_asks_done
  | execute broker intent grant =>
    rcases asks_bind.1 h with h | ⟨_, _, _, -, -, h⟩
    · exact ⟨broker, intent, grant, rfl, asks_handle_execute h⟩
    · exact absurd h not_asks_done

end

/-! ## The log -/

section

variable {ι : Type}

/-- The calls of all clients, in order. -/
abbrev Log (ι : Type) := List (Entry ι Task Effect Effect.Answer)

/-- The event registers a grant for an intent with the signature. -/
def Registers (event : Event Effect Effect.Answer) (grant : CredentialAuthorizationGrant)
    (signature : IntentFields) : Prop :=
  ∃ consumed, event = ⟨.register ⟨grant, signature, consumed⟩, true⟩

/-- The event consumes a grant for an intent with the signature, at a reading of the clock. -/
def Consumes (event : Event Effect Effect.Answer) (grant : CredentialAuthorizationGrant)
    (signature : IntentFields) (now : Rat) : Prop :=
  event = ⟨.consume grant signature now, none⟩

@[simp]
theorem put_states (s : Authority) (grantId : Text) (state : AuthorizationState) (id : Text) :
    (s.put grantId state).states id = if id = grantId then some state else s.states id := rfl

theorem register_spec {s s' : Authority} {state : AuthorizationState}
    (h : (true, s') = s.register state) : s.states state.grant.fields.grantId = none ∧
      s' = s.put state.grant.fields.grantId state := by
  rw [Authority.register] at h
  split at h
  · cases h
  · rename_i hfree
    cases h
    exact ⟨hfree, rfl⟩

theorem register_refused {s s' : Authority} {state : AuthorizationState}
    (h : (false, s') = s.register state) : s' = s := by
  rw [Authority.register] at h
  split at h
  · cases h
    rfl
  · cases h

/-- A grant that is consumed is the one that was issued, and has neither been consumed nor expired. -/
theorem consume_spec {s s' : Authority} {grant : CredentialAuthorizationGrant}
    {signature : IntentFields} {now : Rat} (h : (none, s') = s.consume grant signature now) :
    now < grant.fields.expiresAtMonotonic ∧
      s.states grant.fields.grantId = some ⟨grant, signature, false⟩ ∧
      s' = s.put grant.fields.grantId ⟨grant, signature, true⟩ := by
  rw [Authority.consume] at h
  split at h
  · cases h
  rename_i state hstate
  split_ifs at h with hgrant hconsumed hexpired hsignature
  · cases h
  · cases h
  · cases h
  · cases h
  · cases h
    obtain rfl := not_not.1 hgrant
    obtain rfl := not_not.1 hsignature
    exact ⟨Rat.not_le.1 hexpired, by rw [hstate, ← Bool.not_eq_true _ |>.mp hconsumed], rfl⟩

/-- A refusal leaves the grants, or marks one as consumed. -/
theorem consume_refused {s s' : Authority} {grant : CredentialAuthorizationGrant}
    {signature : IntentFields} {now : Rat} {code : CredentialFailureCode}
    (h : (some code, s') = s.consume grant signature now) : s' = s ∨ ∃ state,
      s.states grant.fields.grantId = some state ∧
        s' = s.put grant.fields.grantId { state with consumed := true } := by
  rw [Authority.consume] at h
  split at h
  · cases h
    exact .inl rfl
  rename_i state hstate
  split_ifs at h
  · cases h
    exact .inl rfl
  · cases h
    exact .inl rfl
  · cases h
    exact .inr ⟨state, hstate, rfl⟩
  · cases h
    exact .inl rfl
  · cases h

/-- What is known of an authority and of the calls so far. -/
structure Recorded (s : Authority) (log : Log ι) : Prop where
  registered : ∀ id state, s.states id = some state → state.grant.fields.grantId = id ∧
    ∃ e ∈ log, Registers e.event state.grant state.intentSignature
  consumed : ∀ e ∈ log, ∀ grant signature now, Consumes e.event grant signature now →
    ∃ state, s.states grant.fields.grantId = some state ∧ state.consumed = true
  exact : ∀ before e after grant signature now, log = before ++ e :: after →
    Consumes e.event grant signature now → now < grant.fields.expiresAtMonotonic ∧
      ∃ r ∈ before, Registers r.event grant signature
  once : log.Pairwise fun e e' => ∀ grant signature now grant' signature' now',
    Consumes e.event grant signature now → Consumes e'.event grant' signature' now' →
      grant.fields.grantId ≠ grant'.fields.grantId

theorem Recorded.empty : Recorded Authority.empty ([] : Log ι) where
  registered _ _ h := nomatch h
  consumed _ h := nomatch h
  exact before e after _ _ _ h := by simp at h
  once := .nil

/-- A grant is marked as consumed. -/
theorem Recorded.mark {s : Authority} {log : Log ι} {grantId : Text} {state : AuthorizationState}
    (h : Recorded s log) (hstate : s.states grantId = some state) :
    Recorded (s.put grantId { state with consumed := true }) log where
  registered id state' h' := by
    rw [put_states] at h'
    split at h'
    · rename_i hid
      obtain rfl := Option.some.inj h'
      obtain ⟨hgrant, hregisters⟩ := h.registered grantId state hstate
      exact ⟨hgrant.trans hid.symm, hregisters⟩
    · exact h.registered id state' h'
  consumed e he grant signature now hconsumes := by
    obtain ⟨state', hstate', hconsumed⟩ := h.consumed e he grant signature now hconsumes
    rw [put_states]
    split
    · exact ⟨_, rfl, rfl⟩
    · exact ⟨state', hstate', hconsumed⟩
  exact := h.exact
  once := h.once

/-- A call that consumes nothing. -/
theorem Recorded.append {s : Authority} {log : Log ι} {e : Entry ι Task Effect Effect.Answer}
    (h : Recorded s log) (he : ∀ grant signature now, ¬ Consumes e.event grant signature now) :
    Recorded s (log ++ [e]) where
  registered id state hstate := by
    obtain ⟨hgrant, r, hr, hregisters⟩ := h.registered id state hstate
    exact ⟨hgrant, r, List.mem_append_left _ hr, hregisters⟩
  consumed e' he' grant signature now hconsumes := by
    rcases List.mem_append.1 he' with he' | he'
    · exact h.consumed e' he' grant signature now hconsumes
    · rw [List.mem_singleton.1 he'] at hconsumes
      exact absurd hconsumes (he grant signature now)
  exact before e' after grant signature now hlog hconsumes := by
    rcases List.eq_nil_or_concat' after with rfl | ⟨after, last, rfl⟩
    · obtain ⟨-, hlast⟩ := List.append_inj' (hlog : _ ++ [_] = before ++ [e']) rfl
      rw [← List.singleton_inj.1 hlast] at hconsumes
      exact absurd hconsumes (he grant signature now)
    · rw [← List.cons_append, ← List.append_assoc] at hlog
      exact h.exact before e' after grant signature now (List.append_inj' hlog rfl).1 hconsumes
  once := by
    refine List.pairwise_append.2 ⟨h.once, List.pairwise_singleton _ _, ?_⟩
    intro e₁ _ e₂ he₂ grant signature now grant' signature' now' _ hconsumes
    rw [List.mem_singleton.1 he₂] at hconsumes
    exact absurd hconsumes (he grant' signature' now')

/-- A call that consumes a grant. -/
theorem Recorded.consume {s : Authority} {log : Log ι} {e : Entry ι Task Effect Effect.Answer}
    {grant : CredentialAuthorizationGrant} {signature : IntentFields} {now : Rat}
    (h : Recorded s log) (he : Consumes e.event grant signature now)
    (hnow : now < grant.fields.expiresAtMonotonic)
    (hstate : s.states grant.fields.grantId = some ⟨grant, signature, false⟩) :
    Recorded (s.put grant.fields.grantId ⟨grant, signature, true⟩) (log ++ [e]) where
  registered id state' h' := by
    obtain ⟨hgrant, r, hr, hregisters⟩ := (h.mark hstate).registered id state' h'
    exact ⟨hgrant, r, List.mem_append_left _ hr, hregisters⟩
  consumed e' he' grant' signature' now' hconsumes := by
    rcases List.mem_append.1 he' with he' | he'
    · exact (h.mark hstate).consumed e' he' grant' signature' now' hconsumes
    · rw [List.mem_singleton.1 he', he] at hconsumes
      cases hconsumes
      exact ⟨_, if_pos rfl, rfl⟩
  exact before e' after grant' signature' now' hlog hconsumes := by
    rcases List.eq_nil_or_concat' after with rfl | ⟨after, last, rfl⟩
    · obtain ⟨hbefore, hlast⟩ := List.append_inj' (hlog : _ ++ [_] = before ++ [e']) rfl
      rw [← List.singleton_inj.1 hlast, he] at hconsumes
      cases hconsumes
      rw [← hbefore]
      exact ⟨hnow, (h.registered _ _ hstate).2⟩
    · rw [← List.cons_append, ← List.append_assoc] at hlog
      exact h.exact before e' after grant' signature' now' (List.append_inj' hlog rfl).1 hconsumes
  once := by
    refine List.pairwise_append.2 ⟨h.once, List.pairwise_singleton _ _, ?_⟩
    intro e₁ he₁ e₂ he₂ grant₁ signature₁ now₁ grant₂ signature₂ now₂ hconsumes₁ hconsumes₂
    rw [List.mem_singleton.1 he₂, he] at hconsumes₂
    cases hconsumes₂
    -- the grant of an earlier one is marked as consumed, this one was not
    intro heq
    obtain ⟨state, hstate', hconsumed⟩ := h.consumed e₁ he₁ grant₁ signature₁ now₁ hconsumes₁
    rw [heq, hstate] at hstate'
    obtain rfl := Option.some.inj hstate'
    cases hconsumed

/-- A grant that was free is registered. -/
theorem Recorded.register {s : Authority} {log : Log ι} {e : Entry ι Task Effect Effect.Answer}
    {state : AuthorizationState} (h : Recorded s log) (he : e.event = ⟨.register state, true⟩)
    (hfree : s.states state.grant.fields.grantId = none) :
    Recorded (s.put state.grant.fields.grantId state) (log ++ [e]) := by
  have happend : Recorded s (log ++ [e]) := h.append fun _ _ _ hconsumes => by
    rw [he] at hconsumes
    cases hconsumes
  refine { happend with registered := fun id state' h' => ?_, consumed := ?_ }
  · rw [put_states] at h'
    split at h'
    · rename_i hid
      obtain rfl := Option.some.inj h'
      exact ⟨hid.symm, e, by simp, _, he⟩
    · exact happend.registered id state' h'
  · intro e' he' grant signature now hconsumes
    obtain ⟨state', hstate', hconsumed⟩ := happend.consumed e' he' grant signature now hconsumes
    refine ⟨state', ?_, hconsumed⟩
    rw [put_states, if_neg]
    · exact hstate'
    · intro heq
      rw [heq, hfree] at hstate'
      cases hstate'

/-- Two clients that consume a grant consume different ones. -/
theorem Recorded.ne {s : Authority} {log : Log ι} (h : Recorded s log)
    {e e' : Entry ι Task Effect Effect.Answer} {grant grant' : CredentialAuthorizationGrant}
    {signature signature' : IntentFields} {now now' : Rat} (he : e ∈ log) (he' : e' ∈ log)
    (hne : e.client ≠ e'.client) (hconsumes : Consumes e.event grant signature now)
    (hconsumes' : Consumes e'.event grant' signature' now') :
    grant.fields.grantId ≠ grant'.fields.grantId := by
  have : Std.Symm fun e e' : Entry ι Task Effect Effect.Answer =>
      ∀ grant signature now grant' signature' now', Consumes e.event grant signature now →
        Consumes e'.event grant' signature' now' →
          grant.fields.grantId ≠ grant'.fields.grantId :=
    ⟨fun _ _ h grant signature now grant' signature' now' hc hc' heq =>
      h grant' signature' now' grant signature now hc' hc heq.symm⟩
  exact h.once.forall he he' (fun heq => hne (congrArg Entry.client heq)) _ _ _ _ _ _ hconsumes
    hconsumes'

theorem Recorded.step {s s' : Authority} {log : Log ι} {i : ι} {task : Task} {q : Effect}
    {a : q.Answer} (h : Recorded s log) (hrespond : s.Respond q a s') :
    Recorded s' (log ++ [⟨i, task, ⟨q, a⟩⟩]) := by
  cases q with
  | register state =>
    have hquiet : ∀ grant signature now, ¬ Consumes (⟨.register state, a⟩ : Event _ _) grant
        signature now := fun _ _ _ hconsumes => by cases hconsumes
    cases a with
    | false =>
      rw [register_refused hrespond]
      exact h.append hquiet
    | true =>
      obtain ⟨hfree, rfl⟩ := register_spec hrespond
      exact h.register rfl hfree
  | consume grant signature now =>
    cases a with
    | none =>
      obtain ⟨hnow, hstate, rfl⟩ := consume_spec hrespond
      exact h.consume rfl hnow hstate
    | some code =>
      have hquiet : ∀ grant' signature' now', ¬ Consumes
          (⟨.consume grant signature now, some code⟩ : Event _ _) grant' signature' now' :=
        fun _ _ _ hconsumes => by cases hconsumes
      rcases consume_refused hrespond with rfl | ⟨state, hstate, rfl⟩
      · exact h.append hquiet
      · exact (h.mark hstate).append hquiet
  | _ =>
    obtain rfl : s' = s := hrespond
    exact h.append fun _ _ _ hconsumes => by cases hconsumes

end

/-! ## Every run -/

section

variable {ι : Type} [DecidableEq ι] [DigitLibrary]

/-- What has come before a client calls a handler for an intent and a grant. -/
structure Exact (before : Log ι) (client : ι) (broker : Broker) (intent : CredentialUseIntent)
    (grant : CredentialAuthorizationGrant) (handler : HandlerId) : Prop where
  issued : ∃ r ∈ before, ∃ issuedFor ttlSeconds, r.task = .issue issuedFor ttlSeconds ∧
    Registers r.event grant (intentSignature issuedFor) ∧
      intentSignature issuedFor = intentSignature intent
  consumed : ∃ now, ⟨.authorityClock, some now⟩ ∈ own client before ∧
    ⟨.consume grant (intentSignature intent) now, none⟩ ∈ own client before ∧
      now < grant.fields.expiresAtMonotonic
  status : intent.fields.reference.status = .active
  operation : intent.fields.operationScope ∈ intent.fields.reference.allowedOperationScope
  destination : intent.fields.destination ∈ intent.fields.reference.allowedDestinationScope
  registered :
    broker.handlers intent.fields.capabilityId intent.fields.capabilityVersion = some handler
  declared : ∃ declared, ⟨.declaration handler, some declared⟩ ∈ own client before ∧
    Declares declared intent.fields
  attempted : ∃ event : CredentialAuditEvent, event.fields = attemptEvent intent.fields ∧
    ⟨.record event, true⟩ ∈ own client before

/-- A call calls a handler for a grant. -/
def Handles (e : Entry ι Task Effect Effect.Answer) (grant : CredentialAuthorizationGrant) : Prop :=
  (∃ handler context material, e.event.1 = .handle handler context material) ∧
    ∃ broker intent, e.task = .execute broker intent (some grant)

theorem recorded_of_reachable {W : World Authority ι Task Effect Effect.Answer CredentialError Returned}
    (h : Reachable (Step Task.program Authority.Respond) (World.start Authority.empty) W) :
    Recorded W.shared W.log :=
  invariant Recorded.empty (fun _ _ _ _ _ _ _ => Recorded.step) h

/-- A grant that is consumed was issued for an intent with the same signature. -/
theorem issued_of_consumes
    {W : World Authority ι Task Effect Effect.Answer CredentialError Returned}
    (h : Reachable (Step Task.program Authority.Respond) (World.start Authority.empty) W)
    {before after : Log ι} (hlog : W.log = before ++ after) {e : Entry ι Task Effect Effect.Answer}
    (he : e ∈ before) {grant : CredentialAuthorizationGrant} {signature : IntentFields} {now : Rat}
    (hconsumes : Consumes e.event grant signature now) : now < grant.fields.expiresAtMonotonic ∧
      ∃ r ∈ before, ∃ issuedFor ttlSeconds, r.task = .issue issuedFor ttlSeconds ∧
        Registers r.event grant (intentSignature issuedFor) ∧
          intentSignature issuedFor = signature := by
  obtain ⟨first, rest, hbefore⟩ := List.append_of_mem he
  have hlog' : W.log = first ++ e :: (rest ++ after) := by
    rw [hlog, hbefore, List.append_assoc, List.cons_append]
  obtain ⟨hexpiry, r, hr, consumed, hregister⟩ :=
    (recorded_of_reachable h).exact first e _ grant signature now hlog' hconsumes
  refine ⟨hexpiry, r, hbefore ▸ List.mem_append_left _ hr, ?_⟩
  -- the calls of the client that registered it
  obtain ⟨second, rest', hfirst⟩ := List.append_of_mem hr
  have hasks := (tracked_of_reachable h).asks second r (rest' ++ e :: (rest ++ after)) (by
    rw [hlog', hfirst, List.append_assoc, List.cons_append])
  rw [hregister] at hasks
  obtain ⟨issuedFor, ttlSeconds, hissue, hsignature⟩ := asks_register hasks
  exact ⟨issuedFor, ttlSeconds, hissue, ⟨consumed, hregister.trans (by rw [← hsignature])⟩,
    hsignature.symm⟩

/-- What is known of the calls when a handler is called. -/
theorem exact_of_handle
    {W : World Authority ι Task Effect Effect.Answer CredentialError Returned}
    (h : Reachable (Step Task.program Authority.Respond) (World.start Authority.empty) W)
    {before after : Log ι} {e : Entry ι Task Effect Effect.Answer}
    (hlog : W.log = before ++ e :: after) {handler : HandlerId}
    {context : CredentialHandlerContext} {material : MaterialId}
    (he : e.event.1 = .handle handler context material) : ∃ broker intent grant,
      e.task = .execute broker intent (some grant) ∧
        Exact before e.client broker intent grant handler ∧ Unhandled (own e.client before) := by
  have hasks := (tracked_of_reachable h).asks before e after hlog
  rw [he] at hasks
  obtain ⟨broker, intent, grant, htask, hcleared, hunhandled, event, hevent, hattempt⟩ :=
    asks_handle hasks
  obtain ⟨g, now, rfl, hclock, hconsume⟩ := hcleared.consumed
  obtain ⟨task, hmem⟩ := mem_own.1 hconsume
  obtain ⟨hexpiry, hissued⟩ := issued_of_consumes h hlog hmem rfl
  refine ⟨broker, intent, g, htask, ?_, hunhandled⟩
  exact {
    issued := hissued
    consumed := ⟨now, hclock, hconsume, hexpiry⟩
    status := hcleared.status
    operation := hcleared.operation
    destination := hcleared.destination
    registered := hcleared.registered
    declared := hcleared.declared
    attempted := ⟨event, hevent, hattempt⟩ }

/-- Two calls of handlers are for different grants. -/
theorem handles_ne
    {W : World Authority ι Task Effect Effect.Answer CredentialError Returned}
    (h : Reachable (Step Task.program Authority.Respond) (World.start Authority.empty) W)
    {before between after : Log ι} {e e' : Entry ι Task Effect Effect.Answer}
    (hlog : W.log = before ++ e :: (between ++ e' :: after))
    {grant grant' : CredentialAuthorizationGrant} (he : Handles e grant) (he' : Handles e' grant') :
    grant.fields.grantId ≠ grant'.fields.grantId := by
  obtain ⟨⟨handler, context, material, hcall⟩, broker, intent, htask⟩ := he
  obtain ⟨⟨handler', context', material', hcall'⟩, broker', intent', htask'⟩ := he'
  have hlog' : W.log = (before ++ e :: between) ++ e' :: after := by
    rw [hlog, List.append_assoc, List.cons_append]
  obtain ⟨_, _, _, hexecute, hexact, -⟩ := exact_of_handle h hlog hcall
  obtain ⟨_, _, _, hexecute', hexact', hunhandled⟩ := exact_of_handle h hlog' hcall'
  cases htask.symm.trans hexecute
  cases htask'.symm.trans hexecute'
  have hmem : e ∈ before ++ e :: between := List.mem_append_right _ (List.mem_cons_self ..)
  -- a call that has called a handler does not call one again
  have hne : e.client ≠ e'.client := fun heq => by
    have hquiet := hunhandled e.event (mem_own.2 ⟨e.task, by rw [← heq]; exact hmem⟩)
    rw [hcall] at hquiet
    cases hquiet
  obtain ⟨now, -, hconsume, -⟩ := hexact.consumed
  obtain ⟨now', -, hconsume', -⟩ := hexact'.consumed
  obtain ⟨task, hlogged⟩ := mem_own.1 hconsume
  obtain ⟨task', hlogged'⟩ := mem_own.1 hconsume'
  have hfirst := List.mem_append_left (e :: (between ++ e' :: after)) hlogged
  have hsecond := List.mem_append_left (e' :: after) hlogged'
  rw [← hlog] at hfirst
  rw [← hlog'] at hsecond
  exact (recorded_of_reachable h).ne hfirst hsecond hne rfl rfl

/-- In every run a handler is called at most once for each grant, and for each call of a handler there
is a grant that was issued for the same intent and that this call has consumed before its expiry; its
reference is active and covers the operation and the destination, the handler's declaration matches the
intent, and the audit sink has accepted the attempt. -/
theorem handled_exact
    {W : World Authority ι Task Effect Effect.Answer CredentialError Returned}
    (h : Reachable (Step Task.program Authority.Respond) (World.start Authority.empty) W) :
    (∀ before e after, W.log = before ++ e :: after → ∀ handler context material,
      e.event.1 = .handle handler context material → ∃ broker intent grant,
        e.task = .execute broker intent (some grant) ∧
          Exact before e.client broker intent grant handler) ∧
    W.log.Pairwise fun e e' => ∀ grant grant', Handles e grant → Handles e' grant' →
      grant.fields.grantId ≠ grant'.fields.grantId := by
  constructor
  · intro before e after hlog handler context material he
    obtain ⟨broker, intent, grant, htask, hexact, -⟩ := exact_of_handle h hlog he
    exact ⟨broker, intent, grant, htask, hexact⟩
  · exact pairwise_of_splits fun _ _ _ _ _ hlog _ _ => handles_ne h hlog

end

/-! ## A run in which a handler is called -/

@[reducible] def asciiDigits : DigitLibrary where
  isDecimal := Char.isDigit

def sampleReference : SecretReferenceMetadata where
  referenceId := "reference".toList
  credentialClass := .apiKey
  storeAdapterClass := "vault".toList
  label := "key".toList
  status := .active
  providerClass := none
  allowedOperationScope := ["read".toList]
  allowedDestinationScope := ["host".toList]
  createdAt := none
  rotatedAt := none
  revokedAt := none

def sampleIntent : CredentialUseIntent where
  fields :=
    { operationId := "operation".toList
      capabilityId := "capability".toList
      capabilityVersion := 1
      actorType := .user
      reference := sampleReference
      operationScope := "read".toList
      destination := "host".toList
      actorId := none
      riskTier := .tier3
      timeoutSeconds := 30
      userPresence := .allow
      cancellation := 0 }
  valid := by decide +kernel

/-- What is issued for the sample when the clock stands still. -/
def sampleGrant : CredentialAuthorizationGrant where
  fields :=
    { grantId := "grant".toList
      operationId := "operation".toList
      capabilityId := "capability".toList
      capabilityVersion := 1
      referenceId := "reference".toList
      operationScope := "read".toList
      destination := "host".toList
      riskTier := .tier3
      expiresAtMonotonic := 60 }
  valid := by decide +kernel

def sampleBroker : Broker where
  handlers _ _ := some 0
  adapters _ := some 0

def sampleResult : CredentialHandlerResult where
  fields := ⟨true, "done".toList, .completed⟩
  valid := by decide +kernel

/-- Nothing goes wrong, and no time passes. -/
def smoothly : (effect : Effect) → effect.Answer
  | .clock | .authorityClock | .storeClock => some (0 : Rat)
  | .record _ => true
  | .isCancelled _ => false
  | .declaration _ => some (⟨"capability".toList, 1, "read".toList, "tier3".toList⟩ :
      HandlerDeclaration)
  | .handle _ _ _ => HandlerAnswer.returns sampleResult
  | .newGrantId => IdAnswer.text "grant".toList
  | .register _ => true
  | .consume _ _ _ => (none : Option CredentialFailureCode)
  | .status _ => some ("vault".toList, some (⟨"vault".toList, .available, .unlocked, .optional,
      [.lookup], none⟩ : SecretStoreStatus))
  | .lookup _ _ _ => LookupAnswer.material 0
  | .mutate _ _ _ _ _ => MutationAnswer.returns
  | .isClosed _ => false
  | .close _ => ()
  | .borrow _ => true

section

attribute [local instance] asciiDigits

theorem handled_exact_smoothly :
    ∃ W : World Authority (Fin 2) Task Effect Effect.Answer CredentialError Returned,
      (W.log.any fun e => e.event.1.isHandle) = true ∧
      (∀ before e after, W.log = before ++ e :: after → ∀ handler context material,
        e.event.1 = .handle handler context material → ∃ broker intent grant,
          e.task = .execute broker intent (some grant) ∧
            Exact before e.client broker intent grant handler) ∧
      W.log.Pairwise fun e e' => ∀ grant grant', Handles e grant → Handles e' grant' →
        grant.fields.grantId ≠ grant'.fields.grantId := by
  have hstart : Reachable (Step Task.program Authority.Respond) (World.start Authority.empty)
      (World.start Authority.empty : World _ (Fin 2) _ _ _ _ _) := .refl _
  have hissue := hstart.next (Step.start (i := 0) (.issue sampleIntent 60) rfl)
  obtain ⟨W, hW, hshared, hclient, hlog⟩ :=
    reachable_play (respond_serve smoothly) hissue (World.goto_self ..)
  have hexecute := hW.next (Step.start (i := 1) (.execute sampleBroker sampleIntent (some sampleGrant))
    (hclient 1 (by decide)))
  obtain ⟨W', hW', -, -, hlog'⟩ :=
    reachable_play (respond_serve smoothly) hexecute (World.goto_self ..)
  refine ⟨W', ?_, handled_exact hW'⟩
  rw [hlog', List.any_append, Bool.or_eq_true]
  right
  rw [show (World.goto W 1 _ _).shared = W.shared from rfl, hshared]
  decide +kernel

end

end DollState.Credential
