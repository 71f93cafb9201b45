import DollState.Model.SwitchPlan

/-!
# Where a switch ends

A switch that returns leaves its target active if it says that it has switched, and otherwise the
binding that was active before. A switch that raises after it has reserved its operation leaves that
binding active too, or raises a `ModelSwitchRollbackError`, with one exception: the handlers after
the activation name the errors they handle, so a `BaseException` out of the adapter passes them all
and leaves the target active (`switch_endsKnown_iff`).
-/

namespace DollState.Model

open Capability DollState.Runtime StateLib

/-- The characters of three literals, one after the other. -/
theorem toList_append_ofList {first second third : List Char} :
    (String.ofList first ++ String.ofList second ++ String.ofList third).toList = first ++ second ++ third := by
  rw [String.toList_append, String.toList_append, String.toList_ofList, String.toList_ofList, String.toList_ofList]

section

variable [PythonLibrary] [ModuleRules] [CaseLibrary] [Audit.AuditRules] [FloatLibrary]
  [DigestLibrary]

/-! ## After the activation -/

variable [FloatAddition]

/-- The calls on the adapter that a switch makes after its activation, in order. -/
def activatedCalls (env : SwitchContext) (plan : Plan) : Result (Option FailureCode) := do
  validateAdapterDeclaration env.registry env.activatedDeclaration plan.runtime
  probe env.registry env.postActivate plan.runtime plan.model
    (plan.operationId ++ ".post-activate".toList)

omit [PythonLibrary] [ModuleRules] [CaseLibrary] [Audit.AuditRules] [FloatLibrary] [DigestLibrary]
  [FloatAddition] in
theorem isToken_append {value suffix : Text} (h : isToken value = true)
    (hsuffix : suffix.all (fun d => d.isAlphanum || d == '.' || d == '_' || d == ':' || d == '-') =
      true) : isToken (value ++ suffix) = true := by
  cases value with
  | nil => cases h
  | cons c cs =>
    rw [isToken, Bool.and_eq_true] at h
    rw [List.cons_append, isToken, Bool.and_eq_true, List.all_append, Bool.and_eq_true]
    exact ⟨h.1, h.2, hsuffix⟩

omit [PythonLibrary] [ModuleRules] [CaseLibrary] [Audit.AuditRules] [FloatLibrary] [DigestLibrary]
  [FloatAddition] in
theorem raised_eq_error {α : Type} {x : Except Exc α} {e : DollError}
    (hx : ∀ exc, x = .error exc → exc = .interrupt) (h : raised x = .error e) :
    e.kind = .interrupt := by
  cases x with
  | ok a => cases h
  | error exc =>
    obtain rfl := hx exc rfl
    cases h
    rfl

omit [PythonLibrary] [CaseLibrary] [Audit.AuditRules] [FloatLibrary] [DigestLibrary]
  [FloatAddition] in
theorem validateAdapterDeclaration_eq_error {registry : Registry Unit}
    {reply : Reply RuntimeAdapterDeclaration} {runtime : RuntimeManifestInfo} {e : DollError}
    (hadapter : isIdentifier runtime.content.adapterId = true)
    (h : validateAdapterDeclaration registry reply runtime = .error e) :
    e.kind = .modelSwitchValidation ∨ e.kind = .interrupt := by
  rcases bind_eq_error.1 h with h | ⟨declared, -, h⟩
  · rw [boundaryDeclaration, validateIdentifier, ensure_of hadapter] at h
    simp only [ok_bind, pure_bind] at h
    split at h
    · cases h
    · exact .inr (raised_eq_error (fun exc => exceptException_eq_error) h)
  rcases bind_eq_error.1 h with h | ⟨declared, -, h⟩
  · exact .inl (congrArg DollError.kind (orFail_eq_error.1 h).2.symm)
  · exact .inl (congrArg DollError.kind (ensure_eq_error.1 h).2.symm)

omit [PythonLibrary] [ModuleRules] [CaseLibrary] [Audit.AuditRules] [FloatLibrary] [DigestLibrary]
  [FloatAddition] in
/-- The request of a probe is one that the runtime accepts. -/
theorem probeRequest_valid {operationId modelId : Text} (hoperation : isOperationId operationId = true)
    (hmodel : isIdentifier modelId = true) :
    (RequestFields.mk operationId modelId probeInput maxProbeOutput 60).validate = .ok () := by
  have htext : validateText "runtime input" probeInput maxRuntimeInputChars false true = .ok () := by
    have hprobe : probeInput = _ := toList_append_ofList
    rw [hprobe]
    decide +kernel
  have houtput : (1 : Int) ≤ maxProbeOutput ∧ (maxProbeOutput : Int) ≤ maxRuntimeOutputChars := by
    decide
  have htimeout : (0 : Rat) < 60 ∧ 60 ≤ maxRuntimeTimeoutSeconds := by
    decide +kernel
  simp only [RequestFields.validate, ensure_of hoperation, ensure_of hmodel, ok_bind, htext,
    ensure_of houtput, ensure_of htimeout]

omit [PythonLibrary] [ModuleRules] [CaseLibrary] [Audit.AuditRules] [FloatLibrary]
  [DigestLibrary] in
/-- A probe with a valid request raises nothing but what leaves the boundary. -/
theorem probe_eq_error {registry : Registry Unit} {call : ProbeCall} {runtime : RuntimeManifestInfo}
    {model : ModelManifestInfo} {operationId : Text} {e : DollError}
    (hoperation : isOperationId operationId = true)
    (hadapter : isIdentifier runtime.content.adapterId = true)
    (hlocator : isIdentifier model.content.runtimePrivateLocator = true)
    (h : probe registry call runtime model operationId = .error e) : e.kind = .interrupt := by
  have hmodel := runtimeModelId_eq_ok.2 ⟨rfl, hlocator⟩
  obtain ⟨request, hrequest⟩ :=
    exists_newGenerationRequest (probeRequest_valid hoperation hlocator)
  rw [probe, hmodel, ok_bind, hrequest, ok_bind] at h
  rcases bind_eq_error.1 h with h | ⟨result, -, h⟩
  · exact raised_eq_error (fun exc => generate_eq_error hadapter) h
  · split at h
    · cases h
    · split at h <;> cases h

omit [PythonLibrary] [CaseLibrary] [Audit.AuditRules] [FloatLibrary] [DigestLibrary] in
/-- Nothing but a `BaseException` that is not an `Exception` passes the handler of these calls. -/
theorem activatedCalls_eq_error {env : SwitchContext} {plan : Plan} {e : DollError}
    (hoperation : isSwitchOperation plan.operationId = true)
    (hadapter : isIdentifier plan.runtime.content.adapterId = true)
    (hlocator : isIdentifier plan.model.content.runtimePrivateLocator = true)
    (h : activatedCalls env plan = .error e) :
    postFailureOf e = .ok .invalidResponse ∨ e.kind = .interrupt := by
  rcases bind_eq_error.1 h with h | ⟨_, -, h⟩
  · rcases validateAdapterDeclaration_eq_error hadapter h with hkind | hkind
    · refine .inl (if_pos ?_)
      rw [DollError.isA, hkind]
      rfl
    · exact .inr hkind
  · refine .inr (probe_eq_error ?_ hadapter hlocator h)
    rw [isSwitchOperation, Bool.and_eq_true, decide_eq_true_eq] at hoperation
    have hlength : (".post-activate".toList).length = 14 := rfl
    rw [isOperationId, Bool.and_eq_true, decide_eq_true_eq, List.length_append, hlength]
    exact ⟨isToken_append hoperation.1 (by decide), by omega⟩

omit [PythonLibrary] [ModuleRules] [CaseLibrary] [Audit.AuditRules] [FloatLibrary] [DigestLibrary]
  [FloatAddition] in
/-- The errors that `_resolve_active` replaces are handled as their replacement is. -/
theorem postFailureOf_catching {α : Type} {x : Result α} {message : String} {e : DollError}
    (h : StateLib.catching (DollError.isA [.key, .modelManifestValidation]) (switchInvalid message) x =
      .error e) : ∃ e', x = .error e' ∧ postFailureOf e' = postFailureOf e := by
  cases x with
  | ok a => cases h
  | error e' =>
    refine ⟨e', rfl, ?_⟩
    rw [catching] at h
    split at h
    · rename_i hkind
      obtain rfl := Except.error.inj h
      have hhandled : DollError.isA [.key, .modelManifestValidation, .modelSwitchValidation] e' =
          true := by
        rw [DollError.isA, decide_eq_true_eq] at hkind ⊢
        exact List.mem_append_left [ErrorKind.modelSwitchValidation] hkind
      rw [postFailureOf, if_pos hhandled]
      rfl
    · obtain rfl := Except.error.inj h
      rfl

/-- What the handler makes of those calls, the binding having been resolved. -/
def checkedCalls (env : SwitchContext) (plan : Plan) (activated : ModelBindingInfo) : Result Checked :=
  match activatedCalls env plan with
  | .ok failure => .ok ⟨activated, plan.runtime, plan.model, failure⟩
  | .error e => (postFailureOf e).map fun code => ⟨activated, plan.runtime, plan.model, some code⟩

omit [DigestLibrary] in
/-- What the `try` statement after an activation comes to. -/
theorem ends_recheck {env : SwitchContext} {plan : Plan} {db db' : Database}
    {activated : ModelBindingInfo} {r : Result Checked}
    (hlocator : isIdentifier plan.model.content.runtimePrivateLocator = true)
    (hresolve : (resolveActiveBinding plan.active.content.scopeType plan.active.content.scopeKey).on
      db = .ok (activated, plan.runtime, plan.model))
    (hends : SwitchEnds (recheck env plan activated) db r db') :
    db' = db ∧ r = checkedCalls env plan activated := by
  have hmodel := runtimeModelId_eq_ok.2 ⟨rfl, hlocator⟩
  have hresolved : (resolveActive env.registry env.activatedDeclaration plan.active.content.scopeType
      plan.active.content.scopeKey).run db.answer =
      StateLib.catching (DollError.isA [.key, .modelManifestValidation])
        (switchInvalid "active local model binding is unavailable")
        ((validateAdapterDeclaration env.registry env.activatedDeclaration plan.runtime).map fun _ =>
          (activated, plan.runtime, plan.model)) := by
    rw [resolveActive, ReadProgram.run_catching, ReadProgram.run_bind,
      show (resolveActiveBinding _ _).run db.answer = _ from hresolve, ok_bind]
    refine congrArg _ ?_
    dsimp only
    rw [ReadProgram.run_bind, ReadProgram.run_lift]
    cases validateAdapterDeclaration env.registry env.activatedDeclaration plan.runtime with
    | ok u =>
      rw [ok_bind, ReadProgram.run_bind, ReadProgram.run_lift, hmodel]
      rfl
    | error e => rfl
  rcases Script.ends_bind.1 hends with ⟨e, -, h⟩ | ⟨x, s, h, hrest⟩
  · obtain ⟨_, hx, -⟩ := Script.ends_attempt.1 h
    cases hx
  obtain ⟨x', hx, h⟩ := Script.ends_attempt.1 h
  obtain rfl := Except.ok.inj hx
  obtain ⟨hx, rfl⟩ := Script.ends_reading.1 h
  rw [hresolved] at hx
  unfold checkedCalls activatedCalls
  cases hdeclared : validateAdapterDeclaration env.registry env.activatedDeclaration plan.runtime with
  | ok u =>
    rw [hdeclared] at hx
    obtain rfl : x = .ok (activated, plan.runtime, plan.model) := hx
    have hcheck : checkActivated env plan activated activated plan.runtime plan.model =
        probe env.registry env.postActivate plan.runtime plan.model
          (plan.operationId ++ ".post-activate".toList) := by
      rw [checkActivated, ensure_of rfl, ok_bind]
    dsimp only at hrest
    rw [hcheck] at hrest
    rw [ok_bind]
    cases hprobe : probe env.registry env.postActivate plan.runtime plan.model
        (plan.operationId ++ ".post-activate".toList) with
    | ok failure =>
      rw [hprobe] at hrest
      obtain ⟨rfl, rfl⟩ := Script.ends_pure.1 hrest
      exact ⟨rfl, rfl⟩
    | error e =>
      rw [hprobe] at hrest
      obtain ⟨rfl, rfl⟩ := Script.ends_lift_map.1 hrest
      exact ⟨rfl, rfl⟩
  | error e =>
    rw [hdeclared] at hx
    obtain ⟨e', rfl⟩ : ∃ e', x = .error e' := by
      cases x with
      | ok a => exact absurd (catching_eq_ok.1 hx.symm) (by nofun)
      | error e' => exact ⟨e', rfl⟩
    obtain ⟨e'', herror, hhandled⟩ := postFailureOf_catching hx.symm
    obtain rfl : e = e'' := Except.error.inj herror
    obtain ⟨rfl, rfl⟩ := Script.ends_lift_map.1 hrest
    rw [error_bind]
    exact ⟨rfl, congrArg (Except.map _) hhandled.symm⟩

/-! ## The end -/

omit [PythonLibrary] [CaseLibrary] [FloatAddition] in
/-- The last audit event of a switch leaves the records. -/
theorem ends_complete {env : SwitchContext} {plan : Plan} {targetId : RecordId}
    {active target : ModelBindingInfo} {runtime : RuntimeManifestInfo} {model : ModelManifestInfo}
    {outcome : SwitchOutcome} {failureCode : Option FailureCode} {fallbackSelected : Bool}
    {db db' : Database} {r : Result ModelSwitchResult}
    (h : SwitchEnds (complete env plan targetId active target runtime model outcome failureCode
      fallbackSelected) db r db') :
    (∃ result, r = .ok result ∧ result.outcome = outcome) ∧ ∀ id, db'.find? id = db.find? id := by
  rcases Script.ends_bind.1 h with ⟨e, -, h⟩ | ⟨_, s, hcommit, h⟩
  · cases (Script.ends_commit.1 h).1
  obtain ⟨rfl, rfl⟩ := Script.ends_pure.1 h
  obtain ⟨_, -, -, hsame⟩ := Audit.append_eq_ok (Script.ends_commit.1 hcommit).2
  exact ⟨⟨_, rfl, rfl⟩, hsame⟩

omit [FloatAddition] in
/-- A rollback that does not raise has found the binding active that was active before. -/
theorem isActive_of_restore {env : SwitchContext} {plan : Plan} {activated : ModelBindingInfo}
    {scopeType key : Text} {db db' : Database} {restored : ModelBindingInfo × ModelBindingInfo}
    (htype : token "binding scope type" (.str plan.active.content.scopeType) = .ok scopeType)
    (hkey : scopeKey (.str plan.active.content.scopeKey) = .ok key)
    (h : SwitchEnds (restore env plan activated) db (.ok restored) db') :
    IsActive db' (scopeType, key) plan.active.envelope.id := by
  obtain ⟨rolledBack, db₁, -, h⟩ := Script.ends_bind_ok.1 h
  obtain ⟨failed, db₂, -, h⟩ := Script.ends_bind_ok.1 h
  obtain ⟨⟨found, runtime, model⟩, db₃, hread, h⟩ := Script.ends_bind_ok.1 h
  obtain ⟨_, db₄, hcheck, hreturn⟩ := Script.ends_bind_ok.1 h
  obtain ⟨hsame, rfl⟩ := Script.ends_lift.1 hcheck
  obtain ⟨-, rfl⟩ := Script.ends_pure.1 hreturn
  obtain ⟨hread, rfl⟩ := Script.ends_reading.1 hread
  obtain ⟨safeType, safeKey, htype', hkey', hactive, -⟩ := resolveActiveBinding_on.1
    (catching_eq_ok.1 (hread.trans (ReadProgram.run_catching _ _ _)).symm)
  obtain rfl := Except.ok.inj (htype'.symm.trans htype)
  obtain rfl := Except.ok.inj (hkey'.symm.trans hkey)
  rw [← ensure_eq_ok.1 hsame.symm]
  exact (activeForScope_isActive hactive).1

/-- Where a switch from `previousId` to `targetId` has ended, its operation being reserved. -/
def Known (scope : Text × Text) (previousId targetId : RecordId) (r : Result ModelSwitchResult)
    (db : Database) : Prop :=
  match r with
  | .ok result => IsActive db scope (if result.outcome = .switched then targetId else previousId)
  | .error e => IsActive db scope previousId ∨ e.kind = .modelSwitchRollback

/-- A `BaseException` that is not an `Exception` comes out of the adapter after the activation. -/
def Interrupted (env : SwitchContext) (plan : Plan) : Prop :=
  probe env.registry env.preflight plan.runtime plan.model
      (plan.operationId ++ ".preflight".toList) = .ok none ∧
    ∃ e, activatedCalls env plan = .error e ∧ e.kind = .interrupt

omit [PythonLibrary] [ModuleRules] [CaseLibrary] [Audit.AuditRules] [FloatLibrary] [DigestLibrary]
  [FloatAddition] in
theorem kind_of_postFailureOf {e : DollError} {code : FailureCode} (h : postFailureOf e = .ok code) :
    e.kind ≠ .interrupt := by
  intro hkind
  rw [postFailureOf, DollError.isA, hkind] at h
  cases h

omit [FloatAddition] in
/-- A switch that undoes its activation ends in a known place. -/
theorem ends_restored {env : SwitchContext} {plan : Plan} {activated : ModelBindingInfo}
    {scopeType key : Text} {targetId : RecordId} {runtime : RuntimeManifestInfo}
    {model : ModelManifestInfo} {code : FailureCode} {fallbackSelected : Bool} {db db' : Database}
    {r : Result ModelSwitchResult}
    (htype : token "binding scope type" (.str plan.active.content.scopeType) = .ok scopeType)
    (hkey : scopeKey (.str plan.active.content.scopeKey) = .ok key)
    (h : SwitchEnds ((restore env plan activated).mapError asRollbackError >>= fun restored =>
      complete env plan restored.2.envelope.id restored.1 restored.2 runtime model .rolledBack
        (some code) fallbackSelected) db r db') :
    Known (scopeType, key) plan.active.envelope.id targetId r db' := by
  rcases Script.ends_bind.1 h with ⟨e, hr, hrestore⟩ | ⟨restored, s, hrestore, hcomplete⟩
  · subst hr
    obtain ⟨r', hr, -⟩ := Script.ends_mapError.1 hrestore
    cases r' with
    | ok a => cases hr
    | error e' =>
      obtain rfl := Except.error.inj hr
      refine .inr ?_
      unfold asRollbackError
      split
      · assumption
      · rfl
  · obtain ⟨r', hr, hrestore⟩ := Script.ends_mapError.1 hrestore
    cases r' with
    | error e => cases hr
    | ok restored' =>
      have hactive := isActive_of_restore htype hkey hrestore
      obtain ⟨⟨result, hr, houtcome⟩, hsame⟩ := ends_complete hcomplete
      rw [hr, Known, houtcome, if_neg (by decide)]
      exact hactive.of_find? hsame

/-- What follows an activation ends in a known place, or raises what came out of the adapter. -/
theorem ends_settle {env : SwitchContext} {plan : Plan} {target activated : ModelBindingInfo}
    {scopeType key : Text} {fallbackSelected : Bool} {db db' : Database}
    {r : Result ModelSwitchResult} (hoperation : isSwitchOperation plan.operationId = true)
    (hadapter : isIdentifier plan.runtime.content.adapterId = true)
    (hlocator : isIdentifier plan.model.content.runtimePrivateLocator = true)
    (htype : token "binding scope type" (.str plan.active.content.scopeType) = .ok scopeType)
    (hkey : scopeKey (.str plan.active.content.scopeKey) = .ok key)
    (hresolve : (resolveActiveBinding plan.active.content.scopeType plan.active.content.scopeKey).on
      db = .ok (activated, plan.runtime, plan.model))
    (hactive : IsActive db (scopeType, key) activated.envelope.id)
    (h : SwitchEnds (settle env plan target activated fallbackSelected) db r db') :
    (∃ e, activatedCalls env plan = .error e ∧ e.kind = .interrupt ∧ r = .error e ∧ db' = db) ∨
      (∀ e, activatedCalls env plan = .error e → e.kind ≠ .interrupt) ∧
        Known (scopeType, key) plan.active.envelope.id activated.envelope.id r db' := by
  have hrecheck := fun {x s} => @ends_recheck _ _ _ _ _ _ env plan db s activated x hlocator hresolve
  unfold settle at h
  cases hcalls : activatedCalls env plan with
  | error e =>
    have hchecked : checkedCalls env plan activated = (postFailureOf e).map fun code =>
        ⟨activated, plan.runtime, plan.model, some code⟩ := by rw [checkedCalls, hcalls]
    rcases activatedCalls_eq_error hoperation hadapter hlocator hcalls with hpost | hkind
    · -- an error that the handlers name
      refine .inr ⟨fun e' he' => Except.error.inj he' ▸ kind_of_postFailureOf hpost, ?_⟩
      rw [hpost] at hchecked
      rcases Script.ends_bind.1 h with ⟨e', -, hcheck⟩ | ⟨checked, s, hcheck, hrest⟩
      · cases (hrecheck hcheck).2.trans hchecked
      · obtain ⟨hs, hc⟩ := hrecheck hcheck
        obtain rfl := Except.ok.inj (hc.trans hchecked)
        exact ends_restored htype hkey hrest
    · have hpost : postFailureOf e = .error e := by
        rw [postFailureOf, DollError.isA, hkind]
        rfl
      rw [hpost] at hchecked
      refine .inl ⟨e, rfl, hkind, ?_⟩
      rcases Script.ends_bind.1 h with ⟨e', hr, hcheck⟩ | ⟨checked, s, hcheck, -⟩
      · obtain ⟨hs, hc⟩ := hrecheck hcheck
        rw [hr, Except.error.inj (hc.trans hchecked)]
        exact ⟨rfl, hs⟩
      · cases (hrecheck hcheck).2.trans hchecked
  | ok failure =>
    refine .inr ⟨nofun, ?_⟩
    have hchecked : checkedCalls env plan activated =
        .ok ⟨activated, plan.runtime, plan.model, failure⟩ := by rw [checkedCalls, hcalls]
    rcases Script.ends_bind.1 h with ⟨e', -, hcheck⟩ | ⟨checked, s, hcheck, hrest⟩
    · cases (hrecheck hcheck).2.trans hchecked
    obtain ⟨hs, hc⟩ := hrecheck hcheck
    obtain rfl := Except.ok.inj (hc.trans hchecked)
    subst hs
    cases failure with
    | some code => exact ends_restored htype hkey hrest
    | none =>
      obtain ⟨⟨result, hr, houtcome⟩, hsame⟩ := ends_complete hrest
      rw [hr, Known, houtcome, if_pos rfl]
      exact hactive.of_find? hsame

/-- From the reservation of its operation on, a switch ends in a known place, unless something comes
out of the adapter that leaves the target active. -/
theorem ends_runSwitch {env : SwitchContext} {args : SwitchArgs} {plan : Plan}
    {fallbackSelected : Bool} {db db' : Database} {r : Result ModelSwitchResult}
    (hplan : Planned env args db plan)
    (h : SwitchEnds (runSwitch env plan fallbackSelected) db r db') :
    Interrupted env plan ∧ (∃ e, r = .error e ∧ e.kind = .interrupt) ∧
        IsActive db' (args.scopeType, args.scopeKey) plan.target.envelope.id ∨
      ¬ Interrupted env plan ∧ Known (args.scopeType, args.scopeKey) plan.active.envelope.id
        plan.target.envelope.id r db' := by
  unfold runSwitch at h
  rcases Script.ends_bind.1 h with ⟨e, hr, hprobe⟩ | ⟨failure, s, hprobe, h⟩
  · obtain ⟨hresult, rfl⟩ := Script.ends_lift.1 hprobe
    refine .inr ⟨fun hinterrupted => ?_, ?_⟩
    · cases hresult.trans hinterrupted.1
    · rw [hr]
      exact .inl hplan.active
  obtain ⟨hresult, rfl⟩ := Script.ends_lift.1 hprobe
  cases failure with
  | some code =>
    refine .inr ⟨fun hinterrupted => ?_, ?_⟩
    · cases hresult.trans hinterrupted.1
    rcases Script.ends_bind.1 h with ⟨e, -, hsmoke⟩ | ⟨target, s₁, hsmoke, hcomplete⟩
    · obtain ⟨target, row, hr, -⟩ := hplan.smokeTest hplan.writable hsmoke
      cases hr
    obtain ⟨target', row, hr, -, -, -, -, hfailed⟩ := hplan.smokeTest hplan.writable hsmoke
    obtain ⟨⟨result, hr, houtcome⟩, hsame⟩ := ends_complete hcomplete
    rw [hr, Known, houtcome, if_neg (by decide)]
    exact hfailed.active.of_find? hsame
  | none =>
    rcases Script.ends_bind.1 h with ⟨e, -, hsmoke⟩ | ⟨target, s₁, hsmoke, h⟩
    · obtain ⟨target, row, hr, -⟩ := hplan.smokeTest hplan.writable hsmoke
      cases hr
    obtain ⟨target', row, hr, hid, hpassed, hrow, hc, htested⟩ :=
      hplan.smokeTest hplan.writable hsmoke
    obtain rfl := Except.ok.inj hr
    rcases Script.ends_bind.1 h with ⟨e, -, hactivate⟩ | ⟨activated, s₂, hactivate, hsettle⟩
    · obtain ⟨activated, hr, -⟩ := htested.activation htested.writable hpassed hrow hc hactivate
      cases hr
    obtain ⟨activated', hr, hid', hactive, hresolve⟩ :=
      htested.activation htested.writable hpassed hrow hc hactivate
    obtain rfl := Except.ok.inj hr
    have htype : token "binding scope type" (.str plan.active.content.scopeType) =
        .ok args.scopeType := by rw [hplan.scopeType, hplan.isToken]
    have hkey : scopeKey (.str plan.active.content.scopeKey) = .ok args.scopeKey := by
      rw [hplan.scopeKey, hplan.isScopeKey]
    rw [← hplan.scopeType, ← hplan.scopeKey] at hresolve
    have hsame : activated.envelope.id = plan.target.envelope.id := hid'.trans hid
    rw [show ({ plan with target := target } : Plan).target.envelope.id = target.envelope.id from rfl,
      ← hid'] at hactive
    have hoperation : isSwitchOperation plan.operationId = true := by
      rw [hplan.operationId, hplan.operation]
    rcases ends_settle hoperation hplan.adapter hplan.locator htype hkey hresolve hactive hsettle with
      ⟨e, hcalls, hkind, hr, rfl⟩ | ⟨hcalls, hknown⟩
    · exact .inl ⟨⟨hresult.symm, e, hcalls, hkind⟩, ⟨e, hr, hkind⟩, hsame ▸ hactive⟩
    · refine .inr ⟨fun hinterrupted => ?_, hsame ▸ hknown⟩
      obtain ⟨-, e, he, hkind⟩ := hinterrupted
      exact hcalls e he hkind

/-! ## The operation -/

/-- An event that begins a switch bears the identifier of the operation. -/
def Reserved (operationId : Text) (db : Database) : Prop :=
  ∃ event ∈ db.auditEvents.rows, event.action = beginAction ∧ event.operationId = operationId

omit [PythonLibrary] [CaseLibrary] [DigestLibrary] [FloatAddition] in
theorem Reserved.commit {operationId : Text} {w : SwitchWrite} {db db' : Database}
    (h : Reserved operationId db) (hcommit : w.commit db = .ok db') : Reserved operationId db' := by
  obtain ⟨event, hevent, hbegins⟩ := h
  obtain ⟨new, hrows⟩ : ∃ new, db'.auditEvents.rows = db.auditEvents.rows ++ [new] := by
    cases w with
    | manifest w =>
      obtain ⟨new, hrows, -⟩ := Write.logged hcommit
      exact ⟨new, hrows⟩
    | append =>
      obtain ⟨new, -, hrows, -⟩ := Audit.append_eq_ok hcommit
      exact ⟨new, hrows⟩
  exact ⟨event, by rw [hrows]; exact List.mem_append_left _ hevent, hbegins⟩

omit [PythonLibrary] [ModuleRules] [CaseLibrary] [FloatAddition] in
/-- The event of a reservation reserves the operation, and leaves the records. -/
theorem reserved_of_append {surroundings : Surroundings} {plan : Plan} {fallbackSelected : Bool}
    {db db' : Database} (hoperation : isSwitchOperation plan.operationId = true)
    (h : Audit.append surroundings (reservation plan fallbackSelected) db = .ok db') :
    Reserved plan.operationId db' ∧ ∀ id, db'.find? id = db.find? id := by
  obtain ⟨event, hevent, hrows, hsame⟩ := Audit.append_eq_ok h
  obtain ⟨haction, hid⟩ := Audit.newEvent_spec hevent
  have htoken : isToken plan.operationId = true := by
    rw [isSwitchOperation, Bool.and_eq_true] at hoperation
    exact hoperation.1
  have hne : plan.operationId ≠ [] := fun heq => by
    rw [heq] at htoken
    cases htoken
  refine ⟨⟨event, by rw [hrows]; simp, ?_, ?_⟩, hsame⟩
  · exact haction.trans (show strip beginAction = beginAction by decide)
  · rw [hid _ rfl hne, strip_of_isToken htoken]

/-- Where a switch has ended: with its target active if it says so, else with the binding that was
active before; if it raises after its reservation, with that binding active or a rollback error. -/
def EndsKnown (args : SwitchArgs) (previousId : RecordId) (db : Database)
    (r : Result ModelSwitchResult) (db' : Database) : Prop :=
  match r with
  | .ok result =>
    if result.outcome = .switched then
      ∃ targetId, args.targetBindingId = uuidText targetId ∧
        IsActive db' (args.scopeType, args.scopeKey) targetId
    else IsActive db' (args.scopeType, args.scopeKey) previousId
  | .error e => ¬ Reserved args.operationId db → Reserved args.operationId db' →
      IsActive db' (args.scopeType, args.scopeKey) previousId ∨ e.kind = .modelSwitchRollback

omit [PythonLibrary] [ModuleRules] [CaseLibrary] [Audit.AuditRules] [FloatLibrary] [DigestLibrary]
  [FloatAddition] in
theorem Known.endsKnown {args : SwitchArgs} {previousId targetId : RecordId} {db db' : Database}
    {r : Result ModelSwitchResult} (htarget : args.targetBindingId = uuidText targetId)
    (h : Known (args.scopeType, args.scopeKey) previousId targetId r db') :
    EndsKnown args previousId db r db' := by
  cases r with
  | error e => exact fun _ _ => h
  | ok result =>
    rw [Known] at h
    rw [EndsKnown]
    split
    · rename_i houtcome
      rw [if_pos houtcome] at h
      exact ⟨targetId, htarget, h⟩
    · rename_i houtcome
      rwa [if_neg houtcome] at h

end

/-! ## An adapter that is interrupted -/

section Runs

attribute [local instance] asciiLibrary asciiCase acceptingRules zeroDigest fractionFloats
  exactAddition

/-- Nothing is secret, and nothing is redacted. -/
@[reducible] def openAudit : Audit.AuditRules where
  isSecret _ := false
  unsafeMessage _ := none
  isSecretField _ := false
  isPrivateField _ := false
  sanitizeFreeText text _ := text

attribute [local instance] openAudit

/-- The runtime of the example adapter, verified. -/
def exampleRuntimeRow : RecordEnvelope :=
  { runtimeRow with
    metadata := setAll runtimeRow.metadata
      [("adapter_id", .str "local".toList), ("adapter_version", .str "1".toList),
        ("runtime_class", .str "local".toList), ("connection_kind", .str "in_process".toList),
        ("operations", textList (declaredOperations exampleDeclaration))] }

/-- A database with an active binding and a candidate of one scope, at the example adapter. -/
def switchDatabase : Database :=
  { Database.fresh 0 [] with
    records := ⟨[exampleRuntimeRow, modelRow,
      bindingRow 102 .active (.str "2026-01-01T00:00:00Z".toList),
      bindingRow 103 .candidate .null], by decide⟩ }

def exampleResponse : RuntimeAdapterResponse where
  runtimeId := "runtime".toList
  modelId := "model".toList
  outputText := "Acknowledged.".toList
  finishReason := .stop
  valid := by decide +kernel

/-- A probe that the adapter answers. -/
def answeredProbe : ProbeCall where
  looks := { earlyLooks with answered := early }
  adapter := { exampleReplies with generate := .ok (some exampleResponse) }

/-- The adapter is interrupted when it is asked for its declaration after the activation. -/
def interruptedContext : SwitchContext where
  readOnly := false
  registry := ⟨fun adapterId => if adapterId = "local".toList then some () else none, by
    intro adapterId _ h
    split at h
    · rename_i hid
      rw [hid]
      decide
    · cases h⟩
  activeDeclaration := .ok (some exampleDeclaration)
  targetDeclaration := .ok (some exampleDeclaration)
  activatedDeclaration := .error .interrupt
  preflight := answeredProbe
  postActivate := answeredProbe
  reserving := surroundings 1
  smokeTest := context 2
  activation := context 3
  rollback := context 4
  postFailed := context 5
  completing := surroundings 6

def exampleSwitch : SwitchArgs where
  scopeType := "project".toList
  scopeKey := "garden".toList
  targetBindingId := uuidText 103
  operationId := "switch-1".toList
  requireFallback := false

theorem isActive_switchDatabase :
    IsActive switchDatabase (exampleSwitch.scopeType, exampleSwitch.scopeKey) 102 := by
  have hrows : ∀ r ∈ switchDatabase.records.rows,
      activeScope r = some (exampleSwitch.scopeType, exampleSwitch.scopeKey) ↔ r.id = 102 := by
    decide +kernel
  intro id
  constructor
  · rintro ⟨r, hr, hscope⟩
    rw [← Database.id_of_find? hr]
    exact (hrows r (Database.find?_eq_some.1 hr).1).1 hscope
  · rintro rfl
    have hfound : (switchDatabase.find? 102).isSome = true := by decide +kernel
    obtain ⟨r, hr⟩ := Option.isSome_iff_exists.1 hfound
    exact ⟨r, hr, (hrows r (Database.find?_eq_some.1 hr).1).2 (Database.id_of_find? hr)⟩

/-- Where a switch ends: interrupted and reserved, with the binding inactive that was active. -/
def strands (ends : Option (Result ModelSwitchResult × Database)) : Bool :=
  match ends with
  | some (.error e, db) => e.kind = .interrupt ∧
      (db.auditEvents.rows.any fun event =>
        event.action = beginAction ∧ event.operationId = exampleSwitch.operationId) ∧
      (db.find? 102).all fun r =>
        activeScope r ≠ some (exampleSwitch.scopeType, exampleSwitch.scopeKey)
  | _ => false

theorem strands_eq_true {ends : Option (Result ModelSwitchResult × Database)} (h : strands ends = true) :
    ∃ e db, ends = some (.error e, db) ∧ e.kind = .interrupt ∧
      (∃ event ∈ db.auditEvents.rows,
        event.action = beginAction ∧ event.operationId = exampleSwitch.operationId) ∧
      ∀ r, db.find? 102 = some r →
        activeScope r ≠ some (exampleSwitch.scopeType, exampleSwitch.scopeKey) := by
  match ends with
  | some (.error e, db) =>
    obtain ⟨hkind, hreserved, hinactive⟩ := of_decide_eq_true h
    obtain ⟨event, hevent, hbegins⟩ := List.any_eq_true.1 hreserved
    refine ⟨e, db, rfl, hkind, ⟨event, hevent, of_decide_eq_true hbegins⟩, fun r hr => ?_⟩
    rw [hr] at hinactive
    exact of_decide_eq_true hinactive
  | some (.ok _, _) => exact nomatch h
  | none => exact nomatch h

theorem strands_switch : strands ((switch interruptedContext exampleSwitch).alone Database.answer
    SwitchWrite.commit switchDatabase) = true := by
  -- the literals of the probe are long: their characters are written out once, not computed
  have hprobe : probeInput = _ := toList_append_ofList
  simp only [switch, runSwitch, probe, hprobe]
  decide +kernel

theorem interruptedSwitch : ∃ (r : Result ModelSwitchResult) (db : Database),
    SwitchEnds (switch interruptedContext exampleSwitch) switchDatabase r db ∧
      ¬ EndsKnown exampleSwitch 102 switchDatabase r db := by
  obtain ⟨e, db, halone, hkind, ⟨event, hevent, hbegins⟩, hinactive⟩ := strands_eq_true strands_switch
  refine ⟨_, db, Script.ends_of_alone halone, fun hknown => ?_⟩
  have hfree : ¬ Reserved exampleSwitch.operationId switchDatabase := by
    rintro ⟨event, hevent, -⟩
    exact List.not_mem_nil hevent
  rcases hknown hfree ⟨event, hevent, hbegins⟩ with hactive | hrollback
  · obtain ⟨r, hr, hscope⟩ := hactive.found
    exact hinactive r hr hscope
  · exact absurd (hkind.symm.trans hrollback) (by decide)

end Runs

end DollState.Model
