import DollState.Model.SwitchSteps

/-!
# The plan of a switch

`Planned` says what a switch has found when it reserves its operation, of a database that nobody else
writes. The smoke test of the target leaves the plan standing; the activation leaves the target
active, resolved to the manifests of the plan.
-/

namespace DollState.Model

open Capability DollState.Runtime StateLib

section

variable [PythonLibrary] [ModuleRules] [CaseLibrary]

/-! ## Resolution -/

theorem resolveActiveBinding_on {db : Database} {scopeType key : Text} {active : ModelBindingInfo}
    {runtime : RuntimeManifestInfo} {model : ModelManifestInfo} :
    (resolveActiveBinding scopeType key).on db = .ok (active, runtime, model) ↔
      ∃ safeType safeKey, token "binding scope type" (.str scopeType) = .ok safeType ∧
        scopeKey (.str key) = .ok safeKey ∧
        (activeForScope safeType safeKey none).on db = .ok (some active) ∧
        (activationManifests active.content).on db = .ok (runtime, model) := by
  unfold resolveActiveBinding
  simp only [Reader.on, ReadProgram.run_bind, ReadProgram.run_lift, bind_eq_ok, orFail_eq_ok,
    ReadProgram.run_pure, Except.ok.injEq, Prod.mk.injEq]
  constructor
  · rintro ⟨safeType, htype, safeKey, hkey, _, hactive, _, rfl, _, hmanifests, rfl, rfl⟩
    exact ⟨safeType, safeKey, htype, hkey, hactive, hmanifests⟩
  · rintro ⟨safeType, safeKey, htype, hkey, hactive, hmanifests⟩
    exact ⟨safeType, htype, safeKey, hkey, _, hactive, active, rfl, _, hmanifests, rfl, rfl⟩

theorem resolveBinding_on {db : Database} {text : Text} {binding : ModelBindingInfo}
    {runtime : RuntimeManifestInfo} {model : ModelManifestInfo} :
    (resolveBinding text).on db = .ok (binding, runtime, model) ↔
      (getBinding text).on db = .ok binding ∧
        (activationManifests binding.content).on db = .ok (runtime, model) := by
  unfold resolveBinding
  simp only [Reader.on, ReadProgram.run_bind, bind_eq_ok, ReadProgram.run_pure, Except.ok.injEq,
    Prod.mk.injEq]
  constructor
  · rintro ⟨_, hget, _, hmanifests, rfl, rfl⟩
    exact ⟨hget, hmanifests⟩
  · rintro ⟨hget, hmanifests⟩
    exact ⟨_, hget, _, hmanifests, rfl, rfl⟩

omit [PythonLibrary] [CaseLibrary] in
theorem isIdentifier_of_validateAdapterDeclaration {registry : Registry Unit}
    {reply : Reply RuntimeAdapterDeclaration} {runtime : RuntimeManifestInfo} {u : Unit}
    (h : validateAdapterDeclaration registry reply runtime = .ok u) :
    isIdentifier runtime.content.adapterId = true := by
  obtain ⟨_, h, -⟩ := bind_eq_ok.1 h
  obtain ⟨_, h, -⟩ := bind_eq_ok.1 h
  obtain ⟨h, -⟩ := check_bind_eq_ok.1 h
  exact ensure_eq_ok.1 h

omit [PythonLibrary] [ModuleRules] [CaseLibrary] in
theorem runtimeModelId_eq_ok {value id : Text} :
    runtimeModelId value = .ok id ↔ id = value ∧ isIdentifier value = true := by
  rw [runtimeModelId, check_bind_eq_ok, ensure_eq_ok, pure_eq_ok, and_comm, eq_comm]

/-! ## The plan -/

/-- What a switch has found on a database when it reserves its operation. -/
structure Planned (env : SwitchContext) (args : SwitchArgs) (db : Database) (plan : Plan) : Prop where
  writable : env.readOnly = false
  operation : isSwitchOperation args.operationId = true
  operationId : plan.operationId = args.operationId
  scopeType : plan.active.content.scopeType = args.scopeType
  scopeKey : plan.active.content.scopeKey = args.scopeKey
  isToken : token "binding scope type" (.str args.scopeType) = .ok args.scopeType
  isScopeKey : Model.scopeKey (.str args.scopeKey) = .ok args.scopeKey
  active : IsActive db (args.scopeType, args.scopeKey) plan.active.envelope.id
  activeRow : ∃ row, db.find? plan.active.envelope.id = some row ∧ IsBinding row plan.active.content
  targetId : args.targetBindingId = uuidText plan.target.envelope.id
  targetRow : ∃ row, db.find? plan.target.envelope.id = some row ∧ row.recordType = bindingType ∧
    bindingFromRecord row = .ok plan.target
  manifests : (activationManifests plan.target.content).on db = .ok (plan.runtime, plan.model)
  other : plan.target.envelope.id ≠ plan.active.envelope.id
  targetType : plan.target.content.scopeType = args.scopeType
  targetKey : plan.target.content.scopeKey = args.scopeKey
  state : plan.target.content.bindingState ∈
    [BindingState.candidate, .previous, .fallback, .disabled]
  adapter : isIdentifier plan.runtime.content.adapterId = true
  locator : isIdentifier plan.model.content.runtimePrivateLocator = true

theorem Planned.of_find? {env : SwitchContext} {args : SwitchArgs} {db db' : Database} {plan : Plan}
    (h : Planned env args db plan) (hsame : ∀ id, db'.find? id = db.find? id) :
    Planned env args db' plan :=
  { h with
    active := h.active.of_find? hsame
    activeRow := by
      rw [hsame]
      exact h.activeRow
    targetRow := by
      rw [hsame]
      exact h.targetRow
    manifests := activationManifests_of_find? h.manifests (fun r hr _ => by rw [hsame, hr])
      fun r hr _ => by rw [hsame, hr] }

omit [ModuleRules] [CaseLibrary] in
theorem getBinding_on_target {db : Database} {text : Text} {info : ModelBindingInfo}
    (h : (getBinding text).on db = .ok info) : text = uuidText info.envelope.id ∧
      ∃ row, db.find? info.envelope.id = some row ∧ row.recordType = bindingType ∧
        bindingFromRecord row = .ok info := by
  obtain ⟨id, row, rfl, hrow, htype, hinfo⟩ := getBinding_on.1 h
  have hid : info.envelope.id = id := by
    rw [(content_of_bindingFromRecord hinfo).1]
    exact Database.id_of_find? hrow
  rw [hid]
  exact ⟨rfl, row, hrow, htype, hinfo⟩

/-- A plan is made of what is found; no event has its operation. -/
theorem planned_of_planSwitch {env : SwitchContext} {args : SwitchArgs} {db : Database} {plan : Plan}
    (h : (planSwitch env args).on db = .ok plan) : Planned env args db plan ∧
      ∀ e ∈ db.auditEvents.rows, e.operationId ≠ args.operationId := by
  unfold planSwitch resolveActive resolveTarget requireUnusedOperation at h
  simp only [Reader.on, ReadProgram.run_bind, ReadProgram.run_lift, ReadProgram.run_catching,
    ReadProgram.run_pure, bind_eq_ok, catching_eq_ok, exists_const, ensure_eq_ok, Except.ok.injEq] at h
  obtain ⟨hwritable, _, hoperation, _, ⟨⟨active, _, _⟩, hactive, _, -, _, -, rfl⟩, _,
    ⟨⟨target, runtime, model⟩, htarget, _, hcheck, _, hdeclared, _, hlocator, rfl⟩,
    ⟨_, hunused, rfl⟩, rfl⟩ := h
  obtain ⟨hvalid, h⟩ := check_bind_eq_ok.1 hoperation
  obtain rfl := pure_eq_ok.1 h
  obtain ⟨_, _, htoken, hkey, hactive, -⟩ := resolveActiveBinding_on.1 hactive
  obtain ⟨h, -⟩ := token_eq_ok.1 htoken
  obtain rfl := Json.str.inj h
  obtain rfl := Json.str.inj (eq_str_of_scopeKey hkey)
  obtain ⟨hactive, row, hrow, hc, -⟩ := activeForScope_isActive hactive
  -- the row is found in the scope, so that is the scope it names
  have hscope : active.content.scopeType = args.scopeType ∧ active.content.scopeKey = args.scopeKey := by
    obtain ⟨r, hr, hscope⟩ := hactive.found
    obtain rfl : row = r := Option.some.inj (hrow.symm.trans hr)
    obtain ⟨-, -, hstate, -⟩ := activeScope_eq_some.1 hscope
    rw [hc.activeScope (hc.extracted_state.1 hstate)] at hscope
    exact Prod.mk.inj (Option.some.inj hscope)
  obtain ⟨hbinding, hmanifests⟩ := resolveBinding_on.1 htarget
  obtain ⟨htargetId, htargetRow⟩ := getBinding_on_target hbinding
  obtain ⟨hother, h⟩ := check_bind_eq_ok.1 hcheck
  obtain ⟨hsame, h⟩ := check_bind_eq_ok.1 h
  obtain ⟨hstate, -⟩ := check_bind_eq_ok.1 h
  obtain ⟨htype, hkey'⟩ := ensure_eq_ok.1 hsame
  constructor
  · exact {
      writable := hwritable
      operation := ensure_eq_ok.1 hvalid
      operationId := rfl
      scopeType := hscope.1
      scopeKey := hscope.2
      isToken := htoken
      isScopeKey := hkey
      active := hactive
      activeRow := ⟨row, hrow, hc⟩
      targetId := htargetId
      targetRow := htargetRow
      manifests := hmanifests
      other := ensure_eq_ok.1 hother
      targetType := htype.trans hscope.1
      targetKey := hkey'.trans hscope.2
      state := ensure_eq_ok.1 hstate
      adapter := isIdentifier_of_validateAdapterDeclaration hdeclared
      locator := (runtimeModelId_eq_ok.1 hlocator).2 }
  · intro e he heq
    have hused : db.answer (.usedOperation args.operationId) = false := Except.ok.inj hunused
    have hnone := List.any_eq_false.1 hused e he
    rw [decide_eq_true_eq, not_or] at hnone
    exact hnone.1 heq

/-! ## The manifest calls -/

variable [Audit.AuditRules] [FloatLibrary]

/-- A run of a switch, or of a part of it, by itself. -/
abbrev SwitchEnds {α : Type} (p : SwitchScript α) (db : Database) (r : Result α) (db' : Database) :
    Prop := p.Ends Database.answer SwitchWrite.commit db r db'

omit [CaseLibrary] in
/-- A manifest call that prepares a transaction, which is committed. -/
theorem ends_changeBinding {id : RecordId} {prepare : Reader Write} {w : Write} {db db' : Database}
    {r : Result ModelBindingInfo} (hprepare : prepare.on db = .ok w) :
    SwitchEnds (changeBinding id prepare) db r db' ↔
      w.commit db = .ok db' ∧ r = (getBinding (uuidText id)).on db' := by
  have hreads : ∀ {x s}, SwitchEnds (Script.reading prepare) db x s ↔ x = .ok w ∧ s = db := by
    intro x s
    rw [SwitchEnds, Script.ends_reading, show prepare.run db.answer = _ from hprepare]
  unfold changeBinding
  constructor
  · intro h
    rcases Script.ends_bind.1 h with ⟨e, -, h⟩ | ⟨w', s, hread, h⟩
    · cases (hreads.1 h).1
    obtain ⟨hw, rfl⟩ := hreads.1 hread
    cases hw
    rcases Script.ends_bind.1 h with ⟨e, -, h⟩ | ⟨_, s, hcommit, h⟩
    · cases (Script.ends_commit.1 h).1
    obtain ⟨hr, rfl⟩ := Script.ends_reading.1 h
    exact ⟨(Script.ends_commit.1 hcommit).2, hr⟩
  · intro ⟨hcommit, hr⟩
    refine Script.ends_bind.2 (.inr ⟨w, db, hreads.2 ⟨rfl, rfl⟩, Script.ends_bind.2 (.inr ?_)⟩)
    exact ⟨(), db', Script.ends_commit.2 ⟨rfl, hcommit⟩, Script.ends_reading.2 ⟨hr, rfl⟩⟩

/-- The smoke test of a target leaves the plan standing, with the target as it is then. -/
theorem Planned.smokeTest {env : SwitchContext} {args : SwitchArgs} {db db' : Database} {plan : Plan}
    {ctx : Context} {status : SmokeTestStatus} {operation : Option Text}
    {r : Result ModelBindingInfo} (h : Planned env args db plan) (hwritable : ctx.readOnly = false)
    (hends : SwitchEnds (changeBinding plan.target.envelope.id
      (setSmokeTest ctx (uuidText plan.target.envelope.id) plan.target.envelope.revision
        status ⟨.user, operation⟩)) db r db') :
    ∃ target row, r = .ok target ∧ target.envelope.id = plan.target.envelope.id ∧
      target.content.smokeTestStatus = status ∧
      db'.find? target.envelope.id = some row ∧ IsBinding row target.content ∧
      Planned env args db' { plan with target := target } := by
  obtain ⟨row, hrow, htype, hread⟩ := h.targetRow
  obtain ⟨draft, hprepare⟩ := @setSmokeTest_on _ _ ctx _ plan.target.envelope.revision
    status operation db row hwritable hrow htype
  obtain ⟨hcommit, hr⟩ := (ends_changeBinding hprepare).1 hends
  obtain ⟨row', -, hrewrote⟩ := updateOne_rewrote hcommit
  obtain rfl : row' = row := Option.some.inj (hrewrote.found.symm.trans hrow)
  obtain ⟨-, hschema, hkeys, hsaid⟩ := content_of_bindingFromRecord hread
  have hc : IsBinding row' plan.target.content := ⟨htype, hschema, hrewrote.active, hkeys, hsaid⟩
  obtain ⟨row₁, hrow₁, hc₁⟩ := hrewrote.isBinding hc (hasKeys_setAll hkeys (smokeTested_keys status))
    (hsaid.smokeTested status)
  have hid : (Envelope.of row₁).id = plan.target.envelope.id := Database.id_of_find? hrow₁
  rw [hc₁.getBinding_on hrow₁] at hr
  refine ⟨_, row₁, hr, hid, rfl, hid ▸ hrow₁, hc₁, ?_⟩
  exact {
    h with
    active := hrewrote.isActive (activeScope_smokeTested row' status) h.active
    activeRow := by
      obtain ⟨active, hactive, ha⟩ := h.activeRow
      obtain ⟨provenance, now, hfind⟩ := hrewrote.find?
      exact ⟨active, by rw [hfind, if_neg h.other, hactive], ha⟩
    targetId := h.targetId.trans (congrArg uuidText hid.symm)
    targetRow := ⟨row₁, hid ▸ hrow₁, hc₁.recordType, hc₁.read⟩
    manifests := (hrewrote.activationManifests_iff htype).2 h.manifests
    other := fun heq => h.other (hid.symm.trans heq)
    targetType := h.targetType
    targetKey := h.targetKey
    state := h.state }

omit [PythonLibrary] [ModuleRules] [CaseLibrary] [Audit.AuditRules] [FloatLibrary] in
/-- A binding that a switch accepts as its target may be activated. -/
theorem mem_activatable {state : BindingState}
    (h : state ∈ [BindingState.candidate, .previous, .fallback, .disabled]) :
    state ∈ [BindingState.candidate, .fallback, .previous, .disabled] := by
  revert h
  cases state <;> decide

omit [Audit.AuditRules] [FloatLibrary] in
/-- The manifests are at the revisions that the binding records, so an activation leaves these as
they are. -/
theorem Planned.revisions {env : SwitchContext} {args : SwitchArgs} {db : Database} {plan : Plan}
    (h : Planned env args db plan) :
    plan.runtime.envelope.revision = plan.target.content.runtimeManifestRevision ∧
      plan.model.envelope.revision = plan.target.content.modelManifestRevision := by
  obtain ⟨_, _, -, -, -, -, -, -, hcheck⟩ := activationManifests_on.1 h.manifests
  exact checkManifests_eq_ok hcheck

omit [Audit.AuditRules] [FloatLibrary] in
/-- An activation at the revisions that a binding records changes nothing that resolving it needs. -/
theorem Says.promoted {metadata : Metadata} {c : BindingContent} {runtimeRevision modelRevision : Int}
    {activatedAt : Text} {previousId : Option RecordId} (h : Says metadata c)
    (hruntime : runtimeRevision = c.runtimeManifestRevision)
    (hmodel : modelRevision = c.modelManifestRevision)
    (hclock : timestamp (.str activatedAt) = .ok activatedAt) :
    ∃ c', Says (setAll metadata
        (Model.promotion runtimeRevision modelRevision activatedAt [] previousId)) c' ∧
      c'.bindingState = .active ∧ (c'.scopeType, c'.scopeKey) = (c.scopeType, c.scopeKey) ∧
      activationManifests c' = activationManifests c := by
  subst hruntime hmodel
  have hnone : identifiers "evidence IDs" [] = .ok [] := rfl
  exact ⟨_, h.promotion (positiveInt_eq_ok.1 h.runtimeManifestRevision).2
    (positiveInt_eq_ok.1 h.modelManifestRevision).2 hclock hnone, rfl, rfl, rfl⟩

variable [DigestLibrary]

/-- The target that has been activated is the active binding of the scope, and resolves. -/
theorem Planned.activation {env : SwitchContext} {args : SwitchArgs} {db db' : Database} {plan : Plan}
    {ctx : Context} {operation : Option Text} {row : RecordEnvelope} {r : Result ModelBindingInfo}
    (h : Planned env args db plan) (hwritable : ctx.readOnly = false)
    (hsmoke : plan.target.content.smokeTestStatus = .passed)
    (hrow : db.find? plan.target.envelope.id = some row) (hc : IsBinding row plan.target.content)
    (hends : SwitchEnds (changeBinding plan.target.envelope.id
      (activateBinding ctx (uuidText plan.target.envelope.id)
        plan.target.envelope.revision [] ⟨.user, operation⟩)) db r db') :
    ∃ activated, r = .ok activated ∧ activated.envelope.id = plan.target.envelope.id ∧
      IsActive db' (args.scopeType, args.scopeKey) plan.target.envelope.id ∧
      (resolveActiveBinding args.scopeType args.scopeKey).on db' =
        .ok (activated, plan.runtime, plan.model) := by
  obtain ⟨active, hactive, ha⟩ := h.activeRow
  have hscope : (plan.target.content.scopeType, plan.target.content.scopeKey) =
      (args.scopeType, args.scopeKey) := by rw [h.targetType, h.targetKey]
  have hother : IsActive db (plan.target.content.scopeType, plan.target.content.scopeKey)
      plan.active.envelope.id := by
    rw [hscope]
    exact h.active
  obtain ⟨draft, hprepare⟩ : ∃ draft, (activateBinding ctx
      (uuidText plan.target.envelope.id) plan.target.envelope.revision [] ⟨.user, operation⟩).on db =
        .ok (.activate ctx plan.target.envelope.id plan.target.envelope.revision
          plan.runtime.envelope.revision plan.model.envelope.revision []
          (some plan.active.envelope.id) draft) :=
    activateBinding_on hwritable hrow hc (mem_activatable h.state) hsmoke h.manifests hother hactive
      ha h.other
  obtain ⟨hcommit, hr⟩ := (ends_changeBinding hprepare).1 hends
  obtain ⟨row', db₁, -, hfound, ⟨previous, hdemoted⟩, hrewrote⟩ := activate_rewrote hcommit
  obtain rfl : row' = row := Option.some.inj (hfound.symm.trans hrow)
  obtain rfl : previous = active := Option.some.inj (hdemoted.found.symm.trans hactive)
  obtain ⟨c', hsaid, hstate, hscope', hmanifests⟩ := @Says.promoted _ _ _ row'.metadata _ _ _ _
    (some plan.active.envelope.id) hc.content h.revisions.1 h.revisions.2 ctx.activatedAt_ok
  have hkeys := hasKeys_setAll hc.keys (promotion_keys plan.runtime.envelope.revision
    plan.model.envelope.revision ctx.activatedAt [] (some plan.active.envelope.id))
  obtain ⟨row₁, hrow₁, hc₁⟩ := hrewrote.isBinding hc hkeys hsaid
  have hactive₁ : IsActive db' (args.scopeType, args.scopeKey) plan.target.envelope.id := by
    refine hrewrote.isActive_self fun provenance now => ?_
    rw [← hscope, ← hscope']
    exact (hc.updated hkeys hsaid provenance now).activeScope hstate
  rw [hc₁.getBinding_on hrow₁] at hr
  refine ⟨_, hr, Database.id_of_find? hrow₁, hactive₁, resolveActiveBinding_on.2
    ⟨_, _, h.isToken, h.isScopeKey, hactive₁.activeForScope_on hrow₁ hc₁ (by simp), ?_⟩⟩
  -- neither of the two rows is a manifest
  rw [hmanifests, hrewrote.activationManifests_iff hc.recordType,
    hdemoted.activationManifests_iff ha.recordType]
  exact h.manifests

end

end DollState.Model
