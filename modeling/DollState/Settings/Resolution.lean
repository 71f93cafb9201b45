import DollState.Settings.Grants

/-!
# Resolving a permission

No two active permissions have one identity, that is, one capability and scopes with one canonical
text. But `resolve` compares scopes as Python values, and `1`, `true` and `1.0` are equal for Python
and written differently. So `resolve` answers with the permission that the request names, and with
nothing else, exactly if no active permission of the capability has a scope that is equal to the
requested one and is written differently (`resolve_exact_iff`).
-/

namespace DollState.Settings

open StateLib

section

variable [PythonLibrary] [CaseLibrary] [FloatLibrary]

/-! ## States that calls lead to -/

/-- Every permission reads back as it was written. -/
def PermissionsOk (db : Database) : Prop :=
  ∀ id r, db.find? id = some r → r.recordType = "permission" →
    ∃ c : PermissionContent, c.Ok ∧ r.metadata = c.metadata

/-- New metadata of a permission reads back if the metadata it is made from does. -/
theorem Rewrites.permissionOk {ctx : Context} {call : Call} {id : RecordId} {r : RecordEnvelope}
    {metadata : Metadata} (h : Rewrites ctx call id r metadata) (hclock : IsUtc ctx.calledAt)
    (htype : r.recordType = "permission")
    (hr : ∃ c : PermissionContent, c.Ok ∧ r.metadata = c.metadata) :
    ∃ c : PermissionContent, c.Ok ∧ metadata = c.metadata := by
  cases h with
  | preference htype' => exact absurd (htype.symm.trans htype') (by decide)
  | policy htype' => exact absurd (htype.symm.trans htype') (by decide)
  | @permission c c' _ hread _ _ hok =>
    obtain ⟨c₀, hc₀, hmetadata⟩ := hr
    rw [hmetadata, c₀.readPermission_metadata hc₀] at hread
    cases hread
    exact ⟨c', hok hclock hc₀, rfl⟩

/-- A transaction keeps the permissions readable, its call having read the clock. -/
theorem Effect.permissionsOk {ctx : Context} {call : Call} {db db' : Database}
    (h : Effect ctx call db db') (hclock : IsUtc ctx.calledAt) (hdb : PermissionsOk db) :
    PermissionsOk db' := by
  have hwritten : ∀ {row : RecordEnvelope}, db.Writes row db' →
      (row.recordType = "permission" → ∃ c : PermissionContent, c.Ok ∧ row.metadata = c.metadata) →
      PermissionsOk db' := by
    intro row hwrites hrow id r hr htype
    rw [hwrites] at hr
    split at hr
    · cases hr
      exact hrow htype
    · exact hdb id r hr htype
  cases h with
  | inserted row identity' _ _ hinserts _ _ hwrites =>
    refine hwritten hwrites fun htype => ?_
    cases hinserts with
    | preference _ htype' => exact absurd (htype.symm.trans htype') (by decide)
    | policy _ htype' => exact absurd (htype.symm.trans htype') (by decide)
    | permission c _ hmetadata hok => exact ⟨c, hok hclock, hmetadata⟩
  | changed id r u _ hfound _ hrewrites hwrites =>
    refine hwritten hwrites fun htype => ?_
    exact hrewrites.permissionOk hclock htype (hdb id r hfound htype)
  | nothing _ hsame =>
    subst hsame
    exact hdb

variable [ModuleRules]

/-- One call, run to its end on one database. -/
inductive CallStep : Database → Context × Call → Database → Prop
  | call {db db' : Database} {ctx : Context} {call : Call} {w : Write}
      (hclock : IsUtc ctx.calledAt) (hw : (Call.prepare (ctx, call)).on db = .ok w)
      (hdb : w.commit db = .ok db') : CallStep db (ctx, call) db'

theorem CallStep.effect {ctx : Context} {call : Call} {db db' : Database}
    (h : CallStep db (ctx, call) db') : IsUtc ctx.calledAt ∧ Effect ctx call db db' := by
  cases h with
  | call hclock hw hdb =>
    obtain ⟨ss, hss, hruns⟩ : ∃ ss, (∀ t ∈ ss, t = db) ∧ ReadProgram.RunsOver Database.answer
      (Call.prepare (ctx, call)) ss ((Call.prepare (ctx, call)).run db.answer) :=
      ReadProgram.RunsOver.of_run _ _
    rw [show (Call.prepare (ctx, call)).run db.answer = _ from hw] at hruns
    refine ⟨hclock, effect_of_commit hruns (fun t ht id r row hr hrow _ => ?_) hdb⟩
    rw [hss t ht] at hr
    exact Option.some.inj (hr.symm.trans hrow)

theorem reachable_ok {db₀ db : Database} (hnew : ∀ r ∈ db₀.records, r.recordType ∉ settingTypes)
    (h : Reachable CallStep db₀ db) : Governed db ∧ PermissionsOk db := by
  have hnone : ∀ id r, db₀.find? id = some r → r.recordType ∉ settingTypes :=
    fun id r hr => hnew r (Database.find?_eq_some.1 hr).1
  refine h.invariant (I := fun db => Governed db ∧ PermissionsOk db) ⟨⟨?_, ?_⟩, ?_⟩ ?_
  · exact fun id r hr htype => absurd htype (hnone id r hr)
  · exact fun id id' r r' hr hr' htype => absurd htype (hnone id r hr)
  · intro id r hr htype
    exact absurd (htype ▸ by decide) (hnone id r hr)
  · rintro db ⟨ctx, call⟩ db' ⟨hgoverned, hok⟩ hstep
    obtain ⟨hclock, heffect⟩ := hstep.effect
    exact ⟨(heffect.governed hgoverned).1, heffect.permissionsOk hclock hok⟩

/-! ## What `resolve` does -/

omit [PythonLibrary] [CaseLibrary] [ModuleRules] in
/-- The permission grants the scope to the capability. -/
def Grants (db : Database) (capabilityId : Text) (scope : Metadata) (r : RecordEnvelope) : Prop :=
  r ∈ db.records ∧ r.recordType = "permission" ∧ r.status = .active ∧
    r.metadata.get "capability_id" = .str capabilityId ∧
    ∃ s, r.metadata.get "scope" = .obj s ∧ canonicalJson (.obj s) = canonicalJson (.obj scope)

/-- The permission has the capability and a scope that is equal for Python. -/
def Matches (db : Database) (capabilityId : Text) (scope : Metadata) (r : RecordEnvelope) : Prop :=
  r ∈ db.records ∧ r.recordType = "permission" ∧ r.status = .active ∧
    r.metadata.get "capability_id" = .str capabilityId ∧
    ∃ s, r.metadata.get "scope" = .obj s ∧ Json.eq (.obj s) (.obj scope) = true

/-- The rows that `resolve` reads. -/
def permissionRows (db : Database) : List RecordEnvelope :=
  db.records.rows.filter fun r => r.recordType = "permission" ∧ r.status = .active

omit [PythonLibrary] [CaseLibrary] [FloatLibrary] [ModuleRules] in
theorem mem_permissionRows {db : Database} {r : RecordEnvelope} :
    r ∈ permissionRows db ↔ r ∈ db.records ∧ r.recordType = "permission" ∧ r.status = .active := by
  rw [permissionRows, List.mem_filter, decide_eq_true_eq, Table.mem_rows]

omit [PythonLibrary] [CaseLibrary] [FloatLibrary] [ModuleRules] in
theorem collect_permissionRows (db : Database) :
    (ReadProgram.collect getRecord ((permissionRows db).map (·.id))).run db.answer =
      .ok (permissionRows db) := by
  rw [ReadProgram.run_collect, mapM_eq_ok, List.forall₂_map_left_iff,
    List.forall₂_same]
  intro r hr
  exact Database.getRecord_eq_ok.2 (Database.mem_iff_find?.1 (mem_permissionRows.1 hr).1)

omit [ModuleRules] in
/-- A permission that is read reads back as it was written. -/
theorem permissionFromRecord_of_mem {db : Database} (hok : PermissionsOk db) {r : RecordEnvelope}
    (hr : r ∈ permissionRows db) : ∃ c : PermissionContent, c.Ok ∧ r.metadata = c.metadata ∧
      permissionFromRecord r = .ok (settingInfo r c) := by
  obtain ⟨hmem, htype, -⟩ := mem_permissionRows.1 hr
  obtain ⟨c, hc, hmetadata⟩ := hok r.id r (Database.mem_iff_find?.1 hmem) htype
  refine ⟨c, hc, hmetadata, permissionFromRecord_eq_ok.2 ⟨c, ?_, rfl⟩⟩
  rw [hmetadata, c.readPermission_metadata hc]

omit [ModuleRules] in
theorem mem_matching {db : Database} (hok : PermissionsOk db) {permissions : List PermissionInfo}
    (h : (permissionRows db).mapM permissionFromRecord = .ok permissions) {capabilityId : Text}
    {scope : Metadata} {r : RecordEnvelope} (hr : r ∈ db.records) :
    (∃ p ∈ permissions.filter (Permission.answers capabilityId scope), p.recordId = r.id) ↔
      Matches db capabilityId scope r := by
  have hanswers : ∀ c : PermissionContent, r.metadata = c.metadata →
      (Permission.answers capabilityId scope (settingInfo r c) = true ↔
        r.metadata.get "capability_id" = .str capabilityId ∧
          ∃ s, r.metadata.get "scope" = .obj s ∧ Json.eq (.obj s) (.obj scope) = true) := by
    intro c hc
    have hcapability : c.metadata.get "capability_id" = .str c.capabilityId := rfl
    have hscope : c.metadata.get "scope" = .obj c.scope := rfl
    rw [Permission.answers, Bool.and_eq_true, decide_eq_true_eq, hc, hcapability, hscope]
    simp [settingInfo]
  constructor
  · rintro ⟨p, hp, hid⟩
    obtain ⟨hp, hanswer⟩ := List.mem_filter.1 hp
    obtain ⟨r', hr', hread⟩ := exists_of_mem_mapM h hp
    obtain ⟨c, -, hmetadata, hread'⟩ := permissionFromRecord_of_mem hok hr'
    cases hread.symm.trans hread'
    obtain ⟨hmem, htype, hactive⟩ := mem_permissionRows.1 hr'
    obtain rfl : r' = r := Table.eq_of_key_eq hmem hr hid
    exact ⟨hr, htype, hactive, (hanswers c hmetadata).1 hanswer⟩
  · rintro ⟨-, htype, hactive, hmatch⟩
    have hrow := mem_permissionRows.2 ⟨hr, htype, hactive⟩
    obtain ⟨c, -, hmetadata, hread⟩ := permissionFromRecord_of_mem hok hrow
    obtain ⟨p, hp, hread'⟩ := mapM_ok_of_mem h hrow
    cases hread.symm.trans hread'
    exact ⟨_, List.mem_filter.2 ⟨hp, (hanswers c hmetadata).2 hmatch⟩, rfl⟩

omit [ModuleRules] in
/-- No permission is read twice. -/
theorem nodup_permissions {db : Database} {permissions : List PermissionInfo}
    (h : (permissionRows db).mapM permissionFromRecord = .ok permissions) :
    (permissions.map (·.recordId)).Nodup := by
  have hids : (permissionRows db).map (·.id) = permissions.map (·.recordId) := by
    rw [← List.forall₂_eq_eq_eq, List.forall₂_map_left_iff, List.forall₂_map_right_iff]
    refine (mapM_eq_ok.1 h).imp fun r p hread => ?_
    obtain ⟨c, -, rfl⟩ := permissionFromRecord_eq_ok.1 hread
    rfl
  rw [← hids]
  exact db.records.nodup.sublist (List.filter_sublist.map _)

/-- What `resolve` answers, of the permissions that match. -/
def answerFrom (ctx : Context) (capabilityId : Text) (scope : Metadata) :
    List PermissionInfo → Result PermissionDecision
  | [] => .ok { recordId := none, capabilityId := capabilityId, scope := scope,
                effectiveMode := .denied, reason := .noRecord }
  | [permission] => .ok (decisionFromPermission ctx.decidedAt permission)
  | _ => .error ⟨.stateCorrupt, "multiple active permission records share one identity"⟩

omit [ModuleRules] in
theorem resolve_on {ctx : Context} {db : Database} {capabilityId safeCapability : Text}
    {scope : Scope} {safeScope : Metadata} {permissions : List PermissionInfo}
    (hcapability : validateKey "capability ID" capabilityId = .ok safeCapability)
    (hscope : validateScope scope.entries = .ok safeScope)
    (h : (permissionRows db).mapM permissionFromRecord = .ok permissions) :
    (Permission.resolve ctx capabilityId scope).on db =
      answerFrom ctx safeCapability safeScope
        (permissions.filter (Permission.answers safeCapability safeScope)) := by
  have hids : (activeIds "permission").run db.answer = .ok ((permissionRows db).map (·.id)) := rfl
  simp only [Permission.resolve, Reader.on, ReadProgram.run_bind, ReadProgram.run_lift, hcapability,
    hscope, ok_bind, hids, collect_permissionRows, h]
  generalize permissions.filter (Permission.answers safeCapability safeScope) = matching
  match matching with
  | [] => rfl
  | [_] => rfl
  | _ :: _ :: _ => rfl

/-! ## When the answer is exact -/

/-- `resolve` does not find several permissions, and it answers with a permission exactly if that
one grants the scope to the capability. -/
def ResolvesExactly (ctx : Context) (db : Database) (capabilityId : Text) (scope : Scope)
    (safeCapability : Text) (safeScope : Metadata) : Prop :=
  (∀ e, (Permission.resolve ctx capabilityId scope).on db = .error e → e.kind ≠ .stateCorrupt) ∧
    ∀ r ∈ db.records, (∃ d, (Permission.resolve ctx capabilityId scope).on db = .ok d ∧
      d.recordId = some r.id) ↔ Grants db safeCapability safeScope r

omit [ModuleRules] in
/-- A scope with the canonical text of another is equal to it for Python. -/
theorem Grants.matches (hfloats : LawfulFloats) {db : Database} (hok : PermissionsOk db)
    {capabilityId : Text} {scope : Metadata} (hscope : (Json.obj scope).DistinctKeys)
    {r : RecordEnvelope} (h : Grants db capabilityId scope r) : Matches db capabilityId scope r := by
  obtain ⟨hr, htype, hactive, hcapability, s, hs, hcanonical⟩ := h
  refine ⟨hr, htype, hactive, hcapability, s, hs, ?_⟩
  obtain ⟨c, hc, hmetadata⟩ := hok r.id r (Database.mem_iff_find?.1 hr) htype
  have hstored : c.metadata.get "scope" = .obj c.scope := rfl
  rw [hmetadata, hstored] at hs
  cases hs
  exact Json.eq_of_canonicalJson_eq hfloats hc.scope.1 hscope hcanonical

omit [PythonLibrary] [CaseLibrary] [ModuleRules] in
/-- At most one permission grants a scope to a capability. -/
theorem Grants.unique {db : Database} (hgoverned : Governed db) {capabilityId : Text}
    {scope : Metadata} {r r' : RecordEnvelope} (h : Grants db capabilityId scope r)
    (h' : Grants db capabilityId scope r') : r = r' := by
  have hidentity : ∀ {r : RecordEnvelope}, Grants db capabilityId scope r →
      identity r = some (permissionIdentity capabilityId scope) := by
    rintro r ⟨-, htype, -, hcapability, s, hs, hcanonical⟩
    rw [identity, htype, storedIdentity, if_neg (by decide), if_neg (by decide), if_pos rfl,
      hcapability, hs]
    exact congrArg (fun t => some (capabilityId ++ '\x00' :: t)) hcanonical
  have hids : identity r = identity r' := (hidentity h).trans (hidentity h').symm
  obtain ⟨hr, htype, hactive, -⟩ := h
  obtain ⟨hr', htype', hactive', -⟩ := h'
  have hid := hgoverned.unique r'.id r.id r' r (Database.mem_iff_find?.1 hr')
    (Database.mem_iff_find?.1 hr) (by rw [htype']; decide) (htype.trans htype'.symm) hactive'
    hactive hids
  exact Table.eq_of_key_eq hr hr' hid

/-- In every state that calls of the services lead to, and for every request that is valid, the
answer is exact if and only if the active permissions of the capability whose scope is equal to the
requested one for Python have its canonical text. -/
theorem resolve_exact_iff (hfloats : LawfulFloats) {db₀ db : Database}
    (hnew : ∀ r ∈ db₀.records, r.recordType ∉ settingTypes) (h : Reachable CallStep db₀ db)
    (ctx : Context) {capabilityId safeCapability : Text} {scope : Scope} {safeScope : Metadata}
    (hcapability : validateKey "capability ID" capabilityId = .ok safeCapability)
    (hscope : validateScope scope.entries = .ok safeScope) :
    ResolvesExactly ctx db capabilityId scope safeCapability safeScope ↔
      ∀ r, Matches db safeCapability safeScope r → Grants db safeCapability safeScope r := by
  obtain ⟨hgoverned, hok⟩ := reachable_ok hnew h
  have hdistinct := (validateScope_idem scope.distinct hscope).1
  obtain ⟨permissions, hpermissions⟩ := exists_mapM_ok (f := permissionFromRecord)
    fun r hr => (permissionFromRecord_of_mem hok hr).elim fun c hc => ⟨_, hc.2.2⟩
  have hmatching : ∀ r ∈ db.records,
      (∃ p ∈ permissions.filter (Permission.answers safeCapability safeScope),
        p.recordId = r.id) ↔ Matches db safeCapability safeScope r := fun r hr =>
    mem_matching hok hpermissions hr
  have hnodup := nodup_permissions hpermissions
  rw [ResolvesExactly, resolve_on hcapability hscope hpermissions]
  have hsublist : (permissions.filter (Permission.answers safeCapability safeScope)).Sublist
    permissions := List.filter_sublist
  generalize permissions.filter (Permission.answers safeCapability safeScope) = matching at *
  have hfilter := hnodup.sublist (hsublist.map _)
  have hfrom : ∀ p ∈ matching, ∃ r, Matches db safeCapability safeScope r ∧ p.recordId = r.id := by
    intro p hp
    obtain ⟨r, hr, hread⟩ := exists_of_mem_mapM hpermissions (hsublist.subset hp)
    obtain ⟨c, -, rfl⟩ := permissionFromRecord_eq_ok.1 hread
    exact ⟨r, (hmatching r (mem_permissionRows.1 hr).1).1 ⟨_, hp, rfl⟩, rfl⟩
  match matching with
  | [] =>
    have hnone : ∀ r, ¬ Matches db safeCapability safeScope r := by
      intro r hr
      obtain ⟨p, hp, -⟩ := (hmatching r hr.1).2 hr
      cases hp
    refine ⟨fun _ r hr => absurd hr (hnone r), fun _ => ⟨nofun, fun r hr => ?_⟩⟩
    constructor
    · rintro ⟨d, hd, hid⟩
      cases hd
      cases hid
    · exact fun hgrants => absurd (hgrants.matches hfloats hok hdistinct) (hnone r)
  | [p] =>
    have honly : ∀ r ∈ db.records, (∃ d, answerFrom ctx safeCapability safeScope [p] = .ok d ∧
        d.recordId = some r.id) ↔ Matches db safeCapability safeScope r := by
      intro r hr
      rw [← hmatching r hr]
      simp only [List.mem_singleton, exists_eq_left]
      constructor
      · rintro ⟨d, hd, hid⟩
        cases hd
        rw [decisionFromPermission_recordId] at hid
        exact Option.some.inj hid
      · exact fun hid => ⟨_, rfl, by rw [decisionFromPermission_recordId, hid]⟩
    constructor
    · exact fun hexact r hr => (hexact.2 r hr.1).1 ((honly r hr.1).2 hr)
    · refine fun hgrants => ⟨nofun, fun r hr => (honly r hr).trans ⟨hgrants r, ?_⟩⟩
      exact fun hr => hr.matches hfloats hok hdistinct
  | p :: p' :: rest =>
    refine ⟨fun hexact => absurd rfl (hexact.1 _ rfl), fun hgrants => ?_⟩
    -- two permissions that match would both grant the scope
    obtain ⟨r, hr, hid⟩ := hfrom p (by simp)
    obtain ⟨r', hr', hid'⟩ := hfrom p' (by simp)
    have hsame := (hgrants r hr).unique hgoverned (hgrants r' hr')
    simp only [List.map_cons, List.nodup_cons, List.mem_cons, not_or] at hfilter
    exact absurd (hid.trans (hsame ▸ hid'.symm)) hfilter.1.1

end

section Runs

attribute [local instance] asciiLibrary asciiCase fractionFloats acceptingRules

theorem distinctKeys_mailbox {id : Json} (h : id.DistinctKeys) :
    (Json.obj [("kind", .str "mailbox".toList), ("id", id)]).DistinctKeys := by
  simpa [Json.DistinctKeys, Json.EntriesDistinctKeys] using h

/-- The scope of mailbox 1. -/
def numberedScope : Scope :=
  ⟨[("kind", .str "mailbox".toList), ("id", .int 1)], distinctKeys_mailbox trivial⟩

/-- A scope that Python takes for the same. -/
def flaggedScope : Scope :=
  ⟨[("kind", .str "mailbox".toList), ("id", .bool true)], distinctKeys_mailbox trivial⟩

/-- A call that asks before each use of a mailbox. -/
def askCall (n : Nat) (scope : Scope) : Context × Call :=
  (context n, .createPermission "mail.read".toList scope PermissionMode.ask.text none
    "management-cli".toList .personal ⟨none, .user⟩)

/-- A permission is created for each scope, and the first scope is resolved. -/
def ambiguousRequest : Result (Database × Text × Metadata) := do
  let db ← callOn (Database.fresh 0 []) (askCall 0 numberedScope)
  let db ← callOn db (askCall 1 flaggedScope)
  let capabilityId ← validateKey "capability ID" "mail.read".toList
  let scope ← validateScope numberedScope.entries
  let raised := match (Permission.resolve (context 2) "mail.read".toList numberedScope).on db with
    | .error e => e.kind = .stateCorrupt
    | .ok _ => false
  ensure (raised = true) (.noRecord [])
  return (db, capabilityId, scope)

theorem ambiguousRequest_isOk : ambiguousRequest.isOk = true := by decide +kernel

theorem callStep_of_callOn {db db' : Database} {n : Nat} {call : Call}
    (h : callOn db (context n, call) = .ok db') : CallStep db (context n, call) db' := by
  have hclock : IsUtc "2026-01-01T00:00:00Z".toList :=
    ⟨by decide, ⟨dateInstant 2026 1 1 0 0 0, some 0⟩, by decide, rfl⟩
  obtain ⟨-, h⟩ := check_bind_eq_ok.1 h
  obtain ⟨w, hw, h⟩ := bind_eq_ok.1 h
  exact .call hclock hw h

theorem exists_ambiguous : ∃ (db : Database) (safeCapability : Text) (safeScope : Metadata),
    Reachable CallStep (Database.fresh 0 []) db ∧
    validateKey "capability ID" "mail.read".toList = .ok safeCapability ∧
    validateScope numberedScope.entries = .ok safeScope ∧
    ¬ ResolvesExactly (context 2) db "mail.read".toList numberedScope safeCapability safeScope := by
  obtain ⟨⟨db, safeCapability, safeScope⟩, h⟩ := exists_of_isOk ambiguousRequest_isOk
  obtain ⟨db₁, h₁, h⟩ := bind_eq_ok.1 h
  obtain ⟨db₂, h₂, h⟩ := bind_eq_ok.1 h
  obtain ⟨c, hcapability, h⟩ := bind_eq_ok.1 h
  obtain ⟨s, hscope, h⟩ := bind_eq_ok.1 h
  obtain ⟨hraised, h⟩ := check_bind_eq_ok.1 h
  obtain ⟨rfl, rfl, rfl⟩ : db₂ = db ∧ c = safeCapability ∧ s = safeScope := by
    simpa using pure_eq_ok.1 h
  have hraised := ensure_eq_ok.1 hraised
  refine ⟨db₂, c, s, ?_, hcapability, hscope, fun hexact => ?_⟩
  · exact ((Reachable.refl _).next (callStep_of_callOn h₁)).next (callStep_of_callOn h₂)
  · split at hraised
    · rename_i e he
      exact hexact.1 e he (of_decide_eq_true hraised)
    · cases hraised

/-- The rule applies to that state. -/
theorem resolve_exact_iff_ambiguous : ∃ (db : Database) (safeCapability : Text)
    (safeScope : Metadata), Reachable CallStep (Database.fresh 0 []) db ∧
      (ResolvesExactly (context 2) db "mail.read".toList numberedScope safeCapability safeScope ↔
        ∀ r, Matches db safeCapability safeScope r → Grants db safeCapability safeScope r) := by
  obtain ⟨db, safeCapability, safeScope, hreachable, hcapability, hscope, -⟩ := exists_ambiguous
  have hempty : ∀ r ∈ (Database.fresh 0 []).records, r.recordType ∉ settingTypes :=
    fun r hr => absurd hr (Table.not_mem_empty r)
  exact ⟨db, safeCapability, safeScope, hreachable,
    resolve_exact_iff lawful_fractionFloats hempty hreachable (context 2) hcapability hscope⟩

theorem not_resolvesExactly : ¬ ∀ (db : Database), Reachable CallStep (Database.fresh 0 []) db →
    ∀ (ctx : Context) (capabilityId safeCapability : Text) (scope : Scope) (safeScope : Metadata),
      validateKey "capability ID" capabilityId = .ok safeCapability →
      validateScope scope.entries = .ok safeScope →
      ResolvesExactly ctx db capabilityId scope safeCapability safeScope := by
  intro hall
  obtain ⟨db, c, s, hreachable, hcapability, hscope, hnot⟩ := exists_ambiguous
  exact hnot (hall db hreachable (context 2) _ c numberedScope s hcapability hscope)

end Runs

end DollState.Settings
