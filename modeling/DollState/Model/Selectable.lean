import DollState.Model.Runs

/-!
# Bindings that may be used

A binding that is active or a fallback is to resolve: its runtime and its model are verified,
consistent and at the revisions the binding records. The calls check this before their transactions,
and the transactions do not check it again. In every run, each scope has at most one active binding,
and every binding that may be used resolves exactly if the transactions find what their calls have
checked (`resolvable_iff_checksHold`).
-/

namespace DollState.Model

open Capability StateLib

/-- The state is one in which a binding may be used. -/
def Selected (c : BindingContent) : Prop := c.bindingState = .active ∨ c.bindingState = .fallback

/-- Two active bindings of one scope are the same. -/
def UniqueActive (db : Database) : Prop :=
  ∀ id id' r r' scope, db.find? id = some r → db.find? id' = some r' →
    activeScope r = some scope → activeScope r' = some scope → id = id'

section

variable [PythonLibrary]

/-- Every binding can be read, and revisions are positive. -/
structure Sound (db : Database) : Prop where
  revision : ∀ id r, db.find? id = some r → 1 ≤ r.revision
  binding : ∀ id r, db.find? id = some r → r.recordType = bindingType → ∃ c, IsBinding r c

theorem IsBinding.unique {row : RecordEnvelope} {c c' : BindingContent} (h : IsBinding row c)
    (h' : IsBinding row c') : c = c' :=
  congrArg ModelBindingInfo.content (Except.ok.inj (h.read.symm.trans h'.read))

omit [PythonLibrary] in
theorem Rewrote.uniqueActive {db db' : Database} {id : RecordId} {row : RecordEnvelope}
    {metadata : Metadata} (h : Rewrote db id row metadata db') (hunique : UniqueActive db) :
    UniqueActive db' := by
  obtain ⟨provenance, now, hwrites, hindex⟩ := h.written
  have hindex : ∀ scope, activeScope (updatedRow metadata provenance now row) = some scope →
      ∀ id r, db'.find? id = some r → r.id ≠ row.id → activeScope r ≠ some scope := by
    intro scope hscope id r hr hne
    obtain ⟨hmem, -⟩ := Database.find?_eq_some.1 hr
    exact hindex scope hscope r hmem hne
  intro id₁ id₂ r₁ r₂ scope hr₁ hr₂ hscope₁ hscope₂
  have hid₁ := Database.id_of_find? hr₁
  have hid₂ := Database.id_of_find? hr₂
  have hfind₁ := hwrites id₁
  have hfind₂ := hwrites id₂
  rw [hr₁] at hfind₁
  rw [hr₂] at hfind₂
  by_contra hne
  split at hfind₁ <;> split at hfind₂
  · rename_i h₁ h₂
    exact hne (h₁.symm.trans h₂)
  · rename_i h₁ h₂
    cases hfind₁
    refine hindex scope hscope₁ id₂ r₂ hr₂ (fun heq => h₂ ?_) hscope₂
    exact heq.symm.trans hid₂
  · rename_i h₁ h₂
    cases hfind₂
    refine hindex scope hscope₂ id₁ r₁ hr₁ (fun heq => h₁ ?_) hscope₁
    exact heq.symm.trans hid₁
  · exact hne (hunique id₁ id₂ r₁ r₂ scope hfind₁.symm hfind₂.symm hscope₁ hscope₂)

theorem IsBinding.updated {row : RecordEnvelope} {metadata : Metadata} {c c' : BindingContent}
    (h : IsBinding row c) (hkeys : hasKeys metadata bindingKeys) (hsaid : Says metadata c')
    (provenance : RecordProvenance) (now : Text) :
    IsBinding (updatedRow metadata provenance now row) c' :=
  ⟨h.recordType, h.schemaVersion, h.status, hkeys, hsaid⟩

/-- The new metadata of a binding is again that of one. -/
theorem Rewrote.isBinding {db db' : Database} {id : RecordId} {row : RecordEnvelope}
    {metadata : Metadata} {c c' : BindingContent} (h : Rewrote db id row metadata db')
    (hrow : IsBinding row c) (hkeys : hasKeys metadata bindingKeys) (hsaid : Says metadata c') :
    ∃ row', db'.find? id = some row' ∧ IsBinding row' c' := by
  obtain ⟨provenance, now, hfind⟩ := h.find?
  exact ⟨updatedRow metadata provenance now row, by rw [hfind, if_pos rfl],
    hrow.updated hkeys hsaid provenance now⟩

theorem Rewrote.sound {db db' : Database} {id : RecordId} {row : RecordEnvelope}
    {metadata : Metadata} (h : Rewrote db id row metadata db') (hsound : Sound db)
    (hmetadata : row.recordType = bindingType →
      hasKeys metadata bindingKeys ∧ ∃ c, Says metadata c) : Sound db' := by
  obtain ⟨provenance, now, hfind⟩ := h.find?
  constructor
  · intro id' r hr
    rw [hfind] at hr
    split at hr
    · cases hr
      have hpos := hsound.revision id row h.found
      change 1 ≤ row.revision + 1
      omega
    · exact hsound.revision id' r hr
  · intro id' r hr htype
    rw [hfind] at hr
    split at hr
    · cases hr
      obtain ⟨c, hc⟩ := hsound.binding id row h.found htype
      obtain ⟨hkeys, c', hsaid⟩ := hmetadata htype
      exact ⟨c', hc.recordType, hc.schemaVersion, hc.status, hkeys, hsaid⟩
    · exact hsound.binding id' r hr htype

/-! ## Manifests that pass the checks -/

variable [ModuleRules] [CaseLibrary]

/-- The manifests that a binding names pass `_activation_manifests`. -/
def Usable (db : Database) (c : BindingContent) : Prop :=
  ∃ manifests, (activationManifests c).on db = .ok manifests

/-- Every binding that is active or a fallback resolves. -/
def Resolvable (db : Database) : Prop :=
  ∀ id row, db.find? id = some row → row.recordType = bindingType →
    (extracted row "binding_state" = some BindingState.active.text ∨
      extracted row "binding_state" = some BindingState.fallback.text) →
    ∃ resolved, (resolveBinding (uuidText id)).on db = .ok resolved

omit [ModuleRules] [CaseLibrary] in
theorem requireRecord_on {db : Database} {id : RecordId} {recordType : String}
    {row : RecordEnvelope} : (requireRecord (uuidText id) recordType).on db = .ok row ↔
      db.find? id = some row ∧ row.recordType = recordType := by
  have hid : identifier "record ID" (.str (uuidText id)) = .ok id := identifier_eq_ok.2 rfl
  have hselect : (selectRecord id).run db.answer = .ok (db.find? id) := rfl
  rw [requireRecord, Reader.on, ReadProgram.run_bind, ReadProgram.run_lift, hid, ok_bind,
    ReadProgram.run_bind, hselect, ok_bind, ReadProgram.run_bind, ReadProgram.run_lift, bind_eq_ok]
  constructor
  · rintro ⟨r, hr, h⟩
    rw [ReadProgram.run_bind, ReadProgram.run_lift, check_bind_eq_ok, ensure_eq_ok,
      ReadProgram.run_pure, Except.ok.injEq] at h
    obtain ⟨htype, rfl⟩ := h
    exact ⟨orFail_eq_ok.1 hr, htype⟩
  · rintro ⟨hr, htype⟩
    refine ⟨row, orFail_eq_ok.2 hr, ?_⟩
    rw [ReadProgram.run_bind, ReadProgram.run_lift, check_bind_eq_ok, ensure_eq_ok]
    exact ⟨htype, rfl⟩

/-- What `activationManifests` looks up and checks. -/
theorem activationManifests_on {db : Database} {c : BindingContent} {runtime : RuntimeManifestInfo}
    {model : ModelManifestInfo} : (activationManifests c).on db = .ok (runtime, model) ↔
    ∃ r m, db.find? c.runtimeManifestId = some r ∧ r.recordType = runtimeType ∧
      db.find? c.modelManifestId = some m ∧ m.recordType = modelType ∧
      runtimeFromRecord r = .ok runtime ∧ modelFromRecord m = .ok model ∧
      checkManifests c runtime model = .ok () := by
  unfold activationManifests getRuntime getModel
  simp only [Reader.on, ReadProgram.run_bind, ReadProgram.run_lift, bind_eq_ok,
    ReadProgram.run_pure, Except.ok.injEq, Prod.mk.injEq]
  constructor
  · rintro ⟨_, ⟨r, hr, hruntime⟩, _, ⟨m, hm, hmodel⟩, _, hcheck, rfl, rfl⟩
    obtain ⟨hr, hrtype⟩ := requireRecord_on.1 hr
    obtain ⟨hm, hmtype⟩ := requireRecord_on.1 hm
    exact ⟨r, m, hr, hrtype, hm, hmtype, hruntime, hmodel, hcheck⟩
  · rintro ⟨r, m, hr, hrtype, hm, hmtype, hruntime, hmodel, hcheck⟩
    exact ⟨runtime, ⟨r, requireRecord_on.2 ⟨hr, hrtype⟩, hruntime⟩, model,
      ⟨m, requireRecord_on.2 ⟨hm, hmtype⟩, hmodel⟩, (), hcheck, rfl, rfl⟩

theorem usable_iff {db : Database} {c : BindingContent} : Usable db c ↔
    ∃ r m runtime model, db.find? c.runtimeManifestId = some r ∧ r.recordType = runtimeType ∧
      db.find? c.modelManifestId = some m ∧ m.recordType = modelType ∧
      runtimeFromRecord r = .ok runtime ∧ modelFromRecord m = .ok model ∧
      checkManifests c runtime model = .ok () := by
  constructor
  · rintro ⟨⟨runtime, model⟩, h⟩
    obtain ⟨r, m, h⟩ := activationManifests_on.1 h
    exact ⟨r, m, runtime, model, h⟩
  · rintro ⟨r, m, runtime, model, h⟩
    exact ⟨_, activationManifests_on.2 ⟨r, m, h⟩⟩

/-- A binding resolves if its manifests pass the checks. -/
theorem resolveBinding_iff {db : Database} {id : RecordId} {row : RecordEnvelope}
    {c : BindingContent} (hrow : db.find? id = some row) (hc : IsBinding row c) :
    (∃ resolved, (resolveBinding (uuidText id)).on db = .ok resolved) ↔ Usable db c := by
  have hget : (getBinding (uuidText id)).on db = .ok ⟨.of row, c⟩ := by
    rw [getBinding, Reader.on, ReadProgram.run_bind, bind_eq_ok]
    exact ⟨row, requireRecord_on.2 ⟨hrow, hc.recordType⟩, hc.read⟩
  unfold resolveBinding
  rw [Reader.on, ReadProgram.run_bind, show (getBinding (uuidText id)).run db.answer = _ from hget,
    ok_bind, ReadProgram.run_bind]
  constructor
  · rintro ⟨_, h⟩
    obtain ⟨manifests, hmanifests, -⟩ := bind_eq_ok.1 h
    exact ⟨manifests, hmanifests⟩
  · rintro ⟨manifests, hmanifests⟩
    exact ⟨_, bind_eq_ok.2 ⟨manifests, hmanifests, rfl⟩⟩

omit [ModuleRules] [CaseLibrary] in
theorem IsBinding.extracted_state {b : RecordEnvelope} {c : BindingContent} (h : IsBinding b c)
    {state : BindingState} :
    extracted b "binding_state" = some state.text ↔ c.bindingState = state := by
  rw [extracted_eq_some, bindingState_eq_ok.1 h.content.state, Json.str.injEq]
  exact BindingState.text_injective.eq_iff

theorem Resolvable.usable {db : Database} (h : Resolvable db) {id : RecordId} {row : RecordEnvelope}
    {c : BindingContent} (hrow : db.find? id = some row) (hc : IsBinding row c)
    (hselected : Selected c) : Usable db c :=
  (resolveBinding_iff hrow hc).1 <| h id row hrow hc.recordType <|
    hselected.imp hc.extracted_state.2 hc.extracted_state.2

theorem resolvable_of_usable {db : Database} (hsound : Sound db) (h : ∀ id row c,
    db.find? id = some row → IsBinding row c → Selected c → Usable db c) : Resolvable db := by
  intro id row hrow htype hstate
  obtain ⟨c, hc⟩ := hsound.binding id row hrow htype
  refine (resolveBinding_iff hrow hc).2 (h id row c hrow hc ?_)
  exact hstate.imp hc.extracted_state.1 hc.extracted_state.1

/-- Manifests that are found as before pass the checks as before. -/
theorem activationManifests_of_find? {db db' : Database} {c : BindingContent}
    {manifests : RuntimeManifestInfo × ModelManifestInfo}
    (h : (activationManifests c).on db = .ok manifests)
    (hruntime : ∀ r, db.find? c.runtimeManifestId = some r → r.recordType = runtimeType →
      db'.find? c.runtimeManifestId = some r)
    (hmodel : ∀ r, db.find? c.modelManifestId = some r → r.recordType = modelType →
      db'.find? c.modelManifestId = some r) : (activationManifests c).on db' = .ok manifests := by
  obtain ⟨r, m, hr, hrtype, hm, hmtype, hread⟩ := activationManifests_on.1 h
  exact activationManifests_on.2 ⟨r, m, hruntime r hr hrtype, hrtype, hmodel m hm hmtype, hmtype,
    hread⟩

theorem Usable.of_find? {db db' : Database} {c : BindingContent} (h : Usable db c)
    (hruntime : ∀ r, db.find? c.runtimeManifestId = some r → r.recordType = runtimeType →
      db'.find? c.runtimeManifestId = some r)
    (hmodel : ∀ r, db.find? c.modelManifestId = some r → r.recordType = modelType →
      db'.find? c.modelManifestId = some r) : Usable db' c := by
  obtain ⟨manifests, h⟩ := h
  exact ⟨manifests, activationManifests_of_find? h hruntime hmodel⟩

/-- Writing a binding leaves the manifests as they are. -/
theorem Rewrote.activationManifests_iff {db db' : Database} {id : RecordId} {row : RecordEnvelope}
    {metadata : Metadata} (h : Rewrote db id row metadata db') (htype : row.recordType = bindingType)
    {c : BindingContent} {manifests : RuntimeManifestInfo × ModelManifestInfo} :
    (activationManifests c).on db' = .ok manifests ↔
      (activationManifests c).on db = .ok manifests := by
  obtain ⟨provenance, now, hfind⟩ := h.find?
  have hback : ∀ id' r, r.recordType ≠ bindingType →
      (db'.find? id' = some r ↔ db.find? id' = some r) := by
    intro id' r hr
    rw [hfind]
    split
    · rename_i hid
      subst hid
      constructor
      · intro heq
        cases heq
        exact absurd htype hr
      · intro heq
        obtain rfl : row = r := Option.some.inj (h.found.symm.trans heq)
        exact absurd htype hr
    · rfl
  have hruntime : runtimeType ≠ bindingType := by decide
  have hmodel : modelType ≠ bindingType := by decide
  constructor <;> intro hmanifests
  · exact activationManifests_of_find? hmanifests
      (fun r hr hrtype => (hback _ r (hrtype.trans_ne hruntime)).1 hr)
      fun r hr hrtype => (hback _ r (hrtype.trans_ne hmodel)).1 hr
  · exact activationManifests_of_find? hmanifests
      (fun r hr hrtype => (hback _ r (hrtype.trans_ne hruntime)).2 hr)
      fun r hr hrtype => (hback _ r (hrtype.trans_ne hmodel)).2 hr

theorem Rewrote.usable_iff {db db' : Database} {id : RecordId} {row : RecordEnvelope}
    {metadata : Metadata} (h : Rewrote db id row metadata db') (htype : row.recordType = bindingType)
    {c : BindingContent} : Usable db' c ↔ Usable db c :=
  exists_congr fun _ => h.activationManifests_iff htype

/-- After one binding has been written, all resolve if that one does. -/
theorem Rewrote.resolvable_iff {db db' : Database} {id : RecordId} {row : RecordEnvelope}
    {metadata : Metadata} {c₀ c : BindingContent} (h : Rewrote db id row metadata db')
    (hsound : Sound db) (hdb : Resolvable db) (hrow : IsBinding row c₀)
    (hkeys : hasKeys metadata bindingKeys) (hsaid : Says metadata c) :
    Resolvable db' ↔ (Selected c → Usable db c) := by
  have hsound' := h.sound hsound fun _ => ⟨hkeys, c, hsaid⟩
  obtain ⟨row', hfound, hrow'⟩ := h.isBinding hrow hkeys hsaid
  constructor
  · intro hdb' hselected
    exact (h.usable_iff hrow.recordType).1 (hdb'.usable hfound hrow' hselected)
  · refine fun husable => resolvable_of_usable hsound' fun id' r c' hr hc' hselected => ?_
    rw [h.usable_iff hrow.recordType]
    rcases eq_or_ne id id' with rfl | hne
    · obtain rfl : row' = r := Option.some.inj (hfound.symm.trans hr)
      obtain rfl := hrow'.unique hc'
      exact husable hselected
    · obtain ⟨provenance, now, hfind⟩ := h.find?
      rw [hfind, if_neg hne] at hr
      exact hdb.usable hr hc' hselected

/-! ## Changes to manifests -/

/-- The manifest of a kind that a binding names. -/
def ManifestKind.named : ManifestKind → BindingContent → RecordId
  | .runtime, c => c.runtimeManifestId
  | .model, c => c.modelManifestId

/-- No binding that may be used names the manifest. -/
def Unused (db : Database) (kind : ManifestKind) (id : RecordId) : Prop :=
  ∀ id' b c, db.find? id' = some b → IsBinding b c → Selected c → kind.named c ≠ id

omit [ModuleRules] [CaseLibrary] in
theorem IsBinding.extracted_key {b : RecordEnvelope} {c : BindingContent} (h : IsBinding b c)
    (kind : ManifestKind) {id : RecordId} :
    extracted b kind.key = some (uuidText id) ↔ kind.named c = id := by
  have hget : b.metadata.get kind.key = .str (uuidText (kind.named c)) := by
    cases kind with
    | runtime => exact identifier_eq_ok.1 h.content.runtimeManifestId
    | model => exact identifier_eq_ok.1 h.content.modelManifestId
  rw [extracted_eq_some, hget, Json.str.injEq]
  exact uuidText_injective.eq_iff

omit [ModuleRules] [CaseLibrary] in
/-- What `_require_no_selectable_bindings` finds. -/
theorem requireNoSelectableBindings_on {db : Database} (hsound : Sound db) {kind : ManifestKind}
    {id : RecordId} :
    (requireNoSelectableBindings (uuidText id) kind).on db = .ok () ↔ Unused db kind id := by
  have hrows : (activeRows bindingType).run db.answer = .ok (db.records.rows.filter fun r =>
      r.recordType = bindingType ∧ r.status = .active) := rfl
  rw [requireNoSelectableBindings, Reader.on, ReadProgram.run_bind, hrows, ok_bind,
    ReadProgram.run_lift, ensure_eq_ok]
  constructor
  · intro h id' b c hb hc hselected hof
    obtain ⟨hmem, -⟩ := Database.find?_eq_some.1 hb
    refine h b (List.mem_filter.2 ⟨hmem, ?_⟩) ⟨(hc.extracted_key kind).2 hof, ?_⟩
    · rw [decide_eq_true_eq]
      exact ⟨hc.recordType, hc.status⟩
    · exact hselected.imp hc.extracted_state.2 hc.extracted_state.2
  · rintro h b hb ⟨hkey, hstate⟩
    obtain ⟨hmem, hb⟩ := List.mem_filter.1 hb
    rw [decide_eq_true_eq] at hb
    have hfind : db.find? b.id = some b := Database.mem_iff_find?.1 hmem
    obtain ⟨c, hc⟩ := hsound.binding b.id b hfind hb.1
    refine h b.id b c hfind hc ?_ ((hc.extracted_key kind).1 hkey)
    exact hstate.imp hc.extracted_state.1 hc.extracted_state.1

omit [PythonLibrary] [ModuleRules] [CaseLibrary] in
theorem checkManifests_eq_ok {c : BindingContent} {runtime : RuntimeManifestInfo}
    {model : ModelManifestInfo} (h : checkManifests c runtime model = .ok ()) :
    runtime.envelope.revision = c.runtimeManifestRevision ∧
      model.envelope.revision = c.modelManifestRevision := by
  obtain ⟨-, h⟩ := check_bind_eq_ok.1 h
  obtain ⟨-, h⟩ := check_bind_eq_ok.1 h
  obtain ⟨-, h⟩ := check_bind_eq_ok.1 h
  obtain ⟨hruntime, h⟩ := check_bind_eq_ok.1 h
  exact ⟨ensure_eq_ok.1 hruntime, ensure_eq_ok.1 h⟩

/-- The manifests of a usable binding are at the revisions that it records. -/
theorem Usable.manifest {db : Database} {c : BindingContent} (h : Usable db c)
    (kind : ManifestKind) : ∃ r, db.find? (kind.named c) = some r ∧ r.recordType = kind.recordType ∧
      r.revision = match kind with
        | .runtime => c.runtimeManifestRevision
        | .model => c.modelManifestRevision := by
  obtain ⟨r, m, runtime, model, hr, hrtype, hm, hmtype, hruntime, hmodel, hcheck⟩ := usable_iff.1 h
  obtain ⟨hrrevision, hmrevision⟩ := checkManifests_eq_ok hcheck
  rw [envelope_of_runtimeFromRecord hruntime] at hrrevision
  rw [envelope_of_modelFromRecord hmodel] at hmrevision
  cases kind with
  | runtime => exact ⟨r, hr, hrtype, hrrevision⟩
  | model => exact ⟨m, hm, hmtype, hmrevision⟩

/-- After a manifest has been written, the bindings resolve if none of those that may be used names
it. -/
theorem Rewrote.resolvable_iff_unused {db db' : Database} {id : RecordId} {row : RecordEnvelope}
    {metadata : Metadata} (h : Rewrote db id row metadata db') (hsound : Sound db)
    (hdb : Resolvable db) {kind : ManifestKind} (htype : row.recordType = kind.recordType) :
    Resolvable db' ↔ Unused db kind id := by
  obtain ⟨provenance, now, hfind⟩ := h.find?
  have hbinding : row.recordType ≠ bindingType := by
    rw [htype]
    cases kind <;> decide
  have hkept : ∀ id', id' ≠ id → db'.find? id' = db.find? id' := by
    intro id' hne
    rw [hfind, if_neg hne.symm]
  constructor
  · rintro hdb' id' b c hb hc hselected hof
    have hne : id' ≠ id := by
      rintro rfl
      obtain rfl : row = b := Option.some.inj (h.found.symm.trans hb)
      exact hbinding hc.recordType
    have hb' : db'.find? id' = some b := by rw [hkept id' hne, hb]
    obtain ⟨r, hr, -, hrevision⟩ := (hdb.usable hb hc hselected).manifest kind
    obtain ⟨r', hr', -, hrevision'⟩ := (hdb'.usable hb' hc hselected).manifest kind
    rw [hof, h.found] at hr
    rw [hof, hfind, if_pos rfl] at hr'
    cases hr
    cases hr'
    change row.revision + 1 = _ at hrevision'
    omega
  · intro hunused
    refine resolvable_of_usable (h.sound hsound fun htype => absurd htype hbinding)
      fun id' b c hb hc hselected => ?_
    have hne : id' ≠ id := by
      rintro rfl
      rw [hfind, if_pos rfl] at hb
      cases hb
      exact hbinding hc.recordType
    rw [hkept id' hne] at hb
    have husable := hdb.usable hb hc hselected
    -- the row is no manifest of the binding: of its own kind by the check, of the other by its type
    have hother : ∀ kind' : ManifestKind, kind'.named c ≠ id := by
      rintro kind' heq
      obtain ⟨r, hr, hrtype, -⟩ := husable.manifest kind'
      rw [heq, h.found] at hr
      cases hr
      have hkind : kind' = kind := by
        have hsame := hrtype.symm.trans htype
        cases kind <;> cases kind' <;> first | rfl | exact absurd hsame (by decide)
      exact hunused id' b c hb hc hselected (hkind ▸ heq)
    refine husable.of_find? (fun r hr _ => ?_) fun r hr _ => ?_
    · exact (hkept c.runtimeManifestId (hother .runtime)).trans hr
    · exact (hkept c.modelManifestId (hother .model)).trans hr

/-! ## What a transaction keeps -/

omit [ModuleRules] [CaseLibrary] in
theorem Alters.content {call : Call} {id : RecordId} {changes : List (String × Json)}
    (h : Alters call id changes) {r : RecordEnvelope} {c : BindingContent} (hc : IsBinding r c) :
    hasKeys (setAll r.metadata changes) bindingKeys ∧ ∃ c', Says (setAll r.metadata changes) c' := by
  cases h with
  | smokeTest => exact ⟨hasKeys_setAll hc.keys (smokeTested_keys _), _, hc.content.smokeTested _⟩
  | fallback h => exact ⟨hasKeys_setAll hc.keys (fallback_keys _), _, hc.content.fallback h⟩
  | disabled => exact ⟨hasKeys_setAll hc.keys disabling_keys, _, hc.content.disabling⟩

omit [ModuleRules] [CaseLibrary] in
theorem Demoted.sound {currentActive : Option RecordId} {db db' : Database}
    (h : Demoted currentActive db db') (hsound : Sound db) (hunique : UniqueActive db) :
    Sound db' ∧ UniqueActive db' := by
  cases currentActive with
  | none =>
    obtain rfl : db' = db := h
    exact ⟨hsound, hunique⟩
  | some previousId =>
    obtain ⟨previous, h⟩ := h
    refine ⟨h.sound hsound fun htype => ?_, h.uniqueActive hunique⟩
    obtain ⟨c, hc⟩ := hsound.binding _ _ h.found htype
    exact ⟨hasKeys_setAll hc.keys demotion_keys, _, hc.content.demotion⟩

omit [ModuleRules] [CaseLibrary] in
/-- Every transaction keeps the records readable and the active bindings unique. -/
theorem Committed.sound {seen : RecordId → RecordEnvelope → Prop} {ctx : Context} {call : Call}
    {db db' : Database} {w : Write} (h : Committed seen ctx call db db' w)
    (hrevision : ∀ id r, seen id r → 1 ≤ r.revision)
    (hseen : ∀ id r, seen id r → r.recordType = bindingType → ∃ c, IsBinding r c)
    (hsound : Sound db) (hunique : UniqueActive db) : Sound db' ∧ UniqueActive db' := by
  cases h with
  | @created row _ hfree hwrites hrow hbinding =>
    have hnew : row.recordType = bindingType → ∃ c, c.bindingState = .candidate ∧ IsBinding row c := by
      intro htype
      obtain ⟨_, _, runtime, model, hruntime, hmodel, hreadable⟩ := hbinding htype
      exact hreadable (hrevision _ _ hruntime) (hrevision _ _ hmodel)
    have hscope : activeScope row = none := by
      unfold activeScope
      rw [if_neg]
      rintro ⟨htype, -, hstate⟩
      obtain ⟨c, hcandidate, hc⟩ := hnew htype
      rw [hc.extracted_state, hcandidate] at hstate
      cases hstate
    have hold : ∀ id r, db'.find? id = some r → r = row ∨ db.find? id = some r := by
      intro id r hr
      rw [hwrites] at hr
      split at hr
      · exact .inl (Option.some.inj hr).symm
      · exact .inr hr
    refine ⟨⟨fun id r hr => ?_, fun id r hr htype => ?_⟩, fun id id' r r' scope hr hr' hs hs' => ?_⟩
    · rcases hold id r hr with rfl | hr
      · exact hrow.ge
      · exact hsound.revision id r hr
    · rcases hold id r hr with rfl | hr
      · exact (hnew htype).imp fun _ hc => hc.2
      · exact hsound.binding id r hr htype
    · rcases hold id r hr with rfl | hr
      · rw [hscope] at hs
        cases hs
      · rcases hold id' r' hr' with rfl | hr'
        · rw [hscope] at hs'
          cases hs'
        · exact hunique id id' r r' scope hr hr' hs hs'
  | manifest kind htype hrewrote =>
    refine ⟨hrewrote.sound hsound fun hbinding => ?_, hrewrote.uniqueActive hunique⟩
    cases kind <;> exact absurd (htype.symm.trans hbinding) (by decide)
  | binding hr htype _ hchange hrewrote =>
    obtain ⟨c, hc⟩ := hseen _ _ hr htype
    exact ⟨hrewrote.sound hsound fun _ => hchange.content hc, hrewrote.uniqueActive hunique⟩
  | activated _ hruntime hmodel hevidence _ hfound htype hdemoted hrewrote =>
    obtain ⟨hsound₁, hunique₁⟩ := hdemoted.sound hsound hunique
    obtain ⟨c, hc⟩ := hsound.binding _ _ hfound htype
    exact ⟨hrewrote.sound hsound₁ fun _ => ⟨hasKeys_setAll hc.keys (promotion_keys _ _ _ _ _), _, hc.content.promotion
      (hrevision _ _ hruntime) (hrevision _ _ hmodel) ctx.activatedAt_ok hevidence⟩,
      hrewrote.uniqueActive hunique₁⟩
  | rolledBack _ hreason htype hfound hprevious hrewrote hrestored =>
    obtain ⟨c, hc⟩ := hsound.binding _ _ hrewrote.found htype
    obtain ⟨c', hc'⟩ := hsound.binding _ _ hfound hprevious
    have hsound₁ := hrewrote.sound hsound fun _ =>
      ⟨hasKeys_setAll hc.keys (withdrawal_keys _ _), _, hc.content.withdrawal hreason⟩
    exact ⟨hrestored.sound hsound₁ fun _ =>
      ⟨hasKeys_setAll hc'.keys (restoration_keys _), _,
        hc'.content.restoration ctx.activatedAt_ok⟩,
      hrestored.uniqueActive (hrewrote.uniqueActive hunique)⟩

/-! ## What a transaction finds -/

/-- What the call of the transaction has checked holds of the database that the transaction finds: a
changed manifest has no binding that may be used, and a binding that is going to be used has
manifests that pass the checks. -/
def Write.ChecksHold (db : Database) : Write → Prop
  | .create _ _ => True
  | .update id _ metadata _ _ _ => ∀ row, db.find? id = some row →
    (∀ kind : ManifestKind, row.recordType = kind.recordType →
      (requireNoSelectableBindings (uuidText id) kind).on db = .ok ()) ∧
    (row.recordType = bindingType → ∀ c, readBinding metadata = .ok c → Selected c → Usable db c)
  | .activate _ id _ runtimeRevision modelRevision _ _ _ =>
    ∀ row c, db.find? id = some row → readBinding row.metadata = .ok c →
      Usable db { c with
        runtimeManifestRevision := runtimeRevision, modelManifestRevision := modelRevision }
  | .rollback _ _ _ previousId _ _ =>
    ∀ row c, db.find? previousId = some row → readBinding row.metadata = .ok c → Usable db c

omit [PythonLibrary] [ModuleRules] [CaseLibrary] in
/-- The checks of the manifests look at no other field of a binding. -/
theorem checkManifests_congr {c c' : BindingContent} {runtime : RuntimeManifestInfo}
    {model : ModelManifestInfo} (hr : c'.runtimeManifestRevision = c.runtimeManifestRevision)
    (hm : c'.modelManifestRevision = c.modelManifestRevision) :
    checkManifests c' runtime model = checkManifests c runtime model := by
  unfold checkManifests
  rw [hr, hm]

theorem usable_congr {db : Database} {c c' : BindingContent}
    (hruntime : c'.runtimeManifestId = c.runtimeManifestId)
    (hmodel : c'.modelManifestId = c.modelManifestId)
    (hr : c'.runtimeManifestRevision = c.runtimeManifestRevision)
    (hm : c'.modelManifestRevision = c.modelManifestRevision) : Usable db c' ↔ Usable db c := by
  unfold Usable activationManifests
  rw [hruntime, hmodel]
  simp only [checkManifests_congr hr hm]

theorem Demoted.resolvable {currentActive : Option RecordId} {db db' : Database}
    (h : Demoted currentActive db db') (hsound : Sound db) (hdb : Resolvable db)
    (hcurrent : ∀ previousId ∈ currentActive, ∃ r, db.find? previousId = some r ∧
      r.recordType = bindingType) :
    Sound db' ∧ Resolvable db' ∧ ∀ c, Usable db' c ↔ Usable db c := by
  cases currentActive with
  | none =>
    obtain rfl : db' = db := h
    exact ⟨hsound, hdb, fun _ => .rfl⟩
  | some previousId =>
    obtain ⟨previous, h⟩ := h
    obtain ⟨r, hr, htype⟩ := hcurrent previousId rfl
    obtain rfl : previous = r := Option.some.inj (h.found.symm.trans hr)
    obtain ⟨c, hc⟩ := hsound.binding _ _ hr htype
    have hkeys := hasKeys_setAll hc.keys demotion_keys
    refine ⟨h.sound hsound fun _ => ⟨hkeys, _, hc.content.demotion⟩,
      (h.resolvable_iff hsound hdb hc hkeys hc.content.demotion).2 ?_, fun _ => h.usable_iff htype⟩
    rintro (hstate | hstate) <;> cases hstate

/-- After a transaction the bindings resolve if it has found what its call has checked. -/
theorem Committed.resolvable_iff {seen : RecordId → RecordEnvelope → Prop} {ctx : Context}
    {call : Call} {db db' : Database} {w : Write} (h : Committed seen ctx call db db' w)
    (hrevision : ∀ id r, seen id r → 1 ≤ r.revision)
    (hseen : ∀ id r, seen id r → r.recordType = bindingType → ∃ c, IsBinding r c)
    (hsound : Sound db) (hsound' : Sound db') (hdb : Resolvable db) :
    Resolvable db' ↔ w.ChecksHold db := by
  cases h with
  | @created row _ hfree hwrites hrow hbinding =>
    refine iff_of_true (resolvable_of_usable hsound' fun id r c hr hc hselected => ?_) trivial
    have hkept : ∀ id r, db.find? id = some r → db'.find? id = some r := by
      intro id r hr
      rw [hwrites]
      split
      · rename_i hid
        rw [← hid, hfree] at hr
        cases hr
      · exact hr
    rw [hwrites] at hr
    split at hr
    · cases hr
      obtain ⟨_, _, runtime, model, hruntime, hmodel, hreadable⟩ := hbinding hc.recordType
      obtain ⟨c', hcandidate, hc'⟩ := hreadable (hrevision _ _ hruntime) (hrevision _ _ hmodel)
      obtain rfl := hc.unique hc'
      rcases hselected with hstate | hstate <;> exact nomatch hcandidate.symm.trans hstate
    · exact (hdb.usable hr hc hselected).of_find? (fun r hr _ => hkept _ r hr)
        fun r hr _ => hkept _ r hr
  | @manifest id _ _ _ _ _ row kind htype hrewrote =>
    rw [hrewrote.resolvable_iff_unused hsound hdb htype]
    constructor
    · intro hunused r hr
      obtain rfl : row = r := Option.some.inj (hrewrote.found.symm.trans hr)
      refine ⟨fun kind' htype' => ?_, fun hbinding => ?_⟩
      · have hkind : kind' = kind := by
          have hsame := htype'.symm.trans htype
          cases kind <;> cases kind' <;> first | rfl | exact absurd hsame (by decide)
        rw [requireNoSelectableBindings_on hsound, hkind]
        exact hunused
      · cases kind <;> exact absurd (htype.symm.trans hbinding) (by decide)
    · intro hchecks
      exact (requireNoSelectableBindings_on hsound).1 ((hchecks row hrewrote.found).1 kind htype)
  | @binding id _ changes _ _ _ r row hr htype hrow hchange hrewrote =>
    obtain ⟨c₀, hc₀⟩ := hseen _ _ hr htype
    obtain ⟨hkeys, c, hsaid⟩ := hchange.content hc₀
    obtain ⟨c₁, hc₁⟩ := hsound.binding _ _ hrewrote.found hrow
    rw [hrewrote.resolvable_iff hsound hdb hc₁ hkeys hsaid]
    constructor
    · intro husable r' hr'
      obtain rfl : row = r' := Option.some.inj (hrewrote.found.symm.trans hr')
      refine ⟨fun kind htype' => ?_, fun _ c' hc' => ?_⟩
      · cases kind <;> exact absurd (htype'.symm.trans hrow) (by decide)
      · obtain rfl : c = c' := Except.ok.inj ((readBinding_eq_ok.2 hsaid).symm.trans hc')
        exact husable
    · intro hchecks
      exact (hchecks row hrewrote.found).2 hrow c (readBinding_eq_ok.2 hsaid)
  | @activated id _ _ _ _ _ _ runtime model row evidence currentActive _ db₁ _ hruntime hmodel
      hevidence hcurrent hfound htype hdemoted hrewrote =>
    obtain ⟨c, hc⟩ := hsound.binding _ _ hfound htype
    obtain ⟨hsound₁, hdb₁, husable⟩ := hdemoted.resolvable hsound hdb hcurrent
    have hsaid : Says (setAll row.metadata
        (promotion runtime.revision model.revision ctx.activatedAt evidence currentActive)) _ :=
      hc.content.promotion (hrevision _ _ hruntime) (hrevision _ _ hmodel) ctx.activatedAt_ok
        hevidence
    rw [hrewrote.resolvable_iff hsound₁ hdb₁ hc (hasKeys_setAll hc.keys (promotion_keys _ _ _ _ _)) hsaid, husable]
    constructor
    · intro hactive r c' hr hc'
      obtain rfl : row = r := Option.some.inj (hfound.symm.trans hr)
      obtain rfl : c = c' := Except.ok.inj ((readBinding_eq_ok.2 hc.content).symm.trans hc')
      exact (usable_congr rfl rfl rfl rfl).1 (hactive (.inl rfl))
    · intro hchecks _
      have husable := hchecks row c hfound (readBinding_eq_ok.2 hc.content)
      exact (usable_congr rfl rfl rfl rfl).1 husable
  | @rolledBack _ previousId _ _ _ reason _ _ row previous _ _ hreason htype hfound hprevious
      hrewrote hrestored =>
    obtain ⟨c, hc⟩ := hsound.binding _ _ hrewrote.found htype
    obtain ⟨c', hc'⟩ := hsound.binding _ _ hfound hprevious
    have hkeys := hasKeys_setAll hc.keys (withdrawal_keys previousId reason)
    have hsound₁ := hrewrote.sound hsound fun _ => ⟨hkeys, _, hc.content.withdrawal hreason⟩
    have hdb₁ := (hrewrote.resolvable_iff hsound hdb hc hkeys (hc.content.withdrawal hreason)).2
      (by rintro (hstate | hstate) <;> cases hstate)
    rw [hrestored.resolvable_iff hsound₁ hdb₁ hc'
      (hasKeys_setAll hc'.keys (restoration_keys _))
      (hc'.content.restoration ctx.activatedAt_ok), hrewrote.usable_iff htype]
    constructor
    · intro hactive r c'' hr hc''
      obtain rfl := Option.some.inj (hfound.symm.trans hr)
      obtain rfl : c' = c'' := Except.ok.inj ((readBinding_eq_ok.2 hc'.content).symm.trans hc'')
      exact (usable_congr rfl rfl rfl rfl).1 (hactive (.inl rfl))
    · intro hchecks _
      have husable := hchecks _ c' hfound (readBinding_eq_ok.2 hc'.content)
      exact (usable_congr rfl rfl rfl rfl).1 husable

/-! ## Runs -/

variable {ι : Type}

/-- If the step commits a transaction, it finds what its call has checked. -/
def ChecksHold (t : Taken (ModelWorld ι) (ι × ModelAction)) : Prop :=
  ∀ i ctx call w, t.label = (i, .commit (ctx, call) w) → w.ChecksHold t.pre.shared

variable [DigestLibrary] [DecidableEq ι]

/-- The invariant of the service: its records can be read and its active bindings are unique. -/
abbrev Kept (db : Database) : Prop := Sound db ∧ UniqueActive db

omit [DecidableEq ι] in
/-- What a transaction does whose call was prepared on earlier good databases. -/
theorem committed_of_kept {ctx : Context} {call : Call} {ss : List Database} {w : Write}
    {db db' : Database} (hss : ∀ t ∈ ss, Kept t ∧ KeepsTypes t db) (hdb : Kept db)
    (hruns : ReadProgram.RunsOver Database.answer (Call.prepare (ctx, call)) ss (.ok w))
    (h : w.commit db = .ok db') :
    (Kept db' ∧ KeepsTypes db db') ∧ (Resolvable db → (Resolvable db' ↔ w.ChecksHold db)) := by
  have hcommitted := committed_of_runsOver (fun t ht => (hss t ht).2) hruns h
  have hrevision : ∀ id r, SeenIn ss id r → 1 ≤ r.revision := by
    rintro id r ⟨s, hs, hr⟩
    exact (hss s hs).1.1.revision id r hr
  have hbinding : ∀ id r, SeenIn ss id r → r.recordType = bindingType → ∃ c, IsBinding r c := by
    rintro id r ⟨s, hs, hr⟩ htype
    exact (hss s hs).1.1.binding id r hr htype
  have hdb' := hcommitted.sound hrevision hbinding hdb.1 hdb.2
  exact ⟨⟨hdb', hcommitted.keepsTypes⟩,
    hcommitted.resolvable_iff hrevision hbinding hdb.1 hdb'.1⟩

theorem ModelStep.commitsForward :
    Clients.CommitsForward Database.answer Call.prepare Write.commit Kept KeepsTypes :=
  fun _ _ _ _ _ hdb hss hruns hcommit => (committed_of_kept hss hdb hruns hcommit).1

/-- From a good state a step keeps the bindings resolvable exactly if it finds what its call has
checked. -/
theorem ModelStep.resolvable_iff {W W' : ModelWorld ι} {l : ι × ModelAction}
    (hinformed : Clients.Informed Database.answer Call.prepare Kept KeepsTypes W)
    (hresolvable : Resolvable W.shared) (hs : ModelStep W l W') :
    Resolvable W'.shared ↔ ChecksHold ⟨W, l, W'⟩ := by
  by_cases hcommit : ∃ i ctx call w, l = (i, .commit (ctx, call) w)
  · obtain ⟨i, ctx, call, w, rfl⟩ := hcommit
    obtain ⟨hclient, hcommit⟩ := hs.of_commit
    obtain ⟨ss, hss, hruns⟩ := hinformed.of_commit hclient
    rw [(committed_of_kept hss hinformed.invariant hruns hcommit).2 hresolvable]
    constructor
    · rintro hchecks _ _ _ _ ⟨⟩
      exact hchecks
    · exact fun hchecks => hchecks i ctx call w rfl
  · rw [hs.shared_eq fun i call w hl => hcommit ⟨i, call.1, call.2, w, hl⟩]
    exact iff_of_true hresolvable fun i ctx call w hl => absurd ⟨i, ctx, call, w, hl⟩ hcommit

end

section Runs

attribute [local instance] asciiLibrary asciiCase acceptingRules zeroDigest

/-- A database with a candidate whose smoke test has passed, and nothing else in its scope. -/
def candidateDatabase : Database :=
  { Database.fresh 0 [] with
    records := ⟨[runtimeRow, modelRow, bindingRow 103 .candidate .null], by decide⟩ }

/-- Two clients of that database, both at rest. -/
def candidateWorld : ModelWorld Bool := ⟨candidateDatabase, fun _ => .idle⟩

theorem mem_candidateDatabase {id : RecordId} {r : RecordEnvelope}
    (h : candidateDatabase.find? id = some r) :
    r = runtimeRow ∨ r = modelRow ∨ r = bindingRow 103 .candidate .null := by
  obtain ⟨hmem, -⟩ := Database.find?_eq_some.1 h
  have hrows : r ∈ [runtimeRow, modelRow, bindingRow 103 .candidate .null] := hmem
  simpa using hrows

theorem candidateDatabase_sound : Sound candidateDatabase := by
  constructor
  · intro id r hr
    rcases mem_candidateDatabase hr with rfl | rfl | rfl <;> decide
  · intro id r hr htype
    rcases mem_candidateDatabase hr with rfl | rfl | rfl
    · exact absurd htype (by decide)
    · exact absurd htype (by decide)
    · have hread : (bindingFromRecord (bindingRow 103 .candidate .null)).isOk = true := by
        decide
      obtain ⟨info, hinfo⟩ := exists_of_isOk hread
      obtain ⟨-, hschema, hkeys, hsaid⟩ := content_of_bindingFromRecord hinfo
      exact ⟨info.content, htype, hschema, rfl, hkeys, hsaid⟩

theorem candidateDatabase_unique : UniqueActive candidateDatabase := by
  intro id id' r r' scope hr hr' hscope
  have hnone : ∀ row ∈ [runtimeRow, modelRow, bindingRow 103 .candidate .null],
      activeScope row = none := by decide
  obtain ⟨hmem, -⟩ := Database.find?_eq_some.1 hr
  rw [hnone r hmem] at hscope
  cases hscope

theorem candidateDatabase_resolvable : Resolvable candidateDatabase := by
  intro id r hr htype hstate
  rcases mem_candidateDatabase hr with rfl | rfl | rfl
  · exact absurd htype (by decide)
  · exact absurd htype (by decide)
  · exact absurd hstate (by decide)

/-- One client activates the candidate. -/
def promotionCall : Context × Call := (context 0, .activateBinding (uuidText 103) 1 [] byUser)

/-- The other puts its model in quarantine. -/
def quarantineCall : Context × Call :=
  (context 1, .quarantine .model (uuidText 101) 1 "Unsafe".toList byUser)

/-- Both calls read the database first; then the model is put in quarantine, then the candidate is
activated. -/
def stranded : Result (Write × Write × Database × Database) := do
  let activation ← (Call.prepare promotionCall).on candidateDatabase
  let quarantine ← (Call.prepare quarantineCall).on candidateDatabase
  let quarantined ← quarantine.commit candidateDatabase
  let activated ← activation.commit quarantined
  ensure (∃ r ∈ activated.find? 103, r.recordType = bindingType ∧
    extracted r "binding_state" = some BindingState.active.text ∧
    ((resolveBinding (uuidText 103)).on activated).isOk = false) (.noRecord [])
  return (activation, quarantine, quarantined, activated)

theorem stranded_isOk : stranded.isOk = true := by decide

theorem strandedRun : ∃ (W : ModelWorld Bool) (tr : ModelTrace Bool),
    Run ModelStep candidateWorld tr W ∧ ¬ ∀ t ∈ tr, Resolvable t.post.shared := by
  obtain ⟨⟨a, q, db, db'⟩, h⟩ := exists_of_isOk stranded_isOk
  obtain ⟨activation, hactivation, h⟩ := bind_eq_ok.1 h
  obtain ⟨quarantine, hquarantine, h⟩ := bind_eq_ok.1 h
  obtain ⟨quarantined, hquarantined, h⟩ := bind_eq_ok.1 h
  obtain ⟨activated, hactivated, h⟩ := bind_eq_ok.1 h
  obtain ⟨hstranded, -⟩ := (check_bind_eq_ok.1 h).imp_left ensure_eq_ok.1
  obtain ⟨tr₁, h₁⟩ := Clients.exists_prepared Database.answer Call.prepare Write.commit
    (W := candidateWorld) (i := false) rfl hactivation
  obtain ⟨tr₂, h₂⟩ := Clients.exists_prepared Database.answer Call.prepare Write.commit
    (W := candidateWorld.goto false (.busy promotionCall (.done (.ok activation)))) (i := true) rfl
    hquarantine
  have hrun := ((h₁.append h₂).next (.commit (i := true) rfl hquarantined)).next
    (.commit (i := false) rfl hactivated)
  refine ⟨_, _, hrun, fun hall => ?_⟩
  have hresolvable : Resolvable activated :=
    hall _ (List.mem_append_right _ (List.mem_singleton.2 rfl))
  obtain ⟨r, hr, htype, hstate, hresolve⟩ := hstranded
  obtain ⟨resolved, hresolved⟩ := hresolvable 103 r hr htype (.inl hstate)
  rw [hresolved] at hresolve
  cases hresolve

end Runs

end DollState.Model
