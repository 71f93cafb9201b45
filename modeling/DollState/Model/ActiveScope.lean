import DollState.Model.Selectable

/-!
# The active binding of a scope

`IsActive` is what `_active_for_scope` finds, said of the rows of a database. Writing a binding moves
it only if the state of the binding changes; reading depends on the rows that are found alone, so it
gives the same on two databases with the same rows.
-/

namespace DollState.Model

open Capability StateLib

/-- The binding is the one active binding of the scope. -/
def IsActive (db : Database) (scope : Text × Text) (id : RecordId) : Prop :=
  ∀ id', (∃ r, db.find? id' = some r ∧ activeScope r = some scope) ↔ id' = id

theorem IsActive.unique {db : Database} {scope : Text × Text} {id id' : RecordId}
    (h : IsActive db scope id) (h' : IsActive db scope id') : id = id' :=
  (h' id).1 ((h id).2 rfl)

theorem IsActive.of_find? {db db' : Database} {scope : Text × Text} {id : RecordId}
    (h : IsActive db scope id) (hsame : ∀ id, db'.find? id = db.find? id) : IsActive db' scope id := by
  intro id'
  rw [hsame]
  exact h id'

theorem IsActive.found {db : Database} {scope : Text × Text} {id : RecordId}
    (h : IsActive db scope id) : ∃ r, db.find? id = some r ∧ activeScope r = some scope := (h id).2 rfl

/-- What a row says that the index keeps. -/
theorem activeScope_eq_some {row : RecordEnvelope} {scopeType scopeKey : Text} :
    activeScope row = some (scopeType, scopeKey) ↔ row.recordType = bindingType ∧
      row.status = .active ∧ extracted row "binding_state" = some BindingState.active.text ∧
      extracted row "scope_type" = some scopeType ∧ extracted row "scope_key" = some scopeKey := by
  unfold activeScope
  rw [Option.ite_none_right_eq_some, Option.bind_eq_some_iff]
  constructor
  · rintro ⟨⟨htype, hstatus, hstate⟩, t, ht, hkey⟩
    obtain ⟨k, hk, heq⟩ := Option.map_eq_some_iff.1 hkey
    cases heq
    exact ⟨htype, hstatus, hstate, ht, hk⟩
  · rintro ⟨htype, hstatus, hstate, ht, hk⟩
    exact ⟨⟨htype, hstatus, hstate⟩, scopeType, ht, by rw [hk]; rfl⟩

/-! ## Writing a binding -/

/-- A binding that stays where the index keeps it. -/
theorem Rewrote.isActive {db db' : Database} {id id₀ : RecordId} {row : RecordEnvelope}
    {metadata : Metadata} {scope : Text × Text} (h : Rewrote db id row metadata db')
    (hsame : ∀ provenance now, activeScope (updatedRow metadata provenance now row) = activeScope row)
    (hactive : IsActive db scope id₀) : IsActive db' scope id₀ := by
  obtain ⟨provenance, now, hfind⟩ := h.find?
  intro id'
  rw [← hactive id', hfind]
  split
  · rename_i hid
    subst hid
    simp only [h.found, Option.some.injEq, exists_eq_left', hsame]
  · rfl

/-- A binding that becomes active in a scope with no other active binding. -/
theorem Rewrote.isActive_self {db db' : Database} {id : RecordId} {row : RecordEnvelope}
    {metadata : Metadata} {scope : Text × Text} (h : Rewrote db id row metadata db')
    (hscope : ∀ provenance now, activeScope (updatedRow metadata provenance now row) = some scope) :
    IsActive db' scope id := by
  obtain ⟨provenance, now, hwrites, hindex⟩ := h.written
  have hrow : row.id = id := Database.id_of_find? h.found
  intro id'
  constructor
  · rintro ⟨r, hr, hscope'⟩
    by_contra hne
    refine hindex scope (hscope provenance now) r (Database.find?_eq_some.1 hr).1 ?_ hscope'
    rw [Database.id_of_find? hr]
    change id' ≠ row.id
    rw [hrow]
    exact hne
  · rintro rfl
    refine ⟨_, ?_, hscope provenance now⟩
    rw [hwrites]
    exact if_pos hrow

theorem extracted_updatedRow_of_notMem {row : RecordEnvelope} {changes : List (String × Json)}
    {provenance : RecordProvenance} {now : Text} {key : String} (h : key ∉ changes.map Prod.fst) :
    extracted (updatedRow (setAll row.metadata changes) provenance now row) key =
      extracted row key := by
  have hget : (updatedRow (setAll row.metadata changes) provenance now row).metadata.get key =
      row.metadata.get key := get_setAll_of_notMem h
  rw [extracted, extracted, hget]

theorem activeScope_smokeTested (row : RecordEnvelope) (status : SmokeTestStatus)
    (provenance : RecordProvenance) (now : Text) :
    activeScope (updatedRow (setAll row.metadata (smokeTested status)) provenance now row) =
      activeScope row := by
  have hget := fun key (hkey : key ≠ "smoke_test_status") =>
    @extracted_updatedRow_of_notMem row (smokeTested status) provenance now key
      (by simpa [smokeTested] using hkey)
  unfold activeScope
  rw [hget "binding_state" (by decide), hget "scope_type" (by decide), hget "scope_key" (by decide)]
  rfl

/-! ## Reading -/

section

variable [PythonLibrary]

theorem requireRecord_on_text {db : Database} {text : Text} {recordType : String}
    {row : RecordEnvelope} : (requireRecord text recordType).on db = .ok row ↔
      ∃ id, text = uuidText id ∧ db.find? id = some row ∧ row.recordType = recordType := by
  constructor
  · intro h
    have hid : ∃ id, identifier "record ID" (.str text) = .ok id := by
      rw [requireRecord, Reader.on, ReadProgram.run_bind, ReadProgram.run_lift] at h
      obtain ⟨id, hid, -⟩ := bind_eq_ok.1 h
      exact ⟨id, hid⟩
    obtain ⟨id, hid⟩ := hid
    obtain rfl := Json.str.inj (identifier_eq_ok.1 hid)
    exact ⟨id, rfl, requireRecord_on.1 h⟩
  · rintro ⟨id, rfl, h⟩
    exact requireRecord_on.2 h

theorem getBinding_on {db : Database} {text : Text} {info : ModelBindingInfo} :
    (getBinding text).on db = .ok info ↔ ∃ id row, text = uuidText id ∧ db.find? id = some row ∧
      row.recordType = bindingType ∧ bindingFromRecord row = .ok info := by
  rw [getBinding, Reader.on, ReadProgram.run_bind, bind_eq_ok]
  constructor
  · rintro ⟨row, hrow, hinfo⟩
    obtain ⟨id, htext, hfound, htype⟩ := requireRecord_on_text.1 hrow
    exact ⟨id, row, htext, hfound, htype, hinfo⟩
  · rintro ⟨id, row, htext, hfound, htype, hinfo⟩
    exact ⟨row, requireRecord_on_text.2 ⟨id, htext, hfound, htype⟩, hinfo⟩

theorem IsBinding.getBinding_on {db : Database} {id : RecordId} {row : RecordEnvelope}
    {c : BindingContent} (h : IsBinding row c) (hrow : db.find? id = some row) :
    (getBinding (uuidText id)).on db = .ok ⟨.of row, c⟩ :=
  Model.getBinding_on.2 ⟨id, row, rfl, hrow, h.recordType, h.read⟩

/-- An active binding that is found in its scope is there. -/
theorem IsBinding.activeScope {row : RecordEnvelope} {c : BindingContent} (h : IsBinding row c)
    (hstate : c.bindingState = .active) :
    Model.activeScope row = some (c.scopeType, c.scopeKey) := by
  refine activeScope_eq_some.2 ⟨h.recordType, h.status, h.extracted_state.2 hstate, ?_, ?_⟩
  · exact extracted_eq_some.2 (token_eq_ok.1 h.content.scopeType).1
  · exact extracted_eq_some.2 (eq_str_of_scopeKey h.content.scopeKey)

/-- The rows that the query for the active bindings answers. -/
def activeBindings (db : Database) : List RecordEnvelope :=
  db.records.rows.filter fun r => r.recordType = bindingType ∧ r.status = .active

omit [PythonLibrary] in
theorem mem_activeInScope {db : Database} {scopeType scopeKey : Text} {r : RecordEnvelope} :
    r ∈ activeInScope (activeBindings db) scopeType scopeKey ↔
      db.find? r.id = some r ∧ Model.activeScope r = some (scopeType, scopeKey) := by
  rw [activeInScope, List.mem_insertionSort, List.mem_filter, decide_eq_true_eq]
  constructor
  · rintro ⟨hr, hscope⟩
    exact ⟨Database.mem_iff_find?.1 (List.mem_filter.1 hr).1, hscope⟩
  · rintro ⟨hr, hscope⟩
    obtain ⟨htype, hstatus, -⟩ := activeScope_eq_some.1 hscope
    exact ⟨List.mem_filter.2 ⟨Database.mem_iff_find?.2 hr, by simp [htype, hstatus]⟩, hscope⟩

omit [PythonLibrary] in
theorem nodup_activeInScope (db : Database) (scopeType scopeKey : Text) :
    (activeInScope (activeBindings db) scopeType scopeKey).Nodup := by
  have hrows : db.records.rows.Nodup := List.Nodup.of_map _ db.records.nodup
  exact (List.perm_insertionSort _ _).nodup_iff.2 ((hrows.filter _).filter _)

/-- The identifiers that `_active_for_scope` reads. -/
def idsInScope (db : Database) (scopeType scopeKey : Text) (excludeId : Option Text) : List Text :=
  ((activeInScope (activeBindings db) scopeType scopeKey).map fun row => uuidText row.id).filter
    fun id => some id ≠ excludeId

theorem activeForScope_on {db : Database} {scopeType scopeKey : Text} {excludeId : Option Text}
    {active : Option ModelBindingInfo} :
    (activeForScope scopeType scopeKey excludeId).on db = .ok active ↔
      ∃ infos, List.Forall₂ (fun id info => (getBinding id).on db = .ok info)
          (idsInScope db scopeType scopeKey excludeId) infos ∧
        infos.length ≤ 1 ∧ infos.head? = active := by
  have hrows : (activeRows bindingType).run db.answer = .ok (activeBindings db) := rfl
  have hrun : (activeForScope scopeType scopeKey excludeId).on db = do
      let infos ← (idsInScope db scopeType scopeKey excludeId).mapM fun id => (getBinding id).on db
      ensure (infos.length ≤ 1)
        (DollError.mk .modelManifestCorrupt "scope has multiple active bindings")
      return infos.head? := by
    simp only [activeForScope, Reader.on, ReadProgram.run_bind, hrows, ok_bind,
      ReadProgram.run_collect, ReadProgram.run_lift, ReadProgram.run_pure, idsInScope]
    rfl
  rw [hrun, bind_eq_ok]
  refine exists_congr fun infos => ?_
  rw [mapM_eq_ok, check_bind_eq_ok, ensure_eq_ok, pure_eq_ok]

/-- What is found of a scope is its active binding. -/
theorem activeForScope_isActive {db : Database} {scopeType scopeKey : Text} {info : ModelBindingInfo}
    (h : (activeForScope scopeType scopeKey none).on db = .ok (some info)) :
    IsActive db (scopeType, scopeKey) info.envelope.id ∧
      ∃ row, db.find? info.envelope.id = some row ∧ IsBinding row info.content ∧
        info.envelope = .of row := by
  obtain ⟨infos, hinfos, hlength, hhead⟩ := activeForScope_on.1 h
  -- one row was selected, and it was read
  obtain ⟨rest, rfl⟩ := List.head?_eq_some_iff.1 hhead
  obtain rfl : rest = [] := List.length_eq_zero_iff.1 (by rw [List.length_cons] at hlength; omega)
  obtain ⟨text, rest, hget, hrest, htexts⟩ := List.forall₂_cons_right_iff.1 hinfos
  obtain rfl := List.forall₂_nil_right_iff.1 hrest
  rw [idsInScope, List.filter_eq_self.2 (by simp), List.map_eq_singleton_iff] at htexts
  obtain ⟨row, hrows, rfl⟩ := htexts
  have hmem : ∀ r, r ∈ activeInScope (activeBindings db) scopeType scopeKey ↔ r = row := by
    rw [hrows]
    exact fun r => List.mem_singleton
  obtain ⟨hfound, hscope⟩ := mem_activeInScope.1 ((hmem row).2 rfl)
  obtain ⟨id, row', hid, hrow', htype, hinfo⟩ := getBinding_on.1 hget
  obtain rfl := uuidText_injective hid
  obtain rfl : row' = row := Option.some.inj (hrow'.symm.trans hfound)
  obtain ⟨henvelope, hschema, hkeys, hsaid⟩ := content_of_bindingFromRecord hinfo
  obtain ⟨-, hstatus, -⟩ := activeScope_eq_some.1 hscope
  have hinfoid : info.envelope.id = row'.id := by
    rw [henvelope]
    rfl
  rw [hinfoid]
  refine ⟨fun id' => ⟨?_, ?_⟩, row', hfound, ⟨htype, hschema, hstatus, hkeys, hsaid⟩, henvelope⟩
  · rintro ⟨r, hr, hr'⟩
    have hid := Database.id_of_find? hr
    rw [← hid] at hr ⊢
    rw [(hmem r).1 (mem_activeInScope.2 ⟨hr, hr'⟩)]
  · rintro rfl
    exact ⟨row', hfound, hscope⟩

/-- The active binding of a scope is found, unless it is excluded. -/
theorem IsActive.activeForScope_on {db : Database} {scopeType scopeKey : Text} {id : RecordId}
    {row : RecordEnvelope} {c : BindingContent} {excludeId : Option Text}
    (h : IsActive db (scopeType, scopeKey) id) (hrow : db.find? id = some row)
    (hc : IsBinding row c) (hexclude : some (uuidText id) ≠ excludeId) :
    (activeForScope scopeType scopeKey excludeId).on db = .ok (some ⟨.of row, c⟩) := by
  have hrowid := Database.id_of_find? hrow
  have hrows : activeInScope (activeBindings db) scopeType scopeKey = [row] := by
    have hmem : ∀ r ∈ activeInScope (activeBindings db) scopeType scopeKey, r = row := by
      intro r hr
      obtain ⟨hr, hscope⟩ := mem_activeInScope.1 hr
      rw [(h r.id).1 ⟨r, hr, hscope⟩, hrow] at hr
      exact (Option.some.inj hr).symm
    have hself : row ∈ activeInScope (activeBindings db) scopeType scopeKey := by
      obtain ⟨r, hr, hscope⟩ := h.found
      obtain rfl : row = r := Option.some.inj (hrow.symm.trans hr)
      exact mem_activeInScope.2 ⟨hrowid.symm ▸ hrow, hscope⟩
    refine ((List.perm_ext_iff_of_nodup (nodup_activeInScope _ _ _) (List.nodup_singleton _)).2
      fun r => ?_).eq_singleton
    rw [List.mem_singleton]
    exact ⟨hmem r, fun heq => heq ▸ hself⟩
  have hids : idsInScope db scopeType scopeKey excludeId = [uuidText id] := by
    rw [idsInScope, hrows, List.map_singleton, hrowid]
    simp [hexclude]
  refine Model.activeForScope_on.2 ⟨[⟨.of row, c⟩], ?_, le_refl _, rfl⟩
  rw [hids]
  exact .cons (hc.getBinding_on hrow) .nil

end

end DollState.Model
