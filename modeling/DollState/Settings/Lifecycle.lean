import DollState.Library.Clients
import DollState.Settings.Writes

/-!
# The life of a setting

Any number of clients create, change, archive and resolve settings. A change writes what its call has
read some time before, and its transaction compares only the revision. If the revision that the
caller expects is one the record has had before the call was started, then the row that the call
reads is the row that the transaction replaces (`read_eq_found`): its revision is at least the
expected one, and no later one is found.
-/

namespace DollState.Settings

open StateLib

section

variable [FloatLibrary]

/-! ## What holds of the settings of a database -/

/-- The settings are as the services write them, and at most one active one has an identity. -/
structure Governed (db : Database) : Prop where
  stored : ∀ id r, db.find? id = some r → r.recordType ∈ settingTypes →
    Stored r.recordType r.metadata
  unique : ∀ id id' r r', db.find? id = some r → db.find? id' = some r' →
    r.recordType ∈ settingTypes → r'.recordType = r.recordType → r.status = .active →
    r'.status = .active → identity r' = identity r → id' = id

/-- What becomes of a row: its revision rises with every change, and a setting keeps its type and
its identity, and everything once it is not active any more. -/
structure Succeeds (r r' : RecordEnvelope) : Prop where
  revision : r.revision ≤ r'.revision
  same : r.revision = r'.revision → r = r'
  recordType : r'.recordType = r.recordType
  identity : r.recordType ∈ settingTypes → identity r' = identity r
  inactive : r.recordType ∈ settingTypes → r.status ≠ .active → r' = r

theorem Succeeds.refl (r : RecordEnvelope) : Succeeds r r :=
  ⟨le_refl _, fun _ => rfl, rfl, fun _ => rfl, fun _ _ => rfl⟩

theorem Succeeds.trans {r₁ r₂ r₃ : RecordEnvelope} (h : Succeeds r₁ r₂) (h' : Succeeds r₂ r₃) :
    Succeeds r₁ r₃ where
  revision := h.revision.trans h'.revision
  same heq := by
    have h₁ := h.revision
    have h₂ := h'.revision
    rw [h.same (by omega), h'.same (by omega)]
  recordType := h'.recordType.trans h.recordType
  identity htype := (h'.identity (h.recordType ▸ htype)).trans (h.identity htype)
  inactive htype hstatus := by
    obtain rfl := h.inactive htype hstatus
    exact h'.inactive htype hstatus

/-- Every row is still there, and what it has become succeeds it. -/
def Keeps (db db' : Database) : Prop :=
  ∀ id r, db.find? id = some r → ∃ r', db'.find? id = some r' ∧ Succeeds r r'

theorem Keeps.refl (db : Database) : Keeps db db := fun _ r hr => ⟨r, hr, .refl r⟩

theorem Keeps.trans {db₁ db₂ db₃ : Database} (h : Keeps db₁ db₂) (h' : Keeps db₂ db₃) :
    Keeps db₁ db₃ := by
  intro id r hr
  obtain ⟨r₂, hr₂, hsucceeds⟩ := h id r hr
  obtain ⟨r₃, hr₃, hsucceeds'⟩ := h' id r₂ hr₂
  exact ⟨r₃, hr₃, hsucceeds.trans hsucceeds'⟩

/-- A row put in place of none, or of one it succeeds. -/
theorem keeps_of_writes {db db' : Database} {row : RecordEnvelope} (h : db.Writes row db')
    (hrow : ∀ r, db.find? row.id = some r → Succeeds r row) : Keeps db db' := by
  intro id r hr
  by_cases hid : row.id = id
  · subst hid
    exact ⟨row, by rw [h, if_pos rfl], hrow r hr⟩
  · exact ⟨r, by rw [h, if_neg hid, hr], .refl r⟩

/-! ## Stored metadata -/

theorem Stored.of_preference {recordType : String} {metadata : Metadata}
    (h : Stored recordType metadata) (htype : recordType = "preference") :
    ∃ c : PreferenceContent, KeyOk c.key ∧ metadata = c.metadata := by
  subst htype
  cases h with
  | preference _ c hkey => exact ⟨c, hkey, rfl⟩
  | policy htype => exact absurd htype (by decide)
  | permission htype => exact absurd htype (by decide)

theorem Stored.of_policy {recordType : String} {metadata : Metadata}
    (h : Stored recordType metadata) (htype : recordType = "policy") :
    ∃ c : PolicyContent, KeyOk c.key ∧ metadata = c.metadata := by
  subst htype
  cases h with
  | preference htype => exact absurd htype (by decide)
  | policy _ c hkey => exact ⟨c, hkey, rfl⟩
  | permission htype => exact absurd htype (by decide)

theorem Stored.of_permission {recordType : String} {metadata : Metadata}
    (h : Stored recordType metadata) (htype : recordType = "permission") :
    ∃ c : PermissionContent, metadata = c.metadata := by
  subst htype
  cases h with
  | preference htype => exact absurd htype (by decide)
  | policy htype => exact absurd htype (by decide)
  | permission _ c => exact ⟨c, rfl⟩

variable [PythonLibrary] [CaseLibrary]

omit [PythonLibrary] in
theorem key_of_readPreference {c₀ c : PreferenceContent} (hkey : KeyOk c₀.key)
    (h : readPreference c₀.metadata = .ok c) : c.key = c₀.key := by
  have hget : c₀.metadata.get "preference_key" = .str c₀.key := rfl
  unfold readPreference at h
  obtain ⟨s, hs, h⟩ := bind_eq_ok.1 h
  obtain ⟨key, hvalid, h⟩ := bind_eq_ok.1 h
  obtain ⟨_, -, h⟩ := bind_eq_ok.1 h
  obtain ⟨_, -, h⟩ := bind_eq_ok.1 h
  obtain ⟨_, -, h⟩ := bind_eq_ok.1 h
  obtain ⟨_, -, h⟩ := bind_eq_ok.1 h
  rw [← pure_eq_ok.1 h]
  have hstored : c₀.key = s := Json.str.inj (hget.symm.trans (requiredString_eq_ok.1 hs).1)
  rw [← (validateKey_eq_ok.1 hvalid).1, ← hstored, hkey.1]

omit [FloatLibrary] [PythonLibrary] [CaseLibrary] in
theorem key_of_readPolicy {c₀ c : PolicyContent} (hkey : KeyOk c₀.key)
    (h : readPolicy c₀.metadata = .ok c) : c.key = c₀.key := by
  have hget : c₀.metadata.get "policy_key" = .str c₀.key := rfl
  unfold readPolicy at h
  obtain ⟨s, hs, h⟩ := bind_eq_ok.1 h
  obtain ⟨key, hvalid, h⟩ := bind_eq_ok.1 h
  obtain ⟨_, -, h⟩ := bind_eq_ok.1 h
  obtain ⟨_, -, h⟩ := bind_eq_ok.1 h
  obtain ⟨enabled, -, h⟩ := bind_eq_ok.1 h
  have hc : c.key = key := by
    split at h
    · rw [← pure_eq_ok.1 h]
    · cases h
  have hstored : c₀.key = s := Json.str.inj (hget.symm.trans (requiredString_eq_ok.1 hs).1)
  rw [hc, ← (validateKey_eq_ok.1 hvalid).1, ← hstored, hkey.1]

theorem identity_of_readPermission {c₀ c : PermissionContent}
    (h : readPermission c₀.metadata = .ok c) : c.identity = c₀.identity := by
  have hget : c₀.metadata.get "permission_identity" = .str c₀.identity := rfl
  exact (Json.str.inj (hget.symm.trans (of_readPermission h).1)).symm

theorem identity_of_actualIdentity {r : RecordEnvelope} {identity' : String × Text} {ctx : Context}
    {row : RecordEnvelope} {actual : Option Text} (hstored : Stored r.recordType r.metadata)
    (hinserts : Inserts ctx row identity') (htype : r.recordType = row.recordType)
    (h : actualIdentity r identity'.1 = .ok actual) : actual = identity r := by
  unfold actualIdentity at h
  cases hinserts with
  | preference c hrow =>
    rw [htype, hrow, if_neg (by decide), pure_eq_ok] at h
    rw [← h, identity, htype, hrow]
    rfl
  | policy c hrow =>
    rw [htype, hrow, if_neg (by decide), pure_eq_ok] at h
    rw [← h, identity, htype, hrow]
    rfl
  | permission c hrow =>
    have htype := htype.trans hrow
    rw [if_pos htype] at h
    obtain ⟨permission, hpermission, h⟩ := bind_eq_ok.1 h
    obtain ⟨c', hread, rfl⟩ := permissionFromRecord_eq_ok.1 hpermission
    obtain ⟨c₀, hc₀⟩ := hstored.of_permission htype
    rw [hc₀] at hread
    rw [← pure_eq_ok.1 h, identity, htype, hc₀, c₀.storedIdentity_metadata]
    exact congrArg some (identity_of_readPermission hread)

/-- New metadata has the form and the identity of what was read. -/
theorem Rewrites.identity_eq {ctx : Context} {call : Call} {id : RecordId} {r : RecordEnvelope}
    {metadata : Metadata} (h : Rewrites ctx call id r metadata)
    (hstored : Stored r.recordType r.metadata) :
    Stored r.recordType metadata ∧ storedIdentity r.recordType metadata = identity r := by
  cases h with
  | @preference c c' htype hread hkey =>
    obtain ⟨c₀, hkey₀, hc₀⟩ := hstored.of_preference htype
    rw [hc₀] at hread
    have hc' : c'.key = c₀.key := hkey.trans (key_of_readPreference hkey₀ hread)
    refine ⟨.preference htype c' (hc' ▸ hkey₀), ?_⟩
    rw [identity, htype, hc₀, c'.storedIdentity_metadata, c₀.storedIdentity_metadata, hc']
  | @policy c c' htype hread hkey =>
    obtain ⟨c₀, hkey₀, hc₀⟩ := hstored.of_policy htype
    rw [hc₀] at hread
    have hc' : c'.key = c₀.key := hkey.trans (key_of_readPolicy hkey₀ hread)
    refine ⟨.policy htype c' (hc' ▸ hkey₀), ?_⟩
    rw [identity, htype, hc₀, c'.storedIdentity_metadata, c₀.storedIdentity_metadata, hc']
  | @permission c c' htype hread hcapability hscope =>
    obtain ⟨c₀, hc₀⟩ := hstored.of_permission htype
    rw [hc₀] at hread
    have hc' : c'.identity = c₀.identity := by
      rw [← identity_of_readPermission hread]
      exact congrArg₂ permissionIdentity hcapability hscope
    refine ⟨.permission htype c', ?_⟩
    rw [identity, htype, hc₀, c'.storedIdentity_metadata, c₀.storedIdentity_metadata, hc']

/-! ## What a transaction does -/

/-- What the transaction of a call does to the records. -/
inductive Effect (ctx : Context) (call : Call) (db db' : Database) : Prop
  | inserted (row : RecordEnvelope) (identity' : String × Text) (htarget : call.target? = none)
      (hactive : row.status = .active) (hinserts : Inserts ctx row identity')
      (hfree : db.find? row.id = none)
      (hunique : ∀ r ∈ db.records, r.recordType = row.recordType → r.status = .active →
        ∃ actual, actualIdentity r identity'.1 = .ok actual ∧ actual ≠ some identity'.2)
      (hwrites : db.Writes row db')
  | changed (id : RecordId) (r : RecordEnvelope) (u : RecordUpdate)
      (htarget : call.target? = some (uuidText id, r.revision)) (hfound : db.find? id = some r)
      (hactive : r.status = .active) (hrewrites : Rewrites ctx call id r u.metadata)
      (hwrites : db.Writes (u.apply r) db')
  | nothing (htarget : call.target? = none) (hsame : db' = db)

variable [ModuleRules]

omit [FloatLibrary] [PythonLibrary] [CaseLibrary] [ModuleRules] in
theorem mem_activeRecords {db : Database} {recordType : String} {r : RecordEnvelope} :
    r ∈ activeRecords db recordType ↔
      r ∈ db.records ∧ r.recordType = recordType ∧ r.status = .active := by
  rw [activeRecords, List.mem_insertionSort, List.mem_filter, decide_eq_true_eq, Table.mem_rows]

theorem createTypedTransaction_effect {row : RecordEnvelope} {identity' : String × Text}
    {draft : AuditDraft} {db db' : Database}
    (h : createTypedTransaction row identity' draft db = .ok db') :
    (∀ r ∈ db.records, r.recordType = row.recordType → r.status = .active →
      ∃ actual, actualIdentity r identity'.1 = .ok actual ∧ actual ≠ some identity'.2) ∧
      db.find? row.id = none ∧ db.Writes row db' := by
  obtain ⟨hunique, h⟩ := check_bind_eq_ok.1 h
  refine ⟨fun r hr htype hactive => ?_, createTransaction_writes h⟩
  have hr := forEach_eq_ok.1 hunique r (mem_activeRecords.2 ⟨hr, htype, hactive⟩)
  obtain ⟨actual, hactual, hne⟩ := bind_eq_ok.1 hr
  exact ⟨actual, hactual, ensure_eq_ok.1 hne⟩

omit [FloatLibrary] [PythonLibrary] [CaseLibrary] in
theorem updateTypedTransaction_writes {u : RecordUpdate} {draft : AuditDraft} {db db' : Database}
    (h : updateTypedTransaction u draft db = .ok db') :
    ∃ row, db.find? u.base.id = some row ∧ row.revision = u.expectedRevision ∧
      db.Writes (u.apply row) db' := by
  rw [updateTypedTransaction, bind_eq_ok] at h
  obtain ⟨refreshed, -, h⟩ := h
  obtain ⟨-, h⟩ := check_bind_eq_ok.1 h
  obtain ⟨db₁, h₁, h⟩ := bind_eq_ok.1 h
  obtain ⟨db₂, h₂, h⟩ := bind_eq_ok.1 h
  obtain ⟨row, hrow, hrevision, hfind⟩ := Database.find?_updateWhere u.apply_id (orFail_eq_ok.1 h₁)
  refine ⟨row, hrow, hrevision, fun id => ?_⟩
  rw [← pure_eq_ok.1 h, Database.find?_commitStateRevision, find?_insertAudit h₂, hfind,
    u.apply_id, Database.id_of_find? hrow]

/-- The effect of a transaction that finds the row its call has read. -/
theorem effect_of_commit {ctx : Context} {call : Call} {ss : List Database} {w : Write}
    {db db' : Database}
    (hruns : ReadProgram.RunsOver Database.answer (Call.prepare (ctx, call)) ss (.ok w))
    (hread : ∀ t ∈ ss, ∀ id r row, t.find? id = some r → db.find? id = some row →
      call.target? = some (uuidText id, row.revision) → r = row)
    (h : w.commit db = .ok db') : Effect ctx call db db' := by
  have hall : (Call.prepare (ctx, call)).All (fun q a => ∃ s ∈ ss, a = s.answer q)
    (Prepared (fun q a => ∃ s ∈ ss, a = s.answer q) ctx call) := Call.prepare_all ctx call
  have hprepared := hall.runsOver hruns fun s hs q => ⟨s, hs, rfl⟩
  cases hprepared with
  | created htarget hactive hinserts =>
    obtain ⟨hunique, hfree, hwrites⟩ := createTypedTransaction_effect h
    exact .inserted _ _ htarget hactive hinserts hfree hunique hwrites
  | @changed u draft id r htarget hseen hbase hactive hrewrites =>
    obtain ⟨row, hrow, hrevision, hwrites⟩ := updateTypedTransaction_writes h
    obtain ⟨s, hs, hfind⟩ := hseen
    obtain ⟨s', -, hfind'⟩ := hbase
    have hid : u.base.id = id := Database.id_of_find? hfind'.symm
    rw [hid] at hrow
    obtain rfl := hread s hs id r row hfind.symm hrow (hrevision ▸ htarget)
    exact .changed id r u (hrevision ▸ htarget) hrow hactive hrewrites hwrites
  | nothing htarget =>
    obtain rfl : db = db' := Except.ok.inj h
    exact .nothing htarget rfl

omit [ModuleRules] in
theorem Inserts.stored {ctx : Context} {row : RecordEnvelope} {identity' : String × Text}
    (h : Inserts ctx row identity') :
    Stored row.recordType row.metadata ∧ identity row = some identity'.2 := by
  unfold identity
  cases h with
  | preference c htype hmetadata hkey =>
    rw [htype, hmetadata]
    exact ⟨.preference rfl c hkey, rfl⟩
  | policy c htype hmetadata hkey =>
    rw [htype, hmetadata]
    exact ⟨.policy rfl c hkey, rfl⟩
  | permission c htype hmetadata =>
    rw [htype, hmetadata]
    exact ⟨.permission rfl c, rfl⟩

omit [PythonLibrary] [CaseLibrary] [ModuleRules] in
/-- A row that is put among good ones, and whose identity no other active one has. -/
theorem Governed.of_writes {db db' : Database} {row : RecordEnvelope} (h : Governed db)
    (hwrites : db.Writes row db')
    (hstored : row.recordType ∈ settingTypes → Stored row.recordType row.metadata)
    (hunique : ∀ id r, db.find? id = some r → id ≠ row.id → row.recordType ∈ settingTypes →
      r.recordType = row.recordType → r.status = .active → row.status = .active →
      identity r ≠ identity row) : Governed db' where
  stored id r hr htype := by
    rw [hwrites] at hr
    split at hr
    · cases hr
      exact hstored htype
    · exact h.stored id r hr htype
  unique id id' r r' hr hr' htype heq hactive hactive' hid := by
    rw [hwrites] at hr hr'
    split at hr <;> split at hr'
    · rename_i h₁ h₂
      exact h₂.symm.trans h₁
    · rename_i h₁ h₂
      cases hr
      exact absurd hid (hunique id' r' hr' (Ne.symm h₂) htype heq hactive' hactive)
    · rename_i h₁ h₂
      cases hr'
      exact absurd hid.symm (hunique id r hr (Ne.symm h₁) (heq ▸ htype) heq.symm hactive hactive')
    · exact h.unique id id' r r' hr hr' htype heq hactive hactive' hid

omit [ModuleRules] in
/-- Every transaction keeps the settings good, and each row is succeeded by what it becomes. -/
theorem Effect.governed {ctx : Context} {call : Call} {db db' : Database}
    (h : Effect ctx call db db') (hdb : Governed db) : Governed db' ∧ Keeps db db' := by
  cases h with
  | inserted row identity' htarget hactive hinserts hfree hunique hwrites =>
    obtain ⟨hstored, hidentity⟩ := hinserts.stored
    refine ⟨hdb.of_writes hwrites (fun _ => hstored) ?_, keeps_of_writes hwrites fun r hr => ?_⟩
    · intro id r hr _ htype heq hstatus _
      obtain ⟨actual, hactual, hne⟩ :=
        hunique r (Database.find?_eq_some.1 hr).1 heq hstatus
      have hstored := hdb.stored id r hr (heq ▸ htype)
      rw [identity_of_actualIdentity hstored hinserts heq hactual] at hne
      exact fun h => hne (h.trans hidentity)
    · rw [hfree] at hr
      cases hr
  | changed id r u htarget hfound hactive hrewrites hwrites =>
    have hid : r.id = id := Database.id_of_find? hfound
    have hwritten : r.recordType ∈ settingTypes → Stored r.recordType u.metadata ∧
        storedIdentity r.recordType u.metadata = identity r :=
      fun htype => hrewrites.identity_eq (hdb.stored id r hfound htype)
    refine ⟨hdb.of_writes hwrites (fun htype => (hwritten htype).1) ?_,
      keeps_of_writes hwrites fun r₀ hr₀ => ?_⟩
    · intro id' r' hr' hne htype heq hactive' _ hsame
      -- the row had that identity and was active before
      have hsame : identity r' = identity r := hsame.trans (hwritten htype).2
      exact hne ((hdb.unique id id' r r' hfound hr' htype heq hactive hactive' hsame).trans hid.symm)
    · rw [u.apply_id, hid, hfound, Option.some.injEq] at hr₀
      subst hr₀
      have hlt : r.revision < (u.apply r).revision := Int.lt_succ _
      exact ⟨hlt.le, fun heq => absurd heq hlt.ne, rfl, fun htype => (hwritten htype).2,
        fun _ hstatus => absurd hactive hstatus⟩
  | nothing htarget hsame =>
    subst hsame
    exact ⟨hdb, .refl _⟩

end

end DollState.Settings
