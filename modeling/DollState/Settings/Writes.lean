import DollState.Settings.Service

/-!
# What the calls of the settings services write

`Prepared` says of each call what its transaction is going to write: a new row whose identity the
transaction is given, or new metadata for a row, made from metadata that one of its reads has
returned. What a change writes has the identity of what it has read (`Rewrites.identity_eq`).
-/

namespace DollState.Settings

open StateLib

/-- The types of the records the services keep. -/
def settingTypes : List String := ["preference", "policy", "permission"]

section

variable [FloatLibrary]

/-- The identity that metadata of a setting states. -/
def storedIdentity (recordType : String) (metadata : Metadata) : Option Text :=
  if recordType = "preference" then textOf (metadata.get "preference_key")
  else if recordType = "policy" then textOf (metadata.get "policy_key")
  else if recordType = "permission" then
    match metadata.get "capability_id", metadata.get "scope" with
    | .str capabilityId, .obj scope => some (permissionIdentity capabilityId scope)
    | _, _ => none
  else none

def identity (record : RecordEnvelope) : Option Text :=
  storedIdentity record.recordType record.metadata

theorem PreferenceContent.storedIdentity_metadata (c : PreferenceContent) :
    storedIdentity "preference" c.metadata = some c.key := rfl

theorem PolicyContent.storedIdentity_metadata (c : PolicyContent) :
    storedIdentity "policy" c.metadata = some c.key := rfl

theorem PermissionContent.storedIdentity_metadata (c : PermissionContent) :
    storedIdentity "permission" c.metadata = some c.identity := rfl

/-- Metadata as the services write it. -/
inductive Stored : String → Metadata → Prop
  | preference {recordType : String} (htype : recordType = "preference") (c : PreferenceContent)
      (hkey : KeyOk c.key) : Stored recordType c.metadata
  | policy {recordType : String} (htype : recordType = "policy") (c : PolicyContent)
      (hkey : KeyOk c.key) : Stored recordType c.metadata
  | permission {recordType : String} (htype : recordType = "permission") (c : PermissionContent) :
      Stored recordType c.metadata

end

section

variable [PythonLibrary] [CaseLibrary] [FloatLibrary]

/-- What a creation inserts, and the identity it checks for. -/
inductive Inserts (ctx : Context) (row : RecordEnvelope) : String × Text → Prop
  | preference (c : PreferenceContent) (htype : row.recordType = "preference")
      (hmetadata : row.metadata = c.metadata) (hkey : KeyOk c.key) :
      Inserts ctx row ("preference_key", c.key)
  | policy (c : PolicyContent) (htype : row.recordType = "policy")
      (hmetadata : row.metadata = c.metadata) (hkey : KeyOk c.key) :
      Inserts ctx row ("policy_key", c.key)
  | permission (c : PermissionContent) (htype : row.recordType = "permission")
      (hmetadata : row.metadata = c.metadata) (hok : IsUtc ctx.calledAt → c.Ok) :
      Inserts ctx row ("permission_identity", c.identity)

/-- What a change makes of the row it has read. -/
inductive Rewrites (ctx : Context) (call : Call) (id : RecordId) (r : RecordEnvelope) :
    Metadata → Prop
  | preference {c c' : PreferenceContent} (htype : r.recordType = "preference")
      (hread : readPreference r.metadata = .ok c) (hkey : c'.key = c.key)
      (hconsumes : ¬ call.Consumes id) : Rewrites ctx call id r c'.metadata
  | policy {c c' : PolicyContent} (htype : r.recordType = "policy")
      (hread : readPolicy r.metadata = .ok c) (hkey : c'.key = c.key)
      (hconsumes : ¬ call.Consumes id) : Rewrites ctx call id r c'.metadata
  | permission {c c' : PermissionContent} (htype : r.recordType = "permission")
      (hread : readPermission r.metadata = .ok c) (hcapability : c'.capabilityId = c.capabilityId)
      (hscope : c'.scope = c.scope) (hok : IsUtc ctx.calledAt → c.Ok → c'.Ok)
      (hmode : c'.mode = .allowOnce → c.mode = .allowOnce ∨ call.SetsAllowOnce id)
      (hconsumes : call.Consumes id → c.mode = .allowOnce ∧ c'.mode = .denied) :
      Rewrites ctx call id r c'.metadata

/-- What a call is going to write, and what it has read of it. -/
inductive Prepared (ok : (q : StateQuery) → q.Answer → Prop) (ctx : Context) (call : Call) :
    Write → Prop
  | created {row : RecordEnvelope} {identity : String × Text} {draft : AuditDraft}
      (htarget : call.target? = none) (hactive : row.status = .active)
      (hinserts : Inserts ctx row identity) : Prepared ok ctx call (.create row identity draft)
  | changed {u : RecordUpdate} {draft : AuditDraft} {id : RecordId} {r : RecordEnvelope}
      (htarget : call.target? = some (uuidText id, u.expectedRevision))
      (hseen : ok (.record id) (some r)) (hbase : ok (.record id) (some u.base))
      (hactive : r.status = .active) (hrewrites : Rewrites ctx call id r u.metadata) :
      Prepared ok ctx call (.update u draft)
  | nothing (htarget : call.target? = none) : Prepared ok ctx call .nothing

/-! ## What has been read -/

variable {ok : (q : StateQuery) → q.Answer → Prop}

omit [CaseLibrary] [FloatLibrary] in
theorem requireRecordType_all (recordId : Text) (expectedType : String) :
    (requireRecordType recordId expectedType).All ok fun r =>
      (∃ id, recordId = uuidText id ∧ ok (.record id) (some r)) ∧ r.recordType = expectedType :=
  .bind (getRecordText_all_id recordId) fun _ hseen =>
    .bind (.lift fun _ h => ensure_eq_ok.1 h) fun _ htype => .pure ⟨hseen, htype⟩

/-- A service has read an active row of its type. -/
def Current {Content : Type} (ok : (q : StateQuery) → q.Answer → Prop) (recordType : String)
    (read : Metadata → Result Content) (recordId : Text) (info : SettingInfo Content) : Prop :=
  ∃ id r, recordId = uuidText id ∧ ok (.record id) (some r) ∧ r.recordType = recordType ∧
    info.status = r.status ∧ read r.metadata = .ok info.content

omit [CaseLibrary] [FloatLibrary] in
/-- The `get` of a service, whose reader looks at the metadata. -/
theorem get_all {Content : Type} {recordType : String} {read : Metadata → Result Content}
    {fromRecord : RecordEnvelope → Result (SettingInfo Content)}
    (hread : ∀ r info, fromRecord r = .ok info → ∃ c, read r.metadata = .ok c ∧ info = settingInfo r c)
    (recordId : Text) :
    (do fromRecord (← requireRecordType recordId recordType) : Reader (SettingInfo Content)).All ok
      (Current ok recordType read recordId) := by
  refine .bind (requireRecordType_all recordId recordType) fun r hr => .lift fun info hinfo => ?_
  obtain ⟨⟨id, hid, hseen⟩, htype⟩ := hr
  obtain ⟨content, hcontent, rfl⟩ := hread r info hinfo
  exact ⟨id, r, hid, hseen, htype, rfl, hcontent⟩

theorem Preference.get_all (recordId : Text) :
    (Preference.get recordId).All ok (Current ok "preference" readPreference recordId) :=
  Settings.get_all (fun _ _ => preferenceFromRecord_eq_ok.1) recordId

omit [CaseLibrary] [FloatLibrary] in
theorem Policy.get_all (recordId : Text) :
    (Policy.get recordId).All ok (Current ok "policy" readPolicy recordId) :=
  Settings.get_all (fun _ _ => policyFromRecord_eq_ok.1) recordId

theorem Permission.get_all (recordId : Text) :
    (Permission.get recordId).All ok (Current ok "permission" readPermission recordId) :=
  Settings.get_all (fun _ _ => permissionFromRecord_eq_ok.1) recordId

/-! ## What is written -/

variable [ModuleRules]

omit [PythonLibrary] [CaseLibrary] [FloatLibrary] in
theorem createTypedRecord_eq_ok {ctx : Context} {recordType : String} {title : Text}
    {metadata : Metadata} {sensitivity : RecordSensitivity} {operation : Option Text}
    {action : String} {identity : String × Text} {auditMetadata : Metadata} {w : Write}
    (h : createTypedRecord ctx recordType title metadata sensitivity operation action identity
      auditMetadata = .ok w) :
    ∃ row draft, w = .create row identity draft ∧ row.recordType = recordType ∧
      row.metadata = metadata ∧ row.status = .active := by
  obtain ⟨-, h⟩ := check_bind_eq_ok.1 h
  obtain ⟨-, h⟩ := check_bind_eq_ok.1 h
  obtain ⟨_, -, h⟩ := bind_eq_ok.1 h
  exact ⟨_, _, (pure_eq_ok.1 h).symm, rfl, rfl, rfl⟩

omit [PythonLibrary] [CaseLibrary] [FloatLibrary] in
theorem updateTypedRecord_eq_ok {ctx : Context} {currentRecord : RecordEnvelope}
    {expectedRevision : Int} {metadata : Metadata} {status : RecordStatus} {operation : Option Text}
    {action : String} {auditMetadata : Metadata} {auditActorType : AuditActor} {w : Write}
    (h : updateTypedRecord ctx currentRecord expectedRevision metadata status operation action
      auditMetadata auditActorType = .ok w) :
    ∃ u draft, w = .update u draft ∧ u.base = currentRecord ∧
      u.expectedRevision = expectedRevision ∧ u.metadata = metadata := by
  obtain ⟨-, h⟩ := check_bind_eq_ok.1 h
  obtain ⟨_, -, h⟩ := bind_eq_ok.1 h
  exact ⟨_, _, (pure_eq_ok.1 h).symm, rfl, rfl, rfl⟩

theorem prepared_of_create {ctx : Context} {call : Call} {recordType : String} {title : Text}
    {metadata : Metadata} {sensitivity : RecordSensitivity} {operation : Option Text}
    {action : String} {identity : String × Text} {auditMetadata : Metadata}
    (htarget : call.target? = none)
    (hinserts : ∀ row : RecordEnvelope, row.recordType = recordType → row.metadata = metadata →
      Inserts ctx row identity) :
    (monadLift (createTypedRecord ctx recordType title metadata sensitivity operation action identity
      auditMetadata) : Reader Write).All ok (Prepared ok ctx call) :=
  .lift fun w hw => by
    obtain ⟨row, draft, rfl, htype, hmetadata, hactive⟩ := createTypedRecord_eq_ok hw
    exact .created htarget hactive (hinserts row htype hmetadata)

/-- The end of every change: the row is read once more, and its new metadata is written. -/
theorem prepared_of_update {ctx : Context} {call : Call} {Content : Type} {recordType : String}
    {read : Metadata → Result Content} {recordId : Text} {info : SettingInfo Content}
    {expectedRevision : Int} {metadata : Metadata} {status : RecordStatus} {operation : Option Text}
    {action : String} {auditMetadata : Metadata} {auditActorType : AuditActor}
    (htarget : call.target? = some (recordId, expectedRevision))
    (hcurrent : Current ok recordType read recordId info) (hactive : info.status = .active)
    (hrewrites : ∀ id r, recordId = uuidText id → r.recordType = recordType →
      read r.metadata = .ok info.content → Rewrites ctx call id r metadata) :
    (do
      let currentRecord ← getRecordText recordId
      updateTypedRecord ctx currentRecord expectedRevision metadata status operation action
        auditMetadata auditActorType : Reader Write).All ok (Prepared ok ctx call) :=
  .bind (getRecordText_all_id recordId) fun base hbase => .lift fun w hw => by
    obtain ⟨u, draft, rfl, rfl, rfl, rfl⟩ := updateTypedRecord_eq_ok hw
    obtain ⟨id, r, rfl, hseen, htype, hstatus, hread⟩ := hcurrent
    obtain ⟨id', hid, hbase⟩ := hbase
    obtain rfl := uuidText_injective hid
    exact .changed htarget hseen hbase (hstatus ▸ hactive) (hrewrites id r rfl htype hread)

/-! ### Permissions -/

omit [PythonLibrary] [CaseLibrary] [FloatLibrary] [ModuleRules] in
/-- The uses of a mode are those its permission starts with. -/
theorem PermissionMode.uses_ok (mode : PermissionMode) :
    (∀ n ∈ mode.uses, n = 0 ∨ n = 1) ∧ (mode = .allowOnce → mode.uses = some 1) := by
  cases mode <;> simp [PermissionMode.uses]

omit [ModuleRules] in
theorem PermissionContent.Ok.consumed {ctx : Context} {c : PermissionContent} (h : c.Ok)
    (hclock : IsUtc ctx.calledAt) : (Permission.consumed ctx c).Ok where
  capability := h.capability
  scope := h.scope
  mode := fun hmode => nomatch hmode
  expiresAt := h.expiresAt
  approvalSource := h.approvalSource
  lastChangedAt := hclock
  lastUsedAt := by
    rintro _ ⟨⟩
    exact hclock
  remainingUses := by
    rintro _ ⟨⟩
    exact .inl rfl
  once := fun hmode => nomatch hmode

theorem Permission.create_all (ctx : Context) (capabilityId : Text) (scope : Scope) (mode : Text)
    (expiresAt : Option Text) (approvalSource : Text) (sensitivity : RecordSensitivity)
    (caller : Caller) {call : Call} (htarget : call.target? = none) :
    (Permission.create ctx capabilityId scope mode expiresAt approvalSource sensitivity caller).All ok
      (Prepared ok ctx call) := by
  rw [Permission.create]
  refine .after _ fun _ => ?_
  refine .bind (.lift fun capabilityId h => (validateKey_eq_ok.1 h).2) fun capabilityId hcapability => ?_
  refine .bind (.lift fun _ h => validateScope_idem scope.distinct h) fun scope hscope => ?_
  refine .bind (.lift fun _ h => (validatePermissionMode_eq_ok.1 h).2) fun mode hmode => ?_
  refine .bind (m := fun expiresAt => ∀ t ∈ expiresAt, IsUtc t)
    (.lift fun _ h => (validateOptionalUtc_eq_ok.1 h).1 ▸ (validateOptionalUtc_eq_ok.1 h).2)
    fun expiresAt hexpires => ?_
  refine .bind (.lift fun _ h => (validateApprovalSource_eq_ok.1 h).2) fun source hsource => ?_
  refine prepared_of_create htarget fun row htype hmetadata =>
    .permission _ htype hmetadata fun hclock => ?_
  exact ⟨hcapability, hscope, hmode, hexpires, hsource, hclock, by simp, mode.uses_ok.1,
    mode.uses_ok.2⟩

theorem Permission.update_all (ctx : Context) (recordId : Text) (expectedRevision : Int)
    (mode : Text) (expiresAt : Option Text) (approvalSource : Text) (caller : Caller) :
    (Permission.update ctx recordId expectedRevision mode expiresAt approvalSource caller).All ok
      (Prepared ok ctx
        (.updatePermission recordId expectedRevision mode expiresAt approvalSource caller)) := by
  rw [Permission.update]
  refine .after _ fun _ => .bind (Permission.get_all recordId) fun current hcurrent => ?_
  refine .bind (.lift fun _ h => ensure_eq_ok.1 h) fun _ hactive => ?_
  refine .bind (.lift fun _ h => validatePermissionMode_eq_ok.1 h) fun safeMode hmode => ?_
  refine .bind (m := fun expiresAt => ∀ t ∈ expiresAt, IsUtc t)
    (.lift fun _ h => (validateOptionalUtc_eq_ok.1 h).1 ▸ (validateOptionalUtc_eq_ok.1 h).2)
    fun expiresAt hexpires => ?_
  refine .bind (.lift fun _ h => (validateApprovalSource_eq_ok.1 h).2) fun source hsource => ?_
  refine prepared_of_update rfl hcurrent hactive fun id r hid htype hread =>
    .permission htype hread rfl rfl (fun hclock hok => ?_) (fun hnew => .inr ⟨hid, ?_⟩) nofun
  · exact ⟨hok.capability, hok.scope, hmode.2, hexpires, hsource, hclock, by simp,
      safeMode.uses_ok.1, safeMode.uses_ok.2⟩
  · exact hmode.1.trans (congrArg PermissionMode.text hnew)

theorem Permission.archive_all (ctx : Context) (recordId : Text) (expectedRevision : Int)
    (caller : Caller) : (Permission.archive ctx recordId expectedRevision caller).All ok
      (Prepared ok ctx (.archivePermission recordId expectedRevision caller)) := by
  rw [Permission.archive]
  refine .after _ fun _ => .bind (Permission.get_all recordId) fun current hcurrent => ?_
  refine .bind (.lift fun _ h => ensure_eq_ok.1 h) fun _ hactive => ?_
  exact prepared_of_update rfl hcurrent hactive fun id r hid htype hread =>
    .permission htype hread rfl rfl (fun _ hok => hok) .inl nofun

theorem Permission.consumeAllowOnce_all (ctx : Context) (recordId : Text) (expectedRevision : Int)
    (caller : Caller) : (Permission.consumeAllowOnce ctx recordId expectedRevision caller).All ok
      (Prepared ok ctx (.consumeAllowOnce recordId expectedRevision caller)) := by
  rw [Permission.consumeAllowOnce]
  refine .after _ fun _ => .bind (Permission.get_all recordId) fun current hcurrent => ?_
  refine .bind (.lift fun _ h => of_decision_allowOnce (ensure_eq_ok.1 h)) fun _ hdecision => ?_
  exact prepared_of_update rfl hcurrent hdecision.1 fun id r hid htype hread =>
    .permission htype hread rfl rfl (fun hclock hok => hok.consumed hclock) nofun
      fun _ => ⟨hdecision.2, rfl⟩

/-- What a call has read and what it is going to write. -/
theorem Call.prepare_all (ctx : Context) (call : Call) :
    (Call.prepare (ctx, call)).All ok (Prepared ok ctx call) := by
  cases call with
  | createPreference key value description sensitivity caller =>
    rw [Call.prepare, Preference.create]
    refine .after _ fun _ => .bind (.lift fun _ h => (validateKey_eq_ok.1 h).2) fun key hkey =>
      .after _ fun value => .after _ fun description => ?_
    exact prepared_of_create rfl fun row htype hmetadata => .preference _ htype hmetadata hkey
  | updatePreference recordId expectedRevision value description caller =>
    rw [Call.prepare, Preference.update]
    refine .after _ fun _ => .bind (Preference.get_all recordId) fun current hcurrent =>
      .bind (.lift fun _ h => ensure_eq_ok.1 h) fun _ hactive =>
      .after _ fun value => .after _ fun description => ?_
    exact prepared_of_update rfl hcurrent hactive fun id r hid htype hread =>
      .preference htype hread rfl nofun
  | archivePreference recordId expectedRevision caller =>
    rw [Call.prepare, Preference.archive]
    refine .after _ fun _ => .bind (Preference.get_all recordId) fun current hcurrent =>
      .bind (.lift fun _ h => ensure_eq_ok.1 h) fun _ hactive => ?_
    exact prepared_of_update rfl hcurrent hactive fun id r hid htype hread =>
      .preference htype hread rfl nofun
  | createPolicy key rule enabled sensitivity caller =>
    rw [Call.prepare, Policy.create]
    refine .after _ fun _ => .bind (.lift fun _ h => (validateKey_eq_ok.1 h).2) fun key hkey =>
      .after _ fun rule => ?_
    exact prepared_of_create rfl fun row htype hmetadata => .policy _ htype hmetadata hkey
  | updatePolicy recordId expectedRevision rule enabled caller =>
    rw [Call.prepare, Policy.update]
    refine .after _ fun _ => .bind (Policy.get_all recordId) fun current hcurrent =>
      .bind (.lift fun _ h => ensure_eq_ok.1 h) fun _ hactive => .after _ fun rule => ?_
    exact prepared_of_update rfl hcurrent hactive fun id r hid htype hread =>
      .policy htype hread rfl nofun
  | archivePolicy recordId expectedRevision caller =>
    rw [Call.prepare, Policy.archive]
    refine .after _ fun _ => .bind (Policy.get_all recordId) fun current hcurrent =>
      .bind (.lift fun _ h => ensure_eq_ok.1 h) fun _ hactive => ?_
    exact prepared_of_update rfl hcurrent hactive fun id r hid htype hread =>
      .policy htype hread rfl nofun
  | createPermission => exact Permission.create_all ctx _ _ _ _ _ _ _ rfl
  | updatePermission => exact Permission.update_all ctx _ _ _ _ _ _
  | archivePermission => exact Permission.archive_all ctx _ _ _
  | consumeAllowOnce => exact Permission.consumeAllowOnce_all ctx _ _ _
  | resolve capabilityId scope =>
    rw [Call.prepare]
    exact .after _ fun _ => .pure (.nothing rfl)

end

end DollState.Settings
