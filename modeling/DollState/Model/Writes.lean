import DollState.Model.Bindings

/-!
# What the manifest calls write

`Prepared` says of each call what its transaction is going to write, and which rows it has read of
it. The transaction itself does less than its call may think: of the second row that an activation
or a rollback changes it only asks that it is still there and not archived.
-/

namespace DollState.Model

open Capability StateLib

section

variable [PythonLibrary]

/-- How a call changes one binding, whatever the other rows are. -/
inductive Alters : Call → RecordId → List (String × Json) → Prop
  | smokeTest {id : RecordId} {revision : Int} {status : SmokeTestStatus} {caller : Caller} :
      Alters (.setSmokeTest (uuidText id) revision status caller) id (smokeTested status)
  | fallback {id : RecordId} {revision priority : Int} {caller : Caller} (h : 1 ≤ priority) :
      Alters (.setFallback (uuidText id) revision priority caller) id (fallback priority)
  | disabled {id : RecordId} {revision : Int} {caller : Caller} :
      Alters (.disableBinding (uuidText id) revision caller) id disabling

/-- A row of a type was read. -/
def SeenAs (ok : (q : StateQuery) → q.Answer → Prop) (recordType : String) (id : RecordId)
    (r : RecordEnvelope) : Prop :=
  ok (.record id) (some r) ∧ r.recordType = recordType

/-- What a call is going to write, and what it has read of it. -/
inductive Prepared (ok : (q : StateQuery) → q.Answer → Prop) (ctx : Context) (call : Call) :
    Write → Prop
  | created {row : RecordEnvelope} {draft : AuditDraft} (hrevision : row.revision = 1)
      (hbinding : row.recordType = bindingType → ∃ runtime model : RecordEnvelope,
        Seen ok runtime ∧ Seen ok model ∧ (1 ≤ runtime.revision → 1 ≤ model.revision →
          ∃ c, c.bindingState = .candidate ∧ IsBinding row c)) :
      Prepared ok ctx call (.create row draft)
  | manifest {id : RecordId} {revision : Int} {metadata : Metadata} {provenance : RecordProvenance}
      {now : Text} {draft : AuditDraft} {r : RecordEnvelope} (kind : ManifestKind)
      (hseen : SeenAs ok kind.recordType id r) :
      Prepared ok ctx call (.update id revision metadata provenance now draft)
  | binding {id : RecordId} {revision : Int} {changes : List (String × Json)}
      {provenance : RecordProvenance} {now : Text} {draft : AuditDraft} {r : RecordEnvelope}
      (hseen : SeenAs ok bindingType id r) (hchange : Alters call id changes) :
      Prepared ok ctx call (.update id revision (setAll r.metadata changes) provenance now draft)
  | activated {id : RecordId} {revision : Int} {texts values : List Text} {caller : Caller}
      {runtime model : RecordEnvelope} {evidence : List RecordId} {currentActive : Option RecordId}
      {draft : AuditDraft}
      (hcall : call = .activateBinding (uuidText id) revision texts caller)
      (hseen : ∃ r, SeenAs ok bindingType id r) (hruntime : Seen ok runtime)
      (hmodel : Seen ok model)
      (hevidence : identifiers "evidence IDs" (values.map .str) = .ok evidence)
      (hcurrent : ∀ previousId ∈ currentActive, ∃ r, SeenAs ok bindingType previousId r) :
      Prepared ok ctx call (.activate ctx id revision runtime.revision model.revision evidence
        currentActive draft)
  | rolledBack {id previousId : RecordId} {revision : Int} {value : Json} {given reason : Text}
      {caller : Caller} {draft : AuditDraft}
      (hcall : call = .rollbackBinding (uuidText id) revision given caller)
      (hseen : ∃ r, SeenAs ok bindingType id r)
      (hprevious : ∃ r, SeenAs ok bindingType previousId r)
      (hreason : text "rollback reason" value maxText = .ok reason) :
      Prepared ok ctx call (.rollback ctx id revision previousId reason draft)

end

section

variable [PythonLibrary] {ok : (q : StateQuery) → q.Answer → Prop}
  (hok : ∀ id r, ok (.record id) (some r) → r.id = id)

/-! ## What has been read -/

theorem requireRecord_all (recordId : Text) (recordType : String) :
    (requireRecord recordId recordType).All ok fun r =>
      ∃ id, recordId = uuidText id ∧ SeenAs ok recordType id r :=
  .bind (.lift fun _ h => Json.str.inj (identifier_eq_ok.1 h)) fun id hid =>
    .bind (.read fun _ h => h) fun _ hrow =>
    .bind (.lift fun _ h => orFail_eq_ok.1 h) fun _ hr =>
    .bind (.lift fun _ h => ensure_eq_ok.1 h) fun _ htype =>
    .pure ⟨id, hid, hr ▸ hrow, htype⟩

theorem getBinding_all (recordId : Text) : (getBinding recordId).All ok fun info =>
    ∃ id r, recordId = uuidText id ∧ SeenAs ok bindingType id r ∧ bindingFromRecord r = .ok info :=
  .bind (requireRecord_all recordId bindingType) fun _ hr => .lift fun _ hinfo => by
    obtain ⟨id, hid, hseen⟩ := hr
    exact ⟨id, _, hid, hseen, hinfo⟩

include hok in
theorem activeForScope_all (scopeType scopeKey : Text) (excludeId : Option Text) :
    (activeForScope scopeType scopeKey excludeId).All ok fun active =>
      ∀ info ∈ active, ∃ r, SeenAs ok bindingType info.envelope.id r := by
  refine .after _ fun rows => .bind (m := fun active => ∀ info ∈ active,
    ∃ r, SeenAs ok bindingType info.envelope.id r) (.collected fun text _ => ?_)
    fun active hactive => .after _ fun _ => .pure ?_
  · refine .mono (fun _ _ h => h) (fun info h => ?_) (getBinding_all text)
    obtain ⟨id, r, -, hseen, hinfo⟩ := h
    have hid : info.envelope.id = id := by
      rw [(content_of_bindingFromRecord hinfo).1]
      exact hok id r hseen.1
    rw [hid]
    exact ⟨r, hseen⟩
  · exact fun info hinfo => hactive info (List.mem_of_mem_head? hinfo)

section

variable [ModuleRules]

theorem envelope_of_runtimeFromRecord {r : RecordEnvelope}
    {info : RuntimeManifestInfo} (h : runtimeFromRecord r = .ok info) : info.envelope = .of r := by
  obtain ⟨-, h⟩ := check_bind_eq_ok.1 (catching_eq_ok.1 h)
  obtain ⟨_, -, h⟩ := bind_eq_ok.1 h
  obtain ⟨_, -, h⟩ := bind_eq_ok.1 h
  obtain rfl := pure_eq_ok.1 h
  rfl

/-- A runtime manifest was read. -/
theorem getRuntime_all (recordId : Text) : (getRuntime recordId).All ok fun info =>
    ∃ r, Seen ok r ∧ info.envelope = .of r :=
  .bind (requireRecord_all recordId runtimeType) fun r hr => .lift fun info hinfo => by
    obtain ⟨id, -, hseen, -⟩ := hr
    exact ⟨r, ⟨id, hseen⟩, envelope_of_runtimeFromRecord hinfo⟩

variable [CaseLibrary]

omit [ModuleRules] in
theorem envelope_of_modelFromRecord {r : RecordEnvelope} {info : ModelManifestInfo}
    (h : modelFromRecord r = .ok info) : info.envelope = .of r := by
  obtain ⟨-, h⟩ := check_bind_eq_ok.1 (catching_eq_ok.1 h)
  obtain ⟨_, -, h⟩ := bind_eq_ok.1 h
  obtain rfl := pure_eq_ok.1 h
  rfl

omit [ModuleRules] in
/-- A model manifest was read. -/
theorem getModel_all (recordId : Text) : (getModel recordId).All ok fun info =>
    ∃ r, Seen ok r ∧ info.envelope = .of r :=
  .bind (requireRecord_all recordId modelType) fun r hr => .lift fun info hinfo => by
    obtain ⟨id, -, hseen, -⟩ := hr
    exact ⟨r, ⟨id, hseen⟩, envelope_of_modelFromRecord hinfo⟩

theorem activationManifests_all (binding : BindingContent) :
    (activationManifests binding).All ok fun manifests =>
      (∃ r, Seen ok r ∧ manifests.1.envelope = .of r) ∧
        ∃ r, Seen ok r ∧ manifests.2.envelope = .of r :=
  .bind (getRuntime_all _) fun _ hruntime => .bind (getModel_all _) fun _ hmodel =>
    .after _ fun _ => .pure ⟨hruntime, hmodel⟩

/-! ## What is written -/

omit [PythonLibrary] [CaseLibrary] in
theorem createRecord_eq_ok {ctx : Context} {recordType : String} {title : Text}
    {metadata : Metadata} {creator : Creator} {action : String} {w : Write}
    (h : createRecord ctx recordType title metadata creator action = .ok w) :
    ∃ row draft, w = .create row draft ∧ row.recordType = recordType ∧ row.schemaVersion = 1 ∧
      row.revision = 1 ∧ row.status = .active ∧ row.metadata = metadata ∧ row.title = some title := by
  obtain ⟨-, h⟩ := check_bind_eq_ok.1 h
  obtain ⟨-, h⟩ := check_bind_eq_ok.1 h
  obtain ⟨-, h⟩ := check_bind_eq_ok.1 h
  exact ⟨_, _, (pure_eq_ok.1 h).symm, rfl, rfl, rfl, rfl, rfl, rfl⟩

omit [CaseLibrary] in
theorem prepared_of_createManifest {ctx : Context} {call : Call} {kind : ManifestKind} {title : Text}
    {metadata : Metadata} {creator : Creator} {action : String} {w : Write}
    (h : createRecord ctx kind.recordType title metadata creator action = .ok w) :
    Prepared ok ctx call w := by
  obtain ⟨row, draft, rfl, htype, -, hrevision, -⟩ := createRecord_eq_ok h
  refine .created hrevision fun hbinding => ?_
  rw [htype] at hbinding
  cases kind <;> exact absurd hbinding (by decide)

include hok in
omit [CaseLibrary] in
/-- The end of every change: the row is read once more, and its new metadata is written. -/
theorem prepared_of_update {ctx : Context} {call : Call} {recordId : Text} {expectedRevision : Int}
    {metadata : Metadata} {provenance : RecordProvenance} {caller : Caller} {action : String}
    (h : ∀ id draft, recordId = uuidText id → Prepared ok ctx call
      (.update id expectedRevision metadata provenance ctx.now draft)) :
    (prepareUpdate ctx recordId expectedRevision metadata provenance caller action).All ok
      (Prepared ok ctx call) := by
  refine .after _ fun _ => .bind (getRecordText_all_id recordId) fun record hrecord => .pure ?_
  obtain ⟨id, hid, hseen⟩ := hrecord
  exact hok id record hseen ▸ h id _ hid

omit [CaseLibrary] in
theorem createRuntime_all (ctx : Context) (args : RuntimeArgs) (creator : Creator) {call : Call} :
    (monadLift (createRuntime ctx args creator) : Reader Write).All ok (Prepared ok ctx call) :=
  .lift fun w h => by
    iterate 10 obtain ⟨_, -, h⟩ := bind_eq_ok.1 h
    exact @prepared_of_createManifest _ _ _ _ _ .runtime _ _ _ _ _ h

theorem createModel_all (ctx : Context) (args : ModelArgs) (creator : Creator) {call : Call} :
    (createModel ctx args creator).All ok (Prepared ok ctx call) := by
  rw [createModel]
  refine .after _ fun runtime => .after _ fun _ => .after _ fun locator => .after _ fun name =>
    .after _ fun revision => .after _ fun checksums => .after _ fun references => ?_
  refine .after _ fun license => .after _ fun format => .after _ fun size => .after _ fun limit =>
    .after _ fun capabilities => .after _ fun platforms => .after _ fun compatibility => ?_
  exact .lift fun w h => @prepared_of_createManifest _ _ _ _ _ .model _ _ _ _ _ h

theorem createBinding_all (ctx : Context)
    (scopeType scopeKeyText runtimeManifestId modelManifestId : Text)
    (smokeTestStatus : SmokeTestStatus) (creator : Creator) {call : Call} :
    (createBinding ctx scopeType scopeKeyText runtimeManifestId modelManifestId smokeTestStatus
      creator).All ok (Prepared ok ctx call) := by
  rw [createBinding]
  refine .bind (getRuntime_all runtimeManifestId) fun runtime hruntime => ?_
  refine .bind (getModel_all modelManifestId) fun model hmodel => .after _ fun _ => ?_
  refine .bind (.lift fun _ h => token_eq_ok.1 h) fun scopeType hscopeType => ?_
  refine .bind (.lift fun _ h => scopeKey_str h) fun key hkey => .lift fun w hw => ?_
  obtain ⟨r, hr, hruntime⟩ := hruntime
  obtain ⟨m, hm, hmodel⟩ := hmodel
  obtain ⟨row, draft, rfl, htype, hschema, hrevision, hactive, hmetadata, -⟩ := createRecord_eq_ok hw
  refine .created hrevision fun _ => ⟨r, m, hr, hm, fun hrpos hmpos => ?_⟩
  rw [hruntime, hmodel] at hmetadata
  have hid : ∀ label (id : RecordId), identifier label (.str (uuidText id)) = .ok id :=
    fun _ _ => identifier_eq_ok.2 rfl
  have hsmoke : smokeState (.str smokeTestStatus.text) = .ok smokeTestStatus := by
    cases smokeTestStatus <;> rfl
  refine ⟨⟨scopeType, key, r.id, r.revision, m.id, m.revision, .candidate, none, [], none, none,
    false, none, none, smokeTestStatus⟩, rfl, htype, hschema, hactive, ?_, ?_⟩
  · rw [hmetadata]
    exact ⟨by simp [bindingKeys], by simp [bindingKeys, List.lookup]⟩
  · rw [hmetadata]
    constructor <;> simp [token_eq_ok, bindingState_eq_ok, flag_eq_ok, positiveInt_eq_ok,
      optional_null, Envelope.of, *]
    rfl

/-! ### Manifests -/

include hok in
omit [CaseLibrary] in
/-- The end of every change to a manifest. -/
theorem prepared_of_manifest (kind : ManifestKind) {ctx : Context} {call : Call} {recordId : Text}
    {expectedRevision : Int} {metadata : Metadata} {provenance : RecordProvenance} {caller : Caller}
    {action : String}
    {r : RecordEnvelope} (h : ∃ id, recordId = uuidText id ∧ SeenAs ok kind.recordType id r) :
    (prepareUpdate ctx recordId expectedRevision metadata provenance caller action).All ok
      (Prepared ok ctx call) := by
  obtain ⟨id, hid, hseen⟩ := h
  refine prepared_of_update hok fun id' draft hid' => ?_
  obtain rfl := uuidText_injective (hid.symm.trans hid')
  exact .manifest kind hseen

include hok in
omit [CaseLibrary] in
theorem verifyRuntime_all (ctx : Context) (manifestId : Text) (expectedRevision : Int)
    (evidence : List Text) (caller : Caller) {call : Call} :
    (verifyRuntime ctx manifestId expectedRevision evidence caller).All ok (Prepared ok ctx call) := by
  rw [verifyRuntime]
  refine .after _ fun _ => .after _ fun _ => .after _ fun _ => .after _ fun _ => ?_
  refine .bind (requireRecord_all manifestId runtimeType) fun record hr => .after _ fun _ => ?_
  exact prepared_of_manifest hok .runtime hr

include hok in
theorem reviewModelLicense_all (ctx : Context) (manifestId : Text) (expectedRevision : Int)
    (reviewState : LicenseReviewState) (caller : Caller) {call : Call} :
    (reviewModelLicense ctx manifestId expectedRevision reviewState caller).All ok
      (Prepared ok ctx call) := by
  rw [reviewModelLicense]
  refine .after _ fun _ => .after _ fun _ => .after _ fun _ => .after _ fun _ => ?_
  exact .bind (requireRecord_all manifestId modelType) fun record hr =>
    prepared_of_manifest hok .model hr

include hok in
theorem verifyModel_all (ctx : Context) (manifestId : Text) (expectedRevision : Int)
    (evidence : List Text) (caller : Caller) {call : Call} :
    (verifyModel ctx manifestId expectedRevision evidence caller).All ok (Prepared ok ctx call) := by
  rw [verifyModel]
  refine .after _ fun _ => .after _ fun _ => .after _ fun _ => .after _ fun _ => .after _ fun _ =>
    .after _ fun _ => .after _ fun _ => ?_
  refine .bind (requireRecord_all manifestId modelType) fun record hr => .after _ fun _ => ?_
  exact prepared_of_manifest hok .model hr

include hok in
omit [CaseLibrary] in
theorem quarantine_all (ctx : Context) (kind : ManifestKind) (manifestId : Text)
    (expectedRevision : Int) (reason : Text) (caller : Caller) {call : Call} :
    (quarantine ctx kind manifestId expectedRevision reason caller).All ok
      (Prepared ok ctx call) := by
  rw [quarantine]
  refine .after _ fun _ => .bind (requireRecord_all manifestId kind.recordType) fun record hr =>
    .after _ fun _ => .after _ fun _ => ?_
  exact prepared_of_manifest hok kind hr

include hok in
omit [CaseLibrary] in
theorem setManifestInactive_all (ctx : Context) (kind : ManifestKind) (manifestId : Text)
    (expectedRevision : Int) (state : ManifestState) (caller : Caller) {call : Call} :
    (setManifestInactive ctx kind manifestId expectedRevision state caller).All ok
      (Prepared ok ctx call) := by
  rw [setManifestInactive]
  refine .bind (requireRecord_all manifestId kind.recordType) fun record hr => .after _ fun _ => ?_
  exact prepared_of_manifest hok kind hr

/-! ### Bindings -/

include hok in
omit [CaseLibrary] in
/-- The end of every change to one binding: the metadata that was read before is written back, with
the call's own fields set. -/
theorem prepared_of_alters {ctx : Context} {call : Call} {recordId : Text} {expectedRevision : Int}
    {changes : List (String × Json)} {provenance : RecordProvenance} {caller : Caller}
    {action : String} (h : ∀ id, recordId = uuidText id → Alters call id changes) :
    (do
      let record ← requireRecord recordId bindingType
      prepareUpdate ctx recordId expectedRevision (setAll record.metadata changes) provenance caller
        action : Reader Write).All ok (Prepared ok ctx call) := by
  refine .bind (requireRecord_all recordId bindingType) fun r hr => ?_
  obtain ⟨id, hid, hseen⟩ := hr
  refine prepared_of_update hok fun id' draft hid' => ?_
  obtain rfl := uuidText_injective (hid.symm.trans hid')
  exact .binding hseen (h id hid)

include hok in
omit [CaseLibrary] in
theorem setSmokeTest_all (ctx : Context) (bindingId : Text) (expectedRevision : Int)
    (status : SmokeTestStatus) (caller : Caller) :
    (setSmokeTest ctx bindingId expectedRevision status caller).All ok
      (Prepared ok ctx (.setSmokeTest bindingId expectedRevision status caller)) := by
  rw [setSmokeTest]
  refine .after _ fun _ => prepared_of_alters hok fun id hid => ?_
  subst hid
  exact .smokeTest

include hok in
theorem setFallback_all (ctx : Context) (bindingId : Text) (expectedRevision priority : Int)
    (caller : Caller) : (setFallback ctx bindingId expectedRevision priority caller).All ok
      (Prepared ok ctx (.setFallback bindingId expectedRevision priority caller)) := by
  rw [setFallback]
  refine .after _ fun _ => .after _ fun _ => .after _ fun _ => .after _ fun _ => .after _ fun _ => ?_
  refine .bind (.lift fun _ h => ensure_eq_ok.1 h) fun _ hpriority => ?_
  refine prepared_of_alters hok fun id hid => ?_
  subst hid
  exact .fallback hpriority.1

include hok in
omit [CaseLibrary] in
theorem disableBinding_all (ctx : Context) (bindingId : Text) (expectedRevision : Int)
    (caller : Caller) : (disableBinding ctx bindingId expectedRevision caller).All ok
      (Prepared ok ctx (.disableBinding bindingId expectedRevision caller)) := by
  rw [disableBinding]
  refine .after _ fun _ => .after _ fun _ => .after _ fun _ => prepared_of_alters hok fun id hid => ?_
  subst hid
  exact .disabled

variable [DigestLibrary]

include hok in
theorem activateBinding_all (ctx : Context) (bindingId : Text) (expectedRevision : Int)
    (evidence : List Text) (caller : Caller) :
    (activateBinding ctx bindingId expectedRevision evidence caller).All ok
      (Prepared ok ctx (.activateBinding bindingId expectedRevision evidence caller)) := by
  rw [activateBinding]
  refine .after _ fun _ => .bind (getBinding_all bindingId) fun candidate hcandidate => ?_
  refine .after _ fun _ => .after _ fun _ => ?_
  refine .bind (activationManifests_all candidate.content) fun manifests hmanifests => ?_
  refine .bind (m := fun ids => identifiers "evidence IDs" (evidence.map .str) = .ok ids)
    (.bind (.lift fun _ h => h) fun ids hids => .after _ fun _ => .pure hids) fun ids hids => ?_
  refine .bind (activeForScope_all hok _ _ _) fun currentActive hcurrent => .after _ fun _ =>
    .pure ?_
  obtain ⟨id, r, rfl, hseen, hread⟩ := hcandidate
  obtain ⟨⟨runtime, hruntime, hruntimeId⟩, model, hmodel, hmodelId⟩ := hmanifests
  have hid : candidate.envelope.id = id := by
    rw [(content_of_bindingFromRecord hread).1]
    exact hok id r hseen.1
  rw [hid, hruntimeId, hmodelId]
  refine .activated rfl ⟨r, hseen⟩ hruntime hmodel hids fun previousId hprevious => ?_
  obtain ⟨active, hactive, rfl⟩ := Option.mem_map.1 hprevious
  exact hcurrent active hactive

include hok in
theorem rollbackBinding_all (ctx : Context) (bindingId : Text) (expectedRevision : Int)
    (reason : Text) (caller : Caller) :
    (rollbackBinding ctx bindingId expectedRevision reason caller).All ok
      (Prepared ok ctx (.rollbackBinding bindingId expectedRevision reason caller)) := by
  rw [rollbackBinding]
  refine .after _ fun _ => .bind (getBinding_all bindingId) fun active hactive => .after _ fun _ => ?_
  refine .after _ fun previousId => .bind (getBinding_all _) fun previous hprevious => ?_
  refine .after _ fun _ => .after _ fun _ => .bind (.lift fun _ h => h) fun reason hreason =>
    .after _ fun _ => .pure ?_
  obtain ⟨id, r, rfl, hseen, hread⟩ := hactive
  obtain ⟨id', r', hid', hseen', -⟩ := hprevious
  have hid : active.envelope.id = id := by
    rw [(content_of_bindingFromRecord hread).1]
    exact hok id r hseen.1
  obtain rfl := uuidText_injective hid'
  rw [hid]
  exact .rolledBack rfl ⟨r, hseen⟩ ⟨r', hseen'⟩ hreason

include hok in
/-- What a call has read and what it is going to write. -/
theorem Call.prepare_all (ctx : Context) (call : Call) :
    (Call.prepare (ctx, call)).All ok (Prepared ok ctx call) := by
  cases call with
  | createRuntime args creator => exact createRuntime_all ctx args creator
  | createModel args creator => exact createModel_all ctx args creator
  | createBinding => exact createBinding_all ctx _ _ _ _ _ _
  | verifyRuntime => exact verifyRuntime_all hok ctx _ _ _ _
  | reviewModelLicense => exact reviewModelLicense_all hok ctx _ _ _ _
  | verifyModel => exact verifyModel_all hok ctx _ _ _ _
  | quarantine => exact quarantine_all hok ctx _ _ _ _ _
  | deprecateManifest kind =>
    unfold Call.prepare Model.deprecateManifest
    exact .after _ fun _ => setManifestInactive_all hok ctx kind _ _ _ _
  | markUnavailable kind =>
    unfold Call.prepare Model.markUnavailable
    exact .after _ fun _ => setManifestInactive_all hok ctx kind _ _ _ _
  | setSmokeTest => exact setSmokeTest_all hok ctx _ _ _ _
  | activateBinding => exact activateBinding_all hok ctx _ _ _ _
  | setFallback => exact setFallback_all hok ctx _ _ _ _
  | disableBinding => exact disableBinding_all hok ctx _ _ _
  | rollbackBinding => exact rollbackBinding_all hok ctx _ _ _ _

end

end

/-! ## What a transaction does -/

/-- The active row with the identifier is replaced by one with other metadata, which the unique
index admits. -/
structure Rewrote (db : Database) (id : RecordId) (row : RecordEnvelope) (metadata : Metadata)
    (db' : Database) : Prop where
  found : db.find? id = some row
  active : row.status = .active
  written : ∃ provenance now, db.Writes (updatedRow metadata provenance now row) db' ∧
    uniqueScope (updatedRow metadata provenance now row) db'

theorem uniqueScope_of_find? {row : RecordEnvelope} {db db' : Database} (h : uniqueScope row db)
    (hsame : ∀ id, db'.find? id = db.find? id) : uniqueScope row db' := by
  intro scope hscope r hr hne
  refine h scope hscope r ?_ hne
  exact Database.mem_iff_find?.2 (hsame r.id ▸ Database.mem_iff_find?.1 hr)

theorem Rewrote.of_find? {db db' db'' : Database} {id : RecordId} {row : RecordEnvelope}
    {metadata : Metadata} (h : Rewrote db id row metadata db')
    (hsame : ∀ id, db''.find? id = db'.find? id) : Rewrote db id row metadata db'' := by
  obtain ⟨provenance, now, hwrites, hunique⟩ := h.written
  refine ⟨h.found, h.active, provenance, now, fun id' => ?_, uniqueScope_of_find? hunique hsame⟩
  rw [hsame, hwrites]

theorem sqlUpdateRecord_rewrote {id : RecordId} {metadata : Metadata}
    {provenance : RecordProvenance} {revision : Int} {now : Text} {db db' : Database}
    (h : sqlUpdateRecord id metadata provenance revision now db = .ok db') :
    ∃ row, row.revision = revision ∧ Rewrote db id row metadata db' := by
  obtain ⟨changed, hchanged, h⟩ := bind_eq_ok.1 h
  obtain ⟨hunique, h⟩ := check_bind_eq_ok.1 h
  obtain rfl := pure_eq_ok.1 h
  have hset : ∀ r, (updatedRow metadata provenance now r).id = r.id := fun _ => rfl
  obtain ⟨row, hrow, ⟨hrevision, hactive⟩, hfind⟩ :=
    Database.find?_updateWhere hset (orFail_eq_ok.1 hchanged)
  have hid := (hset row).trans (Database.id_of_find? hrow)
  refine ⟨row, hrevision, hrow, hactive, provenance, now, fun id' => ?_, ?_⟩
  · rw [hfind, hid]
  · refine ensure_eq_ok.1 hunique _ ?_
    rw [hfind, if_pos rfl]
    exact rfl

theorem refreshed_eq_ok {id : RecordId} {revision : Int} {db : Database} {row : RecordEnvelope} :
    refreshed id revision db = .ok row ↔ db.find? id = some row ∧ row.revision = revision := by
  unfold refreshed
  rw [bind_eq_ok]
  constructor
  · rintro ⟨r, hr, h⟩
    obtain ⟨hrevision, h⟩ := check_bind_eq_ok.1 h
    obtain rfl := pure_eq_ok.1 h
    exact ⟨Database.getRecord_eq_ok.1 hr, ensure_eq_ok.1 hrevision⟩
  · rintro ⟨hr, hrevision⟩
    exact ⟨row, Database.getRecord_eq_ok.2 hr, check_bind_eq_ok.2 ⟨ensure_eq_ok.2 hrevision, rfl⟩⟩

section

variable [ModuleRules]

theorem updateOne_rewrote {id : RecordId} {revision : Int} {metadata : Metadata}
    {provenance : RecordProvenance} {now : Text} {draft : AuditDraft} {db db' : Database}
    (h : updateOne id revision metadata provenance now draft db = .ok db') :
    ∃ row, row.revision = revision ∧ Rewrote db id row metadata db' := by
  obtain ⟨_, -, h⟩ := bind_eq_ok.1 h
  obtain ⟨db₁, h₁, h⟩ := bind_eq_ok.1 h
  obtain ⟨db₂, h₂, h⟩ := bind_eq_ok.1 h
  obtain rfl := pure_eq_ok.1 h
  obtain ⟨row, hrevision, hrewrote⟩ := sqlUpdateRecord_rewrote h₁
  exact ⟨row, hrevision, hrewrote.of_find? fun id => find?_insertAudit h₂ id⟩

/-- What becomes of the binding that was active, if there is one. -/
def Demoted (currentActive : Option RecordId) (db db' : Database) : Prop :=
  match currentActive with
  | none => db' = db
  | some previousId =>
    ∃ previous, Rewrote db previousId previous (setAll previous.metadata demotion) db'

omit [ModuleRules] in
theorem demote_demoted {ctx : Context} {currentActive : Option RecordId} {db db' : Database}
    (h : demote ctx currentActive db = .ok db') : Demoted currentActive db db' := by
  cases currentActive with
  | none => exact (Except.ok.inj h).symm
  | some previousId =>
    obtain ⟨previous, hprevious, h⟩ := bind_eq_ok.1 h
    obtain ⟨row, -, hrewrote⟩ := sqlUpdateRecord_rewrote h
    obtain rfl : previous = row := Option.some.inj
      ((Database.getRecord_eq_ok.1 hprevious).symm.trans hrewrote.found)
    exact ⟨previous, hrewrote⟩

/-- An activation changes its own binding after the one that was active, which is another one. -/
theorem activate_rewrote {ctx : Context} {id : RecordId} {revision runtimeRevision modelRevision : Int}
    {evidence : List RecordId} {currentActive : Option RecordId} {draft : AuditDraft}
    {db db' : Database}
    (h : (Write.activate ctx id revision runtimeRevision modelRevision evidence currentActive
      draft).commit db = .ok db') :
    ∃ row db₁, row.revision = revision ∧ db.find? id = some row ∧ Demoted currentActive db db₁ ∧
      Rewrote db₁ id row (setAll row.metadata
        (promotion runtimeRevision modelRevision ctx.activatedAt evidence currentActive)) db' := by
  have h := catching_eq_ok.1 h
  obtain ⟨row, hrow, h⟩ := bind_eq_ok.1 h
  obtain ⟨db₁, h₁, h⟩ := bind_eq_ok.1 h
  obtain ⟨db₂, h₂, h⟩ := bind_eq_ok.1 h
  obtain ⟨db₃, h₃, h⟩ := bind_eq_ok.1 h
  obtain rfl := pure_eq_ok.1 h
  obtain ⟨hfound, hrevision⟩ := refreshed_eq_ok.1 hrow
  obtain ⟨row', hrevision', hrewrote⟩ := sqlUpdateRecord_rewrote h₂
  have hdemoted := demote_demoted h₁
  -- the row is still the one that was read, so the demotion was of another one
  have hsame : row' = row := by
    cases currentActive with
    | none =>
      obtain rfl : db₁ = db := hdemoted
      exact Option.some.inj (hrewrote.found.symm.trans hfound)
    | some previousId =>
      obtain ⟨previous, hprevious⟩ := hdemoted
      obtain ⟨_, _, hwrites, -⟩ := hprevious.written
      have hfind := hwrites id
      rw [hrewrote.found] at hfind
      split at hfind
      · rename_i hid
        have hprevious := hprevious.found
        rw [← Database.id_of_find? hprevious] at hprevious
        change previous.id = id at hid
        rw [hid, hfound] at hprevious
        cases hprevious
        cases hfind
        change row.revision + 1 = revision at hrevision'
        omega
      · exact Option.some.inj (hfind.trans hfound)
  subst hsame
  exact ⟨row', db₁, hrevision, hfound, hdemoted, hrewrote.of_find? fun id => find?_insertAudit h₃ id⟩

/-- A rollback changes its own binding and then the one it restores, which is another one. -/
theorem rollback_rewrote {ctx : Context} {id previousId : RecordId} {revision : Int} {reason : Text}
    {draft : AuditDraft} {db db' : Database}
    (h : (Write.rollback ctx id revision previousId reason draft).commit db = .ok db') :
    ∃ row previous db₁, row.revision = revision ∧ db.find? previousId = some previous ∧
      Rewrote db id row (setAll row.metadata (withdrawal previousId reason)) db₁ ∧
      Rewrote db₁ previousId previous (setAll previous.metadata (restoration ctx.activatedAt)) db' := by
  obtain ⟨row, hrow, h⟩ := bind_eq_ok.1 h
  obtain ⟨previous, hprevious, h⟩ := bind_eq_ok.1 h
  obtain ⟨db₁, h₁, h⟩ := bind_eq_ok.1 h
  obtain ⟨db₂, h₂, h⟩ := bind_eq_ok.1 h
  obtain ⟨db₃, h₃, h⟩ := bind_eq_ok.1 h
  obtain rfl := pure_eq_ok.1 h
  obtain ⟨hfound, hrevision⟩ := refreshed_eq_ok.1 hrow
  have hprevious := Database.getRecord_eq_ok.1 hprevious
  obtain ⟨row', -, hrewrote⟩ := sqlUpdateRecord_rewrote h₁
  obtain ⟨previous', hrevision', hrewrote'⟩ := sqlUpdateRecord_rewrote h₂
  obtain rfl : row' = row := Option.some.inj (hrewrote.found.symm.trans hfound)
  have hsame : previous' = previous := by
    obtain ⟨_, _, hwrites, -⟩ := hrewrote.written
    have hfind := hwrites previousId
    rw [hrewrote'.found] at hfind
    split at hfind
    · rename_i hid
      change row'.id = previousId at hid
      rw [← hid, Database.id_of_find? hfound, hfound] at hprevious
      cases hprevious
      cases hfind
      change previous.revision + 1 = previous.revision at hrevision'
      omega
    · exact Option.some.inj (hfind.trans hprevious)
  subst hsame
  exact ⟨row', previous', db₁, hrevision, hprevious, hrewrote,
    hrewrote'.of_find? fun id => find?_insertAudit h₃ id⟩

end

end DollState.Model
