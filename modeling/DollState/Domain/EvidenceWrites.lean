import DollState.Domain.Evidence
import DollState.Domain.ProjectLinks

/-!
# What the calls on evidence write

A review replaces the review fields of a record and an archival its status, so evidence that could be
read before such a call can be read after it (`Call.puts`).
-/

namespace DollState

open StateLib

/-- The row is put in place of none, or of one of its type and sensitivity. -/
structure Database.Puts (db : Database) (row : RecordEnvelope) (db' : Database) : Prop where
  writes : db.Writes row db'
  recordType : ∀ r, db.find? row.id = some r → r.recordType = row.recordType
  sensitivity : ∀ r, db.find? row.id = some r → r.sensitivity = row.sensitivity

namespace Database.Puts

variable {db db' : Database} {row : RecordEnvelope}

theorem find?_self (h : db.Puts row db') : db'.find? row.id = some row := by
  rw [h.writes row.id, if_pos rfl]

theorem find?_of_ne (h : db.Puts row db') {id : RecordId} (hne : id ≠ row.id) :
    db'.find? id = db.find? id := by
  rw [h.writes id, if_neg (Ne.symm hne)]

theorem of_created (hwrites : db.Writes row db') (hfree : db.find? row.id = none) :
    db.Puts row db' where
  writes := hwrites
  recordType r hr := by
    rw [hfree] at hr
    cases hr
  sensitivity r hr := by
    rw [hfree] at hr
    cases hr

/-- A record that meets a condition still does if the row meets it in the place of a record that
does. -/
theorem has (h : db.Puts row db') {id : RecordId} {P : RecordEnvelope → Prop}
    (hrow : ∀ r, db.find? row.id = some r → P r → id = row.id → P row) (hhas : db.Has id P) :
    db'.Has id P := by
  obtain ⟨r, hr, hP⟩ := hhas
  by_cases hid : id = row.id
  · exact ⟨row, hid ▸ h.find?_self, hrow r (hid ▸ hr) hP hid⟩
  · exact ⟨r, (h.find?_of_ne hid).trans hr, hP⟩

end Database.Puts

namespace Truth

/-! ## Review fields -/

/-- The keys of the review fields. -/
def reviewKeys : List String := ["review_state", "reviewed_at", "reviewer_actor_type", "review_note"]

theorem get_updated (metadata values : Metadata) {key : String} (h : key ∉ values.map (·.1)) :
    (updated metadata values).get key = metadata.get key := by
  rw [updated]
  induction values generalizing metadata with
  | nil => rfl
  | cons entry values ih =>
    rw [List.map_cons, List.mem_cons, not_or] at h
    rw [List.foldl_cons, ih _ h.2, Metadata.get_set, if_neg h.1]

theorem get_reviewed (metadata : Metadata) (r : Review) {key : String} (h : key ∉ reviewKeys) :
    (updated metadata r.metadata).get key = metadata.get key := get_updated metadata r.metadata h

theorem required_reviewed (metadata : Metadata) (r : Review) {key : String} (h : key ∉ reviewKeys) :
    required (updated metadata r.metadata) key = required metadata key := by
  rw [required, required, get_reviewed metadata r h]

theorem optionalString_reviewed (metadata : Metadata) (r : Review) {key : String}
    (h : key ∉ reviewKeys) :
    optionalString (updated metadata r.metadata) key = optionalString metadata key := by
  rw [optionalString, optionalString, get_reviewed metadata r h]

/-- The review fields after an update. -/
theorem get_review (metadata : Metadata) (r : Review) :
    (updated metadata r.metadata).get "review_state" = .str r.state.name.toList ∧
      (updated metadata r.metadata).get "reviewed_at" = Json.ofText? r.reviewedAt ∧
      (updated metadata r.metadata).get "reviewer_actor_type" = Json.ofText? r.reviewerActorType ∧
      (updated metadata r.metadata).get "review_note" = Json.ofText? r.note := by
  simp [updated, Review.metadata, Metadata.get_set]

theorem optionalString_of_get {metadata : Metadata} {key : String} {value : Option Text}
    (h : metadata.get key = Json.ofText? value) : optionalString metadata key = .ok value := by
  rw [optionalString, h]
  cases value <;> rfl

theorem named_name {state : ReviewState} :
    named ReviewState.all ReviewState.name "invalid review state" state.name.toList = .ok state := by
  cases state <;> rfl

section

variable [PythonLibrary] [CaseLibrary] [UtcLibrary] [Audit.AuditRules]

omit [UtcLibrary] [Audit.AuditRules] in
theorem metadataReferenceIds_reviewed (metadata : Metadata) (r : Review) {key : String}
    (h : key ∉ reviewKeys) :
    metadataReferenceIds (updated metadata r.metadata) key = metadataReferenceIds metadata key := by
  rw [metadataReferenceIds, metadataReferenceIds, metadataValues, metadataValues,
    get_reviewed metadata r h]

omit [CaseLibrary] [UtcLibrary] in
theorem validateOptionalText_idem {name name' : String} {value text : Option Text} {maximum : Nat}
    (h : validateOptionalText name value maximum = .ok text) :
    validateOptionalText name' text maximum = .ok text := by
  cases value with
  | none =>
    cases h
    rfl
  | some v =>
    obtain ⟨safe, hsafe, h⟩ := bind_eq_ok.1 h
    cases h
    rw [validateOptionalText, optionally, validateText,
      safeWords_idem (safeWords_eq_ok.1 hsafe).2]
    rfl

omit [CaseLibrary] in
/-- What `_initial_review_values` returns can be read back, if the time of the call is one. -/
theorem exists_readReview {now : Text} {actor : TruthActor} {reviewState : Text}
    {note : Option Text} {r : Review} (metadata : Metadata)
    (hnow : (validateOptionalUtc "reviewed time" (some now)).isOk = true)
    (h : initialReview now actor reviewState note = .ok r) :
    ∃ r', readReview (updated metadata r.metadata) = .ok r' := by
  obtain ⟨hstate, hat, hreviewer, hnote⟩ := get_review metadata r
  obtain ⟨state, hparsed, h⟩ := bind_eq_ok.1 h
  obtain ⟨note', hnote', h⟩ := bind_eq_ok.1 h
  obtain ⟨-, h⟩ := check_bind_eq_ok.1 h
  have hread : readReview (updated metadata r.metadata) =
      (validateOptionalUtc "reviewed time" r.reviewedAt >>= fun reviewedAt =>
        validateOptionalText "review note" r.note maxReviewNoteLength >>= fun note =>
        if r.state = .unreviewed then do
          ensure (reviewedAt = none ∧ r.reviewerActorType = none ∧ note = none)
            (invalid "unreviewed record contains review metadata")
          return { state := r.state, reviewedAt := none, reviewerActorType := none, note := none }
        else do
          ensure (reviewedAt ≠ none ∧ r.reviewerActorType = some "user".toList)
            (invalid "reviewed record lacks user review provenance")
          return { state := r.state, reviewedAt, reviewerActorType := r.reviewerActorType, note }) := by
    rw [readReview, required, hstate]
    simp only [ok_bind, named_name, optionalString_of_get hat, optionalString_of_get hreviewer,
      optionalString_of_get hnote]
  rw [hread]
  split at h
  · obtain ⟨hnone, h⟩ := check_bind_eq_ok.1 h
    cases h
    exact ⟨_, rfl⟩
  · rename_i hreviewed
    cases h
    obtain ⟨at?, hat?⟩ := exists_of_isOk hnow
    obtain ⟨text, htext, hsome⟩ := bind_eq_ok.1 hat?
    cases hsome
    refine ⟨⟨state, some text, some "user".toList, note'⟩, bind_eq_ok.2 ⟨some text, hat?, ?_⟩⟩
    refine bind_eq_ok.2 ⟨note', validateOptionalText_idem hnote', ?_⟩
    rw [if_neg hreviewed]
    exact check_bind_eq_ok.2 ⟨ensure_of ⟨Option.some_ne_none _, rfl⟩ _, rfl⟩

/-- Metadata stay readable when their review fields are replaced by readable ones. -/
theorem exists_readContent {title? : Option Text} {provenance : RecordProvenance}
    {metadata : Metadata} {r : Review} {c : EvidenceContent}
    (hreview : ∃ r', readReview (updated metadata r.metadata) = .ok r')
    (h : readContent title? provenance metadata = .ok c) :
    ∃ c', readContent title? provenance (updated metadata r.metadata) = .ok c' := by
  obtain ⟨r', hr'⟩ := hreview
  have hsource : readSource (updated metadata r.metadata) = readSource metadata := by
    have hkeys : ∀ key ∈ ["origin_type", "creator_actor_type", "source_identifier", "observed_at",
        "source_content_hash", "transformation_method", "model_manifest_id", "runtime_adapter_id",
        "session_id", "origin_operation_id"], key ∉ reviewKeys := by decide
    simp only [List.forall_mem_cons] at hkeys
    obtain ⟨h₁, h₂, h₃, h₄, h₅, h₆, h₇, h₈, h₉, h₁₀, -⟩ := hkeys
    rw [readSource, readSource, required_reviewed _ _ h₁, required_reviewed _ _ h₂,
      optionalString_reviewed _ _ h₃, optionalString_reviewed _ _ h₄,
      optionalString_reviewed _ _ h₅, optionalString_reviewed _ _ h₆,
      optionalString_reviewed _ _ h₇, optionalString_reviewed _ _ h₈,
      optionalString_reviewed _ _ h₉, optionalString_reviewed _ _ h₁₀]
  have hkeys : ∀ key ∈ ["title", "summary", "evidence_type", "supports_claim_ids",
      "contradicts_claim_ids", "contextualizes_claim_ids", "confidence", "uncertainty"],
      key ∉ reviewKeys := by decide
  simp only [List.forall_mem_cons] at hkeys
  obtain ⟨h₁, h₂, h₃, h₄, h₅, h₆, h₇, h₈, -⟩ := hkeys
  rw [readContent] at h ⊢
  rw [required_reviewed _ _ h₁, required_reviewed _ _ h₂, required_reviewed _ _ h₃,
    metadataReferenceIds_reviewed _ _ h₄, metadataReferenceIds_reviewed _ _ h₅,
    metadataReferenceIds_reviewed _ _ h₆, get_reviewed _ _ h₇, optionalString_reviewed _ _ h₈,
    hsource, hr']
  obtain ⟨title, htitle, h⟩ := bind_eq_ok.1 h
  obtain ⟨safeTitle, hsafeTitle, h⟩ := bind_eq_ok.1 h
  obtain ⟨hsame, h⟩ := check_bind_eq_ok.1 h
  obtain ⟨summary, hsummary, h⟩ := bind_eq_ok.1 h
  obtain ⟨safeSummary, hsafeSummary, h⟩ := bind_eq_ok.1 h
  obtain ⟨kind, hkind, h⟩ := bind_eq_ok.1 h
  obtain ⟨evidenceType, htype, h⟩ := bind_eq_ok.1 h
  obtain ⟨supports, hsupports, h⟩ := bind_eq_ok.1 h
  obtain ⟨contradicts, hcontradicts, h⟩ := bind_eq_ok.1 h
  obtain ⟨contextualizes, hcontextualizes, h⟩ := bind_eq_ok.1 h
  obtain ⟨hdisjoint, h⟩ := check_bind_eq_ok.1 h
  obtain ⟨hany, h⟩ := check_bind_eq_ok.1 h
  obtain ⟨confidence, hconfidence, h⟩ := bind_eq_ok.1 h
  obtain ⟨uncertain, huncertain, h⟩ := bind_eq_ok.1 h
  obtain ⟨uncertainty, huncertainty, h⟩ := bind_eq_ok.1 h
  obtain ⟨old, hold, h⟩ := bind_eq_ok.1 h
  obtain ⟨source, hreadSource, h⟩ := bind_eq_ok.1 h
  obtain ⟨hprovenance, -⟩ := check_bind_eq_ok.1 h
  simp only [htitle, hsafeTitle, hsame, hsummary, hsafeSummary, hkind, htype, hsupports,
    hcontradicts, hcontextualizes, hdisjoint, hany, hconfidence, huncertain, huncertainty,
    hreadSource, hprovenance, ok_bind]
  exact ⟨_, rfl⟩

/-- The record can be read as evidence. -/
def Readable (record : RecordEnvelope) : Prop := (evidenceFromRecord record).isOk = true

theorem readable_iff {record : RecordEnvelope} :
    Readable record ↔ ∃ c, readEvidence record = .ok c := by
  rw [Readable, evidenceFromRecord]
  constructor
  · intro h
    obtain ⟨c, hc⟩ := exists_of_isOk h
    exact ⟨c, catching_eq_ok.1 hc⟩
  · rintro ⟨c, hc⟩
    rw [catching_eq_ok.2 hc]
    rfl

/-- An update that leaves the title and the provenance alone, and whose metadata stays readable. -/
theorem Readable.apply {record : RecordEnvelope} {u : RecordUpdate} (h : Readable record)
    (hstatus : u.status = .active ∨ u.status = .archived) (hschema : u.schemaVersion = none)
    (hprovenance : u.provenance = none) (htitle : u.title = none)
    (hkind : u.metadata.get "truth_kind" = record.metadata.get "truth_kind")
    (hcontent : ∀ c, readContent record.title record.provenance record.metadata = .ok c →
      ∃ c', readContent record.title record.provenance u.metadata = .ok c') :
    Readable (u.apply record) := by
  rw [readable_iff] at h ⊢
  obtain ⟨c, h⟩ := h
  obtain ⟨htype, h⟩ := (check_bind_eq_ok.1 h).imp_left ensure_eq_ok.1
  obtain ⟨henvelope, h⟩ := check_bind_eq_ok.1 h
  obtain ⟨kind, hread, h⟩ := bind_eq_ok.1 h
  obtain ⟨hsame, h⟩ := check_bind_eq_ok.1 h
  obtain ⟨c', hc'⟩ := hcontent c h
  simp only [validateEnvelope, check_bind_eq_ok, ensure_eq_ok] at henvelope
  obtain ⟨hversion, hrevision, -, hprov⟩ := henvelope
  have hrequired : required u.metadata "truth_kind" = .ok kind := by
    rw [required, hkind]
    exact hread
  refine ⟨c', check_bind_eq_ok.2 ⟨ensure_of htype _, check_bind_eq_ok.2 ⟨?_, ?_⟩⟩⟩
  · simp only [validateEnvelope, check_bind_eq_ok, ensure_eq_ok, RecordUpdate.apply, hschema,
      hprovenance, Option.getD_none]
    exact ⟨hversion, hrevision.trans (Int.le_of_lt (Int.lt_succ _)), hstatus, hprov⟩
  · refine bind_eq_ok.2 ⟨kind, hrequired, check_bind_eq_ok.2 ⟨hsame, ?_⟩⟩
    simp only [RecordUpdate.apply, hprovenance, htitle, Option.getD_none]
    exact hc'

/-! ## The calls -/

/-- The call archives the record. -/
def Call.Archives (id : RecordId) : Call → Prop
  | .archive recordId .. => recordId = uuidText id
  | _ => False

/-- The types of the records that the calls write. -/
def recordTypes : List String := ["claim", "evidence", "inference", "trust_assessment"]

variable [ModuleRules] [TruthRules] {db db' : Database}

omit [ModuleRules] in
theorem currentRecord_on {recordId : Text} {types : List String} {record : RecordEnvelope} :
    (currentRecord recordId types).on db = .ok record →
      ∃ id, recordId = uuidText id ∧ db.find? id = some record ∧ record.recordType ∈ types ∧
        record.status = .active := by
  simp only [currentRecord, Reader.on, ReadProgram.run_bind, ReadProgram.run_lift, bind_eq_ok,
    getRecordText_on, ensure_eq_ok]
  rintro ⟨r, ⟨id, hid, hr⟩, -, htype, -, -, -, hactive, h⟩
  cases h
  exact ⟨id, hid, hr, htype, hactive⟩

omit [PythonLibrary] [CaseLibrary] [UtcLibrary] [Audit.AuditRules] [TruthRules] in
/-- What the transaction of an update leaves. -/
theorem puts_of_update {env : Surroundings} {record : RecordEnvelope} {expectedRevision : Int}
    {metadata : Metadata} {status : RecordStatus} {operation : Option Text} {change : String}
    {w : Write} (hrecord : db.find? record.id = some record)
    (h : updateTruthRecord env record expectedRevision metadata status operation change = .ok w)
    (hcommit : w.commit db = .ok db') :
    ∃ u : RecordUpdate, u.status = status ∧ u.schemaVersion = none ∧ u.provenance = none ∧
      u.title = none ∧ u.metadata = metadata ∧ db.Puts (u.apply record) db' := by
  obtain ⟨-, h⟩ := check_bind_eq_ok.1 h
  obtain ⟨_, -, h⟩ := bind_eq_ok.1 h
  obtain ⟨-, h⟩ := check_bind_eq_ok.1 h
  cases h
  obtain ⟨row, hrow, -, -, hwrites⟩ := updateTransaction_writes hcommit
  obtain rfl : record = row := Option.some.inj (hrecord.symm.trans hrow)
  refine ⟨_, rfl, rfl, rfl, rfl, rfl, hwrites, ?_, ?_⟩
  all_goals
    intro r hr
    rw [RecordUpdate.apply_id, hrecord] at hr
    cases hr
    rfl

theorem createEvidence_all {ok : (q : StateQuery) → q.Answer → Prop} (env : Surroundings)
    (v : EvidenceValues) (sensitivity : RecordSensitivity) (operation : Option Text) :
    (createEvidence env v sensitivity operation).All ok fun w => ∃ row draft failed,
      w = .create row draft failed ∧ row.recordType = "evidence" ∧ row.status = .active := by
  rw [createEvidence]
  repeat refine .after _ fun _ => ?_
  exact .pure ⟨_, _, _, rfl, rfl, rfl⟩

/-- A call puts a row of one of the types of the module in place. Evidence stays readable, and the row
is active unless the call archives it. -/
theorem Call.puts {env : Surroundings} {call : Call} {w : Write}
    (hnow : (validateOptionalUtc "reviewed time" (some env.calledAt)).isOk = true)
    (h : (call.prepare env).on db = .ok w) (hcommit : w.commit db = .ok db') :
    ∃ row, db.Puts row db' ∧ row.recordType ∈ recordTypes ∧
      (∀ r, db.find? row.id = some r → Readable r → Readable row) ∧
      (row.status = .active ∨ call.Archives row.id) := by
  cases call with
  | createEvidence v sensitivity operation =>
    obtain ⟨row, draft, failed, rfl, htype, hactive⟩ :=
      post_of_on (createEvidence_all env v sensitivity operation) h
    obtain ⟨hfree, hwrites⟩ := createTransaction_writes hcommit
    refine ⟨row, .of_created hwrites hfree, htype ▸ by decide, fun r hr => ?_, .inl hactive⟩
    rw [hfree] at hr
    cases hr
  | review recordId expectedRevision reviewState reviewNote operation actorType =>
    simp only [Call.prepare, Truth.review, Reader.on, ReadProgram.run_bind, ReadProgram.run_lift] at h
    obtain ⟨-, h⟩ := check_bind_eq_ok.1 h
    obtain ⟨record, hrecord, hrest⟩ := bind_eq_ok.1 h
    obtain ⟨values, hvalues, hupdate⟩ := bind_eq_ok.1 hrest
    obtain ⟨id, rfl, hfind, htype, -⟩ := currentRecord_on hrecord
    obtain rfl := Database.id_of_find? hfind
    obtain ⟨u, hstatus, hschema, hprovenance, htitle, hmetadata, hputs⟩ :=
      puts_of_update hfind hupdate hcommit
    refine ⟨u.apply record, hputs, List.mem_of_mem_take (i := 3) htype, ?_, .inl hstatus⟩
    intro r hr hreadable
    obtain rfl : record = r := Option.some.inj (hfind.symm.trans hr)
    refine hreadable.apply (.inl hstatus) hschema hprovenance htitle ?_ ?_
    · rw [hmetadata, get_reviewed _ _ (by decide)]
    · intro c hc
      rw [hmetadata]
      exact exists_readContent (exists_readReview _ hnow hvalues) hc
  | archive recordId expectedRevision operation actorType =>
    simp only [Call.prepare, Truth.archive, Reader.on, ReadProgram.run_bind, ReadProgram.run_lift] at h
    obtain ⟨-, h⟩ := check_bind_eq_ok.1 h
    obtain ⟨record, hrecord, hupdate⟩ := bind_eq_ok.1 h
    obtain ⟨id, rfl, hfind, htype, -⟩ := currentRecord_on hrecord
    obtain rfl := Database.id_of_find? hfind
    obtain ⟨u, hstatus, hschema, hprovenance, htitle, hmetadata, hputs⟩ :=
      puts_of_update hfind hupdate hcommit
    refine ⟨u.apply record, hputs, htype, ?_, .inr rfl⟩
    intro r hr hreadable
    obtain rfl : record = r := Option.some.inj (hfind.symm.trans hr)
    refine hreadable.apply (.inr hstatus) hschema hprovenance htitle ?_ ?_
    · rw [hmetadata]
    intro c hc
    rw [hmetadata]
    exact ⟨c, hc⟩

end

end Truth

end DollState
