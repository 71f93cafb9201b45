import DollState.Instruction.Records
import DollState.State.Reference

/-!
# Instruction-origin records that are read back

`create` ends by reading the record it has just committed. The reader accepts it: a source that has been
validated is one that `_validate_source_values` returns for itself, and so is every other field. A call that
looks up no policy and no parent therefore either fails before its transaction, or leaves one new row.
-/

namespace DollState.Instruction

open StateLib

section

variable [PythonLibrary] [CaseLibrary] [UtcLibrary] [Audit.AuditRules]

/-! ## Sources that have been validated -/

/-- A validated source, as an argument. -/
def InstructionSource.given (source : InstructionSource (List Transformation)) : InstructionSource (List Json) :=
  { source with transformations := source.transformations.map fun t => .str t.text }

/-- The source is one that `_validate_source_values` returns for itself. -/
def Validated (source : InstructionSource (List Transformation)) : Prop :=
  validateSource source.given = .ok source

omit [PythonLibrary] [CaseLibrary] [UtcLibrary] [Audit.AuditRules] in
theorem optionally_idem {read read' : Text → Result Text} {x y : Option Text}
    (hread : ∀ value text, read value = .ok text → read' text = .ok text) (h : optionally read x = .ok y) :
    optionally read' y = .ok y := by
  cases x with
  | none =>
    obtain rfl := pure_eq_ok.1 h
    rfl
  | some value =>
    obtain ⟨text, htext, h⟩ := bind_eq_ok.1 h
    obtain rfl := pure_eq_ok.1 h
    exact bind_eq_ok.2 ⟨text, hread value text htext, rfl⟩

omit [CaseLibrary] [UtcLibrary] in
theorem validateOptionalIdentifier_idem {name : String} {x y : Option Text}
    (h : validateOptionalIdentifier name x = .ok y) : validateOptionalIdentifier name y = .ok y :=
  optionally_idem (fun _ _ htext => safeWords_idem (safeWords_eq_ok.1 htext).2) h

omit [UtcLibrary] [Audit.AuditRules] in
theorem validateOptionalUuid_idem (hcase : LawfulCase) {name : String} {x y : Option Text}
    (h : validateOptionalUuid name x = .ok y) : validateOptionalUuid name y = .ok y := by
  refine optionally_idem (fun value text htext => ?_) h
  obtain ⟨id, -, htext⟩ := bind_eq_ok.1 htext
  obtain rfl := pure_eq_ok.1 htext
  exact bind_eq_ok.2 ⟨id, anyCaseUuid_uuidText hcase name id, rfl⟩

omit [PythonLibrary] [CaseLibrary] [UtcLibrary] [Audit.AuditRules] in
theorem validateTransformations_idem {values : List Json} {ts : List Transformation}
    (h : validateTransformations values = .ok ts) :
    validateTransformations (ts.map fun t => .str t.text) = .ok ts := by
  unfold validateTransformations at h ⊢
  obtain ⟨hlength, h⟩ := check_bind_eq_ok.1 h
  obtain ⟨result, hresult, h⟩ := bind_eq_ok.1 h
  obtain ⟨hnodup, h⟩ := check_bind_eq_ok.1 h
  obtain rfl := pure_eq_ok.1 h
  refine check_bind_eq_ok.2 ⟨ensure_of ?_ _, bind_eq_ok.2 ⟨result, ?_, check_bind_eq_ok.2 ⟨hnodup, rfl⟩⟩⟩
  · rw [List.length_map, ← (mapM_eq_ok.1 hresult).length_eq]
    exact ensure_eq_ok.1 hlength
  · rw [mapM_eq_ok, List.forall₂_map_left_iff]
    exact List.forall₂_same.2 fun t _ => orFail_eq_ok.2 (Transformation.ofText?_text t)

theorem validated_of_validateSource (hcase : LawfulCase) (hutc : LawfulUtc)
    {source : InstructionSource (List Json)} {validated : InstructionSource (List Transformation)}
    (h : validateSource source = .ok validated) : Validated validated := by
  unfold validateSource at h
  obtain ⟨transformations, htransformations, h⟩ := bind_eq_ok.1 h
  obtain ⟨sourceIdentifier, hsource, h⟩ := bind_eq_ok.1 h
  obtain ⟨parentOperationId, hparent, h⟩ := bind_eq_ok.1 h
  obtain ⟨sessionId, hsession, h⟩ := bind_eq_ok.1 h
  obtain ⟨contentHash, hhash, h⟩ := bind_eq_ok.1 h
  obtain ⟨observedAt, hobserved, h⟩ := bind_eq_ok.1 h
  obtain ⟨derived, hderived, h⟩ := bind_eq_ok.1 h
  obtain ⟨authority, hauthority, h⟩ := bind_eq_ok.1 h
  obtain ⟨hrevision, h⟩ := check_bind_eq_ok.1 h
  obtain ⟨modelManifestId, hmodel, h⟩ := bind_eq_ok.1 h
  obtain ⟨runtimeAdapterId, hruntime, h⟩ := bind_eq_ok.1 h
  obtain ⟨hcombination, h⟩ := check_bind_eq_ok.1 h
  obtain rfl := pure_eq_ok.1 h
  unfold Validated validateSource
  refine bind_eq_ok.2 ⟨_, validateTransformations_idem htransformations, ?_⟩
  refine bind_eq_ok.2 ⟨_, validateOptionalIdentifier_idem hsource, ?_⟩
  refine bind_eq_ok.2 ⟨_, validateOptionalIdentifier_idem hparent, ?_⟩
  refine bind_eq_ok.2 ⟨_, validateOptionalIdentifier_idem hsession, ?_⟩
  refine bind_eq_ok.2 ⟨_, optionally_idem
    (fun _ _ htext => contentHash_idem hcase (isFingerprint_of_contentHash htext)) hhash, ?_⟩
  refine bind_eq_ok.2 ⟨_, optionally_idem (fun _ _ htext => utcText_idem hutc htext) hobserved, ?_⟩
  refine bind_eq_ok.2 ⟨_, validateOptionalUuid_idem hcase hderived, ?_⟩
  refine bind_eq_ok.2 ⟨_, validateOptionalIdentifier_idem hauthority, ?_⟩
  refine check_bind_eq_ok.2 ⟨hrevision, ?_⟩
  refine bind_eq_ok.2 ⟨_, validateOptionalIdentifier_idem hmodel, ?_⟩
  refine bind_eq_ok.2 ⟨_, validateOptionalIdentifier_idem hruntime, ?_⟩
  exact check_bind_eq_ok.2 ⟨hcombination, rfl⟩

/-- What a validated source takes over from the source that is given. -/
theorem of_validateSource {given : InstructionSource (List Json)} {source : InstructionSource (List Transformation)}
    (h : validateSource given = .ok source) :
    source.originClass = given.originClass ∧
      optionally (contentHash .instructionOriginValidation "content hash") given.contentHash =
        .ok source.contentHash ∧
      validateOptionalUuid "derived instruction ID" given.derivedFromInstructionId =
        .ok source.derivedFromInstructionId := by
  unfold validateSource at h
  obtain ⟨_, -, h⟩ := bind_eq_ok.1 h
  obtain ⟨_, -, h⟩ := bind_eq_ok.1 h
  obtain ⟨_, -, h⟩ := bind_eq_ok.1 h
  obtain ⟨_, -, h⟩ := bind_eq_ok.1 h
  obtain ⟨hash, hhash, h⟩ := bind_eq_ok.1 h
  obtain ⟨_, -, h⟩ := bind_eq_ok.1 h
  obtain ⟨derived, hderived, h⟩ := bind_eq_ok.1 h
  obtain ⟨_, -, h⟩ := bind_eq_ok.1 h
  obtain ⟨-, h⟩ := check_bind_eq_ok.1 h
  obtain ⟨_, -, h⟩ := bind_eq_ok.1 h
  obtain ⟨_, -, h⟩ := bind_eq_ok.1 h
  obtain ⟨-, h⟩ := check_bind_eq_ok.1 h
  obtain rfl := pure_eq_ok.1 h
  exact ⟨rfl, hhash, hderived⟩

/-! ## Reading what is written -/

omit [PythonLibrary] [CaseLibrary] [UtcLibrary] [Audit.AuditRules] in
theorem optionalText_ofText? {metadata : Metadata} {key : String} (value : Option Text)
    (hget : metadata.get key = Json.ofText? value) : optionalText metadata key = .ok value := by
  rw [optionalText, hget]
  cases value <;> rfl

omit [PythonLibrary] [CaseLibrary] [UtcLibrary] [Audit.AuditRules] in
theorem optionalInt_of_get {metadata : Metadata} {key : String} (value : Option Int)
    (hget : metadata.get key = (value.map Json.int).getD .null) : optionalInt metadata key = .ok value := by
  rw [optionalInt, hget]
  cases value <;> rfl

omit [PythonLibrary] [CaseLibrary] [UtcLibrary] [Audit.AuditRules] in
theorem requiredText_of_get {metadata : Metadata} {key : String} {value : Text}
    (hget : metadata.get key = .str value) : requiredText metadata key = .ok value := by
  rw [requiredText, hget]

omit [PythonLibrary] [CaseLibrary] [UtcLibrary] [Audit.AuditRules] in
theorem requiredMember_of_get {α : Type} {all : List α} {text : α → Text} {message key : String}
    {metadata : Metadata} {a : α} (hget : metadata.get key = .str (text a))
    (htext : ofText? all text (text a) = some a) : requiredMember all text message metadata key = .ok a :=
  bind_eq_ok.2 ⟨_, requiredText_of_get hget, orFail_eq_ok.2 htext⟩

theorem readSource_originMetadata {title content : Text} {source : InstructionSource (List Transformation)}
    (h : Validated source) : readSource (originMetadata title content source) source.originClass = .ok source := by
  unfold readSource
  refine bind_eq_ok.2 ⟨_, requiredMember_of_get rfl (ActorType.ofText?_text _), ?_⟩
  refine bind_eq_ok.2 ⟨_, requiredMember_of_get rfl (AcquisitionMethod.ofText?_text _), ?_⟩
  refine bind_eq_ok.2 ⟨_, optionalText_ofText? source.sourceIdentifier rfl, ?_⟩
  refine bind_eq_ok.2 ⟨_, optionalText_ofText? source.parentOperationId rfl, ?_⟩
  refine bind_eq_ok.2 ⟨_, optionalText_ofText? source.sessionId rfl, ?_⟩
  refine bind_eq_ok.2 ⟨_, optionalText_ofText? source.contentHash rfl, ?_⟩
  refine bind_eq_ok.2 ⟨_, optionalText_ofText? source.observedAt rfl, ?_⟩
  refine bind_eq_ok.2 ⟨source.transformations.map fun t => .str t.text, rfl, ?_⟩
  refine bind_eq_ok.2 ⟨_, optionalText_ofText? source.derivedFromInstructionId rfl, ?_⟩
  refine bind_eq_ok.2 ⟨_, optionalText_ofText? source.authorityReferenceId rfl, ?_⟩
  refine bind_eq_ok.2 ⟨_, optionalInt_of_get source.authorityReferenceRevision rfl, ?_⟩
  refine bind_eq_ok.2 ⟨_, optionalText_ofText? source.modelManifestId rfl, ?_⟩
  refine bind_eq_ok.2 ⟨_, optionalText_ofText? source.runtimeAdapterId rfl, ?_⟩
  exact h

/-- The row that `create` inserts. -/
def createdRow (env : Surroundings) (title content : Text) (source : InstructionSource (List Transformation))
    (sensitivity : RecordSensitivity) : RecordEnvelope where
  id := env.newId
  recordType := "instruction_origin"
  schemaVersion := 1
  createdAt := env.now
  updatedAt := env.now
  revision := 1
  status := .active
  provenance := recordProvenance source
  sensitivity := sensitivity
  title := some title
  metadata := originMetadata title content source

/-- What `create` returns for it. -/
def createdInfo (env : Surroundings) (title content : Text) (source : InstructionSource (List Transformation))
    (sensitivity : RecordSensitivity) : InstructionOriginInfo where
  recordId := env.newId
  title := title
  content := content
  authorityClass := authorityForOrigin source.originClass
  source := source
  revision := 1
  status := .active
  recordProvenance := recordProvenance source
  sensitivity := sensitivity
  createdAt := env.now
  updatedAt := env.now

omit [PythonLibrary] [CaseLibrary] [UtcLibrary] [Audit.AuditRules] in
theorem validateEnvelope_createdRow (env : Surroundings) (title content : Text)
    (source : InstructionSource (List Transformation)) (sensitivity : RecordSensitivity) :
    validateEnvelope (createdRow env title content source sensitivity) = .ok () := by
  have hprovenance : recordProvenance source ≠ .userConfirmed := by
    unfold recordProvenance
    split
    · decide
    split
    · decide
    split <;> decide
  unfold validateEnvelope
  refine check_bind_eq_ok.2 ⟨rfl, check_bind_eq_ok.2 ⟨rfl, check_bind_eq_ok.2 ⟨rfl, ?_⟩⟩⟩
  refine check_bind_eq_ok.2 ⟨rfl, check_bind_eq_ok.2 ⟨ensure_of hprovenance _, ?_⟩⟩
  exact check_bind_eq_ok.2 ⟨ensure_of (show strip "instruction_origin".toList ≠ [] by decide) _, rfl⟩

/-- The reader accepts what is written of validated values. -/
theorem readOrigin_createdRow {env : Surroundings} {title content : Text}
    {source : InstructionSource (List Transformation)} {sensitivity : RecordSensitivity}
    (htitle : SafeWords title maxTitleLength) (hcontent : SafeLines content maxContentLength)
    (hsource : Validated source) :
    readOrigin (createdRow env title content source sensitivity) =
      .ok (createdInfo env title content source sensitivity) := by
  unfold readOrigin
  refine check_bind_eq_ok.2 ⟨validateEnvelope_createdRow env title content source sensitivity, ?_⟩
  refine bind_eq_ok.2 ⟨_, requiredText_of_get rfl, check_bind_eq_ok.2 ⟨ensure_of rfl _, ?_⟩⟩
  refine bind_eq_ok.2 ⟨_, requiredText_of_get rfl, bind_eq_ok.2 ⟨title, safeWords_idem htitle, ?_⟩⟩
  refine check_bind_eq_ok.2 ⟨ensure_of rfl _, ?_⟩
  refine bind_eq_ok.2 ⟨_, requiredText_of_get rfl, bind_eq_ok.2 ⟨content, safeLines_idem hcontent, ?_⟩⟩
  refine bind_eq_ok.2 ⟨source.originClass, requiredMember_of_get rfl (OriginClass.ofText?_text _), ?_⟩
  refine bind_eq_ok.2 ⟨_, requiredMember_of_get rfl (AuthorityClass.ofText?_text _), ?_⟩
  refine check_bind_eq_ok.2 ⟨ensure_of rfl _, check_bind_eq_ok.2 ⟨ensure_of ?_ _, ?_⟩⟩
  · exact beq_self_eq_true (isDataOnly source.originClass)
  refine bind_eq_ok.2 ⟨source, readSource_originMetadata hsource, ?_⟩
  exact check_bind_eq_ok.2 ⟨ensure_of rfl _, rfl⟩

variable [ModuleRules]

/-! ## Calls that look nothing up -/

/-- `_validate_source_references` looks up neither a policy nor a parent. -/
structure Unreferenced (source : InstructionSource (List Transformation)) : Prop where
  policy : source.originClass ≠ .durableUserPolicy
  parent : source.derivedFromInstructionId = none

omit [ModuleRules] in
theorem Unreferenced.validateSourceReferences {source : InstructionSource (List Transformation)}
    (h : Unreferenced source) (content : Text) (authority : AuthorityClass) (db : Database) :
    (Instruction.validateSourceReferences source content authority).on db = .ok () := by
  unfold Instruction.validateSourceReferences
  rw [if_neg h.policy, h.parent]
  rfl

/-- What `create` checks of its arguments, the source having been validated. -/
structure Accepts (env : Surroundings) (title content : Text) (source : InstructionSource (List Transformation))
    (operation : Option Text) (sensitivity : RecordSensitivity) : Prop where
  title : SafeText (joinWords title) maxTitleLength
  content : SafeText (joinLines content) maxContentLength
  writable : env.readOnly = false
  ordinary : sensitivity ≠ .secret
  operation : ∃ safe, operationId env operation = .ok safe
  action : ∃ action, ModuleRules.auditToken "action" "instruction_origin.create".toList 120 = .ok action
  metadata : ModuleRules.auditMetadataError (auditMetadata (authorityForOrigin source.originClass) source) = none

/-- The identifiers that `uuid4` draws for a call are new. -/
structure Fresh (env : Surroundings) (db : Database) : Prop where
  record : db.find? env.newId = none
  event : db.auditEvents.find? env.eventId = none

/-- What one creation leaves: its row, and otherwise nothing but its event. -/
structure Leaves (env : Surroundings) (row : RecordEnvelope) (db db' : Database) : Prop where
  records : db.Writes row db'
  events : ∀ id, id ≠ env.eventId → db'.auditEvents.find? id = db.auditEvents.find? id

/-- The event of a creation. -/
def createDraft (env : Surroundings) (source : InstructionSource (List Transformation)) (operation : Text) :
    AuditDraft where
  eventId := env.eventId
  occurredAt := env.auditNow
  operationId := .ok operation
  actorType := auditActor source.actorType
  action := "instruction_origin.create"
  targetType := "instruction_origin"
  summary := "Changed instruction-origin record"
  metadata := .ok (auditMetadata (authorityForOrigin source.originClass) source)

/-- The transaction of a creation. -/
def createWrite (env : Surroundings) (title content : Text) (source : InstructionSource (List Transformation))
    (operation : Text) (sensitivity : RecordSensitivity) : Write :=
  .create (createdRow env title content source sensitivity) (createDraft env source operation)
    ⟨.stateCorrupt, "instruction-origin record could not be created"⟩

variable {env : Surroundings} {title content : Text} {source : InstructionSource (List Transformation)}
  {operation : Option Text} {sensitivity : RecordSensitivity} {db db' : Database}

theorem prepareCreate_eq_ok {w : Write} (h : Unreferenced source) :
    (prepareCreate env title content source operation sensitivity).on db = .ok w ↔
      SafeText (joinWords title) maxTitleLength ∧ SafeText (joinLines content) maxContentLength ∧
        env.readOnly = false ∧ sensitivity ≠ .secret ∧ ∃ safe, operationId env operation = .ok safe ∧
          w = createWrite env (joinWords title) (joinLines content) source safe sensitivity := by
  have hfields : validateRecordFields "instruction_origin" 1 = .ok () :=
    check_bind_eq_ok.2 ⟨ensure_of (show strip "instruction_origin".toList ≠ [] by decide) _, rfl⟩
  have hlookup : ∀ safeContent, (validateSourceReferences source safeContent
      (authorityForOrigin source.originClass)).run db.answer = .ok () :=
    fun safeContent => h.validateSourceReferences safeContent _ db
  have hsecret : ∀ metadata u, validateSecretBoundary "instruction_origin" sensitivity metadata = .ok u ↔
      sensitivity ≠ .secret := by
    intro metadata u
    rw [validateSecretBoundary, if_neg (by decide), ensure_eq_ok]
  simp only [prepareCreate, Reader.on, ReadProgram.run_bind, ReadProgram.run_lift, bind_eq_ok, hlookup, hfields,
    hsecret, validateText, validateContent, safeWords, safeLines, safeText_eq_ok, requireWrite, ensure_eq_ok]
  constructor
  · rintro ⟨_, ⟨rfl, htitle⟩, _, ⟨rfl, hcontent⟩, -, -, -, hwritable, -, -, -, hordinary, safe, hsafe, h⟩
    exact ⟨htitle, hcontent, hwritable, hordinary, safe, hsafe, (Except.ok.inj h).symm⟩
  · rintro ⟨htitle, hcontent, hwritable, hordinary, safe, hsafe, rfl⟩
    exact ⟨_, ⟨rfl, htitle⟩, _, ⟨rfl, hcontent⟩, (), trivial, (), hwritable, (), trivial, (), hordinary, safe,
      hsafe, rfl⟩

omit [PythonLibrary] [CaseLibrary] [UtcLibrary] [Audit.AuditRules] in
theorem exists_insertAudit {draft : AuditDraft} {target : RecordId} {failed : DollError} {safe action : Text}
    {metadata : Metadata} (hoperation : draft.operationId = .ok safe) (hmetadata : draft.metadata = .ok metadata)
    (haction : ModuleRules.auditToken "action" draft.action.toList 120 = .ok action)
    (haccepted : ModuleRules.auditMetadataError metadata = none)
    (hfree : db.auditEvents.find? draft.eventId = none) :
    ∃ db', insertAudit draft target failed db = .ok db' := by
  have hinsert : ∀ event : AuditEvent, event.eventId = draft.eventId →
      ∃ db', orFail failed (db.insertAuditEvent event) = .ok db' := by
    intro event hid
    obtain ⟨events, hevents⟩ := Option.isSome_iff_exists.1 (Table.insert?_isSome.2 (hid.symm ▸ hfree))
    exact ⟨_, orFail_eq_ok.2 (Database.insertAuditEvent_eq_some.2 ⟨events, hevents, rfl⟩)⟩
  unfold insertAudit
  rw [hoperation, hmetadata, StateLib.ok_bind, StateLib.ok_bind, haction, StateLib.ok_bind, haccepted]
  exact hinsert _ rfl

omit [PythonLibrary] [CaseLibrary] [UtcLibrary] [Audit.AuditRules] in
/-- The transaction commits when its event is one that may be written. -/
theorem exists_commit_createWrite {safe : Text} (hfresh : Fresh env db)
    (haction : ∃ action, ModuleRules.auditToken "action" "instruction_origin.create".toList 120 = .ok action)
    (hmetadata : ModuleRules.auditMetadataError (auditMetadata (authorityForOrigin source.originClass) source) =
      none) :
    ∃ db', (createWrite env title content source safe sensitivity).commit db = .ok db' := by
  obtain ⟨action, haction⟩ := haction
  have hfree : (db.records.insert? (createdRow env title content source sensitivity)).isSome :=
    Table.insert?_isSome.2 hfresh.record
  obtain ⟨records, hrecords⟩ := Option.isSome_iff_exists.1 hfree
  have hevent : ({ db with records } : Database).auditEvents.find? (createDraft env source safe).eventId = none :=
    hfresh.event
  obtain ⟨db', hdb'⟩ := exists_insertAudit rfl rfl haction hmetadata hevent
  exact ⟨db'.commitStateRevision, bind_eq_ok.2 ⟨{ db with records },
    orFail_eq_ok.2 (Database.insertRecord_eq_some.2 ⟨records, hrecords, rfl⟩), bind_eq_ok.2 ⟨db', hdb', rfl⟩⟩⟩

omit [PythonLibrary] [CaseLibrary] [UtcLibrary] [Audit.AuditRules] in
theorem of_insertAudit {draft : AuditDraft} {target : RecordId} {failed : DollError} {metadata : Metadata}
    (hmetadata : draft.metadata = .ok metadata) (h : insertAudit draft target failed db = .ok db') :
    (∃ action, ModuleRules.auditToken "action" draft.action.toList 120 = .ok action) ∧
      ModuleRules.auditMetadataError metadata = none := by
  unfold insertAudit at h
  obtain ⟨safe, hsafe, h⟩ := bind_eq_ok.1 h
  rw [hmetadata] at h
  obtain ⟨read, hread, h⟩ := bind_eq_ok.1 h
  obtain rfl := Except.ok.inj hread
  obtain ⟨action, haction, h⟩ := bind_eq_ok.1 h
  refine ⟨⟨action, haction⟩, ?_⟩
  split at h
  · cases h
  · assumption

omit [PythonLibrary] [CaseLibrary] [UtcLibrary] [Audit.AuditRules] in
/-- It leaves its row, and otherwise nothing but its event. -/
theorem leaves_of_commit {safe : Text} (h : (createWrite env title content source safe sensitivity).commit db = .ok db') :
    Leaves env (createdRow env title content source sensitivity) db db' := by
  refine ⟨(createTransaction_writes h).2, fun id hid => ?_⟩
  obtain ⟨inserted, hinserted, hrest⟩ := bind_eq_ok.1 h
  obtain ⟨audited, haudited, hcommitted⟩ := bind_eq_ok.1 hrest
  obtain ⟨records, -, rfl⟩ := Database.insertRecord_eq_some.1 (orFail_eq_ok.1 hinserted)
  obtain rfl := pure_eq_ok.1 hcommitted
  unfold insertAudit at haudited
  obtain ⟨_, -, haudited⟩ := bind_eq_ok.1 haudited
  obtain ⟨_, -, haudited⟩ := bind_eq_ok.1 haudited
  obtain ⟨_, -, haudited⟩ := bind_eq_ok.1 haudited
  split at haudited
  · cases haudited
  · obtain ⟨events, hevents, rfl⟩ := Database.insertAuditEvent_eq_some.1 (orFail_eq_ok.1 haudited)
    exact (Table.find?_insert? hevents id).trans (if_neg (Ne.symm hid))

omit [ModuleRules] in
/-- What a lookup of the new row returns. -/
theorem get_createdRow (hcase : LawfulCase) (htitle : SafeWords title maxTitleLength)
    (hcontent : SafeLines content maxContentLength) (hsource : Validated source)
    (hrow : db.find? env.newId = some (createdRow env title content source sensitivity)) :
    (get (uuidText env.newId)).on db = .ok (createdInfo env title content source sensitivity) := by
  have hrecord : (getRecord env.newId).run db.answer = .ok (createdRow env title content source sensitivity) :=
    (getRecord_on env.newId db).trans (orFail_eq_ok.2 hrow)
  have hread : originFromRecord (createdRow env title content source sensitivity) =
      .ok (createdInfo env title content source sensitivity) :=
    catching_eq_ok.2 (readOrigin_createdRow htitle hcontent hsource)
  simp only [get, Reader.on, ReadProgram.run_bind, ReadProgram.run_lift, anyCaseUuid_uuidText hcase, hrecord,
    StateLib.ok_bind]
  exact check_bind_eq_ok.2 ⟨ensure_of rfl _, hread⟩

/-- A call that is accepted returns the new record, and leaves its row. -/
theorem create_of_accepts (hcase : LawfulCase) (hsource : Validated source) (hunreferenced : Unreferenced source)
    (hfresh : Fresh env db) (h : Accepts env title content source operation sensitivity) :
    ∃ db', create env title content source operation sensitivity db =
        (.ok (createdInfo env (joinWords title) (joinLines content) source sensitivity), db') ∧
      Leaves env (createdRow env (joinWords title) (joinLines content) source sensitivity) db db' := by
  obtain ⟨safe, hsafe⟩ := h.operation
  obtain ⟨db', hcommit⟩ : ∃ db', (createWrite env (joinWords title) (joinLines content) source safe
      sensitivity).commit db = .ok db' := exists_commit_createWrite hfresh h.action h.metadata
  have hprepare : (prepareCreate env title content source operation sensitivity).on db =
      .ok (createWrite env (joinWords title) (joinLines content) source safe sensitivity) :=
    (prepareCreate_eq_ok hunreferenced).2 ⟨h.title, h.content, h.writable, h.ordinary, safe, hsafe, rfl⟩
  have hleaves := leaves_of_commit hcommit
  have hrow := (hleaves.records env.newId).trans (if_pos rfl)
  have hget := get_createdRow hcase ⟨joinWords_joinWords title, h.title⟩ ⟨joinLines_joinLines content, h.content⟩
    hsource hrow
  refine ⟨db', ?_, hleaves⟩
  unfold create
  rw [Attempt.read_bind, Attempt.ok_bind hprepare, Attempt.ok_bind hcommit, Attempt.write_bind, hget]
  rfl

/-- A call that is not accepted fails, and leaves the database as it was. -/
theorem create_of_not_accepts (hunreferenced : Unreferenced source)
    (h : ¬ Accepts env title content source operation sensitivity) :
    ∃ e, create env title content source operation sensitivity db = (.error e, db) := by
  unfold create
  rw [Attempt.read_bind]
  cases hprepare : (prepareCreate env title content source operation sensitivity).on db with
  | error e => exact ⟨e, Attempt.error_bind rfl _ _⟩
  | ok w =>
    obtain ⟨htitle, hcontent, hwritable, hordinary, safe, hsafe, rfl⟩ := (prepareCreate_eq_ok hunreferenced).1 hprepare
    rw [Attempt.ok_bind rfl]
    cases hcommit : (createWrite env (joinWords title) (joinLines content) source safe sensitivity).commit db with
    | error e => exact ⟨e, Attempt.error_bind rfl _ _⟩
    | ok db' =>
      obtain ⟨inserted, -, hrest⟩ := bind_eq_ok.1 hcommit
      obtain ⟨audited, haudited, -⟩ := bind_eq_ok.1 hrest
      obtain ⟨haction, hmetadata⟩ := of_insertAudit rfl haudited
      exact absurd ⟨htitle, hcontent, hwritable, hordinary, ⟨safe, hsafe⟩, haction, hmetadata⟩ h

end

/-! ## Libraries to evaluate with -/

theorem lawful_asciiCase : @LawfulCase asciiCase := by
  refine @LawfulCase.mk asciiCase fun text h => ?_
  have hkept : ∀ c ∈ text, c.toLower = id c := by
    intro c hc
    have hupper := (h c hc).2
    unfold Char.isUpper at hupper
    unfold Char.toLower
    rw [dif_neg (by simpa using hupper)]
    rfl
  exact (List.map_congr_left hkept).trans (List.map_id text)

/-- No text is secret. -/
@[reducible] def nothingSecret : Audit.AuditRules where
  isSecret _ := false
  unsafeMessage _ := none
  isSecretField _ := false
  isPrivateField _ := false
  sanitizeFreeText text _ := text

/-- No time is in range. -/
@[reducible] def noTimes : UtcLibrary where
  utcText _ := none

theorem lawful_noTimes : @LawfulUtc asciiLibrary noTimes :=
  @LawfulUtc.mk asciiLibrary noTimes fun _ _ h => nomatch h

end DollState.Instruction
