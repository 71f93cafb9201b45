import DollState.Domain.EvidenceWrites
import DollState.Domain.ProjectWrites

/-!
# Project records that are read back

The reader of a project accepts what the calls of the project service write (`Call.puts`), as long as
the clock has not gone back behind the creation of the record: it checks that no record is updated
before it is created.
-/

namespace DollState.Project

open StateLib

section

variable [PythonLibrary]

/-! ## Fields -/

/-- A text that `_validate_text` returns. -/
structure TextOk (text : Text) (maximum : Nat) : Prop where
  joined : joinLines text = text
  ne_nil : text ≠ []
  length : text.length ≤ maximum
  control : hasControlCharacter text = false
  path : contains "file://".toList text = false ∧ hasLocalPath text = false

theorem validateText_ok {name : String} {value text : Text} {maximum : Nat}
    (h : validateText name value maximum = .ok text) : TextOk text maximum := by
  simp only [validateText, check_bind_eq_ok, ensure_eq_ok, pure_eq_ok] at h
  obtain ⟨⟨hne, hlength⟩, hcontrol, hpath, rfl⟩ := h
  exact ⟨joinLines_joinLines value, hne, hlength, hcontrol, hpath⟩

theorem validateText_idem {name : String} {text : Text} {maximum : Nat} (h : TextOk text maximum) :
    validateText name text maximum = .ok text := by
  simp only [validateText, h.joined]
  rw [ensure_of ⟨h.ne_nil, h.length⟩, ok_bind, ensure_of h.control, ok_bind, ensure_of h.path]
  rfl

/-- A list of texts that `_validate_text_items` returns. -/
structure ItemsOk (items : List Text) : Prop where
  length : items.length ≤ maxListItems
  each : ∀ item ∈ items, TextOk item maxListItemLength
  nodup : items.Nodup

theorem validateTextItems_ok {name : String} {values : List Json} {items : List Text}
    (h : validateTextItems name values = .ok items) : ItemsOk items := by
  obtain ⟨hlength, h⟩ := (check_bind_eq_ok.1 h).imp_left ensure_eq_ok.1
  obtain ⟨normalized, hmap, h⟩ := bind_eq_ok.1 h
  obtain ⟨hnodup, h⟩ := (check_bind_eq_ok.1 h).imp_left ensure_eq_ok.1
  cases h
  refine ⟨(mapM_eq_ok.1 hmap).length_eq ▸ hlength, fun item hitem => ?_, hnodup⟩
  obtain ⟨value, -, hvalue⟩ := exists_of_mem_mapM hmap hitem
  cases value with
  | str text => exact validateText_ok hvalue
  | null => cases hvalue
  | bool => cases hvalue
  | int => cases hvalue
  | real => cases hvalue
  | minusZero => cases hvalue
  | arr => cases hvalue
  | obj => cases hvalue

theorem validateTextItems_idem {name : String} {items : List Text} (h : ItemsOk items) :
    validateTextItems name (items.map .str) = .ok items := by
  rw [validateTextItems, ensure_of (by rw [List.length_map]; exact h.length), ok_bind]
  refine bind_eq_ok.2 ⟨items, ?_, check_bind_eq_ok.2 ⟨ensure_of h.nodup _, rfl⟩⟩
  rw [mapM_eq_ok, List.forall₂_map_left_iff]
  exact List.forall₂_same.2 fun item hitem => validateText_idem (h.each item hitem)

theorem metadataTextItems_idem {metadata : Metadata} {key : String} {items : List Text}
    (hget : metadata.get key = .arr (items.map .str)) (h : ItemsOk items) :
    metadataTextItems metadata key = .ok items := by
  rw [metadataTextItems, metadataList, hget]
  exact validateTextItems_idem h

theorem validateReferenceIds_ok {name : String} {values : List Json} {ids : List RecordId}
    (h : validateReferenceIds name values = .ok ids) : IdsOk maxLinks ids := by
  rw [validateReferenceIds, check_bind_eq_ok, ensure_eq_ok] at h
  obtain ⟨hnodup, hlength⟩ := distinctFrom_nodup List.nodup_nil h.2
  refine ⟨hnodup, ?_⟩
  rw [hlength, List.length_nil, Nat.zero_add]
  exact h.1

theorem metadataReferenceIds_idem {metadata : Metadata} {key : String} {ids : List RecordId}
    (hget : metadata.get key = Json.ofIds ids) (h : IdsOk maxLinks ids) :
    metadataReferenceIds metadata key = .ok ids := by
  have hread : ∀ id, validateReferenceId key (.str (uuidText id)) = .ok id := fun id => by
    rw [validateReferenceId, uuid_uuidText]
    rfl
  have hlist : metadataList .projectDecisionValidation metadata key =
      .ok (ids.map fun id => .str (uuidText id)) := by
    rw [metadataList, hget]
    rfl
  rw [metadataReferenceIds, hlist, ok_bind, validateReferenceIds,
    ensure_of (by rw [List.length_map]; exact h.2), ok_bind]
  exact distinctFrom_map hread (by simpa using h.1)

/-! ## Contents that have been validated -/

structure ProjectCharter.Ok (c : ProjectCharter) : Prop where
  objective : TextOk c.objective maxDescriptionLength
  inScope : ItemsOk c.inScope
  outOfScope : ItemsOk c.outOfScope
  successCriteria : ItemsOk c.successCriteria
  governingPolicyIds : IdsOk maxLinks c.governingPolicyIds

structure ProjectContent.Ok (c : ProjectContent) : Prop where
  name : TextOk c.name maxNameLength
  description : TextOk c.description maxDescriptionLength
  startedAt : IsUtc c.startedAt
  endedAt : ∀ ended ∈ c.endedAt, IsUtc ended ∧ instant c.startedAt ≤ instant ended
  decisionIds : IdsOk maxLinks c.decisionIds
  memoryIds : IdsOk maxLinks c.memoryIds
  artifactIds : IdsOk maxLinks c.artifactIds
  charter : ∀ charter ∈ c.charter, charter.Ok

theorem ne_nil_of_isUtc {value : Text} (h : IsUtc value) : value ≠ [] := by
  rintro rfl
  cases h.1

/-- `_project_from_record` after its look at the envelope. -/
def readFields (title? : Option Text) (schemaVersion : Int) (metadata : Metadata) :
    Result ProjectContent := do
  let name ← validateText "project name" (← required metadata "name") maxNameLength
  let description ← validateText "project description" (← required metadata "description")
    maxDescriptionLength
  ensure (title? = some name) (invalid "project title and name are inconsistent")
  let projectStatus ← validateProjectStatus (← required metadata "status")
  let startedAt ← validateUtc "project started-at" (← required metadata "started_at")
  let endedAt ← validateOptionalUtc "project ended-at" (← optionalString metadata "ended_at")
  forEach (fun ended => requireLaterOrEqual "project ended-at" ended startedAt) endedAt.toList
  let decisionIds ← metadataReferenceIds metadata "decision_ids"
  let memoryIds ← metadataReferenceIds metadata "memory_ids"
  let artifactIds ← metadataReferenceIds metadata "artifact_ids"
  let charter ← if schemaVersion = 1 then pure none else some <$> readCharter metadata
  return { name, description, projectStatus, startedAt, endedAt, decisionIds, memoryIds,
           artifactIds, charter }

theorem readProject_eq (record : RecordEnvelope) : readProject record =
    (validateEnvelope record "project" .userCreated >>= fun _ =>
      readFields record.title record.schemaVersion record.metadata) := rfl

omit [PythonLibrary] in
theorem optionalString_ofText? {metadata : Metadata} {key : String} {value : Option Text}
    (hget : metadata.get key = Json.ofText? value) (hne : ∀ text ∈ value, text ≠ []) :
    optionalString metadata key = .ok value := by
  rw [optionalString, hget]
  cases value with
  | none => rfl
  | some text => exact if_neg (hne text rfl)

theorem readCharter_metadata {metadata rest : Metadata} {c : ProjectCharter} (h : c.Ok)
    (hmetadata : metadata = rest ++ c.metadata)
    (hrest : ∀ key ∈ c.metadata.map (·.1), rest.lookup key = none) :
    readCharter metadata = .ok c := by
  have hget : ∀ key ∈ c.metadata.map (·.1), metadata.get key = c.metadata.get key := by
    intro key hkey
    rw [hmetadata, Metadata.get, List.lookup_append, hrest key hkey]
    rfl
  simp only [ProjectCharter.metadata, List.map_cons, List.map_nil, List.forall_mem_cons] at hget
  obtain ⟨hobjective, hinScope, houtOfScope, hcriteria, hpolicies, -⟩ := hget
  rw [readCharter]
  refine bind_eq_ok.2 ⟨_, requiredString_eq_ok.2 ⟨hobjective, h.objective.ne_nil⟩, ?_⟩
  refine bind_eq_ok.2 ⟨_, validateText_idem h.objective, ?_⟩
  refine bind_eq_ok.2 ⟨_, metadataTextItems_idem hinScope h.inScope, ?_⟩
  refine bind_eq_ok.2 ⟨_, metadataTextItems_idem houtOfScope h.outOfScope, ?_⟩
  refine bind_eq_ok.2 ⟨_, metadataTextItems_idem hcriteria h.successCriteria, ?_⟩
  exact bind_eq_ok.2 ⟨_, metadataReferenceIds_idem hpolicies h.governingPolicyIds, rfl⟩

/-- What is written of a validated content is read back. -/
theorem readFields_metadata {c : ProjectContent} (h : c.Ok) {schemaVersion : Int}
    (hversion : schemaVersion = 1 ↔ c.charter = none) :
    readFields (some c.name) schemaVersion c.metadata = .ok c := by
  have hended : ∀ ended ∈ c.endedAt, ended ≠ [] := fun ended hmem =>
    ne_nil_of_isUtc (h.endedAt ended hmem).1
  rw [readFields]
  refine bind_eq_ok.2 ⟨_, requiredString_eq_ok.2 ⟨rfl, h.name.ne_nil⟩, ?_⟩
  refine bind_eq_ok.2 ⟨_, validateText_idem h.name, ?_⟩
  refine bind_eq_ok.2 ⟨_, requiredString_eq_ok.2 ⟨rfl, h.description.ne_nil⟩, ?_⟩
  refine bind_eq_ok.2 ⟨_, validateText_idem h.description, ?_⟩
  refine check_bind_eq_ok.2 ⟨ensure_of rfl _, ?_⟩
  refine bind_eq_ok.2 ⟨_, requiredString_eq_ok.2 ⟨rfl, by cases c.projectStatus <;> decide⟩, ?_⟩
  refine bind_eq_ok.2 ⟨_, orFail_eq_ok.2 (ProjectStatus.ofText?_text _), ?_⟩
  refine bind_eq_ok.2 ⟨_, requiredString_eq_ok.2 ⟨rfl, ne_nil_of_isUtc h.startedAt⟩, ?_⟩
  refine bind_eq_ok.2 ⟨_, utcField_idem h.startedAt, ?_⟩
  refine bind_eq_ok.2 ⟨_, optionalString_ofText? rfl hended, ?_⟩
  refine bind_eq_ok.2 ⟨_, (optionally_eq_ok fun _ _ => utcField_eq_ok).2
    ⟨rfl, fun ended hmem => (h.endedAt ended hmem).1⟩, ?_⟩
  refine check_bind_eq_ok.2 ⟨forEach_eq_ok.2 fun ended hmem => ?_, ?_⟩
  · exact ensure_of (h.endedAt ended (Option.mem_toList.1 hmem)).2 _
  refine bind_eq_ok.2 ⟨_, metadataReferenceIds_idem rfl h.decisionIds, ?_⟩
  refine bind_eq_ok.2 ⟨_, metadataReferenceIds_idem rfl h.memoryIds, ?_⟩
  refine bind_eq_ok.2 ⟨_, metadataReferenceIds_idem rfl h.artifactIds, ?_⟩
  by_cases hone : schemaVersion = 1
  · rw [if_pos hone]
    exact congrArg Except.ok (by rw [← hversion.1 hone])
  · obtain ⟨charter, hcharter⟩ := Option.ne_none_iff_exists'.1 fun hnone => hone (hversion.2 hnone)
    have hread : readCharter c.metadata = .ok charter := by
      refine readCharter_metadata (h.charter charter hcharter)
        (by rw [ProjectContent.metadata, hcharter]) ?_
      simp only [ProjectCharter.metadata, List.map_cons, List.map_nil, List.forall_mem_cons]
      exact ⟨rfl, rfl, rfl, rfl, rfl, nofun⟩
    rw [if_neg hone, hread]
    exact congrArg Except.ok (by rw [← hcharter])

/-- The envelope after an update at a time that does not precede the creation of the record. -/
theorem validateEnvelope_apply {record : RecordEnvelope} {u : RecordUpdate}
    (h : validateEnvelope record "project" .userCreated = .ok ())
    (hversion : u.schemaVersion.getD record.schemaVersion ∈ [1, 2])
    (hstatus : u.status = .active ∨ u.status = .archived)
    (hprovenance : u.provenance = some .userCreated) (hnow : IsUtc u.now)
    (hclock : instant record.createdAt ≤ instant u.now) :
    validateEnvelope (u.apply record) "project" .userCreated = .ok () := by
  obtain ⟨htype, h⟩ := (check_bind_eq_ok.1 h).imp_left ensure_eq_ok.1
  obtain ⟨-, h⟩ := check_bind_eq_ok.1 h
  obtain ⟨hrevision, h⟩ := (check_bind_eq_ok.1 h).imp_left ensure_eq_ok.1
  obtain ⟨-, h⟩ := check_bind_eq_ok.1 h
  obtain ⟨-, h⟩ := check_bind_eq_ok.1 h
  obtain ⟨_, hvalid, -⟩ := bind_eq_ok.1 h
  obtain ⟨rfl, hcreated⟩ := utcField_eq_ok.1 hvalid
  simp only [List.mem_cons, List.not_mem_nil, or_false] at hversion
  rw [validateEnvelope]
  refine check_bind_eq_ok.2 ⟨ensure_of htype _, ?_⟩
  refine check_bind_eq_ok.2 ⟨ensure_of (hversion.imp_right fun htwo => ⟨rfl, htwo⟩) _, ?_⟩
  refine check_bind_eq_ok.2 ⟨ensure_of (hrevision.trans (Int.le_of_lt (Int.lt_succ _))) _, ?_⟩
  refine check_bind_eq_ok.2 ⟨ensure_of hstatus _, ?_⟩
  refine check_bind_eq_ok.2 ⟨ensure_of (by rw [RecordUpdate.apply, hprovenance]; rfl) _, ?_⟩
  refine bind_eq_ok.2 ⟨_, utcField_idem hcreated, bind_eq_ok.2 ⟨_, utcField_idem hnow, ?_⟩⟩
  exact ensure_of hclock _

/-! ## The calls -/

/-- The call archives the project. -/
def Call.ArchivesProject (id : RecordId) : Call → Prop
  | .archive projectId .. => projectId = uuidText id
  | _ => False

variable [ModuleRules] {ok : (q : StateQuery) → q.Answer → Prop}

theorem validatedProjectValues_ok (v : ProjectValues) :
    (validatedProjectValues v).All ok fun content => content.Ok := by
  rw [validatedProjectValues]
  refine .bind (.lift fun name h => validateText_ok h) fun name hname => ?_
  refine .bind (.lift fun description h => validateText_ok h) fun description hdescription => ?_
  refine .after _ fun projectStatus => ?_
  refine .bind (.lift fun startedAt h => (utcField_eq_ok.1 h)) fun startedAt hstarted => ?_
  refine .bind (.lift fun endedAt h => (optionally_eq_ok fun _ _ => utcField_eq_ok).1 h)
    fun endedAt hended => ?_
  refine .bind (.lift fun _ h => forEach_eq_ok.1 h) fun _ horder => ?_
  refine .bind (.lift fun ids h => validateReferenceIds_ok h) fun decisionIds hdecisions => ?_
  refine .bind (.lift fun ids h => validateReferenceIds_ok h) fun memoryIds hmemories => ?_
  refine .bind (.lift fun ids h => validateReferenceIds_ok h) fun artifactIds hartifacts => ?_
  refine .after _ fun _ => .pure ?_
  obtain ⟨rfl, hstarted⟩ := hstarted
  obtain ⟨rfl, hended⟩ := hended
  exact {
    name := hname
    description := hdescription
    startedAt := hstarted
    endedAt := fun ended hmem => ⟨hended ended hmem,
      ensure_eq_ok.1 (horder ended (Option.mem_toList.2 hmem))⟩
    decisionIds := hdecisions
    memoryIds := hmemories
    artifactIds := hartifacts
    charter := fun _ h => by cases h }

theorem validatedProjectV2Values_ok (v : ProjectValues) (c : CharterValues) :
    (validatedProjectV2Values v c).All ok fun content =>
      content.Ok ∧ content.charter ≠ none := by
  rw [validatedProjectV2Values]
  refine .bind (validatedProjectValues_ok v) fun content hcontent => ?_
  refine .bind (.lift fun objective h => validateText_ok h) fun objective hobjective => ?_
  refine .bind (.lift fun items h => validateTextItems_ok h) fun inScope hin => ?_
  refine .bind (.lift fun items h => validateTextItems_ok h) fun outOfScope hout => ?_
  refine .bind (.lift fun items h => validateTextItems_ok h) fun successCriteria hcriteria => ?_
  refine .bind (.lift fun ids h => validateReferenceIds_ok h) fun policyIds hpolicies => ?_
  refine .after _ fun _ => .pure ⟨{ hcontent with charter := ?_ }, Option.some_ne_none _⟩
  rintro _ ⟨⟩
  exact ⟨hobjective, hin, hout, hcriteria, hpolicies⟩

/-- What an update is going to write can be read back, and its links have been shown to hold. -/
structure Rewrites (ok : (q : StateQuery) → q.Answer → Prop) (now : Text) (u : RecordUpdate)
    (c : ProjectContent) : Prop where
  now : u.now = now
  provenance : u.provenance = some .userCreated
  title : u.title = some (some c.name)
  version : ∃ version ∈ [(1 : Int), 2], u.schemaVersion = some version ∧
    readFields (some c.name) version u.metadata = .ok c
  status : u.status = .active ∨ u.status = .archived
  shown : u.status = .active → Shown ok c

theorem updateRecord_rewrites {env : Surroundings} {base : RecordEnvelope} {expectedRevision : Int}
    {c : ProjectContent} {operation : Option Text} {action : String} {schemaVersion : Option Int}
    {u : RecordUpdate} {draft : AuditDraft} {errors : TransactionErrors} (hok : c.Ok)
    (hversion : schemaVersion.getD base.schemaVersion ∈ [(1 : Int), 2])
    (hcharter : schemaVersion.getD base.schemaVersion = 1 ↔ c.charter = none) (hshown : Shown ok c)
    (h : updateRecord env base expectedRevision c.name c.metadata .active .userCreated operation
      action schemaVersion = .ok (.change u draft errors)) : Rewrites ok env.now u c := by
  obtain ⟨-, h⟩ := check_bind_eq_ok.1 h
  obtain ⟨_, -, h⟩ := bind_eq_ok.1 h
  cases h
  exact {
    now := rfl
    provenance := rfl
    title := rfl
    version := ⟨_, hversion, rfl, readFields_metadata hok hcharter⟩
    status := .inl rfl
    shown := fun _ => hshown }

omit [ModuleRules] in
/-- The fields of a project that has been read. -/
theorem readFields_of_readProject {record : RecordEnvelope} {c : ProjectContent}
    (h : readProject record = .ok c) : record.schemaVersion ∈ [(1 : Int), 2] ∧
      record.title = some c.name ∧
      readFields (some c.name) record.schemaVersion record.metadata = .ok c := by
  rw [readProject_eq] at h
  obtain ⟨henvelope, hfields⟩ := check_bind_eq_ok.1 h
  have hversion : record.schemaVersion ∈ [(1 : Int), 2] := by
    obtain ⟨-, henvelope⟩ := check_bind_eq_ok.1 henvelope
    obtain ⟨hversion, -⟩ := (check_bind_eq_ok.1 henvelope).imp_left ensure_eq_ok.1
    simpa using hversion
  have htitle : record.title = some c.name := by
    rw [readFields] at hfields
    obtain ⟨_, -, hrest⟩ := bind_eq_ok.1 hfields
    obtain ⟨name, -, hrest⟩ := bind_eq_ok.1 hrest
    obtain ⟨_, -, hrest⟩ := bind_eq_ok.1 hrest
    obtain ⟨_, -, hrest⟩ := bind_eq_ok.1 hrest
    obtain ⟨htitle, hrest⟩ := (check_bind_eq_ok.1 hrest).imp_left ensure_eq_ok.1
    iterate 10 obtain ⟨_, -, hrest⟩ := bind_eq_ok.1 hrest
    split at hrest
    · cases hrest
      exact htitle
    · obtain ⟨_, -, hrest⟩ := bind_eq_ok.1 hrest
      cases hrest
      exact htitle
  exact ⟨hversion, htitle, htitle ▸ hfields⟩

theorem currentProject_version (projectId : Text) :
    (currentProject projectId).All ok fun current =>
      current.2.schemaVersion = current.1.schemaVersion := by
  refine .after _ fun record => .bind (m := fun info => info.schemaVersion = record.schemaVersion)
    (.catching ?_) fun info hinfo => ?_
  · exact .after _ fun content => .after _ fun _ => .pure rfl
  · exact .after _ fun _ => .pure hinfo

/-- What the updates and the archival of a project are going to write. -/
theorem Call.prepare_rewrites (env : Surroundings) (call : Call) :
    (call.prepare env).All ok fun w => ∀ u draft errors, w = .change u draft errors →
      ∃ c, Rewrites ok env.now u c := by
  cases call with
  | create v sensitivity caller =>
    rw [Call.prepare, Project.create]
    refine .after _ fun _ => .after _ fun _ => .lift fun w h => ?_
    rintro u draft errors rfl
    obtain ⟨-, h⟩ := check_bind_eq_ok.1 h
    obtain ⟨-, h⟩ := check_bind_eq_ok.1 h
    obtain ⟨_, -, h⟩ := bind_eq_ok.1 h
    cases h
  | createV2 v c sensitivity caller =>
    rw [Call.prepare, Project.createV2]
    refine .after _ fun _ => .after _ fun _ => .lift fun w h => ?_
    rintro u draft errors rfl
    obtain ⟨-, h⟩ := check_bind_eq_ok.1 h
    obtain ⟨-, h⟩ := check_bind_eq_ok.1 h
    obtain ⟨_, -, h⟩ := bind_eq_ok.1 h
    cases h
  | update projectId expectedRevision v caller =>
    rw [Call.prepare, Project.update]
    refine .after _ fun _ => .bind (currentProject_version _) ?_
    rintro ⟨record, current⟩ hversion
    dsimp only at hversion ⊢
    refine .bind (.lift fun _ h => ensure_eq_ok.1 h) fun _ hone => ?_
    refine .bind ((validatedProjectValues_ok v).and (validatedProjectValues_all v))
      fun content hcontent => .lift fun w h => ?_
    rintro u draft errors rfl
    have hone : record.schemaVersion = 1 := hversion.symm.trans hone
    exact ⟨content, updateRecord_rewrites hcontent.1 (by simp [hone])
      (by simp [hone, hcontent.2.1]) hcontent.2.2 h⟩
  | updateV2 projectId expectedRevision v c caller =>
    rw [Call.prepare, Project.updateV2]
    refine .after _ fun _ => .bind (currentProject_shown _) ?_
    rintro ⟨record, current⟩ hcurrent
    dsimp only at hcurrent ⊢
    refine .bind ((validatedProjectV2Values_ok v c).and (validatedProjectV2Values_all v c))
      fun content hcontent => .lift fun w h => ?_
    rintro u draft errors rfl
    exact ⟨content, updateRecord_rewrites hcontent.1.1 (by simp) (by simp [hcontent.1.2])
      hcontent.2 h⟩
  | archive projectId expectedRevision caller =>
    rw [Call.prepare, Project.archive]
    refine .after _ fun _ => .bind (currentProject_shown _) ?_
    rintro ⟨record, current⟩ hcurrent
    dsimp only at hcurrent ⊢
    refine .lift fun w h => ?_
    rintro u draft errors rfl
    obtain ⟨-, h⟩ := check_bind_eq_ok.1 h
    obtain ⟨_, -, h⟩ := bind_eq_ok.1 h
    cases h
    obtain ⟨hversion, -, hfields⟩ := readFields_of_readProject hcurrent.content
    refine ⟨current.content, rfl, rfl, rfl, ⟨_, hversion, rfl, hfields⟩, .inr rfl, fun hactive => ?_⟩
    cases hactive

/-- A call puts a project in place. If the clock has not gone back behind the creation of the one in
whose place it is, it can be read, and its links hold as long as it is active; and it is active unless
the call archives it. -/
theorem Call.puts {env : Surroundings} {call : Call} {w : Write} {db db' : Database}
    (hnow : IsUtc env.now) (h : (call.prepare env).on db = .ok w) (hcommit : w.commit db = .ok db') :
    ∃ row, db.Puts row db' ∧ row.recordType = "project" ∧
      (∀ r, db.find? row.id = some r → call.target? = some (uuidText row.id) ∧
        (instant r.createdAt ≤ instant env.now →
          ∃ c, readProject row = .ok c ∧ (row.status = .active → c.links.Hold db))) ∧
      (row.status = .active ∨ call.ArchivesProject row.id) := by
  have hprepared := post_of_on (call.prepare_all env) h
  have hrewrites := post_of_on (call.prepare_rewrites env) h
  -- an update finds the row that the call has read
  have hchanges : ∀ {u : RecordUpdate} {draft errors projectId old}, w = .change u draft errors →
      Current (answersOf db) projectId u.base old → ∃ row, row = u.apply u.base ∧ db.Puts row db' ∧
        row.recordType = "project" ∧ projectId = uuidText row.id ∧
        (∀ r, db.find? row.id = some r → instant r.createdAt ≤ instant env.now →
          ∃ c, readProject row = .ok c ∧ (row.status = .active → c.links.Hold db)) := by
    rintro u draft errors projectId old rfl hcurrent
    obtain ⟨id, hid, hseen⟩ := hcurrent.seen
    obtain rfl := Database.id_of_find? hseen.symm
    obtain ⟨found, hfound, -, -, hwrites⟩ := updateTransaction_writes hcommit
    obtain rfl : u.base = found := Option.some.inj (hseen.trans hfound)
    have hputs : db.Puts (u.apply u.base) db' := by
      refine ⟨hwrites, ?_, ?_⟩
      all_goals
        intro r hr
        obtain rfl : u.base = r := Option.some.inj (hfound.symm.trans hr)
        rfl
    refine ⟨u.apply u.base, rfl, hputs, hcurrent.recordType, hid, fun r hr hclock => ?_⟩
    obtain rfl : u.base = r := Option.some.inj (hfound.symm.trans hr)
    obtain ⟨c, hu⟩ := hrewrites u draft errors rfl
    obtain ⟨version, hversion, hschema, hfields⟩ := hu.version
    have henvelope := (check_bind_eq_ok.1 ((readProject_eq u.base).symm.trans hcurrent.content)).1
    refine ⟨c, ?_, fun hactive => hu.shown hactive db fun _ _ ha => ha⟩
    rw [readProject_eq, validateEnvelope_apply henvelope (by rw [hschema]; exact hversion) hu.status
      hu.provenance (hu.now ▸ hnow) (hu.now ▸ hclock), ok_bind]
    simp only [RecordUpdate.apply, hu.title, hschema, Option.getD_some]
    exact hfields
  cases hprepared with
  | created htarget htype hactive hmetadata hshown =>
    obtain ⟨hfree, hwrites⟩ := createTransaction_writes hcommit
    refine ⟨_, .of_created hwrites hfree, htype, fun r hr => ?_, .inl hactive⟩
    rw [hfree] at hr
    cases hr
  | rewritten htarget harchives hcurrent hactive hmetadata hshown =>
    obtain ⟨row, rfl, hputs, htype, hid, hread⟩ := hchanges rfl hcurrent
    exact ⟨_, hputs, htype, fun r hr => ⟨hid ▸ htarget, hread r hr⟩, .inl hactive⟩
  | archived hcurrent hstatus hmetadata =>
    obtain ⟨row, rfl, hputs, htype, hid, hread⟩ := hchanges rfl hcurrent
    exact ⟨_, hputs, htype, fun r hr => ⟨congrArg some hid, hread r hr⟩, .inr hid⟩

end

end DollState.Project
