import DollState.Domain.ProjectLinks
import DollState.Domain.ProjectService

/-!
# What the calls of the project service write

`Prepared` says of each call what its transaction is going to write, and what its reads have shown
of it (`Call.prepare_all`).
-/

namespace DollState.Project

open StateLib

/-- The project that a call changes. -/
def Call.target? : Call → Option Text
  | .create .. => none
  | .createV2 .. => none
  | .update projectId .. => some projectId
  | .updateV2 projectId .. => some projectId
  | .archive projectId .. => some projectId

/-- The call archives its project. -/
def Call.Archives : Call → Prop
  | .archive .. => True
  | _ => False

section

variable [PythonLibrary] [ModuleRules] (ok : (q : StateQuery) → q.Answer → Prop)

/-- The reads have shown the links of the content to hold. -/
def Shown (content : ProjectContent) : Prop :=
  ∀ db, AnsweredBy ok db → content.links.Hold db

/-- The reads have shown the row to be an active project. -/
structure Current (projectId : Text) (base : RecordEnvelope) (content : ProjectContent) : Prop where
  seen : ∃ id, projectId = uuidText id ∧ ok (.record id) (some base)
  content : readProject base = .ok content
  recordType : base.recordType = "project"
  active : base.status = .active

/-- What a call is going to write, and what it has read of it. -/
inductive Prepared : Call → Write → Prop
  | created {call : Call} {row : RecordEnvelope} {draft : AuditDraft} {failed : DollError}
      {content : ProjectContent} (htarget : call.target? = none) (htype : row.recordType = "project")
      (hactive : row.status = .active) (hmetadata : row.metadata = content.metadata)
      (hshown : Shown ok content) : Prepared call (.create row draft failed)
  | rewritten {call : Call} {projectId : Text} {u : RecordUpdate} {draft : AuditDraft}
      {errors : TransactionErrors} {old content : ProjectContent}
      (htarget : call.target? = some projectId) (harchives : ¬ call.Archives)
      (hcurrent : Current ok projectId u.base old) (hactive : u.status = .active)
      (hmetadata : u.metadata = content.metadata) (hshown : Shown ok content) :
      Prepared call (.change u draft errors)
  | archived {projectId : Text} {expectedRevision : Int} {caller : Caller} {u : RecordUpdate}
      {draft : AuditDraft} {errors : TransactionErrors} {old : ProjectContent}
      (hcurrent : Current ok projectId u.base old) (hstatus : u.status = .archived)
      (hmetadata : u.metadata = u.base.metadata) :
      Prepared (.archive projectId expectedRevision caller) (.change u draft errors)

variable {ok}

theorem validateTypedLinks_shown (links : TypedLinks) :
    (validateTypedLinks links).All ok fun _ => ∀ db, AnsweredBy ok db → links.Hold db :=
  .mono (fun _ _ h => h)
    (fun _ h (db : Database) hdb => validateTypedLinks_on.1 (h db.answer hdb)) (.self _)

/-- What the validator of version 1 has established. -/
theorem validatedProjectValues_all (v : ProjectValues) :
    (validatedProjectValues v).All ok fun content => content.charter = none ∧ Shown ok content := by
  rw [validatedProjectValues]
  refine .after _ fun name => .after _ fun description => .after _ fun projectStatus =>
    .after _ fun startedAt => .after _ fun endedAt => .after _ fun _ => .after _ fun decisionIds =>
    .after _ fun memoryIds => .after _ fun artifactIds => ?_
  refine .bind (validateTypedLinks_shown _) fun _ hlinks => .pure ⟨rfl, fun db hdb => ?_⟩
  exact hlinks db hdb

/-- The links of a version 2 project are those of version 1 and its governing policies. -/
theorem validatedProjectV2Values_all (v : ProjectValues) (c : CharterValues) :
    (validatedProjectV2Values v c).All ok (Shown ok) := by
  rw [validatedProjectV2Values]
  refine .bind (validatedProjectValues_all v) fun content hcontent => ?_
  obtain ⟨hcharter, hshown⟩ := hcontent
  refine .after _ fun objective => .after _ fun inScope => .after _ fun outOfScope =>
    .after _ fun successCriteria => .after _ fun governingPolicyIds => ?_
  refine .bind (validateTypedLinks_shown _) fun _ hlinks => .pure fun db hdb => ?_
  obtain ⟨h₁, h₂, h₃, h₄, h₅, -⟩ := hshown db hdb
  exact ⟨h₁, h₂, h₃, h₄, h₅, (hlinks db hdb).policies⟩

theorem currentProject_shown (projectId : Text) :
    (currentProject projectId).All ok fun current =>
      Current ok projectId current.1 current.2.content := by
  have hrequire : (requireRecord projectId "project").All ok fun record =>
      (∃ id, projectId = uuidText id ∧ ok (.record id) (some record)) ∧
        record.recordType = "project" := by
    refine .bind (m := fun record => ∃ id, projectId = uuidText id ∧
      ok (.record id) (some record)) ?_ fun record hrecord => ?_
    · refine .bind (.lift fun id h => canonicalId?_eq_some.1 (orFail_eq_ok.1 h)) fun id hid => ?_
      exact .mono (fun _ _ h => h) (fun record h => ⟨id, hid, h⟩) (getRecord_all id)
    · exact .bind (.lift fun _ h => ensure_eq_ok.1 h) fun _ htype => .pure ⟨hrecord, htype⟩
  refine .bind hrequire fun record hrecord => ?_
  refine .bind (m := fun info => readProject record = .ok info.content ∧
    info.lifecycleStatus = record.status) (.catching ?_) ?_
  · refine .bind (.lift fun content h => h) fun content hcontent => ?_
    exact .after _ fun _ => .pure ⟨hcontent, rfl⟩
  · rintro info ⟨hcontent, hstatus⟩
    refine .bind (.lift fun _ h => ensure_eq_ok.1 h) fun _ hactive => .pure ?_
    exact ⟨hrecord.1, hcontent, hrecord.2, hstatus ▸ hactive⟩

theorem createRecord_prepared {env : Surroundings} {content : ProjectContent}
    {sensitivity : RecordSensitivity} {operation : Option Text} {action : String}
    {schemaVersion : Int} {call : Call} {w : Write} (htarget : call.target? = none)
    (hshown : Shown ok content)
    (h : createRecord env "project" content.name content.metadata .userCreated sensitivity operation
      action schemaVersion = .ok w) : Prepared ok call w := by
  obtain ⟨-, h⟩ := check_bind_eq_ok.1 h
  obtain ⟨-, h⟩ := check_bind_eq_ok.1 h
  obtain ⟨_, -, h⟩ := bind_eq_ok.1 h
  rw [← pure_eq_ok.1 h]
  exact .created htarget rfl rfl rfl hshown

theorem updateRecord_rewritten {env : Surroundings} {base : RecordEnvelope} {projectId : Text}
    {expectedRevision : Int} {old content : ProjectContent} {operation : Option Text}
    {action : String} {schemaVersion : Option Int} {call : Call} {w : Write}
    (htarget : call.target? = some projectId) (harchives : ¬ call.Archives)
    (hcurrent : Current ok projectId base old) (hshown : Shown ok content)
    (h : updateRecord env base expectedRevision content.name content.metadata .active .userCreated
      operation action schemaVersion = .ok w) : Prepared ok call w := by
  obtain ⟨-, h⟩ := check_bind_eq_ok.1 h
  obtain ⟨_, -, h⟩ := bind_eq_ok.1 h
  rw [← pure_eq_ok.1 h]
  exact .rewritten htarget harchives hcurrent rfl rfl hshown

/-- What a call has read and what it is going to write. -/
theorem Call.prepare_all (env : Surroundings) (call : Call) :
    (call.prepare env).All ok (Prepared ok call) := by
  cases call with
  | create v sensitivity caller =>
    rw [Call.prepare, Project.create]
    refine .after _ fun _ => .bind (validatedProjectValues_all v) fun content hcontent =>
      .lift fun w h => createRecord_prepared rfl hcontent.2 h
  | createV2 v c sensitivity caller =>
    rw [Call.prepare, Project.createV2]
    exact .after _ fun _ => .bind (validatedProjectV2Values_all v c) fun content hcontent =>
      .lift fun w h => createRecord_prepared rfl hcontent h
  | update projectId expectedRevision v caller =>
    rw [Call.prepare, Project.update]
    refine .after _ fun _ => .bind (currentProject_shown _) ?_
    rintro ⟨record, current⟩ hcurrent
    dsimp only at hcurrent ⊢
    refine .after _ fun _ => .bind (validatedProjectValues_all v) fun content hcontent =>
      .lift fun w h => ?_
    exact updateRecord_rewritten rfl id hcurrent hcontent.2 h
  | updateV2 projectId expectedRevision v c caller =>
    rw [Call.prepare, Project.updateV2]
    refine .after _ fun _ => .bind (currentProject_shown _) ?_
    rintro ⟨record, current⟩ hcurrent
    dsimp only at hcurrent ⊢
    refine .bind (validatedProjectV2Values_all v c) fun content hcontent => .lift fun w h => ?_
    exact updateRecord_rewritten rfl id hcurrent hcontent h
  | archive projectId expectedRevision caller =>
    rw [Call.prepare, Project.archive]
    refine .after _ fun _ => .bind (currentProject_shown _) ?_
    rintro ⟨record, current⟩ hcurrent
    dsimp only at hcurrent ⊢
    refine .lift fun w h => ?_
    obtain ⟨-, h⟩ := check_bind_eq_ok.1 h
    obtain ⟨_, -, h⟩ := bind_eq_ok.1 h
    rw [← pure_eq_ok.1 h]
    exact .archived hcurrent rfl rfl

end

end DollState.Project
