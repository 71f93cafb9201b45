import DollState.Domain.ProjectStatus
import DollState.Domain.ReaderErrors

/-!
# What the status builder catches

A record that exists and has its type raises nothing but what the status builder turns into one
error: whatever the record holds and whatever it links to, its reader fails as a malformed record
does.
-/

namespace DollState

open StateLib

/-- An error of one of the classes. -/
def OfKinds (kinds : List ErrorKind) (e : DollError) : Prop := e.isA kinds = true

section

variable {kinds caught outer : List ErrorKind} {kind : ErrorKind} {α : Type} {e : DollError}

theorem ofKinds_iff : OfKinds kinds e ↔ e.kind ∈ kinds := by simp [OfKinds, DollError.isA]

theorem raises_among {x : Result α} (h : RaisesOnly (OfKind kind) x) (hkind : kind ∈ kinds) :
    RaisesOnly (OfKinds kinds) x := by
  intro e he
  have hkind' : e.kind = kind := h e he
  rw [ofKinds_iff, hkind']
  exact hkind

theorem raises_widen {inner : List ErrorKind} {x : Result α}
    (h : RaisesOnly (OfKinds inner) x) (hkinds : ∀ k ∈ inner, k ∈ kinds) :
    RaisesOnly (OfKinds kinds) x :=
  fun e he => ofKinds_iff.2 (hkinds _ (ofKinds_iff.1 (h e he)))

/-- A handler passes on what it does not catch. -/
theorem raises_handler (inner : List ErrorKind) {x : Result α} (h : RaisesOnly (OfKinds inner) x)
    (hkinds : ∀ k ∈ inner, k ∈ caught ∨ k ∈ outer) (he : OfKinds outer e) :
    RaisesOnly (OfKinds outer) (catching (DollError.isA caught) e x) := by
  refine raises_catching (fun e' he' => ?_) he
  exact (hkinds _ (ofKinds_iff.1 (h e' he'))).imp (fun h => ofKinds_iff.2 h)
    fun h => ofKinds_iff.2 h

variable {db : Database}

theorem raises_getRecord {id : RecordId} (h : .key ∈ kinds) :
    RaisesOnly (OfKinds kinds) (db.getRecord id) :=
  raisesOnly_orFail (ofKinds_iff.2 h)

theorem raises_linkTo {accepts : RecordEnvelope → Bool} {id : RecordId} (h : OfKinds kinds e) :
    RaisesOnly (OfKinds kinds) ((linkTo e accepts id).on db) := by
  have hselect : (selectRecord id).run db.answer = .ok (db.find? id) := rfl
  rw [linkTo, Reader.on, ReadProgram.run_bind, hselect, ok_bind]
  cases db.find? id with
  | some r => exact raisesOnly_ensure h
  | none => exact (raisesOnly_error _).2 h

/-- The links of one sort. -/
theorem raises_links {f : RecordId → Reader Unit} {ids : List RecordId}
    (h : ∀ id, RaisesOnly (OfKinds kinds) ((f id).on db)) :
    RaisesOnly (OfKinds kinds) (Reader.on (ReadProgram.forEach f ids) db) := by
  rw [Reader.on, ReadProgram.run_forEach]
  exact RaisesOnly.forEach fun id _ => h id

theorem raises_collect {ι : Type} {f : ι → Reader α} {xs : List ι}
    (h : ∀ x, RaisesOnly (OfKinds kinds) ((f x).on db)) :
    RaisesOnly (OfKinds kinds) (Reader.on (ReadProgram.collect f xs) db) := by
  rw [Reader.on, ReadProgram.run_collect]
  exact RaisesOnly.mapM fun x _ => h x

/-- One read after the other. -/
theorem raises_then {β : Type} {p : Reader α} {f : α → Reader β}
    (hp : RaisesOnly (OfKinds kinds) (p.on db)) (hf : ∀ a, RaisesOnly (OfKinds kinds) ((f a).on db)) :
    RaisesOnly (OfKinds kinds) ((p >>= f).on db) := by
  rw [Reader.on, ReadProgram.run_bind]
  exact raisesOnly_bind.2 ⟨hp, fun a _ => hf a⟩

theorem raises_check {p : Prop} [Decidable p] (h : OfKinds kinds e) :
    RaisesOnly (OfKinds kinds) (Reader.on (monadLift (ensure p e)) db) :=
  raisesOnly_ensure h

theorem raises_caught (inner : List ErrorKind) {p : Reader α} (h : RaisesOnly (OfKinds inner) (p.on db))
    (hkinds : ∀ k ∈ inner, k ∈ caught ∨ k ∈ outer) (he : OfKinds outer e) :
    RaisesOnly (OfKinds outer) (Reader.on (ReadProgram.catching (DollError.isA caught) e p) db) := by
  rw [Reader.on, ReadProgram.run_catching]
  exact raises_handler inner h hkinds he

theorem raises_returns (a : α) : RaisesOnly (OfKinds kinds) (Reader.on (pure a) db) :=
  raisesOnly_pure a

end

variable [PythonLibrary] [ModuleRules] {db : Database}

/-! ## Projects and decisions -/

namespace Project

theorem raises_validateTypedLinks {links : TypedLinks} :
    RaisesOnly (OfKinds [.projectDecisionValidation]) ((validateTypedLinks links).on db) := by
  have hlink : ∀ (message : String) (accepts : RecordEnvelope → Bool) (ids : List RecordId),
      RaisesOnly (OfKinds [.projectDecisionValidation])
        (Reader.on (ReadProgram.forEach (linkTo (invalid message) accepts) ids) db) :=
    fun _ _ _ => raises_links fun _ => raises_linkTo rfl
  exact raises_then (hlink _ _ _) fun _ => raises_then (hlink _ _ _) fun _ =>
    raises_then (hlink _ _ _) fun _ => raises_then (hlink _ _ _) fun _ =>
    raises_then (hlink _ _ _) fun _ => hlink _ _ _

theorem raises_projectFromRecordLive {record : RecordEnvelope} :
    RaisesOnly (OfKinds [.projectDecisionCorrupt]) ((projectFromRecordLive record).on db) := by
  refine raises_caught [.projectDecisionValidation] ?_ (by decide) rfl
  refine raises_then (raises_among raises_readProject (by decide)) fun c => ?_
  exact raises_then raises_validateTypedLinks fun _ => raises_returns _

theorem raises_decisionFromRecordLive {record : RecordEnvelope} :
    RaisesOnly (OfKinds [.projectDecisionCorrupt]) ((decisionFromRecordLive record).on db) := by
  refine raises_caught [.projectDecisionValidation] ?_ (by decide) rfl
  refine raises_then (raises_among raises_readDecision (by decide)) fun c => ?_
  exact raises_then raises_validateTypedLinks fun _ => raises_returns _

end Project

/-! ## Work items -/

namespace WorkItem

omit [ModuleRules] in
theorem raises_workItemFromRecord {record : RecordEnvelope} {kinds : List ErrorKind}
    (h : .workItemCorrupt ∈ kinds) : RaisesOnly (OfKinds kinds) (workItemFromRecord record) := by
  refine raises_handler [.workItemValidation] ?_
    (fun k hk => .inl (by simp [List.mem_singleton.1 hk, malformed])) (ofKinds_iff.2 h)
  refine raisesOnly_bind.2 ⟨raises_among raises_readWorkItem (by decide), fun _ _ => ?_⟩
  exact raisesOnly_pure _

omit [ModuleRules] in
theorem raises_relationTarget {projectId linkedId : RecordId} :
    RaisesOnly (OfKinds [.workItemValidation]) ((relationTarget projectId linkedId).on db) := by
  refine raises_then ?_ fun item => raises_then (raises_check rfl) fun _ => raises_returns _
  refine raises_caught [.key, .workItemCorrupt, .workItemValidation] ?_ (by decide) rfl
  refine raises_then (raises_getRecord (by decide)) fun r => ?_
  exact raises_then (raises_check rfl) fun _ => raises_workItemFromRecord (by decide)

omit [ModuleRules] in
/-- Reading a record of the dependency graph may raise the error of that record. -/
theorem raises_validateWorkItemRelations {selfId projectId : RecordId}
    {dependsOnIds blockedByIds : List RecordId} :
    RaisesOnly (OfKinds [.key, .workItemCorrupt, .workItemValidation])
      ((validateWorkItemRelations selfId projectId dependsOnIds blockedByIds).on db) := by
  have htarget : ∀ ids : List RecordId,
      RaisesOnly (OfKinds [.key, .workItemCorrupt, .workItemValidation])
        (Reader.on (ReadProgram.collect (relationTarget projectId) ids) db) := fun _ =>
    raises_collect fun _ => raises_widen raises_relationTarget (by decide)
  refine raises_then (htarget _) fun _ => raises_then (htarget _) fun blockers => ?_
  refine raises_then (RaisesOnly.forEach fun _ _ => raisesOnly_ensure rfl) fun _ => ?_
  refine raises_then (raisesOnly_ok _) fun ids => ?_
  refine raises_then (raises_collect fun id => ?_) fun items => raises_check rfl
  exact raises_then (raises_getRecord (by decide)) fun r => raises_workItemFromRecord (by decide)

/-- The link to a project that is to be active. -/
theorem raises_activeProject {projectId : RecordId} {e e' : DollError} {kinds caught : List ErrorKind}
    {P : RecordEnvelope → Prop} [DecidablePred P] (he : OfKinds kinds e) (he' : e'.kind ∈ caught)
    (hkey : .key ∈ caught) (hcorrupt : .projectDecisionCorrupt ∈ caught) :
    RaisesOnly (OfKinds kinds) (Reader.on
      (ReadProgram.catching (DollError.isA caught) e do
        let record ← getRecord projectId
        ensure (P record) e'
        let _ ← Project.projectFromRecordLive record) db) := by
  refine raises_caught caught ?_ (fun k hk => .inl hk) he
  refine raises_then (raises_getRecord hkey) fun r => ?_
  refine raises_then (raises_check (ofKinds_iff.2 he')) fun _ => ?_
  refine raises_then (raises_widen Project.raises_projectFromRecordLive ?_) fun _ => raises_returns _
  simpa using hcorrupt

theorem raises_validateDecisionLink {decisionId : RecordId} :
    RaisesOnly (OfKinds [.workItemValidation]) ((validateDecisionLink decisionId).on db) := by
  refine raises_caught [.key, .projectDecisionCorrupt, .workItemValidation] ?_ (by decide)
    rfl
  refine raises_then (raises_getRecord (by decide)) fun r => ?_
  refine raises_then (raises_check rfl) fun _ => ?_
  exact raises_then (raises_widen Project.raises_decisionFromRecordLive (by decide)) fun _ =>
    raises_returns _

omit [PythonLibrary] [ModuleRules] in
theorem raises_validateSourceLink {sourceId : RecordId} :
    RaisesOnly (OfKinds [.workItemValidation]) ((validateSourceLink sourceId).on db) := by
  refine raises_then ?_ fun r => raises_check rfl
  exact raises_caught [.key] (raises_getRecord List.mem_cons_self) (by decide) rfl

theorem raises_validateTypedLinks {decisionIds evidenceIds artifactIds sourceIds : List RecordId} :
    RaisesOnly (OfKinds [.workItemValidation])
      ((validateTypedLinks decisionIds evidenceIds artifactIds sourceIds).on db) := by
  refine raises_then (raises_links fun _ => raises_validateDecisionLink) fun _ => ?_
  refine raises_then (raises_links fun _ => raises_linkTo rfl) fun _ => ?_
  refine raises_then (raises_links fun _ => raises_linkTo rfl) fun _ => ?_
  exact raises_links fun _ => raises_validateSourceLink

theorem raises_workItemFromRecordLive {record : RecordEnvelope} :
    RaisesOnly (OfKinds [.workItemCorrupt]) ((workItemFromRecordLive record).on db) := by
  refine raises_caught [.key, .workItemCorrupt, .workItemValidation] ?_ (by decide) rfl
  refine raises_then (raises_among raises_readWorkItem (by decide)) fun c => ?_
  refine raises_then ?_ fun _ => raises_returns _
  refine raises_then (raises_activeProject rfl (by decide) (by decide) (by decide)) fun _ => ?_
  refine raises_then raises_validateWorkItemRelations fun _ => ?_
  exact raises_widen raises_validateTypedLinks (by decide)

end WorkItem

/-! ## Checkpoints -/

namespace Checkpoint

omit [ModuleRules] in
theorem raises_validateRole {projectId recordId : RecordId} {status : WorkItem.WorkItemStatus}
    {expectedKind : Option WorkItem.WorkItemKind} :
    RaisesOnly (OfKinds [.key, .checkpointValidation])
      ((validateRole projectId status expectedKind recordId).on db) := by
  refine raises_then ?_ fun item => ?_
  · refine raises_caught [.key, .workItemCorrupt, .checkpointValidation] ?_ (by decide)
      rfl
    refine raises_then (raises_getRecord (by decide)) fun r => ?_
    refine raises_then (raises_check rfl) fun _ => WorkItem.raises_workItemFromRecord (by decide)
  · refine raises_then (raises_check rfl) fun _ => ?_
    exact raises_then (raises_check rfl) fun _ => raises_check rfl

theorem raises_validateLiveLinks {c : CheckpointContent} :
    RaisesOnly (OfKinds [.key, .checkpointValidation]) ((validateLiveLinks c).on db) := by
  refine raises_then
    (WorkItem.raises_activeProject rfl (by decide) (by decide) (by decide)) fun _ => ?_
  refine raises_then ?_ fun _ => raises_links fun _ => ?_
  · refine raises_then (raises_links fun _ => raises_validateRole) fun _ => ?_
    refine raises_then (raises_links fun _ => raises_validateRole) fun _ => ?_
    refine raises_then (raises_links fun _ => raises_validateRole) fun _ => ?_
    exact raises_links fun _ => raises_validateRole
  · refine raises_then ?_ fun r => raises_check rfl
    exact raises_caught [.key] (raises_getRecord List.mem_cons_self) (by decide) rfl

omit [PythonLibrary] [ModuleRules] in
theorem raises_basisUnchanged {revisions : BasisRevisions} :
    RaisesOnly (OfKinds [.key, .checkpointValidation]) ((basisUnchanged revisions).on db) := by
  induction revisions with
  | nil => exact raises_returns true
  | cons entry rest ih =>
    refine raises_then (raises_getRecord (by decide)) fun r => ?_
    split
    · exact ih
    · exact raises_returns false

omit [PythonLibrary] [ModuleRules] in
theorem raises_succeeds {kinds : List ErrorKind} {p : Reader Bool}
    (h : RaisesOnly (OfKinds kinds) (p.on db)) :
    RaisesOnly (OfKinds []) ((succeeds kinds p).on db) := by
  induction p with
  | done r =>
    cases r with
    | ok b => exact raisesOnly_ok b
    | error e =>
      rw [succeeds, if_pos (show e.isA kinds = true from h e rfl)]
      exact raisesOnly_ok false
  | ask q k ih => exact ih _ h

/-- Deriving the freshness of a checkpoint raises nothing. -/
theorem raises_deriveFreshness {c : CheckpointContent} :
    RaisesOnly (OfKinds []) ((deriveFreshness c).on db) := by
  unfold deriveFreshness
  split
  · exact raises_returns none
  · exact raises_returns _
  · refine raises_then (raises_succeeds (raises_then raises_basisUnchanged fun b => ?_))
      fun _ => raises_returns _
    split
    · exact raises_then raises_validateLiveLinks fun _ => raises_returns true
    · exact raises_returns false

theorem raises_checkpointFromRecordLive {record : RecordEnvelope} :
    RaisesOnly (OfKinds [.checkpointCorrupt]) ((checkpointFromRecordLive record).on db) := by
  refine raises_caught [.checkpointValidation] ?_ (by decide) rfl
  refine raises_then (raises_among raises_readCheckpoint (by decide)) fun c => ?_
  exact raises_then (raises_widen raises_deriveFreshness (by decide)) fun _ => raises_returns _

end Checkpoint

/-! ## Procedures -/

namespace Procedure

omit [ModuleRules] in
theorem raises_procedureFromRecord {record : RecordEnvelope} :
    RaisesOnly (OfKinds [.procedureCorrupt]) (procedureFromRecord record) := by
  refine raises_handler [.procedureValidation] ?_ (by decide) rfl
  refine raisesOnly_bind.2 ⟨raises_among raises_readProcedure (by decide), fun _ _ => ?_⟩
  exact raisesOnly_pure _

omit [ModuleRules] in
theorem raises_linkedProcedure {relation : String} {projectId linkedId : RecordId} :
    RaisesOnly (OfKinds [.procedureValidation])
      ((linkedProcedure relation projectId linkedId).on db) := by
  refine raises_then ?_ fun linked => raises_then (raises_check rfl) fun _ => raises_returns _
  refine raises_caught [.key, .procedureCorrupt] ?_ (by decide) rfl
  refine raises_then (raises_getRecord (by decide)) fun r => ?_
  exact raises_widen raises_procedureFromRecord (by decide)

theorem raises_validateLinks {selfId : RecordId} {c : ProcedureContent} :
    RaisesOnly (OfKinds [.procedureValidation]) ((validateLinks selfId c).on db) := by
  refine raises_then
    (WorkItem.raises_activeProject rfl (by decide) (by decide) (by decide)) fun _ => ?_
  refine raises_then (raises_links fun _ => ?_) fun _ => ?_
  · refine raises_then ?_ fun r => raises_check rfl
    exact raises_caught [.key] (raises_getRecord List.mem_cons_self) (by decide) rfl
  refine raises_then (raises_links fun _ => raises_linkTo rfl) fun _ => ?_
  refine raises_then (raises_links fun _ => ?_) fun _ => raises_links fun _ => ?_
  · refine raises_then raises_linkedProcedure fun linked => ?_
    refine raises_then (raises_check rfl) fun _ => ?_
    exact raises_then (raises_check rfl) fun _ => raises_check rfl
  · refine raises_then raises_linkedProcedure fun linked => ?_
    exact raises_then (raises_check rfl) fun _ => raises_check rfl

theorem raises_procedureFromRecordLive {record : RecordEnvelope} :
    RaisesOnly (OfKinds [.procedureCorrupt]) ((procedureFromRecordLive record).on db) := by
  refine raises_caught [.procedureValidation] ?_ (by decide) rfl
  refine raises_then (raises_among raises_readProcedure (by decide)) fun c => ?_
  exact raises_then raises_validateLinks fun _ => raises_returns _

end Procedure

/-! ## The services -/

section

variable {id : RecordId} {r : RecordEnvelope}

omit [ModuleRules] in
theorem run_getRecordText (hr : db.find? id = some r) :
    (getRecordText (uuidText id)).run db.answer = .ok r :=
  (getRecordText_on (uuidText id) db).2 ⟨id, rfl, hr⟩

/-- A record that exists and has its type is read. -/
theorem WorkItem.get_uuidText (hr : db.find? id = some r) (htype : r.recordType = "work_item") :
    (WorkItem.get (uuidText id)).on db = (WorkItem.workItemFromRecordLive r).on db := by
  simp [WorkItem.get, WorkItem.requireRecord, Reader.on, uuidField, uuid_uuidText, orFail_some,
    Database.getRecord_eq_ok.2 hr, htype, catching, ensure]

theorem Checkpoint.get_uuidText (hr : db.find? id = some r)
    (htype : r.recordType = "project_checkpoint") :
    (Checkpoint.get (uuidText id)).on db = (Checkpoint.checkpointFromRecordLive r).on db := by
  simp [Checkpoint.get, Checkpoint.requireRecord, Reader.on, uuidField, uuid_uuidText, orFail_some,
    Database.getRecord_eq_ok.2 hr, htype, catching, ensure]

theorem Procedure.get_uuidText (hr : db.find? id = some r) (htype : r.recordType = "procedure") :
    (Procedure.get (uuidText id)).on db = (Procedure.procedureFromRecordLive r).on db := by
  simp [Procedure.get, Procedure.requireRecord, Reader.on, uuidField, uuid_uuidText, orFail_some,
    Database.getRecord_eq_ok.2 hr, htype, catching, ensure]

theorem Project.getDecision_uuidText (hr : db.find? id = some r) (htype : r.recordType = "decision") :
    (Project.getDecision (uuidText id)).on db = (Project.decisionFromRecordLive r).on db := by
  simp [Project.getDecision, Project.requireRecord, Reader.on, run_getRecordText hr, htype, ensure]

end

namespace Status

/-- An error that the builder turns into its own. -/
def Caught (e : DollError) : Prop := OfKinds malformed e

omit [ModuleRules] in
/-- Every policy that cannot be read is a malformed one, or none. -/
theorem raises_getPolicy {policyId : Text} :
    RaisesOnly Caught ((Settings.Policy.get policyId).on db) := by
  refine raises_then ?_ fun r => ?_
  · refine raises_then ?_ fun r => raises_then (raises_check rfl) fun _ => raises_returns _
    exact raises_then (raisesOnly_orFail rfl) fun id => raises_getRecord (by decide)
  · refine raisesOnly_bind.2 ⟨?_, fun c _ => raisesOnly_pure _⟩
    exact raises_catching (fun e he => .inl (Settings.raises_readPolicy e he)) rfl

end Status

end DollState
