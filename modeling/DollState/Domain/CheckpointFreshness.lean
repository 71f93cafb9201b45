import DollState.Library.Run
import DollState.Domain.CheckpointWrites
import DollState.Domain.ProjectWrites
import DollState.Domain.WorkItemWrites
import DollState.State.Reference

/-!
# The freshness of a checkpoint over a run

A confirmed checkpoint is current while its basis is at the revisions it has captured and its links
hold. A revision that is captured is one that has been read, and revisions only go up: so a basis
record that has once left its captured revision never comes back to it, and no call captures a
basis a second time (`Outdated`). What is read as current is up to date (`UpToDate`).
-/

namespace DollState.Checkpoint

open StateLib

section

variable [PythonLibrary] [ModuleRules]

/-! ## What current means -/

/-- The work item is an active one of the project, in the status. -/
def ListedAs (db : Database) (projectId : RecordId) (status : WorkItem.WorkItemStatus)
    (id : RecordId) : Prop :=
  db.Has id fun r => r.recordType = "work_item" ∧ r.status = .active ∧
    ∃ item, WorkItem.workItemFromRecord r = .ok item ∧
      item.content.projectId = projectId ∧ item.content.workStatus = status

/-- The state is the one that the checkpoint describes. -/
structure UpToDate (db : Database) (c : CheckpointContent) : Prop where
  revisions : ∀ entry ∈ c.basisRecordRevisions, db.Has entry.1 fun r => r.revision = entry.2
  cover : c.basisRecordRevisions.Cover c.basis
  project : db.Has c.projectId fun r => r.recordType = "project" ∧ r.status = .active
  active : ∀ id ∈ c.activeWorkItemIds, ListedAs db c.projectId .inProgress id
  next : ∀ id ∈ c.nextWorkItemIds, ListedAs db c.projectId .ready id
  blocked : ∀ id ∈ c.blockedWorkItemIds, ListedAs db c.projectId .blocked id
  completed : ∀ id ∈ c.completedMilestoneIds, ListedAs db c.projectId .completed id

/-- A basis record is at another revision than the captured one. -/
def Outdated (db : Database) (c : CheckpointContent) : Prop :=
  ∃ entry ∈ c.basisRecordRevisions, db.Has entry.1 fun r => r.revision ≠ entry.2

omit [PythonLibrary] [ModuleRules] in
theorem basisUnchanged_on {db : Database} {revisions : BasisRevisions} {b : Bool}
    (h : (basisUnchanged revisions).on db = .ok b) :
    b = true ↔ ∀ entry ∈ revisions, db.Has entry.1 fun r => r.revision = entry.2 := by
  induction revisions with
  | nil =>
    cases h
    simp
  | cons entry rest ih =>
    obtain ⟨id, expected⟩ := entry
    rw [basisUnchanged, Reader.on, ReadProgram.run_bind, bind_eq_ok] at h
    obtain ⟨r, hr, h⟩ := h
    have hfind := Database.getRecord_eq_ok.1 hr
    rw [List.forall_mem_cons]
    split at h
    · rename_i hrevision
      rw [ih h]
      exact (and_iff_right ⟨r, hfind, hrevision⟩).symm
    · rename_i hrevision
      cases h
      refine iff_of_false (by simp) fun hall => ?_
      obtain ⟨r', hr', hrevision'⟩ := hall.1
      cases hfind.symm.trans hr'
      exact hrevision hrevision'

omit [PythonLibrary] [ModuleRules] in
theorem succeeds_on {kinds : List ErrorKind} {p : Reader Bool} {db : Database}
    (h : (succeeds kinds p).on db = .ok true) : p.on db = .ok true := by
  induction p with
  | done r =>
    cases r with
    | ok b => exact h
    | error e =>
      rw [succeeds] at h
      split at h <;> cases h
  | ask q k ih => exact ih _ h

omit [ModuleRules] in
theorem validateRole_on {db : Database} {projectId id : RecordId}
    {status : WorkItem.WorkItemStatus} {kind : Option WorkItem.WorkItemKind} {u : Unit}
    (h : (validateRole projectId status kind id).on db = .ok u) :
    ListedAs db projectId status id := by
  simp only [validateRole, Reader.on, ReadProgram.run_bind, ReadProgram.run_lift] at h
  obtain ⟨item, hitem, h⟩ := bind_eq_ok.1 h
  simp only [activeWorkItem, ReadProgram.run_catching, catching_eq_ok, ReadProgram.run_bind,
    ReadProgram.run_lift] at hitem
  obtain ⟨r, hr, hitem⟩ := bind_eq_ok.1 hitem
  obtain ⟨⟨htype, hactive⟩, hitem⟩ := (check_bind_eq_ok.1 hitem).imp_left ensure_eq_ok.1
  obtain ⟨hproject, h⟩ := (check_bind_eq_ok.1 h).imp_left ensure_eq_ok.1
  obtain ⟨hstatus, -⟩ := (check_bind_eq_ok.1 h).imp_left ensure_eq_ok.1
  exact ⟨r, Database.getRecord_eq_ok.1 hr, htype, hactive, item, hitem, hproject, hstatus⟩

theorem validateProjectLink_on {db : Database} {projectId : RecordId} {u : Unit}
    (h : (validateProjectLink projectId).on db = .ok u) :
    db.Has projectId fun r => r.recordType = "project" ∧ r.status = .active := by
  simp only [validateProjectLink, Reader.on, ReadProgram.run_catching, catching_eq_ok,
    ReadProgram.run_bind, ReadProgram.run_lift] at h
  obtain ⟨r, hr, h⟩ := bind_eq_ok.1 h
  obtain ⟨hproject, -⟩ := (check_bind_eq_ok.1 h).imp_left ensure_eq_ok.1
  exact ⟨r, Database.getRecord_eq_ok.1 hr, hproject⟩

/-- A confirmed checkpoint that is found to be current is up to date. -/
theorem upToDate_of_deriveFreshness {db : Database} {r : RecordEnvelope} {c : CheckpointContent}
    (hreads : Reads r c) (h : (deriveFreshness c).on db = .ok (some .current)) :
    c.confirmationState = .confirmed ∧ UpToDate db c := by
  rw [deriveFreshness] at h
  split at h
  · cases h
  · cases h
  · rename_i hconfirmed
    refine ⟨hconfirmed, ?_⟩
    simp only [Reader.on, ReadProgram.run_bind, ReadProgram.run_pure] at h
    obtain ⟨current, hcurrent, h⟩ := bind_eq_ok.1 h
    cases current with
    | false => cases h
    | true =>
      have hrun := succeeds_on hcurrent
      simp only [Reader.on, ReadProgram.run_bind] at hrun
      obtain ⟨unchanged, hunchanged, hrun⟩ := bind_eq_ok.1 hrun
      cases unchanged with
      | false => cases hrun
      | true =>
        simp only [if_pos, validateLiveLinks, validateWorkItemLists, ReadProgram.run_bind,
          ReadProgram.run_forEach] at hrun
        obtain ⟨_, hlinks, -⟩ := bind_eq_ok.1 hrun
        obtain ⟨hproject, hlinks⟩ := check_bind_eq_ok.1 hlinks
        obtain ⟨_, hlists, -⟩ := bind_eq_ok.1 hlinks
        obtain ⟨hactive, hlists⟩ := check_bind_eq_ok.1 hlists
        obtain ⟨hnext, hlists⟩ := check_bind_eq_ok.1 hlists
        obtain ⟨hblocked, hcompleted⟩ := check_bind_eq_ok.1 hlists
        exact {
          revisions := (basisUnchanged_on hunchanged).1 rfl
          cover := hreads.cover (by rw [hconfirmed]; decide)
          project := validateProjectLink_on hproject
          active := fun id hid => validateRole_on (forEach_eq_ok.1 hactive id hid)
          next := fun id hid => validateRole_on (forEach_eq_ok.1 hnext id hid)
          blocked := fun id hid => validateRole_on (forEach_eq_ok.1 hblocked id hid)
          completed := fun id hid => validateRole_on (forEach_eq_ok.1 hcompleted id hid) }

/-- Only a confirmed checkpoint is stale. -/
theorem confirmed_of_stale {db : Database} {c : CheckpointContent}
    (h : (deriveFreshness c).on db = .ok (some .stale)) : c.confirmationState = .confirmed := by
  rw [deriveFreshness] at h
  split at h
  · cases h
  · cases h
  · assumption

/-- What `get` has read. -/
theorem get_on {db : Database} {checkpointId : Text} {info : CheckpointInfo}
    (h : (get checkpointId).on db = .ok info) :
    ∃ id r, uuid checkpointId = some id ∧ db.find? id = some r ∧
      r.recordType = "project_checkpoint" ∧ readCheckpoint r = .ok info.content ∧
      (deriveFreshness info.content).on db = .ok info.freshness := by
  simp only [get, requireRecord, checkpointFromRecordLive, Reader.on, ReadProgram.run_bind,
    ReadProgram.run_catching, ReadProgram.run_lift, ReadProgram.run_pure] at h
  obtain ⟨r, hr, h⟩ := bind_eq_ok.1 h
  obtain ⟨id, hid, hr⟩ := bind_eq_ok.1 hr
  obtain ⟨r', hr', hr⟩ := bind_eq_ok.1 hr
  obtain ⟨htype, hr⟩ := (check_bind_eq_ok.1 hr).imp_left ensure_eq_ok.1
  cases hr
  obtain ⟨c, hc, h⟩ := bind_eq_ok.1 (catching_eq_ok.1 h)
  obtain ⟨freshness, hfreshness, h⟩ := bind_eq_ok.1 h
  cases h
  exact ⟨id, r, uuidField_eq_ok.1 hid, Database.getRecord_eq_ok.1 (catching_eq_ok.1 hr'), htype,
    hc, hfreshness⟩

/-! ## The steps of a run -/

/-- The checkpoint rows are the same. -/
def KeepsCheckpoints (db db' : Database) : Prop :=
  ∀ id r, r.recordType = "project_checkpoint" →
    (db'.find? id = some r ↔ db.find? id = some r)

omit [PythonLibrary] [ModuleRules] in
/-- A row of another type is put, in place of none or of one of another type. -/
theorem keepsCheckpoints_of_writes {db db' : Database} {row : RecordEnvelope}
    (h : db.Writes row db') (hrow : row.recordType ≠ "project_checkpoint")
    (hold : ∀ r, db.find? row.id = some r → r.recordType ≠ "project_checkpoint") :
    KeepsCheckpoints db db' := by
  intro id r htype
  rw [h id]
  split
  · rename_i hid
    refine iff_of_false (fun e => hrow ?_) fun e => hold r (hid ▸ e) htype
    rw [Option.some.inj e, htype]
  · rfl

omit [PythonLibrary] in
theorem keepsCheckpoints_of_create {db db' : Database} {row : RecordEnvelope} {draft : AuditDraft}
    {failed : DollError} (htype : row.recordType ≠ "project_checkpoint")
    (h : (Write.create row draft failed).commit db = .ok db') : KeepsCheckpoints db db' := by
  obtain ⟨hfree, hwrites⟩ := createTransaction_writes h
  refine keepsCheckpoints_of_writes hwrites htype fun r hr => ?_
  rw [hfree] at hr
  cases hr

omit [PythonLibrary] in
/-- An update replaces the row it was computed from, which keeps its type. -/
theorem keepsCheckpoints_of_change {db db' : Database} {u : RecordUpdate} {draft : AuditDraft}
    {errors : TransactionErrors} (hbase : ∃ id, db.find? id = some u.base)
    (htype : u.base.recordType ≠ "project_checkpoint")
    (h : (Write.change u draft errors).commit db = .ok db') : KeepsCheckpoints db db' := by
  obtain ⟨found, hfound, -, -, hwrites⟩ := updateTransaction_writes h
  obtain ⟨id, hid⟩ := hbase
  rw [Database.id_of_find? hid, hid, Option.some.injEq] at hfound
  subst hfound
  refine keepsCheckpoints_of_writes hwrites htype fun r hr => ?_
  rw [u.apply_id, Database.id_of_find? hid, hid, Option.some.injEq] at hr
  rwa [← hr]

/-- What makes a step of a run: a call of one of the three services, or anything else that writes,
which lets revisions only go up and leaves the checkpoint rows to their service. -/
inductive Act where
  | checkpoint (env : Surroundings) (call : Call)
  | project (env : Surroundings) (call : Project.Call)
  | workItem (env : Surroundings) (call : WorkItem.Call)
  | elsewhere

inductive Step (db : Database) : Act → Database → Prop
  | checkpoint {env : Surroundings} {call : Call} {w : Write} {db' : Database}
      (hprepare : (call.prepare env).on db = .ok w) (hcommit : w.commit db = .ok db') :
      Step db (.checkpoint env call) db'
  | project {env : Surroundings} {call : Project.Call} {w : Write} {db' : Database}
      (hprepare : (call.prepare env).on db = .ok w) (hcommit : w.commit db = .ok db') :
      Step db (.project env call) db'
  | workItem {env : Surroundings} {call : WorkItem.Call} {w : Write} {db' : Database}
      (hprepare : (call.prepare env).on db = .ok w) (hcommit : w.commit db = .ok db') :
      Step db (.workItem env call) db'
  | elsewhere {db' : Database} (hevolves : db.Evolves db') (hkeeps : KeepsCheckpoints db db') :
      Step db .elsewhere db'

theorem keepsCheckpoints_of_project {db db' : Database} {call : Project.Call} {w : Write}
    (h : Project.Prepared (answersOf db) call w) (hcommit : w.commit db = .ok db') :
    KeepsCheckpoints db db' := by
  have hchange : ∀ {projectId : Text} {base : RecordEnvelope} {content : Project.ProjectContent},
      Project.Current (answersOf db) projectId base content →
        (∃ id, db.find? id = some base) ∧ base.recordType ≠ "project_checkpoint" := by
    intro projectId base content hcurrent
    obtain ⟨id, -, hseen⟩ := hcurrent.seen
    exact ⟨⟨id, hseen.symm⟩, by rw [hcurrent.recordType]; decide⟩
  cases h with
  | created _ htype _ _ _ =>
    exact keepsCheckpoints_of_create (by rw [htype]; decide) hcommit
  | rewritten _ _ hcurrent =>
    exact keepsCheckpoints_of_change (hchange hcurrent).1 (hchange hcurrent).2 hcommit
  | archived hcurrent =>
    exact keepsCheckpoints_of_change (hchange hcurrent).1 (hchange hcurrent).2 hcommit

theorem keepsCheckpoints_of_workItem {db db' : Database} {call : WorkItem.Call} {w : Write}
    (h : WorkItem.Prepared (answersOf db) call w) (hcommit : w.commit db = .ok db') :
    KeepsCheckpoints db db' := by
  have hchange : ∀ {workItemId : Text} {base : RecordEnvelope} {c : WorkItem.WorkItemContent},
      WorkItem.Current (answersOf db) workItemId base c →
        (∃ id, db.find? id = some base) ∧ base.recordType ≠ "project_checkpoint" := by
    intro workItemId base c hcurrent
    obtain ⟨id, -, hseen⟩ := hcurrent.seen
    exact ⟨⟨id, hseen.symm⟩,
      by rw [WorkItem.recordType_of_readWorkItem hcurrent.content]; decide⟩
  cases h with
  | created _ hrow _ _ =>
    exact keepsCheckpoints_of_create (by rw [hrow.recordType]; decide) hcommit
  | rewritten _ _ hcurrent =>
    exact keepsCheckpoints_of_change (hchange hcurrent).1 (hchange hcurrent).2 hcommit
  | archived hcurrent =>
    exact keepsCheckpoints_of_change (hchange hcurrent).1 (hchange hcurrent).2 hcommit

/-! ## What the calls of the service do to a checkpoint -/

omit [ModuleRules] in
theorem metadataBasisRevisions_congr {metadata metadata' : Metadata}
    (h : metadata'.get "basis_record_revisions" = metadata.get "basis_record_revisions") :
    metadataBasisRevisions metadata' = metadataBasisRevisions metadata := by
  rw [metadataBasisRevisions, metadataBasisRevisions, h]

/-- What a checkpoint that has just been written reads as: one that has captured nothing, one that
has captured the revisions of now in place of a proposed one, or one with the basis it had. -/
inductive Moved (db : Database) (row : RecordEnvelope) : Prop
  | proposed (hfree : db.find? row.id = none)
      (hreads : ∀ c, readCheckpoint row = .ok c → c.basisRecordRevisions = [])
  | confirmed {r : RecordEnvelope} {c₀ : CheckpointContent} (hr : db.find? row.id = some r)
      (hc₀ : readCheckpoint r = .ok c₀) (hproposed : c₀.confirmationState = .proposed)
      (hreads : ∀ c, readCheckpoint row = .ok c →
        ∀ entry ∈ c.basisRecordRevisions, db.Has entry.1 fun b => b.revision = entry.2)
  | kept {r : RecordEnvelope} {c₀ : CheckpointContent} (hr : db.find? row.id = some r)
      (hc₀ : readCheckpoint r = .ok c₀)
      (hreads : ∀ c, readCheckpoint row = .ok c →
        c.basisRecordRevisions = c₀.basisRecordRevisions ∧
          (c.confirmationState = c₀.confirmationState ∨ c.confirmationState = .superseded))

omit [PythonLibrary] [ModuleRules] in
theorem get_confirmedMetadata (metadata : Metadata) (revisions : BasisRevisions) (print : Text) :
    (confirmedMetadata metadata revisions print).get "basis_record_revisions" =
      revisions.payload := by
  simp [confirmedMetadata, Metadata.get_set]

omit [PythonLibrary] [ModuleRules] in
theorem ConfirmationState.text_injective {s s' : ConfirmationState} (h : s.text = s'.text) :
    s = s' := by
  have h' := congrArg (ofText? ConfirmationState.all ConfirmationState.text) h
  rwa [ofText?_text, ofText?_text, Option.some.injEq] at h'

omit [ModuleRules] in
/-- A row of the metadata of another one, up to the confirmation state. -/
theorem Reads.kept {r row : RecordEnvelope} {c₀ c : CheckpointContent} (h₀ : Reads r c₀)
    (h : Reads row c)
    (hmetadata : row.metadata = r.metadata ∨
      row.metadata = r.metadata.set "confirmation_state" (.str "superseded".toList)) :
    c.basisRecordRevisions = c₀.basisRecordRevisions ∧
      (c.confirmationState = c₀.confirmationState ∨ c.confirmationState = .superseded) := by
  rcases hmetadata with heq | heq
  · have hstate := h.state
    rw [heq, h₀.state, Json.str.injEq] at hstate
    have hrevisions := h.revisions
    rw [heq, h₀.revisions, Except.ok.injEq] at hrevisions
    exact ⟨hrevisions.symm, .inl (ConfirmationState.text_injective hstate.symm)⟩
  · have hstate := h.state
    rw [heq, Metadata.get_set, if_pos rfl, Json.str.injEq] at hstate
    have hsame : metadataBasisRevisions row.metadata = metadataBasisRevisions r.metadata :=
      metadataBasisRevisions_congr (by rw [heq, Metadata.get_set, if_neg (by decide)])
    rw [h.revisions, h₀.revisions, Except.ok.injEq] at hsame
    exact ⟨hsame, .inr (ConfirmationState.text_injective hstate.symm)⟩

/-- A call that commits puts one checkpoint row. -/
theorem Call.moved {db db' : Database} {env : Surroundings} {call : Call} {w : Write}
    (hprepare : (call.prepare env).on db = .ok w) (hcommit : w.commit db = .ok db') :
    ∃ row, db.Writes row db' ∧ row.recordType = "project_checkpoint" ∧ Moved db row := by
  have hfound : ∀ {checkpointId : Text} {u : RecordUpdate} {c : CheckpointContent}
      {draft : AuditDraft} {errors : TransactionErrors},
      Current (answersOf db) checkpointId u.base c →
        (Write.change u draft errors).commit db = .ok db' →
        db.Writes (u.apply u.base) db' ∧ db.find? u.base.id = some u.base := by
    intro checkpointId u c draft errors hcurrent hcommit
    obtain ⟨id, -, hseen⟩ := hcurrent.seen
    have hid : u.base.id = id := Database.id_of_find? hseen.symm
    obtain ⟨found, hfound, -, -, hwrites⟩ := updateTransaction_writes hcommit
    cases (hid ▸ hfound).symm.trans hseen.symm
    exact ⟨hwrites, hfound⟩
  cases post_of_on (call.prepare_all env) hprepare with
  | proposed htype hmetadata _ hrevisions =>
    obtain ⟨hfree, hwrites⟩ := createTransaction_writes hcommit
    refine ⟨_, hwrites, htype, .proposed hfree fun c hc => ?_⟩
    have hsub := metadataBasisRevisions_mem (by rw [hmetadata]; rfl) (reads_of_readCheckpoint hc).revisions
    rw [hrevisions] at hsub
    exact List.subset_nil.1 hsub
  | confirmed hcurrent hstate hrevisions hmetadata =>
    obtain ⟨hwrites, hbase⟩ := hfound hcurrent hcommit
    refine ⟨_, hwrites, (reads_of_readCheckpoint hcurrent.content).recordType,
      .confirmed hbase hcurrent.content hstate fun c hc entry hentry => ?_⟩
    have hsub := metadataBasisRevisions_mem (by
      show Metadata.get (RecordUpdate.metadata _) _ = _
      rw [hmetadata, get_confirmedMetadata]) (reads_of_readCheckpoint hc).revisions
    obtain ⟨b, hb, hrevision⟩ := hrevisions entry (hsub hentry)
    exact ⟨b, hb.symm, hrevision⟩
  | superseded hcurrent _ hmetadata =>
    obtain ⟨hwrites, hbase⟩ := hfound hcurrent hcommit
    have hreads := reads_of_readCheckpoint hcurrent.content
    exact ⟨_, hwrites, hreads.recordType, .kept hbase hcurrent.content fun c hc =>
      hreads.kept (reads_of_readCheckpoint hc) (.inr hmetadata)⟩
  | archived hcurrent hmetadata =>
    obtain ⟨hwrites, hbase⟩ := hfound hcurrent hcommit
    have hreads := reads_of_readCheckpoint hcurrent.content
    exact ⟨_, hwrites, hreads.recordType, .kept hbase hcurrent.content fun c hc =>
      hreads.kept (reads_of_readCheckpoint hc) (.inl hmetadata)⟩

/-! ## What every step keeps -/

/-- A basis record has left its captured revision behind. -/
def Outgrown (db : Database) (c : CheckpointContent) : Prop :=
  ∃ entry ∈ c.basisRecordRevisions, db.Has entry.1 fun r => entry.2 < r.revision

/-- What a checkpoint has captured are revisions that its basis has reached. -/
def Captured (db : Database) : Prop :=
  ∀ id r c, db.find? id = some r → readCheckpoint r = .ok c →
    ∀ entry ∈ c.basisRecordRevisions, db.Has entry.1 fun b => entry.2 ≤ b.revision

/-- The row is a checkpoint that will not be current again. -/
def Stuck (db : Database) (id : RecordId) : Prop :=
  ∃ r, db.find? id = some r ∧ r.recordType = "project_checkpoint" ∧
    ∀ c, readCheckpoint r = .ok c → c.confirmationState = .superseded ∨
      (c.confirmationState = .confirmed ∧ Outgrown db c)

omit [PythonLibrary] [ModuleRules] in
theorem has_of_evolves {db db' : Database} (h : db.Evolves db') {id : RecordId}
    {P P' : RecordEnvelope → Prop} (hP : ∀ r r', r.revision ≤ r'.revision → P r → P' r')
    (hid : db.Has id P) : db'.Has id P' := by
  obtain ⟨r, hr, hPr⟩ := hid
  obtain ⟨r', hr', hle, -⟩ := h id r hr
  exact ⟨r', hr', hP r r' hle hPr⟩

omit [PythonLibrary] [ModuleRules] in
theorem Outgrown.evolves {db db' : Database} {c : CheckpointContent} (h : Outgrown db c)
    (hevolves : db.Evolves db') : Outgrown db' c := by
  obtain ⟨entry, hentry, hhas⟩ := h
  exact ⟨entry, hentry, has_of_evolves hevolves (fun r r' hle hlt => by omega) hhas⟩

theorem Step.evolves {db db' : Database} {a : Act} (h : Step db a db') : db.Evolves db' := by
  cases h with
  | checkpoint _ hcommit => exact Write.evolves hcommit
  | project _ hcommit => exact Write.evolves hcommit
  | workItem _ hcommit => exact Write.evolves hcommit
  | elsewhere hevolves _ => exact hevolves

/-- A step moves one checkpoint or none. -/
theorem Step.moved_or_keeps {db db' : Database} {a : Act} (h : Step db a db') :
    (∃ row, db.Writes row db' ∧ row.recordType = "project_checkpoint" ∧ Moved db row) ∨
      KeepsCheckpoints db db' := by
  cases h with
  | checkpoint hprepare hcommit => exact .inl (Call.moved hprepare hcommit)
  | @project env call w _ hprepare hcommit =>
    exact .inr (keepsCheckpoints_of_project (post_of_on (call.prepare_all env) hprepare) hcommit)
  | @workItem env call w _ hprepare hcommit =>
    exact .inr (keepsCheckpoints_of_workItem (post_of_on (call.prepare_all env) hprepare) hcommit)
  | elsewhere _ hkeeps => exact .inr hkeeps

theorem Step.captured {db db' : Database} {a : Act} (h : Step db a db') (hdb : Captured db) :
    Captured db' := by
  intro id r c hr hc entry hentry
  have hreached : db.Has entry.1 (fun b => entry.2 ≤ b.revision) →
      db'.Has entry.1 fun b => entry.2 ≤ b.revision :=
    has_of_evolves h.evolves fun r r' hle hle' => by omega
  rcases h.moved_or_keeps with ⟨row, hwrites, -, hmoved⟩ | hkeeps
  · rw [hwrites id] at hr
    split at hr
    · cases hr
      cases hmoved with
      | proposed _ hreads =>
        rw [hreads c hc] at hentry
        cases hentry
      | confirmed _ _ _ hreads =>
        obtain ⟨b, hb, hrevision⟩ := hreads c hc entry hentry
        exact hreached ⟨b, hb, hrevision.ge⟩
      | kept hr₀ hc₀ hreads =>
        rw [(hreads c hc).1] at hentry
        exact hreached (hdb _ _ _ hr₀ hc₀ entry hentry)
    · exact hreached (hdb id r c hr hc entry hentry)
  · rw [hkeeps id r (reads_of_readCheckpoint hc).recordType] at hr
    exact hreached (hdb id r c hr hc entry hentry)

theorem Step.stuck {db db' : Database} {a : Act} {id : RecordId} (h : Step db a db')
    (hdb : Stuck db id) : Stuck db' id := by
  obtain ⟨r, hr, htype, hreads⟩ := hdb
  have hlater : ∀ c, (c.confirmationState = .superseded ∨
      (c.confirmationState = .confirmed ∧ Outgrown db c)) → c.confirmationState = .superseded ∨
      (c.confirmationState = .confirmed ∧ Outgrown db' c) :=
    fun c hc => hc.imp_right (And.imp_right (Outgrown.evolves · h.evolves))
  rcases h.moved_or_keeps with ⟨row, hwrites, hrowType, hmoved⟩ | hkeeps
  · by_cases hid : row.id = id
    · subst hid
      refine ⟨row, by rw [hwrites, if_pos rfl], hrowType, fun c hc => hlater c ?_⟩
      cases hmoved with
      | proposed hfree _ =>
        rw [hfree] at hr
        cases hr
      | confirmed hr₀ hc₀ hproposed _ =>
        -- what is stuck is not a proposal
        cases hr.symm.trans hr₀
        rcases hreads _ hc₀ with hstate | ⟨hstate, -⟩ <;> cases hproposed.symm.trans hstate
      | kept hr₀ hc₀ hkept =>
        cases hr.symm.trans hr₀
        obtain ⟨hrevisions, hstate⟩ := hkept c hc
        rcases hstate with hstate | hstate
        · rw [hstate, Outgrown, hrevisions]
          exact hreads _ hc₀
        · exact .inl hstate
    · refine ⟨r, ?_, htype, fun c hc => hlater c (hreads c hc)⟩
      rw [hwrites, if_neg hid, hr]
  · exact ⟨r, (hkeeps id r htype).2 hr, htype, fun c hc => hlater c (hreads c hc)⟩

/-! ## Runs -/

end

section Runs

attribute [local instance] asciiLibrary acceptingRules

/-- A checkpoint of the garden without work items. -/
def gardenProposal : Proposal where
  projectId := uuidText 100
  asOf := "2026-01-01T00:00:00Z".toList
  summary := "Beds are dug".toList
  currentPhase := "Spring".toList
  currentGoal := "Sow".toList
  activeWorkItemIds := []
  nextWorkItemIds := []
  blockedWorkItemIds := []
  completedMilestoneIds := []
  requiredValidationIds := []
  basisRecordIds := []

/-- A checkpoint of the garden is confirmed; then the garden's description changes. -/
def describeAfterwards : Result (Write × Write × Write × Database × Database × Database ×
    CheckpointInfo × CheckpointInfo) := do
  let caller : Caller := ⟨none, .user⟩
  let proposing ← ((Call.propose gardenProposal .personal caller).prepare (surroundings 0)).on
    Project.gardenDatabase
  let db₁ ← proposing.commit Project.gardenDatabase
  let confirming ← ((Call.confirm (uuidText 1) 1 caller).prepare (surroundings 1)).on db₁
  let db₂ ← confirming.commit db₁
  let describing ← ((Project.Call.update (uuidText 100) 1
    { name := "Garden".toList, description := "Flower beds".toList, projectStatus := "active".toList,
      startedAt := "2026-01-01T00:00:00Z".toList, endedAt := none, decisionIds := [],
      memoryIds := [], artifactIds := [] } ⟨none, .user⟩).prepare (surroundings 2)).on db₂
  let db₃ ← describing.commit db₂
  let before ← (get (uuidText 1)).on db₂
  let after ← (get (uuidText 1)).on db₃
  ensure (before.freshness = some .current ∧ after.freshness = some .stale ∧
    ∃ entry ∈ after.content.basisRecordRevisions, ∃ r ∈ db₃.find? entry.1, r.revision ≠ entry.2)
    (.noRecord [])
  return (proposing, confirming, describing, db₁, db₂, db₃, before, after)

theorem describeAfterwards_isOk : describeAfterwards.isOk = true := by decide +kernel

end Runs

end DollState.Checkpoint
