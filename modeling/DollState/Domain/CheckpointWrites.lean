import DollState.Domain.CheckpointService

/-!
# What the calls of the checkpoint service write

A checkpoint is proposed without a basis, confirmed with the revisions of its basis as they have
been read, and superseded or archived with the basis it has. `Prepared` says so of each call
(`Call.prepare_all`), in terms of the metadata, so that it can be compared with what the reader
makes of it (`Reads`).
-/

namespace DollState

open StateLib

/-! ## Metadata that has been changed -/

namespace Checkpoint

section

variable [PythonLibrary]

/-! ## The basis that is read back -/

theorem basisRevisionsFrom_mem {result revisions : BasisRevisions} {value : List (Text × Int)}
    (h : basisRevisionsFrom result value = .ok revisions) {entry : RecordId × Int}
    (hentry : entry ∈ revisions) :
    entry ∈ result ∨ ∃ raw ∈ value, uuid raw.1 = some entry.1 ∧ raw.2 = entry.2 := by
  induction value generalizing result with
  | nil =>
    cases h
    exact .inl hentry
  | cons raw rest ih =>
    obtain ⟨rawId, rawRevision⟩ := raw
    obtain ⟨id, hid, h⟩ := bind_eq_ok.1 h
    obtain ⟨-, h⟩ := check_bind_eq_ok.1 h
    obtain ⟨-, h⟩ := check_bind_eq_ok.1 h
    rcases ih h with hmem | ⟨raw, hraw, hread⟩
    · rcases List.mem_append.1 hmem with hmem | hmem
      · exact .inl hmem
      · rw [List.mem_singleton.1 hmem]
        exact .inr ⟨_, List.mem_cons_self, uuidField_eq_ok.1 hid, rfl⟩
    · exact .inr ⟨raw, List.mem_cons_of_mem _ hraw, hread⟩

/-- Revisions that are read were written. -/
theorem metadataBasisRevisions_mem {metadata : Metadata} {written revisions : BasisRevisions}
    (hget : metadata.get "basis_record_revisions" = written.payload)
    (h : metadataBasisRevisions metadata = .ok revisions) : revisions ⊆ written := by
  intro entry hentry
  rw [metadataBasisRevisions, hget, BasisRevisions.payload] at h
  obtain ⟨typed, htyped, h⟩ := bind_eq_ok.1 h
  obtain ⟨-, h⟩ := check_bind_eq_ok.1 h
  obtain ⟨result, hresult, h⟩ := bind_eq_ok.1 h
  rw [← pure_eq_ok.1 h, BasisRevisions.sort, List.mem_mergeSort] at hentry
  rcases basisRevisionsFrom_mem hresult hentry with hmem | ⟨raw, hraw, hid, hrevision⟩
  · cases hmem
  · obtain ⟨stored, hstored, hread⟩ := exists_of_mem_mapM htyped hraw
    obtain ⟨entry', hentry', rfl⟩ := List.mem_map.1 hstored
    have hraw' : raw = ((String.ofList (uuidText entry'.1)).toList, entry'.2) :=
      (Except.ok.inj hread).symm
    rw [hraw', String.toList_ofList, uuid_uuidText, Option.some.injEq] at hid
    rw [hraw'] at hrevision
    exact (Prod.ext hid hrevision : entry' = entry) ▸ hentry'

variable [ModuleRules]

/-- What a record that reads as the checkpoint `c` holds. -/
structure Reads (r : RecordEnvelope) (c : CheckpointContent) : Prop where
  recordType : r.recordType = "project_checkpoint"
  status : r.status = .active ∨ r.status = .archived
  state : r.metadata.get "confirmation_state" = .str c.confirmationState.text
  revisions : metadataBasisRevisions r.metadata = .ok c.basisRecordRevisions
  unconfirmed : c.confirmationState = .proposed → c.basisRecordRevisions = []
  cover : c.confirmationState ≠ .proposed → c.basisRecordRevisions.Cover c.basis

theorem reads_of_readCheckpoint {r : RecordEnvelope} {c : CheckpointContent}
    (h : readCheckpoint r = .ok c) : Reads r c := by
  rw [readCheckpoint, check_bind_eq_ok, ensure_eq_ok] at h
  obtain ⟨⟨htype, -⟩, h⟩ := h
  obtain ⟨⟨hstatus, -⟩, h⟩ := (check_bind_eq_ok.1 h).imp_left ensure_eq_ok.1
  obtain ⟨-, h⟩ := check_bind_eq_ok.1 h
  obtain ⟨_, -, h⟩ := bind_eq_ok.1 h
  obtain ⟨projectId, -, h⟩ := bind_eq_ok.1 h
  obtain ⟨_, -, h⟩ := bind_eq_ok.1 h
  obtain ⟨asOf, -, h⟩ := bind_eq_ok.1 h
  obtain ⟨_, -, h⟩ := bind_eq_ok.1 h
  obtain ⟨summary, -, h⟩ := bind_eq_ok.1 h
  obtain ⟨_, -, h⟩ := bind_eq_ok.1 h
  obtain ⟨currentPhase, -, h⟩ := bind_eq_ok.1 h
  obtain ⟨_, -, h⟩ := bind_eq_ok.1 h
  obtain ⟨currentGoal, -, h⟩ := bind_eq_ok.1 h
  obtain ⟨activeIds, -, h⟩ := bind_eq_ok.1 h
  obtain ⟨nextIds, -, h⟩ := bind_eq_ok.1 h
  obtain ⟨blockedIds, -, h⟩ := bind_eq_ok.1 h
  obtain ⟨milestoneIds, -, h⟩ := bind_eq_ok.1 h
  obtain ⟨validationIds, -, h⟩ := bind_eq_ok.1 h
  obtain ⟨basisIds, -, h⟩ := bind_eq_ok.1 h
  obtain ⟨-, h⟩ := check_bind_eq_ok.1 h
  obtain ⟨stateText, hstateText, h⟩ := bind_eq_ok.1 h
  obtain ⟨state, hstate, h⟩ := bind_eq_ok.1 h
  obtain ⟨confirmed, -, h⟩ := bind_eq_ok.1 h
  obtain ⟨revisions, hrevisions, h⟩ := bind_eq_ok.1 h
  have htext : state.text = stateText := text_of_ofText? (orFail_eq_ok.1 hstate)
  have hget := htext ▸ (requiredString_eq_ok.1 hstateText).1
  extract_lets finish at h
  -- the checks after the fingerprint has been read
  have hrest : ∀ print, finish print = .ok c → Reads r c := by
    intro print h
    obtain ⟨-, h⟩ := check_bind_eq_ok.1 h
    obtain ⟨-, h⟩ := check_bind_eq_ok.1 h
    split at h
    · rename_i hproposed
      obtain ⟨⟨hnil, -⟩, h⟩ := (check_bind_eq_ok.1 h).imp_left ensure_eq_ok.1
      rw [← pure_eq_ok.1 h]
      exact ⟨htype, hstatus, hget, hrevisions, fun _ => hnil, fun hne => absurd hproposed hne⟩
    · rename_i hne
      obtain ⟨-, h⟩ := check_bind_eq_ok.1 h
      obtain ⟨hcover, h⟩ := (check_bind_eq_ok.1 h).imp_left ensure_eq_ok.1
      obtain ⟨-, h⟩ := check_bind_eq_ok.1 h
      obtain ⟨-, h⟩ := check_bind_eq_ok.1 h
      rw [← pure_eq_ok.1 h]
      exact ⟨htype, hstatus, hget, hrevisions, fun hproposed => absurd hproposed hne,
        fun _ => hcover⟩
  split at h
  · exact hrest _ h
  · exact hrest _ h
  · cases h

/-! ## The calls -/

variable (ok : (q : StateQuery) → q.Answer → Prop)

/-- The reads have shown the row to be the checkpoint `c`. -/
structure Current (checkpointId : Text) (base : RecordEnvelope) (c : CheckpointContent) : Prop where
  seen : ∃ id, uuid checkpointId = some id ∧ ok (.record id) (some base)
  content : readCheckpoint base = .ok c
  active : base.status = .active

/-- The checkpoint that a call changes. -/
def Call.target? : Call → Option Text
  | .propose .. => none
  | .confirm checkpointId .. => some checkpointId
  | .supersede checkpointId .. => some checkpointId
  | .archive checkpointId .. => some checkpointId

/-- What a call is going to write, and what it has read of it. -/
inductive Prepared : Call → Write → Prop
  | proposed {p : Proposal} {sensitivity : RecordSensitivity} {caller : Caller}
      {row : RecordEnvelope} {draft : AuditDraft} {failed : DollError} {c : CheckpointContent}
      (htype : row.recordType = "project_checkpoint") (hmetadata : row.metadata = c.metadata)
      (hstate : c.confirmationState = .proposed) (hrevisions : c.basisRecordRevisions = []) :
      Prepared (.propose p sensitivity caller) (.create row draft failed)
  | confirmed {checkpointId : Text} {expectedRevision : Int} {caller : Caller} {u : RecordUpdate}
      {draft : AuditDraft} {errors : TransactionErrors} {c : CheckpointContent}
      {revisions : BasisRevisions} (hcurrent : Current ok checkpointId u.base c)
      (hstate : c.confirmationState = .proposed)
      (hrevisions : ∀ entry ∈ revisions, ∃ r, ok (.record entry.1) (some r) ∧
        r.revision = entry.2)
      (hmetadata : u.metadata = confirmedMetadata u.base.metadata revisions
        (basisFingerprint u.base.id c revisions)) :
      Prepared (.confirm checkpointId expectedRevision caller) (.change u draft errors)
  | superseded {checkpointId : Text} {expectedRevision : Int} {caller : Caller}
      {u : RecordUpdate} {draft : AuditDraft} {errors : TransactionErrors} {c : CheckpointContent}
      (hcurrent : Current ok checkpointId u.base c) (hstate : c.confirmationState = .confirmed)
      (hmetadata : u.metadata =
        u.base.metadata.set "confirmation_state" (.str "superseded".toList)) :
      Prepared (.supersede checkpointId expectedRevision caller) (.change u draft errors)
  | archived {checkpointId : Text} {expectedRevision : Int} {caller : Caller} {u : RecordUpdate}
      {draft : AuditDraft} {errors : TransactionErrors} {c : CheckpointContent}
      (hcurrent : Current ok checkpointId u.base c) (hmetadata : u.metadata = u.base.metadata) :
      Prepared (.archive checkpointId expectedRevision caller) (.change u draft errors)

variable {ok}

omit [ModuleRules] in
theorem checkedValues_proposal {selfId : RecordId} {p : Proposal} {c : CheckpointContent}
    (h : checkedValues selfId p.values = .ok c) :
    c.confirmationState = .proposed ∧ c.basisRecordRevisions = [] := by
  obtain ⟨projectId, -, h⟩ := bind_eq_ok.1 h
  obtain ⟨asOf, -, h⟩ := bind_eq_ok.1 h
  obtain ⟨summary, -, h⟩ := bind_eq_ok.1 h
  obtain ⟨currentPhase, -, h⟩ := bind_eq_ok.1 h
  obtain ⟨currentGoal, -, h⟩ := bind_eq_ok.1 h
  obtain ⟨activeIds, -, h⟩ := bind_eq_ok.1 h
  obtain ⟨nextIds, -, h⟩ := bind_eq_ok.1 h
  obtain ⟨blockedIds, -, h⟩ := bind_eq_ok.1 h
  obtain ⟨milestoneIds, -, h⟩ := bind_eq_ok.1 h
  obtain ⟨validationIds, -, h⟩ := bind_eq_ok.1 h
  obtain ⟨basisIds, -, h⟩ := bind_eq_ok.1 h
  obtain ⟨-, h⟩ := check_bind_eq_ok.1 h
  obtain ⟨-, h⟩ := check_bind_eq_ok.1 h
  obtain ⟨state, hstate, h⟩ := bind_eq_ok.1 h
  obtain ⟨confirmed, -, h⟩ := bind_eq_ok.1 h
  obtain ⟨revisions, -, h⟩ := bind_eq_ok.1 h
  have hproposed : state = .proposed := by
    cases state with
    | proposed => rfl
    | confirmed => cases hstate
    | superseded => cases hstate
  rw [if_pos hproposed] at h
  obtain ⟨⟨hnil, -⟩, h⟩ := (check_bind_eq_ok.1 h).imp_left ensure_eq_ok.1
  rw [← pure_eq_ok.1 h]
  exact ⟨hproposed, hnil⟩

theorem currentCheckpoint_shown (checkpointId : Text) :
    (currentCheckpoint checkpointId).All ok fun current =>
      Current ok checkpointId current.1 current.2.content ∧
        current.2.checkpointId = current.1.id := by
  have hrequire : (requireRecord checkpointId).All ok fun record =>
      ∃ id, uuid checkpointId = some id ∧ ok (.record id) (some record) := by
    refine .bind (.lift fun id h => uuidField_eq_ok.1 h) fun id hid => ?_
    refine .bind (.catching (getRecord_all id)) fun record hrecord => ?_
    exact .after _ fun _ => .pure ⟨id, hid, hrecord⟩
  refine .bind hrequire fun record hrecord => ?_
  refine .bind (m := fun info => ∃ c, readCheckpoint record = .ok c ∧
    info.content = c ∧ info.checkpointId = record.id ∧ info.lifecycleStatus = record.status)
    (.catching ?_) ?_
  · refine .bind (.lift fun c h => h) fun c hc => ?_
    exact .after _ fun freshness => .pure ⟨c, hc, rfl, rfl, rfl⟩
  · rintro info ⟨c, hc, rfl, hid, hstatus⟩
    refine .bind (.lift fun _ h => ensure_eq_ok.1 h) fun _ hactive => .pure ?_
    exact ⟨⟨hrecord, hc, hstatus ▸ hactive⟩, hid⟩

omit [PythonLibrary] [ModuleRules] in
/-- The revisions that are captured are those of rows that have been read. -/
theorem captureBasisRevisions_shown (c : CheckpointContent) :
    (captureBasisRevisions c).All ok fun revisions => ∀ entry ∈ revisions,
      ∃ r, ok (.record entry.1) (some r) ∧ r.revision = entry.2 := by
  refine .collected fun id _ => ?_
  refine .bind (.catching (getRecord_all id)) fun record hrecord => .pure ?_
  exact ⟨record, hrecord, rfl⟩

/-- What a call has read and what it is going to write. -/
theorem Call.prepare_all (env : Surroundings) (call : Call) :
    (call.prepare env).All ok (Prepared ok call) := by
  cases call with
  | propose p sensitivity caller =>
    rw [Call.prepare, Checkpoint.propose]
    refine .bind (.bind (.lift fun c h => checkedValues_proposal h) fun c hc =>
      .after _ fun _ => .pure hc) fun c hc => .lift fun w h => ?_
    obtain ⟨-, h⟩ := check_bind_eq_ok.1 h
    obtain ⟨-, h⟩ := check_bind_eq_ok.1 h
    rw [← pure_eq_ok.1 h]
    exact .proposed rfl rfl hc.1 hc.2
  | confirm checkpointId expectedRevision caller =>
    rw [Call.prepare, Checkpoint.confirm]
    refine .after _ fun _ => .bind (currentCheckpoint_shown _) ?_
    rintro ⟨record, current⟩ ⟨hcurrent, hid⟩
    dsimp only at hcurrent hid ⊢
    rw [hid]
    refine .bind (.lift fun _ h => ensure_eq_ok.1 h) fun _ hstate => .after _ fun _ => ?_
    refine .bind (captureBasisRevisions_shown _) fun revisions hrevisions => .lift fun w h => ?_
    obtain ⟨-, h⟩ := check_bind_eq_ok.1 h
    rw [← pure_eq_ok.1 h]
    exact .confirmed hcurrent hstate hrevisions rfl
  | supersede checkpointId expectedRevision caller =>
    rw [Call.prepare, Checkpoint.supersede]
    refine .after _ fun _ => .bind (currentCheckpoint_shown _) ?_
    rintro ⟨record, current⟩ ⟨hcurrent, -⟩
    dsimp only at hcurrent ⊢
    refine .bind (.lift fun _ h => ensure_eq_ok.1 h) fun _ hstate => .lift fun w h => ?_
    obtain ⟨-, h⟩ := check_bind_eq_ok.1 h
    rw [← pure_eq_ok.1 h]
    exact .superseded hcurrent hstate rfl
  | archive checkpointId expectedRevision caller =>
    rw [Call.prepare, Checkpoint.archive]
    refine .after _ fun _ => .bind (currentCheckpoint_shown _) ?_
    rintro ⟨record, current⟩ ⟨hcurrent, -⟩
    dsimp only at hcurrent ⊢
    refine .lift fun w h => ?_
    obtain ⟨-, h⟩ := check_bind_eq_ok.1 h
    rw [← pure_eq_ok.1 h]
    exact .archived hcurrent rfl

end

end Checkpoint

end DollState
