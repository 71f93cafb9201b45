import DollState.Domain.CheckpointFreshness
import DollState.Domain.StatusErrors

/-!
# Reading back what has been confirmed

Confirming stores the revisions of the whole basis, which the reader bounds and the writer does not.
`readCheckpoint_eq_ok_iff` says what a record holds that is read as a checkpoint; since confirming changes four
fields of it only, the record it commits is readable if and only if the basis is no larger than the bound.
-/

namespace DollState.Checkpoint

open StateLib

section

variable [PythonLibrary] [ModuleRules]

/-! ## What a readable record holds -/

/-- The fields of a checkpoint record that confirming does not touch. -/
structure Describes (r : RecordEnvelope) (c : CheckpointContent) : Prop where
  recordType : r.recordType = "project_checkpoint"
  schemaVersion : r.schemaVersion = 1
  status : r.status = .active ∨ r.status = .archived
  revision : 1 ≤ r.revision
  title : r.title = none
  projectId : (required r.metadata "project_id" >>= uuidField .checkpointValidation "checkpoint project ID") =
    .ok c.projectId
  asOf : (required r.metadata "as_of" >>= utc "checkpoint as-of") = .ok c.asOf
  summary : (required r.metadata "summary" >>= fun text => words "checkpoint summary" text maxSummaryLength) =
    .ok c.summary
  currentPhase : (required r.metadata "current_phase" >>= fun text =>
    words "checkpoint current phase" text maxPhaseLength) = .ok c.currentPhase
  currentGoal : (required r.metadata "current_goal" >>= fun text =>
    words "checkpoint current goal" text maxGoalLength) = .ok c.currentGoal
  active : metadataIds r.metadata "active_work_item_ids" = .ok c.activeWorkItemIds
  next : metadataIds r.metadata "next_work_item_ids" = .ok c.nextWorkItemIds
  blocked : metadataIds r.metadata "blocked_work_item_ids" = .ok c.blockedWorkItemIds
  milestones : metadataIds r.metadata "completed_milestone_ids" = .ok c.completedMilestoneIds
  validations : metadataIds r.metadata "required_validation_ids" = .ok c.requiredValidationIds
  basisRecords : metadataIds r.metadata "basis_record_ids" = .ok c.basisRecordIds
  disjoint : requireDisjointWorkLists [c.activeWorkItemIds, c.nextWorkItemIds, c.blockedWorkItemIds,
    c.completedMilestoneIds] = .ok ()
  format : Json.eq (r.metadata.get "fingerprint_format_version") (.int 1) = true
  basis : validateBasis r.id c "checkpoint basis contains itself" "checkpoint basis contains duplicate roles" =
    .ok ()

/-- `metadata.get("basis_fingerprint")`, where it is a text or null. -/
def storedFingerprint (metadata : Metadata) : Result (Option Text) :=
  match metadata.get "basis_fingerprint" with
  | .null => .ok none
  | .str value => .ok (some value)
  | _ => .error (invalid "checkpoint fingerprint is invalid")

/-- The fields that confirming sets. -/
structure Confirms (r : RecordEnvelope) (c : CheckpointContent) : Prop where
  state : (required r.metadata "confirmation_state" >>= parseConfirmationState) = .ok c.confirmationState
  confirmedBy : confirmedBy (r.metadata.get "confirmed_by") = .ok c.confirmedByUser
  revisions : metadataBasisRevisions r.metadata = .ok c.basisRecordRevisions
  fingerprint : storedFingerprint r.metadata = .ok c.basisFingerprint
  proposed : c.confirmationState = .proposed →
    c.basisRecordRevisions = [] ∧ c.basisFingerprint = none ∧ c.confirmedByUser = false
  trusted : c.confirmationState ≠ .proposed →
    (r.provenance = .userCreated ∨ r.provenance = .userConfirmed) ∧ c.confirmedByUser = true
  cover : c.confirmationState ≠ .proposed → c.basisRecordRevisions.Cover c.basis
  print : c.confirmationState ≠ .proposed → Checkpoint.fingerprint c.basisFingerprint = .ok () ∧
    c.basisFingerprint = some (basisFingerprint r.id c c.basisRecordRevisions)

theorem readCheckpoint_eq_ok_iff {r : RecordEnvelope} {c : CheckpointContent} :
    readCheckpoint r = .ok c ↔ Describes r c ∧ Confirms r c := by
  constructor
  · intro h
    rw [readCheckpoint, check_bind_eq_ok, ensure_eq_ok] at h
    obtain ⟨⟨htype, hschema⟩, h⟩ := h
    obtain ⟨⟨hstatus, hrevision⟩, h⟩ := (check_bind_eq_ok.1 h).imp_left ensure_eq_ok.1
    obtain ⟨htitle, h⟩ := (check_bind_eq_ok.1 h).imp_left ensure_eq_ok.1
    obtain ⟨_, h₁, h⟩ := bind_eq_ok.1 h
    obtain ⟨projectId, hproject, h⟩ := bind_eq_ok.1 h
    obtain ⟨_, h₂, h⟩ := bind_eq_ok.1 h
    obtain ⟨asOf, hasOf, h⟩ := bind_eq_ok.1 h
    obtain ⟨_, h₃, h⟩ := bind_eq_ok.1 h
    obtain ⟨summary, hsummary, h⟩ := bind_eq_ok.1 h
    obtain ⟨_, h₄, h⟩ := bind_eq_ok.1 h
    obtain ⟨currentPhase, hphase, h⟩ := bind_eq_ok.1 h
    obtain ⟨_, h₅, h⟩ := bind_eq_ok.1 h
    obtain ⟨currentGoal, hgoal, h⟩ := bind_eq_ok.1 h
    obtain ⟨activeIds, hactive, h⟩ := bind_eq_ok.1 h
    obtain ⟨nextIds, hnext, h⟩ := bind_eq_ok.1 h
    obtain ⟨blockedIds, hblocked, h⟩ := bind_eq_ok.1 h
    obtain ⟨milestoneIds, hmilestones, h⟩ := bind_eq_ok.1 h
    obtain ⟨validationIds, hvalidations, h⟩ := bind_eq_ok.1 h
    obtain ⟨basisIds, hbasisIds, h⟩ := bind_eq_ok.1 h
    obtain ⟨hdisjoint, h⟩ := check_bind_eq_ok.1 h
    obtain ⟨_, h₆, h⟩ := bind_eq_ok.1 h
    obtain ⟨state, hstate, h⟩ := bind_eq_ok.1 h
    obtain ⟨confirmed, hconfirmed, h⟩ := bind_eq_ok.1 h
    obtain ⟨revisions, hrevisions, h⟩ := bind_eq_ok.1 h
    extract_lets finish at h
    -- the checks after the fingerprint has been read
    have hrest : ∀ print, storedFingerprint r.metadata = .ok print → finish print = .ok c →
        Describes r c ∧ Confirms r c := by
      intro print hprint h
      obtain ⟨hformat, h⟩ := (check_bind_eq_ok.1 h).imp_left ensure_eq_ok.1
      obtain ⟨hbasis, h⟩ := check_bind_eq_ok.1 h
      split at h
      · rename_i hproposed
        obtain ⟨hnone, h⟩ := (check_bind_eq_ok.1 h).imp_left ensure_eq_ok.1
        rw [← pure_eq_ok.1 h]
        exact ⟨⟨htype, hschema, hstatus, hrevision, htitle, bind_eq_ok.2 ⟨_, h₁, hproject⟩,
          bind_eq_ok.2 ⟨_, h₂, hasOf⟩, bind_eq_ok.2 ⟨_, h₃, hsummary⟩, bind_eq_ok.2 ⟨_, h₄, hphase⟩,
          bind_eq_ok.2 ⟨_, h₅, hgoal⟩, hactive, hnext, hblocked, hmilestones, hvalidations, hbasisIds,
          hdisjoint, hformat, hbasis⟩, bind_eq_ok.2 ⟨_, h₆, hstate⟩, hconfirmed, hrevisions, hprint,
          fun _ => hnone, fun hne => absurd hproposed hne, fun hne => absurd hproposed hne,
          fun hne => absurd hproposed hne⟩
      · rename_i hne
        obtain ⟨htrusted, h⟩ := (check_bind_eq_ok.1 h).imp_left ensure_eq_ok.1
        obtain ⟨hcover, h⟩ := (check_bind_eq_ok.1 h).imp_left ensure_eq_ok.1
        obtain ⟨hfingerprint, h⟩ := check_bind_eq_ok.1 h
        obtain ⟨hsame, h⟩ := (check_bind_eq_ok.1 h).imp_left ensure_eq_ok.1
        rw [← pure_eq_ok.1 h]
        exact ⟨⟨htype, hschema, hstatus, hrevision, htitle, bind_eq_ok.2 ⟨_, h₁, hproject⟩,
          bind_eq_ok.2 ⟨_, h₂, hasOf⟩, bind_eq_ok.2 ⟨_, h₃, hsummary⟩, bind_eq_ok.2 ⟨_, h₄, hphase⟩,
          bind_eq_ok.2 ⟨_, h₅, hgoal⟩, hactive, hnext, hblocked, hmilestones, hvalidations, hbasisIds,
          hdisjoint, hformat, hbasis⟩, bind_eq_ok.2 ⟨_, h₆, hstate⟩, hconfirmed, hrevisions, hprint,
          fun hproposed => absurd hproposed hne, fun _ => htrusted, fun _ => hcover,
          fun _ => ⟨hfingerprint, hsame⟩⟩
    split at h
    · rename_i hget
      exact hrest _ (by rw [storedFingerprint, hget]) h
    · rename_i hget
      exact hrest _ (by rw [storedFingerprint, hget]) h
    · cases h
  · rintro ⟨hd, hc⟩
    obtain ⟨_, h₁, hproject⟩ := bind_eq_ok.1 hd.projectId
    obtain ⟨_, h₂, hasOf⟩ := bind_eq_ok.1 hd.asOf
    obtain ⟨_, h₃, hsummary⟩ := bind_eq_ok.1 hd.summary
    obtain ⟨_, h₄, hphase⟩ := bind_eq_ok.1 hd.currentPhase
    obtain ⟨_, h₅, hgoal⟩ := bind_eq_ok.1 hd.currentGoal
    obtain ⟨_, h₆, hstate⟩ := bind_eq_ok.1 hc.state
    have hbasis := hd.basis
    have hprint := hc.fingerprint
    rw [readCheckpoint, ensure_of ⟨hd.recordType, hd.schemaVersion⟩, ok_bind,
      ensure_of ⟨hd.status, hd.revision⟩, ok_bind, ensure_of hd.title, ok_bind, h₁, ok_bind, hproject, ok_bind,
      h₂, ok_bind, hasOf, ok_bind, h₃, ok_bind, hsummary, ok_bind, h₄, ok_bind, hphase, ok_bind, h₅, ok_bind,
      hgoal, ok_bind, hd.active, ok_bind, hd.next, ok_bind, hd.blocked, ok_bind, hd.milestones, ok_bind,
      hd.validations, ok_bind, hd.basisRecords, ok_bind, hd.disjoint, ok_bind, h₆, ok_bind, hstate, ok_bind,
      hc.confirmedBy, ok_bind, hc.revisions, ok_bind]
    extract_lets finish
    have hfinish : finish c.basisFingerprint = .ok c := by
      show ensure _ _ >>= _ = _
      rw [ensure_of hd.format, ok_bind]
      extract_lets content
      have hcontent : content = c := rfl
      rw [hcontent, hbasis, ok_bind]
      by_cases hproposed : c.confirmationState = .proposed
      · rw [if_pos hproposed, ensure_of (hc.proposed hproposed), ok_bind]
        rfl
      · rw [if_neg hproposed, ensure_of (hc.trusted hproposed), ok_bind, ensure_of (hc.cover hproposed), ok_bind,
          (hc.print hproposed).1, ok_bind, ensure_of (hc.print hproposed).2, ok_bind]
        rfl
    split
    · rename_i hget
      rw [storedFingerprint, hget, Except.ok.injEq] at hprint
      exact hprint ▸ hfinish
    · rename_i hget
      rw [storedFingerprint, hget, Except.ok.injEq] at hprint
      exact hprint ▸ hfinish
    · rename_i hnull htext
      rw [storedFingerprint] at hprint
      split at hprint
      · rename_i hget
        exact absurd hget hnull
      · rename_i hget
        exact absurd hget (htext _)
      · cases hprint

/-! ## The stored revisions -/

omit [ModuleRules] in
theorem basisRevisionsFrom_uuidText {result revisions : BasisRevisions}
    (hnodup : ((result ++ revisions).map Prod.fst).Nodup) (hpositive : ∀ entry ∈ revisions, 1 ≤ entry.2) :
    basisRevisionsFrom result (revisions.map fun entry => (uuidText entry.1, entry.2)) =
      .ok (result ++ revisions) := by
  induction revisions generalizing result with
  | nil => rw [List.map_nil, basisRevisionsFrom, List.append_nil]
  | cons entry rest ih =>
    have hnew : entry.1 ∉ result.map Prod.fst := by
      rw [List.map_append, List.nodup_append'] at hnodup
      exact fun hmem => hnodup.2.2 hmem List.mem_cons_self
    rw [List.append_cons] at hnodup ⊢
    rw [List.map_cons, basisRevisionsFrom, uuidField_eq_ok.2 (uuid_uuidText entry.1), ok_bind,
      ensure_of (hpositive entry List.mem_cons_self), ok_bind, ensure_of hnew, ok_bind]
    exact ih hnodup fun other hother => hpositive other (List.mem_cons_of_mem _ hother)

/-- Revisions as they are captured: each record once, in the order of the identifiers, at a revision that is
positive. -/
structure BasisRevisions.Ordered (revisions : BasisRevisions) : Prop where
  nodup : (revisions.map Prod.fst).Nodup
  sorted : revisions.Pairwise fun a b => a.1.toNat ≤ b.1.toNat
  positive : ∀ entry ∈ revisions, 1 ≤ entry.2

omit [ModuleRules] in
/-- What has been captured is read back unless there is too much of it. -/
theorem metadataBasisRevisions_payload {metadata : Metadata} {revisions : BasisRevisions}
    (hget : metadata.get "basis_record_revisions" = revisions.payload) (h : revisions.Ordered)
    {result : BasisRevisions} :
    metadataBasisRevisions metadata = .ok result ↔ revisions.length ≤ maxLinks ∧ result = revisions := by
  have htyped : ∀ read : String × Json → Result (Text × Int),
      (∀ entry : RecordId × Int, read (String.ofList (uuidText entry.1), .int entry.2) =
        .ok (uuidText entry.1, entry.2)) →
      (revisions.map fun entry => (String.ofList (uuidText entry.1), Json.int entry.2)).mapM read =
        .ok (revisions.map fun entry => (uuidText entry.1, entry.2)) := by
    refine fun read hread => mapM_eq_ok.2 ?_
    rw [List.forall₂_map_left_iff, List.forall₂_map_right_iff, List.forall₂_same]
    exact fun entry _ => hread entry
  rw [metadataBasisRevisions, hget, BasisRevisions.payload]
  simp only
  rw [htyped _ fun entry => by simp only [String.toList_ofList], ok_bind, basisRevisions, List.length_map,
    check_bind_eq_ok, ensure_eq_ok, basisRevisionsFrom_uuidText (by simpa using h.nodup) h.positive, ok_bind,
    List.nil_append, BasisRevisions.sort, List.mergeSort_of_pairwise (by simpa using h.sorted), pure_eq_ok,
    eq_comm (a := revisions)]

omit [PythonLibrary] [ModuleRules] in
/-- `_capture_basis_revisions` reads every record of the basis once. -/
theorem captureBasisRevisions_on {db : Database} {c : CheckpointContent} {revisions : BasisRevisions}
    (hpositive : ∀ id r, db.find? id = some r → 1 ≤ r.revision)
    (h : (captureBasisRevisions c).on db = .ok revisions) :
    revisions.Ordered ∧ revisions.Cover c.basis ∧ revisions.length = c.basis.dedup.length := by
  rw [captureBasisRevisions, Reader.on, ReadProgram.run_collect] at h
  have hread : ∀ {id : RecordId} {entry : RecordId × Int}, ReadProgram.run db.answer (do
      let record ← ReadProgram.catching (DollError.isA [.key])
        (invalid "checkpoint basis record is missing") (getRecord id)
      return (id, record.revision)) = .ok entry →
      entry.1 = id ∧ ∃ r, db.find? id = some r ∧ r.revision = entry.2 := by
    intro id entry hentry
    rw [ReadProgram.run_bind, ReadProgram.run_catching] at hentry
    obtain ⟨r, hr, hentry⟩ := bind_eq_ok.1 hentry
    cases hentry
    exact ⟨rfl, r, Database.getRecord_eq_ok.1 (catching_eq_ok.1 hr), rfl⟩
  have hids : revisions.map Prod.fst = c.orderedBasis := by
    rw [← List.map_id c.orderedBasis]
    exact map_of_mapM h fun id _ entry hentry => (hread hentry).1
  have hperm : c.orderedBasis.Perm c.basis.dedup := List.mergeSort_perm _ _
  have hmem : ∀ id, id ∈ revisions.map Prod.fst ↔ id ∈ c.basis := fun id => by
    rw [hids, hperm.mem_iff, List.mem_dedup]
  refine ⟨⟨?_, ?_, fun entry hentry => ?_⟩, ⟨fun id hid => (hmem id).1 hid, fun id hid => (hmem id).2 hid⟩, ?_⟩
  · rw [hids, hperm.nodup_iff]
    exact List.nodup_dedup _
  · have hsorted : c.orderedBasis.Pairwise fun a b => a.toNat ≤ b.toNat := by
      refine (List.pairwise_mergeSort (fun a b c hab hbc => ?_) (fun a b => ?_) _).imp of_decide_eq_true
      · exact decide_eq_true ((of_decide_eq_true hab).trans (of_decide_eq_true hbc))
      · rw [Bool.or_eq_true, decide_eq_true_iff, decide_eq_true_iff]
        exact Nat.le_total _ _
    rw [← hids, List.pairwise_map] at hsorted
    exact hsorted
  · obtain ⟨id, -, hentry⟩ := exists_of_mem_mapM h hentry
    obtain ⟨-, r, hr, hrevision⟩ := hread hentry
    exact hrevision ▸ hpositive id r hr
  · rw [← hperm.length_eq, ← hids, List.length_map]

/-! ## Confirming -/

/-- What `confirm` has read and is going to write. -/
theorem confirm_on {db : Database} {env : Surroundings} {checkpointId : Text} {expectedRevision : Int}
    {caller : Caller} {w : Write} (h : (confirm env checkpointId expectedRevision caller).on db = .ok w) :
    ∃ id base c revisions u draft errors, uuid checkpointId = some id ∧ db.find? id = some base ∧
      readCheckpoint base = .ok c ∧ c.confirmationState = .proposed ∧
      (captureBasisRevisions c).on db = .ok revisions ∧ w = .change u draft errors ∧ u.base = base ∧
      u.schemaVersion = none ∧ u.status = .active ∧ u.provenance = some .userConfirmed ∧ u.title = none ∧
      u.metadata = confirmedMetadata base.metadata revisions (basisFingerprint base.id c revisions) := by
  simp only [confirm, currentCheckpoint, requireRecord, checkpointFromRecordLive, Reader.on, ReadProgram.run_bind,
    ReadProgram.run_catching, ReadProgram.run_lift, ReadProgram.run_pure] at h
  obtain ⟨-, h⟩ := check_bind_eq_ok.1 h
  obtain ⟨⟨base, current⟩, hcurrent, h⟩ := bind_eq_ok.1 h
  obtain ⟨r, hr, hcurrent⟩ := bind_eq_ok.1 hcurrent
  obtain ⟨id, hid, hr⟩ := bind_eq_ok.1 hr
  obtain ⟨r', hr', hr⟩ := bind_eq_ok.1 hr
  obtain ⟨-, hr⟩ := check_bind_eq_ok.1 hr
  cases hr
  obtain ⟨info, hinfo, hcurrent⟩ := bind_eq_ok.1 hcurrent
  obtain ⟨-, hcurrent⟩ := check_bind_eq_ok.1 hcurrent
  cases hcurrent
  obtain ⟨c, hc, hinfo⟩ := bind_eq_ok.1 (catching_eq_ok.1 hinfo)
  obtain ⟨freshness, -, hinfo⟩ := bind_eq_ok.1 hinfo
  cases hinfo
  obtain ⟨hproposed, h⟩ := (check_bind_eq_ok.1 h).imp_left ensure_eq_ok.1
  obtain ⟨-, h⟩ := check_bind_eq_ok.1 h
  obtain ⟨revisions, hrevisions, h⟩ := bind_eq_ok.1 h
  obtain ⟨-, h⟩ := check_bind_eq_ok.1 h
  cases h
  exact ⟨id, base, c, revisions, _, _, _, uuidField_eq_ok.1 hid,
    Database.getRecord_eq_ok.1 (catching_eq_ok.1 hr'), hc, hproposed, hrevisions, rfl, rfl, rfl, rfl, rfl, rfl, rfl⟩

/-- A proposed checkpoint that has been confirmed with the revisions. -/
def CheckpointContent.confirm (c : CheckpointContent) (id : RecordId) (revisions : BasisRevisions) :
    CheckpointContent :=
  { c with
    basisRecordRevisions := revisions, basisFingerprint := some (Checkpoint.basisFingerprint id c revisions),
    confirmationState := .confirmed, confirmedByUser := true }

omit [PythonLibrary] [ModuleRules] in
theorem get_confirmedMetadata_of_ne {metadata : Metadata} {revisions : BasisRevisions} {print : Text} {key : String}
    (hkey : key ∉ ["basis_record_revisions", "basis_fingerprint", "confirmation_state", "confirmed_by"]) :
    (confirmedMetadata metadata revisions print).get key = metadata.get key := by
  simp only [List.mem_cons, List.not_mem_nil, or_false, not_or] at hkey
  obtain ⟨h₁, h₂, h₃, h₄⟩ := hkey
  rw [confirmedMetadata, Metadata.get_set, if_neg h₄, Metadata.get_set, if_neg h₃, Metadata.get_set, if_neg h₂,
    Metadata.get_set, if_neg h₁]

omit [PythonLibrary] [ModuleRules] in
theorem isFingerprint_hexDigits (n : ℕ) : isFingerprint ("sha256:".toList ++ hexDigits 64 n) = true := by
  have hdigit : ∀ n < 16, (('0' ≤ hexDigit n && hexDigit n ≤ '9') || ('a' ≤ hexDigit n && hexDigit n ≤ 'f')) =
      true := by decide
  have hlength : "sha256:".toList.length = 7 := by decide
  rw [isFingerprint, List.drop_left' hlength, length_hexDigits, Bool.and_eq_true, Bool.and_eq_true,
    List.isPrefixOf_iff_prefix, List.all_eq_true]
  refine ⟨⟨List.prefix_append _ _, rfl⟩, fun d hd => ?_⟩
  obtain ⟨n, hn, rfl⟩ := isHexDigit_of_mem_hexDigits hd
  exact hdigit n hn

variable {base row : RecordEnvelope} {c : CheckpointContent} {revisions : BasisRevisions}

theorem Describes.confirm (h : Describes base c) (hid : row.id = base.id) (htype : row.recordType = base.recordType)
    (hschema : row.schemaVersion = base.schemaVersion) (hactive : row.status = .active)
    (hrevision : base.revision ≤ row.revision) (htitle : row.title = base.title)
    (hmetadata : row.metadata = confirmedMetadata base.metadata revisions (basisFingerprint base.id c revisions)) :
    Describes row (c.confirm base.id revisions) := by
  have hget : ∀ key, key ∉ ["basis_record_revisions", "basis_fingerprint", "confirmation_state", "confirmed_by"] →
      row.metadata.get key = base.metadata.get key := fun key hkey => by
    rw [hmetadata, get_confirmedMetadata_of_ne hkey]
  have hrequired : ∀ key,
      key ∉ ["basis_record_revisions", "basis_fingerprint", "confirmation_state", "confirmed_by"] →
      required row.metadata key = required base.metadata key := fun key hkey => by
    rw [required, required, requiredString, requiredString, hget key hkey]
  have hids : ∀ key,
      key ∉ ["basis_record_revisions", "basis_fingerprint", "confirmation_state", "confirmed_by"] →
      metadataIds row.metadata key = metadataIds base.metadata key := fun key hkey => by
    rw [metadataIds, metadataIds, DollState.metadataIds, DollState.metadataIds, hget key hkey]
  exact {
    recordType := htype.trans h.recordType
    schemaVersion := hschema.trans h.schemaVersion
    status := .inl hactive
    revision := h.revision.trans hrevision
    title := htitle.trans h.title
    projectId := hrequired "project_id" (by decide) ▸ h.projectId
    asOf := hrequired "as_of" (by decide) ▸ h.asOf
    summary := hrequired "summary" (by decide) ▸ h.summary
    currentPhase := hrequired "current_phase" (by decide) ▸ h.currentPhase
    currentGoal := hrequired "current_goal" (by decide) ▸ h.currentGoal
    active := (hids _ (by decide)).trans h.active
    next := (hids _ (by decide)).trans h.next
    blocked := (hids _ (by decide)).trans h.blocked
    milestones := (hids _ (by decide)).trans h.milestones
    validations := (hids _ (by decide)).trans h.validations
    basisRecords := (hids _ (by decide)).trans h.basisRecords
    disjoint := h.disjoint
    format := (congrArg (Json.eq · (.int 1)) (hget "fingerprint_format_version" (by decide))).trans h.format
    basis := hid ▸ h.basis }

theorem Confirms.confirm (h : revisions.Ordered) (hcover : revisions.Cover c.basis)
    (hlength : revisions.length ≤ maxLinks) (hid : row.id = base.id) (hprovenance : row.provenance = .userConfirmed)
    (hmetadata : row.metadata = confirmedMetadata base.metadata revisions (basisFingerprint base.id c revisions)) :
    Confirms row (c.confirm base.id revisions) where
  state := by
    have hget : row.metadata.get "confirmation_state" = .str "confirmed".toList := by
      simp [hmetadata, confirmedMetadata, Metadata.get_set]
    rw [required, requiredString, hget]
    rfl
  confirmedBy := by
    have hget : row.metadata.get "confirmed_by" = .str "user".toList := by
      simp [hmetadata, confirmedMetadata, Metadata.get_set]
    rw [hget]
    rfl
  revisions := (metadataBasisRevisions_payload (by rw [hmetadata, get_confirmedMetadata]) h).2 ⟨hlength, rfl⟩
  fingerprint := by
    have hget : row.metadata.get "basis_fingerprint" = .str (basisFingerprint base.id c revisions) := by
      simp [hmetadata, confirmedMetadata, Metadata.get_set]
    rw [storedFingerprint, hget]
    rfl
  proposed := nofun
  trusted := fun _ => ⟨.inr hprovenance, rfl⟩
  cover := fun _ => hcover
  print := fun _ => ⟨ensure_of ⟨_, rfl, isFingerprint_hexDigits _⟩ _, by rw [hid]; rfl⟩

/-- The record that is committed is readable exactly when the basis is no larger than what the reader takes. -/
theorem readCheckpoint_confirmed (hread : readCheckpoint base = .ok c) (h : revisions.Ordered)
    (hcover : revisions.Cover c.basis) (hid : row.id = base.id) (htype : row.recordType = base.recordType)
    (hschema : row.schemaVersion = base.schemaVersion) (hactive : row.status = .active)
    (hrevision : base.revision ≤ row.revision) (htitle : row.title = base.title)
    (hprovenance : row.provenance = .userConfirmed)
    (hmetadata : row.metadata = confirmedMetadata base.metadata revisions (basisFingerprint base.id c revisions))
    {c' : CheckpointContent} : readCheckpoint row = .ok c' ↔
      revisions.length ≤ maxLinks ∧ c' = c.confirm base.id revisions := by
  have hdescribes := (readCheckpoint_eq_ok_iff.1 hread).1.confirm hid htype hschema hactive hrevision htitle
    hmetadata
  have hwhen : revisions.length ≤ maxLinks → readCheckpoint row = .ok (c.confirm base.id revisions) := fun hlength =>
    readCheckpoint_eq_ok_iff.2 ⟨hdescribes, .confirm h hcover hlength hid hprovenance hmetadata⟩
  constructor
  · intro h'
    have hlength := ((metadataBasisRevisions_payload (by rw [hmetadata, get_confirmedMetadata]) h).1
      (readCheckpoint_eq_ok_iff.1 h').2.revisions).1
    exact ⟨hlength, Except.ok.inj (h'.symm.trans (hwhen hlength))⟩
  · rintro ⟨hlength, rfl⟩
    exact hwhen hlength

/-- `get` succeeds on whatever its reader reads: deriving the freshness raises nothing. -/
theorem exists_get_on {db : Database} {checkpointId : Text} {id : RecordId} (hid : uuid checkpointId = some id)
    (hrow : db.find? id = some row) (hread : readCheckpoint row = .ok c) :
    ∃ info, (get checkpointId).on db = .ok info ∧ info.content = c := by
  obtain ⟨freshness, hfreshness⟩ : ∃ freshness, (deriveFreshness c).on db = .ok freshness := by
    cases h : (deriveFreshness c).on db with
    | ok freshness => exact ⟨freshness, rfl⟩
    | error e => exact absurd (raises_deriveFreshness e h) (by simp [OfKinds, DollError.isA])
  refine ⟨CheckpointInfo.ofRecord row c freshness, ?_, rfl⟩
  have hrecord : db.getRecord id = .ok row := Database.getRecord_eq_ok.2 hrow
  simp only [get, requireRecord, checkpointFromRecordLive, Reader.on, ReadProgram.run_bind,
    ReadProgram.run_catching, ReadProgram.run_lift, ReadProgram.run_pure]
  have htype := (readCheckpoint_eq_ok_iff.1 hread).1.recordType
  exact bind_eq_ok.2 ⟨row, bind_eq_ok.2 ⟨id, uuidField_eq_ok.2 hid, bind_eq_ok.2 ⟨row, catching_eq_ok.2 hrecord,
      check_bind_eq_ok.2 ⟨ensure_of htype _, rfl⟩⟩⟩,
    catching_eq_ok.2 (bind_eq_ok.2 ⟨c, hread, bind_eq_ok.2 ⟨freshness, hfreshness, rfl⟩⟩)⟩

/-! ## From the proposal on -/

/-- `get` returns the checkpoint as confirmed, with the revisions of exactly the basis of `c`. -/
def ReadsConfirmed (db : Database) (checkpointId : Text) (c : CheckpointContent) : Prop :=
  ∃ info, (get checkpointId).on db = .ok info ∧ info.content.confirmationState = .confirmed ∧
    info.content.basisRecordRevisions.Cover c.basis

/-- The record is still the proposal of `c`, or no proposal any more. -/
def Proposes (db : Database) (id : RecordId) (c : CheckpointContent) : Prop :=
  db.Has id fun r => r.recordType = "project_checkpoint" ∧
    (r.metadata = c.metadata ∨ r.metadata.get "confirmation_state" ≠ .str "proposed".toList)

theorem Step.proposes {db db' : Database} {a : Act} {id : RecordId} (h : Step db a db')
    (hdb : Proposes db id c) : Proposes db' id c := by
  obtain ⟨r, hr, htype, hmetadata⟩ := hdb
  have hkept : KeepsCheckpoints db db' → Proposes db' id c := fun hkeeps =>
    ⟨r, (hkeeps id r htype).2 hr, htype, hmetadata⟩
  cases h with
  | @project env call w _ hprepare hcommit =>
    exact hkept (keepsCheckpoints_of_project (post_of_on (call.prepare_all env) hprepare) hcommit)
  | @workItem env call w _ hprepare hcommit =>
    exact hkept (keepsCheckpoints_of_workItem (post_of_on (call.prepare_all env) hprepare) hcommit)
  | elsewhere _ hkeeps => exact hkept hkeeps
  | @checkpoint env call w _ hprepare hcommit =>
    have hput : ∀ {put : RecordEnvelope}, db.Writes put db' → (put.id = id → put.recordType = r.recordType ∧
        (put.metadata = r.metadata ∨ put.metadata.get "confirmation_state" ≠ .str "proposed".toList)) →
        Proposes db' id c := by
      intro put hwrites hsame
      by_cases hid : put.id = id
      · obtain ⟨htype', hmetadata'⟩ := hsame hid
        refine ⟨put, by rw [hwrites, if_pos hid], htype'.trans htype, ?_⟩
        rcases hmetadata' with heq | hne
        · rwa [heq]
        · exact .inr hne
      · exact ⟨r, by rw [hwrites, if_neg hid, hr], htype, hmetadata⟩
    have hchange : ∀ {checkpointId : Text} {u : RecordUpdate} {c' : CheckpointContent} {draft : AuditDraft}
        {errors : TransactionErrors}, Current (answersOf db) checkpointId u.base c' →
        (Write.change u draft errors).commit db = .ok db' →
        (u.metadata = u.base.metadata ∨ u.metadata.get "confirmation_state" ≠ .str "proposed".toList) →
        Proposes db' id c := by
      intro checkpointId u c' draft errors hcurrent hcommit hstate
      obtain ⟨found, hfound, -, -, hwrites⟩ := updateTransaction_writes hcommit
      obtain ⟨id', -, hseen⟩ := hcurrent.seen
      have hbase : db.find? u.base.id = some u.base := Database.id_of_find? hseen.symm ▸ hseen.symm
      cases hfound.symm.trans hbase
      refine hput hwrites fun hid => ?_
      rw [u.apply_id] at hid
      cases (hid ▸ hbase).symm.trans hr
      exact ⟨rfl, hstate⟩
    cases post_of_on (call.prepare_all env) hprepare with
    | proposed htype' _ _ _ =>
      obtain ⟨hfree, hwrites⟩ := createTransaction_writes hcommit
      exact hput hwrites fun hid => absurd (hid ▸ hfree) (by rw [hr]; exact Option.some_ne_none _)
    | confirmed hcurrent _ _ hmetadata' =>
      refine hchange hcurrent hcommit (.inr ?_)
      rw [hmetadata']
      simp [confirmedMetadata, Metadata.get_set]
    | superseded hcurrent _ hmetadata' =>
      refine hchange hcurrent hcommit (.inr ?_)
      rw [hmetadata', Metadata.get_set, if_pos rfl]
      simp
    | archived hcurrent hmetadata' => exact hchange hcurrent hcommit (.inl hmetadata')

/-- The six lists of identifiers of a checkpoint. -/
def CheckpointContent.lists (c : CheckpointContent) : List (List RecordId) :=
  [c.activeWorkItemIds, c.nextWorkItemIds, c.blockedWorkItemIds, c.completedMilestoneIds, c.requiredValidationIds,
    c.basisRecordIds]

/-- What `propose` accepts. -/
structure CheckpointContent.Accepted (c : CheckpointContent) (selfId : RecordId) : Prop where
  asOf : IsUtc c.asOf
  summary : WordsOk c.summary maxSummaryLength
  currentPhase : WordsOk c.currentPhase maxPhaseLength
  currentGoal : WordsOk c.currentGoal maxGoalLength
  lists : ∀ ids ∈ c.lists, IdsOk maxLinks ids
  disjoint : requireDisjointWorkLists [c.activeWorkItemIds, c.nextWorkItemIds, c.blockedWorkItemIds,
    c.completedMilestoneIds] = .ok ()
  others : selfId ∉ c.automaticBasis ∧ selfId ∉ c.basisRecordIds
  once : ∀ id ∈ c.automaticBasis, id ∉ c.basisRecordIds
  proposed : c.confirmationState = .proposed
  unconfirmed : c.basisRecordRevisions = [] ∧ c.basisFingerprint = none ∧ c.confirmedByUser = false

omit [ModuleRules] in
theorem accepted_of_checkedValues {selfId : RecordId} {p : Proposal} (h : checkedValues selfId p.values = .ok c) :
    c.Accepted selfId := by
  obtain ⟨hproposed, -⟩ := checkedValues_proposal h
  obtain ⟨projectId, -, h⟩ := bind_eq_ok.1 h
  obtain ⟨asOf, hasOf, h⟩ := bind_eq_ok.1 h
  obtain ⟨summary, hsummary, h⟩ := bind_eq_ok.1 h
  obtain ⟨currentPhase, hphase, h⟩ := bind_eq_ok.1 h
  obtain ⟨currentGoal, hgoal, h⟩ := bind_eq_ok.1 h
  obtain ⟨activeIds, hactive, h⟩ := bind_eq_ok.1 h
  obtain ⟨nextIds, hnext, h⟩ := bind_eq_ok.1 h
  obtain ⟨blockedIds, hblocked, h⟩ := bind_eq_ok.1 h
  obtain ⟨milestoneIds, hmilestones, h⟩ := bind_eq_ok.1 h
  obtain ⟨validationIds, hvalidations, h⟩ := bind_eq_ok.1 h
  obtain ⟨basisIds, hbasis, h⟩ := bind_eq_ok.1 h
  obtain ⟨hdisjoint, h⟩ := check_bind_eq_ok.1 h
  obtain ⟨hvalid, h⟩ := check_bind_eq_ok.1 h
  obtain ⟨hothers, hvalid⟩ := (check_bind_eq_ok.1 hvalid).imp_left ensure_eq_ok.1
  obtain ⟨state, -, h⟩ := bind_eq_ok.1 h
  obtain ⟨confirmed, -, h⟩ := bind_eq_ok.1 h
  obtain ⟨revisions, -, h⟩ := bind_eq_ok.1 h
  have hlists : ∀ ids ∈ [activeIds, nextIds, blockedIds, milestoneIds, validationIds, basisIds],
      IdsOk maxLinks ids := by
    simp only [List.forall_mem_cons]
    exact ⟨referenceIds_ok hactive, referenceIds_ok hnext, referenceIds_ok hblocked, referenceIds_ok hmilestones,
      referenceIds_ok hvalidations, referenceIds_ok hbasis, nofun⟩
  obtain ⟨rfl, hutc⟩ := utcField_eq_ok.1 hasOf
  split at h
  · obtain ⟨hnone, h⟩ := (check_bind_eq_ok.1 h).imp_left ensure_eq_ok.1
    have hc := pure_eq_ok.1 h
    subst hc
    exact ⟨hutc, (wordsField_eq_ok.1 hsummary).2, (wordsField_eq_ok.1 hphase).2, (wordsField_eq_ok.1 hgoal).2, hlists,
      hdisjoint, hothers, ensure_eq_ok.1 hvalid, hproposed, hnone⟩
  · rename_i hne
    obtain ⟨-, h⟩ := check_bind_eq_ok.1 h
    obtain ⟨-, h⟩ := check_bind_eq_ok.1 h
    obtain ⟨-, h⟩ := check_bind_eq_ok.1 h
    have hc := pure_eq_ok.1 h
    subst hc
    exact absurd hproposed hne

/-- A row that has been written for a proposal is read back as that proposal. -/
theorem readCheckpoint_of_accepted (h : c.Accepted row.id) (htype : row.recordType = "project_checkpoint")
    (hschema : row.schemaVersion = 1) (hactive : row.status = .active) (hrevision : 1 ≤ row.revision)
    (htitle : row.title = none) (hmetadata : row.metadata = c.metadata) : readCheckpoint row = .ok c := by
  have hget : ∀ {key : String} {value : Json}, c.metadata.get key = value → row.metadata.get key = value :=
    fun h => hmetadata ▸ h
  have htext : ∀ {key : String} {text : Text}, c.metadata.get key = .str text → text ≠ [] →
      required row.metadata key = .ok text := fun h hne => requiredString_eq_ok.2 ⟨hget h, hne⟩
  have hids : ∀ {key : String} {ids : List RecordId}, c.metadata.get key = Json.ofIds ids → ids ∈ c.lists →
      metadataIds row.metadata key = .ok ids := fun h' hmem => metadataIds_ofIds (hget h') (h.lists _ hmem)
  have hasOf : c.asOf ≠ [] := by
    intro hnil
    have hlast := h.asOf.1
    rw [hnil] at hlast
    cases hlast
  have hformat : Json.eq (row.metadata.get "fingerprint_format_version") (.int 1) = true := by
    rw [hmetadata]
    rfl
  obtain ⟨hrevisions, hprint, hconfirmed⟩ := h.unconfirmed
  refine readCheckpoint_eq_ok_iff.2 ⟨?_, ?_⟩
  · exact {
      recordType := htype
      schemaVersion := hschema
      status := .inl hactive
      revision := hrevision
      title := htitle
      projectId := bind_eq_ok.2 ⟨_, htext rfl (uuidText_ne_nil _), uuidField_eq_ok.2 (uuid_uuidText _)⟩
      asOf := bind_eq_ok.2 ⟨_, htext rfl hasOf, utcField_idem h.asOf⟩
      summary := bind_eq_ok.2 ⟨_, htext rfl h.summary.2.1, wordsField_idem h.summary⟩
      currentPhase := bind_eq_ok.2 ⟨_, htext rfl h.currentPhase.2.1, wordsField_idem h.currentPhase⟩
      currentGoal := bind_eq_ok.2 ⟨_, htext rfl h.currentGoal.2.1, wordsField_idem h.currentGoal⟩
      active := hids rfl (by simp [CheckpointContent.lists])
      next := hids rfl (by simp [CheckpointContent.lists])
      blocked := hids rfl (by simp [CheckpointContent.lists])
      milestones := hids rfl (by simp [CheckpointContent.lists])
      validations := hids rfl (by simp [CheckpointContent.lists])
      basisRecords := hids rfl (by simp [CheckpointContent.lists])
      disjoint := h.disjoint
      format := hformat
      basis := check_bind_eq_ok.2 ⟨ensure_of h.others _, ensure_of h.once _⟩ }
  · exact {
      state := bind_eq_ok.2 ⟨c.confirmationState.text, htext rfl (by cases c.confirmationState <;> decide),
        orFail_eq_ok.2 (ConfirmationState.ofText?_text _)⟩
      confirmedBy := by
        rw [hmetadata]
        show confirmedBy (if c.confirmedByUser then .str "user".toList else .null) = _
        rw [hconfirmed]
        rfl
      revisions := (metadataBasisRevisions_payload (hget rfl)
        (hrevisions ▸ ⟨List.nodup_nil, List.Pairwise.nil, nofun⟩)).2 ⟨by rw [hrevisions]; exact Nat.zero_le _, rfl⟩
      fingerprint := by
        rw [storedFingerprint, hmetadata]
        show (match Json.ofText? c.basisFingerprint with
          | .null => Except.ok none
          | .str value => .ok (some value)
          | _ => .error (invalid "checkpoint fingerprint is invalid")) = _
        rw [hprint]
        rfl
      proposed := fun _ => h.unconfirmed
      trusted := fun hne => absurd h.proposed hne
      cover := fun hne => absurd h.proposed hne
      print := fun hne => absurd h.proposed hne }

/-- The basis that is read back is the one that has been written. -/
theorem basis_of_readCheckpoint {c' : CheckpointContent} (hlists : ∀ ids ∈ c.lists, IdsOk maxLinks ids)
    (hmetadata : base.metadata = c.metadata) (hread : readCheckpoint base = .ok c') : c'.basis = c.basis := by
  obtain ⟨hactive, hnext, hblocked, hmilestones, hvalidations, hbasis, -⟩ :
      IdsOk maxLinks c.activeWorkItemIds ∧ IdsOk maxLinks c.nextWorkItemIds ∧ IdsOk maxLinks c.blockedWorkItemIds ∧
      IdsOk maxLinks c.completedMilestoneIds ∧ IdsOk maxLinks c.requiredValidationIds ∧
      IdsOk maxLinks c.basisRecordIds ∧ True := by
    simpa only [CheckpointContent.lists, List.forall_mem_cons, List.not_mem_nil, false_implies, implies_true]
      using hlists
  have hd := (readCheckpoint_eq_ok_iff.1 hread).1
  have hids : ∀ {key : String} {ids ids' : List RecordId}, metadataIds base.metadata key = .ok ids' →
      c.metadata.get key = Json.ofIds ids → IdsOk maxLinks ids → ids' = ids := fun hstored hget hok =>
    Except.ok.inj (hstored.symm.trans (metadataIds_ofIds (hmetadata ▸ hget) hok))
  have hproject : c'.projectId = c.projectId := by
    obtain ⟨text, htext, hid⟩ := bind_eq_ok.1 hd.projectId
    have hget := (requiredString_eq_ok.1 htext).1
    rw [hmetadata] at hget
    cases hget
    exact Option.some.inj ((uuidField_eq_ok.1 hid).symm.trans (uuid_uuidText c.projectId))
  rw [CheckpointContent.basis, CheckpointContent.basis, CheckpointContent.automaticBasis,
    CheckpointContent.automaticBasis, hproject, hids hd.active rfl hactive, hids hd.next rfl hnext,
    hids hd.blocked rfl hblocked, hids hd.milestones rfl hmilestones, hids hd.validations rfl hvalidations,
    hids hd.basisRecords rfl hbasis]

/-- The record that `confirm` commits on a proposal is readable if and only if the basis has at most `maxLinks`
records; it is then confirmed, with the revisions of exactly the basis. -/
theorem readsConfirmed_iff {env : Surroundings} {expectedRevision : Int} {caller : Caller} {w : Write}
    {db db' : Database} {id : RecordId} {checkpointId : Text} (hid : uuid checkpointId = some id)
    (hlists : ∀ ids ∈ c.lists, IdsOk maxLinks ids) (hproposes : Proposes db id c)
    (hpositive : ∀ id r, db.find? id = some r → 1 ≤ r.revision)
    (hconfirm : (confirm env checkpointId expectedRevision caller).on db = .ok w) (hcommit : w.commit db = .ok db') :
    ReadsConfirmed db' checkpointId c ↔ c.basis.dedup.length ≤ maxLinks := by
  obtain ⟨id', base, c₀, revisions, u, draft, errors, hid', hbase, hread, hstate, hrevisions, rfl, hu, hschema,
    hactive, hprovenance, htitle, hmetadata⟩ := confirm_on hconfirm
  cases hid.symm.trans hid'
  -- what is confirmed is the proposal
  have hbasis : c₀.basis = c.basis := by
    obtain ⟨r, hr, -, hr'⟩ := hproposes
    cases hr.symm.trans hbase
    refine basis_of_readCheckpoint hlists (hr'.resolve_right fun hne => hne ?_) hread
    have hget := (reads_of_readCheckpoint hread).state
    rwa [hstate] at hget
  obtain ⟨hordered, hcover, hlength⟩ := captureBasisRevisions_on hpositive hrevisions
  rw [hbasis] at hcover hlength
  obtain ⟨found, hfound, -, -, hwrites⟩ := updateTransaction_writes hcommit
  rw [hu, Database.id_of_find? hbase, hbase, Option.some.injEq] at hfound
  subst hfound
  have hrow : db'.find? id = some (u.apply base) := by
    rw [hwrites, if_pos (by rw [u.apply_id, Database.id_of_find? hbase])]
  have hreads : ∀ {c'}, readCheckpoint (u.apply base) = .ok c' ↔ revisions.length ≤ maxLinks ∧
      c' = c₀.confirm base.id revisions := by
    intro c'
    refine readCheckpoint_confirmed hread hordered (hbasis ▸ hcover) (u.apply_id base) rfl ?_ hactive
      (Int.le_add_one le_rfl) ?_ ?_ hmetadata
    · rw [RecordUpdate.apply, hschema]
      rfl
    · rw [RecordUpdate.apply, htitle]
      rfl
    · rw [RecordUpdate.apply, hprovenance]
      rfl
  rw [← hlength]
  constructor
  · rintro ⟨info, hget, -, -⟩
    obtain ⟨id', r, hid', hr, -, hr', -⟩ := get_on hget
    cases hid.symm.trans hid'
    cases hr.symm.trans hrow
    exact (hreads.1 hr').1
  · intro hle
    obtain ⟨info, hget, hcontent⟩ := exists_get_on hid hrow (hreads.2 ⟨hle, rfl⟩)
    exact ⟨info, hget, by rw [hcontent]; rfl, by rw [hcontent]; exact hcover⟩

/-- For every checkpoint that `propose` accepts and every later state in which `confirm` commits on it. -/
theorem confirm_readable_iff {env₀ env : Surroundings} {p : Proposal} {sensitivity : RecordSensitivity}
    {caller₀ caller : Caller} {w₀ w : Write} {db₀ db₁ db db' : Database} {checkpointId : Text}
    {expectedRevision : Int} (hpropose : (propose env₀ p sensitivity caller₀).on db₀ = .ok w₀)
    (hcommit₀ : w₀.commit db₀ = .ok db₁) (hrun : Reachable Step db₁ db)
    (hpositive : ∀ id r, db.find? id = some r → 1 ≤ r.revision) (hid : uuid checkpointId = some env₀.newId)
    (hconfirm : (confirm env checkpointId expectedRevision caller).on db = .ok w)
    (hcommit : w.commit db = .ok db') :
    ∃ c, checkedValues env₀.newId p.values = .ok c ∧
      (ReadsConfirmed db' checkpointId c ↔ c.basis.dedup.length ≤ maxLinks) := by
  obtain ⟨c, hc, hwrite⟩ : ∃ c, checkedValues env₀.newId p.values = .ok c ∧
      createCheckpoint env₀ env₀.newId c.metadata (proposalProvenance caller₀.actorType) sensitivity
        caller₀.operationId "checkpoint.propose" caller₀.actorType = .ok w₀ := by
    simp only [propose, validatedCheckpointValues, Reader.on, ReadProgram.run_bind, ReadProgram.run_lift,
      ReadProgram.run_pure] at hpropose
    obtain ⟨c, hc, hwrite⟩ := bind_eq_ok.1 hpropose
    obtain ⟨c', hc', hc⟩ := bind_eq_ok.1 hc
    obtain ⟨-, hc⟩ := check_bind_eq_ok.1 hc
    cases hc
    exact ⟨c, hc', hwrite⟩
  refine ⟨c, hc, readsConfirmed_iff hid (accepted_of_checkedValues hc).lists ?_ hpositive hconfirm hcommit⟩
  refine hrun.invariant (I := fun s => Proposes s env₀.newId c) ?_ fun _ _ _ hI hs => hs.proposes hI
  obtain ⟨-, hwrite⟩ := check_bind_eq_ok.1 hwrite
  obtain ⟨-, hwrite⟩ := check_bind_eq_ok.1 hwrite
  cases hwrite
  obtain ⟨-, hwrites⟩ := createTransaction_writes hcommit₀
  exact ⟨_, by rw [hwrites, if_pos rfl], rfl, .inl rfl⟩

/-! ## When the calls reach their transactions -/

theorem propose_on {env : Surroundings} {p : Proposal} {sensitivity : RecordSensitivity} {caller : Caller}
    {db : Database} (hvalues : checkedValues env.newId p.values = .ok c)
    (hlinks : (validateLiveLinks c).on db = .ok ()) : (propose env p sensitivity caller).on db =
      createCheckpoint env env.newId c.metadata (proposalProvenance caller.actorType) sensitivity
        caller.operationId "checkpoint.propose" caller.actorType := by
  simp only [propose, validatedCheckpointValues, Reader.on, ReadProgram.run_bind, ReadProgram.run_lift,
    ReadProgram.run_pure, hvalues, ok_bind]
  rw [← Reader.on, hlinks, ok_bind, ok_bind]

theorem confirm_on_of {env : Surroundings} {checkpointId : Text} {expectedRevision : Int} {operation : Option Text}
    {db : Database} {id : RecordId} (hid : uuid checkpointId = some id) (hbase : db.find? id = some base)
    (hread : readCheckpoint base = .ok c) (hactive : base.status = .active)
    (hproposed : c.confirmationState = .proposed) (hlinks : (validateLiveLinks c).on db = .ok ())
    (hrevisions : (captureBasisRevisions c).on db = .ok revisions) :
    (confirm env checkpointId expectedRevision ⟨operation, .user⟩).on db =
      updateCheckpoint env base expectedRevision
        (confirmedMetadata base.metadata revisions (basisFingerprint base.id c revisions)) .active operation
        "checkpoint.confirm" := by
  have htype := (readCheckpoint_eq_ok_iff.1 hread).1.recordType
  have hrequire : (requireRecord checkpointId).on db = .ok base := by
    simp only [requireRecord, Reader.on, ReadProgram.run_bind, ReadProgram.run_catching, ReadProgram.run_lift,
      ReadProgram.run_pure]
    exact bind_eq_ok.2 ⟨id, uuidField_eq_ok.2 hid, bind_eq_ok.2 ⟨base,
      catching_eq_ok.2 (Database.getRecord_eq_ok.2 hbase), check_bind_eq_ok.2 ⟨ensure_of htype _, rfl⟩⟩⟩
  have hfreshness : (deriveFreshness c).on db = .ok none := by
    rw [deriveFreshness, hproposed]
    rfl
  have hcurrent : (currentCheckpoint checkpointId).on db = .ok (base, CheckpointInfo.ofRecord base c none) := by
    simp only [currentCheckpoint, checkpointFromRecordLive, Reader.on, ReadProgram.run_bind,
      ReadProgram.run_catching, ReadProgram.run_lift, ReadProgram.run_pure]
    exact bind_eq_ok.2 ⟨base, hrequire, bind_eq_ok.2 ⟨_, catching_eq_ok.2 (bind_eq_ok.2 ⟨c, hread,
      bind_eq_ok.2 ⟨none, hfreshness, rfl⟩⟩), check_bind_eq_ok.2 ⟨ensure_of hactive _, rfl⟩⟩⟩
  simp only [confirm, requireUser, Reader.on, ReadProgram.run_bind, ReadProgram.run_lift]
  rw [ensure_of trivial, ok_bind, ← Reader.on, hcurrent, ok_bind]
  have hstate : (base, CheckpointInfo.ofRecord base c none).2.content.confirmationState = .proposed := hproposed
  rw [ensure_of hstate, ok_bind]
  simp only [CheckpointInfo.ofRecord]
  rw [← Reader.on, hlinks, ok_bind, ← Reader.on, hrevisions, ok_bind]

end

section Runs

attribute [local instance] asciiLibrary acceptingRules

def crowd (n : ℕ) : List RecordId := (List.range n).map fun k => BitVec.ofNat 128 (1000 + k)

variable {n : ℕ} (hn : n ≤ maxLinks)

include hn in
theorem toNat_of_mem_crowd {id : RecordId} (h : id ∈ crowd n) : 1000 ≤ id.toNat := by
  have hn : n ≤ 300 := hn
  obtain ⟨k, hk, rfl⟩ := List.mem_map.1 h
  have := List.mem_range.1 hk
  rw [BitVec.toNat_ofNat, Nat.mod_eq_of_lt (by omega)]
  exact Nat.le_add_right _ _

include hn in
theorem nodup_crowd : (crowd n).Nodup := by
  have hn : n ≤ 300 := hn
  refine List.Nodup.map_on (fun j hj k hk h => ?_) List.nodup_range
  have hj := List.mem_range.1 hj
  have hk := List.mem_range.1 hk
  have hnat := congrArg BitVec.toNat h
  rw [BitVec.toNat_ofNat, BitVec.toNat_ofNat, Nat.mod_eq_of_lt (by omega), Nat.mod_eq_of_lt (by omega)] at hnat
  exact Nat.add_left_cancel hnat

theorem length_crowd (n : ℕ) : (crowd n).length = n := by rw [crowd, List.length_map, List.length_range]

include hn in
theorem not_mem_crowd {id : RecordId} (h : id.toNat < 1000) : id ∉ crowd n := fun hmem =>
  absurd (toNat_of_mem_crowd hn hmem) h.not_ge

/-- The garden and `n` other records. -/
def crowdedDatabase : Database :=
  { Database.fresh 0 [] with
    records := ⟨(100 :: crowd n).map Project.gardenRecord, by
      rw [List.map_map]
      show ((100 :: crowd n).map id).Nodup
      rw [List.map_id]
      exact List.nodup_cons.2 ⟨not_mem_crowd hn (by decide), nodup_crowd hn⟩⟩ }

/-- The checkpoint of the garden with all of them in its basis. -/
def crowdedProposal (n : ℕ) : Proposal := { gardenProposal with basisRecordIds := (crowd n).map uuidText }

def crowdedContent (n : ℕ) : CheckpointContent where
  projectId := 100
  asOf := gardenProposal.asOf
  summary := gardenProposal.summary
  currentPhase := gardenProposal.currentPhase
  currentGoal := gardenProposal.currentGoal
  activeWorkItemIds := []
  nextWorkItemIds := []
  blockedWorkItemIds := []
  completedMilestoneIds := []
  requiredValidationIds := []
  basisRecordIds := crowd n
  basisRecordRevisions := []
  basisFingerprint := none
  confirmationState := .proposed
  confirmedByUser := false


include hn in
theorem validateBasis_crowded (contains duplicate : String) :
    validateBasis 1 (crowdedContent n) contains duplicate = .ok () := by
  rw [validateBasis, ensure_of, ok_bind, ensure_of]
  · intro id hid
    rw [show id = 100 from List.mem_singleton.1 hid]
    exact not_mem_crowd hn (by decide)
  · exact ⟨(by decide : (1 : RecordId) ∉ [100]), not_mem_crowd hn (by decide)⟩

include hn in
theorem checkedValues_crowded : checkedValues 1 (crowdedProposal n).values = .ok (crowdedContent n) := by
  have hbasis : referenceIds "additional basis record IDs" ((crowd n).map uuidText) = .ok (crowd n) :=
    referenceIds_uuidText ⟨nodup_crowd hn, (length_crowd n).trans_le hn⟩
  have hasOf : utc "checkpoint as-of" gardenProposal.asOf = .ok gardenProposal.asOf := by decide
  have hsummary : words "checkpoint summary" gardenProposal.summary maxSummaryLength = .ok gardenProposal.summary := by
    decide
  have hcurrentPhase : words "checkpoint current phase" gardenProposal.currentPhase maxPhaseLength =
      .ok gardenProposal.currentPhase := by decide
  have hcurrentGoal : words "checkpoint current goal" gardenProposal.currentGoal maxGoalLength =
      .ok gardenProposal.currentGoal := by decide
  refine bind_eq_ok.2 ⟨100, uuidField_eq_ok.2 (uuid_uuidText 100), ?_⟩
  refine bind_eq_ok.2 ⟨gardenProposal.asOf, hasOf, ?_⟩
  refine bind_eq_ok.2 ⟨gardenProposal.summary, hsummary, ?_⟩
  refine bind_eq_ok.2 ⟨gardenProposal.currentPhase, hcurrentPhase, ?_⟩
  refine bind_eq_ok.2 ⟨gardenProposal.currentGoal, hcurrentGoal, ?_⟩
  refine bind_eq_ok.2 ⟨[], rfl, bind_eq_ok.2 ⟨[], rfl, bind_eq_ok.2 ⟨[], rfl, bind_eq_ok.2 ⟨[], rfl,
    bind_eq_ok.2 ⟨[], rfl, bind_eq_ok.2 ⟨crowd n, hbasis, ?_⟩⟩⟩⟩⟩⟩
  refine check_bind_eq_ok.2 ⟨rfl, check_bind_eq_ok.2 ⟨validateBasis_crowded hn _ _, ?_⟩⟩
  have hrevisions : basisRevisions [] = .ok [] := congrArg Except.ok List.mergeSort_nil
  exact bind_eq_ok.2 ⟨.proposed, rfl, bind_eq_ok.2 ⟨false, rfl, bind_eq_ok.2 ⟨[], hrevisions, rfl⟩⟩⟩

theorem find?_crowdedDatabase {id : RecordId} (h : id ∈ 100 :: crowd n) :
    (crowdedDatabase hn).find? id = some (Project.gardenRecord id) :=
  Database.find?_eq_some.2 ⟨List.mem_map_of_mem h, rfl⟩

theorem validateProjectLink_crowded {db : Database} (h : db.find? 100 = some (Project.gardenRecord 100)) :
    (validateProjectLink 100).on db = .ok () := by
  have hvalid : ((validateProjectLink 100).on Project.gardenDatabase).isOk = true := by decide
  obtain ⟨u, hvalid⟩ := exists_of_isOk hvalid
  simp only [validateProjectLink, Reader.on, ReadProgram.run_catching, catching_eq_ok, ReadProgram.run_bind,
    ReadProgram.run_lift] at hvalid ⊢
  obtain ⟨r, hr, hvalid⟩ := bind_eq_ok.1 hvalid
  rw [← Reader.on, getRecord_on, Database.getRecord_eq_ok, Database.find?_eq_some] at hr
  obtain rfl : r = Project.gardenRecord 100 := List.mem_singleton.1 hr.1
  obtain ⟨hproject, hvalid⟩ := check_bind_eq_ok.1 hvalid
  obtain ⟨info, hinfo, -⟩ := bind_eq_ok.1 hvalid
  obtain ⟨content, hcontent, hlinks, -⟩ := Project.projectFromRecordLive_on.1 hinfo
  have hkeep : Project.gardenDatabase.KeepsOthers db "project_checkpoint" := by
    intro id r hr _
    obtain ⟨hmem, rfl⟩ := Database.find?_eq_some.1 hr
    rw [List.mem_singleton.1 hmem]
    exact h
  have hlive := Project.projectFromRecordLive_on.2 ⟨content, hcontent, hlinks.keep hkeep (by decide), rfl⟩
  exact bind_eq_ok.2 ⟨_, Database.getRecord_eq_ok.2 h, check_bind_eq_ok.2 ⟨hproject, bind_eq_ok.2 ⟨_, hlive, rfl⟩⟩⟩

theorem validateLiveLinks_crowded {db : Database}
    (h : ∀ id ∈ 100 :: crowd n, db.find? id = some (Project.gardenRecord id)) :
    (validateLiveLinks (crowdedContent n)).on db = .ok () := by
  obtain ⟨hproject, hcrowd⟩ := List.forall_mem_cons.1 h
  simp only [validateLiveLinks, validateWorkItemLists, Reader.on, ReadProgram.run_bind, ReadProgram.run_forEach]
  refine check_bind_eq_ok.2 ⟨validateProjectLink_crowded hproject, check_bind_eq_ok.2 ⟨rfl, ?_⟩⟩
  refine forEach_eq_ok.2 fun id hid => ?_
  rw [validateBasisLink, ReadProgram.run_bind, ReadProgram.run_catching]
  exact bind_eq_ok.2 ⟨_, catching_eq_ok.2 (Database.getRecord_eq_ok.2 (hcrowd id hid)), rfl⟩

/-- Where the event's identifier is free, its audit is written. -/
theorem exists_insertAudit (target : RecordId) (failed : DollError) (db : Database) (draft : AuditDraft)
    {operation : Text} {metadata : Metadata} (hoperation : draft.operationId = .ok operation)
    (hmetadata : draft.metadata = .ok metadata) (hfree : db.auditEvents.find? draft.eventId = none) :
    ∃ db', insertAudit draft target failed db = .ok db' ∧
      ∀ id, draft.eventId ≠ id → db'.auditEvents.find? id = db.auditEvents.find? id := by
  obtain ⟨event, hid, hevent⟩ : ∃ event : AuditEvent, event.eventId = draft.eventId ∧
      insertAudit draft target failed db = orFail failed (db.insertAuditEvent event) :=
    ⟨_, rfl, by rw [insertAudit, hoperation, ok_bind, hmetadata, ok_bind]; rfl⟩
  obtain ⟨events, hevents⟩ : ∃ events, db.auditEvents.insert? event = some events :=
    Option.isSome_iff_exists.1 (Table.insert?_isSome.2 (hid ▸ hfree))
  refine ⟨{ db with auditEvents := events }, ?_, fun id hne => ?_⟩
  · rw [hevent, orFail_eq_ok, Database.insertAuditEvent, hevents]
    rfl
  · exact (Table.find?_insert? hevents id).trans (if_neg (hid ▸ hne))

theorem exists_auditMetadata {sensitivity : RecordSensitivity} {metadata : Metadata} {state : Text}
    {active blocked : List Json} (hstate : metadata.get "confirmation_state" = .str state) (hne : state ≠ [])
    (hactive : metadata.get "active_work_item_ids" = .arr active)
    (hblocked : metadata.get "blocked_work_item_ids" = .arr blocked) :
    ∃ audit, auditMetadata sensitivity metadata = .ok audit := by
  have hactiveList : metadataList .checkpointValidation metadata "active_work_item_ids" = .ok active := by
    rw [metadataList, hactive]
  have hblockedList : metadataList .checkpointValidation metadata "blocked_work_item_ids" = .ok blocked := by
    rw [metadataList, hblocked]
  exact ⟨_, bind_eq_ok.2 ⟨state, requiredString_eq_ok.2 ⟨hstate, hne⟩,
    bind_eq_ok.2 ⟨active, hactiveList, bind_eq_ok.2 ⟨blocked, hblockedList, rfl⟩⟩⟩⟩

theorem validateRecordFields_checkpoint : validateRecordFields "project_checkpoint" 1 = .ok () := by decide

/-- A proposal whose values and links are accepted is committed. -/
theorem exists_propose (env : Surroundings) (p : Proposal) (db : Database) {c : CheckpointContent}
    (hwrite : env.readOnly = false) (hvalues : checkedValues env.newId p.values = .ok c)
    (hlinks : (validateLiveLinks c).on db = .ok ()) (hfree : db.find? env.newId = none)
    (hevent : db.auditEvents.find? env.eventId = none) :
    ∃ w db' row, (propose env p .personal ⟨none, .user⟩).on db = .ok w ∧ w.commit db = .ok db' ∧
      db.Writes row db' ∧ (∀ id, env.eventId ≠ id → db'.auditEvents.find? id = db.auditEvents.find? id) ∧
      row.id = env.newId ∧ row.metadata = c.metadata ∧ row.recordType = "project_checkpoint" ∧
      row.schemaVersion = 1 ∧ row.status = .active ∧ row.revision = 1 ∧ row.title = none := by
  obtain ⟨audit, haudit⟩ : ∃ audit, auditMetadata .personal c.metadata = .ok audit :=
    exists_auditMetadata rfl (by cases c.confirmationState <;> decide) rfl rfl
  let draft := auditDraft env none "checkpoint.propose" .user .personal c.metadata
  obtain ⟨row, failed, hcreate, hrow⟩ : ∃ row failed, createCheckpoint env env.newId c.metadata .userCreated .personal
      none "checkpoint.propose" .user = .ok (.create row draft failed) ∧ row.id = env.newId ∧
      row.metadata = c.metadata ∧ row.recordType = "project_checkpoint" ∧ row.schemaVersion = 1 ∧
      row.status = .active ∧ row.revision = 1 ∧ row.title = none :=
    ⟨_, _, check_bind_eq_ok.2 ⟨ensure_of hwrite _, check_bind_eq_ok.2 ⟨validateRecordFields_checkpoint, rfl⟩⟩,
      rfl, rfl, rfl, rfl, rfl, rfl, rfl⟩
  obtain ⟨records, hrecords⟩ : ∃ records, db.records.insert? row = some records :=
    Option.isSome_iff_exists.1 (Table.insert?_isSome.2 (hrow.1 ▸ hfree))
  obtain ⟨db', hdb', hevents⟩ := exists_insertAudit row.id failed { db with records } draft rfl haudit hevent
  have hcommit : createTransaction row draft failed db = .ok db'.commitStateRevision := by
    rw [createTransaction, Database.insertRecord, hrecords]
    exact bind_eq_ok.2 ⟨_, rfl, bind_eq_ok.2 ⟨db', hdb', rfl⟩⟩
  refine ⟨_, db'.commitStateRevision, row, (propose_on hvalues hlinks).trans hcreate, hcommit,
    (createTransaction_writes hcommit).2, fun id hne => hevents id hne, hrow⟩

/-- The field that is read as a list of identifiers is a list. -/
theorem exists_of_metadataIds {metadata : Metadata} {key : String} {ids : List RecordId}
    (h : metadataIds metadata key = .ok ids) : ∃ values, metadata.get key = .arr values := by
  rw [metadataIds, DollState.metadataIds] at h
  split at h
  · rename_i values hget
    exact ⟨values, hget⟩
  · cases h

theorem exists_confirm (env : Surroundings) (checkpointId : Text) {db : Database} {id : RecordId}
    {base : RecordEnvelope} {c : CheckpointContent} (hwrite : env.readOnly = false) (hid : uuid checkpointId = some id)
    (hbase : db.find? id = some base) (hread : readCheckpoint base = .ok c) (hactive : base.status = .active)
    (hproposed : c.confirmationState = .proposed) (hlinks : (validateLiveLinks c).on db = .ok ())
    (hbasis : ∀ id ∈ c.basis, ∃ r, db.find? id = some r) (hevent : db.auditEvents.find? env.eventId = none) :
    ∃ w db', (confirm env checkpointId base.revision ⟨none, .user⟩).on db = .ok w ∧ w.commit db = .ok db' := by
  obtain ⟨revisions, hrevisions⟩ : ∃ revisions, (captureBasisRevisions c).on db = .ok revisions := by
    rw [captureBasisRevisions, Reader.on, ReadProgram.run_collect]
    refine exists_mapM_ok fun id hid => ?_
    obtain ⟨r, hr⟩ := hbasis id (List.mem_dedup.1 ((List.mergeSort_perm _ _).mem_iff.1 hid))
    refine ⟨(id, r.revision), ?_⟩
    rw [ReadProgram.run_bind, ReadProgram.run_catching]
    exact bind_eq_ok.2 ⟨r, catching_eq_ok.2 (Database.getRecord_eq_ok.2 hr), rfl⟩
  have hd := (readCheckpoint_eq_ok_iff.1 hread).1
  obtain ⟨active, hactiveList⟩ := exists_of_metadataIds hd.active
  obtain ⟨blocked, hblockedList⟩ := exists_of_metadataIds hd.blocked
  let metadata := confirmedMetadata base.metadata revisions (basisFingerprint base.id c revisions)
  let draft := auditDraft env none "checkpoint.confirm" .user base.sensitivity metadata
  obtain ⟨audit, haudit⟩ : ∃ audit, auditMetadata base.sensitivity metadata = .ok audit := by
    have hstate : metadata.get "confirmation_state" = .str "confirmed".toList := by
      simp [metadata, confirmedMetadata, Metadata.get_set]
    exact exists_auditMetadata hstate (by decide) ((get_confirmedMetadata_of_ne (by decide)).trans hactiveList)
      ((get_confirmedMetadata_of_ne (by decide)).trans hblockedList)
  obtain ⟨u, errors, hupdate, hu, hexpected⟩ : ∃ u errors, updateCheckpoint env base base.revision metadata .active
      none "checkpoint.confirm" = .ok (.change u draft errors) ∧ u.base = base ∧
      u.expectedRevision = base.revision :=
    ⟨_, _, check_bind_eq_ok.2 ⟨ensure_of hwrite _, rfl⟩, rfl, rfl⟩
  have hfound : db.find? u.base.id = some base := by rw [hu, Database.id_of_find? hbase, hbase]
  obtain ⟨db', hdb', -⟩ := exists_insertAudit u.base.id errors.failed (db.replaceRecord (u.apply base)) draft rfl
    haudit hevent
  have hcommit : updateTransaction u draft errors db = .ok db'.commitStateRevision := by
    refine bind_eq_ok.2 ⟨base, Database.getRecord_eq_ok.2 hfound, ?_⟩
    refine check_bind_eq_ok.2 ⟨ensure_of hexpected.symm _, check_bind_eq_ok.2 ⟨ensure_of hactive _, ?_⟩⟩
    refine bind_eq_ok.2 ⟨db.replaceRecord (u.apply base), orFail_eq_ok.2 ?_, bind_eq_ok.2 ⟨db', hdb', rfl⟩⟩
    exact Database.updateWhere_eq_some.2 ⟨base, hfound, ⟨hexpected.symm, hactive⟩, rfl⟩
  exact ⟨_, _, (confirm_on_of hid hbase hread hactive hproposed hlinks hrevisions).trans hupdate, hcommit⟩

/-- A checkpoint of the garden and of `n` other records is proposed and confirmed. -/
theorem exists_crowdedRun : ∃ w₀ db₁ w db',
    (propose (surroundings 0) (crowdedProposal n) .personal ⟨none, .user⟩).on (crowdedDatabase hn) = .ok w₀ ∧
    w₀.commit (crowdedDatabase hn) = .ok db₁ ∧ Proposes db₁ 1 (crowdedContent n) ∧
    (∀ id r, db₁.find? id = some r → 1 ≤ r.revision) ∧
    (confirm (surroundings 1) (uuidText 1) 1 ⟨none, .user⟩).on db₁ = .ok w ∧ w.commit db₁ = .ok db' := by
  have hone : (1 : RecordId) ∉ 100 :: crowd n := fun hmem =>
    (List.mem_cons.1 hmem).elim (by decide) (not_mem_crowd hn (by decide))
  have hrows : ∀ r ∈ (crowdedDatabase hn).records, ∃ id ∈ 100 :: crowd n, Project.gardenRecord id = r :=
    fun r hr => List.mem_map.1 hr
  have hfree : (crowdedDatabase hn).find? 1 = none := by
    refine Table.find?_eq_none.2 fun r hr hid => ?_
    obtain ⟨id, hmem, rfl⟩ := hrows r hr
    exact hone (hid ▸ hmem)
  have hvalues := checkedValues_crowded hn
  obtain ⟨w₀, db₁, row, hpropose, hcommit, hwrites, hevents, hid, hmetadata, htype, hschema, hactive, hrevision,
      htitle⟩ := exists_propose (surroundings 0) (crowdedProposal n) (crowdedDatabase hn) rfl hvalues
    (validateLiveLinks_crowded fun id hid => find?_crowdedDatabase hn hid) hfree rfl
  have hid : row.id = 1 := hid
  have hrow : db₁.find? 1 = some row := by rw [hwrites, if_pos hid]
  have hothers : ∀ id ∈ 100 :: crowd n, db₁.find? id = some (Project.gardenRecord id) := by
    intro id hmem
    rw [hwrites, if_neg (fun h : row.id = id => hone (hid.symm.trans h ▸ hmem)), find?_crowdedDatabase hn hmem]
  have hread : readCheckpoint row = .ok (crowdedContent n) :=
    readCheckpoint_of_accepted (hid ▸ accepted_of_checkedValues hvalues) htype hschema hactive hrevision.ge htitle
      hmetadata
  have hevent : db₁.auditEvents.find? (surroundings 1).eventId = none := (hevents _ (by decide)).trans rfl
  obtain ⟨w, db', hconfirm, hcommit'⟩ := exists_confirm (surroundings 1) (uuidText 1) rfl (uuid_uuidText 1) hrow hread
    hactive rfl (validateLiveLinks_crowded hothers) (fun id hmem => ⟨_, hothers id hmem⟩) hevent
  refine ⟨w₀, db₁, w, db', hpropose, hcommit, ⟨row, hrow, htype, .inl hmetadata⟩, fun id r hr => ?_,
    hrevision ▸ hconfirm, hcommit'⟩
  rw [hwrites] at hr
  split at hr
  · cases hr
    exact hrevision.ge
  · obtain ⟨id, -, rfl⟩ := hrows r (Database.find?_eq_some.1 hr).1
    exact Int.le_refl 1

/-- The checkpoint of the garden alone is readable. -/
theorem confirm_readable_iff_alone : ∃ w₀ db₁ w db' c,
    (propose (surroundings 0) (crowdedProposal 0) .personal ⟨none, .user⟩).on (crowdedDatabase (Nat.zero_le _)) =
      .ok w₀ ∧ w₀.commit (crowdedDatabase (Nat.zero_le _)) = .ok db₁ ∧
    (confirm (surroundings 1) (uuidText 1) 1 ⟨none, .user⟩).on db₁ = .ok w ∧ w.commit db₁ = .ok db' ∧
    (ReadsConfirmed db' (uuidText 1) c ↔ c.basis.dedup.length ≤ maxLinks) := by
  obtain ⟨w₀, db₁, w, db', hpropose, hcommit₀, -, hpositive, hconfirm, hcommit⟩ :=
    exists_crowdedRun (Nat.zero_le maxLinks)
  obtain ⟨c, -, hiff⟩ := confirm_readable_iff hpropose hcommit₀ (.refl db₁) hpositive (uuid_uuidText 1) hconfirm hcommit
  exact ⟨w₀, db₁, w, db', c, hpropose, hcommit₀, hconfirm, hcommit, hiff⟩

/-- With a full list of basis records, the checkpoint that is confirmed cannot be read. -/
theorem not_confirm_readable : ¬ ∀ (env₀ env : Surroundings) (p : Proposal) (sensitivity : RecordSensitivity)
    (caller₀ caller : Caller) (w₀ w : Write) (db₀ db₁ db db' : Database) (checkpointId : Text)
    (expectedRevision : Int) (c : CheckpointContent),
    (propose env₀ p sensitivity caller₀).on db₀ = .ok w₀ → w₀.commit db₀ = .ok db₁ → Reachable Step db₁ db →
    (∀ id r, db.find? id = some r → 1 ≤ r.revision) → uuid checkpointId = some env₀.newId →
    (confirm env checkpointId expectedRevision caller).on db = .ok w → w.commit db = .ok db' →
    checkedValues env₀.newId p.values = .ok c → ReadsConfirmed db' checkpointId c := by
  intro h
  obtain ⟨w₀, db₁, w, db', hpropose, hcommit₀, hproposes, hpositive, hconfirm, hcommit⟩ := exists_crowdedRun le_rfl
  have hvalues := checkedValues_crowded le_rfl
  have hreads := h _ _ _ _ _ _ _ _ _ _ _ _ _ _ _ hpropose hcommit₀ (.refl db₁) hpositive (uuid_uuidText 1) hconfirm
    hcommit hvalues
  have hlength := (readsConfirmed_iff (uuid_uuidText 1) (accepted_of_checkedValues hvalues).lists hproposes hpositive
    hconfirm hcommit).1 hreads
  have hnodup : (100 :: crowd maxLinks).Nodup := List.nodup_cons.2 ⟨not_mem_crowd le_rfl (by decide), nodup_crowd le_rfl⟩
  have hbasis : (crowdedContent maxLinks).basis = 100 :: crowd maxLinks := rfl
  rw [hbasis, hnodup.dedup, List.length_cons, length_crowd] at hlength
  exact Nat.not_succ_le_self _ hlength

end Runs

end DollState.Checkpoint
