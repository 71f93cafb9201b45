import DollState.Confirmation.Binding
import DollState.Confirmation.Service

/-!
# What the calls append to the ledger, and what they read of it

Each committed call but a resolve appends one event to the ledger (`Step.ledger`), so that the ledger
is a journal of the committed calls of a run, in order (`journal`). A consume is committed only if the
events of its confirmation are one approved issue, no consume and no revoke
(`consume_spec`).
-/

namespace DollState.Confirmation

open Audit Capability Instruction StateLib

/-- The row is an event of this action for this confirmation. -/
def isEvent (action confirmationId : Text) (row : AuditEvent) : Bool :=
  row.action = action && row.targetId = some confirmationId

section

variable [PythonLibrary] [FloatLibrary] [AuditRules]

/-! ## Appending -/

/-- What the row of a draft holds. -/
structure EventDraft.Stores (draft : EventDraft) (row : AuditEvent) : Prop where
  action : row.action = draft.action
  targetType : row.targetType = some confirmationTarget
  targetId : row.targetId = some draft.confirmationId
  result : row.result = draft.result
  metadata : serializeMetadataForWrite draft.metadata = .ok row.metadata

omit [PythonLibrary] in
theorem EventDraft.stores_of_event {draft : EventDraft} {row : AuditEvent}
    (h : draft.event = .ok row) : draft.Stores row := by
  simp only [EventDraft.event, bind_eq_ok, pure_eq_ok] at h
  obtain ⟨_, -, metadata, hmetadata, rfl⟩ := h
  exact ⟨rfl, rfl, rfl, rfl, hmetadata⟩

def IsLifecycleAction (action : Text) : Prop :=
  action = issueAction ∨ action = consumeAction ∨ action = revokeAction

omit [PythonLibrary] [FloatLibrary] [AuditRules] in
theorem isLifecycleEvent_iff {row : AuditEvent} :
    isLifecycleEvent row = true ↔
      row.targetType = some confirmationTarget ∧ IsLifecycleAction row.action := by
  simp [isLifecycleEvent, IsLifecycleAction, or_assoc]

omit [PythonLibrary] in
/-- An inserted event is appended to the ledger. -/
theorem insertConfirmationEvent_spec {draft : EventDraft} {db db' : Database}
    (haction : IsLifecycleAction draft.action) (h : insertConfirmationEvent draft db = .ok db') :
    ∃ row, draft.Stores row ∧ ledger db' = ledger db ++ [row] := by
  simp only [insertConfirmationEvent, bind_eq_ok, orFail_eq_ok, pure_eq_ok] at h
  obtain ⟨row, hrow, inserted, hinserted, rfl⟩ := h
  have hstores := EventDraft.stores_of_event hrow
  refine ⟨row, hstores, ?_⟩
  obtain ⟨rows, hrows, rfl⟩ := Database.insertAuditEvent_eq_some.1 hinserted
  have hlifecycle : isLifecycleEvent row = true := by
    rw [isLifecycleEvent_iff, hstores.action]
    exact ⟨hstores.targetType, haction⟩
  show rows.rows.filter isLifecycleEvent = _
  rw [Table.rows_insert? hrows, List.filter_append, List.filter_singleton, hlifecycle]
  rfl

/-! ## Reading -/

/-- The events that are read of a confirmation are its rows, none of them left out. -/
theorem events_spec {db : Database} {confirmationId : Text} {found : List AuditEvent}
    (h : events db confirmationId = .ok found) :
    List.Forall₂ (fun row event => isLifecycleEvent row = true ∧ eventFromRow row = .ok event)
      (eventRows db confirmationId) found := by
  simp only [events, check_bind_eq_ok, ensure_eq_ok, catching_eq_ok, List.length_take] at h
  obtain ⟨hlength, hread⟩ := h
  have hall : (eventRows db confirmationId).take (maxConfirmationEvents + 1) =
      eventRows db confirmationId := by
    apply List.take_of_length_le
    simp only [maxConfirmationEvents] at hlength ⊢
    omega
  rw [hall, mapM_eq_ok] at hread
  have hlifecycle : ∀ row ∈ eventRows db confirmationId, isLifecycleEvent row = true := by
    intro row hrow
    exact (List.mem_filter.1 (List.mem_filter.1 hrow).1).2
  exact (List.forall₂_and_left _ _).2 ⟨hlifecycle, hread⟩

omit [PythonLibrary] [FloatLibrary] [AuditRules] in
theorem strip_lifecycleAction {action : Text} (h : IsLifecycleAction action) :
    strip action = action := by
  rcases h with rfl | rfl | rfl <;> decide

/-- Of the rows with an action, the events with this action are read. -/
theorem forall₂_filter_action {rows found : List AuditEvent} (action : Text)
    (h : List.Forall₂ (fun row event => isLifecycleEvent row = true ∧ eventFromRow row = .ok event)
      rows found) :
    List.Forall₂ (fun row event => isLifecycleEvent row = true ∧ eventFromRow row = .ok event)
      (rows.filter (·.action = action)) (found.filter (·.action = action)) := by
  refine List.rel_filter ?_ h
  rintro row event ⟨hlifecycle, hevent⟩
  have haction : event.action = row.action := by
    rw [(eventFromRow_spec hevent).1]
    exact strip_lifecycleAction (isLifecycleEvent_iff.1 hlifecycle).2
  simp [haction]

omit [PythonLibrary] [FloatLibrary] [AuditRules] in
theorem filter_eventRows (db : Database) (action confirmationId : Text) :
    (eventRows db confirmationId).filter (·.action = action) =
      (ledger db).filter (isEvent action confirmationId) := by
  rw [eventRows, List.filter_filter]
  rfl

omit [PythonLibrary] [FloatLibrary] [AuditRules] in
theorem get_of_metadataString {metadata : Metadata} {key : String} {s : Text}
    (h : metadataString metadata key = .ok s) : metadata.get key = .str s := by
  unfold metadataString at h
  split at h
  · rename_i t ht
    split at h
    · cases h
    · cases h
      exact ht
  · cases h

omit [PythonLibrary] [FloatLibrary] [AuditRules] in
theorem infoFromIssue_spec {event : AuditEvent} {info : ConfirmationInfo}
    (h : infoFromIssue event = .ok info) :
    event.metadata.get "request_fingerprint" = .str info.requestFingerprint ∧
      isFingerprint info.requestFingerprint = true ∧
      event.metadata.get "expires_at" = .str info.expiresAt := by
  simp only [infoFromIssue, bind_eq_ok, exists_const, ensure_eq_ok, pure_eq_ok] at h
  obtain ⟨-, _, -, _, -, fingerprint, hfingerprint, his, _, -, -, -, _, -, _, -, _, -, expiresAt,
    hexpires, _, -, _, -, _, -, _, -, _, -, _, -, _, -, _, -, _, -, rfl⟩ := h
  exact ⟨get_of_metadataString hfingerprint, his, get_of_metadataString hexpires⟩

omit [FloatLibrary] [AuditRules] in
theorem reasonFromEvents_approved {found : List AuditEvent} {issue : AuditEvent}
    {info : ConfirmationInfo} {operationId fingerprint : Text} {now : Int}
    (h : reasonFromEvents found issue info operationId fingerprint now = .ok .approved) :
    found.filter (·.action = consumeAction) = [] ∧ found.filter (·.action = revokeAction) = [] ∧
      info.requestFingerprint = fingerprint ∧ issue.result ≠ .denied ∧
      ∃ expires, parseUtc info.expiresAt = .ok expires ∧ now < expires := by
  unfold reasonFromEvents at h
  by_cases hmismatch : issue.operationId ≠ operationId ∨ info.requestFingerprint ≠ fingerprint
  · rw [if_pos hmismatch] at h
    cases h
  rw [if_neg hmismatch] at h
  by_cases hrevoke : found.any (·.action = revokeAction) = true
  · rw [if_pos hrevoke] at h
    cases h
  rw [if_neg hrevoke] at h
  by_cases hconsume : found.any (·.action = consumeAction) = true
  · rw [if_pos hconsume] at h
    cases h
  rw [if_neg hconsume] at h
  by_cases hdenied : info.decision = .denied ∨ issue.result = .denied
  · rw [if_pos hdenied] at h
    cases h
  rw [if_neg hdenied] at h
  obtain ⟨expires, hexpires, hreason⟩ := bind_eq_ok.1 h
  have hnow : now < expires := by
    by_contra hlate
    rw [if_pos (not_lt.1 hlate)] at hreason
    cases hreason
  refine ⟨?_, ?_, not_not.1 (not_or.1 hmismatch).2, (not_or.1 hdenied).2, expires, hexpires, hnow⟩
  · simpa [List.filter_eq_nil_iff] using hconsume
  · simpa [List.filter_eq_nil_iff] using hrevoke

omit [FloatLibrary] [AuditRules] in
/-- The events of an approved confirmation are one issue, no consume and no revoke. -/
theorem resolutionFromEvents_approved {confirmationId operationId fingerprint : Text}
    {found : List AuditEvent} {now : Int} {resolution : ConfirmationResolution}
    (h : resolutionFromEvents confirmationId found operationId fingerprint now = .ok resolution)
    (happroved : resolution.approved = true) :
    ∃ issue info expires, found.filter (·.action = issueAction) = [issue] ∧
      found.filter (·.action = consumeAction) = [] ∧ found.filter (·.action = revokeAction) = [] ∧
      infoFromIssue issue = .ok info ∧ info.requestFingerprint = fingerprint ∧
      issue.result ≠ .denied ∧ parseUtc info.expiresAt = .ok expires ∧ now < expires := by
  unfold resolutionFromEvents at h
  split at h
  · cases h
    cases happroved
  · split at h
    · rename_i issue hissue
      simp only [bind_eq_ok, pure_eq_ok] at h
      obtain ⟨_, -, info, hinfo, _, -, reason, hreason, rfl⟩ := h
      obtain rfl : reason = .approved := by simpa [ConfirmationResolution.approved] using happroved
      obtain ⟨hconsume, hrevoke, hmatch, hdenied, expires, hexpires, hnow⟩ :=
        reasonFromEvents_approved hreason
      exact ⟨issue, info, expires, hissue, hconsume, hrevoke, hinfo, hmatch, hdenied, hexpires, hnow⟩
    · cases h

variable [DigestLibrary]

/-- What a consume finds in the ledger, `row` being the issue of its confirmation. -/
structure Consumable (call : ConsumeCall) (db : Database) (row : AuditEvent) : Prop where
  issued : (ledger db).filter (isEvent issueAction (strip call.confirmationId)) = [row]
  unconsumed : (ledger db).filter (isEvent consumeAction (strip call.confirmationId)) = []
  unrevoked : (ledger db).filter (isEvent revokeAction (strip call.confirmationId)) = []
  undenied : row.result ≠ .denied
  inTime : ∃ text expires now, row.metadata.get "expires_at" = .str text ∧
    parseUtc text = .ok expires ∧ safeNow call.clock = .ok now ∧ now < expires
  fingerprint : ∃ envelope fingerprint, validateRequestEnvelope call.request = .ok envelope ∧
    confirmationFingerprint envelope call.registryFingerprint call.normalizedDestination
      call.credentialClass = .ok fingerprint ∧ isFingerprint fingerprint = true ∧
    row.metadata.get "request_fingerprint" = .str fingerprint

theorem consume_spec {call : ConsumeCall} {db db' : Database} {info : ConfirmationInfo}
    (h : consume call db = .ok (info, db')) :
    (∃ row, Consumable call db row) ∧
      ∃ row, isEvent consumeAction (strip call.confirmationId) row = true ∧
        ledger db' = ledger db ++ [row] := by
  simp only [consume, validateToken, bind_eq_ok, exists_const, ensure_eq_ok, orFail_eq_ok,
    pure_eq_ok, Prod.mk.injEq] at h
  obtain ⟨-, _, -, envelope, henvelope, _, ⟨-, rfl⟩, fingerprint, hfingerprint, found, hfound, now,
    hnow, resolution, hresolution, happroved, _, -, _, hinsert, -, rfl⟩ := h
  obtain ⟨row', hstores, hledger⟩ := insertConfirmationEvent_spec (.inr (.inl rfl)) hinsert
  refine ⟨?_, row', ?_, hledger⟩
  · obtain ⟨issue, info, expires, hissue, hconsume, hrevoke, hinfo, hmatch, hdenied, hexpires, hlate⟩ :=
      resolutionFromEvents_approved hresolution happroved
    have hread := fun action => forall₂_filter_action action (events_spec hfound)
    simp only [filter_eventRows] at hread
    have hissued := hread issueAction
    rw [hissue, List.forall₂_cons_right_iff] at hissued
    obtain ⟨row, rows, ⟨-, hevent⟩, hrows, hissued⟩ := hissued
    rw [List.forall₂_nil_right_iff] at hrows
    subst hrows
    have hunconsumed := hread consumeAction
    rw [hconsume, List.forall₂_nil_right_iff] at hunconsumed
    have hunrevoked := hread revokeAction
    rw [hrevoke, List.forall₂_nil_right_iff] at hunrevoked
    obtain ⟨-, hresult, hmetadata⟩ := eventFromRow_spec hevent
    obtain ⟨hstored, his, hexpiry⟩ := infoFromIssue_spec hinfo
    rw [hmatch] at hstored his
    exact ⟨row, {
      issued := hissued
      unconsumed := hunconsumed
      unrevoked := hunrevoked
      undenied := hresult ▸ hdenied
      inTime := ⟨_, expires, now, get_eq_str_of_eq hmetadata hexpiry, hexpires, hnow, hlate⟩
      fingerprint := ⟨envelope, fingerprint, henvelope, hfingerprint, his,
        get_eq_str_of_eq hmetadata hstored⟩ }⟩
  · simp [isEvent, hstores.action, hstores.targetId, ConsumeCall.draft]

end

end DollState.Confirmation
