import DollState.Confirmation.Ledger
import DollState.State.Reference

/-!
# Confirmations are single-use and exact

In a run of any number of clients the ledger is a journal of the committed calls: the `n`-th event
is what the `n`-th committed write appended. What a consume reads of the ledger is therefore what
happened before it, so that no confirmation is consumed twice, and each consume rests on the one
issue of its confirmation: approved, not revoked, not expired, and of the same exact operation
(`single_use`).
-/

namespace DollState.Confirmation

open Audit Capability Instruction StateLib

/-! ## The steps that write -/

section

variable {ι : Type}

/-- The action of the event that the step appends to the ledger, if it does. -/
def Event.action? : Event ι → Option Text
  | .committed _ (.issue _) => some issueAction
  | .committed _ (.consume _) => some consumeAction
  | .committed _ (.revoke _) => some revokeAction
  | _ => none

/-- The confirmation that the step is about. -/
def Event.confirmationId? : Event ι → Option Text
  | .committed _ (.issue call) => call.drawnId.map strip
  | .committed _ (.consume call) => some (strip call.confirmationId)
  | .committed _ (.revoke call) => some (strip call.confirmationId)
  | _ => none

/-- The step appends an event of this action for this confirmation. -/
def Event.appends (action confirmationId : Text) (event : Event ι) : Bool :=
  event.action? = some action && event.confirmationId? = some confirmationId

/-- A step that appends a consume is a consume of that confirmation. -/
theorem Event.consume_of_appends {event : Event ι} {confirmationId : Text}
    (h : event.appends consumeAction confirmationId = true) :
    ∃ client call, event = .committed client (.consume call) ∧
      strip call.confirmationId = confirmationId := by
  simp only [Event.appends, Bool.and_eq_true, decide_eq_true_eq] at h
  obtain ⟨haction, hid⟩ := h
  match event with
  | .committed client (.consume call) => exact ⟨client, call, rfl, Option.some.inj hid⟩
  | .committed _ (.issue _) =>
    exact absurd (Option.some.inj haction) (by decide : issueAction ≠ consumeAction)
  | .committed _ (.revoke _) =>
    exact absurd (Option.some.inj haction) (by decide : revokeAction ≠ consumeAction)
  | .committed _ (.resolve _) => cases haction
  | .raised _ _ => cases haction
  | .other => cases haction

/-- A step that appends an issue is one. -/
theorem Event.issue_of_appends {event : Event ι} {confirmationId : Text}
    (h : event.appends issueAction confirmationId = true) :
    ∃ client call, event = .committed client (.issue call) := by
  simp only [Event.appends, Bool.and_eq_true, decide_eq_true_eq] at h
  obtain ⟨haction, -⟩ := h
  match event with
  | .committed client (.issue call) => exact ⟨client, call, rfl⟩
  | .committed _ (.consume _) =>
    exact absurd (Option.some.inj haction) (by decide : consumeAction ≠ issueAction)
  | .committed _ (.revoke _) =>
    exact absurd (Option.some.inj haction) (by decide : revokeAction ≠ issueAction)
  | .committed _ (.resolve _) => cases haction
  | .raised _ _ => cases haction
  | .other => cases haction

end

section

variable [PythonLibrary] [FloatLibrary] [AuditRules] [CaseLibrary] [UrlLibrary] [DigestLibrary]
  [ClockLibrary]

/-! ## What a call binds -/

/-- The exact operation that an issue is for. -/
structure IssueCall.Binds (call : IssueCall) (b : Binding) : Prop where
  request : ∃ definition, validatedHighRiskBinding call.request call.registry =
    .ok (b.request, definition, b.normalizedDestination)
  registryFingerprint : b.registryFingerprint = call.registry.fingerprint
  credentialClass : ∃ preview, validatePreview call.preview = .ok preview ∧
    b.credentialClass = preview.credentialClass

/-- The exact operation that a consume is for. -/
structure ConsumeCall.Binds (call : ConsumeCall) (b : Binding) : Prop where
  request : validateRequestEnvelope call.request = .ok b.request
  registryFingerprint : b.registryFingerprint = call.registryFingerprint
  normalizedDestination : b.normalizedDestination = call.normalizedDestination
  credentialClass : validateOptionalToken "credential class" call.credentialClass
    maxCredentialClassLength = .ok b.credentialClass

/-- What an issue drafts. -/
structure IssueCall.Drafts (call : IssueCall) (draft : EventDraft) : Prop where
  action : draft.action = issueAction
  confirmationId : call.drawnId.map strip = some draft.confirmationId
  undenied : draft.result ≠ .denied → call.decision = .approved
  keys : (draft.metadata.map fun e => storedKey e.1).Nodup
  expiresAt : ∃ issuedAt deadline, safeNow call.clock = .ok issuedAt ∧
    ClockLibrary.addSeconds issuedAt call.ttlSeconds = some deadline ∧
    ("expires_at", .str (ClockLibrary.formatUtc deadline)) ∈ draft.metadata
  fingerprint : ∃ b : Binding, call.Binds b ∧ b.Canonical ∧
    ("request_fingerprint", .str ("sha256:".toList ++ DigestLibrary.sha256Hex b.text)) ∈
      draft.metadata

omit [CaseLibrary] [UrlLibrary] [PythonLibrary] [AuditRules] [DigestLibrary] [ClockLibrary]
  [FloatLibrary] in
theorem validateOptionalToken_idem {name : String} {value token : Option Text} {maximum : Nat}
    (h : validateOptionalToken name value maximum = .ok token) :
    validateOptionalToken name token maximum = .ok token := by
  refine optionally_idem (fun text token htoken => ?_) h
  simp only [validateToken, check_bind_eq_ok, ensure_eq_ok, pure_eq_ok] at htoken ⊢
  obtain ⟨hok, rfl⟩ := htoken
  rw [strip_strip]
  exact ⟨hok, rfl⟩

omit [CaseLibrary] [UrlLibrary] [PythonLibrary] [DigestLibrary] [ClockLibrary] in
theorem credentialClass_idem {preview validated : ConfirmationPreview}
    (h : validatePreview preview = .ok validated) :
    validateOptionalToken "credential class" validated.credentialClass maxCredentialClassLength =
      .ok validated.credentialClass := by
  simp only [validatePreview, bind_eq_ok, pure_eq_ok] at h
  obtain ⟨_, -, _, -, credential, hcredential, _, -, rfl⟩ := h
  exact validateOptionalToken_idem hcredential

omit [PythonLibrary] in
theorem IssueCall.drafts_of_prepare {call : IssueCall} {draft : EventDraft}
    (h : call.prepare = .ok draft) : call.Drafts draft := by
  simp only [IssueCall.prepare, confirmationMetadata, validateToken, validateTtl, bind_eq_ok,
    exists_const, ensure_eq_ok, orFail_eq_ok, catching_eq_ok, pure_eq_ok] at h
  obtain ⟨_, -, _, -, ⟨envelope, definition, destination⟩, hbinding, preview, hpreview, _, ⟨-, rfl⟩,
    issuedAt, hclock, deadline, hdeadline, fingerprint, hfingerprint, drawnId, hdrawn, _, ⟨-, rfl⟩, _,
    ⟨_, -, rfl⟩, rfl⟩ := h
  obtain ⟨text, htext, rfl⟩ := map_eq_ok.1 hfingerprint
  obtain ⟨b, henvelope, hregistry, hdestination, hcredential, hcanonical, rfl⟩ :=
    binding_of_fingerprintText htext
  obtain rfl : b.request = envelope := Except.ok.inj <| henvelope.symm.trans <|
    validateRequestEnvelope_idem (validatedHighRiskBinding_eq_ok.1 hbinding).1
  have hclass : b.credentialClass = preview.credentialClass := Except.ok.inj <|
    hcredential.symm.trans (credentialClass_idem hpreview)
  exact {
    action := rfl
    confirmationId := by rw [hdrawn]; rfl
    undenied := by
      intro hresult
      cases hdecision : call.decision with
      | approved => rfl
      | denied => exact absurd (by rw [hdecision]) hresult
    keys := by
      simp only [List.map_cons, List.map_nil]
      decide
    expiresAt := ⟨issuedAt, deadline, hclock, hdeadline, by simp⟩
    fingerprint := ⟨b, ⟨⟨definition, hdestination ▸ hbinding⟩, hregistry, preview, hpreview, hclass⟩,
      hcanonical, by simp⟩ }

omit [PythonLibrary] [CaseLibrary] [UrlLibrary] [ClockLibrary] in
theorem ConsumeCall.binds_of_fingerprint {call : ConsumeCall} {envelope : CapabilityRequest}
    {fingerprint : Text} (henvelope : validateRequestEnvelope call.request = .ok envelope)
    (h : confirmationFingerprint envelope call.registryFingerprint call.normalizedDestination
      call.credentialClass = .ok fingerprint) :
    ∃ b : Binding, call.Binds b ∧ b.Canonical ∧
      "sha256:".toList ++ DigestLibrary.sha256Hex b.text = fingerprint := by
  obtain ⟨text, htext, hdigest⟩ := map_eq_ok.1 h
  obtain ⟨b, hrequest, hregistry, hdestination, hcredential, hcanonical, rfl⟩ :=
    binding_of_fingerprintText htext
  obtain rfl : b.request = envelope :=
    Except.ok.inj (hrequest.symm.trans (validateRequestEnvelope_idem henvelope))
  exact ⟨b, ⟨henvelope, hregistry, hdestination, hcredential⟩, hcanonical, hdigest⟩

/-! ## The journal -/

section

variable {ι : Type}

/-- The row is what the step appends. -/
structure Event.Records (event : Event ι) (row : AuditEvent) : Prop where
  action : event.action? = some row.action
  targetId : event.confirmationId? = row.targetId
  issue : ∀ client call, event = .committed client (.issue call) →
    ∃ draft, call.Drafts draft ∧ draft.Stores row

theorem Step.ledger {db db' : Database} {event : Event ι} (h : Step db event db') :
    (event.action? = none ∧ ledger db' = ledger db) ∨
      ∃ row, event.Records row ∧ ledger db' = ledger db ++ [row] := by
  cases h with
  | raised client call => exact .inl ⟨by cases call <;> rfl, rfl⟩
  | other h => exact .inl ⟨rfl, h⟩
  | @committed _ client call h =>
    cases call with
    | resolve call =>
      obtain ⟨_, -, rfl⟩ := map_eq_ok.1 h
      exact .inl ⟨rfl, rfl⟩
    | issue call =>
      simp only [Call.run, issue, appendUniqueIssue, bind_eq_ok] at h
      obtain ⟨draft, hprepare, _, -, _, -, hinsert⟩ := h
      have hdrafts := IssueCall.drafts_of_prepare hprepare
      obtain ⟨row, hstores, hledger⟩ :=
        insertConfirmationEvent_spec (.inl hdrafts.action) hinsert
      refine .inr ⟨row, ⟨?_, ?_, ?_⟩, hledger⟩
      · rw [hstores.action, hdrafts.action]
        rfl
      · rw [hstores.targetId]
        exact hdrafts.confirmationId
      · rintro _ _ ⟨⟩
        exact ⟨draft, hdrafts, hstores⟩
    | consume call =>
      obtain ⟨⟨info, db'⟩, hconsume, rfl⟩ := map_eq_ok.1 h
      obtain ⟨-, row, hrow, hledger⟩ := consume_spec hconsume
      simp only [isEvent, Bool.and_eq_true, decide_eq_true_eq] at hrow
      refine .inr ⟨row, ⟨?_, ?_, ?_⟩, hledger⟩
      · rw [hrow.1]
        rfl
      · rw [hrow.2]
        rfl
      · rintro _ _ ⟨⟩
    | revoke call =>
      simp only [Call.run, revoke, validateToken, bind_eq_ok, exists_const, ensure_eq_ok,
        pure_eq_ok] at h
      obtain ⟨_, -, _, -, _, ⟨-, rfl⟩, _, -, _, -, -, -, hinsert⟩ := h
      obtain ⟨row, hstores, hledger⟩ := insertConfirmationEvent_spec (.inr (.inr rfl)) hinsert
      refine .inr ⟨row, ⟨?_, ?_, ?_⟩, hledger⟩
      · rw [hstores.action]
        rfl
      · rw [hstores.targetId]
        rfl
      · rintro _ _ ⟨⟩

variable {db₀ db : Database} {tr : List (Taken Database (Event ι))}

/-- The events of an action for a confirmation are those that the steps of the run appended. -/
theorem journal (hnone : ledger db₀ = []) (h : Run Step db₀ tr db) (action confirmationId : Text) :
    List.Forall₂ (fun t row => t.label.Records row)
      (tr.filter fun t => t.label.appends action confirmationId)
      ((ledger db).filter (isEvent action confirmationId)) := by
  have hall : List.Forall₂ (fun t row => t.label.Records row)
      (tr.filter fun t => t.label.action?.isSome) (ledger db) := by
    refine @Run.forall₂_log _ _ Step db₀ db tr _ ledger (fun event => event.action?.isSome)
      Event.Records hnone ?_ ?_ h
    · intro s event s' hstep hsilent
      rcases Step.ledger hstep with ⟨-, hsame⟩ | ⟨row, hrow, -⟩
      · exact hsame
      · rw [hrow.action] at hsilent
        cases hsilent
    · intro s event s' hstep hloud
      rcases Step.ledger hstep with ⟨hnone, -⟩ | hrow
      · rw [hnone] at hloud
        cases hloud
      · exact hrow
  have hfilter := List.rel_filter
    (p := fun t : Taken Database (Event ι) => t.label.appends action confirmationId)
    (q := isEvent action confirmationId) (fun t row hrow => by
      simp [Event.appends, isEvent, hrow.action, hrow.targetId]) hall
  rw [List.filter_filter] at hfilter
  have hloud : (tr.filter fun t => t.label.appends action confirmationId && t.label.action?.isSome) =
      tr.filter fun t => t.label.appends action confirmationId := by
    refine List.filter_congr fun t _ => ?_
    cases happends : t.label.appends action confirmationId with
    | false => rfl
    | true =>
      simp only [Event.appends, Bool.and_eq_true, decide_eq_true_eq] at happends
      rw [happends.1]
      rfl
  rwa [hloud] at hfilter

/-! ## Digests and redaction -/

omit [PythonLibrary] [FloatLibrary] [AuditRules] [CaseLibrary] [UrlLibrary] [DigestLibrary]
  [ClockLibrary] in
theorem isFingerprint_chars {text : Text} (h : isFingerprint text = true) :
    ∀ c ∈ text, isSpace c = false ∧ c ≠ '[' := by
  simp only [isFingerprint, Bool.and_eq_true, List.isPrefixOf_iff_prefix, List.all_eq_true,
    Bool.or_eq_true, decide_eq_true_eq] at h
  obtain ⟨⟨⟨rest, rfl⟩, -⟩, hrest⟩ := h
  intro c hc
  have hrange : 33 ≤ c.toNat ∧ c.toNat < 128 ∧ c.toNat ≠ 91 := by
    rcases List.mem_append.1 hc with hc | hc
    · have hscheme : "sha256:".toList = ['s', 'h', 'a', '2', '5', '6', ':'] := rfl
      have hall : ∀ c ∈ ['s', 'h', 'a', '2', '5', '6', ':'],
          33 ≤ c.toNat ∧ c.toNat < 128 ∧ c.toNat ≠ 91 := by simp
      exact hall c (hscheme ▸ hc)
    · have hhex := hrest c hc
      simp only [Char.isDigit, Bool.and_eq_true, decide_eq_true_eq, Char.le_def, ge_iff_le,
        UInt32.le_iff_toNat_le] at hhex
      have hval : c.toNat = c.val.toNat := rfl
      simp only [show 'a'.val.toNat = 97 from rfl, show 'f'.val.toNat = 102 from rfl,
        show '0'.val.toNat = 48 from rfl, show '9'.val.toNat = 57 from rfl] at hhex
      omega
  refine ⟨not_isSpace_of_lt hrange.1 hrange.2.1, ?_⟩
  rintro rfl
  exact hrange.2.2 rfl

/-- What is documented of the digest: it is written in 64 lower-case hexadecimal digits. -/
structure LawfulDigest : Prop where
  isFingerprint : ∀ text, isFingerprint ("sha256:".toList ++ DigestLibrary.sha256Hex text) = true

omit [PythonLibrary] [FloatLibrary] [CaseLibrary] [UrlLibrary] [DigestLibrary] [ClockLibrary] in
/-- A fingerprint that is redacted to a fingerprint has not been changed. -/
theorem eq_of_sanitizeFreeText (hredaction : LawfulRedaction) {text text' : Text} {maximum : Nat}
    (htext : isFingerprint text = true) (htext' : isFingerprint text' = true)
    (h : AuditRules.sanitizeFreeText text maximum = text') : text = text' := by
  rcases hredaction.marked text maximum with hjoin | hmark
  · have hword : IsWord text := by
      refine ⟨?_, fun c hc => (isFingerprint_chars htext c hc).1⟩
      rintro rfl
      cases htext
    rw [← h, hjoin, joinWords_eq_self hword]
  · rw [h] at hmark
    exact absurd rfl (isFingerprint_chars htext' _ hmark).2

/-! ## Single use -/

/-- What the step has hashed to a fingerprint is this binding. -/
def Event.Binds (event : Event ι) (b : Binding) : Prop :=
  match event with
  | .committed _ (.issue call) => call.Binds b
  | .committed _ (.consume call) => call.Binds b
  | _ => False

/-- No two texts that are hashed in the run have one digest. -/
def NoCollision (tr : List (Taken Database (Event ι))) : Prop :=
  ∀ t ∈ tr, ∀ u ∈ tr, ∀ a b : Binding, t.label.Binds a → u.label.Binds b →
    DigestLibrary.sha256Hex a.text = DigestLibrary.sha256Hex b.text → a.text = b.text

/-- What a consume rests on: the one issue of its confirmation in what went before. -/
structure RestsOn (before : List (Taken Database (Event ι))) (call : ConsumeCall)
    (issued : IssueCall) : Prop where
  only : ∃ t client, t.label = .committed client (.issue issued) ∧
    (before.filter fun t => t.label.appends issueAction (strip call.confirmationId)) = [t]
  approved : issued.decision = .approved
  unrevoked : ∀ t ∈ before, t.label.appends revokeAction (strip call.confirmationId) = false
  /-- The clock read by the consume is before the recorded `expires_at`. -/
  inTime : ∃ issuedAt deadline expires now, safeNow issued.clock = .ok issuedAt ∧
    ClockLibrary.addSeconds issuedAt issued.ttlSeconds = some deadline ∧
    parseUtc (AuditRules.sanitizeFreeText (ClockLibrary.formatUtc deadline)
      maxMetadataStringLength) = .ok expires ∧
    safeNow call.clock = .ok now ∧ now < expires

theorem Step.consumable {db db' : Database} {client : ι} {call : ConsumeCall}
    (h : Step db (.committed client (.consume call)) db') : ∃ row, Consumable call db row := by
  cases h with
  | committed _ h =>
    obtain ⟨⟨info, db'⟩, hconsume, rfl⟩ := map_eq_ok.1 h
    exact (consume_spec hconsume).1

/-- No step appends a second consume of a confirmation. -/
theorem consumed_le_one {db : Database} {tr : List (Taken Database (Event ι))}
    (hnone : ledger db₀ = []) (h : Run Step db₀ tr db) (confirmationId : Text) :
    ((ledger db).filter (isEvent consumeAction confirmationId)).length ≤ 1 := by
  refine h.invariant (I := fun db =>
    ((ledger db).filter (isEvent consumeAction confirmationId)).length ≤ 1) ?_ ?_
  · simp [hnone]
  · intro s event s' hs hstep
    rcases Step.ledger hstep with ⟨-, hsame⟩ | ⟨row, hrow, hledger⟩
    · rwa [hsame]
    · rw [hledger, List.filter_append, List.length_append, List.filter_singleton]
      cases hevent : isEvent consumeAction confirmationId row with
      | false => simpa using hs
      | true =>
        have happends : event.appends consumeAction confirmationId = true := by
          simp only [isEvent, Bool.and_eq_true, decide_eq_true_eq] at hevent
          simp [Event.appends, hrow.action, hrow.targetId, hevent]
        -- the consume has found no other
        obtain ⟨client, call, rfl, rfl⟩ := Event.consume_of_appends happends
        obtain ⟨_, hfound⟩ := Step.consumable hstep
        rw [hfound.unconsumed]
        simp

/-- What a consume finds in the ledger is what happened before it. -/
theorem exists_restsOn (hredaction : LawfulRedaction) (hdigest : LawfulDigest)
    {db : Database} {before : List (Taken Database (Event ι))} (hnone : ledger db₀ = [])
    (h : Run Step db₀ before db) {call : ConsumeCall} {row : AuditEvent}
    (hfound : Consumable call db row) :
    ∃ issued, RestsOn before call issued ∧ ∃ a b : Binding, issued.Binds a ∧ a.Canonical ∧
      call.Binds b ∧ b.Canonical ∧
      DigestLibrary.sha256Hex a.text = DigestLibrary.sha256Hex b.text := by
  have hissued := journal hnone h issueAction (strip call.confirmationId)
  rw [hfound.issued, List.forall₂_cons_right_iff] at hissued
  obtain ⟨t, rest, hrecords, hrest, honly⟩ := hissued
  rw [List.forall₂_nil_right_iff] at hrest
  subst hrest
  have happends : t.label.appends issueAction (strip call.confirmationId) = true := by
    have hmem : t ∈ before.filter fun t =>
        t.label.appends issueAction (strip call.confirmationId) := by
      rw [honly]
      exact List.mem_singleton_self t
    exact (List.mem_filter.1 hmem).2
  obtain ⟨client, issued, hlabel⟩ := Event.issue_of_appends happends
  obtain ⟨draft, hdrafts, hstores⟩ := hrecords.issue client issued hlabel
  obtain ⟨text, expires, now, hrecorded, hexpires, hnow, hlate⟩ := hfound.inTime
  obtain ⟨issuedAt, deadline, hissuedAt, hdeadline, hentry⟩ := hdrafts.expiresAt
  have hstored := get_serializeMetadataForWrite hstores.metadata hdrafts.keys hentry
  rw [show storedKey "expires_at" = "expires_at" by decide, hrecorded] at hstored
  have hrevoked := journal hnone h revokeAction (strip call.confirmationId)
  rw [hfound.unrevoked, List.forall₂_nil_right_iff, List.filter_eq_nil_iff] at hrevoked
  obtain ⟨a, ha, hcanonical, hprint⟩ := hdrafts.fingerprint
  have hprinted := get_serializeMetadataForWrite hstores.metadata hdrafts.keys hprint
  obtain ⟨envelope, fingerprint, henvelope, hfingerprint, his, hmatch⟩ := hfound.fingerprint
  rw [show storedKey "request_fingerprint" = "request_fingerprint" by decide, hmatch] at hprinted
  obtain ⟨b, hb, hcanonical', hhash⟩ := ConsumeCall.binds_of_fingerprint henvelope hfingerprint
  have hequal := eq_of_sanitizeFreeText hredaction (hdigest.isFingerprint a.text) his
    (Json.str.inj hprinted).symm
  refine ⟨issued, ⟨⟨t, client, hlabel, honly⟩, ?_, ?_, ?_⟩, a, b, ha, hcanonical, hb, hcanonical', ?_⟩
  · apply hdrafts.undenied
    rw [← hstores.result]
    exact hfound.undenied
  · intro t ht
    simpa using hrevoked t ht
  · exact ⟨issuedAt, deadline, expires, now, hissuedAt, hdeadline, Json.str.inj hstored ▸ hexpires,
      hnow, hlate⟩
  · rw [← hhash] at hequal
    exact List.append_cancel_left hequal

/-- Confirmations are single-use and exact. In any run of issues, resolves, consumes and revokes of
any number of clients, from a state without confirmations, a confirmation is consumed at most once.
A consume that is committed rests on the one issue of its confirmation before it, which approved
the operation, was not revoked and had not expired; and unless two texts of the run have one digest,
the operation consumed is the one that was issued. -/
theorem single_use (hredaction : LawfulRedaction) (hdigest : LawfulDigest) {db : Database}
    {tr : List (Taken Database (Event ι))} (hnone : ledger db₀ = []) (h : Run Step db₀ tr db) :
    (∀ confirmationId,
      (tr.filter fun t => t.label.appends consumeAction confirmationId).length ≤ 1) ∧
    ∀ before t after client call, tr = before ++ t :: after →
      t.label = .committed client (.consume call) →
      ∃ issued, RestsOn before call issued ∧ ∃ a b : Binding, issued.Binds a ∧ call.Binds b ∧
        (NoCollision tr → a.Agrees b) := by
  constructor
  · intro confirmationId
    rw [(journal hnone h consumeAction confirmationId).length_eq]
    exact consumed_le_one hnone h confirmationId
  · intro before t after client call htr hlabel
    obtain ⟨hbefore, hstep, -⟩ := h.split htr
    rw [hlabel] at hstep
    obtain ⟨row, hfound⟩ := Step.consumable hstep
    obtain ⟨issued, hrests, a, b, ha, hcanonical, hb, hcanonical', hhash⟩ :=
      exists_restsOn hredaction hdigest hnone hbefore hfound
    refine ⟨issued, hrests, a, b, ha, hb, fun hcollision => ?_⟩
    obtain ⟨u, client', hissue, honly⟩ := hrests.only
    have hu : u ∈ before := by
      have hmem : u ∈ before.filter fun t =>
          t.label.appends issueAction (strip call.confirmationId) := by
        rw [honly]
        exact List.mem_singleton_self u
      exact (List.mem_filter.1 hmem).1
    have htext := hcollision u (by rw [htr]; exact List.mem_append_left _ hu) t (by rw [htr]; simp) a b
      (by rw [hissue]; exact ha) (by rw [hlabel]; exact hb) hhash
    exact Binding.agrees_of_text_eq hcanonical hcanonical' htext

end

end

section Runs

attribute [local instance] asciiLibrary asciiCase fractionFloats

/-- URLs are not needed. -/
@[reducible] def noUrls : UrlLibrary where
  urlsplit _ := .error ⟨.value, "invalid URL"⟩
  ipVersion _ := none
  isSpecialAddress _ := false
  idna _ := none

@[reducible] def oneDigest : DigestLibrary where
  sha256Hex _ := List.replicate 64 '0'

/-- Nothing is secret. -/
@[reducible] def plainRules : AuditRules where
  isSecret _ := false
  unsafeMessage _ := none
  isSecretField _ := false
  isPrivateField _ := false
  sanitizeFreeText text _ := joinWords text

/-- A clock whose deadlines are two minutes into the year 2026. -/
@[reducible] def newYearClock : ClockLibrary where
  addSeconds instant seconds := some (instant + seconds)
  formatUtc _ := "2026-01-01T00:02:00Z".toList

attribute [local instance] noUrls oneDigest plainRules newYearClock

theorem lawful_plainRules : LawfulRedaction := ⟨fun _ _ => .inl rfl⟩

theorem lawful_oneDigest : LawfulDigest := by
  have hzeros : isFingerprint ("sha256:".toList ++ List.replicate 64 '0') = true := by decide +kernel
  exact ⟨fun _ => hzeros⟩

/-- A Tier 3 capability that executes a process. -/
def processExecution : CapabilityDefinition where
  capabilityId := "process.execute".toList
  version := "1".toList
  riskTier := .highRisk
  arguments := []
  target := ⟨.providedData, 100⟩
  sideEffects := {.processExecution}
  permissionScopeKind := "none".toList
  networkMode := .none
  bindingMode := .none
  allowedRequestOrigins := {.currentUserInstruction}
  releaseAvailable := true
  resourceContract := ⟨1000, 1000, 10, 60⟩
  cancellationRequired := false
  description := "Execute a process".toList

def processRequest : CapabilityRequest where
  capabilityId := processExecution.capabilityId
  capabilityVersion := processExecution.version
  operationId := "operation-1".toList
  actorType := .user
  originClass := .currentUserInstruction
  arguments := ⟨[], by simp [Json.DistinctKeys, Json.EntriesDistinctKeys]⟩
  target := ⟨.providedData, "script".toList⟩
  destination := none
  declaredSideEffects := {.processExecution}
  declaredRiskTier := 3
  permissionScope := ⟨[("kind", .str "none".toList)], by
    simp [Json.DistinctKeys, Json.EntriesDistinctKeys]⟩
  resourceLimits := ⟨100, 100, 1⟩
  timeoutSeconds := 30
  sessionId := none
  cancellationId := none

def processRegistry : CapabilityRegistry := ⟨[processExecution], List.nodup_singleton _⟩

/-- The beginning of the year 2026. -/
def newYear : Datetime := ⟨dateInstant 2026 1 1 0 0 0, some 0⟩

def issueProcess : IssueCall where
  request := processRequest
  registry := processRegistry
  preview := ⟨"Runs a script".toList, true, none, none, none⟩
  decision := .approved
  ttlSeconds := 120
  actorType := .user
  originClass := .userManagementAction
  readOnly := false
  clock := some newYear
  drawnId := some "confirmation-1".toList
  eventId := 1
  occurredAt := "2026-01-01T00:00:00Z".toList

def consumeProcess : ConsumeCall where
  confirmationId := "confirmation-1".toList
  request := processRequest
  registryFingerprint := processRegistry.fingerprint
  normalizedDestination := none
  credentialClass := none
  actorType := .capability
  readOnly := false
  clock := some newYear
  eventId := 2
  occurredAt := "2026-01-01T00:00:00Z".toList

/-- The confirmation is issued and consumed. -/
theorem exists_processConsumed : ∃ issued consumed,
    Call.run (.issue issueProcess) (Database.fresh 0 []) = .ok issued ∧
      Call.run (.consume consumeProcess) issued = .ok consumed := by
  have hrun : (Call.run (.issue issueProcess) (Database.fresh 0 []) >>=
      Call.run (.consume consumeProcess)).isOk = true := by decide +kernel
  obtain ⟨consumed, h⟩ := exists_of_isOk hrun
  obtain ⟨issued, hissued, hconsumed⟩ := bind_eq_ok.1 h
  exact ⟨issued, consumed, hissued, hconsumed⟩

theorem single_use_processConsumed : ∃ (before : List (Taken Database (Event Unit)))
    (t : Taken Database (Event Unit)) (issued : IssueCall),
    Run Step (Database.fresh 0 []) (before ++ [t]) t.post ∧
      t.label = .committed () (.consume consumeProcess) ∧ RestsOn before consumeProcess issued ∧
      ∀ confirmationId,
        ((before ++ [t]).filter fun t => t.label.appends consumeAction confirmationId).length ≤ 1 := by
  obtain ⟨issued, consumed, hissued, hconsumed⟩ := exists_processConsumed
  have hrun := (Run.start.next (Step.committed () hissued)).next (Step.committed () hconsumed)
  obtain ⟨honce, hrests⟩ := single_use lawful_plainRules lawful_oneDigest rfl hrun
  obtain ⟨issue, hissue, -⟩ := hrests _ _ [] () consumeProcess rfl rfl
  exact ⟨_, _, issue, hrun, rfl, hissue, honce⟩

end Runs

end DollState.Confirmation

namespace DollState.Writing

open Confirmation

/-- Every digest is the same. -/
@[reducible] def zeroDigests : Capability.DigestLibrary where
  sha256Hex _ := List.replicate 64 '0'

theorem lawful_zeroDigests : @LawfulDigest zeroDigests := lawful_oneDigest

end DollState.Writing
