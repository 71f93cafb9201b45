import DollState.Library.Clients
import DollState.Model.Writes
import DollState.State.Reference

/-!
# Runs of the model manifest service

Any number of clients, each of which reads and then runs one transaction. `Committed` says what the
transaction of a call does to the records, by the rows it finds: a row never changes its type, so a
row that a call has read as a binding is still one.
-/

namespace DollState.Model

open Capability StateLib

/-- Every row is still there, with its type. -/
def KeepsTypes (db db' : Database) : Prop :=
  ∀ id r, db.find? id = some r → ∃ r', db'.find? id = some r' ∧ r'.recordType = r.recordType

theorem KeepsTypes.refl (db : Database) : KeepsTypes db db := fun _ r hr => ⟨r, hr, rfl⟩

theorem KeepsTypes.trans {db₁ db₂ db₃ : Database} (h : KeepsTypes db₁ db₂)
    (h' : KeepsTypes db₂ db₃) : KeepsTypes db₁ db₃ := by
  intro id r hr
  obtain ⟨r₂, hr₂, htype₂⟩ := h id r hr
  obtain ⟨r₃, hr₃, htype₃⟩ := h' id r₂ hr₂
  exact ⟨r₃, hr₃, htype₃.trans htype₂⟩

/-- What is found after a row has been rewritten. -/
theorem Rewrote.find? {db db' : Database} {id : RecordId} {row : RecordEnvelope}
    {metadata : Metadata} (h : Rewrote db id row metadata db') :
    ∃ provenance now, ∀ id', db'.find? id' =
      if id = id' then some (updatedRow metadata provenance now row) else db.find? id' := by
  obtain ⟨provenance, now, hwrites, -⟩ := h.written
  refine ⟨provenance, now, fun id' => ?_⟩
  have hid : row.id = id := Database.id_of_find? h.found
  rw [hwrites, ← hid]
  rfl

theorem Rewrote.keepsTypes {db db' : Database} {id : RecordId} {row : RecordEnvelope}
    {metadata : Metadata} (h : Rewrote db id row metadata db') : KeepsTypes db db' := by
  obtain ⟨provenance, now, hfind⟩ := h.find?
  intro id' r hr
  rw [hfind]
  split
  · rename_i hid
    rw [← hid, h.found] at hr
    cases hr
    exact ⟨_, rfl, rfl⟩
  · exact ⟨r, hr, rfl⟩

/-- A row that is still the one that was there before has not been rewritten in between. -/
theorem Rewrote.ne_of_rewrote {db db₁ db' : Database} {id id' : RecordId} {row row' : RecordEnvelope}
    {metadata metadata' : Metadata} (h : Rewrote db id row metadata db₁)
    (h' : Rewrote db₁ id' row' metadata' db') (hfound : db.find? id' = some row') : id ≠ id' := by
  rintro rfl
  obtain ⟨provenance, now, hfind⟩ := h.find?
  have hrow := h'.found
  rw [hfind, if_pos rfl] at hrow
  obtain rfl : row = row' := Option.some.inj (h.found.symm.trans hfound)
  have hrevision := congrArg RecordEnvelope.revision (Option.some.inj hrow)
  change row.revision + 1 = row.revision at hrevision
  omega

theorem Demoted.notMem_of_rewrote {currentActive : Option RecordId} {db db₁ db' : Database}
    {id : RecordId} {row : RecordEnvelope} {metadata : Metadata} (h : Demoted currentActive db db₁)
    (h' : Rewrote db₁ id row metadata db') (hfound : db.find? id = some row) :
    id ∉ currentActive := by
  intro hid
  rw [Option.mem_def] at hid
  subst hid
  obtain ⟨previous, hprevious⟩ := h
  exact hprevious.ne_of_rewrote h' hfound rfl

theorem Demoted.keepsTypes {currentActive : Option RecordId} {db db' : Database}
    (h : Demoted currentActive db db') : KeepsTypes db db' := by
  cases currentActive with
  | none =>
    obtain rfl : db' = db := h
    exact .refl _
  | some previousId =>
    obtain ⟨_, h⟩ := h
    exact h.keepsTypes

section

variable [PythonLibrary]

/-- What the transaction of a call does, which has read the rows that `seen` gives. -/
inductive Committed (seen : RecordId → RecordEnvelope → Prop) (ctx : Context) (call : Call)
    (db db' : Database) : Write → Prop
  | created {row : RecordEnvelope} {draft : AuditDraft} (hfree : db.find? row.id = none)
      (hwrites : db.Writes row db') (hrevision : row.revision = 1)
      (hbinding : row.recordType = bindingType → ∃ runtimeId modelId runtime model,
        seen runtimeId runtime ∧ seen modelId model ∧
          (1 ≤ runtime.revision → 1 ≤ model.revision →
            ∃ c, c.bindingState = .candidate ∧ IsBinding row c)) :
      Committed seen ctx call db db' (.create row draft)
  | manifest {id : RecordId} {revision : Int} {metadata : Metadata} {provenance : RecordProvenance}
      {now : Text} {draft : AuditDraft} {row : RecordEnvelope} (kind : ManifestKind)
      (htype : row.recordType = kind.recordType) (hrewrote : Rewrote db id row metadata db') :
      Committed seen ctx call db db' (.update id revision metadata provenance now draft)
  | binding {id : RecordId} {revision : Int} {changes : List (String × Json)}
      {provenance : RecordProvenance} {now : Text} {draft : AuditDraft} {r row : RecordEnvelope}
      (hseen : seen id r) (htype : r.recordType = bindingType) (hrow : row.recordType = bindingType)
      (hchange : Alters call id changes)
      (hrewrote : Rewrote db id row (setAll r.metadata changes) db') :
      Committed seen ctx call db db'
        (.update id revision (setAll r.metadata changes) provenance now draft)
  | activated {id : RecordId} {revision : Int} {texts values : List Text} {caller : Caller}
      {runtimeId modelId : RecordId} {runtime model row : RecordEnvelope} {evidence : List RecordId}
      {currentActive : Option RecordId} {draft : AuditDraft} {db₁ : Database}
      (hcall : call = .activateBinding (uuidText id) revision texts caller)
      (hruntime : seen runtimeId runtime) (hmodel : seen modelId model)
      (hevidence : identifiers "evidence IDs" (values.map .str) = .ok evidence)
      (hcurrent : ∀ previousId ∈ currentActive, ∃ r, db.find? previousId = some r ∧
        r.recordType = bindingType)
      (hfound : db.find? id = some row) (htype : row.recordType = bindingType)
      (hdemoted : Demoted currentActive db db₁)
      (hrewrote : Rewrote db₁ id row (setAll row.metadata
        (promotion runtime.revision model.revision ctx.activatedAt evidence currentActive)) db') :
      Committed seen ctx call db db' (.activate ctx id revision runtime.revision model.revision
        evidence currentActive draft)
  | rolledBack {id previousId : RecordId} {revision : Int} {value : Json} {given reason : Text}
      {caller : Caller} {draft : AuditDraft} {row previous : RecordEnvelope} {db₁ : Database}
      (hcall : call = .rollbackBinding (uuidText id) revision given caller)
      (hreason : text "rollback reason" value maxText = .ok reason)
      (htype : row.recordType = bindingType) (hfound : db.find? previousId = some previous)
      (hprevious : previous.recordType = bindingType)
      (hrewrote : Rewrote db id row (setAll row.metadata (withdrawal previousId reason)) db₁)
      (hrestored : Rewrote db₁ previousId previous
        (setAll previous.metadata (restoration ctx.activatedAt)) db') :
      Committed seen ctx call db db' (.rollback ctx id revision previousId reason draft)

theorem Committed.keepsTypes {seen : RecordId → RecordEnvelope → Prop} {ctx : Context} {call : Call}
    {db db' : Database} {w : Write} (h : Committed seen ctx call db db' w) : KeepsTypes db db' := by
  cases h with
  | created hfree hwrites =>
    intro id r hr
    rw [hwrites]
    split
    · rename_i hid
      rw [← hid, hfree] at hr
      cases hr
    · exact ⟨r, hr, rfl⟩
  | manifest _ _ hrewrote => exact hrewrote.keepsTypes
  | binding _ _ _ _ hrewrote => exact hrewrote.keepsTypes
  | activated _ _ _ _ _ _ _ hdemoted hrewrote => exact hdemoted.keepsTypes.trans hrewrote.keepsTypes
  | rolledBack _ _ _ _ _ hrewrote hrestored => exact hrewrote.keepsTypes.trans hrestored.keepsTypes

/-- Some of the databases has the row. -/
def SeenIn (ss : List Database) (id : RecordId) (r : RecordEnvelope) : Prop :=
  ∃ s ∈ ss, s.find? id = some r

variable [ModuleRules] [CaseLibrary] [DigestLibrary]

/-- What a transaction does whose call was prepared on earlier databases. -/
theorem committed_of_runsOver {ctx : Context} {call : Call} {ss : List Database} {w : Write}
    {db db' : Database} (hss : ∀ t ∈ ss, KeepsTypes t db)
    (hruns : ReadProgram.RunsOver Database.answer (Call.prepare (ctx, call)) ss (.ok w))
    (h : w.commit db = .ok db') : Committed (SeenIn ss) ctx call db db' w := by
  have hall : (Call.prepare (ctx, call)).All (fun q a => ∃ s ∈ ss, a = s.answer q)
      (Prepared (fun q a => ∃ s ∈ ss, a = s.answer q) ctx call) := by
    refine Call.prepare_all (fun id r hr => ?_) ctx call
    obtain ⟨s, -, hs⟩ := hr
    exact Database.id_of_find? hs.symm
  have hprepared := hall.runsOver hruns fun s hs q => ⟨s, hs, rfl⟩
  -- a row is found with the type with which it was read
  have hfound : ∀ {recordType id r}, SeenAs (fun q a => ∃ s ∈ ss, a = s.answer q) recordType id r →
      ∃ r', db.find? id = some r' ∧ r'.recordType = recordType := by
    rintro recordType id r ⟨⟨s, hs, hr⟩, htype⟩
    obtain ⟨r', hr', htype'⟩ := hss s hs id r hr.symm
    exact ⟨r', hr', htype'.trans htype⟩
  have hseen : ∀ {r}, Seen (fun q a => ∃ s ∈ ss, a = s.answer q) r → ∃ id, SeenIn ss id r := by
    rintro r ⟨id, s, hs, hr⟩
    exact ⟨id, s, hs, hr.symm⟩
  cases hprepared with
  | created hrevision hbinding =>
    obtain ⟨hfree, hwrites⟩ := createTransaction_writes h
    refine .created hfree hwrites hrevision fun htype => ?_
    obtain ⟨runtime, model, hruntime, hmodel, hreadable⟩ := hbinding htype
    obtain ⟨runtimeId, hruntime⟩ := hseen hruntime
    obtain ⟨modelId, hmodel⟩ := hseen hmodel
    exact ⟨runtimeId, modelId, runtime, model, hruntime, hmodel, hreadable⟩
  | manifest kind hr =>
    obtain ⟨row, -, hrewrote⟩ := updateOne_rewrote h
    obtain ⟨r', hr', htype⟩ := hfound hr
    obtain rfl : row = r' := Option.some.inj (hrewrote.found.symm.trans hr')
    exact .manifest kind htype hrewrote
  | binding hr hchange =>
    obtain ⟨row, -, hrewrote⟩ := updateOne_rewrote h
    obtain ⟨r', hr', htype⟩ := hfound hr
    obtain rfl : row = r' := Option.some.inj (hrewrote.found.symm.trans hr')
    obtain ⟨⟨s, hs, hfind⟩, hbinding⟩ := hr
    exact .binding ⟨s, hs, hfind.symm⟩ hbinding htype hchange hrewrote
  | activated hcall hr hruntime hmodel hevidence hcurrent =>
    obtain ⟨row, db₁, -, hrow, hdemoted, hrewrote⟩ := activate_rewrote h
    obtain ⟨r, hr⟩ := hr
    obtain ⟨r', hr', htype⟩ := hfound hr
    obtain rfl : row = r' := Option.some.inj (hrow.symm.trans hr')
    obtain ⟨runtimeId, hruntime⟩ := hseen hruntime
    obtain ⟨modelId, hmodel⟩ := hseen hmodel
    refine .activated hcall hruntime hmodel hevidence (fun previousId hprevious => ?_) hrow htype
      hdemoted hrewrote
    obtain ⟨r, hr⟩ := hcurrent previousId hprevious
    exact hfound hr
  | rolledBack hcall hr hprevious hreason =>
    obtain ⟨row, previous, db₁, -, hfind, hrewrote, hrestored⟩ := rollback_rewrote h
    obtain ⟨r, hr⟩ := hr
    obtain ⟨r', hr', htype⟩ := hfound hr
    obtain rfl : row = r' := Option.some.inj (hrewrote.found.symm.trans hr')
    obtain ⟨p, hp⟩ := hprevious
    obtain ⟨p', hp', hptype⟩ := hfound hp
    obtain rfl : previous = p' := Option.some.inj (hfind.symm.trans hp')
    exact .rolledBack hcall hreason htype hfind hptype hrewrote hrestored

/-! ## Clients -/

variable {ι : Type} [DecidableEq ι]

/-- A state database and the clients of its model manifest service. -/
abbrev ModelWorld (ι : Type) :=
  Clients.World Database ι StateQuery StateQuery.Answer DollError Write (Context × Call)

abbrev ModelAction := Clients.Action Write (Context × Call)

abbrev ModelTrace (ι : Type) := List (Taken (ModelWorld ι) (ι × ModelAction))

/-- One step of one client. -/
abbrev ModelStep : ModelWorld ι → ι × ModelAction → ModelWorld ι → Prop :=
  Clients.Step Database.answer Call.prepare Write.commit

theorem ModelStep.informed {W₀ W : ModelWorld ι} {tr : ModelTrace ι}
    (hidle : ∀ i, W₀.client i = .idle) (h : Run ModelStep W₀ tr W) :
    Clients.Informed Database.answer Call.prepare (fun _ => True) KeepsTypes W := by
  refine Clients.Informed.run KeepsTypes.refl (fun h h' => h.trans h') ?_ trivial hidle h
  rintro db ⟨ctx, call⟩ ss w db' - hss hruns hcommit
  exact ⟨trivial, (committed_of_runsOver (fun t ht => (hss t ht).2) hruns hcommit).keepsTypes⟩

/-- What a committing step of a run does. -/
theorem ModelStep.committed {W₀ : ModelWorld ι} {W : ModelWorld ι} {tr : ModelTrace ι}
    (hidle : ∀ i, W₀.client i = .idle) (h : Run ModelStep W₀ tr W)
    {t : Taken (ModelWorld ι) (ι × ModelAction)} (ht : t ∈ tr) {i : ι} {ctx : Context} {call : Call}
    {w : Write} (hlabel : t.label = (i, .commit (ctx, call) w)) :
    ∃ ss, Committed (SeenIn ss) ctx call t.pre.shared t.post.shared w := by
  obtain ⟨⟨tr', hrun⟩, hs⟩ := h.prefix_of_mem ht
  rw [hlabel] at hs
  obtain ⟨hclient, hcommit⟩ := hs.of_commit
  obtain ⟨ss, hss, hruns⟩ := (ModelStep.informed hidle hrun).of_commit hclient
  exact ⟨ss, committed_of_runsOver (fun t ht => (hss t ht).2) hruns hcommit⟩

end

/-! ## A workspace with two bindings -/

section Reference

/-- Every digest is the same. -/
@[reducible] def zeroDigest : DigestLibrary where
  sha256Hex _ := List.replicate 64 '0'

/-- A call of the user, whose surroundings are numbered. -/
def context (n : Nat) : Context where
  toSurroundings := surroundings n
  activatedAt := "2026-01-01T00:00:00Z".toList
  otherNow := "2026-01-01T00:00:00Z".toList
  activatedAt_ok := rfl

def byUser : Caller := ⟨.user, none⟩

def manifestRow (id : RecordId) (recordType title : String) (metadata : Metadata) :
    RecordEnvelope where
  id := id
  recordType := recordType
  schemaVersion := 1
  createdAt := "2026-01-01T00:00:00Z".toList
  updatedAt := "2026-01-01T00:00:00Z".toList
  revision := 1
  status := .active
  provenance := .userConfirmed
  sensitivity := .internal
  title := some title.toList
  metadata := metadata

/-- A verified runtime. -/
def runtimeRow : RecordEnvelope := manifestRow 100 runtimeType "Local runtime"
  [("adapter_id", .str "local".toList), ("adapter_version", .str "1".toList),
    ("runtime_class", .str "process".toList), ("connection_kind", .str "pipe".toList),
    ("runtime_version", .null),
    ("declaration_fingerprint", .str ("sha256:".toList ++ List.replicate 64 '0')),
    ("operations", textList ["generate".toList, "health".toList]), ("offline_capable", .bool true),
    ("cloud_fallback", .bool false), ("automatic_download", .bool false), ("platforms", .arr []),
    ("compatibility", .arr []), ("source_references", .arr []),
    ("manifest_state", .str ManifestState.verified.text), ("verification_evidence_ids", .arr []),
    ("quarantine_reason", .null)]

/-- A verified model of that runtime. -/
def modelRow : RecordEnvelope := manifestRow 101 modelType "Model"
  [("runtime_manifest_id", .str (uuidText 100)), ("runtime_private_locator", .str "model".toList),
    ("display_name", .str "Model".toList), ("exact_revision", .str "1".toList),
    ("checksums", checksumList [("sha256".toList, List.replicate 16 '0')]),
    ("source_references", .arr []), ("license_id", .str "free".toList),
    ("license_review_state", .str LicenseReviewState.reviewedCompatible.text),
    ("model_format", .str "gguf".toList), ("size_bytes", .null), ("context_limit", .null),
    ("capabilities", .arr []), ("platforms", .arr []), ("compatibility", .arr []),
    ("manifest_state", .str ManifestState.verified.text), ("verification_evidence_ids", .arr []),
    ("quarantine_reason", .null)]

/-- A binding of that model that has passed its smoke test. -/
def bindingRow (id : RecordId) (state : BindingState) (activatedAt : Json) : RecordEnvelope :=
  manifestRow id bindingType "project:garden"
    [("scope_type", .str "project".toList), ("scope_key", .str "garden".toList),
      ("runtime_manifest_id", .str (uuidText 100)), ("runtime_manifest_revision", .int 1),
      ("model_manifest_id", .str (uuidText 101)), ("model_manifest_revision", .int 1),
      ("binding_state", .str state.text), ("activated_at", activatedAt),
      ("activation_evidence_ids", .arr []), ("previous_binding_id", .null),
      ("fallback_priority", .null), ("fallback_eligible", .bool false),
      ("rollback_target_id", .null), ("rollback_reason", .null),
      ("smoke_test_status", .str SmokeTestStatus.passed.text)]

/-- A database with an active binding and a candidate of one scope. -/
def boundDatabase : Database :=
  { Database.fresh 0 [] with
    records := ⟨[runtimeRow, modelRow,
      bindingRow 102 .active (.str "2026-01-01T00:00:00Z".toList),
      bindingRow 103 .candidate .null], by decide⟩ }

/-- Two clients of that database, both at rest. -/
def boundWorld : ModelWorld Bool := ⟨boundDatabase, fun _ => .idle⟩

end Reference

end DollState.Model
