import DollState.Model.ReadBack
import DollState.Model.Selectable

/-!
# Records that stay readable

`RuntimeSays` and `ModelSays` are what the readers of the manifests have checked, one field a check, as
`Says` is for bindings. What a call creates can be read, and what a call changes can still be read, with
one exception: a model whose checksums name one algorithm twice, in different letter case, is stored
and never read again. In every run the records are readable exactly if no call creates such a model
(`allRead_iff`).
-/

namespace DollState.Model

open Capability StateLib

/-! ## What manifests say -/

section

variable [PythonLibrary]

/-- The metadata says the content of a runtime manifest. -/
structure RuntimeSays [ModuleRules] (metadata : Metadata) (c : RuntimeContent) : Prop where
  adapterId : token "adapter ID" (metadata.get "adapter_id") = .ok c.adapterId
  adapterVersion : token "adapter version" (metadata.get "adapter_version") = .ok c.adapterVersion
  runtimeClass : token "runtime class" (metadata.get "runtime_class") = .ok c.runtimeClass
  connectionKind : token "connection kind" (metadata.get "connection_kind") = .ok c.connectionKind
  operations : (do tokens "operations" (← list (metadata.get "operations")) (some allowedOperations)) =
    .ok c.operations
  declared : fingerprint (metadata.get "declaration_fingerprint") = .ok c.declarationFingerprint
  offlineCapable : flag "offline capable" (metadata.get "offline_capable") = .ok c.offlineCapable
  cloudFallback : flag "cloud fallback" (metadata.get "cloud_fallback") = .ok c.cloudFallback
  automaticDownload :
    flag "automatic download" (metadata.get "automatic_download") = .ok c.automaticDownload
  matching : c.declarationFingerprint = runtimeFingerprint c.adapterId c.adapterVersion c.runtimeClass
    c.connectionKind c.operations c.offlineCapable c.cloudFallback c.automaticDownload
  state : stateAndReason metadata "runtime quarantine metadata is inconsistent" =
    .ok (c.manifestState, c.quarantineReason)
  runtimeVersion : optional (token "runtime version") (metadata.get "runtime_version") = .ok c.runtimeVersion
  platforms : (do tokens "platforms" (← list (metadata.get "platforms")) none) = .ok c.platforms
  compatibility :
    (do tokens "compatibility" (← list (metadata.get "compatibility")) none) = .ok c.compatibility
  sourceReferences : (do references (← list (metadata.get "source_references"))) = .ok c.sourceReferences
  evidence : (do
    identifiers "verification evidence IDs" (← list (metadata.get "verification_evidence_ids"))) =
      .ok c.verificationEvidenceIds

theorem readRuntime_eq_ok [ModuleRules] {metadata : Metadata} {c : RuntimeContent} :
    readRuntime metadata = .ok c ↔ RuntimeSays metadata c := by
  constructor
  · intro h
    unfold readRuntime at h
    obtain ⟨_, h₁, h⟩ := bind_eq_ok.1 h
    obtain ⟨_, h₂, h⟩ := bind_eq_ok.1 h
    obtain ⟨_, h₃, h⟩ := bind_eq_ok.1 h
    obtain ⟨_, h₄, h⟩ := bind_eq_ok.1 h
    obtain ⟨_, h₅, h⟩ := bind_eq_ok.1 h
    obtain ⟨_, h₅', h⟩ := bind_eq_ok.1 h
    obtain ⟨_, h₆, h⟩ := bind_eq_ok.1 h
    obtain ⟨_, h₇, h⟩ := bind_eq_ok.1 h
    obtain ⟨_, h₈, h⟩ := bind_eq_ok.1 h
    obtain ⟨_, h₉, h⟩ := bind_eq_ok.1 h
    obtain ⟨hmatching, h⟩ := check_bind_eq_ok.1 h
    obtain ⟨_, hstate, h⟩ := bind_eq_ok.1 h
    obtain ⟨_, hversion, h⟩ := bind_eq_ok.1 h
    obtain ⟨_, hplatforms, h⟩ := bind_eq_ok.1 h
    obtain ⟨_, hplatforms', h⟩ := bind_eq_ok.1 h
    obtain ⟨_, hcompatibility, h⟩ := bind_eq_ok.1 h
    obtain ⟨_, hcompatibility', h⟩ := bind_eq_ok.1 h
    obtain ⟨_, hreferences, h⟩ := bind_eq_ok.1 h
    obtain ⟨_, hreferences', h⟩ := bind_eq_ok.1 h
    obtain ⟨_, hevidence, h⟩ := bind_eq_ok.1 h
    obtain ⟨_, hevidence', h⟩ := bind_eq_ok.1 h
    obtain rfl := pure_eq_ok.1 h
    exact ⟨h₁, h₂, h₃, h₄, bind_eq_ok.2 ⟨_, h₅, h₅'⟩, h₆, h₇, h₈, h₉, ensure_eq_ok.1 hmatching, hstate,
      hversion, bind_eq_ok.2 ⟨_, hplatforms, hplatforms'⟩, bind_eq_ok.2 ⟨_, hcompatibility, hcompatibility'⟩,
      bind_eq_ok.2 ⟨_, hreferences, hreferences'⟩, bind_eq_ok.2 ⟨_, hevidence, hevidence'⟩⟩
  · intro h
    obtain ⟨_, h₅, h₅'⟩ := bind_eq_ok.1 h.operations
    obtain ⟨_, hplatforms, hplatforms'⟩ := bind_eq_ok.1 h.platforms
    obtain ⟨_, hcompatibility, hcompatibility'⟩ := bind_eq_ok.1 h.compatibility
    obtain ⟨_, hreferences, hreferences'⟩ := bind_eq_ok.1 h.sourceReferences
    obtain ⟨_, hevidence, hevidence'⟩ := bind_eq_ok.1 h.evidence
    unfold readRuntime
    refine bind_eq_ok.2 ⟨_, h.adapterId, bind_eq_ok.2 ⟨_, h.adapterVersion, bind_eq_ok.2
      ⟨_, h.runtimeClass, bind_eq_ok.2 ⟨_, h.connectionKind, bind_eq_ok.2 ⟨_, h₅, ?_⟩⟩⟩⟩⟩
    refine bind_eq_ok.2 ⟨_, h₅', bind_eq_ok.2 ⟨_, h.declared, bind_eq_ok.2 ⟨_, h.offlineCapable,
      bind_eq_ok.2 ⟨_, h.cloudFallback, bind_eq_ok.2 ⟨_, h.automaticDownload, ?_⟩⟩⟩⟩⟩
    refine check_bind_eq_ok.2 ⟨ensure_eq_ok.2 h.matching, bind_eq_ok.2 ⟨_, h.state, bind_eq_ok.2
      ⟨_, h.runtimeVersion, bind_eq_ok.2 ⟨_, hplatforms, bind_eq_ok.2 ⟨_, hplatforms', ?_⟩⟩⟩⟩⟩
    exact bind_eq_ok.2 ⟨_, hcompatibility, bind_eq_ok.2 ⟨_, hcompatibility', bind_eq_ok.2 ⟨_, hreferences,
      bind_eq_ok.2 ⟨_, hreferences', bind_eq_ok.2 ⟨_, hevidence, bind_eq_ok.2 ⟨_, hevidence', rfl⟩⟩⟩⟩⟩⟩

/-- The metadata says the content of a model manifest. -/
structure ModelSays [CaseLibrary] (metadata : Metadata) (c : ModelContent) : Prop where
  state : stateAndReason metadata "model quarantine metadata is inconsistent" =
    .ok (c.manifestState, c.quarantineReason)
  runtimeManifestId :
    identifier "runtime manifest ID" (metadata.get "runtime_manifest_id") = .ok c.runtimeManifestId
  runtimePrivateLocator : locator (metadata.get "runtime_private_locator") = .ok c.runtimePrivateLocator
  displayName : text "model display name" (metadata.get "display_name") maxDisplay = .ok c.displayName
  exactRevision : text "exact model revision" (metadata.get "exact_revision") maxText = .ok c.exactRevision
  checksums : checksumPayload (metadata.get "checksums") = .ok c.checksums
  sourceReferences : (do references (← list (metadata.get "source_references"))) = .ok c.sourceReferences
  licenseId : token "license ID" (metadata.get "license_id") = .ok c.licenseId
  licenseReviewState : licenseState (metadata.get "license_review_state") = .ok c.licenseReviewState
  modelFormat : token "model format" (metadata.get "model_format") = .ok c.modelFormat
  sizeBytes : optional (positiveInt "model size") (metadata.get "size_bytes") = .ok c.sizeBytes
  contextLimit : optional (positiveInt "context limit") (metadata.get "context_limit") = .ok c.contextLimit
  capabilities : (do tokens "capabilities" (← list (metadata.get "capabilities")) none) = .ok c.capabilities
  platforms : (do tokens "platforms" (← list (metadata.get "platforms")) none) = .ok c.platforms
  compatibility :
    (do tokens "compatibility" (← list (metadata.get "compatibility")) none) = .ok c.compatibility
  evidence : (do
    identifiers "verification evidence IDs" (← list (metadata.get "verification_evidence_ids"))) =
      .ok c.verificationEvidenceIds

theorem readModel_eq_ok [CaseLibrary] {metadata : Metadata} {c : ModelContent} :
    readModel metadata = .ok c ↔ ModelSays metadata c := by
  constructor
  · intro h
    unfold readModel at h
    obtain ⟨_, h₁, h⟩ := bind_eq_ok.1 h
    obtain ⟨_, h₂, h⟩ := bind_eq_ok.1 h
    obtain ⟨_, h₃, h⟩ := bind_eq_ok.1 h
    obtain ⟨_, h₄, h⟩ := bind_eq_ok.1 h
    obtain ⟨_, h₅, h⟩ := bind_eq_ok.1 h
    obtain ⟨_, h₆, h⟩ := bind_eq_ok.1 h
    obtain ⟨_, hreferences, h⟩ := bind_eq_ok.1 h
    obtain ⟨_, hreferences', h⟩ := bind_eq_ok.1 h
    obtain ⟨_, h₇, h⟩ := bind_eq_ok.1 h
    obtain ⟨_, h₈, h⟩ := bind_eq_ok.1 h
    obtain ⟨_, h₉, h⟩ := bind_eq_ok.1 h
    obtain ⟨_, hsize, h⟩ := bind_eq_ok.1 h
    obtain ⟨_, hlimit, h⟩ := bind_eq_ok.1 h
    obtain ⟨_, hcapabilities, h⟩ := bind_eq_ok.1 h
    obtain ⟨_, hcapabilities', h⟩ := bind_eq_ok.1 h
    obtain ⟨_, hplatforms, h⟩ := bind_eq_ok.1 h
    obtain ⟨_, hplatforms', h⟩ := bind_eq_ok.1 h
    obtain ⟨_, hcompatibility, h⟩ := bind_eq_ok.1 h
    obtain ⟨_, hcompatibility', h⟩ := bind_eq_ok.1 h
    obtain ⟨_, hevidence, h⟩ := bind_eq_ok.1 h
    obtain ⟨_, hevidence', h⟩ := bind_eq_ok.1 h
    obtain rfl := pure_eq_ok.1 h
    exact ⟨h₁, h₂, h₃, h₄, h₅, h₆, bind_eq_ok.2 ⟨_, hreferences, hreferences'⟩, h₇, h₈, h₉, hsize, hlimit,
      bind_eq_ok.2 ⟨_, hcapabilities, hcapabilities'⟩, bind_eq_ok.2 ⟨_, hplatforms, hplatforms'⟩,
      bind_eq_ok.2 ⟨_, hcompatibility, hcompatibility'⟩, bind_eq_ok.2 ⟨_, hevidence, hevidence'⟩⟩
  · intro h
    obtain ⟨_, hreferences, hreferences'⟩ := bind_eq_ok.1 h.sourceReferences
    obtain ⟨_, hcapabilities, hcapabilities'⟩ := bind_eq_ok.1 h.capabilities
    obtain ⟨_, hplatforms, hplatforms'⟩ := bind_eq_ok.1 h.platforms
    obtain ⟨_, hcompatibility, hcompatibility'⟩ := bind_eq_ok.1 h.compatibility
    obtain ⟨_, hevidence, hevidence'⟩ := bind_eq_ok.1 h.evidence
    unfold readModel
    refine bind_eq_ok.2 ⟨_, h.state, bind_eq_ok.2 ⟨_, h.runtimeManifestId, bind_eq_ok.2
      ⟨_, h.runtimePrivateLocator, bind_eq_ok.2 ⟨_, h.displayName, bind_eq_ok.2 ⟨_, h.exactRevision, ?_⟩⟩⟩⟩⟩
    refine bind_eq_ok.2 ⟨_, h.checksums, bind_eq_ok.2 ⟨_, hreferences, bind_eq_ok.2 ⟨_, hreferences',
      bind_eq_ok.2 ⟨_, h.licenseId, bind_eq_ok.2 ⟨_, h.licenseReviewState, ?_⟩⟩⟩⟩⟩
    refine bind_eq_ok.2 ⟨_, h.modelFormat, bind_eq_ok.2 ⟨_, h.sizeBytes, bind_eq_ok.2 ⟨_, h.contextLimit,
      bind_eq_ok.2 ⟨_, hcapabilities, bind_eq_ok.2 ⟨_, hcapabilities', ?_⟩⟩⟩⟩⟩
    exact bind_eq_ok.2 ⟨_, hplatforms, bind_eq_ok.2 ⟨_, hplatforms', bind_eq_ok.2 ⟨_, hcompatibility,
      bind_eq_ok.2 ⟨_, hcompatibility', bind_eq_ok.2 ⟨_, hevidence, bind_eq_ok.2 ⟨_, hevidence', rfl⟩⟩⟩⟩⟩⟩

/-! ## Changes of a manifest -/

/-- How a call changes a manifest of the kind. -/
inductive ManifestChange (kind : ManifestKind) : List (String × Json) → Prop
  | verified {values : List Json} {evidence : List RecordId}
      (h : identifiers "evidence IDs" values = .ok evidence) : ManifestChange kind (verification evidence)
  | reviewed {state : LicenseReviewState} (hkind : kind = .model) :
      ManifestChange kind [("license_review_state", .str state.text)]
  | quarantined {value : Json} {reason : Text} (h : text "quarantine reason" value maxText = .ok reason) :
      ManifestChange kind [("manifest_state", .str ManifestState.quarantined.text),
        ("quarantine_reason", .str reason)]
  | inactive {state : ManifestState} (h : state ≠ .quarantined) :
      ManifestChange kind [("manifest_state", .str state.text), ("quarantine_reason", .null)]

/-- The keys that the changes set. -/
def changedKeys : List String :=
  ["manifest_state", "verification_evidence_ids", "quarantine_reason", "license_review_state"]

variable {kind : ManifestKind} {changes : List (String × Json)} {metadata metadata' : Metadata}

theorem ManifestChange.get (h : ManifestChange kind changes) {key : String} (hkey : key ∉ changedKeys) :
    (setAll metadata changes).get key = metadata.get key := by
  simp only [changedKeys, List.mem_cons, List.not_mem_nil, or_false, not_or] at hkey
  refine get_setAll_of_notMem ?_
  cases h <;> simp [verification, hkey]

theorem ManifestChange.hasKeys_runtime (h : ManifestChange .runtime changes)
    (hkeys : hasKeys metadata runtimeKeys) : hasKeys (setAll metadata changes) runtimeKeys := by
  refine hasKeys_setAll hkeys ?_
  cases h with
  | reviewed hkind => cases hkind
  | _ => simp [verification, runtimeKeys]

theorem ManifestChange.hasKeys_model (h : ManifestChange .model changes)
    (hkeys : hasKeys metadata modelKeys) : hasKeys (setAll metadata changes) modelKeys := by
  refine hasKeys_setAll hkeys ?_
  cases h <;> simp [verification, modelKeys]

omit [PythonLibrary] in
theorem stateAndReason_of_null {state : ManifestState} {message : String}
    (hstate : metadata.get "manifest_state" = .str state.text) (hreason : metadata.get "quarantine_reason" = .null)
    (hne : state ≠ .quarantined) : stateAndReason metadata message = .ok (state, none) := by
  rw [stateAndReason, manifestState_eq_ok.2 hstate, ok_bind, hreason, optional_null, ok_bind,
    ensure_of (by simp [hne])]
  rfl

omit [PythonLibrary] in
theorem stateAndReason_of_str {value : Json} {reason : Text} {message : String}
    (hstate : metadata.get "manifest_state" = .str ManifestState.quarantined.text)
    (hreason : metadata.get "quarantine_reason" = .str reason)
    (htext : text "quarantine reason" value maxText = .ok reason) :
    stateAndReason metadata message = .ok (.quarantined, some reason) := by
  have hread : optional (text "quarantine reason" · maxText) (.str reason) = .ok (some reason) := by
    rw [optional_str, text_str htext]
    rfl
  rw [stateAndReason, manifestState_eq_ok.2 hstate, ok_bind, hreason, hread, ok_bind, ensure_of (by simp)]
  rfl

/-- A change leaves a state, evidence and a license that can be read. -/
theorem ManifestChange.state (h : ManifestChange kind changes) {message : String} {old : ManifestState × Option Text}
    (hold : stateAndReason metadata message = .ok old) :
    ∃ state reason, stateAndReason (setAll metadata changes) message = .ok (state, reason) := by
  cases h with
  | verified h =>
    refine ⟨.verified, none, stateAndReason_of_null ?_ ?_ (by decide)⟩ <;>
      simp [verification, setAll, Metadata.get_set]
  | reviewed hkind =>
    refine ⟨old.1, old.2, ?_⟩
    rw [stateAndReason, get_setAll_of_notMem (by simp), get_setAll_of_notMem (by simp)]
    exact hold
  | quarantined h =>
    refine ⟨.quarantined, _, stateAndReason_of_str ?_ ?_ h⟩ <;> simp [setAll, Metadata.get_set]
  | inactive h =>
    refine ⟨_, none, stateAndReason_of_null ?_ ?_ h⟩ <;> simp [setAll, Metadata.get_set]

theorem ManifestChange.evidence (h : ManifestChange kind changes) {ids : List RecordId}
    (hold : (do
      identifiers "verification evidence IDs" (← list (metadata.get "verification_evidence_ids"))) = .ok ids) :
    ∃ ids', (do
      identifiers "verification evidence IDs"
        (← list ((setAll metadata changes).get "verification_evidence_ids"))) = .ok ids' := by
  cases h with
  | @verified _ evidence h =>
    have hget : (setAll metadata (verification evidence)).get "verification_evidence_ids" = .ofIds evidence := by
      simp [verification, setAll, Metadata.get_set]
    rw [hget]
    exact ⟨evidence, identifiers_ofIds h⟩
  | reviewed | quarantined | inactive =>
    refine ⟨ids, ?_⟩
    rw [get_setAll_of_notMem (by simp)]
    exact hold

omit [PythonLibrary] in
theorem licenseState_text (state : LicenseReviewState) : licenseState (.str state.text) = .ok state := by
  cases state <;> rfl

theorem ManifestChange.license (h : ManifestChange kind changes) {old : LicenseReviewState}
    (hold : licenseState (metadata.get "license_review_state") = .ok old) :
    ∃ state, licenseState ((setAll metadata changes).get "license_review_state") = .ok state := by
  cases h with
  | @reviewed state hkind =>
    have hget : (setAll metadata [("license_review_state", .str state.text)]).get "license_review_state" =
        .str state.text := by simp [setAll, Metadata.get_set]
    rw [hget]
    exact ⟨state, licenseState_text state⟩
  | verified | quarantined | inactive =>
    refine ⟨old, ?_⟩
    rw [get_setAll_of_notMem (by simp [verification])]
    exact hold

theorem RuntimeSays.change [ModuleRules] {c : RuntimeContent} (h : RuntimeSays metadata c)
    (hchange : ManifestChange .runtime changes) : ∃ c', RuntimeSays (setAll metadata changes) c' := by
  obtain ⟨state, reason, hstate⟩ := hchange.state h.state
  obtain ⟨ids, hevidence⟩ := hchange.evidence h.evidence
  have hget : ∀ key, key ∉ changedKeys → (setAll metadata changes).get key = metadata.get key :=
    fun _ => hchange.get
  exact ⟨{ c with manifestState := state, quarantineReason := reason, verificationEvidenceIds := ids }, {
    adapterId := hget "adapter_id" (by decide) ▸ h.adapterId
    adapterVersion := hget "adapter_version" (by decide) ▸ h.adapterVersion
    runtimeClass := hget "runtime_class" (by decide) ▸ h.runtimeClass
    connectionKind := hget "connection_kind" (by decide) ▸ h.connectionKind
    operations := hget "operations" (by decide) ▸ h.operations
    declared := hget "declaration_fingerprint" (by decide) ▸ h.declared
    offlineCapable := hget "offline_capable" (by decide) ▸ h.offlineCapable
    cloudFallback := hget "cloud_fallback" (by decide) ▸ h.cloudFallback
    automaticDownload := hget "automatic_download" (by decide) ▸ h.automaticDownload
    matching := h.matching
    state := hstate
    runtimeVersion := hget "runtime_version" (by decide) ▸ h.runtimeVersion
    platforms := hget "platforms" (by decide) ▸ h.platforms
    compatibility := hget "compatibility" (by decide) ▸ h.compatibility
    sourceReferences := hget "source_references" (by decide) ▸ h.sourceReferences
    evidence := hevidence }⟩

theorem ModelSays.change [CaseLibrary] {c : ModelContent} (h : ModelSays metadata c)
    (hchange : ManifestChange .model changes) : ∃ c', ModelSays (setAll metadata changes) c' := by
  obtain ⟨state, reason, hstate⟩ := hchange.state h.state
  obtain ⟨ids, hevidence⟩ := hchange.evidence h.evidence
  obtain ⟨review, hreview⟩ := hchange.license h.licenseReviewState
  have hget : ∀ key, key ∉ changedKeys → (setAll metadata changes).get key = metadata.get key :=
    fun _ => hchange.get
  exact ⟨{ c with
    manifestState := state, quarantineReason := reason, verificationEvidenceIds := ids
    licenseReviewState := review }, {
    state := hstate
    runtimeManifestId := hget "runtime_manifest_id" (by decide) ▸ h.runtimeManifestId
    runtimePrivateLocator := hget "runtime_private_locator" (by decide) ▸ h.runtimePrivateLocator
    displayName := hget "display_name" (by decide) ▸ h.displayName
    exactRevision := hget "exact_revision" (by decide) ▸ h.exactRevision
    checksums := hget "checksums" (by decide) ▸ h.checksums
    sourceReferences := hget "source_references" (by decide) ▸ h.sourceReferences
    licenseId := hget "license_id" (by decide) ▸ h.licenseId
    licenseReviewState := hreview
    modelFormat := hget "model_format" (by decide) ▸ h.modelFormat
    sizeBytes := hget "size_bytes" (by decide) ▸ h.sizeBytes
    contextLimit := hget "context_limit" (by decide) ▸ h.contextLimit
    capabilities := hget "capabilities" (by decide) ▸ h.capabilities
    platforms := hget "platforms" (by decide) ▸ h.platforms
    compatibility := hget "compatibility" (by decide) ▸ h.compatibility
    evidence := hevidence }⟩

/-! ## Rows that are read -/

theorem runtimeFromRecord_iff [ModuleRules] {row : RecordEnvelope} :
    (∃ info, runtimeFromRecord row = .ok info) ↔
      requireShape row runtimeType runtimeKeys = .ok () ∧ (∃ c, RuntimeSays row.metadata c) ∧
        ∃ label, text "runtime label" (Json.ofText? row.title) maxDisplay = .ok label := by
  constructor
  · rintro ⟨info, h⟩
    obtain ⟨hshape, h⟩ := check_bind_eq_ok.1 (catching_eq_ok.1 h)
    obtain ⟨c, hc, h⟩ := bind_eq_ok.1 h
    obtain ⟨label, hlabel, -⟩ := bind_eq_ok.1 h
    exact ⟨hshape, ⟨c, readRuntime_eq_ok.1 hc⟩, label, hlabel⟩
  · rintro ⟨hshape, ⟨c, hc⟩, label, hlabel⟩
    exact ⟨⟨.of row, label, c⟩, catching_eq_ok.2 (check_bind_eq_ok.2 ⟨hshape, bind_eq_ok.2
      ⟨c, readRuntime_eq_ok.2 hc, bind_eq_ok.2 ⟨label, hlabel, rfl⟩⟩⟩)⟩

theorem modelFromRecord_iff [CaseLibrary] {row : RecordEnvelope} :
    (∃ info, modelFromRecord row = .ok info) ↔
      requireShape row modelType modelKeys = .ok () ∧ ∃ c, ModelSays row.metadata c := by
  constructor
  · rintro ⟨info, h⟩
    obtain ⟨hshape, h⟩ := check_bind_eq_ok.1 (catching_eq_ok.1 h)
    obtain ⟨c, hc, -⟩ := bind_eq_ok.1 h
    exact ⟨hshape, c, readModel_eq_ok.1 hc⟩
  · rintro ⟨hshape, c, hc⟩
    exact ⟨⟨.of row, c⟩, catching_eq_ok.2 (check_bind_eq_ok.2 ⟨hshape, bind_eq_ok.2
      ⟨c, readModel_eq_ok.2 hc, rfl⟩⟩)⟩

theorem bindingFromRecord_iff {row : RecordEnvelope} :
    (∃ info, bindingFromRecord row = .ok info) ↔
      requireShape row bindingType bindingKeys = .ok () ∧ ∃ c, Says row.metadata c := by
  constructor
  · rintro ⟨info, h⟩
    obtain ⟨hshape, h⟩ := check_bind_eq_ok.1 (catching_eq_ok.1 h)
    obtain ⟨c, hc, -⟩ := bind_eq_ok.1 h
    exact ⟨hshape, c, readBinding_eq_ok.1 hc⟩
  · rintro ⟨hshape, c, hc⟩
    exact ⟨⟨.of row, c⟩, catching_eq_ok.2 (check_bind_eq_ok.2 ⟨hshape, bind_eq_ok.2
      ⟨c, readBinding_eq_ok.2 hc, rfl⟩⟩)⟩

omit [PythonLibrary] in
theorem requireShape_eq_ok {row : RecordEnvelope} {recordType : String} {keys : List String} :
    requireShape row recordType keys = .ok () ↔ (row.recordType = recordType ∧ row.schemaVersion = 1) ∧
      (row.status = .active ∨ row.status = .archived) ∧ hasKeys row.metadata keys := by
  simp only [requireShape, check_bind_eq_ok, ensure_eq_ok]

omit [PythonLibrary] in
/-- Only the keys decide whether the new form of a row has the shape of its type. -/
theorem requireShape_updatedRow {row : RecordEnvelope} {recordType : String} {keys : List String}
    {provenance : RecordProvenance} {now : Text} (h : requireShape row recordType keys = .ok ())
    (hkeys : hasKeys metadata keys) :
    requireShape (updatedRow metadata provenance now row) recordType keys = .ok () := by
  obtain ⟨htype, hstatus, -⟩ := requireShape_eq_ok.1 h
  exact requireShape_eq_ok.2 ⟨htype, hstatus, hkeys⟩

variable [ModuleRules] [CaseLibrary]

/-- The reader of the row's type, if it is one of the three, reads it. -/
structure RowRead (row : RecordEnvelope) : Prop where
  runtime : row.recordType = runtimeType → ∃ info, runtimeFromRecord row = .ok info
  model : row.recordType = modelType → ∃ info, modelFromRecord row = .ok info
  binding : row.recordType = bindingType → ∃ info, bindingFromRecord row = .ok info

theorem rowRead_runtime {row : RecordEnvelope} (htype : row.recordType = runtimeType) :
    RowRead row ↔ ∃ info, runtimeFromRecord row = .ok info :=
  ⟨fun h => h.runtime htype, fun h => ⟨fun _ => h, fun ht => absurd (htype.symm.trans ht) (by decide),
    fun ht => absurd (htype.symm.trans ht) (by decide)⟩⟩

theorem rowRead_model {row : RecordEnvelope} (htype : row.recordType = modelType) :
    RowRead row ↔ ∃ info, modelFromRecord row = .ok info :=
  ⟨fun h => h.model htype, fun h => ⟨fun ht => absurd (htype.symm.trans ht) (by decide), fun _ => h,
    fun ht => absurd (htype.symm.trans ht) (by decide)⟩⟩

theorem rowRead_binding {row : RecordEnvelope} (htype : row.recordType = bindingType) :
    RowRead row ↔ ∃ info, bindingFromRecord row = .ok info :=
  ⟨fun h => h.binding htype, fun h => ⟨fun ht => absurd (htype.symm.trans ht) (by decide),
    fun ht => absurd (htype.symm.trans ht) (by decide), fun _ => h⟩⟩

/-- A readable manifest that is given the changed metadata of a readable one is readable. -/
theorem RowRead.manifest {kind : ManifestKind} {row r : RecordEnvelope} (h : RowRead row) (hr : RowRead r)
    (htype : row.recordType = kind.recordType) (hrtype : r.recordType = kind.recordType)
    (hchange : ManifestChange kind changes) (provenance : RecordProvenance) (now : Text) :
    RowRead (updatedRow (setAll r.metadata changes) provenance now row) := by
  have hnew : (updatedRow (setAll r.metadata changes) provenance now row).recordType = kind.recordType := htype
  cases kind with
  | runtime =>
    obtain ⟨hshape, -, label, hlabel⟩ := runtimeFromRecord_iff.1 (h.runtime htype)
    obtain ⟨hrshape, ⟨c, hc⟩, -⟩ := runtimeFromRecord_iff.1 (hr.runtime hrtype)
    refine (rowRead_runtime hnew).2 (runtimeFromRecord_iff.2 ⟨?_, hc.change hchange, label, hlabel⟩)
    exact requireShape_updatedRow hshape (hchange.hasKeys_runtime (requireShape_eq_ok.1 hrshape).2.2)
  | model =>
    obtain ⟨hshape, -⟩ := modelFromRecord_iff.1 (h.model htype)
    obtain ⟨hrshape, c, hc⟩ := modelFromRecord_iff.1 (hr.model hrtype)
    refine (rowRead_model hnew).2 (modelFromRecord_iff.2 ⟨?_, hc.change hchange⟩)
    exact requireShape_updatedRow hshape (hchange.hasKeys_model (requireShape_eq_ok.1 hrshape).2.2)

/-- A readable binding that is given new metadata that say what a binding says is readable. -/
theorem RowRead.altered {row : RecordEnvelope} (h : RowRead row) (htype : row.recordType = bindingType)
    (hkeys : hasKeys metadata bindingKeys) {c : BindingContent} (hsaid : Says metadata c)
    (provenance : RecordProvenance) (now : Text) : RowRead (updatedRow metadata provenance now row) := by
  obtain ⟨hshape, -⟩ := bindingFromRecord_iff.1 (h.binding htype)
  have hnew : (updatedRow metadata provenance now row).recordType = bindingType := htype
  exact (rowRead_binding hnew).2 (bindingFromRecord_iff.2 ⟨requireShape_updatedRow hshape hkeys, c, hsaid⟩)

/-- What a readable binding says. -/
theorem RowRead.bindingOf {row : RecordEnvelope} (h : RowRead row) (htype : row.recordType = bindingType) :
    hasKeys row.metadata bindingKeys ∧ ∃ c, Says row.metadata c := by
  obtain ⟨hshape, hc⟩ := bindingFromRecord_iff.1 (h.binding htype)
  exact ⟨(requireShape_eq_ok.1 hshape).2.2, hc⟩

/-! ## What is created -/

omit [PythonLibrary] [ModuleRules] [CaseLibrary] in
theorem ManifestState.candidate_ne_quarantined : ManifestState.candidate ≠ .quarantined := by decide

omit [PythonLibrary] [ModuleRules] in
/-- No two algorithms of the checksums have the same name in lower case. -/
def Call.DistinctNames : Call → Prop
  | .createModel args _ => (args.checksums.map fun entry => CaseLibrary.lower entry.1).Nodup
  | _ => True

omit [CaseLibrary] in
theorem rowRead_createRuntime {ctx : Context} {args : RuntimeArgs} {creator : Creator} {w : Write}
    (h : createRuntime ctx args creator = .ok w) :
    ∃ row draft, w = .create row draft ∧ row.recordType = runtimeType ∧
      ∃ info, runtimeFromRecord row = .ok info := by
  obtain ⟨adapterId, hadapter, h⟩ := bind_eq_ok.1 h
  obtain ⟨adapterVersion, hversion, h⟩ := bind_eq_ok.1 h
  obtain ⟨runtimeClass, hclass, h⟩ := bind_eq_ok.1 h
  obtain ⟨connection, hconnection, h⟩ := bind_eq_ok.1 h
  obtain ⟨operations, hoperations, h⟩ := bind_eq_ok.1 h
  obtain ⟨runtimeVersion, hruntimeVersion, h⟩ := bind_eq_ok.1 h
  obtain ⟨platforms, hplatforms, h⟩ := bind_eq_ok.1 h
  obtain ⟨compatibility, hcompatibility, h⟩ := bind_eq_ok.1 h
  obtain ⟨sourceReferences, hreferences, h⟩ := bind_eq_ok.1 h
  obtain ⟨label, hlabel, h⟩ := bind_eq_ok.1 h
  obtain ⟨row, draft, rfl, htype, hschema, -, hactive, hmetadata, htitle⟩ := createRecord_eq_ok h
  refine ⟨row, draft, rfl, htype, runtimeFromRecord_iff.2 ⟨requireShape_eq_ok.2 ⟨⟨htype, hschema⟩, .inl hactive, ?_⟩,
    ⟨⟨adapterId, adapterVersion, runtimeClass, connection, runtimeVersion, runtimeFingerprint adapterId adapterVersion
      runtimeClass connection operations args.offlineCapable args.cloudFallback args.automaticDownload, operations,
      args.offlineCapable, args.cloudFallback, args.automaticDownload, platforms, compatibility, sourceReferences,
      .candidate, [], none⟩, ?_⟩, label, ?_⟩⟩
  · rw [hmetadata]
    exact ⟨by simp [runtimeKeys], by simp [runtimeKeys, List.lookup]⟩
  · rw [hmetadata]
    exact {
      adapterId := token_str hadapter
      adapterVersion := token_str hversion
      runtimeClass := token_str hclass
      connectionKind := token_str hconnection
      operations := tokens_textList hoperations
      declared := fingerprint_hexDigits _
      offlineCapable := rfl
      cloudFallback := rfl
      automaticDownload := rfl
      matching := rfl
      state := stateAndReason_of_null rfl rfl ManifestState.candidate_ne_quarantined
      runtimeVersion := optional_token hruntimeVersion
      platforms := tokens_textList hplatforms
      compatibility := tokens_textList hcompatibility
      sourceReferences := references_textList hreferences
      evidence := rfl }
  · rw [htitle]
    exact text_str hlabel

/-- A model that is created can be read exactly if its algorithms have distinct names. -/
theorem createModel_read (hcase : LowersAscii) {ok : (q : StateQuery) → q.Answer → Prop} (ctx : Context)
    (args : ModelArgs) (creator : Creator) : (createModel ctx args creator).All ok fun w =>
      ∃ row draft, w = .create row draft ∧ row.recordType = modelType ∧
        ((∃ info, modelFromRecord row = .ok info) ↔ (Call.createModel args creator).DistinctNames) := by
  rw [createModel]
  refine .after _ fun runtime => .after _ fun _ => .bind (.lift fun _ h => h) fun locator hlocator =>
    .bind (.lift fun _ h => h) fun displayName hname => .bind (.lift fun _ h => h) fun exactRevision hrevision =>
    .bind (.lift fun _ h => h) fun checksums hchecksums => .bind (.lift fun _ h => h) fun references hreferences => ?_
  refine .bind (.lift fun _ h => h) fun licenseId hlicense => .bind (.lift fun _ h => h) fun modelFormat hformat =>
    .bind (.lift fun _ h => h) fun sizeBytes hsize => .bind (.lift fun _ h => h) fun contextLimit hlimit =>
    .bind (.lift fun _ h => h) fun capabilities hcapabilities => .bind (.lift fun _ h => h) fun platforms hplatforms =>
    .bind (.lift fun _ h => h) fun compatibility hcompatibility => .lift fun w h => ?_
  obtain ⟨row, draft, rfl, htype, hschema, -, hactive, hmetadata, -⟩ := createRecord_eq_ok h
  obtain ⟨hiff, hsame⟩ := checksumPayload_iff hcase hchecksums
  refine ⟨row, draft, rfl, htype, modelFromRecord_iff.trans ⟨?_, fun hdistinct => ⟨requireShape_eq_ok.2
    ⟨⟨htype, hschema⟩, .inl hactive, ?_⟩, ?_⟩⟩⟩
  · rintro ⟨-, c, hc⟩
    refine hiff.1 ⟨c.checksums, ?_⟩
    have hread := hc.checksums
    rw [hmetadata] at hread
    exact hread
  · rw [hmetadata]
    exact ⟨by simp [modelKeys], by simp [modelKeys, List.lookup]⟩
  · obtain ⟨stored, hstored⟩ := hiff.2 hdistinct
    obtain rfl := hsame stored hstored
    rw [hmetadata]
    refine ⟨⟨runtime.envelope.id, locator, displayName, exactRevision, stored, references, licenseId, .unreviewed,
      modelFormat, sizeBytes, contextLimit, capabilities, platforms, compatibility, .candidate, [], none⟩, ?_⟩
    exact {
      state := stateAndReason_of_null rfl rfl ManifestState.candidate_ne_quarantined
      runtimeManifestId := identifier_eq_ok.2 rfl
      runtimePrivateLocator := locator_str hlocator
      displayName := text_str hname
      exactRevision := text_str hrevision
      checksums := hstored
      sourceReferences := references_textList hreferences
      licenseId := token_str hlicense
      licenseReviewState := rfl
      modelFormat := token_str hformat
      sizeBytes := optional_positiveInt hsize
      contextLimit := optional_positiveInt hlimit
      capabilities := tokens_textList hcapabilities
      platforms := tokens_textList hplatforms
      compatibility := tokens_textList hcompatibility
      evidence := rfl }

/-! ## What calls write -/

/-- What a call writes of a manifest can be read, unless it creates a model with two names alike. -/
def Restates (ok : (q : StateQuery) → q.Answer → Prop) (call : Call) : Write → Prop
  | .create row _ => row.recordType = bindingType ∧ call.DistinctNames ∨
      row.recordType ≠ bindingType ∧ (RowRead row ↔ call.DistinctNames)
  | .update id _ metadata _ _ _ => call.DistinctNames ∧ ∃ r recordType, SeenAs ok recordType id r ∧
      (recordType = bindingType ∨ ∃ kind changes, recordType = ManifestKind.recordType kind ∧
        ManifestChange kind changes ∧ metadata = setAll r.metadata changes)
  | _ => call.DistinctNames

section

variable {ok : (q : StateQuery) → q.Answer → Prop} (hok : ∀ id r, ok (.record id) (some r) → r.id = id)

include hok in
theorem restates_of_change {ctx : Context} {call : Call} (hcall : call.DistinctNames) (kind : ManifestKind)
    {recordId : Text} {expectedRevision : Int} {r : RecordEnvelope} {provenance : RecordProvenance}
    {caller : Caller} {action : String} (hchange : ManifestChange kind changes)
    (h : ∃ id, recordId = uuidText id ∧ SeenAs ok kind.recordType id r) :
    (prepareUpdate ctx recordId expectedRevision (setAll r.metadata changes) provenance caller action).All ok
      (Restates ok call) := by
  obtain ⟨id, rfl, hseen⟩ := h
  refine .after _ fun _ => .bind (getRecordText_all_id (uuidText id)) fun record hrecord => .pure ?_
  obtain ⟨id', hid', hseen'⟩ := hrecord
  obtain rfl := uuidText_injective hid'
  exact ⟨hcall, r, _, hok id record hseen' ▸ hseen, .inr ⟨kind, changes, rfl, hchange, rfl⟩⟩

include hok in
theorem restates_of_altered {ctx : Context} {call : Call} (hcall : call.DistinctNames) {recordId : Text}
    {expectedRevision : Int} {provenance : RecordProvenance} {caller : Caller} {action : String} :
    (do
      let record ← requireRecord recordId bindingType
      prepareUpdate ctx recordId expectedRevision (setAll record.metadata changes) provenance caller
        action : Reader Write).All ok (Restates ok call) := by
  refine .bind (requireRecord_all recordId bindingType) fun r hr => ?_
  obtain ⟨id, rfl, hseen⟩ := hr
  refine .after _ fun _ => .bind (getRecordText_all_id (uuidText id)) fun record hrecord => .pure ?_
  obtain ⟨id', hid', hseen'⟩ := hrecord
  obtain rfl := uuidText_injective hid'
  exact ⟨hcall, r, _, hok id record hseen' ▸ hseen, .inl rfl⟩

omit [ModuleRules] [CaseLibrary] in
theorem evidenceIds_all (values : List Text) :
    (evidenceIds values).All ok fun ids => identifiers "evidence IDs" (values.map .str) = .ok ids :=
  .bind (.lift fun _ h => h) fun _ hids => .after _ fun _ => .pure hids

include hok in
theorem setManifestInactive_restates {ctx : Context} {call : Call} (hcall : call.DistinctNames) (kind : ManifestKind)
    {manifestId : Text} {expectedRevision : Int} {state : ManifestState} (hstate : state ≠ .quarantined)
    {caller : Caller} :
    (setManifestInactive ctx kind manifestId expectedRevision state caller).All ok (Restates ok call) :=
  .bind (requireRecord_all manifestId kind.recordType) fun _ hr => .after _ fun _ =>
    restates_of_change hok hcall kind (.inactive hstate) hr

variable [DigestLibrary]

include hok in
theorem Call.prepare_restates (hcase : LowersAscii) (ctx : Context) (call : Call) :
    (Call.prepare (ctx, call)).All ok (Restates ok call) := by
  cases call with
  | createRuntime args creator =>
    refine .lift fun w h => ?_
    obtain ⟨row, draft, rfl, htype, hread⟩ := rowRead_createRuntime h
    exact .inr ⟨htype ▸ by decide, iff_of_true ((rowRead_runtime htype).2 hread) trivial⟩
  | createModel args creator =>
    refine .mono (fun _ _ h => h) (fun w h => ?_) (createModel_read hcase ctx args creator)
    obtain ⟨row, draft, rfl, htype, hiff⟩ := h
    exact .inr ⟨htype ▸ by decide, (rowRead_model htype).trans hiff⟩
  | createBinding =>
    refine .after _ fun _ => .after _ fun _ => .after _ fun _ => .after _ fun _ => .after _ fun _ =>
      .lift fun w h => ?_
    obtain ⟨row, draft, rfl, htype, -⟩ := createRecord_eq_ok h
    exact .inl ⟨htype, trivial⟩
  | verifyRuntime =>
    refine .after _ fun _ => .after _ fun _ => .after _ fun _ => .after _ fun _ => ?_
    exact .bind (requireRecord_all _ runtimeType) fun _ hr => .bind (evidenceIds_all _) fun _ hevidence =>
      restates_of_change hok (by exact trivial) .runtime (.verified hevidence) hr
  | reviewModelLicense =>
    refine .after _ fun _ => .after _ fun _ => .after _ fun _ => .after _ fun _ => ?_
    exact .bind (requireRecord_all _ modelType) fun _ hr =>
      restates_of_change hok (by exact trivial) .model (.reviewed rfl) hr
  | verifyModel =>
    refine .after _ fun _ => .after _ fun _ => .after _ fun _ => .after _ fun _ => .after _ fun _ =>
      .after _ fun _ => .after _ fun _ => ?_
    exact .bind (requireRecord_all _ modelType) fun _ hr => .bind (evidenceIds_all _) fun _ hevidence =>
      restates_of_change hok (by exact trivial) .model (.verified hevidence) hr
  | quarantine kind =>
    refine .after _ fun _ => .bind (requireRecord_all _ kind.recordType) fun _ hr => .after _ fun _ => ?_
    exact .bind (.lift fun _ h => h) fun _ hreason =>
      restates_of_change hok (by exact trivial) kind (.quarantined hreason) hr
  | deprecateManifest kind =>
    exact .after _ fun _ => setManifestInactive_restates hok (by exact trivial) kind (by decide)
  | markUnavailable kind =>
    exact .after _ fun _ => setManifestInactive_restates hok (by exact trivial) kind (by decide)
  | setSmokeTest => exact .after _ fun _ => restates_of_altered hok (by exact trivial)
  | activateBinding =>
    exact .after _ fun _ => .after _ fun _ => .after _ fun _ => .after _ fun _ => .after _ fun _ =>
      .after _ fun _ => .after _ fun _ => .after _ fun _ => .pure trivial
  | setFallback =>
    exact .after _ fun _ => .after _ fun _ => .after _ fun _ => .after _ fun _ => .after _ fun _ =>
      .after _ fun _ => restates_of_altered hok (by exact trivial)
  | disableBinding =>
    exact .after _ fun _ => .after _ fun _ => .after _ fun _ => restates_of_altered hok (by exact trivial)
  | rollbackBinding =>
    exact .after _ fun _ => .after _ fun _ => .after _ fun _ => .after _ fun _ => .after _ fun _ =>
      .after _ fun _ => .after _ fun _ => .after _ fun _ => .after _ fun _ => .pure trivial

end

/-! ## What transactions keep -/

/-- Every record of the three types can be read. -/
def Readable (db : Database) : Prop := ∀ id row, db.find? id = some row → RowRead row

omit [PythonLibrary] [ModuleRules] [CaseLibrary] in
def Positive (db : Database) : Prop := ∀ id row, db.find? id = some row → 1 ≤ row.revision

theorem Rewrote.readable {db db' : Database} {id : RecordId} {row : RecordEnvelope}
    (h : Rewrote db id row metadata db') (hdb : Readable db)
    (hnew : ∀ provenance now, RowRead (updatedRow metadata provenance now row)) : Readable db' := by
  obtain ⟨provenance, now, hfind⟩ := h.find?
  intro id' r hr
  rw [hfind] at hr
  split at hr
  · cases hr
    exact hnew provenance now
  · exact hdb id' r hr

omit [PythonLibrary] [ModuleRules] [CaseLibrary] in
theorem Rewrote.positive {db db' : Database} {id : RecordId} {row : RecordEnvelope}
    (h : Rewrote db id row metadata db') (hdb : Positive db) : Positive db' := by
  obtain ⟨provenance, now, hfind⟩ := h.find?
  intro id' r hr
  rw [hfind] at hr
  split at hr
  · cases hr
    exact (hdb id row h.found).trans (Int.le_add_one le_rfl)
  · exact hdb id' r hr

omit [PythonLibrary] [ModuleRules] [CaseLibrary] in
theorem Demoted.positive {currentActive : Option RecordId} {db db' : Database}
    (h : Demoted currentActive db db') (hdb : Positive db) : Positive db' := by
  cases currentActive with
  | none =>
    obtain rfl : db' = db := h
    exact hdb
  | some previousId =>
    obtain ⟨previous, h⟩ := h
    exact h.positive hdb

theorem Demoted.readable {currentActive : Option RecordId} {db db' : Database} (h : Demoted currentActive db db')
    (hcurrent : ∀ previousId ∈ currentActive, ∃ r, db.find? previousId = some r ∧ r.recordType = bindingType)
    (hdb : Readable db) : Readable db' := by
  cases currentActive with
  | none =>
    obtain rfl : db' = db := h
    exact hdb
  | some previousId =>
    obtain ⟨previous, h⟩ := h
    obtain ⟨r, hr, htype⟩ := hcurrent previousId rfl
    obtain rfl : previous = r := Option.some.inj (h.found.symm.trans hr)
    have hread := hdb previousId previous hr
    obtain ⟨hkeys, c, hc⟩ := hread.bindingOf htype
    exact h.readable hdb fun provenance now =>
      hread.altered htype (hasKeys_setAll hkeys demotion_keys) hc.demotion provenance now

omit [ModuleRules] [CaseLibrary] in
theorem Alters.bindingOf {call : Call} {id : RecordId} (h : Alters call id changes)
    (hkeys : hasKeys metadata bindingKeys) {c : BindingContent} (hc : Says metadata c) :
    hasKeys (setAll metadata changes) bindingKeys ∧ ∃ c', Says (setAll metadata changes) c' := by
  cases h with
  | smokeTest => exact ⟨hasKeys_setAll hkeys (smokeTested_keys _), _, hc.smokeTested _⟩
  | fallback h => exact ⟨hasKeys_setAll hkeys (fallback_keys _), _, hc.fallback h⟩
  | disabled => exact ⟨hasKeys_setAll hkeys disabling_keys, _, hc.disabling⟩

/-- What a row that was read says of a binding that is created with it. -/
theorem rowRead_of_isBinding {row : RecordEnvelope} {c : BindingContent} (h : IsBinding row c) : RowRead row :=
  (rowRead_binding h.recordType).2 ⟨_, h.read⟩

omit [PythonLibrary] [ModuleRules] [CaseLibrary] in
theorem ManifestKind.recordType_ne (kind : ManifestKind) : kind.recordType ≠ bindingType := by
  cases kind <;> decide

omit [PythonLibrary] [ModuleRules] [CaseLibrary] in
theorem ManifestKind.recordType_inj {kind kind' : ManifestKind} (h : kind.recordType = kind'.recordType) :
    kind = kind' := by
  cases kind <;> cases kind' <;> first | rfl | exact absurd h (by decide)

variable [DigestLibrary]

/-- A transaction keeps the records readable exactly if it does not create a model with two names
alike. -/
theorem readable_iff_of_runsOver (hcase : LowersAscii) {ctx : Context} {call : Call} {ss : List Database} {w : Write}
    {db db' : Database} (hss : ∀ t ∈ ss, (Readable t ∧ Positive t) ∧ KeepsTypes t db)
    (hdb : Readable db ∧ Positive db)
    (hruns : ReadProgram.RunsOver Database.answer (Call.prepare (ctx, call)) ss (.ok w))
    (h : w.commit db = .ok db') : (Readable db' ↔ call.DistinctNames) ∧ Positive db' := by
  obtain ⟨hread, hpositive⟩ := hdb
  have hall : (Call.prepare (ctx, call)).All (fun q a => ∃ s ∈ ss, a = s.answer q)
      (Restates (fun q a => ∃ s ∈ ss, a = s.answer q) call) := by
    refine Call.prepare_restates (fun id r hr => ?_) hcase ctx call
    obtain ⟨s, -, hs⟩ := hr
    exact Database.id_of_find? hs.symm
  have hrestates := hall.runsOver hruns fun s hs q => ⟨s, hs, rfl⟩
  have hseen : ∀ id r, SeenIn ss id r → RowRead r ∧ 1 ≤ r.revision := by
    rintro id r ⟨s, hs, hr⟩
    exact ⟨(hss s hs).1.1 id r hr, (hss s hs).1.2 id r hr⟩
  cases committed_of_runsOver (fun t ht => (hss t ht).2) hruns h with
  | @created row draft hfree hwrites hrevision hbinding =>
    have hfound : db'.find? row.id = some row := by rw [hwrites, if_pos rfl]
    have hold : ∀ id r, db'.find? id = some r → r = row ∨ db.find? id = some r := by
      intro id r hr
      rw [hwrites] at hr
      split at hr
      · exact .inl (Option.some.inj hr).symm
      · exact .inr hr
    have hiff : Readable db' ↔ RowRead row := by
      refine ⟨fun hdb' => hdb' row.id row hfound, fun hrow id r hr => ?_⟩
      rcases hold id r hr with rfl | hr
      · exact hrow
      · exact hread id r hr
    refine ⟨hiff.trans ?_, fun id r hr => ?_⟩
    · rcases hrestates with ⟨htype, hdistinct⟩ | ⟨-, hrow⟩
      · obtain ⟨runtimeId, modelId, runtime, model, hruntime, hmodel, hcandidate⟩ := hbinding htype
        obtain ⟨c, -, hc⟩ := hcandidate (hseen _ _ hruntime).2 (hseen _ _ hmodel).2
        exact iff_of_true (rowRead_of_isBinding hc) hdistinct
      · exact hrow
    · rcases hold id r hr with rfl | hr
      · exact hrevision.ge
      · exact hpositive id r hr
  | @manifest id _ metadata _ _ _ row kind htype hrewrote =>
    refine ⟨iff_of_true (hrewrote.readable hread fun provenance now => ?_) hrestates.1, hrewrote.positive hpositive⟩
    obtain ⟨r, recordType, ⟨⟨s, hs, hr⟩, hrtype⟩, hchange⟩ := hrestates.2
    -- the row that is changed still has the type of the one that was read
    obtain ⟨row', hrow', htype'⟩ := (hss s hs).2 id r hr.symm
    obtain rfl : row = row' := Option.some.inj (hrewrote.found.symm.trans hrow')
    rcases hchange with hbinding | ⟨kind', changes, hkind, hchange, rfl⟩
    · exact absurd (htype.symm.trans (htype'.trans (hrtype.trans hbinding))) kind.recordType_ne
    · obtain rfl := ManifestKind.recordType_inj (htype.symm.trans (htype'.trans (hrtype.trans hkind)))
      exact (hread id row hrewrote.found).manifest (hseen id r ⟨s, hs, hr.symm⟩).1 htype (hrtype.trans hkind) hchange
        provenance now
  | @binding id _ changes _ _ _ r row hr htype hrow hchange hrewrote =>
    obtain ⟨hkeys, c, hc⟩ := (hseen id r hr).1.bindingOf htype
    obtain ⟨hkeys', c', hc'⟩ := hchange.bindingOf hkeys hc
    exact ⟨iff_of_true (hrewrote.readable hread fun provenance now =>
      (hread id row hrewrote.found).altered hrow hkeys' hc' provenance now) hrestates.1, hrewrote.positive hpositive⟩
  | @activated id _ _ _ _ runtimeId modelId runtime model row _ _ _ db₁ _ hruntime hmodel hevidence hcurrent hfound
      htype hdemoted hrewrote =>
    obtain ⟨hkeys, c, hc⟩ := (hread id row hfound).bindingOf htype
    have hpromoted := @Says.promotion _ _ _ _ _ ctx.activatedAt _ _ ‹_› hc (hseen _ _ hruntime).2 (hseen _ _ hmodel).2
      ctx.activatedAt_ok hevidence
    exact ⟨iff_of_true (hrewrote.readable (hdemoted.readable hcurrent hread) fun provenance now =>
      (hread id row hfound).altered htype (hasKeys_setAll hkeys (promotion_keys _ _ _ _ _)) hpromoted provenance now)
      hrestates, hrewrote.positive (hdemoted.positive hpositive)⟩
  | @rolledBack id previousId _ _ _ _ _ _ row previous db₁ _ hreason htype hfound hprevious hrewrote hrestored =>
    obtain ⟨hkeys, c, hc⟩ := (hread id row hrewrote.found).bindingOf htype
    obtain ⟨hkeys', c', hc'⟩ := (hread previousId previous hfound).bindingOf hprevious
    have hdb₁ := hrewrote.readable hread fun provenance now =>
      (hread id row hrewrote.found).altered htype (hasKeys_setAll hkeys (withdrawal_keys _ _)) (hc.withdrawal hreason)
        provenance now
    exact ⟨iff_of_true (hrestored.readable hdb₁ fun provenance now =>
      (hread previousId previous hfound).altered hprevious (hasKeys_setAll hkeys' (restoration_keys _))
        (hc'.restoration ctx.activatedAt_ok) provenance now) hrestates,
      hrestored.positive (hrewrote.positive hpositive)⟩

/-! ## Getting and listing -/

omit [PythonLibrary] [ModuleRules] [CaseLibrary] [DigestLibrary] in
def maxListLimit : Int := 500

/-- The loop of `_list`, which stops when it has as many records as it may. -/
def listLoop {α : Type} (parse : RecordEnvelope → Result α) (includeArchived : Bool) :
    List RecordId → Int → Reader (List α)
  | [], _ => return []
  | id :: ids, remaining => do
    let record ← getRecord id
    if includeArchived = false ∧ record.status ≠ .active then listLoop parse includeArchived ids remaining
    else
      let item ← parse record
      if remaining ≤ 1 then return [item]
      else
        let items ← listLoop parse includeArchived ids (remaining - 1)
        return item :: items

/-- `_list`. -/
def listOf {α : Type} (recordType : String) (parse : RecordEnvelope → Result α) (includeArchived : Bool)
    (limit : Int) : Reader (List α) := do
  ensure (1 ≤ limit ∧ limit ≤ maxListLimit) (invalid "manifest list limit is invalid")
  let ids ← ReadProgram.read (StateQuery.createdIds recordType)
  listLoop parse includeArchived ids limit

/-- `list_runtimes`. -/
def listRuntimes : Bool → Int → Reader (List RuntimeManifestInfo) := listOf runtimeType runtimeFromRecord

/-- `list_models`. -/
def listModels : Bool → Int → Reader (List ModelManifestInfo) := listOf modelType modelFromRecord

/-- `list_bindings`. -/
def listBindings : Bool → Int → Reader (List ModelBindingInfo) := listOf bindingType bindingFromRecord

omit [PythonLibrary] [ModuleRules] [CaseLibrary] [DigestLibrary] in
theorem listLoop_on {α : Type} {parse : RecordEnvelope → Result α} {includeArchived : Bool} {db : Database}
    {ids : List RecordId} (h : ∀ id ∈ ids, ∃ row, db.find? id = some row ∧ ∃ a, parse row = .ok a) :
    ∀ remaining, ∃ items, (listLoop parse includeArchived ids remaining).on db = .ok items := by
  induction ids with
  | nil => exact fun _ => ⟨[], rfl⟩
  | cons id ids ih =>
    obtain ⟨⟨row, hrow, item, hitem⟩, hrest⟩ := List.forall_mem_cons.1 h
    intro remaining
    have hget : (getRecord id).run db.answer = .ok row := Database.getRecord_eq_ok.2 hrow
    rw [listLoop, Reader.on, ReadProgram.run_bind, hget, ok_bind]
    split
    · exact ih hrest remaining
    · rw [ReadProgram.run_bind, ReadProgram.run_lift, hitem, ok_bind]
      split
      · exact ⟨[item], rfl⟩
      · obtain ⟨items, hitems⟩ := ih hrest (remaining - 1)
        refine ⟨item :: items, ?_⟩
        rw [Reader.on] at hitems
        rw [ReadProgram.run_bind, hitems]
        rfl

omit [PythonLibrary] [ModuleRules] [CaseLibrary] [DigestLibrary] in
theorem listOf_on {α : Type} {recordType : String} {parse : RecordEnvelope → Result α} {db : Database}
    (h : ∀ id row, db.find? id = some row → row.recordType = recordType → ∃ a, parse row = .ok a)
    {includeArchived : Bool} {limit : Int} (hlimit : 1 ≤ limit ∧ limit ≤ maxListLimit) :
    ∃ items, (listOf recordType parse includeArchived limit).on db = .ok items := by
  obtain ⟨ids, hids⟩ : ∃ ids : List RecordId, ids = db.answer (.createdIds recordType) := ⟨_, rfl⟩
  have hrows : ∀ id ∈ ids, ∃ row, db.find? id = some row ∧ ∃ a, parse row = .ok a := by
    intro id hid
    rw [hids] at hid
    obtain ⟨row, hmem, rfl⟩ := List.mem_map.1 hid
    obtain ⟨hmem, htype⟩ := List.mem_filter.1 ((List.mem_insertionSort _).1 hmem)
    have hfind := Database.mem_iff_find?.1 hmem
    exact ⟨row, hfind, h row.id row hfind (of_decide_eq_true htype)⟩
  obtain ⟨items, hitems⟩ : ∃ items, (listLoop parse includeArchived ids limit).on db = .ok items :=
    listLoop_on hrows limit
  refine ⟨items, ?_⟩
  rw [listOf, Reader.on, ReadProgram.run_bind, ReadProgram.run_lift, ensure_of hlimit, ok_bind,
    ReadProgram.run_bind, ReadProgram.run_read, ok_bind, ← hids]
  exact hitems

/-- Every get and every list over the three types succeeds. -/
structure Succeeds (db : Database) : Prop where
  getRuntime : ∀ id row, db.find? id = some row → row.recordType = runtimeType →
    ∃ info, (getRuntime (uuidText id)).on db = .ok info
  getModel : ∀ id row, db.find? id = some row → row.recordType = modelType →
    ∃ info, (getModel (uuidText id)).on db = .ok info
  getBinding : ∀ id row, db.find? id = some row → row.recordType = bindingType →
    ∃ info, (getBinding (uuidText id)).on db = .ok info
  listRuntimes : ∀ includeArchived limit, 1 ≤ limit ∧ limit ≤ maxListLimit →
    ∃ infos, (listRuntimes includeArchived limit).on db = .ok infos
  listModels : ∀ includeArchived limit, 1 ≤ limit ∧ limit ≤ maxListLimit →
    ∃ infos, (listModels includeArchived limit).on db = .ok infos
  listBindings : ∀ includeArchived limit, 1 ≤ limit ∧ limit ≤ maxListLimit →
    ∃ infos, (listBindings includeArchived limit).on db = .ok infos

omit [ModuleRules] [CaseLibrary] [DigestLibrary] in
/-- To get a record is to parse its row. -/
theorem parse_on {α : Type} {recordType : String} {parse : RecordEnvelope → Result α} {db : Database}
    {id : RecordId} {row : RecordEnvelope} (hrow : db.find? id = some row) (htype : row.recordType = recordType) :
    (∃ info, Reader.on (do
      let record ← requireRecord (uuidText id) recordType
      parse record : Reader α) db = .ok info) ↔ ∃ info, parse row = .ok info := by
  have hrequire : (requireRecord (uuidText id) recordType).run db.answer = .ok row :=
    requireRecord_on.2 ⟨hrow, htype⟩
  rw [Reader.on, ReadProgram.run_bind, hrequire, ok_bind, ReadProgram.run_lift]

omit [DigestLibrary] in
theorem readable_iff_succeeds {db : Database} : Readable db ↔ Succeeds db := by
  constructor
  · intro h
    exact {
      getRuntime := fun id row hrow htype => (parse_on hrow htype).2 ((h id row hrow).runtime htype)
      getModel := fun id row hrow htype => (parse_on hrow htype).2 ((h id row hrow).model htype)
      getBinding := fun id row hrow htype => (parse_on hrow htype).2 ((h id row hrow).binding htype)
      listRuntimes := fun _ _ => listOf_on fun id row hrow htype => (h id row hrow).runtime htype
      listModels := fun _ _ => listOf_on fun id row hrow htype => (h id row hrow).model htype
      listBindings := fun _ _ => listOf_on fun id row hrow htype => (h id row hrow).binding htype }
  · intro h id row hrow
    exact ⟨fun htype => (parse_on hrow htype).1 (h.getRuntime id row hrow htype),
      fun htype => (parse_on hrow htype).1 (h.getModel id row hrow htype),
      fun htype => (parse_on hrow htype).1 (h.getBinding id row hrow htype)⟩

/-! ## Runs -/

variable {ι : Type}

/-- If the step commits a model, its algorithms have distinct names. -/
def DistinctNames (t : Taken (ModelWorld ι) (ι × ModelAction)) : Prop :=
  ∀ i ctx call w, t.label = (i, .commit (ctx, call) w) → call.DistinctNames

variable [DecidableEq ι]

theorem ModelStep.readable_iff (hcase : LowersAscii) {W W' : ModelWorld ι} {l : ι × ModelAction}
    (hinformed : Clients.Informed Database.answer Call.prepare (fun db => Readable db ∧ Positive db) KeepsTypes W)
    (hs : ModelStep W l W') : Readable W'.shared ↔ DistinctNames ⟨W, l, W'⟩ := by
  by_cases hcommit : ∃ i ctx call w, l = (i, .commit (ctx, call) w)
  · obtain ⟨i, ctx, call, w, rfl⟩ := hcommit
    obtain ⟨hclient, hcommit⟩ := hs.of_commit
    obtain ⟨ss, hss, hruns⟩ := hinformed.of_commit hclient
    rw [(readable_iff_of_runsOver hcase hss hinformed.invariant hruns hcommit).1]
    constructor
    · rintro hdistinct _ _ _ _ ⟨⟩
      exact hdistinct
    · exact fun hdistinct => hdistinct i ctx call w rfl
  · rw [hs.shared_eq fun i call w hl => hcommit ⟨i, call.1, call.2, w, hl⟩]
    exact iff_of_true hinformed.invariant.1 fun i ctx call w hl => absurd ⟨i, ctx, call, w, hl⟩ hcommit

/-- A step to a readable state leaves the clients informed. -/
theorem ModelStep.informed_of_readable (hcase : LowersAscii) {W W' : ModelWorld ι} {l : ι × ModelAction}
    (hinformed : Clients.Informed Database.answer Call.prepare (fun db => Readable db ∧ Positive db) KeepsTypes W)
    (hs : ModelStep W l W') (hreadable : Readable W'.shared) :
    Clients.Informed Database.answer Call.prepare (fun db => Readable db ∧ Positive db) KeepsTypes W' := by
  refine hinformed.step_of_commit KeepsTypes.refl (fun h h' => h.trans h') ?_ hs
  rintro i ⟨ctx, call⟩ w ss - hss hruns hcommit
  exact ⟨⟨hreadable, (readable_iff_of_runsOver hcase hss hinformed.invariant hruns hcommit).2⟩,
    (committed_of_runsOver (fun t ht => (hss t ht).2) hruns hcommit).keepsTypes⟩

/-- In every run, every get and every list succeeds in every state exactly if no model is created whose
checksums name an algorithm twice in different letter case. -/
theorem succeeds_iff_distinctNames (hcase : LowersAscii) {W₀ W : ModelWorld ι} {tr : ModelTrace ι}
    (hsucceeds : Succeeds W₀.shared) (hpositive : Positive W₀.shared) (hidle : ∀ i, W₀.client i = .idle)
    (h : Run ModelStep W₀ tr W) :
    (∀ t ∈ tr, Succeeds t.post.shared) ↔ ∀ t ∈ tr, DistinctNames t := by
  have hreadable := readable_iff_succeeds.2 hsucceeds
  have hstart : Clients.Informed Database.answer Call.prepare (fun db => Readable db ∧ Positive db) KeepsTypes W₀ :=
    ⟨⟨hreadable, hpositive⟩, fun i call p hp => by
      rw [hidle i] at hp
      cases hp⟩
  rw [← h.forall_post_iff (P := fun W => Readable W.shared) hstart hreadable
    (fun W l W' hI _ hs hpost => ModelStep.informed_of_readable hcase hI hs hpost)
    (fun W l W' hI _ hs => ModelStep.readable_iff hcase hI hs)]
  exact forall₂_congr fun t _ => readable_iff_succeeds.symm

end

section Runs

attribute [local instance] asciiLibrary asciiCase acceptingRules zeroDigest

theorem lowersAscii_asciiCase : LowersAscii := ⟨fun _ _ => rfl⟩

/-- The user creates a model with two checksums, named `sha256` and `SHA256`. -/
def twiceNamed : Context × Call := (context 0, .createModel
  { runtimeManifestId := uuidText 100, runtimePrivateLocator := "model".toList, displayName := "Model".toList,
    exactRevision := "1".toList,
    checksums := [("sha256".toList, List.replicate 16 '0'), ("SHA256".toList, List.replicate 16 '1')],
    licenseId := "free".toList, modelFormat := "gguf".toList, sizeBytes := none, contextLimit := none,
    capabilities := [], platforms := [], compatibility := [], sourceReferences := [] }
  { byUser with sensitivity := .personal })

/-- The call commits, and its model is not read. -/
def unreadableModel : Result (Write × Database) := do
  let write ← (Call.prepare twiceNamed).on candidateDatabase
  let created ← write.commit candidateDatabase
  ensure (∃ r ∈ created.find? 1, r.recordType = modelType ∧ ((getModel (uuidText 1)).on created).isOk = false)
    (.noRecord [])
  return (write, created)

theorem unreadableModel_isOk : unreadableModel.isOk = true := by decide +kernel

theorem candidateDatabase_succeeds : Succeeds candidateDatabase := by
  refine readable_iff_succeeds.1 fun id row hr => ?_
  rcases mem_candidateDatabase hr with rfl | rfl | rfl
  · exact (rowRead_runtime rfl).2 (exists_of_isOk (by decide +kernel))
  · exact (rowRead_model rfl).2 (exists_of_isOk (by decide +kernel))
  · exact (rowRead_binding rfl).2 (exists_of_isOk (by decide +kernel))

theorem unreadableRun : ∃ (W : ModelWorld Bool) (tr : ModelTrace Bool),
    Run ModelStep candidateWorld tr W ∧ ¬ ∀ t ∈ tr, Succeeds t.post.shared := by
  obtain ⟨_, h⟩ := exists_of_isOk unreadableModel_isOk
  obtain ⟨write, hwrite, h⟩ := bind_eq_ok.1 h
  obtain ⟨created, hcreated, h⟩ := bind_eq_ok.1 h
  obtain ⟨⟨r, hr, htype, hunread⟩, -⟩ := (check_bind_eq_ok.1 h).imp_left ensure_eq_ok.1
  obtain ⟨tr, hrun⟩ := Clients.exists_prepared Database.answer Call.prepare Write.commit
    (W := candidateWorld) (i := false) rfl hwrite
  refine ⟨_, _, hrun.next (.commit (i := false) rfl hcreated), fun hall => ?_⟩
  have hsucceeds : Succeeds created := hall _ (List.mem_append_right _ (List.mem_singleton.2 rfl))
  obtain ⟨info, hinfo⟩ := hsucceeds.getModel 1 r hr htype
  rw [hinfo] at hunread
  cases hunread

/-- The rule applies to that run. -/
theorem succeeds_iff_distinctNames_unreadableRun : ∃ (W : ModelWorld Bool) (tr : ModelTrace Bool),
    Run ModelStep candidateWorld tr W ∧
      ((∀ t ∈ tr, Succeeds t.post.shared) ↔ ∀ t ∈ tr, DistinctNames t) := by
  obtain ⟨W, tr, h, -⟩ := unreadableRun
  exact ⟨W, tr, h, succeeds_iff_distinctNames lowersAscii_asciiCase candidateDatabase_succeeds
    (fun _ _ hr => candidateDatabase_sound.revision _ _ hr) (fun _ => rfl) h⟩

theorem not_succeeds :
    ¬ ∀ (W₀ W : ModelWorld Bool) (tr : ModelTrace Bool), Succeeds W₀.shared → Positive W₀.shared →
      (∀ i, W₀.client i = .idle) → Run ModelStep W₀ tr W → ∀ t ∈ tr, Succeeds t.post.shared := by
  intro hall
  obtain ⟨W, tr, h, hfalse⟩ := unreadableRun
  exact hfalse (hall candidateWorld W tr candidateDatabase_succeeds
    (fun _ _ hr => candidateDatabase_sound.revision _ _ hr) (fun _ => rfl) h)

end Runs

end DollState.Model
