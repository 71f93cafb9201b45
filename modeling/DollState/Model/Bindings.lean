import DollState.Model.Calls

/-!
# What a binding says

`Says` is what the reader of a binding has checked, one field a check. A change that sets some of
the fields leaves what the others say alone, so a binding that was readable before stays readable.
-/

namespace DollState.Model

open StateLib

/-! ## The keys that the changes set -/

section

attribute [local simp] bindingKeys

theorem demotion_keys : ∀ change ∈ demotion, change.1 ∈ bindingKeys := by simp [demotion]

theorem promotion_keys (runtimeRevision modelRevision : Int) (activatedAt : Text)
    (evidence : List RecordId) (previousId : Option RecordId) :
    ∀ change ∈ promotion runtimeRevision modelRevision activatedAt evidence previousId,
      change.1 ∈ bindingKeys := by simp [promotion]

theorem restoration_keys (activatedAt : Text) :
    ∀ change ∈ restoration activatedAt, change.1 ∈ bindingKeys := by simp [restoration]

theorem withdrawal_keys (previousId : RecordId) (reason : Text) :
    ∀ change ∈ withdrawal previousId reason, change.1 ∈ bindingKeys := by simp [withdrawal]

theorem smokeTested_keys (status : SmokeTestStatus) :
    ∀ change ∈ smokeTested status, change.1 ∈ bindingKeys := by simp [smokeTested]

theorem fallback_keys (priority : Int) : ∀ change ∈ fallback priority, change.1 ∈ bindingKeys := by
  simp [fallback]

theorem disabling_keys : ∀ change ∈ disabling, change.1 ∈ bindingKeys := by simp [disabling]

end

variable [PythonLibrary]

/-- The metadata says the content of a binding. -/
structure Says (metadata : Metadata) (c : BindingContent) : Prop where
  scopeType : token "scope type" (metadata.get "scope_type") = .ok c.scopeType
  scopeKey : scopeKey (metadata.get "scope_key") = .ok c.scopeKey
  runtimeManifestId :
    identifier "runtime manifest ID" (metadata.get "runtime_manifest_id") = .ok c.runtimeManifestId
  runtimeManifestRevision : positiveInt "runtime manifest revision"
    (metadata.get "runtime_manifest_revision") = .ok c.runtimeManifestRevision
  modelManifestId :
    identifier "model manifest ID" (metadata.get "model_manifest_id") = .ok c.modelManifestId
  modelManifestRevision : positiveInt "model manifest revision"
    (metadata.get "model_manifest_revision") = .ok c.modelManifestRevision
  state : bindingState (metadata.get "binding_state") = .ok c.bindingState
  activatedAt : optional timestamp (metadata.get "activated_at") = .ok c.activatedAt
  evidence : (do
    identifiers "activation evidence IDs" (← list (metadata.get "activation_evidence_ids"))) =
      .ok c.activationEvidenceIds
  previous : optional (identifier "previous binding ID") (metadata.get "previous_binding_id") =
    .ok c.previousBindingId
  priority : optional (positiveInt "fallback priority") (metadata.get "fallback_priority") =
    .ok c.fallbackPriority
  eligible : flag "fallback eligible" (metadata.get "fallback_eligible") = .ok c.fallbackEligible
  target : optional (identifier "rollback target ID") (metadata.get "rollback_target_id") =
    .ok c.rollbackTargetId
  reason : optional (text "rollback reason" · maxText) (metadata.get "rollback_reason") =
    .ok c.rollbackReason
  smoke : smokeState (metadata.get "smoke_test_status") = .ok c.smokeTestStatus
  activated : ¬ (c.bindingState = .active ∧ c.activatedAt = none)
  selectable : ¬ (c.bindingState = .fallback ∧ (c.fallbackEligible = false ∨ c.fallbackPriority = none))
  unselectable :
    ¬ (c.bindingState ≠ .fallback ∧ (c.fallbackEligible = true ∨ c.fallbackPriority ≠ none))

theorem readBinding_eq_ok {metadata : Metadata} {c : BindingContent} :
    readBinding metadata = .ok c ↔ Says metadata c := by
  constructor
  · intro h
    unfold readBinding at h
    obtain ⟨state, hstate, h⟩ := bind_eq_ok.1 h
    obtain ⟨activatedAt, hactivatedAt, h⟩ := bind_eq_ok.1 h
    obtain ⟨priority, hpriority, h⟩ := bind_eq_ok.1 h
    obtain ⟨eligible, heligible, h⟩ := bind_eq_ok.1 h
    obtain ⟨hactivated, h⟩ := check_bind_eq_ok.1 h
    obtain ⟨hselectable, h⟩ := check_bind_eq_ok.1 h
    obtain ⟨hunselectable, h⟩ := check_bind_eq_ok.1 h
    obtain ⟨scopeType, hscopeType, h⟩ := bind_eq_ok.1 h
    obtain ⟨key, hkey, h⟩ := bind_eq_ok.1 h
    obtain ⟨runtimeId, hruntimeId, h⟩ := bind_eq_ok.1 h
    obtain ⟨runtimeRevision, hruntimeRevision, h⟩ := bind_eq_ok.1 h
    obtain ⟨modelId, hmodelId, h⟩ := bind_eq_ok.1 h
    obtain ⟨modelRevision, hmodelRevision, h⟩ := bind_eq_ok.1 h
    obtain ⟨values, hvalues, h⟩ := bind_eq_ok.1 h
    obtain ⟨evidence, hevidence, h⟩ := bind_eq_ok.1 h
    obtain ⟨previous, hprevious, h⟩ := bind_eq_ok.1 h
    obtain ⟨target, htarget, h⟩ := bind_eq_ok.1 h
    obtain ⟨reason, hreason, h⟩ := bind_eq_ok.1 h
    obtain ⟨smoke, hsmoke, h⟩ := bind_eq_ok.1 h
    obtain rfl := pure_eq_ok.1 h
    exact ⟨hscopeType, hkey, hruntimeId, hruntimeRevision, hmodelId, hmodelRevision, hstate,
      hactivatedAt, bind_eq_ok.2 ⟨values, hvalues, hevidence⟩, hprevious, hpriority, heligible,
      htarget, hreason, hsmoke, ensure_eq_ok.1 hactivated, ensure_eq_ok.1 hselectable,
      ensure_eq_ok.1 hunselectable⟩
  · intro h
    obtain ⟨values, hvalues, hevidence⟩ := bind_eq_ok.1 h.evidence
    unfold readBinding
    refine bind_eq_ok.2 ⟨_, h.state, bind_eq_ok.2 ⟨_, h.activatedAt, bind_eq_ok.2 ⟨_, h.priority,
      bind_eq_ok.2 ⟨_, h.eligible, ?_⟩⟩⟩⟩
    refine check_bind_eq_ok.2 ⟨ensure_eq_ok.2 h.activated, ?_⟩
    refine check_bind_eq_ok.2 ⟨ensure_eq_ok.2 h.selectable, ?_⟩
    refine check_bind_eq_ok.2 ⟨ensure_eq_ok.2 h.unselectable, ?_⟩
    refine bind_eq_ok.2 ⟨_, h.scopeType, bind_eq_ok.2 ⟨_, h.scopeKey, bind_eq_ok.2
      ⟨_, h.runtimeManifestId, bind_eq_ok.2 ⟨_, h.runtimeManifestRevision, ?_⟩⟩⟩⟩
    refine bind_eq_ok.2 ⟨_, h.modelManifestId, bind_eq_ok.2 ⟨_, h.modelManifestRevision,
      bind_eq_ok.2 ⟨_, hvalues, bind_eq_ok.2 ⟨_, hevidence, ?_⟩⟩⟩⟩
    exact bind_eq_ok.2 ⟨_, h.previous, bind_eq_ok.2 ⟨_, h.target, bind_eq_ok.2 ⟨_, h.reason,
      bind_eq_ok.2 ⟨_, h.smoke, rfl⟩⟩⟩⟩

/-- A row that the reader of bindings accepts, active, and what it says. -/
structure IsBinding (row : RecordEnvelope) (c : BindingContent) : Prop where
  recordType : row.recordType = bindingType
  schemaVersion : row.schemaVersion = 1
  status : row.status = .active
  keys : hasKeys row.metadata bindingKeys
  content : Says row.metadata c

/-- What a binding says is what its metadata says. -/
theorem content_of_bindingFromRecord {row : RecordEnvelope} {info : ModelBindingInfo}
    (h : bindingFromRecord row = .ok info) :
    info.envelope = .of row ∧ row.schemaVersion = 1 ∧ hasKeys row.metadata bindingKeys ∧
      Says row.metadata info.content := by
  obtain ⟨hshape, h⟩ := check_bind_eq_ok.1 (catching_eq_ok.1 h)
  obtain ⟨htype, hshape⟩ := check_bind_eq_ok.1 hshape
  obtain ⟨-, hkeys⟩ := check_bind_eq_ok.1 hshape
  obtain ⟨c, hc, h⟩ := bind_eq_ok.1 h
  obtain rfl := pure_eq_ok.1 h
  exact ⟨rfl, (ensure_eq_ok.1 htype).2, ensure_eq_ok.1 hkeys, readBinding_eq_ok.1 hc⟩

theorem IsBinding.read {row : RecordEnvelope} {c : BindingContent} (h : IsBinding row c) :
    bindingFromRecord row = .ok ⟨.of row, c⟩ := by
  refine catching_eq_ok.2 (check_bind_eq_ok.2 ⟨?_, bind_eq_ok.2 ⟨c, readBinding_eq_ok.2 h.content, rfl⟩⟩)
  refine check_bind_eq_ok.2 ⟨ensure_eq_ok.2 ⟨h.recordType, h.schemaVersion⟩, ?_⟩
  exact check_bind_eq_ok.2 ⟨ensure_eq_ok.2 (.inl h.status), ensure_eq_ok.2 h.keys⟩

omit [PythonLibrary] in
theorem get_setAll_of_notMem {metadata : Metadata} {changes : List (String × Json)} {key : String}
    (h : key ∉ changes.map Prod.fst) : (setAll metadata changes).get key = metadata.get key := by
  unfold setAll
  induction changes generalizing metadata with
  | nil => rfl
  | cons change changes ih =>
    rw [List.map_cons, List.mem_cons, not_or] at h
    rw [List.foldl_cons, ih h.2, Metadata.get_set, if_neg h.1]

omit [PythonLibrary] in
theorem hasKeys_set {metadata : Metadata} {keys : List String} {key : String} {value : Json}
    (h : hasKeys metadata keys) (hkey : key ∈ keys) : hasKeys (metadata.set key value) keys := by
  unfold Metadata.set
  rw [if_pos (h.2 key hkey)]
  constructor
  · intro entry hentry
    obtain ⟨old, hold, rfl⟩ := List.mem_map.1 hentry
    split
    · exact hkey
    · exact h.1 old hold
  · intro key' hkey'
    obtain ⟨old, hold, heq⟩ := List.lookup_isSome_iff.1 (h.2 key' hkey')
    refine List.lookup_isSome_iff.2 ⟨_, List.mem_map_of_mem hold, ?_⟩
    split
    · rename_i hk
      exact hk ▸ heq
    · exact heq

omit [PythonLibrary] in
theorem hasKeys_setAll {metadata : Metadata} {keys : List String} {changes : List (String × Json)}
    (h : hasKeys metadata keys) (hchanges : ∀ change ∈ changes, change.1 ∈ keys) :
    hasKeys (setAll metadata changes) keys := by
  unfold setAll
  induction changes generalizing metadata with
  | nil => exact h
  | cons change changes ih =>
    obtain ⟨hchange, hchanges⟩ := List.forall_mem_cons.1 hchanges
    exact ih (hasKeys_set h hchange) hchanges

/-! ## What is read back -/

/-- What is stored of a list of identifiers that has been checked is read back as it was. -/
theorem identifiers_ofIds {label label' : String} {values : List Json} {ids : List RecordId}
    (h : identifiers label values = .ok ids) :
    (do identifiers label' (← list (.ofIds ids))) = .ok ids := by
  obtain ⟨hlength, h⟩ := check_bind_eq_ok.1 h
  obtain ⟨raw, hraw, h⟩ := bind_eq_ok.1 h
  obtain ⟨hnodup, h⟩ := check_bind_eq_ok.1 h
  have hids := pure_eq_ok.1 h
  rw [hids] at hnodup
  have hlen : ids.length ≤ maxList := by
    rw [← hids, List.length_insertionSort, ← (mapM_eq_ok.1 hraw).length_eq]
    exact ensure_eq_ok.1 hlength
  have hread : (ids.map fun id => Json.str (uuidText id)).mapM (identifier label') = .ok ids := by
    rw [mapM_eq_ok, List.forall₂_map_left_iff, List.forall₂_same]
    exact fun id _ => identifier_eq_ok.2 rfl
  have hsorted : ids.insertionSort (fun a b => uuidText a ≤ uuidText b) = ids :=
    hids ▸ (List.pairwise_insertionSort (fun a b => uuidText a ≤ uuidText b) raw).insertionSort_eq
  refine bind_eq_ok.2 ⟨_, rfl, check_bind_eq_ok.2 ⟨ensure_eq_ok.2 ?_, ?_⟩⟩
  · rw [List.length_map]
    exact hlen
  · refine bind_eq_ok.2 ⟨ids, hread, ?_⟩
    simp only [hsorted]
    exact check_bind_eq_ok.2 ⟨ensure_eq_ok.2 (ensure_eq_ok.1 hnodup), rfl⟩

/-- An identifier that may be missing is read back as it was stored. -/
theorem optional_identifier_ofText {label : String} (id : Option RecordId) :
    optional (identifier label) (.ofText? (id.map uuidText)) = .ok id := by
  cases id with
  | none => rfl
  | some id =>
    have hread : identifier label (.str (uuidText id)) = .ok id := identifier_eq_ok.2 rfl
    rw [Option.map_some, Json.ofText?, optional_str, hread]
    rfl

omit [PythonLibrary] in
theorem optional_timestamp {value : Text} (h : timestamp (.str value) = .ok value) :
    optional timestamp (.str value) = .ok (some value) := by
  rw [optional_str, h]
  rfl

/-! ## Changes -/

variable {metadata : Metadata} {c : BindingContent}

attribute [local simp] setAll Metadata.get_set bindingState_eq_ok flag_eq_ok positiveInt_eq_ok
  optional_null optional_int

/-- What is left of a binding that was active. -/
theorem Says.demotion (h : Says metadata c) : Says (setAll metadata demotion)
    { c with bindingState := .previous, fallbackEligible := false, fallbackPriority := none } := by
  cases h
  constructor <;> simp [Model.demotion, *]

/-- What an activation makes of a binding. -/
theorem Says.promotion {runtimeRevision modelRevision : Int} {activatedAt : Text}
    {values : List Json} {evidence : List RecordId} {previousId : Option RecordId}
    (h : Says metadata c) (hruntime : 1 ≤ runtimeRevision) (hmodel : 1 ≤ modelRevision)
    (hclock : timestamp (.str activatedAt) = .ok activatedAt)
    (hevidence : identifiers "evidence IDs" values = .ok evidence) :
    Says (setAll metadata
        (promotion runtimeRevision modelRevision activatedAt evidence previousId))
      { c with
        runtimeManifestRevision := runtimeRevision, modelManifestRevision := modelRevision,
        bindingState := .active, activatedAt := some activatedAt,
        activationEvidenceIds := evidence, previousBindingId := previousId,
        fallbackPriority := none, fallbackEligible := false, rollbackTargetId := previousId,
        rollbackReason := none } := by
  have hread := @identifiers_ofIds _ _ "activation evidence IDs" _ _ hevidence
  have hactivated := optional_timestamp hclock
  have hid := fun label => @optional_identifier_ofText _ label previousId
  cases h
  constructor <;> simp [Model.promotion, *]

/-- What a rollback makes of the binding that it restores. -/
theorem Says.restoration {activatedAt : Text} (h : Says metadata c)
    (hclock : timestamp (.str activatedAt) = .ok activatedAt) :
    Says (setAll metadata (restoration activatedAt))
      { c with
        bindingState := .active, activatedAt := some activatedAt, previousBindingId := none,
        fallbackPriority := none, fallbackEligible := false, rollbackTargetId := none,
        rollbackReason := none } := by
  have hactivated := optional_timestamp hclock
  cases h
  constructor <;> simp [Model.restoration, *]

/-- What a rollback leaves of its own binding. -/
theorem Says.withdrawal {previousId : RecordId} {value : Json} {reason : Text} (h : Says metadata c)
    (hreason : text "rollback reason" value maxText = .ok reason) :
    Says (setAll metadata (withdrawal previousId reason))
      { c with
        bindingState := .rolledBack, fallbackPriority := none, fallbackEligible := false,
        rollbackTargetId := some previousId, rollbackReason := some reason } := by
  have hid := fun label => @optional_identifier_ofText _ label (some previousId)
  have htext : optional (text "rollback reason" · maxText) (.str reason) = .ok (some reason) := by
    rw [optional_str, text_str hreason]
    rfl
  simp only [Option.map_some, Json.ofText?] at hid
  cases h
  constructor <;> simp [Model.withdrawal, *]

theorem Says.smokeTested (h : Says metadata c) (status : SmokeTestStatus) :
    Says (setAll metadata (smokeTested status)) { c with smokeTestStatus := status } := by
  have hstatus : smokeState (.str status.text) = .ok status := by cases status <;> rfl
  cases h
  constructor <;> simp [Model.smokeTested, *]

theorem Says.fallback (h : Says metadata c) {priority : Int} (hpriority : 1 ≤ priority) :
    Says (setAll metadata (fallback priority))
      { c with
        bindingState := .fallback, fallbackPriority := some priority,
        fallbackEligible := true } := by
  have hread : positiveInt "fallback priority" (.int priority) = .ok priority :=
    positiveInt_eq_ok.2 ⟨rfl, hpriority⟩
  have hoptional : optional (positiveInt "fallback priority") (.int priority) =
      .ok (some priority) := by
    rw [optional_int, hread]
    rfl
  cases h
  constructor <;> simp [Model.fallback, -optional_int, *]

theorem Says.disabling (h : Says metadata c) : Says (setAll metadata disabling)
    { c with bindingState := .disabled, fallbackPriority := none, fallbackEligible := false } := by
  cases h
  constructor <;> simp [Model.disabling, *]

end DollState.Model
