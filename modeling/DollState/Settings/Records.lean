import DollState.Settings.Values

/-!
# Preference, policy and permission records

What the three services keep in the metadata of a record, how they read it back, and the decision
that a permission amounts to. A permission's metadata repeats its identity, the capability and the
canonical text of the scope; a record whose copy differs is malformed.
-/

namespace DollState.Settings

open StateLib

/-! ## Contents -/

structure PreferenceContent where
  key : Text
  value : Json
  description : Option Text

structure PolicyContent where
  key : Text
  rule : Text
  enabled : Bool

inductive PermissionMode where
  | denied | allowOnce | ask | scoped
deriving DecidableEq, Repr

def PermissionMode.all : List PermissionMode := [.denied, .allowOnce, .ask, .scoped]

def PermissionMode.text : PermissionMode → Text
  | .denied => "denied".toList
  | .allowOnce => "allow_once".toList
  | .ask => "ask".toList
  | .scoped => "scoped".toList

theorem PermissionMode.ofText?_text (mode : PermissionMode) :
    ofText? PermissionMode.all PermissionMode.text mode.text = some mode := by
  cases mode <;> decide

structure PermissionContent where
  capabilityId : Text
  scope : Metadata
  mode : PermissionMode
  expiresAt : Option Text
  approvalSource : Text
  lastChangedAt : Text
  lastUsedAt : Option Text
  remainingUses : Option Int

/-- The uses a permission of a mode starts with. -/
def PermissionMode.uses (mode : PermissionMode) : Option Int :=
  if mode = .allowOnce then some 1 else none

def PreferenceContent.metadata (c : PreferenceContent) : Metadata :=
  [("preference_key", .str c.key), ("value", c.value), ("description", Json.ofText? c.description)]

def PolicyContent.metadata (c : PolicyContent) : Metadata :=
  [("policy_key", .str c.key), ("rule", .str c.rule), ("enabled", .bool c.enabled)]

/-- The value of `remaining_uses`. -/
def ofUses : Option Int → Json
  | none => .null
  | some n => .int n

section

variable [FloatLibrary]

/-- The text that names a permission: its capability and the canonical text of its scope. -/
def permissionIdentity (capabilityId : Text) (scope : Metadata) : Text :=
  capabilityId ++ '\x00' :: canonicalJson (.obj scope)

def PermissionContent.identity (c : PermissionContent) : Text :=
  permissionIdentity c.capabilityId c.scope

/-- `_permission_metadata`. -/
def PermissionContent.metadata (c : PermissionContent) : Metadata :=
  [("capability_id", .str c.capabilityId), ("scope", .obj c.scope), ("mode", .str c.mode.text),
    ("expires_at", Json.ofText? c.expiresAt), ("approval_source", .str c.approvalSource),
    ("last_changed_at", .str c.lastChangedAt), ("last_used_at", Json.ofText? c.lastUsedAt),
    ("remaining_uses", ofUses c.remainingUses), ("permission_identity", .str c.identity)]

end

/-! ## Reading -/

def corrupt (message : String) : DollError := ⟨.settingsCorrupt, message⟩

/-- What `_preference_from_record` and `_policy_from_record` catch. -/
def readErrors : List ErrorKind := [.key, .settingsValidation, .value]

/-- `_required_string`. -/
def required (metadata : Metadata) (key : String) : Result Text :=
  requiredString .settingsValidation metadata key

/-- `_optional_string`. -/
def optionalString (metadata : Metadata) (key : String) : Result (Option Text) :=
  match metadata.get key with
  | .null => .ok none
  | .str s => if s = [] then .error (invalid s!"{key} is invalid") else .ok (some s)
  | _ => .error (invalid s!"{key} is invalid")

/-- `metadata[key]`. -/
def entry (metadata : Metadata) (key : String) : Result Json :=
  orFail (DollError.noRecord key.toList) (metadata.lookup key)

/-- A setting as its service returns it. -/
structure SettingInfo (Content : Type) where
  recordId : RecordId
  content : Content
  revision : Int
  status : RecordStatus
  sensitivity : RecordSensitivity
  createdAt : Text
  updatedAt : Text

def settingInfo {Content : Type} (record : RecordEnvelope) (content : Content) :
    SettingInfo Content where
  recordId := record.id
  content := content
  revision := record.revision
  status := record.status
  sensitivity := record.sensitivity
  createdAt := record.createdAt
  updatedAt := record.updatedAt

abbrev PreferenceInfo := SettingInfo PreferenceContent
abbrev PolicyInfo := SettingInfo PolicyContent
abbrev PermissionInfo := SettingInfo PermissionContent

section

variable [PythonLibrary] [CaseLibrary] [FloatLibrary]

def readPreference (metadata : Metadata) : Result PreferenceContent := do
  let key ← validateKey "preference key" (← required metadata "preference_key")
  let value ← validateJsonValue (← entry metadata "value") maxJsonBytes
  let description ← optionalString metadata "description"
  let description ← validateOptionalText "preference description" description maxDescriptionLength
  return { key, value, description }

/-- `_preference_from_record`. -/
def preferenceFromRecord (record : RecordEnvelope) : Result PreferenceInfo := do
  let content ← catching (DollError.isA readErrors) (corrupt "preference record is malformed")
    (readPreference record.metadata)
  return settingInfo record content

def readPolicy (metadata : Metadata) : Result PolicyContent := do
  let key ← validateKey "policy key" (← required metadata "policy_key")
  let rule ← validateText "policy rule" (← required metadata "rule") maxPolicyRuleLength
  match ← entry metadata "enabled" with
  | .bool enabled => return { key, rule, enabled }
  | _ => .error (invalid "policy enabled flag must be boolean")

/-- `_policy_from_record`. -/
def policyFromRecord (record : RecordEnvelope) : Result PolicyInfo := do
  let content ← catching (DollError.isA readErrors) (corrupt "policy record is malformed")
    (readPolicy record.metadata)
  return settingInfo record content

/-- A mode that a permission with this scope may have. -/
def ModeOk (mode : PermissionMode) (scope : Metadata) : Prop :=
  mode = .scoped → (∀ s, Metadata.get scope "kind" = .str s → s ≠ "global".toList) ∧ 2 ≤ scope.length

/-- `scope.get("kind") == "global"`. -/
def isGlobal (scope : Metadata) : Bool :=
  match Metadata.get scope "kind" with
  | .str s => s = "global".toList
  | _ => false

/-- `_validate_permission_mode`. -/
def validatePermissionMode (mode : Text) (scope : Metadata) : Result PermissionMode := do
  let given := String.ofList mode
  let safeMode ← orFail (invalid s!"invalid permission mode: {given}")
    (ofText? PermissionMode.all PermissionMode.text mode)
  ensure (¬ (safeMode = .scoped ∧ (isGlobal scope = true ∨ scope.length < 2)))
    (invalid "scoped permission requires a non-global scope with at least one constraint")
  return safeMode

/-- The uses that are left, read back. -/
def readUses (metadata : Metadata) : Result (Option Int) :=
  match metadata.get "remaining_uses" with
  | .null => .ok none
  | .int n =>
    if n = 0 ∨ n = 1 then .ok (some n) else .error (invalid "permission remaining uses is invalid")
  | _ => .error (invalid "permission remaining uses is invalid")

/-- The metadata repeats the identity. -/
def repeatsIdentity (metadata : Metadata) (identity : Text) : Bool :=
  match metadata.get "permission_identity" with
  | .str s => s = identity
  | _ => false

def readScope : Json → Result Metadata
  | .obj rawScope => validateScope rawScope
  | _ => .error (invalid "permission scope must be an object")

def readPermission (metadata : Metadata) : Result PermissionContent := do
  let capabilityId ← validateKey "capability ID" (← required metadata "capability_id")
  let scope ← readScope (← entry metadata "scope")
  let mode ← validatePermissionMode (← required metadata "mode") scope
  let expiresAt ← validateOptionalUtc "permission expiration" (← optionalString metadata "expires_at")
  let approvalSource ← validateApprovalSource (← required metadata "approval_source")
  let lastChangedAt ← utcField .settingsValidation " must be UTC and end in Z"
    " is not a valid timestamp" "permission changed time" (← required metadata "last_changed_at")
  let lastUsedAt ← validateOptionalUtc "permission used time"
    (← optionalString metadata "last_used_at")
  let remainingUses ← readUses metadata
  ensure (repeatsIdentity metadata (permissionIdentity capabilityId scope) = true)
    (invalid "permission identity is inconsistent")
  ensure (¬ (mode = .allowOnce ∧ remainingUses ≠ some 1))
    (invalid "active allow-once permission must have one use")
  return { capabilityId, scope, mode, expiresAt, approvalSource, lastChangedAt, lastUsedAt,
           remainingUses }

/-- `_permission_from_record`. -/
def permissionFromRecord (record : RecordEnvelope) : Result PermissionInfo := do
  let content ← catching (DollError.isA (.forbiddenPermissionMutation :: readErrors))
    (corrupt "permission record is malformed") (readPermission record.metadata)
  return settingInfo record content

end

/-! ## Decisions -/

inductive DecisionReason where
  | active | expired | consumed | archived | noRecord
deriving DecidableEq, Repr

structure PermissionDecision where
  recordId : Option RecordId
  capabilityId : Text
  scope : Metadata
  effectiveMode : PermissionMode
  reason : DecisionReason

/-- `_decision_from_permission`, at the instant `now`. -/
def decisionFromPermission [PythonLibrary] (now : Int) (permission : PermissionInfo) :
    PermissionDecision :=
  let decide (effectiveMode : PermissionMode) (reason : DecisionReason) : PermissionDecision :=
    { recordId := some permission.recordId, capabilityId := permission.content.capabilityId,
      scope := permission.content.scope, effectiveMode, reason }
  if permission.status ≠ .active then decide .denied .archived
  else if permission.content.expiresAt.any fun expires => instant expires ≤ now then
    decide .denied .expired
  else if permission.content.mode = .allowOnce ∧ permission.content.remainingUses ≠ some 1 then
    decide .denied .consumed
  else decide permission.content.mode .active

/-- The decision names the permission it is based on. -/
theorem decisionFromPermission_recordId [PythonLibrary] (now : Int) (permission : PermissionInfo) :
    (decisionFromPermission now permission).recordId = some permission.recordId := by
  unfold decisionFromPermission
  split_ifs <;> rfl

/-- Only an active permission of mode `allow_once` decides for one use. -/
theorem of_decision_allowOnce [PythonLibrary] {now : Int} {permission : PermissionInfo}
    (h : (decisionFromPermission now permission).effectiveMode = .allowOnce) :
    permission.status = .active ∧ permission.content.mode = .allowOnce := by
  unfold decisionFromPermission at h
  by_cases hstatus : permission.status = .active
  · refine ⟨hstatus, ?_⟩
    rw [if_neg (not_not.2 hstatus)] at h
    split_ifs at h
    exact h
  · rw [if_pos hstatus] at h
    cases h

/-! ## Reading back what was written -/

section

variable [PythonLibrary] [CaseLibrary] [FloatLibrary]

/-- A permission that `_permission_from_record` reads back as it is. -/
structure PermissionContent.Ok (c : PermissionContent) : Prop where
  capability : KeyOk c.capabilityId
  scope : ScopeOk c.scope
  mode : ModeOk c.mode c.scope
  expiresAt : ∀ t ∈ c.expiresAt, IsUtc t
  approvalSource : ApprovalSourceOk c.approvalSource
  lastChangedAt : IsUtc c.lastChangedAt
  lastUsedAt : ∀ t ∈ c.lastUsedAt, IsUtc t
  remainingUses : ∀ n ∈ c.remainingUses, n = 0 ∨ n = 1
  once : c.mode = .allowOnce → c.remainingUses = some 1

omit [PythonLibrary] [CaseLibrary] [FloatLibrary] in
theorem isGlobal_eq_true {scope : Metadata} :
    isGlobal scope = true ↔ Metadata.get scope "kind" = .str "global".toList := by
  unfold isGlobal
  split
  · rename_i s hs
    rw [hs, decide_eq_true_eq, Json.str.injEq]
  · rename_i h
    simp only [Bool.false_eq_true, false_iff]
    exact fun hs => h _ hs

omit [PythonLibrary] [CaseLibrary] [FloatLibrary] in
theorem validatePermissionMode_eq_ok {value : Text} {scope : Metadata} {mode : PermissionMode} :
    validatePermissionMode value scope = .ok mode ↔ value = mode.text ∧ ModeOk mode scope := by
  have hmodeOk : ModeOk mode scope ↔
      ¬ (mode = .scoped ∧ (isGlobal scope = true ∨ scope.length < 2)) := by
    rw [ModeOk, not_and, isGlobal_eq_true]
    refine imp_congr_right fun _ => ?_
    rw [not_or, not_lt]
    refine and_congr_left fun _ => ⟨fun h hs => h _ hs rfl, fun h s hs => ?_⟩
    rintro rfl
    exact h hs
  simp only [validatePermissionMode, bind_eq_ok, orFail_eq_ok, ensure_eq_ok, pure_eq_ok,
    exists_const, hmodeOk]
  constructor
  · rintro ⟨_, hmode, hok, rfl⟩
    exact ⟨(text_of_ofText? hmode).symm, hok⟩
  · rintro ⟨rfl, hok⟩
    exact ⟨mode, PermissionMode.ofText?_text mode, hok, rfl⟩

omit [PythonLibrary] [CaseLibrary] [FloatLibrary] in
theorem optionalString_ofText? {metadata : Metadata} {key : String} {value : Option Text}
    (hget : metadata.get key = Json.ofText? value) (hvalue : ∀ t ∈ value, t ≠ []) :
    optionalString metadata key = .ok value := by
  unfold optionalString
  rw [hget]
  cases value with
  | none => rfl
  | some t =>
    show (if t = [] then _ else _) = _
    rw [if_neg (hvalue t rfl)]

omit [CaseLibrary] [FloatLibrary] in
theorem ne_nil_of_isUtc {t : Text} (h : IsUtc t) : t ≠ [] := by
  rintro rfl
  cases h.1

theorem PermissionContent.readPermission_metadata {c : PermissionContent} (h : c.Ok) :
    readPermission c.metadata = .ok c := by
  have hrequired : ∀ (key : String) {s : Text}, c.metadata.get key = .str s → s ≠ [] →
      required c.metadata key = .ok s := fun _ _ hget hne => requiredString_eq_ok.2 ⟨hget, hne⟩
  have hcapability := hrequired "capability_id" rfl h.capability.2.1.1
  have hscope : entry c.metadata "scope" = .ok (.obj c.scope) := rfl
  have hmode := hrequired "mode" rfl (show c.mode.text ≠ [] by cases c.mode <;> decide)
  have hexpires : optionalString c.metadata "expires_at" = .ok c.expiresAt :=
    optionalString_ofText? rfl fun t ht => ne_nil_of_isUtc (h.expiresAt t ht)
  have hsource := hrequired "approval_source" rfl h.approvalSource.1.2.1.1
  have hchanged := hrequired "last_changed_at" rfl (ne_nil_of_isUtc h.lastChangedAt)
  have hused : optionalString c.metadata "last_used_at" = .ok c.lastUsedAt :=
    optionalString_ofText? rfl fun t ht => ne_nil_of_isUtc (h.lastUsedAt t ht)
  have huses : readUses c.metadata = .ok c.remainingUses := by
    have hget : c.metadata.get "remaining_uses" = ofUses c.remainingUses := rfl
    unfold readUses
    rw [hget]
    cases hn : c.remainingUses with
    | none => rfl
    | some n =>
      show (if n = 0 ∨ n = 1 then _ else _) = _
      rw [if_pos (h.remainingUses n hn)]
  have hidentity : repeatsIdentity c.metadata (permissionIdentity c.capabilityId c.scope) = true := by
    have hget : c.metadata.get "permission_identity" =
        .str (permissionIdentity c.capabilityId c.scope) := rfl
    unfold repeatsIdentity
    rw [hget]
    exact decide_eq_true rfl
  rw [readPermission, hcapability, ok_bind, validateKey_idem h.capability, ok_bind, hscope, ok_bind]
  simp only [readScope, h.scope.2, ok_bind, hmode, validatePermissionMode_eq_ok.2 ⟨rfl, h.mode⟩, hexpires,
    validateOptionalUtc_eq_ok.2 ⟨rfl, h.expiresAt⟩, hsource,
    validateApprovalSource_eq_ok.2 ⟨h.approvalSource.1.1, h.approvalSource⟩, hchanged,
    utcField_idem h.lastChangedAt, hused, validateOptionalUtc_eq_ok.2 ⟨rfl, h.lastUsedAt⟩, huses]
  have honce : ¬ (c.mode = .allowOnce ∧ c.remainingUses ≠ some 1) :=
    fun hbad => hbad.2 (h.once hbad.1)
  rw [ensure_of hidentity, ok_bind, ensure_of honce]
  rfl

/-- What reading a permission's metadata says about it. -/
theorem of_readPermission {metadata : Metadata} {c : PermissionContent}
    (h : readPermission metadata = .ok c) :
    metadata.get "permission_identity" = .str c.identity ∧ metadata.get "mode" = .str c.mode.text := by
  unfold readPermission at h
  obtain ⟨_, -, h⟩ := bind_eq_ok.1 h
  obtain ⟨capabilityId, -, h⟩ := bind_eq_ok.1 h
  obtain ⟨_, -, h⟩ := bind_eq_ok.1 h
  obtain ⟨scope, -, h⟩ := bind_eq_ok.1 h
  obtain ⟨modeText, hmodeText, h⟩ := bind_eq_ok.1 h
  obtain ⟨mode, hmode, h⟩ := bind_eq_ok.1 h
  obtain ⟨_, -, h⟩ := bind_eq_ok.1 h
  obtain ⟨expiresAt, -, h⟩ := bind_eq_ok.1 h
  obtain ⟨_, -, h⟩ := bind_eq_ok.1 h
  obtain ⟨approvalSource, -, h⟩ := bind_eq_ok.1 h
  obtain ⟨_, -, h⟩ := bind_eq_ok.1 h
  obtain ⟨lastChangedAt, -, h⟩ := bind_eq_ok.1 h
  obtain ⟨_, -, h⟩ := bind_eq_ok.1 h
  obtain ⟨lastUsedAt, -, h⟩ := bind_eq_ok.1 h
  obtain ⟨remainingUses, -, h⟩ := bind_eq_ok.1 h
  obtain ⟨hidentity, h⟩ := check_bind_eq_ok.1 h
  obtain ⟨-, h⟩ := check_bind_eq_ok.1 h
  rw [pure_eq_ok] at h
  subst h
  have hmodeText := (requiredString_eq_ok.1 hmodeText).1
  refine ⟨?_, by rw [hmodeText, (validatePermissionMode_eq_ok.1 hmode).1]⟩
  have hrepeats := ensure_eq_ok.1 hidentity
  unfold repeatsIdentity at hrepeats
  split at hrepeats
  · rename_i s hs
    rw [hs, of_decide_eq_true hrepeats]
    rfl
  · cases hrepeats

omit [PythonLibrary] in
theorem preferenceFromRecord_eq_ok {record : RecordEnvelope} {preference : PreferenceInfo} :
    preferenceFromRecord record = .ok preference ↔
      ∃ c, readPreference record.metadata = .ok c ∧ preference = settingInfo record c := by
  simp only [preferenceFromRecord, bind_eq_ok, catching_eq_ok, pure_eq_ok]
  exact exists_congr fun _ => and_congr_right fun _ => eq_comm

omit [PythonLibrary] [CaseLibrary] [FloatLibrary] in
theorem policyFromRecord_eq_ok {record : RecordEnvelope} {policy : PolicyInfo} :
    policyFromRecord record = .ok policy ↔
      ∃ c, readPolicy record.metadata = .ok c ∧ policy = settingInfo record c := by
  simp only [policyFromRecord, bind_eq_ok, catching_eq_ok, pure_eq_ok]
  exact exists_congr fun _ => and_congr_right fun _ => eq_comm

theorem permissionFromRecord_eq_ok {record : RecordEnvelope} {permission : PermissionInfo} :
    permissionFromRecord record = .ok permission ↔
      ∃ c, readPermission record.metadata = .ok c ∧ permission = settingInfo record c := by
  simp only [permissionFromRecord, bind_eq_ok, catching_eq_ok, pure_eq_ok]
  exact exists_congr fun _ => and_congr_right fun _ => eq_comm

end

end DollState.Settings
