import DollState.Confirmation.Types
import DollState.State.CanonicalJson

/-!
# What a fingerprint binds

The fingerprint of an operation is the digest of the canonical JSON text of everything the operation
depends on. That text determines each of its parts (`Binding.agrees_of_text_eq`): the mappings of the
request up to the order of their entries, all else exactly. So operations with one fingerprint agree,
unless the digests of two different texts collide.
-/

namespace DollState.Confirmation

open Capability Instruction StateLib

/-- What `confirmation_fingerprint` makes a text of, once it is validated. -/
structure Binding where
  request : CapabilityRequest
  registryFingerprint : Text
  normalizedDestination : Option Text
  credentialClass : Option Text

section

variable [FloatLibrary]

/-- The mappings have the same entries, in whatever order, at every level. -/
def SameMapping (m m' : JsonMapping) : Prop :=
  (Json.obj m.entries).toValue.canonical some = (Json.obj m'.entries).toValue.canonical some

namespace Binding

/-- The two bindings are of one exact operation. -/
structure Agrees (a b : Binding) : Prop where
  capabilityId : a.request.capabilityId = b.request.capabilityId
  capabilityVersion : a.request.capabilityVersion = b.request.capabilityVersion
  operationId : a.request.operationId = b.request.operationId
  sessionId : a.request.sessionId = b.request.sessionId
  actorType : a.request.actorType = b.request.actorType
  originClass : a.request.originClass = b.request.originClass
  arguments : SameMapping a.request.arguments b.request.arguments
  target : a.request.target = b.request.target
  sideEffects : a.request.declaredSideEffects = b.request.declaredSideEffects
  riskTier : a.request.declaredRiskTier = b.request.declaredRiskTier
  permissionScope : SameMapping a.request.permissionScope b.request.permissionScope
  resourceLimits : a.request.resourceLimits = b.request.resourceLimits
  timeoutSeconds : a.request.timeoutSeconds = b.request.timeoutSeconds
  cancellationId : a.request.cancellationId = b.request.cancellationId
  registryFingerprint : a.registryFingerprint = b.registryFingerprint
  normalizedDestination : a.normalizedDestination = b.normalizedDestination
  credentialClass : a.credentialClass = b.credentialClass

def payload (b : Binding) : Json :=
  fingerprintPayload b.request b.registryFingerprint (.obj b.request.arguments.entries)
    (.obj b.request.permissionScope.entries) b.normalizedDestination b.credentialClass

/-- The text that is hashed. -/
def text (b : Binding) : Text := canonicalJson b.payload

/-- The mappings hold no floats. -/
def Canonical (b : Binding) : Prop :=
  isCanonicalValue (.obj b.request.arguments.entries) = true ∧
    isCanonicalValue (.obj b.request.permissionScope.entries) = true

end Binding

/-- The text that `confirmation_fingerprint` hashes is that of a canonical binding. -/
theorem binding_of_fingerprintText [Audit.AuditRules] {request : CapabilityRequest} {registryFingerprint text : Text}
    {destination credentialClass : Option Text}
    (h : fingerprintText request registryFingerprint destination credentialClass = .ok text) :
    ∃ b : Binding, validateRequestEnvelope request = .ok b.request ∧
      b.registryFingerprint = registryFingerprint ∧ b.normalizedDestination = destination ∧
      validateOptionalToken "credential class" credentialClass maxCredentialClassLength =
        .ok b.credentialClass ∧
      b.Canonical ∧ b.text = text := by
  simp only [fingerprintText, validateFingerprint, canonicalValue, bind_eq_ok, exists_const,
    ensure_eq_ok, pure_eq_ok] at h
  obtain ⟨envelope, henvelope, _, ⟨-, rfl⟩, credential, hcredential, _, -, _, -, _,
    ⟨harguments, rfl⟩, _, ⟨hscope, rfl⟩, rfl⟩ := h
  exact ⟨⟨envelope, registryFingerprint, destination, credential⟩, henvelope, rfl, rfl, hcredential,
    ⟨harguments, hscope⟩, rfl⟩

/-! ## A canonical value has no floats -/

mutual

theorem allFloats_of_isCanonicalValue {P : Text → Prop} (v : Json) (h : isCanonicalValue v = true) :
    v.toValue.AllFloats P := by
  cases v with
  | null | bool | int | str => trivial
  | real | minusZero => cases h
  | arr xs => exact allFloatsOf_of_areCanonicalValues xs h
  | obj entries => exact allFloatsIn_of_areCanonicalEntries entries h

theorem allFloatsOf_of_areCanonicalValues {P : Text → Prop} (vs : List Json)
    (h : areCanonicalValues vs = true) : JsonText.AllFloatsOf P (Json.toValues vs) := by
  match vs with
  | [] => trivial
  | v :: vs =>
    rw [areCanonicalValues, Bool.and_eq_true] at h
    exact ⟨allFloats_of_isCanonicalValue v h.1, allFloatsOf_of_areCanonicalValues vs h.2⟩

theorem allFloatsIn_of_areCanonicalEntries {P : Text → Prop} (entries : List (String × Json))
    (h : areCanonicalEntries entries = true) : JsonText.AllFloatsIn P (Json.toEntries entries) := by
  match entries with
  | [] => trivial
  | (key, v) :: entries =>
    rw [areCanonicalEntries, Bool.and_eq_true] at h
    exact ⟨allFloats_of_isCanonicalValue v h.1, allFloatsIn_of_areCanonicalEntries entries h.2⟩

end

omit [FloatLibrary] in
theorem isCanonicalValue_ofText? (value : Option Text) :
    isCanonicalValue (Json.ofText? value) = true := by
  cases value <;> rfl

omit [FloatLibrary] in
theorem areCanonicalValues_sortedSideEffects (effects : Finset SideEffect) :
    areCanonicalValues (sortedSideEffects effects) = true := by
  unfold sortedSideEffects
  induction allSideEffects.filter (· ∈ effects) with
  | nil => rfl
  | cons effect effects ih => rw [List.map_cons, areCanonicalValues, ih]; rfl

omit [FloatLibrary] in
theorem Binding.isCanonicalValue_payload {b : Binding} (h : b.Canonical) :
    isCanonicalValue b.payload = true := by
  obtain ⟨harguments, hscope⟩ := h
  simp only [Binding.payload, fingerprintPayload, isCanonicalValue, areCanonicalEntries,
    isCanonicalValue_ofText?, areCanonicalValues_sortedSideEffects, Bool.true_and, Bool.and_true]
  simp only [isCanonicalValue] at harguments hscope
  rw [harguments, hscope]
  rfl

/-! ## Reading the parts off a canonical form -/

theorem text_of_canonical {s t : Text}
    (h : (Json.str s).toValue.canonical some = (Json.str t).toValue.canonical some) : s = t :=
  JsonText.Value.str.inj h

theorem int_of_canonical {i j : Int}
    (h : (Json.int i).toValue.canonical some = (Json.int j).toValue.canonical some) : i = j :=
  JsonText.Value.int.inj h

theorem optionalText_of_canonical {s t : Option Text}
    (h : (Json.ofText? s).toValue.canonical some = (Json.ofText? t).toValue.canonical some) :
    s = t := by
  cases s with
  | none =>
    cases t with
    | none => rfl
    | some t => cases h
  | some s =>
    cases t with
    | none => cases h
    | some t => rw [text_of_canonical h]

theorem canonicals_texts (names : List Text) :
    JsonText.canonicals some (Json.toValues (names.map Json.str)) =
      names.map JsonText.Value.str := by
  induction names with
  | nil => rfl
  | cons name names ih =>
    rw [List.map_cons, Json.toValues, JsonText.canonicals, ih]
    rfl

omit [FloatLibrary] in
theorem mem_allSideEffects (effect : SideEffect) : effect ∈ allSideEffects := by
  cases effect <;> decide

omit [FloatLibrary] in
theorem sideEffect_text_injective : Function.Injective fun e : SideEffect => e.name.toList := by
  intro a b h
  cases a <;> cases b <;> first | rfl | exact absurd h (by decide)

theorem sideEffects_of_canonical {es fs : Finset SideEffect}
    (h : (Json.arr (sortedSideEffects es)).toValue.canonical some =
      (Json.arr (sortedSideEffects fs)).toValue.canonical some) : es = fs := by
  have hnames : ∀ effects : Finset SideEffect, sortedSideEffects effects =
      ((allSideEffects.filter (· ∈ effects)).map fun e => e.name.toList).map Json.str := by
    intro effects
    rw [sortedSideEffects, List.map_map]
    rfl
  have hlist := JsonText.Value.arr.inj h
  rw [hnames, hnames, canonicals_texts, canonicals_texts] at hlist
  have hstr : Function.Injective (JsonText.Value.str : Text → JsonText.Value Text) :=
    fun _ _ => JsonText.Value.str.inj
  have hfilter := sideEffect_text_injective.list_map (hstr.list_map hlist)
  ext effect
  have hmem : ∀ effects : Finset SideEffect,
      effect ∈ effects ↔ effect ∈ allSideEffects.filter (· ∈ effects) := by
    intro effects
    simp [mem_allSideEffects]
  rw [hmem es, hmem fs, hfilter]

/-- The target, as the payload has it. -/
def targetPayload (target : CapabilityTarget) : Json :=
  .obj [("kind", .str target.kind.text), ("identifier", .str target.identifier)]

/-- The limits, as the payload has them. -/
def limitsPayload (limits : CapabilityResourceLimits) : Json :=
  .obj [
    ("max_input_chars", .int limits.maxInputChars),
    ("max_output_bytes", .int limits.maxOutputBytes),
    ("max_items", .int limits.maxItems)]

theorem target_of_canonical {s t : CapabilityTarget}
    (h : (targetPayload s).toValue.canonical some = (targetPayload t).toValue.canonical some) :
    s = t := by
  have hkind := Json.canonical_entry (by simp) h (.head _) (.head _)
  have hidentifier := Json.canonical_entry (by simp) h (.tail _ (.head _)) (.tail _ (.head _))
  have hkind : s.kind = t.kind := TargetKind.text_injective (text_of_canonical hkind)
  have hidentifier : s.identifier = t.identifier := text_of_canonical hidentifier
  cases s
  cases t
  cases hkind
  cases hidentifier
  rfl

theorem limits_of_canonical {l m : CapabilityResourceLimits}
    (h : (limitsPayload l).toValue.canonical some = (limitsPayload m).toValue.canonical some) :
    l = m := by
  have hinput := Json.canonical_entry (by simp) h (.head _) (.head _)
  have houtput := Json.canonical_entry (by simp) h (.tail _ (.head _)) (.tail _ (.head _))
  have hitems := Json.canonical_entry (by simp) h (.tail _ (.tail _ (.head _)))
    (.tail _ (.tail _ (.head _)))
  have hinput : l.maxInputChars = m.maxInputChars := int_of_canonical hinput
  have houtput : l.maxOutputBytes = m.maxOutputBytes := int_of_canonical houtput
  have hitems : l.maxItems = m.maxItems := int_of_canonical hitems
  cases l
  cases m
  cases hinput
  cases houtput
  cases hitems
  rfl

/-- The entries of the payload. -/
def Binding.entries (b : Binding) : Metadata :=
  match b.payload with
  | .obj entries => entries
  | _ => []

attribute [local simp] Binding.entries Binding.payload fingerprintPayload

/-- Bindings with one text are of one operation. -/
theorem Binding.agrees_of_text_eq {a b : Binding} (ha : a.Canonical) (hb : b.Canonical)
    (h : a.text = b.text) : a.Agrees b := by
  have hform : (Json.obj a.entries).toValue.canonical some =
      (Json.obj b.entries).toValue.canonical some :=
    JsonText.canonical_eq_of_encode_eq
      (allFloats_of_isCanonicalValue _ (Binding.isCanonicalValue_payload ha))
      (allFloats_of_isCanonicalValue _ (Binding.isCanonicalValue_payload hb)) h
  have hkeys : ∀ b : Binding, (b.entries.map (·.1)).Nodup := by
    intro b
    simp
  have part : ∀ (key : String) (f : Binding → Json), (∀ b : Binding, (key, f b) ∈ b.entries) →
      (f a).toValue.canonical some = (f b).toValue.canonical some :=
    fun key f hf => Json.canonical_entry (hkeys b) hform (hf a) (hf b)
  have ofText : ∀ (key : String) (f : Binding → Text),
      (∀ b : Binding, (key, Json.str (f b)) ∈ b.entries) → f a = f b :=
    fun key f hf => text_of_canonical (part key (fun b => .str (f b)) hf)
  have ofOptionalText : ∀ (key : String) (f : Binding → Option Text),
      (∀ b : Binding, (key, Json.ofText? (f b)) ∈ b.entries) → f a = f b :=
    fun key f hf => optionalText_of_canonical (part key (fun b => Json.ofText? (f b)) hf)
  have ofInt : ∀ (key : String) (f : Binding → Int),
      (∀ b : Binding, (key, Json.int (f b)) ∈ b.entries) → f a = f b :=
    fun key f hf => int_of_canonical (part key (fun b => .int (f b)) hf)
  exact {
    capabilityId := ofText "capability_id" (·.request.capabilityId) (by simp)
    capabilityVersion := ofText "capability_version" (·.request.capabilityVersion) (by simp)
    operationId := ofText "operation_id" (·.request.operationId) (by simp)
    sessionId := ofOptionalText "session_id" (·.request.sessionId) (by simp)
    actorType := ActorType.text_injective <|
      ofText "actor_type" (·.request.actorType.text) (by simp)
    originClass := OriginClass.text_injective <|
      ofText "origin_class" (·.request.originClass.text) (by simp)
    arguments := part "arguments" (fun b => .obj b.request.arguments.entries) (by simp)
    target := target_of_canonical (part "target" (fun b => targetPayload b.request.target) (by simp [targetPayload]))
    sideEffects := sideEffects_of_canonical <|
      part "side_effects" (fun b => .arr (sortedSideEffects b.request.declaredSideEffects)) (by simp)
    riskTier := ofInt "risk_tier" (·.request.declaredRiskTier) (by simp)
    permissionScope :=
      part "permission_scope" (fun b => .obj b.request.permissionScope.entries) (by simp)
    resourceLimits := limits_of_canonical <|
      part "resource_limits" (fun b => limitsPayload b.request.resourceLimits) (by simp [limitsPayload])
    timeoutSeconds := ofInt "timeout_seconds" (·.request.timeoutSeconds) (by simp)
    cancellationId := ofOptionalText "cancellation_id" (·.request.cancellationId) (by simp)
    registryFingerprint := ofText "registry_fingerprint" (·.registryFingerprint) (by simp)
    normalizedDestination := ofOptionalText "destination" (·.normalizedDestination) (by simp)
    credentialClass := ofOptionalText "credential_class" (·.credentialClass) (by simp) }

end

end DollState.Confirmation
