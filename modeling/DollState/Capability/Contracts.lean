import Mathlib.Data.Finset.Basic
import Mathlib.Data.List.Sort
import DollState.Instruction.Origin
import DollState.State.CanonicalJson

/-!
# Capability contracts

What the capability registry holds: reviewed definitions, of which there is at most one for each
capability and version. A registry is sealed when it is built and known by its fingerprint.
-/

namespace DollState.Capability

open Instruction StateLib

inductive ArgumentKind where
  | text | integer | boolean | stringList
deriving DecidableEq, Repr

inductive TargetKind where
  | providedData | stateRecord | managedArtifact | url
deriving DecidableEq, Repr

inductive SideEffect where
  | readState | createManagedArtifact | networkRead | processExecution
deriving DecidableEq, Repr

inductive NetworkMode where
  | none | explicitUrl
deriving DecidableEq, Repr

inductive BindingMode where
  | none | recordIdentity | projectArtifact | destinationHost
deriving DecidableEq, Repr

/-- `CapabilityRiskTier`, which is an `IntEnum`. -/
inductive RiskTier where
  | pureComputation
  | boundedReadOrReversibleCreate
  | scopedModificationOrExternalRead
  | highRisk
deriving DecidableEq, Repr

def ArgumentKind.name : ArgumentKind → String
  | .text => "text"
  | .integer => "integer"
  | .boolean => "boolean"
  | .stringList => "string_list"

def TargetKind.name : TargetKind → String
  | .providedData => "provided_data"
  | .stateRecord => "state_record"
  | .managedArtifact => "managed_artifact"
  | .url => "url"

def SideEffect.name : SideEffect → String
  | .readState => "read_state"
  | .createManagedArtifact => "create_managed_artifact"
  | .networkRead => "network_read"
  | .processExecution => "process_execution"

def NetworkMode.name : NetworkMode → String
  | .none => "none"
  | .explicitUrl => "explicit_url"

def BindingMode.name : BindingMode → String
  | .none => "none"
  | .recordIdentity => "record_identity"
  | .projectArtifact => "project_artifact"
  | .destinationHost => "destination_host"

/-- `int(risk_tier)`. -/
def RiskTier.toInt : RiskTier → Int
  | .pureComputation => 0
  | .boundedReadOrReversibleCreate => 1
  | .scopedModificationOrExternalRead => 2
  | .highRisk => 3

def TargetKind.text (kind : TargetKind) : Text := kind.name.toList

theorem TargetKind.text_injective : Function.Injective TargetKind.text := by
  intro a b h
  cases a <;> cases b <;> first | rfl | exact absurd h (by decide)

structure CapabilityArgument where
  name : String
  kind : ArgumentKind
  required : Bool
  maximumLength : Option Int
  minimumInteger : Option Int
  maximumInteger : Option Int
  maximumItems : Option Int

structure CapabilityTargetContract where
  kind : TargetKind
  maximumIdentifierLength : Int

structure CapabilityResourceLimits where
  maxInputChars : Int
  maxOutputBytes : Int
  maxItems : Int
deriving DecidableEq

structure CapabilityResourceContract where
  maxInputChars : Int
  maxOutputBytes : Int
  maxItems : Int
  maxTimeoutSeconds : Int

structure CapabilityDefinition where
  capabilityId : Text
  version : Text
  riskTier : RiskTier
  arguments : List CapabilityArgument
  target : CapabilityTargetContract
  sideEffects : Finset SideEffect
  permissionScopeKind : Text
  networkMode : NetworkMode
  bindingMode : BindingMode
  allowedRequestOrigins : Finset OriginClass
  releaseAvailable : Bool
  resourceContract : CapabilityResourceContract
  cancellationRequired : Bool
  description : Text

/-- What a registry keys a definition by. -/
def CapabilityDefinition.key (definition : CapabilityDefinition) : Text × Text :=
  (definition.capabilityId, definition.version)

/-! ## The registry -/

/-- The side effects, in the order of their names. -/
def allSideEffects : List SideEffect :=
  [.createManagedArtifact, .networkRead, .processExecution, .readState]

/-- The origins, in the order of their names. -/
def allOrigins : List OriginClass :=
  [.currentUserInstruction, .durableUserPolicy, .externalContent, .importedData, .modelProposal,
    .runtimeOutput, .systemPolicy, .toolResult, .unknown, .userManagementAction]

/-- `sorted(side_effects)`. -/
def sortedSideEffects (effects : Finset SideEffect) : List Json :=
  (allSideEffects.filter (· ∈ effects)).map fun effect => .str effect.name.toList

/-- `sorted(allowed_request_origins)`. -/
def sortedOrigins (origins : Finset OriginClass) : List Json :=
  (allOrigins.filter (· ∈ origins)).map fun origin => .str origin.text

def optionalInt : Option Int → Json
  | none => .null
  | some i => .int i

/-- `_definition_payload`. -/
def definitionPayload (definition : CapabilityDefinition) : Json :=
  .obj [
    ("capability_id", .str definition.capabilityId),
    ("version", .str definition.version),
    ("risk_tier", .int definition.riskTier.toInt),
    ("arguments", .arr (definition.arguments.map fun field => .obj [
      ("name", .str field.name.toList),
      ("kind", .str field.kind.name.toList),
      ("required", .bool field.required),
      ("maximum_length", optionalInt field.maximumLength),
      ("minimum_integer", optionalInt field.minimumInteger),
      ("maximum_integer", optionalInt field.maximumInteger),
      ("maximum_items", optionalInt field.maximumItems)])),
    ("target", .obj [
      ("kind", .str definition.target.kind.text),
      ("maximum_identifier_length", .int definition.target.maximumIdentifierLength)]),
    ("side_effects", .arr (sortedSideEffects definition.sideEffects)),
    ("permission_scope_kind", .str definition.permissionScopeKind),
    ("network_mode", .str definition.networkMode.name.toList),
    ("binding_mode", .str definition.bindingMode.name.toList),
    ("allowed_request_origins", .arr (sortedOrigins definition.allowedRequestOrigins)),
    ("release_available", .bool definition.releaseAvailable),
    ("resource_contract", .obj [
      ("max_input_chars", .int definition.resourceContract.maxInputChars),
      ("max_output_bytes", .int definition.resourceContract.maxOutputBytes),
      ("max_items", .int definition.resourceContract.maxItems),
      ("max_timeout_seconds", .int definition.resourceContract.maxTimeoutSeconds)]),
    ("cancellation_required", .bool definition.cancellationRequired),
    ("description", .str definition.description)]

/-- The digest of the library. -/
class DigestLibrary where
  /-- `hashlib.sha256(text.encode("utf-8")).hexdigest()`. -/
  sha256Hex : Text → Text

/-- `CapabilityRegistry`, sealed: its definitions are sorted and no two have one key. -/
structure CapabilityRegistry where
  definitions : List CapabilityDefinition
  nodup : (definitions.map CapabilityDefinition.key).Nodup

namespace CapabilityRegistry

/-- `_registry_fingerprint`. -/
def fingerprint [FloatLibrary] [DigestLibrary] (registry : CapabilityRegistry) : Text :=
  "sha256:".toList ++ DigestLibrary.sha256Hex (canonicalJson (.obj [
    ("schema_version", .int 1),
    ("definitions", .arr (registry.definitions.map definitionPayload))]))

def get (registry : CapabilityRegistry) (capabilityId version : Text) :
    Option CapabilityDefinition :=
  registry.definitions.find? fun definition => definition.key = (capabilityId, version)

def versions (registry : CapabilityRegistry) (capabilityId : Text) : List Text :=
  (registry.definitions.filter fun definition => definition.capabilityId = capabilityId).map
    CapabilityDefinition.version

/-- A definition that is found is registered under what it was looked up by. -/
theorem get_eq_some {registry : CapabilityRegistry} {capabilityId version : Text}
    {definition : CapabilityDefinition} :
    registry.get capabilityId version = some definition ↔
      definition ∈ registry.definitions ∧ definition.key = (capabilityId, version) := by
  constructor
  · intro h
    exact ⟨List.mem_of_find?_eq_some h, by simpa using List.find?_some h⟩
  · rintro ⟨hmem, hkey⟩
    cases hget : registry.get capabilityId version with
    | none =>
      have hnone := List.find?_eq_none.1 hget definition hmem
      simp [hkey] at hnone
    | some found =>
      have hfound : found.key = (capabilityId, version) := by simpa using List.find?_some hget
      rw [List.inj_on_of_nodup_map registry.nodup (List.mem_of_find?_eq_some hget) hmem
        (hfound.trans hkey.symm)]

/-- The capability of a definition that is found has a version. -/
theorem versions_ne_nil {registry : CapabilityRegistry} {capabilityId version : Text}
    {definition : CapabilityDefinition} (h : registry.get capabilityId version = some definition) :
    registry.versions capabilityId ≠ [] := by
  obtain ⟨hmem, hkey⟩ := get_eq_some.1 h
  have hid : definition.capabilityId = capabilityId := congrArg Prod.fst hkey
  apply List.ne_nil_of_mem (a := definition.version)
  exact List.mem_map.2 ⟨definition, List.mem_filter.2 ⟨hmem, by simp [hid]⟩, rfl⟩

end CapabilityRegistry

end DollState.Capability
