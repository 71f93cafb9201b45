import DollState.State.Identifier

/-!
# Records

The common envelope every authoritative record is stored in, the JSON metadata it carries, and the
errors the services raise. Metadata is what `json.loads` makes of the stored text: an object is the
list of its entries, of which a lookup reads the first.
-/

namespace DollState

/-! ## Errors -/

/-- The exception classes of the modelled modules. -/
inductive ErrorKind where
  | key
  | value
  | assertion
  | overflow
  | readOnlyState
  | stateCorrupt
  | futureSchemaVersion
  | stateRevisionMismatch
  | workspaceRecord
  | workspaceRevision
  | staleRevision
  | recordValidation
  | audit
  | auditValidation
  | forbiddenAuthorityMutation
  | projectDecisionValidation
  | projectDecisionCorrupt
  | workItemValidation
  | workItemCorrupt
  | checkpointValidation
  | checkpointCorrupt
  | artifactValidation
  | artifactCorrupt
  | importPublication
  | statePackage
  | backup
  | restore
  | migration
  | sqlite
  | settingsValidation
  | duplicateSetting
  | forbiddenPermissionMutation
  | permissionDenied
  | settingsCorrupt
  | confirmationValidation
  | forbiddenConfirmationMutation
  | confirmationUnavailable
  | confirmationCorrupt
  | capabilityRequestValidation
  | capabilityAudit
  | instructionOriginValidation
  | instructionOriginCorrupt
  | forbiddenInstructionMutation
  | truthValidation
  | forbiddenTruthMutation
  | truthCorrupt
  | procedureValidation
  | procedureCorrupt
  | runtimeContract
  | modelManifestValidation
  | modelManifestCorrupt
  | modelSwitchValidation
  | duplicateModelSwitchOperation
  | modelSwitchRollback
  | memoryValidation
  | memoryCorrupt
  | forbiddenMemoryMutation
  | secretClassification
  | projectStatusValidation
  | projectStatusCorrupt
  | experienceValidation
  | experienceCorrupt
  | resumeBundleValidation
  | resumeBundleExport
  | shutdownEscapeValidation
  | shutdownEscapeExport
  | shutdownEscapeIntegrity
  | conversationValidation
  | duplicateConversationOperation
  | conversationPersistence
  | conversationRollback
  | replayValidation
  | writingValidation
  | workProposalValidation
  | workProposalPersistence
  | portabilityReviewValidation
  | continuityPreflightValidation
  | workspaceFile
  | promptInjection
  | interrupt
deriving DecidableEq, Repr

structure DollError where
  kind : ErrorKind
  message : String
deriving DecidableEq, Repr

abbrev Result := Except DollError

/-- `KeyError(text)`, for a record that does not exist. -/
def DollError.noRecord (text : Text) : DollError := ⟨.key, String.ofList text⟩

/-- `except kinds:`. -/
def DollError.isA (kinds : List ErrorKind) (e : DollError) : Bool := e.kind ∈ kinds

/-! ## JSON values -/

/-- A JSON value. A number is an integer, the exact value of a float, or the float `-0.0`. -/
inductive Json where
  | null
  | bool (b : Bool)
  | int (i : Int)
  | real (q : Rat)
  | minusZero
  | str (s : Text)
  | arr (xs : List Json)
  | obj (entries : List (String × Json))

/-- A record's metadata object. -/
abbrev Metadata := List (String × Json)

/-- `metadata.get(key)`: `None` for a missing key. -/
def Metadata.get (metadata : Metadata) (key : String) : Json := (metadata.lookup key).getD .null

/-- `metadata[key] = value`. -/
def Metadata.set (metadata : Metadata) (key : String) (value : Json) : Metadata :=
  if (metadata.lookup key).isSome then
    metadata.map fun entry => if entry.1 = key then (key, value) else entry
  else metadata ++ [(key, value)]

mutual

/-- Python's `==` on JSON values: booleans are the integers 0 and 1, an integer equals the float of
its value, and the order of an object's entries does not matter. -/
def Json.eq : Json → Json → Bool
  | .null, .null => true
  | .bool a, .bool b => a == b
  | .bool a, .int i | .int i, .bool a => i == (if a then 1 else 0)
  | .bool a, .real q | .real q, .bool a => q == (if a then 1 else 0)
  | .int i, .int j => i == j
  | .int i, .real q | .real q, .int i => q == i
  | .real p, .real q => p == q
  | .bool a, .minusZero | .minusZero, .bool a => a == false
  | .int i, .minusZero | .minusZero, .int i => i == 0
  | .real q, .minusZero | .minusZero, .real q => q == 0
  | .minusZero, .minusZero => true
  | .str s, .str t => s == t
  | .arr xs, .arr ys => Json.eqList xs ys
  | .obj m, .obj m' => m.length == m'.length && Json.eqEntries m m'
  | _, _ => false

def Json.eqList : List Json → List Json → Bool
  | [], [] => true
  | x :: xs, y :: ys => Json.eq x y && Json.eqList xs ys
  | _, _ => false

def Json.eqEntries : List (String × Json) → List (String × Json) → Bool
  | [], _ => true
  | (k, x) :: m, m' => (match m'.lookup k with
      | some y => Json.eq x y
      | none => false) && Json.eqEntries m m'

end

/-- The JSON value of an optional text. -/
def Json.ofText? : Option Text → Json
  | none => .null
  | some s => .str s

/-- The JSON list of identifiers. -/
def Json.ofIds (ids : List RecordId) : Json := .arr (ids.map fun id => .str (uuidText id))

/-! ## The envelope -/

inductive RecordStatus where
  | active | archived | superseded | deleted | invalid
deriving DecidableEq, Repr

inductive RecordProvenance where
  | userCreated | userConfirmed | imported | modelProposed | systemGenerated | migrated | restored
deriving DecidableEq, Repr

inductive RecordSensitivity where
  | «public» | internal | personal | sensitive | secret
deriving DecidableEq, Repr

/-- One row of the `records` table. -/
structure RecordEnvelope where
  id : RecordId
  recordType : String
  schemaVersion : Int
  createdAt : Text
  updatedAt : Text
  revision : Int
  status : RecordStatus
  provenance : RecordProvenance
  sensitivity : RecordSensitivity
  title : Option Text
  metadata : Metadata

/-- The text of a sensitivity, as metadata stores it. -/
def RecordSensitivity.text : RecordSensitivity → Text
  | .public => "public".toList
  | .internal => "internal".toList
  | .personal => "personal".toList
  | .sensitive => "sensitive".toList
  | .secret => "secret".toList

/-! ## Reading metadata fields

Each service has its own copy of these readers, which differ in the error class they raise. -/

/-- `_required_string`. -/
def requiredString (kind : ErrorKind) (metadata : Metadata) (key : String) : Result Text :=
  match metadata.get key with
  | .str s => if s = [] then .error ⟨kind, s!"{key} is missing or invalid"⟩ else .ok s
  | _ => .error ⟨kind, s!"{key} is missing or invalid"⟩

/-- `_metadata_list`. -/
def metadataList (kind : ErrorKind) (metadata : Metadata) (key : String) : Result (List Json) :=
  match metadata.get key with
  | .arr xs => .ok xs
  | _ => .error ⟨kind, s!"{key} must be a list"⟩

@[simp] theorem Metadata.get_cons (k key : String) (value : Json) (metadata : Metadata) :
    Metadata.get ((k, value) :: metadata) key = if key = k then value else metadata.get key := by
  unfold Metadata.get
  rw [List.lookup_cons]
  split
  · rename_i h
    rw [if_pos (beq_iff_eq.1 h)]
    rfl
  · rename_i h
    rw [if_neg (by simpa using h)]

theorem Metadata.get_map_replace (metadata : Metadata) (key key' : String) (value : Json) :
    Metadata.get (metadata.map fun entry => if entry.1 = key then (key, value) else entry) key' =
      if key' = key ∧ (metadata.lookup key).isSome then value else metadata.get key' := by
  induction metadata with
  | nil => simp
  | cons entry metadata ih =>
    obtain ⟨k, v⟩ := entry
    rw [List.map_cons, List.lookup_cons]
    by_cases hk : k = key
    · subst hk
      simp only [if_pos, Metadata.get_cons, ih, beq_self_eq_true, Option.isSome_some, and_true]
      by_cases hkey : key' = k <;> simp [hkey]
    · have hbeq : (key == k) = false := by simpa using Ne.symm hk
      simp only [if_neg hk, Metadata.get_cons, ih, hbeq]
      by_cases hkey : key' = k
      · subst hkey
        simp [hk]
      · simp [hkey]

/-- Reading a field of an object in which one has been set. -/
theorem Metadata.get_set (metadata : Metadata) (key key' : String) (value : Json) :
    (metadata.set key value).get key' = if key' = key then value else metadata.get key' := by
  unfold Metadata.set
  split
  · rename_i hsome
    simp only [Metadata.get_map_replace, hsome, and_true]
  · rename_i hnone
    unfold Metadata.get
    rw [List.lookup_append]
    by_cases hkey : key' = key
    · subst hkey
      simp [Option.not_isSome_iff_eq_none.1 hnone]
    · have hbeq : (key' == key) = false := by simpa using hkey
      simp [List.lookup_cons, hbeq, hkey]

theorem requiredString_eq_ok {kind : ErrorKind} {metadata : Metadata} {key : String} {s : Text} :
    requiredString kind metadata key = .ok s ↔ metadata.get key = .str s ∧ s ≠ [] := by
  unfold requiredString
  split
  · rename_i t ht
    split
    · rename_i hnil
      simp [ht, hnil, eq_comm]
    · rename_i hne
      simp only [Except.ok.injEq, ht, Json.str.injEq]
      exact ⟨fun h => ⟨h, h ▸ hne⟩, fun h => h.1⟩
  · rename_i hother
    simp only [reduceCtorEq, false_iff, not_and]
    exact fun h => absurd h (hother s)

end DollState
