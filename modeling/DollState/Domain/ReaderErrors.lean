import DollState.Domain.Checkpoint
import DollState.Domain.Procedure
import DollState.Library.Raises
import DollState.Settings.Records

/-!
# What the record readers raise

Whatever a record holds, the part of a reader that looks at the record alone raises errors of one
class only, which the reader turns into the error of a malformed record.
-/

namespace DollState

open StateLib

/-- An error of the class. -/
def OfKind (kind : ErrorKind) (e : DollError) : Prop := e.kind = kind

@[simp] theorem ofKind_mk {kind : ErrorKind} {message : String} : OfKind kind ⟨kind, message⟩ := rfl

section

variable {kind : ErrorKind} {α β : Type} {allowed : DollError → Prop}

@[simp] theorem raises_ensure {p : Prop} [Decidable p] {message : String} :
    RaisesOnly (OfKind kind) (ensure p ⟨kind, message⟩) := raisesOnly_ensure rfl

@[simp] theorem raises_orFail {x : Option α} {message : String} :
    RaisesOnly (OfKind kind) (orFail ⟨kind, message⟩ x) := raisesOnly_orFail rfl

theorem raises_error {message : String} :
    RaisesOnly (OfKind kind) (.error ⟨kind, message⟩ : Result α) :=
  (raisesOnly_error _).2 rfl

theorem raises_optionally {read : α → Result β} {x : Option α}
    (h : ∀ a, RaisesOnly allowed (read a)) : RaisesOnly allowed (optionally read x) := by
  cases x with
  | none => exact raisesOnly_ok _
  | some a => exact raisesOnly_bind.2 ⟨h a, fun _ _ => raisesOnly_pure _⟩

theorem raises_distinctFrom [DecidableEq α] {read : β → Result α} {duplicate : DollError}
    (h : ∀ b, RaisesOnly allowed (read b)) (hduplicate : allowed duplicate) {values : List β} :
    ∀ {result : List α}, RaisesOnly allowed (distinctFrom read duplicate result values) := by
  induction values with
  | nil => exact fun {result} => raisesOnly_ok result
  | cons value values ih =>
    intro result
    refine raisesOnly_bind.2 ⟨h value, fun a _ => ?_⟩
    exact raisesOnly_bind.2 ⟨raisesOnly_ensure hduplicate, fun _ _ => ih⟩

@[simp] theorem raises_requiredString {metadata : Metadata} {key : String} :
    RaisesOnly (OfKind kind) (requiredString kind metadata key) := by
  unfold requiredString
  split
  · split
    · exact raises_error
    · exact raisesOnly_ok _
  · exact raises_error

@[simp] theorem raises_metadataList {metadata : Metadata} {key : String} :
    RaisesOnly (OfKind kind) (metadataList kind metadata key) := by
  unfold metadataList
  split
  · exact raisesOnly_ok _
  · exact raises_error

/-- The error of a malformed record is what a reader raises. -/
theorem raises_catching {caught : DollError → Bool} {e : DollError} {x : Result α}
    (h : RaisesOnly (fun e' => caught e' = true ∨ allowed e') x) (he : allowed e) :
    RaisesOnly allowed (catching caught e x) := by
  intro e' he'
  cases x with
  | ok a => cases he'
  | error e'' =>
    rw [catching] at he'
    split at he'
    · cases he'
      exact he
    · rename_i hnot
      cases he'
      exact (h _ rfl).resolve_left hnot

variable [PythonLibrary]

@[simp] theorem raises_wordsField {name : String} {value : Text} {maximum : Nat} :
    RaisesOnly (OfKind kind) (wordsField kind name value maximum) := by
  simp [wordsField, raisesOnly_bind]

@[simp] theorem raises_uuidField {name : String} {value : Text} :
    RaisesOnly (OfKind kind) (uuidField kind name value) := raises_orFail

@[simp] theorem raises_utcField {notUtc unparsable name : String} {value : Text} :
    RaisesOnly (OfKind kind) (utcField kind notUtc unparsable name value) := by
  simp [utcField, raisesOnly_bind]

@[simp] theorem raises_metadataIds {maximum : Nat} {metadata : Metadata} {key : String} :
    RaisesOnly (OfKind kind) (metadataIds kind maximum metadata key) := by
  unfold metadataIds referenceIds
  split
  · have hread : ∀ values : List Text, RaisesOnly (OfKind kind)
        (distinctFrom (uuidField kind key) ⟨kind, s!"{key} contain duplicates"⟩ [] values) :=
      fun _ => raises_distinctFrom (fun _ => raises_uuidField) (show OfKind kind ⟨kind, _⟩ from rfl)
    simp [raisesOnly_bind, hread]
  · exact raises_error

end

/-! ## Projects and decisions -/

namespace Project

section

variable [PythonLibrary]

@[simp] theorem raises_validateText {name : String} {value : Text} {maximum : Nat} :
    RaisesOnly (OfKind .projectDecisionValidation) (validateText name value maximum) := by
  simp [validateText, invalid, raisesOnly_bind]

@[simp] theorem raises_validateOptionalUtc {name : String} {value : Option Text} :
    RaisesOnly (OfKind .projectDecisionValidation) (validateOptionalUtc name value) :=
  raises_optionally fun _ => raises_utcField

omit [PythonLibrary] in
@[simp] theorem raises_optionalString {metadata : Metadata} {key : String} :
    RaisesOnly (OfKind .projectDecisionValidation) (optionalString metadata key) := by
  unfold optionalString
  split
  · exact raisesOnly_ok _
  · split
    · exact raises_error
    · exact raisesOnly_ok _
  · exact raises_error

@[simp] theorem raises_metadataTextItems {metadata : Metadata} {key : String} :
    RaisesOnly (OfKind .projectDecisionValidation) (metadataTextItems metadata key) := by
  refine raisesOnly_bind.2 ⟨raises_metadataList, fun values _ => ?_⟩
  refine raisesOnly_bind.2 ⟨raises_ensure, fun _ _ => ?_⟩
  refine raisesOnly_bind.2 ⟨RaisesOnly.mapM fun value _ => ?_, fun _ _ => ?_⟩
  · split
    · exact raises_validateText
    · exact raises_error
  · exact raisesOnly_bind.2 ⟨raises_ensure, fun _ _ => raisesOnly_pure _⟩

@[simp] theorem raises_validateReferenceId {name : String} {value : Json} :
    RaisesOnly (OfKind .projectDecisionValidation) (validateReferenceId name value) := by
  unfold validateReferenceId
  split
  · exact raises_orFail
  · exact raises_error

@[simp] theorem raises_metadataReferenceIds {metadata : Metadata} {key : String} :
    RaisesOnly (OfKind .projectDecisionValidation) (metadataReferenceIds metadata key) := by
  refine raisesOnly_bind.2 ⟨raises_metadataList, fun values _ => ?_⟩
  refine raisesOnly_bind.2 ⟨raises_ensure, fun _ _ => ?_⟩
  exact raises_distinctFrom (fun _ => raises_validateReferenceId)
    (show OfKind .projectDecisionValidation (invalid _) from rfl)

@[simp] theorem raises_metadataOptionalReferenceId {metadata : Metadata} {key : String} :
    RaisesOnly (OfKind .projectDecisionValidation) (metadataOptionalReferenceId metadata key) := by
  refine raisesOnly_bind.2 ⟨raises_optionalString, fun _ _ => ?_⟩
  exact raises_optionally fun _ => raises_validateReferenceId

@[simp] theorem raises_validateEnvelope {record : RecordEnvelope} {recordType : String}
    {provenance : RecordProvenance} :
    RaisesOnly (OfKind .projectDecisionValidation)
      (validateEnvelope record recordType provenance) := by
  simp [validateEnvelope, requireLaterOrEqual, validateUtc, invalid, raisesOnly_bind]

@[simp] theorem raises_readCharter {metadata : Metadata} :
    RaisesOnly (OfKind .projectDecisionValidation) (readCharter metadata) := by
  simp [readCharter, required, raisesOnly_bind]

@[simp] theorem raises_laterOrEqual {name : String} {laters : List Text} {earlier : Text} :
    RaisesOnly (OfKind .projectDecisionValidation)
      (forEach (fun later => requireLaterOrEqual name later earlier) laters) :=
  RaisesOnly.forEach fun _ _ => raises_ensure

theorem raises_readProject {record : RecordEnvelope} :
    RaisesOnly (OfKind .projectDecisionValidation) (readProject record) := by
  simp only [readProject, required, validateProjectStatus, validateUtc, raisesOnly_bind, invalid]
  simp
  intros
  split
  · exact raisesOnly_pure _
  · exact raisesOnly_map.2 raises_readCharter

theorem raises_readDecision {record : RecordEnvelope} :
    RaisesOnly (OfKind .projectDecisionValidation) (readDecision record) := by
  simp [readDecision, required, validateDecisionStatus, validateUtc, invalid, raisesOnly_bind]

end

end Project

/-! ## Work items -/

namespace WorkItem

@[simp] theorem raises_priorityField {value : Json} :
    RaisesOnly (OfKind .workItemValidation) (priorityField value) := by
  unfold priorityField
  split
  · exact raisesOnly_bind.2 ⟨raises_ensure, fun _ _ => raisesOnly_pure _⟩
  · exact raises_error

@[simp] theorem raises_readCriterion {value : Json} :
    RaisesOnly (OfKind .workItemValidation) (readCriterion value) := by
  unfold readCriterion
  split
  · -- the evidence kind and the flag are read by cases
    dsimp only
    split <;> (try split) <;> simp [required, invalid, raisesOnly_bind]
  · exact raises_error

variable [PythonLibrary]

@[simp] theorem raises_optionalUtc {name : String} {value : Json} :
    RaisesOnly (OfKind .workItemValidation) (optionalUtc name value) := by
  unfold optionalUtc
  split
  · exact raisesOnly_ok _
  · exact raisesOnly_bind.2 ⟨raises_utcField, fun _ _ => raisesOnly_pure _⟩
  · exact raises_error

@[simp] theorem raises_criteriaFrom {values : List AcceptanceCriterion} :
    ∀ {result : List AcceptanceCriterion},
      RaisesOnly (OfKind .workItemValidation) (criteriaFrom result values) := by
  induction values with
  | nil => exact fun {result} => raisesOnly_ok result
  | cons value values ih =>
    have htoken : ∀ (name : String) (text : Text),
        RaisesOnly (OfKind .workItemValidation) (token name text) := fun _ _ =>
      raisesOnly_bind.2 ⟨raises_ensure, fun _ _ => raisesOnly_pure _⟩
    intro result
    refine raisesOnly_bind.2 ⟨htoken _ _, fun _ _ => ?_⟩
    refine raisesOnly_bind.2 ⟨raises_ensure, fun _ _ => ?_⟩
    refine raisesOnly_bind.2 ⟨raises_wordsField, fun _ _ => ?_⟩
    exact raisesOnly_bind.2 ⟨raises_optionally (htoken _), fun _ _ => ih⟩

@[simp] theorem raises_metadataCriteria {metadata : Metadata} {key : String} :
    RaisesOnly (OfKind .workItemValidation) (metadataCriteria metadata key) := by
  refine raisesOnly_bind.2 ⟨raises_metadataList, fun _ _ => ?_⟩
  refine raisesOnly_bind.2 ⟨RaisesOnly.mapM fun _ _ => raises_readCriterion, fun _ _ => ?_⟩
  exact raisesOnly_bind.2 ⟨raises_ensure, fun _ _ => raises_criteriaFrom⟩

theorem raises_readWorkItem {record : RecordEnvelope} :
    RaisesOnly (OfKind .workItemValidation) (readWorkItem record) := by
  simp [readWorkItem, required, parseKind, parseWorkStatus, parseVerificationState, words,
    metadataIds, validatePersistedSemantics, invalid, raisesOnly_bind]

end WorkItem

/-! ## Checkpoints -/

namespace Checkpoint

@[simp] theorem raises_confirmedBy {value : Json} :
    RaisesOnly (OfKind .checkpointValidation) (confirmedBy value) := by
  unfold confirmedBy
  split
  · exact raisesOnly_ok _
  · split
    · exact raisesOnly_ok _
    · exact raises_error
  · exact raises_error

variable [PythonLibrary]

@[simp] theorem raises_basisRevisionsFrom {values : List (Text × Int)} :
    ∀ {result : BasisRevisions},
      RaisesOnly (OfKind .checkpointValidation) (basisRevisionsFrom result values) := by
  induction values with
  | nil => exact fun {result} => raisesOnly_ok result
  | cons value values ih =>
    intro result
    refine raisesOnly_bind.2 ⟨raises_uuidField, fun _ _ => ?_⟩
    refine raisesOnly_bind.2 ⟨raises_ensure, fun _ _ => ?_⟩
    exact raisesOnly_bind.2 ⟨raises_ensure, fun _ _ => ih⟩

@[simp] theorem raises_metadataBasisRevisions {metadata : Metadata} :
    RaisesOnly (OfKind .checkpointValidation) (metadataBasisRevisions metadata) := by
  unfold metadataBasisRevisions
  split
  · refine raisesOnly_bind.2 ⟨RaisesOnly.mapM fun entry _ => ?_, fun _ _ => ?_⟩
    · split
      · exact raisesOnly_ok _
      · exact raises_error
    · refine raisesOnly_bind.2 ⟨raises_ensure, fun _ _ => ?_⟩
      exact raisesOnly_bind.2 ⟨raises_basisRevisionsFrom, fun _ _ => raisesOnly_pure _⟩
  · exact raises_error

variable [ModuleRules]

theorem raises_readCheckpoint {record : RecordEnvelope} :
    RaisesOnly (OfKind .checkpointValidation) (readCheckpoint record) := by
  simp only [readCheckpoint, required, words, utc, metadataIds, parseConfirmationState,
    requireDisjointWorkLists, validateBasis, invalid, proposedWithBasis, fingerprint,
    raisesOnly_bind]
  simp
  intros
  -- what is left reads the fingerprint, and then the basis of a confirmed checkpoint
  constructor <;> intros <;> split <;> simp [raisesOnly_bind] <;> intros <;> split <;>
    simp [raisesOnly_bind]

end Checkpoint

/-! ## Procedures -/

namespace Procedure

@[simp] theorem raises_versionField {value : Json} :
    RaisesOnly (OfKind .procedureValidation) (versionField value) := by
  unfold versionField
  split
  · exact raisesOnly_bind.2 ⟨raises_ensure, fun _ _ => raisesOnly_pure _⟩
  · exact raises_error

@[simp] theorem raises_metadataTexts {metadata : Metadata} {key kind : String} :
    RaisesOnly (OfKind .procedureValidation) (metadataTexts metadata key kind) := by
  unfold metadataTexts
  split
  · exact raises_orFail
  · exact raises_error

@[simp] theorem raises_metadataTokens {metadata : Metadata} {key : String} :
    RaisesOnly (OfKind .procedureValidation) (metadataTokens metadata key) := by
  refine raisesOnly_bind.2 ⟨raises_metadataTexts, fun values _ => ?_⟩
  refine raisesOnly_bind.2 ⟨raises_ensure, fun _ _ => ?_⟩
  exact raises_distinctFrom (fun _ => raisesOnly_bind.2 ⟨raises_ensure, fun _ _ => raisesOnly_pure _⟩)
    (show OfKind .procedureValidation (invalid _) from rfl)

variable [PythonLibrary]

@[simp] theorem raises_metadataTextItems {metadata : Metadata} {key : String} :
    RaisesOnly (OfKind .procedureValidation) (metadataTextItems metadata key) := by
  refine raisesOnly_bind.2 ⟨raises_metadataTexts, fun _ _ => ?_⟩
  refine raisesOnly_bind.2 ⟨raises_ensure, fun _ _ => ?_⟩
  exact RaisesOnly.mapM fun _ _ => raises_wordsField

@[simp] theorem raises_optionalUuid {name : String} {value : Json} :
    RaisesOnly (OfKind .procedureValidation) (optionalUuid name value) := by
  unfold optionalUuid
  split
  · exact raisesOnly_ok _
  · exact raisesOnly_bind.2 ⟨raises_uuidField, fun _ _ => raisesOnly_pure _⟩
  · exact raises_error

@[simp] theorem raises_optionalUtc {name : String} {value : Json} :
    RaisesOnly (OfKind .procedureValidation) (optionalUtc name value) := by
  unfold optionalUtc
  split
  · exact raisesOnly_ok _
  · exact raisesOnly_bind.2 ⟨raises_utcField, fun _ _ => raisesOnly_pure _⟩
  · exact raises_error

theorem raises_readProcedure {record : RecordEnvelope} :
    RaisesOnly (OfKind .procedureValidation) (readProcedure record) := by
  simp [readProcedure, required, parseStatus, words, metadataIds, validatePersistedSemantics,
    invalid, raisesOnly_bind]

end Procedure

/-! ## Policies -/

namespace Settings

theorem raises_readPolicy {metadata : Metadata} :
    RaisesOnly (fun e => e.isA readErrors = true) (readPolicy metadata) := by
  have hvalid : ∀ {α : Type} {x : Result α}, RaisesOnly (OfKind .settingsValidation) x →
      RaisesOnly (fun e => e.isA readErrors = true) x := fun hx e he => by
    simp [DollError.isA, readErrors, show e.kind = .settingsValidation from hx e he]
  refine raisesOnly_bind.2 ⟨hvalid raises_requiredString, fun _ _ => ?_⟩
  refine raisesOnly_bind.2 ⟨hvalid (by simp [validateKey, invalid, raisesOnly_bind]), fun _ _ => ?_⟩
  refine raisesOnly_bind.2 ⟨hvalid raises_requiredString, fun _ _ => ?_⟩
  refine raisesOnly_bind.2 ⟨hvalid (by simp [validateText, invalid, raisesOnly_bind]), fun _ _ => ?_⟩
  refine raisesOnly_bind.2 ⟨raisesOnly_orFail rfl, fun enabled _ => ?_⟩
  split
  · exact raisesOnly_pure _
  · exact hvalid raises_error

end Settings

end DollState
