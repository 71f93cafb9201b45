import DollState.Library.JsonEncode
import DollState.Domain.Fields

/-!
# The contracts of an import

What `portability` and `portability_records` declare: the adapter an import goes through, the
environment it comes from, and the records that account for a batch. The dataclasses validate and
normalise their fields when they are built; adapter and environment carry what that leaves as
fields, the batch records are built by functions that may fail.
-/

namespace DollState.Import

open StateLib

/-! ## Errors -/

/-- The exceptions that staging may end with: `GenericImportStagingError`, its superclass
`PortabilityContractError`, the subclass of that which an adapter of chat histories raises, and those
that no handler expects. -/
inductive ErrorKind where
  | staging | contract | adapter | value | unicodeEncode | recursion | key | overflow
deriving DecidableEq, Repr

structure ImportError where
  kind : ErrorKind
  message : String
deriving DecidableEq, Repr

abbrev Staged := Except ImportError

/-- `GenericImportStagingError(message)`. -/
def staging (message : String) : ImportError := ⟨.staging, message⟩

/-- `PortabilityContractError(message)`. -/
def contract (message : String) : ImportError := ⟨.contract, message⟩

/-- `RecursionError`. -/
def recursionError : ImportError := ⟨.recursion, "maximum recursion depth exceeded"⟩

/-- A SHA-256 digest; records hold its 64 hexadecimal digits. -/
abbrev Digest := BitVec 256

def Digest.hex (d : Digest) : Text := hexDigits 64 d.toNat

/-- The parts of Python's library and interpreter that importing rests on. -/
class ImportLibrary where
  /-- `str.lower`. -/
  lower : Text → Text
  lower_ascii : ∀ t : Text, (∀ c ∈ t, c.toNat < 128) → lower t = t.map Char.toLower
  /-- `float.__repr__` of the float of a literal, `none` if that is infinite. -/
  floatRepr : List Char → Option (List Char)
  /-- `hashlib.sha256` of a text's UTF-8 encoding. -/
  sha256 : Text → Digest
  /-- `uuid5` of a namespace and a name. -/
  uuid5 : RecordId → Text → RecordId
  /-- How many containers inside one another the JSON decoder enters. -/
  decodeLevels : Nat
  /-- How many containers inside one another the JSON encoder enters. -/
  encodeLevels : Nat
  /-- How many calls of `_json_depth` fit inside one another. -/
  depthLevels : Nat
  /-- How many calls of `visit` fit inside one another. -/
  visitLevels : Nat

/-! ## Declarations -/

inductive AttachmentBehavior where
  | preserveReference | preserveManagedCopy | metadataOnly | unsupported
deriving DecidableEq, Repr

inductive BranchBehavior where
  | preserve | linearizeWithLoss | unsupported
deriving DecidableEq, Repr

inductive NetworkBehavior where
  | none | declaredReadOnly | declaredReadWrite
deriving DecidableEq, Repr

def isIdentifierChar (c : Char) : Bool := c.isLower || c.isDigit

/-- `_IDENTIFIER_PATTERN.fullmatch`. -/
def isIdentifier : Text → Bool
  | [] => false
  | c :: cs => isIdentifierChar c && cs.length ≤ 127 &&
      cs.all fun d => isIdentifierChar d || d == '.' || d == '_' || d == '-'

/-- `_VERSION_PATTERN.fullmatch`. -/
def isVersion : Text → Bool
  | [] => false
  | c :: cs => c.isAlphanum && cs.length ≤ 127 &&
      cs.all fun d => d.isAlphanum || d == '.' || d == '_' || d == '+' || d == '-'

/-- `_MAX_RESOURCE_LIMIT` and `_MAX_COUNT`. -/
def maxCount : Nat := 2 ^ 63 - 1

structure AdapterResourceLimits where
  maxInputBytes : Nat
  maxObjectCount : Nat
  maxAttachmentBytes : Nat
  maxNestingDepth : Nat
  maxObjectCount_le : maxObjectCount ≤ maxCount

/-- The parts of `SourceAdapterContract` that staging reads. -/
structure SourceAdapterContract where
  adapterId : Text
  adapterVersion : Text
  sourceEnvironmentClass : Text
  supportedSourceVersions : List Text
  supportedEventTypes : List Text
  attachmentBehavior : AttachmentBehavior
  branchBehavior : BranchBehavior
  resourceLimits : AdapterResourceLimits
  networkBehavior : NetworkBehavior
  fingerprint : Digest
  adapterId_ok : isIdentifier adapterId = true
  adapterVersion_ok : isVersion adapterVersion = true

/-- `SourceEnvironmentRecord`. -/
structure SourceEnvironmentRecord where
  environmentId : RecordId
  environmentClass : Text
  providerId : Option Text
  applicationId : Option Text
  interfaceId : Option Text
  runtimeId : Option Text
  exportFormat : Option Text
  exportVersion : Option Text
  observedAt : Option Text
deriving DecidableEq

/-! ## Field validators -/

section

variable [PythonLibrary] [ImportLibrary]

/-- `_validate_uuid`. -/
def validateUuid (name : String) (value : Text) : Staged RecordId := do
  let id ← orFail (contract s!"{name} is invalid") (uuid value)
  ensure (uuidText id = value) (contract s!"{name} must use canonical UUID text")
  return id

/-- `_validate_identifier` of the batch records. -/
def validateIdentifier (name : String) (value : Text) : Staged Text := do
  let normalized := ImportLibrary.lower (strip value)
  ensure (isIdentifier normalized = true) (contract s!"{name} is invalid")
  return normalized

/-- `_validate_version`. -/
def validateVersion (name : String) (value : Text) : Staged Text := do
  let normalized := strip value
  ensure (isVersion normalized = true) (contract s!"{name} is invalid")
  return normalized

/-- `datetime.fromisoformat(text.replace("Z", "+00:00"))`. -/
def parseInstant (text : Text) : Option Datetime :=
  PythonLibrary.fromisoformat (text.flatMap fun c => if c = 'Z' then "+00:00".toList else [c])

/-- `_validate_timestamp`. -/
def validateTimestamp (name : String) (value : Text) : Staged Text := do
  let normalized := strip value
  let parsed ← orFail (contract s!"{name} is invalid") (parseInstant normalized)
  ensure (parsed.utcoffset.isSome = true) (contract s!"{name} must be timezone-aware")
  return normalized

/-- `any(ord(character) < 32 and character not in "\t\n\r" for character in text)`. -/
def hasControl (text : Text) : Bool :=
  text.any fun c => c.toNat < 32 && !(c == '\t' || c == '\n' || c == '\r')

/-- `_MAX_TEXT_LENGTH`. -/
def maxTextLength : Nat := 4096

/-- `_validate_text`. -/
def validateText (name : String) (value : Text) : Staged Text := do
  let normalized := strip value
  ensure (normalized ≠ []) (contract s!"{name} must not be blank")
  ensure (normalized.length ≤ maxTextLength) (contract s!"{name} exceeds the maximum length")
  ensure (hasControl normalized = false) (contract s!"{name} contains a control character")
  return normalized

/-- `_validate_optional_text`. -/
def validateOptionalText (name : String) : Option Text → Staged (Option Text)
  | none => .ok none
  | some value => do return some (← validateText name value)

/-- `_validate_count`. -/
def validateCount (name : String) (value : Nat) : Staged Unit :=
  ensure (value ≤ maxCount) (contract s!"{name} must be a non-negative bounded integer")

/-- `_MAX_DECLARATIONS`. -/
def maxDeclarations : Nat := 256

/-- `_validate_uuid_declarations`, of identifiers. -/
def validateUuidDeclarations (name : String) (value : List RecordId) : Staged (List RecordId) := do
  ensure (value.length ≤ maxDeclarations) (contract s!"{name} has too many values")
  ensure (value.Nodup) (contract s!"{name} contains duplicates")
  return value.insertionSort fun a b => a.toNat ≤ b.toNat

/-! ## The records of a batch -/

/-- The causes of loss that staging records, with the texts of their loss records. -/
inductive LossCategory where
  | malformedObject | invalidObject | conflictingDuplicate | attachmentByteLimit
  | unsupportedSourceType | unsupportedBranchRelationship | cyclicParentRelationship
  | missingParentDependency | branchLinearization | attachmentMetadataOnly
deriving DecidableEq, Repr

/-- The `category` of the loss records; an object that cannot be parsed and one of the wrong
structure share theirs. -/
def LossCategory.text : LossCategory → String
  | .malformedObject => "malformed-object"
  | .invalidObject => "malformed-object"
  | .conflictingDuplicate => "conflicting-duplicate"
  | .attachmentByteLimit => "attachment-byte-limit"
  | .unsupportedSourceType => "unsupported-source-type"
  | .unsupportedBranchRelationship => "unsupported-branch-relationship"
  | .cyclicParentRelationship => "cyclic-parent-relationship"
  | .missingParentDependency => "missing-parent-dependency"
  | .branchLinearization => "branch-linearization"
  | .attachmentMetadataOnly => "attachment-metadata-only"

def LossCategory.description : LossCategory → String
  | .malformedObject => "A source object could not be parsed safely."
  | .invalidObject => "A source object failed structural validation."
  | .conflictingDuplicate => "The same source identifier has conflicting content."
  | .attachmentByteLimit => "The attachment payload exceeds the declared byte limit."
  | .unsupportedSourceType => "The adapter does not declare support for this source type."
  | .unsupportedBranchRelationship => "The adapter does not support parent relationships."
  | .cyclicParentRelationship => "The source parent graph contains a cycle."
  | .missingParentDependency => "A declared parent source object is unavailable."
  | .branchLinearization => "The adapter declares branch linearization for this source object."
  | .attachmentMetadataOnly =>
    "The adapter preserves attachment metadata without attachment bytes."

/-- `PortabilityLossRecord` as staging makes them: material, with preserved metadata, of unknown
recoverability, and with the one user action. -/
structure PortabilityLossRecord where
  lossRecordId : RecordId
  batchId : RecordId
  category : String
  description : String
  recordedAt : Text
  sourceObjectId : Option Text
deriving DecidableEq

/-- The name a loss record's identifier is made of. -/
def lossName (inputIndex : Nat) (category : LossCategory) (sourceObjectId : Option Text) : Text :=
  "loss:".toList ++ Nat.toDigits 10 inputIndex ++ ':' :: category.text.toList ++
    ':' :: sourceObjectId.getD []

/-- `_make_loss`. -/
def makeLoss (importBatchId : Text) (inputIndex : Nat) (recordedAt : Text)
    (category : LossCategory) (sourceObjectId : Option Text) : Staged PortabilityLossRecord := do
  let namespaceId ← orFail ⟨.value, "badly formed hexadecimal UUID string"⟩ (uuid importBatchId)
  let batchId ← validateUuid "batch id" importBatchId
  let recordedAt ← validateTimestamp "recorded at" recordedAt
  let safeObjectId ← validateOptionalText "source object id" sourceObjectId
  return {
    lossRecordId := ImportLibrary.uuid5 namespaceId (lossName inputIndex category sourceObjectId)
    batchId := batchId
    category := category.text
    description := category.description
    recordedAt := recordedAt
    sourceObjectId := safeObjectId }

/-- What becomes of an object. -/
inductive MappingStatus where
  | mappedWithoutKnownLoss | mappedWithTransformation | partiallyMapped | unsupportedButPreserved
  | unsupportedAndOmitted | missingDependency | malformedOrQuarantined | unknown
deriving DecidableEq, Repr

/-- `mapping_counts`: the number of objects of each status. -/
structure MappingCounts where
  mappedWithoutKnownLoss : Nat
  mappedWithTransformation : Nat
  partiallyMapped : Nat
  unsupportedButPreserved : Nat
  unsupportedAndOmitted : Nat
  missingDependency : Nat
  malformedOrQuarantined : Nat
  unknown : Nat
deriving DecidableEq, Repr

/-- `_empty_mapping_counts`. -/
def MappingCounts.empty : MappingCounts := ⟨0, 0, 0, 0, 0, 0, 0, 0⟩

/-- `mapping_counts[status] += n`. -/
def MappingCounts.add (counts : MappingCounts) (status : MappingStatus) (n : Nat) : MappingCounts :=
  match status with
  | .mappedWithoutKnownLoss =>
    { counts with mappedWithoutKnownLoss := counts.mappedWithoutKnownLoss + n }
  | .mappedWithTransformation =>
    { counts with mappedWithTransformation := counts.mappedWithTransformation + n }
  | .partiallyMapped => { counts with partiallyMapped := counts.partiallyMapped + n }
  | .unsupportedButPreserved =>
    { counts with unsupportedButPreserved := counts.unsupportedButPreserved + n }
  | .unsupportedAndOmitted =>
    { counts with unsupportedAndOmitted := counts.unsupportedAndOmitted + n }
  | .missingDependency => { counts with missingDependency := counts.missingDependency + n }
  | .malformedOrQuarantined =>
    { counts with malformedOrQuarantined := counts.malformedOrQuarantined + n }
  | .unknown => { counts with unknown := counts.unknown + n }

/-- `sum(mapping_counts.values())`. -/
def MappingCounts.total (counts : MappingCounts) : Nat :=
  counts.mappedWithoutKnownLoss + counts.mappedWithTransformation + counts.partiallyMapped +
    counts.unsupportedButPreserved + counts.unsupportedAndOmitted + counts.missingDependency +
    counts.malformedOrQuarantined + counts.unknown

omit [PythonLibrary] [ImportLibrary] in
@[simp] theorem MappingCounts.total_empty : MappingCounts.empty.total = 0 := rfl

omit [PythonLibrary] [ImportLibrary] in
@[simp] theorem MappingCounts.total_add (counts : MappingCounts) (status : MappingStatus) (n : Nat) :
    (counts.add status n).total = counts.total + n := by
  cases status <;> simp only [add, total] <;> omega

/-- `MappingReportRecord` of an import. -/
structure MappingReportRecord where
  mappingReportId : RecordId
  batchId : RecordId
  generatedAt : Text
  totalObjectCount : Nat
  counts : MappingCounts
  materialLossCount : Nat
  lossRecordIds : List RecordId
deriving DecidableEq

/-- `MappingReportRecord(direction="import", …)`. -/
def makeMappingReport (mappingReportId : RecordId) (batchId generatedAt : Text)
    (totalObjectCount : Nat) (counts : MappingCounts) (materialLossCount : Nat)
    (lossRecordIds : List RecordId) : Staged MappingReportRecord := do
  let safeBatchId ← validateUuid "batch id" batchId
  let safeGeneratedAt ← validateTimestamp "generated at" generatedAt
  forEach (fun count => validateCount count.1 count.2)
    [("total object count", totalObjectCount),
      ("mapped without known loss count", counts.mappedWithoutKnownLoss),
      ("mapped with transformation count", counts.mappedWithTransformation),
      ("partially mapped count", counts.partiallyMapped),
      ("unsupported but preserved count", counts.unsupportedButPreserved),
      ("unsupported and omitted count", counts.unsupportedAndOmitted),
      ("missing dependency count", counts.missingDependency),
      ("malformed or quarantined count", counts.malformedOrQuarantined),
      ("unknown count", counts.unknown), ("material loss count", materialLossCount)]
  ensure (totalObjectCount = counts.total)
    (contract "mapping counts do not match total object count")
  ensure (materialLossCount ≤ totalObjectCount)
    (contract "material loss count exceeds total object count")
  let safeLossRecordIds ← validateUuidDeclarations "loss record ids" lossRecordIds
  ensure (materialLossCount = 0 ∨ safeLossRecordIds ≠ [])
    (contract "material loss requires at least one loss record")
  return {
    mappingReportId := mappingReportId, batchId := safeBatchId, generatedAt := safeGeneratedAt,
    totalObjectCount := totalObjectCount, counts := counts, materialLossCount := materialLossCount,
    lossRecordIds := safeLossRecordIds }

/-- `ImportBatchRecord` of a staged batch. -/
structure ImportBatchRecord where
  importBatchId : RecordId
  sourceEnvironmentId : RecordId
  adapterId : Text
  adapterVersion : Text
  startedAt : Text
  sourceRootHash : Digest
  stagedObjectCount : Nat
  quarantinedObjectCount : Nat
  mappingReportId : RecordId
deriving DecidableEq

/-- `ImportBatchRecord(status="staged", …)`, nothing of which is published or completed. -/
def makeImportBatch (importBatchId : Text) (environment : SourceEnvironmentRecord)
    (adapter : SourceAdapterContract) (startedAt : Text) (sourceRootHash : Digest)
    (stagedObjectCount quarantinedObjectCount : Nat) (mappingReportId : RecordId) :
    Staged ImportBatchRecord := do
  let safeBatchId ← validateUuid "import batch id" importBatchId
  let adapterId ← validateIdentifier "adapter id" adapter.adapterId
  let adapterVersion ← validateVersion "adapter version" adapter.adapterVersion
  let safeStartedAt ← validateTimestamp "started at" startedAt
  validateCount "staged object count" stagedObjectCount
  validateCount "quarantined object count" quarantinedObjectCount
  ensure (quarantinedObjectCount ≤ stagedObjectCount)
    (contract "import object counts exceed staged object count")
  return {
    importBatchId := safeBatchId, sourceEnvironmentId := environment.environmentId,
    adapterId := adapterId, adapterVersion := adapterVersion, startedAt := safeStartedAt,
    sourceRootHash := sourceRootHash, stagedObjectCount := stagedObjectCount,
    quarantinedObjectCount := quarantinedObjectCount, mappingReportId := mappingReportId }

end

end DollState.Import
