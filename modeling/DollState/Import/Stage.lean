import DollState.Import.Source

/-!
# Staging an import

The model of `GenericImportStager`. Every object of a source is either staged or quarantined, in
one of several passes: objects that cannot be parsed, groups of occurrences of one identifier that
conflict or are not supported, groups on a cycle of the parent relation, groups with a missing
parent. The passes share the accumulators of `_build_stage_result`, which are a `Ledger` here.
-/

namespace DollState.Import

open StateLib JsonText

inductive SourceFormat where
  | json | jsonl
deriving DecidableEq, Repr

def SourceFormat.text : SourceFormat → Text
  | .json => "json".toList
  | .jsonl => "jsonl".toList

inductive StagedMappingStatus where
  | mappedWithoutKnownLoss | mappedWithTransformation
deriving DecidableEq, Repr

/-- `StagedSourceObject`; its authority class is always external data. -/
structure StagedSourceObject where
  sourceObjectId : Text
  sourceType : Text
  parentSourceObjectIds : List Text
  sourceHash : Digest
  payloadJson : Text
  mappingStatus : StagedMappingStatus
deriving DecidableEq

/-- `QuarantinedSourceObject`. -/
structure QuarantinedSourceObject where
  inputIndex : Nat
  sourceObjectId : Option Text
  sourceHash : Digest
  reason : String
deriving DecidableEq

/-- `GenericImportStageResult`. -/
structure GenericImportStageResult where
  sourceFormat : SourceFormat
  formatVersion : Text
  sourceRootHash : Digest
  adapterFingerprint : Digest
  importBatch : ImportBatchRecord
  mappingReport : MappingReportRecord
  stagedObjects : List StagedSourceObject
  quarantinedObjects : List QuarantinedSourceObject
  lossRecords : List PortabilityLossRecord
  duplicateObjectCount : Nat

/-! ## The accumulators -/

/-- `quarantined`, `losses`, `mapping_counts` and `material_object_indexes`. -/
structure Ledger where
  quarantined : List QuarantinedSourceObject
  losses : List PortabilityLossRecord
  mappingCounts : MappingCounts
  materialObjectIndexes : List Nat

def Ledger.empty : Ledger := ⟨[], [], .empty, []⟩

/-- A candidate that has been accepted for all its occurrences: an entry of `accepted` and
`occurrence_indexes`, which always have the same keys. -/
structure AcceptedObject where
  candidate : Candidate
  indexes : List Nat

def AcceptedObject.sourceObjectId (a : AcceptedObject) : Text := a.candidate.sourceObjectId

/-- The batch that an object is staged for. -/
structure BatchContext where
  importBatchId : Text
  startedAt : Text

/-- Why an object is quarantined. -/
structure Refusal where
  reason : String
  status : MappingStatus
  category : LossCategory

section

variable [PythonLibrary] [ImportLibrary]

/-- Add a loss record for an object, which is material. -/
def Ledger.lose (ctx : BatchContext) (category : LossCategory) (sourceObjectId : Option Text)
    (ledger : Ledger) (inputIndex : Nat) : Staged Ledger := do
  let loss ← makeLoss ctx.importBatchId inputIndex ctx.startedAt category sourceObjectId
  return { ledger with
    losses := ledger.losses ++ [loss]
    materialObjectIndexes := ledger.materialObjectIndexes.insert inputIndex }

/-- Quarantine an occurrence: what every pass does with an object it refuses. -/
def Ledger.quarantine (ctx : BatchContext) (refusal : Refusal) (sourceObjectId : Option Text)
    (ledger : Ledger) (occurrence : Nat × Digest) : Staged Ledger :=
  Ledger.lose ctx refusal.category sourceObjectId
    { ledger with
      quarantined := ledger.quarantined ++
        [⟨occurrence.1, sourceObjectId, occurrence.2, refusal.reason⟩]
      mappingCounts := ledger.mappingCounts.add refusal.status 1 }
    occurrence.1

/-! ## Parsing -/

/-- The body of the first loop of `_build_stage_result`. -/
def stageRaw (ctx : BatchContext) (state : Ledger × List Candidate) (raw : RawObject) :
    Staged (Ledger × List Candidate) :=
  let (ledger, parsed) := state
  match raw.parseReason with
  | some reason => do
    let ledger ← ledger.quarantine ctx ⟨reason, .malformedOrQuarantined, .malformedObject⟩ none
      (raw.inputIndex, raw.sourceHash)
    return (ledger, parsed)
  | none =>
    match parseCandidate raw with
    | .ok candidate => .ok (ledger, parsed ++ [candidate])
    | .error problem => do
      let ledger ← ledger.quarantine ctx
        ⟨problem.reason, .malformedOrQuarantined, .invalidObject⟩ problem.sourceObjectId
        (raw.inputIndex, raw.sourceHash)
      return (ledger, parsed)

/-! ## Duplicates and support -/

/-- `_source_type_supported`. -/
def sourceTypeSupported (adapter : SourceAdapterContract) (candidate : Candidate) : Bool :=
  if candidate.sourceType = "conversation".toList then true
  else if candidate.sourceType = "attachment".toList then
    adapter.attachmentBehavior ≠ .unsupported
  else candidate.sourceType ∈ adapter.supportedEventTypes

/-- `len(text.encode("utf-8"))`. -/
def utf8Length (text : Text) : Nat := (text.map Char.utf8Size).sum

/-- Why a group of occurrences is refused, `representative` being the first of them. -/
def groupRefusal (adapter : SourceAdapterContract) (group : List Candidate)
    (representative : Candidate) : Option Refusal :=
  if ∃ item ∈ group, item.sourceHash ≠ representative.sourceHash then
    some ⟨"conflicting-duplicate", .malformedOrQuarantined, .conflictingDuplicate⟩
  else if representative.sourceType = "attachment".toList ∧
      adapter.resourceLimits.maxAttachmentBytes < utf8Length representative.payloadJson then
    some ⟨"attachment-byte-limit", .malformedOrQuarantined, .attachmentByteLimit⟩
  else if sourceTypeSupported adapter representative = false then
    some ⟨"unsupported-source-type", .unsupportedButPreserved, .unsupportedSourceType⟩
  else if representative.parentSourceObjectIds ≠ [] ∧ adapter.branchBehavior = .unsupported then
    some ⟨"unsupported-branch-relationship", .unsupportedButPreserved,
      .unsupportedBranchRelationship⟩
  else none

/-- The state of `_classify_duplicates_and_support`. -/
structure Classified where
  ledger : Ledger
  accepted : List AcceptedObject
  duplicateCount : Nat

/-- The body of its loop: the occurrences of one identifier, of which there is one at least. -/
def classifyGroup (ctx : BatchContext) (adapter : SourceAdapterContract)
    (candidates : List Candidate) (state : Classified) (sourceObjectId : Text) :
    Staged Classified :=
  let group := candidates.filter fun item => item.sourceObjectId = sourceObjectId
  match group.minOn? Candidate.inputIndex with
  | none => .ok state
  | some representative =>
    match groupRefusal adapter group representative with
    | some refusal => do
      let ledger ← group.foldlM (fun ledger item =>
        Ledger.quarantine ctx refusal (some item.sourceObjectId) ledger
          (item.inputIndex, item.sourceHash)) state.ledger
      return { state with ledger := ledger }
    | none => .ok { state with
        accepted := state.accepted ++
          [⟨representative, (group.map Candidate.inputIndex).insertionSort (· ≤ ·)⟩]
        duplicateCount := state.duplicateCount + (group.length - 1) }

/-- `_classify_duplicates_and_support`. -/
def classifyDuplicatesAndSupport (ctx : BatchContext) (adapter : SourceAdapterContract)
    (candidates : List Candidate) (ledger : Ledger) : Staged Classified :=
  ((candidates.map Candidate.sourceObjectId).dedup.insertionSort (· ≤ ·)).foldlM
    (classifyGroup ctx adapter candidates) ⟨ledger, [], 0⟩

/-! ## Cycles and missing parents -/

/-- The state of the search for cycles: `state` is 2 for the identifiers in `done`, 1 for those on
the stack, whose positions there are the `positions`. -/
structure Search where
  done : List Text
  stack : List Text
  cycles : List Text

/-- The body of the loop over the parents of an identifier; `visit` is the call that enters one. -/
def visitParent (parents : Text → Option (List Text)) (visit : Text → Search → Staged Search)
    (search : Search) (parentId : Text) : Staged Search :=
  if (parents parentId).isNone ∨ parentId ∈ search.done then .ok search
  else if parentId ∈ search.stack then
    .ok { search with
      cycles := search.cycles ∪ search.stack.drop (search.stack.idxOf parentId) }
  else visit parentId search

/-- `visit`, with as many calls inside one another as `levels`. -/
def visit (parents : Text → Option (List Text)) : Nat → Text → Search → Staged Search
  | 0, _, _ => .error recursionError
  | levels + 1, sourceObjectId, search => do
    let entered := { search with stack := search.stack ++ [sourceObjectId] }
    let left ← ((parents sourceObjectId).getD []).foldlM
      (visitParent parents (visit parents levels)) entered
    return { left with stack := left.stack.dropLast, done := sourceObjectId :: left.done }

/-- The parents of the accepted objects. -/
def parentsOf (accepted : List AcceptedObject) (sourceObjectId : Text) : Option (List Text) :=
  (accepted.find? fun a => a.sourceObjectId = sourceObjectId).map fun a =>
    a.candidate.parentSourceObjectIds

/-- `_cycle_source_ids`. -/
def cycleSourceIds (accepted : List AcceptedObject) : Staged (List Text) := do
  let search ← ((accepted.map AcceptedObject.sourceObjectId).insertionSort (· ≤ ·)).foldlM
    (fun search sourceObjectId =>
      if sourceObjectId ∈ search.done then .ok search
      else visit (parentsOf accepted) ImportLibrary.visitLevels sourceObjectId search)
    ⟨[], [], []⟩
  return search.cycles

/-- `accepted.pop` and `occurrence_indexes.pop`, and the quarantine of what they return. -/
def expel (ctx : BatchContext) (refusal : Refusal) (state : Ledger × List AcceptedObject)
    (sourceObjectId : Text) : Staged (Ledger × List AcceptedObject) := do
  let (ledger, accepted) := state
  let a ← orFail ⟨.key, String.ofList sourceObjectId⟩
    (accepted.find? fun a => a.sourceObjectId = sourceObjectId)
  let ledger ← a.indexes.foldlM (fun ledger inputIndex =>
    Ledger.quarantine ctx refusal (some a.sourceObjectId) ledger
      (inputIndex, a.candidate.sourceHash)) ledger
  return (ledger, accepted.filter fun b => b.sourceObjectId ≠ sourceObjectId)

def cyclicParent : Refusal :=
  ⟨"cyclic-parent-relationship", .malformedOrQuarantined, .cyclicParentRelationship⟩

def missingParent : Refusal :=
  ⟨"missing-parent-dependency", .missingDependency, .missingParentDependency⟩

/-- The identifiers of the accepted objects with a parent that is not accepted. -/
def missing (accepted : List AcceptedObject) : List Text :=
  ((accepted.filter fun a => a.candidate.parentSourceObjectIds.any fun parentId =>
    parentId ∉ accepted.map AcceptedObject.sourceObjectId).map
      AcceptedObject.sourceObjectId).insertionSort (· ≤ ·)

/-- The loop of `_quarantine_cycles_and_missing_dependencies`; each round but the last expels an
object, so that there are no more rounds than objects and one. -/
def quarantineMissing (ctx : BatchContext) : Nat → Ledger × List AcceptedObject →
    Staged (Ledger × List AcceptedObject)
  | 0, state => .ok state
  | rounds + 1, state => do
    let ids := missing state.2
    if ids = [] then return state
    let state ← ids.foldlM (expel ctx missingParent) state
    quarantineMissing ctx rounds state

/-- `_quarantine_cycles_and_missing_dependencies`. -/
def quarantineCyclesAndMissingDependencies (ctx : BatchContext)
    (state : Ledger × List AcceptedObject) : Staged (Ledger × List AcceptedObject) := do
  let cycleIds ← cycleSourceIds state.2
  let state ← (cycleIds.insertionSort (· ≤ ·)).foldlM (expel ctx cyclicParent) state
  quarantineMissing ctx (state.2.length + 1) state

/-! ## The result -/

/-- The losses that the adapter declares for an accepted object. -/
def declaredLosses (adapter : SourceAdapterContract) (candidate : Candidate) :
    List LossCategory :=
  (if candidate.parentSourceObjectIds ≠ [] ∧ adapter.branchBehavior = .linearizeWithLoss then
    [.branchLinearization] else []) ++
  (if candidate.sourceType = "attachment".toList ∧ adapter.attachmentBehavior = .metadataOnly then
    [.attachmentMetadataOnly] else [])

/-- The body of the last loop of `_build_stage_result`. -/
def stageAccepted (ctx : BatchContext) (adapter : SourceAdapterContract)
    (state : Ledger × List StagedSourceObject) (a : AcceptedObject) :
    Staged (Ledger × List StagedSourceObject) := do
  let (ledger, staged) := state
  let losses := declaredLosses adapter a.candidate
  let ledger ← losses.foldlM (fun ledger category =>
    a.indexes.foldlM (Ledger.lose ctx category (some a.sourceObjectId)) ledger) ledger
  let transformed := losses ≠ []
  let status : MappingStatus :=
    if transformed then .mappedWithTransformation else .mappedWithoutKnownLoss
  return ({ ledger with mappingCounts := ledger.mappingCounts.add status a.indexes.length },
    staged ++ [{
      sourceObjectId := a.candidate.sourceObjectId
      sourceType := a.candidate.sourceType
      parentSourceObjectIds := a.candidate.parentSourceObjectIds
      sourceHash := a.candidate.sourceHash
      payloadJson := a.candidate.payloadJson
      mappingStatus := if transformed then .mappedWithTransformation else .mappedWithoutKnownLoss }])

/-- What `_build_stage_result` makes of the raw objects before it sorts them. -/
structure Built where
  ledger : Ledger
  staged : List StagedSourceObject
  duplicateCount : Nat

/-- The passes of `_build_stage_result`. -/
def build (ctx : BatchContext) (adapter : SourceAdapterContract) (rawObjects : List RawObject) :
    Staged Built := do
  let (ledger, parsed) ← rawObjects.foldlM (stageRaw ctx) (Ledger.empty, [])
  let classified ← classifyDuplicatesAndSupport ctx adapter parsed ledger
  let state ← quarantineCyclesAndMissingDependencies ctx (classified.ledger, classified.accepted)
  let (ledger, staged) ← state.2.foldlM (stageAccepted ctx adapter) (state.1, [])
  return ⟨ledger, staged, classified.duplicateCount⟩

/-- What a stager has been built with, which it has found to match. -/
structure Stager where
  adapter : SourceAdapterContract
  environment : SourceEnvironmentRecord
  offline : adapter.networkBehavior = .none
  sameClass : adapter.sourceEnvironmentClass = environment.environmentClass

/-- `_build_stage_result`. -/
def Stager.buildStageResult (stager : Stager) (rawObjects : List RawObject)
    (sourceFormat : SourceFormat) (formatVersion : Text) (sourceRootHash : Digest)
    (ctx : BatchContext) : Staged GenericImportStageResult := do
  let built ← build ctx stager.adapter rawObjects
  let staged := built.staged.insertionSort fun a b => a.sourceObjectId ≤ b.sourceObjectId
  let quarantined := built.ledger.quarantined.insertionSort fun a b => a.inputIndex ≤ b.inputIndex
  let losses := built.ledger.losses.insertionSort fun a b =>
    a.lossRecordId.toNat ≤ b.lossRecordId.toNat
  let namespaceId ← orFail ⟨.value, "badly formed hexadecimal UUID string"⟩
    (uuid ctx.importBatchId)
  let mappingReportId := ImportLibrary.uuid5 namespaceId "mapping-report".toList
  let mappingReport ← makeMappingReport mappingReportId ctx.importBatchId ctx.startedAt
    rawObjects.length built.ledger.mappingCounts built.ledger.materialObjectIndexes.length
    (losses.map PortabilityLossRecord.lossRecordId)
  let importBatch ← makeImportBatch ctx.importBatchId stager.environment stager.adapter
    ctx.startedAt sourceRootHash rawObjects.length quarantined.length mappingReportId
  return {
    sourceFormat := sourceFormat, formatVersion := formatVersion, sourceRootHash := sourceRootHash,
    adapterFingerprint := stager.adapter.fingerprint, importBatch := importBatch,
    mappingReport := mappingReport, stagedObjects := staged, quarantinedObjects := quarantined,
    lossRecords := losses, duplicateObjectCount := built.duplicateCount }

/-! ## Staging -/

/-- `source_bytes.decode("utf-8")`. -/
def decodeUtf8 (sourceBytes : ByteArray) : Option Text :=
  (String.fromUTF8? sourceBytes).map String.toList

/-- The checks of the nesting of a raw object. -/
def checkNesting (adapter : SourceAdapterContract) (raw : RawObject) : Staged Unit :=
  match raw.value with
  | none => .ok ()
  | some value => do
    ensure (calls value ≤ ImportLibrary.depthLevels)
      (staging "source nesting exceeds safe parser depth")
    ensure (depth value ≤ adapter.resourceLimits.maxNestingDepth)
      (staging "source nesting exceeds adapter limit")

/-- The parser of a format. -/
def parseEnvelope : SourceFormat → Text → Staged (Manifest × List RawObject)
  | .json => parseJsonEnvelope
  | .jsonl => parseJsonlEnvelope

/-- The part of `stage` between the decoding of the source and `_build_stage_result`: the version
and the raw objects of the source. -/
def Stager.readText (stager : Stager) (sourceText : Text) (sourceFormat : SourceFormat) :
    Staged (Text × List RawObject) := do
  let (manifest, rawObjects) ← parseEnvelope sourceFormat sourceText
  let formatVersion ← validateManifest manifest stager.environment stager.adapter
  ensure (rawObjects.length ≤ stager.adapter.resourceLimits.maxObjectCount)
    (staging "source object count exceeds adapter limit")
  forEach (checkNesting stager.adapter) rawObjects
  return (formatVersion, rawObjects)

/-- The checks of `stage` on the bytes, and the text they encode. -/
def Stager.readBytes (stager : Stager) (sourceBytes : ByteArray) (sourceFormat : SourceFormat) :
    Staged Text := do
  ensure (sourceBytes.size ≤ stager.adapter.resourceLimits.maxInputBytes)
    (staging "source input exceeds adapter byte limit")
  ensure (sourceBytes.size ≠ 0) (staging "source input must not be empty")
  ensure (∀ format ∈ stager.environment.exportFormat, format = sourceFormat.text)
    (staging "source format does not match source environment")
  orFail (staging "source input is not valid UTF-8") (decodeUtf8 sourceBytes)

/-- `stage`. -/
def Stager.stage (stager : Stager) (sourceBytes : ByteArray) (sourceFormat : SourceFormat)
    (ctx : BatchContext) : Staged GenericImportStageResult := do
  let sourceText ← stager.readBytes sourceBytes sourceFormat
  let (formatVersion, rawObjects) ← stager.readText sourceText sourceFormat
  stager.buildStageResult rawObjects sourceFormat formatVersion (ImportLibrary.sha256 sourceText) ctx

/-! ## Encoding a source -/

/-- `text.encode("utf-8")`. -/
def encodeUtf8 (text : Text) : ByteArray := (String.ofList text).toUTF8

omit [PythonLibrary] [ImportLibrary] in
theorem decodeUtf8_encodeUtf8 (text : Text) : decodeUtf8 (encodeUtf8 text) = some text := by
  have hvalid : (encodeUtf8 text).IsValidUTF8 := (String.ofList text).isValidUTF8
  rw [decodeUtf8, String.fromUTF8?, dif_pos hvalid, Option.map_some]
  congr 1
  exact String.toList_ofList

omit [PythonLibrary] [ImportLibrary] in
theorem size_encodeUtf8 (text : Text) : (encodeUtf8 text).size = utf8Length text := by
  have hsize : ∀ text : Text, text.utf8Encode.size = utf8Length text := by
    intro text
    induction text with
    | nil => rfl
    | cons c cs ih =>
      rw [← List.singleton_append, List.utf8Encode_append, ByteArray.size_append, ih,
        List.utf8Encode_singleton]
      simp [utf8Length]
  rw [← hsize]
  exact congrArg ByteArray.size (String.toByteArray_ofList)

end

end DollState.Import
