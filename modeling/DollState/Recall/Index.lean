import DollState.Library.Moments
import DollState.Recall.State

/-!
# The lexical index of the memories

The model of `recall_index`: a file beside the database that maps tokens to memories. The index is built
with separate reads of the database, of which the first and the last compare the state revision, and is
published in one step, by `os.replace`. A query reads the file, compares its revision with that of the
database, selects the memories that have every term, and looks at each of them once more.
-/

namespace DollState.Recall.Index

open StateLib

def maxQueryChars : ℕ := 240
def maxQueryTerms : ℕ := 12
def maxResults : ℕ := 100
def maxIndexedMemories : ℕ := 10000
def maxTokensPerMemory : ℕ := 4096
def maxTokenChars : ℕ := 240
def maxPostings : ℕ := 1000000

/-- `MEMORY_LEXICAL_INDEX_SCHEMA_VERSION`. -/
def schemaVersion : Int := 1

/-- `MEMORY_LEXICAL_INDEX_ALGORITHM_ID`. -/
def algorithmId : Text := "memory-exact-token-inverted".toList

/-- `MEMORY_LEXICAL_INDEX_ALGORITHM_VERSION`. -/
def algorithmVersion : Text := "1".toList

/-- The subclasses of `RecallIndexError`. -/
inductive IndexFailure where
  | validation | unavailable | corrupt | unsupported | stale | limit
deriving DecidableEq, Repr

/-- An error of the index, or one of a service that is not caught. -/
inductive IndexError where
  | recall (kind : IndexFailure) (message : String)
  | state (e : DollError)
deriving DecidableEq, Repr

/-- `RecallIndexValidationError(message)`. -/
def invalid (message : String) : IndexError := .recall .validation message

/-- `RecallIndexCorruptError(message)`. -/
def corrupt (message : String) : IndexError := .recall .corrupt message

/-! ## The file -/

inductive FieldClass where
  | subject | content | metadata
deriving DecidableEq, Repr

/-- `_FIELD_ORDER`. -/
def FieldClass.order : FieldClass → ℕ
  | .subject => 0
  | .content => 1
  | .metadata => 2

/-- A row of `indexed_memories`. -/
structure IndexedMemory where
  memoryId : Text
  memoryRevision : Int
  sourceRank : ℕ
deriving DecidableEq

/-- A row of `token_postings`. -/
structure Posting where
  token : Text
  memoryId : Text
  fieldClass : FieldClass
deriving DecidableEq

/-- The row of `index_metadata`. -/
structure IndexMetadata where
  schemaVersion : Int
  algorithmId : Text
  algorithmVersion : Text
  workspaceId : Text
  sourceStateRevision : Int
  indexedMemoryCount : Int
  postingCount : Int
  scanTruncated : Int
deriving DecidableEq

/-- What a file that SQLite can read as an index contains. -/
structure LexicalIndex where
  userVersion : Int
  metadata : Option IndexMetadata
  memories : List IndexedMemory
  postings : List Posting
deriving DecidableEq

/-- What there is at the path of the index: nothing, a symbolic link or a directory, or a file, whose
bytes may be no index. -/
inductive IndexPath where
  | absent
  | notRegular
  | file (content : Option LexicalIndex)
deriving DecidableEq

/-- `MemoryLexicalIndexInspection`. -/
structure Inspection where
  schemaVersion : Int
  algorithmId : Text
  algorithmVersion : Text
  workspaceId : Text
  sourceStateRevision : Int
  indexedMemoryCount : Int
  postingCount : Int
  scanTruncated : Bool
deriving DecidableEq

/-- `MemoryLexicalIndexHit`. -/
structure Hit where
  memoryId : Text
  memoryRevision : Int
  sourceRank : ℕ
deriving DecidableEq

/-- `MemoryLexicalIndexQueryReport`. -/
structure Report where
  sourceStateRevision : Int
  indexedMemoryCount : Int
  postingCount : Int
  scanTruncated : Bool
  termCount : ℕ
  hits : List Hit
deriving DecidableEq

/-! ## Tokens -/

section

variable [Search.UnicodeLibrary]

/-- `_text_tokens`; `_normalize_text` is the normalisation of the recall states. -/
def textTokens (value : Text) : List Text :=
  let normalized := normalizeLexicalText value
  if normalized = [] then []
  else ((normalized.splitOn ' ').filter fun term => 0 < term.length ∧ term.length ≤ maxTokenChars).eraseDups

/-- The `metadata_values` that are texts. -/
def metadataValues (memory : Memory.ConfirmedMemoryInfo) : List Text :=
  ["confirmed".toList, memory.sourceType.text, "confirmed".toList] ++
    [memory.validFrom, memory.validUntil, memory.sourceReference, memory.modelManifestId,
      memory.runtimeAdapterId, memory.sessionId, memory.originOperationId].flatMap Option.toList ++
    memory.relatedMemoryIds.map uuidText ++ memory.contradictsMemoryIds.map uuidText

/-- `_memory_postings`. -/
def memoryPostings (memory : Memory.ConfirmedMemoryInfo) : List (Text × FieldClass) :=
  ((textTokens memory.subject).map (·, FieldClass.subject) ++
    (textTokens memory.content).map (·, FieldClass.content) ++
    ((metadataValues memory).flatMap textTokens).map (·, FieldClass.metadata)).dedup.insertionSort
      fun a b => toLex (a.1, a.2.order) ≤ toLex (b.1, b.2.order)

/-- `_validate_query`. -/
def validateQuery (query : Text) : Except IndexError (List Text) := do
  ensure (query.any Search.isControl = false) (invalid "lexical index query contains a control character")
  let normalized := normalizeLexicalText query
  ensure (normalized ≠ []) (invalid "lexical index query must not be blank")
  ensure (normalized.length ≤ maxQueryChars) (invalid "lexical index query exceeds the maximum length")
  let rawTerms := normalized.splitOn ' '
  ensure (rawTerms.length ≤ maxQueryTerms) (invalid "lexical index query contains too many terms")
  let terms := rawTerms.eraseDups
  ensure (∀ term ∈ terms, term.length ≤ maxTokenChars)
    (invalid "lexical index query term exceeds the token bound")
  return terms

end

/-- `_validate_limit`. -/
def validateLimit (limit : Int) : Except IndexError Unit :=
  ensure (1 ≤ limit ∧ limit ≤ maxResults) (invalid "lexical index result limit must be between 1 and 100")

/-! ## Reading the database -/

/-- The queries of the builder: those of the services, and its inventory of the memories. -/
inductive MemoryQuery where
  | state (q : StateQuery)
  /-- the identifiers of the active memories that are not secret, the latest first, up to a limit -/
  | memoryIds

def MemoryQuery.Answer : MemoryQuery → Type
  | .state q => q.Answer
  | .memoryIds => List RecordId

/-- The `SELECT` of `_populate_index`. -/
def memoryRows (db : Database) : List RecordEnvelope :=
  Search.selectRows db (some "memory".toList) (maxIndexedMemories + 1)

def answerMemory (db : Database) : (q : MemoryQuery) → q.Answer
  | .state q => db.answer q
  | .memoryIds => (memoryRows db).map (·.id)

abbrev MemoryReader := ReadProgram MemoryQuery MemoryQuery.Answer IndexError

/-- A read of a service, its errors turned into others. -/
def ofService {α : Type} (raise : DollError → IndexError) (p : Reader α) : MemoryReader α :=
  p.via .state (fun _ a => a) raise

/-- The inventory of `_populate_index`. -/
def selectMemoryIds : MemoryReader (List RecordId) := ReadProgram.read MemoryQuery.memoryIds

/-- A repository that is open: its workspace record is the one that was read when it was opened. -/
structure Session where
  readOnly : Bool
  workspaceId : RecordId
  stateRevision : ℕ

/-- The workspace and the state revision of `repository.status()`. -/
def status : MemoryReader (RecordId × ℕ) := do
  let row ← (ReadProgram.read (MemoryQuery.state .metadataRow) : MemoryReader (RecordId × ℕ × ℕ))
  return (row.1, row.2.2)

/-- `_require_read_only`. -/
def requireReadOnly (session : Session) : Except IndexError Unit :=
  ensure (session.readOnly = true) (invalid "memory lexical index requires a read-only repository")

/-- `_validate_repository_identity`. -/
def validateRepositoryIdentity (session : Session) : MemoryReader Unit := do
  let status ← status
  ensure (session.workspaceId = status.1 ∧ session.stateRevision = status.2)
    (invalid "workspace identity and Doll State revision are inconsistent")

/-! ## Building -/

section

variable [PythonLibrary] [Search.UnicodeLibrary]

/-- The handlers of `build_memory_lexical_index`: a memory that cannot be read ends the build, a record
that is missing raises as it is. -/
def buildError (e : DollError) : IndexError :=
  if e.kind = .memoryCorrupt then .recall .unavailable "memory lexical index could not be built safely"
  else .state e

/-- The part of the loop of `_populate_index` that reads a memory. -/
def indexMemory (id : RecordId) : MemoryReader Memory.ConfirmedMemoryInfo := do
  let memory ← ofService buildError (Memory.get (uuidText id))
  ensure (memory.status = .active ∧ memory.sensitivity ≠ .secret)
    (corrupt "authoritative memory changed while lexical index was being built")
  return memory

/-- The rows that a memory puts in the index. -/
def postingsOf (memory : Memory.ConfirmedMemoryInfo) : List Posting :=
  (memoryPostings memory).map fun posting => ⟨posting.1, uuidText memory.recordId, posting.2⟩

def indexedMemory (memory : Memory.ConfirmedMemoryInfo) (sourceRank : ℕ) : IndexedMemory :=
  ⟨uuidText memory.recordId, memory.revision, sourceRank⟩

/-- The loop of `_populate_index`, from the number of postings so far: the rows it inserts, and the number
of postings. -/
def populate : List (RecordId × ℕ) → ℕ → MemoryReader (List IndexedMemory × List Posting × ℕ)
  | [], postingCount => return ([], [], postingCount)
  | (id, sourceRank) :: rest, postingCount => do
    let memory ← indexMemory id
    let postings := postingsOf memory
    ensure (postings.length ≤ maxTokensPerMemory)
      (IndexError.recall .limit "one memory exceeds the lexical index token bound")
    ensure (postingCount + postings.length ≤ maxPostings)
      (IndexError.recall .limit "lexical index exceeds the posting bound")
    let (memories, more, total) ← populate rest (postingCount + postings.length)
    return (indexedMemory memory sourceRank :: memories, postings ++ more, total)

/-- `build_memory_lexical_index` up to the replacement of the file. -/
def snapshot (session : Session) : MemoryReader LexicalIndex := do
  requireReadOnly session
  let source ← status
  validateRepositoryIdentity session
  let ids ← selectMemoryIds
  let selected := ids.take maxIndexedMemories
  let (memories, postings, postingCount) ← populate (selected.zipIdx 1) 0
  let final ← status
  ensure (final.2 = source.2)
    (IndexError.recall .stale "authoritative state changed during index construction")
  return {
    userVersion := schemaVersion
    metadata := some {
      schemaVersion, algorithmId, algorithmVersion, workspaceId := uuidText source.1
      sourceStateRevision := source.2, indexedMemoryCount := selected.length, postingCount
      scanTruncated := if maxIndexedMemories < ids.length then 1 else 0 }
    memories, postings }

/-! ## Using the index -/

/-- `_open_index_read_only`. -/
def openIndex : IndexPath → Except IndexError (Option LexicalIndex)
  | .absent => .error (.recall .unavailable "memory lexical index does not exist")
  | .notRegular => .error (invalid "memory lexical index path is unsafe")
  | .file content => .ok content

/-- `_validate_open_index`. -/
def validateOpenIndex (content : Option LexicalIndex) : Except IndexError (LexicalIndex × Inspection) := do
  let index ← orFail (corrupt "memory lexical index is unreadable") content
  let row ← orFail (corrupt "memory lexical index metadata is missing") index.metadata
  ensure (index.userVersion = schemaVersion ∧ row.schemaVersion = schemaVersion ∧
      row.algorithmId = algorithmId ∧ row.algorithmVersion = algorithmVersion)
    (IndexError.recall .unsupported "memory lexical index version is unsupported")
  ensure ((uuid row.workspaceId).isSome = true) (corrupt "memory lexical index workspace ID is invalid")
  ensure (0 ≤ row.sourceStateRevision ∧ 0 ≤ row.indexedMemoryCount ∧
      row.indexedMemoryCount ≤ maxIndexedMemories ∧ 0 ≤ row.postingCount ∧
      row.postingCount ≤ maxPostings ∧ (row.scanTruncated = 0 ∨ row.scanTruncated = 1))
    (corrupt "memory lexical index metadata is out of bounds")
  ensure (index.memories.length = row.indexedMemoryCount ∧ index.postings.length = row.postingCount)
    (corrupt "memory lexical index counts do not match metadata")
  return (index, {
    schemaVersion := row.schemaVersion, algorithmId := row.algorithmId
    algorithmVersion := row.algorithmVersion, workspaceId := row.workspaceId
    sourceStateRevision := row.sourceStateRevision, indexedMemoryCount := row.indexedMemoryCount
    postingCount := row.postingCount, scanTruncated := row.scanTruncated ≠ 0 })

/-- The index is of the workspace, and of the state the database is in. -/
def requireCurrent (inspection : Inspection) (status : RecordId × ℕ) : Except IndexError Unit := do
  ensure (inspection.workspaceId = uuidText status.1)
    (invalid "memory lexical index belongs to another workspace")
  ensure (inspection.sourceStateRevision = status.2)
    (.recall .stale "memory lexical index is stale for current Doll State")

/-- The tokens that the join finds for a memory, among the terms. -/
def joinedTokens (index : LexicalIndex) (terms : List Text) (memory : IndexedMemory) : List Text :=
  (index.postings.filter fun p => p.memoryId = memory.memoryId ∧ p.token ∈ terms).map (·.token)

/-- The `SELECT` of the query: the memories that have as many of the terms as there are. -/
def selectHits (index : LexicalIndex) (terms : List Text) (limit : ℕ) : List IndexedMemory :=
  ((index.memories.filter fun m => joinedTokens index terms m ≠ [] ∧
    (joinedTokens index terms m).dedup.length = terms.length).insertionSort fun a b =>
      toLex (a.sourceRank, a.memoryId) ≤ toLex (b.sourceRank, b.memoryId)).take limit

/-- The handler around the reading of a hit's memory. -/
def hitError (e : DollError) : IndexError :=
  if e.isA [.key, .memoryCorrupt] then corrupt "memory lexical index references invalid authoritative memory"
  else .state e

/-- The body of the loop over the selected rows. -/
def checkedHit (row : IndexedMemory) : MemoryReader Hit := do
  let memory ← ofService hitError (Memory.get row.memoryId)
  ensure (memory.revision = row.memoryRevision ∧ memory.status = .active ∧ memory.sensitivity ≠ .secret)
    (corrupt "memory lexical index binding disagrees with authoritative memory")
  return ⟨row.memoryId, row.memoryRevision, row.sourceRank⟩

/-- `os.replace` of `build_memory_lexical_index`, and the check before it. -/
def replaceIndex (index : LexicalIndex) : IndexPath → Except IndexError IndexPath
  | .notRegular => .error (invalid "existing lexical index path is unsafe")
  | .absent | .file _ => .ok (.file (some index))

/-- `discard_memory_lexical_index`, from where it looks at the path. -/
def discardIndex : IndexPath → Except IndexError IndexPath
  | .notRegular => .error (invalid "memory lexical index path is unsafe")
  | .absent | .file _ => .ok .absent

/-- What a process reads: the database, or what there is at the path of the index. -/
inductive IndexQuery where
  | memory (q : MemoryQuery)
  | path

def IndexQuery.Answer : IndexQuery → Type
  | .memory q => q.Answer
  | .path => IndexPath

abbrev IndexReader := ReadProgram IndexQuery IndexQuery.Answer IndexError

/-- What the processes share: the database, and the path of the index. -/
structure Shared where
  db : Database
  index : IndexPath

def Shared.answer (s : Shared) : (q : IndexQuery) → q.Answer
  | .memory q => answerMemory s.db q
  | .path => s.index

/-- A read of the database alone. -/
def ofMemory {α : Type} (p : MemoryReader α) : IndexReader α := p.via .memory (fun _ a => a) id

def readPath : IndexReader IndexPath := ReadProgram.read IndexQuery.path

/-- `inspect_memory_lexical_index`. -/
def inspectIndex (session : Session) : IndexReader Inspection := do
  requireReadOnly session
  ofMemory (validateRepositoryIdentity session)
  let content ← openIndex (← readPath)
  let (_, inspection) ← validateOpenIndex content
  requireCurrent inspection (← ofMemory status)
  return inspection

/-- `query_memory_lexical_index`. -/
def queryIndex (session : Session) (query : Text) (limit : Int) : IndexReader Report := do
  requireReadOnly session
  ofMemory (validateRepositoryIdentity session)
  let terms ← validateQuery query
  validateLimit limit
  let content ← openIndex (← readPath)
  let (index, inspection) ← validateOpenIndex content
  requireCurrent inspection (← ofMemory status)
  let hits ← ReadProgram.collect (fun row => ofMemory (checkedHit row)) (selectHits index terms limit.toNat)
  return {
    sourceStateRevision := inspection.sourceStateRevision
    indexedMemoryCount := inspection.indexedMemoryCount, postingCount := inspection.postingCount
    scanTruncated := inspection.scanTruncated, termCount := terms.length, hits }

end

end DollState.Recall.Index
