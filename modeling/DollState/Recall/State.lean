import DollState.Memory.Records
import DollState.Search.LocalSearch

/-!
# Recall states

The model of `derive_memory_recall_state`. The memories that the local search finds are read by their service,
scored by the fields that hold the terms of the query, and put in the order of their scores.
-/

namespace DollState.Recall

open StateLib Search

/-- An error of the derivation: one that it raises itself, or one of the search or of the memory service. -/
inductive RecallError where
  /-- `RecallStateValidationError` -/
  | validation (message : String)
  | search (e : LocalSearchValidationError)
  | state (e : DollError)

inductive RecallAlgorithm where
  | localSearchOrder | boundedFieldCountRerank | weightedMemoryFields
deriving DecidableEq, Repr

def weightedSubjectTermScore : ℕ := 8
def weightedContentTermScore : ℕ := 4
def weightedMetadataOnlyTermScore : ℕ := 1
def weightedSubjectPhraseBonus : ℕ := 8
def weightedContentPhraseBonus : ℕ := 4

/-- `RecallState`; its algorithm is that of the report. -/
structure RecallState where
  memoryId : RecordId
  memoryRevision : Int
  sourceStateRevision : ℕ
  lexicalScore : ℕ
  rank : ℕ

structure RecallStateReport where
  sourceStateRevision : ℕ
  algorithm : RecallAlgorithm
  scannedRecords : ℕ
  scanTruncated : Bool
  states : List RecallState

/-- `_RecallCandidate`. -/
structure RecallCandidate where
  memoryId : RecordId
  memoryRevision : Int
  sourceRank : ℕ
  lexicalScore : ℕ

section

variable [UnicodeLibrary]

/-- `_normalize_lexical_text`. -/
def normalizeLexicalText (value : Text) : Text := casefold (joinWords (UnicodeLibrary.nfkc value))

/-- `_normalized_query_parts`. -/
def normalizedQueryParts (query : Text) : Text × List Text :=
  (normalizeLexicalText query, ((normalizeLexicalText query).splitOn ' ').eraseDups)

/-- The score of one term. -/
def termScore (subject content term : Text) : ℕ :=
  (if contains term subject then weightedSubjectTermScore else 0) +
    (if contains term content then weightedContentTermScore else 0) +
    if contains term subject = false ∧ contains term content = false then weightedMetadataOnlyTermScore else 0

/-- `_weighted_memory_lexical_score`. -/
def weightedMemoryLexicalScore (memory : Memory.ConfirmedMemoryInfo) (normalizedQuery : Text)
    (queryTerms : List Text) : ℕ :=
  let subject := normalizeLexicalText memory.subject
  let content := normalizeLexicalText memory.content
  (queryTerms.map (termScore subject content)).sum +
    (if contains normalizedQuery subject then weightedSubjectPhraseBonus else 0) +
    if contains normalizedQuery content then weightedContentPhraseBonus else 0

/-- The sort key of a candidate. -/
def candidateKey (candidate : RecallCandidate) : ℤ ×ₗ ℕ ×ₗ Text :=
  toLex (-(candidate.lexicalScore : ℤ), toLex (candidate.sourceRank, uuidText candidate.memoryId))

/-- The order of the candidates. -/
def orderCandidates (algorithm : RecallAlgorithm) (candidates : List RecallCandidate) : List RecallCandidate :=
  if algorithm = .localSearchOrder then candidates
  else candidates.insertionSort fun a b => candidateKey a ≤ candidateKey b

variable [PythonLibrary] [CaseLibrary]

/-- `_candidate_from_hit`, of a hit with its rank. -/
def candidateFromHit (db : Database) (algorithm : RecallAlgorithm) (normalizedQuery : Text) (queryTerms : List Text)
    (hit : LocalSearchHit × ℕ) : Except RecallError RecallCandidate :=
  match (Memory.get (uuidText hit.1.recordId)).on db with
  | .error e => .error (.state e)
  | .ok memory => .ok {
      memoryId := memory.recordId, memoryRevision := memory.revision, sourceRank := hit.2
      lexicalScore := if algorithm = .weightedMemoryFields then
        weightedMemoryLexicalScore memory normalizedQuery queryTerms else hit.1.found.length }

/-- The search that the derivation starts from. -/
def searchMemories (db : Database) (query : Text) (limit : Int) : Except LocalSearchValidationError LocalSearchReport :=
  searchLocalState db true query (some "memory".toList) limit

/-- `derive_memory_recall_state`, of a supported algorithm. -/
def deriveMemoryRecallState (db : Database) (readOnly : Bool) (query : Text) (limit : Int)
    (algorithm : RecallAlgorithm) : Except RecallError RecallStateReport := do
  ensure (readOnly = true) (.validation "recall derivation requires a read-only repository")
  let report ← (searchMemories db query limit).mapError .search
  let (normalizedQuery, queryTerms) := normalizedQueryParts query
  let candidates ← (report.hits.zipIdx 1).mapM (candidateFromHit db algorithm normalizedQuery queryTerms)
  let states := ((orderCandidates algorithm candidates).zipIdx 1).map fun (candidate, rank) =>
    { memoryId := candidate.memoryId, memoryRevision := candidate.memoryRevision
      sourceStateRevision := db.stateRevision, lexicalScore := candidate.lexicalScore, rank }
  return {
    sourceStateRevision := db.stateRevision, algorithm, scannedRecords := report.scannedRecords
    scanTruncated := report.scanTruncated, states }

end

end DollState.Recall
