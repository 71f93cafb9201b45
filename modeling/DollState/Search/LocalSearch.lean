import DollState.Library.Check
import DollState.Library.Folding
import DollState.State.Database
import Mathlib.Data.Char
import Mathlib.Data.List.Lex
import Mathlib.Data.List.Sort
import Mathlib.Data.Prod.Lex

/-!
# Full-text search over the records

A query is a list of terms, all of which a record has to contain. The texts of a record are its title and
the strings in its metadata; they are normalised and case-folded before a term is looked for. What
`unicodedata` and `str.casefold` answer is taken from `UnicodeLibrary`.
-/

namespace DollState.Search

open StateLib

/-- The tables of Unicode. -/
class UnicodeLibrary where
  /-- `unicodedata.normalize("NFKC", text)`. -/
  nfkc : Text → Text
  /-- `str.casefold` of one character. -/
  foldChar : Char → Text

def maxQueryChars : ℕ := 240
def maxQueryTerms : ℕ := 12
def maxRecordTypeChars : ℕ := 128
def maxResults : ℕ := 100
def maxScannedRecords : ℕ := 10000
def maxMatchesPerHit : ℕ := 3
def maxSnippetChars : ℕ := 160
def maxFieldPathChars : ℕ := 160

/-- `LocalSearchValidationError`. -/
structure LocalSearchValidationError where
  message : String
deriving DecidableEq

/-- A match in one field of a record. -/
structure LocalSearchMatch where
  fieldPath : Text
  snippet : Text
deriving DecidableEq

/-- One record of the result. -/
structure LocalSearchHit where
  recordId : RecordId
  recordType : String
  sensitivity : RecordSensitivity
  title : Option Text
  found : List LocalSearchMatch
deriving DecidableEq

structure LocalSearchReport where
  recordTypeFilter : Option Text
  scannedRecords : ℕ
  scanTruncated : Bool
  hits : List LocalSearchHit

section

variable [UnicodeLibrary]

/-! ## Texts -/

/-- `str.casefold`. -/
def casefold (text : Text) : Text := text.flatMap UnicodeLibrary.foldChar

/-- `_normalize_display_text`. -/
def normalizeDisplayText (value : Text) : Text := joinWords (UnicodeLibrary.nfkc value)

/-- A character below the space, or the delete character. -/
def isControl (c : Char) : Bool := c.toNat < 32 || c.toNat == 127

/-- The ellipsis that stands for what is cut off. -/
def ellipsis : Char := '…'

/-- `_safe_field_component`. -/
def safeFieldComponent (value : Text) : Text :=
  let normalized := normalizeDisplayText (value.map fun c => if isControl c then '?' else c)
  if normalized = [] then ['?']
  else if 48 < normalized.length then normalized.take 47 ++ [ellipsis]
  else normalized

/-- `_bound_field_path`. -/
def boundFieldPath (value : Text) : Text :=
  if value.length ≤ maxFieldPathChars then value
  else ellipsis :: value.drop (value.length - (maxFieldPathChars - 1))

mutual

/-- `_iter_text_fields`. -/
def iterTextFields : Json → Text → List (Text × Text)
  | .str s, path => [(path, s)]
  | .obj entries, path =>
    ((entryFields entries path).insertionSort fun a b => a.1 ≤ b.1).flatMap Prod.snd
  | .arr items, path => itemFields items path 0
  | _, _ => []

/-- The keys of an object, each with the texts below it. -/
def entryFields : List (String × Json) → Text → List (Text × List (Text × Text))
  | [], _ => []
  | (key, value) :: entries, path =>
    (key.toList, iterTextFields value (path ++ '.' :: safeFieldComponent key.toList)) ::
      (entryFields entries path).filter fun entry => entry.1 ≠ key.toList

/-- The texts below the elements of a list. -/
def itemFields : List Json → Text → ℕ → List (Text × Text)
  | [], _, _ => []
  | item :: items, path, index =>
    iterTextFields item (path ++ '[' :: Nat.toDigits 10 index ++ [']']) ++ itemFields items path (index + 1)

end

/-- The texts of a record, each with its path. -/
def textFields (row : RecordEnvelope) : List (Text × Text) :=
  row.title.toList.map ("title".toList, ·) ++ iterTextFields (.obj row.metadata) "metadata".toList

/-! ## Requests -/

/-- `_validate_query`. -/
def validateQuery (query : Text) : Except LocalSearchValidationError (List Text) := do
  ensure (query.any isControl = false) ⟨"search query contains a control character"⟩
  let normalized := normalizeDisplayText query
  ensure (normalized ≠ []) ⟨"search query must not be blank"⟩
  ensure (normalized.length ≤ maxQueryChars) ⟨"search query exceeds the maximum length"⟩
  let rawTerms := normalized.splitOn ' '
  ensure (rawTerms.length ≤ maxQueryTerms) ⟨"search query contains too many terms"⟩
  return (rawTerms.map casefold).eraseDups

/-- `[a-z0-9][a-z0-9_.-]{0,127}` matches the whole text. -/
def isRecordType (value : Text) : Bool :=
  let isEdge := fun (c : Char) => c.isLower || c.isDigit
  value.head?.any isEdge && value.length ≤ maxRecordTypeChars &&
    value.all fun c => isEdge c || c == '_' || c == '.' || c == '-'

/-- `_validate_record_type`. -/
def validateRecordType [CaseLibrary] (recordType : Option Text) :
    Except LocalSearchValidationError (Option Text) :=
  match recordType with
  | none => .ok none
  | some value => do
    let normalized := CaseLibrary.lower (strip value)
    ensure (isRecordType normalized = true) ⟨"record type filter is invalid"⟩
    return some normalized

/-- `_validate_limit`. -/
def validateLimit (limit : Int) : Except LocalSearchValidationError Unit :=
  ensure (1 ≤ limit ∧ limit ≤ maxResults) ⟨"search result limit must be between 1 and 100"⟩

/-! ## Matches -/

/-- `_make_snippet`. A difference that would be negative is zero, as `max(0, …)` makes it. -/
def makeSnippet (value : Text) (terms : List Text) : Text :=
  let folded := casefold value
  let starts := terms.filterMap (Folding.find? · folded)
  let first := starts.min?.getD 0
  let start := first - 48
  let stop := min value.length (start + maxSnippetChars)
  let start := if stop - start < maxSnippetChars ∧ 0 < start then stop - maxSnippetChars else start
  let snippet := (value.take stop).drop start
  let snippet := if 0 < start then ellipsis :: snippet else snippet
  if stop < value.length then snippet ++ [ellipsis] else snippet

/-- The terms that a text contains. -/
def fieldTerms (terms : List Text) (rawText : Text) : List Text :=
  terms.filter fun term => contains term (casefold (normalizeDisplayText rawText))

/-- The match that a field is reported as. -/
def fieldMatch (terms : List Text) (field : Text × Text) : LocalSearchMatch where
  fieldPath := boundFieldPath field.1
  snippet := makeSnippet (normalizeDisplayText field.2) (fieldTerms terms field.2)

/-- What has been found in the fields of a record so far. -/
structure RowState where
  matchedTerms : List Text
  found : List LocalSearchMatch
  titleTermCount : ℕ

/-- The body of the loop over the fields of a record. -/
def matchField (terms : List Text) (seen : RowState) (field : Text × Text) : RowState :=
  if normalizeDisplayText field.2 = [] then seen
  else
    let found := fieldTerms terms field.2
    if found = [] then seen
    else {
      matchedTerms := seen.matchedTerms ++ found
      found := seen.found ++ [fieldMatch terms field]
      titleTermCount := if field.1 = "title".toList then found.length else seen.titleTermCount }

/-- The title comes first, and the other fields follow in the order of their paths. -/
def matchKey (m : LocalSearchMatch) : Bool ×ₗ Text := toLex (decide (m.fieldPath ≠ "title".toList), m.fieldPath)

/-- `_match_row`. -/
def matchRow (row : RecordEnvelope) (terms : List Text) : Option LocalSearchHit × ℕ × ℕ :=
  let seen := (textFields row).foldl (matchField terms) ⟨[], [], 0⟩
  if terms.any (· ∉ seen.matchedTerms) then (none, 0, 0)
  else
    (some ⟨row.id, row.recordType, row.sensitivity, row.title,
      (seen.found.insertionSort fun a b => matchKey a ≤ matchKey b).take maxMatchesPerHit⟩,
      seen.titleTermCount, seen.found.length)

/-! ## The search -/

/-- The rows that the statement selects, at most as many as its limit. -/
def selectRows (db : Database) (recordType : Option Text) (limit : ℕ) : List RecordEnvelope :=
  ((db.records.rows.filter fun r => r.status = .active ∧ r.sensitivity ≠ .secret ∧
    ∀ value ∈ recordType, r.recordType.toList = value).insertionSort fun a b =>
      b.updatedAt < a.updatedAt ∨ (a.updatedAt = b.updatedAt ∧ a.id.toNat ≤ b.id.toNat)).take limit

/-- A hit and what it is ranked by. -/
structure Candidate where
  titleTermCount : ℕ
  matchedFieldCount : ℕ
  rowIndex : ℕ
  hit : LocalSearchHit

def matchCandidate (terms : List Text) (entry : RecordEnvelope × ℕ) : Option Candidate :=
  match matchRow entry.1 terms with
  | (some hit, titleTermCount, matchedFieldCount) => some ⟨titleTermCount, matchedFieldCount, entry.2, hit⟩
  | (none, _) => none

/-- The sort key of a hit. -/
def candidateKey (c : Candidate) : ℤ ×ₗ ℤ ×ₗ ℕ :=
  toLex (-(c.titleTermCount : ℤ), toLex (-(c.matchedFieldCount : ℤ), c.rowIndex))

/-- `search_local_state`. -/
def searchLocalState [CaseLibrary] (db : Database) (readOnly : Bool) (query : Text) (recordType : Option Text)
    (limit : Int) : Except LocalSearchValidationError LocalSearchReport := do
  ensure (readOnly = true) ⟨"local search requires a read-only repository"⟩
  let terms ← validateQuery query
  let normalizedRecordType ← validateRecordType recordType
  validateLimit limit
  let rows := selectRows db normalizedRecordType (maxScannedRecords + 1)
  let scannedRows := rows.take maxScannedRecords
  let candidates := (scannedRows.zipIdx.filterMap (matchCandidate terms)).insertionSort fun a b =>
    candidateKey a ≤ candidateKey b
  return {
    recordTypeFilter := normalizedRecordType
    scannedRecords := scannedRows.length
    scanTruncated := decide (maxScannedRecords < rows.length)
    hits := (candidates.take limit.toNat).map Candidate.hit }

end

end DollState.Search
