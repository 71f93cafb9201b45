import Mathlib
import DollState.Library.Csv
import DollState.Search.LocalSearch
import DollState.Import.Stage

/-!
# Local tables

The model of `read_local_csv` and `transform_local_csv`. A file is what the process sees of it while it
reads: what `lstat` and `fstat` say of it, before and after, and the bytes.
-/

namespace DollState.LocalCsv

open StateLib Import Search

/-- What the module is given: the hash, and the version of the `csv` module. -/
class CsvLibrary where
  sha256Hex : ByteArray → Text
  /-- the writer quotes a field with a `\\r`, though the line terminator is `\\n` -/
  quotesReturn : Bool

def maxSourceBytes : ℕ := 2097152
def maxRows : ℕ := 10000
def maxColumns : ℕ := 200
def maxCellCharacters : ℕ := 16384
def maxAggregateCharacters : ℕ := 4000000
def maxRenames : ℕ := 200
/-- The default of `csv.field_size_limit()`. -/
def fieldSizeLimit : ℕ := 131072
def utf8Bom : ByteArray := ⟨#[0xEF, 0xBB, 0xBF]⟩

inductive LocalCsvError where
  /-- `LocalCsvValidationError` -/
  | validation (message : String)
  /-- `LocalCsvReadError` -/
  | read (message : String)
deriving DecidableEq, Repr

/-- The keys of `_DELIMITERS`. -/
inductive DelimiterProfile where
  | comma | tab | semicolon | pipe
deriving DecidableEq, Repr

def DelimiterProfile.text : DelimiterProfile → Text
  | .comma => "comma".toList
  | .tab => "tab".toList
  | .semicolon => "semicolon".toList
  | .pipe => "pipe".toList

def DelimiterProfile.delimiter : DelimiterProfile → Char
  | .comma => ','
  | .tab => '\t'
  | .semicolon => ';'
  | .pipe => '|'

def delimiterProfiles : List DelimiterProfile := [.comma, .tab, .semicolon, .pipe]

/-- `LocalCsvTable`; its origin is always the same. -/
structure LocalCsvTable where
  delimiterProfile : DelimiterProfile
  headers : List Text
  rows : List (List Text)
  sourceByteCount : ℕ
  contentByteCount : ℕ
  characterCount : ℕ
  sourceSha256 : Text
  contentSha256 : Text
  utf8BomRemoved : Bool
  blankCellCount : ℕ
  potentialFormulaCellCount : ℕ

/-- `LocalCsvTransformation`. -/
structure LocalCsvTransformation where
  source : LocalCsvTable
  selectedSourceHeaders : List Text
  outputHeaders : List Text
  outputCsv : Text
  outputByteCount : ℕ
  outputCharacterCount : ℕ
  outputSha256 : Text

/-- `header_renames`, a dictionary: no source has two targets. -/
structure HeaderRenames where
  entries : List (Text × Text)
  nodup : (entries.map Prod.fst).Nodup

/-! ## Files -/

/-- `_FileState`. -/
structure FileState where
  device : ℕ
  inode : ℕ
  size : ℕ
  modifiedNs : ℕ
deriving DecidableEq, Repr

/-- What `lstat` or `fstat` says of a file. -/
inductive Metadata where
  | unavailable
  | symlink
  | special
  | regular (state : FileState)
deriving DecidableEq, Repr

/-- A file while it is read. -/
structure SourceFile where
  suffix : Text
  beforePath : Metadata
  opens : Bool
  beforeHandle : Metadata
  /-- the whole content, if it can be read -/
  content : Option ByteArray
  afterHandle : Metadata
  afterPath : Metadata

/-- `_path_state`. -/
def pathState : Metadata → Except LocalCsvError FileState
  | .unavailable => .error (.read "local CSV is unavailable")
  | .symlink => .error (.validation "local CSV symlinks are not supported")
  | .special => .error (.validation "local CSV must be a regular file")
  | .regular state => .ok state

/-- `_handle_state`. -/
def handleState : Metadata → Except LocalCsvError FileState
  | .unavailable => .error (.read "local CSV state could not be verified")
  | .symlink | .special => .error (.validation "local CSV must be a regular file")
  | .regular state => .ok state

/-- `_same_identity`. -/
def sameIdentity (left right : FileState) : Bool :=
  left.device = right.device && left.inode = right.inode

/-- `_stable_read`. -/
def stableRead (beforePath beforeHandle afterHandle afterPath : FileState) : Bool :=
  [beforeHandle, afterHandle, afterPath].all fun current =>
    sameIdentity beforePath current && beforePath.size = current.size &&
      beforePath.modifiedNs = current.modifiedNs

/-! ## Texts -/

section

variable [UnicodeLibrary] [CsvLibrary]

/-- `_delimiter`. -/
def delimiterOf (value : Text) : Except LocalCsvError DelimiterProfile :=
  orFail (.validation "unsupported CSV delimiter profile")
    (delimiterProfiles.find? fun profile => profile.text = casefold (strip value))

/-- A control character that the text may not have. -/
def Prohibited (c : Char) : Prop := c.toNat < 32 ∧ c ∉ ['\n', '\r', '\t'] ∨ c.toNat = 127

instance : DecidablePred Prohibited := fun _ => inferInstanceAs (Decidable (_ ∨ _))

/-- `_validate_text`. -/
def validateText (text : Text) : Except LocalCsvError Unit := do
  ensure (Char.ofNat 0 ∉ text) (.validation "local CSV contains a NUL byte")
  forEach (fun c => ensure (¬ Prohibited c)
    (.validation "local CSV contains a prohibited control character")) text

/-- `_potential_formula`. -/
def potentialFormula (value : Text) : Bool :=
  (value.dropWhile fun c => c = ' ' || c = '\t').head?.any fun c => ['=', '+', '-', '@'].contains c

/-! ## Parsing -/

/-- The arguments of `csv.reader` and of `csv.writer`. -/
def DelimiterProfile.dialect (profile : DelimiterProfile) : Csv.Dialect where
  delimiter := profile.delimiter
  quotesReturn := CsvLibrary.quotesReturn
  fieldLimit := fieldSizeLimit
  delimiter_ne_quote := by cases profile <;> decide
  delimiter_ne_newline := by cases profile <;> decide
  delimiter_ne_return := by cases profile <;> decide

/-- One round of the loop of `_validate_headers`. -/
def validateHeader (seen : List Text) (header : Text) : Except LocalCsvError (List Text) := do
  ensure (strip header ≠ []) (.validation "local CSV headers must not be blank")
  ensure (header.length ≤ maxCellCharacters) (.validation "local CSV header exceeds the character limit")
  ensure (header ∉ seen) (.validation "local CSV headers must be unique")
  return header :: seen

/-- `_validate_headers`. -/
def validateHeaders (headers : List Text) : Except LocalCsvError Unit := do
  ensure (headers ≠ []) (.validation "local CSV header row must not be empty")
  let _ ← headers.foldlM validateHeader []
  return ()

/-- One cell of the aggregate. -/
def addCell (aggregate : ℕ) (cell : Text) : Except LocalCsvError ℕ := do
  ensure (cell.length ≤ maxCellCharacters) (.validation "local CSV cell exceeds the character limit")
  ensure (aggregate + cell.length ≤ maxAggregateCharacters)
    (.validation "local CSV exceeds the aggregate character limit")
  return aggregate + cell.length

/-- One row of the aggregate. -/
def addRow (columns : ℕ) (aggregate : ℕ) (row : List Text) : Except LocalCsvError ℕ := do
  ensure (row.length = columns) (.validation "local CSV contains a non-rectangular row")
  row.foldlM addCell aggregate

/-- `_parse_csv`: the headers, the rows and the aggregate. -/
def parseCsv (text : Text) (profile : DelimiterProfile) :
    Except LocalCsvError (List Text × List (List Text) × ℕ) := do
  let parsed ← orFail (.validation "local CSV syntax is invalid") (Csv.read profile.dialect text).toOption
  match parsed with
  | [] => .error (.validation "local CSV must contain a header row")
  | headers :: rows => do
    validateHeaders headers
    ensure (headers.length ≤ maxColumns) (.validation "local CSV exceeds the column limit")
    ensure (rows.length ≤ maxRows) (.validation "local CSV exceeds the row limit")
    let aggregate ← rows.foldlM (addRow headers.length) (headers.map List.length).sum
    return (headers, rows, aggregate)

/-! ## Reading -/

/-- The first half of `read_local_csv`: the bytes of a file that does not change. -/
def readStable (file : SourceFile) : Except LocalCsvError ByteArray := do
  ensure (casefold file.suffix = ".csv".toList)
    (.validation "local CSV input must use the .csv extension")
  let beforePath ← pathState file.beforePath
  ensure (beforePath.size ≤ maxSourceBytes) (.validation "local CSV exceeds the maximum byte size")
  ensure (file.opens = true) (.read "local CSV could not be read")
  let beforeHandle ← handleState file.beforeHandle
  ensure (sameIdentity beforePath beforeHandle = true) (.read "local CSV changed before reading")
  let content ← orFail (.read "local CSV could not be read") file.content
  let raw := content.extract 0 (maxSourceBytes + 1)
  let afterHandle ← handleState file.afterHandle
  ensure (raw.size ≤ maxSourceBytes) (.validation "local CSV exceeds the maximum byte size")
  let afterPath ← pathState file.afterPath
  ensure (stableRead beforePath beforeHandle afterHandle afterPath = true)
    (.read "local CSV changed while being read")
  return raw

/-- The bytes that the first half reads, without a byte order mark. -/
def contentOf (raw : ByteArray) : ByteArray :=
  if raw.extract 0 3 = utf8Bom then raw.extract 3 raw.size else raw

/-- The second half of `read_local_csv`: the table of the bytes. -/
def tableOf (profile : DelimiterProfile) (raw : ByteArray) : Except LocalCsvError LocalCsvTable := do
  let text ← orFail (.validation "local CSV is not valid UTF-8") (decodeUtf8 (contentOf raw))
  validateText text
  let (headers, rows, aggregate) ← parseCsv text profile
  ensure (aggregate ≤ maxAggregateCharacters)
    (.validation "local CSV exceeds the aggregate character limit")
  return {
    delimiterProfile := profile
    headers := headers
    rows := rows
    sourceByteCount := raw.size
    contentByteCount := (contentOf raw).size
    characterCount := text.length
    sourceSha256 := CsvLibrary.sha256Hex raw
    contentSha256 := CsvLibrary.sha256Hex (contentOf raw)
    utf8BomRemoved := raw.extract 0 3 = utf8Bom
    blankCellCount := rows.flatten.countP fun cell => cell = []
    potentialFormulaCellCount := rows.flatten.countP potentialFormula }

/-- `read_local_csv`. -/
def readLocalCsv (file : SourceFile) (delimiterProfile : Text) : Except LocalCsvError LocalCsvTable := do
  let profile ← delimiterOf delimiterProfile
  let raw ← readStable file
  tableOf profile raw

/-! ## Transforming -/

/-- `_selected_headers`. -/
def selectedHeaders (headers selectedColumns : List Text) : Except LocalCsvError (List Text) :=
  if selectedColumns = [] then .ok headers
  else do
    ensure (selectedColumns.length ≤ maxColumns) (.validation "too many selected CSV columns")
    ensure selectedColumns.Nodup (.validation "selected CSV columns must be unique")
    ensure (∀ column ∈ selectedColumns, column ∈ headers)
      (.validation "selected CSV column does not exist")
    return selectedColumns

/-- `result.get(header, header)`. -/
def HeaderRenames.get (renames : HeaderRenames) (header : Text) : Text :=
  (renames.entries.lookup header).getD header

/-- One round of the loop of `_validated_renames`. -/
def validateRename (selected : List Text) (entry : Text × Text) : Except LocalCsvError Unit := do
  ensure (entry.1 ∈ selected) (.validation "CSV header rename source is not selected")
  ensure (strip entry.2 ≠ []) (.validation "CSV output headers must not be blank")
  ensure (entry.2.length ≤ maxCellCharacters)
    (.validation "CSV output header exceeds the character limit")

/-- `_validated_renames`; the dictionary it returns is the one it is given. -/
def validatedRenames (selected : List Text) (renames : HeaderRenames) :
    Except LocalCsvError HeaderRenames := do
  ensure (renames.entries.length ≤ maxRenames) (.validation "too many CSV header renames")
  forEach (validateRename selected) renames.entries
  ensure (selected.map renames.get).Nodup (.validation "CSV output headers must be unique")
  return renames

/-- `_write_csv`. -/
def writeCsv (headers : List Text) (rows : List (List Text)) (profile : DelimiterProfile) : Text :=
  Csv.writeRow profile.dialect headers ++ Csv.writeRows profile.dialect rows

/-- `transform_local_csv`. Each row of the table has a cell for each header. -/
def transformLocalCsv (file : SourceFile) (delimiterProfile : Text) (selectedColumns : List Text)
    (headerRenames : HeaderRenames) : Except LocalCsvError LocalCsvTransformation := do
  let table ← readLocalCsv file delimiterProfile
  let selected ← selectedHeaders table.headers selectedColumns
  let renames ← validatedRenames selected headerRenames
  let outputHeaders := selected.map renames.get
  let indexes := selected.map fun header => table.headers.idxOf header
  let outputRows := table.rows.map fun row => indexes.map fun index => row.getD index []
  let outputCsv := writeCsv outputHeaders outputRows table.delimiterProfile
  let outputBytes := encodeUtf8 outputCsv
  return {
    source := table
    selectedSourceHeaders := selected
    outputHeaders := outputHeaders
    outputCsv := outputCsv
    outputByteCount := outputBytes.size
    outputCharacterCount := outputCsv.length
    outputSha256 := CsvLibrary.sha256Hex outputBytes }

end

end DollState.LocalCsv
