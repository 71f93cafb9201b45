import Mathlib.Data.Char
import Mathlib.Data.List.Lex
import Mathlib.Data.List.Sort
import DollState.Domain.Fields

/-!
# Fields of model manifests

The checks that the runtime, model and binding records make of the values in their metadata. A value
is accepted as it is: no check changes the text it is given, but for lists, which are sorted.
-/

namespace DollState.Model

open StateLib

def invalid (message : String) : DollError := ⟨.modelManifestValidation, message⟩

def maxText : Nat := 500
def maxDisplay : Nat := 240
def maxList : Nat := 128
def maxReferences : Nat := 128
def maxChecksums : Nat := 8
def maxScopeKey : Nat := 180

/-! ## Texts -/

/-- `[A-Za-z0-9][A-Za-z0-9._:+-]{0,199}` matches the whole text. -/
def isManifestToken : Text → Bool
  | [] => false
  | c :: cs => c.isAlphanum && cs.length ≤ 199 && cs.all fun d =>
      d.isAlphanum || d == '.' || d == '_' || d == ':' || d == '+' || d == '-'

/-- `[A-Za-z]:[\\/]` matches at the start. -/
def startsWithDrive : Text → Bool
  | c :: ':' :: d :: _ => c.isAlpha && (d == '\\' || d == '/')
  | _ => false

/-- `(?:/Users/|/home/|/private/|[A-Za-z]:[\\/])` matches somewhere. -/
def hasPrivatePath (value : Text) : Bool :=
  contains "/Users/".toList value || contains "/home/".toList value ||
    contains "/private/".toList value || value.tails.any startsWithDrive

/-- `^[A-Za-z][A-Za-z0-9+.-]*://` matches at the start. -/
def isUrl : Text → Bool
  | [] => false
  | c :: cs => c.isAlpha && "://".toList.isPrefixOf
      (cs.dropWhile fun d => d.isAlphanum || d == '+' || d == '.' || d == '-')

/-- `_token`. -/
def token (label : String) : Json → Result Text
  | .str value => do
    ensure (isManifestToken value = true) (invalid s!"{label} is invalid")
    return value
  | _ => .error (invalid s!"{label} is invalid")

/-- `_text`. -/
def text (label : String) (value : Json) (maximum : Nat) : Result Text :=
  match value with
  | .str value => do
    ensure (value ≠ [] ∧ value.length ≤ maximum ∧ strip value = value)
      (invalid s!"{label} is invalid")
    ensure ('\x00' ∉ value ∧ hasPrivatePath value = false)
      (invalid s!"{label} contains unsafe private data")
    return value
  | _ => .error (invalid s!"{label} is invalid")

/-- A value that may be `None`. -/
def optional {α : Type} (check : Json → Result α) : Json → Result (Option α)
  | .null => .ok none
  | value => (check value).map some

/-- `_scope_key`. -/
def scopeKey (value : Json) : Result Text := do
  let key ← text "binding scope key" value maxScopeKey
  ensure (hasPrivatePath key = false ∧ isUrl key = false) (invalid "binding scope key is unsafe")
  return key

/-- `_locator`. -/
def locator (value : Json) : Result Text := do
  let locator ← text "runtime-private locator" value maxText
  ensure (hasPrivatePath locator = false ∧ isUrl locator = false ∧ '@' ∉ locator ∧ '?' ∉ locator ∧
    '#' ∉ locator) (invalid "runtime-private locator is unsafe")
  return locator

/-- `_optional_timestamp`, of a text. -/
def timestamp : Json → Result Text
  | .str value => do
    ensure (value.getLast? = some 'Z' ∧ 'T' ∈ value) (invalid "activation timestamp is invalid")
    return value
  | _ => .error (invalid "activation timestamp is invalid")

/-! ## Numbers and flags -/

/-- `_bool`. -/
def flag (label : String) : Json → Result Bool
  | .bool b => .ok b
  | _ => .error (invalid s!"{label} is invalid")

/-- `_positive_int`. -/
def positiveInt (label : String) : Json → Result Int
  | .int i => do
    ensure (1 ≤ i) (invalid s!"{label} is invalid")
    return i
  | _ => .error (invalid s!"{label} is invalid")

/-! ## Lists -/

/-- `_list`. -/
def list : Json → Result (List Json)
  | .arr xs => .ok xs
  | _ => .error (invalid "manifest list value is invalid")

/-- `tuple(sorted(…))` of texts. -/
def sortTexts (values : List Text) : List Text := values.insertionSort (· ≤ ·)

/-- `_tokens`, the allowed values being all of them or those of a list. -/
def tokens (label : String) (values : List Json) (allowed : Option (List Text)) :
    Result (List Text) := do
  ensure (values.length ≤ maxList) (invalid s!"{label} has too many values")
  let result := sortTexts (← values.mapM (token label))
  ensure result.Nodup (invalid s!"{label} contains duplicates")
  ensure (∀ names ∈ allowed, ∀ value ∈ result, value ∈ names)
    (invalid s!"{label} contains unsupported values")
  return result

/-- The check of one source reference. -/
def reference (value : Json) : Result Text := do
  let reference ← text "source reference" value 2048
  ensure (hasPrivatePath reference = false) (invalid "source reference contains a private path")
  return reference

/-- `_references`. -/
def references (values : List Json) : Result (List Text) := do
  ensure (values.length ≤ maxReferences) (invalid "too many source references")
  let result ← values.mapM reference
  ensure result.Nodup (invalid "source references contain duplicates")
  return sortTexts result

section

variable [PythonLibrary]

/-- `_uuid`. -/
def identifier (label : String) : Json → Result RecordId
  | .str value => do
    let id ← orFail (invalid s!"{label} is invalid") (uuid value)
    ensure (uuidText id = value) (invalid s!"{label} is not canonical")
    return id
  | _ => .error (invalid s!"{label} is invalid")

/-- `_uuid_list`. -/
def identifiers (label : String) (values : List Json) : Result (List RecordId) := do
  ensure (values.length ≤ maxList) (invalid s!"{label} has too many values")
  let result := (← values.mapM (identifier label)).insertionSort fun a b => uuidText a ≤ uuidText b
  ensure result.Nodup (invalid s!"{label} contains duplicates")
  return result

end

/-! ## Checksums -/

/-- `^[0-9a-f]{16,256}$` matches the whole text. -/
def isChecksum (value : Text) : Bool :=
  16 ≤ value.length && value.length ≤ 256 &&
    value.all fun c => c.isDigit || ('a' ≤ c && c ≤ 'f')

section

variable [CaseLibrary]

/-- The check of one entry of `_checksums`. -/
def checksum (entry : Text × Text) : Result (Text × Text) := do
  let algorithm ← token "checksum algorithm" (.str entry.1)
  let value ← text "checksum value" (.str entry.2) 256
  ensure (isChecksum (CaseLibrary.lower value) = true) (invalid "checksum value is invalid")
  return (CaseLibrary.lower algorithm, CaseLibrary.lower value)

/-- The order of pairs of texts. -/
def pairLe (a b : Text × Text) : Prop := a.1 < b.1 ∨ a.1 = b.1 ∧ a.2 ≤ b.2

instance : DecidableRel pairLe := fun a b => by unfold pairLe; infer_instance

/-- `_checksums`, of the items of a mapping. -/
def checksums (values : List (Text × Text)) : Result (List (Text × Text)) := do
  ensure (1 ≤ values.length ∧ values.length ≤ maxChecksums) (invalid "model checksums are invalid")
  let result ← values.mapM checksum
  return result.insertionSort pairLe

/-- An entry of a stored list of checksums. -/
def checksumEntry : Json → Result (Text × Text)
  | .obj entries => do
    ensure (entries.all (fun e => e.1 ∈ ["algorithm", "value"]) = true ∧
        ["algorithm", "value"].all (fun key => (entries.lookup key).isSome) = true)
      (invalid "model checksum entry is invalid")
    match Metadata.get entries "algorithm", Metadata.get entries "value" with
    | .str algorithm, .str value => return (algorithm, value)
    | _, _ => .error (invalid "model checksum entry is invalid")
  | _ => .error (invalid "model checksum entry is invalid")

/-- `_checksum_payload`. -/
def checksumPayload : Json → Result (List (Text × Text))
  | .arr items => do
    let mapping ← items.mapM checksumEntry
    ensure (mapping.map Prod.fst).Nodup (invalid "model checksum entry is invalid")
    checksums mapping
  | _ => .error (invalid "model checksums must be a list")

/-- The stored form of checksums. -/
def checksumList (values : List (Text × Text)) : Json :=
  .arr (values.map fun entry => .obj [("algorithm", .str entry.1), ("value", .str entry.2)])

end

/-! ## What the checks accept -/

theorem token_eq_ok {label : String} {value : Json} {s : Text} :
    token label value = .ok s ↔ value = .str s ∧ isManifestToken s = true := by
  cases value with
  | str t =>
    simp only [token, check_bind_eq_ok, ensure_eq_ok, pure_eq_ok, Json.str.injEq]
    constructor
    · rintro ⟨h, rfl⟩
      exact ⟨rfl, h⟩
    · rintro ⟨rfl, h⟩
      exact ⟨h, rfl⟩
  | _ => simp [token]

/-- A text that was accepted is accepted again. -/
theorem text_str {label label' : String} {value : Json} {maximum : Nat} {s : Text}
    (h : text label value maximum = .ok s) : text label' (.str s) maximum = .ok s := by
  cases value with
  | str t =>
    obtain ⟨hform, h⟩ := check_bind_eq_ok.1 h
    obtain ⟨hsafe, h⟩ := check_bind_eq_ok.1 h
    obtain rfl := pure_eq_ok.1 h
    exact check_bind_eq_ok.2 ⟨ensure_eq_ok.2 (ensure_eq_ok.1 hform),
      check_bind_eq_ok.2 ⟨ensure_eq_ok.2 (ensure_eq_ok.1 hsafe), rfl⟩⟩
  | _ => cases h

theorem eq_str_of_text {label : String} {value : Json} {maximum : Nat} {s : Text}
    (h : text label value maximum = .ok s) : value = .str s := by
  cases value with
  | str t =>
    obtain ⟨-, h⟩ := check_bind_eq_ok.1 h
    obtain ⟨-, h⟩ := check_bind_eq_ok.1 h
    exact congrArg Json.str (pure_eq_ok.1 h)
  | _ => cases h

theorem eq_str_of_scopeKey {value : Json} {key : Text} (h : scopeKey value = .ok key) :
    value = .str key := by
  obtain ⟨_, hkey, h⟩ := bind_eq_ok.1 h
  obtain ⟨-, h⟩ := check_bind_eq_ok.1 h
  obtain rfl := pure_eq_ok.1 h
  exact eq_str_of_text hkey

theorem scopeKey_str {value : Json} {key : Text} (h : scopeKey value = .ok key) :
    scopeKey (.str key) = .ok key := by
  obtain ⟨_, hkey, h⟩ := bind_eq_ok.1 h
  obtain ⟨hsafe, h⟩ := check_bind_eq_ok.1 h
  obtain rfl := pure_eq_ok.1 h
  exact bind_eq_ok.2 ⟨_, text_str hkey, check_bind_eq_ok.2 ⟨hsafe, rfl⟩⟩

theorem flag_eq_ok {label : String} {value : Json} {b : Bool} :
    flag label value = .ok b ↔ value = .bool b := by
  cases value <;> simp [flag]

theorem positiveInt_eq_ok {label : String} {value : Json} {i : Int} :
    positiveInt label value = .ok i ↔ value = .int i ∧ 1 ≤ i := by
  cases value with
  | int j =>
    simp only [positiveInt, check_bind_eq_ok, ensure_eq_ok, pure_eq_ok, Json.int.injEq]
    constructor
    · rintro ⟨h, rfl⟩
      exact ⟨rfl, h⟩
    · rintro ⟨rfl, h⟩
      exact ⟨h, rfl⟩
  | _ => simp [positiveInt]

theorem identifier_eq_ok [PythonLibrary] {label : String} {value : Json} {id : RecordId} :
    identifier label value = .ok id ↔ value = .str (uuidText id) := by
  cases value with
  | str s =>
    simp only [identifier, bind_eq_ok, orFail_eq_ok, exists_const, ensure_eq_ok, pure_eq_ok,
      Json.str.injEq]
    constructor
    · rintro ⟨id', hid, htext, rfl⟩
      exact htext.symm
    · rintro rfl
      exact ⟨id, uuid_uuidText id, rfl, rfl⟩
  | _ => simp [identifier]

theorem optional_null {α : Type} {check : Json → Result α} : optional check .null = .ok none := rfl

theorem optional_str {α : Type} {check : Json → Result α} {s : Text} :
    optional check (.str s) = (check (.str s)).map some := rfl

theorem optional_int {α : Type} {check : Json → Result α} {i : Int} :
    optional check (.int i) = (check (.int i)).map some := rfl

end DollState.Model
