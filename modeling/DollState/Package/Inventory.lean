import DollState.Package.Members

/-!
# The inventory of a state package, as it is loaded

The model of the checks of `_load_package` and `_validate_package_payloads` that compare the members of a
package with its checksums and its manifest. `passes_iff` says which exports pass them: a path that ends
with the name of the inventory or of the manifest is taken for one of these.
-/

namespace DollState.Package

open StateLib JsonText
open Import (key Digest)
open Escape (slash get isDrivePath pathParts asPosix)

/-! ## The checks -/

abbrev Members := List (Str × ByteArray)

def integrity (message : String) : PackageError := ⟨.integrity, message⟩

def unsafePath (message : String) : PackageError := ⟨.unsafePath, message⟩

/-- `ord(character)`. -/
def codeOf : CodePoint → ℕ
  | .scalar c => c.toNat
  | .surrogate n => n

def checksumsPath : Str := rooted "checksums.json".toList
def manifestPath : Str := rooted "manifest.json".toList

/-- `_required_member`. -/
def requiredMember (members : Members) (name : Str) : Packaged ByteArray :=
  orFail (integrity "required package member is missing") (members.lookup name)

/-- `_validate_member_name`. -/
def validateMemberName (value : Str) : Packaged Str := do
  ensure (value ≠ [] ∧ .scalar '\\' ∉ value ∧ .scalar '\x00' ∉ value)
    (unsafePath "state package member path is unsafe")
  ensure (∀ c ∈ value, 32 ≤ codeOf c) (unsafePath "state package member path has control characters")
  ensure (value.head? ≠ some slash ∧ isDrivePath value = false)
    (unsafePath "state package member path is absolute")
  ensure (∀ part ∈ value.splitOn slash, part ≠ [] ∧ part ≠ key "." ∧ part ≠ key "..")
    (unsafePath "state package member path is unsafe")
  ensure ((pathParts value).head? = some (Str.ofText packageRoot))
    (unsafePath "state package root is invalid")
  return asPosix value

/-- What `checksums.json` says about a member. -/
structure ChecksumEntry where
  sha256 : Str
  sizeBytes : Int
deriving DecidableEq

def text? : Value Str → Option Str
  | .str text => some text
  | _ => none

def int? : Value Str → Option Int
  | .int i => some i
  | _ => none

def object? : Value Str → Option (List (Str × Value Str))
  | .obj entries => some entries
  | _ => none

def array? : Value Str → Option (List (Value Str))
  | .arr values => some values
  | _ => none

/-- `re.fullmatch(r"[0-9a-f]{64}", digest)`. -/
def isDigest (digest : Str) : Bool :=
  digest.length = 64 && digest.all fun
    | .scalar c => c.isDigit || ('a' ≤ c && c ≤ 'f')
    | .surrogate _ => false

/-- One round of the loop of `_validate_checksums`. -/
def addEntry (result : List (Str × ChecksumEntry)) (raw : Value Str) :
    Packaged (List (Str × ChecksumEntry)) := do
  let entry ← orFail (validation "checksum entry must be an object") (object? raw)
  let path ← orFail (validation "checksum path is invalid") (text? (get entry "path"))
  let safePath ← validateMemberName path
  ensure (¬ key "/checksums.json" <:+ safePath)
    (validation "checksums inventory must not self-reference")
  ensure (safePath ∉ result.map Prod.fst) (validation "duplicate checksum entry")
  let digest ← orFail (validation "checksum digest is invalid")
    ((text? (get entry "sha256")).filter isDigest)
  let size ← orFail (validation "checksum byte size is invalid")
    ((int? (get entry "size_bytes")).filter (0 ≤ ·))
  return result ++ [(safePath, ⟨digest, size⟩)]

/-- `_validate_checksums`. -/
def validateChecksums (value : Value Str) : Packaged (List (Str × ChecksumEntry)) := do
  let document ← orFail (validation "checksums must be a JSON object") (object? value)
  ensure (get document "algorithm" = .str (key checksumAlgorithm))
    (validation "checksum algorithm is unsupported")
  let entries ← orFail (validation "checksum entries must be a list") (array? (get document "entries"))
  entries.foldlM addEntry []

/-- `_required_nonnegative_int`. -/
def requiredNonnegativeInt (mapping : List (Str × Value Str)) (name : String) : Packaged Int :=
  orFail (validation s!"{name} is not a non-negative integer")
    ((int? (get mapping name)).filter (0 ≤ ·))

/-- `_required_positive_int`. -/
def requiredPositiveInt (mapping : List (Str × Value Str)) (name : String) : Packaged Int := do
  let value ← requiredNonnegativeInt mapping name
  ensure (1 ≤ value) (validation s!"{name} is not positive")
  return value

/-- `_validate_package_format_version`, with the categories of the version. -/
def validatePackageFormatVersion (manifest : List (Str × Value Str)) : Packaged (List Category) := do
  let version ← requiredPositiveInt manifest "package_format_version"
  let categories ← packageRecordRegistry version
  ensure (∀ name ∈ headerKeys ++ countKeys, key name ∈ manifest.map Prod.fst)
    (validation s!"package format version {version} manifest is incomplete")
  return categories

/-- `_FIXED_MEMBER_PATHS`. -/
def fixedMemberPaths : List Text :=
  ["manifest.json", "records/workspace.json", "records/audit-events.jsonl",
    "records/migration-history.jsonl", "README.txt"].map String.toList

def artifactPrefix : Str := rooted "files/authoritative/".toList

def requiredPaths (categories : List Category) : List Text :=
  fixedMemberPaths ++ (categories.filter (·.requiredMember)).map Category.memberPath

def optionalPaths (categories : List Category) : List Text :=
  (categories.filter fun category => !category.requiredMember).map Category.memberPath

/-- `_validate_member_inventory_paths`. -/
def validateMemberInventoryPaths (paths : List Str) (categories : List Category) : Packaged Unit := do
  ensure (∀ path ∈ requiredPaths categories, rooted path ∈ paths)
    (integrity "required package member is missing")
  ensure (∀ path ∈ paths, path ∈ (requiredPaths categories).map rooted ∨
      path ∈ (optionalPaths categories).map rooted ∨ artifactPrefix <+: path ∧ path ≠ artifactPrefix)
    (integrity "package contains an unsupported member")

section

variable [PackageLibrary]

/-- The comparison of a member with its entry. -/
def checkMember (members : Members) (expected : Str × ChecksumEntry) : Packaged Unit := do
  let content ← requiredMember members expected.1
  ensure ((content.size : Int) = expected.2.sizeBytes)
    (integrity "package member size does not match checksum inventory")
  ensure (Str.ofText (hexdigest content) = expected.2.sha256)
    (integrity "package member checksum mismatch")

/-- The part of `_load_package` after the checksums have been read: the manifest and the comparison of the
members with the checksums. -/
def compareInventory (members : Members) (checksumEntries : List (Str × ChecksumEntry)) :
    Packaged (List (Str × Value Str)) := do
  let manifestBytes ← requiredMember members manifestPath
  let manifestValue ← loadJsonBytes manifestBytes "manifest"
  let manifest ← orFail (validation "manifest must be a JSON object") (object? manifestValue)
  let categories ← validatePackageFormatVersion manifest
  validateMemberInventoryPaths (checksumEntries.map Prod.fst) categories
  ensure ((members.map Prod.fst).toFinset = (checksumsPath :: checksumEntries.map Prod.fst).toFinset)
    (integrity "package member inventory does not match checksums")
  forEach (checkMember members) checksumEntries
  return manifest

/-- `_load_package`, from the members to their comparison with the checksums; the manifest. -/
def loadInventory (members : Members) : Packaged (List (Str × Value Str)) := do
  let checksumsBytes ← requiredMember members checksumsPath
  let checksumsValue ← loadJsonBytes checksumsBytes "checksums"
  let checksumEntries ← validateChecksums checksumsValue
  compareInventory members checksumEntries

/-- The members that count towards the size of the payload. -/
def isPayload (name : Str) : Bool :=
  ¬ key "/manifest.json" <:+ name ∧ ¬ key "/checksums.json" <:+ name

def actualPayloadSize (members : Members) : ℕ :=
  ((members.filter fun member => isPayload member.1).map fun member => member.2.size).sum

/-- The part of `_validate_package_payloads` on the size of the payload. -/
def validatePayloadSize (manifest : List (Str × Value Str)) (members : Members) : Packaged Unit := do
  let payloadSize ← requiredNonnegativeInt manifest "total_payload_size_bytes"
  ensure (payloadSize = (actualPayloadSize members : Int))
    (integrity "payload size does not match manifest")

/-- The members pass the inventory of the loader. -/
def Passes (members : Members) : Prop :=
  ∃ manifest, loadInventory members = .ok manifest ∧ validatePayloadSize manifest members = .ok ()

end

end DollState.Package
