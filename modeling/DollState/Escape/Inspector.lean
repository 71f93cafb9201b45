import DollState.Escape.Archive

/-!
# The inspector of escape bundles

The model of `inspect_bundle`. It opens the outer archive, checks its inventory and its manifest, and
opens the archives that the manifest names; each of these is a step of its own here.
-/

namespace DollState.Escape

open StateLib JsonText Import

section

variable [EscapeLibrary]

/-! ## The outer archive -/

def maxMembers : Nat := 4096
def maxMemberBytes : Nat := 512 * 1024 * 1024
def maxTotalBytes : Nat := 1024 * 1024 * 1024
def maxCompressionRatio : Nat := 1000

/-- What the loop of `_validate_infos` has seen. -/
structure Seen where
  names : List Str
  folded : List Str
  total : Nat

/-- The body of the loop of `_validate_infos`. -/
def validateInfo (seen : Seen) (info : Info) : Inspected Seen := do
  let name ← memberName info.filename
  ensure (name ∉ seen.names) (inspection "shutdown escape contains duplicate members")
  ensure (EscapeLibrary.casefold name ∉ seen.folded)
    (inspection "shutdown escape contains case-folding collisions")
  ensure (info.isRegular = true) (inspection "shutdown escape contains a non-regular member")
  ensure (info.fileSize ≤ maxMemberBytes)
    (inspection "shutdown escape member size is unsupported")
  ensure (seen.total + info.fileSize ≤ maxTotalBytes)
    (inspection "shutdown escape total size is unsupported")
  ensure (info.compressSize = 0 → info.fileSize = 0)
    (inspection "shutdown escape compression ratio is invalid")
  ensure (info.fileSize ≤ maxCompressionRatio * info.compressSize)
    (inspection "shutdown escape compression ratio is unsupported")
  return ⟨name :: seen.names, EscapeLibrary.casefold name :: seen.folded,
    seen.total + info.fileSize⟩

/-- `_validate_infos`. -/
def validateInfos (infos : List Info) : Inspected Seen := do
  ensure (infos ≠ [] ∧ infos.length ≤ maxMembers)
    (inspection "shutdown escape member count is unsupported")
  infos.foldlM validateInfo ⟨[], [], 0⟩

/-- What the handler around the outer archive makes of an exception of `zipfile`. -/
def unreadable : ArchiveError → InspectError
  | .other => ⟨.archive, "zipfile"⟩
  | _ => inspection "shutdown escape bundle is unreadable"

/-- The members of the outer archive. -/
def openBundle (bundle : ByteArray) : Inspected Members :=
  match EscapeLibrary.infolist bundle with
  | .error e => .error (unreadable e)
  | .ok infos => do
    let _ ← validateInfos infos
    match readAll bundle infos with
    | .error e => .error (unreadable e)
    | .ok members => .ok members

/-! ## Its checksums -/

/-- `_SHA256.fullmatch`. -/
def isSha256 (value : Str) : Bool :=
  value.length = 64 && value.all fun
    | .scalar c => c.isDigit || ('a' ≤ c && c ≤ 'f')
    | .surrogate _ => false

/-- A size that is an integer and not negative. -/
def size? : Value Str → Option Nat
  | .int i => if 0 ≤ i then some i.toNat else none
  | _ => none

/-- The value of an entry of `_checksum_entries`, by its path. -/
structure ChecksumEntry where
  path : Str
  sha256 : Str
  sizeBytes : Nat

/-- The body of the loop of `_checksum_entries`. -/
def checksumEntry (previous : Str) : Value Str → Inspected ChecksumEntry
  | .obj entry => do
    ensure (entry.length = 3 ∧ ∀ name ∈ ["path", "sha256", "size_bytes"],
        key name ∈ entry.map Prod.fst)
      (inspection "checksum entry shape is invalid")
    let path ← orFail (inspection "checksum entry order or path is invalid") (get entry "path").str?
    let name ← memberName path
    ensure (name = path ∧ ¬ path.le previous)
      (inspection "checksum entry order or path is invalid")
    let digest ← orFail (inspection "checksum digest is invalid") (get entry "sha256").str?
    ensure (isSha256 digest = true) (inspection "checksum digest is invalid")
    let size ← orFail (inspection "checksum size is invalid") (size? (get entry "size_bytes"))
    return ⟨path, digest, size⟩
  | _ => .error (inspection "checksum entry shape is invalid")

/-- The loop of `_checksum_entries`. -/
def checksumEntriesAfter (previous : Str) : List (Value Str) → Inspected (List ChecksumEntry)
  | [] => .ok []
  | raw :: raws => do
    let entry ← checksumEntry previous raw
    let entries ← checksumEntriesAfter entry.path raws
    return entry :: entries

/-- `_checksum_entries`. -/
def checksumEntries (document : List (Str × Value Str)) : Inspected (List ChecksumEntry) := do
  ensure ((get document "algorithm").str? = some (key "sha256"))
    (inspection "checksum algorithm is unsupported")
  match get document "entries" with
  | .arr raws => checksumEntriesAfter [] raws
  | _ => .error (inspection "checksum entries are invalid")

/-- `_required`. -/
def required (members : Members) (name : Str) (message : String) : Inspected ByteArray :=
  orFail (inspection s!"required member is missing: {message}") (members.lookup name)

/-- Two lists of the same names. -/
def SameNames (names names' : List Str) : Prop :=
  (∀ name ∈ names, name ∈ names') ∧ ∀ name ∈ names', name ∈ names

instance (names names' : List Str) : Decidable (SameNames names names') :=
  inferInstanceAs (Decidable (_ ∧ _))

/-- The body of the loop over the entries of the checksums. -/
def verifyEntry (members : Members) (entry : ChecksumEntry) : Inspected Unit :=
  match members.lookup entry.path with
  | none => .error ⟨.key, "member"⟩
  | some content => do
    ensure (content.size = entry.sizeBytes) (inspection "shutdown escape member size mismatch")
    ensure (hexdigest content = entry.sha256)
      (inspection "shutdown escape member checksum mismatch")

/-- The check of the members against the checksums. -/
def inventory (members : Members) : Inspected (List ChecksumEntry) := do
  let content ← required members CHECKSUMS "checksums.json"
  let document ← jsonObject content "checksums"
  let entries ← checksumEntries document
  ensure (SameNames (members.map Prod.fst) (CHECKSUMS :: entries.map ChecksumEntry.path))
    (inspection "shutdown escape inventory does not match checksums")
  forEach (verifyEntry members) entries
  return entries

/-! ## Its manifest -/

/-- A member as the manifest describes it. -/
def describe (m : Str × ByteArray) : Value Str :=
  .obj [(key "path", .str m.1), (key "sha256", .str (hexdigest m.2)),
    (key "size_bytes", .int m.2.size)]

/-- `expected_declared`. -/
def expectedDeclared (members : Members) : List (Value Str) :=
  ((members.filter fun m => m.1 ∉ [CHECKSUMS, MANIFEST]).insertionSort
    fun a b => a.1.le b.1).map describe

/-- The manifest of the members. -/
def readManifest (members : Members) : Inspected (List (Str × Value Str)) := do
  let content ← required members MANIFEST "manifest.json"
  let manifest ← jsonObject content "manifest"
  ensure ((get manifest "format").str? = some ROOT ∧
      pyEq (get manifest "format_version") (.int 1) = true)
    (inspection "shutdown escape manifest version is unsupported")
  ensure (pyEq (get manifest "members") (.arr (expectedDeclared members)) = true)
    (inspection "shutdown escape manifest member inventory is invalid")
  return manifest

/-! ## Archives inside it -/

/-- The body of the loop over the infos of an inner archive. -/
def validateInnerInfo (name : String) (total : Nat) (info : Info) : Inspected Nat := do
  ensure (isSafePath info.filename = true) (inspection s!"{name} member path is unsafe")
  ensure (info.isRegular = true) (inspection s!"{name} contains a non-regular member")
  ensure (info.fileSize ≤ maxMemberBytes) (inspection s!"{name} member size is unsupported")
  ensure (total + info.fileSize ≤ maxTotalBytes) (inspection s!"{name} total size is unsupported")
  return total + info.fileSize

/-- What the handler around an inner archive makes of an exception of `zipfile`. -/
def innerUnreadable (name : String) : ArchiveError → InspectError
  | .other | .os => ⟨.archive, "zipfile"⟩
  | _ => inspection s!"{name} is unreadable"

/-- The members of an inner archive. -/
def openInner (name : String) (content : ByteArray) : Inspected Members :=
  match EscapeLibrary.infolist content with
  | .error e => .error (innerUnreadable name e)
  | .ok infos => do
    ensure ((infos.map Info.filename).Nodup) (inspection s!"{name} contains duplicate members")
    ensure ((infos.map fun info => EscapeLibrary.casefold info.filename).Nodup)
      (inspection s!"{name} contains case-folding collisions")
    let _ ← infos.foldlM (validateInnerInfo name) 0
    match readAll content infos with
    | .error e => .error (innerUnreadable name e)
    | .ok members => .ok members

/-- The body of the loop over the entries of an inner archive; the paths so far are `paths`. -/
def innerEntry (name : String) (members : Members) (paths : List Str) :
    Value Str → Inspected (List Str)
  | .obj entry => do
    let path ← orFail (inspection s!"{name} checksum path is invalid") (get entry "path").str?
    ensure (path ∉ paths) (inspection s!"{name} checksum path is invalid")
    let digest ← orFail (inspection s!"{name} checksum digest is invalid")
      (get entry "sha256").str?
    ensure (isSha256 digest = true) (inspection s!"{name} checksum digest is invalid")
    let size ← orFail (inspection s!"{name} checksum size is invalid")
      (size? (get entry "size_bytes"))
    ensure (∃ payload ∈ members.lookup path, payload.size = size ∧ hexdigest payload = digest)
      (inspection s!"{name} checksum verification failed")
    return path :: paths
  | _ => .error (inspection s!"{name} checksum entry is invalid")

/-- The names of the members that end in a text. -/
def namesEnding (members : Members) (ending : String) : List Str :=
  (members.map Prod.fst).filter fun name => (key ending).isSuffixOf name

/-- The end of `_verify_json_checksum_zip`, on the members of the archive. -/
def verifyInner (name : String) (members : Members) : Inspected (List (Str × Value Str)) :=
  match namesEnding members "/checksums.json", namesEnding members "/manifest.json" with
  | [checksumName], [manifestName] => do
    let content ← orFail ⟨.key, name⟩ (members.lookup checksumName)
    let checksums ← jsonObject content s!"{name} checksums"
    match get checksums "entries" with
    | .arr raws => do
      ensure ((get checksums "algorithm").str? = some (key "sha256"))
        (inspection s!"{name} checksum inventory is invalid")
      let paths ← raws.foldlM (innerEntry name members) []
      ensure (SameNames (members.map Prod.fst) (checksumName :: paths))
        (inspection s!"{name} member inventory does not match checksums")
      let content ← orFail ⟨.key, name⟩ (members.lookup manifestName)
      jsonObject content s!"{name} manifest"
    | _ => .error (inspection s!"{name} checksum inventory is invalid")
  | _, _ => .error (inspection s!"{name} inventory is incomplete")

/-- `_verify_json_checksum_zip`: the manifest of the archive that is a member. -/
def verifyJsonChecksumZip (name : String) : Option ByteArray → Inspected (List (Str × Value Str))
  | none => .error (inspection s!"{name} member is missing")
  | some content => do
    let members ← openInner name content
    verifyInner name members

/-! ## The generic conversation export -/

/-- `line.split("  ", 1)`, of a line with the separator in it. -/
def splitLine : Text → Option (Text × Text)
  | ' ' :: ' ' :: rest => some ([], rest)
  | c :: rest => (splitLine rest).map fun (before, after) => (c :: before, after)
  | [] => none

/-- The loop over the lines of the checksums; `none` for a `ValueError`. -/
def declaredDigests (declared : List (Text × Text)) : List Text → Option (List (Text × Text))
  | [] => some declared
  | line :: lines => do
    let (digest, name) ← splitLine line
    if isSha256 (Str.ofText digest) = true ∧ name ∉ declared.map Prod.fst then
      declaredDigests (declared ++ [(name, digest)]) lines
    else none

/-- The names of the files of an export other than the checksums. -/
def payloadNames : List String := ["manifest.json", "records.json", "records.jsonl", "transcript.md"]

/-- `members.get(f"{prefix}/{name}")`. -/
def fileOf (members : Members) (root : Str) (name : String) : Option ByteArray :=
  members.lookup (root ++ slash :: key name)

/-- The check of a file against its digest. -/
def verifyFile (members : Members) (root : Str) (declared : List (Text × Text)) (name : String) :
    Inspected Unit :=
  ensure (∃ content ∈ fileOf members root name,
      (declared.lookup name.toList).map Str.ofText = some (hexdigest content))
    (inspection "generic conversation checksum mismatch")

/-- `_verify_generic_export`. -/
def verifyGenericExport (members : Members) (root : Str) : Inspected Unit := do
  ensure (∀ name ∈ payloadNames ++ ["checksums.sha256"], (fileOf members root name).isSome = true)
    (inspection "generic conversation export inventory is incomplete")
  let checksums ← orFail ⟨.key, "checksums.sha256"⟩ (fileOf members root "checksums.sha256")
  let text ← orFail (inspection "generic conversation checksums are invalid") (decodeUtf8 checksums)
  let declared ← orFail (inspection "generic conversation checksums are invalid")
    (declaredDigests [] (splitLines [] text))
  ensure (SameNames (declared.map fun d => Str.ofText d.1) (payloadNames.map key))
    (inspection "generic conversation checksum inventory is invalid")
  forEach (verifyFile members root declared) payloadNames
  let content ← orFail ⟨.key, "manifest.json"⟩ (fileOf members root "manifest.json")
  let manifest ← jsonObject content "generic conversation manifest"
  ensure ((get manifest "format").str? = some (key "doll-generic-export") ∧
      (get manifest "format_version").str? = some (key "1"))
    (inspection "generic conversation format is unsupported")

/-! ## The whole inspection -/

/-- The object that a value is. -/
def object? : Value Str → Option (List (Str × Value Str))
  | .obj entries => some entries
  | _ => none

/-- The strings of a list. -/
def strings? : Value Str → Option (List Str)
  | .arr items => items.mapM Value.str?
  | _ => none

/-- The booleans of an object. -/
def booleans? : Value Str → Option (List (Str × Bool))
  | .obj entries => entries.mapM fun e => match e.2 with
    | .bool b => some (e.1, b)
    | _ => none
  | _ => none

/-- The manifest of the embedded State Package. -/
def stateManifest (members : Members) (manifest : List (Str × Value Str)) :
    Inspected (List (Str × Value Str)) := do
  let path ← orFail (inspection "shutdown escape state package path is invalid")
    (get manifest "state_package_path").str?
  verifyJsonChecksumZip "state package" (members.lookup path)

/-- The counts of the State Package, which the manifest repeats. -/
def recoveryCounts (manifest state : List (Str × Value Str)) :
    Inspected (List (Str × Value Str) × List (Str × Value Str)) := do
  let recordCounts ← orFail (inspection "state package recovery counts are invalid")
    (object? (get state "record_counts"))
  let omitted ← orFail (inspection "state package recovery counts are invalid")
    (object? (get state "omitted_secret_counts"))
  ensure (pyEq (get manifest "record_counts") (.obj recordCounts) = true)
    (inspection "shutdown escape record counts disagree with State Package")
  ensure (pyEq (get manifest "omitted_secret_counts") (.obj omitted) = true)
    (inspection "shutdown escape secret omission counts disagree")
  return (recordCounts, omitted)

/-- Whether the manifest declares a generic export, which is then complete. -/
def genericExport (members : Members) (manifest : List (Str × Value Str)) : Inspected Bool :=
  match get manifest "generic_conversation_prefix" with
  | .null => .ok false
  | .str root => do
    verifyGenericExport members root
    return true
  | _ => .error (inspection "generic conversation prefix is invalid")

/-- The body of the loop over the paths of the Resume Bundles. -/
def verifyResumeBundle (members : Members) (path : Str) : Inspected Unit := do
  let _ ← verifyJsonChecksumZip "Resume Bundle" (members.lookup path)
  return ()

/-- The paths of the Resume Bundles. -/
def resumePaths (members : Members) (manifest : List (Str × Value Str)) : Inspected (List Str) := do
  let paths ← orFail (inspection "resume bundle path list is invalid")
    (strings? (get manifest "resume_bundle_paths"))
  forEach (verifyResumeBundle members) paths
  return paths

/-- The summary that an inspection returns. -/
structure Summary where
  workspaceId : Value Str
  stateRevision : Value Str
  recordCounts : List (Str × Value Str)
  omittedSecretCounts : List (Str × Value Str)
  recoverableSurfaces : List (Str × Bool)
  genericConversationExport : Bool
  resumeBundleCount : Nat
  memberCount : Nat
  topLevelSha256 : Digest

/-- What an inspection finds in the members and in the manifest. -/
def summarize (members : Members) (manifest : List (Str × Value Str)) (reread : Option ByteArray) :
    Inspected Summary := do
  let state ← stateManifest members manifest
  let counts ← recoveryCounts manifest state
  let exported ← genericExport members manifest
  let paths ← resumePaths members manifest
  let recoverable ← orFail (inspection "recoverable surface declaration is invalid")
    (booleans? (get manifest "recoverable_surfaces"))
  -- the file is read a second time
  let content ← orFail ⟨.fileSystem, "read_bytes"⟩ reread
  return {
    workspaceId := get manifest "workspace_id"
    stateRevision := get manifest "state_revision"
    recordCounts := counts.1
    omittedSecretCounts := counts.2
    recoverableSurfaces := recoverable
    genericConversationExport := exported
    resumeBundleCount := paths.length
    memberCount := members.length
    topLevelSha256 := EscapeLibrary.sha256 content }

/-- `inspect_bundle`, of a file with the content `bundle`, of which a second read gives `reread`. -/
def inspectBundle (bundle : ByteArray) (reread : Option ByteArray) : Inspected Summary := do
  let members ← openBundle bundle
  let _ ← inventory members
  let manifest ← readManifest members
  summarize members manifest reread

end

end DollState.Escape
