import DollState.Escape.Archive
import DollState.Package.Lines

/-!
# The members of a state package

The model of the inventory of a package: the part of `_build_export_members` that puts the members, the
manifest and the checksums together, and the checks of `_load_package` and `_validate_package_payloads`
that compare them with one another again. What the members of the records hold is not looked into here.
-/

namespace DollState.Package

open StateLib JsonText
open Import (key Digest)
open Escape (slash get)

/-! ## Managed paths -/

def maxRelativePathLength : ℕ := 512
def maxPathComponentLength : ℕ := 120
def defaultMaxArtifactBytes : ℕ := 16 * 1024 * 1024

def windowsReservedNames : List Text :=
  ["CON", "PRN", "AUX", "NUL"].map String.toList ++
    "123456789".toList.map (fun number => ['C', 'O', 'M', number]) ++
    "123456789".toList.map (fun number => ['L', 'P', 'T', number])

def windowsForbiddenCharacters : List Char := ['<', '>', ':', '"', '|', '?', '*']

/-- The characters of a managed path that end a component, and those of a drive. -/
def isDriveQualified : Text → Bool
  | _ :: ':' :: _ => true
  | '/' :: '/' :: _ => true
  | _ => false

section

variable [PackageLibrary]

/-- `_validate_component`; the error is the text of an `UnsafeManagedPathError`. -/
def validateComponent (component : Text) : Except String Unit := do
  ensure (component.length ≤ maxPathComponentLength) "managed path component is too long"
  ensure (component = strip component ∧ component.getLast? ≠ some '.' ∧ component.getLast? ≠ some ' ')
    "managed path component has unsafe surrounding characters"
  ensure (∀ c ∈ component, 32 ≤ c.toNat) "managed path component contains control characters"
  ensure (∀ c ∈ component, c ∉ windowsForbiddenCharacters)
    "managed path component is not cross-platform safe"
  ensure ((PackageLibrary.upper component).takeWhile (· ≠ '.') ∉ windowsReservedNames)
    "managed path uses a Windows-reserved name"
  ensure (¬ ".doll-tmp-".toList <+: component)
    "managed path uses a reserved temporary-file prefix"

/-- `validate_managed_path(value).as_posix()`. -/
def validateManagedPath (value : Text) : Except String Text := do
  ensure (value ≠ [] ∧ value.length ≤ maxRelativePathLength) "managed path is empty or too long"
  ensure ('\x00' ∉ value ∧ '\\' ∉ value) "managed path contains an unsafe separator or NUL"
  ensure (value.head? ≠ some '/') "absolute managed paths are not allowed"
  ensure (isDriveQualified value = false) "drive-qualified or UNC managed paths are not allowed"
  let components := value.splitOn '/'
  ensure (∀ component ∈ components, component ≠ [] ∧ component ≠ ['.'] ∧ component ≠ ['.', '.'])
    "managed path contains traversal or empty components"
  forEach validateComponent components
  return ['/'].intercalate components

end

/-! ## The record registry -/

/-- A category of records; its member is `records/` with the stem and `.jsonl`. -/
structure Category where
  recordType : String
  stem : String
  requiredMember : Bool
deriving DecidableEq

def Category.memberPath (category : Category) : Text :=
  "records/".toList ++ category.stem.toList ++ ".jsonl".toList

def currentRecordCategories : List Category :=
  [⟨"preference", "preferences", true⟩, ⟨"policy", "policies", true⟩,
    ⟨"permission", "permissions", true⟩, ⟨"memory", "memories", true⟩, ⟨"claim", "claims", false⟩,
    ⟨"evidence", "evidence", false⟩, ⟨"inference", "inferences", false⟩,
    ⟨"trust_assessment", "trust-assessments", false⟩,
    ⟨"instruction_origin", "instruction-origins", false⟩, ⟨"project", "projects", true⟩,
    ⟨"decision", "decisions", true⟩, ⟨"artifact", "artifacts", true⟩,
    ⟨"backup_manifest", "backup-manifests", false⟩]

def v2RecordCategories : List Category :=
  currentRecordCategories ++
    [⟨"work_item", "work-items", false⟩, ⟨"procedure", "procedures", false⟩,
      ⟨"project_checkpoint", "project-checkpoints", false⟩,
      ⟨"runtime_manifest", "runtime-manifests", false⟩, ⟨"model_manifest", "model-manifests", false⟩,
      ⟨"model_binding", "model-bindings", false⟩, ⟨"conversation", "conversations", false⟩,
      ⟨"conversation_event", "conversation-events", false⟩,
      ⟨"project_experience", "project-experiences", false⟩]

def portabilityRecordCategories : List Category :=
  [⟨"source_environment", "source-environments", false⟩,
    ⟨"portability_import_batch", "portability-import-batches", false⟩,
    ⟨"portability_mapping_report", "portability-mapping-reports", false⟩,
    ⟨"portability_loss", "portability-losses", false⟩,
    ⟨"portability_source_mapping", "portability-source-mappings", false⟩,
    ⟨"portability_quarantine", "portability-quarantines", false⟩,
    ⟨"portability_original_source", "portability-original-sources", false⟩]

def packageFormatVersion : Int := 2

/-- `_package_record_registry(version).categories`. -/
def packageRecordRegistry (version : Int) : Packaged (List Category) :=
  if version = 1 then .ok currentRecordCategories
  else if version = 2 then .ok (v2RecordCategories ++ portabilityRecordCategories)
  else .error (validation "package format version is unsupported")

/-- The categories of the version that is written. -/
def writtenCategories : List Category := v2RecordCategories ++ portabilityRecordCategories

/-! ## Writing JSON documents -/

/-- The manifest, but for the entries that count the members. -/
def headerKeys : List String :=
  ["workspace_id", "exported_at", "source_product_version", "source_workspace_schema_version",
    "source_state_schema_version", "state_revision", "included_categories", "excluded_categories",
    "record_counts", "audit_event_count", "migration_history_count", "checksum_algorithm",
    "encryption_state", "omitted_secret_counts", "external_references", "compatibility_notes"]

def countKeys : List String :=
  ["package_format_version", "authoritative_file_count", "total_payload_size_bytes"]

def checksumAlgorithm : String := "sha256"
def packageRoot : Text := "doll-state-package".toList
def maxPackageMembers : ℕ := 2048
def maxPackageMemberBytes : ℕ := 32 * 1024 * 1024
def maxPackageTotalBytes : ℕ := 512 * 1024 * 1024

section

variable [PackageLibrary]

/-- `_json_bytes`. -/
def jsonBytes (value : Payload) : Packaged ByteArray := do
  let text ← canonicalJson value
  return Import.encodeUtf8 (text ++ ['\n'])

/-- `_load_json_bytes`. -/
def loadJsonBytes (value : ByteArray) (name : String) : Packaged (Value Str) := do
  let text ← orFail (validation s!"{name} is not UTF-8") (Import.decodeUtf8 value)
  loadJsonText text name

/-- `hashlib.sha256(content).hexdigest()`. -/
def hexdigest (content : ByteArray) : Text := (PackageLibrary.sha256 content).hex

end

/-! ## The exporter -/

abbrev Files := List (Text × ByteArray)

/-- What the exporter has gathered: the texts of the system members and of the records by type, which
of the categories that need not be there are, and the authoritative files by their managed paths. -/
structure ExportParts where
  workspace : ByteArray
  auditEvents : ByteArray
  migrationHistory : ByteArray
  readme : ByteArray
  records : String → ByteArray
  occurs : String → Bool
  header : String → TextValue
  artifacts : Files

/-- `category.record_type in included_record_types`. -/
def ExportParts.includes (parts : ExportParts) (category : Category) : Bool :=
  category ∉ portabilityRecordCategories || parts.occurs category.recordType

def artifactPath (managedPath : Text) : Text := "files/authoritative/".toList ++ managedPath

/-- The members before the manifest, by their paths. -/
def ExportParts.payloadMembers (parts : ExportParts) : Files :=
  [("records/workspace.json".toList, parts.workspace),
    ("records/audit-events.jsonl".toList, parts.auditEvents),
    ("records/migration-history.jsonl".toList, parts.migrationHistory),
    ("README.txt".toList, parts.readme)] ++
  (writtenCategories.filter parts.includes).map (fun category =>
    (category.memberPath, parts.records category.recordType)) ++
  parts.artifacts.map fun file => (artifactPath file.1, file.2)

/-- `payload_size`. -/
def ExportParts.payloadSize (parts : ExportParts) : ℕ :=
  (parts.payloadMembers.map fun member => member.2.size).sum

/-- The entries of the manifest. -/
def ExportParts.manifest (parts : ExportParts) : List (Text × TextValue) :=
  headerKeys.map (fun name => (name.toList, parts.header name)) ++
    [("package_format_version".toList, .int packageFormatVersion),
      ("authoritative_file_count".toList, .int parts.artifacts.length),
      ("total_payload_size_bytes".toList, .int parts.payloadSize)]

section

variable [PackageLibrary]

/-- The parts of an export: authoritative files whose paths are valid and distinct, within the limits on
the members of a package, and a manifest with the values that the exporter puts there. -/
structure ExportSource extends ExportParts where
  accepted : ∀ file ∈ artifacts, validateManagedPath file.1 = .ok file.1
  nodup : (artifacts.map Prod.fst).Nodup
  length_le : toExportParts.payloadMembers.length ≤ maxPackageMembers
  payloadSize_le : toExportParts.payloadSize ≤ maxPackageTotalBytes
  header_readable : ∀ name ∈ headerKeys, (header name).Readable
  header_depth : ∀ name ∈ headerKeys, depth (header name) ≤ 1
  manifestSize_lt : (Value.obj toExportParts.manifest).size < maxPackageMemberBytes

/-- An entry of `checksums.json`. -/
def checksumValue (member : Text × ByteArray) : TextValue :=
  .obj [("path".toList, .str (packageRoot ++ '/' :: member.1)),
    ("sha256".toList, .str (hexdigest member.2)), ("size_bytes".toList, .int member.2.size)]

/-- The entries of `checksums.json` for the members. -/
def checksums (members : Files) : List (Text × TextValue) :=
  [("algorithm".toList, .str checksumAlgorithm.toList),
    ("entries".toList, .arr ((members.insertionSort fun a b => a.1 ≤ b.1).map checksumValue))]

omit [PackageLibrary] in
theorem short_of_le_total {n : ℕ} (h : n ≤ maxPackageTotalBytes) :
    (n : Int).natAbs < 10 ^ maxDigits := by
  have hsmall : maxPackageTotalBytes < 10 ^ 10 := by decide
  have hpow : 10 ^ 10 ≤ 10 ^ maxDigits := Nat.pow_le_pow_right (by decide) (by decide)
  rw [Int.natAbs_natCast]
  omega

theorem ExportSource.readable_manifest (source : ExportSource) :
    (Value.obj source.manifest).Readable := by
  have hkeys : source.manifest.map Prod.fst = (headerKeys ++ countKeys).map String.toList := by
    rw [ExportParts.manifest, List.map_append, List.map_map, List.map_append]
    rfl
  refine ⟨?_, entriesReadable_iff.2 fun e he => ?_⟩
  · rw [hkeys]
    exact List.Nodup.map (fun _ _ => String.toList_inj.1) (by decide)
  · rcases List.mem_append.1 he with he | he
    · obtain ⟨name, hname, rfl⟩ := List.mem_map.1 he
      exact source.header_readable name hname
    · have hmembers : source.artifacts.length ≤ maxPackageMembers := by
        refine le_trans ?_ source.length_le
        rw [ExportParts.payloadMembers, List.length_append, List.length_map]
        omega
      simp only [List.mem_cons, List.not_mem_nil, or_false] at he
      rcases he with rfl | rfl | rfl
      · exact short_of_le_total (by decide : 2 ≤ maxPackageTotalBytes)
      · exact short_of_le_total (hmembers.trans (by decide))
      · exact short_of_le_total source.payloadSize_le

def ExportSource.manifestPayload (source : ExportSource) : Payload :=
  ⟨source.manifest, source.readable_manifest⟩

theorem readable_checksums {members : Files}
    (h : ∀ member ∈ members, member.2.size ≤ maxPackageTotalBytes) :
    (Value.obj (checksums members)).Readable := by
  have hkeys : (["algorithm", "entries"].map String.toList).Nodup := by decide
  have hentryKeys : (["path", "sha256", "size_bytes"].map String.toList).Nodup := by decide
  refine ⟨hkeys, trivial, ?_, trivial⟩
  refine allReadable_iff.2 fun v hv => ?_
  obtain ⟨member, hmember, rfl⟩ := List.mem_map.1 hv
  refine ⟨hentryKeys, trivial, trivial, ?_, trivial⟩
  exact short_of_le_total (h member ((List.mem_insertionSort _).1 hmember))

/-- The members with the manifest among them. -/
def ExportSource.inventory (source : ExportSource) (manifestBytes : ByteArray) : Files :=
  source.payloadMembers ++ [("manifest.json".toList, manifestBytes)]

theorem jsonBytes_eq_ok_iff {value : Payload} {bytes : ByteArray} :
    jsonBytes value = .ok bytes ↔ depth value.value ≤ PackageLibrary.encodeLevels ∧
      bytes = Import.encodeUtf8 (value.line ++ ['\n']) := by
  rw [jsonBytes, canonicalJson]
  split_ifs with hdepth
  · rw [ok_bind, pure_eq_ok, eq_comm, and_iff_right hdepth]
  · exact iff_of_false (fun h => by cases h) fun h => hdepth h.1

theorem size_of_jsonBytes {value : Payload} {bytes : ByteArray} (h : jsonBytes value = .ok bytes) :
    bytes.size = value.value.size + 1 := by
  have hline := utf8Size_line value
  rw [utf8Size] at hline
  rw [(jsonBytes_eq_ok_iff.1 h).2, Import.size_encodeUtf8, Import.utf8Length, List.map_append,
    List.sum_append, hline]
  rfl

theorem ExportSource.size_le (source : ExportSource) {manifestBytes : ByteArray}
    (h : jsonBytes source.manifestPayload = .ok manifestBytes) :
    ∀ member ∈ source.inventory manifestBytes, member.2.size ≤ maxPackageTotalBytes := by
  intro member hmember
  rcases List.mem_append.1 hmember with hmember | hmember
  · refine le_trans ?_ source.payloadSize_le
    exact List.single_le_sum (fun _ _ => Nat.zero_le _) _ (List.mem_map_of_mem hmember)
  · obtain rfl := List.mem_singleton.1 hmember
    have hlt : source.manifestPayload.value.size < maxPackageMemberBytes := source.manifestSize_lt
    have hmax : maxPackageMemberBytes ≤ maxPackageTotalBytes := by decide
    rw [size_of_jsonBytes h]
    omega

def ExportSource.checksumsPayload (source : ExportSource) {manifestBytes : ByteArray}
    (h : jsonBytes source.manifestPayload = .ok manifestBytes) : Payload :=
  ⟨checksums (source.inventory manifestBytes), readable_checksums (source.size_le h)⟩

/-- The name of a member in the archive. -/
def rooted (path : Text) : Str := Str.ofText (packageRoot ++ '/' :: path)

/-- The last part of `_build_export_members`: the manifest, the checksums and the names. -/
def ExportSource.exportMembers (source : ExportSource) : Packaged (List (Str × ByteArray)) :=
  match h : jsonBytes source.manifestPayload with
  | .error e => .error e
  | .ok manifestBytes => do
    let checksumsBytes ← jsonBytes (source.checksumsPayload h)
    return (source.inventory manifestBytes ++ [("checksums.json".toList, checksumsBytes)]).map
      fun member => (rooted member.1, member.2)

end

end DollState.Package
