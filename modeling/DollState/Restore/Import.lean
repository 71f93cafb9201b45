import DollState.Package.Members
import DollState.Restore.Folder

/-!
# Importing a state package

The model of `import_state_package` and of its publication. The package is unpacked in a staging directory, and the
directory renamed to the target; an empty target is put aside meanwhile.
-/

namespace DollState.Restore

open StateLib

/-! ## Packages -/

/-- A managed file, with what its record says of it. -/
structure StateFile where
  managedPath : Text
  content : ByteArray
  sizeBytes : ℕ
  contentHash : Import.Digest

/-- `_PackageData`, as far as an import looks into it: its files in the order of the records they belong to, and
`workspace.json` before and after the rows are imported. -/
structure PackageData where
  workspaceId : Text
  stateRevision : ℕ
  recordCount : ℕ
  files : List StateFile
  bootstrapRecord : ByteArray
  finalRecord : ByteArray

structure ImportResult where
  workspaceId : Text
  sourceStateRevision : ℕ
  importedStateRevision : ℕ
  importedRecordCount : ℕ
  importedFileCount : ℕ
deriving DecidableEq

/-- What a validator is to find. -/
structure Expected where
  workspaceId : Text
  schemaVersion : ℕ
  stateRevision : ℕ

structure RestoreValidation where
  workspaceId : Text
  schemaVersion : ℕ
  stateRevision : ℕ
  recordCount : ℕ
  artifactCount : ℕ
  backupInventoryCount : ℕ
  auditEventCount : ℕ
deriving DecidableEq

/-- What the rest of the program does with a package and with the contents of a workspace. -/
class RestoreLibrary extends Package.PackageLibrary where
  /-- `_load_package` -/
  loadPackage : ByteArray → Except Failure PackageData
  /-- the conflicts of `_target_conflicts` with a directory that is not empty -/
  recordConflicts : PackageData → Contents → List String
  /-- `initialize_state_repository` -/
  initializeStateRepository : Contents → Except Failure Contents
  /-- `_import_database_rows` -/
  importDatabaseRows : PackageData → Contents → Except Failure Contents
  /-- `_validate_imported_workspace` -/
  validateImportedWorkspace : PackageData → ℕ → Contents → Except Failure Unit
  /-- `validate_restored_workspace` -/
  validateRestoredWorkspace : Expected → Contents → Except Failure RestoreValidation
  /-- what `python -m doll.restore_validation` comes to -/
  freshProcess : Expected → Contents → Except Failure RestoreValidation

/-! ## What is staged -/

def workspaceDirectories : List Text :=
  ["state".toList, "artifacts".toList, "audit".toList, "backups".toList, "config".toList, "temporary".toList]

def workspaceRecordName : Text := "workspace.json".toList

def makeDirectory (path : Text) (contents : Contents) : Except Failure Contents := do
  ensure (path ∉ contents.map Prod.fst) (osError "File exists")
  return contents ++ [(path, none)]

/-- `mkdir(parents=True, exist_ok=True)` of the parents of a path. -/
def makeParents (path : Text) (contents : Contents) : Except Failure Contents :=
  let parents := ((path.splitOn '/').dropLast.inits.drop 1).map ['/'].intercalate
  parents.foldlM (fun contents parent =>
    match contents.lookup parent with
    | none => .ok (contents ++ [(parent, none)])
    | some none => .ok contents
    | some (some _) => .error (osError "Not a directory")) contents

def writeNew (path : Text) (content : ByteArray) (contents : Contents) : Except Failure Contents := do
  ensure (path ∉ contents.map Prod.fst) (osError "File exists")
  return contents ++ [(path, some content)]

/-- `_write_record_atomic`. -/
def writeRecordAtomic (content : ByteArray) (contents : Contents) : Except Failure Contents :=
  .ok (contents.filter (fun file => file.1 ≠ workspaceRecordName) ++ [(workspaceRecordName, some content)])

/-- The path of a managed file in a workspace. -/
def artifactPath (managedPath : Text) : Text := "artifacts/".toList ++ managedPath

section

variable {A : Type} [RestoreLibrary] (system : System A)

/-! ## Publication -/

/-- `_fsync_directory`, with the exception that it raises in place of `OSError`. -/
def fsyncDirectory (site : Site) (failure : Failure) : Program A Unit :=
  Attempt.mapError failure.wrapOs (system.step site)

/-- `_fsync_directory` of `state_package`. -/
def syncImported : Program A Unit :=
  fsyncDirectory system .importSync ⟨.package, "directory publication could not be synchronized"⟩

/-- `_rollback_import_publication`. -/
def rollbackImportPublication (targetPath : Place) (backup published : Bool) : Program A Unit :=
  Attempt.mapError (fun _ => ⟨.packageImport, "import publication rollback failed"⟩) do
    if published && (← System.entry targetPath).isSome then system.rmtree .importRemoveTarget targetPath
    if backup && (← System.entry .importBackup).isSome then system.replace .importMoveBack .importBackup targetPath

/-- The body of `_publish_import_target`; the variables are `backup is not None` and `published`. -/
def moveImport (targetPath : Place) : Attempt (Folder A × Bool × Bool) Failure Unit := do
  let found ← System.entry (A := A) targetPath
  if found.isSome then
    system.step .importCheckTarget
    match found with
    | some (.directory _ []) => pure ()
    | _ => Attempt.raise ⟨.packageConflict, "import target changed before publication"⟩
    Attempt.assign (true, false)
    system.replace .importMoveTarget targetPath .importBackup
  system.replace .importMoveStaging .importStaging targetPath
  Attempt.assign (found.isSome, true)
  syncImported system
  if found.isSome then
    system.rmdir .importRemoveBackup .importBackup
    Attempt.assign (false, true)

/-- `_publish_import_target`. -/
def publishImportTarget (targetPath : Place) : Program A Unit :=
  Attempt.handling (false, false) (moveImport system targetPath) fun (backup, published) e => do
    rollbackImportPublication system targetPath backup published
    Attempt.raise (if e.isPackage then e else ⟨.packageImport, "import target could not be published"⟩)

/-! ## The import -/

/-- `_target_conflicts`. -/
def targetConflicts (data : PackageData) : Option (Entry A) → List String
  | none => []
  | some (.file _) => ["target_not_directory"]
  | some (.directory _ []) => []
  | some (.directory _ contents) =>
    match RestoreLibrary.recordConflicts data contents with
    | [] => ["target_not_empty"]
    | conflicts => conflicts

/-- `_initialize_import_workspace`. -/
def initializeImportWorkspace (record : ByteArray) : Program A Unit := do
  let contents ← System.contentsOf .importStaging
  ensure (contents = []) (⟨.packageImport, "import staging directory is not empty"⟩ : Failure)
  system.step .chmodImportStaging
  Attempt.forEach (fun name => system.fill (.importDirectory name) .importStaging (makeDirectory name))
    workspaceDirectories
  system.fill .importRecord .importStaging (writeRecordAtomic record)

/-- `publish_new_workspace_file`, and the check of what it has published. -/
def publishStagedFile (file : StateFile) : Program A Unit := do
  system.fill (.publishFile file.managedPath) .importStaging fun contents => do
    let path ← (Package.validateManagedPath file.managedPath).mapError fun message => ⟨.other, message⟩
    writeNew (artifactPath path) file.content (← makeParents (artifactPath path) contents)
  ensure (Package.PackageLibrary.sha256 file.content = file.contentHash ∧ file.content.size = file.sizeBytes)
    (⟨.packageIntegrity, "staged authoritative file does not match package metadata"⟩ : Failure)

/-- Publish the files in turn and remember which. -/
def publishFiles (published : List Text) : List StateFile → Attempt (Folder A × List Text) Failure Unit
  | [] => pure ()
  | file :: files => do
    publishStagedFile system file
    Attempt.assign (published ++ [file.managedPath])
    publishFiles (published ++ [file.managedPath]) files

def closeFiles (files : List StateFile) : Program A Unit :=
  Attempt.forEach (fun file => system.step (.closeFile file.managedPath)) files

/-- The body of `import_state_package` after the staging directory is made; the variable is `published_files`. -/
def buildImport (data : PackageData) (targetPath : Place) :
    Attempt (Folder A × List Text) Failure ImportResult := do
  initializeImportWorkspace system data.bootstrapRecord
  system.fill .openRepository .importStaging RestoreLibrary.initializeStateRepository
  publishFiles system [] data.files
  system.fill .importRows .importStaging (RestoreLibrary.importDatabaseRows data)
  closeFiles system data.files
  Attempt.assign []
  system.step .closeRepository
  system.fill .finalRecord .importStaging (writeRecordAtomic data.finalRecord)
  system.step .validateImported
  RestoreLibrary.validateImportedWorkspace data (data.stateRevision + 1) (← System.contentsOf (A := A) .importStaging)
  publishImportTarget system targetPath
  return {
    workspaceId := data.workspaceId
    sourceStateRevision := data.stateRevision
    importedStateRevision := data.stateRevision + 1
    importedRecordCount := data.recordCount
    importedFileCount := data.files.length }

/-- `import_state_package`, of a package with the bytes `content`. -/
def importStatePackage (content : ByteArray) (targetPath : Place) : Program A ImportResult := do
  system.step .loadPackage
  let data ← RestoreLibrary.loadPackage content
  let count := (targetConflicts data (← System.entry (A := A) targetPath)).length
  ensure (count = 0) (⟨.packageConflict, s!"state package import has {count} conflict(s)"⟩ : Failure)
  system.step .findAncestor
  system.step .importParent
  system.mkdir .makeImportStaging .importStaging
  Attempt.handling ([] : List Text) (buildImport system data targetPath) fun publishedFiles e => do
    Attempt.forEach (fun path => system.step (.closeAgain path)) publishedFiles
    system.rmtreeIgnoring .importUnstage .importStaging
    Attempt.raise (if e.isPackage then e else ⟨.packageImport, "state package import failed"⟩)

end

end DollState.Restore
