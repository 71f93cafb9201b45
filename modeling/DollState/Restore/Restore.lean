import DollState.Restore.Import

/-!
# Restoring a backup

The model of `restore_impl`. A backup is unpacked beside the target, validated, published and validated again by a
fresh process; `_rollback_restore` undoes what there is when one of these fails.
-/

namespace DollState.Restore

open StateLib

/-! ## Backups -/

inductive BackupKind where
  | state | workspace
deriving DecidableEq, Repr

/-- `BackupInspection`, as far as a restore looks into it. -/
structure BackupInspection where
  backupKind : BackupKind
  workspaceId : Text
  schemaVersion : ℕ
  sourceStateRevision : ℕ

structure RestoreResult where
  backupKind : BackupKind
  workspaceId : Text
  sourceStateRevision : ℕ
  restoredStateRevision : ℕ
  recordCount : ℕ
  artifactCount : ℕ
  backupInventoryCount : ℕ
  auditEventCount : ℕ
  freshProcessValidated : Bool
deriving DecidableEq

def backupRoot : Text := "doll-backup".toList

def stateMember : Text := backupRoot ++ "/payload/state-package.zip".toList
def workspaceMember : Text := backupRoot ++ "/payload/workspace.json".toList
def databaseMember : Text := backupRoot ++ "/payload/state/doll-state.sqlite3".toList
def artifactPrefix : Text := backupRoot ++ "/payload/artifacts/".toList

def databasePath : Text := "state/doll-state.sqlite3".toList

/-- The members of a verified backup, by name. -/
abbrev Members := List (Text × ByteArray)

def BackupInspection.expected (inspection : BackupInspection) (stateRevision : ℕ) : Expected where
  workspaceId := inspection.workspaceId
  schemaVersion := inspection.schemaVersion
  stateRevision := stateRevision

section

variable {A : Type} [RestoreLibrary] (system : System A)

def durability : Failure := ⟨.restorePublication, "restore directory durability check failed"⟩

/-- `_prepare_target`; the paths are checked in the step `checkTarget`. -/
def prepareTarget : Program A Bool := do
  system.step .checkTarget
  let existed ← do
    match ← System.entry (A := A) .target with
    | none => pure false
    | some (.file _) => Attempt.raise ⟨.restoreConflict, "restore target is not a directory"⟩
    | some (.directory _ contents) => do
      ensure (contents = []) (⟨.restoreConflict, "restore target is not empty"⟩ : Failure)
      pure true
  system.step .restoreParent
  return existed

/-- `_stage_state_restore`. -/
def stageStateRestore (members : Members) : Program A ℕ := do
  let nested ← orFail (⟨.other, "state backup payload is missing"⟩ : Failure) (members.lookup stateMember)
  system.writeFile .makePackageFile .packageFile .empty
  Attempt.cleaningUp
    (do
      system.writeFile .writePackageFile .packageFile nested
      let result ← Attempt.mapError
        (fun e => if e.isPackage then ⟨.restoreValidation, "state backup payload could not be restored"⟩ else e)
        (importStatePackage system nested .staging)
      return result.importedStateRevision)
    (system.unlink .removePackageFile .packageFile)

/-- `_write_new_file`. -/
def writeNewFile (path : Text) (content : ByteArray) : Program A Unit :=
  Attempt.mapError (Failure.wrapOs ⟨.restorePublication, "restore staging file could not be written"⟩)
    (system.fill (.stageFile path) .staging (writeNew path content))

/-- The body of the loop over the members. -/
def stageMember (member : Text × ByteArray) : Program A Unit :=
  if artifactPrefix.isPrefixOf member.1 then do
    let relative ← (Package.validateManagedPath (member.1.drop artifactPrefix.length)).mapError
      fun message => (⟨.other, message⟩ : Failure)
    system.fill (.stageDirectory (artifactPath relative)) .staging (makeParents (artifactPath relative))
    writeNewFile system (artifactPath relative) member.2
  else pure ()

def stageMembers (members : Members) : Program A Unit := Attempt.forEach (stageMember system) members

def makeStagedDirectories : Program A Unit :=
  Attempt.forEach (fun name => system.fill (.stageDirectory name) .staging (makeDirectory name)) workspaceDirectories

def syncStaged : Program A Unit :=
  Attempt.forEach (fun path => fsyncDirectory system (.stageSync path) durability)
    ["state".toList, "artifacts".toList, []]

/-- `_stage_workspace_restore`. -/
def stageWorkspaceRestore (members : Members) : Program A Unit := do
  let missing : Failure := ⟨.other, "workspace backup payload is missing"⟩
  let workspaceBytes ← orFail missing (members.lookup workspaceMember)
  let databaseBytes ← orFail missing (members.lookup databaseMember)
  system.mkdir .makeStaging .staging
  Attempt.handling ()
    (do
      makeStagedDirectories system
      writeNewFile system workspaceRecordName workspaceBytes
      writeNewFile system databasePath databaseBytes
      stageMembers system members
      syncStaged system)
    fun _ e => do
      system.rmtreeIgnoring .unstage .staging
      Attempt.raise e

/-! ## Publication -/

/-- The body of `_publish_target`, which returns whether an empty target has been put aside; the variables are
`empty_backup is not None` and `published`. -/
def moveRestored (targetExisted : Bool) : Attempt (Folder A × Bool × Bool) Failure Bool := do
  let found ← System.entry (A := A) .target
  if targetExisted then
    system.step .recheckTarget
    match found with
    | some (.directory _ []) => pure ()
    | _ => Attempt.raise ⟨.restoreConflict, "restore target changed before publication"⟩
    Attempt.assign (true, false)
    system.replace .moveTarget .target .emptyBackup
  else
    ensure (found.isSome = false) (⟨.restoreConflict, "restore target appeared before publication"⟩ : Failure)
  system.replace .moveStaging .staging .target
  Attempt.assign (targetExisted, true)
  fsyncDirectory system .syncPublished durability
  return targetExisted

/-- The rollback of `_publish_target`. -/
def rollbackPublication (emptyBackup published : Bool) : Program A Unit :=
  Attempt.mapError (fun _ => ⟨.restorePublication, "restore publication rollback failed"⟩) do
    if published && (← System.entry .target).isSome then system.rmtree .unpublish .target
    if emptyBackup && (← System.entry .emptyBackup).isSome then system.replace .moveBack .emptyBackup .target

/-- `_publish_target`. -/
def publishTarget (targetExisted : Bool) : Program A Bool :=
  Attempt.handling (false, false) (moveRestored system targetExisted) fun (emptyBackup, published) e => do
    rollbackPublication system emptyBackup published
    Attempt.raise (if e.isRestore then e else ⟨.restorePublication, "restore target could not be published"⟩)

/-- `_rollback_restore`. -/
def rollbackRestore (emptyBackup published targetExisted : Bool) : Program A Unit :=
  Attempt.mapError (fun _ => ⟨.restorePublication, "restore rollback failed"⟩) do
    if (← System.entry .staging).isSome then system.rmtree .removeStaging .staging
    if published && (← System.entry .target).isSome then system.rmtree .removeTarget .target
    if emptyBackup && (← System.entry .emptyBackup).isSome then
      system.replace .restoreBackup .emptyBackup .target
    else if published && targetExisted && (← System.entry .target).isNone then
      system.mkdir .remakeTarget .target
    fsyncDirectory system .syncRollback durability

/-! ## The restore -/

/-- `validate_restored_workspace` of the staging directory. -/
def validateStaged (expected : Expected) : Program A RestoreValidation := do
  system.step .validateStaged
  RestoreLibrary.validateRestoredWorkspace expected (← System.contentsOf (A := A) .staging)

/-- `_validate_in_fresh_process`. -/
def validateInFreshProcess (expected : Expected) : Program A RestoreValidation := do
  system.step .freshProcess
  RestoreLibrary.freshProcess expected (← System.contentsOf (A := A) .target)

/-- The staging of a restore, which returns the revision that is restored. -/
def stageRestore (inspection : BackupInspection) (members : Members) (expectedKind : BackupKind) : Program A ℕ :=
  match expectedKind with
  | .state => stageStateRestore system members
  | .workspace => do
    stageWorkspaceRestore system members
    return inspection.sourceStateRevision

/-- The body of `_restore_backup` after the members are read; the variables are `empty_backup is not None` and
`published`. -/
def restoreTarget (inspection : BackupInspection) (members : Members) (expectedKind : BackupKind)
    (targetExisted : Bool) : Attempt (Folder A × Bool × Bool) Failure RestoreResult := do
  let restoredRevision ← stageRestore system inspection members expectedKind
  let staged ← validateStaged system (inspection.expected restoredRevision)
  let emptyBackup ← publishTarget system targetExisted
  Attempt.assign (emptyBackup, true)
  let fresh ← validateInFreshProcess system (inspection.expected restoredRevision)
  ensure (fresh = staged)
    (⟨.restoreValidation, "fresh-process validation differs from staged validation"⟩ : Failure)
  if emptyBackup then
    system.rmdir .removeBackup .emptyBackup
    Attempt.assign (false, true)
  fsyncDirectory system .syncTarget durability
  return {
    backupKind := expectedKind
    workspaceId := fresh.workspaceId
    sourceStateRevision := inspection.sourceStateRevision
    restoredStateRevision := fresh.stateRevision
    recordCount := fresh.recordCount
    artifactCount := fresh.artifactCount
    backupInventoryCount := fresh.backupInventoryCount
    auditEventCount := fresh.auditEventCount
    freshProcessValidated := true }

/-- `_restore_backup`, of a backup that has been verified. -/
def restoreBackup (inspection : BackupInspection) (members : Members) (expectedKind : BackupKind) :
    Program A RestoreResult := do
  ensure (inspection.backupKind = expectedKind)
    (⟨.restoreValidation, "backup kind does not match restore operation"⟩ : Failure)
  let targetExisted ← prepareTarget system
  system.step .readMembers
  Attempt.handling (false, false) (restoreTarget system inspection members expectedKind targetExisted)
    fun (emptyBackup, published) e => do
      rollbackRestore system emptyBackup published targetExisted
      Attempt.raise (if e.isRestore then e else ⟨.restore, "backup restore failed"⟩)

end

end DollState.Restore
