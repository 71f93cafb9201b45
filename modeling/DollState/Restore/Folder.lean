import Mathlib
import DollState.Library.Check
import DollState.Library.Rollback
import DollState.State.Text

/-!
# The folder of a restore

A restore works in one folder, under a few names: the target, directories that are being filled beside it, and what
is put aside meanwhile. Every step of it may fail (`System.faults`). A failing step leaves the folder as it was,
except that a directory that is being filled may be left with anything in it.
-/

namespace DollState.Restore

open StateLib

/-! ## Failures -/

/-- The classes of exceptions that the handlers tell apart. -/
inductive FailureKind where
  /-- `RestoreError` and its subclasses -/
  | restore | restoreConflict | restoreValidation | restorePublication
  /-- `StatePackageError` and its subclasses -/
  | package | packageConflict | packageIntegrity | packageImport
  /-- `OSError` -/
  | os
  /-- any other exception -/
  | other
deriving DecidableEq, Repr

structure Failure where
  kind : FailureKind
  message : String
deriving DecidableEq

/-- `except RestoreError`. -/
def Failure.isRestore (e : Failure) : Bool :=
  e.kind ∈ [.restore, .restoreConflict, .restoreValidation, .restorePublication]

/-- `except StatePackageError`. -/
def Failure.isPackage (e : Failure) : Bool :=
  e.kind ∈ [.package, .packageConflict, .packageIntegrity, .packageImport]

/-- `OSError(message)`. -/
def osError (message : String) : Failure := ⟨.os, message⟩

/-- `except OSError as exc: raise failure from exc`. -/
def Failure.wrapOs (failure e : Failure) : Failure := if e.kind = .os then failure else e

/-! ## Entries -/

/-- What a directory has in it: files with their bytes, and directories. -/
abbrev Contents := List (Text × Option ByteArray)

/-- An entry of the folder. A directory has attributes besides its contents: its mode, its owner. -/
inductive Entry (A : Type) where
  | file (content : ByteArray)
  | directory (attributes : A) (contents : Contents)
deriving DecidableEq

def Entry.isDirectory {A : Type} : Entry A → Bool
  | .directory _ _ => true
  | .file _ => false

/-- The names in the folder. But for the target they are drawn by `uuid4` and `tempfile`, and are new. -/
inductive Place where
  | target
  /-- `.doll-restore-…` -/
  | staging
  /-- the empty target that a restore has put aside -/
  | emptyBackup
  /-- `.doll-restore-state-….zip` -/
  | packageFile
  /-- `.doll-import-…` -/
  | importStaging
  /-- the empty target that an import has put aside -/
  | importBackup
deriving DecidableEq, Repr

/-- A folder, as far as these names go. -/
abbrev Folder (A : Type) := Place → Option (Entry A)

/-! ## Steps -/

/-- The steps of an import and of a restore, and of their rollbacks. -/
inductive Site where
  | loadPackage | findAncestor | importParent | makeImportStaging | chmodImportStaging
  | importDirectory (name : Text) | importRecord | openRepository | publishFile (path : Text) | importRows
  | closeFile (path : Text) | closeRepository | finalRecord | validateImported
  | importCheckTarget | importMoveTarget | importMoveStaging | importSync | importRemoveBackup
  | closeAgain (path : Text) | importUnstage | importRemoveTarget | importMoveBack
  | checkTarget | restoreParent | readMembers | makePackageFile | writePackageFile | removePackageFile
  | makeStaging | stageDirectory (name : Text) | stageFile (path : Text) | stageSync (path : Text) | validateStaged
  | recheckTarget | moveTarget | moveStaging | syncPublished | freshProcess | removeBackup | syncTarget
  | unstage | unpublish | moveBack | removeStaging | removeTarget | restoreBackup | remakeTarget | syncRollback
deriving DecidableEq

/-- The steps of a rollback. -/
def Site.isRollback : Site → Bool
  | .closeAgain _ | .importUnstage | .importRemoveTarget | .importMoveBack | .unstage | .unpublish | .moveBack
  | .removeStaging | .removeTarget | .restoreBackup | .remakeTarget | .syncRollback => true
  | _ => false

/-- The operating system in a run. -/
structure System (A : Type) where
  /-- the exception that a step raises, if it fails -/
  faults : Site → Option Failure
  /-- what a step that fails leaves in the directory it was filling -/
  torn : Site → Contents → Contents
  /-- the attributes of a directory that is made with mode 0o700 -/
  ownerOnly : A

abbrev Program (A α : Type) := Attempt (Folder A) Failure α

variable {A : Type}

namespace System

variable (system : System A)

/-- A step that changes nothing in the folder. -/
def step (site : Site) : Program A Unit :=
  match system.faults site with
  | none => pure ()
  | some e => .raise e

def entry (place : Place) : Program A (Option (Entry A)) := do
  let folder ← Attempt.read
  return folder place

def put (place : Place) (e : Option (Entry A)) : Program A Unit := do
  let folder ← Attempt.read
  Attempt.write (Function.update folder place e)

/-- Whether `os.replace` may put `moved` there. -/
def replaceable (old : Option (Entry A)) (moved : Entry A) : Bool :=
  match old with
  | none => true
  | some (.file _) => !moved.isDirectory
  | some (.directory _ contents) => moved.isDirectory && contents.isEmpty

/-- `os.replace`. -/
def replace (site : Site) (source destination : Place) : Program A Unit := do
  system.step site
  let folder ← Attempt.read
  match folder source with
  | none => .raise (osError "No such file or directory")
  | some moved =>
    if replaceable (folder destination) moved then
      Attempt.write (Function.update (Function.update folder destination (some moved)) source none)
    else .raise (osError "Directory not empty")

/-- `mkdir`, with mode 0o700. -/
def mkdir (site : Site) (place : Place) : Program A Unit := do
  system.step site
  match ← entry place with
  | some _ => .raise (osError "File exists")
  | none => put place (some (.directory system.ownerOnly []))

/-- `rmdir`. -/
def rmdir (site : Site) (place : Place) : Program A Unit := do
  system.step site
  match ← entry place with
  | some (.directory _ []) => put place none
  | _ => .raise (osError "Directory not empty")

/-- `shutil.rmtree`. -/
def rmtree (site : Site) (place : Place) : Program A Unit := do
  system.step site
  match ← entry place with
  | some (.directory _ _) => put place none
  | _ => .raise (osError "Not a directory")

/-- `shutil.rmtree(ignore_errors=True)`. -/
def rmtreeIgnoring (site : Site) (place : Place) : Program A Unit := do
  match system.faults site with
  | some _ => pure ()
  | none =>
    match ← entry place with
    | some (.directory _ _) => put place none
    | _ => pure ()

/-- `unlink(missing_ok=True)`. -/
def unlink (site : Site) (place : Place) : Program A Unit := do
  system.step site
  match ← entry place with
  | some (.directory _ _) => .raise (osError "Is a directory")
  | _ => put place none

/-- Make the file or write it. -/
def writeFile (site : Site) (place : Place) (content : ByteArray) : Program A Unit := do
  system.step site
  put place (some (.file content))

/-- A step that fills the directory there; if it fails, it has done so in part. -/
def fill (site : Site) (place : Place) (change : Contents → Except Failure Contents) : Program A Unit := do
  match ← entry place with
  | some (.directory attributes contents) =>
    match system.faults site with
    | some e => do
      put place (some (.directory attributes (system.torn site contents)))
      Attempt.raise e
    | none => do
      let changed ← change contents
      put place (some (.directory attributes changed))
  | _ => .raise (osError "Not a directory")

/-- What is in the directory there. -/
def contentsOf (place : Place) : Program A Contents := do
  match ← entry place with
  | some (.directory _ contents) => return contents
  | _ => .raise (osError "Not a directory")

/-! ## What the steps do -/

section

open Attempt (Holds)

variable {α : Type} {pre : Folder A → Prop} {post : Unit → Folder A → Prop} {result : α → Folder A → Prop}
  {raised : Failure → Folder A → Prop} {system : System A} {site : Site} {place : Place}

theorem step_holds (hok : ∀ s, pre s → system.faults site = none → post () s)
    (herror : ∀ e s, system.faults site = some e → pre s → raised e s) :
    Holds pre (system.step site) post raised := by
  rw [step]
  split
  · exact .pure fun s hs => hok s hs ‹_›
  · exact .raise fun s hs => herror _ s ‹_› hs

/-- An operation that begins with a step of the system. -/
theorem step_bind {f : Unit → Program A α}
    (hok : system.faults site = none → ∀ s, pre s → Holds (· = s) (f ()) result raised)
    (herror : ∀ e s, system.faults site = some e → pre s → raised e s) :
    Holds pre (system.step site >>= f) result raised :=
  .bind (m := fun _ s => pre s ∧ system.faults site = none) (step_holds (fun _ => .intro) herror) fun _ =>
    .of_each fun s hs => hok hs.2 s hs.1

theorem entry_bind {f : Option (Entry A) → Program A α}
    (h : ∀ s, pre s → Holds (· = s) (f (s place)) result raised) :
    Holds pre (System.entry place >>= f) result raised := fun s hs => h s hs s rfl

theorem entry_bind_lifted {κ : Type} {pre : Folder A × κ → Prop} {result : α → Folder A × κ → Prop}
    {raised : Failure → Folder A × κ → Prop} {f : Option (Entry A) → Attempt (Folder A × κ) Failure α}
    (h : ∀ s, pre s → Holds (· = s) (f (s.1 place)) result raised) :
    Holds pre (liftM (System.entry (A := A) place) >>= f) result raised := fun s hs => h s hs s rfl

theorem put_holds {e : Option (Entry A)} (h : ∀ s, pre s → post () (Function.update s place e)) :
    Holds pre (put place e) post raised := fun s hs => h s hs

/-- `os.replace` fails in the system, or because of what is there. -/
theorem replace_holds {source destination : Place}
    (hok : ∀ s moved, pre s → s source = some moved → replaceable (s destination) moved →
      post () (Function.update (Function.update s destination (some moved)) source none))
    (herror : ∀ e s, pre s → (system.faults site = none → ∀ moved, s source = some moved →
      ¬ replaceable (s destination) moved) → raised e s) :
    Holds pre (system.replace site source destination) post raised := by
  refine step_bind (fun _ s hs => .read_bind ?_) fun e s hsite hs =>
    herror e s hs fun h => by rw [hsite] at h; cases h
  rintro _ rfl
  split
  · exact .raise fun s' hs' => by
      subst hs'
      exact herror _ _ hs fun _ moved hmoved => by simp_all
  · rename_i moved hmoved
    split
    · rename_i hr
      exact .write fun _ _ => hok _ moved hs hmoved hr
    · rename_i hr
      refine .raise ?_
      rintro s' rfl
      refine herror _ _ hs fun _ other hother => ?_
      obtain rfl : moved = other := Option.some.inj (hmoved.symm.trans hother)
      exact hr

/-- `mkdir` fails in the system, or because there is something. -/
theorem mkdir_holds
    (hok : ∀ s, pre s → s place = none → post () (Function.update s place (some (.directory system.ownerOnly []))))
    (herror : ∀ e s, pre s → (system.faults site = none → s place ≠ none) → raised e s) :
    Holds pre (system.mkdir site place) post raised := by
  refine step_bind (fun _ s hs => entry_bind ?_) fun e s hsite hs =>
    herror e s hs fun h => by rw [hsite] at h; cases h
  rintro _ rfl
  split
  · rename_i he
    refine .raise ?_
    rintro s' rfl
    exact herror _ _ hs fun _ h => by simp [h] at he
  · rename_i he
    refine put_holds ?_
    rintro s' rfl
    exact hok _ hs he

/-- `rmdir` and `rmtree` fail in the system, or because there is no such directory. -/
theorem rmdir_holds
    (hok : ∀ s a, pre s → s place = some (.directory a []) → system.faults site = none →
      post () (Function.update s place none))
    (herror : ∀ e s, pre s → (system.faults site = none → ∀ a, s place ≠ some (.directory a [])) → raised e s) :
    Holds pre (system.rmdir site place) post raised := by
  refine step_bind (fun hsite s hs => entry_bind ?_) fun e s hsite hs =>
    herror e s hs fun h => by rw [hsite] at h; cases h
  rintro _ rfl
  split
  · rename_i a he
    refine put_holds ?_
    rintro s' rfl
    exact hok _ a hs he hsite
  · rename_i he
    refine .raise ?_
    rintro s' rfl
    exact herror _ _ hs fun _ a h => he a h

theorem rmtree_holds
    (hok : ∀ s, pre s → post () (Function.update s place none))
    (herror : ∀ e s, pre s → (system.faults site = none → ∀ a c, s place ≠ some (.directory a c)) → raised e s) :
    Holds pre (system.rmtree site place) post raised := by
  refine step_bind (fun hsite s hs => entry_bind ?_) fun e s hsite hs =>
    herror e s hs fun h => by rw [hsite] at h; cases h
  rintro _ rfl
  split
  · refine put_holds ?_
    rintro s' rfl
    exact hok _ hs
  · rename_i he
    refine .raise ?_
    rintro s' rfl
    exact herror _ _ hs fun _ a c h => he a c h

/-- Where the step does not fail, the directory there goes, if there is one. -/
theorem rmtreeIgnoring_holds (hsite : system.faults site = none)
    (hok : ∀ s a c, pre s → s place = some (.directory a c) → post () (Function.update s place none))
    (hnone : ∀ s, pre s → (∀ a c, s place ≠ some (.directory a c)) → post () s) :
    Holds pre (system.rmtreeIgnoring site place) post raised := by
  rw [rmtreeIgnoring, hsite]
  refine entry_bind fun s hs => ?_
  split
  · rename_i a c he
    refine put_holds ?_
    rintro s' rfl
    exact hok _ a c hs he
  · rename_i he
    refine .pure ?_
    rintro s' rfl
    exact hnone _ hs he

/-- Whether it fails or not, `fill` leaves a directory where there was one. -/
theorem fill_holds {change : Contents → Except Failure Contents}
    (hok : ∀ s a c c', pre s → s place = some (.directory a c) → change c = .ok c' →
      post () (Function.update s place (some (.directory a c'))))
    (herror : ∀ e s, pre s → raised e s)
    (htorn : ∀ e s a c c', pre s → s place = some (.directory a c) →
      raised e (Function.update s place (some (.directory a c')))) :
    Holds pre (system.fill site place change) post raised := by
  refine entry_bind fun s hs => ?_
  split
  · rename_i a c he
    split
    · rename_i e hsite
      refine .bind (m := fun _ s' => s' = Function.update s place (some (.directory a (system.torn site c))))
        (put_holds (by rintro s' rfl; rfl)) fun _ => .raise ?_
      rintro s' rfl
      exact htorn e s a c _ hs he
    · refine .bind (m := fun c' s' => s' = s ∧ change c = .ok c') (.except ?_ ?_) fun c' => put_holds ?_
      · rintro c' hc' s' rfl
        exact ⟨rfl, hc'⟩
      · rintro e _ s' rfl
        exact herror e _ hs
      · rintro s' ⟨rfl, hc'⟩
        exact hok _ a c c' hs he hc'
  · refine .raise ?_
    rintro s' rfl
    exact herror _ _ hs

theorem contentsOf_holds :
    Holds pre (contentsOf place) (fun c s => pre s ∧ ∃ a, s place = some (.directory a c)) fun _ => pre := by
  refine entry_bind fun s hs => ?_
  split
  · rename_i a c he
    exact .pure fun _ h => h ▸ ⟨hs, a, he⟩
  · exact .raise fun _ h => h ▸ hs

end

end System

end DollState.Restore
