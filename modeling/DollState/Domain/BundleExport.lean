import DollState.Library.Check
import DollState.Library.Disturbed

/-!
# The export of a Resume Bundle

The model of `ResumeBundleService.export` as far as the output path goes. The export asks once whether
anything is at the output path, builds the bundle beside it and then replaces whatever is there; if
anything fails once the temporary file has been made, it removes whatever is at the output path.
Meanwhile other processes put entries there and remove them.
-/

namespace DollState.Resume

open StateLib Script Disturbed

/-! ## The output path -/

/-- What can be at a path. -/
inductive EntryKind where
  | file
  | directory
  /-- a symbolic link whose target does not exist -/
  | brokenLink
deriving DecidableEq, Repr

/-- What is at the output path, and whether it is what the export has put there. -/
structure OutputEntry where
  kind : EntryKind
  own : Bool
deriving DecidableEq, Repr

abbrev Output := Option OutputEntry

/-- `output.exists()`. -/
def Output.exists : Output → Bool
  | none => false
  | some e => e.kind ≠ .brokenLink

/-- The entry is there, and the export has not put it there. -/
def Output.foreign : Output → Bool
  | none => false
  | some e => !e.own

/-! ## Exceptions -/

/-- The classes of exceptions that the handlers tell apart. -/
inductive ExportErrorKind where
  | resumeBundleValidation | resumeBundleExport | resumeBundleIntegrity
  /-- any other `BaseException` -/
  | other
deriving DecidableEq, Repr

structure ExportError where
  kind : ExportErrorKind
  message : String
deriving DecidableEq

/-- `ResumeBundleValidationError(message)`. -/
def exportInvalid (message : String) : ExportError := ⟨.resumeBundleValidation, message⟩

/-- `ResumeBundleExportError(message)`. -/
def exportError (message : String) : ExportError := ⟨.resumeBundleExport, message⟩

/-- `OSError`. -/
def osFailure : ExportError := ⟨.other, "Is a directory"⟩

/-- `except ResumeBundleError`. -/
def ExportError.isResumeBundle (e : ExportError) : Bool := e.kind ≠ .other

/-! ## The script -/

/-- The steps of an export that may fail. -/
inductive ExportStep where
  /-- `canonicalize_path` of the output and of the workspace -/
  | canonicalize
  | findAncestor
  /-- `_members` -/
  | members
  /-- `output.parent.mkdir(parents=True, exist_ok=True)` -/
  | makeParents
  /-- `tempfile.mkstemp` -/
  | makeTemporary
  | closeTemporary
  | removeTemporary
  | writeZip
  /-- `verify_resume_bundle` -/
  | verify
  /-- `os.replace(temporary, output)` -/
  | publish
  /-- the end of the `try` statement -/
  | leave
  /-- `temporary.unlink(missing_ok=True)` -/
  | discardTemporary
  /-- `output.unlink(missing_ok=True)` -/
  | discardOutput
deriving DecidableEq, Repr

/-- The steps that change what is at the output path. -/
def ExportStep.touches : ExportStep → Bool
  | .publish | .discardOutput => true
  | _ => false

/-- The question of an export: whether the output exists. -/
inductive ExportQuery where
  | outputExists
deriving DecidableEq

abbrev ExportQuery.Answer : ExportQuery → Type
  | .outputExists => Bool

/-- A script with the steps of an export. -/
abbrev ExportScript (α : Type) := Script ExportQuery ExportQuery.Answer ExportStep ExportError α

/-- `output.exists()`. -/
def outputExists : ExportScript Bool := .ask .outputExists fun found => .done (.ok found)

/-- What an export depends on beside the output path. -/
structure ExportContext (I : Type) where
  /-- the repository is read-only -/
  readOnly : Bool
  /-- the output is in the workspace -/
  isWithin : Bool
  /-- `find_doll_repository_ancestor(output.parent)` finds a checkout -/
  hasAncestor : Bool
  /-- what `verify_resume_bundle` returns -/
  inspection : I

variable {I : Type}

/-- The body of the `try` statement. -/
def publishBundle (context : ExportContext I) : ExportScript I := do
  commit .removeTemporary
  commit .writeZip
  commit .verify
  commit .publish
  commit .leave
  return context.inspection

/-- Its handlers. -/
def cleanUpExport (e : ExportError) : ExportScript I := do
  commit .discardTemporary
  commit .discardOutput
  .done (.error <| if e.isResumeBundle then e else exportError "Resume Bundle export failed")

/-- `export`. -/
def exportSteps (context : ExportContext I) : ExportScript I := do
  ensure (context.readOnly = true) (exportInvalid "Resume Bundle export requires a read-only repository")
  commit .canonicalize
  let found ← outputExists
  ensure (found = false) (exportError "Resume Bundle output already exists")
  ensure (context.isWithin = false) (exportInvalid "Resume Bundle output must be outside the workspace")
  commit .findAncestor
  ensure (context.hasAncestor = false)
    (exportInvalid "Resume Bundle output must be outside a doll repository checkout")
  commit .members
  commit .makeParents
  commit .makeTemporary
  commit .closeTemporary
  match ← (publishBundle context).attempt with
  | .ok inspection => return inspection
  | .error e => cleanUpExport e

/-! ## The system -/

/-- What another process does at the output path. -/
inductive Other where
  | put (kind : EntryKind)
  | remove
deriving DecidableEq, Repr

def Other.act : Other → Output → Output
  | .put kind, _ => some ⟨kind, false⟩
  | .remove, _ => none

def answerExport (output : Output) : (q : ExportQuery) → q.Answer
  | .outputExists => output.exists

/-- What a step of the export that does not fail makes of the output path. Neither `os.replace` nor
`unlink` succeeds on a directory. -/
def perform : ExportStep → Output → Except ExportError Output
  | .publish, output =>
    if output.any (·.kind = .directory) then .error osFailure else .ok (some ⟨.file, true⟩)
  | .discardOutput, output =>
    if output.any (·.kind = .directory) then .error osFailure else .ok none
  | _, output => .ok output

abbrev ExportWorld (I : Type) := World Output ExportQuery ExportQuery.Answer ExportStep ExportError I

abbrev ExportAction := Action ExportQuery ExportStep ExportError Other

/-- One step of the export or of another process. -/
abbrev ExportMove : ExportWorld I → ExportAction → ExportWorld I → Prop :=
  Disturbed.Step answerExport perform Other.act

/-- An export that is about to start, and what others have put at its output path. -/
def beforeExport (context : ExportContext I) (found : Option EntryKind) : ExportWorld I :=
  ⟨found.map fun kind => ⟨kind, false⟩, exportSteps context⟩

abbrev ExportTaken (I : Type) := Taken (ExportWorld I) ExportAction

/-! ## What is claimed -/

/-- The step is one of the export itself. -/
def ExportAction.isOther : ExportAction → Bool
  | .disturb _ => true
  | _ => false

/-- A step of the export leaves what another process has put at the output path. -/
def Spares (t : ExportTaken I) : Prop :=
  ExportAction.isOther t.label = false → t.pre.shared.foreign = true → t.post.shared = t.pre.shared

/-- Whether another process has something at the output path after a step, from what it had before. -/
def stand (standing : Bool) (t : ExportTaken I) : Bool :=
  match t.label with
  | .disturb (.put _) => true
  | .disturb .remove => false
  | .commit w => standing && !w.touches
  | _ => standing

/-- After these steps another process has something at the output path that has not stopped the export at
its existence check: it has put it there since, and not removed it, or it was there at the check. -/
def Intruded (before : List (ExportTaken I)) : Prop :=
  ∃ pre c between, before = pre ++ c :: between ∧ (∀ t ∈ pre, ∀ q, t.label ≠ .read q) ∧
    c.label = .read .outputExists ∧ between.foldl stand c.pre.shared.foreign = true

/-! ## What the export does to the output path -/

/-- The export waits for the answer that the output does not exist. -/
def Waits : (q : ExportQuery) → q.Answer → Prop
  | .outputExists, found => found = false

/-- Nothing at the output path is touched before the export has found that nothing exists there. -/
theorem gated_exportSteps (context : ExportContext I) :
    (exportSteps context).Gated (fun w => w.touches = false) Waits := by
  refine Gated.lift_bind fun _ _ => Gated.commit_bind rfl ?_
  intro found hfound
  cases found with
  | false => exact absurd rfl hfound
  | true => trivial

theorem perform_eq_ok {w : ExportStep} {output output' : Output} (h : perform w output = .ok output') :
    if w.touches = true then output'.foreign = false else output' = output := by
  cases w with
  | publish =>
    rw [perform] at h
    split_ifs at h
    cases h
    rfl
  | discardOutput =>
    rw [perform] at h
    split_ifs at h
    cases h
    rfl
  | _ => exact (Except.ok.inj h).symm

theorem foreign_step {W W' : ExportWorld I} {l : ExportAction} (h : ExportMove W l W') :
    W'.shared.foreign = stand W.shared.foreign ⟨W, l, W'⟩ := by
  cases h with
  | read => rfl
  | @commit s s' w k hw =>
    have hperform := perform_eq_ok hw
    cases htouches : w.touches with
    | true =>
      rw [if_pos htouches] at hperform
      simp [stand, htouches, hperform]
    | false =>
      rw [if_neg (by simp [htouches])] at hperform
      simp [stand, htouches, hperform]
  | fail e => rfl
  | disturb a => cases a <;> rfl

/-- Whether another process has something at the output path is told by the steps alone. -/
theorem foreign_run {W W' : ExportWorld I} {tr : List (ExportTaken I)} (h : Run ExportMove W tr W') :
    W'.shared.foreign = tr.foldl stand W.shared.foreign := by
  induction h with
  | start => rfl
  | next _ hs ih => rw [List.foldl_append, ← ih, foreign_step hs, List.foldl_cons, List.foldl_nil]

/-- A step does not spare what is at the output path if it touches what another process has there. -/
theorem spares_iff_step {t : ExportTaken I} (h : ExportMove t.pre t.label t.post) :
    Spares t ↔ ∀ w, t.label = .commit w → w.touches = true → t.pre.shared.foreign = false := by
  obtain ⟨W, l, W'⟩ := t
  cases h with
  | read => exact ⟨fun _ w hw => (by cases hw), fun _ _ _ => rfl⟩
  | @commit s s' w k hw =>
    have hperform := perform_eq_ok hw
    constructor
    · rintro h w' hw' htouches
      cases hw'
      rw [if_pos htouches] at hperform
      by_contra hforeign
      have hsame : s' = s := h rfl (by simpa using hforeign)
      rw [hsame] at hperform
      exact hforeign hperform
    · intro h _ hforeign
      cases htouches : w.touches with
      | true => exact absurd (h w rfl htouches) (by simp [hforeign])
      | false => rwa [if_neg (by simp [htouches])] at hperform
  | fail e => exact ⟨fun _ w hw => (by cases hw), fun _ _ _ => rfl⟩
  | disturb a => exact ⟨fun _ w hw => (by cases hw), fun _ h => by cases h⟩

theorem foreign_of_intruded {W W' : ExportWorld I} {before : List (ExportTaken I)}
    (h : Run ExportMove W before W') (hintruded : Intruded before) : W'.shared.foreign = true := by
  obtain ⟨pre, c, between, hbefore, -, hc, hstands⟩ := hintruded
  obtain ⟨-, hread, hrun⟩ := h.split hbefore
  have hsame := foreign_step hread
  rw [hc] at hsame
  rw [foreign_run hrun, hsame]
  exact hstands

theorem intruded_of_foreign {context : ExportContext I} {found : Option EntryKind}
    {before : List (ExportTaken I)} {W W' : ExportWorld I} {w : ExportStep}
    (h : Run ExportMove (beforeExport context found) before W) (hstep : ExportMove W (.commit w) W')
    (htouches : w.touches = true) (hforeign : W.shared.foreign = true) : Intruded before := by
  obtain ⟨pre, c, between, q, hbefore, hpre, hc, -⟩ :=
    Run.asked_of_commit h (gated_exportSteps context) hstep (by simp [htouches])
  obtain ⟨-, hread, hrun⟩ := h.split hbefore
  have hsame := foreign_step hread
  rw [hc] at hsame
  refine ⟨pre, c, between, hbefore, hpre, hc, ?_⟩
  rw [foreign_run hrun, hsame] at hforeign
  exact hforeign

instance (t : ExportTaken I) : Decidable (Spares t) :=
  inferInstanceAs (Decidable (_ → _ → _))

def gardenExport : ExportContext Unit where
  readOnly := true
  isWithin := false
  hasAncestor := false
  inspection := ()

/-- The steps of an export before the temporary file, and from there on. -/
def exportChoices (between : List (Choice ExportError Other)) : List (Choice ExportError Other) :=
  List.replicate 4 .go ++ between ++ List.replicate 8 .go

end DollState.Resume
