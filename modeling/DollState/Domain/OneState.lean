import DollState.Domain.ResumeBundle
import DollState.Library.Asked

/-!
# Views of one state

A status and a Resume Bundle report the revision of one state, the one they read last. They show
that state if no commit during the call alters an answer that the call has been given
(`showsOne_of_undisturbed`). Nothing sees to that: a project that is renamed between the first read
and the last gives a status, and a bundle, that no state has (`not_showsOne`).
-/

namespace DollState

open StateLib

/-- The value is what the program returns on one of the states, the one whose revision it reports. -/
def ShowsOne {α : Type} (p : Reader α) (revision : α → Nat) (ss : List Database) (a : α) : Prop :=
  ∃ db ∈ ss, db.stateRevision = revision a ∧ p.on db = .ok a

/-- The answers that a call is given, and that decide how it goes on, stay the answers until its
end. -/
def UndisturbedBy {α : Type} (p : Reader α) (ss : List Database) : Prop :=
  ReadProgram.Undisturbed Database.answer p ss

/-- A call whose reads are answered by the states, in order. -/
abbrev ReadsOver {α : Type} (p : Reader α) (ss : List Database) (r : Result α) : Prop :=
  ReadProgram.RunsOver Database.answer p ss r

/-- A program that reports the revision of the state it runs on shows one state when it is not
disturbed. -/
theorem ReadsOver.showsOne {α : Type} {p : Reader α} {revision : α → Nat} {ss : List Database} {a : α}
    (hrevision : ∀ db b, p.on db = .ok b → revision b = db.stateRevision)
    (h : ReadsOver p ss (.ok a)) (hu : UndisturbedBy p ss) : ShowsOne p revision ss a := by
  cases hlast : ss.getLast? with
  | none =>
    -- a program that reads nothing would return the same revision everywhere
    rw [List.getLast?_eq_none_iff] at hlast
    subst hlast
    cases h
    have h₀ := hrevision (Database.fresh 0 []) a rfl
    have h₁ := hrevision (Database.fresh 0 []).commitStateRevision a rfl
    rw [h₀, Database.stateRevision_commitStateRevision] at h₁
    exact absurd h₁ (Nat.ne_of_lt (Nat.lt_succ_self _))
  | some db =>
    have hrun := h.run_of_undisturbed hu hlast
    exact ⟨db, List.mem_of_getLast? hlast, (hrevision db a hrun).symm, hrun⟩

section

variable [PythonLibrary] [ModuleRules] [Status.FoldLibrary]

theorem Status.revision_of_inputs {db : Database} {projectId : RecordId} {i : Status.Inputs}
    (h : (Status.inputs projectId).on db = .ok i) : i.sourceRevision = db.stateRevision := by
  simp only [Status.inputs, Reader.on, ReadProgram.run_bind, ReadProgram.run_lift] at h
  obtain ⟨project, -, h⟩ := bind_eq_ok.1 h
  obtain ⟨-, h⟩ := check_bind_eq_ok.1 h
  obtain ⟨-, h⟩ := check_bind_eq_ok.1 h
  obtain ⟨_, -, h⟩ := bind_eq_ok.1 h
  obtain ⟨_, -, h⟩ := bind_eq_ok.1 h
  obtain ⟨_, -, h⟩ := bind_eq_ok.1 h
  obtain ⟨_, -, h⟩ := bind_eq_ok.1 h
  obtain ⟨_, -, h⟩ := bind_eq_ok.1 h
  obtain ⟨revision, hrevision, h⟩ := bind_eq_ok.1 h
  cases h
  exact (Except.ok.inj hrevision).symm

theorem Status.revision_of_build {db : Database} {text : Text} {status : Status.ProjectStatusInfo}
    (h : (Status.build text).on db = .ok status) :
    status.sourceStateRevision = db.stateRevision := by
  simp only [Status.build, Reader.on, ReadProgram.run_bind, ReadProgram.run_lift,
    ReadProgram.run_catching] at h
  obtain ⟨projectId, -, h⟩ := bind_eq_ok.1 h
  obtain ⟨i, hi, h⟩ := bind_eq_ok.1 h
  cases h
  exact Status.revision_of_inputs (catching_eq_ok.1 hi)

variable [Resume.BundleRules]

theorem Resume.revision_of_members {db : Database} {workspaceId : RecordId} {text : Text}
    {bundle : Resume.ResumeBundle} (h : (Resume.members workspaceId text).on db = .ok bundle) :
    bundle.stateRevision = db.stateRevision := by
  simp only [Resume.members, Reader.on, ReadProgram.run_bind] at h
  obtain ⟨_, -, h⟩ := bind_eq_ok.1 h
  obtain ⟨_, -, h⟩ := bind_eq_ok.1 h
  obtain ⟨_, -, h⟩ := bind_eq_ok.1 h
  obtain ⟨_, -, h⟩ := bind_eq_ok.1 h
  obtain ⟨_, -, h⟩ := bind_eq_ok.1 h
  obtain ⟨_, -, h⟩ := bind_eq_ok.1 h
  obtain ⟨_, -, h⟩ := bind_eq_ok.1 h
  obtain ⟨_, -, h⟩ := bind_eq_ok.1 h
  obtain ⟨_, -, h⟩ := bind_eq_ok.1 h
  obtain ⟨_, -, h⟩ := bind_eq_ok.1 h
  obtain ⟨_, -, h⟩ := bind_eq_ok.1 h
  obtain ⟨revision, hrevision, h⟩ := bind_eq_ok.1 h
  cases h
  exact (Except.ok.inj hrevision).symm

theorem Resume.revision_of_exportBundle {db : Database} {readOnly : Bool} {output : Result Unit}
    {workspaceId : RecordId} {text : Text} {bundle : Resume.ResumeBundle}
    (h : (Resume.exportBundle readOnly output workspaceId text).on db = .ok bundle) :
    bundle.stateRevision = db.stateRevision := by
  simp only [Resume.exportBundle, Reader.on, ReadProgram.run_bind, ReadProgram.run_lift] at h
  obtain ⟨-, h⟩ := check_bind_eq_ok.1 h
  obtain ⟨-, h⟩ := check_bind_eq_ok.1 h
  obtain ⟨b, hb, h⟩ := bind_eq_ok.1 h
  split at h
  · cases h
  · cases h
    exact Resume.revision_of_members hb

end

section Runs

/-- Artifacts are not read, and every bundle is published. -/
@[reducible] def openBundles : Resume.BundleRules where
  artifactFromRecord _ := .error (Resume.invalid "no artifact")
  publicationError _ := none

attribute [local instance] asciiLibrary acceptingRules Status.asciiFold openBundles

/-- A later state: the same one, or the one after a commit. -/
def Follows (db db' : Database) : Prop := db' = db ∨ ∃ w : Write, w.commit db = .ok db'

/-- What a run over the states returns. -/
def readOver {α : Type} (p : Reader α) (ss : List Database) : Result α :=
  (ReadProgram.runOver Database.answer p ss).getD (.error (.noRecord []))

theorem readsOver_of_readOver {α : Type} {p : Reader α} {ss : List Database} {a : α}
    (h : readOver p ss = .ok a) : ReadsOver p ss (.ok a) := by
  refine ReadProgram.runsOver_of_runOver ?_
  rw [readOver] at h
  cases hrun : ReadProgram.runOver Database.answer p ss with
  | none => simp [hrun] at h
  | some r => simpa [hrun] using h

/-- The status of the garden and its bundle, `workspace` being its workspace. -/
def gardenStatus : Reader Status.ProjectStatusInfo := Status.build (uuidText 100)

def gardenBundle : Reader Resume.ResumeBundle := Resume.exportBundle true (.ok ()) 7 (uuidText 100)

/-- The garden is renamed before the last read of its status, and of its bundle. -/
def renameMeanwhile : Result (Write × Database × Status.ProjectStatusInfo × Resume.ResumeBundle ×
    Status.ProjectStatusInfo × Resume.ResumeBundle) := do
  let write ← ((Project.Call.update (uuidText 100) 1
    { name := "Orchard".toList, description := "Vegetable beds".toList,
      projectStatus := "active".toList, startedAt := "2026-01-01T00:00:00Z".toList, endedAt := none,
      decisionIds := [], memoryIds := [], artifactIds := [] } ⟨none, .user⟩).prepare
        (surroundings 0)).on Project.gardenDatabase
  let renamed ← write.commit Project.gardenDatabase
  let status ← readOver gardenStatus (List.replicate 5 Project.gardenDatabase ++ [renamed])
  let bundle ← readOver gardenBundle (List.replicate 8 Project.gardenDatabase ++ [renamed])
  let statusAfter ← gardenStatus.on renamed
  let bundleAfter ← gardenBundle.on renamed
  ensure (status.sourceStateRevision ≠ Project.gardenDatabase.stateRevision ∧
    bundle.stateRevision ≠ Project.gardenDatabase.stateRevision ∧
    status.projectName ≠ statusAfter.projectName ∧
    bundle.project.content.name ≠ bundleAfter.project.content.name) (.noRecord [])
  return (write, renamed, status, bundle, statusAfter, bundleAfter)

theorem renameMeanwhile_isOk : renameMeanwhile.isOk = true := by decide

theorem isChain_follows {db db' : Database} (h : Follows db db') (n : Nat) :
    (List.replicate n db ++ [db']).IsChain Follows := by
  induction n with
  | zero => exact List.isChain_singleton db'
  | succ n ih =>
    cases n with
    | zero => exact List.isChain_pair.2 h
    | succ n => exact List.isChain_cons_cons.2 ⟨.inl rfl, ih⟩

/-- What a run reports is not what the last state gives, whose revision it reports. -/
theorem not_showsOne_of_last {α : Type} {p : Reader α} {revision : α → Nat} {db db' : Database}
    {n : Nat} {a b : α} (hrevision : revision a ≠ db.stateRevision) (hlast : p.on db' = .ok b)
    (hne : a ≠ b) : ¬ ShowsOne p revision (List.replicate n db ++ [db']) a := by
  rintro ⟨db₀, hmem, hreported, hrun⟩
  rcases List.mem_append.1 hmem with hmem | hmem
  · rw [List.eq_of_mem_replicate hmem] at hreported
    exact hrevision hreported.symm
  · rw [List.mem_singleton.1 hmem, hlast] at hrun
    exact hne (Except.ok.inj hrun).symm

end Runs

end DollState
