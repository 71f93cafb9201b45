import DollState.State.Reference
import DollState.Sync.System

/-!
# When the revision in the workspace file goes down

`update_workspace_state_revision` compares its revision with the one in the file it has loaded, and
replaces the file afterwards. A client is overtaken if, between the two, another client replaces the
file by a larger revision. The revision in the file goes down exactly when an overtaken client
replaces the file (`fileRevision_monotone_iff`).
-/

namespace DollState

open StateLib

section

variable {Client : Type} [DecidableEq Client] [PythonLibrary] [ModuleRules]

/-- A trace of the system. -/
abbrev Trace (Client : Type) := List (Taken (World Client) (Client × Action))

/-- The step replaces the file by the record of a client that writes `revision`. -/
def ReplacesBy (t : Taken (World Client) (Client × Action)) (c : Client) (revision : Nat) : Prop :=
  t.label = (c, .replace) ∧
    ∃ job record, t.pre.phase c = .writing job record ∧ job.revision = revision

/-- Since the last time `c` loaded the file, a client has replaced it by a revision above
`revision`. -/
def Overtaken (tr : Trace Client) (c : Client) (revision : Nat) : Prop :=
  ∃ pre t post d larger, tr = pre ++ t :: post ∧ ReplacesBy t d larger ∧ revision < larger ∧
    ∀ u ∈ post, u.label ≠ (c, .load)

/-- No client of the run replaces the file after it has been overtaken. -/
def NoOvertakenReplace (tr : Trace Client) : Prop :=
  ∀ pre t post c revision, tr = pre ++ t :: post → ReplacesBy t c revision →
    ¬ Overtaken pre c revision

/-- No step of the run lowers the revision in the file. -/
def FileRevisionMonotone (tr : Trace Client) : Prop :=
  ∀ t ∈ tr, t.pre.file.stateRevision ≤ t.post.file.stateRevision

/-! ## Clients about to replace the file -/

/-- A client gets to the point of replacing the file only by loading it, and then holds the file
with its own, larger, revision. -/
theorem Step.writing {w w' : World Client} {c : Client} {a : Action} {job : Job}
    {record : WorkspaceRecord} (h : Step w (c, a) w') (hc : w'.phase c = .writing job record) :
    a = .load ∧ w'.file = w.file ∧ w.file.stateRevision < job.revision ∧
      record.stateRevision = job.revision := by
  cases h with
  | loadOlder now version hphase hload hplan =>
    rw [World.goto_self, Phase.writing.injEq] at hc
    obtain ⟨rfl, rfl⟩ := hc
    obtain ⟨-, rfl⟩ := loadWorkspace_eq_ok.1 hload
    obtain ⟨hlt, rfl⟩ := planRevision_eq_some.1 hplan
    exact ⟨rfl, rfl, hlt, rfl⟩
  | migrate run hphase =>
    rw [hphase] at hc
    cases hc
  | loadNewer now version hphase hload hplan =>
    rw [World.goto_self] at hc
    unfold Job.failed at hc
    split at hc <;> cases hc
  | loadFailed hphase hload =>
    rw [World.goto_self] at hc
    unfold Job.failed at hc
    split at hc <;> cases hc
  | reloadFailed hphase hload =>
    rw [World.goto_self] at hc
    unfold Job.failed at hc
    split at hc <;> cases hc
  | identify hphase hid =>
    rw [World.goto_self] at hc
    unfold openWith at hc
    split_ifs at hc
  | _ =>
    rw [World.goto_self] at hc
    cases hc

theorem Step.of_replace {w w' : World Client} {c : Client} (h : Step w (c, .replace) w') :
    ∃ job record, w.phase c = .writing job record ∧ w'.file = record := by
  cases h with
  | replace hphase => exact ⟨_, _, hphase, rfl⟩

/-- A client about to replace the file holds a revision at least as large as the one in the file,
or it has been overtaken. -/
theorem writing_le_or_overtaken {w₀ w : World Client} {tr : Trace Client}
    (hidle : ∀ c, w₀.phase c = .idle) (h : Run Step w₀ tr w) {c : Client} {job : Job}
    {record : WorkspaceRecord} (hc : w.phase c = .writing job record) :
    record.stateRevision = job.revision ∧
      (w.file.stateRevision ≤ job.revision ∨ Overtaken tr c job.revision) := by
  induction h generalizing c job record with
  | start =>
    rw [hidle] at hc
    cases hc
  | @next tr w w' l hrun hs ih =>
    obtain ⟨d, a⟩ := l
    by_cases hcd : c = d
    · subst hcd
      obtain ⟨-, hfile, hlt, hrev⟩ := hs.writing hc
      exact ⟨hrev, .inl (by rw [hfile]; exact hlt.le)⟩
    rw [hs.phase_of_ne hcd] at hc
    obtain ⟨hrev, hle⟩ := ih hc
    refine ⟨hrev, ?_⟩
    rcases hle with hle | ⟨pre, t, post, e, larger, rfl, hby, hlarger, hpost⟩
    · -- the only step that can raise the file's revision is another client's replacement
      by_cases ha : a = .replace
      · subst ha
        obtain ⟨job', record', hphase, rfl⟩ := hs.of_replace
        have hrev' := (ih hphase).1
        by_cases hle' : w'.file.stateRevision ≤ job.revision
        · exact .inl hle'
        · refine .inr ⟨tr, _, [], d, job'.revision, rfl, ⟨rfl, job', w'.file, hphase, rfl⟩, ?_,
            by simp⟩
          omega
      · exact .inl (by rw [hs.file_eq ha]; exact hle)
    · refine .inr ⟨pre, t, post ++ [⟨w, (d, a), w'⟩], e, larger, by simp, hby, hlarger, ?_⟩
      intro u hu
      rcases List.mem_append.1 hu with hu | hu
      · exact hpost u hu
      · rw [List.mem_singleton.1 hu]
        exact fun h => hcd (Prod.ext_iff.1 h).1.symm

/-- What a replacement leaves in the file. -/
theorem ReplacesBy.file_eq {w₀ w : World Client} {pre post : Trace Client}
    {t : Taken (World Client) (Client × Action)} {c : Client} {revision : Nat}
    (hidle : ∀ c, w₀.phase c = .idle) (h : Run Step w₀ (pre ++ t :: post) w)
    (ht : ReplacesBy t c revision) : t.post.file.stateRevision = revision := by
  obtain ⟨hpre, hs, -⟩ := h.split rfl
  obtain ⟨hlabel, job, record, hphase, rfl⟩ := ht
  rw [hlabel] at hs
  obtain ⟨job', record', hphase', hfile⟩ := hs.of_replace
  rw [hphase, Phase.writing.injEq] at hphase'
  rw [hfile, ← hphase'.2]
  exact (writing_le_or_overtaken hidle hpre hphase).1

/-- In every run, the revision in the file never goes down if and only if no client replaces the
file after being overtaken. -/
theorem fileRevision_monotone_iff {w₀ w : World Client} {tr : Trace Client}
    (hidle : ∀ c, w₀.phase c = .idle) (h : Run Step w₀ tr w) :
    FileRevisionMonotone tr ↔ NoOvertakenReplace tr := by
  constructor
  · rintro hmono pre t post c revision rfl hby ⟨pre', t', post', d, larger, rfl, hby', hlt, -⟩
    have hfile := hby.file_eq hidle h
    have hfile' := hby'.file_eq hidle (by simpa using h)
    -- between the two replacements the revision has not gone down
    have hbetween : t'.post.file.stateRevision ≤ t.pre.file.stateRevision := by
      obtain ⟨hpre, -, -⟩ := h.split rfl
      obtain ⟨-, -, hmid⟩ := hpre.split rfl
      refine hmid.le_of_steps (f := fun w => w.file.stateRevision) fun u hu => hmono u ?_
      simp [hu]
    have hstep := hmono t (by simp)
    omega
  · intro hno t ht
    obtain ⟨pre, post, rfl⟩ := List.append_of_mem ht
    obtain ⟨hpre, hs, -⟩ := h.split rfl
    obtain ⟨w₁, ⟨c, a⟩, w₂⟩ := t
    by_cases ha : a = .replace
    · subst ha
      obtain ⟨job, record, hphase, hfile⟩ := hs.of_replace
      obtain ⟨hrev, hle | hover⟩ := writing_le_or_overtaken hidle hpre hphase
      · show w₁.file.stateRevision ≤ w₂.file.stateRevision
        rw [hfile, hrev]
        exact hle
      · exact absurd hover (hno pre _ post c _ rfl ⟨rfl, job, record, hphase, rfl⟩)
    · show w₁.file.stateRevision ≤ w₂.file.stateRevision
      rw [hs.file_eq ha]

end

section Runs

attribute [local instance] asciiLibrary acceptingRules

/-- A call that creates a record. -/
def noteCall (n : Nat) : RepositoryCall :=
  .createRecord (surroundings n) {
    recordType := "note", schemaVersion := 1, status := .active, provenance := .userCreated,
    sensitivity := .personal, title := none, metadata := [], recordId := none }

/-- A new workspace with two clients. -/
def newWorld : World Bool where
  db := .fresh 0 []
  file := ⟨0, 1, "2026-01-01T00:00:00Z".toList, "1".toList, 0⟩
  phase _ := .idle

/-- Two clients commit, both load the file, and the one with the larger revision replaces it
first. -/
theorem overtakingRun :
    ∃ (w : World Bool) (tr : Trace Bool), Run Step newWorld tr w ∧ ¬ FileRevisionMonotone tr := by
  refine ⟨_, _, (Run.start : Run Step newWorld [] newWorld)
    |>.next (Step.begin (c := false) (noteCall 0) trivial)
    |>.next (Step.commit (c := false) rfl rfl)
    |>.next (Step.begin (c := true) (noteCall 1) trivial)
    |>.next (Step.commit (c := true) rfl rfl)
    |>.next (Step.loadOlder (c := false) [] [] rfl rfl rfl)
    |>.next (Step.loadOlder (c := true) [] [] rfl rfl rfl)
    |>.next (Step.replace (c := true) rfl)
    |>.next (Step.replace (c := false) rfl), ?_⟩
  intro h
  have hlast := h _ (List.mem_append_right _ (List.mem_singleton.2 rfl))
  revert hlast
  decide

theorem fileRevision_monotone_iff_overtakingRun :
    ∃ (w : World Bool) (tr : Trace Bool), Run Step newWorld tr w ∧ ¬ FileRevisionMonotone tr ∧
      (FileRevisionMonotone tr ↔ NoOvertakenReplace tr) := by
  obtain ⟨w, tr, h, hdown⟩ := overtakingRun
  exact ⟨w, tr, h, hdown, fileRevision_monotone_iff (fun _ => rfl) h⟩

theorem not_fileRevision_monotone :
    ¬ ∀ (w₀ w : World Bool) (tr : Trace Bool), (∀ c, w₀.phase c = .idle) → Run Step w₀ tr w →
      FileRevisionMonotone tr := by
  intro hall
  obtain ⟨w, tr, h, hdown⟩ := overtakingRun
  exact hdown (hall newWorld w tr (fun _ => rfl) h)

end Runs

end DollState
