import DollState.Sync.Invariant
import DollState.Sync.Monotone

/-!
# What a call tells its caller

A call of `create_record` or `update_record` is truthful if it raises exactly when its transaction
has not committed. Once a call has committed, it goes on to bring `workspace.json` up to date, and
that step refuses to go back: a call whose revision another client has already passed in the file
raises after its commit. All calls of a run are truthful if and only if no committed call finds a
larger revision than its own in the file (`calls_truthful_iff`).
-/

namespace DollState

open StateLib

variable {Client : Type}

/-- A finished call on a record raises exactly when its transaction has not committed. -/
def Phase.Truthful : Phase → Prop
  | .finished (some (.event _)) _ _ => True
  | .finished _ committed result => (∃ e, result = .error e) ↔ committed = false
  | _ => True

/-- A committed call that loads the file does not find a larger revision than its own there. -/
def LoadsNoNewer (t : Taken (World Client) (Client × Action)) : Prop :=
  ∀ c id revision, t.label = (c, .load) →
    t.pre.phase c = .syncing ⟨.call (.record id), revision⟩ →
    t.pre.file.stateRevision ≤ revision

/-- A workspace before any of its clients does anything: initialised, or left by earlier ones. -/
structure World.Initial (w : World Client) : Prop where
  revision : w.file.stateRevision ≤ w.db.stateRevision
  fileSchema : w.file.schemaVersion ≤ 1
  workspaceId : w.file.workspaceId = w.db.workspaceId
  schema : w.db.schemaVersion ≤ currentSchemaVersion
  idle : ∀ c, w.phase c = .idle

theorem World.Initial.ok {w : World Client} (h : w.Initial) : w.Ok where
  revision := h.revision
  fileSchema := h.fileSchema
  workspaceId := h.workspaceId
  schema := h.schema
  phase c := by
    rw [h.idle]
    trivial

section

variable [DecidableEq Client] [PythonLibrary] [ModuleRules]

/-- The client that takes a step ends up in a truthful phase exactly when the step meets the
condition. -/
theorem Step.truthful_iff {w w' : World Client} {c : Client} {a : Action} (h : w.Ok)
    (hc : (w.phase c).Truthful) (hs : Step w (c, a) w') :
    (w'.phase c).Truthful ↔ LoadsNoNewer ⟨w, (c, a), w'⟩ := by
  -- a step of another kind than loading meets the condition, so its new phase has to be truthful
  have hother : a ≠ .load → (w'.phase c).Truthful →
      ((w'.phase c).Truthful ↔ LoadsNoNewer ⟨w, (c, a), w'⟩) := by
    intro ha ht
    refine ⟨fun _ d id revision hlabel _ => ?_, fun _ => ht⟩
    exact absurd (Prod.ext_iff.1 hlabel).2 ha
  cases hs with
  | begin call => exact hother (by simp) (by simp [Phase.Truthful])
  | read => exact hother (by simp) (by simp [Phase.Truthful])
  | reject => exact hother (by simp) (by simp [Phase.Truthful])
  | @rollback _ p e hphase =>
    refine hother (by simp) ?_
    rw [World.goto_self]
    cases p.target <;> simp [Phase.Truthful]
  | commit => exact hother (by simp) (by simp [Phase.Truthful])
  | loadEqual now version hphase hfile hplan =>
    obtain ⟨-, rfl⟩ := loadWorkspace_eq_ok.1 hfile
    have hrev := planRevision_eq_none.1 hplan
    refine ⟨fun _ d id revision hlabel hsync => ?_, fun _ => by simp [Phase.Truthful]⟩
    obtain rfl : c = d := (Prod.ext_iff.1 hlabel).1
    obtain rfl : _ = Job.mk _ revision := Phase.syncing.inj (hphase.symm.trans hsync)
    exact hrev.ge
  | loadOlder now version hphase hfile hplan =>
    obtain ⟨-, rfl⟩ := loadWorkspace_eq_ok.1 hfile
    obtain ⟨hlt, -⟩ := planRevision_eq_some.1 hplan
    refine ⟨fun _ d id revision hlabel hsync => ?_, fun _ => by simp [Phase.Truthful]⟩
    obtain rfl : c = d := (Prod.ext_iff.1 hlabel).1
    obtain rfl : _ = Job.mk _ revision := Phase.syncing.inj (hphase.symm.trans hsync)
    exact hlt.le
  | @loadNewer _ job record e now version hphase hfile hplan =>
    obtain ⟨-, rfl⟩ := loadWorkspace_eq_ok.1 hfile
    have hlt := planRevision_eq_error.1 ⟨e, hplan⟩
    rw [World.goto_self]
    obtain ⟨purpose, revision⟩ := job
    cases purpose with
    | call target =>
      cases target with
      | record id =>
        -- the call has committed and raises
        constructor
        · intro ht
          simp [Job.failed, Phase.Truthful] at ht
        · intro hload
          have hle : w.file.stateRevision ≤ revision := hload c id revision rfl hphase
          exact absurd hlt (Nat.not_lt.2 hle)
      | event id =>
        refine ⟨fun _ d id revision hlabel hsync => ?_, fun _ => trivial⟩
        obtain rfl : c = d := (Prod.ext_iff.1 hlabel).1
        cases hphase.symm.trans hsync
    | opening =>
      refine ⟨fun _ d id revision hlabel hsync => ?_, fun _ => trivial⟩
      obtain rfl : c = d := (Prod.ext_iff.1 hlabel).1
      cases hphase.symm.trans hsync
  | loadFailed hphase hfile =>
    rw [loadWorkspace_of_ok h] at hfile
    cases hfile
  | replace => exact hother (by simp) (by simp [Phase.Truthful])
  | reload => exact hother (by simp) (by simp [Phase.Truthful])
  | reloadFailed hphase hfile =>
    rw [loadWorkspace_of_ok h] at hfile
    cases hfile
  | @readBack _ target revision hphase =>
    refine hother (by simp) ?_
    have hpresent : target.Present w.db := h.known hphase target rfl
    rw [World.goto_self, Written.readBack_of_present hpresent]
    cases target <;> simp [Phase.Truthful]
  | opened => exact hother (by simp) (by simp [Phase.Truthful])
  | openLoad => exact hother (by simp) (by simp [Phase.Truthful])
  | openLoadFailed => exact hother (by simp) (by simp [Phase.Truthful])
  | identify hphase hid =>
    refine hother (by simp) ?_
    rw [World.goto_self]
    unfold openWith
    split_ifs <;> trivial
  | identifyFailed => exact hother (by simp) (by simp [Phase.Truthful])
  | migrate run hphase => exact hother (by simp) hc
  | migrated => exact hother (by simp) (by simp [Phase.Truthful])
  | crash => exact hother (by simp) (by simp [Phase.Truthful])

theorem Step.all_truthful_iff {w w' : World Client} {l : Client × Action} (h : w.Ok)
    (ht : ∀ c, (w.phase c).Truthful) (hs : Step w l w') :
    (∀ c, (w'.phase c).Truthful) ↔ LoadsNoNewer ⟨w, l, w'⟩ := by
  obtain ⟨c, a⟩ := l
  rw [← hs.truthful_iff h (ht c)]
  refine ⟨fun hall => hall c, fun hc d => ?_⟩
  by_cases hd : d = c
  · exact hd ▸ hc
  · rw [hs.phase_of_ne hd]
    exact ht d

/-- In every run, every call on a record raises exactly when it has not committed, if and only if
every committed call finds no larger revision than its own when it loads the file. -/
theorem calls_truthful_iff {w₀ w : World Client} {tr : Trace Client} (h₀ : w₀.Initial)
    (h : Run Step w₀ tr w) :
    (∀ t ∈ tr, ∀ c, (t.post.phase c).Truthful) ↔ ∀ t ∈ tr, LoadsNoNewer t := by
  refine h.forall_post_iff (I := World.Ok) (P := fun w => ∀ c, (w.phase c).Truthful) h₀.ok ?_ ?_ ?_
  · intro c
    rw [h₀.idle]
    trivial
  · exact fun _ _ _ hok _ hs _ => hok.step hs
  · exact fun _ _ _ hok ht hs => hs.all_truthful_iff hok ht

end

section Runs

attribute [local instance] asciiLibrary acceptingRules

theorem newWorld_initial : newWorld.Initial where
  revision := le_refl _
  fileSchema := le_refl _
  workspaceId := rfl
  schema := le_refl _
  idle _ := rfl

/-- Two clients commit, and the later one brings the file up to date first. -/
theorem passedRun : ∃ (w : World Bool) (tr : Trace Bool), Run Step newWorld tr w ∧
    ¬ ∀ t ∈ tr, ∀ c, (t.post.phase c).Truthful := by
  refine ⟨_, _, (Run.start : Run Step newWorld [] newWorld)
    |>.next (Step.begin (c := false) (noteCall 0) trivial)
    |>.next (Step.commit (c := false) rfl rfl)
    |>.next (Step.begin (c := true) (noteCall 1) trivial)
    |>.next (Step.commit (c := true) rfl rfl)
    |>.next (Step.loadOlder (c := true) [] [] rfl rfl rfl)
    |>.next (Step.replace (c := true) rfl)
    |>.next (Step.loadNewer (c := false) [] [] rfl rfl rfl), ?_⟩
  intro h
  have hlast := h _ (List.mem_append_right _ (List.mem_singleton.2 rfl)) false
  exact Bool.noConfusion (hlast.1 ⟨_, rfl⟩)

theorem calls_truthful_iff_passedRun : ∃ (w : World Bool) (tr : Trace Bool),
    Run Step newWorld tr w ∧
      ((∀ t ∈ tr, ∀ c, (t.post.phase c).Truthful) ↔ ∀ t ∈ tr, LoadsNoNewer t) := by
  obtain ⟨w, tr, h, -⟩ := passedRun
  exact ⟨w, tr, h, calls_truthful_iff newWorld_initial h⟩

theorem not_calls_truthful :
    ¬ ∀ (w₀ w : World Bool) (tr : Trace Bool), w₀.Initial → Run Step w₀ tr w →
      ∀ t ∈ tr, ∀ c, (t.post.phase c).Truthful := by
  intro hall
  obtain ⟨w, tr, h, hfalse⟩ := passedRun
  exact hfalse (hall newWorld w tr newWorld_initial h)

end Runs

end DollState
