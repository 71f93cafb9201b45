import DollState.Sync.Outcome

/-!
# Opening a workspace after any history

However the clients of a workspace have interleaved, and wherever they have crashed, the file is
not ahead of the database, so an open for writing never fails with `aheadError`; and an open that
runs while no other client takes a step succeeds and leaves the file at the revision of the
database (`fileRevision_le_and_open`).
-/

namespace DollState

open StateLib

variable {Client : Type}

/-- The steps of a client that has begun to open and does nothing else. -/
def Action.Continues : Action → Prop
  | .begin | .openLoad | .crash => False
  | _ => True

/-- What is known of the world while `c` opens it and every other client stands still. -/
def World.OpeningBy (w : World Client) (c : Client) : Prop :=
  match w.phase c with
  | .openLoaded record | .openMigrating record => record.stateRevision = w.file.stateRevision
  | .syncing job => job = ⟨.opening, w.db.stateRevision⟩
  | .writing job record =>
    job = ⟨.opening, w.db.stateRevision⟩ ∧ record.stateRevision = w.db.stateRevision
  | .synced job | .reloaded job =>
    job.purpose = .opening ∧ w.file.stateRevision = w.db.stateRevision
  | .opened => w.file.stateRevision = w.db.stateRevision
  | _ => False

variable [DecidableEq Client]

theorem World.openingBy_goto {w : World Client} {c : Client} {phase : Phase} :
    (w.goto c phase).OpeningBy c ↔
      World.OpeningBy { w with phase := fun _ => phase } c := by
  unfold World.OpeningBy
  rw [World.goto_self]
  rfl

section

variable [PythonLibrary] [ModuleRules]

/-- `tr` is one open of `c`, during which no other client takes a step and `c` does not crash. -/
def OpensAlone (c : Client) (w : World Client) (tr : Trace Client) (w' : World Client) : Prop :=
  ∃ t rest, tr = t :: rest ∧ t.label = (c, .openLoad) ∧
    (∀ u ∈ rest, u.label.1 = c ∧ u.label.2.Continues) ∧ Run Step w tr w'

/-- Each step of an undisturbed open keeps what is known of it. -/
theorem Step.openingBy {w w' : World Client} {c : Client} {a : Action} (hok : w.Ok)
    (ho : w.OpeningBy c) (ha : a.Continues) (hs : Step w (c, a) w') : w'.OpeningBy c := by
  cases hs with
  | begin => exact ha.elim
  | openLoad => exact ha.elim
  | openLoadFailed => exact ha.elim
  | crash => exact ha.elim
  | loadEqual now version hphase hfile hplan =>
    obtain ⟨-, rfl⟩ := loadWorkspace_eq_ok.1 hfile
    have hrev := planRevision_eq_none.1 hplan
    simp only [World.OpeningBy, hphase] at ho
    subst ho
    exact World.openingBy_goto.2 ⟨rfl, hrev.symm⟩
  | loadOlder now version hphase hfile hplan =>
    obtain ⟨-, rfl⟩ := planRevision_eq_some.1 hplan
    simp only [World.OpeningBy, hphase] at ho
    subst ho
    exact World.openingBy_goto.2 ⟨rfl, rfl⟩
  | loadNewer now version hphase hfile hplan =>
    -- the file is not newer than the database
    obtain ⟨-, rfl⟩ := loadWorkspace_eq_ok.1 hfile
    have hlt := planRevision_eq_error.1 ⟨_, hplan⟩
    simp only [World.OpeningBy, hphase] at ho
    subst ho
    exact absurd hok.revision (Nat.not_le.2 hlt)
  | loadFailed hphase hfile =>
    rw [loadWorkspace_of_ok hok] at hfile
    cases hfile
  | replace hphase =>
    simp only [World.OpeningBy, hphase] at ho
    obtain ⟨rfl, hrev⟩ := ho
    exact World.openingBy_goto.2 ⟨rfl, hrev⟩
  | reload hphase =>
    simp only [World.OpeningBy, hphase] at ho
    exact World.openingBy_goto.2 ho
  | reloadFailed hphase hfile =>
    rw [loadWorkspace_of_ok hok] at hfile
    cases hfile
  | opened hphase =>
    simp only [World.OpeningBy, hphase] at ho
    exact World.openingBy_goto.2 ho.2
  | readBack hphase =>
    simp only [World.OpeningBy, hphase] at ho
    exact absurd ho.1 (by simp)
  | identify hphase hid =>
    obtain ⟨-, -, -, rfl⟩ := validateDatabaseIdentity_eq_ok.1 hid
    have hle := (hok.known hphase).1
    simp only [World.OpeningBy, hphase] at ho
    rw [World.openingBy_goto]
    split
    · exact ho
    · unfold openWith
      split_ifs with hahead hbehind
      · omega
      · exact rfl
      · refine ⟨rfl, ?_⟩
        show w.file.stateRevision = w.db.stateRevision
        omega
  | identifyFailed hphase hid =>
    rw [validateDatabaseIdentity_eq_ok.2 ⟨(hok.known hphase).2.symm, hok.schema, rfl, rfl⟩] at hid
    cases hid
  | migrate run hphase =>
    simp only [World.OpeningBy, hphase] at ho ⊢
    exact ho
  | migrated hphase =>
    simp only [World.OpeningBy, hphase] at ho
    exact World.openingBy_goto.2 ho
  | read hphase => simp only [World.OpeningBy, hphase] at ho
  | reject hphase => simp only [World.OpeningBy, hphase] at ho
  | rollback _ hphase => simp only [World.OpeningBy, hphase] at ho
  | commit hphase => simp only [World.OpeningBy, hphase] at ho

/-! ## What an undisturbed open ends with -/

/-- `c` gets from `w` to `w'` by steps of its own that continue an open. -/
def ContinuesTo (c : Client) (w w' : World Client) : Prop :=
  ∃ tr : Trace Client, (∀ u ∈ tr, u.label.1 = c ∧ u.label.2.Continues) ∧ Run Step w tr w'

theorem ContinuesTo.step {c : Client} {a : Action} {w w' w'' : World Client}
    (hs : Step w (c, a) w') (ha : a.Continues) (h : ContinuesTo c w' w'') :
    ContinuesTo c w w'' := by
  obtain ⟨tr, htr, hrun⟩ := h
  refine ⟨[⟨w, (c, a), w'⟩] ++ tr, ?_, (Run.start.next hs).append hrun⟩
  rw [List.singleton_append, List.forall_mem_cons]
  exact ⟨⟨rfl, ha⟩, htr⟩

/-- An undisturbed open keeps what is known of it to its end. -/
theorem ContinuesTo.openingBy {c : Client} {w w' : World Client} (hok : w.Ok)
    (ho : w.OpeningBy c) (h : ContinuesTo c w w') : w'.Ok ∧ w'.OpeningBy c := by
  obtain ⟨tr, htr, hrun⟩ := h
  refine hrun.invariant_of_steps (I := fun w => w.Ok ∧ w.OpeningBy c)
    (K := fun u => u.label.1 = c ∧ u.label.2.Continues) ⟨hok, ho⟩ ?_ htr
  rintro w₁ ⟨d, a⟩ w₂ ⟨hok, ho⟩ hs ⟨rfl, ha⟩
  exact ⟨hok.step hs, hs.openingBy hok ho ha⟩

theorem opens_of_reloaded {c : Client} {w : World Client} {revision : Nat}
    (h : w.phase c = .reloaded ⟨.opening, revision⟩) :
    ∃ w', ContinuesTo c w w' ∧ w'.phase c = .opened :=
  ⟨_, .step (.opened h) trivial ⟨[], by simp, .start⟩, World.goto_self ..⟩

theorem opens_of_synced {c : Client} {w : World Client} {revision : Nat} (hok : w.Ok)
    (h : w.phase c = .synced ⟨.opening, revision⟩) :
    ∃ w', ContinuesTo c w w' ∧ w'.phase c = .opened := by
  obtain ⟨w', hw', hopened⟩ := opens_of_reloaded (c := c)
    (w := w.goto c (.reloaded ⟨.opening, revision⟩)) (World.goto_self ..)
  exact ⟨w', .step (.reload h (loadWorkspace_of_ok hok)) trivial hw', hopened⟩

theorem opens_of_syncing {c : Client} {w : World Client} (hok : w.Ok)
    (h : w.phase c = .syncing ⟨.opening, w.db.stateRevision⟩) :
    ∃ w', ContinuesTo c w w' ∧ w'.phase c = .opened := by
  have hload := loadWorkspace_of_ok hok
  rcases Nat.lt_or_eq_of_le hok.revision with hlt | heq
  · -- the file is behind, and is replaced
    have hplan : planRevision [] [] w.file w.db.stateRevision = _ :=
      planRevision_eq_some.2 ⟨hlt, rfl⟩
    have hs := Step.loadOlder [] [] h hload hplan
    have hs' := Step.replace (World.goto_self w c (.writing ⟨.opening, w.db.stateRevision⟩
      { w.file with stateRevision := w.db.stateRevision, updatedAt := [],
                    productVersionLastOpened := [] }))
    obtain ⟨w', hw', hopened⟩ := opens_of_synced ((hok.step hs).step hs') (World.goto_self ..)
    exact ⟨w', .step hs trivial (.step hs' trivial hw'), hopened⟩
  · have hplan : planRevision [] [] w.file w.db.stateRevision = _ :=
      planRevision_eq_none.2 heq.symm
    have hs := Step.loadEqual [] [] h hload hplan
    obtain ⟨w', hw', hopened⟩ := opens_of_synced (hok.step hs) (World.goto_self ..)
    exact ⟨w', .step hs trivial hw', hopened⟩

theorem opens_of_identified {c : Client} {w : World Client} {record : WorkspaceRecord}
    (hok : w.Ok) (h : w.phase c = .openLoaded record)
    (hversion : w.db.schemaVersion = currentSchemaVersion) :
    ∃ w', ContinuesTo c w w' ∧ w'.phase c = .opened := by
  have hs := Step.identify h
    (validateDatabaseIdentity_eq_ok.2 ⟨(hok.known h).2.symm, hok.schema, rfl, rfl⟩)
  have hle := (hok.known h).1
  have hok' := hok.step hs
  rw [if_neg (by omega), openWith, if_neg (by omega)] at hs hok'
  split_ifs at hs hok'
  · obtain ⟨w', hw', hopened⟩ := opens_of_syncing hok' (World.goto_self ..)
    exact ⟨w', .step hs trivial hw', hopened⟩
  · obtain ⟨w', hw', hopened⟩ := opens_of_synced hok' (World.goto_self ..)
    exact ⟨w', .step hs trivial hw', hopened⟩

/-- An open applies its pending migrations, `n` of them, and checks the database again. -/
theorem migrates_of_openMigrating {c : Client} {record : WorkspaceRecord} (n : Nat)
    {w : World Client} (hok : w.Ok) (h : w.phase c = .openMigrating record)
    (hn : currentSchemaVersion - w.db.schemaVersion = n) :
    ∃ w' : World Client, ContinuesTo c w w' ∧ w'.Ok ∧ w'.phase c = .openLoaded record ∧
      w'.db.schemaVersion = currentSchemaVersion := by
  induction n generalizing w with
  | zero =>
    have hle : currentSchemaVersion ≤ w.db.schemaVersion := Nat.le_of_sub_eq_zero hn
    have hs := Step.migrated h hle
    exact ⟨_, .step hs trivial ⟨[], by simp, .start⟩, hok.step hs, World.goto_self ..,
      le_antisymm hok.schema hle⟩
  | succ n ih =>
    have hs := Step.migrate ⟨0, [], 0, 0, [], none, [], none⟩ h (by omega)
    obtain ⟨w', hw', hrest⟩ := ih (hok.step hs) h (by
      show currentSchemaVersion - (w.db.schemaVersion + 1) = n
      omega)
    exact ⟨w', .step hs trivial hw', hrest⟩

theorem opens_of_openLoaded {c : Client} {w : World Client} {record : WorkspaceRecord}
    (hok : w.Ok) (h : w.phase c = .openLoaded record) :
    ∃ w', ContinuesTo c w w' ∧ w'.phase c = .opened := by
  rcases Nat.lt_or_eq_of_le hok.schema with hlt | heq
  · have hs := Step.identify h
      (validateDatabaseIdentity_eq_ok.2 ⟨(hok.known h).2.symm, hok.schema, rfl, rfl⟩)
    rw [if_pos hlt] at hs
    obtain ⟨w₁, ⟨tr₁, htr₁, hrun₁⟩, hok₁, h₁, hversion⟩ :=
      migrates_of_openMigrating _ (hok.step hs) (World.goto_self ..) rfl
    obtain ⟨w₂, ⟨tr₂, htr₂, hrun₂⟩, hopened⟩ := opens_of_identified hok₁ h₁ hversion
    refine ⟨w₂, .step hs trivial ⟨tr₁ ++ tr₂, ?_, hrun₁.append hrun₂⟩, hopened⟩
    exact List.forall_mem_append.2 ⟨htr₁, htr₂⟩
  · exact opens_of_identified hok h heq

/-- An undisturbed open of a client at rest can always go through. -/
theorem exists_opensAlone {c : Client} {w : World Client} (hok : w.Ok)
    (hrest : (w.phase c).Resting) :
    ∃ tr w', OpensAlone c w tr w' ∧ w'.phase c = .opened := by
  have hs := Step.openLoad hrest (loadWorkspace_of_ok hok)
  obtain ⟨w', ⟨tr, htr, hrun⟩, hopened⟩ := opens_of_openLoaded (hok.step hs) (World.goto_self ..)
  exact ⟨_, w', ⟨_, tr, rfl, rfl, htr, (Run.start.next hs).append hrun⟩, hopened⟩

/-- An undisturbed open that has come to an end has succeeded, and the file is up to date. -/
theorem OpensAlone.opened {c : Client} {w w' : World Client} {tr : Trace Client} (hok : w.Ok)
    (h : OpensAlone c w tr w') (hrest : (w'.phase c).Resting) :
    w'.phase c = .opened ∧ w'.file.stateRevision = w'.db.stateRevision := by
  obtain ⟨t, rest, rfl, hlabel, htr, hrun⟩ := h
  obtain ⟨hpre, hs, hrun⟩ := hrun.uncons
  rw [hpre, hlabel] at hs
  have hok₁ := hok.step hs
  have hload := loadWorkspace_of_ok hok
  have ho : t.post.OpeningBy c := by
    generalize t.post = w₁ at hs
    cases hs with
    | openLoad hrest hfile =>
      obtain ⟨-, rfl⟩ := loadWorkspace_eq_ok.1 hfile
      exact World.openingBy_goto.2 rfl
    | openLoadFailed hrest hfile =>
      rw [hload] at hfile
      cases hfile
  have ho' := (ContinuesTo.openingBy hok₁ ho ⟨rest, htr, hrun⟩).2
  -- of the phases at rest, only `opened` is one of an open that nothing has disturbed
  unfold World.OpeningBy at ho'
  cases hphase : w'.phase c with
  | opened =>
    rw [hphase] at ho'
    exact ⟨rfl, ho'⟩
  | _ =>
    rw [hphase] at ho' hrest
    first
      | exact hrest.elim
      | exact ho'.elim

/-- In every state that any interleaving of the clients reaches, with crashes anywhere, the file is
not ahead of the database and no open has failed for that reason; and an open that nothing
disturbs goes through and makes the two equal. -/
theorem fileRevision_le_and_open {w₀ w : World Client} {tr : Trace Client} (h₀ : w₀.Initial)
    (h : Run Step w₀ tr w) :
    w.file.stateRevision ≤ w.db.stateRevision ∧
    (∀ c, w.phase c ≠ .openFailed aheadError) ∧
    ∀ c, (w.phase c).Resting →
      (∃ tr' w', OpensAlone c w tr' w' ∧ w'.phase c = .opened) ∧
      ∀ tr' w', OpensAlone c w tr' w' → (w'.phase c).Resting →
        w'.phase c = .opened ∧ w'.file.stateRevision = w'.db.stateRevision := by
  have hok : w.Ok := h₀.ok.run h
  refine ⟨hok.revision, ?_, ?_⟩
  · intro c hc
    exact hok.known hc rfl
  · exact fun c hrest => ⟨exists_opensAlone hok hrest, fun _ _ => OpensAlone.opened hok⟩

end

section Runs

attribute [local instance] asciiLibrary acceptingRules

/-- A client commits and crashes before it writes the file. -/
theorem crashedRun : ∃ (w : World Bool) (tr : Trace Bool), Run Step newWorld tr w ∧
    w.file.stateRevision = 0 ∧ w.db.stateRevision = 1 ∧ (w.phase true).Resting :=
  ⟨_, _, (Run.start : Run Step newWorld [] newWorld)
    |>.next (Step.begin (c := false) (noteCall 0) trivial)
    |>.next (Step.commit (c := false) rfl rfl)
    |>.next (Step.crash (c := false)), rfl, rfl, trivial⟩

theorem fileRevision_le_and_open_crashedRun :
    ∃ (w w' : World Bool) (tr : Trace Bool), w.file.stateRevision = 0 ∧ w.db.stateRevision = 1 ∧
      OpensAlone true w tr w' ∧ w'.file.stateRevision = w'.db.stateRevision := by
  obtain ⟨w, tr, hrun, hfile, hdb, hrest⟩ := crashedRun
  obtain ⟨-, -, hopen⟩ := fileRevision_le_and_open newWorld_initial hrun
  obtain ⟨⟨tr', w', halone, hopened⟩, hequal⟩ := hopen true hrest
  exact ⟨w, w', tr', hfile, hdb, halone, (hequal tr' w' halone (hopened ▸ trivial)).2⟩

end Runs

end DollState
