import DollState.Library.Clients
import DollState.Domain.WorkItemGraph
import DollState.Domain.ProjectService
import DollState.State.Reference

/-!
# Dependency cycles between clients

The cycle check of a work item reads the graph before the transaction, and the transaction looks at
the row of that work item alone. Two clients that each check and then write different work items can
close a cycle between them. In every run, the graphs stay acyclic exactly if no update is committed
whose dependencies lead back to it in the graph that its transaction finds (`noCycle_iff`).
-/

namespace DollState.WorkItem

open StateLib

section

variable [PythonLibrary] [ModuleRules]

/-- The database and the clients of its work items. -/
abbrev ItemWorld (ι : Type) :=
  Clients.World Database ι StateQuery StateQuery.Answer DollError Write (Surroundings × Call)

abbrev ItemAction := Clients.Action Write (Surroundings × Call)

abbrev ItemStep {ι : Type} [DecidableEq ι] : ItemWorld ι → ι × ItemAction → ItemWorld ι → Prop :=
  Clients.Step Database.answer Call.prepareIn Write.commit

abbrev ItemTrace (ι : Type) := List (Taken (ItemWorld ι) (ι × ItemAction))

/-! ## Cycles -/

variable {ok : (q : StateQuery) → q.Answer → Prop} {ι : Type} [DecidableEq ι]

/-- If the step commits an update, the dependencies it writes do not lead back to its work item in
the graph that the transaction finds. -/
def ClosesNoCycle (t : Taken (ItemWorld ι) (ι × ItemAction)) : Prop :=
  ∀ i call w u ids, t.label = (i, .commit call w) → w.update? = some u → u.status = .active →
    metadataIds u.metadata "depends_on_ids" = .ok ids → ∀ projectId, ∀ id ∈ ids,
      ¬ Digraph.Reaches (Digraph.edges (dependencies t.pre.shared projectId)) id u.base.id

omit [DecidableEq ι] in
theorem Committed.staysAcyclic_iff {W W' : ItemWorld ι} {i : ι} {env : Surroundings} {call : Call}
    {w : Write} (h : Committed ok W.shared W'.shared call w) (hground : Grounded W.shared)
    (hnone : NoCycle W.shared) :
    NoCycle W'.shared ↔ ClosesNoCycle ⟨W, (i, .commit (env, call) w), W'⟩ := by
  cases h with
  | created htarget hfree hactive hput =>
    refine iff_of_true (hput.noCycle_of_created hground hfree hnone) ?_
    rintro _ _ _ u _ ⟨⟩ ⟨⟩
  | @changed _ u _ _ found _ c₁ c _ _ _ _ hfound hactive hold _ hmetadata hproject _ hput =>
    by_cases hst : u.status = .active
    · have hid : found.id = u.base.id := Database.id_of_find? hfound
      have hself : (u.apply found).id = u.base.id := hid
      rw [hput.staysAcyclic_iff hst (hself ▸ hfound) hactive hold hproject hnone, hself]
      constructor
      · rintro hall _ _ _ u' ids ⟨⟩ ⟨⟩ - hids
        rw [hmetadata, metadataIds_dependsOn hput.encodes.ok, Except.ok.injEq] at hids
        exact hids ▸ hall
      · intro hcloses
        exact hcloses i _ _ u c.dependsOnIds rfl rfl hst
          (hmetadata ▸ metadataIds_dependsOn hput.encodes.ok)
    · refine iff_of_true (hput.noCycle_of_archived hst hnone) ?_
      rintro _ _ _ _ _ ⟨⟩ ⟨⟩ hst'
      exact absurd hst' hst

/-! ## Runs -/

/-- What a client has read comes from earlier grounded databases, so its commits keep the database
grounded and its work items in their projects. -/
theorem committed_of_runsOver {db db' : Database} {call : Surroundings × Call}
    {ss : List Database} {w : Write} (hground : Grounded db)
    (hss : ∀ t ∈ ss, Grounded t ∧ KeepsItems t db)
    (hruns : ReadProgram.RunsOver Database.answer (Call.prepareIn call) ss (.ok w))
    (hcommit : w.commit db = .ok db') :
    ∃ ok, (∀ id r, ok (.record id) (some r) →
        ∃ t, WellFormed t ∧ KeepsItems t db ∧ t.find? id = some r) ∧
      Committed ok db db' call.2 w := by
  -- an answer counts as seen if one of the states gave it
  set ok : (q : StateQuery) → q.Answer → Prop := fun q a => ∃ s ∈ ss, a = s.answer q
  have hseen : ∀ id r, ok (.record id) (some r) →
      ∃ t, WellFormed t ∧ KeepsItems t db ∧ t.find? id = some r := by
    rintro id r ⟨s, hs, hr⟩
    exact ⟨s, (hss s hs).1.wellFormed, (hss s hs).2, hr.symm⟩
  have hall : (call.2.prepare call.1).All ok _ := call.2.prepare_all call.1
  have hprepared := hall.runsOver hruns fun s hs q => ⟨s, hs, rfl⟩
  exact ⟨ok, hseen, hprepared.committed hground.wellFormed hseen hcommit⟩

theorem commitsForward : Clients.CommitsForward Database.answer Call.prepareIn Write.commit
    Grounded KeepsItems := by
  intro db call ss w db' hground hss hruns hcommit
  obtain ⟨ok, hseen, h⟩ := committed_of_runsOver hground hss hruns hcommit
  exact ⟨h.grounded hground hseen, h.keepsItems⟩

theorem ItemStep.staysAcyclic_iff {W W' : ItemWorld ι} {l : ι × ItemAction}
    (hinf : Clients.Informed Database.answer Call.prepareIn Grounded KeepsItems W)
    (hnone : NoCycle W.shared) (hs : ItemStep W l W') :
    NoCycle W'.shared ↔ ClosesNoCycle ⟨W, l, W'⟩ := by
  obtain ⟨i, action⟩ := l
  cases action with
  | commit call w =>
    obtain ⟨hbusy, hcommit⟩ := hs.of_commit
    obtain ⟨ss, hss, hruns⟩ := hinf.of_commit hbusy
    obtain ⟨ok, -, h⟩ := committed_of_runsOver hinf.invariant hss hruns hcommit
    exact h.staysAcyclic_iff hinf.invariant hnone
  | start =>
    rw [hs.shared_eq fun _ _ _ h => nomatch h]
    exact iff_of_true hnone fun _ _ _ _ _ h => nomatch h
  | read =>
    rw [hs.shared_eq fun _ _ _ h => nomatch h]
    exact iff_of_true hnone fun _ _ _ _ _ h => nomatch h
  | stop =>
    rw [hs.shared_eq fun _ _ _ h => nomatch h]
    exact iff_of_true hnone fun _ _ _ _ _ h => nomatch h

end

section Runs

attribute [local instance] asciiLibrary acceptingRules

/-- Two clients of a database with one project, both at rest. -/
def gardenItems : ItemWorld Bool := ⟨Project.gardenDatabase, fun _ => .idle⟩

/-- Redefine the task `id` to have the given dependencies. -/
def redefineTask (n : Nat) (id : RecordId) (title : String) (dependsOnIds : List RecordId) :
    Surroundings × Call :=
  (surroundings n, .updateDefinition (uuidText id) 1 (task title dependsOnIds) ⟨none, .user⟩)

/-- Two tasks are created; then each client makes one of them depend on the other, both having
validated before either commits. -/
def crossed : Result (Write × Write × Database × Database × Database × Database) := do
  let digging ← (Call.prepareIn (createTask 0 "Dig")).on Project.gardenDatabase
  let db₁ ← digging.commit Project.gardenDatabase
  let planting ← (Call.prepareIn (createTask 1 "Plant")).on db₁
  let db₂ ← planting.commit db₁
  let digLater ← (Call.prepareIn (redefineTask 2 1 "Dig" [4])).on db₂
  let plantLater ← (Call.prepareIn (redefineTask 3 4 "Plant" [1])).on db₂
  let db₃ ← digLater.commit db₂
  let db₄ ← plantLater.commit db₃
  ensure (dependencies db₄ 100 1 = some [4] ∧ dependencies db₄ 100 4 = some [1]) (.noRecord [])
  return (digging, planting, db₁, db₂, db₃, db₄)

theorem crossed_isOk : crossed.isOk = true := by decide +kernel

theorem crossedRun : ∃ (W : ItemWorld Bool) (tr : ItemTrace Bool),
    Run ItemStep gardenItems tr W ∧ ¬ NoCycle W.shared := by
  obtain ⟨_, h⟩ := exists_of_isOk crossed_isOk
  obtain ⟨digging, hdigging, h⟩ := bind_eq_ok.1 h
  obtain ⟨db₁, h₁, h⟩ := bind_eq_ok.1 h
  obtain ⟨planting, hplanting, h⟩ := bind_eq_ok.1 h
  obtain ⟨db₂, h₂, h⟩ := bind_eq_ok.1 h
  obtain ⟨digLater, hdigLater, h⟩ := bind_eq_ok.1 h
  obtain ⟨plantLater, hplantLater, h⟩ := bind_eq_ok.1 h
  obtain ⟨db₃, h₃, h⟩ := bind_eq_ok.1 h
  obtain ⟨db₄, h₄, h⟩ := bind_eq_ok.1 h
  obtain ⟨⟨hdig, hplant⟩, -⟩ := (check_bind_eq_ok.1 h).imp_left ensure_eq_ok.1
  obtain ⟨tr₁, hrun₁⟩ := Clients.exists_committed Database.answer Call.prepareIn Write.commit
    (W := gardenItems) (i := false) rfl hdigging h₁
  obtain ⟨tr₂, hrun₂⟩ := Clients.exists_committed Database.answer Call.prepareIn Write.commit
    (W := { gardenItems with shared := db₁ }) (i := false) rfl hplanting h₂
  obtain ⟨tr₃, hrun₃⟩ := Clients.exists_prepared Database.answer Call.prepareIn Write.commit
    (W := { gardenItems with shared := db₂ }) (i := false) rfl hdigLater
  obtain ⟨tr₄, hrun₄⟩ := Clients.exists_prepared Database.answer Call.prepareIn Write.commit
    (W := ({ gardenItems with shared := db₂ } : ItemWorld Bool).goto false
      (.busy (redefineTask 2 1 "Dig" [4]) (.done (.ok digLater)))) (i := true) rfl hplantLater
  refine ⟨_, _, ((((hrun₁.append hrun₂).append hrun₃).append hrun₄).next
    (.commit (i := false) rfl h₃)).next (.commit (i := true) rfl h₄), fun hnone => ?_⟩
  -- each of the two leads to the other
  refine hnone 100 1 (.head (b := 4) ?_ (.single ?_))
  · exact Digraph.mem_edges.2 ⟨⟨_, hdig, List.mem_singleton_self _⟩, by
      rw [Clients.World.goto_shared, hplant]; rfl⟩
  · exact Digraph.mem_edges.2 ⟨⟨_, hplant, List.mem_singleton_self _⟩, by
      rw [Clients.World.goto_shared, hdig]; rfl⟩

end Runs

end DollState.WorkItem
