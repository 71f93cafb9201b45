import DollState.Concurrency.Calls
import DollState.State.Reference

/-!
# Lost updates

An update is sound if the row its transaction finds is the row its new values were computed from.
`update_record` compares the revision it has read with the one the caller expects; the services only
compare the row their transaction finds. So a caller who expects a revision that does not exist yet
may overwrite a change nobody has shown to it. In every run, the updates are sound exactly if each
of them has read its row at the expected revision (`noLostUpdate_iff`).
-/

namespace DollState

open StateLib Project

section

variable [PythonLibrary] [ModuleRules]

/-- The row an update was computed from has been in the database since, or has evolved. -/
theorem base_evolved {env : Surroundings} {call : StateCall} {ss : List Database}
    {db : Database} {w : Write} {u : RecordUpdate}
    (hss : ∀ t ∈ ss, True ∧ Database.Evolves t db)
    (hruns : ReadProgram.RunsOver Database.answer (StateCall.prepare (env, call)) ss (.ok w))
    (hu : w.update? = some u) :
    ∃ r, db.find? u.base.id = some r ∧ (u.base.revision = r.revision → u.base = r) := by
  -- an answer counts as seen if one of the states gave it
  have hbase : (StateCall.prepare (env, call)).All (fun q a => ∃ s ∈ ss, a = s.answer q) _ :=
    StateCall.prepare_base env call
  have hseen := hbase.runsOver hruns (fun s hs q => ⟨s, hs, rfl⟩) u hu
  obtain ⟨id, s, hs, hfind⟩ := hseen
  have hbase : s.find? id = some u.base := hfind.symm
  obtain ⟨r, hr, -, heq⟩ := (hss s hs).2 id u.base hbase
  exact ⟨r, Database.id_of_find? hbase ▸ hr, heq⟩

/-! ## Sound updates -/

variable {ι : Type} [DecidableEq ι]

/-- If the step commits an update, the row it finds is the row the update was computed from. -/
def NoLostUpdate (t : Taken (StateWorld ι) (ι × StateAction)) : Prop :=
  ∀ i call w u, t.label = (i, .commit call w) → w.update? = some u →
    t.pre.shared.find? u.base.id = some u.base

/-- If the step commits an update, its call has read the row at the revision the caller expects. -/
def ReadAtExpected (t : Taken (StateWorld ι) (ι × StateAction)) : Prop :=
  ∀ i call w u, t.label = (i, .commit call w) → w.update? = some u →
    u.base.revision = u.expectedRevision

/-- The calls' reads and commits along a run. -/
theorem StateStep.informed {W₀ W : StateWorld ι} {tr : StateTrace ι}
    (hidle : ∀ i, W₀.client i = .idle) (h : Run StateStep W₀ tr W) :
    Clients.Informed Database.answer StateCall.prepare (fun _ => True) Database.Evolves W :=
  Clients.Informed.run Database.Evolves.refl (fun h h' => h.trans h')
    (fun _ _ _ _ _ _ _ _ hcommit => ⟨trivial, Write.evolves hcommit⟩) trivial hidle h

theorem StateStep.updates_iff {W W' : StateWorld ι} {l : ι × StateAction}
    (h : Clients.Informed Database.answer StateCall.prepare (fun _ => True) Database.Evolves W)
    (hs : StateStep W l W') : NoLostUpdate ⟨W, l, W'⟩ ↔ ReadAtExpected ⟨W, l, W'⟩ := by
  refine forall_congr' fun i => forall_congr' fun call => forall_congr' fun w =>
    forall_congr' fun u => forall_congr' fun hl => forall_congr' fun hu => ?_
  subst hl
  obtain ⟨hbusy, hcommit⟩ := hs.of_commit
  obtain ⟨row, hrow, hrevision⟩ := Write.update_found hcommit hu
  constructor
  · intro hsound
    cases hrow.symm.trans hsound
    exact hrevision
  · intro hexpected
    obtain ⟨ss, hss, hruns⟩ := h.of_commit hbusy
    obtain ⟨r, hr, heq⟩ := base_evolved hss hruns hu
    cases hrow.symm.trans hr
    show W.shared.find? u.base.id = some u.base
    rw [hrow, heq (hexpected.trans hrevision.symm)]

/-- In every run of any number of clients, no committed update loses another client's change if and
only if each of them has read its row at the expected revision; those of `update_record` have. -/
theorem noLostUpdate_iff {W₀ W : StateWorld ι} {tr : StateTrace ι}
    (hidle : ∀ i, W₀.client i = .idle) (h : Run StateStep W₀ tr W) :
    ((∀ t ∈ tr, NoLostUpdate t) ↔ ∀ t ∈ tr, ReadAtExpected t) ∧
      ∀ t ∈ tr, ∀ i env args w u, t.label = (i, .commit (env, .updateRecord args) w) →
        w.update? = some u → t.pre.shared.find? u.base.id = some u.base := by
  have hstep : ∀ t ∈ tr, NoLostUpdate t ↔ ReadAtExpected t := by
    intro t ht
    obtain ⟨⟨tr', hrun⟩, hs⟩ := h.prefix_of_mem ht
    exact StateStep.updates_iff (StateStep.informed hidle hrun) hs
  refine ⟨forall₂_congr hstep, ?_⟩
  intro t ht i env args w u hl hu
  refine (hstep t ht).2 ?_ i _ w u hl hu
  -- `update_record` has made the comparison itself
  rintro i' call' w' u' hl' hu'
  cases hl.symm.trans hl'
  obtain ⟨⟨tr', hrun⟩, hs⟩ := h.prefix_of_mem ht
  rw [hl] at hs
  obtain ⟨ss, -, hruns⟩ := (StateStep.informed hidle hrun).of_commit hs.of_commit.1
  have hall : (StateCall.prepare (env, .updateRecord args)).All (fun _ _ => True)
      fun w => ∀ u, w.update? = some u → u.base.revision = u.expectedRevision :=
    .bind (prepareUpdateRecord_all env args) fun u hu => .pure fun u' hu' => by
      cases hu'
      exact hu.2
  exact hall.runsOver hruns (fun _ _ _ => trivial) u' hu'

end

section Runs

attribute [local instance] asciiLibrary acceptingRules

/-- Two clients of a database with one project, both at rest. -/
def gardenWorld : StateWorld Bool := ⟨gardenDatabase, fun _ => .idle⟩

/-- One client archives the project, expecting revision 2. -/
def archiveCall : Surroundings × StateCall :=
  (surroundings 0, .project (.archive (uuidText 100) 2 ⟨none, .user⟩))

/-- The other gives it another description, expecting revision 1. -/
def describeCall : Surroundings × StateCall :=
  (surroundings 1, .project (.update (uuidText 100) 1
    { name := "Garden".toList, description := "Flower beds".toList, projectStatus := "active".toList,
      startedAt := "2026-01-01T00:00:00Z".toList, endedAt := none, decisionIds := [],
      memoryIds := [], artifactIds := [] } ⟨none, .user⟩))

/-- Both calls read the database first; then the description is committed, then the archival. -/
def overtaken : Result (Write × Write × Database × Database) := do
  let archival ← (StateCall.prepare archiveCall).on gardenDatabase
  let description ← (StateCall.prepare describeCall).on gardenDatabase
  let described ← description.commit gardenDatabase
  let archived ← archival.commit described
  ensure (∃ u ∈ archival.update?, u.base.revision ≠ u.expectedRevision) (.noRecord [])
  return (archival, description, described, archived)

theorem overtaken_isOk : overtaken.isOk = true := by decide

theorem overtakenRun : ∃ (W : StateWorld Bool) (tr : StateTrace Bool),
    Run StateStep gardenWorld tr W ∧ ¬ ∀ t ∈ tr, NoLostUpdate t := by
  obtain ⟨⟨a, d, db, db'⟩, h⟩ := exists_of_isOk overtaken_isOk
  obtain ⟨archival, ha, h⟩ := bind_eq_ok.1 h
  obtain ⟨description, hd, h⟩ := bind_eq_ok.1 h
  obtain ⟨described, hdescribed, h⟩ := bind_eq_ok.1 h
  obtain ⟨archived, harchived, h⟩ := bind_eq_ok.1 h
  obtain ⟨⟨u, hu, hne⟩, -⟩ := (check_bind_eq_ok.1 h).imp_left ensure_eq_ok.1
  obtain ⟨tr₁, h₁⟩ := StateStep.exists_prepared gardenWorld false rfl ha
  obtain ⟨tr₂, h₂⟩ := StateStep.exists_prepared
    (gardenWorld.goto false (.busy archiveCall (.done (.ok archival)))) true rfl hd
  have hrun := ((h₁.append h₂).next (.commit (i := true) rfl hdescribed)).next
    (.commit (i := false) rfl harchived)
  refine ⟨_, _, hrun, fun hall => hne ?_⟩
  -- the archival was computed from revision 1 and replaces revision 2
  have hfound := hall _ (List.mem_append_right _ (List.mem_singleton.2 rfl)) _ _ _ u rfl hu
  obtain ⟨row, hrow, hrevision⟩ := Write.update_found harchived hu
  cases hrow.symm.trans hfound
  exact hrevision

/-- The rule applies to that run. -/
theorem noLostUpdate_iff_overtakenRun : ∃ (W : StateWorld Bool) (tr : StateTrace Bool),
    Run StateStep gardenWorld tr W ∧ ((∀ t ∈ tr, NoLostUpdate t) ↔ ∀ t ∈ tr, ReadAtExpected t) := by
  obtain ⟨W, tr, h, -⟩ := overtakenRun
  exact ⟨W, tr, h, (noLostUpdate_iff (fun _ => rfl) h).1⟩

theorem not_noLostUpdate :
    ¬ ∀ (W₀ W : StateWorld Bool) (tr : StateTrace Bool), (∀ i, W₀.client i = .idle) →
      Run StateStep W₀ tr W → ∀ t ∈ tr, NoLostUpdate t := by
  intro hall
  obtain ⟨W, tr, h, hfalse⟩ := overtakenRun
  exact hfalse (hall gardenWorld W tr (fun _ => rfl) h)

end Runs

end DollState
