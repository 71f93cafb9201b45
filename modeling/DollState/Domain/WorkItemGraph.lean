import DollState.Domain.WorkItemWrites

/-!
# The dependency graphs under the transactions of work items

A transaction puts one row. What that does to the dependency graphs: a new work item is one that
nothing depends on, an archived one leaves them, and a changed one closes a cycle exactly if what it
depends on leads to it.
-/

namespace DollState.WorkItem

open StateLib

section

variable [PythonLibrary] [ModuleRules]

/-! ## What every commit keeps -/

/-- Every work item is as the service writes it, and what an active one depends on exists. -/
structure Grounded (db : Database) : Prop where
  wellFormed : WellFormed db
  dependsOn : ∀ id r c, db.find? id = some r → r.status = .active → Encodes r c →
    ∀ d ∈ c.dependsOnIds, (db.find? d).isSome

omit [ModuleRules] in
/-- The dependencies of an active work item exist. -/
theorem Grounded.isSome_of_mem {db : Database} (h : Grounded db) {projectId id d : RecordId}
    {ids : List RecordId} (hids : dependencies db projectId id = some ids) (hd : d ∈ ids) :
    (db.find? d).isSome := by
  obtain ⟨r, item, hr, htype, hactive, hread, -, rfl⟩ := dependencies_eq_some.1 hids
  obtain ⟨c, hc⟩ := h.wellFormed id r hr htype
  cases (workItemFromRecord_of_encodes hc).symm.trans hread
  exact h.dependsOn id r c hr hactive hc d hd

omit [PythonLibrary] [ModuleRules] in
theorem KeepsItems.isSome {db db' : Database} (h : KeepsItems db db') {id : RecordId}
    (hid : (db.find? id).isSome) : (db'.find? id).isSome := by
  obtain ⟨r, hr⟩ := Option.isSome_iff_exists.1 hid
  obtain ⟨r', hr', -⟩ := h id r hr
  rw [hr']
  rfl

variable {ok : (q : StateQuery) → q.Answer → Prop}

/-- A row whose dependencies have been read is put on grounded work items. -/
theorem Put.grounded {db db' : Database} {row : RecordEnvelope} {c : WorkItemContent}
    (h : Put ok db db' row c) (hground : Grounded db) (hkeeps : KeepsItems db db')
    (hseen : ∀ id r, ok (.record id) (some r) →
      ∃ t, WellFormed t ∧ KeepsItems t db ∧ t.find? id = some r) : Grounded db' where
  wellFormed := h.wellFormed hground.wellFormed
  dependsOn id r c' hr hactive hc d hd := by
    by_cases hid : id = row.id
    · subst hid
      cases h.find?_self.symm.trans hr
      cases h.encodes.unique hc
      obtain ⟨target, hread⟩ := h.shown.dependsOn d hd
      obtain ⟨t, -, hkeep, htarget⟩ := hseen d target hread
      exact hkeeps.isSome (hkeep.isSome (by rw [htarget]; rfl))
    · rw [h.find?_of_ne hid] at hr
      exact hkeeps.isSome (hground.dependsOn id r c' hr hactive hc d hd)

theorem Committed.grounded {db db' : Database} {call : Call} {w : Write}
    (h : Committed ok db db' call w) (hground : Grounded db)
    (hseen : ∀ id r, ok (.record id) (some r) →
      ∃ t, WellFormed t ∧ KeepsItems t db ∧ t.find? id = some r) : Grounded db' := by
  have hkeeps := h.keepsItems
  cases h with
  | created _ _ _ hput => exact hput.grounded hground hkeeps hseen
  | changed _ _ _ _ _ _ _ _ _ _ _ hput => exact hput.grounded hground hkeeps hseen

/-! ## Cycles -/

/-- The dependencies between the active work items of each project have no cycle. -/
def NoCycle (db : Database) : Prop :=
  ∀ projectId, Digraph.Acyclic (Digraph.edges (dependencies db projectId))

omit [ModuleRules] in
theorem metadataIds_dependsOn {selfId : RecordId} {c : WorkItemContent} (h : c.Ok selfId) :
    metadataIds c.metadata "depends_on_ids" = .ok c.dependsOnIds :=
  metadataIds_ofIds rfl h.dependsOnIds

/-- A new work item closes no cycle. -/
theorem Put.noCycle_of_created {db db' : Database} {row : RecordEnvelope} {c : WorkItemContent}
    (h : Put ok db db' row c) (hground : Grounded db) (hfree : db.find? row.id = none)
    (hnone : NoCycle db) : NoCycle db' := by
  intro projectId
  rw [h.dependencies_eq]
  have hout : dependencies db projectId row.id = none := by rw [dependencies, hfree]; rfl
  split
  · refine (hnone projectId).update_of_source (fun id ids _ hids hmem => ?_)
      h.encodes.ok.irreflexive.1
    -- nothing depends on what does not exist
    have := hground.isSome_of_mem hids hmem
    rw [hfree] at this
    cases this
  · rw [← hout, Function.update_eq_self]
    exact hnone projectId

/-- An archived work item leaves the graphs. -/
theorem Put.noCycle_of_archived {db db' : Database} {row : RecordEnvelope} {c : WorkItemContent}
    (h : Put ok db db' row c) (harchived : row.status ≠ .active) (hnone : NoCycle db) :
    NoCycle db' := by
  intro projectId
  rw [h.dependencies_eq, if_neg fun hactive => harchived hactive.1]
  refine (hnone projectId).edges_mono fun id ids hids => ?_
  by_cases hid : id = row.id
  · rw [hid, Function.update_self] at hids
    cases hids
  · rw [Function.update_of_ne hid] at hids
    exact ⟨ids, hids, List.Subset.refl _⟩

/-- A changed work item closes no cycle exactly if what it depends on does not lead to it. -/
theorem Put.staysAcyclic_iff {db db' : Database} {row found : RecordEnvelope} {c c₁ : WorkItemContent}
    (h : Put ok db db' row c) (hactive : row.status = .active)
    (hfound : db.find? row.id = some found) (hfoundActive : found.status = .active)
    (hold : Encodes found c₁) (hproject : c.projectId = c₁.projectId) (hnone : NoCycle db) :
    NoCycle db' ↔ ∀ projectId, ∀ d ∈ c.dependsOnIds,
      ¬ Digraph.Reaches (Digraph.edges (dependencies db projectId)) d row.id := by
  have hat : ∀ projectId, dependencies db projectId row.id =
      if c.projectId = projectId then some c₁.dependsOnIds else none := by
    intro projectId
    rw [dependencies_of_encodes hfound hold, hproject]
    simp [hfoundActive]
  refine forall_congr' fun projectId => ?_
  rw [h.dependencies_eq]
  by_cases hin : c.projectId = projectId
  · rw [if_pos ⟨hactive, hin⟩, (hnone projectId).update_iff (by rw [hat, if_pos hin]; rfl)]
    refine forall₂_congr fun d hd => and_iff_right ?_
    exact fun e => h.encodes.ok.irreflexive.1 (e ▸ hd)
  · -- in the graph of another project nothing leads to the work item, and nothing changes
    rw [if_neg fun hin' => hin hin'.2, ← show dependencies db projectId row.id = none by
      rw [hat, if_neg hin], Function.update_eq_self]
    refine iff_of_true (hnone projectId) fun d hd hreach => ?_
    obtain ⟨_, -, hedge⟩ := Relation.TransGen.tail'_iff.1 hreach
    have := (Digraph.mem_edges.1 hedge).2
    rw [hat, if_neg hin] at this
    cases this

end

end DollState.WorkItem
