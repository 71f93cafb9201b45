import DollState.Library.Run
import DollState.Domain.WorkItemGraph
import DollState.Domain.ProjectService
import DollState.State.Reference

/-!
# Work items that other work items are read with

The reader of a work item checks the work items it names as they are now, the writers only check the
links of the one that is written. So archiving a work item makes those that name it unreadable, and
completing or cancelling one makes those that are blocked by it unreadable. In every run of the
service these are the only ways (`keepsReadable_iff`).
-/

namespace DollState.WorkItem

open StateLib

section

variable [PythonLibrary] [ModuleRules]

/-! ## One call on one database -/

/-- `WorkItemService.get` returns. -/
def Readable (db : Database) (id : RecordId) : Prop :=
  ∃ info, (get (uuidText id)).on db = .ok info

/-- The call runs on the database and commits. -/
def Call.Commits (db : Database) (call : Surroundings × Call) (db' : Database) : Prop :=
  ∃ w, (Call.prepareIn call).on db = .ok w ∧ w.commit db = .ok db'

theorem readable_iff {db : Database} (hwf : WellFormed db) {id : RecordId} :
    Readable db id ↔ ∃ r c, db.find? id = some r ∧ Encodes r c ∧ Linked db id c := by
  simp only [Readable, get, requireRecord, Reader.on, ReadProgram.run_bind,
    ReadProgram.run_catching, catching_eq_ok, ReadProgram.run_lift, bind_eq_ok, getRecord_on,
    Database.getRecord_eq_ok, uuidField_eq_ok, ensure_eq_ok, uuid_uuidText, Option.some.injEq]
  constructor
  · rintro ⟨info, r, ⟨_, rfl, r', hr, -, htype, ⟨⟩⟩, hinfo⟩
    obtain ⟨c, hc⟩ := hwf id r hr htype
    have hlinked := ((workItemFromRecordLive_on hwf hc).1 hinfo).1
    exact ⟨r, c, hr, hc, Database.id_of_find? hr ▸ hlinked⟩
  · rintro ⟨r, c, hr, hc, hlinked⟩
    refine ⟨WorkItemInfo.ofRecord r c, r, ⟨id, rfl, r, hr, (), hc.recordType, rfl⟩, ?_⟩
    exact (workItemFromRecordLive_on hwf hc).2 ⟨(Database.id_of_find? hr).symm ▸ hlinked, rfl⟩

/-- Every work item is readable. -/
structure AllReadable (db : Database) : Prop where
  wellFormed : WellFormed db
  linked : ∀ id r c, db.find? id = some r → Encodes r c → Linked db id c

variable {ok : (q : StateQuery) → q.Answer → Prop} {db db' : Database}

omit [ModuleRules] in
theorem answersOf_seen (hwf : WellFormed db) (id : RecordId) (r : RecordEnvelope)
    (h : answersOf db (.record id) (some r)) :
    ∃ t, WellFormed t ∧ KeepsItems t db ∧ t.find? id = some r :=
  ⟨db, hwf, KeepsItems.refl db, h.symm⟩

theorem Call.Commits.committed {call : Surroundings × Call} (h : Call.Commits db call db')
    (hwf : WellFormed db) : ∃ w, Committed (answersOf db) db db' call.2 w := by
  obtain ⟨w, hw, hcommit⟩ := h
  have hprepared := post_of_on (call.2.prepare_all call.1) hw
  exact ⟨w, hprepared.committed hwf (answersOf_seen hwf) hcommit⟩

theorem Put.linked {row : RecordEnvelope} {c : WorkItemContent}
    (h : Put (answersOf db) db db' row c) (hwf : WellFormed db) : Linked db row.id c :=
  (validateLinks_on hwf).1 (h.shown.links db fun _ _ ha => ha)

/-! ## Links to the row that is put -/

/-- The row takes the place of none, or of a work item of the same project and sensitivity. -/
structure Replaces (db : Database) (row : RecordEnvelope) (c : WorkItemContent) : Prop where
  recordType : ∀ r, db.find? row.id = some r → r.recordType = "work_item"
  sensitivity : ∀ r, db.find? row.id = some r → r.sensitivity = row.sensitivity
  project : ∀ r c₁, db.find? row.id = some r → Encodes r c₁ → c.projectId = c₁.projectId

variable {row : RecordEnvelope} {c : WorkItemContent}

theorem Put.keepsOthers (h : Put ok db db' row c) (hreplaces : Replaces db row c) :
    db.KeepsOthers db' "work_item" := by
  rw [← h.encodes.recordType]
  exact h.writes.keepsOthers fun r hr =>
    (hreplaces.recordType r hr).trans h.encodes.recordType.symm

omit [PythonLibrary] in
theorem recordType_of_isActiveEvidence {r : RecordEnvelope} (h : isActiveEvidence r = true) :
    r.recordType = "evidence" := by
  simpa using (Bool.and_eq_true_iff.1 (Bool.and_eq_true_iff.1 h).1).1

omit [PythonLibrary] in
theorem recordType_of_isActiveArtifact {r : RecordEnvelope} (h : isActiveArtifact r = true) :
    r.recordType = "artifact" := by
  simpa using (Bool.and_eq_true_iff.1 (Bool.and_eq_true_iff.1 h).1).1

theorem ProjectLink.keep {id : RecordId} (h : ProjectLink db id)
    (hkeep : db.KeepsOthers db' "work_item") : ProjectLink db' id := by
  obtain ⟨r, hr, htype, hactive, content, hread, hlinks⟩ := h
  refine ⟨r, hkeep id r hr (by rw [htype]; decide), htype, hactive, content, hread, ?_⟩
  exact hlinks.keep hkeep (by decide)

theorem DecisionLink.keep {id : RecordId} (h : DecisionLink db id)
    (hkeep : db.KeepsOthers db' "work_item") : DecisionLink db' id := by
  obtain ⟨r, hr, htype, hactive, content, hread, hlinks⟩ := h
  refine ⟨r, hkeep id r hr (by rw [htype]; decide), htype, hactive, content, hread, ?_⟩
  exact hlinks.keep hkeep (by decide)

/-- A work item that is named is the row that is put, or as it was. -/
theorem Put.related (h : Put ok db db' row c) (hreplaces : Replaces db row c)
    {projectId id : RecordId} {d : WorkItemContent} (hd : Related db projectId id d)
    (hactive : id = row.id → row.status = .active) :
    ∃ d', Related db' projectId id d' ∧ (id = row.id → d' = c) ∧ (id ≠ row.id → d' = d) := by
  obtain ⟨r, hr, hr_active, hencodes, hproject⟩ := hd
  by_cases hid : id = row.id
  · subst hid
    refine ⟨c, ⟨row, h.find?_self, hactive rfl, h.encodes, ?_⟩, fun _ => rfl, fun hne => absurd rfl hne⟩
    rw [hreplaces.project r d hr hencodes, hproject]
  · exact ⟨d, ⟨r, (h.find?_of_ne hid).trans hr, hr_active, hencodes, hproject⟩,
      fun e => absurd e hid, fun _ => rfl⟩

/-- What the row has to be for the work items that name it. -/
structure Serves (row : RecordEnvelope) (c b : WorkItemContent) : Prop where
  dependsOn : row.id ∈ b.dependsOnIds → row.status = .active
  blockedBy : row.id ∈ b.blockedByIds → row.status = .active ∧ ¬ c.workStatus.Terminal
  sources : row.id ∈ b.sourceIds → row.status = .active

/-- The links of a work item hold after the row is put if the row still serves them and closes no
cycle. -/
theorem Linked.of_put {id : RecordId} {b : WorkItemContent} (hb : Linked db id b)
    (h : Put ok db db' row c) (hreplaces : Replaces db row c) (hserves : Serves row c b)
    (hacyclic : Digraph.Acyclic (Digraph.edges
      (Function.update (dependencies db' b.projectId) id (some b.dependsOnIds)))) :
    Linked db' id b := by
  have hkeep := h.keepsOthers hreplaces
  exact {
    project := hb.project.keep hkeep
    dependsOn := by
      intro target htarget
      obtain ⟨d, hd⟩ := hb.dependsOn target htarget
      obtain ⟨d', hd', -⟩ := h.related hreplaces hd fun e => hserves.dependsOn (e ▸ htarget)
      exact ⟨d', hd'⟩
    blockedBy := by
      intro target htarget
      obtain ⟨d, hd, hopen⟩ := hb.blockedBy target htarget
      obtain ⟨d', hd', hsame, hother⟩ :=
        h.related hreplaces hd fun e => (hserves.blockedBy (e ▸ htarget)).1
      refine ⟨d', hd', ?_⟩
      by_cases hid : target = row.id
      · rw [hsame hid]
        exact (hserves.blockedBy (hid ▸ htarget)).2
      · rw [hother hid]
        exact hopen
    acyclic := hacyclic
    decisions := fun target htarget => (hb.decisions target htarget).keep hkeep
    evidence := fun target htarget => hkeep.has
      (fun r hr => by rw [recordType_of_isActiveEvidence hr]; decide) (hb.evidence target htarget)
    artifacts := fun target htarget => hkeep.has
      (fun r hr => by rw [recordType_of_isActiveArtifact hr]; decide) (hb.artifacts target htarget)
    sources := by
      intro target htarget
      obtain ⟨r, hr, hactive, hportable⟩ := hb.sources target htarget
      by_cases hid : target = row.id
      · subst hid
        exact ⟨row, h.find?_self, hserves.sources htarget, hreplaces.sensitivity r hr ▸ hportable⟩
      · exact ⟨r, (h.find?_of_ne hid).trans hr, hactive, hportable⟩ }

/-- The links of a work item that still hold are served by the row. -/
theorem Linked.serves {id : RecordId} {b : WorkItemContent} (hb : Linked db' id b)
    (h : Put ok db db' row c) : Serves row c b where
  dependsOn hmem := by
    obtain ⟨d, r, hr, hactive, -⟩ := hb.dependsOn row.id hmem
    cases h.find?_self.symm.trans hr
    exact hactive
  blockedBy hmem := by
    obtain ⟨d, ⟨r, hr, hactive, hencodes, -⟩, hopen⟩ := hb.blockedBy row.id hmem
    cases h.find?_self.symm.trans hr
    cases h.encodes.unique hencodes
    exact ⟨hactive, hopen⟩
  sources hmem := by
    obtain ⟨r, hr, hactive, -⟩ := hb.sources row.id hmem
    cases h.find?_self.symm.trans hr
    exact hactive

/-! ## Cycles -/

/-- The graphs of readable work items have no cycle. -/
theorem AllReadable.noCycle (h : AllReadable db) : NoCycle db := by
  intro projectId id hcycle
  obtain ⟨_, hedge, -⟩ := Relation.TransGen.head'_iff.1 hcycle
  obtain ⟨⟨ids, hids, -⟩, -⟩ := Digraph.mem_edges.1 hedge
  obtain ⟨r, item, hr, htype, -, hread, rfl, rfl⟩ := dependencies_eq_some.1 hids
  obtain ⟨b, hb⟩ := h.wellFormed id r hr htype
  cases (workItemFromRecord_of_encodes hb).symm.trans hread
  have hacyclic := (h.linked id r b hr hb).acyclic
  rw [← show dependencies db b.projectId id = some b.dependsOnIds from hids,
    Function.update_eq_self] at hacyclic
  exact hacyclic id hcycle

/-- What an active work item depends on is active. -/
theorem AllReadable.active_of_mem (h : AllReadable db) {projectId id d : RecordId}
    {ids : List RecordId} (hids : dependencies db projectId id = some ids) (hd : d ∈ ids) :
    db.Has d fun r => r.status = .active := by
  obtain ⟨r, item, hr, htype, -, hread, -, rfl⟩ := dependencies_eq_some.1 hids
  obtain ⟨b, hb⟩ := h.wellFormed id r hr htype
  cases (workItemFromRecord_of_encodes hb).symm.trans hread
  obtain ⟨_, r', hr', hactive, -⟩ := (h.linked id r b hr hb).dependsOn d hd
  exact ⟨r', hr', hactive⟩

theorem Put.noCycle (h : Put ok db db' row c) (hlinked : Linked db row.id c) (hnone : NoCycle db) :
    NoCycle db' := by
  intro projectId
  rw [h.dependencies_eq]
  split
  · rename_i hin
    exact hin.2 ▸ hlinked.acyclic
  · refine (hnone projectId).edges_mono fun id ids hids => ?_
    by_cases hid : id = row.id
    · rw [hid, Function.update_self] at hids
      cases hids
    · rw [Function.update_of_ne hid] at hids
      exact ⟨ids, hids, List.Subset.refl _⟩

/-- No other work item closes a cycle with its dependencies after the row is put. -/
theorem Put.acyclic (h : Put ok db db' row c) (hlinked : Linked db row.id c) (hall : AllReadable db)
    {id : RecordId} {r : RecordEnvelope} {b : WorkItemContent} (hid : id ≠ row.id)
    (hr : db.find? id = some r) (hb : Encodes r b) : Digraph.Acyclic (Digraph.edges
      (Function.update (dependencies db' b.projectId) id (some b.dependsOnIds))) := by
  have hnone := h.noCycle hlinked hall.noCycle
  rcases hb.status with hactive | harchived
  · have hself := dependencies_of_encodes ((h.find?_of_ne hid).trans hr) hb b.projectId
    rw [if_pos ⟨hactive, rfl⟩] at hself
    rw [← hself, Function.update_eq_self]
    exact hnone b.projectId
  · -- no active work item depends on an archived one
    have hnotActive : ¬ db.Has id fun r => r.status = .active := by
      rintro ⟨r', hr', hactive⟩
      cases hr.symm.trans hr'
      cases harchived.symm.trans hactive
    refine (hnone b.projectId).update_of_source (fun x ids hx hids hmem => hnotActive ?_) ?_
    · rw [h.dependencies_eq] at hids
      by_cases hxrow : x = row.id
      · rw [hxrow, Function.update_self] at hids
        split at hids
        · cases hids
          obtain ⟨_, r', hr', hactive, -⟩ := hlinked.dependsOn id hmem
          exact ⟨r', hr', hactive⟩
        · cases hids
      · rw [Function.update_of_ne hxrow] at hids
        exact hall.active_of_mem hids hmem
    · exact Database.id_of_find? hr ▸ hb.ok.irreflexive.1

/-! ## One call -/

/-- The row that a call puts on a database. -/
inductive Puts (db : Database) (call : Call) (row : RecordEnvelope) (c : WorkItemContent) : Prop
  | created (htarget : call.target? = none) (hfree : db.find? row.id = none)
      (hactive : row.status = .active)
  | changed {workItemId : Text} {base : RecordEnvelope} {c₀ : WorkItemContent}
      (htarget : call.target? = some workItemId) (hid : uuid workItemId = some row.id)
      (hbase : db.find? row.id = some base) (hactive : base.status = .active)
      (hencodes : Encodes base c₀) (harchives : row.status = .archived ↔ call.Archives)
      (hstatus : c.workStatus.text = call.statusAfter c₀)

theorem Committed.puts {call : Call} {w : Write} (hw : Committed (answersOf db) db db' call w) :
    ∃ row c, Put (answersOf db) db db' row c ∧ Replaces db row c ∧ Puts db call row c ∧
      ∀ base, db.find? row.id = some base → ∃ u draft errors, w = .change u draft errors ∧
        u.base = base ∧ u.metadata = c.metadata := by
  cases hw with
  | @created row _ _ c htarget hfree hactive hput =>
    refine ⟨row, c, hput, ⟨?_, ?_, ?_⟩, .created htarget hfree hactive, ?_⟩
    · exact fun r hr => absurd hr (by rw [hfree]; simp)
    · exact fun r hr => absurd hr (by rw [hfree]; simp)
    · exact fun r _ hr => absurd hr (by rw [hfree]; simp)
    · exact fun r hr => absurd hr (by rw [hfree]; simp)
  | @changed _ u draft errors found c₀ c₁ c htarget hid hcurrent hbase hfound hactive hold harchives
      hmetadata hproject hstatus hput =>
    have hfoundId : found.id = u.base.id := Database.id_of_find? hfound
    have hsame : u.base = found := by
      obtain ⟨id, hid', hseen⟩ := hcurrent.seen
      cases hid.symm.trans hid'
      exact Option.some.inj (hseen.trans hfound)
    refine ⟨u.apply found, c, hput, ⟨?_, ?_, ?_⟩, ?_, ?_⟩
    · rintro r hr
      rw [u.apply_id, hfoundId, hfound, Option.some.injEq] at hr
      exact hr ▸ hold.recordType
    · rintro r hr
      rw [u.apply_id, hfoundId, hfound, Option.some.injEq] at hr
      exact hr ▸ rfl
    · rintro r d hr hd
      rw [u.apply_id, hfoundId, hfound, Option.some.injEq] at hr
      cases hr
      rw [hproject, hold.unique hd]
    · refine .changed htarget ?_ ?_ hactive (hsame ▸ hbase) harchives hstatus
      · rw [u.apply_id, hfoundId, hid]
      · rw [u.apply_id, hfoundId, hfound]
    · rintro r hr
      rw [u.apply_id, hfoundId, hfound, Option.some.injEq] at hr
      exact ⟨u, draft, errors, rfl, hsame.trans hr, hmetadata⟩

theorem Call.Commits.puts {call : Surroundings × Call} (h : Call.Commits db call db')
    (hwf : WellFormed db) : ∃ row c, Put (answersOf db) db db' row c ∧ Replaces db row c ∧
      Puts db call.2 row c := by
  obtain ⟨w, hw⟩ := h.committed hwf
  obtain ⟨row, c, hput, hreplaces, hputs, -⟩ := hw.puts
  exact ⟨row, c, hput, hreplaces, hputs⟩

/-- The call leaves alone what other work items need of its work item: archiving it is for a work
item that no other one names as a dependency, a blocker or a source, and completing or cancelling it
for one that no other is blocked by. -/
def Call.SparesReaders (db : Database) : Call → Prop
  | .archive workItemId _ _ => ∀ a, uuid workItemId = some a → ∀ id r b, id ≠ a →
      db.find? id = some r → readWorkItem r = .ok b →
        a ∉ b.dependsOnIds ∧ a ∉ b.blockedByIds ∧ a ∉ b.sourceIds
  | .transition workItemId _ toStatus _ _ _ => ∀ a, uuid workItemId = some a → ∀ s,
      parseWorkStatus toStatus = .ok s → s.Terminal → ∀ id r b, id ≠ a →
        db.find? id = some r → readWorkItem r = .ok b → a ∉ b.blockedByIds
  | _ => True

/-- The row serves every other work item. -/
def ServesAll (db : Database) (row : RecordEnvelope) (c : WorkItemContent) : Prop :=
  ∀ id r b, id ≠ row.id → db.find? id = some r → Encodes r b → Serves row c b

theorem AllReadable.not_named (hall : AllReadable db) {id : RecordId} {r : RecordEnvelope}
    {b : WorkItemContent} (hr : db.find? id = some r) (hb : Encodes r b) {a : RecordId}
    (hfree : db.find? a = none) : a ∉ b.blockedByIds := fun hmem => by
  obtain ⟨_, ⟨r', hr', -⟩, -⟩ := (hall.linked id r b hr hb).blockedBy a hmem
  cases hfree.symm.trans hr'

/-- A work item that stays in the status in which the others are read with it serves them. -/
theorem AllReadable.servesAll (hall : AllReadable db) {base : RecordEnvelope}
    {c₀ : WorkItemContent} (hbase : db.find? row.id = some base) (hencodes : Encodes base c₀)
    (hactive : row.status = .active) (hstatus : c.workStatus = c₀.workStatus) :
    ServesAll db row c := by
  intro id r b _ hr hb
  refine ⟨fun _ => hactive, fun hmem => ⟨hactive, ?_⟩, fun _ => hactive⟩
  obtain ⟨_, ⟨r', hr', -, hencodes', -⟩, hopen⟩ := (hall.linked id r b hr hb).blockedBy _ hmem
  cases hbase.symm.trans hr'
  cases hencodes.unique hencodes'
  exact hstatus ▸ hopen

omit [PythonLibrary] [ModuleRules] in
theorem parseWorkStatus_eq_ok {text : Text} {s : WorkItemStatus} :
    parseWorkStatus text = .ok s ↔ s.text = text := by
  refine ⟨fun h => text_of_ofText? (orFail_eq_ok.1 h), ?_⟩
  rintro rfl
  exact parseWorkStatus_text s

/-- A call spares the other work items exactly if the row that it puts serves them. -/
theorem Puts.sparesReaders_iff {call : Call} (h : Puts db call row c) (hall : AllReadable db)
    (hrow : Encodes row c) : call.SparesReaders db ↔ ServesAll db row c := by
  have hread : ∀ {id r b}, db.find? id = some r → readWorkItem r = .ok b → Encodes r b :=
    fun hr hb => hall.wellFormed.encodes hr hb
  cases h with
  | created htarget hfree hactive =>
    have hspares : call.SparesReaders db := by
      cases call with
      | propose => trivial
      | create => trivial
      | updateDefinition => cases htarget
      | transition => cases htarget
      | setVerification => cases htarget
      | archive => cases htarget
    refine iff_of_true hspares fun id r b _ hr hb => ?_
    exact ⟨fun _ => hactive, fun hmem => absurd hmem (hall.not_named hr hb hfree),
      fun _ => hactive⟩
  | @changed workItemId base c₀ htarget hid hbase hactive hencodes harchives hstatus =>
    have hopen : ¬ call.Archives → row.status = .active := fun hnot =>
      hrow.status.resolve_right fun harchived => hnot (harchives.1 harchived)
    cases call with
    | propose => cases htarget
    | create => cases htarget
    | updateDefinition =>
      exact iff_of_true trivial (hall.servesAll hbase hencodes (hopen id)
        (WorkItemStatus.text_injective hstatus))
    | setVerification =>
      exact iff_of_true trivial (hall.servesAll hbase hencodes (hopen id)
        (WorkItemStatus.text_injective hstatus))
    | transition _ _ toStatus =>
      cases htarget
      constructor
      · intro hspares id r b hne hr hb
        refine ⟨fun _ => hopen not_false, fun hmem => ⟨hopen not_false, fun hterminal => ?_⟩,
          fun _ => hopen not_false⟩
        exact hspares _ hid _ (parseWorkStatus_eq_ok.2 hstatus) hterminal id r b hne hr
          (readWorkItem_of_encodes hb) hmem
      · intro hserves a ha s hs hterminal id r b hne hr hb hmem
        cases hid.symm.trans ha
        have hsame : s = c.workStatus :=
          WorkItemStatus.text_injective ((parseWorkStatus_eq_ok.1 hs).trans hstatus.symm)
        exact ((hserves id r b hne hr (hread hr hb)).blockedBy hmem).2 (hsame ▸ hterminal)
    | archive =>
      cases htarget
      have hnot : row.status ≠ .active := by
        rw [harchives.2 trivial]
        decide
      constructor
      · intro hspares id r b hne hr hb
        obtain ⟨h₁, h₂, h₃⟩ := hspares _ hid id r b hne hr (readWorkItem_of_encodes hb)
        exact ⟨fun hmem => absurd hmem h₁, fun hmem => absurd hmem h₂, fun hmem => absurd hmem h₃⟩
      · intro hserves a ha id r b hne hr hb
        cases hid.symm.trans ha
        have hb' := hserves id r b hne hr (hread hr hb)
        exact ⟨fun hmem => hnot (hb'.dependsOn hmem), fun hmem => hnot (hb'.blockedBy hmem).1,
          fun hmem => hnot (hb'.sources hmem)⟩

/-- After a call whose row serves the other work items, every work item is readable. -/
theorem Put.allReadable (h : Put (answersOf db) db db' row c) (hreplaces : Replaces db row c)
    (hall : AllReadable db) (hserves : ServesAll db row c) : AllReadable db' where
  wellFormed := h.wellFormed hall.wellFormed
  linked := by
    have hlinked := h.linked hall.wellFormed
    intro id r b hr hb
    by_cases hid : id = row.id
    · subst hid
      cases h.find?_self.symm.trans hr
      cases h.encodes.unique hb
      have hok := h.encodes.ok
      refine hlinked.of_put h hreplaces ⟨fun hmem => absurd hmem hok.irreflexive.1,
        fun hmem => absurd hmem hok.irreflexive.2, fun hmem => absurd hmem hok.noSelfSource⟩ ?_
      rw [h.dependencies_eq, Function.update_idem]
      exact hlinked.acyclic
    · have hold := (h.find?_of_ne hid).symm.trans hr
      exact (hall.linked id r b hold hb).of_put h hreplaces (hserves id r b hid hold hb)
        (h.acyclic hlinked hall hid hold hb)

/-! ## Runs -/

/-- Every other work item that could be read before the step can be read after it. -/
def KeepsReadable (t : Taken Database (Surroundings × Call)) : Prop :=
  ∀ id, (∀ workItemId, t.label.2.target? = some workItemId → uuid workItemId ≠ some id) →
    Readable t.pre id → Readable t.post id

theorem Call.Commits.allReadable_iff {call : Surroundings × Call}
    (h : Call.Commits db call db') (hall : AllReadable db) :
    KeepsReadable ⟨db, call, db'⟩ ↔ call.2.SparesReaders db := by
  obtain ⟨row, c, hput, hreplaces, hputs⟩ := h.puts hall.wellFormed
  rw [hputs.sparesReaders_iff hall hput.encodes]
  constructor
  · intro hkeeps id r b hne hr hb
    have htarget : ∀ workItemId, call.2.target? = some workItemId →
        uuid workItemId ≠ some id := by
      intro workItemId hsome huuid
      cases hputs with
      | created hnone => cases hnone.symm.trans hsome
      | changed hsome' hid =>
        cases hsome.symm.trans hsome'
        exact hne (Option.some.inj (huuid.symm.trans hid))
    have hafter := hkeeps id htarget ((readable_iff hall.wellFormed).2
      ⟨r, b, hr, hb, hall.linked id r b hr hb⟩)
    obtain ⟨r', b', hr', hb', hlinked⟩ :=
      (readable_iff (hput.wellFormed hall.wellFormed)).1 hafter
    cases ((hput.find?_of_ne hne).trans hr).symm.trans hr'
    cases hb.unique hb'
    exact hlinked.serves hput
  · intro hserves id _ hreadable
    have hall' := hput.allReadable hreplaces hall hserves
    obtain ⟨r, b, hr, hb, -⟩ := (readable_iff hall.wellFormed).1 hreadable
    have hsome : ∃ r' b', db'.find? id = some r' ∧ Encodes r' b' := by
      by_cases hid : id = row.id
      · exact ⟨row, c, hid ▸ hput.find?_self, hput.encodes⟩
      · exact ⟨r, b, (hput.find?_of_ne hid).trans hr, hb⟩
    obtain ⟨r', b', hr', hb'⟩ := hsome
    exact (readable_iff hall'.wellFormed).2 ⟨r', b', hr', hb', hall'.linked id r' b' hr' hb'⟩

theorem Call.Commits.allReadable {call : Surroundings × Call} (h : Call.Commits db call db')
    (hall : AllReadable db) (hspares : call.2.SparesReaders db) : AllReadable db' := by
  obtain ⟨row, c, hput, hreplaces, hputs⟩ := h.puts hall.wellFormed
  exact hput.allReadable hreplaces hall ((hputs.sparesReaders_iff hall hput.encodes).1 hspares)

/-- In every run of the service from a database without work items, the calls keep every other
readable work item readable exactly if each of them spares the others: it archives no work item that
another one names, and completes or cancels none that another one is blocked by. -/
theorem keepsReadable_iff {db₀ db : Database} {tr : List (Taken Database (Surroundings × Call))}
    (hnew : ∀ id r, db₀.find? id = some r → r.recordType ≠ "work_item")
    (h : Run Call.Commits db₀ tr db) :
    (∀ t ∈ tr, KeepsReadable t) ↔ ∀ t ∈ tr, t.label.2.SparesReaders t.pre := by
  refine h.forall_iff (G := AllReadable) (K := fun t => t.label.2.SparesReaders t.pre)
    ⟨fun id r hr htype => absurd htype (hnew id r hr),
      fun id r b hr hb => absurd hb.recordType (hnew id r hr)⟩ ?_ ?_
  · exact fun _ _ _ hall hs => hs.allReadable_iff hall
  · exact fun _ _ _ hall hs hspares => hs.allReadable hall hspares

end

section Runs

attribute [local instance] asciiLibrary acceptingRules

/-- Move the task `id` to another status. -/
def moveTask (n : Nat) (id : RecordId) (toStatus : String) (blockedByIds : List RecordId) :
    Surroundings × Call :=
  (surroundings n, .transition (uuidText id) 1 toStatus.toList none
    (some (blockedByIds.map uuidText)) ⟨none, .user⟩)

/-- The second of two tasks is blocked by the first, which is then cancelled. -/
def cancelBlocker : Result (Write × Write × Write × Write × Database × Database × Database) := do
  let digging ← (Call.prepareIn (createTask 0 "Dig")).on Project.gardenDatabase
  let db₁ ← digging.commit Project.gardenDatabase
  let planting ← (Call.prepareIn (createTask 1 "Plant")).on db₁
  let db₂ ← planting.commit db₁
  let blocking ← (Call.prepareIn (moveTask 2 4 "blocked" [1])).on db₂
  let db₃ ← blocking.commit db₂
  let cancelling ← (Call.prepareIn (moveTask 3 1 "cancelled" [])).on db₃
  let db₄ ← cancelling.commit db₃
  ensure (((get (uuidText 4)).on db₃).isOk = true ∧ ((get (uuidText 4)).on db₄).isOk = false)
    (.noRecord [])
  return (digging, planting, blocking, cancelling, db₂, db₃, db₄)

theorem cancelBlocker_isOk : cancelBlocker.isOk = true := by decide +kernel

theorem cancelBlockerRun : ∃ (db : Database) (tr : List (Taken Database (Surroundings × Call))),
    Run Call.Commits Project.gardenDatabase tr db ∧ ¬ ∀ t ∈ tr, KeepsReadable t := by
  obtain ⟨_, h⟩ := exists_of_isOk cancelBlocker_isOk
  obtain ⟨digging, hdigging, h⟩ := bind_eq_ok.1 h
  obtain ⟨db₁, h₁, h⟩ := bind_eq_ok.1 h
  obtain ⟨planting, hplanting, h⟩ := bind_eq_ok.1 h
  obtain ⟨db₂, h₂, h⟩ := bind_eq_ok.1 h
  obtain ⟨blocking, hblocking, h⟩ := bind_eq_ok.1 h
  obtain ⟨db₃, h₃, h⟩ := bind_eq_ok.1 h
  obtain ⟨cancelling, hcancelling, h⟩ := bind_eq_ok.1 h
  obtain ⟨db₄, h₄, h⟩ := bind_eq_ok.1 h
  obtain ⟨⟨hbefore, hafter⟩, -⟩ := (check_bind_eq_ok.1 h).imp_left ensure_eq_ok.1
  refine ⟨db₄, _, (((Run.start.next ⟨digging, hdigging, h₁⟩).next ⟨planting, hplanting, h₂⟩).next
    ⟨blocking, hblocking, h₃⟩).next ⟨cancelling, hcancelling, h₄⟩, fun hall => ?_⟩
  have hlast := hall _ (List.mem_append_right _ (List.mem_singleton.2 rfl)) 4
    (by rintro _ ⟨⟩; decide) (exists_of_isOk hbefore)
  obtain ⟨info, hinfo⟩ := hlast
  rw [hinfo] at hafter
  cases hafter

/-- The rule applies to that run. -/
theorem keepsReadable_iff_cancelBlockerRun :
    ∃ (db : Database) (tr : List (Taken Database (Surroundings × Call))),
      Run Call.Commits Project.gardenDatabase tr db ∧
        ((∀ t ∈ tr, KeepsReadable t) ↔ ∀ t ∈ tr, t.label.2.SparesReaders t.pre) := by
  obtain ⟨db, tr, h, -⟩ := cancelBlockerRun
  exact ⟨db, tr, h, keepsReadable_iff Project.gardenDatabase_new h⟩

theorem not_keepsReadable :
    ¬ ∀ (db₀ db : Database) (tr : List (Taken Database (Surroundings × Call))),
      (∀ id r, db₀.find? id = some r → r.recordType ≠ "work_item") →
      Run Call.Commits db₀ tr db → ∀ t ∈ tr, KeepsReadable t := by
  intro hall
  obtain ⟨db, tr, h, hfalse⟩ := cancelBlockerRun
  exact hfalse (hall _ db tr Project.gardenDatabase_new h)

end Runs

end DollState.WorkItem
