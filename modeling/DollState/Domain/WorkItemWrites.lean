import DollState.Domain.WorkItemLinks

/-!
# What the calls of the work-item service write

`Prepared` says of each call what its transaction is going to write, and what its reads have shown
of it (`Call.prepare_all`). The reads may have been answered by one database or by several.
-/

namespace DollState.WorkItem

open StateLib

/-! ## Calls -/

/-- The work item that a call changes. -/
def Call.target? : Call → Option Text
  | .propose .. => none
  | .create .. => none
  | .updateDefinition workItemId .. => some workItemId
  | .transition workItemId .. => some workItemId
  | .setVerification workItemId .. => some workItemId
  | .archive workItemId .. => some workItemId

/-- The call archives its work item. -/
def Call.Archives : Call → Prop
  | .archive .. => True
  | _ => False

/-- The status of a work item after the call, as text. -/
def Call.statusAfter (c : WorkItemContent) : Call → Text
  | .transition _ _ toStatus _ _ _ => toStatus
  | _ => c.workStatus.text

section

variable [PythonLibrary] [ModuleRules]

omit [PythonLibrary] [ModuleRules] in
theorem WorkItemStatus.text_injective {s s' : WorkItemStatus} (h : s.text = s'.text) : s = s' := by
  have := congrArg (ofText? WorkItemStatus.all WorkItemStatus.text) h
  rw [ofText?_text, ofText?_text] at this
  exact Option.some.inj this

/-! ## What the reads of a call have shown -/

variable (ok : (q : StateQuery) → q.Answer → Prop)

/-- The reads have shown the links of the content to hold, and have met what it depends on. -/
structure Shown (selfId : RecordId) (c : WorkItemContent) : Prop where
  links : ∀ db, AnsweredBy ok db → (validateLinks selfId c).on db = .ok ()
  dependsOn : ∀ id ∈ c.dependsOnIds, ∃ r, ok (.record id) (some r)

/-- The content is well formed, and its links have been shown to hold. -/
structure Validated (selfId : RecordId) (c : WorkItemContent) : Prop where
  wellFormed : c.Ok selfId
  shown : Shown ok selfId c

/-- The reads have shown the row to be the active work item, and its links to hold. -/
structure Current (workItemId : Text) (base : RecordEnvelope) (c : WorkItemContent) : Prop where
  seen : ∃ id, uuid workItemId = some id ∧ ok (.record id) (some base)
  content : readWorkItem base = .ok c
  active : base.status = .active
  shown : Shown ok base.id c

/-- The update writes the content `c`. -/
structure Rewrites (u : RecordUpdate) (c : WorkItemContent) : Prop where
  schemaVersion : u.schemaVersion = none
  provenance : u.provenance = some .userConfirmed
  title : u.title = some (some c.title)
  metadata : u.metadata = c.metadata

/-- What a call is going to write, and what it has read of it. -/
inductive Prepared : Call → Write → Prop
  | created {call : Call} {row : RecordEnvelope} {draft : AuditDraft} {failed : DollError}
      {c : WorkItemContent} (htarget : call.target? = none) (hrow : Encodes row c)
      (hactive : row.status = .active) (hvalid : Validated ok row.id c) :
      Prepared call (.create row draft failed)
  | rewritten {call : Call} {workItemId : Text} {u : RecordUpdate} {draft : AuditDraft}
      {errors : TransactionErrors} {c₀ c : WorkItemContent}
      (htarget : call.target? = some workItemId) (harchives : ¬ call.Archives)
      (hcurrent : Current ok workItemId u.base c₀) (hu : Rewrites u c)
      (hactive : u.status = .active) (hproject : c.projectId = c₀.projectId)
      (hstatus : c.workStatus.text = call.statusAfter c₀) (hvalid : Validated ok u.base.id c) :
      Prepared call (.change u draft errors)
  | archived {workItemId : Text} {expectedRevision : Int} {caller : Caller} {u : RecordUpdate}
      {draft : AuditDraft} {errors : TransactionErrors} {c₀ : WorkItemContent}
      (hcurrent : Current ok workItemId u.base c₀) (hstatus : u.status = .archived)
      (hschema : u.schemaVersion = none) (hprovenance : u.provenance = some .userConfirmed)
      (htitle : u.title = some (titleColumn u.base.metadata))
      (hmetadata : u.metadata = u.base.metadata) :
      Prepared (.archive workItemId expectedRevision caller) (.change u draft errors)

variable {ok}

/-! ## Validation -/

omit [ModuleRules] in
theorem relationTarget_all (projectId id : RecordId) :
    (relationTarget projectId id).All ok fun _ => ∃ r, ok (.record id) (some r) := by
  refine .bind (m := fun _ => ∃ r, ok (.record id) (some r)) (.catching ?_) fun _ h => ?_
  · refine .bind (getRecord_all id) fun r hr => .after _ fun _ => .lift fun _ _ => ⟨r, hr⟩
  · exact .after _ fun _ => .pure h

theorem validateLinks_shown (selfId : RecordId) (c : WorkItemContent) :
    (validateLinks selfId c).All ok fun _ => Shown ok selfId c := by
  have hdeps : (validateLinks selfId c).All ok fun _ =>
      ∀ id ∈ c.dependsOnIds, ∃ r, ok (.record id) (some r) := by
    rw [validateLinks, validateWorkItemRelations]
    refine .after _ fun _ => .bind ?_ fun _ h => .mono (fun _ _ h => h) (fun _ _ => h) (.trivial _)
    refine .bind (.collect fun id _ => relationTarget_all c.projectId id) fun _ h => ?_
    exact .mono (fun _ _ h => h) (fun _ _ => h) (.trivial _)
  have hlinks : (validateLinks selfId c).All ok fun _ =>
      ∀ db, AnsweredBy ok db → (validateLinks selfId c).on db = .ok () :=
    .mono (fun _ _ h => h) (fun _ h (db : Database) hdb => h db.answer hdb) (.self _)
  exact .mono (fun _ _ h => h) (fun _ h => ⟨h.1, h.2⟩) (hlinks.and hdeps)

/-- What the validator has established. -/
theorem validatedWorkItemValues_all (selfId : RecordId) (v : WorkItemValues) :
    (validatedWorkItemValues selfId v).All ok fun c => Checked selfId v c ∧ Validated ok selfId c := by
  refine .bind (.lift fun c h => checked_of_checkedValues h) fun c hchecked => ?_
  refine .bind (validateLinks_shown selfId c) fun _ hshown => ?_
  exact .pure ⟨hchecked, hchecked.ok, hshown⟩

theorem currentWorkItem_shown (workItemId : Text) :
    (currentWorkItem workItemId).All ok fun current =>
      Current ok workItemId current.1 current.2.content ∧ current.2.workItemId = current.1.id := by
  have hrequire : (requireRecord workItemId).All ok fun record =>
      ∃ id, uuid workItemId = some id ∧ ok (.record id) (some record) := by
    refine .bind (.lift fun id h => uuidField_eq_ok.1 h) fun id hid => ?_
    refine .bind (.catching (getRecord_all id)) fun record hrecord => ?_
    exact .after _ fun _ => .pure ⟨id, hid, hrecord⟩
  refine .bind hrequire fun record hrecord => ?_
  refine .bind (m := fun info => ∃ c, readWorkItem record = .ok c ∧
    info = WorkItemInfo.ofRecord record c ∧ Shown ok record.id c) (.catching ?_) ?_
  · refine .bind (.lift fun c h => h) fun c hc => ?_
    refine .bind (validateLinks_shown record.id c) fun _ hshown => ?_
    exact .pure ⟨c, hc, rfl, hshown⟩
  · rintro _ ⟨c, hc, rfl, hshown⟩
    refine .bind (.lift fun _ h => ensure_eq_ok.1 h) fun _ hactive => .pure ?_
    exact ⟨⟨hrecord, hc, hactive, hshown⟩, rfl⟩

/-! ## The calls -/

theorem createWorkItem_prepared {env : Surroundings} {v : WorkItemValues} {c : WorkItemContent}
    {provenance : RecordProvenance} {sensitivity : RecordSensitivity} {operation : Option Text}
    {action : String} {actorType : WorkItemActor} {call : Call} {w : Write}
    (htarget : call.target? = none)
    (hvalid : Checked env.newId v c ∧ Validated ok env.newId c)
    (hprovenance : v.workStatus = "proposed".toList ∨ provenance = .userCreated)
    (h : createWorkItem env env.newId c.metadata provenance sensitivity operation action
      actorType = .ok w) : Prepared ok call w := by
  obtain ⟨-, h⟩ := check_bind_eq_ok.1 h
  obtain ⟨-, h⟩ := check_bind_eq_ok.1 h
  obtain ⟨safeOperationId, -, h⟩ := bind_eq_ok.1 h
  rw [← pure_eq_ok.1 h]
  refine .created htarget ?_ rfl hvalid.2
  refine ⟨rfl, rfl, .inl rfl, le_refl _, rfl, ?_, rfl, hvalid.2.wellFormed⟩
  refine hprovenance.imp (fun hstatus => ?_) .inl
  exact WorkItemStatus.text_injective (hvalid.1.workStatus.trans hstatus)

theorem updateWorkItem_rewritten {env : Surroundings} {workItemId : Text} {base : RecordEnvelope}
    {c₀ c : WorkItemContent} {v : WorkItemValues} {expectedRevision : Int}
    {operation : Option Text} {action : String} {call : Call} {w : Write}
    (htarget : call.target? = some workItemId) (harchives : ¬ call.Archives)
    (hcurrent : Current ok workItemId base c₀) (hvalid : Checked base.id v c ∧ Validated ok base.id c)
    (hproject : v.projectId = uuidText c₀.projectId) (hstatus : v.workStatus = call.statusAfter c₀)
    (h : updateWorkItem env base expectedRevision c.metadata .active operation action = .ok w) :
    Prepared ok call w := by
  obtain ⟨-, h⟩ := check_bind_eq_ok.1 h
  obtain ⟨safeOperationId, -, h⟩ := bind_eq_ok.1 h
  rw [← pure_eq_ok.1 h]
  refine .rewritten htarget harchives hcurrent ⟨rfl, rfl, rfl, rfl⟩ rfl ?_ ?_ hvalid.2
  · have hid := hvalid.1.projectId
    rw [hproject, uuid_uuidText] at hid
    exact (Option.some.inj hid).symm
  · exact hvalid.1.workStatus.trans hstatus

/-- What a call has read and what it is going to write. -/
theorem Call.prepare_all (env : Surroundings) (call : Call) :
    (call.prepare env).All ok (Prepared ok call) := by
  cases call with
  | propose projectId kind d sensitivity caller =>
    rw [Call.prepare, WorkItem.propose]
    refine .bind (validatedWorkItemValues_all _ _) fun c hvalid => .lift fun w h => ?_
    exact createWorkItem_prepared rfl hvalid (.inl rfl) h
  | create projectId kind d sensitivity caller =>
    rw [Call.prepare, WorkItem.create]
    refine .after _ fun _ => .bind (validatedWorkItemValues_all _ _) fun c hvalid =>
      .lift fun w h => ?_
    exact createWorkItem_prepared rfl hvalid (.inr rfl) h
  | updateDefinition workItemId expectedRevision d caller =>
    rw [Call.prepare, WorkItem.updateDefinition]
    refine .after _ fun _ => .bind (currentWorkItem_shown _) ?_
    rintro ⟨record, current⟩ ⟨hcurrent, hid⟩
    dsimp only at hcurrent hid ⊢
    rw [hid]
    refine .bind (validatedWorkItemValues_all _ _) fun c hvalid => .lift fun w h => ?_
    exact updateWorkItem_rewritten rfl id hcurrent hvalid rfl rfl h
  | transition workItemId expectedRevision toStatus occurredAt blockedByIds caller =>
    rw [Call.prepare, WorkItem.transition]
    refine .after _ fun _ => .bind (currentWorkItem_shown _) ?_
    rintro ⟨record, current⟩ ⟨hcurrent, hid⟩
    dsimp only at hcurrent hid ⊢
    rw [hid]
    refine .bind (.lift fun s hs => text_of_ofText? (orFail_eq_ok.1 hs)) fun s hs => .after _ fun _ => .after _ fun _ =>
      .after _ fun _ => ?_
    refine .bind (validatedWorkItemValues_all _ _) fun c hvalid => .lift fun w h => ?_
    exact updateWorkItem_rewritten rfl id hcurrent hvalid rfl hs h
  | setVerification workItemId expectedRevision verificationState evidenceIds caller =>
    rw [Call.prepare, WorkItem.setVerification]
    refine .after _ fun _ => .bind (currentWorkItem_shown _) ?_
    rintro ⟨record, current⟩ ⟨hcurrent, hid⟩
    dsimp only at hcurrent hid ⊢
    rw [hid]
    refine .bind (validatedWorkItemValues_all _ _) fun c hvalid => .lift fun w h => ?_
    exact updateWorkItem_rewritten rfl id hcurrent hvalid rfl rfl h
  | archive workItemId expectedRevision caller =>
    rw [Call.prepare, WorkItem.archive]
    refine .after _ fun _ => .bind (currentWorkItem_shown _) ?_
    rintro ⟨record, current⟩ ⟨hcurrent, -⟩
    dsimp only at hcurrent ⊢
    refine .lift fun w h => ?_
    obtain ⟨-, h⟩ := check_bind_eq_ok.1 h
    obtain ⟨safeOperationId, -, h⟩ := bind_eq_ok.1 h
    rw [← pure_eq_ok.1 h]
    exact .archived hcurrent rfl rfl rfl rfl rfl

/-! ## The transactions -/

/-- A call in its surroundings, up to its transaction. -/
def Call.prepareIn (call : Surroundings × Call) : Reader Write := call.2.prepare call.1

/-- Rows stay, and a work item stays in its project. -/
def KeepsItems (db db' : Database) : Prop :=
  ∀ id r, db.find? id = some r → ∃ r', db'.find? id = some r' ∧ r'.recordType = r.recordType ∧
    (r.recordType = "work_item" → r'.metadata.get "project_id" = r.metadata.get "project_id")

omit [PythonLibrary] [ModuleRules] in
theorem KeepsItems.refl (db : Database) : KeepsItems db db := fun _ r hr => ⟨r, hr, rfl, fun _ => rfl⟩

omit [PythonLibrary] [ModuleRules] in
theorem KeepsItems.trans {db₁ db₂ db₃ : Database} (h : KeepsItems db₁ db₂)
    (h' : KeepsItems db₂ db₃) : KeepsItems db₁ db₃ := by
  intro id r hr
  obtain ⟨r₂, hr₂, htype₂, hproject₂⟩ := h id r hr
  obtain ⟨r₃, hr₃, htype₃, hproject₃⟩ := h' id r₂ hr₂
  refine ⟨r₃, hr₃, htype₃.trans htype₂, fun hitem => ?_⟩
  rw [hproject₃ (htype₂.trans hitem), hproject₂ hitem]

variable (ok) in
/-- A transaction has written the row `row`, of the content `c`. -/
structure Put (db db' : Database) (row : RecordEnvelope) (c : WorkItemContent) : Prop where
  writes : db.Writes row db'
  encodes : Encodes row c
  shown : Shown ok row.id c

variable (ok) in
/-- What the transaction of a call has done. -/
inductive Committed (db db' : Database) : Call → Write → Prop
  | created {call : Call} {row : RecordEnvelope} {draft : AuditDraft} {failed : DollError}
      {c : WorkItemContent} (htarget : call.target? = none) (hfree : db.find? row.id = none)
      (hactive : row.status = .active) (hput : Put ok db db' row c) :
      Committed db db' call (.create row draft failed)
  | changed {call : Call} {workItemId : Text} {u : RecordUpdate} {draft : AuditDraft}
      {errors : TransactionErrors} {found : RecordEnvelope} {c₀ c₁ c : WorkItemContent}
      (htarget : call.target? = some workItemId) (hid : uuid workItemId = some u.base.id)
      (hcurrent : Current ok workItemId u.base c₀) (hbase : Encodes u.base c₀)
      (hfound : db.find? u.base.id = some found) (hactive : found.status = .active)
      (hold : Encodes found c₁) (harchives : u.status = .archived ↔ call.Archives)
      (hmetadata : u.metadata = c.metadata) (hproject : c.projectId = c₁.projectId)
      (hstatus : c.workStatus.text = call.statusAfter c₀) (hput : Put ok db db' (u.apply found) c) :
      Committed db db' call (.change u draft errors)

omit [ModuleRules] in
/-- The row an update leaves in place of a work item. -/
theorem Rewrites.encodes {u : RecordUpdate} {found : RecordEnvelope} {c₁ c : WorkItemContent}
    (hu : Rewrites u c) (hstatus : u.status = .active ∨ u.status = .archived)
    (hfound : Encodes found c₁) (hok : c.Ok found.id) : Encodes (u.apply found) c where
  recordType := hfound.recordType
  schemaVersion := by
    rw [RecordUpdate.apply, hu.schemaVersion]
    exact hfound.schemaVersion
  status := hstatus
  revision := (hfound.revision).trans (Int.le_of_lt (Int.lt_succ _))
  title := by
    rw [RecordUpdate.apply, hu.title]
    rfl
  provenance := by
    rw [RecordUpdate.apply, hu.provenance]
    exact .inr (.inr rfl)
  metadata := hu.metadata
  ok := hok

omit [ModuleRules] in
theorem Encodes.project_id {r : RecordEnvelope} {c : WorkItemContent} (h : Encodes r c) :
    r.metadata.get "project_id" = .str (uuidText c.projectId) := by
  rw [h.metadata]
  rfl

/-- What an update writes when the row it was computed from is still there, changed or not. -/
theorem Current.committed {call : Call} {workItemId : Text} {u : RecordUpdate} {c₀ c : WorkItemContent}
    {draft : AuditDraft} {errors : TransactionErrors} {db db' : Database} (hwf : WellFormed db)
    (hseen : ∀ id r, ok (.record id) (some r) →
      ∃ t, WellFormed t ∧ KeepsItems t db ∧ t.find? id = some r)
    (htarget : call.target? = some workItemId) (hcurrent : Current ok workItemId u.base c₀)
    (hu : Encodes u.base c₀ → Rewrites u c ∧ c.Ok u.base.id)
    (harchives : u.status = .archived ↔ call.Archives)
    (hstatuses : u.status = .active ∨ u.status = .archived) (hproject : c.projectId = c₀.projectId)
    (hstatus : c.workStatus.text = call.statusAfter c₀)
    (hshown : Encodes u.base c₀ → Shown ok u.base.id c)
    (h : updateTransaction u draft errors db = .ok db') :
    Committed ok db db' call (.change u draft errors) := by
  obtain ⟨found, hfound, -, hactive, hwrites⟩ := updateTransaction_writes h
  obtain ⟨id, hid, hok⟩ := hcurrent.seen
  obtain ⟨t, htwf, hkeep, ht⟩ := hseen id u.base hok
  have hbase := htwf.encodes ht hcurrent.content
  obtain rfl := Database.id_of_find? ht
  obtain ⟨r, hr, htype, hsame⟩ := hkeep _ _ ht
  cases hfound.symm.trans hr
  obtain ⟨c₁, hold⟩ := hwf _ _ hfound (htype.trans hbase.recordType)
  have hpid := (hold.project_id.symm.trans (hsame hbase.recordType)).trans hbase.project_id
  obtain ⟨hrewrites, hcok⟩ := hu hbase
  have hfoundId := Database.id_of_find? hfound
  refine .changed htarget hid hcurrent hbase hfound hactive hold harchives hrewrites.metadata ?_
    hstatus ⟨hwrites, hrewrites.encodes hstatuses hold (hfoundId ▸ hcok), ?_⟩
  · rw [hproject, uuidText_injective (Json.str.inj hpid)]
  · rw [u.apply_id, hfoundId]
    exact hshown hbase

/-- What a commit does, the rows that the call has read being there, changed or not. -/
theorem Prepared.committed {call : Call} {w : Write} {db db' : Database} (hwf : WellFormed db)
    (hseen : ∀ id r, ok (.record id) (some r) →
      ∃ t, WellFormed t ∧ KeepsItems t db ∧ t.find? id = some r)
    (h : Prepared ok call w) (hcommit : w.commit db = .ok db') : Committed ok db db' call w := by
  cases h with
  | created htarget hrow hactive hvalid =>
    obtain ⟨hfree, hwrites⟩ := createTransaction_writes hcommit
    exact .created htarget hfree hactive ⟨hwrites, hrow, hvalid.shown⟩
  | rewritten htarget harchives hcurrent hu hactive hproject hstatus hvalid =>
    refine hcurrent.committed hwf hseen htarget (fun _ => ⟨hu, hvalid.wellFormed⟩) ?_ (.inl hactive)
      hproject hstatus (fun _ => hvalid.shown) hcommit
    rw [hactive]
    exact ⟨fun h => (nomatch h), fun h => absurd h harchives⟩
  | @archived _ _ _ u _ _ c₀ hcurrent hstatus hschema hprovenance htitle hmetadata =>
    refine hcurrent.committed (c := c₀) hwf hseen rfl (fun hbase => ⟨?_, hbase.ok⟩)
      ⟨fun _ => trivial, fun _ => hstatus⟩ (.inr hstatus) rfl rfl (fun _ => hcurrent.shown) hcommit
    refine ⟨hschema, hprovenance, ?_, hmetadata.trans hbase.metadata⟩
    rw [htitle, hbase.metadata]
    rfl

/-! ## What a transaction leaves -/

section

variable {db db' : Database} {row : RecordEnvelope} {c : WorkItemContent}

theorem Put.find?_self (h : Put ok db db' row c) : db'.find? row.id = some row := by
  rw [h.writes row.id, if_pos rfl]

theorem Put.find?_of_ne (h : Put ok db db' row c) {id : RecordId} (hid : id ≠ row.id) :
    db'.find? id = db.find? id := by
  rw [h.writes id, if_neg (Ne.symm hid)]

theorem Put.wellFormed (h : Put ok db db' row c) (hwf : WellFormed db) : WellFormed db' := by
  intro id r hr htype
  by_cases hid : id = row.id
  · subst hid
    cases h.find?_self.symm.trans hr
    exact ⟨c, h.encodes⟩
  · rw [h.find?_of_ne hid] at hr
    exact hwf id r hr htype

/-- The dependency graphs with the row in it. -/
theorem Put.dependencies_eq (h : Put ok db db' row c) (projectId : RecordId) :
    dependencies db' projectId = Function.update (dependencies db projectId) row.id
      (if row.status = .active ∧ c.projectId = projectId then some c.dependsOnIds else none) := by
  funext id
  by_cases hid : id = row.id
  · subst hid
    rw [Function.update_self, dependencies_of_encodes h.find?_self h.encodes]
  · rw [Function.update_of_ne hid, dependencies, dependencies, h.find?_of_ne hid]

theorem Put.keepsItems (h : Put ok db db' row c)
    (hrow : ∀ r, db.find? row.id = some r → ∃ c₁, Encodes r c₁ ∧ c.projectId = c₁.projectId) :
    KeepsItems db db' := by
  intro id r hr
  by_cases hid : id = row.id
  · subst hid
    obtain ⟨c₁, hold, hproject⟩ := hrow r hr
    refine ⟨row, h.find?_self, h.encodes.recordType.trans hold.recordType.symm, fun _ => ?_⟩
    rw [h.encodes.project_id, hold.project_id, hproject]
  · exact ⟨r, (h.find?_of_ne hid).trans hr, rfl, fun _ => rfl⟩

theorem Committed.keepsItems {call : Call} {w : Write} (h : Committed ok db db' call w) :
    KeepsItems db db' := by
  cases h with
  | created htarget hfree hactive hput =>
    refine hput.keepsItems fun r hr => ?_
    rw [hfree] at hr
    cases hr
  | changed _ _ _ _ hfound _ hold _ _ hproject _ hput =>
    refine hput.keepsItems fun r hr => ?_
    rw [RecordUpdate.apply_id, Database.id_of_find? hfound, hfound, Option.some.injEq] at hr
    exact ⟨_, hr ▸ hold, hproject⟩

end

end

end DollState.WorkItem
