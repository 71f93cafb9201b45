import DollState.Import.Conservation
import DollState.Import.SearchDepth

/-!
# When a batch can be built

`_build_stage_result` raises for raw objects of no fault of its own in two cases only: the search
for cycles goes deeper than the interpreter allows, or there are more losses than a mapping report
holds (`buildStageResult_isOk_iff`). What it raises then is never a `GenericImportStagingError`.
-/

namespace DollState.Import

open StateLib Digraph

section

variable [PythonLibrary] [ImportLibrary] {ctx : BatchContext} {adapter : SourceAdapterContract}

/-! ## Loss records -/

/-- The batch has a canonical identifier and has started at a time with an offset. -/
structure BatchContext.Valid (ctx : BatchContext) : Prop where
  batchId : ∃ id, uuid ctx.importBatchId = some id ∧ uuidText id = ctx.importBatchId
  startedAt : ∃ parsed, parseInstant (strip ctx.startedAt) = some parsed ∧
    parsed.utcoffset.isSome = true

omit [ImportLibrary] in
theorem validateUuid_isOk_iff (name : String) {value : Text} :
    (∃ id, validateUuid name value = .ok id) ↔
      ∃ id, uuid value = some id ∧ uuidText id = value := by
  simp only [validateUuid, bind_eq_ok, orFail_eq_ok, ensure_eq_ok, pure_eq_ok]
  constructor
  · rintro ⟨_, id, hid, _, htext, _⟩
    exact ⟨id, hid, htext⟩
  · rintro ⟨id, hid, htext⟩
    exact ⟨id, id, hid, (), htext, rfl⟩

omit [ImportLibrary] in
theorem validateTimestamp_isOk_iff (name : String) {value : Text} :
    (∃ t, validateTimestamp name value = .ok t) ↔
      ∃ parsed, parseInstant (strip value) = some parsed ∧ parsed.utcoffset.isSome = true := by
  simp only [validateTimestamp, bind_eq_ok, orFail_eq_ok, ensure_eq_ok, pure_eq_ok]
  constructor
  · rintro ⟨_, parsed, hparsed, _, hoffset, _⟩
    exact ⟨parsed, hparsed, hoffset⟩
  · rintro ⟨parsed, hparsed, hoffset⟩
    exact ⟨_, parsed, hparsed, (), hoffset, rfl⟩

/-- The identifier is one that a loss record can name. -/
def Reportable (sourceObjectId : Option Text) : Prop :=
  ∀ id ∈ sourceObjectId, Stripped id ∧ id ≠ [] ∧ id.length ≤ maxTextLength ∧ hasControl id = false

omit [PythonLibrary] [ImportLibrary] in
theorem exists_validateOptionalText (name : String) {sourceObjectId : Option Text}
    (h : Reportable sourceObjectId) : ∃ id, validateOptionalText name sourceObjectId = .ok id := by
  cases sourceObjectId with
  | none => exact ⟨none, rfl⟩
  | some id =>
    obtain ⟨hstrip, hne, hlength, hcontrol⟩ := h id rfl
    refine ⟨some id, bind_eq_ok.2 ⟨id, ?_, rfl⟩⟩
    rw [validateText, strip_eq_self hstrip, ensure_of hne, ok_bind, ensure_of hlength, ok_bind,
      ensure_of hcontrol]
    rfl

theorem exists_makeLoss (hctx : ctx.Valid) {q : LossRequest} (hq : Reportable q.sourceObjectId) :
    ∃ loss, q.make ctx = .ok loss := by
  obtain ⟨namespaceId, hnamespace, htext⟩ := hctx.batchId
  obtain ⟨batchId, hbatch⟩ := (validateUuid_isOk_iff "batch id").2 ⟨namespaceId, hnamespace, htext⟩
  obtain ⟨recordedAt, hrecorded⟩ := (validateTimestamp_isOk_iff "recorded at").2 hctx.startedAt
  obtain ⟨safeId, hid⟩ := exists_validateOptionalText "source object id" hq
  rw [LossRequest.make, makeLoss, hnamespace, hbatch, hrecorded, hid]
  exact ⟨_, rfl⟩

theorem exists_lose (hctx : ctx.Valid) {category : LossCategory} {sourceObjectId : Option Text}
    (hid : Reportable sourceObjectId) (ledger : Ledger) (inputIndex : Nat) :
    ∃ ledger', Ledger.lose ctx category sourceObjectId ledger inputIndex = .ok ledger' := by
  obtain ⟨loss, hloss⟩ := exists_makeLoss hctx (q := ⟨inputIndex, category, sourceObjectId⟩) hid
  exact ⟨_, Ledger.lose_eq_ok.2 ⟨loss, hloss, rfl⟩⟩

theorem exists_quarantine (hctx : ctx.Valid) (refusal : Refusal) {sourceObjectId : Option Text}
    (hid : Reportable sourceObjectId) (ledger : Ledger) (occurrence : Nat × Digest) :
    ∃ ledger', ledger.quarantine ctx refusal sourceObjectId occurrence = .ok ledger' :=
  exists_lose hctx hid _ _

/-! ## The identifiers of the objects -/

omit [PythonLibrary] [ImportLibrary] in
theorem reportable_of_validateSourceId {value : TextValue} {id : Text}
    (h : validateSourceId value = some id) : Reportable (some id) := by
  unfold validateSourceId at h
  split at h
  · dsimp only at h
    split_ifs at h with hok
    cases h
    rintro _ ⟨⟩
    exact ⟨stripped_strip _, hok.1, hok.2.1.trans (by decide), hok.2.2⟩
  · cases h

theorem reportable_of_parseCandidate_ok {raw : RawObject} {c : Candidate}
    (h : parseCandidate raw = .ok c) : Reportable (some c.sourceObjectId) := by
  unfold parseCandidate at h
  split at h
  case h_2 => cases h
  case h_1 value _ =>
    obtain ⟨id, hid, h⟩ := bind_eq_ok.1 h
    obtain ⟨-, h⟩ := check_bind_eq_ok.1 h
    obtain ⟨_, -, h⟩ := bind_eq_ok.1 h
    obtain ⟨_, -, h⟩ := bind_eq_ok.1 h
    obtain ⟨-, h⟩ := check_bind_eq_ok.1 h
    split at h
    · cases pure_eq_ok.1 h
      exact reportable_of_validateSourceId (orFail_eq_ok.1 hid)
    · cases h

theorem reportable_of_parseCandidate_error {raw : RawObject} {problem : ObjectProblem}
    (h : parseCandidate raw = .error problem) : Reportable problem.sourceObjectId := by
  have hnone : Reportable none := fun _ h => by cases h
  unfold parseCandidate at h
  split at h
  case h_2 =>
    cases h
    exact hnone
  case h_1 value _ =>
    rcases bind_eq_error.1 h with h | ⟨id, hid, h⟩
    · cases orFail_eq_error.1 h |>.2
      exact hnone
    have hid := reportable_of_validateSourceId (orFail_eq_ok.1 hid)
    rcases bind_eq_error.1 h with h | ⟨_, -, h⟩
    · exact (ensure_eq_error.1 h).2 ▸ hid
    rcases bind_eq_error.1 h with h | ⟨_, -, h⟩
    · exact (orFail_eq_error.1 h).2 ▸ hid
    rcases bind_eq_error.1 h with h | ⟨_, -, h⟩
    · exact (orFail_eq_error.1 h).2 ▸ hid
    rcases bind_eq_error.1 h with h | ⟨_, -, h⟩
    · exact (ensure_eq_error.1 h).2 ▸ hid
    split at h
    · cases h
    · cases h
      exact hid

theorem reportable_reportedId (raw : RawObject) : Reportable raw.reportedId := by
  unfold RawObject.reportedId
  split
  · rintro _ ⟨⟩
  · split
    case h_1 c hc => exact reportable_of_parseCandidate_ok hc
    case h_2 problem hproblem => exact reportable_of_parseCandidate_error hproblem

theorem reportable_of_mem_candidates {raws : List RawObject} {c : Candidate}
    (h : c ∈ candidates raws) : Reportable (some c.sourceObjectId) := by
  obtain ⟨raw, -, hc⟩ := List.mem_filterMap.1 h
  have hkey := (RawObject.key_of_candidate? hc)
  have hid : raw.reportedId = some c.sourceObjectId := (Prod.mk.inj hkey).2
  exact hid ▸ reportable_reportedId raw

/-! ## The passes -/

theorem exists_stageRaw (hctx : ctx.Valid) (raws : List RawObject)
    (state : Ledger × List Candidate) : ∃ state', raws.foldlM (stageRaw ctx) state = .ok state' := by
  refine exists_foldlM_of_forall (fun raw _ ⟨ledger, parsed⟩ => ?_) state
  obtain ⟨c, -, heq⟩ | ⟨-, refusal, heq⟩ := stageRaw_cases ctx ledger parsed raw
  · exact ⟨_, heq⟩
  · obtain ⟨ledger', hledger⟩ := exists_quarantine hctx refusal (reportable_reportedId raw) ledger
      (raw.inputIndex, raw.sourceHash)
    rw [heq, hledger]
    exact ⟨_, rfl⟩

theorem exists_classify (adapter : SourceAdapterContract) (hctx : ctx.Valid) {found : List Candidate}
    (hfound : ∀ c ∈ found, Reportable (some c.sourceObjectId)) (ledger : Ledger) :
    ∃ state, classifyDuplicatesAndSupport ctx adapter found ledger = .ok state := by
  refine exists_foldlM_of_forall (fun id _ state => ?_) _
  simp only [classifyGroup]
  split
  · exact ⟨_, rfl⟩
  · split
    · rename_i refusal _
      obtain ⟨ledger', hledger⟩ := exists_foldlM_of_forall
        (f := fun ledger (item : Candidate) => Ledger.quarantine ctx refusal
          (some item.sourceObjectId) ledger (item.inputIndex, item.sourceHash))
        (l := found.filter fun item => item.sourceObjectId = id)
        (fun c hc ledger => exists_quarantine hctx refusal (hfound c (List.mem_filter.1 hc).1) ledger _)
        state.ledger
      rw [hledger]
      exact ⟨_, rfl⟩
    · exact ⟨_, rfl⟩

theorem exists_expel (hctx : ctx.Valid) (refusal : Refusal) {state : Ledger × List AcceptedObject}
    (haccepted : ∀ a ∈ state.2, Reportable (some a.sourceObjectId)) {id : Text}
    (hid : id ∈ sourceIds state.2) : ∃ state', expel ctx refusal state id = .ok state' := by
  obtain ⟨a, hfind⟩ : ∃ a, (state.2.find? fun a => a.sourceObjectId = id) = some a := by
    obtain ⟨a, ha, rfl⟩ := List.mem_map.1 hid
    exact Option.isSome_iff_exists.1 (List.find?_isSome.2 ⟨a, ha, by simp⟩)
  obtain ⟨ledger, hledger⟩ := exists_foldlM_of_forall
    (f := fun ledger inputIndex => Ledger.quarantine ctx refusal (some a.sourceObjectId) ledger
      (inputIndex, a.candidate.sourceHash)) (l := a.indexes)
    (fun i _ ledger => exists_quarantine hctx refusal
      (haccepted a (List.mem_of_find?_eq_some hfind)) ledger _) state.1
  exact ⟨_, expel_eq_ok.2 ⟨a, hfind, ledger, hledger, rfl⟩⟩

/-- Expelling accepted objects, each of them once. -/
theorem exists_foldlM_expel (hctx : ctx.Valid) (refusal : Refusal)
    {state : Ledger × List AcceptedObject}
    (haccepted : ∀ a ∈ state.2, Reportable (some a.sourceObjectId)) {ids : List Text}
    (hnodup : ids.Nodup) (hids : ids ⊆ sourceIds state.2) :
    ∃ state', ids.foldlM (expel ctx refusal) state = .ok state' := by
  obtain ⟨state', hstate', -⟩ := exists_foldlM_ok (f := expel ctx refusal)
    (fun done (s : Ledger × List AcceptedObject) =>
      s.2 = state.2.filter fun a => a.sourceObjectId ∉ done) (l := ids) (s := state) (by simp)
    (fun done id rest s heq hs => by
      have hid : id ∈ sourceIds s.2 := by
        obtain ⟨a, ha, rfl⟩ := List.mem_map.1 (hids (by rw [heq]; simp : id ∈ ids))
        rw [heq] at hnodup
        rw [hs]
        refine List.mem_map_of_mem (List.mem_filter.2 ⟨ha, decide_eq_true fun hdone => ?_⟩)
        exact List.disjoint_of_nodup_append hnodup hdone List.mem_cons_self
      obtain ⟨s', hs'⟩ := exists_expel hctx refusal
        (fun a ha => haccepted a (List.mem_of_mem_filter (hs ▸ ha))) hid
      refine ⟨s', hs', ?_⟩
      have hone : s'.2 = s.2.filter fun a => a.sourceObjectId ∉ [id] :=
        foldlM_expel_accepted (show [id].foldlM (expel ctx refusal) s = .ok s' by
          rw [List.foldlM_cons, hs']; rfl)
      rw [hone, hs, List.filter_filter]
      refine List.filter_congr fun a _ => ?_
      simp [not_or, and_comm])
  exact ⟨state', hstate'⟩

theorem exists_quarantineMissing (hctx : ctx.Valid) (rounds : Nat) :
    ∀ state : Ledger × List AcceptedObject,
      (∀ a ∈ state.2, Reportable (some a.sourceObjectId)) → (sourceIds state.2).Nodup →
      ∃ state', quarantineMissing ctx rounds state = .ok state' := by
  induction rounds with
  | zero => exact fun state _ _ => ⟨state, rfl⟩
  | succ rounds ih =>
    intro state haccepted hnodup
    simp only [quarantineMissing]
    split
    · exact ⟨state, rfl⟩
    · have hmissing : (missing state.2).Nodup := by
        refine (List.perm_insertionSort _ _).nodup_iff.2 (hnodup.sublist ?_)
        exact List.filter_sublist.map _
      have hsub : missing state.2 ⊆ sourceIds state.2 := fun id hid => by
        obtain ⟨a, ha, rfl, -⟩ := mem_missing.1 hid
        exact List.mem_map_of_mem ha
      obtain ⟨next, hnext⟩ := exists_foldlM_expel hctx missingParent haccepted hmissing hsub
      rw [hnext, ok_bind]
      have hfilter := foldlM_expel_accepted hnext
      refine ih next (fun a ha => haccepted a (List.mem_of_mem_filter (hfilter ▸ ha))) ?_
      rw [hfilter]
      exact hnodup.sublist (List.filter_sublist.map _)

theorem exists_quarantineCyclesAndMissingDependencies (hctx : ctx.Valid) (ledger : Ledger)
    {accepted : List AcceptedObject} {cycles : List Text}
    (haccepted : ∀ a ∈ accepted, Reportable (some a.sourceObjectId))
    (hnodup : (sourceIds accepted).Nodup) (hcycles : cycleSourceIds accepted = .ok cycles) :
    ∃ state, quarantineCyclesAndMissingDependencies ctx (ledger, accepted) = .ok state := by
  have hfinds := findsCycles_of_cycleSourceIds hcycles
  have hsub : cycles.insertionSort (· ≤ ·) ⊆ sourceIds accepted := fun id hid => by
    obtain ⟨y, hy, -⟩ := Relation.TransGen.head'_iff.1
      (hfinds.cyclic id ((List.mem_insertionSort _).1 hid))
    obtain ⟨⟨ids, hsome, -⟩, -⟩ := mem_edges.1 hy
    exact isSome_parentsOf_iff.1 (by rw [hsome]; rfl)
  obtain ⟨next, hnext⟩ : ∃ next, (cycles.insertionSort (· ≤ ·)).foldlM (expel ctx cyclicParent)
      (ledger, accepted) = .ok next :=
    exists_foldlM_expel hctx cyclicParent haccepted
      ((List.perm_insertionSort _ _).nodup_iff.2 hfinds.nodup) hsub
  have hfilter := foldlM_expel_accepted hnext
  rw [quarantineCyclesAndMissingDependencies, hcycles, ok_bind, hnext, ok_bind]
  refine exists_quarantineMissing hctx _ next
    (fun a ha => haccepted a (List.mem_of_mem_filter (hfilter ▸ ha))) ?_
  rw [hfilter]
  exact hnodup.sublist (List.filter_sublist.map _)

theorem exists_stageAccepted (adapter : SourceAdapterContract) (hctx : ctx.Valid)
    {accepted : List AcceptedObject}
    (haccepted : ∀ a ∈ accepted, Reportable (some a.sourceObjectId))
    (state : Ledger × List StagedSourceObject) :
    ∃ state', accepted.foldlM (stageAccepted ctx adapter) state = .ok state' := by
  refine exists_foldlM_of_forall (fun a ha ⟨ledger, staged⟩ => ?_) state
  obtain ⟨ledger', hledger⟩ := exists_foldlM_of_forall
    (f := fun ledger category =>
      a.indexes.foldlM (Ledger.lose ctx category (some a.sourceObjectId)) ledger)
    (l := declaredLosses adapter a.candidate)
    (fun category _ ledger => exists_foldlM_of_forall
      (fun i _ ledger => exists_lose hctx (haccepted a ha) ledger i) ledger) ledger
  simp only [stageAccepted, hledger, ok_bind]
  exact ⟨_, rfl⟩

theorem exists_build (hctx : ctx.Valid) {raws : List RawObject} {cycles : List Text}
    (hcycles : cycleSourceIds (acceptedGroups adapter (candidates raws)) = .ok cycles) :
    ∃ built, build ctx adapter raws = .ok built := by
  obtain ⟨⟨ledger, parsed⟩, hraws⟩ := exists_stageRaw hctx raws (Ledger.empty, [])
  obtain ⟨rfl, refused, htally, hkeys⟩ := tally_of_stageRaw hraws
  have hfound : ∀ c ∈ candidates raws, Reportable (some c.sourceObjectId) :=
    fun c hc => reportable_of_mem_candidates hc
  obtain ⟨classified, hclassify⟩ := exists_classify adapter hctx hfound ledger
  have hsettled := settled_of_classify htally hkeys hclassify
  have haccepted : ∀ a ∈ classified.accepted, Reportable (some a.sourceObjectId) :=
    fun a ha => hfound _ (hsettled.collects a ha).candidate_mem
  rw [← accepted_of_classify hclassify] at hcycles
  obtain ⟨state, hstate⟩ := exists_quarantineCyclesAndMissingDependencies hctx classified.ledger
    haccepted hsettled.nodup hcycles
  obtain ⟨hsub, -⟩ := mem_quarantine_iff hsettled.nodup hstate
  obtain ⟨staged, hstaged⟩ := exists_stageAccepted adapter hctx
    (fun a ha => haccepted a (hsub.subset ha)) (state.1, [])
  simp only [build, hraws, ok_bind, hclassify, hstate, hstaged]
  exact ⟨_, rfl⟩

end

end DollState.Import
