import Mathlib
import DollState.Import.Progress

/-!
# When a batch can be built

`_build_stage_result` succeeds for a valid batch in all cases but two: the search for cycles goes
deeper than the interpreter allows, or there are more losses than a mapping report holds
(`buildStageResult_isOk_iff`).
-/

namespace DollState.Import

open StateLib Digraph

section

variable [PythonLibrary] [ImportLibrary] {ctx : BatchContext} {adapter : SourceAdapterContract}

/-! ## Counting the losses -/

/-- The position and the category of a loss, which are part of its name. -/
def LossRequest.place (q : LossRequest) : Nat × String := (q.inputIndex, q.category.text)

omit [PythonLibrary] [ImportLibrary] in
theorem inputIndex_mem_of_requests {a : AcceptedObject} {q : LossRequest}
    (hq : q ∈ a.requests adapter) : q.inputIndex ∈ a.indexes := by
  obtain ⟨category, -, hq⟩ := List.mem_flatMap.1 hq
  obtain ⟨i, hi, rfl⟩ := List.mem_map.1 hq
  exact hi

omit [PythonLibrary] [ImportLibrary] in
theorem nodup_requests {a : AcceptedObject} (h : a.indexes.Nodup) :
    ((a.requests adapter).map LossRequest.place).Nodup := by
  have heach : ∀ category, ((a.indexes.map fun i =>
      (⟨i, category, some a.sourceObjectId⟩ : LossRequest)).map LossRequest.place).Nodup := by
    intro category
    rw [List.map_map]
    exact h.map fun i j hij => (Prod.mk.inj hij).1
  unfold AcceptedObject.requests declaredLosses
  split_ifs
  · simp only [List.cons_append, List.nil_append, List.flatMap_cons, List.flatMap_nil,
      List.append_nil, List.map_append]
    refine List.nodup_append'.2 ⟨heach _, heach _, ?_⟩
    rw [List.map_map, List.map_map]
    intro place hplace hplace'
    obtain ⟨i, -, rfl⟩ := List.mem_map.1 hplace
    obtain ⟨j, -, hij⟩ := List.mem_map.1 hplace'
    have htext := (Prod.mk.inj hij).2
    simp [LossCategory.text] at htext
  all_goals simp only [List.nil_append, List.append_nil, List.flatMap_cons, List.flatMap_nil]
  · exact heach _
  · exact heach _
  · exact List.nodup_nil

omit [PythonLibrary] [ImportLibrary] in
theorem nodup_flatMap_requests {accepted : List AcceptedObject}
    (h : (accepted.flatMap AcceptedObject.indexes).Nodup) :
    ((accepted.flatMap (·.requests adapter)).map LossRequest.place).Nodup := by
  induction accepted with
  | nil => exact List.nodup_nil
  | cons a accepted ih =>
    rw [List.flatMap_cons] at h
    obtain ⟨ha, hrest, hdisjoint⟩ := List.nodup_append'.1 h
    rw [List.flatMap_cons, List.map_append]
    refine List.nodup_append'.2 ⟨nodup_requests ha, ih hrest, ?_⟩
    intro place hplace hplace'
    obtain ⟨q, hq, rfl⟩ := List.mem_map.1 hplace
    obtain ⟨q', hq', heq⟩ := List.mem_map.1 hplace'
    obtain ⟨b, hb, hq'⟩ := List.mem_flatMap.1 hq'
    have hindex : q'.inputIndex = q.inputIndex := (Prod.mk.inj heq).1
    exact hdisjoint (inputIndex_mem_of_requests hq)
      (List.mem_flatMap.2 ⟨b, hb, hindex ▸ inputIndex_mem_of_requests hq'⟩)

theorem lossRecordIds_eq {namespaceId : RecordId} {requests : List LossRequest}
    {losses : List PortabilityLossRecord} (hnamespace : uuid ctx.importBatchId = some namespaceId)
    (h : List.Forall₂ (fun q loss => LossRequest.make ctx q = .ok loss) requests losses) :
    losses.map PortabilityLossRecord.lossRecordId = requests.map fun q =>
      ImportLibrary.uuid5 namespaceId (lossName q.inputIndex q.category q.sourceObjectId) := by
  induction h with
  | nil => rfl
  | @cons q loss qs losses hmake _ ih =>
    obtain ⟨_, hn, hid⟩ := lossRecordId_of_make hmake
    cases hnamespace.symm.trans hn
    rw [List.map_cons, List.map_cons, hid, ih]

section

variable {raws : List RawObject} {built : Built} {refused : List LossRequest}
variable {accepted : List AcceptedObject}

/-- No two losses are of one category and about one object. -/
theorem Built.Accounts.nodup_places (h : built.Accounts ctx adapter raws refused accepted)
    (hindexes : (raws.map RawObject.inputIndex).Nodup) :
    ((refused ++ accepted.flatMap (·.requests adapter)).map LossRequest.place).Nodup := by
  obtain ⟨hrefused, haccepted, hdisjoint⟩ :=
    List.nodup_append'.1 (h.indexes_perm.nodup_iff.2 hindexes)
  rw [List.map_append]
  refine List.nodup_append'.2 ⟨?_, nodup_flatMap_requests haccepted, ?_⟩
  · refine List.Nodup.of_map Prod.fst ?_
    rw [List.map_map]
    exact hrefused
  · intro place hplace hplace'
    obtain ⟨q, hq, rfl⟩ := List.mem_map.1 hplace
    obtain ⟨q', hq', heq⟩ := List.mem_map.1 hplace'
    obtain ⟨b, hb, hq'⟩ := List.mem_flatMap.1 hq'
    have hindex : q'.inputIndex = q.inputIndex := (Prod.mk.inj heq).1
    exact hdisjoint (List.mem_map_of_mem hq)
      (List.mem_flatMap.2 ⟨b, hb, hindex ▸ inputIndex_mem_of_requests hq'⟩)

/-- The identifiers of the losses are distinct where the names they are made of are kept apart. -/
theorem Built.Accounts.nodup_lossRecordIds (h : built.Accounts ctx adapter raws refused accepted)
    (hindexes : (raws.map RawObject.inputIndex).Nodup) {namespaceId : RecordId}
    (hnamespace : uuid ctx.importBatchId = some namespaceId)
    (hinj : Set.InjOn (ImportLibrary.uuid5 namespaceId) (lossNames raws)) :
    (built.ledger.losses.map PortabilityLossRecord.lossRecordId).Nodup := by
  rw [lossRecordIds_eq hnamespace h.requested.losses]
  refine (List.nodup_map_iff_inj_on (List.Nodup.of_map _ (h.nodup_places hindexes))).2 ?_
  intro q hq q' hq' heq
  obtain ⟨raw, hraw, hkey⟩ := h.exists_raw hq
  obtain ⟨raw', hraw', hkey'⟩ := h.exists_raw hq'
  obtain ⟨hindex, hid⟩ : q.inputIndex = raw.inputIndex ∧ q.sourceObjectId = raw.reportedId :=
    Prod.mk.inj hkey
  obtain ⟨hindex', hid'⟩ : q'.inputIndex = raw'.inputIndex ∧ q'.sourceObjectId = raw'.reportedId :=
    Prod.mk.inj hkey'
  have hname := hinj ⟨raw, hraw, q.category, by rw [hindex, hid]⟩
    ⟨raw', hraw', q'.category, by rw [hindex', hid']⟩ heq
  obtain ⟨hi, htext⟩ := lossName_inj hname
  exact List.inj_on_of_nodup_map (h.nodup_places hindexes) hq hq' (Prod.ext hi htext)

end

/-! ## The records of a batch -/

omit [PythonLibrary] [ImportLibrary] in
theorem range_of_isIdentifierChar {c : Char}
    (h : (isIdentifierChar c || c == '.' || c == '_' || c == '-') = true) :
    33 ≤ c.toNat ∧ c.toNat < 128 ∧ c.toLower = c := by
  simp only [Bool.or_eq_true, beq_iff_eq] at h
  rcases h with ((h | rfl) | rfl) | rfl
  · have halnum : c.isAlphanum = true := by
      simp only [isIdentifierChar, Bool.or_eq_true] at h
      simp only [Char.isAlphanum, Char.isAlpha, Bool.or_eq_true]
      tauto
    refine ⟨(isAlphanum_range halnum).1, (isAlphanum_range halnum).2, ?_⟩
    rw [Char.toLower, dif_neg]
    simp only [isIdentifierChar, Char.isLower, Char.isDigit, Bool.or_eq_true, Bool.and_eq_true,
      decide_eq_true_eq, UInt32.le_iff_toNat_le] at h
    simp only [ge_iff_le, UInt32.le_iff_toNat_le, show 'A'.val.toNat = 65 from rfl,
      show 'Z'.val.toNat = 90 from rfl]
    simp only [show 'a'.val.toNat = 97 from rfl, show 'z'.val.toNat = 122 from rfl,
      show '0'.val.toNat = 48 from rfl, show '9'.val.toNat = 57 from rfl] at h
    omega
  all_goals decide

omit [PythonLibrary] in
theorem validateIdentifier_self (name : String) {t : Text} (h : isIdentifier t = true) :
    validateIdentifier name t = .ok t := by
  have hall : ∀ c ∈ t, 33 ≤ c.toNat ∧ c.toNat < 128 ∧ c.toLower = c := by
    cases t with
    | nil => cases h
    | cons c cs =>
      simp only [isIdentifier, Bool.and_eq_true, List.all_eq_true] at h
      obtain ⟨⟨hc, -⟩, hcs⟩ := h
      exact List.forall_mem_cons.2 ⟨range_of_isIdentifierChar (by simp [hc]),
        fun d hd => range_of_isIdentifierChar (hcs d hd)⟩
  have hstrip : strip t = t :=
    strip_eq_self (stripped_of_all fun c hc => not_isSpace_of_lt (hall c hc).1 (hall c hc).2.1)
  have hlower : ImportLibrary.lower t = t := by
    rw [ImportLibrary.lower_ascii t fun c hc => (hall c hc).2.1,
      List.map_congr_left fun c hc => (hall c hc).2.2, List.map_id']
  rw [validateIdentifier, hstrip, hlower, ensure_of h]
  rfl

omit [PythonLibrary] [ImportLibrary] in
theorem validateVersion_self (name : String) {t : Text} (h : isVersion t = true) :
    validateVersion name t = .ok t := by
  have hpart : ∀ c : Char, (c.isAlphanum || c == '.' || c == '_' || c == '+' || c == '-') = true →
      isSpace c = false := by
    intro c hc
    simp only [Bool.or_eq_true, beq_iff_eq] at hc
    rcases hc with (((hc | rfl) | rfl) | rfl) | rfl
    · exact not_isSpace_of_lt (isAlphanum_range hc).1 (isAlphanum_range hc).2
    all_goals decide
  have hall : ∀ c ∈ t, isSpace c = false := by
    cases t with
    | nil => cases h
    | cons c cs =>
      simp only [isVersion, Bool.and_eq_true, List.all_eq_true] at h
      obtain ⟨⟨hc, -⟩, hcs⟩ := h
      exact List.forall_mem_cons.2 ⟨hpart c (by simp [hc]), fun d hd => hpart d (hcs d hd)⟩
  rw [validateVersion, strip_eq_self (stripped_of_all hall), ensure_of h]
  rfl

/-- The record of a batch can be made if there are no more quarantined objects than objects. -/
theorem exists_makeImportBatch (hctx : ctx.Valid) (environment : SourceEnvironmentRecord)
    (adapter : SourceAdapterContract) (sourceRootHash : Digest) (mappingReportId : RecordId)
    {staged quarantined : Nat} (hle : quarantined ≤ staged) (hmax : staged ≤ maxCount) :
    ∃ batch, makeImportBatch ctx.importBatchId environment adapter ctx.startedAt sourceRootHash
      staged quarantined mappingReportId = .ok batch := by
  obtain ⟨batchId, hbatch⟩ := (validateUuid_isOk_iff "import batch id").2 hctx.batchId
  obtain ⟨startedAt, hstarted⟩ := (validateTimestamp_isOk_iff "started at").2 hctx.startedAt
  rw [makeImportBatch, hbatch, ok_bind, validateIdentifier_self _ adapter.adapterId_ok, ok_bind,
    validateVersion_self _ adapter.adapterVersion_ok, ok_bind, hstarted, ok_bind, validateCount,
    ensure_of hmax, ok_bind, validateCount, ensure_of (hle.trans hmax), ok_bind, ensure_of hle]
  exact ⟨_, rfl⟩

omit [ImportLibrary] in
/-- The report can be made exactly if it does not have too many losses. -/
theorem makeMappingReport_isOk_iff (hctx : ctx.Valid) (mappingReportId : RecordId) {total : Nat}
    {counts : MappingCounts} {materialLossCount : Nat} {lossRecordIds : List RecordId}
    (htotal : counts.total = total) (hmax : total ≤ maxCount) (hmaterial : materialLossCount ≤ total)
    (hnodup : lossRecordIds.Nodup) (hlosses : materialLossCount = 0 ∨ lossRecordIds ≠ []) :
    (∃ report, makeMappingReport mappingReportId ctx.importBatchId ctx.startedAt total counts
      materialLossCount lossRecordIds = .ok report) ↔ lossRecordIds.length ≤ maxDeclarations := by
  obtain ⟨batchId, hbatch⟩ := (validateUuid_isOk_iff "batch id").2 hctx.batchId
  obtain ⟨generatedAt, hgenerated⟩ := (validateTimestamp_isOk_iff "generated at").2 hctx.startedAt
  constructor
  · rintro ⟨report, h⟩
    obtain ⟨_, -, h⟩ := bind_eq_ok.1 h
    obtain ⟨_, -, h⟩ := bind_eq_ok.1 h
    obtain ⟨-, h⟩ := check_bind_eq_ok.1 h
    obtain ⟨-, h⟩ := check_bind_eq_ok.1 h
    obtain ⟨-, h⟩ := check_bind_eq_ok.1 h
    obtain ⟨_, hids, -⟩ := bind_eq_ok.1 h
    exact ensure_eq_ok.1 (check_bind_eq_ok.1 hids).1
  · intro hlength
    have hcounts : forEach (fun count : String × Nat => validateCount count.1 count.2)
        [("total object count", total),
          ("mapped without known loss count", counts.mappedWithoutKnownLoss),
          ("mapped with transformation count", counts.mappedWithTransformation),
          ("partially mapped count", counts.partiallyMapped),
          ("unsupported but preserved count", counts.unsupportedButPreserved),
          ("unsupported and omitted count", counts.unsupportedAndOmitted),
          ("missing dependency count", counts.missingDependency),
          ("malformed or quarantined count", counts.malformedOrQuarantined),
          ("unknown count", counts.unknown), ("material loss count", materialLossCount)] = .ok () := by
      rw [MappingCounts.total] at htotal
      simp only [forEach_eq_ok, validateCount, ensure_eq_ok, List.forall_mem_cons]
      refine ⟨?_, ?_, ?_, ?_, ?_, ?_, ?_, ?_, ?_, ?_, by simp⟩ <;> omega
    have hids : lossRecordIds.insertionSort (fun a b => a.toNat ≤ b.toNat) ≠ [] ↔
        lossRecordIds ≠ [] := by
      rw [← List.length_pos_iff, List.length_insertionSort, List.length_pos_iff]
    have hdeclared : validateUuidDeclarations "loss record ids" lossRecordIds =
        .ok (lossRecordIds.insertionSort fun a b => a.toNat ≤ b.toNat) := by
      rw [validateUuidDeclarations, ensure_of hlength, ok_bind, ensure_of hnodup]
      rfl
    rw [makeMappingReport, hbatch, ok_bind, hgenerated, ok_bind, hcounts, ok_bind,
      ensure_of htotal.symm, ok_bind, ensure_of hmaterial, ok_bind, hdeclared, ok_bind,
      ensure_of (hlosses.imp_right hids.2)]
    exact ⟨_, rfl⟩

/-! ## The batches that fit -/

open Classical in
/-- The accepted objects that are left in the end. -/
noncomputable def resolvedGroups (adapter : SourceAdapterContract) (raws : List RawObject) :
    List AcceptedObject :=
  let accepted := acceptedGroups adapter (candidates raws)
  accepted.filter fun a => Resolves (parentsOf accepted) a.sourceObjectId

/-- The number of losses: one for each object that is not left, and the declared ones of the
others. -/
noncomputable def lossCount (adapter : SourceAdapterContract) (raws : List RawObject) : Nat :=
  (raws.length - ((resolvedGroups adapter raws).map fun a => a.indexes.length).sum) +
    ((resolvedGroups adapter raws).map fun a =>
      (declaredLosses adapter a.candidate).length * a.indexes.length).sum

/-- The search for cycles stays within the calls that fit inside one another, and the losses within
a mapping report. -/
structure BuildFits (adapter : SourceAdapterContract) (raws : List RawObject) : Prop where
  depth : ∀ chain, FirstChain (parentsOf (acceptedGroups adapter (candidates raws))) chain →
    chain.length ≤ ImportLibrary.visitLevels
  losses : lossCount adapter raws ≤ maxDeclarations

omit [PythonLibrary] [ImportLibrary] in
theorem acceptedGroup_eq_some {found : List Candidate} {id : Text} {a : AcceptedObject}
    (h : acceptedGroup adapter found id = some a) :
    a.candidate ∈ found ∧ a.sourceObjectId = id := by
  simp only [acceptedGroup] at h
  split at h
  · cases h
  · rename_i representative hsome
    split at h
    · cases h
    · cases h
      exact sourceObjectId_of_minOn? hsome

omit [PythonLibrary] [ImportLibrary] in
theorem nodup_acceptedGroups (adapter : SourceAdapterContract) (found : List Candidate) :
    (sourceIds (acceptedGroups adapter found)).Nodup := by
  have hids := (List.perm_insertionSort (· ≤ ·) _).nodup_iff.2
    (List.nodup_dedup (found.map Candidate.sourceObjectId))
  refine hids.sublist ?_
  unfold acceptedGroups
  generalize (found.map Candidate.sourceObjectId).dedup.insertionSort (· ≤ ·) = ids
  induction ids with
  | nil => exact List.Sublist.refl _
  | cons id ids ih =>
    cases ha : acceptedGroup adapter found id with
    | none =>
      rw [List.filterMap_cons_none ha]
      exact ih.cons _
    | some a =>
      rw [List.filterMap_cons_some ha, ← (acceptedGroup_eq_some ha).2]
      exact ih.cons_cons _

theorem sorted_of_parseCandidate {raw : RawObject} {c : Candidate}
    (h : parseCandidate raw = .ok c) : c.parentSourceObjectIds.Pairwise (· < ·) := by
  unfold parseCandidate at h
  split at h
  case h_2 => cases h
  case h_1 value _ =>
    obtain ⟨_, -, h⟩ := bind_eq_ok.1 h
    obtain ⟨-, h⟩ := check_bind_eq_ok.1 h
    obtain ⟨_, -, h⟩ := bind_eq_ok.1 h
    obtain ⟨parents, hparents, h⟩ := bind_eq_ok.1 h
    obtain ⟨-, h⟩ := check_bind_eq_ok.1 h
    split at h
    · cases pure_eq_ok.1 h
      have hvalid := orFail_eq_ok.1 hparents
      unfold validateParentIds at hvalid
      split at hvalid
      · obtain ⟨ids, -, hvalid⟩ := Option.bind_eq_some_iff.1 hvalid
        split_ifs at hvalid with hnodup
        cases hvalid
        have hle := List.pairwise_insertionSort (· ≤ ·) ids
        have hne := (List.perm_insertionSort (· ≤ ·) ids).nodup_iff.2 hnodup
        exact (hle.and hne).imp fun h => lt_of_le_of_ne h.1 h.2
      · cases hvalid
    · cases h

theorem sorted_acceptedGroups (adapter : SourceAdapterContract) (raws : List RawObject) :
    ∀ a ∈ acceptedGroups adapter (candidates raws), a.Sorted := by
  intro a ha
  obtain ⟨id, -, hid⟩ := List.mem_filterMap.1 ha
  obtain ⟨raw, -, hc⟩ := List.mem_filterMap.1 (acceptedGroup_eq_some hid).1
  exact sorted_of_parseCandidate (RawObject.candidate?_eq_some.1 hc).2

section

variable {raws : List RawObject} {built : Built} {refused : List LossRequest}
variable {accepted : List AcceptedObject}

omit [PythonLibrary] [ImportLibrary] in
theorem length_requests (a : AcceptedObject) : (a.requests adapter).length =
    (declaredLosses adapter a.candidate).length * a.indexes.length := by
  simp [AcceptedObject.requests, List.length_flatMap, List.map_const']

/-- The accepted objects that a run leaves are those that are resolved. -/
theorem perm_resolvedGroups {ledger ledger' : Ledger}
    (h : quarantineCyclesAndMissingDependencies ctx
      (ledger, acceptedGroups adapter (candidates raws)) = .ok (ledger', accepted)) :
    accepted.Perm (resolvedGroups adapter raws) := by
  have hnodup := nodup_acceptedGroups adapter (candidates raws)
  obtain ⟨hsub, hmem⟩ := mem_quarantine_iff hnodup h
  have hall := List.Nodup.of_map _ hnodup
  classical
  refine (List.perm_ext_iff_of_nodup (hall.sublist hsub) (hall.filter _)).2 fun a => ?_
  rw [List.mem_filter, decide_eq_true_eq]
  exact ⟨fun ha => ⟨hsub.subset ha, (hmem a (hsub.subset ha)).1 ha⟩,
    fun ⟨ha, hresolves⟩ => (hmem a ha).2 hresolves⟩

theorem Built.Accounts.length_losses (h : built.Accounts ctx adapter raws refused accepted)
    (hperm : accepted.Perm (resolvedGroups adapter raws)) :
    built.ledger.losses.length = lossCount adapter raws := by
  have hlength : built.ledger.losses.length =
      refused.length + (accepted.map fun a => (a.requests adapter).length).sum := by
    rw [← h.requested.losses.length_eq, List.length_append, List.length_flatMap]
  have hrefused : refused.length + (accepted.map fun a => a.indexes.length).sum = raws.length := by
    rw [← h.total, h.total_eq]
  simp only [length_requests] at hlength
  rw [lossCount, ← (hperm.map _).sum_nat, ← (hperm.map _).sum_nat, hlength]
  omega

/-- There are no more material objects than objects, and none without losses. -/
theorem Built.Accounts.material_bounds (h : built.Accounts ctx adapter raws refused accepted) :
    built.ledger.materialObjectIndexes.length ≤ raws.length ∧
      (built.ledger.materialObjectIndexes.length = 0 ∨ built.ledger.losses ≠ []) := by
  constructor
  · have hsub : built.ledger.materialObjectIndexes ⊆ raws.map RawObject.inputIndex := by
      intro i hi
      obtain ⟨q, hq, rfl⟩ := (h.requested.material i).1 hi
      obtain ⟨raw, hraw, hkey⟩ := h.exists_raw hq
      exact List.mem_map.2 ⟨raw, hraw, (Prod.mk.inj hkey).1.symm⟩
    have hle := (h.requested.material_nodup.subperm hsub).length_le
    rwa [List.length_map] at hle
  · by_cases hnil : built.ledger.losses = []
    · left
      have hrequests := h.requested.losses
      rw [hnil, List.forall₂_nil_right_iff] at hrequests
      rw [List.length_eq_zero_iff, List.eq_nil_iff_forall_not_mem]
      intro i hi
      obtain ⟨q, hq, -⟩ := (h.requested.material i).1 hi
      rw [hrequests] at hq
      cases hq
    · exact .inr hnil

theorem Built.Accounts.length_quarantined (h : built.Accounts ctx adapter raws refused accepted) :
    built.ledger.quarantined.length ≤ raws.length := by
  have hlength := congrArg List.length h.quarantined
  rw [List.length_map, List.length_map] at hlength
  have htotal := h.total_eq
  rw [h.total] at htotal
  omega

/-- The report of a batch can be made exactly if it holds the losses. -/
theorem Built.Accounts.report_isOk_iff (h : built.Accounts ctx adapter raws refused accepted)
    (hctx : ctx.Valid) (hindexes : (raws.map RawObject.inputIndex).Nodup)
    (hmax : raws.length ≤ maxCount)
    (hinj : ∀ namespaceId, uuid ctx.importBatchId = some namespaceId →
      Set.InjOn (ImportLibrary.uuid5 namespaceId) (lossNames raws))
    (hperm : accepted.Perm (resolvedGroups adapter raws)) (mappingReportId : RecordId) :
    (∃ report, makeMappingReport mappingReportId ctx.importBatchId ctx.startedAt raws.length
      built.ledger.mappingCounts built.ledger.materialObjectIndexes.length
      ((built.ledger.losses.insertionSort fun a b => a.lossRecordId.toNat ≤ b.lossRecordId.toNat).map
        PortabilityLossRecord.lossRecordId) = .ok report) ↔ lossCount adapter raws ≤ maxDeclarations := by
  obtain ⟨hle, hlosses⟩ := h.material_bounds
  obtain ⟨namespaceId, hnamespace, -⟩ := hctx.batchId
  have hsorted := (List.perm_insertionSort
    (fun a b : PortabilityLossRecord => a.lossRecordId.toNat ≤ b.lossRecordId.toNat)
    built.ledger.losses).map PortabilityLossRecord.lossRecordId
  rw [makeMappingReport_isOk_iff hctx mappingReportId h.total_eq hmax hle, hsorted.length_eq,
    List.length_map, h.length_losses hperm]
  · exact hsorted.nodup_iff.2 (h.nodup_lossRecordIds hindexes hnamespace (hinj _ hnamespace))
  · refine hlosses.imp_right fun hne hnil => hne ?_
    rw [hnil] at hsorted
    exact List.map_eq_nil_iff.1 (List.nil_perm.1 hsorted)

end

theorem valid_of_makeImportBatch {environment : SourceEnvironmentRecord}
    {adapter : SourceAdapterContract} {sourceRootHash : Digest} {staged quarantined : Nat}
    {mappingReportId : RecordId} {batch : ImportBatchRecord}
    (h : makeImportBatch ctx.importBatchId environment adapter ctx.startedAt sourceRootHash
      staged quarantined mappingReportId = .ok batch) : ctx.Valid := by
  obtain ⟨batchId, hbatch, h⟩ := bind_eq_ok.1 h
  obtain ⟨_, -, h⟩ := bind_eq_ok.1 h
  obtain ⟨_, -, h⟩ := bind_eq_ok.1 h
  obtain ⟨startedAt, hstarted, -⟩ := bind_eq_ok.1 h
  exact ⟨(validateUuid_isOk_iff _).1 ⟨batchId, hbatch⟩,
    (validateTimestamp_isOk_iff _).1 ⟨startedAt, hstarted⟩⟩

/-- A result can be built exactly for a valid batch that fits. -/
theorem buildStageResult_isOk_iff {stager : Stager} {raws : List RawObject}
    {sourceFormat : SourceFormat} {formatVersion : Text} {sourceRootHash : Digest}
    (hindexes : (raws.map RawObject.inputIndex).Nodup) (hmax : raws.length ≤ maxCount)
    (hinj : ∀ namespaceId, uuid ctx.importBatchId = some namespaceId →
      Set.InjOn (ImportLibrary.uuid5 namespaceId) (lossNames raws)) :
    (∃ result, stager.buildStageResult raws sourceFormat formatVersion sourceRootHash ctx =
      .ok result) ↔ ctx.Valid ∧ BuildFits stager.adapter raws := by
  have hnodup := nodup_acceptedGroups stager.adapter (candidates raws)
  have hsorted := sorted_acceptedGroups stager.adapter raws
  constructor
  · rintro ⟨result, h⟩
    obtain ⟨built, hbuild, h⟩ := bind_eq_ok.1 h
    obtain ⟨namespaceId, hnamespace, h⟩ := bind_eq_ok.1 h
    obtain ⟨report, hreport, h⟩ := bind_eq_ok.1 h
    obtain ⟨batch, hbatch, -⟩ := bind_eq_ok.1 h
    have hctx := valid_of_makeImportBatch hbatch
    obtain ⟨refused, accepted, hacc, ledger, ledger', hquarantine⟩ := build_accounts hbuild
    obtain ⟨cycles, hcycles, -⟩ := bind_eq_ok.1 hquarantine
    exact ⟨hctx, (cycleSourceIds_isOk_iff hnodup hsorted).1 (by rw [hcycles]; rfl),
      (hacc.report_isOk_iff hctx hindexes hmax hinj (perm_resolvedGroups hquarantine) _).1
        ⟨report, hreport⟩⟩
  · rintro ⟨hctx, hfits⟩
    obtain ⟨cycles, hcycles⟩ := exists_of_isOk ((cycleSourceIds_isOk_iff hnodup hsorted).2 hfits.depth)
    obtain ⟨built, hbuild⟩ := exists_build hctx hcycles
    obtain ⟨refused, accepted, hacc, ledger, ledger', hquarantine⟩ := build_accounts hbuild
    obtain ⟨namespaceId, hnamespace, -⟩ := hctx.batchId
    obtain ⟨report, hreport⟩ := (hacc.report_isOk_iff hctx hindexes hmax hinj
      (perm_resolvedGroups hquarantine)
      (ImportLibrary.uuid5 namespaceId "mapping-report".toList)).2 hfits.losses
    obtain ⟨batch, hbatch⟩ := exists_makeImportBatch hctx stager.environment stager.adapter
      sourceRootHash (ImportLibrary.uuid5 namespaceId "mapping-report".toList)
      hacc.length_quarantined hmax
    rw [Stager.buildStageResult, hbuild, ok_bind]
    simp only [hnamespace, orFail, ok_bind, hreport, List.length_insertionSort, hbatch]
    exact ⟨_, rfl⟩

end

end DollState.Import
