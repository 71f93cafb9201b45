import DollState.Import.Ledger
import DollState.Import.Reference

/-!
# Conservation in staging

Every raw object of a source is accounted for exactly once in what `stage` returns
(`conservation_of_stage`): it is an occurrence of one staged object or has one quarantine entry, the
mapping counts add up to the number of raw objects, and the objects counted as material are those
that a loss record has been made for.
-/

namespace DollState.Import

open StateLib

/-! ## Raw objects are numbered -/

section

variable [ImportLibrary] {raws : List RawObject}

theorem inputIndex_of_rawObject {i : Nat} {item : JsonText.Value JsonText.Str} {raw : RawObject}
    (h : rawObject i item = .ok raw) : raw.inputIndex = i := by
  obtain ⟨⟨value, sourceHash⟩, -, h⟩ := bind_eq_ok.1 h
  rw [← pure_eq_ok.1 h]

theorem inputIndexes_of_rawObjects {i : Nat} {items : List (JsonText.Value JsonText.Str)}
    {raws : List RawObject} (h : rawObjects i items = .ok raws) :
    raws.map RawObject.inputIndex = List.range' i raws.length := by
  induction items generalizing i raws with
  | nil =>
    cases h
    rfl
  | cons item items ih =>
    obtain ⟨raw, hraw, h⟩ := bind_eq_ok.1 h
    obtain ⟨rest, hrest, h⟩ := bind_eq_ok.1 h
    cases pure_eq_ok.1 h
    rw [List.map_cons, ih hrest, inputIndex_of_rawObject hraw, List.length_cons, List.range'_succ]

theorem inputIndex_of_lineRawObject {i : Nat} {line : Text} {raw : RawObject}
    (h : lineRawObject i line = .ok raw) : raw.inputIndex = i := by
  unfold lineRawObject at h
  split at h
  · cases h
    rfl
  · split at h
    · cases h
      rfl
    · cases h

theorem inputIndexes_of_lineRawObjects {i : Nat} {lines : List Text} {raws : List RawObject}
    (h : lineRawObjects i lines = .ok raws) :
    raws.map RawObject.inputIndex = List.range' i raws.length := by
  induction lines generalizing i raws with
  | nil =>
    cases h
    rfl
  | cons line lines ih =>
    rw [lineRawObjects] at h
    split at h
    · exact ih h
    · obtain ⟨raw, hraw, h⟩ := bind_eq_ok.1 h
      obtain ⟨rest, hrest, h⟩ := bind_eq_ok.1 h
      cases pure_eq_ok.1 h
      rw [List.map_cons, ih hrest, inputIndex_of_lineRawObject hraw, List.length_cons,
        List.range'_succ]

theorem inputIndexes_of_parseEnvelope {sourceFormat : SourceFormat} {sourceText : Text}
    {manifest : Manifest} (h : parseEnvelope sourceFormat sourceText = .ok (manifest, raws)) :
    raws.map RawObject.inputIndex = List.range raws.length := by
  rw [List.range_eq_range']
  cases sourceFormat with
  | json =>
    simp only [parseEnvelope, parseJsonEnvelope] at h
    obtain ⟨value, -, h⟩ := bind_eq_ok.1 h
    split at h
    · obtain ⟨-, h⟩ := check_bind_eq_ok.1 h
      split at h
      · obtain ⟨raws', hraws, h⟩ := bind_eq_ok.1 h
        cases pure_eq_ok.1 h
        exact inputIndexes_of_rawObjects hraws
      · cases h
    · cases h
  | jsonl =>
    simp only [parseEnvelope, parseJsonlEnvelope] at h
    split at h
    · cases h
    · obtain ⟨-, h⟩ := check_bind_eq_ok.1 h
      obtain ⟨manifest', -, h⟩ := bind_eq_ok.1 h
      obtain ⟨raws', hraws, h⟩ := bind_eq_ok.1 h
      cases pure_eq_ok.1 h
      exact inputIndexes_of_lineRawObjects hraws

theorem inputIndexes_of_readText {stager : Stager} {sourceText : Text}
    {sourceFormat : SourceFormat} {formatVersion : Text}
    (h : stager.readText sourceText sourceFormat = .ok (formatVersion, raws)) :
    raws.map RawObject.inputIndex = List.range raws.length := by
  obtain ⟨⟨manifest, raws'⟩, hparse, h⟩ := bind_eq_ok.1 h
  obtain ⟨version, -, h⟩ := bind_eq_ok.1 h
  obtain ⟨-, h⟩ := check_bind_eq_ok.1 h
  obtain ⟨-, h⟩ := check_bind_eq_ok.1 h
  cases pure_eq_ok.1 h
  exact inputIndexes_of_parseEnvelope hparse

end

/-! ## Counting the accounts -/

section

variable [PythonLibrary] [ImportLibrary] {ctx : BatchContext} {adapter : SourceAdapterContract}
variable {raws : List RawObject} {built : Built} {refused : List LossRequest}
variable {accepted : List AcceptedObject}

/-- The raw object is an occurrence of the staged object: it has its identifier and its hash. -/
def StagedSourceObject.occurs (staged : StagedSourceObject) (raw : RawObject) : Bool :=
  raw.candidate?.any fun c =>
    c.sourceObjectId = staged.sourceObjectId && c.sourceHash = staged.sourceHash

/-- The loss record has been made for the raw object. -/
def PortabilityLossRecord.IsFor (ctx : BatchContext) (loss : PortabilityLossRecord)
    (raw : RawObject) : Prop :=
  ∃ category, LossRequest.make ctx ⟨raw.inputIndex, category, raw.reportedId⟩ = .ok loss

/-- The names that loss identifiers are made of. -/
def lossNames (raws : List RawObject) : Set Text :=
  {name | ∃ raw ∈ raws, ∃ category, name = lossName raw.inputIndex category raw.reportedId}

omit [PythonLibrary] [ImportLibrary] in
/-- An element of a list without repetitions is counted once. -/
theorem countP_eq_of_nodup {α : Type} {f : α → Nat} {p : α → Bool} {l : List α} {x : α}
    (hnodup : (l.map f).Nodup) (hx : x ∈ l) :
    l.countP (fun y => f y == f x && p y) = if p x then 1 else 0 := by
  induction l with
  | nil => cases hx
  | cons y l ih =>
    obtain ⟨hy, hl⟩ := List.nodup_cons.1 hnodup
    have hnone : f y = f x → l.countP (fun y => f y == f x && p y) = 0 := fun heq =>
      List.countP_eq_zero.2 fun z hz hpz => hy (by
        rw [heq, ← eq_of_beq (Bool.and_eq_true_iff.1 hpz).1]
        exact List.mem_map_of_mem hz)
    rcases List.mem_cons.1 hx with rfl | hx
    · rw [List.countP_cons, hnone rfl]
      simp
    · have hne : f y ≠ f x := fun heq => hy (heq ▸ List.mem_map_of_mem hx)
      rw [List.countP_cons, ih hl hx]
      simp [hne]

theorem countP_problems {raw : RawObject} (hindexes : (raws.map RawObject.inputIndex).Nodup)
    (hraw : raw ∈ raws) :
    ((problems raws).map RawObject.key).countP (fun key => key.1 == raw.inputIndex) =
      if raw.candidate?.isNone then 1 else 0 := by
  rw [← countP_eq_of_nodup hindexes hraw (p := fun raw => raw.candidate?.isNone), problems,
    List.countP_map, List.countP_filter]
  refine List.countP_congr fun r _ => ?_
  simp [RawObject.key]

theorem countP_candidates {p : Candidate → Bool} {raw : RawObject}
    (hindexes : (raws.map RawObject.inputIndex).Nodup) (hraw : raw ∈ raws) :
    (((candidates raws).filter p).map Candidate.key).countP (fun key => key.1 == raw.inputIndex) =
      if raw.candidate?.any p then 1 else 0 := by
  rw [← countP_eq_of_nodup hindexes hraw (p := fun raw => raw.candidate?.any p), candidates,
    List.countP_map, List.countP_filter, List.countP_filterMap]
  refine List.countP_congr fun r _ => ?_
  cases hr : r.candidate? with
  | none => simp
  | some c =>
    have hindex := congrArg Prod.fst (RawObject.key_of_candidate? hr)
    simp only [RawObject.key, Candidate.key] at hindex
    simp [Candidate.key, hindex]

theorem Built.Accounts.countP_quarantined {raw : RawObject}
    (h : built.Accounts ctx adapter raws refused accepted)
    (hindexes : (raws.map RawObject.inputIndex).Nodup) (hraw : raw ∈ raws) :
    built.ledger.quarantined.countP (fun q => q.inputIndex == raw.inputIndex) =
      (if raw.candidate?.isNone then 1 else 0) +
        if raw.candidate?.any fun c => c.sourceObjectId ∉ sourceIds accepted then 1 else 0 := by
  calc built.ledger.quarantined.countP (fun q => q.inputIndex == raw.inputIndex)
      = (built.ledger.quarantined.map QuarantinedSourceObject.key).countP
          fun key => key.1 == raw.inputIndex := by
        rw [List.countP_map]
        rfl
    _ = (refused.map LossRequest.key).countP fun key => key.1 == raw.inputIndex := by
        rw [h.quarantined]
    _ = _ := by
        rw [h.refused_perm.countP_eq, List.countP_append, countP_problems hindexes hraw,
          countP_candidates hindexes hraw]

theorem Built.Accounts.countP_staged {raw : RawObject}
    (h : built.Accounts ctx adapter raws refused accepted) (hraw : raw ∈ raws) :
    built.staged.countP (fun staged => staged.occurs raw) =
      if raw.candidate?.any fun c => c.sourceObjectId ∈ sourceIds accepted then 1 else 0 := by
  rw [h.staged, List.countP_map]
  cases hc : raw.candidate? with
  | none =>
    refine List.countP_eq_zero.2 fun a _ => ?_
    simp [StagedSourceObject.occurs, hc]
  | some c =>
    have hmem : c ∈ candidates raws := List.mem_filterMap.2 ⟨raw, hraw, hc⟩
    have hoccurs : ∀ a ∈ accepted, ((fun staged => StagedSourceObject.occurs staged raw) ∘
        AcceptedObject.staged adapter) a = (a.sourceObjectId == c.sourceObjectId) := by
      intro a ha
      have hhash := (h.collects a ha).sourceHash c hmem
      by_cases heq : c.sourceObjectId = a.candidate.sourceObjectId
      · simp [StagedSourceObject.occurs, hc, AcceptedObject.staged, AcceptedObject.sourceObjectId,
          heq, hhash heq]
      · simp [StagedSourceObject.occurs, hc, AcceptedObject.staged, AcceptedObject.sourceObjectId,
          heq, Ne.symm heq]
    have hcount : accepted.countP (fun a => a.sourceObjectId == c.sourceObjectId) =
        (sourceIds accepted).count c.sourceObjectId := by
      rw [sourceIds, List.count_eq_countP, List.countP_map]
      rfl
    rw [List.countP_congr fun a ha => by rw [hoccurs a ha], hcount, h.nodup.count, Option.any_some]
    simp

omit [PythonLibrary] [ImportLibrary] in
/-- The occurrences of accepted objects are the candidates with their identifiers. -/
theorem indexes_accepted_perm {found : List Candidate}
    (hcollects : ∀ a ∈ accepted, a.Collects found) (hnodup : (sourceIds accepted).Nodup) :
    (accepted.flatMap AcceptedObject.indexes).Perm
      ((found.filter fun c => c.sourceObjectId ∈ sourceIds accepted).map Candidate.inputIndex) := by
  induction accepted with
  | nil => simp [sourceIds]
  | cons a accepted ih =>
    obtain ⟨ha, hnodup⟩ := List.nodup_cons.1 hnodup
    have hsplit := filter_or_perm (l := found) (p := fun c => c.sourceObjectId = a.sourceObjectId)
      (q := fun c => c.sourceObjectId ∈ sourceIds accepted) fun c _ heq hmem => ha (heq ▸ hmem)
    have hmem : ∀ c : Candidate, c.sourceObjectId ∈ sourceIds (a :: accepted) ↔
        c.sourceObjectId = a.sourceObjectId ∨ c.sourceObjectId ∈ sourceIds accepted :=
      fun c => List.mem_cons
    have hrest := ih (fun b hb => hcollects b (List.mem_cons_of_mem _ hb)) hnodup
    simp only [hmem, List.flatMap_cons]
    refine ((hcollects a List.mem_cons_self).indexes.append hrest).trans ?_
    rw [← List.map_append]
    exact (hsplit.map _).symm

theorem indexes_raws_perm (raws : List RawObject) :
    ((problems raws).map RawObject.inputIndex ++ (candidates raws).map Candidate.inputIndex).Perm
      (raws.map RawObject.inputIndex) := by
  induction raws with
  | nil => exact List.Perm.refl _
  | cons raw raws ih =>
    cases hc : raw.candidate? with
    | none =>
      have hproblems : problems (raw :: raws) = raw :: problems raws :=
        List.filter_cons_of_pos (by simp [hc])
      have hcandidates : candidates (raw :: raws) = candidates raws :=
        List.filterMap_cons_none hc
      rw [hproblems, hcandidates]
      exact ih.cons _
    | some c =>
      have hproblems : problems (raw :: raws) = problems raws :=
        List.filter_cons_of_neg (by simp [hc])
      have hcandidates : candidates (raw :: raws) = c :: candidates raws :=
        List.filterMap_cons_some hc
      have hindex : c.inputIndex = raw.inputIndex :=
        (congrArg Prod.fst (RawObject.key_of_candidate? hc)).symm
      rw [hproblems, hcandidates, List.map_cons, List.map_cons, hindex]
      exact List.perm_middle.trans (ih.cons _)

/-- Every raw object is refused or an occurrence of an accepted object. -/
theorem Built.Accounts.indexes_perm (h : built.Accounts ctx adapter raws refused accepted) :
    (refused.map LossRequest.inputIndex ++ accepted.flatMap AcceptedObject.indexes).Perm
      (raws.map RawObject.inputIndex) := by
  have hrefused := h.refused_perm.map Prod.fst
  rw [List.map_append, List.map_map, List.map_map, List.map_map] at hrefused
  have haccepted := indexes_accepted_perm h.collects h.nodup
  have hsplit := (List.filter_append_perm
    (fun c : Candidate => decide (c.sourceObjectId ∈ sourceIds accepted)) (candidates raws)).map
      Candidate.inputIndex
  refine ((hrefused.append haccepted).trans ?_).trans (indexes_raws_perm raws)
  rw [List.append_assoc]
  refine List.Perm.append_left _ ((List.perm_append_comm).trans (List.Perm.trans ?_ hsplit))
  rw [List.map_append]
  refine List.Perm.append_left _ (List.Perm.of_eq ?_)
  simp only [decide_not]
  rfl

theorem Built.Accounts.total_eq (h : built.Accounts ctx adapter raws refused accepted) :
    built.ledger.mappingCounts.total = raws.length := by
  have hlength := h.indexes_perm.length_eq
  rw [List.length_append, List.length_map, List.length_map, List.length_flatMap] at hlength
  rw [h.total, hlength]

theorem Built.Accounts.sourceIds_staged (h : built.Accounts ctx adapter raws refused accepted) :
    built.staged.map StagedSourceObject.sourceObjectId = sourceIds accepted := by
  rw [h.staged, List.map_map]
  rfl

/-! ## Material losses -/

omit [PythonLibrary] [ImportLibrary] in
/-- Two texts that are cut at their first separator. -/
theorem append_cons_inj {α : Type} {x : α} {a b r s : List α} (ha : x ∉ a) (hb : x ∉ b)
    (h : a ++ x :: r = b ++ x :: s) : a = b ∧ r = s := by
  induction a generalizing b with
  | nil =>
    cases b with
    | nil => exact ⟨rfl, (List.cons.inj h).2⟩
    | cons y b => exact absurd (List.mem_cons.2 (.inl (List.cons.inj h).1)) hb
  | cons y a ih =>
    cases b with
    | nil => exact absurd (List.mem_cons.2 (.inl (List.cons.inj h).1.symm)) ha
    | cons z b =>
      obtain ⟨rfl, htail⟩ := List.cons.inj h
      obtain ⟨rfl, hr⟩ := ih (fun hx => ha (List.mem_cons_of_mem _ hx))
        (fun hx => hb (List.mem_cons_of_mem _ hx)) htail
      exact ⟨rfl, hr⟩

omit [PythonLibrary] [ImportLibrary] in
/-- The name of a loss determines its object and, for a given object, its category. -/
theorem lossName_inj {i j : Nat} {category category' : LossCategory}
    {sourceObjectId sourceObjectId' : Option Text}
    (h : lossName i category sourceObjectId = lossName j category' sourceObjectId') :
    i = j ∧ category.text = category'.text := by
  have hdigits : ∀ n : Nat, ':' ∉ Nat.toDigits 10 n := fun n hmem =>
    absurd (Nat.isDigit_of_mem_toDigits (by decide) (by decide) hmem) (by decide)
  have hcategory : ∀ category : LossCategory, ':' ∉ category.text.toList := by
    rintro ⟨⟩ <;> decide
  unfold lossName at h
  generalize "loss:".toList = start at h
  simp only [List.append_assoc, List.append_cancel_left_eq, List.cons_append] at h
  obtain ⟨hi, h⟩ := append_cons_inj (hdigits i) (hdigits j) h
  obtain ⟨hc, -⟩ := append_cons_inj (hcategory category) (hcategory category') h
  refine ⟨?_, String.toList_inj.1 hc⟩
  rw [← @Nat.ofDigitChars_ten_toDigits i, hi, Nat.ofDigitChars_ten_toDigits]

theorem lossRecordId_of_make {q : LossRequest} {loss : PortabilityLossRecord}
    (h : q.make ctx = .ok loss) : ∃ namespaceId, uuid ctx.importBatchId = some namespaceId ∧
      loss.lossRecordId = ImportLibrary.uuid5 namespaceId
        (lossName q.inputIndex q.category q.sourceObjectId) := by
  obtain ⟨namespaceId, hnamespace, h⟩ := bind_eq_ok.1 h
  obtain ⟨_, -, h⟩ := bind_eq_ok.1 h
  obtain ⟨_, -, h⟩ := bind_eq_ok.1 h
  obtain ⟨_, -, h⟩ := bind_eq_ok.1 h
  cases pure_eq_ok.1 h
  exact ⟨namespaceId, orFail_eq_ok.1 hnamespace, rfl⟩

/-- Every loss is about a raw object, under its position and its reported identifier. -/
theorem Built.Accounts.exists_raw (h : built.Accounts ctx adapter raws refused accepted)
    {q : LossRequest} (hq : q ∈ refused ++ accepted.flatMap (·.requests adapter)) :
    ∃ raw ∈ raws, q.key = raw.key := by
  have hcandidate : ∀ c ∈ candidates raws, ∃ raw ∈ raws, c.key = raw.key := by
    intro c hc
    obtain ⟨raw, hraw, hc⟩ := List.mem_filterMap.1 hc
    exact ⟨raw, hraw, (RawObject.key_of_candidate? hc).symm⟩
  rcases List.mem_append.1 hq with hq | hq
  · have hkey := h.refused_perm.subset (List.mem_map_of_mem hq)
    rcases List.mem_append.1 hkey with hkey | hkey
    · obtain ⟨raw, hraw, heq⟩ := List.mem_map.1 hkey
      exact ⟨raw, (List.mem_filter.1 hraw).1, heq.symm⟩
    · obtain ⟨c, hc, heq⟩ := List.mem_map.1 hkey
      obtain ⟨raw, hraw, hckey⟩ := hcandidate c (List.mem_filter.1 hc).1
      exact ⟨raw, hraw, heq.symm.trans hckey⟩
  · obtain ⟨a, ha, hq⟩ := List.mem_flatMap.1 hq
    obtain ⟨category, -, hq⟩ := List.mem_flatMap.1 hq
    obtain ⟨i, hi, rfl⟩ := List.mem_map.1 hq
    obtain ⟨c, hc, rfl⟩ := List.mem_map.1 ((h.collects a ha).indexes.subset hi)
    obtain ⟨hc, heq⟩ := List.mem_filter.1 hc
    obtain ⟨raw, hraw, hckey⟩ := hcandidate c hc
    refine ⟨raw, hraw, Eq.trans ?_ hckey⟩
    simp only [LossRequest.key, Candidate.key, of_decide_eq_true heq]

/-- The material objects are those that a loss record has been made for. -/
theorem Built.Accounts.material_iff (h : built.Accounts ctx adapter raws refused accepted)
    {namespaceId : RecordId} (hnamespace : uuid ctx.importBatchId = some namespaceId)
    (hinj : Set.InjOn (ImportLibrary.uuid5 namespaceId) (lossNames raws))
    (hindexes : (raws.map RawObject.inputIndex).Nodup) {raw : RawObject} (hraw : raw ∈ raws) :
    raw.inputIndex ∈ built.ledger.materialObjectIndexes ↔
      ∃ loss ∈ built.ledger.losses, loss.IsFor ctx raw := by
  have hmade := mapM_eq_ok.2 h.requested.losses
  rw [h.requested.material]
  constructor
  · rintro ⟨q, hq, hindex⟩
    obtain ⟨loss, hloss, hmake⟩ := mapM_ok_of_mem hmade hq
    obtain ⟨raw', hraw', hkey⟩ := h.exists_raw hq
    obtain ⟨hindex', hid⟩ : q.inputIndex = raw'.inputIndex ∧ q.sourceObjectId = raw'.reportedId :=
      Prod.mk.inj hkey
    obtain rfl := List.inj_on_of_nodup_map hindexes hraw' hraw (hindex'.symm.trans hindex)
    refine ⟨loss, hloss, q.category, ?_⟩
    rwa [← hindex', ← hid]
  · rintro ⟨loss, hloss, category, hmake⟩
    obtain ⟨q, hq, hqmake⟩ := exists_of_mem_mapM hmade hloss
    obtain ⟨raw', hraw', hkey⟩ := h.exists_raw hq
    obtain ⟨hindex, hid⟩ : q.inputIndex = raw'.inputIndex ∧ q.sourceObjectId = raw'.reportedId :=
      Prod.mk.inj hkey
    obtain ⟨_, hn, hname⟩ := lossRecordId_of_make hmake
    cases hnamespace.symm.trans hn
    obtain ⟨_, hn, hname'⟩ := lossRecordId_of_make hqmake
    cases hnamespace.symm.trans hn
    have heq := hinj ⟨raw', hraw', q.category, by rw [hindex, hid]⟩ ⟨raw, hraw, category, rfl⟩
      (hname'.symm.trans hname)
    exact ⟨q, hq, (lossName_inj heq).1⟩

/-! ## The result of staging -/

omit [ImportLibrary] in
theorem makeMappingReport_eq_ok {mappingReportId : RecordId} {batchId generatedAt : Text}
    {totalObjectCount materialLossCount : Nat} {counts : MappingCounts}
    {lossRecordIds : List RecordId} {report : MappingReportRecord}
    (h : makeMappingReport mappingReportId batchId generatedAt totalObjectCount counts
      materialLossCount lossRecordIds = .ok report) :
    report.totalObjectCount = totalObjectCount ∧ report.counts = counts ∧
      report.materialLossCount = materialLossCount ∧ lossRecordIds.Nodup := by
  unfold makeMappingReport at h
  obtain ⟨_, -, h⟩ := bind_eq_ok.1 h
  obtain ⟨_, -, h⟩ := bind_eq_ok.1 h
  obtain ⟨-, h⟩ := check_bind_eq_ok.1 h
  obtain ⟨-, h⟩ := check_bind_eq_ok.1 h
  obtain ⟨-, h⟩ := check_bind_eq_ok.1 h
  obtain ⟨ids, hids, h⟩ := bind_eq_ok.1 h
  obtain ⟨-, h⟩ := check_bind_eq_ok.1 h
  cases pure_eq_ok.1 h
  unfold validateUuidDeclarations at hids
  obtain ⟨-, hids⟩ := check_bind_eq_ok.1 hids
  obtain ⟨hnodup, -⟩ := check_bind_eq_ok.1 hids
  exact ⟨rfl, rfl, rfl, ensure_eq_ok.1 hnodup⟩

/-- What a result is made of. -/
theorem buildStageResult_eq_ok {stager : Stager} {sourceFormat : SourceFormat}
    {formatVersion : Text} {sourceRootHash : Digest} {result : GenericImportStageResult}
    (h : stager.buildStageResult raws sourceFormat formatVersion sourceRootHash ctx = .ok result) :
    ∃ built namespaceId, build ctx stager.adapter raws = .ok built ∧
      uuid ctx.importBatchId = some namespaceId ∧
      result.stagedObjects.Perm built.staged ∧
      result.quarantinedObjects.Perm built.ledger.quarantined ∧
      result.lossRecords.Perm built.ledger.losses ∧
      result.mappingReport.totalObjectCount = raws.length ∧
      result.mappingReport.counts = built.ledger.mappingCounts ∧
      result.mappingReport.materialLossCount = built.ledger.materialObjectIndexes.length ∧
      (result.lossRecords.map PortabilityLossRecord.lossRecordId).Nodup := by
  unfold Stager.buildStageResult at h
  obtain ⟨built, hbuild, h⟩ := bind_eq_ok.1 h
  obtain ⟨namespaceId, hnamespace, h⟩ := bind_eq_ok.1 h
  obtain ⟨report, hreport, h⟩ := bind_eq_ok.1 h
  obtain ⟨batch, -, h⟩ := bind_eq_ok.1 h
  cases pure_eq_ok.1 h
  obtain ⟨htotal, hcounts, hmaterial, hnodup⟩ := makeMappingReport_eq_ok hreport
  exact ⟨built, namespaceId, hbuild, orFail_eq_ok.1 hnamespace, List.perm_insertionSort _ _,
    List.perm_insertionSort _ _, List.perm_insertionSort _ _, htotal, hcounts, hmaterial, hnodup⟩

/-- Every raw object is accounted for once in the result of staging. -/
structure Conserved (raws : List RawObject) (built : Built) (result : GenericImportStageResult) :
    Prop where
  /-- A raw object is an occurrence of one staged object or has one quarantine entry. -/
  once : ∀ raw ∈ raws, result.stagedObjects.countP (fun staged => staged.occurs raw) +
    result.quarantinedObjects.countP (fun q => q.inputIndex == raw.inputIndex) = 1
  total : result.mappingReport.counts.total = raws.length
  staged_nodup : (result.stagedObjects.map StagedSourceObject.sourceObjectId).Nodup
  /-- The material losses are counted by object. -/
  material : result.mappingReport.materialLossCount = built.ledger.materialObjectIndexes.length
  material_nodup : built.ledger.materialObjectIndexes.Nodup
  material_index : ∀ i ∈ built.ledger.materialObjectIndexes, ∃ raw ∈ raws, raw.inputIndex = i
  losses_nodup : (result.lossRecords.map PortabilityLossRecord.lossRecordId).Nodup

theorem conserved_of_buildStageResult {stager : Stager} {sourceFormat : SourceFormat}
    {formatVersion : Text} {sourceRootHash : Digest} {result : GenericImportStageResult}
    (hindexes : (raws.map RawObject.inputIndex).Nodup)
    (h : stager.buildStageResult raws sourceFormat formatVersion sourceRootHash ctx = .ok result) :
    ∃ built namespaceId, build ctx stager.adapter raws = .ok built ∧
      uuid ctx.importBatchId = some namespaceId ∧ Conserved raws built result ∧
      (Set.InjOn (ImportLibrary.uuid5 namespaceId) (lossNames raws) →
        ∀ raw ∈ raws, raw.inputIndex ∈ built.ledger.materialObjectIndexes ↔
          ∃ loss ∈ result.lossRecords, loss.IsFor ctx raw) := by
  obtain ⟨built, namespaceId, hbuild, hnamespace, hstaged, hquarantined, hlosses, htotal, hcounts,
    hmaterial, hnodup⟩ := buildStageResult_eq_ok h
  obtain ⟨refused, accepted, hacc, -⟩ := build_accounts hbuild
  refine ⟨built, namespaceId, hbuild, hnamespace, ?_, fun hinj raw hraw => ?_⟩
  · exact {
      once := fun raw hraw => by
        rw [hstaged.countP_eq, hquarantined.countP_eq, hacc.countP_staged hraw,
          hacc.countP_quarantined hindexes hraw]
        cases raw.candidate? with
        | none => rfl
        | some c => by_cases hc : c.sourceObjectId ∈ sourceIds accepted <;> simp [hc]
      total := by rw [hcounts, hacc.total_eq]
      staged_nodup := by
        rw [(hstaged.map _).nodup_iff, hacc.sourceIds_staged]
        exact hacc.nodup
      material := hmaterial
      material_nodup := hacc.requested.material_nodup
      material_index := fun i hi => by
        obtain ⟨q, hq, rfl⟩ := (hacc.requested.material i).1 hi
        obtain ⟨raw, hraw, hkey⟩ := hacc.exists_raw hq
        exact ⟨raw, hraw, (Prod.mk.inj hkey).1.symm⟩
      losses_nodup := hnodup }
  · rw [hacc.material_iff hnamespace hinj hindexes hraw]
    exact exists_congr fun loss => and_congr_left fun _ => hlosses.symm.mem_iff

omit [PythonLibrary] in
theorem nodup_inputIndexes_of_readText {stager : Stager} {sourceText : Text}
    {sourceFormat : SourceFormat} {formatVersion : Text}
    (h : stager.readText sourceText sourceFormat = .ok (formatVersion, raws)) :
    (raws.map RawObject.inputIndex).Nodup := by
  rw [inputIndexes_of_readText h]
  exact List.nodup_range

/-- Conservation in staging: the raw objects of a source that `stage` returns for are numbered, and
each of them is accounted for once; if different loss names have different identifiers, those
counted as material are those that a loss record has been made for. -/
theorem conservation_of_stage {stager : Stager} {sourceBytes : ByteArray}
    {sourceFormat : SourceFormat} {result : GenericImportStageResult}
    (h : stager.stage sourceBytes sourceFormat ctx = .ok result) :
    ∃ sourceText formatVersion raws built namespaceId,
      stager.readBytes sourceBytes sourceFormat = .ok sourceText ∧
      stager.readText sourceText sourceFormat = .ok (formatVersion, raws) ∧
      raws.map RawObject.inputIndex = List.range raws.length ∧
      build ctx stager.adapter raws = .ok built ∧
      uuid ctx.importBatchId = some namespaceId ∧ Conserved raws built result ∧
      (Set.InjOn (ImportLibrary.uuid5 namespaceId) (lossNames raws) →
        ∀ raw ∈ raws, raw.inputIndex ∈ built.ledger.materialObjectIndexes ↔
          ∃ loss ∈ result.lossRecords, loss.IsFor ctx raw) := by
  obtain ⟨sourceText, hbytes, h⟩ := bind_eq_ok.1 h
  obtain ⟨⟨formatVersion, raws⟩, htext, h⟩ := bind_eq_ok.1 h
  obtain ⟨built, namespaceId, hrest⟩ :=
    conserved_of_buildStageResult (nodup_inputIndexes_of_readText htext) h
  exact ⟨sourceText, formatVersion, raws, built, namespaceId, hbytes, htext,
    inputIndexes_of_readText htext, hrest⟩

end

/-! ## A source with an object of each kind -/

section Runs

attribute [local instance] asciiLibrary standardLibrary

/-- A number, which is not an object, and a conversation. -/
def mixedObjects : Text :=
  "5,\x7b\"source_object_id\":\"a\",\"source_type\":\"conversation\",".toList ++
    "\"parent_source_object_ids\":[],\"payload\":\x7b\x7d\x7d".toList

def mixedSource : ByteArray := encodeUtf8 (jsonSource mixedObjects)

/-- The source is read and staged, and has two objects, the second of which has an identifier. -/
theorem mixedSource_staged :
    genericStager.readBytes mixedSource .json = .ok (jsonSource mixedObjects) ∧
      (genericStager.stage mixedSource .json genericBatch).isOk = true ∧
      ((genericStager.readText (jsonSource mixedObjects) .json).map fun read =>
        read.2.map RawObject.key) = .ok [(0, none), (1, some "a".toList)] := by
  have hbytes : genericStager.readBytes mixedSource .json = .ok (jsonSource mixedObjects) := by
    rw [Stager.readBytes, mixedSource, size_encodeUtf8, decodeUtf8_encodeUtf8]
    decide +kernel
  refine ⟨hbytes, ?_, ?_⟩
  · rw [Stager.stage, hbytes]
    decide +kernel
  · decide +kernel

/-- The causes of loss. -/
def lossCategories : List LossCategory :=
  [.malformedObject, .conflictingDuplicate, .attachmentByteLimit, .unsupportedSourceType,
    .unsupportedBranchRelationship, .cyclicParentRelationship, .missingParentDependency,
    .branchLinearization, .attachmentMetadataOnly]

/-- The loss names of the two objects. -/
def mixedLossNames : List Text :=
  lossCategories.map (lossName 0 · none) ++ lossCategories.map (lossName 1 · (some "a".toList))

/-- The identifiers of the losses, each of which is evaluated by itself. -/
def mixedLossIds : List RecordId := [
  0x2eff389193fa554abd0b2bbec948c32b, 0x89ae40b983c3536cac4de3f6e5b01dce,
  0xe2df267d21035d8187891ab00299a435, 0xfbaa108f9f565bd0bb25a75ab49a2bab,
  0xd66986f1d630592683673ff9df05ba8c, 0xdd8ddcd4b17c5464bb6e4b43f85dc92c,
  0x36fe8590f9c050aa932e0883b5f71a55, 0x2a36f2b9786151c0868d79be3ba7e28a,
  0x2437edd3cfde50f9b006eaf6f92407a4, 0x5ce80176c71d5fcf84d2d46ec28d0c95,
  0x4ad26cbc10d576e860287ee32fdf744, 0x3ab21cd2f5f25cbcb7350800fadb7dc3,
  0x9c71802a8ad95cc3853569356d5e0000, 0x50ff8972390857748202b8d3aaccb655,
  0x7640c84eb3a6594596cc45bcff3c223a, 0x6a458dc4ed532ab98cffea5bbd3d8e,
  0x83943929b9955adc8b60a7eca387a56e, 0x3542839dbd275565b81f2b780b2b7860]

theorem map_mixedLossNames :
    mixedLossNames.map (uuid5 0x22222222222242228222222222222222) = mixedLossIds := by
  iterate 18 refine List.cons_eq_cons.2 ⟨by decide +kernel, ?_⟩
  rfl

theorem nodup_mixedLossNames :
    (mixedLossNames.map (uuid5 0x22222222222242228222222222222222)).Nodup := by
  rw [map_mixedLossNames]
  decide

theorem mem_mixedLossNames {raw : RawObject}
    (h : raw.key ∈ [(0, none), (1, some "a".toList)]) (category : LossCategory) :
    lossName raw.inputIndex category raw.reportedId ∈ mixedLossNames := by
  have hcategory : ∃ category' ∈ lossCategories, category'.text = category.text := by
    cases category <;> decide
  obtain ⟨category', hmem, htext⟩ := hcategory
  have hname : lossName raw.inputIndex category raw.reportedId =
      lossName raw.key.1 category' raw.key.2 := by
    unfold lossName
    rw [htext]
    rfl
  rw [hname]
  rcases List.mem_cons.1 h with heq | h
  · rw [heq]
    exact List.mem_append_left _ (List.mem_map_of_mem (f := (lossName 0 · none)) hmem)
  · rw [List.mem_singleton.1 h]
    exact List.mem_append_right _
      (List.mem_map_of_mem (f := (lossName 1 · (some "a".toList))) hmem)

/-- The names of the losses of the two objects are kept apart. -/
theorem injOn_lossNames_mixedSource {sourceText formatVersion : Text} {raws : List RawObject}
    {namespaceId : RecordId}
    (hbytes : genericStager.readBytes mixedSource .json = .ok sourceText)
    (htext : genericStager.readText sourceText .json = .ok (formatVersion, raws))
    (hnamespace : uuid genericBatch.importBatchId = some namespaceId) :
    Set.InjOn (uuid5 namespaceId) (lossNames raws) := by
  cases hbytes.symm.trans mixedSource_staged.1
  have hbatch : uuid genericBatch.importBatchId = some 0x22222222222242228222222222222222 := by
    decide +kernel
  cases hnamespace.symm.trans hbatch
  have hkeys : raws.map RawObject.key = [(0, none), (1, some "a".toList)] := by
    have h := mixedSource_staged.2.2
    rw [htext] at h
    exact Except.ok.inj h
  rintro _ ⟨raw, hraw, category, rfl⟩ _ ⟨raw', hraw', category', rfl⟩
  exact List.inj_on_of_nodup_map nodup_mixedLossNames
    (mem_mixedLossNames (hkeys ▸ List.mem_map_of_mem hraw) category)
    (mem_mixedLossNames (hkeys ▸ List.mem_map_of_mem hraw') category')

theorem conservation_of_stage_mixedSource :
    ∃ result formatVersion raws built,
      genericStager.stage mixedSource .json genericBatch = .ok result ∧
      genericStager.readText (jsonSource mixedObjects) .json = .ok (formatVersion, raws) ∧
      build genericBatch genericAdapter raws = .ok built ∧ Conserved raws built result ∧
      ∀ raw ∈ raws, raw.inputIndex ∈ built.ledger.materialObjectIndexes ↔
        ∃ loss ∈ result.lossRecords, loss.IsFor genericBatch raw := by
  obtain ⟨result, hresult⟩ := exists_of_isOk mixedSource_staged.2.1
  obtain ⟨sourceText, formatVersion, raws, built, namespaceId, hbytes, htext, -, hbuild, hnamespace,
    hconserved, hmaterial⟩ := conservation_of_stage hresult
  have hinj := injOn_lossNames_mixedSource hbytes htext hnamespace
  cases hbytes.symm.trans mixedSource_staged.1
  exact ⟨result, formatVersion, raws, built, hresult, htext, hbuild, hconserved, hmaterial hinj⟩

end Runs

end DollState.Import
