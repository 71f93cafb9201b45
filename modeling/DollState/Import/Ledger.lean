import Mathlib.Data.List.Dedup
import DollState.Import.Stage

/-!
# The accounts of a staged batch

What the passes of `_build_stage_result` do to the accumulators they share. Every pass refuses
whole groups of occurrences and asks for one loss record for each occurrence it refuses; the
invariant `Settled` says that the occurrences refused so far are those of the raw objects without
a candidate and of the identifiers that have been looked at and are not accepted. The passes after
the first preserve it, one identifier at a time, and `build_accounts` is what is left at the end.
-/

namespace DollState.Import

open StateLib

/-! ## Losses -/

/-- A loss record to be made. -/
structure LossRequest where
  inputIndex : Nat
  category : LossCategory
  sourceObjectId : Option Text

/-- The object a loss is about: its position and the identifier it is reported under. -/
def LossRequest.key (q : LossRequest) : Nat × Option Text := (q.inputIndex, q.sourceObjectId)

def QuarantinedSourceObject.key (q : QuarantinedSourceObject) : Nat × Option Text :=
  (q.inputIndex, q.sourceObjectId)

def Candidate.key (c : Candidate) : Nat × Option Text := (c.inputIndex, some c.sourceObjectId)

section

variable [PythonLibrary] [ImportLibrary] {ctx : BatchContext} {adapter : SourceAdapterContract}

/-- The loss record of a request. -/
def LossRequest.make (ctx : BatchContext) (q : LossRequest) : Staged PortabilityLossRecord :=
  makeLoss ctx.importBatchId q.inputIndex ctx.startedAt q.category q.sourceObjectId

/-- The loss records of a ledger are those of `requests`, and the objects of these are material. -/
structure Ledger.Requested (ctx : BatchContext) (ledger : Ledger) (requests : List LossRequest) :
    Prop where
  losses : List.Forall₂ (fun q loss => q.make ctx = .ok loss) requests ledger.losses
  material_nodup : ledger.materialObjectIndexes.Nodup
  material : ∀ i, i ∈ ledger.materialObjectIndexes ↔ ∃ q ∈ requests, q.inputIndex = i

/-- Everything in a ledger comes from the refusals of `refused`. -/
structure Ledger.Tally (ctx : BatchContext) (ledger : Ledger) (refused : List LossRequest) : Prop
    extends Ledger.Requested ctx ledger refused where
  quarantined : ledger.quarantined.map QuarantinedSourceObject.key = refused.map LossRequest.key
  total : ledger.mappingCounts.total = refused.length

theorem Ledger.tally_empty : Ledger.empty.Tally ctx [] where
  losses := .nil
  material_nodup := List.nodup_nil
  material := by simp [Ledger.empty]
  quarantined := rfl
  total := rfl

theorem Ledger.lose_eq_ok {category : LossCategory} {sourceObjectId : Option Text}
    {ledger ledger' : Ledger} {inputIndex : Nat} :
    Ledger.lose ctx category sourceObjectId ledger inputIndex = .ok ledger' ↔
      ∃ loss, LossRequest.make ctx ⟨inputIndex, category, sourceObjectId⟩ = .ok loss ∧
        ledger' = { ledger with
          losses := ledger.losses ++ [loss]
          materialObjectIndexes := ledger.materialObjectIndexes.insert inputIndex } := by
  rw [Ledger.lose, bind_eq_ok]
  simp only [pure_eq_ok, LossRequest.make, eq_comm (a := ledger')]

theorem Ledger.Requested.lose {category : LossCategory} {sourceObjectId : Option Text}
    {ledger ledger' : Ledger} {inputIndex : Nat} {requests : List LossRequest}
    (hreq : ledger.Requested ctx requests)
    (h : Ledger.lose ctx category sourceObjectId ledger inputIndex = .ok ledger') :
    ledger'.Requested ctx (requests ++ [⟨inputIndex, category, sourceObjectId⟩]) ∧
      ledger'.quarantined = ledger.quarantined ∧ ledger'.mappingCounts = ledger.mappingCounts := by
  obtain ⟨loss, hloss, rfl⟩ := Ledger.lose_eq_ok.1 h
  refine ⟨⟨List.rel_append hreq.losses (.cons hloss .nil), hreq.material_nodup.insert, ?_⟩,
    rfl, rfl⟩
  intro i
  simp only [List.mem_insert_iff, hreq.material i, List.mem_append, List.mem_singleton, or_and_right,
    exists_or, exists_eq_left]
  rw [or_comm, eq_comm]

theorem Ledger.Requested.foldlM_lose {category : LossCategory} {sourceObjectId : Option Text}
    {ledger ledger' : Ledger} {indexes : List Nat} {requests : List LossRequest}
    (hreq : ledger.Requested ctx requests)
    (h : indexes.foldlM (Ledger.lose ctx category sourceObjectId) ledger = .ok ledger') :
    ledger'.Requested ctx (requests ++ indexes.map fun i => ⟨i, category, sourceObjectId⟩) ∧
      ledger'.quarantined = ledger.quarantined ∧ ledger'.mappingCounts = ledger.mappingCounts := by
  refine foldlM_induction (fun done l =>
    l.Requested ctx (requests ++ done.map fun i => ⟨i, category, sourceObjectId⟩) ∧
      l.quarantined = ledger.quarantined ∧ l.mappingCounts = ledger.mappingCounts)
    ⟨by simpa using hreq, rfl, rfl⟩ ?_ h
  rintro done i rest l l' - ⟨hl, hq, hc⟩ hlose
  obtain ⟨hl', hq', hc'⟩ := hl.lose hlose
  rw [List.map_append, ← List.append_assoc]
  exact ⟨hl', hq'.trans hq, hc'.trans hc⟩

theorem Ledger.Tally.quarantine {refusal : Refusal} {sourceObjectId : Option Text}
    {ledger ledger' : Ledger} {occurrence : Nat × Digest} {refused : List LossRequest}
    (hled : ledger.Tally ctx refused)
    (h : ledger.quarantine ctx refusal sourceObjectId occurrence = .ok ledger') :
    ledger'.Tally ctx (refused ++ [⟨occurrence.1, refusal.category, sourceObjectId⟩]) := by
  have hentered : Ledger.Requested ctx { ledger with
      quarantined := ledger.quarantined ++
        [⟨occurrence.1, sourceObjectId, occurrence.2, refusal.reason⟩]
      mappingCounts := ledger.mappingCounts.add refusal.status 1 } refused :=
    ⟨hled.losses, hled.material_nodup, hled.material⟩
  obtain ⟨hreq, hq, hc⟩ := hentered.lose h
  exact {
    toRequested := hreq
    quarantined := by
      simp only [hq, List.map_append, hled.quarantined]
      rfl
    total := by
      rw [hc, MappingCounts.total_add, hled.total, List.length_append]
      rfl }

/-- The refusal of several occurrences. -/
theorem Ledger.Tally.foldlM_quarantine {ι : Type} {refusal : Refusal}
    {sourceObjectId : ι → Option Text} {occurrence : ι → Nat × Digest} {ledger ledger' : Ledger}
    {items : List ι} {refused : List LossRequest} (hled : ledger.Tally ctx refused)
    (h : items.foldlM (fun ledger item =>
      ledger.quarantine ctx refusal (sourceObjectId item) (occurrence item)) ledger = .ok ledger') :
    ledger'.Tally ctx (refused ++ items.map fun item =>
      ⟨(occurrence item).1, refusal.category, sourceObjectId item⟩) := by
  refine foldlM_induction (fun done l => l.Tally ctx (refused ++ done.map fun item =>
    ⟨(occurrence item).1, refusal.category, sourceObjectId item⟩)) (by simpa using hled) ?_ h
  intro done item rest l l' _ hl hquarantine
  rw [List.map_append, ← List.append_assoc]
  exact hl.quarantine hquarantine

/-! ## Raw objects and their candidates -/

/-- The candidate of a raw object that has one. -/
def RawObject.candidate? (raw : RawObject) : Option Candidate :=
  match raw.parseReason with
  | some _ => none
  | none => (parseCandidate raw).toOption

/-- The identifier under which a raw object is reported. -/
def RawObject.reportedId (raw : RawObject) : Option Text :=
  match raw.parseReason with
  | some _ => none
  | none =>
    match parseCandidate raw with
    | .ok candidate => some candidate.sourceObjectId
    | .error problem => problem.sourceObjectId

def RawObject.key (raw : RawObject) : Nat × Option Text := (raw.inputIndex, raw.reportedId)

def candidates (raws : List RawObject) : List Candidate := raws.filterMap RawObject.candidate?

/-- The raw objects without a candidate. -/
def problems (raws : List RawObject) : List RawObject :=
  raws.filter fun raw => raw.candidate? = none

theorem parseCandidate_inputIndex {raw : RawObject} {c : Candidate}
    (h : parseCandidate raw = .ok c) : c.inputIndex = raw.inputIndex := by
  unfold parseCandidate at h
  split at h
  · simp only [bind_eq_ok] at h
    obtain ⟨_, -, _, -, _, -, _, -, _, -, h⟩ := h
    split at h
    · rw [← pure_eq_ok.1 h]
    · cases h
  · cases h

theorem RawObject.candidate?_eq_some {raw : RawObject} {c : Candidate} :
    raw.candidate? = some c ↔ raw.parseReason = none ∧ parseCandidate raw = .ok c := by
  unfold RawObject.candidate?
  cases raw.parseReason with
  | some reason => simp
  | none => cases parseCandidate raw <;> simp [Except.toOption]

theorem RawObject.key_of_candidate? {raw : RawObject} {c : Candidate}
    (h : raw.candidate? = some c) : raw.key = c.key := by
  obtain ⟨hreason, hparse⟩ := RawObject.candidate?_eq_some.1 h
  simp only [RawObject.key, RawObject.reportedId, hreason, hparse, Candidate.key,
    parseCandidate_inputIndex hparse]

/-- What the first loop does with a raw object. -/
theorem stageRaw_cases (ctx : BatchContext) (ledger : Ledger) (parsed : List Candidate)
    (raw : RawObject) :
    (∃ c, raw.candidate? = some c ∧
      stageRaw ctx (ledger, parsed) raw = .ok (ledger, parsed ++ [c])) ∨
    (raw.candidate? = none ∧ ∃ refusal, stageRaw ctx (ledger, parsed) raw =
      (ledger.quarantine ctx refusal raw.reportedId (raw.inputIndex, raw.sourceHash) >>=
        fun ledger => .ok (ledger, parsed))) := by
  unfold stageRaw RawObject.candidate? RawObject.reportedId
  cases raw.parseReason with
  | some reason => exact .inr ⟨rfl, _, rfl⟩
  | none =>
    cases parseCandidate raw with
    | ok c => exact .inl ⟨c, rfl, rfl⟩
    | error problem => exact .inr ⟨rfl, _, rfl⟩

/-- The first loop. -/
theorem tally_of_stageRaw {raws : List RawObject} {ledger : Ledger} {parsed : List Candidate}
    (h : raws.foldlM (stageRaw ctx) (Ledger.empty, []) = .ok (ledger, parsed)) :
    parsed = candidates raws ∧ ∃ refused, ledger.Tally ctx refused ∧
      refused.map LossRequest.key = (problems raws).map RawObject.key := by
  refine foldlM_induction (fun done (state : Ledger × List Candidate) =>
    state.2 = candidates done ∧ ∃ refused, state.1.Tally ctx refused ∧
      refused.map LossRequest.key = (problems done).map RawObject.key)
    ⟨rfl, [], Ledger.tally_empty, rfl⟩ ?_ h
  rintro done raw rest ⟨l, ps⟩ ⟨l', ps'⟩ - ⟨rfl, refused, hl, hkeys⟩ hraw
  obtain ⟨c, hc, heq⟩ | ⟨hc, refusal, heq⟩ := stageRaw_cases ctx l (candidates done) raw
  · rw [heq] at hraw
    cases hraw
    refine ⟨by simp [candidates, hc], refused, hl, ?_⟩
    rw [hkeys]
    simp [problems, hc]
  · rw [heq] at hraw
    obtain ⟨l₁, hquarantine, hraw⟩ := bind_eq_ok.1 hraw
    cases hraw
    refine ⟨by simp [candidates, hc], _, hl.quarantine hquarantine, ?_⟩
    rw [List.map_append, hkeys]
    simp [problems, hc, LossRequest.key, RawObject.key]

/-! ## Accepted objects -/

/-- The source identifiers of accepted objects. -/
def sourceIds (accepted : List AcceptedObject) : List Text :=
  accepted.map AcceptedObject.sourceObjectId

/-- An accepted object stands for all the candidates with its identifier. -/
structure AcceptedObject.Collects (found : List Candidate) (a : AcceptedObject) : Prop where
  candidate_mem : a.candidate ∈ found
  indexes : a.indexes.Perm
    ((found.filter fun c => c.sourceObjectId = a.sourceObjectId).map Candidate.inputIndex)
  sourceHash : ∀ c ∈ found, c.sourceObjectId = a.sourceObjectId →
    c.sourceHash = a.candidate.sourceHash

/-- The candidates whose identifier has been looked at and is not accepted. -/
def closed (found : List Candidate) (looked ids : List Text) : List Candidate :=
  found.filter fun c => c.sourceObjectId ∈ looked ∧ c.sourceObjectId ∉ ids

/-- Between two steps of the passes, after the identifiers of `looked` have been looked at. -/
structure Settled (ctx : BatchContext) (raws : List RawObject) (looked : List Text)
    (ledger : Ledger) (accepted : List AcceptedObject) : Prop where
  tally : ∃ refused, ledger.Tally ctx refused ∧ (refused.map LossRequest.key).Perm
    ((problems raws).map RawObject.key ++
      (closed (candidates raws) looked (sourceIds accepted)).map Candidate.key)
  collects : ∀ a ∈ accepted, a.Collects (candidates raws)
  nodup : (sourceIds accepted).Nodup
  looked_at : ∀ id ∈ sourceIds accepted, id ∈ looked

omit [PythonLibrary] [ImportLibrary] in
theorem filter_or_perm {α : Type} {p q : α → Prop} [DecidablePred p] [DecidablePred q] {l : List α}
    (hpq : ∀ x ∈ l, p x → ¬ q x) :
    (l.filter fun x => p x ∨ q x).Perm (l.filter (fun x => p x) ++ l.filter fun x => q x) := by
  refine (List.filter_append_perm (fun x => p x) _).symm.trans (List.Perm.of_eq ?_)
  rw [List.filter_filter, List.filter_filter]
  congr 1 <;> refine List.filter_congr fun x hx => ?_
  · by_cases hp : p x <;> simp [hp]
  · have := hpq x hx
    by_cases hp : p x <;> simp_all

omit [PythonLibrary] [ImportLibrary] in
/-- One more identifier is closed. -/
theorem closed_perm {found : List Candidate} {looked looked' ids ids' : List Text}
    {sourceObjectId : Text} (hold : ¬ (sourceObjectId ∈ looked ∧ sourceObjectId ∉ ids))
    (hnew : ∀ id, (id ∈ looked' ∧ id ∉ ids') ↔
      (id ∈ looked ∧ id ∉ ids) ∨ id = sourceObjectId) :
    (closed found looked' ids').Perm (closed found looked ids ++
      found.filter fun c => c.sourceObjectId = sourceObjectId) := by
  refine List.Perm.trans (List.Perm.of_eq ?_) (filter_or_perm ?_)
  · unfold closed
    refine List.filter_congr fun c _ => ?_
    simp only [hnew]
  · rintro c - hc rfl
    exact hold hc

/-- Refusing all the occurrences of one identifier. -/
theorem Settled.close {raws : List RawObject} {looked looked' : List Text} {ledger ledger' : Ledger}
    {accepted accepted' : List AcceptedObject} {sourceObjectId : Text}
    {requests : List LossRequest} (h : Settled ctx raws looked ledger accepted)
    (hold : ¬ (sourceObjectId ∈ looked ∧ sourceObjectId ∉ sourceIds accepted))
    (hnew : ∀ id, (id ∈ looked' ∧ id ∉ sourceIds accepted') ↔
      (id ∈ looked ∧ id ∉ sourceIds accepted) ∨ id = sourceObjectId)
    (hsub : accepted'.Sublist accepted) (hlooked : ∀ id ∈ sourceIds accepted', id ∈ looked')
    (hledger : ∀ refused, ledger.Tally ctx refused → ledger'.Tally ctx (refused ++ requests))
    (hrequests : (requests.map LossRequest.key).Perm
      (((candidates raws).filter fun c => c.sourceObjectId = sourceObjectId).map Candidate.key)) :
    Settled ctx raws looked' ledger' accepted' := by
  obtain ⟨refused, htally, hperm⟩ := h.tally
  refine ⟨⟨refused ++ requests, hledger refused htally, ?_⟩,
    fun a ha => h.collects a (hsub.subset ha), h.nodup.sublist (hsub.map _), hlooked⟩
  have hclosed : ((closed (candidates raws) looked' (sourceIds accepted')).map Candidate.key).Perm _ :=
    (closed_perm hold hnew).map _
  rw [List.map_append] at hclosed ⊢
  calc (refused.map LossRequest.key ++ requests.map LossRequest.key).Perm _ :=
        hperm.append hrequests
    _ = _ := List.append_assoc _ _ _
    _ |>.Perm _ := List.Perm.append_left _ hclosed.symm

theorem Settled.accept {raws : List RawObject} {looked : List Text} {ledger : Ledger}
    {accepted : List AcceptedObject} {a : AcceptedObject}
    (h : Settled ctx raws looked ledger accepted) (hnew : a.sourceObjectId ∉ looked)
    (hcollects : a.Collects (candidates raws)) :
    Settled ctx raws (looked ++ [a.sourceObjectId]) ledger (accepted ++ [a]) where
  tally := by
    obtain ⟨refused, htally, hperm⟩ := h.tally
    refine ⟨refused, htally, hperm.trans (List.Perm.of_eq ?_)⟩
    congr 2
    unfold closed
    refine List.filter_congr fun c _ => decide_eq_decide.2 ?_
    simp only [sourceIds, List.map_append, List.map_cons, List.map_nil, List.mem_append,
      List.mem_singleton]
    constructor
    · rintro ⟨hlooked, hids⟩
      exact ⟨.inl hlooked, not_or.2 ⟨hids, fun heq => hnew (heq ▸ hlooked)⟩⟩
    · rintro ⟨hlooked | heq, hids⟩
      · exact ⟨hlooked, fun hmem => hids (.inl hmem)⟩
      · exact absurd (.inr heq) hids
  collects a' ha' := by
    rcases List.mem_append.1 ha' with ha' | ha'
    · exact h.collects a' ha'
    · rwa [List.mem_singleton.1 ha']
  nodup := by
    rw [sourceIds, List.map_append, List.nodup_append']
    exact ⟨h.nodup, List.nodup_singleton _,
      List.disjoint_singleton.2 fun hmem => hnew (h.looked_at _ hmem)⟩
  looked_at := by
    simp only [sourceIds, List.map_append, List.mem_append]
    exact fun id hid => hid.imp_left (h.looked_at id)

/-! ## Duplicates and support -/

omit [PythonLibrary] [ImportLibrary] in
theorem sourceObjectId_of_minOn? {found : List Candidate} {sourceObjectId : Text} {c : Candidate}
    (h : (found.filter fun item => item.sourceObjectId = sourceObjectId).minOn?
      Candidate.inputIndex = some c) : c ∈ found ∧ c.sourceObjectId = sourceObjectId := by
  have hmem := List.minOn?_mem h
  simpa using hmem

omit [PythonLibrary] [ImportLibrary] in
theorem eq_nil_of_minOn?_eq_none {group : List Candidate}
    (h : group.minOn? Candidate.inputIndex = none) : group = [] := by
  cases group with
  | nil => rfl
  | cons c group =>
    rw [List.minOn?_cons_eq_some_minOn] at h
    cases h

omit [PythonLibrary] [ImportLibrary] in
/-- A group that is not refused has one content. -/
theorem sourceHash_of_groupRefusal {group : List Candidate} {representative c : Candidate}
    (h : groupRefusal adapter group representative = none) (hc : c ∈ group) :
    c.sourceHash = representative.sourceHash := by
  by_contra hne
  rw [groupRefusal, if_pos ⟨c, hc, hne⟩] at h
  cases h

/-- What classification does with the occurrences of one identifier. -/
theorem classifyGroup_settled {raws : List RawObject} {looked : List Text} {state state' : Classified}
    {sourceObjectId : Text} (h : Settled ctx raws looked state.ledger state.accepted)
    (hnew : sourceObjectId ∉ looked)
    (hgroup : classifyGroup ctx adapter (candidates raws) state sourceObjectId = .ok state') :
    Settled ctx raws (looked ++ [sourceObjectId]) state'.ledger state'.accepted := by
  have hids : sourceObjectId ∉ sourceIds state.accepted := fun hid => hnew (h.looked_at _ hid)
  have hlooked : ∀ id, (id ∈ looked ++ [sourceObjectId] ∧ id ∉ sourceIds state.accepted) ↔
      (id ∈ looked ∧ id ∉ sourceIds state.accepted) ∨ id = sourceObjectId := by
    intro id
    rw [List.mem_append, List.mem_singleton, or_and_right]
    exact or_congr_right ⟨And.left, fun heq => ⟨heq, heq ▸ hids⟩⟩
  have hstill : ∀ id ∈ sourceIds state.accepted, id ∈ looked ++ [sourceObjectId] :=
    fun id hid => List.mem_append_left _ (h.looked_at id hid)
  simp only [classifyGroup] at hgroup
  split at hgroup
  case h_1 hnone =>
    cases hgroup
    have hempty := eq_nil_of_minOn?_eq_none hnone
    exact h.close (fun ⟨hl, _⟩ => hnew hl) hlooked (List.Sublist.refl _) hstill
      (fun refused hr => by rwa [List.append_nil refused]) (by rw [hempty]; rfl)
  case h_2 representative hsome =>
    obtain ⟨hmem, rfl⟩ := sourceObjectId_of_minOn? hsome
    split at hgroup
    case h_1 refusal _ =>
      obtain ⟨ledger, hfold, hgroup⟩ := bind_eq_ok.1 hgroup
      cases hgroup
      refine h.close (fun ⟨hl, _⟩ => hnew hl) hlooked (List.Sublist.refl _) hstill
        (fun refused hr => hr.foldlM_quarantine hfold) (List.Perm.of_eq ?_)
      rw [List.map_map]
      rfl
    case h_2 hrefusal =>
      cases hgroup
      exact Settled.accept (a := ⟨representative, _⟩) h hnew
        ⟨hmem, List.perm_insertionSort _ _, fun c hc heq =>
          sourceHash_of_groupRefusal hrefusal (List.mem_filter.2 ⟨hc, decide_eq_true heq⟩)⟩

theorem settled_of_classify {raws : List RawObject} {ledger : Ledger} {state : Classified}
    {refused : List LossRequest} (hledger : ledger.Tally ctx refused)
    (hrefused : refused.map LossRequest.key = (problems raws).map RawObject.key)
    (h : classifyDuplicatesAndSupport ctx adapter (candidates raws) ledger = .ok state) :
    Settled ctx raws
      (((candidates raws).map Candidate.sourceObjectId).dedup.insertionSort (· ≤ ·))
      state.ledger state.accepted := by
  refine foldlM_induction
    (fun looked (state : Classified) => Settled ctx raws looked state.ledger state.accepted)
    ⟨⟨refused, hledger, ?_⟩, by simp, by simp [sourceIds], by simp [sourceIds]⟩ ?_ h
  · rw [hrefused, closed]
    simp
  · intro looked id rest state state' hids hsettled hgroup
    refine classifyGroup_settled hsettled ?_ hgroup
    have hnodup := (List.perm_insertionSort (· ≤ ·) _).nodup_iff.2
      (List.nodup_dedup ((candidates raws).map Candidate.sourceObjectId))
    rw [hids] at hnodup
    exact fun hmem => List.disjoint_of_nodup_append hnodup hmem List.mem_cons_self

/-- The accepted object of an identifier, if its occurrences are not refused. -/
def acceptedGroup (adapter : SourceAdapterContract) (found : List Candidate)
    (sourceObjectId : Text) : Option AcceptedObject :=
  let group := found.filter fun item => item.sourceObjectId = sourceObjectId
  match group.minOn? Candidate.inputIndex with
  | none => none
  | some representative =>
    match groupRefusal adapter group representative with
    | some _ => none
    | none => some ⟨representative, (group.map Candidate.inputIndex).insertionSort (· ≤ ·)⟩

/-- What classification accepts. -/
def acceptedGroups (adapter : SourceAdapterContract) (found : List Candidate) :
    List AcceptedObject :=
  ((found.map Candidate.sourceObjectId).dedup.insertionSort (· ≤ ·)).filterMap
    (acceptedGroup adapter found)

theorem accepted_of_classifyGroup {found : List Candidate} {state state' : Classified}
    {sourceObjectId : Text} (h : classifyGroup ctx adapter found state sourceObjectId = .ok state') :
    state'.accepted = state.accepted ++ (acceptedGroup adapter found sourceObjectId).toList := by
  simp only [classifyGroup] at h
  unfold acceptedGroup
  split at h
  case h_1 hnone =>
    cases h
    simp [hnone]
  case h_2 representative hsome =>
    simp only [hsome]
    split at h
    case h_1 refusal hrefusal =>
      obtain ⟨ledger, -, h⟩ := bind_eq_ok.1 h
      cases h
      simp [hrefusal]
    case h_2 hrefusal =>
      cases h
      simp [hrefusal]

theorem accepted_of_classify {found : List Candidate} {ledger : Ledger} {state : Classified}
    (h : classifyDuplicatesAndSupport ctx adapter found ledger = .ok state) :
    state.accepted = acceptedGroups adapter found := by
  refine foldlM_induction (fun looked (state : Classified) =>
    state.accepted = looked.filterMap (acceptedGroup adapter found)) rfl ?_ h
  intro looked id rest state state' _ hstate hgroup
  rw [accepted_of_classifyGroup hgroup, hstate, List.filterMap_append]
  cases hid : acceptedGroup adapter found id <;> simp [hid]

/-! ## Cycles and missing parents -/

theorem expel_eq_ok {refusal : Refusal} {ledger : Ledger} {accepted : List AcceptedObject}
    {sourceObjectId : Text} {state : Ledger × List AcceptedObject} :
    expel ctx refusal (ledger, accepted) sourceObjectId = .ok state ↔
      ∃ a, (accepted.find? fun a => a.sourceObjectId = sourceObjectId) = some a ∧
        ∃ ledger', a.indexes.foldlM (fun ledger inputIndex =>
            Ledger.quarantine ctx refusal (some a.sourceObjectId) ledger
              (inputIndex, a.candidate.sourceHash)) ledger = .ok ledger' ∧
          state = (ledger', accepted.filter fun b => b.sourceObjectId ≠ sourceObjectId) := by
  simp only [expel, bind_eq_ok, orFail_eq_ok, pure_eq_ok, eq_comm (a := state)]

omit [PythonLibrary] [ImportLibrary] in
theorem mem_sourceIds_filter {accepted : List AcceptedObject} {sourceObjectId id : Text} :
    id ∈ sourceIds (accepted.filter fun b => b.sourceObjectId ≠ sourceObjectId) ↔
      id ∈ sourceIds accepted ∧ id ≠ sourceObjectId := by
  simp only [sourceIds, List.mem_map, List.mem_filter, decide_eq_true_eq]
  constructor
  · rintro ⟨b, ⟨hb, hne⟩, rfl⟩
    exact ⟨⟨b, hb, rfl⟩, hne⟩
  · rintro ⟨⟨b, hb, rfl⟩, hne⟩
    exact ⟨b, ⟨hb, hne⟩, rfl⟩

theorem expel_settled {raws : List RawObject} {looked : List Text} {refusal : Refusal}
    {state state' : Ledger × List AcceptedObject} {sourceObjectId : Text}
    (h : Settled ctx raws looked state.1 state.2)
    (hexpel : expel ctx refusal state sourceObjectId = .ok state') :
    Settled ctx raws looked state'.1 state'.2 := by
  obtain ⟨a, hfind, ledger, hfold, rfl⟩ := expel_eq_ok.1 hexpel
  obtain ⟨ha, rfl⟩ : a ∈ state.2 ∧ a.sourceObjectId = sourceObjectId :=
    ⟨List.mem_of_find?_eq_some hfind, by simpa using List.find?_some hfind⟩
  have hid : a.sourceObjectId ∈ sourceIds state.2 := List.mem_map_of_mem ha
  refine h.close (fun hout => hout.2 hid) (fun id => ?_) List.filter_sublist
    (fun id hid => h.looked_at id (mem_sourceIds_filter.1 hid).1)
    (fun refused hr => hr.foldlM_quarantine hfold) ?_
  · rw [mem_sourceIds_filter, not_and_or, not_not, and_or_left]
    exact or_congr_right ⟨And.right, fun heq => ⟨heq ▸ h.looked_at _ hid, heq⟩⟩
  · have hindexes := (h.collects a ha).indexes.map fun i => (i, some a.sourceObjectId)
    rw [List.map_map] at hindexes ⊢
    refine hindexes.trans (List.Perm.of_eq (List.map_congr_left fun c hc => ?_))
    simp only [Function.comp_apply, Candidate.key]
    rw [of_decide_eq_true (List.mem_filter.1 hc).2]

theorem Settled.foldlM_expel {raws : List RawObject} {looked : List Text} {refusal : Refusal}
    {state state' : Ledger × List AcceptedObject} {ids : List Text}
    (h : Settled ctx raws looked state.1 state.2)
    (hexpel : ids.foldlM (expel ctx refusal) state = .ok state') :
    Settled ctx raws looked state'.1 state'.2 :=
  foldlM_induction (fun _ state => Settled ctx raws looked state.1 state.2) h
    (fun _ _ _ _ _ _ hs hx => expel_settled hs hx) hexpel

theorem quarantineMissing_settled {raws : List RawObject} {looked : List Text} {rounds : Nat}
    {state state' : Ledger × List AcceptedObject} (h : Settled ctx raws looked state.1 state.2)
    (hrun : quarantineMissing ctx rounds state = .ok state') :
    Settled ctx raws looked state'.1 state'.2 := by
  induction rounds generalizing state with
  | zero =>
    cases hrun
    exact h
  | succ rounds ih =>
    simp only [quarantineMissing] at hrun
    split at hrun
    · cases hrun
      exact h
    · obtain ⟨next, hnext, hrun⟩ := bind_eq_ok.1 hrun
      exact ih (h.foldlM_expel hnext) hrun

theorem quarantineCyclesAndMissingDependencies_settled {raws : List RawObject} {looked : List Text}
    {state state' : Ledger × List AcceptedObject} (h : Settled ctx raws looked state.1 state.2)
    (hrun : quarantineCyclesAndMissingDependencies ctx state = .ok state') :
    Settled ctx raws looked state'.1 state'.2 := by
  obtain ⟨cycleIds, -, hrun⟩ := bind_eq_ok.1 hrun
  obtain ⟨next, hnext, hrun⟩ := bind_eq_ok.1 hrun
  exact quarantineMissing_settled (h.foldlM_expel hnext) hrun

/-! ## The result -/

/-- The staged object of an accepted one. -/
def AcceptedObject.staged (adapter : SourceAdapterContract) (a : AcceptedObject) :
    StagedSourceObject where
  sourceObjectId := a.candidate.sourceObjectId
  sourceType := a.candidate.sourceType
  parentSourceObjectIds := a.candidate.parentSourceObjectIds
  sourceHash := a.candidate.sourceHash
  payloadJson := a.candidate.payloadJson
  mappingStatus :=
    if declaredLosses adapter a.candidate ≠ [] then .mappedWithTransformation
    else .mappedWithoutKnownLoss

/-- The losses of an accepted object: one for each occurrence and each cause. -/
def AcceptedObject.requests (adapter : SourceAdapterContract) (a : AcceptedObject) :
    List LossRequest :=
  (declaredLosses adapter a.candidate).flatMap fun category =>
    a.indexes.map fun i => ⟨i, category, some a.sourceObjectId⟩

theorem stageAccepted_requested {ledger : Ledger} {staged : List StagedSourceObject}
    {a : AcceptedObject} {state : Ledger × List StagedSourceObject} {requests : List LossRequest}
    (hreq : ledger.Requested ctx requests)
    (h : stageAccepted ctx adapter (ledger, staged) a = .ok state) :
    state.1.Requested ctx (requests ++ a.requests adapter) ∧
      state.1.quarantined = ledger.quarantined ∧
      state.1.mappingCounts.total = ledger.mappingCounts.total + a.indexes.length ∧
      state.2 = staged ++ [a.staged adapter] := by
  obtain ⟨ledger', hfold, h⟩ := bind_eq_ok.1 h
  cases h
  obtain ⟨hreq', hq, hc⟩ := foldlM_induction (fun done (l : Ledger) =>
      l.Requested ctx (requests ++ done.flatMap fun category =>
        a.indexes.map fun i => ⟨i, category, some a.sourceObjectId⟩) ∧
        l.quarantined = ledger.quarantined ∧ l.mappingCounts = ledger.mappingCounts)
    ⟨by simpa using hreq, rfl, rfl⟩
    (fun done category rest l l' _ ⟨hl, hq, hc⟩ hfold => by
      obtain ⟨hl', hq', hc'⟩ := hl.foldlM_lose hfold
      rw [List.flatMap_append, List.flatMap_singleton, ← List.append_assoc]
      exact ⟨hl', hq'.trans hq, hc'.trans hc⟩) hfold
  exact ⟨⟨hreq'.losses, hreq'.material_nodup, hreq'.material⟩, hq,
    by rw [MappingCounts.total_add, hc], rfl⟩

/-- What the passes leave: the refusals and the accepted objects they come from. -/
structure Built.Accounts (ctx : BatchContext) (adapter : SourceAdapterContract)
    (raws : List RawObject) (built : Built) (refused : List LossRequest)
    (accepted : List AcceptedObject) : Prop where
  requested : built.ledger.Requested ctx (refused ++ accepted.flatMap (·.requests adapter))
  quarantined : built.ledger.quarantined.map QuarantinedSourceObject.key =
    refused.map LossRequest.key
  total : built.ledger.mappingCounts.total =
    refused.length + (accepted.map fun a => a.indexes.length).sum
  staged : built.staged = accepted.map (·.staged adapter)
  refused_perm : (refused.map LossRequest.key).Perm ((problems raws).map RawObject.key ++
    ((candidates raws).filter fun c => c.sourceObjectId ∉ sourceIds accepted).map Candidate.key)
  collects : ∀ a ∈ accepted, a.Collects (candidates raws)
  nodup : (sourceIds accepted).Nodup

theorem build_accounts {raws : List RawObject} {built : Built}
    (h : build ctx adapter raws = .ok built) :
    ∃ refused accepted, built.Accounts ctx adapter raws refused accepted ∧ ∃ ledger ledger',
      quarantineCyclesAndMissingDependencies ctx
        (ledger, acceptedGroups adapter (candidates raws)) = .ok (ledger', accepted) := by
  obtain ⟨⟨ledger, parsed⟩, hparse, h⟩ := bind_eq_ok.1 h
  obtain ⟨rfl, refused, hledger, hrefused⟩ := tally_of_stageRaw hparse
  obtain ⟨classified, hclassify, h⟩ := bind_eq_ok.1 h
  obtain ⟨⟨ledger', accepted⟩, hquarantine, h⟩ := bind_eq_ok.1 h
  obtain ⟨⟨ledger'', staged⟩, hstage, h⟩ := bind_eq_ok.1 h
  cases h
  have hsettled := quarantineCyclesAndMissingDependencies_settled
    (settled_of_classify hledger hrefused hclassify) hquarantine
  obtain ⟨refused, htally, hperm⟩ := hsettled.tally
  obtain ⟨hreq, hq, hc, hs⟩ := foldlM_induction
    (fun done (state : Ledger × List StagedSourceObject) =>
      state.1.Requested ctx (refused ++ done.flatMap (·.requests adapter)) ∧
        state.1.quarantined = ledger'.quarantined ∧
        state.1.mappingCounts.total =
          ledger'.mappingCounts.total + (done.map fun a => a.indexes.length).sum ∧
        state.2 = done.map (·.staged adapter))
    ⟨by simpa using htally.toRequested, rfl, by simp, rfl⟩
    (fun done a rest state state' _ ⟨hl, hq, hc, hs⟩ hstep => by
      obtain ⟨hl', hq', hc', hs'⟩ := stageAccepted_requested hl hstep
      refine ⟨?_, hq'.trans hq, ?_, ?_⟩
      · rwa [List.flatMap_append, List.flatMap_singleton, ← List.append_assoc]
      · rw [hc', hc, List.map_append, List.sum_append, Nat.add_assoc]
        rfl
      · rw [hs', hs, List.map_append]
        rfl) hstage
  refine ⟨refused, accepted, ⟨hreq, ?_, ?_, hs, ?_, hsettled.collects, hsettled.nodup⟩,
    classified.ledger, ledger', accepted_of_classify hclassify ▸ hquarantine⟩
  · rw [hq, htally.quarantined]
  · rw [hc, htally.total]
  · refine hperm.trans (List.Perm.of_eq ?_)
    congr 2
    refine List.filter_congr fun c hcand => decide_eq_decide.2 (and_iff_right ?_)
    rw [List.mem_insertionSort, List.mem_dedup]
    exact List.mem_map_of_mem hcand

end

end DollState.Import
