import DollState.Import.ParentClosure
import DollState.Library.BackEdges

/-!
# Which objects the search for cycles finds

`_cycle_source_ids` reports what is on its stack from an object on, whenever it comes to one that is on the
stack. It never comes back to an object that it is done with, so that a cycle through one is only found where
all of it has been on the stack in another way. What it reports are the closed parts of the first chains of
parents (`mem_cycleSourceIds_iff`). An object on a cycle that is not reported loses a parent later, and is
quarantined for that.
-/

namespace DollState.Import

open StateLib Digraph

/-! ## The search -/

section

variable {parents : Text → Option (List Text)}

/-- Where the search is: at `path`, done with `looked`. -/
structure Progress (parents : Text → Option (List Text)) (path looked : List Text) (search : Search) :
    Prop where
  stack : search.stack = path
  done : ∀ id, id ∈ search.done ↔ LookedIn increasing parents path looked id
  cycles : ∀ id, id ∈ search.cycles ↔ ClosedIn increasing parents path looked id
  apart : ∀ id ∈ path, id ∉ search.done

/-- Entering an object, before the loop over its parents. -/
theorem Progress.enter {search : Search} {path looked : List Text} {id : Text}
    (h : Progress parents path looked search)
    (hfront : ∀ x, NextIn parents path x → (x ∈ looked ↔ x < id)) (hout : id ∉ search.done) :
    Progress parents (path ++ [id]) [] { search with stack := search.stack ++ [id] } where
  stack := by rw [h.stack]
  done x := by rw [lookedIn_enter fun y hy => hfront y hy.nextIn, ← h.done]
  cycles x := by rw [closedIn_enter hfront, ← h.cycles]
  apart x hx := by
    rcases List.mem_append.1 hx with hx | hx
    · exact h.apart x hx
    · exact List.mem_singleton.1 hx ▸ hout

/-- Leaving an object, after the loop over its parents. -/
theorem Progress.leave {left : Search} {path looked ids : List Text} {id : Text}
    (h : Progress parents (path ++ [id]) ids left)
    (hfront : ∀ x, NextIn parents path x → (x ∈ looked ↔ x < id)) (hchain : Chain parents (path ++ [id]))
    (hall : ∀ x, NextIn parents (path ++ [id]) x → x ∈ ids) :
    Progress parents path (looked ++ [id])
      { left with stack := left.stack.dropLast, done := id :: left.done } where
  stack := by
    rw [h.stack]
    exact List.dropLast_concat
  done x := by
    rw [lookedIn_leave (fun y hy => hfront y hy.nextIn) hchain fun y hy => hall y hy.nextIn,
      List.mem_cons, h.done]
  cycles x := by rw [closedIn_leave hfront hchain hall, ← h.cycles]
  apart x hx := by
    have hne : x ≠ id := by
      rintro rfl
      exact List.disjoint_singleton.1 (List.nodup_append'.1 hchain.nodup).2.2 hx
    exact List.not_mem_cons_of_ne_of_not_mem hne (h.apart x (List.mem_append_left _ hx))

/-- Passing by an object that the search is done with, or what is no object. -/
theorem Progress.pass {search : Search} {path looked : List Text} {id : Text}
    (h : Progress parents path looked search)
    (hfront : ∀ x, NextIn parents path x → (x ∈ looked ↔ x < id))
    (hskip : (parents id).isNone ∨ id ∈ search.done) :
    Progress parents path (looked ++ [id]) search := by
  have hdone : (parents id).isSome → id ∈ search.done := fun hsome =>
    hskip.resolve_left fun hnone => by
      rw [Option.isNone_iff_eq_none.1 hnone] at hsome
      cases hsome
  refine ⟨h.stack, fun x => ?_, fun x => ?_, h.apart⟩
  · rw [lookedIn_pass fun hchain => (h.done id).1 (hdone (hchain.isSome id (by simp))), ← h.done]
  · rw [closedIn_pass (fun y hy => hfront y hy.nextIn) fun hsome =>
      ⟨fun hmem => h.apart id hmem (hdone hsome), (h.done id).1 (hdone hsome)⟩, ← h.cycles]

/-- Coming to an object on the stack, which closes a cycle. -/
theorem Progress.close {search : Search} {path looked : List Text} {id last : Text}
    (h : Progress parents path looked search) (hpath : FirstChainIn increasing parents path)
    (hlast : path.getLast? = some last) (hedge : id ∈ edges parents last) (hmem : id ∈ path) :
    Progress parents path (looked ++ [id]) { search with
      cycles := search.cycles ∪ search.stack.drop (search.stack.idxOf id) } where
  stack := h.stack
  done x := by
    have hnot : ¬ Chain parents (path ++ [id]) := fun hchain =>
      List.disjoint_singleton.1 (List.nodup_append'.1 hchain.nodup).2.2 hmem
    rw [lookedIn_pass fun hchain => absurd hchain hnot, ← h.done]
  cycles x := by
    rw [closedIn_close hpath hmem, ← h.cycles, closes_iff_mem_drop hmem hpath.nodup hlast hedge,
      h.stack, List.mem_union_iff]
  apart := h.apart

/-- What the loop over the parents of the last object on the stack does with one of them. -/
theorem visitParent_progress {visit : Text → Search → Staged Search} {search search' : Search}
    {path looked : List Text} {id last : Text}
    (hvisit : Chain parents (path ++ [id]) → id ∉ search.done → visit id search = .ok search' →
      Progress parents path (looked ++ [id]) search')
    (hpath : FirstChainIn increasing parents path) (hlast : path.getLast? = some last)
    (hparent : id ∈ (parents last).getD [])
    (hfront : ∀ x, NextIn parents path x → (x ∈ looked ↔ x < id))
    (h : Progress parents path looked search)
    (hstep : visitParent parents visit search id = .ok search') :
    Progress parents path (looked ++ [id]) search' := by
  unfold visitParent at hstep
  split_ifs at hstep with hskip hmem
  · cases hstep
    exact h.pass hfront hskip
  all_goals
    obtain ⟨hnone, hout⟩ := not_or.1 hskip
    have hedge : id ∈ edges parents last :=
      List.mem_filter.2 ⟨hparent, Option.isSome_iff_ne_none.2 (by simpa using hnone)⟩
  · cases hstep
    exact h.close hpath hlast hedge (h.stack ▸ hmem)
  · exact hvisit (hpath.toChain.snoc hlast hedge (h.stack ▸ hmem)) hout hstep

theorem visit_progress (hsorted : ∀ id, ((parents id).getD []).Pairwise (· < ·)) (levels : Nat) :
    ∀ (path looked : List Text) (id : Text) (search search' : Search),
    (∀ x, NextIn parents path x → (x ∈ looked ↔ x < id)) → Chain parents (path ++ [id]) →
    Progress parents path looked search → id ∉ search.done →
    visit parents levels id search = .ok search' → Progress parents path (looked ++ [id]) search' := by
  induction levels with
  | zero =>
    intro path looked id search search' _ _ _ _ hvisit
    cases hvisit
  | succ levels ih =>
    intro path looked id search search' hfront hchain h hout hvisit
    obtain ⟨left, hloop, hvisit⟩ := bind_eq_ok.1 hvisit
    cases pure_eq_ok.1 hvisit
    have hfirst : FirstChainIn increasing parents (path ++ [id]) :=
      firstChainIn_of_not_lookedIn (fun y hy => hfront y hy.nextIn) hchain
        fun hlooked => hout ((h.done id).2 hlooked)
    have hall : ∀ x, NextIn parents (path ++ [id]) x → x ∈ (parents id).getD [] := fun x hx =>
      (List.mem_filter.1 (hx.2 id List.getLast?_concat)).1
    have hasymm : ∀ x y : Text, increasing (path ++ [id]) x y → ¬ increasing (path ++ [id]) y x :=
      fun _ _ => List.lt_asymm
    refine Progress.leave ?_ hfront hchain hall
    -- the loop over the parents, those that it has looked at so far being a part of them
    refine foldlM_induction (fun looked s => Progress parents (path ++ [id]) looked s)
      (h.enter hfront hout) (fun looked parentId rest s s' hids hs hstep => ?_) hloop
    have hfront' : ∀ x, NextIn parents (path ++ [id]) x → (x ∈ looked ↔ x < parentId) := fun x hx =>
      mem_iff_before_of_pairwise hasymm (hids ▸ hsorted id) (hids ▸ hall x hx)
    have hparent : parentId ∈ (parents id).getD [] := by
      rw [hids]
      simp
    exact visitParent_progress (fun hchain' hout' => ih _ _ _ _ _ hfront' hchain' hs hout') hfirst
      List.getLast?_concat hparent hfront' hs hstep

end

/-! ## The accepted objects -/

/-- An object on the closed part of a first chain: of a chain of parents that comes first among those to its
last object, which has a parent on the chain that is the object or comes before it. -/
def OnClosedPart (accepted : List AcceptedObject) (id : Text) : Prop :=
  ∃ chain parentId, FirstChain (parentsOf accepted) chain ∧ Closes (parentsOf accepted) chain parentId id

theorem OnClosedPart.reaches {accepted : List AcceptedObject} {id : Text} (h : OnClosedPart accepted id) :
    Reaches (edges (parentsOf accepted)) id id := by
  obtain ⟨chain, parentId, hchain, hclose⟩ := h
  exact hclose.reaches hchain.toChain

section

variable [ImportLibrary]

/-- The search for cycles reports what is on the closed part of a first chain. -/
theorem mem_cycleSourceIds_iff {accepted : List AcceptedObject} (hnodup : (sourceIds accepted).Nodup)
    (hsorted : ∀ a ∈ accepted, a.Sorted) {cycles : List Text} (h : cycleSourceIds accepted = .ok cycles)
    (id : Text) : id ∈ cycles ↔ OnClosedPart accepted id := by
  obtain ⟨search, hloop, h⟩ := bind_eq_ok.1 h
  cases pure_eq_ok.1 h
  have hroots : ((sourceIds accepted).insertionSort (· ≤ ·)).Pairwise (· < ·) := by
    have hle := List.pairwise_insertionSort (· ≤ ·) (sourceIds accepted)
    have hne := (List.perm_insertionSort (· ≤ ·) (sourceIds accepted)).nodup_iff.2 hnodup
    exact (hle.and hne).imp fun h => lt_of_le_of_ne h.1 h.2
  have hall : ∀ x, (parentsOf accepted x).isSome → x ∈ (sourceIds accepted).insertionSort (· ≤ ·) :=
    fun x hx => (List.mem_insertionSort _).2 (isSome_parentsOf_iff.1 hx)
  have hstart : Progress (parentsOf accepted) [] [] ⟨[], [], []⟩ :=
    ⟨rfl, fun _ => iff_of_false List.not_mem_nil not_lookedIn_nil,
      fun _ => iff_of_false List.not_mem_nil not_closedIn_nil, fun _ hx => absurd hx List.not_mem_nil⟩
  have hasymm : ∀ x y : Text, increasing [] x y → ¬ increasing [] y x := fun _ _ => List.lt_asymm
  have hend : Progress (parentsOf accepted) [] ((sourceIds accepted).insertionSort (· ≤ ·)) search := by
    refine foldlM_induction (fun looked s => Progress (parentsOf accepted) [] looked s) hstart
      (fun looked id rest s s' hids hs hstep => ?_) hloop
    have hfront : ∀ x, NextIn (parentsOf accepted) [] x → (x ∈ looked ↔ x < id) := fun x hx =>
      mem_iff_before_of_pairwise hasymm (hids ▸ hroots) (hids ▸ hall x hx.1)
    split_ifs at hstep with hmem
    · cases hstep
      exact hs.pass hfront (.inr hmem)
    · have hid : (parentsOf accepted id).isSome := by
        refine isSome_parentsOf_iff.2 ((List.mem_insertionSort (· ≤ ·)).1 ?_)
        exact hids ▸ List.mem_append_right _ List.mem_cons_self
      have hchain : Chain (parentsOf accepted) ([] ++ [id]) :=
        ⟨List.nodup_singleton _, fun x hx => List.mem_singleton.1 hx ▸ hid, List.isChain_singleton _⟩
      exact visit_progress (pairwise_parentsOf hsorted) _ _ _ _ _ _ hfront hchain hs hmem hstep
  rw [hend.cycles, closedIn_all hall]
  simp only [OnClosedPart, firstChain_iff]

end

/-! ## Why an object is quarantined -/

/-- The entry for an occurrence of an accepted object that is expelled. -/
def AcceptedObject.quarantinedFor (a : AcceptedObject) (refusal : Refusal) (inputIndex : Nat) :
    QuarantinedSourceObject :=
  ⟨inputIndex, some a.sourceObjectId, a.candidate.sourceHash, refusal.reason⟩

section

variable [PythonLibrary] [ImportLibrary] {ctx : BatchContext} {adapter : SourceAdapterContract}

theorem expel_quarantined {refusal : Refusal} {state state' : Ledger × List AcceptedObject} {id : Text}
    (h : expel ctx refusal state id = .ok state') :
    ∃ a ∈ state.2, a.sourceObjectId = id ∧
      state'.1.quarantined = state.1.quarantined ++ a.indexes.map (a.quarantinedFor refusal) := by
  obtain ⟨a, hfind, ledger, hledger, rfl⟩ := expel_eq_ok.1 h
  refine ⟨a, List.mem_of_find?_eq_some hfind, by simpa using List.find?_some hfind, ?_⟩
  refine foldlM_induction (fun done (l : Ledger) =>
    l.quarantined = state.1.quarantined ++ done.map (a.quarantinedFor refusal)) (by simp) ?_ hledger
  rintro done i rest l l' - hl hquarantine
  obtain ⟨loss, -, rfl⟩ := Ledger.lose_eq_ok.1 hquarantine
  simp only [hl, List.map_append, List.append_assoc]
  rfl

theorem foldlM_expel_quarantined {refusal : Refusal} {ids : List Text}
    {state state' : Ledger × List AcceptedObject} (hnodup : (sourceIds state.2).Nodup)
    (h : ids.foldlM (expel ctx refusal) state = .ok state') :
    ∃ added, state'.1.quarantined = state.1.quarantined ++ added ∧ ∀ q, q ∈ added ↔
      ∃ a ∈ state.2, a.sourceObjectId ∈ ids ∧ ∃ i ∈ a.indexes, a.quarantinedFor refusal i = q := by
  suffices hall : state'.2.Sublist state.2 ∧ ∃ added, state'.1.quarantined = state.1.quarantined ++ added ∧
      ∀ q, q ∈ added ↔ ∃ a ∈ state.2, a.sourceObjectId ∈ ids ∧
        ∃ i ∈ a.indexes, a.quarantinedFor refusal i = q from hall.2
  refine foldlM_induction (fun done (s : Ledger × List AcceptedObject) => s.2.Sublist state.2 ∧
    ∃ added, s.1.quarantined = state.1.quarantined ++ added ∧ ∀ q, q ∈ added ↔
      ∃ a ∈ state.2, a.sourceObjectId ∈ done ∧ ∃ i ∈ a.indexes, a.quarantinedFor refusal i = q)
    ⟨List.Sublist.refl _, [], by simp, by simp⟩ ?_ h
  rintro done id rest s s' - ⟨hsub, added, hs, hadded⟩ hexpel
  obtain ⟨a, ha, rfl, hs'⟩ := expel_quarantined hexpel
  have hfilter := foldlM_expel_accepted
    (show [a.sourceObjectId].foldlM (expel ctx refusal) s = .ok s' by
      rw [List.foldlM_cons, hexpel]; rfl)
  refine ⟨hfilter ▸ List.filter_sublist.trans hsub, added ++ a.indexes.map (a.quarantinedFor refusal),
    by rw [hs', hs, List.append_assoc], fun q => ?_⟩
  rw [List.mem_append, hadded, List.mem_map]
  constructor
  · rintro (⟨b, hb, hdone, hq⟩ | hq)
    · exact ⟨b, hb, List.mem_append_left _ hdone, hq⟩
    · exact ⟨a, hsub.subset ha, by simp, hq⟩
  · rintro ⟨b, hb, hmem, hq⟩
    rcases List.mem_append.1 hmem with hmem | hmem
    · exact .inl ⟨b, hb, hmem, hq⟩
    · obtain rfl := List.inj_on_of_nodup_map hnodup hb (hsub.subset ha) (List.mem_singleton.1 hmem)
      exact .inr hq

theorem quarantineMissing_quarantined {rounds : Nat} {state state' : Ledger × List AcceptedObject}
    (hnodup : (sourceIds state.2).Nodup) (h : quarantineMissing ctx rounds state = .ok state') :
    ∃ added, state'.1.quarantined = state.1.quarantined ++ added ∧
      ∀ q ∈ added, ∃ a ∈ state.2, ∃ i, a.quarantinedFor missingParent i = q := by
  induction rounds generalizing state with
  | zero =>
    cases h
    exact ⟨[], by simp, by simp⟩
  | succ rounds ih =>
    simp only [quarantineMissing] at h
    split_ifs at h with hnone
    · cases h
      exact ⟨[], by simp, by simp⟩
    · obtain ⟨next, hnext, h⟩ := bind_eq_ok.1 h
      obtain ⟨added, hadded, hmem⟩ := foldlM_expel_quarantined hnodup hnext
      have hfilter := foldlM_expel_accepted hnext
      have hsub : next.2.Sublist state.2 := hfilter ▸ List.filter_sublist
      obtain ⟨later, hlater, hmem'⟩ := ih (hnodup.sublist (hsub.map _)) h
      refine ⟨added ++ later, by rw [hlater, hadded, List.append_assoc], fun q hq => ?_⟩
      rcases List.mem_append.1 hq with hq | hq
      · obtain ⟨a, ha, -, i, -, hq⟩ := (hmem q).1 hq
        exact ⟨a, ha, i, hq⟩
      · obtain ⟨a, ha, i, hq⟩ := hmem' q hq
        exact ⟨a, hsub.subset ha, i, hq⟩

/-- The objects on a cycle are quarantined for that, all their occurrences, and for nothing else. -/
def QuarantinesCycles (accepted : List AcceptedObject) (added : List QuarantinedSourceObject) : Prop :=
  ∀ a ∈ accepted, Reaches (edges (parentsOf accepted)) a.sourceObjectId a.sourceObjectId →
    (∀ i ∈ a.indexes, a.quarantinedFor cyclicParent i ∈ added) ∧
      ∀ q ∈ added, q.sourceObjectId = some a.sourceObjectId → q.reason = cyclicParent.reason

/-- What `_cycle_source_ids` and `_quarantine_cycles_and_missing_dependencies` are to do. -/
structure CyclesExact (ctx : BatchContext) (ledger : Ledger) (accepted : List AcceptedObject) : Prop where
  reported : ∃ cycles, cycleSourceIds accepted = .ok cycles ∧
    ∀ id, id ∈ cycles ↔ Reaches (edges (parentsOf accepted)) id id
  quarantined : ∃ state added, quarantineCyclesAndMissingDependencies ctx (ledger, accepted) = .ok state ∧
    state.1.quarantined = ledger.quarantined ++ added ∧ QuarantinesCycles accepted added

theorem quarantinesCycles_of_reported {state state' : Ledger × List AcceptedObject} {cycles : List Text}
    (hnodup : (sourceIds state.2).Nodup) (hcycles : cycleSourceIds state.2 = .ok cycles)
    (hreported : ∀ id, id ∈ cycles ↔ Reaches (edges (parentsOf state.2)) id id)
    (h : quarantineCyclesAndMissingDependencies ctx state = .ok state') :
    ∃ added, state'.1.quarantined = state.1.quarantined ++ added ∧ QuarantinesCycles state.2 added := by
  obtain ⟨cycles', hcycles', h⟩ := bind_eq_ok.1 h
  cases hcycles.symm.trans hcycles'
  obtain ⟨next, hnext, h⟩ := bind_eq_ok.1 h
  obtain ⟨added, hadded, hmem⟩ := foldlM_expel_quarantined hnodup hnext
  have hfilter := foldlM_expel_accepted hnext
  have hsub : next.2.Sublist state.2 := hfilter ▸ List.filter_sublist
  obtain ⟨later, hlater, hmem'⟩ := quarantineMissing_quarantined (hnodup.sublist (hsub.map _)) h
  refine ⟨added ++ later, by rw [hlater, hadded, List.append_assoc], fun a ha hcycle => ?_⟩
  have hid : a.sourceObjectId ∈ cycles.insertionSort (· ≤ ·) :=
    (List.mem_insertionSort _).2 ((hreported _).2 hcycle)
  refine ⟨fun i hi => List.mem_append_left _ ((hmem _).2 ⟨a, ha, hid, i, hi, rfl⟩), fun q hq hqid => ?_⟩
  rcases List.mem_append.1 hq with hq | hq
  · obtain ⟨b, -, -, i, -, rfl⟩ := (hmem q).1 hq
    rfl
  · obtain ⟨b, hb, i, rfl⟩ := hmem' q hq
    rw [hfilter] at hb
    have hout := of_decide_eq_true (List.mem_filter.1 hb).2
    rw [Option.some.inj hqid] at hout
    exact absurd hid hout

/-- After classification, exactly the objects on a cycle are reported and quarantined for that if and only if
no first chain of parents is longer than the number of calls that fit inside one another, and every object on
a cycle is on the closed part of a first chain. -/
theorem cyclesExact_iff (hctx : ctx.Valid) {raws : List RawObject} {ledger : Ledger}
    {classified : Classified}
    (h : classifyDuplicatesAndSupport ctx adapter (candidates raws) ledger = .ok classified) :
    CyclesExact ctx classified.ledger classified.accepted ↔
      (∀ chain, FirstChain (parentsOf classified.accepted) chain →
          chain.length ≤ ImportLibrary.visitLevels) ∧
        ∀ id, Reaches (edges (parentsOf classified.accepted)) id id → OnClosedPart classified.accepted id := by
  have haccepted := accepted_of_classify h
  have hnodup : (sourceIds classified.accepted).Nodup :=
    haccepted ▸ nodup_acceptedGroups adapter (candidates raws)
  have hsorted : ∀ a ∈ classified.accepted, a.Sorted := haccepted ▸ sorted_acceptedGroups adapter raws
  rw [← cycleSourceIds_isOk_iff hnodup hsorted]
  constructor
  · rintro ⟨⟨cycles, hcycles, hreported⟩, -⟩
    refine ⟨by rw [hcycles]; rfl, fun id hcycle => ?_⟩
    exact (mem_cycleSourceIds_iff hnodup hsorted hcycles id).1 ((hreported id).2 hcycle)
  · rintro ⟨hok, hclosed⟩
    obtain ⟨cycles, hcycles⟩ := exists_of_isOk hok
    have hreported : ∀ id, id ∈ cycles ↔ Reaches (edges (parentsOf classified.accepted)) id id := fun id => by
      rw [mem_cycleSourceIds_iff hnodup hsorted hcycles]
      exact ⟨OnClosedPart.reaches, hclosed id⟩
    obtain ⟨state, hstate⟩ := exists_quarantineCyclesAndMissingDependencies hctx classified.ledger
      (reportable_of_classify h) hnodup hcycles
    obtain ⟨added, hadded, hquarantines⟩ := quarantinesCycles_of_reported hnodup hcycles hreported hstate
    exact ⟨⟨cycles, hcycles, hreported⟩, state, added, hstate, hadded, hquarantines⟩

end

/-! ## A cycle that is not found -/

section Runs

attribute [local instance] asciiLibrary standardLibrary

/-- Two cycles through `a` and `b`, of which the one goes through `c` as well. -/
def crossingParents : List (Text × List Text) :=
  [(['a'], [['b'], ['c']]), (['b'], [['a']]), (['c'], [['b']])]

def crossingRaws : List RawObject :=
  crossingParents.zipIdx.map fun ((id, parentIds), i) =>
    ⟨i, some (conversationValue id parentIds), hashValue (conversationValue id parentIds), none⟩

theorem cyclesExact_iff_crossing : ∃ classified,
    classifyDuplicatesAndSupport genericBatch genericAdapter (candidates crossingRaws) Ledger.empty =
        .ok classified ∧
      (CyclesExact genericBatch classified.ledger classified.accepted ↔
        (∀ chain, FirstChain (parentsOf classified.accepted) chain → chain.length ≤ 980) ∧
          ∀ id, Reaches (edges (parentsOf classified.accepted)) id id →
            OnClosedPart classified.accepted id) := by
  obtain ⟨classified, h⟩ := exists_classify genericAdapter valid_genericBatch
    (fun c (hc : c ∈ candidates crossingRaws) => reportable_of_mem_candidates hc) Ledger.empty
  exact ⟨classified, h, cyclesExact_iff valid_genericBatch h⟩

def crossingCandidates : List Candidate :=
  crossingParents.zipIdx.map fun ((id, parentIds), i) => conversationCandidate i id parentIds

theorem candidates_crossingRaws : candidates crossingRaws = crossingCandidates := by
  have hparse : ∀ p ∈ crossingParents, ∀ i sourceHash,
      parseCandidate ⟨i, some (conversationValue p.1 p.2), sourceHash, none⟩ =
        .ok (conversationCandidate i p.1 p.2) := by
    have hid : ∀ p ∈ crossingParents, validateSourceId (.str p.1) = some p.1 := by decide
    have hparents : ∀ p ∈ crossingParents, validateParentIds (.arr (p.2.map .str)) = some p.2 := by decide
    have hself : ∀ p ∈ crossingParents, p.1 ∉ p.2 := by decide
    exact fun p hp i sourceHash =>
      parseCandidate_conversation i sourceHash (hid p hp) (hparents p hp) (hself p hp)
  rw [candidates, crossingRaws, List.filterMap_map, crossingCandidates, ← List.filterMap_eq_map]
  refine List.filterMap_congr fun p hp => ?_
  rw [Function.comp_apply, RawObject.candidate?, hparse _ (List.fst_mem_of_mem_zipIdx hp)]
  rfl

/-- All three are accepted. -/
theorem acceptedGroups_crossing : acceptedGroups genericAdapter (candidates crossingRaws) =
    crossingCandidates.map fun c => ⟨c, [c.inputIndex]⟩ := by
  have hids : (crossingCandidates.map Candidate.sourceObjectId).Nodup := by decide
  have hordered : (crossingCandidates.map Candidate.sourceObjectId).dedup.insertionSort (· ≤ ·) =
      crossingCandidates.map Candidate.sourceObjectId := by decide
  have hkind : ∀ c ∈ crossingCandidates, c.sourceType = "conversation".toList := by
    intro c hc
    obtain ⟨p, -, rfl⟩ := List.mem_map.1 hc
    rfl
  rw [candidates_crossingRaws, acceptedGroups, hordered, List.filterMap_map, ← List.filterMap_eq_map]
  exact List.filterMap_congr fun c hc => acceptedGroup_conversation hids hc (hkind c hc)

/-- The search is done with `b` when it comes to `c`, which is not reported. -/
theorem not_cyclesExact_crossing : ¬ ∀ classified,
    classifyDuplicatesAndSupport genericBatch genericAdapter (candidates crossingRaws) Ledger.empty =
        .ok classified → CyclesExact genericBatch classified.ledger classified.accepted := by
  intro hall
  obtain ⟨classified, h⟩ := exists_classify genericAdapter valid_genericBatch
    (fun c (hc : c ∈ candidates crossingRaws) => reportable_of_mem_candidates hc) Ledger.empty
  have hexact := hall classified h
  rw [accepted_of_classify h, acceptedGroups_crossing] at hexact
  obtain ⟨⟨cycles, hcycles, hreported⟩, -⟩ := hexact
  have hfound : (cycleSourceIds (crossingCandidates.map fun c => ⟨c, [c.inputIndex]⟩)).toOption =
      some [['a'], ['b']] := by decide
  rw [hcycles] at hfound
  cases hfound
  have hedges : ∀ e ∈ [(['a'], ['c']), (['c'], ['b']), (['b'], ['a'])],
      e.2 ∈ edges (parentsOf (crossingCandidates.map fun c => ⟨c, [c.inputIndex]⟩)) e.1 := by
    decide
  have hcycle : Reaches (edges (parentsOf (crossingCandidates.map fun c => ⟨c, [c.inputIndex]⟩)))
      ['c'] ['c'] :=
    ((Relation.TransGen.single (hedges (['c'], ['b']) (by decide))).tail
      (hedges (['b'], ['a']) (by decide))).tail (hedges (['a'], ['c']) (by decide))
  exact absurd ((hreported ['c']).2 hcycle) (by decide)

end Runs

end DollState.Import
