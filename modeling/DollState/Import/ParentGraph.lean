import DollState.Library.Digraph
import DollState.Import.Ledger

/-!
# Cycles and missing parents

`_cycle_source_ids` finds an object of every cycle of the parent relation, and the loop after it
expels what has lost a parent, until nothing has. What is left are the objects that are resolved:
those whose parents are accepted and resolved themselves (`mem_quarantine_iff`).
-/

namespace DollState.Import

open StateLib Digraph

/-! ## The search -/

section

variable {parents : Text → Option (List Text)}

/-- Every identifier that is done and not on a cycle that has been found comes after its parents. -/
def Ordered (parents : Text → Option (List Text)) (cycles : List Text) : List Text → Prop
  | [] => True
  | id :: done => (id ∈ cycles ∨ ∀ parentId ∈ edges parents id, parentId ∈ done) ∧
      Ordered parents cycles done

theorem Ordered.mono {cycles cycles' done : List Text} (h : Ordered parents cycles done)
    (hsub : cycles ⊆ cycles') : Ordered parents cycles' done := by
  induction done with
  | nil => trivial
  | cons id done ih => exact ⟨h.1.imp_left fun hid => hsub hid, ih h.2⟩

/-- What holds of the search between two steps. -/
structure Search.Valid (parents : Text → Option (List Text)) (search : Search) : Prop where
  path : search.stack.IsChain fun id parentId => parentId ∈ edges parents id
  stack_nodup : search.stack.Nodup
  cycles_nodup : search.cycles.Nodup
  ordered : Ordered parents search.cycles search.done
  cyclic : ∀ id ∈ search.cycles, Reaches (edges parents) id id

/-- What a call of the search leaves of the state it has been called in. -/
structure Search.Extends (search search' : Search) : Prop where
  stack : search'.stack = search.stack
  done : search.done ⊆ search'.done
  cycles : search.cycles ⊆ search'.cycles

theorem Search.Extends.refl (search : Search) : search.Extends search :=
  ⟨rfl, List.Subset.refl _, List.Subset.refl _⟩

theorem Search.Extends.trans {search₁ search₂ search₃ : Search} (h : search₁.Extends search₂)
    (h' : search₂.Extends search₃) : search₁.Extends search₃ :=
  ⟨h'.stack.trans h.stack, List.Subset.trans h.done h'.done, List.Subset.trans h.cycles h'.cycles⟩

/-- A parent on the stack closes a cycle. -/
theorem Search.Valid.close {search : Search} {path : List Text} {id parentId : Text}
    (h : search.Valid parents) (hstack : search.stack = path ++ [id])
    (hparent : parentId ∈ edges parents id) (hmem : parentId ∈ search.stack) :
    ({ search with
      cycles := search.cycles ∪ search.stack.drop (search.stack.idxOf parentId) } :
        Search).Valid parents ∧ id ∈ search.stack.drop (search.stack.idxOf parentId) := by
  have hlt : search.stack.idxOf parentId < search.stack.length := List.idxOf_lt_length_of_mem hmem
  have hdrop : search.stack.drop (search.stack.idxOf parentId) =
      parentId :: search.stack.drop (search.stack.idxOf parentId + 1) := by
    rw [List.drop_eq_getElem_cons hlt, List.getElem_idxOf]
  have hlast : ∃ path', search.stack.drop (search.stack.idxOf parentId) = path' ++ [id] := by
    have hle : search.stack.idxOf parentId ≤ path.length := by
      have hlength := congrArg List.length hstack
      rw [List.length_append, List.length_singleton] at hlength
      omega
    exact ⟨path.drop (search.stack.idxOf parentId), by
      conv_lhs => rw [hstack]
      rw [List.drop_append_of_le_length (by rw [← hstack]; exact hle), ← hstack]⟩
  obtain ⟨path', hpath'⟩ := hlast
  have hchain := h.path.drop (search.stack.idxOf parentId)
  refine ⟨⟨h.path, h.stack_nodup, ?_, h.ordered.mono fun _ hmem => List.mem_union_iff.2 (.inl hmem), ?_⟩,
    by rw [hpath']; simp⟩
  · exact List.Nodup.union _ (h.stack_nodup.sublist (List.drop_sublist _ _))
  · intro id' hid'
    rcases List.mem_union_iff.1 hid' with hid' | hid'
    · exact h.cyclic id' hid'
    · rw [hdrop] at hchain hpath' hid'
      exact reaches_self_of_closed hchain hpath' hparent hid'

/-- What the loop over the parents of an identifier does with one of them. -/
theorem visitParent_valid {visit : Text → Search → Staged Search} {search search' : Search}
    {path : List Text} {id parentId : Text}
    (hvisit : ∀ id search search', search.Valid parents →
      (search.stack ++ [id]).IsChain (fun id parentId => parentId ∈ edges parents id) →
      id ∉ search.stack → visit id search = .ok search' →
      search'.Valid parents ∧ search.Extends search' ∧ id ∈ search'.done)
    (h : search.Valid parents) (hstack : search.stack = path ++ [id])
    (hparent : parentId ∈ (parents id).getD [])
    (hstep : visitParent parents visit search parentId = .ok search') :
    search'.Valid parents ∧ search.Extends search' ∧
      (parentId ∈ edges parents id → parentId ∈ search'.done ∨ id ∈ search'.cycles) := by
  unfold visitParent at hstep
  split_ifs at hstep with hdone hmem
  · cases hstep
    refine ⟨h, .refl _, fun hedge => .inl (hdone.resolve_left fun hnone => ?_)⟩
    have hsome := (mem_edges.1 hedge).2
    rw [Option.isNone_iff_eq_none.1 hnone] at hsome
    cases hsome
  all_goals
    have hedge : parentId ∈ edges parents id := by
      obtain ⟨hnone, -⟩ := not_or.1 hdone
      exact List.mem_filter.2 ⟨hparent, Option.isSome_iff_ne_none.2 (by simpa using hnone)⟩
  · cases hstep
    obtain ⟨hvalid, hid⟩ := h.close hstack hedge hmem
    exact ⟨hvalid, ⟨rfl, List.Subset.refl _, fun _ hx => List.mem_union_iff.2 (.inl hx)⟩,
      fun _ => .inr (List.mem_union_iff.2 (.inr hid))⟩
  · have hchain : (search.stack ++ [parentId]).IsChain
        fun id parentId => parentId ∈ edges parents id := by
      refine List.isChain_append.2 ⟨h.path, List.isChain_singleton _, ?_⟩
      simpa [hstack] using hedge
    obtain ⟨hvalid, hextends, hmem'⟩ := hvisit parentId search search' h hchain hmem hstep
    exact ⟨hvalid, hextends, fun _ => .inl hmem'⟩

theorem visit_valid (levels : Nat) : ∀ (id : Text) (search search' : Search),
    search.Valid parents →
    (search.stack ++ [id]).IsChain (fun id parentId => parentId ∈ edges parents id) →
    id ∉ search.stack → visit parents levels id search = .ok search' →
    search'.Valid parents ∧ search.Extends search' ∧ id ∈ search'.done := by
  induction levels with
  | zero =>
    intro id search search' _ _ _ hvisit
    cases hvisit
  | succ levels ih =>
    intro id search search' h hchain hid hvisit
    obtain ⟨left, hloop, hvisit⟩ := bind_eq_ok.1 hvisit
    cases pure_eq_ok.1 hvisit
    have hentered : ({ search with stack := search.stack ++ [id] } : Search).Valid parents :=
      ⟨hchain, List.nodup_append'.2 ⟨h.stack_nodup, List.nodup_singleton _,
        List.disjoint_singleton.2 hid⟩, h.cycles_nodup, h.ordered, h.cyclic⟩
    obtain ⟨hvalid, hextends, hparents⟩ := foldlM_induction
      (fun (done : List Text) (s : Search) => s.Valid parents ∧
        ({ search with stack := search.stack ++ [id] } : Search).Extends s ∧
        ∀ parentId ∈ done, parentId ∈ edges parents id → parentId ∈ s.done ∨ id ∈ s.cycles)
      ⟨hentered, .refl _, by simp⟩
      (fun done parentId rest s s' hids ⟨hs, hextends, hdone⟩ hstep => by
        have hmem : parentId ∈ (parents id).getD [] := by rw [hids]; simp
        obtain ⟨hs', hextends', hparent⟩ := visitParent_valid ih hs hextends.stack hmem hstep
        refine ⟨hs', hextends.trans hextends', fun parentId' hmem' hedge => ?_⟩
        rcases List.mem_append.1 hmem' with hmem' | hmem'
        · exact (hdone parentId' hmem' hedge).imp (fun h => hextends'.done h)
            fun h => hextends'.cycles h
        · cases List.mem_singleton.1 hmem'
          exact hparent hedge) hloop
    have hstack : left.stack.dropLast = search.stack := by
      rw [hextends.stack, List.dropLast_concat]
    refine ⟨⟨?_, ?_, hvalid.cycles_nodup, ⟨?_, hvalid.ordered⟩, hvalid.cyclic⟩,
      ⟨hstack, fun x hx => List.mem_cons_of_mem _ (hextends.done hx), hextends.cycles⟩,
      List.mem_cons_self⟩
    · rw [hstack]
      exact h.path
    · rw [hstack]
      exact h.stack_nodup
    · by_cases hcycle : id ∈ left.cycles
      · exact .inl hcycle
      · refine .inr fun parentId hedge => ?_
        exact (hparents parentId (List.mem_filter.1 hedge).1 hedge).resolve_right hcycle

/-- The search fails in one way. -/
theorem visit_eq_error {levels : Nat} {id : Text} {search : Search} {e : ImportError}
    (h : visit parents levels id search = .error e) : e = recursionError := by
  induction levels generalizing id search with
  | zero =>
    cases h
    rfl
  | succ levels ih =>
    rcases bind_eq_error.1 h with hloop | ⟨left, -, h⟩
    · obtain ⟨s, parentId, -, hstep⟩ := error_of_foldlM hloop
      unfold visitParent at hstep
      split_ifs at hstep
      exact ih hstep
    · cases h

end

/-! ## The accepted objects -/

section

variable [PythonLibrary] [ImportLibrary] {ctx : BatchContext}

/-- What the search of the accepted objects finds: objects on cycles, and one on each cycle. -/
structure FindsCycles (accepted : List AcceptedObject) (cycles : List Text) : Prop where
  nodup : cycles.Nodup
  cyclic : ∀ id ∈ cycles, Reaches (edges (parentsOf accepted)) id id
  ordered : ∃ done, Ordered (parentsOf accepted) cycles done ∧ ∀ id ∈ sourceIds accepted, id ∈ done

omit [PythonLibrary] in
theorem findsCycles_of_cycleSourceIds {accepted : List AcceptedObject} {cycles : List Text}
    (h : cycleSourceIds accepted = .ok cycles) : FindsCycles accepted cycles := by
  obtain ⟨search, hloop, h⟩ := bind_eq_ok.1 h
  cases pure_eq_ok.1 h
  obtain ⟨hvalid, -, hdone⟩ := foldlM_induction
    (fun (looked : List Text) (s : Search) => s.Valid (parentsOf accepted) ∧ s.stack = [] ∧
      ∀ id ∈ looked, id ∈ s.done)
    ⟨⟨List.isChain_nil, List.nodup_nil, List.nodup_nil, by simp [Ordered], by simp⟩, rfl, by simp⟩
    (fun looked id rest s s' _ ⟨hs, hstack, hlooked⟩ hstep => by
      split_ifs at hstep with hmem
      · cases hstep
        refine ⟨hs, hstack, fun id' hid' => ?_⟩
        rcases List.mem_append.1 hid' with hid' | hid'
        · exact hlooked id' hid'
        · exact List.mem_singleton.1 hid' ▸ hmem
      · obtain ⟨hs', hextends, hid⟩ := visit_valid _ id s s' hs (by simp [hstack])
          (by simp [hstack]) hstep
        refine ⟨hs', hextends.stack.trans hstack, fun id' hid' => ?_⟩
        rcases List.mem_append.1 hid' with hid' | hid'
        · exact hextends.done (hlooked id' hid')
        · exact List.mem_singleton.1 hid' ▸ hid) hloop
  exact ⟨hvalid.cycles_nodup, hvalid.cyclic, search.done, hvalid.ordered, fun id hid =>
    hdone id ((List.mem_insertionSort _).2 hid)⟩

omit [PythonLibrary] [ImportLibrary] in
theorem parentsOf_of_mem {accepted : List AcceptedObject} (hnodup : (sourceIds accepted).Nodup)
    {a : AcceptedObject} (ha : a ∈ accepted) :
    parentsOf accepted a.sourceObjectId = some a.candidate.parentSourceObjectIds := by
  obtain ⟨b, hb⟩ : ∃ b, (accepted.find? fun b => b.sourceObjectId = a.sourceObjectId) = some b :=
    Option.isSome_iff_exists.1 (List.find?_isSome.2 ⟨a, ha, by simp⟩)
  have hab : b = a := List.inj_on_of_nodup_map hnodup (List.mem_of_find?_eq_some hb) ha
    (by simpa using List.find?_some hb)
  rw [parentsOf, hb, hab]
  rfl

omit [PythonLibrary] [ImportLibrary] in
theorem exists_of_parentsOf {accepted : List AcceptedObject} {id : Text}
    (h : (parentsOf accepted id).isSome) : ∃ a ∈ accepted, a.sourceObjectId = id := by
  rw [parentsOf, Option.isSome_map, List.find?_isSome] at h
  simpa using h

omit [PythonLibrary] [ImportLibrary] in
theorem mem_missing {accepted : List AcceptedObject} {id : Text} :
    id ∈ missing accepted ↔ ∃ a ∈ accepted, a.sourceObjectId = id ∧
      ∃ parentId ∈ a.candidate.parentSourceObjectIds, parentId ∉ sourceIds accepted := by
  rw [missing, List.mem_insertionSort, List.mem_map]
  simp only [List.mem_filter, List.any_eq_true, decide_eq_true_eq]
  constructor
  · rintro ⟨a, ⟨ha, hparent⟩, rfl⟩
    exact ⟨a, ha, rfl, hparent⟩
  · rintro ⟨a, ha, rfl, hparent⟩
    exact ⟨a, ⟨ha, hparent⟩, rfl⟩

theorem foldlM_expel_accepted {refusal : Refusal} {ids : List Text}
    {state state' : Ledger × List AcceptedObject}
    (h : ids.foldlM (expel ctx refusal) state = .ok state') :
    state'.2 = state.2.filter fun a => a.sourceObjectId ∉ ids := by
  refine foldlM_induction (fun done (s : Ledger × List AcceptedObject) =>
    s.2 = state.2.filter fun a => a.sourceObjectId ∉ done) (by simp) ?_ h
  rintro done id rest s s' - hs hexpel
  obtain ⟨a, -, ledger, -, rfl⟩ := expel_eq_ok.1 hexpel
  simp only [hs, List.filter_filter]
  refine List.filter_congr fun b _ => ?_
  simp [not_or, and_comm]

/-- Between two rounds: what has been expelled is not resolved. -/
structure Remaining (accepted remaining : List AcceptedObject) : Prop where
  sublist : remaining.Sublist accepted
  expelled : ∀ a ∈ accepted, a ∉ remaining → ¬ Resolves (parentsOf accepted) a.sourceObjectId

omit [PythonLibrary] [ImportLibrary] in
theorem Remaining.missing {accepted remaining : List AcceptedObject}
    (hnodup : (sourceIds accepted).Nodup) (h : Remaining accepted remaining) :
    Remaining accepted (remaining.filter fun a => a.sourceObjectId ∉ missing remaining) where
  sublist := List.filter_sublist.trans h.sublist
  expelled a ha hout hresolves := by
    by_cases hrem : a ∈ remaining
    · obtain ⟨b, hb, hab, parentId, hparent, hgone⟩ := mem_missing.1 (by
        by_contra hmissing
        exact hout (List.mem_filter.2 ⟨hrem, decide_eq_true hmissing⟩))
      obtain rfl := List.inj_on_of_nodup_map hnodup (h.sublist.subset hb) ha hab
      have hresolved := hresolves.of_mem (parentsOf_of_mem hnodup ha) hparent
      obtain ⟨c, hc, rfl⟩ := exists_of_parentsOf hresolved.isSome
      exact h.expelled c hc (fun hcrem => hgone (List.mem_map_of_mem hcrem)) hresolved
    · exact h.expelled a ha hrem hresolves

omit [PythonLibrary] [ImportLibrary] in
theorem length_missing_lt {remaining : List AcceptedObject} (h : missing remaining ≠ []) :
    (remaining.filter fun a => a.sourceObjectId ∉ missing remaining).length < remaining.length := by
  obtain ⟨id, hid⟩ := List.exists_mem_of_ne_nil _ h
  obtain ⟨a, ha, rfl, -⟩ := mem_missing.1 hid
  refine List.length_filter_lt_length_iff_exists.2 ⟨a, ha, ?_⟩
  simpa using hid

/-- The rounds end with nothing missing. -/
theorem remaining_of_quarantineMissing {accepted : List AcceptedObject}
    (hnodup : (sourceIds accepted).Nodup) {rounds : Nat}
    {state state' : Ledger × List AcceptedObject} (h : Remaining accepted state.2)
    (hrounds : state.2.length < rounds) (hrun : quarantineMissing ctx rounds state = .ok state') :
    Remaining accepted state'.2 ∧ missing state'.2 = [] ∧ state'.2.Sublist state.2 := by
  induction rounds generalizing state with
  | zero => omega
  | succ rounds ih =>
    simp only [quarantineMissing] at hrun
    split_ifs at hrun with hdone
    · cases hrun
      exact ⟨h, hdone, List.Sublist.refl _⟩
    · obtain ⟨next, hnext, hrun⟩ := bind_eq_ok.1 hrun
      have hfilter := foldlM_expel_accepted hnext
      have hlt := length_missing_lt hdone
      obtain ⟨hrem, hclosed, hsub⟩ := ih (hfilter ▸ h.missing hnodup : Remaining accepted next.2)
        (by rw [hfilter]; omega) hrun
      exact ⟨hrem, hclosed, hsub.trans (hfilter ▸ List.filter_sublist)⟩

omit [PythonLibrary] [ImportLibrary] in
/-- Where nothing is missing and no object on a found cycle is left, everything is resolved. -/
theorem resolves_of_closed {accepted remaining : List AcceptedObject} {cycles : List Text}
    (hnodup : (sourceIds accepted).Nodup) (hfinds : FindsCycles accepted cycles)
    (hsub : remaining.Sublist accepted) (hcycles : ∀ a ∈ remaining, a.sourceObjectId ∉ cycles)
    (hclosed : missing remaining = []) {a : AcceptedObject} (ha : a ∈ remaining) :
    Resolves (parentsOf accepted) a.sourceObjectId := by
  obtain ⟨done, hordered, hdone⟩ := hfinds.ordered
  suffices hall : ∀ a ∈ remaining, a.sourceObjectId ∈ done →
      Resolves (parentsOf accepted) a.sourceObjectId from
    hall a ha (hdone _ (List.mem_map_of_mem (hsub.subset ha)))
  clear hdone ha
  -- induction on the order in which the search has finished
  induction done with
  | nil => simp
  | cons id done ih =>
    intro a ha hmem
    rcases List.mem_cons.1 hmem with heq | hmem
    · have hparents := parentsOf_of_mem hnodup (hsub.subset ha)
      refine ⟨hparents, fun parentId hparent => ?_⟩
      have hparentMem : parentId ∈ sourceIds remaining := by
        by_contra hgone
        have : a.sourceObjectId ∈ missing remaining :=
          mem_missing.2 ⟨a, ha, rfl, parentId, hparent, hgone⟩
        rw [hclosed] at this
        cases this
      obtain ⟨b, hb, rfl⟩ := List.mem_map.1 hparentMem
      have hedge : b.sourceObjectId ∈ edges (parentsOf accepted) a.sourceObjectId :=
        mem_edges.2 ⟨⟨_, hparents, hparent⟩, by
          rw [parentsOf_of_mem hnodup (hsub.subset hb)]
          rfl⟩
      rw [heq] at hedge
      exact ih hordered.2 b hb (hordered.1.resolve_left (heq ▸ hcycles a ha) _ hedge)
    · exact ih hordered.2 a ha hmem

/-- An accepted object is left if and only if it is resolved. -/
theorem mem_quarantine_iff {state state' : Ledger × List AcceptedObject}
    (hnodup : (sourceIds state.2).Nodup)
    (h : quarantineCyclesAndMissingDependencies ctx state = .ok state') :
    state'.2.Sublist state.2 ∧ ∀ a ∈ state.2,
      (a ∈ state'.2 ↔ Resolves (parentsOf state.2) a.sourceObjectId) := by
  obtain ⟨cycles, hcycles, h⟩ := bind_eq_ok.1 h
  obtain ⟨next, hnext, h⟩ := bind_eq_ok.1 h
  have hfinds := findsCycles_of_cycleSourceIds hcycles
  have hfilter := foldlM_expel_accepted hnext
  have hrem : Remaining state.2 next.2 := by
    refine ⟨hfilter ▸ List.filter_sublist, fun a ha hout hresolves => ?_⟩
    have hmem : a.sourceObjectId ∈ cycles := by
      by_contra hmem
      refine hout (hfilter ▸ List.mem_filter.2 ⟨ha, decide_eq_true ?_⟩)
      rwa [List.mem_insertionSort]
    exact hresolves.not_reaches_self (hfinds.cyclic _ hmem)
  obtain ⟨hrem', hclosed, hsub⟩ := remaining_of_quarantineMissing hnodup hrem (by omega) h
  refine ⟨hrem'.sublist, fun a ha => ⟨fun hmem => ?_, fun hresolves => ?_⟩⟩
  · refine resolves_of_closed hnodup hfinds hrem'.sublist (fun b hb => ?_) hclosed hmem
    have hbnext := hsub.subset hb
    rw [hfilter] at hbnext
    have hout := of_decide_eq_true (List.mem_filter.1 hbnext).2
    rwa [List.mem_insertionSort] at hout
  · by_contra hout
    exact hrem'.expelled a ha hout hresolves

end

end DollState.Import
