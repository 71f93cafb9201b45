import DollState.Library.FirstChain
import DollState.Import.ParentGraph

/-!
# How deep the search for cycles goes

`_cycle_source_ids` is recursive, and the interpreter allows only so many calls inside one another.
The search enters an object along the first chain of parents that leads to it, so that it succeeds
if and only if none of these chains is longer than the number of calls
(`cycleSourceIds_isOk_iff`).
-/

namespace DollState.Import

open StateLib Digraph

section

variable {parents : Text → Option (List Text)} {limit : Nat}

/-- How a part of the search ends: the first chains that it covers are short and it is done with
what `looked` says, or it has come to a chain that is too long. -/
def Explores (parents : Text → Option (List Text)) (limit : Nat) (covers : List Text → Prop)
    (path looked : List Text) : Staged Search → Prop
  | .ok search => search.stack = path ∧ (∀ id, id ∈ search.done ↔ Looked parents path looked id) ∧
      ∀ chain, FirstChain parents chain → covers chain → chain.length ≤ limit
  | .error _ => ∃ chain, FirstChain parents chain ∧ limit < chain.length

/-- It ends as a search in increasing order does. -/
theorem explores_iff {covers : List Text → Prop} {path looked : List Text} {result : Staged Search} :
    Explores parents limit covers path looked result ↔
      ExploresIn parents increasing Search.stack (fun search id => id ∈ search.done)
        (fun chain => chain.length ≤ limit) covers path looked result := by
  cases result with
  | error e =>
    refine exists_congr fun chain => ?_
    rw [firstChain_iff, not_le]
  | ok search =>
    refine and_congr_right fun _ => and_congr_right fun _ => forall_congr' fun chain => ?_
    rw [firstChain_iff]

/-- Where the search passes an identifier by, no first chain goes on with it. -/
theorem explores_pass {search : Search} {path looked : List Text} {id : Text}
    (hpass : Chain parents (path ++ [id]) → Looked parents path looked id)
    (hfront : Front parents path looked id) (hstack : search.stack = path)
    (hdone : ∀ id, id ∈ search.done ↔ Looked parents path looked id) :
    Explores parents limit (path ++ [id] <+: ·) path (looked ++ [id]) (.ok search) :=
  explores_iff.2 (exploresIn_pass hpass hfront hstack hdone)

/-- What the search from `path`, done with `looked`, does with one identifier. -/
theorem visitParent_explores {visit : Text → Search → Staged Search} {search : Search}
    {path looked : List Text} {id : Text}
    (hvisit : Chain parents (path ++ [id]) → id ∉ search.done →
      Explores parents limit (path ++ [id] <+: ·) path (looked ++ [id]) (visit id search))
    (hfront : Front parents path looked id) (hstack : search.stack = path)
    (hdone : ∀ id, id ∈ search.done ↔ Looked parents path looked id)
    (hstep : Chain parents (path ++ [id]) ∨ id ∈ path ∨ (parents id).isNone) :
    Explores parents limit (path ++ [id] <+: ·) path (looked ++ [id])
      (visitParent parents visit search id) := by
  unfold visitParent
  split_ifs with hskip hmem
  · refine explores_pass (fun hchain => ?_) hfront hstack hdone
    rcases hskip with hnone | hdone'
    · have hsome := hchain.isSome id (by simp)
      rw [Option.isNone_iff_eq_none.1 hnone] at hsome
      cases hsome
    · exact (hdone id).1 hdone'
  · refine explores_pass (fun hchain => ?_) hfront hstack hdone
    have hout := List.disjoint_singleton.1 (List.nodup_append'.1 hchain.nodup).2.2
    exact absurd (hstack ▸ hmem) hout
  · obtain ⟨hnone, hout⟩ := not_or.1 hskip
    refine hvisit ?_ hout
    exact hstep.resolve_right (not_or.2 ⟨hstack ▸ hmem, hnone⟩)

/-- A loop over the identifiers that chains may go on with after `path`. -/
theorem foldlM_explores {step : Search → Text → Staged Search} {path ids : List Text}
    (hsorted : ids.Pairwise (· < ·)) (hall : ∀ id, Chain parents (path ++ [id]) → id ∈ ids)
    (hstep : ∀ looked search, ∀ id ∈ ids, Front parents path looked id → search.stack = path →
      (∀ id, id ∈ search.done ↔ Looked parents path looked id) →
      Explores parents limit (path ++ [id] <+: ·) path (looked ++ [id]) (step search id))
    {search : Search} (hstack : search.stack = path)
    (hdone : ∀ id, id ∈ search.done ↔ Looked parents path [] id) :
    Explores parents limit (fun chain => ∃ id ∈ ids, path ++ [id] <+: chain) path ids
      (ids.foldlM step search) := by
  have hasymm : ∀ x y : Text, increasing path x y → ¬ increasing path y x := fun _ _ => List.lt_asymm
  refine explores_iff.2 (exploresIn_foldlM hasymm hsorted hall ?_ hstack hdone)
  exact fun looked search id hid hfront hstack hdone =>
    explores_iff.1 (hstep looked search id hid hfront hstack hdone)

theorem visit_explores (hsorted : ∀ id, ((parents id).getD []).Pairwise (· < ·)) (levels : Nat) :
    ∀ (path looked : List Text) (id : Text) (search : Search), Front parents path looked id →
    Chain parents (path ++ [id]) → search.stack = path →
    (∀ id, id ∈ search.done ↔ Looked parents path looked id) → id ∉ search.done →
    Explores parents (path.length + levels) (path ++ [id] <+: ·) path (looked ++ [id])
      (visit parents levels id search) := by
  induction levels with
  | zero =>
    intro path looked id search hfront hchain _ hdone hout
    rw [hdone] at hout
    exact ⟨_, firstChain_of_not_looked hfront hchain hout, by simp⟩
  | succ levels ih =>
    intro path looked id search hfront hchain hstack hdone hout
    rw [hdone] at hout
    have hfirst := firstChain_of_not_looked hfront hchain hout
    have hall : ∀ id', Chain parents (path ++ [id] ++ [id']) → id' ∈ (parents id).getD [] := by
      intro id' hchain'
      have hlink := (List.isChain_append.1 hchain'.isChain).2.2 id (by simp) id' (by simp)
      exact (List.mem_filter.1 hlink).1
    have hlength : (path ++ [id]).length + levels = path.length + (levels + 1) := by
      rw [List.length_append, List.length_singleton]
      omega
    have hstart : ∀ id', id' ∈ search.done ↔ Looked parents (path ++ [id]) [] id' := fun id' => by
      rw [looked_enter hfront, ← hdone]
    have hentered : ({ search with stack := search.stack ++ [id] } : Search).stack = path ++ [id] := by
      rw [hstack]
    have hloop := foldlM_explores (hsorted id) hall (fun looked search id' hid' hfront hstack hdone =>
      visitParent_explores (fun hchain hout =>
        ih (path ++ [id]) looked id' search hfront hchain hstack hdone hout) hfront hstack hdone ?_)
      hentered hstart
    · rw [visit]
      rw [hlength] at hloop
      cases hleft : ((parents id).getD []).foldlM (visitParent parents (visit parents levels))
          { search with stack := search.stack ++ [id] } with
      | error e =>
        rw [hleft] at hloop
        exact hloop
      | ok left =>
        rw [hleft] at hloop
        obtain ⟨hstack', hdone', hshort⟩ := hloop
        refine ⟨by simp [hstack'], fun id' => ?_, fun chain hfirst hpre => ?_⟩
        · rw [looked_leave hfront hchain hall, List.mem_cons, hdone']
        · obtain ⟨rest, rfl⟩ := hpre
          cases rest with
          | nil =>
            rw [List.append_nil, ← hlength]
            exact Nat.le_add_right _ _
          | cons id' rest =>
            have hpre : path ++ [id] ++ [id'] <+: path ++ [id] ++ id' :: rest :=
              ⟨rest, by simp⟩
            exact hshort _ hfirst ⟨id', hall id' (hfirst.toChain.of_prefix hpre), hpre⟩
    · by_cases hmem : id' ∈ path ++ [id]
      · exact .inr (.inl hmem)
      · cases hnone : parents id' with
        | none => exact .inr (.inr rfl)
        | some ids =>
          refine .inl (hchain.snoc List.getLast?_concat ?_ hmem)
          exact List.mem_filter.2 ⟨hid', by rw [hnone]; rfl⟩

end

/-! ## The accepted objects -/

section

variable [ImportLibrary]

/-- An accepted object: its parents are in order. -/
def AcceptedObject.Sorted (a : AcceptedObject) : Prop :=
  a.candidate.parentSourceObjectIds.Pairwise (· < ·)

omit [ImportLibrary] in
theorem pairwise_parentsOf {accepted : List AcceptedObject} (h : ∀ a ∈ accepted, a.Sorted)
    (id : Text) : ((parentsOf accepted id).getD []).Pairwise (· < ·) := by
  rw [parentsOf]
  cases hfind : accepted.find? fun a => a.sourceObjectId = id with
  | none => exact List.Pairwise.nil
  | some a => exact h a (List.mem_of_find?_eq_some hfind)

omit [ImportLibrary] in
theorem isSome_parentsOf_iff {accepted : List AcceptedObject} {id : Text} :
    (parentsOf accepted id).isSome ↔ id ∈ sourceIds accepted := by
  rw [parentsOf, Option.isSome_map, List.find?_isSome, sourceIds, List.mem_map]
  simp

/-- The search for cycles succeeds exactly if no first chain of parents is longer than the number
of calls that fit inside one another. -/
theorem cycleSourceIds_isOk_iff {accepted : List AcceptedObject}
    (hnodup : (sourceIds accepted).Nodup) (hsorted : ∀ a ∈ accepted, a.Sorted) :
    (cycleSourceIds accepted).isOk = true ↔
      ∀ chain, FirstChain (parentsOf accepted) chain → chain.length ≤ ImportLibrary.visitLevels := by
  have hroots : ((sourceIds accepted).insertionSort (· ≤ ·)).Pairwise (· < ·) := by
    have hle := List.pairwise_insertionSort (· ≤ ·) (sourceIds accepted)
    have hne := (List.perm_insertionSort (· ≤ ·) (sourceIds accepted)).nodup_iff.2 hnodup
    exact (hle.and hne).imp fun h => lt_of_le_of_ne h.1 h.2
  have hmem : ∀ id, Chain (parentsOf accepted) ([] ++ [id]) →
      id ∈ (sourceIds accepted).insertionSort (· ≤ ·) := fun id hchain =>
    (List.mem_insertionSort _).2 (isSome_parentsOf_iff.1 (hchain.isSome id (by simp)))
  have hstart : ∀ id, id ∈ (⟨[], [], []⟩ : Search).done ↔ Looked (parentsOf accepted) [] [] id :=
    fun id => iff_of_false List.not_mem_nil not_looked_nil
  have hloop : Explores (parentsOf accepted) ImportLibrary.visitLevels _ [] _
      (((sourceIds accepted).insertionSort (· ≤ ·)).foldlM (fun search sourceObjectId =>
        if sourceObjectId ∈ search.done then .ok search
        else visit (parentsOf accepted) ImportLibrary.visitLevels sourceObjectId search) _) :=
    foldlM_explores hroots hmem (fun looked search id hid hfront hstack hdone => ?_) rfl hstart
  · cases hsearch : cycleSourceIds accepted with
    | error e =>
      have herror := (bind_eq_error.1 hsearch).resolve_right (by
        rintro ⟨search, -, h⟩
        cases h)
      rw [show (sourceIds accepted) = accepted.map AcceptedObject.sourceObjectId from rfl,
        herror] at hloop
      obtain ⟨chain, hfirst, hlong⟩ := hloop
      exact iff_of_false (by simp [Except.isOk, Except.toBool]) fun hshort =>
        absurd (hshort chain hfirst) (not_le.2 hlong)
    | ok cycles =>
      obtain ⟨search, hok, -⟩ := bind_eq_ok.1 hsearch
      rw [show (sourceIds accepted) = accepted.map AcceptedObject.sourceObjectId from rfl,
        hok] at hloop
      obtain ⟨-, -, hshort⟩ := hloop
      refine iff_of_true rfl fun chain hfirst => ?_
      cases chain with
      | nil => exact Nat.zero_le _
      | cons id rest =>
        have hpre : [] ++ [id] <+: id :: rest := ⟨rest, rfl⟩
        exact hshort _ hfirst ⟨id, hmem id (hfirst.toChain.of_prefix hpre), hpre⟩
  · split_ifs with hmem
    · exact explores_pass (fun _ => (hdone id).1 hmem) hfront hstack hdone
    · have hchain : Chain (parentsOf accepted) ([] ++ [id]) :=
        ⟨List.nodup_singleton _, by
          simpa [isSome_parentsOf_iff] using (List.mem_insertionSort _).1 hid, List.isChain_singleton _⟩
      have hexplores := visit_explores (pairwise_parentsOf hsorted) ImportLibrary.visitLevels [] looked id
        search hfront hchain hstack hdone hmem
      rwa [List.length_nil, Nat.zero_add] at hexplores

end

end DollState.Import
