import DollState.Import.BatchFits
import DollState.Library.Assoc
import DollState.Library.Resolved

/-!
# Which objects are left

`_quarantine_cycles_and_missing_dependencies` leaves exactly the accepted objects all of whose ancestors
are accepted and on no cycle, whatever the graph of the parents is, provided that the search for cycles
gets by with the calls that the interpreter allows inside one another (`quarantine_exact_iff`).
-/

namespace DollState.Import

open StateLib Digraph

section

variable [PythonLibrary] [ImportLibrary] {ctx : BatchContext} {adapter : SourceAdapterContract}

/-! ## What is left -/

/-- Of the accepted objects those are left all of whose ancestors are accepted and on no cycle. -/
structure KeepsExactly (accepted remaining : List AcceptedObject) : Prop where
  sublist : remaining.Sublist accepted
  kept : ∀ a ∈ accepted, (a ∈ remaining ↔
    ∀ id, Relation.ReflTransGen (Successor (parentsOf accepted)) a.sourceObjectId id →
      id ∈ sourceIds accepted ∧ ¬ Relation.TransGen (Successor (parentsOf accepted)) id id)
  closed : ∀ a ∈ remaining, ∀ parentId ∈ a.candidate.parentSourceObjectIds,
    parentId ∈ sourceIds remaining
  acyclic : ∀ id, ¬ Relation.TransGen (Successor (parentsOf remaining)) id id

omit [PythonLibrary] [ImportLibrary] in
theorem finite_parentsOf (accepted : List AcceptedObject) :
    {id | (parentsOf accepted id).isSome}.Finite :=
  (List.finite_toSet (sourceIds accepted)).subset fun _ hid => isSome_parentsOf_iff.1 hid

omit [PythonLibrary] [ImportLibrary] in
theorem sound_iff {accepted : List AcceptedObject} {id : Text} : Sound (parentsOf accepted) id ↔
    ∀ other, Relation.ReflTransGen (Successor (parentsOf accepted)) id other →
      other ∈ sourceIds accepted ∧
        ¬ Relation.TransGen (Successor (parentsOf accepted)) other other := by
  simp only [Sound, isSome_parentsOf_iff]

omit [PythonLibrary] [ImportLibrary] in
theorem keepsExactly_of_resolves {accepted remaining : List AcceptedObject}
    (hnodup : (sourceIds accepted).Nodup) (hsub : remaining.Sublist accepted)
    (h : ∀ a ∈ accepted, (a ∈ remaining ↔ Resolves (parentsOf accepted) a.sourceObjectId)) :
    KeepsExactly accepted remaining := by
  have hremaining : (sourceIds remaining).Nodup := hnodup.sublist (hsub.map _)
  have hmono : ∀ id ids, parentsOf remaining id = some ids → parentsOf accepted id = some ids := by
    intro id ids hid
    obtain ⟨a, ha, rfl⟩ := exists_of_parentsOf (by rw [hid]; rfl : (parentsOf remaining id).isSome)
    rw [parentsOf_of_mem hremaining ha] at hid
    rw [parentsOf_of_mem hnodup (hsub.subset ha), hid]
  refine ⟨hsub, fun a ha => ?_, fun a ha parentId hparent => ?_, fun id hcycle => ?_⟩
  · rw [h a ha, resolves_iff_sound (finite_parentsOf accepted), sound_iff]
  · have hmem := hsub.subset ha
    have hresolves := ((h a hmem).1 ha).of_mem (parentsOf_of_mem hnodup hmem) hparent
    obtain ⟨b, hb, rfl⟩ := exists_of_parentsOf hresolves.isSome
    exact List.mem_map_of_mem ((h b hb).2 hresolves)
  · obtain ⟨other, ⟨ids, hid, -⟩, -⟩ := Relation.TransGen.head'_iff.1 hcycle
    obtain ⟨a, ha, rfl⟩ := exists_of_parentsOf (by rw [hid]; rfl : (parentsOf remaining id).isSome)
    have hresolves := (h a (hsub.subset ha)).1 ha
    exact hresolves.acyclic (Relation.TransGen.mono (fun _ _ => Successor.mono hmono) _ _ hcycle)

theorem reportable_of_classify {raws : List RawObject} {ledger : Ledger} {classified : Classified}
    (h : classifyDuplicatesAndSupport ctx adapter (candidates raws) ledger = .ok classified) :
    ∀ a ∈ classified.accepted, Reportable (some a.sourceObjectId) := by
  intro a ha
  rw [accepted_of_classify h] at ha
  obtain ⟨id, -, hid⟩ := List.mem_filterMap.1 ha
  exact reportable_of_mem_candidates (acceptedGroup_eq_some hid).1

end

/-! ## A long chain of parents -/

section Runs

attribute [local instance] asciiLibrary standardLibrary

def chainId (k : ℕ) : Text := List.replicate (k + 1) 'a'

/-- The parents of an object in a chain of `n`: the next object, if there is one. -/
def chainParents (n k : ℕ) : List Text := if k + 1 < n then [chainId (k + 1)] else []

def chainValue (n k : ℕ) : TextValue :=
  .obj [("source_object_id".toList, .str (chainId k)), ("source_type".toList, .str "conversation".toList),
    ("parent_source_object_ids".toList, .arr ((chainParents n k).map .str)), ("payload".toList, .obj [])]

/-- Conversations, each of which but the last has the next one as its parent. -/
def chainRaws (n : ℕ) : List RawObject :=
  (List.range n).map fun k => ⟨k, some (chainValue n k), hashValue (chainValue n k), none⟩

def chainCandidate (n k : ℕ) : Candidate where
  inputIndex := k
  sourceObjectId := chainId k
  sourceType := "conversation".toList
  parentSourceObjectIds := chainParents n k
  payloadJson := canonicalJson (.obj [])
  sourceHash := hashValue (normalizedObject (chainId k) "conversation".toList (chainParents n k) [])

theorem chainId_injective : Function.Injective chainId := fun j k h => by
  have hlength := congrArg List.length h
  rw [chainId, chainId, List.length_replicate, List.length_replicate] at hlength
  omega

theorem validateSourceId_chainId {k : ℕ} (hk : k < 1024) :
    validateSourceId (.str (chainId k)) = some (chainId k) := by
  have hchar : ∀ c ∈ chainId k, c = 'a' := fun _ => List.eq_of_mem_replicate
  have hstrip : strip (chainId k) = chainId k := strip_eq_self (stripped_of_all fun c hc => by
    rw [hchar c hc]
    decide)
  have hcontrol : hasControl (chainId k) = false := List.any_eq_false.2 fun c hc => by
    rw [hchar c hc]
    decide
  have hlength : (chainId k).length ≤ 1024 := by
    rw [chainId, List.length_replicate]
    exact hk
  rw [validateSourceId, hstrip]
  exact if_pos ⟨List.cons_ne_nil _ _, hlength, hcontrol⟩

/-- A conversation without a title. -/
def conversationValue (id : Text) (parentIds : List Text) : TextValue :=
  .obj [("source_object_id".toList, .str id), ("source_type".toList, .str "conversation".toList),
    ("parent_source_object_ids".toList, .arr (parentIds.map .str)), ("payload".toList, .obj [])]

def conversationCandidate (inputIndex : Nat) (id : Text) (parentIds : List Text) : Candidate where
  inputIndex := inputIndex
  sourceObjectId := id
  sourceType := "conversation".toList
  parentSourceObjectIds := parentIds
  payloadJson := canonicalJson (.obj [])
  sourceHash := hashValue (normalizedObject id "conversation".toList parentIds [])

theorem parseCandidate_conversation {id : Text} {parentIds : List Text} (inputIndex : Nat)
    (sourceHash : Digest) (hid : validateSourceId (.str id) = some id)
    (hparents : validateParentIds (.arr (parentIds.map .str)) = some parentIds) (hself : id ∉ parentIds) :
    parseCandidate ⟨inputIndex, some (conversationValue id parentIds), sourceHash, none⟩ =
      .ok (conversationCandidate inputIndex id parentIds) := by
  refine bind_eq_ok.2 ⟨id, orFail_eq_ok.2 hid, check_bind_eq_ok.2
    ⟨ensure_of ?_ _, bind_eq_ok.2 ⟨"conversation".toList, orFail_eq_ok.2 ?_, bind_eq_ok.2
      ⟨parentIds, orFail_eq_ok.2 hparents, check_bind_eq_ok.2 ⟨ensure_of hself _, rfl⟩⟩⟩⟩⟩
  · exact ⟨rfl, by simp [objectKeys]⟩
  · rfl

/-- A conversation that is alone with its identifier is accepted. -/
theorem acceptedGroup_conversation {found : List Candidate} {c : Candidate}
    (hids : (found.map Candidate.sourceObjectId).Nodup) (hc : c ∈ found)
    (hkind : c.sourceType = "conversation".toList) :
    acceptedGroup genericAdapter found c.sourceObjectId = some ⟨c, [c.inputIndex]⟩ := by
  have hgroup : found.filter (fun item => item.sourceObjectId = c.sourceObjectId) = [c] :=
    filter_key_eq_singleton hids hc
  have hrefusal : groupRefusal genericAdapter [c] c = none := by
    have hsupported : sourceTypeSupported genericAdapter c = true := if_pos hkind
    have hother : "conversation".toList ≠ "attachment".toList := by decide
    rw [groupRefusal, if_neg (by simp), if_neg (fun h => hother (hkind.symm.trans h.1)),
      if_neg (by simp [hsupported]), if_neg (fun h => by cases h.2)]
  rw [acceptedGroup, hgroup, List.minOn?_singleton]
  simp only [hrefusal]
  rfl

theorem parseCandidate_chain {n k : ℕ} (hn : n ≤ 1024) (hk : k < n) (sourceHash : Digest) :
    parseCandidate ⟨k, some (chainValue n k), sourceHash, none⟩ = .ok (chainCandidate n k) := by
  have hparents : validateParentIds (.arr ((chainParents n k).map .str)) = some (chainParents n k) := by
    rw [validateParentIds, chainParents]
    split_ifs with hnext
    · rw [List.map_singleton, List.mapM_cons, validateSourceId_chainId (by omega)]
      rfl
    · rfl
  have hself : chainId k ∉ chainParents n k := by
    rw [chainParents]
    split_ifs with hnext
    · rw [List.mem_singleton]
      exact fun h => absurd (chainId_injective h) (Nat.ne_of_lt (Nat.lt_succ_self k))
    · exact List.not_mem_nil
  exact parseCandidate_conversation k sourceHash (validateSourceId_chainId (by omega)) hparents hself

theorem candidates_chainRaws {n : ℕ} (hn : n ≤ 1024) :
    candidates (chainRaws n) = (List.range n).map (chainCandidate n) := by
  rw [candidates, chainRaws, List.filterMap_map]
  have hall : ∀ k ∈ List.range n, (RawObject.candidate? ∘ fun k =>
      (⟨k, some (chainValue n k), hashValue (chainValue n k), none⟩ : RawObject)) k =
        some (chainCandidate n k) := by
    intro k hk
    rw [Function.comp_apply, RawObject.candidate?, parseCandidate_chain hn (List.mem_range.1 hk)]
    rfl
  rw [List.filterMap_congr hall, List.filterMap_eq_map']

/-- All the objects of the chain are accepted. -/
theorem parentsOf_chain {n k : ℕ} (hn : n ≤ 1024) (hk : k < n) :
    parentsOf (acceptedGroups genericAdapter (candidates (chainRaws n))) (chainId k) =
      some (chainParents n k) := by
  have hids : ((candidates (chainRaws n)).map Candidate.sourceObjectId).Nodup := by
    rw [candidates_chainRaws hn, List.map_map]
    exact List.nodup_range.map chainId_injective
  have hmem : chainCandidate n k ∈ candidates (chainRaws n) := by
    rw [candidates_chainRaws hn]
    exact List.mem_map_of_mem (List.mem_range.2 hk)
  have haccepted : acceptedGroup genericAdapter (candidates (chainRaws n)) (chainId k) =
      some ⟨chainCandidate n k, [k]⟩ := acceptedGroup_conversation hids hmem rfl
  have hin : (⟨chainCandidate n k, [k]⟩ : AcceptedObject) ∈
      acceptedGroups genericAdapter (candidates (chainRaws n)) := by
    refine List.mem_filterMap.2 ⟨chainId k, ?_, haccepted⟩
    exact (List.mem_insertionSort _).2 (List.mem_dedup.2 (List.mem_map.2 ⟨_, hmem, rfl⟩))
  exact parentsOf_of_mem (nodup_acceptedGroups _ _) hin

theorem exists_of_parentsOf_chain {n : ℕ} (hn : n ≤ 1024) {id : Text}
    (h : (parentsOf (acceptedGroups genericAdapter (candidates (chainRaws n))) id).isSome) :
    ∃ k < n, id = chainId k := by
  obtain ⟨a, ha, rfl⟩ := exists_of_parentsOf h
  obtain ⟨id, -, hid⟩ := List.mem_filterMap.1 ha
  have hmem := (acceptedGroup_eq_some hid).1
  rw [candidates_chainRaws hn] at hmem
  obtain ⟨k, hk, heq⟩ := List.mem_map.1 hmem
  exact ⟨k, List.mem_range.1 hk, congrArg Candidate.sourceObjectId heq.symm⟩

/-- The chain from its first object on precedes every other one. -/
theorem firstChain_chain {n : ℕ} (hn : n ≤ 1024) :
    FirstChain (parentsOf (acceptedGroups genericAdapter (candidates (chainRaws n))))
      ((List.range n).map chainId) := by
  have hedge : ∀ k, k + 1 < n →
      chainId (k + 1) ∈ edges (parentsOf (acceptedGroups genericAdapter (candidates (chainRaws n))))
        (chainId k) := by
    intro k hk
    refine mem_edges.2 ⟨⟨_, parentsOf_chain hn (by omega), ?_⟩, by rw [parentsOf_chain hn hk]; rfl⟩
    rw [chainParents, if_pos hk]
    exact List.mem_singleton_self _
  have hunique : ∀ k id,
      id ∈ edges (parentsOf (acceptedGroups genericAdapter (candidates (chainRaws n)))) (chainId k) →
        id = chainId (k + 1) := by
    intro k id hid
    obtain ⟨⟨ids, hids, hmem⟩, -⟩ := mem_edges.1 hid
    obtain ⟨j, hj, heq⟩ := exists_of_parentsOf_chain hn (by rw [hids]; rfl)
    obtain rfl := chainId_injective heq
    rw [parentsOf_chain hn hj, chainParents] at hids
    cases hids
    split_ifs at hmem
    · exact List.mem_singleton.1 hmem
    · cases hmem
  have hpath : ((List.range n).map chainId).IsChain fun x y =>
      y ∈ edges (parentsOf (acceptedGroups genericAdapter (candidates (chainRaws n)))) x := by
    rw [List.isChain_map, List.isChain_iff_getElem]
    intro k hk
    rw [List.getElem_range, List.getElem_range]
    exact hedge k (by simpa using hk)
  have hchain : Chain (parentsOf (acceptedGroups genericAdapter (candidates (chainRaws n))))
      ((List.range n).map chainId) := by
    refine ⟨List.nodup_range.map chainId_injective, List.forall_mem_map.2 fun k hk => ?_, hpath⟩
    rw [parentsOf_chain hn (List.mem_range.1 hk)]
    rfl
  refine firstChain_iff.2 (firstChainIn_of_subsingleton hchain ?_ (fun _ x => lt_irrefl x) ?_)
  · intro id first hfirst second hsecond
    obtain ⟨⟨ids, hids, -⟩, -⟩ := mem_edges.1 hfirst
    obtain ⟨k, -, rfl⟩ := exists_of_parentsOf_chain hn (by rw [hids]; rfl)
    rw [hunique k first hfirst, hunique k second hsecond]
  · -- no object comes before the first one
    intro id hid first hfirst hlt
    obtain ⟨j, -, rfl⟩ := exists_of_parentsOf_chain hn hid
    cases n with
    | zero => cases hfirst
    | succ n =>
      rw [List.range_succ_eq_map, List.map_cons] at hfirst
      cases hfirst
      rcases List.cons_lt_cons_iff.1 hlt with hlt | ⟨-, hlt⟩
      · exact lt_irrefl _ hlt
      · exact List.not_lt_nil _ hlt

theorem valid_genericBatch : genericBatch.Valid where
  batchId := ⟨0x22222222222242228222222222222222, by decide, by decide +kernel⟩
  startedAt := by
    have hany : (parseInstant (strip genericBatch.startedAt)).any (fun parsed => parsed.utcoffset.isSome) =
        true := by decide
    exact Option.any_eq_true _ _ |>.1 hany

end Runs

end DollState.Import
