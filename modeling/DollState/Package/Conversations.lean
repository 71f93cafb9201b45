import DollState.Library.Resolved
import DollState.Library.SearchOrder
import DollState.Package.Lines

/-!
# The graph of conversation events

The model of `_validate_conversation_package_graph`: events refer to their parents in the same
conversation, and a recursive search looks for cycles. It enters an event along the first chain of parents
that leads to it, in the order in which the package lists the events and each event its parents, and
`validateConversationPackageGraph_eq_ok_iff` says which sets of events it accepts.
-/

namespace DollState.Package

open StateLib Digraph

/-! ## Events -/

def maxConversationParents : ℕ := 64

/-- A `ConversationEventRecord`, as far as its place in the graph goes. -/
structure ConversationEvent where
  eventId : RecordId
  conversationId : RecordId
  parentEventIds : List RecordId
  irrefl : eventId ∉ parentEventIds
  nodup : parentEventIds.Nodup
  length_le : parentEventIds.length ≤ maxConversationParents

def eventIds (events : List ConversationEvent) : List RecordId := events.map ConversationEvent.eventId

/-- The conversations and the events of a package, in the order of its lines. -/
structure ConversationRecords where
  conversations : List RecordId
  events : List ConversationEvent
  nodup : (eventIds events).Nodup

def findEvent (events : List ConversationEvent) (eventId : RecordId) : Option ConversationEvent :=
  events.find? fun event => event.eventId = eventId

/-- `graph`. -/
def ConversationRecords.graph (records : ConversationRecords) (eventId : RecordId) :
    Option (List RecordId) :=
  (findEvent records.events eventId).map ConversationEvent.parentEventIds

/-! ## Saving -/

/-- `save_conversation_event`, on the events of a state; the error is the text of the exception. -/
def saveConversationEvent (conversations : List RecordId) (events : List ConversationEvent)
    (event : ConversationEvent) : Except String (List ConversationEvent) := do
  ensure (event.conversationId ∈ conversations) (String.ofList (uuidText event.conversationId))
  forEach (fun parentId => do
    let parent ← orFail "parent event does not exist" (findEvent events parentId)
    ensure (parent.conversationId = event.conversationId)
      "parent event belongs to a different conversation") event.parentEventIds
  ensure (event.eventId ∉ eventIds events) "record identifier already exists"
  return events ++ [event]

/-- The sets of events that saving can build. -/
inductive Built (conversations : List RecordId) : List ConversationEvent → Prop
  | nil : Built conversations []
  | save {events events' : List ConversationEvent} {event : ConversationEvent}
      (h : Built conversations events)
      (hsave : saveConversationEvent conversations events event = .ok events') :
      Built conversations events'

/-! ## Validation -/

/-- `visiting` and `visited`. -/
structure Visits where
  visiting : List RecordId
  visited : List RecordId

/-- The checks of an event and its parents. -/
def checkEvent (records : ConversationRecords) (event : ConversationEvent) : Packaged Unit := do
  ensure (event.conversationId ∈ records.conversations)
    (validation "conversation event references a missing conversation")
  forEach (fun parentId => do
    let parent ← orFail (validation "conversation event references a missing parent")
      (findEvent records.events parentId)
    ensure (parent.conversationId = event.conversationId)
      (validation "conversation event parent crosses conversation scope")) event.parentEventIds

/-- `visit`, with as many calls inside one another as `levels`. -/
def visit (graph : RecordId → Option (List RecordId)) : ℕ → Visits → RecordId → Packaged Visits
  | 0, _, _ => .error recursionError
  | levels + 1, visits, eventId => do
    ensure (eventId ∉ visits.visiting) (validation "conversation event graph contains a cycle")
    if eventId ∈ visits.visited then return visits
    let left ← ((graph eventId).getD []).foldlM (visit graph levels)
      { visits with visiting := visits.visiting ++ [eventId] }
    return ⟨left.visiting.erase eventId, eventId :: left.visited⟩

/-- `_validate_conversation_package_graph`, where `levels` calls of `visit` fit inside one another. -/
def validateConversationPackageGraph (levels : ℕ) (records : ConversationRecords) : Packaged Unit := do
  forEach (checkEvent records) records.events
  let _ ← (eventIds records.events).foldlM (visit records.graph levels) ⟨[], []⟩
  return ()

/-! ## Which sets are well-formed -/

/-- Every event belongs to a conversation of the package, its parents are events of the same conversation,
and no event is its own ancestor. -/
structure ConversationRecords.WellFormed (records : ConversationRecords) : Prop where
  conversation : ∀ event ∈ records.events, event.conversationId ∈ records.conversations
  parents : ∀ event ∈ records.events, ∀ parentId ∈ event.parentEventIds,
    ∃ parent ∈ records.events, parent.eventId = parentId ∧
      parent.conversationId = event.conversationId
  acyclic : ∀ eventId, ¬ Relation.TransGen (Successor records.graph) eventId eventId

theorem findEvent_eq_some {events : List ConversationEvent} (hnodup : (eventIds events).Nodup)
    {eventId : RecordId} {event : ConversationEvent} :
    findEvent events eventId = some event ↔ event ∈ events ∧ event.eventId = eventId := by
  have hfound : ∀ {eventId event}, findEvent events eventId = some event →
      event ∈ events ∧ event.eventId = eventId := fun h =>
    ⟨List.mem_of_find?_eq_some h, by simpa using List.find?_some h⟩
  refine ⟨hfound, ?_⟩
  rintro ⟨hmem, rfl⟩
  obtain ⟨other, hother⟩ : ∃ other, findEvent events event.eventId = some other :=
    Option.isSome_iff_exists.1 (List.find?_isSome.2 ⟨event, hmem, decide_eq_true rfl⟩)
  obtain ⟨hin, hid⟩ := hfound hother
  rw [hother, List.inj_on_of_nodup_map hnodup hin hmem hid]

theorem ConversationRecords.graph_eq_some {records : ConversationRecords} {eventId : RecordId}
    {parents : List RecordId} : records.graph eventId = some parents ↔
      ∃ event ∈ records.events, event.eventId = eventId ∧ event.parentEventIds = parents := by
  rw [graph, Option.map_eq_some_iff]
  simp only [findEvent_eq_some records.nodup, and_assoc]

theorem ConversationRecords.isSome_graph {records : ConversationRecords} {eventId : RecordId} :
    (records.graph eventId).isSome ↔ eventId ∈ eventIds records.events := by
  rw [Option.isSome_iff_exists]
  simp only [graph_eq_some, eventIds, List.mem_map]
  constructor
  · rintro ⟨-, event, hevent, heq, -⟩
    exact ⟨event, hevent, heq⟩
  · rintro ⟨event, hevent, heq⟩
    exact ⟨_, event, hevent, heq, rfl⟩

theorem checkEvent_eq_ok_iff {records : ConversationRecords} {event : ConversationEvent} :
    checkEvent records event = .ok () ↔ event.conversationId ∈ records.conversations ∧
      ∀ parentId ∈ event.parentEventIds, ∃ parent ∈ records.events,
        parent.eventId = parentId ∧ parent.conversationId = event.conversationId := by
  rw [checkEvent, check_bind_eq_ok, ensure_eq_ok, forEach_eq_ok]
  simp only [bind_eq_ok, orFail_eq_ok, ensure_eq_ok, findEvent_eq_some records.nodup, and_assoc]

theorem saveConversationEvent_eq_ok_iff {conversations : List RecordId}
    {events events' : List ConversationEvent} (hnodup : (eventIds events).Nodup)
    {event : ConversationEvent} :
    saveConversationEvent conversations events event = .ok events' ↔
      event.conversationId ∈ conversations ∧
      (∀ parentId ∈ event.parentEventIds, ∃ parent ∈ events, parent.eventId = parentId ∧
        parent.conversationId = event.conversationId) ∧
      event.eventId ∉ eventIds events ∧ events' = events ++ [event] := by
  rw [saveConversationEvent, check_bind_eq_ok, ensure_eq_ok, check_bind_eq_ok, forEach_eq_ok,
    check_bind_eq_ok, ensure_eq_ok, pure_eq_ok, eq_comm (a := events ++ [event])]
  simp only [bind_eq_ok, orFail_eq_ok, ensure_eq_ok, findEvent_eq_some hnodup, and_assoc]

/-! ## What saving builds -/

/-- What is kept as events are saved: each has its conversation, and its parents before it. -/
structure Layered (conversations : List RecordId) (events : List ConversationEvent) : Prop where
  nodup : (eventIds events).Nodup
  conversation : ∀ event ∈ events, event.conversationId ∈ conversations
  parents : ∀ before event after, events = before ++ event :: after →
    ∀ parentId ∈ event.parentEventIds, ∃ parent ∈ before, parent.eventId = parentId ∧
      parent.conversationId = event.conversationId

theorem Layered.save {conversations : List RecordId} {events events' : List ConversationEvent}
    {event : ConversationEvent} (h : Layered conversations events)
    (hsave : saveConversationEvent conversations events event = .ok events') :
    Layered conversations events' := by
  obtain ⟨hconversation, hparents, hnew, rfl⟩ := (saveConversationEvent_eq_ok_iff h.nodup).1 hsave
  refine ⟨?_, ?_, fun before other after heq => ?_⟩
  · rw [eventIds, List.map_append, List.nodup_append']
    exact ⟨h.nodup, List.nodup_singleton _, List.disjoint_singleton.2 hnew⟩
  · exact List.forall_mem_append.2 ⟨h.conversation, List.forall_mem_singleton.2 hconversation⟩
  · rcases List.eq_nil_or_concat' after with rfl | ⟨after, last, rfl⟩
    · obtain ⟨rfl, hother⟩ := List.append_inj' heq rfl
      cases hother
      exact hparents
    · rw [← List.cons_append, ← List.append_assoc] at heq
      obtain ⟨rfl, -⟩ := List.append_inj' heq rfl
      exact h.parents before other after rfl

theorem Built.layered {conversations : List RecordId} {events : List ConversationEvent}
    (h : Built conversations events) : Layered conversations events := by
  induction h with
  | nil => exact ⟨List.nodup_nil, by simp, by simp⟩
  | save _ hsave ih => exact ih.save hsave

theorem ConversationRecords.graph_of_mem {records : ConversationRecords} {event : ConversationEvent}
    (h : event ∈ records.events) : records.graph event.eventId = some event.parentEventIds :=
  graph_eq_some.2 ⟨event, h, rfl, rfl⟩

/-- Events that are all resolved are on no cycle. -/
theorem acyclic_of_resolves {records : ConversationRecords}
    (h : ∀ event ∈ records.events, Resolves records.graph event.eventId) (eventId : RecordId) :
    ¬ Relation.TransGen (Successor records.graph) eventId eventId := by
  intro hcycle
  obtain ⟨other, ⟨parents, hparents, -⟩, -⟩ := Relation.TransGen.head'_iff.1 hcycle
  obtain ⟨event, hevent, rfl, -⟩ := ConversationRecords.graph_eq_some.1 hparents
  exact (h event hevent).acyclic hcycle

/-- Whatever the order is in which a package lists the events that have been saved. -/
theorem Built.wellFormed {conversations : List RecordId} {events : List ConversationEvent}
    (h : Built conversations events) {records : ConversationRecords}
    (hconversations : conversations ⊆ records.conversations) (hperm : records.events.Perm events) :
    records.WellFormed := by
  have hlayered := h.layered
  have hresolves : ∀ before, before <+: events → ∀ event ∈ before,
      Resolves records.graph event.eventId := by
    intro before
    induction before using List.reverseRecOn with
    | nil => exact fun _ _ hevent => nomatch hevent
    | append_singleton before last ih =>
      rintro ⟨after, rfl⟩
      have hbefore := ih ⟨last :: after, List.append_cons _ _ _⟩
      refine List.forall_mem_append.2 ⟨hbefore, List.forall_mem_singleton.2 ?_⟩
      refine .intro (ConversationRecords.graph_of_mem (hperm.mem_iff.2 (by simp))) fun parentId hparent => ?_
      obtain ⟨parent, hmem, rfl, -⟩ := hlayered.parents before last after (List.append_cons _ _ _).symm
        parentId hparent
      exact hbefore parent hmem
  refine ⟨fun event hevent => hconversations (hlayered.conversation event (hperm.subset hevent)),
    fun event hevent parentId hparent => ?_, acyclic_of_resolves fun event hevent =>
      hresolves events (List.prefix_refl _) event (hperm.subset hevent)⟩
  obtain ⟨before, after, heq⟩ := List.append_of_mem (hperm.subset hevent)
  obtain ⟨parent, hmem, hid, hsame⟩ := hlayered.parents before event after heq parentId hparent
  exact ⟨parent, hperm.mem_iff.2 (heq ▸ List.mem_append_left _ hmem), hid, hsame⟩

/-! ## What the search finds -/

section

variable {graph : RecordId → Option (List RecordId)}

/-- After a part of the search what it has visited is still resolved, nothing of it is forgotten, and the
events `ids` are among it. -/
structure Advances (graph : RecordId → Option (List RecordId)) (ids : List RecordId) (visits visits' : Visits) :
    Prop where
  resolved : (∀ x ∈ visits.visited, Resolves graph x) → ∀ x ∈ visits'.visited, Resolves graph x
  kept : visits.visited ⊆ visits'.visited
  visited : ∀ x ∈ ids, x ∈ visits'.visited

theorem Advances.foldlM {step : Visits → RecordId → Packaged Visits} {ids : List RecordId}
    (hstep : ∀ y ∈ ids, ∀ visits visits', step visits y = .ok visits' → Advances graph [y] visits visits')
    {visits visits' : Visits} (h : ids.foldlM step visits = .ok visits') :
    Advances graph ids visits visits' := by
  refine foldlM_induction (fun looked next => Advances graph looked visits next)
    ⟨id, List.Subset.refl _, nofun⟩ ?_ h
  rintro looked y rest next next' rfl hnext hvisit
  have hy := hstep y (by simp) next next' hvisit
  exact ⟨fun hvisits => hy.resolved (hnext.resolved hvisits), fun x hx => hy.kept (hnext.kept hx),
    List.forall_mem_append.2 ⟨fun x hx => hy.kept (hnext.visited x hx), hy.visited⟩⟩

theorem visit_advances (hclosed : ∀ x parents, graph x = some parents → ∀ y ∈ parents, (graph y).isSome)
    (levels : ℕ) : ∀ (eventId : RecordId) (visits visits' : Visits), (graph eventId).isSome →
      visit graph levels visits eventId = .ok visits' → Advances graph [eventId] visits visits' := by
  induction levels with
  | zero => exact fun _ _ _ _ h => nomatch h
  | succ levels ih =>
    intro eventId visits visits' hnode h
    rw [visit] at h
    obtain ⟨-, h⟩ := check_bind_eq_ok.1 h
    split_ifs at h with hvisited
    · cases h
      exact ⟨id, List.Subset.refl _, List.forall_mem_singleton.2 hvisited⟩
    · obtain ⟨left, hloop, h⟩ := bind_eq_ok.1 h
      cases h
      obtain ⟨parents, hparents⟩ := Option.isSome_iff_exists.1 hnode
      rw [hparents, Option.getD_some] at hloop
      have hleft := Advances.foldlM (fun y hy next next' hvisit =>
        ih y next next' (hclosed eventId parents hparents y hy) hvisit) hloop
      refine ⟨fun hvisits => ?_, fun x hx => List.mem_cons_of_mem _ (hleft.kept hx),
        List.forall_mem_singleton.2 List.mem_cons_self⟩
      have hresolved := hleft.resolved hvisits
      exact List.forall_mem_cons.2
        ⟨.intro hparents fun y hy => hresolved y (hleft.visited y hy), hresolved⟩

/-- The calls of a chain of events fit inside one another, and so do those for the parents of its last. -/
def Fits (graph : RecordId → Option (List RecordId)) (levels : ℕ) (chain : List RecordId) : Prop :=
  chain.length ≤ levels ∧ ∀ x ∈ chain.getLast?, (graph x).getD [] ≠ [] → chain.length + 1 ≤ levels

/-- How a part of the search of a graph ends, where `levels` calls fit inside one another. -/
def Explored (graph : RecordId → Option (List RecordId)) (roots : List RecordId) (levels : ℕ)
    (covers : List RecordId → Prop) (path looked : List RecordId) (result : Packaged Visits) : Prop :=
  ExploresIn graph (inTurn graph roots) Visits.visiting (fun visits x => x ∈ visits.visited)
    (Fits graph levels) covers path looked result

variable {roots : List RecordId}

/-- What chains may go on with after an event is among its parents. -/
theorem mem_parents_of_chain {path : List RecordId} {x y : RecordId}
    (h : Chain graph (path ++ [x] ++ [y])) : y ∈ (graph x).getD [] := by
  have hlink := (List.isChain_append.1 h.isChain).2.2 x (by simp) y (by simp)
  exact (List.mem_filter.1 hlink).1

/-- In an acyclic graph every parent of the last event is new on the path. -/
theorem chain_snoc_parent (hclosed : ∀ x parents, graph x = some parents → ∀ y ∈ parents, (graph y).isSome)
    (hacyclic : ∀ x, ¬ Relation.TransGen (Successor graph) x x) {path : List RecordId} {x y : RecordId}
    (h : Chain graph (path ++ [x])) (hy : y ∈ (graph x).getD []) : Chain graph (path ++ [x] ++ [y]) := by
  obtain ⟨parents, hparents⟩ := Option.isSome_iff_exists.1 (h.isSome x (by simp))
  rw [hparents, Option.getD_some] at hy
  refine h.snoc List.getLast?_concat (mem_edges.2 ⟨⟨parents, hparents, hy⟩, hclosed x parents hparents y hy⟩)
    fun hmem => hacyclic y ?_
  have hpath : Relation.ReflTransGen (Successor graph) y x :=
    Relation.ReflTransGen.mono (fun _ _ hb => (mem_edges.1 hb).1) _ _ (reaches_of_last h.isChain hmem)
  exact Relation.TransGen.tail' hpath ⟨parents, hparents, hy⟩

theorem visit_explored (hclosed : ∀ x parents, graph x = some parents → ∀ y ∈ parents, (graph y).isSome)
    (hacyclic : ∀ x, ¬ Relation.TransGen (Successor graph) x x)
    (hnodup : ∀ x, ((graph x).getD []).Nodup) (levels : ℕ) :
    ∀ (path looked : List RecordId) (id : RecordId) (visits : Visits),
      FrontIn (inTurn graph roots) graph path looked id → Chain graph (path ++ [id]) →
      (∀ x ∈ path.getLast?, FirstChainIn (inTurn graph roots) graph path ∧ (graph x).getD [] ≠ []) →
      0 < path.length + levels → visits.visiting = path →
      (∀ x, x ∈ visits.visited ↔ LookedIn (inTurn graph roots) graph path looked x) →
      Explored graph roots (path.length + levels) (path ++ [id] <+: ·) path (looked ++ [id])
        (visit graph levels visits id) := by
  induction levels with
  | zero =>
    intro path looked id visits _ _ hfirst hpos _ _
    obtain ⟨x, hx⟩ : ∃ x, path.getLast? = some x :=
      ⟨_, List.getLast?_eq_some_getLast (List.ne_nil_of_length_pos hpos)⟩
    obtain ⟨hchain, hparents⟩ := hfirst x hx
    exact ⟨path, hchain, fun hfits => absurd (hfits.2 x hx hparents) (Nat.not_succ_le_self _)⟩
  | succ levels ih =>
    intro path looked id visits hfront hchain _ _ hvisiting hvisited
    have hout : id ∉ visits.visiting := hvisiting ▸
      List.disjoint_singleton.1 (List.nodup_append'.1 hchain.nodup).2.2
    rw [visit, ensure_of hout, ok_bind]
    by_cases hmem : id ∈ visits.visited
    · rw [if_pos hmem]
      exact exploresIn_pass (fun _ => (hvisited id).1 hmem) hfront hvisiting hvisited
    rw [if_neg hmem]
    have hfirst := firstChainIn_of_not_lookedIn hfront hchain (mt (hvisited id).2 hmem)
    have hlength : (path ++ [id]).length + levels = path.length + (levels + 1) := by
      rw [List.length_append, List.length_singleton]
      omega
    have hstart : ∀ x, x ∈ visits.visited ↔ LookedIn (inTurn graph roots) graph (path ++ [id]) [] x :=
      fun x => by rw [lookedIn_enter hfront, ← hvisited]
    have hnext : nextOf graph roots (path ++ [id]) = (graph id).getD [] := by
      rw [nextOf, List.getLast?_concat]
    have hloop : Explored graph roots (path.length + (levels + 1))
        (fun chain => ∃ y ∈ (graph id).getD [], path ++ [id] ++ [y] <+: chain) (path ++ [id])
        ((graph id).getD []) (((graph id).getD []).foldlM (visit graph levels)
          { visits with visiting := visits.visiting ++ [id] }) := by
      refine exploresIn_foldlM (fun x y => Nat.lt_asymm) ?_ (fun y => mem_parents_of_chain) ?_
        (by rw [hvisiting]) hstart
      · rw [← hnext]
        exact pairwise_inTurn graph roots (hnext ▸ hnodup id)
      · intro looked next y hy hfront hvisiting hvisited
        have hexplored := ih (path ++ [id]) looked y next hfront (chain_snoc_parent hclosed hacyclic hchain hy)
          (fun x hx => by
            rw [List.getLast?_concat] at hx
            cases hx
            exact ⟨hfirst, List.ne_nil_of_mem hy⟩) (by rw [hlength]; omega) hvisiting hvisited
        rwa [hlength] at hexplored
    cases hleft : ((graph id).getD []).foldlM (visit graph levels)
        { visits with visiting := visits.visiting ++ [id] } with
    | error e =>
      rw [hleft] at hloop
      exact hloop
    | ok left =>
      rw [hleft] at hloop
      obtain ⟨hvisiting', hvisited', hshort⟩ := hloop
      -- without a level left, a parent would have ended the search
      have hlevels : (graph id).getD [] ≠ [] → levels ≠ 0 := by
        rintro hparents rfl
        obtain ⟨y, ys, hys⟩ := List.exists_cons_of_ne_nil hparents
        rw [hys, List.foldlM_cons, visit] at hleft
        cases hleft
      rw [ok_bind]
      refine ⟨?_, fun x => ?_, fun chain hchain' hpre => ?_⟩
      · show left.visiting.erase id = path
        rw [hvisiting', List.erase_append_right _ (hvisiting ▸ hout), List.erase_cons_head, List.append_nil]
      · rw [lookedIn_leave hfront hchain (fun y => mem_parents_of_chain), ← hvisited']
        exact List.mem_cons
      · obtain ⟨rest, rfl⟩ := hpre
        cases rest with
        | nil =>
          rw [List.append_nil]
          refine ⟨by rw [← hlength]; exact Nat.le_add_right _ _, fun x hx hparents => ?_⟩
          rw [List.getLast?_concat] at hx
          cases hx
          have := hlevels hparents
          omega
        | cons y rest =>
          have hpre : path ++ [id] ++ [y] <+: path ++ [id] ++ y :: rest := ⟨rest, by simp⟩
          exact hshort _ hchain' ⟨y, mem_parents_of_chain (hchain'.toChain.of_prefix hpre), hpre⟩

/-- The whole search of an acyclic graph succeeds if and only if all its first chains fit. -/
theorem foldlM_visit_isOk_iff
    (hclosed : ∀ x parents, graph x = some parents → ∀ y ∈ parents, (graph y).isSome)
    (hacyclic : ∀ x, ¬ Relation.TransGen (Successor graph) x x)
    (hnodup : ∀ x, ((graph x).getD []).Nodup) (hroots : roots.Nodup)
    (hnodes : ∀ x, (graph x).isSome ↔ x ∈ roots) (levels : ℕ) :
    (∃ visits, roots.foldlM (visit graph levels) ⟨[], []⟩ = .ok visits) ↔
      ∀ chain, FirstChainIn (inTurn graph roots) graph chain → Fits graph levels chain := by
  have hchain : ∀ x ∈ roots, Chain graph ([] ++ [x]) := fun x hx =>
    ⟨List.nodup_singleton _, List.forall_mem_singleton.2 ((hnodes x).2 hx), List.isChain_singleton _⟩
  have hmem : ∀ x, Chain graph ([] ++ [x]) → x ∈ roots := fun x hx =>
    (hnodes x).1 (hx.isSome x List.mem_cons_self)
  have hstart : ∀ x, x ∈ (⟨[], []⟩ : Visits).visited ↔ LookedIn (inTurn graph roots) graph [] [] x :=
    fun x => iff_of_false List.not_mem_nil not_lookedIn_nil
  rcases Nat.eq_zero_or_pos levels with rfl | hpos
  · cases roots with
    | nil =>
      refine iff_of_true ⟨_, rfl⟩ fun chain hfirst => ?_
      cases chain with
      | nil => exact ⟨Nat.le_refl 0, fun _ h => by cases h⟩
      | cons x rest => exact absurd ((hnodes x).1 (hfirst.isSome x List.mem_cons_self)) List.not_mem_nil
    | cons x rest =>
      have hfront : FrontIn (inTurn graph (x :: rest)) graph [] [] x := by
        refine fun y _ => iff_of_false List.not_mem_nil fun hlt => ?_
        rw [inTurn, nextOf, List.getLast?_nil, List.idxOf_cons_self] at hlt
        exact Nat.not_lt_zero _ hlt
      have hfirst := firstChainIn_of_not_lookedIn hfront (hchain x List.mem_cons_self) not_lookedIn_nil
      refine iff_of_false ?_ fun h => Nat.not_succ_le_zero _ (h _ hfirst).1
      rintro ⟨visits, h⟩
      rw [List.foldlM_cons, visit] at h
      cases h
  · have hloop : Explored graph roots levels (fun chain => ∃ x ∈ roots, [] ++ [x] <+: chain) [] roots
        (roots.foldlM (visit graph levels) ⟨[], []⟩) := by
      refine exploresIn_foldlM (fun x y => Nat.lt_asymm) ?_ hmem ?_ rfl hstart
      · exact pairwise_inTurn graph roots hroots
      · intro looked visits x hx hfront hvisiting hvisited
        have hexplored := visit_explored hclosed hacyclic hnodup levels [] looked x visits hfront (hchain x hx)
          (fun _ h => by cases h) (by rwa [List.length_nil, Nat.zero_add]) hvisiting hvisited
        rwa [List.length_nil, Nat.zero_add] at hexplored
    cases hsearch : roots.foldlM (visit graph levels) ⟨[], []⟩ with
    | error e =>
      rw [hsearch] at hloop
      obtain ⟨chain, hfirst, hlong⟩ := hloop
      refine iff_of_false ?_ fun h => hlong (h chain hfirst)
      rintro ⟨visits, h⟩
      cases h
    | ok visits =>
      rw [hsearch] at hloop
      obtain ⟨-, -, hshort⟩ := hloop
      refine iff_of_true ⟨visits, rfl⟩ fun chain hfirst => ?_
      cases chain with
      | nil => exact ⟨Nat.zero_le _, fun _ h => by cases h⟩
      | cons x rest =>
        have hpre : [] ++ [x] <+: x :: rest := ⟨rest, rfl⟩
        exact hshort _ hfirst ⟨x, hmem x (hfirst.toChain.of_prefix hpre), hpre⟩

end

/-! ## What is accepted -/

/-- The order of the search: the events as the package lists them, the parents as an event does. -/
def ConversationRecords.order (records : ConversationRecords) : List RecordId → RecordId → RecordId → Prop :=
  inTurn records.graph (eventIds records.events)

theorem ConversationRecords.nodup_parents (records : ConversationRecords) (eventId : RecordId) :
    ((records.graph eventId).getD []).Nodup := by
  cases hgraph : records.graph eventId with
  | none => exact List.nodup_nil
  | some parents =>
    obtain ⟨event, -, -, rfl⟩ := graph_eq_some.1 hgraph
    exact event.nodup

theorem ConversationRecords.closed_graph {records : ConversationRecords}
    (h : ∀ event ∈ records.events, ∀ parentId ∈ event.parentEventIds,
      ∃ parent ∈ records.events, parent.eventId = parentId ∧
        parent.conversationId = event.conversationId) :
    ∀ x parents, records.graph x = some parents → ∀ y ∈ parents, (records.graph y).isSome := by
  intro x parents hx y hy
  obtain ⟨event, hevent, -, rfl⟩ := graph_eq_some.1 hx
  obtain ⟨parent, hparent, rfl, -⟩ := h event hevent y hy
  rw [graph_of_mem hparent]
  rfl

/-- What is accepted: well-formed sets of events whose first chains fit. -/
theorem validateConversationPackageGraph_eq_ok_iff {levels : ℕ} {records : ConversationRecords} :
    validateConversationPackageGraph levels records = .ok () ↔ records.WellFormed ∧
      ∀ chain, FirstChainIn records.order records.graph chain → Fits records.graph levels chain := by
  have hchecks : forEach (checkEvent records) records.events = .ok () ↔
      (∀ event ∈ records.events, event.conversationId ∈ records.conversations) ∧
      ∀ event ∈ records.events, ∀ parentId ∈ event.parentEventIds, ∃ parent ∈ records.events,
        parent.eventId = parentId ∧ parent.conversationId = event.conversationId := by
    rw [forEach_eq_ok]
    simp only [checkEvent_eq_ok_iff, forall_and]
  have hsearch : (∃ visits, (eventIds records.events).foldlM (visit records.graph levels) ⟨[], []⟩ =
      .ok visits ∧ (return () : Packaged Unit) = .ok ()) ↔
      ∃ visits, (eventIds records.events).foldlM (visit records.graph levels) ⟨[], []⟩ = .ok visits :=
    exists_congr fun _ => and_iff_left rfl
  rw [validateConversationPackageGraph, check_bind_eq_ok, hchecks, bind_eq_ok, hsearch]
  constructor
  · rintro ⟨⟨hconversation, hparents⟩, visits, hvisits⟩
    have hclosed := ConversationRecords.closed_graph hparents
    have hall := Advances.foldlM (fun x hx next next' hvisit =>
      visit_advances hclosed levels x next next' (ConversationRecords.isSome_graph.2 hx) hvisit) hvisits
    have hacyclic := acyclic_of_resolves fun event hevent =>
      hall.resolved nofun event.eventId (hall.visited _ (List.mem_map_of_mem hevent))
    refine ⟨⟨hconversation, hparents, hacyclic⟩, ?_⟩
    exact (foldlM_visit_isOk_iff hclosed hacyclic records.nodup_parents records.nodup
      (fun _ => ConversationRecords.isSome_graph) levels).1 ⟨visits, hvisits⟩
  · rintro ⟨hwell, hshort⟩
    refine ⟨⟨hwell.conversation, hwell.parents⟩, ?_⟩
    exact (foldlM_visit_isOk_iff (ConversationRecords.closed_graph hwell.parents) hwell.acyclic
      records.nodup_parents records.nodup (fun _ => ConversationRecords.isSome_graph) levels).2 hshort

/-- Well-formed sets are accepted, and all others are not. -/
structure Decides (levels : ℕ) (records : ConversationRecords) : Prop where
  accepts : records.WellFormed → validateConversationPackageGraph levels records = .ok ()
  rejects : ¬ records.WellFormed → ∃ e, validateConversationPackageGraph levels records = .error e

/-- The validation decides well-formedness but for sets that are well-formed and too deep for it. -/
theorem decides_iff (levels : ℕ) (records : ConversationRecords) : Decides levels records ↔
    (records.WellFormed → ∀ chain, FirstChainIn records.order records.graph chain →
      Fits records.graph levels chain) := by
  constructor
  · exact fun h hwell => (validateConversationPackageGraph_eq_ok_iff.1 (h.accepts hwell)).2
  · refine fun h => ⟨fun hwell => validateConversationPackageGraph_eq_ok_iff.2 ⟨hwell, h hwell⟩, ?_⟩
    intro hill
    cases hresult : validateConversationPackageGraph levels records with
    | error e => exact ⟨e, rfl⟩
    | ok u => exact absurd (validateConversationPackageGraph_eq_ok_iff.1 hresult).1 hill

/-! ## A long conversation -/

def chainConversation : RecordId := 0x11111111111141118111111111111111

def chainEventId (k : ℕ) : RecordId := BitVec.ofNat 128 k

theorem chainEventId_succ_ne (k : ℕ) : chainEventId (k + 1) ≠ chainEventId k := by
  intro h
  have hnat := congrArg BitVec.toNat h
  rw [chainEventId, chainEventId, BitVec.toNat_ofNat, BitVec.toNat_ofNat] at hnat
  omega

/-- An event of a conversation of `n` events, each of which but the last answers the next one. -/
def chainEvent (n k : ℕ) : ConversationEvent where
  eventId := chainEventId k
  conversationId := chainConversation
  parentEventIds := if k + 1 < n then [chainEventId (k + 1)] else []
  irrefl := by
    split_ifs
    · exact fun h => chainEventId_succ_ne k (List.mem_singleton.1 h).symm
    · exact List.not_mem_nil
  nodup := by
    split_ifs
    · exact List.nodup_singleton _
    · exact List.nodup_nil
  length_le := by
    split_ifs
    · exact (by decide : 1 ≤ maxConversationParents)
    · exact Nat.zero_le _

theorem chainEventId_inj {j k : ℕ} (hj : j < 2 ^ 128) (hk : k < 2 ^ 128)
    (h : chainEventId j = chainEventId k) : j = k := by
  have hnat := congrArg BitVec.toNat h
  rwa [chainEventId, chainEventId, BitVec.toNat_ofNat, BitVec.toNat_ofNat, Nat.mod_eq_of_lt hj,
    Nat.mod_eq_of_lt hk] at hnat

theorem parentEventIds_chainEvent {n k : ℕ} (hk : k + 1 < n) :
    (chainEvent n k).parentEventIds = [chainEventId (k + 1)] :=
  if_pos hk

theorem parentEventIds_chainEvent_last {n k : ℕ} (hk : n ≤ k + 1) :
    (chainEvent n k).parentEventIds = [] :=
  if_neg hk.not_gt

/-- The conversation as a package lists it, in the order of the identifiers. -/
def chainRecords (n : ℕ) (hn : n ≤ 2 ^ 128) : ConversationRecords where
  conversations := [chainConversation]
  events := (List.range n).map (chainEvent n)
  nodup := by
    rw [eventIds, List.map_map]
    refine List.Nodup.map_on (fun j hj k hk h => ?_) List.nodup_range
    exact chainEventId_inj ((List.mem_range.1 hj).trans_le hn) ((List.mem_range.1 hk).trans_le hn) h

theorem graph_chainRecords {n k : ℕ} (hn : n ≤ 2 ^ 128) (hk : k < n) :
    (chainRecords n hn).graph (chainEventId k) = some (chainEvent n k).parentEventIds :=
  have hmem : chainEvent n k ∈ (chainRecords n hn).events := List.mem_map_of_mem (List.mem_range.2 hk)
  ConversationRecords.graph_of_mem hmem

theorem exists_of_graph_chainRecords {n : ℕ} {hn : n ≤ 2 ^ 128} {x : RecordId} {parents : List RecordId}
    (h : (chainRecords n hn).graph x = some parents) :
    ∃ k < n, x = chainEventId k ∧ parents = (chainEvent n k).parentEventIds := by
  obtain ⟨event, hevent, rfl, rfl⟩ := ConversationRecords.graph_eq_some.1 h
  obtain ⟨k, hk, rfl⟩ := List.mem_map.1 hevent
  exact ⟨k, List.mem_range.1 hk, rfl, rfl⟩

/-- An event has at most one parent, the next event. -/
theorem eq_of_mem_edges_chainRecords {n : ℕ} {hn : n ≤ 2 ^ 128} {x y : RecordId}
    (h : y ∈ edges (chainRecords n hn).graph x) :
    ∃ k, k + 1 < n ∧ x = chainEventId k ∧ y = chainEventId (k + 1) := by
  obtain ⟨⟨parents, hparents, hmem⟩, -⟩ := mem_edges.1 h
  obtain ⟨k, -, rfl, rfl⟩ := exists_of_graph_chainRecords hparents
  rcases Nat.lt_or_ge (k + 1) n with hk | hk
  · rw [parentEventIds_chainEvent hk] at hmem
    exact ⟨k, hk, rfl, List.mem_singleton.1 hmem⟩
  · rw [parentEventIds_chainEvent_last hk] at hmem
    cases hmem

/-- The chain from its first event on precedes every other one. -/
theorem firstChain_chainRecords {n : ℕ} (hn : n ≤ 2 ^ 128) :
    FirstChainIn (chainRecords n hn).order (chainRecords n hn).graph ((List.range n).map chainEventId) := by
  have hedge : ∀ k, k + 1 < n → chainEventId (k + 1) ∈ edges (chainRecords n hn).graph (chainEventId k) := by
    intro k hk
    refine mem_edges.2 ⟨⟨_, graph_chainRecords hn (Nat.lt_of_succ_lt hk), ?_⟩, by
      rw [graph_chainRecords hn hk]; rfl⟩
    rw [parentEventIds_chainEvent hk]
    exact List.mem_singleton_self _
  have hpath : ((List.range n).map chainEventId).IsChain fun x y => y ∈ edges (chainRecords n hn).graph x := by
    rw [List.isChain_map, List.isChain_iff_getElem]
    intro k hk
    rw [List.getElem_range, List.getElem_range]
    exact hedge k (by simpa using hk)
  have hchain : Chain (chainRecords n hn).graph ((List.range n).map chainEventId) := by
    refine ⟨?_, List.forall_mem_map.2 fun k hk => ?_, hpath⟩
    · refine List.Nodup.map_on (fun j hj k hk h => ?_) List.nodup_range
      exact chainEventId_inj ((List.mem_range.1 hj).trans_le hn) ((List.mem_range.1 hk).trans_le hn) h
    · rw [graph_chainRecords hn (List.mem_range.1 hk)]
      rfl
  refine firstChainIn_of_subsingleton hchain ?_ (fun _ x => lt_irrefl _) ?_
  · intro id first hfirst second hsecond
    obtain ⟨j, hj, rfl, rfl⟩ := eq_of_mem_edges_chainRecords hfirst
    obtain ⟨k, hk, hid, rfl⟩ := eq_of_mem_edges_chainRecords hsecond
    rw [chainEventId_inj ((Nat.lt_of_succ_lt hj).trans_le hn) ((Nat.lt_of_succ_lt hk).trans_le hn) hid]
  · -- no event comes before the first one
    intro x _ first hfirst hlt
    cases n with
    | zero => cases hfirst
    | succ n =>
      rw [List.range_succ_eq_map, List.map_cons] at hfirst
      cases hfirst
      have hids : eventIds (chainRecords (n + 1) hn).events =
          chainEventId 0 :: ((List.range n).map Nat.succ).map chainEventId := by
        rw [chainRecords, eventIds, List.map_map, List.range_succ_eq_map, List.map_cons]
        rfl
      rw [ConversationRecords.order, inTurn, nextOf, List.getLast?_nil, hids, List.idxOf_cons_self] at hlt
      exact Nat.not_lt_zero _ hlt

/-- The events in the order in which they are saved, from the last on. -/
def savedChain (n k : ℕ) : List ConversationEvent := (List.range k).map fun i => chainEvent n (n - 1 - i)

theorem mem_savedChain {n k j : ℕ} (hj : j < n) (hk : n ≤ k + j) : chainEvent n j ∈ savedChain n k :=
  List.mem_map.2 ⟨n - 1 - j, List.mem_range.2 (by omega), congrArg (chainEvent n) (by omega)⟩

theorem built_savedChain {n : ℕ} (hn : n ≤ 2 ^ 128) (k : ℕ) (hk : k ≤ n) :
    Built [chainConversation] (savedChain n k) := by
  induction k with
  | zero => exact .nil
  | succ k ih =>
    have hbuilt := ih (Nat.le_of_succ_le hk)
    have hsave : saveConversationEvent [chainConversation] (savedChain n k) (chainEvent n (n - 1 - k)) =
        .ok (savedChain n (k + 1)) := ?_
    · exact hbuilt.save hsave
    refine (saveConversationEvent_eq_ok_iff hbuilt.layered.nodup).2
      ⟨List.mem_singleton_self _, fun parentId hparent => ?_, fun hmem => ?_, ?_⟩
    · rcases Nat.lt_or_ge (n - 1 - k + 1) n with hlt | hge
      · rw [parentEventIds_chainEvent hlt, List.mem_singleton] at hparent
        exact ⟨chainEvent n (n - 1 - k + 1), mem_savedChain hlt (by omega), hparent.symm, rfl⟩
      · rw [parentEventIds_chainEvent_last hge] at hparent
        cases hparent
    · obtain ⟨event, hevent, hid⟩ := List.mem_map.1 hmem
      obtain ⟨i, hi, rfl⟩ := List.mem_map.1 hevent
      have hi := List.mem_range.1 hi
      have := chainEventId_inj (j := n - 1 - i) (k := n - 1 - k) (by omega) (by omega) hid
      omega
    · rw [savedChain, List.range_succ, List.map_append]
      rfl

theorem perm_savedChain {n : ℕ} (hn : n ≤ 2 ^ 128) : (chainRecords n hn).events.Perm (savedChain n n) := by
  refine (List.perm_ext_iff_of_nodup (.of_map _ (chainRecords n hn).nodup)
    (.of_map _ (built_savedChain hn n le_rfl).layered.nodup)).2 fun event => ?_
  constructor
  · intro h
    obtain ⟨k, hk, rfl⟩ := List.mem_map.1 h
    exact mem_savedChain (List.mem_range.1 hk) (Nat.le_add_right _ _)
  · intro h
    obtain ⟨i, hi, rfl⟩ := List.mem_map.1 h
    exact List.mem_map_of_mem (List.mem_range.2 (by have := List.mem_range.1 hi; omega))

/-- A chain has no more events than there are. -/
theorem length_le_of_chain {records : ConversationRecords} {chain : List RecordId}
    (h : Chain records.graph chain) : chain.length ≤ records.events.length := by
  have hsubset : chain ⊆ eventIds records.events := fun x hx =>
    ConversationRecords.isSome_graph.1 (h.isSome x hx)
  have hle := (List.subperm_of_subset h.nodup hsubset).length_le
  rwa [eventIds, List.length_map] at hle

/-- Events that have been saved are accepted in whatever order a package lists them, if as many calls fit
inside one another as there are events. -/
theorem Built.validated {conversations : List RecordId} {events : List ConversationEvent}
    (h : Built conversations events) {records : ConversationRecords}
    (hconversations : conversations ⊆ records.conversations) (hperm : records.events.Perm events) {levels : ℕ}
    (hlevels : events.length ≤ levels) : validateConversationPackageGraph levels records = .ok () := by
  have hwell := h.wellFormed hconversations hperm
  have hshort : ∀ chain, Chain records.graph chain → chain.length ≤ levels := fun chain hchain =>
    (length_le_of_chain hchain).trans (hperm.length_eq.trans_le hlevels)
  refine validateConversationPackageGraph_eq_ok_iff.2 ⟨hwell, fun chain hfirst => ?_⟩
  refine ⟨hshort chain hfirst.toChain, fun x hx hparents => ?_⟩
  -- a parent of the last event is new, so the chain that goes on with it has to fit as well
  obtain ⟨path, rfl⟩ : ∃ path, chain = path ++ [x] := by
    obtain ⟨path, hpath⟩ := List.getLast?_eq_some_iff.1 hx
    exact ⟨path, hpath⟩
  obtain ⟨y, hy⟩ := List.exists_mem_of_ne_nil _ hparents
  have hlonger := hshort _ (chain_snoc_parent (ConversationRecords.closed_graph hwell.parents) hwell.acyclic
    hfirst.toChain hy)
  rwa [List.length_append, List.length_singleton] at hlonger

theorem Built.validated_savedChain :
    validateConversationPackageGraph 3 (chainRecords 3 (by norm_num)) = .ok () :=
  have hbound : 3 ≤ 2 ^ 128 := by norm_num
  Built.validated (built_savedChain hbound 3 le_rfl) (List.Subset.refl _) (perm_savedChain hbound) (by decide)

/-- The package of a conversation of 1001 events that saving has built is refused. -/
theorem not_accepts_built : ¬ ∀ (conversations : List RecordId) (events : List ConversationEvent)
    (records : ConversationRecords), Built conversations events → records.conversations = conversations →
      records.events.Perm events → validateConversationPackageGraph 1000 records = .ok () := by
  intro h
  have hbound : 1001 ≤ 2 ^ 128 := by norm_num
  have hok := h [chainConversation] (savedChain 1001 1001) (chainRecords 1001 hbound)
    (built_savedChain hbound 1001 le_rfl) rfl (perm_savedChain hbound)
  have hfits := (validateConversationPackageGraph_eq_ok_iff.1 hok).2 _ (firstChain_chainRecords hbound)
  have hlong := hfits.1
  rw [List.length_map, List.length_range] at hlong
  exact absurd hlong (by decide)

end DollState.Package
