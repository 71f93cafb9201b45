import DollState.Library.SearchOrder

/-!
# Which cycles a depth-first search closes

When a depth-first search comes to a node that is on its path, it has found a cycle: what is on the path
from that node on. It is on the path that is the first chain to the last node then, so that what it finds in
all are the closed parts of the first chains. `ClosedIn` is what it has found at one point of its way; its
lemmas say how that changes when the search enters a node (`closedIn_enter`), leaves it (`closedIn_leave`),
passes one by (`closedIn_pass`) and comes to one on its path (`closedIn_close`).

A cycle through a node that the search is already done with is not found unless all of it lies on such
closed parts.
-/

namespace StateLib

namespace Digraph

variable {α : Type*} {g : α → Option (List α)} {before : List α → α → α → Prop}

/-- What may come after `path`: any node at first, then the successors of the last node. -/
def NextIn (g : α → Option (List α)) (path : List α) (x : α) : Prop :=
  (g x).isSome ∧ ∀ z ∈ path.getLast?, x ∈ edges g z

/-- The last node of the chain has its node `y` as a successor, and `x` is `y` or comes after it. -/
def Closes (g : α → Option (List α)) (chain : List α) (y x : α) : Prop :=
  (∃ z, chain.getLast? = some z ∧ y ∈ edges g z) ∧
    ∃ initial rest, chain = initial ++ y :: rest ∧ x ∈ y :: rest

/-- The nodes on the closed parts of first chains that a search at `path`, done with `done`, has come to. -/
def ClosedIn (before : List α → α → α → Prop) (g : α → Option (List α)) (path done : List α) (x : α) : Prop :=
  ∃ chain y, FirstChainIn before g chain ∧ Closes g chain y x ∧
    (PrecedesIn before (chain ++ [y]) path ∨ ∃ z ∈ done, path ++ [z] <+: chain ++ [y])

theorem Closes.mem {chain : List α} {x y : α} (h : Closes g chain y x) : y ∈ chain := by
  obtain ⟨-, initial, rest, rfl, -⟩ := h
  exact List.mem_append_right _ List.mem_cons_self

/-- What is on the closed part of a chain is on a cycle. -/
theorem Closes.reaches {chain : List α} {x y : α} (hchain : Chain g chain) (h : Closes g chain y x) :
    Reaches (edges g) x x := by
  obtain ⟨⟨z, hlast, hedge⟩, initial, rest, rfl, hx⟩ := h
  have hpath := (List.isChain_append.1 hchain.isChain).2.1
  rw [List.getLast?_append_of_ne_nil _ (List.cons_ne_nil _ _)] at hlast
  obtain ⟨path', hpath'⟩ := List.getLast?_eq_some_iff.1 hlast
  exact reaches_self_of_closed hpath hpath' hedge hx

/-- Where `y` stands on a chain, the closed part begins. -/
theorem closes_iff_mem_drop [BEq α] [LawfulBEq α] {chain : List α} {x y z : α} (hy : y ∈ chain)
    (hnodup : chain.Nodup) (hlast : chain.getLast? = some z) (hedge : y ∈ edges g z) :
    Closes g chain y x ↔ x ∈ chain.drop (chain.idxOf y) := by
  have hdrop : ∀ initial rest : List α, y ∉ initial →
      (initial ++ y :: rest).drop ((initial ++ y :: rest).idxOf y) = y :: rest := by
    intro initial rest hout
    rw [List.idxOf_append_of_notMem hout, List.idxOf_cons_self, Nat.add_zero, List.drop_left]
  constructor
  · rintro ⟨-, initial, rest, rfl, hx⟩
    have hout : y ∉ initial := fun hmem =>
      (List.nodup_append'.1 hnodup).2.2 hmem List.mem_cons_self
    rwa [hdrop initial rest hout]
  · intro hx
    obtain ⟨initial, rest, rfl, hout⟩ := List.eq_append_cons_of_mem hy
    rw [hdrop initial rest hout] at hx
    exact ⟨⟨z, hlast, hedge⟩, initial, rest, rfl, hx⟩

theorem prefix_snoc_cases {path chain : List α} {x y : α} (h : path ++ [x] <+: chain ++ [y]) :
    path ++ [x] <+: chain ∨ path = chain ∧ x = y := by
  rcases List.prefix_concat_iff.1 h with heq | hpre
  · obtain ⟨hpath, hx⟩ := List.append_inj' heq rfl
    exact .inr ⟨hpath, List.singleton_inj.1 hx⟩
  · exact .inl hpre

theorem Chain.nextIn {path : List α} {x : α} (h : Chain g (path ++ [x])) : NextIn g path x :=
  ⟨h.isSome x (by simp), fun z hz => (List.isChain_append.1 h.isChain).2.2 z hz x (by simp)⟩

/-- What a chain and the node that closes it go on with may come next. -/
theorem Closes.nextIn {path chain : List α} {w x y : α} (hchain : Chain g chain) (h : Closes g chain y w)
    (hpre : path ++ [x] <+: chain ++ [y]) : NextIn g path x := by
  rcases prefix_snoc_cases hpre with hpre | ⟨rfl, rfl⟩
  · exact (hchain.of_prefix hpre).nextIn
  · obtain ⟨z, hlast, hedge⟩ := h.1
    refine ⟨(mem_edges.1 hedge).2, fun z' hz' => ?_⟩
    rw [hlast] at hz'
    cases hz'
    exact hedge

section

variable {path done : List α} {v : α}

theorem not_closedIn_nil {x : α} : ¬ ClosedIn before g [] [] x := by
  rintro ⟨chain, y, -, -, ⟨common, a, as, b, bs, -, hnil, -⟩ | ⟨z, hz, -⟩⟩
  · simp at hnil
  · cases hz

/-- Entering a node closes nothing yet. -/
theorem closedIn_enter (hfront : ∀ x, NextIn g path x → (x ∈ done ↔ before path x v)) {x : α} :
    ClosedIn before g (path ++ [v]) [] x ↔ ClosedIn before g path done x := by
  constructor
  · rintro ⟨chain, y, hchain, hclose, hprecedes | ⟨z, hz, -⟩⟩
    · refine ⟨chain, y, hchain, hclose, (precedesIn_snoc hprecedes).imp_right ?_⟩
      rintro ⟨z, hlt, hpre⟩
      exact ⟨z, (hfront z (hclose.nextIn hchain.toChain hpre)).2 hlt, hpre⟩
    · cases hz
  · rintro ⟨chain, y, hchain, hclose, hprecedes | ⟨z, hz, hpre⟩⟩
    · exact ⟨chain, y, hchain, hclose, .inl (hprecedes.append _)⟩
    · have hlt := (hfront z (hclose.nextIn hchain.toChain hpre)).1 hz
      exact ⟨chain, y, hchain, hclose, .inl (precedesIn_of_before hpre (List.prefix_refl _) hlt)⟩

/-- Leaving a node adds nothing to what has been closed below it. -/
theorem closedIn_leave {successors : List α}
    (hfront : ∀ x, NextIn g path x → (x ∈ done ↔ before path x v)) (hv : Chain g (path ++ [v]))
    (hall : ∀ z, NextIn g (path ++ [v]) z → z ∈ successors) {x : α} :
    ClosedIn before g path (done ++ [v]) x ↔ ClosedIn before g (path ++ [v]) successors x := by
  constructor
  · rintro ⟨chain, y, hchain, hclose, hprecedes | ⟨z, hz, hpre⟩⟩
    · exact ⟨chain, y, hchain, hclose, .inl (hprecedes.append _)⟩
    rcases List.mem_append.1 hz with hz | hz
    · have hlt := (hfront z (hclose.nextIn hchain.toChain hpre)).1 hz
      exact ⟨chain, y, hchain, hclose, .inl (precedesIn_of_before hpre (List.prefix_refl _) hlt)⟩
    cases List.mem_singleton.1 hz
    rcases prefix_snoc_cases hpre with ⟨rest, rfl⟩ | ⟨rfl, rfl⟩
    · -- the chain goes on from `v`, if only to the node that closes it
      obtain ⟨u, hu⟩ : ∃ u, path ++ [v] ++ [u] <+: path ++ [v] ++ rest ++ [y] := by
        cases rest with
        | nil => exact ⟨y, by rw [List.append_nil]⟩
        | cons u rest => exact ⟨u, rest ++ [y], by simp⟩
      exact ⟨_, y, hchain, hclose, .inr ⟨u, hall u (hclose.nextIn hchain.toChain hu), hu⟩⟩
    · have hout := List.disjoint_singleton.1 (List.nodup_append'.1 hv.nodup).2.2
      exact absurd hclose.mem hout
  · rintro ⟨chain, y, hchain, hclose, hprecedes | ⟨z, hz, hpre⟩⟩
    · refine ⟨chain, y, hchain, hclose, (precedesIn_snoc hprecedes).imp_right ?_⟩
      rintro ⟨z, hlt, hpre⟩
      have hz := (hfront z (hclose.nextIn hchain.toChain hpre)).2 hlt
      exact ⟨z, List.mem_append_left _ hz, hpre⟩
    · exact ⟨chain, y, hchain, hclose, .inr ⟨v, by simp, (List.prefix_append _ _).trans hpre⟩⟩

/-- Passing by what is no node, or a node that the search is done with, closes nothing. -/
theorem closedIn_pass (hfront : FrontIn before g path done v)
    (hpass : (g v).isSome → v ∉ path ∧ LookedIn before g path done v) {x : α} :
    ClosedIn before g path (done ++ [v]) x ↔ ClosedIn before g path done x := by
  constructor
  · rintro ⟨chain, y, hchain, hclose, hprecedes | ⟨z, hz, hpre⟩⟩
    · exact ⟨chain, y, hchain, hclose, .inl hprecedes⟩
    rcases List.mem_append.1 hz with hz | hz
    · exact ⟨chain, y, hchain, hclose, .inr ⟨z, hz, hpre⟩⟩
    cases List.mem_singleton.1 hz
    obtain ⟨hout, hlooked⟩ := hpass (hclose.nextIn hchain.toChain hpre).1
    rcases prefix_snoc_cases hpre with hpre | ⟨rfl, rfl⟩
    · exact absurd hlooked (hchain.not_lookedIn hfront hpre)
    · exact absurd hclose.mem hout
  · rintro ⟨chain, y, hchain, hclose, hwhere⟩
    exact ⟨chain, y, hchain, hclose,
      hwhere.imp_right fun ⟨z, hz, hpre⟩ => ⟨z, List.mem_append_left _ hz, hpre⟩⟩

/-- Coming to a node on the path closes the path from that node on. -/
theorem closedIn_close (hpath : FirstChainIn before g path) (hv : v ∈ path) {x : α} :
    ClosedIn before g path (done ++ [v]) x ↔ ClosedIn before g path done x ∨ Closes g path v x := by
  constructor
  · rintro ⟨chain, y, hchain, hclose, hprecedes | ⟨z, hz, hpre⟩⟩
    · exact .inl ⟨chain, y, hchain, hclose, .inl hprecedes⟩
    rcases List.mem_append.1 hz with hz | hz
    · exact .inl ⟨chain, y, hchain, hclose, .inr ⟨z, hz, hpre⟩⟩
    cases List.mem_singleton.1 hz
    rcases prefix_snoc_cases hpre with hpre | ⟨rfl, rfl⟩
    · have hnodup := hchain.nodup.sublist hpre.sublist
      exact absurd hv (List.disjoint_singleton.1 (List.nodup_append'.1 hnodup).2.2)
    · exact .inr hclose
  · rintro (⟨chain, y, hchain, hclose, hwhere⟩ | hclose)
    · exact ⟨chain, y, hchain, hclose,
        hwhere.imp_right fun ⟨z, hz, hpre⟩ => ⟨z, List.mem_append_left _ hz, hpre⟩⟩
    · exact ⟨path, v, hpath, hclose, .inr ⟨v, by simp, List.prefix_refl _⟩⟩

/-- In the end, the search has come to all first chains. -/
theorem closedIn_all (hall : ∀ z, (g z).isSome → z ∈ done) {x : α} :
    ClosedIn before g [] done x ↔ ∃ chain y, FirstChainIn before g chain ∧ Closes g chain y x := by
  constructor
  · rintro ⟨chain, y, hchain, hclose, -⟩
    exact ⟨chain, y, hchain, hclose⟩
  · rintro ⟨chain, y, hchain, hclose⟩
    refine ⟨chain, y, hchain, hclose, .inr ?_⟩
    cases chain with
    | nil => cases hclose.mem
    | cons z rest => exact ⟨z, hall z (hchain.isSome z List.mem_cons_self), rest ++ [y], rfl⟩

end

end Digraph

end StateLib
