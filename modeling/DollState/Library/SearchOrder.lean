import DollState.Library.Check
import DollState.Library.Digraph

/-!
# In which order a depth-first search goes

A depth-first search takes the nodes to start from, and the successors of each node, in some order:
`before path x y` says that after `path` it takes `x` before `y`. It enters a node along the first of the
chains that lead to it: the one that no other chain to the node precedes. `LookedIn` is the set of nodes
that the search is done with at one point of its way, in terms of chains; its lemmas say how the set
changes when the search enters a node (`lookedIn_enter`), leaves it (`lookedIn_leave`) and passes one by
(`lookedIn_pass`). `exploresIn_foldlM` puts them together for a loop over the nodes to go on with.
-/

namespace StateLib

namespace Digraph

variable {α : Type*} {g : α → Option (List α)}

/-- A path of distinct nodes. -/
structure Chain (g : α → Option (List α)) (chain : List α) : Prop where
  nodup : chain.Nodup
  isSome : ∀ x ∈ chain, (g x).isSome
  isChain : chain.IsChain fun x y => y ∈ edges g x

theorem Chain.of_prefix {chain chain' : List α} (h : Chain g chain') (hpre : chain <+: chain') :
    Chain g chain where
  nodup := h.nodup.sublist hpre.sublist
  isSome x hx := h.isSome x (hpre.subset hx)
  isChain := by
    obtain ⟨rest, rfl⟩ := hpre
    exact (List.isChain_append.1 h.isChain).1

/-- A chain goes on with a successor of its last node that is not on it. -/
theorem Chain.snoc {chain : List α} {x y : α} (h : Chain g chain) (hlast : chain.getLast? = some x)
    (hy : y ∈ edges g x) (hout : y ∉ chain) : Chain g (chain ++ [y]) where
  nodup := List.nodup_append'.2 ⟨h.nodup, List.nodup_singleton _, List.disjoint_singleton.2 hout⟩
  isSome z hz := by
    rcases List.mem_append.1 hz with hz | hz
    · exact h.isSome z hz
    · exact List.mem_singleton.1 hz ▸ (mem_edges.1 hy).2
  isChain := by
    refine List.isChain_append.2 ⟨h.isChain, List.isChain_singleton _, ?_⟩
    simpa [hlast] using hy

variable (before : List α → α → α → Prop)

/-- Where the two part, the first goes on with an element that is taken before that of the second. -/
def PrecedesIn (first second : List α) : Prop :=
  ∃ common a as b bs, first = common ++ a :: as ∧ second = common ++ b :: bs ∧ before common a b

/-- A chain that no other chain to the same node precedes. -/
structure FirstChainIn (g : α → Option (List α)) (chain : List α) : Prop extends Chain g chain where
  first : ∀ other, Chain g other → other.getLast? = chain.getLast? → ¬ PrecedesIn before other chain

/-- The nodes at the end of the chains that precede `path` or go on from it with one of `done`. -/
def LookedIn (g : α → Option (List α)) (path done : List α) (x : α) : Prop :=
  ∃ chain, Chain g chain ∧ chain.getLast? = some x ∧
    (PrecedesIn before chain path ∨ ∃ y ∈ done, path ++ [y] <+: chain)

/-- Of the nodes that a chain may go on with, `done` are those before `y`. -/
def FrontIn (g : α → Option (List α)) (path done : List α) (y : α) : Prop :=
  ∀ x, Chain g (path ++ [x]) → (x ∈ done ↔ before path x y)

variable {before}

theorem PrecedesIn.append {first second : List α} (h : PrecedesIn before first second) (rest : List α) :
    PrecedesIn before first (second ++ rest) := by
  obtain ⟨common, a, as, b, bs, rfl, rfl, hlt⟩ := h
  exact ⟨common, a, as, b, bs ++ rest, rfl, by simp, hlt⟩

theorem PrecedesIn.append_left {first second : List α} (h : PrecedesIn before first second) (rest : List α) :
    PrecedesIn before (first ++ rest) second := by
  obtain ⟨common, a, as, b, bs, rfl, rfl, hlt⟩ := h
  exact ⟨common, a, as ++ rest, b, bs, by simp, rfl, hlt⟩

theorem precedesIn_of_before {path chain chain' : List α} {x y : α} (hx : path ++ [x] <+: chain)
    (hy : path ++ [y] <+: chain') (hlt : before path x y) : PrecedesIn before chain chain' := by
  obtain ⟨as, rfl⟩ := hx
  obtain ⟨bs, rfl⟩ := hy
  exact ⟨path, x, as, y, bs, by simp, by simp, hlt⟩

/-- What precedes a path with one more element precedes the path or parts from it there. -/
theorem precedesIn_snoc {chain path : List α} {y : α} (h : PrecedesIn before chain (path ++ [y])) :
    PrecedesIn before chain path ∨ ∃ x, before path x y ∧ path ++ [x] <+: chain := by
  obtain ⟨common, a, as, b, bs, rfl, hpath, hlt⟩ := h
  rcases List.eq_nil_or_concat bs with rfl | ⟨bs, c, rfl⟩
  · obtain ⟨rfl, hyb⟩ := List.append_inj' hpath rfl
    cases hyb
    exact .inr ⟨a, hlt, as, by simp⟩
  · rw [List.concat_eq_append, ← List.cons_append, ← List.append_assoc] at hpath
    obtain ⟨rfl, -⟩ := List.append_inj' hpath rfl
    exact .inl ⟨common, a, as, b, bs, rfl, rfl, hlt⟩

theorem not_lookedIn_nil {x : α} : ¬ LookedIn before g [] [] x := by
  rintro ⟨chain, -, -, ⟨common, a, as, b, bs, -, hnil, -⟩ | ⟨y, hy, -⟩⟩
  · simp at hnil
  · cases hy

/-- Entering a node changes nothing yet. -/
theorem lookedIn_enter {path done : List α} {x y : α} (hfront : FrontIn before g path done y) :
    LookedIn before g (path ++ [y]) [] x ↔ LookedIn before g path done x := by
  constructor
  · rintro ⟨chain, hchain, hlast, hprecedes | ⟨z, hz, -⟩⟩
    · refine ⟨chain, hchain, hlast, (precedesIn_snoc hprecedes).imp_right ?_⟩
      rintro ⟨z, hlt, hpre⟩
      exact ⟨z, (hfront z (hchain.of_prefix hpre)).2 hlt, hpre⟩
    · cases hz
  · rintro ⟨chain, hchain, hlast, hprecedes | ⟨z, hz, hpre⟩⟩
    · exact ⟨chain, hchain, hlast, .inl (hprecedes.append _)⟩
    · have hlt := (hfront z (hchain.of_prefix hpre)).1 hz
      exact ⟨chain, hchain, hlast, .inl (precedesIn_of_before hpre (List.prefix_refl _) hlt)⟩

/-- Leaving a node adds the node and what is below it. -/
theorem lookedIn_leave {path done successors : List α} {x y : α} (hfront : FrontIn before g path done y)
    (hy : Chain g (path ++ [y])) (hall : ∀ z, Chain g (path ++ [y] ++ [z]) → z ∈ successors) :
    LookedIn before g path (done ++ [y]) x ↔ x = y ∨ LookedIn before g (path ++ [y]) successors x := by
  constructor
  · rintro ⟨chain, hchain, hlast, hprecedes | ⟨z, hz, hpre⟩⟩
    · exact .inr ⟨chain, hchain, hlast, .inl (hprecedes.append _)⟩
    rcases List.mem_append.1 hz with hz | hz
    · have hlt := (hfront z (hchain.of_prefix hpre)).1 hz
      exact .inr ⟨chain, hchain, hlast, .inl (precedesIn_of_before hpre (List.prefix_refl _) hlt)⟩
    · cases List.mem_singleton.1 hz
      obtain ⟨rest, rfl⟩ := hpre
      cases rest with
      | nil =>
        rw [List.append_nil, List.getLast?_concat] at hlast
        exact .inl (Option.some.inj hlast).symm
      | cons w rest =>
        have hw : path ++ [y] ++ [w] <+: path ++ [y] ++ w :: rest := ⟨rest, by simp⟩
        exact .inr ⟨_, hchain, hlast, .inr ⟨w, hall w (hchain.of_prefix hw), hw⟩⟩
  · rintro (rfl | ⟨chain, hchain, hlast, hprecedes | ⟨z, hz, hpre⟩⟩)
    · exact ⟨_, hy, List.getLast?_concat, .inr ⟨x, by simp, List.prefix_refl _⟩⟩
    · refine ⟨chain, hchain, hlast, (precedesIn_snoc hprecedes).imp_right ?_⟩
      rintro ⟨z, hlt, hpre⟩
      exact ⟨z, List.mem_append_left _ ((hfront z (hchain.of_prefix hpre)).2 hlt), hpre⟩
    · exact ⟨chain, hchain, hlast, .inr ⟨y, by simp, (List.prefix_append _ _).trans hpre⟩⟩

/-- The search is done with the successors of what it is done with, but for those on its path. -/
theorem LookedIn.edge {path done : List α} {x y : α} (h : LookedIn before g path done x)
    (hy : y ∈ edges g x) : LookedIn before g path done y ∨ y ∈ path := by
  obtain ⟨chain, hchain, hlast, hwhere⟩ := h
  by_cases hmem : y ∈ chain
  · -- the chain up to `y`, which may end on the path
    obtain ⟨before, after, rfl⟩ := List.append_of_mem hmem
    have hpre : before ++ [y] <+: before ++ y :: after := ⟨after, by simp⟩
    have hshort := hchain.of_prefix hpre
    rcases hwhere with ⟨common, a, as, b, bs, heq, rfl, hlt⟩ | ⟨z, hz, hz'⟩
    · rcases List.prefix_or_prefix_of_prefix hpre
        (heq ▸ List.prefix_append common (a :: as)) with hlong | ⟨rest, hlong⟩
      · exact .inr (List.mem_append_left _ (hlong.subset (by simp)))
      · cases rest with
        | nil =>
          refine .inr (List.mem_append_left _ ?_)
          rw [← List.append_nil common, hlong]
          simp
        | cons c rest =>
          have hc : c = a := by
            have h := hlong ▸ hpre
            rw [heq] at h
            obtain ⟨tail, htail⟩ := h
            rw [List.append_assoc] at htail
            exact (List.cons.inj (List.append_cancel_left htail)).1
          exact .inl ⟨_, hshort, List.getLast?_concat, .inl
            ⟨common, a, rest, b, bs, by rw [← hlong, hc], rfl, hlt⟩⟩
    · rcases List.prefix_or_prefix_of_prefix hpre hz' with hlong | hlong
      · rcases (List.prefix_concat_iff.1 hlong) with heq | hpath
        · exact .inl ⟨_, hshort, List.getLast?_concat, .inr ⟨z, hz, heq ▸ List.prefix_refl _⟩⟩
        · exact .inr (hpath.subset (by simp))
      · exact .inl ⟨_, hshort, List.getLast?_concat, .inr ⟨z, hz, hlong⟩⟩
  · refine .inl ⟨_, hchain.snoc hlast hy hmem, List.getLast?_concat, hwhere.imp ?_ ?_⟩
    · exact fun hprecedes => hprecedes.append_left _
    · exact fun ⟨z, hz, hpre⟩ => ⟨z, hz, hpre.trans (List.prefix_append _ _)⟩

/-- The search is done with all that is below a node that it is done with. -/
theorem LookedIn.below {path done rest : List α} {x y : α} (h : LookedIn before g path done y)
    (hchain : Chain g (path ++ y :: rest)) (hlast : (path ++ y :: rest).getLast? = some x) :
    LookedIn before g path done x := by
  have hout : ∀ z ∈ y :: rest, z ∉ path := fun z hz hpath =>
    List.disjoint_of_nodup_append hchain.nodup hpath hz
  have hpath : (y :: rest).IsChain fun a b => b ∈ edges g a :=
    (List.isChain_append.1 hchain.isChain).2.1
  rw [List.getLast?_append_of_ne_nil _ (List.cons_ne_nil _ _)] at hlast
  clear hchain
  induction rest generalizing y with
  | nil =>
    cases hlast
    exact h
  | cons z rest ih =>
    obtain ⟨hz, hpath⟩ := List.isChain_cons_cons.1 hpath
    have hlooked := (h.edge hz).resolve_right (hout z (by simp))
    exact ih hlooked (by rwa [List.getLast?_cons_cons] at hlast)
      (fun w hw => hout w (List.mem_cons_of_mem _ hw)) hpath

/-- Passing a node by changes nothing if there is nothing new below it. -/
theorem lookedIn_pass {path done : List α} {x y : α}
    (hpass : Chain g (path ++ [y]) → LookedIn before g path done y) :
    LookedIn before g path (done ++ [y]) x ↔ LookedIn before g path done x := by
  constructor
  · rintro ⟨chain, hchain, hlast, hprecedes | ⟨z, hz, hpre⟩⟩
    · exact ⟨chain, hchain, hlast, .inl hprecedes⟩
    rcases List.mem_append.1 hz with hz | hz
    · exact ⟨chain, hchain, hlast, .inr ⟨z, hz, hpre⟩⟩
    · cases List.mem_singleton.1 hz
      have hlooked := hpass (hchain.of_prefix hpre)
      obtain ⟨rest, rfl⟩ := hpre
      rw [List.append_assoc, List.singleton_append] at hchain hlast
      exact hlooked.below hchain hlast
  · rintro ⟨chain, hchain, hlast, hwhere⟩
    exact ⟨chain, hchain, hlast,
      hwhere.imp_right fun ⟨z, hz, hpre⟩ => ⟨z, List.mem_append_left _ hz, hpre⟩⟩

/-- No first chain goes on with a node that the search is done with. -/
theorem FirstChainIn.not_lookedIn {path done chain : List α} {y : α} (h : FirstChainIn before g chain)
    (hfront : FrontIn before g path done y) (hpre : path ++ [y] <+: chain) : ¬ LookedIn before g path done y := by
  intro hlooked
  obtain ⟨rest, rfl⟩ := hpre
  have hchain := h.toChain
  obtain ⟨x, hx⟩ : ∃ x, (path ++ [y] ++ rest).getLast? = some x :=
    ⟨_, List.getLast?_eq_some_getLast (by simp)⟩
  obtain ⟨other, hother, hlast, hwhere⟩ : LookedIn before g path done x := by
    rw [List.append_assoc, List.singleton_append] at hchain hx
    exact hlooked.below hchain hx
  refine h.first other hother (hlast.trans hx.symm) ?_
  rcases hwhere with hprecedes | ⟨z, hz, hpre⟩
  · rw [List.append_assoc]
    exact hprecedes.append _
  · exact precedesIn_of_before hpre (List.prefix_append _ _)
      ((hfront z (hother.of_prefix hpre)).1 hz)

/-- The search enters a node along the first chain to it. -/
theorem firstChainIn_of_not_lookedIn {path done : List α} {y : α} (hfront : FrontIn before g path done y)
    (hy : Chain g (path ++ [y])) (hout : ¬ LookedIn before g path done y) : FirstChainIn before g (path ++ [y]) where
  toChain := hy
  first other hother hlast hprecedes := hout <| (lookedIn_enter hfront).1
    ⟨other, hother, by rw [hlast, List.getLast?_concat], .inl hprecedes⟩

/-- Where no node has two successors, a chain from the node that is taken first is a first chain. -/
theorem firstChainIn_of_subsingleton {chain : List α} (h : Chain g chain)
    (honly : ∀ x, ∀ y ∈ edges g x, ∀ z ∈ edges g x, y = z)
    (hirrefl : ∀ path x, ¬ before path x x)
    (hfirst : ∀ x, (g x).isSome → ∀ y ∈ chain.head?, ¬ before [] x y) : FirstChainIn before g chain where
  toChain := h
  first := by
    rintro other hother - ⟨common, a, as, b, bs, rfl, rfl, hlt⟩
    rcases List.eq_nil_or_concat' common with rfl | ⟨path, x, rfl⟩
    · exact hfirst a (hother.isSome a List.mem_cons_self) b rfl hlt
    · have ha := (List.isChain_append.1 hother.isChain).2.2 x (by simp) a (by simp)
      have hb := (List.isChain_append.1 h.isChain).2.2 x (by simp) b (by simp)
      exact hirrefl _ _ (honly x a ha b hb ▸ hlt)

/-- In a sorted list, what is before an element is what is taken before it. -/
theorem mem_iff_before_of_pairwise {path done rest : List α} {x y : α}
    (hasymm : ∀ x y, before path x y → ¬ before path y x)
    (hsorted : (done ++ y :: rest).Pairwise (before path)) (hx : x ∈ done ++ y :: rest) :
    x ∈ done ↔ before path x y := by
  rw [List.pairwise_append, List.pairwise_cons] at hsorted
  obtain ⟨-, ⟨hrest, -⟩, hdone⟩ := hsorted
  refine ⟨fun hmem => hdone x hmem y List.mem_cons_self, fun hlt => ?_⟩
  refine (List.mem_append.1 hx).resolve_right fun hmem => ?_
  rcases List.mem_cons.1 hmem with rfl | hmem
  · exact hasymm x x hlt hlt
  · exact hasymm x y hlt (hrest x hmem)

/-! ## Loops

A search is a computation on states of any kind; `pathOf` is the path that a state is on, and `isDone` says
which nodes it is done with. -/

section

variable {σ ε : Type} {pathOf : σ → List α} {isDone : σ → α → Prop} {fits : List α → Prop}

variable (g before pathOf isDone fits) in
/-- How a part of the search ends: the first chains that it covers fit and it is done with what `looked`
says, or it has come to a chain that does not fit. -/
def ExploresIn (covers : List α → Prop) (path looked : List α) : Except ε σ → Prop
  | .ok s => pathOf s = path ∧ (∀ x, isDone s x ↔ LookedIn before g path looked x) ∧
      ∀ chain, FirstChainIn before g chain → covers chain → fits chain
  | .error _ => ∃ chain, FirstChainIn before g chain ∧ ¬ fits chain

/-- Where the search passes a node by, no first chain goes on with it. -/
theorem exploresIn_pass {s : σ} {path looked : List α} {y : α}
    (hpass : Chain g (path ++ [y]) → LookedIn before g path looked y)
    (hfront : FrontIn before g path looked y) (hpath : pathOf s = path)
    (hdone : ∀ x, isDone s x ↔ LookedIn before g path looked x) :
    ExploresIn g before pathOf isDone fits (path ++ [y] <+: ·) path (looked ++ [y])
      (.ok s : Except ε σ) := by
  refine ⟨hpath, fun x => ?_, fun chain hchain hpre => ?_⟩
  · rw [hdone, lookedIn_pass hpass]
  · exact absurd (hpass (hchain.toChain.of_prefix hpre)) (hchain.not_lookedIn hfront hpre)

/-- A loop over the nodes that chains may go on with after `path`, in the order of the search. -/
theorem exploresIn_foldlM {step : σ → α → Except ε σ} {path ids : List α}
    (hasymm : ∀ x y, before path x y → ¬ before path y x) (hsorted : ids.Pairwise (before path))
    (hall : ∀ x, Chain g (path ++ [x]) → x ∈ ids)
    (hstep : ∀ looked s, ∀ y ∈ ids, FrontIn before g path looked y → pathOf s = path →
      (∀ x, isDone s x ↔ LookedIn before g path looked x) →
      ExploresIn g before pathOf isDone fits (path ++ [y] <+: ·) path (looked ++ [y]) (step s y))
    {s : σ} (hpath : pathOf s = path) (hdone : ∀ x, isDone s x ↔ LookedIn before g path [] x) :
    ExploresIn g before pathOf isDone fits (fun chain => ∃ y ∈ ids, path ++ [y] <+: chain) path ids
      (ids.foldlM step s) := by
  suffices hrest : ∀ (rest looked : List α) (s : σ), ids = looked ++ rest → pathOf s = path →
      (∀ x, isDone s x ↔ LookedIn before g path looked x) →
      ExploresIn g before pathOf isDone fits (fun chain => ∃ y ∈ rest, path ++ [y] <+: chain) path ids
        (rest.foldlM step s) from
    hrest ids [] s rfl hpath hdone
  intro rest
  induction rest with
  | nil =>
    intro looked s hids hpath hdone
    rw [List.append_nil] at hids
    exact ⟨hpath, fun x => hids ▸ hdone x, by simp⟩
  | cons y rest ih =>
    intro looked s hids hpath hdone
    have hfront : FrontIn before g path looked y := fun x hchain =>
      mem_iff_before_of_pairwise hasymm (hids ▸ hsorted) (hids ▸ hall x hchain)
    have hexplores := hstep looked s y (by rw [hids]; simp) hfront hpath hdone
    rw [List.foldlM_cons]
    cases hvisited : step s y with
    | error e =>
      rw [hvisited] at hexplores
      exact hexplores
    | ok next =>
      rw [hvisited] at hexplores
      obtain ⟨hpath', hdone', hshort⟩ := hexplores
      have hloop := ih (looked ++ [y]) next (by rw [hids, List.append_assoc]; rfl) hpath' hdone'
      rw [ok_bind]
      cases hleft : rest.foldlM step next with
      | error e =>
        rw [hleft] at hloop
        exact hloop
      | ok left =>
        rw [hleft] at hloop
        obtain ⟨hpath'', hdone'', hshort'⟩ := hloop
        refine ⟨hpath'', hdone'', fun chain hchain hcovers => ?_⟩
        obtain ⟨x, hx, hpre⟩ := hcovers
        rcases List.mem_cons.1 hx with rfl | hx
        · exact hshort chain hchain hpre
        · exact hshort' chain hchain ⟨x, hx, hpre⟩

end

/-! ## The order of lists -/

section

variable [DecidableEq α] (g) (roots : List α)

/-- The elements that a search goes on with after `path`: the roots at first, then the successors of the
last node. -/
def nextOf (path : List α) : List α :=
  match path.getLast? with
  | none => roots
  | some x => (g x).getD []

/-- The search takes `x` before `y`, since it stands before it. -/
def inTurn (path : List α) (x y : α) : Prop := (nextOf g roots path).idxOf x < (nextOf g roots path).idxOf y

theorem pairwise_inTurn {path : List α} (h : (nextOf g roots path).Nodup) :
    (nextOf g roots path).Pairwise (inTurn g roots path) := by
  rw [List.pairwise_iff_getElem]
  intro i j hi hj hij
  rw [inTurn, h.idxOf_getElem, h.idxOf_getElem]
  exact hij

end

end Digraph

end StateLib
