import DollState.Library.SearchOrder

/-!
# How deep a depth-first search goes

A depth-first search that takes the nodes and the successors of each node in increasing order
enters a node along the first of the chains that lead to it: the one that no other chain to the node
precedes. `Looked` is the set of nodes that the search is done with at one point of its way, in
terms of chains. What is said here about increasing order is a case of the rules for any order.
-/

namespace StateLib

namespace Digraph

variable {α : Type*} {g : α → Option (List α)}

variable [LT α]

/-- Where the two part, the first goes on with a smaller element. -/
def Precedes (first second : List α) : Prop :=
  ∃ common a as b bs, first = common ++ a :: as ∧ second = common ++ b :: bs ∧ a < b

/-- A chain that no other chain to the same node precedes. -/
structure FirstChain (g : α → Option (List α)) (chain : List α) : Prop extends Chain g chain where
  first : ∀ other, Chain g other → other.getLast? = chain.getLast? → ¬ Precedes other chain

/-- The nodes at the end of the chains that precede `path` or go on from it with one of `done`. -/
def Looked (g : α → Option (List α)) (path done : List α) (x : α) : Prop :=
  ∃ chain, Chain g chain ∧ chain.getLast? = some x ∧
    (Precedes chain path ∨ ∃ y ∈ done, path ++ [y] <+: chain)

/-- Of the nodes that a chain may go on with, `done` are those before `y`. -/
def Front (g : α → Option (List α)) (path done : List α) (y : α) : Prop :=
  ∀ x, Chain g (path ++ [x]) → (x ∈ done ↔ x < y)

/-- The order of the elements, whatever the path is. -/
def increasing (_ : List α) (x y : α) : Prop := x < y

theorem firstChain_iff {chain : List α} : FirstChain g chain ↔ FirstChainIn increasing g chain :=
  ⟨fun h => ⟨h.toChain, h.first⟩, fun h => ⟨h.toChain, h.first⟩⟩

theorem not_looked_nil {x : α} : ¬ Looked g [] [] x :=
  not_lookedIn_nil

/-- Entering a node changes nothing yet. -/
theorem looked_enter {path done : List α} {x y : α} (hfront : Front g path done y) :
    Looked g (path ++ [y]) [] x ↔ Looked g path done x :=
  lookedIn_enter hfront

/-- Leaving a node adds the node and what is below it. -/
theorem looked_leave {path done successors : List α} {x y : α} (hfront : Front g path done y)
    (hy : Chain g (path ++ [y])) (hall : ∀ z, Chain g (path ++ [y] ++ [z]) → z ∈ successors) :
    Looked g path (done ++ [y]) x ↔ x = y ∨ Looked g (path ++ [y]) successors x :=
  lookedIn_leave hfront hy hall

/-- The search enters a node along the first chain to it. -/
theorem firstChain_of_not_looked {path done : List α} {y : α} (hfront : Front g path done y)
    (hy : Chain g (path ++ [y])) (hout : ¬ Looked g path done y) : FirstChain g (path ++ [y]) :=
  firstChain_iff.2 (firstChainIn_of_not_lookedIn hfront hy hout)

end Digraph

end StateLib
