import DollState.Library.Digraph
import Mathlib.Order.WellFounded
import Mathlib.Data.Set.Finite.Basic
import Mathlib.Data.Fintype.EquivFin

/-!
# What is resolved

In a finite digraph an element is resolved if and only if everything it leads to is a node and on no
cycle (`resolves_iff_sound`).
-/

namespace StateLib

namespace Digraph

variable {α : Type*} {g g' : α → Option (List α)}

/-- `y` is named as a successor of `x`, whether or not it is a node. -/
def Successor (g : α → Option (List α)) (x y : α) : Prop := ∃ ys, g x = some ys ∧ y ∈ ys

/-- Everything that `x` leads to, itself included, is a node and on no cycle. -/
def Sound (g : α → Option (List α)) (x : α) : Prop :=
  ∀ y, Relation.ReflTransGen (Successor g) x y →
    (g y).isSome ∧ ¬ Relation.TransGen (Successor g) y y

theorem Successor.mono (h : ∀ x ys, g' x = some ys → g x = some ys) {x y : α}
    (hy : Successor g' x y) : Successor g x y := by
  obtain ⟨ys, hx, hmem⟩ := hy
  exact ⟨ys, h x ys hx, hmem⟩

theorem Resolves.of_reaches {x y : α} (h : Resolves g x) (hy : Relation.ReflTransGen (Successor g) x y) :
    Resolves g y := by
  induction hy with
  | refl => exact h
  | tail _ hstep ih =>
    obtain ⟨ys, hx, hmem⟩ := hstep
    exact ih.of_mem hx hmem

/-- What is resolved leads back to itself in no way. -/
theorem Resolves.acyclic {x : α} (h : Resolves g x) : ¬ Relation.TransGen (Successor g) x x := by
  induction h with
  | @intro x ys hx _ ih =>
    intro hcycle
    obtain ⟨y, ⟨ys', hx', hmem⟩, hback⟩ := Relation.TransGen.head'_iff.1 hcycle
    cases hx.symm.trans hx'
    exact ih y hmem (Relation.TransGen.tail' hback ⟨ys, hx, hmem⟩)

theorem Resolves.sound {x : α} (h : Resolves g x) : Sound g x := fun _ hy =>
  ⟨(h.of_reaches hy).isSome, (h.of_reaches hy).acyclic⟩

/-- The nodes that `x` leads to are finitely many, so that going down from it comes to an end. -/
theorem resolves_of_sound (hfin : {y | (g y).isSome}.Finite) {x : α} (h : Sound g x) : Resolves g x := by
  let below := {y // Relation.ReflTransGen (Successor g) x y}
  have hsub : {y | Relation.ReflTransGen (Successor g) x y} ⊆ {y | (g y).isSome} := fun y hy => (h y hy).1
  have : Finite below := (hfin.subset hsub).to_subtype
  let r : below → below → Prop := fun a b => Relation.TransGen (Successor g) b a
  have : IsTrans below r := ⟨fun _ _ _ hab hbc => hbc.trans hab⟩
  have : Std.Irrefl r := ⟨fun a => (h a a.2).2⟩
  have hwf : WellFounded r := Finite.wellFounded_of_trans_of_irrefl r
  suffices hall : ∀ a : below, Resolves g a from hall ⟨x, .refl⟩
  intro a
  induction a using hwf.induction with
  | _ a ih =>
    obtain ⟨ys, hys⟩ := Option.isSome_iff_exists.1 (h a a.2).1
    refine .intro hys fun y hy => ?_
    exact ih ⟨y, a.2.tail ⟨ys, hys, hy⟩⟩ (.single ⟨ys, hys, hy⟩)

theorem resolves_iff_sound (hfin : {y | (g y).isSome}.Finite) {x : α} : Resolves g x ↔ Sound g x :=
  ⟨Resolves.sound, resolves_of_sound hfin⟩

end Digraph

end StateLib
