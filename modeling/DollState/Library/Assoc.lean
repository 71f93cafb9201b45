import Mathlib.Data.List.Forall2
import Mathlib.Data.List.Nodup

/-!
# Association lists

A dictionary is a list of entries with distinct keys; `List.lookup` finds the entry of a key.
-/

namespace StateLib

variable {κ α ι : Type}

/-- The key of an entry, by which it is found. -/
theorem isSome_lookup_iff [BEq κ] [LawfulBEq κ] {entries : List (κ × α)} {k : κ} :
    (entries.lookup k).isSome = true ↔ k ∈ entries.map Prod.fst := by
  rw [List.lookup_isSome_iff, List.mem_map]
  constructor
  · rintro ⟨entry, hentry, hk⟩
    exact ⟨entry, hentry, (eq_of_beq hk).symm⟩
  · rintro ⟨entry, hentry, rfl⟩
    exact ⟨entry, hentry, beq_self_eq_true _⟩

theorem exists_lookup_of_mem [BEq κ] [LawfulBEq κ] {entries : List (κ × α)} {k : κ}
    (h : k ∈ entries.map Prod.fst) : ∃ a, entries.lookup k = some a :=
  Option.isSome_iff_exists.1 (isSome_lookup_iff.2 h)

/-- With distinct keys, every entry is the one that its key finds. -/
theorem lookup_of_nodup [BEq κ] [LawfulBEq κ] {entries : List (κ × α)}
    (hnodup : (entries.map Prod.fst).Nodup) {entry : κ × α} (h : entry ∈ entries) :
    entries.lookup entry.1 = some entry.2 := by
  induction entries with
  | nil => cases h
  | cons first entries ih =>
    rw [List.map_cons, List.nodup_cons] at hnodup
    rw [List.lookup_cons]
    rcases List.mem_cons.1 h with rfl | h
    · simp
    · have hne : entry.1 ≠ first.1 := fun he => hnodup.1 (he ▸ List.mem_map_of_mem h)
      rw [beq_eq_false_iff_ne.2 hne]
      exact ih hnodup.2 h

theorem mem_of_lookup [BEq κ] [LawfulBEq κ] {entries : List (κ × α)} {k : κ} {a : α}
    (h : entries.lookup k = some a) : (k, a) ∈ entries := by
  obtain ⟨before, after, rfl, -⟩ := List.lookup_eq_some_iff.1 h
  exact List.mem_append_right _ (List.mem_cons_self)

/-- Among elements with distinct keys, one is the only one of its key. -/
theorem filter_key_eq_singleton [DecidableEq κ] {key : ι → κ} {xs : List ι}
    (hnodup : (xs.map key).Nodup) {x : ι} (hx : x ∈ xs) :
    xs.filter (fun y => key y = key x) = [x] := by
  induction xs with
  | nil => cases hx
  | cons y xs ih =>
    rw [List.map_cons, List.nodup_cons] at hnodup
    rcases List.mem_cons.1 hx with rfl | hx
    · rw [List.filter_cons_of_pos (by simp), List.filter_eq_nil_iff.2]
      intro z hz he
      exact hnodup.1 (of_decide_eq_true he ▸ List.mem_map_of_mem hz)
    · have hne : key y ≠ key x := fun he => hnodup.1 (he ▸ List.mem_map_of_mem hx)
      rw [List.filter_cons_of_neg (by simpa using hne)]
      exact ih hnodup.2 hx

/-- Of two lists of related elements, each element of the first has one of the second. -/
theorem exists_of_mem_forall₂ {R : ι → α → Prop} {xs : List ι} {ys : List α}
    (h : List.Forall₂ R xs ys) {x : ι} (hx : x ∈ xs) : ∃ y ∈ ys, R x y := by
  induction h with
  | nil => cases hx
  | @cons x' y xs ys hxy _ ih =>
    rcases List.mem_cons.1 hx with rfl | hx
    · exact ⟨y, List.mem_cons_self, hxy⟩
    · obtain ⟨z, hz, hxz⟩ := ih hx
      exact ⟨z, List.mem_cons_of_mem _ hz, hxz⟩

end StateLib
