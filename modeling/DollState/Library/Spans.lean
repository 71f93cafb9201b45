import DollState.Library.Assoc
import Mathlib.Data.List.Forall2
import Mathlib.Data.List.Flatten
import Mathlib.Order.MinMax

/-!
# Merging spans that overlap

An item occupies the positions from `start` up to, but not including, `stop`. `mergeFrom` runs
through items in the order of their starts and joins each with the item before it as long as the
two overlap. `exists_groups_mergeFrom` says what this computes: the items fall into groups whose
members are linked by overlaps and that lie apart from one another (`MaximalGroups`), and there is
one joined item for each of them, which spans exactly what its group covers (`IsHull`).

`cutFrom` puts one marker in the place of each span of a text; `cutFrom_eq_flatMap` says, position by
position, what is left.
-/

namespace StateLib

variable {ι : Type} {τ : Type*} [LinearOrder τ] (start stop : ι → τ)

/-! ## Groups of overlapping items -/

/-- The two items share a position. -/
def Overlap (a b : ι) : Prop := start a < stop b ∧ start b < stop a

/-- The item occupies the position. -/
def Occupies (a : ι) (p : τ) : Prop := start a ≤ p ∧ p < stop a

/-- Any two items of the group are linked by overlapping items of the group. -/
def Linked (group : List ι) : Prop :=
  ∀ a ∈ group, ∀ b ∈ group,
    Relation.ReflTransGen (fun x y => x ∈ group ∧ y ∈ group ∧ Overlap start stop x y) a b

/-- No item of the first group reaches into an item of the second. -/
def Before (first second : List ι) : Prop := ∀ a ∈ first, ∀ b ∈ second, stop a ≤ start b

/-- The items, divided into groups of overlapping items that do not overlap one another. -/
structure MaximalGroups (groups : List (List ι)) (items : List ι) : Prop where
  perm : groups.flatten.Perm items
  ne_nil : ∀ group ∈ groups, group ≠ []
  linked : ∀ group ∈ groups, Linked start stop group
  apart : groups.Pairwise (Before start stop)

/-- The item spans what the items of the group cover together. -/
structure IsHull (group : List ι) (item : ι) : Prop where
  exists_start : ∃ a ∈ group, start a = start item
  exists_stop : ∃ a ∈ group, stop a = stop item
  occupies_iff : ∀ p, Occupies start stop item p ↔ ∃ a ∈ group, Occupies start stop a p

variable {start stop}

theorem Overlap.symm {a b : ι} (h : Overlap start stop a b) : Overlap start stop b a := ⟨h.2, h.1⟩

theorem linked_singleton (a : ι) : Linked start stop [a] := by
  intro x hx y hy
  rw [List.mem_singleton.1 hx, List.mem_singleton.1 hy]

/-- An item that overlaps one of the group joins it. -/
theorem Linked.concat {group : List ι} (h : Linked start stop group) {a b : ι} (hb : b ∈ group)
    (hover : Overlap start stop b a) : Linked start stop (group ++ [a]) := by
  have hgrown : ∀ x ∈ group, ∀ y ∈ group, Relation.ReflTransGen
      (fun x y => x ∈ group ++ [a] ∧ y ∈ group ++ [a] ∧ Overlap start stop x y) x y :=
    fun x hx y hy => (h x hx y hy).lift id fun u v huv =>
      ⟨List.mem_append_left _ huv.1, List.mem_append_left _ huv.2.1, huv.2.2⟩
  have ha : a ∈ group ++ [a] := List.mem_append_right _ (List.mem_singleton_self a)
  have hb' : b ∈ group ++ [a] := List.mem_append_left _ hb
  intro x hx y hy
  rcases List.mem_append.1 hx with hx | hx <;> rcases List.mem_append.1 hy with hy | hy
  · exact hgrown x hx y hy
  · rw [List.mem_singleton.1 hy]
    exact (hgrown x hx b hb).tail ⟨hb', ha, hover⟩
  · rw [List.mem_singleton.1 hx]
    exact (hgrown b hb y hy).head ⟨ha, hb', hover.symm⟩
  · rw [List.mem_singleton.1 hx, List.mem_singleton.1 hy]

/-- Hulls of groups that lie apart lie apart. -/
theorem pairwise_of_isHull {groups : List (List ι)} {items : List ι}
    (hhull : List.Forall₂ (IsHull start stop) groups items)
    (hapart : groups.Pairwise (Before start stop)) :
    items.Pairwise fun a b => stop a ≤ start b := by
  induction hhull with
  | nil => exact .nil
  | @cons group item groups items h hhull ih =>
    obtain ⟨hfirst, hapart⟩ := List.pairwise_cons.1 hapart
    refine List.pairwise_cons.2 ⟨fun next hnext => ?_, ih hapart⟩
    obtain ⟨g, hg, hgnext⟩ := exists_of_mem_forall₂ hhull.flip hnext
    obtain ⟨a, ha, hstop⟩ := h.exists_stop
    obtain ⟨b, hb, hstart⟩ := hgnext.exists_start
    rw [← hstop, ← hstart]
    exact hfirst g hg a ha b hb

/-- The hulls of groups cover what the items of the groups cover. -/
theorem exists_occupies_iff {groups : List (List ι)} {items hulls : List ι}
    (hgroups : MaximalGroups start stop groups items)
    (hhull : List.Forall₂ (IsHull start stop) groups hulls) (p : τ) :
    (∃ hull ∈ hulls, Occupies start stop hull p) ↔ ∃ a ∈ items, Occupies start stop a p := by
  constructor
  · rintro ⟨hull, hmem, hp⟩
    obtain ⟨group, hgroup, h⟩ := exists_of_mem_forall₂ hhull.flip hmem
    obtain ⟨a, ha, hpa⟩ := (h.occupies_iff p).1 hp
    exact ⟨a, hgroups.perm.subset (List.mem_flatten.2 ⟨group, hgroup, ha⟩), hpa⟩
  · rintro ⟨a, ha, hpa⟩
    obtain ⟨group, hgroup, hmem⟩ := List.mem_flatten.1 (hgroups.perm.symm.subset ha)
    obtain ⟨hull, hhullmem, h⟩ := exists_of_mem_forall₂ hhull hgroup
    exact ⟨hull, hhullmem, (h.occupies_iff p).2 ⟨a, hmem, hpa⟩⟩

/-! ## Merging -/

section Merge

variable (start stop) (join : ι → ι → ι)

/-- Merge the items, given in the order of their starts, `last` being the item before them. -/
def mergeFrom (last : ι) : List ι → List ι
  | [] => [last]
  | item :: items =>
    if stop last ≤ start item then last :: mergeFrom item items
    else mergeFrom (join last item) items

/-- The item that joining the items of the group one after the other gives. -/
inductive IsJoin : List ι → ι → Prop
  | single (a : ι) : IsJoin [a] a
  | snoc {group : List ι} {item a : ι} (h : IsJoin group item) : IsJoin (group ++ [a]) (join item a)

/-- Joining two items gives the item from the smaller start to the larger stop. -/
structure Spans : Prop where
  start_join : ∀ a b, start (join a b) = min (start a) (start b)
  stop_join : ∀ a b, stop (join a b) = max (stop a) (stop b)

variable {start stop join}

theorem IsJoin.ne_nil {group : List ι} {item : ι} (h : IsJoin join group item) : group ≠ [] := by
  cases h <;> simp

/-- What holds of the items of a group and is kept by a join holds of the joined item. -/
theorem IsJoin.rec_on_join {P : ι → Prop} {group : List ι} {item : ι} (h : IsJoin join group item)
    (hjoin : ∀ a b, P a → P b → P (join a b)) (hP : ∀ a ∈ group, P a) : P item := by
  induction h with
  | single a => exact hP a (List.mem_singleton_self a)
  | snoc _ ih =>
    exact hjoin _ _ (ih fun a ha => hP a (List.mem_append_left _ ha))
      (hP _ (List.mem_append_right _ (List.mem_singleton_self _)))

theorem IsJoin.le_stop (hspans : Spans start stop join) {group : List ι} {item : ι}
    (h : IsJoin join group item) : ∀ a ∈ group, stop a ≤ stop item := by
  induction h with
  | single a => simp
  | snoc _ ih =>
    intro b hb
    rw [hspans.stop_join]
    rcases List.mem_append.1 hb with hb | hb
    · exact (ih b hb).trans (le_max_left _ _)
    · rw [List.mem_singleton.1 hb]
      exact le_max_right _ _

/-- A joined item that the next one overlaps spans what the two cover. -/
theorem IsHull.snoc (hspans : Spans start stop join) {group : List ι} {item a : ι}
    (h : IsHull start stop group item) (hle : start item ≤ start a) (hlt : start a < stop item) :
    IsHull start stop (group ++ [a]) (join item a) where
  exists_start := by
    obtain ⟨b, hb, hstart⟩ := h.exists_start
    refine ⟨b, List.mem_append_left _ hb, ?_⟩
    rw [hspans.start_join, min_eq_left hle, hstart]
  exists_stop := by
    obtain ⟨b, hb, hstop⟩ := h.exists_stop
    rw [hspans.stop_join]
    rcases max_choice (stop item) (stop a) with hmax | hmax
    · exact ⟨b, List.mem_append_left _ hb, hstop.trans hmax.symm⟩
    · exact ⟨a, List.mem_append_right _ (List.mem_singleton_self a), hmax.symm⟩
  occupies_iff p := by
    have hsplit : Occupies start stop (join item a) p ↔
        Occupies start stop item p ∨ Occupies start stop a p := by
      simp only [Occupies, hspans.start_join, hspans.stop_join, min_eq_left hle, lt_max_iff]
      constructor
      · rintro ⟨hstart, hstop | hstop⟩
        · exact .inl ⟨hstart, hstop⟩
        · rcases lt_or_ge p (start a) with hp | hp
          · exact .inl ⟨hstart, hp.trans hlt⟩
          · exact .inr ⟨hp, hstop⟩
      · rintro (⟨hstart, hstop⟩ | ⟨hstart, hstop⟩)
        · exact ⟨hstart, .inl hstop⟩
        · exact ⟨hle.trans hstart, .inr hstop⟩
    rw [hsplit, h.occupies_iff]
    simp [or_and_right, exists_or]

theorem isHull_singleton (a : ι) : IsHull start stop [a] a where
  exists_start := ⟨a, List.mem_singleton_self a, rfl⟩
  exists_stop := ⟨a, List.mem_singleton_self a, rfl⟩
  occupies_iff p := by simp

/-- What merging computes, the items of `group` having been joined to `last` before. -/
theorem exists_groups_mergeFrom (hspans : Spans start stop join) :
    ∀ (items group : List ι) (last : ι), IsJoin join group last → IsHull start stop group last →
      Linked start stop group → (∀ a ∈ group ++ items, start a < stop a) →
      (group ++ items).Pairwise (fun a b => start a ≤ start b) →
      ∃ groups : List (List ι), groups.flatten = group ++ items ∧
        List.Forall₂ (fun g m => IsJoin join g m ∧ IsHull start stop g m) groups
          (mergeFrom start stop join last items) ∧
        (∀ g ∈ groups, Linked start stop g) ∧ groups.Pairwise (Before start stop) := by
  intro items
  induction items with
  | nil =>
    intro group last hjoin hhull hlinked _ _
    exact ⟨[group], by simp, by simpa [mergeFrom] using ⟨hjoin, hhull⟩, by simpa using hlinked,
      List.pairwise_singleton _ _⟩
  | cons item items ih =>
    intro group last hjoin hhull hlinked hlt hsorted
    have hnext : ∀ a ∈ group, start a ≤ start item := fun a ha =>
      (List.pairwise_append.1 hsorted).2.2 a ha item List.mem_cons_self
    simp only [mergeFrom]
    split
    · rename_i hapart
      obtain ⟨groups, hflat, hmerged, hlinked', hpair⟩ := ih [item] item (.single item)
        (isHull_singleton item) (linked_singleton item)
        (fun a ha => hlt a (List.mem_append_right _ (by simpa using ha)))
        (by simpa using (List.pairwise_append.1 hsorted).2.1)
      refine ⟨group :: groups, by simp [hflat], .cons ⟨hjoin, hhull⟩ hmerged, ?_, ?_⟩
      · exact List.forall_mem_cons.2 ⟨hlinked, hlinked'⟩
      · refine List.pairwise_cons.2 ⟨fun g hg a ha b hb => ?_, hpair⟩
        have hmem : b ∈ item :: items := by
          have := List.mem_flatten.2 ⟨g, hg, hb⟩
          rwa [hflat] at this
        have hstart : start item ≤ start b := by
          rcases List.mem_cons.1 hmem with rfl | hmem
          · exact le_rfl
          · exact (List.pairwise_cons.1 (List.pairwise_append.1 hsorted).2.1).1 b hmem
        exact ((hjoin.le_stop hspans a ha).trans hapart).trans hstart
    · rename_i hover
      have hlist : group ++ item :: items = group ++ [item] ++ items := by simp
      obtain ⟨b, hb, hstop⟩ := hhull.exists_stop
      have hreach : start item < stop b := hstop ▸ not_le.1 hover
      have hitem : start item < stop item := hlt item (by simp)
      obtain ⟨a, ha, hstart⟩ := hhull.exists_start
      rw [hlist] at hlt hsorted ⊢
      exact ih (group ++ [item]) (join last item) hjoin.snoc
        (hhull.snoc hspans (hstart ▸ hnext a ha) (not_le.1 hover))
        (hlinked.concat hb ⟨(hnext b hb).trans_lt hitem, hreach⟩) hlt hsorted

end Merge

/-! ## Cutting spans out of a text -/

section Cut

variable {α : Type*} (first last : ι → ℕ) (marker : ι → List α)

/-- The text from `cursor` on, with a marker in the place of each of the items. -/
def cutFrom (text : List α) (cursor : ℕ) : List ι → List α
  | [] => text.drop cursor
  | item :: items =>
    (text.drop cursor).take (first item - cursor) ++ marker item ++
      cutFrom text (last item) items

/-- What stands for the character `c` at position `i`: the character itself outside all items, the
marker of an item at its start, nothing at its other positions. -/
def placed (items : List ι) (c : α) (i : ℕ) : List α :=
  match items.find? fun item => decide (first item ≤ i ∧ i < last item) with
  | none => [c]
  | some item => if i = first item then marker item else []

variable {first last marker}

/-- Outside all items the character stays. -/
theorem placed_of_not_occupies {items : List ι} {c : α} {i : ℕ}
    (h : ∀ item ∈ items, ¬ Occupies first last item i) :
    placed first last marker items c i = [c] := by
  have hnone : items.find? (fun item => decide (first item ≤ i ∧ i < last item)) = none :=
    List.find?_eq_none.2 fun item hitem => mt of_decide_eq_true (h item hitem)
  simp only [placed, hnone]

theorem placed_cons_of_mem {items : List ι} {item : ι} {c : α} {i : ℕ} (hfirst : first item ≤ i)
    (hlast : i < last item) :
    placed first last marker (item :: items) c i = if i = first item then marker item else [] := by
  have hfind : (item :: items).find? (fun item => decide (first item ≤ i ∧ i < last item)) =
      some item := List.find?_cons_of_pos (decide_eq_true ⟨hfirst, hlast⟩)
  simp only [placed, hfind]

theorem placed_cons_of_le {items : List ι} {item : ι} {c : α} {i : ℕ} (h : last item ≤ i) :
    placed first last marker (item :: items) c i = placed first last marker items c i := by
  have hfind : (item :: items).find? (fun item => decide (first item ≤ i ∧ i < last item)) =
      items.find? fun item => decide (first item ≤ i ∧ i < last item) :=
    List.find?_cons_of_neg (by simp only [decide_eq_true_eq]; omega)
  simp only [placed, hfind]

/-- Within an item, of items that lie apart, its marker stands at its start. -/
theorem placed_of_occupies {items : List ι} (hapart : items.Pairwise fun a b => last a ≤ first b)
    {item : ι} (hitem : item ∈ items) {c : α} {i : ℕ} (h : Occupies first last item i) :
    placed first last marker items c i = if i = first item then marker item else [] := by
  induction items with
  | nil => cases hitem
  | cons head items ih =>
    obtain ⟨hhead, hapart⟩ := List.pairwise_cons.1 hapart
    rcases List.mem_cons.1 hitem with rfl | hitem
    · exact placed_cons_of_mem h.1 h.2
    · rw [placed_cons_of_le ((hhead item hitem).trans h.1), ih hapart hitem]

/-- Between two items every character stays. -/
theorem flatMap_placed_of_lt {items : List ι} {l : List α} {k : ℕ}
    (h : ∀ item ∈ items, k + l.length ≤ first item) :
    (l.zipIdx k).flatMap (fun p => placed first last marker items p.1 p.2) = l := by
  have hkept : ∀ p ∈ l.zipIdx k, placed first last marker items p.1 p.2 = [p.1] := fun p hp =>
    placed_of_not_occupies fun item hitem hocc => by
      have hlt := List.snd_lt_add_of_mem_zipIdx hp
      have hle := h item hitem
      have hfirst := hocc.1
      omega
  rw [List.flatMap_congr hkept, ← List.map_eq_flatMap, List.zipIdx_map_fst]

/-- Over the length of an item its marker is what is left. -/
theorem flatMap_placed_of_mem {items : List ι} {item : ι} {l : List α} (hne : l ≠ [])
    (h : first item + l.length ≤ last item) :
    (l.zipIdx (first item)).flatMap (fun p => placed first last marker (item :: items) p.1 p.2) =
      marker item := by
  cases l with
  | nil => exact absurd rfl hne
  | cons c l =>
    rw [List.length_cons] at h
    have hrest : (l.zipIdx (first item + 1)).flatMap
        (fun p => placed first last marker (item :: items) p.1 p.2) = [] :=
      List.flatMap_eq_nil_iff.2 fun p hp => by
        have hle := List.le_snd_of_mem_zipIdx hp
        have hlt := List.snd_lt_add_of_mem_zipIdx hp
        rw [placed_cons_of_mem (by omega) (by omega), if_neg (by omega)]
    rw [List.zipIdx_cons, List.flatMap_cons, hrest, List.append_nil,
      placed_cons_of_mem le_rfl (by omega), if_pos rfl]

/-- Cutting items that lie apart and in order out of a text leaves, position by position, what
`placed` says. -/
theorem cutFrom_eq_flatMap (text : List α) :
    ∀ (items : List ι) (cursor : ℕ), (∀ item ∈ items, cursor ≤ first item) →
      (∀ item ∈ items, first item < last item ∧ last item ≤ text.length) →
      items.Pairwise (fun a b => last a ≤ first b) →
      cutFrom first last marker text cursor items =
        ((text.drop cursor).zipIdx cursor).flatMap fun p =>
          placed first last marker items p.1 p.2 := by
  intro items
  induction items with
  | nil =>
    intro cursor _ _ _
    rw [flatMap_placed_of_lt (by simp), cutFrom]
  | cons item items ih =>
    intro cursor hcursor hspan hapart
    obtain ⟨hlt, hle⟩ := hspan item List.mem_cons_self
    have hfirst := hcursor item List.mem_cons_self
    obtain ⟨hnext, hapart⟩ := List.pairwise_cons.1 hapart
    have hbetween : ((text.drop cursor).take (first item - cursor)).length =
        first item - cursor := by
      rw [List.length_take, List.length_drop]
      omega
    have hwithin : ((text.drop (first item)).take (last item - first item)).length =
        last item - first item := by
      rw [List.length_take, List.length_drop]
      omega
    have hsplit : text.drop cursor = (text.drop cursor).take (first item - cursor) ++
        ((text.drop (first item)).take (last item - first item) ++ text.drop (last item)) := by
      have htail : text.drop (last item) = (text.drop (first item)).drop (last item - first item) := by
        rw [List.drop_drop, Nat.add_sub_cancel' hlt.le]
      have hhead : text.drop (first item) = (text.drop cursor).drop (first item - cursor) := by
        rw [List.drop_drop, Nat.add_sub_cancel' hfirst]
      rw [htail, List.take_append_drop, hhead, List.take_append_drop]
    have hafter : ((text.drop (last item)).zipIdx (last item)).flatMap
          (fun p => placed first last marker (item :: items) p.1 p.2) =
        cutFrom first last marker text (last item) items := by
      rw [ih (last item) hnext (fun x hx => hspan x (List.mem_cons_of_mem _ hx)) hapart]
      exact List.flatMap_congr fun p hp => placed_cons_of_le (List.le_snd_of_mem_zipIdx hp)
    rw [cutFrom, hsplit, List.zipIdx_append, List.zipIdx_append, List.flatMap_append,
      List.flatMap_append, ← hsplit, hbetween, hwithin, Nat.add_sub_cancel' hfirst,
      Nat.add_sub_cancel' hlt.le, hafter, flatMap_placed_of_mem, flatMap_placed_of_lt,
      List.append_assoc]
    · intro x hx
      rw [hbetween, Nat.add_sub_cancel' hfirst]
      rcases List.mem_cons.1 hx with rfl | hx
      · exact le_rfl
      · exact hlt.le.trans (hnext x hx)
    · exact List.ne_nil_of_length_pos (by omega)
    · rw [hwithin, Nat.add_sub_cancel' hlt.le]

end Cut

end StateLib
