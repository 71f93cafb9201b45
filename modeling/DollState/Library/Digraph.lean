import Mathlib.Data.List.Chain
import Mathlib.Data.List.Nodup
import Mathlib.Logic.Relation
import Mathlib.Data.List.Basic
import Mathlib.Data.Finset.Card

/-!
# Finding a cycle by depth-first search

A digraph is given by the function `next` from a node to its successors. `visit` is the textbook
search: it carries the nodes on the current path and the nodes it is done with, and fails when it
comes to a node of the path again. `acyclic` starts it from every node of a list. The search is
correct (`acyclic_iff`): it succeeds exactly if no node is reachable from itself.
-/

namespace StateLib

namespace Digraph

variable {α : Type*}

/-- `y` is reachable from `x` by one edge or more. -/
abbrev Reaches (next : α → List α) : α → α → Prop := Relation.TransGen fun x y => y ∈ next x

/-- No node is reachable from itself. -/
def Acyclic (next : α → List α) : Prop := ∀ x, ¬ Reaches next x x

/-- Fewer edges do not make a cycle. -/
theorem Acyclic.mono {next next' : α → List α} (h : Acyclic next) (hsub : ∀ x, next' x ⊆ next x) :
    Acyclic next' := fun x hx =>
  h x (Relation.TransGen.mono (fun y _ hz => hsub y hz) _ _ hx)

/-- A new node that no edge leads to closes no cycle. -/
theorem Acyclic.of_source {next next' : α → List α} {s : α} (h : Acyclic next)
    (hsub : ∀ x, x ≠ s → next' x ⊆ next x) (hs : ∀ x, s ∉ next' x) : Acyclic next' := by
  -- a path that does not start at `s` never comes to `s`, so it is one of the old digraph
  have hpath : ∀ {x y}, x ≠ s → Reaches next' x y → Reaches next x y ∧ y ≠ s := by
    intro x y hx hxy
    induction hxy with
    | single hy => exact ⟨.single (hsub x hx hy), fun e => hs x (e ▸ hy)⟩
    | tail _ hy ih => exact ⟨ih.1.tail (hsub _ ih.2 hy), fun e => hs _ (e ▸ hy)⟩
  intro x hx
  by_cases hxs : x = s
  · obtain ⟨y, -, hy⟩ := Relation.TransGen.tail'_iff.1 hx
    exact hs y (hxs ▸ hy)
  · exact h x (hpath hxs hx).1

/-- Going down from `x` comes to an end. -/
abbrev Terminates (next : α → List α) (x : α) : Prop := Acc (fun y x => y ∈ next x) x

theorem not_reaches_self_of_terminates {next : α → List α} {x : α} (h : Terminates next x) :
    ¬ Reaches next x x := by
  induction h with
  | intro x _ ih =>
    intro hcycle
    obtain ⟨y, hxy, hyx⟩ := Relation.TransGen.head'_iff.1 hcycle
    exact ih y hxy (Relation.TransGen.tail' hyx hxy)

/-! ## Digraphs on some of the elements

A partial function `g` gives the successors of the elements that are nodes. Only edges between
nodes count. -/

/-- The successors of `x` that are nodes. -/
def edges (g : α → Option (List α)) (x : α) : List α :=
  ((g x).getD []).filter fun y => (g y).isSome

theorem mem_edges {g : α → Option (List α)} {x y : α} :
    y ∈ edges g x ↔ (∃ ys, g x = some ys ∧ y ∈ ys) ∧ (g y).isSome := by
  rw [edges, List.mem_filter]
  cases g x <;> simp

/-- Fewer nodes and edges do not make a cycle. -/
theorem Acyclic.edges_mono {g g' : α → Option (List α)} (h : Acyclic (edges g))
    (hsub : ∀ x ys, g' x = some ys → ∃ zs, g x = some zs ∧ ys ⊆ zs) : Acyclic (edges g') := by
  refine h.mono fun x y hy => ?_
  obtain ⟨⟨ys, hx, hmem⟩, hnode⟩ := mem_edges.1 hy
  obtain ⟨ys', hy'⟩ := Option.isSome_iff_exists.1 hnode
  obtain ⟨zs, hgx, hsub'⟩ := hsub x ys hx
  obtain ⟨zs', hgy, -⟩ := hsub y ys' hy'
  exact mem_edges.2 ⟨⟨zs, hgx, hsub' hmem⟩, by rw [hgy]; rfl⟩

/-- An element is resolved if it is a node and all its successors are resolved. -/
inductive Resolves (g : α → Option (List α)) : α → Prop
  | intro {x : α} {ys : List α} (hx : g x = some ys) (hys : ∀ y ∈ ys, Resolves g y) : Resolves g x

theorem Resolves.isSome {g : α → Option (List α)} {x : α} (h : Resolves g x) : (g x).isSome := by
  obtain ⟨hx, -⟩ := h
  simp [hx]

theorem Resolves.of_mem {g : α → Option (List α)} {x y : α} {ys : List α} (h : Resolves g x)
    (hx : g x = some ys) (hy : y ∈ ys) : Resolves g y := by
  obtain ⟨hx', hys⟩ := h
  cases hx.symm.trans hx'
  exact hys y hy

theorem Resolves.terminates {g : α → Option (List α)} {x : α} (h : Resolves g x) :
    Terminates (edges g) x := by
  induction h with
  | @intro x ys hx _ ih =>
    refine ⟨x, fun y hy => ih y ?_⟩
    obtain ⟨⟨ys', hx', hy⟩, -⟩ := mem_edges.1 hy
    cases hx.symm.trans hx'
    exact hy

/-- What is resolved is on no cycle. -/
theorem Resolves.not_reaches_self {g : α → Option (List α)} {x : α} (h : Resolves g x) :
    ¬ Reaches (edges g) x x :=
  not_reaches_self_of_terminates h.terminates

/-- Along a path, its first element leads to each element. -/
theorem reaches_of_head {next : α → List α} {x y : α} {path : List α}
    (h : (x :: path).IsChain fun a b => b ∈ next a) (hy : y ∈ x :: path) :
    Relation.ReflTransGen (fun a b => b ∈ next a) x y := by
  induction path generalizing x with
  | nil => exact List.mem_singleton.1 hy ▸ .refl
  | cons w path ih =>
    obtain ⟨hxw, hrest⟩ := List.isChain_cons_cons.1 h
    rcases List.mem_cons.1 hy with rfl | hy
    · exact .refl
    · exact (ih hrest hy).head hxw

/-- Along a path, each element leads to its last one. -/
theorem reaches_of_last {next : α → List α} {y z : α} {path : List α}
    (h : (path ++ [z]).IsChain fun a b => b ∈ next a) (hy : y ∈ path ++ [z]) :
    Relation.ReflTransGen (fun a b => b ∈ next a) y z := by
  induction path with
  | nil => exact List.mem_singleton.1 hy ▸ .refl
  | cons x path ih =>
    rcases List.mem_cons.1 hy with rfl | hy
    · exact reaches_of_head h (by simp)
    · exact ih h.tail hy

/-- Every element of a path that an edge closes is on a cycle. -/
theorem reaches_self_of_closed {next : α → List α} {x y z : α} {path path' : List α}
    (h : (x :: path).IsChain fun a b => b ∈ next a) (hpath : x :: path = path' ++ [z])
    (hclose : x ∈ next z) (hy : y ∈ x :: path) : Reaches next y y :=
  (Relation.TransGen.tail' (reaches_of_last (hpath ▸ h) (hpath ▸ hy)) hclose).trans_left
    (reaches_of_head h hy)

variable [DecidableEq α]

/-- A new node that no node has as a successor closes no cycle. -/
theorem Acyclic.update_of_source {g : α → Option (List α)} {a : α} {ds : List α}
    (h : Acyclic (edges g)) (hsource : ∀ x ys, x ≠ a → g x = some ys → a ∉ ys) (hds : a ∉ ds) :
    Acyclic (edges (Function.update g a (some ds))) := by
  have hnot : ∀ x, a ∉ edges (Function.update g a (some ds)) x := by
    intro x hx
    obtain ⟨⟨ys, hxs, hmem⟩, -⟩ := mem_edges.1 hx
    by_cases hxa : x = a
    · subst hxa
      rw [Function.update_self, Option.some.injEq] at hxs
      exact hds (hxs ▸ hmem)
    · rw [Function.update_of_ne hxa] at hxs
      exact hsource x ys hxa hxs hmem
  refine h.of_source (fun x hx y hy => ?_) hnot
  have hya : y ≠ a := fun e => hnot x (e ▸ hy)
  rw [mem_edges, Function.update_of_ne hx, Function.update_of_ne hya] at hy
  exact mem_edges.2 hy

/-- Giving a node other successors makes a cycle exactly if the node is reachable from one of
them. -/
theorem Acyclic.update_iff {g : α → Option (List α)} {a : α} {ds : List α} (h : Acyclic (edges g))
    (ha : (g a).isSome) : Acyclic (edges (Function.update g a (some ds))) ↔
      ∀ d ∈ ds, d ≠ a ∧ ¬ Reaches (edges g) d a := by
  set g' := Function.update g a (some ds) with hg'
  have hself : g' a = some ds := Function.update_self ..
  have hother : ∀ {x}, x ≠ a → g' x = g x := fun hx => Function.update_of_ne hx ..
  have hnodes : ∀ x, (g' x).isSome = (g x).isSome := by
    intro x
    by_cases hx : x = a
    · rw [hx, hself, ha]
      rfl
    · rw [hother hx]
  have hedge : ∀ {x}, x ≠ a → ∀ y, y ∈ edges g' x ↔ y ∈ edges g x := by
    intro x hx y
    rw [mem_edges, mem_edges, hother hx, hnodes]
  have hedge_a : ∀ y, y ∈ edges g' a ↔ y ∈ ds ∧ (g y).isSome := by
    intro y
    rw [mem_edges, hself, hnodes]
    simp
  constructor
  · intro h' d hd
    have hne : d ≠ a := by
      rintro rfl
      exact h' d (.single ((hedge_a d).2 ⟨hd, ha⟩))
    refine ⟨hne, fun hreach => ?_⟩
    -- the path from `d` to its first visit of `a` is one of the new digraph
    have hpath : ∀ {x}, Reaches (edges g) x a → x = a ∨ Reaches (edges g') x a := by
      intro x hx
      induction hx using Relation.TransGen.head_induction_on with
      | @single x hxa =>
        by_cases hxe : x = a
        · exact .inl hxe
        · exact .inr (.single ((hedge hxe _).2 hxa))
      | @head x y hxy _ ih =>
        by_cases hxe : x = a
        · exact .inl hxe
        · have hstep := (hedge hxe _).2 hxy
          rcases ih with rfl | ih
          · exact .inr (.single hstep)
          · exact .inr (.head hstep ih)
    obtain ⟨y, hdy, -⟩ := Relation.TransGen.head'_iff.1 hreach
    have hnode : (g d).isSome := by
      obtain ⟨⟨ys, hys, -⟩, -⟩ := mem_edges.1 hdy
      rw [hys]
      rfl
    exact h' a (.head ((hedge_a d).2 ⟨hd, hnode⟩) ((hpath hreach).resolve_left hne))
  · intro hds x hcycle
    -- a path of the new digraph is an old one, or comes to `a` and goes on from one of `ds`
    have hpath : ∀ {y}, Reaches (edges g') x y → Reaches (edges g) x y ∨
        ((x = a ∨ Reaches (edges g) x a) ∧ ∃ d ∈ ds, d = y ∨ Reaches (edges g) d y) := by
      intro y hy
      induction hy with
      | @single y hxy =>
        by_cases hxa : x = a
        · exact .inr ⟨.inl hxa, y, ((hedge_a y).1 (hxa ▸ hxy)).1, .inl rfl⟩
        · exact .inl (.single ((hedge hxa _).1 hxy))
      | @tail y z _ hyz ih =>
        by_cases hya : y = a
        · subst hya
          refine .inr ⟨?_, z, ((hedge_a z).1 hyz).1, .inl rfl⟩
          rcases ih with ih | ⟨ih, -⟩
          · exact .inr ih
          · exact ih
        · have hold := (hedge hya _).1 hyz
          rcases ih with ih | ⟨hxa, d, hd, rfl | hdy⟩
          · exact .inl (ih.tail hold)
          · exact .inr ⟨hxa, _, hd, .inr (.single hold)⟩
          · exact .inr ⟨hxa, d, hd, .inr (hdy.tail hold)⟩
    rcases hpath hcycle with hold | ⟨hxa, d, hd, hdx⟩
    · exact h x hold
    · obtain ⟨hne, hnot⟩ := hds d hd
      rcases hdx with rfl | hdx
      · exact hxa.elim hne hnot
      · rcases hxa with rfl | hxa
        · exact hnot hdx
        · exact hnot (hdx.trans hxa)

/-- An association list whose entries are those of `g`. -/
theorem lookup_eq_of_entries {β : Type*} {l : List (α × β)} {g : α → Option β}
    (h : ∀ e ∈ l, g e.1 = some e.2) (x : α) (hx : (g x).isSome → x ∈ l.map Prod.fst) :
    l.lookup x = g x := by
  induction l with
  | nil =>
    cases hg : g x with
    | none => rfl
    | some b => simp [hg] at hx
  | cons e l ih =>
    obtain ⟨he, hl⟩ := List.forall_mem_cons.1 h
    rw [List.lookup_cons]
    split
    · rename_i hxe
      rw [beq_iff_eq.1 hxe, he]
    · rename_i hxe
      refine ih hl fun hsome => ?_
      exact (List.mem_cons.1 (hx hsome)).resolve_left (by simpa using hxe)

/-- Visit `x`, the nodes `path` being on the current path and the nodes `seen` being done. The
result is the nodes then done, or `none` for a cycle; `fuel` bounds the length of the path. -/
def visit (next : α → List α) : Nat → List α → List α → α → Option (List α)
  | 0, _, _, _ => none
  | fuel + 1, path, seen, x =>
    if x ∈ path then none
    else if x ∈ seen then some seen
    else ((next x).foldlM (visit next fuel (x :: path)) seen).map (x :: ·)

/-- Visit every node of `nodes`; no path is longer than `nodes`. -/
def acyclic (next : α → List α) (nodes : List α) : Bool :=
  (nodes.foldlM (visit next (nodes.length + 1) []) []).isSome

variable {next : α → List α}

/-! ## A search that succeeds -/

omit [DecidableEq α] in
theorem foldlM_visit_sound {visit : List α → α → Option (List α)}
    (hvisit : ∀ seen x seen', (∀ y ∈ seen, Terminates next y) → visit seen x = some seen' →
      (∀ y ∈ seen', Terminates next y) ∧ seen ⊆ seen' ∧ x ∈ seen') :
    ∀ (xs seen seen' : List α), (∀ y ∈ seen, Terminates next y) →
      xs.foldlM visit seen = some seen' →
      (∀ y ∈ seen', Terminates next y) ∧ seen ⊆ seen' ∧ xs ⊆ seen' := by
  intro xs
  induction xs with
  | nil =>
    intro seen seen' hseen h
    obtain rfl : seen = seen' := by simpa using h
    exact ⟨hseen, List.Subset.refl _, List.nil_subset _⟩
  | cons x xs ih =>
    intro seen seen' hseen h
    rw [List.foldlM_cons] at h
    obtain ⟨mid, hmid, hrest⟩ := Option.bind_eq_some_iff.1 h
    obtain ⟨hterm, hsub, hx⟩ := hvisit seen x mid hseen hmid
    obtain ⟨hterm', hsub', hxs⟩ := ih mid seen' hterm hrest
    exact ⟨hterm', List.Subset.trans hsub hsub', List.cons_subset.2 ⟨hsub' hx, hxs⟩⟩

theorem visit_sound (fuel : Nat) (path seen : List α) (x : α) (seen' : List α)
    (hseen : ∀ y ∈ seen, Terminates next y) (h : visit next fuel path seen x = some seen') :
    (∀ y ∈ seen', Terminates next y) ∧ seen ⊆ seen' ∧ x ∈ seen' := by
  induction fuel generalizing path seen x seen' with
  | zero => cases h
  | succ fuel ih =>
    rw [visit] at h
    split_ifs at h with hpath hdone
    · cases h
      exact ⟨hseen, List.Subset.refl _, hdone⟩
    · obtain ⟨mid, hmid, rfl⟩ := Option.map_eq_some_iff.1 h
      obtain ⟨hterm, hsub, hnext⟩ :=
        foldlM_visit_sound (ih (x :: path)) (next x) seen mid hseen hmid
      refine ⟨?_, List.subset_cons_of_subset _ hsub, List.mem_cons_self⟩
      intro y hy
      rcases List.mem_cons.1 hy with rfl | hy
      · -- every successor is done, so going down from `y` ends
        exact ⟨_, fun z hz => hterm z (hnext hz)⟩
      · exact hterm y hy

/-! ## A search of a digraph without cycles -/

/-- What holds whenever a node is visited: the path is made of distinct nodes of the digraph, each
of which reaches the node, and the fuel is enough for all that are not on it. -/
structure Visiting (next : α → List α) (nodes : List α) (fuel : Nat) (path : List α) (x : α) :
    Prop where
  nodup : path.Nodup
  subset : path ⊆ nodes
  mem : x ∈ nodes
  reaches : ∀ y ∈ path, Reaches next y x
  fuel : nodes.length + 1 ≤ fuel + path.length

omit [DecidableEq α] in
theorem Visiting.step {nodes path : List α} {fuel : Nat} {x y : α}
    (hclosed : ∀ x ∈ nodes, next x ⊆ nodes) (h : Visiting next nodes (fuel + 1) path x)
    (hx : x ∉ path) (hy : y ∈ next x) : Visiting next nodes fuel (x :: path) y where
  nodup := List.nodup_cons.2 ⟨hx, h.nodup⟩
  subset := List.cons_subset.2 ⟨h.mem, h.subset⟩
  mem := hclosed x h.mem hy
  reaches z hz := by
    rcases List.mem_cons.1 hz with rfl | hz
    · exact .single hy
    · exact (h.reaches z hz).tail hy
  fuel := by
    have := h.fuel
    rw [List.length_cons]
    omega

theorem visit_complete {nodes : List α} (hclosed : ∀ x ∈ nodes, next x ⊆ nodes)
    (hacyclic : Acyclic next) (fuel : Nat) (path seen : List α) (x : α)
    (h : Visiting next nodes fuel path x) : (visit next fuel path seen x).isSome := by
  induction fuel generalizing path seen x with
  | zero =>
    -- the path would have more distinct nodes than there are
    have hlen : path.length ≤ nodes.length := (h.nodup.subperm h.subset).length_le
    have := h.fuel
    omega
  | succ fuel ih =>
    have hx : x ∉ path := fun hx => hacyclic x (h.reaches x hx)
    rw [visit, if_neg hx]
    split
    · rfl
    · rw [Option.isSome_map]
      have hall : ∀ ys seen, ys ⊆ next x →
          (ys.foldlM (visit next fuel (x :: path)) seen).isSome := by
        intro ys
        induction ys with
        | nil => exact fun _ _ => rfl
        | cons y ys ihys =>
          intro seen hys
          obtain ⟨hy, hys⟩ := List.cons_subset.1 hys
          obtain ⟨mid, hmid⟩ :=
            Option.isSome_iff_exists.1 (ih (x :: path) seen y (h.step hclosed hx hy))
          rw [List.foldlM_cons, hmid]
          exact ihys mid hys
      exact hall _ _ (List.Subset.refl _)

/-- The search from all the nodes of a digraph succeeds exactly if it has no cycle. -/
theorem acyclic_iff {nodes : List α} (hclosed : ∀ x, next x ⊆ nodes)
    (hnodes : ∀ x, next x ≠ [] → x ∈ nodes) : acyclic next nodes = true ↔ Acyclic next := by
  constructor
  · intro h x hcycle
    obtain ⟨seen, hseen⟩ := Option.isSome_iff_exists.1 h
    obtain ⟨hterm, -, hsub⟩ := foldlM_visit_sound (visit_sound _ []) nodes [] seen (by simp) hseen
    obtain ⟨y, hxy, -⟩ := Relation.TransGen.head'_iff.1 hcycle
    exact not_reaches_self_of_terminates
      (hterm x (hsub (hnodes x (List.ne_nil_of_mem hxy)))) hcycle
  · intro h
    have hall : ∀ ys seen, ys ⊆ nodes →
        (ys.foldlM (visit next (nodes.length + 1) []) seen).isSome := by
      intro ys
      induction ys with
      | nil => exact fun _ _ => rfl
      | cons y ys ih =>
        intro seen hys
        obtain ⟨hy, hys⟩ := List.cons_subset.1 hys
        have hvisiting : Visiting next nodes (nodes.length + 1) [] y :=
          ⟨List.nodup_nil, List.nil_subset _, hy, by simp, by simp⟩
        obtain ⟨mid, hmid⟩ := Option.isSome_iff_exists.1
          (visit_complete (fun x _ => hclosed x) h _ [] seen y hvisiting)
        rw [List.foldlM_cons, hmid]
        exact ih mid hys
    exact hall nodes [] (List.Subset.refl _)

end Digraph

end StateLib
