import Mathlib.Data.List.Nodup

/-!
# Tables with a unique key

A table is a list of rows, no two with the same key: the field `nodup` carries the uniqueness, as
a primary key does. `insert?` refuses a key that is taken, `replace` puts a row in place of the one
with its key.
-/

namespace StateLib

/-- The rows of a table whose primary key is `key`. -/
structure Table (ι α : Type*) (key : α → ι) where
  rows : List α
  nodup : (rows.map key).Nodup

namespace Table

variable {ι α : Type*} {key : α → ι}

/-- The table with no rows. -/
def empty : Table ι α key := ⟨[], List.nodup_nil⟩

instance : Membership α (Table ι α key) := ⟨fun t a => a ∈ t.rows⟩

theorem mem_rows {t : Table ι α key} {a : α} : a ∈ t.rows ↔ a ∈ t := Iff.rfl

@[simp] theorem not_mem_empty (a : α) : a ∉ (empty : Table ι α key) := List.not_mem_nil

/-- Two rows with one key are the same row. -/
theorem eq_of_key_eq {t : Table ι α key} {a b : α} (ha : a ∈ t) (hb : b ∈ t)
    (h : key a = key b) : a = b :=
  List.inj_on_of_nodup_map t.nodup ha hb h

variable [DecidableEq ι]

/-- The row with key `k`. -/
def find? (t : Table ι α key) (k : ι) : Option α := t.rows.find? fun a => key a = k

/-- Add a row, unless its key is taken. -/
def insert? (t : Table ι α key) (a : α) : Option (Table ι α key) :=
  if h : key a ∈ t.rows.map key then none
  else some ⟨t.rows ++ [a], by
    rw [List.map_append, List.map_singleton]
    exact List.nodup_append.2 ⟨t.nodup, List.nodup_singleton _, fun x hx y hy e =>
      h (List.mem_singleton.1 hy ▸ e ▸ hx)⟩⟩

/-- Replace the row with the key of `a` by `a`. -/
def replace (t : Table ι α key) (a : α) : Table ι α key where
  rows := t.rows.map fun b => if key b = key a then a else b
  nodup := by
    have h : (t.rows.map fun b => if key b = key a then a else b).map key = t.rows.map key := by
      rw [List.map_map]
      refine List.map_congr_left fun b _ => ?_
      simp only [Function.comp_apply]
      split
      · rename_i h
        exact h.symm
      · rfl
    rw [h]
    exact t.nodup

theorem find?_eq_some {t : Table ι α key} {k : ι} {a : α} :
    t.find? k = some a ↔ a ∈ t ∧ key a = k := by
  constructor
  · intro h
    exact ⟨List.mem_of_find?_eq_some h, by simpa using List.find?_some h⟩
  · rintro ⟨ha, rfl⟩
    cases hf : t.find? (key a) with
    | none =>
      have := List.find?_eq_none.1 hf a ha
      simp at this
    | some b =>
      have hb : key b = key a := by simpa using List.find?_some hf
      rw [eq_of_key_eq (List.mem_of_find?_eq_some hf) ha hb]

theorem find?_eq_none {t : Table ι α key} {k : ι} : t.find? k = none ↔ ∀ a ∈ t, key a ≠ k := by
  simp only [find?, List.find?_eq_none, decide_eq_true_eq]
  rfl

@[simp] theorem find?_empty (k : ι) : (empty : Table ι α key).find? k = none := rfl

/-! ## Insertion -/

theorem insert?_isSome {t : Table ι α key} {a : α} :
    (t.insert? a).isSome ↔ t.find? (key a) = none := by
  unfold insert?
  rw [find?_eq_none]
  split
  · rename_i h
    obtain ⟨b, hb, hk⟩ := List.mem_map.1 h
    simpa using ⟨b, hb, hk⟩
  · rename_i h
    simp only [Option.isSome_some, true_iff]
    intro b hb hk
    exact h (List.mem_map.2 ⟨b, hb, hk⟩)

theorem rows_insert? {t t' : Table ι α key} {a : α} (h : t.insert? a = some t') :
    t'.rows = t.rows ++ [a] := by
  unfold insert? at h
  split at h
  · cases h
  · cases h
    rfl

theorem mem_insert? {t t' : Table ι α key} {a b : α} (h : t.insert? a = some t') :
    b ∈ t' ↔ b ∈ t ∨ b = a := by
  rw [← mem_rows, rows_insert? h, List.mem_append, List.mem_singleton, mem_rows]

theorem find?_of_insert? {t t' : Table ι α key} {a : α} (h : t.insert? a = some t') :
    t.find? (key a) = none :=
  insert?_isSome.1 (by rw [h]; rfl)

theorem find?_insert? {t t' : Table ι α key} {a : α} (h : t.insert? a = some t') (k : ι) :
    t'.find? k = if key a = k then some a else t.find? k := by
  split
  · rename_i hk
    exact find?_eq_some.2 ⟨(mem_insert? h).2 (.inr rfl), hk⟩
  · rename_i hk
    simp only [find?, rows_insert? h, List.find?_append, List.find?_singleton, hk, decide_false,
      Bool.false_eq_true, if_false, Option.or_none]

/-! ## Replacement -/

theorem mem_replace {t : Table ι α key} {a b : α} :
    b ∈ t.replace a ↔ (b = a ∧ ∃ c ∈ t, key c = key a) ∨ (b ∈ t ∧ key b ≠ key a) := by
  rw [← mem_rows]
  simp only [replace, List.mem_map]
  constructor
  · rintro ⟨c, hc, hb⟩
    split at hb
    · rename_i hk
      exact .inl ⟨hb.symm, c, hc, hk⟩
    · rename_i hk
      exact .inr (hb ▸ ⟨hc, hk⟩)
  · rintro (⟨rfl, c, hc, hk⟩ | ⟨hb, hk⟩)
    · exact ⟨c, hc, if_pos hk⟩
    · exact ⟨b, hb, if_neg hk⟩

theorem find?_replace_self {t : Table ι α key} {a : α} (h : (t.find? (key a)).isSome) :
    (t.replace a).find? (key a) = some a := by
  obtain ⟨c, hc⟩ := Option.isSome_iff_exists.1 h
  obtain ⟨hmem, hk⟩ := find?_eq_some.1 hc
  exact find?_eq_some.2 ⟨mem_replace.2 (.inl ⟨rfl, c, hmem, hk⟩), rfl⟩

theorem find?_replace_of_ne {t : Table ι α key} {a : α} {k : ι} (hk : k ≠ key a) :
    (t.replace a).find? k = t.find? k := by
  apply Option.ext
  intro b
  rw [find?_eq_some, find?_eq_some, mem_replace]
  constructor
  · rintro ⟨⟨rfl, -⟩ | ⟨hb, -⟩, hbk⟩
    · exact absurd hbk.symm hk
    · exact ⟨hb, hbk⟩
  · rintro ⟨hb, hbk⟩
    exact ⟨.inr ⟨hb, hbk ▸ hk⟩, hbk⟩

end Table

end StateLib
