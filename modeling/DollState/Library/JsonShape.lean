import DollState.Library.JsonReadable

/-!
# The characters of a written JSON text

A written text has the characters of the strings of its value, escaped, and printable ASCII characters
around them (`mem_write`, `mem_write_of_mem_texts`). `Value.size` is the number of its bytes in UTF-8.
Neither changes when the entries of objects are put in order (`texts_canonical`, `size_canonical`).
-/

namespace StateLib

namespace JsonText

/-! ## Strings -/

mutual

/-- The strings of a value, keys included. -/
def Value.texts : Value (List Char) → List (List Char)
  | .str s => [s]
  | .arr xs => textsOf xs
  | .obj entries => textsIn entries
  | _ => []

def textsOf : List (Value (List Char)) → List (List Char)
  | [] => []
  | v :: vs => v.texts ++ textsOf vs

def textsIn : List (List Char × Value (List Char)) → List (List Char)
  | [] => []
  | (key, v) :: entries => key :: v.texts ++ textsIn entries

end

/-- A printable ASCII character. -/
def Printable (c : Char) : Prop := 32 ≤ c.toNat ∧ c.toNat < 127

instance (c : Char) : Decidable (Printable c) := inferInstanceAs (Decidable (_ ∧ _))

theorem printable_of_isNumberChar {c : Char} (h : isNumberChar c = true) : Printable c := by
  simp only [isNumberChar, Bool.or_eq_true, beq_iff_eq] at h
  rcases h with ((((h | rfl) | rfl) | rfl) | rfl) | rfl
  · obtain ⟨hlow, hhigh⟩ := Char.isDigit_iff_toNat.1 h
    exact ⟨le_trans (by decide) hlow, lt_of_le_of_lt hhigh (by decide)⟩
  all_goals decide

/-- A character is escaped by printable characters, or stands for itself. -/
theorem mem_escape {c d : Char} (h : c ∈ escape d) : Printable c ∨ c = d ∧ 32 ≤ c.toNat := by
  unfold escape at h
  have hdigit : ∀ n < 16, Printable (Nat.digitChar n) := by decide
  split_ifs at h with hself hn hr ht hb hf hcontrol
  · rcases List.mem_cons.1 h with rfl | h
    · exact .inl (by decide)
    · rw [List.mem_singleton.1 h]
      rcases hself with rfl | rfl <;> exact .inl (by decide)
  iterate 5
    · refine .inl ?_
      rcases List.mem_cons.1 h with rfl | h
      · decide
      · rw [List.mem_singleton.1 h]
        decide
  · refine .inl ?_
    have hhigh := hdigit (d.toNat / 16) (by omega)
    have hlow := hdigit (d.toNat % 16) (by omega)
    have hprefix : ∀ c ∈ ['\\', 'u', '0', '0'], Printable c := by simp [Printable]
    rcases List.mem_append.1 h with h | h
    · exact hprefix c h
    · rcases List.mem_cons.1 h with rfl | h
      · exact hhigh
      · rw [List.mem_singleton.1 h]
        exact hlow
  · rw [List.mem_singleton.1 h]
    exact .inr ⟨rfl, not_lt.1 hcontrol⟩

theorem mem_escape_self {c : Char} (h : 127 ≤ c.toNat) : c ∈ escape c := by
  have hne : ∀ d : Char, d.toNat < 127 → c ≠ d := by
    rintro d hd rfl
    omega
  have hcontrol : ¬ c.toNat < 32 := by omega
  simp [escape, hne '"' (by decide), hne '\\' (by decide), hne '\n' (by decide),
    hne '\r' (by decide), hne '\t' (by decide), hne '\x08' (by decide), hne '\x0c' (by decide),
    hcontrol]

theorem mem_quote {c : Char} {s : List Char} (h : c ∈ quote s) :
    Printable c ∨ c ∈ s ∧ 32 ≤ c.toNat := by
  rw [quote, List.cons_append, List.mem_cons, List.mem_append, List.mem_singleton] at h
  rcases h with rfl | h | rfl
  · exact .inl (by decide)
  · obtain ⟨d, hd, hc⟩ := List.mem_flatMap.1 h
    rcases mem_escape hc with hplain | ⟨rfl, hcontrol⟩
    · exact .inl hplain
    · exact .inr ⟨hd, hcontrol⟩
  · exact .inl (by decide)

theorem mem_quote_of_mem {c : Char} {s : List Char} (hc : c ∈ s) (hprint : 127 ≤ c.toNat) :
    c ∈ quote s := by
  rw [quote, List.cons_append]
  exact List.mem_cons_of_mem _
    (List.mem_append_left _ (List.mem_flatMap.2 ⟨c, hc, mem_escape_self hprint⟩))

/-! ## Values by induction -/

/-- Induction on a value: what holds of the members of a container, holds of the container. -/
@[elab_as_elim]
theorem Value.members_induction {S : Type} {P : Value S → Prop} (null : P .null)
    (bool : ∀ b, P (.bool b)) (int : ∀ i, P (.int i)) (float : ∀ literal, P (.float literal))
    (str : ∀ s, P (.str s)) (arr : ∀ xs, (∀ v ∈ xs, P v) → P (.arr xs))
    (obj : ∀ entries, (∀ e ∈ entries, P e.2) → P (.obj entries)) (v : Value S) : P v :=
  match v with
  | .null => null
  | .bool b => bool b
  | .int i => int i
  | .float literal => float literal
  | .str s => str s
  | .arr xs => arr xs fun v _ => members_induction null bool int float str arr obj v
  | .obj entries => obj entries fun e _ => members_induction null bool int float str arr obj e.2
termination_by v
decreasing_by
  · have := List.sizeOf_lt_of_mem ‹_›
    simp
    omega
  · have hlt := List.sizeOf_lt_of_mem ‹e ∈ entries›
    obtain ⟨key, v⟩ := e
    simp at hlt ⊢
    omega

theorem textsOf_eq_flatMap (vs : List (Value (List Char))) : textsOf vs = vs.flatMap Value.texts := by
  induction vs with
  | nil => rfl
  | cons v vs ih => rw [textsOf, ih, List.flatMap_cons]

theorem textsIn_eq_flatMap (entries : List (List Char × Value (List Char))) :
    textsIn entries = entries.flatMap fun e => e.1 :: e.2.texts := by
  induction entries with
  | nil => rfl
  | cons e entries ih => rw [textsIn, ih, List.flatMap_cons]

theorem canonicals_eq_map {repr : List Char → Option (List Char)} (vs : List (Value (List Char))) :
    canonicals repr vs = vs.map (Value.canonical repr) := by
  induction vs with
  | nil => rfl
  | cons v vs ih => rw [canonicals, ih, List.map_cons]

theorem canonicalEntries_eq {repr : List Char → Option (List Char)}
    (entries : List (List Char × Value (List Char))) :
    canonicalEntries repr entries = entries.map fun e => (e.1, e.2.canonical repr) := by
  induction entries with
  | nil => rfl
  | cons e entries ih => rw [canonicalEntries, ih, List.map_cons]

/-- The entries of a canonical object. -/
theorem canonical_obj_perm {repr : List Char → Option (List Char)}
    (entries : List (List Char × Value (List Char))) :
    ∃ others, (Value.obj entries).canonical repr = .obj others ∧
      others.Perm (entries.map fun e => (e.1, e.2.canonical repr)) := by
  refine ⟨_, rfl, ?_⟩
  rw [← canonicalEntries_eq]
  exact List.perm_insertionSort _ _

/-! ## The characters of a text -/

theorem mem_intercalate_iff {c sep : Char} {ls : List (List Char)} :
    c ∈ [sep].intercalate ls ↔ (∃ l ∈ ls, c ∈ l) ∨ 2 ≤ ls.length ∧ c = sep := by
  induction ls with
  | nil => simp [List.intercalate]
  | cons l ls ih =>
    cases ls with
    | nil => simp
    | cons l' ls =>
      rw [List.intercalate_cons_cons, List.mem_append, List.mem_append, List.mem_singleton, ih]
      simp only [List.length_cons, List.exists_mem_cons_iff]
      constructor
      · rintro ((h | h) | (h | h))
        · exact .inl (.inl h)
        · exact .inr ⟨by omega, h⟩
        · exact .inl (.inr h)
        · exact .inr ⟨by omega, h.2⟩
      · rintro ((h | h) | h)
        · exact .inl (.inl h)
        · exact .inr (.inl h)
        · exact .inl (.inr h.2)

/-- A character of a written text is printable or one of a string of the value. -/
theorem mem_write {v : Value (List Char)} (hv : v.AllFloats IsFloat) {c : Char} (h : c ∈ write v) :
    Printable c ∨ (∃ t ∈ v.texts, c ∈ t) ∧ 32 ≤ c.toNat := by
  induction v using Value.members_induction with
  | null =>
    have hall : ∀ c ∈ ['n', 'u', 'l', 'l'], Printable c := by simp [Printable]
    exact .inl (hall c h)
  | bool b =>
    have htrue : ∀ c ∈ ['t', 'r', 'u', 'e'], Printable c := by simp [Printable]
    have hfalse : ∀ c ∈ ['f', 'a', 'l', 's', 'e'], Printable c := by simp [Printable]
    cases b
    · exact .inl (hfalse c h)
    · exact .inl (htrue c h)
  | int i => exact .inl (printable_of_isNumberChar (isNumberChar_of_mem_toString h))
  | float literal => exact .inl (printable_of_isNumberChar (hv.1 c h))
  | str s =>
    rcases mem_quote h with hplain | ⟨hc, hcontrol⟩
    · exact .inl hplain
    · exact .inr ⟨⟨s, List.mem_singleton_self s, hc⟩, hcontrol⟩
  | arr xs ih =>
    rw [write, writeElements_eq, List.mem_cons, List.mem_append, List.mem_singleton,
      mem_intercalate_iff] at h
    rcases h with rfl | (⟨l, hl, hc⟩ | ⟨-, rfl⟩) | rfl
    · exact .inl (by decide)
    · obtain ⟨v, hv', rfl⟩ := List.mem_map.1 hl
      rcases ih v hv' (allFloatsOf_iff.1 hv v hv') hc with hplain | ⟨⟨t, ht, hct⟩, hcontrol⟩
      · exact .inl hplain
      · refine .inr ⟨⟨t, ?_, hct⟩, hcontrol⟩
        rw [Value.texts, textsOf_eq_flatMap]
        exact List.mem_flatMap.2 ⟨v, hv', ht⟩
    · exact .inl (by decide)
    · exact .inl (by decide)
  | obj entries ih =>
    rw [write, writeEntries_eq, List.mem_cons, List.mem_append, List.mem_singleton,
      mem_intercalate_iff] at h
    rcases h with rfl | (⟨l, hl, hc⟩ | ⟨-, rfl⟩) | rfl
    · exact .inl (by decide)
    · obtain ⟨e, he, rfl⟩ := List.mem_map.1 hl
      rw [writeEntry, List.mem_append, List.mem_cons] at hc
      have htexts : ∀ t ∈ e.1 :: e.2.texts, t ∈ (Value.obj entries).texts := by
        intro t ht
        rw [Value.texts, textsIn_eq_flatMap]
        exact List.mem_flatMap.2 ⟨e, he, ht⟩
      rcases hc with hc | rfl | hc
      · rcases mem_quote hc with hplain | ⟨hkey, hcontrol⟩
        · exact .inl hplain
        · exact .inr ⟨⟨e.1, htexts _ List.mem_cons_self, hkey⟩, hcontrol⟩
      · exact .inl (by decide)
      · rcases ih e he (allFloatsIn_iff.1 hv e he) hc with hplain | ⟨⟨t, ht, hct⟩, hcontrol⟩
        · exact .inl hplain
        · exact .inr ⟨⟨t, htexts t (List.mem_cons_of_mem _ ht), hct⟩, hcontrol⟩
    · exact .inl (by decide)
    · exact .inl (by decide)

/-- A character that is not ASCII stands in the text as it does in a string of the value. -/
theorem mem_write_of_mem_texts {v : Value (List Char)} {t : List Char} (ht : t ∈ v.texts) {c : Char}
    (hc : c ∈ t) (hprint : 127 ≤ c.toNat) : c ∈ write v := by
  induction v using Value.members_induction with
  | null | bool | int | float => cases ht
  | str s =>
    rw [List.mem_singleton.1 ht] at hc
    exact mem_quote_of_mem hc hprint
  | arr xs ih =>
    rw [Value.texts, textsOf_eq_flatMap, List.mem_flatMap] at ht
    obtain ⟨v, hv, ht⟩ := ht
    rw [write, writeElements_eq, List.mem_cons, List.mem_append, mem_intercalate_iff]
    exact .inr (.inl (.inl ⟨_, List.mem_map_of_mem hv, ih v hv ht⟩))
  | obj entries ih =>
    rw [Value.texts, textsIn_eq_flatMap, List.mem_flatMap] at ht
    obtain ⟨e, he, ht⟩ := ht
    rw [write, writeEntries_eq, List.mem_cons, List.mem_append, mem_intercalate_iff]
    refine .inr (.inl (.inl ⟨_, List.mem_map_of_mem he, ?_⟩))
    rw [writeEntry, List.mem_append, List.mem_cons]
    rcases List.mem_cons.1 ht with rfl | ht
    · exact .inl (mem_quote_of_mem hc hprint)
    · exact .inr (.inr (ih e he ht))

/-! ## Entries in order -/

theorem depth_arr_le_iff {S : Type} {vs : List (Value S)} {n : Nat} :
    depth (.arr vs) ≤ n ↔ 1 ≤ n ∧ ∀ v ∈ vs, 1 + depth v ≤ n := by
  rw [depth]
  induction vs with
  | nil => simp [depth.depths]
  | cons v vs ih =>
    rw [depth.depths, List.forall_mem_cons, and_left_comm, ← ih, ← max_add_add_left, max_le_iff]

theorem depth_obj_le_iff {S : Type} {entries : List (S × Value S)} {n : Nat} :
    depth (.obj entries) ≤ n ↔ 1 ≤ n ∧ ∀ e ∈ entries, 1 + depth e.2 ≤ n := by
  rw [depth]
  induction entries with
  | nil => simp [depth.entryDepths]
  | cons e entries ih =>
    rw [depth.entryDepths, List.forall_mem_cons, and_left_comm, ← ih, ← max_add_add_left, max_le_iff]

section

variable {repr : List Char → Option (List Char)}

/-- Putting entries in order keeps the strings. -/
theorem mem_texts_canonical {v : Value (List Char)} {t : List Char} :
    t ∈ (v.canonical repr).texts ↔ t ∈ v.texts := by
  induction v using Value.members_induction with
  | null | bool | int | float | str => rfl
  | arr xs ih =>
    simp only [Value.canonical, Value.texts, textsOf_eq_flatMap, canonicals_eq_map, List.flatMap_map,
      List.mem_flatMap]
    exact exists_congr fun v => and_congr_right fun hv => ih v hv
  | obj entries ih =>
    obtain ⟨others, hothers, hperm⟩ := @canonical_obj_perm repr entries
    rw [hothers, Value.texts, Value.texts, textsIn_eq_flatMap, textsIn_eq_flatMap,
      (hperm.flatMap_right _).mem_iff, List.flatMap_map, List.mem_flatMap, List.mem_flatMap]
    refine exists_congr fun e => and_congr_right fun he => ?_
    rw [List.mem_cons, List.mem_cons, ih e he]

/-- Putting entries in order changes no size of a container. -/
theorem depth_canonical (v : Value (List Char)) : depth (v.canonical repr) = depth v := by
  induction v using Value.members_induction with
  | null | bool | int | float | str => rfl
  | arr xs ih =>
    refine eq_of_forall_ge_iff fun n => ?_
    rw [Value.canonical, canonicals_eq_map, depth_arr_le_iff, depth_arr_le_iff, List.forall_mem_map]
    exact and_congr_right fun _ => forall₂_congr fun v hv => by rw [ih v hv]
  | obj entries ih =>
    refine eq_of_forall_ge_iff fun n => ?_
    obtain ⟨others, hothers, hperm⟩ := @canonical_obj_perm repr entries
    rw [hothers, depth_obj_le_iff, depth_obj_le_iff]
    refine and_congr_right fun _ => ?_
    have hmem : (∀ e ∈ others, 1 + depth e.2 ≤ n) ↔
        ∀ e ∈ entries.map fun e => (e.1, e.2.canonical repr), 1 + depth e.2 ≤ n :=
      forall_congr' fun e => by rw [hperm.mem_iff]
    rw [hmem, List.forall_mem_map]
    exact forall₂_congr fun e he => by rw [ih e he]

end

/-- Putting entries in order keeps a value readable; its floats stay as they are. -/
theorem Value.Readable.canonical {v : Value (List Char)} (h : v.Readable) :
    (v.canonical some).Readable := by
  induction v using Value.members_induction with
  | null | bool | int | float | str => exact h
  | arr xs ih =>
    rw [Value.canonical, canonicals_eq_map]
    refine allReadable_iff.2 (List.forall_mem_map.2 fun v hv => ih v hv (allReadable_iff.1 h v hv))
  | obj entries ih =>
    obtain ⟨others, hothers, hperm⟩ := @canonical_obj_perm some entries
    rw [hothers]
    refine ⟨?_, entriesReadable_iff.2 fun e he => ?_⟩
    · rw [(hperm.map Prod.fst).nodup_iff, List.map_map]
      exact h.1
    · obtain ⟨d, hd, rfl⟩ := List.mem_map.1 (hperm.mem_iff.1 he)
      exact ih d hd (entriesReadable_iff.1 h.2 d hd)

/-- A value in canonical form stays as it is. -/
theorem canonical_canonical (v : Value (List Char)) :
    (v.canonical some).canonical some = v.canonical some := by
  induction v using Value.members_induction with
  | null | bool | int | float | str => rfl
  | arr xs ih =>
    rw [Value.canonical, Value.canonical, canonicals_eq_map, canonicals_eq_map, List.map_map]
    exact congrArg Value.arr (List.map_congr_left ih)
  | obj entries ih =>
    have hcanonical : (Value.obj entries).canonical some =
        .obj ((canonicalEntries some entries).insertionSort fun a b => a.1 ≤ b.1) := rfl
    have hself : ∀ e ∈ (canonicalEntries some entries).insertionSort (fun a b => a.1 ≤ b.1),
        (e.1, e.2.canonical some) = e := by
      intro e he
      rw [List.mem_insertionSort, canonicalEntries_eq] at he
      obtain ⟨d, hd, rfl⟩ := List.mem_map.1 he
      rw [ih d hd]
    have hsorted := List.pairwise_insertionSort (fun a b : List Char × Value (List Char) => a.1 ≤ b.1)
      (canonicalEntries some entries)
    rw [hcanonical, Value.canonical, canonicalEntries_eq _, List.map_congr_left hself, List.map_id',
      hsorted.insertionSort_eq]

/-! ## Sizes -/

/-- The number of bytes of an escaped character. -/
def escapedSize (c : Char) : Nat :=
  if c = '"' ∨ c = '\\' ∨ c = '\n' ∨ c = '\r' ∨ c = '\t' ∨ c = '\x08' ∨ c = '\x0c' then 2
  else if c.toNat < 32 then 6
  else c.utf8Size

def quotedSize (s : List Char) : Nat := 2 + (s.map escapedSize).sum

mutual

/-- The number of bytes of a value as JSON without white space. -/
def Value.size : Value (List Char) → Nat
  | .null => 4
  | .bool b => if b then 4 else 5
  | .int i => (toString i).toList.length
  | .float literal => literal.length
  | .str s => quotedSize s
  | .arr xs => 1 + max 1 (sizeOfElements xs)
  | .obj entries => 1 + max 1 (sizeOfEntries entries)

/-- The elements, each with the comma or bracket behind it. -/
def sizeOfElements : List (Value (List Char)) → Nat
  | [] => 0
  | v :: vs => v.size + 1 + sizeOfElements vs

def sizeOfEntries : List (List Char × Value (List Char)) → Nat
  | [] => 0
  | (key, v) :: entries => quotedSize key + 1 + v.size + 1 + sizeOfEntries entries

end

/-- The number of bytes of a text in UTF-8. -/
def textSize (s : List Char) : Nat := (s.map Char.utf8Size).sum

@[simp] theorem textSize_append (s t : List Char) : textSize (s ++ t) = textSize s + textSize t := by
  rw [textSize, List.map_append, List.sum_append, textSize, textSize]

@[simp] theorem textSize_cons (c : Char) (s : List Char) :
    textSize (c :: s) = c.utf8Size + textSize s := by
  rw [textSize, List.map_cons, List.sum_cons, textSize]

@[simp] theorem textSize_nil : textSize [] = 0 := rfl

theorem utf8Size_of_lt {c : Char} (h : c.toNat < 128) : c.utf8Size = 1 := by
  rw [Char.utf8Size, if_pos]
  have htoNat : c.val.toNat < 128 := h
  exact UInt32.le_iff_toNat_le.2 (by simpa using Nat.le_of_lt_succ htoNat)

/-- A text of ASCII characters has a byte for each. -/
theorem textSize_of_printable {s : List Char} (h : ∀ c ∈ s, Printable c) : textSize s = s.length := by
  induction s with
  | nil => rfl
  | cons c s ih =>
    obtain ⟨hc, hs⟩ := List.forall_mem_cons.1 h
    rw [textSize_cons, ih hs, utf8Size_of_lt (hc.2.trans (by decide)), List.length_cons, Nat.add_comm]

theorem textSize_escape (c : Char) : textSize (escape c) = escapedSize c := by
  by_cases hspecial : c = '"' ∨ c = '\\' ∨ c = '\n' ∨ c = '\r' ∨ c = '\t' ∨ c = '\x08' ∨ c = '\x0c'
  · rcases hspecial with rfl | rfl | rfl | rfl | rfl | rfl | rfl <;> rfl
  · simp only [not_or] at hspecial
    obtain ⟨hquote, hslash, hn, hr, ht, hb, hf⟩ := hspecial
    simp only [escape, escapedSize, hquote, hslash, hn, hr, ht, hb, hf, or_self, if_false]
    split
    · rename_i hcontrol
      have hdigit : ∀ n < 16, (Nat.digitChar n).toNat < 128 := by decide
      have hhigh := hdigit (c.toNat / 16) (by omega)
      have hlow := hdigit (c.toNat % 16) (by omega)
      rw [textSize_append, textSize_cons, textSize_cons, utf8Size_of_lt hhigh, utf8Size_of_lt hlow]
      rfl
    · simp

theorem textSize_quote (s : List Char) : textSize (quote s) = quotedSize s := by
  have hbody : textSize (s.flatMap escape) = (s.map escapedSize).sum := by
    induction s with
    | nil => rfl
    | cons c s ih =>
      rw [List.flatMap_cons, textSize_append, textSize_escape, ih, List.map_cons, List.sum_cons]
  have hquote : ('"' : Char).utf8Size = 1 := rfl
  rw [quote, List.cons_append, textSize_cons, textSize_append, hbody, textSize_cons, textSize_nil, hquote,
    quotedSize]
  omega

theorem sizeOfElements_eq_sum (vs : List (Value (List Char))) :
    sizeOfElements vs = (vs.map fun v => v.size + 1).sum := by
  induction vs with
  | nil => rfl
  | cons v vs ih => rw [sizeOfElements, ih, List.map_cons, List.sum_cons]

theorem sizeOfEntries_eq_sum (entries : List (List Char × Value (List Char))) :
    sizeOfEntries entries = (entries.map fun e => quotedSize e.1 + 1 + e.2.size + 1).sum := by
  induction entries with
  | nil => rfl
  | cons e entries ih => rw [sizeOfEntries, ih, List.map_cons, List.sum_cons]

/-- Texts with commas between them, and a closing bracket. -/
theorem textSize_intercalate {close : Char} (hclose : close.utf8Size = 1) (ls : List (List Char)) :
    textSize ([','].intercalate ls ++ [close]) = max 1 (ls.map fun l => textSize l + 1).sum := by
  have hcomma : (',' : Char).utf8Size = 1 := rfl
  have hsum : ∀ l ls, textSize ([','].intercalate (l :: ls)) + 1 =
      ((l :: ls).map fun l => textSize l + 1).sum := by
    intro l ls
    induction ls generalizing l with
    | nil => simp
    | cons l' ls ih =>
      rw [List.intercalate_cons_cons, textSize_append, textSize_append, List.map_cons, List.sum_cons,
        ← ih l', textSize_cons, hcomma, textSize_nil]
      omega
  cases ls with
  | nil => simp [hclose]
  | cons l ls =>
    rw [textSize_append, textSize_cons, hclose, textSize_nil, Nat.add_zero, hsum, List.map_cons,
      List.sum_cons]
    omega

/-- The size of a value is the number of bytes of its text. -/
theorem textSize_write {v : Value (List Char)} (hv : v.AllFloats IsFloat) :
    textSize (write v) = v.size := by
  induction v using Value.members_induction with
  | null => rfl
  | bool b => cases b <;> rfl
  | int i =>
    exact textSize_of_printable fun c hc => printable_of_isNumberChar (isNumberChar_of_mem_toString hc)
  | float literal => exact textSize_of_printable fun c hc => printable_of_isNumberChar (hv.1 c hc)
  | str s => exact textSize_quote s
  | arr xs ih =>
    have hbracket : ('[' : Char).utf8Size = 1 := rfl
    rw [write, writeElements_eq, textSize_cons, textSize_intercalate rfl, hbracket, List.map_map,
      Value.size, sizeOfElements_eq_sum]
    congr 3
    exact List.map_congr_left fun v hv' => congrArg (· + 1) (ih v hv' (allFloatsOf_iff.1 hv v hv'))
  | obj entries ih =>
    have hbrace : ('\x7b' : Char).utf8Size = 1 := rfl
    have hcolon : (':' : Char).utf8Size = 1 := rfl
    rw [write, writeEntries_eq, textSize_cons, textSize_intercalate rfl, hbrace, List.map_map,
      Value.size, sizeOfEntries_eq_sum]
    congr 3
    refine List.map_congr_left fun e he => ?_
    rw [Function.comp_apply, writeEntry, textSize_append, textSize_quote, textSize_cons, hcolon,
      ih e he (allFloatsIn_iff.1 hv e he)]
    omega

/-- Putting entries in order keeps the size; the floats stay as they are. -/
theorem size_canonical (v : Value (List Char)) : (v.canonical some).size = v.size := by
  induction v using Value.members_induction with
  | null | bool | int | float | str => rfl
  | arr xs ih =>
    rw [Value.canonical, canonicals_eq_map, Value.size, Value.size, sizeOfElements_eq_sum,
      sizeOfElements_eq_sum, List.map_map]
    congr 3
    exact List.map_congr_left fun v hv => congrArg (· + 1) (ih v hv)
  | obj entries ih =>
    obtain ⟨others, hothers, hperm⟩ := @canonical_obj_perm some entries
    rw [hothers, Value.size, Value.size, sizeOfEntries_eq_sum, sizeOfEntries_eq_sum,
      (hperm.map _).sum_eq, List.map_map]
    congr 3
    refine List.map_congr_left fun e he => ?_
    rw [Function.comp_apply, ih e he]

end JsonText

end StateLib
