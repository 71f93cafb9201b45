import DollState.Library.JsonCanonical
import DollState.State.Record

/-!
# Canonical JSON texts of metadata values

The services that compare or hash metadata write it as JSON with sorted keys and without spaces. Two
values with one such text are equal for Python (`Json.eq_of_canonicalJson_eq`). The converse fails:
Python takes `1`, `true` and `1.0` for equal.
-/

namespace DollState

open StateLib

/-- How the library writes floats. -/
class FloatLibrary where
  /-- `repr` of the float with this value. -/
  floatRepr : Rat → Text

/-- What is documented of `repr`: a float is written as no integer is, and as no other float is. -/
structure LawfulFloats [FloatLibrary] : Prop where
  isFloat : ∀ q, JsonText.IsFloat (FloatLibrary.floatRepr q)
  injective : Function.Injective FloatLibrary.floatRepr
  ne_minusZero : ∀ q, FloatLibrary.floatRepr q ≠ "-0.0".toList

section

variable [FloatLibrary]

mutual

/-- The value, its floats as they are written. -/
def Json.toValue : Json → JsonText.Value Text
  | .null => .null
  | .bool b => .bool b
  | .int i => .int i
  | .real q => .float (FloatLibrary.floatRepr q)
  | .minusZero => .float "-0.0".toList
  | .str s => .str s
  | .arr xs => .arr (Json.toValues xs)
  | .obj entries => .obj (Json.toEntries entries)

def Json.toValues : List Json → List (JsonText.Value Text)
  | [] => []
  | v :: vs => v.toValue :: Json.toValues vs

def Json.toEntries : List (String × Json) → List (Text × JsonText.Value Text)
  | [] => []
  | (key, v) :: entries => (key.toList, v.toValue) :: Json.toEntries entries

end

/-- `_canonical_json`: `json.dumps` with sorted keys and without spaces. -/
def canonicalJson (v : Json) : Text := JsonText.encode some v.toValue

end

/-- `len(text.encode("utf-8"))`. -/
def utf8Size (text : Text) : Nat := (text.map Char.utf8Size).sum

mutual

/-- No object of the value has an entry twice, as no Python dictionary has. -/
def Json.DistinctKeys : Json → Prop
  | .arr xs => Json.AllDistinctKeys xs
  | .obj entries => (entries.map (·.1)).Nodup ∧ Json.EntriesDistinctKeys entries
  | _ => True

def Json.AllDistinctKeys : List Json → Prop
  | [] => True
  | v :: vs => v.DistinctKeys ∧ Json.AllDistinctKeys vs

def Json.EntriesDistinctKeys : List (String × Json) → Prop
  | [] => True
  | (_, v) :: entries => v.DistinctKeys ∧ Json.EntriesDistinctKeys entries

end

theorem Json.entriesDistinctKeys_iff {entries : List (String × Json)} :
    Json.EntriesDistinctKeys entries ↔ ∀ e ∈ entries, e.2.DistinctKeys := by
  induction entries with
  | nil => simp [Json.EntriesDistinctKeys]
  | cons e entries ih => rw [Json.EntriesDistinctKeys, ih, List.forall_mem_cons]

/-- The entry of a key, the keys being distinct. -/
theorem lookup_eq_some_of_mem {entries : List (String × Json)}
    (h : (entries.map (·.1)).Nodup) {key : String} {v : Json} (hv : (key, v) ∈ entries) :
    entries.lookup key = some v := by
  induction entries with
  | nil => cases hv
  | cons e entries ih =>
    rw [List.map_cons, List.nodup_cons] at h
    rw [List.lookup_cons]
    rcases List.mem_cons.1 hv with rfl | hv
    · simp
    · have hne : (key == e.1) = false := by
        rw [beq_eq_false_iff_ne]
        rintro rfl
        exact h.1 (List.mem_map.2 ⟨_, hv, rfl⟩)
      rw [hne]
      exact ih h.2 hv

section

variable [FloatLibrary]

theorem Json.canonicalEntries_toEntries (entries : List (String × Json)) :
    JsonText.canonicalEntries some (Json.toEntries entries) =
      entries.map fun e => (e.1.toList, e.2.toValue.canonical some) := by
  induction entries with
  | nil => rfl
  | cons e entries ih => rw [Json.toEntries, JsonText.canonicalEntries, ih, List.map_cons]

/-- Objects with one canonical form have the same entries, but for their order. -/
theorem Json.perm_of_canonical_eq {es fs : List (String × Json)}
    (h : (Json.obj es).toValue.canonical some = (Json.obj fs).toValue.canonical some) :
    (es.map fun e => (e.1.toList, e.2.toValue.canonical some)).Perm
      (fs.map fun e => (e.1.toList, e.2.toValue.canonical some)) := by
  rw [← Json.canonicalEntries_toEntries, ← Json.canonicalEntries_toEntries]
  refine (List.perm_insertionSort (fun a b => a.1 ≤ b.1) _).symm.trans ?_
  rw [JsonText.Value.obj.inj h]
  exact List.perm_insertionSort _ _

omit [FloatLibrary] in
theorem isFloat_minusZero : JsonText.IsFloat "-0.0".toList := by
  have htext : "-0.0".toList = ['-', '0', '.', '0'] := rfl
  rw [htext]
  exact ⟨by simp [JsonText.isNumberChar], '.', by simp, rfl, by simp⟩

mutual

theorem Json.allFloats_toValue (hfloats : LawfulFloats) (v : Json) :
    v.toValue.AllFloats fun literal => ∃ t, some literal = some t ∧ JsonText.IsFloat t := by
  cases v with
  | null | bool | int | str => trivial
  | real q => exact ⟨_, rfl, hfloats.isFloat q⟩
  | minusZero => exact ⟨_, rfl, isFloat_minusZero⟩
  | arr xs => exact Json.allFloats_toValues hfloats xs
  | obj entries => exact Json.allFloats_toEntries hfloats entries

theorem Json.allFloats_toValues (hfloats : LawfulFloats) (vs : List Json) :
    JsonText.AllFloatsOf (fun literal => ∃ t, some literal = some t ∧ JsonText.IsFloat t)
      (Json.toValues vs) := by
  match vs with
  | [] => trivial
  | v :: vs => exact ⟨Json.allFloats_toValue hfloats v, Json.allFloats_toValues hfloats vs⟩

theorem Json.allFloats_toEntries (hfloats : LawfulFloats) (entries : List (String × Json)) :
    JsonText.AllFloatsIn (fun literal => ∃ t, some literal = some t ∧ JsonText.IsFloat t)
      (Json.toEntries entries) := by
  match entries with
  | [] => trivial
  | (key, v) :: entries =>
    exact ⟨Json.allFloats_toValue hfloats v, Json.allFloats_toEntries hfloats entries⟩

end

mutual

/-- Values with one canonical form are equal for Python. -/
theorem Json.eq_of_canonical_eq (hfloats : LawfulFloats) (v w : Json) (hv : v.DistinctKeys)
    (hw : w.DistinctKeys) (h : v.toValue.canonical some = w.toValue.canonical some) :
    Json.eq v w = true := by
  cases v with
  | null =>
    cases w with
    | null => rfl
    | bool | int | real | minusZero | str | arr | obj => cases h
  | bool a =>
    cases w with
    | bool b =>
      cases h
      simp [Json.eq]
    | null | int | real | minusZero | str | arr | obj => cases h
  | int i =>
    cases w with
    | int j =>
      cases h
      simp [Json.eq]
    | null | bool | real | minusZero | str | arr | obj => cases h
  | real p =>
    cases w with
    | real q =>
      have hpq : p = q := hfloats.injective (JsonText.Value.float.inj h)
      simp [Json.eq, hpq]
    | minusZero => exact absurd (JsonText.Value.float.inj h) (hfloats.ne_minusZero p)
    | null | bool | int | str | arr | obj => cases h
  | minusZero =>
    cases w with
    | real q => exact absurd (JsonText.Value.float.inj h).symm (hfloats.ne_minusZero q)
    | minusZero => simp [Json.eq]
    | null | bool | int | str | arr | obj => cases h
  | str s =>
    cases w with
    | str t =>
      cases h
      simp [Json.eq]
    | null | bool | int | real | minusZero | arr | obj => cases h
  | arr xs =>
    cases w with
    | arr ys =>
      rw [Json.eq]
      exact Json.eqList_of_canonical_eq hfloats xs ys hv hw (JsonText.Value.arr.inj h)
    | null | bool | int | real | minusZero | str | obj => cases h
  | obj es =>
    cases w with
    | obj fs =>
      have hperm := Json.perm_of_canonical_eq h
      have hlength : es.length = fs.length := by simpa using hperm.length_eq
      have hentries : Json.eqEntries es fs = true := by
        refine Json.eqEntries_of_canonical_eq hfloats es fs hv.2 hw.2 fun e he => ?_
        obtain ⟨f, hf, hef⟩ := List.mem_map.1 (hperm.subset (List.mem_map.2 ⟨e, he, rfl⟩))
        obtain ⟨hkey, hvalue⟩ := Prod.ext_iff.1 hef
        have hkey : f.1 = e.1 := String.toList_injective hkey
        exact ⟨f.2, lookup_eq_some_of_mem hw.1 (hkey ▸ hf), ⟨f.1, hf⟩, hvalue.symm⟩
      simp [Json.eq, hlength, hentries]
    | null | bool | int | real | minusZero | str | arr => cases h

theorem Json.eqList_of_canonical_eq (hfloats : LawfulFloats) (vs ws : List Json)
    (hvs : Json.AllDistinctKeys vs) (hws : Json.AllDistinctKeys ws)
    (h : JsonText.canonicals some (Json.toValues vs) =
      JsonText.canonicals some (Json.toValues ws)) : Json.eqList vs ws = true := by
  match vs, ws with
  | [], [] => rfl
  | [], w :: ws => cases h
  | v :: vs, [] => cases h
  | v :: vs, w :: ws =>
    obtain ⟨hvw, h⟩ := List.cons.inj h
    rw [Json.eqList, Json.eq_of_canonical_eq hfloats v w hvs.1 hws.1 hvw,
      Json.eqList_of_canonical_eq hfloats vs ws hvs.2 hws.2 h]
    rfl

theorem Json.eqEntries_of_canonical_eq (hfloats : LawfulFloats) (es fs : List (String × Json))
    (hes : Json.EntriesDistinctKeys es) (hfs : Json.EntriesDistinctKeys fs)
    (h : ∀ e ∈ es, ∃ w, fs.lookup e.1 = some w ∧ (∃ key, (key, w) ∈ fs) ∧
      e.2.toValue.canonical some = w.toValue.canonical some) : Json.eqEntries es fs = true := by
  match es with
  | [] => rfl
  | (key, v) :: es =>
    obtain ⟨⟨w, hlookup, ⟨key', hw⟩, hvw⟩, h⟩ := List.forall_mem_cons.1 h
    have hw : w.DistinctKeys := Json.entriesDistinctKeys_iff.1 hfs _ hw
    rw [Json.eqEntries, hlookup, Json.eqEntries_of_canonical_eq hfloats es fs hes.2 hfs h]
    simpa using Json.eq_of_canonical_eq hfloats v w hes.1 hw hvw

end

/-- Values with one canonical text are equal for Python. -/
theorem Json.eq_of_canonicalJson_eq (hfloats : LawfulFloats) {v w : Json} (hv : v.DistinctKeys)
    (hw : w.DistinctKeys) (h : canonicalJson v = canonicalJson w) : Json.eq v w = true :=
  Json.eq_of_canonical_eq hfloats v w hv hw <|
    JsonText.canonical_eq_of_encode_eq (Json.allFloats_toValue hfloats v)
      (Json.allFloats_toValue hfloats w) h

/-- Objects with one canonical form have, under one key, values with one canonical form. -/
theorem Json.canonical_entry {es fs : List (String × Json)} (hfs : (fs.map (·.1)).Nodup)
    (h : (Json.obj es).toValue.canonical some = (Json.obj fs).toValue.canonical some)
    {key : String} {v w : Json} (hv : (key, v) ∈ es) (hw : (key, w) ∈ fs) :
    v.toValue.canonical some = w.toValue.canonical some := by
  obtain ⟨⟨key', w'⟩, hw', hpair⟩ :=
    List.mem_map.1 ((Json.perm_of_canonical_eq h).subset (List.mem_map.2 ⟨_, hv, rfl⟩))
  obtain ⟨hkey, hvalue⟩ := Prod.ext_iff.1 hpair
  obtain rfl : key' = key := String.toList_injective hkey
  obtain rfl : w' = w := Option.some.inj
    ((lookup_eq_some_of_mem hfs hw').symm.trans (lookup_eq_some_of_mem hfs hw))
  exact hvalue.symm

/-! ## The size of a canonical text -/

omit [FloatLibrary] in
theorem utf8Size_append (s t : Text) : utf8Size (s ++ t) = utf8Size s + utf8Size t := by
  simp [utf8Size]

omit [FloatLibrary] in
theorem utf8Size_cons (c : Char) (s : Text) : utf8Size (c :: s) = c.utf8Size + utf8Size s := rfl

omit [FloatLibrary] in
/-- A string is written in no more bytes than one it is a part of. -/
theorem utf8Size_quote_le {s t : Text} (h : s.Sublist t) :
    utf8Size (JsonText.quote s) ≤ utf8Size (JsonText.quote t) := by
  have hsum := ((h.flatMap JsonText.escape).map Char.utf8Size).sum_le_sum fun _ _ => Nat.zero_le _
  simp only [JsonText.quote, utf8Size_append, utf8Size_cons]
  simp only [utf8Size] at hsum ⊢
  omega

omit [FloatLibrary] in
theorem utf8Size_intercalate_comma (parts : List Text) :
    utf8Size ([','].intercalate parts) = (parts.map utf8Size).sum + (parts.length - 1) := by
  have hcomma : utf8Size [','] = 1 := rfl
  induction parts with
  | nil => rfl
  | cons part parts ih =>
    cases parts with
    | nil => simp
    | cons part' parts =>
      rw [List.intercalate_cons_cons, utf8Size_append, utf8Size_append, ih, hcomma]
      simp only [List.map_cons, List.sum_cons, List.length_cons]
      omega

/-- The bytes of an entry. -/
def entrySize (e : String × Json) : Nat :=
  utf8Size (JsonText.quote e.1.toList) + 1 + utf8Size (canonicalJson e.2)

theorem encodeEntries_toEntries (entries : List (String × Json)) :
    JsonText.encodeEntries some (Json.toEntries entries) =
      entries.map fun e => (e.1.toList, canonicalJson e.2) := by
  induction entries with
  | nil => rfl
  | cons e entries ih => rw [Json.toEntries, JsonText.encodeEntries, ih, List.map_cons, canonicalJson]

/-- The order in which the entries are written does not matter for the size. -/
theorem utf8Size_canonicalJson_obj (entries : List (String × Json)) :
    utf8Size (canonicalJson (.obj entries)) =
      2 + (entries.map entrySize).sum + (entries.length - 1) := by
  let members := (JsonText.encodeEntries some (Json.toEntries entries)).insertionSort
    fun a b => a.1 ≤ b.1
  have hperm : members.Perm (entries.map fun e => (e.1.toList, canonicalJson e.2)) := by
    rw [← encodeEntries_toEntries]
    exact List.perm_insertionSort _ _
  have hsum : ((members.map fun m => JsonText.quote m.1 ++ ':' :: m.2).map utf8Size).sum =
      (entries.map entrySize).sum := by
    rw [((hperm.map _).map _).sum_eq, List.map_map, List.map_map]
    congr 1
    refine List.map_congr_left fun e _ => ?_
    simp only [Function.comp_apply, entrySize, utf8Size_append, utf8Size_cons]
    have hcolon : (':' : Char).utf8Size = 1 := rfl
    omega
  have hlength : members.length = entries.length := by simpa using hperm.length_eq
  have htext : canonicalJson (.obj entries) = '{' ::
      [','].intercalate (members.map fun m => JsonText.quote m.1 ++ ':' :: m.2) ++ ['}'] := rfl
  have hbraces : ('{' : Char).utf8Size = 1 ∧ utf8Size ['}'] = 1 := ⟨rfl, rfl⟩
  rw [htext, utf8Size_append, utf8Size_cons, utf8Size_intercalate_comma, hsum, List.length_map,
    hlength, hbraces.1, hbraces.2]
  omega

end

end DollState
