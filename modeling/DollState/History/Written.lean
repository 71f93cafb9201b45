import DollState.Library.JsonReread
import DollState.Import.Formats
import DollState.History.Objects

/-!
# What the generic stager reads

The source objects of a history are written as a JSON document, which the generic stager reads again.
The raw objects it reads are those that were written, in their order (`readText_dumps`).
-/

namespace DollState.History

open StateLib JsonText Import

section

variable [ImportLibrary]

/-- The raw object is the source object as it has been written. -/
def WrittenAs (o : SourceObject) (raw : RawObject) : Prop :=
  ∃ w, o.json.toText? = some w ∧ raw.value = some (w.canonical ImportLibrary.floatRepr) ∧
    raw.parseReason = none

/-- `float.__repr__` writes what is read as a float again. -/
def LawfulFloatRepr : Prop := ∀ literal t, ImportLibrary.floatRepr literal = some t → IsFloat t

theorem dumps_eq_ok {value : Json} {written : Text} (h : dumps value = .ok written) :
    ∃ w, value.toText? = some w ∧ written = Import.canonicalJson w ∧
      w.AllFloats fun literal => ∃ t, ImportLibrary.floatRepr literal = some t := by
  rw [dumps] at h
  split at h
  · cases h
  · cases h
  · rename_i hfirst
    obtain ⟨-, h⟩ := check_bind_eq_ok.1 h
    obtain ⟨w, hw, h⟩ := bind_eq_ok.1 h
    have htext := orFail_eq_ok.1 hw
    exact ⟨w, htext, (pure_eq_ok.1 h).symm, allFloats_of_firstError hfirst htext⟩

omit [ImportLibrary] in
theorem canonicalEntries_eq_map {repr : List Char → Option (List Char)}
    (entries : List (Text × TextValue)) :
    canonicalEntries repr entries = entries.map fun e => (e.1, e.2.canonical repr) := by
  induction entries with
  | nil => rfl
  | cons e entries ih => rw [canonicalEntries, ih, List.map_cons]

omit [ImportLibrary] in
/-- The entries of a canonical object, as the decoder returns them. -/
theorem ofTexts_canonical_obj {repr : List Char → Option (List Char)}
    (entries : List (Text × TextValue)) : ∃ others : List (Str × Json),
    ((Value.obj entries).canonical repr).ofTexts = .obj others ∧
      others.Perm (entries.map fun e => (Str.ofText e.1, (e.2.canonical repr).ofTexts)) := by
  refine ⟨_, rfl, ?_⟩
  rw [ofTextsEntries_eq_map, canonicalEntries_eq_map]
  refine ((List.perm_insertionSort _ _).map _).trans ?_
  rw [List.map_map]
  rfl

omit [ImportLibrary] in
theorem forall₂_toTexts? {vs : List (Value Str)} {ws : List TextValue} (h : toTexts? vs = some ws) :
    List.Forall₂ (fun v w => v.toText? = some w) vs ws := by
  induction vs generalizing ws with
  | nil =>
    cases h
    exact .nil
  | cons v vs ih =>
    obtain ⟨w, hw, h⟩ := Option.bind_eq_some_iff.1 h
    obtain ⟨ws', hws, h⟩ := Option.bind_eq_some_iff.1 h
    cases h
    exact .cons hw (ih hws)

theorem rawObject_of_canonical {i : Nat} {w : TextValue} {raw : RawObject}
    (h : rawObject i (w.canonical ImportLibrary.floatRepr).ofTexts = .ok raw) :
    raw.value = some (w.canonical ImportLibrary.floatRepr) ∧ raw.parseReason = none := by
  obtain ⟨⟨value, sourceHash⟩, hvalue, h⟩ := bind_eq_ok.1 h
  cases h
  rw [hashJsonValue] at hvalue
  split at hvalue
  · cases hvalue
  · cases hvalue
  · obtain ⟨-, hvalue⟩ := check_bind_eq_ok.1 hvalue
    obtain ⟨value', hvalue', hvalue⟩ := bind_eq_ok.1 hvalue
    cases hvalue
    cases (orFail_eq_ok.1 hvalue').symm.trans (Value.toText?_ofTexts _)
    exact ⟨rfl, rfl⟩

theorem forall₂_rawObjects {i : Nat} {ws : List TextValue} {raws : List RawObject}
    (h : rawObjects i (ofTextsAll (canonicals ImportLibrary.floatRepr ws)) = .ok raws) :
    List.Forall₂ (fun w raw => raw.value = some (w.canonical ImportLibrary.floatRepr) ∧
      raw.parseReason = none) ws raws := by
  induction ws generalizing i raws with
  | nil =>
    cases h
    exact .nil
  | cons w ws ih =>
    obtain ⟨raw, hraw, h⟩ := bind_eq_ok.1 h
    obtain ⟨rest, hrest, h⟩ := bind_eq_ok.1 h
    cases pure_eq_ok.1 h
    exact .cons (rawObject_of_canonical hraw) (ih hrest)

theorem writtenAs_of_forall₂ {objects : List SourceObject} {ws : List TextValue}
    {raws : List RawObject} (h : List.Forall₂ (fun o w => o.json.toText? = some w) objects ws)
    (hraws : List.Forall₂ (fun w raw => raw.value = some (w.canonical ImportLibrary.floatRepr) ∧
      raw.parseReason = none) ws raws) : List.Forall₂ WrittenAs objects raws := by
  induction h generalizing raws with
  | nil =>
    cases hraws
    exact .nil
  | cons ho _ ih =>
    cases hraws with
    | cons hraw hraws => exact .cons ⟨_, ho, hraw.1, hraw.2⟩ (ih hraws)

omit [ImportLibrary] in
/-- The text of the document that the source objects are written as. -/
theorem toText?_genericSource {sourceEnvironmentId : Text} {objects : List SourceObject}
    {w : TextValue} (h : (genericSource sourceEnvironmentId objects).toText? = some w) :
    ∃ ws, toTexts? (objects.map SourceObject.json) = some ws ∧
      w = .obj [("format".toList, .str "doll-generic-import".toList),
        ("format_version".toList, .str "1".toList),
        ("source_environment_id".toList, .str sourceEnvironmentId), ("objects".toList, .arr ws)] := by
  simp only [genericSource, Value.toText?, toEntries?, key, toText?_ofText, Option.bind_eq_bind,
    Option.bind_some, Option.map_some] at h
  cases hws : toTexts? (objects.map SourceObject.json) with
  | none =>
    rw [hws] at h
    cases h
  | some ws =>
    rw [hws] at h
    exact ⟨ws, rfl, (Option.some.inj h).symm⟩

/-- The generic stager reads the objects that have been written. -/
theorem readText_dumps (hfloat : LawfulFloatRepr) {stager : Stager} {sourceEnvironmentId : Text}
    {objects : List SourceObject} {genericText version : Text} {raws : List RawObject}
    (h : dumps (genericSource sourceEnvironmentId objects) = .ok genericText)
    (hread : stager.readText genericText .json = .ok (version, raws)) :
    List.Forall₂ WrittenAs objects raws := by
  obtain ⟨w, hw, rfl, hfloats⟩ := dumps_eq_ok h
  obtain ⟨ws, hws, rfl⟩ := toText?_genericSource hw
  obtain ⟨⟨manifest, raws'⟩, hparse, hread⟩ := bind_eq_ok.1 hread
  obtain ⟨version', -, hread⟩ := bind_eq_ok.1 hread
  obtain ⟨-, hread⟩ := check_bind_eq_ok.1 hread
  obtain ⟨-, hread⟩ := check_bind_eq_ok.1 hread
  cases hread
  obtain ⟨value, hvalue, hparse⟩ := bind_eq_ok.1 hparse
  -- what is decoded is the document in its canonical form
  have hhook : ∀ pairs entries, strictObject pairs = some entries → entries = pairs := by
    intro pairs entries hstrict
    rw [strictObject] at hstrict
    split_ifs at hstrict
    exact (Option.some.inj hstrict).symm
  obtain rfl := decode_encode hhook hfloat hfloats (orFail_eq_ok.1 hvalue)
  obtain ⟨others, hothers, hperm⟩ := @ofTexts_canonical_obj ImportLibrary.floatRepr
    [("format".toList, .str "doll-generic-import".toList), ("format_version".toList, .str "1".toList),
      ("source_environment_id".toList, .str sourceEnvironmentId), ("objects".toList, .arr ws)]
  rw [hothers] at hparse
  have hkeys : (["format", "format_version", "source_environment_id", "objects"].map key).Nodup := by
    decide
  have hobjects : entry others (key "objects") =
      .arr (ofTextsAll (canonicals ImportLibrary.floatRepr ws)) :=
    entry_of_perm hperm hkeys (by simp [key, Value.canonical, Value.ofTexts])
  obtain ⟨-, hparse⟩ := check_bind_eq_ok.1 hparse
  rw [hobjects] at hparse
  obtain ⟨raws'', hraws, hparse⟩ := bind_eq_ok.1 hparse
  cases hparse
  have hwritten := forall₂_toTexts? hws
  rw [List.forall₂_map_left_iff] at hwritten
  exact writtenAs_of_forall₂ hwritten (forall₂_rawObjects hraws)

end

end DollState.History
