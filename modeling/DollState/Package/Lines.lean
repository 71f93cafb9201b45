import DollState.Import.Formats
import DollState.Library.JsonRoundTrip
import DollState.Library.JsonShape

/-!
# JSON Lines of a state package

The model of `_jsonl_bytes` and `_load_jsonl_bytes`. The writer puts the payload of each record on a
line of its own, with every character that JSON does not require to be escaped as it is; the reader
splits the lines with `str.splitlines` and refuses long ones. `roundTrips_iff` says which payloads
come back.
-/

namespace DollState.Package

open StateLib JsonText

/-! ## Errors -/

inductive PackageErrorKind where
  | validation | integrity | unsafePath | limit | recursion
deriving DecidableEq, Repr

/-- A `StatePackageError` by its class, or the `RecursionError` of the interpreter. -/
structure PackageError where
  kind : PackageErrorKind
  message : String
deriving DecidableEq, Repr

abbrev Packaged (α : Type) := Except PackageError α

def validation (message : String) : PackageError := ⟨.validation, message⟩

def recursionError : PackageError := ⟨.recursion, "maximum recursion depth exceeded"⟩

/-- The parts of Python's library and interpreter that packages rest on. -/
class PackageLibrary where
  /-- How many containers inside one another the JSON decoder enters. -/
  decodeLevels : ℕ
  three_le_decodeLevels : 3 ≤ decodeLevels
  /-- How many containers inside one another the JSON encoder enters. -/
  encodeLevels : ℕ
  three_le_encodeLevels : 3 ≤ encodeLevels
  /-- `hashlib.sha256`. -/
  sha256 : ByteArray → Import.Digest
  /-- `str.upper`. -/
  upper : Text → Text

/-! ## Payloads -/

abbrev TextValue := Value Text

/-- The dictionary that a record is written as. Its keys are distinct, its floats are given as `repr`
writes them, and its integers have at most the digits that a stored JSON text may hold. -/
structure Payload where
  entries : List (Text × TextValue)
  readable : (Value.obj entries).Readable

def Payload.value (payload : Payload) : TextValue := .obj payload.entries

def maxJsonlLineBytes : ℕ := 2 * 1024 * 1024

/-- `json.dumps` of a payload with sorted keys and without spaces. -/
def Payload.line (payload : Payload) : Text := encode some payload.value

/-- The characters at which `str.splitlines` breaks a line and which JSON leaves as they are. -/
def breakingChars : List Char := ['\u0085', '\u2028', '\u2029']

/-- The loaded value is the dictionary of the payload: its entries, in whichever order. -/
def ReadsBack (payload : Payload) (loaded : Value Str) : Prop :=
  ∃ entries, loaded = (Value.obj entries).ofTexts ∧
    (Value.obj entries).canonical some = payload.value.canonical some

section

variable [PackageLibrary]

/-- `_canonical_json`. Of the exceptions of the encoder a payload leaves only the recursion error. -/
def canonicalJson (payload : Payload) : Packaged Text :=
  if depth payload.value ≤ PackageLibrary.encodeLevels then .ok payload.line
  else .error recursionError

/-- `_jsonl_bytes`. -/
def jsonlBytes (values : List Payload) : Packaged ByteArray := do
  let lines ← values.mapM canonicalJson
  return Import.encodeUtf8 (lines.flatMap fun line => line ++ ['\n'])

/-- `_load_json_text`. -/
def loadJsonText (value : Text) (name : String) : Packaged (Value Str) :=
  match loads rejectConstant PackageLibrary.decodeLevels value with
  | .ok v => .ok v
  | .error .recursion => .error recursionError
  | .error _ => .error (validation s!"{name} is not valid strict JSON")

/-- One round of the loop of `_load_jsonl_bytes`. -/
def loadLine (name : String) (line : Text) : Packaged (Value Str) := do
  ensure (line ≠ []) (validation s!"{name} contains a blank JSONL line")
  ensure (utf8Size line ≤ maxJsonlLineBytes)
    ⟨.limit, s!"{name} contains an oversized JSONL line"⟩
  loadJsonText line name

/-- `_load_jsonl_bytes`. -/
def loadJsonlBytes (value : ByteArray) (name : String) : Packaged (List (Value Str)) := do
  let text ← orFail (validation s!"{name} is not UTF-8") (Import.decodeUtf8 value)
  ensure (text ≠ [] → ['\n'] <:+ text) (validation s!"{name} must end with LF")
  (splitLines [] text).mapM (loadLine name)

/-! ## What comes back -/

/-- The payloads are written, and each is read back from a line of its own. -/
def RoundTrips (name : String) (values : List Payload) : Prop :=
  ∃ bytes loaded, jsonlBytes values = .ok bytes ∧ loadJsonlBytes bytes name = .ok loaded ∧
    List.Forall₂ ReadsBack values loaded

/-- What the reader needs of a payload to read its line. -/
structure Carried (payload : Payload) : Prop where
  unbroken : ∀ text ∈ payload.value.texts, ∀ c ∈ text, c ∉ breakingChars
  size_le : payload.value.size ≤ maxJsonlLineBytes
  encoded : depth payload.value ≤ PackageLibrary.encodeLevels
  decoded : depth payload.value ≤ PackageLibrary.decodeLevels

end

/-! ## The line of a payload -/

theorem le_of_mem_breakingChars {c : Char} (h : c ∈ breakingChars) : 127 ≤ c.toNat := by
  simp only [breakingChars, List.mem_cons, List.not_mem_nil, or_false] at h
  rcases h with rfl | rfl | rfl <;> exact Nat.le_of_ble_eq_true rfl

theorem isLineBreak_iff_of_le {c : Char} (h : 32 ≤ c.toNat) :
    isLineBreak c = true ↔ c ∈ breakingChars := by
  have hne : ∀ d : Char, c = d ↔ c.toNat = d.toNat := fun d => Char.toNat_inj.symm
  have h85 : '\u0085'.toNat = 0x85 := rfl
  have h2028 : '\u2028'.toNat = 0x2028 := rfl
  have h2029 : '\u2029'.toNat = 0x2029 := rfl
  simp only [isLineBreak, Bool.or_eq_true, Bool.and_eq_true, decide_eq_true_eq, beq_iff_eq,
    breakingChars, List.mem_cons, List.not_mem_nil, or_false, hne, h85, h2028, h2029]
  omega

theorem readable_canonical (payload : Payload) : (payload.value.canonical some).Readable :=
  payload.readable.canonical

theorem objectLine_line (payload : Payload) : Import.ObjectLine payload.line := by
  obtain ⟨others, hothers, -⟩ := @canonical_obj_perm some payload.entries
  have hline : payload.line = '\x7b' :: ([','].intercalate (others.map writeEntry) ++ ['\x7d']) := by
    rw [Payload.line, encode_eq_write, Payload.value, hothers, write, writeEntries_eq]
  refine ⟨by rw [hline]; rfl, ⟨_, by rw [hline, List.cons_append]⟩, fun hmem => ?_⟩
  rw [Payload.line, encode_eq_write] at hmem
  rcases mem_write (readable_canonical payload).allFloats hmem with hplain | ⟨-, hcontrol⟩
  · exact absurd hplain.1 (by decide)
  · exact absurd hcontrol (by decide)

/-- A line is broken at the characters of the payload's own strings only. -/
theorem unbroken_line_iff (payload : Payload) : Import.Unbroken payload.line ↔
    ∀ text ∈ payload.value.texts, ∀ c ∈ text, c ∉ breakingChars := by
  rw [Payload.line, encode_eq_write]
  constructor
  · intro h text htext c hc hmem
    have hprint := le_of_mem_breakingChars hmem
    have hbreak := (isLineBreak_iff_of_le (by omega)).2 hmem
    rw [h c (mem_write_of_mem_texts (mem_texts_canonical.2 htext) hc hprint)] at hbreak
    cases hbreak
  · intro h c hc
    by_contra hbreak
    rw [Bool.not_eq_false] at hbreak
    rcases mem_write (readable_canonical payload).allFloats hc with hplain | ⟨⟨t, ht, hct⟩, hcontrol⟩
    · have hle := le_of_mem_breakingChars ((isLineBreak_iff_of_le hplain.1).1 hbreak)
      exact absurd hplain.2 (not_lt.2 hle)
    · exact h t (mem_texts_canonical.1 ht) c hct ((isLineBreak_iff_of_le hcontrol).1 hbreak)

theorem utf8Size_line (payload : Payload) : utf8Size payload.line = payload.value.size := by
  rw [← size_canonical payload.value, ← textSize_write (readable_canonical payload).allFloats,
    Payload.line, encode_eq_write]
  rfl

/-! ## Reading lines -/

/-- The text of the lines, as the reader decodes it. -/
theorem splitLines_flatMap (values : List Payload) :
    splitLines [] ((values.map Payload.line).flatMap fun line => line ++ ['\n']) =
      (values.map Payload.line).flatMap (splitLines []) := by
  have hjoin : ∀ (line : Text) (lines : List Text),
      (line :: lines).flatMap (fun line => line ++ ['\n']) =
        Import.joinJsonLines (line :: lines) true := by
    intro line lines
    induction lines generalizing line with
    | nil => simp [Import.joinJsonLines]
    | cons next lines ih =>
      rw [List.flatMap_cons, ih next, Import.joinJsonLines, Import.joinJsonLines,
        List.intercalate_cons_cons]
      simp
  cases values with
  | nil => simp [splitLines]
  | cons payload values =>
    rw [List.map_cons, hjoin, Import.splitLines_joinJsonLines _ true (List.cons_ne_nil _ _)]
    rw [← List.map_cons]
    exact List.forall_mem_map.2 fun payload _ => objectLine_line payload

theorem readsBack_canonical (payload : Payload) :
    ReadsBack payload (payload.value.canonical some).ofTexts := by
  obtain ⟨others, hothers, -⟩ := @canonical_obj_perm some payload.entries
  exact ⟨others, congrArg Value.ofTexts hothers, hothers ▸ canonical_canonical payload.value⟩

section

variable [PackageLibrary]

/-- What the reader makes of the line of a payload. -/
theorem loadLine_line (payload : Payload) (name : String) :
    loadLine name payload.line =
      if payload.value.size ≤ maxJsonlLineBytes then
        if depth payload.value ≤ PackageLibrary.decodeLevels then
          .ok (payload.value.canonical some).ofTexts
        else .error recursionError
      else .error ⟨.limit, s!"{name} contains an oversized JSONL line"⟩ := by
  have hblank := ensure_of (objectLine_line payload).ne_nil
    (validation s!"{name} contains a blank JSONL line")
  have hload : loadJsonText payload.line name =
      if depth payload.value ≤ PackageLibrary.decodeLevels then
        .ok (payload.value.canonical some).ofTexts
      else .error recursionError := by
    rw [loadJsonText, Payload.line, encode_eq_write, loads_write (readable_canonical payload),
      depth_canonical]
    split_ifs <;> rfl
  rw [loadLine, hblank, utf8Size_line, hload]
  by_cases hsize : payload.value.size ≤ maxJsonlLineBytes
  · rw [if_pos hsize, ensure_of hsize]
    rfl
  · rw [if_neg hsize, ensure, if_neg hsize]
    rfl

theorem mapM_canonicalJson_eq_ok_iff {values : List Payload} {lines : List Text} :
    values.mapM canonicalJson = .ok lines ↔
      (∀ payload ∈ values, depth payload.value ≤ PackageLibrary.encodeLevels) ∧
        lines = values.map Payload.line := by
  rw [mapM_eq_ok]
  induction values generalizing lines with
  | nil => simp [List.forall₂_nil_left_iff]
  | cons payload values ih =>
    rw [List.forall₂_cons_left_iff, List.forall_mem_cons, List.map_cons]
    constructor
    · rintro ⟨line, rest, hline, hrest, rfl⟩
      obtain ⟨hall, rfl⟩ := ih.1 hrest
      rw [canonicalJson] at hline
      split_ifs at hline with hdepth
      cases hline
      exact ⟨⟨hdepth, hall⟩, rfl⟩
    · rintro ⟨⟨hdepth, hall⟩, rfl⟩
      exact ⟨payload.line, _, if_pos hdepth, ih.2 ⟨hall, rfl⟩, rfl⟩

/-- Loading what has been written is loading the pieces that the lines are split into. -/
theorem loadJsonlBytes_eq (values : List Payload) (name : String) :
    loadJsonlBytes (Import.encodeUtf8 ((values.map Payload.line).flatMap fun line => line ++ ['\n']))
        name =
      ((values.map Payload.line).flatMap (splitLines [])).mapM (loadLine name) := by
  have hend : ∀ lines : List Text, lines.flatMap (fun line => line ++ ['\n']) ≠ [] →
      ['\n'] <:+ lines.flatMap fun line => line ++ ['\n'] := by
    intro lines hne
    rcases List.eq_nil_or_concat' lines with rfl | ⟨before, line, rfl⟩
    · exact absurd rfl hne
    · rw [List.flatMap_append, List.flatMap_singleton, ← List.append_assoc]
      exact List.suffix_append _ _
  rw [loadJsonlBytes, Import.decodeUtf8_encodeUtf8, ← splitLines_flatMap]
  show (ensure _ _ >>= fun _ => _) = _
  rw [ensure_of (hend _)]
  rfl

/-- The reader gets by with each of the payloads that come back. -/
theorem carried_of_roundTrips {name : String} {values : List Payload} (h : RoundTrips name values) :
    ∀ payload ∈ values, Carried payload := by
  have hobjects : ∀ line ∈ values.map Payload.line, Import.ObjectLine line :=
    List.forall_mem_map.2 fun payload _ => objectLine_line payload
  obtain ⟨bytes, loaded, hbytes, hloaded, hback⟩ := h
  obtain ⟨lines, hlines, hpure⟩ := bind_eq_ok.1 hbytes
  obtain ⟨hencoded, rfl⟩ := mapM_canonicalJson_eq_ok_iff.1 hlines
  rw [← pure_eq_ok.1 hpure, loadJsonlBytes_eq] at hloaded
  -- a broken line would be read as more than one value
  have hlength := (mapM_eq_ok.1 hloaded).length_eq
  have hcount : (values.map Payload.line).length = loaded.length := by
    rw [List.length_map, hback.length_eq]
  have hunbroken : ∀ line ∈ values.map Payload.line, Import.Unbroken line := by
    by_contra hbroken
    push Not at hbroken
    have hlt := (Import.le_length_nonBlank hobjects).2 hbroken
    have hle : (Import.nonBlank ((values.map Payload.line).flatMap (splitLines []))).length ≤
        ((values.map Payload.line).flatMap (splitLines [])).length := List.length_filter_le _ _
    omega
  intro payload hpayload
  have hline := hunbroken payload.line (List.mem_map_of_mem hpayload)
  have hmem : payload.line ∈ (values.map Payload.line).flatMap (splitLines []) := by
    refine List.mem_flatMap.2 ⟨payload.line, List.mem_map_of_mem hpayload, ?_⟩
    rw [Import.splitLines_of_unbroken hline (objectLine_line payload).ne_nil]
    exact List.mem_singleton_self _
  obtain ⟨value, -, hvalue⟩ := mapM_ok_of_mem hloaded hmem
  rw [loadLine_line] at hvalue
  split_ifs at hvalue with hsize hdepth
  exact ⟨(unbroken_line_iff payload).1 hline, hsize, hencoded payload hpayload, hdepth⟩

/-- A list of payloads comes back if and only if the reader gets by with each of them. -/
theorem roundTrips_iff (name : String) (values : List Payload) :
    RoundTrips name values ↔ ∀ payload ∈ values, Carried payload := by
  refine ⟨carried_of_roundTrips, fun h => ?_⟩
  have hpieces : (values.map Payload.line).flatMap (splitLines []) = values.map Payload.line := by
    have hsingle : ∀ line ∈ values.map Payload.line, splitLines [] line = [line] :=
      List.forall_mem_map.2 fun payload hpayload =>
        Import.splitLines_of_unbroken ((unbroken_line_iff payload).2 (h payload hpayload).unbroken)
          (objectLine_line payload).ne_nil
    rw [List.flatMap_congr hsingle, List.flatMap_singleton']
  refine ⟨Import.encodeUtf8 ((values.map Payload.line).flatMap fun line => line ++ ['\n']),
    values.map fun payload => (payload.value.canonical some).ofTexts, ?_, ?_, ?_⟩
  · rw [jsonlBytes, mapM_canonicalJson_eq_ok_iff.2 ⟨fun payload hp => (h payload hp).encoded, rfl⟩]
    rfl
  · rw [loadJsonlBytes_eq, hpieces, mapM_eq_ok, List.forall₂_map_left_iff,
      List.forall₂_map_right_iff, List.forall₂_same]
    intro payload hpayload
    rw [loadLine_line, if_pos (h payload hpayload).size_le, if_pos (h payload hpayload).decoded]
  · rw [List.forall₂_map_right_iff, List.forall₂_same]
    exact fun payload _ => readsBack_canonical payload

end

/-! ## A line separator in a title -/

/-- A conversation with U+2028 in its title. -/
def separatorEntries : List (Text × TextValue) :=
  [("id".toList, .str "11111111-1111-4111-8111-111111111111".toList),
    ("record_type".toList, .str "conversation".toList),
    ("schema_version".toList, .int 1),
    ("created_at".toList, .str "2026-01-01T00:00:00Z".toList),
    ("updated_at".toList, .str "2026-01-01T00:00:00Z".toList),
    ("revision".toList, .int 1),
    ("status".toList, .str "active".toList),
    ("provenance".toList, .str "user-created".toList),
    ("sensitivity".toList, .str "personal".toList),
    ("title".toList, .str ['a', '\u2028', 'b']),
    ("metadata".toList, .obj [("source_environment_id".toList, .null),
      ("source_conversation_id".toList, .null)])]

def separatorPayload : Payload where
  entries := separatorEntries
  readable := by
    have hone : 1 < 10 ^ maxDigits := Nat.one_lt_pow (by decide) (by decide)
    refine ⟨by decide, ?_⟩
    simp [separatorEntries, EntriesReadable, Value.Readable, hone]

/-- A recursion limit that leaves the JSON functions 990 levels. -/
@[reducible] def deepLibrary : PackageLibrary where
  decodeLevels := 990
  three_le_decodeLevels := by decide
  encodeLevels := 990
  three_le_encodeLevels := by decide
  sha256 _ := 0
  upper text := text.map Char.toUpper

theorem not_roundTrips_separator :
    ¬ @RoundTrips deepLibrary "records/conversations.jsonl" [separatorPayload] := by
  let _ : PackageLibrary := deepLibrary
  intro h
  have hcarried := carried_of_roundTrips h separatorPayload List.mem_cons_self
  have htext : ['a', '\u2028', 'b'] ∈ separatorPayload.value.texts := by
    simp [separatorPayload, Payload.value, separatorEntries, Value.texts, textsIn]
  have hbreaking : '\u2028' ∈ breakingChars := by simp [breakingChars]
  exact hcarried.unbroken _ htext '\u2028' (by simp) hbreaking

end DollState.Package
