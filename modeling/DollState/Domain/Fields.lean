import DollState.State.Repository

/-!
# Field validators

The checks the project, work-item and checkpoint services make of single fields: text, identifiers,
timestamps, lists of references. Each service has its own copy, raising its own class of error, so
the error class is a parameter here. A validator that has accepted a value accepts what it returned
(`wordsField_idem`, `utcField_idem`, `distinctFrom_map`): that is why a record reads back as
what was written.
-/

namespace DollState

open StateLib

/-- The text holds a local absolute path. -/
def hasLocalPath [PythonLibrary] (text : Text) : Bool :=
  posixPathSearch none text || windowsPathSearch none text

/-! ## Enumerations -/

/-- The value an enumeration's text stands for. -/
def ofText? {α : Type} (all : List α) (text : α → Text) (value : Text) : Option α :=
  all.find? fun a => text a = value

theorem text_of_ofText? {α : Type} {all : List α} {text : α → Text} {value : Text} {a : α}
    (h : ofText? all text value = some a) : text a = value := by
  simpa using List.find?_some h

/-! ## Optional fields -/

/-- `None if value is None else read(value)`. -/
def optionally {α β : Type} (read : α → Result β) : Option α → Result (Option β)
  | none => .ok none
  | some a => do return some (← read a)

theorem optionally_eq_ok {α : Type} {read : α → Result α} {P : α → Prop}
    (hread : ∀ a b, read a = .ok b ↔ b = a ∧ P a) {x y : Option α} :
    optionally read x = .ok y ↔ y = x ∧ ∀ a ∈ x, P a := by
  cases x with
  | none => simp [optionally, eq_comm]
  | some a =>
    simp only [optionally, bind_eq_ok, pure_eq_ok, hread, Option.mem_def, Option.some.injEq,
      forall_eq']
    constructor
    · rintro ⟨b, ⟨rfl, ha⟩, rfl⟩
      exact ⟨rfl, ha⟩
    · rintro ⟨rfl, ha⟩
      exact ⟨a, ⟨rfl, ha⟩, rfl⟩

/-! ## Lists without duplicates -/

/-- The loop of the reference validators: read every value, none of them twice, `result` being what
has been read so far. -/
def distinctFrom {α β : Type} [DecidableEq α] (read : β → Result α) (duplicate : DollError)
    (result : List α) : List β → Result (List α)
  | [] => .ok result
  | value :: values => do
    let a ← read value
    ensure (a ∉ result) duplicate
    distinctFrom read duplicate (result ++ [a]) values

theorem distinctFrom_nodup {α β : Type} [DecidableEq α] {read : β → Result α}
    {duplicate : DollError} {result as : List α} {values : List β} (hresult : result.Nodup)
    (h : distinctFrom read duplicate result values = .ok as) :
    as.Nodup ∧ as.length = result.length + values.length := by
  induction values generalizing result with
  | nil =>
    obtain rfl : result = as := by simpa [distinctFrom] using h
    exact ⟨hresult, rfl⟩
  | cons value values ih =>
    rw [distinctFrom, bind_eq_ok] at h
    obtain ⟨a, -, h⟩ := h
    rw [check_bind_eq_ok, ensure_eq_ok] at h
    have hnodup : (result ++ [a]).Nodup := List.nodup_append.2
      ⟨hresult, List.nodup_singleton a, fun x hx y hy e =>
        h.1 (List.mem_singleton.1 hy ▸ e ▸ hx)⟩
    obtain ⟨has, hlen⟩ := ih hnodup h.2
    refine ⟨has, ?_⟩
    rw [hlen, List.length_append, List.length_singleton, List.length_cons]
    omega

/-- Distinct values are read back from what they are written as. -/
theorem distinctFrom_map {α β : Type} [DecidableEq α] {read : β → Result α} {write : α → β}
    {duplicate : DollError} (hread : ∀ a, read (write a) = .ok a) {result as : List α}
    (h : (result ++ as).Nodup) :
    distinctFrom read duplicate result (as.map write) = .ok (result ++ as) := by
  induction as generalizing result with
  | nil => rw [List.map_nil, distinctFrom, List.append_nil]
  | cons a as ih =>
    have ha : a ∉ result := fun hmem =>
      (List.nodup_append.1 h).2.2 a hmem a List.mem_cons_self rfl
    rw [← List.singleton_append, ← List.append_assoc] at h
    rw [List.map_cons, distinctFrom, hread a, ok_bind, ensure_of ha, ok_bind, ih h,
      List.append_assoc, List.singleton_append]

section

variable [PythonLibrary] (kind : ErrorKind)

/-! ## Text -/

/-- `_text` of work items and checkpoints. -/
def wordsField (name : String) (value : Text) (maximum : Nat) : Result Text := do
  let normalized := joinWords value
  ensure (normalized ≠ [] ∧ normalized.length ≤ maximum) ⟨kind, s!"{name} length is invalid"⟩
  ensure (hasLocalPath normalized = false)
    ⟨kind, s!"{name} must not contain a local absolute path"⟩
  return normalized

/-- A text `_text` returns. -/
def WordsOk (text : Text) (maximum : Nat) : Prop :=
  joinWords text = text ∧ text ≠ [] ∧ text.length ≤ maximum ∧ hasLocalPath text = false

variable {kind}

theorem wordsField_eq_ok {name : String} {value text : Text} {maximum : Nat} :
    wordsField kind name value maximum = .ok text ↔
      joinWords value = text ∧ WordsOk text maximum := by
  simp only [wordsField, check_bind_eq_ok, ensure_eq_ok, pure_eq_ok]
  constructor
  · rintro ⟨⟨hne, hlen⟩, hpath, rfl⟩
    exact ⟨rfl, joinWords_joinWords value, hne, hlen, hpath⟩
  · rintro ⟨rfl, -, hne, hlen, hpath⟩
    exact ⟨⟨hne, hlen⟩, hpath, rfl⟩

theorem wordsField_idem {name : String} {text : Text} {maximum : Nat} (h : WordsOk text maximum) :
    wordsField kind name text maximum = .ok text :=
  wordsField_eq_ok.2 ⟨h.1, h⟩

/-! ## Identifiers -/

variable (kind)

/-- `_uuid`, on text. -/
def uuidField (name : String) (value : Text) : Result RecordId :=
  orFail ⟨kind, s!"{name} is invalid"⟩ (uuid value)

/-- `_reference_ids` of work items and checkpoints, with their `MAX_LINKS`. -/
def referenceIds (maximum : Nat) (name : String) (values : List Text) : Result (List RecordId) := do
  ensure (values.length ≤ maximum) ⟨kind, s!"{name} are invalid"⟩
  distinctFrom (uuidField kind name) ⟨kind, s!"{name} contain duplicates"⟩ [] values

/-- The texts of a JSON list that holds nothing else. -/
def texts? (values : List Json) : Option (List Text) :=
  values.mapM fun value => match value with
    | .str s => some s
    | _ => none

/-- `_metadata_ids` of work items and checkpoints. -/
def metadataIds (maximum : Nat) (metadata : Metadata) (key : String) : Result (List RecordId) :=
  match metadata.get key with
  | .arr values => do
    let values ← orFail ⟨kind, s!"{key} must be an ID list"⟩ (texts? values)
    referenceIds kind maximum key values
  | _ => .error ⟨kind, s!"{key} must be an ID list"⟩

variable {kind}

theorem uuidField_eq_ok {name : String} {value : Text} {id : RecordId} :
    uuidField kind name value = .ok id ↔ uuid value = some id := orFail_eq_ok

/-- A list of references that the services accept. -/
def IdsOk (maximum : Nat) (ids : List RecordId) : Prop := ids.Nodup ∧ ids.length ≤ maximum

/-- What `_reference_ids` returns. -/
theorem referenceIds_ok {maximum : Nat} {name : String} {values : List Text} {ids : List RecordId}
    (h : referenceIds kind maximum name values = .ok ids) :
    IdsOk maximum ids := by
  rw [referenceIds, check_bind_eq_ok, ensure_eq_ok] at h
  obtain ⟨hnodup, hlen⟩ := distinctFrom_nodup List.nodup_nil h.2
  refine ⟨hnodup, ?_⟩
  rw [hlen, List.length_nil]
  omega

theorem referenceIds_uuidText {maximum : Nat} {name : String} {ids : List RecordId}
    (h : IdsOk maximum ids) : referenceIds kind maximum name (ids.map uuidText) = .ok ids := by
  rw [referenceIds, ensure_of (by rw [List.length_map]; exact h.2), ok_bind]
  exact distinctFrom_map (fun id => uuidField_eq_ok.2 (uuid_uuidText id)) (by simpa using h.1)

omit [PythonLibrary] in
theorem texts?_map_str (values : List Text) : texts? (values.map .str) = some values := by
  induction values with
  | nil => rfl
  | cons value values ih =>
    rw [texts?, List.map_cons, List.mapM_cons]
    rw [texts?] at ih
    rw [ih]
    rfl

theorem metadataIds_ofIds {maximum : Nat} {metadata : Metadata} {key : String}
    {ids : List RecordId} (hget : metadata.get key = Json.ofIds ids) (h : IdsOk maximum ids) :
    metadataIds kind maximum metadata key = .ok ids := by
  have htexts : texts? (ids.map fun id => Json.str (uuidText id)) = some (ids.map uuidText) := by
    rw [← texts?_map_str, List.map_map]
    rfl
  rw [metadataIds, hget, Json.ofIds]
  simp only [htexts, orFail, ok_bind]
  exact referenceIds_uuidText h

/-! ## Timestamps -/

/-- `datetime.fromisoformat(value[:-1] + "+00:00")`. -/
def parseUtc (value : Text) : Option Datetime :=
  PythonLibrary.fromisoformat (value.dropLast ++ "+00:00".toList)

/-- The text ends in `Z` and parses to a timestamp at offset zero. -/
def IsUtc (value : Text) : Prop :=
  value.getLast? = some 'Z' ∧ ∃ parsed, parseUtc value = some parsed ∧ parsed.utcoffset = some 0

variable (kind)

/-- `_utc` and `_validate_utc`: `notation` and `unparsable` are the ends of their messages. -/
def utcField (notUtcNotation unparsable : String) (name : String) (value : Text) : Result Text := do
  ensure (value.getLast? = some 'Z') ⟨kind, name ++ notUtcNotation⟩
  let parsed ← orFail ⟨kind, name ++ unparsable⟩ (parseUtc value)
  ensure (parsed.utcoffset = some 0) ⟨kind, s!"{name} must be UTC"⟩
  return value

/-- The instant of a timestamp that has been validated. -/
def instant (value : Text) : Int := ((parseUtc value).map Datetime.instant).getD 0

variable {kind}

theorem utcField_eq_ok {notUtcNotation unparsable name : String} {value text : Text} :
    utcField kind notUtcNotation unparsable name value = .ok text ↔
      text = value ∧ IsUtc value := by
  rw [utcField, check_bind_eq_ok, ensure_eq_ok, bind_eq_ok]
  simp only [orFail_eq_ok, check_bind_eq_ok, ensure_eq_ok, pure_eq_ok]
  constructor
  · rintro ⟨hz, parsed, hparsed, hoffset, rfl⟩
    exact ⟨rfl, hz, parsed, hparsed, hoffset⟩
  · rintro ⟨rfl, hz, parsed, hparsed, hoffset⟩
    exact ⟨hz, parsed, hparsed, hoffset, rfl⟩

theorem utcField_idem {notUtcNotation unparsable name : String} {value : Text} (h : IsUtc value) :
    utcField kind notUtcNotation unparsable name value = .ok value :=
  utcField_eq_ok.2 ⟨rfl, h⟩

end

end DollState
