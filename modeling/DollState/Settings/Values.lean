import DollState.Domain.Fields
import DollState.State.CanonicalJson

/-!
# Values of settings

The checks that the preference, policy and permission services make of keys, texts, JSON values and
permission scopes. What a check has returned, it accepts again and returns unchanged: of a scope that
is because its kind, stripped, makes a text of no more bytes (`validateScope_idem`).

An object is what `json.loads` reads back from the text `json.dumps` writes of it: the same entries,
in an order nothing looks at.
-/

namespace DollState

open StateLib

namespace Settings

def maxKeyLength : Nat := 120
def maxDescriptionLength : Nat := 500
def maxPolicyRuleLength : Nat := 2000
def maxJsonBytes : Nat := 16 * 1024
def maxScopeBytes : Nat := 4096
def maxScopeDepth : Nat := 8
def maxScopeStringLength : Nat := 500

def invalid (message : String) : DollError := ⟨.settingsValidation, message⟩

/-- `_SECRET_SCOPE_KEYS`. -/
def secretScopeKeys : List Text :=
  ["password", "passwd", "secret", "token", "api_key", "apikey", "private_key", "credential",
    "credentials", "authorization", "cookie"].map String.toList

/-! ## Keys and texts -/

/-- `_validate_key`. -/
def validateKey (name : String) (value : Text) : Result Text := do
  let normalized := strip value
  ensure (normalized ≠ [] ∧ normalized.length ≤ maxKeyLength)
    (invalid s!"{name} is empty or too long")
  ensure (isToken normalized = true) (invalid s!"{name} contains unsupported characters")
  return normalized

/-- A key that `_validate_key` returns. -/
def KeyOk (key : Text) : Prop :=
  strip key = key ∧ (key ≠ [] ∧ key.length ≤ maxKeyLength) ∧ isToken key = true

theorem validateKey_eq_ok {name : String} {value key : Text} :
    validateKey name value = .ok key ↔ strip value = key ∧ KeyOk key := by
  simp only [validateKey, check_bind_eq_ok, ensure_eq_ok, pure_eq_ok]
  constructor
  · rintro ⟨hlength, htoken, rfl⟩
    exact ⟨rfl, strip_eq_self (stripped_strip value), hlength, htoken⟩
  · rintro ⟨rfl, -, hlength, htoken⟩
    exact ⟨hlength, htoken, rfl⟩

theorem validateKey_idem {name : String} {key : Text} (h : KeyOk key) :
    validateKey name key = .ok key :=
  validateKey_eq_ok.2 ⟨h.1, h⟩

/-- `_validate_text`. -/
def validateText (name : String) (value : Text) (maximum : Nat) : Result Text := do
  let normalized := joinLines value
  ensure (normalized ≠ [] ∧ normalized.length ≤ maximum)
    (invalid s!"{name} is empty or too long")
  ensure (hasControlCharacter normalized = false) (invalid s!"{name} contains control characters")
  return normalized

/-- `_validate_optional_text`. -/
def validateOptionalText (name : String) (value : Option Text) (maximum : Nat) :
    Result (Option Text) :=
  optionally (fun text => validateText name text maximum) value

/-- `_validate_approval_source`. -/
def validateApprovalSource (value : Text) : Result Text := do
  let safe ← validateKey "approval source" value
  ensure (safe = "management-cli".toList ∨ safe = "management-ui".toList)
    ⟨.forbiddenPermissionMutation,
      "approval source must be a user-controlled management interface"⟩
  return safe

/-- An approval source that `_validate_approval_source` returns. -/
def ApprovalSourceOk (source : Text) : Prop :=
  KeyOk source ∧ (source = "management-cli".toList ∨ source = "management-ui".toList)

theorem validateApprovalSource_eq_ok {value source : Text} :
    validateApprovalSource value = .ok source ↔ strip value = source ∧ ApprovalSourceOk source := by
  simp only [validateApprovalSource, bind_eq_ok, validateKey_eq_ok, ensure_eq_ok, pure_eq_ok,
    exists_const]
  constructor
  · rintro ⟨_, ⟨hvalue, hkey⟩, hsource, rfl⟩
    exact ⟨hvalue, hkey, hsource⟩
  · rintro ⟨hvalue, hkey, hsource⟩
    exact ⟨source, ⟨hvalue, hkey⟩, hsource, rfl⟩

/-- `_validate_optional_utc`. -/
def validateOptionalUtc [PythonLibrary] (name : String) (value : Option Text) :
    Result (Option Text) :=
  optionally (utcField .settingsValidation " must be UTC and end in Z" " is not a valid timestamp"
    name) value

theorem validateOptionalUtc_eq_ok [PythonLibrary] {name : String} {value result : Option Text} :
    validateOptionalUtc name value = .ok result ↔ result = value ∧ ∀ t ∈ value, IsUtc t :=
  optionally_eq_ok fun _ _ => utcField_eq_ok

/-! ## JSON values -/

section

variable [CaseLibrary]

/-- `text.replace(old, new)`, of single characters. -/
def replaceChar (old new : Char) (text : Text) : Text :=
  text.map fun c => if c = old then new else c

/-- The key as it is looked up among the secret ones. -/
def normalizedKey (key : Text) : Text :=
  replaceChar ' ' '_' (replaceChar '-' '_' (CaseLibrary.lower (strip key)))

/-- `value.startswith("/") or _DRIVE_PATH_PATTERN.match(value)`. -/
def isAbsolutePath : Text → Bool
  | '/' :: _ => true
  | c :: ':' :: d :: _ => c.isAlpha && (d == '\\' || d == '/')
  | _ => false

def validateNestedString (value : Text) : Result Unit := do
  ensure (value.length ≤ maxScopeStringLength) (invalid "setting JSON string is too long")
  ensure ((value.any fun c => c.toNat < 32) = false)
    (invalid "setting JSON string contains control characters")
  ensure (isAbsolutePath value = false)
    (invalid "setting JSON must not contain an absolute local path")

def validateNestedKey (key : Text) : Result Unit := do
  ensure (key ≠ []) (invalid "setting JSON keys must be non-empty strings")
  ensure (normalizedKey key ∉ secretScopeKeys) (invalid "setting JSON contains a secret-like key")

mutual

/-- `_validate_nested_json`. -/
def validateNestedJson (depth : Nat) : Json → Result Unit
  | .obj entries => do
    ensure (depth ≤ maxScopeDepth) (invalid "setting JSON nesting is too deep")
    validateNestedEntries depth entries
  | .arr xs => do
    ensure (depth ≤ maxScopeDepth) (invalid "setting JSON nesting is too deep")
    validateNestedElements depth xs
  | .str s => do
    ensure (depth ≤ maxScopeDepth) (invalid "setting JSON nesting is too deep")
    validateNestedString s
  | .null | .bool _ | .int _ | .real _ | .minusZero =>
    ensure (depth ≤ maxScopeDepth) (invalid "setting JSON nesting is too deep")

def validateNestedEntries (depth : Nat) : List (String × Json) → Result Unit
  | [] => .ok ()
  | (key, nested) :: entries => do
    validateNestedKey key.toList
    validateNestedJson (depth + 1) nested
    validateNestedEntries depth entries

def validateNestedElements (depth : Nat) : List Json → Result Unit
  | [] => .ok ()
  | nested :: xs => do
    validateNestedJson (depth + 1) nested
    validateNestedElements depth xs

end

mutual

/-- `json.dumps` can write the value: it refuses integers of more than 4300 digits. -/
def writable : Json → Bool
  | .int i => (Nat.toDigits 10 i.natAbs).length ≤ JsonText.maxDigits
  | .arr xs => writableElements xs
  | .obj entries => writableEntries entries
  | _ => true

def writableElements : List Json → Bool
  | [] => true
  | x :: xs => writable x && writableElements xs

def writableEntries : List (String × Json) → Bool
  | [] => true
  | (_, x) :: entries => writable x && writableEntries entries

end

variable [FloatLibrary]

/-- `_validate_json_value`. -/
def validateJsonValue (value : Json) (maximum : Nat) : Result Json := do
  validateNestedJson 0 value
  ensure (writable value = true) (invalid "setting value must be JSON-compatible")
  ensure (utf8Size (canonicalJson value) ≤ maximum) (invalid s!"setting JSON exceeds {maximum} bytes")
  return value

/-- `_validate_scope`, of an object. -/
def validateScope (scope : Metadata) : Result Metadata := do
  let _ ← validateJsonValue (.obj scope) maxScopeBytes
  match Metadata.get scope "kind" with
  | .str kind => do
    let kind ← validateKey "permission scope kind" kind
    return Metadata.set scope "kind" (.str kind)
  | _ => .error (invalid "permission scope requires a text kind")

/-! ## A scope that has been validated -/

omit [FloatLibrary] in
theorem validateNestedEntries_eq_ok {depth : Nat} {entries : List (String × Json)} {u : Unit} :
    validateNestedEntries depth entries = .ok u ↔ ∀ e ∈ entries,
      validateNestedKey e.1.toList = .ok () ∧ validateNestedJson (depth + 1) e.2 = .ok () := by
  induction entries with
  | nil => simp [validateNestedEntries]
  | cons e entries ih =>
    rw [validateNestedEntries, check_bind_eq_ok, check_bind_eq_ok, ih, List.forall_mem_cons,
      and_assoc]

omit [CaseLibrary] [FloatLibrary] in
theorem writableEntries_iff {entries : List (String × Json)} :
    writableEntries entries = true ↔ ∀ e ∈ entries, writable e.2 = true := by
  induction entries with
  | nil => simp [writableEntries]
  | cons e entries ih => rw [writableEntries, Bool.and_eq_true, ih, List.forall_mem_cons]

omit [CaseLibrary] [FloatLibrary] in
theorem not_isAbsolutePath_of_isToken {s : Text} (h : isToken s = true) :
    isAbsolutePath s = false := by
  cases s with
  | nil => cases h
  | cons c s =>
    simp only [isToken, Bool.and_eq_true, List.all_eq_true] at h
    have hc : c ≠ '/' := by
      rintro rfl
      exact absurd h.1 (by decide)
    unfold isAbsolutePath
    split
    · rename_i heq
      exact absurd (List.cons.inj heq).1 hc
    · rename_i d e rest _ heq
      obtain ⟨rfl, rfl⟩ := List.cons.inj heq
      have he := h.2 e (by simp)
      have hslash : (e == '\\') = false ∧ (e == '/') = false := by
        constructor <;> rw [beq_eq_false_iff_ne] <;> rintro rfl <;> exact absurd he (by decide)
      simp [hslash]
    · rfl

omit [FloatLibrary] in
/-- A key passes as a string inside a value. -/
theorem validateNestedJson_key {key : Text} (h : KeyOk key) :
    validateNestedJson 1 (.str key) = .ok () := by
  obtain ⟨-, ⟨-, hlength⟩, htoken⟩ := h
  have hlength : key.length ≤ maxScopeStringLength := le_trans hlength (by decide)
  simp only [validateNestedJson, validateNestedString, check_bind_eq_ok, ensure_eq_ok]
  have hcontrol : (key.any fun c => c.toNat < 32) = false := by
    simpa using fun c hc => le_trans (by decide : 32 ≤ 33) (toNat_of_isToken htoken c hc).1
  exact ⟨by decide, hlength, hcontrol, not_isAbsolutePath_of_isToken htoken⟩

end

/-! ## The entries of a scope -/

/-- What setting an entry makes of each entry. -/
def replaceEntry (key : String) (w : Json) (entry : String × Json) : String × Json :=
  if entry.1 = key then (key, w) else entry

/-- Setting an entry that is there. -/
theorem Metadata.set_of_get {metadata : Metadata} {key : String} {v w : Json}
    (h : Metadata.get metadata key = v) (hv : v ≠ .null) :
    Metadata.set metadata key w = metadata.map (replaceEntry key w) := by
  have hsome : (metadata.lookup key).isSome = true := by
    unfold Metadata.get at h
    cases hlookup : metadata.lookup key with
    | none =>
      rw [hlookup] at h
      exact absurd h.symm hv
    | some x => rfl
  rw [Metadata.set, if_pos hsome]
  rfl

theorem replaceEntry_replaceEntry (key : String) (w : Json) (e : String × Json) :
    replaceEntry key w (replaceEntry key w e) = replaceEntry key w e := by
  by_cases he : e.1 = key
  · rw [replaceEntry, replaceEntry, if_pos he, if_pos rfl]
  · have hkept : replaceEntry key w e = e := if_neg he
    rw [hkept, hkept]

theorem Metadata.get_eq_of_mem {metadata : Metadata} (h : (metadata.map (·.1)).Nodup)
    {key : String} {v : Json} (hv : (key, v) ∈ metadata) : Metadata.get metadata key = v := by
  rw [Metadata.get, lookup_eq_some_of_mem h hv]
  rfl

/-- Setting an entry keeps the keys and their order. -/
theorem map_fst_replaceEntry (metadata : Metadata) (key : String) (w : Json) :
    (metadata.map (replaceEntry key w)).map (·.1) = metadata.map (·.1) := by
  rw [List.map_map]
  refine List.map_congr_left fun e _ => ?_
  rw [Function.comp_apply, replaceEntry]
  split
  · rename_i he
    exact he.symm
  · rfl

/-- Setting an entry whose value is known changes no other entry. -/
theorem replaceEntry_of_mem {metadata : Metadata} (h : (metadata.map (·.1)).Nodup) {key : String}
    {v w : Json} (hv : Metadata.get metadata key = v) {e : String × Json} (he : e ∈ metadata) :
    replaceEntry key w e = e ∨ e = (key, v) ∧ replaceEntry key w e = (key, w) := by
  by_cases hkey : e.1 = key
  · refine .inr ⟨Prod.ext hkey ?_, if_pos hkey⟩
    have hget : Metadata.get metadata key = e.2 := Metadata.get_eq_of_mem h (hkey ▸ he)
    rw [← hv, hget]
  · exact .inl (if_neg hkey)

theorem Metadata.mem_of_get {metadata : Metadata} {key : String} {v : Json}
    (h : Metadata.get metadata key = v) (hv : v ≠ .null) : (key, v) ∈ metadata := by
  unfold Metadata.get at h
  cases hlookup : metadata.lookup key with
  | none =>
    rw [hlookup] at h
    exact absurd h.symm hv
  | some x =>
    rw [hlookup, Option.getD_some] at h
    subst h
    obtain ⟨k, hk, hmem⟩ := List.lookup_eq_some_iff.1 hlookup
    simp_all

section

variable [CaseLibrary] [FloatLibrary]

/-- A scope that `_validate_scope` accepts and returns unchanged. -/
def ScopeOk (scope : Metadata) : Prop :=
  (Json.obj scope).DistinctKeys ∧ validateScope scope = .ok scope

theorem validateScope_eq_ok {scope safe : Metadata} :
    validateScope scope = .ok safe ↔
      (∀ e ∈ scope, validateNestedKey e.1.toList = .ok () ∧ validateNestedJson 1 e.2 = .ok ()) ∧
      (∀ e ∈ scope, writable e.2 = true) ∧ utf8Size (canonicalJson (.obj scope)) ≤ maxScopeBytes ∧
      ∃ kind, Metadata.get scope "kind" = .str kind ∧ KeyOk (strip kind) ∧
        safe = Metadata.set scope "kind" (.str (strip kind)) := by
  simp only [validateScope, validateJsonValue, validateNestedJson, writable, bind_eq_ok,
    ensure_eq_ok, pure_eq_ok, validateNestedEntries_eq_ok, writableEntries_iff, exists_const,
    Nat.zero_le, true_and, Nat.zero_add]
  constructor
  · rintro ⟨_, ⟨hnested, hwritable, hsize, rfl⟩, h⟩
    refine ⟨hnested, hwritable, hsize, ?_⟩
    split at h
    · rename_i kind hkind
      obtain ⟨key, hkey, h⟩ := bind_eq_ok.1 h
      obtain ⟨rfl, hok⟩ := validateKey_eq_ok.1 hkey
      exact ⟨kind, hkind, hok, (pure_eq_ok.1 h).symm⟩
    · cases h
  · rintro ⟨hnested, hwritable, hsize, kind, hkind, hok, rfl⟩
    refine ⟨_, ⟨hnested, hwritable, hsize, rfl⟩, ?_⟩
    rw [hkind]
    exact bind_eq_ok.2 ⟨_, validateKey_eq_ok.2 ⟨rfl, hok⟩, rfl⟩

/-- What `_validate_scope` returns, it accepts again and returns unchanged. -/
theorem validateScope_idem {scope safe : Metadata} (hscope : (Json.obj scope).DistinctKeys)
    (h : validateScope scope = .ok safe) : ScopeOk safe := by
  obtain ⟨hnested, hwritable, hsize, kind, hkind, hok, rfl⟩ := validateScope_eq_ok.1 h
  rw [Metadata.set_of_get hkind (by simp)]
  have hreplaced : ∀ e ∈ scope, _ := fun e he =>
    replaceEntry_of_mem hscope.1 hkind (w := .str (strip kind)) he
  have hmem : ("kind", Json.str kind) ∈ scope := Metadata.mem_of_get hkind (by simp)
  generalize hset : replaceEntry "kind" (.str (strip kind)) = replaced at hreplaced ⊢
  have hkeys : (scope.map replaced).map (·.1) = scope.map (·.1) := by
    rw [← hset, map_fst_replaceEntry]
  have hdistinct : (Json.obj (scope.map replaced)).DistinctKeys := by
    refine ⟨hkeys ▸ hscope.1, Json.entriesDistinctKeys_iff.2 ?_⟩
    refine List.forall_mem_map.2 fun e he => ?_
    obtain hsame | ⟨-, hkind⟩ := hreplaced e he
    · rw [hsame]
      exact Json.entriesDistinctKeys_iff.1 hscope.2 e he
    · rw [hkind]
      trivial
  have hget : Metadata.get (scope.map replaced) "kind" = .str (strip kind) :=
    Metadata.get_eq_of_mem hdistinct.1 (List.mem_map.2 ⟨_, hmem, hset ▸ if_pos rfl⟩)
  refine ⟨hdistinct, validateScope_eq_ok.2 ⟨?_, ?_, ?_, strip kind, hget, hok.1.symm ▸ hok, ?_⟩⟩
  · refine List.forall_mem_map.2 fun e he => ?_
    obtain hsame | ⟨rfl, hkind⟩ := hreplaced e he
    · rw [hsame]
      exact hnested e he
    · rw [hkind]
      exact ⟨(hnested _ he).1, validateNestedJson_key hok⟩
  · refine List.forall_mem_map.2 fun e he => ?_
    obtain hsame | ⟨-, hkind⟩ := hreplaced e he
    · rw [hsame]
      exact hwritable e he
    · rw [hkind]
      rfl
  · -- the stripped kind is a part of the kind that was given
    refine le_trans ?_ hsize
    rw [utf8Size_canonicalJson_obj, utf8Size_canonicalJson_obj, List.length_map, List.map_map]
    have hsum : (scope.map (entrySize ∘ replaced)).sum ≤ (scope.map entrySize).sum := by
      refine List.sum_le_sum fun e he => ?_
      obtain hsame | ⟨rfl, hkind⟩ := hreplaced e he
      · rw [Function.comp_apply, hsame]
      · rw [Function.comp_apply, hkind]
        exact Nat.add_le_add_left (utf8Size_quote_le (strip_sublist kind)) _
    omega
  · rw [hok.1, Metadata.set_of_get hget (by simp), List.map_map, hset]
    refine List.map_congr_left fun e _ => ?_
    rw [Function.comp_apply, ← hset, replaceEntry_replaceEntry]

end

end Settings

end DollState
