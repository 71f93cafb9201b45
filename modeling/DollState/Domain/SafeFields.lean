import DollState.Audit.Events

/-!
# Fields that may hold nothing unsafe

The checks that the instruction-origin and truth services make of single fields: text without
secrets and local paths, identifiers, digests, timestamps in any zone, identifiers of records in any
letter case. As in `Fields`, the error class is a parameter, and a validator accepts what it returned.
-/

namespace DollState

open StateLib

/-! ## Digests and times -/

/-- `sha256:[0-9a-f]{64}` matches the whole text. -/
def isFingerprint (value : Text) : Bool :=
  "sha256:".toList.isPrefixOf value && (value.drop 7).length = 64 &&
    (value.drop 7).all fun c => c.isDigit || ('a' ≤ c && c ≤ 'f')

theorem isFingerprint_chars {text : Text} (h : isFingerprint text = true) :
    ∀ c ∈ text, 33 ≤ c.toNat ∧ c.toNat < 128 ∧ c.isUpper = false ∧ c ≠ '[' := by
  simp only [isFingerprint, Bool.and_eq_true, List.isPrefixOf_iff_prefix, List.all_eq_true,
    Bool.or_eq_true, decide_eq_true_eq] at h
  obtain ⟨⟨⟨rest, rfl⟩, -⟩, hrest⟩ := h
  intro c hc
  rcases List.mem_append.1 hc with hc | hc
  · have hscheme : "sha256:".toList = ['s', 'h', 'a', '2', '5', '6', ':'] := rfl
    have hall : ∀ c ∈ ['s', 'h', 'a', '2', '5', '6', ':'],
        33 ≤ c.toNat ∧ c.toNat < 128 ∧ c.isUpper = false ∧ c ≠ '[' := by simp
    exact hall c (hscheme ▸ hc)
  · have hhex := hrest c hc
    simp only [Char.isDigit, Bool.and_eq_true, decide_eq_true_eq, Char.le_def, ge_iff_le,
      UInt32.le_iff_toNat_le] at hhex
    have hval : c.toNat = c.val.toNat := rfl
    simp only [show 'a'.val.toNat = 97 from rfl, show 'f'.val.toNat = 102 from rfl,
      show '0'.val.toNat = 48 from rfl, show '9'.val.toNat = 57 from rfl] at hhex
    have hrange : 33 ≤ c.toNat ∧ c.toNat < 128 ∧ ¬ (65 ≤ c.toNat ∧ c.toNat ≤ 90) ∧
        c.toNat ≠ 91 := by omega
    obtain ⟨hlow, hhigh, hupper, hbracket⟩ := hrange
    refine ⟨hlow, hhigh, ?_, ?_⟩
    · simp only [Char.isUpper, decide_eq_false_iff_not, ge_iff_le, UInt32.le_iff_toNat_le,
        show 'A'.val.toNat = 65 from rfl, show 'Z'.val.toNat = 90 from rfl]
      omega
    · rintro rfl
      exact hbracket rfl

/-- `value.replace("Z", "+00:00")`. -/
def replaceZulu (value : Text) : Text :=
  value.flatMap fun c => if c = 'Z' then "+00:00".toList else [c]

/-- Conversion and notation of times. -/
class UtcLibrary where
  /-- `value.astimezone(UTC).isoformat().replace("+00:00", "Z")`, `none` for an `OverflowError`. -/
  utcText : Datetime → Option Text

/-- What is documented of letter case: ASCII text without capital letters is its own lower case. -/
structure LawfulCase [CaseLibrary] : Prop where
  lower : ∀ text : Text, (∀ c ∈ text, c.toNat < 128 ∧ c.isUpper = false) →
    CaseLibrary.lower text = text

/-- What is documented of times: the notation of a time in UTC is parsed as that time. -/
structure LawfulUtc [PythonLibrary] [UtcLibrary] : Prop where
  utcText : ∀ value text, UtcLibrary.utcText value = some text →
    ∃ parsed, PythonLibrary.fromisoformat (replaceZulu text) = some parsed ∧
      parsed.utcoffset ≠ none ∧ UtcLibrary.utcText parsed = some text

/-! ## Unsafe text -/

/-- `[\x00-\x08\x0b\x0c\x0e-\x1f\x7f]` matches somewhere. -/
def hasControl (value : Text) : Bool :=
  value.any fun c => c.toNat ≤ 8 || c.toNat == 11 || c.toNat == 12 ||
    (14 ≤ c.toNat && c.toNat ≤ 31) || c.toNat == 127

section

variable [PythonLibrary]

/-- `(?i)\b[A-Z]:\\(?:[^\\\s]+\\)*[^\\\s]+` matches somewhere; `prev` is the character before. -/
def windowsFileSearch : Option Char → Text → Bool
  | _, [] => false
  | prev, c :: cs =>
    (isDriveLetter c && prev.all (fun p => !isWordChar p) &&
        match cs with
        | ':' :: '\\' :: n :: _ => !(n == '\\' || isSpace n)
        | _ => false) ||
      windowsFileSearch (some c) cs

/-- `_reject_local_path` raises. -/
def isLocalPath (value : Text) : Bool :=
  contains "file://".toList value || posixPathSearch none value || windowsFileSearch none value

variable [Audit.AuditRules] (kind : ErrorKind)

/-- `_reject_secret_text` or `_reject_local_path` raises. -/
def isUnsafe (value : Text) : Bool := Audit.AuditRules.isSecret value || isLocalPath value

/-- The checks of a text that has been normalised. -/
def safeText (name : String) (normalized : Text) (maximum : Nat) : Result Text := do
  ensure (normalized ≠ []) ⟨kind, s!"{name} must not be blank"⟩
  ensure (normalized.length ≤ maximum) ⟨kind, s!"{name} exceeds {maximum} characters"⟩
  ensure (hasControl normalized = false) ⟨kind, s!"{name} contains control characters"⟩
  ensure (isUnsafe normalized = false) ⟨kind, s!"{name} contains unsafe data"⟩
  return normalized

/-- `_validate_text` and `_validate_identifier`. -/
def safeWords (name : String) (value : Text) (maximum : Nat) : Result Text :=
  safeText kind name (joinWords value) maximum

/-- `_validate_content`. -/
def safeLines (name : String) (value : Text) (maximum : Nat) : Result Text :=
  safeText kind name (joinLines value) maximum

/-- A text that the checks accept. -/
structure SafeText (text : Text) (maximum : Nat) : Prop where
  ne_nil : text ≠ []
  length : text.length ≤ maximum
  control : hasControl text = false
  safe : isUnsafe text = false

variable {kind}

theorem safeText_eq_ok {name : String} {normalized text : Text} {maximum : Nat} :
    safeText kind name normalized maximum = .ok text ↔
      text = normalized ∧ SafeText normalized maximum := by
  simp only [safeText, check_bind_eq_ok, ensure_eq_ok, pure_eq_ok]
  constructor
  · rintro ⟨hne, hlength, hcontrol, hsafe, rfl⟩
    exact ⟨rfl, hne, hlength, hcontrol, hsafe⟩
  · rintro ⟨rfl, h⟩
    exact ⟨h.ne_nil, h.length, h.control, h.safe, rfl⟩

/-- A text that `_validate_text` returns. -/
def SafeWords (text : Text) (maximum : Nat) : Prop := joinWords text = text ∧ SafeText text maximum

/-- A text that `_validate_content` returns. -/
def SafeLines (text : Text) (maximum : Nat) : Prop := joinLines text = text ∧ SafeText text maximum

theorem safeWords_eq_ok {name : String} {value text : Text} {maximum : Nat} :
    safeWords kind name value maximum = .ok text ↔
      joinWords value = text ∧ SafeWords text maximum := by
  rw [safeWords, safeText_eq_ok]
  constructor
  · rintro ⟨rfl, h⟩
    exact ⟨rfl, joinWords_joinWords value, h⟩
  · rintro ⟨rfl, -, h⟩
    exact ⟨rfl, h⟩

theorem safeWords_idem {name : String} {text : Text} {maximum : Nat} (h : SafeWords text maximum) :
    safeWords kind name text maximum = .ok text := safeWords_eq_ok.2 ⟨h.1, h⟩

theorem safeLines_eq_ok {name : String} {value text : Text} {maximum : Nat} :
    safeLines kind name value maximum = .ok text ↔
      joinLines value = text ∧ SafeLines text maximum := by
  rw [safeLines, safeText_eq_ok]
  constructor
  · rintro ⟨rfl, h⟩
    exact ⟨rfl, joinLines_joinLines value, h⟩
  · rintro ⟨rfl, -, h⟩
    exact ⟨rfl, h⟩

theorem safeLines_idem {name : String} {text : Text} {maximum : Nat} (h : SafeLines text maximum) :
    safeLines kind name text maximum = .ok text := safeLines_eq_ok.2 ⟨h.1, h⟩

end

/-! ## Digests, times and identifiers of records -/

section

variable [CaseLibrary] (kind : ErrorKind)

/-- `_validate_optional_hash`, of a text that is given. -/
def contentHash (name : String) (value : Text) : Result Text := do
  let normalized := CaseLibrary.lower (strip value)
  ensure (isFingerprint normalized = true) ⟨kind, s!"{name} must be a sha256 digest"⟩
  return normalized

variable {kind}

theorem isFingerprint_of_contentHash {name : String} {value text : Text}
    (h : contentHash kind name value = .ok text) : isFingerprint text = true := by
  simp only [contentHash, check_bind_eq_ok, ensure_eq_ok, pure_eq_ok] at h
  obtain ⟨his, rfl⟩ := h
  exact his

theorem contentHash_idem (hcase : LawfulCase) {name : String} {text : Text}
    (h : isFingerprint text = true) : contentHash kind name text = .ok text := by
  have hchars := isFingerprint_chars h
  have hspace : ∀ c ∈ text, isSpace c = false := fun c hc =>
    not_isSpace_of_lt (hchars c hc).1 (hchars c hc).2.1
  have hstrip : strip text = text := strip_eq_self
    ⟨fun c hc => hspace c (List.mem_of_mem_head? hc), fun c hc => hspace c (List.mem_of_getLast? hc)⟩
  have hlower : CaseLibrary.lower text = text :=
    hcase.lower text fun c hc => ⟨(hchars c hc).2.1, (hchars c hc).2.2.1⟩
  rw [contentHash, hstrip, hlower, ensure_of h]
  rfl

variable [PythonLibrary] (kind)

/-- `_validate_uuid`: the identifier, in canonical form but for the letter case. -/
def anyCaseUuid (name : String) (value : Text) : Result RecordId := do
  let parsed ← orFail ⟨kind, s!"{name} must be a UUID string"⟩ (uuid value)
  ensure (uuidText parsed = CaseLibrary.lower value)
    ⟨kind, s!"{name} must use canonical UUID form"⟩
  return parsed

variable {kind}

theorem anyCaseUuid_eq_ok {name : String} {value : Text} {id : RecordId} :
    anyCaseUuid kind name value = .ok id ↔
      uuid value = some id ∧ uuidText id = CaseLibrary.lower value := by
  simp only [anyCaseUuid, bind_eq_ok, exists_const, orFail_eq_ok, ensure_eq_ok, pure_eq_ok]
  constructor
  · rintro ⟨id, hid, htext, rfl⟩
    exact ⟨hid, htext⟩
  · rintro ⟨hid, htext⟩
    exact ⟨id, hid, htext, rfl⟩

omit [CaseLibrary] [PythonLibrary] in
theorem isUpper_of_mem_uuidText {id : RecordId} {c : Char} (h : c ∈ uuidText id) :
    c.toNat < 128 ∧ c.isUpper = false := by
  rcases isHexDigit_or_dash_of_mem_uuidText h with ⟨n, hn, rfl⟩ | rfl
  · have hdigits : ∀ n < 16, (hexDigit n).toNat < 128 ∧ (hexDigit n).isUpper = false := by decide
    exact hdigits n hn
  · decide

omit [PythonLibrary] in
theorem lower_uuidText (hcase : LawfulCase) (id : RecordId) :
    CaseLibrary.lower (uuidText id) = uuidText id :=
  hcase.lower _ fun _ => isUpper_of_mem_uuidText

theorem anyCaseUuid_uuidText (hcase : LawfulCase) (name : String) (id : RecordId) :
    anyCaseUuid kind name (uuidText id) = .ok id :=
  anyCaseUuid_eq_ok.2 ⟨uuid_uuidText id, (lower_uuidText hcase id).symm⟩

variable [UtcLibrary] (kind)

/-- `_validate_optional_utc`, of a text that is given. -/
def utcText (name : String) (value : Text) : Result Text :=
  match PythonLibrary.fromisoformat (replaceZulu value) with
  | none => .error ⟨kind, s!"{name} must be an ISO 8601 timestamp"⟩
  | some parsed => do
    ensure (parsed.utcoffset ≠ none) ⟨kind, s!"{name} must include a timezone"⟩
    orFail ⟨.overflow, "date value out of range"⟩ (UtcLibrary.utcText parsed)

variable {kind}

omit [CaseLibrary] in
/-- A text that `_validate_optional_utc` returns is one that it returns for itself. -/
theorem utcText_idem (hutc : LawfulUtc) {name name' : String} {value text : Text}
    (h : utcText kind name value = .ok text) : utcText kind name' text = .ok text := by
  unfold utcText at h ⊢
  split at h
  · cases h
  · obtain ⟨-, htext⟩ := check_bind_eq_ok.1 h
    obtain ⟨parsed, hparsed, hoffset, hagain⟩ := hutc.utcText _ _ (orFail_eq_ok.1 htext)
    rw [hparsed]
    exact check_bind_eq_ok.2 ⟨ensure_of hoffset _, orFail_eq_ok.2 hagain⟩

end

end DollState
