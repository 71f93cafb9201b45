import Mathlib.Tactic.NormNum
import Mathlib.Tactic.Ring
import DollState.State.Text

/-!
# Record identifiers

A record identifier is a UUID, a number of 128 bits. Its text is the canonical one (`uuidText`);
`uuid` accepts the other spellings the library accepts, and reads a canonical text back
(`uuid_uuidText`).
-/

namespace DollState

abbrev RecordId := BitVec 128

instance : LawfulBEq RecordId := inferInstance

/-- A condition on the identifiers of a list is decided along the list, not over all of them. -/
instance (priority := 2000) decidableForallIds (p : RecordId → Prop) [DecidablePred p]
    (ids : List RecordId) : Decidable (∀ id ∈ ids, p id) := List.decidableBAll p ids

/-- The lower-case hexadecimal digit of a number below 16. -/
def hexDigit (n : Nat) : Char :=
  if n < 10 then Char.ofNat (48 + n) else Char.ofNat (87 + n)

/-- The value of a hexadecimal digit of either case. -/
def hexValue? (c : Char) : Option Nat :=
  if '0' ≤ c ∧ c ≤ '9' then some (c.toNat - 48)
  else if 'a' ≤ c ∧ c ≤ 'f' then some (c.toNat - 87)
  else if 'A' ≤ c ∧ c ≤ 'F' then some (c.toNat - 55)
  else none

/-- The `k` last hexadecimal digits of `n`. -/
def hexDigits : Nat → Nat → Text
  | 0, _ => []
  | k + 1, n => hexDigits k (n / 16) ++ [hexDigit (n % 16)]

/-- The number a text of hexadecimal digits stands for, `none` if another character is in it. -/
def hexNumber? (digits : Text) : Option Nat :=
  digits.foldl (fun acc c => acc.bind fun n => (hexValue? c).map (16 * n + ·)) (some 0)

/-- `str(UUID(int=id))`. -/
def uuidText (id : RecordId) : Text :=
  hexDigits 8 (id.toNat / 16 ^ 24) ++ '-' :: hexDigits 4 (id.toNat / 16 ^ 20) ++
    '-' :: hexDigits 4 (id.toNat / 16 ^ 16) ++ '-' :: hexDigits 4 (id.toNat / 16 ^ 12) ++
    '-' :: hexDigits 12 id.toNat

/-- `text.replace(pattern, "")`; `skip` characters of a match are still to be dropped. -/
def removeAll (pattern : Text) : Nat → Text → Text
  | _, [] => []
  | skip + 1, _ :: cs => removeAll pattern skip cs
  | 0, c :: cs =>
    if pattern.isPrefixOf (c :: cs) then removeAll pattern (pattern.length - 1) cs
    else c :: removeAll pattern 0 cs

/-- `text.strip("\x7b\x7d")`. -/
def stripBraces (s : Text) : Text :=
  (s.dropWhile fun c => c == '{' || c == '}').rdropWhile fun c => c == '{' || c == '}'

/-- `UUID(text)`, `none` for a `ValueError`. -/
def uuid [PythonLibrary] (text : Text) : Option RecordId :=
  let hex := (stripBraces (removeAll "uuid:".toList 0 (removeAll "urn:".toList 0 text))).filter
    (· != '-')
  if hex.length ≠ 32 then none
  else
    match hexNumber? hex with
    | some n => some (BitVec.ofNat 128 n)
    | none => (PythonLibrary.intBase16 hex).bind fun n =>
        if 0 ≤ n ∧ n < 2 ^ 128 then some (BitVec.ofNat 128 n.toNat) else none

/-! ## Reading a canonical text back -/

/-- `c` is a lower-case hexadecimal digit. -/
def IsHexDigit (c : Char) : Prop := ∃ n < 16, c = hexDigit n

theorem hexValue?_hexDigit : ∀ n < 16, hexValue? (hexDigit n) = some n := by decide

theorem IsHexDigit.ne {c d : Char} (h : IsHexDigit c) (hd : ∀ n < 16, hexDigit n ≠ d) : c ≠ d := by
  obtain ⟨n, hn, rfl⟩ := h
  exact hd n hn

theorem isHexDigit_of_mem_hexDigits {k n : Nat} {c : Char} (h : c ∈ hexDigits k n) :
    IsHexDigit c := by
  induction k generalizing n with
  | zero => simp [hexDigits] at h
  | succ k ih =>
    rcases List.mem_append.1 h with h | h
    · exact ih h
    · exact ⟨n % 16, Nat.mod_lt _ (by decide), List.mem_singleton.1 h⟩

theorem length_hexDigits (k n : Nat) : (hexDigits k n).length = k := by
  induction k generalizing n with
  | zero => rfl
  | succ k ih => simp [hexDigits, ih]

/-- Reading the next `k` digits of a number. -/
theorem foldl_hexDigits (a k n : Nat) :
    (hexDigits k n).foldl (fun acc c => acc.bind fun m => (hexValue? c).map (16 * m + ·)) (some a) =
      some (16 ^ k * a + n % 16 ^ k) := by
  induction k generalizing n with
  | zero => simp [hexDigits, Nat.mod_one]
  | succ k ih =>
    have hdigit := hexValue?_hexDigit (n % 16) (Nat.mod_lt _ (by decide))
    rw [hexDigits, List.foldl_append, ih, List.foldl_cons, List.foldl_nil, Option.bind_some,
      hdigit, Option.map_some, Option.some.injEq]
    have hmod : n % 16 ^ (k + 1) = 16 * (n / 16 % 16 ^ k) + n % 16 := by
      rw [pow_succ', Nat.mod_mul, Nat.add_comm]
    rw [hmod, pow_succ']
    ring

theorem removeAll_eq_self {p : Char} {ps text : Text} (h : p ∉ text) :
    removeAll (p :: ps) 0 text = text := by
  induction text with
  | nil => rfl
  | cons c cs ih =>
    obtain ⟨hc, hcs⟩ : p ≠ c ∧ p ∉ cs := by simpa [not_or] using h
    have hscheme : (p :: ps).isPrefixOf (c :: cs) = false := by
      simp [List.isPrefixOf, hc]
    rw [removeAll, hscheme, if_neg Bool.false_ne_true, ih hcs]

theorem stripBraces_eq_self {s : Text} (hopen : '{' ∉ s) (hclose : '}' ∉ s) :
    stripBraces s = s := by
  have hnot : ∀ c ∈ s, ¬ (c == '{' || c == '}') = true := by
    intro c hc
    simp only [Bool.or_eq_true, beq_iff_eq, not_or]
    exact ⟨fun e => hopen (e ▸ hc), fun e => hclose (e ▸ hc)⟩
  have hdrop : s.dropWhile (fun c => c == '{' || c == '}') = s := by
    cases s with
    | nil => rfl
    | cons c cs => exact List.dropWhile_cons_of_neg (hnot c List.mem_cons_self)
  rw [stripBraces, hdrop, List.rdropWhile_eq_self_iff]
  exact fun hne => hnot _ (List.getLast_mem hne)

theorem isHexDigit_or_dash_of_mem_uuidText {id : RecordId} {c : Char} (h : c ∈ uuidText id) :
    IsHexDigit c ∨ c = '-' := by
  simp only [uuidText, List.mem_append, List.mem_cons] at h
  rcases h with (((h | h | h) | h | h) | h | h) | h | h
  all_goals first
    | exact .inr h
    | exact .inl (isHexDigit_of_mem_hexDigits h)

theorem not_mem_uuidText {id : RecordId} {d : Char} (hd : ∀ n < 16, hexDigit n ≠ d)
    (hdash : d ≠ '-') : d ∉ uuidText id := fun h =>
  (isHexDigit_or_dash_of_mem_uuidText h).elim (fun hx => hx.ne hd rfl) hdash

theorem filter_hexDigits (k n : Nat) : (hexDigits k n).filter (· != '-') = hexDigits k n := by
  rw [List.filter_eq_self]
  intro c hc
  simpa using (isHexDigit_of_mem_hexDigits hc).ne (d := '-') (by decide)

/-- The digits of a canonical text are those of the number. -/
theorem hexNumber?_uuidText (id : RecordId) :
    hexNumber? ((uuidText id).filter (· != '-')) = some id.toNat := by
  have hlt : id.toNat < 2 ^ 128 := id.isLt
  have hdigits : (uuidText id).filter (· != '-') =
      hexDigits 8 (id.toNat / 16 ^ 24) ++ hexDigits 4 (id.toNat / 16 ^ 20) ++
        hexDigits 4 (id.toNat / 16 ^ 16) ++ hexDigits 4 (id.toNat / 16 ^ 12) ++
        hexDigits 12 id.toNat := by
    simp [uuidText, filter_hexDigits]
  rw [hdigits, hexNumber?]
  simp only [List.foldl_append, foldl_hexDigits]
  congr 1
  norm_num at hlt ⊢
  omega

/-- `UUID(str(id))` is `id`. -/
@[simp] theorem uuid_uuidText [PythonLibrary] (id : RecordId) : uuid (uuidText id) = some id := by
  have hu : 'u' ∉ uuidText id := not_mem_uuidText (by decide) (by decide)
  have hbraces : stripBraces (uuidText id) = uuidText id :=
    stripBraces_eq_self (not_mem_uuidText (by decide) (by decide))
      (not_mem_uuidText (by decide) (by decide))
  have hurn : removeAll "urn:".toList 0 (uuidText id) = uuidText id := removeAll_eq_self hu
  have huuid : removeAll "uuid:".toList 0 (uuidText id) = uuidText id := removeAll_eq_self hu
  have hlen : ((uuidText id).filter (· != '-')).length = 32 := by
    simp [uuidText, filter_hexDigits, length_hexDigits]
  simp only [uuid, hurn, huuid, hbraces, hlen, ne_eq, not_true_eq_false, if_false,
    hexNumber?_uuidText]
  simp

theorem uuidText_ne_nil (id : RecordId) : uuidText id ≠ [] := fun h => by
  have hlen := congrArg List.length h
  simp [uuidText, length_hexDigits] at hlen

theorem uuidText_injective : Function.Injective uuidText := by
  intro a b h
  have hab : hexNumber? ((uuidText a).filter (· != '-')) =
      hexNumber? ((uuidText b).filter (· != '-')) := by rw [h]
  rw [hexNumber?_uuidText, hexNumber?_uuidText, Option.some.injEq] at hab
  exact BitVec.eq_of_toNat_eq hab

/-- The identifier a text is the canonical text of. -/
def canonicalId? [PythonLibrary] (text : Text) : Option RecordId :=
  (uuid text).filter fun id => uuidText id = text

@[simp] theorem canonicalId?_uuidText [PythonLibrary] (id : RecordId) :
    canonicalId? (uuidText id) = some id := by
  simp [canonicalId?]

theorem canonicalId?_eq_some [PythonLibrary] {text : Text} {id : RecordId} :
    canonicalId? text = some id ↔ text = uuidText id := by
  constructor
  · intro h
    have := (Option.filter_eq_some_iff.1 h).2
    simpa [eq_comm] using this
  · rintro rfl
    exact canonicalId?_uuidText id

end DollState
