import Mathlib.Data.List.Basic
import Mathlib.Data.List.TakeWhile
import Mathlib.Data.List.Sort

/-!
# JSON texts

Reading and writing JSON texts as Python's `json` does. A decoded string is a list of code points,
since an escape may denote an unpaired surrogate, which no text holds; a float is kept as its
literal. `decode` takes the number of nested containers that the recursion limit lets it enter, and
the hook that turns the pairs of an object into its entries.

The decoder only looks at the text up to the value it returns: a text that has been read is read the
same with more behind it (`value_append`), and so no proper prefix of the text of an object is itself
a JSON text (`decode_prefix`).
-/

namespace StateLib

namespace JsonText

/-- An element of a Python string: a character or an unpaired surrogate. -/
inductive CodePoint where
  | scalar (c : Char)
  | surrogate (n : Nat)
deriving DecidableEq, Repr

abbrev Str := List CodePoint

instance lawfulBEqStr : LawfulBEq Str := inferInstance

/-- A text as a string. -/
def Str.ofText (text : List Char) : Str := text.map .scalar

/-- `.encode("utf-8")` followed by `.decode("utf-8")`: `none` for an unpaired surrogate. -/
def Str.toText? (s : Str) : Option (List Char) :=
  s.mapM fun
    | .scalar c => some c
    | .surrogate _ => none

/-- A JSON value whose strings are of type `S`. -/
inductive Value (S : Type) where
  | null
  | bool (b : Bool)
  | int (i : Int)
  | float (literal : List Char)
  | str (s : S)
  | arr (xs : List (Value S))
  | obj (entries : List (S × Value S))

/-- The string that a value is. -/
def Value.str? {S : Type} : Value S → Option S
  | .str s => some s
  | _ => none

section

variable {S : Type} [DecidableEq S]

mutual

/-- Equality of values, decided. -/
def Value.beq : Value S → Value S → Bool
  | .null, .null => true
  | .bool a, .bool b => a = b
  | .int a, .int b => a = b
  | .float a, .float b => a = b
  | .str a, .str b => a = b
  | .arr a, .arr b => beqAll a b
  | .obj a, .obj b => beqEntries a b
  | _, _ => false

def beqAll : List (Value S) → List (Value S) → Bool
  | [], [] => true
  | v :: vs, w :: ws => v.beq w && beqAll vs ws
  | _, _ => false

def beqEntries : List (S × Value S) → List (S × Value S) → Bool
  | [], [] => true
  | (a, v) :: vs, (b, w) :: ws => a = b && v.beq w && beqEntries vs ws
  | _, _ => false

end

mutual

theorem Value.beq_iff (v w : Value S) : v.beq w = true ↔ v = w := by
  cases v <;> cases w <;> simp [Value.beq, beqAll_iff, beqEntries_iff]

theorem beqAll_iff (vs ws : List (Value S)) : beqAll vs ws = true ↔ vs = ws := by
  cases vs <;> cases ws <;> simp [beqAll, beqAll_iff, Value.beq_iff]

theorem beqEntries_iff (vs ws : List (S × Value S)) : beqEntries vs ws = true ↔ vs = ws := by
  cases vs <;> cases ws <;> simp [beqEntries, beqEntries_iff, Value.beq_iff, Prod.ext_iff]

end

instance : DecidableEq (Value S) := fun v w => decidable_of_iff _ (v.beq_iff w)

end

/-! ## Strings -/

def hexDigit? (c : Char) : Option Nat :=
  if '0' ≤ c ∧ c ≤ '9' then some (c.toNat - '0'.toNat)
  else if 'a' ≤ c ∧ c ≤ 'f' then some (c.toNat - 'a'.toNat + 10)
  else if 'A' ≤ c ∧ c ≤ 'F' then some (c.toNat - 'A'.toNat + 10)
  else none

/-- The code unit of `\uabcd`. -/
def codeUnit? (a b c d : Char) : Option CodePoint := do
  let n := (((← hexDigit? a) * 16 + (← hexDigit? b)) * 16 + (← hexDigit? c)) * 16 + (← hexDigit? d)
  return if 0xd800 ≤ n ∧ n ≤ 0xdfff then .surrogate n else .scalar (Char.ofNat n)

/-- The character that a backslash and `c` stand for. -/
def unescape? (c : Char) : Option Char :=
  if c = '"' ∨ c = '\\' ∨ c = '/' then some c
  else if c = 'b' then some '\x08'
  else if c = 'f' then some '\x0c'
  else if c = 'n' then some '\n'
  else if c = 'r' then some '\r'
  else if c = 't' then some '\t'
  else none

/-- The code units of a string up to its closing quote, and what follows it. -/
def units : List Char → Option (Str × List Char)
  | [] => none
  | c :: s =>
    if c = '"' then some ([], s)
    else if c = '\\' then
      match s with
      | 'u' :: a :: b :: d :: e :: s => do
        let unit ← codeUnit? a b d e
        let (rest, s) ← units s
        return (unit :: rest, s)
      | d :: s => do
        let unit ← unescape? d
        let (rest, s) ← units s
        return (.scalar unit :: rest, s)
      | [] => none
    else if c.toNat < 32 then none
    else do
      let (rest, s) ← units s
      return (.scalar c :: rest, s)

example : units ['a', '\\', 'n', '"', ','] = some ([.scalar 'a', .scalar '\n'], [',']) := by
  simp [units, unescape?]

/-- A high surrogate and a low one after it are one character. -/
def pair : Str → Str
  | .surrogate h :: .surrogate l :: s =>
    if h < 0xdc00 ∧ 0xdc00 ≤ l then
      .scalar (Char.ofNat (0x10000 + (h - 0xd800) * 0x400 + (l - 0xdc00))) :: pair s
    else .surrogate h :: pair (.surrogate l :: s)
  | u :: s => u :: pair s
  | [] => []

/-! ## Numbers -/

/-- Integers of more digits are refused. -/
def maxDigits : Nat := 4300

def decimal (digits : List Char) : Nat :=
  digits.foldl (fun n c => 10 * n + (c.toNat - '0'.toNat)) 0

/-- `([eE][-+]?[0-9]+)?` matches the whole text. -/
def isExponent : List Char → Bool
  | [] => true
  | c :: s =>
    let digits := match s with
      | '-' :: s => s
      | '+' :: s => s
      | s => s
    (c == 'e' || c == 'E') && digits ≠ [] && digits.all Char.isDigit

/-- `(\.[0-9]+)?([eE][-+]?[0-9]+)?` matches the whole text. -/
def isFraction : List Char → Bool
  | '.' :: s => (s.takeWhile Char.isDigit ≠ []) && isExponent (s.dropWhile Char.isDigit)
  | s => isExponent s

/-- The number that is written as `literal`. -/
def number? {S : Type} (literal : List Char) : Option (Value S) :=
  let (sign, s) := match literal with
    | '-' :: s => ((-1 : Int), s)
    | s => (1, s)
  let whole := s.takeWhile Char.isDigit
  let rest := s.dropWhile Char.isDigit
  if whole = [] ∨ (whole.head? = some '0' ∧ whole ≠ ['0']) then none
  else if rest = [] then
    if whole.length ≤ maxDigits then some (.int (sign * decimal whole)) else none
  else if isFraction rest then some (.float literal)
  else none

def isNumberChar (c : Char) : Bool :=
  c.isDigit || c == '-' || c == '+' || c == '.' || c == 'e' || c == 'E'

/-! ## Values -/

def isWhitespace (c : Char) : Bool := c == ' ' || c == '\t' || c == '\n' || c == '\r'

def skip (s : List Char) : List Char := s.dropWhile isWhitespace

/-- What follows the character `c`, if it comes next. -/
def next? (c : Char) (s : List Char) : Option (List Char) :=
  match skip s with
  | d :: rest => if d = c then some rest else none
  | [] => none

/-- A constant or a number at the start of the text. A number is taken as far as its characters
go: one that ends before has no delimiter behind it, so that its text is refused either way. -/
def scalar : List Char → Option (Value Str × List Char)
  | 'n' :: 'u' :: 'l' :: 'l' :: s => some (.null, s)
  | 't' :: 'r' :: 'u' :: 'e' :: s => some (.bool true, s)
  | 'f' :: 'a' :: 'l' :: 's' :: 'e' :: s => some (.bool false, s)
  | s => (number? (s.takeWhile isNumberChar)).map fun v => (v, s.dropWhile isNumberChar)

example : scalar ['n', 'u', 'l', 'l', ','] = some (.null, [',']) := by rw [scalar]

/-! ## A text with more behind it -/

/-- The value is delimited by itself. -/
def Closed {S : Type} : Value S → Prop
  | .str _ | .arr _ | .obj _ => True
  | _ => False

theorem units_quote (s : List Char) : units ('"' :: s) = some ([], s) := by
  rw [units.eq_def]
  rfl

theorem units_unicode (a b d e : Char) (s : List Char) :
    units ('\\' :: 'u' :: a :: b :: d :: e :: s) = (do
      let unit ← codeUnit? a b d e
      let (rest, s) ← units s
      return (unit :: rest, s)) := by
  rw [units.eq_def]
  rfl

theorem units_escape {d : Char} (hd : d ≠ 'u') (s : List Char) :
    units ('\\' :: d :: s) = (do
      let unit ← unescape? d
      let (rest, s) ← units s
      return (.scalar unit :: rest, s)) := by
  rw [units.eq_def]
  simp [hd]

theorem units_char {c : Char} (hquote : c ≠ '"') (hslash : c ≠ '\\') (hcontrol : ¬ c.toNat < 32)
    (s : List Char) :
    units (c :: s) = (do
      let (rest, s) ← units s
      return (.scalar c :: rest, s)) := by
  rw [units.eq_def]
  simp [hquote, hslash, hcontrol]

theorem units_append {s rest : List Char} {t : Str} (h : units s = some (t, rest))
    (more : List Char) : units (s ++ more) = some (t, rest ++ more) := by
  fun_induction units s generalizing t with
  | case1 => cases h
  | case2 s =>
    cases h
    exact units_quote _
  | case3 a b d e s hquote ih =>
    obtain ⟨unit, hunit, h⟩ := Option.bind_eq_some_iff.1 h
    obtain ⟨⟨tail, s'⟩, hs, h⟩ := Option.bind_eq_some_iff.1 h
    cases h
    simp only [List.cons_append, units_unicode, hunit, ih hs]
    rfl
  | case4 d s hshort hquote ih =>
    obtain ⟨unit, hunit, h⟩ := Option.bind_eq_some_iff.1 h
    obtain ⟨⟨tail, s'⟩, hs, h⟩ := Option.bind_eq_some_iff.1 h
    cases h
    have hd : d ≠ 'u' := by
      rintro rfl
      cases hunit
    simp only [List.cons_append, units_escape hd, hunit, ih hs]
    rfl
  | case5 => cases h
  | case6 => cases h
  | case7 c s hquote hslash hcontrol ih =>
    obtain ⟨⟨tail, s'⟩, hs, h⟩ := Option.bind_eq_some_iff.1 h
    cases h
    simp only [List.cons_append, units_char hquote hslash hcontrol, ih hs]
    rfl

theorem skip_append {s : List Char} (h : skip s ≠ []) (more : List Char) :
    skip (s ++ more) = skip s ++ more := by
  rw [skip, skip, List.dropWhile_append, if_neg]
  simpa [skip] using h

theorem not_closed_of_scalar {s rest : List Char} {v : Value Str} (h : scalar s = some (v, rest)) :
    ¬ Closed v := by
  rw [scalar.eq_def] at h
  split at h
  · cases h
    exact id
  · cases h
    exact id
  · cases h
    exact id
  · obtain ⟨v', hv, h⟩ := Option.map_eq_some_iff.1 h
    cases h
    unfold number? at hv
    dsimp only at hv
    split_ifs at hv <;> cases hv <;> exact id

theorem scalar_number {c : Char} (hc : isNumberChar c = true) (s : List Char) :
    scalar (c :: s) = (number? ((c :: s).takeWhile isNumberChar)).map fun v =>
      (v, (c :: s).dropWhile isNumberChar) := by
  rw [scalar.eq_def]
  split
  · rename_i heq
    cases heq
    cases hc
  · rename_i heq
    cases heq
    cases hc
  · rename_i heq
    cases heq
    cases hc
  · rfl

theorem scalar_append {s rest : List Char} {v : Value Str} (h : scalar s = some (v, rest))
    (hrest : rest ≠ []) (more : List Char) : scalar (s ++ more) = some (v, rest ++ more) := by
  rw [scalar.eq_def] at h
  split at h
  · cases h
    rfl
  · cases h
    rfl
  · cases h
    rfl
  · obtain ⟨v', hv, h⟩ := Option.map_eq_some_iff.1 h
    cases h
    have htake : (s ++ more).takeWhile isNumberChar = s.takeWhile isNumberChar := by
      rw [List.takeWhile_append, if_neg]
      intro hlen
      have hsplit := congrArg List.length (List.takeWhile_append_dropWhile (p := isNumberChar) (l := s))
      rw [List.length_append, hlen] at hsplit
      exact hrest (List.length_eq_zero_iff.1 (by omega))
    have hdrop : (s ++ more).dropWhile isNumberChar = s.dropWhile isNumberChar ++ more := by
      rw [List.dropWhile_append, if_neg (by simpa using hrest)]
    cases s with
    | nil => cases hv
    | cons c s =>
      cases hc : isNumberChar c with
      | false =>
        -- no number starts here
        rw [List.takeWhile_cons, hc] at hv
        cases hv
      | true =>
        rw [List.cons_append, scalar_number hc, ← List.cons_append, htake, hdrop, hv]
        rfl

section

variable (hook : List (Str × Value Str) → Option (List (Str × Value Str)))

mutual

/-- The value at the start of the text and what follows it; `fuel` bounds the text read and `levels`
the containers inside one another. -/
def value (fuel levels : Nat) (s : List Char) : Option (Value Str × List Char) :=
  match fuel, s with
  | 0, _ => none
  | _, [] => none
  | fuel + 1, c :: s =>
    if c = '"' then (units s).map fun (t, rest) => (.str (pair t), rest)
    else if c = '{' then
      match levels with
      | 0 => none
      | levels + 1 =>
        match next? '}' s with
        | some rest => (hook []).map fun entries => (.obj entries, rest)
        | none => members fuel levels [] s
    else if c = '[' then
      match levels with
      | 0 => none
      | levels + 1 =>
        match next? ']' s with
        | some rest => some (.arr [], rest)
        | none => elements fuel levels [] s
    else scalar (c :: s)

/-- The members of an object after the pairs `pairs`. -/
def members (fuel levels : Nat) (pairs : List (Str × Value Str)) (s : List Char) :
    Option (Value Str × List Char) :=
  match fuel with
  | 0 => none
  | fuel + 1 => do
    let s ← next? '"' s
    let (key, s) ← units s
    let s ← next? ':' s
    let (v, s) ← value fuel levels (skip s)
    let pairs := pairs ++ [(pair key, v)]
    match next? '}' s with
    | some rest => (hook pairs).map fun entries => (.obj entries, rest)
    | none => do
      let s ← next? ',' s
      members fuel levels pairs s

/-- The elements of an array after the elements `xs`. -/
def elements (fuel levels : Nat) (xs : List (Value Str)) (s : List Char) :
    Option (Value Str × List Char) :=
  match fuel with
  | 0 => none
  | fuel + 1 => do
    let (v, s) ← value fuel levels (skip s)
    match next? ']' s with
    | some rest => some (.arr (xs ++ [v]), rest)
    | none => do
      let s ← next? ',' s
      elements fuel levels (xs ++ [v]) s

end

/-- `json.loads(text, object_pairs_hook=hook)`, `none` for the exceptions it raises. -/
def decode (levels : Nat) (text : List Char) : Option (Value Str) :=
  match value hook (text.length + 1) levels (skip text) with
  | some (v, rest) => if skip rest = [] then some v else none
  | none => none

variable {hook}

theorem value_cons (fuel levels : Nat) (c : Char) (s : List Char) :
    value hook (fuel + 1) levels (c :: s) =
      if c = '"' then (units s).map fun (t, rest) => (.str (pair t), rest)
      else if c = '{' then
        match levels with
        | 0 => none
        | levels + 1 =>
          match next? '}' s with
          | some rest => (hook []).map fun entries => (.obj entries, rest)
          | none => members hook fuel levels [] s
      else if c = '[' then
        match levels with
        | 0 => none
        | levels + 1 =>
          match next? ']' s with
          | some rest => some (.arr [], rest)
          | none => elements hook fuel levels [] s
      else scalar (c :: s) := by
  rw [value.eq_def]

theorem skip_ne_nil_of_next? {c : Char} {s rest : List Char} (h : next? c s = some rest) :
    skip s ≠ [] := by
  intro hs
  rw [next?, hs] at h
  cases h

theorem next?_append_of_skip {c : Char} {s : List Char} (hs : skip s ≠ []) (more : List Char) :
    next? c (s ++ more) = (next? c s).map (· ++ more) := by
  rw [next?, next?, skip_append hs]
  obtain ⟨d, t, hd⟩ := List.exists_cons_of_ne_nil hs
  rw [hd, List.cons_append]
  dsimp only
  split <;> rfl

theorem next?_append {c : Char} {s rest : List Char} (h : next? c s = some rest)
    (more : List Char) : next? c (s ++ more) = some (rest ++ more) := by
  rw [next?_append_of_skip (skip_ne_nil_of_next? h), h]
  rfl

theorem next?_append_of_none {c : Char} {s : List Char} (h : next? c s = none) (hs : skip s ≠ [])
    (more : List Char) : next? c (s ++ more) = none := by
  rw [next?_append_of_skip hs, h]
  rfl

variable (hook) in
/-- What the functions read, they read with more behind it, and with more fuel. -/
structure Local (fuel : Nat) : Prop where
  value : ∀ levels s v rest, value hook fuel levels s = some (v, rest) → Closed v ∨ rest ≠ [] →
    ∀ k more, value hook (fuel + k) levels (s ++ more) = some (v, rest ++ more)
  members : ∀ levels pairs s v rest, members hook fuel levels pairs s = some (v, rest) →
    skip s ≠ [] ∧
      ∀ k more, members hook (fuel + k) levels pairs (s ++ more) = some (v, rest ++ more)
  elements : ∀ levels xs s v rest, elements hook fuel levels xs s = some (v, rest) →
    skip s ≠ [] ∧
      ∀ k more, elements hook (fuel + k) levels xs (s ++ more) = some (v, rest ++ more)

theorem Local.value_succ {fuel : Nat} (ih : Local hook fuel) {levels : Nat} {s rest : List Char}
    {v : Value Str} (h : JsonText.value hook (fuel + 1) levels s = some (v, rest))
    (hend : Closed v ∨ rest ≠ []) (k : Nat) (more : List Char) :
    JsonText.value hook (fuel + 1 + k) levels (s ++ more) = some (v, rest ++ more) := by
  rw [Nat.add_right_comm]
  cases s with
  | nil => cases h
  | cons c s =>
    rw [value_cons] at h
    rw [List.cons_append, value_cons]
    by_cases hquote : c = '"'
    · rw [if_pos hquote] at h ⊢
      obtain ⟨⟨t, s'⟩, hs, h⟩ := Option.map_eq_some_iff.1 h
      cases h
      rw [units_append hs]
      rfl
    rw [if_neg hquote] at h ⊢
    by_cases hobj : c = '{'
    · rw [if_pos hobj] at h ⊢
      cases levels with
      | zero => cases h
      | succ levels =>
        dsimp only at h ⊢
        split at h
        · rename_i hs
          obtain ⟨entries, hhook, h⟩ := Option.map_eq_some_iff.1 h
          cases h
          rw [next?_append hs, hhook]
          rfl
        · rename_i hs
          obtain ⟨hne, hmembers⟩ := ih.members _ _ _ _ _ h
          rw [next?_append_of_none hs hne]
          exact hmembers k more
    rw [if_neg hobj] at h ⊢
    by_cases harr : c = '['
    · rw [if_pos harr] at h ⊢
      cases levels with
      | zero => cases h
      | succ levels =>
        dsimp only at h ⊢
        split at h
        · rename_i hs
          cases h
          rw [next?_append hs]
        · rename_i hs
          obtain ⟨hne, helements⟩ := ih.elements _ _ _ _ _ h
          rw [next?_append_of_none hs hne]
          exact helements k more
    rw [if_neg harr] at h ⊢
    exact scalar_append h (hend.resolve_left (not_closed_of_scalar h)) more

theorem value_nil (fuel levels : Nat) : value hook fuel levels [] = none := by
  cases fuel <;> rfl

/-- A value with a delimiter behind it, after whitespace. -/
theorem Local.delimited {fuel levels : Nat} (ih : Local hook fuel) {s rest : List Char}
    {v : Value Str} (h : JsonText.value hook fuel levels (skip s) = some (v, rest))
    (hrest : skip rest ≠ []) (k : Nat) (more : List Char) :
    JsonText.value hook (fuel + k) levels (skip (s ++ more)) = some (v, rest ++ more) := by
  have hs : skip s ≠ [] := by
    intro hs
    rw [hs, value_nil] at h
    cases h
  rw [skip_append hs]
  refine ih.value _ _ _ _ h (.inr ?_) k more
  rintro rfl
  exact hrest rfl

theorem Local.members_succ {fuel : Nat} (ih : Local hook fuel) {levels : Nat}
    {pairs : List (Str × Value Str)} {s rest : List Char} {v : Value Str}
    (h : JsonText.members hook (fuel + 1) levels pairs s = some (v, rest)) :
    skip s ≠ [] ∧ ∀ k more,
      JsonText.members hook (fuel + 1 + k) levels pairs (s ++ more) = some (v, rest ++ more) := by
  rw [members.eq_def] at h
  obtain ⟨s₁, hs₁, h⟩ := Option.bind_eq_some_iff.1 h
  obtain ⟨⟨key, s₂⟩, hs₂, h⟩ := Option.bind_eq_some_iff.1 h
  obtain ⟨s₃, hs₃, h⟩ := Option.bind_eq_some_iff.1 h
  obtain ⟨⟨v', s₄⟩, hs₄, h⟩ := Option.bind_eq_some_iff.1 h
  refine ⟨skip_ne_nil_of_next? hs₁, fun k more => ?_⟩
  rw [Nat.add_right_comm, members.eq_def]
  simp only [next?_append hs₁, units_append hs₂, next?_append hs₃, Option.bind_eq_bind,
    Option.bind_some]
  dsimp only at h
  split at h
  · rename_i hclose
    obtain ⟨entries, hhook, h⟩ := Option.map_eq_some_iff.1 h
    cases h
    simp only [ih.delimited hs₄ (skip_ne_nil_of_next? hclose), Option.bind_some,
      next?_append hclose, hhook, Option.map_some]
  · rename_i hopen
    obtain ⟨s₅, hs₅, h⟩ := Option.bind_eq_some_iff.1 h
    have hne := skip_ne_nil_of_next? hs₅
    simp only [ih.delimited hs₄ hne, Option.bind_some, next?_append_of_none hopen hne,
      next?_append hs₅]
    exact (ih.members _ _ _ _ _ h).2 k more

theorem Local.elements_succ {fuel : Nat} (ih : Local hook fuel) {levels : Nat}
    {xs : List (Value Str)} {s rest : List Char} {v : Value Str}
    (h : JsonText.elements hook (fuel + 1) levels xs s = some (v, rest)) :
    skip s ≠ [] ∧ ∀ k more,
      JsonText.elements hook (fuel + 1 + k) levels xs (s ++ more) = some (v, rest ++ more) := by
  rw [elements.eq_def] at h
  obtain ⟨⟨v', s₁⟩, hs₁, h⟩ := Option.bind_eq_some_iff.1 h
  refine ⟨fun hs => ?_, fun k more => ?_⟩
  · rw [hs, value_nil] at hs₁
    cases hs₁
  rw [Nat.add_right_comm, elements.eq_def]
  simp only [Option.bind_eq_bind]
  dsimp only at h
  split at h
  · rename_i hclose
    cases h
    simp only [ih.delimited hs₁ (skip_ne_nil_of_next? hclose), Option.bind_some,
      next?_append hclose]
  · rename_i hopen
    obtain ⟨s₂, hs₂, h⟩ := Option.bind_eq_some_iff.1 h
    have hne := skip_ne_nil_of_next? hs₂
    simp only [ih.delimited hs₁ hne, Option.bind_some, next?_append_of_none hopen hne,
      next?_append hs₂]
    exact (ih.elements _ _ _ _ _ h).2 k more

variable (hook) in
theorem local_all (fuel : Nat) : Local hook fuel := by
  induction fuel with
  | zero =>
    refine ⟨fun _ _ _ _ h => ?_, fun _ _ _ _ _ h => ?_, fun _ _ _ _ _ h => ?_⟩
    · cases h
    · rw [members.eq_def] at h
      cases h
    · rw [elements.eq_def] at h
      cases h
  | succ fuel ih =>
    exact ⟨fun _ _ _ _ h hend k more => ih.value_succ h hend k more,
      fun _ _ _ _ _ h => ih.members_succ h, fun _ _ _ _ _ h => ih.elements_succ h⟩

/-! ## Whole texts -/

theorem closed_of_members {fuel levels : Nat} {pairs : List (Str × Value Str)} {s rest : List Char}
    {v : Value Str} (h : members hook fuel levels pairs s = some (v, rest)) : Closed v := by
  induction fuel generalizing pairs s with
  | zero =>
    rw [members.eq_def] at h
    cases h
  | succ fuel ih =>
    rw [members.eq_def] at h
    obtain ⟨s₁, -, h⟩ := Option.bind_eq_some_iff.1 h
    obtain ⟨⟨key, s₂⟩, -, h⟩ := Option.bind_eq_some_iff.1 h
    obtain ⟨s₃, -, h⟩ := Option.bind_eq_some_iff.1 h
    obtain ⟨⟨v', s₄⟩, -, h⟩ := Option.bind_eq_some_iff.1 h
    dsimp only at h
    split at h
    · obtain ⟨entries, -, h⟩ := Option.map_eq_some_iff.1 h
      cases h
      trivial
    · obtain ⟨s₅, -, h⟩ := Option.bind_eq_some_iff.1 h
      exact ih h

theorem closed_of_decode {levels : Nat} {s : List Char} {v : Value Str}
    (h : decode hook levels ('{' :: s) = some v) : Closed v := by
  rw [decode, show skip ('{' :: s) = '{' :: s from rfl] at h
  split at h
  · rename_i v' rest hvalue
    split at h
    · cases h
      rw [value_cons, if_neg (by decide), if_pos rfl] at hvalue
      cases levels with
      | zero => cases hvalue
      | succ levels =>
        dsimp only at hvalue
        split at hvalue
        · obtain ⟨entries, -, hvalue⟩ := Option.map_eq_some_iff.1 hvalue
          cases hvalue
          trivial
        · exact closed_of_members hvalue
    · cases h
  · cases h

/-- Only whitespace may follow the text of an object, an array or a string. -/
theorem decode_append {levels : Nat} {text : List Char} {v : Value Str}
    (h : decode hook levels text = some v) (hclosed : Closed v) (more : List Char) :
    decode hook levels (text ++ more) = if skip more = [] then some v else none := by
  rw [decode] at h
  split at h
  · rename_i v' rest hvalue
    split at h
    · rename_i hrest
      cases h
      have htext : skip text ≠ [] := by
        intro htext
        rw [htext, value_nil] at hvalue
        cases hvalue
      have hlocal := (local_all hook _).value _ _ _ _ hvalue (.inl hclosed) more.length more
      have hskip : skip (rest ++ more) = skip more := by
        rw [skip, skip, List.dropWhile_append, if_pos]
        simpa [skip] using hrest
      rw [decode, skip_append htext, List.length_append, Nat.add_right_comm, hlocal]
      dsimp only
      rw [hskip]
    · cases h
  · cases h

end

end JsonText

end StateLib
