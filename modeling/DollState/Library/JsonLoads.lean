import DollState.Library.JsonText

/-!
# JSON texts as `json.loads` reads them

The decoder with its exceptions, which callers tell apart: a text that is no JSON, a number that
`int` refuses or a constant that the caller refuses, and a text with more containers inside one
another than the recursion limit lets the decoder enter; a caller that gives a hook may also refuse
the pairs of an object. The first of these that the decoder comes to is the one it raises. Without a
hook the members of an object go into a dictionary.
-/

namespace StateLib

namespace JsonText

/-- The exceptions of the decoder: `JSONDecodeError`, another `ValueError`, `RecursionError`, and the
one that the caller's hooks raise. -/
inductive LoadsError where
  | decode | value | recursion | hook
deriving DecidableEq, Repr

abbrev Loads (α : Type) := Except LoadsError α

/-! ## Dictionaries -/

/-- `entries[key] = v`. -/
def putEntry (entries : List (Str × Value Str)) (e : Str × Value Str) : List (Str × Value Str) :=
  if e.1 ∈ entries.map Prod.fst then
    entries.map fun d => if d.1 = e.1 then (d.1, e.2) else d
  else entries ++ [e]

/-- `dict(pairs)`. -/
def dictOf (pairs : List (Str × Value Str)) : List (Str × Value Str) := pairs.foldl putEntry []

/-! ## Numbers -/

/-- The digits at the start of a text, and what follows them. -/
def digits (s : List Char) : List Char × List Char :=
  (s.takeWhile Char.isDigit, s.dropWhile Char.isDigit)

/-- The part before the point, and what follows it. -/
def wholePart : List Char → Option (List Char × List Char)
  | '-' :: s => (unsigned s).map fun (whole, rest) => ('-' :: whole, rest)
  | s => unsigned s
where
  unsigned : List Char → Option (List Char × List Char)
    | '0' :: s => some (['0'], s)
    | c :: s => if c.isDigit then some (digits (c :: s)) else none
    | [] => none

/-- A point and the digits after it, if there are any. -/
def fractionPart : List Char → List Char × List Char
  | '.' :: s => if (digits s).1 = [] then ([], '.' :: s) else ('.' :: (digits s).1, (digits s).2)
  | s => ([], s)

/-- An exponent, if there is one. -/
def exponentPart : List Char → List Char × List Char
  | c :: s =>
    let (sign, rest) := match s with
      | '-' :: s => (['-'], s)
      | '+' :: s => (['+'], s)
      | s => ([], s)
    if (c = 'e' ∨ c = 'E') ∧ (digits rest).1 ≠ [] then
      (c :: sign ++ (digits rest).1, (digits rest).2)
    else ([], c :: s)
  | [] => ([], [])

/-- The integer that is written as `literal`. -/
def intOf (literal : List Char) : Loads Int :=
  match literal with
  | '-' :: whole =>
    if whole.length ≤ maxDigits then .ok (-(decimal whole : Int)) else .error .value
  | whole => if whole.length ≤ maxDigits then .ok (decimal whole : Int) else .error .value

/-- The number at the start of a text. -/
def loadsNumber (s : List Char) : Loads (Value Str × List Char) :=
  match wholePart s with
  | none => .error .decode
  | some (whole, rest) =>
    let (fraction, rest) := fractionPart rest
    let (exponent, rest) := exponentPart rest
    if fraction = [] ∧ exponent = [] then do
      let i ← intOf whole
      return (.int i, rest)
    else .ok (.float (whole ++ fraction ++ exponent), rest)

/-! ## Values -/

section

variable (constant : List Char → Loads (Value Str))
  (hook : List (Str × Value Str) → Loads (List (Str × Value Str)))

/-- A constant or a number at the start of the text. -/
def loadsScalar : List Char → Loads (Value Str × List Char)
  | 'n' :: 'u' :: 'l' :: 'l' :: s => .ok (.null, s)
  | 't' :: 'r' :: 'u' :: 'e' :: s => .ok (.bool true, s)
  | 'f' :: 'a' :: 'l' :: 's' :: 'e' :: s => .ok (.bool false, s)
  | 'N' :: 'a' :: 'N' :: s => do
    let v ← constant "NaN".toList
    return (v, s)
  | 'I' :: 'n' :: 'f' :: 'i' :: 'n' :: 'i' :: 't' :: 'y' :: s => do
    let v ← constant "Infinity".toList
    return (v, s)
  | '-' :: 'I' :: 'n' :: 'f' :: 'i' :: 'n' :: 'i' :: 't' :: 'y' :: s => do
    let v ← constant "-Infinity".toList
    return (v, s)
  | s => loadsNumber s

/-- What follows the character `c`, which comes next. -/
def expect (c : Char) (s : List Char) : Loads (List Char) :=
  match next? c s with
  | some rest => .ok rest
  | none => .error .decode

/-- A string after its opening quote. -/
def loadsString (s : List Char) : Loads (Str × List Char) :=
  match units s with
  | some (t, rest) => .ok (pair t, rest)
  | none => .error .decode

mutual

/-- The value at the start of the text and what follows it; `fuel` bounds the calls inside one another,
of which two have at least one character between them, and `levels` the containers. -/
def loadsValue (fuel levels : Nat) (s : List Char) : Loads (Value Str × List Char) :=
  match fuel, s with
  | 0, _ => .error .decode
  | _, [] => .error .decode
  | fuel + 1, c :: s =>
    if c = '"' then do
      let (t, rest) ← loadsString s
      return (.str t, rest)
    else if c = '{' then
      match levels with
      | 0 => .error .recursion
      | levels + 1 =>
        match next? '}' s with
        | some rest => do
          let entries ← hook []
          return (.obj entries, rest)
        | none => loadsMembers fuel levels [] s
    else if c = '[' then
      match levels with
      | 0 => .error .recursion
      | levels + 1 =>
        match next? ']' s with
        | some rest => .ok (.arr [], rest)
        | none => loadsElements fuel levels [] s
    else loadsScalar constant (c :: s)

/-- The members of an object after the pairs `pairs`. -/
def loadsMembers (fuel levels : Nat) (pairs : List (Str × Value Str)) (s : List Char) :
    Loads (Value Str × List Char) :=
  match fuel with
  | 0 => .error .decode
  | fuel + 1 => do
    let s ← expect '"' s
    let (key, s) ← loadsString s
    let s ← expect ':' s
    let (v, s) ← loadsValue fuel levels (skip s)
    match next? '}' s with
    | some rest => do
      let entries ← hook (pairs ++ [(key, v)])
      return (.obj entries, rest)
    | none => do
      let s ← expect ',' s
      loadsMembers fuel levels (pairs ++ [(key, v)]) s

/-- The elements of an array after the elements `xs`. -/
def loadsElements (fuel levels : Nat) (xs : List (Value Str)) (s : List Char) :
    Loads (Value Str × List Char) :=
  match fuel with
  | 0 => .error .decode
  | fuel + 1 => do
    let (v, s) ← loadsValue fuel levels (skip s)
    match next? ']' s with
    | some rest => .ok (.arr (xs ++ [v]), rest)
    | none => do
      let s ← expect ',' s
      loadsElements fuel levels (xs ++ [v]) s

end

/-- `json.loads(text, object_pairs_hook=hook, parse_constant=constant)`. -/
def loadsHooked (levels : Nat) (text : List Char) : Loads (Value Str) := do
  let (v, rest) ← loadsValue constant hook (2 * text.length + 2) levels (skip text)
  if skip rest = [] then return v else .error .decode

/-- `json.loads(text, parse_constant=constant)`. -/
def loads (levels : Nat) (text : List Char) : Loads (Value Str) :=
  loadsHooked constant (fun pairs => .ok (dictOf pairs)) levels text

end

/-- A constant is refused. -/
def rejectConstant : List Char → Loads (Value Str) := fun _ => .error .value

/-- A constant is a float. -/
def floatConstant : List Char → Loads (Value Str) := fun literal => .ok (.float literal)

/-- A hook that refuses pairs of the same key. -/
def distinctKeys (pairs : List (Str × Value Str)) : Loads (List (Str × Value Str)) :=
  if (pairs.map Prod.fst).Nodup then .ok pairs else .error .hook

/-- A constant is refused by the caller's hook. -/
def hookConstant : List Char → Loads (Value Str) := fun _ => .error .hook

example : (loads rejectConstant 2 " \x7b\"a\": [1, -2.5e3], \"a\": null\x7d ".toList) =
    .ok (.obj [(Str.ofText "a".toList, .null)]) := by decide +kernel

end JsonText

end StateLib
