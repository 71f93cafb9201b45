import Mathlib.Data.Char
import Mathlib.Data.List.Lex
import DollState.Library.JsonText

/-!
# Canonical JSON texts

Writing JSON as Python's `json.dumps` does with sorted keys, without spaces and without escaping
what is not ASCII. Writing fails with a value inside more containers than the recursion limit lets
the encoder enter, and with a float that is not finite; the first of these that the encoder comes to
is the one it raises (`firstError`).
-/

namespace StateLib

namespace JsonText

/-- The exceptions of the encoder. -/
inductive EncodeError where
  | recursion
  | notFinite
deriving DecidableEq, Repr

def CodePoint.toNat : CodePoint → Nat
  | .scalar c => c.toNat
  | .surrogate n => n

/-- Python's order of strings. -/
def Str.le (s t : Str) : Prop := s.map CodePoint.toNat ≤ t.map CodePoint.toNat

instance (s t : Str) : Decidable (s.le t) := inferInstanceAs (Decidable (_ ≤ _))

section

variable (repr : List Char → Option (List Char))

mutual

/-- What the encoder raises for a value, if `levels` containers may be inside one another. -/
def firstError (levels : Nat) (v : Value Str) : Option EncodeError :=
  match levels, v with
  | _, .float literal => if (repr literal).isSome then none else some .notFinite
  | 0, .arr _ => some .recursion
  | 0, .obj _ => some .recursion
  | levels + 1, .arr xs => (errors levels xs).findSome? id
  | levels + 1, .obj entries =>
    ((entryErrors levels entries).insertionSort fun a b => a.1.le b.1).findSome? Prod.snd
  | _, .null => none
  | _, .bool _ => none
  | _, .int _ => none
  | _, .str _ => none

def errors (levels : Nat) : List (Value Str) → List (Option EncodeError)
  | [] => []
  | v :: vs => firstError levels v :: errors levels vs

def entryErrors (levels : Nat) : List (Str × Value Str) → List (Str × Option EncodeError)
  | [] => []
  | (key, v) :: entries => (key, firstError levels v) :: entryErrors levels entries

end

end

/-! ## Values without surrogates -/

mutual

/-- The value with its strings encoded: `none` for an unpaired surrogate. -/
def Value.toText? : Value Str → Option (Value (List Char))
  | .null => some .null
  | .bool b => some (.bool b)
  | .int i => some (.int i)
  | .float literal => some (.float literal)
  | .str s => s.toText?.map .str
  | .arr xs => (toTexts? xs).map .arr
  | .obj entries => (toEntries? entries).map .obj

def toTexts? : List (Value Str) → Option (List (Value (List Char)))
  | [] => some []
  | v :: vs => do
    let v ← v.toText?
    let vs ← toTexts? vs
    return v :: vs

def toEntries? : List (Str × Value Str) → Option (List (List Char × Value (List Char)))
  | [] => some []
  | (key, v) :: entries => do
    let key ← key.toText?
    let v ← v.toText?
    let entries ← toEntries? entries
    return (key, v) :: entries

end

/-! ## Writing -/

/-- What a character is written as inside a string. -/
def escape (c : Char) : List Char :=
  if c = '"' ∨ c = '\\' then ['\\', c]
  else if c = '\n' then "\\n".toList
  else if c = '\r' then "\\r".toList
  else if c = '\t' then "\\t".toList
  else if c = '\x08' then "\\b".toList
  else if c = '\x0c' then "\\f".toList
  else if c.toNat < 32 then
    "\\u00".toList ++ [Nat.digitChar (c.toNat / 16), Nat.digitChar (c.toNat % 16)]
  else [c]

def quote (s : List Char) : List Char := '"' :: s.flatMap escape ++ ['"']

section

variable (repr : List Char → Option (List Char))

mutual

/-- `json.dumps(v, ensure_ascii=False, sort_keys=True, separators=(",", ":"))`. -/
def encode : Value (List Char) → List Char
  | .null => "null".toList
  | .bool b => if b then "true".toList else "false".toList
  | .int i => (toString i).toList
  | .float literal => (repr literal).getD []
  | .str s => quote s
  | .arr xs => '[' :: [','].intercalate (encodeAll xs) ++ [']']
  | .obj entries =>
    let members := (encodeEntries entries).insertionSort fun a b => a.1 ≤ b.1
    '{' :: [','].intercalate (members.map fun m => quote m.1 ++ ':' :: m.2) ++ ['}']

def encodeAll : List (Value (List Char)) → List (List Char)
  | [] => []
  | v :: vs => encode v :: encodeAll vs

def encodeEntries : List (List Char × Value (List Char)) → List (List Char × List Char)
  | [] => []
  | (key, v) :: entries => (key, encode v) :: encodeEntries entries

end

end

/-- The number of containers inside one another. -/
def depth {S : Type} : Value S → Nat
  | .arr xs => 1 + depths xs
  | .obj entries => 1 + entryDepths entries
  | _ => 0
where
  depths : List (Value S) → Nat
    | [] => 0
    | v :: vs => max (depth v) (depths vs)
  entryDepths : List (S × Value S) → Nat
    | [] => 0
    | (_, v) :: entries => max (depth v) (entryDepths entries)

/-- The number of calls inside one another that a function recursive in the value makes. -/
def calls {S : Type} : Value S → Nat
  | .arr xs => 1 + listCalls xs
  | .obj entries => 1 + entryCalls entries
  | _ => 1
where
  listCalls : List (Value S) → Nat
    | [] => 0
    | v :: vs => max (calls v) (listCalls vs)
  entryCalls : List (S × Value S) → Nat
    | [] => 0
    | (_, v) :: entries => max (calls v) (entryCalls entries)

/-! ## The shape of a value without surrogates -/

mutual

theorem shape_toText? {v : Value Str} {w : Value (List Char)} (h : v.toText? = some w) :
    depth w = depth v ∧ calls w = calls v := by
  cases v with
  | null | bool | int | float =>
    cases h
    exact ⟨rfl, rfl⟩
  | str s =>
    obtain ⟨t, -, rfl⟩ := Option.map_eq_some_iff.1 h
    exact ⟨rfl, rfl⟩
  | arr xs =>
    obtain ⟨ws, hws, rfl⟩ := Option.map_eq_some_iff.1 h
    obtain ⟨hdepth, hcalls⟩ := shape_toTexts? hws
    simp only [depth, calls, hdepth, hcalls, and_self]
  | obj entries =>
    obtain ⟨ws, hws, rfl⟩ := Option.map_eq_some_iff.1 h
    obtain ⟨hdepth, hcalls⟩ := shape_toEntries? hws
    simp only [depth, calls, hdepth, hcalls, and_self]

theorem shape_toTexts? {vs : List (Value Str)} {ws : List (Value (List Char))}
    (h : toTexts? vs = some ws) :
    depth.depths ws = depth.depths vs ∧ calls.listCalls ws = calls.listCalls vs := by
  cases vs with
  | nil =>
    cases h
    exact ⟨rfl, rfl⟩
  | cons v vs =>
    obtain ⟨w, hw, h⟩ := Option.bind_eq_some_iff.1 h
    obtain ⟨ws', hws, h⟩ := Option.bind_eq_some_iff.1 h
    cases h
    obtain ⟨hdepth, hcalls⟩ := shape_toText? hw
    obtain ⟨hdepths, hlistCalls⟩ := shape_toTexts? hws
    simp only [depth.depths, calls.listCalls, hdepth, hcalls, hdepths, hlistCalls, and_self]

theorem shape_toEntries? {es : List (Str × Value Str)} {ws : List (List Char × Value (List Char))}
    (h : toEntries? es = some ws) :
    depth.entryDepths ws = depth.entryDepths es ∧ calls.entryCalls ws = calls.entryCalls es := by
  cases es with
  | nil =>
    cases h
    exact ⟨rfl, rfl⟩
  | cons e es =>
    obtain ⟨key, -, h⟩ := Option.bind_eq_some_iff.1 h
    obtain ⟨w, hw, h⟩ := Option.bind_eq_some_iff.1 h
    obtain ⟨ws', hws, h⟩ := Option.bind_eq_some_iff.1 h
    cases h
    obtain ⟨hdepth, hcalls⟩ := shape_toText? hw
    obtain ⟨hdepths, hentryCalls⟩ := shape_toEntries? hws
    simp only [depth.entryDepths, calls.entryCalls, hdepth, hcalls, hdepths, hentryCalls, and_self]

end

end JsonText

end StateLib
