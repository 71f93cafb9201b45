import Mathlib.Data.List.Infix

/-!
# The `LIKE` operator

`LIKE` as SQLite evaluates it by default: `%` stands for any text, `_` for any one character, and
letters of the ASCII alphabet are compared without their case.
-/

namespace StateLib

/-- A character of a pattern matches a character of a text. -/
def likeChar (p c : Char) : Bool := p == '_' || p.toLower == c.toLower

/-- `text LIKE pattern`. -/
def like : List Char → List Char → Bool
  | [], text => text.isEmpty
  | p :: pattern, text =>
    if p = '%' then text.tails.any (like pattern)
    else text.head?.any (likeChar p) && like pattern text.tail

end StateLib
