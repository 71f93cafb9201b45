import DollState.Library.Check

/-!
# Values that have passed the checks of their class

A class whose constructor checks its fields is given by the type of its fields and by that check.
A value of it carries the proof that its fields have passed.
-/

namespace StateLib

variable {φ ε : Type}

structure Validated (φ : Type) {ε : Type} (validate : φ → Except ε Unit) where
  fields : φ
  valid : validate fields = .ok ()

theorem Validated.ext {validate : φ → Except ε Unit} {v w : Validated φ validate}
    (h : v.fields = w.fields) : v = w := by
  cases v
  cases w
  cases h
  rfl

instance [DecidableEq φ] (validate : φ → Except ε Unit) : DecidableEq (Validated φ validate) :=
  fun _ _ => decidable_of_iff _ ⟨Validated.ext, congrArg Validated.fields⟩

/-- The constructor: its checks, and the value if they pass. -/
def construct (validate : φ → Except ε Unit) (fields : φ) : Except ε (Validated φ validate) :=
  match h : validate fields with
  | .ok () => .ok ⟨fields, h⟩
  | .error e => .error e

theorem construct_eq_ok {validate : φ → Except ε Unit} {fields : φ} {v : Validated φ validate} :
    construct validate fields = .ok v ↔ v.fields = fields := by
  unfold construct
  split
  · rename_i h
    constructor
    · intro h
      cases h
      rfl
    · rintro rfl
      rfl
  · rename_i e h
    refine iff_of_false nofun ?_
    rintro rfl
    cases v.valid.symm.trans h

theorem exists_construct {validate : φ → Except ε Unit} {fields : φ}
    (h : validate fields = .ok ()) : ∃ v, construct validate fields = .ok v :=
  ⟨⟨fields, h⟩, construct_eq_ok.2 rfl⟩

end StateLib
