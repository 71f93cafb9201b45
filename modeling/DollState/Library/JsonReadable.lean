import DollState.Library.JsonReread

/-!
# Values that can be read where they have been written

`json.loads` reads what `json.dumps` has written if no number has too many digits, no object has a key
twice, and the containers fit the levels that the recursion limit leaves (`decode_write`).
-/

namespace StateLib

namespace JsonText

mutual

/-- The decoder takes the value: its numbers are short enough, and no object has a key twice. -/
def Value.Readable : Value (List Char) → Prop
  | .int i => i.natAbs < 10 ^ maxDigits
  | .float literal => IsFloat literal ∧ (number? literal : Option (Value Str)).isSome = true
  | .arr xs => AllReadable xs
  | .obj entries => (entries.map Prod.fst).Nodup ∧ EntriesReadable entries
  | _ => True

def AllReadable : List (Value (List Char)) → Prop
  | [] => True
  | v :: vs => v.Readable ∧ AllReadable vs

def EntriesReadable : List (List Char × Value (List Char)) → Prop
  | [] => True
  | (_, v) :: entries => v.Readable ∧ EntriesReadable entries

end

theorem allReadable_iff {vs : List (Value (List Char))} : AllReadable vs ↔ ∀ v ∈ vs, v.Readable := by
  induction vs with
  | nil => simp [AllReadable]
  | cons v vs ih => rw [AllReadable, List.forall_mem_cons, ih]

theorem entriesReadable_iff {entries : List (List Char × Value (List Char))} :
    EntriesReadable entries ↔ ∀ e ∈ entries, e.2.Readable := by
  induction entries with
  | nil => simp [EntriesReadable]
  | cons e entries ih => rw [EntriesReadable, List.forall_mem_cons, ih]

mutual

theorem Value.Readable.allFloats {v : Value (List Char)} (h : v.Readable) : v.AllFloats IsFloat := by
  cases v with
  | null | bool | int | str => trivial
  | float literal => exact h.1
  | arr xs => exact AllReadable.allFloats h
  | obj entries => exact EntriesReadable.allFloats h.2

theorem AllReadable.allFloats {vs : List (Value (List Char))} (h : AllReadable vs) :
    AllFloatsOf IsFloat vs := by
  match vs with
  | [] => trivial
  | v :: vs => exact ⟨Value.Readable.allFloats h.1, AllReadable.allFloats h.2⟩

theorem EntriesReadable.allFloats {entries : List (List Char × Value (List Char))}
    (h : EntriesReadable entries) : AllFloatsIn IsFloat entries := by
  match entries with
  | [] => trivial
  | (_, v) :: entries => exact ⟨Value.Readable.allFloats h.1, EntriesReadable.allFloats h.2⟩

end

/-! ## Numbers -/

theorem head?_toDigits (n : Nat) : (Nat.toDigits 10 n).head? = some '0' ↔ n = 0 := by
  induction n using Nat.strongRecOn with
  | _ n ih =>
    rw [Nat.toDigits_eq_if (by decide)]
    split_ifs with h
    · rw [List.head?_cons, Option.some.injEq]
      interval_cases n <;> decide
    · rw [List.head?_append_of_ne_nil _ Nat.toDigits_ne_nil, ih _ (by omega)]
      omega

theorem takeWhile_toDigits (n : Nat) :
    (Nat.toDigits 10 n).takeWhile Char.isDigit = Nat.toDigits 10 n :=
  List.takeWhile_eq_self_iff.2 fun _ hc => Nat.isDigit_of_mem_toDigits (by decide) (by decide) hc

theorem dropWhile_toDigits (n : Nat) : (Nat.toDigits 10 n).dropWhile Char.isDigit = [] :=
  List.dropWhile_eq_nil_iff.2 fun _ hc => Nat.isDigit_of_mem_toDigits (by decide) (by decide) hc

/-- An integer that is not too long is read. -/
theorem isSome_number?_toString {i : Int} (h : i.natAbs < 10 ^ maxDigits) :
    (number? (toString i).toList : Option (Value Str)).isSome = true := by
  have hwhole : ∀ (sign : Int) (literal : List Char) (n : Nat), n < 10 ^ maxDigits →
      (if (Nat.toDigits 10 n).takeWhile Char.isDigit = [] ∨
          ((Nat.toDigits 10 n).takeWhile Char.isDigit).head? = some '0' ∧
            (Nat.toDigits 10 n).takeWhile Char.isDigit ≠ ['0'] then none
        else if (Nat.toDigits 10 n).dropWhile Char.isDigit = [] then
          if ((Nat.toDigits 10 n).takeWhile Char.isDigit).length ≤ maxDigits then
            some (Value.int (S := Str) (sign * decimal ((Nat.toDigits 10 n).takeWhile Char.isDigit)))
          else none
        else if isFraction ((Nat.toDigits 10 n).dropWhile Char.isDigit) then some (.float literal)
        else none).isSome = true := by
    intro sign literal n hn
    rw [takeWhile_toDigits, dropWhile_toDigits, if_neg, if_pos rfl,
      if_pos ((Nat.length_toDigits_le_iff (by decide) (by decide)).2 hn)]
    · rfl
    · rintro (hnil | ⟨hhead, hne⟩)
      · exact Nat.toDigits_ne_nil hnil
      · rw [(head?_toDigits n).1 hhead] at hne
        exact hne (Nat.toDigits_zero 10)
  cases i with
  | ofNat n =>
    have hchars : (toString (Int.ofNat n)).toList = Nat.toDigits 10 n := Nat.toList_repr
    have hhead : ∀ s, Nat.toDigits 10 n ≠ '-' :: s := by
      intro s hs
      have hdigit : Char.isDigit '-' = true := Nat.isDigit_of_mem_toDigits (n := n) (b := 10)
        (by decide) (by decide) (by rw [hs]; exact List.mem_cons_self)
      cases hdigit
    rw [hchars, number?.eq_def]
    split
    rename_i sign s heq
    split at heq
    · rename_i s' hs
      exact absurd hs (hhead s')
    · cases heq
      exact hwhole 1 _ n h
  | negSucc n =>
    have hchars : (toString (Int.negSucc n)).toList = '-' :: Nat.toDigits 10 (n + 1) := by
      have hneg : toString (Int.negSucc n) = "-" ++ Nat.repr (n + 1) := rfl
      rw [hneg, String.toList_append, Nat.toList_repr]
      rfl
    rw [hchars, number?.eq_def]
    exact hwhole (-1) _ (n + 1) h

end JsonText

end StateLib
