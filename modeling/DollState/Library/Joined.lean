import Mathlib.Data.List.Basic
import Mathlib.Data.List.DropRight

/-!
# Lists joined by a separator

Joining lists by a separator that may be in them is not injective. Two lists of the same number of parts
are joined to the same exactly if they are `Shifted`: up to some part they agree, and there one goes on
where the other has its separator (`intercalate_eq_iff`).
-/

namespace StateLib

namespace Joined

variable {α : Type*} (sep : α)

/-- One part goes on with a separator and what the next parts of the other begin with. -/
def Goes (a : List α) (as : List (List α)) (b : List α) (bs : List (List α)) : Prop :=
  ∃ m, b = a ++ sep :: m ∧ [sep].intercalate as = m ++ sep :: [sep].intercalate bs

/-- The parts are the same, or a separator of the one stands within a part of the other. -/
def Shifted : List (List α) → List (List α) → Prop
  | [a], [b] => a = b
  | a :: as, b :: bs =>
    (a = b ∧ Shifted as bs) ∨ Goes sep a as b bs ∨ Goes sep b bs a as
  | _, _ => False

variable {sep}

theorem intercalate_cons_of_ne_nil {a : List α} {as : List (List α)} (h : as ≠ []) :
    [sep].intercalate (a :: as) = a ++ sep :: [sep].intercalate as := by
  obtain ⟨b, bs, rfl⟩ := List.exists_cons_of_ne_nil h
  rw [List.intercalate_cons_cons]
  simp

theorem append_cons_eq_append_cons {a b r s : List α} :
    a ++ sep :: r = b ++ sep :: s ↔ (a = b ∧ r = s) ∨ (∃ m, b = a ++ sep :: m ∧ r = m ++ sep :: s) ∨
      ∃ m, a = b ++ sep :: m ∧ s = m ++ sep :: r := by
  rw [List.append_eq_append_iff]
  constructor
  · rintro (⟨m, rfl, hm⟩ | ⟨m, rfl, hm⟩)
    · cases m with
      | nil => exact .inl ⟨(List.append_nil a).symm, (List.cons.inj hm).2⟩
      | cons c m =>
        obtain ⟨rfl, rfl⟩ := List.cons.inj hm
        exact .inr (.inl ⟨m, rfl, rfl⟩)
    · cases m with
      | nil => exact .inl ⟨List.append_nil b, (List.cons.inj hm).2.symm⟩
      | cons c m =>
        obtain ⟨rfl, rfl⟩ := List.cons.inj hm
        exact .inr (.inr ⟨m, rfl, rfl⟩)
  · rintro (⟨rfl, rfl⟩ | ⟨m, rfl, rfl⟩ | ⟨m, rfl, rfl⟩)
    · exact .inl ⟨[], by simp, rfl⟩
    · exact .inl ⟨sep :: m, rfl, rfl⟩
    · exact .inr ⟨sep :: m, rfl, rfl⟩

/-- Lists of as many parts are joined to the same exactly if they are shifted. -/
theorem intercalate_eq_iff {as bs : List (List α)} (hne : as ≠ []) (hlength : as.length = bs.length) :
    [sep].intercalate as = [sep].intercalate bs ↔ Shifted sep as bs := by
  induction as generalizing bs with
  | nil => exact absurd rfl hne
  | cons a as ih =>
    obtain ⟨b, bs, rfl⟩ := List.exists_cons_of_length_eq_add_one hlength.symm
    rw [List.length_cons, List.length_cons, Nat.add_right_cancel_iff] at hlength
    cases as with
    | nil =>
      obtain rfl := List.length_eq_zero_iff.1 hlength.symm
      simp [Shifted]
    | cons a' as =>
      obtain ⟨b', bs, rfl⟩ := List.exists_cons_of_length_eq_add_one hlength.symm
      rw [intercalate_cons_of_ne_nil (List.cons_ne_nil _ _),
        intercalate_cons_of_ne_nil (List.cons_ne_nil _ _), append_cons_eq_append_cons,
        ih (List.cons_ne_nil _ _) hlength]
      rfl

/-! ## Dropping at the end -/

variable {p : α → Bool}

/-- The parts, the last of them without the elements at its end that meet the condition. -/
def trimLast (p : α → Bool) : List (List α) → List (List α)
  | [] => []
  | [a] => [a.rdropWhile p]
  | a :: b :: bs => a :: trimLast p (b :: bs)

@[simp] theorem length_trimLast (as : List (List α)) : (trimLast p as).length = as.length := by
  fun_induction trimLast p as with
  | case1 => rfl
  | case2 => rfl
  | case3 a b bs ih => exact congrArg (· + 1) ih

theorem rdropWhile_append_cons {c : α} (hc : p c = false) (a s : List α) :
    (a ++ c :: s).rdropWhile p = a ++ c :: s.rdropWhile p := by
  induction s using List.reverseRecOn with
  | nil =>
    rw [List.rdropWhile_concat_neg _ _ _ (by simp [hc])]
    rfl
  | append_singleton s d ih =>
    rw [← List.cons_append, ← List.append_assoc]
    cases hd : p d with
    | false =>
      rw [List.rdropWhile_concat_neg _ _ _ (by simp [hd]),
        List.rdropWhile_concat_neg _ _ _ (by simp [hd])]
      simp
    | true =>
      rw [List.rdropWhile_concat_pos _ _ _ hd, List.rdropWhile_concat_pos _ _ _ hd, ih]

/-- What is dropped at the end of joined parts is dropped at the end of the last. -/
theorem rdropWhile_intercalate (hsep : p sep = false) (a : List α) {as : List (List α)}
    (hne : as ≠ []) : (a ++ sep :: [sep].intercalate as).rdropWhile p =
      a ++ sep :: [sep].intercalate (trimLast p as) := by
  induction as generalizing a with
  | nil => exact absurd rfl hne
  | cons b bs ih =>
    cases bs with
    | nil => simpa [trimLast] using rdropWhile_append_cons hsep a b
    | cons b' bs =>
      have hmore : trimLast p (b' :: bs) ≠ [] := List.ne_nil_of_length_pos (by simp)
      rw [trimLast, intercalate_cons_of_ne_nil (List.cons_ne_nil _ _),
        intercalate_cons_of_ne_nil hmore, ← List.cons_append, ← List.append_assoc,
        ih (a ++ sep :: b) (List.cons_ne_nil _ _)]
      simp

end Joined

end StateLib
