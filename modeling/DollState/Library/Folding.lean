import Mathlib.Data.List.Infix
import Mathlib.Data.List.TakeDrop

/-!
# Texts that are folded symbol by symbol

A text is folded when each of its symbols is replaced by a list of symbols. Positions in the text and in
its folding are not the same: what a window of the text folds to lies in the folding between the lengths
that the parts before its two ends fold to (`flatMap_window`). A needle is found in the folding of a window
exactly if it occurs in the folded text between these two positions (`infix_window_iff`).
-/

namespace StateLib.Folding

variable {α β : Type*}

/-! ## Occurrences -/

/-- The needle occurs in the text at a position. -/
def OccursAt (needle text : List β) (p : ℕ) : Prop := needle <+: text.drop p

instance [DecidableEq β] (needle text : List β) (p : ℕ) : Decidable (OccursAt needle text p) :=
  inferInstanceAs (Decidable (needle <+: text.drop p))

theorem exists_occursAt {needle text : List β} (h : needle <:+: text) :
    ∃ p ≤ text.length, OccursAt needle text p := by
  obtain ⟨u, v, rfl⟩ := h
  refine ⟨u.length, by simp, ?_⟩
  rw [OccursAt, List.append_assoc, List.drop_left]
  exact List.prefix_append _ _

theorem length_le_of_occursAt {needle text : List β} {p : ℕ} (h : OccursAt needle text p)
    (hp : p ≤ text.length) : p + needle.length ≤ text.length := by
  have hlength := h.length_le
  rw [List.length_drop] at hlength
  omega

/-- The position of the first occurrence. -/
def find? [DecidableEq β] (needle text : List β) : Option ℕ :=
  (List.range (text.length + 1)).find? fun p => OccursAt needle text p

theorem occursAt_of_find? [DecidableEq β] {needle text : List β} {p : ℕ} (h : find? needle text = some p) :
    OccursAt needle text p ∧ p ≤ text.length := by
  unfold find? at h
  have hp := List.mem_range.1 (List.mem_of_find?_eq_some h)
  exact ⟨by simpa using List.find?_some h, by omega⟩

theorem exists_find? [DecidableEq β] {needle text : List β} (h : needle <:+: text) :
    ∃ p, find? needle text = some p := by
  obtain ⟨p, hp, hocc⟩ := exists_occursAt h
  rw [← Option.isSome_iff_exists, find?, List.find?_isSome]
  exact ⟨p, List.mem_range.2 (by omega), decide_eq_true hocc⟩

/-! ## Windows -/

/-- An occurrence between two positions is one in the slice between them. -/
theorem infix_slice_iff {needle text : List β} {a b : ℕ} (hab : a ≤ b) (hb : b ≤ text.length) :
    needle <:+: (text.take b).drop a ↔ ∃ p, OccursAt needle text p ∧ a ≤ p ∧ p + needle.length ≤ b := by
  constructor
  · rintro ⟨u, v, huv⟩
    refine ⟨a + u.length, ?_, by omega, ?_⟩
    · have hdrop : (text.take b).drop (a + u.length) = needle ++ v := by
        rw [← List.drop_drop, ← huv, List.append_assoc, List.drop_left]
      rw [List.drop_take] at hdrop
      exact ⟨v ++ (text.drop (a + u.length)).drop (b - (a + u.length)), by
        rw [← List.append_assoc, ← hdrop, List.take_append_drop]⟩
    · have hlength := congrArg List.length huv
      simp only [List.length_append, List.length_drop, List.length_take] at hlength
      omega
  · rintro ⟨p, hocc, hap, hpb⟩
    have hprefix : needle <+: (text.take b).drop p := by
      rw [List.drop_take]
      exact List.prefix_take_iff.2 ⟨hocc, by omega⟩
    refine hprefix.isInfix.trans ?_
    rw [show p = a + (p - a) by omega, ← List.drop_drop]
    exact (List.drop_suffix _ _).isInfix

variable (f : α → List β) (text : List α)

/-- The length that the symbols before a position fold to. -/
def foldedLength (k : ℕ) : ℕ := ((text.take k).flatMap f).length

variable {f text}

theorem foldedLength_mono {s e : ℕ} (h : s ≤ e) : foldedLength f text s ≤ foldedLength f text e := by
  rw [foldedLength, foldedLength, show e = s + (e - s) by omega, List.take_add, List.flatMap_append,
    List.length_append]
  omega

theorem foldedLength_le (e : ℕ) : foldedLength f text e ≤ (text.flatMap f).length := by
  conv_rhs => rw [← List.take_append_drop e text, List.flatMap_append, List.length_append]
  exact Nat.le_add_right _ _

/-- What a window folds to is a slice of the folded text. -/
theorem flatMap_window {s e : ℕ} (h : s ≤ e) : ((text.take e).drop s).flatMap f =
    ((text.flatMap f).take (foldedLength f text e)).drop (foldedLength f text s) := by
  have htake : (text.flatMap f).take (foldedLength f text e) = (text.take e).flatMap f := by
    have hparts : text.flatMap f = (text.take e).flatMap f ++ (text.drop e).flatMap f := by
      rw [← List.flatMap_append, List.take_append_drop]
    rw [hparts]
    exact List.take_left' rfl
  have hsplit : (text.take e).flatMap f = (text.take s).flatMap f ++ ((text.take e).drop s).flatMap f := by
    rw [← List.flatMap_append]
    congr 1
    conv_lhs => rw [← List.take_append_drop s (text.take e), List.take_take, min_eq_left h]
  rw [htake, hsplit]
  exact (List.drop_left' rfl).symm

theorem infix_window_iff {needle : List β} {s e : ℕ} (h : s ≤ e) :
    needle <:+: ((text.take e).drop s).flatMap f ↔ ∃ p, OccursAt needle (text.flatMap f) p ∧
      foldedLength f text s ≤ p ∧ p + needle.length ≤ foldedLength f text e := by
  rw [flatMap_window h]
  exact infix_slice_iff (foldedLength_mono h) (foldedLength_le e)

/-- Where no symbol changes its length, positions stay what they are. -/
theorem foldedLength_of_one (h : ∀ c ∈ text, (f c).length = 1) (k : ℕ) :
    foldedLength f text k = min k text.length := by
  have hall : ∀ l : List α, (∀ c ∈ l, (f c).length = 1) → (l.flatMap f).length = l.length := by
    intro l hl
    induction l with
    | nil => rfl
    | cons c l ih =>
      rw [List.forall_mem_cons] at hl
      rw [List.flatMap_cons, List.length_append, hl.1, ih hl.2, List.length_cons, Nat.add_comm]
  rw [foldedLength, hall _ fun c hc => h c (List.mem_of_mem_take hc), List.length_take]

end StateLib.Folding
