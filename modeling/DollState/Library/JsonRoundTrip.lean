import DollState.Library.JsonLoads
import DollState.Library.JsonReadable

/-!
# `json.loads` of what `json.dumps` has written

`loadsValue_write` says what the decoder makes of the text of a value whose numbers it takes and whose
keys are distinct: the value, if its containers fit the levels that the recursion limit leaves, and a
recursion error otherwise. The fuel of the decoder is no limit to texts that have been written.
-/

namespace StateLib

namespace JsonText

/-! ## Numbers -/

/-- The parts of a number: a sign, digits without a leading zero, and what follows them. -/
structure NumberParts (sign : Int) (signText whole tail : List Char) : Prop where
  sign : signText = [] ∧ sign = 1 ∨ signText = ['-'] ∧ sign = -1
  digits : ∀ c ∈ whole, c.isDigit = true
  ne_nil : whole ≠ []
  leadingZero : whole.head? = some '0' → whole = ['0']
  tail : ∀ c ∈ tail.head?, c.isDigit = false

/-- A number that is read is an integer without anything behind its digits, or has a fraction or an
exponent there. -/
theorem exists_numberParts {t : List Char} {v : Value Str} (h : number? t = some v) :
    ∃ sign signText whole tail, t = signText ++ (whole ++ tail) ∧
      NumberParts sign signText whole tail ∧
      (tail = [] ∧ whole.length ≤ maxDigits ∧ v = .int (sign * decimal whole) ∨
        tail ≠ [] ∧ isFraction tail = true ∧ v = .float t) := by
  have hparts : ∀ (sign : Int) (signText s : List Char), t = signText ++ s →
      (signText = [] ∧ sign = 1 ∨ signText = ['-'] ∧ sign = -1) →
      (if s.takeWhile Char.isDigit = [] ∨ ((s.takeWhile Char.isDigit).head? = some '0' ∧
          s.takeWhile Char.isDigit ≠ ['0']) then none
        else if s.dropWhile Char.isDigit = [] then
          if (s.takeWhile Char.isDigit).length ≤ maxDigits then
            some (Value.int (S := Str) (sign * decimal (s.takeWhile Char.isDigit))) else none
        else if isFraction (s.dropWhile Char.isDigit) then some (.float t)
        else none) = some v →
      ∃ sign signText whole tail, t = signText ++ (whole ++ tail) ∧
        NumberParts sign signText whole tail ∧
        (tail = [] ∧ whole.length ≤ maxDigits ∧ v = .int (sign * decimal whole) ∨
          tail ≠ [] ∧ isFraction tail = true ∧ v = .float t) := by
    intro sign signText s ht hsign h
    have hdigits : ∀ c ∈ s.takeWhile Char.isDigit, c.isDigit = true := fun c hc =>
      List.mem_takeWhile_imp hc
    have htail : ∀ c ∈ (s.dropWhile Char.isDigit).head?, c.isDigit = false := by
      intro c hc
      have hnot := List.head?_dropWhile_not Char.isDigit s
      rw [Option.mem_def.1 hc] at hnot
      simpa using hnot
    refine ⟨sign, signText, s.takeWhile Char.isDigit, s.dropWhile Char.isDigit,
      by rw [List.takeWhile_append_dropWhile, ht], ?_⟩
    split_ifs at h with hwhole hrest hlength hfraction
    · rw [not_or, not_and_not_right] at hwhole
      exact ⟨⟨hsign, hdigits, hwhole.1, hwhole.2, htail⟩,
        .inl ⟨hrest, hlength, (Option.some.inj h).symm⟩⟩
    · rw [not_or, not_and_not_right] at hwhole
      exact ⟨⟨hsign, hdigits, hwhole.1, hwhole.2, htail⟩,
        .inr ⟨hrest, hfraction, (Option.some.inj h).symm⟩⟩
  rw [number?.eq_def] at h
  split at h
  rename_i sign s heq
  split at heq
  · cases heq
    exact hparts (-1) ['-'] _ rfl (.inr ⟨rfl, rfl⟩) h
  · cases heq
    exact hparts 1 [] _ rfl (.inl ⟨rfl, rfl⟩) h

theorem digits_append {ds tail : List Char} (hds : ∀ c ∈ ds, c.isDigit = true)
    (htail : ∀ c ∈ tail.head?, c.isDigit = false) : digits (ds ++ tail) = (ds, tail) := by
  have hrest : tail.takeWhile Char.isDigit = [] ∧ tail.dropWhile Char.isDigit = tail := by
    cases tail with
    | nil => exact ⟨rfl, rfl⟩
    | cons c tail => simp [htail c rfl]
  rw [digits, List.takeWhile_append_of_pos hds, List.dropWhile_append_of_pos hds, hrest.1, hrest.2,
    List.append_nil]

theorem NumberParts.wholePart {sign : Int} {signText whole tail : List Char}
    (h : NumberParts sign signText whole tail) :
    wholePart (signText ++ (whole ++ tail)) = some (signText ++ whole, tail) := by
  obtain ⟨c, ds, rfl⟩ := List.exists_cons_of_ne_nil h.ne_nil
  have hc := h.digits c List.mem_cons_self
  have hunsigned : wholePart.unsigned (c :: ds ++ tail) = some (c :: ds, tail) := by
    rw [List.cons_append, wholePart.unsigned.eq_def]
    split
    · rename_i s heq
      cases heq
      cases h.leadingZero rfl
      rfl
    · rename_i d s _ heq
      cases heq
      rw [if_pos hc, ← List.cons_append, digits_append h.digits h.tail]
    · rename_i heq
      cases heq
  rcases h.sign with ⟨rfl, -⟩ | ⟨rfl, -⟩
  · rw [List.nil_append, List.nil_append, wholePart.eq_def]
    split
    · rename_i s heq
      rw [List.cons_append, List.cons.injEq] at heq
      rw [heq.1] at hc
      cases hc
    · exact hunsigned
  · exact congrArg (Option.map fun x : List Char × List Char => ('-' :: x.1, x.2)) hunsigned

/-- What stops a number is no digit. -/
theorem Stop.not_isDigit {rest : List Char} (h : Stop rest) : ∀ c ∈ rest.head?, c.isDigit = false := by
  intro c hc
  have hnumber := h c hc
  simp only [isNumberChar, Bool.or_eq_false_iff] at hnumber
  exact hnumber.1.1.1.1.1

theorem exponentPart_append {e rest : List Char} (he : isExponent e = true) (hrest : Stop rest) :
    exponentPart (e ++ rest) = (e, rest) := by
  have hdigit := hrest.not_isDigit
  cases e with
  | nil =>
    rw [List.nil_append, exponentPart.eq_def]
    split
    · rename_i c s
      have hc := hrest c rfl
      have hne : ¬ (c = 'e' ∨ c = 'E') := by
        rintro (rfl | rfl) <;> cases hc
      split
      rw [if_neg fun h => hne h.1]
    · rfl
  | cons c s =>
    have hall : ∀ ds : List Char, (c == 'e' || c == 'E') && ds ≠ [] && ds.all Char.isDigit →
        (c = 'e' ∨ c = 'E') ∧ ds ≠ [] ∧ digits (ds ++ rest) = (ds, rest) := by
      intro ds h
      simp only [Bool.and_eq_true, Bool.or_eq_true, beq_iff_eq, decide_eq_true_eq] at h
      exact ⟨h.1.1, h.1.2, digits_append (List.all_eq_true.1 h.2) hdigit⟩
    rw [isExponent.eq_def] at he
    dsimp only at he
    rw [List.cons_append, exponentPart.eq_def]
    dsimp only
    split at he
    · rename_i s
      obtain ⟨hc, hne, hds⟩ := hall s he
      simp only [List.cons_append, hds]
      rw [if_pos ⟨hc, hne⟩]
      rfl
    · rename_i s
      obtain ⟨hc, hne, hds⟩ := hall s he
      simp only [List.cons_append, hds]
      rw [if_pos ⟨hc, hne⟩]
      rfl
    · rename_i hminus hplus
      obtain ⟨hc, hne, hds⟩ := hall s he
      obtain ⟨d, s, rfl⟩ := List.exists_cons_of_ne_nil hne
      split
      · rename_i heq
        rw [List.cons_append, List.cons.injEq] at heq
        exact absurd (by rw [heq.1]) (hminus s)
      · rename_i heq
        rw [List.cons_append, List.cons.injEq] at heq
        exact absurd (by rw [heq.1]) (hplus s)
      · simp only [hds]
        rw [if_pos ⟨hc, hne⟩]
        rfl

theorem fractionPart_append {tail rest : List Char} (h : isFraction tail = true) (hrest : Stop rest) :
    ∃ fraction exponent, tail = fraction ++ exponent ∧
      fractionPart (tail ++ rest) = (fraction, exponent ++ rest) ∧ isExponent exponent = true := by
  rw [isFraction.eq_def] at h
  split at h
  · rename_i s
    simp only [Bool.and_eq_true, decide_eq_true_eq] at h
    have hdigits : ∀ c ∈ s.takeWhile Char.isDigit, c.isDigit = true := fun c hc =>
      List.mem_takeWhile_imp hc
    have hstop : ∀ c ∈ (s.dropWhile Char.isDigit ++ rest).head?, c.isDigit = false := by
      cases hdrop : s.dropWhile Char.isDigit with
      | nil => exact hrest.not_isDigit
      | cons d more =>
        intro c hc
        cases hc
        have hnot := List.head?_dropWhile_not Char.isDigit s
        rw [hdrop] at hnot
        simpa using hnot
    have hsplit : digits (s ++ rest) = (s.takeWhile Char.isDigit, s.dropWhile Char.isDigit ++ rest) := by
      conv_lhs => rw [← List.takeWhile_append_dropWhile (p := Char.isDigit) (l := s)]
      rw [List.append_assoc]
      exact digits_append hdigits hstop
    refine ⟨'.' :: s.takeWhile Char.isDigit, s.dropWhile Char.isDigit, ?_, ?_, h.2⟩
    · rw [List.cons_append, List.takeWhile_append_dropWhile]
    · rw [List.cons_append, fractionPart.eq_def]
      simp only [hsplit]
      rw [if_neg h.1]
  · rename_i hpoint
    refine ⟨[], tail, rfl, ?_, h⟩
    rw [fractionPart.eq_def]
    split
    · rename_i s heq
      cases tail with
      | nil =>
        have hdot := hrest '.' (by rw [← List.nil_append rest, heq]; rfl)
        cases hdot
      | cons c tail =>
        rw [List.cons_append, List.cons.injEq] at heq
        exact absurd (by rw [heq.1]) (hpoint tail)
    · rfl

/-- A number that is read as a whole is read with other text behind it. -/
theorem loadsNumber_append {t rest : List Char} {v : Value Str} (h : number? t = some v)
    (hrest : Stop rest) : loadsNumber (t ++ rest) = .ok (v, rest) := by
  obtain ⟨sign, signText, whole, tail, rfl, hparts, htail⟩ := exists_numberParts h
  rcases htail with ⟨rfl, hlength, rfl⟩ | ⟨hne, hfraction, rfl⟩
  · have hwhole := (NumberParts.mk hparts.sign hparts.digits hparts.ne_nil hparts.leadingZero
      hrest.not_isDigit).wholePart
    have hplain : fractionPart rest = ([], rest) := by
      obtain ⟨fraction, exponent, hnil, hpart, -⟩ := @fractionPart_append [] rest rfl hrest
      obtain ⟨rfl, rfl⟩ := List.append_eq_nil_iff.1 hnil.symm
      simpa using hpart
    have hexponent : exponentPart rest = ([], rest) := exponentPart_append (e := []) rfl hrest
    have hint : intOf (signText ++ whole) = .ok (sign * decimal whole) := by
      rcases hparts.sign with ⟨rfl, rfl⟩ | ⟨rfl, rfl⟩
      · rw [List.nil_append, intOf.eq_def]
        split
        · have hdigit := hparts.digits '-' List.mem_cons_self
          cases hdigit
        · rw [if_pos hlength, one_mul]
      · show (if whole.length ≤ maxDigits then _ else _) = _
        rw [if_pos hlength, neg_one_mul]
        rfl
    simp only [List.append_nil, List.append_assoc] at hwhole ⊢
    rw [loadsNumber, hwhole]
    simp only [hplain, hexponent, and_self, if_true, hint]
    rfl
  · obtain ⟨fraction, exponent, rfl, hfractionPart, hexponent⟩ := fractionPart_append hfraction hrest
    have htail' : ∀ c ∈ (fraction ++ exponent ++ rest).head?, c.isDigit = false := by
      intro c hc
      rw [List.head?_append_of_ne_nil _ hne] at hc
      exact hparts.tail c hc
    have hwhole := (NumberParts.mk hparts.sign hparts.digits hparts.ne_nil hparts.leadingZero
      htail').wholePart
    have hnot : ¬ (fraction = [] ∧ exponent = []) := fun hnil =>
      hne (List.append_eq_nil_iff.2 hnil)
    rw [loadsNumber, List.append_assoc, List.append_assoc, hwhole]
    dsimp only
    rw [hfractionPart]
    dsimp only
    rw [exponentPart_append hexponent hrest, if_neg hnot]
    simp only [List.append_assoc]

/-! ## Values -/

section

variable {constant : List Char → Loads (Value Str)}
  {hook : List (Str × Value Str) → Loads (List (Str × Value Str))}

theorem loadsScalar_append {t rest : List Char} {v : Value Str} (h : number? t = some v)
    (hrest : Stop rest) : loadsScalar constant (t ++ rest) = .ok (v, rest) := by
  obtain ⟨sign, signText, whole, tail, ht, hparts, -⟩ := exists_numberParts h
  obtain ⟨c, ds, rfl⟩ := List.exists_cons_of_ne_nil hparts.ne_nil
  have hc := hparts.digits c List.mem_cons_self
  have hne : ∀ d, d.isDigit = false → c ≠ d := by
    rintro d hd rfl
    rw [hd] at hc
    cases hc
  -- a number starts with a digit, or with a sign and a digit
  have hhead : ∀ d s, t ++ rest = d :: s → d = c ∨ d = '-' ∧ ∃ s', s = c :: s' := by
    intro d s heq
    rw [ht] at heq
    rcases hparts.sign with ⟨rfl, -⟩ | ⟨rfl, -⟩
    · rw [List.nil_append, List.cons_append, List.cons_append, List.cons.injEq] at heq
      exact .inl heq.1.symm
    · rw [List.cons_append, List.cons_append, List.cons.injEq] at heq
      exact .inr ⟨heq.1.symm, _, heq.2.symm⟩
  have hletter : ∀ d s, d.isDigit = false → d ≠ '-' → t ++ rest ≠ d :: s := by
    intro d s hd hminus heq
    rcases hhead d s heq with hdc | ⟨hdc, -⟩
    · exact hne d hd hdc.symm
    · exact hminus hdc
  rw [loadsScalar.eq_def]
  split
  · rename_i heq
    exact absurd heq (hletter _ _ (by decide) (by decide))
  · rename_i heq
    exact absurd heq (hletter _ _ (by decide) (by decide))
  · rename_i heq
    exact absurd heq (hletter _ _ (by decide) (by decide))
  · rename_i heq
    exact absurd heq (hletter _ _ (by decide) (by decide))
  · rename_i heq
    exact absurd heq (hletter _ _ (by decide) (by decide))
  · rename_i heq
    rcases hhead _ _ heq with hdc | ⟨-, s', hs'⟩
    · exact absurd hdc.symm (hne _ (by decide))
    · rw [List.cons.injEq] at hs'
      exact absurd hs'.1.symm (hne _ (by decide))
  · exact loadsNumber_append h hrest

theorem loadsValue_cons (fuel levels : Nat) (c : Char) (s : List Char) :
    loadsValue constant hook (fuel + 1) levels (c :: s) =
      if c = '"' then do
        let (t, rest) ← loadsString s
        return (.str t, rest)
      else if c = '\x7b' then
        match levels with
        | 0 => .error .recursion
        | levels + 1 =>
          match next? '\x7d' s with
          | some rest => do
            let entries ← hook []
            return (.obj entries, rest)
          | none => loadsMembers constant hook fuel levels [] s
      else if c = '[' then
        match levels with
        | 0 => .error .recursion
        | levels + 1 =>
          match next? ']' s with
          | some rest => .ok (.arr [], rest)
          | none => loadsElements constant hook fuel levels [] s
      else loadsScalar constant (c :: s) :=
  (loadsValue.eq_def constant hook (fuel + 1) levels (c :: s)).trans rfl

theorem expect_cons {c : Char} (hc : isWhitespace c = false) (s : List Char) :
    expect c (c :: s) = .ok s := by
  rw [expect, next?_cons hc, if_pos rfl]

mutual

/-- A written value is read if its containers fit the levels. -/
theorem loadsValue_write
    (hhook : ∀ pairs, (pairs.map Prod.fst).Nodup → hook pairs = .ok pairs) (v : Value (List Char))
    (hv : v.Readable) (fuel levels : Nat) {rest : List Char}
    (hfuel : 2 * (write v).length ≤ fuel) (hstop : Stop rest) :
    loadsValue constant hook fuel levels (write v ++ rest) =
      if depth v ≤ levels then .ok (v.ofTexts, rest) else .error .recursion := by
  have hpos : 0 < (write v).length := by
    obtain ⟨c, s, hc, -⟩ := write_head hv.allFloats
    rw [hc]
    exact Nat.succ_pos _
  obtain ⟨fuel, rfl⟩ := Nat.exists_eq_succ_of_ne_zero (show fuel ≠ 0 by omega)
  have hnumber : ∀ (t : List Char) (w : Value Str), (∀ c ∈ t, isNumberChar c = true) → t ≠ [] →
      number? t = some w → loadsValue constant hook (fuel + 1) levels (t ++ rest) = .ok (w, rest) := by
    intro t w ht hne hw
    obtain ⟨c, s, rfl⟩ := List.exists_cons_of_ne_nil hne
    have hc : ∀ d, isNumberChar d = false → c ≠ d := by
      rintro d hd rfl
      exact absurd ((ht c List.mem_cons_self).symm.trans hd) (by decide)
    rw [List.cons_append, loadsValue_cons, if_neg (hc _ (by decide)), if_neg (hc _ (by decide)),
      if_neg (hc _ (by decide))]
    exact loadsScalar_append hw hstop
  cases v with
  | null => rfl
  | bool b => cases b <;> rfl
  | int i =>
    obtain ⟨w, hw⟩ := Option.isSome_iff_exists.1 (isSome_number?_toString hv)
    rw [write, hnumber _ w (fun _ => isNumberChar_of_mem_toString) (toString_int_ne_nil i) hw,
      number?_toString hw]
    rfl
  | float literal =>
    obtain ⟨w, hw⟩ := Option.isSome_iff_exists.1 hv.2
    rw [write, hnumber _ w hv.1.1 hv.1.ne_nil hw, number?_float hv.1 hw]
    rfl
  | str s =>
    have hstring : loadsString (s.flatMap escape ++ ('"' :: rest)) = .ok (Str.ofText s, rest) := by
      rw [loadsString, units_escaped]
      dsimp only
      rw [pair_ofText]
    rw [write, quote, List.cons_append, List.cons_append, loadsValue_cons, if_pos rfl,
      List.append_assoc, List.singleton_append, hstring]
    rfl
  | arr xs =>
    rw [write, List.cons_append, loadsValue_cons, if_neg (by decide), if_neg (by decide), if_pos rfl,
      depth]
    cases levels with
    | zero => rw [if_neg (by omega)]
    | succ levels =>
      cases xs with
      | nil => rfl
      | cons v vs =>
        rw [write, writeElements, List.length_cons] at hfuel
        have hread := loadsElements_write hhook v vs hv fuel levels [] rest (by omega)
        rw [writeElements, List.append_assoc]
        dsimp only
        rw [next?_write hv.1.allFloats (by decide)]
        exact hread.trans (if_congr (by omega) rfl rfl)
  | obj entries =>
    rw [write, List.cons_append, loadsValue_cons, if_neg (by decide), if_pos rfl, depth]
    cases levels with
    | zero => rw [if_neg (by omega)]
    | succ levels =>
      cases entries with
      | nil =>
        have hempty := hhook [] List.nodup_nil
        show (hook [] >>= fun entries => pure (Value.obj entries, rest)) = _
        rw [hempty]
        rfl
      | cons e entries =>
        rw [write, List.length_cons] at hfuel
        have hnodup : (([] ++ ofTextsEntries (e :: entries)).map Prod.fst).Nodup := by
          rw [List.nil_append, ofTextsEntries_eq_map, List.map_map]
          have hkeys := hv.1.map (f := Str.ofText) fun a b => ofText_injective
          rwa [List.map_map] at hkeys
        have hread := loadsMembers_write hhook e entries hv.2 fuel levels [] rest (by omega) hnodup
        have hnext : next? '\x7d' (writeEntries (e :: entries) ++ rest) = none := by
          show next? '\x7d' ('"' :: _) = none
          rw [next?_cons (by decide), if_neg (by decide)]
        dsimp only
        rw [hnext]
        exact hread.trans (if_congr (by omega) rfl rfl)
termination_by fuel

theorem loadsElements_write
    (hhook : ∀ pairs, (pairs.map Prod.fst).Nodup → hook pairs = .ok pairs) (v : Value (List Char))
    (vs : List (Value (List Char))) (hv : AllReadable (v :: vs)) (fuel levels : Nat)
    (acc : List (Value Str)) (rest : List Char)
    (hfuel : 2 * (write v ++ writeMoreElements vs).length ≤ fuel) :
    loadsElements constant hook fuel levels acc (write v ++ (writeMoreElements vs ++ rest)) =
      if depth.depths (v :: vs) ≤ levels then .ok (.arr (acc ++ ofTextsAll (v :: vs)), rest)
      else .error .recursion := by
  have hmore : 0 < (writeMoreElements vs).length := by
    cases vs <;> exact Nat.succ_pos _
  rw [List.length_append] at hfuel
  obtain ⟨fuel, rfl⟩ := Nat.exists_eq_succ_of_ne_zero (show fuel ≠ 0 by omega)
  have hread := loadsValue_write hhook v hv.1 fuel levels (by omega)
    (stop_writeMoreElements vs rest)
  rw [loadsElements, skip_write hv.1.allFloats, hread, depth.depths]
  by_cases hdepth : depth v ≤ levels
  · rw [if_pos hdepth]
    cases vs with
    | nil => exact (if_pos (max_le hdepth (Nat.zero_le _))).symm
    | cons w ws =>
      rw [writeMoreElements, List.length_append, List.length_cons] at hfuel
      have hnext : next? ']' (writeMoreElements (w :: ws) ++ rest) = none := by
        rw [writeMoreElements, List.cons_append, List.cons_append, next?_cons (by decide),
          if_neg (by decide)]
      have hrest : expect ',' (writeMoreElements (w :: ws) ++ rest) =
          .ok (write w ++ (writeMoreElements ws ++ rest)) := by
        rw [writeMoreElements, List.cons_append, List.cons_append, expect_cons (by decide),
          List.append_assoc]
      have htail := loadsElements_write hhook w ws hv.2 fuel levels (acc ++ [v.ofTexts]) rest
        (by rw [List.length_append]; omega)
      show (match next? ']' (writeMoreElements (w :: ws) ++ rest) with
        | some rest => Except.ok (Value.arr (acc ++ [v.ofTexts]), rest)
        | none => do
          let s ← expect ',' (writeMoreElements (w :: ws) ++ rest)
          loadsElements constant hook fuel levels (acc ++ [v.ofTexts]) s) = _
      rw [hnext, hrest]
      refine htail.trans (if_congr ?_ ?_ rfl)
      · rw [max_le_iff, and_iff_right hdepth]
      · rw [ofTextsAll, ofTextsAll, ofTextsAll, List.append_assoc, List.singleton_append]
  · rw [if_neg hdepth, if_neg fun h => hdepth (le_trans (le_max_left _ _) h)]
    rfl
termination_by fuel

theorem loadsMembers_write
    (hhook : ∀ pairs, (pairs.map Prod.fst).Nodup → hook pairs = .ok pairs)
    (e : List Char × Value (List Char)) (entries : List (List Char × Value (List Char)))
    (hv : EntriesReadable (e :: entries)) (fuel levels : Nat) (acc : List (Str × Value Str))
    (rest : List Char) (hfuel : 2 * (writeEntries (e :: entries)).length ≤ fuel)
    (hnodup : ((acc ++ ofTextsEntries (e :: entries)).map Prod.fst).Nodup) :
    loadsMembers constant hook fuel levels acc (writeEntries (e :: entries) ++ rest) =
      if depth.entryDepths (e :: entries) ≤ levels then
        .ok (.obj (acc ++ ofTextsEntries (e :: entries)), rest)
      else .error .recursion := by
  obtain ⟨key, v⟩ := e
  have hquote : writeEntries ((key, v) :: entries) ++ rest =
      '"' :: (key.flatMap escape ++ '"' :: ':' :: (write v ++ (writeMoreEntries entries ++ rest))) := by
    simp [writeEntries, quote]
  have hlength : (writeEntries ((key, v) :: entries)).length =
      (key.flatMap escape).length + 3 + (write v).length + (writeMoreEntries entries).length := by
    simp only [writeEntries, quote, List.length_append, List.length_cons, List.length_nil]
    omega
  rw [hlength] at hfuel
  obtain ⟨fuel, rfl⟩ := Nat.exists_eq_succ_of_ne_zero (show fuel ≠ 0 by omega)
  have hread := loadsValue_write hhook v hv.1 fuel levels (by omega)
    (stop_writeMoreEntries entries rest)
  have hkey : loadsString (key.flatMap escape ++
      '"' :: ':' :: (write v ++ (writeMoreEntries entries ++ rest))) =
      .ok (Str.ofText key, ':' :: (write v ++ (writeMoreEntries entries ++ rest))) := by
    rw [loadsString, units_escaped]
    dsimp only
    rw [pair_ofText]
  rw [loadsMembers, hquote, expect_cons (by decide)]
  simp only [bind, Except.bind, hkey, expect_cons (show isWhitespace ':' = false by decide)]
  rw [skip_write hv.1.allFloats, hread, depth.entryDepths]
  by_cases hdepth : depth v ≤ levels
  · rw [if_pos hdepth]
    cases entries with
    | nil =>
      have hclose : next? '\x7d' (writeMoreEntries [] ++ rest) = some rest := by
        rw [writeMoreEntries, List.singleton_append, next?_cons (by decide), if_pos rfl]
      have hlast : hook (acc ++ [(Str.ofText key, v.ofTexts)]) =
          .ok (acc ++ [(Str.ofText key, v.ofTexts)]) := hhook _ hnodup
      dsimp only
      rw [hclose]
      dsimp only
      rw [hlast]
      exact (if_pos (max_le hdepth (Nat.zero_le _))).symm
    | cons e entries =>
      have hmore : writeMoreEntries (e :: entries) ++ rest =
          ',' :: (writeEntries (e :: entries) ++ rest) := rfl
      have hshorter : (writeMoreEntries (e :: entries)).length =
          1 + (writeEntries (e :: entries)).length := by
        rw [Nat.add_comm]
        rfl
      have hassoc : acc ++ ofTextsEntries ((key, v) :: e :: entries) =
          acc ++ [(Str.ofText key, v.ofTexts)] ++ ofTextsEntries (e :: entries) := by
        rw [ofTextsEntries, List.append_assoc, List.singleton_append]
      rw [hassoc] at hnodup ⊢
      have htail := loadsMembers_write hhook e entries hv.2 fuel levels
        (acc ++ [(Str.ofText key, v.ofTexts)]) rest (by omega) hnodup
      dsimp only
      rw [hmore, next?_cons (by decide), if_neg (by decide), expect_cons (by decide)]
      refine htail.trans (if_congr ?_ rfl rfl)
      rw [max_le_iff, and_iff_right hdepth]
  · rw [if_neg hdepth, if_neg fun h => hdepth (le_trans (le_max_left _ _) h)]
termination_by fuel

end

/-- A written text, with white space behind it, is read if the containers of its value fit the
levels. -/
theorem loadsHooked_write
    (hhook : ∀ pairs, (pairs.map Prod.fst).Nodup → hook pairs = .ok pairs) {v : Value (List Char)}
    (hv : v.Readable) (levels : Nat) {rest : List Char} (hstop : Stop rest) (hrest : skip rest = []) :
    loadsHooked constant hook levels (write v ++ rest) =
      if depth v ≤ levels then .ok v.ofTexts else .error .recursion := by
  have hread := @loadsValue_write constant _ hhook v hv (2 * (write v ++ rest).length + 2) levels rest
    (by rw [List.length_append]; omega) hstop
  rw [loadsHooked, skip_write hv.allFloats, hread]
  split_ifs
  · show (if skip rest = [] then _ else _) = _
    rw [if_pos hrest]
    rfl
  · rfl

end

/-- Distinct keys are put into a dictionary in their order. -/
theorem dictOf_eq_self {pairs : List (Str × Value Str)} (h : (pairs.map Prod.fst).Nodup) :
    dictOf pairs = pairs := by
  have hput : ∀ (before after : List (Str × Value Str)),
      ((before ++ after).map Prod.fst).Nodup → after.foldl putEntry before = before ++ after := by
    intro before after
    induction after generalizing before with
    | nil => simp
    | cons e after ih =>
      intro hnodup
      have hfresh : e.1 ∉ before.map Prod.fst := by
        rw [List.map_append, List.map_cons] at hnodup
        intro hmem
        exact (List.nodup_append'.1 hnodup).2.2 hmem List.mem_cons_self
      rw [List.foldl_cons, putEntry, if_neg hfresh, ih _ (by simpa using hnodup),
        List.append_assoc, List.singleton_append]
  exact hput [] pairs h

theorem loads_write_append {constant : List Char → Loads (Value Str)} {v : Value (List Char)}
    (hv : v.Readable) (levels : Nat) {rest : List Char} (hstop : Stop rest) (hrest : skip rest = []) :
    loads constant levels (write v ++ rest) =
      if depth v ≤ levels then .ok v.ofTexts else .error .recursion :=
  loadsHooked_write (fun _ hnodup => congrArg Except.ok (dictOf_eq_self hnodup)) hv levels hstop hrest

theorem loads_write {constant : List Char → Loads (Value Str)} {v : Value (List Char)}
    (hv : v.Readable) (levels : Nat) :
    loads constant levels (write v) =
      if depth v ≤ levels then .ok v.ofTexts else .error .recursion := by
  have hstop : Stop [] := fun c hc => by cases hc
  simpa using loads_write_append hv levels hstop rfl

end JsonText

end StateLib
