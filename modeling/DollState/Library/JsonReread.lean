import DollState.Library.JsonCanonical

/-!
# Reading a written JSON text

What `write` has written is read back as the value that was written: `value_write`. Reading may still
fail, for a text with too many containers inside one another or with an integer of too many digits, so
the rule is about a text that has been read.
-/

namespace StateLib

namespace JsonText

/-! ## Values as the decoder returns them -/

mutual

/-- A value with its texts as strings. -/
def Value.ofTexts : Value (List Char) → Value Str
  | .null => .null
  | .bool b => .bool b
  | .int i => .int i
  | .float literal => .float literal
  | .str s => .str (Str.ofText s)
  | .arr xs => .arr (ofTextsAll xs)
  | .obj entries => .obj (ofTextsEntries entries)

def ofTextsAll : List (Value (List Char)) → List (Value Str)
  | [] => []
  | v :: vs => v.ofTexts :: ofTextsAll vs

def ofTextsEntries : List (List Char × Value (List Char)) → List (Str × Value Str)
  | [] => []
  | (key, v) :: entries => (Str.ofText key, v.ofTexts) :: ofTextsEntries entries

end

theorem ofTextsAll_eq_map (vs : List (Value (List Char))) :
    ofTextsAll vs = vs.map Value.ofTexts := by
  induction vs with
  | nil => rfl
  | cons v vs ih => rw [ofTextsAll, ih, List.map_cons]

theorem ofTextsEntries_eq_map (entries : List (List Char × Value (List Char))) :
    ofTextsEntries entries = entries.map fun e => (Str.ofText e.1, e.2.ofTexts) := by
  induction entries with
  | nil => rfl
  | cons e entries ih => rw [ofTextsEntries, ih, List.map_cons]

@[simp] theorem toText?_ofText (s : List Char) : (Str.ofText s).toText? = some s := by
  induction s with
  | nil => rfl
  | cons c s ih =>
    rw [Str.ofText, List.map_cons, Str.toText?, List.mapM_cons]
    rw [Str.ofText, Str.toText?] at ih
    rw [ih]
    rfl

theorem ofText_of_toText? {s : Str} {t : List Char} (h : s.toText? = some t) : s = Str.ofText t := by
  induction s generalizing t with
  | nil =>
    cases h
    rfl
  | cons c s ih =>
    rw [Str.toText?, List.mapM_cons] at h
    obtain ⟨d, hd, h⟩ := Option.bind_eq_some_iff.1 h
    obtain ⟨u, hu, h⟩ := Option.bind_eq_some_iff.1 h
    cases h
    cases c with
    | surrogate n => cases hd
    | scalar c =>
      cases hd
      rw [ih hu]
      rfl

theorem ofText_injective {s t : List Char} (h : Str.ofText s = Str.ofText t) : s = t := by
  have htext := congrArg Str.toText? h
  rwa [toText?_ofText, toText?_ofText, Option.some.injEq] at htext

mutual

theorem Value.toText?_ofTexts (v : Value (List Char)) : v.ofTexts.toText? = some v := by
  cases v with
  | null | bool | int | float => rfl
  | str s => simp [Value.ofTexts, Value.toText?]
  | arr xs => simp [Value.ofTexts, Value.toText?, toTexts?_ofTextsAll xs]
  | obj entries => simp [Value.ofTexts, Value.toText?, toEntries?_ofTextsEntries entries]

theorem toTexts?_ofTextsAll (vs : List (Value (List Char))) :
    toTexts? (ofTextsAll vs) = some vs := by
  cases vs with
  | nil => rfl
  | cons v vs => simp [ofTextsAll, toTexts?, v.toText?_ofTexts, toTexts?_ofTextsAll vs]

theorem toEntries?_ofTextsEntries (entries : List (List Char × Value (List Char))) :
    toEntries? (ofTextsEntries entries) = some entries := by
  cases entries with
  | nil => rfl
  | cons e entries =>
    simp [ofTextsEntries, toEntries?, e.2.toText?_ofTexts, toEntries?_ofTextsEntries entries]

end

/-! ## The parts of a text -/

theorem pair_ofText (s : List Char) : pair (Str.ofText s) = Str.ofText s := by
  induction s with
  | nil => rfl
  | cons c s ih =>
    rw [Str.ofText, List.map_cons, pair.eq_def]
    exact congrArg (CodePoint.scalar c :: ·) ih

/-- An integer that is read back is the one that was written. -/
theorem number?_toString {i : Int} {w : Value Str} (h : number? (toString i).toList = some w) :
    w = .int i := by
  have hdecimal : ∀ n : Nat, decimal (Nat.toDigits 10 n) = n := fun n =>
    Nat.ofDigitChars_eq_foldl.symm.trans Nat.ofDigitChars_ten_toDigits
  have htake : ∀ n : Nat, (Nat.toDigits 10 n).takeWhile Char.isDigit = Nat.toDigits 10 n := fun n =>
    List.takeWhile_eq_self_iff.2 fun c hc => Nat.isDigit_of_mem_toDigits (by decide) (by decide) hc
  have hdrop : ∀ n : Nat, (Nat.toDigits 10 n).dropWhile Char.isDigit = [] := fun n =>
    List.dropWhile_eq_nil_iff.2 fun c hc => Nat.isDigit_of_mem_toDigits (by decide) (by decide) hc
  have hnat : ∀ (sign : Int) (n : Nat) (s : List Char), s = Nat.toDigits 10 n →
      (if s.takeWhile Char.isDigit = [] ∨ ((s.takeWhile Char.isDigit).head? = some '0' ∧
          s.takeWhile Char.isDigit ≠ ['0']) then none
        else if s.dropWhile Char.isDigit = [] then
          if (s.takeWhile Char.isDigit).length ≤ maxDigits then
            some (Value.int (S := Str) (sign * decimal (s.takeWhile Char.isDigit))) else none
        else if isFraction (s.dropWhile Char.isDigit) then some (.float (toString i).toList)
        else none) = some w → w = .int (sign * n) := by
    rintro sign n _ rfl h
    rw [htake, hdrop, hdecimal, if_pos rfl] at h
    split_ifs at h
    exact (Option.some.inj h).symm
  cases i with
  | ofNat n =>
    have hchars : (toString (Int.ofNat n)).toList = Nat.toDigits 10 n := Nat.toList_repr
    have hhead : ∀ s, (toString (Int.ofNat n)).toList ≠ '-' :: s := by
      intro s hs
      have hdigit : Char.isDigit '-' = true := Nat.isDigit_of_mem_toDigits (n := n) (b := 10)
        (by decide) (by decide) (by rw [← hchars, hs]; exact List.mem_cons_self)
      cases hdigit
    rw [number?.eq_def] at h
    split at h
    rename_i sign s heq
    split at heq
    · rename_i s' hs
      exact absurd hs (hhead s')
    · cases heq
      simpa using hnat 1 n _ hchars h
  | negSucc n =>
    have hchars : (toString (Int.negSucc n)).toList = '-' :: Nat.toDigits 10 (n + 1) := by
      have hneg : toString (Int.negSucc n) = "-" ++ Nat.repr (n + 1) := rfl
      rw [hneg, String.toList_append, Nat.toList_repr]
      rfl
    rw [number?.eq_def] at h
    split at h
    rename_i sign s heq
    split at heq
    · rename_i s' hs
      cases heq
      rw [hchars, List.cons.injEq] at hs
      have hw := hnat (-1) (n + 1) s hs.2.symm h
      rw [hw, Int.negSucc_eq]
      push_cast
      ring_nf
    · rename_i hne
      exact absurd hchars (hne _)

/-- A float that is read back is the one that was written. -/
theorem number?_float {t : List Char} (ht : IsFloat t) {w : Value Str} (h : number? t = some w) :
    w = .float t := by
  obtain ⟨c, hc, hdigit, hsign⟩ := ht.2
  have hmem : ∀ (sign : Int) (s : List Char), (∀ c ∈ t, c ∈ s ∨ c = '-') →
      (if s.takeWhile Char.isDigit = [] ∨ ((s.takeWhile Char.isDigit).head? = some '0' ∧
          s.takeWhile Char.isDigit ≠ ['0']) then none
        else if s.dropWhile Char.isDigit = [] then
          if (s.takeWhile Char.isDigit).length ≤ maxDigits then
            some (Value.int (S := Str) (sign * decimal (s.takeWhile Char.isDigit))) else none
        else if isFraction (s.dropWhile Char.isDigit) then some (.float t)
        else none) = some w → w = .float t := by
    intro sign s hs h
    split_ifs at h with hwhole hrest hlength hfraction
    · -- a text of digits is no float
      have hall := List.dropWhile_eq_nil_iff.1 hrest c ((hs c hc).resolve_right hsign)
      rw [hdigit] at hall
      cases hall
    · exact (Option.some.inj h).symm
  rw [number?.eq_def] at h
  split at h
  rename_i sign s heq
  split at heq
  · cases heq
    exact hmem _ _ (fun d hd => (List.mem_cons.1 hd).symm) h
  · cases heq
    exact hmem _ _ (fun d hd => .inl hd) h

/-! ## Reading a text that has been written -/

theorem lead_of_isWhitespace {c : Char} (h : isWhitespace c = true) : lead c = 7 := by
  simp only [isWhitespace, Bool.or_eq_true, beq_iff_eq] at h
  rcases h with ((rfl | rfl) | rfl) | rfl <;> decide

/-- No white space comes before a value. -/
theorem skip_write {v : Value (List Char)} (hv : v.AllFloats IsFloat) (s : List Char) :
    skip (write v ++ s) = write v ++ s := by
  obtain ⟨c, r, hc, hkind⟩ := write_head hv
  rw [hc, List.cons_append, skip, List.dropWhile_cons_of_neg]
  intro hspace
  exact absurd (hkind.symm.trans (lead_of_isWhitespace hspace)) (Nat.ne_of_lt v.kind_lt)

/-- A value does not begin with a closing bracket. -/
theorem next?_write {v : Value (List Char)} (hv : v.AllFloats IsFloat) {c : Char} (hc : lead c = 7)
    (s : List Char) : next? c (write v ++ s) = none := by
  obtain ⟨d, r, hd, hkind⟩ := write_head hv
  rw [next?, skip_write hv, hd, List.cons_append]
  dsimp only
  rw [if_neg]
  rintro rfl
  exact absurd (hkind.symm.trans hc) (Nat.ne_of_lt v.kind_lt)

theorem next?_cons {c d : Char} (hd : isWhitespace d = false) (s : List Char) :
    next? c (d :: s) = if d = c then some s else none := by
  rw [next?, skip, List.dropWhile_cons_of_neg (by simp [hd])]

section

variable {hook : List (Str × Value Str) → Option (List (Str × Value Str))}

/-- A number is read as far as its characters go. -/
theorem scalar_of_number {t rest : List Char} {r : Value Str × List Char}
    (ht : ∀ c ∈ t, isNumberChar c = true) (hne : t ≠ []) (hstop : Stop rest)
    (h : scalar (t ++ rest) = some r) : number? t = some r.1 ∧ r.2 = rest := by
  obtain ⟨c, s, rfl⟩ := List.exists_cons_of_ne_nil hne
  have hrest : rest.takeWhile isNumberChar = [] ∧ rest.dropWhile isNumberChar = rest := by
    cases rest with
    | nil => exact ⟨rfl, rfl⟩
    | cons d rest => simp [hstop d rfl]
  rw [List.cons_append, scalar_number (ht c List.mem_cons_self), ← List.cons_append,
    List.takeWhile_append_of_pos ht, List.dropWhile_append_of_pos ht, hrest.1, hrest.2,
    List.append_nil] at h
  obtain ⟨v, hv, rfl⟩ := Option.map_eq_some_iff.1 h
  exact ⟨hv, rfl⟩

mutual

/-- A value that is read where it has been written is that value. -/
theorem value_write (hhook : ∀ pairs entries, hook pairs = some entries → entries = pairs)
    (v : Value (List Char)) (hv : v.AllFloats IsFloat) (fuel : Nat) {levels : Nat} {rest : List Char}
    {r : Value Str × List Char} (hstop : Stop rest)
    (h : value hook fuel levels (write v ++ rest) = some r) : r = (v.ofTexts, rest) := by
  have hnumber : ∀ t : List Char, (∀ c ∈ t, isNumberChar c = true) → t ≠ [] →
      value hook fuel levels (t ++ rest) = some r → number? t = some r.1 ∧ r.2 = rest := by
    intro t ht hne h
    obtain ⟨c, s, rfl⟩ := List.exists_cons_of_ne_nil hne
    have hc : ∀ d, isNumberChar d = false → c ≠ d := by
      rintro d hd rfl
      exact absurd ((ht c List.mem_cons_self).symm.trans hd) (by decide)
    cases fuel with
    | zero => cases h
    | succ fuel =>
      rw [List.cons_append, value_cons, if_neg (hc _ (by decide)), if_neg (hc _ (by decide)),
        if_neg (hc _ (by decide))] at h
      exact scalar_of_number ht hne hstop h
  cases v with
  | int i =>
    obtain ⟨hread, hrest⟩ := hnumber _ (fun _ => isNumberChar_of_mem_toString)
      (toString_int_ne_nil i) h
    exact Prod.ext (number?_toString hread) hrest
  | float literal =>
    obtain ⟨hread, hrest⟩ := hnumber _ hv.1 hv.ne_nil h
    exact Prod.ext (number?_float hv hread) hrest
  | null =>
    cases fuel with
    | zero => cases h
    | succ fuel => exact (Option.some.inj h).symm
  | bool b =>
    cases fuel with
    | zero => cases h
    | succ fuel => cases b <;> exact (Option.some.inj h).symm
  | str s =>
    cases fuel with
    | zero => cases h
    | succ fuel =>
      rw [write, quote, List.cons_append, List.cons_append, value_cons, if_pos rfl, List.append_assoc,
        List.singleton_append, units_escaped, Option.map_some] at h
      obtain rfl := Option.some.inj h
      exact Prod.ext (congrArg Value.str (pair_ofText s)) rfl
  | arr xs =>
    cases fuel with
    | zero => cases h
    | succ fuel =>
      rw [write, List.cons_append, value_cons, if_neg (by decide), if_neg (by decide),
        if_pos rfl] at h
      cases levels with
      | zero => cases h
      | succ levels =>
        cases xs with
        | nil => exact (Option.some.inj h).symm
        | cons v vs =>
          rw [writeElements, List.append_assoc] at h
          dsimp only at h
          rw [next?_write hv.1 (by decide)] at h
          exact elements_write hhook v vs hv fuel h
  | obj entries =>
    cases fuel with
    | zero => cases h
    | succ fuel =>
      rw [write, List.cons_append, value_cons, if_neg (by decide), if_pos rfl] at h
      cases levels with
      | zero => cases h
      | succ levels =>
        cases entries with
        | nil =>
          obtain ⟨entries, hentries, h⟩ := Option.map_eq_some_iff.1 h
          rw [hhook _ _ hentries] at h
          exact h.symm
        | cons e entries => exact members_write hhook e entries hv fuel h
termination_by fuel

/-- The elements of an array, after some that have been read. -/
theorem elements_write (hhook : ∀ pairs entries, hook pairs = some entries → entries = pairs)
    (v : Value (List Char)) (vs : List (Value (List Char))) (hv : AllFloatsOf IsFloat (v :: vs))
    (fuel : Nat) {levels : Nat} {acc : List (Value Str)} {rest : List Char} {r : Value Str × List Char}
    (h : elements hook fuel levels acc (write v ++ (writeMoreElements vs ++ rest)) = some r) :
    r = (.arr (acc ++ ofTextsAll (v :: vs)), rest) := by
  cases fuel with
  | zero => cases h
  | succ fuel =>
    rw [elements, skip_write hv.1] at h
    obtain ⟨⟨w, s⟩, hw, h⟩ := Option.bind_eq_some_iff.1 h
    obtain ⟨rfl, rfl⟩ := Prod.mk.inj (value_write hhook v hv.1 fuel (stop_writeMoreElements vs rest) hw)
    cases vs with
    | nil => exact (Option.some.inj h).symm
    | cons w vs =>
      dsimp only at h
      rw [writeMoreElements, List.cons_append, List.cons_append, next?_cons (by decide),
        if_neg (by decide), next?_cons (by decide), if_pos rfl, List.append_assoc] at h
      rw [elements_write hhook w vs hv.2 fuel h, ofTextsAll, ofTextsAll, List.append_assoc]
      rfl
termination_by fuel

/-- The members of an object, after some that have been read. -/
theorem members_write (hhook : ∀ pairs entries, hook pairs = some entries → entries = pairs)
    (e : List Char × Value (List Char)) (entries : List (List Char × Value (List Char)))
    (hv : AllFloatsIn IsFloat (e :: entries)) (fuel : Nat) {levels : Nat} {acc : List (Str × Value Str)}
    {rest : List Char} {r : Value Str × List Char}
    (h : members hook fuel levels acc (writeEntries (e :: entries) ++ rest) = some r) :
    r = (.obj (acc ++ ofTextsEntries (e :: entries)), rest) := by
  obtain ⟨key, v⟩ := e
  cases fuel with
  | zero => cases h
  | succ fuel =>
    have hquote : writeEntries ((key, v) :: entries) ++ rest =
        '"' :: (key.flatMap escape ++ '"' :: ':' :: (write v ++ (writeMoreEntries entries ++ rest))) := by
      simp [writeEntries, quote]
    rw [members, hquote, next?_cons (by decide), if_pos rfl] at h
    simp only [Option.bind_eq_bind, Option.bind_some, units_escaped] at h
    rw [next?_cons (by decide), if_pos rfl, Option.bind_some, skip_write hv.1] at h
    obtain ⟨⟨w, s⟩, hw, h⟩ := Option.bind_eq_some_iff.1 h
    obtain ⟨rfl, rfl⟩ := Prod.mk.inj (value_write hhook v hv.1 fuel (stop_writeMoreEntries entries rest) hw)
    cases entries with
    | nil =>
      obtain ⟨entries, hentries, h⟩ := Option.map_eq_some_iff.1 h
      rw [hhook _ _ hentries, pair_ofText] at h
      exact h.symm
    | cons e entries =>
      have hmore : writeMoreEntries (e :: entries) ++ rest =
          ',' :: (writeEntries (e :: entries) ++ rest) := rfl
      dsimp only at h
      rw [hmore, next?_cons (by decide), if_neg (by decide), next?_cons (by decide), if_pos rfl,
        pair_ofText] at h
      rw [members_write hhook e entries hv.2 fuel h, ofTextsEntries, ofTextsEntries, List.append_assoc]
      rfl
termination_by fuel

end

/-! ## Values that are written -/

theorem findSome?_eq_none_of_perm {α β : Type} {f : α → Option β} {l l' : List α} (h : l.Perm l')
    (hnone : l.findSome? f = none) : ∀ a ∈ l', f a = none := fun a ha =>
  List.findSome?_eq_none_iff.1 hnone a (h.mem_iff.2 ha)

section

variable {P Q : List Char → Prop}

mutual

theorem Value.AllFloats.mono (hPQ : ∀ t, P t → Q t) {v : Value (List Char)} (h : v.AllFloats P) :
    v.AllFloats Q := by
  cases v with
  | null | bool | int | str => trivial
  | float literal => exact hPQ literal h
  | arr xs => exact AllFloatsOf.mono hPQ h
  | obj entries => exact AllFloatsIn.mono hPQ h

theorem AllFloatsOf.mono (hPQ : ∀ t, P t → Q t) {vs : List (Value (List Char))}
    (h : AllFloatsOf P vs) : AllFloatsOf Q vs := by
  match vs with
  | [] => trivial
  | v :: vs => exact ⟨h.1.mono hPQ, AllFloatsOf.mono hPQ h.2⟩

theorem AllFloatsIn.mono (hPQ : ∀ t, P t → Q t) {entries : List (List Char × Value (List Char))}
    (h : AllFloatsIn P entries) : AllFloatsIn Q entries := by
  match entries with
  | [] => trivial
  | (_, v) :: entries => exact ⟨h.1.mono hPQ, AllFloatsIn.mono hPQ h.2⟩

end

end

section

variable {repr : List Char → Option (List Char)}

mutual

/-- The floats of a value that the encoder writes are finite. -/
theorem allFloats_of_firstError {levels : Nat} {v : Value Str} {w : Value (List Char)}
    (h : firstError repr levels v = none) (hw : v.toText? = some w) :
    w.AllFloats fun literal => ∃ t, repr literal = some t := by
  cases v with
  | null | bool | int =>
    cases hw
    trivial
  | float literal =>
    cases hw
    rw [firstError] at h
    split_ifs at h with hrepr
    exact Option.isSome_iff_exists.1 hrepr
  | str s =>
    obtain ⟨t, -, rfl⟩ := Option.map_eq_some_iff.1 hw
    trivial
  | arr xs =>
    obtain ⟨ws, hws, rfl⟩ := Option.map_eq_some_iff.1 hw
    cases levels with
    | zero => cases h
    | succ levels =>
      rw [firstError] at h
      exact allFloatsOf_of_errors (findSome?_eq_none_of_perm (.refl _) h) hws
  | obj entries =>
    obtain ⟨ws, hws, rfl⟩ := Option.map_eq_some_iff.1 hw
    cases levels with
    | zero => cases h
    | succ levels =>
      rw [firstError] at h
      exact allFloatsIn_of_errors
        (findSome?_eq_none_of_perm (List.perm_insertionSort _ _) h) hws

theorem allFloatsOf_of_errors {levels : Nat} {vs : List (Value Str)}
    {ws : List (Value (List Char))} (h : ∀ e ∈ errors repr levels vs, id e = none)
    (hws : toTexts? vs = some ws) : AllFloatsOf (fun literal => ∃ t, repr literal = some t) ws := by
  cases vs with
  | nil =>
    cases hws
    trivial
  | cons v vs =>
    obtain ⟨w, hw, hws⟩ := Option.bind_eq_some_iff.1 hws
    obtain ⟨ws', hws', hws⟩ := Option.bind_eq_some_iff.1 hws
    cases hws
    rw [errors, List.forall_mem_cons] at h
    exact ⟨allFloats_of_firstError h.1 hw, allFloatsOf_of_errors h.2 hws'⟩

theorem allFloatsIn_of_errors {levels : Nat} {es : List (Str × Value Str)}
    {ws : List (List Char × Value (List Char))}
    (h : ∀ e ∈ entryErrors repr levels es, e.2 = none) (hws : toEntries? es = some ws) :
    AllFloatsIn (fun literal => ∃ t, repr literal = some t) ws := by
  cases es with
  | nil =>
    cases hws
    trivial
  | cons e es =>
    obtain ⟨key, -, hws⟩ := Option.bind_eq_some_iff.1 hws
    obtain ⟨w, hw, hws⟩ := Option.bind_eq_some_iff.1 hws
    obtain ⟨ws', hws', hws⟩ := Option.bind_eq_some_iff.1 hws
    cases hws
    rw [entryErrors, List.forall_mem_cons] at h
    exact ⟨allFloats_of_firstError h.1 hw, allFloatsIn_of_errors h.2 hws'⟩

end

end

/-- A canonical text that is read gives the canonical form of the value it was written for. -/
theorem decode_encode {repr : List Char → Option (List Char)} {v : Value (List Char)} {levels : Nat}
    {w : Value Str} (hhook : ∀ pairs entries, hook pairs = some entries → entries = pairs)
    (hfloat : ∀ literal t, repr literal = some t → IsFloat t)
    (hv : v.AllFloats fun literal => ∃ t, repr literal = some t)
    (h : decode hook levels (encode repr v) = some w) : w = (v.canonical repr).ofTexts := by
  have hfloats := allFloats_canonical (hv.mono fun literal ⟨t, ht⟩ => ⟨t, ht, hfloat literal t ht⟩)
  rw [encode_eq_write, decode, ← List.append_nil (write _), skip_write hfloats] at h
  split at h
  · rename_i w' rest hw
    have hnil : Stop [] := by simp [Stop]
    split_ifs at h
    cases h
    exact (Prod.mk.inj (value_write hhook _ hfloats _ hnil hw)).1
  · cases h

end

end JsonText

end StateLib
