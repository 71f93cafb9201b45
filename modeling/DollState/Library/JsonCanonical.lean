import Mathlib
import DollState.Library.JsonEncode

/-!
# What a canonical JSON text determines

A value has one canonical form: the entries of each object in the order of their keys, and floats as
they are written. Its canonical text is the text of that form (`encode_eq_write`), and two values
with one canonical text have one canonical form (`canonical_eq_of_encode_eq`). The reason is that no
value's text goes on with another's, provided that no character of a number follows
(`write_append_inj`).
-/

namespace StateLib

namespace JsonText

/-! ## The canonical form -/

section

variable (repr : List Char → Option (List Char))

mutual

/-- The value with its entries by key and its floats as they are written. -/
def Value.canonical : Value (List Char) → Value (List Char)
  | .null => .null
  | .bool b => .bool b
  | .int i => .int i
  | .float literal => .float ((repr literal).getD [])
  | .str s => .str s
  | .arr xs => .arr (canonicals xs)
  | .obj entries => .obj ((canonicalEntries entries).insertionSort fun a b => a.1 ≤ b.1)

def canonicals : List (Value (List Char)) → List (Value (List Char))
  | [] => []
  | v :: vs => v.canonical :: canonicals vs

def canonicalEntries : List (List Char × Value (List Char)) → List (List Char × Value (List Char))
  | [] => []
  | (key, v) :: entries => (key, v.canonical) :: canonicalEntries entries

end

end

/-! ## Writing in the order given -/

mutual

/-- The text of a value, its entries in the order they have and its floats as they are. -/
def write : Value (List Char) → List Char
  | .null => "null".toList
  | .bool b => if b then "true".toList else "false".toList
  | .int i => (toString i).toList
  | .float literal => literal
  | .str s => quote s
  | .arr xs => '[' :: writeElements xs
  | .obj entries => '{' :: writeEntries entries

def writeElements : List (Value (List Char)) → List Char
  | [] => [']']
  | v :: vs => write v ++ writeMoreElements vs

def writeMoreElements : List (Value (List Char)) → List Char
  | [] => [']']
  | v :: vs => ',' :: write v ++ writeMoreElements vs

def writeEntries : List (List Char × Value (List Char)) → List Char
  | [] => ['}']
  | (key, v) :: entries => quote key ++ ':' :: write v ++ writeMoreEntries entries

def writeMoreEntries : List (List Char × Value (List Char)) → List Char
  | [] => ['}']
  | (key, v) :: entries => ',' :: quote key ++ ':' :: write v ++ writeMoreEntries entries

end

theorem writeElements_eq (vs : List (Value (List Char))) :
    writeElements vs = [','].intercalate (vs.map write) ++ [']'] := by
  have hmore : ∀ (v : Value (List Char)) vs, write v ++ writeMoreElements vs =
      [','].intercalate ((v :: vs).map write) ++ [']'] := by
    intro v vs
    induction vs generalizing v with
    | nil => simp [writeMoreElements]
    | cons w ws ih =>
      rw [writeMoreElements, List.map_cons, List.map_cons, List.intercalate_cons_cons,
        ← List.map_cons, List.append_assoc, List.append_assoc, ← ih w, List.singleton_append,
        List.cons_append]
  cases vs with
  | nil => rfl
  | cons v vs => exact hmore v vs

/-- The text of an entry. -/
def writeEntry (e : List Char × Value (List Char)) : List Char := quote e.1 ++ ':' :: write e.2

theorem writeEntries_eq (entries : List (List Char × Value (List Char))) :
    writeEntries entries = [','].intercalate (entries.map writeEntry) ++ ['}'] := by
  have hmore : ∀ (e : List Char × Value (List Char)) es, writeEntry e ++ writeMoreEntries es =
      [','].intercalate ((e :: es).map writeEntry) ++ ['}'] := by
    intro e es
    induction es generalizing e with
    | nil => simp [writeMoreEntries]
    | cons f fs ih =>
      rw [List.map_cons, List.map_cons, List.intercalate_cons_cons, ← List.map_cons,
        List.append_assoc, List.append_assoc, ← ih f, List.singleton_append]
      simp [writeMoreEntries, writeEntry]
  cases entries with
  | nil => rfl
  | cons e es => simpa [writeEntries, writeEntry] using hmore e es

section

variable (repr : List Char → Option (List Char))

mutual

/-- The canonical text of a value is the text of its canonical form. -/
theorem encode_eq_write (v : Value (List Char)) : encode repr v = write (v.canonical repr) := by
  cases v with
  | null | bool | int | float | str => rfl
  | arr xs =>
    rw [encode, Value.canonical, write, encodeAll_eq_map xs, writeElements_eq, List.cons_append]
  | obj entries =>
    have hsort : (encodeEntries repr entries).insertionSort (fun a b => a.1 ≤ b.1) =
        ((canonicalEntries repr entries).insertionSort fun a b => a.1 ≤ b.1).map
          fun e => (e.1, write e.2) := by
      rw [encodeEntries_eq_map entries]
      exact (List.map_insertionSort (α := List Char × Value (List Char)) (fun a b => a.1 ≤ b.1)
        (fun a b => a.1 ≤ b.1) (fun e => (e.1, write e.2)) _ fun _ _ _ _ => Iff.rfl).symm
    rw [encode, Value.canonical, write, writeEntries_eq, hsort, List.map_map, List.cons_append]
    rfl

theorem encodeAll_eq_map (vs : List (Value (List Char))) :
    encodeAll repr vs = (canonicals repr vs).map write := by
  cases vs with
  | nil => rfl
  | cons v vs => rw [encodeAll, canonicals, List.map_cons, encode_eq_write v, encodeAll_eq_map vs]

theorem encodeEntries_eq_map (entries : List (List Char × Value (List Char))) :
    encodeEntries repr entries =
      (canonicalEntries repr entries).map fun e => (e.1, write e.2) := by
  cases entries with
  | nil => rfl
  | cons e entries =>
    rw [encodeEntries, canonicalEntries, List.map_cons, encode_eq_write e.2,
      encodeEntries_eq_map entries]

end

end

/-! ## Strings -/

theorem hexDigit?_digitChar : ∀ n < 16, hexDigit? (Nat.digitChar n) = some n := by decide

/-- Reading an escaped character gives it back. -/
theorem units_escape_append {c : Char} {s rest : List Char} {t : Str}
    (h : units s = some (t, rest)) : units (escape c ++ s) = some (.scalar c :: t, rest) := by
  have hpair : ∀ d : Char, d ≠ 'u' → unescape? d = some c →
      units ('\\' :: d :: s) = some (.scalar c :: t, rest) := by
    intro d hd hunescape
    rw [units_escape hd, hunescape, h]
    rfl
  unfold escape
  split_ifs with hself hn hr ht hb hf hcontrol
  · rcases hself with rfl | rfl
    · exact hpair '"' (by decide) rfl
    · exact hpair '\\' (by decide) rfl
  · exact hpair 'n' (by decide) (by rw [hn]; rfl)
  · exact hpair 'r' (by decide) (by rw [hr]; rfl)
  · exact hpair 't' (by decide) (by rw [ht]; rfl)
  · exact hpair 'b' (by decide) (by rw [hb]; rfl)
  · exact hpair 'f' (by decide) (by rw [hf]; rfl)
  · have hunit : codeUnit? '0' '0' (Nat.digitChar (c.toNat / 16)) (Nat.digitChar (c.toNat % 16)) =
        some (.scalar c) := by
      have hzero : hexDigit? '0' = some 0 := rfl
      have hhigh := hexDigit?_digitChar (c.toNat / 16) (by omega)
      have hlow := hexDigit?_digitChar (c.toNat % 16) (by omega)
      have hvalue : ((0 * 16 + 0) * 16 + c.toNat / 16) * 16 + c.toNat % 16 = c.toNat := by omega
      simp only [codeUnit?, hzero, hhigh, hlow, Option.bind_eq_bind, Option.bind_some, hvalue,
        Char.ofNat_toNat]
      rw [if_neg (by omega)]
      rfl
    show units ('\\' :: 'u' :: '0' :: '0' :: Nat.digitChar (c.toNat / 16) ::
      Nat.digitChar (c.toNat % 16) :: s) = _
    rw [units_unicode, hunit, h]
    rfl
  · rw [not_or] at hself
    rw [List.singleton_append, units_char hself.1 hself.2 hcontrol, h]
    rfl

/-- Reading a written string gives it back, with what follows it. -/
theorem units_escaped (s rest : List Char) :
    units (s.flatMap escape ++ '"' :: rest) = some (Str.ofText s, rest) := by
  induction s with
  | nil => exact units_quote rest
  | cons c s ih =>
    rw [List.flatMap_cons, List.append_assoc]
    exact units_escape_append ih

theorem quote_append_inj {a b s t : List Char} (h : quote a ++ s = quote b ++ t) :
    a = b ∧ s = t := by
  have hquote : ∀ a s : List Char, quote a ++ s = '"' :: (a.flatMap escape ++ '"' :: s) := by
    intro a s
    simp [quote]
  rw [hquote, hquote, List.cons.injEq] at h
  have hunits := congrArg units h.2
  rw [units_escaped, units_escaped, Option.some.injEq, Prod.mk.injEq] at hunits
  exact ⟨List.map_injective_iff.2 (fun _ _ h => CodePoint.scalar.inj h) hunits.1, hunits.2⟩

/-! ## Numbers -/

/-- The text of a float: made of the characters of numbers, and not of an integer's. -/
def IsFloat (t : List Char) : Prop :=
  (∀ c ∈ t, isNumberChar c = true) ∧ ∃ c ∈ t, c.isDigit = false ∧ c ≠ '-'

theorem IsFloat.ne_nil {t : List Char} (h : IsFloat t) : t ≠ [] := by
  rintro rfl
  simpa using h.2

theorem toString_int_chars {i : Int} {c : Char} (hc : c ∈ (toString i).toList) :
    c.isDigit = true ∨ c = '-' := by
  have hnat : ∀ n : Nat, ∀ d ∈ (toString n).toList, d.isDigit = true := by
    intro n d hd
    rw [Nat.toString_eq_repr, Nat.repr, String.toList_ofList] at hd
    exact Nat.isDigit_of_mem_toDigits (by decide) (by decide) hd
  cases i with
  | ofNat n => exact .inl (hnat n c hc)
  | negSucc n =>
    have hneg : toString (Int.negSucc n) = "-" ++ toString (n + 1) := rfl
    rw [hneg, String.toList_append, List.mem_append] at hc
    rcases hc with hc | hc
    · exact .inr (List.mem_singleton.1 hc)
    · exact .inl (hnat _ c hc)

theorem isNumberChar_of_mem_toString {i : Int} {c : Char} (hc : c ∈ (toString i).toList) :
    isNumberChar c = true := by
  rcases toString_int_chars hc with h | rfl
  · simp [isNumberChar, h]
  · decide

theorem not_isFloat_toString (i : Int) : ¬ IsFloat (toString i).toList := by
  rintro ⟨-, c, hc, hdigit, hne⟩
  rcases toString_int_chars hc with h | h
  · rw [h] at hdigit
    cases hdigit
  · exact hne h

theorem toString_int_ne_nil (i : Int) : (toString i).toList ≠ [] := by
  cases i with
  | ofNat n =>
    have hnat : toString (Int.ofNat n) = Nat.repr n := rfl
    rw [hnat, Nat.repr, String.toList_ofList]
    exact Nat.toDigits_ne_nil
  | negSucc n =>
    have hneg : toString (Int.negSucc n) = "-" ++ toString (n + 1) := rfl
    rw [hneg, String.toList_append]
    simp

/-- No character of a number comes next. -/
def Stop (s : List Char) : Prop := ∀ c ∈ s.head?, isNumberChar c = false

theorem number_append_inj {a b s t : List Char} (ha : ∀ c ∈ a, isNumberChar c = true)
    (hb : ∀ c ∈ b, isNumberChar c = true) (hs : Stop s) (ht : Stop t) (h : a ++ s = b ++ t) :
    a = b ∧ s = t := by
  have htake : ∀ {a s : List Char}, (∀ c ∈ a, isNumberChar c = true) → Stop s →
      (a ++ s).takeWhile isNumberChar = a := by
    intro a s ha hs
    rw [List.takeWhile_append_of_pos ha]
    cases s with
    | nil => simp
    | cons c s => simp [hs c rfl]
  have hab : a = b := by rw [← htake ha hs, h, htake hb ht]
  subst hab
  exact ⟨rfl, List.append_cancel_left h⟩

/-! ## Texts that do not go on -/

mutual

/-- Every float of the value meets the condition. -/
def Value.AllFloats (P : List Char → Prop) : Value (List Char) → Prop
  | .float literal => P literal
  | .arr xs => AllFloatsOf P xs
  | .obj entries => AllFloatsIn P entries
  | _ => True

def AllFloatsOf (P : List Char → Prop) : List (Value (List Char)) → Prop
  | [] => True
  | v :: vs => v.AllFloats P ∧ AllFloatsOf P vs

def AllFloatsIn (P : List Char → Prop) : List (List Char × Value (List Char)) → Prop
  | [] => True
  | (_, v) :: entries => v.AllFloats P ∧ AllFloatsIn P entries

end

/-- The kind of value that a text starting with the character is of; numbers are of one kind. -/
def lead (c : Char) : Nat :=
  if c = 'n' then 0 else if c = 't' then 1 else if c = 'f' then 2 else if c = '"' then 3
  else if c = '[' then 4 else if c = '{' then 5 else if isNumberChar c then 6 else 7

/-- The kind of a value. -/
def Value.kind : Value (List Char) → Nat
  | .null => 0
  | .bool b => if b then 1 else 2
  | .str _ => 3
  | .arr _ => 4
  | .obj _ => 5
  | .int _ => 6
  | .float _ => 6

theorem lead_number {c : Char} (h : isNumberChar c = true) : lead c = 6 := by
  have hne : ∀ d, isNumberChar d = false → c ≠ d := by
    rintro d hd rfl
    rw [h] at hd
    cases hd
  simp [lead, h, hne 'n' (by decide), hne 't' (by decide), hne 'f' (by decide),
    hne '"' (by decide), hne '[' (by decide), hne '{' (by decide)]

theorem Value.kind_lt (v : Value (List Char)) : v.kind < 7 := by
  cases v with
  | bool b => cases b <;> decide
  | null | int | float | str | arr | obj => simp [Value.kind]

theorem write_head {v : Value (List Char)} (hv : v.AllFloats IsFloat) :
    ∃ c s, write v = c :: s ∧ lead c = v.kind := by
  have hnumber : ∀ t : List Char, t ≠ [] → (∀ c ∈ t, isNumberChar c = true) →
      ∃ c s, t = c :: s ∧ lead c = 6 := by
    intro t hne hall
    obtain ⟨c, s, rfl⟩ := List.exists_cons_of_ne_nil hne
    exact ⟨c, s, rfl, lead_number (hall c List.mem_cons_self)⟩
  cases v with
  | null => exact ⟨'n', "ull".toList, rfl, by decide⟩
  | bool b =>
    cases b
    · exact ⟨'f', "alse".toList, rfl, by decide⟩
    · exact ⟨'t', "rue".toList, rfl, by decide⟩
  | int i => exact hnumber _ (toString_int_ne_nil i) fun _ => isNumberChar_of_mem_toString
  | float literal => exact hnumber literal hv.ne_nil hv.1
  | str s => exact ⟨'"', _, rfl, rfl⟩
  | arr xs => exact ⟨'[', _, rfl, rfl⟩
  | obj entries => exact ⟨'{', _, rfl, rfl⟩

/-- A value's text does not start with a closing bracket, a closing brace or a comma. -/
theorem write_append_ne {v : Value (List Char)} (hv : v.AllFloats IsFloat) {c : Char}
    (hc : lead c = 7) (s t : List Char) : write v ++ s ≠ c :: t := by
  obtain ⟨d, r, hd, hkind⟩ := write_head hv
  intro h
  rw [hd, List.cons_append, List.cons.injEq] at h
  rw [h.1, hc] at hkind
  exact absurd hkind (Nat.ne_of_gt v.kind_lt)

/-- Two values that texts with one beginning start with are of one kind. -/
theorem kind_eq_of_write_append {v w : Value (List Char)} (hv : v.AllFloats IsFloat)
    (hw : w.AllFloats IsFloat) {s t : List Char} (h : write v ++ s = write w ++ t) :
    v.kind = w.kind := by
  obtain ⟨c, r, hc, hkind⟩ := write_head hv
  obtain ⟨d, r', hd, hkind'⟩ := write_head hw
  rw [hc, hd, List.cons_append, List.cons_append, List.cons.injEq] at h
  rw [← hkind, ← hkind', h.1]

theorem stop_writeMoreElements (vs : List (Value (List Char))) (s : List Char) :
    Stop (writeMoreElements vs ++ s) := by
  cases vs with
  | nil => simpa [Stop, writeMoreElements] using by decide
  | cons v vs => simpa [Stop, writeMoreElements] using by decide

theorem stop_writeMoreEntries (entries : List (List Char × Value (List Char))) (s : List Char) :
    Stop (writeMoreEntries entries ++ s) := by
  cases entries with
  | nil => simpa [Stop, writeMoreEntries] using by decide
  | cons e es => simpa [Stop, writeMoreEntries] using by decide

mutual

/-- A value's text is followed by what follows it: no text of a value goes on with another's. -/
theorem write_append_inj {v w : Value (List Char)} (hv : v.AllFloats IsFloat)
    (hw : w.AllFloats IsFloat) {s t : List Char} (hs : Stop s) (ht : Stop t)
    (h : write v ++ s = write w ++ t) : v = w ∧ s = t := by
  have hkind := kind_eq_of_write_append hv hw h
  cases v with
  | null =>
    cases w with
    | null => exact ⟨rfl, List.append_cancel_left h⟩
    | bool b => cases b <;> cases hkind
    | int | float | str | arr | obj => cases hkind
  | bool b =>
    cases w with
    | bool b' =>
      have hb : b = b' := by
        revert hkind
        cases b <;> cases b' <;> decide
      subst hb
      exact ⟨rfl, List.append_cancel_left h⟩
    | null | int | float | str | arr | obj => cases b <;> cases hkind
  | int i =>
    cases w with
    | int j =>
      obtain ⟨hij, hst⟩ := number_append_inj (fun _ => isNumberChar_of_mem_toString)
        (fun _ => isNumberChar_of_mem_toString) hs ht h
      exact ⟨congrArg Value.int (Int.repr_injective (String.toList_injective hij)), hst⟩
    | float literal =>
      obtain ⟨hij, -⟩ := number_append_inj (fun _ => isNumberChar_of_mem_toString) hw.1 hs ht h
      exact absurd (hij ▸ hw) (not_isFloat_toString i)
    | bool b => cases b <;> cases hkind
    | null | str | arr | obj => cases hkind
  | float literal =>
    cases w with
    | int j =>
      obtain ⟨hij, -⟩ := number_append_inj hv.1 (fun _ => isNumberChar_of_mem_toString) hs ht h
      exact absurd (hij ▸ hv) (not_isFloat_toString j)
    | float literal' =>
      obtain ⟨hll, hst⟩ := number_append_inj hv.1 hw.1 hs ht h
      exact ⟨congrArg Value.float hll, hst⟩
    | bool b => cases b <;> cases hkind
    | null | str | arr | obj => cases hkind
  | str a =>
    cases w with
    | str b =>
      obtain ⟨hab, hst⟩ := quote_append_inj h
      exact ⟨congrArg Value.str hab, hst⟩
    | bool b => cases b <;> cases hkind
    | null | int | float | arr | obj => cases hkind
  | arr xs =>
    cases w with
    | arr ys =>
      rw [write, write, List.cons_append, List.cons_append, List.cons.injEq] at h
      obtain ⟨hxy, hst⟩ := writeElements_append_inj hv hw h.2
      exact ⟨congrArg Value.arr hxy, hst⟩
    | bool b => cases b <;> cases hkind
    | null | int | float | str | obj => cases hkind
  | obj es =>
    cases w with
    | obj fs =>
      rw [write, write, List.cons_append, List.cons_append, List.cons.injEq] at h
      obtain ⟨hef, hst⟩ := writeEntries_append_inj hv hw h.2
      exact ⟨congrArg Value.obj hef, hst⟩
    | bool b => cases b <;> cases hkind
    | null | int | float | str | arr => cases hkind

theorem writeElements_append_inj {xs ys : List (Value (List Char))} (hxs : AllFloatsOf IsFloat xs)
    (hys : AllFloatsOf IsFloat ys) {s t : List Char}
    (h : writeElements xs ++ s = writeElements ys ++ t) : xs = ys ∧ s = t := by
  have hclose : lead ']' = 7 := by decide
  cases xs with
  | nil =>
    cases ys with
    | nil => exact ⟨rfl, List.append_cancel_left h⟩
    | cons y ys =>
      rw [writeElements, writeElements, List.append_assoc] at h
      exact absurd h.symm (write_append_ne hys.1 hclose _ _)
  | cons x xs =>
    cases ys with
    | nil =>
      rw [writeElements, writeElements, List.append_assoc] at h
      exact absurd h (write_append_ne hxs.1 hclose _ _)
    | cons y ys =>
      rw [writeElements, writeElements, List.append_assoc, List.append_assoc] at h
      obtain ⟨rfl, hmore⟩ := write_append_inj hxs.1 hys.1 (stop_writeMoreElements _ _)
        (stop_writeMoreElements _ _) h
      obtain ⟨rfl, hst⟩ := writeMoreElements_append_inj hxs.2 hys.2 hmore
      exact ⟨rfl, hst⟩

theorem writeMoreElements_append_inj {xs ys : List (Value (List Char))}
    (hxs : AllFloatsOf IsFloat xs) (hys : AllFloatsOf IsFloat ys) {s t : List Char}
    (h : writeMoreElements xs ++ s = writeMoreElements ys ++ t) : xs = ys ∧ s = t := by
  cases xs with
  | nil =>
    cases ys with
    | nil => exact ⟨rfl, List.append_cancel_left h⟩
    | cons y ys => exact absurd (List.cons.inj h).1 (by decide)
  | cons x xs =>
    cases ys with
    | nil => exact absurd (List.cons.inj h).1 (by decide)
    | cons y ys =>
      simp only [writeMoreElements, List.append_assoc, List.cons_append, List.cons.injEq] at h
      obtain ⟨rfl, hmore⟩ := write_append_inj hxs.1 hys.1 (stop_writeMoreElements _ _)
        (stop_writeMoreElements _ _) h.2
      obtain ⟨rfl, hst⟩ := writeMoreElements_append_inj hxs.2 hys.2 hmore
      exact ⟨rfl, hst⟩

theorem writeEntries_append_inj {es fs : List (List Char × Value (List Char))}
    (hes : AllFloatsIn IsFloat es) (hfs : AllFloatsIn IsFloat fs) {s t : List Char}
    (h : writeEntries es ++ s = writeEntries fs ++ t) : es = fs ∧ s = t := by
  match es, fs with
  | [], [] => exact ⟨rfl, List.append_cancel_left h⟩
  | [], f :: fs => exact absurd (List.cons.inj h).1 (by decide)
  | e :: es, [] => exact absurd (List.cons.inj h).1 (by decide)
  | (a, x) :: es, (b, y) :: fs =>
    simp only [writeEntries, List.append_assoc, List.cons_append] at h
    obtain ⟨hkey, hrest⟩ := quote_append_inj h
    rw [List.cons.injEq] at hrest
    obtain ⟨hvalue, hmore⟩ := write_append_inj hes.1 hfs.1 (stop_writeMoreEntries _ _)
      (stop_writeMoreEntries _ _) hrest.2
    obtain ⟨rfl, hst⟩ := writeMoreEntries_append_inj hes.2 hfs.2 hmore
    exact ⟨by rw [hkey, hvalue], hst⟩

theorem writeMoreEntries_append_inj {es fs : List (List Char × Value (List Char))}
    (hes : AllFloatsIn IsFloat es) (hfs : AllFloatsIn IsFloat fs) {s t : List Char}
    (h : writeMoreEntries es ++ s = writeMoreEntries fs ++ t) : es = fs ∧ s = t := by
  match es, fs with
  | [], [] => exact ⟨rfl, List.append_cancel_left h⟩
  | [], f :: fs => exact absurd (List.cons.inj h).1 (by decide)
  | e :: es, [] => exact absurd (List.cons.inj h).1 (by decide)
  | (a, x) :: es, (b, y) :: fs =>
    simp only [writeMoreEntries, List.append_assoc, List.cons_append, List.cons.injEq] at h
    obtain ⟨hkey, hrest⟩ := quote_append_inj h.2
    rw [List.cons.injEq] at hrest
    obtain ⟨hvalue, hmore⟩ := write_append_inj hes.1 hfs.1 (stop_writeMoreEntries _ _)
      (stop_writeMoreEntries _ _) hrest.2
    obtain ⟨rfl, hst⟩ := writeMoreEntries_append_inj hes.2 hfs.2 hmore
    exact ⟨by rw [hkey, hvalue], hst⟩

end

/-! ## Canonical texts -/

theorem allFloatsOf_iff {P : List Char → Prop} {vs : List (Value (List Char))} :
    AllFloatsOf P vs ↔ ∀ v ∈ vs, v.AllFloats P := by
  induction vs with
  | nil => simp [AllFloatsOf]
  | cons v vs ih => rw [AllFloatsOf, ih, List.forall_mem_cons]

theorem allFloatsIn_iff {P : List Char → Prop} {entries : List (List Char × Value (List Char))} :
    AllFloatsIn P entries ↔ ∀ e ∈ entries, e.2.AllFloats P := by
  induction entries with
  | nil => simp [AllFloatsIn]
  | cons e entries ih => rw [AllFloatsIn, ih, List.forall_mem_cons]

section

variable {repr : List Char → Option (List Char)}

mutual

/-- Floats that are written as floats are floats of the canonical form. -/
theorem allFloats_canonical {v : Value (List Char)}
    (h : v.AllFloats fun literal => ∃ t, repr literal = some t ∧ IsFloat t) :
    (v.canonical repr).AllFloats IsFloat := by
  cases v with
  | null | bool | int | str => trivial
  | float literal =>
    obtain ⟨t, ht, hfloat⟩ := h
    rw [Value.canonical, ht]
    exact hfloat
  | arr xs => exact allFloatsOf_canonicals h
  | obj entries =>
    have hentries := allFloatsIn_iff.1 (allFloatsIn_canonicalEntries h)
    refine allFloatsIn_iff.2 fun e he => hentries e ?_
    exact (List.mem_insertionSort _).1 he

theorem allFloatsOf_canonicals {vs : List (Value (List Char))}
    (h : AllFloatsOf (fun literal => ∃ t, repr literal = some t ∧ IsFloat t) vs) :
    AllFloatsOf IsFloat (canonicals repr vs) := by
  match vs with
  | [] => trivial
  | v :: vs => exact ⟨allFloats_canonical h.1, allFloatsOf_canonicals h.2⟩

theorem allFloatsIn_canonicalEntries {entries : List (List Char × Value (List Char))}
    (h : AllFloatsIn (fun literal => ∃ t, repr literal = some t ∧ IsFloat t) entries) :
    AllFloatsIn IsFloat (canonicalEntries repr entries) := by
  match entries with
  | [] => trivial
  | (key, v) :: entries => exact ⟨allFloats_canonical h.1, allFloatsIn_canonicalEntries h.2⟩

end

/-- Values with one canonical text have one canonical form. -/
theorem canonical_eq_of_encode_eq {v w : Value (List Char)}
    (hv : v.AllFloats fun literal => ∃ t, repr literal = some t ∧ IsFloat t)
    (hw : w.AllFloats fun literal => ∃ t, repr literal = some t ∧ IsFloat t)
    (h : encode repr v = encode repr w) : v.canonical repr = w.canonical repr := by
  rw [encode_eq_write, encode_eq_write] at h
  have hnil : Stop [] := by simp [Stop]
  refine (write_append_inj (allFloats_canonical hv) (allFloats_canonical hw) hnil hnil ?_).1
  rw [List.append_nil, List.append_nil, h]

end

end JsonText

end StateLib
