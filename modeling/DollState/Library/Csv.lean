import DollState.Library.Check

/-!
# Tables as text

The reader and the writer of the `csv` module, for a dialect without an escape character that doubles
quotes, is strict and quotes as little as possible. The reader gets its text line by line, and a line
ends at `\n`, at `\r` or at `\r\n`. The writer ends a row by `\n` alone: it quotes a field for a `\r`
only in some versions of the module (`Dialect.quotesReturn`). `read_write_iff` says when a table that is
written is the table that is read.
-/

namespace StateLib

namespace Csv

structure Dialect where
  delimiter : Char
  /-- the writer quotes a field with a `\\r`, though the line terminator is `\\n` -/
  quotesReturn : Bool
  /-- `csv.field_size_limit()` -/
  fieldLimit : Nat
  delimiter_ne_quote : delimiter ≠ '"'
  delimiter_ne_newline : delimiter ≠ '\n'
  delimiter_ne_return : delimiter ≠ '\r'

/-! ## The writer -/

variable (d : Dialect)

/-- A field with this character is quoted. -/
def special (c : Char) : Bool :=
  c = d.delimiter || c = '"' || c = '\n' || (d.quotesReturn && c = '\r')

/-- The field is quoted. -/
def quoted (field : List Char) : Bool := field.any (special d)

/-- What is between the quotes of a field. -/
def doubleQuotes (field : List Char) : List Char :=
  field.flatMap fun c => if c = '"' then ['"', '"'] else [c]

def writeField (field : List Char) : List Char :=
  if quoted d field then '"' :: doubleQuotes field ++ ['"'] else field

/-- `writer.writerow`. A row of one empty field is written as `""`. -/
def writeRow (fields : List (List Char)) : List Char :=
  if fields = [[]] then ['"', '"', '\n']
  else [d.delimiter].intercalate (fields.map (writeField d)) ++ ['\n']

/-- `writer.writerows`. -/
def writeRows (rows : List (List (List Char))) : List Char := rows.flatMap (writeRow d)

/-! ## The reader -/

/-- `csv.Error`. -/
inductive CsvError where
  /-- unexpected end of data -/
  | endOfData
  /-- something else than the delimiter after a quote -/
  | afterQuote (c : Char)
  /-- new-line character seen in unquoted field -/
  | newLine
  /-- field larger than field limit -/
  | fieldLimit
deriving DecidableEq, Repr

/-- The characters of a text, with `none` at the end of each line. -/
def events : List Char → List (Option Char)
  | [] => []
  | '\n' :: cs => some '\n' :: none :: events cs
  | '\r' :: '\n' :: cs => some '\r' :: some '\n' :: none :: events cs
  | '\r' :: cs => some '\r' :: none :: events cs
  | [c] => [some c, none]
  | c :: cs => some c :: events cs

example : events ['a', '\r', '\n', 'b'] = [some 'a', some '\r', some '\n', none, some 'b', none] := by simp [events]

inductive ReadState where
  | startRecord | startField | inField | inQuotedField | quoteInQuotedField | eatNewLine
deriving DecidableEq, Repr

/-- The rows that have been read, and the record that is being read. -/
structure Reader where
  rows : List (List (List Char))
  fields : List (List Char)
  field : List Char
  state : ReadState
deriving DecidableEq

/-- `parse_add_char`. -/
def Reader.addChar (r : Reader) (c : Char) : Except CsvError Reader := do
  ensure (r.field.length < d.fieldLimit) .fieldLimit
  return { r with field := r.field ++ [c] }

/-- `parse_save_field`. -/
def Reader.saveField (r : Reader) : Reader := { r with fields := r.fields ++ [r.field], field := [] }

def Reader.goto (r : Reader) (state : ReadState) : Reader := { r with state := state }

/-- A character at the start of a field. -/
def startField (r : Reader) (c : Char) : Except CsvError Reader :=
  if c = '\n' ∨ c = '\r' then .ok (r.saveField.goto .eatNewLine)
  else if c = '"' then .ok (r.goto .inQuotedField)
  else if c = d.delimiter then .ok (r.saveField.goto .startField)
  else (r.goto .inField).addChar d c

/-- `parse_process_char` of a character. -/
def processChar (r : Reader) (c : Char) : Except CsvError Reader :=
  match r.state with
  | .startRecord => if c = '\n' ∨ c = '\r' then .ok (r.goto .eatNewLine) else startField d r c
  | .startField => startField d r c
  | .inField =>
    if c = '\n' ∨ c = '\r' then .ok (r.saveField.goto .eatNewLine)
    else if c = d.delimiter then .ok (r.saveField.goto .startField)
    else r.addChar d c
  | .inQuotedField => if c = '"' then .ok (r.goto .quoteInQuotedField) else r.addChar d c
  | .quoteInQuotedField =>
    if c = '"' then (r.goto .inQuotedField).addChar d c
    else if c = d.delimiter then .ok (r.saveField.goto .startField)
    else if c = '\n' ∨ c = '\r' then .ok (r.saveField.goto .eatNewLine)
    else .error (.afterQuote c)
  | .eatNewLine => if c = '\n' ∨ c = '\r' then .ok r else .error .newLine

/-- The record is complete. -/
def Reader.pushRow (r : Reader) : Reader := ⟨r.rows ++ [r.fields], [], [], .startRecord⟩

/-- `parse_process_char` of the end of a line. -/
def processLine (r : Reader) : Reader :=
  match r.state with
  | .startRecord | .eatNewLine => r.pushRow
  | .startField | .inField | .quoteInQuotedField => r.saveField.pushRow
  | .inQuotedField => r

def step (r : Reader) : Option Char → Except CsvError Reader
  | none => .ok (processLine r)
  | some c => processChar d r c

def run (r : Reader) (es : List (Option Char)) : Except CsvError Reader := es.foldlM (step d) r

/-- The end of the text. -/
def finish (r : Reader) : Except CsvError (List (List (List Char))) := do
  ensure (r.field = [] ∧ r.state ≠ .inQuotedField) .endOfData
  return r.rows

/-- `list(csv.reader(io.StringIO(text, newline=""), strict=True))`. -/
def read (text : List Char) : Except CsvError (List (List (List Char))) := do
  let r ← run d ⟨[], [], [], .startRecord⟩ (events text)
  finish r

/-! ## Characters and lines -/

variable {d} {r : Reader} {c : Char} {cs : List Char}

theorem run_cons {e : Option Char} {es : List (Option Char)} :
    run d r (e :: es) = step d r e >>= fun r => run d r es := rfl

theorem run_none {es : List (Option Char)} : run d r (none :: es) = run d (processLine r) es := rfl

theorem run_some {es : List (Option Char)} {r' : Reader} (h : processChar d r c = .ok r') :
    run d r (some c :: es) = run d r' es := by
  rw [run_cons, step, h]
  rfl

theorem events_newline : events ('\n' :: cs) = some '\n' :: none :: events cs := by rw [events]

/-- A `\r` is the end of a line, unless a `\n` follows. -/
theorem events_return (h : cs.head? ≠ some '\n') :
    events ('\r' :: cs) = some '\r' :: none :: events cs := by
  cases cs with
  | nil => rfl
  | cons c cs =>
    rw [events]
    · rintro rest heq
      cases heq
      exact h rfl

theorem events_return_newline : events ('\r' :: '\n' :: cs) = some '\r' :: events ('\n' :: cs) := by
  rw [events_newline, events]

theorem events_cons (hnewline : c ≠ '\n') (hreturn : c ≠ '\r') (hcs : cs ≠ []) :
    events (c :: cs) = some c :: events cs := by
  cases cs with
  | nil => exact absurd rfl hcs
  | cons c' cs =>
    rw [events]
    all_goals simp_all

theorem addChar_eq_ok (h : r.field.length < d.fieldLimit) :
    r.addChar d c = .ok { r with field := r.field ++ [c] } := by
  rw [Reader.addChar, ensure_of h]
  rfl

/-! ## Fields -/

/-- In quotes each character but a quote is added to the field, and lines do not end. -/
theorem run_quotedChar {rows : List (List (List Char))} {fields : List (List Char)} {field : List Char}
    (hc : c ≠ '"') (hlimit : field.length < d.fieldLimit) (hcs : cs ≠ []) :
    run d ⟨rows, fields, field, .inQuotedField⟩ (events (c :: cs)) =
      run d ⟨rows, fields, field ++ [c], .inQuotedField⟩ (events cs) := by
  have hadd : processChar d ⟨rows, fields, field, .inQuotedField⟩ c =
      .ok ⟨rows, fields, field ++ [c], .inQuotedField⟩ := by
    rw [processChar]
    dsimp only
    rw [if_neg hc]
    exact addChar_eq_ok hlimit
  by_cases hnewline : c = '\n'
  · subst hnewline
    rw [events_newline, run_some hadd, run_none]
    rfl
  · by_cases hreturn : c = '\r'
    · subst hreturn
      by_cases hhead : cs.head? = some '\n'
      · obtain ⟨cs, rfl⟩ := List.head?_eq_some_iff.1 hhead
        rw [events_return_newline, run_some hadd]
      · rw [events_return hhead, run_some hadd, run_none]
        rfl
    · rw [events_cons hnewline hreturn hcs, run_some hadd]

/-- What is between the quotes of a field is read as the field. -/
theorem run_doubleQuotes {rows : List (List (List Char))} {fields : List (List Char)} (hcs : cs ≠ [])
    (t : List Char) : ∀ field : List Char, field.length + t.length ≤ d.fieldLimit →
      run d ⟨rows, fields, field, .inQuotedField⟩ (events (doubleQuotes t ++ '"' :: cs)) =
        run d ⟨rows, fields, field ++ t, .quoteInQuotedField⟩ (events cs) := by
  induction t with
  | nil =>
    intro field _
    rw [doubleQuotes, List.flatMap_nil, List.nil_append, events_cons (by decide) (by decide) hcs,
      List.append_nil]
    exact run_some rfl
  | cons c t ih =>
    intro field hlimit
    rw [List.length_cons] at hlimit
    have htail := ih (field ++ [c]) (by rw [List.length_append, List.length_singleton]; omega)
    rw [List.append_assoc, List.singleton_append] at htail
    by_cases hc : c = '"'
    · subst hc
      have hquote : doubleQuotes ('"' :: t) = '"' :: '"' :: doubleQuotes t := rfl
      have hadd : processChar d ⟨rows, fields, field, .quoteInQuotedField⟩ '"' =
          .ok ⟨rows, fields, field ++ ['"'], .inQuotedField⟩ :=
        addChar_eq_ok (r := ⟨rows, fields, field, .inQuotedField⟩) (show field.length < _ by omega)
      rw [hquote, List.cons_append, List.cons_append,
        events_cons (by decide) (by decide) (List.cons_ne_nil _ _),
        events_cons (by decide) (by decide) (by simp), ← htail]
      exact (run_some rfl).trans (run_some hadd)
    · have hchar : doubleQuotes (c :: t) = c :: doubleQuotes t := by
        rw [doubleQuotes, List.flatMap_cons, if_neg hc]
        rfl
      rw [hchar, List.cons_append, run_quotedChar hc (by omega) (by simp), htail]

/-- A character that neither ends a field nor a line. -/
structure Plain (d : Dialect) (c : Char) : Prop where
  delimiter : c ≠ d.delimiter
  newline : c ≠ '\n'
  carriage : c ≠ '\r'

theorem run_plain {rows : List (List (List Char))} {fields : List (List Char)} (hcs : cs ≠ [])
    (t : List Char) (ht : ∀ c ∈ t, Plain d c) : ∀ field : List Char,
      field.length + t.length ≤ d.fieldLimit →
        run d ⟨rows, fields, field, .inField⟩ (events (t ++ cs)) =
          run d ⟨rows, fields, field ++ t, .inField⟩ (events cs) := by
  induction t with
  | nil =>
    intro field _
    rw [List.nil_append, List.append_nil]
  | cons c t ih =>
    intro field hlimit
    rw [List.length_cons] at hlimit
    obtain ⟨hplain, ht⟩ := List.forall_mem_cons.1 ht
    have hadd : processChar d ⟨rows, fields, field, .inField⟩ c =
        .ok ⟨rows, fields, field ++ [c], .inField⟩ := by
      rw [processChar]
      dsimp only
      rw [if_neg (not_or.2 ⟨hplain.newline, hplain.carriage⟩), if_neg hplain.delimiter]
      exact addChar_eq_ok (show field.length < _ by omega)
    have htail := ih ht (field ++ [c]) (by rw [List.length_append, List.length_singleton]; omega)
    rw [List.append_assoc, List.singleton_append] at htail
    rw [List.cons_append, events_cons hplain.newline hplain.carriage (by simp [hcs]), ← htail]
    exact run_some hadd

/-- The field can be told from the rest of the text: it has no `\r`, or it is quoted. -/
def Safe (d : Dialect) (field : List Char) : Prop := '\r' ∈ field → quoted d field = true

instance (field : List Char) : Decidable (Safe d field) := inferInstanceAs (Decidable (_ → _))

theorem not_special_of_not_quoted {field : List Char} (h : quoted d field = false) (hc : c ∈ field) :
    c ≠ d.delimiter ∧ c ≠ '"' ∧ c ≠ '\n' := by
  have hspecial := List.any_eq_false.1 h c hc
  simp only [special, Bool.or_eq_true, decide_eq_true_eq, not_or] at hspecial
  exact ⟨hspecial.1.1.1, hspecial.1.1.2, hspecial.1.2⟩

theorem processChar_start {rows : List (List (List Char))} {fields : List (List Char)}
    {state : ReadState} (hstate : state = .startField ∨ state = .startRecord) (hnewline : c ≠ '\n')
    (hreturn : c ≠ '\r') :
    processChar d ⟨rows, fields, [], state⟩ c = startField d ⟨rows, fields, [], state⟩ c := by
  rcases hstate with rfl | rfl
  · rfl
  · exact if_neg (not_or.2 ⟨hnewline, hreturn⟩)

/-- A quote or a plain character at the start of a field. -/
theorem processChar_quote {rows : List (List (List Char))} {fields : List (List Char)}
    {state : ReadState} (hstate : state = .startField ∨ state = .startRecord) :
    processChar d ⟨rows, fields, [], state⟩ '"' = .ok ⟨rows, fields, [], .inQuotedField⟩ := by
  rw [processChar_start hstate (by decide) (by decide)]
  rfl

theorem processChar_plain {rows : List (List (List Char))} {fields : List (List Char)}
    {state : ReadState} (hstate : state = .startField ∨ state = .startRecord) (hplain : Plain d c)
    (hquote : c ≠ '"') (hlimit : 0 < d.fieldLimit) :
    processChar d ⟨rows, fields, [], state⟩ c = .ok ⟨rows, fields, [c], .inField⟩ := by
  rw [processChar_start hstate hplain.newline hplain.carriage, startField,
    if_neg (not_or.2 ⟨hplain.newline, hplain.carriage⟩), if_neg hquote, if_neg hplain.delimiter]
  exact addChar_eq_ok (r := ⟨rows, fields, [], .inField⟩) hlimit

/-- The reader has a whole field, and has not read what ends it. -/
inductive Complete (state : ReadState) (field : List Char) : ReadState → Prop
  | plain : Complete state field .inField
  | quoted : Complete state field .quoteInQuotedField
  | empty : field = [] → Complete state field state

/-- A field that is safe is read as it was written. -/
theorem run_writeField (rows : List (List (List Char))) (fields : List (List Char)) (cs : List Char)
    {state : ReadState} {field : List Char} (hstate : state = .startField ∨ state = .startRecord)
    (hsafe : Safe d field) (hlimit : field.length ≤ d.fieldLimit) (hcs : cs ≠ []) :
    ∃ state', Complete state field state' ∧
      run d ⟨rows, fields, [], state⟩ (events (writeField d field ++ cs)) =
        run d ⟨rows, fields, field, state'⟩ (events cs) := by
  rw [writeField]
  cases hquoted : quoted d field with
  | true =>
    refine ⟨.quoteInQuotedField, .quoted, ?_⟩
    rw [if_pos rfl, List.cons_append, List.cons_append, List.append_assoc, List.singleton_append,
      events_cons (by decide) (by decide) (by simp), run_some (processChar_quote hstate)]
    exact run_doubleQuotes hcs field [] (by simpa using hlimit)
  | false =>
    rw [if_neg Bool.false_ne_true]
    cases field with
    | nil => exact ⟨state, .empty rfl, rfl⟩
    | cons c t =>
      have hplain : ∀ c' ∈ c :: t, Plain d c' := by
        intro c' hc'
        obtain ⟨hdelimiter, -, hnewline⟩ := not_special_of_not_quoted hquoted hc'
        refine ⟨hdelimiter, hnewline, ?_⟩
        rintro rfl
        exact absurd (hsafe hc') (by simp [hquoted])
      have hquote := (not_special_of_not_quoted hquoted List.mem_cons_self).2.1
      obtain ⟨hfirst, hrest⟩ := List.forall_mem_cons.1 hplain
      rw [List.length_cons] at hlimit
      refine ⟨.inField, .plain, ?_⟩
      rw [List.cons_append, events_cons hfirst.newline hfirst.carriage (by simp [hcs]),
        run_some (processChar_plain hstate hfirst hquote (by omega))]
      exact run_plain hcs t hrest [c] (by rw [List.length_singleton]; omega)

/-! ## Rows -/

theorem run_delimiter {rows : List (List (List Char))} {fields : List (List Char)}
    {state state' : ReadState} {field : List Char}
    (hstate : state = .startField ∨ state = .startRecord) (h : Complete state field state')
    (hcs : cs ≠ []) :
    run d ⟨rows, fields, field, state'⟩ (events (d.delimiter :: cs)) =
      run d ⟨rows, fields ++ [field], [], .startField⟩ (events cs) := by
  rw [events_cons d.delimiter_ne_newline d.delimiter_ne_return hcs]
  have hends : ¬ (d.delimiter = '\n' ∨ d.delimiter = '\r') :=
    not_or.2 ⟨d.delimiter_ne_newline, d.delimiter_ne_return⟩
  refine run_some ?_
  cases h with
  | plain => exact (if_neg hends).trans (if_pos rfl)
  | quoted => exact (if_neg d.delimiter_ne_quote).trans (if_pos rfl)
  | empty h =>
    subst h
    rw [processChar_start hstate d.delimiter_ne_newline d.delimiter_ne_return]
    exact (if_neg hends).trans ((if_neg d.delimiter_ne_quote).trans (if_pos rfl))

/-- The end of a row, where it is not that of an empty line. -/
theorem run_newline {rows : List (List (List Char))} {fields : List (List Char)}
    {state state' : ReadState} {field : List Char} (h : Complete state field state')
    (hne : state' ≠ .startRecord) (hstart : state = .startField ∨ state = .startRecord) :
    run d ⟨rows, fields, field, state'⟩ (events ('\n' :: cs)) =
      run d ⟨rows ++ [fields ++ [field]], [], [], .startRecord⟩ (events cs) := by
  have hnewline : processChar d ⟨rows, fields, field, state'⟩ '\n' =
      .ok ⟨rows, fields ++ [field], [], .eatNewLine⟩ := by
    cases h with
    | plain => rfl
    | quoted =>
      have hquote : ¬ '\n' = '"' := by decide
      have hdelimiter : ¬ '\n' = d.delimiter := fun h => d.delimiter_ne_newline h.symm
      rw [processChar]
      dsimp only
      rw [if_neg hquote, if_neg hdelimiter, if_pos (.inl rfl)]
      rfl
    | empty h =>
      rcases hstart with rfl | rfl
      · rfl
      · exact absurd rfl hne
  rw [events_newline, run_some hnewline]
  rfl

/-- The fields of a row, in order. -/
theorem run_fields {rows : List (List (List Char))} (fields : List (List Char)) (hne : fields ≠ []) :
    ∀ (done : List (List Char)) (state : ReadState), state = .startField ∨ state = .startRecord →
      (fields = [[]] → state ≠ .startRecord) →
      (∀ f ∈ fields, Safe d f ∧ f.length ≤ d.fieldLimit) →
        run d ⟨rows, done, [], state⟩
            (events ([d.delimiter].intercalate (fields.map (writeField d)) ++ '\n' :: cs)) =
          run d ⟨rows ++ [done ++ fields], [], [], .startRecord⟩ (events cs) := by
  induction fields with
  | nil => exact absurd rfl hne
  | cons f fields ih =>
    intro done state hstate hempty hfields
    obtain ⟨⟨hsafe, hlimit⟩, hfields⟩ := List.forall_mem_cons.1 hfields
    cases fields with
    | nil =>
      obtain ⟨state', hcomplete, hrun⟩ := run_writeField rows done ('\n' :: cs) hstate hsafe hlimit
        (List.cons_ne_nil _ _)
      have hwritten : [d.delimiter].intercalate ([f].map (writeField d)) = writeField d f := by
        simp [List.intercalate]
      rw [hwritten, hrun]
      refine run_newline hcomplete ?_ hstate
      cases hcomplete with
      | plain => exact fun h => nomatch h
      | quoted => exact fun h => nomatch h
      | empty h => exact hempty (by rw [h])
    | cons g fields =>
      have hwritten : [d.delimiter].intercalate ((f :: g :: fields).map (writeField d)) ++ '\n' :: cs =
          writeField d f ++ d.delimiter ::
            ([d.delimiter].intercalate ((g :: fields).map (writeField d)) ++ '\n' :: cs) := by
        simp [List.intercalate]
      obtain ⟨state', hcomplete, hrun⟩ := run_writeField rows done
        (d.delimiter :: ([d.delimiter].intercalate ((g :: fields).map (writeField d)) ++ '\n' :: cs))
        hstate hsafe hlimit (List.cons_ne_nil _ _)
      rw [hwritten, hrun, run_delimiter hstate hcomplete (by simp),
        ih (List.cons_ne_nil _ _) _ _ (.inl rfl) (fun _ h => nomatch h) hfields, List.append_assoc,
        List.singleton_append]

/-- A row of safe fields is read as it was written. -/
theorem run_writeRow {rows : List (List (List Char))} {fields : List (List Char)} (hne : fields ≠ [])
    (hfields : ∀ f ∈ fields, Safe d f ∧ f.length ≤ d.fieldLimit) :
    run d ⟨rows, [], [], .startRecord⟩ (events (writeRow d fields ++ cs)) =
      run d ⟨rows ++ [fields], [], [], .startRecord⟩ (events cs) := by
  rw [writeRow]
  split_ifs with hempty
  · subst hempty
    have hclosed : processChar d ⟨rows, [], [], .inQuotedField⟩ '"' =
        .ok ⟨rows, [], [], .quoteInQuotedField⟩ := rfl
    change run d _ (events ('"' :: '"' :: '\n' :: cs)) = _
    rw [events_cons (by decide) (by decide) (by simp), events_cons (by decide) (by decide) (by simp),
      run_some (processChar_quote (.inr rfl)), run_some hclosed,
      run_newline .quoted (fun h => nomatch h) (.inr rfl)]
    rfl
  · rw [List.append_assoc, List.singleton_append,
      run_fields fields hne [] _ (.inr rfl) (fun h => absurd h hempty) hfields]
    rfl

/-! ## Fields that are not safe -/

/-- A `\r` outside of quotes ends the row. -/
theorem run_return {r' : Reader} (cs : List Char) (h : processChar d r '\r' = .ok r')
    (hstate : r'.state = .eatNewLine) :
    ∃ cs', run d r (events ('\r' :: cs)) = run d r'.pushRow (events cs') := by
  have hpush : processLine r' = r'.pushRow := by rw [processLine, hstate]
  by_cases hhead : cs.head? = some '\n'
  · obtain ⟨cs, rfl⟩ := List.head?_eq_some_iff.1 hhead
    have hnewline : processChar d r' '\n' = .ok r' := by
      rw [processChar, hstate]
      rfl
    refine ⟨cs, ?_⟩
    rw [events_return_newline, run_some h, events_newline, run_some hnewline, run_none, hpush]
  · refine ⟨cs, ?_⟩
    rw [events_return hhead, run_some h, run_none, hpush]

/-- A field that is not safe ends its row, which is then another row. -/
theorem run_unsafe (rows : List (List (List Char))) (cs : List Char) {fields : List (List Char)}
    {state : ReadState} {field : List Char} (hstate : state = .startField ∨ state = .startRecord ∧ fields = [])
    (hexposed : ¬ Safe d field) (hlimit : field.length ≤ d.fieldLimit) :
    ∃ row cs', (∀ rest, row ≠ fields ++ field :: rest) ∧
      run d ⟨rows, fields, [], state⟩ (events (writeField d field ++ cs)) =
        run d ⟨rows ++ [row], [], [], .startRecord⟩ (events cs') := by
  obtain ⟨hreturn, hquoted⟩ := Classical.not_imp.1 hexposed
  rw [Bool.not_eq_true] at hquoted
  have hstart : state = .startField ∨ state = .startRecord := hstate.imp_right And.left
  obtain ⟨before, after, rfl, hbefore⟩ := List.eq_append_cons_of_mem hreturn
  have hne (rest : List (List Char)) :
      fields ++ [before] ≠ fields ++ (before ++ '\r' :: after) :: rest := by
    intro h
    have hfield := (List.cons.inj (List.append_cancel_left h)).1
    exact absurd (congrArg List.length hfield) (by simp)
  rw [writeField, hquoted, if_neg Bool.false_ne_true, List.append_assoc, List.cons_append]
  cases before with
  | nil =>
    rcases hstate with rfl | ⟨rfl, rfl⟩
    · obtain ⟨cs', hrun⟩ := run_return (d := d) (r := ⟨rows, fields, [], .startField⟩)
        (after ++ cs) rfl rfl
      exact ⟨_, cs', hne, hrun⟩
    · obtain ⟨cs', hrun⟩ := run_return (d := d) (r := ⟨rows, [], [], .startRecord⟩)
        (after ++ cs) rfl rfl
      exact ⟨[], cs', fun rest => (List.cons_ne_nil _ _).symm, hrun⟩
  | cons c t =>
    have hplain : ∀ c' ∈ c :: t, Plain d c' := by
      intro c' hc'
      obtain ⟨hdelimiter, -, hnewline⟩ :=
        not_special_of_not_quoted hquoted (List.mem_append_left _ hc')
      refine ⟨hdelimiter, hnewline, ?_⟩
      rintro rfl
      exact hbefore hc'
    have hquote := (not_special_of_not_quoted hquoted
      (List.mem_append_left _ (List.mem_cons_self (a := c) (l := t)))).2.1
    obtain ⟨hfirst, hrest⟩ := List.forall_mem_cons.1 hplain
    rw [List.length_append, List.length_cons] at hlimit
    obtain ⟨cs', hrun⟩ := run_return (d := d) (r := ⟨rows, fields, c :: t, .inField⟩)
      (after ++ cs) rfl rfl
    refine ⟨_, cs', hne, Eq.trans ?_ hrun⟩
    rw [List.cons_append, events_cons hfirst.newline hfirst.carriage (by simp),
      run_some (processChar_plain hstart hfirst hquote (by omega))]
    exact run_plain (List.cons_ne_nil _ _) t hrest [c] (by rw [List.length_singleton]; omega)

/-- A row of which a field is not safe is read as another row. -/
theorem run_unsafeRow (rows : List (List (List Char))) (cs : List Char) (fields : List (List Char)) :
    ∀ (done : List (List Char)) (state : ReadState),
      state = .startField ∨ state = .startRecord ∧ done = [] →
      (∃ f ∈ fields, ¬ Safe d f) → (∀ f ∈ fields, f.length ≤ d.fieldLimit) →
        ∃ row cs', row ≠ done ++ fields ∧
          run d ⟨rows, done, [], state⟩
              (events ([d.delimiter].intercalate (fields.map (writeField d)) ++ '\n' :: cs)) =
            run d ⟨rows ++ [row], [], [], .startRecord⟩ (events cs') := by
  induction fields with
  | nil => exact fun _ _ _ h => absurd h (by simp)
  | cons f fields ih =>
    intro done state hstate hexposed hlimits
    obtain ⟨hlimit, hlimits⟩ := List.forall_mem_cons.1 hlimits
    obtain ⟨rest, hwritten⟩ : ∃ rest, [d.delimiter].intercalate ((f :: fields).map (writeField d)) ++
        '\n' :: cs = writeField d f ++ rest ∧ (fields ≠ [] → rest = d.delimiter ::
          ([d.delimiter].intercalate (fields.map (writeField d)) ++ '\n' :: cs)) := by
      cases fields with
      | nil => exact ⟨'\n' :: cs, by simp [List.intercalate], fun h => absurd rfl h⟩
      | cons g fields => exact ⟨_, by simp [List.intercalate], fun _ => rfl⟩
    rw [hwritten.1]
    by_cases hsafe : Safe d f
    · obtain ⟨g, hg, hgexposed⟩ := hexposed
      rcases List.mem_cons.1 hg with rfl | hg
      · exact absurd hsafe hgexposed
      rw [hwritten.2 (List.ne_nil_of_mem hg)]
      have hstart : state = .startField ∨ state = .startRecord := hstate.imp_right And.left
      obtain ⟨state', hcomplete, hrun⟩ := run_writeField rows done
        (d.delimiter :: ([d.delimiter].intercalate (fields.map (writeField d)) ++ '\n' :: cs))
        hstart hsafe hlimit (List.cons_ne_nil _ _)
      obtain ⟨row, cs', hrow, hrest⟩ := ih (done ++ [f]) .startField (.inl rfl) ⟨g, hg, hgexposed⟩ hlimits
      rw [List.append_assoc, List.singleton_append] at hrow
      refine ⟨row, cs', hrow, ?_⟩
      rw [hrun, run_delimiter hstart hcomplete (by simp), hrest]
    · obtain ⟨row, cs', hrow, hrun⟩ := run_unsafe rows rest hstate hsafe hlimit
      exact ⟨row, cs', hrow fields, hrun⟩

/-! ## Reading what was written -/

theorem step_rows {r' : Reader} {e : Option Char} (h : step d r e = .ok r') : r.rows <+: r'.rows := by
  have hadd {r r' : Reader} {c : Char} (h : r.addChar d c = .ok r') : r'.rows = r.rows := by
    obtain ⟨-, h⟩ := check_bind_eq_ok.1 h
    cases h
    rfl
  have hstart {r r' : Reader} {c : Char} (h : startField d r c = .ok r') : r'.rows = r.rows := by
    rw [startField] at h
    split_ifs at h
    · cases h; rfl
    · cases h; rfl
    · cases h; rfl
    · exact (hadd h).trans rfl
  cases e with
  | none =>
    cases h
    rw [processLine]
    split
    · exact List.prefix_append _ _
    · exact List.prefix_append _ _
    · exact List.prefix_append _ _
    · exact List.prefix_append _ _
    · exact List.prefix_append _ _
    · exact List.prefix_rfl
  | some c =>
    suffices hrows : r'.rows = r.rows from hrows ▸ List.prefix_rfl
    change processChar d r c = .ok r' at h
    rw [processChar] at h
    split at h
    all_goals try split_ifs at h
    all_goals first
      | exact hstart h
      | exact (hadd h).trans rfl
      | (cases h; rfl)

theorem run_rows {r' : Reader} {es : List (Option Char)} (h : run d r es = .ok r') :
    r.rows <+: r'.rows := by
  induction es generalizing r with
  | nil =>
    cases h
    exact List.prefix_rfl
  | cons e es ih =>
    rw [run_cons] at h
    obtain ⟨r₁, hstep, hrun⟩ := bind_eq_ok.1 h
    exact (step_rows hstep).trans (ih hrun)

variable {rows : List (List (List Char))}

/-- Rows of safe fields are read as they were written. -/
theorem run_writeRows (hne : ∀ row ∈ rows, row ≠ []) (hlimits : ∀ row ∈ rows, ∀ f ∈ row,
    f.length ≤ d.fieldLimit) (hsafe : ∀ row ∈ rows, ∀ f ∈ row, Safe d f) :
    ∀ before : List (List (List Char)),
      run d ⟨before, [], [], .startRecord⟩ (events (writeRows d rows)) =
        .ok ⟨before ++ rows, [], [], .startRecord⟩ := by
  induction rows with
  | nil =>
    intro before
    rw [List.append_nil]
    rfl
  | cons row rows ih =>
    intro before
    obtain ⟨hrow, hne⟩ := List.forall_mem_cons.1 hne
    obtain ⟨hlimit, hlimits⟩ := List.forall_mem_cons.1 hlimits
    obtain ⟨hfirst, hsafe⟩ := List.forall_mem_cons.1 hsafe
    rw [writeRows, List.flatMap_cons, run_writeRow hrow fun f hf => ⟨hfirst f hf, hlimit f hf⟩]
    rw [← writeRows, ih hne hlimits hsafe, List.append_assoc, List.singleton_append]

/-- Rows of which a field is not safe are not read as they were written. -/
theorem rows_of_unsafe (hne : ∀ row ∈ rows, row ≠ []) (hlimits : ∀ row ∈ rows, ∀ f ∈ row,
    f.length ≤ d.fieldLimit) (hexposed : ¬ ∀ row ∈ rows, ∀ f ∈ row, Safe d f) :
    ∀ (before : List (List (List Char))) (r : Reader),
      run d ⟨before, [], [], .startRecord⟩ (events (writeRows d rows)) = .ok r →
        r.rows ≠ before ++ rows := by
  induction rows with
  | nil => exact absurd (fun row hrow => absurd hrow List.not_mem_nil) hexposed
  | cons row rows ih =>
    intro before r hrun
    obtain ⟨hrow, hne⟩ := List.forall_mem_cons.1 hne
    obtain ⟨hlimit, hlimits⟩ := List.forall_mem_cons.1 hlimits
    rw [writeRows, List.flatMap_cons] at hrun
    by_cases hfirst : ∀ f ∈ row, Safe d f
    · have hrest : ¬ ∀ row ∈ rows, ∀ f ∈ row, Safe d f := fun hrest =>
        hexposed (List.forall_mem_cons.2 ⟨hfirst, hrest⟩)
      rw [run_writeRow hrow fun f hf => ⟨hfirst f hf, hlimit f hf⟩] at hrun
      have hrows := ih hne hlimits hrest _ r hrun
      rwa [List.append_assoc, List.singleton_append] at hrows
    · have hbad : ∃ f ∈ row, ¬ Safe d f := by simpa using hfirst
      have hempty : row ≠ [[]] := by
        rintro rfl
        exact hfirst (by simp [Safe])
      rw [writeRow, if_neg hempty, List.append_assoc, List.singleton_append] at hrun
      obtain ⟨row', cs', hrow', hstep⟩ := run_unsafeRow (d := d) before
        (rows.flatMap (writeRow d)) row [] .startRecord (.inr ⟨rfl, rfl⟩) hbad hlimit
      rw [hstep] at hrun
      intro hrows
      have hprefix := run_rows hrun
      rw [hrows] at hprefix
      have hheads := List.prefix_append_right_inj before |>.1 hprefix
      exact hrow' (List.cons_prefix_cons.1 hheads).1

/-- The rows that are written are those that are read exactly if every field is safe. -/
theorem read_write_iff (hne : ∀ row ∈ rows, row ≠ []) (hlimits : ∀ row ∈ rows, ∀ f ∈ row,
    f.length ≤ d.fieldLimit) :
    read d (writeRows d rows) = .ok rows ↔ ∀ row ∈ rows, ∀ f ∈ row, Safe d f := by
  constructor
  · intro h
    by_contra hexposed
    obtain ⟨r, hrun, hfinish⟩ := bind_eq_ok.1 h
    obtain ⟨-, hrows⟩ := check_bind_eq_ok.1 hfinish
    exact rows_of_unsafe hne hlimits hexposed [] r hrun (pure_eq_ok.1 hrows)
  · intro hsafe
    rw [read, run_writeRows hne hlimits hsafe]
    rfl

/-! ## The characters of a table -/

/-- The characters of all fields, in order. -/
def characters (rows : List (List (List Char))) : List Char := rows.flatten.flatten

theorem doubleQuotes_cons (c : Char) (t : List Char) :
    doubleQuotes (c :: t) = (if c = '"' then ['"', '"'] else [c]) ++ doubleQuotes t :=
  List.flatMap_cons ..

theorem sublist_writeField (field : List Char) : field.Sublist (writeField d field) := by
  have hdouble : ∀ t : List Char, t.Sublist (doubleQuotes t) := by
    intro t
    induction t with
    | nil => exact List.Sublist.refl _
    | cons c t ih =>
      rw [doubleQuotes_cons]
      split_ifs with hc
      · subst hc
        exact (ih.cons_cons '"').cons '"'
      · exact ih.cons_cons c
  rw [writeField]
  split_ifs
  · exact ((hdouble field).trans (List.sublist_append_left _ _)).cons '"'
  · exact List.Sublist.refl _

theorem sublist_writeRow (fields : List (List Char)) : fields.flatten.Sublist (writeRow d fields) := by
  have hfields : ∀ fields : List (List Char),
      fields.flatten.Sublist ([d.delimiter].intercalate (fields.map (writeField d))) := by
    intro fields
    induction fields with
    | nil => exact List.Sublist.refl _
    | cons f fields ih =>
      cases fields with
      | nil => simpa [List.intercalate] using sublist_writeField f
      | cons g fields =>
        have hwritten : [d.delimiter].intercalate ((f :: g :: fields).map (writeField d)) =
            writeField d f ++ d.delimiter :: [d.delimiter].intercalate ((g :: fields).map (writeField d)) := by
          simp [List.intercalate]
        rw [hwritten, List.flatten_cons]
        exact (sublist_writeField f).append (ih.cons _)
  rw [writeRow]
  split_ifs with hempty
  · subst hempty
    exact List.nil_sublist _
  · exact (hfields fields).trans (List.sublist_append_left _ _)

theorem sublist_writeRows (rows : List (List (List Char))) :
    (characters rows).Sublist (writeRows d rows) := by
  induction rows with
  | nil => exact List.Sublist.refl _
  | cons row rows ih =>
    rw [characters, List.flatten_cons, List.flatten_append, writeRows, List.flatMap_cons]
    exact (sublist_writeRow row).append ih

/-- What the writer adds are delimiters, quotes and ends of lines. -/
theorem count_writeRows {x : Char} (hdelimiter : x ≠ d.delimiter) (hquote : x ≠ '"')
    (hnewline : x ≠ '\n') (rows : List (List (List Char))) :
    (writeRows d rows).count x = (characters rows).count x := by
  have hdouble : ∀ t : List Char, (doubleQuotes t).count x = t.count x := by
    intro t
    induction t with
    | nil => rfl
    | cons c t ih =>
      rw [doubleQuotes_cons, List.count_append, ih]
      split_ifs with hc
      · subst hc
        simp [List.count_cons_of_ne (Ne.symm hquote)]
      · rw [List.count_singleton, List.count_cons, Nat.add_comm]
  have hfield : ∀ f : List Char, (writeField d f).count x = f.count x := by
    intro f
    rw [writeField]
    split_ifs
    · simp [hdouble, Ne.symm hquote]
    · rfl
  have hrow : ∀ fields : List (List Char),
      ([d.delimiter].intercalate (fields.map (writeField d))).count x = fields.flatten.count x := by
    intro fields
    induction fields with
    | nil => rfl
    | cons f fields ih =>
      cases fields with
      | nil => simp [List.intercalate, hfield]
      | cons g fields =>
        have hwritten : [d.delimiter].intercalate ((f :: g :: fields).map (writeField d)) =
            writeField d f ++ d.delimiter :: [d.delimiter].intercalate ((g :: fields).map (writeField d)) := by
          simp [List.intercalate]
        rw [hwritten, List.flatten_cons, List.count_append, List.count_append, hfield,
          List.count_cons_of_ne (Ne.symm hdelimiter), ih]
  induction rows with
  | nil => rfl
  | cons row rows ih =>
    rw [characters, List.flatten_cons, List.flatten_append, List.count_append, writeRows,
      List.flatMap_cons, List.count_append]
    refine congrArg₂ (· + ·) ?_ ih
    rw [writeRow]
    split_ifs with hempty
    · subst hempty
      simp [Ne.symm hquote, Ne.symm hnewline]
    · rw [List.count_append, hrow, List.count_cons_of_ne (Ne.symm hnewline), List.count_nil, Nat.add_zero]

theorem mem_characters {x : Char} : x ∈ characters rows ↔ ∃ row ∈ rows, ∃ f ∈ row, x ∈ f := by
  simp only [characters, List.mem_flatten]
  constructor
  · rintro ⟨f, ⟨row, hrow, hf⟩, hx⟩
    exact ⟨row, hrow, f, hf, hx⟩
  · rintro ⟨row, hrow, f, hf, hx⟩
    exact ⟨f, ⟨row, hrow, hf⟩, hx⟩

theorem mem_writeRows {x : Char} (hdelimiter : x ≠ d.delimiter) (hquote : x ≠ '"') (hnewline : x ≠ '\n') :
    x ∈ writeRows d rows ↔ ∃ row ∈ rows, ∃ f ∈ row, x ∈ f := by
  rw [← mem_characters, ← List.count_pos_iff, count_writeRows hdelimiter hquote hnewline,
    List.count_pos_iff]

/-- The first character of a table. -/
theorem head?_writeRows {c : Char} {t : List Char} {fields : List (List Char)} :
    (writeRows d (((c :: t) :: fields) :: rows)).head? =
      some (if quoted d (c :: t) = true then '"' else c) := by
  have hfield : (writeField d (c :: t)).head? = some (if quoted d (c :: t) = true then '"' else c) := by
    rw [writeField]
    split_ifs <;> rfl
  have hempty : (c :: t) :: fields ≠ [[]] := by simp
  rw [writeRows, List.flatMap_cons, writeRow, if_neg hempty]
  cases fields with
  | nil => simp [List.intercalate, hfield]
  | cons g fields => simp [List.intercalate, hfield]

/-- The characters that the reader has in its rows and its record. -/
def Reader.characters (r : Reader) : List Char :=
  Csv.characters r.rows ++ r.fields.flatten ++ r.field

theorem filterMap_events (text : List Char) : (events text).filterMap (fun e => e) = text := by
  induction text using events.induct with
  | case1 => rfl
  | case2 cs ih => simp [events, ih]
  | case3 cs ih => simp [events, ih]
  | case4 cs h ih =>
    rw [events]
    · simp [ih]
    · exact h
  | case5 c hnewline hreturn =>
    rw [events]
    · rfl
    · exact hnewline
    · exact hreturn
  | case6 c cs hnewline hpair hreturn hne ih =>
    rw [events]
    · simp [ih]
    all_goals assumption

theorem characters_pushRow (r : Reader) :
    r.pushRow.characters = characters r.rows ++ r.fields.flatten := by
  simp [Reader.pushRow, Reader.characters, characters]

theorem characters_saveField (r : Reader) : r.saveField.characters = r.characters := by
  simp [Reader.saveField, Reader.characters]

theorem sublist_pushRow (r : Reader) : r.pushRow.characters.Sublist r.characters := by
  rw [characters_pushRow]
  exact List.sublist_append_left _ _

/-- A step of the reader adds the character it reads, or none. -/
theorem sublist_step {r r' : Reader} {e : Option Char} (h : step d r e = .ok r') :
    r'.characters.Sublist (r.characters ++ e.toList) := by
  have hadd {r r' : Reader} {c : Char} (h : r.addChar d c = .ok r') :
      r'.characters.Sublist (r.characters ++ [c]) := by
    obtain ⟨-, h⟩ := check_bind_eq_ok.1 h
    cases h
    simp [Reader.characters]
  have hkeep {r r' : Reader} {c : Char} (h : r'.characters = r.characters) :
      r'.characters.Sublist (r.characters ++ [c]) := h ▸ List.sublist_append_left _ _
  have hstart {r r' : Reader} {c : Char} (h : startField d r c = .ok r') :
      r'.characters.Sublist (r.characters ++ [c]) := by
    rw [startField] at h
    split_ifs at h
    · cases h
      exact hkeep (characters_saveField r)
    · cases h
      exact hkeep rfl
    · cases h
      exact hkeep (characters_saveField r)
    · exact hadd (r := r.goto .inField) h
  cases e with
  | none =>
    cases h
    rw [Option.toList_none, List.append_nil, processLine]
    split
    · exact sublist_pushRow r
    · exact sublist_pushRow r
    · exact characters_saveField r ▸ sublist_pushRow r.saveField
    · exact characters_saveField r ▸ sublist_pushRow r.saveField
    · exact characters_saveField r ▸ sublist_pushRow r.saveField
    · exact List.Sublist.refl _
  | some c =>
    change processChar d r c = .ok r' at h
    rw [processChar] at h
    split at h
    all_goals try split_ifs at h
    all_goals first
      | exact hstart h
      | exact hadd h
      | exact hadd (r := r.goto .inQuotedField) h
      | (cases h; exact hkeep (characters_saveField r))
      | (cases h; exact hkeep rfl)

theorem sublist_run {r r' : Reader} {es : List (Option Char)} (h : run d r es = .ok r') :
    r'.characters.Sublist (r.characters ++ es.filterMap fun e => e) := by
  induction es generalizing r with
  | nil =>
    cases h
    rw [List.filterMap_nil, List.append_nil]
  | cons e es ih =>
    rw [run_cons] at h
    obtain ⟨r₁, hstep, hrun⟩ := bind_eq_ok.1 h
    refine (ih hrun).trans ?_
    have hevents : (e :: es).filterMap (fun e => e) = e.toList ++ es.filterMap fun e => e := by
      cases e <;> rfl
    rw [hevents, ← List.append_assoc]
    exact (sublist_step hstep).append_right _

/-- The fields of a table that is read are in the text, in order. -/
theorem sublist_of_read {text : List Char} (h : read d text = .ok rows) :
    (characters rows).Sublist text := by
  obtain ⟨r, hrun, hfinish⟩ := bind_eq_ok.1 h
  obtain ⟨-, hrows⟩ := check_bind_eq_ok.1 hfinish
  have hall := sublist_run hrun
  rw [filterMap_events] at hall
  obtain rfl := pure_eq_ok.1 hrows
  rw [Reader.characters, List.append_assoc] at hall
  exact (List.sublist_append_left _ _).trans hall

end Csv

end StateLib
