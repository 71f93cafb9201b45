import DollState.Library.JsonShape
import DollState.Search.LocalSearch
import DollState.State.Reference

/-!
# What a snippet shows

A hit of the search has every term of the query in some text of its record. What it shows of a text is a
window of 160 characters, whose place is computed from a position in the case-folded text. The window has one
of the terms found in the text exactly if one occurs, in the folded text, within what the window folds to
(`hit_explainsItself_iff`). That is so wherever folding keeps the length of a text and the term that occurs
first is not longer than 112 characters (`Covered.of_one`).
-/

namespace DollState.Search

open StateLib StateLib.Folding

/-! ## Occurrences -/

theorem contains_iff {needle text : Text} : contains needle text = true ↔ needle <:+: text := by
  induction text with
  | nil => rw [contains, List.isPrefixOf_iff_prefix, List.prefix_nil, List.infix_nil]
  | cons c text ih => rw [contains, Bool.or_eq_true, List.isPrefixOf_iff_prefix, ih, List.infix_cons_iff]

theorem infix_cons_iff_of_notMem {needle text : Text} {c : Char} (h : c ∉ needle) :
    needle <:+: c :: text ↔ needle <:+: text := by
  rw [List.infix_cons_iff, List.prefix_cons_iff]
  constructor
  · rintro ((rfl | ⟨rest, rfl, -⟩) | hinfix)
    · exact List.nil_infix
    · exact absurd List.mem_cons_self h
    · exact hinfix
  · exact .inr

theorem infix_concat_iff_of_notMem {needle text : Text} {c : Char} (h : c ∉ needle) :
    needle <:+: text ++ [c] ↔ needle <:+: text := by
  rw [← List.reverse_infix, List.reverse_append, List.reverse_singleton, List.singleton_append,
    infix_cons_iff_of_notMem (by rwa [List.mem_reverse]), List.reverse_infix]

theorem mem_of_mem_splitWords {w text word : Text} (hword : word ∈ splitWords w text) {c : Char}
    (hc : c ∈ word) : c ∈ w ∨ c ∈ text := by
  induction text generalizing w with
  | nil =>
    rw [splitWords, flushWord] at hword
    split at hword
    · cases hword
    · exact .inl (List.mem_singleton.1 hword ▸ hc)
  | cons d text ih =>
    rw [splitWords] at hword
    split at hword
    · rcases List.mem_append.1 hword with hword | hword
      · rw [flushWord] at hword
        split at hword
        · cases hword
        · exact .inl (List.mem_singleton.1 hword ▸ hc)
      · exact .inr (List.mem_cons_of_mem _ ((ih hword).resolve_left List.not_mem_nil))
    · rcases ih hword with hmem | hmem
      · rcases List.mem_append.1 hmem with hmem | hmem
        · exact .inl hmem
        · exact .inr (List.mem_singleton.1 hmem ▸ List.mem_cons_self)
      · exact .inr (List.mem_cons_of_mem _ hmem)

/-- Joining words adds spaces only. -/
theorem mem_of_mem_joinWords {text : Text} {c : Char} (hc : c ∈ joinWords text) : c = ' ' ∨ c ∈ text := by
  rcases JsonText.mem_intercalate_iff.1 hc with ⟨word, hword, hc⟩ | ⟨-, rfl⟩
  · exact .inr ((mem_of_mem_splitWords hword hc).resolve_left List.not_mem_nil)
  · exact .inl rfl

section

variable [UnicodeLibrary]

/-- What is documented of Unicode: the ellipsis has a compatibility decomposition, and case folding maps
no other character to it. -/
structure LawfulUnicode : Prop where
  nfkc : ∀ text, ellipsis ∉ UnicodeLibrary.nfkc text
  foldEllipsis : UnicodeLibrary.foldChar ellipsis = [ellipsis]
  foldOther : ∀ c ≠ ellipsis, ellipsis ∉ UnicodeLibrary.foldChar c

/-! ## The window of a snippet -/

/-- Where the first of the terms occurs in the folded text. -/
def firstOccurrence (value : Text) (terms : List Text) : ℕ :=
  (terms.filterMap (Folding.find? · (casefold value))).min?.getD 0

/-- The window starts 48 characters before the first occurrence, if 160 characters follow. -/
def windowStart (value : Text) (terms : List Text) : ℕ :=
  min (firstOccurrence value terms - 48) (value.length - maxSnippetChars)

/-- The characters of the window. -/
def window (value : Text) (terms : List Text) : Text :=
  (value.take (windowStart value terms + maxSnippetChars)).drop (windowStart value terms)

/-- One of the terms occurs in the folded text within what the window folds to. -/
def Covered (value : Text) (terms : List Text) : Prop :=
  ∃ term ∈ terms, ∃ p, OccursAt term (casefold value) p ∧
    foldedLength UnicodeLibrary.foldChar value (windowStart value terms) ≤ p ∧
    p + term.length ≤ foldedLength UnicodeLibrary.foldChar value (windowStart value terms + maxSnippetChars)

/-- A snippet is the window, with an ellipsis on each side where something is cut off. -/
theorem makeSnippet_eq (value : Text) (terms : List Text) : makeSnippet value terms =
    (if 0 < windowStart value terms then [ellipsis] else []) ++ window value terms ++
      (if windowStart value terms + maxSnippetChars < value.length then [ellipsis] else []) := by
  unfold makeSnippet window windowStart firstOccurrence
  dsimp only
  generalize (terms.filterMap (Folding.find? · (casefold value))).min?.getD 0 = first
  have hstart : (if min value.length (first - 48 + maxSnippetChars) - (first - 48) < maxSnippetChars ∧
        0 < first - 48 then min value.length (first - 48 + maxSnippetChars) - maxSnippetChars else first - 48) =
      min (first - 48) (value.length - maxSnippetChars) := by
    rw [maxSnippetChars]
    split <;> omega
  have htake : value.take (min value.length (first - 48 + maxSnippetChars)) =
      value.take (min (first - 48) (value.length - maxSnippetChars) + maxSnippetChars) := by
    rw [List.take_eq_take_iff, maxSnippetChars]
    omega
  have hcut : min value.length (first - 48 + maxSnippetChars) < value.length ↔
      min (first - 48) (value.length - maxSnippetChars) + maxSnippetChars < value.length := by
    rw [maxSnippetChars]
    omega
  simp only [hstart, htake, hcut]
  split <;> split <;> simp

variable {value : Text} {terms : List Text} {row : RecordEnvelope}

theorem infix_casefold_makeSnippet_iff (hlaws : LawfulUnicode) {term : Text} (h : ellipsis ∉ term) :
    term <:+: casefold (makeSnippet value terms) ↔ term <:+: casefold (window value terms) := by
  have hfold : casefold [ellipsis] = [ellipsis] := by
    rw [casefold, List.flatMap_singleton, hlaws.foldEllipsis]
  have hnil : casefold [] = [] := rfl
  have happend : ∀ s t : Text, casefold (s ++ t) = casefold s ++ casefold t := fun s t => List.flatMap_append
  rw [makeSnippet_eq, happend, happend]
  split <;> split <;>
    simp only [hfold, hnil, List.nil_append, List.append_nil, List.cons_append,
      infix_cons_iff_of_notMem h, infix_concat_iff_of_notMem h]

/-- A snippet shows one of the terms exactly if the window covers one. -/
theorem exists_infix_makeSnippet_iff (hlaws : LawfulUnicode) (h : ∀ term ∈ terms, ellipsis ∉ term) :
    (∃ term ∈ terms, term <:+: casefold (makeSnippet value terms)) ↔ Covered value terms := by
  refine exists_congr fun term => and_congr_right fun hterm => ?_
  rw [infix_casefold_makeSnippet_iff hlaws (h term hterm)]
  exact infix_window_iff (Nat.le_add_right _ _)

/-- Where folding keeps lengths and the term that occurs first is not too long, the window covers it. -/
theorem Covered.of_one (hone : ∀ c ∈ value, (UnicodeLibrary.foldChar c).length = 1)
    (hterms : ∀ term ∈ terms, term.length ≤ 112) (hfound : ∃ term ∈ terms, term <:+: casefold value) :
    Covered value terms := by
  have hlength : (casefold value).length = value.length := by
    have hfolded := foldedLength_of_one hone value.length
    rwa [foldedLength, List.take_length, Nat.min_self] at hfolded
  obtain ⟨found, hfoundMem, hfound⟩ := hfound
  obtain ⟨q, hq⟩ := exists_find? hfound
  have hsome : ((terms.filterMap (Folding.find? · (casefold value))).min?).isSome := by
    rw [List.isSome_min?_iff]
    exact List.ne_nil_of_mem (List.mem_filterMap.2 ⟨found, hfoundMem, hq⟩)
  obtain ⟨first, hfirst⟩ := Option.isSome_iff_exists.1 hsome
  obtain ⟨term, hterm, hat⟩ := List.mem_filterMap.1 (List.min?_mem hfirst)
  obtain ⟨hocc, hle⟩ := occursAt_of_find? hat
  have hend := length_le_of_occursAt hocc hle
  have hshort := hterms term hterm
  refine ⟨term, hterm, first, hocc, ?_⟩
  rw [foldedLength_of_one hone, foldedLength_of_one hone, windowStart, firstOccurrence, hfirst, Option.getD_some,
    maxSnippetChars]
  omega

/-! ## The hits of a search -/

/-- A field in which a term has been found. -/
def isFound (terms : List Text) (field : Text × Text) : Bool :=
  normalizeDisplayText field.2 ≠ [] && fieldTerms terms field.2 ≠ []

/-- The fields that a hit reports: the first three in which a term has been found. -/
def reported (terms : List Text) (row : RecordEnvelope) : List (Text × Text) :=
  (((textFields row).filter (isFound terms)).insertionSort fun a b =>
    matchKey (fieldMatch terms a) ≤ matchKey (fieldMatch terms b)).take maxMatchesPerHit

/-- The hit explains why the record has been found: each term is in some field, and each match shows a term
that is in its field. -/
structure ExplainsItself (terms : List Text) (row : RecordEnvelope) (hit : LocalSearchHit) : Prop where
  everyTerm : ∀ term ∈ terms, ∃ field ∈ textFields row, term <:+: casefold (normalizeDisplayText field.2)
  everyMatch : List.Forall₂ (fun field m => m.fieldPath = boundFieldPath field.1 ∧
    ∃ term ∈ terms, term <:+: casefold (normalizeDisplayText field.2) ∧ term <:+: casefold m.snippet)
    (reported terms row) hit.found

theorem mem_fieldTerms {terms : List Text} {rawText term : Text} : term ∈ fieldTerms terms rawText ↔
    term ∈ terms ∧ term <:+: casefold (normalizeDisplayText rawText) := by
  rw [fieldTerms, List.mem_filter, contains_iff]

/-- What the loop over the fields finds. -/
theorem foldl_matchField (terms : List Text) (fields : List (Text × Text)) (seen : RowState) :
    (fields.foldl (matchField terms) seen).found =
        seen.found ++ (fields.filter (isFound terms)).map (fieldMatch terms) ∧
      ∀ term, term ∈ (fields.foldl (matchField terms) seen).matchedTerms ↔
        term ∈ seen.matchedTerms ∨ ∃ field ∈ fields.filter (isFound terms), term ∈ fieldTerms terms field.2 := by
  induction fields generalizing seen with
  | nil => simp
  | cons field fields ih =>
    obtain ⟨ihFound, ihTerms⟩ := ih (matchField terms seen field)
    rw [List.foldl_cons, ihFound]
    by_cases hfound : isFound terms field = true
    · have hstep : matchField terms seen field = {
          matchedTerms := seen.matchedTerms ++ fieldTerms terms field.2
          found := seen.found ++ [fieldMatch terms field]
          titleTermCount := if field.1 = "title".toList then (fieldTerms terms field.2).length
            else seen.titleTermCount } := by
        rw [isFound, Bool.and_eq_true, decide_eq_true_eq, decide_eq_true_eq] at hfound
        rw [matchField, if_neg hfound.1]
        exact if_neg hfound.2
      rw [List.filter_cons_of_pos hfound]
      refine ⟨by rw [hstep]; simp, fun term => ?_⟩
      rw [ihTerms, hstep, List.mem_append, List.exists_mem_cons_iff, or_assoc]
    · have hstep : matchField terms seen field = seen := by
        rw [isFound, Bool.and_eq_true, decide_eq_true_eq, decide_eq_true_eq, not_and_or, not_not, not_not] at hfound
        rw [matchField]
        split
        · rfl
        · rename_i hne
          exact if_pos (hfound.resolve_left hne)
      rw [List.filter_cons_of_neg hfound, hstep]
      exact ⟨rfl, fun term => by rw [← hstep, ihTerms, hstep]⟩

/-- What a hit says about its record. -/
theorem of_matchRow {terms : List Text} {row : RecordEnvelope} {hit : LocalSearchHit} {counts : ℕ × ℕ}
    (h : matchRow row terms = (some hit, counts)) : hit.recordId = row.id ∧
      hit.found = (reported terms row).map (fieldMatch terms) ∧
      ∀ term ∈ terms, ∃ field ∈ textFields row, term <:+: casefold (normalizeDisplayText field.2) := by
  obtain ⟨hfound, hterms⟩ := foldl_matchField terms (textFields row) ⟨[], [], 0⟩
  unfold matchRow at h
  dsimp only at h
  split at h
  · cases h
  · rename_i hall
    obtain ⟨rfl, -⟩ := (Prod.mk.inj h).imp_left Option.some.inj
    refine ⟨rfl, ?_, fun term hterm => ?_⟩
    · change (List.insertionSort _ _).take _ = _
      rw [hfound, List.nil_append, reported, List.map_take]
      exact congrArg _ (List.map_insertionSort _ _ (fieldMatch terms) _ fun _ _ _ _ => Iff.rfl).symm
    · have hmem : term ∈ ((textFields row).foldl (matchField terms) ⟨[], [], 0⟩).matchedTerms := by
        by_contra hnot
        exact hall (List.any_eq_true.2 ⟨term, hterm, decide_eq_true hnot⟩)
      obtain ⟨field, hfield, hin⟩ := ((hterms term).1 hmem).resolve_left List.not_mem_nil
      exact ⟨field, (List.mem_filter.1 hfield).1, (mem_fieldTerms.1 hin).2⟩

/-- A term of a query has no ellipsis. -/
theorem ellipsis_notMem (hlaws : LawfulUnicode) {query : Text} {terms : List Text}
    (h : validateQuery query = .ok terms) : ∀ term ∈ terms, ellipsis ∉ term := by
  unfold validateQuery at h
  simp only [check_bind_eq_ok] at h
  obtain ⟨-, -, -, -, h⟩ := h
  obtain rfl := Except.ok.inj h
  intro term hterm hmem
  obtain ⟨word, hword, rfl⟩ := List.mem_map.1 (List.mem_eraseDups.1 hterm)
  obtain ⟨c, hc, hfold⟩ := List.mem_flatMap.1 hmem
  have hquery : c ∈ normalizeDisplayText query := by
    have hjoin : [' '].intercalate ((normalizeDisplayText query).splitOn ' ') = normalizeDisplayText query :=
      List.intercalate_splitOn ' '
    rw [← hjoin, JsonText.mem_intercalate_iff]
    exact .inl ⟨word, hword, hc⟩
  refine hlaws.foldOther c ?_ hfold
  rintro rfl
  rcases mem_of_mem_joinWords hquery with heq | hin
  · exact absurd heq (by decide)
  · exact hlaws.nfkc query hin

/-- A hit comes from a record that is matched. -/
theorem exists_matchRow [CaseLibrary] {db : Database} {readOnly : Bool} {query : Text} {recordType : Option Text}
    {limit : Int} {report : LocalSearchReport} {hit : LocalSearchHit}
    (h : searchLocalState db readOnly query recordType limit = .ok report) (hhit : hit ∈ report.hits) :
    ∃ row ∈ db.records.rows, ∃ terms counts, validateQuery query = .ok terms ∧
      matchRow row terms = (some hit, counts) := by
  unfold searchLocalState at h
  obtain ⟨-, h⟩ := check_bind_eq_ok.1 h
  obtain ⟨terms, hterms, h⟩ := bind_eq_ok.1 h
  obtain ⟨normalized, -, h⟩ := bind_eq_ok.1 h
  obtain ⟨-, h⟩ := check_bind_eq_ok.1 h
  obtain rfl := Except.ok.inj h
  obtain ⟨candidate, hcandidate, rfl⟩ := List.mem_map.1 hhit
  obtain ⟨entry, hentry, hmatch⟩ :=
    List.mem_filterMap.1 ((List.mem_insertionSort _).1 (List.mem_of_mem_take hcandidate))
  have hrow : entry.1 ∈ db.records.rows := by
    have hscanned := List.mem_of_mem_take (List.mem_of_mem_take (List.fst_mem_of_mem_zipIdx hentry))
    exact (List.mem_filter.1 ((List.mem_insertionSort _).1 hscanned)).1
  unfold matchCandidate at hmatch
  split at hmatch
  · rename_i hit titles fields heq
    obtain rfl := Option.some.inj hmatch
    exact ⟨entry.1, hrow, terms, (titles, fields), hterms, heq⟩
  · cases hmatch

/-- A hit has every term of the query, and it explains itself exactly if for each field that it reports the
window of the snippet covers a term that has been found there. -/
theorem hit_explainsItself_iff [CaseLibrary] (hlaws : LawfulUnicode) {db : Database} {readOnly : Bool}
    {query : Text} {recordType : Option Text} {limit : Int} {report : LocalSearchReport} {hit : LocalSearchHit}
    (h : searchLocalState db readOnly query recordType limit = .ok report) (hhit : hit ∈ report.hits) :
    ∃ row terms, db.find? hit.recordId = some row ∧ validateQuery query = .ok terms ∧
      (ExplainsItself terms row hit ↔ ∀ field ∈ reported terms row,
        Covered (normalizeDisplayText field.2) (fieldTerms terms field.2)) := by
  obtain ⟨row, hrow, terms, counts, hterms, hmatch⟩ := exists_matchRow h hhit
  obtain ⟨hid, hfound, hevery⟩ := of_matchRow hmatch
  refine ⟨row, terms, ?_, hterms, ?_⟩
  · rw [hid]
    exact Database.mem_iff_find?.1 hrow
  have hshown : ∀ field : Text × Text, ((fieldMatch terms field).fieldPath = boundFieldPath field.1 ∧
      ∃ term ∈ terms, term <:+: casefold (normalizeDisplayText field.2) ∧
        term <:+: casefold (fieldMatch terms field).snippet) ↔
      Covered (normalizeDisplayText field.2) (fieldTerms terms field.2) := by
    intro field
    rw [← exists_infix_makeSnippet_iff hlaws fun term hterm => ellipsis_notMem hlaws hterms term
      (mem_fieldTerms.1 hterm).1]
    simp only [mem_fieldTerms, and_assoc]
    exact and_iff_right rfl
  constructor
  · intro hexplains field hfield
    have hmatches := hexplains.everyMatch
    rw [hfound, List.forall₂_map_right_iff, List.forall₂_same] at hmatches
    exact (hshown field).1 (hmatches field hfield)
  · intro hcovered
    refine ⟨hevery, ?_⟩
    rw [hfound, List.forall₂_map_right_iff, List.forall₂_same]
    exact fun field hfield => (hshown field).2 (hcovered field hfield)

end

section Runs

/-- Unicode on lower-case texts whose only character that folds to two is the sharp s. -/
@[reducible] def sharpS : UnicodeLibrary where
  nfkc text := text.flatMap fun c => if c = ellipsis then "...".toList else [c]
  foldChar c := if c = 'ß' then "ss".toList else [c]

attribute [local instance] sharpS asciiCase

theorem lawful_sharpS : LawfulUnicode where
  nfkc text := by
    intro h
    obtain ⟨c, -, hc⟩ := List.mem_flatMap.1 h
    split at hc
    · exact absurd hc (by decide)
    · rename_i hne
      exact hne (List.mem_singleton.1 hc).symm
  foldEllipsis := rfl
  foldOther c hne h := by
    change ellipsis ∈ (if c = 'ß' then "ss".toList else [c]) at h
    split at h
    · exact absurd h (by decide)
    · exact hne (List.mem_singleton.1 h).symm

/-- A record with one word behind many letters that fold to two, and a long text after it. -/
def shiftedRow : RecordEnvelope where
  id := 1
  recordType := "memory"
  schemaVersion := 1
  createdAt := []
  updatedAt := []
  revision := 1
  status := .active
  provenance := .userCreated
  sensitivity := .personal
  title := none
  metadata := [("content", .str (List.replicate 49 'ß' ++ 'z' :: List.replicate 161 'x'))]

def shiftedDatabase : Database := { Database.fresh 0 [] with records := ⟨[shiftedRow], by decide⟩ }

/-- The search for the word finds the record, and no snippet shows the word. -/
def showsNothing : Bool :=
  match searchLocalState shiftedDatabase true ['z'] none 20 with
  | .ok report => report.hits.any fun hit =>
    hit.found ≠ [] && hit.found.all fun m => !contains ['z'] (casefold m.snippet)
  | .error _ => false

theorem showsNothing_eq : showsNothing = true := by decide +kernel

theorem exists_shiftedHit : ∃ report hit, searchLocalState shiftedDatabase true ['z'] none 20 = .ok report ∧
    hit ∈ report.hits ∧ hit.found ≠ [] ∧ ∀ m ∈ hit.found, ¬ ['z'] <:+: casefold m.snippet := by
  have h := showsNothing_eq
  unfold showsNothing at h
  split at h
  · rename_i report hreport
    obtain ⟨hit, hhit, h⟩ := List.any_eq_true.1 h
    rw [Bool.and_eq_true, decide_eq_true_eq, List.all_eq_true] at h
    refine ⟨report, hit, hreport, hhit, h.1, fun m hm hinfix => ?_⟩
    have hnone := h.2 m hm
    rw [contains_iff.2 hinfix] at hnone
    cases hnone
  · cases h

/-- The hit does not explain itself. -/
theorem not_explainsItself : ¬ ∀ (db : Database) (query : Text) (limit : Int) (report : LocalSearchReport) hit,
    searchLocalState db true query none limit = .ok report → hit ∈ report.hits →
    ∃ row terms, db.find? hit.recordId = some row ∧ validateQuery query = .ok terms ∧
      ExplainsItself terms row hit := by
  intro hall
  obtain ⟨report, hit, hreport, hhit, hne, hnone⟩ := exists_shiftedHit
  obtain ⟨row, terms, -, hterms, hexplains⟩ := hall _ _ _ _ _ hreport hhit
  have hquery : validateQuery ['z'] = .ok [['z']] := by decide +kernel
  obtain rfl := Except.ok.inj (hquery.symm.trans hterms)
  have hmatches := hexplains.everyMatch
  generalize reported [['z']] row = fields at hmatches
  generalize hit.found = found at hmatches hne hnone
  cases hmatches with
  | nil => exact hne rfl
  | cons hmatch _ =>
    obtain ⟨-, term, hterm, -, hshown⟩ := hmatch
    rw [List.mem_singleton.1 hterm] at hshown
    exact hnone _ List.mem_cons_self hshown

/-- The rule applies to that hit. -/
theorem hit_explainsItself_iff_shifted : ∃ report hit,
    searchLocalState shiftedDatabase true ['z'] none 20 = .ok report ∧ hit ∈ report.hits ∧
    ∃ row terms, shiftedDatabase.find? hit.recordId = some row ∧ validateQuery ['z'] = .ok terms ∧
      (ExplainsItself terms row hit ↔ ∀ field ∈ reported terms row,
        Covered (normalizeDisplayText field.2) (fieldTerms terms field.2)) := by
  obtain ⟨report, hit, hreport, hhit, -⟩ := exists_shiftedHit
  exact ⟨report, hit, hreport, hhit, hit_explainsItself_iff lawful_sharpS hreport hhit⟩

end Runs

end DollState.Search
