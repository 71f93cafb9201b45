import Mathlib.Data.List.DropRight
import Mathlib.Data.List.Basic

/-!
# Text as the record services read it

A text is the list of its code points. The services normalise the text they are given before they
store it (`joinWords`, `joinLines`), refuse text that holds a local absolute path, and parse
identifiers and timestamps out of it. A stored text is normalised a second time when its record is
read back, so both normalisations have to be idempotent (`joinWords_joinWords`,
`joinLines_joinLines`).

What the Unicode tables and the `datetime` module answer is taken from `PythonLibrary`; nothing is
assumed about it.
-/

namespace DollState

abbrev Text := List Char

instance : LawfulBEq Text := inferInstance

/-- A parsed timestamp: its instant and its offset from UTC, if it has one. -/
structure Datetime where
  instant : Int
  utcoffset : Option Int
deriving DecidableEq, Repr

/-- The parts of the Python library whose tables are not reproduced here. -/
class PythonLibrary where
  /-- `str.isalnum` of one character. -/
  isalnum : Char → Bool
  /-- `datetime.fromisoformat`, `none` for a `ValueError`. -/
  fromisoformat : Text → Option Datetime
  /-- `int(text, 16)` for a text that is not made of hexadecimal digits only. -/
  intBase16 : Text → Option Int

/-- The letter case of the library. -/
class CaseLibrary where
  /-- `str.lower`. -/
  lower : Text → Text

/-- `str.isspace` of one character, which is also what `\s` matches. -/
def isSpace (c : Char) : Bool :=
  (9 ≤ c.toNat && c.toNat ≤ 13) || (28 ≤ c.toNat && c.toNat ≤ 32) || c.toNat == 0x85 ||
    c.toNat == 0xa0 || c.toNat == 0x1680 || (0x2000 ≤ c.toNat && c.toNat ≤ 0x200a) ||
    c.toNat == 0x2028 || c.toNat == 0x2029 || c.toNat == 0x202f || c.toNat == 0x205f ||
    c.toNat == 0x3000

/-- The characters `str.splitlines` breaks a line at. -/
def isLineBreak (c : Char) : Bool :=
  (10 ≤ c.toNat && c.toNat ≤ 13) || (28 ≤ c.toNat && c.toNat ≤ 30) || c.toNat == 0x85 ||
    c.toNat == 0x2028 || c.toNat == 0x2029

theorem not_isSpace_of_lt {c : Char} (hlow : 33 ≤ c.toNat) (hhigh : c.toNat < 128) :
    isSpace c = false := by
  simp only [isSpace, Bool.or_eq_false_iff, Bool.and_eq_false_iff, decide_eq_false_iff_not,
    beq_eq_false_iff_ne]
  omega

/-- Every character that breaks a line is whitespace. -/
theorem isSpace_of_isLineBreak {c : Char} (h : isLineBreak c = true) : isSpace c = true := by
  simp only [isLineBreak, isSpace, Bool.or_eq_true, Bool.and_eq_true, decide_eq_true_eq,
    beq_iff_eq] at h ⊢
  omega

theorem not_isLineBreak_of_not_isSpace {c : Char} (h : isSpace c = false) :
    isLineBreak c = false := by
  by_contra hbreak
  rw [isSpace_of_isLineBreak (by simpa using hbreak)] at h
  exact absurd h (by decide)

/-! ## Words -/

/-- The word read so far, if there is one. -/
def flushWord (w : Text) : List Text := if w = [] then [] else [w]

/-- `str.split()`, `w` being the word read so far. -/
def splitWords : Text → Text → List Text
  | w, [] => flushWord w
  | w, c :: cs => if isSpace c then flushWord w ++ splitWords [] cs else splitWords (w ++ [c]) cs

/-- `" ".join(value.split())`. -/
def joinWords (value : Text) : Text := [' '].intercalate (splitWords [] value)

/-- A word is not empty and has no whitespace in it. -/
def IsWord (w : Text) : Prop := w ≠ [] ∧ ∀ c ∈ w, isSpace c = false

theorem isWord_of_mem_splitWords {w s : Text} (hw : ∀ c ∈ w, isSpace c = false) {v : Text}
    (hv : v ∈ splitWords w s) : IsWord v := by
  induction s generalizing w with
  | nil =>
    by_cases h : w = []
    · simp [splitWords, flushWord, h] at hv
    · rw [splitWords, flushWord, if_neg h, List.mem_singleton] at hv
      exact hv ▸ ⟨h, hw⟩
  | cons c cs ih =>
    rw [splitWords] at hv
    split at hv
    · rcases List.mem_append.1 hv with hv | hv
      · by_cases h : w = []
        · simp [flushWord, h] at hv
        · rw [flushWord, if_neg h, List.mem_singleton] at hv
          exact hv ▸ ⟨h, hw⟩
      · exact ih (by simp) hv
    · rename_i hc
      refine ih ?_ hv
      intro d hd
      rcases List.mem_append.1 hd with hd | hd
      · exact hw d hd
      · rw [List.mem_singleton.1 hd]
        simpa using hc

theorem splitWords_append {v : Text} (hv : ∀ c ∈ v, isSpace c = false) (w s : Text) :
    splitWords w (v ++ s) = splitWords (w ++ v) s := by
  induction v generalizing w with
  | nil => simp
  | cons c cs ih =>
    have hc : isSpace c = false := hv c List.mem_cons_self
    rw [List.cons_append, splitWords, hc, if_neg Bool.false_ne_true,
      ih (fun d hd => hv d (List.mem_cons_of_mem _ hd)), List.append_assoc, List.singleton_append]

/-- Splitting undoes joining, for a list of words. -/
theorem splitWords_intercalate {ws : List Text} (h : ∀ w ∈ ws, IsWord w) :
    splitWords [] ([' '].intercalate ws) = ws := by
  induction ws with
  | nil => simp [splitWords, flushWord, List.intercalate]
  | cons w ws ih =>
    obtain ⟨hne, hw⟩ := h w List.mem_cons_self
    have hflush : flushWord w = [w] := if_neg hne
    cases ws with
    | nil =>
      have := splitWords_append hw [] []
      rw [List.append_nil, List.nil_append] at this
      rw [List.intercalate_singleton, this, splitWords, hflush]
    | cons v ws =>
      have hspace : isSpace ' ' = true := by decide
      rw [List.intercalate_cons_cons, List.append_assoc, splitWords_append hw, List.nil_append,
        List.singleton_append, splitWords, if_pos hspace, hflush,
        ih fun w hw => h w (List.mem_cons_of_mem _ hw), List.singleton_append]

/-- A word is what joining its words gives. -/
theorem joinWords_eq_self {w : Text} (h : IsWord w) : joinWords w = w := by
  have hwords : splitWords [] ([' '].intercalate [w]) = [w] :=
    splitWords_intercalate fun v hv => List.mem_singleton.1 hv ▸ h
  rw [List.intercalate_singleton] at hwords
  rw [joinWords, hwords, List.intercalate_singleton]

theorem joinWords_joinWords (value : Text) : joinWords (joinWords value) = joinWords value := by
  have hwords : ∀ w ∈ splitWords [] value, IsWord w := fun w hw =>
    isWord_of_mem_splitWords (by simp) hw
  rw [joinWords, joinWords, splitWords_intercalate hwords]

/-! ## Lines -/

/-- `str.splitlines()`, `l` being the line read so far. A carriage return and the line feed after
it are one line end, and nothing follows a last line end. -/
def splitLines : Text → Text → List Text
  | l, [] => if l = [] then [] else [l]
  | l, '\r' :: '\n' :: cs => l :: splitLines [] cs
  | l, c :: cs => if isLineBreak c then l :: splitLines [] cs else splitLines (l ++ [c]) cs

example : splitLines [] ['a', '\r', '\n', 'b'] = [['a'], ['b']] := by simp [splitLines, isLineBreak]

/-- `str.rstrip()`. -/
def rstrip (s : Text) : Text := s.rdropWhile isSpace

/-- `str.strip()`. -/
def strip (s : Text) : Text := rstrip (s.dropWhile isSpace)

/-- `"\n".join(line.rstrip() for line in value.strip().splitlines())`. -/
def joinLines (value : Text) : Text :=
  ['\n'].intercalate ((splitLines [] (strip value)).map rstrip)

/-- Text with no whitespace at either end. -/
def Stripped (s : Text) : Prop :=
  (∀ c ∈ s.head?, isSpace c = false) ∧ ∀ c ∈ s.getLast?, isSpace c = false

theorem rstrip_eq_self {s : Text} (h : ∀ c ∈ s.getLast?, isSpace c = false) : rstrip s = s := by
  rw [rstrip, List.rdropWhile_eq_self_iff]
  intro hs
  simpa using h _ (List.getLast?_eq_getLast_of_ne_nil hs)

theorem strip_eq_self {s : Text} (h : Stripped s) : strip s = s := by
  obtain ⟨hhead, hlast⟩ := h
  have hdrop : s.dropWhile isSpace = s := by
    cases s with
    | nil => rfl
    | cons c cs => simp [hhead c rfl]
  rw [strip, hdrop, rstrip_eq_self hlast]

theorem stripped_of_all {s : Text} (h : ∀ c ∈ s, isSpace c = false) : Stripped s :=
  ⟨fun c hc => h c (List.mem_of_mem_head? hc), fun c hc => h c (List.mem_of_getLast? hc)⟩

theorem getLast?_rstrip (s : Text) : ∀ c ∈ (rstrip s).getLast?, isSpace c = false := by
  intro c hc
  by_cases hs : rstrip s = []
  · simp [hs] at hc
  · rw [List.getLast?_eq_getLast_of_ne_nil hs] at hc
    have := List.rdropWhile_last_not isSpace s hs
    rw [← Option.mem_some_iff.1 hc]
    exact Bool.eq_false_iff.2 this

theorem rstrip_rstrip (s : Text) : rstrip (rstrip s) = rstrip s :=
  rstrip_eq_self (getLast?_rstrip s)

theorem mem_of_mem_rstrip {s : Text} {c : Char} (h : c ∈ rstrip s) : c ∈ s :=
  (List.rdropWhile_prefix isSpace s).subset h

/-- Stripping the right end keeps a first character that is not whitespace. -/
theorem rstrip_cons {c : Char} (hc : isSpace c = false) (s : Text) :
    rstrip (c :: s) = c :: rstrip s := by
  induction s using List.reverseRecOn with
  | nil => simp [rstrip, List.rdropWhile, hc]
  | append_singleton s d ih =>
    by_cases hd : isSpace d = true
    · rw [rstrip, ← List.cons_append, List.rdropWhile_concat_pos _ _ _ hd, ← rstrip, ih, rstrip,
        rstrip, List.rdropWhile_concat_pos _ _ _ hd]
    · rw [rstrip, ← List.cons_append, List.rdropWhile_concat_neg _ _ _ hd, rstrip,
        List.rdropWhile_concat_neg _ _ _ hd, List.cons_append]

theorem stripped_strip (s : Text) : Stripped (strip s) := by
  refine ⟨?_, getLast?_rstrip _⟩
  intro c hc
  cases hs : s.dropWhile isSpace with
  | nil => simp [strip, hs, rstrip, List.rdropWhile] at hc
  | cons d ds =>
    have hd : isSpace d = false := by
      have := List.dropWhile_get_zero_not isSpace s (by rw [hs]; simp)
      simpa [hs] using this
    rw [strip, hs, rstrip_cons hd, List.head?_cons, Option.mem_some_iff] at hc
    exact hc ▸ hd

theorem strip_sublist (s : Text) : (strip s).Sublist s :=
  (List.rdropWhile_prefix isSpace _).sublist.trans (List.dropWhile_suffix isSpace).sublist

/-! ### Splitting undoes joining -/

theorem not_isLineBreak_of_mem_splitLines {l s : Text} (hl : ∀ c ∈ l, isLineBreak c = false)
    {line : Text} (h : line ∈ splitLines l s) : ∀ c ∈ line, isLineBreak c = false := by
  induction l, s using splitLines.induct with
  | case1 => simp [splitLines] at h
  | case2 l hne =>
    rw [splitLines, if_neg hne, List.mem_singleton] at h
    exact h ▸ hl
  | case3 l cs ih =>
    rw [splitLines] at h
    rcases List.mem_cons.1 h with rfl | h
    · exact hl
    · exact ih (by simp) h
  | case4 l c cs hpair hbreak ih =>
    rw [splitLines, if_pos hbreak] at h
    · rcases List.mem_cons.1 h with rfl | h
      · exact hl
      · exact ih (by simp) h
    · exact hpair
  | case5 l c cs hpair hbreak ih =>
    rw [splitLines, if_neg hbreak] at h
    · refine ih ?_ h
      intro d hd
      rcases List.mem_append.1 hd with hd | hd
      · exact hl d hd
      · rw [List.mem_singleton.1 hd]
        exact Bool.eq_false_iff.2 hbreak
    · exact hpair

/-- The line being read is a prefix of the first line. -/
theorem splitLines_prefix {l : Text} (hl : l ≠ []) (s : Text) :
    ∃ t rest, splitLines l s = (l ++ t) :: rest := by
  induction l, s using splitLines.induct with
  | case1 => exact absurd rfl hl
  | case2 l hne => exact ⟨[], [], by rw [splitLines, if_neg hne, List.append_nil]⟩
  | case3 l cs ih => exact ⟨[], _, by rw [splitLines, List.append_nil]⟩
  | case4 l c cs hpair hbreak ih =>
    refine ⟨[], splitLines [] cs, ?_⟩
    rw [splitLines, if_pos hbreak, List.append_nil]
    exact hpair
  | case5 l c cs hpair hbreak ih =>
    obtain ⟨t, rest, h⟩ := ih (by simp)
    refine ⟨c :: t, rest, ?_⟩
    rw [splitLines, if_neg hbreak, h, List.append_assoc, List.singleton_append]
    exact hpair

/-- A last character that breaks no line ends the last line. -/
theorem splitLines_suffix (l s : Text) {c : Char} (hc : isLineBreak c = false) :
    ∃ rest t, splitLines l (s ++ [c]) = rest ++ [t ++ [c]] := by
  induction l, s using splitLines.induct with
  | case1 => exact ⟨[], [], by simp [splitLines, hc]⟩
  | case2 l hne => exact ⟨[], l, by simp [splitLines, hc]⟩
  | case3 l cs ih =>
    obtain ⟨rest, t, h⟩ := ih
    exact ⟨l :: rest, t, by rw [List.cons_append, List.cons_append, splitLines, h,
      List.cons_append]⟩
  | case4 l d cs hpair hbreak ih =>
    obtain ⟨rest, t, h⟩ := ih
    refine ⟨l :: rest, t, ?_⟩
    rw [List.cons_append, splitLines, if_pos hbreak, h, List.cons_append]
    rintro cs' rfl hcs
    cases cs with
    | nil =>
      simp only [List.nil_append, List.cons.injEq] at hcs
      exact absurd (hcs.1 ▸ hc) (by decide)
    | cons e es =>
      simp only [List.cons_append, List.cons.injEq] at hcs
      exact hpair es rfl (by rw [hcs.1])
  | case5 l d cs hpair hbreak ih =>
    obtain ⟨rest, t, h⟩ := ih
    refine ⟨rest, t, ?_⟩
    rw [List.cons_append, splitLines, if_neg hbreak, h]
    rintro cs' rfl hcs
    exact hbreak (by decide)

theorem splitLines_append {v : Text} (hv : ∀ c ∈ v, isLineBreak c = false) (l s : Text) :
    splitLines l (v ++ s) = splitLines (l ++ v) s := by
  induction v generalizing l with
  | nil => simp
  | cons c cs ih =>
    have hc : isLineBreak c = false := hv c List.mem_cons_self
    rw [List.cons_append, splitLines, hc, if_neg Bool.false_ne_true,
      ih (fun d hd => hv d (List.mem_cons_of_mem _ hd)), List.append_assoc, List.singleton_append]
    rintro cs' rfl
    exact absurd hc (by decide)

theorem splitLines_intercalate {ls : List Text}
    (hbreak : ∀ l ∈ ls, ∀ c ∈ l, isLineBreak c = false) (hlast : ∀ l ∈ ls.getLast?, l ≠ []) :
    splitLines [] (['\n'].intercalate ls) = ls := by
  induction ls with
  | nil => simp [splitLines, List.intercalate]
  | cons l ls ih =>
    have hl := hbreak l List.mem_cons_self
    cases ls with
    | nil =>
      have := splitLines_append hl [] []
      rw [List.append_nil, List.nil_append] at this
      rw [List.intercalate_singleton, this, splitLines, if_neg (hlast l rfl)]
    | cons m ls =>
      have hnl : isLineBreak '\n' = true := by decide
      rw [List.intercalate_cons_cons, List.append_assoc, splitLines_append hl, List.nil_append,
        List.singleton_append, splitLines, if_pos hnl,
        ih (fun l hl => hbreak l (List.mem_cons_of_mem _ hl)) fun l hl => hlast l hl]
      rintro cs' h
      exact absurd h (by decide)

/-- A line feed after a character that breaks no line ends a line. -/
theorem splitLines_lineFeed (l s rest : Text) {c : Char} (hc : isLineBreak c = false) :
    splitLines l (s ++ c :: '\n' :: rest) = splitLines l (s ++ [c]) ++ splitLines [] rest := by
  have hnl : isLineBreak '\n' = true := by decide
  have hcr : c ≠ '\r' := by
    rintro rfl
    exact absurd hc (by decide)
  have hend : ∀ l : Text, splitLines l (c :: '\n' :: rest) =
      splitLines l [c] ++ splitLines [] rest := by
    intro l
    simp [splitLines, hc, hnl, hcr]
  induction l, s using splitLines.induct with
  | case1 => exact hend []
  | case2 l hne => exact hend l
  | case3 l cs ih =>
    rw [List.cons_append, List.cons_append, splitLines, ih, List.cons_append, List.cons_append,
      splitLines, List.cons_append]
  | case4 l d cs hpair hbreak ih =>
    rw [List.cons_append, splitLines, if_pos hbreak, ih, List.cons_append, splitLines,
      if_pos hbreak, List.cons_append]
    all_goals
      rintro cs' rfl hcs
      cases cs with
      | nil =>
        simp only [List.nil_append, List.cons.injEq] at hcs
        exact absurd (hcs.1 ▸ hc) (by decide)
      | cons e es =>
        simp only [List.cons_append, List.cons.injEq] at hcs
        exact hpair es rfl (by rw [hcs.1])
  | case5 l d cs hpair hbreak ih =>
    rw [List.cons_append, splitLines, if_neg hbreak, ih, List.cons_append, splitLines,
      if_neg hbreak]
    all_goals
      rintro cs' rfl hcs
      exact hbreak (by decide)

theorem intercalate_cons_prefix (sep l : Text) (ls : List Text) :
    ∃ post, sep.intercalate (l :: ls) = l ++ post := by
  cases ls with
  | nil => exact ⟨[], by rw [List.intercalate_singleton, List.append_nil]⟩
  | cons m ls => exact ⟨_, by rw [List.intercalate_cons_cons, List.append_assoc]⟩

theorem intercalate_append_suffix (sep l : Text) (ls : List Text) :
    ∃ pre, sep.intercalate (ls ++ [l]) = pre ++ l := by
  induction ls with
  | nil => exact ⟨[], by rw [List.nil_append, List.intercalate_singleton, List.nil_append]⟩
  | cons m ls ih =>
    obtain ⟨pre, h⟩ := ih
    cases ls with
    | nil => exact ⟨m ++ sep, by
        rw [List.singleton_append, List.intercalate_cons_cons, List.intercalate_singleton]⟩
    | cons k ls => exact ⟨m ++ sep ++ pre, by
        rw [List.cons_append, List.cons_append, List.intercalate_cons_cons,
          ← List.cons_append, h, List.append_assoc, List.append_assoc, List.append_assoc]⟩

/-! ### Normalised lines -/

/-- The first line starts with the first character of the text, if that is not whitespace. -/
theorem lines_cons {d : Char} (hd : isSpace d = false) (ds : Text) :
    ∃ t rest, (splitLines [] (d :: ds)).map rstrip = (d :: t) :: rest := by
  obtain ⟨t, rest, h⟩ := splitLines_prefix (l := [] ++ [d]) (by simp) ds
  refine ⟨rstrip t, rest.map rstrip, ?_⟩
  have hbreak := not_isLineBreak_of_not_isSpace hd
  rw [splitLines, hbreak, if_neg Bool.false_ne_true, h, List.map_cons, List.nil_append,
    List.singleton_append, rstrip_cons hd]
  rintro cs' rfl
  exact absurd hbreak (by decide)

/-- The last line ends with the last character of the text, if that is not whitespace. -/
theorem lines_concat {c : Char} (hc : isSpace c = false) (s : Text) :
    ∃ rest t, (splitLines [] (s ++ [c])).map rstrip = rest ++ [t ++ [c]] := by
  obtain ⟨rest, t, h⟩ := splitLines_suffix [] s (not_isLineBreak_of_not_isSpace hc)
  refine ⟨rest.map rstrip, t, ?_⟩
  rw [h, List.map_append, List.map_singleton, rstrip_eq_self (s := t ++ [c])]
  intro e he
  rw [List.getLast?_append, List.getLast?_singleton, Option.some_or, Option.mem_some_iff] at he
  exact he ▸ hc

theorem not_isLineBreak_of_mem_lines {s line : Text} (h : line ∈ (splitLines [] s).map rstrip) :
    ∀ c ∈ line, isLineBreak c = false := by
  intro c hc
  obtain ⟨l, hl, rfl⟩ := List.mem_map.1 h
  exact not_isLineBreak_of_mem_splitLines (by simp) hl c (mem_of_mem_rstrip hc)

theorem joinLines_joinLines (value : Text) : joinLines (joinLines value) = joinLines value := by
  obtain ⟨hhead, hlast⟩ := stripped_strip value
  have hjoin : joinLines value =
      ['\n'].intercalate ((splitLines [] (strip value)).map rstrip) := rfl
  rcases List.eq_nil_or_concat' (strip value) with hnil | ⟨s, c, hsc⟩
  · rw [hjoin, hnil]
    decide
  obtain ⟨d, ds, hds⟩ := List.exists_cons_of_ne_nil (l := strip value) (by rw [hsc]; simp)
  have hd : isSpace d = false := hhead d (by rw [hds]; rfl)
  have hc : isSpace c = false := hlast c (by rw [hsc]; simp)
  have hbreaks : ∀ line ∈ (splitLines [] (strip value)).map rstrip, ∀ c ∈ line,
      isLineBreak c = false := fun _ => not_isLineBreak_of_mem_lines
  have hrstrip : ((splitLines [] (strip value)).map rstrip).map rstrip =
      (splitLines [] (strip value)).map rstrip := by
    rw [List.map_map]
    exact List.map_congr_left fun l _ => rstrip_rstrip l
  obtain ⟨t, after, hfirst⟩ := hds ▸ lines_cons hd ds
  obtain ⟨before, u, hend⟩ := hsc ▸ lines_concat hc s
  generalize (splitLines [] (strip value)).map rstrip = ls at hjoin hbreaks hrstrip hfirst hend
  have hstripped : Stripped (joinLines value) := by
    rw [hjoin]
    constructor
    · obtain ⟨post, h⟩ := intercalate_cons_prefix ['\n'] (d :: t) after
      rw [hfirst, h]
      simpa using hd
    · obtain ⟨pre, h⟩ := intercalate_append_suffix ['\n'] (u ++ [c]) before
      rw [hend, h, ← List.append_assoc]
      simpa using hc
  have hne : ∀ l ∈ ls.getLast?, l ≠ [] := by
    rw [hend]
    simp
  rw [joinLines, strip_eq_self hstripped, hjoin, splitLines_intercalate hbreaks hne, hrstrip]

/-! ## Local paths and control characters -/

section Paths

variable [PythonLibrary]

/-- What `\w` matches. -/
def isWordChar (c : Char) : Bool := PythonLibrary.isalnum c || c == '_'

/-- `(?<![:/\w])/(?:[^/\s]+/)*[^/\s]+` matches somewhere; `prev` is the character before. A match
is a slash with neither a colon, a slash nor a word character before it and a path character right
after it. -/
def posixPathSearch : Option Char → Text → Bool
  | _, [] => false
  | prev, c :: cs =>
    (c == '/' && prev.all (fun p => !(p == ':' || p == '/' || isWordChar p)) &&
        cs.head?.any fun n => !(n == '/' || isSpace n)) ||
      posixPathSearch (some c) cs

/-- What `[A-Z]` matches without regard to case: besides the ASCII letters, the four letters that
fold to one. -/
def isDriveLetter (c : Char) : Bool :=
  c.isUpper || c.isLower || c.toNat == 0x130 || c.toNat == 0x131 || c.toNat == 0x17f ||
    c.toNat == 0x212a

/-- `(?i)\b[A-Z]:[\\/]` matches somewhere; `prev` is the character before. -/
def windowsPathSearch : Option Char → Text → Bool
  | _, [] => false
  | prev, c :: cs =>
    (isDriveLetter c && prev.all (fun p => !isWordChar p) &&
        match cs with
        | ':' :: d :: _ => d == '\\' || d == '/'
        | _ => false) ||
      windowsPathSearch (some c) cs

end Paths

/-- `needle in text`. -/
def contains (needle : Text) : Text → Bool
  | [] => needle.isPrefixOf []
  | c :: cs => needle.isPrefixOf (c :: cs) || contains needle cs

/-- `any(ord(character) < 32 and character not in {"\n", "\t"} for character in text)`. -/
def hasControlCharacter (text : Text) : Bool :=
  text.any fun c => c.toNat < 32 && !(c == '\n' || c == '\t')

/-- `[A-Za-z0-9][A-Za-z0-9._:-]*` matches the whole text. -/
def isToken : Text → Bool
  | [] => false
  | c :: cs => c.isAlphanum &&
      cs.all fun d => d.isAlphanum || d == '.' || d == '_' || d == ':' || d == '-'

/-- An ASCII character that is no control and no space. -/
theorem isAlphanum_range {c : Char} (h : c.isAlphanum = true) : 33 ≤ c.toNat ∧ c.toNat < 128 := by
  delta Char.isAlphanum Char.isAlpha Char.isUpper Char.isLower Char.isDigit at h
  simp only [Bool.or_eq_true, Bool.and_eq_true, decide_eq_true_eq, UInt32.le_iff_toNat_le] at h
  have hval : c.toNat = c.val.toNat := rfl
  simp only [show 'A'.val.toNat = 65 from rfl, show 'Z'.val.toNat = 90 from rfl,
    show 'a'.val.toNat = 97 from rfl, show 'z'.val.toNat = 122 from rfl,
    show '0'.val.toNat = 48 from rfl, show '9'.val.toNat = 57 from rfl] at h
  omega

theorem toNat_of_isToken {s : Text} (h : isToken s = true) :
    ∀ c ∈ s, 33 ≤ c.toNat ∧ c.toNat < 128 := by
  cases s with
  | nil => cases h
  | cons c s =>
    simp only [isToken, Bool.and_eq_true, List.all_eq_true, Bool.or_eq_true, beq_iff_eq] at h
    refine List.forall_mem_cons.2 ⟨isAlphanum_range h.1, fun d hd => ?_⟩
    obtain (((hd | rfl) | rfl) | rfl) | rfl := h.2 d hd
    · exact isAlphanum_range hd
    all_goals decide

theorem strip_of_isToken {s : Text} (h : isToken s = true) : strip s = s :=
  strip_eq_self <| stripped_of_all fun c hc =>
    not_isSpace_of_lt (toNat_of_isToken h c hc).1 (toNat_of_isToken h c hc).2

end DollState
