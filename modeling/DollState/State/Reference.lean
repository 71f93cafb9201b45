import DollState.State.CanonicalJson
import DollState.State.Repository

/-!
# A library to run the model with

Concrete instances for the parameters of the model, for running it on fixed inputs: text is ASCII,
timestamps are written to the second, and the modules outside the model accept what they are given.
-/

namespace DollState

open StateLib

/-- The value of a text of decimal digits. -/
def decimal? (digits : Text) : Option Nat :=
  digits.foldl (fun acc c => acc.bind fun n =>
    if c.isDigit then some (10 * n + (c.toNat - 48)) else none) (some 0)

/-- Seconds since the year 0 of a date, months counting 31 days each; the order of timestamps is
the order of these. -/
def dateInstant (year month day hour minute second : Nat) : Int :=
  ((((year * 12 + month) * 31 + day) * 24 + hour) * 60 + minute) * 60 + second

/-- `datetime.fromisoformat` on `YYYY-MM-DDTHH:MM:SS+00:00`. -/
def parseTimestamp (text : Text) : Option Datetime := do
  let year ← decimal? (text.take 4)
  let month ← decimal? ((text.drop 5).take 2)
  let day ← decimal? ((text.drop 8).take 2)
  let hour ← decimal? ((text.drop 11).take 2)
  let minute ← decimal? ((text.drop 14).take 2)
  let second ← decimal? ((text.drop 17).take 2)
  if text.drop 19 = "+00:00".toList then
    return ⟨dateInstant year month day hour minute second, some 0⟩
  else none

/-- A number below 100 in two digits. -/
def twoDigits (n : Nat) : Text := [Nat.digitChar (n / 10), Nat.digitChar (n % 10)]

/-- A count of seconds as it is counted in `dateInstant`, written as a timestamp of UTC. -/
def writeTimestamp (instant : Int) : Text :=
  let second := instant.toNat
  let days := second / 86400 - 1
  let months := days / 31 - 1
  let year := months / 12
  twoDigits (year / 100) ++ twoDigits (year % 100) ++ ['-'] ++ twoDigits (months % 12 + 1) ++ ['-'] ++
    twoDigits (days % 31 + 1) ++ ['T'] ++ twoDigits (second / 3600 % 24) ++ [':'] ++
    twoDigits (second / 60 % 60) ++ [':'] ++ twoDigits (second % 60) ++ ['Z']

@[reducible] def asciiLibrary : PythonLibrary where
  isalnum := Char.isAlphanum
  fromisoformat := parseTimestamp
  intBase16 _ := none

@[reducible] def asciiCase : CaseLibrary where
  lower := List.map Char.toLower

/-- A float is written as the fraction it is, its denominator first. -/
@[reducible] def fractionFloats : FloatLibrary where
  floatRepr q := (toString (q.den : Int)).toList ++ '.' :: (toString q.num).toList

theorem lawful_fractionFloats : @LawfulFloats fractionFloats := by
  have hsplit : ∀ (i j : Int) (s t : Text),
      (toString i).toList ++ '.' :: s = (toString j).toList ++ '.' :: t → i = j ∧ s = t := by
    intro i j s t h
    have htake : ∀ (k : Int) (u : Text),
        ((toString k).toList ++ '.' :: u).takeWhile (· != '.') = (toString k).toList := by
      intro k u
      have hpoint : ∀ c ∈ (toString k).toList, (c != '.') = true := by
        intro c hc
        rw [bne_iff_ne]
        rintro rfl
        rcases JsonText.toString_int_chars hc with h | h <;> exact absurd h (by decide)
      rw [List.takeWhile_append_of_pos hpoint]
      simp
    have hij : (toString i).toList = (toString j).toList := by rw [← htake i s, h, htake j t]
    rw [hij] at h
    exact ⟨Int.repr_injective (String.toList_injective hij),
      (List.cons.inj (List.append_cancel_left h)).2⟩
  refine @LawfulFloats.mk fractionFloats (fun q => ⟨?_, '.', List.mem_append_right _ List.mem_cons_self, rfl, by decide⟩) ?_ ?_
  · refine List.forall_mem_append.2 ⟨fun c => JsonText.isNumberChar_of_mem_toString, ?_⟩
    exact List.forall_mem_cons.2 ⟨rfl, fun c => JsonText.isNumberChar_of_mem_toString⟩
  · intro p q h
    obtain ⟨hden, hnum⟩ := hsplit _ _ _ _ h
    exact Rat.ext (Int.repr_injective (String.toList_injective hnum)) (Int.ofNat.inj hden)
  · intro q h
    have hdigit : ∀ c ∈ (toString (q.den : Int)).toList, c.isDigit = true := by
      intro c hc
      have hrepr : toString (q.den : Int) = Nat.repr q.den := rfl
      rw [hrepr, Nat.repr, String.toList_ofList] at hc
      exact Nat.isDigit_of_mem_toDigits (by decide) (by decide) hc
    have hzero : "-0.0".toList = ['-', '0', '.', '0'] := rfl
    change (toString (q.den : Int)).toList ++ '.' :: (toString q.num).toList = "-0.0".toList at h
    rw [hzero] at h
    -- a denominator has no sign
    cases hden : (toString (q.den : Int)).toList with
    | nil => exact JsonText.toString_int_ne_nil _ hden
    | cons c cs =>
      rw [hden, List.cons_append] at h
      obtain rfl : c = '-' := (List.cons.inj h).1
      exact absurd (hdigit '-' (by rw [hden]; exact List.mem_cons_self)) (by decide)

@[reducible] def acceptingRules : ModuleRules where
  secretReferenceError _ := none
  auditToken _ value _ := .ok value
  auditMetadataError _ := none
  sanitizeAudit args := .ok args
  sha256 _ := 0
  isMemory _ := true
  isEvidence _ := true
  isPolicy _ := true
  isArtifact _ := true

/-- The surroundings of a call that draws the identifiers `3 * n + 1`, `3 * n + 2` and
`3 * n + 3`. -/
def surroundings (n : Nat) : Surroundings where
  readOnly := false
  calledAt := "2026-01-01T00:00:00Z".toList
  now := "2026-01-01T00:00:00Z".toList
  auditNow := "2026-01-01T00:00:00Z".toList
  newId := BitVec.ofNat 128 (3 * n + 1)
  eventId := BitVec.ofNat 128 (3 * n + 2)
  operationUuid := BitVec.ofNat 128 (3 * n + 3)

end DollState
