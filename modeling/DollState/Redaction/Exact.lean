import DollState.Redaction.Detection

/-!
# What redaction leaves of a text

`scanDetectors_eq` says what is found before the limit on raw findings cuts the scan short, and
`exists_groups_normalizeFindings` how the raw findings are merged. `redactText_exact` puts them
together: as long as no limit is reached, each group of overlapping findings leaves one marker and
every other character stays; otherwise nothing of the text is left.
-/

namespace DollState.Redaction

open StateLib JsonText

/-! ## The merged findings -/

theorem foldl_normalizeStep (findings : List SecretFinding) :
    ∀ (normalized : List SecretFinding) (previous : SecretFinding),
      findings.foldl normalizeStep (normalized ++ [previous]) =
        normalized ++ mergeFrom SecretFinding.start SecretFinding.stop mergedFinding previous
          findings := by
  induction findings with
  | nil => intro normalized previous; rfl
  | cons finding findings ih =>
    intro normalized previous
    simp only [List.foldl_cons, normalizeStep, List.getLast?_concat, List.dropLast_concat, mergeFrom]
    split
    · rw [ih, List.append_assoc, List.singleton_append]
    · rw [ih]

theorem spans_mergedFinding :
    Spans SecretFinding.start SecretFinding.stop mergedFinding where
  start_join _ _ := rfl
  stop_join _ _ := rfl

/-- The kind of a merged finding is the kind of one of the two. -/
theorem mergedFinding_kind (a b : SecretFinding) :
    (mergedFinding a b).kind = a.kind ∨ (mergedFinding a b).kind = b.kind := by
  simp only [mergedFinding, preferredFinding]
  split
  · exact .inl rfl
  · exact .inr rfl

theorem exists_kind_of_isJoin {group : List SecretFinding} {finding : SecretFinding}
    (h : IsJoin mergedFinding group finding) : ∃ a ∈ group, a.kind = finding.kind := by
  refine h.rec_on_join (P := fun x => ∃ a ∈ group, a.kind = x.kind) (fun a b ha hb => ?_)
    fun a ha => ⟨a, ha, rfl⟩
  rcases mergedFinding_kind a b with hkind | hkind
  · rwa [hkind]
  · rwa [hkind]

/-- The finding stands for the group: it spans what the group covers and is of a kind found there. -/
structure StandsFor (group : List SecretFinding) (finding : SecretFinding) : Prop where
  hull : IsHull SecretFinding.start SecretFinding.stop group finding
  exists_kind : ∃ a ∈ group, a.kind = finding.kind

theorem start_le_of_sortKey_le {a b : SecretFinding} (h : sortKey a ≤ sortKey b) :
    a.start ≤ b.start := by
  rcases Prod.Lex.le_iff.1 h with hlt | heq
  · exact le_of_lt hlt
  · exact le_of_eq heq.1

theorem exists_groups_normalizeFindings (findings : List SecretFinding) :
    ∃ groups, MaximalGroups SecretFinding.start SecretFinding.stop groups findings ∧
      List.Forall₂ StandsFor groups (normalizeFindings findings) := by
  have hperm : (Status.sortedBy sortKey findings).Perm findings := List.perm_insertionSort _ _
  have hsorted : (Status.sortedBy sortKey findings).Pairwise fun a b => a.start ≤ b.start :=
    (List.pairwise_insertionSort _ _).imp start_le_of_sortKey_le
  unfold normalizeFindings
  cases hlist : Status.sortedBy sortKey findings with
  | nil =>
    rw [hlist] at hperm
    exact ⟨[], ⟨by simpa using hperm, by simp, by simp, .nil⟩, .nil⟩
  | cons first rest =>
    rw [hlist] at hperm hsorted
    obtain ⟨groups, hflat, hmerged, hlinked, hapart⟩ :=
      exists_groups_mergeFrom spans_mergedFinding rest [first] first (.single first)
        (isHull_singleton first) (linked_singleton first) (fun a _ => a.start_lt_stop) hsorted
    refine ⟨groups, ⟨hflat ▸ hperm, fun group hgroup => ?_, hlinked, hapart⟩, ?_⟩
    · obtain ⟨finding, _, hjoin, _⟩ := exists_of_mem_forall₂ hmerged hgroup
      exact hjoin.ne_nil
    · rw [List.foldl_cons]
      refine (foldl_normalizeStep rest [] first).symm ▸ hmerged.imp fun group finding h => ?_
      exact ⟨h.2, exists_kind_of_isJoin h.1⟩

/-! ## The raw findings -/

/-- A scan stops as soon as the limit is reached. -/
theorem scanMatches_eq {rawLimit : ℕ} (detector : Detector) {text : Str} (spans : List (Span text)) :
    ∀ {raw : List SecretFinding}, raw.length < rawLimit →
      let all := raw ++ spans.filterMap (findingOf detector)
      scanMatches rawLimit detector raw spans =
        if all.length < rawLimit then (all, false) else (all.take rawLimit, true) := by
  induction spans with
  | nil =>
    intro raw h
    simp [scanMatches, h]
  | cons span spans ih =>
    intro raw h
    simp only [scanMatches]
    cases hfinding : findingOf detector span with
    | none =>
      simp only [List.filterMap_cons_none hfinding]
      exact ih h
    | some finding =>
      simp only [List.filterMap_cons_some hfinding]
      split
      · rename_i hlimit
        have hlength : (raw ++ [finding]).length = rawLimit := by
          rw [List.length_append, List.length_singleton] at hlimit ⊢
          omega
        have hsplit : raw ++ finding :: spans.filterMap (findingOf detector) =
            (raw ++ [finding]) ++ spans.filterMap (findingOf detector) := by simp
        rw [hsplit, if_neg, ← hlength, List.take_left]
        rw [List.length_append, hlength]
        omega
      · rename_i hlimit
        rw [ih (not_le.1 hlimit), List.append_assoc, List.singleton_append]

/-! ## The redacted text -/

/-- One marker is left of each group of findings, and every character outside them. -/
structure ExactlyRedacted (text : Str) (raw : List SecretFinding) (result : RedactionResult) :
    Prop where
  ordered : result.findings.Pairwise fun a b => a.stop ≤ b.start
  covers : ∀ i, (∃ a ∈ result.findings, a.start ≤ i ∧ i < a.stop) ↔
    ∃ a ∈ raw, a.start ≤ i ∧ i < a.stop
  exists_pieces : ∃ piece : CodePoint → ℕ → Str,
    result.redactedText = text.zipIdx.flatMap (fun p => piece p.1 p.2) ∧
    (∀ c i, (¬ ∃ a ∈ raw, a.start ≤ i ∧ i < a.stop) → piece c i = [c]) ∧
    ∀ a ∈ result.findings, ∀ c i, a.start ≤ i → i < a.stop →
      piece c i = if i = a.start then marker a else []

/-- Both limits are in the range that the configuration allows. -/
structure ValidLimits (maxScanChars maxFindings : Int) : Prop where
  scanChars : 1 ≤ maxScanChars ∧ maxScanChars ≤ maxConfiguredScanChars
  findings : 1 ≤ maxFindings ∧ maxFindings ≤ maxConfiguredFindings

theorem validateLimits_eq_ok {maxScanChars maxFindings : Int}
    (h : ValidLimits maxScanChars maxFindings) : validateLimits maxScanChars maxFindings = .ok () := by
  rw [validateLimits, check_bind_eq_ok]
  exact ⟨ensure_eq_ok.2 h.scanChars, ensure_eq_ok.2 h.findings⟩

section

variable [RegexLibrary]

/-- What all detectors find. -/
def rawFindings (text : Str) : List SecretFinding :=
  detectors.flatMap fun detector => (RegexLibrary.finditer detector text).filterMap (findingOf detector)

theorem scanDetectors_eq {rawLimit : ℕ} (text : Str) (rest : List Detector) :
    ∀ {raw : List SecretFinding}, raw.length < rawLimit →
      let all := raw ++ rest.flatMap fun detector =>
        (RegexLibrary.finditer detector text).filterMap (findingOf detector)
      scanDetectors rawLimit text raw rest =
        if all.length < rawLimit then (all, false) else (all.take rawLimit, true) := by
  induction rest with
  | nil =>
    intro raw h
    simp [scanDetectors, h]
  | cons detector rest ih =>
    intro raw h
    simp only [scanDetectors, scanMatches_eq detector _ h, List.flatMap_cons]
    by_cases hlimit : (raw ++ (RegexLibrary.finditer detector text).filterMap
        (findingOf detector)).length < rawLimit
    · rw [if_pos hlimit]
      simp only [Bool.false_eq_true, if_false]
      rw [ih hlimit, List.append_assoc]
    · have hlong : ¬ (raw ++ ((RegexLibrary.finditer detector text).filterMap (findingOf detector) ++
          rest.flatMap fun detector =>
            (RegexLibrary.finditer detector text).filterMap (findingOf detector))).length <
          rawLimit := by
        simp only [List.length_append] at hlimit ⊢
        omega
      rw [if_neg hlimit, if_neg hlong, ← List.append_assoc,
        List.take_append_of_le_length (not_lt.1 hlimit)]
      rfl

theorem stop_le_length {text : Str} {finding : SecretFinding} (h : finding ∈ rawFindings text) :
    finding.stop ≤ text.length := by
  obtain ⟨detector, _, hmem⟩ := List.mem_flatMap.1 h
  obtain ⟨span, _, hspan⟩ := List.mem_filterMap.1 hmem
  simp only [findingOf] at hspan
  split at hspan
  · cases hspan
  · rw [← Option.some.inj hspan]
    exact span.stop_le_length

/-- The scan keeps the first of what there is to find, up to the limit. -/
theorem scanDetectors_detectors {rawLimit : ℕ} (hpos : 0 < rawLimit) (text : Str) :
    scanDetectors rawLimit text [] detectors =
      ((rawFindings text).take rawLimit, decide (rawLimit ≤ (rawFindings text).length)) := by
  have hempty : ([] : List SecretFinding).length < rawLimit := hpos
  have hscan := scanDetectors_eq text detectors hempty
  simp only [List.nil_append] at hscan
  rw [hscan, rawFindings]
  split
  · rename_i hlimit
    rw [List.take_of_length_le hlimit.le, decide_eq_false (not_le.2 hlimit)]
  · rename_i hlimit
    rw [decide_eq_true (not_lt.1 hlimit)]

/-- The result of a scan within valid limits. -/
def scanResult (text : Str) (maxScanChars maxFindings : Int) : SecretScanResult :=
  let raw := rawFindings (text.take maxScanChars.toNat)
  let findings := normalizeFindings (raw.take (maxFindings.toNat * 4))
  { findings := findings.take maxFindings.toNat
    inputCharacters := text.length
    scannedCharacters := (text.take maxScanChars.toNat).length
    inputTruncated := text.length > (text.take maxScanChars.toNat).length
    findingLimitReached :=
      decide (maxFindings.toNat * 4 ≤ raw.length) || findings.length > maxFindings.toNat }

theorem scanSecrets_eq {text : Str} {maxScanChars maxFindings : Int}
    (h : ValidLimits maxScanChars maxFindings) :
    scanSecrets text maxScanChars maxFindings = .ok (scanResult text maxScanChars maxFindings) := by
  have hpos : 0 < maxFindings.toNat * 4 := by
    have := h.findings.1
    omega
  unfold scanSecrets
  rw [validateLimits_eq_ok h]
  simp only [scanDetectors_detectors hpos]
  rfl

/-- The limit on findings that counts is the one on raw findings, or else the one on their groups. -/
theorem findingLimitReached_eq_false_iff {text : Str} {maxScanChars maxFindings : Int} :
    let raw := rawFindings (text.take maxScanChars.toNat)
    (scanResult text maxScanChars maxFindings).findingLimitReached = false ↔
      raw.length < maxFindings.toNat * 4 ∧ (normalizeFindings raw).length ≤ maxFindings.toNat := by
  intro raw
  simp only [scanResult, Bool.or_eq_false_iff, decide_eq_false_iff_not, not_le, gt_iff_lt, not_lt]
  refine and_congr_right fun hraw => ?_
  rw [List.take_of_length_le hraw.le]

theorem scanResult_findings {text : Str} {maxScanChars maxFindings : Int}
    (h : (scanResult text maxScanChars maxFindings).findingLimitReached = false) :
    (scanResult text maxScanChars maxFindings).findings =
      normalizeFindings (rawFindings (text.take maxScanChars.toNat)) := by
  obtain ⟨hraw, hlength⟩ := findingLimitReached_eq_false_iff.1 h
  simp only [scanResult]
  rw [List.take_of_length_le hraw.le, List.take_of_length_le hlength]

theorem inputTruncated_eq_true_iff {text : Str} {maxScanChars maxFindings : Int} :
    (scanResult text maxScanChars maxFindings).inputTruncated = true ↔
      maxScanChars.toNat < text.length := by
  simp only [scanResult, List.length_take, decide_eq_true_eq]
  omega

theorem exactlyRedacted {text : Str} {groups : List (List SecretFinding)} {result : RedactionResult}
    (hgroups : MaximalGroups SecretFinding.start SecretFinding.stop groups (rawFindings text))
    (hstands : List.Forall₂ StandsFor groups result.findings)
    (htext : result.redactedText = redactedParts text 0 result.findings) :
    ExactlyRedacted text (rawFindings text) result := by
  have hhull := hstands.imp fun _ _ h => h.hull
  have hapart := pairwise_of_isHull hhull hgroups.apart
  have hcovers : ∀ i, (∃ a ∈ result.findings, a.start ≤ i ∧ i < a.stop) ↔
      ∃ a ∈ rawFindings text, a.start ≤ i ∧ i < a.stop := fun i =>
    exists_occupies_iff hgroups hhull i
  refine ⟨hapart, hcovers, placed SecretFinding.start SecretFinding.stop marker result.findings, ?_,
    fun c i hout => ?_, fun a ha c i hstart hstop => ?_⟩
  · have hwithin : ∀ a ∈ result.findings, a.start < a.stop ∧ a.stop ≤ text.length := by
      intro a ha
      obtain ⟨group, hgroup, h⟩ := exists_of_mem_forall₂ hhull.flip ha
      obtain ⟨b, hb, hstop⟩ := h.exists_stop
      have hraw := hgroups.perm.subset (List.mem_flatten.2 ⟨group, hgroup, hb⟩)
      exact ⟨a.start_lt_stop, hstop ▸ stop_le_length hraw⟩
    rw [htext, redactedParts,
      cutFrom_eq_flatMap text result.findings 0 (fun _ _ => Nat.zero_le _) hwithin hapart,
      List.drop_zero]
  · exact placed_of_not_occupies fun a ha hocc => hout ((hcovers i).1 ⟨a, ha, hocc⟩)
  · exact placed_of_occupies hapart ha ⟨hstart, hstop⟩

/-- `redact_text` leaves nothing of a text beyond a limit, and otherwise all but the groups of raw
findings. -/
theorem redactText_exact (text : Str) {maxScanChars maxFindings : Int}
    (hlimits : ValidLimits maxScanChars maxFindings) :
    ∃ groups, MaximalGroups SecretFinding.start SecretFinding.stop groups
        (rawFindings (text.take maxScanChars.toNat)) ∧
      ∃ result, redactText text maxScanChars maxFindings = .ok result ∧
        if text.length ≤ maxScanChars ∧ (rawFindings text).length < 4 * maxFindings ∧
            groups.length ≤ maxFindings then
          List.Forall₂ StandsFor groups result.findings ∧
            ExactlyRedacted text (rawFindings text) result
        else
          result.redactedText = scanLimitMarker ∨ result.redactedText = findingLimitMarker := by
  have hpos := hlimits.findings.1
  have hscan := hlimits.scanChars.1
  obtain ⟨groups, hgroups, hstands⟩ :=
    exists_groups_normalizeFindings (rawFindings (text.take maxScanChars.toNat))
  have hlength := hstands.length_eq
  refine ⟨groups, hgroups, ?_⟩
  unfold redactText
  rw [scanSecrets_eq hlimits]
  cases hlimit : (scanResult text maxScanChars maxFindings).findingLimitReached with
  | true =>
    refine ⟨_, by simp only [bind, Except.bind, hlimit, if_true]; rfl, ?_⟩
    rw [if_neg]
    · exact .inr rfl
    · rintro ⟨hwithin, hraw, hgroupsLength⟩
      have hall : text.take maxScanChars.toNat = text := List.take_of_length_le (by omega)
      have hfree := (@findingLimitReached_eq_false_iff _ text maxScanChars maxFindings).2
      rw [hall] at hfree hlength
      rw [hfree ⟨by omega, by omega⟩] at hlimit
      cases hlimit
  | false =>
    cases htruncated : (scanResult text maxScanChars maxFindings).inputTruncated with
    | true =>
      have hlong := inputTruncated_eq_true_iff.1 htruncated
      refine ⟨_, by simp only [bind, Except.bind, hlimit, htruncated, if_true]; rfl, ?_⟩
      rw [if_neg]
      · exact .inl rfl
      · rintro ⟨hwithin, _, _⟩
        omega
    | false =>
      have hwithin : text.length ≤ maxScanChars.toNat :=
        not_lt.1 fun hlong => by simp [inputTruncated_eq_true_iff.2 hlong] at htruncated
      have hall : text.take maxScanChars.toNat = text := List.take_of_length_le hwithin
      have hfindings := scanResult_findings hlimit
      obtain ⟨hraw, hgroupsLength⟩ := findingLimitReached_eq_false_iff.1 hlimit
      rw [hall] at hgroups hstands hfindings hraw hgroupsLength hlength
      refine ⟨_, by simp only [bind, Except.bind, hlimit, htruncated]; rfl, ?_⟩
      rw [if_pos ⟨by omega, by omega, by omega⟩]
      rw [← hfindings] at hstands
      exact ⟨hstands, exactlyRedacted hgroups hstands rfl⟩

end

def passwordText : Str := Str.ofText "password=abcd@ef.gh".toList

/-- What the detectors find in `passwordText`: the password, and an address that it is part of. -/
@[reducible] def passwordLibrary : RegexLibrary where
  finditer detector text :=
    if h : 19 ≤ text.length then
      if detector.detectorId = "credential-assignment-bare-v1".toList then [⟨9, 19, by omega, h⟩]
      else if detector.detectorId = "email-address-v1".toList then [⟨0, 19, by omega, h⟩]
      else []
    else []

theorem redactText_exact_password :
    letI := passwordLibrary
    ∃ groups, MaximalGroups SecretFinding.start SecretFinding.stop groups
        (rawFindings (passwordText.take (65536 : Int).toNat)) ∧
      ∃ result, redactText passwordText 65536 64 = .ok result ∧
        if passwordText.length ≤ (65536 : Int) ∧ (rawFindings passwordText).length < (4 : Int) * 64 ∧
            groups.length ≤ (64 : Int) then
          List.Forall₂ StandsFor groups result.findings ∧
            ExactlyRedacted passwordText (rawFindings passwordText) result
        else
          result.redactedText = scanLimitMarker ∨ result.redactedText = findingLimitMarker :=
  @redactText_exact passwordLibrary passwordText 65536 64 ⟨by decide, by decide⟩

example : (@redactText passwordLibrary passwordText 65536 64).toOption.map
    RedactionResult.redactedText = some (Str.ofText "[REDACTED:credential_assignment]".toList) := by
  decide +kernel

end DollState.Redaction
