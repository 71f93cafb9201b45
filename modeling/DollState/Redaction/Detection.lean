import DollState.Domain.ProjectStatus
import DollState.Library.JsonText
import DollState.Library.Spans

/-!
# Secret detection and redaction

The model of `secret_detection`. Twelve detectors look for secrets in the first characters of a text,
`_normalize_findings` merges what overlaps, and `redact_text` puts a marker in the place of each of
the findings. When the text is longer than what is scanned, or there are too many findings, nothing of
the text is returned.

What a detector's pattern matches is taken from `RegexLibrary`; a match lies within the text.
-/

namespace DollState.Redaction

open StateLib JsonText

inductive SecretFindingKind where
  | authorizationHeader
  | credentialAssignment
  | knownToken
  | privateKey
  | recoveryPhrase
  | sessionCookie
  | personalEmail
  | personalPhone
  | privatePath
deriving DecidableEq, Repr

def SecretFindingKind.value : SecretFindingKind → String
  | authorizationHeader => "authorization_header"
  | credentialAssignment => "credential_assignment"
  | knownToken => "known_token"
  | privateKey => "private_key"
  | recoveryPhrase => "recovery_phrase"
  | sessionCookie => "session_cookie"
  | personalEmail => "personal_email"
  | personalPhone => "personal_phone"
  | privatePath => "private_path"

inductive SecretFindingConfidence where
  | high
  | medium
deriving DecidableEq, Repr

def defaultMaxScanChars : Int := 65536
def defaultMaxFindings : Int := 64
def maxConfiguredScanChars : Int := 1048576
def maxConfiguredFindings : Int := 1024

def scanLimitMarker : Str := Str.ofText "[UNSCANNED_CONTENT_OMITTED]".toList
def findingLimitMarker : Str := Str.ofText "[REDACTION_FINDING_LIMIT_REACHED]".toList

/-- A finding; `stop` is the field `end`. -/
structure SecretFinding where
  kind : SecretFindingKind
  confidence : SecretFindingConfidence
  detectorId : Text
  start : ℕ
  stop : ℕ
  start_lt_stop : start < stop
deriving DecidableEq

structure SecretScanResult where
  findings : List SecretFinding
  inputCharacters : ℕ
  scannedCharacters : ℕ
  inputTruncated : Bool
  findingLimitReached : Bool

structure RedactionResult where
  redactedText : Str
  findings : List SecretFinding
  inputCharacters : ℕ
  scannedCharacters : ℕ
  inputTruncated : Bool
  findingLimitReached : Bool

structure Detector where
  detectorId : Text
  kind : SecretFindingKind
  confidence : SecretFindingConfidence

/-- `match.span(...)` of a match in the text. -/
structure Span (text : Str) where
  start : ℕ
  stop : ℕ
  start_le_stop : start ≤ stop
  stop_le_length : stop ≤ text.length

/-- The regular expressions of the detectors. -/
class RegexLibrary where
  /-- The spans of a detector's value group over the matches of its pattern that `finditer` yields. -/
  finditer : Detector → (text : Str) → List (Span text)

def detectors : List Detector :=
  [⟨"private-key-block-v1".toList, .privateKey, .high⟩,
    ⟨"authorization-header-v1".toList, .authorizationHeader, .high⟩,
    ⟨"cookie-header-v1".toList, .sessionCookie, .high⟩,
    ⟨"recovery-phrase-v1".toList, .recoveryPhrase, .high⟩,
    ⟨"credential-assignment-quoted-v1".toList, .credentialAssignment, .high⟩,
    ⟨"credential-assignment-bare-v1".toList, .credentialAssignment, .high⟩,
    ⟨"known-token-v1".toList, .knownToken, .high⟩,
    ⟨"jwt-v1".toList, .knownToken, .medium⟩,
    ⟨"email-address-v1".toList, .personalEmail, .medium⟩,
    ⟨"labeled-phone-v1".toList, .personalPhone, .medium⟩,
    ⟨"unix-home-path-v1".toList, .privatePath, .medium⟩,
    ⟨"windows-home-path-v1".toList, .privatePath, .medium⟩]

/-! ## Normalisation -/

/-- `_confidence_rank`. -/
def confidenceRank : SecretFindingConfidence → ℕ
  | .high => 0
  | .medium => 1

def sortKey (item : SecretFinding) : ℕ ×ₗ ℤ ×ₗ ℕ ×ₗ Text :=
  toLex (item.start, toLex (-(item.stop : ℤ),
    toLex (confidenceRank item.confidence, item.detectorId)))

def preferenceKey (item : SecretFinding) : ℕ ×ₗ ℤ ×ₗ Text :=
  toLex (confidenceRank item.confidence, toLex (-((item.stop : ℤ) - item.start), item.detectorId))

/-- `_preferred_finding`. -/
def preferredFinding (first second : SecretFinding) : SecretFinding :=
  if preferenceKey first ≤ preferenceKey second then first else second

/-- The finding that takes the place of two that overlap. -/
def mergedFinding (previous finding : SecretFinding) : SecretFinding :=
  let preferred := preferredFinding previous finding
  { kind := preferred.kind
    confidence := preferred.confidence
    detectorId := preferred.detectorId
    start := min previous.start finding.start
    stop := max previous.stop finding.stop
    start_lt_stop := (min_le_left _ _).trans_lt (previous.start_lt_stop.trans_le (le_max_left _ _)) }

/-- One round of the loop of `_normalize_findings`. -/
def normalizeStep (normalized : List SecretFinding) (finding : SecretFinding) : List SecretFinding :=
  match normalized.getLast? with
  | none => normalized ++ [finding]
  | some previous =>
    if finding.start ≥ previous.stop then normalized ++ [finding]
    else normalized.dropLast ++ [mergedFinding previous finding]

/-- `_normalize_findings`. -/
def normalizeFindings (findings : List SecretFinding) : List SecretFinding :=
  (Status.sortedBy sortKey findings).foldl normalizeStep []

/-! ## Scanning -/

section

variable [RegexLibrary]

/-- What a detector makes of the span of a match, unless it is empty. -/
def findingOf (detector : Detector) {text : Str} (span : Span text) : Option SecretFinding :=
  if h : span.start = span.stop then none
  else some ⟨detector.kind, detector.confidence, detector.detectorId, span.start, span.stop,
    lt_of_le_of_ne span.start_le_stop h⟩

/-- The loop over the matches of a detector. The flag is `raw_limit_reached`. -/
def scanMatches (rawLimit : ℕ) (detector : Detector) {text : Str} :
    List SecretFinding → List (Span text) → List SecretFinding × Bool
  | rawFindings, [] => (rawFindings, false)
  | rawFindings, span :: spans =>
    match findingOf detector span with
    | none => scanMatches rawLimit detector rawFindings spans
    | some finding =>
      if rawLimit ≤ (rawFindings ++ [finding]).length then (rawFindings ++ [finding], true)
      else scanMatches rawLimit detector (rawFindings ++ [finding]) spans

/-- The loop over the detectors. -/
def scanDetectors (rawLimit : ℕ) (scannedText : Str) :
    List SecretFinding → List Detector → List SecretFinding × Bool
  | rawFindings, [] => (rawFindings, false)
  | rawFindings, detector :: rest =>
    let (rawFindings, rawLimitReached) :=
      scanMatches rawLimit detector rawFindings (RegexLibrary.finditer detector scannedText)
    if rawLimitReached then (rawFindings, true)
    else scanDetectors rawLimit scannedText rawFindings rest

/-- `_validate_limits`; the error is the text of a `ValueError`. -/
def validateLimits (maxScanChars maxFindings : Int) : Except String Unit := do
  ensure (1 ≤ maxScanChars ∧ maxScanChars ≤ maxConfiguredScanChars)
    s!"max_scan_chars must be between 1 and {maxConfiguredScanChars}"
  ensure (1 ≤ maxFindings ∧ maxFindings ≤ maxConfiguredFindings)
    s!"max_findings must be between 1 and {maxConfiguredFindings}"

/-- `scan_secrets`. -/
def scanSecrets (text : Str) (maxScanChars maxFindings : Int) : Except String SecretScanResult := do
  validateLimits maxScanChars maxFindings
  let scannedText := text.take maxScanChars.toNat
  let (rawFindings, rawLimitReached) :=
    scanDetectors (maxFindings.toNat * 4) scannedText [] detectors
  let findings := normalizeFindings rawFindings
  return {
    findings := findings.take maxFindings.toNat
    inputCharacters := text.length
    scannedCharacters := scannedText.length
    inputTruncated := text.length > scannedText.length
    findingLimitReached := rawLimitReached || findings.length > maxFindings.toNat }

/-! ## Redaction -/

def marker (finding : SecretFinding) : Str :=
  Str.ofText ("[REDACTED:" ++ finding.kind.value ++ "]").toList

/-- The loop of `redact_text` over the findings, with the parts joined. -/
def redactedParts (text : Str) : ℕ → List SecretFinding → Str :=
  cutFrom SecretFinding.start SecretFinding.stop marker text

/-- `redact_text`. -/
def redactText (text : Str) (maxScanChars maxFindings : Int) : Except String RedactionResult := do
  let scan ← scanSecrets text maxScanChars maxFindings
  if scan.findingLimitReached then
    return {
      redactedText := findingLimitMarker
      findings := scan.findings
      inputCharacters := scan.inputCharacters
      scannedCharacters := scan.scannedCharacters
      inputTruncated := scan.inputTruncated
      findingLimitReached := true }
  if scan.inputTruncated then
    return {
      redactedText := scanLimitMarker
      findings := scan.findings
      inputCharacters := scan.inputCharacters
      scannedCharacters := scan.scannedCharacters
      inputTruncated := true
      findingLimitReached := false }
  return {
    redactedText := redactedParts text 0 scan.findings
    findings := scan.findings
    inputCharacters := scan.inputCharacters
    scannedCharacters := scan.scannedCharacters
    inputTruncated := false
    findingLimitReached := false }

end

end DollState.Redaction
