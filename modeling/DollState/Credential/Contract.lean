import Mathlib.Data.Rat.Defs
import DollState.State.Text
import DollState.Library.Validated

/-!
# The contract of the credential broker

References to secrets, the intents to use one, the grants that allow it, and what passes between the
broker, its handlers and its audit sink. None of these holds a secret. Their classes check their
fields when a value is made, so a value here is a `Validated` one.
-/

namespace DollState.Credential

open StateLib

/-! ## Enumerations -/

inductive CredentialActorType where
  | user | system | model | runtime | capability
deriving DecidableEq, Repr

inductive CredentialAuditPhase where
  | attempt | result
deriving DecidableEq, Repr

inductive CredentialAuditResult where
  | success | denied | failed | cancelled | partly
deriving DecidableEq, Repr

inductive CredentialCompletion where
  | notStarted | completed | unknown
deriving DecidableEq, Repr

inductive CredentialFailureCode where
  | adapterFailure
  | adapterNotConfigured
  | auditFailure
  | authorizationConsumed
  | authorizationExpired
  | authorizationMismatch
  | authorizationMissing
  | cancelled
  | destinationOutOfScope
  | handlerFailure
  | handlerMismatch
  | handlerNotRegistered
  | handlerResult
  | invalidReferenceState
  | locked
  | malformedHandlerResult
  | notFound
  | operationOutOfScope
  | permissionDenied
  | referenceRevoked
  | storeUnavailable
  | timeout
  | unsupportedOperation
  | userPresenceRequired
  | userPresenceUnavailable
deriving DecidableEq, Repr

/-- The only risk tier of credential operations. -/
inductive CredentialRiskTier where
  | tier3
deriving DecidableEq, Repr

def CredentialRiskTier.text : CredentialRiskTier → Text
  | .tier3 => "tier3".toList

inductive SecretStoreUserPresencePolicy where
  | forbid | allow | require
deriving DecidableEq, Repr

inductive CredentialClass where
  | password
  | apiKey
  | accessToken
  | refreshToken
  | clientSecret
  | privateKey
  | sessionCookie
  | recoveryPhrase
  | authorizationHeader
  | other
deriving DecidableEq, Repr

def CredentialClass.text : CredentialClass → Text
  | .password => "password".toList
  | .apiKey => "api_key".toList
  | .accessToken => "access_token".toList
  | .refreshToken => "refresh_token".toList
  | .clientSecret => "client_secret".toList
  | .privateKey => "private_key".toList
  | .sessionCookie => "session_cookie".toList
  | .recoveryPhrase => "recovery_phrase".toList
  | .authorizationHeader => "authorization_header".toList
  | .other => "other".toList

inductive SecretReferenceStatus where
  | active | rotated | revoked
deriving DecidableEq, Repr

/-! ## Errors -/

/-- `CredentialBrokerContractError` and `SecretStoreContractError`. -/
inductive CredentialErrorKind where
  | brokerContract | storeContract
deriving DecidableEq, Repr

structure CredentialError where
  kind : CredentialErrorKind
  message : String
deriving DecidableEq, Repr

abbrev Checked (α : Type) := Except CredentialError α

def contractError (message : String) : CredentialError := ⟨.brokerContract, message⟩

def storeError (message : String) : CredentialError := ⟨.storeContract, message⟩

/-! ## Texts -/

def maxSecretStoreTimeoutSeconds : Rat := 300
def maxCredentialAuthorizationTtlSeconds : Rat := 300

/-- `^[A-Za-z0-9][A-Za-z0-9._:-]*$` matches the whole text, which is no longer than `maximum`. It is
what the patterns of tokens, result codes, operation IDs and reference IDs come to. -/
def isTokenOf (maximum : Nat) (value : Text) : Bool := isToken value && value.length ≤ maximum

/-- `^[a-z0-9][a-z0-9._-]{0,79}$` matches the whole text. -/
def isAdapterClass : Text → Bool
  | [] => false
  | c :: cs => (c.isLower || c.isDigit) && cs.length ≤ 79 &&
      cs.all fun d => d.isLower || d.isDigit || d == '.' || d == '_' || d == '-'

/-- `^[A-Za-z0-9][A-Za-z0-9._:/@*-]{0,199}$` matches the whole text. -/
def isScope : Text → Bool
  | [] => false
  | c :: cs => c.isAlphanum && cs.length ≤ 199 &&
      cs.all fun d => d.isAlphanum || d ∈ ['.', '_', ':', '/', '@', '*', '-']

/-- The decimal digits of the library, which `\d` matches. -/
class DigitLibrary where
  isDecimal : Char → Bool

/-- The parts of a text between the occurrences of a character. -/
def splitAt (sep : Char) : Text → List Text
  | [] => [[]]
  | c :: cs =>
    if c = sep then [] :: splitAt sep cs
    else match splitAt sep cs with
      | [] => [[c]]
      | part :: parts => (c :: part) :: parts

/-- `[A-Za-z0-9](?:[A-Za-z0-9-]{0,61}[A-Za-z0-9])?` matches the whole text. -/
def isHostLabel (value : Text) : Bool :=
  value.length ≤ 63 && value.all (fun c => c.isAlphanum || c == '-') &&
    value.head?.any Char.isAlphanum && value.getLast?.any Char.isAlphanum

/-- The value of a text of ASCII digits. -/
def portNumber (digits : Text) : Nat := digits.foldl (fun n c => n * 10 + (c.toNat - 48)) 0

/-- `_DESTINATION_PATTERN` matches the whole text. -/
def matchesDestination (value : Text) : Bool :=
  1 ≤ value.length && value.length ≤ 253 &&
    match splitAt ':' value with
    | [host] => (splitAt '.' host).all isHostLabel
    | [host, port] => (splitAt '.' host).all isHostLabel && port.all Char.isDigit &&
        1 ≤ port.length && port.length ≤ 5
    | _ => false

/-- `_validate_token`. -/
def validateToken (name : String) (value : Text) : Checked Unit := do
  ensure (isTokenOf 128 value = true) (contractError s!"invalid {name}")
  ensure ('*' ∉ value) (contractError s!"{name} must be exact")

/-- `_validate_result_code`. -/
def validateResultCode (value : Text) : Checked Unit :=
  ensure (isTokenOf 80 value = true) (contractError "invalid credential result code")

/-- `_validate_destination`. -/
def validateDestination (value : Text) : Checked Unit := do
  ensure (matchesDestination value = true) (contractError "invalid credential destination")
  ensure ('*' ∉ value) (contractError "credential destination must be exact")
  match splitAt ':' value with
  | [_, port] =>
    ensure (1 ≤ portNumber port ∧ portNumber port ≤ 65535)
      (contractError "invalid credential destination port")
  | _ => pure ()

/-- `_validate_version`. -/
def validateVersion (value : Int) : Checked Unit :=
  ensure (1 ≤ value ∧ value ≤ 9999) (contractError "invalid credential capability version")

/-- `_validate_timeout`. -/
def validateTimeout (value : Rat) : Checked Unit :=
  ensure (0 < value ∧ value ≤ maxSecretStoreTimeoutSeconds)
    (contractError "invalid credential timeout")

/-- `_validate_monotonic`. -/
def validateMonotonic (name : String) (value : Rat) : Checked Unit :=
  ensure (0 ≤ value) (contractError s!"invalid {name}")

/-! ## References -/

/-- `SecretReferenceMetadata`; its class checks nothing. -/
structure SecretReferenceMetadata where
  referenceId : Text
  credentialClass : CredentialClass
  storeAdapterClass : Text
  label : Text
  status : SecretReferenceStatus
  providerClass : Option Text
  allowedOperationScope : List Text
  allowedDestinationScope : List Text
  createdAt : Option Text
  rotatedAt : Option Text
  revokedAt : Option Text
deriving DecidableEq

/-- `_required_string`. -/
def requiredString (value : Text) (maximum : Nat) : Bool :=
  strip value ≠ [] && value.length ≤ maximum && value.all fun c => !isSpace c || c == ' '

/-- `_optional_string`. -/
def optionalString (value : Option Text) (maximum : Nat) : Bool :=
  value.all fun text => strip text ≠ [] && text.length ≤ maximum

/-- `_scope`. -/
def scope (values : List Text) : Bool :=
  values.length ≤ 32 && values.all isScope && values.Nodup

section

variable [DigitLibrary]

/-- `^\d{4}-\d{2}-\d{2}T\d{2}:\d{2}:\d{2}(?:\.\d+)?Z$` matches the whole text. -/
def isTimestamp (value : Text) : Bool :=
  let digits (n i : Nat) : Bool :=
    ((value.drop i).take n).length = n && ((value.drop i).take n).all DigitLibrary.isDecimal
  let mark (i : Nat) (c : Char) : Bool := value[i]? = some c
  digits 4 0 && mark 4 '-' && digits 2 5 && mark 7 '-' && digits 2 8 && mark 10 'T' &&
    digits 2 11 && mark 13 ':' && digits 2 14 && mark 16 ':' && digits 2 17 &&
    match value.drop 19 with
    | '.' :: rest => 2 ≤ rest.length && rest.dropLast.all DigitLibrary.isDecimal &&
        rest.getLast? = some 'Z'
    | rest => rest = ['Z']

/-- `validate_secret_reference_metadata` accepts the metadata that the reference is written as. What
it returns is then the reference itself. -/
def isValidReference (reference : SecretReferenceMetadata) : Bool :=
  requiredString reference.referenceId 128 && isTokenOf 128 reference.referenceId &&
    requiredString reference.credentialClass.text 40 &&
    requiredString reference.storeAdapterClass 80 && isAdapterClass reference.storeAdapterClass &&
    requiredString reference.label 160 && optionalString reference.providerClass 80 &&
    reference.providerClass.all isAdapterClass && scope reference.allowedOperationScope &&
    scope reference.allowedDestinationScope && reference.createdAt.all isTimestamp &&
    reference.rotatedAt.all isTimestamp && reference.revokedAt.all isTimestamp &&
    (reference.status ≠ .rotated || reference.rotatedAt.isSome) &&
    (reference.status ≠ .revoked || reference.revokedAt.isSome)

/-- What the later checks of a call need of a reference. -/
theorem checks_of_isValidReference {reference : SecretReferenceMetadata}
    (h : isValidReference reference = true) : isTokenOf 128 reference.referenceId = true ∧
      isAdapterClass reference.storeAdapterClass = true := by
  simp only [isValidReference, Bool.and_eq_true] at h
  tauto

end

/-! ## Intents -/

/-- The identity of a `SecretStoreCancellationToken`. -/
abbrev TokenId := Nat

/-- The fields of a `CredentialUseIntent`. -/
structure IntentFields where
  operationId : Text
  capabilityId : Text
  capabilityVersion : Int
  actorType : CredentialActorType
  reference : SecretReferenceMetadata
  operationScope : Text
  destination : Text
  actorId : Option Text
  riskTier : CredentialRiskTier
  timeoutSeconds : Rat
  userPresence : SecretStoreUserPresencePolicy
  cancellation : TokenId
deriving DecidableEq

def validateActorId : Option Text → Checked Unit
  | none => pure ()
  | some actorId => validateToken "actor ID" actorId

def IntentFields.validate (i : IntentFields) : Checked Unit := do
  validateToken "operation ID" i.operationId
  validateToken "capability ID" i.capabilityId
  validateVersion i.capabilityVersion
  validateActorId i.actorId
  validateToken "operation scope" i.operationScope
  validateDestination i.destination
  validateTimeout i.timeoutSeconds

abbrev CredentialUseIntent := Validated IntentFields IntentFields.validate

/-! ## Grants -/

/-- The fields of a `CredentialAuthorizationGrant`. -/
structure GrantFields where
  grantId : Text
  operationId : Text
  capabilityId : Text
  capabilityVersion : Int
  referenceId : Text
  operationScope : Text
  destination : Text
  riskTier : CredentialRiskTier
  expiresAtMonotonic : Rat
deriving DecidableEq

def GrantFields.validate (g : GrantFields) : Checked Unit := do
  validateToken "authorization grant ID" g.grantId
  validateToken "operation ID" g.operationId
  validateToken "capability ID" g.capabilityId
  validateVersion g.capabilityVersion
  validateToken "reference ID" g.referenceId
  validateToken "operation scope" g.operationScope
  validateDestination g.destination
  validateMonotonic "authorization expiry" g.expiresAtMonotonic

abbrev CredentialAuthorizationGrant := Validated GrantFields GrantFields.validate

/-! ## Handlers -/

/-- The fields of a `CredentialHandlerContext`. -/
structure ContextFields where
  operationId : Text
  capabilityId : Text
  capabilityVersion : Int
  referenceId : Text
  operationScope : Text
  destination : Text
  riskTier : CredentialRiskTier
  deadlineMonotonic : Rat
  cancellation : TokenId
deriving DecidableEq

def ContextFields.validate (c : ContextFields) : Checked Unit := do
  validateToken "operation ID" c.operationId
  validateToken "capability ID" c.capabilityId
  validateVersion c.capabilityVersion
  validateToken "reference ID" c.referenceId
  validateToken "operation scope" c.operationScope
  validateDestination c.destination
  validateMonotonic "handler deadline" c.deadlineMonotonic

abbrev CredentialHandlerContext := Validated ContextFields ContextFields.validate

/-- The fields of a `CredentialHandlerResult`. -/
structure HandlerResultFields where
  succeeded : Bool
  resultCode : Text
  completion : CredentialCompletion
deriving DecidableEq

def HandlerResultFields.validate (r : HandlerResultFields) : Checked Unit := do
  validateResultCode r.resultCode
  ensure (r.succeeded = true → r.completion = .completed)
    (contractError "successful handler result must be completed")
  ensure (r.succeeded = false → r.completion ≠ .notStarted)
    (contractError "invoked handler result cannot claim that execution never started")

abbrev CredentialHandlerResult := Validated HandlerResultFields HandlerResultFields.validate

/-! ## Results -/

/-- The fields of a `CredentialBrokerResult`. -/
structure BrokerResultFields where
  operationId : Text
  capabilityId : Text
  capabilityVersion : Int
  referenceId : Text
  operationScope : Text
  destination : Text
  succeeded : Bool
  failureCode : Option CredentialFailureCode
  completion : CredentialCompletion
  handlerResultCode : Option Text
deriving DecidableEq

def validateHandlerResultCode : Option Text → Checked Unit
  | none => pure ()
  | some code => validateResultCode code

def BrokerResultFields.validate (r : BrokerResultFields) : Checked Unit := do
  validateToken "operation ID" r.operationId
  validateToken "capability ID" r.capabilityId
  validateVersion r.capabilityVersion
  validateToken "reference ID" r.referenceId
  validateToken "operation scope" r.operationScope
  validateDestination r.destination
  validateHandlerResultCode r.handlerResultCode
  if r.succeeded then
    ensure (r.failureCode = none ∧ r.completion = .completed ∧ r.handlerResultCode ≠ none)
      (contractError "invalid successful broker result")
  else ensure (r.failureCode ≠ none) (contractError "failed broker result requires a failure code")

abbrev CredentialBrokerResult := Validated BrokerResultFields BrokerResultFields.validate

/-! ## Audit events -/

/-- The fields of a `CredentialAuditEvent`. -/
structure AuditEventFields where
  phase : CredentialAuditPhase
  operationId : Text
  actorType : CredentialActorType
  capabilityId : Text
  capabilityVersion : Int
  referenceId : Text
  credentialClass : Text
  operationScope : Text
  destination : Text
  riskTier : CredentialRiskTier
  result : CredentialAuditResult
  actorId : Option Text
  failureCode : Option CredentialFailureCode
  completion : Option CredentialCompletion
  handlerResultCode : Option Text
deriving DecidableEq

def AuditEventFields.validate (e : AuditEventFields) : Checked Unit := do
  validateToken "operation ID" e.operationId
  validateActorId e.actorId
  validateToken "capability ID" e.capabilityId
  validateVersion e.capabilityVersion
  validateToken "reference ID" e.referenceId
  validateToken "credential class" e.credentialClass
  validateToken "operation scope" e.operationScope
  validateDestination e.destination
  validateHandlerResultCode e.handlerResultCode
  match e.phase with
  | .attempt =>
    ensure (e.result = .success ∧ e.failureCode = none ∧ e.completion = none ∧
        e.handlerResultCode = none)
      (contractError "invalid credential attempt audit event")
  | .result =>
    ensure (e.completion ≠ none) (contractError "credential result audit requires completion")

abbrev CredentialAuditEvent := Validated AuditEventFields AuditEventFields.validate

end DollState.Credential
