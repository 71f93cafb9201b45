import DollState.Capability.Requests

/-!
# The gates of a capability

The conditions on a request that the preflight services and the confirmation ledger check, each a
function of the request and of the registered definition. What `urllib`, `ipaddress` and the IDNA
codec answer is taken from `UrlLibrary`; nothing is assumed about it.
-/

namespace DollState.Capability

open Instruction StateLib

/-! ## Actors, arguments and targets -/

/-- `_ORIGIN_ACTORS`. -/
def originActors : OriginClass → List ActorType
  | .systemPolicy => [.system]
  | .currentUserInstruction => [.user]
  | .durableUserPolicy => [.user]
  | .userManagementAction => [.user]
  | .externalContent => [.retriever, .extractor]
  | .importedData => [.importer]
  | .toolResult => [.tool]
  | .runtimeOutput => [.runtime]
  | .modelProposal => [.model]
  | .unknown => [.unknown]

/-- `_actor_matches_origin`. -/
def actorMatchesOrigin (actorType : ActorType) (originClass : OriginClass) : Bool :=
  actorType ∈ originActors originClass

/-- A string that fits an argument field. -/
def fitsField (value : Text) (maximum : Int) : Bool :=
  strip value ≠ [] && (value.length : Int) ≤ maximum && !containsControl value

/-- `_argument_value_matches`. -/
def argumentValueMatches (field : CapabilityArgument) (value : Json) : Bool :=
  match field.kind, value with
  | .text, .str s => field.maximumLength.any fun maximum => fitsField s maximum
  | .integer, .int i =>
    field.minimumInteger.all (fun minimum => decide (minimum ≤ i)) &&
      field.maximumInteger.all fun maximum => decide (i ≤ maximum)
  | .boolean, .bool _ => true
  | .stringList, .arr items =>
    (field.maximumItems.any fun maximum => decide ((items.length : Int) ≤ maximum)) &&
      field.maximumLength.any fun maximum => items.all fun
        | .str s => fitsField s maximum
        | _ => false
  | _, _ => false

/-- `_arguments_match`. -/
def argumentsMatch (definition : CapabilityDefinition) (arguments : JsonMapping) : Bool :=
  (arguments.entries.all fun entry => definition.arguments.any fun field => field.name = entry.1) &&
    (definition.arguments.all fun field => !field.required || arguments.has field.name) &&
    definition.arguments.all fun field =>
      !arguments.has field.name ||
        argumentValueMatches field (arguments.entries.get field.name)

/-- `_safe_relative_artifact`. -/
def safeRelativeArtifact (value : Text) : Bool :=
  !(value.isEmpty || value.head? = some '/' || value.contains '\\' || containsControl value ||
      match value with
      | c :: ':' :: _ => c.isAlpha
      | _ => false) &&
    (value.splitOn '/').all fun part => part ≠ [] && part ≠ ".".toList && part ≠ "..".toList

/-! ## URLs -/

/-- What `urlsplit` makes of a URL. Reading its port may raise. -/
structure SplitUrl where
  scheme : Text
  username : Option Text
  password : Option Text
  hostname : Option Text
  port : Result (Option Nat)
  path : Text
  query : Text
  fragment : Text

/-- The parts of the library that know about URLs, domain names and addresses. -/
class UrlLibrary where
  /-- `urlsplit`, which may raise a `ValueError`. -/
  urlsplit : Text → Result SplitUrl
  /-- `ipaddress.ip_address(text).version`, `none` for a `ValueError`. -/
  ipVersion : Text → Option Nat
  /-- An address is private, loopback, link-local, multicast, reserved or unspecified. -/
  isSpecialAddress : Text → Bool
  /-- `text.encode("idna").decode("ascii")`, `none` for a `UnicodeError`. -/
  idna : Text → Option Text

/-- `[a-z0-9](?:[a-z0-9-]{0,61}[a-z0-9])?` matches the whole label. -/
def isHostLabel (label : Text) : Bool :=
  let isEdge := fun (c : Char) => c.isLower || c.isDigit
  label.length ≤ 63 && label.head?.any isEdge && label.getLast?.any isEdge &&
    label.all fun c => isEdge c || c == '-'

/-- `urlunsplit` of an absolute URL without a fragment. -/
def urlunsplit (scheme netloc path query : Text) : Text :=
  scheme ++ "://".toList ++ netloc ++ (if path.head? = some '/' then path else '/' :: path) ++
    if query = [] then [] else '?' :: query

section Urls

variable [CaseLibrary] [UrlLibrary]

/-- `host.rstrip(".").lower()`. -/
def lowerHost (host : Text) : Text := CaseLibrary.lower (host.rdropWhile (· == '.'))

/-- `_normalize_host`. -/
def normalizeHost (host : Text) : Option Text :=
  let normalized := lowerHost host
  if normalized = [] ∨ 253 < normalized.length then none
  else if (UrlLibrary.ipVersion normalized).isSome then some normalized
  else (UrlLibrary.idna normalized).bind fun encoded =>
    if (encoded.splitOn '.').all isHostLabel then some encoded else none

/-- `_normalize_url`. -/
def normalizeUrl (value : Text) : Option Text :=
  if maxTargetIdentifierLength < value.length then none
  else match UrlLibrary.urlsplit (strip value) with
  | .error _ => none
  | .ok parsed => match parsed.port with
    | .error _ => none
    | .ok port =>
      let scheme := CaseLibrary.lower parsed.scheme
      let defaultPort := if scheme = "https".toList then 443 else 80
      if scheme ≠ "http".toList ∧ scheme ≠ "https".toList then none
      else if parsed.username.isSome ∨ parsed.password.isSome ∨ parsed.fragment ≠ [] then none
      else parsed.hostname.bind fun host => (normalizeHost host).bind fun normalizedHost =>
        if port.isSome ∧ port ≠ some defaultPort then none
        else
          let netloc := if UrlLibrary.ipVersion normalizedHost = some 6
            then '[' :: normalizedHost ++ [']'] else normalizedHost
          some (urlunsplit scheme netloc (if parsed.path = [] then ['/'] else parsed.path)
            parsed.query)

/-- `_is_private_or_local_host`. -/
def isPrivateOrLocalHost (host : Text) : Bool :=
  let normalized := lowerHost host
  normalized = "localhost".toList || ".localhost".toList.isSuffixOf normalized ||
    ".local".toList.isSuffixOf normalized ||
    ((UrlLibrary.ipVersion normalized).isSome && UrlLibrary.isSpecialAddress normalized)

/-- `OutboundNetworkPolicy`. -/
structure OutboundNetworkPolicy where
  enabled : Bool
  allowedSchemes : List Text
  allowedHosts : List Text
  allowSubdomains : Bool

/-- `_network_allowed`. -/
def networkAllowed (policy : OutboundNetworkPolicy) (destination : Text) : Result Bool :=
  if policy.enabled = false then .ok false
  else do
    let parsed ← UrlLibrary.urlsplit destination
    return decide (parsed.scheme ∈ policy.allowedSchemes) && match parsed.hostname with
      | none => false
      | some host => !isPrivateOrLocalHost host &&
        (policy.allowedHosts.isEmpty || decide (host ∈ policy.allowedHosts) ||
          (policy.allowSubdomains && policy.allowedHosts.any fun allowed =>
            ('.' :: allowed).isSuffixOf host))

/-- `_target_matches`. -/
def targetMatches (contract : CapabilityTargetContract) (target : CapabilityTarget) : Bool :=
  target.kind = contract.kind &&
    (target.identifier.length : Int) ≤ contract.maximumIdentifierLength &&
    match contract.kind with
    | .providedData | .stateRecord => isToken target.identifier
    | .managedArtifact => safeRelativeArtifact target.identifier
    | .url => (normalizeUrl target.identifier).isSome

/-- The URL among the arguments, normalised. -/
def argumentUrl (request : CapabilityRequest) : Option Text :=
  match request.arguments.entries.get "url" with
  | .str url => normalizeUrl url
  | _ => none

/-- `_destination_for`: `none` for `_DESTINATION_MISMATCH`. -/
def destinationFor (definition : CapabilityDefinition) (request : CapabilityRequest) :
    Option (Option Text) :=
  match definition.networkMode with
  | .none => if request.destination = none then some none else none
  | .explicitUrl => do
    let destination ← request.destination
    let normalizedTarget ← normalizeUrl request.target.identifier
    let normalizedDestination ← normalizeUrl destination
    let normalizedArgument ← argumentUrl request
    if normalizedTarget = normalizedDestination ∧ normalizedDestination = normalizedArgument then
      some (some normalizedDestination)
    else none

/-- `_bindings_match`. -/
def bindingsMatch (definition : CapabilityDefinition) (request : CapabilityRequest)
    (destination : Option Text) (scope : JsonMapping) : Result Bool :=
  match definition.bindingMode with
  | .none => .ok (Json.eq (.obj scope.entries) (.obj [("kind", .str "none".toList)]))
  | .recordIdentity => .ok <| match request.arguments.entries.get "record_id" with
    | .str recordId => request.target.identifier = recordId &&
        Json.eq (.obj scope.entries)
          (.obj [("kind", .str "record".toList), ("record_id", .str recordId)])
    | _ => false
  | .projectArtifact => .ok <|
    match request.arguments.entries.get "project_id", request.arguments.entries.get "name" with
    | .str projectId, .str name => isToken projectId && isToken name &&
        request.target.identifier = projectId ++ '/' :: name &&
        Json.eq (.obj scope.entries)
          (.obj [("kind", .str "project".toList), ("project_id", .str projectId)])
    | _, _ => false
  | .destinationHost => match destination with
    | none => .ok false
    | some destination => do
      let parsed ← UrlLibrary.urlsplit destination
      return match parsed.hostname, scope.entries.get "host" with
        | some host, .str scopeHost => normalizeHost scopeHost = some host &&
            Json.eq (.obj scope.entries)
              (.obj [("kind", .str "destination".toList), ("host", .str scopeHost)])
        | _, _ => false

end Urls

/-! ## Limits -/

section Limits

variable [FloatLibrary]

mutual

/-- `_json_input_usage`: the characters and the list items of a value. -/
def jsonInputUsage : Json → Nat × Nat
  | .null => (0, 0)
  | .bool b => (if b then "True".length else "False".length, 0)
  | .int i => ((toString i).length, 0)
  | .real q => ((FloatLibrary.floatRepr q).length, 0)
  | .minusZero => ("-0.0".length, 0)
  | .str s => (s.length, 0)
  | .arr items => (0, items.length) + elementsInputUsage items
  | .obj entries => entriesInputUsage entries

def elementsInputUsage : List Json → Nat × Nat
  | [] => (0, 0)
  | item :: items => jsonInputUsage item + elementsInputUsage items

def entriesInputUsage : List (String × Json) → Nat × Nat
  | [] => (0, 0)
  | (key, nested) :: entries => (key.length, 0) + jsonInputUsage nested + entriesInputUsage entries

end

/-- `_request_input_usage`. -/
def requestInputUsage (request : CapabilityRequest) : Nat × Nat :=
  let (characters, items) := jsonInputUsage (.obj request.arguments.entries)
  (characters + request.target.identifier.length + (request.destination.getD []).length, items)

/-- `_declared_limits_cover_request`. -/
def declaredLimitsCoverRequest (request : CapabilityRequest) : Bool :=
  let (inputCharacters, listItems) := requestInputUsage request
  (inputCharacters : Int) ≤ request.resourceLimits.maxInputChars &&
    ((max 1 listItems : Nat) : Int) ≤ request.resourceLimits.maxItems

end Limits

/-- `_resource_limits_match`. -/
def resourceLimitsMatch (contract : CapabilityResourceContract)
    (limits : CapabilityResourceLimits) : Bool :=
  0 < limits.maxInputChars && limits.maxInputChars ≤ contract.maxInputChars &&
    0 < limits.maxOutputBytes && limits.maxOutputBytes ≤ contract.maxOutputBytes &&
    0 < limits.maxItems && limits.maxItems ≤ contract.maxItems

/-- `_timeout_matches`. -/
def timeoutMatches (contract : CapabilityResourceContract) (timeoutSeconds : Int) : Bool :=
  0 < timeoutSeconds && timeoutSeconds ≤ contract.maxTimeoutSeconds

/-- `_cancellation_matches`. -/
def cancellationMatches (definition : CapabilityDefinition) (cancellationId : Option Text) : Bool :=
  if definition.cancellationRequired then cancellationId.isSome else cancellationId.isNone

/-- `_permission_scope`. -/
def permissionScope (scope : JsonMapping) : Option JsonMapping :=
  match scope.entries.get "kind" with
  | .str kind => if isToken kind then some scope else none
  | _ => none

end DollState.Capability
