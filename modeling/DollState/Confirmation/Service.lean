import DollState.Confirmation.Validation
import DollState.Library.Run

/-!
# The confirmation ledger

`ConfirmationService` keeps its confirmations in the audit log, as events of three actions: an issue,
a consume and a revoke. Each call that writes reads the events of one confirmation and appends one in
the same transaction, so that the calls of any number of clients are a sequence of such transactions.
Whatever else writes to the database leaves these events alone.
-/

namespace DollState.Confirmation

open Audit Capability Instruction StateLib

/-- Arithmetic and notation of instants. -/
class ClockLibrary where
  /-- `value + timedelta(seconds=seconds)`, `none` for an `OverflowError`. -/
  addSeconds : Int → Int → Option Int
  /-- `value.isoformat().replace("+00:00", "Z")` of an instant in UTC. -/
  formatUtc : Int → Text

/-- What the arguments of `_insert_confirmation_event` and its surroundings determine. -/
structure EventDraft where
  confirmationId : Text
  operationId : Text
  action : Text
  result : AuditResult
  actorType : AuditActor
  metadata : Metadata
  eventId : RecordId
  occurredAt : Text

/-- A call of `issue`, with what it takes from its surroundings: whether the repository may be
written, the reading of the clock and the drawn confirmation identifier (`none` where drawing it
raises), the identifier of the event and its time. -/
structure IssueCall where
  request : CapabilityRequest
  registry : CapabilityRegistry
  preview : ConfirmationPreview
  decision : ConfirmationDecision
  ttlSeconds : Int
  actorType : ConfirmationMutationActor
  originClass : OriginClass
  readOnly : Bool
  clock : Option Datetime
  drawnId : Option Text
  eventId : RecordId
  occurredAt : Text

structure ResolveCall where
  confirmationId : Option Text
  request : CapabilityRequest
  registryFingerprint : Text
  normalizedDestination : Option Text
  credentialClass : Option Text
  clock : Option Datetime

structure ConsumeCall where
  confirmationId : Text
  request : CapabilityRequest
  registryFingerprint : Text
  normalizedDestination : Option Text
  credentialClass : Option Text
  actorType : AuditActor
  readOnly : Bool
  clock : Option Datetime
  eventId : RecordId
  occurredAt : Text

structure RevokeCall where
  confirmationId : Text
  operationId : Text
  actorType : ConfirmationMutationActor
  originClass : OriginClass
  readOnly : Bool
  eventId : RecordId
  occurredAt : Text

/-- `_require_writable`. -/
def requireWritable (readOnly : Bool) : Result Unit :=
  ensure (readOnly = false) (invalid "confirmation ledger is read-only")

/-- The row is an event of the lifecycle of a confirmation. -/
def isLifecycleEvent (row : AuditEvent) : Bool :=
  row.targetType = some confirmationTarget &&
    (row.action = issueAction || row.action = consumeAction || row.action = revokeAction)

/-- The lifecycle events of all confirmations. -/
def ledger (db : Database) : List AuditEvent := db.auditEvents.rows.filter isLifecycleEvent

/-- The rows that the query of `_events` finds, but for its limit. -/
def eventRows (db : Database) (confirmationId : Text) : List AuditEvent :=
  (ledger db).filter fun row => row.targetId = some confirmationId

section

variable [PythonLibrary] [FloatLibrary] [AuditRules]

/-- `_events`. -/
def events (db : Database) (confirmationId : Text) : Result (List AuditEvent) := do
  let rows := (eventRows db confirmationId).take (maxConfirmationEvents + 1)
  ensure (rows.length ≤ maxConfirmationEvents)
    (corrupt "confirmation history exceeds the event limit")
  catching (DollError.isA [.stateCorrupt]) (corrupt "confirmation history is malformed")
    (rows.mapM eventFromRow)

/-- The row that `_insert_confirmation_event` inserts. -/
def EventDraft.event (draft : EventDraft) : Result AuditEvent := do
  let operationId ← validateToken "operation ID" draft.operationId 200
  let metadata ← serializeMetadataForWrite draft.metadata
  return {
    eventId := draft.eventId, operationId, occurredAt := draft.occurredAt,
    actorType := draft.actorType, actorId := none, action := draft.action,
    targetType := some confirmationTarget, targetId := some draft.confirmationId,
    result := draft.result, summary := some "High-risk confirmation decision recorded".toList,
    errorClass := none, metadata }

/-- `_insert_confirmation_event`, and the commit after it. -/
def insertConfirmationEvent (draft : EventDraft) (db : Database) : Result Database := do
  let event ← draft.event
  let db ← orFail ⟨.stateCorrupt, "confirmation event could not be appended"⟩
    (db.insertAuditEvent event)
  return db.commitStateRevision

/-- The transaction of `_append_unique_issue`. -/
def appendUniqueIssue (draft : EventDraft) (db : Database) : Result Database := do
  let found ← events db draft.confirmationId
  ensure (found.isEmpty = true) (invalid "duplicate confirmation ID")
  insertConfirmationEvent draft db

variable [CaseLibrary] [UrlLibrary] [DigestLibrary]

/-- The draft of the transaction of `consume`. -/
def ConsumeCall.draft (call : ConsumeCall) (confirmationId fingerprint : Text)
    (envelope : CapabilityRequest) : EventDraft where
  confirmationId := confirmationId
  operationId := envelope.operationId
  action := consumeAction
  result := .success
  actorType := call.actorType
  metadata := [
    ("confirmation_id", .str confirmationId),
    ("request_fingerprint", .str fingerprint),
    ("capability_id", .str envelope.capabilityId),
    ("capability_version", .str envelope.capabilityVersion),
    ("risk_tier", .int 3)]
  eventId := call.eventId
  occurredAt := call.occurredAt

/-- `consume`, up to the commit of its transaction. -/
def consume (call : ConsumeCall) (db : Database) : Result (ConfirmationInfo × Database) := do
  ensure (call.actorType = .capability ∨ call.actorType = .system)
    ⟨.forbiddenConfirmationMutation,
      "only the capability broker or core system may consume confirmation"⟩
  requireWritable call.readOnly
  let envelope ← validateRequestEnvelope call.request
  let safeId ← validateToken "confirmation ID" call.confirmationId maxConfirmationIdLength
  let fingerprint ← confirmationFingerprint envelope call.registryFingerprint
    call.normalizedDestination call.credentialClass
  let found ← events db safeId
  let now ← safeNow call.clock
  let resolution ← resolutionFromEvents safeId found envelope.operationId fingerprint now
  ensure (resolution.approved = true)
    ⟨.confirmationUnavailable, s!"confirmation cannot be consumed: {resolution.reason.name}"⟩
  let info ← orFail
    ⟨.confirmationUnavailable, s!"confirmation cannot be consumed: {resolution.reason.name}"⟩
    resolution.info
  let db ← insertConfirmationEvent (call.draft safeId fingerprint envelope) db
  return (info, db)

/-- `revoke`, up to the commit of its transaction. -/
def revoke (call : RevokeCall) (db : Database) : Result Database := do
  requireUserManagement call.actorType call.originClass
  requireWritable call.readOnly
  let safeId ← validateToken "confirmation ID" call.confirmationId maxConfirmationIdLength
  let safeOperation ← validateToken "operation ID" call.operationId 200
  let found ← events db safeId
  ensure (found.isEmpty = false) (.noRecord safeId)
  ensure ((found.any (·.action = revokeAction)) = false)
    ⟨.confirmationUnavailable, "confirmation is already revoked"⟩
  insertConfirmationEvent {
    confirmationId := safeId, operationId := safeOperation, action := revokeAction,
    result := .success, actorType := .user, metadata := [("confirmation_id", .str safeId)],
    eventId := call.eventId, occurredAt := call.occurredAt } db

/-- `resolve`. -/
def resolve (call : ResolveCall) (db : Database) : Result ConfirmationResolution := do
  let envelope ← validateRequestEnvelope call.request
  let fingerprint ← confirmationFingerprint envelope call.registryFingerprint
    call.normalizedDestination call.credentialClass
  match call.confirmationId with
  | none => return ⟨none, .missing, fingerprint, none⟩
  | some confirmationId => do
    let safeId ← validateToken "confirmation ID" confirmationId maxConfirmationIdLength
    let resolved := do
      let found ← events db safeId
      let now ← safeNow call.clock
      resolutionFromEvents safeId found envelope.operationId fingerprint now
    match resolved with
    | .ok resolution => return resolution
    | .error e =>
      if e.isA [.confirmationCorrupt] then return ⟨safeId, .corrupt, fingerprint, none⟩
      else .error e

variable [ClockLibrary]

/-- `issue`, up to its transaction: the draft of the event it appends. -/
def IssueCall.prepare (call : IssueCall) : Result EventDraft := do
  requireUserManagement call.actorType call.originClass
  requireWritable call.readOnly
  let (envelope, definition, destination) ← validatedHighRiskBinding call.request call.registry
  let preview ← validatePreview call.preview
  let ttl ← validateTtl call.ttlSeconds
  let now ← safeNow call.clock
  let expiresAt ← orFail ⟨.overflow, "date value out of range"⟩ (ClockLibrary.addSeconds now ttl)
  let fingerprint ← confirmationFingerprint envelope call.registry.fingerprint destination
    preview.credentialClass
  let drawnId ← orFail (invalid "confirmation ID generation failed") call.drawnId
  let confirmationId ← catching (fun _ => true) (invalid "confirmation ID generation failed")
    (validateToken "confirmation ID" drawnId maxConfirmationIdLength)
  let metadata ← confirmationMetadata confirmationId envelope definition fingerprint
    call.registry.fingerprint destination call.decision (ClockLibrary.formatUtc expiresAt) preview
  return {
    confirmationId, operationId := envelope.operationId, action := issueAction,
    result := match call.decision with
      | .approved => .success
      | .denied => .denied
    actorType := .user, metadata, eventId := call.eventId, occurredAt := call.occurredAt }

/-- `issue`, up to the commit of its transaction. What it does after that is a `resolve`. -/
def issue (call : IssueCall) (db : Database) : Result Database := do
  let draft ← call.prepare
  appendUniqueIssue draft db

/-! ## Runs -/

inductive Call where
  | issue (call : IssueCall)
  | resolve (call : ResolveCall)
  | consume (call : ConsumeCall)
  | revoke (call : RevokeCall)

/-- What a call makes of the database. -/
def Call.run : Call → Database → Result Database
  | .issue call, db => Confirmation.issue call db
  | .resolve call, db => (Confirmation.resolve call db).map fun _ => db
  | .consume call, db => (Confirmation.consume call db).map Prod.snd
  | .revoke call, db => Confirmation.revoke call db

/-- What happens in a step of a run. -/
inductive Event (ι : Type) where
  /-- a call of the client is committed -/
  | committed (client : ι) (call : Call)
  /-- a call of the client raises, for whatever reason -/
  | raised (client : ι) (call : Call)
  /-- something else writes to the database -/
  | other

/-- One step of any of the clients, or of the rest of the program. -/
inductive Step {ι : Type} : Database → Event ι → Database → Prop
  | committed {db db' : Database} (client : ι) {call : Call} (h : call.run db = .ok db') :
      Step db (.committed client call) db'
  | raised (db : Database) (client : ι) (call : Call) : Step db (.raised client call) db
  | other {db db' : Database} (h : ledger db' = ledger db) : Step db .other db'

end

end DollState.Confirmation
