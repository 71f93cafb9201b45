import DollState.Settings.Records
import DollState.State.Repository

/-!
# The settings services

The calls of `PreferenceService`, `PolicyService` and `PermissionService`. A change reads its record
twice before its transaction, once for the content and once for the row's identifier; the transaction
compares only the revision it finds with the one the caller expects, and writes the content and the
status that were read before.
-/

namespace DollState.Settings

open StateLib

/-! ## Transactions -/

/-- The surroundings of a call, and the clock when it takes a decision. -/
structure Context extends Surroundings where
  decidedAt : Int

/-- What a call ends with. -/
inductive Write where
  /-- the transaction of `_create_typed_record` -/
  | create (row : RecordEnvelope) (identity : String × Text) (draft : AuditDraft)
  /-- the transaction of `_update_typed_record` -/
  | update (u : RecordUpdate) (draft : AuditDraft)
  /-- of a call that only reads -/
  | nothing

/-- The order of `ORDER BY created_at DESC, id DESC`. -/
def newer (r r' : RecordEnvelope) : Prop :=
  r'.createdAt < r.createdAt ∨ r'.createdAt = r.createdAt ∧ r'.id.toNat ≤ r.id.toNat

instance : DecidableRel newer := fun r r' => by unfold newer; infer_instance

/-- `_list_all_typed_records` without the archived ones, inside a transaction. -/
def activeRecords (db : Database) (recordType : String) : List RecordEnvelope :=
  (db.records.rows.filter fun r => r.recordType = recordType ∧ r.status = .active).insertionSort newer

/-- The text in a metadata field. -/
def textOf : Json → Option Text
  | .str s => some s
  | _ => none

section

variable [PythonLibrary] [CaseLibrary] [FloatLibrary]

/-- What `_assert_unique_active_identity` compares. -/
def actualIdentity (record : RecordEnvelope) (field : String) : Result (Option Text) :=
  if record.recordType = "permission" then do
    let permission ← permissionFromRecord record
    return some permission.content.identity
  else return textOf (record.metadata.get field)

/-- `_assert_unique_active_identity`. -/
def assertUniqueActiveIdentity (db : Database) (recordType : String) (identity : String × Text) :
    Result Unit :=
  forEach (fun record => do
    let actual ← actualIdentity record identity.1
    ensure (actual ≠ some identity.2)
      ⟨.duplicateSetting, s!"active {recordType} identity already exists"⟩)
    (activeRecords db recordType)

variable [ModuleRules]

/-- The transaction of `_create_typed_record`. -/
def createTypedTransaction (row : RecordEnvelope) (identity : String × Text) (draft : AuditDraft)
    (db : Database) : Result Database := do
  let failed : DollError := ⟨.stateCorrupt, "settings record could not be created"⟩
  assertUniqueActiveIdentity db row.recordType identity
  let db ← orFail failed (db.insertRecord row)
  let db ← insertAudit draft row.id failed db
  return db.commitStateRevision

omit [PythonLibrary] [CaseLibrary] [FloatLibrary] in
/-- The transaction of `_update_typed_record`. -/
def updateTypedTransaction (u : RecordUpdate) (draft : AuditDraft) (db : Database) :
    Result Database := do
  let refreshed ← db.getRecord u.base.id
  let found := refreshed.revision
  let expected := u.expectedRevision
  ensure (found = expected)
    ⟨.staleRevision, s!"record revision is {found}, expected {expected}"⟩
  let db ← orFail ⟨.staleRevision, "record revision changed during update"⟩ <|
    db.updateWhere u.base.id (fun row => row.revision = u.expectedRevision) u.apply
  let db ← insertAudit draft u.base.id ⟨.stateCorrupt, "settings record could not be updated"⟩ db
  return db.commitStateRevision

/-- Run the transaction on the database it finds. -/
def Write.commit : Write → Database → Result Database
  | .create row identity draft => createTypedTransaction row identity draft
  | .update u draft => updateTypedTransaction u draft
  | .nothing => .ok

end

/-! ## The calls -/

inductive PermissionMutationActor where
  | user | model | runtime | capability | system
deriving DecidableEq, Repr

/-- The actor as the audit log names it. -/
def PermissionMutationActor.audit : PermissionMutationActor → AuditActor
  | .user => .user
  | .model => .model
  | .runtime => .runtime
  | .capability => .capability
  | .system => .system

/-- The arguments common to the calls. -/
structure Caller where
  operationId : Option Text
  actorType : PermissionMutationActor

/-- A scope as a caller gives it, a dictionary. -/
structure Scope where
  entries : Metadata
  distinct : (Json.obj entries).DistinctKeys

section

variable [PythonLibrary] [CaseLibrary] [FloatLibrary] [ModuleRules]

def auditDraft (ctx : Context) (safeOperationId : Text) (actorType : AuditActor) (action : String)
    (targetType : String) (metadata : Metadata) : AuditDraft where
  eventId := ctx.eventId
  occurredAt := ctx.auditNow
  operationId := .ok safeOperationId
  actorType := actorType
  action := action
  targetType := targetType
  summary := s!"Changed {targetType} record"
  metadata := .ok metadata

/-- `_create_typed_record`, up to its transaction. -/
def createTypedRecord (ctx : Context) (recordType : String) (title : Text) (metadata : Metadata)
    (sensitivity : RecordSensitivity) (operation : Option Text) (action : String)
    (identity : String × Text) (auditMetadata : Metadata) : Result Write := do
  requireWrite ctx.toSurroundings
  validateRecordFields recordType 1
  let safeOperationId ← operationId ctx.toSurroundings operation
  return .create
    { id := ctx.newId, recordType := recordType, schemaVersion := 1, createdAt := ctx.now,
      updatedAt := ctx.now, revision := 1, status := .active, provenance := .userCreated,
      sensitivity := sensitivity, title := some title, metadata := metadata }
    identity (auditDraft ctx safeOperationId .user action recordType auditMetadata)

/-- `_update_typed_record`, up to its transaction. -/
def updateTypedRecord (ctx : Context) (currentRecord : RecordEnvelope) (expectedRevision : Int)
    (metadata : Metadata) (status : RecordStatus) (operation : Option Text) (action : String)
    (auditMetadata : Metadata) (auditActorType : AuditActor) : Result Write := do
  requireWrite ctx.toSurroundings
  let safeOperationId ← operationId ctx.toSurroundings operation
  return .update
    { base := currentRecord, expectedRevision := expectedRevision, schemaVersion := none,
      status := status, provenance := none, title := none, metadata := metadata, now := ctx.now }
    (auditDraft ctx safeOperationId auditActorType action currentRecord.recordType auditMetadata)

/-- `_require_record_type`. -/
def requireRecordType (recordId : Text) (expectedType : String) : Reader RecordEnvelope := do
  let record ← getRecordText recordId
  ensure (record.recordType = expectedType) (DollError.noRecord recordId)
  return record

def requireUserManagement (actorType : PermissionMutationActor) : Result Unit :=
  ensure (actorType = .user) ⟨.forbiddenPermissionMutation,
    "permission and policy management requires an explicit user-controlled actor"⟩

def requireActiveRecord (status : RecordStatus) (recordType : String) : Result Unit :=
  ensure (status = .active) (invalid s!"archived {recordType} record cannot be changed")

/-! ### `PreferenceService` -/

namespace Preference

def get (recordId : Text) : Reader PreferenceInfo := do
  preferenceFromRecord (← requireRecordType recordId "preference")

def create (ctx : Context) (key : Text) (value : Json) (description : Option Text)
    (sensitivity : RecordSensitivity) (caller : Caller) : Reader Write := do
  requireUserManagement caller.actorType
  let key ← validateKey "preference key" key
  let value ← validateJsonValue value maxJsonBytes
  let description ← validateOptionalText "preference description" description maxDescriptionLength
  createTypedRecord ctx "preference" key
    (PreferenceContent.metadata { key := key, value := value, description := description })
    sensitivity caller.operationId "preference.create" ("preference_key", key)
    [("preference_key", .str key)]

def update (ctx : Context) (recordId : Text) (expectedRevision : Int) (value : Json)
    (description : Option Text) (caller : Caller) : Reader Write := do
  requireUserManagement caller.actorType
  let current ← get recordId
  requireActiveRecord current.status "preference"
  let value ← validateJsonValue value maxJsonBytes
  let description ← validateOptionalText "preference description" description maxDescriptionLength
  let currentRecord ← getRecordText recordId
  updateTypedRecord ctx currentRecord expectedRevision
    (PreferenceContent.metadata
      { key := current.content.key, value := value, description := description })
    current.status caller.operationId "preference.update"
    [("preference_key", .str current.content.key)] .user

def archive (ctx : Context) (recordId : Text) (expectedRevision : Int) (caller : Caller) :
    Reader Write := do
  requireUserManagement caller.actorType
  let current ← get recordId
  requireActiveRecord current.status "preference"
  let currentRecord ← getRecordText recordId
  updateTypedRecord ctx currentRecord expectedRevision current.content.metadata .archived
    caller.operationId "preference.archive" [("preference_key", .str current.content.key)] .user

end Preference

/-! ### `PolicyService` -/

namespace Policy

def get (recordId : Text) : Reader PolicyInfo := do
  policyFromRecord (← requireRecordType recordId "policy")

def create (ctx : Context) (key rule : Text) (enabled : Bool) (sensitivity : RecordSensitivity)
    (caller : Caller) : Reader Write := do
  requireUserManagement caller.actorType
  let key ← validateKey "policy key" key
  let rule ← validateText "policy rule" rule maxPolicyRuleLength
  createTypedRecord ctx "policy" key
    (PolicyContent.metadata { key := key, rule := rule, enabled := enabled }) sensitivity
    caller.operationId "policy.create" ("policy_key", key)
    [("policy_key", .str key), ("enabled", .bool enabled)]

def update (ctx : Context) (recordId : Text) (expectedRevision : Int) (rule : Text) (enabled : Bool)
    (caller : Caller) : Reader Write := do
  requireUserManagement caller.actorType
  let current ← get recordId
  requireActiveRecord current.status "policy"
  let rule ← validateText "policy rule" rule maxPolicyRuleLength
  let currentRecord ← getRecordText recordId
  updateTypedRecord ctx currentRecord expectedRevision
    (PolicyContent.metadata { key := current.content.key, rule := rule, enabled := enabled })
    current.status caller.operationId "policy.update"
    [("policy_key", .str current.content.key), ("enabled", .bool enabled)] .user

def archive (ctx : Context) (recordId : Text) (expectedRevision : Int) (caller : Caller) :
    Reader Write := do
  requireUserManagement caller.actorType
  let current ← get recordId
  requireActiveRecord current.status "policy"
  let currentRecord ← getRecordText recordId
  updateTypedRecord ctx currentRecord expectedRevision current.content.metadata .archived
    caller.operationId "policy.archive" [("policy_key", .str current.content.key)] .user

end Policy

/-! ### `PermissionService` -/

namespace Permission

def get (recordId : Text) : Reader PermissionInfo := do
  permissionFromRecord (← requireRecordType recordId "permission")

def create (ctx : Context) (capabilityId : Text) (scope : Scope) (mode : Text)
    (expiresAt : Option Text) (approvalSource : Text) (sensitivity : RecordSensitivity)
    (caller : Caller) : Reader Write := do
  requireUserManagement caller.actorType
  let capabilityId ← validateKey "capability ID" capabilityId
  let scope ← validateScope scope.entries
  let mode ← validatePermissionMode mode scope
  let expiresAt ← validateOptionalUtc "permission expiration" expiresAt
  let approvalSource ← validateApprovalSource approvalSource
  createTypedRecord ctx "permission" capabilityId
    (PermissionContent.metadata
      { capabilityId := capabilityId, scope := scope, mode := mode, expiresAt := expiresAt,
        approvalSource := approvalSource, lastChangedAt := ctx.calledAt, lastUsedAt := none,
        remainingUses := mode.uses })
    sensitivity caller.operationId "permission.create"
    ("permission_identity", permissionIdentity capabilityId scope)
    [("capability_id", .str capabilityId), ("mode", .str mode.text),
      ("scope_kind", Metadata.get scope "kind"), ("approval_source", .str approvalSource)]

def update (ctx : Context) (recordId : Text) (expectedRevision : Int) (mode : Text)
    (expiresAt : Option Text) (approvalSource : Text) (caller : Caller) : Reader Write := do
  requireUserManagement caller.actorType
  let current ← get recordId
  requireActiveRecord current.status "permission"
  let mode ← validatePermissionMode mode current.content.scope
  let expiresAt ← validateOptionalUtc "permission expiration" expiresAt
  let approvalSource ← validateApprovalSource approvalSource
  let currentRecord ← getRecordText recordId
  updateTypedRecord ctx currentRecord expectedRevision
    (PermissionContent.metadata
      { capabilityId := current.content.capabilityId, scope := current.content.scope, mode := mode,
        expiresAt := expiresAt, approvalSource := approvalSource, lastChangedAt := ctx.calledAt,
        lastUsedAt := none, remainingUses := mode.uses })
    current.status caller.operationId "permission.update"
    [("capability_id", .str current.content.capabilityId),
      ("previous_mode", .str current.content.mode.text), ("mode", .str mode.text),
      ("scope_kind", Metadata.get current.content.scope "kind"),
      ("approval_source", .str approvalSource)] .user

def archive (ctx : Context) (recordId : Text) (expectedRevision : Int) (caller : Caller) :
    Reader Write := do
  requireUserManagement caller.actorType
  let current ← get recordId
  requireActiveRecord current.status "permission"
  let currentRecord ← getRecordText recordId
  updateTypedRecord ctx currentRecord expectedRevision current.content.metadata .archived
    caller.operationId "permission.archive"
    [("capability_id", .str current.content.capabilityId), ("mode", .str current.content.mode.text),
      ("scope_kind", Metadata.get current.content.scope "kind")] .user

/-- The reason of a decision, as a message shows it. -/
def reasonText : DecisionReason → String
  | .active => "active"
  | .expired => "expired"
  | .consumed => "consumed"
  | .archived => "archived"
  | .noRecord => "no_record"

/-- A permission after its one use. -/
def consumed (ctx : Context) (current : PermissionContent) : PermissionContent where
  capabilityId := current.capabilityId
  scope := current.scope
  mode := .denied
  expiresAt := current.expiresAt
  approvalSource := current.approvalSource
  lastChangedAt := ctx.calledAt
  lastUsedAt := some ctx.calledAt
  remainingUses := some 0

def consumeAllowOnce (ctx : Context) (recordId : Text) (expectedRevision : Int) (caller : Caller) :
    Reader Write := do
  ensure (caller.actorType = .capability ∨ caller.actorType = .system)
    (DollError.mk .forbiddenPermissionMutation
      "only the capability broker or core system may consume allow-once permission")
  let current ← get recordId
  let decision := decisionFromPermission ctx.decidedAt current
  let reason := reasonText decision.reason
  ensure (decision.effectiveMode = .allowOnce)
    (DollError.mk .permissionDenied s!"allow-once permission is unavailable: {reason}")
  let currentRecord ← getRecordText recordId
  updateTypedRecord ctx currentRecord expectedRevision (consumed ctx current.content).metadata
    current.status caller.operationId "permission.consume_once"
    [("capability_id", .str current.content.capabilityId),
      ("previous_mode", .str "allow_once".toList), ("mode", .str "denied".toList),
      ("scope_kind", Metadata.get current.content.scope "kind")] caller.actorType.audit

/-- The loop of `resolve` takes this permission. -/
def answers (capabilityId : Text) (scope : Metadata) (permission : PermissionInfo) : Bool :=
  permission.content.capabilityId = capabilityId &&
    Json.eq (.obj permission.content.scope) (.obj scope)

def resolve (ctx : Context) (capabilityId : Text) (scope : Scope) : Reader PermissionDecision := do
  let capabilityId ← validateKey "capability ID" capabilityId
  let scope ← validateScope scope.entries
  let ids ← activeIds "permission"
  let records ← ReadProgram.collect getRecord ids
  let permissions ← (records.mapM permissionFromRecord : Result (List PermissionInfo))
  match permissions.filter (answers capabilityId scope) with
  | [] => return { recordId := none, capabilityId := capabilityId, scope := scope,
                   effectiveMode := .denied, reason := .noRecord }
  | [permission] => return decisionFromPermission ctx.decidedAt permission
  | _ => ReadProgram.done (.error
      ⟨.stateCorrupt, "multiple active permission records share one identity"⟩)

end Permission

/-- A call of one of the services. -/
inductive Call where
  | createPreference (key : Text) (value : Json) (description : Option Text)
      (sensitivity : RecordSensitivity) (caller : Caller)
  | updatePreference (recordId : Text) (expectedRevision : Int) (value : Json)
      (description : Option Text) (caller : Caller)
  | archivePreference (recordId : Text) (expectedRevision : Int) (caller : Caller)
  | createPolicy (key rule : Text) (enabled : Bool) (sensitivity : RecordSensitivity)
      (caller : Caller)
  | updatePolicy (recordId : Text) (expectedRevision : Int) (rule : Text) (enabled : Bool)
      (caller : Caller)
  | archivePolicy (recordId : Text) (expectedRevision : Int) (caller : Caller)
  | createPermission (capabilityId : Text) (scope : Scope) (mode : Text) (expiresAt : Option Text)
      (approvalSource : Text) (sensitivity : RecordSensitivity) (caller : Caller)
  | updatePermission (recordId : Text) (expectedRevision : Int) (mode : Text)
      (expiresAt : Option Text) (approvalSource : Text) (caller : Caller)
  | archivePermission (recordId : Text) (expectedRevision : Int) (caller : Caller)
  | consumeAllowOnce (recordId : Text) (expectedRevision : Int) (caller : Caller)
  | resolve (capabilityId : Text) (scope : Scope)

/-- The call up to its transaction. -/
def Call.prepare : Context × Call → Reader Write
  | (ctx, .createPreference key value description sensitivity caller) =>
    Preference.create ctx key value description sensitivity caller
  | (ctx, .updatePreference recordId expectedRevision value description caller) =>
    Preference.update ctx recordId expectedRevision value description caller
  | (ctx, .archivePreference recordId expectedRevision caller) =>
    Preference.archive ctx recordId expectedRevision caller
  | (ctx, .createPolicy key rule enabled sensitivity caller) =>
    Policy.create ctx key rule enabled sensitivity caller
  | (ctx, .updatePolicy recordId expectedRevision rule enabled caller) =>
    Policy.update ctx recordId expectedRevision rule enabled caller
  | (ctx, .archivePolicy recordId expectedRevision caller) =>
    Policy.archive ctx recordId expectedRevision caller
  | (ctx, .createPermission capabilityId scope mode expiresAt approvalSource sensitivity caller) =>
    Permission.create ctx capabilityId scope mode expiresAt approvalSource sensitivity caller
  | (ctx, .updatePermission recordId expectedRevision mode expiresAt approvalSource caller) =>
    Permission.update ctx recordId expectedRevision mode expiresAt approvalSource caller
  | (ctx, .archivePermission recordId expectedRevision caller) =>
    Permission.archive ctx recordId expectedRevision caller
  | (ctx, .consumeAllowOnce recordId expectedRevision caller) =>
    Permission.consumeAllowOnce ctx recordId expectedRevision caller
  | (ctx, .resolve capabilityId scope) => do
    let _ ← Permission.resolve ctx capabilityId scope
    return .nothing

end

/-- The record a call changes, and the revision its caller expects. -/
def Call.target? : Call → Option (Text × Int)
  | .updatePreference recordId expectedRevision .. => some (recordId, expectedRevision)
  | .archivePreference recordId expectedRevision _ => some (recordId, expectedRevision)
  | .updatePolicy recordId expectedRevision .. => some (recordId, expectedRevision)
  | .archivePolicy recordId expectedRevision _ => some (recordId, expectedRevision)
  | .updatePermission recordId expectedRevision .. => some (recordId, expectedRevision)
  | .archivePermission recordId expectedRevision _ => some (recordId, expectedRevision)
  | .consumeAllowOnce recordId expectedRevision _ => some (recordId, expectedRevision)
  | _ => none

/-- The call consumes the one use of the permission. -/
def Call.Consumes (id : RecordId) : Call → Prop
  | .consumeAllowOnce recordId .. => recordId = uuidText id
  | _ => False

/-- The call sets the permission to `allow_once`. -/
def Call.SetsAllowOnce (id : RecordId) : Call → Prop
  | .updatePermission recordId _ mode .. =>
    recordId = uuidText id ∧ mode = PermissionMode.allowOnce.text
  | _ => False

end DollState.Settings
