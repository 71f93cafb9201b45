import DollState.Audit.Events
import DollState.State.Repository

/-!
# Appending an audit event

`AuditService.append`: the values of an event are validated and its free text is redacted, then one
transaction inserts it. The log grows by that event and the records stay as they are.
-/

namespace DollState.Audit

open StateLib

section

variable [AuditRules] [FloatLibrary]

/-- `_safe_error_class`, of the name of an error's class. -/
def safeErrorClass (name : Text) : Text :=
  if name.length ≤ maxErrorClassLength ∧ isToken name = true then name else "Error".toList

/-- The row that `append` inserts. -/
def newEvent (env : Surroundings) (args : AuditAppendArgs) : Result AuditEvent := do
  let action ← validateToken "action" args.action maxActionLength
  let operationId ← validateToken "operation ID"
    (match args.operationId with
      | none | some [] => uuidText env.operationUuid
      | some text => text) maxIdentifierLength
  let actorId ← validateOptionalIdentifier "actor ID" args.actorId
  let targetType ←
    optionally (fun text => validateToken "target type" text maxActionLength) args.targetType
  let targetId ← validateOptionalIdentifier "target ID" args.targetId
  let summary ← sanitizeSummary args.summary
  let metadata ← serializeMetadataForWrite args.metadata
  return {
    eventId := env.eventId, operationId, occurredAt := env.auditNow, actorType := args.actorType
    actorId, action, targetType, targetId, result := args.result, summary
    errorClass := args.errorClass.map safeErrorClass, metadata }

/-- `append`. -/
def append (env : Surroundings) (args : AuditAppendArgs) (db : Database) : Result Database := do
  requireWrite env
  ensure (2 ≤ db.schemaVersion) ⟨.audit,
    "audit schema is unavailable; open the state repository in writable mode to migrate"⟩
  let event ← newEvent env args
  auditAppendTransaction event db

omit [FloatLibrary] in
theorem strip_of_validateToken {name : String} {value token : Text} {maximum : Nat}
    (h : validateToken name value maximum = .ok token) : token = strip value := by
  simp only [validateToken, bind_eq_ok, pure_eq_ok] at h
  obtain ⟨_, -, _, -, _, -, _, -, rfl⟩ := h
  rfl

/-- What an event says of the call that appends it. -/
theorem newEvent_spec {env : Surroundings} {args : AuditAppendArgs} {event : AuditEvent}
    (h : newEvent env args = .ok event) : event.action = strip args.action ∧
      ∀ text ∈ args.operationId, text ≠ [] → event.operationId = strip text := by
  obtain ⟨action, haction, h⟩ := bind_eq_ok.1 h
  obtain ⟨operationId, hoperation, h⟩ := bind_eq_ok.1 h
  obtain ⟨_, -, h⟩ := bind_eq_ok.1 h
  obtain ⟨_, -, h⟩ := bind_eq_ok.1 h
  obtain ⟨_, -, h⟩ := bind_eq_ok.1 h
  obtain ⟨_, -, h⟩ := bind_eq_ok.1 h
  obtain ⟨_, -, h⟩ := bind_eq_ok.1 h
  obtain rfl := pure_eq_ok.1 h
  refine ⟨strip_of_validateToken haction, fun text htext hne => ?_⟩
  rw [Option.mem_def] at htext
  rw [htext] at hoperation
  cases text with
  | nil => exact absurd rfl hne
  | cons c cs => exact strip_of_validateToken hoperation

/-- An appended event is the last of the log, and the records stay. -/
theorem append_eq_ok {env : Surroundings} {args : AuditAppendArgs} {db db' : Database}
    (h : append env args db = .ok db') : ∃ event, newEvent env args = .ok event ∧
      db'.auditEvents.rows = db.auditEvents.rows ++ [event] ∧
      ∀ id, db'.find? id = db.find? id := by
  obtain ⟨-, h⟩ := check_bind_eq_ok.1 h
  obtain ⟨-, h⟩ := check_bind_eq_ok.1 h
  obtain ⟨event, hevent, h⟩ := bind_eq_ok.1 h
  obtain ⟨db₁, h₁, h⟩ := bind_eq_ok.1 h
  obtain rfl := pure_eq_ok.1 h
  obtain ⟨events, hevents, rfl⟩ := Database.insertAuditEvent_eq_some.1 (orFail_eq_ok.1 h₁)
  exact ⟨event, hevent, Table.rows_insert? hevents, fun _ => rfl⟩

end

end DollState.Audit
