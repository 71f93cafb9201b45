import DollState.Library.Clients
import DollState.Domain.ProjectWrites
import DollState.Domain.WorkItemWrites
import DollState.Domain.CheckpointWrites

/-!
# Clients of one database

Every client has a connection of its own to the database. It prepares a call with separate reads and
then commits one transaction. What a call is going to write, it has computed from a row that one of
its reads has returned (`StateCall.prepare_base`).
-/

namespace DollState

open StateLib

/-- The calls that write to the records, and the audit log's. -/
inductive StateCall where
  | createRecord (args : CreateRecordArgs)
  | updateRecord (args : UpdateRecordArgs)
  | appendAudit (args : AuditAppendArgs)
  | project (call : Project.Call)
  | workItem (call : WorkItem.Call)
  | checkpoint (call : Checkpoint.Call)

section

variable [PythonLibrary] [ModuleRules]

/-- A call, in its surroundings, up to its transaction. -/
def StateCall.prepare : Surroundings × StateCall → Reader Write
  | (env, .createRecord args) => do return .insert (← prepareCreateRecord env args)
  | (env, .updateRecord args) => do return .set (← prepareUpdateRecord env args)
  | (env, .appendAudit args) => do return .append (← prepareAuditAppend env args)
  | (env, .project call) => call.prepare env
  | (env, .workItem call) => call.prepare env
  | (env, .checkpoint call) => call.prepare env

/-- The database and its clients. -/
abbrev StateWorld (ι : Type) :=
  Clients.World Database ι StateQuery StateQuery.Answer DollError Write (Surroundings × StateCall)

abbrev StateAction := Clients.Action Write (Surroundings × StateCall)

abbrev StateStep {ι : Type} [DecidableEq ι] : StateWorld ι → ι × StateAction → StateWorld ι → Prop :=
  Clients.Step Database.answer StateCall.prepare Write.commit

abbrev StateTrace (ι : Type) := List (Taken (StateWorld ι) (ι × StateAction))

/-- A client at rest can prepare a call without anything happening in between. -/
theorem StateStep.exists_prepared {ι : Type} [DecidableEq ι] (W : StateWorld ι) (i : ι)
    {call : Surroundings × StateCall} {r : Result Write} (h : W.client i = .idle)
    (hr : (StateCall.prepare call).on W.shared = r) :
    ∃ tr, Run StateStep W tr (W.goto i (.busy call (.done r))) :=
  Clients.exists_prepared Database.answer StateCall.prepare Write.commit h hr

/-! ## The row a change starts from -/

variable {ok : (q : StateQuery) → q.Answer → Prop}

/-- An update is computed from a row that has been read. -/
def BaseSeen (ok : (q : StateQuery) → q.Answer → Prop) (w : Write) : Prop :=
  ∀ u, w.update? = some u → Seen ok u.base

theorem prepareUpdateRecord_all (env : Surroundings) (args : UpdateRecordArgs) :
    (prepareUpdateRecord env args).All ok fun u =>
      Seen ok u.base ∧ u.base.revision = u.expectedRevision := by
  refine .after _ fun _ => .bind (getRecordText_all _) fun current hcurrent => ?_
  refine .bind (.lift fun _ h => ensure_eq_ok.1 h) fun _ hrevision => ?_
  exact .after _ fun _ => .after _ fun _ => .pure ⟨hcurrent, hrevision⟩

theorem Project.Prepared.baseSeen {call : Project.Call} {w : Write}
    (h : Project.Prepared ok call w) : BaseSeen ok w := by
  cases h with
  | created => exact fun _ hu => nomatch hu
  | rewritten _ _ hcurrent =>
    rintro _ ⟨⟩
    obtain ⟨id, -, hseen⟩ := hcurrent.seen
    exact ⟨id, hseen⟩
  | archived hcurrent =>
    rintro _ ⟨⟩
    obtain ⟨id, -, hseen⟩ := hcurrent.seen
    exact ⟨id, hseen⟩

theorem WorkItem.Prepared.baseSeen {call : WorkItem.Call} {w : Write}
    (h : WorkItem.Prepared ok call w) : BaseSeen ok w := by
  cases h with
  | created => exact fun _ hu => nomatch hu
  | rewritten _ _ hcurrent =>
    rintro _ ⟨⟩
    obtain ⟨id, -, hseen⟩ := hcurrent.seen
    exact ⟨id, hseen⟩
  | archived hcurrent =>
    rintro _ ⟨⟩
    obtain ⟨id, -, hseen⟩ := hcurrent.seen
    exact ⟨id, hseen⟩

theorem Checkpoint.Prepared.baseSeen {call : Checkpoint.Call} {w : Write}
    (h : Checkpoint.Prepared ok call w) : BaseSeen ok w := by
  cases h with
  | proposed => exact fun _ hu => nomatch hu
  | confirmed hcurrent =>
    rintro _ ⟨⟩
    obtain ⟨id, -, hseen⟩ := hcurrent.seen
    exact ⟨id, hseen⟩
  | superseded hcurrent =>
    rintro _ ⟨⟩
    obtain ⟨id, -, hseen⟩ := hcurrent.seen
    exact ⟨id, hseen⟩
  | archived hcurrent =>
    rintro _ ⟨⟩
    obtain ⟨id, -, hseen⟩ := hcurrent.seen
    exact ⟨id, hseen⟩

/-- What a call updates, it has computed from a row that it has read. -/
theorem StateCall.prepare_base (env : Surroundings) (call : StateCall) :
    (StateCall.prepare (env, call)).All ok (BaseSeen ok) := by
  cases call with
  | createRecord args => exact .after _ fun _ => .pure fun _ hu => nomatch hu
  | updateRecord args =>
    refine .bind (prepareUpdateRecord_all env args) fun u hu => .pure ?_
    rintro _ ⟨⟩
    exact hu.1
  | appendAudit args => exact .after _ fun _ => .pure fun _ hu => nomatch hu
  | project call => exact .mono (fun _ _ h => h) (fun _ h => h.baseSeen) (call.prepare_all env)
  | workItem call => exact .mono (fun _ _ h => h) (fun _ h => h.baseSeen) (call.prepare_all env)
  | checkpoint call => exact .mono (fun _ _ h => h) (fun _ h => h.baseSeen) (call.prepare_all env)

end

end DollState
