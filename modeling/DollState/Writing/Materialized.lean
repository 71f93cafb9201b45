import DollState.Writing.Context

/-!
# Which plans are recorded wholly or not at all

The origins of a plan are created one transaction at a time, so that a text the writer refuses leaves the origins
of the texts before it. It leaves nothing exactly if it is the first text that is refused. The texts that are
accepted are stored line by line, and are stored exactly if they are their own normal form.
-/

namespace DollState.Writing

open StateLib Instruction
open Capability (DigestLibrary)
open Confirmation (LawfulDigest)

section

variable [PythonLibrary] [CaseLibrary] [UtcLibrary] [Audit.AuditRules] [ModuleRules] [DigestLibrary]

/-! ## What is claimed -/

/-- The record is an instruction origin with this text, and with the hash of the snapshot's text. -/
def Stores (db : Database) (text : Text) (id : RecordId) (snapshot : Snapshot) : Prop :=
  ∃ record, db.find? id = some record ∧ record.recordType = "instruction_origin" ∧
    record.metadata.get "content" = .str text ∧
    record.metadata.get "content_hash" = .str (sha256Text snapshot.content)

/-- Each snapshot has a record of its own that stores exactly its text; or nothing has been recorded, and the
operation can be retried. -/
def WhollyOrNotAtAll (operation : Text) (plan : Plan) (db : Database) :
    Except DollError ContextResult × Database → Prop
  | (.ok result, db') => result.instructionIds.Nodup ∧ (∀ id ∈ result.instructionIds, db.find? id = none) ∧
      List.Forall₂ (fun id snapshot => Stores db' snapshot.content id snapshot) result.instructionIds plan.snapshots
  | (.error _, db') => db'.records = db.records ∧ requireUnused operation plan db' = .ok ()

/-- The writer of instruction origins accepts the snapshot. -/
def Recordable (env : Surroundings) (conversationId operation : Text) (snapshot : Snapshot) : Prop :=
  ∃ source, validateSource (contextSource conversationId operation snapshot) = .ok source ∧
    Accepts env (contextTitle snapshot.kind) snapshot.content source
      (some (contextOperationId operation snapshot)) snapshot.sensitivity

/-- The identifiers that `uuid4` draws for so many calls are new, and no two are the same. -/
structure Draws (env : ℕ → Surroundings) (count : ℕ) (db : Database) : Prop where
  fresh : ∀ i < count, Fresh (env i) db
  records : ∀ i < count, ∀ j < count, (env i).newId = (env j).newId → i = j
  events : ∀ i < count, ∀ j < count, (env i).eventId = (env j).eventId → i = j

/-! ## One snapshot -/

variable {conversationId operation : Text} {db db' : Database}

omit [ModuleRules] in
/-- The source of a snapshot refers to no record, and keeps the hash of the text. -/
theorem of_contextSource (hcase : LawfulCase) (hdigest : LawfulDigest) {snapshot : Snapshot}
    {source : InstructionSource (List Transformation)}
    (h : validateSource (contextSource conversationId operation snapshot) = .ok source) :
    Unreferenced source ∧ source.contentHash = some (sha256Text snapshot.content) := by
  obtain ⟨horigin, hhash, hderived⟩ := of_validateSource h
  have hkept : optionally (contentHash .instructionOriginValidation "content hash")
      (some (sha256Text snapshot.content)) = .ok (some (sha256Text snapshot.content)) :=
    bind_eq_ok.2 ⟨_, contentHash_idem hcase (hdigest.isFingerprint snapshot.content), rfl⟩
  refine ⟨⟨?_, ?_⟩, (Except.ok.inj (hkept.symm.trans hhash)).symm⟩
  · rw [horigin]
    exact fun hpolicy => nomatch hpolicy
  · exact (pure_eq_ok.1 hderived).symm

/-- What creating the origin of a snapshot leaves. -/
structure Recorded (env : Surroundings) (snapshot : Snapshot) (db db' : Database) : Prop where
  stores : Stores db' (joinLines snapshot.content) env.newId snapshot
  others : ∀ id, id ≠ env.newId → db'.find? id = db.find? id
  events : ∀ id, id ≠ env.eventId → db'.auditEvents.find? id = db.auditEvents.find? id

theorem createSnapshot_of_recordable (hcase : LawfulCase) (hutc : LawfulUtc) (hdigest : LawfulDigest)
    {env : Surroundings} {snapshot : Snapshot} (hfresh : Fresh env db)
    (h : Recordable env conversationId operation snapshot) :
    ∃ info db', createSnapshot env conversationId operation snapshot db = (.ok info, db') ∧
      info.recordId = env.newId ∧ Recorded env snapshot db db' := by
  obtain ⟨source, hsource, haccepts⟩ := h
  obtain ⟨hunreferenced, hhash⟩ := of_contextSource hcase hdigest hsource
  obtain ⟨db', hcreate, hleaves⟩ := create_of_accepts hcase (validated_of_validateSource hcase hutc hsource)
    hunreferenced hfresh haccepts
  have hrun := (Attempt.ok_bind hsource (fun source => create env (contextTitle snapshot.kind) snapshot.content source
    (some (contextOperationId operation snapshot)) snapshot.sensitivity) db).trans hcreate
  refine ⟨_, db', hrun, rfl, ⟨⟨_, (hleaves.records env.newId).trans (if_pos rfl), rfl, rfl, ?_⟩, ?_, hleaves.events⟩⟩
  · show Json.ofText? source.contentHash = _
    rw [hhash]
    rfl
  · exact fun id hid => (hleaves.records id).trans (if_neg (Ne.symm hid))

theorem createSnapshot_of_not_recordable (db : Database) (hcase : LawfulCase) (hdigest : LawfulDigest) {env : Surroundings}
    {snapshot : Snapshot} (h : ¬ Recordable env conversationId operation snapshot) :
    ∃ e, createSnapshot env conversationId operation snapshot db = (.error e, db) := by
  unfold createSnapshot
  cases hsource : validateSource (contextSource conversationId operation snapshot) with
  | error e => exact ⟨e, Attempt.error_bind rfl _ _⟩
  | ok source =>
    rw [Attempt.ok_bind rfl]
    exact create_of_not_accepts (of_contextSource hcase hdigest hsource).1 fun haccepts => h ⟨source, hsource, haccepts⟩

/-! ## A whole plan -/

omit [PythonLibrary] [CaseLibrary] [UtcLibrary] [Audit.AuditRules] [ModuleRules] in
/-- After the first call the identifiers of the others are still new. -/
theorem Draws.tail {env : ℕ → Surroundings} {count : ℕ} {snapshot : Snapshot} (h : Draws env (count + 1) db)
    (hrecorded : Recorded (env 0) snapshot db db') : Draws (fun n => env (n + 1)) count db' where
  fresh i hi := {
    record := by
      rw [hrecorded.others]
      · exact (h.fresh (i + 1) (by omega)).record
      · intro hid
        have := h.records (i + 1) (by omega) 0 (by omega) hid
        omega
    event := by
      rw [hrecorded.events]
      · exact (h.fresh (i + 1) (by omega)).event
      · intro hid
        have := h.events (i + 1) (by omega) 0 (by omega) hid
        omega }
  records i hi j hj hid := by
    have := h.records (i + 1) (by omega) (j + 1) (by omega) hid
    omega
  events i hi j hj hid := by
    have := h.events (i + 1) (by omega) (j + 1) (by omega) hid
    omega

omit [PythonLibrary] [CaseLibrary] [UtcLibrary] [Audit.AuditRules] [ModuleRules] in
theorem Stores.of_find? {text : Text} {id : RecordId} {snapshot : Snapshot} (h : Stores db text id snapshot)
    (hsame : db'.find? id = db.find? id) : Stores db' text id snapshot := by
  obtain ⟨record, hrecord, hstored⟩ := h
  exact ⟨record, hsame.trans hrecord, hstored⟩

/-- Whatever comes of the calls, a record whose identifier they do not draw stays as it was. -/
theorem find?_createSnapshots (hcase : LawfulCase) (hutc : LawfulUtc) (hdigest : LawfulDigest)
    {env : ℕ → Surroundings} {snapshots : List Snapshot} (hdraws : Draws env snapshots.length db) {id : RecordId}
    (hid : ∀ i < snapshots.length, id ≠ (env i).newId) :
    (createSnapshots env conversationId operation snapshots db).2.find? id = db.find? id := by
  induction snapshots generalizing env db with
  | nil => rfl
  | cons snapshot snapshots ih =>
    unfold createSnapshots
    by_cases hfirst : Recordable (env 0) conversationId operation snapshot
    · obtain ⟨info, db₁, hrun, -, hrecorded⟩ := createSnapshot_of_recordable hcase hutc hdigest
        (hdraws.fresh 0 (Nat.succ_pos _)) hfirst
      rw [Attempt.bind_of_eq hrun, Attempt.bind_pure,
        ih (hdraws.tail hrecorded) fun i hi => hid (i + 1) (Nat.succ_lt_succ hi)]
      exact hrecorded.others id (hid 0 (Nat.succ_pos _))
    · obtain ⟨e, hrun⟩ := createSnapshot_of_not_recordable db hcase hdigest hfirst
      rw [Attempt.bind_of_raised hrun]

/-- When the writer accepts every snapshot, each gets the next identifier and is stored line by line. -/
theorem createSnapshots_of_recordable (hcase : LawfulCase) (hutc : LawfulUtc) (hdigest : LawfulDigest)
    {env : ℕ → Surroundings} {snapshots : List Snapshot} (hdraws : Draws env snapshots.length db)
    (h : ∀ i (hi : i < snapshots.length), Recordable (env i) conversationId operation snapshots[i]) :
    ∃ db', createSnapshots env conversationId operation snapshots db =
        (.ok ((List.range snapshots.length).map fun i => (env i).newId), db') ∧
      ∀ i (hi : i < snapshots.length),
        Stores db' (joinLines snapshots[i].content) (env i).newId snapshots[i] := by
  induction snapshots generalizing env db with
  | nil => exact ⟨db, rfl, fun i hi => absurd hi (Nat.not_lt_zero i)⟩
  | cons snapshot snapshots ih =>
    have hfirst : Recordable (env 0) conversationId operation snapshot := h 0 (Nat.succ_pos _)
    obtain ⟨info, db₁, hrun, hinfo, hrecorded⟩ := createSnapshot_of_recordable hcase hutc hdigest
      (hdraws.fresh 0 (Nat.succ_pos _)) hfirst
    have htail := hdraws.tail hrecorded
    obtain ⟨db', hrest, hstores⟩ := ih htail fun i hi => h (i + 1) (Nat.succ_lt_succ hi)
    have hkept : db'.find? (env 0).newId = db₁.find? (env 0).newId := by
      have hother : (createSnapshots (fun n => env (n + 1)) conversationId operation snapshots db₁).2.find?
          (env 0).newId = db₁.find? (env 0).newId :=
        find?_createSnapshots hcase hutc hdigest htail fun i hi hid =>
          absurd (hdraws.records 0 (Nat.succ_pos _) (i + 1) (Nat.succ_lt_succ hi) hid) (Nat.succ_ne_zero i).symm
      rwa [hrest] at hother
    refine ⟨db', ?_, fun i hi => ?_⟩
    · unfold createSnapshots
      rw [Attempt.bind_of_eq hrun, Attempt.bind_pure, hrest, hinfo, List.length_cons, List.range_succ_eq_map,
        List.map_cons, List.map_map]
      rfl
    · cases i with
      | zero => exact hrecorded.stores.of_find? hkept
      | succ i => exact hstores i (Nat.lt_of_succ_lt_succ hi)

/-- When the writer refuses a snapshot, the calls fail. -/
theorem createSnapshots_of_not_recordable (hcase : LawfulCase) (hutc : LawfulUtc) (hdigest : LawfulDigest)
    {env : ℕ → Surroundings} {snapshots : List Snapshot} (hdraws : Draws env snapshots.length db) {i : ℕ}
    (hi : i < snapshots.length) (h : ¬ Recordable (env i) conversationId operation snapshots[i]) :
    ∃ e, (createSnapshots env conversationId operation snapshots db).1 = .error e := by
  induction snapshots generalizing env db i with
  | nil => exact absurd hi (Nat.not_lt_zero i)
  | cons snapshot snapshots ih =>
    unfold createSnapshots
    by_cases hfirst : Recordable (env 0) conversationId operation snapshot
    · obtain ⟨info, db₁, hrun, -, hrecorded⟩ := createSnapshot_of_recordable hcase hutc hdigest
        (hdraws.fresh 0 (Nat.succ_pos _)) hfirst
      rw [Attempt.bind_of_eq hrun, Attempt.bind_pure]
      cases i with
      | zero => exact absurd hfirst h
      | succ i =>
        obtain ⟨e, he⟩ := ih (hdraws.tail hrecorded) (Nat.lt_of_succ_lt_succ hi) h
        exact ⟨e, by rw [he]; rfl⟩
    · obtain ⟨e, hrun⟩ := createSnapshot_of_not_recordable db hcase hdigest hfirst
      exact ⟨e, by rw [Attempt.bind_of_raised hrun]⟩

/-! ## Wholly or not at all -/

/-- When the writer refuses the first snapshot, nothing has happened. -/
theorem db_of_first_refused (db : Database) (hcase : LawfulCase) (hdigest : LawfulDigest) {env : ℕ → Surroundings}
    {snapshots : List Snapshot} (hpos : 0 < snapshots.length)
    (h : ¬ Recordable (env 0) conversationId operation snapshots[0]) :
    (createSnapshots env conversationId operation snapshots db).2 = db := by
  cases snapshots with
  | nil => exact absurd hpos (Nat.lt_irrefl 0)
  | cons snapshot snapshots =>
    have hrefused : ¬ Recordable (env 0) conversationId operation snapshot := h
    obtain ⟨e, hrun⟩ := createSnapshot_of_not_recordable db hcase hdigest hrefused
    unfold createSnapshots
    rw [Attempt.bind_of_raised hrun]

/-- When the writer accepts the first snapshot, its record stays. -/
theorem find?_of_first_recorded (hcase : LawfulCase) (hutc : LawfulUtc) (hdigest : LawfulDigest)
    {env : ℕ → Surroundings} {snapshots : List Snapshot} (hdraws : Draws env snapshots.length db)
    (hpos : 0 < snapshots.length) (h : Recordable (env 0) conversationId operation snapshots[0]) :
    ((createSnapshots env conversationId operation snapshots db).2.find? (env 0).newId).isSome := by
  cases snapshots with
  | nil => exact absurd hpos (Nat.lt_irrefl 0)
  | cons snapshot snapshots =>
    have hfirst : Recordable (env 0) conversationId operation snapshot := h
    obtain ⟨info, db₁, hrun, -, hrecorded⟩ := createSnapshot_of_recordable hcase hutc hdigest
      (hdraws.fresh 0 hpos) hfirst
    obtain ⟨record, hrecord, -⟩ := hrecorded.stores
    unfold createSnapshots
    rw [Attempt.bind_of_eq hrun, Attempt.bind_pure, find?_createSnapshots hcase hutc hdigest
      (hdraws.tail hrecorded) fun i hi hid =>
        absurd (hdraws.records 0 hpos (i + 1) (Nat.succ_lt_succ hi) hid) (Nat.succ_ne_zero i).symm, hrecord]
    rfl

variable [FloatLibrary]

/-- A plan that has been accepted is recorded wholly or not at all exactly if the writer accepts every text and
each is its own normal form, or if the writer refuses the first. -/
theorem materialize_whollyOrNotAtAll_iff (hcase : LawfulCase) (hutc : LawfulUtc) (hdigest : LawfulDigest)
    {env : ℕ → Surroundings} {p : Plan} {memoryIds projectIds decisionIds : List Text}
    (_hplan : plan db memoryIds projectIds decisionIds = .ok p) (hunused : requireUnused operation p db = .ok ())
    (hdraws : Draws env p.snapshots.length db) :
    WhollyOrNotAtAll operation p db (materialize env conversationId operation p db) ↔
      (∀ i (hi : i < p.snapshots.length), Recordable (env i) conversationId operation p.snapshots[i] ∧
        joinLines p.snapshots[i].content = p.snapshots[i].content) ∨
      ∃ hi : 0 < p.snapshots.length, ¬ Recordable (env 0) conversationId operation p.snapshots[0] := by
  unfold materialize
  rw [Attempt.bind_pure]
  by_cases hall : ∀ i (hi : i < p.snapshots.length), Recordable (env i) conversationId operation p.snapshots[i]
  · obtain ⟨db', hrun, hstores⟩ := createSnapshots_of_recordable hcase hutc hdigest hdraws hall
    have hnodup : ((List.range p.snapshots.length).map fun i => (env i).newId).Nodup :=
      List.Nodup.map_on (fun i hi j hj => hdraws.records i (List.mem_range.1 hi) j (List.mem_range.1 hj))
        List.nodup_range
    have hnew : ∀ id ∈ (List.range p.snapshots.length).map fun i => (env i).newId, db.find? id = none := by
      intro id hid
      obtain ⟨i, hi, rfl⟩ := List.mem_map.1 hid
      exact (hdraws.fresh i (List.mem_range.1 hi)).record
    rw [hrun]
    refine ⟨fun h => .inl fun i hi => ⟨hall i hi, ?_⟩, ?_⟩
    · -- the one text that is stored is the normal form, and the one that is claimed is the snapshot's
      obtain ⟨hlength, hexact⟩ := List.forall₂_iff_get.1 h.2.2
      obtain ⟨record, hrecord, -, hcontent, -⟩ := hexact i (by simpa using hi) hi
      obtain ⟨record', hrecord', -, hcontent', -⟩ := hstores i hi
      have hsame : record = record' := by
        rw [List.get_eq_getElem, List.getElem_map, List.getElem_range] at hrecord
        exact Option.some.inj (hrecord.symm.trans hrecord')
      rw [← hsame, hcontent] at hcontent'
      exact (Json.str.inj hcontent').symm
    · rintro (h | ⟨hi, hrefused⟩)
      · refine ⟨hnodup, hnew, List.forall₂_iff_get.2 ⟨by simp, fun i hi₁ hi₂ => ?_⟩⟩
        have hstored := hstores i hi₂
        rw [(h i hi₂).2] at hstored
        simpa using hstored
      · exact absurd (hall 0 hi) hrefused
  · push Not at hall
    obtain ⟨i, hi, hrefused⟩ := hall
    obtain ⟨e, he⟩ := createSnapshots_of_not_recordable hcase hutc hdigest hdraws hi hrefused
    rw [he]
    constructor
    · rintro ⟨hrecords, -⟩
      refine .inr ⟨Nat.zero_lt_of_lt hi, fun hfirst => ?_⟩
      have hsome := find?_of_first_recorded hcase hutc hdigest hdraws (Nat.zero_lt_of_lt hi) hfirst
      rw [Database.find?, hrecords] at hsome
      rw [show db.records.find? (env 0).newId = none from (hdraws.fresh 0 (Nat.zero_lt_of_lt hi)).record] at hsome
      cases hsome
    · rintro (h | ⟨hpos, hfirst⟩)
      · exact absurd (h i hi).1 hrefused
      · have hkept := db_of_first_refused db hcase hdigest hpos hfirst
        rw [hkept]
        exact ⟨rfl, hunused⟩

end

/-! ## Two memories -/

section Reference

attribute [local instance] asciiLibrary asciiCase acceptingRules fractionFloats zeroDigests nothingSecret noTimes

def memoryRow (id : RecordId) (subject content : String) : RecordEnvelope where
  id := id
  recordType := "memory"
  schemaVersion := 1
  createdAt := "2026-01-01T00:00:00Z".toList
  updatedAt := "2026-01-01T00:00:00Z".toList
  revision := 1
  status := .active
  provenance := .userConfirmed
  sensitivity := .personal
  title := some subject.toList
  metadata := [("memory_class", .str "confirmed".toList), ("confirmation_state", .str "confirmed".toList),
    ("subject", .str subject.toList), ("content", .str content.toList),
    ("source_type", .str "user_statement".toList), ("valid_from", .null), ("valid_until", .null),
    ("confidence", .int 1), ("related_memory_ids", .arr []), ("contradicts_memory_ids", .arr []),
    ("source_reference", .null), ("model_manifest_id", .null), ("runtime_adapter_id", .null),
    ("session_id", .null), ("origin_operation_id", .null)]

/-- The quotation mark of the second content is escaped in JSON, and `b:\` is then read as the beginning of a
path. -/
def twoMemories : Database :=
  { Database.fresh 0 [] with
    records := ⟨[memoryRow 100 "Tea" "green", memoryRow 101 "Key" "b:\"x\""], by decide⟩ }

/-- Both memories, selected for the operation `op`. -/
def bothMemories : Except ContextError Plan := plan twoMemories [uuidText 100, uuidText 101] [] []

theorem draws_twoMemories : Draws surroundings 2 twoMemories where
  fresh := by
    intro i hi
    exact ⟨by interval_cases i <;> decide, by interval_cases i <;> decide⟩
  records := by decide
  events := by decide

/-- The plan is accepted, and nothing has been prepared for it. -/
theorem exists_bothMemories : ∃ p, bothMemories = .ok p ∧ p.snapshots.length = 2 ∧
    requireUnused "op".toList p twoMemories = .ok () := by
  have hcheck : (match bothMemories with
      | .ok p => p.snapshots.length == 2 && (requireUnused "op".toList p twoMemories).isOk
      | .error _ => false) = true := by decide +kernel
  split at hcheck
  · rename_i p hp
    obtain ⟨hlength, hunused⟩ := Bool.and_eq_true_iff.1 hcheck
    exact ⟨p, hp, beq_iff_eq.1 hlength, exists_of_isOk hunused |>.choose_spec⟩
  · cases hcheck

/-- The first memory is recorded, the second is refused, and the record of the first stays. -/
theorem twoMemories_not_whollyOrNotAtAll : ∃ p, plan twoMemories [uuidText 100, uuidText 101] [] [] = .ok p ∧
    requireUnused "op".toList p twoMemories = .ok () ∧ Draws surroundings p.snapshots.length twoMemories ∧
    ¬ WhollyOrNotAtAll "op".toList p twoMemories
      (materialize surroundings (uuidText 7) "op".toList p twoMemories) := by
  obtain ⟨p, hplan, hlength, hunused⟩ := exists_bothMemories
  refine ⟨p, hplan, hunused, hlength.symm ▸ draws_twoMemories, fun h => ?_⟩
  have hcheck : (match bothMemories with
      | .ok p => (materialize surroundings (uuidText 7) "op".toList p twoMemories).1.isOk == false &&
          (materialize surroundings (uuidText 7) "op".toList p twoMemories).2.records.rows.length == 3
      | .error _ => true) = true := by decide +kernel
  rw [hplan] at hcheck
  obtain ⟨hfailed, hrows⟩ := Bool.and_eq_true_iff.1 hcheck
  unfold WhollyOrNotAtAll at h
  split at h
  · rename_i result db' hrun
    rw [hrun] at hfailed
    cases hfailed
  · rename_i e db' hrun
    rw [hrun] at hrows
    rw [h.1] at hrows
    exact absurd (beq_iff_eq.1 hrows) (by decide)

theorem materialize_bothMemories : ∃ p, bothMemories = .ok p ∧
    (WhollyOrNotAtAll "op".toList p twoMemories
        (materialize surroundings (uuidText 7) "op".toList p twoMemories) ↔
      (∀ i (hi : i < p.snapshots.length), Recordable (surroundings i) (uuidText 7) "op".toList p.snapshots[i] ∧
        joinLines p.snapshots[i].content = p.snapshots[i].content) ∨
      ∃ hi : 0 < p.snapshots.length, ¬ Recordable (surroundings 0) (uuidText 7) "op".toList p.snapshots[0]) := by
  obtain ⟨p, hplan, hlength, hunused⟩ := exists_bothMemories
  exact ⟨p, hplan, materialize_whollyOrNotAtAll_iff lawful_asciiCase lawful_noTimes lawful_zeroDigests hplan hunused
    (hlength.symm ▸ draws_twoMemories)⟩

end Reference

end DollState.Writing
