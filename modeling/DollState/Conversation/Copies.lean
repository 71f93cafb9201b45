import DollState.Confirmation.SingleUse
import DollState.Conversation.Turn
import DollState.Model.Runs
import DollState.Redaction.Exact

/-!
# The two copies of a message

A turn stores a message twice: as an artifact, and as the content of an instruction origin. The artifact holds the
text as it was given, and the origin holds its normal form with the hash of the text as it was given. The two agree
exactly if the text is its own normal form.
-/

namespace DollState.Conversation

open StateLib Instruction
open Capability (DigestLibrary)
open Confirmation (LawfulDigest)
open Redaction (RegexLibrary)
open DollState.Runtime (RuntimeGenerationResult RuntimeStreamResult)

section

variable [DigestLibrary]

/-! ## What is claimed -/

/-- What the references of an event lead to: the text of its artifact, and the content and the hash of its
instruction origin. -/
structure Copies (w : World) (eventId : RecordId) (text content hash : Text) : Prop where
  artifact : ∃ event artifactId row path, w.1.find? eventId = some event ∧
    event.metadata.get "content_reference" = .str ("artifact:".toList ++ uuidText artifactId) ∧
    w.1.find? artifactId = some row ∧ row.metadata.get "managed_path" = .str path ∧ w.2.lookup path = some text
  origin : ∃ event extensions originId row, w.1.find? eventId = some event ∧
    event.metadata.get "extensions" = .obj extensions ∧
    Metadata.get extensions "instruction_origin_id" = .str (uuidText originId) ∧
    w.1.find? originId = some row ∧ row.metadata.get "content" = .str content ∧
    row.metadata.get "content_hash" = .str hash

/-- The artifact, the origin and the hash are all of one text. -/
def CopiesAgree (w : World) (eventId : RecordId) : Prop :=
  ∃ text, Copies w eventId text text (sha256Text text)

omit [DigestLibrary] in
/-- The references lead to one text, one content and one hash. -/
theorem Copies.unique {w : World} {eventId : RecordId} {text content hash text' content' hash' : Text}
    (h : Copies w eventId text content hash) (h' : Copies w eventId text' content' hash') :
    text = text' ∧ content = content' ∧ hash = hash' := by
  obtain ⟨⟨event, artifactId, row, path, hevent, hreference, hrow, hpath, htext⟩, horigin⟩ := h
  obtain ⟨⟨event', artifactId', row', path', hevent', hreference', hrow', hpath', htext'⟩, horigin'⟩ := h'
  obtain ⟨e, extensions, originId, origin, he, hextensions, hid, hfound, hcontent, hhash⟩ := horigin
  obtain ⟨e', extensions', originId', origin', he', hextensions', hid', hfound', hcontent', hhash'⟩ := horigin'
  obtain rfl := Option.some.inj (hevent.symm.trans hevent')
  have hartifact : artifactId = artifactId' := uuidText_injective
    (List.append_cancel_left (Json.str.inj (hreference.symm.trans hreference')))
  subst hartifact
  obtain rfl := Option.some.inj (hrow.symm.trans hrow')
  obtain rfl := Json.str.inj (hpath.symm.trans hpath')
  obtain rfl := Option.some.inj (he.symm.trans he')
  obtain rfl := Json.obj.inj (hextensions.symm.trans hextensions')
  have horigin : originId = originId' := uuidText_injective (Json.str.inj (hid.symm.trans hid'))
  subst horigin
  obtain rfl := Option.some.inj (hfound.symm.trans hfound')
  exact ⟨Option.some.inj (htext.symm.trans htext'), Json.str.inj (hcontent.symm.trans hcontent'),
    Json.str.inj (hhash.symm.trans hhash')⟩

/-- When the artifact has the text and the origin its normal form, they agree if the text is that form. -/
theorem Copies.agree_iff {w : World} {eventId : RecordId} {text : Text}
    (h : Copies w eventId text (joinLines text) (sha256Text text)) :
    CopiesAgree w eventId ↔ joinLines text = text := by
  constructor
  · rintro ⟨text', h'⟩
    obtain ⟨rfl, hcontent, -⟩ := h.unique h'
    exact hcontent
  · intro hnormal
    rw [hnormal] at h
    exact ⟨text, h⟩

end

/-! ## What the steps of a turn leave -/

/-- The records and the files that are there stay as they are. -/
structure Grows (w w' : World) : Prop where
  records : ∀ id row, w.1.find? id = some row → w'.1.find? id = some row
  files : ∀ path text, w.2.lookup path = some text → w'.2.lookup path = some text

theorem Grows.refl (w : World) : Grows w w := ⟨fun _ _ => id, fun _ _ => id⟩

theorem Grows.trans {w₁ w₂ w₃ : World} (h : Grows w₁ w₂) (h' : Grows w₂ w₃) : Grows w₁ w₃ :=
  ⟨fun id row hrow => h'.records id row (h.records id row hrow),
    fun path text hfile => h'.files path text (h.files path text hfile)⟩

/-- A row that is put where none was. -/
theorem Grows.of_writes {db db' : Database} {files : Files} {row : RecordEnvelope} (hwrites : db.Writes row db')
    (hfree : db.find? row.id = none) : Grows (db, files) (db', files) := by
  refine ⟨fun id found hfound => ?_, fun _ _ => id⟩
  rw [hwrites id, if_neg]
  · exact hfound
  · rintro rfl
    exact absurd (hfree.symm.trans hfound) nofun

/-- A file that is put where none was. -/
theorem Grows.of_file (db : Database) {files : Files} {path : Text} (text : Text) (hfree : isFree files path = true) :
    Grows (db, files) (db, files ++ [(path, text)]) ∧ (files ++ [(path, text)]).lookup path = some text := by
  have hnone : files.lookup path = none := by
    rw [List.lookup_eq_none_iff]
    intro file hfile
    have hother := List.all_eq_true.1 hfree file hfile
    simp only [Bool.and_eq_true, bne_iff_ne] at hother
    exact bne_iff_ne.2 (Ne.symm hother.1.1)
  refine ⟨⟨fun _ _ => id, fun other found hfound => ?_⟩, ?_⟩
  · rw [List.lookup_append, hfound]
    rfl
  · rw [List.lookup_append, hnone, List.lookup_cons_self]
    rfl

theorem ofState_eq_ok {α : Type} {r : Result α} {a : α} : ofState r = .ok a ↔ r = .ok a := by
  cases r with
  | ok b => exact ⟨fun h => by rw [Except.ok.inj h], fun h => by rw [Except.ok.inj h]; rfl⟩
  | error e => exact ⟨nofun, nofun⟩

section

variable [PythonLibrary] [CaseLibrary] [UtcLibrary] [Audit.AuditRules] [ModuleRules] [DigestLibrary]

/-- The origin stores the normal form of the text, with the hash of the text. -/
def OriginStored (w : World) (id : RecordId) (text : Text) : Prop :=
  ∃ row, w.1.find? id = some row ∧ row.metadata.get "content" = .str (joinLines text) ∧
    row.metadata.get "content_hash" = .str (sha256Text text)

/-- The artifact is a file that holds the text. -/
def ArtifactStored (w : World) (id : RecordId) (text : Text) : Prop :=
  ∃ row path, w.1.find? id = some row ∧ row.metadata.get "managed_path" = .str path ∧ w.2.lookup path = some text

/-- The event is stored with all its fields. -/
def EventStored (w : World) (event : ConversationEvent) : Prop :=
  ∃ row, w.1.find? event.eventId = some row ∧ row.metadata = event.metadata

omit [PythonLibrary] [CaseLibrary] [UtcLibrary] [Audit.AuditRules] [ModuleRules] in
theorem OriginStored.grows {w w' : World} {id : RecordId} {text : Text} (h : OriginStored w id text)
    (hgrows : Grows w w') : OriginStored w' id text := by
  obtain ⟨row, hrow, hstored⟩ := h
  exact ⟨row, hgrows.records id row hrow, hstored⟩

omit [PythonLibrary] [CaseLibrary] [UtcLibrary] [Audit.AuditRules] [ModuleRules] [DigestLibrary] in
theorem ArtifactStored.grows {w w' : World} {id : RecordId} {text : Text} (h : ArtifactStored w id text)
    (hgrows : Grows w w') : ArtifactStored w' id text := by
  obtain ⟨row, path, hrow, hpath, hfile⟩ := h
  exact ⟨row, path, hgrows.records id row hrow, hpath, hgrows.files path text hfile⟩

omit [PythonLibrary] [CaseLibrary] [UtcLibrary] [Audit.AuditRules] [ModuleRules] in
/-- An event that refers to a stored artifact and a stored origin of one text. -/
theorem copies_of_stored {w : World} {event : ConversationEvent} {artifactId originId : RecordId} {text : Text}
    (hevent : EventStored w event)
    (hreference : event.contentReference = some ("artifact:".toList ++ uuidText artifactId))
    (hextensions : event.extensions = [("instruction_origin_id", .str (uuidText originId))])
    (hartifact : ArtifactStored w artifactId text) (horigin : OriginStored w originId text) :
    Copies w event.eventId text (joinLines text) (sha256Text text) := by
  obtain ⟨row, hrow, hmetadata⟩ := hevent
  obtain ⟨artifact, path, hartifact, hpath, hfile⟩ := hartifact
  obtain ⟨origin, horigin, hcontent, hhash⟩ := horigin
  refine ⟨⟨row, artifactId, artifact, path, hrow, ?_, hartifact, hpath, hfile⟩,
    ⟨row, event.extensions, originId, origin, hrow, ?_, ?_, horigin, hcontent, hhash⟩⟩
  · rw [hmetadata]
    show Json.ofText? event.contentReference = _
    rw [hreference]
    rfl
  · rw [hmetadata]
    rfl
  · rw [hextensions]
    rfl

omit [PythonLibrary] [CaseLibrary] [UtcLibrary] [Audit.AuditRules] [ModuleRules] [DigestLibrary] in
theorem inDatabase_eq_ok {α : Type} {x : Attempt Database DollError α} {w w' : World} {a : α} :
    inDatabase x w = (.ok a, w') ↔ x w.1 = (.ok a, w'.1) ∧ w'.2 = w.2 := by
  obtain ⟨db', files'⟩ := w'
  unfold inDatabase
  cases x w.1 with
  | mk r db => cases r with
    | ok b =>
      simp only [Prod.mk.injEq]
      exact ⟨fun ⟨hr, ht, hk⟩ => ⟨⟨by rw [Except.ok.inj hr], ht⟩, hk.symm⟩,
        fun ⟨⟨hr, ht⟩, hk⟩ => ⟨by rw [Except.ok.inj hr], ht, hk.symm⟩⟩
    | error e =>
      constructor
      · intro h
        cases (Prod.mk.inj h).1
      · intro h
        cases (Prod.mk.inj h.1).1

omit [PythonLibrary] [CaseLibrary] [UtcLibrary] [Audit.AuditRules] [ModuleRules] [DigestLibrary] in
theorem inRecords_eq_ok {α : Type} {x : Attempt Database TurnError α} {w w' : World} {a : α} :
    inRecords x w = (.ok a, w') ↔ x w.1 = (.ok a, w'.1) ∧ w'.2 = w.2 := Attempt.lift_eq_ok

omit [DigestLibrary] in
/-- A creation that returns has written its row. -/
theorem create_eq_ok (hcase : LawfulCase) {env : Surroundings} {title content : Text}
    {source : InstructionSource (List Transformation)} {operation : Option Text} {sensitivity : RecordSensitivity}
    {db db' : Database} {info : InstructionOriginInfo} (hsource : Validated source)
    (hunreferenced : Unreferenced source)
    (h : create env title content source operation sensitivity db = (.ok info, db')) :
    info.recordId = env.newId ∧ db.find? env.newId = none ∧
      db.Writes (createdRow env (joinWords title) (joinLines content) source sensitivity) db' := by
  unfold create at h
  rw [Attempt.read_bind] at h
  obtain ⟨w, hprepare, h⟩ := Attempt.except_bind_eq_ok.1 h
  obtain ⟨created, hcommit, h⟩ := Attempt.except_bind_eq_ok.1 h
  rw [Attempt.write_bind] at h
  obtain ⟨hget, rfl⟩ := Attempt.except_eq_ok.1 h
  obtain ⟨htitle, hcontent, -, -, safe, -, rfl⟩ := (prepareCreate_eq_ok hunreferenced).1 hprepare
  obtain ⟨hfree, hwrites⟩ := createTransaction_writes hcommit
  have hfound := get_createdRow hcase ⟨joinWords_joinWords title, htitle⟩ ⟨joinLines_joinLines content, hcontent⟩
    hsource ((hwrites env.newId).trans (if_pos rfl))
  obtain rfl := Except.ok.inj (hget.symm.trans hfound)
  exact ⟨rfl, hfree, hwrites⟩

theorem createOrigin_eq_ok (hcase : LawfulCase) (hutc : LawfulUtc) (hdigest : LawfulDigest) {env : Surroundings}
    {title : String} {text operation : Text} {source : InstructionSource (List Json)}
    {sensitivity : RecordSensitivity} {s s' : World × Created} {id : RecordId}
    (hhash : source.contentHash = some (sha256Text text)) (hpolicy : source.originClass ≠ .durableUserPolicy)
    (hparent : source.derivedFromInstructionId = none)
    (h : createOrigin env title text source operation sensitivity s = (.ok id, s')) :
    Grows s.1 s'.1 ∧ OriginStored s'.1 id text := by
  unfold createOrigin at h
  obtain ⟨validated, hvalidated, h⟩ := Attempt.except_bind_eq_ok.1 h
  obtain ⟨origin, s₁, hcreate, h⟩ := Attempt.bind_eq_ok.1 h
  obtain ⟨_, s₂, hnote, hreturn⟩ := Attempt.bind_eq_ok.1 h
  obtain ⟨hid, hs'⟩ := (Prod.mk.inj hreturn).imp_left Except.ok.inj
  have hworld : s'.1 = s₁.1 := by rw [← hs', ← (Prod.mk.inj hnote).2]
  have hsource := ofState_eq_ok.1 hvalidated
  obtain ⟨horigin, hkept, hderived⟩ := of_validateSource hsource
  have hunreferenced : Unreferenced validated := by
    refine ⟨horigin ▸ hpolicy, ?_⟩
    rw [hparent] at hderived
    exact (pure_eq_ok.1 hderived).symm
  have hstored : validated.contentHash = some (sha256Text text) := by
    rw [hhash] at hkept
    exact Except.ok.inj (hkept.symm.trans
      (bind_eq_ok.2 ⟨_, contentHash_idem hcase (hdigest.isFingerprint text), rfl⟩))
  obtain ⟨hdatabase, hfiles⟩ := inDatabase_eq_ok.1 (Attempt.lift_eq_ok.1 hcreate).1
  obtain ⟨hnew, hfree, hwrites⟩ := create_eq_ok hcase (validated_of_validateSource hcase hutc hsource) hunreferenced
    hdatabase
  have hgrows : Grows (s.1.1, s.1.2) (s₁.1.1, s.1.2) := Grows.of_writes hwrites hfree
  refine ⟨⟨fun found row hrow => ?_, fun path file hfile => ?_⟩,
    createdRow env (joinWords title.toList) (joinLines text) validated sensitivity, ?_, rfl, ?_⟩
  · rw [hworld]
    exact hgrows.records found row hrow
  · rw [hworld, hfiles]
    exact hfile
  · rw [hworld]
    exact (hwrites id).trans (if_pos (hnew.symm.trans hid))
  · show Json.ofText? validated.contentHash = _
    rw [hstored]
    rfl

omit [PythonLibrary] [CaseLibrary] [UtcLibrary] [Audit.AuditRules] in
/-- An artifact that is registered is a row that was not there. -/
theorem registerArtifact_writes {env : Surroundings} {values : ArtifactValues} {operation : Text}
    {row : RecordEnvelope} {db db' : Database} (h : registerArtifact env values operation row db = .ok db') :
    db.find? row.id = none ∧ db.Writes row db' := by
  unfold registerArtifact at h
  split at h
  · cases h
  · obtain ⟨inserted, hinserted, h⟩ := bind_eq_ok.1 h
    obtain ⟨audited, haudited, h⟩ := bind_eq_ok.1 h
    have hinsert := orFail_eq_ok.1 hinserted
    refine ⟨Database.find?_none_of_insertRecord hinsert, fun id => ?_⟩
    rw [← pure_eq_ok.1 h, Database.find?_commitStateRevision,
      Database.find?_insertAuditEvent (orFail_eq_ok.1 haudited), Database.find?_insertRecord hinsert]

omit [PythonLibrary] [UtcLibrary] [Audit.AuditRules] in
/-- What is prepared for an artifact: a row with the path of its file, which is free. -/
theorem of_prepareArtifact [PathRules] {env : Surroundings} {maximumBytes : ℕ} {values : ArtifactValues}
    {files : Files} {row : RecordEnvelope} {path operation : Text}
    (h : prepareArtifact env maximumBytes values files = .ok (row, path, operation)) :
    isFree files path = true ∧ row.metadata.get "managed_path" = .str path := by
  unfold prepareArtifact at h
  obtain ⟨-, h⟩ := check_bind_eq_ok.1 h
  obtain ⟨path', -, h⟩ := bind_eq_ok.1 h
  obtain ⟨title, -, h⟩ := bind_eq_ok.1 h
  obtain ⟨artifactType, -, h⟩ := bind_eq_ok.1 h
  obtain ⟨operation', -, h⟩ := bind_eq_ok.1 h
  obtain ⟨format, -, h⟩ := bind_eq_ok.1 h
  obtain ⟨-, h⟩ := check_bind_eq_ok.1 h
  obtain ⟨-, h⟩ := check_bind_eq_ok.1 h
  obtain ⟨hfree, h⟩ := check_bind_eq_ok.1 h
  obtain ⟨rfl, rfl, -⟩ := (Prod.mk.inj (pure_eq_ok.1 h)).imp_right Prod.mk.inj
  exact ⟨ensure_eq_ok.1 hfree, rfl⟩

omit [PythonLibrary] [UtcLibrary] [Audit.AuditRules] in
theorem createText_eq_ok [PathRules] {env : Surroundings} {maximumBytes : ℕ} {values : ArtifactValues} {w w' : World}
    {id : RecordId} {path : Text} (h : createText env maximumBytes values w = (.ok (id, path), w')) :
    Grows w w' ∧ ArtifactStored w' id values.text := by
  unfold createText at h
  rw [Attempt.read_bind] at h
  obtain ⟨⟨row, path', operation⟩, hprepare, h⟩ := Attempt.except_bind_eq_ok.1 h
  obtain ⟨registered, hregister, h⟩ := Attempt.except_bind_eq_ok.1 h
  rw [Attempt.write_bind] at h
  obtain ⟨_, -, h⟩ := Attempt.except_bind_eq_ok.1 h
  obtain ⟨hreturned, rfl⟩ := (Prod.mk.inj h).imp_left Except.ok.inj
  obtain ⟨rfl, -⟩ := Prod.mk.inj hreturned
  obtain ⟨hpath, hstored⟩ := of_prepareArtifact hprepare
  obtain ⟨hfree, hwrites⟩ := registerArtifact_writes hregister
  have hrow : Grows w (registered, w.2) := Grows.of_writes hwrites hfree
  obtain ⟨hfile, hfound⟩ := Grows.of_file registered values.text hpath
  exact ⟨hrow.trans hfile, row, path', (hwrites row.id).trans (if_pos rfl), hstored, hfound⟩

omit [PythonLibrary] [UtcLibrary] [Audit.AuditRules] in
theorem writeArtifact_eq_ok [PathRules] {env : Surroundings} {service : TurnService} {values : ArtifactValues}
    {s s' : World × Created} {id : RecordId} (h : writeArtifact env service values s = (.ok id, s')) :
    Grows s.1 s'.1 ∧ ArtifactStored s'.1 id values.text := by
  obtain ⟨⟨id', path⟩, s₁, hcreate, h⟩ := Attempt.bind_eq_ok.1 h
  obtain ⟨_, s₂, hnote, hreturn⟩ := Attempt.bind_eq_ok.1 h
  obtain ⟨hid, hs'⟩ := (Prod.mk.inj hreturn).imp_left Except.ok.inj
  have hworld : s'.1 = s₁.1 := by rw [← hs', ← (Prod.mk.inj hnote).2]
  rw [hworld, ← hid]
  exact createText_eq_ok (Attempt.lift_eq_ok.1 hcreate).1

omit [CaseLibrary] [UtcLibrary] [Audit.AuditRules] [DigestLibrary] in
/-- The row of a record that is to be created with an identifier. -/
theorem of_prepareCreateRecord {env : Surroundings} {args : CreateRecordArgs} {id : RecordId} {row : RecordEnvelope}
    (hid : args.recordId = some (uuidText id)) (h : prepareCreateRecord env args = .ok row) :
    row.id = id ∧ row.metadata = args.metadata := by
  unfold prepareCreateRecord at h
  obtain ⟨_, -, h⟩ := bind_eq_ok.1 h
  obtain ⟨_, -, h⟩ := bind_eq_ok.1 h
  obtain ⟨_, -, h⟩ := bind_eq_ok.1 h
  have hidentifier : validateRecordId (uuidText id) = .ok id := by
    rw [validateRecordId, uuid_uuidText]
    exact bind_eq_ok.2 ⟨id, rfl, check_bind_eq_ok.2 ⟨ensure_of rfl _, rfl⟩⟩
  obtain ⟨c, cs, htext⟩ := List.exists_cons_of_ne_nil (uuidText_ne_nil id)
  rw [htext] at hid hidentifier
  rw [hid] at h
  obtain ⟨id', hid', h⟩ := bind_eq_ok.1 h
  obtain rfl := Except.ok.inj (hid'.symm.trans hidentifier)
  obtain rfl := pure_eq_ok.1 h
  exact ⟨rfl, rfl⟩

omit [UtcLibrary] [Audit.AuditRules] [DigestLibrary] in
/-- An event that is saved is a row with all its fields. -/
theorem saveConversationEvent_eq_ok {env : Surroundings} {event : ConversationEvent} {provenance : RecordProvenance}
    {sensitivity : RecordSensitivity} {db db' : Database}
    (h : saveConversationEvent env event provenance sensitivity db = (.ok (), db')) :
    ∃ row, db.find? row.id = none ∧ db.Writes row db' ∧ row.id = event.eventId ∧ row.metadata = event.metadata := by
  unfold saveConversationEvent at h
  rw [Attempt.read_bind] at h
  obtain ⟨_, -, h⟩ := Attempt.except_bind_eq_ok.1 h
  obtain ⟨_, -, h⟩ := Attempt.except_bind_eq_ok.1 h
  obtain ⟨row, hrow, h⟩ := Attempt.except_bind_eq_ok.1 h
  obtain ⟨saved, hsaved, h⟩ := Attempt.except_bind_eq_ok.1 h
  rw [Attempt.write_bind] at h
  obtain ⟨_, -, h⟩ := Attempt.except_bind_eq_ok.1 h
  obtain ⟨-, rfl⟩ := Prod.mk.inj h
  obtain ⟨inserted, hinserted, hcommitted⟩ := bind_eq_ok.1 (ofState_eq_ok.1 hsaved)
  have hinsert := orFail_eq_ok.1 hinserted
  obtain ⟨hid, hmetadata⟩ := of_prepareCreateRecord rfl (ofState_eq_ok.1 hrow)
  refine ⟨row, Database.find?_none_of_insertRecord hinsert, fun id => ?_, hid, hmetadata⟩
  rw [← pure_eq_ok.1 hcommitted, Database.find?_commitStateRevision, Database.find?_insertRecord hinsert]

omit [UtcLibrary] [Audit.AuditRules] [DigestLibrary] in
theorem saveEvent_eq_ok {env : Surroundings} {event : ConversationEvent}
    {provenance : RecordProvenance} {sensitivity : RecordSensitivity} {s s' : World × Created} {id : RecordId}
    (h : saveEvent env event provenance sensitivity s = (.ok id, s')) :
    Grows s.1 s'.1 ∧ ∃ validated, validateEvent event = .ok validated ∧ id = validated.eventId ∧
      EventStored s'.1 validated := by
  unfold saveEvent at h
  obtain ⟨validated, hvalidated, h⟩ := Attempt.except_bind_eq_ok.1 h
  obtain ⟨_, s₁, hsave, h⟩ := Attempt.bind_eq_ok.1 h
  obtain ⟨_, s₂, hnote, hreturn⟩ := Attempt.bind_eq_ok.1 h
  obtain ⟨hid, hs'⟩ := (Prod.mk.inj hreturn).imp_left Except.ok.inj
  have hworld : s'.1 = s₁.1 := by rw [← hs', ← (Prod.mk.inj hnote).2]
  obtain ⟨hrun, hfiles⟩ := inRecords_eq_ok.1 (Attempt.lift_eq_ok.1 hsave).1
  obtain ⟨row, hfree, hwrites, hrow, hmetadata⟩ := saveConversationEvent_eq_ok hrun
  rw [hworld]
  have hgrows : Grows (s.1.1, s.1.2) (s₁.1.1, s.1.2) := Grows.of_writes hwrites hfree
  have hstored : EventStored s₁.1 validated := ⟨row, (hwrites validated.eventId).trans (if_pos hrow), hmetadata⟩
  refine ⟨⟨hgrows.records, fun path text hfile => ?_⟩, validated, hvalidated, hid.symm, hstored⟩
  rw [hfiles]
  exact hfile

omit [UtcLibrary] [Audit.AuditRules] [ModuleRules] [DigestLibrary] in
/-- What an event keeps of its fields when it is built. -/
theorem of_validateEvent {event validated : ConversationEvent} (h : validateEvent event = .ok validated) :
    conversationText "content reference" maxConversationContentReference event.contentReference =
        .ok validated.contentReference ∧
      conversationExtensions event.extensions = .ok validated.extensions := by
  unfold validateEvent at h
  obtain ⟨-, h⟩ := check_bind_eq_ok.1 h
  obtain ⟨-, h⟩ := check_bind_eq_ok.1 h
  obtain ⟨-, h⟩ := check_bind_eq_ok.1 h
  obtain ⟨-, h⟩ := check_bind_eq_ok.1 h
  obtain ⟨contentReference, hreference, h⟩ := bind_eq_ok.1 h
  obtain ⟨_, -, h⟩ := bind_eq_ok.1 h
  obtain ⟨_, -, h⟩ := bind_eq_ok.1 h
  obtain ⟨_, -, h⟩ := bind_eq_ok.1 h
  obtain ⟨_, -, h⟩ := bind_eq_ok.1 h
  obtain ⟨_, -, h⟩ := bind_eq_ok.1 h
  obtain ⟨_, -, h⟩ := bind_eq_ok.1 h
  obtain ⟨_, -, h⟩ := bind_eq_ok.1 h
  obtain ⟨_, -, h⟩ := bind_eq_ok.1 h
  obtain ⟨_, -, h⟩ := bind_eq_ok.1 h
  obtain ⟨_, -, h⟩ := bind_eq_ok.1 h
  obtain ⟨-, h⟩ := check_bind_eq_ok.1 h
  obtain ⟨extensions, hextensions, h⟩ := bind_eq_ok.1 h
  obtain rfl := pure_eq_ok.1 h
  exact ⟨hreference, hextensions⟩

omit [PythonLibrary] [CaseLibrary] [UtcLibrary] [Audit.AuditRules] [ModuleRules] [DigestLibrary] in
theorem stripped_artifactReference (id : RecordId) : Stripped ("artifact:".toList ++ uuidText id) := by
  have hword : "artifact:".toList.all (!isSpace ·) = true := by decide
  have hdigits : ∀ n < 16, isSpace (hexDigit n) = false := by decide
  refine stripped_of_all fun c hc => ?_
  rcases List.mem_append.1 hc with hc | hc
  · exact Bool.not_eq_true' _ ▸ List.all_eq_true.1 hword c hc
  · rcases isHexDigit_or_dash_of_mem_uuidText hc with ⟨n, hn, rfl⟩ | rfl
    · exact hdigits n hn
    · rfl

omit [PythonLibrary] [CaseLibrary] [UtcLibrary] [Audit.AuditRules] [ModuleRules] [DigestLibrary] in
theorem conversationText_of_stripped {name : String} {maximum : ℕ} {text : Text} {value : Option Text}
    (htext : Stripped text) (h : conversationText name maximum (some text) = .ok value) : value = some text := by
  obtain ⟨-, h⟩ := check_bind_eq_ok.1 h
  obtain ⟨-, h⟩ := check_bind_eq_ok.1 h
  obtain ⟨-, h⟩ := check_bind_eq_ok.1 h
  rw [← pure_eq_ok.1 h, strip_eq_self htext]

omit [PythonLibrary] [UtcLibrary] [Audit.AuditRules] [ModuleRules] [DigestLibrary] in
theorem conversationExtensions_origin (hcase : LawfulCase) (value : Json) :
    conversationExtensions [("instruction_origin_id", value)] = .ok [("instruction_origin_id", value)] := by
  have hplain : "instruction_origin_id".toList.all
      (fun c => !isSpace c && decide (c.toNat < 128) && !c.isUpper) = true := by decide
  have heach : ∀ c ∈ "instruction_origin_id".toList, isSpace c = false ∧ c.toNat < 128 ∧ c.isUpper = false := by
    intro c hc
    simpa [and_assoc] using List.all_eq_true.1 hplain c hc
  have hlower : CaseLibrary.lower (strip "instruction_origin_id".toList) = "instruction_origin_id".toList := by
    rw [strip_eq_self (stripped_of_all fun c hc => (heach c hc).1)]
    exact hcase.lower _ fun c hc => (heach c hc).2
  rw [conversationExtensions, List.foldlM_cons, hlower]
  rfl

omit [UtcLibrary] [Audit.AuditRules] [ModuleRules] [DigestLibrary] in
/-- The event of a message keeps its references. -/
theorem validateEvent_message (hcase : LawfulCase) {event validated : ConversationEvent} {artifactId originId : RecordId}
    (hreference : event.contentReference = some ("artifact:".toList ++ uuidText artifactId))
    (hextensions : event.extensions = [("instruction_origin_id", .str (uuidText originId))])
    (h : validateEvent event = .ok validated) :
    validated.contentReference = some ("artifact:".toList ++ uuidText artifactId) ∧
      validated.extensions = [("instruction_origin_id", .str (uuidText originId))] := by
  obtain ⟨htext, hkept⟩ := of_validateEvent h
  rw [hreference] at htext
  rw [hextensions, conversationExtensions_origin hcase] at hkept
  exact ⟨conversationText_of_stripped (stripped_artifactReference artifactId) htext, (Except.ok.inj hkept).symm⟩

omit [UtcLibrary] [Audit.AuditRules] in
/-- A saved event of a message leads to the two copies of its text. -/
theorem copies_of_saveEvent (hcase : LawfulCase) {env : Surroundings} {event : ConversationEvent}
    {provenance : RecordProvenance} {sensitivity : RecordSensitivity} {s s' : World × Created} {id : RecordId}
    {artifactId originId : RecordId} {text : Text}
    (hreference : event.contentReference = some ("artifact:".toList ++ uuidText artifactId))
    (hextensions : event.extensions = [("instruction_origin_id", .str (uuidText originId))])
    (hartifact : ArtifactStored s.1 artifactId text) (horigin : OriginStored s.1 originId text)
    (h : saveEvent env event provenance sensitivity s = (.ok id, s')) :
    Grows s.1 s'.1 ∧ Copies s'.1 id text (joinLines text) (sha256Text text) := by
  obtain ⟨hgrows, validated, hvalidated, rfl, hstored⟩ := saveEvent_eq_ok h
  obtain ⟨hreference', hextensions'⟩ := validateEvent_message hcase hreference hextensions hvalidated
  exact ⟨hgrows, copies_of_stored hstored hreference' hextensions' (hartifact.grows hgrows) (horigin.grows hgrows)⟩

omit [PythonLibrary] [CaseLibrary] [UtcLibrary] [Audit.AuditRules] [ModuleRules] [DigestLibrary] in
theorem Copies.grows {w w' : World} {id : RecordId} {text content hash : Text} (h : Copies w id text content hash)
    (hgrows : Grows w w') : Copies w' id text content hash := by
  obtain ⟨⟨event, artifactId, row, path, hevent, hreference, hrow, hpath, htext⟩, horigin⟩ := h
  obtain ⟨e, extensions, originId, origin, he, hextensions, hid, hfound, hcontent, hhash⟩ := horigin
  exact ⟨⟨event, artifactId, row, path, hgrows.records _ _ hevent, hreference, hgrows.records _ _ hrow, hpath,
    hgrows.files _ _ htext⟩, e, extensions, originId, origin, hgrows.records _ _ he, hextensions, hid,
    hgrows.records _ _ hfound, hcontent, hhash⟩

/-! ## A turn -/

omit [PythonLibrary] [CaseLibrary] [UtcLibrary] [Audit.AuditRules] [DigestLibrary] in
theorem appendAudit_grows {env : Surroundings} {args : AuditAppendArgs} {w w' : World} {u : Unit}
    (h : appendAudit env args w = (.ok u, w')) : Grows w w' := by
  unfold appendAudit at h
  rw [Attempt.read_bind] at h
  obtain ⟨event, -, h⟩ := Attempt.except_bind_eq_ok.1 h
  obtain ⟨appended, happended, h⟩ := Attempt.except_bind_eq_ok.1 h
  obtain ⟨-, rfl⟩ := Prod.mk.inj h
  obtain ⟨db, hdb, hcommitted⟩ := bind_eq_ok.1 (ofState_eq_ok.1 happended)
  refine ⟨fun id row hrow => ?_, fun _ _ => id⟩
  rw [← pure_eq_ok.1 hcommitted, Database.find?_commitStateRevision,
    Database.find?_insertAuditEvent (orFail_eq_ok.1 hdb)]
  exact hrow

theorem createAnswerOrigin_eq_ok (hcase : LawfulCase) (hutc : LawfulUtc) (hdigest : LawfulDigest) {env : Surroundings}
    {prepared : PreparedTurn} {request : TurnRequest} {answer : Option Text} {s s' : World × Created}
    {id : Option RecordId} (h : createAnswerOrigin env prepared request answer s = (.ok id, s')) :
    Grows s.1 s'.1 ∧ ∀ text ∈ answer, ∃ o, id = some o ∧ OriginStored s'.1 o text := by
  cases answer with
  | none =>
    obtain ⟨-, rfl⟩ := Prod.mk.inj h
    exact ⟨.refl _, nofun⟩
  | some text =>
    obtain ⟨o, s₁, hcreate, hreturn⟩ := Attempt.bind_eq_ok.1 h
    obtain ⟨rfl, rfl⟩ := (Prod.mk.inj hreturn).imp_left Except.ok.inj
    have hpolicy : (runtimeSource prepared request text).originClass ≠ .durableUserPolicy := by
      show OriginClass.runtimeOutput ≠ _
      decide
    obtain ⟨hgrows, hstored⟩ := createOrigin_eq_ok hcase hutc hdigest rfl hpolicy rfl hcreate
    refine ⟨hgrows, ?_⟩
    rintro text' ⟨⟩
    exact ⟨o, rfl, hstored⟩

omit [PythonLibrary] [UtcLibrary] [Audit.AuditRules] in
theorem writeAnswer_eq_ok [PathRules] {env : Surroundings} {service : TurnService} {request : TurnRequest}
    {answer : Option Text} {s s' : World × Created} {id : Option RecordId}
    (h : writeAnswer env service request answer s = (.ok id, s')) :
    Grows s.1 s'.1 ∧ ∀ a ∈ id, ∃ text, answer = some text ∧ ArtifactStored s'.1 a text := by
  cases answer with
  | none =>
    obtain ⟨hid, rfl⟩ := (Prod.mk.inj h).imp_left Except.ok.inj
    subst hid
    exact ⟨.refl _, nofun⟩
  | some text =>
    obtain ⟨a, s₁, hwrite, hreturn⟩ := Attempt.bind_eq_ok.1 h
    obtain ⟨rfl, rfl⟩ := (Prod.mk.inj hreturn).imp_left Except.ok.inj
    obtain ⟨hgrows, hstored⟩ := writeArtifact_eq_ok hwrite
    refine ⟨hgrows, ?_⟩
    rintro a' ⟨⟩
    exact ⟨text, rfl, hstored⟩

omit [UtcLibrary] [Audit.AuditRules] in
/-- The last event refers to the answer, if it is one of a message. -/
theorem saveAnswer_eq_ok [PromptRules] (hcase : LawfulCase) {env : Surroundings} {prepared : PreparedTurn}
    {request : TurnRequest} {result : RuntimeGenerationResult} {parent : RecordId}
    {artifactId originId : Option RecordId} {answer : Option Text} {s s' : World × Created}
    {ids : Option RecordId × Option RecordId}
    (hartifact : ∀ a ∈ artifactId, ∃ text, answer = some text ∧ ArtifactStored s.1 a text)
    (horigin : ∀ text ∈ answer, ∃ o, originId = some o ∧ OriginStored s.1 o text)
    (h : saveAnswer env prepared request result parent artifactId originId s = (.ok ids, s')) :
    Grows s.1 s'.1 ∧ (ids.1.isSome = true ↔ result.outcome = .completed) ∧
      ∀ id ∈ ids.1, ∃ text, answer = some text ∧ Copies s'.1 id text (joinLines text) (sha256Text text) := by
  unfold saveAnswer at h
  split at h
  · rename_i hcompleted
    split at h
    · rename_i a o
      obtain ⟨id, s₁, hsave, hreturn⟩ := Attempt.bind_eq_ok.1 h
      obtain ⟨rfl, rfl⟩ := (Prod.mk.inj hreturn).imp_left Except.ok.inj
      obtain ⟨text, htext, hstored⟩ := hartifact a rfl
      obtain ⟨o', ho, hstored'⟩ := horigin text htext
      obtain rfl := Option.some.inj ho
      obtain ⟨hgrows, hcopies⟩ := copies_of_saveEvent hcase rfl rfl hstored hstored' hsave
      refine ⟨hgrows, ⟨fun _ => hcompleted, fun _ => rfl⟩, ?_⟩
      rintro id' ⟨⟩
      exact ⟨text, htext, hcopies⟩
    · cases (Prod.mk.inj h).1
  · rename_i hcompleted
    cases hcode : result.failureCode with
    | some code =>
      rw [hcode] at h
      obtain ⟨id, s₁, hsave, hreturn⟩ := Attempt.bind_eq_ok.1 h
      obtain ⟨rfl, rfl⟩ := (Prod.mk.inj hreturn).imp_left Except.ok.inj
      exact ⟨(saveEvent_eq_ok hsave).1, ⟨nofun, fun h => absurd h hcompleted⟩, nofun⟩
    | none =>
      rw [hcode] at h
      cases (Prod.mk.inj h).1

/-- What a turn that returns has stored of its user's message and of its answer. -/
structure TurnStored (w : World) (request : TurnRequest) (answer : Settled) (turn : TurnResult) : Prop where
  user : Copies w turn.userEventId request.userText (joinLines request.userText) (sha256Text request.userText)
  completed : turn.assistantEventId.isSome = true ↔ answer.result.outcome = .completed
  assistant : ∀ id ∈ turn.assistantEventId, ∃ text, answer.assistantText = some text ∧
    Copies w id text (joinLines text) (sha256Text text)

omit [UtcLibrary] [Audit.AuditRules] in
theorem persistTurn_eq_ok [FloatLibrary] [PathRules] [PromptRules] (hcase : LawfulCase) {env : ℕ → Surroundings} {service : TurnService}
    {prepared : PreparedTurn} {request : TurnRequest} {package : PromptPackage} {userOriginId : RecordId}
    {answer : Settled} {runtimeOriginId : Option RecordId} {s s' : World × Created} {turn : TurnResult}
    (huser : OriginStored s.1 userOriginId request.userText)
    (horigin : ∀ text ∈ answer.assistantText, ∃ o, runtimeOriginId = some o ∧ OriginStored s.1 o text)
    (h : persistTurn env service prepared request package userOriginId answer runtimeOriginId s = (.ok turn, s')) :
    TurnStored s'.1 request answer turn := by
  unfold persistTurn at h
  obtain ⟨userArtifactId, s₁, hwriteUser, h⟩ := Attempt.bind_eq_ok.1 h
  obtain ⟨contextArtifactId, s₂, hwriteContext, h⟩ := Attempt.bind_eq_ok.1 h
  obtain ⟨assistantArtifactId, s₃, hwriteAnswer, h⟩ := Attempt.bind_eq_ok.1 h
  obtain ⟨userEventId, s₄, hsaveUser, h⟩ := Attempt.bind_eq_ok.1 h
  obtain ⟨contextEventId, s₅, hsaveContext, h⟩ := Attempt.bind_eq_ok.1 h
  obtain ⟨ids, s₆, hsaveAnswer, h⟩ := Attempt.bind_eq_ok.1 h
  obtain ⟨rfl, rfl⟩ := (Prod.mk.inj h).imp_left Except.ok.inj
  obtain ⟨hgrows₁, huserArtifact⟩ := writeArtifact_eq_ok hwriteUser
  have hgrows₂ := (writeArtifact_eq_ok hwriteContext).1
  obtain ⟨hgrows₃, hanswer⟩ := writeAnswer_eq_ok hwriteAnswer
  have hgrows := (hgrows₁.trans hgrows₂).trans hgrows₃
  obtain ⟨hgrows₄, hcopies⟩ := copies_of_saveEvent hcase rfl rfl (huserArtifact.grows (hgrows₂.trans hgrows₃))
    (huser.grows hgrows) hsaveUser
  have hgrows₅ := (saveEvent_eq_ok hsaveContext).1
  have hlater := hgrows₄.trans hgrows₅
  obtain ⟨hgrows₆, hcompleted, hassistant⟩ := saveAnswer_eq_ok hcase
    (fun a ha => (hanswer a ha).imp fun text h => ⟨h.1, h.2.grows hlater⟩)
    (fun text htext => (horigin text htext).imp fun o h => ⟨h.1, h.2.grows (hgrows.trans hlater)⟩) hsaveAnswer
  exact ⟨hcopies.grows (hgrows₅.trans hgrows₆), hcompleted, hassistant⟩

theorem turnBody_eq_ok [FloatLibrary] [PathRules] [PromptRules] (hcase : LawfulCase) (hutc : LawfulUtc)
    (hdigest : LawfulDigest) {env : ℕ → Surroundings} {service : TurnService} {prepared : PreparedTurn}
    {request : TurnRequest} {kind : TurnKind} {settled : Outcome Settled} {s s' : World × Created} {turn : TurnResult}
    (h : turnBody env service prepared request kind settled s = (.ok turn, s')) :
    ∃ answer, settled = .ok answer ∧ TurnStored s'.1 request answer turn := by
  unfold turnBody at h
  obtain ⟨userOriginId, s₁, hcreate, h⟩ := Attempt.bind_eq_ok.1 h
  rw [Attempt.read_bind] at h
  obtain ⟨package, -, h⟩ := Attempt.except_bind_eq_ok.1 h
  obtain ⟨answer, hsettled, h⟩ := Attempt.except_bind_eq_ok.1 h
  obtain ⟨runtimeOriginId, s₂, hcreateAnswer, h⟩ := Attempt.bind_eq_ok.1 h
  obtain ⟨turn', s₃, hpersist, h⟩ := Attempt.bind_eq_ok.1 h
  obtain ⟨_, s₄, haudit, h⟩ := Attempt.bind_eq_ok.1 h
  obtain ⟨rfl, rfl⟩ := (Prod.mk.inj h).imp_left Except.ok.inj
  have hpolicy : (userSource request).originClass ≠ .durableUserPolicy := by
    show OriginClass.currentUserInstruction ≠ _
    decide
  obtain ⟨-, huser⟩ := createOrigin_eq_ok hcase hutc hdigest rfl hpolicy rfl hcreate
  obtain ⟨hgrows, horigin⟩ := createAnswerOrigin_eq_ok hcase hutc hdigest hcreateAnswer
  have hstored := persistTurn_eq_ok hcase (huser.grows hgrows) horigin hpersist
  have hlater := appendAudit_grows (Attempt.lift_eq_ok.1 haudit).1
  exact ⟨answer, hsettled, hstored.user.grows hlater, hstored.completed, fun id hid =>
    (hstored.assistant id hid).imp fun text h => ⟨h.1, h.2.grows hlater⟩⟩

omit [PythonLibrary] [CaseLibrary] [UtcLibrary] [Audit.AuditRules] [ModuleRules] [DigestLibrary] in
/-- A turn that fails has no result. -/
theorem cleanUpTurn_raises {kind : TurnKind} (created : Created) (e : TurnError) (w : World) :
    ∃ e', (cleanUpTurn kind created e w).1 = .error e' := by
  unfold cleanUpTurn
  split
  · exact ⟨_, rfl⟩
  · exact ⟨_, rfl⟩

theorem runTurn_eq_ok [FloatLibrary] [PathRules] [PromptRules] (hcase : LawfulCase) (hutc : LawfulUtc)
    (hdigest : LawfulDigest) {env : ℕ → Surroundings} {service : TurnService} {request : TurnRequest} {kind : TurnKind}
    {settled : PreparedTurn → Outcome Settled} {w w' : World} {turn : TurnResult}
    (h : runTurn env service request kind settled w = (.ok turn, w')) :
    ∃ prepared answer, prepareTurn (env 0) service request w.1 = .ok prepared ∧ settled prepared = .ok answer ∧
      TurnStored w' request answer turn := by
  unfold runTurn at h
  rw [Attempt.read_bind] at h
  obtain ⟨prepared, hprepared, h⟩ := Attempt.except_bind_eq_ok.1 h
  obtain ⟨created, hbody⟩ := Attempt.handling_eq_ok cleanUpTurn_raises h
  obtain ⟨answer, hanswer, hstored⟩ := turnBody_eq_ok hcase hutc hdigest hbody
  exact ⟨prepared, answer, hprepared, hanswer, hstored⟩

/-! ## When the copies agree -/

/-- The text of the completed answer that a turn in this world is going to store, if there is one. -/
def completedText [FloatLibrary] (env : Surroundings) (service : TurnService) (request : TurnRequest)
    (settled : PreparedTurn → Outcome Settled) (w : World) : Outcome (Option Text) := do
  let answer ← settled (← prepareTurn env service request w.1)
  return if answer.result.outcome = .completed then answer.assistantText else none

/-- The copies of the user's message agree, and those of the assistant's message if there is one. -/
def MessagesAgree (w : World) (turn : TurnResult) : Prop :=
  CopiesAgree w turn.userEventId ∧ ∀ id ∈ turn.assistantEventId, CopiesAgree w id

/-- The messages of a turn agree if its texts are normal. -/
theorem runTurn_messagesAgree_iff [FloatLibrary] [PathRules] [PromptRules] (hcase : LawfulCase) (hutc : LawfulUtc)
    (hdigest : LawfulDigest) {env : ℕ → Surroundings} {service : TurnService} {request : TurnRequest} {kind : TurnKind}
    {settled : PreparedTurn → Outcome Settled} {w w' : World} {turn : TurnResult}
    (h : runTurn env service request kind settled w = (.ok turn, w')) :
    MessagesAgree w' turn ↔ joinLines request.userText = request.userText ∧
      ∀ text, completedText (env 0) service request settled w = .ok (some text) → joinLines text = text := by
  obtain ⟨prepared, answer, hprepared, hanswer, hstored⟩ := runTurn_eq_ok hcase hutc hdigest h
  have hcompleted : completedText (env 0) service request settled w =
      .ok (if answer.result.outcome = .completed then answer.assistantText else none) :=
    bind_eq_ok.2 ⟨prepared, hprepared, bind_eq_ok.2 ⟨answer, hanswer, rfl⟩⟩
  rw [MessagesAgree, hstored.user.agree_iff, hcompleted]
  refine and_congr_right fun _ => ⟨fun hagree text htext => ?_, fun hnormal id hid => ?_⟩
  · split at htext
    · rename_i houtcome
      obtain ⟨id, hid⟩ := Option.isSome_iff_exists.1 (hstored.completed.2 houtcome)
      obtain ⟨text', htext', hcopies⟩ := hstored.assistant id hid
      obtain rfl := Option.some.inj (htext'.symm.trans (Except.ok.inj htext))
      exact hcopies.agree_iff.1 (hagree id hid)
    · cases Except.ok.inj htext
  · obtain ⟨text, htext, hcopies⟩ := hstored.assistant id hid
    have houtcome := hstored.completed.1 (Option.isSome_iff_exists.2 ⟨id, hid⟩)
    rw [if_pos houtcome] at hnormal
    exact hcopies.agree_iff.2 (hnormal text (congrArg Except.ok htext))

variable [FloatLibrary] [PathRules] [PromptRules] [RegexLibrary]

theorem turns_messagesAgree_iff (hcase : LawfulCase) (hutc : LawfulUtc) (hdigest : LawfulDigest)
    (env : ℕ → Surroundings) (service : TurnService) (request : TurnRequest) (w w' : World) (turn : TurnResult) :
    (∀ answer, executeTurn env service request answer w = (.ok turn, w') →
      (MessagesAgree w' turn ↔ joinLines request.userText = request.userText ∧ ∀ text,
        completedText (env 0) service request (settleTurn request answer) w = .ok (some text) →
          joinLines text = text)) ∧
    ∀ answer, executeStreamingTurn env service request answer w = (.ok turn, w') →
      (MessagesAgree w' turn ↔ joinLines request.userText = request.userText ∧ ∀ text,
        completedText (env 0) service request (settleStreamingTurn request answer) w = .ok (some text) →
          joinLines text = text) :=
  ⟨fun _ h => runTurn_messagesAgree_iff hcase hutc hdigest h,
    fun _ h => runTurn_messagesAgree_iff hcase hutc hdigest h⟩

end

/-! ## A turn of a conversation -/

section Reference

attribute [local instance] asciiLibrary asciiCase acceptingRules fractionFloats Writing.zeroDigests nothingSecret noTimes
  Redaction.passwordLibrary

/-- Managed paths that are kept as they are. -/
@[reducible] def plainPaths : PathRules where
  managedPath value := .ok value

/-- A prompt of one item, in which nothing is found. -/
@[reducible] def plainPrompts : PromptRules where
  packageContext _ _ := .ok ⟨"prompt".toList, 1, 0, 0, .obj []⟩
  guidance _ := []
  guidanceId _ := "none".toList
  optionCount _ := 0
  failureText _ := "failed".toList
  outcomeText _ := "completed".toList

attribute [local instance] plainPaths plainPrompts

def localDeclaration : DollState.Runtime.RuntimeAdapterDeclaration where
  adapterId := "local".toList
  adapterVersion := "1".toList
  runtimeClass := "process".toList
  connectionKind := .localProcess
  supportedOperations := [.generate, .stream]
  offlineCapable := true
  cloudFallback := false
  automaticDownload := false
  valid := by decide +kernel

/-- The runtime of that declaration. -/
def localRuntimeRow : RecordEnvelope := Model.manifestRow 100 Model.runtimeType "Local runtime"
  [("adapter_id", .str "local".toList), ("adapter_version", .str "1".toList),
    ("runtime_class", .str "process".toList), ("connection_kind", .str "local_process".toList),
    ("runtime_version", .null),
    ("declaration_fingerprint", .str ("sha256:".toList ++ List.replicate 64 '0')),
    ("operations", Model.textList ["cancel".toList, "generate".toList, "health".toList, "stream".toList]),
    ("offline_capable", .bool true), ("cloud_fallback", .bool false), ("automatic_download", .bool false),
    ("platforms", .arr []), ("compatibility", .arr []), ("source_references", .arr []),
    ("manifest_state", .str Model.ManifestState.verified.text), ("verification_evidence_ids", .arr []),
    ("quarantine_reason", .null)]

def conversationRow : RecordEnvelope where
  id := 200
  recordType := "conversation"
  schemaVersion := 1
  createdAt := "2026-01-01T00:00:00Z".toList
  updatedAt := "2026-01-01T00:00:00Z".toList
  revision := 1
  status := .active
  provenance := .userCreated
  sensitivity := .personal
  title := some "Garden".toList
  metadata := [("source_environment_id", .null), ("source_conversation_id", .null)]

/-- A conversation, and a runtime and a model that are bound. -/
def talkWorld : World :=
  ({ Database.fresh 0 [] with
      records := ⟨[localRuntimeRow, Model.modelRow, Model.bindingRow 102 .active (.str "2026-01-01T00:00:00Z".toList),
        conversationRow], by decide⟩ }, [])

theorem isIdentifier_local : ∀ (adapterId : Text) (adapter : Unit),
    (if adapterId = "local".toList then some () else none) = some adapter →
      Runtime.isIdentifier adapterId = true := by
  intro adapterId adapter h
  split at h
  · rename_i hlocal
    rw [hlocal]
    decide
  · cases h

def localService : TurnService where
  registry := ⟨fun value => if value = "local".toList then some () else none, isIdentifier_local⟩
  reply := .ok localDeclaration
  maximumArtifactBytes := 1024

def turnRequest (text : String) : TurnRequest where
  conversationId := uuidText 200
  scopeType := "project".toList
  scopeKey := "garden".toList
  userText := text.toList
  operationId := "op".toList
  parentEventId := none
  contextInstructionIds := []
  sensitivity := .personal

def completedAnswer (text : String) : Result RuntimeGenerationResult :=
  DollState.Runtime.newGenerationResult {
    operationId := "op".toList, adapterId := "local".toList, runtimeId := some "run".toList, modelId := "model".toList,
    outcome := .completed, outputText := some text.toList, finishReason := some .stop, failureCode := none }

/-- The events of a stream of one delta. -/
def streamedEvents (text : String) : Result (List DollState.Runtime.RuntimeStreamEvent) :=
  [⟨"op".toList, 0, .start, none, none, none⟩, ⟨"op".toList, 1, .delta, some text.toList, none, none⟩,
    ⟨"op".toList, 2, .complete, none, some .stop, none⟩].mapM DollState.Runtime.newStreamEvent

def streamedAnswer (text : String) : Result RuntimeStreamResult := do
  DollState.Runtime.newStreamResult {
    operationId := "op".toList, adapterId := "local".toList, runtimeId := some "run".toList, modelId := "model".toList,
    outcome := .completed, events := ← streamedEvents text, failureCode := none }

/-- The turns of the examples come to an end. -/
theorem exampleTurns_isOk :
    (executeTurn surroundings localService (turnRequest "a ") (completedAnswer "b") talkWorld).1.isOk = true ∧
      (executeTurn surroundings localService (turnRequest "a") (completedAnswer "b") talkWorld).1.isOk = true ∧
      (executeStreamingTurn surroundings localService (turnRequest "a") (streamedAnswer "b") talkWorld).1.isOk =
        true := by
  refine ⟨?_, ?_, ?_⟩
  · decide +kernel
  · decide +kernel
  · decide +kernel

/-- A trailing blank of the user's message is in the artifact, and not in the origin. -/
theorem trailingBlank_not_messagesAgree : ∃ turn w',
    executeTurn surroundings localService (turnRequest "a ") (completedAnswer "b") talkWorld = (.ok turn, w') ∧
      ¬ MessagesAgree w' turn := by
  obtain ⟨turn, hturn⟩ := exists_of_isOk exampleTurns_isOk.1
  have hrun := Prod.mk.eta.symm.trans (congrArg (Prod.mk · _) hturn)
  refine ⟨turn, _, hrun, fun hagree => ?_⟩
  have hnormal := ((runTurn_messagesAgree_iff lawful_asciiCase lawful_noTimes Writing.lawful_zeroDigests hrun).1
    hagree).1
  revert hnormal
  decide +kernel

/-- Both kinds of turn, of texts that are normal. -/
theorem turns_messagesAgree_normal :
    (∃ turn w', executeTurn surroundings localService (turnRequest "a") (completedAnswer "b") talkWorld =
        (.ok turn, w') ∧ (MessagesAgree w' turn ↔ joinLines (turnRequest "a").userText = (turnRequest "a").userText ∧
          ∀ text, completedText (surroundings 0) localService (turnRequest "a")
            (settleTurn (turnRequest "a") (completedAnswer "b")) talkWorld = .ok (some text) → joinLines text = text)) ∧
    ∃ turn w', executeStreamingTurn surroundings localService (turnRequest "a") (streamedAnswer "b") talkWorld =
        (.ok turn, w') ∧ (MessagesAgree w' turn ↔ joinLines (turnRequest "a").userText = (turnRequest "a").userText ∧
          ∀ text, completedText (surroundings 0) localService (turnRequest "a")
            (settleStreamingTurn (turnRequest "a") (streamedAnswer "b")) talkWorld = .ok (some text) →
              joinLines text = text) := by
  obtain ⟨turn, hturn⟩ := exists_of_isOk exampleTurns_isOk.2.1
  obtain ⟨turn', hturn'⟩ := exists_of_isOk exampleTurns_isOk.2.2
  have hrun := Prod.mk.eta.symm.trans (congrArg (Prod.mk · _) hturn)
  have hrun' := Prod.mk.eta.symm.trans (congrArg (Prod.mk · _) hturn')
  exact ⟨⟨turn, _, hrun, (turns_messagesAgree_iff lawful_asciiCase lawful_noTimes Writing.lawful_zeroDigests
      surroundings localService _ _ _ turn).1 _ hrun⟩,
    turn', _, hrun', (turns_messagesAgree_iff lawful_asciiCase lawful_noTimes Writing.lawful_zeroDigests
      surroundings localService _ _ _ turn').2 _ hrun'⟩

end Reference

end DollState.Conversation
