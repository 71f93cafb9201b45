import DollState.Recall.Index
import Mathlib.Data.List.Dedup

/-!
# What the index answers

`directScan` is the query without an index: the memories are read from the database, and those are taken
that have every term as a whole word in one of their fields. A build without other writers succeeds if and
only if the database is `Indexable`, and then it makes `indexOf` (`snapshot_on`); a query of that index
answers as the direct scan does (`queryIndex_indexOf`).
-/

namespace DollState.Recall.Index

open StateLib

/-- The values of a function that never fails on the list, and those that it has. -/
theorem forall₂_ok_iff {ε α β : Type} {f : α → Except ε β} {xs : List α} {ys : List β} :
    List.Forall₂ (fun x y => f x = .ok y) xs ys ↔
      (∀ x ∈ xs, ∃ y, f x = .ok y) ∧ ys = xs.filterMap fun x => (f x).toOption := by
  induction xs generalizing ys with
  | nil => simp [List.forall₂_nil_left_iff]
  | cons x xs ih =>
    rw [List.forall₂_cons_left_iff, List.forall_mem_cons]
    constructor
    · rintro ⟨y, ys, hy, hys, rfl⟩
      obtain ⟨hall, rfl⟩ := ih.1 hys
      refine ⟨⟨⟨y, hy⟩, hall⟩, ?_⟩
      rw [List.filterMap_cons, hy]
      rfl
    · rintro ⟨⟨⟨y, hy⟩, hall⟩, rfl⟩
      refine ⟨y, _, hy, ih.2 ⟨hall, rfl⟩, ?_⟩
      rw [List.filterMap_cons, hy]
      rfl

/-- As many different elements as a list has that contains them: all of it. -/
theorem length_dedup_eq_iff {α : Type} [DecidableEq α] {found wanted : List α} (hnodup : wanted.Nodup)
    (hsub : ∀ a ∈ found, a ∈ wanted) : found.dedup.length = wanted.length ↔ ∀ a ∈ wanted, a ∈ found := by
  have hsubset : found.dedup ⊆ wanted := fun a ha => hsub a (List.mem_dedup.1 ha)
  have hsubperm : found.dedup.Subperm wanted := List.subperm_of_subset (List.nodup_dedup found) hsubset
  constructor
  · intro hlength a ha
    exact List.mem_dedup.1 ((hsubperm.perm_of_length_le (Nat.le_of_eq hlength.symm)).mem_iff.2 ha)
  · intro hall
    refine (List.Perm.length_eq ?_)
    refine (List.perm_ext_iff_of_nodup (List.nodup_dedup found) hnodup).2 fun a => ?_
    rw [List.mem_dedup]
    exact ⟨hsub a, hall a⟩

theorem nodup_eraseDups {α : Type} [BEq α] [LawfulBEq α] (xs : List α) : xs.eraseDups.Nodup := by
  induction hlength : xs.length using Nat.strong_induction_on generalizing xs with
  | _ n ih =>
    cases xs with
    | nil => simp
    | cons x xs =>
      rw [List.eraseDups_cons, List.nodup_cons]
      refine ⟨fun hmem => ?_, ih _ ?_ _ rfl⟩
      · have hne := (List.mem_filter.1 (List.mem_eraseDups.1 hmem)).2
        simp at hne
      · rw [← hlength]
        exact Nat.lt_succ_of_le (List.length_filter_le _ _)

section

variable [Search.UnicodeLibrary]

/-! ## Words -/

/-- The words of a text, as they are indexed. -/
def words (value : Text) : List Text := ((normalizeLexicalText value).splitOn ' ').filter (· ≠ [])

/-- The texts of a memory that are indexed. -/
def fieldValues (memory : Memory.ConfirmedMemoryInfo) : List Text :=
  memory.subject :: memory.content :: metadataValues memory

/-- Each term is a word of some field. -/
def HasTerms (terms : List Text) (memory : Memory.ConfirmedMemoryInfo) : Prop :=
  ∀ term ∈ terms, ∃ value ∈ fieldValues memory, term ∈ words value

instance (terms : List Text) (memory : Memory.ConfirmedMemoryInfo) : Decidable (HasTerms terms memory) :=
  inferInstanceAs (Decidable (∀ term ∈ terms, ∃ value ∈ fieldValues memory, term ∈ words value))

/-- The tokens of a text are its words that are not too long. -/
theorem mem_textTokens {term value : Text} :
    term ∈ textTokens value ↔ term ∈ words value ∧ term.length ≤ maxTokenChars := by
  unfold textTokens words
  by_cases hblank : normalizeLexicalText value = []
  · simp [hblank, List.splitOn_nil]
  · simp only [hblank, if_false, List.mem_eraseDups, List.mem_filter, decide_eq_true_eq, List.length_pos_iff]
    tauto

/-- A memory is posted under the tokens of its fields. -/
theorem exists_mem_memoryPostings {term : Text} {memory : Memory.ConfirmedMemoryInfo} :
    (∃ fieldClass, (term, fieldClass) ∈ memoryPostings memory) ↔
      ∃ value ∈ fieldValues memory, term ∈ textTokens value := by
  unfold memoryPostings
  simp only [List.mem_insertionSort, List.mem_dedup, List.mem_append, List.mem_map, List.mem_flatMap,
    Prod.mk.injEq, fieldValues, List.mem_cons, exists_eq_or_imp]
  constructor
  · rintro ⟨_, (⟨_, h, rfl, -⟩ | ⟨_, h, rfl, -⟩) | ⟨_, h, rfl, -⟩⟩
    · exact .inl h
    · exact .inr (.inl h)
    · exact .inr (.inr h)
  · rintro (h | h | h)
    · exact ⟨.subject, .inl (.inl ⟨_, h, rfl, rfl⟩)⟩
    · exact ⟨.content, .inl (.inr ⟨_, h, rfl, rfl⟩)⟩
    · exact ⟨.metadata, .inr ⟨_, h, rfl, rfl⟩⟩

theorem mem_postingsOf {memory : Memory.ConfirmedMemoryInfo} {p : Posting} :
    p ∈ postingsOf memory ↔
      p.memoryId = uuidText memory.recordId ∧ (p.token, p.fieldClass) ∈ memoryPostings memory := by
  unfold postingsOf
  rw [List.mem_map]
  constructor
  · rintro ⟨posting, hmem, rfl⟩
    exact ⟨rfl, hmem⟩
  · rintro ⟨hid, hmem⟩
    exact ⟨_, hmem, by rw [← hid]⟩

/-- A memory has the terms if it is posted under each of them. -/
theorem hasTerms_iff {terms : List Text} {memory : Memory.ConfirmedMemoryInfo}
    (hshort : ∀ term ∈ terms, term.length ≤ maxTokenChars) :
    HasTerms terms memory ↔ ∀ term ∈ terms, ∃ p ∈ postingsOf memory, p.token = term := by
  refine forall₂_congr fun term hterm => ?_
  have hposted : (∃ p ∈ postingsOf memory, p.token = term) ↔
      ∃ fieldClass, (term, fieldClass) ∈ memoryPostings memory := by
    constructor
    · rintro ⟨p, hp, rfl⟩
      exact ⟨_, (mem_postingsOf.1 hp).2⟩
    · rintro ⟨fieldClass, hmem⟩
      exact ⟨⟨term, uuidText memory.recordId, fieldClass⟩, mem_postingsOf.2 ⟨rfl, hmem⟩, rfl⟩
  rw [hposted, exists_mem_memoryPostings]
  refine exists_congr fun value => and_congr_right fun _ => ?_
  rw [mem_textTokens, and_iff_left (hshort term hterm)]

/-- What a query asks for: some terms, no two of them the same, none too long. -/
theorem of_validateQuery {query : Text} {terms : List Text} (h : validateQuery query = .ok terms) :
    terms ≠ [] ∧ terms.Nodup ∧ ∀ term ∈ terms, term.length ≤ maxTokenChars := by
  unfold validateQuery at h
  obtain ⟨-, h⟩ := check_bind_eq_ok.1 h
  obtain ⟨-, h⟩ := check_bind_eq_ok.1 h
  obtain ⟨-, h⟩ := check_bind_eq_ok.1 h
  obtain ⟨-, h⟩ := check_bind_eq_ok.1 h
  obtain ⟨hshort, h⟩ := check_bind_eq_ok.1 h
  rw [← pure_eq_ok.1 h]
  refine ⟨fun hnil => ?_, nodup_eraseDups _, ensure_eq_ok.1 hshort⟩
  obtain ⟨term, hterm⟩ := List.exists_mem_of_ne_nil _
    (List.splitOn_ne_nil ' ' (normalizeLexicalText query))
  have hmem := List.mem_eraseDups.2 hterm
  rw [hnil] at hmem
  cases hmem

end

/-! ## The memories of a database -/

/-- The rows that the index covers. -/
def scannedRows (db : Database) : List RecordEnvelope := (memoryRows db).take maxIndexedMemories

theorem mem_memoryRows {db : Database} {row : RecordEnvelope} (h : row ∈ memoryRows db) :
    db.find? row.id = some row ∧ row.recordType = "memory" ∧ row.status = .active ∧
      row.sensitivity ≠ .secret := by
  unfold memoryRows Search.selectRows at h
  have hmem := List.mem_of_mem_take h
  rw [List.mem_insertionSort, List.mem_filter, decide_eq_true_eq] at hmem
  obtain ⟨hrow, hactive, hopen, htype⟩ := hmem
  refine ⟨Database.mem_iff_find?.1 hrow, ?_, hactive, hopen⟩
  exact String.toList_injective (htype _ rfl)

theorem mem_scannedRows {db : Database} {row : RecordEnvelope} (h : row ∈ scannedRows db) :
    row ∈ memoryRows db := List.mem_of_mem_take h

theorem nodup_scannedRows (db : Database) : ((scannedRows db).map (·.id)).Nodup := by
  unfold scannedRows memoryRows Search.selectRows
  refine List.Nodup.sublist (((List.take_sublist _ _).trans (List.take_sublist _ _)).map _) ?_
  refine ((List.perm_insertionSort _ _).map _).nodup_iff.2 ?_
  exact List.Nodup.sublist (List.filter_sublist.map _) db.records.nodup

section

variable [PythonLibrary]

/-- The memories that the index covers, as their service reads them. -/
def scannedMemories (db : Database) : List Memory.ConfirmedMemoryInfo :=
  (scannedRows db).filterMap fun row => (Memory.memoryFromRecord row).toOption

theorem mem_scannedMemories {db : Database} {memory : Memory.ConfirmedMemoryInfo} :
    memory ∈ scannedMemories db ↔ ∃ row ∈ scannedRows db, Memory.memoryFromRecord row = .ok memory := by
  unfold scannedMemories
  rw [List.mem_filterMap]
  refine exists_congr fun row => and_congr_right fun _ => ?_
  cases Memory.memoryFromRecord row with
  | ok info => simp [Except.toOption]
  | error e => simp [Except.toOption]

/-- What the service reads of the rows, if it reads them all. -/
theorem forall₂_scannedRows {db : Database} {infos : List Memory.ConfirmedMemoryInfo} :
    List.Forall₂ (fun row info => Memory.memoryFromRecord row = .ok info) (scannedRows db) infos ↔
      (∀ row ∈ scannedRows db, ∃ info, Memory.memoryFromRecord row = .ok info) ∧ infos = scannedMemories db :=
  forall₂_ok_iff

/-- The service finds a row of the inventory as it is. -/
theorem get_on_row {db : Database} {row : RecordEnvelope} {memory : Memory.ConfirmedMemoryInfo}
    (h : row ∈ memoryRows db) :
    (Memory.get (uuidText row.id)).on db = .ok memory ↔ Memory.memoryFromRecord row = .ok memory := by
  obtain ⟨hfind, htype, -⟩ := mem_memoryRows h
  rw [Memory.get_on, Memory.memoryFromRecord_eq_ok]
  constructor
  · rintro ⟨record, hrecord, -, hread⟩
    rw [hfind] at hrecord
    cases hrecord
    exact hread
  · exact fun hread => ⟨row, hfind, htype, hread⟩

/-- A memory that is read from a row of the inventory can be indexed. -/
theorem of_memoryFromRecord {db : Database} {row : RecordEnvelope} {memory : Memory.ConfirmedMemoryInfo}
    (hrow : row ∈ memoryRows db) (h : Memory.memoryFromRecord row = .ok memory) :
    memory.recordId = row.id ∧ memory.status = .active ∧ memory.sensitivity ≠ .secret := by
  have hfrom := Memory.readFrom_of_readMemory (Memory.memoryFromRecord_eq_ok.1 h)
  obtain ⟨-, -, hactive, hopen⟩ := mem_memoryRows hrow
  exact ⟨hfrom.recordId, hfrom.status.trans hactive, hfrom.sensitivity ▸ hopen⟩

theorem nodup_scannedMemories (db : Database) : ((scannedMemories db).map (·.recordId)).Nodup := by
  have hsub : ((scannedMemories db).map (·.recordId)).Sublist ((scannedRows db).map (·.id)) := by
    have hids : ∀ row ∈ scannedRows db, ∀ memory, Memory.memoryFromRecord row = .ok memory →
        memory.recordId = row.id := fun row hrow memory h =>
      (of_memoryFromRecord (mem_scannedRows hrow) h).1
    unfold scannedMemories
    generalize scannedRows db = rows at hids
    induction rows with
    | nil => exact List.Sublist.slnil
    | cons row rows ih =>
      obtain ⟨hrow, hrows⟩ := List.forall_mem_cons.1 hids
      rw [List.filterMap_cons]
      cases hread : Memory.memoryFromRecord row with
      | error e => exact (ih hrows).cons _
      | ok memory =>
        show (memory.recordId :: _).Sublist (row.id :: _)
        rw [hrow memory hread]
        exact (ih hrows).cons_cons _
  exact (nodup_scannedRows db).sublist hsub

end

section

variable [PythonLibrary] [Search.UnicodeLibrary]

/-! ## The index of a database -/

/-- What the index of a database contains. -/
def indexOf (db : Database) : LexicalIndex where
  userVersion := schemaVersion
  metadata := some {
    schemaVersion, algorithmId, algorithmVersion, workspaceId := uuidText db.workspaceId
    sourceStateRevision := db.stateRevision, indexedMemoryCount := (scannedMemories db).length
    postingCount := ((scannedMemories db).flatMap postingsOf).length
    scanTruncated := if maxIndexedMemories < (memoryRows db).length then 1 else 0 }
  memories := ((scannedMemories db).zipIdx 1).map fun e => indexedMemory e.1 e.2
  postings := (scannedMemories db).flatMap postingsOf

/-- Every memory that the index covers can be read, and their tokens are not too many. -/
structure Indexable (db : Database) : Prop where
  readable : ∀ row ∈ scannedRows db, ∃ memory, Memory.memoryFromRecord row = .ok memory
  tokens : ∀ memory ∈ scannedMemories db, (postingsOf memory).length ≤ maxTokensPerMemory
  postings : ((scannedMemories db).flatMap postingsOf).length ≤ maxPostings

/-- The repository may build: it only reads, and the database is as it was when it was opened. -/
structure Session.Opens (session : Session) (db : Database) : Prop where
  readOnly : session.readOnly = true
  workspaceId : session.workspaceId = db.workspaceId
  stateRevision : session.stateRevision = db.stateRevision

omit [PythonLibrary] [Search.UnicodeLibrary] in
theorem ofService_on {α : Type} {raise : DollError → IndexError} {p : Reader α} {db : Database} {a : α} :
    (ofService raise p).run (answerMemory db) = .ok a ↔ p.on db = .ok a := by
  have hrun : (ofService raise p).run (answerMemory db) = (p.on db).mapError raise := ReadProgram.run_via p _
  rw [hrun, mapError_eq_ok]

omit [Search.UnicodeLibrary] in
theorem indexMemory_on {db : Database} {row : RecordEnvelope} {memory : Memory.ConfirmedMemoryInfo}
    (h : row ∈ memoryRows db) :
    (indexMemory row.id).run (answerMemory db) = .ok memory ↔ Memory.memoryFromRecord row = .ok memory := by
  unfold indexMemory
  rw [ReadProgram.run_bind, bind_eq_ok]
  constructor
  · rintro ⟨read, hread, hrest⟩
    rw [ofService_on, get_on_row h] at hread
    rw [ReadProgram.run_bind] at hrest
    obtain ⟨-, hrest⟩ := check_bind_eq_ok.1 hrest
    cases hrest
    exact hread
  · intro hread
    obtain ⟨-, hactive, hopen⟩ := of_memoryFromRecord h hread
    refine ⟨memory, ofService_on.2 ((get_on_row h).2 hread), ?_⟩
    rw [ReadProgram.run_bind]
    exact check_bind_eq_ok.2 ⟨ensure_of ⟨hactive, hopen⟩ _, rfl⟩

/-- What the loop over some of the rows inserts, if no bound stops it. -/
theorem populate_on {db : Database} {rows : List RecordEnvelope} (hrows : ∀ row ∈ rows, row ∈ memoryRows db)
    {sourceRank postingCount : ℕ} (hcount : postingCount ≤ maxPostings)
    {memories : List IndexedMemory} {postings : List Posting} {total : ℕ} :
    (populate ((rows.map (·.id)).zipIdx sourceRank) postingCount).run (answerMemory db) =
        .ok (memories, postings, total) ↔
      ∃ infos, List.Forall₂ (fun row info => Memory.memoryFromRecord row = .ok info) rows infos ∧
        (∀ info ∈ infos, (postingsOf info).length ≤ maxTokensPerMemory) ∧
        postingCount + (infos.flatMap postingsOf).length ≤ maxPostings ∧
        memories = (infos.zipIdx sourceRank).map (fun e => indexedMemory e.1 e.2) ∧
        postings = infos.flatMap postingsOf ∧ total = postingCount + postings.length := by
  induction rows generalizing sourceRank postingCount memories postings total with
  | nil =>
    simp only [List.map_nil, List.zipIdx_nil, populate, ReadProgram.run_pure, List.forall₂_nil_left_iff]
    constructor
    · intro h
      cases h
      exact ⟨[], rfl, by simp, by simpa using hcount, rfl, rfl, rfl⟩
    · rintro ⟨_, rfl, -, -, rfl, rfl, rfl⟩
      rfl
  | cons row rows ih =>
    obtain ⟨hrow, hrest⟩ := List.forall_mem_cons.1 hrows
    rw [List.map_cons, List.zipIdx_cons, populate, ReadProgram.run_bind, bind_eq_ok]
    constructor
    · rintro ⟨info, hread, h⟩
      rw [indexMemory_on hrow] at hread
      simp only [ReadProgram.run_bind, ReadProgram.run_lift, check_bind_eq_ok, ensure_eq_ok] at h
      obtain ⟨htokens, hbound, h⟩ := h
      obtain ⟨⟨ms, ps, n⟩, hpopulate, h⟩ := bind_eq_ok.1 h
      cases h
      obtain ⟨infos, hinfos, hall, htotal, rfl, rfl, rfl⟩ := (ih hrest hbound).1 hpopulate
      refine ⟨info :: infos, .cons hread hinfos, List.forall_mem_cons.2 ⟨htokens, hall⟩, ?_, ?_, ?_, ?_⟩
      · rw [List.flatMap_cons, List.length_append]
        omega
      · rw [List.zipIdx_cons, List.map_cons]
      · rw [List.flatMap_cons]
      · rw [List.length_append]
        dsimp only
        omega
    · rintro ⟨_, hinfos, hall, htotal, rfl, rfl, rfl⟩
      rw [List.forall₂_cons_left_iff] at hinfos
      obtain ⟨info, infos, hread, hinfos, rfl⟩ := hinfos
      obtain ⟨htokens, hall⟩ := List.forall_mem_cons.1 hall
      rw [List.flatMap_cons, List.length_append] at htotal
      have hbound : postingCount + (postingsOf info).length ≤ maxPostings := by omega
      refine ⟨info, (indexMemory_on hrow).2 hread, ?_⟩
      simp only [ReadProgram.run_bind, ReadProgram.run_lift, check_bind_eq_ok, ensure_eq_ok]
      refine ⟨htokens, hbound, bind_eq_ok.2 ⟨_, (ih hrest hbound).2
        ⟨infos, hinfos, hall, by omega, rfl, rfl, rfl⟩, ?_⟩⟩
      rw [ReadProgram.run_pure, List.flatMap_cons, List.length_append, Nat.add_assoc, List.zipIdx_cons,
        List.map_cons]

omit [PythonLibrary] [Search.UnicodeLibrary] in
theorem status_on (db : Database) :
    status.run (answerMemory db) = .ok (db.workspaceId, db.stateRevision) := rfl

omit [PythonLibrary] [Search.UnicodeLibrary] in
theorem validateRepositoryIdentity_on {session : Session} {db : Database} {u : Unit} :
    (validateRepositoryIdentity session).run (answerMemory db) = .ok u ↔
      session.workspaceId = db.workspaceId ∧ session.stateRevision = db.stateRevision := by
  unfold validateRepositoryIdentity
  rw [ReadProgram.run_bind, status_on, ok_bind, ReadProgram.run_lift, ensure_eq_ok]

/-- A build that nothing disturbs succeeds if and only if the database is indexable; it makes the index of
the database. -/
theorem snapshot_on {session : Session} {db : Database} {index : LexicalIndex} :
    (snapshot session).run (answerMemory db) = .ok index ↔
      session.Opens db ∧ Indexable db ∧ index = indexOf db := by
  have hids : selectMemoryIds.run (answerMemory db) = .ok ((memoryRows db).map (·.id)) := rfl
  have hpopulate {memories postings total} := @populate_on _ _ db (scannedRows db)
    (fun _ => mem_scannedRows) 1 0 (Nat.zero_le _) memories postings total
  unfold snapshot
  simp only [ReadProgram.run_bind, ReadProgram.run_lift, status_on, ok_bind, hids, check_bind_eq_ok,
    validateRepositoryIdentity_on, requireReadOnly, ensure_eq_ok, ← List.map_take]
  constructor
  · rintro ⟨hreadOnly, ⟨hworkspace, hrevision⟩, h⟩
    obtain ⟨⟨memories, postings, total⟩, hloop, h⟩ := bind_eq_ok.1 h
    cases (check_bind_eq_ok.1 h).2
    obtain ⟨infos, hinfos, htokens, htotal, rfl, rfl, rfl⟩ := hpopulate.1 hloop
    obtain ⟨hreadable, rfl⟩ := forall₂_scannedRows.1 hinfos
    refine ⟨⟨hreadOnly, hworkspace, hrevision⟩, ⟨hreadable, htokens, by simpa using htotal⟩, ?_⟩
    have hcount : ((memoryRows db).take maxIndexedMemories).length = (scannedMemories db).length :=
      hinfos.length_eq
    unfold indexOf
    simp only [List.length_map, Nat.zero_add, hcount]
  · rintro ⟨⟨hreadOnly, hworkspace, hrevision⟩, ⟨hreadable, htokens, htotal⟩, rfl⟩
    have hinfos := forall₂_scannedRows.2 ⟨hreadable, rfl⟩
    have hcount : ((memoryRows db).take maxIndexedMemories).length = (scannedMemories db).length :=
      hinfos.length_eq
    refine ⟨hreadOnly, ⟨hworkspace, hrevision⟩, bind_eq_ok.2 ⟨_, hpopulate.2
      ⟨scannedMemories db, hinfos, htokens, by simpa using htotal, rfl, rfl, rfl⟩, ?_⟩⟩
    refine check_bind_eq_ok.2 ⟨ensure_of trivial _, ?_⟩
    unfold indexOf
    simp only [List.length_map, Nat.zero_add, hcount]
    rfl

/-! ## Querying the index of a database -/

def hitOf (memory : Memory.ConfirmedMemoryInfo) (sourceRank : ℕ) : Hit :=
  ⟨uuidText memory.recordId, memory.revision, sourceRank⟩

/-- The first memories, in their order, that have the terms. -/
def directHits (db : Database) (terms : List Text) (limit : ℕ) : List Hit :=
  ((((scannedMemories db).zipIdx 1).filter fun e => HasTerms terms e.1).take limit).map fun e =>
    hitOf e.1 e.2

/-- The report of a query, read off the database. -/
def directScan (db : Database) (terms : List Text) (limit : ℕ) : Report where
  sourceStateRevision := db.stateRevision
  indexedMemoryCount := (scannedMemories db).length
  postingCount := ((scannedMemories db).flatMap postingsOf).length
  scanTruncated := maxIndexedMemories < (memoryRows db).length
  termCount := terms.length
  hits := directHits db terms limit

/-- The join finds those terms for a memory that it is posted under. -/
theorem mem_joinedTokens {db : Database} {terms : List Text} {memory : Memory.ConfirmedMemoryInfo}
    (hmemory : memory ∈ scannedMemories db) {sourceRank : ℕ} {term : Text} :
    term ∈ joinedTokens (indexOf db) terms (indexedMemory memory sourceRank) ↔
      term ∈ terms ∧ ∃ p ∈ postingsOf memory, p.token = term := by
  unfold joinedTokens indexOf
  simp only [List.mem_map, List.mem_filter, List.mem_flatMap, decide_eq_true_eq]
  constructor
  · rintro ⟨p, ⟨⟨other, hother, hp⟩, hid, hterm⟩, rfl⟩
    have hsame : other = memory := by
      apply List.inj_on_of_nodup_map (nodup_scannedMemories db) hother hmemory
      exact uuidText_injective ((mem_postingsOf.1 hp).1.symm.trans hid)
    exact ⟨hterm, p, hsame ▸ hp, rfl⟩
  · rintro ⟨hterm, p, hp, rfl⟩
    exact ⟨p, ⟨⟨memory, hmemory, hp⟩, (mem_postingsOf.1 hp).1, hterm⟩, rfl⟩

/-- The `HAVING` of the query picks the memories that have the terms. -/
theorem having_iff {db : Database} {terms : List Text} (hne : terms ≠ []) (hnodup : terms.Nodup)
    (hshort : ∀ term ∈ terms, term.length ≤ maxTokenChars) {memory : Memory.ConfirmedMemoryInfo}
    (hmemory : memory ∈ scannedMemories db) (sourceRank : ℕ) :
    (joinedTokens (indexOf db) terms (indexedMemory memory sourceRank) ≠ [] ∧
      (joinedTokens (indexOf db) terms (indexedMemory memory sourceRank)).dedup.length = terms.length) ↔
        HasTerms terms memory := by
  have hall : (joinedTokens (indexOf db) terms (indexedMemory memory sourceRank)).dedup.length =
      terms.length ↔ HasTerms terms memory := by
    rw [length_dedup_eq_iff hnodup fun term hterm => ((mem_joinedTokens hmemory).1 hterm).1,
      hasTerms_iff hshort]
    refine forall₂_congr fun term hterm => ?_
    rw [mem_joinedTokens hmemory, and_iff_right hterm]
  rw [hall, and_iff_right_iff_imp]
  intro hterms hnil
  rw [← hall, hnil] at hterms
  exact hne (List.length_eq_zero_iff.1 hterms.symm)

omit [PythonLibrary] [Search.UnicodeLibrary] in
/-- The rows of the index, in the order of their ranks. -/
theorem pairwise_indexedMemories (memories : List Memory.ConfirmedMemoryInfo) (sourceRank : ℕ) :
    ((memories.zipIdx sourceRank).map fun e => indexedMemory e.1 e.2).Pairwise fun a b =>
      toLex (a.sourceRank, a.memoryId) ≤ toLex (b.sourceRank, b.memoryId) := by
  induction memories generalizing sourceRank with
  | nil => exact List.Pairwise.nil
  | cons memory memories ih =>
    rw [List.zipIdx_cons, List.map_cons, List.pairwise_cons]
    refine ⟨fun row hrow => ?_, ih _⟩
    obtain ⟨⟨other, rank⟩, hmem, rfl⟩ := List.mem_map.1 hrow
    have hlt : sourceRank + 1 ≤ rank := (List.mem_zipIdx hmem).1
    exact le_of_lt (Prod.Lex.toLex_lt_toLex.2 (.inl hlt))

theorem selectHits_indexOf {db : Database} {terms : List Text} (hne : terms ≠ []) (hnodup : terms.Nodup)
    (hshort : ∀ term ∈ terms, term.length ≤ maxTokenChars) (limit : ℕ) :
    selectHits (indexOf db) terms limit =
      (((((scannedMemories db).zipIdx 1).filter fun e => HasTerms terms e.1).take limit).map fun e =>
        indexedMemory e.1 e.2) := by
  have hfilter : ((indexOf db).memories.filter fun m => joinedTokens (indexOf db) terms m ≠ [] ∧
      (joinedTokens (indexOf db) terms m).dedup.length = terms.length) =
      (((scannedMemories db).zipIdx 1).filter fun e => HasTerms terms e.1).map fun e =>
        indexedMemory e.1 e.2 := by
    show (List.map _ _).filter _ = _
    rw [List.filter_map]
    congr 1
    refine List.filter_congr fun e he => decide_eq_decide.2 ?_
    exact having_iff hne hnodup hshort (List.fst_mem_of_mem_zipIdx he) e.2
  unfold selectHits
  rw [hfilter, List.Pairwise.insertionSort_eq, List.map_take]
  exact (pairwise_indexedMemories _ _).sublist (List.filter_sublist.map _)

/-- What an inspection says of the index of a database. -/
def inspectionOf (db : Database) : Inspection where
  schemaVersion := schemaVersion
  algorithmId := algorithmId
  algorithmVersion := algorithmVersion
  workspaceId := uuidText db.workspaceId
  sourceStateRevision := db.stateRevision
  indexedMemoryCount := (scannedMemories db).length
  postingCount := ((scannedMemories db).flatMap postingsOf).length
  scanTruncated := maxIndexedMemories < (memoryRows db).length

omit [Search.UnicodeLibrary] in
theorem length_scannedMemories_le (db : Database) : (scannedMemories db).length ≤ maxIndexedMemories :=
  (List.length_filterMap_le _ _).trans (List.length_take_le _ _)

/-- The index of a database is a valid one. -/
theorem validateOpenIndex_indexOf {db : Database} (h : Indexable db) :
    validateOpenIndex (some (indexOf db)) = .ok (indexOf db, inspectionOf db) := by
  have htruncated : (if maxIndexedMemories < (memoryRows db).length then 1 else 0 : Int) = 0 ∨
      (if maxIndexedMemories < (memoryRows db).length then 1 else 0 : Int) = 1 := by
    split <;> simp
  have hbounds : 0 ≤ (db.stateRevision : Int) ∧ 0 ≤ ((scannedMemories db).length : Int) ∧
      ((scannedMemories db).length : Int) ≤ maxIndexedMemories ∧
      0 ≤ (((scannedMemories db).flatMap postingsOf).length : Int) ∧
      (((scannedMemories db).flatMap postingsOf).length : Int) ≤ maxPostings := by
    have hmemories := length_scannedMemories_le db
    have hpostings := h.postings
    omega
  have hlength : ((indexOf db).memories.length : Int) = (scannedMemories db).length := by
    show ((List.map _ _).length : Int) = _
    rw [List.length_map, List.length_zipIdx]
  have hworkspace : (uuid (uuidText db.workspaceId)).isSome = true := by
    rw [uuid_uuidText]
    rfl
  unfold validateOpenIndex
  refine bind_eq_ok.2 ⟨indexOf db, rfl, bind_eq_ok.2 ⟨_, rfl, ?_⟩⟩
  refine check_bind_eq_ok.2 ⟨ensure_of ⟨rfl, rfl, rfl, rfl⟩ _, ?_⟩
  refine check_bind_eq_ok.2 ⟨ensure_of hworkspace _, ?_⟩
  refine check_bind_eq_ok.2 ⟨ensure_of ⟨hbounds.1, hbounds.2.1, hbounds.2.2.1, hbounds.2.2.2.1,
    hbounds.2.2.2.2, htruncated⟩ _, ?_⟩
  refine check_bind_eq_ok.2 ⟨ensure_of ⟨hlength, rfl⟩ _, ?_⟩
  unfold inspectionOf
  by_cases hlt : maxIndexedMemories < (memoryRows db).length
  · simp [indexOf, hlt, pure, Except.pure]
  · simp [indexOf, hlt, pure, Except.pure]

theorem requireCurrent_inspectionOf (db : Database) :
    requireCurrent (inspectionOf db) (db.workspaceId, db.stateRevision) = .ok () := by
  unfold requireCurrent
  exact check_bind_eq_ok.2 ⟨ensure_of rfl _, ensure_of rfl _⟩

omit [Search.UnicodeLibrary] in
/-- A memory that the index covers passes the second look at it. -/
theorem checkedHit_on {db : Database} {memory : Memory.ConfirmedMemoryInfo}
    (h : memory ∈ scannedMemories db) (sourceRank : ℕ) :
    (checkedHit (indexedMemory memory sourceRank)).run (answerMemory db) = .ok (hitOf memory sourceRank) := by
  obtain ⟨row, hrow, hread⟩ := mem_scannedMemories.1 h
  obtain ⟨hid, hactive, hopen⟩ := of_memoryFromRecord (mem_scannedRows hrow) hread
  have hget : (Memory.get (indexedMemory memory sourceRank).memoryId).on db = .ok memory := by
    show (Memory.get (uuidText memory.recordId)).on db = _
    rw [hid]
    exact (get_on_row (mem_scannedRows hrow)).2 hread
  unfold checkedHit
  rw [ReadProgram.run_bind]
  refine bind_eq_ok.2 ⟨memory, ofService_on.2 hget, ?_⟩
  rw [ReadProgram.run_bind]
  exact check_bind_eq_ok.2 ⟨ensure_of ⟨rfl, hactive, hopen⟩ _, rfl⟩

omit [PythonLibrary] [Search.UnicodeLibrary] in
theorem ofMemory_on {α : Type} {p : MemoryReader α} {s : Shared} :
    (ofMemory p).run s.answer = p.run (answerMemory s.db) := by
  have hrun : (ofMemory p).run s.answer = (p.run (answerMemory s.db)).mapError id := ReadProgram.run_via p _
  rw [hrun]
  cases p.run (answerMemory s.db) <;> rfl

/-- What the index of a database finds is what there is. -/
theorem collect_indexOf {s : Shared} {terms : List Text} (hne : terms ≠ []) (hnodup : terms.Nodup)
    (hshort : ∀ term ∈ terms, term.length ≤ maxTokenChars) (limit : ℕ) :
    (ReadProgram.collect (fun row => ofMemory (checkedHit row)) (selectHits (indexOf s.db) terms limit)).run
      s.answer = .ok (directHits s.db terms limit) := by
  rw [ReadProgram.run_collect, selectHits_indexOf hne hnodup hshort, mapM_eq_ok, directHits,
    List.forall₂_map_left_iff, List.forall₂_map_right_iff, List.forall₂_same]
  intro e he
  have hmem : e.1 ∈ scannedMemories s.db :=
    List.fst_mem_of_mem_zipIdx (List.mem_of_mem_filter (List.mem_of_mem_take he))
  rw [ofMemory_on]
  exact checkedHit_on hmem e.2

/-- In a state whose index is of its database, a query answers as the direct scan does. -/
theorem queryIndex_indexOf {session : Session} {db : Database} (hopens : session.Opens db)
    (h : Indexable db) (query : Text) (limit : Int) :
    (queryIndex session query limit).run (Shared.answer ⟨db, .file (some (indexOf db))⟩) = (do
      let terms ← validateQuery query
      validateLimit limit
      return directScan db terms limit.toNat) := by
  have hreadOnly : requireReadOnly session = .ok () := ensure_of hopens.readOnly _
  have hidentity : (validateRepositoryIdentity session).run (answerMemory db) = .ok () :=
    validateRepositoryIdentity_on.2 ⟨hopens.workspaceId, hopens.stateRevision⟩
  have hpath : readPath.run (Shared.answer ⟨db, .file (some (indexOf db))⟩) =
      .ok (.file (some (indexOf db))) := rfl
  unfold queryIndex
  simp only [ReadProgram.run_bind, ReadProgram.run_lift, ofMemory_on, hreadOnly, hidentity, ok_bind, hpath,
    openIndex, validateOpenIndex_indexOf h, status_on, requireCurrent_inspectionOf]
  cases hterms : validateQuery query with
  | error e => rfl
  | ok terms =>
    cases hlimit : validateLimit limit with
    | error e => rfl
    | ok u =>
      obtain ⟨hne, hnodup, hshort⟩ := of_validateQuery hterms
      simp only [ok_bind, collect_indexOf (s := ⟨db, .file (some (indexOf db))⟩) hne hnodup hshort]
      rfl

/-- With nothing in between, the database can be indexed or it cannot, and a query of the index that a build
has made answers as the direct scan does. -/
theorem query_of_snapshot (session : Session) (db : Database) (query : Text) (limit : Int) :
    ((∃ index, (snapshot session).run (answerMemory db) = .ok index) ↔ session.Opens db ∧ Indexable db) ∧
      ∀ index, (snapshot session).run (answerMemory db) = .ok index →
        (queryIndex session query limit).run (Shared.answer ⟨db, .file (some index)⟩) = (do
          let terms ← validateQuery query
          validateLimit limit
          return directScan db terms limit.toNat) := by
  refine ⟨⟨?_, ?_⟩, ?_⟩
  · rintro ⟨index, hindex⟩
    obtain ⟨hopens, hindexable, -⟩ := snapshot_on.1 hindex
    exact ⟨hopens, hindexable⟩
  · rintro ⟨hopens, hindexable⟩
    exact ⟨_, snapshot_on.2 ⟨hopens, hindexable, rfl⟩⟩
  · intro index hindex
    obtain ⟨hopens, hindexable, rfl⟩ := snapshot_on.1 hindex
    exact queryIndex_indexOf hopens hindexable query limit

end

end DollState.Recall.Index
