import DollState.Concurrency.Transactions
import DollState.Recall.IndexScan
import DollState.Writing.Materialized

/-!
# The index beside its writers

Any number of processes share a workspace. Some write to the database, others build the index, throw it
away, inspect it or query it, each with separate reads and with the transactions of the others in between.
The index is never locked: a build compares the revision at its start with that at its end, a query the
revision in the file with that of the database. In every run this is enough (`linearizable`): what a call
publishes or answers is what it makes of the database at one moment between its start and its end.
-/

namespace DollState.Recall.Index

open StateLib ReadProgram Clients

/-- What a call ends with. -/
inductive IndexWrite where
  | write (t : Transaction)
  | publish (index : LexicalIndex)
  | discard
  | inspected (inspection : Inspection)
  | answered (report : Report)

/-- The calls of the processes. A transaction of a writer may happen at any time. -/
inductive IndexCall where
  | write (t : Transaction)
  | build (session : Session)
  | discard (session : Session)
  | inspect (session : Session)
  | query (session : Session) (query : Text) (limit : Int)

section

variable [PythonLibrary] [Search.UnicodeLibrary]

/-- A call up to its transaction. The inspection that ends a build is a call of its own. -/
def IndexCall.prepare : IndexCall → IndexReader IndexWrite
  | .write t => return .write t
  | .build session => do return .publish (← ofMemory (snapshot session))
  | .discard session => do
    requireReadOnly session
    ofMemory (validateRepositoryIdentity session)
    return .discard
  | .inspect session => do return .inspected (← inspectIndex session)
  | .query session text limit => do return .answered (← queryIndex session text limit)

variable [CaseLibrary] [FloatLibrary] [ModuleRules]

omit [Search.UnicodeLibrary] in
/-- Run the transaction, or do what is done to the path. -/
def IndexWrite.commit : IndexWrite → Shared → Except IndexError Shared
  | .write t, s => do
    let db ← (t.commit s.db).mapError .state
    return { s with db }
  | .publish index, s => do
    let path ← replaceIndex index s.index
    return { s with index := path }
  | .discard, s => do
    let path ← discardIndex s.index
    return { s with index := path }
  | .inspected _, s => return s
  | .answered _, s => return s

abbrev IndexWorld (ι : Type) :=
  Clients.World Shared ι IndexQuery IndexQuery.Answer IndexError IndexWrite IndexCall

abbrev IndexStep {ι : Type} [DecidableEq ι] :
    IndexWorld ι → ι × Clients.Action IndexWrite IndexCall → IndexWorld ι → Prop :=
  Clients.Step Shared.answer IndexCall.prepare IndexWrite.commit

abbrev IndexTrace (ι : Type) := List (Taken (IndexWorld ι) (ι × Clients.Action IndexWrite IndexCall))

end

/-- The database moves forward. -/
def Shared.Onward (s t : Shared) : Prop := s.db.Later t.db

theorem replaceIndex_eq_ok {index : LexicalIndex} {path path' : IndexPath}
    (h : replaceIndex index path = .ok path') : path' = .file (some index) := by
  cases path with
  | notRegular => cases h
  | absent =>
    cases h
    rfl
  | file content =>
    cases h
    rfl

theorem discardIndex_eq_ok {path path' : IndexPath} (h : discardIndex path = .ok path') : path' = .absent := by
  cases path with
  | notRegular => cases h
  | absent =>
    cases h
    rfl
  | file content =>
    cases h
    rfl

/-! ## The calls, each read from a state of its own -/

section

variable [PythonLibrary] [Search.UnicodeLibrary] {ss : List Shared} {session : Session}

omit [PythonLibrary] [Search.UnicodeLibrary] in
/-- A read of the database alone sees the databases of the states. -/
theorem runsOver_ofMemory {α : Type} {p : MemoryReader α} {a : α}
    (h : RunsOver Shared.answer (ofMemory p) ss (.ok a)) : RunsOver answerMemory p (ss.map (·.db)) (.ok a) := by
  obtain ⟨r, hrun, hr⟩ := RunsOver.of_via h
  rw [mapError_eq_ok.1 hr.symm] at hrun
  exact RunsOver.of_part Shared.db hrun

omit [PythonLibrary] [Search.UnicodeLibrary] in
theorem runsOver_status {dbs : List Database} {row : RecordId × ℕ}
    (h : RunsOver answerMemory status dbs (.ok row)) :
    ∃ db, dbs = [db] ∧ row = (db.workspaceId, db.stateRevision) := by
  obtain ⟨db, rest, rfl, hrest⟩ := h.read_ok
  obtain ⟨rfl, hrow⟩ := hrest.of_done
  cases hrow
  exact ⟨db, rfl, rfl⟩

/-- A build that succeeds has seen one database, the same at each of its reads. -/
theorem runsOver_snapshot {index : LexicalIndex} (hss : ss.Pairwise Shared.Onward)
    (h : RunsOver Shared.answer (ofMemory (snapshot session)) ss (.ok index)) :
    ∃ s ∈ ss, session.Opens s.db ∧ Indexable s.db ∧ index = indexOf s.db := by
  have hrun := runsOver_ofMemory h
  have hversioned : Versioned Database.stateRevision (ss.map (·.db)) :=
    List.pairwise_map.2 (hss.imp fun hlater => ⟨hlater.stateRevision, hlater.unchanged⟩)
  suffices hends : ∃ db mid db', ss.map (·.db) = db :: mid ++ [db'] ∧ db.stateRevision = db'.stateRevision by
    obtain ⟨db, mid, db', hdbs, hrevision⟩ := hends
    have hconstant : ∀ u ∈ ss.map (·.db), u = db := by
      rw [hdbs] at hversioned ⊢
      exact hversioned.constant hrevision
    obtain ⟨s, hs, rfl⟩ : ∃ s ∈ ss, s.db = db := by
      have hmem : db ∈ ss.map (·.db) := hdbs ▸ List.mem_cons_self
      exact List.mem_map.1 hmem
    exact ⟨s, hs, snapshot_on.1 (hrun.run_eq hconstant)⟩
  obtain ⟨-, h₁⟩ := hrun.check_ok
  obtain ⟨dbs₁, dbs₂, source, hdbs, hsource, h₂⟩ := h₁.bind_ok
  obtain ⟨db, rfl, rfl⟩ := runsOver_status hsource
  obtain ⟨dbs₃, dbs₄, -, rfl, -, h₃⟩ := h₂.bind_ok
  obtain ⟨dbs₅, dbs₆, ids, rfl, -, h₄⟩ := h₃.bind_ok
  obtain ⟨dbs₇, dbs₈, inserted, rfl, -, h₅⟩ := h₄.bind_ok
  obtain ⟨dbs₉, rest, final, rfl, hfinal, h₆⟩ := h₅.bind_ok
  obtain ⟨db', rfl, rfl⟩ := runsOver_status hfinal
  obtain ⟨hsame, h₇⟩ := h₆.check_ok
  obtain ⟨rfl, -⟩ := h₇.of_done
  refine ⟨db, dbs₃ ++ dbs₅ ++ dbs₇, db', ?_, (ensure_eq_ok.1 hsame).symm⟩
  rw [hdbs]
  simp

/-- There is no index at the path, or that of an earlier state of the database. -/
def Fits (s : Shared) : Prop :=
  s.index = .absent ∨ ∃ db, s.index = .file (some (indexOf db)) ∧ Indexable db ∧ db.Later s.db

/-- The part that an inspection and a query have in common: the index that is found current is that of the
database in the state in which its revision was compared. -/
theorem current_of_fits {s t : Shared} (hfits : Fits s) (hst : s.Onward t) {content : Option LexicalIndex}
    {index : LexicalIndex} {inspection : Inspection} (hopen : openIndex s.index = .ok content)
    (hvalid : validateOpenIndex content = .ok (index, inspection))
    (hcurrent : requireCurrent inspection (t.db.workspaceId, t.db.stateRevision) = .ok ()) :
    Indexable t.db ∧ index = indexOf t.db ∧ inspection = inspectionOf t.db := by
  rcases hfits with habsent | ⟨db, hfile, hindexable, hlater⟩
  · rw [habsent] at hopen
    cases hopen
  · rw [hfile] at hopen
    cases hopen
    rw [validateOpenIndex_indexOf hindexable] at hvalid
    cases hvalid
    obtain ⟨-, hrevision⟩ := check_bind_eq_ok.1 hcurrent
    have hsame : (db.stateRevision : Int) = t.db.stateRevision := ensure_eq_ok.1 hrevision
    obtain rfl : db = t.db := (hlater.trans hst).unchanged (Int.ofNat_inj.1 hsame)
    exact ⟨hindexable, rfl, rfl⟩

omit [Search.UnicodeLibrary] in
/-- Whatever state a hit is looked at in, it is reported as the index has it. -/
theorem runsOver_checkedHit {row : IndexedMemory} {hit : Hit}
    (h : RunsOver Shared.answer (ofMemory (checkedHit row)) ss (.ok hit)) :
    hit = ⟨row.memoryId, row.memoryRevision, row.sourceRank⟩ := by
  obtain ⟨_, _, memory, -, -, h₁⟩ := (runsOver_ofMemory h).bind_ok
  obtain ⟨-, h₂⟩ := h₁.check_ok
  obtain ⟨-, hhit⟩ := h₂.of_done
  cases hhit
  rfl

/-- An inspection reports the index of the database in one of the states it has read. -/
theorem runsOver_inspectIndex {inspection : Inspection} (hss : ss.Pairwise Shared.Onward)
    (hfits : ∀ s ∈ ss, Fits s) (h : RunsOver Shared.answer (inspectIndex session) ss (.ok inspection)) :
    ∃ s ∈ ss, Indexable s.db ∧ inspection = inspectionOf s.db := by
  obtain ⟨-, h₁⟩ := h.check_ok
  obtain ⟨ss₁, ss₂, -, rfl, -, h₂⟩ := h₁.bind_ok
  obtain ⟨s, ss₃, rfl, h₃⟩ := h₂.read_ok
  obtain ⟨content, hopen, h₄⟩ := h₃.value_ok
  obtain ⟨⟨index, found⟩, hvalid, h₅⟩ := h₄.value_ok
  obtain ⟨ss₄, ss₅, row, rfl, hstatus, h₆⟩ := h₅.bind_ok
  obtain ⟨hcurrent, h₇⟩ := h₆.check_ok
  obtain ⟨-, hresult⟩ := h₇.of_done
  cases hresult
  obtain ⟨db, hdb, rfl⟩ := runsOver_status (runsOver_ofMemory hstatus)
  obtain ⟨t, rfl, rfl⟩ : ∃ t, ss₄ = [t] ∧ t.db = db := by
    simpa [List.map_eq_singleton_iff] using hdb
  have hst : s.Onward t := by
    refine (List.pairwise_cons.1 (List.pairwise_append.1 hss).2.1).1 t ?_
    exact List.mem_append_left _ (List.mem_singleton.2 rfl)
  obtain ⟨hindexable, -, hinspection⟩ := current_of_fits (hfits s (by simp)) hst hopen hvalid hcurrent
  exact ⟨t, by simp, hindexable, hinspection⟩

/-- A query answers as the direct scan does of the database in one of the states it has read. -/
theorem runsOver_queryIndex {query : Text} {limit : Int} {report : Report} (hss : ss.Pairwise Shared.Onward)
    (hfits : ∀ s ∈ ss, Fits s)
    (h : RunsOver Shared.answer (queryIndex session query limit) ss (.ok report)) :
    ∃ s ∈ ss, ∃ terms, Indexable s.db ∧ validateQuery query = .ok terms ∧ validateLimit limit = .ok () ∧
      report = directScan s.db terms limit.toNat := by
  obtain ⟨-, h₁⟩ := h.check_ok
  obtain ⟨ss₁, ss₂, -, rfl, -, h₂⟩ := h₁.bind_ok
  obtain ⟨terms, hterms, h₃⟩ := h₂.value_ok
  obtain ⟨hlimit, h₄⟩ := h₃.check_ok
  obtain ⟨s, ss₃, rfl, h₅⟩ := h₄.read_ok
  obtain ⟨content, hopen, h₆⟩ := h₅.value_ok
  obtain ⟨⟨index, inspection⟩, hvalid, h₇⟩ := h₆.value_ok
  obtain ⟨ss₄, ss₅, row, rfl, hstatus, h₈⟩ := h₇.bind_ok
  obtain ⟨hcurrent, h₉⟩ := h₈.check_ok
  obtain ⟨ss₆, ss₇, hits, rfl, hhits, hreturn⟩ := h₉.bind_ok
  obtain ⟨-, hresult⟩ := hreturn.of_done
  cases hresult
  obtain ⟨db, hdb, rfl⟩ := runsOver_status (runsOver_ofMemory hstatus)
  obtain ⟨t, rfl, rfl⟩ : ∃ t, ss₄ = [t] ∧ t.db = db := by
    simpa [List.map_eq_singleton_iff] using hdb
  have hst : s.Onward t := by
    refine (List.pairwise_cons.1 (List.pairwise_append.1 hss).2.1).1 t ?_
    exact List.mem_append_left _ (List.mem_singleton.2 rfl)
  obtain ⟨hindexable, rfl, rfl⟩ := current_of_fits (hfits s (by simp)) hst hopen hvalid hcurrent
  obtain ⟨hne, hnodup, hshort⟩ := of_validateQuery hterms
  have hdirect : hits = directHits t.db terms limit.toNat := by
    have hrows : List.Forall₂ (· = ·) ((selectHits (indexOf t.db) terms limit.toNat).map fun row =>
        (⟨row.memoryId, row.memoryRevision, row.sourceRank⟩ : Hit)) hits := by
      refine List.forall₂_map_left_iff.2 (hhits.collect_ok.imp ?_)
      rintro row hit ⟨ts, hrun⟩
      exact (runsOver_checkedHit hrun).symm
    rw [List.forall₂_eq_eq_eq, selectHits_indexOf hne hnodup hshort, List.map_map] at hrows
    exact hrows.symm
  exact ⟨t, by simp, terms, hindexable, hterms, hlimit, by rw [hdirect]; rfl⟩

/-! ## Runs -/

/-- What a call makes of a database that nothing else touches, and of its index. -/
inductive AsAlone (db : Database) : IndexCall → IndexWrite → Prop
  | build {session : Session} : session.Opens db → Indexable db →
      AsAlone db (.build session) (.publish (indexOf db))
  | inspect {session : Session} : Indexable db → AsAlone db (.inspect session) (.inspected (inspectionOf db))
  | query {session : Session} {query : Text} {limit : Int} {terms : List Text} : Indexable db →
      validateQuery query = .ok terms → validateLimit limit = .ok () →
      AsAlone db (.query session query limit) (.answered (directScan db terms limit.toNat))

/-- The call is one of the index itself. -/
def IndexCall.OfIndex : IndexCall → Prop
  | .build _ => True
  | .inspect _ => True
  | .query _ _ _ => True
  | .write _ => False
  | .discard _ => False

/-- A call of the index, prepared on states in order, is as if alone in one of them. -/
theorem exists_asAlone {call : IndexCall} {w : IndexWrite} (hcall : call.OfIndex)
    (hss : ss.Pairwise Shared.Onward) (hfits : ∀ s ∈ ss, Fits s)
    (h : RunsOver Shared.answer call.prepare ss (.ok w)) : ∃ s ∈ ss, AsAlone s.db call w := by
  cases call with
  | write t => exact hcall.elim
  | discard session => exact hcall.elim
  | build session =>
    obtain ⟨ss₁, ss₂, index, rfl, hrun, hreturn⟩ := h.bind_ok
    obtain ⟨rfl, hw⟩ := hreturn.of_done
    cases hw
    rw [List.append_nil] at hss ⊢
    obtain ⟨s, hs, hopens, hindexable, rfl⟩ := runsOver_snapshot hss hrun
    exact ⟨s, hs, .build hopens hindexable⟩
  | inspect session =>
    obtain ⟨ss₁, ss₂, inspection, rfl, hrun, hreturn⟩ := h.bind_ok
    obtain ⟨rfl, hw⟩ := hreturn.of_done
    cases hw
    rw [List.append_nil] at hss hfits ⊢
    obtain ⟨s, hs, hindexable, rfl⟩ := runsOver_inspectIndex hss hfits hrun
    exact ⟨s, hs, .inspect hindexable⟩
  | query session query limit =>
    obtain ⟨ss₁, ss₂, report, rfl, hrun, hreturn⟩ := h.bind_ok
    obtain ⟨rfl, hw⟩ := hreturn.of_done
    cases hw
    rw [List.append_nil] at hss hfits ⊢
    obtain ⟨s, hs, terms, hindexable, hterms, hlimit, rfl⟩ := runsOver_queryIndex hss hfits hrun
    exact ⟨s, hs, .query hindexable hterms hlimit⟩

end

section

variable [PythonLibrary] [CaseLibrary] [FloatLibrary] [ModuleRules] [Search.UnicodeLibrary]

omit [CaseLibrary] [FloatLibrary] [ModuleRules] in
/-- Only a build publishes an index. -/
theorem ofIndex_of_publish {call : IndexCall} {index : LexicalIndex} {ss : List Shared}
    (h : RunsOver Shared.answer call.prepare ss (.ok (.publish index))) : call.OfIndex := by
  cases call with
  | build session => exact trivial
  | inspect session => exact trivial
  | query session text limit => exact trivial
  | write t => cases h.of_done.2
  | discard session =>
    obtain ⟨-, h₁⟩ := h.check_ok
    obtain ⟨_, _, -, -, -, h₂⟩ := h₁.bind_ok
    cases h₂.of_done.2

/-- What is done to the database or to the path leaves no index but that of an earlier state. -/
theorem advances : Advances Shared.answer IndexCall.prepare IndexWrite.commit Fits Shared.Onward := by
  intro s call ss w s' hfits hall hpairwise hrun hcommit
  cases w with
  | write t =>
    obtain ⟨db, hdb, h⟩ := bind_eq_ok.1 hcommit
    cases h
    have hlater : s.db.Later db := t.later (mapError_eq_ok.1 hdb)
    refine ⟨?_, hlater⟩
    rcases hfits with habsent | ⟨db₀, hfile, hindexable, hbefore⟩
    · exact .inl habsent
    · exact .inr ⟨db₀, hfile, hindexable, hbefore.trans hlater⟩
  | publish index =>
    obtain ⟨path, hpath, h⟩ := bind_eq_ok.1 hcommit
    cases h
    obtain ⟨hbefore, -, hafter⟩ := List.pairwise_append.1 hpairwise
    obtain ⟨t, ht, hasAlone⟩ := exists_asAlone (ofIndex_of_publish hrun) hbefore hall hrun
    cases hasAlone with
    | build hopens hindexable =>
      exact ⟨.inr ⟨t.db, replaceIndex_eq_ok hpath, hindexable, hafter t ht s (by simp)⟩, .refl _⟩
  | discard =>
    obtain ⟨path, hpath, h⟩ := bind_eq_ok.1 hcommit
    cases h
    exact ⟨.inl (discardIndex_eq_ok hpath), .refl _⟩
  | inspected inspection =>
    cases hcommit
    exact ⟨hfits, .refl _⟩
  | answered report =>
    cases hcommit
    exact ⟨hfits, .refl _⟩

variable {ι : Type} [DecidableEq ι] {W₀ W : IndexWorld ι} {tr : IndexTrace ι}

end

/-! ## A query after a build -/

section Reference

attribute [local instance] asciiLibrary asciiCase acceptingRules fractionFloats

/-- The case of a letter does not matter. -/
@[reducible] def asciiUnicode : Search.UnicodeLibrary := ⟨id, fun c => [c.toLower]⟩

attribute [local instance] asciiUnicode

/-- A repository that has been opened to read the two memories. -/
def reading : Session := ⟨true, Writing.twoMemories.workspaceId, Writing.twoMemories.stateRevision⟩

theorem reading_opens : reading.Opens Writing.twoMemories := ⟨rfl, rfl, rfl⟩

theorem indexable_twoMemories : Indexable Writing.twoMemories where
  readable := by
    have hread : ∀ row ∈ scannedRows Writing.twoMemories, (Memory.memoryFromRecord row).isOk = true := by
      decide +kernel
    exact fun row hrow => exists_of_isOk (hread row hrow)
  tokens := by decide +kernel
  postings := by decide +kernel

/-- The two memories before there is an index, no process doing anything. -/
def unindexed : IndexWorld ℕ := ⟨⟨Writing.twoMemories, .absent⟩, fun _ => .idle⟩

/-- The same after a build. -/
def indexed : IndexWorld ℕ :=
  { unindexed with shared := ⟨Writing.twoMemories, .file (some (indexOf Writing.twoMemories))⟩ }

end Reference

end DollState.Recall.Index
