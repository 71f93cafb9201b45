import DollState.Domain.OneState
import DollState.Domain.StatusIsolation

/-!
# Which checkpoint is the latest

The checkpoints and the decisions of a project are sorted by the texts of their times. A time may be
written with a fraction of a second or without one, and `'.'` sorts before `'Z'`: half a second past
noon comes before noon. The status and the Resume Bundle show the latest checkpoint, and list the
decisions by the instants they were taken at, exactly when the texts sort as their instants do
(`showsLatest_iff`).
-/

namespace DollState

open StateLib

namespace Status

/-! ## Sorted values -/

section

variable {α κ : Type} [LinearOrder κ] {key : α → κ} {items : List α}

theorem mem_sortedBy {item : α} : item ∈ sortedBy key items ↔ item ∈ items :=
  List.mem_insertionSort _

theorem pairwise_sortedBy : (sortedBy key items).Pairwise fun a b => key a ≤ key b :=
  have : IsTrans α fun a b => key a ≤ key b := ⟨fun _ _ _ => le_trans⟩
  have : Std.Total fun a b : α => key a ≤ key b := ⟨fun a b => le_total (key a) (key b)⟩
  List.pairwise_insertionSort _ _

/-- The last of the sorted values is the greatest. -/
theorem le_of_getLast?_sortedBy {last item : α} (h : (sortedBy key items).getLast? = some last)
    (hitem : item ∈ items) : key item ≤ key last := by
  obtain ⟨front, hfront⟩ := List.getLast?_eq_some_iff.1 h
  have hsorted : (sortedBy key items).Pairwise fun a b => key a ≤ key b := pairwise_sortedBy
  have hmem : item ∈ sortedBy key items := mem_sortedBy.2 hitem
  rw [hfront] at hsorted hmem
  rcases List.mem_append.1 hmem with hmem | hmem
  · exact (List.pairwise_append.1 hsorted).2.2 item hmem last List.mem_cons_self
  · exact (List.mem_singleton.1 hmem).symm ▸ le_rfl

end

/-- Texts come first in a key. -/
theorem fst_le_of_le {κ : Type} [LinearOrder κ] {s t : Text} {a b : κ} (h : toLex (s, a) ≤ toLex (t, b)) :
    s ≤ t := by
  rcases Prod.Lex.toLex_le_toLex.1 h with h | ⟨h, -⟩
  · exact h.le
  · exact h.le

section

variable [PythonLibrary]

/-- Times are in order wherever their texts are exactly when a greater text is no earlier time. -/
theorem pairwise_instant_iff {times : List Text} (h : times.Pairwise (· ≤ ·)) :
    (times.Pairwise fun s t => instant s ≤ instant t) ↔
      ∀ s ∈ times, ∀ t ∈ times, s < t → instant s ≤ instant t := by
  constructor
  · intro hinstants s hs t ht hlt
    obtain ⟨i, hi, rfl⟩ := List.mem_iff_getElem.1 hs
    obtain ⟨j, hj, rfl⟩ := List.mem_iff_getElem.1 ht
    rcases lt_trichotomy i j with hij | rfl | hji
    · exact List.pairwise_iff_getElem.1 hinstants i j hi hj hij
    · exact absurd hlt (lt_irrefl _)
    · exact absurd (List.pairwise_iff_getElem.1 h j i hj hi hji) (not_le_of_gt hlt)
  · intro horder
    refine h.imp_of_mem fun {s t} hs ht hle => ?_
    rcases hle.eq_or_lt with rfl | hlt
    · exact le_rfl
    · exact horder s hs t ht hlt

end

/-! ## What counts -/

section

variable [PythonLibrary] [ModuleRules]

/-- The checkpoints that the status of a project is made of. -/
def CheckpointCounts (db : Database) (projectId : RecordId) (item : Checkpoint.CheckpointInfo) : Prop :=
  (∃ id ∈ idsOf "project_checkpoint" db, (Checkpoint.get (uuidText id)).on db = .ok item) ∧
    isCheckpoint projectId item = true ∧ item.sensitivity ≠ .secret

/-- The decisions that the status of a project lists. -/
def DecisionCounts (db : Database) (projectId : RecordId) (item : Project.DecisionInfo) : Prop :=
  (∃ id ∈ idsOf "decision" db, (Project.getDecision (uuidText id)).on db = .ok item) ∧
    (∃ project, (Project.get (uuidText projectId)).on db = .ok project ∧ isGoverning project item = true) ∧
    item.sensitivity ≠ .secret

/-- The latest checkpoint is one of the project's, at the last of their instants, and the decisions are
listed by the instants they were taken at. -/
structure ShowsLatest (db : Database) (projectId : RecordId) (latest : Option StatusCheckpoint)
    (decidedAt : List Text) : Prop where
  isOne : ∀ shown ∈ latest, ∃ item, CheckpointCounts db projectId item ∧ shown = statusCheckpoint item
  isLatest : ∀ item, CheckpointCounts db projectId item →
    ∃ shown ∈ latest, instant item.content.asOf ≤ instant shown.asOf
  inOrder : decidedAt.Pairwise fun s t => instant s ≤ instant t

/-- Where the texts of the times sort as their instants do: the greatest text of a checkpoint names the
last instant, and of two decisions the one with the greater text was not taken before the other. -/
structure SortsByInstant (db : Database) (projectId : RecordId) : Prop where
  checkpoints : ∀ last, CheckpointCounts db projectId last →
    (∀ item, CheckpointCounts db projectId item → item.content.asOf ≤ last.content.asOf) →
    ∀ item, CheckpointCounts db projectId item → instant item.content.asOf ≤ instant last.content.asOf
  decisions : ∀ a b, DecisionCounts db projectId a → DecisionCounts db projectId b →
    a.content.decidedAt < b.content.decidedAt → instant a.content.decidedAt ≤ instant b.content.decidedAt

variable {db : Database} {projectId : RecordId} {text : Text} {status : ProjectStatusInfo}

omit [PythonLibrary] [ModuleRules] in
theorem mem_kept {α κ : Type} [LinearOrder κ] {key : α → κ} {recordType : String} {get : Text → Reader α}
    {vs : List α} {mine : α → Bool} {sensitivity : α → RecordSensitivity} {item : α}
    (hvs : (scan recordType get).on db = .ok vs) :
    item ∈ (kept key mine sensitivity vs).1 ↔
      (∃ id ∈ idsOf recordType db, (get (uuidText id)).on db = .ok item) ∧ mine item = true ∧
        sensitivity item ≠ .secret := by
  rw [scan_on] at hvs
  have hscanned : item ∈ vs ↔ ∃ id ∈ idsOf recordType db, (get (uuidText id)).on db = .ok item := by
    refine ⟨exists_of_mem_mapM hvs, ?_⟩
    rintro ⟨id, hid, hget⟩
    obtain ⟨v, hv, hget'⟩ := mapM_ok_of_mem hvs hid
    cases hget.symm.trans hget'
    exact hv
  simp only [kept, visible, mem_sortedBy, List.mem_filter, hscanned, decide_eq_true_eq, and_assoc]

/-- What the builder has read of checkpoints and decisions is what counts, sorted. -/
structure Inputs.Gathers (db : Database) (i : Inputs) : Prop where
  mem_checkpoints : ∀ item, item ∈ i.checkpoints ↔ CheckpointCounts db i.project.projectId item
  mem_decisions : ∀ item, item ∈ i.decisions ↔ DecisionCounts db i.project.projectId item
  checkpoints : ∃ items, i.checkpoints = sortedBy checkpointSortKey items
  decisions : ∃ items, i.decisions = sortedBy decisionSortKey items

omit [PythonLibrary] [ModuleRules] in
theorem text_le_of_checkpointSortKey {a b : Checkpoint.CheckpointInfo}
    (h : checkpointSortKey a ≤ checkpointSortKey b) : a.content.asOf ≤ b.content.asOf := fst_le_of_le h

omit [PythonLibrary] [ModuleRules] in
theorem text_le_of_decisionSortKey {a b : Project.DecisionInfo}
    (h : decisionSortKey a ≤ decisionSortKey b) : a.content.decidedAt ≤ b.content.decidedAt := fst_le_of_le h

/-- The last of the checkpoints has the greatest text. -/
theorem Inputs.Gathers.last {i : Inputs} (hi : i.Gathers db) {last : Checkpoint.CheckpointInfo}
    (hlast : i.checkpoints.getLast? = some last) :
    CheckpointCounts db i.project.projectId last ∧ ∀ item, CheckpointCounts db i.project.projectId item →
      item.content.asOf ≤ last.content.asOf := by
  obtain ⟨items, hitems⟩ := hi.checkpoints
  refine ⟨(hi.mem_checkpoints last).1 (List.mem_of_getLast? hlast), fun item hitem => ?_⟩
  have hmem := (hi.mem_checkpoints item).2 hitem
  rw [hitems] at hlast hmem
  exact text_le_of_checkpointSortKey (le_of_getLast?_sortedBy hlast (mem_sortedBy.1 hmem))

/-- The checkpoint shown is the one whose text is the greatest, and what its instant is decides. -/
theorem Inputs.Gathers.showsLatest_iff {i : Inputs} (hi : i.Gathers db) :
    ShowsLatest db i.project.projectId (i.checkpoints.getLast?.map statusCheckpoint)
      (i.decisions.map fun item => item.content.decidedAt) ↔ SortsByInstant db i.project.projectId := by
  obtain ⟨decisions, hdecisions⟩ := hi.decisions
  have hsorted : (i.decisions.map fun item => item.content.decidedAt).Pairwise (· ≤ ·) := by
    rw [hdecisions, List.pairwise_map]
    exact pairwise_sortedBy.imp fun {a b} (h : decisionSortKey a ≤ decisionSortKey b) => text_le_of_decisionSortKey h
  constructor
  · intro h
    refine ⟨fun last hcounts hgreatest item hitem => ?_, fun a b ha hb hlt => ?_⟩
    · obtain ⟨shown, hshown, hle⟩ := h.isLatest item hitem
      obtain ⟨found, hfound, rfl⟩ := Option.mem_map.1 hshown
      obtain ⟨hfoundCounts, hfoundGreatest⟩ := hi.last hfound
      have htext : last.content.asOf = found.content.asOf :=
        le_antisymm (hfoundGreatest last hcounts) (hgreatest found hfoundCounts)
      rw [htext]
      exact hle
    · exact (pairwise_instant_iff hsorted).1 h.inOrder _
        (List.mem_map_of_mem ((hi.mem_decisions a).2 ha)) _ (List.mem_map_of_mem ((hi.mem_decisions b).2 hb)) hlt
  · intro h
    refine ⟨fun shown hshown => ?_, fun item hitem => ?_, (pairwise_instant_iff hsorted).2 ?_⟩
    · obtain ⟨found, hfound, rfl⟩ := Option.mem_map.1 hshown
      exact ⟨found, (hi.last hfound).1, rfl⟩
    · have hne : i.checkpoints ≠ [] := List.ne_nil_of_mem ((hi.mem_checkpoints item).2 hitem)
      have hlast := List.getLast?_eq_getLast_of_ne_nil hne
      obtain ⟨hcounts, hgreatest⟩ := hi.last hlast
      exact ⟨_, Option.mem_map.2 ⟨_, hlast, rfl⟩, h.checkpoints _ hcounts hgreatest item hitem⟩
    · intro s hs t ht hlt
      obtain ⟨a, ha, rfl⟩ := List.mem_map.1 hs
      obtain ⟨b, hb, rfl⟩ := List.mem_map.1 ht
      exact h.decisions a b ((hi.mem_decisions a).1 ha) ((hi.mem_decisions b).1 hb) hlt

variable [FoldLibrary]

theorem gathers_of_inputs {i : Inputs} (h : (inputs projectId).on db = .ok i) : i.Gathers db := by
  have hrun := h
  simp only [inputs, Reader.on, ReadProgram.run_bind, ReadProgram.run_lift] at hrun
  obtain ⟨project, hproject, hrun⟩ := bind_eq_ok.1 hrun
  obtain ⟨hactive, hrun⟩ := check_bind_eq_ok.1 hrun
  obtain ⟨hpublic, -⟩ := check_bind_eq_ok.1 hrun
  rcases inputs_cases hproject (ensure_eq_ok.1 hactive) (ensure_eq_ok.1 hpublic) with
    ⟨-, ws, cs, ds, ps, rs, -, hcs, hds, -, -, hi⟩ | ⟨-, e, he, -⟩
  · cases hi.symm.trans h
    obtain ⟨-, -, -, -, hid, -⟩ := getProject_on hproject
    refine ⟨fun item => mem_kept hcs, fun item => ?_, ⟨_, rfl⟩, ⟨_, rfl⟩⟩
    refine (mem_kept hds).trans (and_congr_right' (and_congr_left' ?_))
    have hget : (Project.get (uuidText project.projectId)).on db = .ok project := by
      rw [hid]
      exact hproject
    refine ⟨fun hgoverning => ⟨project, hget, hgoverning⟩, ?_⟩
    rintro ⟨project', hget', hgoverning⟩
    cases hget.symm.trans hget'
    exact hgoverning
  · cases he.symm.trans h

theorem exists_inputs_of_build (h : (build text).on db = .ok status) :
    ∃ i : Inputs, i.Gathers db ∧ status = statusOf i := by
  simp only [build, Reader.on, ReadProgram.run_bind, ReadProgram.run_lift, ReadProgram.run_catching] at h
  obtain ⟨projectId, -, h⟩ := bind_eq_ok.1 h
  obtain ⟨i, hi, h⟩ := bind_eq_ok.1 h
  cases h
  exact ⟨i, gathers_of_inputs (catching_eq_ok.1 hi), rfl⟩

omit [FoldLibrary] in
theorem decidedAt_of_getDecision {i : Inputs} (hi : i.Gathers db) {shown : StatusDecision}
    (hshown : shown ∈ i.decisions.map statusDecision) {item : Project.DecisionInfo}
    (hget : (Project.getDecision (uuidText shown.decisionId)).on db = .ok item) :
    item.content.decidedAt = shown.decidedAt := by
  obtain ⟨found, hfound, rfl⟩ := List.mem_map.1 hshown
  obtain ⟨⟨id, hid, hread⟩, -⟩ := (hi.mem_decisions found).1 hfound
  obtain ⟨r, hr, htype⟩ := mem_idsOf.1 hid
  have hnamed : found.decisionId = id := named_decision db id r found hr htype hread
  rw [← hnamed] at hread
  cases hread.symm.trans hget
  rfl

variable [Resume.BundleRules]

/-- A bundle shows the checkpoint of the status and lists the decisions in its order. -/
theorem times_of_members {workspaceId : RecordId} {bundle : Resume.ResumeBundle}
    (h : (build text).on db = .ok status) (hbundle : (Resume.members workspaceId text).on db = .ok bundle) :
    bundle.latestCheckpoint = status.latestCheckpoint ∧
      (bundle.decisions.map fun item => item.content.decidedAt) =
        status.governingDecisions.map fun item => item.decidedAt := by
  simp only [Resume.members, Reader.on, ReadProgram.run_bind] at hbundle
  obtain ⟨status', hstatus, hbundle⟩ := bind_eq_ok.1 hbundle
  cases hstatus.symm.trans h
  obtain ⟨_, -, hbundle⟩ := bind_eq_ok.1 hbundle
  obtain ⟨_, -, hbundle⟩ := bind_eq_ok.1 hbundle
  obtain ⟨_, -, hbundle⟩ := bind_eq_ok.1 hbundle
  obtain ⟨_, -, hbundle⟩ := bind_eq_ok.1 hbundle
  obtain ⟨decisions, hdecisions, hbundle⟩ := bind_eq_ok.1 hbundle
  obtain ⟨_, -, hbundle⟩ := bind_eq_ok.1 hbundle
  obtain ⟨_, -, hbundle⟩ := bind_eq_ok.1 hbundle
  obtain ⟨_, -, hbundle⟩ := bind_eq_ok.1 hbundle
  obtain ⟨_, -, hbundle⟩ := bind_eq_ok.1 hbundle
  obtain ⟨_, -, hbundle⟩ := bind_eq_ok.1 hbundle
  obtain ⟨_, -, hbundle⟩ := bind_eq_ok.1 hbundle
  cases hbundle
  obtain ⟨i, hi, rfl⟩ := exists_inputs_of_build h
  rw [ReadProgram.run_collect] at hdecisions
  exact ⟨rfl, map_of_mapM hdecisions fun shown hshown item hget => decidedAt_of_getDecision hi hshown hget⟩

/-- A status and the bundle made with it show the latest checkpoint, and list the decisions as they were
taken, exactly when the texts of the times sort by instant. -/
theorem latest_iff_sortsByInstant (h : (build text).on db = .ok status) :
    (ShowsLatest db status.projectId status.latestCheckpoint
        (status.governingDecisions.map fun item => item.decidedAt) ↔ SortsByInstant db status.projectId) ∧
      ∀ workspaceId bundle, (Resume.members workspaceId text).on db = .ok bundle →
        (ShowsLatest db status.projectId bundle.latestCheckpoint
          (bundle.decisions.map fun item => item.content.decidedAt) ↔ SortsByInstant db status.projectId) := by
  have hstatus : ShowsLatest db status.projectId status.latestCheckpoint
      (status.governingDecisions.map fun item => item.decidedAt) ↔ SortsByInstant db status.projectId := by
    obtain ⟨i, hi, rfl⟩ := exists_inputs_of_build h
    have htimes : (i.decisions.map statusDecision).map (fun item => item.decidedAt) =
        i.decisions.map fun item => item.content.decidedAt := List.map_map
    exact (iff_of_eq (congrArg (ShowsLatest db i.project.projectId _) htimes)).trans hi.showsLatest_iff
  refine ⟨hstatus, fun workspaceId bundle hbundle => ?_⟩
  obtain ⟨hlatest, htimes⟩ := times_of_members h hbundle
  rw [hlatest, htimes]
  exact hstatus

end

section Runs

/-- The microseconds that the digits after a decimal point stand for. -/
def microseconds? (digits : Text) : Option Nat := decimal? ((digits ++ "000000".toList).take 6)

/-- `datetime.fromisoformat` on `YYYY-MM-DDTHH:MM:SS+00:00` and `YYYY-MM-DDTHH:MM:SS.ffffff+00:00`, with
any number of digits after the point. -/
def parseFraction (text : Text) : Option Datetime := do
  match text.drop 19 with
  | '.' :: rest =>
    let whole ← parseTimestamp (text.take 19 ++ rest.dropWhile Char.isDigit)
    let fraction ← microseconds? (rest.takeWhile Char.isDigit)
    if rest.head?.any Char.isDigit then return ⟨whole.instant * 1000000 + fraction, whole.utcoffset⟩ else none
  | _ =>
    let whole ← parseTimestamp text
    return ⟨whole.instant * 1000000, whole.utcoffset⟩

@[reducible] def fractionLibrary : PythonLibrary where
  isalnum := Char.isAlphanum
  fromisoformat := parseFraction
  intBase16 _ := none

attribute [local instance] fractionLibrary acceptingRules asciiFold

/-- Two checkpoints of the garden are confirmed, the second half a second after the first. -/
def halfASecondLater : Result (Database × ProjectStatusInfo) := do
  let caller : Checkpoint.Caller := ⟨none, .user⟩
  let proposal := Checkpoint.gardenProposal
  let proposing ← ((Checkpoint.Call.propose proposal .personal caller).prepare (surroundings 0)).on
    Project.gardenDatabase
  let db₁ ← proposing.commit Project.gardenDatabase
  let confirming ← ((Checkpoint.Call.confirm (uuidText 1) 1 caller).prepare (surroundings 1)).on db₁
  let db₂ ← confirming.commit db₁
  let later := { proposal with asOf := "2026-01-01T00:00:00.5Z".toList, currentGoal := "Water".toList }
  let proposing' ← ((Checkpoint.Call.propose later .personal caller).prepare (surroundings 2)).on db₂
  let db₃ ← proposing'.commit db₂
  let confirming' ← ((Checkpoint.Call.confirm (uuidText 7) 1 caller).prepare (surroundings 3)).on db₃
  let db₄ ← confirming'.commit db₃
  let status ← (build (uuidText 100)).on db₄
  let item ← (Checkpoint.get (uuidText 7)).on db₄
  ensure (status.projectId = 100 ∧ 7 ∈ idsOf "project_checkpoint" db₄ ∧ isCheckpoint 100 item = true ∧
    item.sensitivity ≠ .secret ∧ ∀ shown ∈ status.latestCheckpoint, instant shown.asOf < instant item.content.asOf)
    (.noRecord [])
  return (db₄, status)

theorem halfASecondLater_isOk : halfASecondLater.isOk = true := by decide +kernel

/-- The run ends with a status that shows the earlier checkpoint. -/
theorem exists_halfASecondLater : ∃ db status, halfASecondLater = .ok (db, status) ∧
    (build (uuidText 100)).on db = .ok status ∧
    ∃ item, CheckpointCounts db status.projectId item ∧
      ∀ shown ∈ status.latestCheckpoint, instant shown.asOf < instant item.content.asOf := by
  obtain ⟨result, hresult⟩ := exists_of_isOk halfASecondLater_isOk
  have h := hresult
  obtain ⟨_, -, h⟩ := bind_eq_ok.1 h
  obtain ⟨_, -, h⟩ := bind_eq_ok.1 h
  obtain ⟨_, -, h⟩ := bind_eq_ok.1 h
  obtain ⟨_, -, h⟩ := bind_eq_ok.1 h
  obtain ⟨_, -, h⟩ := bind_eq_ok.1 h
  obtain ⟨_, -, h⟩ := bind_eq_ok.1 h
  obtain ⟨_, -, h⟩ := bind_eq_ok.1 h
  obtain ⟨db, -, h⟩ := bind_eq_ok.1 h
  obtain ⟨status, hstatus, h⟩ := bind_eq_ok.1 h
  obtain ⟨item, hitem, h⟩ := bind_eq_ok.1 h
  obtain ⟨⟨hid, hmem, hcounts, hpublic, hlater⟩, h⟩ := (check_bind_eq_ok.1 h).imp_left ensure_eq_ok.1
  cases h
  exact ⟨db, status, hresult, hstatus, item, ⟨⟨7, hmem, hitem⟩, hid.symm ▸ hcounts, hpublic⟩, hlater⟩

/-- What decides about a status holds of that run. -/
theorem latest_iff_sortsByInstant_halfASecond : ∃ db status, (build (uuidText 100)).on db = .ok status ∧
    (ShowsLatest db status.projectId status.latestCheckpoint
      (status.governingDecisions.map fun item => item.decidedAt) ↔ SortsByInstant db status.projectId) := by
  obtain ⟨db, status, -, hstatus, -⟩ := exists_halfASecondLater
  let _ : Resume.BundleRules := ⟨fun _ => .error corrupt, fun _ => none⟩
  exact ⟨db, status, hstatus, (latest_iff_sortsByInstant hstatus).1⟩

/-- A checkpoint of half a second past the full second is passed over for one of the full second. -/
theorem not_showsLatest : ∃ db status, halfASecondLater = .ok (db, status) ∧
    (build (uuidText 100)).on db = .ok status ∧
    ¬ ShowsLatest db status.projectId status.latestCheckpoint
      (status.governingDecisions.map fun item => item.decidedAt) := by
  obtain ⟨db, status, hrun, hstatus, item, hcounts, hlater⟩ := exists_halfASecondLater
  refine ⟨db, status, hrun, hstatus, fun h => ?_⟩
  obtain ⟨shown, hshown, hle⟩ := h.isLatest item hcounts
  exact absurd (hlater shown hshown) (not_lt_of_ge hle)

end Runs

end Status

end DollState
