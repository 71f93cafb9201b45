import DollState.Settings.Lifecycle
import DollState.State.Reference

/-!
# Grants

In every run of the settings services by any number of clients, each expecting a revision that the
record it changes has had before, at most one active setting has an identity, an archived setting
stays as it is, and no permission is consumed twice without being set to `allow_once` in between
(`grants_governed`).
-/

namespace DollState.Settings

open StateLib

section

variable [PythonLibrary] [CaseLibrary] [FloatLibrary] [ModuleRules]

/-- The database and the clients of the settings services. -/
abbrev SettingsWorld (ι : Type) :=
  Clients.World Database ι StateQuery StateQuery.Answer DollError Write (Context × Call)

abbrev SettingsAction := Clients.Action Write (Context × Call)

abbrev SettingsStep {ι : Type} [DecidableEq ι] :
    SettingsWorld ι → ι × SettingsAction → SettingsWorld ι → Prop :=
  Clients.Step Database.answer Call.prepare Write.commit

abbrev SettingsTrace (ι : Type) := List (Taken (SettingsWorld ι) (ι × SettingsAction))

variable {ι : Type}

/-- The record that the call changes had the revision that its caller expects. -/
def ShowsExpected (call : Call) (db : Database) : Prop :=
  ∀ recordId expected, call.target? = some (recordId, expected) →
    ∃ id r, recordId = uuidText id ∧ db.find? id = some r ∧ r.revision = expected

/-- Each call is started with a revision that its record has had in some state before. -/
def ExpectsSeen (tr : SettingsTrace ι) : Prop :=
  ∀ pre t post i ctx call, tr = pre ++ t :: post → t.label = (i, .start (ctx, call)) →
    ∃ W ∈ t.pre :: pre.map Taken.pre, ShowsExpected call W.shared

/-- The step commits a call of a kind. -/
def Commits (kind : Call → Prop) (t : Taken (SettingsWorld ι) (ι × SettingsAction)) : Prop :=
  ∃ i ctx call w, t.label = (i, .commit (ctx, call) w) ∧ kind call

/-! ## Runs -/

/-- The revision that the caller expects is not ahead of the record. -/
def NotAhead (call : Context × Call) (db : Database) : Prop :=
  ∀ recordId expected, call.2.target? = some (recordId, expected) →
    ∃ id r, recordId = uuidText id ∧ db.find? id = some r ∧ expected ≤ r.revision

omit [PythonLibrary] [CaseLibrary] [ModuleRules] in
theorem NotAhead.of_keeps {call : Context × Call} {db db' : Database} (hkeeps : Keeps db db')
    (h : NotAhead call db) : NotAhead call db' := by
  intro recordId expected htarget
  obtain ⟨id, r, hid, hr, hle⟩ := h recordId expected htarget
  obtain ⟨r', hr', hsucceeds⟩ := hkeeps id r hr
  exact ⟨id, r', hid, hr', hle.trans hsucceeds.revision⟩

omit [PythonLibrary] [CaseLibrary] [FloatLibrary] [ModuleRules] in
theorem ExpectsSeen.startedSince {tr : SettingsTrace ι} (h : ExpectsSeen tr) :
    Clients.StartedSince NotAhead tr := by
  rintro pre t post i ⟨ctx, call⟩ htr hlabel
  obtain ⟨W, hW, hshows⟩ := h pre t post i ctx call htr hlabel
  refine ⟨W, hW, fun recordId expected htarget => ?_⟩
  obtain ⟨id, r, hid, hr, hrevision⟩ := hshows recordId expected htarget
  exact ⟨id, r, hid, hr, hrevision.ge⟩

omit [PythonLibrary] [CaseLibrary] [ModuleRules] in
/-- A row that was read when the expected revision was not ahead of it is the row that is found at
that revision later. -/
theorem read_eq_found {ctx : Context} {call : Call} {t db : Database} {id : RecordId}
    {r row : RecordEnvelope} (hahead : NotAhead (ctx, call) t) (hkeeps : Keeps t db)
    (hr : t.find? id = some r) (hrow : db.find? id = some row)
    (htarget : call.target? = some (uuidText id, row.revision)) : r = row := by
  obtain ⟨id', r', hid, hr', hle⟩ := hahead _ _ htarget
  obtain rfl := uuidText_injective hid
  obtain ⟨row', hrow', hsucceeds⟩ := hkeeps id r hr
  cases hr.symm.trans hr'
  cases hrow.symm.trans hrow'
  exact hsucceeds.same (le_antisymm hsucceeds.revision hle)

theorem effect_of_runsOver {ctx : Context} {call : Call} {ss : List Database} {w : Write}
    {db db' : Database}
    (hss : ∀ t ∈ ss, (Governed t ∧ NotAhead (ctx, call) t) ∧ Keeps t db)
    (hruns : ReadProgram.RunsOver Database.answer (Call.prepare (ctx, call)) ss (.ok w))
    (h : w.commit db = .ok db') : Effect ctx call db db' :=
  effect_of_commit hruns
    (fun t ht _ _ _ hr hrow htarget => read_eq_found (hss t ht).1.2 (hss t ht).2 hr hrow htarget) h

theorem commitsForward : Clients.CommitsForwardSince Database.answer Call.prepare Write.commit
    Governed Keeps NotAhead :=
  fun _ _ _ _ _ hdb _ hss hruns h => (effect_of_runsOver hss hruns h).governed hdb

variable [DecidableEq ι]

theorem SettingsStep.informed {W₀ W : SettingsWorld ι} {tr : SettingsTrace ι}
    (hidle : ∀ i, W₀.client i = .idle) (hgoverned : Governed W₀.shared)
    (h : Run SettingsStep W₀ tr W) (hseen : Clients.StartedSince NotAhead tr) :
    Clients.InformedSince Database.answer Call.prepare Governed Keeps NotAhead W ∧
      ∀ t ∈ tr, Keeps t.pre.shared W.shared :=
  Clients.InformedSince.run Keeps.refl (fun h h' => h.trans h') (fun hle hK => hK.of_keeps hle)
    commitsForward hgoverned hidle h hseen

/-- What a step of such a run does to the records. -/
theorem SettingsStep.effect {W₀ W : SettingsWorld ι} {tr : SettingsTrace ι}
    (hidle : ∀ i, W₀.client i = .idle) (hgoverned : Governed W₀.shared)
    (h : Run SettingsStep W₀ tr W) (hseen : Clients.StartedSince NotAhead tr) :
    ∀ t ∈ tr, ∀ i ctx call w, t.label = (i, .commit (ctx, call) w) →
      Effect ctx call t.pre.shared t.post.shared := by
  intro t ht i ctx call w hlabel
  obtain ⟨pre, post, htr⟩ := List.append_of_mem ht
  obtain ⟨hrun, hstep, -⟩ := h.split htr
  have hpre : Clients.StartedSince NotAhead pre := by
    rw [htr] at hseen
    exact hseen.of_append
  obtain ⟨hinformed, -⟩ := SettingsStep.informed hidle hgoverned hrun hpre
  rw [hlabel] at hstep
  obtain ⟨hbusy, hcommit⟩ := hstep.of_commit
  obtain ⟨-, ss, hss, hruns⟩ := hinformed.of_commit hbusy
  exact effect_of_runsOver hss hruns hcommit

/-! ## One use -/

omit [PythonLibrary] [CaseLibrary] [FloatLibrary] [ModuleRules] [DecidableEq ι] in
theorem PermissionMode.text_injective : Function.Injective PermissionMode.text := by
  intro a b h
  have hb := PermissionMode.ofText?_text b
  rw [← h, PermissionMode.ofText?_text a] at hb
  exact Option.some.inj hb

/-- The mode that the metadata of a permission states is `allow_once`. -/
def StatesAllowOnce (metadata : Metadata) : Prop :=
  metadata.get "mode" = .str PermissionMode.allowOnce.text

/-- The permission is there and its mode is `allow_once`. -/
def AllowsOnce (db : Database) (id : RecordId) : Prop :=
  ∃ r, db.find? id = some r ∧ r.recordType = "permission" ∧ StatesAllowOnce r.metadata

omit [PythonLibrary] [CaseLibrary] [ModuleRules] in
theorem PermissionContent.statesAllowOnce {c : PermissionContent} :
    StatesAllowOnce c.metadata ↔ c.mode = .allowOnce := by
  have hget : c.metadata.get "mode" = .str c.mode.text := rfl
  rw [StatesAllowOnce, hget, Json.str.injEq, PermissionMode.text_injective.eq_iff]

omit [ModuleRules] in
theorem statesAllowOnce_of_readPermission {metadata : Metadata} {c : PermissionContent}
    (h : readPermission metadata = .ok c) (hmode : c.mode = .allowOnce) :
    StatesAllowOnce metadata := by
  rw [StatesAllowOnce, (of_readPermission h).2, hmode]

omit [ModuleRules] in
theorem Rewrites.allowOnce {ctx : Context} {call : Call} {id : RecordId} {r : RecordEnvelope}
    {metadata : Metadata} (h : Rewrites ctx call id r metadata) (htype : r.recordType = "permission")
    (hmode : StatesAllowOnce metadata) : StatesAllowOnce r.metadata ∨ call.SetsAllowOnce id := by
  cases h with
  | preference htype' => exact absurd (htype.symm.trans htype') (by decide)
  | policy htype' => exact absurd (htype.symm.trans htype') (by decide)
  | permission _ hread _ _ _ hmode' =>
    exact (hmode' (PermissionContent.statesAllowOnce.1 hmode)).imp_left
      (statesAllowOnce_of_readPermission hread)

omit [ModuleRules] in
theorem Rewrites.consumed {ctx : Context} {call : Call} {id : RecordId} {r : RecordEnvelope}
    {metadata : Metadata} (h : Rewrites ctx call id r metadata) (hcall : call.Consumes id) :
    r.recordType = "permission" ∧ StatesAllowOnce r.metadata ∧ ¬ StatesAllowOnce metadata := by
  cases h with
  | preference _ _ _ hconsumes => exact absurd hcall hconsumes
  | policy _ _ _ hconsumes => exact absurd hcall hconsumes
  | permission htype hread _ _ _ _ hconsumes =>
    obtain ⟨hmode, hdenied⟩ := hconsumes hcall
    refine ⟨htype, statesAllowOnce_of_readPermission hread hmode, fun h => ?_⟩
    rw [PermissionContent.statesAllowOnce, hdenied] at h
    cases h

omit [PythonLibrary] [CaseLibrary] [FloatLibrary] [ModuleRules] [DecidableEq ι] in
theorem Call.Consumes.target {call : Call} {id : RecordId} (h : call.Consumes id) :
    ∃ expected, call.target? = some (uuidText id, expected) := by
  cases call with
  | consumeAllowOnce recordId expectedRevision caller =>
    exact ⟨expectedRevision, by rw [← h]; rfl⟩
  | _ => exact h.elim

omit [ModuleRules] in
/-- A consumption finds the permission at `allow_once` and leaves it at something else. -/
theorem Effect.of_consumes {ctx : Context} {call : Call} {db db' : Database} {id : RecordId}
    (h : Effect ctx call db db') (hcall : call.Consumes id) :
    AllowsOnce db id ∧ ¬ AllowsOnce db' id := by
  obtain ⟨expected, htarget⟩ := hcall.target
  cases h with
  | inserted _ _ hnone => exact nomatch hnone.symm.trans htarget
  | changed id' r u htarget' hfound _ hrewrites hwrites =>
    obtain ⟨hid, -⟩ := Prod.ext_iff.1 (Option.some.inj (htarget'.symm.trans htarget))
    obtain rfl := uuidText_injective hid
    obtain ⟨htype, hbefore, hafter⟩ := hrewrites.consumed hcall
    refine ⟨⟨r, hfound, htype, hbefore⟩, ?_⟩
    rintro ⟨r', hr', -, hr'once⟩
    rw [hwrites, u.apply_id, if_pos (Database.id_of_find? hfound)] at hr'
    cases hr'
    exact hafter hr'once
  | nothing hnone => exact nomatch hnone.symm.trans htarget

omit [ModuleRules] in
/-- A permission that is there comes to `allow_once` only by an update that sets it. -/
theorem Effect.allowsOnce {ctx : Context} {call : Call} {db db' : Database} {id : RecordId}
    (h : Effect ctx call db db') (hid : (db.find? id).isSome) (hafter : AllowsOnce db' id) :
    AllowsOnce db id ∨ call.SetsAllowOnce id := by
  obtain ⟨r', hr', htype', honce⟩ := hafter
  cases h with
  | inserted row _ _ _ _ hfree _ hwrites =>
    rw [hwrites] at hr'
    split at hr'
    · rename_i hrow
      rw [← hrow, hfree] at hid
      cases hid
    · exact .inl ⟨r', hr', htype', honce⟩
  | changed id' r u _ hfound _ hrewrites hwrites =>
    rw [hwrites] at hr'
    split at hr'
    · rename_i hrow
      obtain rfl : id' = id := (Database.id_of_find? hfound).symm.trans hrow
      cases hr'
      exact (hrewrites.allowOnce htype' honce).imp_left fun h => ⟨r, hfound, htype', h⟩
    · exact .inl ⟨r', hr', htype', honce⟩
  | nothing _ hsame =>
    subst hsame
    exact .inl ⟨r', hr', htype', honce⟩

omit [ModuleRules] in
theorem Effect.find?_isSome {ctx : Context} {call : Call} {db db' : Database} {id : RecordId}
    (h : Effect ctx call db db') (hid : (db.find? id).isSome) : (db'.find? id).isSome := by
  have hkept : ∀ {row : RecordEnvelope}, db.Writes row db' → (db'.find? id).isSome := by
    intro row hwrites
    rw [hwrites]
    split
    · rfl
    · exact hid
  cases h with
  | inserted _ _ _ _ _ _ _ hwrites => exact hkept hwrites
  | changed _ _ _ _ _ _ _ hwrites => exact hkept hwrites
  | nothing _ hsame => rwa [hsame]

/-- A permission that is there and is not at `allow_once` stays so in a run without an update that
sets it. -/
theorem not_allowsOnce_of_run {W₀ W : SettingsWorld ι} {tr : SettingsTrace ι} {id : RecordId}
    (h : Run SettingsStep W₀ tr W)
    (heffect : ∀ t ∈ tr, ∀ i ctx call w, t.label = (i, .commit (ctx, call) w) →
      Effect ctx call t.pre.shared t.post.shared)
    (hsets : ∀ t ∈ tr, ¬ Commits (Call.SetsAllowOnce id) t)
    (hid : (W₀.shared.find? id).isSome) (honce : ¬ AllowsOnce W₀.shared id) :
    ¬ AllowsOnce W.shared id := by
  suffices hgood : (W.shared.find? id).isSome ∧ ¬ AllowsOnce W.shared id from hgood.2
  refine h.invariant_of_steps
    (I := fun V => (V.shared.find? id).isSome ∧ ¬ AllowsOnce V.shared id)
    (K := fun t => (∀ i ctx call w, t.label = (i, .commit (ctx, call) w) →
      Effect ctx call t.pre.shared t.post.shared) ∧ ¬ Commits (Call.SetsAllowOnce id) t)
    ⟨hid, honce⟩ ?_ fun t ht => ⟨heffect t ht, hsets t ht⟩
  rintro V l V' ⟨hid, honce⟩ hstep ⟨heffect, hsets⟩
  by_cases hcommit : ∃ i ctx call w, l = (i, Clients.Action.commit (ctx, call) w)
  · obtain ⟨i, ctx, call, w, hlabel⟩ := hcommit
    have heffect := heffect i ctx call w hlabel
    refine ⟨heffect.find?_isSome hid, fun hafter => ?_⟩
    rcases heffect.allowsOnce hid hafter with hbefore | hcall
    · exact honce hbefore
    · exact hsets ⟨i, ctx, call, w, hlabel, hcall⟩
  · have hshared := hstep.shared_eq fun i c w hl => hcommit ⟨i, c.1, c.2, w, hl⟩
    rw [hshared]
    exact ⟨hid, honce⟩

/-! ## The life of a grant -/

/-- At most one active setting of a type has an identity. -/
def OneActive (db : Database) : Prop :=
  ∀ r ∈ db.records, ∀ r' ∈ db.records, r.recordType ∈ settingTypes →
    r'.recordType = r.recordType → r.status = .active → r'.status = .active →
    identity r' = identity r → r' = r

/-- The settings of the first database are settings of the second, of the same type and identity,
and the same if they were not active any more. -/
def SettingsKept (db db' : Database) : Prop :=
  ∀ r ∈ db.records, r.recordType ∈ settingTypes → ∃ r' ∈ db'.records,
    r'.id = r.id ∧ r'.recordType = r.recordType ∧ identity r' = identity r ∧
      (r.status ≠ .active → r' = r)

/-- Between two consumptions of a permission an update sets it to `allow_once`. -/
def SetBetweenUses (tr : SettingsTrace ι) : Prop :=
  ∀ pre t mid t' post id, tr = pre ++ t :: mid ++ t' :: post → Commits (Call.Consumes id) t →
    Commits (Call.Consumes id) t' → ∃ u ∈ mid, Commits (Call.SetsAllowOnce id) u

/-- In every run from a database without settings, each call expecting a revision that its record
has had before: at most one active setting of a type has an identity; a setting keeps its type and
its identity, and everything once it is archived; and between two consumptions of a permission an
update has set it to `allow_once`. -/
theorem grants_governed {W₀ W : SettingsWorld ι} {tr : SettingsTrace ι}
    (hidle : ∀ i, W₀.client i = .idle)
    (hnew : ∀ r ∈ W₀.shared.records, r.recordType ∉ settingTypes) (h : Run SettingsStep W₀ tr W)
    (hseen : ExpectsSeen tr) :
    OneActive W.shared ∧ (∀ t ∈ tr, SettingsKept t.pre.shared W.shared) ∧ SetBetweenUses tr := by
  have hgoverned : Governed W₀.shared :=
    ⟨fun id r hr htype => absurd htype (hnew r (Database.find?_eq_some.1 hr).1),
      fun id id' r r' hr hr' htype => absurd htype (hnew r (Database.find?_eq_some.1 hr).1)⟩
  obtain ⟨hinformed, hforward⟩ := SettingsStep.informed hidle hgoverned h hseen.startedSince
  have heffect := SettingsStep.effect hidle hgoverned h hseen.startedSince
  refine ⟨?_, ?_, ?_⟩
  · intro r hr r' hr' htype heq hactive hactive' hid
    have hr := Database.mem_iff_find?.1 hr
    have hr' := Database.mem_iff_find?.1 hr'
    have hids := hinformed.invariant.unique _ _ r r' hr hr' htype heq hactive hactive' hid
    rw [hids, hr] at hr'
    exact (Option.some.inj hr').symm
  · intro t ht r hr htype
    obtain ⟨r', hr', hsucceeds⟩ := hforward t ht r.id r (Database.mem_iff_find?.1 hr)
    obtain ⟨hmem, hid⟩ := Database.find?_eq_some.1 hr'
    exact ⟨r', hmem, hid, hsucceeds.recordType, hsucceeds.identity htype, hsucceeds.inactive htype⟩
  · rintro pre t mid t' post id htr ⟨i, ctx, call, w, hlabel, hconsumes⟩
      ⟨i', ctx', call', w', hlabel', hconsumes'⟩
    by_contra hnone
    push Not at hnone
    rw [List.append_assoc, List.cons_append] at htr
    obtain ⟨-, -, hrest⟩ := h.split htr
    obtain ⟨hmid, -, -⟩ := hrest.split rfl
    have ht : t ∈ tr := by simp [htr]
    have ht' : t' ∈ tr := by simp [htr]
    have hfirst := heffect t ht i ctx call w hlabel
    obtain ⟨⟨r, hr, -⟩, hafter⟩ := hfirst.of_consumes hconsumes
    obtain ⟨hbefore, -⟩ := (heffect t' ht' i' ctx' call' w' hlabel').of_consumes hconsumes'
    have hthere : (t.post.shared.find? id).isSome := hfirst.find?_isSome (by rw [hr]; rfl)
    have hmem : ∀ u ∈ mid, u ∈ tr := fun u hu => by simp [htr, hu]
    exact not_allowsOnce_of_run hmid (fun u hu => heffect u (hmem u hu)) hnone hthere hafter hbefore

/-! ## A client alone -/

omit [PythonLibrary] [CaseLibrary] [FloatLibrary] [ModuleRules] [DecidableEq ι] in
theorem ExpectsSeen.append {tr tr' : SettingsTrace ι} (h : ExpectsSeen tr)
    (h' : ∀ t ∈ tr', ∀ i ctx call, t.label = (i, .start (ctx, call)) →
      ShowsExpected call t.pre.shared) : ExpectsSeen (tr ++ tr') := by
  intro pre t post i ctx call htr hlabel
  rcases List.append_eq_append_iff.1 htr with ⟨mid, rfl, hmid⟩ | ⟨mid, rfl, hmid⟩
  · have ht : t ∈ tr' := by rw [hmid]; simp
    exact ⟨t.pre, List.mem_cons_self, h' t ht i ctx call hlabel⟩
  · cases mid with
    | nil =>
      have ht : t ∈ tr' := by rw [← (List.nil_append tr'), ← hmid]; simp
      exact ⟨t.pre, List.mem_cons_self, h' t ht i ctx call hlabel⟩
    | cons t' mid =>
      obtain ⟨rfl, -⟩ := List.cons.inj hmid
      exact h pre t mid i ctx call rfl hlabel

/-- A run goes on with a call of a client that nobody disturbs. -/
theorem exists_called {W₀ W : SettingsWorld ι} {tr : SettingsTrace ι} {i : ι} {ctx : Context}
    {call : Call} {w : Write} {db : Database} (h : Run SettingsStep W₀ tr W) (hseen : ExpectsSeen tr)
    (hidle : ∀ j, W.client j = .idle) (hshows : ShowsExpected call W.shared)
    (hw : (Call.prepare (ctx, call)).on W.shared = .ok w) (hdb : w.commit W.shared = .ok db) :
    ∃ tr' W', Run SettingsStep W₀ tr' W' ∧ ExpectsSeen tr' ∧ W'.shared = db ∧
      ∀ j, W'.client j = .idle := by
  obtain ⟨reads, hreads, honly⟩ := Clients.exists_only_reads Database.answer Call.prepare
    Write.commit W i (ctx, call) (Call.prepare (ctx, call))
  rw [show (Call.prepare (ctx, call)).run W.shared.answer = .ok w from hw] at hreads
  have hstart : SettingsStep W (i, .start (ctx, call)) _ := Clients.Step.start (ctx, call) (hidle i)
  have hcommit : SettingsStep (W.goto i (.busy (ctx, call) (.done (.ok w)))) _ _ :=
    Clients.Step.commit (W.goto_self i _) hdb
  have htail := ((Run.start.next hstart).append hreads).next hcommit
  refine ⟨_, _, h.append htail, hseen.append ?_, rfl, fun j => ?_⟩
  · intro t ht j ctx' call' hlabel
    simp only [List.nil_append, List.mem_append, List.mem_singleton] at ht
    obtain (rfl | ht) | rfl := ht
    · cases hlabel
      exact hshows
    · cases (honly t ht).symm.trans hlabel
    · cases hlabel
  · by_cases hj : j = i
    · rw [hj, Clients.World.goto_self]
    · rw [Clients.World.goto_of_ne _ hj]
      exact (Clients.World.goto_of_ne W hj _).trans (hidle j)


end

section Runs

attribute [local instance] asciiLibrary asciiCase fractionFloats acceptingRules

/-- The surroundings of the call that draws the identifiers `3 * n + 1` and on. -/
def context (n : Nat) : Context := { surroundings n with decidedAt := 0 }

/-- A permission to read one mailbox once, its use, its renewal and its second use. -/
def mailCalls : List (Context × Call) :=
  let scope : Scope := ⟨[("kind", .str "mailbox".toList), ("id", .int 1)], by
    simp [Json.DistinctKeys, Json.EntriesDistinctKeys]⟩
  let once := PermissionMode.allowOnce.text
  let source := "management-cli".toList
  [(context 0, .createPermission "mail.read".toList scope once none source .personal ⟨none, .user⟩),
    (context 1, .consumeAllowOnce (uuidText 1) 1 ⟨none, .capability⟩),
    (context 2, .updatePermission (uuidText 1) 2 once none source ⟨none, .user⟩),
    (context 3, .consumeAllowOnce (uuidText 1) 3 ⟨none, .capability⟩)]

/-- The revision that the caller expects is the one the record has. -/
def expectedFound (call : Call) (db : Database) : Bool :=
  match call.target? with
  | none => true
  | some (recordId, expected) => (canonicalId? recordId).any fun id =>
      (db.find? id).any fun r => r.revision = expected

/-- A call of a client alone, which expects the revision it finds. -/
def callOn (db : Database) (c : Context × Call) : Result Database := do
  ensure (expectedFound c.2 db = true) (.noRecord [])
  let w ← (Call.prepare c).on db
  w.commit db

theorem showsExpected_of_found {call : Call} {db : Database} (h : expectedFound call db = true) :
    ShowsExpected call db := by
  intro recordId expected htarget
  rw [expectedFound, htarget] at h
  simp only [Option.any_eq_true, decide_eq_true_eq] at h
  obtain ⟨id, hid, r, hr, hrevision⟩ := h
  exact ⟨id, r, canonicalId?_eq_some.1 hid, hr, hrevision⟩

/-- A list of calls, each run to its end, is a run. -/
theorem exists_run {calls : List (Context × Call)} {W₀ W : SettingsWorld Unit}
    {tr : SettingsTrace Unit} {db : Database} (h : Run SettingsStep W₀ tr W)
    (hseen : ExpectsSeen tr) (hidle : ∀ i, W.client i = .idle)
    (hcalls : calls.foldlM callOn W.shared = .ok db) :
    ∃ tr' W', Run SettingsStep W₀ tr' W' ∧ ExpectsSeen tr' ∧ W'.shared = db := by
  induction calls generalizing W tr with
  | nil => exact ⟨tr, W, h, hseen, pure_eq_ok.1 hcalls⟩
  | cons c calls ih =>
    rw [List.foldlM_cons] at hcalls
    obtain ⟨db', hdb', hcalls⟩ := bind_eq_ok.1 hcalls
    obtain ⟨hfound, hdb'⟩ := check_bind_eq_ok.1 hdb'
    obtain ⟨w, hw, hdb'⟩ := bind_eq_ok.1 hdb'
    have hshows := showsExpected_of_found (ensure_eq_ok.1 hfound)
    obtain ⟨tr', W', hrun, hseen', hshared, hidle'⟩ :=
      exists_called (i := ()) h hseen hidle hshows hw hdb'
    exact ih hrun hseen' hidle' (hshared ▸ hcalls)

/-- The permission after those calls. -/
def mailPermission : Result RecordEnvelope := do
  let db ← mailCalls.foldlM callOn (Database.fresh 0 [])
  let r ← db.getRecord 1
  ensure (r.revision = 4) (.noRecord [])
  return r

theorem mailPermission_isOk : mailPermission.isOk = true := by decide

theorem grants_governed_mailCalls : ∃ (W : SettingsWorld Unit) (tr : SettingsTrace Unit),
    Run SettingsStep ⟨Database.fresh 0 [], fun _ => .idle⟩ tr W ∧
      (∃ r ∈ W.shared.records, r.revision = 4) ∧ OneActive W.shared ∧
      (∀ t ∈ tr, SettingsKept t.pre.shared W.shared) ∧ SetBetweenUses tr := by
  obtain ⟨r, h⟩ := exists_of_isOk mailPermission_isOk
  obtain ⟨db, hdb, h⟩ := bind_eq_ok.1 h
  obtain ⟨r', hr', h⟩ := bind_eq_ok.1 h
  obtain ⟨hrevision, -⟩ := check_bind_eq_ok.1 h
  have hempty : ExpectsSeen ([] : SettingsTrace Unit) := by
    intro pre t post i ctx call htr
    simp at htr
  obtain ⟨tr, W, hrun, hseen, rfl⟩ := exists_run
    (h := @Run.start _ _ SettingsStep (⟨Database.fresh 0 [], fun _ => .idle⟩ : SettingsWorld Unit))
    hempty (fun _ => rfl) hdb
  have hmem := (Database.find?_eq_some.1 (Database.getRecord_eq_ok.1 hr')).1
  exact ⟨W, tr, hrun, ⟨r', hmem, ensure_eq_ok.1 hrevision⟩,
    grants_governed (fun _ => rfl) (fun r hr => absurd hr (Table.not_mem_empty r)) hrun hseen⟩

end Runs

end DollState.Settings
