import DollState.Escape.Inspector
import DollState.Library.Assoc
import DollState.Library.Raises

/-!
# What escapes from an inspection

An inspection should end with an `EscapeInspectionError` or an `OSError` of the file system. For each
step of it, this module says exactly when nothing else escapes. The whole is in `handled_iff`.
-/

namespace DollState.Escape

open StateLib JsonText Import

/-- The exceptions that an inspection is meant to end with. -/
def Expected (e : InspectError) : Prop := e.kind = .inspection ∨ e.kind = .fileSystem

instance (e : InspectError) : Decidable (Expected e) := inferInstanceAs (Decidable (_ ∨ _))

@[simp] theorem expected_inspection (message : String) : Expected (inspection message) := .inl rfl

/-! ## Names -/

/-- A path that passes the checks has a first part. -/
def Named (value : Str) : Prop := isSafePath value = true → pathParts value ≠ []

theorem expected_memberName {value : Str} : RaisesOnly Expected (memberName value) ↔ Named value := by
  unfold memberName
  rw [raisesOnly_ensure_bind (expected_inspection _)]
  refine imp_congr_right fun _ => ?_
  cases pathParts value with
  | nil => simp [Expected, indexError]
  | cons root parts =>
    refine iff_of_true ?_ (List.cons_ne_nil _ _)
    exact (raisesOnly_ensure_bind (expected_inspection _)).2 fun _ => raisesOnly_pure _

/-! ## Entries of the checksums -/

/-- The path of an entry of the shape that is asked for has a first part. -/
def NamedEntry (raw : Value Str) : Prop := ∀ entry path, raw = .obj entry →
  (entry.length = 3 ∧ ∀ name ∈ ["path", "sha256", "size_bytes"], key name ∈ entry.map Prod.fst) →
    (get entry "path").str? = some path → Named path

theorem expected_checksumEntry {previous : Str} {raw : Value Str} :
    RaisesOnly Expected (checksumEntry previous raw) ↔ NamedEntry raw := by
  unfold checksumEntry
  cases raw with
  | obj entry =>
    have hentry : NamedEntry (.obj entry) ↔
        ((entry.length = 3 ∧
          ∀ name ∈ ["path", "sha256", "size_bytes"], key name ∈ entry.map Prod.fst) →
          ∀ path, (get entry "path").str? = some path → Named path) := by
      refine ⟨fun h hshape path hpath => h entry path rfl hshape hpath, ?_⟩
      intro h entry' path heq hshape hpath
      cases heq
      exact h hshape path hpath
    rw [hentry]
    rw [raisesOnly_ensure_bind (expected_inspection _)]
    refine imp_congr_right fun _ => ?_
    rw [raisesOnly_orFail_bind (expected_inspection _)]
    refine forall_congr' fun path => imp_congr_right fun _ => ?_
    rw [raisesOnly_bind, expected_memberName]
    refine and_iff_left fun name _ => ?_
    refine (raisesOnly_ensure_bind (expected_inspection _)).2 fun _ => ?_
    refine (raisesOnly_orFail_bind (expected_inspection _)).2 fun digest _ => ?_
    refine (raisesOnly_ensure_bind (expected_inspection _)).2 fun _ => ?_
    exact (raisesOnly_orFail_bind (expected_inspection _)).2 fun size _ => raisesOnly_pure _
  | _ => exact iff_of_true ((raisesOnly_error _).2 (expected_inspection _)) nofun

theorem expected_checksumEntriesAfter {raws : List (Value Str)} : ∀ {previous : Str},
    RaisesOnly Expected (checksumEntriesAfter previous raws) ↔
      ∀ before raw after entries, raws = before ++ raw :: after →
        checksumEntriesAfter previous before = .ok entries → NamedEntry raw := by
  induction raws with
  | nil => exact iff_of_true (raisesOnly_ok _) (by simp)
  | cons raw raws ih =>
    intro previous
    rw [checksumEntriesAfter, raisesOnly_bind, expected_checksumEntry]
    constructor
    · rintro ⟨hraw, hraws⟩ before raw' after entries heq hbefore
      cases before with
      | nil =>
        cases heq
        exact hraw
      | cons first before =>
        cases heq
        rw [checksumEntriesAfter] at hbefore
        obtain ⟨entry, hentry, hbefore⟩ := bind_eq_ok.1 hbefore
        obtain ⟨rest, hrest, -⟩ := bind_eq_ok.1 hbefore
        exact ih.1 (raisesOnly_bind.1 (hraws entry hentry)).1 before raw' after rest rfl hrest
    · intro h
      refine ⟨h [] raw raws [] rfl rfl, fun entry hentry => raisesOnly_bind.2 ⟨ih.2 ?_, ?_⟩⟩
      · intro before raw' after entries heq hbefore
        refine h (raw :: before) raw' after (entry :: entries) (by rw [heq]; rfl) ?_
        rw [checksumEntriesAfter, hentry, ok_bind, hbefore]
        rfl
      · exact fun entries _ => raisesOnly_pure _

/-- Every path that `_checksum_entries` comes to has a first part. -/
def NamedEntries (document : List (Str × Value Str)) : Prop :=
  (get document "algorithm").str? = some (key "sha256") → ∀ raws, get document "entries" = .arr raws →
    ∀ before raw after entries, raws = before ++ raw :: after →
      checksumEntriesAfter [] before = .ok entries → NamedEntry raw

theorem expected_checksumEntries {document : List (Str × Value Str)} :
    RaisesOnly Expected (checksumEntries document) ↔ NamedEntries document := by
  unfold checksumEntries NamedEntries
  rw [raisesOnly_ensure_bind (expected_inspection _)]
  refine imp_congr_right fun _ => ?_
  cases get document "entries" with
  | arr raws =>
    have hraws : ∀ p : List (Value Str) → Prop,
        (∀ raws', Value.arr raws = .arr raws' → p raws') ↔ p raws := by
      simp
    rw [hraws]
    exact expected_checksumEntriesAfter
  | _ => exact iff_of_true ((raisesOnly_error _).2 (expected_inspection _)) nofun

/-! ## Archives -/

theorem expected_unreadable {e : ArchiveError} : Expected (unreadable e) ↔ e ≠ .other := by
  cases e <;> simp [unreadable, Expected, inspection]

theorem expected_innerUnreadable {name : String} {e : ArchiveError} :
    Expected (innerUnreadable name e) ↔ e ≠ .other ∧ e ≠ .os := by
  cases e <;> simp [innerUnreadable, Expected, inspection]

section

variable [EscapeLibrary]

/-! ## Documents -/

/-- The decoder enters every container of the text that it comes to. -/
def Shallow (content : ByteArray) : Prop :=
  ∀ text, decodeUtf8 content = some text → loadDocument text ≠ .error .recursion

theorem expected_jsonObject {content : ByteArray} {name : String} :
    RaisesOnly Expected (jsonObject content name) ↔ Shallow content := by
  unfold jsonObject Shallow
  cases htext : decodeUtf8 content with
  | none => simp
  | some text =>
    have hsplit : (∀ text', some text = some text' → loadDocument text' ≠ .error .recursion) ↔
        loadDocument text ≠ .error .recursion := by
      simp
    rw [hsplit]
    cases hload : loadDocument text with
    | ok value => cases value <;> simp [hload]
    | error e => cases e <;> simp [hload, Expected, inspection]

/-! ## The outer archive -/

theorem expected_validateInfo {seen : Seen} {info : Info} :
    RaisesOnly Expected (validateInfo seen info) ↔ Named info.filename := by
  unfold validateInfo
  rw [raisesOnly_bind, expected_memberName]
  refine and_iff_left fun name _ => ?_
  iterate 7 refine (raisesOnly_ensure_bind (expected_inspection _)).2 fun _ => ?_
  exact raisesOnly_pure _

/-- Every name that `_validate_infos` comes to has a first part. -/
def NamedInfos (infos : List Info) : Prop :=
  infos ≠ [] ∧ infos.length ≤ maxMembers → ∀ before info after seen,
    infos = before ++ info :: after → before.foldlM validateInfo ⟨[], [], 0⟩ = .ok seen →
      Named info.filename

theorem expected_validateInfos {infos : List Info} :
    RaisesOnly Expected (validateInfos infos) ↔ NamedInfos infos := by
  unfold validateInfos NamedInfos
  rw [raisesOnly_ensure_bind (expected_inspection _), raisesOnly_foldlM]
  simp only [expected_validateInfo]

/-- The outer archive is read without an exception that its handler does not name, and the names in it
that the loop comes to have a first part. -/
structure HandledArchive (bundle : ByteArray) : Prop where
  opened : EscapeLibrary.infolist bundle ≠ .error .other
  named : ∀ infos, EscapeLibrary.infolist bundle = .ok infos → NamedInfos infos
  read : ∀ infos seen, EscapeLibrary.infolist bundle = .ok infos →
    validateInfos infos = .ok seen → readAll bundle infos ≠ .error .other

theorem expected_openBundle {bundle : ByteArray} :
    RaisesOnly Expected (openBundle bundle) ↔ HandledArchive bundle := by
  have hfields : HandledArchive bundle ↔ EscapeLibrary.infolist bundle ≠ .error .other ∧
      (∀ infos, EscapeLibrary.infolist bundle = .ok infos → NamedInfos infos ∧
        ∀ seen, validateInfos infos = .ok seen → readAll bundle infos ≠ .error .other) :=
    ⟨fun h => ⟨h.opened, fun infos hi => ⟨h.named infos hi, fun seen => h.read infos seen hi⟩⟩,
      fun h => ⟨h.1, fun infos hi => (h.2 infos hi).1, fun infos seen hi => (h.2 infos hi).2 seen⟩⟩
  rw [hfields]
  unfold openBundle
  cases EscapeLibrary.infolist bundle with
  | error e => simp [expected_unreadable]
  | ok infos =>
    simp only [ne_eq, reduceCtorEq, not_false_eq_true, true_and, Except.ok.injEq, forall_eq']
    rw [raisesOnly_bind, expected_validateInfos]
    refine and_congr_right fun _ => forall_congr' fun seen => imp_congr_right fun _ => ?_
    cases readAll bundle infos <;> simp [expected_unreadable]

/-! ## Its inventories -/

/-- Every path of the checksums names a member, so that the loop over them finds it. -/
theorem expected_verifyEntries {members : Members} {entries : List ChecksumEntry}
    (h : ∀ entry ∈ entries, entry.path ∈ members.map Prod.fst) :
    RaisesOnly Expected (forEach (verifyEntry members) entries) := by
  refine RaisesOnly.forEach fun entry hentry => ?_
  obtain ⟨content, hcontent⟩ := exists_lookup_of_mem (h entry hentry)
  unfold verifyEntry
  rw [hcontent]
  refine (raisesOnly_ensure_bind (expected_inspection _)).2 fun _ => ?_
  exact raisesOnly_ensure (expected_inspection _)

/-- The checksums are no deeper than the decoder goes, and their paths have a first part. -/
def HandledInventory (members : Members) : Prop := ∀ content, members.lookup CHECKSUMS = some content →
  Shallow content ∧ ∀ document, jsonObject content "checksums" = .ok document → NamedEntries document

theorem expected_inventory {members : Members} :
    RaisesOnly Expected (inventory members) ↔ HandledInventory members := by
  unfold inventory HandledInventory required
  rw [raisesOnly_orFail_bind (expected_inspection _)]
  refine forall_congr' fun content => imp_congr_right fun _ => ?_
  rw [raisesOnly_bind, expected_jsonObject]
  refine and_congr_right fun _ => forall_congr' fun document => imp_congr_right fun _ => ?_
  rw [raisesOnly_bind, expected_checksumEntries]
  refine and_iff_left fun entries _ => ?_
  refine (raisesOnly_ensure_bind (expected_inspection _)).2 fun hnames => ?_
  refine (raisesOnly_bind_of (expected_verifyEntries ?_)).2 fun _ _ => raisesOnly_pure _
  intro entry hentry
  exact hnames.2 _ (List.mem_cons_of_mem _ (List.mem_map_of_mem hentry))

theorem expected_readManifest {members : Members} :
    RaisesOnly Expected (readManifest members) ↔
      ∀ content, members.lookup MANIFEST = some content → Shallow content := by
  unfold readManifest required
  rw [raisesOnly_orFail_bind (expected_inspection _)]
  refine forall_congr' fun content => imp_congr_right fun _ => ?_
  rw [raisesOnly_bind, expected_jsonObject]
  refine and_iff_left fun manifest _ => ?_
  refine (raisesOnly_ensure_bind (expected_inspection _)).2 fun _ => ?_
  exact (raisesOnly_ensure_bind (expected_inspection _)).2 fun _ => raisesOnly_pure _

/-! ## Archives inside it -/

/-- The archive is read without an exception that the handler around an inner one does not name. -/
def HandledInner (name : String) (content : ByteArray) : Prop :=
  EscapeLibrary.infolist content ∉ [.error .other, .error .os] ∧
    ∀ infos, EscapeLibrary.infolist content = .ok infos → (infos.map Info.filename).Nodup →
      (infos.map fun info => EscapeLibrary.casefold info.filename).Nodup →
        ∀ total, infos.foldlM (validateInnerInfo name) 0 = .ok total →
          readAll content infos ∉ [.error .other, .error .os]

omit [EscapeLibrary] in
theorem expected_validateInnerInfo {name : String} {total : Nat} {info : Info} :
    RaisesOnly Expected (validateInnerInfo name total info) := by
  iterate 4 refine (raisesOnly_ensure_bind (expected_inspection _)).2 fun _ => ?_
  exact raisesOnly_pure _

theorem expected_openInner {name : String} {content : ByteArray} :
    RaisesOnly Expected (openInner name content) ↔ HandledInner name content := by
  unfold openInner HandledInner
  cases EscapeLibrary.infolist content with
  | error e => simp [expected_innerUnreadable]
  | ok infos =>
    simp only [List.mem_cons, reduceCtorEq, List.not_mem_nil, or_self, not_false_eq_true, true_and,
      Except.ok.injEq, forall_eq']
    iterate 2
      rw [raisesOnly_ensure_bind (expected_inspection _)]
      refine imp_congr_right fun _ => ?_
    rw [raisesOnly_bind_of (RaisesOnly.foldlM fun _ _ => expected_validateInnerInfo)]
    refine forall_congr' fun total => imp_congr_right fun _ => ?_
    cases readAll content infos <;> simp [expected_innerUnreadable]

theorem expected_innerEntry {name : String} {members : Members} {paths : List Str}
    {raw : Value Str} : RaisesOnly Expected (innerEntry name members paths raw) := by
  unfold innerEntry
  cases raw with
  | obj entry =>
    refine (raisesOnly_orFail_bind (expected_inspection _)).2 fun path _ => ?_
    refine (raisesOnly_ensure_bind (expected_inspection _)).2 fun _ => ?_
    refine (raisesOnly_orFail_bind (expected_inspection _)).2 fun digest _ => ?_
    refine (raisesOnly_ensure_bind (expected_inspection _)).2 fun _ => ?_
    refine (raisesOnly_orFail_bind (expected_inspection _)).2 fun size _ => ?_
    exact (raisesOnly_ensure_bind (expected_inspection _)).2 fun _ => raisesOnly_pure _
  | _ => exact (raisesOnly_error _).2 (expected_inspection _)

/-- The checksums of an inner archive, and its manifest if the checksums hold, are no deeper than the
decoder goes. -/
def ShallowInner (name : String) (members : Members) : Prop :=
  ∀ checksumName, namesEnding members "/checksums.json" = [checksumName] →
    ∀ manifestName, namesEnding members "/manifest.json" = [manifestName] →
    ∀ content, members.lookup checksumName = some content → Shallow content ∧
      ∀ checksums, jsonObject content s!"{name} checksums" = .ok checksums →
        ∀ raws, get checksums "entries" = .arr raws →
          (get checksums "algorithm").str? = some (key "sha256") →
          ∀ paths, raws.foldlM (innerEntry name members) [] = .ok paths →
            SameNames (members.map Prod.fst) (checksumName :: paths) →
            ∀ data, members.lookup manifestName = some data → Shallow data

omit [EscapeLibrary] in
theorem exists_lookup_of_ending {members : Members} {ending : String} {name : Str}
    (h : namesEnding members ending = [name]) : ∃ content, members.lookup name = some content := by
  have hname : name ∈ namesEnding members ending := h ▸ List.mem_singleton_self name
  exact exists_lookup_of_mem (List.mem_filter.1 hname).1

theorem expected_verifyInner {name : String} {members : Members} :
    RaisesOnly Expected (verifyInner name members) ↔ ShallowInner name members := by
  unfold verifyInner
  split
  · rename_i checksumName manifestName hchecksum hmanifest
    obtain ⟨content, hcontent⟩ := exists_lookup_of_ending hchecksum
    obtain ⟨data, hdata⟩ := exists_lookup_of_ending hmanifest
    unfold ShallowInner
    simp only [hchecksum, hmanifest, List.cons.injEq, and_true, forall_eq', hcontent, hdata,
      Option.some.injEq]
    simp only [orFail_some, ok_bind]
    rw [raisesOnly_bind, expected_jsonObject]
    refine and_congr_right fun _ => forall_congr' fun checksums => imp_congr_right fun _ => ?_
    cases get checksums "entries" with
    | arr raws =>
      have hraws : ∀ p : List (Value Str) → Prop,
          (∀ raws', Value.arr raws = .arr raws' → p raws') ↔ p raws := by
        simp
      rw [hraws, raisesOnly_ensure_bind (expected_inspection _)]
      refine imp_congr_right fun _ => ?_
      rw [raisesOnly_bind_of (RaisesOnly.foldlM fun _ _ => expected_innerEntry)]
      refine forall_congr' fun paths => imp_congr_right fun _ => ?_
      rw [raisesOnly_ensure_bind (expected_inspection _), expected_jsonObject]
    | _ => exact iff_of_true ((raisesOnly_error _).2 (expected_inspection _)) fun _ h => by cases h
  · rename_i hnot
    refine iff_of_true ((raisesOnly_error _).2 (expected_inspection _)) ?_
    intro checksumName hchecksum manifestName hmanifest
    cases hnot _ _ hchecksum hmanifest

/-- An archive inside the bundle is read, and its documents, without an exception that the inspector
does not expect. -/
def HandledZip (name : String) (member : Option ByteArray) : Prop := ∀ content, member = some content →
  HandledInner name content ∧
    ∀ members, openInner name content = .ok members → ShallowInner name members

theorem expected_verifyJsonChecksumZip {name : String} {member : Option ByteArray} :
    RaisesOnly Expected (verifyJsonChecksumZip name member) ↔ HandledZip name member := by
  unfold HandledZip
  cases member with
  | none => exact iff_of_true ((raisesOnly_error _).2 (expected_inspection _)) nofun
  | some content =>
    simp only [Option.some.injEq, forall_eq', verifyJsonChecksumZip]
    rw [raisesOnly_bind, expected_openInner]
    simp only [expected_verifyInner]

/-! ## The generic conversation export -/

/-- The manifest of an export whose files are those that its checksums say is no deeper than the decoder
goes. -/
def ShallowExport (members : Members) (root : Str) : Prop :=
  (∀ name ∈ payloadNames ++ ["checksums.sha256"], (fileOf members root name).isSome = true) →
    ∀ checksums, fileOf members root "checksums.sha256" = some checksums →
    ∀ text, decodeUtf8 checksums = some text →
    ∀ declared, declaredDigests [] (splitLines [] text) = some declared →
      SameNames (declared.map fun d => Str.ofText d.1) (payloadNames.map key) →
      (∀ name ∈ payloadNames, verifyFile members root declared name = .ok ()) →
      ∀ content, fileOf members root "manifest.json" = some content → Shallow content

theorem expected_verifyGenericExport {members : Members} {root : Str} :
    RaisesOnly Expected (verifyGenericExport members root) ↔ ShallowExport members root := by
  unfold verifyGenericExport ShallowExport
  rw [raisesOnly_ensure_bind (expected_inspection _)]
  refine imp_congr_right fun hfiles => ?_
  obtain ⟨checksums, hchecksums⟩ := Option.isSome_iff_exists.1
    (hfiles "checksums.sha256" (by simp))
  obtain ⟨content, hcontent⟩ := Option.isSome_iff_exists.1
    (hfiles "manifest.json" (by simp [payloadNames]))
  simp only [hchecksums, hcontent, Option.some.injEq, forall_eq', orFail_some, ok_bind]
  rw [raisesOnly_orFail_bind (expected_inspection _)]
  refine forall_congr' fun text => imp_congr_right fun _ => ?_
  rw [raisesOnly_orFail_bind (expected_inspection _)]
  refine forall_congr' fun declared => imp_congr_right fun _ => ?_
  rw [raisesOnly_ensure_bind (expected_inspection _)]
  refine imp_congr_right fun _ => ?_
  have hclean : RaisesOnly Expected (forEach (verifyFile members root declared) payloadNames) :=
    RaisesOnly.forEach fun _ _ => raisesOnly_ensure (expected_inspection _)
  rw [raisesOnly_bind_of hclean]
  have hfiles : ∀ p : Prop, (∀ u, forEach (verifyFile members root declared) payloadNames = .ok u → p) ↔
      ((∀ name ∈ payloadNames, verifyFile members root declared name = .ok ()) → p) :=
    fun p => ⟨fun h hall => h () (forEach_eq_ok.2 hall), fun h u hok => h (forEach_eq_ok.1 hok)⟩
  rw [hfiles]
  refine imp_congr_right fun _ => ?_
  rw [raisesOnly_bind, expected_jsonObject]
  exact and_iff_left fun manifest _ => raisesOnly_ensure (expected_inspection _)

/-! ## The whole inspection -/

theorem expected_stateManifest {members : Members} {manifest : List (Str × Value Str)} :
    RaisesOnly Expected (stateManifest members manifest) ↔
      ∀ path, (get manifest "state_package_path").str? = some path →
        HandledZip "state package" (members.lookup path) := by
  unfold stateManifest
  rw [raisesOnly_orFail_bind (expected_inspection _)]
  simp only [expected_verifyJsonChecksumZip]

theorem expected_recoveryCounts {manifest state : List (Str × Value Str)} :
    RaisesOnly Expected (recoveryCounts manifest state) := by
  refine (raisesOnly_orFail_bind (expected_inspection _)).2 fun recordCounts _ => ?_
  refine (raisesOnly_orFail_bind (expected_inspection _)).2 fun omitted _ => ?_
  refine (raisesOnly_ensure_bind (expected_inspection _)).2 fun _ => ?_
  exact (raisesOnly_ensure_bind (expected_inspection _)).2 fun _ => raisesOnly_pure _

theorem expected_genericExport {members : Members} {manifest : List (Str × Value Str)} :
    RaisesOnly Expected (genericExport members manifest) ↔
      ∀ root, get manifest "generic_conversation_prefix" = .str root →
        ShallowExport members root := by
  unfold genericExport
  cases get manifest "generic_conversation_prefix" with
  | null => exact iff_of_true (raisesOnly_ok _) nofun
  | str root =>
    simp only [Value.str.injEq, forall_eq']
    rw [raisesOnly_bind, expected_verifyGenericExport]
    exact and_iff_left fun _ _ => raisesOnly_pure _
  | _ => exact iff_of_true ((raisesOnly_error _).2 (expected_inspection _)) nofun

theorem expected_resumePaths {members : Members} {manifest : List (Str × Value Str)} :
    RaisesOnly Expected (resumePaths members manifest) ↔
      ∀ paths, strings? (get manifest "resume_bundle_paths") = some paths →
        ∀ before path after, paths = before ++ path :: after →
          forEach (verifyResumeBundle members) before = .ok () →
            HandledZip "Resume Bundle" (members.lookup path) := by
  unfold resumePaths
  rw [raisesOnly_orFail_bind (expected_inspection _)]
  refine forall_congr' fun paths => imp_congr_right fun _ => ?_
  have hpath : ∀ path, RaisesOnly Expected (verifyResumeBundle members path) ↔
      HandledZip "Resume Bundle" (members.lookup path) := by
    intro path
    rw [verifyResumeBundle, raisesOnly_bind, expected_verifyJsonChecksumZip]
    exact and_iff_left fun _ _ => raisesOnly_pure _
  rw [raisesOnly_bind, raisesOnly_forEach]
  simp only [hpath]
  exact and_iff_left fun _ _ => raisesOnly_pure _

/-- What the manifest names is read without an exception that the inspector does not expect. -/
structure HandledManifest (members : Members) (manifest : List (Str × Value Str)) : Prop where
  statePackage : ∀ path, (get manifest "state_package_path").str? = some path →
    HandledZip "state package" (members.lookup path)
  generic : ∀ state counts, stateManifest members manifest = .ok state →
    recoveryCounts manifest state = .ok counts →
      ∀ root, get manifest "generic_conversation_prefix" = .str root → ShallowExport members root
  resume : ∀ state counts exported, stateManifest members manifest = .ok state →
    recoveryCounts manifest state = .ok counts → genericExport members manifest = .ok exported →
      ∀ paths, strings? (get manifest "resume_bundle_paths") = some paths →
        ∀ before path after, paths = before ++ path :: after →
          forEach (verifyResumeBundle members) before = .ok () →
            HandledZip "Resume Bundle" (members.lookup path)

theorem expected_summarize {members : Members} {manifest : List (Str × Value Str)}
    {reread : Option ByteArray} :
    RaisesOnly Expected (summarize members manifest reread) ↔ HandledManifest members manifest := by
  -- after the Resume Bundles nothing unexpected escapes
  have hend : ∀ (counts : List (Str × Value Str) × List (Str × Value Str))
      (exported : Bool) (paths : List Str),
      RaisesOnly Expected (do
        let recoverable ← orFail (inspection "recoverable surface declaration is invalid")
          (booleans? (get manifest "recoverable_surfaces"))
        let content ← orFail ⟨.fileSystem, "read_bytes"⟩ reread
        return ({
          workspaceId := get manifest "workspace_id"
          stateRevision := get manifest "state_revision"
          recordCounts := counts.1
          omittedSecretCounts := counts.2
          recoverableSurfaces := recoverable
          genericConversationExport := exported
          resumeBundleCount := paths.length
          memberCount := members.length
          topLevelSha256 := EscapeLibrary.sha256 content } : Summary)) := by
    intro counts exported paths
    refine (raisesOnly_orFail_bind (expected_inspection _)).2 fun recoverable _ => ?_
    exact (raisesOnly_orFail_bind (.inr rfl)).2 fun content _ => raisesOnly_pure _
  unfold summarize
  rw [raisesOnly_bind, expected_stateManifest]
  constructor
  · rintro ⟨hstate, hrest⟩
    refine ⟨hstate, ?_, ?_⟩
    · intro state counts hs hc
      have hrest := (raisesOnly_bind.1 (hrest state hs)).2 counts hc
      exact expected_genericExport.1 (raisesOnly_bind.1 hrest).1
    · intro state counts exported hs hc he
      have hrest := (raisesOnly_bind.1 (hrest state hs)).2 counts hc
      have hrest := (raisesOnly_bind.1 hrest).2 exported he
      exact expected_resumePaths.1 (raisesOnly_bind.1 hrest).1
  · intro h
    refine ⟨h.statePackage, fun state hs => ?_⟩
    refine raisesOnly_bind.2 ⟨expected_recoveryCounts, fun counts hc => ?_⟩
    refine raisesOnly_bind.2 ⟨expected_genericExport.2 (h.generic state counts hs hc), ?_⟩
    intro exported he
    refine raisesOnly_bind.2 ⟨expected_resumePaths.2 (h.resume state counts exported hs hc he), ?_⟩
    exact fun paths _ => hend counts exported paths

/-- What an inspection comes to is read without an exception that the inspector does not expect. -/
structure Handled (bundle : ByteArray) : Prop where
  archive : HandledArchive bundle
  checksums : ∀ members, openBundle bundle = .ok members → HandledInventory members
  manifest : ∀ members entries, openBundle bundle = .ok members → inventory members = .ok entries →
    ∀ content, members.lookup MANIFEST = some content → Shallow content
  contents : ∀ members entries manifest, openBundle bundle = .ok members →
    inventory members = .ok entries → readManifest members = .ok manifest →
      HandledManifest members manifest

/-- Nothing but what is expected escapes from an inspection exactly when what it comes to is
handled. -/
theorem expected_inspectBundle {bundle : ByteArray} {reread : Option ByteArray} :
    RaisesOnly Expected (inspectBundle bundle reread) ↔ Handled bundle := by
  rw [inspectBundle, raisesOnly_bind, expected_openBundle]
  constructor
  · rintro ⟨harchive, hrest⟩
    refine ⟨harchive, ?_, ?_, ?_⟩
    · intro members ho
      exact expected_inventory.1 (raisesOnly_bind.1 (hrest members ho)).1
    · intro members entries ho hi
      have hrest := (raisesOnly_bind.1 (hrest members ho)).2 entries hi
      exact expected_readManifest.1 (raisesOnly_bind.1 hrest).1
    · intro members entries manifest ho hi hm
      have hrest := (raisesOnly_bind.1 (hrest members ho)).2 entries hi
      exact expected_summarize.1 ((raisesOnly_bind.1 hrest).2 manifest hm)
  · intro h
    refine ⟨h.archive, fun members ho => ?_⟩
    refine raisesOnly_bind.2 ⟨expected_inventory.2 (h.checksums members ho), fun entries hi => ?_⟩
    refine raisesOnly_bind.2 ⟨expected_readManifest.2 (h.manifest members entries ho hi), ?_⟩
    exact fun manifest hm => expected_summarize.2 (h.contents members entries manifest ho hi hm)

end

end DollState.Escape
