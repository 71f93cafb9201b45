import Mathlib
import DollState.Escape.Failures

/-!
# What an inspection reports

What a bundle holds, in terms of its archives and documents, and what it means that a summary is sound
for it. The inspector compares some of what it reports with the archives inside the bundle and takes the
rest from the manifest; `Tied` is what it leaves open.
-/

namespace DollState.Escape

open StateLib JsonText Import

section

variable [EscapeLibrary]

/-! ## What a bundle holds -/

/-- The object that a content is as a document. -/
def documentOf (content : ByteArray) : Option (List (Str × Value Str)) :=
  match (decodeUtf8 content).map loadDocument with
  | some (.ok (.obj entries)) => some entries
  | _ => none

theorem jsonObject_eq_ok {content : ByteArray} {name : String} {document : List (Str × Value Str)} :
    jsonObject content name = .ok document ↔ documentOf content = some document := by
  unfold jsonObject documentOf
  cases decodeUtf8 content with
  | none => simp
  | some text =>
    simp only [Option.map_some]
    cases loadDocument text with
    | ok value => cases value <;> simp
    | error e => cases e <;> simp

/-- The members of an archive. -/
def Holds (archive : ByteArray) (members : Members) : Prop :=
  ∃ infos, EscapeLibrary.infolist archive = .ok infos ∧ readAll archive infos = .ok members

theorem Holds.unique {archive : ByteArray} {members members' : Members}
    (h : Holds archive members) (h' : Holds archive members') : members = members' := by
  obtain ⟨infos, hinfos, hread⟩ := h
  obtain ⟨infos', hinfos', hread'⟩ := h'
  cases hinfos.symm.trans hinfos'
  exact Except.ok.inj (hread.symm.trans hread')

/-- The document that a member is. -/
def HoldsDocument (members : Members) (name : Str) (document : List (Str × Value Str)) : Prop :=
  ∃ content, members.lookup name = some content ∧ documentOf content = some document

theorem HoldsDocument.unique {members : Members} {name : Str}
    {document document' : List (Str × Value Str)} (h : HoldsDocument members name document)
    (h' : HoldsDocument members name document') : document = document' := by
  obtain ⟨content, hcontent, hdocument⟩ := h
  obtain ⟨content', hcontent', hdocument'⟩ := h'
  cases hcontent.symm.trans hcontent'
  exact Option.some.inj (hdocument.symm.trans hdocument')

/-- The manifest in the archive that a member is. -/
def EmbeddedManifest (members : Members) (path : Str) (document : List (Str × Value Str)) : Prop :=
  ∃ content inner name, members.lookup path = some content ∧ Holds content inner ∧
    name ∈ namesEnding inner "/manifest.json" ∧ HoldsDocument inner name document

/-- A complete generic export: its files with the digests that its checksums give, and its manifest. -/
def CompleteExport (members : Members) (root : Str) : Prop :=
  verifyGenericExport members root = .ok ()

/-- The members of a bundle, the documents that describe them, and the paths of its Resume Bundles. -/
structure Describes (bundle : ByteArray) (members : Members) (manifest state : List (Str × Value Str))
    (paths : List Str) : Prop where
  contents : Holds bundle members
  described : HoldsDocument members MANIFEST manifest
  package : ∃ path, get manifest "state_package_path" = .str path ∧ EmbeddedManifest members path state
  resumed : strings? (get manifest "resume_bundle_paths") = some paths

/-! ## Sound summaries -/

/-- The path of an entry of an inventory. -/
def entryPath : Value Str → Option Str
  | .obj entry => (get entry "path").str?
  | _ => none

/-- The member is in the inventory exactly once, with its size and its digest. -/
def ListedOnce (entries : List (Value Str)) (m : Str × ByteArray) : Prop :=
  ∃ entry, entries.filter (fun raw => entryPath raw = some m.1) = [.obj entry] ∧
    get entry "sha256" = .str (hexdigest m.2) ∧
    pyEq (get entry "size_bytes") (.int m.2.size) = true

/-- Both inventories list the members other than themselves. -/
def Inventoried (members : Members) (manifest : List (Str × Value Str)) : Prop :=
  ∃ checksums raws declared, HoldsDocument members CHECKSUMS checksums ∧
    get checksums "entries" = .arr raws ∧ get manifest "members" = .arr declared ∧
    ∀ m ∈ members, m.1 ∉ [CHECKSUMS, MANIFEST] → ListedOnce raws m ∧ ListedOnce declared m

/-- What the summary says is so. -/
structure SoundFor (members : Members) (manifest state : List (Str × Value Str)) (paths : List Str)
    (summary : Summary) : Prop where
  inventoried : Inventoried members manifest
  workspaceId : pyEq summary.workspaceId (get state "workspace_id") = true
  stateRevision : pyEq summary.stateRevision (get state "state_revision") = true
  recordCounts : get state "record_counts" = .obj summary.recordCounts
  omittedSecretCounts : get state "omitted_secret_counts" = .obj summary.omittedSecretCounts
  distinct : paths.Nodup
  counted : summary.resumeBundleCount = paths.length
  belongs : ∀ path ∈ paths, ∃ resume, EmbeddedManifest members path resume ∧
    pyEq (get resume "generated_from_workspace_id") (get state "workspace_id") = true
  exported : summary.genericConversationExport = true ↔ ∃ root, CompleteExport members root

/-- The summary is sound for the bundle. -/
def Sound (bundle : ByteArray) (summary : Summary) : Prop := ∃ members manifest state paths,
  Describes bundle members manifest state paths ∧ SoundFor members manifest state paths summary

/-- What the inspector does not compare: the manifest names the workspace and the revision of the
State Package, and a complete generic export if there is one; the Resume Bundles that it lists are
distinct and of that workspace. -/
structure Tied (members : Members) (manifest state : List (Str × Value Str)) (paths : List Str) :
    Prop where
  workspaceId : pyEq (get manifest "workspace_id") (get state "workspace_id") = true
  stateRevision : pyEq (get manifest "state_revision") (get state "state_revision") = true
  distinct : paths.Nodup
  belongs : ∀ path ∈ paths, ∀ resume, EmbeddedManifest members path resume →
    pyEq (get resume "generated_from_workspace_id") (get state "workspace_id") = true
  exported : get manifest "generic_conversation_prefix" = .null → ∀ root, ¬ CompleteExport members root

/-! ## What a successful inspection has checked -/

theorem openBundle_eq_ok {bundle : ByteArray} {members : Members} :
    openBundle bundle = .ok members ↔ ∃ infos seen, EscapeLibrary.infolist bundle = .ok infos ∧
      validateInfos infos = .ok seen ∧ readAll bundle infos = .ok members := by
  unfold openBundle
  cases EscapeLibrary.infolist bundle with
  | error e => simp
  | ok infos =>
    simp only [bind_eq_ok, Except.ok.injEq]
    constructor
    · rintro ⟨seen, hseen, h⟩
      cases hread : readAll bundle infos with
      | error e => simp [hread] at h
      | ok found =>
        rw [hread] at h
        cases h
        exact ⟨infos, seen, rfl, hseen, hread⟩
    · rintro ⟨infos', seen, rfl, hseen, hread⟩
      exact ⟨seen, hseen, by rw [hread]⟩

theorem readAll_names {archive : ByteArray} {infos : List Info} {members : Members}
    (h : readAll archive infos = .ok members) :
    members.map Prod.fst = infos.map Info.filename := by
  have hall := mapM_eq_ok.1 h
  induction hall with
  | nil => rfl
  | cons hm _ ih =>
    obtain ⟨content, -, hm⟩ := bind_eq_ok.1 hm
    cases hm
    rw [List.map_cons, List.map_cons, ih (mapM_eq_ok.2 ‹_›)]

omit [EscapeLibrary] in
theorem memberName_eq_ok {value name : Str} (h : memberName value = .ok name) :
    name = asPosix value := by
  obtain ⟨-, h⟩ := check_bind_eq_ok.1 h
  cases hparts : pathParts value with
  | nil => simp [hparts] at h
  | cons root parts =>
    simp only [hparts] at h
    obtain ⟨-, h⟩ := check_bind_eq_ok.1 h
    exact (pure_eq_ok.1 h).symm

/-- The names of the members are distinct, since their normal forms are. -/
theorem validateInfos_nodup {infos : List Info} {seen : Seen} (h : validateInfos infos = .ok seen) :
    (infos.map Info.filename).Nodup := by
  obtain ⟨-, h⟩ := check_bind_eq_ok.1 h
  have hinv : (∀ info ∈ infos, asPosix info.filename ∈ seen.names) ∧
      (infos.map Info.filename).Nodup := by
    refine foldlM_induction (fun done (seen : Seen) =>
      (∀ info ∈ done, asPosix info.filename ∈ seen.names) ∧ (done.map Info.filename).Nodup)
      ⟨nofun, List.nodup_nil⟩ ?_ h
    rintro done info rest seen seen' - ⟨hnames, hnodup⟩ hstep
    obtain ⟨name, hname, hstep⟩ := bind_eq_ok.1 hstep
    obtain ⟨hnew, hstep⟩ := check_bind_eq_ok.1 hstep
    cases memberName_eq_ok hname
    iterate 6 replace hstep := (check_bind_eq_ok.1 hstep).2
    cases hstep
    constructor
    · intro other hother
      rcases List.mem_append.1 hother with hother | hother
      · exact List.mem_cons_of_mem _ (hnames other hother)
      · rw [List.mem_singleton.1 hother]
        exact List.mem_cons_self
    · rw [List.map_append, List.nodup_append]
      refine ⟨hnodup, List.nodup_singleton _, ?_⟩
      intro filename hfilename filename' hfilename' heq
      obtain ⟨other, hother, rfl⟩ := List.mem_map.1 hfilename
      rw [List.map_singleton, List.mem_singleton] at hfilename'
      rw [hfilename'] at heq
      exact ensure_eq_ok.1 hnew (heq ▸ hnames other hother)
  exact hinv.2

/-! ## The inventories -/

omit [EscapeLibrary] in
theorem str?_eq_some {v : Value Str} {s : Str} : v.str? = some s ↔ v = .str s := by
  cases v <;> simp [Value.str?]

omit [EscapeLibrary] in
theorem size?_eq_some {v : Value Str} {n : Nat} (h : size? v = some n) : v = .int n := by
  cases v with
  | int i =>
    rw [size?] at h
    split at h
    · rename_i hi
      cases h
      rw [Int.toNat_of_nonneg hi]
    · cases h
  | _ => cases h

/-- An entry of the checksums, read from a document. -/
def IsEntry (entry : ChecksumEntry) (raw : Value Str) : Prop := ∃ e, raw = .obj e ∧
  get e "path" = .str entry.path ∧ get e "sha256" = .str entry.sha256 ∧
  get e "size_bytes" = .int entry.sizeBytes

omit [EscapeLibrary] in
theorem IsEntry.entryPath {entry : ChecksumEntry} {raw : Value Str} (h : IsEntry entry raw) :
    entryPath raw = some entry.path := by
  obtain ⟨e, rfl, hpath, -⟩ := h
  exact str?_eq_some.2 hpath

omit [EscapeLibrary] in
theorem checksumEntry_eq_ok {previous : Str} {raw : Value Str} {entry : ChecksumEntry}
    (h : checksumEntry previous raw = .ok entry) :
    IsEntry entry raw ∧ ¬ entry.path.le previous := by
  cases raw with
  | obj e =>
    obtain ⟨-, h⟩ := check_bind_eq_ok.1 h
    obtain ⟨path, hpath, h⟩ := bind_eq_ok.1 h
    obtain ⟨name, -, h⟩ := bind_eq_ok.1 h
    obtain ⟨horder, h⟩ := check_bind_eq_ok.1 h
    obtain ⟨digest, hdigest, h⟩ := bind_eq_ok.1 h
    obtain ⟨-, h⟩ := check_bind_eq_ok.1 h
    obtain ⟨size, hsize, h⟩ := bind_eq_ok.1 h
    cases h
    refine ⟨⟨e, rfl, str?_eq_some.1 (orFail_eq_ok.1 hpath), str?_eq_some.1 (orFail_eq_ok.1 hdigest),
      size?_eq_some (orFail_eq_ok.1 hsize)⟩, (ensure_eq_ok.1 horder).2⟩
  | _ => cases h

omit [EscapeLibrary] in
/-- The entries come in the order of their paths. -/
theorem checksumEntriesAfter_eq_ok {raws : List (Value Str)} : ∀ {previous : Str}
    {entries : List ChecksumEntry}, checksumEntriesAfter previous raws = .ok entries →
      List.Forall₂ IsEntry entries raws ∧
        ((previous :: entries.map ChecksumEntry.path).map (List.map CodePoint.toNat)).Pairwise
          (· < ·) := by
  induction raws with
  | nil =>
    intro previous entries h
    cases h
    exact ⟨.nil, List.pairwise_singleton _ _⟩
  | cons raw raws ih =>
    intro previous entries h
    obtain ⟨entry, hentry, h⟩ := bind_eq_ok.1 h
    obtain ⟨rest, hrest, h⟩ := bind_eq_ok.1 h
    cases h
    obtain ⟨hisEntry, horder⟩ := checksumEntry_eq_ok hentry
    obtain ⟨hrest, hsorted⟩ := ih hrest
    have hlt : previous.map CodePoint.toNat < entry.path.map CodePoint.toNat := not_le.1 horder
    refine ⟨.cons hisEntry hrest, List.pairwise_cons.2 ⟨?_, hsorted⟩⟩
    intro path hpath
    rcases List.mem_cons.1 hpath with rfl | hpath
    · exact hlt
    · exact hlt.trans ((List.pairwise_cons.1 hsorted).1 path hpath)

/-- One of the entries with distinct paths is the only one of its path. -/
theorem listedOnce_of_mem {raws : List (Value Str)} (hnodup : (raws.map entryPath).Nodup)
    {e : List (Str × Value Str)} (he : Value.obj e ∈ raws) {m : Str × ByteArray}
    (hpath : get e "path" = .str m.1) (hdigest : get e "sha256" = .str (hexdigest m.2))
    (hsize : pyEq (get e "size_bytes") (.int m.2.size) = true) : ListedOnce raws m := by
  have hkey : entryPath (.obj e) = some m.1 := str?_eq_some.2 hpath
  refine ⟨e, ?_, hdigest, hsize⟩
  have hone := filter_key_eq_singleton hnodup he
  rwa [hkey] at hone

omit [EscapeLibrary] in
theorem map_entryPath {ι : Type} {path : ι → Str} {xs : List ι} {raws : List (Value Str)}
    (h : List.Forall₂ (fun x raw => entryPath raw = some (path x)) xs raws) :
    raws.map entryPath = (xs.map path).map some := by
  induction h with
  | nil => rfl
  | cons hx _ ih => rw [List.map_cons, hx, ih, List.map_cons, List.map_cons]

theorem pyEq_int_self {i : Int} : pyEq (.int i) (.int i) = true := by
  simp [pyEq, numeric]

/-- The checksums list every other member. -/
theorem inventory_listed {members : Members} {entries : List ChecksumEntry}
    (hnodup : (members.map Prod.fst).Nodup) (h : inventory members = .ok entries) :
    ∃ checksums raws, HoldsDocument members CHECKSUMS checksums ∧
      get checksums "entries" = .arr raws ∧
      ∀ m ∈ members, m.1 ≠ CHECKSUMS → ListedOnce raws m := by
  obtain ⟨content, hcontent, h⟩ := bind_eq_ok.1 h
  obtain ⟨checksums, hdocument, h⟩ := bind_eq_ok.1 h
  obtain ⟨found, hentries, h⟩ := bind_eq_ok.1 h
  obtain ⟨hnames, h⟩ := check_bind_eq_ok.1 h
  obtain ⟨hverified, h⟩ := check_bind_eq_ok.1 h
  cases h
  obtain ⟨-, hentries⟩ := check_bind_eq_ok.1 hentries
  cases hraws : get checksums "entries" with
  | arr raws =>
    rw [hraws] at hentries
    obtain ⟨hforall, hsorted⟩ := checksumEntriesAfter_eq_ok hentries
    have hpaths : (raws.map entryPath).Nodup := by
      rw [map_entryPath (hforall.imp fun _ _ => IsEntry.entryPath)]
      refine List.Nodup.map (Option.some_injective _) (List.Nodup.of_map (List.map CodePoint.toNat) ?_)
      exact (List.pairwise_cons.1 hsorted).2.imp ne_of_lt
    refine ⟨checksums, raws, ⟨content, orFail_eq_ok.1 hcontent, jsonObject_eq_ok.1 hdocument⟩,
      hraws, fun m hm hne => ?_⟩
    have hmem := (ensure_eq_ok.1 hnames).1 m.1 (List.mem_map_of_mem hm)
    obtain ⟨entry, hentry, hpath⟩ := List.mem_map.1 (List.mem_of_ne_of_mem hne hmem)
    have hlookup : members.lookup entry.path = some m.2 := hpath ▸ lookup_of_nodup hnodup hm
    have hentryOk := forEach_eq_ok.1 hverified entry hentry
    rw [verifyEntry, hlookup] at hentryOk
    obtain ⟨hsize, hdigest⟩ := check_bind_eq_ok.1 hentryOk
    obtain ⟨raw, hraw, e, rfl, hrawPath, hrawDigest, hrawSize⟩ :=
      exists_of_mem_forall₂ hforall hentry
    refine listedOnce_of_mem hpaths hraw (hpath ▸ hrawPath) ?_ ?_
    · rw [hrawDigest, ensure_eq_ok.1 hdigest]
    · rw [hrawSize, ensure_eq_ok.1 hsize]
      exact pyEq_int_self
  | _ => simp [hraws] at hentries

theorem pyEqAll_iff {vs ws : List (Value Str)} :
    pyEqAll vs ws = true ↔ List.Forall₂ (fun v w => pyEq v w = true) vs ws := by
  induction ws generalizing vs with
  | nil => cases vs <;> simp [pyEqAll]
  | cons w ws ih => cases vs <;> simp [pyEqAll, ih]

theorem pyEq_arr {v : Value Str} {ws : List (Value Str)} (h : pyEq v (.arr ws) = true) :
    ∃ vs, v = .arr vs ∧ List.Forall₂ (fun v w => pyEq v w = true) vs ws := by
  cases v with
  | arr vs => exact ⟨vs, rfl, pyEqAll_iff.1 (by simpa [pyEq] using h)⟩
  | _ => simp [pyEq] at h

theorem pyEq_str {v : Value Str} {s : Str} (h : pyEq v (.str s) = true) : v = .str s := by
  cases v with
  | str t => simpa [pyEq] using h
  | _ => simp [pyEq] at h

theorem pyEqEntries_lookup {es fs : List (Str × Value Str)} (h : pyEqEntries es fs = true) {k : Str}
    {w : Value Str} (hw : (k, w) ∈ fs) : ∃ v, es.lookup k = some v ∧ pyEq v w = true := by
  induction fs with
  | nil => cases hw
  | cons f fs ih =>
    rw [pyEqEntries, Bool.and_eq_true] at h
    rcases List.mem_cons.1 hw with rfl | hw
    · cases hv : es.lookup k with
      | none => simp [hv] at h
      | some v => exact ⟨v, rfl, by simpa [hv] using h.1⟩
    · exact ih h.2 hw

/-- An equal of the description of a member is an entry for it. -/
theorem describes_of_pyEq {v : Value Str} {m : Str × ByteArray} (h : pyEq v (describe m) = true) :
    ∃ e, v = .obj e ∧ get e "path" = .str m.1 ∧ get e "sha256" = .str (hexdigest m.2) ∧
      pyEq (get e "size_bytes") (.int m.2.size) = true := by
  cases v with
  | obj e =>
    rw [describe, pyEq, Bool.and_eq_true] at h
    obtain ⟨path, hpath, hp⟩ := pyEqEntries_lookup h.2 (List.mem_cons_self)
    obtain ⟨digest, hdigest, hd⟩ := pyEqEntries_lookup h.2 (.tail _ (.head _))
    obtain ⟨size, hsize, hs⟩ := pyEqEntries_lookup h.2 (.tail _ (.tail _ (.head _)))
    refine ⟨e, rfl, ?_, ?_, ?_⟩
    · rw [get, hpath]
      exact pyEq_str hp
    · rw [get, hdigest]
      exact pyEq_str hd
    · rw [get, hsize]
      exact hs
  | _ => simp [describe, pyEq] at h

/-- The manifest lists every member but the inventories. -/
theorem readManifest_listed {members : Members} {manifest : List (Str × Value Str)}
    (hnodup : (members.map Prod.fst).Nodup) (h : readManifest members = .ok manifest) :
    HoldsDocument members MANIFEST manifest ∧ ∃ declared, get manifest "members" = .arr declared ∧
      ∀ m ∈ members, m.1 ∉ [CHECKSUMS, MANIFEST] → ListedOnce declared m := by
  obtain ⟨content, hcontent, h⟩ := bind_eq_ok.1 h
  obtain ⟨found, hdocument, h⟩ := bind_eq_ok.1 h
  obtain ⟨-, h⟩ := check_bind_eq_ok.1 h
  obtain ⟨hdeclared, h⟩ := check_bind_eq_ok.1 h
  cases h
  refine ⟨⟨content, orFail_eq_ok.1 hcontent, jsonObject_eq_ok.1 hdocument⟩, ?_⟩
  obtain ⟨declared, heq, hforall⟩ := pyEq_arr (ensure_eq_ok.1 hdeclared)
  unfold expectedDeclared at hforall
  generalize hlisted : (members.filter fun m => m.1 ∉ [CHECKSUMS, MANIFEST]).insertionSort
    (fun a b => a.1.le b.1) = listed at hforall
  have hperm := List.perm_insertionSort (fun a b : Str × ByteArray => a.1.le b.1)
    (members.filter fun m => m.1 ∉ [CHECKSUMS, MANIFEST])
  rw [hlisted] at hperm
  have hentries : List.Forall₂ (fun (m : Str × ByteArray) v => ∃ e, v = .obj e ∧
      get e "path" = .str m.1 ∧ get e "sha256" = .str (hexdigest m.2) ∧
      pyEq (get e "size_bytes") (.int m.2.size) = true) listed declared :=
    (List.forall₂_map_right_iff.1 hforall).flip.imp fun _ _ => describes_of_pyEq
  have hpaths : (declared.map entryPath).Nodup := by
    rw [@map_entryPath _ Prod.fst _ _ (hentries.imp ?_)]
    · refine List.Nodup.map (Option.some_injective _) ((hperm.map Prod.fst).nodup_iff.2 ?_)
      exact hnodup.sublist (List.filter_sublist.map Prod.fst)
    · rintro m v ⟨e, rfl, hpath, -⟩
      exact str?_eq_some.2 hpath
  refine ⟨declared, heq, fun m hm hne => ?_⟩
  have hmem : m ∈ listed := hperm.mem_iff.2 (List.mem_filter.2 ⟨hm, by simpa using hne⟩)
  obtain ⟨v, hv, e, rfl, hpath, hdigest, hsize⟩ := exists_of_mem_forall₂ hentries hmem
  exact listedOnce_of_mem hpaths hv hpath hdigest hsize

/-! ## Archives inside it -/

theorem openInner_holds {name : String} {content : ByteArray} {inner : Members}
    (h : openInner name content = .ok inner) : Holds content inner := by
  unfold openInner at h
  cases hinfos : EscapeLibrary.infolist content with
  | error e => simp [hinfos] at h
  | ok infos =>
    rw [hinfos] at h
    iterate 2 replace h := (check_bind_eq_ok.1 h).2
    obtain ⟨total, -, h⟩ := bind_eq_ok.1 h
    refine ⟨infos, hinfos, ?_⟩
    cases hread : readAll content infos with
    | error e => simp [hread] at h
    | ok found => simpa [hread] using h

theorem verifyInner_manifest {name : String} {inner : Members} {document : List (Str × Value Str)}
    (h : verifyInner name inner = .ok document) : ∃ manifestName,
      namesEnding inner "/manifest.json" = [manifestName] ∧
      HoldsDocument inner manifestName document := by
  unfold verifyInner at h
  split at h
  · rename_i checksumName manifestName hchecksum hmanifest
    refine ⟨manifestName, hmanifest, ?_⟩
    obtain ⟨content, -, h⟩ := bind_eq_ok.1 h
    obtain ⟨checksums, -, h⟩ := bind_eq_ok.1 h
    split at h
    · obtain ⟨-, h⟩ := check_bind_eq_ok.1 h
      obtain ⟨paths, -, h⟩ := bind_eq_ok.1 h
      obtain ⟨-, h⟩ := check_bind_eq_ok.1 h
      obtain ⟨data, hdata, h⟩ := bind_eq_ok.1 h
      exact ⟨data, orFail_eq_ok.1 hdata, jsonObject_eq_ok.1 h⟩
    · cases h
  · cases h

/-- An archive that has been verified has one manifest, the one that is returned. -/
theorem embeddedManifest_iff {name : String} {members : Members} {path : Str}
    {document : List (Str × Value Str)}
    (h : verifyJsonChecksumZip name (members.lookup path) = .ok document)
    {other : List (Str × Value Str)} :
    EmbeddedManifest members path other ↔ other = document := by
  cases hcontent : members.lookup path with
  | none => simp [hcontent, verifyJsonChecksumZip] at h
  | some content =>
    rw [hcontent] at h
    obtain ⟨inner, hinner, h⟩ := bind_eq_ok.1 h
    obtain ⟨manifestName, hnames, hdocument⟩ := verifyInner_manifest h
    have hholds := openInner_holds hinner
    constructor
    · rintro ⟨content', inner', name', hcontent', hholds', hname', hdocument'⟩
      cases hcontent.symm.trans hcontent'
      cases hholds.unique hholds'
      rw [hnames, List.mem_singleton] at hname'
      rw [hname'] at hdocument'
      exact hdocument'.unique hdocument
    · rintro rfl
      refine ⟨content, inner, manifestName, hcontent, hholds, ?_, hdocument⟩
      rw [hnames]
      exact List.mem_singleton_self _

/-! ## The theorem -/

/-- The checks of the inspector pass. -/
structure Passes (bundle : ByteArray) (reread : Option ByteArray) (members : Members)
    (manifest state : List (Str × Value Str)) (paths : List Str) : Prop where
  opened : openBundle bundle = .ok members
  checksums : ∃ entries, inventory members = .ok entries
  declared : readManifest members = .ok manifest
  package : stateManifest members manifest = .ok state
  counted : ∃ counts, recoveryCounts manifest state = .ok counts
  generic : ∃ exported, genericExport members manifest = .ok exported
  resumed : resumePaths members manifest = .ok paths
  surfaces : ∃ recoverable, booleans? (get manifest "recoverable_surfaces") = some recoverable
  reread : ∃ content, reread = some content

theorem exists_summary {bundle : ByteArray} {reread : Option ByteArray} {members : Members}
    {manifest state : List (Str × Value Str)} {paths : List Str}
    (h : Passes bundle reread members manifest state paths) :
    ∃ summary, inspectBundle bundle reread = .ok summary := by
  obtain ⟨entries, hentries⟩ := h.checksums
  obtain ⟨counts, hcounts⟩ := h.counted
  obtain ⟨exported, hexported⟩ := h.generic
  obtain ⟨recoverable, hrecoverable⟩ := h.surfaces
  obtain ⟨content, hcontent⟩ := h.reread
  simp only [inspectBundle, h.opened, hentries, h.declared, summarize, h.package, hcounts, hexported,
    h.resumed, hrecoverable, hcontent, orFail_some, ok_bind]
  exact ⟨_, rfl⟩

/-- A summary that is returned, in terms of what has passed. -/
structure Reports (manifest state : List (Str × Value Str)) (members : Members) (paths : List Str)
    (summary : Summary) : Prop where
  workspaceId : summary.workspaceId = get manifest "workspace_id"
  stateRevision : summary.stateRevision = get manifest "state_revision"
  counts : recoveryCounts manifest state = .ok (summary.recordCounts, summary.omittedSecretCounts)
  exported : genericExport members manifest = .ok summary.genericConversationExport
  counted : summary.resumeBundleCount = paths.length

theorem passes_of_summary {bundle : ByteArray} {reread : Option ByteArray} {summary : Summary}
    (h : inspectBundle bundle reread = .ok summary) : ∃ members manifest state paths,
      Passes bundle reread members manifest state paths ∧
      Reports manifest state members paths summary := by
  obtain ⟨members, hopened, h⟩ := bind_eq_ok.1 h
  obtain ⟨entries, hentries, h⟩ := bind_eq_ok.1 h
  obtain ⟨manifest, hmanifest, h⟩ := bind_eq_ok.1 h
  obtain ⟨state, hstate, h⟩ := bind_eq_ok.1 h
  obtain ⟨counts, hcounts, h⟩ := bind_eq_ok.1 h
  obtain ⟨exported, hexported, h⟩ := bind_eq_ok.1 h
  obtain ⟨paths, hpaths, h⟩ := bind_eq_ok.1 h
  obtain ⟨recoverable, hrecoverable, h⟩ := bind_eq_ok.1 h
  obtain ⟨content, hcontent, h⟩ := bind_eq_ok.1 h
  cases h
  exact ⟨members, manifest, state, paths,
    ⟨hopened, ⟨entries, hentries⟩, hmanifest, hstate, ⟨counts, hcounts⟩, ⟨exported, hexported⟩, hpaths,
      ⟨recoverable, orFail_eq_ok.1 hrecoverable⟩, ⟨content, orFail_eq_ok.1 hcontent⟩⟩,
    ⟨rfl, rfl, hcounts, hexported, rfl⟩⟩

theorem Describes.unique {bundle : ByteArray} {members members' : Members}
    {manifest manifest' state : List (Str × Value Str)} {paths paths' : List Str}
    (h : Describes bundle members manifest state paths) {state' : List (Str × Value Str)}
    (h' : Describes bundle members' manifest' state' paths') :
    members = members' ∧ manifest = manifest' ∧ paths = paths' := by
  cases h.contents.unique h'.contents
  cases h.described.unique h'.described
  exact ⟨rfl, rfl, Option.some.inj (h.resumed.symm.trans h'.resumed)⟩

section

variable {bundle : ByteArray} {reread : Option ByteArray} {members : Members}
  {manifest state : List (Str × Value Str)} {paths : List Str} {summary : Summary}

theorem stateManifest_eq_ok (h : stateManifest members manifest = .ok state) :
    ∃ path, get manifest "state_package_path" = .str path ∧
      ∀ other, EmbeddedManifest members path other ↔ other = state := by
  obtain ⟨path, hpath, h⟩ := bind_eq_ok.1 h
  exact ⟨path, str?_eq_some.1 (orFail_eq_ok.1 hpath), fun other => embeddedManifest_iff h⟩

theorem resumePaths_eq_ok (h : resumePaths members manifest = .ok paths) :
    strings? (get manifest "resume_bundle_paths") = some paths ∧
      ∀ path ∈ paths, ∃ resume, ∀ other, EmbeddedManifest members path other ↔ other = resume := by
  obtain ⟨found, hfound, h⟩ := bind_eq_ok.1 h
  obtain ⟨hverified, h⟩ := check_bind_eq_ok.1 h
  cases h
  refine ⟨orFail_eq_ok.1 hfound, fun path hpath => ?_⟩
  obtain ⟨resume, hresume, -⟩ := bind_eq_ok.1 (forEach_eq_ok.1 hverified path hpath)
  exact ⟨resume, fun other => embeddedManifest_iff hresume⟩

theorem genericExport_eq_ok {exported : Bool} (h : genericExport members manifest = .ok exported) :
    (exported = true → ∃ root, CompleteExport members root) ∧
      (exported = false ↔ get manifest "generic_conversation_prefix" = .null) := by
  unfold genericExport at h
  cases hroot : get manifest "generic_conversation_prefix" with
  | null =>
    rw [hroot] at h
    cases h
    exact ⟨nofun, iff_of_true rfl rfl⟩
  | str root =>
    rw [hroot] at h
    obtain ⟨hcomplete, h⟩ := check_bind_eq_ok.1 h
    cases h
    exact ⟨fun _ => ⟨root, hcomplete⟩, iff_of_false nofun nofun⟩
  | _ => simp [hroot] at h

omit [EscapeLibrary] in
theorem object?_eq_some {v : Value Str} {entries : List (Str × Value Str)} :
    object? v = some entries ↔ v = .obj entries := by
  cases v <;> simp [object?]

theorem recoveryCounts_eq_ok {counts : List (Str × Value Str) × List (Str × Value Str)}
    (h : recoveryCounts manifest state = .ok counts) :
    get state "record_counts" = .obj counts.1 ∧
      get state "omitted_secret_counts" = .obj counts.2 := by
  obtain ⟨recordCounts, hrecord, h⟩ := bind_eq_ok.1 h
  obtain ⟨omitted, homitted, h⟩ := bind_eq_ok.1 h
  obtain ⟨-, h⟩ := check_bind_eq_ok.1 h
  obtain ⟨-, h⟩ := check_bind_eq_ok.1 h
  cases h
  exact ⟨object?_eq_some.1 (orFail_eq_ok.1 hrecord), object?_eq_some.1 (orFail_eq_ok.1 homitted)⟩

/-- The names of the members of a bundle that is opened are distinct. -/
theorem openBundle_holds (h : openBundle bundle = .ok members) :
    Holds bundle members ∧ (members.map Prod.fst).Nodup := by
  obtain ⟨infos, seen, hinfos, hvalid, hread⟩ := openBundle_eq_ok.1 h
  refine ⟨⟨infos, hinfos, hread⟩, ?_⟩
  rw [readAll_names hread]
  exact validateInfos_nodup hvalid

theorem Passes.describes (h : Passes bundle reread members manifest state paths) :
    Describes bundle members manifest state paths := by
  obtain ⟨hholds, hnodup⟩ := openBundle_holds h.opened
  obtain ⟨path, hpath, hstate⟩ := stateManifest_eq_ok h.package
  exact ⟨hholds, (readManifest_listed hnodup h.declared).1, ⟨path, hpath, (hstate state).2 rfl⟩,
    (resumePaths_eq_ok h.resumed).1⟩

/-- The inventories are checked whatever else is. -/
theorem Passes.inventoried (h : Passes bundle reread members manifest state paths) :
    Inventoried members manifest := by
  obtain ⟨-, hnodup⟩ := openBundle_holds h.opened
  obtain ⟨entries, hentries⟩ := h.checksums
  obtain ⟨checksums, raws, hdocument, hraws, hchecksums⟩ := inventory_listed hnodup hentries
  obtain ⟨-, declared, hdeclared, hmanifest⟩ := readManifest_listed hnodup h.declared
  refine ⟨checksums, raws, declared, hdocument, hraws, hdeclared, fun m hm hne => ?_⟩
  refine ⟨hchecksums m hm ?_, hmanifest m hm hne⟩
  rintro heq
  exact hne (heq ▸ List.mem_cons_self)

theorem soundFor_iff (h : Passes bundle reread members manifest state paths)
    (hreports : Reports manifest state members paths summary) :
    SoundFor members manifest state paths summary ↔ Tied members manifest state paths := by
  obtain ⟨-, hresume⟩ := resumePaths_eq_ok h.resumed
  obtain ⟨hcomplete, hnull⟩ := genericExport_eq_ok hreports.exported
  obtain ⟨hrecords, homitted⟩ := recoveryCounts_eq_ok hreports.counts
  constructor
  · intro hsound
    refine ⟨?_, ?_, hsound.distinct, ?_, ?_⟩
    · rw [← hreports.workspaceId]
      exact hsound.workspaceId
    · rw [← hreports.stateRevision]
      exact hsound.stateRevision
    · intro path hpath other hother
      obtain ⟨resume, hembedded, hbelongs⟩ := hsound.belongs path hpath
      obtain ⟨only, honly⟩ := hresume path hpath
      rwa [(honly other).1 hother, ← (honly resume).1 hembedded]
    · intro hprefix root hroot
      have hflag := hnull.2 hprefix
      rw [hsound.exported.2 ⟨root, hroot⟩] at hflag
      cases hflag
  · intro htied
    refine ⟨h.inventoried, ?_, ?_, hrecords, homitted, htied.distinct, hreports.counted, ?_, ?_⟩
    · rw [hreports.workspaceId]
      exact htied.workspaceId
    · rw [hreports.stateRevision]
      exact htied.stateRevision
    · intro path hpath
      obtain ⟨only, honly⟩ := hresume path hpath
      exact ⟨only, (honly only).2 rfl, htied.belongs path hpath only ((honly only).2 rfl)⟩
    · refine ⟨hcomplete, ?_⟩
      rintro ⟨root, hroot⟩
      by_contra hflag
      exact htied.exported (hnull.1 (Bool.eq_false_of_not_eq_true hflag)) root hroot

end

/-- Nothing unexpected escapes from the inspection, and what it leaves open holds if it passes. -/
structure WellBehaved (bundle : ByteArray) (reread : Option ByteArray) : Prop where
  handled : Handled bundle
  tied : ∀ members manifest state paths, Passes bundle reread members manifest state paths →
    Tied members manifest state paths

/-- The inspection fails cleanly and returns sound summaries exactly when the bundle is well
behaved. -/
theorem inspect_sound_iff (bundle : ByteArray) (reread : Option ByteArray) :
    (RaisesOnly Expected (inspectBundle bundle reread) ∧
      ∀ summary, inspectBundle bundle reread = .ok summary → Sound bundle summary) ↔
      WellBehaved bundle reread := by
  rw [expected_inspectBundle]
  constructor
  · rintro ⟨hhandled, hsound⟩
    refine ⟨hhandled, fun members manifest state paths hpasses => ?_⟩
    obtain ⟨summary, hsummary⟩ := exists_summary hpasses
    obtain ⟨members', manifest', state', paths', hdescribes, hfor⟩ := hsound summary hsummary
    obtain ⟨members'', manifest'', state'', paths'', hpasses', hreports⟩ := passes_of_summary hsummary
    obtain ⟨rfl, rfl, rfl⟩ := hpasses.describes.unique hpasses'.describes
    cases Except.ok.inj (hpasses.package.symm.trans hpasses'.package)
    obtain ⟨rfl, rfl, rfl⟩ := hpasses.describes.unique hdescribes
    obtain ⟨path, hpath, honly⟩ := stateManifest_eq_ok hpasses.package
    obtain ⟨path', hpath', hstate⟩ := hdescribes.package
    cases hpath.symm.trans hpath'
    cases (honly state').1 hstate
    exact (soundFor_iff hpasses hreports).1 hfor
  · rintro ⟨hhandled, htied⟩
    refine ⟨hhandled, fun summary hsummary => ?_⟩
    obtain ⟨members, manifest, state, paths, hpasses, hreports⟩ := passes_of_summary hsummary
    exact ⟨members, manifest, state, paths, hpasses.describes,
      (soundFor_iff hpasses hreports).2 (htied members manifest state paths hpasses)⟩

end

/-- The archive with one empty member, of the name ".". -/
def dotArchive : ByteArray := ⟨#[
  80, 75, 3, 4, 20, 0, 0, 0, 0, 0, 0, 0, 33, 0, 0, 0, 0, 0, 0, 0, 0, 0, 0, 0, 0, 0, 1, 0, 0, 0, 46,
  80, 75, 1, 2, 20, 3, 20, 0, 0, 0, 0, 0, 0, 0, 33, 0, 0, 0, 0, 0, 0, 0, 0, 0, 0, 0, 0, 0, 1, 0, 0, 0,
  0, 0, 0, 0, 0, 0, 0, 0, 0, 0, 128, 1, 0, 0, 0, 0, 46,
  80, 75, 5, 6, 0, 0, 0, 0, 1, 0, 1, 0, 47, 0, 0, 0, 31, 0, 0, 0, 0, 0]⟩

/-- A library as the archive sees it. -/
@[reducible] def dotLibrary : EscapeLibrary where
  casefold := id
  sha256 _ := 0
  infolist archive :=
    if archive = dotArchive then .ok [⟨key ".", 0o600 <<< 16, 0, 0⟩] else .error .badZipFile
  read _ _ := .ok ByteArray.empty
  floatValue _ := .finite 0
  decodeLevels := 1000

section

attribute [local instance] dotLibrary

/-- The path "." has no first part, for which the inspector asks. -/
theorem inspect_dotArchive :
    ¬ (RaisesOnly Expected (inspectBundle dotArchive (some dotArchive)) ∧
      ∀ summary, inspectBundle dotArchive (some dotArchive) = .ok summary →
        Sound dotArchive summary) := by
  rintro ⟨hclean, -⟩
  have hraises : inspectBundle dotArchive (some dotArchive) = .error indexError := rfl
  rcases hclean _ hraises with h | h <;> cases h

end

end DollState.Escape







