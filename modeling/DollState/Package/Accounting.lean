import DollState.Library.Assoc
import DollState.Library.Raises
import DollState.Package.Inventory

/-!
# Member accounting

An exporter counts its members as it builds them, a loader by their paths. `passes_export_iff` says for
which authoritative files the two agree: those none of which is named like the inventory, and of which
only empty ones are named like the manifest.
-/

namespace DollState.Package

open StateLib JsonText
open Import (key)
open Escape (slash get isDrivePath pathParts asPosix)

/-! ## Paths -/

/-- The last component of the path is the name. -/
def Named (name : Text) (path : Text) : Prop := path = name ∨ '/' :: name <:+ path

/-- What the loader asks of the path of a member under the root of the package. -/
structure MemberPath (path : Text) : Prop where
  printable : ∀ c ∈ path, 32 ≤ c.toNat ∧ c ≠ '\\'
  parts : ∀ part ∈ path.splitOn '/', part ≠ [] ∧ part ≠ ['.'] ∧ part ≠ ['.', '.']

theorem splitOn_ofText (text : Text) :
    (Str.ofText text).splitOn slash = (text.splitOn '/').map Str.ofText := by
  induction text with
  | nil => rfl
  | cons c text ih =>
    have hcons : Str.ofText (c :: text) = .scalar c :: Str.ofText text := rfl
    rw [hcons, List.splitOn_cons_eq_if_modifyHead, List.splitOn_cons_eq_if_modifyHead, ih]
    by_cases hc : c = '/'
    · rw [if_pos (by rw [hc]; rfl), if_pos (by rw [hc]; rfl)]
      rfl
    · rw [if_neg (by simpa [slash] using hc), if_neg (by simpa using hc)]
      cases text.splitOn '/' <;> rfl

theorem splitOn_rooted (path : Text) :
    (packageRoot ++ '/' :: path).splitOn '/' = packageRoot :: path.splitOn '/' :=
  List.splitOn_append_cons_self_of_not_mem (by decide) path

/-- A separator and a name without one at the end of a path. -/
theorem suffix_append_cons_iff {α : Type} {sep : α} {name before path : List α} (h : sep ∉ name) :
    sep :: name <:+ before ++ sep :: path ↔ path = name ∨ sep :: name <:+ path := by
  constructor
  · intro hsuffix
    rcases List.suffix_or_suffix_of_suffix hsuffix (List.suffix_append before (sep :: path)) with
      hin | hin
    · rcases List.suffix_cons_iff.1 hin with heq | hin
      · exact .inl (List.cons.inj heq).2.symm
      · exact .inr hin
    · rcases List.suffix_cons_iff.1 hin with heq | hin
      · exact .inl (List.cons.inj heq).2
      · exact absurd (hin.subset List.mem_cons_self) h
  · rintro (rfl | hin)
    · exact List.suffix_append _ _
    · exact (hin.trans (List.suffix_cons _ _)).trans (List.suffix_append _ _)

theorem ofText_suffix_iff {s t : Text} : Str.ofText s <:+ Str.ofText t ↔ s <:+ t := by
  constructor
  · rintro ⟨before, h⟩
    obtain ⟨first, last, rfl, -, hlast⟩ := List.map_eq_append_iff.1 h.symm
    exact ⟨first, congrArg (first ++ ·) (ofText_injective hlast).symm⟩
  · rintro ⟨before, rfl⟩
    exact ⟨Str.ofText before, List.map_append.symm⟩

theorem suffix_rooted_iff (name : String) {path : Text} (h : '/' ∉ name.toList) :
    Str.ofText ('/' :: name.toList) <:+ rooted path ↔ Named name.toList path := by
  rw [rooted, ofText_suffix_iff, suffix_append_cons_iff h, Named]

/-- The path of an artifact in its components. -/
theorem artifactPath_eq (path : Text) : artifactPath path = "files/authoritative".toList ++ '/' :: path := by
  have hbefore : "files/authoritative/".toList = "files/authoritative".toList ++ ['/'] := by simp
  calc artifactPath path = "files/authoritative".toList ++ ['/'] ++ path := congrArg (· ++ path) hbefore
    _ = "files/authoritative".toList ++ '/' :: path := (List.append_cons ..).symm

theorem named_artifactPath (name : String) {path : Text} (h : '/' ∉ name.toList) :
    Named name.toList (artifactPath path) ↔ Named name.toList path := by
  have hne : artifactPath path ≠ name.toList := fun heq =>
    h (heq ▸ by rw [artifactPath_eq]; exact List.mem_append_right _ List.mem_cons_self)
  rw [Named, or_iff_right hne, artifactPath_eq, suffix_append_cons_iff h, Named]

theorem rooted_artifactPath (path : Text) :
    rooted (artifactPath path) = artifactPrefix ++ Str.ofText path := by
  have hofText : ∀ s t : Text, Str.ofText (s ++ t) = Str.ofText s ++ Str.ofText t :=
    fun s t => List.map_append
  have hcons : '/' :: artifactPath path = ('/' :: "files/authoritative/".toList) ++ path :=
    List.cons_append.symm
  rw [artifactPrefix, rooted, rooted, hcons, ← List.append_assoc, hofText]

theorem rooted_injective : Function.Injective rooted := fun _ _ h =>
  (List.cons.inj (List.append_cancel_left (ofText_injective h))).2

/-- The path of a member is accepted, and as it is. -/
theorem validateMemberName_rooted {path : Text} (h : MemberPath path) :
    validateMemberName (rooted path) = .ok (rooted path) := by
  have hsplit : (rooted path).splitOn slash =
      Str.ofText packageRoot :: (path.splitOn '/').map Str.ofText := by
    rw [rooted, splitOn_ofText, splitOn_rooted, List.map_cons]
  have hchars : ∀ c ∈ packageRoot ++ '/' :: path, 32 ≤ c.toNat ∧ c ≠ '\\' := by
    have hroot : ∀ c ∈ packageRoot ++ ['/'], 32 ≤ c.toNat ∧ c ≠ '\\' :=
      List.all_iff_forall_prop.1 rfl
    rw [List.append_cons]
    exact List.forall_mem_append.2 ⟨hroot, h.printable⟩
  have hscalar : ∀ c ∈ rooted path, ∃ d ∈ packageRoot ++ '/' :: path, c = .scalar d := by
    intro c hc
    obtain ⟨d, hd, rfl⟩ := List.mem_map.1 hc
    exact ⟨d, hd, rfl⟩
  have hparts : ∀ part ∈ (rooted path).splitOn slash, part ≠ [] ∧ part ≠ key "." ∧ part ≠ key ".." := by
    rw [hsplit, List.forall_mem_cons]
    refine ⟨by decide, List.forall_mem_map.2 fun part hpart => ?_⟩
    obtain ⟨hne, hdot, hdots⟩ := h.parts part hpart
    exact ⟨fun heq => hne (List.map_eq_nil_iff.1 heq), fun heq => hdot (ofText_injective heq),
      fun heq => hdots (ofText_injective heq)⟩
  have hpathParts : pathParts (rooted path) = (rooted path).splitOn slash :=
    List.filter_eq_self.2 fun part hpart =>
      decide_eq_true ⟨(hparts part hpart).1, (hparts part hpart).2.1⟩
  have hposix : asPosix (rooted path) = rooted path := by
    rw [asPosix, hpathParts, if_neg (List.splitOn_ne_nil _ _), List.intercalate_splitOn]
  have hhead : rooted path = .scalar 'd' :: .scalar 'o' :: (rooted path).tail.tail := rfl
  have hdrive : isDrivePath (rooted path) = false := by
    rw [hhead]
    rfl
  rw [validateMemberName, ensure_of, ok_bind, ensure_of, ok_bind, ensure_of, ok_bind, ensure_of hparts,
    ok_bind, ensure_of, ok_bind, hposix]
  · rfl
  · rw [hpathParts, hsplit, List.head?_cons]
  · exact ⟨by rw [hhead]; simp [slash], hdrive⟩
  · intro c hc
    obtain ⟨d, hd, rfl⟩ := hscalar c hc
    exact (hchars d hd).1
  · refine ⟨by rw [hhead]; exact List.cons_ne_nil _ _, fun hmem => ?_, fun hmem => ?_⟩
    · obtain ⟨d, hd, heq⟩ := hscalar _ hmem
      exact (hchars d hd).2 (CodePoint.scalar.inj heq).symm
    · obtain ⟨d, hd, heq⟩ := hscalar _ hmem
      have hcode := (hchars d hd).1
      rw [← CodePoint.scalar.inj heq] at hcode
      exact absurd hcode (by decide)

section

variable [PackageLibrary]

theorem memberPath_artifactPath {path : Text} (h : validateManagedPath path = .ok path) :
    MemberPath (artifactPath path) := by
  rw [validateManagedPath] at h
  obtain ⟨-, h⟩ := check_bind_eq_ok.1 h
  obtain ⟨hchars, h⟩ := check_bind_eq_ok.1 h
  obtain ⟨-, h⟩ := check_bind_eq_ok.1 h
  obtain ⟨-, h⟩ := check_bind_eq_ok.1 h
  obtain ⟨hparts, h⟩ := check_bind_eq_ok.1 h
  obtain ⟨heach, -⟩ := check_bind_eq_ok.1 h
  have hchars := ensure_eq_ok.1 hchars
  have hbefore : ∀ c ∈ "files/authoritative".toList, 32 ≤ c.toNat ∧ c ≠ '\\' :=
    List.all_iff_forall_prop.1 rfl
  refine ⟨fun c hc => ?_, fun part hpart => ?_⟩
  · rw [artifactPath_eq] at hc
    rcases List.mem_append.1 hc with hc | hc
    · exact hbefore c hc
    -- a character of the path is in one of its components or between two of them
    rcases List.mem_cons.1 hc with rfl | hc
    · decide
    refine ⟨?_, fun heq => hchars.2 (heq ▸ hc)⟩
    by_cases hslash : c = '/'
    · rw [hslash]
      decide
    · have hjoined : c ∈ ['/'].intercalate (path.splitOn '/') := by rwa [List.intercalate_splitOn]
      obtain ⟨part, hpart, hmem⟩ := (mem_intercalate_iff.1 hjoined).resolve_right fun h => hslash h.2
      have hcomponent := forEach_eq_ok.1 heach part hpart
      rw [validateComponent] at hcomponent
      obtain ⟨-, hcomponent⟩ := check_bind_eq_ok.1 hcomponent
      obtain ⟨-, hcomponent⟩ := check_bind_eq_ok.1 hcomponent
      exact ensure_eq_ok.1 (check_bind_eq_ok.1 hcomponent).1 c hmem
  · rw [artifactPath_eq, List.splitOn_append_cons_self] at hpart
    rcases List.mem_append.1 hpart with hpart | hpart
    · exact (by decide : ∀ part ∈ "files/authoritative".toList.splitOn '/',
        part ≠ [] ∧ part ≠ ['.'] ∧ part ≠ ['.', '.']) part hpart
    · exact ensure_eq_ok.1 hparts part hpart

end

theorem ne_nil_of_accepted [PackageLibrary] {path : Text} (h : validateManagedPath path = .ok path) :
    path ≠ [] := by
  rw [validateManagedPath] at h
  exact (ensure_eq_ok.1 (check_bind_eq_ok.1 h).1).1

theorem memberPath_of_all {path : Text}
    (h : path.all (fun c => decide (32 ≤ c.toNat ∧ c ≠ '\\')) = true)
    (hparts : ∀ part ∈ path.splitOn '/', part ≠ [] ∧ part ≠ ['.'] ∧ part ≠ ['.', '.']) :
    MemberPath path :=
  ⟨List.all_iff_forall_prop.1 h, hparts⟩

/-! ## Documents -/

/-- The value that is loaded from the text of a value. -/
def reloaded (value : TextValue) : Value Str := (value.canonical some).ofTexts

/-- A dictionary with distinct keys is loaded with its keys and values. -/
theorem exists_reloaded (entries : List (Text × TextValue)) (h : (entries.map Prod.fst).Nodup) :
    ∃ loaded, reloaded (.obj entries) = .obj loaded ∧
      ∀ e ∈ entries, loaded.lookup (Str.ofText e.1) = some (reloaded e.2) := by
  obtain ⟨others, hothers, hperm⟩ := @canonical_obj_perm some entries
  refine ⟨others.map fun e => (Str.ofText e.1, e.2.ofTexts), ?_, fun e he => ?_⟩
  · rw [reloaded, hothers, Value.ofTexts, ofTextsEntries_eq_map]
  · have hkeys : (others.map Prod.fst).Nodup := (hperm.map Prod.fst).nodup_iff.2 (by rwa [List.map_map])
    have hloaded : ((others.map fun e => (Str.ofText e.1, e.2.ofTexts)).map Prod.fst).Nodup := by
      have heq : (others.map fun e => (Str.ofText e.1, e.2.ofTexts)).map Prod.fst =
          (others.map Prod.fst).map Str.ofText := by
        rw [List.map_map, List.map_map]
        rfl
      rw [heq]
      exact hkeys.map fun _ _ => ofText_injective
    have hmem := hperm.mem_iff.2 (List.mem_map_of_mem he)
    have hentry : (Str.ofText e.1, reloaded e.2) ∈ others.map fun e => (Str.ofText e.1, e.2.ofTexts) :=
      List.mem_map.2 ⟨_, hmem, rfl⟩
    exact lookup_of_nodup hloaded hentry

theorem get_of_lookup {loaded : List (Str × Value Str)} {name : String} {v : Value Str}
    (h : loaded.lookup (key name) = some v) : get loaded name = v := by
  rw [Escape.get, h, Option.getD_some]

section

variable [PackageLibrary]

theorem loadJsonBytes_of_jsonBytes {value : Payload} {bytes : ByteArray} (h : jsonBytes value = .ok bytes)
    (hdepth : depth value.value ≤ 3) (name : String) :
    loadJsonBytes bytes name = .ok (reloaded value.value) := by
  have hstop : Stop ['\n'] := by
    intro c hc
    cases hc
    decide
  have hdecoded : depth (value.value.canonical some) ≤ PackageLibrary.decodeLevels := by
    rw [depth_canonical]
    exact hdepth.trans PackageLibrary.three_le_decodeLevels
  rw [loadJsonBytes, (jsonBytes_eq_ok_iff.1 h).2, Import.decodeUtf8_encodeUtf8]
  show loadJsonText _ _ = _
  rw [loadJsonText, Payload.line, encode_eq_write,
    loads_write_append (readable_canonical value) _ hstop rfl, if_pos hdecoded]
  rfl

/-! ## The entries of the checksums -/

/-- The entry that is loaded for a member. -/
def entryOf (member : Text × ByteArray) : Str × ChecksumEntry :=
  (rooted member.1, ⟨Str.ofText (hexdigest member.2), member.2.size⟩)

theorem isDigest_hexdigest (content : ByteArray) : isDigest (Str.ofText (hexdigest content)) = true := by
  have hdigits : ∀ n < 16, (hexDigit n).isDigit || ('a' ≤ hexDigit n && hexDigit n ≤ 'f') := by decide
  have hlength : (Str.ofText (hexdigest content)).length = 64 :=
    (List.length_map _).trans (length_hexDigits 64 _)
  rw [isDigest, Bool.and_eq_true, decide_eq_true_eq]
  refine ⟨hlength, List.all_eq_true.2 fun c hc => ?_⟩
  obtain ⟨d, hd, rfl⟩ := List.mem_map.1 hc
  obtain ⟨n, hn, rfl⟩ := isHexDigit_of_mem_hexDigits hd
  exact hdigits n hn

/-- The entry of a member is refused if its path ends like that of the inventory, and only then. -/
theorem addEntry_eq_ok_iff {member : Text × ByteArray} (hpath : MemberPath member.1)
    {result r : List (Str × ChecksumEntry)} (hfresh : rooted member.1 ∉ result.map Prod.fst) :
    addEntry result (reloaded (checksumValue member)) = .ok r ↔
      ¬ Named "checksums.json".toList member.1 ∧ r = result ++ [entryOf member] := by
  have hkeys : (["path", "sha256", "size_bytes"].map String.toList).Nodup := by decide
  obtain ⟨loaded, hloaded, hget⟩ := exists_reloaded [("path".toList,
    .str (packageRoot ++ '/' :: member.1)), ("sha256".toList, .str (hexdigest member.2)),
    ("size_bytes".toList, .int member.2.size)] hkeys
  have hpathValue : get loaded "path" = .str (rooted member.1) :=
    get_of_lookup (hget _ (List.mem_cons_self))
  have hdigest : get loaded "sha256" = .str (Str.ofText (hexdigest member.2)) :=
    get_of_lookup (hget ("sha256".toList, .str (hexdigest member.2)) (by simp))
  have hsize : get loaded "size_bytes" = .int member.2.size :=
    get_of_lookup (hget ("size_bytes".toList, .int member.2.size) (by simp))
  have hself : key "/checksums.json" <:+ rooted member.1 ↔ Named "checksums.json".toList member.1 :=
    suffix_rooted_iff "checksums.json" (by decide)
  have hdigestText : (text? (.str (Str.ofText (hexdigest member.2)))).filter isDigest =
      some (Str.ofText (hexdigest member.2)) := Option.filter_some_pos (isDigest_hexdigest member.2)
  have hsizeInt : (int? (.int member.2.size)).filter (0 ≤ ·) = some (member.2.size : Int) :=
    Option.filter_some_pos (decide_eq_true (Int.natCast_nonneg _))
  rw [addEntry, checksumValue, hloaded]
  show (Except.ok loaded >>= _) = _ ↔ _
  rw [ok_bind, hpathValue]
  show (Except.ok (rooted member.1) >>= _) = _ ↔ _
  rw [ok_bind, validateMemberName_rooted hpath, ok_bind, check_bind_eq_ok, ensure_eq_ok, hself,
    ensure_of hfresh, ok_bind, hdigest, hdigestText, orFail_some, ok_bind, hsize, hsizeInt, orFail_some,
    ok_bind, pure_eq_ok, eq_comm]
  rfl

theorem foldlM_addEntry_eq_ok_iff {members : Files} (hpaths : ∀ member ∈ members, MemberPath member.1)
    {result r : List (Str × ChecksumEntry)}
    (hfresh : (result.map Prod.fst ++ members.map fun member => rooted member.1).Nodup) :
    (members.map fun member => reloaded (checksumValue member)).foldlM addEntry result = .ok r ↔
      (∀ member ∈ members, ¬ Named "checksums.json".toList member.1) ∧
        r = result ++ members.map entryOf := by
  induction members generalizing result with
  | nil =>
    rw [List.map_nil, List.foldlM_nil, pure_eq_ok, List.map_nil, List.append_nil, eq_comm]
    exact (and_iff_right nofun).symm
  | cons member members ih =>
    rw [List.forall_mem_cons] at hpaths
    rw [List.map_cons] at hfresh
    have hnew : rooted member.1 ∉ result.map Prod.fst := fun hmem =>
      (List.nodup_append'.1 hfresh).2.2 hmem List.mem_cons_self
    have hnext : ((result ++ [entryOf member]).map Prod.fst ++
        members.map fun member => rooted member.1).Nodup := by
      rw [List.map_append, List.append_assoc]
      exact hfresh
    rw [List.map_cons, List.foldlM_cons, bind_eq_ok, List.forall_mem_cons]
    constructor
    · rintro ⟨next, hadd, hrest⟩
      obtain ⟨hself, rfl⟩ := (addEntry_eq_ok_iff hpaths.1 hnew).1 hadd
      obtain ⟨hothers, rfl⟩ := (ih hpaths.2 hnext).1 hrest
      exact ⟨⟨hself, hothers⟩, by rw [List.map_cons, List.append_assoc, List.singleton_append]⟩
    · rintro ⟨⟨hself, hothers⟩, rfl⟩
      refine ⟨_, (addEntry_eq_ok_iff hpaths.1 hnew).2 ⟨hself, rfl⟩, (ih hpaths.2 hnext).2 ⟨hothers, ?_⟩⟩
      rw [List.map_cons, List.append_assoc, List.singleton_append]

/-! ## The members of an export -/

/-- The paths of the members that do not come from authoritative files. -/
def ownPaths (categories : List Category) : List Text :=
  ["records/workspace.json".toList, "records/audit-events.jsonl".toList,
    "records/migration-history.jsonl".toList, "README.txt".toList] ++
  categories.map Category.memberPath ++ ["manifest.json".toList, "checksums.json".toList]

omit [PackageLibrary] in
/-- These paths differ, none is below the files, and all are paths of members. -/
theorem ownPaths_writtenCategories : (ownPaths writtenCategories).Nodup ∧
    ∀ path ∈ ownPaths writtenCategories, ¬ ['f', 'i'] <+: path ∧ MemberPath path := by
  -- numbers are compared faster than texts
  have hcodes : ((ownPaths writtenCategories).map fun path =>
      path.foldl (fun code c => 0x110000 * code + c.toNat) 0).Nodup := by decide
  have hfiles : ∀ path ∈ ownPaths writtenCategories, ¬ ['f', 'i'] <+: path := by decide
  have hprintable : (ownPaths writtenCategories).all (fun path =>
      path.all fun c => decide (32 ≤ c.toNat ∧ c ≠ '\\')) = true := by decide
  have hparts : ∀ path ∈ ownPaths writtenCategories, ∀ part ∈ path.splitOn '/',
      part ≠ [] ∧ part ≠ ['.'] ∧ part ≠ ['.', '.'] := by decide
  exact ⟨hcodes.of_map _, fun path hpath => ⟨hfiles path hpath,
    memberPath_of_all (List.all_eq_true.1 hprintable path hpath) (hparts path hpath)⟩⟩

/-- The paths of the members that count towards the payload, but for the authoritative files. -/
def payloadPaths : List Text :=
  ["records/workspace.json".toList, "records/audit-events.jsonl".toList,
    "records/migration-history.jsonl".toList, "README.txt".toList] ++
  writtenCategories.map Category.memberPath

omit [PackageLibrary] in
theorem not_named_payloadPaths : ∀ path ∈ payloadPaths,
    ¬ Named "checksums.json".toList path ∧ ¬ Named "manifest.json".toList path := by
  unfold Named
  decide

omit [PackageLibrary] in
theorem not_named_manifest : ¬ Named "checksums.json".toList "manifest.json".toList := by
  unfold Named
  decide

/-- All the members of an export. -/
def ExportSource.members (source : ExportSource) (manifestBytes checksumsBytes : ByteArray) : Files :=
  source.inventory manifestBytes ++ [("checksums.json".toList, checksumsBytes)]

theorem ExportSource.members_perm (source : ExportSource) (manifestBytes checksumsBytes : ByteArray) :
    ((source.members manifestBytes checksumsBytes).map Prod.fst).Perm
      (ownPaths (writtenCategories.filter source.includes) ++
        source.artifacts.map fun file => artifactPath file.1) := by
  have hpaths : (source.members manifestBytes checksumsBytes).map Prod.fst =
      ["records/workspace.json".toList, "records/audit-events.jsonl".toList,
        "records/migration-history.jsonl".toList, "README.txt".toList] ++
      (writtenCategories.filter source.includes).map Category.memberPath ++
      (source.artifacts.map fun file => artifactPath file.1) ++
      ["manifest.json".toList, "checksums.json".toList] := by
    simp only [ExportSource.members, ExportSource.inventory, ExportParts.payloadMembers, List.map_append,
      List.map_map, List.append_assoc]
    rfl
  have hswap : ∀ a b c d : List Text, (a ++ b ++ c ++ d).Perm (a ++ b ++ d ++ c) := fun a b c d => by
    rw [List.append_assoc (a ++ b), List.append_assoc (a ++ b)]
    exact List.perm_append_comm.append_left _
  rw [hpaths]
  exact hswap _ _ _ _

theorem ownPaths_subset (source : ExportSource) :
    (ownPaths (writtenCategories.filter source.includes)).Sublist (ownPaths writtenCategories) :=
  (List.Sublist.append_left (List.filter_sublist.map _) _).append_right _

theorem ExportSource.memberPath (source : ExportSource) (manifestBytes checksumsBytes : ByteArray) :
    ∀ member ∈ source.members manifestBytes checksumsBytes, MemberPath member.1 := by
  intro member hmember
  have hpath := (source.members_perm manifestBytes checksumsBytes).mem_iff.1 (List.mem_map_of_mem hmember)
  rcases List.mem_append.1 hpath with hpath | hpath
  · exact (ownPaths_writtenCategories.2 _ ((ownPaths_subset source).subset hpath)).2
  · obtain ⟨file, hfile, heq⟩ := List.mem_map.1 hpath
    exact heq ▸ memberPath_artifactPath (source.accepted file hfile)

theorem ExportSource.nodup_members (source : ExportSource) (manifestBytes checksumsBytes : ByteArray) :
    ((source.members manifestBytes checksumsBytes).map Prod.fst).Nodup := by
  rw [(source.members_perm manifestBytes checksumsBytes).nodup_iff, List.nodup_append']
  refine ⟨(ownPaths_subset source).nodup ownPaths_writtenCategories.1, ?_, fun path hown hartifact => ?_⟩
  · have hpaths : (source.artifacts.map fun file => artifactPath file.1) =
        (source.artifacts.map Prod.fst).map artifactPath := by rw [List.map_map]; rfl
    rw [hpaths]
    exact source.nodup.map fun _ _ => List.append_cancel_left
  · obtain ⟨file, -, rfl⟩ := List.mem_map.1 hartifact
    exact (ownPaths_writtenCategories.2 _ ((ownPaths_subset source).subset hown)).1 ⟨_, rfl⟩

/-! ## The inventory -/

/-- The members as the loader has them. -/
def named (members : Files) : Members := members.map fun member => (rooted member.1, member.2)

omit [PackageLibrary] in
theorem lookup_named {members : Files} (hnodup : (members.map Prod.fst).Nodup)
    {member : Text × ByteArray} (h : member ∈ members) :
    (named members).lookup (rooted member.1) = some member.2 := by
  have hkeys : ((named members).map Prod.fst).Nodup := by
    have heq : (named members).map Prod.fst = (members.map Prod.fst).map rooted := by
      rw [named, List.map_map, List.map_map]
      rfl
    rw [heq]
    exact hnodup.map rooted_injective
  exact lookup_of_nodup hkeys (List.mem_map.2 ⟨member, h, rfl⟩ :
    (rooted member.1, member.2) ∈ named members)

theorem checkMember_entryOf {members : Files} (hnodup : (members.map Prod.fst).Nodup)
    {member : Text × ByteArray} (h : member ∈ members) :
    checkMember (named members) (entryOf member) = .ok () := by
  have hcontent : requiredMember (named members) (rooted member.1) = .ok member.2 :=
    orFail_eq_ok.2 (lookup_named hnodup h)
  have hsize : (member.2.size : Int) = (entryOf member).2.sizeBytes := by rw [entryOf]
  have hdigest : Str.ofText (hexdigest member.2) = (entryOf member).2.sha256 := by rw [entryOf]
  exact bind_eq_ok.2 ⟨member.2, hcontent, check_bind_eq_ok.2
    ⟨ensure_eq_ok.2 hsize, ensure_eq_ok.2 hdigest⟩⟩

theorem validatePackageFormatVersion_manifest (source : ExportSource) {loaded : List (Str × Value Str)}
    (h : ∀ e ∈ source.manifest, loaded.lookup (Str.ofText e.1) = some (reloaded e.2)) :
    validatePackageFormatVersion loaded = .ok writtenCategories := by
  have hversion : get loaded "package_format_version" = .int packageFormatVersion :=
    get_of_lookup (h ("package_format_version".toList, .int packageFormatVersion)
      (List.mem_append_right _ List.mem_cons_self))
  have hkeys : ∀ name ∈ headerKeys ++ countKeys, key name ∈ loaded.map Prod.fst := by
    intro name hname
    have hmem : name.toList ∈ source.manifest.map Prod.fst := by
      rw [ExportParts.manifest, List.map_append, List.map_map]
      rcases List.mem_append.1 hname with hname | hname
      · exact List.mem_append_left _ (List.mem_map.2 ⟨name, hname, rfl⟩)
      · exact List.mem_append_right _ (List.mem_map_of_mem (f := String.toList) hname)
    obtain ⟨e, he, heq⟩ := List.mem_map.1 hmem
    have hlookup := h e he
    rw [heq] at hlookup
    exact isSome_lookup_iff.1 (hlookup ▸ rfl)
  have hint : (int? (.int packageFormatVersion)).filter (0 ≤ ·) = some packageFormatVersion := rfl
  have hregistry : packageRecordRegistry packageFormatVersion = .ok writtenCategories := by
    rw [packageRecordRegistry, packageFormatVersion, if_neg (by decide), if_pos rfl]
    rfl
  rw [validatePackageFormatVersion, requiredPositiveInt, requiredNonnegativeInt, hversion, hint,
    orFail_some, ok_bind, ensure_of (by decide), ok_bind, pure_bind, hregistry, ok_bind, ensure_of hkeys]
  rfl

/-- Every member has a place in the registry. -/
theorem validateMemberInventoryPaths_inventory (source : ExportSource) (manifestBytes : ByteArray)
    (paths : List Str)
    (h : ∀ path, path ∈ paths ↔ path ∈ ((source.inventory manifestBytes).map Prod.fst).map rooted) :
    validateMemberInventoryPaths paths writtenCategories = .ok () := by
  have hincludes : ∀ category ∈ writtenCategories, category.requiredMember = true →
      source.includes category = true := by
    have hrequired : ∀ category ∈ writtenCategories, category.requiredMember = true →
        category ∉ portabilityRecordCategories := by decide
    intro category hcategory hmember
    rw [ExportParts.includes, decide_eq_true (hrequired category hcategory hmember), Bool.true_or]
  have hmem : ∀ path, path ∈ (source.inventory manifestBytes).map Prod.fst ↔
      path ∈ fixedMemberPaths ∨
        (∃ category ∈ writtenCategories, source.includes category = true ∧ category.memberPath = path) ∨
        ∃ file ∈ source.artifacts, artifactPath file.1 = path := by
    intro path
    have hfixed : path ∈ fixedMemberPaths ↔ path = "manifest.json".toList ∨
        path ∈ ["records/workspace.json".toList, "records/audit-events.jsonl".toList,
          "records/migration-history.jsonl".toList, "README.txt".toList] := List.mem_cons
    simp only [ExportSource.inventory, ExportParts.payloadMembers, List.map_append, List.map_map,
      List.mem_append, List.map_cons, List.map_nil, List.mem_map, List.mem_filter, Function.comp_apply,
      and_assoc, List.mem_singleton]
    rw [hfixed, or_comm, or_assoc, or_assoc]
  have hrequired : ∀ path ∈ requiredPaths writtenCategories, rooted path ∈ paths := by
    intro path hpath
    refine (h _).2 (List.mem_map_of_mem ((hmem path).2 ?_))
    rcases List.mem_append.1 hpath with hpath | hpath
    · exact .inl hpath
    · obtain ⟨category, hcategory, rfl⟩ := List.mem_map.1 hpath
      obtain ⟨hcategory, hmember⟩ := List.mem_filter.1 hcategory
      exact .inr (.inl ⟨category, hcategory, hincludes category hcategory hmember, rfl⟩)
  rw [validateMemberInventoryPaths, ensure_of hrequired, ok_bind]
  refine ensure_of (fun name hname => ?_) _
  obtain ⟨path, hpath, rfl⟩ := List.mem_map.1 ((h name).1 hname)
  rcases (hmem path).1 hpath with hpath | ⟨category, hcategory, -, rfl⟩ | ⟨file, hfile, rfl⟩
  · exact .inl (List.mem_map_of_mem (List.mem_append_left _ hpath))
  · by_cases hneeded : category.requiredMember = true
    · exact .inl (List.mem_map_of_mem (List.mem_append_right _
        (List.mem_map_of_mem (List.mem_filter.2 ⟨hcategory, hneeded⟩))))
    · exact .inr (.inl (List.mem_map_of_mem
        (List.mem_map_of_mem (List.mem_filter.2 ⟨hcategory, by simpa using hneeded⟩))))
  · have hne : file.1 ≠ [] := ne_nil_of_accepted (source.accepted file hfile)
    rw [rooted_artifactPath]
    exact .inr (.inr ⟨List.prefix_append _ _, fun heq =>
      hne (List.map_eq_nil_iff.1 (List.append_right_eq_self.1 heq))⟩)

omit [PackageLibrary] in
theorem reloaded_arr (values : List TextValue) : reloaded (.arr values) = .arr (values.map reloaded) := by
  rw [reloaded, Value.canonical, Value.ofTexts, canonicals_eq_map, ofTextsAll_eq_map, List.map_map]
  rfl

/-- The members in the order of their paths. -/
def sortedByPath (members : Files) : Files := members.insertionSort fun a b => a.1 ≤ b.1

/-- The checksums of members with distinct paths are read if and only if none is named like them. -/
theorem validateChecksums_eq_ok_iff {members : Files} (hpaths : ∀ member ∈ members, MemberPath member.1)
    (hnodup : (members.map Prod.fst).Nodup) {r : List (Str × ChecksumEntry)} :
    validateChecksums (reloaded (.obj (checksums members))) = .ok r ↔
      (∀ member ∈ members, ¬ Named "checksums.json".toList member.1) ∧
        r = (sortedByPath members).map entryOf := by
  have hkeys : (["algorithm", "entries"].map String.toList).Nodup := by decide
  have hperm : (sortedByPath members).Perm members := List.perm_insertionSort _ _
  obtain ⟨loaded, hloaded, hget⟩ := exists_reloaded (checksums members) hkeys
  have halgorithm : get loaded "algorithm" = .str (key checksumAlgorithm) :=
    get_of_lookup (hget _ List.mem_cons_self)
  have hentries : get loaded "entries" =
      .arr ((sortedByPath members).map fun member => reloaded (checksumValue member)) := by
    refine get_of_lookup ((hget _ (List.mem_cons_of_mem _ List.mem_cons_self)).trans ?_)
    rw [reloaded_arr, List.map_map]
    rfl
  have hfresh : (([] : List (Str × ChecksumEntry)).map Prod.fst ++
      (sortedByPath members).map fun member => rooted member.1).Nodup := by
    have hsorted := ((hperm.map Prod.fst).nodup_iff.2 hnodup).map rooted_injective
    rwa [List.map_map] at hsorted
  rw [validateChecksums, hloaded]
  show (Except.ok loaded >>= _) = _ ↔ _
  rw [ok_bind, halgorithm, ensure_of rfl, ok_bind, hentries]
  show (Except.ok _ >>= _) = _ ↔ _
  rw [ok_bind, foldlM_addEntry_eq_ok_iff (fun member hmember => hpaths member (hperm.subset hmember)) hfresh,
    List.nil_append]
  exact and_congr_left' ⟨fun h member hmember => h member (hperm.mem_iff.2 hmember),
    fun h member hmember => h member (hperm.subset hmember)⟩

omit [PackageLibrary] in
theorem ExportParts.depth_manifest (parts : ExportParts) (h : ∀ name ∈ headerKeys, depth (parts.header name) ≤ 1) :
    depth (Value.obj parts.manifest) ≤ 2 := by
  refine depth_obj_le_iff.2 ⟨by decide, fun e he => ?_⟩
  rcases List.mem_append.1 he with he | he
  · obtain ⟨name, hname, rfl⟩ := List.mem_map.1 he
    exact Nat.add_le_add_left (h name hname) 1
  · simp only [List.mem_cons, List.not_mem_nil, or_false] at he
    rcases he with rfl | rfl | rfl <;> exact Nat.le_succ 1

theorem depth_checksums (members : Files) : depth (Value.obj (checksums members)) ≤ 3 := by
  refine depth_obj_le_iff.2 ⟨by decide, fun e he => ?_⟩
  simp only [checksums, List.mem_cons, List.not_mem_nil, or_false] at he
  rcases he with rfl | rfl
  · exact (by decide : 1 + depth (Value.str checksumAlgorithm.toList) ≤ 3)
  · refine Nat.add_le_add_left ((depth_arr_le_iff (n := 2)).2 ⟨by decide, fun v hv => ?_⟩) 1
    obtain ⟨member, -, rfl⟩ := List.mem_map.1 hv
    exact Nat.le_refl 2

/-- The members of an export are those of its checksums. -/
theorem compareInventory_entries (source : ExportSource) {manifestBytes : ByteArray}
    (hmanifest : jsonBytes source.manifestPayload = .ok manifestBytes) (checksumsBytes : ByteArray)
    {loaded : List (Str × Value Str)} (hloaded : reloaded (.obj source.manifest) = .obj loaded)
    (hget : ∀ e ∈ source.manifest, loaded.lookup (Str.ofText e.1) = some (reloaded e.2)) :
    compareInventory (named (source.members manifestBytes checksumsBytes))
      ((sortedByPath (source.inventory manifestBytes)).map entryOf) = .ok loaded := by
  have hnodup := source.nodup_members manifestBytes checksumsBytes
  have hsub : source.inventory manifestBytes ⊆ source.members manifestBytes checksumsBytes :=
    List.subset_append_left _ _
  have hperm : (sortedByPath (source.inventory manifestBytes)).Perm (source.inventory manifestBytes) :=
    List.perm_insertionSort _ _
  have hbytes : requiredMember (named (source.members manifestBytes checksumsBytes)) manifestPath =
      .ok manifestBytes :=
    orFail_eq_ok.2 (lookup_named hnodup (hsub (List.mem_append_right _
      (List.mem_singleton_self ("manifest.json".toList, manifestBytes)))))
  have hvalue := loadJsonBytes_of_jsonBytes hmanifest
    ((source.depth_manifest source.header_depth).trans (by decide)) "manifest"
  have hentries : ((sortedByPath (source.inventory manifestBytes)).map entryOf).map Prod.fst =
      ((sortedByPath (source.inventory manifestBytes)).map Prod.fst).map rooted := by
    rw [List.map_map, List.map_map]
    rfl
  have hpaths := validateMemberInventoryPaths_inventory source manifestBytes
    (((sortedByPath (source.inventory manifestBytes)).map entryOf).map Prod.fst) fun path => by
      rw [hentries, ((hperm.map Prod.fst).map rooted).mem_iff]
  have hnames : ((named (source.members manifestBytes checksumsBytes)).map Prod.fst).toFinset =
      (checksumsPath :: ((sortedByPath (source.inventory manifestBytes)).map entryOf).map
        Prod.fst).toFinset := by
    have hall : (named (source.members manifestBytes checksumsBytes)).map Prod.fst =
        ((source.inventory manifestBytes).map Prod.fst).map rooted ++ [checksumsPath] := by
      rw [named, ExportSource.members, List.map_map, List.map_append, List.map_map]
      rfl
    rw [hentries, hall]
    refine Finset.ext fun name => ?_
    rw [List.mem_toFinset, List.mem_toFinset, List.mem_append, List.mem_singleton, List.mem_cons, or_comm,
      ((hperm.map Prod.fst).map rooted).mem_iff]
  have hmembers : forEach (checkMember (named (source.members manifestBytes checksumsBytes)))
      ((sortedByPath (source.inventory manifestBytes)).map entryOf) = .ok () := by
    refine forEach_eq_ok.2 (List.forall_mem_map.2 fun member hmember => ?_)
    exact checkMember_entryOf hnodup (hsub (hperm.subset hmember))
  have hobject : orFail (validation "manifest must be a JSON object")
      (object? (reloaded source.manifestPayload.value)) = .ok loaded :=
    orFail_eq_ok.2 (congrArg object? hloaded)
  rw [compareInventory, hbytes, ok_bind, hvalue, ok_bind, hobject, ok_bind,
    validatePackageFormatVersion_manifest source hget, ok_bind, hpaths, ok_bind, ensure_of hnames, ok_bind,
    hmembers, ok_bind]
  rfl

/-- The inventory passes if and only if no member is named like it. -/
theorem loadInventory_eq_ok_iff (source : ExportSource) {manifestBytes checksumsBytes : ByteArray}
    (hmanifest : jsonBytes source.manifestPayload = .ok manifestBytes)
    (hchecksums : jsonBytes (source.checksumsPayload hmanifest) = .ok checksumsBytes)
    {loaded : List (Str × Value Str)} (hloaded : reloaded (.obj source.manifest) = .obj loaded)
    (hget : ∀ e ∈ source.manifest, loaded.lookup (Str.ofText e.1) = some (reloaded e.2))
    {manifest : List (Str × Value Str)} :
    loadInventory (named (source.members manifestBytes checksumsBytes)) = .ok manifest ↔
      (∀ member ∈ source.inventory manifestBytes, ¬ Named "checksums.json".toList member.1) ∧
        loaded = manifest := by
  have hnodup := source.nodup_members manifestBytes checksumsBytes
  have hinventory : ((source.inventory manifestBytes).map Prod.fst).Nodup := by
    rw [ExportSource.members, List.map_append] at hnodup
    exact hnodup.of_append_left
  have hpaths : ∀ member ∈ source.inventory manifestBytes, MemberPath member.1 := fun member hmember =>
    source.memberPath manifestBytes checksumsBytes member (List.mem_append_left _ hmember)
  have hbytes : requiredMember (named (source.members manifestBytes checksumsBytes)) checksumsPath =
      .ok checksumsBytes :=
    orFail_eq_ok.2 (lookup_named hnodup (List.mem_append_right _
      (List.mem_singleton_self ("checksums.json".toList, checksumsBytes))))
  have hvalue := loadJsonBytes_of_jsonBytes hchecksums
    (depth_checksums (source.inventory manifestBytes)) "checksums"
  have hpayload : (source.checksumsPayload hmanifest).value =
      .obj (checksums (source.inventory manifestBytes)) := rfl
  have hcompare := compareInventory_entries source hmanifest checksumsBytes hloaded hget
  rw [loadInventory, hbytes, ok_bind, hvalue, ok_bind, bind_eq_ok, hpayload]
  constructor
  · rintro ⟨entries, hentries, h⟩
    obtain ⟨hself, heq⟩ := (validateChecksums_eq_ok_iff hpaths hinventory).1 hentries
    rw [heq, hcompare] at h
    exact ⟨hself, Except.ok.inj h⟩
  · rintro ⟨hself, rfl⟩
    exact ⟨_, (validateChecksums_eq_ok_iff hpaths hinventory).2 ⟨hself, rfl⟩, hcompare⟩

/-! ## The size of the payload -/

omit [PackageLibrary] in
/-- A part of some numbers has their sum if and only if the others are zero. -/
theorem sum_filter_eq_iff {α : Type} (p : α → Bool) (size : α → ℕ) (xs : List α) :
    ((xs.filter p).map size).sum = (xs.map size).sum ↔ ∀ x ∈ xs, p x = false → size x = 0 := by
  have hle : ∀ xs : List α, ((xs.filter p).map size).sum ≤ (xs.map size).sum := fun xs =>
    (List.filter_sublist.map size).sum_le_sum fun _ _ => Nat.zero_le _
  induction xs with
  | nil => simp
  | cons x xs ih =>
    have hrest := hle xs
    rw [List.forall_mem_cons, ← propext ih, List.map_cons, List.sum_cons]
    cases hx : p x with
    | false =>
      have htrue : (false = false → size x = 0) ↔ size x = 0 := forall_prop_of_true rfl
      rw [List.filter_cons_of_neg (by simp [hx]), htrue]
      omega
    | true =>
      rw [List.filter_cons_of_pos hx, List.map_cons, List.sum_cons, Nat.add_left_cancel_iff]
      exact (and_iff_right nofun).symm

omit [PackageLibrary] in
theorem isPayload_rooted {path : Text} : isPayload (rooted path) = true ↔
    ¬ Named "manifest.json".toList path ∧ ¬ Named "checksums.json".toList path := by
  rw [isPayload, decide_eq_true_eq]
  exact and_congr (not_congr (suffix_rooted_iff "manifest.json" (by decide)))
    (not_congr (suffix_rooted_iff "checksums.json" (by decide)))

theorem ExportSource.actualPayloadSize_members (source : ExportSource)
    (manifestBytes checksumsBytes : ByteArray) :
    actualPayloadSize (named (source.members manifestBytes checksumsBytes)) =
      ((source.payloadMembers.filter fun member => isPayload (rooted member.1)).map
        fun member => member.2.size).sum := by
  have hmanifest : isPayload (rooted "manifest.json".toList) = false := by
    rw [← Bool.not_eq_true, isPayload_rooted]
    exact fun h => h.1 (.inl rfl)
  have hchecksums : isPayload (rooted "checksums.json".toList) = false := by
    rw [← Bool.not_eq_true, isPayload_rooted]
    exact fun h => h.2 (.inl rfl)
  have hfilter : ∀ members : Files, ((named members).filter fun member => isPayload member.1).map
      (fun member => member.2.size) = (members.filter fun member => isPayload (rooted member.1)).map
        fun member => member.2.size := by
    intro members
    rw [named, List.filter_map, List.map_map]
    rfl
  have hone : ∀ member : Text × ByteArray, isPayload (rooted member.1) = false →
      [member].filter (fun member => isPayload (rooted member.1)) = [] := fun member h =>
    List.filter_cons_of_neg (Bool.eq_false_iff.1 h)
  rw [actualPayloadSize, hfilter, ExportSource.members, ExportSource.inventory, List.filter_append,
    List.filter_append, hone _ hmanifest, hone _ hchecksums, List.append_nil, List.append_nil]

theorem passes_members_iff (source : ExportSource) {manifestBytes checksumsBytes : ByteArray}
    (hmanifest : jsonBytes source.manifestPayload = .ok manifestBytes)
    (hchecksums : jsonBytes (source.checksumsPayload hmanifest) = .ok checksumsBytes) :
    Passes (named (source.members manifestBytes checksumsBytes)) ↔
      (∀ member ∈ source.inventory manifestBytes, ¬ Named "checksums.json".toList member.1) ∧
        ∀ member ∈ source.payloadMembers, isPayload (rooted member.1) = false → member.2.size = 0 := by
  obtain ⟨loaded, hloaded, hget⟩ := exists_reloaded source.manifest source.readable_manifest.1
  have hcount : get loaded "total_payload_size_bytes" = .int source.payloadSize :=
    get_of_lookup (hget ("total_payload_size_bytes".toList, .int source.payloadSize)
      (List.mem_append_right _ (List.mem_cons_of_mem _ (List.mem_cons_of_mem _ List.mem_cons_self))))
  have hint : (int? (.int source.payloadSize)).filter (0 ≤ ·) = some (source.payloadSize : Int) :=
    Option.filter_some_pos (decide_eq_true (Int.natCast_nonneg _))
  have hsize : validatePayloadSize loaded (named (source.members manifestBytes checksumsBytes)) = .ok () ↔
      ∀ member ∈ source.payloadMembers, isPayload (rooted member.1) = false → member.2.size = 0 := by
    rw [validatePayloadSize, requiredNonnegativeInt, hcount, hint, orFail_some, ok_bind, ensure_eq_ok,
      Int.natCast_inj, eq_comm, source.actualPayloadSize_members, ExportParts.payloadSize, sum_filter_eq_iff]
  rw [Passes, ← hsize]
  simp only [loadInventory_eq_ok_iff source hmanifest hchecksums hloaded hget, and_assoc, exists_and_left,
    exists_eq_left']

omit [PackageLibrary] in
/-- A member that counts towards the payload has a path of its own kind or comes from a file. -/
theorem mem_payloadMembers {parts : ExportParts} {member : Text × ByteArray}
    (h : member ∈ parts.payloadMembers) :
    member.1 ∈ payloadPaths ∨ ∃ file ∈ parts.artifacts, member = (artifactPath file.1, file.2) := by
  rcases List.mem_append.1 h with h | h
  · refine .inl ?_
    rcases List.mem_append.1 h with h | h
    · exact List.mem_append_left _ (List.mem_map_of_mem (f := Prod.fst) h)
    · obtain ⟨category, hcategory, rfl⟩ := List.mem_map.1 h
      exact List.mem_append_right _ (List.mem_map_of_mem (List.mem_filter.1 hcategory).1)
  · obtain ⟨file, hfile, rfl⟩ := List.mem_map.1 h
    exact .inr ⟨file, hfile, rfl⟩

/-- Which authoritative files the exporter and the loader agree about. -/
theorem members_iff_artifacts (source : ExportSource) (manifestBytes : ByteArray) :
    ((∀ member ∈ source.inventory manifestBytes, ¬ Named "checksums.json".toList member.1) ∧
        ∀ member ∈ source.payloadMembers, isPayload (rooted member.1) = false → member.2.size = 0) ↔
      ∀ file ∈ source.artifacts, ¬ Named "checksums.json".toList file.1 ∧
        (Named "manifest.json".toList file.1 → file.2.size = 0) := by
  have hchecksums : ∀ path, Named "checksums.json".toList (artifactPath path) ↔
      Named "checksums.json".toList path := fun path =>
    named_artifactPath "checksums.json" (by decide)
  have hmanifest : ∀ path, Named "manifest.json".toList (artifactPath path) ↔
      Named "manifest.json".toList path := fun path =>
    named_artifactPath "manifest.json" (by decide)
  constructor
  · rintro ⟨hself, hcounted⟩ file hfile
    have hmember : (artifactPath file.1, file.2) ∈ source.payloadMembers :=
      List.mem_append_right _ (List.mem_map.2 ⟨file, hfile, rfl⟩)
    refine ⟨fun hnamed => hself _ (List.mem_append_left _ hmember) ((hchecksums _).2 hnamed),
      fun hnamed => hcounted (artifactPath file.1, file.2) hmember ?_⟩
    rw [← Bool.not_eq_true, isPayload_rooted]
    exact fun h => h.1 ((hmanifest _).2 hnamed)
  · intro h
    constructor
    · intro member hmember hnamed
      rcases List.mem_append.1 hmember with hmember | hmember
      · rcases mem_payloadMembers hmember with hpath | ⟨file, hfile, rfl⟩
        · exact (not_named_payloadPaths _ hpath).1 hnamed
        · exact (h file hfile).1 ((hchecksums _).1 hnamed)
      · obtain rfl := List.mem_singleton.1 hmember
        exact not_named_manifest hnamed
    · intro member hmember hpayload
      have hnamed := mt isPayload_rooted.2 (Bool.eq_false_iff.1 hpayload)
      rcases mem_payloadMembers hmember with hpath | ⟨file, hfile, rfl⟩
      · exact absurd (not_named_payloadPaths _ hpath).symm hnamed
      · by_contra hsize
        exact hnamed ⟨fun hm => hsize ((h file hfile).2 ((hmanifest _).1 hm)),
          fun hc => (h file hfile).1 ((hchecksums _).1 hc)⟩

/-! ## An export -/

theorem ExportSource.exportMembers_eq (source : ExportSource) {manifestBytes checksumsBytes : ByteArray}
    (hmanifest : jsonBytes source.manifestPayload = .ok manifestBytes)
    (hchecksums : jsonBytes (source.checksumsPayload hmanifest) = .ok checksumsBytes) :
    source.exportMembers = .ok (named (source.members manifestBytes checksumsBytes)) := by
  unfold ExportSource.exportMembers
  split
  · next e herror =>
    rw [hmanifest] at herror
    cases herror
  · next bytes hbytes =>
    have heq : manifestBytes = bytes := Except.ok.inj (hmanifest.symm.trans hbytes)
    subst heq
    rw [hchecksums, ok_bind]
    rfl

theorem exists_jsonBytes (value : Payload) (h : depth value.value ≤ 3) :
    ∃ bytes, jsonBytes value = .ok bytes :=
  ⟨_, jsonBytes_eq_ok_iff.2 ⟨h.trans PackageLibrary.three_le_encodeLevels, rfl⟩⟩

/-- An export does not fail, whatever its files are. -/
theorem ExportSource.exists_exportMembers (source : ExportSource) :
    ∃ (manifestBytes checksumsBytes : ByteArray)
      (hmanifest : jsonBytes source.manifestPayload = .ok manifestBytes),
      jsonBytes (source.checksumsPayload hmanifest) = .ok checksumsBytes ∧
        source.exportMembers = .ok (named (source.members manifestBytes checksumsBytes)) := by
  obtain ⟨manifestBytes, hmanifest⟩ := exists_jsonBytes source.manifestPayload
    ((source.depth_manifest source.header_depth).trans (by decide))
  obtain ⟨checksumsBytes, hchecksums⟩ := exists_jsonBytes (source.checksumsPayload hmanifest)
    (depth_checksums (source.inventory manifestBytes))
  exact ⟨manifestBytes, checksumsBytes, hmanifest, hchecksums,
    source.exportMembers_eq hmanifest hchecksums⟩

/-- The loader accepts the accounting of an export if and only if no authoritative file has the name of
the inventory, and each with the name of the manifest is empty. -/
theorem passes_export_iff (source : ExportSource) :
    (∃ members, source.exportMembers = .ok members ∧ Passes members) ↔
      ∀ file ∈ source.artifacts, ¬ Named "checksums.json".toList file.1 ∧
        (Named "manifest.json".toList file.1 → file.2.size = 0) := by
  obtain ⟨manifestBytes, checksumsBytes, hmanifest, hchecksums, hexport⟩ := source.exists_exportMembers
  rw [← members_iff_artifacts source manifestBytes, ← passes_members_iff source hmanifest hchecksums,
    hexport]
  exact ⟨fun ⟨_, heq, hpasses⟩ => Except.ok.inj heq ▸ hpasses, fun h => ⟨_, rfl, h⟩⟩

end

/-! ## A file named like the inventory -/

/-- The entries of a manifest of an export with one artifact. -/
def sampleHeader : String → TextValue
  | "workspace_id" => .str "11111111-1111-4111-8111-111111111111".toList
  | "exported_at" => .str "2026-01-01T00:00:00Z".toList
  | "source_product_version" => .str "0.1.0".toList
  | "included_categories" => .arr (v2RecordCategories.map fun category => .str category.recordType.toList)
  | "record_counts" => .obj (v2RecordCategories.map fun category =>
      (category.recordType.toList, .int (if category.recordType = "artifact" then 1 else 0)))
  | "omitted_secret_counts" => .obj (v2RecordCategories.map fun category =>
      (category.recordType.toList, .int 0))
  | "checksum_algorithm" => .str checksumAlgorithm.toList
  | "encryption_state" => .str "none".toList
  | "excluded_categories" | "external_references" | "compatibility_notes" => .arr []
  | _ => .int 1

def sampleParts : ExportParts where
  workspace := ByteArray.empty
  auditEvents := ByteArray.empty
  migrationHistory := ByteArray.empty
  readme := ByteArray.empty
  records _ := ByteArray.empty
  occurs _ := false
  header := sampleHeader
  artifacts := [("checksums.json".toList, ByteArray.empty)]

theorem readable_sampleHeader : ∀ name ∈ headerKeys, (sampleHeader name).Readable := by
  have hone : 1 < 10 ^ maxDigits := Nat.one_lt_pow (by decide) (by decide)
  have hkeys : (v2RecordCategories.map fun category => category.recordType.toList).Nodup := by
    decide
  have hcounts : ∀ count : Category → Int, (∀ category, (count category).natAbs ≤ 1) →
      (Value.obj (v2RecordCategories.map fun category =>
        (category.recordType.toList, .int (count category)))).Readable := by
    intro count hcount
    refine ⟨by rwa [List.map_map], entriesReadable_iff.2 (List.forall_mem_map.2 fun category _ => ?_)⟩
    exact (hcount category).trans_lt hone
  have htexts : (Value.arr (v2RecordCategories.map fun category =>
      Value.str category.recordType.toList)).Readable :=
    allReadable_iff.2 (List.forall_mem_map.2 fun _ _ => trivial)
  have hrecords := hcounts (fun category => if category.recordType = "artifact" then 1 else 0)
    fun category => by split <;> decide
  have homitted := hcounts (fun _ => 0) fun _ => by decide
  simp only [headerKeys, List.forall_mem_cons, List.not_mem_nil, false_implies, implies_true, and_true]
  exact ⟨trivial, trivial, trivial, hone, hone, hone, htexts, trivial, hrecords, hone, hone, trivial, trivial,
    homitted, trivial, trivial⟩

theorem validateManagedPath_checksums : @validateManagedPath deepLibrary "checksums.json".toList =
    .ok "checksums.json".toList := by
  have hcomponent : @validateComponent deepLibrary "checksums.json".toList = .ok () :=
    check_bind_eq_ok.2 ⟨ensure_of (by decide) _, check_bind_eq_ok.2 ⟨ensure_of (by decide) _,
      check_bind_eq_ok.2 ⟨ensure_of (List.all_iff_forall_prop.1 rfl) _,
        check_bind_eq_ok.2 ⟨ensure_of (List.all_iff_forall_prop.1 rfl) _,
          check_bind_eq_ok.2 ⟨ensure_of (by decide) _, ensure_of (by decide) _⟩⟩⟩⟩⟩
  have hsplit : "checksums.json".toList.splitOn '/' = ["checksums.json".toList] := by decide
  have heach : forEach (@validateComponent deepLibrary) ("checksums.json".toList.splitOn '/') = .ok () := by
    rw [hsplit]
    exact forEach_eq_ok.2 (List.forall_mem_singleton.2 hcomponent)
  exact check_bind_eq_ok.2 ⟨ensure_of (by decide) _, check_bind_eq_ok.2 ⟨ensure_of
    (by decide) _, check_bind_eq_ok.2 ⟨ensure_of (by decide) _, check_bind_eq_ok.2
    ⟨ensure_of (by decide) _, check_bind_eq_ok.2 ⟨ensure_of (by decide) _,
      check_bind_eq_ok.2 ⟨heach, congrArg Except.ok (List.intercalate_splitOn '/')⟩⟩⟩⟩⟩⟩

/-- An export of one artifact, whose managed path is `checksums.json`. -/
def checksumsSource : @ExportSource deepLibrary :=
  @ExportSource.mk deepLibrary sampleParts (List.forall_mem_singleton.2 validateManagedPath_checksums)
    (List.nodup_singleton _) (by decide +kernel) (by decide +kernel) readable_sampleHeader
    (by decide +kernel) (by decide +kernel)

theorem not_passes_checksums : ¬ ∀ source : @ExportSource deepLibrary,
    ∃ members, @ExportSource.exportMembers deepLibrary source = .ok members ∧
      @Passes deepLibrary members := by
  let _ : PackageLibrary := deepLibrary
  intro h
  obtain ⟨members, hmembers, hpasses⟩ := h checksumsSource
  obtain ⟨manifestBytes, checksumsBytes, hmanifest, hchecksums, hexport⟩ :=
    checksumsSource.exists_exportMembers
  obtain rfl := Except.ok.inj (hexport.symm.trans hmembers)
  have hagree := (members_iff_artifacts checksumsSource manifestBytes).1
    ((passes_members_iff checksumsSource hmanifest hchecksums).1 hpasses)
  exact (hagree _ List.mem_cons_self).1 (.inl rfl)

end DollState.Package
