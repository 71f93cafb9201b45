import DollState.Import.Conservation

/-!
# The two formats of a source

The same objects as a JSON document and as JSON Lines. Both parsers read the same raw objects unless
`str.splitlines` breaks a line of the second source at a character that is not a line feed
(`stage_jsonLines_iff`): such a character may stand unescaped in a string.
-/

namespace DollState.Import

open StateLib JsonText

/-- The part of a result that does not name the format of its source; quarantined objects without
their positions. -/
def GenericImportStageResult.content (result : GenericImportStageResult) :
    List StagedSourceObject × List (Option Text × Digest × String) × MappingCounts ×
      List PortabilityLossRecord :=
  (result.stagedObjects,
    result.quarantinedObjects.map fun q => (q.sourceObjectId, q.sourceHash, q.reason),
    result.mappingReport.counts, result.lossRecords)

/-- A text on one line: an object, as an encoder writes it. -/
structure ObjectLine (line : Text) : Prop where
  start : line.head? = some '{'
  stop : ∃ body, line = body ++ ['}']
  noLineFeed : '\n' ∉ line

/-- No character of the line breaks it. -/
def Unbroken (line : Text) : Prop := ∀ c ∈ line, isLineBreak c = false

instance (line : Text) : Decidable (Unbroken line) := inferInstanceAs (Decidable (∀ c ∈ line, _))

/-- The entries of an object with its kind of record added. -/
def Tagged (kind : String) (object entries : List (Str × Value Str)) : Prop :=
  ∃ before after, object = before ++ after ∧
    entries = before ++ (key "record_kind", .str (key kind)) :: after

section

variable [ImportLibrary]

/-- The text is one of the dictionary with these entries. -/
def Decodes (text : Text) (entries : List (Str × Value Str)) : Prop :=
  decode strictObject ImportLibrary.decodeLevels text = some (.obj entries)

/-- An object with the four keys that has a canonical text. -/
structure WellFormedObject (object : List (Str × Value Str)) : Prop where
  keys : (object.map Prod.fst).Perm (objectKeys.map key)
  canonical : ∃ hashed, hashJsonValue (.obj object) = .ok hashed

/-- The entries of a manifest. -/
def Manifest.entries (manifest : Manifest) : List (Str × Value Str) :=
  [(key "format", manifest.format), (key "format_version", manifest.formatVersion),
    (key "source_environment_id", manifest.sourceEnvironmentId)]

/-- The text is a JSON document of the objects. -/
def EncodesJson (manifest : Manifest) (objects : List (List (Str × Value Str))) (text : Text) :
    Prop :=
  ∃ entries, Decodes text entries ∧
    entries.Perm ((key "objects", .arr (objects.map .obj)) :: manifest.entries)

/-- The lines are the JSON Lines of the objects. -/
structure EncodesJsonLines (manifest : Manifest) (objects : List (List (Str × Value Str)))
    (manifestLine : Text) (lines : List Text) : Prop where
  line : ∀ line ∈ manifestLine :: lines, ObjectLine line
  manifest : ∃ entries, Decodes manifestLine entries ∧
    entries.Perm ((key "record_kind", .str (key "manifest")) :: manifest.entries)
  objects : List.Forall₂ (fun object line =>
    ∃ entries, Decodes line entries ∧ Tagged "object" object entries) objects lines

end

/-- Lines separated by line feeds, with or without one at the end. -/
def joinJsonLines (lines : List Text) (atEnd : Bool) : Text :=
  ['\n'].intercalate lines ++ if atEnd then ['\n'] else []

/-! ## The lines of a source -/

theorem ObjectLine.ne_nil {line : Text} (h : ObjectLine line) : line ≠ [] := by
  obtain ⟨body, rfl⟩ := h.stop
  simp

theorem strip_ne_nil {s : Text} {c : Char} (hc : c ∈ s) (hspace : isSpace c = false) :
    strip s ≠ [] := by
  intro h
  have hdrop : c ∈ s.dropWhile isSpace := by
    rw [← List.takeWhile_append_dropWhile (p := isSpace) (l := s)] at hc
    rcases List.mem_append.1 hc with hc | hc
    · rw [List.mem_takeWhile_imp hc] at hspace
      cases hspace
    · exact hc
  have hall := List.rdropWhile_eq_nil_iff.1 h c hdrop
  rw [hspace] at hall
  cases hall

/-- Splitting the text splits every line of its own. -/
theorem splitLines_joinJsonLines {lines : List Text} (hlines : ∀ line ∈ lines, ObjectLine line)
    (atEnd : Bool) (hne : lines ≠ []) :
    splitLines [] (joinJsonLines lines atEnd) = lines.flatMap (splitLines []) := by
  have hbrace : isLineBreak '}' = false := by decide
  induction lines with
  | nil => exact absurd rfl hne
  | cons line lines ih =>
    obtain ⟨body, hbody⟩ := (hlines line List.mem_cons_self).stop
    cases lines with
    | nil =>
      rw [joinJsonLines, List.intercalate_singleton, List.flatMap_singleton]
      cases atEnd with
      | false => simp
      | true =>
        rw [hbody, List.append_assoc, if_pos rfl]
        exact (splitLines_lineFeed [] body [] hbrace).trans (by simp [splitLines])
    | cons next lines =>
      have hrest := ih (fun l hl => hlines l (List.mem_cons_of_mem _ hl)) (List.cons_ne_nil _ _)
      have hsplit : joinJsonLines (line :: next :: lines) atEnd =
          body ++ '}' :: '\n' :: joinJsonLines (next :: lines) atEnd := by
        rw [joinJsonLines, List.intercalate_cons_cons, hbody]
        simp [joinJsonLines]
      rw [hsplit, splitLines_lineFeed [] body _ hbrace, ← hbody, hrest]
      rfl

theorem splitLines_of_unbroken {line : Text} (h : Unbroken line) (hne : line ≠ []) :
    splitLines [] line = [line] := by
  have hsplit := splitLines_append h [] []
  rw [List.append_nil, List.nil_append] at hsplit
  rw [hsplit, splitLines, if_neg hne]

/-- A broken line is cut in two: the first piece has the first brace, what follows the last. -/
theorem splitLines_of_broken {line : Text} (hline : ObjectLine line) (h : ¬ Unbroken line) :
    ∃ first c more, line = ('{' :: first) ++ (c :: more ++ ['}']) ∧ Unbroken ('{' :: first) ∧
      splitLines [] line = ('{' :: first) :: splitLines [] (more ++ ['}']) := by
  obtain ⟨body, hbody⟩ := hline.stop
  have hcut := List.takeWhile_append_dropWhile (p := fun c => !isLineBreak c) (l := line)
  have hunbroken : Unbroken (line.takeWhile fun c => !isLineBreak c) := fun c hc => by
    simpa using List.mem_takeWhile_imp hc
  cases hdrop : line.dropWhile fun c => !isLineBreak c with
  | nil =>
    rw [hdrop, List.append_nil] at hcut
    exact absurd (hcut ▸ hunbroken) h
  | cons c rest =>
    have hc : isLineBreak c = true := by
      have := List.dropWhile_get_zero_not (fun c => !isLineBreak c) line (by rw [hdrop]; simp)
      simpa [hdrop] using this
    rw [hdrop] at hcut
    -- neither brace is the character that breaks the line
    obtain ⟨more, rfl⟩ : ∃ more, rest = more ++ ['}'] := by
      rcases List.eq_nil_or_concat' rest with rfl | ⟨more, d, rfl⟩
      · rw [hbody] at hcut
        cases (List.append_inj' hcut rfl).2
        exact absurd hc (by decide)
      · rw [hbody, ← List.cons_append, ← List.append_assoc] at hcut
        cases (List.append_inj' hcut rfl).2
        exact ⟨more, rfl⟩
    obtain ⟨first, hfirst⟩ : ∃ first, (line.takeWhile fun c => !isLineBreak c) = '{' :: first := by
      cases htake : line.takeWhile fun c => !isLineBreak c with
      | nil =>
        have hstart := hline.start
        rw [← hcut, htake] at hstart
        cases hstart
        exact absurd hc (by decide)
      | cons d first =>
        have hstart := hline.start
        rw [← hcut, htake] at hstart
        cases hstart
        exact ⟨first, rfl⟩
    rw [hfirst] at hcut hunbroken
    refine ⟨first, c, more, hcut.symm, hunbroken, ?_⟩
    have hlineFeed : c ≠ '\r' ∨ ∀ cs, more ++ ['}'] ≠ '\n' :: cs := by
      refine .inr fun cs hcs => hline.noLineFeed ?_
      rw [← hcut, hcs]
      simp
    rw [← hcut, splitLines_append hunbroken, List.nil_append, splitLines, if_pos hc]
    rintro cs rfl
    exact hlineFeed.resolve_left (not_not.2 rfl) cs

/-- The lines that are not blank, each of which is a raw object. -/
def nonBlank (lines : List Text) : List Text := lines.filter fun line => strip line ≠ []

theorem nonBlank_of_unbroken {line : Text} (hline : ObjectLine line) (h : Unbroken line) :
    (nonBlank (splitLines [] line)).length = 1 := by
  obtain ⟨body, hbody⟩ := hline.stop
  have hmem : '}' ∈ line := by simp [hbody]
  rw [splitLines_of_unbroken h hline.ne_nil, nonBlank, List.filter_singleton,
    decide_eq_true (strip_ne_nil hmem (by decide))]
  rfl

theorem nonBlank_of_broken {line : Text} (hline : ObjectLine line) (h : ¬ Unbroken line) :
    2 ≤ (nonBlank (splitLines [] line)).length := by
  obtain ⟨first, c, more, -, -, hsplit⟩ := splitLines_of_broken hline h
  have hbrace : isLineBreak '}' = false := by decide
  obtain ⟨rest, t, hrest⟩ := splitLines_suffix [] more hbrace
  have hstart : strip ('{' :: first) ≠ [] := strip_ne_nil List.mem_cons_self (by decide)
  have hstop : strip (t ++ ['}']) ≠ [] :=
    strip_ne_nil (List.mem_append_right _ (List.mem_singleton.2 rfl)) (by decide)
  rw [hsplit, hrest]
  simp [nonBlank, hstart, hstop]

/-! ## The parsers -/

theorem entry_eq_of_mem {S : Type} [DecidableEq S] {entries : List (S × Value S)} {name : S}
    {v : Value S} (hnodup : (entries.map Prod.fst).Nodup) (h : (name, v) ∈ entries) :
    entry entries name = v := by
  induction entries with
  | nil => cases h
  | cons e entries ih =>
    obtain ⟨name', v'⟩ := e
    obtain ⟨hnew, hrest⟩ := List.nodup_cons.1 hnodup
    rcases List.mem_cons.1 h with heq | hmem
    · cases heq
      simp [entry]
    · have hne : name ≠ name' := by
        rintro rfl
        exact hnew (List.mem_map.2 ⟨_, hmem, rfl⟩)
      rw [← ih hrest hmem]
      simp [entry, List.lookup_cons, beq_eq_false_iff_ne.2 hne]

theorem requireExactKeys_of_perm {S : Type} [DecidableEq S] {entries : List (S × Value S)}
    {expected : List S} (h : (entries.map Prod.fst).Perm expected) (context : String) :
    requireExactKeys entries expected context = .ok () := by
  refine ensure_of ⟨?_, fun name hname => h.mem_iff.2 hname⟩ _
  rw [← h.length_eq, List.length_map]

/-- The dictionary that a permutation of some entries stands for. -/
theorem entry_of_perm {S : Type} [DecidableEq S] {entries others : List (S × Value S)} {name : S}
    {v : Value S} (hperm : entries.Perm others) (hnodup : (others.map Prod.fst).Nodup)
    (h : (name, v) ∈ others) : entry entries name = v :=
  entry_eq_of_mem ((hperm.map _).nodup_iff.2 hnodup) (hperm.mem_iff.2 h)

section

variable [ImportLibrary] {manifest : Manifest} {objects : List (List (Str × Value Str))}

theorem strictJsonLoads_of_decodes {text : Text} {entries : List (Str × Value Str)}
    (h : Decodes text entries) (context : String) :
    strictJsonLoads text context = .ok (.obj entries) := by
  rw [strictJsonLoads, h]
  rfl

omit [ImportLibrary] in
/-- The entries of a manifest and one more. -/
theorem ofEntries_of_perm {entries : List (Str × Value Str)} {name : Str} {v : Value Str}
    (hname : name ∉ ["format", "format_version", "source_environment_id"].map key)
    (h : entries.Perm ((name, v) :: manifest.entries)) :
    Manifest.ofEntries entries = manifest ∧ entry entries name = v := by
  have hkeys : (((name, v) :: manifest.entries).map Prod.fst).Nodup :=
    List.nodup_cons.2 ⟨hname, (by decide :
      (["format", "format_version", "source_environment_id"].map key).Nodup)⟩
  refine ⟨?_, entry_of_perm h hkeys List.mem_cons_self⟩
  have hentry : ∀ e ∈ manifest.entries, entry entries e.1 = e.2 := fun e he =>
    entry_of_perm h hkeys (List.mem_cons_of_mem _ he)
  obtain ⟨format, formatVersion, sourceEnvironmentId⟩ := manifest
  obtain ⟨hformat, hversion, henvironment, -⟩ := by
    simpa only [Manifest.entries, List.forall_mem_cons] using hentry
  rw [Manifest.ofEntries, hformat, hversion, henvironment]

theorem parseJsonEnvelope_of_encodes {text : Text} (h : EncodesJson manifest objects text) :
    parseJsonEnvelope text =
      rawObjects 0 (objects.map .obj) >>= fun raws => .ok (manifest, raws) := by
  obtain ⟨entries, hdecodes, hperm⟩ := h
  obtain ⟨hmanifest, hobjects⟩ := ofEntries_of_perm (by decide) hperm
  have hkeys : (entries.map Prod.fst).Perm
      [key "format", key "format_version", key "source_environment_id", key "objects"] :=
    (hperm.map _).trans (by
      simpa [Manifest.entries] using List.perm_append_singleton (key "objects")
        [key "format", key "format_version", key "source_environment_id"] |>.symm)
  rw [parseJsonEnvelope, strictJsonLoads_of_decodes hdecodes, ok_bind]
  dsimp only
  rw [requireExactKeys_of_perm hkeys, ok_bind, hobjects, hmanifest]
  rfl

theorem manifestLine_of_encodes {manifestText : Text} {lines : List Text}
    (h : EncodesJsonLines manifest objects manifestText lines) :
    manifestLine manifestText = .ok manifest := by
  obtain ⟨entries, hdecodes, hperm⟩ := h.manifest
  obtain ⟨hmanifest, hkind⟩ := ofEntries_of_perm (by decide) hperm
  rw [manifestLine, strictJsonLoads_of_decodes hdecodes, ok_bind]
  dsimp only
  have hkeys : (entries.map Prod.fst).Perm
      [key "record_kind", key "format", key "format_version", key "source_environment_id"] :=
    hperm.map _
  rw [requireExactKeys_of_perm hkeys, ok_bind, hkind, ensure_of (by rfl), ok_bind, hmanifest]
  rfl

/-- An object on its line, unhashed, is the object of the document. -/
theorem lineObject_of_tagged {object entries : List (Str × Value Str)} {line : Text}
    (hobject : WellFormedObject object) (hdecodes : Decodes line entries)
    (htagged : Tagged "object" object entries) : lineObject line = .ok (.obj object) := by
  obtain ⟨before, after, rfl, rfl⟩ := htagged
  have hperm : (before ++ (key "record_kind", .str (key "object")) :: after).Perm
      ((key "record_kind", .str (key "object")) :: (before ++ after)) := List.perm_middle
  have hkeys : ((before ++ (key "record_kind", Value.str (key "object")) :: after).map
      Prod.fst).Perm ((objectKeys ++ ["record_kind"]).map key) := by
    refine (hperm.map _).trans ?_
    rw [List.map_cons, List.map_append (f := key)]
    exact (hobject.keys.cons _).trans (List.perm_append_singleton _ _).symm
  have hnodup : (((key "record_kind", Value.str (key "object")) :: (before ++ after)).map
      Prod.fst).Nodup := (hperm.map _).nodup_iff.1 (hkeys.nodup_iff.2 (by decide))
  have hnone : ∀ e ∈ before ++ after, e.1 ≠ key "record_kind" := fun e he heq =>
    (List.nodup_cons.1 hnodup).1 (List.mem_map.2 ⟨e, he, heq⟩)
  rw [lineObject, strictJsonLoads_of_decodes hdecodes, ok_bind]
  dsimp only
  rw [requireExactKeys_of_perm hkeys, ok_bind, entry_of_perm hperm hnodup List.mem_cons_self,
    ensure_of (by rfl), ok_bind]
  have hfilter : ((before ++ (key "record_kind", Value.str (key "object")) :: after).filter
      fun e => e.1 ≠ key "record_kind") = before ++ after := by
    rw [List.filter_append, List.filter_cons_of_neg (by simp), ← List.filter_append,
      List.filter_eq_self]
    simpa using hnone
  rw [hfilter]
  rfl

theorem lineRawObjects_of_encodes {lines : List Text} {i : Nat}
    (hobjects : ∀ object ∈ objects, WellFormedObject object)
    (hlines : ∀ line ∈ lines, ObjectLine line)
    (h : List.Forall₂ (fun object line =>
      ∃ entries, Decodes line entries ∧ Tagged "object" object entries) objects lines) :
    lineRawObjects i lines = rawObjects i (objects.map .obj) := by
  induction h generalizing i with
  | nil => rfl
  | @cons object line objects lines hline _ ih =>
    obtain ⟨entries, hdecodes, htagged⟩ := hline
    have hobject := hobjects object List.mem_cons_self
    obtain ⟨⟨value, sourceHash⟩, hhash⟩ := hobject.canonical
    obtain ⟨body, hbody⟩ := (hlines line List.mem_cons_self).stop
    have hblank : strip line ≠ [] := strip_ne_nil (c := '}') (by simp [hbody]) (by decide)
    have hraw : lineRawObject i line = rawObject i (.obj object) := by
      rw [lineRawObject, lineObject_of_tagged hobject hdecodes htagged, ok_bind, rawObject, hhash]
      rfl
    rw [lineRawObjects, if_neg hblank, hraw, List.map_cons, rawObjects,
      ih (fun o ho => hobjects o (List.mem_cons_of_mem _ ho))
        fun l hl => hlines l (List.mem_cons_of_mem _ hl)]

/-- If no line is broken, both parsers read the same. -/
theorem parseJsonlEnvelope_of_unbroken {jsonText manifestText : Text} {lines : List Text}
    (hobjects : ∀ object ∈ objects, WellFormedObject object)
    (hjson : EncodesJson manifest objects jsonText)
    (hlines : EncodesJsonLines manifest objects manifestText lines) (atEnd : Bool)
    (hunbroken : ∀ line ∈ manifestText :: lines, Unbroken line) :
    parseJsonlEnvelope (joinJsonLines (manifestText :: lines) atEnd) =
      parseJsonEnvelope jsonText := by
  have hsplit : splitLines [] (joinJsonLines (manifestText :: lines) atEnd) =
      manifestText :: lines := by
    rw [splitLines_joinJsonLines hlines.line atEnd (List.cons_ne_nil _ _)]
    calc (manifestText :: lines).flatMap (splitLines [])
        = (manifestText :: lines).flatMap fun line => [line] := by
          refine List.flatMap_congr fun line hline => ?_
          exact splitLines_of_unbroken (hunbroken line hline) (hlines.line line hline).ne_nil
      _ = manifestText :: lines := List.flatMap_singleton' _
  obtain ⟨body, hbody⟩ := (hlines.line manifestText List.mem_cons_self).stop
  have hblank : strip manifestText ≠ [] := strip_ne_nil (c := '}') (by simp [hbody]) (by decide)
  rw [parseJsonlEnvelope, hsplit]
  dsimp only
  rw [ensure_of hblank, ok_bind, manifestLine_of_encodes hlines, ok_bind,
    lineRawObjects_of_encodes hobjects (fun l hl => hlines.line l (List.mem_cons_of_mem _ hl))
      hlines.objects, parseJsonEnvelope_of_encodes hjson]
  rfl

theorem length_of_lineRawObjects {lines : List Text} {i : Nat} {raws : List RawObject}
    (h : lineRawObjects i lines = .ok raws) : raws.length = (nonBlank lines).length := by
  induction lines generalizing i raws with
  | nil =>
    cases h
    rfl
  | cons line lines ih =>
    rw [lineRawObjects] at h
    split at h
    · rename_i hblank
      rw [ih h, nonBlank, nonBlank, List.filter_cons_of_neg (by simpa using hblank)]
    · rename_i hblank
      obtain ⟨raw, -, h⟩ := bind_eq_ok.1 h
      obtain ⟨rest, hrest, h⟩ := bind_eq_ok.1 h
      cases pure_eq_ok.1 h
      rw [List.length_cons, ih hrest, nonBlank, nonBlank,
        List.filter_cons_of_pos (by simpa using hblank), List.length_cons]

theorem length_of_rawObjects {items : List (Value Str)} {i : Nat} {raws : List RawObject}
    (h : rawObjects i items = .ok raws) : raws.length = items.length := by
  induction items generalizing i raws with
  | nil =>
    cases h
    rfl
  | cons item items ih =>
    obtain ⟨raw, -, h⟩ := bind_eq_ok.1 h
    obtain ⟨rest, hrest, h⟩ := bind_eq_ok.1 h
    cases pure_eq_ok.1 h
    rw [List.length_cons, List.length_cons, ih hrest]

omit [ImportLibrary] in
theorem le_length_nonBlank {lines : List Text} (hlines : ∀ line ∈ lines, ObjectLine line) :
    lines.length ≤ (nonBlank (lines.flatMap (splitLines []))).length ∧
      ((∃ line ∈ lines, ¬ Unbroken line) →
        lines.length < (nonBlank (lines.flatMap (splitLines []))).length) := by
  induction lines with
  | nil => simp [nonBlank]
  | cons line lines ih =>
    obtain ⟨hle, hlt⟩ := ih fun l hl => hlines l (List.mem_cons_of_mem _ hl)
    have hline := hlines line List.mem_cons_self
    have hsum : (nonBlank ((line :: lines).flatMap (splitLines []))).length =
        (nonBlank (splitLines [] line)).length +
          (nonBlank (lines.flatMap (splitLines []))).length := by
      rw [List.flatMap_cons, nonBlank, List.filter_append, List.length_append]
      rfl
    rw [hsum, List.length_cons]
    by_cases hbroken : Unbroken line
    · have hone := nonBlank_of_unbroken hline hbroken
      refine ⟨by omega, ?_⟩
      rintro ⟨l, hl, hlbroken⟩
      rcases List.mem_cons.1 hl with rfl | hl
      · exact absurd hbroken hlbroken
      · have := hlt ⟨l, hl, hlbroken⟩
        omega
    · have htwo := nonBlank_of_broken hline hbroken
      exact ⟨by omega, fun _ => by omega⟩

/-- A broken manifest line is no JSON text. -/
theorem parseJsonlEnvelope_of_broken_manifest {manifestText : Text} {lines : List Text}
    (hlines : EncodesJsonLines manifest objects manifestText lines) (atEnd : Bool)
    (hbroken : ¬ Unbroken manifestText) {parsed : Manifest × List RawObject} :
    parseJsonlEnvelope (joinJsonLines (manifestText :: lines) atEnd) ≠ .ok parsed := by
  intro h
  obtain ⟨first, c, more, htext, -, hsplit⟩ :=
    splitLines_of_broken (hlines.line manifestText List.mem_cons_self) hbroken
  rw [parseJsonlEnvelope, splitLines_joinJsonLines hlines.line atEnd (List.cons_ne_nil _ _),
    List.flatMap_cons, hsplit] at h
  simp only [List.cons_append] at h
  obtain ⟨-, h⟩ := check_bind_eq_ok.1 h
  obtain ⟨found, hmanifest, -⟩ := bind_eq_ok.1 h
  obtain ⟨value, hvalue, -⟩ := bind_eq_ok.1 hmanifest
  have hdecode := orFail_eq_ok.1 hvalue
  -- the whole line is the text of an object, and so is the piece of it
  have hmore := decode_append hdecode (closed_of_decode hdecode) (c :: more ++ ['}'])
  obtain ⟨entries, hdecodes, -⟩ := hlines.manifest
  rw [← htext, hdecodes, if_neg] at hmore
  · cases hmore
  · intro hskip
    have hall := List.dropWhile_eq_nil_iff.1 hskip '}' (by simp)
    exact absurd hall (by decide)

end

/-! ## Staging -/

section

variable [PythonLibrary] [ImportLibrary] {stager : Stager} {ctx : BatchContext}

/-- The content of a result depends neither on the format nor on the hash of the source. -/
theorem content_buildStageResult (stager : Stager) (ctx : BatchContext) (raws : List RawObject)
    (formatVersion : Text) (format format' : SourceFormat) (hash hash' : Digest) :
    (stager.buildStageResult raws format formatVersion hash ctx).map
        GenericImportStageResult.content =
      (stager.buildStageResult raws format' formatVersion hash' ctx).map
        GenericImportStageResult.content := by
  unfold Stager.buildStageResult makeImportBatch
  refine map_bind_congr fun built => map_bind_congr fun namespaceId =>
    map_bind_congr fun report => ?_
  simp only [bind_assoc]
  refine map_bind_congr fun batchId => map_bind_congr fun adapterId =>
    map_bind_congr fun adapterVersion => map_bind_congr fun startedAt => map_bind_congr fun _ =>
      map_bind_congr fun _ => map_bind_congr fun _ => rfl

theorem content_stage {sourceBytes : ByteArray} {sourceText : Text} {sourceFormat : SourceFormat}
    (hread : stager.readBytes sourceBytes sourceFormat = .ok sourceText) (format : SourceFormat) :
    (stager.stage sourceBytes sourceFormat ctx).map GenericImportStageResult.content =
      (stager.readText sourceText sourceFormat >>= fun read =>
        stager.buildStageResult read.2 format read.1 0 ctx).map
          GenericImportStageResult.content := by
  rw [Stager.stage, hread, ok_bind]
  exact map_bind_congr fun read => content_buildStageResult _ _ _ _ _ _ _ _

/-- The number of raw objects a result accounts for. -/
theorem total_of_stage {sourceBytes : ByteArray} {sourceText : Text} {sourceFormat : SourceFormat}
    {result : GenericImportStageResult}
    (hread : stager.readBytes sourceBytes sourceFormat = .ok sourceText)
    (h : stager.stage sourceBytes sourceFormat ctx = .ok result) :
    ∃ manifest raws, parseEnvelope sourceFormat sourceText = .ok (manifest, raws) ∧
      result.mappingReport.counts.total = raws.length := by
  rw [Stager.stage, hread, ok_bind] at h
  obtain ⟨⟨formatVersion, raws⟩, htext, h⟩ := bind_eq_ok.1 h
  obtain ⟨built, namespaceId, -, -, hconserved, -⟩ :=
    conserved_of_buildStageResult (nodup_inputIndexes_of_readText htext) h
  obtain ⟨⟨manifest, raws'⟩, hparse, htext⟩ := bind_eq_ok.1 htext
  obtain ⟨version, -, htext⟩ := bind_eq_ok.1 htext
  obtain ⟨-, htext⟩ := check_bind_eq_ok.1 htext
  obtain ⟨-, htext⟩ := check_bind_eq_ok.1 htext
  cases pure_eq_ok.1 htext
  exact ⟨manifest, raws, hparse, hconserved.total⟩

/-- The same objects in both formats: where no line of the JSON Lines is broken, staging gives the
same content, or fails in the same way; where the JSON document is staged and some line is broken,
it does not. -/
theorem stage_jsonLines_iff {manifest : Manifest} {objects : List (List (Str × Value Str))}
    {jsonText manifestText : Text} {lines : List Text} {atEnd : Bool}
    (hobjects : ∀ object ∈ objects, WellFormedObject object)
    (hjson : EncodesJson manifest objects jsonText)
    (hlines : EncodesJsonLines manifest objects manifestText lines)
    (hreadJson : stager.readBytes (encodeUtf8 jsonText) .json = .ok jsonText)
    (hreadJsonl : stager.readBytes (encodeUtf8 (joinJsonLines (manifestText :: lines) atEnd)) .jsonl =
      .ok (joinJsonLines (manifestText :: lines) atEnd)) :
    ((∀ line ∈ manifestText :: lines, Unbroken line) →
      (stager.stage (encodeUtf8 (joinJsonLines (manifestText :: lines) atEnd)) .jsonl ctx).map
          GenericImportStageResult.content =
        (stager.stage (encodeUtf8 jsonText) .json ctx).map GenericImportStageResult.content) ∧
    ∀ result, stager.stage (encodeUtf8 jsonText) .json ctx = .ok result →
      ((∃ result', stager.stage (encodeUtf8 (joinJsonLines (manifestText :: lines) atEnd)) .jsonl
          ctx = .ok result' ∧ result'.content = result.content) ↔
        ∀ line ∈ manifestText :: lines, Unbroken line) := by
  have hagree : (∀ line ∈ manifestText :: lines, Unbroken line) →
      (stager.stage (encodeUtf8 (joinJsonLines (manifestText :: lines) atEnd)) .jsonl ctx).map
          GenericImportStageResult.content =
        (stager.stage (encodeUtf8 jsonText) .json ctx).map GenericImportStageResult.content := by
    intro hunbroken
    have htext : stager.readText (joinJsonLines (manifestText :: lines) atEnd) .jsonl =
        stager.readText jsonText .json := by
      rw [Stager.readText, Stager.readText, parseEnvelope, parseEnvelope,
        parseJsonlEnvelope_of_unbroken hobjects hjson hlines atEnd hunbroken]
    rw [content_stage hreadJson .json, content_stage hreadJsonl .json, htext]
  refine ⟨hagree, fun result hresult => ⟨?_, fun hunbroken => ?_⟩⟩
  · rintro ⟨result', hresult', hcontent⟩
    obtain ⟨parsed, raws, hparse, htotal⟩ := total_of_stage hreadJson hresult
    obtain ⟨parsed', raws', hparse', htotal'⟩ := total_of_stage hreadJsonl hresult'
    have hcounts : result'.mappingReport.counts = result.mappingReport.counts :=
      congrArg (fun content => content.2.2.1) hcontent
    have hlength : raws'.length = raws.length := by rw [← htotal, ← htotal', hcounts]
    rw [parseEnvelope, parseJsonEnvelope_of_encodes hjson] at hparse
    obtain ⟨read, hread, hparse⟩ := bind_eq_ok.1 hparse
    cases hparse
    rw [length_of_rawObjects hread, List.length_map, hlines.objects.length_eq] at hlength
    have hmanifest : Unbroken manifestText := by
      by_contra hbroken
      exact parseJsonlEnvelope_of_broken_manifest hlines atEnd hbroken hparse'
    have hobjectLines : ∀ line ∈ lines, ObjectLine line := fun l hl =>
      hlines.line l (List.mem_cons_of_mem _ hl)
    rw [parseEnvelope, parseJsonlEnvelope,
      splitLines_joinJsonLines hlines.line atEnd (List.cons_ne_nil _ _), List.flatMap_cons,
      splitLines_of_unbroken hmanifest (hlines.line _ List.mem_cons_self).ne_nil] at hparse'
    simp only [List.singleton_append] at hparse'
    obtain ⟨-, hparse'⟩ := check_bind_eq_ok.1 hparse'
    obtain ⟨found, -, hparse'⟩ := bind_eq_ok.1 hparse'
    obtain ⟨read', hread', hparse'⟩ := bind_eq_ok.1 hparse'
    cases pure_eq_ok.1 hparse'
    rw [length_of_lineRawObjects hread'] at hlength
    have hlt := (le_length_nonBlank hobjectLines).2
    refine List.forall_mem_cons.2 ⟨hmanifest, fun line hline => ?_⟩
    by_contra hbroken
    have := hlt ⟨line, hline, hbroken⟩
    omega
  · have hsame := hagree hunbroken
    rw [hresult] at hsame
    obtain ⟨result', hresult', hcontent⟩ := map_eq_ok.1 hsame
    exact ⟨result', hresult', hcontent⟩

end

/-! ## A line separator in a string -/

section Runs

attribute [local instance] asciiLibrary standardLibrary

def separatorManifest : Manifest :=
  ⟨.str (key "doll-generic-import"), .str (key "1"),
    .str (key "11111111-1111-4111-8111-111111111111")⟩

/-- A conversation with U+2028 in its title. -/
def separatorObject : List (Str × Value Str) :=
  [(key "source_object_id", .str (key "a")), (key "source_type", .str (key "conversation")),
    (key "parent_source_object_ids", .arr []),
    (key "payload", .obj [(key "title", .str (Str.ofText ['x', '\u2028', 'y']))])]

/-- Its text after the opening brace. -/
def separatorMembers : Text :=
  "\"source_object_id\":\"a\",\"source_type\":\"conversation\",".toList ++
    "\"parent_source_object_ids\":[],\"payload\":\x7b\"title\":\"x\u2028y\"\x7d\x7d".toList

def separatorJson : Text := jsonSource ('{' :: separatorMembers)

def separatorManifestLine : Text :=
  "\x7b\"record_kind\":\"manifest\",\"format\":\"doll-generic-import\",".toList ++
    "\"format_version\":\"1\",".toList ++
    "\"source_environment_id\":\"11111111-1111-4111-8111-111111111111\"\x7d".toList

def separatorLine : Text := '{' :: "\"record_kind\":\"object\",".toList ++ separatorMembers

def separatorJsonLines : Text := joinJsonLines [separatorManifestLine, separatorLine] true

/-- Both are encodings of the same object. -/
theorem separatorSources_encode : (∀ object ∈ [separatorObject], WellFormedObject object) ∧
    EncodesJson separatorManifest [separatorObject] separatorJson ∧
    EncodesJsonLines separatorManifest [separatorObject] separatorManifestLine [separatorLine] := by
  refine ⟨fun object hobject => ?_, ⟨separatorManifest.entries ++ [(key "objects", .arr [.obj separatorObject])],
    ?_, List.perm_append_singleton _ _⟩, fun line hline => ?_, ⟨_, ?_, List.Perm.refl _⟩,
    .cons ⟨(key "record_kind", .str (key "object")) :: separatorObject, ?_, [], _, rfl, rfl⟩ .nil⟩
  · rw [List.mem_singleton.1 hobject]
    exact ⟨by decide +kernel, exists_of_isOk (by decide +kernel)⟩
  · unfold Decodes
    decide +kernel
  · rcases List.mem_cons.1 hline with rfl | hline
    · exact ⟨by decide +kernel, ⟨separatorManifestLine.dropLast, by decide +kernel⟩,
        by decide +kernel⟩
    · rw [List.mem_singleton.1 hline]
      exact ⟨by decide +kernel, ⟨separatorLine.dropLast, by decide +kernel⟩, by decide +kernel⟩
  · unfold Decodes
    decide +kernel
  · unfold Decodes
    decide +kernel

theorem readBytes_separatorSources :
    genericStager.readBytes (encodeUtf8 separatorJson) .json = .ok separatorJson ∧
      genericStager.readBytes (encodeUtf8 separatorJsonLines) .jsonl = .ok separatorJsonLines := by
  constructor
  · rw [Stager.readBytes, size_encodeUtf8, decodeUtf8_encodeUtf8]
    decide +kernel
  · rw [Stager.readBytes, size_encodeUtf8, decodeUtf8_encodeUtf8]
    decide +kernel

/-- The document has one object and the lines have two. -/
theorem total_separatorSources :
    (genericStager.stage (encodeUtf8 separatorJson) .json genericBatch).map
        (fun result => result.mappingReport.counts.total) = .ok 1 ∧
      (genericStager.stage (encodeUtf8 separatorJsonLines) .jsonl genericBatch).map
        (fun result => result.mappingReport.counts.total) = .ok 2 := by
  constructor
  · rw [Stager.stage, readBytes_separatorSources.1]
    decide +kernel
  · rw [Stager.stage, readBytes_separatorSources.2]
    decide +kernel

theorem stage_jsonLines_lineSeparator :
    (∀ object ∈ [separatorObject], WellFormedObject object) ∧
      EncodesJson separatorManifest [separatorObject] separatorJson ∧
      EncodesJsonLines separatorManifest [separatorObject] separatorManifestLine
        [separatorLine] ∧
      ∃ result result',
        genericStager.stage (encodeUtf8 separatorJson) .json genericBatch = .ok result ∧
        genericStager.stage (encodeUtf8 (joinJsonLines [separatorManifestLine, separatorLine] true))
          .jsonl genericBatch = .ok result' ∧
        result'.content ≠ result.content := by
  obtain ⟨hwellFormed, hjson, hjsonLines⟩ := separatorSources_encode
  obtain ⟨result, hresult, htotal⟩ := map_eq_ok.1 total_separatorSources.1
  obtain ⟨result', hresult', htotal'⟩ := map_eq_ok.1 total_separatorSources.2
  refine ⟨hwellFormed, hjson, hjsonLines, result, result', hresult, hresult', fun hcontent => ?_⟩
  have hcounts : result'.mappingReport.counts = result.mappingReport.counts :=
    congrArg (fun content => content.2.2.1) hcontent
  rw [hcounts, htotal] at htotal'
  cases htotal'

theorem stage_jsonLines_iff_lineSeparator :
    ∃ result, genericStager.stage (encodeUtf8 separatorJson) .json genericBatch = .ok result ∧
      ((∃ result', genericStager.stage
          (encodeUtf8 (joinJsonLines [separatorManifestLine, separatorLine] true)) .jsonl
          genericBatch = .ok result' ∧ result'.content = result.content) ↔
        ∀ line ∈ [separatorManifestLine, separatorLine], Unbroken line) := by
  obtain ⟨hwellFormed, hjson, hjsonLines⟩ := separatorSources_encode
  obtain ⟨result, hresult, -⟩ := map_eq_ok.1 total_separatorSources.1
  exact ⟨result, hresult, (stage_jsonLines_iff hwellFormed hjson hjsonLines readBytes_separatorSources.1
    readBytes_separatorSources.2).2 result hresult⟩

end Runs

end DollState.Import
