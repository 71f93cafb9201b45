import DollState.LocalCsv.Table
import DollState.Library.Assoc

/-!
# What a transformation writes

The output of `transform_local_csv`, put in a file and read again. A name that a column is given is not
checked as the text of a file is, a first name may be taken for a byte order mark, and the writer may
leave a `\r` without quotes: apart from these the table that is read is the table that was written.
-/

namespace DollState.LocalCsv

open StateLib Import Search

/-! ## Bytes -/

/-- `"\ufeff"`, which is encoded as the byte order mark. -/
def bomChar : Char := Char.ofNat 0xFEFF

theorem encodeUtf8_eq (text : Text) : encodeUtf8 text = text.utf8Encode := String.toByteArray_ofList

theorem utf8Bom_eq : utf8Bom = [bomChar].utf8Encode := by decide

theorem contentOf_encodeUtf8_cons (text : Text) :
    contentOf (encodeUtf8 (bomChar :: text)) = encodeUtf8 text := by
  have hencode : encodeUtf8 (bomChar :: text) = utf8Bom ++ encodeUtf8 text := by
    rw [encodeUtf8_eq, encodeUtf8_eq, utf8Bom_eq, ← List.utf8Encode_append]
    rfl
  have hmark : (utf8Bom ++ encodeUtf8 text).extract 0 3 = utf8Bom :=
    ByteArray.extract_append_eq_left rfl
  rw [contentOf, hencode, if_pos hmark]
  exact ByteArray.extract_append_eq_right rfl ByteArray.size_append

theorem contentOf_encodeUtf8 {text : Text} (h : text.head? ≠ some bomChar) :
    contentOf (encodeUtf8 text) = encodeUtf8 text := by
  refine if_neg fun hmark => h ?_
  have hsize : 3 ≤ (encodeUtf8 text).size := by
    have hthree := congrArg ByteArray.size hmark
    rw [ByteArray.size_extract] at hthree
    change _ = 3 at hthree
    omega
  have hsplit := ByteArray.extract_eq_extract_append_extract (a := encodeUtf8 text) 3 (Nat.zero_le 3) hsize
  rw [ByteArray.extract_zero_size, hmark, encodeUtf8_eq, utf8Bom_eq] at hsplit
  obtain ⟨rest, rfl⟩ := List.isPrefix_of_utf8Encode_append_eq_utf8Encode _ hsplit.symm
  rfl

/-! ## Tables -/

/-- What the headers and rows of a table that is accepted are. -/
structure Tabular (headers : List Text) (rows : List (List Text)) : Prop where
  nonempty : headers ≠ []
  named : ∀ header ∈ headers, strip header ≠ [] ∧ header.length ≤ maxCellCharacters
  nodup : headers.Nodup
  columns : headers.length ≤ maxColumns
  rowCount : rows.length ≤ maxRows
  rectangular : ∀ row ∈ rows, row.length = headers.length
  cells : ∀ row ∈ rows, ∀ cell ∈ row, cell.length ≤ maxCellCharacters
  aggregate : (Csv.characters (headers :: rows)).length ≤ maxAggregateCharacters

theorem foldlM_validateHeader (headers : List Text) : ∀ seen : List Text,
    (∃ seen', headers.foldlM validateHeader seen = .ok seen') ↔
      (∀ header ∈ headers, strip header ≠ [] ∧ header.length ≤ maxCellCharacters) ∧
        headers.Nodup ∧ ∀ header ∈ headers, header ∉ seen := by
  induction headers with
  | nil =>
    intro seen
    exact ⟨fun _ => by simp, fun _ => ⟨seen, rfl⟩⟩
  | cons header headers ih =>
    intro seen
    have hstep (seen' : List Text) : validateHeader seen header = .ok seen' ↔
        (strip header ≠ [] ∧ header.length ≤ maxCellCharacters) ∧ header ∉ seen ∧
          header :: seen = seen' := by
      rw [validateHeader, check_bind_eq_ok, check_bind_eq_ok, check_bind_eq_ok, ensure_eq_ok, ensure_eq_ok,
        ensure_eq_ok, pure_eq_ok, and_assoc]
    rw [List.foldlM_cons]
    constructor
    · rintro ⟨seen', h⟩
      obtain ⟨seen₁, hheader, hrest⟩ := bind_eq_ok.1 h
      obtain ⟨hnamed, hnew, rfl⟩ := (hstep seen₁).1 hheader
      obtain ⟨hall, hnodup, hunseen⟩ := (ih _).1 ⟨seen', hrest⟩
      refine ⟨List.forall_mem_cons.2 ⟨hnamed, hall⟩, List.nodup_cons.2 ⟨fun hmem => ?_, hnodup⟩,
        List.forall_mem_cons.2 ⟨hnew, fun other hother hmem => ?_⟩⟩
      · exact hunseen header hmem List.mem_cons_self
      · exact hunseen other hother (List.mem_cons_of_mem _ hmem)
    · rintro ⟨hall, hnodup, hunseen⟩
      obtain ⟨hnamed, hall⟩ := List.forall_mem_cons.1 hall
      obtain ⟨hnotin, hnodup⟩ := List.nodup_cons.1 hnodup
      obtain ⟨hnew, hunseen⟩ := List.forall_mem_cons.1 hunseen
      rw [(hstep _).2 ⟨hnamed, hnew, rfl⟩, ok_bind]
      refine (ih _).2 ⟨hall, hnodup, fun other hother hmem => ?_⟩
      rcases List.mem_cons.1 hmem with rfl | hmem
      · exact hnotin hother
      · exact hunseen other hother hmem

theorem validateHeaders_eq_ok {headers : List Text} :
    validateHeaders headers = .ok () ↔ headers ≠ [] ∧
      (∀ header ∈ headers, strip header ≠ [] ∧ header.length ≤ maxCellCharacters) ∧ headers.Nodup := by
  have hloop := foldlM_validateHeader headers []
  rw [validateHeaders, check_bind_eq_ok, ensure_eq_ok, bind_eq_ok]
  refine and_congr_right fun _ => ⟨fun ⟨seen, hseen, _⟩ => ?_, fun ⟨hnamed, hnodup⟩ => ?_⟩
  · obtain ⟨hnamed, hnodup, -⟩ := hloop.1 ⟨seen, hseen⟩
    exact ⟨hnamed, hnodup⟩
  · obtain ⟨seen, hseen⟩ := hloop.2 ⟨hnamed, hnodup, fun _ _ => List.not_mem_nil⟩
    exact ⟨seen, hseen, rfl⟩

/-- The aggregate of a row, if the limit is not reached. -/
theorem foldlM_addCell {aggregate : ℕ} (haggregate : aggregate ≤ maxAggregateCharacters)
    (row : List Text) : ∀ before : ℕ, row.foldlM addCell before = .ok aggregate ↔
      (∀ cell ∈ row, cell.length ≤ maxCellCharacters) ∧ before + row.flatten.length = aggregate := by
  induction row with
  | nil =>
    intro before
    rw [List.foldlM_nil, pure_eq_ok]
    simp
  | cons cell row ih =>
    intro before
    rw [List.foldlM_cons, List.forall_mem_cons, List.flatten_cons, List.length_append, ← Nat.add_assoc,
      addCell, bind_assoc, check_bind_eq_ok, bind_assoc, check_bind_eq_ok, ensure_eq_ok, ensure_eq_ok,
      pure_bind, ih, and_assoc]
    refine and_congr_right fun _ => ⟨And.right, fun h => ⟨?_, h⟩⟩
    omega

theorem foldlM_addRow {aggregate columns : ℕ} (haggregate : aggregate ≤ maxAggregateCharacters)
    (rows : List (List Text)) : ∀ before : ℕ, rows.foldlM (addRow columns) before = .ok aggregate ↔
      (∀ row ∈ rows, row.length = columns ∧ ∀ cell ∈ row, cell.length ≤ maxCellCharacters) ∧
        before + (Csv.characters rows).length = aggregate := by
  induction rows with
  | nil =>
    intro before
    rw [List.foldlM_nil, pure_eq_ok]
    simp [Csv.characters]
  | cons row rows ih =>
    intro before
    have hlength : (Csv.characters (row :: rows)).length =
        row.flatten.length + (Csv.characters rows).length := by
      simp [Csv.characters]
    rw [List.foldlM_cons, List.forall_mem_cons, hlength, ← Nat.add_assoc, bind_eq_ok]
    constructor
    · rintro ⟨middle, hrow, hrows⟩
      obtain ⟨hall, hsum⟩ := (ih middle).1 hrows
      obtain ⟨hcolumns, hcells⟩ := check_bind_eq_ok.1 hrow
      obtain ⟨hlimit, hmiddle⟩ := (foldlM_addCell (by omega) row before).1 hcells
      exact ⟨⟨⟨ensure_eq_ok.1 hcolumns, hlimit⟩, hall⟩, by omega⟩
    · rintro ⟨⟨⟨hcolumns, hlimit⟩, hall⟩, hsum⟩
      refine ⟨before + row.flatten.length, ?_, (ih _).2 ⟨hall, hsum⟩⟩
      rw [addRow, check_bind_eq_ok]
      exact ⟨ensure_of hcolumns _, (foldlM_addCell (by omega) row before).2 ⟨hlimit, rfl⟩⟩

section

variable [UnicodeLibrary] [CsvLibrary]

omit [UnicodeLibrary] in
theorem parseCsv_eq_ok {text : Text} {profile : DelimiterProfile} {headers : List Text}
    {rows : List (List Text)} {aggregate : ℕ} (haggregate : aggregate ≤ maxAggregateCharacters) :
    parseCsv text profile = .ok (headers, rows, aggregate) ↔
      Csv.read profile.dialect text = .ok (headers :: rows) ∧ Tabular headers rows ∧
        aggregate = (Csv.characters (headers :: rows)).length := by
  have hlength : (Csv.characters (headers :: rows)).length =
      (headers.map List.length).sum + (Csv.characters rows).length := by
    simp [Csv.characters]
  have hchecks : (do
      validateHeaders headers
      ensure (headers.length ≤ maxColumns) (.validation "local CSV exceeds the column limit")
      ensure (rows.length ≤ maxRows) (.validation "local CSV exceeds the row limit")
      let aggregate ← rows.foldlM (addRow headers.length) (headers.map List.length).sum
      return (headers, rows, aggregate)) = .ok (headers, rows, aggregate) ↔
        Tabular headers rows ∧ aggregate = (Csv.characters (headers :: rows)).length := by
    rw [check_bind_eq_ok, check_bind_eq_ok, check_bind_eq_ok, validateHeaders_eq_ok, ensure_eq_ok,
      ensure_eq_ok, hlength]
    constructor
    · rintro ⟨⟨hnonempty, hnamed, hnodup⟩, hcolumns, hcount, h⟩
      obtain ⟨total, hloop, hresult⟩ := bind_eq_ok.1 h
      cases hresult
      obtain ⟨hrows, hsum⟩ := (foldlM_addRow haggregate rows _).1 hloop
      exact ⟨⟨hnonempty, hnamed, hnodup, hcolumns, hcount, fun row hrow => (hrows row hrow).1,
        fun row hrow => (hrows row hrow).2, by omega⟩, hsum.symm⟩
    · rintro ⟨htable, rfl⟩
      refine ⟨⟨htable.nonempty, htable.named, htable.nodup⟩, htable.columns, htable.rowCount, ?_⟩
      rw [(foldlM_addRow haggregate rows _).2
        ⟨fun row hrow => ⟨htable.rectangular row hrow, htable.cells row hrow⟩, rfl⟩]
      rfl
  rw [parseCsv, bind_eq_ok]
  constructor
  · rintro ⟨parsed, hparsed, h⟩
    cases parsed with
    | nil => cases h
    | cons headers' rows' =>
      have hread : Csv.read profile.dialect text = .ok (headers' :: rows') := by
        cases hresult : Csv.read profile.dialect text with
        | error e => rw [hresult] at hparsed; cases hparsed
        | ok table => rw [hresult] at hparsed; cases hparsed; rfl
      have hsame : headers' = headers ∧ rows' = rows := by
        obtain ⟨-, h⟩ := check_bind_eq_ok.1 h
        obtain ⟨-, h⟩ := check_bind_eq_ok.1 h
        obtain ⟨-, h⟩ := check_bind_eq_ok.1 h
        obtain ⟨total, -, hresult⟩ := bind_eq_ok.1 h
        cases hresult
        exact ⟨rfl, rfl⟩
      obtain ⟨rfl, rfl⟩ := hsame
      exact ⟨hread, hchecks.1 h⟩
  · rintro ⟨hread, h⟩
    exact ⟨headers :: rows, by rw [hread]; rfl, hchecks.2 h⟩

omit [UnicodeLibrary] [CsvLibrary] in
theorem validateText_eq_ok {text : Text} : validateText text = .ok () ↔ ∀ c ∈ text, ¬ Prohibited c := by
  rw [validateText, check_bind_eq_ok, ensure_eq_ok, forEach_eq_ok]
  constructor
  · exact fun h c hc => ensure_eq_ok.1 (h.2 c hc)
  · exact fun h => ⟨fun hnul => h _ hnul (.inl (by decide)), fun c hc => ensure_of (h c hc) _⟩

omit [UnicodeLibrary] in
/-- The headers and rows of the table of some bytes. -/
theorem exists_tableOf_iff {raw : ByteArray} {profile : DelimiterProfile} {headers : List Text}
    {rows : List (List Text)} :
    (∃ table, tableOf profile raw = .ok table ∧ table.headers = headers ∧ table.rows = rows) ↔
      ∃ text, decodeUtf8 (contentOf raw) = some text ∧ (∀ c ∈ text, ¬ Prohibited c) ∧
        Csv.read profile.dialect text = .ok (headers :: rows) ∧ Tabular headers rows := by
  constructor
  · rintro ⟨table, h, rfl, rfl⟩
    obtain ⟨text, htext, h⟩ := bind_eq_ok.1 h
    obtain ⟨hvalid, h⟩ := check_bind_eq_ok.1 h
    obtain ⟨⟨headers, rows, aggregate⟩, hparsed, h⟩ := bind_eq_ok.1 h
    obtain ⟨haggregate, h⟩ := check_bind_eq_ok.1 h
    cases h
    obtain ⟨hread, htable, -⟩ := (parseCsv_eq_ok (ensure_eq_ok.1 haggregate)).1 hparsed
    exact ⟨text, orFail_eq_ok.1 htext, validateText_eq_ok.1 hvalid, hread, htable⟩
  · rintro ⟨text, htext, hvalid, hread, htable⟩
    have hparsed := (parseCsv_eq_ok htable.aggregate).2 ⟨hread, htable, rfl⟩
    rw [tableOf, htext, orFail, ok_bind, validateText_eq_ok.2 hvalid, ok_bind, hparsed, ok_bind]
    dsimp only
    rw [ensure_of htable.aggregate, ok_bind]
    exact ⟨_, rfl, rfl, rfl⟩

/-! ## The file that is read again -/

/-- A regular CSV file of the text, that does not change. -/
structure SourceFile.Holds (file : SourceFile) (text : Text) (state : FileState) : Prop where
  suffix : casefold file.suffix = ".csv".toList
  opens : file.opens = true
  content : file.content = some (encodeUtf8 text)
  size : state.size = (encodeUtf8 text).size
  beforePath : file.beforePath = .regular state
  beforeHandle : file.beforeHandle = .regular state
  afterHandle : file.afterHandle = .regular state
  afterPath : file.afterPath = .regular state

omit [CsvLibrary] in
theorem readStable_of_holds {file : SourceFile} {text : Text} {state : FileState}
    (h : file.Holds text state) (hsize : (encodeUtf8 text).size ≤ maxSourceBytes) :
    readStable file = .ok (encodeUtf8 text) := by
  have hraw : (encodeUtf8 text).extract 0 (maxSourceBytes + 1) = encodeUtf8 text := by
    rw [← ByteArray.extract_zero_size (b := encodeUtf8 text), ByteArray.extract_extract]
    congr 1
    omega
  have hidentity : sameIdentity state state = true := by simp [sameIdentity]
  have hstable : stableRead state state state state = true := by simp [stableRead, hidentity]
  rw [readStable, ensure_of h.suffix, ok_bind, h.beforePath, pathState, ok_bind,
    ensure_of (h.size ▸ hsize), ok_bind, ensure_of h.opens, ok_bind, h.beforeHandle, handleState, ok_bind,
    ensure_of hidentity, ok_bind, h.content, orFail, ok_bind, h.afterHandle, handleState, ok_bind,
    ensure_of (hraw.symm ▸ hsize), ok_bind, h.afterPath, pathState, ok_bind, ensure_of hstable, ok_bind, hraw]
  rfl

/-- The cell of a row under a header. -/
def cellOf (headers row : List Text) (header : Text) : Option Text := (headers.zip row).lookup header

/-- The file is read as the headers of the transformation and the selected cells of its source. -/
def Rereads (written : SourceFile) (delimiterProfile : Text) (t : LocalCsvTransformation) : Prop :=
  ∃ table, readLocalCsv written delimiterProfile = .ok table ∧ table.headers = t.outputHeaders ∧
    table.rows.map (fun row => row.map some) =
      t.source.rows.map fun row => t.selectedSourceHeaders.map (cellOf t.source.headers row)

/-- The headers that are selected. -/
def chosen (table : LocalCsvTable) (selectedColumns : List Text) : List Text :=
  if selectedColumns = [] then table.headers else selectedColumns

/-- No new name has a control character that a file may not have, a first name that starts with a byte
order mark is in quotes, and so is each name and each cell with a `\r`. -/
structure Survives (table : LocalCsvTable) (selected : List Text) (renames : HeaderRenames) : Prop where
  renamed : ∀ entry ∈ renames.entries, ∀ c ∈ entry.2, ¬ Prohibited c
  mark : ∀ header ∈ selected.head?, (renames.get header).head? = some bomChar →
    Csv.quoted table.delimiterProfile.dialect (renames.get header) = true
  names : ∀ header ∈ selected, Csv.Safe table.delimiterProfile.dialect (renames.get header)
  cells : ∀ row ∈ table.rows, ∀ header ∈ selected, ∀ cell ∈ cellOf table.headers row header,
    Csv.Safe table.delimiterProfile.dialect cell

/-! ## The transformation -/

/-- The rows that are written. -/
def outputRows (table : LocalCsvTable) (selected : List Text) : List (List Text) :=
  table.rows.map fun row =>
    (selected.map fun header => table.headers.idxOf header).map fun index => row.getD index []

omit [UnicodeLibrary] [CsvLibrary] in
theorem cellOf_eq {header : Text} (headers : List Text) (h : header ∈ headers) :
    ∀ row : List Text, row.length = headers.length →
      cellOf headers row header = some (row.getD (headers.idxOf header) []) := by
  induction headers with
  | nil => cases h
  | cons first headers ih =>
    intro row hlength
    cases row with
    | nil => cases hlength
    | cons cell row =>
      rw [cellOf, List.zip_cons_cons, List.lookup_cons]
      by_cases hfirst : header = first
      · subst hfirst
        simp
      · rw [beq_eq_false_iff_ne.2 hfirst, List.idxOf_cons_ne _ (Ne.symm hfirst), List.getD_cons_succ]
        exact ih ((List.mem_cons.1 h).resolve_left hfirst) row (Nat.succ.inj hlength)

omit [UnicodeLibrary] [CsvLibrary] in
theorem map_some_outputRows {table : LocalCsvTable} {selected : List Text}
    (htable : Tabular table.headers table.rows) (hselected : ∀ header ∈ selected, header ∈ table.headers) :
    (outputRows table selected).map (fun row => row.map some) =
      table.rows.map fun row => selected.map (cellOf table.headers row) := by
  rw [outputRows, List.map_map]
  refine List.map_congr_left fun row hrow => ?_
  rw [Function.comp_apply, List.map_map, List.map_map]
  exact List.map_congr_left fun header hheader =>
    (cellOf_eq table.headers (hselected header hheader) row (htable.rectangular row hrow)).symm

omit [UnicodeLibrary] [CsvLibrary] in
/-- A cell that is written is a cell of the table. -/
theorem mem_outputRows {table : LocalCsvTable} {selected : List Text}
    (htable : Tabular table.headers table.rows) (hselected : ∀ header ∈ selected, header ∈ table.headers)
    {row : List Text} (hrow : row ∈ outputRows table selected) {cell : Text} (hcell : cell ∈ row) :
    ∃ source ∈ table.rows, cell ∈ source ∧ ∃ header ∈ selected, cellOf table.headers source header = some cell := by
  obtain ⟨source, hsource, rfl⟩ := List.mem_map.1 hrow
  rw [List.map_map] at hcell
  obtain ⟨header, hheader, rfl⟩ := List.mem_map.1 hcell
  have hfound := cellOf_eq table.headers (hselected header hheader) source (htable.rectangular source hsource)
  exact ⟨source, hsource, (List.of_mem_zip (mem_of_lookup hfound)).2, header, hheader, hfound⟩

/-- What an accepted transformation is. -/
structure Transforms (table : LocalCsvTable) (selected : List Text) (renames : HeaderRenames)
    (t : LocalCsvTransformation) : Prop where
  source : t.source = table
  selectedHeaders : t.selectedSourceHeaders = selected
  outputHeaders : t.outputHeaders = selected.map renames.get
  outputCsv : t.outputCsv =
    Csv.writeRows table.delimiterProfile.dialect (selected.map renames.get :: outputRows table selected)
  byteCount : t.outputByteCount = (encodeUtf8 t.outputCsv).size
  columns : selected.length ≤ maxColumns ∨ selected = table.headers
  inTable : ∀ header ∈ selected, header ∈ table.headers
  targets : ∀ entry ∈ renames.entries, entry.1 ∈ selected ∧ strip entry.2 ≠ [] ∧
    entry.2.length ≤ maxCellCharacters
  nodup : (selected.map renames.get).Nodup

omit [UnicodeLibrary] [CsvLibrary] in
theorem selectedHeaders_eq_ok {table : LocalCsvTable} {columns selected : List Text}
    (h : selectedHeaders table.headers columns = .ok selected) : selected = chosen table columns ∧
      (selected.length ≤ maxColumns ∨ selected = table.headers) ∧ ∀ header ∈ selected, header ∈ table.headers := by
  rw [selectedHeaders] at h
  rw [chosen]
  split_ifs at h ⊢
  · cases h
    exact ⟨rfl, .inr rfl, fun _ hheader => hheader⟩
  · obtain ⟨hlength, h⟩ := check_bind_eq_ok.1 h
    obtain ⟨-, h⟩ := check_bind_eq_ok.1 h
    obtain ⟨hall, h⟩ := check_bind_eq_ok.1 h
    cases h
    exact ⟨rfl, .inl (ensure_eq_ok.1 hlength), ensure_eq_ok.1 hall⟩

theorem transforms_of_ok {file : SourceFile} {delimiterProfile : Text} {columns : List Text}
    {renames : HeaderRenames} {table : LocalCsvTable} {t : LocalCsvTransformation}
    (htable : readLocalCsv file delimiterProfile = .ok table)
    (h : transformLocalCsv file delimiterProfile columns renames = .ok t) :
    Transforms table (chosen table columns) renames t := by
  rw [transformLocalCsv, htable, ok_bind] at h
  obtain ⟨selected, hselected, h⟩ := bind_eq_ok.1 h
  obtain ⟨rfl, hcolumns, hall⟩ := selectedHeaders_eq_ok hselected
  obtain ⟨result, hresult, h⟩ := bind_eq_ok.1 h
  obtain ⟨-, hresult⟩ := check_bind_eq_ok.1 hresult
  obtain ⟨htargets, hresult⟩ := check_bind_eq_ok.1 hresult
  obtain ⟨hnodup, hresult⟩ := check_bind_eq_ok.1 hresult
  cases hresult
  cases h
  refine ⟨rfl, rfl, rfl, rfl, rfl, hcolumns, hall, fun entry hentry => ?_, ensure_eq_ok.1 hnodup⟩
  have hentry := forEach_eq_ok.1 htargets entry hentry
  obtain ⟨hsource, hentry⟩ := check_bind_eq_ok.1 hentry
  obtain ⟨hblank, hlength⟩ := check_bind_eq_ok.1 hentry
  exact ⟨ensure_eq_ok.1 hsource, ensure_eq_ok.1 hblank, ensure_eq_ok.1 hlength⟩

/-- The table of a file that is read. -/
theorem tableOf_of_read {file : SourceFile} {delimiterProfile : Text} {table : LocalCsvTable}
    (h : readLocalCsv file delimiterProfile = .ok table) :
    delimiterOf delimiterProfile = .ok table.delimiterProfile ∧ Tabular table.headers table.rows ∧
      ∀ row ∈ table.headers :: table.rows, ∀ cell ∈ row, ∀ c ∈ cell, ¬ Prohibited c := by
  obtain ⟨profile, hprofile, h⟩ := bind_eq_ok.1 h
  obtain ⟨raw, -, h⟩ := bind_eq_ok.1 h
  obtain ⟨text, -, hvalid, hread, htable⟩ := exists_tableOf_iff.1 ⟨table, h, rfl, rfl⟩
  have hprofileEq : table.delimiterProfile = profile := by
    obtain ⟨_, -, h⟩ := bind_eq_ok.1 h
    obtain ⟨-, h⟩ := check_bind_eq_ok.1 h
    obtain ⟨_, -, h⟩ := bind_eq_ok.1 h
    obtain ⟨-, h⟩ := check_bind_eq_ok.1 h
    cases h
    rfl
  refine ⟨hprofileEq ▸ hprofile, htable, fun row hrow cell hcell c hc => hvalid c ?_⟩
  exact (Csv.sublist_of_read hread).subset (Csv.mem_characters.2 ⟨row, hrow, cell, hcell, hc⟩)

/-! ## The output -/

omit [UnicodeLibrary] [CsvLibrary] in
theorem HeaderRenames.get_of_mem {renames : HeaderRenames} {entry : Text × Text}
    (h : entry ∈ renames.entries) : renames.get entry.1 = entry.2 := by
  rw [HeaderRenames.get, lookup_of_nodup renames.nodup h]
  rfl

omit [UnicodeLibrary] [CsvLibrary] in
/-- A name that is not new is that of the table. -/
theorem HeaderRenames.get_cases (renames : HeaderRenames) (header : Text) :
    renames.get header = header ∨ ∃ entry ∈ renames.entries, renames.get header = entry.2 := by
  rw [HeaderRenames.get]
  cases hlookup : renames.entries.lookup header with
  | none => exact .inl rfl
  | some target => exact .inr ⟨(header, target), mem_of_lookup hlookup, rfl⟩

omit [UnicodeLibrary] [CsvLibrary] in
theorem Prohibited.ne {c : Char} (h : Prohibited c) (profile : DelimiterProfile) :
    c ≠ profile.delimiter ∧ c ≠ '"' ∧ c ≠ '\n' := by
  refine ⟨?_, ?_, ?_⟩
  · rintro rfl
    cases profile <;> exact absurd h (by decide)
  · rintro rfl
    exact absurd h (by decide)
  · rintro rfl
    exact absurd h (by decide)

section

variable {table : LocalCsvTable} {selected : List Text} {renames : HeaderRenames} {t : LocalCsvTransformation}

omit [UnicodeLibrary] in
theorem Transforms.named (h : Transforms table selected renames t) (htable : Tabular table.headers table.rows) :
    ∀ header ∈ selected.map renames.get, strip header ≠ [] ∧ header.length ≤ maxCellCharacters := by
  intro name hname
  obtain ⟨header, hheader, rfl⟩ := List.mem_map.1 hname
  rcases renames.get_cases header with hsame | ⟨entry, hentry, hnew⟩
  · rw [hsame]
    exact htable.named header (h.inTable header hheader)
  · rw [hnew]
    exact (h.targets entry hentry).2

omit [UnicodeLibrary] in
theorem Transforms.cells (h : Transforms table selected renames t) (htable : Tabular table.headers table.rows) :
    ∀ row ∈ outputRows table selected, ∀ cell ∈ row, cell.length ≤ maxCellCharacters := by
  intro row hrow cell hcell
  obtain ⟨source, hsource, hmem, -⟩ := mem_outputRows htable h.inTable hrow hcell
  exact htable.cells source hsource cell hmem

omit [UnicodeLibrary] in
/-- The output is within the limits of the table, if its bytes are within those of a file. -/
theorem Transforms.tabular (h : Transforms table selected renames t) (hne : selected ≠ [])
    (htable : Tabular table.headers table.rows) (hsize : t.outputByteCount ≤ maxSourceBytes) :
    Tabular (selected.map renames.get) (outputRows table selected) where
  nonempty := fun hnil => hne (List.map_eq_nil_iff.1 hnil)
  named := h.named htable
  nodup := h.nodup
  columns := by
    rw [List.length_map]
    rcases h.columns with hcolumns | hall
    · exact hcolumns
    · exact hall ▸ htable.columns
  rowCount := by
    rw [outputRows, List.length_map]
    exact htable.rowCount
  rectangular := by
    intro row hrow
    obtain ⟨source, -, rfl⟩ := List.mem_map.1 hrow
    simp
  cells := h.cells htable
  aggregate := by
    have hlength : ∀ text : Text, text.length ≤ utf8Length text := by
      intro text
      induction text with
      | nil => exact Nat.le_refl _
      | cons c text ih =>
        have hpos := Char.utf8Size_pos c
        rw [utf8Length, List.map_cons, List.sum_cons, List.length_cons]
        rw [utf8Length] at ih
        omega
    have hwritten := (Csv.sublist_writeRows (d := table.delimiterProfile.dialect)
      (selected.map renames.get :: outputRows table selected)).length_le
    rw [← h.outputCsv] at hwritten
    rw [h.byteCount, size_encodeUtf8] at hsize
    have hlimits : maxSourceBytes ≤ maxAggregateCharacters := by decide
    exact hwritten.trans ((hlength _).trans (hsize.trans hlimits))

omit [UnicodeLibrary] in
/-- The only control characters of the output that a file may not have are those of the new names. -/
theorem Transforms.prohibited_iff (h : Transforms table selected renames t)
    (htable : Tabular table.headers table.rows)
    (hsource : ∀ row ∈ table.headers :: table.rows, ∀ cell ∈ row, ∀ c ∈ cell, ¬ Prohibited c) :
    (∀ c ∈ t.outputCsv, ¬ Prohibited c) ↔ ∀ entry ∈ renames.entries, ∀ c ∈ entry.2, ¬ Prohibited c := by
  have hmem {c : Char} (hc : Prohibited c) : c ∈ t.outputCsv ↔
      ∃ row ∈ selected.map renames.get :: outputRows table selected, ∃ f ∈ row, c ∈ f := by
    obtain ⟨hdelimiter, hquote, hnewline⟩ := hc.ne table.delimiterProfile
    rw [h.outputCsv]
    exact Csv.mem_writeRows hdelimiter hquote hnewline
  constructor
  · intro hall entry hentry c hc hprohibited
    have hname : entry.2 ∈ selected.map renames.get :=
      List.mem_map.2 ⟨entry.1, (h.targets entry hentry).1, HeaderRenames.get_of_mem hentry⟩
    exact hall c ((hmem hprohibited).2 ⟨_, List.mem_cons_self, entry.2, hname, hc⟩) hprohibited
  · intro hnames c hc hprohibited
    obtain ⟨row, hrow, cell, hcell, hc⟩ := (hmem hprohibited).1 hc
    rcases List.mem_cons.1 hrow with rfl | hrow
    · obtain ⟨header, hheader, rfl⟩ := List.mem_map.1 hcell
      rcases renames.get_cases header with hsame | ⟨entry, hentry, hnew⟩
      · rw [hsame] at hc
        exact hsource _ List.mem_cons_self header (h.inTable header hheader) c hc hprohibited
      · rw [hnew] at hc
        exact hnames entry hentry c hc hprohibited
    · obtain ⟨source, hrow, hmemCell, -⟩ := mem_outputRows htable h.inTable hrow hcell
      exact hsource source (List.mem_cons_of_mem _ hrow) cell hmemCell c hc hprohibited

omit [UnicodeLibrary] in
/-- The output starts with a byte order mark exactly if its first name does, and is not in quotes. -/
theorem Transforms.mark_iff (h : Transforms table selected renames t) (hne : selected ≠ [])
    (htable : Tabular table.headers table.rows) :
    t.outputCsv.head? ≠ some bomChar ↔ ∀ header ∈ selected.head?, (renames.get header).head? = some bomChar →
      Csv.quoted table.delimiterProfile.dialect (renames.get header) = true := by
  cases selected with
  | nil => exact absurd rfl hne
  | cons header rest =>
    have hname := (h.named htable (renames.get header) List.mem_cons_self).1
    rw [h.outputCsv, List.map_cons]
    cases hget : renames.get header with
    | nil => exact absurd (by rw [hget]; rfl) hname
    | cons c cs =>
      rw [Csv.head?_writeRows]
      have hmark : '"' ≠ bomChar := by decide
      cases hquoted : Csv.quoted table.delimiterProfile.dialect (c :: cs) with
      | true => simp [hget, hquoted, hmark]
      | false => simp [hget, hquoted]

omit [UnicodeLibrary] in
/-- The output is read as the rows that were written exactly if their fields are safe. -/
theorem Transforms.read_iff (h : Transforms table selected renames t) (hne : selected ≠ [])
    (htable : Tabular table.headers table.rows) :
    Csv.read table.delimiterProfile.dialect t.outputCsv =
        .ok (selected.map renames.get :: outputRows table selected) ↔
      (∀ header ∈ selected, Csv.Safe table.delimiterProfile.dialect (renames.get header)) ∧
        ∀ row ∈ table.rows, ∀ header ∈ selected, ∀ cell ∈ cellOf table.headers row header,
          Csv.Safe table.delimiterProfile.dialect cell := by
  have hlimit : maxCellCharacters ≤ fieldSizeLimit := by decide
  have hrows : ∀ row ∈ selected.map renames.get :: outputRows table selected, row ≠ [] := by
    refine List.forall_mem_cons.2 ⟨fun hnil => hne (List.map_eq_nil_iff.1 hnil), fun row hrow => ?_⟩
    obtain ⟨source, -, rfl⟩ := List.mem_map.1 hrow
    simpa using hne
  have hlimits : ∀ row ∈ selected.map renames.get :: outputRows table selected, ∀ f ∈ row,
      f.length ≤ fieldSizeLimit := by
    refine List.forall_mem_cons.2 ⟨fun f hf => (h.named htable f hf).2.trans hlimit, ?_⟩
    exact fun row hrow f hf => (h.cells htable row hrow f hf).trans hlimit
  rw [h.outputCsv, Csv.read_write_iff hrows hlimits, List.forall_mem_cons, List.forall_mem_map]
  refine and_congr_right fun _ => ⟨fun hsafe row hrow header hheader cell hcell => ?_,
    fun hsafe row hrow cell hcell => ?_⟩
  · have hfound := cellOf_eq table.headers (h.inTable header hheader) row (htable.rectangular row hrow)
    obtain rfl := Option.some.inj (hfound.symm.trans hcell)
    refine hsafe _ (List.mem_map_of_mem hrow) _ ?_
    rw [List.map_map]
    exact List.mem_map.2 ⟨header, hheader, rfl⟩
  · obtain ⟨source, hsource, -, header, hheader, hfound⟩ := mem_outputRows htable h.inTable hrow hcell
    exact hsafe source hsource header hheader cell hfound

end

omit [UnicodeLibrary] in
/-- Without its first byte order mark, which the reader removes, an output is read as another table. -/
theorem not_read_without_mark {profile : DelimiterProfile} {rows : List (List Text)} {text : Text}
    (h : Csv.writeRows profile.dialect rows = bomChar :: text) : Csv.read profile.dialect text ≠ .ok rows := by
  intro hread
  have hdelimiter : bomChar ≠ profile.delimiter := by cases profile <;> decide
  have hwritten := Csv.count_writeRows (d := profile.dialect) hdelimiter (by decide) (by decide) rows
  have hfields := (Csv.sublist_of_read hread).count_le bomChar
  rw [h, List.count_cons_self] at hwritten
  omega

/-- The output of a transformation is read as what was written exactly if its names and cells survive. -/
theorem Transforms.rereads_iff {file written : SourceFile} {delimiterProfile : Text} {selected : List Text}
    {headerRenames : HeaderRenames} {table : LocalCsvTable} {t : LocalCsvTransformation} {state : FileState}
    (ht : Transforms table selected headerRenames t) (hne : selected ≠ [])
    (hread : readLocalCsv file delimiterProfile = .ok table) (hwritten : written.Holds t.outputCsv state)
    (hsize : t.outputByteCount ≤ maxSourceBytes) :
    Rereads written delimiterProfile t ↔ Survives table selected headerRenames := by
  obtain ⟨hprofile, htable, hsource⟩ := tableOf_of_read hread
  have hstable := readStable_of_holds hwritten (ht.byteCount ▸ hsize)
  have hrows (rows : List (List Text)) : rows.map (fun row => row.map some) =
      t.source.rows.map (fun row => t.selectedSourceHeaders.map (cellOf t.source.headers row)) ↔
        rows = outputRows table selected := by
    have hinj : Function.Injective fun row : List Text => row.map some :=
      List.map_injective_iff.2 (Option.some_injective _)
    rw [ht.source, ht.selectedHeaders, ← map_some_outputRows htable ht.inTable]
    exact (List.map_injective_iff.2 hinj).eq_iff
  have hrereads : Rereads written delimiterProfile t ↔
      ∃ text, decodeUtf8 (contentOf (encodeUtf8 t.outputCsv)) = some text ∧ (∀ c ∈ text, ¬ Prohibited c) ∧
        Csv.read table.delimiterProfile.dialect text =
          .ok (selected.map headerRenames.get :: outputRows table selected) := by
    have htabular := ht.tabular hne htable hsize
    rw [Rereads, readLocalCsv, hprofile, ok_bind, hstable, ok_bind, ht.outputHeaders]
    simp only [hrows]
    rw [exists_tableOf_iff]
    simp only [htabular, and_true]
  rw [hrereads]
  by_cases hmark : t.outputCsv.head? = some bomChar
  · -- The mark is removed, and no table without it is the one that was written.
    obtain ⟨text, htext⟩ := List.head?_eq_some_iff.1 hmark
    rw [htext, contentOf_encodeUtf8_cons, decodeUtf8_encodeUtf8]
    constructor
    · rintro ⟨_, hfound, -, hread⟩
      cases hfound
      exact absurd hread (not_read_without_mark (ht.outputCsv ▸ htext))
    · exact fun h => absurd hmark ((ht.mark_iff hne htable).2 h.mark)
  · rw [contentOf_encodeUtf8 hmark, decodeUtf8_encodeUtf8]
    have hmarked := (ht.mark_iff hne htable).1 hmark
    constructor
    · rintro ⟨_, hfound, hvalid, hread⟩
      cases hfound
      obtain ⟨hnames, hcells⟩ := (ht.read_iff hne htable).1 hread
      exact ⟨(ht.prohibited_iff htable hsource).1 hvalid, hmarked, hnames, hcells⟩
    · intro h
      exact ⟨_, rfl, (ht.prohibited_iff htable hsource).2 h.renamed,
        (ht.read_iff hne htable).2 ⟨h.names, h.cells⟩⟩

/-- A transformation that is accepted is read again as the selected columns under their names exactly if
its names and cells survive. -/
theorem rereads_iff_survives {file written : SourceFile} {delimiterProfile : Text} {selectedColumns : List Text}
    {headerRenames : HeaderRenames} {table : LocalCsvTable} {t : LocalCsvTransformation} {state : FileState}
    (hread : readLocalCsv file delimiterProfile = .ok table)
    (htransform : transformLocalCsv file delimiterProfile selectedColumns headerRenames = .ok t)
    (hwritten : written.Holds t.outputCsv state) (hsize : t.outputByteCount ≤ maxSourceBytes) :
    Rereads written delimiterProfile t ↔ Survives table (chosen table selectedColumns) headerRenames := by
  have htable := (tableOf_of_read hread).2.1
  have hne : chosen table selectedColumns ≠ [] := by
    rw [chosen]
    split_ifs with hcolumns
    · exact htable.nonempty
    · exact hcolumns
  exact (transforms_of_ok hread htransform).rereads_iff hne hread hwritten hsize

end

/-! ## Runs -/

section Runs

/-- Texts without upper case, and a writer that does not quote a field for a `\r`. -/
@[reducible] def lowerCase : UnicodeLibrary := ⟨id, fun c => [c]⟩

@[reducible] def unquotedReturns : CsvLibrary := ⟨fun _ => [], false⟩

attribute [local instance] lowerCase unquotedReturns

def stateOf (text : Text) : FileState := ⟨1, 1, (encodeUtf8 text).size, 1⟩

def fileOf (text : Text) : SourceFile where
  suffix := ".csv".toList
  beforePath := .regular (stateOf text)
  opens := true
  beforeHandle := .regular (stateOf text)
  content := some (encodeUtf8 text)
  afterHandle := .regular (stateOf text)
  afterPath := .regular (stateOf text)

theorem holds_fileOf (text : Text) : (fileOf text).Holds text (stateOf text) where
  suffix := show casefold ".csv".toList = ".csv".toList by decide
  opens := rfl
  content := rfl
  size := rfl
  beforePath := rfl
  beforeHandle := rfl
  afterHandle := rfl
  afterPath := rfl

/-- One column. -/
def oneColumn : Text := ['a', '\n', '1', '\n']

def renameTo (name : Text) : HeaderRenames := ⟨[(['a'], name)], List.nodup_singleton _⟩

/-- The column under another name. -/
theorem exists_renameTo (name : Text) (hblank : strip name ≠ [])
    (hlength : name.length ≤ maxCellCharacters) :
    ∃ table t, readLocalCsv (fileOf oneColumn) "comma".toList = .ok table ∧
      transformLocalCsv (fileOf oneColumn) "comma".toList [] (renameTo name) = .ok t ∧
        Transforms table [['a']] (renameTo name) t ∧
          t.outputCsv = Csv.writeRows DelimiterProfile.comma.dialect [[name], [['1']]] := by
  have hstable : readStable (fileOf oneColumn) = .ok (encodeUtf8 oneColumn) :=
    readStable_of_holds (holds_fileOf _) (by rw [size_encodeUtf8]; decide)
  have htabular : Tabular [['a']] [[['1']]] := by
    constructor <;> decide
  have hprofile : delimiterOf "comma".toList = .ok .comma := by decide
  have hallowed : ∀ c ∈ oneColumn, ¬ Prohibited c := by
    have hall : oneColumn.all (fun c => ¬ Prohibited c) = true := by decide
    simpa using hall
  have hcsv : Csv.read DelimiterProfile.comma.dialect oneColumn = .ok [[['a']], [['1']]] := by decide
  have htext : decodeUtf8 (contentOf (encodeUtf8 oneColumn)) = some oneColumn := by
    rw [contentOf_encodeUtf8 (by decide), decodeUtf8_encodeUtf8]
  obtain ⟨table, htable, hheaders, hrows⟩ : ∃ table, tableOf .comma (encodeUtf8 oneColumn) = .ok table ∧
      table.headers = [['a']] ∧ table.rows = [[['1']]] :=
    exists_tableOf_iff.2 ⟨oneColumn, htext, hallowed, hcsv, htabular⟩
  have hread : readLocalCsv (fileOf oneColumn) "comma".toList = .ok table := by
    rw [readLocalCsv, hprofile, ok_bind, hstable, ok_bind, htable]
  have hchosen : chosen table [] = [['a']] := hheaders
  have hrenames : validatedRenames [['a']] (renameTo name) = .ok (renameTo name) := by
    have hentry : validateRename [['a']] (['a'], name) = .ok () := by
      rw [validateRename, ensure_of List.mem_cons_self, ok_bind, ensure_of hblank, ok_bind, ensure_of hlength]
    have hcount : (renameTo name).entries.length ≤ maxRenames := show 1 ≤ maxRenames by decide
    rw [validatedRenames, ensure_of hcount, ok_bind]
    exact check_bind_eq_ok.2 ⟨check_bind_eq_ok.2 ⟨hentry, rfl⟩,
      check_bind_eq_ok.2 ⟨ensure_of (List.nodup_singleton _) _, rfl⟩⟩
  have hselected : selectedHeaders table.headers [] = .ok [['a']] := by rw [hheaders]; rfl
  have htransform : ∃ t, transformLocalCsv (fileOf oneColumn) "comma".toList [] (renameTo name) = .ok t := by
    rw [transformLocalCsv, hread, ok_bind, hselected, ok_bind, hrenames]
    exact ⟨_, rfl⟩
  obtain ⟨t, ht⟩ := htransform
  have htransforms : Transforms table [['a']] (renameTo name) t := hchosen ▸ transforms_of_ok hread ht
  refine ⟨table, t, hread, ht, htransforms, ?_⟩
  have hcomma := Except.ok.inj ((tableOf_of_read hread).1.symm.trans hprofile)
  have hentry : (['a'], name) ∈ (renameTo name).entries := List.mem_singleton_self _
  have hget : (renameTo name).get ['a'] = name := HeaderRenames.get_of_mem hentry
  rw [htransforms.outputCsv, hcomma, List.map_singleton, hget, outputRows, hrows, hheaders]
  rfl

/-- A name that is a control character is accepted, and then no file of the output can be read. -/
theorem not_rereads_controlName : ∃ table t, readLocalCsv (fileOf oneColumn) "comma".toList = .ok table ∧
    transformLocalCsv (fileOf oneColumn) "comma".toList [] (renameTo [Char.ofNat 1]) = .ok t ∧
      (fileOf t.outputCsv).Holds t.outputCsv (stateOf t.outputCsv) ∧ t.outputByteCount ≤ maxSourceBytes ∧
        ¬ Rereads (fileOf t.outputCsv) "comma".toList t := by
  obtain ⟨table, t, hread, htransform, ht, houtput⟩ :=
    exists_renameTo [Char.ofNat 1] (by decide) (by decide)
  have hsize : t.outputByteCount ≤ maxSourceBytes := by
    rw [ht.byteCount, size_encodeUtf8, houtput]
    decide
  refine ⟨table, t, hread, htransform, holds_fileOf _, hsize, fun h => ?_⟩
  have hsurvives := (ht.rereads_iff (List.cons_ne_nil _ _) hread (holds_fileOf _) hsize).1 h
  exact hsurvives.renamed _ (List.mem_singleton_self _) _ (List.mem_singleton_self _) (by decide)

theorem rereads_iff_survives_letter : ∃ table t, Rereads (fileOf t.outputCsv) "comma".toList t ↔
    Survives table (chosen table []) (renameTo ['b']) := by
  obtain ⟨table, t, hread, htransform, ht, houtput⟩ :=
    exists_renameTo ['b'] (by decide) (by decide)
  have hsize : t.outputByteCount ≤ maxSourceBytes := by
    rw [ht.byteCount, size_encodeUtf8, houtput]
    decide
  exact ⟨table, t, rereads_iff_survives hread htransform (holds_fileOf _) hsize⟩

end Runs

end DollState.LocalCsv
