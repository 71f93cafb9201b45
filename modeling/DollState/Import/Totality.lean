import DollState.Import.BatchFits

/-!
# What staging raises

A source with bad objects is to be staged with these objects in quarantine, and no source is to end
with another exception than a `GenericImportStagingError`. `stage` keeps to this exactly for the
sources of `StagesCleanly` (`stage_contained_iff`): hashing a value may end with an exception that
no handler expects, a value of a JSON document that cannot be hashed ends the whole parse, and
building the batch may fail (`BuildFits`).
-/

namespace DollState.Import

open StateLib JsonText

/-! ## Kinds of errors -/

/-- The only errors that a computation ends with are of kinds with `p`. -/
def Raises {α : Type} (p : ErrorKind → Prop) (x : Staged α) : Prop := ∀ e, x = .error e → p e.kind

section

variable {α β : Type} {p : ErrorKind → Prop}

theorem raises_ok (a : α) : Raises p (.ok a) := fun _ h => nomatch h

theorem raises_error {e : ImportError} (h : p e.kind) : Raises p (.error e : Staged α) := by
  rintro _ ⟨⟩
  exact h

theorem Raises.bind {x : Staged α} {f : α → Staged β} (hx : Raises p x)
    (hf : ∀ a, x = .ok a → Raises p (f a)) : Raises p (x >>= f) := by
  intro e h
  rcases bind_eq_error.1 h with h | ⟨a, ha, h⟩
  · exact hx e h
  · exact hf a ha e h

theorem raises_ensure {q : Prop} {_ : Decidable q} {e : ImportError} (h : p e.kind) :
    Raises p (ensure q e) := fun _ he => (ensure_eq_error.1 he).2 ▸ h

theorem raises_orFail {e : ImportError} {x : Option α} (h : p e.kind) : Raises p (orFail e x) :=
  fun _ he => (orFail_eq_error.1 he).2 ▸ h

theorem raises_foldlM {ι : Type} {f : β → ι → Staged β} {xs : List ι}
    (h : ∀ b, ∀ x ∈ xs, Raises p (f b x)) (b : β) : Raises p (xs.foldlM f b) := fun e he => by
  obtain ⟨b', x, hx, herror⟩ := error_of_foldlM he
  exact h b' x hx e herror

theorem raises_forEach {ι : Type} {f : ι → Staged Unit} {xs : List ι}
    (h : ∀ x ∈ xs, Raises p (f x)) : Raises p (forEach f xs) := by
  induction xs with
  | nil => exact raises_ok _
  | cons x xs ih =>
    obtain ⟨hx, hxs⟩ := List.forall_mem_cons.1 h
    exact hx.bind fun _ _ => ih hxs

end

/-! ## The objects of an envelope -/

section

variable [PythonLibrary] [ImportLibrary]

/-- The value can be hashed: it holds no infinite number, no unpaired surrogate, and its containers
are not too deep for the encoder. -/
def Hashable (value : Value Str) : Prop :=
  firstError ImportLibrary.floatRepr ImportLibrary.encodeLevels value = none ∧
    value.toText?.isSome = true

/-- The first thing that the encoder does not accept is an infinite number. -/
def NotFinite (value : Value Str) : Prop :=
  firstError ImportLibrary.floatRepr ImportLibrary.encodeLevels value = some .notFinite

instance (value : Value Str) : Decidable (Hashable value) :=
  inferInstanceAs (Decidable (_ ∧ _))

instance (value : Value Str) : Decidable (NotFinite value) :=
  inferInstanceAs (Decidable (_ = _))

/-- The manifest and the values of the objects of a source, as far as they are read before they are
hashed; `none` for a line that is malformed. -/
def readEnvelope : SourceFormat → Text → Staged (Manifest × List (Option (Value Str)))
  | .json, sourceText => do
    match ← strictJsonLoads sourceText "JSON source envelope" with
    | .obj entries => do
      requireExactKeys entries
        [key "format", key "format_version", key "source_environment_id", key "objects"]
        "JSON source envelope"
      match entry entries (key "objects") with
      | .arr objects => return (Manifest.ofEntries entries, objects.map some)
      | _ => .error (staging "JSON source objects must be a list")
    | _ => .error (staging "JSON source envelope must be an object")
  | .jsonl, sourceText =>
    match splitLines [] sourceText with
    | [] => .error (staging "JSONL manifest line is missing")
    | first :: lines => do
      ensure (strip first ≠ []) (staging "JSONL manifest line is missing")
      let manifest ← manifestLine first
      return (manifest, (lines.filter fun line => strip line ≠ []).map fun line =>
        (lineObject line).toOption)

/-- Hashing the values of a source ends well or with an error that is handled. A JSON document is
done with at the first value that cannot be hashed, JSON Lines go on after an infinite number. -/
def HandlesHashing : SourceFormat → List (Option (Value Str)) → Prop
  | .json, values => ∀ value ∈ values.reduceOption.find? fun value => ¬ Hashable value,
    NotFinite value
  | .jsonl, values => ∀ value, some value ∈ values → Hashable value ∨ NotFinite value

omit [PythonLibrary] in
theorem hashJsonValue_of_hashable {value : Value Str} (h : Hashable value) :
    ∃ text, value.toText? = some text ∧ hashJsonValue value = .ok (text, hashValue text) := by
  obtain ⟨hnone, hsome⟩ := h
  obtain ⟨text, htext⟩ := Option.isSome_iff_exists.1 hsome
  refine ⟨text, htext, ?_⟩
  simp only [hashJsonValue, hnone, htext, ok_bind, orFail]
  rfl

omit [PythonLibrary] in
theorem hashJsonValue_of_not_hashable {value : Value Str} (h : ¬ Hashable value) :
    ∃ e, hashJsonValue value = .error e ∧ (e.kind = .staging ↔ NotFinite value) := by
  unfold hashJsonValue NotFinite
  cases hfirst : firstError ImportLibrary.floatRepr ImportLibrary.encodeLevels value with
  | some error =>
    cases error with
    | notFinite => exact ⟨_, rfl, by simp [staging]⟩
    | recursion => exact ⟨_, rfl, by simp [recursionError]⟩
  | none =>
    cases htext : value.toText? with
    | some text => exact absurd ⟨hfirst, by rw [htext]; rfl⟩ h
    | none => exact ⟨_, rfl, by simp⟩

/-- The value of a raw object is the text of what has been read, or nothing. -/
def RawObject.Holds (raw : RawObject) (value : Option (Value Str)) : Prop :=
  raw.value = (value.filter fun value => Hashable value).bind Value.toText?

/-- What hashing the values of a source ends with. -/
def Hashes (sourceFormat : SourceFormat) (values : List (Option (Value Str))) :
    Staged (List RawObject) → Prop
  | .ok raws => (∀ value, some value ∈ values → Hashable value ∨
      sourceFormat = .jsonl ∧ NotFinite value) ∧
    List.Forall₂ (fun value raw => RawObject.Holds raw value) values raws
  | .error e => ¬ (∀ value, some value ∈ values → Hashable value ∨
      sourceFormat = .jsonl ∧ NotFinite value) ∧
    (e.kind = .staging ↔ HandlesHashing sourceFormat values)

omit [PythonLibrary] in
theorem hashes_rawObjects (objects : List (Value Str)) (inputIndex : Nat) :
    Hashes .json (objects.map some) (rawObjects inputIndex objects) := by
  induction objects generalizing inputIndex with
  | nil => exact ⟨by simp, .nil⟩
  | cons object objects ih =>
    by_cases hobject : Hashable object
    · obtain ⟨text, htext, hhash⟩ := hashJsonValue_of_hashable hobject
      have hraw : rawObject inputIndex object =
          .ok ⟨inputIndex, some text, hashValue text, none⟩ := by
        rw [rawObject, hhash]
        rfl
      have hrest := ih (inputIndex + 1)
      rw [rawObjects, hraw, ok_bind]
      cases hraws : rawObjects (inputIndex + 1) objects with
      | ok raws =>
        rw [hraws] at hrest
        obtain ⟨hall, hholds⟩ := hrest
        refine ⟨fun value hvalue => ?_, .cons ?_ hholds⟩
        · rcases List.mem_cons.1 hvalue with heq | hvalue
          · cases heq
            exact .inl hobject
          · exact hall value hvalue
        · simp [RawObject.Holds, Option.filter, hobject, htext]
      | error e =>
        rw [hraws] at hrest
        obtain ⟨hnot, hkind⟩ := hrest
        refine ⟨fun hall => hnot fun value hvalue => hall value (List.mem_cons_of_mem _ hvalue), ?_⟩
        rw [hkind]
        simp [HandlesHashing, List.reduceOption, hobject]
    · obtain ⟨e, hhash, hkind⟩ := hashJsonValue_of_not_hashable hobject
      have hraw : rawObject inputIndex object = .error e := by
        rw [rawObject, hhash]
        rfl
      rw [rawObjects, hraw]
      refine ⟨fun hall => ?_, ?_⟩
      · rcases hall object List.mem_cons_self with h | ⟨h, -⟩
        · exact hobject h
        · cases h
      · rw [hkind]
        simp [HandlesHashing, List.reduceOption, hobject]

omit [PythonLibrary] in
theorem raises_strictJsonLoads (sourceText : Text) (context : String) :
    Raises (· = .staging) (strictJsonLoads sourceText context) := by
  unfold strictJsonLoads
  exact raises_orFail rfl

omit [PythonLibrary] in
theorem raises_lineObject (line : Text) : Raises (· = .staging) (lineObject line) := by
  refine (raises_strictJsonLoads _ _).bind fun value _ => ?_
  split
  · exact .bind (raises_ensure rfl) fun _ _ => .bind (raises_ensure rfl) fun _ _ => raises_ok _
  · exact raises_error rfl

omit [PythonLibrary] in
theorem raises_manifestLine (line : Text) : Raises (· = .staging) (manifestLine line) := by
  refine (raises_strictJsonLoads _ _).bind fun value _ => ?_
  split
  · exact .bind (raises_ensure rfl) fun _ _ => .bind (raises_ensure rfl) fun _ _ => raises_ok _
  · exact raises_error rfl

omit [PythonLibrary] in
/-- The raw object of a line. -/
theorem hashes_lineRawObject (inputIndex : Nat) (line : Text) :
    (∃ raw, lineRawObject inputIndex line = .ok raw ∧ raw.Holds (lineObject line).toOption ∧
      ∀ value ∈ (lineObject line).toOption, Hashable value ∨ NotFinite value) ∨
    ∃ e value, lineRawObject inputIndex line = .error e ∧ e.kind ≠ .staging ∧
      (lineObject line).toOption = some value ∧ ¬ (Hashable value ∨ NotFinite value) := by
  unfold lineRawObject
  cases hobject : lineObject line with
  | error e =>
    have hkind := raises_lineObject line e hobject
    refine .inl ⟨⟨inputIndex, none, ImportLibrary.sha256 line, some "malformed-jsonl-object"⟩, ?_, rfl, ?_⟩
    · simp only [error_bind, hkind, if_true]
    · rintro value ⟨⟩
  | ok value =>
    by_cases hhashable : Hashable value
    · obtain ⟨text, htext, hhash⟩ := hashJsonValue_of_hashable hhashable
      refine .inl ⟨_, by simp only [ok_bind, hhash]; rfl, ?_, ?_⟩
      · simp [RawObject.Holds, Except.toOption, Option.filter, hhashable, htext]
      · rintro _ ⟨⟩
        exact .inl hhashable
    · obtain ⟨e, hhash, hkind⟩ := hashJsonValue_of_not_hashable hhashable
      by_cases hstaging : e.kind = .staging
      · refine .inl ⟨_, by simp only [ok_bind, hhash, hstaging]; rfl, ?_, ?_⟩
        · simp [RawObject.Holds, Except.toOption, Option.filter, hhashable]
        · rintro _ ⟨⟩
          exact .inr (hkind.1 hstaging)
      · refine .inr ⟨e, value, by simp only [ok_bind, hhash, hstaging]; rfl, hstaging, rfl, ?_⟩
        rintro (h | h)
        · exact hhashable h
        · exact hstaging (hkind.2 h)

omit [PythonLibrary] in
theorem hashes_lineRawObjects (lines : List Text) (inputIndex : Nat) :
    Hashes .jsonl ((lines.filter fun line => strip line ≠ []).map fun line =>
      (lineObject line).toOption) (lineRawObjects inputIndex lines) := by
  induction lines generalizing inputIndex with
  | nil => exact ⟨by simp, .nil⟩
  | cons line lines ih =>
    rw [lineRawObjects]
    by_cases hblank : strip line = []
    · rw [if_pos hblank, List.filter_cons_of_neg (by simpa using hblank)]
      exact ih inputIndex
    rw [if_neg hblank, List.filter_cons_of_pos (by simpa using hblank), List.map_cons]
    rcases hashes_lineRawObject inputIndex line with
      ⟨raw, hraw, hholds, hvalue⟩ | ⟨e, value, hraw, hkind, hsome, hnot⟩
    · have hrest := ih (inputIndex + 1)
      rw [hraw, ok_bind]
      cases hraws : lineRawObjects (inputIndex + 1) lines with
      | ok raws =>
        rw [hraws] at hrest
        obtain ⟨hall, hforall⟩ := hrest
        refine ⟨fun value hmem => ?_, .cons hholds hforall⟩
        rcases List.mem_cons.1 hmem with heq | hmem
        · exact (hvalue value heq.symm).imp_right fun h => ⟨rfl, h⟩
        · exact hall value hmem
      | error e =>
        rw [hraws] at hrest
        obtain ⟨hnot, hkind⟩ := hrest
        refine ⟨fun hall => hnot fun value hmem => hall value (List.mem_cons_of_mem _ hmem), ?_⟩
        rw [hkind]
        refine ⟨fun h value hmem => ?_, fun h value hmem => h value (List.mem_cons_of_mem _ hmem)⟩
        rcases List.mem_cons.1 hmem with heq | hmem
        · exact hvalue value heq.symm
        · exact h value hmem
    · rw [hraw]
      refine ⟨fun hall => hnot ((hall value ?_).imp_right And.right), iff_of_false hkind fun h =>
        hnot (h value ?_)⟩ <;> rw [hsome] <;> exact List.mem_cons_self

omit [PythonLibrary] [ImportLibrary] in
theorem reduceOption_map_some {α : Type} (l : List α) : (l.map some).reduceOption = l := by
  simp [List.reduceOption]

omit [PythonLibrary] in
/-- A parser is the reading of the envelope and the hashing of what has been read. -/
theorem parseEnvelope_eq (sourceFormat : SourceFormat) (sourceText : Text) :
    ∃ hash : List (Option (Value Str)) → Staged (List RawObject),
      parseEnvelope sourceFormat sourceText = (do
        let (manifest, values) ← readEnvelope sourceFormat sourceText
        let raws ← hash values
        return (manifest, raws)) ∧
      ∀ manifest values, readEnvelope sourceFormat sourceText = .ok (manifest, values) →
        Hashes sourceFormat values (hash values) := by
  cases sourceFormat with
  | json =>
    refine ⟨fun values => rawObjects 0 values.reduceOption, ?_, ?_⟩
    · simp only [parseEnvelope, parseJsonEnvelope, readEnvelope]
      cases strictJsonLoads sourceText "JSON source envelope" with
      | error e => rfl
      | ok value =>
        cases value with
        | obj entries =>
          simp only [ok_bind]
          cases requireExactKeys entries [key "format", key "format_version",
            key "source_environment_id", key "objects"] "JSON source envelope" with
          | error e => rfl
          | ok =>
            simp only [ok_bind]
            cases entry entries (key "objects") with
            | arr objects => simp only [pure, Except.pure, ok_bind, reduceOption_map_some]
            | null | bool | int | float | str | obj => rfl
        | null | bool | int | float | str | arr => rfl
    · intro manifest values h
      obtain ⟨value, -, h⟩ := bind_eq_ok.1 h
      split at h
      · obtain ⟨-, h⟩ := check_bind_eq_ok.1 h
        split at h
        · rename_i objects _
          cases pure_eq_ok.1 h
          dsimp only
          rw [reduceOption_map_some]
          exact hashes_rawObjects objects 0
        · cases h
      · cases h
  | jsonl =>
    refine ⟨fun _ => lineRawObjects 0 (splitLines [] sourceText).tail, ?_, ?_⟩
    · simp only [parseEnvelope, parseJsonlEnvelope, readEnvelope]
      cases splitLines [] sourceText with
      | nil => rfl
      | cons first lines =>
        simp only [List.tail_cons]
        cases ensure (strip first ≠ []) (staging "JSONL manifest line is missing") with
        | error e => rfl
        | ok =>
          cases manifestLine first with
          | error e => rfl
          | ok manifest => rfl
    · intro manifest values h
      simp only [readEnvelope] at h
      split at h
      · cases h
      · rename_i first lines hlines
        obtain ⟨-, h⟩ := check_bind_eq_ok.1 h
        obtain ⟨_, -, h⟩ := bind_eq_ok.1 h
        cases pure_eq_ok.1 h
        rw [hlines]
        exact hashes_lineRawObjects lines 0

omit [PythonLibrary] in
theorem raises_readEnvelope (sourceFormat : SourceFormat) (sourceText : Text) :
    Raises (· = .staging) (readEnvelope sourceFormat sourceText) := by
  cases sourceFormat with
  | json =>
    refine (raises_strictJsonLoads _ _).bind fun value _ => ?_
    split
    · refine .bind (raises_ensure rfl) fun _ _ => ?_
      split
      · exact raises_ok _
      · exact raises_error rfl
    · exact raises_error rfl
  | jsonl =>
    simp only [readEnvelope]
    split
    · exact raises_error rfl
    · exact .bind (raises_ensure rfl) fun _ _ => .bind (raises_manifestLine _) fun _ _ => raises_ok _

/-! ## Building a batch -/

variable {ctx : BatchContext} {adapter : SourceAdapterContract}

omit [PythonLibrary] [ImportLibrary] in
theorem contract_kind (message : String) : (contract message).kind ≠ .staging := by
  simp [contract]

omit [ImportLibrary] in
theorem raises_validateUuid (name : String) (value : Text) :
    Raises (· ≠ .staging) (validateUuid name value) :=
  .bind (raises_orFail (contract_kind _)) fun _ _ =>
    .bind (raises_ensure (contract_kind _)) fun _ _ => raises_ok _

omit [ImportLibrary] in
theorem raises_validateTimestamp (name : String) (value : Text) :
    Raises (· ≠ .staging) (validateTimestamp name value) :=
  .bind (raises_orFail (contract_kind _)) fun _ _ =>
    .bind (raises_ensure (contract_kind _)) fun _ _ => raises_ok _

omit [PythonLibrary] [ImportLibrary] in
theorem raises_validateOptionalText (name : String) (value : Option Text) :
    Raises (· ≠ .staging) (validateOptionalText name value) := by
  cases value with
  | none => exact raises_ok _
  | some value =>
    refine .bind ?_ fun _ _ => raises_ok _
    exact .bind (raises_ensure (contract_kind _)) fun _ _ =>
      .bind (raises_ensure (contract_kind _)) fun _ _ =>
        .bind (raises_ensure (contract_kind _)) fun _ _ => raises_ok _

theorem raises_lose (category : LossCategory) (sourceObjectId : Option Text) (ledger : Ledger)
    (inputIndex : Nat) :
    Raises (· ≠ .staging) (Ledger.lose ctx category sourceObjectId ledger inputIndex) := by
  refine .bind ?_ fun _ _ => raises_ok _
  refine .bind (raises_orFail (by simp)) fun _ _ => .bind (raises_validateUuid _ _) fun _ _ => ?_
  exact .bind (raises_validateTimestamp _ _) fun _ _ =>
    .bind (raises_validateOptionalText _ _) fun _ _ => raises_ok _

theorem raises_quarantine (refusal : Refusal) (sourceObjectId : Option Text) (ledger : Ledger)
    (occurrence : Nat × Digest) :
    Raises (· ≠ .staging) (ledger.quarantine ctx refusal sourceObjectId occurrence) :=
  raises_lose _ _ _ _

theorem raises_expel (refusal : Refusal) (state : Ledger × List AcceptedObject) (id : Text) :
    Raises (· ≠ .staging) (expel ctx refusal state id) :=
  .bind (raises_orFail (by simp)) fun _ _ =>
    .bind (raises_foldlM (fun _ _ _ => raises_quarantine _ _ _ _) _) fun _ _ => raises_ok _

theorem raises_quarantineMissing (rounds : Nat) (state : Ledger × List AcceptedObject) :
    Raises (· ≠ .staging) (quarantineMissing ctx rounds state) := by
  induction rounds generalizing state with
  | zero => exact raises_ok _
  | succ rounds ih =>
    simp only [quarantineMissing]
    split
    · exact raises_ok _
    · exact .bind (raises_foldlM (fun _ _ _ => raises_expel _ _ _) _) fun _ _ => ih _

omit [PythonLibrary] in
theorem raises_cycleSourceIds (accepted : List AcceptedObject) :
    Raises (· ≠ .staging) (cycleSourceIds accepted) := by
  refine .bind (raises_foldlM (fun search id _ => ?_) _) fun _ _ => raises_ok _
  split
  · exact raises_ok _
  · intro e he
    rw [visit_eq_error he]
    simp [recursionError]

theorem raises_build (raws : List RawObject) : Raises (· ≠ .staging) (build ctx adapter raws) := by
  refine .bind (raises_foldlM (fun state raw _ => ?_) _) fun _ _ => ?_
  · obtain ⟨ledger, parsed⟩ := state
    obtain ⟨c, -, heq⟩ | ⟨-, refusal, heq⟩ := stageRaw_cases ctx ledger parsed raw
    · rw [heq]
      exact raises_ok _
    · rw [heq]
      exact .bind (raises_quarantine _ _ _ _) fun _ _ => raises_ok _
  refine .bind (raises_foldlM (fun state id _ => ?_) _) fun classified _ => ?_
  · simp only [classifyGroup]
    split
    · exact raises_ok _
    · split
      · exact .bind (raises_foldlM (fun _ _ _ => raises_quarantine _ _ _ _) _) fun _ _ => raises_ok _
      · exact raises_ok _
  refine .bind ?_ fun state _ => ?_
  · exact .bind (raises_cycleSourceIds _) fun _ _ =>
      .bind (raises_foldlM (fun _ _ _ => raises_expel _ _ _) _) fun _ _ =>
        raises_quarantineMissing _ _
  refine .bind (raises_foldlM (fun _ a _ => ?_) _) fun _ _ => raises_ok _
  refine .bind (raises_foldlM (fun _ _ _ => ?_) _) fun _ _ => raises_ok _
  exact raises_foldlM (fun _ _ _ => raises_lose _ _ _ _) _

omit [ImportLibrary] in
theorem raises_makeMappingReport (mappingReportId : RecordId) (batchId generatedAt : Text)
    (total : Nat) (counts : MappingCounts) (materialLossCount : Nat)
    (lossRecordIds : List RecordId) :
    Raises (· ≠ .staging) (makeMappingReport mappingReportId batchId generatedAt total counts
      materialLossCount lossRecordIds) := by
  refine .bind (raises_validateUuid _ _) fun _ _ => .bind (raises_validateTimestamp _ _) fun _ _ => ?_
  refine .bind (raises_forEach fun _ _ => raises_ensure (contract_kind _)) fun _ _ => ?_
  refine .bind (raises_ensure (contract_kind _)) fun _ _ => ?_
  refine .bind (raises_ensure (contract_kind _)) fun _ _ => .bind ?_ fun _ _ => ?_
  · exact .bind (raises_ensure (contract_kind _)) fun _ _ =>
      .bind (raises_ensure (contract_kind _)) fun _ _ => raises_ok _
  · exact .bind (raises_ensure (contract_kind _)) fun _ _ => raises_ok _

theorem raises_makeImportBatch (importBatchId startedAt : Text)
    (environment : SourceEnvironmentRecord) (sourceRootHash : Digest) (staged quarantined : Nat)
    (mappingReportId : RecordId) :
    Raises (· ≠ .staging) (makeImportBatch importBatchId environment adapter startedAt
      sourceRootHash staged quarantined mappingReportId) := by
  refine .bind (raises_validateUuid _ _) fun _ _ => .bind ?_ fun _ _ => .bind ?_ fun _ _ => ?_
  · exact .bind (raises_ensure (contract_kind _)) fun _ _ => raises_ok _
  · exact .bind (raises_ensure (contract_kind _)) fun _ _ => raises_ok _
  refine .bind (raises_validateTimestamp _ _) fun _ _ => ?_
  refine .bind (raises_ensure (contract_kind _)) fun _ _ => ?_
  refine .bind (raises_ensure (contract_kind _)) fun _ _ => ?_
  exact .bind (raises_ensure (contract_kind _)) fun _ _ => raises_ok _

theorem raises_buildStageResult {stager : Stager} {raws : List RawObject}
    {sourceFormat : SourceFormat} {formatVersion : Text} {sourceRootHash : Digest} :
    Raises (· ≠ .staging)
      (stager.buildStageResult raws sourceFormat formatVersion sourceRootHash ctx) := by
  refine .bind (raises_build _) fun _ _ => .bind (raises_orFail (by simp)) fun _ _ => ?_
  refine .bind (raises_makeMappingReport _ _ _ _ _ _ _) fun _ _ => ?_
  exact .bind (raises_makeImportBatch _ _ _ _ _ _ _) fun _ _ => raises_ok _

omit [PythonLibrary] [ImportLibrary] in
theorem raises_readBytes (stager : Stager) (sourceBytes : ByteArray) (sourceFormat : SourceFormat) :
    Raises (· = .staging) (stager.readBytes sourceBytes sourceFormat) :=
  .bind (raises_ensure rfl) fun _ _ => .bind (raises_ensure rfl) fun _ _ =>
    .bind (raises_ensure rfl) fun _ _ => raises_orFail rfl

omit [PythonLibrary] [ImportLibrary] in
theorem raises_validateManifest (manifest : Manifest) (environment : SourceEnvironmentRecord)
    (adapter : SourceAdapterContract) :
    Raises (· = .staging) (validateManifest manifest environment adapter) := by
  refine .bind (raises_ensure rfl) fun _ _ => .bind (raises_orFail rfl) fun _ _ => ?_
  refine .bind (raises_orFail rfl) fun _ _ => .bind (raises_ensure rfl) fun _ _ => ?_
  refine .bind (raises_ensure rfl) fun _ _ => .bind (raises_ensure rfl) fun _ _ => ?_
  exact .bind (raises_ensure rfl) fun _ _ => raises_ok _

/-! ## Staging -/

/-- A source within the limits of the adapter, with a valid envelope and manifest. -/
structure ValidSource (stager : Stager) (sourceBytes : ByteArray) (sourceFormat : SourceFormat)
    (manifest : Manifest) (values : List (Option (Value Str))) : Prop where
  read : ∃ sourceText, stager.readBytes sourceBytes sourceFormat = .ok sourceText ∧
    readEnvelope sourceFormat sourceText = .ok (manifest, values)
  manifest : (validateManifest manifest stager.environment stager.adapter).isOk = true
  count : values.length ≤ stager.adapter.resourceLimits.maxObjectCount
  nesting : ∀ value, some value ∈ values → depth value ≤ stager.adapter.resourceLimits.maxNestingDepth

/-- Bad objects are quarantined, and the only exceptions are errors of staging. -/
structure Contained (stager : Stager) (sourceBytes : ByteArray) (sourceFormat : SourceFormat)
    (ctx : BatchContext) : Prop where
  returns : ∀ manifest values, ValidSource stager sourceBytes sourceFormat manifest values →
    ∃ result, stager.stage sourceBytes sourceFormat ctx = .ok result
  raises : Raises (· = .staging) (stager.stage sourceBytes sourceFormat ctx)

/-- What a source must be like to be contained. -/
structure StagesCleanly (stager : Stager) (sourceBytes : ByteArray) (sourceFormat : SourceFormat)
    (ctx : BatchContext) : Prop where
  /-- What hashing raises is handled. -/
  hashing : ∀ sourceText manifest values,
    stager.readBytes sourceBytes sourceFormat = .ok sourceText →
    readEnvelope sourceFormat sourceText = .ok (manifest, values) →
    HandlesHashing sourceFormat values
  /-- In a valid JSON document every value can be hashed. -/
  hashable : ∀ manifest values, ValidSource stager sourceBytes sourceFormat manifest values →
    sourceFormat = .json → ∀ value, some value ∈ values → Hashable value
  /-- The nesting that the adapter allows is one that `_json_depth` can measure. -/
  measurable : ∀ manifest values, ValidSource stager sourceBytes sourceFormat manifest values →
    ∀ value, some value ∈ values → Hashable value → calls value ≤ ImportLibrary.depthLevels
  /-- The batch that is built is valid and fits. -/
  fits : ∀ sourceText formatVersion raws,
    stager.readBytes sourceBytes sourceFormat = .ok sourceText →
    stager.readText sourceText sourceFormat = .ok (formatVersion, raws) →
    ctx.Valid ∧ BuildFits stager.adapter raws

omit [PythonLibrary] in
theorem parseEnvelope_cases (sourceFormat : SourceFormat) (sourceText : Text) :
    (∃ e, readEnvelope sourceFormat sourceText = .error e ∧
      parseEnvelope sourceFormat sourceText = .error e) ∨
    ∃ manifest values, readEnvelope sourceFormat sourceText = .ok (manifest, values) ∧
      ((∃ raws, parseEnvelope sourceFormat sourceText = .ok (manifest, raws) ∧
          Hashes sourceFormat values (.ok raws)) ∨
        ∃ e, parseEnvelope sourceFormat sourceText = .error e ∧
          Hashes sourceFormat values (.error e)) := by
  obtain ⟨hash, hparse, hhash⟩ := parseEnvelope_eq sourceFormat sourceText
  cases hread : readEnvelope sourceFormat sourceText with
  | error e =>
    rw [hread] at hparse
    exact .inl ⟨e, rfl, hparse⟩
  | ok envelope =>
    obtain ⟨manifest, values⟩ := envelope
    have hhash := hhash manifest values hread
    rw [hread] at hparse
    refine .inr ⟨manifest, values, rfl, ?_⟩
    cases hraws : hash values with
    | ok raws =>
      rw [hraws] at hhash
      exact .inl ⟨raws, by simpa [hraws] using hparse, hhash⟩
    | error e =>
      rw [hraws] at hhash
      exact .inr ⟨e, by simpa [hraws] using hparse, hhash⟩

omit [PythonLibrary] in
theorem handlesHashing_of_all {sourceFormat : SourceFormat} {values : List (Option (Value Str))}
    (h : ∀ value, some value ∈ values → Hashable value ∨ sourceFormat = .jsonl ∧ NotFinite value) :
    HandlesHashing sourceFormat values := by
  cases sourceFormat with
  | json =>
    intro value hvalue
    have hmem : some value ∈ values := by
      have := List.mem_of_find?_eq_some hvalue
      simpa [List.reduceOption, List.mem_filterMap] using this
    rcases h value hmem with hhashable | ⟨hformat, -⟩
    · have := List.find?_some hvalue
      simp [hhashable] at this
    · cases hformat
  | jsonl => exact fun value hvalue => (h value hvalue).imp_right And.right

omit [PythonLibrary] in
theorem checkNesting_eq_ok {raw : RawObject} : checkNesting adapter raw = .ok () ↔
    ∀ value ∈ raw.value, calls value ≤ ImportLibrary.depthLevels ∧
      depth value ≤ adapter.resourceLimits.maxNestingDepth := by
  unfold checkNesting
  cases raw.value with
  | none => simp
  | some value => simp [check_bind_eq_ok, ensure_eq_ok]

omit [PythonLibrary] in
/-- The nesting of the raw objects is that of the values that have been read. -/
theorem forall_nesting_iff {values : List (Option (Value Str))} {raws : List RawObject}
    (h : List.Forall₂ (fun value raw => RawObject.Holds raw value) values raws) :
    (∀ raw ∈ raws, checkNesting adapter raw = .ok ()) ↔
      ∀ value, some value ∈ values → Hashable value → calls value ≤ ImportLibrary.depthLevels ∧
        depth value ≤ adapter.resourceLimits.maxNestingDepth := by
  induction h with
  | nil => simp
  | @cons value raw values raws hholds _ ih =>
    rw [List.forall_mem_cons, ih, checkNesting_eq_ok, hholds]
    cases value with
    | none => simp
    | some value =>
      have hvalue : (∀ text ∈ ((some value).filter fun value => Hashable value).bind Value.toText?,
          calls text ≤ ImportLibrary.depthLevels ∧
            depth text ≤ adapter.resourceLimits.maxNestingDepth) ↔
          (Hashable value → calls value ≤ ImportLibrary.depthLevels ∧
            depth value ≤ adapter.resourceLimits.maxNestingDepth) := by
        by_cases hhashable : Hashable value
        · obtain ⟨text, htext⟩ := Option.isSome_iff_exists.1 hhashable.2
          obtain ⟨hdepth, hcalls⟩ := shape_toText? htext
          simp [Option.filter, hhashable, htext, hdepth, hcalls]
        · simp [Option.filter, hhashable]
      rw [hvalue]
      simp

/-- A valid source that is hashed without an error is read. -/
theorem exists_readText {stager : Stager} {sourceBytes : ByteArray} {sourceFormat : SourceFormat}
    {manifest : Manifest} {values : List (Option (Value Str))}
    (hvalid : ValidSource stager sourceBytes sourceFormat manifest values)
    (h : StagesCleanly stager sourceBytes sourceFormat ctx) :
    ∃ sourceText formatVersion raws, stager.readBytes sourceBytes sourceFormat = .ok sourceText ∧
      stager.readText sourceText sourceFormat = .ok (formatVersion, raws) := by
  obtain ⟨sourceText, hbytes, hread⟩ := hvalid.read
  obtain ⟨formatVersion, hversion⟩ := exists_of_isOk hvalid.manifest
  have hhandles := h.hashing sourceText manifest values hbytes hread
  obtain ⟨e, he, -⟩ | ⟨_, _, hread', ⟨raws, hparse, hall, hholds⟩ | ⟨e, -, hnot, hkind⟩⟩ :=
    parseEnvelope_cases sourceFormat sourceText
  · rw [hread] at he
    cases he
  · cases hread.symm.trans hread'
    have hlength : raws.length ≤ stager.adapter.resourceLimits.maxObjectCount :=
      hholds.length_eq ▸ hvalid.count
    have hnesting : ∀ raw ∈ raws, checkNesting stager.adapter raw = .ok () :=
      (forall_nesting_iff hholds).2 fun value hvalue hhashable =>
        ⟨h.measurable manifest values hvalid value hvalue hhashable, hvalid.nesting value hvalue⟩
    refine ⟨sourceText, formatVersion, raws, hbytes, ?_⟩
    simp only [Stager.readText, hparse, ok_bind, hversion, ensure_of hlength,
      (forEach_eq_ok (f := checkNesting stager.adapter) (u := ())).2 hnesting]
    rfl
  · cases hread.symm.trans hread'
    refine absurd (fun value hvalue => ?_) hnot
    cases sourceFormat with
    | json => exact .inl (h.hashable manifest values hvalid rfl value hvalue)
    | jsonl => exact (hhandles value hvalue).imp_right fun hfinite => ⟨rfl, hfinite⟩

omit [PythonLibrary] in
/-- Reading a source raises errors of staging if hashing its values does. -/
theorem raises_readText {stager : Stager} {sourceFormat : SourceFormat} {sourceText : Text}
    (h : ∀ manifest values, readEnvelope sourceFormat sourceText = .ok (manifest, values) →
      HandlesHashing sourceFormat values) :
    Raises (· = .staging) (stager.readText sourceText sourceFormat) := by
  refine .bind ?_ fun _ _ => .bind (raises_validateManifest _ _ _) fun _ _ => ?_
  · intro e he
    obtain ⟨e', hread, hparse⟩ | ⟨manifest, values, hread, ⟨raws, hparse, -⟩ | ⟨e', hparse, -, hkind⟩⟩ :=
      parseEnvelope_cases sourceFormat sourceText
    · cases hparse.symm.trans he
      exact raises_readEnvelope sourceFormat sourceText _ hread
    · cases hparse.symm.trans he
    · cases hparse.symm.trans he
      exact hkind.2 (h manifest values hread)
  · refine .bind (raises_ensure rfl) fun _ _ => .bind (raises_forEach fun raw _ => ?_) fun _ _ =>
      raises_ok _
    unfold checkNesting
    split
    · exact raises_ok _
    · exact .bind (raises_ensure rfl) fun _ _ => raises_ensure rfl

/-- What a source that has been staged is like. -/
theorem hashable_of_stage {stager : Stager} {sourceBytes : ByteArray} {sourceFormat : SourceFormat}
    {sourceText : Text} {manifest : Manifest} {values : List (Option (Value Str))}
    {result : GenericImportStageResult}
    (hbytes : stager.readBytes sourceBytes sourceFormat = .ok sourceText)
    (hread : readEnvelope sourceFormat sourceText = .ok (manifest, values))
    (h : stager.stage sourceBytes sourceFormat ctx = .ok result) :
    (∀ value, some value ∈ values → Hashable value ∨ sourceFormat = .jsonl ∧ NotFinite value) ∧
      ∀ value, some value ∈ values → Hashable value → calls value ≤ ImportLibrary.depthLevels := by
  obtain ⟨_, hbytes', h⟩ := bind_eq_ok.1 h
  cases hbytes.symm.trans hbytes'
  obtain ⟨_, htext, -⟩ := bind_eq_ok.1 h
  obtain ⟨⟨_, raws⟩, hparse, htext⟩ := bind_eq_ok.1 htext
  obtain ⟨_, -, htext⟩ := bind_eq_ok.1 htext
  obtain ⟨-, htext⟩ := check_bind_eq_ok.1 htext
  obtain ⟨hnesting, -⟩ := check_bind_eq_ok.1 htext
  obtain ⟨e, he, -⟩ | ⟨_, _, hread', ⟨raws', hparse', hall, hholds⟩ | ⟨e, hparse', -⟩⟩ :=
    parseEnvelope_cases sourceFormat sourceText
  · cases hread.symm.trans he
  · cases hread.symm.trans hread'
    cases hparse.symm.trans hparse'
    exact ⟨hall, fun value hvalue hhashable =>
      ((forall_nesting_iff hholds).1 (forEach_eq_ok.1 hnesting) value hvalue hhashable).1⟩
  · cases hparse.symm.trans hparse'

/-- `stage` contains what is wrong with a source exactly if it stages it cleanly. -/
theorem stage_contained_iff {stager : Stager} {sourceBytes : ByteArray}
    {sourceFormat : SourceFormat}
    (hinj : ∀ sourceText formatVersion raws namespaceId,
      stager.readBytes sourceBytes sourceFormat = .ok sourceText →
      stager.readText sourceText sourceFormat = .ok (formatVersion, raws) →
      uuid ctx.importBatchId = some namespaceId →
      Set.InjOn (ImportLibrary.uuid5 namespaceId) (lossNames raws)) :
    Contained stager sourceBytes sourceFormat ctx ↔
      StagesCleanly stager sourceBytes sourceFormat ctx := by
  have hbuild : ∀ sourceText formatVersion raws,
      stager.readBytes sourceBytes sourceFormat = .ok sourceText →
      stager.readText sourceText sourceFormat = .ok (formatVersion, raws) →
      ((∃ result, stager.stage sourceBytes sourceFormat ctx = .ok result) ↔
        ctx.Valid ∧ BuildFits stager.adapter raws) ∧
      Raises (· ≠ .staging) (stager.stage sourceBytes sourceFormat ctx) := by
    intro sourceText formatVersion raws hbytes htext
    simp only [Stager.stage, hbytes, htext, ok_bind]
    have hmax : raws.length ≤ maxCount := by
      obtain ⟨_, -, h⟩ := bind_eq_ok.1 htext
      obtain ⟨_, -, h⟩ := bind_eq_ok.1 h
      obtain ⟨hcount, h⟩ := check_bind_eq_ok.1 h
      obtain ⟨-, h⟩ := check_bind_eq_ok.1 h
      cases pure_eq_ok.1 h
      exact (ensure_eq_ok.1 hcount).trans stager.adapter.resourceLimits.maxObjectCount_le
    exact ⟨buildStageResult_isOk_iff (nodup_inputIndexes_of_readText htext) hmax
      fun namespaceId hnamespace => hinj sourceText formatVersion raws namespaceId hbytes htext
        hnamespace, raises_buildStageResult⟩
  constructor
  · intro h
    refine ⟨fun sourceText manifest values hbytes hread => ?_, fun manifest values hvalid hformat => ?_,
      fun manifest values hvalid => ?_, fun sourceText formatVersion raws hbytes htext => ?_⟩
    · obtain ⟨e, he, -⟩ | ⟨_, _, hread', ⟨raws, -, hall, -⟩ | ⟨e, hparse, -, hkind⟩⟩ :=
        parseEnvelope_cases sourceFormat sourceText
      · cases hread.symm.trans he
      · cases hread.symm.trans hread'
        exact handlesHashing_of_all hall
      · cases hread.symm.trans hread'
        refine hkind.1 (h.raises e ?_)
        simp only [Stager.stage, hbytes, ok_bind, Stager.readText, hparse, error_bind]
    · obtain ⟨result, hresult⟩ := h.returns manifest values hvalid
      obtain ⟨sourceText, hbytes, hread⟩ := hvalid.read
      intro value hvalue
      rcases (hashable_of_stage hbytes hread hresult).1 value hvalue with hhashable | ⟨hjsonl, -⟩
      · exact hhashable
      · rw [hformat] at hjsonl
        cases hjsonl
    · obtain ⟨result, hresult⟩ := h.returns manifest values hvalid
      obtain ⟨sourceText, hbytes, hread⟩ := hvalid.read
      exact (hashable_of_stage hbytes hread hresult).2
    · obtain ⟨hiff, hraises⟩ := hbuild sourceText formatVersion raws hbytes htext
      refine hiff.1 ?_
      cases hstage : stager.stage sourceBytes sourceFormat ctx with
      | ok result => exact ⟨result, rfl⟩
      | error e => exact absurd (h.raises e hstage) (hraises e hstage)
  · intro h
    refine ⟨fun manifest values hvalid => ?_, ?_⟩
    · obtain ⟨sourceText, formatVersion, raws, hbytes, htext⟩ := exists_readText hvalid h
      exact (hbuild sourceText formatVersion raws hbytes htext).1.2
        (h.fits sourceText formatVersion raws hbytes htext)
    · refine .bind (raises_readBytes _ _ _) fun sourceText hbytes => .bind ?_ fun read htext => ?_
      · exact raises_readText fun manifest values hread =>
          h.hashing sourceText manifest values hbytes hread
      · intro e he
        obtain ⟨formatVersion, raws⟩ := read
        obtain ⟨result, hresult⟩ := (hbuild sourceText formatVersion raws hbytes htext).1.2
          (h.fits sourceText formatVersion raws hbytes htext)
        simp only [Stager.stage, hbytes, htext, ok_bind, he] at hresult
        cases hresult

end

/-! ## An unpaired surrogate -/

section Runs

attribute [local instance] asciiLibrary standardLibrary

theorem stage_contained_iff_mixedSource :
    Contained genericStager mixedSource .json genericBatch ↔
      StagesCleanly genericStager mixedSource .json genericBatch :=
  stage_contained_iff fun _ _ _ _ hbytes htext hnamespace =>
    injOn_lossNames_mixedSource hbytes htext hnamespace

/-- A conversation with an escape for half of a surrogate pair in its payload. -/
def surrogateObjects : Text :=
  "\x7b\"source_object_id\":\"a\",\"source_type\":\"conversation\",".toList ++
    "\"parent_source_object_ids\":[],\"payload\":\x7b\"t\":\"\\ud800\"\x7d\x7d".toList

def surrogateSource : ByteArray := encodeUtf8 (jsonSource surrogateObjects)

theorem readBytes_surrogateSource :
    genericStager.readBytes surrogateSource .json = .ok (jsonSource surrogateObjects) := by
  rw [Stager.readBytes, surrogateSource, size_encodeUtf8, decodeUtf8_encodeUtf8]
  decide +kernel

theorem readText_surrogateSource :
    (genericStager.readText (jsonSource surrogateObjects) .json).map (fun _ => ()) =
      .error ⟨.unicodeEncode, "surrogates not allowed"⟩ := by
  decide +kernel

/-- Staging a source with such an escape ends with a `UnicodeEncodeError`. -/
theorem not_contained_surrogateSource :
    ¬ Contained genericStager surrogateSource .json genericBatch := by
  intro h
  cases htext : genericStager.readText (jsonSource surrogateObjects) .json with
  | ok read =>
    have herror := readText_surrogateSource
    rw [htext] at herror
    cases herror
  | error e =>
    have herror := readText_surrogateSource
    rw [htext] at herror
    have hkind := h.raises e (by
      rw [Stager.stage, readBytes_surrogateSource, ok_bind, htext, error_bind])
    rw [Except.error.inj herror] at hkind
    cases hkind

end Runs

end DollState.Import
