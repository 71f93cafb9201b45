import DollState.Library.Joined
import DollState.Import.Ledger
import DollState.Import.Reference
import DollState.History.Written
import DollState.History.ChatGPT
import DollState.History.Ollama

/-!
# Identities of source objects

An adapter joins the texts that identify a source object with colons, and the generic stager strips the
blanks at the end. Two identities become one identifier exactly if they are `Confusable`: of one kind,
with the same texts but for blanks at the end, or with one text that goes on where the other has its
colon. `keepsIdentity_iff` is about every source that an adapter accepts.
-/

namespace DollState.History

open StateLib JsonText Import Joined

/-- `str.isspace` of an element of a string. -/
def isBlank : CodePoint → Bool
  | .scalar c => isSpace c
  | .surrogate _ => false

/-- The texts of an identity, without blanks where its identifier ends. -/
def NativeId.parts (n : NativeId) : List Str :=
  if n.kind.tail = "" then trimLast isBlank (n.conversation :: n.path) else n.conversation :: n.path

/-- The identifier without blanks at its end. -/
def NativeId.stripped (n : NativeId) : Str :=
  key n.kind.lead ++ colon :: [colon].intercalate n.parts ++ key n.kind.tail

/-- The generic stager takes the identifier: it is neither too long nor has it control characters. -/
def NativeId.Valid (n : NativeId) : Prop :=
  ∃ t id, n.str = Str.ofText t ∧ validateSourceId (.str t) = some id

/-- Two identities of one kind with the same texts but for blanks at the end, or where one text goes on
with a colon. -/
def Confusable (n n' : NativeId) : Prop := n.kind = n'.kind ∧ Shifted colon n.parts n'.parts

section

variable [PythonLibrary] [ImportLibrary]

/-- Source objects of different identities have different identifiers, and no link leads to an object of
another conversation. The identifiers are those that the generic stager reports. -/
structure KeepsIdentity (items : List (SourceObject × RawObject)) : Prop where
  apart : ∀ x ∈ items, ∀ y ∈ items, ∀ id, x.2.reportedId = some id → y.2.reportedId = some id →
    x.1.native = y.1.native
  links : ∀ x ∈ items, ∀ y ∈ items, ∀ link ∈ x.1.parents, ∀ t id, link.str = Str.ofText t →
    validateSourceId (.str t) = some id → y.2.reportedId = some id →
    y.1.native.conversation = x.1.native.conversation

end

/-- No two identities can be confused, and no link can be confused with an object of another
conversation. -/
structure Separate (objects : List SourceObject) : Prop where
  apart : ∀ o ∈ objects, ∀ o' ∈ objects, o.native.Valid → o.native ≠ o'.native →
    ¬ Confusable o.native o'.native
  links : ∀ o ∈ objects, ∀ o' ∈ objects, ∀ link ∈ o.parents, o'.native.Valid →
    o'.native.conversation ≠ o.native.conversation → ¬ Confusable link o'.native

/-! ## Identifiers -/

theorem isBlank_colon : isBlank colon = false := by decide

theorem dropWhile_str (n : NativeId) : n.str.dropWhile isBlank = n.str := by
  have hlead : ∀ kind : ObjectKind, ∃ c s, key kind.lead = c :: s ∧ isBlank c = false := by
    intro kind
    cases kind <;> exact ⟨_, _, rfl, by decide⟩
  obtain ⟨c, s, hc, hblank⟩ := hlead n.kind
  rw [NativeId.str, hc, List.cons_append, List.cons_append, List.dropWhile_cons_of_neg (by simp [hblank])]

theorem rdropWhile_str (n : NativeId) : n.str.rdropWhile isBlank = n.stripped := by
  have htail : ∀ kind : ObjectKind, kind.tail ≠ "" →
      ∃ s c, key kind.tail = s ++ [c] ∧ isBlank c = false := by
    intro kind htail
    cases kind with
    | conversationFields => exact ⟨key ":conversatio", .scalar 'n', rfl, by decide⟩
    | nodeFields => exact ⟨key ":nod", .scalar 'e', rfl, by decide⟩
    | messageFields => exact ⟨key ":messag", .scalar 'e', rfl, by decide⟩
    | _ => exact absurd rfl htail
  rw [NativeId.str, NativeId.stripped, NativeId.parts]
  split_ifs with h
  · rw [h]
    have hnil : key "" = [] := rfl
    rw [hnil, List.append_nil, List.append_nil]
    exact rdropWhile_intercalate isBlank_colon _ (List.cons_ne_nil _ _)
  · obtain ⟨s, c, hc, hblank⟩ := htail n.kind h
    rw [hc, ← List.append_assoc, List.rdropWhile_concat_neg _ _ _ (by simp [hblank])]

theorem ofText_strip {n : NativeId} {t : Text} (h : n.str = Str.ofText t) :
    Str.ofText (strip t) = n.stripped := by
  have hcomp : isSpace = isBlank ∘ CodePoint.scalar := rfl
  have hdrop : ∀ s : Text, Str.ofText (s.dropWhile isSpace) = (Str.ofText s).dropWhile isBlank :=
    fun s => by rw [Str.ofText, Str.ofText, List.dropWhile_map, ← hcomp]
  rw [← rdropWhile_str, ← dropWhile_str, h, ← hdrop, strip, rstrip, List.rdropWhile, List.rdropWhile,
    Str.ofText, List.map_reverse, ← Str.ofText, hdrop, Str.ofText, List.map_reverse, ← Str.ofText]

/-! ## Confusable identities -/

theorem colon_notMem_lead (kind : ObjectKind) : colon ∉ key kind.lead := by
  cases kind <;> decide

/-- Kinds are told apart by what their identifiers begin and end with. -/
theorem kind_eq {kind kind' : ObjectKind} {s s' : Str} (hlead : key kind.lead = key kind'.lead)
    (htail : s ++ key kind.tail = s' ++ key kind'.tail) : kind = kind' := by
  have hends := congrArg List.reverse htail
  rw [List.reverse_append, List.reverse_append] at hends
  cases kind <;> cases kind' <;> first
    | rfl
    | exact absurd hlead (by decide)
    | exact absurd (congrArg (List.take 2) hends) (by simp [ObjectKind.tail, key, Str.ofText])

theorem length_parts (n : NativeId) : n.parts.length = n.kind.arity + 1 := by
  rw [NativeId.parts]
  split_ifs
  · rw [length_trimLast, List.length_cons, n.path_length]
  · rw [List.length_cons, n.path_length]

/-- Two identities become one identifier exactly if they are confusable. -/
theorem stripped_eq_iff {n n' : NativeId} : n.stripped = n'.stripped ↔ Confusable n n' := by
  have hparts : ∀ n : NativeId, n.parts ≠ [] := fun n =>
    List.ne_nil_of_length_pos (by rw [length_parts]; exact Nat.succ_pos _)
  rw [NativeId.stripped, NativeId.stripped, List.append_assoc, List.append_assoc, List.cons_append,
    List.cons_append]
  constructor
  · intro h
    obtain ⟨hlead, hrest⟩ := append_cons_inj (colon_notMem_lead n.kind) (colon_notMem_lead n'.kind) h
    have hkind := kind_eq hlead hrest
    refine ⟨hkind, (intercalate_eq_iff (hparts n) ?_).1 ?_⟩
    · rw [length_parts, length_parts, hkind]
    · rw [hkind] at hrest
      exact List.append_cancel_right hrest
  · rintro ⟨hkind, hshifted⟩
    have hjoined := (intercalate_eq_iff (hparts n) (by rw [length_parts, length_parts, hkind])).2 hshifted
    rw [hkind, hjoined]

/-! ## Raw objects -/

section

variable [PythonLibrary] [ImportLibrary]

/-- The identifier under which a raw object is reported is the one that it has, if that is valid. -/
theorem reportedId_eq {raw : RawObject} {value : List (Text × TextValue)}
    (hvalue : raw.value = some (.obj value)) (hreason : raw.parseReason = none) :
    raw.reportedId = validateSourceId (entry value "source_object_id".toList) := by
  rw [RawObject.reportedId, hreason]
  dsimp only
  split
  · rename_i candidate h
    rw [parseCandidate, hvalue] at h
    obtain ⟨id, hid, h⟩ := bind_eq_ok.1 h
    obtain ⟨-, h⟩ := check_bind_eq_ok.1 h
    obtain ⟨_, -, h⟩ := bind_eq_ok.1 h
    obtain ⟨_, -, h⟩ := bind_eq_ok.1 h
    obtain ⟨-, h⟩ := check_bind_eq_ok.1 h
    split at h
    · cases pure_eq_ok.1 h
      exact (orFail_eq_ok.1 hid).symm
    · cases h
  · -- whatever is wrong with the rest of the object, it is reported with its identifier
    rename_i problem h
    rw [parseCandidate, hvalue] at h
    rcases bind_eq_error.1 h with h | ⟨id, hid, h⟩
    · obtain ⟨hnone, rfl⟩ := orFail_eq_error.1 h
      exact hnone.symm
    have hid := (orFail_eq_ok.1 hid).symm
    rcases bind_eq_error.1 h with h | ⟨_, -, h⟩
    · exact (ensure_eq_error.1 h).2 ▸ hid
    rcases bind_eq_error.1 h with h | ⟨_, -, h⟩
    · exact (orFail_eq_error.1 h).2 ▸ hid
    rcases bind_eq_error.1 h with h | ⟨_, -, h⟩
    · exact (orFail_eq_error.1 h).2 ▸ hid
    rcases bind_eq_error.1 h with h | ⟨_, -, h⟩
    · exact (ensure_eq_error.1 h).2 ▸ hid
    split at h
    · cases h
    · cases h
      exact hid

omit [PythonLibrary] [ImportLibrary] in
theorem toEntries?_cons {e : Str × Json} {es : List (Str × Json)} {ws : List (Text × TextValue)}
    (h : toEntries? (e :: es) = some ws) : ∃ name w rest, e.1 = Str.ofText name ∧
      e.2.toText? = some w ∧ toEntries? es = some rest ∧ ws = (name, w) :: rest := by
  obtain ⟨name, hname, h⟩ := Option.bind_eq_some_iff.1 h
  obtain ⟨w, hw, h⟩ := Option.bind_eq_some_iff.1 h
  obtain ⟨rest, hrest, h⟩ := Option.bind_eq_some_iff.1 h
  cases h
  exact ⟨name, w, rest, ofText_of_toText? hname, hw, hrest, rfl⟩

omit [PythonLibrary] [ImportLibrary] in
/-- The keys of an object without surrogates are those of the object. -/
theorem keys_toEntries? {es : List (Str × Json)} {ws : List (Text × TextValue)}
    (h : toEntries? es = some ws) : ws.map (Str.ofText ∘ Prod.fst) = es.map Prod.fst := by
  induction es generalizing ws with
  | nil =>
    cases h
    rfl
  | cons e es ih =>
    obtain ⟨name, w, rest, hname, -, hrest, rfl⟩ := toEntries?_cons h
    rw [List.map_cons, List.map_cons, ih hrest, hname]
    rfl

/-- The raw object that is read is reported under the identifier that was written. -/
theorem reportedId_of_written {o : SourceObject} {raw : RawObject} (h : WrittenAs o raw) :
    ∃ t, o.native.str = Str.ofText t ∧ raw.reportedId = validateSourceId (.str t) := by
  obtain ⟨w, hw, hvalue, hreason⟩ := h
  obtain ⟨ws, hws, rfl⟩ := Option.map_eq_some_iff.1 hw
  have hkeys := keys_toEntries? hws
  obtain ⟨name, id, rest, hname, hid, -, rfl⟩ := toEntries?_cons hws
  obtain ⟨t, ht, rfl⟩ := Option.map_eq_some_iff.1 hid
  obtain rfl := ofText_injective hname
  have hnodup : ((canonicalEntries ImportLibrary.floatRepr
      (("source_object_id".toList, .str t) :: rest)).map Prod.fst).Nodup := by
    rw [canonicalEntries_eq_map, List.map_map]
    have hdistinct : (["source_object_id", "source_type", "parent_source_object_ids",
        "payload"].map key).Nodup := by decide
    refine List.Nodup.of_map Str.ofText ?_
    rw [List.map_map]
    exact hkeys ▸ hdistinct
  refine ⟨t, ofText_of_toText? ht, ?_⟩
  rw [reportedId_eq hvalue hreason,
    entry_of_perm (List.perm_insertionSort _ _) hnodup List.mem_cons_self]
  rfl

omit [PythonLibrary] [ImportLibrary] in
theorem validateSourceId_eq_some {t id : Text} : validateSourceId (.str t) = some id ↔
    id = strip t ∧ id ≠ [] ∧ id.length ≤ 1024 ∧ Import.hasControl id = false := by
  rw [validateSourceId]
  constructor
  · intro h
    split_ifs at h with hvalid
    cases h
    exact ⟨rfl, hvalid⟩
  · rintro ⟨rfl, hvalid⟩
    exact if_pos hvalid

omit [PythonLibrary] [ImportLibrary] in
/-- Two identifiers are taken for one by the generic stager exactly if it takes the one and they are
confusable. -/
theorem validateSourceId_eq_iff {n n' : NativeId} {t t' id : Text} (ht : n.str = Str.ofText t)
    (ht' : n'.str = Str.ofText t') (hid : validateSourceId (.str t) = some id) :
    validateSourceId (.str t') = some id ↔ Confusable n n' := by
  obtain ⟨rfl, hvalid⟩ := validateSourceId_eq_some.1 hid
  rw [validateSourceId_eq_some, ← stripped_eq_iff, ← ofText_strip ht, ← ofText_strip ht']
  exact ⟨fun h => congrArg _ h.1, fun h => ⟨ofText_injective h, hvalid⟩⟩

omit [PythonLibrary] [ImportLibrary] in
theorem confusable_comm {n n' : NativeId} : Confusable n n' ↔ Confusable n' n := by
  rw [← stripped_eq_iff, ← stripped_eq_iff, eq_comm]

omit [PythonLibrary] [ImportLibrary] in
/-- What can be confused with a text is one. -/
theorem exists_ofText_of_confusable {n n' : NativeId} {t' : Text} (h : Confusable n n')
    (ht' : n'.str = Str.ofText t') : ∃ t, n.str = Str.ofText t := by
  have hstripped := stripped_eq_iff.2 h
  rw [← rdropWhile_str, ← ofText_strip ht'] at hstripped
  have hscalar : ∀ s : Str, (∀ c ∈ s, isBlank c = true) → ∃ t, s = Str.ofText t := by
    intro s hs
    induction s with
    | nil => exact ⟨[], rfl⟩
    | cons c s ih =>
      obtain ⟨hc, hs⟩ := List.forall_mem_cons.1 hs
      obtain ⟨t, rfl⟩ := ih hs
      cases c with
      | scalar c => exact ⟨c :: t, rfl⟩
      | surrogate c => cases hc
  obtain ⟨u, hu⟩ := hscalar (n.str.rtakeWhile isBlank) fun c hc => List.mem_rtakeWhile_imp hc
  refine ⟨strip t' ++ u, ?_⟩
  rw [← List.rdropWhile_append_rtakeWhile (p := isBlank) (l := n.str), hstripped, hu, Str.ofText,
    Str.ofText, Str.ofText, List.map_append]

/-- The rule for objects that have been written and read. -/
theorem keepsIdentity_of_written {objects : List SourceObject} {raws : List RawObject}
    (hwritten : List.Forall₂ WrittenAs objects raws) :
    KeepsIdentity (objects.zip raws) ↔ Separate objects := by
  have hzip : ∀ x ∈ objects.zip raws, x.1 ∈ objects ∧ WrittenAs x.1 x.2 := fun x hx =>
    ⟨(List.of_mem_zip hx).1, List.forall₂_iff_zip.1 hwritten |>.2 hx⟩
  have hof : ∀ o ∈ objects, ∃ raw, (o, raw) ∈ objects.zip raws := by
    intro o ho
    rw [← List.map_fst_zip hwritten.length_eq.le] at ho
    obtain ⟨⟨o', raw⟩, hmem, rfl⟩ := List.mem_map.1 ho
    exact ⟨raw, hmem⟩
  -- a valid object is reported under every identifier that it can be confused with
  have hreport : ∀ o' raw', (o', raw') ∈ objects.zip raws → ∀ (n : NativeId) (t id : Text),
      n.str = Str.ofText t → validateSourceId (.str t) = some id →
      (raw'.reportedId = some id ↔ Confusable n o'.native) := by
    intro o' raw' hmem n t id ht hid
    obtain ⟨t', ht', hreported⟩ := reportedId_of_written (hzip _ hmem).2
    rw [hreported, validateSourceId_eq_iff ht ht' hid]
  constructor
  · intro h
    refine ⟨fun o ho o' ho' ⟨t, id, ht, hid⟩ hne hconfusable => ?_,
      fun o ho o' ho' link hlink ⟨t', id, ht', hid⟩ hne hconfusable => ?_⟩
    · obtain ⟨raw, hraw⟩ := hof o ho
      obtain ⟨raw', hraw'⟩ := hof o' ho'
      have hself := (hreport o raw hraw _ t id ht hid).2 (stripped_eq_iff.1 rfl)
      exact hne (h.apart _ hraw _ hraw' id hself ((hreport o' raw' hraw' _ t id ht hid).2 hconfusable))
    · obtain ⟨raw, hraw⟩ := hof o ho
      obtain ⟨raw', hraw'⟩ := hof o' ho'
      obtain ⟨t, ht⟩ := exists_ofText_of_confusable hconfusable ht'
      have hlinkId := (validateSourceId_eq_iff ht' ht hid).2 (confusable_comm.1 hconfusable)
      have hself := (hreport o' raw' hraw' _ t' id ht' hid).2 (stripped_eq_iff.1 rfl)
      exact hne (h.links _ hraw _ hraw' link hlink t id ht hlinkId hself)
  · intro h
    refine ⟨fun x hx y hy id hid hid' => ?_, fun x hx y hy link hlink t id ht hid hid' => ?_⟩
    · obtain ⟨t, ht, hreported⟩ := reportedId_of_written (hzip _ hx).2
      rw [hreported] at hid
      by_contra hne
      exact h.apart _ (hzip _ hx).1 _ (hzip _ hy).1 ⟨t, id, ht, hid⟩ hne
        ((hreport y.1 y.2 hy _ t id ht hid).1 hid')
    · by_contra hne
      obtain ⟨t', ht', hreported⟩ := reportedId_of_written (hzip _ hy).2
      rw [hreported] at hid'
      exact h.links _ (hzip _ hx).1 _ (hzip _ hy).1 link hlink ⟨t', id, ht', hid'⟩ hne
        ((validateSourceId_eq_iff ht ht' hid).1 hid')

/-! ## Sources -/

variable [HistoryLibrary]

/-- A source for one of the adapters. -/
inductive Source where
  | chatGPT (adapter : ChatGPT.Adapter) (sourceBytes : ByteArray) (args : ChatGPT.StageArgs)
  | ollama (adapter : Ollama.Adapter) (sourceBytes : ByteArray) (batch : BatchContext)

/-- The adapter accepts the source. -/
def Source.Accepted : Source → Prop
  | .chatGPT adapter sourceBytes args => ∃ result, adapter.stage sourceBytes args = .ok result
  | .ollama adapter sourceBytes batch => ∃ result, adapter.stage sourceBytes batch = .ok result

/-- The objects of the source, and the stager that they are staged with. -/
def Source.prepare : Source → Staged (List SourceObject × Stager)
  | .chatGPT adapter sourceBytes args => do
    let p ← adapter.prepare sourceBytes args
    return (p.mapped.1, p.stager)
  | .ollama adapter sourceBytes _ => do
    let p ← adapter.prepare sourceBytes
    return (p.mapped.objects, p.stager)

omit [HistoryLibrary] in
theorem exists_rawsOf {stager : Stager} {sourceRootHash : Digest} {objects : List SourceObject}
    {ctx : BatchContext} {staged : GenericImportStageResult}
    (h : stageObjects stager sourceRootHash objects ctx = .ok staged) :
    ∃ raws, rawsOf stager objects = .ok raws := by
  obtain ⟨genericText, hdumps, h⟩ := bind_eq_ok.1 h
  obtain ⟨staged, hstaged, -⟩ := bind_eq_ok.1 h
  obtain ⟨sourceText, hbytes, hstaged⟩ := bind_eq_ok.1 hstaged
  obtain ⟨⟨version, raws⟩, hread, -⟩ := bind_eq_ok.1 hstaged
  obtain ⟨-, hbytes⟩ := check_bind_eq_ok.1 hbytes
  obtain ⟨-, hbytes⟩ := check_bind_eq_ok.1 hbytes
  obtain ⟨-, hbytes⟩ := check_bind_eq_ok.1 hbytes
  have hdecoded := orFail_eq_ok.1 hbytes
  rw [decodeUtf8_encodeUtf8] at hdecoded
  cases hdecoded
  exact ⟨raws, bind_eq_ok.2 ⟨genericText, hdumps, bind_eq_ok.2 ⟨_, hread, rfl⟩⟩⟩

theorem Source.Accepted.exists_rawsOf {source : Source} (h : source.Accepted) :
    ∃ objects stager raws, source.prepare = .ok (objects, stager) ∧
      rawsOf stager objects = .ok raws := by
  cases source with
  | chatGPT adapter sourceBytes args =>
    obtain ⟨result, h⟩ := h
    obtain ⟨p, hp, h⟩ := bind_eq_ok.1 h
    obtain ⟨staged, hstaged, -⟩ := bind_eq_ok.1 h
    obtain ⟨raws, hraws⟩ := History.exists_rawsOf hstaged
    exact ⟨_, _, raws, bind_eq_ok.2 ⟨p, hp, rfl⟩, hraws⟩
  | ollama adapter sourceBytes batch =>
    obtain ⟨result, h⟩ := h
    obtain ⟨p, hp, h⟩ := bind_eq_ok.1 h
    obtain ⟨staged, hstaged, -⟩ := bind_eq_ok.1 h
    obtain ⟨raws, hraws⟩ := History.exists_rawsOf hstaged
    exact ⟨_, _, raws, bind_eq_ok.2 ⟨p, hp, rfl⟩, hraws⟩

/-- For every source that its adapter accepts: the identities of its objects are kept exactly if no two
of them, and no link and an object of another conversation, can be confused. -/
theorem keepsIdentity_iff (hfloat : LawfulFloatRepr) {source : Source} (h : source.Accepted) :
    ∃ objects stager raws, source.prepare = .ok (objects, stager) ∧
      rawsOf stager objects = .ok raws ∧ (KeepsIdentity (objects.zip raws) ↔ Separate objects) := by
  obtain ⟨objects, stager, raws, hprepare, hraws⟩ := h.exists_rawsOf
  refine ⟨objects, stager, raws, hprepare, hraws, ?_⟩
  obtain ⟨genericText, hdumps, hraws⟩ := bind_eq_ok.1 hraws
  obtain ⟨⟨version, raws⟩, hread, hraws⟩ := bind_eq_ok.1 hraws
  cases hraws
  exact keepsIdentity_of_written (readText_dumps hfloat hdumps hread)

end

/-! ## Identifiers with blanks -/

section Runs

/-- Whether a text is that of a float. -/
def isFloat (t : Text) : Bool := t.all isNumberChar && t.any fun c => !c.isDigit && c ≠ '-'

/-- The parts of a generic import as for its own runs, where only a float is written as one. -/
@[reducible] def exampleImports : ImportLibrary :=
  { standardLibrary with
    floatRepr := fun literal => if isFloat literal then standardLibrary.floatRepr literal else none }

/-- The source of the example has neither times nor numbers. -/
@[reducible] def exampleHistory : HistoryLibrary where
  fromisoformat _ := none
  utcText value := some (writeTimestamp value.instant)
  timestampText _ := none
  sameValue _ _ := false
  fingerprint _ := 0

attribute [local instance] asciiLibrary exampleImports exampleHistory

theorem lawful_exampleImports : LawfulFloatRepr := by
  intro literal t h
  have hrepr : (if isFloat literal then standardLibrary.floatRepr literal else none) = some t := h
  split_ifs at hrepr with hfloat
  have ht : literal = t := by
    change (if overflows literal then none else some literal) = some t at hrepr
    split_ifs at hrepr
    exact Option.some.inj hrepr
  obtain rfl := ht
  rw [isFloat, Bool.and_eq_true, List.all_eq_true, List.any_eq_true] at hfloat
  obtain ⟨hchars, c, hc, hpoint⟩ := hfloat
  refine ⟨hchars, c, hc, ?_⟩
  simpa using hpoint

def exampleAdapter : ChatGPT.Adapter where
  contract := { genericAdapter with
    adapterId := "chatgpt-conversations".toList
    sourceEnvironmentClass := "cloud-ai-history-export".toList
    supportedSourceVersions := ["observed-v1".toList]
    supportedEventTypes := ["conversation".toList, "user-message".toList]
    attachmentBehavior := .metadataOnly
    adapterId_ok := by decide }
  adapterId := rfl
  adapterVersion := rfl
  environmentClass := rfl
  offline := rfl

/-- Two conversations without nodes, whose identifiers are those of `blankArgs`. -/
def blankExport : Text :=
  "[\x7b\"id\":\"a\",\"mapping\":\x7b\x7d\x7d,\x7b\"id\":\"a \",\"mapping\":\x7b\x7d\x7d]".toList

def blankArgs : ChatGPT.StageArgs where
  sourceEnvironmentId := "11111111-1111-4111-8111-111111111111".toList
  selectedConversationIds := [key "a", key "a "]
  batch := genericBatch
  observedAt := "2026-01-01T00:00:00Z".toList

def blankSource : Source := .chatGPT exampleAdapter (encodeUtf8 blankExport) blankArgs

theorem readBytes_encodeUtf8 {stager : Stager} {sourceFormat : SourceFormat} (text : Text) :
    stager.readBytes (encodeUtf8 text) sourceFormat = (do
      ensure (utf8Length text ≤ stager.adapter.resourceLimits.maxInputBytes)
        (staging "source input exceeds adapter byte limit")
      ensure (utf8Length text ≠ 0) (staging "source input must not be empty")
      ensure (∀ format ∈ stager.environment.exportFormat, format = sourceFormat.text)
        (staging "source format does not match source environment")
      return text) := by
  rw [Stager.readBytes, size_encodeUtf8, decodeUtf8_encodeUtf8]
  rfl

theorem accepted_blankSource : blankSource.Accepted := by
  have hok : (exampleAdapter.stage (encodeUtf8 blankExport) blankArgs).isOk = true := by
    rw [ChatGPT.Adapter.stage, ChatGPT.Adapter.prepare, ChatGPT.Adapter.loadRoot, size_encodeUtf8,
      decodeUtf8_encodeUtf8]
    simp only [stageObjects, Stager.stage, readBytes_encodeUtf8]
    decide +kernel
  revert hok
  generalize hstage : exampleAdapter.stage (encodeUtf8 blankExport) blankArgs = outcome
  cases outcome with
  | ok result => exact fun _ => ⟨result, hstage⟩
  | error e =>
    intro h
    cases h

/-- The objects of a source with the identifiers that they are reported under. -/
def reported (source : Source) : Staged (List (NativeId × Option Text)) := do
  let (objects, stager) ← source.prepare
  let raws ← rawsOf stager objects
  return (objects.zip raws).map fun x => (x.1.native, x.2.reportedId)

theorem reported_blankSource : reported blankSource =
    .ok ([key "a", key "a "].map fun name =>
      (ChatGPT.conversationId name, some "conversation:a".toList)) := by
  rw [reported, blankSource, Source.prepare, ChatGPT.Adapter.prepare, ChatGPT.Adapter.loadRoot,
    size_encodeUtf8, decodeUtf8_encodeUtf8]
  decide +kernel

/-- The two conversations become one object. -/
theorem not_keepsIdentity :
    ¬ ∀ source : Source, source.Accepted → ∀ objects stager raws,
      source.prepare = .ok (objects, stager) → rawsOf stager objects = .ok raws →
      KeepsIdentity (objects.zip raws) := by
  intro h
  obtain ⟨objects, stager, raws, hprepare, hraws⟩ := accepted_blankSource.exists_rawsOf
  have hreported := reported_blankSource
  rw [reported, hprepare] at hreported
  change (rawsOf stager objects >>= _) = _ at hreported
  rw [hraws] at hreported
  have hobjects := Except.ok.inj hreported
  have hfound : ∀ name ∈ [key "a", key "a "], ∃ x ∈ objects.zip raws,
      x.1.native = ChatGPT.conversationId name ∧ x.2.reportedId = some "conversation:a".toList := by
    intro name hname
    have hmem := List.mem_map_of_mem
      (f := fun name => (ChatGPT.conversationId name, some "conversation:a".toList)) hname
    rw [← hobjects] at hmem
    obtain ⟨x, hx, heq⟩ := List.mem_map.1 hmem
    exact ⟨x, hx, congrArg Prod.fst heq, congrArg Prod.snd heq⟩
  obtain ⟨x, hx, hfirst, hxid⟩ := hfound _ List.mem_cons_self
  obtain ⟨y, hy, hsecond, hyid⟩ := hfound _ (List.mem_cons_of_mem _ List.mem_cons_self)
  have hkeeps := h blankSource accepted_blankSource objects stager raws hprepare hraws
  have hsame := hkeeps.apart x hx y hy _ hxid hyid
  rw [hfirst, hsecond] at hsame
  exact absurd hsame (by decide)

theorem keepsIdentity_iff_blankSource : ∃ objects stager raws,
    blankSource.prepare = .ok (objects, stager) ∧ rawsOf stager objects = .ok raws ∧
      (KeepsIdentity (objects.zip raws) ↔ Separate objects) :=
  keepsIdentity_iff lawful_exampleImports accepted_blankSource

end Runs

end DollState.History
