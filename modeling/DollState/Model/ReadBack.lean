import DollState.Model.Bindings

/-!
# What is stored of a manifest's fields

Every call normalises the values it stores, and the readers check and normalise them once more. A
normal form is accepted again, as it is, by all the checks but one: the names of checksum algorithms
are lowered when they are stored, and the reader rejects two entries of one name.
-/

namespace DollState.Model

open StateLib

/-! ## Texts and numbers -/

theorem token_str {label label' : String} {value : Json} {s : Text} (h : token label value = .ok s) :
    token label' (.str s) = .ok s := token_eq_ok.2 ⟨rfl, (token_eq_ok.1 h).2⟩

theorem locator_str {value : Json} {s : Text} (h : locator value = .ok s) : locator (.str s) = .ok s := by
  obtain ⟨_, htext, h⟩ := bind_eq_ok.1 h
  obtain ⟨hsafe, h⟩ := check_bind_eq_ok.1 h
  obtain rfl := pure_eq_ok.1 h
  exact bind_eq_ok.2 ⟨_, text_str htext, check_bind_eq_ok.2 ⟨hsafe, rfl⟩⟩

theorem optional_token {label label' : String} {value : Option Text} {s : Option Text}
    (h : optional (token label) (.ofText? value) = .ok s) :
    optional (token label') (.ofText? s) = .ok s := by
  cases value with
  | none =>
    cases h
    rfl
  | some t =>
    obtain ⟨t', ht, rfl⟩ := map_eq_ok.1 h
    exact map_eq_ok.2 ⟨t', token_str ht, rfl⟩

theorem optional_positiveInt {label label' : String} {value : Option Int} {i : Option Int}
    (h : optional (positiveInt label) (optionalInt value) = .ok i) :
    optional (positiveInt label') (optionalInt i) = .ok i := by
  cases value with
  | none =>
    cases h
    rfl
  | some j =>
    obtain ⟨j', hj, rfl⟩ := map_eq_ok.1 h
    exact map_eq_ok.2 ⟨j', positiveInt_eq_ok.2 ⟨rfl, (positiveInt_eq_ok.1 hj).2⟩, rfl⟩

theorem fingerprint_hexDigits (n : ℕ) :
    fingerprint (.str ("sha256:".toList ++ hexDigits 64 n)) = .ok ("sha256:".toList ++ hexDigits 64 n) := by
  have hdigit : ∀ n < 16, ((hexDigit n).isDigit || ('a' ≤ hexDigit n && hexDigit n ≤ 'f')) = true := by decide
  have hlength : "sha256:".toList.length = 7 := by decide
  rw [fingerprint, ensure_of]
  · rfl
  · rw [List.drop_left' hlength, length_hexDigits, List.isPrefixOf_iff_prefix, List.all_eq_true]
    refine ⟨List.prefix_append _ _, rfl, fun d hd => ?_⟩
    obtain ⟨n, hn, rfl⟩ := isHexDigit_of_mem_hexDigits hd
    exact hdigit n hn

/-! ## Lists -/

theorem sortTexts_sortTexts (values : List Text) : sortTexts (sortTexts values) = sortTexts values :=
  (List.pairwise_insertionSort (· ≤ ·) values).insertionSort_eq

/-- Texts that a check has accepted are accepted again. -/
theorem mapM_str {check check' : Json → Result Text} (hagain : ∀ v s, check v = .ok s → check' (.str s) = .ok s)
    {values : List Json} {raw texts : List Text} (h : values.mapM check = .ok raw) (hmem : ∀ s ∈ texts, s ∈ raw) :
    (texts.map .str).mapM check' = .ok texts := by
  rw [mapM_eq_ok, List.forall₂_map_left_iff, List.forall₂_same]
  intro s hs
  obtain ⟨v, -, hv⟩ := exists_of_mem_mapM h (hmem s hs)
  exact hagain v s hv

theorem tokens_textList {label label' : String} {values : List Json} {allowed : Option (List Text)}
    {texts : List Text} (h : tokens label values allowed = .ok texts) :
    (do tokens label' (← list (textList texts)) allowed) = .ok texts := by
  obtain ⟨hlength, h⟩ := check_bind_eq_ok.1 h
  obtain ⟨raw, hraw, h⟩ := bind_eq_ok.1 h
  obtain ⟨hnodup, h⟩ := check_bind_eq_ok.1 h
  obtain ⟨hallowed, h⟩ := check_bind_eq_ok.1 h
  have htexts := pure_eq_ok.1 h
  rw [htexts] at hnodup hallowed
  have hperm : texts.Perm raw := htexts ▸ List.perm_insertionSort (· ≤ ·) raw
  have hlen : (texts.map Json.str).length ≤ maxList := by
    rw [List.length_map, hperm.length_eq, ← (mapM_eq_ok.1 hraw).length_eq]
    exact ensure_eq_ok.1 hlength
  have hread := mapM_str (fun _ _ h => (token_str h : token label' _ = _)) hraw fun s => hperm.mem_iff.1
  have hsorted : sortTexts texts = texts := by rw [← htexts, sortTexts_sortTexts]
  refine bind_eq_ok.2 ⟨_, rfl, check_bind_eq_ok.2 ⟨ensure_eq_ok.2 hlen, bind_eq_ok.2 ⟨texts, hread, ?_⟩⟩⟩
  simp only [hsorted]
  exact check_bind_eq_ok.2 ⟨ensure_eq_ok.2 (ensure_eq_ok.1 hnodup),
    check_bind_eq_ok.2 ⟨ensure_eq_ok.2 (ensure_eq_ok.1 hallowed), rfl⟩⟩

theorem reference_str {v : Json} {s : Text} (h : reference v = .ok s) : reference (.str s) = .ok s := by
  obtain ⟨_, htext, h⟩ := bind_eq_ok.1 h
  obtain ⟨hsafe, h⟩ := check_bind_eq_ok.1 h
  obtain rfl := pure_eq_ok.1 h
  exact bind_eq_ok.2 ⟨_, text_str htext, check_bind_eq_ok.2 ⟨hsafe, rfl⟩⟩

theorem references_textList {values : List Json} {texts : List Text} (h : references values = .ok texts) :
    (do references (← list (textList texts))) = .ok texts := by
  obtain ⟨hlength, h⟩ := check_bind_eq_ok.1 h
  obtain ⟨raw, hraw, h⟩ := bind_eq_ok.1 h
  obtain ⟨hnodup, h⟩ := check_bind_eq_ok.1 h
  have htexts := pure_eq_ok.1 h
  have hperm : texts.Perm raw := htexts ▸ List.perm_insertionSort (· ≤ ·) raw
  have hlen : (texts.map Json.str).length ≤ maxReferences := by
    rw [List.length_map, hperm.length_eq, ← (mapM_eq_ok.1 hraw).length_eq]
    exact ensure_eq_ok.1 hlength
  have hread := mapM_str (fun _ _ => reference_str) hraw fun s => hperm.mem_iff.1
  have hsorted : sortTexts texts = texts := by rw [← htexts, sortTexts_sortTexts]
  refine bind_eq_ok.2 ⟨_, rfl, check_bind_eq_ok.2 ⟨ensure_eq_ok.2 hlen, bind_eq_ok.2 ⟨texts, hread, ?_⟩⟩⟩
  refine check_bind_eq_ok.2 ⟨ensure_eq_ok.2 (hperm.nodup_iff.2 (ensure_eq_ok.1 hnodup)), ?_⟩
  rw [hsorted]
  rfl

/-! ## Checksums -/

/-- What is documented of `str.lower`: of ASCII text it changes the capital letters alone. -/
structure LowersAscii [CaseLibrary] : Prop where
  lower : ∀ text : Text, (∀ c ∈ text, c.toNat < 128) → CaseLibrary.lower text = text.map Char.toLower

/-- What holds of the ASCII characters one by one. -/
theorem forall_ascii {p : Char → Prop} (h : ∀ n < 128, p (Char.ofNat n)) {c : Char} (hc : c.toNat < 128) : p c := by
  have hp := h c.toNat hc
  rwa [Char.ofNat_toNat] at hp

/-- A lower-case hexadecimal digit, as `isChecksum` tests it. -/
def isChecksumDigit (c : Char) : Bool := c.isDigit || ('a' ≤ c && c ≤ 'f')

theorem toNat_lt_of_isChecksumDigit {c : Char} (h : isChecksumDigit c = true) : c.toNat < 128 := by
  rw [isChecksumDigit, Bool.or_eq_true, Bool.and_eq_true, decide_eq_true_eq, decide_eq_true_eq] at h
  rcases h with h | ⟨-, h⟩
  · exact (isAlphanum_range (by simp [Char.isAlphanum, h])).2
  · have hle : c.toNat ≤ 'f'.toNat := h
    exact hle.trans_lt (by decide)

/-- What a lower-case hexadecimal digit is not. -/
theorem checksumDigit_facts {c : Char} (h : isChecksumDigit c = true) :
    c.toLower = c ∧ isSpace c = false ∧ c ≠ '/' ∧ c ≠ ':' ∧ c ≠ '\x00' := by
  have hall : ∀ n < 128, isChecksumDigit (Char.ofNat n) = true → (Char.ofNat n).toLower = Char.ofNat n ∧
      isSpace (Char.ofNat n) = false ∧ Char.ofNat n ≠ '/' ∧ Char.ofNat n ≠ ':' ∧ Char.ofNat n ≠ '\x00' := by
    decide
  exact forall_ascii (p := fun c => isChecksumDigit c = true → c.toLower = c ∧ isSpace c = false ∧ c ≠ '/' ∧
    c ≠ ':' ∧ c ≠ '\x00') hall (toNat_lt_of_isChecksumDigit h) h

theorem contains_eq_false {needle s : Text} {d : Char} (hd : d ∈ needle) (h : d ∉ s) :
    contains needle s = false := by
  have hprefix : ∀ t : Text, d ∉ t → needle.isPrefixOf t = false := by
    intro t ht
    rw [Bool.eq_false_iff]
    exact fun hp => ht ((List.isPrefixOf_iff_prefix.1 hp).subset hd)
  induction s with
  | nil => exact hprefix [] h
  | cons c s ih =>
    rw [contains, hprefix _ h, ih fun hmem => h (List.mem_cons_of_mem c hmem)]
    rfl

theorem startsWithDrive_eq_false {s : Text} (h : ':' ∉ s) : startsWithDrive s = false := by
  unfold startsWithDrive
  split
  · exact absurd (List.mem_cons_of_mem _ List.mem_cons_self) h
  · rfl

theorem hasPrivatePath_eq_false {s : Text} (hslash : '/' ∉ s) (hcolon : ':' ∉ s) : hasPrivatePath s = false := by
  rw [hasPrivatePath, contains_eq_false (d := '/') (by decide) hslash,
    contains_eq_false (d := '/') (by decide) hslash, contains_eq_false (d := '/') (by decide) hslash, Bool.false_or,
    Bool.false_or, Bool.false_or, List.any_eq_false]
  intro t ht
  have hsuffix : t <:+ s := (List.mem_tails _ _).1 ht
  rw [startsWithDrive_eq_false fun hmem => hcolon (hsuffix.subset hmem)]
  exact Bool.false_ne_true

theorem text_of_isChecksum {label : String} {value : Text} (h : isChecksum value = true) :
    text label (.str value) 256 = .ok value := by
  simp only [isChecksum, Bool.and_eq_true, decide_eq_true_eq, List.all_eq_true] at h
  obtain ⟨⟨hmin, hmax⟩, hdigits⟩ := h
  have hfacts := fun c hc => checksumDigit_facts (hdigits c hc)
  refine check_bind_eq_ok.2 ⟨ensure_eq_ok.2 ⟨fun hnil => ?_, hmax, ?_⟩,
    check_bind_eq_ok.2 ⟨ensure_eq_ok.2 ⟨fun hmem => ?_, hasPrivatePath_eq_false (fun hmem => ?_) fun hmem => ?_⟩, rfl⟩⟩
  · rw [hnil] at hmin
    exact absurd hmin (by decide)
  · exact strip_eq_self (stripped_of_all fun c hc => (hfacts c hc).2.1)
  · exact (hfacts _ hmem).2.2.2.2 rfl
  · exact (hfacts _ hmem).2.2.1 rfl
  · exact (hfacts _ hmem).2.2.2.1 rfl

theorem toNat_lt_of_isManifestToken {s : Text} (h : isManifestToken s = true) : ∀ c ∈ s, c.toNat < 128 := by
  cases s with
  | nil => cases h
  | cons c s =>
    simp only [isManifestToken, Bool.and_eq_true, List.all_eq_true, Bool.or_eq_true, beq_iff_eq] at h
    refine List.forall_mem_cons.2 ⟨(isAlphanum_range h.1.1).2, fun d hd => ?_⟩
    obtain ((((hd | rfl) | rfl) | rfl) | rfl) | rfl := h.2 d hd
    · exact (isAlphanum_range hd).2
    all_goals decide

/-- A token in lower case is one, and is its own lower case. -/
theorem lower_token [CaseLibrary] (hcase : LowersAscii) {s : Text} (h : isManifestToken s = true) :
    isManifestToken (CaseLibrary.lower s) = true ∧
      CaseLibrary.lower (CaseLibrary.lower s) = CaseLibrary.lower s := by
  have hascii := toNat_lt_of_isManifestToken h
  have hlower := hcase.lower s hascii
  have hall : ∀ n < 128, ((Char.ofNat n).toLower.toNat < 128) ∧
      (Char.ofNat n).toLower.toLower = (Char.ofNat n).toLower ∧
      ((Char.ofNat n).isAlphanum = true → (Char.ofNat n).toLower.isAlphanum = true) := by decide
  have hfacts : ∀ c ∈ s, c.toLower.toNat < 128 ∧ c.toLower.toLower = c.toLower ∧
      (c.isAlphanum = true → c.toLower.isAlphanum = true) := fun c hc =>
    forall_ascii (p := fun c => c.toLower.toNat < 128 ∧ c.toLower.toLower = c.toLower ∧
      (c.isAlphanum = true → c.toLower.isAlphanum = true)) hall (hascii c hc)
  refine ⟨?_, ?_⟩
  · rw [hlower]
    cases s with
    | nil => cases h
    | cons c s =>
      simp only [isManifestToken, List.map_cons, Bool.and_eq_true, decide_eq_true_eq, List.length_map,
        List.all_eq_true, List.forall_mem_map] at h ⊢
      refine ⟨⟨(hfacts c List.mem_cons_self).2.2 h.1.1, h.1.2⟩, fun d hd => ?_⟩
      have hd' := h.2 d hd
      simp only [Bool.or_eq_true, beq_iff_eq] at hd' ⊢
      obtain ((((hd' | rfl) | rfl) | rfl) | rfl) | rfl := hd'
      · exact .inl (.inl (.inl (.inl (.inl ((hfacts d (List.mem_cons_of_mem c hd)).2.2 hd')))))
      all_goals decide
  · rw [hlower, hcase.lower _ fun d hd => ?_, List.map_map]
    · exact List.map_congr_left fun c hc => (hfacts c hc).2.1
    · obtain ⟨c, hc, rfl⟩ := List.mem_map.1 hd
      exact (hfacts c hc).1

instance : IsTrans (Text × Text) pairLe := ⟨fun a b c hab hbc => by
  rcases hab with hab | ⟨hab, hab'⟩ <;> rcases hbc with hbc | ⟨hbc, hbc'⟩
  · exact .inl (hab.trans hbc)
  · exact .inl (hbc ▸ hab)
  · exact .inl (hab ▸ hbc)
  · exact .inr ⟨hab.trans hbc, hab'.trans hbc'⟩⟩

instance : Std.Total pairLe := ⟨fun a b => by
  rcases lt_trichotomy a.1 b.1 with h | h | h
  · exact .inl (.inl h)
  · exact (le_total a.2 b.2).imp (fun h' => .inr ⟨h, h'⟩) fun h' => .inr ⟨h.symm, h'⟩
  · exact .inr (.inl h)⟩

section

variable [CaseLibrary] {entry pair : Text × Text} {values pairs : List (Text × Text)}

/-- An accepted entry is stored with its name in lower case, and is accepted again. -/
theorem checksum_again (hcase : LowersAscii) (h : checksum entry = .ok pair) :
    pair.1 = CaseLibrary.lower entry.1 ∧ checksum pair = .ok pair := by
  obtain ⟨algorithm, halgorithm, h⟩ := bind_eq_ok.1 h
  obtain ⟨value, -, h⟩ := bind_eq_ok.1 h
  obtain ⟨hform, h⟩ := check_bind_eq_ok.1 h
  obtain rfl := pure_eq_ok.1 h
  obtain ⟨halgorithm, htoken⟩ := token_eq_ok.1 halgorithm
  obtain rfl := Json.str.inj halgorithm
  have hform := ensure_eq_ok.1 hform
  obtain ⟨hname, hagain⟩ := lower_token hcase htoken
  have hdigits : ∀ c ∈ CaseLibrary.lower value, isChecksumDigit c = true :=
    List.all_eq_true.1 (Bool.and_eq_true_iff.1 hform).2
  have hvalue : CaseLibrary.lower (CaseLibrary.lower value) = CaseLibrary.lower value := by
    rw [hcase.lower _ fun c hc => toNat_lt_of_isChecksumDigit (hdigits c hc)]
    exact (List.map_congr_left fun c hc => (checksumDigit_facts (hdigits c hc)).1).trans (List.map_id _)
  refine ⟨rfl, bind_eq_ok.2 ⟨_, token_eq_ok.2 ⟨rfl, hname⟩, bind_eq_ok.2 ⟨_, text_of_isChecksum hform, ?_⟩⟩⟩
  rw [hvalue, hagain]
  exact check_bind_eq_ok.2 ⟨ensure_eq_ok.2 hform, rfl⟩

/-- What is stored of accepted checksums is read back exactly when no two algorithms have the same name
in lower case. -/
theorem checksumPayload_iff (hcase : LowersAscii) (h : checksums values = .ok pairs) :
    ((∃ stored, checksumPayload (checksumList pairs) = .ok stored) ↔
      (values.map fun entry => CaseLibrary.lower entry.1).Nodup) ∧
    ∀ stored, checksumPayload (checksumList pairs) = .ok stored → stored = pairs := by
  obtain ⟨hlength, h⟩ := check_bind_eq_ok.1 h
  obtain ⟨raw, hraw, h⟩ := bind_eq_ok.1 h
  have hpairs := pure_eq_ok.1 h
  have hperm : pairs.Perm raw := hpairs ▸ List.perm_insertionSort pairLe raw
  have hnames : raw.map Prod.fst = values.map fun entry => CaseLibrary.lower entry.1 :=
    map_of_mapM hraw fun entry _ pair hpair => (checksum_again hcase hpair).1
  have hnodup : (pairs.map Prod.fst).Nodup ↔ (values.map fun entry => CaseLibrary.lower entry.1).Nodup := by
    rw [← hnames]
    exact (hperm.map Prod.fst).nodup_iff
  have hentries : (pairs.map fun entry => Json.obj [("algorithm", .str entry.1), ("value", .str entry.2)]).mapM
      checksumEntry = .ok pairs := by
    rw [mapM_eq_ok, List.forall₂_map_left_iff, List.forall₂_same]
    exact fun _ _ => rfl
  have hread : checksums pairs = .ok pairs := by
    refine check_bind_eq_ok.2 ⟨ensure_eq_ok.2 ?_, bind_eq_ok.2 ⟨pairs, ?_, ?_⟩⟩
    · rw [hperm.length_eq, ← (mapM_eq_ok.1 hraw).length_eq]
      exact ensure_eq_ok.1 hlength
    · rw [mapM_eq_ok, List.forall₂_same]
      intro pair hpair
      obtain ⟨entry, -, hentry⟩ := exists_of_mem_mapM hraw (hperm.mem_iff.1 hpair)
      exact (checksum_again hcase hentry).2
    · rw [← hpairs, (List.pairwise_insertionSort pairLe raw).insertionSort_eq]
      rfl
  have hpayload : checksumPayload (checksumList pairs) = (do
      ensure (pairs.map Prod.fst).Nodup (invalid "model checksum entry is invalid")
      checksums pairs) := by
    rw [checksumList, checksumPayload, hentries]
    rfl
  rw [hpayload, ← hnodup, hread]
  refine ⟨⟨?_, fun hn => ⟨pairs, check_bind_eq_ok.2 ⟨ensure_eq_ok.2 hn, rfl⟩⟩⟩, fun stored hstored => ?_⟩
  · rintro ⟨stored, hstored⟩
    exact ensure_eq_ok.1 (check_bind_eq_ok.1 hstored).1
  · exact (Except.ok.inj (check_bind_eq_ok.1 hstored).2).symm

end

end DollState.Model
