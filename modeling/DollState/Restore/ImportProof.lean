import DollState.Restore.Import

/-!
# An import is atomic on its target

Whatever step of an import fails, its handlers restore the folder, if they get through themselves.
-/

namespace DollState.Restore

open StateLib Attempt

section

variable {A : Type} {system : System A} {folder : Folder A} {targetPath source aside : Place} {a : A} {c : Contents}

/-- The steps of the rollbacks get through. -/
def System.RollsBack (system : System A) : Prop := ∀ site, site.isRollback → system.faults site = none

/-! ## Publication

The import and the restore publish in the same way, under other names: `source` is renamed to the target, which is
put `aside` if it is there. -/

/-- The names that a publication draws are new. -/
structure NewNames (folder : Folder A) (source aside targetPath : Place) : Prop where
  source_none : folder source = none
  aside_none : folder aside = none
  apart : source ≠ aside
  ne_source : targetPath ≠ source
  ne_aside : targetPath ≠ aside

/-- The folder with a directory at `place`. -/
def withDirectory (folder : Folder A) (place : Place) (a : A) (c : Contents) : Folder A :=
  Function.update folder place (some (.directory a c))

theorem withDirectory_removed {place : Place} (h : folder place = none) :
    Function.update (withDirectory folder place a c) place none = folder := by
  rw [withDirectory, Function.update_idem, ← h, Function.update_eq_self]

/-- The folder with the target put aside. -/
def putAside (folder : Folder A) (aside targetPath : Place) : Folder A :=
  Function.update (Function.update folder aside (folder targetPath)) targetPath none

theorem putAside_of_none (haside : folder aside = none) (htarget : folder targetPath = none) :
    putAside folder aside targetPath = folder := by
  rw [putAside, htarget, ← haside, Function.update_eq_self, haside, ← htarget, Function.update_eq_self]

/-- Where a failing publication leaves the folder, and its variables. -/
inductive Unpublished (folder : Folder A) (source aside targetPath : Place) (a : A) (c : Contents) :
    Folder A × Bool × Bool → Prop
  /-- nothing has moved -/
  | staged (moving : Bool) : Unpublished folder source aside targetPath a c (withDirectory folder source a c, moving, false)
  /-- the empty target has been put aside -/
  | moved (b : A) (h : folder targetPath = some (.directory b [])) :
    Unpublished folder source aside targetPath a c
      (withDirectory (putAside folder aside targetPath) source a c, true, false)
  /-- the staging directory has been renamed -/
  | published (h : ∀ e, folder targetPath = some e → ∃ b, e = .directory b []) :
    Unpublished folder source aside targetPath a c
      (withDirectory (putAside folder aside targetPath) targetPath a c, (folder targetPath).isSome, true)

/-- The rollback of a publication leaves the folder with the staging directory, or without it. -/
theorem undo_holds {raised : Failure → Folder A → Prop} {f : Failure → Failure} {site site' : Site}
    (hnew : NewNames folder source aside targetPath) (hsite : system.faults site = none)
    (hsite' : system.faults site' = none) {moving published : Bool} :
    Holds (fun s => Unpublished folder source aside targetPath a c (s, moving, published))
      (Attempt.mapError f (do
        if published && (← System.entry targetPath).isSome then system.rmtree site targetPath
        if moving && (← System.entry aside).isSome then system.replace site' aside targetPath))
      (fun _ s => s = folder ∨ s = withDirectory folder source a c) raised := by
  obtain ⟨hsource, haside, hapart, hne, hne'⟩ := hnew
  refine .mapError (.of_each fun s hs => ?_)
  cases hs with
  | staged =>
    have hnone : withDirectory folder source a c aside = none := by
      rw [withDirectory, Function.update_of_ne hapart.symm, haside]
    simp only [Bool.false_and, Bool.false_eq_true, if_false]
    refine System.entry_bind fun s hs => System.entry_bind fun s' hs' => ?_
    subst hs hs'
    simp only [hnone, Option.isSome_none, Bool.and_false, Bool.false_eq_true, if_false]
    exact .pure fun _ h => .inr h
  | moved b h =>
    have hsome : withDirectory (putAside folder aside targetPath) source a c aside = some (.directory b []) := by
      rw [withDirectory, putAside, Function.update_of_ne hapart.symm, Function.update_of_ne hne'.symm,
        Function.update_self, h]
    simp only [Bool.false_and, Bool.false_eq_true, if_false]
    refine System.entry_bind fun s hs => System.entry_bind fun s' hs' => ?_
    subst hs hs'
    simp only [hsome, Option.isSome_some, Bool.and_true, if_true]
    refine System.replace_holds ?_ ?_
    · rintro s moved rfl hmoved _
      obtain rfl := Option.some.inj (hsome.symm.trans hmoved)
      right
      funext place
      simp only [withDirectory, putAside, Function.update_apply]
      grind
    · rintro e s rfl hfail
      refine absurd ?_ (hfail hsite' _ hsome)
      rw [withDirectory, putAside, Function.update_of_ne hne, Function.update_self]
      rfl
  | published h =>
    refine System.entry_bind fun s hs => ?_
    subst hs
    have hself : withDirectory (putAside folder aside targetPath) targetPath a c targetPath = some (.directory a c) :=
      Function.update_self ..
    simp only [hself, Option.isSome_some, Bool.and_true, if_true]
    refine .bind (m := fun _ s => s = putAside folder aside targetPath) (System.rmtree_holds ?_ ?_) fun _ =>
      System.entry_bind fun s hs => ?_
    · rintro s rfl
      funext place
      simp only [withDirectory, putAside, Function.update_apply]
      grind
    · rintro e s rfl hfail
      exact absurd hself (hfail hsite a c)
    · subst hs
      have hmoved : putAside folder aside targetPath aside = folder targetPath := by
        rw [putAside, Function.update_of_ne hne'.symm, Function.update_self]
      rw [hmoved]
      cases htarget : folder targetPath with
      | none =>
        simp only [Option.isSome_none, Bool.and_false, Bool.false_eq_true, if_false]
        refine .pure ?_
        rintro s rfl
        exact .inl (putAside_of_none haside htarget)
      | some e =>
        simp only [Option.isSome_some, Bool.and_true, if_true]
        refine System.replace_holds ?_ ?_
        · rintro s moved rfl hmoved' _
          left
          funext place
          simp only [putAside, Function.update_apply]
          grind
        · rintro e' s rfl hfail
          obtain ⟨b, rfl⟩ := h e htarget
          refine absurd ?_ (hfail hsite' _ (hmoved.trans htarget))
          rw [putAside, Function.update_self]
          rfl

/-- A target that is absent or empty. -/
def Vacant (folder : Folder A) (targetPath : Place) : Prop :=
  ∀ e, folder targetPath = some e → ∃ b, e = .directory b []

/-- The step that puts the target aside. -/
theorem putAside_holds {site : Site} {b : A} (hnew : NewNames folder source aside targetPath)
    (htarget : folder targetPath = some (.directory b [])) :
    Holds (· = (withDirectory folder source a c, true, false)) (liftM (system.replace site targetPath aside) : Attempt (Folder A × Bool × Bool) Failure Unit)
      (fun _ s => s = (withDirectory (putAside folder aside targetPath) source a c, true, false))
      fun _ => Unpublished folder source aside targetPath a c := by
  obtain ⟨hsource, haside, hapart, hne, hne'⟩ := hnew
  refine .lifted fun v => System.replace_holds ?_ ?_
  · rintro s moved hs hmoved -
    cases hs
    rw [withDirectory, Function.update_of_ne hne, htarget] at hmoved
    obtain rfl := Option.some.inj hmoved
    refine Prod.ext (funext fun place => ?_) rfl
    simp only [withDirectory, putAside, Function.update_apply]
    grind
  · rintro e s hs -
    cases hs
    exact .staged true

/-- The step that renames the staging directory. -/
theorem rename_holds {site : Site} (hnew : NewNames folder source aside targetPath)
    (hvacant : Vacant folder targetPath) :
    Holds (· = (withDirectory (putAside folder aside targetPath) source a c, (folder targetPath).isSome, false))
      (liftM (system.replace site source targetPath) : Attempt (Folder A × Bool × Bool) Failure Unit)
      (fun _ s => s = (withDirectory (putAside folder aside targetPath) targetPath a c,
        (folder targetPath).isSome, false))
      fun _ => Unpublished folder source aside targetPath a c := by
  obtain ⟨hsource, haside, hapart, hne, hne'⟩ := hnew
  refine .lifted fun v => System.replace_holds ?_ ?_
  · rintro s moved hs hmoved -
    cases hs
    rw [withDirectory, Function.update_self] at hmoved
    obtain rfl := Option.some.inj hmoved
    refine Prod.ext (funext fun place => ?_) rfl
    simp only [withDirectory, putAside, Function.update_apply]
    grind
  · rintro e s hs -
    cases hs
    cases htarget : folder targetPath with
    | none =>
      rw [putAside_of_none haside htarget]
      exact .staged false
    | some e =>
      obtain ⟨b, rfl⟩ := hvacant e htarget
      exact .moved b htarget

theorem fsyncDirectory_holds {pre : Folder A → Prop} {post : Unit → Folder A → Prop}
    {raised : Failure → Folder A → Prop} {site : Site} {failure : Failure} (hok : ∀ s, pre s → post () s)
    (herror : ∀ e s, system.faults site ≠ none → pre s → raised e s) :
    Holds pre (fsyncDirectory system site failure) post raised :=
  .mapError (System.step_holds (fun s hs _ => hok s hs) fun e s hsite hs =>
    herror _ s (by rw [hsite]; exact Option.some_ne_none e) hs)

theorem moveImport_holds (hnew : NewNames folder .importStaging .importBackup targetPath) :
    Holds (· = (withDirectory folder .importStaging a c, false, false)) (moveImport system targetPath)
      (fun _ s => s.1 = withDirectory folder targetPath a c ∧ Vacant folder targetPath)
      fun _ => Unpublished folder .importStaging .importBackup targetPath a c := by
  refine System.entry_bind_lifted fun s hs => ?_
  subst hs
  have hfound : withDirectory folder .importStaging a c targetPath = folder targetPath :=
    Function.update_of_ne hnew.ne_source ..
  simp only [hfound]
  have htail (hvacant : Vacant folder targetPath) : Holds
      (· = (withDirectory (putAside folder .importBackup targetPath) .importStaging a c,
        (folder targetPath).isSome, false))
      (do
        system.replace .importMoveStaging .importStaging targetPath
        Attempt.assign ((folder targetPath).isSome, true)
        syncImported system
        if (folder targetPath).isSome then
          system.rmdir .importRemoveBackup .importBackup
          Attempt.assign (false, true) : Attempt (Folder A × Bool × Bool) Failure Unit)
      (fun _ s => s.1 = withDirectory folder targetPath a c ∧ Vacant folder targetPath)
      fun _ => Unpublished folder .importStaging .importBackup targetPath a c := by
    refine .bind (rename_holds hnew hvacant) fun _ => .bind
      (m := fun _ s => s = (withDirectory (putAside folder .importBackup targetPath) targetPath a c,
        (folder targetPath).isSome, true)) ?_ fun _ => .bind
      (m := fun _ s => s = (withDirectory (putAside folder .importBackup targetPath) targetPath a c,
        (folder targetPath).isSome, true)) ?_ fun _ => ?_
    · refine .assign fun s w hs => ?_
      cases hs
      rfl
    · refine .lifted fun v => fsyncDirectory_holds (fun s => id) fun e s _ hs => ?_
      cases hs
      exact .published hvacant
    · cases htarget : folder targetPath with
      | none =>
        refine .pure ?_
        rintro s rfl
        rw [putAside_of_none hnew.aside_none htarget]
        exact ⟨rfl, hvacant⟩
      | some e =>
        obtain ⟨b, rfl⟩ := hvacant e htarget
        refine .bind (m := fun _ s => s.1 = withDirectory folder targetPath a c) (.lifted fun v =>
          System.rmdir_holds ?_ ?_) fun _ => .assign fun s w hs => ⟨hs, hvacant⟩
        · rintro s b' hs - -
          cases hs
          funext place
          simp only [withDirectory, putAside, Function.update_apply]
          grind [hnew.aside_none]
        · rintro e s hs -
          cases hs
          have h : Unpublished folder .importStaging .importBackup targetPath a c (_, _, true) := .published hvacant
          rw [htarget] at h
          exact h
  cases htarget : folder targetPath with
  | none =>
    have hvacant : Vacant folder targetPath := fun e he => by rw [htarget] at he; cases he
    have h := htail hvacant
    rw [putAside_of_none hnew.aside_none htarget, htarget] at h
    exact h
  | some e =>
    simp only [Option.isSome_some, if_true]
    have hstaged (moving : Bool) :
        Unpublished folder .importStaging .importBackup targetPath a c (withDirectory folder .importStaging a c, moving, false) :=
      .staged moving
    refine .bind (m := fun _ s => s = (withDirectory folder .importStaging a c, false, false)) (.lifted fun v =>
      System.step_holds (fun s hs _ => hs) fun e s _ hs => ?_) fun _ => ?_
    · cases hs
      exact hstaged false
    · split
      · rename_i b he
        obtain rfl := Option.some.inj he
        refine .bind (m := fun _ s => s = (withDirectory folder .importStaging a c, true, false)) ?_ fun _ =>
          .bind (putAside_holds hnew htarget) fun _ => ?_
        · refine .assign fun s w hs => ?_
          cases hs
          rfl
        · have h := htail fun e he => ⟨b, Option.some.inj (he.symm.trans htarget)⟩
          rw [htarget] at h
          exact h
      · refine .bind (m := fun _ _ => False) (.raise ?_) fun _ => fun s hs => hs.elim
        rintro s rfl
        exact hstaged false

/-- The publication renames the staging directory to a vacant target, or leaves the target as it was. -/
theorem publishImportTarget_holds (hrolls : system.RollsBack)
    (hnew : NewNames folder .importStaging .importBackup targetPath) :
    Holds (· = withDirectory folder .importStaging a c) (publishImportTarget system targetPath)
      (fun _ s => s = withDirectory folder targetPath a c ∧ Vacant folder targetPath)
      fun _ s => s = folder ∨ s = withDirectory folder .importStaging a c :=
  .handling (g := fun _ => Unpublished folder .importStaging .importBackup targetPath a c)
    ((moveImport_holds hnew).mono (fun _ hs => Prod.ext hs.1 hs.2) (fun _ _ => id) fun _ _ => id) fun _ _ =>
      .bind (undo_holds hnew (hrolls .importRemoveTarget rfl) (hrolls .importMoveBack rfl)) fun _ => .raise fun _ => id

/-! ## Staging -/

/-- There is a directory at `place`, and nothing else has changed. -/
def Filling (folder : Folder A) (place : Place) (s : Folder A) : Prop := ∃ a c, s = withDirectory folder place a c

variable {place : Place} {site : Site}

theorem step_keeps {I : Folder A → Prop} : Keeps I (system.step site) :=
  System.step_holds (fun _ hs _ => hs) fun _ _ _ => id

theorem fill_keeps {change : Contents → Except Failure Contents} :
    Keeps (Filling folder place) (system.fill site place change) := by
  have hupdate {s : Folder A} {a : A} {c : Contents} (hs : Filling folder place s) :
      Filling folder place (Function.update s place (some (.directory a c))) := by
    obtain ⟨a', c', rfl⟩ := hs
    exact ⟨a, c, Function.update_idem ..⟩
  exact System.fill_holds (fun _ _ _ _ hs _ _ => hupdate hs) (fun _ _ => id) fun _ _ _ _ _ hs _ => hupdate hs

theorem contentsOf_keeps {I : Folder A → Prop} : Keeps I (System.contentsOf place : Program A Contents) :=
  System.contentsOf_holds.mono (fun _ => id) (fun _ _ hs => hs.1) fun _ _ => id

theorem initializeImportWorkspace_keeps {record : ByteArray} :
    Keeps (Filling folder .importStaging) (initializeImportWorkspace system record) :=
  contentsOf_keeps.bind fun _ => Keeps.except.bind fun _ => step_keeps.bind fun _ =>
    (Keeps.forEach fun _ _ => fill_keeps).bind fun _ => fill_keeps

end

section

variable {A : Type} [RestoreLibrary] {system : System A} {folder : Folder A} {targetPath : Place}

theorem publishFiles_keeps {published : List Text} {files : List StateFile} :
    Keeps (fun s => Filling folder .importStaging s.1) (publishFiles system published files) := by
  induction files generalizing published with
  | nil => exact .pure
  | cons file files ih =>
    exact (Keeps.lifted (fill_keeps.bind fun _ => .except)).bind fun _ => Keeps.assign.bind fun _ => ih

/-- Where an import of `data` has succeeded: its target holds a workspace that has been validated. -/
def Imported (folder : Folder A) (targetPath : Place) (data : PackageData) (s : Folder A) : Prop :=
  Vacant folder targetPath ∧ ∃ a c, s = withDirectory folder targetPath a c ∧
    RestoreLibrary.validateImportedWorkspace data (data.stateRevision + 1) c = .ok ()

theorem buildImport_holds (hrolls : system.RollsBack)
    (hnew : NewNames folder .importStaging .importBackup targetPath) {data : PackageData} :
    Holds (fun s => Filling folder .importStaging s.1) (buildImport system data targetPath)
      (fun r s => Imported folder targetPath data s.1 ∧ r.importedStateRevision = data.stateRevision + 1)
      fun _ s => s.1 = folder ∨ Filling folder .importStaging s.1 := by
  have hI : ∀ (e : Failure) (s : Folder A × List Text), Filling folder .importStaging s.1 →
      s.1 = folder ∨ Filling folder .importStaging s.1 := fun _ _ => .inr
  refine (Keeps.lifted initializeImportWorkspace_keeps).bind_holds hI fun _ => ?_
  refine (Keeps.lifted fill_keeps).bind_holds hI fun _ => ?_
  refine publishFiles_keeps.bind_holds hI fun _ => ?_
  refine (Keeps.lifted fill_keeps).bind_holds hI fun _ => ?_
  refine (Keeps.lifted (.forEach fun _ _ => step_keeps)).bind_holds hI fun _ => ?_
  refine Keeps.assign.bind_holds hI fun _ => ?_
  refine (Keeps.lifted step_keeps).bind_holds hI fun _ => ?_
  refine (Keeps.lifted fill_keeps).bind_holds hI fun _ => ?_
  refine (Keeps.lifted step_keeps).bind_holds hI fun _ => ?_
  refine .bind (m := fun c s => ∃ a, s.1 = withDirectory folder .importStaging a c)
    (.lifted fun v => System.contentsOf_holds.mono (fun _ => id) ?_ fun e s => hI e (s, v)) fun c => ?_
  · rintro c s ⟨⟨a, c', rfl⟩, a', he⟩
    cases (Function.update_self ..).symm.trans he
    exact ⟨a, rfl⟩
  refine .bind (m := fun _ s => (∃ a, s.1 = withDirectory folder .importStaging a c) ∧
    RestoreLibrary.validateImportedWorkspace data (data.stateRevision + 1) c = .ok ()) (.except ?_ ?_) fun _ => ?_
  · exact fun _ hc s hs => ⟨hs, hc⟩
  · exact fun e _ s ⟨a, hs⟩ => .inr ⟨a, c, hs⟩
  refine .of_each fun s ⟨⟨a, hs⟩, hc⟩ => ?_
  refine .bind (m := fun _ s => s.1 = withDirectory folder targetPath a c ∧ Vacant folder targetPath)
    (.lifted fun v => (publishImportTarget_holds hrolls hnew).mono ?_ (fun _ _ => id) ?_) fun _ => .pure ?_
  · rintro s' rfl
    exact hs
  · exact fun _ s' hs' => hs'.imp id fun h => ⟨a, c, h⟩
  · exact fun s' ⟨hs', hv⟩ => ⟨⟨hv, a, c, hs', hc⟩, rfl⟩

/-- An import leaves a validated workspace at the target, or the folder as it was. -/
theorem importStatePackage_holds (hrolls : system.RollsBack)
    (hnew : NewNames folder .importStaging .importBackup targetPath) {content : ByteArray} :
    Holds (· = folder) (importStatePackage system content targetPath)
      (fun r s => ∃ data, RestoreLibrary.loadPackage content = .ok data ∧ Imported folder targetPath data s ∧
        r.importedStateRevision = data.stateRevision + 1)
      fun _ s => s = folder := by
  refine step_keeps.bind_holds (fun _ _ => id) fun _ => ?_
  refine .bind (m := fun data s => s = folder ∧ RestoreLibrary.loadPackage content = .ok data)
    (.except (fun _ hdata _ hs => ⟨hs, hdata⟩) fun _ _ _ => id) fun data => System.entry_bind fun s ⟨hs, hdata⟩ => ?_
  subst hs
  refine Keeps.except.bind_holds (fun _ _ => id) fun _ => step_keeps.bind_holds (fun _ _ => id) fun _ =>
    step_keeps.bind_holds (fun _ _ => id) fun _ => ?_
  refine .bind (m := fun _ s' => Filling s .importStaging s') (System.mkdir_holds ?_ ?_) fun _ => ?_
  · rintro s' rfl -
    exact ⟨_, _, rfl⟩
  · exact fun _ _ hs _ => hs
  refine .handling (g := fun _ s' => s'.1 = s ∨ Filling s .importStaging s'.1)
    ((buildImport_holds hrolls hnew).mono (fun _ hs => hs.1) ?_ fun _ _ => id) fun published e => ?_
  · exact fun r s' ⟨h, hr⟩ => ⟨data, hdata, h, hr⟩
  refine .bind (Holds.forEach (I := fun s' => s' = s ∨ Filling s .importStaging s') fun path _ =>
    System.step_holds (fun _ hs _ => hs) fun e' s' hsite _ => ?_) fun _ =>
    .bind (m := fun _ s' => s' = s) (System.rmtreeIgnoring_holds (hrolls _ rfl) ?_ ?_) fun _ => .raise fun _ => id
  · rw [hrolls (.closeAgain path) rfl] at hsite
    cases hsite
  · rintro s' a c (rfl | ⟨a', c', rfl⟩) he
    · rw [hnew.source_none] at he
      cases he
    · exact withDirectory_removed hnew.source_none
  · rintro s' (rfl | ⟨a, c, rfl⟩) hno
    · rfl
    · exact absurd (Function.update_self ..) (hno a c)

end

end DollState.Restore
