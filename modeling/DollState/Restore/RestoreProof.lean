import DollState.Restore.ImportProof
import DollState.Restore.Restore

/-!
# A restore is atomic on its target

The handlers of a restore undo what there is, whatever step fails. The one thing they do not bring back is an empty
target that has been put aside and removed: they make a new one.
-/

namespace DollState.Restore

open StateLib Attempt

section

variable {A : Type} {system : System A} {folder : Folder A} {a : A} {c : Contents}

/-- The folders are the same but for the file of the nested package. -/
def Folder.Like (folder s : Folder A) : Prop := ∀ place, place ≠ .packageFile → s place = folder place

/-- The names that a restore draws are new. -/
structure Fresh (folder : Folder A) : Prop where
  staging : folder .staging = none
  emptyBackup : folder .emptyBackup = none
  importStaging : folder .importStaging = none
  importBackup : folder .importBackup = none

theorem Fresh.like {s : Folder A} (h : Fresh folder) (hs : folder.Like s) : Fresh s where
  staging := (hs _ (by decide)).trans h.staging
  emptyBackup := (hs _ (by decide)).trans h.emptyBackup
  importStaging := (hs _ (by decide)).trans h.importStaging
  importBackup := (hs _ (by decide)).trans h.importBackup

theorem Fresh.restoreNames (h : Fresh folder) : NewNames folder .staging .emptyBackup .target :=
  ⟨h.staging, h.emptyBackup, by decide, by decide, by decide⟩

theorem Fresh.importNames (h : Fresh folder) : NewNames folder .importStaging .importBackup .staging :=
  ⟨h.importStaging, h.importBackup, by decide, by decide, by decide⟩

/-! ## Staging -/

/-- There is a staging directory. -/
def Staged (folder s : Folder A) : Prop := ∃ g, folder.Like g ∧ Filling g .staging s

/-- There is a staging directory, or not. -/
def Unstaged (folder s : Folder A) : Prop := folder.Like s ∨ Staged folder s

theorem like_update {s : Folder A} {e : Option (Entry A)} (h : folder.Like s) :
    folder.Like (Function.update s .packageFile e) :=
  fun place hplace => (Function.update_of_ne hplace ..).trans (h place hplace)

theorem staged_update {s : Folder A} {e : Option (Entry A)} (h : Staged folder s) :
    Staged folder (Function.update s .packageFile e) := by
  obtain ⟨g, hg, a, c, rfl⟩ := h
  exact ⟨_, like_update hg, a, c, Function.update_comm (by decide) ..⟩

theorem writeFile_like {site : Site} {content : ByteArray} :
    Keeps folder.Like (system.writeFile site .packageFile content) :=
  System.step_bind (fun _ _ hs => System.put_holds fun _ h => like_update (h ▸ hs)) fun _ _ _ => id

/-- Removing the package file leaves the rest. -/
theorem unlink_keeps {I : Folder A → Prop} {site : Site}
    (hI : ∀ s, I s → I (Function.update s .packageFile none)) : Keeps I (system.unlink site .packageFile) := by
  refine System.step_bind (fun _ s hs => System.entry_bind fun s' hs' => ?_) fun _ _ _ => id
  subst hs'
  split
  · exact .raise fun _ h => h ▸ hs
  · exact System.put_holds fun _ h => h ▸ hI _ hs

theorem writeNewFile_keeps {path : Text} {content : ByteArray} :
    Keeps (Filling folder .staging) (writeNewFile system path content) := fill_keeps.mapError

/-! ## Publication -/

theorem moveRestored_holds (hfresh : Fresh folder) {targetExisted : Bool}
    (hexisted : targetExisted = (folder .target).isSome) :
    Holds (· = (withDirectory folder .staging a c, false, false)) (moveRestored system targetExisted)
      (fun r s => s.1 = withDirectory (putAside folder .emptyBackup .target) .target a c ∧ r = targetExisted ∧
        Vacant folder .target)
      fun _ => Unpublished folder .staging .emptyBackup .target a c := by
  have hnew := hfresh.restoreNames
  refine System.entry_bind_lifted fun s hs => ?_
  subst hs
  have hfound : withDirectory folder .staging a c .target = folder .target := Function.update_of_ne (by decide) ..
  simp only [hfound]
  have htail (hvacant : Vacant folder .target) : Holds
      (· = (withDirectory (putAside folder .emptyBackup .target) .staging a c, (folder .target).isSome, false))
      (do
        system.replace .moveStaging .staging .target
        Attempt.assign (targetExisted, true)
        fsyncDirectory system .syncPublished durability
        return targetExisted : Attempt (Folder A × Bool × Bool) Failure Bool)
      (fun r s => s.1 = withDirectory (putAside folder .emptyBackup .target) .target a c ∧ r = targetExisted ∧
        Vacant folder .target)
      fun _ => Unpublished folder .staging .emptyBackup .target a c := by
    refine .bind (rename_holds hnew hvacant) fun _ => .bind
      (m := fun _ s => s = (withDirectory (putAside folder .emptyBackup .target) .target a c,
        (folder .target).isSome, true)) ?_ fun _ => .bind
      (m := fun _ s => s.1 = withDirectory (putAside folder .emptyBackup .target) .target a c) ?_ fun _ => ?_
    · refine .assign fun s w hs => ?_
      cases hs
      rw [hexisted]
    · refine .lifted fun v => fsyncDirectory_holds (fun s hs => ?_) fun e s _ hs => ?_
      · cases hs
        rfl
      · cases hs
        exact .published hvacant
    · exact .pure fun s hs => ⟨hs, rfl, hvacant⟩
  subst hexisted
  cases htarget : folder .target with
  | none =>
    have hvacant : Vacant folder .target := fun e he => by rw [htarget] at he; cases he
    have h := htail hvacant
    rw [htarget, putAside_of_none hnew.aside_none htarget] at h
    refine .bind (m := fun _ s => s = (withDirectory folder .staging a c, false, false))
      (.except (fun _ _ _ => id) fun e he => ?_) fun _ => ?_
    · cases he
    · rw [putAside_of_none hnew.aside_none htarget]
      exact h
  | some e =>
    simp only [Option.isSome_some, if_true]
    have hstaged (moving : Bool) :
        Unpublished folder .staging .emptyBackup .target a c (withDirectory folder .staging a c, moving, false) :=
      .staged moving
    refine .bind (m := fun _ s => s = (withDirectory folder .staging a c, false, false)) (.lifted fun v =>
      System.step_holds (fun s hs _ => hs) fun e s _ hs => ?_) fun _ => ?_
    · cases hs
      exact hstaged false
    · split
      · rename_i b he
        obtain rfl := Option.some.inj he
        refine .bind (m := fun _ s => s = (withDirectory folder .staging a c, true, false)) ?_ fun _ =>
          .bind (putAside_holds hnew htarget) fun _ => ?_
        · refine .assign fun s w hs => ?_
          cases hs
          rfl
        · have h := htail fun e he => ⟨b, Option.some.inj (he.symm.trans htarget)⟩
          rw [htarget] at h
          exact h
      · refine .bind (m := fun _ _ => False) (.raise ?_) fun _ => fun s hs => hs.elim
        rintro s rfl
        exact hstaged false

theorem publishTarget_holds (hrolls : system.RollsBack) (hfresh : Fresh folder) {targetExisted : Bool}
    (hexisted : targetExisted = (folder .target).isSome) :
    Holds (· = withDirectory folder .staging a c) (publishTarget system targetExisted)
      (fun r s => s = withDirectory (putAside folder .emptyBackup .target) .target a c ∧ r = targetExisted ∧
        Vacant folder .target)
      fun _ s => s = folder ∨ s = withDirectory folder .staging a c :=
  .handling (g := fun _ => Unpublished folder .staging .emptyBackup .target a c)
    ((moveRestored_holds hfresh hexisted).mono (fun _ hs => Prod.ext hs.1 hs.2) (fun _ _ => id) fun _ _ => id)
    fun _ _ => .bind (undo_holds hfresh.restoreNames (hrolls .unpublish rfl) (hrolls .moveBack rfl)) fun _ =>
      .raise fun _ => id

theorem prepareTarget_holds :
    Holds (· = folder) (prepareTarget system)
      (fun r s => s = folder ∧ Vacant folder .target ∧ r = (folder .target).isSome) fun _ s => s = folder := by
  refine step_keeps.bind_holds (fun _ _ => id) fun _ => System.entry_bind fun s hs => ?_
  subst hs
  have hrest (existed : Bool) (h : Vacant s .target ∧ existed = (s .target).isSome) : Holds (· = s)
      (do system.step .restoreParent; return existed : Program A Bool)
      (fun r s' => s' = s ∧ Vacant s .target ∧ r = (s .target).isSome) fun _ s' => s' = s :=
    step_keeps.bind_holds (fun _ _ => id) fun _ => .pure fun _ hs => ⟨hs, h⟩
  cases he : s .target with
  | none =>
    rw [he] at hrest
    refine hrest false ⟨fun e h => ?_, rfl⟩
    rw [he] at h
    cases h
  | some e =>
    rw [he] at hrest
    cases e with
    | file content => exact .raise fun _ => id
    | directory b contents =>
      refine .bind (m := fun _ s' => s' = s ∧ contents = []) (.except ?_ fun _ _ _ => id) fun _ => .of_each ?_
      · exact fun _ h s' hs => ⟨hs, ensure_eq_ok.mp h⟩
      · rintro s' ⟨rfl, rfl⟩
        exact hrest true ⟨fun e h => ⟨b, Option.some.inj (h.symm.trans he)⟩, rfl⟩

/-! ## The rollback -/

/-- Where a failing restore leaves the folder, and its variables. -/
inductive Unrestored (system : System A) (folder : Folder A) : Folder A × Bool × Bool → Prop
  /-- nothing has been published -/
  | unpublished {s : Folder A} (h : Unstaged folder s) : Unrestored system folder (s, false, false)
  /-- the staging directory is at the target -/
  | published (g : Folder A) (a : A) (c : Contents) (hlike : folder.Like g) (h : Vacant folder .target) :
    Unrestored system folder
      (withDirectory (putAside g .emptyBackup .target) .target a c, (folder .target).isSome, true)
  /-- the empty target has been removed -/
  | removed (g : Folder A) (a : A) (c : Contents) (hlike : folder.Like g) (h : Vacant folder .target)
    (hsome : (folder .target).isSome) (hsync : system.faults .syncTarget ≠ none) :
    Unrestored system folder (withDirectory g .target a c, false, true)

/-- The folder as before, or with a new empty target. -/
def Undone (system : System A) (folder s : Folder A) : Prop :=
  folder.Like s ∨ (∃ b, folder .target = some (.directory b [])) ∧ system.faults .syncTarget ≠ none ∧
    Folder.Like (withDirectory folder .target system.ownerOnly []) s

theorem Undone.fresh {s : Folder A} (hfresh : Fresh folder) (h : Undone system folder s) : Fresh s := by
  rcases h with h | ⟨-, -, h⟩
  · exact hfresh.like h
  · obtain ⟨hstaging, hemptyBackup, himportStaging, himportBackup⟩ := hfresh
    have hnew : Fresh (withDirectory folder .target system.ownerOnly []) :=
      ⟨hstaging, hemptyBackup, himportStaging, himportBackup⟩
    exact hnew.like h

theorem rollbackRestore_holds (hrolls : system.RollsBack) (hfresh : Fresh folder) {emptyBackup published targetExisted : Bool}
    (hexisted : targetExisted = (folder .target).isSome) :
    Holds (fun s => Unrestored system folder (s, emptyBackup, published))
      (rollbackRestore system emptyBackup published targetExisted) (fun _ => Undone system folder)
      fun _ => Undone system folder := by
  have hsync (I : Folder A → Prop) : Keeps I (fsyncDirectory system .syncRollback durability) := step_keeps.mapError
  subst hexisted
  refine .mapError (.of_each fun s hs => ?_)
  cases hs with
  | unpublished h =>
    -- a target that has not been published is left alone
    have hrest : Holds folder.Like (do
        let _ ← System.entry (A := A) .target
        let _ ← System.entry (A := A) .emptyBackup
        let _ ← System.entry (A := A) .target
        fsyncDirectory system .syncRollback durability) (fun _ => Undone system folder)
        fun _ => Undone system folder :=
      System.entry_bind fun s hs => System.entry_bind fun s' hs' => System.entry_bind fun s'' hs'' => by
        subst hs' hs''
        exact (hsync _).mono (fun _ h => h ▸ hs) (fun _ _ => .inl) fun _ _ => .inl
    refine System.entry_bind fun s' hs' => ?_
    subst hs'
    simp only [Bool.false_and, Bool.false_eq_true, if_false]
    rcases h with h | ⟨g, hg, a, c, rfl⟩
    · rw [(hfresh.like h).staging]
      exact hrest.mono (fun _ he => he ▸ h) (fun _ _ => id) fun _ _ => id
    · rw [withDirectory, Function.update_self]
      refine .bind (m := fun _ => folder.Like) (System.rmtree_holds ?_ ?_) fun _ => hrest
      · rintro s' rfl
        exact (withDirectory_removed (hfresh.like hg).staging).symm ▸ hg
      · rintro e s' rfl hfail
        exact absurd (Function.update_self ..) (hfail (hrolls _ rfl) a c)
  | published g a c hlike h =>
    have hg := hfresh.like hlike
    have hnone : withDirectory (putAside g .emptyBackup .target) .target a c .staging = none := hg.staging
    have htarget : withDirectory (putAside g .emptyBackup .target) .target a c .target = some (.directory a c) :=
      Function.update_self ..
    have haside : putAside g .emptyBackup .target .emptyBackup = folder .target := hlike .target (by decide)
    refine System.entry_bind fun s' hs' => ?_
    subst hs'
    simp only [hnone, Option.isSome_none, Bool.false_eq_true, if_false]
    refine System.entry_bind fun s' hs' => ?_
    subst hs'
    simp only [htarget, Option.isSome_some, Bool.and_true, if_true]
    refine .bind (m := fun _ s => s = putAside g .emptyBackup .target) (System.rmtree_holds ?_ ?_) fun _ =>
      System.entry_bind fun s hs => ?_
    · rintro s rfl
      exact withDirectory_removed (Function.update_self ..)
    · rintro e s rfl hfail
      exact absurd htarget (hfail (hrolls _ rfl) a c)
    subst hs
    rw [haside]
    cases he : folder .target with
    | none =>
      have hsame : putAside g .emptyBackup .target = g := putAside_of_none hg.emptyBackup (haside.trans he)
      refine System.entry_bind fun s' hs' => ?_
      subst hs'
      rw [hsame]
      exact (hsync _).mono (fun _ he => he ▸ hlike) (fun _ _ => .inl) fun _ _ => .inl
    | some e =>
      obtain ⟨b, rfl⟩ := h e he
      refine .bind (m := fun _ => folder.Like) (System.replace_holds ?_ ?_) fun _ =>
        (hsync _).mono (fun _ => id) (fun _ _ => .inl) fun _ _ => .inl
      · rintro s moved rfl hmoved - place hplace
        rw [← hlike place hplace]
        simp only [putAside, Function.update_apply] at hmoved ⊢
        grind [hg.emptyBackup]
      · rintro e s rfl hfail
        refine absurd ?_ (hfail (hrolls _ rfl) _ (haside.trans he))
        rw [putAside, Function.update_self]
        rfl
  | removed g a c hlike h hsome hsync' =>
    have hnone : withDirectory g .target a c .staging = none := (hfresh.like hlike).staging
    have htarget : withDirectory g .target a c .target = some (.directory a c) := Function.update_self ..
    refine System.entry_bind fun s' hs' => ?_
    subst hs'
    simp only [hnone, Option.isSome_none, Bool.false_eq_true, if_false]
    refine System.entry_bind fun s' hs' => ?_
    subst hs'
    simp only [htarget, Option.isSome_some, Bool.and_true, Bool.false_and, Bool.true_and, Bool.false_eq_true, if_false,
      if_true]
    refine .bind (m := fun _ s => s = Function.update g .target none) (System.rmtree_holds ?_ ?_) fun _ =>
      System.entry_bind fun s hs => System.entry_bind fun s' hs' => ?_
    · rintro s rfl
      exact Function.update_idem ..
    · rintro e s rfl hfail
      exact absurd htarget (hfail (hrolls _ rfl) a c)
    subst hs hs'
    simp only [hsome, Function.update_self, Option.isNone_none, Bool.and_true, if_true]
    obtain ⟨e, he⟩ := Option.isSome_iff_exists.mp hsome
    obtain ⟨b, rfl⟩ := h e he
    refine .bind (m := fun _ s => s = withDirectory g .target system.ownerOnly []) (System.mkdir_holds ?_ ?_)
      fun _ => (hsync _).mono (fun _ => id) ?_ ?_
    · rintro s rfl -
      exact Function.update_idem ..
    · rintro e s rfl hfail
      exact absurd (Function.update_self ..) (hfail (hrolls _ rfl))
    all_goals
      rintro _ s rfl
      refine .inr ⟨⟨b, he⟩, hsync', fun place hplace => ?_⟩
      simp only [withDirectory, Function.update_apply, hlike place hplace]

end

section

variable {A : Type} [RestoreLibrary] {system : System A} {folder : Folder A} {a : A} {c : Contents}

theorem stageStateRestore_holds (hrolls : system.RollsBack) (hfresh : Fresh folder) {members : Members} :
    Holds folder.Like (stageStateRestore system members) (fun _ => Staged folder) fun _ => Unstaged folder := by
  refine Keeps.except.bind_holds (fun _ _ => .inl) fun nested => writeFile_like.bind_holds (fun _ _ => .inl) fun _ => ?_
  refine .cleaningUp (m := fun _ => Staged folder) (g := fun _ => folder.Like) ?_
    (fun _ => (unlink_keeps fun _ => staged_update).mono (fun _ => id) (fun _ _ => id) fun _ _ => .inr)
    fun _ => (unlink_keeps fun _ => like_update).mono (fun _ => id) (fun _ _ => .inl) fun _ _ => .inl
  refine writeFile_like.bind_holds (fun _ _ => id) fun _ => .bind (m := fun _ => Staged folder)
    (.mapError (.of_each fun s hs => ?_)) fun _ => .pure fun _ => id
  refine (importStatePackage_holds hrolls (hfresh.like hs).importNames).mono (fun _ => id) ?_ ?_
  · rintro r s' ⟨data, -, ⟨-, a, c, rfl, -⟩, -⟩
    exact ⟨s, hs, a, c, rfl⟩
  · rintro e s' rfl
    exact hs

theorem stageMember_keeps {member : Text × ByteArray} :
    Keeps (Filling folder .staging) (stageMember system member) := by
  rw [stageMember]
  split
  · exact Keeps.except.bind fun _ => fill_keeps.bind fun _ => writeNewFile_keeps
  · exact .pure

theorem stageWorkspaceRestore_holds (hrolls : system.RollsBack) (hfresh : Fresh folder) {members : Members} :
    Holds folder.Like (stageWorkspaceRestore system members) (fun _ => Staged folder) fun _ => Unstaged folder := by
  refine Keeps.except.bind_holds (fun _ _ => .inl) fun _ => Keeps.except.bind_holds (fun _ _ => .inl) fun _ =>
    .of_each fun s hs => ?_
  refine .bind (m := fun _ => Filling s .staging) (System.mkdir_holds ?_ ?_) fun _ => ?_
  · rintro s' rfl -
    exact ⟨_, _, rfl⟩
  · rintro e s' rfl -
    exact .inl hs
  have hstaged (s' : Folder A) (h : Filling s .staging s') : Staged folder s' := ⟨s, hs, h⟩
  refine .handling (g := fun _ s' => Filling s .staging s'.1) ?_ fun _ e => ?_
  · refine Holds.mono (q := fun s' => Filling s .staging s'.1) (Keeps.bind ?_ fun _ => .bind ?_ fun _ => .bind ?_ fun _ =>
      .bind ?_ fun _ => ?_) (fun _ h => h.1) (fun _ _ => hstaged _) fun _ _ => id
    · exact .lifted (.forEach fun _ _ => fill_keeps)
    · exact .lifted writeNewFile_keeps
    · exact .lifted writeNewFile_keeps
    · exact .lifted (.forEach fun _ _ => stageMember_keeps)
    · exact .lifted (.forEach fun _ _ => step_keeps.mapError)
  · refine .bind (m := fun _ => Unstaged folder) (System.rmtreeIgnoring_holds (hrolls _ rfl) ?_ ?_) fun _ =>
      .raise fun _ => id
    · rintro s' a c ⟨a', c', rfl⟩ -
      rw [withDirectory_removed (hfresh.like hs).staging]
      exact .inl hs
    · exact fun s' h _ => .inr (hstaged s' h)

theorem stageRestore_holds (hrolls : system.RollsBack) (hfresh : Fresh folder) {inspection : BackupInspection}
    {members : Members} {expectedKind : BackupKind} :
    Holds folder.Like (stageRestore system inspection members expectedKind) (fun _ => Staged folder)
      fun _ => Unstaged folder := by
  cases expectedKind with
  | state => exact stageStateRestore_holds hrolls hfresh
  | workspace => exact .bind (stageWorkspaceRestore_holds hrolls hfresh) fun _ => .pure fun _ => id

/-! ## The restore -/

/-- Where a restore has succeeded: the target holds a workspace that is valid in the staging directory and for a fresh
process alike. -/
def Restored (inspection : BackupInspection) (folder : Folder A) (result : RestoreResult) (s : Folder A) : Prop :=
  Vacant folder .target ∧ ∃ g a c revision validation, folder.Like g ∧ s = withDirectory g .target a c ∧
    RestoreLibrary.validateRestoredWorkspace (inspection.expected revision) c = .ok validation ∧
    RestoreLibrary.freshProcess (inspection.expected revision) c = .ok validation ∧
    result.workspaceId = validation.workspaceId ∧ result.restoredStateRevision = validation.stateRevision

theorem validateStaged_holds {g : Folder A} {expected : Expected} :
    Holds (Filling g .staging) (validateStaged system expected)
      (fun r s => ∃ a c, s = withDirectory g .staging a c ∧
        RestoreLibrary.validateRestoredWorkspace expected c = .ok r) fun _ => Filling g .staging := by
  refine step_keeps.bind_holds (fun _ _ => id) fun _ =>
    .bind (m := fun c s => ∃ a, s = withDirectory g .staging a c) (System.contentsOf_holds.mono (fun _ => id) ?_ fun _ _ => id)
      fun c => .except ?_ ?_
  · rintro c s ⟨⟨a, c', rfl⟩, a', he⟩
    cases (Function.update_self ..).symm.trans he
    exact ⟨a, rfl⟩
  · exact fun r hr s ⟨a, hs⟩ => ⟨a, c, hs, hr⟩
  · exact fun e _ s ⟨a, hs⟩ => ⟨a, c, hs⟩

theorem validateInFreshProcess_holds {s : Folder A} {a : A} {c : Contents} {expected : Expected}
    (hs : s .target = some (.directory a c)) :
    Holds (· = s) (validateInFreshProcess system expected)
      (fun r s' => s' = s ∧ RestoreLibrary.freshProcess expected c = .ok r) fun _ s' => s' = s := by
  refine step_keeps.bind_holds (fun _ _ => id) fun _ =>
    .bind (m := fun c' s' => s' = s ∧ c' = c) (System.contentsOf_holds.mono (fun _ => id) ?_ fun _ _ => id)
      fun c' => .except ?_ fun _ _ _ h => h.1
  · rintro c' s' ⟨rfl, a', he⟩
    cases hs.symm.trans he
    exact ⟨rfl, rfl⟩
  · rintro r hr s' ⟨rfl, rfl⟩
    exact ⟨rfl, hr⟩

theorem restoreTarget_holds (hrolls : system.RollsBack) (hfresh : Fresh folder) {inspection : BackupInspection}
    {members : Members} {expectedKind : BackupKind} {targetExisted : Bool}
    (hexisted : targetExisted = (folder .target).isSome) :
    Holds (fun s => folder.Like s.1 ∧ s.2 = (false, false))
      (restoreTarget system inspection members expectedKind targetExisted)
      (fun r s => Restored inspection folder r s.1) fun _ => Unrestored system folder := by
  refine .bind (m := fun _ s => Staged folder s.1 ∧ s.2 = (false, false)) (.lifted fun v =>
    (Holds.given (p := v = (false, false)) fun _ => stageRestore_holds hrolls hfresh).mono (fun _ => id)
      (fun _ _ => id) ?_) fun revision => ?_
  · rintro e s ⟨h, rfl⟩
    exact .unpublished h
  refine .bind (m := fun r s => (∃ g a c, folder.Like g ∧ s.1 = withDirectory g .staging a c ∧
    RestoreLibrary.validateRestoredWorkspace (inspection.expected revision) c = .ok r) ∧ s.2 = (false, false))
    (.of_each fun s ⟨⟨g, hg, hs⟩, hv⟩ => .lifted fun v =>
      (Holds.given (p := v = (false, false)) fun _ => validateStaged_holds (g := g)).mono ?_ ?_ ?_) fun staged => ?_
  · rintro s' rfl
    exact ⟨hs, hv⟩
  · rintro r s' ⟨⟨a, c, hs', hr⟩, hv'⟩
    exact ⟨⟨g, a, c, hg, hs', hr⟩, hv'⟩
  · rintro e s' ⟨hs', rfl⟩
    exact .unpublished (.inr ⟨g, hg, hs'⟩)
  refine .of_each ?_
  rintro ⟨s, v⟩ ⟨⟨g, a, c, hg, hs, hstaged⟩, hv⟩
  dsimp only at hs hv
  subst hs hv
  have htarget : g .target = folder .target := hg .target (by decide)
  refine .bind (m := fun r s => s.1 = withDirectory (putAside g .emptyBackup .target) .target a c ∧
    r = targetExisted ∧ Vacant folder .target) (.lifted fun v =>
      (Holds.given (p := v = (false, false)) fun _ => publishTarget_holds (a := a) (c := c) hrolls (hfresh.like hg)
        (hexisted.trans (by rw [htarget]))).mono (fun _ h => Prod.ext_iff.mp h) ?_ ?_) fun emptyBackup => .of_each ?_
  · rintro r s ⟨⟨hs, hr, hvacant⟩, -⟩
    exact ⟨hs, hr, fun e he => hvacant e (htarget.trans he)⟩
  · rintro e s ⟨hs | hs, rfl⟩
    · exact .unpublished (.inl (hs ▸ hg))
    · exact .unpublished (.inr ⟨g, hg, a, c, hs⟩)
  rintro ⟨s, v⟩ ⟨hs, rfl, hvacant⟩
  dsimp only at hs
  subst hs
  have hfailed : Unrestored system folder
      (withDirectory (putAside g .emptyBackup .target) .target a c, emptyBackup, true) :=
    hexisted ▸ .published g a c hg hvacant
  refine .bind (m := fun _ s => s = (withDirectory (putAside g .emptyBackup .target) .target a c, emptyBackup, true))
    (.assign fun s w hs => by cases hs; rfl) fun _ => ?_
  refine .bind (m := fun r s =>
    s = (withDirectory (putAside g .emptyBackup .target) .target a c, emptyBackup, true) ∧
      RestoreLibrary.freshProcess (inspection.expected revision) c = .ok r)
    (.lifted fun v => (Holds.given (p := v = (emptyBackup, true)) fun _ =>
      validateInFreshProcess_holds (Function.update_self ..)).mono (fun _ h => Prod.ext_iff.mp h) ?_ ?_) fun fresh => ?_
  · rintro r s ⟨⟨rfl, hr⟩, rfl⟩
    exact ⟨rfl, hr⟩
  · rintro e s ⟨rfl, rfl⟩
    exact hfailed
  refine .bind (m := fun _ s =>
    s = (withDirectory (putAside g .emptyBackup .target) .target a c, emptyBackup, true) ∧
      RestoreLibrary.freshProcess (inspection.expected revision) c = .ok fresh ∧ fresh = staged) (.except ?_ ?_) fun _ => ?_
  · rintro _ hsame s ⟨hs, hr⟩
    exact ⟨hs, hr, ensure_eq_ok.mp hsame⟩
  · rintro e - s ⟨rfl, -⟩
    exact hfailed
  refine .of_each ?_
  rintro s ⟨rfl, hfresh', rfl⟩
  have hrestored (r : RestoreResult) (hr : r.workspaceId = fresh.workspaceId ∧
      r.restoredStateRevision = fresh.stateRevision) (s : Folder A) (hs : s = withDirectory g .target a c) :
      Restored inspection folder r s :=
    ⟨hvacant, g, a, c, revision, fresh, hg, hs, hstaged, hfresh', hr⟩
  cases he : folder .target with
  | none =>
    rw [he] at hexisted
    subst hexisted
    rw [putAside_of_none (hfresh.like hg).emptyBackup (htarget.trans he)] at hfailed ⊢
    refine .bind (m := fun _ s => s = (withDirectory g .target a c, false, true)) (.lifted fun v =>
      fsyncDirectory_holds (fun _ => id) fun e s _ hs => ?_) fun _ => .pure fun s hs => ?_
    · exact hs ▸ hfailed
    · exact hrestored _ ⟨rfl, rfl⟩ _ (by rw [hs])
  | some e =>
    obtain ⟨b, rfl⟩ := hvacant e he
    rw [he] at hexisted
    subst hexisted
    refine .bind (m := fun _ s => s.1 = withDirectory g .target a c) (.lifted fun v =>
      System.rmdir_holds ?_ ?_) fun _ => .bind (m := fun _ s => s = (withDirectory g .target a c, false, true))
        (.assign ?_) fun _ => .bind (m := fun _ s => s = (withDirectory g .target a c, false, true))
          (.lifted fun v => fsyncDirectory_holds (fun _ => id) fun e s hsync hs => ?_) fun _ => .pure fun s hs => ?_
    · rintro s b' hs - -
      cases hs
      funext place
      simp only [withDirectory, putAside, Function.update_apply]
      grind [(hfresh.like hg).emptyBackup]
    · rintro e s hs -
      exact hs ▸ hfailed
    · rintro s w rfl
      rfl
    · rw [hs]
      exact .removed g a c hg hvacant (by rw [he]; rfl) hsync
    · exact hrestored _ ⟨rfl, rfl⟩ _ (by rw [hs])

/-- A restore leaves a validated workspace at the target, or undoes what it has done. -/
theorem restoreBackup_holds (hrolls : system.RollsBack) (hfresh : Fresh folder) {inspection : BackupInspection}
    {members : Members} {expectedKind : BackupKind} :
    Holds (· = folder) (restoreBackup system inspection members expectedKind)
      (fun r s => Restored inspection folder r s) fun _ s => Undone system folder s := by
  have hundone (e : Failure) (s : Folder A) (hs : s = folder) : Undone system folder s :=
    .inl fun place _ => by rw [hs]
  refine Keeps.except.bind_holds hundone fun _ => .bind (prepareTarget_holds.mono (fun _ => id) (fun _ _ => id) hundone)
    fun targetExisted => .of_each ?_
  rintro s ⟨rfl, hvacant, hexisted⟩
  refine step_keeps.bind_holds hundone fun _ => .handling (g := fun _ => Unrestored system s)
    ((restoreTarget_holds hrolls hfresh hexisted).mono (fun s' hs => ⟨fun _ _ => by rw [hs.1], hs.2⟩) (fun _ _ => id)
      fun _ _ => id)
    fun _ _ => .bind (rollbackRestore_holds hrolls hfresh hexisted) fun _ => .raise fun _ => id

theorem Restored.fresh {inspection : BackupInspection} {result : RestoreResult} {s : Folder A} (hfresh : Fresh folder)
    (h : Restored inspection folder result s) : Fresh s := by
  obtain ⟨-, g, a, c, -, -, hg, rfl, -⟩ := h
  obtain ⟨hstaging, hemptyBackup, himportStaging, himportBackup⟩ := hfresh.like hg
  exact ⟨hstaging, hemptyBackup, himportStaging, himportBackup⟩

/-- An import and a restore end with a validated workspace at the target, or with the target as it was; only a restore
that cannot synchronize the directory after it has removed the empty target makes a new one. -/
theorem atomic_on_target (hrolls : system.RollsBack) :
    (∀ folder inspection members expectedKind, Fresh folder →
      Holds (· = folder) (restoreBackup system inspection members expectedKind)
        (fun result s => Restored inspection folder result s ∧ Fresh s)
        fun _ s => Fresh s ∧ (s .target = folder .target ∨
          (∃ b, folder .target = some (.directory b [])) ∧ s .target = some (.directory system.ownerOnly []) ∧
            system.faults .syncTarget ≠ none)) ∧
    ∀ folder content targetPath, NewNames folder .importStaging .importBackup targetPath →
      Holds (· = folder) (importStatePackage system content targetPath)
        (fun result s => ∃ data, RestoreLibrary.loadPackage content = .ok data ∧ Imported folder targetPath data s ∧
          result.importedStateRevision = data.stateRevision + 1 ∧ s .importStaging = none ∧ s .importBackup = none)
        fun _ s => s = folder := by
  constructor
  · intro folder inspection members expectedKind hfresh
    refine (restoreBackup_holds hrolls hfresh).mono (fun _ => id) (fun _ _ h => ⟨h, h.fresh hfresh⟩) fun _ s h =>
      ⟨h.fresh hfresh, ?_⟩
    exact h.imp (fun h => h .target (by decide)) fun ⟨hb, hsync, h⟩ => ⟨hb, h .target (by decide), hsync⟩
  · intro folder content targetPath hnew
    refine (importStatePackage_holds hrolls hnew).mono (fun _ => id) ?_ fun _ _ => id
    rintro r s ⟨data, hdata, ⟨hvacant, a, c, rfl, hc⟩, hr⟩
    refine ⟨data, hdata, ⟨hvacant, a, c, rfl, hc⟩, hr, ?_, ?_⟩
    · exact (Function.update_of_ne hnew.ne_source.symm ..).trans hnew.source_none
    · exact (Function.update_of_ne hnew.ne_aside.symm ..).trans hnew.aside_none

end

/-! ## A target with a mode of its own -/

/-- A library for which every workspace is valid. -/
@[reducible] def acceptingLibrary : RestoreLibrary where
  toPackageLibrary := Package.deepLibrary
  loadPackage _ := .error ⟨.package, "package is unreadable"⟩
  recordConflicts _ _ := []
  initializeStateRepository := .ok
  importDatabaseRows _ := .ok
  validateImportedWorkspace _ _ _ := .ok ()
  validateRestoredWorkspace expected _ := .ok ⟨expected.workspaceId, expected.schemaVersion, expected.stateRevision, 0, 0, 0, 0⟩
  freshProcess expected _ := .ok ⟨expected.workspaceId, expected.schemaVersion, expected.stateRevision, 0, 0, 0, 0⟩

/-- Directories have modes, and the last synchronization fails. -/
def unsynchronized : System ℕ where
  faults site := if site = .syncTarget then some (osError "Input/output error") else none
  torn _ := id
  ownerOnly := 0o700

theorem unsynchronized_rollsBack : unsynchronized.RollsBack := by
  intro site hsite
  rw [unsynchronized]
  exact if_neg fun h => by subst h; cases hsite

/-- An empty target that others may read. -/
def readableTarget : Folder ℕ
  | .target => some (.directory 0o755 [])
  | _ => none

theorem fresh_readableTarget : Fresh readableTarget := ⟨rfl, rfl, rfl, rfl⟩

def emptyBackup : BackupInspection := ⟨.workspace, "0000".toList, 1, 1⟩

def emptyMembers : Members := [(workspaceMember, .empty), (databaseMember, .empty)]

theorem atomic_on_target_unsynchronized :
    Holds (· = readableTarget) (@restoreBackup ℕ acceptingLibrary unsynchronized emptyBackup emptyMembers .workspace)
      (fun result s => @Restored ℕ acceptingLibrary emptyBackup readableTarget result s ∧ Fresh s)
      fun _ s => Fresh s ∧ (s .target = readableTarget .target ∨
        (∃ b, readableTarget .target = some (.directory b [])) ∧ s .target = some (.directory 0o700 []) ∧
          unsynchronized.faults .syncTarget ≠ none) :=
  (@atomic_on_target ℕ acceptingLibrary unsynchronized unsynchronized_rollsBack).1 readableTarget emptyBackup
    emptyMembers .workspace fresh_readableTarget

theorem not_restores_target : ¬ ∀ (system : System ℕ) (folder : Folder ℕ) inspection members expectedKind,
    system.RollsBack → Fresh folder →
      Holds (· = folder) (@restoreBackup ℕ acceptingLibrary system inspection members expectedKind) (fun _ _ => True)
        fun _ s => s .target = folder .target := by
  let _ : RestoreLibrary := acceptingLibrary
  intro h
  have hrun := h unsynchronized readableTarget emptyBackup emptyMembers .workspace unsynchronized_rollsBack
    fresh_readableTarget
  have herror : (restoreBackup unsynchronized emptyBackup emptyMembers .workspace readableTarget).1 =
      .error durability := by decide +kernel
  have htarget : (restoreBackup unsynchronized emptyBackup emptyMembers .workspace readableTarget).2 .target =
      some (.directory 0o700 []) := by decide +kernel
  have hsame := hrun.of_error rfl herror
  rw [htarget] at hsame
  simp [readableTarget] at hsame

end DollState.Restore
