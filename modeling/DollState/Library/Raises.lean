import DollState.Library.Check

/-!
# Which exceptions escape

`RaisesOnly allowed x` says that `x` returns or raises an exception that is allowed. Each way of
putting computations together has a rule that says exactly when only allowed exceptions escape from
the whole: when none escapes from a part that is reached.
-/

namespace StateLib

variable {ε α β ι σ : Type}

/-- Every exception that `x` raises is allowed. -/
def RaisesOnly (allowed : ε → Prop) (x : Except ε α) : Prop := ∀ e, x = .error e → allowed e

variable {allowed : ε → Prop}

@[simp] theorem raisesOnly_ok (a : α) : RaisesOnly allowed (.ok a) := nofun

@[simp] theorem raisesOnly_pure (a : α) : RaisesOnly allowed (pure a : Except ε α) := nofun

@[simp] theorem raisesOnly_error (e : ε) :
    RaisesOnly allowed (.error e : Except ε α) ↔ allowed e :=
  ⟨fun h => h e rfl, fun h _ he => Except.error.inj he ▸ h⟩

theorem raisesOnly_bind {x : Except ε α} {f : α → Except ε β} :
    RaisesOnly allowed (x >>= f) ↔
      RaisesOnly allowed x ∧ ∀ a, x = .ok a → RaisesOnly allowed (f a) := by
  cases x with
  | ok a =>
    rw [ok_bind]
    refine ⟨fun h => ⟨raisesOnly_ok a, ?_⟩, fun h => h.2 a rfl⟩
    intro b hb
    cases hb
    exact h
  | error e =>
    rw [error_bind, raisesOnly_error, raisesOnly_error]
    exact ⟨fun h => ⟨h, nofun⟩, And.left⟩

@[simp] theorem raisesOnly_map {f : α → β} {x : Except ε α} :
    RaisesOnly allowed (f <$> x) ↔ RaisesOnly allowed x := by
  cases x with
  | ok a => exact iff_of_true (raisesOnly_ok (f a)) (raisesOnly_ok a)
  | error e => exact (raisesOnly_error e).trans (raisesOnly_error e).symm

/-- After a part from which nothing else escapes, the rest decides. -/
theorem raisesOnly_bind_of {x : Except ε α} {f : α → Except ε β} (hx : RaisesOnly allowed x) :
    RaisesOnly allowed (x >>= f) ↔ ∀ a, x = .ok a → RaisesOnly allowed (f a) :=
  raisesOnly_bind.trans (and_iff_right hx)

theorem raisesOnly_ensure {p : Prop} [Decidable p] {e : ε} (h : allowed e) :
    RaisesOnly allowed (ensure p e) := by
  intro e' he
  obtain ⟨-, rfl⟩ := ensure_eq_error.1 he
  exact h

theorem raisesOnly_orFail {x : Option α} {e : ε} (h : allowed e) :
    RaisesOnly allowed (orFail e x) := by
  intro e' he
  obtain ⟨-, rfl⟩ := orFail_eq_error.1 he
  exact h

theorem orFail_some (e : ε) (a : α) : orFail e (some a) = .ok a := rfl

/-- A check and what follows it. -/
theorem raisesOnly_ensure_bind {p : Prop} [Decidable p] {e : ε} {f : Unit → Except ε β}
    (h : allowed e) :
    RaisesOnly allowed (ensure p e >>= f) ↔ (p → RaisesOnly allowed (f ())) := by
  rw [raisesOnly_bind_of (raisesOnly_ensure h)]
  exact ⟨fun hf hp => hf () (ensure_of hp e), fun hf _ hok => hf (ensure_eq_ok.1 hok)⟩

/-- A lookup and what follows it. -/
theorem raisesOnly_orFail_bind {x : Option α} {e : ε} {f : α → Except ε β} (h : allowed e) :
    RaisesOnly allowed (orFail e x >>= f) ↔ ∀ a, x = some a → RaisesOnly allowed (f a) := by
  rw [raisesOnly_bind_of (raisesOnly_orFail h)]
  exact forall_congr' fun a => by rw [orFail_eq_ok]

/-- Nothing else escapes from a loop exactly when nothing else escapes from a body that is reached. -/
theorem raisesOnly_foldlM {f : σ → ι → Except ε σ} {xs : List ι} :
    ∀ {s : σ}, RaisesOnly allowed (xs.foldlM f s) ↔
      ∀ before x after s', xs = before ++ x :: after → before.foldlM f s = .ok s' →
        RaisesOnly allowed (f s' x) := by
  induction xs with
  | nil => exact fun {s} => iff_of_true (raisesOnly_pure s) (by simp)
  | cons x xs ih =>
    intro s
    rw [List.foldlM_cons, raisesOnly_bind]
    constructor
    · rintro ⟨hx, hxs⟩ before y after s' heq hs'
      cases before with
      | nil =>
        cases heq
        cases hs'
        exact hx
      | cons z before =>
        cases heq
        obtain ⟨s₁, hs₁, hs'⟩ := bind_eq_ok.1 hs'
        exact ih.1 (hxs s₁ hs₁) before y after s' rfl hs'
    · intro h
      refine ⟨h [] x xs s rfl rfl, fun s₁ hs₁ => ih.2 ?_⟩
      intro before y after s' heq hs'
      refine h (x :: before) y after s' (by rw [heq]; rfl) ?_
      rw [List.foldlM_cons, hs₁]
      exact hs'

theorem raisesOnly_forEach {f : ι → Except ε Unit} {xs : List ι} :
    RaisesOnly allowed (forEach f xs) ↔
      ∀ before x after, xs = before ++ x :: after → forEach f before = .ok () →
        RaisesOnly allowed (f x) := by
  induction xs with
  | nil => exact iff_of_true (raisesOnly_ok ()) (by simp)
  | cons x xs ih =>
    rw [forEach, raisesOnly_bind]
    constructor
    · rintro ⟨hx, hxs⟩ before y after heq hbefore
      cases before with
      | nil =>
        cases heq
        exact hx
      | cons z before =>
        cases heq
        obtain ⟨u, hz, hbefore⟩ := bind_eq_ok.1 hbefore
        exact ih.1 (hxs u hz) before y after rfl hbefore
    · intro h
      refine ⟨h [] x xs rfl rfl, fun _ hok => ih.2 ?_⟩
      intro before y after heq hbefore
      refine h (x :: before) y after (by rw [heq]; rfl) ?_
      rw [forEach, hok]
      exact hbefore

/-- A loop whose body raises only what is allowed. -/
theorem RaisesOnly.forEach {f : ι → Except ε Unit} {xs : List ι}
    (h : ∀ x ∈ xs, RaisesOnly allowed (f x)) : RaisesOnly allowed (forEach f xs) :=
  raisesOnly_forEach.2 fun before x after heq _ => h x (by simp [heq])

theorem RaisesOnly.mapM {f : ι → Except ε α} {xs : List ι}
    (h : ∀ x ∈ xs, RaisesOnly allowed (f x)) : RaisesOnly allowed (xs.mapM f) := by
  induction xs with
  | nil => exact raisesOnly_pure _
  | cons x xs ih =>
    obtain ⟨hx, hxs⟩ := List.forall_mem_cons.1 h
    rw [List.mapM_cons]
    refine raisesOnly_bind.2 ⟨hx, fun _ _ => ?_⟩
    exact raisesOnly_bind.2 ⟨ih hxs, fun _ _ => raisesOnly_pure _⟩

theorem RaisesOnly.foldlM {f : σ → ι → Except ε σ} {xs : List ι} {s : σ}
    (h : ∀ s x, RaisesOnly allowed (f s x)) : RaisesOnly allowed (xs.foldlM f s) :=
  raisesOnly_foldlM.2 fun _ x _ s' _ _ => h s' x

end StateLib
