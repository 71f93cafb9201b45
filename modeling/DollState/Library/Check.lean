import Mathlib.Data.List.Forall2

/-!
# Checks that fail with an error

Validation code is a sequence of checks: each one either passes, possibly with a value, or raises.
Here a check is a value of `Except ε α`, and a validator is a `do` block over `Except ε`. The
lemmas of this file take a successful validator apart, one statement at a time: `bind_eq_ok` for
sequencing, `ensure_eq_ok` for a guard, `forEach_eq_ok` for a loop of checks, `mapM_eq_ok` for a
loop that collects values, `foldlM_induction` for a loop over a state, and `catching_eq_ok` for a
handler that replaces some of the errors.
-/

namespace StateLib

variable {ε : Type*} {α β : Type} {ι : Type*}

/-- The guard `if not p: raise e`. -/
def ensure (p : Prop) [Decidable p] (e : ε) : Except ε Unit :=
  if p then .ok () else .error e

/-- Run a check on every element, stopping at the first failure. -/
def forEach (f : ι → Except ε Unit) : List ι → Except ε Unit
  | [] => .ok ()
  | x :: xs => do
    f x
    forEach f xs

/-- The handler `except caught: raise e`: an error that is caught becomes `e`. -/
def catching (caught : ε → Bool) (e : ε) : Except ε α → Except ε α
  | .ok a => .ok a
  | .error e' => if caught e' then .error e else .error e'

/-- The value an optional lookup finds, or the error `e`. -/
def orFail (e : ε) : Option α → Except ε α
  | some a => .ok a
  | none => .error e

/-! ## Successful checks -/

theorem exists_of_isOk {x : Except ε α} (h : x.isOk = true) : ∃ a, x = .ok a := by
  cases x with
  | ok a => exact ⟨a, rfl⟩
  | error e => cases h

theorem bind_eq_ok {x : Except ε α} {f : α → Except ε β} {b : β} :
    x >>= f = .ok b ↔ ∃ a, x = .ok a ∧ f a = .ok b := by
  cases x with
  | error e => simp [bind, Except.bind]
  | ok a => simp [bind, Except.bind]

theorem bind_eq_error {x : Except ε α} {f : α → Except ε β} {e : ε} :
    x >>= f = .error e ↔ x = .error e ∨ ∃ a, x = .ok a ∧ f a = .error e := by
  cases x with
  | error e' => simp [bind, Except.bind]
  | ok a => simp [bind, Except.bind]

/-- A check without a value in front of another computation. -/
theorem check_bind_eq_ok {x : Except ε Unit} {f : Unit → Except ε β} {b : β} :
    x >>= f = .ok b ↔ x = .ok () ∧ f () = .ok b := by
  rw [bind_eq_ok]
  exact ⟨fun ⟨(), hx, hf⟩ => ⟨hx, hf⟩, fun ⟨hx, hf⟩ => ⟨(), hx, hf⟩⟩

theorem map_eq_ok {f : α → β} {x : Except ε α} {b : β} :
    x.map f = .ok b ↔ ∃ a, x = .ok a ∧ f a = b := by
  cases x with
  | error e => simp [Except.map]
  | ok a => simp [Except.map]

theorem mapError_eq_ok {ε' : Type*} {f : ε → ε'} {x : Except ε α} {a : α} : x.mapError f = .ok a ↔ x = .ok a := by
  cases x with
  | error e => simp [Except.mapError]
  | ok b => simp [Except.mapError]

/-- The results of two computations with the same beginning are related as those of their ends. -/
theorem map_bind_congr {γ : Type} {x : Except ε α} {f g : α → Except ε β} {k : β → γ}
    (h : ∀ a, (f a).map k = (g a).map k) : (x >>= f).map k = (x >>= g).map k := by
  cases x with
  | error e => rfl
  | ok a => exact h a

@[simp] theorem ok_bind (a : α) (f : α → Except ε β) : (Except.ok a >>= f) = f a := rfl

@[simp] theorem error_bind (e : ε) (f : α → Except ε β) :
    (Except.error e >>= f) = .error e := rfl

theorem pure_eq_ok {a b : α} : (pure a : Except ε α) = .ok b ↔ a = b := by
  simp [pure, Except.pure]

theorem ensure_eq_ok {p : Prop} [Decidable p] {e : ε} {u : Unit} :
    ensure p e = .ok u ↔ p := by
  unfold ensure
  split <;> simp_all

theorem ensure_of {p : Prop} [Decidable p] (h : p) (e : ε) : ensure p e = .ok () :=
  ensure_eq_ok.2 h

theorem ensure_eq_error {p : Prop} [Decidable p] {e e' : ε} :
    ensure p e = .error e' ↔ ¬ p ∧ e = e' := by
  unfold ensure
  split <;> simp_all

theorem forEach_eq_ok {f : ι → Except ε Unit} {xs : List ι} {u : Unit} :
    forEach f xs = .ok u ↔ ∀ x ∈ xs, f x = .ok () := by
  induction xs with
  | nil => simp [forEach]
  | cons x xs ih => rw [forEach, check_bind_eq_ok, ih, List.forall_mem_cons]

theorem catching_eq_ok {caught : ε → Bool} {e : ε} {x : Except ε α} {a : α} :
    catching caught e x = .ok a ↔ x = .ok a := by
  cases x with
  | ok b => rfl
  | error e' => by_cases h : caught e' <;> simp [catching, h]

theorem orFail_eq_ok {e : ε} {x : Option α} {a : α} : orFail e x = .ok a ↔ x = some a := by
  cases x with
  | none => simp [orFail]
  | some b => simp [orFail]

theorem orFail_eq_error {e e' : ε} {x : Option α} : orFail e x = .error e' ↔ x = none ∧ e = e' := by
  cases x with
  | none => simp [orFail]
  | some b => simp [orFail]

theorem mapM_eq_ok {f : ι → Except ε β} {xs : List ι} {ys : List β} :
    xs.mapM f = .ok ys ↔ List.Forall₂ (fun x y => f x = .ok y) xs ys := by
  induction xs generalizing ys with
  | nil => rw [List.mapM_nil, pure_eq_ok, List.forall₂_nil_left_iff, eq_comm]
  | cons x xs ih =>
    rw [List.mapM_cons, bind_eq_ok, List.forall₂_cons_left_iff]
    constructor
    · rintro ⟨y, hy, h⟩
      obtain ⟨zs, hzs, h⟩ := bind_eq_ok.1 h
      exact ⟨y, zs, hy, ih.1 hzs, (pure_eq_ok.1 h).symm⟩
    · rintro ⟨y, zs, hy, hzs, rfl⟩
      exact ⟨y, hy, bind_eq_ok.2 ⟨zs, ih.2 hzs, rfl⟩⟩

/-- A collecting loop succeeds if each of its steps does. -/
theorem exists_mapM_ok {f : ι → Except ε β} {xs : List ι} (h : ∀ x ∈ xs, ∃ y, f x = .ok y) :
    ∃ ys, xs.mapM f = .ok ys := by
  induction xs with
  | nil => exact ⟨[], rfl⟩
  | cons x xs ih =>
    obtain ⟨⟨y, hy⟩, hxs⟩ := List.forall_mem_cons.1 h
    obtain ⟨ys, hys⟩ := ih hxs
    exact ⟨y :: ys, by rw [List.mapM_cons, hy, ok_bind, hys, ok_bind]; rfl⟩

/-- Every value a successful collecting loop returns comes from one of its inputs. -/
theorem exists_of_mem_mapM {f : ι → Except ε β} {xs : List ι} {ys : List β}
    (h : xs.mapM f = .ok ys) {y : β} (hy : y ∈ ys) : ∃ x ∈ xs, f x = .ok y := by
  induction mapM_eq_ok.1 h with
  | nil => simp at hy
  | @cons x z xs zs hxz hrest ih =>
    rcases List.mem_cons.1 hy with rfl | hy
    · exact ⟨x, List.mem_cons_self, hxz⟩
    · obtain ⟨x', hx', hf⟩ := ih (mapM_eq_ok.2 hrest) hy
      exact ⟨x', List.mem_cons_of_mem _ hx', hf⟩

/-- A successful collecting loop has a value for each of its inputs. -/
theorem mapM_ok_of_mem {f : ι → Except ε β} {xs : List ι} {ys : List β}
    (h : xs.mapM f = .ok ys) {x : ι} (hx : x ∈ xs) : ∃ y ∈ ys, f x = .ok y := by
  induction mapM_eq_ok.1 h with
  | nil => simp at hx
  | @cons z y xs zs hzy hrest ih =>
    rcases List.mem_cons.1 hx with rfl | hx
    · exact ⟨y, List.mem_cons_self, hzy⟩
    · obtain ⟨y', hy', hf⟩ := ih (mapM_eq_ok.2 hrest) hx
      exact ⟨y', List.mem_cons_of_mem _ hy', hf⟩

/-- A key of the values that recovers the inputs. -/
theorem map_of_mapM {κ : Type*} {f : ι → Except ε β} {key : β → κ} {g : ι → κ} {xs : List ι}
    {ys : List β} (h : xs.mapM f = .ok ys) (hkey : ∀ x ∈ xs, ∀ y, f x = .ok y → key y = g x) :
    ys.map key = xs.map g := by
  induction mapM_eq_ok.1 h with
  | nil => rfl
  | @cons x y xs ys hxy hrest ih =>
    obtain ⟨hx, hxs⟩ := List.forall_mem_cons.1 hkey
    rw [List.map_cons, List.map_cons, hx y hxy, ih (mapM_eq_ok.2 hrest) hxs]

/-- A collecting loop succeeds with values that meet `p` exactly if each of its steps does. -/
theorem exists_mapM_ok_iff (f : ι → Except ε β) (xs : List ι) (p : β → Prop) :
    (∃ ys, xs.mapM f = .ok ys ∧ ∀ y ∈ ys, p y) ↔ ∀ x ∈ xs, ∃ y, f x = .ok y ∧ p y := by
  constructor
  · rintro ⟨ys, hys, hp⟩ x hx
    obtain ⟨y, hy, hxy⟩ := mapM_ok_of_mem hys hx
    exact ⟨y, hxy, hp y hy⟩
  · intro h
    obtain ⟨ys, hys⟩ := exists_mapM_ok fun x hx => (h x hx).imp fun y hy => hy.1
    refine ⟨ys, hys, fun y hy => ?_⟩
    obtain ⟨x, hx, hxy⟩ := exists_of_mem_mapM hys hy
    obtain ⟨y', hy', hp⟩ := h x hx
    cases hxy.symm.trans hy'
    exact hp

/-! ## Loops over a state -/

/-- An invariant of a loop, of the elements gone through and the state. -/
theorem foldlM_induction {σ : Type} {f : σ → ι → Except ε σ} (P : List ι → σ → Prop) {s s' : σ}
    {xs : List ι} (hinit : P [] s)
    (hstep : ∀ done x rest s s', xs = done ++ x :: rest → P done s → f s x = .ok s' →
      P (done ++ [x]) s')
    (h : xs.foldlM f s = .ok s') : P xs s' := by
  suffices hrest : ∀ (rest done : List ι) (s : σ), xs = done ++ rest → P done s →
      rest.foldlM f s = .ok s' → P xs s' from hrest xs [] s rfl hinit h
  intro rest
  induction rest with
  | nil =>
    intro done s hxs hs h
    rw [List.foldlM_nil, pure_eq_ok] at h
    rwa [hxs, List.append_nil, ← h]
  | cons x rest ih =>
    intro done s hxs hs h
    rw [List.foldlM_cons] at h
    obtain ⟨s₁, hx, h⟩ := bind_eq_ok.1 h
    exact ih (done ++ [x]) s₁ (by rw [hxs, List.append_assoc]; rfl)
      (hstep done x rest s s₁ hxs hs hx) h

/-- A loop that fails has a step that does. -/
theorem error_of_foldlM {σ : Type} {f : σ → ι → Except ε σ} {s : σ} {xs : List ι} {e : ε}
    (h : xs.foldlM f s = .error e) : ∃ s', ∃ x ∈ xs, f s' x = .error e := by
  induction xs generalizing s with
  | nil => cases h
  | cons x xs ih =>
    rw [List.foldlM_cons] at h
    rcases bind_eq_error.1 h with hx | ⟨s', -, h⟩
    · exact ⟨s, x, List.mem_cons_self, hx⟩
    · obtain ⟨s'', y, hy, hf⟩ := ih h
      exact ⟨s'', y, List.mem_cons_of_mem _ hy, hf⟩

/-- A loop succeeds if each of its steps does from a state of its invariant. -/
theorem exists_foldlM_ok {σ : Type} {f : σ → ι → Except ε σ} (P : List ι → σ → Prop) {s : σ}
    {l : List ι} (hinit : P [] s)
    (hstep : ∀ done x rest s, l = done ++ x :: rest → P done s →
      ∃ s', f s x = .ok s' ∧ P (done ++ [x]) s') :
    ∃ s', l.foldlM f s = .ok s' ∧ P l s' := by
  suffices hrest : ∀ (rest done : List ι) (s : σ), l = done ++ rest → P done s →
      ∃ s', rest.foldlM f s = .ok s' ∧ P l s' from hrest l [] s rfl hinit
  intro rest
  induction rest with
  | nil =>
    intro done s hl hs
    exact ⟨s, rfl, by rwa [hl, List.append_nil]⟩
  | cons x rest ih =>
    intro done s hl hs
    obtain ⟨s₁, hx, hs₁⟩ := hstep done x rest s hl hs
    rw [List.foldlM_cons, hx, ok_bind]
    exact ih (done ++ [x]) s₁ (by rw [hl, List.append_assoc]; rfl) hs₁

/-- A loop succeeds if each of its steps does from any state. -/
theorem exists_foldlM_of_forall {σ : Type} {f : σ → ι → Except ε σ} {l : List ι}
    (h : ∀ x ∈ l, ∀ s, ∃ s', f s x = .ok s') (s : σ) : ∃ s', l.foldlM f s = .ok s' := by
  obtain ⟨s', hs', -⟩ := exists_foldlM_ok (f := f) (fun _ _ => True) (s := s) (l := l) trivial
    fun done x rest s hl _ => (h x (by rw [hl]; simp) s).imp fun _ hs' => ⟨hs', trivial⟩
  exact ⟨s', hs'⟩

end StateLib
