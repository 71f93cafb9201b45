import Mathlib.Logic.Function.Basic

/-!
# Programs that fail and clean up

An `Attempt` changes a state and may fail on the way; what it has changed by then stays changed. A handler
that rolls back has to know how far the program has come, which it reads off variables the program keeps
(`handling`). `Holds` bounds both ends of a program: the states in which it returns and those in which it fails.
-/

namespace StateLib

variable {σ κ ε α β ι : Type}

/-- A program on a state `σ` that may fail with `ε`. -/
def Attempt (σ ε α : Type) : Type := σ → Except ε α × σ

namespace Attempt

instance : Monad (Attempt σ ε) where
  pure a s := (.ok a, s)
  bind x f s := match x s with
    | (.ok a, s') => f a s'
    | (.error e, s') => (.error e, s')

/-- The state. -/
def read : Attempt σ ε σ := fun s => (.ok s, s)

def write (s : σ) : Attempt σ ε Unit := fun _ => (.ok (), s)

def raise (e : ε) : Attempt σ ε α := fun s => (.error e, s)

instance : MonadLift (Except ε) (Attempt σ ε) := ⟨fun r s => (r, s)⟩

/-- Do `f` for each value, in order. -/
def forEach (f : ι → Attempt σ ε Unit) : List ι → Attempt σ ε Unit
  | [] => pure ()
  | x :: xs => do
    f x
    forEach f xs

/-! ## Handlers -/

/-- A part of a program that has variables of its own besides the state. -/
def lift (x : Attempt σ ε α) : Attempt (σ × κ) ε α := fun s =>
  match x s.1 with
  | (r, s') => (r, s', s.2)

instance : MonadLift (Attempt σ ε) (Attempt (σ × κ) ε) := ⟨lift⟩

/-- Assign the variables. -/
def assign (v : κ) : Attempt (σ × κ) ε Unit := fun s => (.ok (), s.1, v)

/-- `try: body except: handler`, where the handler sees the variables of the body. -/
def handling (v : κ) (body : Attempt (σ × κ) ε α) (handler : κ → ε → Attempt σ ε α) : Attempt σ ε α := fun s =>
  match body (s, v) with
  | (.ok a, s') => (.ok a, s'.1)
  | (.error e, s') => handler s'.2 e s'.1

/-- `try: body finally: cleanup`. -/
def cleaningUp (body : Attempt σ ε α) (cleanup : Attempt σ ε Unit) : Attempt σ ε α := fun s =>
  match body s with
  | (r, s') => match cleanup s' with
    | (.ok (), s'') => (r, s'')
    | (.error e, s'') => (.error e, s'')

/-- `except e: raise f(e) from e`. -/
def mapError (f : ε → ε) (x : Attempt σ ε α) : Attempt σ ε α := fun s =>
  match x s with
  | (.ok a, s') => (.ok a, s')
  | (.error e, s') => (.error (f e), s')

/-! ## Running a program -/

theorem read_bind (f : σ → Attempt σ ε β) (s : σ) : (read >>= f) s = f s s := rfl

theorem write_bind (s' : σ) (f : Unit → Attempt σ ε β) (s : σ) : (write s' >>= f) s = f () s' := rfl

theorem ok_bind {r : Except ε α} {a : α} (h : r = .ok a) (f : α → Attempt σ ε β) (s : σ) :
    ((liftM r : Attempt σ ε α) >>= f) s = f a s := by
  rw [h]
  rfl

theorem error_bind {r : Except ε α} {e : ε} (h : r = .error e) (f : α → Attempt σ ε β) (s : σ) :
    ((liftM r : Attempt σ ε α) >>= f) s = (.error e, s) := by
  rw [h]
  rfl

theorem bind_of_eq {x : Attempt σ ε α} {a : α} {s s' : σ} (h : x s = (.ok a, s')) (f : α → Attempt σ ε β) :
    (x >>= f) s = f a s' := by
  show (match x s with
    | (.ok a, s') => f a s'
    | (.error e, s') => (.error e, s')) = f a s'
  rw [h]

theorem bind_of_raised {x : Attempt σ ε α} {e : ε} {s s' : σ} (h : x s = (.error e, s')) (f : α → Attempt σ ε β) :
    (x >>= f) s = (.error e, s') := by
  show (match x s with
    | (.ok a, s') => f a s'
    | (.error e, s') => (.error e, s')) = (.error e, s')
  rw [h]

theorem bind_pure (x : Attempt σ ε α) (f : α → β) (s : σ) :
    (x >>= fun a => Pure.pure (f a)) s = ((x s).1.map f, (x s).2) := by
  show (match x s with
    | (.ok a, s') => (Pure.pure (f a) : Attempt σ ε β) s'
    | (.error e, s') => (.error e, s')) = _
  cases x s with
  | mk r s' => cases r <;> rfl

theorem bind_eq_ok {x : Attempt σ ε α} {f : α → Attempt σ ε β} {s s' : σ} {b : β} :
    (x >>= f) s = (.ok b, s') ↔ ∃ a s₁, x s = (.ok a, s₁) ∧ f a s₁ = (.ok b, s') := by
  constructor
  · intro h
    cases hx : x s with
    | mk r s₁ => cases r with
      | ok a => exact ⟨a, s₁, rfl, (bind_of_eq hx f).symm.trans h⟩
      | error e => cases (bind_of_raised hx f).symm.trans h
  · rintro ⟨a, s₁, hx, hf⟩
    rw [bind_of_eq hx, hf]

theorem except_eq_ok {r : Except ε α} {a : α} {s s' : σ} :
    (liftM r : Attempt σ ε α) s = (.ok a, s') ↔ r = .ok a ∧ s' = s := by
  show (r, s) = (.ok a, s') ↔ _
  rw [Prod.mk.injEq, eq_comm (a := s)]

theorem except_bind_eq_ok {r : Except ε α} {f : α → Attempt σ ε β} {s s' : σ} {b : β} :
    ((liftM r : Attempt σ ε α) >>= f) s = (.ok b, s') ↔ ∃ a, r = .ok a ∧ f a s = (.ok b, s') := by
  rw [bind_eq_ok]
  constructor
  · rintro ⟨a, s₁, hrun, hf⟩
    obtain ⟨hr, rfl⟩ := except_eq_ok.1 hrun
    exact ⟨a, hr, hf⟩
  · rintro ⟨a, hr, hf⟩
    exact ⟨a, s, except_eq_ok.2 ⟨hr, rfl⟩, hf⟩

theorem lift_eq_ok {x : Attempt σ ε α} {a : α} {s s' : σ × κ} :
    (liftM x : Attempt (σ × κ) ε α) s = (.ok a, s') ↔ x s.1 = (.ok a, s'.1) ∧ s'.2 = s.2 := by
  show (match x s.1 with
    | (r, t) => ((r, t, s.2) : Except ε α × σ × κ)) = (.ok a, s') ↔ _
  cases x s.1 with
  | mk r t =>
    obtain ⟨t', k'⟩ := s'
    simp only [Prod.mk.injEq]
    exact ⟨fun ⟨hr, ht, hk⟩ => ⟨⟨hr, ht⟩, hk.symm⟩, fun ⟨⟨hr, ht⟩, hk⟩ => ⟨hr, ht, hk.symm⟩⟩

theorem handling_eq_ok {v : κ} {body : Attempt (σ × κ) ε α} {handler : κ → ε → Attempt σ ε α} {s s' : σ} {a : α}
    (hraises : ∀ v e s, ∃ e', (handler v e s).1 = .error e') (h : handling v body handler s = (.ok a, s')) :
    ∃ v', body (s, v) = (.ok a, s', v') := by
  unfold handling at h
  split at h
  · rename_i a' t hbody
    obtain ⟨rfl, rfl⟩ := Prod.mk.inj h |>.imp_left Except.ok.inj
    exact ⟨t.2, hbody⟩
  · rename_i e t hbody
    obtain ⟨e', he'⟩ := hraises t.2 e t.1
    rw [h] at he'
    cases he'

/-! ## Both ends of a program -/

/-- From states in `pre`, a program that returns `a` ends in `post a`, and one that fails with `e` in `raised e`. -/
def Holds (pre : σ → Prop) (x : Attempt σ ε α) (post : α → σ → Prop) (raised : ε → σ → Prop) : Prop :=
  ∀ s, pre s → match x s with
    | (.ok a, s') => post a s'
    | (.error e, s') => raised e s'

variable {pre : σ → Prop} {post : α → σ → Prop} {raised : ε → σ → Prop}

theorem Holds.mono {q : σ → Prop} {post' : α → σ → Prop} {raised' : ε → σ → Prop} {x : Attempt σ ε α}
    (h : Holds q x post' raised') (hpre : ∀ s, pre s → q s) (hpost : ∀ a s, post' a s → post a s)
    (hraised : ∀ e s, raised' e s → raised e s) : Holds pre x post raised := by
  intro s hs
  have hx := h s (hpre s hs)
  split at hx
  · exact hpost _ _ hx
  · exact hraised _ _ hx

theorem Holds.pure {a : α} (h : ∀ s, pre s → post a s) : Holds pre (Pure.pure a : Attempt σ ε α) post raised := h

theorem Holds.raise {e : ε} (h : ∀ s, pre s → raised e s) : Holds pre (raise e : Attempt σ ε α) post raised := h

theorem Holds.except {r : Except ε α} (hok : ∀ a, r = .ok a → ∀ s, pre s → post a s)
    (herror : ∀ e, r = .error e → ∀ s, pre s → raised e s) :
    Holds pre (monadLift r : Attempt σ ε α) post raised := by
  intro s hs
  cases r with
  | ok a => exact hok a rfl s hs
  | error e => exact herror e rfl s hs

theorem Holds.write {post : Unit → σ → Prop} {s' : σ} (h : ∀ s, pre s → post () s') :
    Holds pre (write s' : Attempt σ ε Unit) post raised := h

theorem Holds.bind {m : α → σ → Prop} {post : β → σ → Prop} {x : Attempt σ ε α} {f : α → Attempt σ ε β}
    (hx : Holds pre x m raised) (hf : ∀ a, Holds (m a) (f a) post raised) :
    Holds pre (x >>= f) post raised := by
  intro s hs
  have hxs := hx s hs
  show match (match x s with
    | (.ok a, s') => f a s'
    | (.error e, s') => (.error e, s')) with
    | (.ok b, s') => post b s'
    | (.error e, s') => raised e s'
  split at hxs
  · exact hf _ _ hxs
  · exact hxs

theorem Holds.of_error {x : Attempt σ ε α} {s : σ} {e : ε} (h : Holds pre x post raised) (hs : pre s)
    (he : (x s).1 = .error e) : raised e (x s).2 := by
  have hx := h s hs
  split at hx
  · rename_i heq
    rw [heq] at he
    cases he
  · rename_i heq
    rw [heq] at he ⊢
    cases he
    exact hx

/-- A fact that is not about the state stays true. -/
theorem Holds.given {p : Prop} {x : Attempt σ ε α} (h : p → Holds pre x post raised) :
    Holds (fun s => pre s ∧ p) x (fun a s => post a s ∧ p) fun e s => raised e s ∧ p := by
  rintro s ⟨hs, hp⟩
  have hx := h hp s hs
  split at hx
  · exact ⟨hx, hp⟩
  · exact ⟨hx, hp⟩

/-- It is enough to look at each state on its own. -/
theorem Holds.of_each {x : Attempt σ ε α} (h : ∀ s, pre s → Holds (· = s) x post raised) : Holds pre x post raised :=
  fun s hs => h s hs s rfl

/-- Read the state and go on from it. -/
theorem Holds.read_bind {post : β → σ → Prop} {f : σ → Attempt σ ε β}
    (h : ∀ s, pre s → Holds (· = s) (f s) post raised) : Holds pre (Attempt.read >>= f) post raised :=
  fun s hs => h s hs s rfl

theorem Holds.forEach {f : ι → Attempt σ ε Unit} {I : σ → Prop} {xs : List ι}
    (h : ∀ x ∈ xs, Holds I (f x) (fun _ => I) raised) : Holds I (forEach f xs) (fun _ => I) raised := by
  induction xs with
  | nil => exact .pure fun _ => id
  | cons x xs ih =>
    exact .bind (h x List.mem_cons_self) fun _ => ih fun y hy => h y (List.mem_cons_of_mem _ hy)

/-- A part without the variables leaves them as they are. -/
theorem Holds.lifted {pre : σ × κ → Prop} {post : α → σ × κ → Prop} {raised : ε → σ × κ → Prop} {x : Attempt σ ε α}
    (h : ∀ v, Holds (fun s => pre (s, v)) x (fun a s => post a (s, v)) fun e s => raised e (s, v)) :
    Holds pre (liftM x : Attempt (σ × κ) ε α) post raised := by
  rintro ⟨s, v⟩ hs
  have hx := h v s hs
  have heq : (liftM x : Attempt (σ × κ) ε α) = lift x := rfl
  rw [heq, Attempt.lift]
  split at hx
  · rename_i a s' heq
    rw [heq]
    exact hx
  · rename_i e s' heq
    rw [heq]
    exact hx

theorem Holds.assign {pre : σ × κ → Prop} {post : Unit → σ × κ → Prop} {raised : ε → σ × κ → Prop} {v : κ}
    (h : ∀ s w, pre (s, w) → post () (s, v)) : Holds pre (assign v) post raised := fun s hs => h s.1 s.2 hs

theorem Holds.mapError {f : ε → ε} {x : Attempt σ ε α} (h : Holds pre x post fun e => raised (f e)) :
    Holds pre (mapError f x) post raised := by
  intro s hs
  have hx := h s hs
  rw [Attempt.mapError]
  split at hx
  · exact hx
  · exact hx

theorem Holds.handling {v : κ} {body : Attempt (σ × κ) ε α} {handler : κ → ε → Attempt σ ε α}
    {g : ε → σ × κ → Prop}
    (hbody : Holds (fun s : σ × κ => pre s.1 ∧ s.2 = v) body (fun a s => post a s.1) g)
    (hhandler : ∀ w e, Holds (fun s => g e (s, w)) (handler w e) post raised) :
    Holds pre (handling v body handler) post raised := by
  intro s hs
  have hb := hbody (s, v) ⟨hs, rfl⟩
  rw [Attempt.handling]
  split at hb
  · rename_i a s' heq
    rw [heq]
    exact hb
  · rename_i e s' heq
    rw [heq]
    exact hhandler s'.2 e s'.1 hb

theorem Holds.cleaningUp {m : α → σ → Prop} {g : ε → σ → Prop} {body : Attempt σ ε α}
    {cleanup : Attempt σ ε Unit} (hbody : Holds pre body m g)
    (hok : ∀ a, Holds (m a) cleanup (fun _ => post a) raised)
    (herror : ∀ e, Holds (g e) cleanup (fun _ => raised e) raised) :
    Holds pre (cleaningUp body cleanup) post raised := by
  intro s hs
  have hb := hbody s hs
  rw [Attempt.cleaningUp]
  split at hb
  · rename_i a s' heq
    have hc := hok a s' hb
    rw [heq]
    dsimp only
    split at hc
    · rename_i u s'' heq'
      rw [heq']
      exact hc
    · rename_i e s'' heq'
      rw [heq']
      exact hc
  · rename_i e s' heq
    have hc := herror e s' hb
    rw [heq]
    dsimp only
    split at hc
    · rename_i u s'' heq'
      rw [heq']
      exact hc
    · rename_i e' s'' heq'
      rw [heq']
      exact hc

/-! ## What a program keeps -/

/-- `x` keeps `I`, also where it fails. -/
def Keeps (I : σ → Prop) (x : Attempt σ ε α) : Prop := Holds I x (fun _ => I) fun _ => I

variable {I : σ → Prop}

theorem Keeps.pure {a : α} : Keeps I (Pure.pure a : Attempt σ ε α) := Holds.pure fun _ => id

theorem Keeps.except {r : Except ε α} : Keeps I (liftM r : Attempt σ ε α) :=
  Holds.except (fun _ _ _ => id) fun _ _ _ => id

theorem Keeps.bind {x : Attempt σ ε α} {f : α → Attempt σ ε β} (hx : Keeps I x) (hf : ∀ a, Keeps I (f a)) :
    Keeps I (x >>= f) := Holds.bind hx hf

theorem Keeps.forEach {f : ι → Attempt σ ε Unit} {xs : List ι} (h : ∀ x ∈ xs, Keeps I (f x)) :
    Keeps I (Attempt.forEach f xs) := Holds.forEach h

theorem Keeps.lifted {x : Attempt σ ε α} (h : Keeps I x) :
    Keeps (fun s : σ × κ => I s.1) (liftM x : Attempt (σ × κ) ε α) := Holds.lifted fun _ => h

theorem Keeps.assign {v : κ} : Keeps (fun s : σ × κ => I s.1) (Attempt.assign v : Attempt (σ × κ) ε Unit) :=
  Holds.assign fun _ _ => id

theorem Keeps.mapError {f : ε → ε} {x : Attempt σ ε α} (h : Keeps I x) : Keeps I (Attempt.mapError f x) :=
  Holds.mapError h

/-- A program that keeps `I`, and what comes after it. -/
theorem Keeps.bind_holds {post : β → σ → Prop} {raised : ε → σ → Prop} {x : Attempt σ ε α} {f : α → Attempt σ ε β}
    (hx : Keeps I x) (hI : ∀ e s, I s → raised e s) (hf : ∀ a, Holds I (f a) post raised) :
    Holds I (x >>= f) post raised :=
  .bind (hx.mono (fun _ => id) (fun _ _ => id) hI) hf

end Attempt

end StateLib
