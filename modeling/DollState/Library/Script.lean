import DollState.Library.ReadProgram

/-!
# Programs of several transactions

A `Script` asks queries and commits transactions, one at a time, and returns or fails. What follows a
transaction is told whether it was committed. `Ends` is a run of a script that has the state for
itself and whose transactions are all committed.
-/

namespace StateLib

/-- A program asking queries `q : Q` and committing transactions `w : ω`. -/
inductive Script (Q : Type) (A : Q → Type) (ω ε α : Type) : Type
  | done (r : Except ε α) : Script Q A ω ε α
  | ask (q : Q) (k : A q → Script Q A ω ε α) : Script Q A ω ε α
  | write (w : ω) (k : Except ε Unit → Script Q A ω ε α) : Script Q A ω ε α

namespace Script

variable {Q : Type} {A : Q → Type} {ω ε α β : Type}

protected def bind : Script Q A ω ε α → (α → Script Q A ω ε β) → Script Q A ω ε β
  | .done (.ok a), f => f a
  | .done (.error e), _ => .done (.error e)
  | .ask q k, f => .ask q fun a => (k a).bind f
  | .write w k, f => .write w fun r => (k r).bind f

instance : Monad (Script Q A ω ε) where
  pure a := .done (.ok a)
  bind := Script.bind

instance : MonadLift (Except ε) (Script Q A ω ε) := ⟨.done⟩

/-- A program that only reads. -/
def reading : ReadProgram Q A ε α → Script Q A ω ε α
  | .done r => .done r
  | .ask q k => .ask q fun a => reading (k a)

instance : MonadLift (ReadProgram Q A ε) (Script Q A ω ε) := ⟨reading⟩

/-- Commit one transaction. -/
def commit (w : ω) : Script Q A ω ε Unit := .write w .done

/-- Run a script and return what it comes to. -/
def attempt : Script Q A ω ε α → Script Q A ω ε (Except ε α)
  | .done r => .done (.ok r)
  | .ask q k => .ask q fun a => (k a).attempt
  | .write w k => .write w fun r => (k r).attempt

/-- The handler `except e: raise f(e)`. -/
def mapError (f : ε → ε) (p : Script Q A ω ε α) : Script Q A ω ε α := do
  let r ← p.attempt
  .done (r.mapError f)

/-! ## Runs without other writers -/

variable {σ : Type*}

/-- `Ends answer commit p s r s'`: from `s` the script comes to `r` and leaves `s'`, all its
transactions being committed. -/
inductive Ends (answer : σ → (q : Q) → A q) (commit : ω → σ → Except ε σ) :
    Script Q A ω ε α → σ → Except ε α → σ → Prop
  | done (r : Except ε α) (s : σ) : Ends answer commit (.done r) s r s
  | ask {q : Q} {k : A q → Script Q A ω ε α} {s s' : σ} {r : Except ε α} :
      Ends answer commit (k (answer s q)) s r s' → Ends answer commit (.ask q k) s r s'
  | write {w : ω} {k : Except ε Unit → Script Q A ω ε α} {s s₁ s' : σ} {r : Except ε α} :
      commit w s = .ok s₁ → Ends answer commit (k (.ok ())) s₁ r s' →
      Ends answer commit (.write w k) s r s'

variable {answer : σ → (q : Q) → A q} {transact : ω → σ → Except ε σ} {s s' : σ}

theorem ends_done {r r' : Except ε α} :
    Ends answer transact (.done r) s r' s' ↔ r' = r ∧ s' = s := by
  constructor
  · intro h
    cases h
    exact ⟨rfl, rfl⟩
  · rintro ⟨rfl, rfl⟩
    exact .done _ _

theorem ends_pure {a : α} {r : Except ε α} :
    Ends answer transact (pure a) s r s' ↔ r = .ok a ∧ s' = s := ends_done

theorem ends_lift {x r : Except ε α} :
    Ends answer transact (monadLift x) s r s' ↔ r = x ∧ s' = s := ends_done

theorem ends_ask {q : Q} {k : A q → Script Q A ω ε α} {r : Except ε α} :
    Ends answer transact (.ask q k) s r s' ↔ Ends answer transact (k (answer s q)) s r s' := by
  constructor
  · intro h
    cases h with
    | ask h => exact h
  · exact .ask

theorem ends_write {w : ω} {k : Except ε Unit → Script Q A ω ε α} {r : Except ε α} :
    Ends answer transact (.write w k) s r s' ↔
      ∃ s₁, transact w s = .ok s₁ ∧ Ends answer transact (k (.ok ())) s₁ r s' := by
  constructor
  · intro h
    cases h with
    | write hw h => exact ⟨_, hw, h⟩
  · rintro ⟨s₁, hw, h⟩
    exact .write hw h

/-- A program that only reads does so from the one state there is, and leaves it. -/
theorem ends_reading {p : ReadProgram Q A ε α} {r : Except ε α} :
    Ends answer transact (reading p) s r s' ↔ r = p.run (answer s) ∧ s' = s := by
  induction p with
  | done r' => exact ends_done
  | ask q k ih =>
    rw [reading, ReadProgram.run, ends_ask]
    exact ih (answer s q)

theorem ends_commit {w : ω} {r : Except ε Unit} :
    Ends answer transact (commit w) s r s' ↔ r = .ok () ∧ transact w s = .ok s' := by
  rw [commit, ends_write]
  constructor
  · rintro ⟨s₁, hw, h⟩
    obtain ⟨rfl, rfl⟩ := ends_done.1 h
    exact ⟨rfl, hw⟩
  · rintro ⟨rfl, hw⟩
    exact ⟨s', hw, .done _ _⟩

/-- A sequence of two scripts ends where the first one fails, or where the second one ends. -/
theorem ends_bind {p : Script Q A ω ε α} {f : α → Script Q A ω ε β} {r : Except ε β} :
    Ends answer transact (p >>= f) s r s' ↔
      (∃ e, r = .error e ∧ Ends answer transact p s (.error e) s') ∨
        ∃ a s₁, Ends answer transact p s (.ok a) s₁ ∧ Ends answer transact (f a) s₁ r s' := by
  induction p generalizing s with
  | done r' =>
    simp only [ends_done]
    cases r' with
    | ok a =>
      change Ends answer transact (f a) s r s' ↔ _
      simp
    | error e =>
      change Ends answer transact (.done (.error e)) s r s' ↔ _
      simp [ends_done]
  | ask q k ih =>
    change Ends answer transact (.ask q fun a => k a >>= f) s r s' ↔ _
    simp only [ends_ask, ih]
  | write w k ih =>
    change Ends answer transact (.write w fun r => k r >>= f) s r s' ↔ _
    simp only [ends_write, ih]
    constructor
    · rintro ⟨s₁, hw, ⟨e, rfl, h⟩ | ⟨a, s₂, h, h'⟩⟩
      · exact .inl ⟨e, rfl, s₁, hw, h⟩
      · exact .inr ⟨a, s₂, ⟨s₁, hw, h⟩, h'⟩
    · rintro (⟨e, rfl, s₁, hw, h⟩ | ⟨a, s₂, ⟨s₁, hw, h⟩, h'⟩)
      · exact ⟨s₁, hw, .inl ⟨e, rfl, h⟩⟩
      · exact ⟨s₁, hw, .inr ⟨a, s₂, h, h'⟩⟩

theorem ends_bind_ok {p : Script Q A ω ε α} {f : α → Script Q A ω ε β} {b : β} :
    Ends answer transact (p >>= f) s (.ok b) s' ↔
      ∃ a s₁, Ends answer transact p s (.ok a) s₁ ∧ Ends answer transact (f a) s₁ (.ok b) s' := by
  rw [ends_bind]
  constructor
  · rintro (⟨e, h, -⟩ | h)
    · cases h
    · exact h
  · exact .inr

/-- A check, and what is returned of its value. -/
theorem ends_lift_map {x : Except ε α} {f : α → β} {r : Except ε β} :
    Ends answer transact ((monadLift x : Script Q A ω ε α) >>= fun a => pure (f a)) s r s' ↔
      r = x.map f ∧ s' = s := by
  cases x with
  | ok a => exact ends_done
  | error e => exact ends_done

theorem ends_attempt {p : Script Q A ω ε α} {r : Except ε (Except ε α)} :
    Ends answer transact p.attempt s r s' ↔ ∃ r', r = .ok r' ∧ Ends answer transact p s r' s' := by
  constructor
  · intro h
    induction p generalizing s with
    | done r' =>
      obtain ⟨rfl, rfl⟩ := ends_done.1 h
      exact ⟨r', rfl, .done _ _⟩
    | ask q k ih =>
      cases h with
      | ask h =>
        obtain ⟨r', hr, h⟩ := ih _ h
        exact ⟨r', hr, .ask h⟩
    | write w k ih =>
      cases h with
      | write hw h =>
        obtain ⟨r', hr, h⟩ := ih _ h
        exact ⟨r', hr, .write hw h⟩
  · rintro ⟨r', rfl, h⟩
    induction h with
    | done r s => exact .done _ _
    | ask _ ih => exact .ask ih
    | write hw _ ih => exact .write hw ih

theorem ends_mapError {f : ε → ε} {p : Script Q A ω ε α} {r : Except ε α} :
    Ends answer transact (p.mapError f) s r s' ↔
      ∃ r', r = r'.mapError f ∧ Ends answer transact p s r' s' := by
  simp only [mapError, ends_bind, ends_attempt, ends_done]
  constructor
  · rintro (⟨e, rfl, r', hr, -⟩ | ⟨r', s₁, ⟨r'', hr, h⟩, rfl, rfl⟩)
    · cases hr
    · cases hr
      exact ⟨r', rfl, h⟩
  · rintro ⟨r', rfl, h⟩
    exact .inr ⟨r', s', ⟨r', rfl, h⟩, rfl, rfl⟩

/-- What every transaction preserves holds at the end. -/
theorem Ends.invariant {I : σ → Prop} {p : Script Q A ω ε α} {r : Except ε α}
    (h : Ends answer transact p s r s') (hs : I s)
    (hstep : ∀ w s s', I s → transact w s = .ok s' → I s') : I s' := by
  induction h with
  | done => exact hs
  | ask _ ih => exact ih hs
  | write hw _ ih => exact ih (hstep _ _ _ hs hw)

/-- Run a script that has the state for itself, if all its transactions are committed. -/
def alone (answer : σ → (q : Q) → A q) (transact : ω → σ → Except ε σ) :
    Script Q A ω ε α → σ → Option (Except ε α × σ)
  | .done r, s => some (r, s)
  | .ask q k, s => (k (answer s q)).alone answer transact s
  | .write w k, s =>
    match transact w s with
    | .ok s₁ => (k (.ok ())).alone answer transact s₁
    | .error _ => none

theorem ends_of_alone {p : Script Q A ω ε α} {r : Except ε α}
    (h : p.alone answer transact s = some (r, s')) : Ends answer transact p s r s' := by
  induction p generalizing s with
  | done r' =>
    cases h
    exact .done _ _
  | ask q k ih => exact .ask (ih _ h)
  | write w k ih =>
    rw [alone] at h
    split at h
    · rename_i s₁ hw
      exact .write hw (ih _ h)
    · cases h

end Script

end StateLib
