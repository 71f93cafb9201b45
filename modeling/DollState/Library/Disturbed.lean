import DollState.Library.Run
import DollState.Library.Script

/-!
# A script that is disturbed

One process runs a script on a state that others change as they like, between any two of its steps. A
write of the script happens or fails, whatever it is. A script is `Gated` if the writes it may make
before it has asked anything are of one kind, and so are those it may make after any answer but those
it waits for. The rule of this file is `Run.gated`: before each write of another kind the script has
asked, and has had an answer it waits for.
-/

namespace StateLib

namespace Script

variable {Q : Type} {A : Q → Type} {ω ε α β : Type} {P : ω → Prop} {R : (q : Q) → A q → Prop}

/-- Each write of the script is a `P`, whatever it is answered. -/
def OnlyWrites (P : ω → Prop) : Script Q A ω ε α → Prop
  | .done _ => True
  | .ask _ k => ∀ a, (k a).OnlyWrites P
  | .write w k => P w ∧ ∀ r, (k r).OnlyWrites P

/-- Up to the first question each write of the script is a `P`, and so it is after an answer to it that
is no `R`. -/
def Gated (P : ω → Prop) (R : (q : Q) → A q → Prop) : Script Q A ω ε α → Prop
  | .done _ => True
  | .ask q k => ∀ a, ¬ R q a → (k a).OnlyWrites P
  | .write w k => P w ∧ ∀ r, (k r).Gated P R

theorem Gated.lift_bind {x : Except ε α} {f : α → Script Q A ω ε β}
    (hf : ∀ a, x = .ok a → (f a).Gated P R) :
    ((monadLift x : Script Q A ω ε α) >>= f).Gated P R := by
  cases x with
  | ok a => exact hf a rfl
  | error e => trivial

theorem Gated.commit_bind {w : ω} {f : Unit → Script Q A ω ε β} (hw : P w)
    (hf : (f ()).Gated P R) : (commit w >>= f).Gated P R := by
  refine ⟨hw, fun r => ?_⟩
  cases r with
  | ok _ => exact hf
  | error e => trivial

end Script

namespace Disturbed

open Script

variable {Q : Type} {A : Q → Type} {ω ε α : Type} {σ κ : Type*}

/-- The state that is shared, and the rest of the script. -/
structure World (σ : Type*) (Q : Type) (A : Q → Type) (ω ε α : Type) where
  shared : σ
  rest : Script Q A ω ε α

/-- What happens in a step. -/
inductive Action (Q ω ε : Type) (κ : Type*)
  | read (q : Q)
  | commit (w : ω)
  | fail (w : ω) (e : ε)
  /-- a step of the others -/
  | disturb (a : κ)

variable (answer : σ → (q : Q) → A q) (transact : ω → σ → Except ε σ) (disturb : κ → σ → σ)

inductive Step : World σ Q A ω ε α → Action Q ω ε κ → World σ Q A ω ε α → Prop
  | read {s : σ} {q : Q} {k : A q → Script Q A ω ε α} :
      Step ⟨s, .ask q k⟩ (.read q) ⟨s, k (answer s q)⟩
  | commit {s s' : σ} {w : ω} {k : Except ε Unit → Script Q A ω ε α} :
      transact w s = .ok s' → Step ⟨s, .write w k⟩ (.commit w) ⟨s', k (.ok ())⟩
  | fail {s : σ} {w : ω} {k : Except ε Unit → Script Q A ω ε α} (e : ε) :
      Step ⟨s, .write w k⟩ (.fail w e) ⟨s, k (.error e)⟩
  | disturb {s : σ} {p : Script Q A ω ε α} (a : κ) :
      Step ⟨s, p⟩ (.disturb a) ⟨disturb a s, p⟩

/-! ## Runs that are given -/

/-- What is to happen next: the next step of the script, its failure, or a step of the others. -/
inductive Choice (ε : Type) (κ : Type*)
  | go
  | fail (e : ε)
  | disturb (a : κ)

/-- The step that is chosen, if there is one. -/
def move : Choice ε κ → World σ Q A ω ε α → Option (Action Q ω ε κ × World σ Q A ω ε α)
  | .go, ⟨s, .ask q k⟩ => some (.read q, ⟨s, k (answer s q)⟩)
  | .go, ⟨s, .write w k⟩ =>
    match transact w s with
    | .ok s' => some (.commit w, ⟨s', k (.ok ())⟩)
    | .error e => some (.fail w e, ⟨s, k (.error e)⟩)
  | .fail e, ⟨s, .write w k⟩ => some (.fail w e, ⟨s, k (.error e)⟩)
  | .disturb a, ⟨s, p⟩ => some (.disturb a, ⟨disturb a s, p⟩)
  | _, _ => none

/-- The steps that are chosen, up to the first choice without a step. -/
def drive : List (Choice ε κ) → World σ Q A ω ε α →
    List (Taken (World σ Q A ω ε α) (Action Q ω ε κ)) × World σ Q A ω ε α
  | [], W => ([], W)
  | c :: cs, W =>
    match move answer transact disturb c W with
    | none => ([], W)
    | some (l, W') => (⟨W, l, W'⟩ :: (drive cs W').1, (drive cs W').2)

variable {answer transact disturb}

theorem step_of_move {c : Choice ε κ} {W W' : World σ Q A ω ε α} {l : Action Q ω ε κ}
    (h : move answer transact disturb c W = some (l, W')) : Step answer transact disturb W l W' := by
  obtain ⟨s, p⟩ := W
  cases c with
  | disturb a =>
    cases h
    exact .disturb a
  | fail e =>
    cases p with
    | write w k =>
      cases h
      exact .fail e
    | _ => cases h
  | go =>
    cases p with
    | done r => cases h
    | ask q k =>
      cases h
      exact .read
    | write w k =>
      rw [move] at h
      split at h
      · rename_i s' hw
        cases h
        exact .commit hw
      · cases h
        exact .fail _

theorem run_drive (cs : List (Choice ε κ)) (W : World σ Q A ω ε α) :
    Run (Step answer transact disturb) W (drive answer transact disturb cs W).1
      (drive answer transact disturb cs W).2 := by
  induction cs generalizing W with
  | nil => exact .start
  | cons c cs ih =>
    rw [drive]
    split
    · exact .start
    · rename_i l W' hmove
      exact (Run.start.next (step_of_move hmove)).append (ih W')

/-! ## Scripts that ask first -/

variable {P : ω → Prop} {R : (q : Q) → A q → Prop}

/-- The steps after the first question of the script, which has been answered by an `R`. -/
def Asked (answer : σ → (q : Q) → A q) (R : (q : Q) → A q → Prop)
    (before : List (Taken (World σ Q A ω ε α) (Action Q ω ε κ))) : Prop :=
  ∃ pre c between q, before = pre ++ c :: between ∧ (∀ t ∈ pre, ∀ q, t.label ≠ .read q) ∧
    c.label = .read q ∧ R q (answer c.pre.shared q)

theorem Asked.next {before : List (Taken (World σ Q A ω ε α) (Action Q ω ε κ))}
    (h : Asked answer R before) (t : Taken (World σ Q A ω ε α) (Action Q ω ε κ)) :
    Asked answer R (before ++ [t]) := by
  obtain ⟨pre, c, between, q, rfl, hpre, hc, hR⟩ := h
  exact ⟨pre, c, between ++ [t], q, by simp, hpre, hc, hR⟩

variable {W₀ W : World σ Q A ω ε α} {tr : List (Taken (World σ Q A ω ε α) (Action Q ω ε κ))}

/-- The script is still before its first question, or it has had an answer it waits for, or what is left
of it only writes what is a `P`. -/
theorem Run.gated (h : Run (Step answer transact disturb) W₀ tr W) (hgated : W₀.rest.Gated P R) :
    ((∀ t ∈ tr, ∀ q, t.label ≠ .read q) ∧ W.rest.Gated P R) ∨ Asked answer R tr ∨
      W.rest.OnlyWrites P := by
  induction h with
  | start => exact .inl ⟨by simp, hgated⟩
  | @next tr s s' l hrun hs ih =>
    rcases ih with ⟨hsilent, hrest⟩ | hasked | honly
    · have hkeep (hl : ∀ q, l ≠ .read q) : ∀ t ∈ tr ++ [⟨s, l, s'⟩], ∀ q, t.label ≠ .read q := by
        intro t ht
        rcases List.mem_append.1 ht with ht | ht
        · exact hsilent t ht
        · rw [List.mem_singleton.1 ht]
          exact hl
      cases hs with
      | @read s q k =>
        by_cases hR : R q (answer s q)
        · exact .inr (.inl ⟨tr, _, [], q, rfl, hsilent, rfl, hR⟩)
        · exact .inr (.inr (hrest _ hR))
      | commit _ => exact .inl ⟨hkeep fun _ h => (by cases h), hrest.2 _⟩
      | fail _ => exact .inl ⟨hkeep fun _ h => (by cases h), hrest.2 _⟩
      | disturb _ => exact .inl ⟨hkeep fun _ h => (by cases h), hrest⟩
    · exact .inr (.inl (hasked.next _))
    · refine .inr (.inr ?_)
      cases hs with
      | read => exact honly _
      | commit _ => exact honly.2 _
      | fail _ => exact honly.2 _
      | disturb _ => exact honly

/-- Before a write of another kind the script has had an answer it waits for. -/
theorem Run.asked_of_commit (h : Run (Step answer transact disturb) W₀ tr W)
    (hgated : W₀.rest.Gated P R) {w : ω} {W' : World σ Q A ω ε α}
    (hstep : Step answer transact disturb W (.commit w) W') (hw : ¬ P w) : Asked answer R tr := by
  have hgate := Run.gated h hgated
  generalize hl : (Action.commit w : Action Q ω ε κ) = l at hstep
  cases hstep with
  | commit _ =>
    cases hl
    rcases hgate with ⟨-, hrest⟩ | hasked | honly
    · exact absurd hrest.1 hw
    · exact hasked
    · exact absurd honly.1 hw
  | read => cases hl
  | fail => cases hl
  | disturb => cases hl

end Disturbed

end StateLib
