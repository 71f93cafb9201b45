import Mathlib.Data.List.Basic
import Mathlib.Data.List.Forall2
import Mathlib.Data.Nat.Basic

/-!
# Runs of a labelled transition system

A system is a step relation `step : σ → ℓ → σ → Prop`: from a state, under a label, to a state.
A run is a list of steps, each starting where the one before it ended. The rules of this file are
the inductions over runs: `Run.invariant` for a property that every step preserves,
`Run.invariant_of_steps` for one that only the steps meeting a side condition preserve, and
`Run.forall_iff` for a property that the steps of a run have exactly when they meet a condition.
-/

namespace StateLib

variable {σ ℓ : Type*}

/-- One step of a run: the state before it, its label, the state after it. -/
structure Taken (σ ℓ : Type*) where
  pre : σ
  label : ℓ
  post : σ

/-- `Run step s₀ tr s`: the steps `tr` lead from `s₀` to `s`. -/
inductive Run (step : σ → ℓ → σ → Prop) (s₀ : σ) : List (Taken σ ℓ) → σ → Prop
  | start : Run step s₀ [] s₀
  | next {tr : List (Taken σ ℓ)} {s s' : σ} {l : ℓ} :
      Run step s₀ tr s → step s l s' → Run step s₀ (tr ++ [⟨s, l, s'⟩]) s'

/-- `s` is reached by some run from `s₀`. -/
def Reachable (step : σ → ℓ → σ → Prop) (s₀ s : σ) : Prop := ∃ tr, Run step s₀ tr s

namespace Run

variable {step : σ → ℓ → σ → Prop} {s₀ s : σ} {tr : List (Taken σ ℓ)}

/-- Each step of a run is a step of the system, and the run up to it is a run. -/
theorem prefix_of_mem (h : Run step s₀ tr s) {t : Taken σ ℓ} (ht : t ∈ tr) :
    (∃ tr', Run step s₀ tr' t.pre) ∧ step t.pre t.label t.post := by
  induction h with
  | start => simp at ht
  | @next tr s s' l hrun hstep ih =>
    rcases List.mem_append.1 ht with ht | ht
    · exact ih ht
    · rw [List.mem_singleton.1 ht]
      exact ⟨⟨tr, hrun⟩, hstep⟩

/-- A run is cut in two at any of its steps. -/
theorem split {pre post : List (Taken σ ℓ)} {t : Taken σ ℓ} (h : Run step s₀ tr s)
    (htr : tr = pre ++ t :: post) :
    Run step s₀ pre t.pre ∧ step t.pre t.label t.post ∧ Run step t.post post s := by
  induction h generalizing post with
  | start => simp at htr
  | @next tr s s' l hrun hs ih =>
    rcases List.eq_nil_or_concat' post with rfl | ⟨post, u, rfl⟩
    · obtain ⟨rfl, ht⟩ := List.append_inj' htr rfl
      rw [List.singleton_inj] at ht
      subst ht
      exact ⟨hrun, hs, .start⟩
    · rw [← List.cons_append, ← List.append_assoc] at htr
      obtain ⟨hcut, hu⟩ := List.append_inj' htr rfl
      rw [List.singleton_inj] at hu
      subst hu
      obtain ⟨h₁, h₂, h₃⟩ := ih hcut
      exact ⟨h₁, h₂, h₃.next hs⟩

theorem eq_of_nil (h : Run step s₀ [] s) : s = s₀ := by
  generalize htr : ([] : List (Taken σ ℓ)) = tr at h
  cases h with
  | start => rfl
  | next => simp at htr

/-- The first step of a run, and the rest of the run. -/
theorem uncons {t : Taken σ ℓ} {rest : List (Taken σ ℓ)} (h : Run step s₀ (t :: rest) s) :
    t.pre = s₀ ∧ step t.pre t.label t.post ∧ Run step t.post rest s := by
  obtain ⟨h₁, h₂, h₃⟩ := h.split (List.nil_append _).symm
  exact ⟨h₁.eq_of_nil, h₂, h₃⟩

/-- Two runs, one after the other. -/
theorem append {tr' : List (Taken σ ℓ)} {s' : σ} (h : Run step s₀ tr s) (h' : Run step s tr' s') :
    Run step s₀ (tr ++ tr') s' := by
  induction h' with
  | start => rwa [List.append_nil]
  | next _ hs ih =>
    rw [← List.append_assoc]
    exact ih.next hs

/-- A measure that no step of a run lowers is not lowered by the run. -/
theorem le_of_steps {f : σ → ℕ} (h : Run step s₀ tr s) (hle : ∀ t ∈ tr, f t.pre ≤ f t.post) :
    f s₀ ≤ f s := by
  induction h with
  | start => exact Nat.le_refl _
  | next _ hs ih =>
    simp only [List.forall_mem_append, List.forall_mem_singleton] at hle
    exact Nat.le_trans (ih hle.1) hle.2

/-- A property that holds at the start and that every step preserves holds at the end. -/
theorem invariant {I : σ → Prop} (h₀ : I s₀) (hstep : ∀ s l s', I s → step s l s' → I s')
    (h : Run step s₀ tr s) : I s := by
  induction h with
  | start => exact h₀
  | next _ hs ih => exact hstep _ _ _ ih hs

/-- A property that the steps meeting `K` preserve holds after a run of such steps. -/
theorem invariant_of_steps {I : σ → Prop} {K : Taken σ ℓ → Prop} (h₀ : I s₀)
    (hstep : ∀ s l s', I s → step s l s' → K ⟨s, l, s'⟩ → I s')
    (h : Run step s₀ tr s) (hK : ∀ t ∈ tr, K t) : I s := by
  induction h with
  | start => exact h₀
  | next _ hs ih =>
    exact hstep _ _ _ (ih fun t ht => hK t (List.mem_append_left _ ht)) hs
      (hK _ (List.mem_append_right _ (List.mem_singleton.2 rfl)))

/-- Along a run, every step meets `Q` exactly when every step meets `K`, provided that the two
agree at a good state and that the steps meeting `K` lead from good states to good ones. -/
theorem forall_iff {G : σ → Prop} {Q K : Taken σ ℓ → Prop} (hG : G s₀)
    (hstep : ∀ s l s', G s → step s l s' → (Q ⟨s, l, s'⟩ ↔ K ⟨s, l, s'⟩))
    (hgood : ∀ s l s', G s → step s l s' → K ⟨s, l, s'⟩ → G s')
    (h : Run step s₀ tr s) : (∀ t ∈ tr, Q t) ↔ ∀ t ∈ tr, K t := by
  suffices main : ((∀ t ∈ tr, Q t) ↔ ∀ t ∈ tr, K t) ∧ ((∀ t ∈ tr, K t) → G s) from main.1
  induction h with
  | start => exact ⟨by simp, fun _ => hG⟩
  | @next tr s s' l hrun hs ih =>
    obtain ⟨hiff, hgood'⟩ := ih
    simp only [List.forall_mem_append, List.forall_mem_singleton]
    refine ⟨⟨?_, ?_⟩, ?_⟩
    · rintro ⟨hpre, hpost⟩
      exact ⟨hiff.1 hpre, (hstep s l s' (hgood' (hiff.1 hpre)) hs).1 hpost⟩
    · rintro ⟨hpre, hpost⟩
      exact ⟨hiff.2 hpre, (hstep s l s' (hgood' hpre) hs).2 hpost⟩
    · rintro ⟨hpre, hpost⟩
      exact hgood s l s' (hgood' hpre) hs hpost

/-- Along a run, `P` survives every step exactly when every step meets `K`, provided that a step
from a good state preserves `P` exactly when it meets `K`. `I` is what the steps that keep `P`
preserve besides. -/
theorem forall_post_iff {I P : σ → Prop} {K : Taken σ ℓ → Prop} (hI : I s₀) (hP : P s₀)
    (hinv : ∀ s l s', I s → P s → step s l s' → P s' → I s')
    (hstep : ∀ s l s', I s → P s → step s l s' → (P s' ↔ K ⟨s, l, s'⟩))
    (h : Run step s₀ tr s) : (∀ t ∈ tr, P t.post) ↔ ∀ t ∈ tr, K t := by
  refine h.forall_iff (G := fun s => I s ∧ P s) (Q := fun t => P t.post) ⟨hI, hP⟩ ?_ ?_
  · exact fun s l s' hgood hs => hstep s l s' hgood.1 hgood.2 hs
  · intro s l s' hgood hs hK
    have hpost := (hstep s l s' hgood.1 hgood.2 hs).2 hK
    exact ⟨hinv s l s' hgood.1 hgood.2 hs hpost, hpost⟩

/-- A log to which each loud step, and no other, adds one entry holds an entry for each loud step
of a run that starts with an empty log, in order. -/
theorem forall₂_log {β : Type*} {log : σ → List β} {loud : ℓ → Bool} {entry : ℓ → β → Prop}
    (h₀ : log s₀ = []) (hsilent : ∀ s l s', step s l s' → loud l = false → log s' = log s)
    (hloud : ∀ s l s', step s l s' → loud l = true → ∃ b, entry l b ∧ log s' = log s ++ [b])
    (h : Run step s₀ tr s) :
    List.Forall₂ (fun t b => entry t.label b) (tr.filter fun t => loud t.label) (log s) := by
  induction h with
  | start =>
    rw [h₀]
    exact .nil
  | @next tr s s' l hrun hs ih =>
    rw [List.filter_append]
    cases hl : loud l with
    | false =>
      rw [hsilent s l s' hs hl, List.filter_singleton, hl]
      simpa using ih
    | true =>
      obtain ⟨b, hb, hlog⟩ := hloud s l s' hs hl
      rw [hlog, List.filter_singleton, hl]
      exact List.rel_append ih (.cons hb .nil)

end Run

theorem Reachable.refl {step : σ → ℓ → σ → Prop} (s : σ) : Reachable step s s := ⟨[], .start⟩

theorem Reachable.next {step : σ → ℓ → σ → Prop} {s₀ s s' : σ} {l : ℓ}
    (h : Reachable step s₀ s) (hs : step s l s') : Reachable step s₀ s' := by
  obtain ⟨tr, hrun⟩ := h
  exact ⟨_, hrun.next hs⟩

theorem Reachable.invariant {step : σ → ℓ → σ → Prop} {s₀ s : σ} {I : σ → Prop} (h₀ : I s₀)
    (hstep : ∀ s l s', I s → step s l s' → I s') (h : Reachable step s₀ s) : I s := by
  obtain ⟨tr, hrun⟩ := h
  exact hrun.invariant h₀ hstep

end StateLib
