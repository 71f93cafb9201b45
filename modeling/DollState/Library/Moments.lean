import DollState.Library.Clients

/-!
# When a client has read

Between the start of a call and its transaction a client only reads. `Underway tr i call ss` says which
states have answered it: those before the read steps that it has taken in `tr` since it started the call.
The rule of this file is `Run.of_commit`: along a run whose transactions preserve an invariant and move the
state forward along an order, what a call ends with was read from states in that order, each of them the
shared state at some moment between the start of the call and its end.
-/

namespace StateLib

namespace ReadProgram

variable {Q Q' : Type} {A : Q → Type} {A' : Q' → Type} {ε ε' α : Type} {σ τ : Type*}

/-- A program whose queries are asked as queries of another sort, and whose errors are raised as others. -/
def via (ask : Q → Q') (back : (q : Q) → A' (ask q) → A q) (raise : ε → ε') :
    ReadProgram Q A ε α → ReadProgram Q' A' ε' α
  | .done r => .done (r.mapError raise)
  | .ask q k => .ask (ask q) fun a => (k (back q a)).via ask back raise

variable {ask : Q → Q'} {back : (q : Q) → A' (ask q) → A q} {raise : ε → ε'}

theorem run_via (p : ReadProgram Q A ε α) (answer : (q : Q') → A' q) :
    (p.via ask back raise).run answer = (p.run fun q => back q (answer (ask q))).mapError raise := by
  induction p with
  | done r => rfl
  | ask q k ih => exact ih _

theorem RunsOver.of_via {answer : σ → (q : Q') → A' q} {p : ReadProgram Q A ε α} {ss : List σ}
    {r : Except ε' α} (h : RunsOver answer (p.via ask back raise) ss r) :
    ∃ r', RunsOver (fun s q => back q (answer s (ask q))) p ss r' ∧ r = r'.mapError raise := by
  induction p generalizing ss with
  | done r' =>
    cases h
    exact ⟨r', .done r', rfl⟩
  | ask q k ih =>
    cases h with
    | @ask _ _ s ss _ h =>
      obtain ⟨r', hrun, hr⟩ := ih _ h
      exact ⟨r', .ask hrun, hr⟩

/-- A program that sees only a part of each state. -/
theorem RunsOver.of_part {answer : τ → (q : Q) → A q} (part : σ → τ) {p : ReadProgram Q A ε α}
    {ss : List σ} {r : Except ε α} (h : RunsOver (fun s => answer (part s)) p ss r) :
    RunsOver answer p (ss.map part) r := by
  induction h with
  | done r => exact .done r
  | ask _ ih => exact .ask ih

/-- A program that needs no answer. -/
theorem RunsOver.of_done {answer : σ → (q : Q) → A q} {r r' : Except ε α} {ss : List σ}
    (h : RunsOver answer (.done r) ss r') : ss = [] ∧ r = r' := by
  cases h
  exact ⟨rfl, rfl⟩

/-- A value that has been computed without reading. -/
theorem RunsOver.value_ok {β : Type} {answer : σ → (q : Q) → A q} {x : Except ε β}
    {f : β → ReadProgram Q A ε α} {ss : List σ} {a : α}
    (h : RunsOver answer ((monadLift x : ReadProgram Q A ε β) >>= f) ss (.ok a)) :
    ∃ b, x = .ok b ∧ RunsOver answer (f b) ss (.ok a) := by
  obtain ⟨ss₁, ss₂, b, rfl, h₁, h₂⟩ := h.bind_ok
  obtain ⟨rfl, hx⟩ := h₁.of_done
  exact ⟨b, hx, h₂⟩

/-- A check that has passed has read nothing. -/
theorem RunsOver.check_ok {answer : σ → (q : Q) → A q} {x : Except ε Unit}
    {f : Unit → ReadProgram Q A ε α} {ss : List σ} {a : α}
    (h : RunsOver answer ((monadLift x : ReadProgram Q A ε Unit) >>= f) ss (.ok a)) :
    x = .ok () ∧ RunsOver answer (f ()) ss (.ok a) := by
  obtain ⟨u, hx, hf⟩ := h.value_ok
  exact ⟨hx, hf⟩

/-- A query that has been asked was answered by the first of the states. -/
theorem RunsOver.read_ok {answer : σ → (q : Q) → A q} {q : Q} {f : A q → ReadProgram Q A ε α}
    {ss : List σ} {r : Except ε α} (h : RunsOver answer (ReadProgram.read q >>= f) ss r) :
    ∃ s rest, ss = s :: rest ∧ RunsOver answer (f (answer s q)) rest r := by
  change RunsOver answer (.ask q f) ss r at h
  cases h with
  | @ask _ _ s rest _ h => exact ⟨s, rest, rfl, h⟩

/-- Each value that has been collected was read from states of its own. -/
theorem RunsOver.collect_ok {ι : Type*} {answer : σ → (q : Q) → A q} {f : ι → ReadProgram Q A ε α}
    {xs : List ι} {ss : List σ} {ys : List α} (h : RunsOver answer (ReadProgram.collect f xs) ss (.ok ys)) :
    List.Forall₂ (fun x y => ∃ ts, RunsOver answer (f x) ts (.ok y)) xs ys := by
  induction xs generalizing ss ys with
  | nil =>
    obtain ⟨-, hys⟩ := h.of_done
    cases hys
    exact .nil
  | cons x xs ih =>
    obtain ⟨ss₁, ss₂, y, rfl, hx, h⟩ := h.bind_ok
    obtain ⟨ss₃, ss₄, zs, rfl, hxs, h⟩ := h.bind_ok
    obtain ⟨-, hys⟩ := h.of_done
    cases hys
    exact .cons ⟨ss₁, hx⟩ (ih hxs)

end ReadProgram

namespace Clients

open ReadProgram

variable {Q : Type} {A : Q → Type} {ε ω : Type} {σ ι κ : Type*} [DecidableEq ι]
  {answer : σ → (q : Q) → A q} {prepare : κ → ReadProgram Q A ε ω} {commit : ω → σ → Except ε σ}
  {W₀ W : World σ ι Q A ε ω κ} {tr : List (Taken (World σ ι Q A ε ω κ) (ι × Action ω κ))}

/-! ## The moments of a call -/

/-- The client has started the call and has only read since then, the states `ss` answering. -/
def Underway (tr : List (Taken (World σ ι Q A ε ω κ) (ι × Action ω κ))) (i : ι) (call : κ)
    (ss : List σ) : Prop :=
  ∃ pre t post, tr = pre ++ t :: post ∧ t.label = (i, .start call) ∧
    (∀ u ∈ post, u.label.1 = i → u.label = (i, .read)) ∧
    ss = (post.filter fun u => u.label.1 = i).map fun u => u.pre.shared

/-- Nothing changes for a client when another one takes a step. -/
theorem Underway.other {i : ι} {call : κ} {ss : List σ} (h : Underway tr i call ss)
    {t : Taken (World σ ι Q A ε ω κ) (ι × Action ω κ)} (ht : t.label.1 ≠ i) :
    Underway (tr ++ [t]) i call ss := by
  obtain ⟨pre, s, post, rfl, hs, hreads, rfl⟩ := h
  refine ⟨pre, s, post ++ [t], by simp, hs, ?_, by simp [ht]⟩
  refine List.forall_mem_append.2 ⟨hreads, List.forall_mem_singleton.2 fun h => absurd h ht⟩

theorem Underway.read {i : ι} {call : κ} {ss : List σ} (h : Underway tr i call ss)
    {t : Taken (World σ ι Q A ε ω κ) (ι × Action ω κ)} (ht : t.label = (i, .read)) :
    Underway (tr ++ [t]) i call (ss ++ [t.pre.shared]) := by
  obtain ⟨pre, s, post, rfl, hs, hreads, rfl⟩ := h
  refine ⟨pre, s, post ++ [t], by simp, hs, ?_, by simp [ht]⟩
  exact List.forall_mem_append.2 ⟨hreads, List.forall_mem_singleton.2 fun _ => ht⟩

/-- The states that answered a call were shared at some moments of the run, in their order. -/
theorem Underway.sublist {i : ι} {call : κ} {ss : List σ} (h : Underway tr i call ss) :
    ss.Sublist (tr.map fun t => t.pre.shared) := by
  obtain ⟨pre, t, post, rfl, -, -, rfl⟩ := h
  refine (List.filter_sublist.map _).trans ?_
  rw [List.map_append, List.map_cons]
  exact (List.sublist_cons_self _ _).trans (List.sublist_append_right _ _)

/-- A busy client is underway, and its program has come as far as the answers have brought it. -/
theorem Run.underway (hidle : ∀ i, W₀.client i = .idle) (h : Run (Step answer prepare commit) W₀ tr W)
    {i : ι} {call : κ} {p : ReadProgram Q A ε ω} (hbusy : W.client i = .busy call p) :
    ∃ ss, Underway tr i call ss ∧ Consumed answer (prepare call) ss p := by
  induction h generalizing p with
  | start => cases (hidle i).symm.trans hbusy
  | @next tr W W' l hrun hs ih =>
    have hother {c : Client Q A ε ω κ} {j : ι} {V : World σ ι Q A ε ω κ} (hV : V.client = W.client)
        (hj : j ≠ i) (hgoto : (V.goto j c).client i = .busy call p) {act : Action ω κ} :
        ∃ ss, Underway (tr ++ [⟨W, (j, act), V.goto j c⟩]) i call ss ∧
          Consumed answer (prepare call) ss p := by
      rw [World.goto_of_ne _ (Ne.symm hj), hV] at hgoto
      obtain ⟨ss, hunder, hconsumed⟩ := ih hgoto
      exact ⟨ss, hunder.other hj, hconsumed⟩
    cases hs with
    | @start j call' hrest =>
      by_cases hj : j = i
      · subst hj
        rw [World.goto_self] at hbusy
        cases hbusy
        exact ⟨[], ⟨tr, _, [], rfl, rfl, by simp, rfl⟩, .start⟩
      · exact hother rfl hj hbusy
    | @read j call' q k hasked =>
      by_cases hj : j = i
      · subst hj
        rw [World.goto_self] at hbusy
        cases hbusy
        obtain ⟨ss, hunder, hconsumed⟩ := ih hasked
        exact ⟨ss ++ [W.shared], hunder.read rfl, .ask _ hconsumed⟩
      · exact hother rfl hj hbusy
    | @commit j call' w s hdone hcommitted =>
      by_cases hj : j = i
      · subst hj
        rw [World.goto_self] at hbusy
        cases hbusy
      · exact hother (V := { W with shared := s }) rfl hj hbusy
    | @stop j =>
      by_cases hj : j = i
      · subst hj
        rw [World.goto_self] at hbusy
        cases hbusy
      · exact hother rfl hj hbusy

/-! ## Runs that move forward -/

variable (answer prepare commit) in
/-- Whatever states in order, with the invariant, a call was prepared on, its transaction keeps the
invariant and moves the state forward. -/
def Advances (I : σ → Prop) (le : σ → σ → Prop) : Prop :=
  ∀ s call ss w s', I s → (∀ t ∈ ss, I t) → (ss ++ [s]).Pairwise le →
    RunsOver answer (prepare call) ss (.ok w) → commit w s = .ok s' → I s' ∧ le s s'

/-- The states that a run has seen, the last one included. -/
def states (tr : List (Taken (World σ ι Q A ε ω κ) (ι × Action ω κ))) (s : σ) : List σ :=
  (tr.map fun t => t.pre.shared) ++ [s]

omit [DecidableEq ι] in
theorem pairwise_states_next {le : σ → σ → Prop} (htrans : ∀ {s t u}, le s t → le t u → le s u)
    {s : σ} {t : Taken (World σ ι Q A ε ω κ) (ι × Action ω κ)}
    (h : (states tr t.pre.shared).Pairwise le) (hs : le t.pre.shared s) :
    (states (tr ++ [t]) s).Pairwise le := by
  unfold states at h ⊢
  rw [List.map_append, List.map_singleton, List.pairwise_append]
  refine ⟨h, List.pairwise_singleton _ _, fun u hu v hv => ?_⟩
  rw [List.mem_singleton.1 hv]
  rcases List.mem_append.1 hu with hu | hu
  · exact htrans ((List.pairwise_append.1 h).2.2 u hu _ (List.mem_singleton.2 rfl)) hs
  · rwa [List.mem_singleton.1 hu]

variable {I : σ → Prop} {le : σ → σ → Prop}

/-- The states of a run are in order, and each of them meets the invariant. -/
theorem Run.forward (hrefl : ∀ s, le s s) (htrans : ∀ {s t u}, le s t → le t u → le s u)
    (hadvances : Advances answer prepare commit I le) (hI : I W₀.shared)
    (hidle : ∀ i, W₀.client i = .idle) (h : Run (Step answer prepare commit) W₀ tr W) :
    (states tr W.shared).Pairwise le ∧ ∀ s ∈ states tr W.shared, I s := by
  induction h with
  | start => exact ⟨List.pairwise_singleton _ _, List.forall_mem_singleton.2 hI⟩
  | @next tr W W' l hrun hs ih =>
    obtain ⟨hpairwise, hgood⟩ := ih
    have hlast : I W.shared := hgood _ (List.mem_append_right _ (List.mem_singleton.2 rfl))
    suffices hnext : I W'.shared ∧ le W.shared W'.shared by
      refine ⟨pairwise_states_next (t := ⟨W, l, W'⟩) (@htrans) hpairwise hnext.2, ?_⟩
      unfold states
      rw [List.map_append, List.map_singleton]
      exact List.forall_mem_append.2 ⟨hgood, List.forall_mem_singleton.2 hnext.1⟩
    cases hs with
    | start => exact ⟨hlast, hrefl _⟩
    | read => exact ⟨hlast, hrefl _⟩
    | stop => exact ⟨hlast, hrefl _⟩
    | @commit i call w s hdone hcommitted =>
      obtain ⟨ss, hunder, hconsumed⟩ := Run.underway hidle hrun hdone
      have hsub : (ss ++ [W.shared]).Sublist (states tr W.shared) :=
        hunder.sublist.append (List.Sublist.refl _)
      exact hadvances _ _ ss _ _ hlast
        (fun t ht => hgood t (hsub.subset (List.mem_append_left _ ht))) (hpairwise.sublist hsub)
        hconsumed.runsOver_done hcommitted

/-- A transaction in a run: its call was prepared, since its start, on states of the run. -/
theorem Run.of_commit (hrefl : ∀ s, le s s) (htrans : ∀ {s t u}, le s t → le t u → le s u)
    (hadvances : Advances answer prepare commit I le) (hI : I W₀.shared)
    (hidle : ∀ i, W₀.client i = .idle) (h : Run (Step answer prepare commit) W₀ tr W)
    {pre post : List (Taken (World σ ι Q A ε ω κ) (ι × Action ω κ))}
    {t : Taken (World σ ι Q A ε ω κ) (ι × Action ω κ)} (htr : tr = pre ++ t :: post) {i : ι} {call : κ}
    {w : ω} (hlabel : t.label = (i, .commit call w)) :
    ∃ ss, Underway pre i call ss ∧ RunsOver answer (prepare call) ss (.ok w) ∧
      (ss ++ [t.pre.shared]).Pairwise le ∧ (∀ s ∈ ss, I s) ∧ I t.pre.shared ∧
      commit w t.pre.shared = .ok t.post.shared := by
  obtain ⟨hpre, hstep, -⟩ := h.split htr
  rw [hlabel] at hstep
  obtain ⟨hbusy, hcommitted⟩ := hstep.of_commit
  obtain ⟨ss, hunder, hconsumed⟩ := Run.underway hidle hpre hbusy
  obtain ⟨hpairwise, hgood⟩ := Run.forward hrefl htrans hadvances hI hidle hpre
  have hsub : (ss ++ [t.pre.shared]).Sublist (states pre t.pre.shared) :=
    hunder.sublist.append (List.Sublist.refl _)
  exact ⟨ss, hunder, hconsumed.runsOver_done, hpairwise.sublist hsub,
    fun s hs => hgood s (hsub.subset (List.mem_append_left _ hs)),
    hgood _ (hsub.subset (List.mem_append_right _ (List.mem_singleton.2 rfl))), hcommitted⟩

end Clients

end StateLib
