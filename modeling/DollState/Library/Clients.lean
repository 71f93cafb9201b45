import Mathlib.Logic.Function.Basic
import DollState.Library.ReadProgram
import DollState.Library.Run

/-!
# Clients that validate first and write in one transaction

Any number of clients work on one shared state. A client prepares each of its calls with a program
that only reads, one query at a time, the state being free to change in between, and then runs one
atomic transaction that the program has ended with. The rule of this file is `Informed.run`: when
every commit preserves an invariant and moves the state forward along an order, what a client has
read so far comes from earlier states that meet the invariant.
-/

namespace StateLib

namespace ReadProgram

variable {Q : Type} {A : Q → Type} {ε α : Type} {σ : Type*}

/-- `Consumed answer p ss p'`: answered by the states `ss`, in order, `p` has come to `p'`. -/
inductive Consumed (answer : σ → (q : Q) → A q) (p : ReadProgram Q A ε α) :
    List σ → ReadProgram Q A ε α → Prop
  | start : Consumed answer p [] p
  | ask {ss : List σ} {q : Q} {k : A q → ReadProgram Q A ε α} (s : σ) :
      Consumed answer p ss (.ask q k) → Consumed answer p (ss ++ [s]) (k (answer s q))

variable {answer : σ → (q : Q) → A q}

/-- What is left of a program, run on, completes the run of the program. -/
theorem Consumed.runsOver {p p' : ReadProgram Q A ε α} {ss ts : List σ} {r : Except ε α}
    (h : Consumed answer p ss p') (h' : RunsOver answer p' ts r) :
    RunsOver answer p (ss ++ ts) r := by
  induction h generalizing ts with
  | start => exact h'
  | ask s _ ih =>
    rw [List.append_assoc, List.singleton_append]
    exact ih (.ask h')

/-- A program that has come to its end has run over the states that answered it. -/
theorem Consumed.runsOver_done {p : ReadProgram Q A ε α} {ss : List σ} {r : Except ε α}
    (h : Consumed answer p ss (.done r)) : RunsOver answer p ss r := by
  simpa using h.runsOver (.done r)

/-- A run over states whose answers meet the condition returns what `post` says. -/
theorem All.runsOver {ok : (q : Q) → A q → Prop} {post : α → Prop} {p : ReadProgram Q A ε α}
    {ss : List σ} {a : α} (h : p.All ok post) (hrun : RunsOver answer p ss (.ok a))
    (hok : ∀ s ∈ ss, ∀ q, ok q (answer s q)) : post a := by
  generalize hr : (Except.ok a : Except ε α) = r at hrun
  induction hrun with
  | done r =>
    subst hr
    exact All.done_ok.1 h
  | @ask q k s ss r _ ih =>
    exact ih (All.ask.1 h _ (hok s List.mem_cons_self q))
      (fun t ht => hok t (List.mem_cons_of_mem _ ht)) hr

end ReadProgram

namespace Clients

open ReadProgram

variable {Q : Type} {A : Q → Type} {ε ω : Type} {σ ι κ : Type*}

/-- Where a client is: at rest, or with the rest of a call's program to run. -/
inductive Client (Q : Type) (A : Q → Type) (ε ω : Type) (κ : Type*)
  | idle
  | busy (call : κ) (rest : ReadProgram Q A ε ω)

structure World (σ ι : Type*) (Q : Type) (A : Q → Type) (ε ω : Type) (κ : Type*) where
  shared : σ
  client : ι → Client Q A ε ω κ

/-- What a client does in a step. -/
inductive Action (ω : Type) (κ : Type*)
  | start (call : κ)
  | read
  | commit (call : κ) (w : ω)
  | stop

variable [DecidableEq ι] (answer : σ → (q : Q) → A q) (prepare : κ → ReadProgram Q A ε ω)
  (commit : ω → σ → Except ε σ)

/-- The client `i` moves to `c`. -/
def World.goto (W : World σ ι Q A ε ω κ) (i : ι) (c : Client Q A ε ω κ) : World σ ι Q A ε ω κ :=
  { W with client := Function.update W.client i c }

/-- One step of one client. A client stops when its call or its transaction fails, or for no
reason. -/
inductive Step : World σ ι Q A ε ω κ → ι × Action ω κ → World σ ι Q A ε ω κ → Prop
  | start {W : World σ ι Q A ε ω κ} {i : ι} (call : κ) :
      W.client i = .idle → Step W (i, .start call) (W.goto i (.busy call (prepare call)))
  | read {W : World σ ι Q A ε ω κ} {i : ι} {call : κ} {q : Q} {k : A q → ReadProgram Q A ε ω} :
      W.client i = .busy call (.ask q k) →
      Step W (i, .read) (W.goto i (.busy call (k (answer W.shared q))))
  | commit {W : World σ ι Q A ε ω κ} {i : ι} {call : κ} {w : ω} {s : σ} :
      W.client i = .busy call (.done (.ok w)) → commit w W.shared = .ok s →
      Step W (i, .commit call w) ({ W with shared := s }.goto i .idle)
  | stop {W : World σ ι Q A ε ω κ} {i : ι} : Step W (i, .stop) (W.goto i .idle)

variable {answer prepare commit} {I : σ → Prop} {le : σ → σ → Prop}

@[simp] theorem World.goto_shared (W : World σ ι Q A ε ω κ) (i : ι) (c : Client Q A ε ω κ) :
    (W.goto i c).shared = W.shared := rfl

@[simp] theorem World.goto_self (W : World σ ι Q A ε ω κ) (i : ι) (c : Client Q A ε ω κ) :
    (W.goto i c).client i = c := Function.update_self ..

theorem World.goto_of_ne (W : World σ ι Q A ε ω κ) {i j : ι} (h : j ≠ i)
    (c : Client Q A ε ω κ) : (W.goto i c).client j = W.client j := Function.update_of_ne h ..

theorem World.goto_client_eq_busy {W : World σ ι Q A ε ω κ} {i j : ι} {c : Client Q A ε ω κ}
    {call : κ} {p : ReadProgram Q A ε ω} (h : (W.goto i c).client j = .busy call p) :
    c = .busy call p ∨ W.client j = .busy call p := by
  by_cases hj : j = i
  · subst hj
    rw [World.goto_self] at h
    exact .inl h
  · rw [World.goto_of_ne W hj] at h
    exact .inr h

/-- What a commit says of the world before it. -/
theorem Step.of_commit {W W' : World σ ι Q A ε ω κ} {i : ι} {call : κ} {w : ω}
    (h : Step answer prepare commit W (i, .commit call w) W') :
    W.client i = .busy call (.done (.ok w)) ∧ commit w W.shared = .ok W'.shared := by
  generalize hl : (i, Action.commit call w) = l at h
  cases h with
  | commit hbusy hcommit =>
    cases hl
    exact ⟨hbusy, hcommit⟩
  | start => cases hl
  | read => cases hl
  | stop => cases hl

/-- A step that commits nothing leaves the shared state alone. -/
theorem Step.shared_eq {W W' : World σ ι Q A ε ω κ} {l : ι × Action ω κ}
    (h : Step answer prepare commit W l W') (hl : ∀ i call w, l ≠ (i, .commit call w)) :
    W'.shared = W.shared := by
  cases h with
  | commit => exact absurd rfl (hl _ _ _)
  | start => rfl
  | read => rfl
  | stop => rfl

variable (answer prepare I le) in
/-- The invariant holds, and what each client has read comes from earlier states where it held. -/
structure Informed (W : World σ ι Q A ε ω κ) : Prop where
  invariant : I W.shared
  seen : ∀ i call p, W.client i = .busy call p →
    ∃ ss, (∀ t ∈ ss, I t ∧ le t W.shared) ∧ Consumed answer (prepare call) ss p

variable (answer prepare commit I le) in
/-- A transaction whose call was prepared on earlier good states leads to a good state further
on. -/
def CommitsForward : Prop :=
  ∀ s call ss w s', I s → (∀ t ∈ ss, I t ∧ le t s) →
    RunsOver answer (prepare call) ss (.ok w) → commit w s = .ok s' → I s' ∧ le s s'

omit [DecidableEq ι] in
/-- A commit of a call that was prepared on earlier good states. -/
theorem Informed.of_commit {W : World σ ι Q A ε ω κ} {i : ι} {call : κ} {w : ω}
    (h : Informed answer prepare I le W) (hclient : W.client i = .busy call (.done (.ok w))) :
    ∃ ss, (∀ t ∈ ss, I t ∧ le t W.shared) ∧ RunsOver answer (prepare call) ss (.ok w) := by
  obtain ⟨ss, hss, hconsumed⟩ := h.seen i call _ hclient
  exact ⟨ss, hss, hconsumed.runsOver_done⟩

theorem Informed.goto {W : World σ ι Q A ε ω κ} (h : Informed answer prepare I le W) (i : ι)
    {c : Client Q A ε ω κ} (hc : ∀ call p, c = .busy call p →
      ∃ ss, (∀ t ∈ ss, I t ∧ le t W.shared) ∧ Consumed answer (prepare call) ss p) :
    Informed answer prepare I le (W.goto i c) where
  invariant := h.invariant
  seen j call p hp := (World.goto_client_eq_busy hp).elim (hc call p) (h.seen j call p)

/-- A step keeps a world informed if its transaction, should it commit one, leads to a good state. -/
theorem Informed.step_of_commit {W W' : World σ ι Q A ε ω κ} {l : ι × Action ω κ}
    (hrefl : ∀ s, le s s) (htrans : ∀ {s t u}, le s t → le t u → le s u)
    (hcommit : ∀ i call w ss, l = (i, .commit call w) → (∀ t ∈ ss, I t ∧ le t W.shared) →
      RunsOver answer (prepare call) ss (.ok w) → commit w W.shared = .ok W'.shared →
      I W'.shared ∧ le W.shared W'.shared)
    (h : Informed answer prepare I le W) (hs : Step answer prepare commit W l W') :
    Informed answer prepare I le W' := by
  cases hs with
  | start call hidle =>
    refine h.goto _ fun call' p hp => ?_
    cases hp
    exact ⟨[], by simp, .start⟩
  | @read i call q k hbusy =>
    refine h.goto _ fun call' p hp => ?_
    cases hp
    obtain ⟨ss, hss, hconsumed⟩ := h.seen i call _ hbusy
    refine ⟨ss ++ [W.shared], ?_, .ask _ hconsumed⟩
    exact List.forall_mem_append.2 ⟨hss, List.forall_mem_singleton.2 ⟨h.invariant, hrefl _⟩⟩
  | @commit i call w s hbusy hcommitted =>
    obtain ⟨ss, hss, hruns⟩ := h.of_commit hbusy
    obtain ⟨hI, hle⟩ := hcommit _ _ _ _ rfl hss hruns hcommitted
    -- the other clients' reads are further in the past now
    have hforward : Informed answer prepare I le { W with shared := s } :=
      ⟨hI, fun j call' p hp => by
        obtain ⟨ss, hss, hconsumed⟩ := h.seen j call' p hp
        exact ⟨ss, fun t ht => ⟨(hss t ht).1, htrans (hss t ht).2 hle⟩, hconsumed⟩⟩
    exact hforward.goto i (fun _ _ hp => by cases hp)
  | stop => exact h.goto _ fun _ _ hp => by cases hp

theorem Informed.step {W W' : World σ ι Q A ε ω κ} {l : ι × Action ω κ}
    (hrefl : ∀ s, le s s) (htrans : ∀ {s t u}, le s t → le t u → le s u)
    (hcommit : CommitsForward answer prepare commit I le) (h : Informed answer prepare I le W)
    (hs : Step answer prepare commit W l W') : Informed answer prepare I le W' :=
  h.step_of_commit hrefl htrans (fun _ _ _ _ _ => hcommit _ _ _ _ _ h.invariant) hs

/-- From a good state with every client at rest, every run is informed. -/
theorem Informed.run {W₀ W : World σ ι Q A ε ω κ} {tr : List (Taken (World σ ι Q A ε ω κ)
      (ι × Action ω κ))} (hrefl : ∀ s, le s s) (htrans : ∀ {s t u}, le s t → le t u → le s u)
    (hcommit : CommitsForward answer prepare commit I le) (hI : I W₀.shared)
    (hidle : ∀ i, W₀.client i = .idle) (h : Run (Step answer prepare commit) W₀ tr W) :
    Informed answer prepare I le W := by
  refine h.invariant (I := Informed answer prepare I le) ⟨hI, fun i call p hp => ?_⟩ ?_
  · rw [hidle i] at hp
    cases hp
  · exact fun _ _ _ hinf hs => hinf.step hrefl htrans hcommit hs

/-! ## Calls that are started under a condition

`K call s` says that the state `s` is one in which the call may be started. A condition that later
states inherit holds of every state the call reads and of the one it commits in. -/

section Since

variable {K : κ → σ → Prop}

variable (answer prepare I le K) in
/-- The invariant holds, and what each client has read since it started its call comes from states
that meet the invariant and the call's condition. -/
structure InformedSince (W : World σ ι Q A ε ω κ) : Prop where
  invariant : I W.shared
  seen : ∀ i call p, W.client i = .busy call p → K call W.shared ∧
    ∃ ss, (∀ t ∈ ss, (I t ∧ K call t) ∧ le t W.shared) ∧ Consumed answer (prepare call) ss p

variable (answer prepare commit I le K) in
/-- A transaction whose call was prepared, under its condition, on earlier good states leads to a
good state further on. -/
def CommitsForwardSince : Prop :=
  ∀ s call ss w s', I s → K call s → (∀ t ∈ ss, (I t ∧ K call t) ∧ le t s) →
    RunsOver answer (prepare call) ss (.ok w) → commit w s = .ok s' → I s' ∧ le s s'

omit [DecidableEq ι] in
theorem InformedSince.of_commit {W : World σ ι Q A ε ω κ} {i : ι} {call : κ} {w : ω}
    (h : InformedSince answer prepare I le K W)
    (hclient : W.client i = .busy call (.done (.ok w))) :
    K call W.shared ∧ ∃ ss, (∀ t ∈ ss, (I t ∧ K call t) ∧ le t W.shared) ∧
      RunsOver answer (prepare call) ss (.ok w) := by
  obtain ⟨hK, ss, hss, hconsumed⟩ := h.seen i call _ hclient
  exact ⟨hK, ss, hss, hconsumed.runsOver_done⟩

theorem InformedSince.goto {W : World σ ι Q A ε ω κ} (h : InformedSince answer prepare I le K W)
    (i : ι) {c : Client Q A ε ω κ} (hc : ∀ call p, c = .busy call p → K call W.shared ∧
      ∃ ss, (∀ t ∈ ss, (I t ∧ K call t) ∧ le t W.shared) ∧ Consumed answer (prepare call) ss p) :
    InformedSince answer prepare I le K (W.goto i c) where
  invariant := h.invariant
  seen j call p hp := (World.goto_client_eq_busy hp).elim (hc call p) (h.seen j call p)

/-- A step that starts a call only under its condition. The state it leads to is further on. -/
theorem InformedSince.step {W W' : World σ ι Q A ε ω κ} {l : ι × Action ω κ}
    (hrefl : ∀ s, le s s) (htrans : ∀ {s t u}, le s t → le t u → le s u)
    (hK : ∀ {call s t}, le s t → K call s → K call t)
    (hcommit : CommitsForwardSince answer prepare commit I le K)
    (h : InformedSince answer prepare I le K W) (hs : Step answer prepare commit W l W')
    (hstart : ∀ i call, l = (i, .start call) → K call W.shared) :
    InformedSince answer prepare I le K W' ∧ le W.shared W'.shared := by
  cases hs with
  | start call hidle =>
    refine ⟨h.goto _ fun call' p hp => ?_, hrefl _⟩
    cases hp
    exact ⟨hstart _ _ rfl, [], by simp, .start⟩
  | @read i call q k hbusy =>
    refine ⟨h.goto _ fun call' p hp => ?_, hrefl _⟩
    cases hp
    obtain ⟨hcall, ss, hss, hconsumed⟩ := h.seen i call _ hbusy
    refine ⟨hcall, ss ++ [W.shared], ?_, .ask _ hconsumed⟩
    exact List.forall_mem_append.2
      ⟨hss, List.forall_mem_singleton.2 ⟨⟨h.invariant, hcall⟩, hrefl _⟩⟩
  | @commit i call w s hbusy hcommitted =>
    obtain ⟨hcall, ss, hss, hruns⟩ := h.of_commit hbusy
    obtain ⟨hI, hle⟩ := hcommit _ _ _ _ _ h.invariant hcall hss hruns hcommitted
    have hforward : InformedSince answer prepare I le K { W with shared := s } :=
      ⟨hI, fun j call' p hp => by
        obtain ⟨hcall, ss, hss, hconsumed⟩ := h.seen j call' p hp
        exact ⟨hK hle hcall, ss, fun t ht => ⟨(hss t ht).1, htrans (hss t ht).2 hle⟩, hconsumed⟩⟩
    exact ⟨hforward.goto i (fun _ _ hp => by cases hp), hle⟩
  | stop => exact ⟨h.goto _ (fun _ _ hp => by cases hp), hrefl _⟩

/-- Every call that is started in the run met its condition in some state before. -/
def StartedSince (K : κ → σ → Prop)
    (tr : List (Taken (World σ ι Q A ε ω κ) (ι × Action ω κ))) : Prop :=
  ∀ pre t post i call, tr = pre ++ t :: post → t.label = (i, .start call) →
    ∃ W ∈ t.pre :: pre.map Taken.pre, K call W.shared

omit [DecidableEq ι] in
theorem StartedSince.of_append {tr tr' : List (Taken (World σ ι Q A ε ω κ) (ι × Action ω κ))}
    (h : StartedSince K (tr ++ tr')) : StartedSince K tr := by
  intro pre t post i call htr hlabel
  exact h pre t (post ++ tr') i call (by rw [htr, List.append_assoc, List.cons_append]) hlabel

/-- From a good state with every client at rest, every run whose calls have met their conditions
is informed, and its states only move forward. -/
theorem InformedSince.run {W₀ W : World σ ι Q A ε ω κ}
    {tr : List (Taken (World σ ι Q A ε ω κ) (ι × Action ω κ))}
    (hrefl : ∀ s, le s s) (htrans : ∀ {s t u}, le s t → le t u → le s u)
    (hK : ∀ {call s t}, le s t → K call s → K call t)
    (hcommit : CommitsForwardSince answer prepare commit I le K) (hI : I W₀.shared)
    (hidle : ∀ i, W₀.client i = .idle) (h : Run (Step answer prepare commit) W₀ tr W)
    (hstart : StartedSince K tr) :
    InformedSince answer prepare I le K W ∧ ∀ t ∈ tr, le t.pre.shared W.shared := by
  induction h with
  | start =>
    refine ⟨⟨hI, fun i call p hp => ?_⟩, by simp⟩
    rw [hidle i] at hp
    cases hp
  | @next tr W W' l hrun hs ih =>
    obtain ⟨hinformed, hforward⟩ := ih hstart.of_append
    have hcalls : ∀ i call, l = (i, .start call) → K call W.shared := by
      intro i call hl
      obtain ⟨V, hV, hcall⟩ := hstart tr ⟨W, l, W'⟩ [] i call rfl hl
      rcases List.mem_cons.1 hV with rfl | hV
      · exact hcall
      · obtain ⟨t, ht, rfl⟩ := List.mem_map.1 hV
        exact hK (hforward t ht) hcall
    obtain ⟨hinformed', hle⟩ := hinformed.step (K := K) hrefl htrans hK hcommit hs hcalls
    refine ⟨hinformed', fun t ht => ?_⟩
    rcases List.mem_append.1 ht with ht | ht
    · exact htrans (hforward t ht) hle
    · rw [List.mem_singleton.1 ht]
      exact hle

end Since

/-! ## Runs of one client alone -/

@[simp] theorem World.goto_goto (W : World σ ι Q A ε ω κ) (i : ι) (c c' : Client Q A ε ω κ) :
    (W.goto i c).goto i c' = W.goto i c' := by
  simp only [World.goto, Function.update_idem]

variable (answer prepare commit)

/-- A client that is left alone reads on to the end of its program, and does nothing else. -/
theorem exists_only_reads (W : World σ ι Q A ε ω κ) (i : ι) (call : κ)
    (p : ReadProgram Q A ε ω) :
    ∃ tr, Run (Step answer prepare commit) (W.goto i (.busy call p)) tr
      (W.goto i (.busy call (.done (p.run (answer W.shared))))) ∧ ∀ t ∈ tr, t.label = (i, .read) := by
  induction p with
  | done r => exact ⟨[], .start, by simp⟩
  | ask q k ih =>
    obtain ⟨tr, htr, hreads⟩ := ih (answer W.shared q)
    have hread := @Step.read Q A ε ω σ ι κ _ answer prepare commit _ i call q k
      (W.goto_self i (.busy call (.ask q k)))
    rw [World.goto_goto] at hread
    exact ⟨_, (Run.start.next hread).append htr, List.forall_mem_append.2
      ⟨List.forall_mem_singleton.2 rfl, hreads⟩⟩

/-- A client that is left alone reads on to the end of its program. -/
theorem exists_reads (W : World σ ι Q A ε ω κ) (i : ι) (call : κ) (p : ReadProgram Q A ε ω) :
    ∃ tr, Run (Step answer prepare commit) (W.goto i (.busy call p)) tr
      (W.goto i (.busy call (.done (p.run (answer W.shared))))) :=
  (exists_only_reads answer prepare commit W i call p).imp fun _ h => h.1

/-- A client at rest can prepare a call without anything happening in between. -/
theorem exists_prepared {W : World σ ι Q A ε ω κ} {i : ι} {call : κ} {r : Except ε ω}
    (h : W.client i = .idle) (hr : (prepare call).run (answer W.shared) = r) :
    ∃ tr, Run (Step answer prepare commit) W tr (W.goto i (.busy call (.done r))) := by
  subst hr
  obtain ⟨tr, htr⟩ := exists_reads answer prepare commit W i call (prepare call)
  exact ⟨_, (Run.start.next (.start call h)).append htr⟩

/-- A client at rest can run a call to its end without anything happening in between. -/
theorem exists_committed {W : World σ ι Q A ε ω κ} {i : ι} {call : κ} {w : ω} {s : σ}
    (h : W.client i = .idle) (hw : (prepare call).run (answer W.shared) = .ok w)
    (hs : commit w W.shared = .ok s) :
    ∃ tr, Run (Step answer prepare commit) W tr { W with shared := s } := by
  obtain ⟨tr, htr⟩ := exists_prepared answer prepare commit h hw
  have hcommit : Step answer prepare commit (W.goto i (.busy call (.done (.ok w)))) _ _ :=
    Step.commit (W.goto_self i (.busy call (.done (.ok w)))) hs
  have hidle : ({ (W.goto i (.busy call (.done (.ok w)))) with shared := s } :
      World σ ι Q A ε ω κ).goto i .idle = { W with shared := s } := by
    simp only [World.goto, Function.update_idem, ← h, Function.update_eq_self]
  rw [hidle] at hcommit
  exact ⟨_, htr.next hcommit⟩

end Clients

end StateLib
