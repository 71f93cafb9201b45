import DollState.Library.Check

/-!
# Programs that read a state they do not own

A `ReadProgram` asks queries, one at a time, and returns or fails. Its reads are separate, so the
state may change between two of them. There are two ways to run one:

* `run answer` answers every query from one state;
* `RunsOver` answers each query from a state of its own, as a program does while others write.

`All ok post` says that, whatever answers meeting `ok` the program gets, what it returns meets
`post`: if `ok` is stable, that is a fact about every interleaving. `RunsOver.constant` is the rule
for a reader that compares a version at its start and at its end.
-/

namespace StateLib

/-- A program asking queries `q : Q`, each answered by a value of `A q`. -/
inductive ReadProgram (Q : Type) (A : Q → Type) (ε α : Type) : Type
  | done (r : Except ε α) : ReadProgram Q A ε α
  | ask (q : Q) (k : A q → ReadProgram Q A ε α) : ReadProgram Q A ε α

namespace ReadProgram

variable {Q : Type} {A : Q → Type} {ε α β : Type} {ι : Type*}

protected def bind : ReadProgram Q A ε α → (α → ReadProgram Q A ε β) → ReadProgram Q A ε β
  | .done (.ok a), f => f a
  | .done (.error e), _ => .done (.error e)
  | .ask q k, f => .ask q fun a => (k a).bind f

instance : Monad (ReadProgram Q A ε) where
  pure a := .done (.ok a)
  bind := ReadProgram.bind

instance : MonadLift (Except ε) (ReadProgram Q A ε) := ⟨.done⟩

/-- Ask one query. -/
def read (q : Q) : ReadProgram Q A ε (A q) := .ask q fun a => .done (.ok a)

/-- The handler `except caught: raise e`. -/
def catching (caught : ε → Bool) (e : ε) : ReadProgram Q A ε α → ReadProgram Q A ε α
  | .done r => .done (StateLib.catching caught e r)
  | .ask q k => .ask q fun a => (k a).catching caught e

/-- Run a program on every element, stopping at the first failure. -/
def forEach (f : ι → ReadProgram Q A ε Unit) : List ι → ReadProgram Q A ε Unit
  | [] => pure ()
  | x :: xs => do
    f x
    forEach f xs

/-- Run a program on every element and collect the values. -/
def collect (f : ι → ReadProgram Q A ε α) : List ι → ReadProgram Q A ε (List α)
  | [] => pure []
  | x :: xs => do
    let y ← f x
    let ys ← collect f xs
    return y :: ys

/-! ## All reads from one state -/

/-- Answer every query by `answer`. -/
def run (answer : (q : Q) → A q) : ReadProgram Q A ε α → Except ε α
  | .done r => r
  | .ask q k => (k (answer q)).run answer

variable {answer : (q : Q) → A q}

@[simp] theorem run_pure (a : α) : (pure a : ReadProgram Q A ε α).run answer = .ok a := rfl

@[simp] theorem run_done (r : Except ε α) : (done r : ReadProgram Q A ε α).run answer = r := rfl

@[simp] theorem run_lift (r : Except ε α) :
    (monadLift r : ReadProgram Q A ε α).run answer = r := rfl

@[simp] theorem run_read (q : Q) :
    (read q : ReadProgram Q A ε (A q)).run answer = .ok (answer q) := rfl

@[simp] theorem run_bind (p : ReadProgram Q A ε α) (f : α → ReadProgram Q A ε β) :
    (p >>= f).run answer = p.run answer >>= fun a => (f a).run answer := by
  induction p with
  | done r =>
    cases r with
    | ok a => rfl
    | error e => rfl
  | ask q k ih => exact ih (answer q)

@[simp] theorem run_catching (caught : ε → Bool) (e : ε) (p : ReadProgram Q A ε α) :
    (p.catching caught e).run answer = StateLib.catching caught e (p.run answer) := by
  induction p with
  | done r => rfl
  | ask q k ih => exact ih (answer q)

@[simp] theorem run_forEach (f : ι → ReadProgram Q A ε Unit) (xs : List ι) :
    (forEach f xs).run answer = StateLib.forEach (fun x => (f x).run answer) xs := by
  induction xs with
  | nil => rfl
  | cons x xs ih => rw [forEach, run_bind, ih, StateLib.forEach]

@[simp] theorem run_collect (f : ι → ReadProgram Q A ε α) (xs : List ι) :
    (collect f xs).run answer = xs.mapM fun x => (f x).run answer := by
  induction xs with
  | nil => rfl
  | cons x xs ih =>
    rw [collect, List.mapM_cons, run_bind]
    congr 1
    funext y
    rw [run_bind, ih]
    rfl

/-! ## Answers that meet a condition -/

/-- Whatever answers meeting `ok` the program gets, a value it returns meets `post`. -/
def All (ok : (q : Q) → A q → Prop) (post : α → Prop) : ReadProgram Q A ε α → Prop
  | .done (.ok a) => post a
  | .done (.error _) => True
  | .ask q k => ∀ a, ok q a → (k a).All ok post

variable {ok : (q : Q) → A q → Prop} {post : α → Prop}

theorem All.mono {ok' : (q : Q) → A q → Prop} {post' : α → Prop}
    (hok : ∀ q a, ok' q a → ok q a) (hpost : ∀ a, post a → post' a)
    {p : ReadProgram Q A ε α} (h : p.All ok post) : p.All ok' post' := by
  induction p with
  | done r =>
    cases r with
    | ok a => exact hpost a h
    | error e => trivial
  | ask q k ih => exact fun a ha => ih a (h a (hok q a ha))

theorem All.trivial (p : ReadProgram Q A ε α) : p.All ok fun _ => True := by
  induction p with
  | done r => cases r <;> exact True.intro
  | ask q k ih => exact fun a _ => ih a

theorem All.pure {a : α} (h : post a) : (pure a : ReadProgram Q A ε α).All ok post := h

theorem All.read {q : Q} {post : A q → Prop} (h : ∀ a, ok q a → post a) :
    (ReadProgram.read q : ReadProgram Q A ε (A q)).All ok post := h

theorem All.lift {r : Except ε α} (h : ∀ a, r = .ok a → post a) :
    (done r : ReadProgram Q A ε α).All ok post := by
  cases r with
  | ok a => exact h a rfl
  | error e => exact True.intro

/-- Sequencing: what the first program returns is what the second one may assume. -/
theorem All.bind {m : α → Prop} {post : β → Prop} {p : ReadProgram Q A ε α}
    {f : α → ReadProgram Q A ε β} (h : p.All ok m) (hf : ∀ a, m a → (f a).All ok post) :
    (p >>= f).All ok post := by
  induction p with
  | done r =>
    cases r with
    | ok a => exact hf a h
    | error e => exact True.intro
  | ask q k ih => exact fun a ha => ih a (h a ha)

/-- Sequencing after a program whose value does not matter. -/
theorem All.after {post : β → Prop} (p : ReadProgram Q A ε α) {f : α → ReadProgram Q A ε β}
    (hf : ∀ a, (f a).All ok post) : (p >>= f).All ok post :=
  All.bind (All.trivial p) fun a _ => hf a

theorem All.catching {caught : ε → Bool} {e : ε} {p : ReadProgram Q A ε α} (h : p.All ok post) :
    (p.catching caught e).All ok post := by
  induction p with
  | done r =>
    cases r with
    | ok a => exact h
    | error e' =>
      by_cases hc : caught e' = true
      · simp [ReadProgram.catching, StateLib.catching, hc, All]
      · simp [ReadProgram.catching, StateLib.catching, hc, All]
  | ask q k ih => exact fun a ha => ih a (h a ha)

/-- What has been checked of each element whose value is collected. -/
theorem All.collect {f : ι → ReadProgram Q A ε α} {P : ι → Prop} {xs : List ι}
    (h : ∀ x ∈ xs, (f x).All ok fun _ => P x) :
    (ReadProgram.collect f xs).All ok fun _ => ∀ x ∈ xs, P x := by
  induction xs with
  | nil => exact All.pure (by simp)
  | cons x xs ih =>
    refine All.bind (h x List.mem_cons_self) fun _ hx => ?_
    refine All.bind (ih fun y hy => h y (List.mem_cons_of_mem _ hy)) fun _ hxs => ?_
    exact All.pure (List.forall_mem_cons.2 ⟨hx, hxs⟩)

/-- What holds of every value that may be collected. -/
theorem All.collected {f : ι → ReadProgram Q A ε α} {P : α → Prop} {xs : List ι}
    (h : ∀ x ∈ xs, (f x).All ok P) :
    (ReadProgram.collect f xs).All ok fun ys => ∀ y ∈ ys, P y := by
  induction xs with
  | nil => exact All.pure (by simp)
  | cons x xs ih =>
    refine All.bind (h x List.mem_cons_self) fun y hy => ?_
    refine All.bind (ih fun z hz => h z (List.mem_cons_of_mem _ hz)) fun ys hys => ?_
    exact All.pure (List.forall_mem_cons.2 ⟨hy, hys⟩)

/-- A run on one state whose answers meet the condition returns what `post` says. -/
theorem All.run {p : ReadProgram Q A ε α} (h : p.All ok post)
    (hok : ∀ q, ok q (answer q)) {a : α} (hrun : p.run answer = .ok a) : post a := by
  induction p with
  | done r =>
    rw [run_done] at hrun
    subst hrun
    exact h
  | ask q k ih => exact ih (answer q) (h _ (hok q)) hrun

/-- What a program returns, it returns on any state that all its answers may come from. -/
theorem All.self (p : ReadProgram Q A ε α) : p.All ok fun a =>
    ∀ answer : (q : Q) → A q, (∀ q b, ok q b → b = answer q) → p.run answer = .ok a := by
  induction p with
  | done r =>
    cases r with
    | ok a => exact fun _ _ => rfl
    | error e => exact True.intro
  | ask q k ih =>
    intro b hb
    refine All.mono (fun _ _ h => h) (fun a ha answer hanswer => ?_) (ih b)
    rw [ReadProgram.run, ← hanswer q b hb]
    exact ha answer hanswer

/-- Two postconditions together. -/
theorem All.and {post' : α → Prop} {p : ReadProgram Q A ε α} (h : p.All ok post)
    (h' : p.All ok post') : p.All ok fun a => post a ∧ post' a := by
  induction p with
  | done r =>
    cases r with
    | ok a => exact ⟨h, h'⟩
    | error e => exact True.intro
  | ask q k ih => exact fun b hb => ih b (h b hb) (h' b hb)

theorem All.ask {q : Q} {k : A q → ReadProgram Q A ε α} :
    (ReadProgram.ask q k).All ok post ↔ ∀ a, ok q a → (k a).All ok post := Iff.rfl

theorem All.done_ok {a : α} : (done (.ok a) : ReadProgram Q A ε α).All ok post ↔ post a := Iff.rfl

-- a goal `p.All ok post` is taken apart by the rules above, never by evaluating `p`
attribute [irreducible] All

/-! ## Each read from a state of its own -/

variable {σ : Type*}

/-- `RunsOver answer p ss r`: the program `p` returns `r` when its queries are answered by the
states `ss`, in order. -/
inductive RunsOver (answer : σ → (q : Q) → A q) :
    ReadProgram Q A ε α → List σ → Except ε α → Prop
  | done (r : Except ε α) : RunsOver answer (.done r) [] r
  | ask {q : Q} {k : A q → ReadProgram Q A ε α} {s : σ} {ss : List σ} {r : Except ε α} :
      RunsOver answer (k (answer s q)) ss r → RunsOver answer (.ask q k) (s :: ss) r

namespace RunsOver

variable {answer : σ → (q : Q) → A q}

/-- A program that only ever sees one state runs as on that state. -/
theorem run_eq {p : ReadProgram Q A ε α} {ss : List σ} {r : Except ε α}
    (h : RunsOver answer p ss r) {s : σ} (hs : ∀ t ∈ ss, t = s) : p.run (answer s) = r := by
  induction h with
  | done r => rfl
  | @ask q k t ss r h ih =>
    rw [hs t List.mem_cons_self] at ih
    exact ih fun u hu => hs u (List.mem_cons_of_mem _ hu)

theorem of_run (p : ReadProgram Q A ε α) (s : σ) :
    ∃ ss, (∀ t ∈ ss, t = s) ∧ RunsOver answer p ss (p.run (answer s)) := by
  induction p with
  | done r => exact ⟨[], by simp, .done r⟩
  | ask q k ih =>
    obtain ⟨ss, hss, h⟩ := ih (answer s q)
    exact ⟨s :: ss, List.forall_mem_cons.2 ⟨rfl, hss⟩, .ask h⟩

/-- A successful sequence of two programs splits into a run of each. -/
theorem bind_ok {p : ReadProgram Q A ε α} {f : α → ReadProgram Q A ε β} {ss : List σ} {b : β}
    (h : RunsOver answer (p >>= f) ss (.ok b)) :
    ∃ ss₁ ss₂ a, ss = ss₁ ++ ss₂ ∧ RunsOver answer p ss₁ (.ok a) ∧
      RunsOver answer (f a) ss₂ (.ok b) := by
  induction p generalizing ss with
  | done r =>
    cases r with
    | ok a => exact ⟨[], ss, a, rfl, .done _, h⟩
    | error e =>
      change RunsOver answer (ReadProgram.done (.error e)) ss (.ok b) at h
      nomatch h
  | ask q k ih =>
    change RunsOver answer (ReadProgram.ask q fun a => k a >>= f) ss (.ok b) at h
    cases h with
    | @ask _ _ s ss _ h =>
      obtain ⟨ss₁, ss₂, a, rfl, h₁, h₂⟩ := ih _ h
      exact ⟨s :: ss₁, ss₂, a, rfl, .ask h₁, h₂⟩

end RunsOver

/-- States in the order they were reached, each later one with a version at least as large, and
equal versions meaning equal states. -/
def Versioned (version : σ → Nat) (ss : List σ) : Prop :=
  ss.Pairwise fun s t => version s ≤ version t ∧ (version s = version t → s = t)

/-- Between two states of one version there is only that state. -/
theorem Versioned.constant {version : σ → Nat} {s t : σ} {ss : List σ}
    (h : Versioned version (s :: ss ++ [t])) (hv : version s = version t) :
    ∀ u ∈ s :: ss ++ [t], u = s := by
  have hcons : (∀ u ∈ ss ++ [t], version s ≤ version u ∧ (version s = version u → s = u)) ∧
      Versioned version (ss ++ [t]) := List.pairwise_cons.1 h
  intro u hu
  rcases List.mem_cons.1 hu with rfl | hu
  · rfl
  · obtain ⟨hle, heq⟩ := hcons.1 u hu
    rcases List.mem_append.1 hu with hu | hu
    · have hut := (List.pairwise_append.1 hcons.2).2.2 u hu t (List.mem_singleton.2 rfl)
      exact (heq (by omega)).symm
    · rw [List.mem_singleton.1 hu] at heq ⊢
      exact (heq hv).symm

end ReadProgram

end StateLib
