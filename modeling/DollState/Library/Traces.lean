import Mathlib.Data.List.Pairwise
import DollState.Library.ReadProgram
import DollState.Library.Run

/-!
# Traces of programs, and programs that interleave

A `ReadProgram` may stand for code that calls out: its queries are then the calls, and the answers
are whatever comes back. `Traced p t r` is a whole run of such a program, with its calls and their
answers in `t`; `Asks p t q` says that after `t` the program calls `q`. `Interleaving` is any number
of such programs at work on one shared state, of which they learn only through the calls that
`respond` says something about. What one program can have seen before a call is `asks_of_performed`:
its own part of the log leads to that call.
-/

namespace StateLib

/-- A call and its answer. -/
abbrev Event (Q : Type) (A : Q → Type) := (q : Q) × A q

namespace ReadProgram

variable {Q : Type} {A : Q → Type} {ε α β : Type}

/-- `try: p; finally: q`. -/
def ensuring : ReadProgram Q A ε α → ReadProgram Q A ε Unit → ReadProgram Q A ε α
  | .done r, q => q >>= fun _ => .done r
  | .ask q' k, q => .ask q' fun a => (k a).ensuring q

/-! ## Whole runs -/

/-- `Traced p t r`: the calls and answers `t` lead the program `p` to `r`. -/
inductive Traced : ReadProgram Q A ε α → List (Event Q A) → Except ε α → Prop
  | done (r : Except ε α) : Traced (.done r) [] r
  | ask {q : Q} {k : A q → ReadProgram Q A ε α} {a : A q} {t : List (Event Q A)} {r : Except ε α} :
      Traced (k a) t r → Traced (.ask q k) (⟨q, a⟩ :: t) r

theorem traced_done {r r' : Except ε α} {t : List (Event Q A)} :
    Traced (.done r) t r' ↔ t = [] ∧ r' = r := by
  constructor
  · intro h
    cases h
    exact ⟨rfl, rfl⟩
  · rintro ⟨rfl, rfl⟩
    exact .done _

theorem traced_pure {a : α} {r : Except ε α} {t : List (Event Q A)} :
    Traced (pure a) t r ↔ t = [] ∧ r = .ok a := traced_done

theorem traced_lift {x r : Except ε α} {t : List (Event Q A)} :
    Traced (monadLift x : ReadProgram Q A ε α) t r ↔ t = [] ∧ r = x := traced_done

theorem traced_ask {q : Q} {k : A q → ReadProgram Q A ε α} {r : Except ε α}
    {t : List (Event Q A)} :
    Traced (.ask q k) t r ↔ ∃ a t', t = ⟨q, a⟩ :: t' ∧ Traced (k a) t' r := by
  constructor
  · intro h
    cases h with
    | ask h => exact ⟨_, _, rfl, h⟩
  · rintro ⟨a, t', rfl, h⟩
    exact .ask h

theorem traced_read {q : Q} {r : Except ε (A q)} {t : List (Event Q A)} :
    Traced (read q) t r ↔ ∃ a, t = [⟨q, a⟩] ∧ r = .ok a := by
  rw [read, traced_ask]
  constructor
  · rintro ⟨a, t', rfl, h⟩
    obtain ⟨rfl, rfl⟩ := traced_done.1 h
    exact ⟨a, rfl, rfl⟩
  · rintro ⟨a, rfl, rfl⟩
    exact ⟨a, [], rfl, .done _⟩

/-- A sequence of two programs fails in the first one, or goes on to the second one. -/
theorem traced_bind {p : ReadProgram Q A ε α} {f : α → ReadProgram Q A ε β} {r : Except ε β}
    {t : List (Event Q A)} : Traced (p >>= f) t r ↔ (∃ e, r = .error e ∧ Traced p t (.error e)) ∨
      ∃ a t₁ t₂, t = t₁ ++ t₂ ∧ Traced p t₁ (.ok a) ∧ Traced (f a) t₂ r := by
  induction p generalizing t with
  | done r' =>
    simp only [traced_done]
    cases r' with
    | ok a =>
      change Traced (f a) t r ↔ _
      simp
    | error e =>
      change Traced (.done (.error e)) t r ↔ _
      rw [traced_done]
      constructor
      · rintro ⟨rfl, rfl⟩
        exact .inl ⟨e, rfl, rfl, rfl⟩
      · rintro (⟨e', rfl, rfl, h⟩ | ⟨_, _, _, _, ⟨-, h⟩, -⟩)
        · cases h
          exact ⟨rfl, rfl⟩
        · cases h
  | ask q k ih =>
    change Traced (.ask q fun a => k a >>= f) t r ↔ _
    simp only [traced_ask, ih]
    constructor
    · rintro ⟨a, t', rfl, ⟨e, hr, h⟩ | ⟨b, t₁, t₂, rfl, h, h'⟩⟩
      · exact .inl ⟨e, hr, a, t', rfl, h⟩
      · exact .inr ⟨b, ⟨q, a⟩ :: t₁, t₂, rfl, ⟨a, t₁, rfl, h⟩, h'⟩
    · rintro (⟨e, hr, a, t', rfl, h⟩ | ⟨b, _, t₂, rfl, ⟨a, t₁, rfl, h⟩, h'⟩)
      · exact ⟨a, t', rfl, .inl ⟨e, hr, h⟩⟩
      · exact ⟨a, t₁ ++ t₂, rfl, .inr ⟨b, t₁, t₂, rfl, h, h'⟩⟩

/-- A check in front of a program. -/
theorem traced_lift_bind {x : Except ε α} {f : α → ReadProgram Q A ε β} {r : Except ε β}
    {t : List (Event Q A)} : Traced ((monadLift x : ReadProgram Q A ε α) >>= f) t r ↔
      (∃ e, x = .error e ∧ t = [] ∧ r = .error e) ∨ ∃ a, x = .ok a ∧ Traced (f a) t r := by
  cases x with
  | ok a =>
    change Traced (f a) t r ↔ _
    simp
  | error e =>
    change Traced (.done (.error e)) t r ↔ _
    simp [traced_done]

theorem traced_ok_bind {x : Except ε α} {a : α} (hx : x = .ok a) {f : α → ReadProgram Q A ε β}
    {r : Except ε β} {t : List (Event Q A)} :
    Traced ((monadLift x : ReadProgram Q A ε α) >>= f) t r ↔ Traced (f a) t r := by
  subst hx
  exact Iff.rfl

/-- The rule for a sequence whose first program does not fail. -/
theorem Traced.bind_ok {p : ReadProgram Q A ε α} {f : α → ReadProgram Q A ε β} {r : Except ε β}
    {t : List (Event Q A)} (h : Traced (p >>= f) t r) (post : List (Event Q A) → α → Prop)
    (hp : ∀ t₁ t₂ r₁, t = t₁ ++ t₂ → Traced p t₁ r₁ → ∃ a, r₁ = .ok a ∧ post t₁ a) :
    ∃ a t₁ t₂, t = t₁ ++ t₂ ∧ post t₁ a ∧ Traced (f a) t₂ r := by
  rcases traced_bind.1 h with ⟨e, -, h⟩ | ⟨a, t₁, t₂, ht, h, h'⟩
  · obtain ⟨a, ha, -⟩ := hp t [] _ (List.append_nil t).symm h
    cases ha
  · obtain ⟨a', ha, hpost⟩ := hp t₁ t₂ _ ht h
    cases ha
    exact ⟨a, t₁, t₂, ht, hpost, h'⟩

/-- A call in front of a program. -/
theorem traced_read_bind {q : Q} {f : A q → ReadProgram Q A ε β} {r : Except ε β}
    {t : List (Event Q A)} :
    Traced (read q >>= f) t r ↔ ∃ a t', t = ⟨q, a⟩ :: t' ∧ Traced (f a) t' r :=
  traced_ask (k := f)

theorem traced_ensuring {p : ReadProgram Q A ε α} {q : ReadProgram Q A ε Unit} {r : Except ε α}
    {t : List (Event Q A)} : Traced (p.ensuring q) t r ↔ ∃ r' t₁ t₂, t = t₁ ++ t₂ ∧
      Traced p t₁ r' ∧ Traced (q >>= fun _ => .done r') t₂ r := by
  induction p generalizing t with
  | done r' =>
    change Traced (q >>= fun _ => .done r') t r ↔ _
    simp only [traced_done]
    constructor
    · exact fun h => ⟨r', [], t, rfl, ⟨rfl, rfl⟩, h⟩
    · rintro ⟨_, _, t₂, rfl, ⟨rfl, rfl⟩, h⟩
      exact h
  | ask q' k ih =>
    change Traced (.ask q' fun a => (k a).ensuring q) t r ↔ _
    simp only [traced_ask, ih]
    constructor
    · rintro ⟨a, _, rfl, r', t₁, t₂, rfl, h, h'⟩
      exact ⟨r', ⟨q', a⟩ :: t₁, t₂, rfl, ⟨a, t₁, rfl, h⟩, h'⟩
    · rintro ⟨r', _, t₂, rfl, ⟨a, t₁, rfl, h⟩, h'⟩
      exact ⟨a, t₁ ++ t₂, rfl, r', t₁, t₂, rfl, h, h'⟩

/-- The run of a program whose calls a state answers: its calls, its outcome and the state left. -/
def play {σ : Type*} (answer : σ → (q : Q) → A q × σ) :
    ReadProgram Q A ε α → σ → List (Event Q A) × Except ε α × σ
  | .done r, s => ([], r, s)
  | .ask q k, s =>
    let rest := (k (answer s q).1).play answer (answer s q).2
    (⟨q, (answer s q).1⟩ :: rest.1, rest.2)

theorem traced_play {σ : Type*} (answer : σ → (q : Q) → A q × σ) (p : ReadProgram Q A ε α) (s : σ) :
    Traced p (p.play answer s).1 (p.play answer s).2.1 := by
  induction p generalizing s with
  | done r => exact .done r
  | ask q k ih => exact .ask (ih _ _)

theorem forall_mem_play {σ : Type*} {answer : σ → (q : Q) → A q × σ} {P : Event Q A → Prop}
    (hP : ∀ s q, P ⟨q, (answer s q).1⟩) (p : ReadProgram Q A ε α) (s : σ) :
    ∀ e ∈ (p.play answer s).1, P e := by
  induction p generalizing s with
  | done r => exact List.forall_mem_nil _
  | ask q k ih => exact List.forall_mem_cons.2 ⟨hP s q, ih _ _⟩

/-! ## Runs that are under way -/

/-- `Leads p t p'`: after the calls and answers `t` what is left of `p` is `p'`. -/
inductive Leads : ReadProgram Q A ε α → List (Event Q A) → ReadProgram Q A ε α → Prop
  | refl (p : ReadProgram Q A ε α) : Leads p [] p
  | ask {q : Q} {k : A q → ReadProgram Q A ε α} {a : A q} {t : List (Event Q A)}
      {p' : ReadProgram Q A ε α} : Leads (k a) t p' → Leads (.ask q k) (⟨q, a⟩ :: t) p'

theorem Leads.snoc {p : ReadProgram Q A ε α} {t : List (Event Q A)} {q : Q}
    {k : A q → ReadProgram Q A ε α} (h : Leads p t (.ask q k)) (a : A q) :
    Leads p (t ++ [⟨q, a⟩]) (k a) := by
  generalize hp : ReadProgram.ask q k = p' at h
  induction h with
  | refl =>
    subst hp
    exact .ask (.refl _)
  | ask _ ih => exact .ask (ih hp)

/-- After `t` the program calls `q`. -/
def Asks (p : ReadProgram Q A ε α) (t : List (Event Q A)) (q : Q) : Prop :=
  ∃ k, Leads p t (.ask q k)

theorem not_asks_done {r : Except ε α} {t : List (Event Q A)} {q : Q} :
    ¬ Asks (.done r : ReadProgram Q A ε α) t q := by
  rintro ⟨k, h⟩
  cases h

theorem asks_ask {q q' : Q} {k : A q → ReadProgram Q A ε α} {t : List (Event Q A)} :
    Asks (.ask q k) t q' ↔ t = [] ∧ q' = q ∨ ∃ a t', t = ⟨q, a⟩ :: t' ∧ Asks (k a) t' q' := by
  constructor
  · rintro ⟨k', h⟩
    cases h with
    | refl => exact .inl ⟨rfl, rfl⟩
    | ask h => exact .inr ⟨_, _, rfl, k', h⟩
  · rintro (⟨rfl, rfl⟩ | ⟨a, t', rfl, k', h⟩)
    · exact ⟨k, .refl _⟩
    · exact ⟨k', .ask h⟩

theorem asks_read {q q' : Q} {t : List (Event Q A)} :
    Asks (read q : ReadProgram Q A ε (A q)) t q' ↔ t = [] ∧ q' = q := by
  rw [read, asks_ask]
  constructor
  · rintro (h | ⟨a, t', -, h⟩)
    · exact h
    · exact absurd h not_asks_done
  · exact .inl

theorem asks_bind {p : ReadProgram Q A ε α} {f : α → ReadProgram Q A ε β} {q : Q}
    {t : List (Event Q A)} : Asks (p >>= f) t q ↔ Asks p t q ∨
      ∃ a t₁ t₂, t = t₁ ++ t₂ ∧ Traced p t₁ (.ok a) ∧ Asks (f a) t₂ q := by
  induction p generalizing t with
  | done r =>
    simp only [traced_done, not_asks_done, false_or]
    cases r with
    | ok a =>
      change Asks (f a) t q ↔ _
      simp
    | error e =>
      change Asks (.done (.error e)) t q ↔ _
      refine iff_of_false not_asks_done ?_
      rintro ⟨a, t₁, t₂, -, ⟨-, h⟩, -⟩
      cases h
  | ask q' k ih =>
    change Asks (.ask q' fun a => k a >>= f) t q ↔ _
    simp only [asks_ask, traced_ask, ih]
    constructor
    · rintro (h | ⟨a, t', rfl, h | ⟨b, t₁, t₂, rfl, h, h'⟩⟩)
      · exact .inl (.inl h)
      · exact .inl (.inr ⟨a, t', rfl, h⟩)
      · exact .inr ⟨b, ⟨q', a⟩ :: t₁, t₂, rfl, ⟨a, t₁, rfl, h⟩, h'⟩
    · rintro ((h | ⟨a, t', rfl, h⟩) | ⟨b, _, t₂, rfl, ⟨a, t₁, rfl, h⟩, h'⟩)
      · exact .inl h
      · exact .inr ⟨a, t', rfl, .inl h⟩
      · exact .inr ⟨a, t₁ ++ t₂, rfl, .inr ⟨b, t₁, t₂, rfl, h, h'⟩⟩

theorem asks_lift_bind {x : Except ε α} {f : α → ReadProgram Q A ε β} {q : Q}
    {t : List (Event Q A)} : Asks ((monadLift x : ReadProgram Q A ε α) >>= f) t q ↔
      ∃ a, x = .ok a ∧ Asks (f a) t q := by
  cases x with
  | ok a =>
    change Asks (f a) t q ↔ _
    simp
  | error e =>
    change Asks (.done (.error e)) t q ↔ _
    simp [not_asks_done]

theorem asks_read_bind {q q' : Q} {f : A q → ReadProgram Q A ε β} {t : List (Event Q A)} :
    Asks (read q >>= f) t q' ↔
      t = [] ∧ q' = q ∨ ∃ a t', t = ⟨q, a⟩ :: t' ∧ Asks (f a) t' q' :=
  asks_ask (k := f)

theorem asks_ensuring {p : ReadProgram Q A ε α} {p' : ReadProgram Q A ε Unit} {q : Q}
    {t : List (Event Q A)} : Asks (p.ensuring p') t q ↔ Asks p t q ∨ ∃ r t₁ t₂, t = t₁ ++ t₂ ∧
      Traced p t₁ r ∧ Asks (p' >>= fun _ => (.done r : ReadProgram Q A ε α)) t₂ q := by
  induction p generalizing t with
  | done r =>
    change Asks (p' >>= fun _ => .done r) t q ↔ _
    simp only [traced_done, not_asks_done, false_or]
    constructor
    · exact fun h => ⟨r, [], t, rfl, ⟨rfl, rfl⟩, h⟩
    · rintro ⟨_, _, t₂, rfl, ⟨rfl, rfl⟩, h⟩
      exact h
  | ask q' k ih =>
    change Asks (.ask q' fun a => (k a).ensuring p') t q ↔ _
    simp only [asks_ask, traced_ask, ih]
    constructor
    · rintro (h | ⟨a, t', rfl, h | ⟨r, t₁, t₂, rfl, h, h'⟩⟩)
      · exact .inl (.inl h)
      · exact .inl (.inr ⟨a, t', rfl, h⟩)
      · exact .inr ⟨r, ⟨q', a⟩ :: t₁, t₂, rfl, ⟨a, t₁, rfl, h⟩, h'⟩
    · rintro ((h | ⟨a, t', rfl, h⟩) | ⟨r, _, t₂, rfl, ⟨a, t₁, rfl, h⟩, h'⟩)
      · exact .inl h
      · exact .inr ⟨a, t', rfl, .inl h⟩
      · exact .inr ⟨a, t₁ ++ t₂, rfl, .inr ⟨r, t₁, t₂, rfl, h, h'⟩⟩

/-! ## What a program can call at all -/

/-- Every call of the program meets `P`, whatever comes back. -/
def Only (P : Q → Prop) : ReadProgram Q A ε α → Prop
  | .done _ => True
  | .ask q k => P q ∧ ∀ a, (k a).Only P

variable {P : Q → Prop}

theorem Only.done {r : Except ε α} : (.done r : ReadProgram Q A ε α).Only P := True.intro

theorem Only.pure {a : α} : (pure a : ReadProgram Q A ε α).Only P := True.intro

theorem Only.read {q : Q} (h : P q) : (ReadProgram.read q : ReadProgram Q A ε (A q)).Only P :=
  ⟨h, fun _ => True.intro⟩

theorem Only.bind {p : ReadProgram Q A ε α} {f : α → ReadProgram Q A ε β} (h : p.Only P)
    (hf : ∀ a, (f a).Only P) : (p >>= f).Only P := by
  induction p with
  | done r =>
    cases r with
    | ok a => exact hf a
    | error e => exact True.intro
  | ask q k ih => exact ⟨h.1, fun a => ih a (h.2 a)⟩

theorem Only.lift_bind {x : Except ε α} {f : α → ReadProgram Q A ε β}
    (hf : ∀ a, x = .ok a → (f a).Only P) :
    ((monadLift x : ReadProgram Q A ε α) >>= f).Only P := by
  cases x with
  | ok a => exact hf a rfl
  | error e => exact True.intro

theorem Only.ensuring {p : ReadProgram Q A ε α} {q : ReadProgram Q A ε Unit} (h : p.Only P)
    (hq : q.Only P) : (p.ensuring q).Only P := by
  induction p with
  | done r => exact hq.bind fun _ => True.intro
  | ask q' k ih => exact ⟨h.1, fun a => ih a (h.2 a)⟩

theorem Only.mono {P' : Q → Prop} {p : ReadProgram Q A ε α} (h : p.Only P)
    (hP : ∀ q, P q → P' q) : p.Only P' := by
  induction p with
  | done r => exact True.intro
  | ask q k ih => exact ⟨hP q h.1, fun a => ih a (h.2 a)⟩

theorem Only.traced {p : ReadProgram Q A ε α} {t : List (Event Q A)} {r : Except ε α}
    (h : p.Only P) (ht : Traced p t r) : ∀ e ∈ t, P e.1 := by
  induction ht with
  | done => simp
  | ask _ ih => exact List.forall_mem_cons.2 ⟨h.1, ih (h.2 _)⟩

theorem Only.asks {p : ReadProgram Q A ε α} {t : List (Event Q A)} {q : Q}
    (h : p.Only P) (ht : Asks p t q) : P q ∧ ∀ e ∈ t, P e.1 := by
  obtain ⟨k, ht⟩ := ht
  generalize hp : ReadProgram.ask q k = p' at ht
  induction ht with
  | refl =>
    subst hp
    exact ⟨h.1, by simp⟩
  | ask _ ih =>
    obtain ⟨hq, ht⟩ := ih (h.2 _) hp
    exact ⟨hq, List.forall_mem_cons.2 ⟨h.1, ht⟩⟩

end ReadProgram

/-! ## Programs at work on one state -/

namespace Interleaving

open ReadProgram

variable {Q : Type} {A : Q → Type} {ε α : Type} {σ ι κ : Type*}

/-- A call of a client, and what the client was called for. -/
structure Entry (ι κ : Type*) (Q : Type) (A : Q → Type) where
  client : ι
  task : κ
  event : Event Q A

/-- The shared state, what each client still has to do, and the calls so far. A client is the run of
one task; a task that calls for another one, from inside an answer, is two clients. -/
structure World (σ ι κ : Type*) (Q : Type) (A : Q → Type) (ε α : Type) where
  shared : σ
  client : ι → Option (κ × ReadProgram Q A ε α)
  log : List (Entry ι κ Q A)

/-- The clients and their calls when nothing has happened. -/
def World.start (s : σ) : World σ ι κ Q A ε α := ⟨s, fun _ => none, []⟩

/-- What a client does in a step. -/
inductive Action (κ : Type*) (Q : Type) (A : Q → Type)
  | start (task : κ)
  | perform (event : Event Q A)

variable [DecidableEq ι] (program : κ → ReadProgram Q A ε α)
  (respond : σ → (q : Q) → A q → σ → Prop)

/-- The client `i` has its task, and `p` of it left. -/
def World.goto (W : World σ ι κ Q A ε α) (i : ι) (task : κ) (p : ReadProgram Q A ε α) :
    World σ ι κ Q A ε α :=
  { W with client := Function.update W.client i (some (task, p)) }

/-- One step of one client: it begins its task, or makes its next call. -/
inductive Step : World σ ι κ Q A ε α → ι × Action κ Q A → World σ ι κ Q A ε α → Prop
  | start {W : World σ ι κ Q A ε α} {i : ι} (task : κ) : W.client i = none →
      Step W (i, .start task) (W.goto i task (program task))
  | perform {W : World σ ι κ Q A ε α} {i : ι} {task : κ} {q : Q} {k : A q → ReadProgram Q A ε α}
      {a : A q} {s : σ} : W.client i = some (task, .ask q k) → respond W.shared q a s →
      Step W (i, .perform ⟨q, a⟩)
        (World.goto ⟨s, W.client, W.log ++ [⟨i, task, ⟨q, a⟩⟩]⟩ i task (k a))

/-- The calls of one client. -/
def own (i : ι) (log : List (Entry ι κ Q A)) : List (Event Q A) :=
  (log.filter fun e => e.client = i).map Entry.event

variable {program respond}

theorem World.goto_self (W : World σ ι κ Q A ε α) (i : ι) (task : κ) (p : ReadProgram Q A ε α) :
    (W.goto i task p).client i = some (task, p) := Function.update_self ..

theorem World.goto_of_ne (W : World σ ι κ Q A ε α) {i j : ι} (h : j ≠ i) (task : κ)
    (p : ReadProgram Q A ε α) : (W.goto i task p).client j = W.client j :=
  Function.update_of_ne h ..

theorem own_append (i : ι) (log log' : List (Entry ι κ Q A)) :
    own i (log ++ log') = own i log ++ own i log' := by
  rw [own, List.filter_append, List.map_append]
  rfl

theorem own_self (i : ι) (task : κ) (event : Event Q A) :
    own i [(⟨i, task, event⟩ : Entry ι κ Q A)] = [event] := by
  simp [own]

theorem own_of_ne {i j : ι} (h : j ≠ i) (task : κ) (event : Event Q A) :
    own i [(⟨j, task, event⟩ : Entry ι κ Q A)] = [] := by
  simp [own, h]

theorem mem_own {i : ι} {log : List (Entry ι κ Q A)} {event : Event Q A} :
    event ∈ own i log ↔ ∃ task, (⟨i, task, event⟩ : Entry ι κ Q A) ∈ log := by
  simp only [own, List.mem_map, List.mem_filter, decide_eq_true_eq]
  constructor
  · rintro ⟨⟨j, task, event⟩, ⟨hmem, rfl⟩, rfl⟩
    exact ⟨task, hmem⟩
  · rintro ⟨task, hmem⟩
    exact ⟨_, ⟨hmem, rfl⟩, rfl⟩

variable (program) in
/-- What is known of the clients: each is where its calls have led it. -/
structure Tracked (W : World σ ι κ Q A ε α) : Prop where
  leads : ∀ i task p, W.client i = some (task, p) → Leads (program task) (own i W.log) p
  task : ∀ e ∈ W.log, ∃ p, W.client e.client = some (e.task, p)
  asks : ∀ before e after, W.log = before ++ e :: after →
    Asks (program e.task) (own e.client before) e.event.1

theorem Tracked.start (s : σ) : Tracked program (World.start s : World σ ι κ Q A ε α) where
  leads _ _ _ h := nomatch h
  task _ h := nomatch h
  asks before e after h := by simp [World.start] at h

theorem Tracked.own_eq_nil {W : World σ ι κ Q A ε α} (h : Tracked program W) {i : ι}
    (hi : W.client i = none) : own i W.log = [] := by
  rw [List.eq_nil_iff_forall_not_mem]
  intro event hevent
  obtain ⟨task, hmem⟩ := mem_own.1 hevent
  obtain ⟨p, hp⟩ := h.task _ hmem
  rw [hi] at hp
  cases hp

theorem Tracked.step {W W' : World σ ι κ Q A ε α} {l : ι × Action κ Q A}
    (h : Tracked program W) (hs : Step program respond W l W') : Tracked program W' := by
  cases hs with
  | @start i task hidle =>
    refine ⟨fun j task' p hj => ?_, fun e he => ?_, h.asks⟩
    · by_cases hji : j = i
      · subst hji
        rw [World.goto_self] at hj
        cases hj
        change Leads _ (own j W.log) _
        rw [h.own_eq_nil hidle]
        exact .refl _
      · rw [World.goto_of_ne _ hji] at hj
        exact h.leads j task' p hj
    · obtain ⟨p, hp⟩ := h.task e he
      refine ⟨p, ?_⟩
      rw [World.goto_of_ne, hp]
      intro heq
      rw [heq, hidle] at hp
      cases hp
  | @perform i task q k a s hbusy hrespond =>
    have hleads := h.leads i task _ hbusy
    refine ⟨fun j task' p hj => ?_, fun e he => ?_, fun before e after hlog => ?_⟩
    · change Leads _ (own j (W.log ++ [⟨i, task, ⟨q, a⟩⟩])) p
      rw [own_append]
      by_cases hji : j = i
      · subst hji
        rw [World.goto_self] at hj
        cases hj
        rw [own_self]
        exact hleads.snoc a
      · rw [World.goto_of_ne _ hji] at hj
        rw [own_of_ne (Ne.symm hji), List.append_nil]
        exact h.leads j task' p hj
    · rcases List.mem_append.1 he with he | he
      · obtain ⟨p, hp⟩ := h.task e he
        by_cases hei : e.client = i
        · rw [hei] at hp ⊢
          obtain ⟨rfl, -⟩ := Prod.mk.inj (Option.some.inj (hbusy.symm.trans hp))
          exact ⟨k a, World.goto_self ..⟩
        · exact ⟨p, (World.goto_of_ne _ hei ..).trans hp⟩
      · rw [List.mem_singleton.1 he]
        exact ⟨k a, World.goto_self ..⟩
    · rcases List.eq_nil_or_concat' after with rfl | ⟨after, last, rfl⟩
      · obtain ⟨rfl, he⟩ := List.append_inj' (hlog : _ ++ [_] = before ++ [e]) rfl
        rw [← List.singleton_inj.1 he]
        exact ⟨k, hleads⟩
      · rw [← List.cons_append, ← List.append_assoc] at hlog
        exact h.asks before e after (List.append_inj' hlog rfl).1

theorem tracked_of_reachable {s : σ} {W : World σ ι κ Q A ε α}
    (h : Reachable (Step program respond) (World.start s) W) : Tracked program W :=
  h.invariant (Tracked.start s) fun _ _ _ => Tracked.step

/-- What holds of any two calls of a log, the earlier one first. -/
theorem pairwise_of_splits {γ : Type*} {R : γ → γ → Prop} {l : List γ}
    (h : ∀ before x between y after, l = before ++ x :: (between ++ y :: after) → R x y) :
    l.Pairwise R := by
  induction l with
  | nil => exact .nil
  | cons x l ih =>
    refine .cons (fun y hy => ?_) (ih fun before x' between y after hl => ?_)
    · obtain ⟨between, after, hl⟩ := List.append_of_mem hy
      exact h [] x between y after (congrArg _ hl)
    · exact h (x :: before) x' between y after (congrArg _ hl)

/-- What holds at the start and what every answer preserves holds of the state and the log. -/
theorem invariant {J : σ → List (Entry ι κ Q A) → Prop} {s : σ} {W : World σ ι κ Q A ε α}
    (h₀ : J s []) (hstep : ∀ s s' log i task q a, J s log → respond s q a s' →
      J s' (log ++ [⟨i, task, ⟨q, a⟩⟩]))
    (h : Reachable (Step program respond) (World.start s) W) : J W.shared W.log := by
  refine h.invariant (I := fun W => J W.shared W.log) h₀ fun W l W' hJ hs => ?_
  cases hs with
  | start => exact hJ
  | perform _ hrespond => exact hstep _ _ _ _ _ _ _ hJ hrespond

/-- A client that is alone for a while runs its task to its end. -/
theorem reachable_play {s : σ} {W : World σ ι κ Q A ε α} {answer : σ → (q : Q) → A q × σ}
    (hanswer : ∀ s q, respond s q (answer s q).1 (answer s q).2)
    (h : Reachable (Step program respond) (World.start s) W) {i : ι} {task : κ}
    {p : ReadProgram Q A ε α} (hi : W.client i = some (task, p)) :
    ∃ W', Reachable (Step program respond) (World.start s) W' ∧
      W'.shared = (p.play answer W.shared).2.2 ∧ (∀ j, j ≠ i → W'.client j = W.client j) ∧
        W'.log = W.log ++ (p.play answer W.shared).1.map fun event => ⟨i, task, event⟩ := by
  induction p generalizing W with
  | done r => exact ⟨W, h, rfl, fun _ _ => rfl, (List.append_nil _).symm⟩
  | ask q k ih =>
    have hnext := h.next (Step.perform hi (hanswer W.shared q))
    obtain ⟨W', hW', hshared, hclient, hlog⟩ := ih _ hnext (World.goto_self ..)
    refine ⟨W', hW', hshared, fun j hj => (hclient j hj).trans (World.goto_of_ne _ hj ..), ?_⟩
    rw [hlog]
    exact List.append_assoc ..

end Interleaving

end StateLib
