import DollState.Library.ReadProgram

/-!
# What a program asks

The queries that a run of a `ReadProgram` asks, in order. A run depends on no other answer
(`run_congr`), and that is also when a run over changing states is one on the last of them: when no
change alters an answer that has been given (`RunsOver.run_of_settled`). `Concordant` is the weaker fact that two
states do not make a program return two different things.
-/

namespace StateLib

namespace ReadProgram

variable {Q : Type} {A : Q → Type} {ε α β : Type} {ι : Type*} {answer answer' : (q : Q) → A q}

/-- The queries of a run on one state. -/
def asked (answer : (q : Q) → A q) : ReadProgram Q A ε α → List Q
  | .done _ => []
  | .ask q k => q :: (k (answer q)).asked answer

/-- A run depends on the answers that it asks for. -/
theorem run_congr {p : ReadProgram Q A ε α} (h : ∀ q ∈ p.asked answer, answer' q = answer q) :
    p.run answer' = p.run answer := by
  induction p with
  | done r => rfl
  | ask q k ih =>
    obtain ⟨hq, hrest⟩ := List.forall_mem_cons.1 h
    rw [run, run, hq]
    exact ih _ hrest

/-! ## Rules -/

@[simp] theorem asked_done (r : Except ε α) : (done r : ReadProgram Q A ε α).asked answer = [] := rfl

@[simp] theorem asked_pure (a : α) : (pure a : ReadProgram Q A ε α).asked answer = [] := rfl

@[simp] theorem asked_lift (r : Except ε α) :
    (monadLift r : ReadProgram Q A ε α).asked answer = [] := rfl

@[simp] theorem asked_read (q : Q) : (read q : ReadProgram Q A ε (A q)).asked answer = [q] := rfl

theorem asked_bind (p : ReadProgram Q A ε α) (f : α → ReadProgram Q A ε β) :
    (p >>= f).asked answer = p.asked answer ++ match p.run answer with
      | .ok a => (f a).asked answer
      | .error _ => [] := by
  induction p with
  | done r => cases r <;> rfl
  | ask q k ih =>
    change q :: ((k (answer q) >>= f).asked answer) = _
    rw [ih (answer q)]
    rfl

@[simp] theorem asked_catching (caught : ε → Bool) (e : ε) (p : ReadProgram Q A ε α) :
    (p.catching caught e).asked answer = p.asked answer := by
  induction p with
  | done r => rfl
  | ask q k ih => exact congrArg (q :: ·) (ih (answer q))

/-- Every query of a run on one state is of the sort `sort`. -/
def AsksOnly (answer : (q : Q) → A q) (sort : Q → Prop) (p : ReadProgram Q A ε α) : Prop :=
  ∀ q ∈ p.asked answer, sort q

namespace AsksOnly

variable {sort : Q → Prop}

theorem lift (r : Except ε α) : AsksOnly answer sort (monadLift r : ReadProgram Q A ε α) := nofun

theorem pure (a : α) : AsksOnly answer sort (Pure.pure a : ReadProgram Q A ε α) := nofun

theorem read {q : Q} (h : sort q) :
    AsksOnly answer sort (ReadProgram.read q : ReadProgram Q A ε (A q)) :=
  fun _ hq => List.mem_singleton.1 hq ▸ h

/-- Sequencing: what the second program asks depends on what the first one returned. -/
theorem bind {p : ReadProgram Q A ε α} {f : α → ReadProgram Q A ε β}
    (hp : AsksOnly answer sort p)
    (hf : ∀ a, p.run answer = .ok a → AsksOnly answer sort (f a)) :
    AsksOnly answer sort (p >>= f) := by
  intro q hq
  rw [asked_bind, List.mem_append] at hq
  rcases hq with hq | hq
  · exact hp q hq
  · cases hrun : p.run answer with
    | error e => simp [hrun] at hq
    | ok a => exact hf a hrun q (by simpa [hrun] using hq)

theorem catching {caught : ε → Bool} {e : ε} {p : ReadProgram Q A ε α}
    (h : AsksOnly answer sort p) : AsksOnly answer sort (p.catching caught e) := by
  rw [AsksOnly, asked_catching]
  exact h

theorem forEach {f : ι → ReadProgram Q A ε Unit} {xs : List ι}
    (h : ∀ x ∈ xs, AsksOnly answer sort (f x)) :
    AsksOnly answer sort (ReadProgram.forEach f xs) := by
  induction xs with
  | nil => exact .pure ()
  | cons x xs ih =>
    exact .bind (h x List.mem_cons_self) fun _ _ => ih fun y hy => h y (List.mem_cons_of_mem _ hy)

theorem collect {f : ι → ReadProgram Q A ε α} {xs : List ι}
    (h : ∀ x ∈ xs, AsksOnly answer sort (f x)) :
    AsksOnly answer sort (ReadProgram.collect f xs) := by
  induction xs with
  | nil => exact .pure []
  | cons x xs ih =>
    refine .bind (h x List.mem_cons_self) fun _ _ => ?_
    exact .bind (ih fun y hy => h y (List.mem_cons_of_mem _ hy)) fun _ _ => .pure _

/-- A program that asks only what two states answer alike runs alike on them. -/
theorem run_eq {p : ReadProgram Q A ε α} (h : AsksOnly answer sort p)
    (halike : ∀ q, sort q → answer' q = answer q) : p.run answer' = p.run answer :=
  run_congr fun q hq => halike q (h q hq)

end AsksOnly

/-! ## Runs over changing states -/

variable {σ : Type*} {ans : σ → (q : Q) → A q}

/-- The run that the states `ss` answer in order, if they are as many as its queries. -/
def runOver (ans : σ → (q : Q) → A q) : ReadProgram Q A ε α → List σ → Option (Except ε α)
  | .done r, [] => some r
  | .ask q k, s :: ss => runOver ans (k (ans s q)) ss
  | _, _ => none

theorem runsOver_of_runOver {p : ReadProgram Q A ε α} {ss : List σ} {r : Except ε α}
    (h : runOver ans p ss = some r) : RunsOver ans p ss r := by
  induction ss generalizing p with
  | nil =>
    cases p with
    | done r' =>
      cases h
      exact .done r
    | ask q k => cases h
  | cons s ss ih =>
    cases p with
    | done r' => cases h
    | ask q k => exact .ask (ih h)

/-- The answer decides how the program goes on. -/
def Heeded {q : Q} (k : A q → ReadProgram Q A ε α) : Prop := ∃ a b, k a ≠ k b

/-- The queries that are answered by the states `ss`, in order, have the same answers in `t`, unless
the answer is not heeded. -/
def Settled (ans : σ → (q : Q) → A q) (t : σ) : ReadProgram Q A ε α → List σ → Prop
  | .ask q k, s :: ss => (Heeded k → ans t q = ans s q) ∧ Settled ans t (k (ans s q)) ss
  | _, _ => True

/-- A run whose answers are all those of one state is the run on that state. -/
theorem RunsOver.run_of_settled {p : ReadProgram Q A ε α} {ss : List σ} {r : Except ε α} {t : σ}
    (h : RunsOver ans p ss r) (hsettled : Settled ans t p ss) : p.run (ans t) = r := by
  induction h with
  | done r => rfl
  | @ask q k s ss r h ih =>
    have hnext : k (ans t q) = k (ans s q) := by
      by_contra hne
      exact hne (congrArg k (hsettled.1 ⟨_, _, hne⟩))
    rw [run, hnext]
    exact ih hsettled.2

/-- No change alters an answer that has been given and heeded: the query has the same answer in every
state that follows. -/
def Undisturbed (ans : σ → (q : Q) → A q) : ReadProgram Q A ε α → List σ → Prop
  | .ask q k, s :: ss =>
    (Heeded k → ∀ t ∈ ss, ans t q = ans s q) ∧ Undisturbed ans (k (ans s q)) ss
  | _, _ => True

/-- After an undisturbed run the last state has all the answers. -/
theorem Undisturbed.settled {p : ReadProgram Q A ε α} {ss : List σ} {t : σ}
    (h : Undisturbed ans p ss) (ht : ss.getLast? = some t) : Settled ans t p ss := by
  induction ss generalizing p with
  | nil => cases ht
  | cons s ss ih =>
    cases p with
    | done r => trivial
    | ask q k =>
      cases ss with
      | nil =>
        cases ht
        refine ⟨fun _ => rfl, ?_⟩
        cases k (ans s q) <;> trivial
      | cons s' ss =>
        have hlast : (s' :: ss).getLast? = some t := by simpa using ht
        exact ⟨fun hk => h.1 hk t (List.mem_of_getLast? hlast), ih h.2 hlast⟩

/-- A run that no change disturbs is the run on the last state it sees. -/
theorem RunsOver.run_of_undisturbed {p : ReadProgram Q A ε α} {ss : List σ} {r : Except ε α} {t : σ}
    (h : RunsOver ans p ss r) (hu : Undisturbed ans p ss) (ht : ss.getLast? = some t) :
    p.run (ans t) = r := h.run_of_settled (hu.settled ht)

/-- Where nothing changes, nothing is disturbed. -/
theorem undisturbed_of_constant {p : ReadProgram Q A ε α} {ss : List σ} {t : σ}
    (h : ∀ s ∈ ss, s = t) : Undisturbed ans p ss := by
  induction ss generalizing p with
  | nil => cases p <;> trivial
  | cons s ss ih =>
    cases p with
    | done r => trivial
    | ask q k =>
      obtain ⟨rfl, hss⟩ := List.forall_mem_cons.1 h
      exact ⟨fun _ u hu => by rw [hss u hu], ih hss⟩

/-- An invariant of a loop over a state. -/
theorem All.foldlM {ok : (q : Q) → A q → Prop} {post : β → Prop} {f : β → ι → ReadProgram Q A ε β} {xs : List ι}
    (h : ∀ b, post b → ∀ x ∈ xs, (f b x).All ok post) {b : β} (hb : post b) : (xs.foldlM f b).All ok post := by
  induction xs generalizing b with
  | nil => exact .pure hb
  | cons x xs ih =>
    rw [List.foldlM_cons]
    exact .bind (h b hb x List.mem_cons_self) fun b' hb' =>
      ih (fun b hb x hx => h b hb x (List.mem_cons_of_mem _ hx)) hb'

/-! ## Two states -/

/-- If the program returns on both states, it returns the same on both. -/
def Concordant (answer answer' : (q : Q) → A q) (p : ReadProgram Q A ε α) : Prop :=
  ∀ a b, p.run answer = .ok a → p.run answer' = .ok b → a = b

namespace Concordant

theorem lift (r : Except ε α) : Concordant answer answer' (monadLift r : ReadProgram Q A ε α) := by
  intro a b ha hb
  exact Except.ok.inj (ha.symm.trans hb)

theorem pure (a : α) : Concordant answer answer' (Pure.pure a : ReadProgram Q A ε α) := lift (.ok a)

/-- A check returns nothing that could differ. -/
theorem check (p : ReadProgram Q A ε Unit) : Concordant answer answer' p := by
  intro a b _ _
  rfl

theorem read {q : Q} (h : answer' q = answer q) :
    Concordant answer answer' (ReadProgram.read q : ReadProgram Q A ε (A q)) := by
  intro a b ha hb
  rw [run_read] at ha hb
  rw [← Except.ok.inj ha, ← Except.ok.inj hb, h]

/-- Sequencing: the second program need only agree for what the first one returns on both states. -/
theorem bind {p : ReadProgram Q A ε α} {f : α → ReadProgram Q A ε β} (hp : Concordant answer answer' p)
    (hf : ∀ a, p.run answer = .ok a → p.run answer' = .ok a → Concordant answer answer' (f a)) :
    Concordant answer answer' (p >>= f) := by
  intro b b' hb hb'
  rw [run_bind] at hb hb'
  obtain ⟨a, ha, hb⟩ := bind_eq_ok.1 hb
  obtain ⟨a', ha', hb'⟩ := bind_eq_ok.1 hb'
  obtain rfl := hp a a' ha ha'
  exact hf a ha ha' b b' hb hb'

/-- Sequencing after a check. -/
theorem after (p : ReadProgram Q A ε Unit) {f : Unit → ReadProgram Q A ε β}
    (hf : Concordant answer answer' (f ())) : Concordant answer answer' (p >>= f) :=
  bind (check p) fun _ _ _ => hf

theorem catching {caught : ε → Bool} {e : ε} {p : ReadProgram Q A ε α} (hp : Concordant answer answer' p) :
    Concordant answer answer' (p.catching caught e) := by
  intro a b ha hb
  rw [run_catching, catching_eq_ok] at ha hb
  exact hp a b ha hb

theorem collect {f : ι → ReadProgram Q A ε α} {xs : List ι} (h : ∀ x ∈ xs, Concordant answer answer' (f x)) :
    Concordant answer answer' (ReadProgram.collect f xs) := by
  induction xs with
  | nil => exact .pure []
  | cons x xs ih =>
    obtain ⟨hx, hxs⟩ := List.forall_mem_cons.1 h
    exact .bind hx fun _ _ _ => .bind (ih hxs) fun _ _ _ => .pure _

theorem foldlM {f : β → ι → ReadProgram Q A ε β} {xs : List ι}
    (h : ∀ b, ∀ x ∈ xs, Concordant answer answer' (f b x)) (b : β) :
    Concordant answer answer' (xs.foldlM f b) := by
  induction xs generalizing b with
  | nil => exact .pure b
  | cons x xs ih =>
    rw [List.foldlM_cons]
    exact .bind (h b x List.mem_cons_self) fun b' _ _ =>
      ih (fun b x hx => h b x (List.mem_cons_of_mem _ hx)) b'

end Concordant

end ReadProgram

end StateLib
