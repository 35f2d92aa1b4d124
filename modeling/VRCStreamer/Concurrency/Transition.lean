import Mathlib.Logic.Relation

/-!
# Transition systems

A system is a start state and a partial step function on labels. `Run ok` relates two
states when a run whose steps all meet `ok` leads from one to the other; a state is
reachable when some run leads to it from the start. An invariant is proved once for the
start and once for a step, and a simulation carries reachable states over.
-/

namespace VRCStreamer.Concurrency

structure System (σ α : Type*) where
  start : σ
  step : σ → α → Option σ

namespace System

variable {σ α τ β : Type*} (m : System σ α)

/-- One step that meets a condition on the state before it and its label. -/
def StepOn (ok : σ → α → Prop) (s s' : σ) : Prop := ∃ a, ok s a ∧ m.step s a = some s'

/-- A run whose steps all meet a condition. -/
def Run (ok : σ → α → Prop) : σ → σ → Prop := Relation.ReflTransGen (m.StepOn ok)

def Reachable (s : σ) : Prop := m.Run (fun _ _ => True) m.start s

/-- Perform a list of labels in order. -/
def exec : σ → List α → Option σ
  | s, [] => some s
  | s, a :: as => (m.step s a).bind (fun s' => exec s' as)

variable {m} {ok : σ → α → Prop} {s s' : σ} {P : σ → Prop}

/-- What holds at the beginning and is kept by every allowed step holds at the end. -/
theorem Run.invariant (h : m.Run ok s s') (hs : P s)
    (hstep : ∀ s a s', P s → ok s a → m.step s a = some s' → P s') : P s' := by
  induction h with
  | refl => exact hs
  | tail _ hlast ih =>
    obtain ⟨a, hok, hnext⟩ := hlast
    exact hstep _ a _ ih hok hnext

theorem Run.mono {ok' : σ → α → Prop} (h : m.Run ok s s') (hok : ∀ s a, ok s a → ok' s a) :
    m.Run ok' s s' := by
  have weaken : m.StepOn ok ≤ m.StepOn ok' := by
    rintro s s' ⟨a, ha, hnext⟩
    exact ⟨a, hok s a ha, hnext⟩
  exact Relation.ReflTransGen.mono weaken s s' h

theorem Run.trans {s'' : σ} (h : m.Run ok s s') (h' : m.Run ok s' s'') : m.Run ok s s'' :=
  Relation.ReflTransGen.trans h h'

theorem Reachable.run (hs : m.Reachable s) (h : m.Run ok s s') : m.Reachable s' :=
  Run.trans hs (h.mono (fun _ _ _ => trivial))

theorem Reachable.start : m.Reachable m.start := Relation.ReflTransGen.refl

theorem Reachable.step {a : α} (hs : m.Reachable s) (h : m.step s a = some s') :
    m.Reachable s' :=
  Relation.ReflTransGen.tail hs ⟨a, trivial, h⟩

theorem Reachable.invariant (h : m.Reachable s) (hstart : P m.start)
    (hstep : ∀ s a s', P s → m.step s a = some s' → P s') : P s :=
  Run.invariant h hstart (fun s a s' hs _ => hstep s a s' hs)

/-- A run may use any invariant of the reachable states. -/
theorem Run.invariant_of_reachable (hs : m.Reachable s) (h : m.Run ok s s') (hP : P s)
    (hstep : ∀ s a s', m.Reachable s → P s → ok s a → m.step s a = some s' → P s') : P s' := by
  have both : m.Reachable s' ∧ P s' := by
    refine h.invariant (P := fun s => m.Reachable s ∧ P s) ⟨hs, hP⟩ ?_
    intro s a s' hprev hok hnext
    exact ⟨hprev.1.step hnext, hstep s a s' hprev.1 hprev.2 hok hnext⟩
  exact both.2

theorem exec_cons_eq_some {a : α} {as : List α} :
    m.exec s (a :: as) = some s' ↔ ∃ s₁, m.step s a = some s₁ ∧ m.exec s₁ as = some s' :=
  Option.bind_eq_some_iff

theorem run_of_exec_nil (h : m.exec s [] = some s') : m.Run ok s s' := by
  obtain rfl := Option.some.inj h
  exact Relation.ReflTransGen.refl

/-- A performed list is a run; an invariant may show that its steps meet the condition. -/
theorem run_of_exec {as : List α} (h : m.exec s as = some s') (hs : P s)
    (hstep : ∀ s a s', P s → a ∈ as → m.step s a = some s' → ok s a ∧ P s') : m.Run ok s s' := by
  induction as generalizing s with
  | nil => exact run_of_exec_nil h
  | cons a as ih =>
    obtain ⟨s₁, hfirst, hrest⟩ := exec_cons_eq_some.mp h
    obtain ⟨hok, hs₁⟩ := hstep s a s₁ hs (by simp) hfirst
    refine Relation.ReflTransGen.head ⟨a, hok, hfirst⟩ (ih hrest hs₁ ?_)
    exact fun s b s' hs hb => hstep s b s' hs (List.mem_cons_of_mem a hb)

/-- A performed list is a run if every step meets the condition on the state before it. -/
theorem run_of_exec_take {as : List α} (h : m.exec s as = some s')
    (hok : ∀ n a t, as[n]? = some a → m.exec s (as.take n) = some t → ok t a) : m.Run ok s s' := by
  induction as generalizing s with
  | nil => exact run_of_exec_nil h
  | cons a as ih =>
    obtain ⟨s₁, hfirst, hrest⟩ := exec_cons_eq_some.mp h
    refine Relation.ReflTransGen.head ⟨a, hok 0 a s rfl rfl, hfirst⟩ (ih hrest ?_)
    intro n b t hb ht
    refine hok (n + 1) b t hb ?_
    rw [List.take_succ_cons, exec, hfirst, Option.bind_some]
    exact ht

/-- The system that only takes the steps that pass a check. -/
def guarded (m : System σ α) (check : σ → α → Bool) : System σ α where
  start := m.start
  step s a := if check s a then m.step s a else none

theorem run_of_exec_guarded {check : σ → α → Bool} {as : List α}
    (hcheck : ∀ s a, a ∈ as → check s a = true → ok s a)
    (h : (m.guarded check).exec s as = some s') : m.Run ok s s' := by
  induction as generalizing s with
  | nil =>
    obtain rfl := Option.some.inj h
    exact Relation.ReflTransGen.refl
  | cons a as ih =>
    obtain ⟨s₁, hfirst, hrest⟩ := exec_cons_eq_some.mp h
    have hpassed : check s a = true ∧ m.step s a = some s₁ := by
      rwa [guarded, Option.ite_none_right_eq_some] at hfirst
    refine Relation.ReflTransGen.head ⟨a, hcheck s a List.mem_cons_self hpassed.1, hpassed.2⟩ ?_
    exact ih (fun s b hb => hcheck s b (List.mem_cons_of_mem a hb)) hrest

theorem reachable_of_exec {as : List α} (h : m.exec m.start as = some s) : m.Reachable s :=
  run_of_exec (P := fun _ => True) h trivial (fun _ _ _ _ _ _ => ⟨trivial, trivial⟩)

/-- A map of states that turns every step into at most one step of another system. -/
theorem Reachable.simulate {n : System τ β} (f : σ → τ) (hstart : f m.start = n.start)
    (hstep : ∀ s a s', m.step s a = some s' → f s' = f s ∨ ∃ b, n.step (f s) b = some (f s'))
    (h : m.Reachable s) : n.Reachable (f s) := by
  refine h.invariant (P := fun s => n.Reachable (f s)) (hstart ▸ Reachable.start) ?_
  intro s a s' hs hnext
  rcases hstep s a s' hnext with hsame | ⟨b, hb⟩
  · exact hsame ▸ hs
  · exact hs.step hb

end System

end VRCStreamer.Concurrency
