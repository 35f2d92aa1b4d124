import Mathlib.Data.Finset.Card
import Mathlib.Logic.Function.Basic
import VRCStreamer.Concurrency.Transition

/-!
# Threads over a shared memory

A configuration is a memory and a program counter for each thread. A program says what
one thread may do next; the system lets any thread take the next step. The lemmas say
how a property of the program counters changes when one of them does, and `Counts` ties
a counter in memory to the threads it stands for.
-/

namespace VRCStreamer.Concurrency

structure Threads (θ μ π : Type*) where
  memory : μ
  pc : θ → π

/-- What a thread may do with the memory at its program counter, under a choice. -/
abbrev Program (θ μ π α : Type*) := θ → α → μ → π → Option (μ × π)

section

variable {θ μ π α : Type*} [DecidableEq θ]

def Program.step (program : Program θ μ π α) (s : Threads θ μ π) (a : θ × α) :
    Option (Threads θ μ π) :=
  (program a.1 a.2 s.memory (s.pc a.1)).map
    (fun r => ⟨r.1, Function.update s.pc a.1 r.2⟩)

def Program.system (program : Program θ μ π α) (memory : μ) (pc : π) :
    System (Threads θ μ π) (θ × α) :=
  ⟨⟨memory, fun _ => pc⟩, program.step⟩

theorem Program.step_eq_some {program : Program θ μ π α} {s s' : Threads θ μ π} {a : θ × α} :
    program.step s a = some s' ↔ ∃ memory pc,
      program a.1 a.2 s.memory (s.pc a.1) = some (memory, pc) ∧
      s' = ⟨memory, Function.update s.pc a.1 pc⟩ := by
  rw [Program.step, Option.map_eq_some_iff]
  constructor
  · rintro ⟨r, hr, rfl⟩
    exact ⟨r.1, r.2, hr, rfl⟩
  · rintro ⟨memory, pc, hr, rfl⟩
    exact ⟨(memory, pc), hr, rfl⟩

end

/-! ## A thread on its own -/

section

variable {θ μ π α : Type*} [DecidableEq θ] {program : Program θ μ π α} {t : θ}

/-- What one thread does with the memory while no other thread takes a step. -/
def Program.Solo (program : Program θ μ π α) (t : θ) : μ × π → μ × π → Prop :=
  Relation.ReflTransGen (fun s s' => ∃ a, program t a s.1 s.2 = some s')

omit [DecidableEq θ] in
theorem Program.Solo.head {s s' s'' : μ × π} {a : α} (h : program t a s.1 s.2 = some s')
    (hrest : program.Solo t s' s'') : program.Solo t s s'' :=
  Relation.ReflTransGen.head ⟨a, h⟩ hrest

/-- Such steps are a run of the whole system, in which the other threads stand still. -/
theorem Program.Solo.run {s start : Threads θ μ π} {last : μ × π}
    (h : program.Solo t (s.memory, s.pc t) last) :
    System.Run ⟨start, program.step⟩ (fun _ a => a.1 = t) s
      ⟨last.1, Function.update s.pc t last.2⟩ := by
  induction h with
  | refl =>
    rw [Function.update_eq_self]
    exact Relation.ReflTransGen.refl
  | @tail mid last _ hlast ih =>
    obtain ⟨a, ha⟩ := hlast
    refine ih.tail ⟨(t, a), rfl, ?_⟩
    refine Program.step_eq_some.mpr ⟨last.1, last.2, ?_, ?_⟩
    · simpa using ha
    · rw [Function.update_idem]

end

/-! ## One program counter changes -/

section

variable {θ π : Type*} [DecidableEq θ] {P : π → Prop} {pc : θ → π} {t u : θ} {p : π}

/-- The changed thread has the property in its own right, the others as before. -/
theorem forall_update (ht : P p) (h : ∀ u, u ≠ t → P (pc u)) : P (Function.update pc t p u) := by
  by_cases hut : u = t
  · subst hut
    simpa using ht
  · simpa [hut] using h u hut

theorem update_iff_of_iff (h : P p ↔ P (pc t)) : P (Function.update pc t p u) ↔ P (pc u) := by
  by_cases hut : u = t
  · subst hut
    simpa using h
  · simp [hut]

theorem update_iff_of_pos (h : P p) : P (Function.update pc t p u) ↔ u = t ∨ P (pc u) := by
  by_cases hut : u = t
  · subst hut
    simpa using h
  · simp [hut]

theorem update_iff_of_neg (h : ¬ P p) : P (Function.update pc t p u) ↔ u ≠ t ∧ P (pc u) := by
  by_cases hut : u = t
  · subst hut
    simpa using h
  · simp [hut]

end

/-! ## Counters -/

section

variable {θ : Type*}

/-- A counter holds the number of threads with a property. -/
def Counts (n : Nat) (P : θ → Prop) : Prop := ∃ set : Finset θ, (∀ t, t ∈ set ↔ P t) ∧ set.card = n

theorem counts_zero {P : θ → Prop} (h : ∀ t, ¬ P t) : Counts 0 P :=
  ⟨∅, by simpa using h, rfl⟩

namespace Counts

variable {n : Nat} {P Q : θ → Prop}

theorem congr (h : Counts n P) (hPQ : ∀ t, Q t ↔ P t) : Counts n Q := by
  obtain ⟨set, hset, hcard⟩ := h
  exact ⟨set, fun t => (hset t).trans (hPQ t).symm, hcard⟩

theorem pos (h : Counts n P) {t : θ} (ht : P t) : 0 < n := by
  obtain ⟨set, hset, rfl⟩ := h
  exact Finset.card_pos.mpr ⟨t, (hset t).mpr ht⟩

theorem exists_of_pos (h : Counts n P) (hn : 0 < n) : ∃ t, P t := by
  obtain ⟨set, hset, rfl⟩ := h
  obtain ⟨t, ht⟩ := Finset.card_pos.mp hn
  exact ⟨t, (hset t).mp ht⟩

/-- A counter that is at most one stands for one thread. -/
theorem eq_of_le_one (h : Counts n P) (hn : n ≤ 1) {t u : θ} (ht : P t) (hu : P u) : t = u := by
  obtain ⟨set, hset, rfl⟩ := h
  exact Finset.card_le_one.mp hn t ((hset t).mpr ht) u ((hset u).mpr hu)

variable [DecidableEq θ]

theorem gain (h : Counts n P) {t : θ} (ht : ¬ P t) (hQ : ∀ u, Q u ↔ u = t ∨ P u) :
    Counts (n + 1) Q := by
  obtain ⟨set, hset, rfl⟩ := h
  refine ⟨insert t set, ?_, ?_⟩
  · intro u
    rw [Finset.mem_insert, hset, hQ]
  · exact Finset.card_insert_of_notMem (fun hmem => ht ((hset t).mp hmem))

theorem lose (h : Counts n P) {t : θ} (ht : P t) (hQ : ∀ u, Q u ↔ u ≠ t ∧ P u) :
    Counts (n - 1) Q := by
  obtain ⟨set, hset, rfl⟩ := h
  refine ⟨set.erase t, ?_, ?_⟩
  · intro u
    rw [Finset.mem_erase, hset, hQ]
  · exact Finset.card_erase_of_mem ((hset t).mpr ht)

/-! ### One program counter changes -/

variable {π : Type*} {R : π → Prop} {pc : θ → π} {t : θ} {p : π}

theorem update_keep (h : Counts n (fun u => R (pc u))) (hsame : R p ↔ R (pc t)) :
    Counts n (fun u => R (Function.update pc t p u)) :=
  h.congr (fun _ => update_iff_of_iff hsame)

theorem update_gain (h : Counts n (fun u => R (pc u))) (hbefore : ¬ R (pc t)) (hafter : R p) :
    Counts (n + 1) (fun u => R (Function.update pc t p u)) :=
  h.gain hbefore (fun _ => update_iff_of_pos hafter)

theorem update_lose (h : Counts n (fun u => R (pc u))) (hbefore : R (pc t)) (hafter : ¬ R p) :
    Counts (n - 1) (fun u => R (Function.update pc t p u)) :=
  h.lose hbefore (fun _ => update_iff_of_neg hafter)

end Counts

end

end VRCStreamer.Concurrency
