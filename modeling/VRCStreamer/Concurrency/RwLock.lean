import VRCStreamer.Concurrency.Threads

/-!
# A readers-writer lock

The lock records the threads inside it. `HeldBy` says that it records exactly the
threads whose program counters are inside; every operation keeps this, and a thread
with the write lock is alone.
-/

namespace VRCStreamer.Concurrency

inductive LockMode
  | read
  | write
deriving DecidableEq

structure RwLock (θ : Type*) where
  readers : Finset θ
  writer : Option θ

namespace RwLock

variable {θ : Type*}

def unlocked : RwLock θ := ⟨∅, none⟩

/-- The lock says which threads are inside, and no other thread is beside a writer. -/
structure HeldBy (lock : RwLock θ) (mode : θ → Option LockMode) : Prop where
  readers : ∀ t, t ∈ lock.readers ↔ mode t = some .read
  writer : ∀ t, lock.writer = some t ↔ mode t = some .write
  exclusive : lock.writer ≠ none → lock.readers = ∅

theorem heldBy_unlocked : (unlocked : RwLock θ).HeldBy (fun _ => none) :=
  ⟨by simp [unlocked], by simp [unlocked], fun _ => rfl⟩

variable {lock lock' : RwLock θ} {mode : θ → Option LockMode} {t u : θ}

/-- A thread with the write lock is the only one inside. -/
theorem HeldBy.eq_of_write (h : lock.HeldBy mode) (ht : mode t = some .write)
    (hu : mode u ≠ none) : u = t := by
  have hwriter := (h.writer t).mpr ht
  cases hmode : mode u with
  | none => exact absurd hmode hu
  | some inside =>
    cases inside with
    | read =>
      have hmem := (h.readers u).mpr hmode
      rw [h.exclusive (by simp [hwriter])] at hmem
      simp at hmem
    | write =>
      have hwriter' := (h.writer u).mpr hmode
      exact Option.some.inj (hwriter'.symm.trans hwriter)

variable [DecidableEq θ]

/-- Enter, if the mode allows it now. -/
def acquire (lock : RwLock θ) (mode : LockMode) (t : θ) : Option (RwLock θ) :=
  match mode with
  | .read => if lock.writer = none then some { lock with readers := insert t lock.readers } else none
  | .write =>
    if lock.writer = none ∧ lock.readers = ∅ then some { lock with writer := some t } else none

def release (lock : RwLock θ) (mode : LockMode) (t : θ) : RwLock θ :=
  match mode with
  | .read => { lock with readers := lock.readers.erase t }
  | .write => { lock with writer := none }

theorem HeldBy.acquire {inside : LockMode} (h : lock.HeldBy mode)
    (hlock : lock.acquire inside t = some lock') :
    lock'.HeldBy (Function.update mode t (some inside)) := by
  cases inside with
  | read =>
    simp only [RwLock.acquire, Option.ite_none_right_eq_some, Option.some.injEq] at hlock
    obtain ⟨hfree, rfl⟩ := hlock
    refine ⟨?_, ?_, ?_⟩
    · intro u
      by_cases hut : u = t <;> simp [hut, h.readers]
    · intro u
      by_cases hut : u = t
      · simp [hut, hfree]
      · simp [hut, h.writer]
    · exact fun hne => absurd hfree hne
  | write =>
    simp only [RwLock.acquire, Option.ite_none_right_eq_some, Option.some.injEq] at hlock
    obtain ⟨⟨hfree, hempty⟩, rfl⟩ := hlock
    refine ⟨?_, ?_, fun _ => hempty⟩
    · intro u
      by_cases hut : u = t
      · simp [hut, hempty]
      · simp [hut, h.readers]
    · intro u
      by_cases hut : u = t
      · simp [hut]
      · have := h.writer u
        simp_all [Ne.symm hut]

theorem HeldBy.release {inside : LockMode} (h : lock.HeldBy mode) (ht : mode t = some inside) :
    (lock.release inside t).HeldBy (Function.update mode t none) := by
  cases inside with
  | read =>
    refine ⟨?_, ?_, ?_⟩
    · intro u
      by_cases hut : u = t <;> simp [RwLock.release, hut, h.readers]
    · intro u
      by_cases hut : u = t
      · have hnot := mt (h.writer t).mp (by simp [ht])
        simpa [RwLock.release, hut] using hnot
      · simp [RwLock.release, hut, h.writer]
    · intro hne
      simp [RwLock.release, h.exclusive hne]
  | write =>
    refine ⟨?_, ?_, ?_⟩
    · intro u
      by_cases hut : u = t
      · have hnot := mt (h.readers t).mp (by simp [ht])
        simpa [RwLock.release, hut] using hnot
      · simp [RwLock.release, hut, h.readers]
    · intro u
      by_cases hut : u = t
      · simp [RwLock.release, hut]
      · have hnot : mode u ≠ some .write := by
          intro hu
          exact hut (h.eq_of_write ht (by simp [hu]))
        simp [RwLock.release, hut, hnot]
    · intro hne
      simp [RwLock.release] at hne

end RwLock

end VRCStreamer.Concurrency
