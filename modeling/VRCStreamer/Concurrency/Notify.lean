import Mathlib.Data.List.Basic

/-!
# One-permit notification

`notifyOne` hands a notification to a waiter, or stores one permit when nobody waits. A
waiter registers with its first poll; a later poll finds it notified. Dropping a waiter
that was notified and not polled since may pass the notification on, or lose it: nothing
is assumed about that.
-/

namespace VRCStreamer.Concurrency

structure Notify (θ : Type*) where
  permit : Bool
  waiting : List θ
  delivered : List θ

namespace Notify

variable {θ : Type*}

def new : Notify θ := ⟨false, [], []⟩

def notifyOne (n : Notify θ) : Notify θ :=
  match n.waiting with
  | [] => { n with permit := true }
  | t :: rest => { n with waiting := rest, delivered := t :: n.delivered }

variable [DecidableEq θ]

/-- Take a thread out of both lists. -/
def forget (n : Notify θ) (t : θ) : Notify θ :=
  { n with
    waiting := n.waiting.filter (fun u => u ≠ t)
    delivered := n.delivered.filter (fun u => u ≠ t) }

/-- Whether the waiter is ready; if not, it is registered. -/
def poll (n : Notify θ) (t : θ) : Bool × Notify θ :=
  if t ∈ n.delivered then (true, n.forget t)
  else if n.permit = true then (true, { n.forget t with permit := false })
  else (false, if t ∈ n.waiting then n else { n with waiting := n.waiting ++ [t] })

/-- Drop a waiter; `forward` decides what becomes of an unpolled notification. -/
def drop (n : Notify θ) (t : θ) (forward : Bool) : Notify θ :=
  if t ∈ n.delivered ∧ forward = true then (n.forget t).notifyOne else n.forget t

/-- A thread that waits, or polls next, will be ready. -/
def Pending (n : Notify θ) (t : θ) : Prop := n.permit = true ∨ t ∈ n.delivered

/-- A thread is registered. -/
def Registered (n : Notify θ) (t : θ) : Prop := t ∈ n.waiting ∨ t ∈ n.delivered

variable {n : Notify θ} {t u : θ}

omit [DecidableEq θ] in
theorem not_registered_new : ¬ (new : Notify θ).Registered t := by
  simp [new, Registered]

omit [DecidableEq θ] in
/-- A notification reaches the only thread that may be registered. -/
theorem pending_notifyOne (h : ∀ u, n.Registered u → u = t) : n.notifyOne.Pending t := by
  rw [notifyOne]
  cases hwaiting : n.waiting with
  | nil => exact .inl rfl
  | cons u rest =>
    obtain rfl := h u (.inl (by simp [hwaiting]))
    exact .inr (List.mem_cons_self ..)

omit [DecidableEq θ] in
theorem registered_of_notifyOne (h : n.notifyOne.Registered u) : n.Registered u := by
  rw [notifyOne] at h
  cases hwaiting : n.waiting with
  | nil =>
    simp only [hwaiting] at h
    rcases h with h | h
    · cases h
    · exact .inr h
  | cons t rest =>
    simp only [hwaiting] at h
    rcases h with h | h
    · exact .inl (by simp [hwaiting, h])
    · rcases List.mem_cons.mp h with rfl | h
      · exact .inl (by simp [hwaiting])
      · exact .inr h

theorem registered_forget : (n.forget t).Registered u ↔ u ≠ t ∧ n.Registered u := by
  simp only [Registered, forget, List.mem_filter, decide_eq_true_eq]
  constructor
  · rintro (⟨hu, hne⟩ | ⟨hu, hne⟩)
    · exact ⟨hne, .inl hu⟩
    · exact ⟨hne, .inr hu⟩
  · rintro ⟨hne, hu | hu⟩
    · exact .inl ⟨hu, hne⟩
    · exact .inr ⟨hu, hne⟩

theorem registered_of_drop {forward : Bool} (h : (n.drop t forward).Registered u) :
    u ≠ t ∧ n.Registered u := by
  rw [drop] at h
  split at h
  · exact registered_forget.mp (registered_of_notifyOne h)
  · exact registered_forget.mp h

theorem registered_of_poll (h : (n.poll t).2.Registered u) : u = t ∨ n.Registered u := by
  rw [poll] at h
  split at h
  · exact .inr (registered_forget.mp h).2
  · split at h
    · exact .inr (registered_forget.mp h).2
    · split at h
      · exact .inr h
      · rcases h with h | h
        · rcases List.mem_append.mp h with h | h
          · exact .inr (.inl h)
          · exact .inl (List.mem_singleton.mp h)
        · exact .inr (.inr h)

/-- A poll that is not ready found nothing pending. -/
theorem poll_eq_false (h : (n.poll t).1 = false) : ¬ n.Pending t := by
  rw [poll] at h
  split at h
  · cases h
  · split at h
    · cases h
    next hdelivered hpermit =>
      rintro (hp | hd)
      · exact hpermit hp
      · exact hdelivered hd

end Notify

end VRCStreamer.Concurrency
