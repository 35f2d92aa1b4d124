import Mathlib.Algebra.Order.Monoid.Defs
import Mathlib.Data.List.Basic

/-!
# Windows that start on demand

A limit on the requests in a window of time, where a window starts with a request or another event
that finds the one before over. Windows are then at least a width apart, and any interval of a
width has requests of two windows at most.
-/

namespace VRCStreamer.Policing

variable {K : Type*} [AddCommMonoid K] [LinearOrder K]

/-- The requests of one window, the newest first. -/
structure Window (width : K) (limit : Nat) where
  start : K
  times : List K
  bounded : times.length ≤ limit
  inside : ∀ time ∈ times, start ≤ time ∧ time < start + width

namespace Window

variable {width : K} {limit : Nat}

/-- A window without requests. -/
def empty (start : K) : Window width limit := ⟨start, [], Nat.zero_le limit, by simp⟩

/-- One more request. -/
def push (window : Window width limit) (time : K) (hroom : window.times.length < limit)
    (hin : window.start ≤ time ∧ time < window.start + width) : Window width limit where
  start := window.start
  times := time :: window.times
  bounded := hroom
  inside := List.forall_mem_cons.mpr ⟨hin, window.inside⟩

/-- Windows, the newest first, that do not overlap. -/
def Apart (windows : List (Window width limit)) : Prop :=
  windows.Pairwise (fun later earlier => earlier.start + width ≤ later.start)

/-- The requests of all windows. -/
def allTimes (windows : List (Window width limit)) : List K := windows.flatMap times

variable {window : Window width limit} {windows earlier : List (Window width limit)} {now start : K}

@[simp] theorem allTimes_empty (start : K) :
    allTimes (empty start :: windows) = allTimes windows := rfl

@[simp] theorem allTimes_push (hroom : window.times.length < limit)
    (hin : window.start ≤ now ∧ now < window.start + width) :
    allTimes (window.push now hroom hin :: windows) = now :: allTimes (window :: windows) := rfl

theorem Apart.push (h : Apart (window :: windows)) (hroom : window.times.length < limit)
    (hin : window.start ≤ now ∧ now < window.start + width) :
    Apart (window.push now hroom hin :: windows) :=
  List.pairwise_cons.mpr (List.pairwise_cons.mp h)

theorem Apart.empty (h : Apart windows) (hover : ∀ window ∈ windows, window.start + width ≤ start) :
    Apart (empty start :: windows) := List.pairwise_cons.mpr ⟨hover, h⟩

/-- Behind a point at which all windows have started there are requests of the newest one only. -/
theorem Apart.count_from_le (h : Apart windows)
    (hstart : ∀ window ∈ windows, window.start ≤ start) :
    ((allTimes windows).filter (fun time => start ≤ time)).length ≤ limit := by
  cases windows with
  | nil => exact Nat.zero_le limit
  | cons window earlier =>
    obtain ⟨hover, -⟩ := List.pairwise_cons.mp h
    have hnone : (allTimes earlier).filter (fun time => start ≤ time) = [] := by
      apply List.filter_eq_nil_iff.mpr
      intro time hmem
      obtain ⟨before, hbefore, htime⟩ := List.mem_flatMap.mp hmem
      have hend : time < start :=
        calc time < before.start + width := (before.inside time htime).2
          _ ≤ window.start := hover before hbefore
          _ ≤ start := hstart window List.mem_cons_self
      simpa using hend
    rw [allTimes, List.flatMap_cons, List.filter_append]
    show (_ ++ (allTimes earlier).filter _).length ≤ limit
    rw [hnone, List.append_nil]
    exact (List.length_filter_le _ _).trans window.bounded

variable [IsOrderedAddMonoid K]

/-- No half-open interval of a width has more requests than two windows. -/
theorem Apart.count_le (h : Apart windows) (start : K) :
    ((allTimes windows).filter (fun time => start ≤ time ∧ time < start + width)).length ≤
      2 * limit := by
  induction windows with
  | nil => exact Nat.zero_le _
  | cons window earlier ih =>
    obtain ⟨hover, hearlier⟩ := List.pairwise_cons.mp h
    rw [allTimes, List.flatMap_cons, List.filter_append, List.length_append]
    show _ + ((allTimes earlier).filter _).length ≤ _
    by_cases hlate : start + width ≤ window.start
    · have hnone : window.times.filter (fun time => start ≤ time ∧ time < start + width) = [] := by
        apply List.filter_eq_nil_iff.mpr
        intro time hmem
        have hbegin := hlate.trans (window.inside time hmem).1
        simp [hbegin]
      rw [hnone, List.length_nil, Nat.zero_add]
      exact ih hearlier
    · have hbefore : ∀ before ∈ earlier, before.start ≤ start := by
        intro before hmem
        have hlt : before.start + width < start + width :=
          (hover before hmem).trans_lt (not_le.mp hlate)
        exact (lt_of_add_lt_add_right hlt).le
      have hnewest : (window.times.filter
          (fun time => start ≤ time ∧ time < start + width)).length ≤ limit :=
        (List.length_filter_le _ _).trans window.bounded
      have hfrom := Apart.count_from_le hearlier hbefore
      have hboth : ((allTimes earlier).filter
          (fun time => start ≤ time ∧ time < start + width)).length ≤
          ((allTimes earlier).filter (fun time => start ≤ time)).length := by
        apply List.Sublist.length_le
        apply List.monotone_filter_right
        intro time hin
        simp only [decide_eq_true_eq] at hin ⊢
        exact hin.1
      omega

/-- The requests of a window that is not over are recent. -/
theorem length_le_recent (window : Window width limit) (hnow : now < window.start + width)
    (earlier : List (Window width limit)) : window.times.length ≤
      ((allTimes (window :: earlier)).filter (fun time => now < time + width)).length := by
  have hall : window.times.filter (fun time => now < time + width) = window.times := by
    apply List.filter_eq_self.mpr
    intro time hmem
    have hafter : window.start + width ≤ time + width :=
      add_le_add_left (window.inside time hmem).1 width
    simpa using hnow.trans_le hafter
  rw [allTimes, List.flatMap_cons, List.filter_append, hall, List.length_append]
  exact Nat.le_add_right _ _

end Window

end VRCStreamer.Policing
