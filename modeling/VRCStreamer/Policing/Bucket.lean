import Mathlib.Algebra.Order.Field.Basic
import Mathlib.Algebra.BigOperators.Group.List.Basic
import Mathlib.Tactic.Linarith
import Mathlib.Tactic.Ring

/-!
# Token buckets and windows

A bucket fills at a rate up to a burst, and each request that is let through takes its units out.
What is in it is the least, over all windows that end now, of what the window may still take. Lists
of requests have the last one first.
-/

namespace VRCStreamer.Policing

structure Request (K : Type*) where
  time : K
  units : K

section Total

variable {K : Type*} [Field K]

def total (requests : List (Request K)) : K := (requests.map Request.units).sum

@[simp] theorem total_nil : total ([] : List (Request K)) = 0 := rfl

@[simp] theorem total_cons (request : Request K) (requests : List (Request K)) :
    total (request :: requests) = request.units + total requests := List.sum_cons

end Total

section Until

variable {K : Type*} [LinearOrder K] {now later : K}
variable {requests earlier : List (Request K)} {request : Request K}

/-- The requests came in order, the last one by now. -/
def Until (requests : List (Request K)) (now : K) : Prop :=
  requests.Pairwise (fun later earlier => earlier.time ≤ later.time) ∧
    ∀ request ∈ requests, request.time ≤ now

theorem until_nil : Until ([] : List (Request K)) now := ⟨.nil, nofun⟩

theorem Until.mono (h : Until requests now) (hle : now ≤ later) : Until requests later :=
  ⟨h.1, fun request hmem => (h.2 request hmem).trans hle⟩

theorem Until.cons (h : Until earlier request.time) (hle : request.time ≤ now) :
    Until (request :: earlier) now := by
  refine ⟨List.pairwise_cons.mpr ⟨h.2, h.1⟩, ?_⟩
  intro other hmem
  obtain rfl | hmem := List.mem_cons.mp hmem
  · exact hle
  · exact (h.2 other hmem).trans hle

theorem Until.tail (h : Until (request :: earlier) now) : Until earlier request.time :=
  ⟨(List.pairwise_cons.mp h.1).2, (List.pairwise_cons.mp h.1).1⟩

theorem Until.head_le (h : Until (request :: earlier) now) : request.time ≤ now :=
  h.2 request List.mem_cons_self

end Until

variable {K : Type*} [Field K] [LinearOrder K]

/-- What is in the bucket after the requests. -/
def available (rate burst : K) : List (Request K) → K → K
  | [], _ => burst
  | request :: earlier, now =>
    min (available rate burst earlier request.time - request.units + (now - request.time) * rate)
      burst

/-- No window that starts at one of the requests and lasts until now holds more units than the
burst and what flows in while it lasts. -/
def EndsWithin (rate burst : K) (requests : List (Request K)) (now : K) : Prop :=
  ∀ window first early, requests = window ++ first :: early →
    total (window ++ [first]) ≤ burst + rate * (now - first.time)

/-- This goes for the windows that end at any of the requests. -/
def Conforms (rate burst : K) : List (Request K) → Prop
  | [] => True
  | request :: earlier =>
    EndsWithin rate burst (request :: earlier) request.time ∧ Conforms rate burst earlier

variable {rate burst now later : K} {requests earlier : List (Request K)} {request : Request K}

theorem available_le_burst : available rate burst requests now ≤ burst := by
  cases requests with
  | nil => exact le_refl burst
  | cons request earlier => exact min_le_right _ _

theorem Conforms.of_append (h : Conforms rate burst (requests ++ earlier)) :
    Conforms rate burst earlier := by
  induction requests with
  | nil => exact h
  | cons request requests ih => exact ih h.2

variable [IsStrictOrderedRing K]

/-- The bucket fills while nothing is let through. -/
theorem available_later (hrate : 0 ≤ rate) (hle : now ≤ later) :
    available rate burst requests later =
      min (available rate burst requests now + (later - now) * rate) burst := by
  have hflow : 0 ≤ (later - now) * rate := mul_nonneg (sub_nonneg.mpr hle) hrate
  cases requests with
  | nil =>
    rw [available, available, min_eq_right]
    linarith
  | cons request earlier =>
    rw [available, available, ← min_add_add_right, min_assoc,
      min_eq_right (a := burst + (later - now) * rate) (by linarith)]
    congr 1
    ring

/-- The windows bound the units that the bucket still holds. -/
theorem le_available_iff {units : K} : units ≤ available rate burst requests now ↔
    units ≤ burst ∧ ∀ window first early, requests = window ++ first :: early →
      units + total (window ++ [first]) ≤ burst + rate * (now - first.time) := by
  induction requests generalizing units now with
  | nil =>
    constructor
    · intro h
      exact ⟨h, fun window first early hsplit => by simp at hsplit⟩
    · exact fun h => h.1
  | cons request earlier ih =>
    have hhead : units ≤ available rate burst earlier request.time - request.units +
        (now - request.time) * rate ↔ units + request.units - (now - request.time) * rate ≤
          available rate burst earlier request.time := by
      constructor <;> intro h <;> linarith
    rw [available, le_min_iff, hhead, ih]
    constructor
    · rintro ⟨⟨hfirst, hwindows⟩, hburst⟩
      refine ⟨hburst, ?_⟩
      intro window first early hsplit
      cases window with
      | nil =>
        obtain ⟨rfl, rfl⟩ := List.cons.inj hsplit
        simp only [List.nil_append, total_cons, total_nil]
        linarith
      | cons other window =>
        obtain ⟨rfl, rfl⟩ := List.cons.inj hsplit
        have hwindow := hwindows window first early rfl
        rw [List.cons_append, total_cons]
        linarith
    · rintro ⟨hburst, hwindows⟩
      refine ⟨⟨?_, ?_⟩, hburst⟩
      · have hone := hwindows [] request earlier rfl
        simp only [List.nil_append, total_cons, total_nil] at hone
        linarith
      · intro window first early hsplit
        have hmore := hwindows (request :: window) first early (by rw [hsplit]; rfl)
        rw [List.cons_append, total_cons] at hmore
        linarith

/-- A request finds its units in the bucket exactly if the windows that end with it keep
their bound. -/
theorem endsWithin_cons_iff : EndsWithin rate burst (request :: earlier) request.time ↔
    request.units ≤ available rate burst earlier request.time := by
  rw [le_available_iff]
  constructor
  · intro h
    constructor
    · have hone := h [] request earlier rfl
      simp only [List.nil_append, total_cons, total_nil] at hone
      linarith
    · intro window first early hsplit
      have hmore := h (request :: window) first early (by rw [hsplit]; rfl)
      rw [List.cons_append, total_cons] at hmore
      exact hmore
  · rintro ⟨hburst, hwindows⟩ window first early hsplit
    cases window with
    | nil =>
      obtain ⟨rfl, rfl⟩ := List.cons.inj hsplit
      simp only [List.nil_append, total_cons, total_nil]
      linarith
    | cons other window =>
      obtain ⟨rfl, rfl⟩ := List.cons.inj hsplit
      rw [List.cons_append, total_cons]
      exact hwindows window first early rfl

theorem Conforms.cons (h : Conforms rate burst earlier)
    (hunits : request.units ≤ available rate burst earlier request.time) :
    Conforms rate burst (request :: earlier) :=
  ⟨endsWithin_cons_iff.mpr hunits, h⟩

theorem Conforms.available_nonneg (h : Conforms rate burst requests) (huntil : Until requests now)
    (hrate : 0 ≤ rate) (hburst : 0 ≤ burst) : 0 ≤ available rate burst requests now := by
  cases requests with
  | nil => exact hburst
  | cons request earlier =>
    have hunits := endsWithin_cons_iff.mp h.1
    have hflow := mul_nonneg (sub_nonneg.mpr huntil.head_le) hrate
    rw [available]
    exact le_min (by linarith) hburst

/-! ## Windows of time -/

theorem available_add_total_le {start : K} (hrate : 0 ≤ rate) (huntil : Until requests now)
    (hstart : start ≤ now) : available rate burst requests now +
      total (requests.filter (fun request => start ≤ request.time)) ≤
        burst + rate * (now - start) := by
  induction requests generalizing now with
  | nil =>
    have hflow := mul_nonneg hrate (sub_nonneg.mpr hstart)
    rw [available, List.filter_nil, total_nil]
    linarith
  | cons request earlier ih =>
    by_cases hin : start ≤ request.time
    · have hearlier := ih huntil.tail hin
      have hlevel : available rate burst (request :: earlier) now ≤
          available rate burst earlier request.time - request.units +
            (now - request.time) * rate := min_le_left _ _
      rw [List.filter_cons_of_pos (by simpa using hin), total_cons]
      linarith
    · -- everything came before the window
      have hnone : (request :: earlier).filter (fun request => start ≤ request.time) = [] := by
        rw [List.filter_eq_nil_iff]
        intro other hmem
        have hbefore : other.time ≤ request.time := by
          obtain rfl | hmem := List.mem_cons.mp hmem
          · exact le_refl other.time
          · exact huntil.tail.2 other hmem
        simpa using hbefore.trans_lt (not_le.mp hin)
      have hflow := mul_nonneg hrate (sub_nonneg.mpr hstart)
      have hlevel : available rate burst (request :: earlier) now ≤ burst := available_le_burst
      rw [hnone, total_nil]
      linarith

/-- The units of a window of time. -/
theorem Conforms.total_window_le {start stop : K} (h : Conforms rate burst requests)
    (huntil : Until requests now) (hrate : 0 ≤ rate) (hburst : 0 ≤ burst) (hstart : start ≤ stop) :
    total (requests.filter (fun request => start ≤ request.time ∧ request.time ≤ stop)) ≤
      burst + rate * (stop - start) := by
  induction requests generalizing now with
  | nil =>
    have hflow := mul_nonneg hrate (sub_nonneg.mpr hstart)
    rw [List.filter_nil, total_nil]
    linarith
  | cons request earlier ih =>
    by_cases hin : request.time ≤ stop
    · have hstop : Until (request :: earlier) stop := huntil.tail.cons hin
      have hfilter : (request :: earlier).filter
          (fun request => start ≤ request.time ∧ request.time ≤ stop) =
            (request :: earlier).filter (fun request => start ≤ request.time) := by
        apply List.filter_congr
        intro other hmem
        simp [hstop.2 other hmem]
      have hlevel := h.available_nonneg hstop hrate hburst
      have hwindow : available rate burst (request :: earlier) stop +
          total ((request :: earlier).filter (fun request => start ≤ request.time)) ≤
            burst + rate * (stop - start) := available_add_total_le hrate hstop hstart
      rw [hfilter]
      linarith
    · rw [List.filter_cons_of_neg (by simp [hin])]
      exact ih h.2 huntil.tail

/-! ## One number for the history -/

/-- A bucket that is refilled only when it is asked, as of the last time: whenever it is asked
next, it is what is available after the requests. -/
structure Holds (rate burst level updated : K) (requests : List (Request K)) : Prop where
  until_updated : Until requests updated
  refill : ∀ now, updated ≤ now →
    min (level + (now - updated) * rate) burst = available rate burst requests now

namespace Holds

variable {level updated : K}

theorem full (hrate : 0 ≤ rate) : Holds rate burst burst updated [] := by
  refine ⟨until_nil, ?_⟩
  intro now hle
  have hflow := mul_nonneg (sub_nonneg.mpr hle) hrate
  rw [available, min_eq_right]
  linarith

theorem refuse (h : Holds rate burst level updated requests) (hrate : 0 ≤ rate)
    (hle : updated ≤ now) :
    Holds rate burst (available rate burst requests now) now requests :=
  ⟨h.until_updated.mono hle, fun _ hlater => (available_later hrate hlater).symm⟩

omit [IsStrictOrderedRing K] in
theorem allow (h : Holds rate burst level updated requests) (hle : updated ≤ request.time) :
    Holds rate burst (available rate burst requests request.time - request.units) request.time
      (request :: requests) :=
  ⟨(h.until_updated.mono hle).cons (le_refl request.time), fun _ _ => rfl⟩

end Holds

/-! ## Change of clock -/

omit [IsStrictOrderedRing K] in
/-- Requests that were seen twice, by two clocks. If every window is allowed as much by the second
clock as by the first, the second requests conform as well. -/
theorem Conforms.transfer {rate' burst' : K} {seen : List (Request K × Request K)}
    (h : Conforms rate burst (seen.map Prod.fst)) (hburst : burst ≤ burst')
    (hunits : ∀ entry ∈ seen, entry.2.units = entry.1.units)
    (hwindow : seen.Pairwise (fun later earlier =>
      burst + rate * (later.1.time - earlier.1.time) ≤
        burst' + rate' * (later.2.time - earlier.2.time))) :
    Conforms rate' burst' (seen.map Prod.snd) := by
  induction seen with
  | nil => trivial
  | cons newest seen ih =>
    obtain ⟨hnewest, hrest⟩ := List.pairwise_cons.mp hwindow
    have hunits' := fun entry hmem => hunits entry (List.mem_cons_of_mem newest hmem)
    refine ⟨?_, ih h.2 hunits' hrest⟩
    intro window first early hsplit
    obtain ⟨front, back, hseen, rfl, hback⟩ :=
      List.map_eq_append_iff.mp (show (newest :: seen).map Prod.snd = _ from hsplit)
    obtain ⟨oldest, back, rfl, rfl, rfl⟩ := List.map_eq_cons_iff.mp hback
    have hfirst := h.1 (front.map Prod.fst) oldest.1 (back.map Prod.fst) (by
      rw [← List.map_cons, hseen, List.map_append, List.map_cons])
    have htotal : total (front.map Prod.snd ++ [oldest.2]) =
        total (front.map Prod.fst ++ [oldest.1]) := by
      have hsame : (front ++ [oldest]).map (fun entry => entry.2.units) =
          (front ++ [oldest]).map (fun entry => entry.1.units) := by
        apply List.map_congr_left
        intro entry hmem
        apply hunits
        rw [hseen, List.append_cons]
        exact List.mem_append_left back hmem
      have hsum := congrArg List.sum hsame
      simpa [total, Function.comp_def] using hsum
    have hbound : burst + rate * (newest.1.time - oldest.1.time) ≤
        burst' + rate' * (newest.2.time - oldest.2.time) := by
      obtain rfl | hmem : oldest = newest ∨ oldest ∈ seen := by
        apply List.mem_cons.mp
        rw [hseen]
        exact List.mem_append_right front List.mem_cons_self
      · simpa using hburst
      · exact hnewest oldest hmem
    rw [htotal]
    exact hfirst.trans hbound

end VRCStreamer.Policing
