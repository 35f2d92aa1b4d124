import Mathlib.Order.Lattice
import Mathlib.Data.List.Induction

/-!
# A switch with two thresholds

A switch follows timed readings of one quantity. A reading above the higher threshold turns it
on, a reading at or below the lower one turns it off, and a reading in between leaves it as it
is. What the switch remembers is when it was turned on; what it stands for is told by the
readings alone.
-/

namespace VRCStreamer.Policing

structure Hysteresis (β : Type*) [LinearOrder β] where
  low : β
  high : β
  ordered : low ≤ high

namespace Hysteresis

variable {β τ : Type*} [LinearOrder β] (h : Hysteresis β)

/-- The time at which the switch was turned on, after one more reading. -/
def next (since : Option τ) (reading : τ × β) : Option τ :=
  if h.high < reading.2 then some (since.getD reading.1)
  else if reading.2 ≤ h.low then none
  else since

def after (readings : List (τ × β)) : Option τ := readings.foldl h.next none

/-! ## What the readings tell -/

/-- No reading above the higher threshold came after the last one that turns the switch off. -/
inductive Off : List (τ × β) → Prop
  | nil : Off []
  | low (readings : List (τ × β)) (reading : τ × β) : reading.2 ≤ h.low →
      Off (readings ++ [reading])
  | keep (readings : List (τ × β)) (reading : τ × β) : Off readings → reading.2 ≤ h.high →
      Off (readings ++ [reading])

/-- The switch was off, a reading at this time was above the higher threshold, and every later one
was above the lower threshold. -/
def OnSince (readings : List (τ × β)) (t : τ) : Prop :=
  ∃ before x rest, readings = before ++ (t, x) :: rest ∧ h.Off before ∧ h.high < x ∧
    ∀ reading ∈ rest, h.low < reading.2

theorem after_concat (readings : List (τ × β)) (reading : τ × β) :
    h.after (readings ++ [reading]) = h.next (h.after readings) reading := by
  rw [after, after, List.foldl_append, List.foldl_cons, List.foldl_nil]

variable {h}

theorem OnSince.keep {readings : List (τ × β)} {t : τ} (hon : h.OnSince readings t)
    {reading : τ × β} (hreading : h.low < reading.2) : h.OnSince (readings ++ [reading]) t := by
  obtain ⟨before, x, rest, rfl, hoff, hx, hrest⟩ := hon
  refine ⟨before, x, rest ++ [reading], ?_, hoff, hx, ?_⟩
  · rw [List.append_assoc, List.cons_append]
  · intro later hlater
    rcases List.mem_append.mp hlater with hold | hnew
    · exact hrest later hold
    · exact List.mem_singleton.mp hnew ▸ hreading

/-- The switch tells what its readings do: it is off, or on since some time. -/
theorem after_sound (readings : List (τ × β)) :
    (h.after readings = none → h.Off readings) ∧
      ∀ t, h.after readings = some t → h.OnSince readings t := by
  induction readings using List.reverseRecOn with
  | nil => exact ⟨fun _ => .nil, fun t ht => (by cases ht)⟩
  | append_singleton readings reading ih =>
    rw [after_concat, next]
    split
    next hhigh =>
      refine ⟨fun hnone => (by cases hnone), fun t ht => ?_⟩
      obtain rfl := Option.some.inj ht
      cases hsince : h.after readings with
      | none => exact ⟨readings, reading.2, [], rfl, ih.1 hsince, hhigh, List.forall_mem_nil _⟩
      | some t => exact (ih.2 t hsince).keep (lt_of_le_of_lt h.ordered hhigh)
    next hhigh =>
      split
      next hlow => exact ⟨fun _ => .low readings reading hlow, fun t ht => by cases ht⟩
      next hlow =>
        refine ⟨fun hnone => .keep readings reading (ih.1 hnone) (not_lt.mp hhigh), ?_⟩
        exact fun t ht => (ih.2 t ht).keep (not_le.mp hlow)

theorem Off.after_eq {readings : List (τ × β)} (hoff : h.Off readings) :
    h.after readings = none := by
  induction hoff with
  | nil => rfl
  | low readings reading hlow =>
    rw [after_concat, next, if_neg (not_lt.mpr (hlow.trans h.ordered)), if_pos hlow]
  | keep readings reading _ hhigh ih =>
    rw [after_concat, next, if_neg (not_lt.mpr hhigh), ih, ite_self]

theorem OnSince.after_eq {readings : List (τ × β)} {t : τ} (hon : h.OnSince readings t) :
    h.after readings = some t := by
  obtain ⟨before, x, rest, rfl, hoff, hx, hrest⟩ := hon
  induction rest using List.reverseRecOn with
  | nil => rw [after_concat, hoff.after_eq, next, if_pos hx, Option.getD_none]
  | append_singleton rest reading ih =>
    have hkept := ih fun later hlater => hrest later (List.mem_append_left _ hlater)
    have hreading : h.low < reading.2 := hrest reading (by simp)
    rw [← List.cons_append, ← List.append_assoc, after_concat, hkept, next,
      if_neg (not_le.mpr hreading), Option.getD_some, ite_self]

theorem after_eq_some_iff {readings : List (τ × β)} {t : τ} :
    h.after readings = some t ↔ h.OnSince readings t :=
  ⟨(after_sound readings).2 t, OnSince.after_eq⟩

theorem after_eq_none_iff {readings : List (τ × β)} : h.after readings = none ↔ h.Off readings :=
  ⟨(after_sound readings).1, Off.after_eq⟩

end Hysteresis

end VRCStreamer.Policing
