import Mathlib.Algebra.Order.Round
import Mathlib.Data.Int.ConditionallyCompleteOrder
import Mathlib.Tactic.FieldSimp
import Mathlib.Tactic.Linarith
import Mathlib.Tactic.Ring

/-!
# Rounded ticks

The multiples of a period, each rounded to an integer. With a period of at least one the rounded
ticks are strictly increasing, and an integer time is behind the tick that follows its number of
whole periods, or on it.
-/

namespace VRCStreamer.Serial

variable {α : Type*} [Field α] [LinearOrder α] [FloorRing α]

def tick (period : α) (index : Int) : Int := round (index * period)

variable [IsStrictOrderedRing α] {x y period : α} {index other time : Int}

theorem round_mono (h : x ≤ y) : round x ≤ round y := by
  rw [round_eq, round_eq]
  apply Int.floor_mono
  linarith

theorem round_lt_round (h : x + 1 ≤ y) : round x < round y := by
  have hround : round (x + 1) ≤ round y := round_mono h
  rw [round_add_one] at hround
  omega

theorem le_round (h : (time : α) ≤ x) : time ≤ round x := by
  rw [← round_intCast (α := α) time]
  exact round_mono h

theorem tick_strictMono (hperiod : 1 ≤ period) : StrictMono (tick period) := by
  intro index other h
  apply round_lt_round
  have hindex : (index : α) + 1 ≤ other := by exact_mod_cast h
  have hscaled : ((index : α) + 1) * period ≤ other * period :=
    mul_le_mul_of_nonneg_right hindex (by linarith)
  linarith

/-- The tick after the whole periods of a time. -/
theorem le_tick_floor (hperiod : 0 < period) (time : Int) :
    time ≤ tick period (⌊(time : α) / period⌋ + 1) := by
  apply le_round
  rw [← div_le_iff₀ hperiod]
  push_cast
  exact (Int.lt_floor_add_one _).le

theorem tick_le {bound : α} (h : index * period ≤ bound) :
    (tick period index : α) ≤ bound + 1 / 2 :=
  (round_le_add_half _).trans (by linarith)

end VRCStreamer.Serial
