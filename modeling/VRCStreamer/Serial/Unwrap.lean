import Mathlib.Data.Nat.Basic
import Mathlib.Tactic.Ring

/-!
# Unwrapping a serial number

A counter is seen through its remainder modulo `2 * half`. The unwrapper remembers the
last remainder and counts a wrap when the remainder falls by at least half the modulus.
As long as the counter never falls, it counts no wrap that did not happen; as long as the
counter grows by less than half the modulus each time, it counts all of them.
-/

namespace VRCStreamer.Serial

/-- The wraps counted after a remainder that follows another one. -/
def countWraps (half previous wraps raw : Nat) : Nat :=
  if raw < previous ∧ half ≤ previous - raw then wraps + 1 else wraps

variable {half before after wraps : Nat}

/-- A remainder that falls shows that the quotient has grown. -/
theorem div_lt_div_of_mod_lt {n : Nat} (hle : before ≤ after) (hmod : after % n < before % n) :
    before / n < after / n := by
  by_contra hnot
  have hdiv : after / n ≤ before / n := Nat.le_of_not_lt hnot
  have hbefore := Nat.div_add_mod before n
  have hafter := Nat.div_add_mod after n
  have hmul : n * (after / n) ≤ n * (before / n) := Nat.mul_le_mul_left n hdiv
  omega

/-- A counter that does not fall has wrapped at least as often as was counted. -/
theorem countWraps_le (hle : before ≤ after) (hwraps : wraps ≤ before / (2 * half)) :
    countWraps half (before % (2 * half)) wraps (after % (2 * half)) ≤ after / (2 * half) := by
  rw [countWraps]
  split
  next hfall => exact (Nat.succ_le_succ hwraps).trans (div_lt_div_of_mod_lt hle hfall.1)
  next => exact hwraps.trans (Nat.div_le_div_right hle)

/-- A counter that stays near and does not go back below a multiple of the modulus has wrapped
exactly as counted. -/
theorem countWraps_of_near (hback : before < after + half) (hlt : after < before + half)
    (hdiv : before / (2 * half) ≤ after / (2 * half)) :
    countWraps half (before % (2 * half)) (before / (2 * half)) (after % (2 * half)) =
      after / (2 * half) := by
  have hbefore := Nat.div_add_mod before (2 * half)
  have hafter := Nat.div_add_mod after (2 * half)
  have hbefore' := Nat.mod_lt before (show 0 < 2 * half by omega)
  have hafter' := Nat.mod_lt after (show 0 < 2 * half by omega)
  obtain hsame | hnext : after / (2 * half) = before / (2 * half) ∨
      before / (2 * half) + 1 ≤ after / (2 * half) := by omega
  · rw [hsame] at hafter ⊢
    rw [countWraps, if_neg]
    omega
  · have hmul : 2 * half * (before / (2 * half) + 1) ≤ 2 * half * (after / (2 * half)) :=
      Nat.mul_le_mul_left _ hnext
    rw [Nat.mul_add, Nat.mul_one] at hmul
    have htwo : after / (2 * half) < before / (2 * half) + 2 := by
      rw [Nat.div_lt_iff_lt_mul (by omega)]
      have hexpand : (before / (2 * half) + 2) * (2 * half) =
          2 * half * (before / (2 * half)) + 4 * half := by ring
      omega
    have hone : after / (2 * half) = before / (2 * half) + 1 := by omega
    rw [countWraps, if_pos, hone]
    rw [hone, Nat.mul_add, Nat.mul_one] at hafter
    omega

/-- A step back below a multiple of the modulus is not seen. -/
theorem countWraps_of_back (hback : before < after + half)
    (hdiv : after / (2 * half) < before / (2 * half)) :
    countWraps half (before % (2 * half)) (before / (2 * half)) (after % (2 * half)) =
      after / (2 * half) + 1 := by
  have hhalf : 0 < 2 * half := by
    by_contra hzero
    have hmodulus : 2 * half = 0 := by omega
    rw [hmodulus, Nat.div_zero, Nat.div_zero] at hdiv
    omega
  have hbefore := Nat.div_add_mod before (2 * half)
  have hafter := Nat.div_add_mod after (2 * half)
  have hbefore' := Nat.mod_lt before hhalf
  have hafter' := Nat.mod_lt after hhalf
  have hone : before / (2 * half) = after / (2 * half) + 1 := by
    have hle : before / (2 * half) < after / (2 * half) + 2 := by
      rw [Nat.div_lt_iff_lt_mul hhalf]
      have hexpand : (after / (2 * half) + 2) * (2 * half) =
          2 * half * (after / (2 * half)) + 4 * half := by ring
      omega
    omega
  rw [hone, Nat.mul_add, Nat.mul_one] at hbefore
  rw [countWraps, hone, if_neg]
  omega

/-- A counter that grows by less than half the modulus has wrapped exactly as counted. -/
theorem countWraps_eq (hle : before ≤ after) (hlt : after < before + half) :
    countWraps half (before % (2 * half)) (before / (2 * half)) (after % (2 * half)) =
      after / (2 * half) :=
  countWraps_of_near (by omega) hlt (Nat.div_le_div_right hle)

end VRCStreamer.Serial
