import Mathlib.Data.List.Basic

/-!
# A stream in parts of one length

`slices` are the full parts of a stream, numbered from its start, and `remainder` is what
follows the last one. Two rules say how both change when the stream goes on within the
current part: the part stays open, or it is filled.
-/

namespace VRCStreamer.Codec

variable {α : Type*} {n : Nat} {xs ys : List α}

/-- The part of a stream with a number. -/
def slice (n : Nat) (xs : List α) (k : Nat) : List α := (xs.drop (k * n)).take n

def slices (n : Nat) (xs : List α) : List (Nat × List α) :=
  (List.range (xs.length / n)).map fun k => (k, slice n xs k)

def remainder (n : Nat) (xs : List α) : List α := xs.drop (xs.length / n * n)

@[simp] theorem slices_nil : slices n ([] : List α) = [] := by
  simp [slices]

@[simp] theorem remainder_nil : remainder n ([] : List α) = [] := by
  simp [remainder]

@[simp] theorem length_remainder : (remainder n xs).length = xs.length % n := by
  rw [remainder, List.length_drop, Nat.mod_eq_sub_div_mul]

theorem slice_append {k : Nat} (h : k * n + n ≤ xs.length) :
    slice n (xs ++ ys) k = slice n xs k := by
  rw [slice, slice, List.drop_append_of_le_length (by omega), List.take_append_of_le_length]
  rw [List.length_drop]
  omega

/-- The parts of the stream are those of the longer one. -/
theorem slices_eq (xs ys : List α) :
    slices n xs = (List.range (xs.length / n)).map fun k => (k, slice n (xs ++ ys) k) := by
  apply List.map_congr_left
  intro k hk
  have hle : (k + 1) * n ≤ xs.length :=
    Nat.le_trans (Nat.mul_le_mul_right n (List.mem_range.mp hk)) (Nat.div_mul_le_self _ _)
  rw [slice_append (by rwa [Nat.succ_mul] at hle)]

theorem length_append_div (hn : 0 < n) : (xs ++ ys).length / n =
    xs.length / n + ((remainder n xs).length + ys.length) / n := by
  have hsplit := Nat.div_add_mod xs.length n
  rw [length_remainder, List.length_append]
  conv_lhs => rw [← hsplit, Nat.add_assoc, Nat.mul_add_div hn]

theorem remainder_append_eq (hn : 0 < n) : remainder n (xs ++ ys) =
    (remainder n xs ++ ys).drop (((remainder n xs).length + ys.length) / n * n) := by
  have hstart : xs.length / n * n ≤ xs.length := Nat.div_mul_le_self _ _
  rw [remainder, length_append_div hn, Nat.add_mul, ← List.drop_drop,
    List.drop_append_of_le_length hstart]
  rfl

/-! ## The current part stays open -/

theorem slices_append_of_lt (h : (remainder n xs).length + ys.length < n) :
    slices n (xs ++ ys) = slices n xs := by
  rw [slices_eq xs ys, slices, length_append_div (by omega), Nat.div_eq_of_lt h,
    Nat.add_zero]

theorem remainder_append_of_lt (h : (remainder n xs).length + ys.length < n) :
    remainder n (xs ++ ys) = remainder n xs ++ ys := by
  rw [remainder_append_eq (by omega), Nat.div_eq_of_lt h, Nat.zero_mul, List.drop_zero]

/-! ## The current part is filled -/

theorem slices_append_of_eq (hn : 0 < n) (h : (remainder n xs).length + ys.length = n) :
    slices n (xs ++ ys) = slices n xs ++ [(xs.length / n, remainder n xs ++ ys)] := by
  have hstart : xs.length / n * n ≤ xs.length := Nat.div_mul_le_self _ _
  have hlast : slice n (xs ++ ys) (xs.length / n) = remainder n xs ++ ys := by
    rw [slice, List.drop_append_of_le_length hstart]
    exact List.take_of_length_le (Nat.le_of_eq (List.length_append.trans h))
  rw [slices_eq xs ys, slices, length_append_div hn, h, Nat.div_self hn, List.range_succ,
    List.map_append, List.map_singleton, hlast]

theorem remainder_append_of_eq (hn : 0 < n) (h : (remainder n xs).length + ys.length = n) :
    remainder n (xs ++ ys) = [] := by
  rw [remainder_append_eq hn, h, Nat.div_self hn, Nat.one_mul]
  exact List.drop_of_length_le (Nat.le_of_eq (List.length_append.trans h))

end VRCStreamer.Codec
