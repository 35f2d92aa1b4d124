import VRCStreamer.Codec.BigEndian

/-!
# Bit fields

Fields of any number of bits, the most significant bit first, as they are packed into bytes. A
field that was written is read back whatever follows it, and a number splits into the fields of its
upper and lower bits.
-/

namespace VRCStreamer.Codec

/-- The lowest bits of a number. -/
def bits : Nat → Nat → List Bool
  | 0, _ => []
  | width + 1, n => n.testBit width :: bits width n

/-- The number that bits stand for. -/
def number (field : List Bool) : Nat := field.foldl (fun n bit => 2 * n + bit.toNat) 0

/-- A field of some bits, and the bits behind it. -/
def readBits (width : Nat) (field : List Bool) : Option (Nat × List Bool) :=
  if field.length < width then none else some (number (field.take width), field.drop width)

def bytesBits (bytes : Bytes) : List Bool := bytes.flatMap (fun byte => bits 8 byte.toNat)

@[simp] theorem bits_length (width n : Nat) : (bits width n).length = width := by
  induction width with
  | zero => rfl
  | succ width ih => rw [bits, List.length_cons, ih]

/-- Bits above the width do not matter. -/
theorem bits_mod (width n : Nat) : bits width (n % 2 ^ width) = bits width n := by
  have hmod : ∀ k ≤ width, bits k (n % 2 ^ width) = bits k n := by
    intro k hk
    induction k with
    | zero => rfl
    | succ k ih =>
      rw [bits, bits, ih (by omega), Nat.testBit_mod_two_pow, decide_eq_true (by omega),
        Bool.true_and]
  exact hmod width (Nat.le_refl width)

/-- A number splits into its upper and its lower bits. -/
theorem bits_append (upper lower n : Nat) :
    bits upper (n / 2 ^ lower) ++ bits lower n = bits (upper + lower) n := by
  induction upper with
  | zero => rw [Nat.zero_add, bits, List.nil_append]
  | succ upper ih =>
    rw [Nat.succ_add, bits, bits, List.cons_append, ih, Nat.testBit_div_two_pow]

theorem foldl_bits (width n start : Nat) :
    (bits width n).foldl (fun n bit => 2 * n + bit.toNat) start =
      start * 2 ^ width + n % 2 ^ width := by
  induction width generalizing start with
  | zero => simp [bits, Nat.mod_one]
  | succ width ih =>
    rw [bits, List.foldl_cons, ih, Nat.toNat_testBit, Nat.pow_succ, Nat.mod_mul, Nat.add_mul,
      Nat.mul_comm (2 ^ width) 2, ← Nat.mul_assoc, Nat.mul_comm start 2,
      Nat.mul_comm (2 ^ width) (_ % 2)]
    omega

theorem number_bits {width n : Nat} (h : n < 2 ^ width) : number (bits width n) = n := by
  rw [number, foldl_bits, Nat.zero_mul, Nat.zero_add, Nat.mod_eq_of_lt h]

/-- What was written is read back. -/
theorem readBits_bits {width n : Nat} (h : n < 2 ^ width) (rest : List Bool) :
    readBits width (bits width n ++ rest) = some (n, rest) := by
  have hlength : ¬ (bits width n ++ rest).length < width := by
    rw [List.length_append, bits_length]
    omega
  rw [readBits, if_neg hlength, List.take_left' (bits_length width n),
    List.drop_left' (bits_length width n), number_bits h]

theorem readBits_length {width n : Nat} {field rest : List Bool}
    (h : readBits width field = some (n, rest)) : rest.length + width = field.length := by
  rw [readBits] at h
  split at h
  next => cases h
  next hlength =>
    obtain ⟨-, rfl⟩ := Prod.mk.inj (Option.some.inj h)
    rw [List.length_drop]
    omega

/-- A 16-bit word in two bytes. -/
theorem bytesBits_word (n : Nat) :
    bytesBits [UInt8.ofNat (n / 2 ^ 8), UInt8.ofNat n] = bits 16 n := by
  have hbyte : ∀ n, bits 8 (UInt8.ofNat n).toNat = bits 8 n := by
    intro n
    rw [UInt8.toNat_ofNat']
    exact bits_mod 8 n
  rw [bytesBits, List.flatMap_cons, List.flatMap_cons, List.flatMap_nil, List.append_nil, hbyte,
    hbyte, bits_append]

end VRCStreamer.Codec
