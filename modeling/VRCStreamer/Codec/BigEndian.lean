import Mathlib.Algebra.Group.Int.Defs
import Mathlib.Algebra.GroupWithZero.Nat
import Mathlib.Data.List.Basic

/-!
# Byte strings and big-endian integers

Network formats write 16- and 32-bit words with the most significant byte first.
The readers below invert the writers on every word, so a packet format that is a
concatenation of such fields can be parsed field by field.
-/

namespace VRCStreamer.Codec

abbrev Bytes := List UInt8

def be16 (n : UInt16) : Bytes :=
  [UInt8.ofNat (n.toNat / 256), UInt8.ofNat n.toNat]

def be32 (n : UInt32) : Bytes :=
  [UInt8.ofNat (n.toNat / 16777216), UInt8.ofNat (n.toNat / 65536),
    UInt8.ofNat (n.toNat / 256), UInt8.ofNat n.toNat]

def read16 (a b : UInt8) : UInt16 := UInt16.ofNat (a.toNat * 256 + b.toNat)

def read32 (a b c d : UInt8) : UInt32 :=
  UInt32.ofNat (a.toNat * 16777216 + b.toNat * 65536 + c.toNat * 256 + d.toNat)

@[simp] theorem be16_length (n : UInt16) : (be16 n).length = 2 := rfl

@[simp] theorem be32_length (n : UInt32) : (be32 n).length = 4 := rfl

@[simp] theorem read16_be16 (n : UInt16) :
    read16 (UInt8.ofNat (n.toNat / 256)) (UInt8.ofNat n.toNat) = n := by
  apply UInt16.toNat_inj.mp
  have hn := n.toNat_lt
  simp only [read16, UInt16.toNat_ofNat', UInt8.toNat_ofNat']
  omega

@[simp] theorem read32_be32 (n : UInt32) :
    read32 (UInt8.ofNat (n.toNat / 16777216)) (UInt8.ofNat (n.toNat / 65536))
      (UInt8.ofNat (n.toNat / 256)) (UInt8.ofNat n.toNat) = n := by
  apply UInt32.toNat_inj.mp
  have hn := n.toNat_lt
  simp only [read32, UInt32.toNat_ofNat', UInt8.toNat_ofNat']
  omega

/-- A length that fits in 16 bits survives the cast, the write and the read. -/
theorem read16_ofNat_toNat {n : Nat} (hn : n < 65536) :
    (UInt16.ofNat n).toNat = n := by
  simpa using Nat.mod_eq_of_lt hn

/-- Bitwise identities of single bytes are checked on all 256 values. -/
theorem byte_forall {p : UInt8 → Prop} (h : ∀ n < 256, p (UInt8.ofNat n)) (b : UInt8) : p b := by
  have hb := h b.toNat b.toNat_lt
  simpa using hb

end VRCStreamer.Codec
