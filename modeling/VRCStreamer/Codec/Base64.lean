import Mathlib.Data.List.GetD
import VRCStreamer.Codec.BigEndian

/-!
# Base64

The standard alphabet with padding: three bytes make four characters.
-/

namespace VRCStreamer.Codec

def base64Alphabet : List Char :=
  "ABCDEFGHIJKLMNOPQRSTUVWXYZabcdefghijklmnopqrstuvwxyz0123456789+/".toList

/-- The character of the lowest six bits. -/
def base64Digit (n : Nat) : Char := base64Alphabet.getD (n % 64) 'A'

def base64 : Bytes → List Char
  | [] => []
  | [a] =>
    let n := a.toNat * 65536
    [base64Digit (n / 262144), base64Digit (n / 4096), '=', '=']
  | [a, b] =>
    let n := a.toNat * 65536 + b.toNat * 256
    [base64Digit (n / 262144), base64Digit (n / 4096), base64Digit (n / 64), '=']
  | a :: b :: c :: bytes =>
    let n := a.toNat * 65536 + b.toNat * 256 + c.toNat
    base64Digit (n / 262144) :: base64Digit (n / 4096) :: base64Digit (n / 64) :: base64Digit n ::
      base64 bytes

example : base64 [0x67, 0x42, 0xe0, 0x1f, 0x80] = "Z0LgH4A=".toList := by decide

theorem base64Digit_mem (n : Nat) : base64Digit n ∈ base64Alphabet := by
  have hlength : n % 64 < base64Alphabet.length := Nat.mod_lt n (by decide)
  rw [base64Digit, List.getD_eq_getElem _ _ hlength]
  exact List.getElem_mem hlength

/-- An encoding has characters of the alphabet and the padding. -/
theorem mem_base64 {bytes : Bytes} {c : Char} (h : c ∈ base64 bytes) :
    c ∈ base64Alphabet ∨ c = '=' := by
  fun_induction base64 bytes with
  | case1 => cases h
  | case2 a n =>
    simp only [List.mem_cons, List.not_mem_nil, or_false] at h
    obtain rfl | rfl | rfl | rfl := h
    · exact .inl (base64Digit_mem _)
    · exact .inl (base64Digit_mem _)
    · exact .inr rfl
    · exact .inr rfl
  | case3 a b n =>
    simp only [List.mem_cons, List.not_mem_nil, or_false] at h
    obtain rfl | rfl | rfl | rfl := h
    · exact .inl (base64Digit_mem _)
    · exact .inl (base64Digit_mem _)
    · exact .inl (base64Digit_mem _)
    · exact .inr rfl
  | case4 a b c' bytes n ih =>
    simp only [List.mem_cons] at h
    obtain rfl | rfl | rfl | rfl | h := h
    · exact .inl (base64Digit_mem _)
    · exact .inl (base64Digit_mem _)
    · exact .inl (base64Digit_mem _)
    · exact .inl (base64Digit_mem _)
    · exact ih h

end VRCStreamer.Codec
