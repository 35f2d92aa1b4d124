import VRCStreamer.Text.Fields

/-!
# Decimal numerals

Numbers that a formatter wrote are read back by the parsers, and trimming leaves them alone.
-/

namespace VRCStreamer.Text

variable {c : Char} {text : Text} {n bound : Nat}

theorem isDigit_of_mem_decimal (h : c ∈ decimal n) : c.isDigit = true :=
  Nat.isDigit_of_mem_toDigits (by decide) (by decide) h

theorem decimal_digits (n : Nat) : (decimal n).all Char.isDigit = true :=
  List.all_eq_true.mpr fun _ h => isDigit_of_mem_decimal h

theorem decimal_ne_nil (n : Nat) : decimal n ≠ [] := Nat.toDigits_ne_nil

theorem numeral_decimal (n : Nat) : numeral (decimal n) = n :=
  Nat.ofDigitChars_toDigits (by decide) (by decide)

theorem parseUnsigned_decimal (h : n < bound) : parseUnsigned bound (decimal n) = some n := by
  rw [parseUnsigned_numeral (decimal_ne_nil n) (decimal_digits n), numeral_decimal, if_pos h]

/-- The codes of the digits. -/
theorem isDigit_bounds (h : c.isDigit = true) : 48 ≤ c.toNat ∧ c.toNat ≤ 57 := by
  rw [Char.isDigit, Bool.and_eq_true, decide_eq_true_iff, decide_eq_true_iff] at h
  exact h

theorem isWhitespace_of_isDigit (h : c.isDigit = true) : isWhitespace c = false := by
  have hcode := isDigit_bounds h
  simp only [isWhitespace, Bool.or_eq_false_iff, Bool.and_eq_false_iff, decide_eq_false_iff_not,
    beq_eq_false_iff_ne]
  omega

/-- What has no blank at all has none at its ends. -/
theorem dropWhile_of_solid {isBlank : Char → Bool} (h : ∀ c ∈ text, isBlank c = false) :
    (text.dropWhile isBlank).rdropWhile isBlank = text := by
  have hfront : text.dropWhile isBlank = text := by
    rw [List.dropWhile_eq_self_iff]
    intro hne
    rw [h _ (List.getElem_mem hne)]
    exact Bool.false_ne_true
  rw [hfront, List.rdropWhile_eq_self_iff]
  intro hne
  rw [h _ (List.getLast_mem hne)]
  exact Bool.false_ne_true

theorem trim_of_solid (h : ∀ c ∈ text, isWhitespace c = false) : trim text = text :=
  dropWhile_of_solid h

end VRCStreamer.Text
