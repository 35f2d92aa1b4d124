import VRCStreamer.Text.Basic

/-!
# Fields of a line

What splitting, trimming and number parsing make of a line that was put together from fields.
-/

namespace VRCStreamer.Text

/-- A word that white space can delimit. -/
structure IsToken (text : Text) : Prop where
  ne_nil : text ≠ []
  solid : ∀ c ∈ text, isWhitespace c = false

theorem isToken_iff {text : Text} :
    IsToken text ↔ text ≠ [] ∧ text.all (fun c => !isWhitespace c) = true := by
  simp only [List.all_eq_true, Bool.not_eq_true']
  exact ⟨fun h => ⟨h.ne_nil, h.solid⟩, fun h => ⟨h.1, h.2⟩⟩

instance (text : Text) : Decidable (IsToken text) := decidable_of_iff' _ isToken_iff

section Split

variable {c : Char} {rest : Text}

theorem splitWhitespace_token {token : Text} (htoken : IsToken token)
    (h : isWhitespace c = true) (rest : Text) :
    splitWhitespace (token ++ c :: rest) = token :: splitWhitespace rest := by
  rw [splitWhitespace, List.splitOnP_append_cons_of_forall_mem htoken.solid c h,
    List.filter_cons_of_pos (by simpa using htoken.ne_nil)]
  rfl

theorem splitOnce_append {name : Text} (h : c ∉ name) (rest : Text) :
    splitOnce [c] (name ++ c :: rest) = some (name, rest) := by
  induction name with
  | nil =>
    rw [List.nil_append, splitOnce, if_pos (by simp)]
    rfl
  | cons first name ih =>
    have hfirst : c ≠ first := List.ne_of_not_mem_cons h
    have hname : c ∉ name := List.not_mem_of_not_mem_cons h
    rw [List.cons_append, splitOnce, if_neg (by simpa using hfirst), ih hname]
    rfl

end Split

section Trim

variable {c : Char}

theorem trim_cons (h : isWhitespace c = true) (text : Text) : trim (c :: text) = trim text := by
  rw [trim, List.dropWhile_cons_of_pos h]
  rfl

theorem trim_concat (h : isWhitespace c = true) (text : Text) : trim (text ++ [c]) = trim text := by
  rw [trim, trim, List.dropWhile_append]
  split
  next hempty =>
    rw [List.isEmpty_iff.mp hempty, List.dropWhile_cons_of_pos h]
    rfl
  next => rw [List.rdropWhile_concat, if_pos h]

end Trim

/-! ## Numerals -/

/-- The number that decimal digits stand for. -/
def numeral (digits : Text) : Nat :=
  digits.foldl (fun value digit => 10 * value + (digit.toNat - '0'.toNat)) 0

theorem parseUnsigned_numeral {digits : Text} (hne : digits ≠ [])
    (hdigits : digits.all Char.isDigit) (bound : Nat) :
    parseUnsigned bound digits =
      if numeral digits < bound then some (numeral digits) else none := by
  have hplus : digits.head? ≠ some '+' := by
    intro hhead
    have hmem := List.mem_of_head? hhead
    have hdigit := List.all_eq_true.mp hdigits '+' hmem
    exact absurd hdigit (by decide)
  have hvalue : digits.foldl (fun value digit => 10 * value + (digit.toNat - '0'.toNat)) 0 =
      numeral digits := rfl
  simp only [parseUnsigned, if_neg hplus, hvalue, hne, hdigits, ne_eq, not_false_eq_true, true_and]

end VRCStreamer.Text
