import VRCStreamer.Text.Numerals
import VRCStreamer.Text.Runs
import VRCStreamer.Text.Utf8

/-!
# Values on a line

What a line that was read from a stream holds, and what a line can hold so that it is read back:
no line break, and no blank at the ends of a value. Words, numerals and trimmed values are such.
-/

namespace VRCStreamer.Text

open Codec

variable {c : Char} {text more : Text} {n : Nat}

/-! ## Words -/

/-- A text without blanks. -/
def Solid (text : Text) : Prop := ∀ c ∈ text, isWhitespace c = false

instance (text : Text) : Decidable (Solid text) := List.decidableBAll _ text

namespace Solid

theorem append (h : Solid text) (hmore : Solid more) : Solid (text ++ more) := by
  intro c hc
  obtain hc | hc := List.mem_append.mp hc
  · exact h c hc
  · exact hmore c hc

theorem subset (h : Solid text) (hsubset : more ⊆ text) : Solid more :=
  fun c hc => h c (hsubset hc)

theorem decimal (n : Nat) : Solid (decimal n) :=
  fun _ hc => isWhitespace_of_isDigit (isDigit_of_mem_decimal hc)

theorem digitChar : ∀ d < 16, isWhitespace (Nat.digitChar d) = false := by decide

theorem toDigits (n : Nat) : Solid (Nat.toDigits 16 n) := by
  induction n using Nat.strong_induction_on with
  | _ n ih =>
    by_cases hsmall : n < 16
    · rw [Nat.toDigits_of_lt_base hsmall]
      intro c hc
      rw [List.mem_singleton.mp hc]
      exact digitChar n hsmall
    · rw [Nat.toDigits_of_base_le (by decide) (Nat.le_of_not_lt hsmall)]
      apply (ih (n / 16) (by omega)).append
      intro c hc
      rw [List.mem_singleton.mp hc]
      exact digitChar _ (Nat.mod_lt n (by decide))

theorem hex (width n : Nat) : Solid (hex width n) := by
  rw [Text.hex, List.leftpad]
  refine append ?_ (toDigits n)
  intro c hc
  rw [List.eq_of_mem_replicate hc]
  decide

end Solid

theorem solid_of_mem_splitWhitespace {piece : Text} (h : piece ∈ splitWhitespace text) :
    Solid piece := by
  have hruns : splitWhitespace text = runs isWhitespace text := by
    rw [splitWhitespace, runs]
    apply List.filter_congr
    intro piece _
    cases piece <;> simp
  rw [hruns] at h
  exact (mem_runs_iff.mp h).solid

/-! ## Values -/

/-- A text that can stand between a colon and the end of its line. -/
structure IsValue (text : Text) : Prop where
  line : '\n' ∉ text
  trimmed : trim text = text

theorem isValue_iff : IsValue text ↔ '\n' ∉ text ∧ trim text = text :=
  ⟨fun h => ⟨h.line, h.trimmed⟩, fun h => ⟨h.1, h.2⟩⟩

instance (text : Text) : Decidable (IsValue text) := decidable_of_iff' _ isValue_iff

theorem Solid.isValue (h : Solid text) : IsValue text where
  line hmem := Bool.noConfusion (h _ hmem)
  trimmed := trim_of_solid h

theorem trim_subset (text : Text) : trim text ⊆ text :=
  fun _ hc => (List.dropWhile_suffix _).subset ((List.rdropWhile_prefix _ _).subset hc)

/-- A value has been trimmed once and for all. -/
theorem trim_trim (text : Text) : trim (trim text) = trim text := by
  have hfront : (trim text).dropWhile isWhitespace = trim text := by
    rw [List.dropWhile_eq_self_iff]
    intro hpos hblank
    obtain ⟨rest, hrest⟩ : trim text <+: text.dropWhile isWhitespace :=
      List.rdropWhile_prefix _ _
    have hlong : 0 < (text.dropWhile isWhitespace).length := by
      rw [← hrest, List.length_append]
      exact Nat.lt_add_right _ hpos
    have hhead : (trim text)[0] = (text.dropWhile isWhitespace)[0] := by
      simp only [← hrest, List.getElem_append_left hpos]
    rw [hhead] at hblank
    exact List.dropWhile_get_zero_not isWhitespace text hlong hblank
  rw [trim, hfront, trim, List.rdropWhile_idempotent]

/-- A line may end with a line break. -/
theorem isValue_trim (h : '\n' ∉ text.dropLast) : IsValue (trim text) where
  line := by
    intro hmem
    obtain rfl | ⟨init, c, rfl⟩ := List.eq_nil_or_concat' text
    · exact absurd hmem (by decide)
    · rw [List.dropLast_concat] at h
      by_cases hblank : isWhitespace c = true
      · rw [trim_concat hblank] at hmem
        exact h (trim_subset init hmem)
      · have hlast : '\n' ≠ c := by
          rintro rfl
          exact hblank (by decide)
        obtain hinit | hc := List.mem_append.mp (trim_subset _ hmem)
        · exact h hinit
        · exact hlast (List.mem_singleton.mp hc)
  trimmed := trim_trim text

/-! ## Bytes -/

theorem utf8_of_fromUtf8 {bytes : Bytes} (h : fromUtf8 bytes = some text) : utf8 text = bytes := by
  obtain ⟨chars, hchars, rfl⟩ := Option.map_eq_some_iff.mp h
  have hsome : bytes.toByteArray.utf8Decode?.isSome = true := by
    rw [hchars]
    rfl
  have hencode : (bytes.toByteArray.utf8Decode?.get hsome).toList.utf8Encode = bytes.toByteArray :=
    ByteArray.utf8Encode_get_utf8Decode?
  have hget : bytes.toByteArray.utf8Decode?.get hsome = chars := by
    simp only [hchars, Option.get_some]
  rw [hget] at hencode
  exact List.toByteArray_inj.mp hencode

theorem notMem_utf8 {b : UInt8} (hb : b.toNat < 128) (h : Char.ofNat b.toNat ∉ text) :
    b ∉ utf8 text := fun hmem => h (mem_of_mem_utf8 hb hmem)

theorem mem_utf8_lineBreak (h : '\n' ∈ text) : 0x0A ∈ utf8 text :=
  List.mem_flatMap.mpr ⟨'\n', h, by decide⟩

/-- The line break of a line that was read is its last character. -/
theorem notMem_dropLast_of_fromUtf8 {bytes : Bytes} (h : fromUtf8 bytes = some text)
    (hbytes : 0x0A ∉ bytes.dropLast) : '\n' ∉ text.dropLast := by
  intro hmem
  obtain rfl | ⟨init, c, rfl⟩ := List.eq_nil_or_concat' text
  · cases hmem
  · rw [List.dropLast_concat] at hmem
    rw [← utf8_of_fromUtf8 h, utf8_append] at hbytes
    have hlast : utf8 [c] ≠ [] := by
      rw [utf8, List.flatMap_singleton]
      exact String.utf8EncodeChar_ne_nil
    rw [List.dropLast_append_of_ne_nil hlast] at hbytes
    exact hbytes (List.mem_append_left _ (mem_utf8_lineBreak hmem))

end VRCStreamer.Text
