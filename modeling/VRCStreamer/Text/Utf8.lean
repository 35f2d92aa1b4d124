import VRCStreamer.Codec.BigEndian
import VRCStreamer.Text.Basic

/-!
# UTF-8

`as_bytes` and `String::from_utf8`, which undo each other. A byte below 128 stands for itself and
is part of no other character.
-/

namespace VRCStreamer.Text

open Codec

/-- `as_bytes`. -/
def utf8 (text : Text) : Bytes := text.flatMap String.utf8EncodeChar

/-- `String::from_utf8`. -/
def fromUtf8 (bytes : Bytes) : Option Text := bytes.toByteArray.utf8Decode?.map Array.toList

@[simp] theorem utf8_nil : utf8 [] = [] := rfl

@[simp] theorem utf8_append (left right : Text) : utf8 (left ++ right) = utf8 left ++ utf8 right :=
  List.flatMap_append

@[simp] theorem fromUtf8_utf8 (text : Text) : fromUtf8 (utf8 text) = some text := by
  have hdecode : (utf8 text).toByteArray.utf8Decode? = some text.toArray :=
    List.utf8Decode?_utf8Encode
  rw [fromUtf8, hdecode]
  rfl

/-- An ASCII byte of a character's encoding is the character. -/
theorem eq_of_mem_utf8EncodeChar {c : Char} {b : UInt8} (hb : b.toNat < 128)
    (h : b ∈ String.utf8EncodeChar c) : c.toNat = b.toNat := by
  rw [String.utf8EncodeChar] at h
  have hv : c.val.toNat = c.toNat := rfl
  simp only [hv] at h
  split at h
  next hsmall =>
    rw [List.mem_singleton.mp h, UInt8.toNat_ofNat']
    omega
  next =>
    -- the bytes of a longer encoding are at least 128
    exfalso
    split at h
    · simp only [List.mem_cons, List.not_mem_nil, or_false] at h
      obtain rfl | rfl := h <;> · rw [UInt8.toNat_ofNat'] at hb; omega
    · split at h
      · simp only [List.mem_cons, List.not_mem_nil, or_false] at h
        obtain rfl | rfl | rfl := h <;> · rw [UInt8.toNat_ofNat'] at hb; omega
      · simp only [List.mem_cons, List.not_mem_nil, or_false] at h
        obtain rfl | rfl | rfl | rfl := h <;> · rw [UInt8.toNat_ofNat'] at hb; omega

theorem mem_of_mem_utf8 {text : Text} {b : UInt8} (hb : b.toNat < 128) (h : b ∈ utf8 text) :
    Char.ofNat b.toNat ∈ text := by
  obtain ⟨c, hc, hmem⟩ := List.mem_flatMap.mp h
  rw [← eq_of_mem_utf8EncodeChar hb hmem, Char.ofNat_toNat]
  exact hc

/-- What the first byte of a text says about its first character. -/
theorem head_of_utf8 {text : Text} {b : UInt8} {bytes : Bytes} (hb : b.toNat < 128)
    (h : utf8 text = b :: bytes) : text.head? = some (Char.ofNat b.toNat) := by
  cases text with
  | nil => cases h
  | cons c text =>
    have hmem : b ∈ String.utf8EncodeChar c := by
      have hne := String.utf8EncodeChar_ne_nil (c := c)
      obtain ⟨b', bytes', hc⟩ := List.exists_cons_of_ne_nil hne
      have happend : String.utf8EncodeChar c ++ utf8 text = b :: bytes := h
      rw [hc] at happend ⊢
      cases happend
      exact List.mem_cons_self
    rw [← eq_of_mem_utf8EncodeChar hb hmem, Char.ofNat_toNat]
    rfl

end VRCStreamer.Text
