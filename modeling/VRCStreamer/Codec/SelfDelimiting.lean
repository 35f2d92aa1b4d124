import VRCStreamer.Codec.BigEndian

/-!
# Self-delimiting codes

A code is self-delimiting when one encoded value can be read off the front of any
byte string. A concatenation of encoded values then splits in exactly one way, and
the reader below finds that way. Nothing here depends on what the values are.
-/

namespace VRCStreamer.Codec

/-- An encoder and a reader that undoes it in front of arbitrary further bytes.
Only valid values have to be readable; a length field usually limits them. -/
structure SelfDelimiting (α : Type*) where
  Valid : α → Prop
  encode : α → Bytes
  decode : Bytes → Option (α × Bytes)
  decode_encode : ∀ a rest, Valid a → decode (encode a ++ rest) = some (a, rest)
  decode_shorter : ∀ bytes a rest, decode bytes = some (a, rest) → rest.length < bytes.length

namespace SelfDelimiting

variable {α : Type*} (code : SelfDelimiting α)

/-- Read values until the bytes are used up; fail when the last one is incomplete. -/
def decodeAll (bytes : Bytes) : Option (List α) :=
  if bytes = [] then some []
  else
    match h : code.decode bytes with
    | none => none
    | some (a, rest) =>
      have := code.decode_shorter bytes a rest h
      (decodeAll rest).map (a :: ·)
termination_by bytes.length

def encodeAll (values : List α) : Bytes := values.flatMap code.encode

@[simp] theorem encodeAll_nil : code.encodeAll [] = [] := rfl

@[simp] theorem encodeAll_cons (a : α) (values : List α) :
    code.encodeAll (a :: values) = code.encode a ++ code.encodeAll values := rfl

@[simp] theorem encodeAll_append (left right : List α) :
    code.encodeAll (left ++ right) = code.encodeAll left ++ code.encodeAll right :=
  List.flatMap_append

/-- An encoded value cannot be empty: reading it has to make progress. -/
theorem encode_ne_nil {a : α} (ha : code.Valid a) : code.encode a ≠ [] := by
  intro hnil
  have hread := code.decode_encode a [] ha
  have hshort := code.decode_shorter _ _ _ hread
  simp [hnil] at hshort

@[simp] theorem decodeAll_nil : code.decodeAll [] = some [] := by
  unfold decodeAll
  simp

theorem decodeAll_encode_append {a : α} (ha : code.Valid a) (rest : Bytes) :
    code.decodeAll (code.encode a ++ rest) = (code.decodeAll rest).map (a :: ·) := by
  rw [decodeAll]
  have hne : code.encode a ++ rest ≠ [] := by
    simp [code.encode_ne_nil ha]
  rw [if_neg hne]
  split
  next h => rw [code.decode_encode a rest ha] at h; cases h
  next b more h =>
    rw [code.decode_encode a rest ha] at h
    cases h
    rfl

/-- The reader splits a concatenation of valid values into exactly those values. -/
theorem decodeAll_encodeAll {values : List α} (valid : ∀ a ∈ values, code.Valid a) :
    code.decodeAll (code.encodeAll values) = some values := by
  induction values with
  | nil => exact code.decodeAll_nil
  | cons a values ih =>
    rw [encodeAll_cons, code.decodeAll_encode_append (valid a List.mem_cons_self),
      ih (fun b hb => valid b (List.mem_cons_of_mem _ hb))]
    rfl

end SelfDelimiting

end VRCStreamer.Codec
