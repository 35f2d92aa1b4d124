import VRCStreamer.Codec.SelfDelimiting

/-!
# Compound RTCP packets

What the bytes of a compound packet mean to a receiver: packets of whole words behind a header
with a count and a length, sender reports, and source descriptions, whose chunks end with a zero
byte and zeros up to the next word. Nothing here depends on who writes them.
-/

namespace VRCStreamer.Codec.Rtcp

/-! ## Packets -/

/-- A packet without padding of its own: the count of its header, its type and its words. -/
structure Packet where
  count : UInt8
  kind : UInt8
  body : Bytes
  deriving DecidableEq, Repr

namespace Packet

/-- The version and the count share a byte. The length is in words, without the header. -/
def encode (packet : Packet) : Bytes :=
  [0x80 ||| packet.count, packet.kind] ++ be16 (UInt16.ofNat (packet.body.length / 4)) ++
    packet.body

def decode : Bytes → Option (Packet × Bytes)
  | first :: kind :: hi :: lo :: rest =>
    let len := 4 * (read16 hi lo).toNat
    if first &&& 0xe0 = 0x80 ∧ len ≤ rest.length then
      some (⟨first &&& 0x1f, kind, rest.take len⟩, rest.drop len)
    else none
  | _ => none

theorem first_bits {count : UInt8} (h : count < 32) :
    (0x80 ||| count) &&& 0xe0 = 0x80 ∧ (0x80 ||| count) &&& 0x1f = count := by
  revert h
  have bits : ∀ n < 256, UInt8.ofNat n < 32 →
      (0x80 ||| UInt8.ofNat n) &&& 0xe0 = 0x80 ∧
        (0x80 ||| UInt8.ofNat n) &&& 0x1f = UInt8.ofNat n := by
    decide +kernel
  exact byte_forall (p := fun b => b < 32 →
    (0x80 ||| b) &&& 0xe0 = 0x80 ∧ (0x80 ||| b) &&& 0x1f = b) bits count

def code : SelfDelimiting Packet where
  Valid packet := packet.count < 32 ∧ packet.body.length % 4 = 0 ∧ packet.body.length / 4 < 65536
  encode := encode
  decode := decode
  decode_encode := by
    rintro ⟨count, kind, body⟩ rest ⟨hcount, hwords, hshort⟩
    dsimp only at hcount hwords hshort
    obtain ⟨hversion, hbits⟩ := first_bits hcount
    have hlen : 4 * (UInt16.ofNat (body.length / 4)).toNat = body.length := by
      rw [read16_ofNat_toNat hshort]
      omega
    simp only [encode, be16, decode, List.cons_append, List.nil_append, read16_be16, hlen]
    rw [if_pos ⟨hversion, by simp⟩, hbits, List.take_left, List.drop_left]
  decode_shorter := by
    intro bytes packet rest h
    unfold decode at h
    split at h
    next first kind hi lo more =>
      dsimp only at h
      split at h
      next =>
        cases h
        simp only [List.length_drop, List.length_cons]
        omega
      next => cases h
    next => cases h

end Packet

/-! ## Source descriptions -/

structure Item where
  kind : UInt8
  text : Bytes
  deriving DecidableEq, Repr

/-- The type of the canonical name. -/
def CNAME : UInt8 := 1

def Item.encode (item : Item) : Bytes :=
  [item.kind, UInt8.ofNat item.text.length] ++ item.text

structure Item.Valid (item : Item) : Prop where
  kind : item.kind ≠ 0
  text : item.text.length < 256

/-- The items up to a type of zero, which ends their list. -/
def readItems (bytes : Bytes) : Option (List Item × Bytes) :=
  match bytes with
  | [] => none
  | kind :: rest =>
    if kind = 0 then some ([], rest)
    else
      match rest with
      | [] => none
      | len :: text =>
        if len.toNat ≤ text.length then
          (readItems (text.drop len.toNat)).map
            (fun more => (⟨kind, text.take len.toNat⟩ :: more.1, more.2))
        else none
termination_by bytes.length
decreasing_by
  simp only [List.length_drop, List.length_cons]
  omega

structure Chunk where
  ssrc : UInt32
  items : List Item
  deriving DecidableEq, Repr

/-- Chunks start where a word starts and the packet has whole words, so the zeros after the items
go up to where whole words are left. -/
def readChunk : Bytes → Option (Chunk × Bytes)
  | c3 :: c2 :: c1 :: c0 :: bytes =>
    match readItems bytes with
    | none => none
    | some (items, rest) =>
      let padding := rest.length % 4
      if (rest.take padding).all (fun b => b = 0) then
        some (⟨read32 c3 c2 c1 c0, items⟩, rest.drop padding)
      else none
  | _ => none

def readChunks : Nat → Bytes → Option (List Chunk × Bytes)
  | 0, bytes => some ([], bytes)
  | count + 1, bytes =>
    match readChunk bytes with
    | none => none
    | some (chunk, rest) =>
      (readChunks count rest).map (fun more => (chunk :: more.1, more.2))

theorem readItems_zero (rest : Bytes) : readItems (0 :: rest) = some ([], rest) := by
  rw [readItems.eq_def]
  exact if_pos rfl

theorem readItems_encode {item : Item} (h : item.Valid) (rest : Bytes) :
    readItems (item.encode ++ rest) =
      (readItems rest).map (fun more => (item :: more.1, more.2)) := by
  have hlen : (UInt8.ofNat item.text.length).toNat = item.text.length :=
    Nat.mod_eq_of_lt h.text
  rw [readItems.eq_def]
  simp only [Item.encode, List.cons_append, List.nil_append, if_neg h.kind, hlen]
  rw [if_pos (by simp), List.take_left, List.drop_left]

/-- A list of items ends at its first zero. -/
theorem readItems_encodeAll {items : List Item} (h : ∀ item ∈ items, item.Valid) (rest : Bytes) :
    readItems (items.flatMap Item.encode ++ 0 :: rest) = some (items, rest) := by
  induction items with
  | nil => exact readItems_zero rest
  | cons item items ih =>
    obtain ⟨hitem, hitems⟩ := List.forall_mem_cons.mp h
    rw [List.flatMap_cons, List.append_assoc, readItems_encode hitem, ih hitems]
    rfl

/-- The zeros behind the end of a list fill less than a word. -/
theorem readChunk_encode (ssrc : UInt32) {items : List Item} {padding : Nat}
    (h : ∀ item ∈ items, item.Valid) (hpadding : padding < 4) {rest : Bytes}
    (hrest : rest.length % 4 = 0) :
    readChunk (be32 ssrc ++ items.flatMap Item.encode ++
      0 :: (List.replicate padding 0 ++ rest)) = some (⟨ssrc, items⟩, rest) := by
  have hlength : (List.replicate padding (0 : UInt8) ++ rest).length % 4 = padding := by
    rw [List.length_append, List.length_replicate]
    omega
  simp only [be32, List.cons_append, List.nil_append, readChunk, read32_be32,
    readItems_encodeAll h]
  rw [hlength, List.take_left' (List.length_replicate ..),
    List.drop_left' (List.length_replicate ..), if_pos (by simp)]

/-! ## Reports -/

def SENDER_REPORT : UInt8 := 200
def SOURCE_DESCRIPTION : UInt8 := 202

inductive Report
  | sender (ssrc : UInt32) (ntp : UInt32 × UInt32) (rtpTimestamp packetCount octetCount : UInt32)
      (blocks : List Bytes)
  | description (chunks : List Chunk)
  deriving DecidableEq, Repr

/-- Blocks of 24 bytes, as many as the count of the packet. -/
def readBlocks : Nat → Bytes → Option (List Bytes)
  | 0, bytes => if bytes = [] then some [] else none
  | count + 1, bytes =>
    if 24 ≤ bytes.length then (readBlocks count (bytes.drop 24)).map (bytes.take 24 :: ·) else none

def readSender (count : Nat) : Bytes → Option Report
  | c3 :: c2 :: c1 :: c0 :: s3 :: s2 :: s1 :: s0 :: f3 :: f2 :: f1 :: f0 :: t3 :: t2 :: t1 :: t0 ::
      p3 :: p2 :: p1 :: p0 :: o3 :: o2 :: o1 :: o0 :: bytes =>
    (readBlocks count bytes).map
      (.sender (read32 c3 c2 c1 c0) (read32 s3 s2 s1 s0, read32 f3 f2 f1 f0) (read32 t3 t2 t1 t0)
        (read32 p3 p2 p1 p0) (read32 o3 o2 o1 o0))
  | _ => none

/-- No byte may be left over. -/
def readReport (packet : Packet) : Option Report :=
  if packet.kind = SENDER_REPORT then readSender packet.count.toNat packet.body
  else if packet.kind = SOURCE_DESCRIPTION then
    match readChunks packet.count.toNat packet.body with
    | some (chunks, []) => some (.description chunks)
    | _ => none
  else none

theorem readSender_encode (ssrc : UInt32) (ntp : UInt32 × UInt32)
    (rtpTimestamp packetCount octetCount : UInt32) :
    readSender 0 (be32 ssrc ++ be32 ntp.1 ++ be32 ntp.2 ++ be32 rtpTimestamp ++ be32 packetCount ++
      be32 octetCount) = some (.sender ssrc ntp rtpTimestamp packetCount octetCount []) := by
  simp only [be32, List.cons_append, List.nil_append, readSender, read32_be32]
  rfl

/-- A compound packet starts with the report of its sender. -/
def decodeCompound (bytes : Bytes) : Option (List Report) :=
  match (Packet.code.decodeAll bytes).bind (fun packets => packets.mapM readReport) with
  | some (.sender ssrc ntp rtpTimestamp packetCount octetCount blocks :: reports) =>
    some (.sender ssrc ntp rtpTimestamp packetCount octetCount blocks :: reports)
  | _ => none

end VRCStreamer.Codec.Rtcp
