import VRCStreamer.Codec.SelfDelimiting

/-!
# RTP packets on an interleaved connection

The receiving side of the media stream: the fixed RTP header, the interleaved frames
that carry RTP and RTCP over the RTSP connection, and the H.264 receiver that turns
packet payloads back into NAL units (single-unit packets and FU-A fragments). These
definitions say what the bytes mean; the sender in `Rtp.Writer` never uses them.
-/

namespace VRCStreamer

open Codec

/-- A frame `'$'`, channel, 16-bit length, payload. -/
structure InterleavedFrame where
  channel : UInt8
  payload : Bytes
  deriving DecidableEq, Repr

namespace InterleavedFrame

def encode (frame : InterleavedFrame) : Bytes :=
  0x24 :: frame.channel :: (be16 (UInt16.ofNat frame.payload.length) ++ frame.payload)

def decode : Bytes → Option (InterleavedFrame × Bytes)
  | magic :: channel :: hi :: lo :: rest =>
    let len := (read16 hi lo).toNat
    if magic = 0x24 ∧ len ≤ rest.length then some (⟨channel, rest.take len⟩, rest.drop len)
    else none
  | _ => none

/-- Frames split off any byte string as long as their length fits in its field. -/
def code : SelfDelimiting InterleavedFrame where
  Valid frame := frame.payload.length < 65536
  encode := encode
  decode := decode
  decode_encode := by
    intro frame rest valid
    have hlen := read16_ofNat_toNat valid
    simp only [encode, be16, decode, List.cons_append, List.nil_append, read16_be16]
    simp [hlen]
  decode_shorter := by
    intro bytes frame rest h
    unfold decode at h
    split at h
    next magic channel hi lo more =>
      dsimp only at h
      split at h
      next =>
        cases h
        simp only [List.length_drop, List.length_cons]
        omega
      next => cases h
    next => cases h

end InterleavedFrame

/-- An RTP packet with the fixed header and no padding, extension or sources. -/
structure RtpPacket where
  marker : Bool
  payloadType : UInt8
  sequence : UInt16
  timestamp : UInt32
  ssrc : UInt32
  payload : Bytes
  deriving DecidableEq, Repr

namespace RtpPacket

def encode (packet : RtpPacket) : Bytes :=
  [0x80, (if packet.marker then 0x80 else 0) ||| packet.payloadType] ++
    be16 packet.sequence ++ be32 packet.timestamp ++ be32 packet.ssrc ++ packet.payload

def decode : Bytes → Option RtpPacket
  | version :: kind :: s1 :: s0 :: t3 :: t2 :: t1 :: t0 :: c3 :: c2 :: c1 :: c0 :: payload =>
    if version = 0x80 then
      some
        { marker := kind &&& 0x80 ≠ 0
          payloadType := kind &&& 0x7f
          sequence := read16 s1 s0
          timestamp := read32 t3 t2 t1 t0
          ssrc := read32 c3 c2 c1 c0
          payload }
    else none
  | _ => none

theorem marker_bits (marker : Bool) (payloadType : UInt8) (h : payloadType &&& 0x80 = 0) :
    decide (((if marker then 0x80 else 0) ||| payloadType) &&& 0x80 ≠ 0) = marker ∧
      ((if marker then 0x80 else 0) ||| payloadType) &&& 0x7f = payloadType := by
  revert h
  have bits : ∀ n < 256, ∀ m : Bool, UInt8.ofNat n &&& 0x80 = 0 →
      decide (((if m then 0x80 else 0) ||| UInt8.ofNat n) &&& 0x80 ≠ 0) = m ∧
        ((if m then 0x80 else 0) ||| UInt8.ofNat n) &&& 0x7f = UInt8.ofNat n := by
    decide +kernel
  exact byte_forall (p := fun b => b &&& 0x80 = 0 →
    decide (((if marker then 0x80 else 0) ||| b) &&& 0x80 ≠ 0) = marker ∧
      ((if marker then 0x80 else 0) ||| b) &&& 0x7f = b) (fun n hn => bits n hn marker) payloadType

theorem decode_encode (packet : RtpPacket) (h : packet.payloadType &&& 0x80 = 0) :
    decode packet.encode = some packet := by
  obtain ⟨marker, kind⟩ := marker_bits packet.marker packet.payloadType h
  simp only [encode, be16, be32, List.cons_append, List.nil_append, decode, read16_be16,
    read32_be32, if_true, marker, kind]

@[simp] theorem encode_length (packet : RtpPacket) :
    packet.encode.length = 12 + packet.payload.length := by
  simp [encode]
  omega

end RtpPacket

/-! ## The H.264 receiver -/

/-- What the receiver has so far: complete units and an open fragmented unit. -/
structure H264Receiver where
  units : List Bytes
  fragment : Option Bytes
  deriving DecidableEq, Repr

namespace H264Receiver

def empty : H264Receiver := ⟨[], none⟩

/-- Types 1 to 23 are a whole NAL unit; type 28 is a fragment whose second byte holds
the start bit, the end bit and the type of the fragmented unit. -/
def receive (receiver : H264Receiver) (payload : Bytes) : Option H264Receiver :=
  match payload with
  | [] => none
  | indicator :: body =>
    let kind := (indicator &&& 0x1f).toNat
    if 1 ≤ kind ∧ kind ≤ 23 then
      match receiver.fragment with
      | none => some { receiver with units := receiver.units ++ [payload] }
      | some _ => none
    else if kind = 28 then
      match body with
      | [] => none
      | header :: chunk =>
        let first := header &&& 0x80 ≠ 0
        let last := header &&& 0x40 ≠ 0
        match receiver.fragment with
        | none =>
          if first ∧ ¬ last then
            some { receiver with
              fragment := some (((indicator &&& 0xe0) ||| (header &&& 0x1f)) :: chunk) }
          else none
        | some fragment =>
          if first then none
          else if last then
            some { units := receiver.units ++ [fragment ++ chunk], fragment := none }
          else some { receiver with fragment := some (fragment ++ chunk) }
    else none

def receiveAll (receiver : H264Receiver) (payloads : List Bytes) : Option H264Receiver :=
  payloads.foldlM receive receiver

/-- The units recovered from all payloads of a stream; no fragment may stay open. -/
def recovered (payloads : List Bytes) : Option (List Bytes) :=
  match empty.receiveAll payloads with
  | some ⟨units, none⟩ => some units
  | _ => none

@[simp] theorem receiveAll_nil (receiver : H264Receiver) :
    receiver.receiveAll [] = some receiver := rfl

@[simp] theorem receiveAll_cons (receiver : H264Receiver) (payload : Bytes)
    (payloads : List Bytes) :
    receiver.receiveAll (payload :: payloads) =
      (receiver.receive payload).bind (·.receiveAll payloads) := rfl

theorem receiveAll_append (receiver : H264Receiver) (left right : List Bytes) :
    receiver.receiveAll (left ++ right) =
      (receiver.receiveAll left).bind (·.receiveAll right) :=
  List.foldlM_append

end H264Receiver

end VRCStreamer
