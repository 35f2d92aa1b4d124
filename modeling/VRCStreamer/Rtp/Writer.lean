import VRCStreamer.Media.AnnexB
import VRCStreamer.Rtp.State

/-!
# The H.264 sender

The `RtpPacketWriter` functions of `rtsp.rs` that turn an access unit into interleaved
RTP packets. Packets collect in the sender's buffer and go out in batches; the socket
is the list of its `write_all` calls, each of them complete. The writer lock is held
from the first write of an access unit to the last, so no other write falls between.
-/

namespace VRCStreamer

open Codec

structure RtpPacketWriter where
  channel : UInt8
  packet : Bytes
  deriving DecidableEq, Repr

/-- What a send function works on: the sender, the socket and the RTP state. -/
structure Sending where
  sender : RtpPacketWriter
  socket : List Bytes
  rtp : RtpState
  deriving DecidableEq, Repr

def RtpPacketWriter.pushRtpInterleavedHeader (sender : RtpPacketWriter) (payloadLen : Nat)
    (payloadType : UInt8) (marker : Bool) (sequence : UInt16) (timestamp ssrc : UInt32) :
    RtpPacketWriter :=
  { sender with
    packet := sender.packet ++ [0x24, sender.channel] ++ be16 (UInt16.ofNat (12 + payloadLen)) ++
      [0x80, (if marker then 0x80 else 0) ||| payloadType] ++ be16 sequence ++ be32 timestamp ++
      be32 ssrc }

namespace Sending

def flushH264Packets (s : Sending) : Sending :=
  if s.sender.packet ≠ [] then
    { s with
      sender := { s.sender with packet := [] }
      socket := s.socket ++ [s.sender.packet] }
  else s

def flushH264BatchIfFull (s : Sending) (payloadLen batchLimit : Nat) : Sending :=
  if s.sender.packet ≠ [] ∧ batchLimit < s.sender.packet.length + 4 + 12 + payloadLen then
    s.flushH264Packets
  else s

/-- The statements that both branches of `send_h264_nal` repeat for each packet: flush
a full batch, push the header and the payload, count the packet. -/
def pushH264Packet (batchLimit : Nat) (s : Sending) (marker : Bool) (payload : Bytes) :
    Sending :=
  let s := s.flushH264BatchIfFull payload.length batchLimit
  let sender := s.sender.pushRtpInterleavedHeader payload.length RTP_VIDEO_PAYLOAD_TYPE marker
    s.rtp.sequence s.rtp.timestamp RTP_VIDEO_SSRC
  { s with
    sender := { sender with packet := sender.packet ++ payload }
    rtp := s.rtp.recordPacket payload.length }

/-- `(nal_header & 0xe0) | 28`. -/
def fuIndicator (nalHeader : UInt8) : UInt8 := (nalHeader &&& 0xe0) ||| 28

/-- The unit type with the start bit and the end bit. -/
def fuHeader (nalHeader : UInt8) (start last : Bool) : UInt8 :=
  (nalHeader &&& 0x1f) ||| (if start then 0x80 else 0) ||| (if last then 0x40 else 0)

/-- The fragmentation loop of `send_h264_nal`. -/
def sendH264Fragments (nal : Bytes) (markerOnLastPacket : Bool) (batchLimit offset : Nat)
    (s : Sending) : Sending :=
  if offset < nal.length then
    let stop := min (offset + (RTP_MAX_PAYLOAD_BYTES - 2)) nal.length
    let start : Bool := offset = 1
    let last : Bool := stop = nal.length
    let payload := fuIndicator (nalHeader nal) :: fuHeader (nalHeader nal) start last ::
      slice nal offset stop
    sendH264Fragments nal markerOnLastPacket batchLimit stop
      (s.pushH264Packet batchLimit (markerOnLastPacket && last) payload)
  else s
termination_by nal.length - offset
decreasing_by
  simp only [RTP_MAX_PAYLOAD_BYTES]
  omega

def sendH264Nal (s : Sending) (nal : Bytes) (markerOnLastPacket : Bool) (batchLimit : Nat) :
    Sending :=
  if nal.length ≤ RTP_MAX_PAYLOAD_BYTES then
    s.pushH264Packet batchLimit markerOnLastPacket nal
  else s.sendH264Fragments nal markerOnLastPacket batchLimit 1

/-- `pending.replace(nal)`: the unit that was waiting is sent without the marker. -/
def replacePending (s : Sending) (batchLimit : Nat) (pending : Option Bytes) : Sending :=
  match pending with
  | some nal => s.sendH264Nal nal false batchLimit
  | none => s

/-- The splitting loop of `send_h264_access_unit`. One unit is held back, since only
the end of the access unit shows which unit is the last. -/
def sendH264Units (accessUnit : Bytes) (batchLimit nalStart : Nat) (pending : Option Bytes)
    (s : Sending) : Option Bytes × Sending :=
  let nalEnd := h264NalEnd accessUnit (findH264StartCode accessUnit nalStart)
  let replaced :=
    if nalStart < nalEnd then
      (some (slice accessUnit nalStart nalEnd), s.replacePending batchLimit pending)
    else (pending, s)
  match _ : findH264StartCode accessUnit nalStart with
  | none => replaced
  | some (start, len) =>
    sendH264Units accessUnit batchLimit (start + len) replaced.1 replaced.2
termination_by accessUnit.length - nalStart
decreasing_by
  have := findH264StartCode_bounds (by assumption)
  omega

end Sending

def h264BatchLimit (batchWrites : Bool) : Nat :=
  if batchWrites then RTP_TCP_WRITE_BATCH_BYTES else RTP_PACKET_BUFFER_BYTES

/-- The result holds the writes of this call. Left-over bytes of the buffer are
dropped before the first packet. -/
def sendH264AccessUnit (sender : RtpPacketWriter) (accessUnit : Bytes)
    (singleNal batchWrites : Bool) (rtp : RtpState) : Except String Sending :=
  match startH264Payload accessUnit with
  | .error reason => .error reason
  | .ok nalStart =>
    let batchLimit := h264BatchLimit batchWrites
    let s : Sending := { sender := { sender with packet := [] }, socket := [], rtp }
    if singleNal then
      .ok (s.sendH264Nal (accessUnit.drop nalStart) true batchLimit).flushH264Packets
    else
      match s.sendH264Units accessUnit batchLimit nalStart none with
      | (none, _) => .error "h264 access unit has no nal units"
      | (some nal, s) => .ok (s.sendH264Nal nal true batchLimit).flushH264Packets

end VRCStreamer
