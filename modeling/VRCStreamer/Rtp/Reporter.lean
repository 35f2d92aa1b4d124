import VRCStreamer.Constants
import VRCStreamer.Rtp.Writer

/-!
# Sender reports and AAC packets

The rest of `RtpPacketWriter` and the `RtcpReporter` of `rtsp.rs`. A track starts with a
sender report; later ones come from a timer. Instants are in nanoseconds.
-/

namespace VRCStreamer

open Codec

namespace Sending

/-- The header of the access unit has its size in 13 bits and an index of zero. -/
def sendAac (s : Sending) (accessUnit : Bytes) : Except String Sending :=
  if 65535 < 12 + 2 + 2 + accessUnit.length then .error "rtp packet too large"
  else
    let sender := RtpPacketWriter.pushRtpInterleavedHeader { s.sender with packet := [] }
      (4 + accessUnit.length) RTP_AUDIO_PAYLOAD_TYPE true s.rtp.sequence s.rtp.timestamp
      RTP_AUDIO_SSRC
    let auSize := UInt16.ofNat accessUnit.length
    let packet := sender.packet ++ be16 16 ++
      [(auSize >>> 5).toUInt8, ((auSize &&& 0x1f) <<< 3).toUInt8] ++ accessUnit
    .ok
      { sender := { sender with packet }
        socket := s.socket ++ [packet]
        rtp := s.rtp.advanceBy (UInt32.ofNat AAC_SAMPLES_PER_FRAME) (4 + accessUnit.length) }

/-- `send_h264_access_unit` on a socket that has been written to. -/
def sendH264 (s : Sending) (accessUnit : Bytes) (singleNal batchWrites : Bool) :
    Except String Sending :=
  (sendH264AccessUnit s.sender accessUnit singleNal batchWrites s.rtp).map
    (fun out => { out with socket := s.socket ++ out.socket })

end Sending

/-! ## Sender reports -/

structure RtcpMediaTime where
  rtpTimestamp : UInt32
  publishedAt : Nat
  deriving DecidableEq

/-- The products are made in 64 bits and cut to 32. -/
def projectRtpTimestamp (timestamp : UInt32) (elapsed clockRate : Nat) : UInt32 :=
  let wholeTicks := elapsed / 10 ^ 9 * clockRate % 2 ^ 64
  let fractionalTicks := elapsed % 10 ^ 9 * clockRate / 10 ^ 9
  timestamp + UInt32.ofNat ((wholeTicks + fractionalTicks) % 2 ^ 64)

def RtcpMediaTime.timestampAt (mediaTime : RtcpMediaTime) (now clockRate : Nat) : UInt32 :=
  projectRtpTimestamp mediaTime.rtpTimestamp (now - mediaTime.publishedAt) clockRate

/-- A sender report and a description with the name of the source, padded to whole words. -/
def buildRtcpSenderReport (channel : UInt8) (ssrc : UInt32) (ntp : UInt32 × UInt32)
    (rtpTimestamp : UInt32) (rtp : RtpState) (cname : Bytes) : Bytes :=
  let report := [0x80, RTCP_SENDER_REPORT, 0, 6] ++ be32 ssrc ++ be32 ntp.1 ++ be32 ntp.2 ++
    be32 rtpTimestamp ++ be32 rtp.packetCount ++ be32 rtp.octetCount
  let cname := cname.take 255
  let items := be32 ssrc ++ [1, UInt8.ofNat cname.length] ++ cname ++ [0]
  let padded := items ++ List.replicate ((4 - items.length % 4) % 4) 0
  let description := [0x81, RTCP_SOURCE_DESCRIPTION] ++
    be16 (UInt16.ofNat ((4 + padded.length) / 4 - 1)) ++ padded
  [0x24, channel] ++ be16 (UInt16.ofNat (report.length + description.length)) ++ report ++
    description

/-- `u8::saturating_add(1)`. -/
def saturatingSucc (n : UInt8) : UInt8 := if n = 255 then 255 else n + 1

def Sending.sendSenderReport (s : Sending) (ssrc : UInt32) (mediaTime : RtcpMediaTime)
    (clockRate : Nat) (cname : Bytes) (now : Nat) (ntp : UInt32 × UInt32) : Sending :=
  let packet := buildRtcpSenderReport (saturatingSucc s.sender.channel) ssrc ntp
    (mediaTime.timestampAt now clockRate) s.rtp cname
  { s with
    sender := { s.sender with packet }
    socket := s.socket ++ [packet] }

structure RtcpReporter where
  mediaTime : Option RtcpMediaTime := none
  ssrc : UInt32
  clockRate : Nat
  deriving DecidableEq

namespace RtcpReporter

def started (rtcp : RtcpReporter) : Bool := rtcp.mediaTime.isSome

def record (rtcp : RtcpReporter) (mediaTime : RtcpMediaTime) : RtcpReporter :=
  { rtcp with mediaTime := some mediaTime }

/-- The sending and the time of the next report. -/
def startIfNeeded (rtcp : RtcpReporter) (s : Sending) (mediaTime : RtcpMediaTime)
    (timer : Nat) (cname : Bytes) (now later : Nat) (ntp : UInt32 × UInt32) : Sending × Nat :=
  if rtcp.started then (s, timer)
  else
    (s.sendSenderReport rtcp.ssrc mediaTime rtcp.clockRate cname now ntp,
      later + RTCP_REPORT_INTERVAL)

theorem startIfNeeded_rtp (rtcp : RtcpReporter) (s : Sending) (mediaTime : RtcpMediaTime)
    (timer : Nat) (cname : Bytes) (now later : Nat) (ntp : UInt32 × UInt32) :
    (rtcp.startIfNeeded s mediaTime timer cname now later ntp).1.rtp = s.rtp := by
  rw [startIfNeeded]
  split <;> rfl

def sendReport (rtcp : RtcpReporter) (s : Sending) (cname : Bytes) (now : Nat)
    (ntp : UInt32 × UInt32) : Sending :=
  match rtcp.mediaTime with
  | none => s
  | some mediaTime => s.sendSenderReport rtcp.ssrc mediaTime rtcp.clockRate cname now ntp

end RtcpReporter

/-! ## Access units with their reports -/

structure Transmission where
  sending : Sending
  rtcp : RtcpReporter
  timer : Nat
  error : Option String

/-- The statements that both tracks repeat for each access unit: a report if it is the
first one, the unit itself, and the note of its media time. -/
def RtcpReporter.transmit (rtcp : RtcpReporter) (s : Sending) (mediaTime : RtcpMediaTime)
    (timer : Nat) (cname : Bytes) (now later : Nat) (ntp : UInt32 × UInt32)
    (send : Sending → Except String Sending) : Transmission :=
  let started := rtcp.startIfNeeded s mediaTime timer cname now later ntp
  match send started.1 with
  | .error reason => ⟨started.1, rtcp, started.2, some reason⟩
  | .ok sending => ⟨sending, rtcp.record mediaTime, started.2, none⟩

end VRCStreamer
