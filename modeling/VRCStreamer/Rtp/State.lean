import VRCStreamer.Codec.BigEndian

/-!
# RTP counters

`RtpState` of `rtsp.rs`: the numbers of the next packet and the totals that sender
reports carry. All of them wrap at their own width.
-/

namespace VRCStreamer

structure RtpState where
  sequence : UInt16 := 0
  timestamp : UInt32 := 0
  packetCount : UInt32 := 0
  octetCount : UInt32 := 0
  deriving DecidableEq, Repr

namespace RtpState

def recordPacket (rtp : RtpState) (payloadBytes : Nat) : RtpState :=
  { rtp with
    sequence := rtp.sequence + 1
    packetCount := rtp.packetCount + 1
    octetCount := rtp.octetCount + UInt32.ofNat payloadBytes }

def advanceBy (rtp : RtpState) (timestampDelta : UInt32) (payloadBytes : Nat) : RtpState :=
  { rtp with timestamp := rtp.timestamp + timestampDelta }.recordPacket payloadBytes

/-- The state after packets with these payload sizes, all with one timestamp. -/
def recordPackets (rtp : RtpState) (sizes : List Nat) : RtpState :=
  sizes.foldl recordPacket rtp

@[simp] theorem recordPackets_nil (rtp : RtpState) : rtp.recordPackets [] = rtp := rfl

@[simp] theorem recordPackets_cons (rtp : RtpState) (size : Nat) (sizes : List Nat) :
    rtp.recordPackets (size :: sizes) = (rtp.recordPacket size).recordPackets sizes := rfl

theorem recordPackets_append (rtp : RtpState) (left right : List Nat) :
    rtp.recordPackets (left ++ right) = (rtp.recordPackets left).recordPackets right :=
  List.foldl_append

/-- The counters advance by the number of packets and by the sum of their payloads. -/
theorem recordPackets_eq (rtp : RtpState) (sizes : List Nat) :
    rtp.recordPackets sizes =
      { sequence := rtp.sequence + UInt16.ofNat sizes.length
        timestamp := rtp.timestamp
        packetCount := rtp.packetCount + UInt32.ofNat sizes.length
        octetCount := rtp.octetCount + UInt32.ofNat sizes.sum } := by
  induction sizes generalizing rtp with
  | nil => simp
  | cons size sizes ih =>
    rw [recordPackets_cons, ih]
    simp only [recordPacket, List.length_cons, List.sum_cons, mk.injEq, true_and]
    refine ⟨?_, ?_, ?_⟩
    · rw [UInt16.ofNat_add, UInt16.add_assoc, UInt16.add_comm 1]
      rfl
    · rw [UInt32.ofNat_add, UInt32.add_assoc, UInt32.add_comm 1]
      rfl
    · rw [UInt32.ofNat_add, UInt32.add_assoc]

@[simp] theorem recordPackets_timestamp (rtp : RtpState) (sizes : List Nat) :
    (rtp.recordPackets sizes).timestamp = rtp.timestamp := by
  rw [recordPackets_eq]

end RtpState

end VRCStreamer
