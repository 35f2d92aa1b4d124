import VRCStreamer.Rtp.Reporter
import VRCStreamer.Rtp.RoundTrip

/-!
# RTP packets and sender reports on the connection

The client's side of a media task: what it reads from whole interleaved frames, which are RTP
packets and sender reports. Each send function is shown to write whole frames only, and which
ones: what its buffer held before does not matter.
-/

namespace VRCStreamer

open Codec

/-! ## Frames -/

/-- The first part of a compound RTCP packet; the description after it is left out. -/
structure SenderReport where
  ssrc : UInt32
  ntp : UInt32 × UInt32
  rtpTimestamp : UInt32
  packetCount : UInt32
  octetCount : UInt32
  deriving DecidableEq

def SenderReport.decode : Bytes → Option SenderReport
  | version :: kind :: _ :: _ :: c3 :: c2 :: c1 :: c0 :: s3 :: s2 :: s1 :: s0 :: f3 :: f2 :: f1 ::
      f0 :: t3 :: t2 :: t1 :: t0 :: p3 :: p2 :: p1 :: p0 :: o3 :: o2 :: o1 :: o0 :: _ =>
    if version = 0x80 ∧ kind = RTCP_SENDER_REPORT then
      some
        { ssrc := read32 c3 c2 c1 c0
          ntp := (read32 s3 s2 s1 s0, read32 f3 f2 f1 f0)
          rtpTimestamp := read32 t3 t2 t1 t0
          packetCount := read32 p3 p2 p1 p0
          octetCount := read32 o3 o2 o1 o0 }
    else none
  | _ => none

inductive RtpFrame
  | packet (packet : RtpPacket)
  | report (report : SenderReport)
  deriving DecidableEq

namespace RtpFrame

def ssrc : RtpFrame → UInt32
  | .packet rtp => rtp.ssrc
  | .report rtcp => rtcp.ssrc

/-- The second byte tells RTCP from RTP. -/
def decode (payload : Bytes) : Option RtpFrame :=
  if payload[1]? = some RTCP_SENDER_REPORT then (SenderReport.decode payload).map .report
  else (RtpPacket.decode payload).map .packet

/-- No payload type of a track is taken for a report. -/
theorem decode_packet (packet : RtpPacket)
    (hkind : packet.payloadType = RTP_VIDEO_PAYLOAD_TYPE ∨
      packet.payloadType = RTP_AUDIO_PAYLOAD_TYPE) :
    decode packet.encode = some (.packet packet) := by
  have hsecond : packet.encode[1]? =
      some ((if packet.marker then 0x80 else 0) ||| packet.payloadType) := rfl
  have hbits : packet.payloadType &&& 0x80 = 0 := by
    obtain hkind | hkind := hkind <;>
    · rw [hkind]
      decide
  have hother : ((if packet.marker then 0x80 else 0) ||| packet.payloadType) ≠
      RTCP_SENDER_REPORT := by
    obtain hkind | hkind := hkind <;>
    · rw [hkind]
      cases packet.marker <;> decide
  rw [decode, hsecond, if_neg (fun h => hother (Option.some.inj h)),
    RtpPacket.decode_encode packet hbits]
  rfl

end RtpFrame

/-- What a client reads from bytes of the connection: the frames with their channels. -/
def receivedFrames (bytes : Bytes) : Option (List (UInt8 × RtpFrame)) :=
  (InterleavedFrame.code.decodeAll bytes).bind (fun frames =>
    frames.mapM (fun frame => (RtpFrame.decode frame.payload).map (frame.channel, ·)))

/-! ## Whole frames -/

/-- Each write is a row of whole frames, and a client reads these frames from them. -/
def Carries (written : List Bytes) (frames : List (UInt8 × RtpFrame)) : Prop :=
  ∃ groups : List (List InterleavedFrame),
    written = groups.map InterleavedFrame.code.encodeAll ∧
    (∀ group ∈ groups, ∀ frame ∈ group, InterleavedFrame.code.Valid frame) ∧
    groups.flatten.map (fun frame => (frame.channel, RtpFrame.decode frame.payload)) =
      frames.map (fun frame => (frame.1, some frame.2))

namespace Carries

variable {written more : List Bytes} {frames others : List (UInt8 × RtpFrame)}

theorem nil : Carries [] [] := ⟨[], rfl, by simp, rfl⟩

theorem append (h : Carries written frames) (h' : Carries more others) :
    Carries (written ++ more) (frames ++ others) := by
  obtain ⟨groups, rfl, hvalid, hdecode⟩ := h
  obtain ⟨groups', rfl, hvalid', hdecode'⟩ := h'
  refine ⟨groups ++ groups', (List.map_append ..).symm, ?_, ?_⟩
  · intro group hgroup
    obtain hgroup | hgroup := List.mem_append.mp hgroup
    · exact hvalid group hgroup
    · exact hvalid' group hgroup
  · rw [List.flatten_append, List.map_append, List.map_append, hdecode, hdecode']

theorem single {frame : InterleavedFrame} {content : RtpFrame}
    (hvalid : InterleavedFrame.code.Valid frame)
    (hdecode : RtpFrame.decode frame.payload = some content) :
    Carries [frame.encode] [(frame.channel, content)] := by
  refine ⟨[[frame]], ?_, ?_, ?_⟩
  · show _ = [InterleavedFrame.code.encodeAll [frame]]
    rw [SelfDelimiting.encodeAll_cons, SelfDelimiting.encodeAll_nil, List.append_nil]
    rfl
  · intro group hgroup other hother
    obtain rfl := List.mem_singleton.mp hgroup
    obtain rfl := List.mem_singleton.mp hother
    exact hvalid
  · simp [hdecode]

/-- Writes in two parts carry frames in two parts. -/
theorem of_append (h : Carries (written ++ more) frames) :
    ∃ left right, frames = left ++ right ∧ Carries written left ∧ Carries more right := by
  obtain ⟨groups, hwritten, hvalid, hdecode⟩ := h
  obtain ⟨first, second, rfl, rfl, rfl⟩ := List.append_eq_map_iff.mp hwritten
  rw [List.flatten_append, List.map_append] at hdecode
  obtain ⟨left, right, rfl, hleft, hright⟩ := List.append_eq_map_iff.mp hdecode
  refine ⟨left, right, rfl, ⟨first, rfl, ?_, hleft.symm⟩, ⟨second, rfl, ?_, hright.symm⟩⟩
  · exact fun group hgroup => hvalid group (List.mem_append_left _ hgroup)
  · exact fun group hgroup => hvalid group (List.mem_append_right _ hgroup)

theorem eq_nil (h : Carries [] frames) : frames = [] := by
  obtain ⟨groups, hwritten, -, hdecode⟩ := h
  obtain rfl := List.map_eq_nil_iff.mp hwritten.symm
  exact List.map_eq_nil_iff.mp hdecode.symm

theorem mapM_of_map {groups : List InterleavedFrame}
    (h : groups.map (fun frame => (frame.channel, RtpFrame.decode frame.payload)) =
      frames.map (fun frame => (frame.1, some frame.2))) :
    groups.mapM (fun frame => (RtpFrame.decode frame.payload).map (frame.channel, ·)) =
      some frames := by
  induction groups generalizing frames with
  | nil =>
    obtain rfl := List.map_eq_nil_iff.mp h.symm
    rfl
  | cons frame groups ih =>
    cases frames with
    | nil => cases h
    | cons first frames =>
      obtain ⟨hfirst, hrest⟩ := List.cons.inj h
      obtain ⟨hchannel, hdecode⟩ := Prod.mk.inj hfirst
      rw [List.mapM_cons, hdecode, ih hrest, hchannel]
      rfl

theorem flatten_map_encodeAll (groups : List (List InterleavedFrame)) :
    (groups.map InterleavedFrame.code.encodeAll).flatten =
      InterleavedFrame.code.encodeAll groups.flatten := by
  induction groups with
  | nil => rfl
  | cons group groups ih =>
    rw [List.map_cons, List.flatten_cons, List.flatten_cons, SelfDelimiting.encodeAll_append, ih]

theorem received (h : Carries written frames) : receivedFrames written.flatten = some frames := by
  obtain ⟨groups, rfl, hvalid, hdecode⟩ := h
  have hall : ∀ frame ∈ groups.flatten, InterleavedFrame.code.Valid frame := by
    intro frame hframe
    obtain ⟨group, hgroup, hmem⟩ := List.mem_flatten.mp hframe
    exact hvalid group hgroup frame hmem
  rw [receivedFrames, flatten_map_encodeAll, SelfDelimiting.decodeAll_encodeAll _ hall]
  exact mapM_of_map hdecode

end Carries

/-! ## One packet or report -/

theorem InterleavedFrame.encode_append (channel : UInt8) (left right : Bytes) :
    InterleavedFrame.encode ⟨channel, left ++ right⟩ =
      [0x24, channel] ++ be16 (UInt16.ofNat (left.length + right.length)) ++ left ++ right := by
  simp [InterleavedFrame.encode]

section

variable (channel : UInt8) (ssrc : UInt32) (ntp : UInt32 × UInt32) (rtpTimestamp : UInt32)
variable (rtp : RtpState) (cname : Bytes)

/-- The report block of a sender report. -/
def reportBlock : Bytes :=
  [0x80, RTCP_SENDER_REPORT, 0, 6] ++ be32 ssrc ++ be32 ntp.1 ++ be32 ntp.2 ++
    be32 rtpTimestamp ++ be32 rtp.packetCount ++ be32 rtp.octetCount

/-- The description after it. -/
def reportDescription : Bytes :=
  let cname := cname.take 255
  let items := be32 ssrc ++ [1, UInt8.ofNat cname.length] ++ cname ++ [0]
  let padded := items ++ List.replicate ((4 - items.length % 4) % 4) 0
  [0x81, RTCP_SOURCE_DESCRIPTION] ++ be16 (UInt16.ofNat ((4 + padded.length) / 4 - 1)) ++ padded

theorem buildRtcpSenderReport_eq :
    buildRtcpSenderReport channel ssrc ntp rtpTimestamp rtp cname =
      InterleavedFrame.encode
        ⟨channel, reportBlock ssrc ntp rtpTimestamp rtp ++ reportDescription ssrc cname⟩ := by
  rw [InterleavedFrame.encode_append]
  rfl

theorem reportBlock_length : (reportBlock ssrc ntp rtpTimestamp rtp).length = 28 := rfl

theorem reportDescription_length_le : (reportDescription ssrc cname).length ≤ 270 := by
  have hname : (cname.take 255).length ≤ 255 := List.length_take_le 255 cname
  simp only [reportDescription, List.length_append, List.length_cons, List.length_nil,
    List.length_replicate, be16_length, be32_length]
  omega

theorem decode_report (more : Bytes) :
    RtpFrame.decode (reportBlock ssrc ntp rtpTimestamp rtp ++ more) =
      some (.report ⟨ssrc, ntp, rtpTimestamp, rtp.packetCount, rtp.octetCount⟩) := by
  have hsecond : (reportBlock ssrc ntp rtpTimestamp rtp ++ more)[1]? =
      some RTCP_SENDER_REPORT := rfl
  rw [RtpFrame.decode, if_pos hsecond]
  simp only [reportBlock, be32, List.cons_append, List.nil_append, SenderReport.decode, and_self,
    if_true, read32_be32, Option.map_some]

end

/-- An AAC access unit after its header. -/
def aacPayload (accessUnit : Bytes) : Bytes :=
  be16 16 ++ [(UInt16.ofNat accessUnit.length >>> 5).toUInt8,
    ((UInt16.ofNat accessUnit.length &&& 0x1f) <<< 3).toUInt8] ++ accessUnit

/-- The packet that an AAC access unit goes out in. -/
def aacPacket (rtp : RtpState) (accessUnit : Bytes) : RtpPacket where
  marker := true
  payloadType := RTP_AUDIO_PAYLOAD_TYPE
  sequence := rtp.sequence
  timestamp := rtp.timestamp
  ssrc := RTP_AUDIO_SSRC
  payload := aacPayload accessUnit

theorem aacPacket_payload_length (rtp : RtpState) (accessUnit : Bytes) :
    (aacPacket rtp accessUnit).payload.length = 4 + accessUnit.length := by
  simp [aacPacket, aacPayload]
  omega

/-! ## Payloads of any access unit -/

/-- What `send_h264_access_unit` cuts an access unit into; nothing when it fails. -/
def h264Payloads (accessUnit : Bytes) (singleNal : Bool) : List (Bool × Bytes) :=
  match startH264Payload accessUnit with
  | .error _ => []
  | .ok nalStart =>
    if singleNal then nalPayloads (accessUnit.drop nalStart) true
    else unitPayloads (nalUnits accessUnit nalStart)

theorem h264Payloads_length (accessUnit : Bytes) (singleNal : Bool) :
    ∀ p ∈ h264Payloads accessUnit singleNal, p.2.length ≤ RTP_MAX_PAYLOAD_BYTES := by
  rw [h264Payloads]
  split
  next => simp
  next =>
    split
    next => exact nalPayloads_length
    next => exact unitPayloads_length

theorem nalPayloads_ne_nil (nal : Bytes) (marker : Bool) : nalPayloads nal marker ≠ [] := by
  obtain ⟨k, hk⟩ := @nalPayloads_marks nal marker
  intro hnil
  rw [hnil] at hk
  simp at hk

theorem unitPayloads_ne_nil {units : List Bytes} (h : units ≠ []) : unitPayloads units ≠ [] := by
  obtain ⟨k, hk⟩ := unitPayloads_marks h
  intro hnil
  rw [hnil] at hk
  simp at hk

/-! ## Sends -/

/-- What a send adds to the socket, in whole writes. -/
structure Emits (s out : Sending) (frames : List (UInt8 × RtpFrame)) : Prop where
  channel : out.sender.channel = s.sender.channel
  writes : ∃ writes, out.socket = s.socket ++ writes ∧ Carries writes frames

theorem Emits.refl (s : Sending) : Emits s s [] :=
  ⟨rfl, [], (List.append_nil _).symm, .nil⟩

theorem Emits.trans {s middle out : Sending} {frames others : List (UInt8 × RtpFrame)}
    (h : Emits s middle frames) (h' : Emits middle out others) :
    Emits s out (frames ++ others) := by
  obtain ⟨hchannel, writes, hsocket, hcarries⟩ := h
  obtain ⟨hchannel', writes', hsocket', hcarries'⟩ := h'
  refine ⟨hchannel'.trans hchannel, writes ++ writes', ?_, hcarries.append hcarries'⟩
  rw [hsocket', hsocket, List.append_assoc]

/-- The packets of an access unit on the channel of its track. -/
def packetFrames (channel : UInt8) (packets : List RtpPacket) : List (UInt8 × RtpFrame) :=
  packets.map (fun packet => (channel, .packet packet))

/-- The state after an access unit, whose packets are numbered from the state before it and
carry its timestamp. -/
structure Counted (rtp rtp' : RtpState) (ssrc : UInt32) (packets : List RtpPacket) : Prop where
  nonempty : packets ≠ []
  numbered : ∀ i packet, packets[i]? = some packet →
    packet.sequence = rtp.sequence + UInt16.ofNat i ∧ packet.timestamp = rtp.timestamp ∧
      packet.ssrc = ssrc
  sequence : rtp'.sequence = rtp.sequence + UInt16.ofNat packets.length
  packetCount : rtp'.packetCount = rtp.packetCount + UInt32.ofNat packets.length
  octetCount : rtp'.octetCount =
    rtp.octetCount + UInt32.ofNat (packets.map (·.payload.length)).sum

namespace Sending

variable {s out : Sending} {accessUnit : Bytes}

/-- The buffer is cleared and filled before the writer is locked. -/
theorem sendAac_emits (h : s.sendAac accessUnit = .ok out) :
    Emits s out (packetFrames s.sender.channel [aacPacket s.rtp accessUnit]) ∧
      Counted s.rtp out.rtp RTP_AUDIO_SSRC [aacPacket s.rtp accessUnit] := by
  rw [sendAac] at h
  split at h
  next => cases h
  next hfit =>
    obtain rfl := Except.ok.inj h
    refine ⟨⟨rfl, _, rfl, ?_⟩, List.cons_ne_nil _ _, ?_, rfl, rfl, ?_⟩
    · have hframe : ∀ channel, InterleavedFrame.encode
          ⟨channel, (aacPacket s.rtp accessUnit).encode⟩ =
          (RtpPacketWriter.pushRtpInterleavedHeader ⟨channel, []⟩ (4 + accessUnit.length)
            RTP_AUDIO_PAYLOAD_TYPE true s.rtp.sequence s.rtp.timestamp RTP_AUDIO_SSRC).packet ++
            be16 16 ++ [(UInt16.ofNat accessUnit.length >>> 5).toUInt8,
              ((UInt16.ofNat accessUnit.length &&& 0x1f) <<< 3).toUInt8] ++ accessUnit := by
        intro channel
        rw [InterleavedFrame.encode, RtpPacket.encode_length, aacPacket_payload_length]
        simp [RtpPacketWriter.pushRtpInterleavedHeader, RtpPacket.encode, aacPacket, aacPayload]
      rw [← hframe]
      have hvalid : InterleavedFrame.code.Valid
          ⟨s.sender.channel, (aacPacket s.rtp accessUnit).encode⟩ := by
        show (aacPacket s.rtp accessUnit).encode.length < 65536
        rw [RtpPacket.encode_length, aacPacket_payload_length]
        omega
      exact .single hvalid (RtpFrame.decode_packet _ (.inr rfl))
    · intro i packet hi
      cases i with
      | zero =>
        obtain rfl := Option.some.inj hi
        refine ⟨?_, rfl, rfl⟩
        simp [aacPacket]
      | succ i => cases hi
    · rw [List.map_singleton, List.sum_singleton, aacPacket_payload_length]
      rfl

theorem packed_of_sendH264AccessUnit {sender : RtpPacketWriter} {singleNal batchWrites : Bool}
    {rtp : RtpState}
    (h : sendH264AccessUnit sender accessUnit singleNal batchWrites rtp = .ok out) :
    Packed sender.channel (h264BatchLimit batchWrites) rtp (h264Payloads accessUnit singleNal) out ∧
      out.sender.packet = [] ∧ h264Payloads accessUnit singleNal ≠ [] := by
  have hfits : ∀ p ∈ h264Payloads accessUnit singleNal,
      16 + p.2.length ≤ h264BatchLimit batchWrites := by
    intro p hp
    have hsmall := h264Payloads_length accessUnit singleNal p hp
    have hbatch := batchLimit_fits batchWrites
    omega
  have hpacked := (Packed.empty sender (h264BatchLimit batchWrites) rtp).pushAll _ hfits
  rw [List.nil_append] at hpacked
  have hout : out = (pushAll (h264BatchLimit batchWrites)
        { sender := { sender with packet := [] }, socket := [], rtp }
        (h264Payloads accessUnit singleNal)).flushH264Packets ∧
      h264Payloads accessUnit singleNal ≠ [] := by
    rw [sendH264AccessUnit] at h
    split at h
    next => cases h
    next nalStart hstart =>
      have hpayloads : h264Payloads accessUnit singleNal =
          if singleNal then nalPayloads (accessUnit.drop nalStart) true
          else unitPayloads (nalUnits accessUnit nalStart) := by
        rw [h264Payloads, hstart]
      rw [hpayloads]
      dsimp only at h
      cases singleNal with
      | true =>
        obtain rfl := Except.ok.inj h
        rw [if_pos rfl, sendH264Nal_eq]
        exact ⟨rfl, nalPayloads_ne_nil _ _⟩
      | false =>
        rw [if_neg Bool.false_ne_true] at h ⊢
        rw [sendH264Units_eq] at h
        cases hunits : nalUnits accessUnit nalStart with
        | nil =>
          rw [hunits] at h
          cases h
        | cons nal units =>
          obtain ⟨last, before, hsent, heq⟩ := sendPending_payloads (h264BatchLimit batchWrites) nal
            units { sender := { sender with packet := [] }, socket := [], rtp }
          rw [hunits, sendPending, replacePending, hsent] at h
          obtain rfl := Except.ok.inj h
          rw [heq]
          exact ⟨rfl, unitPayloads_ne_nil (List.cons_ne_nil _ _)⟩
  obtain ⟨rfl, hne⟩ := hout
  exact ⟨hpacked.flush.1, hpacked.flush.2, hne⟩

/-- Packets of video in whole writes. -/
theorem carries_wire {channel : UInt8} {writes : List (List RtpPacket)}
    (hkind : ∀ packet ∈ writes.flatten, packet.payloadType = RTP_VIDEO_PAYLOAD_TYPE)
    (hfit : ∀ packet ∈ writes.flatten, packet.payload.length ≤ RTP_MAX_PAYLOAD_BYTES) :
    Carries (writes.map (wire channel)) (packetFrames channel writes.flatten) := by
  refine ⟨writes.map (fun write => write.map (fun p => ⟨channel, p.encode⟩)), ?_, ?_, ?_⟩
  · rw [List.map_map]
    rfl
  · intro group hgroup frame hframe
    obtain ⟨write, hwrite, rfl⟩ := List.mem_map.mp hgroup
    obtain ⟨packet, hpacket, rfl⟩ := List.mem_map.mp hframe
    have hsmall := hfit packet (List.mem_flatten.mpr ⟨write, hwrite, hpacket⟩)
    show packet.encode.length < 65536
    simp only [RtpPacket.encode_length, RTP_MAX_PAYLOAD_BYTES] at hsmall ⊢
    omega
  · rw [← List.map_flatten, List.map_map, packetFrames, List.map_map]
    apply List.map_congr_left
    intro packet hpacket
    simp only [Function.comp_apply]
    rw [RtpFrame.decode_packet packet (.inl (hkind packet hpacket))]

theorem sendH264_emits {singleNal batchWrites : Bool}
    (h : s.sendH264 accessUnit singleNal batchWrites = .ok out) :
    ∃ packets, packets.map (·.payload) = (h264Payloads accessUnit singleNal).map (·.2) ∧
      Emits s out (packetFrames s.sender.channel packets) ∧
      Counted s.rtp out.rtp RTP_VIDEO_SSRC packets := by
  obtain ⟨sent, hsent, rfl⟩ : ∃ sent,
      sendH264AccessUnit s.sender accessUnit singleNal batchWrites s.rtp = .ok sent ∧
      { sent with socket := s.socket ++ sent.socket } = out := by
    rw [sendH264] at h
    cases hsent : sendH264AccessUnit s.sender accessUnit singleNal batchWrites s.rtp with
    | error reason =>
      rw [hsent] at h
      cases h
    | ok sent =>
      rw [hsent] at h
      exact ⟨sent, rfl, Except.ok.inj h⟩
  obtain ⟨hpacked, hbuffer, hne⟩ := packed_of_sendH264AccessUnit hsent
  obtain ⟨writes, rest, hsplit, hsocket, hrest, -, -⟩ := hpacked.batches
  obtain rfl : rest = [] := wire_eq_nil.mp (hrest.symm.trans hbuffer)
  rw [List.append_nil] at hsplit
  have hpayloads := packetsOf_payload s.rtp (h264Payloads accessUnit singleNal)
  have hsizes : (packetsOf s.rtp (h264Payloads accessUnit singleNal)).map (·.payload.length) =
      (h264Payloads accessUnit singleNal).map (·.2.length) := by
    have hsizes := congrArg (List.map List.length) hpayloads
    simpa only [List.map_map, Function.comp_def] using hsizes
  have hlength : (packetsOf s.rtp (h264Payloads accessUnit singleNal)).length =
      (h264Payloads accessUnit singleNal).length := by
    simpa only [List.length_map] using congrArg List.length hpayloads
  refine ⟨packetsOf s.rtp (h264Payloads accessUnit singleNal), hpayloads,
    ⟨hpacked.channel_eq, sent.socket, rfl, ?_⟩, ?_, ?_, ?_, ?_, ?_⟩
  · rw [hsocket, hsplit]
    apply carries_wire
    · intro packet hpacket
      rw [← hsplit] at hpacket
      obtain ⟨i, hi⟩ := List.getElem?_of_mem hpacket
      exact (packetsOf_getElem? hi).1
    · intro packet hpacket
      rw [← hsplit] at hpacket
      exact packetsOf_fit (h264Payloads_length accessUnit singleNal) hpacket
  · intro hnil
    rw [hnil] at hlength
    exact hne (List.eq_nil_of_length_eq_zero hlength.symm)
  · intro i packet hi
    obtain ⟨-, hssrc, htimestamp, hsequence⟩ := packetsOf_getElem? hi
    exact ⟨hsequence, htimestamp, hssrc⟩
  · show sent.rtp.sequence = _
    rw [hpacked.rtp_eq, RtpState.recordPackets_eq, List.length_map, hlength]
  · show sent.rtp.packetCount = _
    rw [hpacked.rtp_eq, RtpState.recordPackets_eq, List.length_map, hlength]
  · show sent.rtp.octetCount = _
    rw [hpacked.rtp_eq, RtpState.recordPackets_eq, hsizes]

theorem sendSenderReport_emits (s : Sending) (ssrc : UInt32) (mediaTime : RtcpMediaTime)
    (clockRate : Nat) (cname : Bytes) (now : Nat) (ntp : UInt32 × UInt32) :
    Emits s (s.sendSenderReport ssrc mediaTime clockRate cname now ntp)
      [(saturatingSucc s.sender.channel, .report ⟨ssrc, ntp, mediaTime.timestampAt now clockRate,
        s.rtp.packetCount, s.rtp.octetCount⟩)] := by
  refine ⟨rfl, _, rfl, ?_⟩
  rw [buildRtcpSenderReport_eq]
  refine .single ?_ (decode_report ..)
  have hsmall := reportDescription_length_le ssrc cname
  show (reportBlock .. ++ reportDescription ..).length < 65536
  rw [List.length_append, reportBlock_length]
  omega

end Sending

/-! ## Access units with their reports -/

namespace RtcpReporter

variable {rtcp : RtcpReporter} {s : Sending} {mediaTime : RtcpMediaTime} {timer now later : Nat}
variable {cname : Bytes} {ntp : UInt32 × UInt32} {send : Sending → Except String Sending}
variable {ssrc : UInt32}

/-- What a report says of media that was published at a time. -/
def report (rtcp : RtcpReporter) (mediaTime : RtcpMediaTime) (rtp : RtpState) (now : Nat)
    (ntp : UInt32 × UInt32) : SenderReport :=
  ⟨rtcp.ssrc, ntp, mediaTime.timestampAt now rtcp.clockRate, rtp.packetCount, rtp.octetCount⟩

def reportFrames (channel : UInt8) (report : SenderReport) : List (UInt8 × RtpFrame) :=
  [(saturatingSucc channel, .report report)]

/-- The report that starts a track. -/
def startFrames (rtcp : RtcpReporter) (s : Sending) (mediaTime : RtcpMediaTime) (now : Nat)
    (ntp : UInt32 × UInt32) : List (UInt8 × RtpFrame) :=
  if rtcp.started then [] else reportFrames s.sender.channel (rtcp.report mediaTime s.rtp now ntp)

theorem startIfNeeded_emits : Emits s (rtcp.startIfNeeded s mediaTime timer cname now later ntp).1
    (rtcp.startFrames s mediaTime now ntp) := by
  rw [startIfNeeded, startFrames]
  split
  next => exact .refl s
  next => exact s.sendSenderReport_emits ..

theorem sendReport_emits : Emits s (rtcp.sendReport s cname now ntp)
    (match rtcp.mediaTime with
      | none => []
      | some mediaTime => reportFrames s.sender.channel (rtcp.report mediaTime s.rtp now ntp)) := by
  rw [sendReport]
  cases rtcp.mediaTime with
  | none => exact .refl s
  | some mediaTime => exact s.sendSenderReport_emits ..

/-- What a transmission writes: the report of a new track, and packets with the unit's payloads
unless the send fails. -/
inductive Transmitted (rtcp : RtcpReporter) (s : Sending) (mediaTime : RtcpMediaTime) (now : Nat)
    (ntp : UInt32 × UInt32) (ssrc : UInt32) (payloads : List Bytes) (t : Transmission) : Prop
  | failed (herror : t.error.isSome) (hrtcp : t.rtcp = rtcp) (hrtp : t.sending.rtp = s.rtp)
      (hemits : Emits s t.sending (rtcp.startFrames s mediaTime now ntp))
  | sent (packets : List RtpPacket) (herror : t.error = none)
      (hrtcp : t.rtcp = rtcp.record mediaTime)
      (hpayloads : packets.map (·.payload) = payloads)
      (hcounted : Counted s.rtp t.sending.rtp ssrc packets)
      (hemits : Emits s t.sending
        (rtcp.startFrames s mediaTime now ntp ++ packetFrames s.sender.channel packets))

theorem transmit_transmitted {payloads : List Bytes} (hsend : ∀ started out,
      send started = .ok out → ∃ packets, packets.map (·.payload) = payloads ∧
        Emits started out (packetFrames started.sender.channel packets) ∧
        Counted started.rtp out.rtp ssrc packets) :
    Transmitted rtcp s mediaTime now ntp ssrc payloads
      (rtcp.transmit s mediaTime timer cname now later ntp send) := by
  have hstart : Emits s (rtcp.startIfNeeded s mediaTime timer cname now later ntp).1
    (rtcp.startFrames s mediaTime now ntp) := startIfNeeded_emits
  have hrtp := rtcp.startIfNeeded_rtp s mediaTime timer cname now later ntp
  rw [transmit]
  cases hout : send (rtcp.startIfNeeded s mediaTime timer cname now later ntp).1 with
  | error reason => exact .failed rfl rfl hrtp hstart
  | ok out =>
    obtain ⟨packets, hpayloads, hemits, hcounted⟩ := hsend _ _ hout
    rw [hrtp] at hcounted
    rw [hstart.channel] at hemits
    exact .sent packets rfl rfl hpayloads hcounted (hstart.trans hemits)

end RtcpReporter

end VRCStreamer
