import VRCStreamer.Codec.Rtcp
import VRCStreamer.Rtp.Wire

/-!
# The bytes of a sender report

`build_rtcp_sender_report` of `rtsp.rs` on the buffer that it fills: the name is padded byte by
byte, and two length fields are written over zeros once the lengths are known. What it leaves in
the buffer is one interleaved frame, and the receiver of `Codec.Rtcp` reads the report back.
-/

namespace VRCStreamer

open Codec

namespace PacketBuffer

def clear (_packet : Bytes) : Bytes := []

/-- `packet[start..start + bytes.len()].copy_from_slice(bytes)`. -/
def copyFromSlice (packet : Bytes) (start : Nat) (bytes : Bytes) : Bytes :=
  packet.take start ++ bytes ++ packet.drop (start + bytes.length)

/-- Zeros until whole words stand behind the header of the frame. -/
def padToWord (packet : Bytes) : Bytes :=
  if (packet.length - 4) % 4 = 0 then packet else padToWord (packet ++ [0])
termination_by (4 - (packet.length - 4) % 4) % 4
decreasing_by
  rw [List.length_append, List.length_singleton]
  omega

def buildRtcpSenderReport (packet : Bytes) (channel : UInt8) (ssrc : UInt32)
    (ntp : UInt32 × UInt32) (rtpTimestamp : UInt32) (rtp : RtpState) (cname : Bytes) : Bytes :=
  let packet := clear packet
  let packet := packet ++ [0x24, channel, 0, 0]
  let packet := packet ++ [0x80, RTCP_SENDER_REPORT, 0, 6]
  let packet := packet ++ be32 ssrc
  let packet := packet ++ be32 ntp.1
  let packet := packet ++ be32 ntp.2
  let packet := packet ++ be32 rtpTimestamp
  let packet := packet ++ be32 rtp.packetCount
  let packet := packet ++ be32 rtp.octetCount
  let sdesStart := packet.length
  let packet := packet ++ [0x81, RTCP_SOURCE_DESCRIPTION, 0, 0]
  let packet := packet ++ be32 ssrc
  let cname := cname.take (min cname.length 255)
  let packet := packet ++ [1, UInt8.ofNat cname.length]
  let packet := packet ++ cname
  let packet := packet ++ [0]
  let packet := padToWord packet
  let sdesWords := UInt16.ofNat ((packet.length - sdesStart) / 4 - 1)
  let packet := copyFromSlice packet (sdesStart + 2) (be16 sdesWords)
  let interleavedLen := UInt16.ofNat (packet.length - 4)
  copyFromSlice packet 2 (be16 interleavedLen)

/-- The loop adds what is missing of a word, and no more. -/
theorem padToWord_eq (packet : Bytes) : padToWord packet =
    packet ++ List.replicate ((4 - (packet.length - 4) % 4) % 4) 0 := by
  induction packet using padToWord.induct with
  | case1 packet hwords =>
    rw [padToWord, if_pos hwords, hwords]
    exact (List.append_nil packet).symm
  | case2 packet hwords ih =>
    have hmissing : (4 - (packet.length - 4) % 4) % 4 =
        (4 - ((packet ++ [0]).length - 4) % 4) % 4 + 1 := by
      rw [List.length_append, List.length_singleton]
      omega
    rw [padToWord, if_neg hwords, ih, List.append_assoc, hmissing, List.replicate_succ]
    rfl

theorem copyFromSlice_append (front : Bytes) {old new : Bytes} (back : Bytes)
    (h : old.length = new.length) :
    copyFromSlice (front ++ (old ++ back)) front.length new = front ++ (new ++ back) := by
  rw [copyFromSlice, List.take_left, ← h, ← List.drop_drop, List.drop_left, List.drop_left,
    List.append_assoc]

section

variable (packet : Bytes) (channel : UInt8) (ssrc : UInt32) (ntp : UInt32 × UInt32)
variable (rtpTimestamp : UInt32) (rtp : RtpState) (cname : Bytes)

/-- The items of the description, without the zeros of the loop. -/
def reportItems : Bytes :=
  be32 ssrc ++ [1, UInt8.ofNat (cname.take 255).length] ++ cname.take 255 ++ [0]

def reportPadding : Bytes :=
  List.replicate ((4 - (reportItems ssrc cname).length % 4) % 4) 0

/-- The chunk of the description: its items and the zeros of the loop. -/
def reportChunk : Bytes := reportItems ssrc cname ++ reportPadding ssrc cname

/-- The number of words of the description after its header. -/
def reportWords : UInt16 := UInt16.ofNat ((4 + (reportChunk ssrc cname).length) / 4 - 1)

theorem reportDescription_eq : reportDescription ssrc cname =
    [0x81, RTCP_SOURCE_DESCRIPTION] ++
      (be16 (reportWords ssrc cname) ++ reportChunk ssrc cname) := rfl

/-- What the loop and the two copies find in the buffer, whatever it held before. -/
theorem buildRtcpSenderReport_def :
    buildRtcpSenderReport packet channel ssrc ntp rtpTimestamp rtp cname =
      let padded := padToWord ([0x24, channel, 0, 0] ++ (reportBlock ssrc ntp rtpTimestamp rtp ++
        ([0x81, RTCP_SOURCE_DESCRIPTION, 0, 0] ++ reportItems ssrc cname)))
      let described := copyFromSlice padded 34 (be16 (UInt16.ofNat ((padded.length - 32) / 4 - 1)))
      copyFromSlice described 2 (be16 (UInt16.ofNat (described.length - 4))) := by
  have hname : cname.take (min cname.length 255) = cname.take 255 := by
    rw [Nat.min_comm]
    exact List.take_eq_take_min.symm
  rw [buildRtcpSenderReport, hname]
  rfl

theorem padToWord_report :
    padToWord ([0x24, channel, 0, 0] ++ (reportBlock ssrc ntp rtpTimestamp rtp ++
      ([0x81, RTCP_SOURCE_DESCRIPTION, 0, 0] ++ reportItems ssrc cname))) =
      [0x24, channel, 0, 0] ++ (reportBlock ssrc ntp rtpTimestamp rtp ++
        ([0x81, RTCP_SOURCE_DESCRIPTION, 0, 0] ++ reportChunk ssrc cname)) := by
  have hmissing : (4 - (([0x24, channel, 0, 0] ++ (reportBlock ssrc ntp rtpTimestamp rtp ++
      ([0x81, RTCP_SOURCE_DESCRIPTION, 0, 0] ++ reportItems ssrc cname))).length - 4) % 4) % 4 =
      (4 - (reportItems ssrc cname).length % 4) % 4 := by
    simp only [List.length_append, List.length_cons, List.length_nil, reportBlock_length]
    omega
  rw [padToWord_eq, hmissing, reportChunk, reportPadding]
  simp only [List.append_assoc]

theorem copyFromSlice_words (report : Bytes) (hreport : report.length = 28) (words : Bytes)
    (hwords : words.length = 2) (chunk : Bytes) :
    copyFromSlice ([0x24, channel, 0, 0] ++ (report ++
      ([0x81, RTCP_SOURCE_DESCRIPTION, 0, 0] ++ chunk))) 34 words =
      [0x24, channel, 0, 0] ++
        (report ++ ([0x81, RTCP_SOURCE_DESCRIPTION] ++ (words ++ chunk))) := by
  have hcopy := copyFromSlice_append
    ([0x24, channel, 0, 0] ++ (report ++ [0x81, RTCP_SOURCE_DESCRIPTION])) chunk
    (show ([0, 0] : Bytes).length = words.length from hwords.symm)
  simpa [hreport] using hcopy

/-- The lengths that are written afterwards are those of the parts. -/
theorem buildRtcpSenderReport_eq :
    buildRtcpSenderReport packet channel ssrc ntp rtpTimestamp rtp cname =
      VRCStreamer.buildRtcpSenderReport channel ssrc ntp rtpTimestamp rtp cname := by
  have hreport := reportBlock_length ssrc ntp rtpTimestamp rtp
  rw [VRCStreamer.buildRtcpSenderReport_eq, buildRtcpSenderReport_def, padToWord_report]
  generalize reportBlock ssrc ntp rtpTimestamp rtp = report at hreport ⊢
  have hwords : ([0x24, channel, 0, 0] ++ (report ++
      ([0x81, RTCP_SOURCE_DESCRIPTION, 0, 0] ++ reportChunk ssrc cname))).length - 32 =
      4 + (reportChunk ssrc cname).length := by
    simp only [List.length_append, List.length_cons, List.length_nil, hreport]
    omega
  have hlength : ([0x24, channel, 0, 0] ++ (report ++ reportDescription ssrc cname)).length - 4 =
      report.length + (reportDescription ssrc cname).length := by
    simp only [List.length_append, List.length_cons, List.length_nil]
    omega
  dsimp only
  rw [hwords, copyFromSlice_words _ _ hreport _ (be16_length _), ← reportWords,
    ← reportDescription_eq, hlength, InterleavedFrame.encode_append, List.append_assoc]
  generalize UInt16.ofNat (report.length + (reportDescription ssrc cname).length) = len
  have hcopy := copyFromSlice_append [0x24, channel] (report ++ reportDescription ssrc cname)
    (show ([0, 0] : Bytes).length = (be16 len).length from rfl)
  simpa using hcopy

/-! ## What a receiver reads -/

/-- The first packet, without report blocks. -/
def reportPacket : Rtcp.Packet where
  count := 0
  kind := Rtcp.SENDER_REPORT
  body := be32 ssrc ++ be32 ntp.1 ++ be32 ntp.2 ++ be32 rtpTimestamp ++ be32 rtp.packetCount ++
    be32 rtp.octetCount

/-- The second packet, with a single chunk. -/
def descriptionPacket : Rtcp.Packet where
  count := 1
  kind := Rtcp.SOURCE_DESCRIPTION
  body := reportChunk ssrc cname

/-- The zero that ends the list of items, and those up to the next word. -/
def reportZeros : Nat := (4 - (reportItems ssrc cname).length % 4) % 4 + 1

theorem reportZeros_bounds : 1 ≤ reportZeros ssrc cname ∧ reportZeros ssrc cname ≤ 4 := by
  rw [reportZeros]
  omega

theorem reportChunk_eq : reportChunk ssrc cname =
    be32 ssrc ++ (Rtcp.Item.encode ⟨Rtcp.CNAME, cname.take 255⟩ ++
      List.replicate (reportZeros ssrc cname) 0) := by
  rw [reportZeros, List.replicate_succ]
  simp only [reportChunk, reportItems, reportPadding, Rtcp.Item.encode, Rtcp.CNAME,
    List.append_assoc, List.cons_append, List.nil_append]

theorem reportChunk_words : (reportChunk ssrc cname).length % 4 = 0 := by
  rw [reportChunk, reportPadding, List.length_append, List.length_replicate]
  omega

theorem reportChunk_length_le : (reportChunk ssrc cname).length ≤ 266 := by
  have hname : (cname.take 255).length ≤ 255 := List.length_take_le 255 cname
  have hzeros := (reportZeros_bounds ssrc cname).2
  rw [reportChunk_eq]
  simp only [List.length_append, List.length_cons, List.length_nil, List.length_replicate,
    be32_length, Rtcp.Item.encode]
  omega

theorem reportPacket_length : (reportPacket ssrc ntp rtpTimestamp rtp).body.length = 24 := rfl

theorem reportBlock_eq : reportBlock ssrc ntp rtpTimestamp rtp =
    (reportPacket ssrc ntp rtpTimestamp rtp).encode := by
  have hwords : be16 (UInt16.ofNat (24 / 4)) = [0, 6] := by decide
  rw [Rtcp.Packet.encode, reportPacket_length, hwords]
  simp only [reportBlock, reportPacket, List.append_assoc]
  rfl

theorem reportDescription_eq_encode :
    reportDescription ssrc cname = (descriptionPacket ssrc cname).encode := by
  have hwords : reportWords ssrc cname = UInt16.ofNat ((reportChunk ssrc cname).length / 4) := by
    rw [reportWords]
    congr 1
    omega
  rw [reportDescription_eq, hwords, Rtcp.Packet.encode]
  simp only [descriptionPacket, List.append_assoc]
  rfl

theorem reportPacket_valid : Rtcp.Packet.code.Valid (reportPacket ssrc ntp rtpTimestamp rtp) := by
  have hlength := reportPacket_length ssrc ntp rtpTimestamp rtp
  refine ⟨(by decide : (0 : UInt8) < 32), ?_, ?_⟩
  · rw [hlength]
  · rw [hlength]
    decide

theorem descriptionPacket_valid : Rtcp.Packet.code.Valid (descriptionPacket ssrc cname) := by
  have hlength := reportChunk_length_le ssrc cname
  refine ⟨(by decide : (1 : UInt8) < 32), reportChunk_words ssrc cname, ?_⟩
  show (reportChunk ssrc cname).length / 4 < 65536
  omega

theorem readReport_reportPacket : Rtcp.readReport (reportPacket ssrc ntp rtpTimestamp rtp) =
    some (.sender ssrc ntp rtpTimestamp rtp.packetCount rtp.octetCount []) :=
  Rtcp.readSender_encode ..

theorem readChunk_reportChunk : Rtcp.readChunk (reportChunk ssrc cname) =
    some (⟨ssrc, [⟨Rtcp.CNAME, cname.take 255⟩]⟩, []) := by
  have hvalid : ∀ item ∈ [(⟨Rtcp.CNAME, cname.take 255⟩ : Rtcp.Item)], item.Valid :=
    List.forall_mem_singleton.mpr
      ⟨(by decide : Rtcp.CNAME ≠ 0), Nat.lt_succ_of_le (List.length_take_le 255 cname)⟩
  have hpadding : (4 - (reportItems ssrc cname).length % 4) % 4 < 4 := Nat.mod_lt _ (by decide)
  have hread := Rtcp.readChunk_encode ssrc hvalid hpadding (by rfl : [].length % 4 = 0)
  rw [reportChunk_eq, reportZeros, List.replicate_succ]
  simpa using hread

theorem readReport_descriptionPacket : Rtcp.readReport (descriptionPacket ssrc cname) =
    some (.description [⟨ssrc, [⟨Rtcp.CNAME, cname.take 255⟩]⟩]) := by
  have hchunks : Rtcp.readChunks (descriptionPacket ssrc cname).count.toNat
      (descriptionPacket ssrc cname).body =
        some ([⟨ssrc, [⟨Rtcp.CNAME, cname.take 255⟩]⟩], []) := by
    show Rtcp.readChunks 1 (reportChunk ssrc cname) = _
    rw [Rtcp.readChunks, readChunk_reportChunk]
    rfl
  have hkind : (descriptionPacket ssrc cname).kind ≠ Rtcp.SENDER_REPORT :=
    (by decide : Rtcp.SOURCE_DESCRIPTION ≠ Rtcp.SENDER_REPORT)
  have hdescription : (descriptionPacket ssrc cname).kind = Rtcp.SOURCE_DESCRIPTION := rfl
  rw [Rtcp.readReport, if_neg hkind, if_pos hdescription, hchunks]

/-- The reports of the frame are those of the two packets, and nothing is left over. -/
theorem decodeCompound_report : Rtcp.decodeCompound
    (reportBlock ssrc ntp rtpTimestamp rtp ++ reportDescription ssrc cname) =
      some [.sender ssrc ntp rtpTimestamp rtp.packetCount rtp.octetCount [],
        .description [⟨ssrc, [⟨Rtcp.CNAME, cname.take 255⟩]⟩]] := by
  have hpackets : Rtcp.Packet.code.decodeAll
      (reportBlock ssrc ntp rtpTimestamp rtp ++ reportDescription ssrc cname) =
        some [reportPacket ssrc ntp rtpTimestamp rtp, descriptionPacket ssrc cname] := by
    have hall := Rtcp.Packet.code.decodeAll_encodeAll
      (List.forall_mem_cons.mpr ⟨reportPacket_valid ssrc ntp rtpTimestamp rtp,
        List.forall_mem_singleton.mpr (descriptionPacket_valid ssrc cname)⟩)
    rw [reportBlock_eq, reportDescription_eq_encode]
    simpa [Rtcp.Packet.code] using hall
  rw [Rtcp.decodeCompound, hpackets, Option.bind_some, List.mapM_cons, List.mapM_cons,
    readReport_reportPacket, readReport_descriptionPacket]
  rfl

/-- Whatever the buffer held, it holds one frame afterwards, and the frame is a compound packet:
the report as it was given, then the first 255 bytes of the name. The name ends with a zero and
zeros up to the next word. -/
theorem buildRtcpSenderReport_roundTrip :
    ∃ payload zeros,
      InterleavedFrame.decode
          (buildRtcpSenderReport packet channel ssrc ntp rtpTimestamp rtp cname) =
        some (⟨channel, payload⟩, []) ∧
      Rtcp.decodeCompound payload =
        some [.sender ssrc ntp rtpTimestamp rtp.packetCount rtp.octetCount [],
          .description [⟨ssrc, [⟨Rtcp.CNAME, cname.take 255⟩]⟩]] ∧
      payload.drop 32 = be32 ssrc ++ (Rtcp.Item.encode ⟨Rtcp.CNAME, cname.take 255⟩ ++
        List.replicate zeros 0) ∧
      1 ≤ zeros ∧ zeros ≤ 4 ∧ payload.length % 4 = 0 := by
  have hreport := reportBlock_length ssrc ntp rtpTimestamp rtp
  have hdescription : (reportDescription ssrc cname).length =
      4 + (reportChunk ssrc cname).length := by
    rw [reportDescription_eq, List.length_append, List.length_append]
    exact (Nat.add_assoc 2 2 _).symm
  have hchunk := reportChunk_length_le ssrc cname
  have hwords := reportChunk_words ssrc cname
  refine ⟨reportBlock ssrc ntp rtpTimestamp rtp ++ reportDescription ssrc cname,
    reportZeros ssrc cname, ?_, decodeCompound_report .., ?_, (reportZeros_bounds ..).1,
    (reportZeros_bounds ..).2, ?_⟩
  · rw [buildRtcpSenderReport_eq, VRCStreamer.buildRtcpSenderReport_eq]
    have hvalid : InterleavedFrame.code.Valid ⟨channel,
        reportBlock ssrc ntp rtpTimestamp rtp ++ reportDescription ssrc cname⟩ := by
      show (_ ++ _ : Bytes).length < 65536
      rw [List.length_append]
      omega
    have hdecode := InterleavedFrame.code.decode_encode _ [] hvalid
    rw [List.append_nil] at hdecode
    exact hdecode
  · have hheader : 32 = (reportBlock ssrc ntp rtpTimestamp rtp).length + 4 := by rw [hreport]
    rw [hheader, ← List.drop_drop, List.drop_left, reportDescription_eq, ← reportChunk_eq]
    rfl
  · rw [List.length_append]
    omega

end

end PacketBuffer

end VRCStreamer
