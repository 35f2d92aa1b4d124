import VRCStreamer.Rtp.Packet
import VRCStreamer.Rtp.Writer

/-!
# The H.264 sender and its receiver

The payloads of an access unit are first given as a list (`unitPayloads`); the sender
is shown to emit one packet for each of them (`Packed`), and the receiver to recover
the NAL units from them. Batching and fragmentation meet only in these two facts.
-/

namespace VRCStreamer

open Codec

/-! ## Payloads of an access unit -/

/-- The fragments of a unit from `offset` on, each with its marker bit. -/
def fragmentPayloads (nal : Bytes) (markerOnLastPacket : Bool) (offset : Nat) :
    List (Bool × Bytes) :=
  if offset < nal.length then
    let stop := min (offset + (RTP_MAX_PAYLOAD_BYTES - 2)) nal.length
    let start : Bool := offset = 1
    let last : Bool := stop = nal.length
    let payload := Sending.fuIndicator (nalHeader nal) ::
      Sending.fuHeader (nalHeader nal) start last :: slice nal offset stop
    (markerOnLastPacket && last, payload) :: fragmentPayloads nal markerOnLastPacket stop
  else []
termination_by nal.length - offset
decreasing_by
  simp only [RTP_MAX_PAYLOAD_BYTES]
  omega

def nalPayloads (nal : Bytes) (markerOnLastPacket : Bool) : List (Bool × Bytes) :=
  if nal.length ≤ RTP_MAX_PAYLOAD_BYTES then [(markerOnLastPacket, nal)]
  else fragmentPayloads nal markerOnLastPacket 1

/-- All payloads of an access unit; the last unit carries the marker. -/
def unitPayloads : List Bytes → List (Bool × Bytes)
  | [] => []
  | [nal] => nalPayloads nal true
  | nal :: next :: units => nalPayloads nal false ++ unitPayloads (next :: units)

namespace Sending

/-- Push the payloads of a list one by one. -/
def pushAll (batchLimit : Nat) (s : Sending) (payloads : List (Bool × Bytes)) : Sending :=
  payloads.foldl (fun s p => s.pushH264Packet batchLimit p.1 p.2) s

theorem sendH264Fragments_eq (nal : Bytes) (marker : Bool) (batchLimit offset : Nat)
    (s : Sending) :
    s.sendH264Fragments nal marker batchLimit offset =
      s.pushAll batchLimit (fragmentPayloads nal marker offset) := by
  fun_induction sendH264Fragments nal marker batchLimit offset s with
  | case1 offset s hlt stop start last payload ih =>
    rw [fragmentPayloads, if_pos hlt]
    exact ih
  | case2 offset s hge =>
    rw [fragmentPayloads, if_neg hge]
    rfl

theorem sendH264Nal_eq (s : Sending) (nal : Bytes) (marker : Bool) (batchLimit : Nat) :
    s.sendH264Nal nal marker batchLimit = s.pushAll batchLimit (nalPayloads nal marker) := by
  unfold sendH264Nal nalPayloads
  split
  · rfl
  · exact sendH264Fragments_eq nal marker batchLimit 1 s

theorem pushAll_append (batchLimit : Nat) (s : Sending) (left right : List (Bool × Bytes)) :
    s.pushAll batchLimit (left ++ right) = (s.pushAll batchLimit left).pushAll batchLimit right :=
  List.foldl_append

/-- Hold back the last unit of a list and send the others. -/
def sendPending (batchLimit : Nat) : Option Bytes → List Bytes → Sending → Option Bytes × Sending
  | pending, [], s => (pending, s)
  | pending, nal :: units, s =>
    sendPending batchLimit (some nal) units (s.replacePending batchLimit pending)

theorem sendPending_append (batchLimit : Nat) (pending : Option Bytes) (left right : List Bytes)
    (s : Sending) :
    sendPending batchLimit pending (left ++ right) s =
      sendPending batchLimit (sendPending batchLimit pending left s).1 right
        (sendPending batchLimit pending left s).2 := by
  induction left generalizing pending s with
  | nil => rfl
  | cons nal left ih => exact ih _ _

/-- The splitting loop visits the same units as `for_each_h264_nal`. -/
theorem sendH264Units_eq (accessUnit : Bytes) (batchLimit nalStart : Nat) :
    ∀ (pending : Option Bytes) (s : Sending),
      s.sendH264Units accessUnit batchLimit nalStart pending =
        sendPending batchLimit pending (nalUnits accessUnit nalStart) s := by
  have round : ∀ (start : Nat) (pending : Option Bytes) (s : Sending),
      (if start < h264NalEnd accessUnit (findH264StartCode accessUnit start) then
        (some (slice accessUnit start (h264NalEnd accessUnit (findH264StartCode accessUnit start))),
          s.replacePending batchLimit pending)
      else (pending, s)) = sendPending batchLimit pending (nalUnitAt accessUnit start) s := by
    intro start pending s
    simp only [nalUnitAt]
    split <;> rfl
  fun_induction nalUnits accessUnit nalStart with
  | case1 nalStart found =>
    intro pending s
    rw [sendH264Units, ← round]
    split
    next => rfl
    next h => rw [found] at h; cases h
  | case2 nalStart start len found ih =>
    intro pending s
    rw [sendH264Units, sendPending_append, ← round, ← ih]
    split
    next h => rw [found] at h; cases h
    next h =>
      rw [found] at h
      cases h
      rfl

/-- Sending all units but the last, then the last with the marker, pushes exactly the
payloads of the access unit. -/
theorem sendPending_payloads (batchLimit : Nat) (nal : Bytes) (units : List Bytes)
    (s : Sending) :
    ∃ last before, sendPending batchLimit (some nal) units s = (some last, before) ∧
      before.sendH264Nal last true batchLimit =
        s.pushAll batchLimit (unitPayloads (nal :: units)) := by
  induction units generalizing nal s with
  | nil => exact ⟨nal, s, rfl, sendH264Nal_eq s nal true batchLimit⟩
  | cons next units ih =>
    obtain ⟨last, before, hsent, heq⟩ := ih next (s.sendH264Nal nal false batchLimit)
    refine ⟨last, before, hsent, heq.trans ?_⟩
    rw [unitPayloads, pushAll_append, sendH264Nal_eq]

end Sending

/-- The fast path and the splitting path both push the payloads of the units and flush. -/
theorem sendH264AccessUnit_eq {accessUnit : Bytes} {singleNal : Bool} {nalStart : Nat}
    (accepted : AcceptedAccessUnit accessUnit singleNal nalStart) (sender : RtpPacketWriter)
    (batchWrites : Bool) (rtp : RtpState) (fast : Bool) (hfast : fast = true → singleNal = true) :
    sendH264AccessUnit sender accessUnit fast batchWrites rtp =
      .ok (Sending.pushAll (h264BatchLimit batchWrites)
        { sender := { sender with packet := [] }, socket := [], rtp }
        (unitPayloads (nalUnits accessUnit nalStart))).flushH264Packets := by
  rw [sendH264AccessUnit, accepted.start]
  cases fast with
  | true =>
    obtain rfl := hfast rfl
    rw [accepted.units_eq_drop]
    simp only [if_true, unitPayloads, Sending.sendH264Nal_eq]
  | false =>
    obtain ⟨nal, units, hunits⟩ := List.exists_cons_of_ne_nil accepted.nonempty
    obtain ⟨last, before, hsent, heq⟩ := Sending.sendPending_payloads (h264BatchLimit batchWrites)
      nal units { sender := { sender with packet := [] }, socket := [], rtp }
    have hloop : Sending.sendH264Units accessUnit (h264BatchLimit batchWrites) nalStart none
        { sender := { sender with packet := [] }, socket := [], rtp } = (some last, before) := by
      rw [Sending.sendH264Units_eq, hunits]
      exact hsent
    simp only [Bool.false_eq_true, if_false, hloop, hunits, heq]

/-! ## One packet for each payload -/

/-- The packets for a list of payloads, numbered from the state before them. -/
def packetsOf (rtp : RtpState) : List (Bool × Bytes) → List RtpPacket
  | [] => []
  | (marker, payload) :: more =>
    { marker
      payloadType := RTP_VIDEO_PAYLOAD_TYPE
      sequence := rtp.sequence
      timestamp := rtp.timestamp
      ssrc := RTP_VIDEO_SSRC
      payload } :: packetsOf (rtp.recordPacket payload.length) more

theorem packetsOf_payload (rtp : RtpState) (payloads : List (Bool × Bytes)) :
    (packetsOf rtp payloads).map (·.payload) = payloads.map (·.2) := by
  induction payloads generalizing rtp with
  | nil => rfl
  | cons p payloads ih => simp [packetsOf, ih]

theorem packetsOf_marker (rtp : RtpState) (payloads : List (Bool × Bytes)) :
    (packetsOf rtp payloads).map (·.marker) = payloads.map (·.1) := by
  induction payloads generalizing rtp with
  | nil => rfl
  | cons p payloads ih => simp [packetsOf, ih]

theorem packetsOf_append (rtp : RtpState) (left right : List (Bool × Bytes)) :
    packetsOf rtp (left ++ right) =
      packetsOf rtp left ++ packetsOf (rtp.recordPackets (left.map (·.2.length))) right := by
  induction left generalizing rtp with
  | nil => rfl
  | cons p left ih => simp [packetsOf, ih]

/-- The fields that all packets share, and the sequence number of the `i`-th. -/
theorem packetsOf_getElem? {rtp : RtpState} {payloads : List (Bool × Bytes)} {i : Nat}
    {packet : RtpPacket} (h : (packetsOf rtp payloads)[i]? = some packet) :
    packet.payloadType = RTP_VIDEO_PAYLOAD_TYPE ∧ packet.ssrc = RTP_VIDEO_SSRC ∧
      packet.timestamp = rtp.timestamp ∧ packet.sequence = rtp.sequence + UInt16.ofNat i := by
  induction payloads generalizing rtp i with
  | nil => simp [packetsOf] at h
  | cons p payloads ih =>
    cases i with
    | zero =>
      simp only [packetsOf, List.getElem?_cons_zero, Option.some.injEq] at h
      subst h
      simp
    | succ i =>
      simp only [packetsOf, List.getElem?_cons_succ] at h
      obtain ⟨hkind, hssrc, htime, hseq⟩ := ih h
      refine ⟨hkind, hssrc, htime, hseq.trans ?_⟩
      simp only [RtpState.recordPacket, UInt16.ofNat_add, UInt16.add_assoc, UInt16.add_comm 1]
      rfl

/-- The bytes of a list of packets on an interleaved channel. -/
def wire (channel : UInt8) (packets : List RtpPacket) : Bytes :=
  InterleavedFrame.code.encodeAll (packets.map (fun p => ⟨channel, p.encode⟩))

theorem wire_append (channel : UInt8) (left right : List RtpPacket) :
    wire channel (left ++ right) = wire channel left ++ wire channel right := by
  simp [wire]

theorem wire_singleton (channel : UInt8) (packet : RtpPacket) :
    wire channel [packet] =
      0x24 :: channel :: (be16 (UInt16.ofNat (12 + packet.payload.length)) ++ packet.encode) := by
  change InterleavedFrame.encode ⟨channel, packet.encode⟩ ++ [] = _
  rw [List.append_nil, InterleavedFrame.encode, RtpPacket.encode_length]

theorem wire_singleton_length (channel : UInt8) (packet : RtpPacket) :
    (wire channel [packet]).length = 16 + packet.payload.length := by
  simp only [wire_singleton, List.length_cons, List.length_append, be16_length,
    RtpPacket.encode_length]
  omega

theorem wire_eq_nil {channel : UInt8} {packets : List RtpPacket} :
    wire channel packets = [] ↔ packets = [] := by
  constructor
  · intro h
    cases packets with
    | nil => rfl
    | cons p packets => simp [wire, InterleavedFrame.code, InterleavedFrame.encode] at h
  · rintro rfl
    rfl

/-- The packets emitted so far, grouped into finished writes and the buffer. Every
write and the buffer hold whole packets and stay within the batch limit. -/
structure Packed (channel : UInt8) (batchLimit : Nat) (rtp : RtpState)
    (payloads : List (Bool × Bytes)) (s : Sending) : Prop where
  channel_eq : s.sender.channel = channel
  rtp_eq : s.rtp = rtp.recordPackets (payloads.map (·.2.length))
  batches : ∃ (writes : List (List RtpPacket)) (rest : List RtpPacket),
    packetsOf rtp payloads = writes.flatten ++ rest ∧
    s.socket = writes.map (wire channel) ∧ s.sender.packet = wire channel rest ∧
    (∀ write ∈ writes, (wire channel write).length ≤ batchLimit) ∧
    (wire channel rest).length ≤ batchLimit

namespace Packed

variable {channel : UInt8} {batchLimit : Nat} {rtp : RtpState}
variable {payloads : List (Bool × Bytes)} {s : Sending}

/-- Flushing moves the buffer into one more write. -/
theorem flush (h : Packed channel batchLimit rtp payloads s) :
    Packed channel batchLimit rtp payloads s.flushH264Packets ∧
      s.flushH264Packets.sender.packet = [] := by
  unfold Sending.flushH264Packets
  by_cases hne : s.sender.packet ≠ []
  · rw [if_pos hne]
    obtain ⟨writes, rest, hsplit, hsocket, hbuffer, hwrites, hrest⟩ := h.batches
    refine ⟨⟨h.channel_eq, h.rtp_eq, writes ++ [rest], [], ?_, ?_, rfl, ?_, Nat.zero_le _⟩, rfl⟩
    · simpa using hsplit
    · simp [hsocket, hbuffer]
    · intro write hwrite
      rcases List.mem_append.mp hwrite with hwrite | hwrite
      · exact hwrites write hwrite
      · rw [List.mem_singleton] at hwrite
        exact hwrite ▸ hrest
  · rw [if_neg hne]
    exact ⟨h, not_not.mp hne⟩

/-- After the batch check the next packet fits into the buffer. -/
theorem flushIfFull (h : Packed channel batchLimit rtp payloads s) {payloadLen : Nat}
    (hfit : 16 + payloadLen ≤ batchLimit) :
    Packed channel batchLimit rtp payloads (s.flushH264BatchIfFull payloadLen batchLimit) ∧
      (s.flushH264BatchIfFull payloadLen batchLimit).sender.packet.length + 16 + payloadLen ≤
        batchLimit := by
  unfold Sending.flushH264BatchIfFull
  split
  next hfull =>
    refine ⟨h.flush.1, ?_⟩
    rw [h.flush.2, List.length_nil]
    omega
  next hroom =>
    refine ⟨h, ?_⟩
    by_cases hnil : s.sender.packet = []
    · rw [hnil, List.length_nil]
      omega
    · have := Nat.le_of_not_lt (fun hlt => hroom ⟨hnil, hlt⟩)
      omega

theorem push (h : Packed channel batchLimit rtp payloads s) (marker : Bool) (payload : Bytes)
    (hfit : 16 + payload.length ≤ batchLimit) :
    Packed channel batchLimit rtp (payloads ++ [(marker, payload)])
      (s.pushH264Packet batchLimit marker payload) := by
  obtain ⟨hpacked, hroom⟩ := h.flushIfFull hfit
  unfold Sending.pushH264Packet
  generalize s.flushH264BatchIfFull payload.length batchLimit = s' at hpacked hroom
  obtain ⟨writes, rest, hsplit, hsocket, hbuffer, hwrites, hrest⟩ := hpacked.batches
  have hpackets := packetsOf_append rtp payloads [(marker, payload)]
  rw [← hpacked.rtp_eq] at hpackets
  have hbytes : (s'.sender.pushRtpInterleavedHeader payload.length RTP_VIDEO_PAYLOAD_TYPE marker
      s'.rtp.sequence s'.rtp.timestamp RTP_VIDEO_SSRC).packet ++ payload =
      wire channel (rest ++ packetsOf s'.rtp [(marker, payload)]) := by
    rw [wire_append, ← hbuffer]
    simp only [packetsOf, wire_singleton, RtpPacketWriter.pushRtpInterleavedHeader,
      RtpPacket.encode, hpacked.channel_eq]
    simp
  refine ⟨hpacked.channel_eq, ?_, writes, rest ++ packetsOf s'.rtp [(marker, payload)], ?_,
    hsocket, hbytes, hwrites, ?_⟩
  · change s'.rtp.recordPacket payload.length = _
    rw [hpacked.rtp_eq, List.map_append, RtpState.recordPackets_append]
    rfl
  · rw [hpackets, hsplit, List.append_assoc]
  · rw [wire_append, List.length_append, ← hbuffer]
    have hlen : (wire channel (packetsOf s'.rtp [(marker, payload)])).length =
        16 + payload.length := wire_singleton_length _ _
    omega

theorem pushAll (h : Packed channel batchLimit rtp payloads s) (more : List (Bool × Bytes))
    (hfit : ∀ p ∈ more, 16 + p.2.length ≤ batchLimit) :
    Packed channel batchLimit rtp (payloads ++ more) (s.pushAll batchLimit more) := by
  induction more generalizing payloads s with
  | nil => simpa [Sending.pushAll] using h
  | cons p more ih =>
    have hpush := h.push p.1 p.2 (hfit p List.mem_cons_self)
    have := ih hpush (fun q hq => hfit q (List.mem_cons_of_mem _ hq))
    rwa [List.append_assoc] at this

end Packed

/-! ## Sizes of the payloads -/

theorem fragmentPayloads_length {nal : Bytes} {marker : Bool} {offset : Nat} :
    ∀ p ∈ fragmentPayloads nal marker offset, p.2.length ≤ RTP_MAX_PAYLOAD_BYTES := by
  fun_induction fragmentPayloads nal marker offset with
  | case1 offset hlt stop start last payload ih =>
    intro p hp
    rcases List.mem_cons.mp hp with rfl | hp
    · have hstop : stop ≤ offset + 1198 := Nat.min_le_left _ _
      simp only [payload, List.length_cons, slice_length, RTP_MAX_PAYLOAD_BYTES]
      omega
    · exact ih p hp
  | case2 offset hge => simp

theorem nalPayloads_length {nal : Bytes} {marker : Bool} :
    ∀ p ∈ nalPayloads nal marker, p.2.length ≤ RTP_MAX_PAYLOAD_BYTES := by
  unfold nalPayloads
  split
  next hle =>
    intro p hp
    rw [List.mem_singleton] at hp
    exact hp ▸ hle
  next => exact fragmentPayloads_length

theorem unitPayloads_length {units : List Bytes} :
    ∀ p ∈ unitPayloads units, p.2.length ≤ RTP_MAX_PAYLOAD_BYTES := by
  fun_induction unitPayloads units with
  | case1 => simp
  | case2 nal => exact nalPayloads_length
  | case3 nal next units ih =>
    intro p hp
    rcases List.mem_append.mp hp with hp | hp
    · exact nalPayloads_length p hp
    · exact ih p hp

/-! ## Any access unit is sent in whole packets -/

theorem batchLimit_fits (batchWrites : Bool) :
    16 + RTP_MAX_PAYLOAD_BYTES ≤ h264BatchLimit batchWrites := by
  cases batchWrites <;> decide

namespace Packed

variable {channel : UInt8} {batchLimit : Nat} {rtp : RtpState}
variable {payloads : List (Bool × Bytes)} {s : Sending}

theorem empty (sender : RtpPacketWriter) (batchLimit : Nat) (rtp : RtpState) :
    Packed sender.channel batchLimit rtp []
      { sender := { sender with packet := [] }, socket := [], rtp } :=
  ⟨rfl, rfl, [], [], rfl, rfl, rfl, by simp, Nat.zero_le _⟩

theorem sendH264Nal (h : Packed channel batchLimit rtp payloads s)
    (hfit : 16 + RTP_MAX_PAYLOAD_BYTES ≤ batchLimit) (nal : Bytes) (marker : Bool) :
    Packed channel batchLimit rtp (payloads ++ nalPayloads nal marker)
      (s.sendH264Nal nal marker batchLimit) := by
  rw [Sending.sendH264Nal_eq]
  apply h.pushAll
  intro p hp
  have hsmall := nalPayloads_length p hp
  omega

theorem sendPending (h : Packed channel batchLimit rtp payloads s)
    (hfit : 16 + RTP_MAX_PAYLOAD_BYTES ≤ batchLimit) (pending : Option Bytes)
    (units : List Bytes) :
    ∃ more, Packed channel batchLimit rtp more
      (Sending.sendPending batchLimit pending units s).2 := by
  induction units generalizing payloads pending s with
  | nil => exact ⟨payloads, h⟩
  | cons nal units ih =>
    cases pending with
    | none => exact ih h (some nal)
    | some held => exact ih (h.sendH264Nal hfit held false) (some nal)

end Packed

/-- Whatever the access unit is, it leaves in whole packets. -/
theorem sendH264AccessUnit_packed {sender : RtpPacketWriter} {accessUnit : Bytes}
    {singleNal batchWrites : Bool} {rtp : RtpState} {out : Sending}
    (h : sendH264AccessUnit sender accessUnit singleNal batchWrites rtp = .ok out) :
    ∃ payloads, Packed sender.channel (h264BatchLimit batchWrites) rtp payloads out ∧
      out.sender.packet = [] := by
  have hfit := batchLimit_fits batchWrites
  have hempty := Packed.empty sender (h264BatchLimit batchWrites) rtp
  rw [sendH264AccessUnit] at h
  split at h
  next => cases h
  next nalStart hstart =>
    dsimp only at h
    split at h
    next =>
      obtain rfl := Except.ok.inj h
      exact ⟨_, (hempty.sendH264Nal hfit _ true).flush⟩
    next =>
      rw [Sending.sendH264Units_eq] at h
      obtain ⟨payloads, hpending⟩ := hempty.sendPending hfit none (nalUnits accessUnit nalStart)
      split at h
      next => cases h
      next nal s hsent =>
        rw [hsent] at hpending
        obtain rfl := Except.ok.inj h
        exact ⟨_, (hpending.sendH264Nal hfit nal true).flush⟩

/-! ## Markers and reassembly of the payloads -/

/-- Only the last of the bits may be set, and it is set to `marker`. -/
def MarksLast (marker : Bool) (bits : List Bool) : Prop :=
  ∃ k, bits = List.replicate k false ++ [marker]

theorem MarksLast.cons {marker : Bool} {bits : List Bool} (h : MarksLast marker bits) :
    MarksLast marker (false :: bits) := by
  obtain ⟨k, rfl⟩ := h
  exact ⟨k + 1, rfl⟩

theorem MarksLast.append {marker : Bool} {left right : List Bool} (hl : MarksLast false left)
    (hr : MarksLast marker right) : MarksLast marker (left ++ right) := by
  obtain ⟨k, rfl⟩ := hl
  obtain ⟨n, rfl⟩ := hr
  refine ⟨k + 1 + n, ?_⟩
  rw [List.replicate_add, List.replicate_add]
  simp

theorem fragmentPayloads_marks {nal : Bytes} {marker : Bool} {offset : Nat}
    (hlt : offset < nal.length) :
    MarksLast marker ((fragmentPayloads nal marker offset).map (·.1)) := by
  fun_induction fragmentPayloads nal marker offset with
  | case1 offset _ stop start last payload ih =>
    rw [List.map_cons]
    by_cases hstop : stop < nal.length
    · have hlast : last = false := decide_eq_false (by omega)
      rw [hlast, Bool.and_false]
      exact (ih hstop).cons
    · have hlast : last = true := decide_eq_true (by omega)
      rw [hlast, Bool.and_true, fragmentPayloads, if_neg hstop]
      exact ⟨0, rfl⟩
  | case2 offset hge => exact absurd hlt hge

theorem nalPayloads_marks {nal : Bytes} {marker : Bool} :
    MarksLast marker ((nalPayloads nal marker).map (·.1)) := by
  unfold nalPayloads
  split
  next => exact ⟨0, rfl⟩
  next hlong =>
    simp only [RTP_MAX_PAYLOAD_BYTES] at hlong
    exact fragmentPayloads_marks (by omega)

theorem unitPayloads_marks {units : List Bytes} (hne : units ≠ []) :
    MarksLast true ((unitPayloads units).map (·.1)) := by
  fun_induction unitPayloads units with
  | case1 => contradiction
  | case2 nal => exact nalPayloads_marks
  | case3 nal next units ih =>
    rw [List.map_append]
    exact nalPayloads_marks.append (ih (List.cons_ne_nil _ _))

/-- The bits of the two fragment bytes that the receiver looks at. -/
theorem fragment_bits (header : UInt8) (start last : Bool) :
    (Sending.fuIndicator header &&& 0x1f).toNat = 28 ∧
      decide (Sending.fuHeader header start last &&& 0x80 ≠ 0) = start ∧
      decide (Sending.fuHeader header start last &&& 0x40 ≠ 0) = last ∧
      (Sending.fuIndicator header &&& 0xe0) ||| (Sending.fuHeader header start last &&& 0x1f) =
        header := by
  have bits : ∀ n < 256, ∀ start last : Bool,
      (Sending.fuIndicator (UInt8.ofNat n) &&& 0x1f).toNat = 28 ∧
        decide (Sending.fuHeader (UInt8.ofNat n) start last &&& 0x80 ≠ 0) = start ∧
        decide (Sending.fuHeader (UInt8.ofNat n) start last &&& 0x40 ≠ 0) = last ∧
        (Sending.fuIndicator (UInt8.ofNat n) &&& 0xe0) |||
          (Sending.fuHeader (UInt8.ofNat n) start last &&& 0x1f) = UInt8.ofNat n := by
    decide +kernel
  have := bits header.toNat header.toNat_lt start last
  simpa using this

namespace H264Receiver

/-- A continued fragment: the receiver appends the chunk and closes the unit at its end. -/
theorem receive_fragment {units : List Bytes} {fragment chunk : Bytes} (header : UInt8)
    (last : Bool) :
    receive ⟨units, some fragment⟩
        (Sending.fuIndicator header :: Sending.fuHeader header false last :: chunk) =
      some (if last then ⟨units ++ [fragment ++ chunk], none⟩
        else ⟨units, some (fragment ++ chunk)⟩) := by
  obtain ⟨hkind, hstart, hlast, -⟩ := fragment_bits header false last
  simp only [decide_eq_false_iff_not, not_not] at hstart
  cases last <;> simp_all [receive]

/-- An opening fragment restores the header of the unit from the two fragment bytes. -/
theorem receive_firstFragment {units : List Bytes} {chunk : Bytes} (header : UInt8) :
    receive ⟨units, none⟩
        (Sending.fuIndicator header :: Sending.fuHeader header true false :: chunk) =
      some ⟨units, some (header :: chunk)⟩ := by
  obtain ⟨hkind, hstart, hlast, hheader⟩ := fragment_bits header true false
  simp_all [receive]

theorem take_append_slice (nal : Bytes) {offset stop : Nat} (h : offset ≤ stop) :
    nal.take offset ++ slice nal offset stop = nal.take stop := by
  rw [slice, ← List.take_add, Nat.add_sub_cancel' h]

/-- The remaining fragments complete a unit of which `offset` bytes have arrived. -/
theorem receiveAll_fragments {units : List Bytes} {nal : Bytes} {marker : Bool} {offset : Nat}
    (hopen : 1 < offset) (hlt : offset < nal.length) :
    receiveAll ⟨units, some (nal.take offset)⟩
        ((fragmentPayloads nal marker offset).map (·.2)) =
      some ⟨units ++ [nal], none⟩ := by
  fun_induction fragmentPayloads nal marker offset with
  | case1 offset _ stop start last payload ih =>
    have hle : offset ≤ stop := by simp only [stop, RTP_MAX_PAYLOAD_BYTES]; omega
    have hstart : start = false := decide_eq_false (by omega)
    rw [List.map_cons, receiveAll_cons]
    simp only [payload, hstart]
    rw [receive_fragment, take_append_slice nal hle]
    by_cases hstop : stop < nal.length
    · have hlast : last = false := decide_eq_false (by omega)
      rw [hlast]
      exact ih (by omega) hstop
    · have hlast : last = true := decide_eq_true (by omega)
      rw [hlast, fragmentPayloads, if_neg hstop, List.take_of_length_le (by omega)]
      rfl
  | case2 offset hge => exact absurd hlt hge

/-- A unit in fragments is reassembled: its first byte comes back from the indicator and
the fragment header, the others from the chunks. -/
theorem receiveAll_fragmented {units : List Bytes} {nal : Bytes} {marker : Bool}
    (hlong : RTP_MAX_PAYLOAD_BYTES < nal.length) :
    receiveAll ⟨units, none⟩ ((fragmentPayloads nal marker 1).map (·.2)) =
      some ⟨units ++ [nal], none⟩ := by
  simp only [RTP_MAX_PAYLOAD_BYTES] at hlong
  have hstop : min (1 + (RTP_MAX_PAYLOAD_BYTES - 2)) nal.length = 1199 := by
    simp only [RTP_MAX_PAYLOAD_BYTES]
    omega
  have hlast : decide (1199 = nal.length) = false := decide_eq_false (by omega)
  have hfirst : nalHeader nal :: slice nal 1 1199 = nal.take 1199 := by
    rw [← take_append_slice nal (show 1 ≤ 1199 by omega)]
    obtain ⟨header, body, rfl⟩ := List.exists_cons_of_ne_nil
      (List.ne_nil_of_length_pos (show 0 < nal.length by omega))
    rfl
  rw [fragmentPayloads, if_pos (by omega)]
  simp only [hstop, hlast, decide_true, List.map_cons, receiveAll_cons, receive_firstFragment,
    hfirst]
  exact receiveAll_fragments (by omega) (by omega)

theorem receiveAll_nalPayloads {units : List Bytes} {nal : Bytes} {marker : Bool}
    (hne : nal ≠ []) (hlow : 1 ≤ (nalHeader nal &&& 0x1f).toNat)
    (hhigh : (nalHeader nal &&& 0x1f).toNat ≤ 23) :
    receiveAll ⟨units, none⟩ ((nalPayloads nal marker).map (·.2)) =
      some ⟨units ++ [nal], none⟩ := by
  unfold nalPayloads
  split
  next =>
    obtain ⟨header, body, rfl⟩ := List.exists_cons_of_ne_nil hne
    have hkind : 1 ≤ (header &&& 0x1f).toNat ∧ (header &&& 0x1f).toNat ≤ 23 := ⟨hlow, hhigh⟩
    simp only [List.map_cons, List.map_nil, receiveAll_cons, receive]
    rw [if_pos hkind]
    rfl
  next hlong => exact receiveAll_fragmented (Nat.lt_of_not_le hlong)

theorem receiveAll_unitPayloads {before units : List Bytes}
    (h : ∀ nal ∈ units, nal ≠ [] ∧
      1 ≤ (nalHeader nal &&& 0x1f).toNat ∧ (nalHeader nal &&& 0x1f).toNat ≤ 23) :
    receiveAll ⟨before, none⟩ ((unitPayloads units).map (·.2)) =
      some ⟨before ++ units, none⟩ := by
  fun_induction unitPayloads units generalizing before with
  | case1 => simp
  | case2 nal =>
    obtain ⟨hne, hlow, hhigh⟩ := h nal List.mem_cons_self
    exact receiveAll_nalPayloads hne hlow hhigh
  | case3 nal next units ih =>
    obtain ⟨hne, hlow, hhigh⟩ := h nal List.mem_cons_self
    rw [List.map_append, receiveAll_append, receiveAll_nalPayloads hne hlow hhigh]
    have rest : receiveAll ⟨before ++ [nal], none⟩ _ = _ :=
      ih (fun n hn => h n (List.mem_cons_of_mem _ hn))
    rw [List.append_assoc] at rest
    exact rest

end H264Receiver

/-! ## The round trip -/

/-- What a receiver reads from bytes of the media connection: the RTP packets in whole
interleaved frames, with the channel of each. -/
def receivedPackets (bytes : Bytes) : Option (List (UInt8 × RtpPacket)) :=
  (InterleavedFrame.code.decodeAll bytes).bind (fun frames =>
    frames.mapM (fun frame => (RtpPacket.decode frame.payload).map (frame.channel, ·)))

theorem receivedPackets_wire {channel : UInt8} {packets : List RtpPacket}
    (hkind : ∀ p ∈ packets, p.payloadType &&& 0x80 = 0)
    (hfit : ∀ p ∈ packets, p.payload.length ≤ RTP_MAX_PAYLOAD_BYTES) :
    receivedPackets (wire channel packets) = some (packets.map (channel, ·)) := by
  unfold receivedPackets wire
  rw [SelfDelimiting.decodeAll_encodeAll]
  · induction packets with
    | nil => rfl
    | cons p packets ih =>
      have hrest := ih (fun q hq => hkind q (List.mem_cons_of_mem _ hq))
        (fun q hq => hfit q (List.mem_cons_of_mem _ hq))
      simp only [Option.bind_some] at hrest
      simp [RtpPacket.decode_encode p (hkind p List.mem_cons_self), hrest]
  · intro frame hframe
    obtain ⟨p, hp, rfl⟩ := List.mem_map.mp hframe
    have := hfit p hp
    change p.encode.length < 65536
    simp only [RtpPacket.encode_length, RTP_MAX_PAYLOAD_BYTES] at this ⊢
    omega

theorem packetsOf_fields {rtp : RtpState} {payloads : List (Bool × Bytes)} {packet : RtpPacket}
    (h : packet ∈ packetsOf rtp payloads) : packet.payloadType &&& 0x80 = 0 := by
  obtain ⟨i, hi⟩ := List.getElem?_of_mem h
  rw [(packetsOf_getElem? hi).1]
  decide

theorem packetsOf_fit {rtp : RtpState} {payloads : List (Bool × Bytes)} {packet : RtpPacket}
    (hfit : ∀ p ∈ payloads, p.2.length ≤ RTP_MAX_PAYLOAD_BYTES)
    (h : packet ∈ packetsOf rtp payloads) : packet.payload.length ≤ RTP_MAX_PAYLOAD_BYTES := by
  have hmem := List.mem_map_of_mem (f := (·.payload)) h
  rw [packetsOf_payload] at hmem
  obtain ⟨p, hp, heq⟩ := List.mem_map.mp hmem
  exact heq ▸ hfit p hp

/-- The marker bit of the `i`-th packet, for payloads that mark only the last. -/
theorem marker_iff_last {rtp : RtpState} {payloads : List (Bool × Bytes)}
    (hmarks : MarksLast true (payloads.map (·.1))) {i : Nat} {packet : RtpPacket}
    (h : (packetsOf rtp payloads)[i]? = some packet) :
    packet.marker = true ↔ i + 1 = (packetsOf rtp payloads).length := by
  obtain ⟨k, hk⟩ := hmarks
  rw [← packetsOf_marker rtp] at hk
  have hlen := congrArg List.length hk
  have hbit := congrArg (·[i]?) hk
  have hi := (List.getElem?_eq_some_iff.mp h).1
  simp only [List.length_map, List.length_append, List.length_replicate, List.length_singleton]
    at hlen
  simp only [List.getElem?_map, h, Option.map_some] at hbit
  by_cases hlast : i = k
  · subst hlast
    simp only [List.length_replicate, Nat.le_refl, List.getElem?_append_right, Nat.sub_self,
      List.getElem?_cons_zero, Option.some.injEq] at hbit
    simp only [hbit, true_iff]
    omega
  · rw [List.getElem?_append_left (by rw [List.length_replicate]; omega),
      List.getElem?_replicate_of_lt (by omega), Option.some.injEq] at hbit
    simp only [hbit, Bool.false_eq_true, false_iff]
    omega

/-- What the socket and the receiver see of one sent access unit: whole interleaved RTP
packets from which the NAL units are recovered, numbered on from the state, with one
timestamp and the marker on the last; writes of whole packets within the batch limit;
and a state that advanced by exactly what was emitted. -/
structure Transmits (channel : UInt8) (batchLimit : Nat) (rtp : RtpState) (units : List Bytes)
    (out : Sending) (packets : List RtpPacket) : Prop where
  received : receivedPackets out.socket.flatten = some (packets.map (channel, ·))
  recovered : H264Receiver.recovered (packets.map (·.payload)) = some units
  numbered : ∀ i packet, packets[i]? = some packet →
    packet.sequence = rtp.sequence + UInt16.ofNat i ∧ packet.timestamp = rtp.timestamp ∧
    packet.payloadType = RTP_VIDEO_PAYLOAD_TYPE ∧ packet.ssrc = RTP_VIDEO_SSRC ∧
    (packet.marker = true ↔ i + 1 = packets.length)
  writes : ∀ write ∈ out.socket, write.length ≤ batchLimit ∧
    ∃ whole, receivedPackets write = some whole
  counted : out.rtp =
    { sequence := rtp.sequence + UInt16.ofNat packets.length
      timestamp := rtp.timestamp
      packetCount := rtp.packetCount + UInt32.ofNat packets.length
      octetCount := rtp.octetCount + UInt32.ofNat (packets.map (·.payload.length)).sum }

/-- Sending an accepted access unit with the flag its inspection returned transmits the
NAL units that `for_each_h264_nal` visits, and both sending paths write the same bytes. -/
theorem sendH264AccessUnit_roundTrip (accessUnit : Bytes) (keyframe singleNal : Bool)
    (maxBytes : Nat) (sender : RtpPacketWriter) (batchWrites : Bool) (rtp : RtpState)
    (hinspect : inspectH264AccessUnit accessUnit keyframe maxBytes = .ok singleNal) :
    ∃ units out packets,
      h264NalUnits accessUnit = .ok units ∧
      sendH264AccessUnit sender accessUnit singleNal batchWrites rtp = .ok out ∧
      sendH264AccessUnit sender accessUnit false batchWrites rtp = .ok out ∧
      Transmits sender.channel (h264BatchLimit batchWrites) rtp units out packets := by
  obtain ⟨nalStart, accepted⟩ := inspectH264AccessUnit_eq_ok hinspect
  let units := nalUnits accessUnit nalStart
  let packets := packetsOf rtp (unitPayloads units)
  let start : Sending := { sender := { sender with packet := [] }, socket := [], rtp }
  have hpacked : Packed sender.channel (h264BatchLimit batchWrites) rtp (unitPayloads units)
      (start.pushAll (h264BatchLimit batchWrites) (unitPayloads units)) := by
    have hempty := Packed.empty sender (h264BatchLimit batchWrites) rtp
    refine hempty.pushAll _ (fun p hp => ?_)
    have hsmall := unitPayloads_length p hp
    have hbatch := batchLimit_fits batchWrites
    omega
  obtain ⟨hflushed, hbuffer⟩ := hpacked.flush
  obtain ⟨writes, rest, hsplit, hsocket, hrest, hwrites, -⟩ := hflushed.batches
  obtain rfl : rest = [] := wire_eq_nil.mp (hrest.symm.trans hbuffer)
  rw [List.append_nil] at hsplit
  have hreceived : ∀ some_packets : List RtpPacket, (∀ p ∈ some_packets, p ∈ packets) →
      receivedPackets (wire sender.channel some_packets) =
        some (some_packets.map (sender.channel, ·)) := fun _ hsub =>
    receivedPackets_wire (fun p hp => packetsOf_fields (hsub p hp))
      (fun p hp => packetsOf_fit unitPayloads_length (hsub p hp))
  have hpayloads : packets.map (·.payload) = (unitPayloads units).map (·.2) :=
    packetsOf_payload _ _
  refine ⟨units, _, packets, accepted.units,
    sendH264AccessUnit_eq accepted sender batchWrites rtp singleNal id,
    sendH264AccessUnit_eq accepted sender batchWrites rtp false (by simp), ?_, ?_, ?_, ?_, ?_⟩
  · have hflat : (writes.map (wire sender.channel)).flatten = wire sender.channel packets := by
      change _ = wire sender.channel (packetsOf rtp (unitPayloads units))
      rw [hsplit]
      clear hsplit hsocket hwrites
      induction writes with
      | nil => rfl
      | cons write writes ih => rw [List.map_cons, List.flatten_cons, List.flatten_cons,
          wire_append, ih]
    rw [hsocket, hflat]
    exact hreceived packets (fun _ => id)
  · rw [hpayloads, H264Receiver.recovered, H264Receiver.empty,
      H264Receiver.receiveAll_unitPayloads accepted.nal]
    rfl
  · intro i packet hi
    obtain ⟨hkind, hssrc, htime, hseq⟩ := packetsOf_getElem? hi
    exact ⟨hseq, htime, hkind, hssrc, marker_iff_last (unitPayloads_marks accepted.nonempty) hi⟩
  · intro write hwrite
    rw [hsocket] at hwrite
    obtain ⟨whole, hwhole, rfl⟩ := List.mem_map.mp hwrite
    refine ⟨hwrites whole hwhole, _, hreceived whole (fun p hp => ?_)⟩
    change p ∈ packetsOf rtp (unitPayloads units)
    rw [hsplit]
    exact List.mem_flatten.mpr ⟨whole, hwhole, hp⟩
  · have hsizes : (unitPayloads units).map (·.2.length) = packets.map (·.payload.length) := by
      have := congrArg (List.map List.length) hpayloads
      simpa only [List.map_map, Function.comp_def] using this.symm
    rw [hflushed.rtp_eq, hsizes, RtpState.recordPackets_eq, List.length_map]

/-- A parameter set with a three-byte start code before an IDR slice with a four-byte one. -/
theorem sendH264AccessUnit_roundTrip_twoUnits :
    ∃ units out packets,
      h264NalUnits [0, 0, 1, 0x67, 0x42, 0, 0, 0, 1, 0x65, 0x88] = .ok units ∧
      sendH264AccessUnit ⟨2, []⟩ [0, 0, 1, 0x67, 0x42, 0, 0, 0, 1, 0x65, 0x88] false true
        { sequence := 65535 } = .ok out ∧
      sendH264AccessUnit ⟨2, []⟩ [0, 0, 1, 0x67, 0x42, 0, 0, 0, 1, 0x65, 0x88] false true
        { sequence := 65535 } = .ok out ∧
      Transmits 2 (h264BatchLimit true) { sequence := 65535 } units out packets :=
  sendH264AccessUnit_roundTrip _ true false 64 ⟨2, []⟩ true _ (by decide +kernel)

end VRCStreamer
