import VRCStreamer.Codec.Bits
import VRCStreamer.Media.StreamerFrame
import VRCStreamer.Rtp.Wire
import VRCStreamer.Rtsp.TrackNames

/-!
# The audio track at its receiver

A receiver of `mpeg4-generic` audio takes the widths of the fields of an access unit header from the
description, reads the headers in front of each packet's data, and cuts the data at the sizes they
give. What the server accepts from a publisher and sends is what such a receiver recovers.
-/

namespace VRCStreamer

open Codec

/-! ## Parameters of the track -/

namespace Sdp

/-- The value of a format parameter. -/
def parameter (name fmtp : Text) : Option Text :=
  ((fmtp.splitOnP (· == ';')).map Text.trim).findSome? (value (name ++ ['=']))

/-- The format parameters of a payload type, from its last line. -/
def fmtp (payloadType : UInt8) (sdp : Text) : Option Text :=
  ((lines sdp).filterMap
    (value ("a=fmtp:".toList ++ Text.decimal payloadType.toNat ++ [' ']))).getLast?

theorem lines_append_newline (front rest : Text) :
    lines (front ++ '\n' :: rest) = lines front ++ lines rest := by
  rw [lines, List.splitOnP_append_cons front rest rfl, List.map_append]
  rfl

theorem fmtp_crlfLines {payloadType : UInt8} {line parameters : Text} (hline : '\n' ∉ line)
    (hvalue : value ("a=fmtp:".toList ++ Text.decimal payloadType.toNat ++ [' ']) line =
      some parameters) (front : List Text) (last : Text) :
    fmtp payloadType (Text.crlfLines (front ++ [last, line])) = some parameters := by
  have hsplit : Text.crlfLines (front ++ [last, line]) =
      (Text.crlfLines front ++ last ++ ['\r']) ++ '\n' :: Text.crlfLines [line] := by
    simp [Text.crlfLines]
  have hlast : lines (Text.crlfLines [line]) = [line, []] :=
    lines_crlfLines (List.forall_mem_singleton.mpr hline)
  have hempty : value ("a=fmtp:".toList ++ Text.decimal payloadType.toNat ++ [' ']) [] = none := by
    rw [value, if_neg]
    simp
  rw [fmtp, hsplit, lines_append_newline, hlast, List.filterMap_append,
    List.filterMap_cons_some hvalue, List.filterMap_cons_none hempty, List.filterMap_nil,
    List.getLast?_concat]

end Sdp

/-- Widths of the fields of an access unit header, in bits. The index of the first header of a
packet has its own width. -/
structure AuFormat where
  sizeLength : Nat
  indexLength : Nat
  indexDeltaLength : Nat
  deriving DecidableEq

namespace AuFormat

def ofFmtp (fmtp : Text) : Option AuFormat :=
  ((Sdp.parameter "sizelength".toList fmtp).bind Text.parseUsize).bind (fun sizeLength =>
    ((Sdp.parameter "indexlength".toList fmtp).bind Text.parseUsize).bind (fun indexLength =>
      ((Sdp.parameter "indexdeltalength".toList fmtp).bind Text.parseUsize).map
        (fun indexDeltaLength => ⟨sizeLength, indexLength, indexDeltaLength⟩)))

/-- The format that a description gives the audio track. -/
def ofSdp (sdp : Text) : Option AuFormat := (Sdp.fmtp RTP_AUDIO_PAYLOAD_TYPE sdp).bind ofFmtp

/-- The format of high-bitrate AAC. -/
def aacHbr : AuFormat where
  sizeLength := 13
  indexLength := 3
  indexDeltaLength := 3

/-- The last line of the audio section, behind the payload type. -/
def audioFmtp : Text :=
  "config=".toList ++ AAC_AUDIO_SPECIFIC_CONFIG.toList ++
    ("; indexdeltalength=3; indexlength=3; mode=AAC-hbr; profile-level-id=1; " ++
      "sizelength=13; streamtype=5").toList

/-- The line of the parameters ends the audio section. -/
theorem audioLines_append (trackId : Nat) : ∃ front last, audioLines trackId = front ++ [last,
    "a=fmtp:".toList ++ Text.decimal RTP_AUDIO_PAYLOAD_TYPE.toNat ++ [' '] ++ audioFmtp] := by
  have hline : "a=fmtp:".toList ++ Text.decimal RTP_AUDIO_PAYLOAD_TYPE.toNat ++ [' '] ++ audioFmtp =
      "a=fmtp:".toList ++ Text.decimal RTP_AUDIO_PAYLOAD_TYPE.toNat ++ " config=".toList ++
        AAC_AUDIO_SPECIFIC_CONFIG.toList ++
        ("; indexdeltalength=3; indexlength=3; mode=AAC-hbr; profile-level-id=1; " ++
          "sizelength=13; streamtype=5").toList := by decide +kernel
  rw [hline]
  exact ⟨[_, _], _, rfl⟩

/-- Whatever the video track is, the description advertises high-bitrate AAC. -/
theorem ofSdp_rtspSdp (videoFmtp : Option Text) : ofSdp (rtspSdp videoFmtp) = some aacHbr := by
  have hnewline : '\n' ∉ "a=fmtp:".toList ++ Text.decimal RTP_AUDIO_PAYLOAD_TYPE.toNat ++ [' '] ++
      audioFmtp := by decide +kernel
  have hvalue : Sdp.value ("a=fmtp:".toList ++ Text.decimal RTP_AUDIO_PAYLOAD_TYPE.toNat ++ [' '])
      ("a=fmtp:".toList ++ Text.decimal RTP_AUDIO_PAYLOAD_TYPE.toNat ++ [' '] ++ audioFmtp) =
      some audioFmtp := by decide +kernel
  have hformat : ofFmtp audioFmtp = some aacHbr := by decide +kernel
  obtain ⟨front, last, hlines⟩ : ∃ front last, rtspSdp videoFmtp = Text.crlfLines (front ++ [last,
      "a=fmtp:".toList ++ Text.decimal RTP_AUDIO_PAYLOAD_TYPE.toNat ++ [' '] ++ audioFmtp]) := by
    cases videoFmtp with
    | none =>
      obtain ⟨front, last, haudio⟩ := audioLines_append 0
      rw [rtspSdp_none, haudio, ← List.append_assoc]
      exact ⟨_, last, rfl⟩
    | some fmtp =>
      obtain ⟨front, last, haudio⟩ := audioLines_append 1
      rw [rtspSdp_some, haudio, ← List.cons_append, ← List.append_assoc, ← List.append_assoc]
      exact ⟨_, last, rfl⟩
  rw [ofSdp, hlines, Sdp.fmtp_crlfLines hnewline hvalue, Option.bind_some, hformat]

/-! ## Access units of a packet -/

/-- The sizes in a row of headers; the indices are not used. -/
def auSizes (format : AuFormat) (indexLength : Nat) (headers : List Bool) : Option (List Nat) :=
  if headers = [] then some []
  else if _ : 0 < format.sizeLength then
    match _ : readBits format.sizeLength headers with
    | none => none
    | some (size, behind) =>
      match _ : readBits indexLength behind with
      | none => none
      | some (_, behind) => (format.auSizes format.indexDeltaLength behind).map (size :: ·)
  else none
termination_by headers.length
decreasing_by
  have hsize := readBits_length ‹readBits format.sizeLength headers = _›
  have hindex := readBits_length ‹readBits indexLength _ = _›
  omega

@[simp] theorem auSizes_nil (format : AuFormat) (indexLength : Nat) :
    format.auSizes indexLength [] = some [] := by
  rw [auSizes, if_pos rfl]

theorem auSizes_append {format : AuFormat} {indexLength size index : Nat}
    (hsize : size < 2 ^ format.sizeLength) (hpos : 0 < format.sizeLength)
    (hindex : index < 2 ^ indexLength) (headers : List Bool) :
    format.auSizes indexLength
        (bits format.sizeLength size ++ (bits indexLength index ++ headers)) =
      (format.auSizes format.indexDeltaLength headers).map (size :: ·) := by
  have hne : bits format.sizeLength size ++ (bits indexLength index ++ headers) ≠ [] := by
    apply List.append_ne_nil_of_left_ne_nil
    apply List.ne_nil_of_length_pos
    rw [bits_length]
    exact hpos
  rw [auSizes, if_neg hne, dif_pos hpos]
  split
  next hread =>
    rw [readBits_bits hsize] at hread
    cases hread
  next size' behind hread =>
    rw [readBits_bits hsize] at hread
    obtain ⟨rfl, rfl⟩ := Prod.mk.inj (Option.some.inj hread)
    split
    next hread' =>
      rw [readBits_bits hindex] at hread'
      cases hread'
    next index' behind hread' =>
      rw [readBits_bits hindex] at hread'
      obtain ⟨-, rfl⟩ := Prod.mk.inj (Option.some.inj hread')
      rfl

end AuFormat

/-- Data cut at sizes that cover all of it. -/
def splitAtSizes : List Nat → Bytes → Option (List Bytes)
  | [], [] => some []
  | [], _ :: _ => none
  | size :: sizes, data =>
    if data.length < size then none
    else (splitAtSizes sizes (data.drop size)).map (data.take size :: ·)

/-- The access units in a packet's payload: the length of the headers in bits, the headers, padded
to whole bytes, and the data. -/
def AuFormat.accessUnits (format : AuFormat) : Bytes → Option (List Bytes)
  | hi :: lo :: rest =>
    let headerBits := (read16 hi lo).toNat
    let headerBytes := (headerBits + 7) / 8
    if rest.length < headerBytes then none
    else
      (format.auSizes format.indexLength ((bytesBits (rest.take headerBytes)).take headerBits)).bind
        (fun sizes => splitAtSizes sizes (rest.drop headerBytes))
  | _ => none

/-- The access units in a frame; only packets of the audio track on its channel have any. -/
def AuFormat.frameUnits (format : AuFormat) (channel : UInt8) :
    UInt8 × RtpFrame → Option (List Bytes)
  | (frameChannel, .packet packet) =>
    if frameChannel = channel ∧ packet.payloadType = RTP_AUDIO_PAYLOAD_TYPE then
      format.accessUnits packet.payload
    else some []
  | (_, .report _) => some []

/-- What a receiver recovers from bytes of the connection. -/
def AuFormat.recovered (format : AuFormat) (channel : UInt8) (bytes : Bytes) :
    Option (List Bytes) :=
  (receivedFrames bytes).bind (fun frames =>
    (frames.mapM (format.frameUnits channel)).map List.flatten)

/-! ## What the server sends -/

/-- The header bytes of `send_aac` hold the size in 13 bits and an index of zero. -/
theorem bytesBits_auHeader {size : Nat} (h : size < 2 ^ 13) :
    bytesBits [(UInt16.ofNat size >>> 5).toUInt8, ((UInt16.ofNat size &&& 0x1f) <<< 3).toUInt8] =
      bits 13 size ++ bits 3 0 := by
  have hword : (UInt16.ofNat size).toNat = size := read16_ofNat_toNat (by omega)
  have hupper : (UInt16.ofNat size >>> 5).toUInt8 = UInt8.ofNat (size * 8 / 2 ^ 8) := by
    apply UInt8.toNat_inj.mp
    have hfive : (5 : UInt16).toNat % 16 = 5 := by decide
    rw [UInt16.toNat_toUInt8, UInt16.toNat_shiftRight, hword, UInt8.toNat_ofNat', hfive,
      Nat.shiftRight_eq_div_pow]
    omega
  have hlower : ((UInt16.ofNat size &&& 0x1f) <<< 3).toUInt8 = UInt8.ofNat (size * 8) := by
    apply UInt8.toNat_inj.mp
    have hthree : (3 : UInt16).toNat % 16 = 3 := by decide
    have hmask : (0x1f : UInt16).toNat = 2 ^ 5 - 1 := by decide
    rw [UInt16.toNat_toUInt8, UInt16.toNat_shiftLeft, UInt16.toNat_and, hword,
      UInt8.toNat_ofNat', hthree, hmask, Nat.and_two_pow_sub_one_eq_mod, Nat.shiftLeft_eq]
    omega
  have hindex : bits 3 (size * 8) = bits 3 0 := by
    have hzero : size * 8 % 2 ^ 3 = 0 := by omega
    rw [← bits_mod, hzero]
  have hsize : size * 8 / 2 ^ 3 = size := by omega
  rw [hupper, hlower, bytesBits_word, ← bits_append 13 3, hindex, hsize]

/-- One header and its data. -/
theorem AuFormat.accessUnits_aacPayload {accessUnit : Bytes} (h : accessUnit.length < 2 ^ 13) :
    aacHbr.accessUnits (aacPayload accessUnit) = some [accessUnit] := by
  have hsizes : aacHbr.auSizes aacHbr.indexLength (bits 13 accessUnit.length ++ bits 3 0) =
      some [accessUnit.length] := by
    have happend : aacHbr.auSizes aacHbr.indexLength
        (bits aacHbr.sizeLength accessUnit.length ++ (bits aacHbr.indexLength 0 ++ [])) =
        (aacHbr.auSizes aacHbr.indexDeltaLength []).map (accessUnit.length :: ·) :=
      auSizes_append h (by decide) (by decide) []
    rw [List.append_nil, auSizes_nil] at happend
    exact happend
  have hdata : splitAtSizes [accessUnit.length] accessUnit = some [accessUnit] := by
    simp [splitAtSizes]
  have hheader := bytesBits_auHeader h
  generalize hupper : (UInt16.ofNat accessUnit.length >>> 5).toUInt8 = upper at hheader
  generalize hlower : ((UInt16.ofNat accessUnit.length &&& 0x1f) <<< 3).toUInt8 = lower at hheader
  have hpayload : aacPayload accessUnit = 0 :: 16 :: upper :: lower :: accessUnit := by
    rw [← hupper, ← hlower]
    rfl
  have hbits : (read16 0 16).toNat = 16 := by decide
  have hall : (bits 13 accessUnit.length ++ bits 3 0).length = 16 := by simp
  rw [hpayload, accessUnits, hbits]
  show (if (upper :: lower :: accessUnit).length < 2 then none
    else (aacHbr.auSizes aacHbr.indexLength ((bytesBits [upper, lower]).take 16)).bind
      (fun sizes => splitAtSizes sizes accessUnit)) = _
  rw [if_neg (by simp), hheader, List.take_of_length_le hall.le, hsizes, Option.bind_some, hdata]

/-- An access unit of at most 13 bits of length is not too large for a packet. -/
theorem Sending.sendAac_succeeds {accessUnit : Bytes} (h : accessUnit.length < 2 ^ 13)
    (s : Sending) : ∃ out written, s.sendAac accessUnit = .ok out ∧
      out.socket = s.socket ++ [written] ∧
      AuFormat.aacHbr.recovered s.sender.channel written = some [accessUnit] := by
  have hfit : ¬ 65535 < 12 + 2 + 2 + accessUnit.length := by omega
  obtain ⟨out, written, hsend, hsocket⟩ : ∃ out written, s.sendAac accessUnit = .ok out ∧
      out.socket = s.socket ++ [written] := by
    rw [sendAac, if_neg hfit]
    exact ⟨_, _, rfl, rfl⟩
  obtain ⟨⟨-, writes, hwrites, hcarries⟩, -⟩ := sendAac_emits hsend
  obtain rfl : [written] = writes := List.append_cancel_left (hsocket.symm.trans hwrites)
  have hreceived := hcarries.received
  rw [List.flatten_singleton] at hreceived
  refine ⟨out, written, hsend, hsocket, ?_⟩
  have hunits : AuFormat.aacHbr.frameUnits s.sender.channel
      (s.sender.channel, .packet (aacPacket s.rtp accessUnit)) = some [accessUnit] := by
    rw [AuFormat.frameUnits, if_pos ⟨rfl, rfl⟩]
    exact AuFormat.accessUnits_aacPayload h
  rw [AuFormat.recovered, hreceived, Option.bind_some, packetFrames, List.map_singleton,
    List.mapM_cons, hunits, List.mapM_nil]
  rfl

/-- An accepted access unit comes back at every receiver with the advertised parameters, and fits
in each field with a length. -/
theorem sendAac_roundTrip {config : MediaConfig} {frame accessUnit : Bytes}
    {sourceTimestamp : UInt32}
    (h : parseStreamerMediaFrame config frame = .ok (.audio accessUnit sourceTimestamp))
    (s : Sending) (videoFmtp : Option Text) :
    (∃ out written, s.sendAac accessUnit = .ok out ∧ out.socket = s.socket ++ [written] ∧
      (AuFormat.ofSdp (rtspSdp videoFmtp)).bind (·.recovered s.sender.channel written) =
        some [frame.drop MEDIA_FRAME_HEADER_BYTES]) ∧
      accessUnit.length < 2 ^ 13 ∧ (aacPacket s.rtp accessUnit).encode.length < 2 ^ 16 := by
  obtain ⟨-, hframe, hvalid⟩ := parseStreamerMediaFrame_audio h
  obtain ⟨-, hlong⟩ := validateAacAccessUnit_length hvalid
  have hsize : accessUnit.length < 2 ^ 13 := by
    simp only [AAC_MAX_ACCESS_UNIT_BYTES] at hlong
    omega
  refine ⟨?_, hsize, ?_⟩
  · obtain ⟨out, written, hsend, hsocket, hrecovered⟩ := s.sendAac_succeeds hsize
    refine ⟨out, written, hsend, hsocket, ?_⟩
    rw [AuFormat.ofSdp_rtspSdp, Option.bind_some, hrecovered, hframe]
  · rw [RtpPacket.encode_length, aacPacket_payload_length]
    omega

theorem sendAac_roundTrip_small :
    let s : Sending := ⟨⟨0, []⟩, [], { sequence := 65535, timestamp := 7 }⟩
    let accessUnit : Bytes := [0x21, 0x10, 0x56, 0xe5]
    (∃ out written, s.sendAac accessUnit = .ok out ∧ out.socket = s.socket ++ [written] ∧
      (AuFormat.ofSdp (rtspSdp none)).bind (·.recovered s.sender.channel written) =
        some [accessUnit]) ∧
      accessUnit.length < 2 ^ 13 ∧ (aacPacket s.rtp accessUnit).encode.length < 2 ^ 16 :=
  @sendAac_roundTrip ⟨true, 1024⟩ [0x00, 0x12, 0x34, 0x56, 0x78, 0x21, 0x10, 0x56, 0xe5]
    [0x21, 0x10, 0x56, 0xe5] 0x12345678 (by decide +kernel) _ none

end VRCStreamer
