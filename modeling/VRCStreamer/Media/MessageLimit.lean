import VRCStreamer.Media.StreamerFrame
import VRCStreamer.Text.Basic

/-!
# The limit on messages

`max_ws_message_bytes` of `main.rs` with the settings that it reads. The parser of `media.rs`
checks each kind of media against a limit of its own; the socket has one limit for all messages,
and a longer message closes the session.
-/

namespace VRCStreamer

open Codec

def H264_DEFAULT_MAX_ACCESS_UNIT_BYTES : Nat := 512 * 1024
def H264_HARD_MAX_ACCESS_UNIT_BYTES : Nat := 8 * 1024 * 1024

/-! ## Settings -/

/-- `usize::saturating_add`. -/
def saturatingAdd (left right : Nat) : Nat := min (left + right) (2 ^ 64 - 1)

/-- The value is that of the environment variable, if it is set to Unicode text. -/
def envUsizeInRange (key : String) (value : Option Text) (default min max : Nat) :
    Except String Nat :=
  let parsed : Except String Nat :=
    match value with
    | some text =>
      match Text.parseUsize text with
      | some number => .ok number
      | none => .error s!"{key} must be an integer"
    | none => .ok default
  match parsed with
  | .error reason => .error reason
  | .ok number =>
    if min ≤ number ∧ number ≤ max then .ok number
    else .error s!"{key} must be between {min} and {max}"

def envBool (value : Option Text) (default : Bool) : Bool :=
  match value with
  | some text =>
    let text := Text.toAsciiLowercase text
    text = ['1'] || text = ['t', 'r', 'u', 'e'] || text = ['y', 'e', 's'] || text = ['o', 'n']
  | none => default

/-- `Config::from_env`, as far as the variables `VIDEO` and `MAX_H264_FRAME_BYTES` go. -/
def MediaConfig.fromEnv (video maxH264FrameBytes : Option Text) : Except String MediaConfig :=
  match envUsizeInRange "MAX_H264_FRAME_BYTES" maxH264FrameBytes
    H264_DEFAULT_MAX_ACCESS_UNIT_BYTES 1 H264_HARD_MAX_ACCESS_UNIT_BYTES with
  | .error reason => .error reason
  | .ok maxBytes => .ok ⟨envBool video true, maxBytes⟩

def maxWsMessageBytes (config : MediaConfig) : Nat :=
  let mediaBytes :=
    if config.videoEnabled then config.maxH264FrameBytes else AAC_MAX_ACCESS_UNIT_BYTES
  saturatingAdd mediaBytes MEDIA_FRAME_HEADER_BYTES

theorem envUsizeInRange_bounds {key : String} {value : Option Text} {default min max number : Nat}
    (h : envUsizeInRange key value default min max = .ok number) : min ≤ number ∧ number ≤ max := by
  simp only [envUsizeInRange] at h
  split at h
  next => cases h
  next parsed _ =>
    split at h
    next hrange =>
      cases h
      exact hrange
    next => cases h

theorem MediaConfig.fromEnv_bounds {video maxH264FrameBytes : Option Text} {config : MediaConfig}
    (h : MediaConfig.fromEnv video maxH264FrameBytes = .ok config) :
    1 ≤ config.maxH264FrameBytes ∧ config.maxH264FrameBytes ≤ H264_HARD_MAX_ACCESS_UNIT_BYTES := by
  rw [MediaConfig.fromEnv] at h
  split at h
  next => cases h
  next hnumber =>
    cases h
    exact envUsizeInRange_bounds hnumber

/-- Within the range of the setting the sum does not saturate. -/
theorem maxWsMessageBytes_eq {config : MediaConfig}
    (h : config.maxH264FrameBytes ≤ H264_HARD_MAX_ACCESS_UNIT_BYTES) :
    maxWsMessageBytes config =
      (if config.videoEnabled then config.maxH264FrameBytes else AAC_MAX_ACCESS_UNIT_BYTES) +
        MEDIA_FRAME_HEADER_BYTES := by
  have hsmall : H264_HARD_MAX_ACCESS_UNIT_BYTES + MEDIA_FRAME_HEADER_BYTES ≤ 2 ^ 64 - 1 ∧
      AAC_MAX_ACCESS_UNIT_BYTES ≤ H264_HARD_MAX_ACCESS_UNIT_BYTES := by decide
  apply Nat.min_eq_left
  split <;> omega

/-! ## The length of an accepted message -/

def StreamerMediaFrame.accessUnit : StreamerMediaFrame → Bytes
  | .audio accessUnit _ => accessUnit
  | .video accessUnit _ _ _ => accessUnit

/-- The limit that the parser has checked. -/
def StreamerMediaFrame.maxBytes (config : MediaConfig) : StreamerMediaFrame → Nat
  | .audio _ _ => AAC_MAX_ACCESS_UNIT_BYTES
  | .video _ _ _ _ => config.maxH264FrameBytes

theorem inspectH264AccessUnit_length {accessUnit : Bytes} {keyframe singleNal : Bool}
    {maxBytes : Nat} (h : inspectH264AccessUnit accessUnit keyframe maxBytes = .ok singleNal) :
    accessUnit.length ≤ maxBytes := by
  rw [inspectH264AccessUnit] at h
  split at h
  next => cases h
  next =>
    split at h
    next => cases h
    next hlong => exact Nat.le_of_not_lt hlong

theorem exists_of_map_eq_ok {ε α β : Type} {outcome : Except ε α} {f : α → β} {b : β}
    (h : outcome.map f = .ok b) : ∃ a, outcome = .ok a ∧ f a = b := by
  cases outcome with
  | error reason => cases h
  | ok a => exact ⟨a, rfl, Except.ok.inj h⟩

/-- An accepted message is the header and an access unit within the limit of its kind. Video is
accepted only where it is enabled. -/
theorem parseStreamerMediaFrame_length {config : MediaConfig} {frame : Bytes}
    {media : StreamerMediaFrame} (h : parseStreamerMediaFrame config frame = .ok media) :
    frame.length = media.accessUnit.length + MEDIA_FRAME_HEADER_BYTES ∧
      media.accessUnit.length ≤ media.maxBytes config ∧
      (media.maxBytes config = AAC_MAX_ACCESS_UNIT_BYTES ∨
        (config.videoEnabled = true ∧ media.maxBytes config = config.maxH264FrameBytes)) := by
  rw [parseStreamerMediaFrame.eq_def] at h
  split at h
  next => cases h
  next kind body =>
    split at h
    next =>
      split at h
      next t3 t2 t1 t0 accessUnit =>
        obtain ⟨valid, hvalid, rfl⟩ := exists_of_map_eq_ok h
        exact ⟨rfl, (validateAacAccessUnit_length hvalid).2, .inl rfl⟩
      next => cases h
    next =>
      split at h
      next =>
        split at h
        next => cases h
        next henabled =>
          split at h
          next t3 t2 t1 t0 accessUnit =>
            obtain ⟨singleNal, hinspect, rfl⟩ := exists_of_map_eq_ok h
            exact ⟨rfl, inspectH264AccessUnit_length hinspect, .inr ⟨by simpa using henabled, rfl⟩⟩
          next => cases h
      next => cases h

/-- Video comes from a frame of one of its kinds, behind the header, where it is enabled. -/
theorem parseStreamerMediaFrame_video {config : MediaConfig} {frame accessUnit : Bytes}
    {keyframe singleNal : Bool} {sourceTimestamp : UInt32}
    (h : parseStreamerMediaFrame config frame =
      .ok (.video accessUnit keyframe singleNal sourceTimestamp)) :
    frame.head? = some (if keyframe then 0x01 else 0x02) ∧
      accessUnit = frame.drop MEDIA_FRAME_HEADER_BYTES ∧ config.videoEnabled = true ∧
      inspectH264AccessUnit accessUnit keyframe config.maxH264FrameBytes = .ok singleNal := by
  rw [parseStreamerMediaFrame.eq_def] at h
  split at h
  next => cases h
  next kind body =>
    split at h
    next =>
      split at h
      next t3 t2 t1 t0 unit =>
        obtain ⟨valid, hvalid, heq⟩ := exists_of_map_eq_ok h
        cases heq
      next => cases h
    next =>
      split at h
      next hkind =>
        split at h
        next => cases h
        next henabled =>
          split at h
          next t3 t2 t1 t0 unit =>
            obtain ⟨found, hinspect, heq⟩ := exists_of_map_eq_ok h
            obtain ⟨rfl, rfl, rfl, -⟩ := StreamerMediaFrame.video.inj heq
            refine ⟨?_, rfl, by simpa using henabled, hinspect⟩
            obtain rfl | rfl := hkind
            · rfl
            · rfl
          next => cases h
      next => cases h

/-- The timestamp in the header of a frame. -/
def frameTimestamp : Bytes → Option UInt32
  | _ :: t3 :: t2 :: t1 :: t0 :: _ => some (read32 t3 t2 t1 t0)
  | _ => none

def StreamerMediaFrame.sourceTimestamp : StreamerMediaFrame → UInt32
  | .audio _ sourceTimestamp => sourceTimestamp
  | .video _ _ _ sourceTimestamp => sourceTimestamp

/-- An accepted message is too long exactly when it holds audio and only the setting for video
rules it out. -/
theorem parseStreamerMediaFrame_fits_iff {config : MediaConfig} {frame : Bytes}
    {media : StreamerMediaFrame} (hmax : config.maxH264FrameBytes ≤ H264_HARD_MAX_ACCESS_UNIT_BYTES)
    (h : parseStreamerMediaFrame config frame = .ok media) :
    frame.length ≤ maxWsMessageBytes config ↔
      (config.videoEnabled = true → media.accessUnit.length ≤ config.maxH264FrameBytes) := by
  obtain ⟨hlength, hle, hkind⟩ := parseStreamerMediaFrame_length h
  rw [hlength, maxWsMessageBytes_eq hmax, Nat.add_le_add_iff_right]
  cases henabled : config.videoEnabled with
  | false =>
    obtain haudio | ⟨hvideo, -⟩ := hkind
    · simpa [haudio] using hle
    · exact absurd (henabled.symm.trans hvideo) Bool.false_ne_true
  | true => simp

/-! ## The longest audio -/

/-- A message with an access unit of the greatest length; it opens with a channel pair. -/
def longestAudioFrame : Bytes :=
  0x00 :: 0 :: 0 :: 0 :: 0 :: List.replicate AAC_MAX_ACCESS_UNIT_BYTES 0x21

theorem validateAacAccessUnit_replicate {n : Nat} (hshort : 4 ≤ n)
    (hlong : n ≤ AAC_MAX_ACCESS_UNIT_BYTES) :
    validateAacAccessUnit (List.replicate n 0x21) = .ok () := by
  obtain ⟨m, rfl⟩ : ∃ m, n = m + 1 := ⟨n - 1, by omega⟩
  have htag : slice (List.replicate (m + 1) 0x21) 4 8 ≠ ftypTag := by
    intro heq
    have hmem : (0x66 : UInt8) ∈ slice (List.replicate (m + 1) 0x21) 4 8 := by
      rw [heq]
      decide
    have horigin := List.mem_of_mem_drop (List.mem_of_mem_take hmem)
    exact absurd (List.eq_of_mem_replicate horigin) (by decide)
  have hadts : looksLikeAdtsFrame (List.replicate (m + 1) 0x21) = false :=
    looksLikeAdtsFrame_of_ne (by decide) _
  have hsignature : rejectedMediaSignature (List.replicate (m + 1) 0x21) = none :=
    (rejectedMediaSignature_of_channelPair (by decide) _).trans (if_neg htag)
  rw [validateAacAccessUnit, List.length_replicate, if_neg (Nat.not_lt.mpr hshort),
    if_neg (Nat.not_lt.mpr hlong), hadts, if_neg Bool.false_ne_true, hsignature]

theorem parseStreamerMediaFrame_longestAudioFrame (config : MediaConfig) :
    parseStreamerMediaFrame config longestAudioFrame =
      .ok (.audio (List.replicate AAC_MAX_ACCESS_UNIT_BYTES 0x21) (read32 0 0 0 0)) := by
  have hvalid := validateAacAccessUnit_replicate (n := AAC_MAX_ACCESS_UNIT_BYTES)
    (by decide) le_rfl
  rw [longestAudioFrame, parseStreamerMediaFrame, if_pos rfl, hvalid]
  rfl

/-! ## Legal messages and the limit -/

/-- Every message that the parser accepts fits exactly when video is disabled or the setting for
video leaves room for the longest audio. -/
theorem accepted_messages_fit_iff {video maxH264FrameBytes : Option Text} {config : MediaConfig}
    (hconfig : MediaConfig.fromEnv video maxH264FrameBytes = .ok config) :
    (∀ frame media, parseStreamerMediaFrame config frame = .ok media →
      frame.length ≤ maxWsMessageBytes config) ↔
      (config.videoEnabled = true → AAC_MAX_ACCESS_UNIT_BYTES ≤ config.maxH264FrameBytes) := by
  have hmax := (MediaConfig.fromEnv_bounds hconfig).2
  constructor
  · intro hfit henabled
    have hlongest := parseStreamerMediaFrame_longestAudioFrame config
    have hroom := (parseStreamerMediaFrame_fits_iff hmax hlongest).mp (hfit _ _ hlongest) henabled
    simpa [StreamerMediaFrame.accessUnit] using hroom
  · intro hroom frame media haccepted
    refine (parseStreamerMediaFrame_fits_iff hmax haccepted).mpr fun henabled => ?_
    obtain ⟨-, hle, haudio | ⟨-, hvideo⟩⟩ := parseStreamerMediaFrame_length haccepted
    · exact (haudio ▸ hle).trans (hroom henabled)
    · exact hvideo ▸ hle

theorem accepted_messages_fit_iff_default :
    MediaConfig.fromEnv none none = .ok ⟨true, H264_DEFAULT_MAX_ACCESS_UNIT_BYTES⟩ ∧
      ((∀ frame media,
        parseStreamerMediaFrame ⟨true, H264_DEFAULT_MAX_ACCESS_UNIT_BYTES⟩ frame = .ok media →
          frame.length ≤ maxWsMessageBytes ⟨true, H264_DEFAULT_MAX_ACCESS_UNIT_BYTES⟩) ↔
        (true = true → AAC_MAX_ACCESS_UNIT_BYTES ≤ H264_DEFAULT_MAX_ACCESS_UNIT_BYTES)) := by
  have hconfig : MediaConfig.fromEnv none none =
      .ok ⟨true, H264_DEFAULT_MAX_ACCESS_UNIT_BYTES⟩ := by decide
  exact ⟨hconfig, accepted_messages_fit_iff hconfig⟩

/-- Access units of at most 512 bytes for video: the audio of 320 kbit/s no longer fits. -/
theorem accepted_message_too_long :
    ∃ config frame media, MediaConfig.fromEnv none (some ['5', '1', '2']) = .ok config ∧
      parseStreamerMediaFrame config frame = .ok media ∧
      maxWsMessageBytes config < frame.length := by
  refine ⟨⟨true, 512⟩, 0x00 :: 0 :: 0 :: 0 :: 0 :: List.replicate 853 0x21,
    .audio (List.replicate 853 0x21) (read32 0 0 0 0), ?_, ?_, ?_⟩
  · decide +kernel
  · decide +kernel
  · decide +kernel

end VRCStreamer
