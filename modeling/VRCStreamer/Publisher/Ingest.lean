import VRCStreamer.Admission.AudioIngest
import VRCStreamer.Live.Channel
import VRCStreamer.Media.Fmtp
import VRCStreamer.Media.MessageLimit
import VRCStreamer.Media.Timestamps
import VRCStreamer.Presets.Server

/-!
# What a publisher's messages become

The `match message` of `streamer_session` of `websocket.rs` with all that it reads: the buckets,
the parser of media frames, the timestamps, the parameters of a keyframe and the commands. A
message is published to the channel, answered, dropped, or it ends the session.
-/

namespace VRCStreamer

open Codec

def STREAMER_CONTROL_MESSAGES_PER_SECOND : Nat := 8
def DEFAULT_TOKEN_BUCKET_BURST_SECS : Nat := 2
def MAX_VIDEO_INGEST_BURST_SECS : Nat := 60

def DEFAULT_VIDEO_QUALITIES : String :=
  "1280x720*30/2000,1280x720*60/4000,1920x1080*30/3000,1920x1080*60/6000"

/-! ## Settings -/

/-- `usize::saturating_mul`. -/
def saturatingMul (left right : Nat) : Nat := min (left * right) (2 ^ 64 - 1)

namespace VideoQuality

def videoBytesPerSecond (quality : VideoQuality) : Nat :=
  saturatingMul quality.bitrateKbps.toNat 1000 / 8

/-- The division rounds up. -/
def maxIngestFramesPerSecond (quality : VideoQuality) : Nat :=
  (saturatingMul quality.fps.toNat 3 + 1) / 2

end VideoQuality

/-- The part of `Config` that a session reads. -/
structure IngestConfig where
  media : MediaConfig
  videoQualities : List VideoQuality
  videoIngestBurstSecs : Nat
  presets : Presets videoQualities
  nonempty : videoQualities ≠ []
  burst : 1 ≤ videoIngestBurstSecs ∧ videoIngestBurstSecs ≤ MAX_VIDEO_INGEST_BURST_SECS

/-- The variable's value, that of its misspelt name, or the default. -/
def videoQualitiesEnv (available avaliable : Option Text) : Text :=
  match available, avaliable with
  | some value, _ => value
  | none, some value => value
  | none, none => DEFAULT_VIDEO_QUALITIES.toList

/-- `Config::from_env`, as far as the variables of a session go. -/
def IngestConfig.fromEnv (video available avaliable maxH264FrameBytes burstSecs : Option Text) :
    Except Text IngestConfig :=
  match hpresets : parseVideoQualities (videoQualitiesEnv available avaliable) with
  | .error reason => .error reason
  | .ok videoQualities =>
    match MediaConfig.fromEnv video maxH264FrameBytes with
    | .error reason => .error reason.toList
    | .ok media =>
      match hburst : envUsizeInRange "VIDEO_INGEST_BURST_SECS" burstSecs
        DEFAULT_TOKEN_BUCKET_BURST_SECS 1 MAX_VIDEO_INGEST_BURST_SECS with
      | .error reason => .error reason.toList
      | .ok videoIngestBurstSecs =>
        .ok {
          media, videoQualities, videoIngestBurstSecs
          presets := (parseVideoQualities_presets hpresets).1
          nonempty := (parseVideoQualities_presets hpresets).2
          burst := envUsizeInRange_bounds hburst }

/-- A server with one preset. -/
def IngestConfig.sample : IngestConfig where
  media := ⟨true, H264_DEFAULT_MAX_ACCESS_UNIT_BYTES⟩
  videoQualities := [⟨1280, 720, 30, 2000⟩]
  videoIngestBurstSecs := DEFAULT_TOKEN_BUCKET_BURST_SECS
  presets := ⟨by decide, List.nodup_singleton _,
    List.forall_mem_singleton.mpr ⟨by decide, by decide, by decide, by decide⟩⟩
  nonempty := List.cons_ne_nil _ _
  burst := by decide

/-! ## Messages and outcomes -/

inductive SocketMessage
  | text (text : Text)
  | binary (frame : Bytes)
  | ping (payload : Bytes)
  | pong (payload : Bytes)
  | close
  deriving DecidableEq

/-- Times are in nanoseconds; the buckets count in seconds. -/
structure Arrival where
  now : Nat
  message : SocketMessage
  deriving DecidableEq

/-- An audio message with the shortest access unit of silence. -/
def silenceArrival (now : Nat) (timestamp : UInt8) : Arrival :=
  ⟨now, .binary (0x00 :: 0 :: 0 :: 0 :: timestamp :: AAC_SILENCE_ACCESS_UNIT)⟩

def seconds (nanoseconds : Nat) : ℚ := nanoseconds / 10 ^ 9

/-- Why a session is closed with `close_code::POLICY`. -/
inductive PolicyClose
  | blacklisted
  | blocked
  | idleTimeout
  | controlRate
  | aacAbuse
  | videoFrameRate
  | videoIngestRate
  | invalidMediaFrame
  | videoDisabled
  | invalidVideoQuality
  | invalidControlMessage
  deriving DecidableEq

def PolicyClose.reason : PolicyClose → String
  | .blacklisted => "stream is blacklisted"
  | .blocked => "streamer is blocked"
  | .idleTimeout => "streamer idle timeout"
  | .controlRate => "control message rate exceeded"
  | .aacAbuse => "AAC abuse rate exceeded"
  | .videoFrameRate => "video frame rate exceeded"
  | .videoIngestRate => "video ingest rate exceeded"
  | .invalidMediaFrame => "invalid media frame"
  | .videoDisabled => "video is disabled"
  | .invalidVideoQuality => "invalid video quality"
  | .invalidControlMessage => "invalid control message"

deriving instance DecidableEq for LiveMessage

def LiveMessage.accessUnit : LiveMessage → Option Bytes
  | .audioFrame accessUnit _ _ | .videoFrame accessUnit _ _ _ _ => some accessUnit
  | _ => none

/-- What a message leads to. A published message comes with the parameters that were read from
it; `panicked` is an index out of bounds. -/
inductive IngestOutcome
  | handled
  | dropped
  | pong (payload : Bytes)
  | published (message : LiveMessage) (fmtp : Option Text)
  | closed (reason : PolicyClose)
  | left
  | panicked
  deriving DecidableEq

/-- The loop is over. -/
def IngestOutcome.ends : IngestOutcome → Bool
  | .closed _ | .left | .panicked => true
  | _ => false

/-! ## The state of the loop -/

/-- The variables of `streamer_session`, without the ones that only its log reads. -/
structure IngestState where
  videoConfigured : Bool
  audio : AudioIngest
  videoIngest : TokenBucket
  videoFramesIngest : TokenBucket
  controlIngest : TokenBucket
  audioTimestamps : MediaTimestampNormalizer
  videoTimestamps : MediaTimestampNormalizer
  videoQuality : Nat
  frames : Nat

namespace IngestState

def new (now : Nat) : IngestState where
  videoConfigured := false
  audio := .new (seconds now)
  videoIngest := .new (seconds now)
  videoFramesIngest := .new (seconds now)
  controlIngest := .new (seconds now)
  audioTimestamps := .new AAC_SAMPLE_RATE
  videoTimestamps := .new H264_CLOCK_RATE
  videoQuality := 0
  frames := 0

/-- The limits on audio; a message that they let through has no outcome yet. -/
def meterAudio (s : IngestState) (now : Nat) (frame : Bytes) : Option IngestOutcome × IngestState :=
  match s.audio.receive ⟨seconds now, frame.length⟩ with
  | (.kicked _ _, audio) => (some (.closed .aacAbuse), { s with audio })
  | (.dropped _ _, audio) => (some .dropped, { s with audio })
  | (.taken, audio) => (none, { s with audio })

/-- The limits on video are those of the preset that is selected. -/
def meterVideo (config : IngestConfig) (s : IngestState) (now : Nat) (frame : Bytes) :
    Option IngestOutcome × IngestState :=
  if !config.media.videoEnabled then (none, s)
  else
    match config.videoQualities[s.videoQuality]? with
    | none => (some .panicked, s)
    | some quality =>
      let frames := s.videoFramesIngest.allowAt (seconds now) 1 quality.maxIngestFramesPerSecond
        config.videoIngestBurstSecs
      let s := { s with videoFramesIngest := frames.2 }
      if !frames.1 then (some (.closed .videoFrameRate), s)
      else
        let bytes := s.videoIngest.allowAt (seconds now) frame.length quality.videoBytesPerSecond
          config.videoIngestBurstSecs
        let s := { s with videoIngest := bytes.2 }
        if !bytes.1 then (some (.closed .videoIngestRate), s) else (none, s)

def meter (config : IngestConfig) (s : IngestState) (now : Nat) (frame : Bytes) :
    Option IngestOutcome × IngestState :=
  if frame.head? = some 0x00 then s.meterAudio now frame
  else if frame.head? = some 0x01 ∨ frame.head? = some 0x02 then s.meterVideo config now frame
  else (none, s)

def publishAudio (s : IngestState) (now : Nat) (accessUnit : Bytes) (sourceTimestamp : UInt32) :
    IngestOutcome × IngestState :=
  let normalized := s.audioTimestamps.normalize sourceTimestamp
  (.published (.audioFrame accessUnit normalized.1 now) none,
    { s with audioTimestamps := normalized.2, frames := s.frames + 1 })

/-- The parameters are read from keyframes until some are found. -/
def publishVideo (s : IngestState) (now : Nat) (accessUnit : Bytes) (keyframe singleNal : Bool)
    (sourceTimestamp : UInt32) : IngestOutcome × IngestState :=
  let fmtp := if keyframe && !s.videoConfigured then (h264SdpFmtp accessUnit).toOption else none
  let normalized := s.videoTimestamps.normalize sourceTimestamp
  (.published (.videoFrame accessUnit keyframe singleNal normalized.1 now) fmtp,
    { s with
      videoConfigured := s.videoConfigured || fmtp.isSome
      videoTimestamps := normalized.2 })

def binary (config : IngestConfig) (s : IngestState) (now : Nat) (frame : Bytes) :
    IngestOutcome × IngestState :=
  match s.meter config now frame with
  | (some outcome, s) => (outcome, s)
  | (none, s) =>
    match parseStreamerMediaFrame config.media frame with
    | .ok (.audio accessUnit sourceTimestamp) => s.publishAudio now accessUnit sourceTimestamp
    | .ok (.video accessUnit keyframe singleNal sourceTimestamp) =>
      s.publishVideo now accessUnit keyframe singleNal sourceTimestamp
    | .error _ => (.closed .invalidMediaFrame, s)

end IngestState

/-- The commands that a server without video refuses. -/
def StreamerTextCommand.isVideo : StreamerTextCommand → Bool
  | .forceResync => false
  | .videoStart | .videoStop | .videoReset | .videoQuality _ => true

namespace IngestState

/-- `reset_video_configuration`; the channel's side of it is an operation of the message. -/
def resetVideoConfiguration (s : IngestState) : IngestState := { s with videoConfigured := false }

def command (config : IngestConfig) (s : IngestState) (text : Text) : IngestOutcome × IngestState :=
  match streamerTextCommand text with
  | none => (.closed .invalidControlMessage, s)
  | some command =>
    if !config.media.videoEnabled && command.isVideo then (.closed .videoDisabled, s)
    else
      match command with
      | .forceResync => (.published .forceResync none, s)
      | .videoStart => (.published .videoStart none, s.resetVideoConfiguration)
      | .videoStop => (.published .videoStop none, s.resetVideoConfiguration)
      | .videoReset => (.published .videoReset none, s.resetVideoConfiguration)
      | .videoQuality index =>
        if config.videoQualities.length ≤ index then (.closed .invalidVideoQuality, s)
        else (.handled, { s with videoQuality := index })

/-- The limit on everything but media. -/
def control (s : IngestState) (now : Nat) : Bool × IngestState :=
  let allowed := s.controlIngest.allowAt (seconds now) 1 STREAMER_CONTROL_MESSAGES_PER_SECOND
    DEFAULT_TOKEN_BUCKET_BURST_SECS
  (allowed.1, { s with controlIngest := allowed.2 })

def receive (config : IngestConfig) (s : IngestState) (arrival : Arrival) :
    IngestOutcome × IngestState :=
  match arrival.message with
  | .binary frame => s.binary config arrival.now frame
  | .close => (.left, s)
  | message =>
    match s.control arrival.now with
    | (false, s) => (.closed .controlRate, s)
    | (true, s) =>
      match message with
      | .text text => s.command config text
      | .ping payload => (.pong payload, s)
      | _ => (.handled, s)

end IngestState

/-! ## Runs -/

structure Handled where
  arrival : Arrival
  outcome : IngestOutcome
  deriving DecidableEq

namespace IngestState

/-- The messages of a session with their outcomes, up to the one that ends it. -/
def receiveAll (config : IngestConfig) : IngestState → List Arrival → List Handled × IngestState
  | s, [] => ([], s)
  | s, arrival :: arrivals =>
    let (outcome, s) := s.receive config arrival
    if outcome.ends then ([⟨arrival, outcome⟩], s)
    else
      let (log, s) := receiveAll config s arrivals
      (⟨arrival, outcome⟩ :: log, s)

variable {config : IngestConfig} {s : IngestState} {arrival : Arrival} {arrivals : List Arrival}

theorem receiveAll_cons_of_ends (h : (s.receive config arrival).1.ends = true) :
    s.receiveAll config (arrival :: arrivals) =
      ([⟨arrival, (s.receive config arrival).1⟩], (s.receive config arrival).2) := by
  rw [receiveAll]
  generalize s.receive config arrival = result at h ⊢
  obtain ⟨outcome, next⟩ := result
  exact if_pos h

theorem receiveAll_cons_of_continues (h : (s.receive config arrival).1.ends = false) :
    s.receiveAll config (arrival :: arrivals) =
      (⟨arrival, (s.receive config arrival).1⟩ ::
          ((s.receive config arrival).2.receiveAll config arrivals).1,
        ((s.receive config arrival).2.receiveAll config arrivals).2) := by
  rw [receiveAll]
  generalize s.receive config arrival = result at h ⊢
  obtain ⟨outcome, next⟩ := result
  exact if_neg (by simpa using h)

/-! ## What one message does -/

/-- What a command can do. -/
inductive Commanded (config : IngestConfig) (s : IngestState) (text : Text) :
    IngestOutcome × IngestState → Prop
  | invalid (hnone : streamerTextCommand text = none) :
      Commanded config s text (.closed .invalidControlMessage, s)
  | disabled {command : StreamerTextCommand} (hcommand : streamerTextCommand text = some command)
      (hdisabled : config.media.videoEnabled = false) (hvideo : command.isVideo = true) :
      Commanded config s text (.closed .videoDisabled, s)
  | forceResync (hcommand : streamerTextCommand text = some .forceResync) :
      Commanded config s text (.published .forceResync none, s)
  | reset {command : StreamerTextCommand} {message : LiveMessage}
      (hcommand : streamerTextCommand text = some command)
      (henabled : config.media.videoEnabled = true)
      (hmessage : (command = .videoStart ∧ message = .videoStart) ∨
        (command = .videoStop ∧ message = .videoStop) ∨
        (command = .videoReset ∧ message = .videoReset)) :
      Commanded config s text (.published message none, s.resetVideoConfiguration)
  | invalidQuality {index : Nat} (hcommand : streamerTextCommand text = some (.videoQuality index))
      (henabled : config.media.videoEnabled = true)
      (hindex : config.videoQualities.length ≤ index) :
      Commanded config s text (.closed .invalidVideoQuality, s)
  | quality {index : Nat} (hcommand : streamerTextCommand text = some (.videoQuality index))
      (henabled : config.media.videoEnabled = true)
      (hindex : index < config.videoQualities.length) :
      Commanded config s text (.handled, { s with videoQuality := index })

theorem commanded (config : IngestConfig) (s : IngestState) (text : Text) :
    Commanded config s text (s.command config text) := by
  rw [command]
  cases hcommand : streamerTextCommand text with
  | none => exact .invalid hcommand
  | some command =>
    dsimp only
    split
    next hdisabled =>
      obtain ⟨hdisabled, hvideo⟩ := Bool.and_eq_true_iff.mp hdisabled
      exact .disabled hcommand (by simpa using hdisabled) hvideo
    next henabled =>
      have henabled : command.isVideo = true → config.media.videoEnabled = true := by
        intro hvideo
        simpa [hvideo] using henabled
      cases command with
      | forceResync => exact .forceResync hcommand
      | videoStart => exact .reset hcommand (henabled rfl) (.inl ⟨rfl, rfl⟩)
      | videoStop => exact .reset hcommand (henabled rfl) (.inr (.inl ⟨rfl, rfl⟩))
      | videoReset => exact .reset hcommand (henabled rfl) (.inr (.inr ⟨rfl, rfl⟩))
      | videoQuality index =>
        dsimp only
        split
        next hindex => exact .invalidQuality hcommand (henabled rfl) hindex
        next hindex => exact .quality hcommand (henabled rfl) (Nat.lt_of_not_le hindex)

/-- One constructor for each way through the loop's body. -/
inductive Received (config : IngestConfig) (s : IngestState) (now : Nat) :
    SocketMessage → IngestOutcome × IngestState → Prop
  | close : Received config s now .close (.left, s)
  | metered {frame : Bytes} {outcome : IngestOutcome} {s' : IngestState}
      (hmeter : s.meter config now frame = (some outcome, s')) :
      Received config s now (.binary frame) (outcome, s')
  | audio {frame accessUnit : Bytes} {sourceTimestamp : UInt32} {s' : IngestState}
      (hmeter : s.meter config now frame = (none, s'))
      (hparse : parseStreamerMediaFrame config.media frame =
        .ok (.audio accessUnit sourceTimestamp)) :
      Received config s now (.binary frame) (s'.publishAudio now accessUnit sourceTimestamp)
  | video {frame accessUnit : Bytes} {keyframe singleNal : Bool} {sourceTimestamp : UInt32}
      {s' : IngestState} (hmeter : s.meter config now frame = (none, s'))
      (hparse : parseStreamerMediaFrame config.media frame =
        .ok (.video accessUnit keyframe singleNal sourceTimestamp)) :
      Received config s now (.binary frame)
        (s'.publishVideo now accessUnit keyframe singleNal sourceTimestamp)
  | invalid {frame : Bytes} {reason : String} {s' : IngestState}
      (hmeter : s.meter config now frame = (none, s'))
      (hparse : parseStreamerMediaFrame config.media frame = .error reason) :
      Received config s now (.binary frame) (.closed .invalidMediaFrame, s')
  | refused {message : SocketMessage} {s' : IngestState}
      (hbinary : ∀ frame, message ≠ .binary frame) (hclose : message ≠ .close)
      (hcontrol : s.control now = (false, s')) :
      Received config s now message (.closed .controlRate, s')
  | text {text : Text} {s' : IngestState} (hcontrol : s.control now = (true, s')) :
      Received config s now (.text text) (s'.command config text)
  | ping {payload : Bytes} {s' : IngestState} (hcontrol : s.control now = (true, s')) :
      Received config s now (.ping payload) (.pong payload, s')
  | pong {payload : Bytes} {s' : IngestState} (hcontrol : s.control now = (true, s')) :
      Received config s now (.pong payload) (.handled, s')

theorem received_binary (config : IngestConfig) (s : IngestState) (now : Nat) (frame : Bytes) :
    Received config s now (.binary frame) (s.binary config now frame) := by
  rw [binary]
  split
  next outcome s' hmeter => exact .metered hmeter
  next s' hmeter =>
    split
    next accessUnit sourceTimestamp hparse => exact .audio hmeter hparse
    next accessUnit keyframe singleNal sourceTimestamp hparse => exact .video hmeter hparse
    next reason hparse => exact .invalid hmeter hparse

theorem received (config : IngestConfig) (s : IngestState) (arrival : Arrival) :
    Received config s arrival.now arrival.message (s.receive config arrival) := by
  obtain ⟨now, message⟩ := arrival
  rw [receive.eq_def]
  cases message with
  | binary frame => exact received_binary config s now frame
  | close => exact .close
  | text text =>
    dsimp only
    split
    next s' hcontrol => exact .refused nofun nofun hcontrol
    next s' hcontrol => exact .text hcontrol
  | ping payload =>
    dsimp only
    split
    next s' hcontrol => exact .refused nofun nofun hcontrol
    next s' hcontrol => exact .ping hcontrol
  | pong payload =>
    dsimp only
    split
    next s' hcontrol => exact .refused nofun nofun hcontrol
    next s' hcontrol => exact .pong hcontrol

end IngestState

end VRCStreamer
