import VRCStreamer.Admission.ChangingRate
import VRCStreamer.Publisher.Ingest

/-!
# What a session lets through

Each kind of message is counted by buckets of its own. What a session lets through keeps to the
limits of its buckets in every window of time, whatever presets it selects in between. A publisher
that keeps to the limits of the presets that it uses is never closed and loses nothing.
-/

namespace VRCStreamer

open Codec Policing

namespace SocketMessage

def bytes : SocketMessage → Bytes
  | .binary frame => frame
  | _ => []

def isControl : SocketMessage → Bool
  | .text _ | .ping _ | .pong _ => true
  | .binary _ | .close => false

def isAudio (message : SocketMessage) : Bool := message.bytes.head? = some 0x00

def isVideo (message : SocketMessage) : Bool :=
  message.bytes.head? = some 0x01 ∨ message.bytes.head? = some 0x02

end SocketMessage

/-! ## Meters -/

/-- A bucket of a session. -/
inductive Meter
  | control
  | abuseFrames
  | abuseBytes
  | audioFrames
  | audioBytes
  | videoFrames
  | videoBytes
  deriving DecidableEq

namespace Meter

def bucket (s : IngestState) : Meter → TokenBucket
  | .control => s.controlIngest
  | .abuseFrames => s.audio.audioAbuseFramesIngest
  | .abuseBytes => s.audio.audioAbuseIngest
  | .audioFrames => s.audio.audioFramesIngest
  | .audioBytes => s.audio.audioIngest
  | .videoFrames => s.videoFramesIngest
  | .videoBytes => s.videoIngest

/-- The rate while a preset is selected. -/
def rate (quality : VideoQuality) : Meter → Nat
  | .control => STREAMER_CONTROL_MESSAGES_PER_SECOND
  | .abuseFrames => AAC_ABUSE_MAX_FRAMES_PER_SECOND
  | .abuseBytes => AAC_ABUSE_MAX_INGEST_BYTES_PER_SECOND
  | .audioFrames => AAC_MAX_FRAMES_PER_SECOND
  | .audioBytes => AAC_MAX_INGEST_BYTES_PER_SECOND
  | .videoFrames => quality.maxIngestFramesPerSecond
  | .videoBytes => quality.videoBytesPerSecond

def burstSecs (config : IngestConfig) : Meter → Nat
  | .control => DEFAULT_TOKEN_BUCKET_BURST_SECS
  | .abuseFrames | .abuseBytes => AAC_ABUSE_BURST_SECS
  | .audioFrames | .audioBytes => AAC_INGEST_BURST_SECS
  | .videoFrames | .videoBytes => config.videoIngestBurstSecs

/-- The highest rate of all presets. -/
def limit (config : IngestConfig) (meter : Meter) : Nat :=
  (config.videoQualities.map (fun quality => meter.rate quality)).foldr max 0

def counts (message : SocketMessage) : Meter → Bool
  | .control => message.isControl
  | .abuseFrames | .abuseBytes | .audioFrames | .audioBytes => message.isAudio
  | .videoFrames | .videoBytes => message.isVideo

def units (message : SocketMessage) : Meter → Nat
  | .abuseBytes | .audioBytes | .videoBytes => message.bytes.length
  | .control | .abuseFrames | .audioFrames | .videoFrames => 1

/-- What a message asks of the bucket. -/
def call (arrival : Arrival) (meter : Meter) : Option BucketCall :=
  if meter.counts arrival.message then some ⟨seconds arrival.now, meter.units arrival.message⟩
  else none

/-- The bucket has let the message through. -/
def passed (outcome : IngestOutcome) : Meter → Bool
  | .control => outcome ≠ .closed .controlRate
  | .abuseFrames | .abuseBytes => outcome ≠ .closed .aacAbuse
  | .audioFrames | .audioBytes | .videoFrames | .videoBytes =>
    match outcome with
    | .published _ _ => true
    | _ => false

/-- The calls of messages that a session has let through. -/
def passedCalls (meter : Meter) (log : List Handled) : List BucketCall :=
  log.filterMap (fun handled =>
    if meter.passed handled.outcome then meter.call handled.arrival else none)

variable {meter : Meter} {config : IngestConfig} {quality : VideoQuality}

theorem rate_le_limit (hmem : quality ∈ config.videoQualities) :
    meter.rate quality ≤ meter.limit config := by
  rw [limit]
  generalize config.videoQualities = qualities at hmem ⊢
  induction qualities with
  | nil => cases hmem
  | cons first qualities ih =>
    rw [List.map_cons, List.foldr_cons]
    obtain rfl | hmem := List.mem_cons.mp hmem
    · exact le_max_left _ _
    · exact (ih hmem).trans (le_max_right _ _)

theorem rate_pos (hmem : quality ∈ config.videoQualities) : 1 ≤ meter.rate quality := by
  have hpositive := config.presets.positive quality hmem
  have hfps : quality.fps.toNat ≠ 0 := fun h => hpositive.fps (UInt16.toNat_inj.mp h)
  have hbitrate : quality.bitrateKbps.toNat ≠ 0 :=
    fun h => hpositive.bitrateKbps (UInt32.toNat_inj.mp h)
  cases meter with
  | videoFrames =>
    show 1 ≤ quality.maxIngestFramesPerSecond
    rw [VideoQuality.maxIngestFramesPerSecond, saturatingMul]
    omega
  | videoBytes =>
    show 1 ≤ quality.videoBytesPerSecond
    rw [VideoQuality.videoBytesPerSecond, saturatingMul]
    omega
  | _ =>
    simp only [rate]
    decide

theorem burstSecs_pos (meter : Meter) (config : IngestConfig) : 1 ≤ meter.burstSecs config := by
  cases meter with
  | videoFrames | videoBytes => exact config.burst.1
  | _ =>
    simp only [burstSecs]
    decide

/-- No capacity saturates, and all are exact in floating point. -/
theorem rate_mul_burstSecs_lt (meter : Meter) (config : IngestConfig) (quality : VideoQuality) :
    meter.rate quality * meter.burstSecs config < 2 ^ 53 := by
  have hburst : config.videoIngestBurstSecs ≤ 60 := config.burst.2
  cases meter with
  | videoFrames =>
    show quality.maxIngestFramesPerSecond * config.videoIngestBurstSecs < 2 ^ 53
    have hfps : quality.maxIngestFramesPerSecond ≤ 2 ^ 18 := by
      have := quality.fps.toNat_lt
      rw [VideoQuality.maxIngestFramesPerSecond, saturatingMul]
      omega
    exact lt_of_le_of_lt (Nat.mul_le_mul hfps hburst) (by decide)
  | videoBytes =>
    show quality.videoBytesPerSecond * config.videoIngestBurstSecs < 2 ^ 53
    have hbytes : quality.videoBytesPerSecond ≤ 2 ^ 40 := by
      have := quality.bitrateKbps.toNat_lt
      rw [VideoQuality.videoBytesPerSecond, saturatingMul]
      omega
    exact lt_of_le_of_lt (Nat.mul_le_mul hbytes hburst) (by decide)
  | _ =>
    simp only [rate, burstSecs]
    decide

/-! ## What one message asks of the buckets -/

/-- The bucket is not asked, and the message is none that it has let through, or it is asked at the
rate of a preset, and lets through every message that passes. -/
def Asked (config : IngestConfig) (s : IngestState) (arrival : Arrival)
    (passes : Bool) (s' : IngestState) (meter : Meter) : Prop :=
  (meter.bucket s' = meter.bucket s ∧ (meter.call arrival = none ∨ passes = false)) ∨
    ∃ call quality, meter.call arrival = some call ∧ quality ∈ config.videoQualities ∧
      meter.bucket s' = ((meter.bucket s).allowAt call.now call.units (meter.rate quality)
        (meter.burstSecs config)).2 ∧
      (passes = true → ((meter.bucket s).allowAt call.now call.units (meter.rate quality)
        (meter.burstSecs config)).1 = true)

variable {s s' : IngestState} {arrival : Arrival} {outcome : IngestOutcome}

theorem Asked.same {passes : Bool} (hbucket : meter.bucket s' = meter.bucket s)
    (hcall : meter.call arrival = none ∨ passes = false) : Asked config s arrival passes s' meter :=
  .inl ⟨hbucket, hcall⟩

theorem call_of_counts (h : meter.counts arrival.message = true) :
    meter.call arrival = some ⟨seconds arrival.now, meter.units arrival.message⟩ := if_pos h

theorem Asked.ask {passes allowed : Bool} (hcounts : meter.counts arrival.message = true)
    (hquality : quality ∈ config.videoQualities)
    (hallow : (meter.bucket s).allowAt (seconds arrival.now) (meter.units arrival.message)
      (meter.rate quality) (meter.burstSecs config) = (allowed, meter.bucket s'))
    (hpasses : passes = true → allowed = true) : Asked config s arrival passes s' meter := by
  refine .inr ⟨_, quality, call_of_counts hcounts, hquality, ?_, ?_⟩
  · rw [hallow]
  · rw [hallow]
    exact hpasses

theorem call_eq_none (h : meter.counts arrival.message = false) : meter.call arrival = none := by
  rw [call, h, if_neg Bool.false_ne_true]

theorem Asked.of_bucket_eq {s'' : IngestState} {passes : Bool}
    (h : Asked config s arrival passes s' meter) (hbucket : meter.bucket s'' = meter.bucket s') :
    Asked config s arrival passes s'' meter := by
  rw [Asked, hbucket]
  exact h

end Meter

namespace AudioIngest

/-- The ways through `receive`, with what each has asked of the buckets. -/
inductive Judged (ingest : AudioIngest) (message : BucketCall) : AudioVerdict × AudioIngest → Prop
  | kicked {frames bytes : Bool} {audioAbuseFramesIngest audioAbuseIngest : TokenBucket}
      (hframes : ingest.audioAbuseFramesIngest.allowAt message.now 1
        AAC_ABUSE_MAX_FRAMES_PER_SECOND AAC_ABUSE_BURST_SECS = (frames, audioAbuseFramesIngest))
      (hbytes : ingest.audioAbuseIngest.allowAt message.now message.units
        AAC_ABUSE_MAX_INGEST_BYTES_PER_SECOND AAC_ABUSE_BURST_SECS = (bytes, audioAbuseIngest))
      (hover : (frames && bytes) = false) :
      Judged ingest message
        (.kicked frames bytes, { ingest with audioAbuseFramesIngest, audioAbuseIngest })
  | judged {verdict : AudioVerdict} {frames bytes : Bool}
      {audioAbuseFramesIngest audioAbuseIngest audioFramesIngest audioIngest : TokenBucket}
      (habuseFrames : ingest.audioAbuseFramesIngest.allowAt message.now 1
        AAC_ABUSE_MAX_FRAMES_PER_SECOND AAC_ABUSE_BURST_SECS = (true, audioAbuseFramesIngest))
      (habuseBytes : ingest.audioAbuseIngest.allowAt message.now message.units
        AAC_ABUSE_MAX_INGEST_BYTES_PER_SECOND AAC_ABUSE_BURST_SECS = (true, audioAbuseIngest))
      (hframes : ingest.audioFramesIngest.allowAt message.now 1
        AAC_MAX_FRAMES_PER_SECOND AAC_INGEST_BURST_SECS = (frames, audioFramesIngest))
      (hbytes : ingest.audioIngest.allowAt message.now message.units
        AAC_MAX_INGEST_BYTES_PER_SECOND AAC_INGEST_BURST_SECS = (bytes, audioIngest))
      (hverdict : verdict = if frames && bytes then .taken else .dropped frames bytes) :
      Judged ingest message (verdict,
        ⟨audioIngest, audioFramesIngest, audioAbuseIngest, audioAbuseFramesIngest⟩)

theorem judged (ingest : AudioIngest) (message : BucketCall) :
    Judged ingest message (ingest.receive message) := by
  rw [receive]
  generalize habuseFrames : ingest.audioAbuseFramesIngest.allowAt message.now 1
    AAC_ABUSE_MAX_FRAMES_PER_SECOND AAC_ABUSE_BURST_SECS = abuseFrames
  generalize habuseBytes : ingest.audioAbuseIngest.allowAt message.now message.units
    AAC_ABUSE_MAX_INGEST_BYTES_PER_SECOND AAC_ABUSE_BURST_SECS = abuseBytes
  generalize hframes : ingest.audioFramesIngest.allowAt message.now 1
    AAC_MAX_FRAMES_PER_SECOND AAC_INGEST_BURST_SECS = frames
  generalize hbytes : ingest.audioIngest.allowAt message.now message.units
    AAC_MAX_INGEST_BYTES_PER_SECOND AAC_INGEST_BURST_SECS = bytes
  obtain ⟨abuseFrames, audioAbuseFramesIngest⟩ := abuseFrames
  obtain ⟨abuseBytes, audioAbuseIngest⟩ := abuseBytes
  obtain ⟨frames, audioFramesIngest⟩ := frames
  obtain ⟨bytes, audioIngest⟩ := bytes
  dsimp only
  split
  next hover =>
    refine .kicked habuseFrames habuseBytes ?_
    cases abuseFrames with
    | false => rfl
    | true => simpa using hover
  next hwithin =>
    obtain ⟨rfl, rfl⟩ : abuseFrames = true ∧ abuseBytes = true := by simpa using hwithin
    split
    next hover =>
      refine .judged habuseFrames habuseBytes hframes hbytes (if_neg ?_).symm
      intro hboth
      obtain ⟨rfl, rfl⟩ := Bool.and_eq_true_iff.mp hboth
      exact absurd hover Bool.false_ne_true
    next hwithin' =>
      refine .judged habuseFrames habuseBytes hframes hbytes (if_pos ?_).symm
      simpa using hwithin'

end AudioIngest

namespace IngestState

variable {config : IngestConfig} {s s' : IngestState} {now : Nat} {frame : Bytes}
variable {verdict : Option IngestOutcome}

theorem asked_meterAudio (haudio : frame.head? = some 0x00)
    (h : s.meterAudio now frame = (verdict, s')) (meter : Meter) :
    meter.Asked config s ⟨now, .binary frame⟩ (verdict.all (fun outcome => meter.passed outcome))
      s' := by
  obtain ⟨quality, hquality⟩ := List.exists_mem_of_ne_nil _ config.nonempty
  have hcounts : SocketMessage.isAudio (.binary frame) = true := decide_eq_true haudio
  have hvideo : SocketMessage.isVideo (.binary frame) = false := by
    simp [SocketMessage.isVideo, SocketMessage.bytes, haudio]
  have hjudged := s.audio.judged ⟨seconds now, frame.length⟩
  rw [meterAudio] at h
  generalize s.audio.receive ⟨seconds now, frame.length⟩ = outcome at h hjudged
  cases hjudged with
  | kicked hframes hbytes hover =>
    cases h
    cases meter with
    | control => exact .same rfl (.inl rfl)
    | abuseFrames => exact .ask hcounts hquality hframes nofun
    | abuseBytes => exact .ask hcounts hquality hbytes nofun
    | audioFrames | audioBytes => exact .same rfl (.inr rfl)
    | videoFrames | videoBytes => exact .same rfl (.inl (Meter.call_eq_none hvideo))
  | @judged judgement frames bytes _ _ _ _ habuseFrames habuseBytes hframes hbytes hjudgement =>
    cases hboth : frames && bytes with
    | false =>
      rw [hjudgement, hboth] at h
      cases h
      cases meter with
      | control => exact .same rfl (.inl rfl)
      | abuseFrames => exact .ask hcounts hquality habuseFrames (fun _ => rfl)
      | abuseBytes => exact .ask hcounts hquality habuseBytes (fun _ => rfl)
      | audioFrames => exact .ask hcounts hquality hframes nofun
      | audioBytes => exact .ask hcounts hquality hbytes nofun
      | videoFrames | videoBytes => exact .same rfl (.inl (Meter.call_eq_none hvideo))
    | true =>
      obtain ⟨rfl, rfl⟩ := Bool.and_eq_true_iff.mp hboth
      rw [hjudgement] at h
      cases h
      cases meter with
      | control => exact .same rfl (.inl rfl)
      | abuseFrames => exact .ask hcounts hquality habuseFrames (fun _ => rfl)
      | abuseBytes => exact .ask hcounts hquality habuseBytes (fun _ => rfl)
      | audioFrames => exact .ask hcounts hquality hframes (fun _ => rfl)
      | audioBytes => exact .ask hcounts hquality hbytes (fun _ => rfl)
      | videoFrames | videoBytes => exact .same rfl (.inl (Meter.call_eq_none hvideo))

theorem asked_meterVideo (hvideo : frame.head? = some 0x01 ∨ frame.head? = some 0x02)
    (h : s.meterVideo config now frame = (verdict, s'))
    (henabled : config.media.videoEnabled = true) (meter : Meter) :
    meter.Asked config s ⟨now, .binary frame⟩
      (verdict.all (fun outcome => meter.passed outcome)) s' := by
  have hcounts : SocketMessage.isVideo (.binary frame) = true := decide_eq_true hvideo
  have haudio : SocketMessage.isAudio (.binary frame) = false := by
    obtain hvideo | hvideo := hvideo
    · simp [SocketMessage.isAudio, SocketMessage.bytes, hvideo]
    · simp [SocketMessage.isAudio, SocketMessage.bytes, hvideo]
  rw [meterVideo, henabled] at h
  dsimp only at h
  split at h
  next hdisabled => exact absurd hdisabled (by decide)
  next =>
    split at h
    next =>
      cases h
      cases meter with
      | control => exact .same rfl (.inl rfl)
      | videoFrames | videoBytes => exact .same rfl (.inr rfl)
      | _ => exact .same rfl (.inl (Meter.call_eq_none haudio))
    next quality hselected =>
      have hquality := List.mem_of_getElem? hselected
      generalize hframes : s.videoFramesIngest.allowAt (seconds now) 1
        quality.maxIngestFramesPerSecond config.videoIngestBurstSecs = frames at h
      generalize hbytes : s.videoIngest.allowAt (seconds now) frame.length
        quality.videoBytesPerSecond config.videoIngestBurstSecs = bytes at h
      obtain ⟨frames, videoFramesIngest⟩ := frames
      obtain ⟨bytes, videoIngest⟩ := bytes
      split at h
      next =>
        cases h
        cases meter with
        | control => exact .same rfl (.inl rfl)
        | videoFrames => exact .ask hcounts hquality hframes nofun
        | videoBytes => exact .same rfl (.inr rfl)
        | _ => exact .same rfl (.inl (Meter.call_eq_none haudio))
      next hframesTrue =>
        obtain rfl : frames = true := by simpa using hframesTrue
        split at h
        next =>
          cases h
          cases meter with
          | control => exact .same rfl (.inl rfl)
          | videoFrames => exact .ask hcounts hquality hframes (fun _ => rfl)
          | videoBytes => exact .ask hcounts hquality hbytes nofun
          | _ => exact .same rfl (.inl (Meter.call_eq_none haudio))
        next hbytesTrue =>
          obtain rfl : bytes = true := by simpa using hbytesTrue
          cases h
          cases meter with
          | control => exact .same rfl (.inl rfl)
          | videoFrames => exact .ask hcounts hquality hframes (fun _ => rfl)
          | videoBytes => exact .ask hcounts hquality hbytes (fun _ => rfl)
          | _ => exact .same rfl (.inl (Meter.call_eq_none haudio))

end IngestState

/-- A frame of video is refused by the parser where video is disabled. -/
theorem parseStreamerMediaFrame_disabled {config : MediaConfig} {frame : Bytes}
    (hdisabled : config.videoEnabled = false)
    (hvideo : frame.head? = some 0x01 ∨ frame.head? = some 0x02) :
    ∃ reason, parseStreamerMediaFrame config frame = .error reason := by
  cases frame with
  | nil => simp at hvideo
  | cons kind body =>
    have hkind : kind = 0x01 ∨ kind = 0x02 := by simpa using hvideo
    have haudio : kind ≠ 0x00 := by
      obtain rfl | rfl := hkind
      · decide
      · decide
    rw [parseStreamerMediaFrame.eq_def]
    dsimp only
    rw [if_neg haudio, if_pos hkind, hdisabled]
    exact ⟨_, if_pos rfl⟩

namespace IngestState

variable {config : IngestConfig} {s s' : IngestState}

theorem asked_meter {now : Nat} {frame : Bytes} {verdict : Option IngestOutcome}
    (h : s.meter config now frame = (verdict, s')) (meter : Meter) {outcome : IngestOutcome}
    (hpasses : meter.passed outcome = true →
      verdict.all (fun outcome => meter.passed outcome) = true)
    (hinvalid : ∀ reason, verdict = none →
      parseStreamerMediaFrame config.media frame = .error reason →
      outcome = .closed .invalidMediaFrame) :
    meter.Asked config s ⟨now, .binary frame⟩ (meter.passed outcome) s' := by
  have hweaken : ∀ passes, meter.Asked config s ⟨now, .binary frame⟩ passes s' →
      (meter.passed outcome = true → passes = true) →
      meter.Asked config s ⟨now, .binary frame⟩ (meter.passed outcome) s' := by
    rintro passes (⟨hbucket, hcall | hfalse⟩ | ⟨call, quality, hcall, hquality, hbucket, hallowed⟩)
      himp
    · exact .same hbucket (.inl hcall)
    · refine .same hbucket (.inr ?_)
      cases hpassed : meter.passed outcome with
      | false => rfl
      | true => exact absurd (hfalse.symm.trans (himp hpassed)) Bool.false_ne_true
    · exact .inr ⟨call, quality, hcall, hquality, hbucket, fun hpassed => hallowed (himp hpassed)⟩
  rw [IngestState.meter] at h
  split at h
  next haudio => exact hweaken _ (asked_meterAudio haudio h meter) hpasses
  next haudio =>
    split at h
    next hvideo =>
      cases henabled : config.media.videoEnabled with
      | true => exact hweaken _ (asked_meterVideo hvideo h henabled meter) hpasses
      | false =>
        -- the parser refuses what was not counted
        rw [meterVideo, henabled] at h
        cases h
        obtain ⟨reason, hparse⟩ := parseStreamerMediaFrame_disabled henabled hvideo
        rw [hinvalid reason rfl hparse]
        have haudio' : SocketMessage.isAudio (.binary frame) = false := decide_eq_false haudio
        cases meter with
        | control => exact .same rfl (.inl rfl)
        | videoFrames | videoBytes => exact .same rfl (.inr rfl)
        | _ => exact .same rfl (.inl (Meter.call_eq_none haudio'))
    next hvideo =>
      cases h
      have haudio' : SocketMessage.isAudio (.binary frame) = false := decide_eq_false haudio
      have hvideo' : SocketMessage.isVideo (.binary frame) = false := decide_eq_false hvideo
      cases meter with
      | control => exact .same rfl (.inl rfl)
      | videoFrames | videoBytes => exact .same rfl (.inl (Meter.call_eq_none hvideo'))
      | _ => exact .same rfl (.inl (Meter.call_eq_none haudio'))

/-- The limit on control messages is asked about each of them. -/
theorem asked_control {arrival : Arrival} {allowed : Bool}
    (hcontrol : s.control arrival.now = (allowed, s')) (hcounts : arrival.message.isControl = true)
    (hbytes : arrival.message.bytes = []) (meter : Meter) {passes : Bool}
    (hpasses : meter = .control → passes = true → allowed = true) :
    meter.Asked config s arrival passes s' := by
  obtain ⟨quality, hquality⟩ := List.exists_mem_of_ne_nil _ config.nonempty
  cases hcontrol
  cases meter with
  | control => exact .ask hcounts hquality rfl (hpasses rfl)
  | _ => 
    refine .same rfl (.inl (Meter.call_eq_none ?_))
    simp [Meter.counts, SocketMessage.isAudio, SocketMessage.isVideo, hbytes]

@[simp] theorem bucket_command (meter : Meter) (config : IngestConfig) (s : IngestState)
    (text : Text) : meter.bucket (s.command config text).2 = meter.bucket s := by
  have hcommanded := commanded config s text
  generalize s.command config text = result at hcommanded
  cases hcommanded with
  | reset | quality => cases meter <;> rfl
  | _ => rfl

theorem asked_receive (config : IngestConfig) (s : IngestState) (arrival : Arrival)
    (meter : Meter) : meter.Asked config s arrival
      (meter.passed (s.receive config arrival).1) (s.receive config arrival).2 := by
  have hreceived := received config s arrival
  obtain ⟨now, message⟩ := arrival
  generalize s.receive config ⟨now, message⟩ = result at hreceived
  cases hreceived with
  | close =>
    refine .same rfl (.inl (Meter.call_eq_none ?_))
    cases meter <;> rfl
  | @metered frame outcome s' hmeter =>
    exact asked_meter hmeter meter (fun hpassed => hpassed) (fun reason hnone => by cases hnone)
  | audio hmeter hparse =>
    refine (asked_meter hmeter meter (fun _ => rfl) ?_).of_bucket_eq ?_
    · intro reason _ herror
      rw [hparse] at herror
      cases herror
    · cases meter <;> rfl
  | video hmeter hparse =>
    refine (asked_meter hmeter meter (fun _ => rfl) ?_).of_bucket_eq ?_
    · intro reason _ herror
      rw [hparse] at herror
      cases herror
    · cases meter <;> rfl
  | invalid hmeter hparse => exact asked_meter hmeter meter (fun _ => rfl) (fun _ _ _ => rfl)
  | @refused _ s' hbinary hclose hcontrol =>
    have hmessage : message.isControl = true ∧ message.bytes = [] := by
      cases message with
      | binary frame => exact absurd rfl (hbinary frame)
      | close => exact absurd rfl hclose
      | _ => exact ⟨rfl, rfl⟩
    refine asked_control hcontrol hmessage.1 hmessage.2 meter ?_
    rintro rfl hpassed
    simp [Meter.passed] at hpassed
  | text hcontrol =>
    refine (asked_control hcontrol rfl rfl meter (fun _ _ => rfl)).of_bucket_eq ?_
    exact bucket_command meter config _ _
  | ping hcontrol => exact asked_control hcontrol rfl rfl meter (fun _ _ => rfl)
  | pong hcontrol => exact asked_control hcontrol rfl rfl meter (fun _ _ => rfl)

/-! ## Runs -/

/-- Every bucket holds no more than a policer at its highest rate. -/
def Metered (config : IngestConfig) (s : IngestState) (requests : Meter → List (Request ℚ))
    (now : ℚ) : Prop :=
  ∀ meter : Meter, (meter.bucket s).Below (meter.limit config)
    (meter.limit config * meter.burstSecs config) (requests meter) now

theorem metered_new (config : IngestConfig) (created : Nat) (now : ℚ) :
    Metered config (new created) (fun _ => []) now := by
  intro meter
  cases meter <;> exact TokenBucket.below_new _ _ _ now

variable {requests : Meter → List (Request ℚ)} {now : ℚ} {arrival : Arrival}
variable {arrivals : List Arrival}

/-- The requests with those that a message adds. -/
def passedRequests (requests : Meter → List (Request ℚ)) (log : List Handled) (meter : Meter) :
    List (Request ℚ) := (meter.passedCalls log).reverse.map BucketCall.request ++ requests meter

theorem passedRequests_cons (handled : Handled) (log : List Handled) :
    passedRequests requests (handled :: log) =
      passedRequests (passedRequests requests [handled]) log := by
  funext meter
  simp only [passedRequests, Meter.passedCalls, List.filterMap_cons, List.filterMap_nil]
  split <;> simp

theorem Metered.receive (h : Metered config s requests now) (hnow : now ≤ seconds arrival.now) :
    Metered config (s.receive config arrival).2
      (passedRequests requests [⟨arrival, (s.receive config arrival).1⟩])
      (seconds arrival.now) := by
  intro meter
  have hbelow := (h meter).mono hnow
  have hrequests : passedRequests requests [⟨arrival, (s.receive config arrival).1⟩] meter =
      if meter.passed (s.receive config arrival).1 then
        ((meter.call arrival).map BucketCall.request).toList ++ requests meter
      else requests meter := by
    simp only [passedRequests, Meter.passedCalls, List.filterMap_cons, List.filterMap_nil]
    cases meter.passed (s.receive config arrival).1 with
    | false => simp
    | true => cases meter.call arrival <;> simp
  rw [hrequests]
  obtain ⟨hbucket, hnone | hpassed⟩ | ⟨call, quality, hcall, hquality, hbucket, hallowed⟩ :=
    asked_receive config s arrival meter
  · rw [hbucket, hnone]
    simpa using hbelow
  · rw [hbucket, hpassed]
    exact hbelow
  · have hcallNow : call.now = seconds arrival.now := by
      have hsome := Option.ite_none_right_eq_some.mp hcall
      rw [← Option.some.inj hsome.2]
    have hrate : (meter.rate quality : ℚ) ≤ meter.limit config := by
      exact_mod_cast Meter.rate_le_limit hquality
    have hcap : (meter.rate quality * meter.burstSecs config : ℚ) ≤
        meter.limit config * meter.burstSecs config :=
      mul_le_mul_of_nonneg_right hrate (Nat.cast_nonneg _)
    rw [← hcallNow] at hbelow ⊢
    obtain ⟨hkept, hcounted⟩ := hbelow.step (Nat.cast_nonneg _) hrate hcap
    rw [hbucket, hcall]
    split
    next hpassed => exact hcounted (hallowed hpassed)
    next => exact hkept

theorem seconds_mono {earlier later : Nat} (h : earlier ≤ later) :
    seconds earlier ≤ seconds later := by
  have hcast : (earlier : ℚ) ≤ later := by exact_mod_cast h
  exact div_le_div_of_nonneg_right hcast (by norm_num)

theorem Metered.receiveAll (h : Metered config s requests now)
    (hsorted : arrivals.Pairwise (fun arrival later => arrival.now ≤ later.now))
    (hstart : ∀ arrival ∈ arrivals, now ≤ seconds arrival.now) :
    ∃ later, Metered config (s.receiveAll config arrivals).2
      (passedRequests requests (s.receiveAll config arrivals).1) later := by
  induction arrivals generalizing s requests now with
  | nil => exact ⟨now, h⟩
  | cons arrival arrivals ih =>
    obtain ⟨hfirst, hrest⟩ := List.pairwise_cons.mp hsorted
    have hnext := h.receive (hstart arrival List.mem_cons_self)
    cases hends : (s.receive config arrival).1.ends with
    | true =>
      rw [receiveAll_cons_of_ends hends]
      exact ⟨_, hnext⟩
    | false =>
      rw [receiveAll_cons_of_continues hends, passedRequests_cons]
      exact ih hnext hrest (fun later hmem => seconds_mono (hfirst later hmem))

end IngestState

/-! ## Publishers within the limits -/

namespace SocketMessage

/-- A message that a session has no objection to. -/
def Valid (config : IngestConfig) : SocketMessage → Prop
  | .text line => ∃ command, streamerTextCommand line = some command ∧
      (command.isVideo = true → config.media.videoEnabled = true) ∧
      ∀ index, command = .videoQuality index → index < config.videoQualities.length
  | .binary frame => ∃ media, parseStreamerMediaFrame config.media frame = .ok media
  | .ping _ | .pong _ => True
  | .close => False

/-- The preset that is selected after a message. -/
def selects (selected : Nat) : SocketMessage → Nat
  | .text line =>
    match streamerTextCommand line with
    | some (.videoQuality index) => index
    | _ => selected
  | _ => selected

/-- What a publisher wants of a message: media is published as it was sent. -/
def Answered : SocketMessage → IngestOutcome → Prop
  | .text _, outcome => outcome = .handled ∨ ∃ message, outcome = .published message none
  | .binary frame, outcome => ∃ message fmtp, outcome = .published message fmtp ∧
      message.accessUnit = some (frame.drop MEDIA_FRAME_HEADER_BYTES)
  | .ping payload, outcome => outcome = .pong payload
  | .pong _, outcome => outcome = .handled
  | .close, _ => False

end SocketMessage

namespace IngestState

variable {config : IngestConfig} {s s' : IngestState} {quality : VideoQuality}
variable {arrival : Arrival} {now : Nat} {frame : Bytes}

/-- Every bucket that counts a message lets it through at the rate of a preset. -/
def Granted (config : IngestConfig) (s : IngestState) (quality : VideoQuality) (arrival : Arrival) :
    Prop :=
  ∀ meter : Meter, meter.counts arrival.message = true →
    ((meter.bucket s).allowAt (seconds arrival.now) (meter.units arrival.message)
      (meter.rate quality) (meter.burstSecs config)).1 = true

/-- Every bucket that counts the message has been asked at that rate. -/
def AskedAll (config : IngestConfig) (s : IngestState) (quality : VideoQuality) (arrival : Arrival)
    (s' : IngestState) : Prop :=
  ∀ meter : Meter, meter.bucket s' = if meter.counts arrival.message then
    ((meter.bucket s).allowAt (seconds arrival.now) (meter.units arrival.message)
      (meter.rate quality) (meter.burstSecs config)).2 else meter.bucket s

theorem AskedAll.of_bucket_eq {s'' : IngestState} (h : AskedAll config s quality arrival s')
    (hbucket : ∀ meter : Meter, meter.bucket s'' = meter.bucket s') :
    AskedAll config s quality arrival s'' := fun meter => (hbucket meter).trans (h meter)

theorem meterAudio_of_granted (hgranted : Granted config s quality ⟨now, .binary frame⟩)
    (haudio : frame.head? = some 0x00) : ∃ s', s.meterAudio now frame = (none, s') ∧
      AskedAll config s quality ⟨now, .binary frame⟩ s' ∧ s'.videoQuality = s.videoQuality := by
  have hcounts : SocketMessage.isAudio (.binary frame) = true := decide_eq_true haudio
  have hvideo : SocketMessage.isVideo (.binary frame) = false := by
    simp [SocketMessage.isVideo, SocketMessage.bytes, haudio]
  have hjudged := s.audio.judged ⟨seconds now, frame.length⟩
  rw [meterAudio]
  generalize s.audio.receive ⟨seconds now, frame.length⟩ = outcome at hjudged
  cases hjudged with
  | @kicked frames bytes _ _ hframes hbytes hover =>
    have hframesTrue : frames = true :=
      (congrArg Prod.fst hframes).symm.trans (hgranted .abuseFrames hcounts)
    have hbytesTrue : bytes = true :=
      (congrArg Prod.fst hbytes).symm.trans (hgranted .abuseBytes hcounts)
    rw [hframesTrue, hbytesTrue] at hover
    cases hover
  | @judged judgement frames bytes _ _ _ _ habuseFrames habuseBytes hframes hbytes hjudgement =>
    have hframesTrue : frames = true :=
      (congrArg Prod.fst hframes).symm.trans (hgranted .audioFrames hcounts)
    have hbytesTrue : bytes = true :=
      (congrArg Prod.fst hbytes).symm.trans (hgranted .audioBytes hcounts)
    rw [hframesTrue, hbytesTrue] at hjudgement
    cases hjudgement
    refine ⟨_, rfl, ?_, rfl⟩
    intro meter
    cases meter with
    | control => rfl
    | abuseFrames => exact (congrArg Prod.snd habuseFrames).symm.trans (if_pos hcounts).symm
    | abuseBytes => exact (congrArg Prod.snd habuseBytes).symm.trans (if_pos hcounts).symm
    | audioFrames => exact (congrArg Prod.snd hframes).symm.trans (if_pos hcounts).symm
    | audioBytes => exact (congrArg Prod.snd hbytes).symm.trans (if_pos hcounts).symm
    | videoFrames | videoBytes => exact (if_neg (by simp [Meter.counts, hvideo])).symm

theorem meterVideo_of_granted (hgranted : Granted config s quality ⟨now, .binary frame⟩)
    (hselected : config.videoQualities[s.videoQuality]? = some quality)
    (henabled : config.media.videoEnabled = true)
    (hvideo : frame.head? = some 0x01 ∨ frame.head? = some 0x02) :
    ∃ s', s.meterVideo config now frame = (none, s') ∧
      AskedAll config s quality ⟨now, .binary frame⟩ s' ∧ s'.videoQuality = s.videoQuality := by
  have hcounts : SocketMessage.isVideo (.binary frame) = true := decide_eq_true hvideo
  have haudio : SocketMessage.isAudio (.binary frame) = false := by
    obtain hvideo | hvideo := hvideo
    · simp [SocketMessage.isAudio, SocketMessage.bytes, hvideo]
    · simp [SocketMessage.isAudio, SocketMessage.bytes, hvideo]
  have hframes : (s.videoFramesIngest.allowAt (seconds now) 1 quality.maxIngestFramesPerSecond
      config.videoIngestBurstSecs).1 = true := hgranted .videoFrames hcounts
  have hbytes : (s.videoIngest.allowAt (seconds now) frame.length quality.videoBytesPerSecond
      config.videoIngestBurstSecs).1 = true := hgranted .videoBytes hcounts
  rw [meterVideo, henabled, hselected]
  simp only [hframes, hbytes, Bool.not_true, Bool.false_eq_true, if_false]
  refine ⟨_, rfl, ?_, rfl⟩
  intro meter
  cases meter with
  | control => rfl
  | videoFrames | videoBytes => exact (if_pos hcounts).symm
  | _ => exact (if_neg (by simp [Meter.counts, haudio])).symm

theorem meter_of_granted (hgranted : Granted config s quality ⟨now, .binary frame⟩)
    (hselected : config.videoQualities[s.videoQuality]? = some quality)
    (hvalid : SocketMessage.Valid config (.binary frame)) :
    ∃ s', s.meter config now frame = (none, s') ∧
      AskedAll config s quality ⟨now, .binary frame⟩ s' ∧ s'.videoQuality = s.videoQuality := by
  rw [IngestState.meter]
  split
  next haudio => exact meterAudio_of_granted hgranted haudio
  next haudio =>
    split
    next hvideo =>
      cases henabled : config.media.videoEnabled with
      | true => exact meterVideo_of_granted hgranted hselected henabled hvideo
      | false =>
        obtain ⟨media, hparse⟩ := hvalid
        obtain ⟨reason, herror⟩ := parseStreamerMediaFrame_disabled henabled hvideo
        cases hparse.symm.trans herror
    next hvideo =>
      have haudio' : SocketMessage.isAudio (.binary frame) = false := decide_eq_false haudio
      have hvideo' : SocketMessage.isVideo (.binary frame) = false := decide_eq_false hvideo
      refine ⟨s, rfl, ?_, rfl⟩
      intro meter
      cases meter with
      | control => rfl
      | videoFrames | videoBytes => exact (if_neg (by simp [Meter.counts, hvideo'])).symm
      | _ => exact (if_neg (by simp [Meter.counts, haudio'])).symm

theorem control_of_granted (hgranted : Granted config s quality arrival)
    (hcontrol : arrival.message.isControl = true) (hbytes : arrival.message.bytes = []) :
    ∃ s', s.control arrival.now = (true, s') ∧ AskedAll config s quality arrival s' ∧
      s'.videoQuality = s.videoQuality := by
  have hallowed : (s.controlIngest.allowAt (seconds arrival.now) 1
      STREAMER_CONTROL_MESSAGES_PER_SECOND DEFAULT_TOKEN_BUCKET_BURST_SECS).1 = true :=
    hgranted .control hcontrol
  refine ⟨_, Prod.ext hallowed rfl, ?_, rfl⟩
  intro meter
  cases meter with
  | control => exact (if_pos hcontrol).symm
  | _ =>
    refine (if_neg ?_).symm
    simp [Meter.counts, SocketMessage.isAudio, SocketMessage.isVideo, hbytes]

theorem command_of_valid {line : Text} (hvalid : SocketMessage.Valid config (.text line)) :
    SocketMessage.Answered (.text line) (s.command config line).1 ∧
      (s.command config line).2.videoQuality =
        SocketMessage.selects s.videoQuality (.text line) := by
  obtain ⟨command, hcommand, henabled, hindex⟩ := hvalid
  have hcommanded := commanded config s line
  generalize s.command config line = result at hcommanded ⊢
  rw [SocketMessage.selects]
  cases hcommanded with
  | invalid hnone => cases hcommand.symm.trans hnone
  | disabled hsome hdisabled hvideo =>
    cases hcommand.symm.trans hsome
    exact absurd ((henabled hvideo).symm.trans hdisabled) (by decide)
  | forceResync hsome =>
    rw [hsome]
    exact ⟨.inr ⟨_, rfl⟩, rfl⟩
  | reset hsome _ hmessage =>
    rw [hsome]
    obtain ⟨rfl, -⟩ | ⟨rfl, -⟩ | ⟨rfl, -⟩ := hmessage
    all_goals exact ⟨.inr ⟨_, rfl⟩, rfl⟩
  | invalidQuality hsome _ hlong =>
    cases hcommand.symm.trans hsome
    exact absurd (hindex _ rfl) (Nat.not_lt.mpr hlong)
  | quality hsome =>
    rw [hsome]
    exact ⟨.inl rfl, rfl⟩

/-- A valid message that all its buckets let through is answered as its publisher wants. -/
theorem receive_of_granted (hgranted : Granted config s quality arrival)
    (hselected : config.videoQualities[s.videoQuality]? = some quality)
    (hvalid : arrival.message.Valid config) :
    arrival.message.Answered (s.receive config arrival).1 ∧
      AskedAll config s quality arrival (s.receive config arrival).2 ∧
      (s.receive config arrival).2.videoQuality = arrival.message.selects s.videoQuality := by
  have hreceived := received config s arrival
  obtain ⟨now, message⟩ := arrival
  generalize s.receive config ⟨now, message⟩ = result at hreceived ⊢
  cases hreceived with
  | close => exact hvalid.elim
  | metered hmeter =>
    obtain ⟨s'', hnone, -⟩ := meter_of_granted hgranted hselected hvalid
    cases hmeter.symm.trans hnone
  | audio hmeter hparse =>
    obtain ⟨s'', hnone, hasked, hquality⟩ := meter_of_granted hgranted hselected hvalid
    cases hmeter.symm.trans hnone
    have hbody := (parseStreamerMediaFrame_audio hparse).2.1
    refine ⟨⟨_, _, rfl, congrArg some hbody⟩, hasked.of_bucket_eq ?_, hquality⟩
    intro meter
    cases meter <;> rfl
  | video hmeter hparse =>
    obtain ⟨s'', hnone, hasked, hquality⟩ := meter_of_granted hgranted hselected hvalid
    cases hmeter.symm.trans hnone
    have hbody := (parseStreamerMediaFrame_video hparse).2.1
    refine ⟨⟨_, _, rfl, congrArg some hbody⟩, hasked.of_bucket_eq ?_, hquality⟩
    intro meter
    cases meter <;> rfl
  | invalid hmeter hparse =>
    obtain ⟨media, hok⟩ := hvalid
    cases hparse.symm.trans hok
  | refused hbinary hclose hcontrol =>
    have hmessage : message.isControl = true ∧ message.bytes = [] := by
      cases message with
      | binary frame => exact absurd rfl (hbinary frame)
      | close => exact absurd rfl hclose
      | _ => exact ⟨rfl, rfl⟩
    obtain ⟨s'', htrue, -⟩ := control_of_granted hgranted hmessage.1 hmessage.2
    cases hcontrol.symm.trans htrue
  | @text line s' hcontrol =>
    obtain ⟨s'', htrue, hasked, hquality⟩ := control_of_granted hgranted rfl rfl
    cases hcontrol.symm.trans htrue
    obtain ⟨hanswered, hselects⟩ := command_of_valid (s := s') hvalid
    rw [hquality] at hselects
    exact ⟨hanswered, hasked.of_bucket_eq (fun meter => bucket_command meter config s' line),
      hselects⟩
  | ping hcontrol =>
    obtain ⟨s'', htrue, hasked, hquality⟩ := control_of_granted hgranted rfl rfl
    cases hcontrol.symm.trans htrue
    exact ⟨rfl, hasked, hquality⟩
  | pong hcontrol =>
    obtain ⟨s'', htrue, hasked, hquality⟩ := control_of_granted hgranted rfl rfl
    cases hcontrol.symm.trans htrue
    exact ⟨rfl, hasked, hquality⟩

/-- The preset that is selected after messages. -/
def selected (start : Nat) (arrivals : List Arrival) : Nat :=
  arrivals.foldl (fun index arrival => arrival.message.selects index) start

/-- No bucket holds less than a policer would at a rate that is always granted. -/
def Supplied (config : IngestConfig) (s : IngestState) (floor : Meter → ℚ)
    (requests : Meter → List (Request ℚ)) (now : ℚ) : Prop :=
  ∀ meter : Meter, (meter.bucket s).Above (floor meter) (floor meter * meter.burstSecs config)
    (requests meter) now

/-- The requests with those of further messages. -/
def offered (arrivals : List Arrival) (requests : Meter → List (Request ℚ)) (meter : Meter) :
    List (Request ℚ) :=
  ((arrivals.filterMap (fun arrival => meter.call arrival)).reverse.map BucketCall.request) ++
    requests meter

/-- All of them together keep to the policers. -/
def Fits (config : IngestConfig) (floor : Meter → ℚ) (requests : Meter → List (Request ℚ)) : Prop :=
  ∀ meter, 0 ≤ floor meter ∧
    Conforms (floor meter) (floor meter * meter.burstSecs config) (requests meter)

variable {floor : Meter → ℚ} {requests : Meter → List (Request ℚ)} {time : ℚ}
variable {arrivals : List Arrival}

theorem offered_cons (arrival : Arrival) (arrivals : List Arrival)
    (requests : Meter → List (Request ℚ)) :
    offered (arrival :: arrivals) requests = offered arrivals (offered [arrival] requests) := by
  funext meter
  simp only [offered, List.filterMap_cons, List.filterMap_nil]
  cases meter.call arrival <;> simp

theorem Fits.of_offered (h : Fits config floor (offered arrivals requests)) :
    Fits config floor requests := fun meter => ⟨(h meter).1, (h meter).2.of_append⟩

/-- One message that fits behind the ones so far. -/
theorem Supplied.receive (h : Supplied config s floor requests time)
    (htime : time ≤ seconds arrival.now)
    (hfits : Fits config floor (offered [arrival] requests))
    (hquality : quality ∈ config.videoQualities)
    (hfloor : ∀ meter : Meter, meter.counts arrival.message = true →
      floor meter ≤ meter.rate quality) :
    Granted config s quality arrival ∧
      ∀ s', AskedAll config s quality arrival s' →
        Supplied config s' floor (offered [arrival] requests) (seconds arrival.now) := by
  have hstep : ∀ meter : Meter, meter.counts arrival.message = true →
      ((meter.bucket s).allowAt (seconds arrival.now) (meter.units arrival.message)
        (meter.rate quality) (meter.burstSecs config)).1 = true ∧
      ((meter.bucket s).allowAt (seconds arrival.now) (meter.units arrival.message)
        (meter.rate quality) (meter.burstSecs config)).2.Above (floor meter)
          (floor meter * meter.burstSecs config)
          (⟨seconds arrival.now, meter.units arrival.message⟩ :: requests meter)
          (seconds arrival.now) := by
    intro meter hcounts
    have hcap : floor meter * meter.burstSecs config ≤
        TokenBucket.capacity (meter.rate quality) (meter.burstSecs config) := by
      rw [TokenBucket.capacity_eq (Meter.rate_mul_burstSecs_lt meter config quality)]
      exact mul_le_mul_of_nonneg_right (hfloor meter hcounts) (Nat.cast_nonneg _)
    have hconforms := (hfits meter).2
    rw [offered, List.filterMap_cons, Meter.call_of_counts hcounts] at hconforms
    let call : BucketCall := ⟨seconds arrival.now, meter.units arrival.message⟩
    have habove : (meter.bucket s).Above (floor meter) (floor meter * meter.burstSecs config)
        (requests meter) call.now := (h meter).mono htime
    exact habove.step (hfits meter).1
      ⟨Meter.rate_pos hquality, Meter.burstSecs_pos meter config⟩ (hfloor meter hcounts) hcap
      hconforms
  refine ⟨fun meter hcounts => (hstep meter hcounts).1, ?_⟩
  intro s' hasked meter
  rw [hasked meter, offered, List.filterMap_cons, List.filterMap_nil]
  cases hcounts : meter.counts arrival.message with
  | true =>
    rw [Meter.call_of_counts hcounts]
    exact (hstep meter hcounts).2
  | false =>
    rw [Meter.call_eq_none hcounts]
    exact (h meter).mono htime

theorem ends_of_answered {message : SocketMessage} {outcome : IngestOutcome}
    (h : message.Answered outcome) : outcome.ends = false := by
  cases message with
  | text line =>
    obtain rfl | ⟨message, rfl⟩ := h
    · rfl
    · rfl
  | binary frame =>
    obtain ⟨message, fmtp, rfl, -⟩ := h
    rfl
  | ping payload =>
    obtain rfl := h
    rfl
  | pong payload =>
    obtain rfl := h
    rfl
  | close => exact h.elim

theorem selects_lt {index : Nat} (hindex : index < config.videoQualities.length)
    (hvalid : arrival.message.Valid config) :
    arrival.message.selects index < config.videoQualities.length := by
  cases hmessage : arrival.message with
  | text line =>
    rw [hmessage] at hvalid
    obtain ⟨command, hcommand, -, hlt⟩ := hvalid
    rw [SocketMessage.selects, hcommand]
    cases command with
    | videoQuality index => exact hlt index rfl
    | _ => exact hindex
  | _ => exact hindex

theorem Supplied.receiveAll (h : Supplied config s floor requests time)
    (hindex : s.videoQuality < config.videoQualities.length)
    (hsorted : arrivals.Pairwise (fun arrival later => arrival.now ≤ later.now))
    (htime : ∀ arrival ∈ arrivals, time ≤ seconds arrival.now)
    (hvalid : ∀ arrival ∈ arrivals, arrival.message.Valid config)
    (hfits : Fits config floor (offered arrivals requests))
    (hfloor : ∀ before arrival after quality, arrivals = before ++ arrival :: after →
      config.videoQualities[selected s.videoQuality before]? = some quality →
      ∀ meter : Meter, meter.counts arrival.message = true → floor meter ≤ meter.rate quality) :
    (s.receiveAll config arrivals).1.map Handled.arrival = arrivals ∧
      ∀ handled ∈ (s.receiveAll config arrivals).1,
        handled.arrival.message.Answered handled.outcome := by
  induction arrivals generalizing s requests time with
  | nil => exact ⟨rfl, nofun⟩
  | cons arrival arrivals ih =>
    obtain ⟨hfirst, hrest⟩ := List.pairwise_cons.mp hsorted
    obtain ⟨hvalidFirst, hvalidRest⟩ := List.forall_mem_cons.mp hvalid
    rw [offered_cons] at hfits
    have hselected := List.getElem?_eq_getElem hindex
    generalize config.videoQualities[s.videoQuality] = quality at hselected
    obtain ⟨hgranted, hsupplied⟩ := h.receive (htime arrival List.mem_cons_self)
      hfits.of_offered (List.mem_of_getElem? hselected)
      (hfloor [] arrival arrivals quality rfl hselected)
    obtain ⟨hanswered, hasked, hselects⟩ := receive_of_granted hgranted hselected hvalidFirst
    have hcontinue : (s.receiveAll config (arrival :: arrivals)).1 = _ :=
      congrArg Prod.fst
        (receiveAll_cons_of_continues (ends_of_answered hanswered))
    have hindex' : (s.receive config arrival).2.videoQuality < config.videoQualities.length := by
      rw [hselects]
      exact selects_lt hindex hvalidFirst
    obtain ⟨hmap, hall⟩ := ih (hsupplied _ hasked) hindex' hrest
      (fun later hmem => seconds_mono (hfirst later hmem)) hvalidRest hfits (by
        intro before later after quality hsplit hquality
        refine hfloor (arrival :: before) later after quality ?_ ?_
        · rw [hsplit, List.cons_append]
        · rw [selected, List.foldl_cons, ← hselects]
          exact hquality)
    rw [hcontinue]
    exact ⟨congrArg (arrival :: ·) hmap, List.forall_mem_cons.mpr ⟨hanswered, hall⟩⟩

end IngestState

end VRCStreamer
