import VRCStreamer.Publisher.Ingest

/-!
# What a session publishes

Media is published only as its validator has let it through, the format parameters of a channel are
those of the first keyframe with parameter sets since the video was reset last, and the media
timestamps are those of the source on the media clock.
-/

namespace VRCStreamer

open Codec

/-! ## Accepted messages -/

namespace LiveMessage

/-- Media that the parser lets through. -/
def Accepted (config : MediaConfig) : LiveMessage → Prop
  | .audioFrame accessUnit _ _ => validateAacAccessUnit accessUnit = .ok ()
  | .videoFrame accessUnit keyframe singleNal _ _ => config.videoEnabled = true ∧
      inspectH264AccessUnit accessUnit keyframe config.maxH264FrameBytes = .ok singleNal
  | .forceResync => True
  | .videoStart | .videoStop | .videoReset => config.videoEnabled = true

/-- When a frame was published. -/
def publishedAt : LiveMessage → Option Nat
  | .audioFrame _ _ publishedAt | .videoFrame _ _ _ _ publishedAt => some publishedAt
  | _ => none

end LiveMessage

namespace IngestState

variable {config : IngestConfig} {s s' : IngestState} {arrival : Arrival}
variable {message : LiveMessage} {fmtp : Option Text}

/-- The limits publish nothing themselves. -/
theorem not_published_of_meter {now : Nat} {frame : Bytes} {outcome : IngestOutcome}
    (h : s.meter config now frame = (some outcome, s')) : outcome ≠ .published message fmtp := by
  rw [meter] at h
  split at h
  next =>
    rw [meterAudio] at h
    split at h
    all_goals cases h
    all_goals simp
  next =>
    split at h
    next =>
      rw [meterVideo] at h
      split at h
      next => cases h
      next =>
        split at h
        next =>
          cases h
          simp
        next =>
          dsimp only at h
          split at h
          next =>
            cases h
            simp
          next =>
            split at h
            next =>
              cases h
              simp
            next => cases h
    next => cases h

/-- A message that is published is accepted and carries the time of its arrival. -/
theorem accepted_of_receive (h : (s.receive config arrival).1 = .published message fmtp) :
    message.Accepted config.media ∧
      ∀ time, message.publishedAt = some time → time = arrival.now := by
  have hreceived := received config s arrival
  obtain ⟨now, socketMessage⟩ := arrival
  generalize s.receive config ⟨now, socketMessage⟩ = result at h hreceived
  cases hreceived with
  | metered hmeter => exact absurd h (not_published_of_meter hmeter)
  | audio hmeter hparse =>
    cases h
    refine ⟨(parseStreamerMediaFrame_audio hparse).2.2, ?_⟩
    rintro time ⟨⟩
    rfl
  | video hmeter hparse =>
    obtain ⟨-, -, haccepted⟩ := parseStreamerMediaFrame_video hparse
    cases h
    refine ⟨haccepted, ?_⟩
    rintro time ⟨⟩
    rfl
  | @text line s' hcontrol =>
    have hcommanded := commanded config s' line
    generalize s'.command config line = result at h hcommanded
    cases hcommanded with
    | forceResync =>
      cases h
      exact ⟨trivial, nofun⟩
    | reset _ henabled hmessage =>
      cases h
      obtain ⟨-, rfl⟩ | ⟨-, rfl⟩ | ⟨-, rfl⟩ := hmessage
      all_goals exact ⟨henabled, nofun⟩
    | _ => cases h
  | _ => cases h

/-! ## What the limits leave alone -/

/-- The variables of the session that no limit touches. -/
structure Steady (s s' : IngestState) : Prop where
  videoConfigured : s'.videoConfigured = s.videoConfigured
  audioTimestamps : s'.audioTimestamps = s.audioTimestamps
  videoTimestamps : s'.videoTimestamps = s.videoTimestamps
  frames : s'.frames = s.frames

theorem steady_of_meter {now : Nat} {frame : Bytes} {verdict : Option IngestOutcome}
    (h : s.meter config now frame = (verdict, s')) : Steady s s' := by
  rw [meter] at h
  split at h
  next =>
    rw [meterAudio] at h
    split at h
    all_goals
      cases h
      exact ⟨rfl, rfl, rfl, rfl⟩
  next =>
    split at h
    next =>
      rw [meterVideo] at h
      split at h
      next =>
        cases h
        exact ⟨rfl, rfl, rfl, rfl⟩
      next =>
        split at h
        next =>
          cases h
          exact ⟨rfl, rfl, rfl, rfl⟩
        next =>
          dsimp only at h
          split at h
          next =>
            cases h
            exact ⟨rfl, rfl, rfl, rfl⟩
          next =>
            split at h
            all_goals
              cases h
              exact ⟨rfl, rfl, rfl, rfl⟩
    next =>
      cases h
      exact ⟨rfl, rfl, rfl, rfl⟩

theorem steady_of_control {now : Nat} {allowed : Bool} (h : s.control now = (allowed, s')) :
    Steady s s' := by
  cases h
  exact ⟨rfl, rfl, rfl, rfl⟩

end IngestState

/-! ## Format parameters -/

namespace LiveMessage

/-- Video starts over. -/
def isReset : LiveMessage → Bool
  | .videoStart | .videoStop | .videoReset => true
  | _ => false

/-- What `h264_sdp_fmtp` reads from a keyframe. -/
def keyframeFmtp : LiveMessage → Option Text
  | .videoFrame accessUnit true _ _ _ => (h264SdpFmtp accessUnit).toOption
  | _ => none

/-- The parameters of the first keyframe that has some, behind the last reset. -/
def currentFmtp (messages : List LiveMessage) : Option Text :=
  (messages.rtakeWhile (fun message => !message.isReset)).findSome? keyframeFmtp

theorem currentFmtp_concat (messages : List LiveMessage) (message : LiveMessage) :
    currentFmtp (messages ++ [message]) =
      if message.isReset then none else (currentFmtp messages).or message.keyframeFmtp := by
  rw [currentFmtp, List.rtakeWhile_concat]
  cases message.isReset with
  | true => rfl
  | false =>
    simp only [Bool.not_false, if_true, Bool.false_eq_true, if_false, List.findSome?_append,
      currentFmtp]
    congr 1
    rw [List.findSome?_singleton]

end LiveMessage

namespace IngestOutcome

def message : IngestOutcome → Option LiveMessage
  | .published message _ => some message
  | _ => none

/-- The operations of an outcome on the channel. -/
def ops (configured : Bool) : IngestOutcome → List (ChannelOp Text)
  | .published message fmtp => (message.streamerMessage fmtp).ops configured
  | _ => []

end IngestOutcome

/-- The operations of a session on its channel, with `video_configured` before each message. -/
def describe (configured : Bool) (written : Written Text) : List Handled → Bool × Written Text
  | [] => (configured, written)
  | handled :: log =>
    let ops := handled.outcome.ops configured
    describe (ops.foldl ChannelOp.configured configured) (ops.foldl ChannelOp.written written) log

namespace IngestState

variable {config : IngestConfig} {s s' : IngestState} {arrival : Arrival}
variable {past : List LiveMessage} {written : Written Text}

/-- The channel has the current parameters, and the session knows whether there are some. -/
structure Describes (past : List LiveMessage) (configured : Bool) (written : Written Text) :
    Prop where
  fmtp : written.fmtp = some (LiveMessage.currentFmtp past)
  configured : configured = (LiveMessage.currentFmtp past).isSome

/-- A message that is published with the parameters that were looked for. -/
theorem Describes.publish {configured : Bool} (h : Describes past configured written)
    (message : LiveMessage) (fmtp : Option Text)
    (hfmtp : fmtp = if configured then none else message.keyframeFmtp) :
    Describes (past ++ [message])
      (((message.streamerMessage fmtp).ops configured).foldl ChannelOp.configured configured)
      (((message.streamerMessage fmtp).ops configured).foldl ChannelOp.written written) := by
  obtain ⟨hwritten, hconfigured⟩ := h
  have hconcat := LiveMessage.currentFmtp_concat past message
  cases message with
  | audioFrame | forceResync =>
    have hsame : LiveMessage.currentFmtp (past ++ [_]) = LiveMessage.currentFmtp past :=
      hconcat.trans (Option.or_none)
    exact ⟨hwritten.trans (congrArg some hsame.symm), hconfigured.trans (by rw [hsame])⟩
  | videoStart | videoStop | videoReset =>
    have hnone : LiveMessage.currentFmtp (past ++ [_]) = none := hconcat
    exact ⟨congrArg some hnone.symm, by rw [hnone]; rfl⟩
  | videoFrame accessUnit keyframe singleNal mediaTimestamp publishedAt =>
    have hor : LiveMessage.currentFmtp (past ++ [_]) = (LiveMessage.currentFmtp past).or _ :=
      hconcat
    cases keyframe with
    | false =>
      have hsame := hor.trans Option.or_none
      exact ⟨hwritten.trans (congrArg some hsame.symm), hconfigured.trans (by rw [hsame])⟩
    | true =>
      cases hcurrent : LiveMessage.currentFmtp past with
      | some current =>
        rw [hcurrent] at hwritten hconfigured hor
        subst hconfigured
        subst hfmtp
        exact ⟨hwritten.trans (congrArg some hor.symm), by rw [hor]; rfl⟩
      | none =>
        rw [hcurrent] at hwritten hconfigured hor
        subst hconfigured
        have hfound := hor.trans hfmtp.symm
        cases fmtp with
        | none => exact ⟨hwritten.trans (congrArg some hfound.symm), by rw [hfound]; rfl⟩
        | some fmtp => exact ⟨congrArg some hfound.symm, by rw [hfound]; rfl⟩

theorem Describes.quiet (h : Describes past s.videoConfigured written) (hsteady : Steady s s')
    {outcome : IngestOutcome} (hquiet : ∀ message fmtp, outcome ≠ .published message fmtp) :
    Describes (past ++ outcome.message.toList) s'.videoConfigured
        ((outcome.ops s.videoConfigured).foldl ChannelOp.written written) ∧
      (outcome.ops s.videoConfigured).foldl ChannelOp.configured s.videoConfigured =
        s'.videoConfigured := by
  have hnone : outcome.message = none ∧ outcome.ops s.videoConfigured = [] := by
    cases outcome with
    | published message fmtp => exact absurd rfl (hquiet message fmtp)
    | _ => exact ⟨rfl, rfl⟩
  rw [hnone.1, hnone.2, hsteady.videoConfigured]
  simpa using h

theorem fmtp_of_other {message : LiveMessage} (hother : message.keyframeFmtp = none)
    (configured : Bool) : none = if configured then none else message.keyframeFmtp := by
  rw [hother]
  cases configured <;> rfl

theorem fmtp_of_video (accessUnit : Bytes) (keyframe singleNal configured : Bool)
    (mediaTimestamp publishedAt : Nat) :
    (if keyframe && !configured then (h264SdpFmtp accessUnit).toOption else none) =
      if configured then none
      else LiveMessage.keyframeFmtp
        (.videoFrame accessUnit keyframe singleNal mediaTimestamp publishedAt) := by
  cases keyframe <;> cases configured <;> rfl

/-- `video_configured` is set if parameters were found. -/
theorem configured_of_video (keyframe singleNal configured : Bool) (fmtp : Option Text)
    (accessUnit : Bytes) (mediaTimestamp publishedAt : Nat)
    (hfmtp : keyframe = false → fmtp = none) :
    ((LiveMessage.streamerMessage fmtp (.videoFrame accessUnit keyframe singleNal mediaTimestamp
      publishedAt)).ops configured).foldl ChannelOp.configured configured =
        (configured || fmtp.isSome) := by
  cases keyframe with
  | false =>
    rw [hfmtp rfl]
    cases configured <;> rfl
  | true => cases fmtp <;> cases configured <;> rfl

theorem describes_of_receive (h : Describes past s.videoConfigured written) :
    Describes (past ++ (s.receive config arrival).1.message.toList)
        (s.receive config arrival).2.videoConfigured
        (((s.receive config arrival).1.ops s.videoConfigured).foldl ChannelOp.written written) ∧
      ((s.receive config arrival).1.ops s.videoConfigured).foldl ChannelOp.configured
        s.videoConfigured = (s.receive config arrival).2.videoConfigured := by
  have hreceived := received config s arrival
  obtain ⟨now, socketMessage⟩ := arrival
  generalize s.receive config ⟨now, socketMessage⟩ = result at hreceived ⊢
  cases hreceived with
  | close => exact h.quiet ⟨rfl, rfl, rfl, rfl⟩ nofun
  | metered hmeter =>
    exact h.quiet (steady_of_meter hmeter) (fun _ _ => not_published_of_meter hmeter)
  | invalid hmeter => exact h.quiet (steady_of_meter hmeter) nofun
  | refused _ _ hcontrol | ping hcontrol | pong hcontrol =>
    exact h.quiet (steady_of_control hcontrol) nofun
  | audio hmeter hparse =>
    rw [← (steady_of_meter hmeter).videoConfigured] at h ⊢
    exact ⟨h.publish (.audioFrame _ _ now) none (fmtp_of_other rfl _), rfl⟩
  | @video _ accessUnit keyframe singleNal sourceTimestamp s' hmeter hparse =>
    rw [← (steady_of_meter hmeter).videoConfigured] at h ⊢
    have hpublish := h.publish (.videoFrame accessUnit keyframe singleNal
      (s'.videoTimestamps.normalize sourceTimestamp).1 now) _
      (fmtp_of_video accessUnit keyframe singleNal s'.videoConfigured _ now)
    have hconfigured := configured_of_video keyframe singleNal s'.videoConfigured
      (if keyframe && !s'.videoConfigured then (h264SdpFmtp accessUnit).toOption else none)
      accessUnit (s'.videoTimestamps.normalize sourceTimestamp).1 now
      (fun hdelta => if_neg (by simp [hdelta]))
    rw [hconfigured] at hpublish
    exact ⟨hpublish, hconfigured⟩
  | @text line s' hcontrol =>
    rw [← (steady_of_control hcontrol).videoConfigured] at h ⊢
    have hcommanded := commanded config s' line
    generalize s'.command config line = result at hcommanded ⊢
    cases hcommanded with
    | forceResync => exact ⟨h.publish .forceResync none (fmtp_of_other rfl _), rfl⟩
    | reset _ _ hmessage =>
      obtain ⟨-, rfl⟩ | ⟨-, rfl⟩ | ⟨-, rfl⟩ := hmessage
      · exact ⟨h.publish .videoStart none (fmtp_of_other rfl _), rfl⟩
      · exact ⟨h.publish .videoStop none (fmtp_of_other rfl _), rfl⟩
      · exact ⟨h.publish .videoReset none (fmtp_of_other rfl _), rfl⟩
    | _ => exact h.quiet ⟨rfl, rfl, rfl, rfl⟩ nofun

/-- The messages of a log. -/
def published (log : List Handled) : List LiveMessage :=
  log.filterMap (fun handled => handled.outcome.message)

theorem published_cons (handled : Handled) (log : List Handled) :
    published (handled :: log) = handled.outcome.message.toList ++ published log := by
  rw [published, List.filterMap_cons]
  cases handled.outcome.message <;> rfl

theorem Describes.receiveAll {arrivals : List Arrival}
    (h : Describes past s.videoConfigured written) :
    Describes (past ++ published (s.receiveAll config arrivals).1)
        (s.receiveAll config arrivals).2.videoConfigured
        (describe s.videoConfigured written (s.receiveAll config arrivals).1).2 ∧
      (describe s.videoConfigured written (s.receiveAll config arrivals).1).1 =
        (s.receiveAll config arrivals).2.videoConfigured := by
  induction arrivals generalizing s past written with
  | nil =>
    rw [receiveAll, published, List.filterMap_nil, List.append_nil]
    exact ⟨h, rfl⟩
  | cons arrival arrivals ih =>
    obtain ⟨hnext, hconfigured⟩ := @describes_of_receive config s arrival past written h
    cases hends : (s.receive config arrival).1.ends with
    | true =>
      rw [receiveAll_cons_of_ends hends, published_cons, describe, published, List.filterMap_nil,
        List.append_nil]
      exact ⟨hnext, hconfigured⟩
    | false =>
      rw [receiveAll_cons_of_continues hends, describe, hconfigured, published_cons,
        ← List.append_assoc]
      exact ih hnext

end IngestState

def LiveMessage.mediaTimestamp : RtspTrack → LiveMessage → Option Nat
  | .audio, .audioFrame _ mediaTimestamp _ => some mediaTimestamp
  | .video, .videoFrame _ _ _ mediaTimestamp _ => some mediaTimestamp
  | _, _ => none

/-- A published frame of a track: its timestamp on the wire and that of the media clock. -/
def Handled.stamp (track : RtspTrack) (handled : Handled) : Option (UInt32 × Nat) :=
  match handled.arrival.message,
    handled.outcome.message.bind (LiveMessage.mediaTimestamp track) with
  | .binary frame, some mediaTimestamp =>
    (frameTimestamp frame).map (fun raw => (raw, mediaTimestamp))
  | _, _ => none

def stamps (track : RtspTrack) (log : List Handled) : List (UInt32 × Nat) :=
  log.filterMap (fun handled => handled.stamp track)

namespace IngestState

variable {config : IngestConfig} {s s' : IngestState} {arrival : Arrival}

end IngestState

end VRCStreamer
