import VRCStreamer.Listener.Task
import VRCStreamer.Rtp.RoundTrip

/-!
# What a step of a media task does to RTP time

A step sends at most one access unit, and a step that fails ends the task. Live frames of
both tracks go through the timeline. The audio track leaves its RTP state at the timestamp
of the frame that follows the unit.
-/

namespace VRCStreamer

open Codec

/-! ## Sending -/

namespace Sending

variable {s out : Sending} {accessUnit : Bytes}

theorem sendAac_timestamp (h : s.sendAac accessUnit = .ok out) :
    out.rtp.timestamp = s.rtp.timestamp + UInt32.ofNat AAC_SAMPLES_PER_FRAME := by
  rw [sendAac] at h
  split at h
  next => cases h
  next =>
    obtain rfl := Except.ok.inj h
    rfl

end Sending

namespace RtcpReporter

variable {rtcp : RtcpReporter} {s : Sending} {mediaTime : RtcpMediaTime} {timer now later : Nat}
variable {cname : Bytes} {ntp : UInt32 × UInt32} {send : Sending → Except String Sending}

/-- An access unit is sent from the RTP state at hand, with or without a report before it. -/
theorem transmit_ok
    (h : (rtcp.transmit s mediaTime timer cname now later ntp send).error = none) :
    ∃ started, started.rtp = s.rtp ∧
      send started = .ok (rtcp.transmit s mediaTime timer cname now later ntp send).sending := by
  refine ⟨(rtcp.startIfNeeded s mediaTime timer cname now later ntp).1, startIfNeeded_rtp .., ?_⟩
  rw [transmit] at h ⊢
  cases hsend : send (rtcp.startIfNeeded s mediaTime timer cname now later ntp).1 with
  | error reason =>
    rw [hsend] at h
    cases h
  | ok sending => rfl

end RtcpReporter

/-- A unit was sent, or the task fails. -/
inductive SendEffect {τ : Type*} (unit : SentUnit) (outcome : TrackOutcome τ) : Prop
  | failed (reason : String) (hsent : outcome.sent = none) (hresult : outcome.result = .error reason)
  | sent (hsent : outcome.sent = some unit)

/-! ## The audio track -/

/-- The timestamp of the frame after an audio frame. -/
def following (timestamp : UInt32) : UInt32 := timestamp + UInt32.ofNat AAC_SAMPLES_PER_FRAME

namespace AudioRtpTrack

variable {ρ : Type*} {track : AudioRtpTrack ρ} {context : RtpTaskContext ρ}

theorem send_clock (accessUnit : Bytes) (mediaTime : RtcpMediaTime) (source : UnitSource) :
    (track.send accessUnit mediaTime source context).track.clock = track.clock := by
  rw [send]
  dsimp only
  split <;> rfl

theorem send_effect (track : AudioRtpTrack ρ) (accessUnit : Bytes) (mediaTime : RtcpMediaTime)
    (source : UnitSource) :
    SendEffect ⟨.audio, source, track.rtp.timestamp, context.stream.now 0⟩
      (track.send accessUnit mediaTime source context) := by
  rw [send]
  dsimp only
  split
  next reason herror => exact .failed reason rfl rfl
  next => exact .sent rfl

/-- After a unit the track is at the timestamp of the next one. -/
theorem send_timestamp {accessUnit : Bytes} {mediaTime : RtcpMediaTime} {source : UnitSource}
    {unit : SentUnit} (h : (track.send accessUnit mediaTime source context).sent = some unit) :
    (track.send accessUnit mediaTime source context).track.rtp.timestamp =
      following unit.timestamp := by
  rw [send] at h ⊢
  dsimp only at h ⊢
  split at h
  next => cases h
  next hnone =>
    obtain rfl := Option.some.inj h
    obtain ⟨started, hrtp, hsend⟩ := RtcpReporter.transmit_ok hnone
    refine (Sending.sendAac_timestamp hsend).trans ?_
    rw [hrtp]
    rfl

/-- What an event sends, and how it leaves the timeline and the track's timestamp. -/
inductive Effect (track : AudioRtpTrack ρ) (event : AudioRtpEvent) (context : RtpTaskContext ρ)
    (timeline : RtpMediaTimeline)
    (outcome : TrackOutcome (AudioRtpTrack ρ) × RtpMediaTimeline) : Prop
  | quiet (hsent : outcome.1.sent = none)
      (hleft : outcome.1.track.rtp.timestamp = track.rtp.timestamp)
      (htimeline : outcome.2 = timeline)
  | silence
      (hsent : SendEffect ⟨.audio, .silence, track.rtp.timestamp, context.stream.now 0⟩ outcome.1)
      (hleft : ∀ unit, outcome.1.sent = some unit →
        outcome.1.track.rtp.timestamp = following unit.timestamp)
      (htimeline : outcome.2 = timeline)
  | live (session : Nat) (accessUnit : Bytes) (mediaTimestamp publishedAt : Nat)
      (hevent : event = .message (.ok (.frame session accessUnit mediaTimestamp publishedAt)))
      (hsent : SendEffect
        ⟨.audio, .live session context.resyncEpoch mediaTimestamp,
          (timeline.map context.resyncEpoch mediaTimestamp track.clock (context.stream.now 0)).1,
          context.stream.now 0⟩ outcome.1)
      (hleft : ∀ unit, outcome.1.sent = some unit →
        outcome.1.track.rtp.timestamp = following unit.timestamp)
      (htimeline : outcome.2 =
        (timeline.map context.resyncEpoch mediaTimestamp track.clock (context.stream.now 0)).2)

theorem handleEvent_clock (event : AudioRtpEvent) (timeline : RtpMediaTimeline) :
    (track.handleEvent event context timeline).1.track.clock = track.clock := by
  cases event with
  | message received =>
    cases received with
    | error error => cases error <;> rfl
    | ok message =>
      cases message with
      | wake => rfl
      | frame session accessUnit mediaTimestamp publishedAt =>
        rw [handleEvent]
        split
        next => rfl
        next =>
          dsimp only
          rw [send_clock, setTimestamp_clock]
  | silence =>
    rw [handleEvent]
    dsimp only
    rw [TrackOutcome.andThen_track _ _ AudioRtpTrack.clock (fun _ => silenceSent_clock _ _),
      send_clock]
  | report => rfl

theorem handleEvent_effect (event : AudioRtpEvent) (context : RtpTaskContext ρ)
    (timeline : RtpMediaTimeline) :
    Effect track event context timeline (track.handleEvent event context timeline) := by
  cases event with
  | message received =>
    cases received with
    | error error =>
      cases error with
      | lagged skipped => exact .quiet rfl rfl rfl
      | closed => exact .quiet rfl rfl rfl
    | ok message =>
      cases message with
      | wake => exact .quiet rfl rfl rfl
      | frame session accessUnit mediaTimestamp publishedAt =>
        rw [handleEvent]
        split
        next => exact .quiet rfl rfl rfl
        next =>
          refine .live session accessUnit mediaTimestamp publishedAt rfl ?_ ?_ rfl
          · exact (track.setTimestamp _).send_effect _ _ _
          · exact fun unit hsent => send_timestamp hsent
  | silence =>
    rw [handleEvent]
    refine .silence ?_ ?_ rfl
    · have heffect : SendEffect _ (track.send AAC_SILENCE_ACCESS_UNIT
          ⟨track.rtp.timestamp, track.nextSendAt⟩ .silence context) :=
        track.send_effect _ _ _
      obtain ⟨reason, hsent, hresult⟩ | hsent := heffect
      · exact .failed reason ((TrackOutcome.andThen_sent _ _).trans hsent)
          ((TrackOutcome.andThen_result _ _).trans hresult)
      · exact .sent ((TrackOutcome.andThen_sent _ _).trans hsent)
    · intro unit hsent
      rw [TrackOutcome.andThen_sent] at hsent
      rw [TrackOutcome.andThen_track _ _ AudioRtpTrack.rtp (fun _ => silenceSent_rtp _ _)]
      exact send_timestamp hsent
  | report => exact .quiet rfl rfl rfl

end AudioRtpTrack

/-! ## The video track -/

namespace VideoRtpTrack

variable {ρ : Type*} {track : VideoRtpTrack ρ} {context : RtpTaskContext ρ}

theorem send_clock (accessUnit : Bytes) (singleNal batchWrites : Bool)
    (mediaTime : RtcpMediaTime) (source : UnitSource) (readAt : Nat) :
    (track.send accessUnit singleNal batchWrites mediaTime source readAt context).track.clock =
      track.clock := by
  rw [send]
  dsimp only
  split <;> rfl

theorem send_effect (track : VideoRtpTrack ρ) (accessUnit : Bytes) (singleNal batchWrites : Bool)
    (mediaTime : RtcpMediaTime) (source : UnitSource) (readAt : Nat) :
    SendEffect ⟨.video, source, track.rtp.timestamp, readAt⟩
      (track.send accessUnit singleNal batchWrites mediaTime source readAt context) := by
  rw [send]
  dsimp only
  split
  next reason herror => exact .failed reason rfl rfl
  next => exact .sent rfl

theorem syncState_clock (placeholders : PlaceholderVideo) (suppressPlaceholders : Bool) :
    (track.syncState placeholders suppressPlaceholders context).track.clock = track.clock := by
  rw [syncState]
  split
  next => rfl
  next =>
    dsimp only
    split
    next => rfl
    next =>
      split
      next => rfl
      next => rw [send_clock, setTimestamp_clock]

/-- A new state sends its placeholder, or nothing. -/
theorem syncState_effect (track : VideoRtpTrack ρ) (context : RtpTaskContext ρ)
    (placeholders : PlaceholderVideo) (suppressPlaceholders : Bool) :
    (track.syncState placeholders suppressPlaceholders context).sent = none ∨
    SendEffect
      ⟨.video, .placeholder, track.clock.timestamp (context.stream.now 0), context.stream.now 0⟩
      (track.syncState placeholders suppressPlaceholders context) := by
  rw [syncState]
  split
  next => exact .inl rfl
  next =>
    dsimp only
    split
    next => exact .inl rfl
    next =>
      split
      next => exact .inl rfl
      next =>
        right
        exact VideoRtpTrack.send_effect (setTimestamp _ _) _ _ _ _ _ _

/-- What an event sends and what it does to the timeline. -/
inductive Effect (track : VideoRtpTrack ρ) (event : VideoRtpEvent) (context : RtpTaskContext ρ)
    (timeline : RtpMediaTimeline)
    (outcome : TrackOutcome (VideoRtpTrack ρ) × RtpMediaTimeline) : Prop
  | quiet (hsent : outcome.1.sent = none) (htimeline : outcome.2 = timeline)
  | live (frame : VideoFrame) (hevent : event = .message (.ok (.frame frame)))
      (hsent : SendEffect
        ⟨.video, .live frame.session context.resyncEpoch frame.mediaTimestamp,
          (timeline.map context.resyncEpoch frame.mediaTimestamp track.clock
            (context.stream.now 1)).1,
          context.stream.now 1⟩ outcome.1)
      (htimeline : outcome.2 =
        (timeline.map context.resyncEpoch frame.mediaTimestamp track.clock
          (context.stream.now 1)).2)

theorem handleEvent_clock (event : VideoRtpEvent) (timeline : RtpMediaTimeline) :
    (track.handleEvent event context timeline).1.track.clock = track.clock := by
  cases event with
  | message received =>
    cases received with
    | error error => cases error <;> rfl
    | ok message =>
      cases message with
      | wake => rfl
      | frame frame =>
        rw [handleEvent]
        split
        next => rfl
        next =>
          split
          next => rfl
          next =>
            dsimp only
            split
            next => exact noteFrame_clock track frame.keyframe
            next =>
              dsimp only
              rw [send_clock, setTimestamp_clock, noteFrame_clock]
  | report => rfl

theorem handleEvent_effect (event : VideoRtpEvent) (context : RtpTaskContext ρ)
    (timeline : RtpMediaTimeline) :
    Effect track event context timeline (track.handleEvent event context timeline) := by
  cases event with
  | message received =>
    cases received with
    | error error =>
      cases error with
      | lagged skipped => exact .quiet rfl rfl
      | closed => exact .quiet rfl rfl
    | ok message =>
      cases message with
      | wake => exact .quiet rfl rfl
      | frame frame =>
        rw [handleEvent]
        split
        next => exact .quiet rfl rfl
        next =>
          split
          next => exact .quiet rfl rfl
          next =>
            dsimp only
            split
            next => exact .quiet rfl rfl
            next =>
              rw [noteFrame_clock]
              refine .live frame rfl ?_ rfl
              exact VideoRtpTrack.send_effect (setTimestamp _ _) _ _ _ _ _ _
  | report => exact .quiet rfl rfl

end VideoRtpTrack

/-! ## The task -/

/-- A frame that an event brings to a track. -/
structure DeliveredFrame where
  track : RtspTrack
  session : Nat
  mediaTimestamp : Nat

def TaskAction.frame : TaskAction → Option DeliveredFrame
  | .audio (.message (.ok (.frame session _ mediaTimestamp _))) =>
    some ⟨.audio, session, mediaTimestamp⟩
  | .video (.message (.ok (.frame frame))) => some ⟨.video, frame.session, frame.mediaTimestamp⟩
  | _ => none

namespace MediaTask

variable {ρ : Type*} {task : MediaTask ρ} {config : MediaTaskConfig} {action : TaskAction}
variable {stream : ChannelView ρ} {outcome : TaskOutcome ρ}

def clock (task : MediaTask ρ) : RtspTrack → Option RtpClock
  | .audio => task.audio.map AudioRtpTrack.clock
  | .video => task.video.map VideoRtpTrack.clock

/-- The timestamp that silence would be sent with. -/
def nextTimestamp (task : MediaTask ρ) : Option UInt32 :=
  task.audio.map (fun track => track.rtp.timestamp)

/-- The units that a step can send, each with the timeline after it. -/
inductive Sends (task : MediaTask ρ) (action : TaskAction) (stream : ChannelView ρ)
    (after : RtpMediaTimeline) : SentUnit → Prop
  | silence (timestamp : UInt32) (hnext : task.nextTimestamp = some timestamp)
      (hafter : after = task.timeline) :
    Sends task action stream after ⟨.audio, .silence, timestamp, stream.now 0⟩
  | placeholder (clock : RtpClock) (hclock : task.clock .video = some clock)
      (hafter : after = task.timeline) :
    Sends task action stream after
      ⟨.video, .placeholder, clock.timestamp (stream.now 0), stream.now 0⟩
  | live (frame : DeliveredFrame) (clock : RtpClock) (readAt : Nat)
      (hframe : action.frame = some frame) (hclock : task.clock frame.track = some clock)
      (hread : readAt = stream.now 0 ∨ readAt = stream.now 1)
      (hafter : after =
        (task.timeline.map task.resyncEpoch frame.mediaTimestamp clock readAt).2) :
    Sends task action stream after
      ⟨frame.track, .live frame.session task.resyncEpoch frame.mediaTimestamp,
        (task.timeline.map task.resyncEpoch frame.mediaTimestamp clock readAt).1, readAt⟩

/-- What a step does to RTP time. -/
inductive Effect (task : MediaTask ρ) (action : TaskAction) (stream : ChannelView ρ)
    (outcome : TaskOutcome ρ) : Prop
  | ended (hsent : outcome.sent = none) (hend : outcome.task.point = .ended)
  | quiet (hsent : outcome.sent = none) (hnext : outcome.task.nextTimestamp = task.nextTimestamp)
      (htimeline : outcome.task.timeline = task.timeline)
  | audio (unit : SentUnit) (htrack : unit.track = .audio) (hsent : outcome.sent = some unit)
      (hunit : Sends task action stream outcome.task.timeline unit)
      (hnext : outcome.task.nextTimestamp = some (following unit.timestamp))
  | video (unit : SentUnit) (htrack : unit.track = .video) (hsent : outcome.sent = some unit)
      (hunit : Sends task action stream outcome.task.timeline unit)
      (hnext : outcome.task.nextTimestamp = task.nextTimestamp)

theorem loadEpoch_effect (action : TaskAction) :
    Effect task action stream { task := task.loadEpoch stream } := by
  rw [loadEpoch]
  split
  next =>
    refine .quiet rfl ?_ rfl
    show (task.audio.map _).map _ = task.audio.map _
    rw [Option.map_map]
    rfl
  next => exact .quiet rfl rfl rfl

theorem dropBacklog_effect (action : TaskAction) :
    Effect task action stream { task := task.dropBacklog stream } := by
  refine .quiet rfl ?_ rfl
  show (task.audio.map _).map _ = task.audio.map _
  rw [Option.map_map]
  congr 1
  funext track
  show (track.dropBacklog stream).rtp.timestamp = track.rtp.timestamp
  rw [AudioRtpTrack.dropBacklog_rtp]

theorem loadStreamer_effect (action : TaskAction) :
    Effect task action stream { task := task.loadStreamer stream } := by
  rw [loadStreamer]
  split
  next => exact .ended rfl rfl
  next => exact .quiet rfl rfl rfl

theorem syncState_effect (action : TaskAction) :
    Effect task action stream (task.syncState config stream) := by
  rw [syncState]
  split
  next => exact .quiet rfl rfl rfl
  next track hvideo =>
    obtain hnone | ⟨reason, hsent, hresult⟩ | hsent :=
      track.syncState_effect (task.context config stream) config.placeholders
        config.suppressPlaceholders
    · exact .quiet hnone rfl rfl
    · refine .ended hsent ?_
      dsimp only
      rw [hresult]
    · refine .video _ rfl hsent (.placeholder track.clock ?_ rfl) rfl
      rw [clock, hvideo]
      rfl

theorem handleAudio_effect {track : AudioRtpTrack ρ} (haudio : task.audio = some track)
    (event : AudioRtpEvent) :
    Effect task (.audio event) stream (task.handleAudio track event config stream) := by
  have hclock : task.clock .audio = some track.clock := by
    rw [clock, haudio]
    rfl
  have hnext : task.nextTimestamp = some track.rtp.timestamp := by
    rw [nextTimestamp, haudio]
    rfl
  have hended : ∀ {unit : SentUnit}, SendEffect unit
      (track.handleEvent event (task.context config stream) task.timeline).1 →
      (task.handleAudio track event config stream).sent = some unit ∨
      Effect task (.audio event) stream (task.handleAudio track event config stream) := by
    rintro unit (⟨reason, hsent, hresult⟩ | hsent)
    · exact .inr (.ended hsent (congrArg pointAfter hresult))
    · exact .inl hsent
  obtain ⟨hsent, hleft, htimeline⟩ | ⟨heffect, hleft, htimeline⟩ |
    ⟨session, accessUnit, mediaTimestamp, publishedAt, rfl, heffect, hleft, htimeline⟩ :=
    track.handleEvent_effect event (task.context config stream) task.timeline
  · refine .quiet hsent ?_ htimeline
    rw [hnext]
    exact congrArg some hleft
  · obtain hsent | heffect := hended heffect
    · exact .audio _ rfl hsent (.silence _ hnext htimeline) (congrArg some (hleft _ hsent))
    · exact heffect
  · obtain hsent | heffect := hended heffect
    · exact .audio _ rfl hsent (.live ⟨.audio, session, mediaTimestamp⟩ track.clock _ rfl hclock
        (.inl rfl) htimeline) (congrArg some (hleft _ hsent))
    · exact heffect

theorem handleVideo_effect {track : VideoRtpTrack ρ} (hvideo : task.video = some track)
    (event : VideoRtpEvent) :
    Effect task (.video event) stream (task.handleVideo track event config stream) := by
  have hclock : task.clock .video = some track.clock := by
    rw [clock, hvideo]
    rfl
  obtain ⟨hsent, htimeline⟩ | ⟨frame, rfl, heffect, htimeline⟩ :=
    track.handleEvent_effect event (task.context config stream) task.timeline
  · exact .quiet hsent rfl htimeline
  · obtain ⟨reason, hsent, hresult⟩ | hsent := heffect
    · exact .ended hsent (congrArg pointAfter hresult)
    · exact .video _ rfl hsent (.live ⟨.video, frame.session, frame.mediaTimestamp⟩ track.clock _
        rfl hclock (.inr rfl) htimeline) rfl

/-- A step of the task, one constructor for each point of the loop. -/
inductive Performed (config : MediaTaskConfig) (task : MediaTask ρ) (stream : ChannelView ρ) :
    TaskAction → TaskOutcome ρ → Prop
  | epoch (hpoint : task.point = .epoch) :
      Performed config task stream .next { task := task.loadEpoch stream }
  | backlog (hpoint : task.point = .backlog) :
      Performed config task stream .next { task := task.dropBacklog stream }
  | state (hpoint : task.point = .state) :
      Performed config task stream .next (task.syncState config stream)
  | streamer (hpoint : task.point = .streamer) :
      Performed config task stream .next { task := task.loadStreamer stream }
  | audio (hpoint : task.point = .select) (track : AudioRtpTrack ρ) (event : AudioRtpEvent)
      (htrack : task.audio = some track) :
      Performed config task stream (.audio event) (task.handleAudio track event config stream)
  | video (hpoint : task.point = .select) (track : VideoRtpTrack ρ) (event : VideoRtpEvent)
      (htrack : task.video = some track) :
      Performed config task stream (.video event) (task.handleVideo track event config stream)

theorem performed_of_step {config : MediaTaskConfig} {task : MediaTask ρ}
    {stream : ChannelView ρ} {action : TaskAction} {outcome : TaskOutcome ρ}
    (h : task.step config action stream = some outcome) :
    Performed config task stream action outcome := by
  rw [step.eq_def] at h
  split at h
  next hpoint =>
    obtain rfl := Option.some.inj h
    exact .epoch hpoint
  next hpoint =>
    obtain rfl := Option.some.inj h
    exact .backlog hpoint
  next hpoint =>
    obtain rfl := Option.some.inj h
    exact .state hpoint
  next hpoint =>
    obtain rfl := Option.some.inj h
    exact .streamer hpoint
  next event hpoint =>
    split at h
    next track htrack =>
      split at h
      next =>
        obtain rfl := Option.some.inj h
        exact .audio hpoint track event htrack
      next => cases h
    next => cases h
  next event hpoint =>
    split at h
    next track htrack =>
      split at h
      next =>
        obtain rfl := Option.some.inj h
        exact .video hpoint track event htrack
      next => cases h
    next => cases h
  next => cases h

theorem effect_of_step (h : task.step config action stream = some outcome) :
    Effect task action stream outcome := by
  cases performed_of_step h with
  | epoch => exact loadEpoch_effect _
  | backlog => exact dropBacklog_effect _
  | state => exact syncState_effect _
  | streamer => exact loadStreamer_effect _
  | audio _ track event haudio => exact handleAudio_effect haudio event
  | video _ track event hvideo => exact handleVideo_effect hvideo event

theorem point_of_performed (h : Performed config task stream action outcome) :
    task.point ≠ .ended := by
  cases h with
  | epoch hpoint | backlog hpoint | state hpoint | streamer hpoint =>
    rw [hpoint]
    decide
  | audio hpoint | video hpoint =>
    rw [hpoint]
    decide

theorem clock_eq_of_map {task' : MediaTask ρ}
    (haudio : task'.audio.map AudioRtpTrack.clock = task.audio.map AudioRtpTrack.clock)
    (hvideo : task'.video.map VideoRtpTrack.clock = task.video.map VideoRtpTrack.clock) :
    task'.clock = task.clock := by
  funext track
  cases track with
  | audio => exact haudio
  | video => exact hvideo

/-- The clocks of the tracks stay the same. -/
theorem clock_of_step (h : task.step config action stream = some outcome) :
    outcome.task.clock = task.clock := by
  cases performed_of_step h with
  | epoch =>
    show (task.loadEpoch stream).clock = task.clock
    rw [loadEpoch]
    split
    next => exact clock_eq_of_map (Option.map_map _ _ _) (Option.map_map _ _ _)
    next => rfl
  | backlog =>
    refine clock_eq_of_map ?_ rfl
    show (task.audio.map _).map _ = _
    rw [Option.map_map]
    congr 1
    funext track
    exact track.dropBacklog_clock stream
  | state =>
    rw [syncState]
    split
    next => rfl
    next track hvideo =>
      refine clock_eq_of_map rfl ?_
      rw [hvideo]
      exact congrArg some (VideoRtpTrack.syncState_clock _ _)
  | streamer =>
    show (task.loadStreamer stream).clock = task.clock
    rw [loadStreamer]
    split <;> rfl
  | audio _ track event haudio =>
    refine clock_eq_of_map ?_ rfl
    rw [haudio]
    exact congrArg some (AudioRtpTrack.handleEvent_clock event task.timeline)
  | video _ track event hvideo =>
    refine clock_eq_of_map rfl ?_
    rw [hvideo]
    exact congrArg some (VideoRtpTrack.handleEvent_clock event task.timeline)

/-- The epoch of a task is the one that it loaded last. -/
theorem resyncEpoch_of_step (h : task.step config action stream = some outcome) :
    outcome.task.resyncEpoch = task.resyncEpoch ∨
      outcome.task.resyncEpoch = stream.resyncEpoch := by
  cases performed_of_step h with
  | epoch =>
    show (task.loadEpoch stream).resyncEpoch = _ ∨ (task.loadEpoch stream).resyncEpoch = _
    rw [loadEpoch]
    split
    next => exact .inr rfl
    next => exact .inl rfl
  | state =>
    rw [syncState]
    split <;> exact .inl rfl
  | streamer =>
    show (task.loadStreamer stream).resyncEpoch = _ ∨ _
    rw [loadStreamer]
    split <;> exact .inl rfl
  | backlog | audio | video => exact .inl rfl

end MediaTask

end VRCStreamer
