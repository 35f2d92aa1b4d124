import VRCStreamer.Listener.Effect
import VRCStreamer.Live.Effect

/-!
# What a task does to its receivers

The receivers and the keyframe flag after each statement of the loop, and the frames that
are mapped through the timeline.
-/

namespace VRCStreamer

open Codec Concurrency

section

variable {ρ : Type*} {context : RtpTaskContext ρ} (track : AudioRtpTrack ρ)

namespace AudioRtpTrack

@[simp] theorem send_rx (accessUnit : Bytes) (mediaTime : RtcpMediaTime) (source : UnitSource) :
    (track.send accessUnit mediaTime source context).track.rx = track.rx := by
  rw [send]
  dsimp only
  split <;> rfl

@[simp] theorem setTimestamp_rx (timestamp : UInt32) :
    (track.setTimestamp timestamp).rx = track.rx := rfl

theorem silenceSent_rx (now : Nat) : (track.silenceSent now).rx = track.rx := by
  rw [silenceSent]

/-- A track gets a new receiver when it has lost messages. -/
theorem handleEvent_rx (event : AudioRtpEvent) (context : RtpTaskContext ρ)
    (timeline : RtpMediaTimeline) :
    (track.handleEvent event context timeline).1.track.rx = track.rx ∨
      ((∃ skipped, event = .message (.error (.lagged skipped))) ∧
        (track.handleEvent event context timeline).1.track.rx = context.stream.audioRx) := by
  cases event with
  | message received =>
    cases received with
    | error error =>
      cases error with
      | lagged skipped => exact .inr ⟨⟨skipped, rfl⟩, rfl⟩
      | closed => exact .inl rfl
    | ok message =>
      left
      cases message with
      | wake => rfl
      | frame session accessUnit mediaTimestamp publishedAt =>
        rw [handleEvent]
        split
        next => rfl
        next =>
          dsimp only
          rw [send_rx, setTimestamp_rx]
  | silence =>
    left
    rw [handleEvent]
    dsimp only
    rw [TrackOutcome.andThen_track _ _ AudioRtpTrack.rx (fun _ => silenceSent_rx _ _), send_rx]
  | report => exact .inl rfl

end AudioRtpTrack

end

section

variable {ρ : Type*} {context : RtpTaskContext ρ} (track : VideoRtpTrack ρ)

namespace VideoRtpTrack

@[simp] theorem send_rx (accessUnit : Bytes) (singleNal batchWrites : Bool)
    (mediaTime : RtcpMediaTime) (source : UnitSource) (readAt : Nat) :
    (track.send accessUnit singleNal batchWrites mediaTime source readAt context).track.rx =
      track.rx := by
  rw [send]
  dsimp only
  split <;> rfl

@[simp] theorem send_seenKeyframe (accessUnit : Bytes) (singleNal batchWrites : Bool)
    (mediaTime : RtcpMediaTime) (source : UnitSource) (readAt : Nat) :
    (track.send accessUnit singleNal batchWrites mediaTime source readAt
      context).track.seenKeyframe = track.seenKeyframe := by
  rw [send]
  dsimp only
  split <;> rfl

@[simp] theorem setTimestamp_rx (timestamp : UInt32) :
    (track.setTimestamp timestamp).rx = track.rx := rfl

@[simp] theorem setTimestamp_seenKeyframe (timestamp : UInt32) :
    (track.setTimestamp timestamp).seenKeyframe = track.seenKeyframe := rfl

@[simp] theorem noteFrame_rx (keyframe : Bool) : (track.noteFrame keyframe).rx = track.rx := by
  simp only [noteFrame]
  split <;> split <;> rfl

/-- Without a keyframe, the flag is never set. -/
theorem seenKeyframe_of_noteFrame (h : (track.noteFrame false).seenKeyframe = true) :
    track.seenKeyframe = true := by
  simp only [noteFrame, Bool.false_eq_true, if_false] at h
  split at h
  next => cases h
  next => exact h

theorem syncState_rx (placeholders : PlaceholderVideo) (suppressPlaceholders : Bool) :
    (track.syncState placeholders suppressPlaceholders context).track.rx = track.rx := by
  rw [syncState]
  split
  next => rfl
  next =>
    dsimp only
    split
    next => rfl
    next =>
      split
      next => rfl
      next => rw [send_rx, setTimestamp_rx]

theorem seenKeyframe_of_syncState (placeholders : PlaceholderVideo) (suppressPlaceholders : Bool)
    (h : (track.syncState placeholders suppressPlaceholders context).track.seenKeyframe = true) :
    track.seenKeyframe = true := by
  rw [syncState] at h
  split at h
  next => exact h
  next =>
    dsimp only at h
    split at h
    next => cases h
    next =>
      split at h
      next => cases h
      next =>
        rw [send_seenKeyframe, setTimestamp_seenKeyframe] at h
        cases h

/-- What an event does to the receiver and to the keyframe flag. -/
inductive Watched (track : VideoRtpTrack ρ) (context : RtpTaskContext ρ) :
    VideoRtpEvent → TrackOutcome (VideoRtpTrack ρ) → Prop
  | same {event outcome} (hevent : event = .report ∨ ∃ frame,
        event = .message (.ok (.frame frame)) ∧ context.stream.channelVideoState ≠ .video)
      (htrack : outcome.track.rx = track.rx ∧ outcome.track.seenKeyframe = track.seenKeyframe)
      (hsent : outcome.sent = none) : Watched track context event outcome
  | cleared {event outcome} (hevent : ∃ received, event = .message received)
      (hrx : outcome.track.rx = track.rx)
      (hseen : outcome.track.seenKeyframe = false) (hsent : outcome.sent = none) :
      Watched track context event outcome
  | renewed {event outcome} (hevent : (∃ skipped, event = .message (.error (.lagged skipped))) ∨
        ∃ frame, event = .message (.ok (.frame frame)))
      (hrx : outcome.track.rx = context.stream.videoRx)
      (hseen : outcome.track.seenKeyframe = false) (hsent : outcome.sent = none) :
      Watched track context event outcome
  | sent {frame outcome} (hstate : context.stream.channelVideoState = .video)
      (hfresh : ¬ (0 < context.stream.queued ∧
        MAX_VIDEO_BACKLOG_AGE < context.stream.now 0 - frame.publishedAt))
      (hseen : (track.noteFrame frame.keyframe).seenKeyframe = true)
      (hrx : outcome.track.rx = track.rx)
      (hsent : outcome.sent.isSome ∨
        (outcome.sent = none ∧ ∃ reason, outcome.result = .error reason)) :
      Watched track context (.message (.ok (.frame frame))) outcome
  | ended {event outcome} (hsent : outcome.sent = none) (hresult : outcome.result = .ok false) :
      Watched track context event outcome

theorem isSome_sent_of_send (accessUnit : Bytes) (singleNal batchWrites : Bool)
    (mediaTime : RtcpMediaTime) (source : UnitSource) (readAt : Nat) :
    let outcome := track.send accessUnit singleNal batchWrites mediaTime source readAt context
    outcome.sent.isSome ∨ (outcome.sent = none ∧ ∃ reason, outcome.result = .error reason) := by
  dsimp only
  rw [send]
  dsimp only
  split
  next reason _ => exact .inr ⟨rfl, reason, rfl⟩
  next => exact .inl rfl

theorem handleEvent_watched (event : VideoRtpEvent) (context : RtpTaskContext ρ)
    (timeline : RtpMediaTimeline) :
    Watched track context event (track.handleEvent event context timeline).1 := by
  cases event with
  | message received =>
    cases received with
    | error error =>
      cases error with
      | lagged skipped => exact .renewed (.inl ⟨skipped, rfl⟩) rfl rfl rfl
      | closed => exact .ended rfl rfl
    | ok message =>
      cases message with
      | wake => exact .cleared ⟨_, rfl⟩ rfl rfl rfl
      | frame frame =>
        rw [handleEvent]
        split
        next hstate => exact .same (.inr ⟨frame, rfl, hstate⟩) ⟨rfl, rfl⟩ rfl
        next hstate =>
          split
          next => exact .renewed (.inr ⟨frame, rfl⟩) rfl rfl rfl
          next hfresh =>
            dsimp only
            split
            next hunseen => exact .cleared ⟨_, rfl⟩ (track.noteFrame_rx _) hunseen rfl
            next hseen =>
              refine .sent (not_not.mp hstate) hfresh (by simpa using hseen) ?_ ?_
              · rw [send_rx, setTimestamp_rx, noteFrame_rx]
              · exact isSome_sent_of_send _ _ _ _ _ _ _
  | report => exact .same (.inl rfl) ⟨rfl, rfl⟩ rfl

end VideoRtpTrack

end

/-! ## Frames that are mapped -/

/-- An audio frame is mapped while a publisher holds the channel. -/
theorem AudioRtpTrack.handleEvent_timeline (track : AudioRtpTrack Nat) (event : AudioRtpEvent)
    (context : RtpTaskContext Nat) (timeline : RtpMediaTimeline) :
    ((track.handleEvent event context timeline).2 = timeline ∧
      ∀ session accessUnit mediaTimestamp publishedAt,
        event = .message (.ok (.frame session accessUnit mediaTimestamp publishedAt)) →
          context.stream.streamer = false) ∨
    ∃ session accessUnit mediaTimestamp publishedAt,
      event = .message (.ok (.frame session accessUnit mediaTimestamp publishedAt)) ∧
      context.stream.streamer = true ∧
      (track.handleEvent event context timeline).2.epoch = context.resyncEpoch ∧
      (track.handleEvent event context timeline).2.anchor.isSome := by
  cases event with
  | message received =>
    cases received with
    | error error =>
      left
      cases error <;> exact ⟨rfl, fun _ _ _ _ hevent => by cases hevent⟩
    | ok message =>
      cases message with
      | wake => exact .inl ⟨rfl, fun _ _ _ _ hevent => by cases hevent⟩
      | frame session accessUnit mediaTimestamp publishedAt =>
        cases hstreamer : context.stream.streamer with
        | false =>
          left
          rw [handleEvent, if_pos hstreamer]
          exact ⟨rfl, fun _ _ _ _ _ => rfl⟩
        | true =>
          right
          refine ⟨session, accessUnit, mediaTimestamp, publishedAt, rfl, rfl, ?_⟩
          rw [handleEvent, if_neg (by simp [hstreamer])]
          exact ⟨rfl, rfl⟩
  | silence => exact .inl ⟨rfl, fun _ _ _ _ hevent => by cases hevent⟩
  | report => exact .inl ⟨rfl, fun _ _ _ _ hevent => by cases hevent⟩

/-- A frame of video that gets to the timeline. -/
def VideoRtpTrack.Maps (track : VideoRtpTrack Nat) (frame : VideoFrame) (view : ChannelView Nat) :
    Prop :=
  view.channelVideoState = .video ∧ MediaTask.expired frame view = false ∧
    (track.noteFrame frame.keyframe).seenKeyframe = true

theorem VideoRtpTrack.handleEvent_timeline (track : VideoRtpTrack Nat) (event : VideoRtpEvent)
    (context : RtpTaskContext Nat) (timeline : RtpMediaTimeline) :
    ((track.handleEvent event context timeline).2 = timeline ∧
      ∀ frame, event = .message (.ok (.frame frame)) → ¬ track.Maps frame context.stream) ∨
    ∃ frame, event = .message (.ok (.frame frame)) ∧ track.Maps frame context.stream ∧
      (track.handleEvent event context timeline).2.epoch = context.resyncEpoch ∧
      (track.handleEvent event context timeline).2.anchor.isSome := by
  cases event with
  | message received =>
    cases received with
    | error error =>
      left
      cases error <;> exact ⟨rfl, fun _ hevent => by cases hevent⟩
    | ok message =>
      cases message with
      | wake => exact .inl ⟨rfl, fun _ hevent => by cases hevent⟩
      | frame frame =>
        rw [handleEvent]
        split
        next hstate =>
          refine .inl ⟨rfl, ?_⟩
          rintro _ ⟨⟩ hmaps
          exact hstate hmaps.1
        next hstate =>
          split
          next hexpired =>
            refine .inl ⟨rfl, ?_⟩
            rintro _ ⟨⟩ hmaps
            have hfresh := hmaps.2.1
            rw [MediaTask.expired, ← Bool.decide_and, decide_eq_false_iff_not] at hfresh
            exact hfresh hexpired
          next hfresh =>
            dsimp only
            split
            next hunseen =>
              refine .inl ⟨rfl, ?_⟩
              rintro _ ⟨⟩ hmaps
              have hseen := hmaps.2.2
              rw [hunseen] at hseen
              cases hseen
            next hseen =>
              refine .inr ⟨frame, rfl, ⟨not_not.mp hstate, ?_, by simpa using hseen⟩, rfl, rfl⟩
              rw [MediaTask.expired, ← Bool.decide_and, decide_eq_false_iff_not]
              exact hfresh
  | report => exact .inl ⟨rfl, fun _ hevent => by cases hevent⟩

namespace MediaTask

variable {config : MediaTaskConfig} {task : MediaTask Nat} {view : ChannelView Nat}
variable {action : TaskAction} {outcome : TaskOutcome Nat}

theorem maps_audio (event : AudioRtpEvent) (hoff : ∀ session accessUnit mediaTimestamp publishedAt,
    event = .message (.ok (.frame session accessUnit mediaTimestamp publishedAt)) →
      view.streamer = false) : task.maps view (.audio event) = none := by
  rw [maps.eq_def]
  split
  next session _ _ _ hevent =>
    cases hevent
    exact if_neg (by rw [hoff _ _ _ _ rfl]; decide)
  next hevent => cases hevent
  next => rfl

theorem maps_video {track : VideoRtpTrack Nat} (htrack : task.video = some track)
    (frame : VideoFrame) : task.maps view (.video (.message (.ok (.frame frame)))) =
      if view.channelVideoState = .video ∧ expired frame view = false ∧
        (track.noteFrame frame.keyframe).seenKeyframe then some frame.session else none := by
  show task.video.bind _ = _
  rw [htrack]
  rfl

theorem maps_video_none {track : VideoRtpTrack Nat} (htrack : task.video = some track)
    (event : VideoRtpEvent) (hnot : ∀ frame, event = .message (.ok (.frame frame)) →
      ¬ track.Maps frame view) : task.maps view (.video event) = none := by
  rw [maps.eq_def]
  split
  next hevent => cases hevent
  next frame hevent =>
    cases hevent
    exact (maps_video htrack frame).trans (if_neg (hnot frame rfl))
  next => rfl

/-- A step that maps a frame leaves an anchor of its epoch, and no other step changes the
timeline. -/
theorem timeline_of_performed (h : task.Performed config view action outcome) :
    (task.maps view action = none ∧ outcome.task.timeline = task.timeline) ∨
    (∃ session, task.maps view action = some session ∧
      (∃ frame, action.frame = some frame ∧ frame.session = session) ∧
      outcome.task.timeline.epoch = task.resyncEpoch ∧ outcome.task.timeline.anchor.isSome) := by
  cases h with
  | epoch =>
    left
    refine ⟨rfl, ?_⟩
    dsimp only
    rw [loadEpoch]
    split <;> rfl
  | backlog => exact .inl ⟨rfl, rfl⟩
  | state =>
    left
    refine ⟨rfl, ?_⟩
    rw [syncState]
    split <;> rfl
  | streamer =>
    left
    refine ⟨rfl, ?_⟩
    dsimp only
    rw [loadStreamer]
    split <;> rfl
  | audio hpoint track event htrack =>
    obtain ⟨htimeline, hoff⟩ | ⟨session, accessUnit, mediaTimestamp, publishedAt, rfl, hon, hepoch,
      hanchor⟩ := track.handleEvent_timeline event (task.context config view) task.timeline
    · exact .inl ⟨maps_audio event hoff, htimeline⟩
    · exact .inr ⟨session, if_pos hon, ⟨_, rfl, rfl⟩, hepoch, hanchor⟩
  | video hpoint track event htrack =>
    obtain ⟨htimeline, hnot⟩ | ⟨frame, rfl, hmaps, hepoch, hanchor⟩ :=
      track.handleEvent_timeline event (task.context config view) task.timeline
    · exact .inl ⟨maps_video_none htrack event hnot, htimeline⟩
    · refine .inr ⟨frame.session, ?_, ⟨_, rfl, rfl⟩, hepoch, hanchor⟩
      exact (maps_video htrack frame).trans (if_pos hmaps)

end MediaTask

/-! ## Receivers -/

def MediaTask.rx (task : MediaTask Nat) : RtspTrack → Option Nat
  | .audio => task.audio.map AudioRtpTrack.rx
  | .video => task.video.map VideoRtpTrack.rx

def ChannelView.rx (view : ChannelView Nat) : RtspTrack → Nat
  | .audio => view.audioRx
  | .video => view.videoRx

/-- The load that a new receiver of a track comes from. -/
def RtspTrack.load : RtspTrack → Load
  | .audio => .audioRx
  | .video => .videoRx

namespace MediaTask

variable {config : MediaTaskConfig} {task : MediaTask Nat} {view : ChannelView Nat}
variable {action : TaskAction} {outcome : TaskOutcome Nat} {track : RtspTrack} {rx : Nat}

theorem rx_audio {audio : AudioRtpTrack Nat} (h : task.audio = some audio) :
    task.rx .audio = some audio.rx := by
  rw [MediaTask.rx, h]
  rfl

theorem rx_video {video : VideoRtpTrack Nat} (h : task.video = some video) :
    task.rx .video = some video.rx := by
  rw [MediaTask.rx, h]
  rfl

theorem rx_loadEpoch_of_ne (hne : view.resyncEpoch ≠ task.resyncEpoch)
    (h : (task.loadEpoch view).rx track = some rx) : rx = view.rx track := by
  rw [loadEpoch, if_pos hne] at h
  cases track with
  | audio =>
    obtain ⟨new, hnew, rfl⟩ := Option.map_eq_some_iff.mp h
    obtain ⟨old, -, rfl⟩ := Option.map_eq_some_iff.mp hnew
    rfl
  | video =>
    obtain ⟨new, hnew, rfl⟩ := Option.map_eq_some_iff.mp h
    obtain ⟨old, -, rfl⟩ := Option.map_eq_some_iff.mp hnew
    rfl

theorem loadEpoch_of_eq (heq : view.resyncEpoch = task.resyncEpoch) :
    task.loadEpoch view = { task with point := .backlog } := by
  rw [loadEpoch, if_neg (not_not_intro heq)]

theorem rx_dropBacklog (h : (task.dropBacklog view).rx track = some rx) :
    task.rx track = some rx ∨
      (track = .audio ∧ MAX_AUDIO_BACKLOG_FRAMES < view.queued ∧ rx = view.audioRx) := by
  cases track with
  | audio =>
    obtain ⟨new, hnew, rfl⟩ := Option.map_eq_some_iff.mp h
    obtain ⟨old, hold, rfl⟩ := Option.map_eq_some_iff.mp hnew
    rw [AudioRtpTrack.dropBacklog]
    split
    next => exact .inl (Option.map_eq_some_iff.mpr ⟨old, hold, rfl⟩)
    next hqueued => exact .inr ⟨rfl, Nat.lt_of_not_le hqueued, rfl⟩
  | video => exact .inl h

theorem rx_syncState (h : (task.syncState config view).task.rx track = some rx) :
    task.rx track = some rx := by
  rw [syncState] at h
  split at h
  next => exact h
  next video hvideo =>
    cases track with
    | audio => exact h
    | video =>
      have hnew : some (video.syncState config.placeholders config.suppressPlaceholders
          (task.context config view)).track.rx = some rx := h
      rw [video.syncState_rx] at hnew
      rw [rx_video hvideo]
      exact hnew

theorem rx_loadStreamer (h : (task.loadStreamer view).rx track = some rx) :
    task.rx track = some rx := by
  rw [loadStreamer] at h
  split at h <;> exact h

theorem rx_handleAudio {audio : AudioRtpTrack Nat} (haudio : task.audio = some audio)
    {event : AudioRtpEvent}
    (h : (task.handleAudio audio event config view).task.rx track = some rx) :
    task.rx track = some rx ∨
      (track.load ∈ (TaskAction.audio event).loads .select ∧ rx = view.rx track) := by
  cases track with
  | audio =>
    have hnew : some (audio.handleEvent event (task.context config view)
        task.timeline).1.track.rx = some rx := h
    obtain hsame | ⟨⟨skipped, rfl⟩, hview⟩ :=
      audio.handleEvent_rx event (task.context config view) task.timeline
    · rw [hsame] at hnew
      exact .inl ((rx_audio haudio).trans hnew)
    · exact .inr ⟨List.mem_singleton.mpr rfl, (Option.some.inj hnew).symm.trans hview⟩
  | video => exact .inl h

theorem rx_handleVideo {video : VideoRtpTrack Nat} (hvideo : task.video = some video)
    {event : VideoRtpEvent} (hrunning :
      (task.handleVideo video event config view).task.point ≠ .ended)
    (h : (task.handleVideo video event config view).task.rx track = some rx) :
    task.rx track = some rx ∨
      (track.load ∈ (TaskAction.video event).loads .select ∧ rx = view.rx track) := by
  cases track with
  | audio => exact .inl h
  | video =>
    have hnew :
        (video.handleEvent event (task.context config view) task.timeline).1.track.rx = rx :=
      Option.some.inj h
    have hold := rx_video hvideo
    subst hnew
    cases video.handleEvent_watched event (task.context config view) task.timeline with
    | same _ htrack _ => exact .inl (htrack.1 ▸ hold)
    | cleared _ hrx _ _ => exact .inl (hrx ▸ hold)
    | sent _ _ _ hrx _ => exact .inl (hrx ▸ hold)
    | renewed hevent hrx _ _ =>
      refine .inr ⟨?_, hrx⟩
      obtain ⟨skipped, rfl⟩ | ⟨frame, rfl⟩ := hevent <;> simp [RtspTrack.load, TaskAction.loads]
    | ended _ hresult =>
      refine absurd ?_ hrunning
      show pointAfter _ = _
      rw [hresult]
      rfl

/-- What is loaded into a view stays there. -/
theorem rx_look (channel : LiveChannel) (load : Load) (hne : load ≠ track.load) :
    (channel.look task view load).rx track = view.rx track := by
  cases track <;> cases load <;> first | rfl | exact absurd rfl hne

theorem rx_look_self (channel : LiveChannel) :
    (channel.look task view track.load).rx track = (channel.log track).length := by
  cases track with
  | audio => exact channel.audioTx_subscribe
  | video => exact channel.videoTx_subscribe

end MediaTask

/-! ## The pieces of a step -/

section

variable {channel : LiveChannel} {play : Playing} {config : MediaTaskConfig}
variable {action : TaskAction} {task : MediaTask Nat} {outcome : TaskOutcome Nat}
variable {load : Load} {loads : List Load}

/-- The task as a step begins. -/
def Playing.begun (play : Playing) (action : TaskAction) (task : MediaTask Nat) (now : Nat → Nat)
    (ntp : UInt32 × UInt32) : Playing :=
  { play with
    task
    view := { play.view with now, ntp }
    pending := some (action, action.loads task.point) }

/-- The task behind one of its loads. -/
def Playing.looked (play : Playing) (channel : LiveChannel) (action : TaskAction) (load : Load)
    (loads : List Load) : Playing :=
  { play with
    view := channel.look play.task play.view load
    pending := some (action, loads) }

/-- A step that begins has loaded nothing. -/
theorem not_loaded_begun (now : Nat → Nat) (ntp : UInt32 × UInt32) :
    ¬ (play.begun action task now ntp).Loaded load := by
  rintro ⟨begun, loads, hpending, hmem, habsent⟩
  cases hpending
  exact habsent hmem

theorem Playing.Loaded.mem {other : Load} (h : play.Loaded other)
    (hpending : play.pending = some (action, loads)) :
    other ∈ action.loads play.task.point ∧ other ∉ loads := by
  obtain ⟨begun, rest, hrest, hmem, habsent⟩ := h
  rw [hpending] at hrest
  cases hrest
  exact ⟨hmem, habsent⟩

theorem loaded_of_load {view : ChannelView Nat}
    (hpending : play.pending = some (action, load :: loads)) {other : Load}
    (h : ({ play with view, pending := some (action, loads) } : Playing).Loaded other) :
    other = load ∨ play.Loaded other := by
  obtain ⟨begun, rest, hrest, hmem, hnot⟩ := h
  cases hrest
  obtain rfl | hne := eq_or_ne other load
  · exact .inl rfl
  · refine .inr ⟨action, load :: loads, hpending, hmem, ?_⟩
    intro hcons
    obtain heq | htail := List.mem_cons.mp hcons
    · exact hne heq
    · exact hnot htail

theorem Playing.Loaded.after {view : ChannelView Nat} {other : Load}
    (h : play.Loaded other) (hpending : play.pending = some (action, load :: loads)) :
    ({ play with view, pending := some (action, loads) } : Playing).Loaded other := by
  obtain ⟨hmem, hnot⟩ := h.mem hpending
  exact ⟨action, loads, rfl, hmem, fun htail => hnot (List.mem_cons_of_mem _ htail)⟩

/-- A receiver goes on, and a frame that it brings is the one after it. -/
theorem rx_of_received (h : play.task.Received channel action task) {track : RtspTrack} {rx : Nat}
    (hrx : task.rx track = some rx) : ∃ old, play.task.rx track = some old ∧ old ≤ rx ∧
      (rx = old ∨ rx ≤ (channel.log track).length) := by
  cases h with
  | @audio hpoint audio next message haudio hrecv =>
    cases track with
    | audio =>
      obtain ⟨new, hnew, rfl⟩ := Option.map_eq_some_iff.mp hrx
      obtain ⟨old, hold, rfl⟩ := Option.map_eq_some_iff.mp hnew
      obtain rfl := Option.some.inj (hold.symm.trans haudio)
      refine ⟨old.rx, MediaTask.rx_audio haudio, Broadcast.le_of_recv hrecv, .inr ?_⟩
      exact (Broadcast.recv_le hrecv).trans_eq channel.audioTx_subscribe
    | video => exact ⟨rx, hrx, le_rfl, .inl rfl⟩
  | @video hpoint video next message hvideo hrecv =>
    cases track with
    | audio => exact ⟨rx, hrx, le_rfl, .inl rfl⟩
    | video =>
      obtain ⟨new, hnew, rfl⟩ := Option.map_eq_some_iff.mp hrx
      obtain ⟨old, hold, rfl⟩ := Option.map_eq_some_iff.mp hnew
      obtain rfl := Option.some.inj (hold.symm.trans hvideo)
      refine ⟨old.rx, MediaTask.rx_video hvideo, Broadcast.le_of_recv hrecv, .inr ?_⟩
      exact (Broadcast.recv_le hrecv).trans_eq channel.videoTx_subscribe
  | _ => exact ⟨rx, hrx, le_rfl, .inl rfl⟩

/-- The frame of a received message lies at the old receiver. -/
theorem frame_of_received (h : play.task.Received channel action task) {frame : DeliveredFrame}
    (hframe : action.frame = some frame) : play.task.point = .select ∧ ∃ rx,
      play.task.rx frame.track = some rx ∧
      (channel.log frame.track)[rx]? = some (some frame.session) := by
  cases h with
  | @audio hpoint audio next message haudio hrecv =>
    cases message with
    | error skipped => cases hframe
    | ok message =>
      obtain ⟨hsent, -⟩ := Broadcast.recv_ok hrecv
      cases message with
      | wake => cases hframe
      | frame session accessUnit mediaTimestamp publishedAt =>
        cases hframe
        refine ⟨hpoint, audio.rx, MediaTask.rx_audio haudio, ?_⟩
        show (channel.audioTx.sent.map _)[audio.rx]? = _
        rw [List.getElem?_map, hsent]
        rfl
  | @video hpoint video next message hvideo hrecv =>
    cases message with
    | error skipped => cases hframe
    | ok message =>
      obtain ⟨hsent, -⟩ := Broadcast.recv_ok hrecv
      cases message with
      | wake => cases hframe
      | frame published =>
        cases hframe
        refine ⟨hpoint, video.rx, MediaTask.rx_video hvideo, ?_⟩
        show (channel.videoTx.sent.map _)[video.rx]? = _
        rw [List.getElem?_map, hsent]
        rfl
  | _ => cases hframe

theorem same_of_received (h : play.task.Received channel action task) :
    task.point = play.task.point ∧ task.timeline = play.task.timeline ∧
      task.resyncEpoch = play.task.resyncEpoch := by
  cases h <;> exact ⟨rfl, rfl, rfl⟩

/-- A step that begins at the events of the loop is at its `select!`. -/
theorem point_of_received (h : play.task.Received channel action task) :
    play.task.point = .select ∨ (task = play.task ∧ action = .next) := by
  cases h with
  | next => exact .inr ⟨rfl, rfl⟩
  | audio hpoint => exact .inl hpoint
  | video hpoint => exact .inl hpoint
  | silence hpoint => exact .inl hpoint
  | audioReport hpoint => exact .inl hpoint
  | videoReport hpoint => exact .inl hpoint

theorem pointAfter_of_ne {result : Except String Bool}
    (h : MediaTask.pointAfter result ≠ .ended) : MediaTask.pointAfter result = .epoch := by
  rw [MediaTask.pointAfter.eq_def] at h ⊢
  split at h
  next => rfl
  next => exact absurd rfl h
  next => exact absurd rfl h

/-- A receiver after a step is that of before, or one that the step has loaded. -/
theorem MediaTask.rx_of_performed (h : play.task.Performed config play.view action outcome)
    (hrunning : outcome.task.point ≠ .ended) {track : RtspTrack} {rx : Nat}
    (hrx : outcome.task.rx track = some rx) : play.task.rx track = some rx ∨
      (track.load ∈ action.loads play.task.point ∧ rx = play.view.rx track) := by
  cases h with
  | epoch hpoint =>
    by_cases hsame : play.view.resyncEpoch = play.task.resyncEpoch
    · rw [MediaTask.loadEpoch_of_eq hsame] at hrx
      exact .inl hrx
    · refine .inr ⟨?_, MediaTask.rx_loadEpoch_of_ne hsame hrx⟩
      rw [hpoint]
      cases track <;> decide
  | backlog hpoint =>
    obtain hold | ⟨rfl, -, hnew⟩ := MediaTask.rx_dropBacklog hrx
    · exact .inl hold
    · refine .inr ⟨?_, hnew⟩
      rw [hpoint]
      decide
  | state => exact .inl (MediaTask.rx_syncState hrx)
  | streamer => exact .inl (MediaTask.rx_loadStreamer hrx)
  | audio hpoint audio event haudio =>
    rw [hpoint]
    exact MediaTask.rx_handleAudio haudio hrx
  | video hpoint video event hvideo =>
    rw [hpoint]
    exact MediaTask.rx_handleVideo hvideo hrunning hrx

end

/-! ## Before and while a task plays -/

/-- The receivers that PLAY has handed to the task. -/
def Listener.rx : Listener → RtspTrack → Option Nat
  | .granted audio _, .audio => audio.map TrackStart.rx
  | .granted _ video, .video => video.map TrackStart.rx
  | _, _ => none

/-- The receivers of a listener without a task are within the channel, and a task has `P`. -/
inductive Listener.Within (channel : LiveChannel) (P : Playing → Prop) : Listener → Prop
  | absent : Within channel P .absent
  | subscribed {audioRx : Nat} (hrx : audioRx ≤ (channel.log .audio).length) :
      Within channel P (.subscribed audioRx)
  | granted {audio video : Option (TrackStart Nat)}
      (hrx : ∀ track rx, Listener.rx (.granted audio video) track = some rx →
        rx ≤ (channel.log track).length) :
      Within channel P (.granted audio video)
  | playing {play : Playing} (hplay : P play) : Within channel P (.playing play)

/-- A new task has the receivers that it was handed. -/
theorem rx_new {audio video : Option (TrackStart Nat)} {playStartedAt epoch : Nat}
    {now : Nat → Nat} {track : RtspTrack} {rx : Nat}
    (h : (MediaTask.new audio video playStartedAt epoch now).rx track = some rx) :
    (Listener.granted audio video).rx track = some rx := by
  cases track with
  | audio =>
    obtain ⟨new, hnew, rfl⟩ := Option.map_eq_some_iff.mp h
    obtain ⟨start, hstart, rfl⟩ := Option.map_eq_some_iff.mp hnew
    exact Option.map_eq_some_iff.mpr ⟨start, hstart, rfl⟩
  | video =>
    obtain ⟨new, hnew, rfl⟩ := Option.map_eq_some_iff.mp h
    obtain ⟨start, hstart, rfl⟩ := Option.map_eq_some_iff.mp hnew
    exact Option.map_eq_some_iff.mpr ⟨start, hstart, rfl⟩

namespace Listener.Within

variable {channel channel' : LiveChannel} {P P' : Playing → Prop} {config : MediaTaskConfig}
variable {listener listener' : Listener} {action : ListenerAction}

theorem mono (h : listener.Within channel P)
    (hlength : ∀ track, (channel.log track).length ≤ (channel'.log track).length)
    (hplay : ∀ play, P play → P' play) : listener.Within channel' P' := by
  cases h with
  | absent => exact .absent
  | subscribed hrx => exact .subscribed (hrx.trans (hlength .audio))
  | granted hrx =>
    refine .granted ?_
    intro track rx hgranted
    exact (hrx track rx hgranted).trans (hlength track)
  | playing h => exact .playing (hplay _ h)

/-- A step of the listener, given that the first step of a task gives `P` and that all others
keep it. -/
theorem step (h : listener.Within channel P)
    (heffect : ListenerEffect config channel listener action listener')
    (hstart : ∀ audio video playStartedAt now ntp, action = .start playStartedAt now ntp →
      listener = .granted audio video →
      (∀ track rx, (Listener.granted audio video).rx track = some rx →
        rx ≤ (channel.log track).length) →
      P { task := .new audio video playStartedAt channel.resyncEpoch now
          view := ⟨channel.resyncEpoch, false, false, 0, 0, 0, now, ntp⟩ })
    (hnext : ∀ play play', listener = .playing play → P play →
      PlayingEffect config channel play action play' → P play') :
    listener'.Within channel P := by
  cases heffect with
  | subscribe => exact .subscribed channel.audioTx_subscribe.le
  | play audio video =>
    cases h with
    | subscribed hrx =>
      refine .granted ?_
      intro track rx hgranted
      cases track with
      | audio =>
        obtain ⟨start, hstart, rfl⟩ := Option.map_eq_some_iff.mp hgranted
        obtain ⟨-, -, rfl⟩ := Option.map_eq_some_iff.mp hstart
        exact hrx
      | video =>
        obtain ⟨start, hstart, rfl⟩ := Option.map_eq_some_iff.mp hgranted
        obtain ⟨-, -, rfl⟩ := Option.map_eq_some_iff.mp hstart
        exact channel.videoTx_subscribe.le
  | start playStartedAt now ntp =>
    cases h with
    | granted hrx => exact .playing (hstart _ _ playStartedAt now ntp rfl rfl hrx)
  | playing heffect =>
    cases h with
    | playing hplay => exact .playing (hnext _ _ rfl hplay heffect)

end Listener.Within

end VRCStreamer
