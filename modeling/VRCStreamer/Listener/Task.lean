import VRCStreamer.Concurrency.Transition
import VRCStreamer.Listener.Audio
import VRCStreamer.Listener.Video

/-!
# The media task of a listener

The loop of `rtsp_media_rtp_task`. A round goes through the points of `LoopPoint` in their
order; between two of them the publisher and other tasks may do anything, so each step gets
a view of its own. A run keeps what was written and the access units that were sent.
-/

namespace VRCStreamer

open Codec Concurrency

/-- The next statement of the loop: load the epoch, drop an audio backlog, look at the state
of the video, load the streamer flag, or wait for an event. -/
inductive LoopPoint
  | epoch
  | backlog
  | state
  | streamer
  | select
  | ended
  deriving DecidableEq

structure MediaTask (ρ : Type*) where
  point : LoopPoint
  audio : Option (AudioRtpTrack ρ)
  video : Option (VideoRtpTrack ρ)
  timeline : RtpMediaTimeline
  resyncEpoch : Nat
  streamerActive : Bool

/-- What stays the same in a task. -/
structure MediaTaskConfig where
  placeholders : PlaceholderVideo
  suppressPlaceholders : Bool
  key : Bytes

structure TaskOutcome (ρ : Type*) where
  task : MediaTask ρ
  written : List Bytes := []
  sent : Option SentUnit := none

inductive TaskAction
  | next
  | audio (event : AudioRtpEvent)
  | video (event : VideoRtpEvent)

/-- A track as PLAY hands it to the task. -/
structure TrackStart (ρ : Type*) where
  rx : ρ
  channel : UInt8
  rtp : RtpState

namespace MediaTask

variable {ρ : Type*}

def new (audio video : Option (TrackStart ρ)) (playStartedAt resyncEpoch : Nat)
    (now : Nat → Nat) : MediaTask ρ where
  point := .epoch
  audio := audio.map (fun start => .new start.rx start.channel start.rtp playStartedAt now)
  video := video.map (fun start => .new start.rx start.channel start.rtp playStartedAt now)
  timeline := {}
  resyncEpoch
  streamerActive := false

def context (task : MediaTask ρ) (config : MediaTaskConfig) (stream : ChannelView ρ) :
    RtpTaskContext ρ :=
  ⟨stream, task.resyncEpoch, config.key⟩

def loadEpoch (task : MediaTask ρ) (stream : ChannelView ρ) : MediaTask ρ :=
  if stream.resyncEpoch ≠ task.resyncEpoch then
    { task with
      point := .backlog
      audio := task.audio.map (fun track => track.resync stream)
      video := task.video.map (fun track => track.resync stream)
      resyncEpoch := stream.resyncEpoch }
  else { task with point := .backlog }

def dropBacklog (task : MediaTask ρ) (stream : ChannelView ρ) : MediaTask ρ :=
  { task with
    point := .state
    audio := task.audio.map (fun track => track.dropBacklog stream) }

def syncState (task : MediaTask ρ) (config : MediaTaskConfig) (stream : ChannelView ρ) :
    TaskOutcome ρ :=
  match task.video with
  | none => { task := { task with point := .streamer } }
  | some track =>
    let outcome := track.syncState config.placeholders config.suppressPlaceholders
      (task.context config stream)
    { task := { task with
        point := match outcome.result with
          | .error _ => .ended
          | .ok _ => .streamer
        video := some outcome.track }
      written := outcome.written
      sent := outcome.sent }

/-- The flag is loaded once; a task without tracks ends. -/
def loadStreamer (task : MediaTask ρ) (stream : ChannelView ρ) : MediaTask ρ :=
  if task.audio.isNone ∧ task.video.isNone then { task with point := .ended }
  else { task with point := .select, streamerActive := stream.streamer }

/-- The loop goes on after `Ok(true)`. -/
def pointAfter : Except String Bool → LoopPoint
  | .ok true => .epoch
  | .ok false => .ended
  | .error _ => .ended

def handleAudio (task : MediaTask ρ) (track : AudioRtpTrack ρ) (event : AudioRtpEvent)
    (config : MediaTaskConfig) (stream : ChannelView ρ) : TaskOutcome ρ :=
  let handled := track.handleEvent event (task.context config stream) task.timeline
  { task := { task with
      point := pointAfter handled.1.result
      audio := some handled.1.track
      timeline := handled.2 }
    written := handled.1.written
    sent := handled.1.sent }

def handleVideo (task : MediaTask ρ) (track : VideoRtpTrack ρ) (event : VideoRtpEvent)
    (config : MediaTaskConfig) (stream : ChannelView ρ) : TaskOutcome ρ :=
  let handled := track.handleEvent event (task.context config stream) task.timeline
  { task := { task with
      point := pointAfter handled.1.result
      video := some handled.1.track
      timeline := handled.2 }
    written := handled.1.written
    sent := handled.1.sent }

def step (config : MediaTaskConfig) (task : MediaTask ρ) (action : TaskAction)
    (stream : ChannelView ρ) : Option (TaskOutcome ρ) :=
  match task.point, action with
  | .epoch, .next => some { task := task.loadEpoch stream }
  | .backlog, .next => some { task := task.dropBacklog stream }
  | .state, .next => some (task.syncState config stream)
  | .streamer, .next => some { task := task.loadStreamer stream }
  | .select, .audio event =>
    match task.audio with
    | some track =>
      if track.enabled task.streamerActive (stream.now 0) event then
        some (task.handleAudio track event config stream)
      else none
    | none => none
  | .select, .video event =>
    match task.video with
    | some track =>
      if track.enabled (stream.now 0) event then
        some (task.handleVideo track event config stream)
      else none
    | none => none
  | _, _ => none

end MediaTask

/-! ## Runs -/

/-- A task with its history, the newest unit first. `readAt` is the last clock reading. -/
structure MediaRun (ρ : Type*) where
  task : MediaTask ρ
  written : List Bytes := []
  sent : List SentUnit := []
  readAt : Nat

namespace MediaRun

variable {ρ : Type*}

/-- The history takes over what a step has written and sent. -/
def record (run : MediaRun ρ) (outcome : TaskOutcome ρ) (stream : ChannelView ρ) : MediaRun ρ where
  task := outcome.task
  written := run.written ++ outcome.written
  sent := outcome.sent.toList ++ run.sent
  readAt := stream.now 3

theorem sent_record_of_none (run : MediaRun ρ) {outcome : TaskOutcome ρ} (stream : ChannelView ρ)
    (h : outcome.sent = none) : (run.record outcome stream).sent = run.sent := by
  rw [record, h]
  rfl

theorem sent_record_of_some (run : MediaRun ρ) {outcome : TaskOutcome ρ} (stream : ChannelView ρ)
    {unit : SentUnit} (h : outcome.sent = some unit) :
    (run.record outcome stream).sent = unit :: run.sent := by
  rw [record, h]
  rfl

def step (config : MediaTaskConfig) (run : MediaRun ρ) :
    TaskAction × ChannelView ρ → Option (MediaRun ρ)
  | (action, stream) =>
    (run.task.step config action stream).map (fun outcome => run.record outcome stream)

def new (audio video : Option (TrackStart ρ)) (playStartedAt resyncEpoch : Nat)
    (now : Nat → Nat) : MediaRun ρ where
  task := .new audio video playStartedAt resyncEpoch now
  readAt := now 2

def system (config : MediaTaskConfig) (start : MediaRun ρ) :
    System (MediaRun ρ) (TaskAction × ChannelView ρ) where
  start
  step := step config

end MediaRun

end VRCStreamer
