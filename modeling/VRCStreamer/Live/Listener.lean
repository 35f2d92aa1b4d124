import VRCStreamer.Concurrency.Transition
import VRCStreamer.Listener.Task
import VRCStreamer.Live.Channel

/-!
# A listener of a live channel

The media task of `Listener.Task` on a channel that publishers change under it. A step of the
task is taken in pieces: it begins with the choice of an event, which may take a message from
a receiver, then come its loads, one at a time in the order of the source, and it finishes
with everything else. Publishers may act between any two pieces.
-/

namespace VRCStreamer

open Codec Concurrency

/-- What a step of the task reads from the channel. -/
inductive Load
  | resyncEpoch
  | audioRx
  | videoRx
  | audioQueued
  | videoQueued
  | streamer
  | videoActive
  deriving DecidableEq

/-- The loads of a step; an epoch that has not changed needs only the first one. -/
def TaskAction.loads (point : LoopPoint) : TaskAction → List Load
  | .next =>
    match point with
    | .epoch => [.resyncEpoch, .audioRx, .videoRx]
    | .backlog => [.audioQueued, .audioRx]
    | .state => [.streamer, .videoActive]
    | .streamer => [.streamer]
    | .select | .ended => []
  | .audio (.message (.ok (.frame ..))) => [.streamer]
  | .audio (.message (.error (.lagged _))) => [.audioRx]
  | .video (.message (.ok (.frame _))) => [.streamer, .videoActive, .videoQueued, .videoRx]
  | .video (.message (.error (.lagged _))) => [.videoRx]
  | _ => []

/-- A task with a step that it may be in the middle of: its action, its loads to come, and in
`view` what has been loaded. The rest is history: whether the last frame of video was skipped
for the state of the channel, the places of the frames that were forwarded, newest first, the
session whose frame made the anchor of the timeline, and for each frame that was mapped its
session and that of the anchor, which is its own when there was none. -/
structure Playing where
  task : MediaTask Nat
  view : ChannelView Nat
  pending : Option (TaskAction × List Load) := none
  skipped : Bool := false
  forwarded : List Nat := []
  anchoredBy : Option Nat := none
  mappings : List (Nat × Nat) := []

/-- SETUP subscribes both receivers, PLAY takes the first one and a new second one. -/
inductive Listener
  | absent
  | subscribed (audioRx : Nat)
  | granted (audio video : Option (TrackStart Nat))
  | playing (play : Playing)

inductive EventChoice
  | next
  | audioMessage
  | silence
  | audioReport
  | videoMessage
  | videoReport

inductive ListenerAction
  | subscribe
  | play (audio video : Option (UInt8 × RtpState))
  | start (playStartedAt : Nat) (now : Nat → Nat) (ntp : UInt32 × UInt32)
  | begin (choice : EventChoice) (now : Nat → Nat) (ntp : UInt32 × UInt32)
  | load
  | finish

namespace LiveChannel

/-- A receiver's error as the source has it. -/
def received {α : Type*} : Except Nat α → Except RecvError α
  | .ok message => .ok message
  | .error skipped => .error (.lagged skipped)

/-- One load into a view. -/
def look (channel : LiveChannel) (task : MediaTask Nat) (view : ChannelView Nat) :
    Load → ChannelView Nat
  | .resyncEpoch => { view with resyncEpoch := channel.resyncEpoch }
  | .audioRx => { view with audioRx := channel.audioTx.subscribe }
  | .videoRx => { view with videoRx := channel.videoTx.subscribe }
  | .audioQueued =>
    { view with queued := (task.audio.map (fun track => channel.audioTx.len track.rx)).getD 0 }
  | .videoQueued =>
    { view with queued := (task.video.map (fun track => channel.videoTx.len track.rx)).getD 0 }
  | .streamer => { view with streamer := channel.streamer }
  | .videoActive => { view with videoActive := channel.videoActive }

end LiveChannel

/-! ## The pieces of a step -/

namespace MediaTask

def setAudioRx {ρ : Type*} (task : MediaTask ρ) (rx : ρ) : MediaTask ρ :=
  { task with audio := task.audio.map (fun track => { track with rx }) }

def setVideoRx {ρ : Type*} (task : MediaTask ρ) (rx : ρ) : MediaTask ρ :=
  { task with video := task.video.map (fun track => { track with rx }) }

/-- The event that a choice brings, with the receivers after it. -/
def receive (channel : LiveChannel) (task : MediaTask Nat) (now : Nat) :
    EventChoice → Option (TaskAction × MediaTask Nat)
  | .next => if task.point = .select ∨ task.point = .ended then none else some (.next, task)
  | .audioMessage => do
    let track ← task.audio
    let (message, rx) ← channel.audioTx.recv track.rx
    if task.point = .select then
      return (.audio (.message (LiveChannel.received message)), task.setAudioRx rx)
    else none
  | .silence => do
    let track ← task.audio
    if task.point = .select && track.enabled task.streamerActive now .silence then
      return (.audio .silence, task)
    else none
  | .audioReport => do
    let track ← task.audio
    if task.point = .select && track.enabled task.streamerActive now .report then
      return (.audio .report, task)
    else none
  | .videoMessage => do
    let track ← task.video
    let (message, rx) ← channel.videoTx.recv track.rx
    if task.point = .select then
      return (.video (.message (LiveChannel.received message)), task.setVideoRx rx)
    else none
  | .videoReport => do
    let track ← task.video
    if task.point = .select && track.enabled now .report then return (.video .report, task)
    else none

/-- The backlog of a track is too old to be sent. -/
def expired (frame : VideoFrame) (view : ChannelView Nat) : Bool :=
  0 < view.queued && MAX_VIDEO_BACKLOG_AGE < view.now 0 - frame.publishedAt

/-- The session of the frame that a step maps through the timeline. -/
def maps (task : MediaTask Nat) (view : ChannelView Nat) : TaskAction → Option Nat
  | .audio (.message (.ok (.frame session _ _ _))) =>
    if view.streamer then some session else none
  | .video (.message (.ok (.frame frame))) => do
    let track ← task.video
    if view.channelVideoState = .video ∧ expired frame view = false ∧
      (track.noteFrame frame.keyframe).seenKeyframe then some frame.session
    else none
  | _ => none

end MediaTask

namespace Playing

/-- The session of the anchor that the timeline has for the epoch of the task. -/
def anchor (play : Playing) : Option Nat :=
  if play.task.timeline.epoch ≠ play.task.resyncEpoch then none else play.anchoredBy

/-- The session of the anchor after a frame was mapped: a frame without an anchor makes one, and
one that is far behind its anchor replaces it. -/
def anchoredAfter (play : Playing) (session : Nat) (timeline : RtpMediaTimeline) : Option Nat :=
  if play.task.timeline.epoch = play.task.resyncEpoch ∧
    timeline.anchor = play.task.timeline.anchor then play.anchoredBy
  else some session

/-- Whether the last frame of video was skipped for the state, after a step. -/
def skips (play : Playing) : TaskAction → Bool
  | .video (.message (.ok (.frame _))) => play.view.channelVideoState ≠ .video
  | _ => play.skipped

/-- A frame of video that was sent; its receiver is past it. -/
def forwards (play : Playing) (action : TaskAction) (outcome : TaskOutcome Nat) : List Nat :=
  match action, outcome.sent, play.task.video with
  | .video _, some _, some track => (track.rx - 1) :: play.forwarded
  | _, _, _ => play.forwarded

/-- The step is over. -/
def conclude (play : Playing) (action : TaskAction) (outcome : TaskOutcome Nat) : Playing where
  task := outcome.task
  view := play.view
  pending := none
  skipped := play.skips action
  forwarded := play.forwards action outcome
  anchoredBy :=
    match play.task.maps play.view action with
    | some session => play.anchoredAfter session outcome.task.timeline
    | none => play.anchoredBy
  mappings :=
    match play.task.maps play.view action with
    | some session => (session, play.anchor.getD session) :: play.mappings
    | none => play.mappings

def step (config : MediaTaskConfig) (channel : LiveChannel) (play : Playing) :
    ListenerAction → Option Playing
  | .begin choice now ntp =>
    match play.pending with
    | some _ => none
    | none =>
      (play.task.receive channel (now 0) choice).map (fun (action, task) =>
        { play with
          task
          view := { play.view with now, ntp }
          pending := some (action, action.loads task.point) })
  | .load =>
    match play.pending with
    | some (action, load :: loads) =>
      some { play with
        view := channel.look play.task play.view load
        pending := some (action, loads) }
    | _ => none
  | .finish =>
    match play.pending with
    | some (action, []) => (play.task.step config action play.view).map (play.conclude action)
    | _ => none
  | _ => none

end Playing

def Listener.step (config : MediaTaskConfig) (channel : LiveChannel) :
    Listener → ListenerAction → Option Listener
  | .absent, .subscribe => some (.subscribed channel.audioTx.subscribe)
  | .subscribed audioRx, .play audio video =>
    some (.granted (audio.map (fun track => ⟨audioRx, track.1, track.2⟩))
      (video.map (fun track => ⟨channel.videoTx.subscribe, track.1, track.2⟩)))
  | .granted audio video, .start playStartedAt now ntp =>
    some (.playing
      { task := .new audio video playStartedAt channel.resyncEpoch now
        view := ⟨channel.resyncEpoch, false, false, 0, 0, 0, now, ntp⟩ })
  | .playing play, action => (play.step config channel action).map .playing
  | _, _ => none

/-! ## The whole -/

structure Live (θ : Type*) where
  channel : LiveChannel
  publisher : θ → PublisherPc
  listener : Listener

inductive LiveAction (θ : Type*)
  | publisher (t : θ) (choice : PublisherChoice)
  | listener (action : ListenerAction)

structure LiveConfig where
  buffer : Nat
  media : MediaTaskConfig

namespace Live

variable {θ : Type*} [DecidableEq θ]

def step (config : LiveConfig) (s : Live θ) : LiveAction θ → Option (Live θ)
  | .publisher t choice =>
    ((s.publisher t).step s.channel choice).map (fun (channel, pc) =>
      { s with channel, publisher := Function.update s.publisher t pc })
  | .listener action =>
    (s.listener.step config.media s.channel action).map (fun listener => { s with listener })

/-- Any number of publishers and one listener, on a new channel. -/
def system (config : LiveConfig) : System (Live θ) (LiveAction θ) where
  start := ⟨.new config.buffer, fun _ => .idle, .absent⟩
  step := step config

/-! ## Sample runs -/

def sampleConfig : LiveConfig := ⟨8, ⟨⟨[], []⟩, false, []⟩⟩

def sample : System (Live Nat) (LiveAction Nat) := system sampleConfig

section

variable {θ : Type*}

/-- A step of the listener's task with a number of loads. -/
def taskStep (choice : EventChoice) (loads : Nat) : List (LiveAction θ) :=
  .listener (.begin choice (fun _ => 0) (0, 0)) ::
    List.replicate loads (.listener .load) ++ [.listener .finish]

/-- A round of the loop up to its event. -/
def roundHead : List (LiveAction θ) :=
  taskStep .next 3 ++ taskStep .next 2 ++ taskStep .next 2 ++ taskStep .next 1

def advance (t : θ) (n : Nat) : List (LiveAction θ) :=
  List.replicate n (.publisher t .advance)

/-- A publisher connects and sends a frame, up to the frame itself. -/
def connectSteps (t : θ) (message : LiveMessage) : List (LiveAction θ) :=
  [.publisher t .advance, .publisher t .accept] ++ advance t 4 ++
    [.publisher t (.message message)] ++ advance t 2

/-- A publisher closes its session, up to the end of its teardown. -/
def leaveSteps (t : θ) : List (LiveAction θ) := .publisher t .close :: advance t 7

def listenSteps (audio video : Option (UInt8 × RtpState)) : List (LiveAction θ) :=
  [.listener .subscribe, .listener (.play audio video), .listener (.start 0 (fun _ => 0) (0, 0))]

end

def audioFrame : LiveMessage := .audioFrame [] 0 0

end Live

end VRCStreamer
