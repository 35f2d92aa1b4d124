import VRCStreamer.Concurrency.Broadcast
import VRCStreamer.Listener.Context

/-!
# A channel and its publishers

One `Channel` with its two broadcast channels, and what a publisher does to it: from the
compare-exchange in `ingest_ws` through `streamer_session` to the end of
`StreamerGuard::drop`. The other streams of the server only show in the answer of the
limit of streamers, which is a choice here.
-/

namespace VRCStreamer

open Codec Concurrency

/-- A history of the sessions' starts: the epoch that each has raised the channel to, and the
places of the messages that woke the listeners then. -/
structure SessionStarts where
  epoch : Nat → Option Nat
  audio : Nat → Option Nat
  video : Nat → Option Nat

/-- `sessions` counts how often the flag has been taken; no code reads it. -/
structure LiveChannel where
  streamer : Bool
  videoActive : Bool
  resyncEpoch : Nat
  audioTx : Broadcast AudioMessage
  videoTx : Broadcast VideoMessage
  sessions : Nat
  starts : SessionStarts

/-- The atomic operations of a publisher on the channel. -/
inductive LiveOp
  | swapActive
  | storeActive (value : Bool)
  | forceResync
  | sendAudio (message : AudioMessage)
  | sendVideo (message : VideoMessage)

namespace LiveChannel

def new (buffer : Nat) : LiveChannel where
  streamer := false
  videoActive := false
  resyncEpoch := 0
  audioTx := .new buffer
  videoTx := .new buffer
  sessions := 0
  starts := ⟨fun _ => none, fun _ => none, fun _ => none⟩

def op (channel : LiveChannel) : LiveOp → LiveChannel
  | .swapActive => { channel with videoActive := true }
  | .storeActive value => { channel with videoActive := value }
  | .forceResync => { channel with resyncEpoch := (channel.resyncEpoch + 1) % 2 ^ 64 }
  | .sendAudio message => { channel with audioTx := channel.audioTx.send message }
  | .sendVideo message => { channel with videoTx := channel.videoTx.send message }

/-- The history that a session's start leaves. -/
def noteStart (channel : LiveChannel) (session : Nat) : LiveOp → SessionStarts
  | .forceResync =>
    { channel.starts with
      epoch := Function.update channel.starts.epoch session
        (some ((channel.resyncEpoch + 1) % 2 ^ 64)) }
  | .sendAudio _ =>
    { channel.starts with
      audio := Function.update channel.starts.audio session (some channel.audioTx.subscribe) }
  | .sendVideo _ =>
    { channel.starts with
      video := Function.update channel.starts.video session (some channel.videoTx.subscribe) }
  | _ => channel.starts

/-- An operation of a session's start. -/
def startOp (channel : LiveChannel) (session : Nat) (op : LiveOp) : LiveChannel :=
  { channel.op op with starts := channel.noteStart session op }

/-- The compare-exchange that has succeeded. -/
def take (channel : LiveChannel) : LiveChannel :=
  { channel with streamer := true, sessions := channel.sessions + 1 }

def release (channel : LiveChannel) : LiveChannel := { channel with streamer := false }

end LiveChannel

/-! ## Sessions -/

def wakeVideoListeners : LiveOp := .sendVideo .wake

def wakeMediaListeners : List LiveOp := [.sendAudio .wake, wakeVideoListeners]

/-- A message of a publisher with what listeners are to get of it. -/
inductive LiveMessage
  | audioFrame (accessUnit : Bytes) (mediaTimestamp publishedAt : Nat)
  | videoFrame (accessUnit : Bytes) (keyframe singleNal : Bool) (mediaTimestamp publishedAt : Nat)
  | forceResync
  | videoStart
  | videoStop
  | videoReset

namespace LiveMessage

/-- `spoken` is false before the first audio frame of the session. A swap adds a wake of its
own when it has turned video on. Where video is disabled, a session closes instead. -/
def ops (session : Nat) (spoken : Bool) : LiveMessage → List LiveOp
  | .audioFrame accessUnit mediaTimestamp publishedAt =>
    (if spoken then [] else [wakeVideoListeners]) ++
      [.sendAudio (.frame session accessUnit mediaTimestamp publishedAt)]
  | .videoFrame accessUnit keyframe singleNal mediaTimestamp publishedAt =>
    [.swapActive, .sendVideo (.frame
      ⟨session, accessUnit, keyframe, singleNal, mediaTimestamp, publishedAt⟩)]
  | .forceResync => [.forceResync]
  | .videoStart => [.storeActive true, wakeVideoListeners]
  | .videoStop => [.storeActive false, .forceResync, wakeVideoListeners]
  | .videoReset => [.forceResync, wakeVideoListeners]

def isAudioFrame : LiveMessage → Bool
  | .audioFrame .. => true
  | _ => false

/-- The message without its media, with the parameters that are read from it. -/
def streamerMessage {φ : Type*} (fmtp : Option φ) : LiveMessage → StreamerMessage φ
  | .audioFrame .. => .audioFrame
  | .videoFrame _ keyframe _ _ _ => .videoFrame keyframe fmtp
  | .forceResync => .forceResync
  | .videoStart => .videoStart
  | .videoStop => .videoStop
  | .videoReset => .videoReset

end LiveMessage

/-- Where a publisher stands. The lists hold the operations to come; a session with none is
in the `select!` of its loop. -/
inductive PublisherPc
  | idle
  | counting (session : Nat)
  | refused (session : Nat)
  | starting (session : Nat) (ops : List LiveOp)
  | serving (session : Nat) (spoken : Bool) (ops : List LiveOp)
  | releasing (session : Nat)
  | closing (ops : List LiveOp)
  | leaving

/-- The outcome of the count of streamers, the end of a session, or the next message. -/
inductive PublisherChoice
  | advance
  | accept
  | refuse
  | close
  | message (message : LiveMessage)

namespace PublisherPc

def startOps : List LiveOp := .forceResync :: wakeMediaListeners

def closeOps : List LiveOp := .storeActive false :: .forceResync :: wakeMediaListeners

/-- The operations that are left when one is done. -/
def after (channel : LiveChannel) (op : LiveOp) (ops : List LiveOp) : List LiveOp :=
  match op with
  | .swapActive => if channel.videoActive then ops else wakeVideoListeners :: ops
  | _ => ops

def step (channel : LiveChannel) : PublisherPc → PublisherChoice →
    Option (LiveChannel × PublisherPc)
  | .idle, .advance =>
    if channel.streamer then some (channel, .idle)
    else some (channel.take, .counting channel.sessions)
  | .counting session, .accept => some (channel, .starting session startOps)
  | .counting session, .refuse => some (channel, .refused session)
  | .refused _, .advance => some (channel.release, .leaving)
  | .starting session (op :: ops), .advance =>
    some (channel.startOp session op, .starting session ops)
  | .starting session [], .advance => some (channel, .serving session false [])
  -- the checks of the start and its greeting may fail, all before the first operation
  | .starting session (.forceResync :: _), .close => some (channel, .releasing session)
  | .serving session spoken [], .message message =>
    some (channel, .serving session (spoken || message.isAudioFrame) (message.ops session spoken))
  | .serving session _ [], .close => some (channel, .releasing session)
  | .serving session spoken (op :: ops), .advance =>
    some (channel.op op, .serving session spoken (after channel op ops))
  | .releasing _, .advance => some (channel.release, .closing closeOps)
  | .closing (op :: ops), .advance => some (channel.op op, .closing ops)
  | .closing [], .advance => some (channel, .leaving)
  | .leaving, .advance => some (channel, .idle)
  | _, _ => none

/-- The session that holds the flag. -/
def holds : PublisherPc → Option Nat
  | .counting session | .refused session | .starting session _ | .serving session _ _
  | .releasing session => some session
  | _ => none

/-- The session whose start is over. -/
def serves : PublisherPc → Option Nat
  | .starting session [] | .serving session _ _ => some session
  | _ => none

/-- What is left of a session's start. -/
def toStart : PublisherPc → Option (Nat × List LiveOp)
  | .counting session | .refused session => some (session, startOps)
  | .starting session ops => some (session, ops)
  | .serving session _ _ => some (session, [])
  | _ => none

end PublisherPc

/-! ## The same operations as on the channel map -/

namespace LiveOp

variable {φ θ κ ι : Type*}

/-- An operation as the server has it; it has no wakes. -/
def channelOp : LiveOp → Option (ChannelOp φ)
  | .swapActive => some .swapActive
  | .storeActive value => some (.storeActive value)
  | .forceResync => some .forceResync
  | .sendAudio (.frame ..) | .sendVideo (.frame _) => some .publish
  | .sendAudio .wake | .sendVideo .wake => none

end LiveOp

/-- The SDP parameters are not part of a live channel. -/
def ChannelOp.isFmtp {φ : Type*} : ChannelOp φ → Bool
  | .resetConfiguration | .configure _ => true
  | _ => false

/-- A session does the same operations in the same order here as on the channel map. -/
theorem LiveMessage.ops_channelOp {φ : Type*} (message : LiveMessage) (session : Nat)
    (spoken configured : Bool) (fmtp : Option φ) :
    (message.ops session spoken).filterMap LiveOp.channelOp =
      ((message.streamerMessage fmtp).ops configured).filter (fun op => !op.isFmtp) := by
  cases message with
  | audioFrame accessUnit mediaTimestamp publishedAt => cases spoken <;> rfl
  | videoFrame accessUnit keyframe singleNal mediaTimestamp publishedAt =>
    cases keyframe
    · rfl
    · cases fmtp
      · rfl
      · cases configured <;> rfl
  | forceResync | videoStart | videoStop | videoReset => rfl

/-- A channel with the video state of a channel of the server. -/
def LiveChannel.Matches {κ θ ι φ : Type*} (channel : LiveChannel) (m : Server κ θ ι φ)
    (id : ChannelId) : Prop :=
  channel.videoActive = (m.video id).videoActive ∧ channel.resyncEpoch = (m.video id).resyncEpoch

/-- They stay the same under each operation. -/
theorem LiveChannel.Matches.op {κ θ ι φ : Type*} {channel : LiveChannel} {m : Server κ θ ι φ}
    {id : ChannelId} (h : channel.Matches m id) (op : LiveOp) :
    (channel.op op).Matches ((op.channelOp.map (m.channelOp id)).getD m) id := by
  obtain ⟨hactive, hepoch⟩ := h
  cases op with
  | swapActive | storeActive value => simp [LiveOp.channelOp, LiveChannel.op, LiveChannel.Matches,
      Server.channelOp, Server.setActive, Server.updateVideo, hepoch]
  | forceResync => simp [LiveOp.channelOp, LiveChannel.op, LiveChannel.Matches, Server.channelOp,
      Server.forceResync, Server.updateVideo, hactive, hepoch]
  | sendAudio message => cases message <;> exact ⟨hactive, hepoch⟩
  | sendVideo message => cases message <;> exact ⟨hactive, hepoch⟩

end VRCStreamer
