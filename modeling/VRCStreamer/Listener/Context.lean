import VRCStreamer.Publisher.Session
import VRCStreamer.Rtp.Reporter
import VRCStreamer.Rtp.Timeline

/-!
# What a media task works with

The messages of the broadcast channels, and what a step of a listener's media task reads:
the channel, its own receivers, and the clock. `ρ` stands for receivers. A step notes what
it writes and which access unit it has sent.
-/

namespace VRCStreamer

open Codec

/-! ## Messages -/

/-- The session that published a frame is for proofs only; no code reads it. -/
inductive AudioMessage
  | wake
  | frame (session : Nat) (accessUnit : Bytes) (mediaTimestamp publishedAt : Nat)

structure VideoFrame where
  session : Nat
  accessUnit : Bytes
  keyframe : Bool
  singleNal : Bool
  mediaTimestamp : Nat
  publishedAt : Nat

inductive VideoMessage
  | wake
  | frame (frame : VideoFrame)

/-- `broadcast::error::RecvError`. -/
inductive RecvError
  | lagged (skipped : Nat)
  | closed

/-! ## A step of the task -/

/-- What the loads and calls of one step return. `now` gives the clock readings of the step
in their order. -/
structure ChannelView (ρ : Type*) where
  resyncEpoch : Nat
  streamer : Bool
  videoActive : Bool
  audioRx : ρ
  videoRx : ρ
  queued : Nat
  now : Nat → Nat
  ntp : UInt32 × UInt32

def ChannelView.channelVideoState {ρ : Type*} (stream : ChannelView ρ) : VideoStreamState :=
  if stream.streamer = false then .offline
  else if stream.videoActive then .video
  else .audioOnly

/-- `resyncEpoch` is the epoch that the task has loaded last. -/
structure RtpTaskContext (ρ : Type*) where
  stream : ChannelView ρ
  resyncEpoch : Nat
  key : Bytes

/-- `usize::saturating_add`. -/
def saturatingAddUsize (x y : Nat) : Nat := min (x + y) (2 ^ 64 - 1)

/-! ## What a step leaves behind -/

inductive UnitSource
  | silence
  | placeholder
  | live (session epoch mediaTimestamp : Nat)
  deriving DecidableEq

/-- An access unit that was sent: all its packets carry the timestamp. `readAt` is the clock
reading that the timestamp may depend on. -/
structure SentUnit where
  track : RtspTrack
  source : UnitSource
  timestamp : UInt32
  readAt : Nat
  deriving DecidableEq

/-- `result` is false when the task is to end. -/
structure TrackOutcome (τ : Type*) where
  track : τ
  written : List Bytes := []
  sent : Option SentUnit := none
  result : Except String Bool := .ok true

/-- The statements after a `?`. -/
def TrackOutcome.andThen {τ : Type*} (outcome : TrackOutcome τ) (f : τ → τ) : TrackOutcome τ :=
  match outcome.result with
  | .error _ => outcome
  | .ok _ => { outcome with track := f outcome.track }

section

variable {τ : Type*} (outcome : TrackOutcome τ) (f : τ → τ)

@[simp] theorem TrackOutcome.andThen_sent : (outcome.andThen f).sent = outcome.sent := by
  rw [andThen]
  split <;> rfl

@[simp] theorem TrackOutcome.andThen_result : (outcome.andThen f).result = outcome.result := by
  rw [andThen]
  split <;> rfl

@[simp] theorem TrackOutcome.andThen_written : (outcome.andThen f).written = outcome.written := by
  rw [andThen]
  split <;> rfl

/-- What `f` keeps is kept. -/
theorem TrackOutcome.andThen_track {β : Type*} (g : τ → β) (h : ∀ track, g (f track) = g track) :
    g (outcome.andThen f).track = g outcome.track := by
  rw [andThen]
  split
  next => rfl
  next => exact h outcome.track

end

end VRCStreamer
