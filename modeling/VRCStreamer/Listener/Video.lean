import VRCStreamer.Listener.Context

/-!
# The video track of a media task

`VideoRtpTrack` of `rtsp.rs`. While no video is published, one placeholder picture is sent
for each state of the channel; live frames are sent from the first keyframe on.
-/

namespace VRCStreamer

open Codec

structure VideoRtpTrack (ρ : Type*) where
  rx : ρ
  rtp : RtpState
  clock : RtpClock
  seenKeyframe : Bool
  lastState : Option VideoStreamState
  rtcp : RtcpReporter
  rtcpSleep : Nat
  packets : Nat
  dropped : Nat
  sender : RtpPacketWriter

inductive VideoRtpEvent
  | message (received : Except RecvError VideoMessage)
  | report

/-- The access units of `Placeholders`. -/
structure PlaceholderVideo where
  offlineVideo : Bytes
  audioOnlyVideo : Bytes

def placeholderAccessUnit (placeholders : PlaceholderVideo) : VideoStreamState → Option Bytes
  | .offline => if placeholders.offlineVideo ≠ [] then some placeholders.offlineVideo else none
  | .audioOnly =>
    if placeholders.audioOnlyVideo ≠ [] then some placeholders.audioOnlyVideo else none
  | .video => none

namespace VideoRtpTrack

variable {ρ : Type*}

def new (rx : ρ) (channel : UInt8) (rtp : RtpState) (playStartedAt : Nat) (now : Nat → Nat) :
    VideoRtpTrack ρ where
  rx
  rtp
  clock := ⟨playStartedAt, rtp.timestamp, H264_CLOCK_RATE⟩
  seenKeyframe := false
  lastState := none
  rtcp := { ssrc := RTP_VIDEO_SSRC, clockRate := H264_CLOCK_RATE }
  rtcpSleep := now 2 + RTCP_REPORT_INTERVAL
  packets := 0
  dropped := 0
  sender := ⟨channel, []⟩

def resync (track : VideoRtpTrack ρ) (stream : ChannelView ρ) : VideoRtpTrack ρ :=
  { track with rx := stream.videoRx, seenKeyframe := false, lastState := none }

def setTimestamp (track : VideoRtpTrack ρ) (timestamp : UInt32) : VideoRtpTrack ρ :=
  { track with rtp := { track.rtp with timestamp } }

@[simp] theorem setTimestamp_timestamp (track : VideoRtpTrack ρ) (timestamp : UInt32) :
    (track.setTimestamp timestamp).rtp.timestamp = timestamp := rfl

@[simp] theorem setTimestamp_clock (track : VideoRtpTrack ρ) (timestamp : UInt32) :
    (track.setTimestamp timestamp).clock = track.clock := rfl

/-- The statements that live frames and placeholders share. -/
def send (track : VideoRtpTrack ρ) (accessUnit : Bytes) (singleNal batchWrites : Bool)
    (mediaTime : RtcpMediaTime) (source : UnitSource) (readAt : Nat)
    (context : RtpTaskContext ρ) : TrackOutcome (VideoRtpTrack ρ) :=
  let t := track.rtcp.transmit ⟨track.sender, [], track.rtp⟩ mediaTime track.rtcpSleep context.key
    (context.stream.now 2) (context.stream.now 3) context.stream.ntp
    (fun s => s.sendH264 accessUnit singleNal batchWrites)
  let after := { track with
    rtp := t.sending.rtp, sender := t.sending.sender, rtcp := t.rtcp, rtcpSleep := t.timer }
  match t.error with
  | some reason => { track := after, written := t.sending.socket, result := .error reason }
  | none =>
    { track := { after with packets := track.packets + 1 }
      written := t.sending.socket
      sent := some ⟨.video, source, track.rtp.timestamp, readAt⟩ }

def syncState (track : VideoRtpTrack ρ) (placeholders : PlaceholderVideo)
    (suppressPlaceholders : Bool) (context : RtpTaskContext ρ) : TrackOutcome (VideoRtpTrack ρ) :=
  let currentState := context.stream.channelVideoState
  if track.lastState = some currentState then { track }
  else
    let track := { track with
      seenKeyframe := false
      lastState := some currentState
      sender := if currentState ≠ .video then { track.sender with packet := [] } else track.sender }
    if suppressPlaceholders then { track }
    else
      match placeholderAccessUnit placeholders currentState with
      | none => { track }
      | some frame =>
        let timestamp := track.clock.timestamp (context.stream.now 0)
        (track.setTimestamp timestamp).send frame false false ⟨timestamp, context.stream.now 1⟩
          .placeholder (context.stream.now 0) context

/-- A frame shows that the channel has video, and a keyframe that decoding can start. -/
def noteFrame (track : VideoRtpTrack ρ) (keyframe : Bool) : VideoRtpTrack ρ :=
  let track :=
    if track.lastState ≠ some .video then
      { track with seenKeyframe := false, lastState := some .video }
    else track
  if keyframe then { track with seenKeyframe := true } else track

@[simp] theorem noteFrame_clock (track : VideoRtpTrack ρ) (keyframe : Bool) :
    (track.noteFrame keyframe).clock = track.clock := by
  simp only [noteFrame]
  split <;> split <;> rfl

def handleEvent (track : VideoRtpTrack ρ) (event : VideoRtpEvent) (context : RtpTaskContext ρ)
    (timeline : RtpMediaTimeline) : TrackOutcome (VideoRtpTrack ρ) × RtpMediaTimeline :=
  match event with
  | .message (.ok .wake) =>
    ({ track := { track with seenKeyframe := false, lastState := none } }, timeline)
  | .message (.ok (.frame frame)) =>
    if context.stream.channelVideoState ≠ .video then ({ track }, timeline)
    else if 0 < context.stream.queued ∧
        MAX_VIDEO_BACKLOG_AGE < context.stream.now 0 - frame.publishedAt then
      ({ track := { track with
          rx := context.stream.videoRx
          seenKeyframe := false
          dropped := saturatingAddUsize track.dropped
            (saturatingAddUsize context.stream.queued 1) } }, timeline)
    else
      let track := track.noteFrame frame.keyframe
      if track.seenKeyframe = false then ({ track }, timeline)
      else
        let mapped :=
          timeline.map context.resyncEpoch frame.mediaTimestamp track.clock (context.stream.now 1)
        ((track.setTimestamp mapped.1).send frame.accessUnit frame.singleNal true
          ⟨mapped.1, frame.publishedAt⟩
          (.live frame.session context.resyncEpoch frame.mediaTimestamp) (context.stream.now 1)
          context, mapped.2)
  | .message (.error (.lagged skipped)) =>
    ({ track := { track with
        rx := context.stream.videoRx
        seenKeyframe := false
        dropped := saturatingAddUsize track.dropped skipped } }, timeline)
  | .message (.error .closed) => ({ track, result := .ok false }, timeline)
  | .report =>
    let s := track.rtcp.sendReport ⟨track.sender, [], track.rtp⟩ context.key (context.stream.now 0)
      context.stream.ntp
    ({ track := { track with
        sender := s.sender
        rtcpSleep := context.stream.now 1 + RTCP_REPORT_INTERVAL }
       written := s.socket }, timeline)

/-- The branches of `next_video_event` that can be taken. -/
def enabled (track : VideoRtpTrack ρ) (now : Nat) : VideoRtpEvent → Bool
  | .message _ => true
  | .report => track.rtcp.started && track.rtcpSleep ≤ now

end VideoRtpTrack

end VRCStreamer
