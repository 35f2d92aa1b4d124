import VRCStreamer.Listener.Context

/-!
# The audio track of a media task

`AudioRtpTrack` of `rtsp.rs`. While no publisher is there, a timer sends packets of silence;
`nextSendAt` is always the deadline of that timer.
-/

namespace VRCStreamer

open Codec

structure AudioRtpTrack (ρ : Type*) where
  rx : ρ
  rtp : RtpState
  clock : RtpClock
  nextSendAt : Nat
  rtcp : RtcpReporter
  rtcpSleep : Nat
  packets : Nat
  silencePackets : Nat
  dropped : Nat
  sender : RtpPacketWriter

inductive AudioRtpEvent
  | message (received : Except RecvError AudioMessage)
  | silence
  | report

namespace AudioRtpTrack

variable {ρ : Type*}

def new (rx : ρ) (channel : UInt8) (rtp : RtpState) (playStartedAt : Nat) (now : Nat → Nat) :
    AudioRtpTrack ρ where
  rx
  rtp
  clock := ⟨playStartedAt, rtp.timestamp, AAC_SAMPLE_RATE⟩
  nextSendAt := now 0
  rtcp := { ssrc := RTP_AUDIO_SSRC, clockRate := AAC_SAMPLE_RATE }
  rtcpSleep := now 1 + RTCP_REPORT_INTERVAL
  packets := 0
  silencePackets := 0
  dropped := 0
  sender := ⟨channel, []⟩

def resync (track : AudioRtpTrack ρ) (stream : ChannelView ρ) : AudioRtpTrack ρ :=
  { track with rx := stream.audioRx, nextSendAt := stream.now 0 }

def dropBacklog (track : AudioRtpTrack ρ) (stream : ChannelView ρ) : AudioRtpTrack ρ :=
  if stream.queued ≤ MAX_AUDIO_BACKLOG_FRAMES then track
  else
    { track with
      rx := stream.audioRx
      nextSendAt := stream.now 0
      dropped := saturatingAddUsize track.dropped stream.queued }

@[simp] theorem dropBacklog_rtp (track : AudioRtpTrack ρ) (stream : ChannelView ρ) :
    (track.dropBacklog stream).rtp = track.rtp := by
  rw [dropBacklog]
  split <;> rfl

@[simp] theorem dropBacklog_clock (track : AudioRtpTrack ρ) (stream : ChannelView ρ) :
    (track.dropBacklog stream).clock = track.clock := by
  rw [dropBacklog]
  split <;> rfl

def setTimestamp (track : AudioRtpTrack ρ) (timestamp : UInt32) : AudioRtpTrack ρ :=
  { track with rtp := { track.rtp with timestamp } }

@[simp] theorem setTimestamp_timestamp (track : AudioRtpTrack ρ) (timestamp : UInt32) :
    (track.setTimestamp timestamp).rtp.timestamp = timestamp := rfl

@[simp] theorem setTimestamp_clock (track : AudioRtpTrack ρ) (timestamp : UInt32) :
    (track.setTimestamp timestamp).clock = track.clock := rfl

/-- The statements that live frames and silence share. -/
def send (track : AudioRtpTrack ρ) (accessUnit : Bytes) (mediaTime : RtcpMediaTime)
    (source : UnitSource) (context : RtpTaskContext ρ) : TrackOutcome (AudioRtpTrack ρ) :=
  let t := track.rtcp.transmit ⟨track.sender, [], track.rtp⟩ mediaTime track.rtcpSleep context.key
    (context.stream.now 1) (context.stream.now 2) context.stream.ntp (fun s => s.sendAac accessUnit)
  let after := { track with
    rtp := t.sending.rtp, sender := t.sending.sender, rtcp := t.rtcp, rtcpSleep := t.timer }
  match t.error with
  | some reason => { track := after, written := t.sending.socket, result := .error reason }
  | none =>
    { track := { after with packets := track.packets + 1 }
      written := t.sending.socket
      sent := some ⟨.audio, source, track.rtp.timestamp, context.stream.now 0⟩ }

/-- The timer is set one frame on, or one frame from now when it is far behind. -/
def silenceSent (track : AudioRtpTrack ρ) (now : Nat) : AudioRtpTrack ρ :=
  let nextSendAt := track.nextSendAt + AAC_FRAME_DURATION
  { track with
    silencePackets := track.silencePackets + 1
    nextSendAt :=
      if 250 * 10 ^ 6 < now - nextSendAt then now + AAC_FRAME_DURATION else nextSendAt }

@[simp] theorem silenceSent_rtp (track : AudioRtpTrack ρ) (now : Nat) :
    (track.silenceSent now).rtp = track.rtp := by
  rw [silenceSent]

@[simp] theorem silenceSent_clock (track : AudioRtpTrack ρ) (now : Nat) :
    (track.silenceSent now).clock = track.clock := by
  rw [silenceSent]

def handleEvent (track : AudioRtpTrack ρ) (event : AudioRtpEvent) (context : RtpTaskContext ρ)
    (timeline : RtpMediaTimeline) : TrackOutcome (AudioRtpTrack ρ) × RtpMediaTimeline :=
  match event with
  | .message (.ok .wake) =>
    ({ track := { track with nextSendAt := context.stream.now 0 } }, timeline)
  | .message (.ok (.frame session accessUnit mediaTimestamp publishedAt)) =>
    if context.stream.streamer = false then ({ track }, timeline)
    else
      let mapped :=
        timeline.map context.resyncEpoch mediaTimestamp track.clock (context.stream.now 0)
      ((track.setTimestamp mapped.1).send accessUnit ⟨mapped.1, publishedAt⟩
        (.live session context.resyncEpoch mediaTimestamp) context, mapped.2)
  | .message (.error (.lagged skipped)) =>
    ({ track := { track with
        rx := context.stream.audioRx
        dropped := saturatingAddUsize track.dropped skipped } }, timeline)
  | .message (.error .closed) => ({ track, result := .ok false }, timeline)
  | .silence =>
    let outcome := track.send AAC_SILENCE_ACCESS_UNIT ⟨track.rtp.timestamp, track.nextSendAt⟩
      .silence context
    (outcome.andThen (fun track => track.silenceSent (context.stream.now 3)), timeline)
  | .report =>
    let s := track.rtcp.sendReport ⟨track.sender, [], track.rtp⟩ context.key (context.stream.now 0)
      context.stream.ntp
    ({ track := { track with
        sender := s.sender
        rtcpSleep := context.stream.now 1 + RTCP_REPORT_INTERVAL }
       written := s.socket }, timeline)

/-- The branches of `next_audio_event` that can be taken. -/
def enabled (track : AudioRtpTrack ρ) (streamerActive : Bool) (now : Nat) : AudioRtpEvent → Bool
  | .message _ => true
  | .silence => !streamerActive && track.nextSendAt ≤ now
  | .report => track.rtcp.started && track.rtcpSleep ≤ now

end AudioRtpTrack

end VRCStreamer
