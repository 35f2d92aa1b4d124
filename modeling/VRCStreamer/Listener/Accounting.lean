import VRCStreamer.Listener.Effect
import VRCStreamer.Rtp.Wire

/-!
# The accounts of a media task

What a client can check of the packets and reports that it reads: consecutive sequence numbers
from the announced one on, and in each report the counts of the packets before it and the
media time of the last one. The log of a run is read from the bytes that the run has written.
-/

namespace VRCStreamer

open Codec Concurrency

/-! ## Frames with their times -/

/-- A frame as a client reads it, and when its media was published; of a report, when it was
made. -/
structure MediaFrame where
  channel : UInt8
  content : RtpFrame
  instant : Nat
  deriving DecidableEq

namespace MediaFrame

def received (frame : MediaFrame) : UInt8 × RtpFrame := (frame.channel, frame.content)

def note (publishedAt reportedAt : Nat) (frame : UInt8 × RtpFrame) : MediaFrame where
  channel := frame.1
  content := frame.2
  instant := match frame.2 with
    | .packet _ => publishedAt
    | .report _ => reportedAt

@[simp] theorem received_note (publishedAt reportedAt : Nat) (frame : UInt8 × RtpFrame) :
    (note publishedAt reportedAt frame).received = frame := rfl

end MediaFrame

/-- The RTP packets among some frames, with the times of their media. -/
def packetsIn (frames : List MediaFrame) : List (RtpPacket × Nat) :=
  frames.filterMap (fun frame => match frame.content with
    | .packet packet => some (packet, frame.instant)
    | .report _ => none)

def octetsIn (frames : List MediaFrame) : Nat :=
  ((packetsIn frames).map (fun packet => packet.1.payload.length)).sum

section

variable (frames others : List MediaFrame)

@[simp] theorem packetsIn_append :
    packetsIn (frames ++ others) = packetsIn frames ++ packetsIn others :=
  List.filterMap_append

@[simp] theorem octetsIn_append :
    octetsIn (frames ++ others) = octetsIn frames + octetsIn others := by
  simp [octetsIn]

end

/-! ## Accounts -/

/-- The frames of one track, as a client can check them. -/
structure Accounted (announced : UInt16) (clockRate : Nat) (frames : List MediaFrame) : Prop where
  numbered : ∀ n packet instant, (packetsIn frames)[n]? = some (packet, instant) →
    packet.sequence = announced + UInt16.ofNat n
  first : ∀ frame, frames.head? = some frame → ∃ report, frame.content = .report report
  counted : ∀ before channel report instant after,
    frames = before ++ ⟨channel, .report report, instant⟩ :: after →
      report.packetCount = UInt32.ofNat (packetsIn before).length ∧
      report.octetCount = UInt32.ofNat (octetsIn before)
  projected : ∀ before channel report instant after,
    frames = before ++ ⟨channel, .report report, instant⟩ :: after →
      ∀ packet publishedAt, (packetsIn before).getLast? = some (packet, publishedAt) →
        report.rtpTimestamp =
          projectRtpTimestamp packet.timestamp (instant - publishedAt) clockRate

namespace Accounted

variable {announced : UInt16} {clockRate : Nat} {frames : List MediaFrame}

theorem nil : Accounted announced clockRate [] where
  numbered n packet instant h := by cases h
  first frame h := by cases h
  counted before channel report instant after h := by simp at h
  projected before channel report instant after h := by simp at h

/-- A frame of a longer list is the new one or lies in the old list. -/
theorem split_append_singleton {frame other : MediaFrame} {before after : List MediaFrame}
    (h : frames ++ [frame] = before ++ other :: after) :
    (after = [] ∧ before = frames ∧ other = frame) ∨ ∃ rest, frames = before ++ other :: rest := by
  obtain rfl | ⟨rest, last, rfl⟩ := List.eq_nil_or_concat after
  · obtain ⟨hframes, hframe⟩ := List.append_inj' h rfl
    exact .inl ⟨rfl, hframes.symm, (List.cons.inj hframe).1.symm⟩
  · right
    refine ⟨rest, ?_⟩
    have hsplit : frames ++ [frame] = (before ++ other :: rest) ++ [last] := by
      simpa using h
    exact (List.append_inj' hsplit rfl).1

theorem report (h : Accounted announced clockRate frames) (channel : UInt8)
    {report : SenderReport} {instant : Nat}
    (hpackets : report.packetCount = UInt32.ofNat (packetsIn frames).length)
    (hoctets : report.octetCount = UInt32.ofNat (octetsIn frames))
    (htimestamp : ∀ packet publishedAt, (packetsIn frames).getLast? = some (packet, publishedAt) →
      report.rtpTimestamp =
        projectRtpTimestamp packet.timestamp (instant - publishedAt) clockRate) :
    Accounted announced clockRate (frames ++ [⟨channel, .report report, instant⟩]) where
  numbered n packet time hn := by
    rw [packetsIn_append] at hn
    exact h.numbered n packet time (by simpa [packetsIn] using hn)
  first frame hframe := by
    cases frames with
    | nil =>
      obtain rfl := Option.some.inj hframe
      exact ⟨report, rfl⟩
    | cons first frames => exact h.first frame hframe
  counted before channel' report' instant' after hsplit := by
    obtain ⟨-, rfl, heq⟩ | ⟨rest, hrest⟩ := split_append_singleton hsplit
    · cases heq
      exact ⟨hpackets, hoctets⟩
    · exact h.counted _ _ _ _ _ hrest
  projected before channel' report' instant' after hsplit := by
    obtain ⟨-, rfl, heq⟩ | ⟨rest, hrest⟩ := split_append_singleton hsplit
    · cases heq
      exact htimestamp
    · exact h.projected _ _ _ _ _ hrest

theorem packet (h : Accounted announced clockRate frames) (hne : frames ≠ []) (channel : UInt8)
    {packet : RtpPacket} (instant : Nat)
    (hsequence : packet.sequence = announced + UInt16.ofNat (packetsIn frames).length) :
    Accounted announced clockRate (frames ++ [⟨channel, .packet packet, instant⟩]) where
  numbered n other time hn := by
    rw [packetsIn_append] at hn
    obtain hlt | hle := Nat.lt_or_ge n (packetsIn frames).length
    · rw [List.getElem?_append_left hlt] at hn
      exact h.numbered n other time hn
    · rw [List.getElem?_append_right hle] at hn
      obtain ⟨hzero, heq⟩ :
          n - (packetsIn frames).length = 0 ∧ (packet, instant) = (other, time) := by
        simpa [packetsIn, List.getElem?_singleton] using hn
      obtain ⟨rfl, -⟩ := Prod.mk.inj heq
      rw [hsequence, show n = (packetsIn frames).length by omega]
  first frame hframe := by
    rw [List.head?_append_of_ne_nil _ hne] at hframe
    exact h.first frame hframe
  counted before channel' report' instant' after hsplit := by
    obtain ⟨-, -, heq⟩ | ⟨rest, hrest⟩ := split_append_singleton hsplit
    · cases heq
    · exact h.counted _ _ _ _ _ hrest
  projected before channel' report' instant' after hsplit := by
    obtain ⟨-, -, heq⟩ | ⟨rest, hrest⟩ := split_append_singleton hsplit
    · cases heq
    · exact h.projected _ _ _ _ _ hrest

end Accounted

/-! ## Tracks -/

/-- What a track sends with. -/
structure TrackSending where
  rtp : RtpState
  rtcp : RtcpReporter
  channel : UInt8

/-- The same but for the timestamp of the next packet. -/
structure TrackSending.Keeps (before after : TrackSending) : Prop where
  rtcp : after.rtcp = before.rtcp
  channel : after.channel = before.channel
  sequence : after.rtp.sequence = before.rtp.sequence
  packetCount : after.rtp.packetCount = before.rtp.packetCount
  octetCount : after.rtp.octetCount = before.rtp.octetCount

theorem TrackSending.Keeps.refl (sending : TrackSending) : sending.Keeps sending :=
  ⟨rfl, rfl, rfl, rfl, rfl⟩

/-- What a statement of the loop writes for a track. `published` and `reported` are the times
that it goes by, `sent` are the payloads of the access unit that it has sent. -/
inductive TrackWrote (ssrc : UInt32) (published reported : Nat) (sent : List Bytes)
    (before after : TrackSending) (frames : List (UInt8 × RtpFrame)) (running : Prop) : Prop
  | quiet (hsent : sent = []) (hkeeps : before.Keeps after) (hframes : frames = [])
  | report (hsent : sent = []) (hkeeps : before.Keeps after) (mediaTime : RtcpMediaTime)
      (ntp : UInt32 × UInt32) (hmedia : before.rtcp.mediaTime = some mediaTime)
      (hframes : frames = RtcpReporter.reportFrames before.channel
        (before.rtcp.report mediaTime before.rtp reported ntp))
  | failed (hsent : sent = []) (hkeeps : before.Keeps after) (report : SenderReport)
      (hended : ¬ running)
      (hmedia : before.rtcp.mediaTime = none)
      (hssrc : report.ssrc = before.rtcp.ssrc)
      (hpackets : report.packetCount = before.rtp.packetCount)
      (hoctets : report.octetCount = before.rtp.octetCount)
      (hframes : frames = RtcpReporter.reportFrames before.channel report)
  | sent (timestamp : UInt32) (packets : List RtpPacket) (ntp : UInt32 × UInt32)
      (hpayloads : packets.map (·.payload) = sent)
      (hcounted : Counted { before.rtp with timestamp } after.rtp ssrc packets)
      (hchannel : after.channel = before.channel)
      (hrtcp : after.rtcp = before.rtcp.record ⟨timestamp, published⟩)
      (hframes : frames =
        (if before.rtcp.started then [] else RtcpReporter.reportFrames before.channel
          (before.rtcp.report ⟨timestamp, published⟩ before.rtp reported ntp)) ++
        packetFrames before.channel packets)

section

variable {ssrc : UInt32} {published reported : Nat} {before after : TrackSending}
variable {sent : List Bytes} {frames : List (UInt8 × RtpFrame)} {running : Prop}

/-- The frames of a track carry its source. -/
theorem TrackWrote.ssrc_eq
    (h : TrackWrote ssrc published reported sent before after frames running)
    (hbefore : before.rtcp.ssrc = ssrc) : ∀ frame ∈ frames, frame.2.ssrc = ssrc := by
  intro frame hframe
  cases h with
  | quiet _ _ hframes =>
    rw [hframes] at hframe
    cases hframe
  | report _ _ mediaTime ntp _ hframes =>
    rw [hframes] at hframe
    obtain rfl := List.mem_singleton.mp hframe
    exact hbefore
  | failed _ _ report _ _ hssrc _ _ hframes =>
    rw [hframes] at hframe
    obtain rfl := List.mem_singleton.mp hframe
    exact hssrc.trans hbefore
  | sent timestamp packets ntp _ hcounted _ _ hframes =>
    rw [hframes] at hframe
    obtain hframe | hframe := List.mem_append.mp hframe
    · split at hframe
      next => cases hframe
      next =>
        obtain rfl := List.mem_singleton.mp hframe
        exact hbefore
    · obtain ⟨packet, hpacket, rfl⟩ := List.mem_map.mp hframe
      obtain ⟨i, hi⟩ := List.getElem?_of_mem hpacket
      exact (hcounted.numbered i packet hi).2.2

/-- A transmission as a track's statement makes it. -/
theorem trackWrote_of_transmitted {rtcp : RtcpReporter} {sender : RtpPacketWriter} {rtp : RtpState}
    {timestamp : UInt32} {ntp : UInt32 × UInt32} {t : Transmission}
    {payloads : List Bytes} (h : RtcpReporter.Transmitted rtcp ⟨sender, [], { rtp with timestamp }⟩
      ⟨timestamp, published⟩ reported ntp ssrc payloads t)
    (hsent : sent = if t.error.isSome then [] else payloads) (hended : t.error.isSome → ¬ running) :
    ∃ frames, Carries t.sending.socket frames ∧
      TrackWrote ssrc published reported sent
        ⟨rtp, rtcp, sender.channel⟩ ⟨t.sending.rtp, t.rtcp, t.sending.sender.channel⟩ frames
        running := by
  cases h with
  | failed herror hrtcp hrtp hemits =>
    obtain ⟨hchannel, writes, hsocket, hcarries⟩ := hemits
    rw [List.nil_append] at hsocket
    have hkeeps : TrackSending.Keeps ⟨rtp, rtcp, sender.channel⟩
        ⟨t.sending.rtp, t.rtcp, t.sending.sender.channel⟩ := by
      refine ⟨hrtcp, hchannel, ?_, ?_, ?_⟩ <;>
      · dsimp only
        rw [hrtp]
    refine ⟨_, hsocket ▸ hcarries, ?_⟩
    rw [if_pos herror] at hsent
    rw [RtcpReporter.startFrames]
    split
    next => exact .quiet hsent hkeeps rfl
    next hnew =>
      refine .failed hsent hkeeps _ (hended herror) ?_ rfl rfl rfl rfl
      exact Option.not_isSome_iff_eq_none.mp hnew
  | sent packets herror hrtcp hpayloads hcounted hemits =>
    obtain ⟨hchannel, writes, hsocket, hcarries⟩ := hemits
    rw [List.nil_append] at hsocket
    refine ⟨_, hsocket ▸ hcarries, ?_⟩
    refine .sent timestamp packets ntp ?_ hcounted hchannel hrtcp rfl
    rw [hsent, herror]
    exact hpayloads

end

theorem TrackWrote.weaken {ssrc : UInt32} {published reported : Nat} {before after : TrackSending}
    {sent : List Bytes} {frames : List (UInt8 × RtpFrame)} {running running' : Prop}
    (h : TrackWrote ssrc published reported sent before after frames running)
    (hrunning : running' → running) :
    TrackWrote ssrc published reported sent before after frames running' := by
  cases h with
  | quiet hsent hkeeps hframes => exact .quiet hsent hkeeps hframes
  | report hsent hkeeps mediaTime ntp hmedia hframes =>
    exact .report hsent hkeeps mediaTime ntp hmedia hframes
  | failed hsent hkeeps report hended hmedia hssrc hpackets hoctets hframes =>
    exact .failed hsent hkeeps report (mt hrunning hended) hmedia hssrc hpackets hoctets hframes
  | sent timestamp packets ntp hpayloads hcounted hchannel hrtcp hframes =>
    exact .sent timestamp packets ntp hpayloads hcounted hchannel hrtcp hframes

/-- The payloads of an access unit if it was sent. -/
def sentPayloads (sent : Option SentUnit) (payloads : List Bytes) : List Bytes :=
  if sent.isSome then payloads else []

/-- What an outcome of a track writes, when its access unit has these payloads. -/
def WroteBy {τ : Type*} (sending : τ → TrackSending) (kind : RtspTrack) (published reported : Nat)
    (payloads : List Bytes) (track : τ) (outcome : TrackOutcome τ) : Prop :=
  (∀ unit, outcome.sent = some unit → unit.track = kind) ∧
    ∃ frames, Carries outcome.written frames ∧
      TrackWrote kind.ssrc published reported (sentPayloads outcome.sent payloads) (sending track)
        (sending outcome.track) frames (∃ more, outcome.result = .ok more)

theorem wroteBy_quiet {τ : Type*} {sending : τ → TrackSending} {kind : RtspTrack}
    {published reported : Nat} {payloads : List Bytes} {track : τ} {outcome : TrackOutcome τ}
    (hwritten : outcome.written = []) (hsent : outcome.sent = none)
    (hkeeps : (sending track).Keeps (sending outcome.track)) :
    WroteBy sending kind published reported payloads track outcome := by
  refine ⟨?_, [], ?_, .quiet ?_ hkeeps rfl⟩
  · intro unit hunit
    rw [hsent] at hunit
    cases hunit
  · rw [hwritten]
    exact .nil
  · rw [hsent]
    rfl

/-- A report from the timer. -/
theorem wrote_of_sendReport (sender : RtpPacketWriter) (rtp : RtpState) (rtcp : RtcpReporter)
    (cname : Bytes) (reported : Nat) (ntp : UInt32 × UInt32) (ssrc : UInt32) (published : Nat)
    (running : Prop) :
    ∃ frames, Carries (rtcp.sendReport ⟨sender, [], rtp⟩ cname reported ntp).socket frames ∧
      TrackWrote ssrc published reported [] ⟨rtp, rtcp, sender.channel⟩
        ⟨rtp, rtcp, (rtcp.sendReport ⟨sender, [], rtp⟩ cname reported ntp).sender.channel⟩ frames
        running := by
  have hemits : Emits ⟨sender, [], rtp⟩ (rtcp.sendReport ⟨sender, [], rtp⟩ cname reported ntp) _ :=
    RtcpReporter.sendReport_emits
  obtain ⟨hchannel, writes, hsocket, hcarries⟩ := hemits
  rw [List.nil_append] at hsocket
  refine ⟨_, hsocket ▸ hcarries, ?_⟩
  rw [hchannel]
  cases hmedia : rtcp.mediaTime with
  | none => exact .quiet rfl (.refl _) rfl
  | some mediaTime => exact .report rfl (.refl _) mediaTime ntp hmedia rfl

/-! ## The audio track -/

def AudioRtpEvent.publishedAt (nextSendAt : Nat) : AudioRtpEvent → Nat
  | .message (.ok (.frame _ _ _ publishedAt)) => publishedAt
  | _ => nextSendAt

def AudioRtpEvent.reportedAt (now : Nat → Nat) : AudioRtpEvent → Nat
  | .report => now 0
  | _ => now 1

def AudioRtpEvent.payloads : AudioRtpEvent → List Bytes
  | .message (.ok (.frame _ accessUnit _ _)) => [aacPayload accessUnit]
  | .silence => [aacPayload AAC_SILENCE_ACCESS_UNIT]
  | _ => []

namespace AudioRtpTrack

variable {ρ : Type*} (track : AudioRtpTrack ρ)

def sending : TrackSending := ⟨track.rtp, track.rtcp, track.sender.channel⟩

/-- Live frames and silence are sent in the same way. -/
theorem send_wrote (timestamp : UInt32) (accessUnit : Bytes) (published : Nat)
    (source : UnitSource) (context : RtpTaskContext ρ) :
    WroteBy sending .audio published (context.stream.now 1) [aacPayload accessUnit] track
      ((track.setTimestamp timestamp).send accessUnit ⟨timestamp, published⟩ source context) := by
  have htransmitted : RtcpReporter.Transmitted track.rtcp
      ⟨track.sender, [], { track.rtp with timestamp }⟩ ⟨timestamp, published⟩
      (context.stream.now 1) context.stream.ntp RTP_AUDIO_SSRC [aacPayload accessUnit]
      (track.rtcp.transmit ⟨track.sender, [], { track.rtp with timestamp }⟩
        ⟨timestamp, published⟩ track.rtcpSleep context.key (context.stream.now 1)
        (context.stream.now 2) context.stream.ntp (fun s => s.sendAac accessUnit)) :=
    RtcpReporter.transmit_transmitted (fun _ _ hout => ⟨_, rfl, Sending.sendAac_emits hout⟩)
  rw [send]
  dsimp only [setTimestamp]
  generalize track.rtcp.transmit _ _ _ _ _ _ _ _ = t at htransmitted ⊢
  cases herror : t.error with
  | some reason =>
    refine ⟨by rintro unit ⟨⟩, trackWrote_of_transmitted htransmitted ?_ ?_⟩
    · rw [herror]
      rfl
    · rintro _ ⟨more, hmore⟩
      cases hmore
  | none =>
    refine ⟨by rintro unit ⟨⟩; rfl, trackWrote_of_transmitted htransmitted ?_ ?_⟩
    · rw [herror]
      rfl
    · intro hsome
      rw [herror] at hsome
      cases hsome

theorem handleEvent_wrote (event : AudioRtpEvent) (context : RtpTaskContext ρ)
    (timeline : RtpMediaTimeline) :
    WroteBy sending .audio (event.publishedAt track.nextSendAt)
      (event.reportedAt context.stream.now) event.payloads track
      (track.handleEvent event context timeline).1 := by
  cases event with
  | message received =>
    cases received with
    | error error => cases error <;> exact wroteBy_quiet rfl rfl (.refl _)
    | ok message =>
      cases message with
      | wake => exact wroteBy_quiet rfl rfl (.refl _)
      | frame session accessUnit mediaTimestamp publishedAt =>
        rw [handleEvent]
        split
        next => exact wroteBy_quiet rfl rfl (.refl _)
        next => exact track.send_wrote _ accessUnit publishedAt _ context
  | silence =>
    have hsame : track.setTimestamp track.rtp.timestamp = track := rfl
    obtain ⟨hunit, frames, hcarries, hwrote⟩ := track.send_wrote track.rtp.timestamp
      AAC_SILENCE_ACCESS_UNIT track.nextSendAt .silence context
    rw [hsame] at hunit hcarries hwrote
    rw [handleEvent]
    dsimp only
    have hsending : ∀ outcome : TrackOutcome (AudioRtpTrack ρ),
        sending (outcome.andThen (fun track => track.silenceSent (context.stream.now 3))).track =
          sending outcome.track := by
      intro outcome
      apply TrackOutcome.andThen_track _ _ sending
      intro track
      rw [silenceSent, sending, sending]
    refine ⟨?_, frames, ?_, ?_⟩
    · rw [TrackOutcome.andThen_sent]
      exact hunit
    · rw [TrackOutcome.andThen_written]
      exact hcarries
    · rw [hsending, TrackOutcome.andThen_result, TrackOutcome.andThen_sent]
      exact hwrote
  | report =>
    refine ⟨by rintro unit ⟨⟩, ?_⟩
    exact wrote_of_sendReport track.sender track.rtp track.rtcp context.key _ _ _ _ _

end AudioRtpTrack

/-! ## The video track -/

def VideoRtpEvent.publishedAt : VideoRtpEvent → Nat
  | .message (.ok (.frame frame)) => frame.publishedAt
  | _ => 0

def VideoRtpEvent.reportedAt (now : Nat → Nat) : VideoRtpEvent → Nat
  | .report => now 0
  | _ => now 2

def VideoRtpEvent.payloads : VideoRtpEvent → List Bytes
  | .message (.ok (.frame frame)) => (h264Payloads frame.accessUnit frame.singleNal).map (·.2)
  | _ => []

namespace VideoRtpTrack

variable {ρ : Type*} (track : VideoRtpTrack ρ)

def sending : TrackSending := ⟨track.rtp, track.rtcp, track.sender.channel⟩

/-- Live frames and placeholders are sent in the same way. -/
theorem send_wrote (timestamp : UInt32) (accessUnit : Bytes) (singleNal batchWrites : Bool)
    (published : Nat) (source : UnitSource) (readAt : Nat) (context : RtpTaskContext ρ) :
    WroteBy sending .video published (context.stream.now 2)
      ((h264Payloads accessUnit singleNal).map (·.2)) track
      ((track.setTimestamp timestamp).send accessUnit singleNal batchWrites ⟨timestamp, published⟩
        source readAt context) := by
  have htransmitted : RtcpReporter.Transmitted track.rtcp
      ⟨track.sender, [], { track.rtp with timestamp }⟩ ⟨timestamp, published⟩
      (context.stream.now 2) context.stream.ntp RTP_VIDEO_SSRC
      ((h264Payloads accessUnit singleNal).map (·.2))
      (track.rtcp.transmit ⟨track.sender, [], { track.rtp with timestamp }⟩
        ⟨timestamp, published⟩ track.rtcpSleep context.key (context.stream.now 2)
        (context.stream.now 3) context.stream.ntp
        (fun s => s.sendH264 accessUnit singleNal batchWrites)) := by
    apply RtcpReporter.transmit_transmitted
    intro started out hout
    exact Sending.sendH264_emits hout
  rw [send]
  dsimp only [setTimestamp]
  generalize track.rtcp.transmit _ _ _ _ _ _ _ _ = t at htransmitted ⊢
  cases herror : t.error with
  | some reason =>
    refine ⟨by rintro unit ⟨⟩, trackWrote_of_transmitted htransmitted ?_ ?_⟩
    · rw [herror]
      rfl
    · rintro _ ⟨more, hmore⟩
      cases hmore
  | none =>
    refine ⟨by rintro unit ⟨⟩; rfl, trackWrote_of_transmitted htransmitted ?_ ?_⟩
    · rw [herror]
      rfl
    · intro hsome
      rw [herror] at hsome
      cases hsome

@[simp] theorem noteFrame_sending (keyframe : Bool) :
    (track.noteFrame keyframe).sending = track.sending := by
  simp only [noteFrame]
  split <;> split <;> rfl

theorem handleEvent_wrote (event : VideoRtpEvent) (context : RtpTaskContext ρ)
    (timeline : RtpMediaTimeline) :
    WroteBy sending .video event.publishedAt (event.reportedAt context.stream.now) event.payloads
      track (track.handleEvent event context timeline).1 := by
  cases event with
  | message received =>
    cases received with
    | error error => cases error <;> exact wroteBy_quiet rfl rfl (.refl _)
    | ok message =>
      cases message with
      | wake => exact wroteBy_quiet rfl rfl (.refl _)
      | frame frame =>
        rw [handleEvent]
        split
        next => exact wroteBy_quiet rfl rfl (.refl _)
        next =>
          split
          next => exact wroteBy_quiet rfl rfl (.refl _)
          next =>
            dsimp only
            have hnoted := track.noteFrame_sending frame.keyframe
            split
            next =>
              refine wroteBy_quiet rfl rfl ?_
              rw [hnoted]
              exact .refl _
            next =>
              obtain ⟨hunit, frames, hcarries, hwrote⟩ :=
                (track.noteFrame frame.keyframe).send_wrote
                (timeline.map context.resyncEpoch frame.mediaTimestamp
                  (track.noteFrame frame.keyframe).clock (context.stream.now 1)).1
                frame.accessUnit frame.singleNal true frame.publishedAt
                (.live frame.session context.resyncEpoch frame.mediaTimestamp)
                (context.stream.now 1) context
              rw [hnoted] at hwrote
              exact ⟨hunit, frames, hcarries, hwrote⟩
  | report =>
    refine ⟨by rintro unit ⟨⟩, ?_⟩
    exact wrote_of_sendReport track.sender track.rtp track.rtcp context.key _ _ _ _ _

/-- The payloads of the access unit that stands in for the state of the video. -/
def placeholderPayloads (placeholders : PlaceholderVideo) (state : VideoStreamState) : List Bytes :=
  ((placeholderAccessUnit placeholders state).map
    (fun frame => (h264Payloads frame false).map (·.2))).getD []

theorem syncState_wrote (placeholders : PlaceholderVideo) (suppressPlaceholders : Bool)
    (context : RtpTaskContext ρ) :
    WroteBy sending .video (context.stream.now 1) (context.stream.now 2)
      (placeholderPayloads placeholders context.stream.channelVideoState) track
      (track.syncState placeholders suppressPlaceholders context) := by
  rw [syncState]
  split
  next => exact wroteBy_quiet rfl rfl (.refl _)
  next =>
    have hchannel : (if context.stream.channelVideoState ≠ .video then
        { track.sender with packet := [] } else track.sender).channel = track.sender.channel := by
      split <;> rfl
    dsimp only
    split
    next =>
      refine wroteBy_quiet rfl rfl ⟨rfl, hchannel, rfl, rfl, rfl⟩
    next =>
      split
      next => exact wroteBy_quiet rfl rfl ⟨rfl, hchannel, rfl, rfl, rfl⟩
      next frame hframe =>
        obtain ⟨hunit, frames, hcarries, hwrote⟩ := VideoRtpTrack.send_wrote
          { track with
            seenKeyframe := false
            lastState := some context.stream.channelVideoState
            sender := if context.stream.channelVideoState ≠ .video then
              { track.sender with packet := [] } else track.sender }
          (track.clock.timestamp (context.stream.now 0)) frame false false (context.stream.now 1)
          .placeholder (context.stream.now 0) context
        refine ⟨hunit, frames, hcarries, ?_⟩
        have hsending : sending { track with
            seenKeyframe := false
            lastState := some context.stream.channelVideoState
            sender := if context.stream.channelVideoState ≠ .video then
              { track.sender with packet := [] } else track.sender } = track.sending := by
          rw [sending, hchannel]
          rfl
        rw [hsending] at hwrote
        rw [placeholderPayloads, hframe]
        exact hwrote

end VideoRtpTrack

/-! ## The task -/

namespace MediaTask

variable {ρ : Type*}

def sending (task : MediaTask ρ) : RtspTrack → Option TrackSending
  | .audio => task.audio.map AudioRtpTrack.sending
  | .video => task.video.map VideoRtpTrack.sending

/-- When the media of a step was published: silence at its deadline, a placeholder when it is
sent. -/
def publishedAt (task : MediaTask ρ) (view : ChannelView ρ) : TaskAction → Nat
  | .next => view.now 1
  | .audio event => event.publishedAt ((task.audio.map AudioRtpTrack.nextSendAt).getD 0)
  | .video event => event.publishedAt

/-- The payloads of the access unit that a step is about. -/
def payloads (config : MediaTaskConfig) (view : ChannelView ρ) : TaskAction → List Bytes
  | .next => VideoRtpTrack.placeholderPayloads config.placeholders view.channelVideoState
  | .audio event => event.payloads
  | .video event => event.payloads

def reportedAt (view : ChannelView ρ) : TaskAction → Nat
  | .next => view.now 2
  | .audio event => event.reportedAt view.now
  | .video event => event.reportedAt view.now

theorem exists_ok_of_pointAfter (result : Except String Bool) (h : pointAfter result ≠ .ended) :
    ∃ more, result = .ok more := by
  cases result with
  | error reason => exact absurd rfl h
  | ok more => exact ⟨more, rfl⟩

/-- What a step writes, for the one track that it is about. -/
inductive Wrote (config : MediaTaskConfig) (task : MediaTask ρ) (view : ChannelView ρ)
    (action : TaskAction) (outcome : TaskOutcome ρ) (frames : List (UInt8 × RtpFrame)) : Prop
  | quiet (hsent : outcome.sent = none) (hframes : frames = [])
      (hsending : outcome.task.sending = task.sending)
  | track (track : RtspTrack) {before after : TrackSending}
      (hbefore : task.sending track = some before)
      (hafter : outcome.task.sending track = some after)
      (hother : ∀ other, other ≠ track → outcome.task.sending other = task.sending other)
      (hunit : ∀ unit, outcome.sent = some unit → unit.track = track)
      (hwrote : TrackWrote track.ssrc (task.publishedAt view action) (reportedAt view action)
        (sentPayloads outcome.sent (payloads config view action)) before after frames
        (outcome.task.point ≠ .ended))

variable {config : MediaTaskConfig} {task : MediaTask ρ} {view : ChannelView ρ}
variable {action : TaskAction} {outcome : TaskOutcome ρ}

theorem sending_eq_of_map {task' : MediaTask ρ}
    (haudio : task'.audio.map AudioRtpTrack.sending = task.audio.map AudioRtpTrack.sending)
    (hvideo : task'.video.map VideoRtpTrack.sending = task.video.map VideoRtpTrack.sending) :
    task'.sending = task.sending := by
  funext track
  cases track with
  | audio => exact haudio
  | video => exact hvideo

theorem wrote_of_performed (h : Performed config task view action outcome) :
    ∃ frames, Carries outcome.written frames ∧ Wrote config task view action outcome frames := by
  cases h with
  | epoch =>
    refine ⟨[], .nil, .quiet rfl rfl ?_⟩
    show (task.loadEpoch view).sending = task.sending
    rw [loadEpoch]
    split
    next => exact sending_eq_of_map (Option.map_map _ _ _) (Option.map_map _ _ _)
    next => rfl
  | backlog =>
    refine ⟨[], .nil, .quiet rfl rfl (sending_eq_of_map ?_ rfl)⟩
    show (task.audio.map _).map _ = _
    rw [Option.map_map]
    congr 1
    funext track
    show (track.dropBacklog view).sending = track.sending
    rw [AudioRtpTrack.dropBacklog]
    split <;> rfl
  | state =>
    rw [syncState]
    split
    next => exact ⟨[], .nil, .quiet rfl rfl rfl⟩
    next track hvideo =>
      obtain ⟨hunit, frames, hcarries, hwrote⟩ := track.syncState_wrote config.placeholders
        config.suppressPlaceholders (task.context config view)
      refine ⟨frames, hcarries, .track .video (congrArg (Option.map VideoRtpTrack.sending) hvideo)
        rfl ?_ hunit (hwrote.weaken ?_)⟩
      · intro other hother
        cases other with
        | audio => rfl
        | video => exact absurd rfl hother
      · intro hrunning
        dsimp only at hrunning
        split at hrunning
        next => exact absurd rfl hrunning
        next more hmore => exact ⟨more, hmore⟩
  | streamer =>
    refine ⟨[], .nil, .quiet rfl rfl ?_⟩
    show (task.loadStreamer view).sending = task.sending
    rw [loadStreamer]
    split <;> rfl
  | audio _ track event haudio =>
    obtain ⟨hunit, frames, hcarries, hwrote⟩ :=
      track.handleEvent_wrote event (task.context config view)
      task.timeline
    have hpublished : task.publishedAt view (.audio event) =
        event.publishedAt track.nextSendAt := by
      rw [publishedAt, haudio]
      rfl
    refine ⟨frames, hcarries, .track .audio (congrArg (Option.map AudioRtpTrack.sending) haudio)
      rfl ?_ hunit ?_⟩
    · intro other hother
      cases other with
      | audio => exact absurd rfl hother
      | video => rfl
    · rw [hpublished]
      exact hwrote.weaken (exists_ok_of_pointAfter _)
  | video _ track event hvideo =>
    obtain ⟨hunit, frames, hcarries, hwrote⟩ :=
      track.handleEvent_wrote event (task.context config view)
      task.timeline
    refine ⟨frames, hcarries, .track .video (congrArg (Option.map VideoRtpTrack.sending) hvideo)
      rfl ?_ hunit (hwrote.weaken (exists_ok_of_pointAfter _))⟩
    intro other hother
    cases other with
    | audio => rfl
    | video => exact absurd rfl hother

end MediaTask

/-! ## Runs -/

/-- A run with what a client has read from its bytes, and the payloads of the access units that
were sent. -/
structure MediaLog (ρ : Type*) where
  run : MediaRun ρ
  frames : List MediaFrame := []
  units : List (RtspTrack × List Bytes) := []

namespace MediaLog

variable {ρ : Type*}

/-- The log takes over what a step has written and sent. -/
def record (config : MediaTaskConfig) (log : MediaLog ρ) (action : TaskAction)
    (view : ChannelView ρ) (outcome : TaskOutcome ρ) : MediaLog ρ where
  run := log.run.record outcome view
  frames := log.frames ++ ((receivedFrames outcome.written.flatten).getD []).map
    (.note (log.run.task.publishedAt view action) (MediaTask.reportedAt view action))
  units := log.units ++ outcome.sent.toList.map (fun unit =>
    (unit.track, MediaTask.payloads config view action))

def step (config : MediaTaskConfig) (log : MediaLog ρ) :
    TaskAction × ChannelView ρ → Option (MediaLog ρ)
  | (action, view) => (log.run.task.step config action view).map (log.record config action view)

def system (config : MediaTaskConfig) (start : MediaRun ρ) :
    System (MediaLog ρ) (TaskAction × ChannelView ρ) where
  start := { run := start }
  step := step config

/-- The log changes nothing in the run. -/
theorem run_reachable {config : MediaTaskConfig} {start : MediaRun ρ} {log : MediaLog ρ}
    (h : (system config start).Reachable log) :
    (MediaRun.system config start).Reachable log.run := by
  refine h.simulate MediaLog.run rfl ?_
  rintro log ⟨action, view⟩ log' hstep
  right
  refine ⟨(action, view), ?_⟩
  obtain ⟨outcome, houtcome, rfl⟩ := Option.map_eq_some_iff.mp hstep
  exact Option.map_eq_some_iff.mpr ⟨outcome, houtcome, rfl⟩

/-- The frames of one track. -/
def trackFrames (log : MediaLog ρ) (track : RtspTrack) : List MediaFrame :=
  log.frames.filter (fun frame => frame.content.ssrc = track.ssrc)

/-- The payloads that were sent on one track. -/
def trackPayloads (log : MediaLog ρ) (track : RtspTrack) : List Bytes :=
  (log.units.filter (fun unit => unit.1 = track)).flatMap (·.2)

end MediaLog

/-- What a track has counted is what is on the wire. -/
structure TrackSending.Counts (announced : UInt16) (clockRate : Nat) (ssrc : UInt32)
    (frames : List MediaFrame) (sending : TrackSending) : Prop where
  ssrc : sending.rtcp.ssrc = ssrc
  clockRate : sending.rtcp.clockRate = clockRate
  sequence : sending.rtp.sequence = announced + UInt16.ofNat (packetsIn frames).length
  packetCount : sending.rtp.packetCount = UInt32.ofNat (packetsIn frames).length
  octetCount : sending.rtp.octetCount = UInt32.ofNat (octetsIn frames)
  media : sending.rtcp.mediaTime =
    (packetsIn frames).getLast?.map (fun last => ⟨last.1.timestamp, last.2⟩)

section

variable {announced : UInt16} {clockRate : Nat} {ssrc : UInt32} {frames : List MediaFrame}
variable {before after : TrackSending} {published reported : Nat}

theorem TrackSending.Counts.keep (h : before.Counts announced clockRate ssrc frames)
    (hkeeps : before.Keeps after) : after.Counts announced clockRate ssrc frames where
  ssrc := by rw [hkeeps.rtcp, h.ssrc]
  clockRate := by rw [hkeeps.rtcp, h.clockRate]
  sequence := hkeeps.sequence.trans h.sequence
  packetCount := hkeeps.packetCount.trans h.packetCount
  octetCount := hkeeps.octetCount.trans h.octetCount
  media := by rw [hkeeps.rtcp, h.media]

/-- A report changes no count. -/
theorem TrackSending.Counts.report (h : before.Counts announced clockRate ssrc frames)
    (channel : UInt8) (report : SenderReport) (instant : Nat) :
    before.Counts announced clockRate ssrc (frames ++ [⟨channel, .report report, instant⟩]) := by
  have hnone : packetsIn [⟨channel, .report report, instant⟩] = [] := rfl
  refine ⟨h.ssrc, h.clockRate, ?_, ?_, ?_, ?_⟩
  · rw [packetsIn_append, hnone, List.append_nil]
    exact h.sequence
  · rw [packetsIn_append, hnone, List.append_nil]
    exact h.packetCount
  · have hoctets : octetsIn [⟨channel, .report report, instant⟩] = 0 := rfl
    rw [octetsIn_append, hoctets, Nat.add_zero]
    exact h.octetCount
  · rw [packetsIn_append, hnone, List.append_nil]
    exact h.media

theorem packetsIn_note_packetFrames (channel : UInt8) (packets : List RtpPacket) :
    packetsIn ((packetFrames channel packets).map (.note published reported)) =
      packets.map (fun packet => (packet, published)) := by
  induction packets with
  | nil => rfl
  | cons packet packets ih => exact congrArg _ ih

/-- The packets of a unit are numbered on from the packets before them. -/
theorem Accounted.packets (h : Accounted announced clockRate frames) (hne : frames ≠ [])
    (channel : UInt8) (packets : List RtpPacket)
    (hnumbered : ∀ i packet, packets[i]? = some packet →
      packet.sequence = announced + UInt16.ofNat (packetsIn frames).length + UInt16.ofNat i) :
    Accounted announced clockRate
      (frames ++ (packetFrames channel packets).map (.note published reported)) := by
  induction packets generalizing frames with
  | nil =>
    rw [packetFrames, List.map_nil, List.map_nil, List.append_nil]
    exact h
  | cons packet packets ih =>
    have hfirst : packet.sequence = announced + UInt16.ofNat (packetsIn frames).length := by
      have hzero := hnumbered 0 packet rfl
      rw [hzero]
      simp
    have hnext := h.packet hne channel published hfirst
    have hrest := ih hnext (by simp) ?_
    · rw [List.append_assoc] at hrest
      exact hrest
    · intro i other hi
      rw [hnumbered (i + 1) other hi]
      simp only [packetsIn_append, List.length_append]
      show _ = announced + UInt16.ofNat ((packetsIn frames).length + 1) + UInt16.ofNat i
      rw [UInt16.ofNat_add, UInt16.ofNat_add]
      simp only [UInt16.add_assoc]
      rw [UInt16.add_comm (UInt16.ofNat i)]

theorem TrackSending.Counts.sent (h : before.Counts announced clockRate ssrc frames)
    (channel : UInt8) {timestamp : UInt32} {packets : List RtpPacket}
    (hcounted : Counted { before.rtp with timestamp } after.rtp ssrc packets)
    (hrtcp : after.rtcp = before.rtcp.record ⟨timestamp, published⟩) :
    after.Counts announced clockRate ssrc
      (frames ++ (packetFrames channel packets).map (.note published reported)) := by
  have hpackets : packetsIn (frames ++ (packetFrames channel packets).map
      (.note published reported)) =
      packetsIn frames ++ packets.map (fun packet => (packet, published)) := by
    rw [packetsIn_append, packetsIn_note_packetFrames]
  have hoctets : octetsIn (frames ++ (packetFrames channel packets).map
      (.note published reported)) =
      octetsIn frames + (packets.map (·.payload.length)).sum := by
    rw [octetsIn_append]
    congr 2
    rw [octetsIn, packetsIn_note_packetFrames, List.map_map]
    rfl
  refine ⟨?_, ?_, ?_, ?_, ?_, ?_⟩
  · rw [hrtcp]
    exact h.ssrc
  · rw [hrtcp]
    exact h.clockRate
  · rw [hpackets, List.length_append, List.length_map, UInt16.ofNat_add, hcounted.sequence,
      ← UInt16.add_assoc]
    exact congrArg (· + _) h.sequence
  · rw [hpackets, List.length_append, List.length_map, UInt32.ofNat_add, hcounted.packetCount]
    exact congrArg (· + _) h.packetCount
  · rw [hoctets, UInt32.ofNat_add, hcounted.octetCount]
    exact congrArg (· + _) h.octetCount
  · obtain ⟨front, last, rfl⟩ := (List.eq_nil_or_concat' packets).resolve_left hcounted.nonempty
    have hlast := (hcounted.numbered front.length last (by simp)).2.1
    rw [hpackets, hrtcp, List.map_append, ← List.append_assoc, List.map_singleton,
      List.getLast?_append_cons]
    simp [RtcpReporter.record, hlast]

theorem frames_ne_nil_of_started (h : before.Counts announced clockRate ssrc frames)
    (hstarted : before.rtcp.started = true) : frames ≠ [] := by
  rintro rfl
  rw [RtcpReporter.started, h.media] at hstarted
  cases hstarted

/-- The packets of a statement are those of the access unit that it has sent. -/
theorem payloads_of_wrote {sent : List Bytes} {received : List (UInt8 × RtpFrame)} {running : Prop}
    (hwrote : TrackWrote ssrc published reported sent before after received running) :
    (packetsIn (received.map (.note published reported))).map (fun packet => packet.1.payload) =
      sent := by
  cases hwrote with
  | quiet hsent _ hframes | report hsent _ _ _ _ hframes | failed hsent _ _ _ _ _ _ _ hframes =>
    rw [hframes, hsent]
    rfl
  | sent timestamp packets ntp hpayloads _ _ _ hframes =>
    have hpackets : packetsIn (received.map (.note published reported)) =
        packets.map (fun packet => (packet, published)) := by
      rw [hframes, List.map_append, packetsIn_append, packetsIn_note_packetFrames]
      split <;> rfl
    rw [hpackets, List.map_map]
    exact hpayloads

/-- The accounts after a statement of the loop. -/
theorem accounted_of_wrote {sent : List Bytes} {received : List (UInt8 × RtpFrame)} {running : Prop}
    (haccounted : Accounted announced clockRate frames)
    (hcounts : before.Counts announced clockRate ssrc frames)
    (hstart : before.rtcp.mediaTime = none → frames = [])
    (hwrote : TrackWrote ssrc published reported sent before after received running) :
    Accounted announced clockRate (frames ++ received.map (.note published reported)) ∧
      (running → after.Counts announced clockRate ssrc
          (frames ++ received.map (.note published reported)) ∧
        (after.rtcp.mediaTime = none →
          frames ++ received.map (.note published reported) = [])) := by
  cases hwrote with
  | quiet _ hkeeps hframes =>
    rw [hframes, List.map_nil, List.append_nil]
    refine ⟨haccounted, fun _ => ⟨hcounts.keep hkeeps, ?_⟩⟩
    rw [hkeeps.rtcp]
    exact hstart
  | report _ hkeeps mediaTime ntp hmedia hframes =>
    rw [hframes]
    refine ⟨haccounted.report _ hcounts.packetCount hcounts.octetCount ?_, ?_⟩
    · intro packet publishedAt hlast
      have hsome := hcounts.media
      rw [hlast, hmedia] at hsome
      obtain rfl := Option.some.inj hsome
      rw [← hcounts.clockRate]
      rfl
    · intro _
      refine ⟨(hcounts.keep hkeeps).report _ _ _, ?_⟩
      intro hnone
      rw [hkeeps.rtcp, hmedia] at hnone
      cases hnone
  | failed _ hkeeps report hended hmedia hssrc hpackets hoctets hframes =>
    have hnil := hstart hmedia
    rw [hframes]
    refine ⟨?_, fun hrunning => absurd hrunning hended⟩
    refine haccounted.report _ (hpackets.trans hcounts.packetCount)
      (hoctets.trans hcounts.octetCount) ?_
    intro packet publishedAt hlast
    rw [hnil] at hlast
    cases hlast
  | sent timestamp packets ntp _ hcounted hchannel hrtcp hframes =>
    have hmedia : after.rtcp.mediaTime ≠ none := by
      rw [hrtcp]
      exact Option.some_ne_none _
    have hsequence : ∀ (earlier : List MediaFrame),
        (packetsIn earlier).length = (packetsIn frames).length → ∀ i packet,
          packets[i]? = some packet →
          packet.sequence = announced + UInt16.ofNat (packetsIn earlier).length + UInt16.ofNat i := by
      intro earlier hlength i packet hi
      rw [hlength, ← hcounts.sequence]
      exact (hcounted.numbered i packet hi).1
    rw [hframes]
    split
    next hstarted =>
      rw [List.nil_append]
      have hne := frames_ne_nil_of_started hcounts hstarted
      refine ⟨haccounted.packets hne _ _ (hsequence frames rfl), ?_⟩
      intro _
      exact ⟨hcounts.sent _ hcounted hrtcp, fun hnone => absurd hnone hmedia⟩
    next hnew =>
      have hnil := hstart (Option.not_isSome_iff_eq_none.mp hnew)
      rw [List.map_append, ← List.append_assoc]
      have hfirst : Accounted announced clockRate (frames ++
          (RtcpReporter.reportFrames before.channel (before.rtcp.report ⟨timestamp, published⟩
            before.rtp reported ntp)).map (.note published reported)) := by
        refine haccounted.report _ hcounts.packetCount hcounts.octetCount ?_
        intro packet publishedAt hlast
        rw [hnil] at hlast
        cases hlast
      have hcounts' := hcounts.report (saturatingSucc before.channel)
        (before.rtcp.report ⟨timestamp, published⟩ before.rtp reported ntp) reported
      refine ⟨hfirst.packets (by simp [RtcpReporter.reportFrames]) _ _ (hsequence _ ?_), ?_⟩
      · simp [RtcpReporter.reportFrames, packetsIn, MediaFrame.note]
      · intro _
        exact ⟨hcounts'.sent _ hcounted hrtcp, fun hnone => absurd hnone hmedia⟩

end

/-! ## Every run -/

namespace MediaLog

variable {ρ : Type*} {config : MediaTaskConfig} {announced : RtspTrack → UInt16}
variable {log log' : MediaLog ρ}

/-- The bytes of a run are its frames, and the accounts of each track agree with the state
of the task as long as it runs. -/
structure Balanced (announced : RtspTrack → UInt16) (log : MediaLog ρ) : Prop where
  carries : Carries log.run.written (log.frames.map MediaFrame.received)
  payloads : ∀ track, (packetsIn (log.trackFrames track)).map (fun packet => packet.1.payload) =
    log.trackPayloads track
  accounted : ∀ track, Accounted (announced track) track.clockRate (log.trackFrames track)
  counts : log.run.task.point ≠ .ended → ∀ track sending,
    log.run.task.sending track = some sending →
      sending.Counts (announced track) track.clockRate track.ssrc (log.trackFrames track) ∧
      (sending.rtcp.mediaTime = none → log.trackFrames track = [])

theorem ssrc_injective {track other : RtspTrack} (h : track.ssrc = other.ssrc) : track = other := by
  cases track <;> cases other <;> first | rfl | exact absurd h (by decide)

variable {frames : List (UInt8 × RtpFrame)} {published reported : Nat}

/-- The frames of one track are all counted for it, and for no other track. -/
theorem filter_note {track other : RtspTrack} (h : ∀ frame ∈ frames, frame.2.ssrc = track.ssrc) :
    (frames.map (MediaFrame.note published reported)).filter
        (fun frame => frame.content.ssrc = other.ssrc) =
      if other = track then frames.map (.note published reported) else [] := by
  split
  next hsame =>
    apply List.filter_eq_self.mpr
    intro noted hnoted
    obtain ⟨frame, hframe, rfl⟩ := List.mem_map.mp hnoted
    rw [hsame]
    exact decide_eq_true (h frame hframe)
  next hother =>
    apply List.filter_eq_nil_iff.mpr
    intro noted hnoted
    obtain ⟨frame, hframe, rfl⟩ := List.mem_map.mp hnoted
    have hssrc : (MediaFrame.note published reported frame).content.ssrc = track.ssrc :=
      h frame hframe
    rw [hssrc, decide_eq_true_eq]
    exact fun hsame => hother (ssrc_injective hsame).symm

/-- A sent access unit counts for its own track. -/
theorem filter_units {track : RtspTrack} {sent : Option SentUnit} (payloads : List Bytes)
    (h : ∀ unit, sent = some unit → unit.track = track) (other : RtspTrack) :
    ((sent.toList.map (fun unit => (unit.track, payloads))).filter
        (fun unit => unit.1 = other)).flatMap (·.2) =
      if other = track then sentPayloads sent payloads else [] := by
  cases sent with
  | none => simp [sentPayloads]
  | some unit =>
    rw [← h unit rfl]
    by_cases hsame : other = unit.track
    · simp [hsame, sentPayloads]
    · simp [hsame, Ne.symm hsame]

/-- A task starts with the counts of its tracks. -/
theorem balanced_start {audio video : Option (TrackStart ρ)} (playStartedAt resyncEpoch : Nat)
    (now : Nat → Nat) (haudio : ∀ start, audio = some start → start.rtp = {})
    (hvideo : ∀ start, video = some start → start.rtp = {}) :
    Balanced (fun _ => ({} : RtpState).sequence)
      ({ run := .new audio video playStartedAt resyncEpoch now } : MediaLog ρ) where
  carries := .nil
  payloads track := rfl
  accounted track := .nil
  counts _ track sending hsending := by
    cases track with
    | audio =>
      obtain ⟨audioTrack, haudioTrack, rfl⟩ := Option.map_eq_some_iff.mp hsending
      obtain ⟨start, hstart, rfl⟩ := Option.map_eq_some_iff.mp haudioTrack
      refine ⟨⟨rfl, rfl, ?_, ?_, ?_, rfl⟩, fun _ => rfl⟩
      · exact congrArg RtpState.sequence (haudio start hstart)
      · exact congrArg RtpState.packetCount (haudio start hstart)
      · exact congrArg RtpState.octetCount (haudio start hstart)
    | video =>
      obtain ⟨videoTrack, hvideoTrack, rfl⟩ := Option.map_eq_some_iff.mp hsending
      obtain ⟨start, hstart, rfl⟩ := Option.map_eq_some_iff.mp hvideoTrack
      refine ⟨⟨rfl, rfl, ?_, ?_, ?_, rfl⟩, fun _ => rfl⟩
      · exact congrArg RtpState.sequence (hvideo start hstart)
      · exact congrArg RtpState.packetCount (hvideo start hstart)
      · exact congrArg RtpState.octetCount (hvideo start hstart)

/-- A step of the task keeps the accounts of the track that it is about, and leaves the other
one alone. -/
theorem Balanced.step {label : TaskAction × ChannelView ρ} (h : log.Balanced announced)
    (hstep : log.step config label = some log') : log'.Balanced announced := by
  obtain ⟨action, view⟩ := label
  obtain ⟨outcome, houtcome, rfl⟩ := Option.map_eq_some_iff.mp hstep
  have hperformed := MediaTask.performed_of_step houtcome
  have hrunning := MediaTask.point_of_performed hperformed
  obtain ⟨frames, hcarries, hwrote⟩ := MediaTask.wrote_of_performed hperformed
  have hwritten : Carries (log.run.written ++ outcome.written)
      ((log.frames ++ frames.map (MediaFrame.note (log.run.task.publishedAt view action)
        (MediaTask.reportedAt view action))).map MediaFrame.received) := by
    rw [List.map_append, List.map_map]
    have hsame : (MediaFrame.received ∘ MediaFrame.note (log.run.task.publishedAt view action)
        (MediaTask.reportedAt view action)) = id := rfl
    rw [hsame, List.map_id]
    exact h.carries.append hcarries
  rw [record, hcarries.received, Option.getD_some]
  cases hwrote with
  | quiet hsent hframes hsending =>
    rw [hframes, List.map_nil, List.append_nil] at hwritten ⊢
    rw [hsent, Option.toList_none, List.map_nil, List.append_nil]
    refine ⟨hwritten, h.payloads, h.accounted, ?_⟩
    intro _ track sending htrack
    have hbefore : outcome.task.sending track = some sending := htrack
    rw [hsending] at hbefore
    exact h.counts hrunning track sending hbefore
  | track track hbefore hafter hother hunit hwrote =>
    obtain ⟨hcounts, hstart⟩ := h.counts hrunning track _ hbefore
    have hsplit := hwrote.ssrc_eq hcounts.ssrc
    obtain ⟨haccounted, hcounted⟩ :=
      accounted_of_wrote (h.accounted track) hcounts hstart hwrote
    refine ⟨hwritten, ?_, ?_, ?_⟩
    · intro other
      rw [trackFrames, List.filter_append, filter_note hsplit, trackPayloads, List.filter_append,
        List.flatMap_append, filter_units _ hunit, packetsIn_append, List.map_append]
      refine congrArg₂ _ (h.payloads other) ?_
      split
      next => exact payloads_of_wrote hwrote
      next => rfl
    · intro other
      rw [trackFrames, List.filter_append, filter_note hsplit]
      split
      next hsame =>
        subst hsame
        exact haccounted
      next =>
        rw [List.append_nil]
        exact h.accounted other
    · intro hgoing other sending hsending
      rw [trackFrames, List.filter_append, filter_note hsplit]
      have hsending' : outcome.task.sending other = some sending := hsending
      split
      next hsame =>
        subst hsame
        rw [hafter, Option.some.injEq] at hsending'
        subst hsending'
        exact hcounted hgoing
      next hne =>
        rw [hother other hne] at hsending'
        rw [List.append_nil]
        exact h.counts hrunning other sending hsending'

/-- The accounts of a run from its start on. -/
theorem Balanced.reachable {start : MediaRun ρ}
    (hstart : Balanced announced ({ run := start } : MediaLog ρ))
    (h : (system config start).Reachable log) : log.Balanced announced :=
  h.invariant hstart (fun _ _ _ hbalanced hstep => hbalanced.step hstep)

end MediaLog

end VRCStreamer
