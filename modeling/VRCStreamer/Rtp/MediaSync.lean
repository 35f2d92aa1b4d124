import Mathlib.Algebra.Order.Ring.Rat
import Mathlib.Tactic.Linarith
import VRCStreamer.Media.Timestamps
import VRCStreamer.Rtp.Timeline

/-!
# Audio and video in sync

From the times at the publisher to the RTP timestamps of a listener: a session unwraps
the two tracks each on its own, and a listener places both on one line. Video may lose
wraps on the way, which the listener cannot see, since RTP timestamps wrap as well.
-/

namespace VRCStreamer

/-- A frame at its true time, in ticks of its track's clock since the publisher's start. -/
structure SourceFrame where
  track : RtspTrack
  time : Nat
  deriving DecidableEq

/-- The times of the frames of a track. -/
def timesOf (track : RtspTrack) (frames : List SourceFrame) : List Nat :=
  (frames.filter (fun frame => frame.track = track)).map SourceFrame.time

/-! ## The publisher's session -/

/-- The two normalizers of a session. -/
def newTimestamps (track : RtspTrack) : MediaTimestampNormalizer := .new track.clockRate

/-- The frames of a session with their media timestamps. The client sends the low 32 bits
of each time. -/
def publishFrames (timestamps : RtspTrack → MediaTimestampNormalizer) :
    List SourceFrame → List (SourceFrame × Nat)
  | [] => []
  | frame :: frames =>
    let normalized := (timestamps frame.track).normalize (UInt32.ofNat frame.time)
    (frame, normalized.1) ::
      publishFrames (Function.update timestamps frame.track normalized.2) frames

/-- A track's normalizer sees the times of that track only. -/
theorem mem_normalizeAll_of_mem_publishFrames {timestamps : RtspTrack → MediaTimestampNormalizer}
    {frames : List SourceFrame} {p : SourceFrame × Nat} (hp : p ∈ publishFrames timestamps frames) :
    (p.1.time, p.2) ∈ (timestamps p.1.track).normalizeAll (timesOf p.1.track frames) := by
  induction frames generalizing timestamps with
  | nil => simp [publishFrames] at hp
  | cons frame frames ih =>
    obtain rfl | hp := List.mem_cons.mp hp
    · rw [timesOf, List.filter_cons_of_pos (by simp)]
      exact List.mem_cons_self
    · have hlater := ih hp
      by_cases htrack : frame.track = p.1.track
      · rw [← htrack, Function.update_self] at hlater
        rw [timesOf, ← htrack, List.filter_cons_of_pos (by simp)]
        exact List.mem_cons_of_mem _ hlater
      · rw [Function.update_of_ne (Ne.symm htrack)] at hlater
        rw [timesOf, List.filter_cons_of_neg (by simpa using htrack)]
        exact hlater

/-- No frame of a track comes before an earlier one. Audio starts below the first wrap and
leaves no gap of half a wrap; video starts at any time and leaves gaps of any length. -/
structure SourceTimes (frames : List SourceFrame) : Prop where
  audioStart : ∀ time ∈ (timesOf .audio frames).head?, time < 2 ^ 32
  audio : (timesOf .audio frames).IsChain
    (fun before after => before ≤ after ∧ after < before + 2 ^ 31)
  video : (timesOf .video frames).IsChain (· ≤ ·)
  bound : ∀ frame ∈ frames, frame.time * MEDIA_CLOCK_RATE / frame.track.clockRate < 2 ^ 45

namespace SourceTimes

variable {frames : List SourceFrame} {time mediaTimestamp : Nat}

theorem time_lt (h : SourceTimes frames) (track : RtspTrack) :
    ∀ time ∈ timesOf track frames, time < 2 ^ 63 := by
  intro time htime
  obtain ⟨frame, hframe, rfl⟩ := List.mem_map.mp htime
  have hbound := h.bound frame (List.mem_of_mem_filter hframe)
  have hrate : frame.track.clockRate ≤ 2 ^ 17 := by
    cases frame.track <;> decide
  have hpos : 0 < frame.track.clockRate := by
    cases frame.track <;> decide
  rw [Nat.div_lt_iff_lt_mul hpos] at hbound
  have hmul : 2 ^ 45 * frame.track.clockRate ≤ 2 ^ 45 * 2 ^ 17 := Nat.mul_le_mul_left _ hrate
  simp only [MEDIA_CLOCK_RATE, AAC_SAMPLE_RATE] at hbound
  omega

theorem audio_published (h : SourceTimes frames)
    (hp : (⟨.audio, time⟩, mediaTimestamp) ∈ publishFrames newTimestamps frames) :
    mediaTimestamp = time := by
  have hnormalized := mem_normalizeAll_of_mem_publishFrames hp
  have hexact := MediaTimestampNormalizer.normalizeAll_exact (le_refl AAC_SAMPLE_RATE)
    h.audioStart h.audio (h.time_lt .audio) _ hnormalized
  exact hexact.trans (Nat.mul_div_cancel time (by decide))

theorem video_published (h : SourceTimes frames)
    (hp : (⟨.video, time⟩, mediaTimestamp) ∈ publishFrames newTimestamps frames) :
    MediaTimestampNormalizer.Trails H264_CLOCK_RATE (time, mediaTimestamp) :=
  MediaTimestampNormalizer.normalizeAll_trails (by decide) h.video (h.time_lt .video) _
    (mem_normalizeAll_of_mem_publishFrames hp)

end SourceTimes

/-! ## The listener's task -/

/-- Two tick counts differ by at most three, up to wraps of the first one. -/
def NearTicks (rtp : UInt32) (ticks : ℚ) : Prop :=
  ∃ unwrapped : Int, (rtp.toNat : Int) ≡ unwrapped [ZMOD 2 ^ 32] ∧ |(unwrapped : ℚ) - ticks| ≤ 3

/-- The RTP timestamp of a frame for an offset between the clocks: exact for audio, and
within three ticks for video. -/
def InSync (base : RtspTrack → UInt32) (offset : Int) (frame : SourceFrame) (rtp : UInt32) : Prop :=
  match frame.track with
  | .audio => (rtp.toNat : Int) ≡ (base .audio).toNat + offset + frame.time [ZMOD 2 ^ 32]
  | .video => NearTicks rtp ((base .video).toNat + offset * 15 / 8 + frame.time)

variable {startedAt : Nat} {base : RtspTrack → UInt32} {offset : Int}

theorem trackClock_timestampAt (startedAt : Nat) (base : RtspTrack → UInt32) (track : RtspTrack)
    {media : Int} (hlow : -2 ^ 46 ≤ media) (hhigh : media ≤ 2 ^ 46) :
    (((trackClock startedAt base track).timestampAt media).toNat : Int) ≡
      (base track).toNat + (media * track.clockRate).tdiv MEDIA_CLOCK_RATE [ZMOD 2 ^ 32] := by
  have hrate : (track.clockRate : Int) = 48000 ∨ (track.clockRate : Int) = 90000 := by
    cases track
    · exact .inl rfl
    · exact .inr rfl
  rw [RtpClock.timestampAt_eq]
  · exact RtpClock.toNat_add_ofInt _ _
  · show _ ≤ media * (track.clockRate : Int)
    obtain hrate | hrate := hrate <;> rw [hrate] <;> omega
  · show media * (track.clockRate : Int) < _
    obtain hrate | hrate := hrate <;> rw [hrate] <;> omega

/-- Both conversions of a video time round, but by less than three ticks together. -/
theorem video_rounding (offset : Int) (unwrapped : Nat) :
    -24 ≤ 8 * ((offset + (unwrapped * 48000 / 90000 : Nat)) * 90000).tdiv 48000 -
        8 * (unwrapped : Int) - 15 * offset ∧
      8 * ((offset + (unwrapped * 48000 / 90000 : Nat)) * 90000).tdiv 48000 -
        8 * (unwrapped : Int) - 15 * offset ≤ 24 := by
  generalize hmedia : unwrapped * 48000 / 90000 = media
  have hfloor : 15 * media ≤ 8 * unwrapped ∧ 8 * unwrapped < 15 * media + 15 := by omega
  generalize hticks : ((offset + (media : Nat)) * 90000).tdiv 48000 = ticks
  have hround := Int.mul_tdiv_add_tmod ((offset + (media : Nat)) * 90000) 48000
  have hlow := Int.lt_tmod_of_pos ((offset + (media : Nat)) * 90000) (b := 48000) (by decide)
  have hhigh := Int.tmod_lt_of_pos ((offset + (media : Nat)) * 90000) (b := 48000) (by decide)
  rw [hticks] at hround
  omega

theorem inSync_audio (hlow : -2 ^ 45 ≤ offset) (hhigh : offset ≤ 2 ^ 45) {time : Nat}
    (htime : time < 2 ^ 45) :
    InSync base offset ⟨.audio, time⟩
      ((trackClock startedAt base .audio).timestampAt (offset + time)) := by
  have hmod := trackClock_timestampAt startedAt base .audio
    (show -2 ^ 46 ≤ offset + time by omega) (by omega)
  have hcancel : ((offset + time) * (RtspTrack.clockRate .audio : Nat)).tdiv MEDIA_CLOCK_RATE =
      offset + time := Int.mul_tdiv_cancel _ (by decide)
  rw [hcancel, ← Int.add_assoc] at hmod
  exact hmod

theorem inSync_video (hlow : -2 ^ 45 ≤ offset) (hhigh : offset ≤ 2 ^ 45) {time mediaTimestamp : Nat}
    (htrails : MediaTimestampNormalizer.Trails H264_CLOCK_RATE (time, mediaTimestamp))
    (hmedia : mediaTimestamp < 2 ^ 45) :
    InSync base offset ⟨.video, time⟩
      ((trackClock startedAt base .video).timestampAt (offset + mediaTimestamp)) := by
  have hmod := trackClock_timestampAt startedAt base .video
    (show -2 ^ 46 ≤ offset + mediaTimestamp by omega) (by omega)
  obtain ⟨unwrapped, hle, hwraps, hunwrapped⟩ := htrails
  obtain rfl : mediaTimestamp = unwrapped * MEDIA_CLOCK_RATE / H264_CLOCK_RATE := hunwrapped
  obtain ⟨hlower, hupper⟩ := video_rounding offset unwrapped
  set ticks := ((offset + (unwrapped * 48000 / 90000 : Nat)) * 90000).tdiv 48000
  -- the wraps that were lost between the time and its media timestamp are wraps of RTP as well
  refine ⟨(base .video).toNat + ticks + (time - unwrapped), hmod.trans ?_, ?_⟩
  · show ((base .video).toNat + ticks) % 2 ^ 32 = _ % 2 ^ 32
    simp only at hle hwraps
    omega
  · have hlower' : (-24 : ℚ) ≤ 8 * ticks - 8 * unwrapped - 15 * offset := by exact_mod_cast hlower
    have hupper' : 8 * (ticks : ℚ) - 8 * unwrapped - 15 * offset ≤ 24 := by exact_mod_cast hupper
    push_cast
    rw [abs_le]
    constructor <;> linarith

theorem inSync_of_published {frames : List SourceFrame} (htimes : SourceTimes frames)
    (hlow : -2 ^ 45 ≤ offset) (hhigh : offset ≤ 2 ^ 45) {frame : SourceFrame} {mediaTimestamp : Nat}
    (hmedia : mediaTimestamp < 2 ^ 45)
    (hpublished : (frame, mediaTimestamp) ∈ publishFrames newTimestamps frames) :
    InSync base offset frame
      ((trackClock startedAt base frame.track).timestampAt (offset + mediaTimestamp)) := by
  obtain ⟨track, time⟩ := frame
  cases track with
  | audio =>
    obtain rfl := htimes.audio_published hpublished
    exact inSync_audio hlow hhigh hmedia
  | video => exact inSync_video hlow hhigh (htimes.video_published hpublished) hmedia

/-- In every stretch of calls with one epoch there is one offset at which the frames of a
session are in sync. Before the stretch and between its frames the task may have mapped any
other frames. -/
theorem audio_video_in_sync {frames : List SourceFrame} (htimes : SourceTimes frames)
    (startedAt : Nat) (base : RtspTrack → UInt32) {before stretch : List TimelineCall} {epoch : Nat}
    (hbelow : ∀ call ∈ before ++ stretch,
      RtpMediaTimeline.CallBelow (trackClock startedAt base) (2 ^ 45) call)
    (hepoch : ∀ call ∈ stretch, call.epoch = epoch) :
    ∃ offset : Int,
      ∀ p ∈ (RtpMediaTimeline.mapped (trackClock startedAt base) {} before).mapAll
        (trackClock startedAt base) stretch,
      ∀ frame, frame.track = p.1.track →
        (frame, p.1.mediaTimestamp) ∈ publishFrames newTimestamps frames →
        InSync base offset frame p.2 := by
  have hstart : ({} : RtpMediaTimeline).Within (2 ^ 45) := by
    intro anchor hanchor
    cases hanchor
  have hwithin := hstart.mapped (by decide)
    (fun call hcall => hbelow call (List.mem_append_left stretch hcall))
  obtain ⟨offset, hlow, hhigh, hline⟩ := hwithin.exists_offset (by decide) hepoch
    (fun call hcall => hbelow call (List.mem_append_right before hcall))
  refine ⟨offset, ?_⟩
  intro p hp frame htrack hpublished
  have hcall : p.1 ∈ stretch := RtpMediaTimeline.fst_mem_of_mem_mapAll hp
  have hmedia := (hbelow p.1 (List.mem_append_right before hcall)).source
  rw [hline p hp, ← htrack]
  exact inSync_of_published htimes hlow hhigh hmedia hpublished

/-- Audio that wraps, and video that starts after three wraps and then loses three more. -/
def wrappingFrames : List SourceFrame :=
  [⟨.audio, 2 ^ 32 - 512⟩, ⟨.video, 3 * 2 ^ 32 + 90000⟩, ⟨.audio, 2 ^ 32 + 512⟩,
    ⟨.video, 6 * 2 ^ 32 + 180000⟩]

def foreignCalls : List TimelineCall := [⟨0, .audio, 10 ^ 12, 10 ^ 9⟩]

def wrappingCalls : List TimelineCall :=
  [⟨1, .audio, 2 ^ 32 - 512, 2 * 10 ^ 9⟩, ⟨1, .video, 48000, 2 * 10 ^ 9⟩,
    ⟨1, .audio, 2 ^ 32 + 512, 2 * 10 ^ 9⟩, ⟨1, .video, 96000, 2 * 10 ^ 9⟩]

theorem audio_video_in_sync_wrapping :
    publishFrames newTimestamps wrappingFrames =
      wrappingFrames.zip [2 ^ 32 - 512, 48000, 2 ^ 32 + 512, 96000] ∧
    ∃ offset : Int,
      ∀ p ∈ (RtpMediaTimeline.mapped (trackClock 0 (fun _ => 7)) {} foreignCalls).mapAll
        (trackClock 0 (fun _ => 7)) wrappingCalls,
      ∀ frame, frame.track = p.1.track →
        (frame, p.1.mediaTimestamp) ∈ publishFrames newTimestamps wrappingFrames →
        InSync (fun _ => 7) offset frame p.2 := by
  constructor
  · decide +kernel
  · have htimes : SourceTimes wrappingFrames := by
      constructor <;> decide
    apply audio_video_in_sync htimes 0 (fun _ => 7)
    · have hbelow : ∀ call ∈ foreignCalls ++ wrappingCalls, call.mediaTimestamp < 2 ^ 45 ∧
          (trackClock 0 (fun _ => 7) call.track).mediaTicks call.now < 2 ^ 45 := by decide
      intro call hcall
      exact ⟨(hbelow call hcall).1, (hbelow call hcall).2⟩
    · show ∀ call ∈ wrappingCalls, call.epoch = 1
      decide

end VRCStreamer
