import VRCStreamer.Constants
import VRCStreamer.Serial.Ticks
import Mathlib.Tactic.NormNum
import Mathlib.Tactic.Positivity

/-!
# The pacing of video frames

The clock and the frame numbers of `video-worker.js` over exact numbers, with clock times in
milliseconds and timestamps in microseconds. The audio clock drives the frames: between its
updates the media time runs on for a grace period, and an update may set it back by as much.
-/

namespace VRCStreamer

open Serial

def AUDIO_CLOCK_GRACE_MS : Nat := 100
def AUDIO_CLOCK_KEYFRAME_GAP_MS : Nat := 1000

structure FrameRate where
  fps : Nat
  pos : 1 ≤ fps
  le : fps ≤ 65535
  deriving DecidableEq

/-- `pacingTimer` tells whether the timer is set. -/
structure FramePacing (α : Type*) where
  rate : FrameRate
  audioSampleRate : α
  audioClockMs : α
  audioClockUpdatedAt : α
  audioClockReady : Bool
  pacingTimer : Bool
  scheduledFrameIndex : Int
  lastFrameIndex : Int
  lastTimestampUs : Int

variable {α : Type*} [Field α]

/-- The exact time between two frames. -/
def FrameRate.periodUs (rate : FrameRate) : α := 1000000 / rate.fps

namespace FramePacing

variable (pacing : FramePacing α)

/-! ## The functions of the source -/

def scheduledAtMs : α := pacing.scheduledFrameIndex * 1000 / pacing.rate.fps

def setAudioClock (nextClockMs now : α) : FramePacing α :=
  { pacing with
    audioClockMs := nextClockMs
    audioClockUpdatedAt := now
    audioClockReady := true }

def clearPacingTimer : FramePacing α := { pacing with pacingTimer := false }

variable [LinearOrder α]

def mediaTimeMs (now : α) : α :=
  if pacing.audioClockReady then
    pacing.audioClockMs + min (max 0 (now - pacing.audioClockUpdatedAt)) AUDIO_CLOCK_GRACE_MS
  else 0

def audioClockIsFresh (now : α) : Bool :=
  pacing.audioClockReady && now - pacing.audioClockUpdatedAt < AUDIO_CLOCK_GRACE_MS

variable [FloorRing α]

def frameTimestampUs (frameIndex : Int) : Int := round (frameIndex * 1000000 / pacing.rate.fps : α)

/-- What `scheduleNextFrame` sets. The timer may fire at any time. -/
def schedule (now : α) : FramePacing α :=
  { pacing with
    scheduledFrameIndex :=
      max ⌈pacing.mediaTimeMs now * pacing.rate.fps / 1000⌉ (pacing.lastFrameIndex + 1)
    pacingTimer := true }

/-- The index that `runPacing` tries first. -/
def firstFrameIndex (elapsedMs : α) : Int :=
  max (max pacing.scheduledFrameIndex ⌊elapsedMs * pacing.rate.fps / 1000⌋)
    (pacing.lastFrameIndex + 1)

def setFrame (frameIndex : Int) : FramePacing α :=
  { pacing with
    lastFrameIndex := frameIndex
    lastTimestampUs := pacing.frameTimestampUs frameIndex }

/-- What `reconfigure` does to the frame numbers. -/
def setRate (rate : FrameRate) : FramePacing α :=
  { pacing with
    rate
    lastFrameIndex := ⌊(pacing.lastTimestampUs * rate.fps / 1000000 : α)⌋ }

theorem frameTimestampUs_eq (frameIndex : Int) :
    pacing.frameTimestampUs frameIndex = tick (pacing.rate.periodUs : α) frameIndex := by
  rw [frameTimestampUs, mul_div_assoc]
  rfl

section Period

variable [IsStrictOrderedRing α]

theorem one_le_periodUs (rate : FrameRate) : 1 ≤ (rate.periodUs : α) := by
  have hpos : (0 : α) < rate.fps := Nat.cast_pos.mpr rate.pos
  have hle : (rate.fps : α) ≤ 65535 := by exact_mod_cast rate.le
  rw [FrameRate.periodUs, le_div_iff₀ hpos]
  linarith

theorem frameTimestampUs_strictMono : StrictMono pacing.frameTimestampUs := by
  have hticks : StrictMono (tick (pacing.rate.periodUs : α)) :=
    tick_strictMono (one_le_periodUs pacing.rate)
  intro index other h
  rw [frameTimestampUs_eq, frameTimestampUs_eq]
  exact hticks h

theorem frameTimestampUs_lt_next (frameIndex : Int) :
    pacing.frameTimestampUs frameIndex < pacing.frameTimestampUs (frameIndex + 1) :=
  pacing.frameTimestampUs_strictMono (Int.lt_succ frameIndex)

end Period

/-- The loop of `runPacing`. -/
def catchUp [IsStrictOrderedRing α] (frameIndex : Int) : Int :=
  if pacing.frameTimestampUs frameIndex ≤ pacing.lastTimestampUs then
    catchUp (frameIndex + 1)
  else frameIndex
termination_by (pacing.lastTimestampUs + 1 - pacing.frameTimestampUs frameIndex).toNat
decreasing_by
  have hnext := pacing.frameTimestampUs_lt_next frameIndex
  omega

def nextFrameIndex [IsStrictOrderedRing α] (elapsedMs : α) : Int :=
  pacing.catchUp (pacing.firstFrameIndex elapsedMs)

/-! ## What keeps the timestamps apart -/

/-- The frame after the last index is not before the last timestamp. A timer is only set for
such a frame. -/
structure Paced (pacing : FramePacing α) : Prop where
  behind : pacing.lastTimestampUs ≤ pacing.frameTimestampUs (pacing.lastFrameIndex + 1)
  scheduled : pacing.pacingTimer = true →
    pacing.audioClockReady = true ∧ pacing.lastFrameIndex + 1 ≤ pacing.scheduledFrameIndex

variable {pacing} {frameIndex : Int} {now elapsedMs : α}

namespace Paced

theorem schedule (h : Paced pacing) (hready : pacing.audioClockReady = true) (now : α) :
    Paced (pacing.schedule now) where
  behind := h.behind
  scheduled _ := ⟨hready, le_max_right _ _⟩

theorem setAudioClock (h : Paced pacing) (nextClockMs now : α) :
    Paced (pacing.setAudioClock nextClockMs now) where
  behind := h.behind
  scheduled htimer := ⟨rfl, (h.scheduled htimer).2⟩

theorem clearPacingTimer (h : Paced pacing) : Paced pacing.clearPacingTimer where
  behind := h.behind
  scheduled htimer := by cases htimer

end Paced

variable [IsStrictOrderedRing α]

theorem lt_catchUp (frameIndex : Int) :
    pacing.lastTimestampUs < pacing.frameTimestampUs (pacing.catchUp frameIndex) := by
  induction frameIndex using catchUp.induct pacing with
  | case1 frameIndex hbehind ih =>
    rw [catchUp, if_pos hbehind]
    exact ih
  | case2 frameIndex hahead =>
    rw [catchUp, if_neg hahead]
    exact Int.not_le.mp hahead

theorem lt_nextFrameIndex (pacing : FramePacing α) (elapsedMs : α) :
    pacing.lastTimestampUs < pacing.frameTimestampUs (pacing.nextFrameIndex elapsedMs) :=
  lt_catchUp (pacing.firstFrameIndex elapsedMs)

namespace Paced

/-- The loop takes at most one step. -/
theorem catchUp_eq (h : Paced pacing) (hindex : pacing.lastFrameIndex + 1 ≤ frameIndex) :
    pacing.catchUp frameIndex = frameIndex ∨ pacing.catchUp frameIndex = frameIndex + 1 := by
  have hfirst : pacing.lastTimestampUs ≤ pacing.frameTimestampUs frameIndex :=
    h.behind.trans (pacing.frameTimestampUs_strictMono.monotone hindex)
  have hsecond := hfirst.trans_lt (pacing.frameTimestampUs_lt_next frameIndex)
  rw [catchUp]
  split
  · rw [catchUp, if_neg (Int.not_le.mpr hsecond)]
    exact .inr rfl
  · exact .inl rfl

theorem nextFrameIndex_eq (h : Paced pacing) (elapsedMs : α) :
    pacing.nextFrameIndex elapsedMs = pacing.firstFrameIndex elapsedMs ∨
      pacing.nextFrameIndex elapsedMs = pacing.firstFrameIndex elapsedMs + 1 :=
  h.catchUp_eq (le_max_right _ _)

end Paced

omit [FloorRing α] in
theorem mediaTimeMs_le (hready : pacing.audioClockReady = true) (now : α) :
    pacing.mediaTimeMs now ≤ pacing.audioClockMs + AUDIO_CLOCK_GRACE_MS := by
  rw [mediaTimeMs, if_pos hready]
  have hmin : min (max 0 (now - pacing.audioClockUpdatedAt)) (AUDIO_CLOCK_GRACE_MS : α) ≤
      AUDIO_CLOCK_GRACE_MS := min_le_right _ _
  linarith

omit [FloorRing α] in
/-- Milliseconds in frames, in microseconds. -/
theorem mul_periodUs_le (rate : FrameRate) {index elapsedMs : α}
    (h : index ≤ elapsedMs * rate.fps / 1000) : index * rate.periodUs ≤ elapsedMs * 1000 := by
  have hpos : (0 : α) < rate.fps := Nat.cast_pos.mpr rate.pos
  rw [FrameRate.periodUs, mul_div_assoc', div_le_iff₀ hpos]
  rw [le_div_iff₀ (by norm_num)] at h
  linarith

/-- A frame that is due is at most one period after the media time. -/
theorem Paced.nextTimestamp_le (h : Paced pacing) (htimer : pacing.pacingTimer = true)
    (hdue : pacing.scheduledAtMs ≤ elapsedMs) :
    (pacing.frameTimestampUs (pacing.nextFrameIndex elapsedMs) : α) ≤
      elapsedMs * 1000 + pacing.rate.periodUs + 1 / 2 := by
  have hpos : (0 : α) < pacing.rate.fps := Nat.cast_pos.mpr pacing.rate.pos
  have hscheduled : (pacing.scheduledFrameIndex : α) ≤ elapsedMs * pacing.rate.fps / 1000 := by
    rw [scheduledAtMs, div_le_iff₀ hpos] at hdue
    rw [le_div_iff₀ (by norm_num)]
    exact hdue
  have hfirst : (pacing.firstFrameIndex elapsedMs : α) ≤
      elapsedMs * pacing.rate.fps / 1000 := by
    have hindex : pacing.firstFrameIndex elapsedMs =
        max pacing.scheduledFrameIndex ⌊elapsedMs * pacing.rate.fps / 1000⌋ :=
      max_eq_left ((h.scheduled htimer).2.trans (le_max_left _ _))
    rw [hindex, Int.cast_max]
    exact max_le hscheduled (Int.floor_le _)
  have hperiod := mul_periodUs_le pacing.rate hfirst
  have hone := one_le_periodUs (α := α) pacing.rate
  rw [frameTimestampUs_eq]
  apply tick_le
  rcases h.nextFrameIndex_eq elapsedMs with hnext | hnext
  · rw [hnext]
    linarith
  · rw [hnext]
    push_cast
    linarith

/-- Before the first frame. -/
theorem Paced.first (hindex : pacing.lastFrameIndex = -1) (htimestamp : pacing.lastTimestampUs = -1)
    (htimer : pacing.pacingTimer = false) : Paced pacing where
  behind := by
    rw [hindex, htimestamp, neg_add_cancel, frameTimestampUs, Int.cast_zero, zero_mul, zero_div,
      round_zero]
    decide
  scheduled hset := absurd (htimer.symm.trans hset) Bool.false_ne_true

theorem Paced.of_setFrame (htimer : pacing.pacingTimer = false) (frameIndex : Int) :
    Paced (pacing.setFrame frameIndex) where
  behind := (pacing.frameTimestampUs_lt_next frameIndex).le
  scheduled hset := absurd (htimer.symm.trans hset) Bool.false_ne_true

theorem Paced.of_setRate (htimer : pacing.pacingTimer = false) (rate : FrameRate) :
    Paced (pacing.setRate rate) where
  behind := by
    have hpos : (0 : α) < rate.fps := Nat.cast_pos.mpr rate.pos
    have hperiod : (0 : α) < rate.periodUs := zero_lt_one.trans_le (one_le_periodUs rate)
    have hfloor : (pacing.lastTimestampUs : α) * rate.fps / 1000000 =
        pacing.lastTimestampUs / rate.periodUs := by
      rw [FrameRate.periodUs, div_div_eq_mul_div]
    rw [frameTimestampUs_eq, setRate, hfloor]
    exact le_tick_floor hperiod pacing.lastTimestampUs
  scheduled hset := absurd (htimer.symm.trans hset) Bool.false_ne_true

end FramePacing

end VRCStreamer
