import VRCStreamer.Table.KeyRing
import Mathlib.Algebra.Order.Floor.Ring
import Mathlib.Data.Rat.Floor
import Mathlib.Tactic.Linarith
import Mathlib.Tactic.NormNum
import Mathlib.Tactic.Positivity

/-!
# The rate control of the video worker

`VideoRateControl` of `video-worker.js` over exact numbers, with times in milliseconds. A frame
that overdraws the allowance blocks its quantizer for a period, wherever the control has moved
since the frame was submitted.
-/

namespace VRCStreamer

def MIN_QUANTIZER : Int := 18
def MAX_QUANTIZER : Int := 51
def INITIAL_QUANTIZER : Int := 24
def QUANTIZER_RECOVERY_STEP : Int := 2
def QUANTIZER_BLOCK_MS : Nat := 15000
def QUANTIZER_HISTORY_SIZE : Nat := 64

/-- The first `reset` sets every field but the quantizers of frames and the block. -/
structure VideoRateControl (K : Type*) where
  frameTimestamps : Vector K QUANTIZER_HISTORY_SIZE
  frameQuantizers : Vector UInt8 QUANTIZER_HISTORY_SIZE
  frameSlot : Fin QUANTIZER_HISTORY_SIZE
  minQuantizer : Int
  blockedUntil : K
  budget : K
  capacity : K
  available : K
  updatedAt : K
  adjustedAt : K
  smoothedBitrate : K
  quantizer : Int
  adjustments : Nat

instance : NeZero QUANTIZER_HISTORY_SIZE := ⟨by decide⟩

section Source

variable {K : Type*}

/-! ## Calls -/

/-- A call, and when it is made. -/
inductive RateCall (K : Type*) where
  | reset (bitrate frameRate now : K) (keepBlock : Bool)
  | submit (now timestamp : K)
  | record (bytes : Nat) (now timestamp : K)
  | update (actualBitrate elapsed now : K) (canImprove : Bool)
  | blockedMinimum (now : K)

namespace RateCall

def now : RateCall K → K
  | reset _ _ now _ => now
  | submit now _ => now
  | record _ now _ => now
  | update _ _ now _ => now
  | blockedMinimum now => now

/-- The timestamp of the frame that is submitted. -/
def submitted : RateCall K → Option K
  | submit _ timestamp => some timestamp
  | _ => none

/-- The timestamp of the frame that is recorded. -/
def recorded : RateCall K → Option K
  | record _ _ timestamp => some timestamp
  | _ => none

def Resets : RateCall K → Prop
  | reset .. => True
  | _ => False

/-- Only a reset may give a block up. -/
def KeepsBlock : RateCall K → Prop
  | reset _ _ _ keepBlock => keepBlock = true
  | _ => True

/-- A reset is given a bit rate and a frame rate. -/
def Rated [Zero K] [LT K] [LE K] : RateCall K → Prop
  | reset bitrate frameRate _ _ => 0 ≤ bitrate ∧ 0 < frameRate
  | _ => True

end RateCall

theorem filterMap_cons_toList {α β : Type*} (f : α → Option β) (a : α) (l : List α) :
    (a :: l).filterMap f = (f a).toList ++ l.filterMap f := by
  rw [List.filterMap_cons]
  cases f a <;> rfl

namespace VideoRateControl

variable (control : VideoRateControl K)

/-- The control after the call, and the quantizer that is returned. -/
def submit (timestamp : K) : VideoRateControl K × Int :=
  ({ control with
      frameTimestamps := control.frameTimestamps.set control.frameSlot timestamp
      frameQuantizers := control.frameQuantizers.set control.frameSlot (.ofInt control.quantizer)
      frameSlot := control.frameSlot + 1 }, control.quantizer)

def setQuantizer (value : Int) (now : K) : VideoRateControl K :=
  let next := max MIN_QUANTIZER (max control.minQuantizer (min MAX_QUANTIZER value))
  if next = control.quantizer then control
  else
    { control with
      quantizer := next
      adjustedAt := now
      adjustments := control.adjustments + 1 }

theorem setQuantizer_eq (value : Int) (now : K) :
    ∃ adjustedAt adjustments, control.setQuantizer value now =
      { control with
        quantizer := max MIN_QUANTIZER (max control.minQuantizer (min MAX_QUANTIZER value))
        adjustedAt
        adjustments } := by
  by_cases h : max MIN_QUANTIZER (max control.minQuantizer (min MAX_QUANTIZER value)) =
      control.quantizer
  · exact ⟨control.adjustedAt, control.adjustments, by rw [setQuantizer, if_pos h, h]⟩
  · exact ⟨now, control.adjustments + 1, if_neg h⟩

variable [Field K]

/-- A frame has overdrawn the allowance. -/
def block (frameQuantizer : Int) (now : K) : VideoRateControl K :=
  let nextMinimum := frameQuantizer + 1
  let minQuantizer := max control.minQuantizer (min MAX_QUANTIZER nextMinimum)
  let control := { control with minQuantizer, blockedUntil := now + QUANTIZER_BLOCK_MS }
  { control.setQuantizer (max control.quantizer minQuantizer) now with available := 0 }

theorem block_eq (frameQuantizer : Int) (now : K) :
    ∃ quantizer adjustedAt adjustments, control.block frameQuantizer now =
      { control with
        minQuantizer := max control.minQuantizer (min MAX_QUANTIZER (frameQuantizer + 1))
        blockedUntil := now + QUANTIZER_BLOCK_MS
        quantizer := max MIN_QUANTIZER
          (max (max control.minQuantizer (min MAX_QUANTIZER (frameQuantizer + 1)))
            (min MAX_QUANTIZER quantizer))
        adjustedAt
        adjustments
        available := 0 } := by
  let minQuantizer := max control.minQuantizer (min MAX_QUANTIZER (frameQuantizer + 1))
  obtain ⟨adjustedAt, adjustments, heq⟩ := setQuantizer_eq
    { control with minQuantizer, blockedUntil := now + QUANTIZER_BLOCK_MS }
    (max control.quantizer minQuantizer) now
  refine ⟨max control.quantizer minQuantizer, adjustedAt, adjustments, ?_⟩
  rw [block]
  dsimp only at heq ⊢
  rw [heq]

variable [LinearOrder K] {now timestamp : K} {bytes : Nat}

def new : VideoRateControl K where
  frameTimestamps := Vector.replicate _ 0
  frameQuantizers := Vector.replicate _ 0
  frameSlot := 0
  minQuantizer := 0
  blockedUntil := 0
  budget := 0
  capacity := 0
  available := 0
  updatedAt := 0
  adjustedAt := 0
  smoothedBitrate := 0
  quantizer := 0
  adjustments := 0

/-- The value that is returned is the `minQuantizer` of the result. -/
def blockedMinimum (now : K) : VideoRateControl K :=
  if control.blockedUntil ≤ now then { control with minQuantizer := 0, blockedUntil := 0 }
  else control

theorem blockedMinimum_cases (now : K) :
    (control.blockedUntil ≤ now ∧
      control.blockedMinimum now = { control with minQuantizer := 0, blockedUntil := 0 }) ∨
    (now < control.blockedUntil ∧ control.blockedMinimum now = control) := by
  by_cases h : control.blockedUntil ≤ now
  · exact .inl ⟨h, if_pos h⟩
  · exact .inr ⟨not_le.mp h, if_neg h⟩

/-- The quantizer of a frame, or the current one if it is no longer known. -/
def frameQuantizer (timestamp : K) : Int :=
  match KeyRing.indexOf control.frameTimestamps timestamp with
  | some slot => control.frameQuantizers[slot].toNat
  | none => control.quantizer

def forget (timestamp : K) : VideoRateControl K :=
  match KeyRing.indexOf control.frameTimestamps timestamp with
  | some slot => { control with frameTimestamps := control.frameTimestamps.set slot (-1) }
  | none => control

/-- The allowance when a frame of this size has been charged. -/
def charged (bytes : Nat) (now : K) : K :=
  let elapsed := max 0 (now - control.updatedAt) / (1000 : Nat)
  min control.capacity (control.available + elapsed * control.budget) - bytes * 8

def record (bytes : Nat) (now timestamp : K) : VideoRateControl K :=
  let frameQuantizer := control.frameQuantizer timestamp
  let control := (control.forget timestamp).blockedMinimum now
  let available := control.charged bytes now
  let control := { control with updatedAt := now, available }
  if available < 0 then control.block frameQuantizer now else control

def update (actualBitrate elapsed now : K) (canImprove : Bool) : VideoRateControl K :=
  let control := control.blockedMinimum now
  let smoothedBitrate := control.smoothedBitrate +
    (actualBitrate - control.smoothedBitrate) * elapsed / (2 + elapsed)
  let control := { control with smoothedBitrate }
  let nextQuantizer := control.quantizer - QUANTIZER_RECOVERY_STEP
  if canImprove ∧ max MIN_QUANTIZER control.minQuantizer ≤ nextQuantizer ∧
      (1000 : Nat) ≤ now - control.adjustedAt ∧
      max actualBitrate control.smoothedBitrate < control.budget * 0.75 then
    control.setQuantizer nextQuantizer now
  else control

theorem forget_eq (timestamp : K) :
    ∃ frameTimestamps, control.forget timestamp = { control with frameTimestamps } := by
  unfold forget
  split
  next slot _ => exact ⟨_, rfl⟩
  next => exact ⟨control.frameTimestamps, rfl⟩

/-- Only the history of frames and the block have changed when a frame is charged. -/
theorem charged_forget :
    ((control.forget timestamp).blockedMinimum now).charged bytes now =
      control.charged bytes now := by
  obtain ⟨stamps, hforget⟩ := control.forget_eq timestamp
  rw [hforget]
  obtain ⟨-, heq⟩ | ⟨-, heq⟩ := blockedMinimum_cases { control with frameTimestamps := stamps } now
  · rw [heq]
    rfl
  · rw [heq]
    rfl

/-- What `record` does, in terms of the control that has forgotten the frame. -/
theorem record_eq (bytes : Nat) (now timestamp : K) :
    control.record bytes now timestamp =
      let charged : VideoRateControl K :=
        { (control.forget timestamp).blockedMinimum now with
          updatedAt := now
          available := control.charged bytes now }
      if control.charged bytes now < 0 then charged.block (control.frameQuantizer timestamp) now
      else charged := by
  rw [record, charged_forget]

def reset [FloorRing K] (bitrate frameRate now : K) (keepBlock : Bool) : VideoRateControl K :=
  let budget : K := ⌊bitrate * 0.85⌋
  let capacity := max (budget * 0.5) (budget / frameRate)
  let control := if keepBlock then control else { control with blockedUntil := 0 }
  let control := control.blockedMinimum now
  { control with
    budget
    capacity
    available := capacity
    updatedAt := now
    adjustedAt := now
    smoothedBitrate := budget
    quantizer := max MIN_QUANTIZER (max INITIAL_QUANTIZER control.minQuantizer)
    adjustments := 0
    frameTimestamps := Vector.replicate _ (-1)
    frameSlot := 0 }

def call [FloorRing K] (control : VideoRateControl K) : RateCall K → VideoRateControl K
  | .reset bitrate frameRate now keepBlock => control.reset bitrate frameRate now keepBlock
  | .submit _ timestamp => (control.submit timestamp).1
  | .record bytes now timestamp => control.record bytes now timestamp
  | .update actualBitrate elapsed now canImprove =>
    control.update actualBitrate elapsed now canImprove
  | .blockedMinimum now => control.blockedMinimum now

def run [FloorRing K] (control : VideoRateControl K) (calls : List (RateCall K)) :
    VideoRateControl K :=
  calls.foldl call control

variable {control}

/-! ## The bounds -/

/-- The bounds that hold between calls. -/
structure Sound (control : VideoRateControl K) : Prop where
  minimum_le : MIN_QUANTIZER ≤ control.quantizer
  le_maximum : control.quantizer ≤ MAX_QUANTIZER
  blocked_le : control.minQuantizer ≤ control.quantizer
  budget_nonneg : 0 ≤ control.budget
  available_nonneg : 0 ≤ control.available
  available_le : control.available ≤ control.capacity

namespace Sound

theorem blockedMinimum (h : Sound control) (now : K) : Sound (control.blockedMinimum now) := by
  obtain ⟨-, heq⟩ | ⟨-, heq⟩ := blockedMinimum_cases control now
  · rw [heq]
    have hpositive : 0 ≤ control.quantizer := le_trans (by decide) h.minimum_le
    exact { h with blocked_le := hpositive }
  · rwa [heq]

theorem setQuantizer (h : Sound control) (value : Int) (now : K) :
    Sound (control.setQuantizer value now) := by
  obtain ⟨adjustedAt, adjustments, heq⟩ := control.setQuantizer_eq value now
  have hblocked := h.blocked_le.trans h.le_maximum
  rw [heq]
  exact {
    minimum_le := le_max_left _ _
    le_maximum := max_le (by decide) (max_le hblocked (min_le_left _ _))
    blocked_le := (le_max_left _ _).trans (le_max_right _ _)
    budget_nonneg := h.budget_nonneg
    available_nonneg := h.available_nonneg
    available_le := h.available_le }

theorem forget (h : Sound control) (timestamp : K) : Sound (control.forget timestamp) := by
  obtain ⟨stamps, heq⟩ := control.forget_eq timestamp
  rw [heq]
  exact { h with }

/-- The allowance starts afresh, so it may have been anything. -/
theorem block (h : Sound control) (updatedAt available : K) (frameQuantizer : Int) (now : K) :
    Sound ({ control with updatedAt, available }.block frameQuantizer now) := by
  obtain ⟨quantizer, adjustedAt, adjustments, heq⟩ :=
    block_eq { control with updatedAt, available } frameQuantizer now
  have hminimum : max control.minQuantizer (min MAX_QUANTIZER (frameQuantizer + 1)) ≤
      MAX_QUANTIZER := max_le (h.blocked_le.trans h.le_maximum) (min_le_left _ _)
  rw [heq]
  exact {
    minimum_le := le_max_left _ _
    le_maximum := max_le (by decide) (max_le hminimum (min_le_left _ _))
    blocked_le := (le_max_left _ _).trans (le_max_right _ _)
    budget_nonneg := h.budget_nonneg
    available_nonneg := le_refl 0
    available_le := h.available_nonneg.trans h.available_le }

theorem update (h : Sound control) (actualBitrate elapsed now : K) (canImprove : Bool) :
    Sound (control.update actualBitrate elapsed now canImprove) := by
  have hrest := h.blockedMinimum now
  rw [VideoRateControl.update]
  dsimp only
  split
  next =>
    apply setQuantizer
    exact { hrest with }
  next => exact { hrest with }

variable [IsStrictOrderedRing K]

theorem charged_le (control : VideoRateControl K) (bytes : Nat) (now : K) :
    control.charged bytes now ≤ control.capacity := by
  have hbytes : (0 : K) ≤ bytes * 8 := by positivity
  exact (sub_le_self _ hbytes).trans (min_le_left _ _)

theorem record (h : Sound control) (bytes : Nat) (now timestamp : K) :
    Sound (control.record bytes now timestamp) := by
  have hrest := (h.forget timestamp).blockedMinimum now
  have hle := charged_le ((control.forget timestamp).blockedMinimum now) bytes now
  rw [charged_forget] at hle
  rw [record_eq]
  dsimp only
  split
  next => exact hrest.block _ _ _ now
  next hcovered =>
    exact { hrest with
      available_nonneg := not_lt.mp hcovered
      available_le := hle }

theorem reset [FloorRing K] (h : control.minQuantizer ≤ MAX_QUANTIZER) {bitrate : K}
    (hbitrate : 0 ≤ bitrate) (frameRate now : K) (keepBlock : Bool) :
    Sound (control.reset bitrate frameRate now keepBlock) := by
  let kept := if keepBlock then control else { control with blockedUntil := 0 }
  have hminimum : (kept.blockedMinimum now).minQuantizer ≤ MAX_QUANTIZER := by
    have hkept : kept.minQuantizer = control.minQuantizer := by
      unfold kept
      split <;> rfl
    obtain ⟨-, heq⟩ | ⟨-, heq⟩ := blockedMinimum_cases kept now
    · rw [heq]
      exact (by decide : (0 : Int) ≤ MAX_QUANTIZER)
    · rwa [heq, hkept]
  have hbudget : (0 : K) ≤ ⌊bitrate * 0.85⌋ := by
    have : 0 ≤ bitrate * 0.85 := by positivity
    exact_mod_cast Int.floor_nonneg.mpr this
  have hcapacity : (0 : K) ≤ ⌊bitrate * 0.85⌋ * 0.5 := by positivity
  exact {
    minimum_le := le_max_left _ _
    le_maximum := max_le (by decide) (max_le (by decide) hminimum)
    blocked_le := (le_max_right _ _).trans (le_max_right _ _)
    budget_nonneg := hbudget
    available_nonneg := hcapacity.trans (le_max_left _ _)
    available_le := le_refl _ }

theorem call [FloorRing K] (h : Sound control) {next : RateCall K} (hrated : next.Rated) :
    Sound (control.call next) := by
  cases next with
  | reset bitrate frameRate now keepBlock =>
    exact reset (h.blocked_le.trans h.le_maximum) hrated.1 frameRate now keepBlock
  | submit now timestamp => exact { h with }
  | record bytes now timestamp => exact h.record bytes now timestamp
  | update actualBitrate elapsed now canImprove =>
    exact h.update actualBitrate elapsed now canImprove
  | blockedMinimum now => exact h.blockedMinimum now

end Sound

end VideoRateControl

end Source

end VRCStreamer
