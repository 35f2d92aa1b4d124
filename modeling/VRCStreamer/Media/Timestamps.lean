import Mathlib.Data.List.Chain
import VRCStreamer.Constants
import VRCStreamer.Rtsp.Uri
import VRCStreamer.Serial.Unwrap

/-!
# Media timestamps of a publisher

`MediaTimestampNormalizer` of `websocket.rs` unwraps the 32-bit timestamps of a track and
turns them into ticks of the media clock. A session has one for each track.
-/

namespace VRCStreamer

open Serial

/-- `u64::saturating_add`. -/
def saturatingAddU64 (x y : Nat) : Nat := min (x + y) (2 ^ 64 - 1)

structure MediaTimestampNormalizer where
  sourceClockRate : Nat
  previous : Option UInt32
  wrapOffset : Nat

namespace MediaTimestampNormalizer

def new (sourceClockRate : Nat) : MediaTimestampNormalizer := ⟨sourceClockRate, none, 0⟩

/-- Half the range of `u32` is rounded down, so the remainder has to fall by `2 ^ 31`. -/
def normalize (n : MediaTimestampNormalizer) (sourceTimestamp : UInt32) :
    Nat × MediaTimestampNormalizer :=
  let wrapped := n.previous.any (fun previous =>
    sourceTimestamp < previous && (2 ^ 32 - 1) / 2 < (previous - sourceTimestamp).toNat)
  let wrapOffset := if wrapped then saturatingAddU64 n.wrapOffset (2 ^ 32) else n.wrapOffset
  let unwrapped := saturatingAddU64 wrapOffset sourceTimestamp.toNat
  (unwrapped * MEDIA_CLOCK_RATE / n.sourceClockRate % 2 ^ 64,
    { n with previous := some sourceTimestamp, wrapOffset })

/-- The true times of a track with their media timestamps. -/
def normalizeAll (n : MediaTimestampNormalizer) : List Nat → List (Nat × Nat)
  | [] => []
  | time :: times =>
    (time, (n.normalize (UInt32.ofNat time)).1) ::
      normalizeAll (n.normalize (UInt32.ofNat time)).2 times

variable {n : MediaTimestampNormalizer} {before wraps : Nat} {times : List Nat}

/-- The normalizer has seen a true time and counted some wraps by then. -/
structure Seen (n : MediaTimestampNormalizer) (time wraps : Nat) : Prop where
  previous : n.previous = some (UInt32.ofNat time)
  wrapOffset : n.wrapOffset = 2 ^ 32 * wraps

theorem mediaTimestamp_mod {unwrapped : Nat} (hrate : MEDIA_CLOCK_RATE ≤ n.sourceClockRate)
    (hlt : unwrapped < 2 ^ 64) :
    unwrapped * MEDIA_CLOCK_RATE / n.sourceClockRate % 2 ^ 64 =
      unwrapped * MEDIA_CLOCK_RATE / n.sourceClockRate := by
  apply Nat.mod_eq_of_lt
  refine lt_of_le_of_lt ?_ hlt
  exact Nat.div_le_of_le_mul (by rw [Nat.mul_comm]; exact Nat.mul_le_mul_right _ hrate)

/-- The first time of a track is not unwrapped. -/
theorem normalize_new {rate : Nat} (hrate : MEDIA_CLOCK_RATE ≤ rate) (time : Nat) :
    ((new rate).normalize (UInt32.ofNat time)).1 = time % 2 ^ 32 * MEDIA_CLOCK_RATE / rate ∧
      ((new rate).normalize (UInt32.ofNat time)).2.Seen time 0 := by
  have hlt : time % 2 ^ 32 < 2 ^ 64 := by omega
  have hraw : saturatingAddU64 0 (UInt32.ofNat time).toNat = time % 2 ^ 32 := by
    rw [saturatingAddU64, UInt32.toNat_ofNat']
    omega
  constructor
  · simp only [normalize, new, Option.any_none, Bool.false_eq_true, if_false, hraw]
    exact mediaTimestamp_mod (n := new rate) hrate hlt
  · exact ⟨rfl, rfl⟩

/-- The comparison of the code is the one that counts a wrap. -/
theorem wrapped_iff (before after : Nat) :
    (UInt32.ofNat after < UInt32.ofNat before &&
      (2 ^ 32 - 1) / 2 < (UInt32.ofNat before - UInt32.ofNat after).toNat) = true ↔
    after % 2 ^ 32 < before % 2 ^ 32 ∧ 2 ^ 31 ≤ before % 2 ^ 32 - after % 2 ^ 32 := by
  rw [Bool.and_eq_true, decide_eq_true_eq, decide_eq_true_eq, UInt32.lt_iff_toNat_lt,
    UInt32.toNat_ofNat', UInt32.toNat_ofNat']
  refine and_congr_right ?_
  intro hlt
  have hle : UInt32.ofNat after ≤ UInt32.ofNat before := by
    rw [UInt32.le_iff_toNat_le, UInt32.toNat_ofNat', UInt32.toNat_ofNat']
    exact hlt.le
  rw [UInt32.toNat_sub_of_le _ _ hle, UInt32.toNat_ofNat', UInt32.toNat_ofNat']
  omega

/-- Every further time is unwrapped by the wraps counted so far. -/
theorem Seen.normalize (h : n.Seen before wraps) (hrate : MEDIA_CLOCK_RATE ≤ n.sourceClockRate)
    (hwraps : wraps < 2 ^ 31) (after : Nat) :
    (n.normalize (UInt32.ofNat after)).1 =
        (2 ^ 32 * countWraps (2 ^ 31) (before % 2 ^ 32) wraps (after % 2 ^ 32) + after % 2 ^ 32) *
          MEDIA_CLOCK_RATE / n.sourceClockRate ∧
      (n.normalize (UInt32.ofNat after)).2.Seen after
        (countWraps (2 ^ 31) (before % 2 ^ 32) wraps (after % 2 ^ 32)) := by
  have hoffset : (if n.previous.any (fun previous => UInt32.ofNat after < previous &&
      (2 ^ 32 - 1) / 2 < (previous - UInt32.ofNat after).toNat)
      then saturatingAddU64 n.wrapOffset (2 ^ 32) else n.wrapOffset) =
      2 ^ 32 * countWraps (2 ^ 31) (before % 2 ^ 32) wraps (after % 2 ^ 32) := by
    rw [h.previous, Option.any_some, h.wrapOffset, countWraps]
    simp only [wrapped_iff]
    split
    next => rw [saturatingAddU64]; omega
    next => rfl
  have hbound : countWraps (2 ^ 31) (before % 2 ^ 32) wraps (after % 2 ^ 32) ≤ 2 ^ 31 := by
    rw [countWraps]
    split <;> omega
  constructor
  · simp only [MediaTimestampNormalizer.normalize, hoffset]
    have hraw : saturatingAddU64
        (2 ^ 32 * countWraps (2 ^ 31) (before % 2 ^ 32) wraps (after % 2 ^ 32))
        (UInt32.ofNat after).toNat =
        2 ^ 32 * countWraps (2 ^ 31) (before % 2 ^ 32) wraps (after % 2 ^ 32) +
          after % 2 ^ 32 := by
      rw [saturatingAddU64, UInt32.toNat_ofNat']
      omega
    rw [hraw]
    exact mediaTimestamp_mod hrate (by omega)
  · refine ⟨rfl, ?_⟩
    simp only [MediaTimestampNormalizer.normalize, hoffset]

@[simp] theorem normalize_sourceClockRate (n : MediaTimestampNormalizer) (raw : UInt32) :
    (n.normalize raw).2.sourceClockRate = n.sourceClockRate := rfl

/-! ## Whole tracks -/

theorem Seen.normalizeAll_exact (hrate : MEDIA_CLOCK_RATE ≤ n.sourceClockRate)
    (h : n.Seen before (before / 2 ^ 32))
    (hdense : (before :: times).IsChain (fun before after => before ≤ after ∧ after < before + 2 ^ 31))
    (hbound : ∀ time ∈ before :: times, time < 2 ^ 63) :
    ∀ p ∈ n.normalizeAll times, p.2 = p.1 * MEDIA_CLOCK_RATE / n.sourceClockRate := by
  induction times generalizing n before with
  | nil => simp [normalizeAll]
  | cons time times ih =>
    obtain ⟨⟨hle, hlt⟩, hrest⟩ := List.isChain_cons_cons.mp hdense
    have hbefore : before < 2 ^ 63 := hbound before List.mem_cons_self
    have hwraps : countWraps (2 ^ 31) (before % 2 ^ 32) (before / 2 ^ 32) (time % 2 ^ 32) =
        time / 2 ^ 32 := countWraps_eq hle hlt
    obtain ⟨hmedia, hseen⟩ := h.normalize hrate (by omega) time
    rw [hwraps, Nat.div_add_mod] at hmedia
    rw [hwraps] at hseen
    intro p hp
    obtain rfl | hp := List.mem_cons.mp hp
    · exact hmedia
    · have hbound' : ∀ t ∈ time :: times, t < 2 ^ 63 :=
        fun t ht => hbound t (List.mem_cons_of_mem before ht)
      exact ih (n := (n.normalize (UInt32.ofNat time)).2) hrate hseen hrest hbound' p hp

/-- A track that starts below the first wrap and grows by less than half the range each
time gets exact media timestamps. -/
theorem normalizeAll_exact {rate : Nat} (hrate : MEDIA_CLOCK_RATE ≤ rate)
    (hstart : ∀ time ∈ times.head?, time < 2 ^ 32)
    (hdense : times.IsChain (fun before after => before ≤ after ∧ after < before + 2 ^ 31))
    (hbound : ∀ time ∈ times, time < 2 ^ 63) :
    ∀ p ∈ (new rate).normalizeAll times, p.2 = p.1 * MEDIA_CLOCK_RATE / rate := by
  cases times with
  | nil => simp [normalizeAll]
  | cons time times =>
    have hfirst : time < 2 ^ 32 := hstart time rfl
    obtain ⟨hmedia, hseen⟩ := normalize_new hrate time
    have hnone : time / 2 ^ 32 = 0 := Nat.div_eq_of_lt hfirst
    rw [Nat.mod_eq_of_lt hfirst] at hmedia
    rw [← hnone] at hseen
    intro p hp
    obtain rfl | hp := List.mem_cons.mp hp
    · exact hmedia
    · exact hseen.normalizeAll_exact hrate hdense hbound p hp

/-! ## Steps back -/

/-- A track that stays near from one time to the next. -/
def StaysNear (times : List Nat) : Prop :=
  times.IsChain (fun before after => before < after + 2 ^ 31 ∧ after < before + 2 ^ 31)

/-- No time is below a multiple of the range that the time in front of it has reached. -/
def KeepsWraps (times : List Nat) : Prop :=
  times.IsChain (fun before after => before / 2 ^ 32 ≤ after / 2 ^ 32)

instance (times : List Nat) : Decidable (StaysNear times) :=
  inferInstanceAs (Decidable (List.IsChain _ times))

instance (times : List Nat) : Decidable (KeepsWraps times) :=
  inferInstanceAs (Decidable (List.IsChain _ times))

/-- A wrap that did not happen shows in the media timestamp. -/
theorem mediaTimestamp_ne {rate : Nat} (hrate : rate = AAC_SAMPLE_RATE ∨ rate = H264_CLOCK_RATE)
    (time : Nat) : (time + 2 ^ 32) * MEDIA_CLOCK_RATE / rate ≠ time * MEDIA_CLOCK_RATE / rate := by
  rw [MEDIA_CLOCK_RATE, AAC_SAMPLE_RATE]
  obtain rfl | rfl := hrate
  · rw [AAC_SAMPLE_RATE]
    omega
  · rw [H264_CLOCK_RATE]
    omega

theorem Seen.exact_iff
    (hrate : n.sourceClockRate = AAC_SAMPLE_RATE ∨ n.sourceClockRate = H264_CLOCK_RATE)
    (h : n.Seen before (before / 2 ^ 32)) (hnear : StaysNear (before :: times))
    (hbound : ∀ time ∈ before :: times, time < 2 ^ 63) :
    (∀ p ∈ n.normalizeAll times, p.2 = p.1 * MEDIA_CLOCK_RATE / n.sourceClockRate) ↔
      KeepsWraps (before :: times) := by
  induction times generalizing n before with
  | nil => simp [normalizeAll, KeepsWraps]
  | cons time times ih =>
    have hle : MEDIA_CLOCK_RATE ≤ n.sourceClockRate := by
      obtain hrate | hrate := hrate
      · rw [hrate, MEDIA_CLOCK_RATE]
      · rw [hrate]
        decide
    obtain ⟨⟨hback, hlt⟩, hrest⟩ := List.isChain_cons_cons.mp hnear
    have hbefore : before < 2 ^ 63 := hbound before List.mem_cons_self
    have htime : time < 2 ^ 63 := hbound time (by simp)
    obtain ⟨hmedia, hseen⟩ := h.normalize hle (by omega) time
    rw [normalizeAll, List.forall_mem_cons, KeepsWraps, List.isChain_cons_cons]
    by_cases hdiv : before / 2 ^ 32 ≤ time / 2 ^ 32
    · have hwraps : countWraps (2 ^ 31) (before % 2 ^ 32) (before / 2 ^ 32) (time % 2 ^ 32) =
          time / 2 ^ 32 := countWraps_of_near hback hlt hdiv
      rw [hwraps, Nat.div_add_mod] at hmedia
      rw [hwraps] at hseen
      have hbound' : ∀ t ∈ time :: times, t < 2 ^ 63 :=
        fun t ht => hbound t (List.mem_cons_of_mem before ht)
      exact and_congr (iff_of_true hmedia hdiv) (ih hrate hseen hrest hbound')
    · -- the wrap is counted although the time has gone back below it
      have hwraps : countWraps (2 ^ 31) (before % 2 ^ 32) (before / 2 ^ 32) (time % 2 ^ 32) =
          time / 2 ^ 32 + 1 := countWraps_of_back hback (Nat.not_le.mp hdiv)
      have hunwrapped : 2 ^ 32 * (time / 2 ^ 32 + 1) + time % 2 ^ 32 = time + 2 ^ 32 := by omega
      rw [hwraps, hunwrapped] at hmedia
      have hwrong : (n.normalize (UInt32.ofNat time)).1 ≠
          time * MEDIA_CLOCK_RATE / n.sourceClockRate := by
        rw [hmedia]
        exact mediaTimestamp_ne hrate time
      exact ⟨fun hall => absurd hall.1 hwrong, fun hall => absurd hall.1 hdiv⟩

/-- A track that stays near is unwrapped exactly, if and only if no step goes back across a
multiple of the range. -/
theorem normalizeAll_exact_iff {rate : Nat}
    (hrate : rate = AAC_SAMPLE_RATE ∨ rate = H264_CLOCK_RATE)
    (hstart : ∀ time ∈ times.head?, time < 2 ^ 32) (hnear : StaysNear times)
    (hbound : ∀ time ∈ times, time < 2 ^ 63) :
    (∀ p ∈ (new rate).normalizeAll times, p.2 = p.1 * MEDIA_CLOCK_RATE / rate) ↔
      KeepsWraps times := by
  cases times with
  | nil => simp [normalizeAll, KeepsWraps]
  | cons time times =>
    have hle : MEDIA_CLOCK_RATE ≤ rate := by
      obtain rfl | rfl := hrate
      · exact le_refl MEDIA_CLOCK_RATE
      · decide
    have hfirst : time < 2 ^ 32 := hstart time rfl
    obtain ⟨hmedia, hseen⟩ := normalize_new hle time
    have hnone : time / 2 ^ 32 = 0 := Nat.div_eq_of_lt hfirst
    rw [Nat.mod_eq_of_lt hfirst] at hmedia
    rw [← hnone] at hseen
    rw [normalizeAll, List.forall_mem_cons]
    exact (and_iff_right hmedia).trans (hseen.exact_iff hrate hnear hbound)

theorem normalizeAll_exact_iff_small :
    (∀ p ∈ (new H264_CLOCK_RATE).normalizeAll [2 ^ 32 - 10, 2 ^ 32 + 90, 2 ^ 32 + 5],
      p.2 = p.1 * MEDIA_CLOCK_RATE / H264_CLOCK_RATE) ↔
    KeepsWraps [2 ^ 32 - 10, 2 ^ 32 + 90, 2 ^ 32 + 5] :=
  normalizeAll_exact_iff (.inr rfl) (by decide) (by decide) (by decide)

/-- A step back across a wrap adds a wrap for good. -/
theorem normalizeAll_back_across_wrap :
    let times := [2 ^ 32 - 10, 2 ^ 32 + 5, 2 ^ 32 - 5, 2 ^ 32 + 6]
    StaysNear times ∧ (new AAC_SAMPLE_RATE).normalizeAll times =
      [(2 ^ 32 - 10, 2 ^ 32 - 10), (2 ^ 32 + 5, 2 ^ 32 + 5), (2 ^ 32 - 5, 2 ^ 33 - 5),
        (2 ^ 32 + 6, 2 ^ 33 + 6)] := by
  decide

/-! ## Tracks that lose wraps -/

/-- A media timestamp of a time that may have lost wraps. -/
def Trails (rate : Nat) (p : Nat × Nat) : Prop :=
  ∃ unwrapped ≤ p.1, unwrapped % 2 ^ 32 = p.1 % 2 ^ 32 ∧ p.2 = unwrapped * MEDIA_CLOCK_RATE / rate

theorem Seen.normalizeAll_trails (hrate : MEDIA_CLOCK_RATE ≤ n.sourceClockRate)
    (h : n.Seen before wraps) (hwraps : wraps ≤ before / 2 ^ 32)
    (horder : (before :: times).IsChain (· ≤ ·))
    (hbound : ∀ time ∈ before :: times, time < 2 ^ 63) :
    ∀ p ∈ n.normalizeAll times, Trails n.sourceClockRate p := by
  induction times generalizing n before wraps with
  | nil => simp [normalizeAll]
  | cons time times ih =>
    obtain ⟨hle, hrest⟩ := List.isChain_cons_cons.mp horder
    have hbefore : before < 2 ^ 63 := hbound before List.mem_cons_self
    have hcounted : countWraps (2 ^ 31) (before % 2 ^ 32) wraps (time % 2 ^ 32) ≤
        time / 2 ^ 32 := countWraps_le hle hwraps
    obtain ⟨hmedia, hseen⟩ := h.normalize hrate (by omega) time
    intro p hp
    obtain rfl | hp := List.mem_cons.mp hp
    · refine ⟨_, ?_, ?_, hmedia⟩
      · show _ ≤ time
        have hdiv := Nat.div_add_mod time (2 ^ 32)
        have hmul := Nat.mul_le_mul_left (2 ^ 32) hcounted
        omega
      · rw [Nat.mul_add_mod, Nat.mod_mod]
    · have hbound' : ∀ t ∈ time :: times, t < 2 ^ 63 :=
        fun t ht => hbound t (List.mem_cons_of_mem before ht)
      exact ih (n := (n.normalize (UInt32.ofNat time)).2) hrate hseen hcounted hrest hbound' p hp

/-- A track that never goes back may lose wraps in long gaps, but nothing else. -/
theorem normalizeAll_trails {rate : Nat} (hrate : MEDIA_CLOCK_RATE ≤ rate)
    (horder : times.IsChain (· ≤ ·)) (hbound : ∀ time ∈ times, time < 2 ^ 63) :
    ∀ p ∈ (new rate).normalizeAll times, Trails rate p := by
  cases times with
  | nil => simp [normalizeAll]
  | cons time times =>
    obtain ⟨hmedia, hseen⟩ := normalize_new hrate time
    intro p hp
    obtain rfl | hp := List.mem_cons.mp hp
    · exact ⟨time % 2 ^ 32, Nat.mod_le _ _, Nat.mod_mod _ _, hmedia⟩
    · exact hseen.normalizeAll_trails hrate (Nat.zero_le _) horder hbound p hp

end MediaTimestampNormalizer

end VRCStreamer
