import Mathlib.Data.Int.ModEq
import Mathlib.Tactic.Ring
import VRCStreamer.Constants
import VRCStreamer.Rtp.State

/-!
# RTP clocks

`RtpClock` of `rtsp.rs`. Instants are in nanoseconds. A clock reads its own ticks, or
ticks of the media clock, which `timestamp_at` turns into its own ticks.
-/

namespace VRCStreamer

/-- Saturation at the bounds of `i64`. -/
def saturateI64 (x : Int) : Int := max (-2 ^ 63) (min x (2 ^ 63 - 1))

/-- The cast to `i64`. -/
def toI64 (x : Int) : Int := x.bmod (2 ^ 64)

theorem saturateI64_of_lt {x : Int} (hlow : -2 ^ 63 ≤ x) (hhigh : x < 2 ^ 63) :
    saturateI64 x = x := by
  rw [saturateI64]
  omega

theorem toI64_of_lt {x : Int} (hlow : 0 ≤ x) (hhigh : x < 2 ^ 63) : toI64 x = x := by
  rw [toI64, Int.bmod_def]
  omega

structure RtpClock where
  startedAt : Nat
  baseTimestamp : UInt32
  clockRate : Nat
  deriving DecidableEq

namespace RtpClock

def elapsed (clock : RtpClock) (now : Nat) : Nat := now - clock.startedAt

def timestamp (clock : RtpClock) (now : Nat) : UInt32 :=
  clock.baseTimestamp + UInt32.ofNat (clock.elapsed now * clock.clockRate / 10 ^ 9)

/-- The media ticks since the start, before the cast that `media_timestamp` ends with. -/
def mediaTicks (clock : RtpClock) (now : Nat) : Nat :=
  clock.elapsed now * MEDIA_CLOCK_RATE / 10 ^ 9

def mediaTimestamp (clock : RtpClock) (now : Nat) : Int := toI64 (clock.mediaTicks now)

/-- The cast to `u32` drops the high bits, also those of a negative number. -/
def timestampAt (clock : RtpClock) (mediaTimestamp : Int) : UInt32 :=
  clock.baseTimestamp +
    UInt32.ofInt ((saturateI64 (mediaTimestamp * clock.clockRate)).tdiv MEDIA_CLOCK_RATE)

variable {clock : RtpClock} {now : Nat} {media : Int}

theorem mediaTimestamp_of_lt (clock : RtpClock) (h : clock.mediaTicks now < 2 ^ 63) :
    clock.mediaTimestamp now = clock.mediaTicks now :=
  toI64_of_lt (by omega) (by omega)

/-- Adding a cast number to a timestamp moves it by that number, up to wraps. -/
theorem toNat_add_ofInt (base : UInt32) (ticks : Int) :
    ((base + UInt32.ofInt ticks).toNat : Int) ≡ base.toNat + ticks [ZMOD 2 ^ 32] := by
  rw [UInt32.toNat_add, UInt32.ofInt, UInt32.toNat_ofNat', Int.ModEq]
  omega

/-- The timestamp at media time that does not saturate. -/
theorem timestampAt_eq (hlow : -2 ^ 63 ≤ media * clock.clockRate)
    (hhigh : media * clock.clockRate < 2 ^ 63) :
    clock.timestampAt media =
      clock.baseTimestamp + UInt32.ofInt ((media * clock.clockRate).tdiv MEDIA_CLOCK_RATE) := by
  rw [timestampAt, saturateI64_of_lt hlow hhigh]

/-! ## Ticks before the cast to a timestamp -/

def ticks (clock : RtpClock) (now : Nat) : Nat := clock.elapsed now * clock.clockRate / 10 ^ 9

theorem timestamp_eq_ticks (clock : RtpClock) (now : Nat) :
    clock.timestamp now = clock.baseTimestamp + UInt32.ofNat (clock.ticks now) := rfl

def ticksAt (clock : RtpClock) (media : Int) : Int :=
  (saturateI64 (media * clock.clockRate)).tdiv MEDIA_CLOCK_RATE

theorem timestampAt_eq_ticksAt (clock : RtpClock) (media : Int) :
    clock.timestampAt media = clock.baseTimestamp + UInt32.ofInt (clock.ticksAt media) := rfl

theorem tdiv_eq (x : Int) {n : Int} : x.tdiv n = if 0 ≤ x then x / n else -(-x / n) := by
  split
  next h => exact Int.tdiv_eq_ediv_of_nonneg h
  next h => rw [← Int.tdiv_eq_ediv_of_nonneg (by omega), Int.neg_tdiv, Int.neg_neg]

theorem ofInt_natCast (n : Nat) : UInt32.ofInt n = UInt32.ofNat n := by
  rw [← UInt32.toNat_inj, UInt32.ofInt, UInt32.toNat_ofNat', UInt32.toNat_ofNat']
  omega

theorem saturateI64_mono {x y : Int} (h : x ≤ y) : saturateI64 x ≤ saturateI64 y := by
  rw [saturateI64, saturateI64]
  omega

theorem ticksAt_mono (clock : RtpClock) {later : Int} (h : media ≤ later) :
    clock.ticksAt media ≤ clock.ticksAt later := by
  apply Int.tdiv_le_tdiv (by decide)
  apply saturateI64_mono
  exact Int.mul_le_mul_of_nonneg_right h (by omega)

/-- Media time that grows by less than `2 ^ 30` moves a clock of up to 90 kHz by less than
half the range of timestamps. -/
theorem ticksAt_lt (hrate : clock.clockRate ≤ H264_CLOCK_RATE) {later : Int}
    (hle : media ≤ later) (hlt : later < media + 2 ^ 30) :
    clock.ticksAt later < clock.ticksAt media + 2 ^ 31 := by
  have hscaled : later * clock.clockRate ≤ media * clock.clockRate + (2 ^ 30 - 1) * 90000 := by
    have hsplit : later * clock.clockRate =
        media * clock.clockRate + (later - media) * clock.clockRate := by ring
    have hgrow : (later - media) * clock.clockRate ≤ (2 ^ 30 - 1) * 90000 :=
      Int.mul_le_mul (by omega) (by exact_mod_cast hrate) (by omega) (by omega)
    omega
  have hsaturated : saturateI64 (later * clock.clockRate) ≤
      saturateI64 (media * clock.clockRate) + (2 ^ 30 - 1) * 90000 := by
    rw [saturateI64, saturateI64]
    omega
  have hmono : saturateI64 (media * clock.clockRate) ≤ saturateI64 (later * clock.clockRate) :=
    saturateI64_mono (Int.mul_le_mul_of_nonneg_right hle (by omega))
  show (saturateI64 (later * clock.clockRate)).tdiv 48000 <
    (saturateI64 (media * clock.clockRate)).tdiv 48000 + 2 ^ 31
  rw [tdiv_eq, tdiv_eq]
  split <;> split <;> omega

/-- Media time read from the clock itself is at most two ticks behind it. -/
theorem ticksAt_mediaTimestamp
    (hrate : clock.clockRate = AAC_SAMPLE_RATE ∨ clock.clockRate = H264_CLOCK_RATE)
    (hlt : clock.mediaTicks now < 2 ^ 46) :
    clock.ticksAt (clock.mediaTimestamp now) ≤ clock.ticks now ∧
      (clock.ticks now : Int) ≤ clock.ticksAt (clock.mediaTimestamp now) + 2 := by
  rw [mediaTimestamp_of_lt clock (by omega)]
  have hscaled : (clock.mediaTicks now * clock.clockRate : Int) ≤ clock.mediaTicks now * 90000 := by
    obtain hrate | hrate := hrate
    · rw [hrate, AAC_SAMPLE_RATE]
      omega
    · rw [hrate, H264_CLOCK_RATE]
      rfl
  have hnonneg : (0 : Int) ≤ clock.mediaTicks now * clock.clockRate :=
    Int.mul_nonneg (by omega) (by omega)
  rw [ticksAt, saturateI64_of_lt (by omega) (by omega), Int.tdiv_eq_ediv_of_nonneg (by omega),
    ticks, mediaTicks, MEDIA_CLOCK_RATE]
  obtain hrate | hrate := hrate
  · rw [hrate, AAC_SAMPLE_RATE]
    omega
  · rw [hrate, AAC_SAMPLE_RATE, H264_CLOCK_RATE]
    omega

end RtpClock

/-! ## Forward in RTP time -/

/-- A timestamp is not before another one, on a circle of `2 ^ 32` ticks. -/
def Forward (before after : UInt32) : Prop := (after - before).toNat < 2 ^ 31

instance (before after : UInt32) : Decidable (Forward before after) :=
  inferInstanceAs (Decidable ((after - before).toNat < 2 ^ 31))

theorem forward_add (before : UInt32) {ticks : Nat} (h : ticks < 2 ^ 31) :
    Forward before (before + UInt32.ofNat ticks) := by
  rw [Forward, UInt32.add_comm, UInt32.add_sub_cancel, UInt32.toNat_ofNat']
  omega

theorem forward_of_ticks (base : UInt32) {before after : Int} (hle : before ≤ after)
    (hlt : after < before + 2 ^ 31) :
    Forward (base + UInt32.ofInt before) (base + UInt32.ofInt after) := by
  have hsplit : after = before + (after - before).toNat := by omega
  rw [hsplit, UInt32.ofInt_add, ← UInt32.add_assoc, RtpClock.ofInt_natCast]
  exact forward_add _ (by omega)

end VRCStreamer
