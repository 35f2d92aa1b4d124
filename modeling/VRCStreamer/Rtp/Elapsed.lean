import VRCStreamer.Rtp.Reporter
import VRCStreamer.Rtp.Timeline

/-!
# One axis for all clocks

The three computations of `rtsp.rs` that turn elapsed time into RTP time, with the widths of the
source: the projection of a sender report in 64 bits, the clock of a track in 128 bits, and live
media through the media clock in a signed 64-bit number. They agree with the exact quotient on the
circle of `2 ^ 32` ticks, however long a session lasts.
-/

namespace VRCStreamer

/-- `std::time::Duration`. -/
structure Duration where
  asSecs : UInt64
  subsecNanos : UInt32
  subsecNanos_lt : subsecNanos.toNat < 10 ^ 9

def Duration.asNanos (elapsed : Duration) : Nat :=
  elapsed.asSecs.toNat * 10 ^ 9 + elapsed.subsecNanos.toNat

namespace Machine

/-- All operations wrap at 64 bits. -/
def projectRtpTimestamp (timestamp : UInt32) (elapsed : Duration) (clockRate : UInt32) : UInt32 :=
  let wholeTicks := elapsed.asSecs * clockRate.toUInt64
  let fractionalTicks := elapsed.subsecNanos.toUInt64 * clockRate.toUInt64 / 1000000000
  timestamp + (wholeTicks + fractionalTicks).toUInt32

/-- `elapsed.as_nanos() * rate as u128 / 1_000_000_000`. -/
def nanosToTicks (elapsed : Duration) (rate : Nat) : BitVec 128 :=
  BitVec.ofNat 128 elapsed.asNanos * BitVec.ofNat 128 rate / 1000000000

/-- `RtpClock::timestamp`, some time after the start of the clock. -/
def timestamp (baseTimestamp clockRate : UInt32) (elapsed : Duration) : UInt32 :=
  baseTimestamp + UInt32.ofNat (nanosToTicks elapsed clockRate.toNat).toNat

/-- `RtpClock::media_timestamp`. -/
def mediaTimestamp (elapsed : Duration) : Int :=
  toI64 (nanosToTicks elapsed MEDIA_CLOCK_RATE).toNat

end Machine

namespace Duration

variable (elapsed : Duration)

theorem asNanos_lt : elapsed.asNanos < 2 ^ 64 * 10 ^ 9 := by
  have hsecs := elapsed.asSecs.toNat_lt
  have hnanos := elapsed.subsecNanos_lt
  rw [asNanos]
  omega

/-- The 128 bits hold every product. -/
theorem asNanos_mul_lt {rate : Nat} (h : rate < 2 ^ 32) : elapsed.asNanos * rate < 2 ^ 128 := by
  have hnanos := elapsed.asNanos_lt
  calc elapsed.asNanos * rate ≤ (2 ^ 64 * 10 ^ 9) * 2 ^ 32 :=
        Nat.mul_le_mul (Nat.le_of_lt hnanos) (Nat.le_of_lt h)
    _ < 2 ^ 128 := by decide

/-- The 64 bits hold the product of a part of a second. -/
theorem subsecNanos_mul_lt {rate : Nat} (h : rate < 2 ^ 32) :
    elapsed.subsecNanos.toNat * rate < 2 ^ 64 := by
  have hnanos := elapsed.subsecNanos_lt
  calc elapsed.subsecNanos.toNat * rate ≤ 10 ^ 9 * 2 ^ 32 :=
        Nat.mul_le_mul (Nat.le_of_lt hnanos) (Nat.le_of_lt h)
    _ < 2 ^ 64 := by decide

/-- Whole seconds give whole ticks. -/
theorem asNanos_mul_div (rate : Nat) : elapsed.asNanos * rate / 10 ^ 9 =
    elapsed.asSecs.toNat * rate + elapsed.subsecNanos.toNat * rate / 10 ^ 9 := by
  have hsplit : elapsed.asNanos * rate =
      elapsed.subsecNanos.toNat * rate + 10 ^ 9 * (elapsed.asSecs.toNat * rate) := by
    rw [asNanos]
    ring
  rw [hsplit, Nat.add_mul_div_left _ _ (by decide)]
  exact Nat.add_comm _ _

end Duration

namespace Machine

variable (baseTimestamp clockRate : UInt32) (elapsed : Duration)

theorem toNat_nanosToTicks {rate : Nat} (h : rate < 2 ^ 32) :
    (nanosToTicks elapsed rate).toNat = elapsed.asNanos * rate / 10 ^ 9 := by
  have hnanos : elapsed.asNanos < 2 ^ 128 := by
    have := elapsed.asNanos_lt
    omega
  have hrate : rate < 2 ^ 128 := by omega
  rw [nanosToTicks, BitVec.toNat_udiv, BitVec.toNat_mul, BitVec.toNat_ofNat, BitVec.toNat_ofNat,
    Nat.mod_eq_of_lt hnanos, Nat.mod_eq_of_lt hrate, Nat.mod_eq_of_lt (elapsed.asNanos_mul_lt h)]
  rfl

/-- The clock of a track, read after that time. -/
theorem timestamp_eq (startedAt : Nat) : timestamp baseTimestamp clockRate elapsed =
    RtpClock.timestamp ⟨startedAt, baseTimestamp, clockRate.toNat⟩
      (startedAt + elapsed.asNanos) := by
  rw [timestamp, toNat_nanosToTicks elapsed clockRate.toNat_lt, RtpClock.timestamp,
    RtpClock.elapsed, Nat.add_sub_cancel_left]

theorem mediaTimestamp_eq (startedAt : Nat) : mediaTimestamp elapsed =
    RtpClock.mediaTimestamp ⟨startedAt, baseTimestamp, clockRate.toNat⟩
      (startedAt + elapsed.asNanos) := by
  rw [mediaTimestamp, toNat_nanosToTicks elapsed (by decide), RtpClock.mediaTimestamp,
    RtpClock.mediaTicks, RtpClock.elapsed, Nat.add_sub_cancel_left]

theorem toNat_timestamp : (timestamp baseTimestamp clockRate elapsed).toNat =
    (baseTimestamp.toNat + elapsed.asNanos * clockRate.toNat / 10 ^ 9) % 2 ^ 32 := by
  rw [timestamp, toNat_nanosToTicks elapsed clockRate.toNat_lt, UInt32.toNat_add,
    UInt32.toNat_ofNat', Nat.add_mod_mod]

/-- Whole ticks that wrap at 64 bits keep their value on the circle. -/
theorem toNat_projectRtpTimestamp :
    (projectRtpTimestamp baseTimestamp elapsed clockRate).toNat =
      (baseTimestamp.toNat + elapsed.asNanos * clockRate.toNat / 10 ^ 9) % 2 ^ 32 := by
  have hnanos := elapsed.subsecNanos_mul_lt clockRate.toNat_lt
  have hticks := elapsed.asNanos_mul_div clockRate.toNat
  have hscale : (1000000000 : UInt64).toNat = 10 ^ 9 := rfl
  rw [projectRtpTimestamp, UInt32.toNat_add, UInt64.toNat_toUInt32, UInt64.toNat_add,
    UInt64.toNat_div, UInt64.toNat_mul, UInt64.toNat_mul, UInt32.toNat_toUInt64,
    UInt32.toNat_toUInt64, Nat.mod_eq_of_lt hnanos, hscale, hticks]
  omega

/-- The projection of a report has the widths of the source. -/
theorem projectRtpTimestamp_eq : projectRtpTimestamp baseTimestamp elapsed clockRate =
    VRCStreamer.projectRtpTimestamp baseTimestamp elapsed.asNanos clockRate.toNat := by
  have hnanos := elapsed.subsecNanos_lt
  have hsecs : elapsed.asNanos / 10 ^ 9 = elapsed.asSecs.toNat := by
    rw [Duration.asNanos]
    omega
  have hsubsec : elapsed.asNanos % 10 ^ 9 = elapsed.subsecNanos.toNat := by
    rw [Duration.asNanos]
    omega
  apply UInt32.toNat_inj.mp
  rw [toNat_projectRtpTimestamp, elapsed.asNanos_mul_div, VRCStreamer.projectRtpTimestamp, hsecs,
    hsubsec, UInt32.toNat_add, UInt32.toNat_ofNat']
  omega

/-- Media time read from the clock becomes RTP time at most two ticks behind it. -/
theorem timestampAt_mediaTimestamp
    (hrate : clockRate.toNat = AAC_SAMPLE_RATE ∨ clockRate.toNat = H264_CLOCK_RATE)
    (hshort : elapsed.asNanos < 2 ^ 30 * 10 ^ 9) (startedAt : Nat) :
    ∃ lag : UInt32, lag.toNat ≤ 2 ∧
      RtpClock.timestampAt ⟨startedAt, baseTimestamp, clockRate.toNat⟩ (mediaTimestamp elapsed) +
        lag = timestamp baseTimestamp clockRate elapsed := by
  let clock : RtpClock := ⟨startedAt, baseTimestamp, clockRate.toNat⟩
  let now := startedAt + elapsed.asNanos
  have hmedia : clock.mediaTicks now < 2 ^ 46 := by
    rw [RtpClock.mediaTicks, RtpClock.elapsed, Nat.add_sub_cancel_left, MEDIA_CLOCK_RATE,
      AAC_SAMPLE_RATE]
    omega
  obtain ⟨hle, hge⟩ := @RtpClock.ticksAt_mediaTimestamp clock now hrate hmedia
  have hlag : (clock.ticks now : Int) = clock.ticksAt (clock.mediaTimestamp now) +
      ((clock.ticks now : Int) - clock.ticksAt (clock.mediaTimestamp now)).toNat := by omega
  refine ⟨UInt32.ofNat ((clock.ticks now : Int) -
    clock.ticksAt (clock.mediaTimestamp now)).toNat, ?_, ?_⟩
  · rw [UInt32.toNat_ofNat']
    omega
  · rw [timestamp_eq _ _ _ startedAt, mediaTimestamp_eq baseTimestamp clockRate _ startedAt,
      RtpClock.timestampAt_eq_ticksAt, RtpClock.timestamp_eq_ticks, UInt32.add_assoc,
      ← RtpClock.ofInt_natCast, ← UInt32.ofInt_add, ← hlag, RtpClock.ofInt_natCast]

/-- Projection, clock and live media are on one time axis. No product leaves its width, except for
that of whole seconds, which then is right on the circle. -/
theorem clocks_agree
    (hrate : clockRate.toNat = AAC_SAMPLE_RATE ∨ clockRate.toNat = H264_CLOCK_RATE)
    (startedAt : Nat) :
    projectRtpTimestamp baseTimestamp elapsed clockRate =
        timestamp baseTimestamp clockRate elapsed ∧
      (timestamp baseTimestamp clockRate elapsed).toNat =
        (baseTimestamp.toNat + elapsed.asNanos * clockRate.toNat / 10 ^ 9) % 2 ^ 32 ∧
      elapsed.asNanos * clockRate.toNat < 2 ^ 128 ∧
      elapsed.asNanos * MEDIA_CLOCK_RATE < 2 ^ 128 ∧
      elapsed.subsecNanos.toNat * clockRate.toNat < 2 ^ 64 ∧
      (elapsed.asNanos < 2 ^ 30 * 10 ^ 9 →
        ∃ lag : UInt32, lag.toNat ≤ 2 ∧
          RtpClock.timestampAt ⟨startedAt, baseTimestamp, clockRate.toNat⟩
            (mediaTimestamp elapsed) + lag = timestamp baseTimestamp clockRate elapsed) := by
  have hexact := toNat_timestamp baseTimestamp clockRate elapsed
  have hproject := toNat_projectRtpTimestamp baseTimestamp clockRate elapsed
  exact ⟨UInt32.toNat_inj.mp (hproject.trans hexact.symm), hexact,
    elapsed.asNanos_mul_lt clockRate.toNat_lt, elapsed.asNanos_mul_lt (by decide),
    elapsed.subsecNanos_mul_lt clockRate.toNat_lt,
    fun hshort => timestampAt_mediaTimestamp _ _ _ hrate hshort startedAt⟩

/-- Video over the longest time that the clock of the machine can show. -/
theorem clocks_agree_longest :
    projectRtpTimestamp 7 ⟨18446744073709551615, 999999999, by decide⟩ 90000 =
      timestamp 7 90000 ⟨18446744073709551615, 999999999, by decide⟩ :=
  (clocks_agree 7 90000 ⟨18446744073709551615, 999999999, by decide⟩ (.inr rfl) 0).1

end Machine

end VRCStreamer
