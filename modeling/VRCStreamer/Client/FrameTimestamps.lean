import VRCStreamer.Client.ClosedOnce

/-!
# The timestamps of encoded frames

Every event of the worker keeps the frame numbers behind the next frame while the worker is open,
so that what the encoder is handed gets later and later. An open worker with a set timer is ready
for a frame that the audio clock has reached.
-/

namespace VRCStreamer

open Concurrency

variable {α : Type*} [Field α] [LinearOrder α]

/-- The conversion of `sendVideoPacket` before it wraps. -/
def EncodedFrame.rtpTimestamp (frame : EncodedFrame α) : Int :=
  round (frame.timestamp * H264_CLOCK_RATE / 1000000 : ℚ)

/-- The frame lasts, and is at most one period ahead of the audio clock and its grace period, apart
from rounding. -/
structure EncodedFrame.InTime (frame : EncodedFrame α) : Prop where
  lasts : 0 < frame.duration
  timestamp_le : (frame.timestamp : α) ≤
    (frame.audioClockMs + AUDIO_CLOCK_GRACE_MS) * 1000 + frame.rate.periodUs + 1

/-- What the encoder was handed, up to the last timestamp. -/
structure HandedUntil (lastTimestampUs : Int) (handed : List (EncodedFrame α)) : Prop where
  increasing : handed.Pairwise (fun a b => a.timestamp < b.timestamp)
  le_last : ∀ frame ∈ handed, frame.timestamp ≤ lastTimestampUs
  inTime : ∀ frame ∈ handed, frame.InTime

namespace HandedUntil

variable {lastTimestampUs : Int} {handed : List (EncodedFrame α)} {frame : EncodedFrame α}

theorem nil : HandedUntil lastTimestampUs ([] : List (EncodedFrame α)) :=
  ⟨.nil, List.forall_mem_nil _, List.forall_mem_nil _⟩

theorem mono {lastTimestampUs' : Int} (h : HandedUntil lastTimestampUs handed)
    (hle : lastTimestampUs ≤ lastTimestampUs') : HandedUntil lastTimestampUs' handed :=
  ⟨h.increasing, fun frame hframe => (h.le_last frame hframe).trans hle, h.inTime⟩

theorem hand (h : HandedUntil lastTimestampUs handed) (hlast : lastTimestampUs < frame.timestamp)
    (hframe : frame.InTime) : HandedUntil frame.timestamp (handed ++ [frame]) where
  increasing := by
    apply List.pairwise_append.mpr
    refine ⟨h.increasing, List.pairwise_singleton _ _, ?_⟩
    intro earlier hearlier other hother
    rw [List.mem_singleton.mp hother]
    exact (h.le_last earlier hearlier).trans_lt hlast
  le_last := List.forall_mem_append.mpr
    ⟨(h.mono hlast.le).le_last, List.forall_mem_singleton.mpr le_rfl⟩
  inTime := List.forall_mem_append.mpr ⟨h.inTime, List.forall_mem_singleton.mpr hframe⟩

/-- Later timestamps are not converted to earlier ones. -/
theorem rtpTimestamp_le (h : HandedUntil lastTimestampUs handed) :
    handed.Pairwise (fun a b => a.rtpTimestamp ≤ b.rtpTimestamp) := by
  refine h.increasing.imp ?_
  intro earlier later hlt
  have hcast : (earlier.timestamp : ℚ) ≤ later.timestamp := by exact_mod_cast hlt.le
  apply Serial.round_mono
  gcongr

end HandedUntil

namespace PacedWorker

variable [FloorRing α]

structure Timed (w : PacedWorker α) : Prop where
  stopped : w.closed = true → w.pacing.pacingTimer = false
  paced : w.closed = false → w.pacing.Paced
  flushing : ∀ rate, w.command = some (.flush rate) →
    w.paused = true ∧ w.pacing.pacingTimer = false
  handed : HandedUntil w.pacing.lastTimestampUs w.handed

/-- The fields that `Timed` is about, apart from the command. -/
def times (w : PacedWorker α) := (w.pacing, w.closed, w.paused, w.handed)

variable {w w' : PacedWorker α} {closing : Closing}

theorem Timed.of_times (h : w.Timed) (htimes : w'.times = w.times)
    (hcommand : ∀ rate, w'.command = some (.flush rate) → w.command = some (.flush rate)) :
    w'.Timed := by
  simp only [times, Prod.mk.injEq] at htimes
  obtain ⟨hpacing, hclosed, hpaused, hhanded⟩ := htimes
  constructor
  · rw [hclosed, hpacing]
    exact h.stopped
  · rw [hclosed, hpacing]
    exact h.paced
  · intro rate hflush
    rw [hpaused, hpacing]
    exact h.flushing rate (hcommand rate hflush)
  · rw [hpacing, hhanded]
    exact h.handed

/-! ## Output -/

theorem Timed.scheduleNextFrame (h : w.Timed) (now : α) : (w.scheduleNextFrame now).Timed := by
  rw [PacedWorker.scheduleNextFrame]
  split
  next => exact h
  next hidle =>
    simp only [Stopped, not_or, not_not] at hidle
    obtain ⟨⟨hclosed, hpaused, -⟩, -, hready⟩ := hidle
    refine ⟨fun htrue => absurd htrue hclosed, ?_, ?_, h.handed⟩
    · intro hopen
      exact (h.paced hopen).schedule hready now
    · intro rate hflush
      exact absurd (h.flushing rate hflush).1 hpaused

theorem Timed.startCurrentOutput (h : w.Timed) (now : α) : (w.startCurrentOutput now).Timed := by
  rw [PacedWorker.startCurrentOutput]
  split
  next => exact h
  next =>
    split
    next => exact h
    next => exact h.scheduleNextFrame now

theorem Timed.clearPacingTimer (h : w.Timed) :
    Timed { w with pacing := w.pacing.clearPacingTimer } where
  stopped _ := rfl
  paced hopen := (h.paced hopen).clearPacingTimer
  flushing rate hflush := ⟨(h.flushing rate hflush).1, rfl⟩
  handed := h.handed

theorem Timed.syncAudioClock (h : w.Timed) (timestampSamples : Int) (now next : α) :
    (w.syncAudioClock timestampSamples now next).Timed := by
  rw [PacedWorker.syncAudioClock]
  split
  next => exact h
  next =>
    split
    next => exact h
    next =>
      apply Timed.startCurrentOutput
      exact ⟨h.stopped, fun hopen => (h.paced hopen).setAudioClock _ now, h.flushing, h.handed⟩

theorem Timed.enterPlaceholder (h : w.Timed) (now : α) : (w.enterPlaceholder now).Timed := by
  apply Timed.startCurrentOutput
  exact h.of_times rfl fun _ => id

theorem Timed.onSourceFrame (h : w.Timed) (frame : CapturedFrame) (ready now : α) :
    (w.onSourceFrame frame ready now).Timed := by
  obtain ⟨closes, sourceBuffer, hroom, -, -⟩ := w.makeRoom_eq
  rw [PacedWorker.onSourceFrame, hroom]
  apply Timed.startCurrentOutput
  exact h.of_times rfl fun _ => id

theorem Timed.endRead (h : w.Timed) (generation : Nat) : (w.endRead generation).Timed := by
  obtain ⟨sourceReader, heq⟩ := w.endRead_eq generation
  rw [heq]
  exact h.of_times rfl fun _ => id

theorem Timed.readOn (h : w.Timed) (generation : Nat) : (w.readOn generation).Timed := by
  obtain ⟨reads, sourceReader, heq⟩ := w.readOn_eq generation
  rw [heq]
  exact h.of_times rfl fun _ => id

/-! ## Closing -/

/-- Once closed, the worker hands over nothing until it is opened again. -/
theorem timed_closeAll (h : HandedUntil w.pacing.lastTimestampUs w.handed) :
    w.closeAll.1.Timed where
  stopped _ := rfl
  paced := nofun
  flushing _ _ := ⟨rfl, rfl⟩
  handed := h

theorem timed_fail (hfailed : w.failed = false)
    (h : HandedUntil w.pacing.lastTimestampUs w.handed) : w.fail.1.Timed := by
  rw [fail, if_neg (Bool.eq_false_iff.mp hfailed)]
  exact timed_closeAll h

theorem Timed.fail (h : w.Timed) : w.fail.1.Timed := by
  by_cases hfailed : w.failed = true
  · rw [PacedWorker.fail, if_pos hfailed]
    exact h
  · exact timed_fail (Bool.eq_false_of_not_eq_true hfailed) h.handed

theorem Timed.failBeside (h : w.Timed) (generation : Option Nat) :
    (w.failBeside generation).Timed :=
  h.fail.of_times rfl fun _ => id

theorem Timed.failCommand (h : w.Timed) : w.failCommand.Timed :=
  h.fail.of_times rfl (by simp [PacedWorker.failCommand])

theorem Timed.resumeClosing (h : w.Timed) (closing : Closing) :
    (w.resumeClosing closing).1.Timed := by
  rw [PacedWorker.resumeClosing]
  split
  next => exact h.of_times rfl fun _ => id
  next => exact h.of_times rfl fun _ => id
  next => exact h

/-! ## Frames -/

omit [Field α] [LinearOrder α] [FloorRing α] in
/-- A submitted frame has the timestamp that was chosen for it. -/
theorem handed_submitFrame (w : PacedWorker α) (source : Option CapturedFrame)
    (showPlaceholder : Bool) (timestamp duration : Int) (conditions : EncoderConditions) :
    (w.submitFrame source showPlaceholder timestamp duration conditions).1.handed = w.handed ∨
      ∃ frame : EncodedFrame α, frame.timestamp = timestamp ∧ frame.duration = duration ∧
        frame.rate = w.pacing.rate ∧ frame.audioClockMs = w.pacing.audioClockMs ∧
        (w.submitFrame source showPlaceholder timestamp duration conditions).1.handed =
          w.handed ++ [frame] := by
  rw [submitFrame]
  split
  next => exact .inl rfl
  next =>
    split
    next => exact .inl rfl
    next =>
      split
      next => exact .inl rfl
      next canvas hcanvas =>
        dsimp only
        split
        next =>
          cases source with
          | some frame => exact .inl rfl
          | none => exact .inl rfl
        next => exact .inr ⟨_, rfl, rfl, rfl, rfl, rfl⟩

theorem Timed.finishFrame {result : PacedWorker α × SubmitResult} (h : result.1.Timed)
    (source : Option CapturedFrame) (next : α) : (finishFrame source next result).Timed := by
  obtain ⟨w', result⟩ := result
  cases result with
  | submitted =>
    apply Timed.scheduleNextFrame
    exact h.of_times rfl fun _ => id
  | skipped =>
    apply Timed.scheduleNextFrame
    exact h.of_times rfl fun _ => id
  | failed => exact (h.failBeside none).of_times rfl fun _ => id

variable [IsStrictOrderedRing α]

/-- The frame with the chosen index, from an open worker without a timer. -/
theorem Timed.outputFrame {frameIndex : Int} (h : w.Timed) (hrunning : ¬ w.Stopped)
    (htimer : w.pacing.pacingTimer = false)
    (hlast : w.pacing.lastTimestampUs < w.pacing.frameTimestampUs frameIndex)
    (hle : (w.pacing.frameTimestampUs frameIndex : α) ≤
      (w.pacing.audioClockMs + AUDIO_CLOCK_GRACE_MS) * 1000 + w.pacing.rate.periodUs + 1)
    (times : PacingTimes α) (conditions : EncoderConditions) :
    (w.outputFrame frameIndex times conditions).Timed := by
  simp only [Stopped, not_or] at hrunning
  obtain ⟨hopen, hpaused, -⟩ := hrunning
  let taken : PacedWorker α := { w with
    pacing := w.pacing.setFrame frameIndex
    sourceBuffer := w.sourceBuffer.drop (w.takeSource times.ready).toList.length }
  let duration := w.pacing.frameTimestampUs (frameIndex + 1) - w.pacing.frameTimestampUs frameIndex
  let result := taken.submitFrame (w.takeSource times.ready)
    (w.placeholder || (!w.renderedSourceFrame && (w.takeSource times.ready).isNone))
    (w.pacing.frameTimestampUs frameIndex) duration conditions
  have hdraws : taken.Draws result.1 (fun _ => True) :=
    draws_submitFrame (fun _ _ => trivial) (fun _ _ _ _ _ _ => trivial) _ _ _
  have hhanded : HandedUntil (w.pacing.frameTimestampUs frameIndex) result.1.handed := by
    rcases taken.handed_submitFrame (w.takeSource times.ready) _ _ duration conditions with
      hsame | ⟨frame, htimestamp, hduration, hrate, hclock, hframe⟩
    · rw [hsame]
      exact h.handed.mono hlast.le
    · have hlasts : 0 < duration := Int.sub_pos.mpr (w.pacing.frameTimestampUs_lt_next frameIndex)
      rw [hframe, ← htimestamp]
      refine h.handed.hand (htimestamp ▸ hlast) ⟨hduration ▸ hlasts, ?_⟩
      rw [htimestamp, hclock, hrate]
      exact hle
  have hresult : result.1.Timed := by
    rw [hdraws.only]
    refine ⟨fun hclosed => absurd hclosed hopen, ?_, ?_, hhanded⟩
    · exact fun _ => FramePacing.Paced.of_setFrame htimer frameIndex
    · intro rate hflush
      exact absurd (h.flushing rate hflush).1 hpaused
  exact hresult.finishFrame _ times.next

theorem Timed.runPacing (h : w.Timed) {times : PacingTimes α} {conditions : EncoderConditions}
    (hrun : w.runPacing times conditions = some w') : w'.Timed := by
  rw [PacedWorker.runPacing] at hrun
  split at hrun
  next => cases hrun
  next htimer =>
    rw [not_not] at htimer
    obtain rfl := Option.some.inj hrun
    have hcleared := h.clearPacingTimer
    dsimp only
    split
    next => exact hcleared
    next hrunning =>
      split
      next =>
        split
        next => exact hcleared
        next => exact h
      next hdue =>
        have hopen : w.closed = false :=
          Bool.eq_false_of_not_eq_true fun hclosed => hrunning (.inl hclosed)
        have hpaced := h.paced hopen
        have hready := (hpaced.scheduled htimer).1
        have hmedia := FramePacing.mediaTimeMs_le hready times.elapsed
        have htimestamp := hpaced.nextTimestamp_le htimer (not_lt.mp hdue)
        have hlast := w.pacing.lt_nextFrameIndex (w.pacing.mediaTimeMs times.elapsed)
        refine hcleared.outputFrame hrunning rfl hlast (htimestamp.trans ?_) times conditions
        show _ ≤ (w.pacing.audioClockMs + AUDIO_CLOCK_GRACE_MS) * 1000 + w.pacing.rate.periodUs + 1
        linarith

/-! ## Commands -/

omit [IsStrictOrderedRing α]

theorem scheduleNextFrame_command (w : PacedWorker α) (now : α) (command : Option (Command α)) :
    { w.scheduleNextFrame now with command } = { w with command }.scheduleNextFrame now := by
  rw [PacedWorker.scheduleNextFrame]
  split
  next hidle => exact (if_pos hidle).symm
  next hidle => exact (if_neg hidle).symm

/-- Output does not depend on the command. -/
theorem startCurrentOutput_command (w : PacedWorker α) (now : α) (command : Option (Command α)) :
    { w.startCurrentOutput now with command } = { w with command }.startCurrentOutput now := by
  rw [PacedWorker.startCurrentOutput]
  split
  next hstopped => exact (if_pos hstopped).symm
  next hstopped =>
    split
    next hempty => exact ((if_neg hstopped).trans (if_pos hempty)).symm
    next hempty =>
      rw [scheduleNextFrame_command]
      exact ((if_neg hstopped).trans (if_neg hempty)).symm

theorem Timed.finish (h : w.Timed) : Timed { w with command := none } :=
  h.of_times rfl (by simp)

theorem Timed.reconfigureError (h : w.Timed) (now : α) : (w.reconfigureError now).Timed := by
  rw [PacedWorker.reconfigureError, startCurrentOutput_command]
  apply Timed.startCurrentOutput
  exact ⟨h.stopped, h.paced, fun _ => nofun, h.handed⟩

theorem Timed.leaveSource (h : w.Timed) (now : α) : (w.leaveSource now).Timed := by
  rw [PacedWorker.leaveSource]
  split
  next => exact h.enterPlaceholder now
  next => exact h

theorem Timed.attachSource (h : w.Timed) (settlement : Settlement α) :
    (w.attachSource settlement).Timed := by
  have hleft := h.leaveSource settlement.now
  rw [PacedWorker.attachSource]
  dsimp only
  split
  next => exact hleft.failCommand
  next =>
    have hattached : (w.leaveSource settlement.now).attachReader.Timed := by
      apply Timed.readOn
      exact hleft.of_times rfl fun _ => id
    exact hattached.of_times rfl (by simp)

variable [IsStrictOrderedRing α]

/-- The frame numbers change with the rate while no timer is set. -/
theorem Timed.applyRate (h : w.Timed) (htimer : w.pacing.pacingTimer = false) (rate : FrameRate)
    (settlement : Settlement α) : (w.applyRate rate settlement).Timed := by
  rw [PacedWorker.applyRate]
  dsimp only
  split
  next =>
    apply Timed.reconfigureError
    exact h.of_times rfl fun _ => id
  next =>
    have hrated : Timed { w with pacing := w.pacing.setRate rate } :=
      ⟨h.stopped, fun _ => FramePacing.Paced.of_setRate htimer rate, h.flushing, h.handed⟩
    split
    next =>
      apply Timed.reconfigureError
      exact hrated.of_times rfl fun _ => id
    next => exact hrated.of_times rfl (by simp)

theorem timed_resetWorker (htimer : w.pacing.pacingTimer = false) (message : InitMessage α) :
    ((w.openWorker message).resetWorker message).Timed where
  stopped := nofun
  paced _ := .first rfl rfl htimer
  flushing _ := nofun
  handed := .nil

theorem Timed.openAgain (h : w.Timed) (hclosed : w.closed = true)
    (hstage : closing.stage = .returning) (message : InitMessage α)
    (settlement : Settlement α) :
    (w.resumeCommand settlement (.init message closing)).Timed := by
  have hreset := timed_resetWorker (h.stopped hclosed) message
  rw [PacedWorker.resumeCommand, if_neg (not_not.mpr hstage)]
  split
  next =>
    have hrefused : (w.openWorker message).fail.1.Timed := timed_fail rfl h.handed
    exact hrefused.of_times rfl (by simp [PacedWorker.failCommand])
  next =>
    split
    next => exact hreset.failCommand
    next => exact hreset

theorem Timed.resumeCommand (h : w.Timed) (htended : w.Tended) {command : Command α}
    (hcommand : w.command = some command) (settlement : Settlement α) :
    (w.resumeCommand settlement command).Timed := by
  have hsound := htended.command command hcommand
  cases command with
  | init message closing =>
    obtain ⟨-, -, hfinished⟩ := hsound
    by_cases hstage : closing.stage = .returning
    · obtain ⟨hclosed, -⟩ := htended.intact.shut.emptied (hfinished hstage)
      exact h.openAgain hclosed hstage message settlement
    · rw [PacedWorker.resumeCommand, if_pos hstage]
      exact (h.resumeClosing closing).of_times rfl (by simp)
  | encoderSupport message =>
    rw [PacedWorker.resumeCommand]
    split
    next => exact h.failCommand
    next =>
      have hdrawable : Timed { w with canvas := some .blank } := h.of_times rfl fun _ => id
      dsimp only
      split
      next => exact hdrawable.failCommand
      next => exact hdrawable.of_times rfl (by simp)
  | placeholderImage message =>
    rw [PacedWorker.resumeCommand]
    split
    next => exact h.failCommand
    next =>
      exact (h.syncAudioClock message.audioClockSamples settlement.now settlement.next).finish
  | setSource => exact h.attachSource settlement
  | usePlaceholder => exact (h.enterPlaceholder settlement.now).finish
  | reconfigure rate =>
    rw [PacedWorker.resumeCommand]
    split
    next => exact h.reconfigureError settlement.now
    next =>
      have hwaiting : Timed { w with paused := true, pacing := w.pacing.clearPacingTimer } :=
        ⟨fun _ => rfl, h.clearPacingTimer.paced, fun _ _ => ⟨rfl, rfl⟩, h.handed⟩
      dsimp only
      split
      next => exact hwaiting.reconfigureError settlement.now
      next => exact ⟨hwaiting.stopped, hwaiting.paced, fun _ _ => ⟨rfl, rfl⟩, hwaiting.handed⟩
  | flush rate =>
    rw [PacedWorker.resumeCommand]
    split
    next => exact h.reconfigureError settlement.now
    next => exact h.applyRate (h.flushing rate hcommand).2 rate settlement
  | close closing =>
    rw [PacedWorker.resumeCommand]
    split
    next => exact (h.resumeClosing closing).of_times rfl (by simp)
    next => exact h.finish
  | fail closing =>
    rw [PacedWorker.resumeCommand]
    split
    next => exact (h.resumeClosing closing).of_times rfl (by simp)
    next => exact h.finish

/-! ## Messages and reads -/

section Messages

omit [IsStrictOrderedRing α]

/-- A message is handled while no command waits. -/
theorem Timed.handleMessage (h : w.Timed) (hcommand : w.command = none) (now next : α)
    (message : WorkerMessage α) : (w.handleMessage now next message).Timed := by
  cases message with
  | init message =>
    exact (timed_closeAll h.handed).of_times rfl (by simp [PacedWorker.handleMessage])
  | source readable =>
    rw [PacedWorker.handleMessage]
    split
    next => exact h
    next =>
      split
      next => exact h.failCommand
      next => exact h.of_times rfl (by simp)
  | placeholder =>
    rw [PacedWorker.handleMessage]
    split
    next => exact h
    next =>
      split
      next => exact h
      next => exact h.of_times rfl (by simp)
  | reconfigure rate supported =>
    rw [PacedWorker.handleMessage]
    split
    next => exact h
    next =>
      split
      next => exact h.failCommand
      next => exact h.of_times rfl (by simp)
  | resume =>
    rw [PacedWorker.handleMessage]
    split
    next => exact h
    next =>
      apply Timed.startCurrentOutput
      refine ⟨h.stopped, h.paced, ?_, h.handed⟩
      intro rate hflush
      cases hcommand.symm.trans hflush
  | transportPause =>
    rw [PacedWorker.handleMessage]
    split
    next => exact h
    next => exact h.clearPacingTimer.of_times rfl fun _ => id
  | transportResume =>
    rw [PacedWorker.handleMessage]
    split
    next => exact h
    next =>
      apply Timed.startCurrentOutput
      exact h.of_times rfl fun _ => id
  | audioClock timestampSamples =>
    rw [PacedWorker.handleMessage]
    split
    next => exact h
    next => exact h.syncAudioClock timestampSamples now next
  | close =>
    exact (timed_closeAll h.handed).of_times rfl (by simp [PacedWorker.handleMessage])

theorem Timed.finishRead (h : w.Timed) (generation : Nat) (ready now : α) (result : ReadResult) :
    (w.finishRead generation ready now result).Timed := by
  cases result with
  | frame =>
    rw [PacedWorker.finishRead]
    dsimp only
    split
    next =>
      apply Timed.endRead
      exact h.of_times rfl fun _ => id
    next =>
      apply Timed.readOn
      apply Timed.onSourceFrame
      exact h.of_times rfl fun _ => id
  | done =>
    rw [PacedWorker.finishRead]
    split
    next => exact h.endRead generation
    next => exact (h.enterPlaceholder now).endRead generation
  | error =>
    rw [PacedWorker.finishRead]
    split
    next => exact h.endRead generation
    next => exact h.failBeside (some generation)

theorem Timed.resumeBeside {index : Nat} (h : w.Timed) (hresume : w.resumeBeside index = some w') :
    w'.Timed := by
  obtain ⟨⟨generation, closing⟩, -, rfl⟩ := Option.map_eq_some_iff.mp hresume
  have hresumed : Timed { w with closings := w.closings.eraseIdx index } :=
    h.of_times rfl fun _ => id
  dsimp only
  split
  next => exact (h.resumeClosing closing).of_times rfl fun _ => id
  next =>
    cases generation with
    | none => exact hresumed
    | some generation => exact hresumed.endRead generation

end Messages

/-! ## Runs -/

theorem Timed.step {event : WorkerEvent α} (h : w.Timed) (htended : w.Tended)
    (hstep : w.step event = some w') : w'.Timed := by
  cases event with
  | message message now next =>
    rw [PacedWorker.step, Option.ite_none_left_eq_some] at hstep
    obtain ⟨hidle, hstep⟩ := hstep
    obtain rfl := Option.some.inj hstep
    exact h.handleMessage (Option.not_isSome_iff_eq_none.mp hidle) now next message
  | settle settlement =>
    obtain ⟨command, hcommand, rfl⟩ := Option.map_eq_some_iff.mp hstep
    exact h.resumeCommand htended hcommand settlement
  | read generation result ready now =>
    rw [PacedWorker.step, Option.ite_none_right_eq_some] at hstep
    obtain ⟨-, hstep⟩ := hstep
    obtain rfl := Option.some.inj hstep
    have hread : Timed { w with reads := w.reads.erase generation } := h.of_times rfl fun _ => id
    exact hread.finishRead generation ready now result
  | closing index => exact h.resumeBeside hstep
  | pacingTimer times conditions => exact h.runPacing hstep
  | encoderError =>
    rw [PacedWorker.step, Option.ite_none_left_eq_some] at hstep
    obtain ⟨-, hstep⟩ := hstep
    obtain rfl := Option.some.inj hstep
    exact h.failBeside none

theorem Timed.of_reachable (h : (videoWorker α).Reachable w) : w.Timed := by
  apply System.Run.invariant_of_reachable System.Reachable.start h (P := Timed)
  · exact ⟨fun _ => rfl, nofun, fun _ => nofun, .nil⟩
  · intro w event w' hreachable hw _ hstep
    exact hw.step (Tended.of_reachable hreachable) hstep

end PacedWorker

variable [FloorRing α] [IsStrictOrderedRing α]

/-- What the encoder was handed since the worker was opened. The last part is about the loop of
`runPacing`, which begins at the first index. -/
theorem video_timestamps_increase (w : PacedWorker α) (h : (videoWorker α).Reachable w) :
    w.handed.Pairwise (fun a b => a.timestamp < b.timestamp) ∧
    w.handed.Pairwise (fun a b => a.rtpTimestamp ≤ b.rtpTimestamp) ∧
    (∀ frame ∈ w.handed, 0 < frame.duration ∧
      (frame.timestamp : α) ≤
        (frame.audioClockMs + AUDIO_CLOCK_GRACE_MS) * 1000 + frame.rate.periodUs + 1) ∧
    (w.closed = false → ∀ elapsedMs : α,
      w.pacing.nextFrameIndex elapsedMs = w.pacing.firstFrameIndex elapsedMs ∨
      w.pacing.nextFrameIndex elapsedMs = w.pacing.firstFrameIndex elapsedMs + 1) := by
  have htimed := PacedWorker.Timed.of_reachable h
  refine ⟨htimed.handed.increasing, htimed.handed.rtpTimestamp_le, ?_, ?_⟩
  · intro frame hframe
    exact ⟨(htimed.handed.inTime frame hframe).lasts,
      (htimed.handed.inTime frame hframe).timestamp_le⟩
  · intro hopen elapsedMs
    exact (htimed.paced hopen).nextFrameIndex_eq elapsedMs

/-- The media time steps back before the third frame, which would have had the timestamp of the
second one. -/
theorem video_timestamps_increase_reconfigured :
    ∃ w : PacedWorker ℚ, w.handed.map EncodedFrame.timestamp = [0, 33333, 50000] ∧
      w.handed.map EncodedFrame.rtpTimestamp = [0, 3000, 4500] ∧
      w.handed.map (fun frame => (frame.rate.fps, frame.audioClockMs)) =
        [(30, 0), (30, 0), (60, 1)] ∧
      (∀ frame ∈ w.handed, 0 < frame.duration ∧
        (frame.timestamp : ℚ) ≤
          (frame.audioClockMs + AUDIO_CLOCK_GRACE_MS) * 1000 + frame.rate.periodUs + 1) ∧
      ∀ elapsedMs : ℚ,
        w.pacing.nextFrameIndex elapsedMs = w.pacing.firstFrameIndex elapsedMs ∨
        w.pacing.nextFrameIndex elapsedMs = w.pacing.firstFrameIndex elapsedMs + 1 := by
  let settle : WorkerEvent ℚ := .settle ⟨true, true, true, 0, 0⟩
  let encodes : EncoderConditions := ⟨true, 0, true⟩
  let steps : List (WorkerEvent ℚ) :=
    [.message (.init ⟨⟨30, by decide, by decide⟩, 48000, 0⟩) 0 0, settle, settle, settle, settle,
      settle, .pacingTimer ⟨0, 0, 0, 0⟩ encodes, .pacingTimer ⟨34, 34, 34, 34⟩ encodes,
      .message (.reconfigure ⟨60, by decide, by decide⟩ true) 34 34, settle, settle,
      .message (.audioClock 48) 34 34, .message .resume 34 34,
      .pacingTimer ⟨67, 67, 67, 67⟩ encodes]
  obtain ⟨w, hexec, hview⟩ := (Option.any_eq_true
    (fun w : PacedWorker ℚ => (w.handed.map EncodedFrame.timestamp = [0, 33333, 50000] ∧
      w.handed.map EncodedFrame.rtpTimestamp = [0, 3000, 4500] ∧
      w.handed.map (fun frame => (frame.rate.fps, frame.audioClockMs)) =
        [(30, 0), (30, 0), (60, 1)] ∧ w.closed = false : Bool))
    ((videoWorker ℚ).exec (videoWorker ℚ).start steps)).mp (by decide +kernel)
  obtain ⟨htimestamps, hconversions, hrates, hopen⟩ := of_decide_eq_true hview
  obtain ⟨-, -, hinTime, hloop⟩ := video_timestamps_increase w (System.reachable_of_exec hexec)
  exact ⟨w, htimestamps, hconversions, hrates, hinTime, hloop hopen⟩

end VRCStreamer
