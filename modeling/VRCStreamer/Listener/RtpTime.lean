import VRCStreamer.Listener.Effect

/-!
# RTP time of a listener

Where each access unit of a run stands in RTP time. Silence follows the unit before it, a
placeholder is at the listener's clock, and the live frames of an epoch lie on one line that
starts at the clock. So RTP time goes forward as long as the time base stays the same, and at
a change of base it goes back only as far as it was ahead of the clock.
-/

namespace VRCStreamer

open Concurrency

/-- The unit is a frame that was mapped in an epoch. -/
def SentUnit.IsLiveIn (unit : SentUnit) (epoch : Nat) : Prop :=
  ∃ session mediaTimestamp, unit.source = .live session epoch mediaTimestamp

/-- A timestamp is at the listener's clock, or at most two ticks before it. -/
def AtClock (clock : RtpClock) (now : Nat) (timestamp : UInt32) : Prop :=
  ∃ lag ≤ 2, clock.timestamp now = timestamp + UInt32.ofNat lag

/-- Where a unit stands after the units that were sent before it, the newest first. -/
structure Placed (clocks : RtspTrack → RtpClock) (earlier : List SentUnit) (unit : SentUnit) :
    Prop where
  read : ∀ before ∈ earlier, before.readAt ≤ unit.readAt
  silence : unit.source = .silence →
    ∀ before, earlier.find? (fun before => before.track = unit.track) = some before →
      unit.timestamp = following before.timestamp
  placeholder : unit.source = .placeholder →
    unit.timestamp = (clocks unit.track).timestamp unit.readAt
  first : ∀ epoch, unit.IsLiveIn epoch → (∀ before ∈ earlier, ¬ before.IsLiveIn epoch) →
    AtClock (clocks unit.track) unit.readAt unit.timestamp
  live : ∀ session epoch mediaTimestamp, unit.source = .live session epoch mediaTimestamp →
    ∀ before ∈ earlier, before.track = unit.track →
    ∀ mediaBefore, before.source = .live session epoch mediaBefore →
      mediaTimestamp < mediaBefore + 2 ^ 30 → Forward before.timestamp unit.timestamp

/-- Every unit of a history is in its place. -/
def AllPlaced (clocks : RtspTrack → RtpClock) : List SentUnit → Prop
  | [] => True
  | unit :: earlier => Placed clocks earlier unit ∧ AllPlaced clocks earlier

/-! ## Lines of the epochs -/

/-- Each epoch has an offset between media time at the publisher and at the listener, and the
timeline is anchored in its epoch as soon as a frame was mapped in it. -/
structure Lines (clocks : RtspTrack → RtpClock) (line : Nat → Int) (sent : List SentUnit)
    (timeline : RtpMediaTimeline) : Prop where
  bound : ∀ epoch, -2 ^ 62 < line epoch ∧ line epoch < 2 ^ 62
  unit : ∀ unit ∈ sent, ∀ session epoch mediaTimestamp,
    unit.source = .live session epoch mediaTimestamp →
      unit.timestamp = (clocks unit.track).timestampAt (line epoch + mediaTimestamp) ∧
        epoch ≤ timeline.epoch
  anchor : ∀ anchor, timeline.anchor = some anchor → anchor.On (line timeline.epoch)
  anchored : timeline.anchor.isSome ↔ ∃ unit ∈ sent, unit.IsLiveIn timeline.epoch

namespace Lines

variable {clocks : RtspTrack → RtpClock} {line : Nat → Int} {sent : List SentUnit}
variable {timeline : RtpMediaTimeline} {epoch mediaTimestamp now : Nat}

/-- Without frames of an epoch there is no anchor for it. -/
theorem fresh (h : Lines clocks line sent timeline) (hnone : ∀ unit ∈ sent, ¬ unit.IsLiveIn epoch) :
    timeline.Fresh epoch := by
  rintro rfl
  rw [← Option.not_isSome_iff_eq_none]
  intro hsome
  obtain ⟨unit, hunit, hlive⟩ := h.anchored.mp hsome
  exact hnone unit hunit hlive

/-- With frames of the newest epoch the timeline is on its line. -/
theorem on (h : Lines clocks line sent timeline) (hepoch : timeline.epoch ≤ epoch)
    {unit : SentUnit} (hunit : unit ∈ sent) (hlive : unit.IsLiveIn epoch) :
    timeline.On epoch (line epoch) := by
  obtain ⟨session, media, hsource⟩ := hlive
  obtain rfl : timeline.epoch = epoch :=
    le_antisymm hepoch (h.unit unit hunit session epoch media hsource).2
  obtain ⟨anchor, hanchor⟩ :=
    Option.isSome_iff_exists.mp (h.anchored.mpr ⟨unit, hunit, session, media, hsource⟩)
  exact ⟨rfl, anchor, hanchor, h.anchor anchor hanchor⟩

/-- Other units do not matter to the lines. -/
theorem skip (h : Lines clocks line sent timeline) {unit : SentUnit}
    (hother : ∀ epoch, ¬ unit.IsLiveIn epoch) : Lines clocks line (unit :: sent) timeline := by
  refine ⟨h.bound, ?_, h.anchor, ?_⟩
  · intro before hbefore session epoch media hsource
    obtain rfl | hbefore := List.mem_cons.mp hbefore
    · exact absurd ⟨session, media, hsource⟩ (hother epoch)
    · exact h.unit before hbefore session epoch media hsource
  · rw [h.anchored]
    constructor
    · rintro ⟨before, hbefore, hlive⟩
      exact ⟨before, List.mem_cons_of_mem unit hbefore, hlive⟩
    · rintro ⟨before, hbefore, hlive⟩
      obtain rfl | hbefore := List.mem_cons.mp hbefore
      · exact absurd hlive (hother _)
      · exact ⟨before, hbefore, hlive⟩

/-- A frame on the line of the newest epoch joins the history. -/
theorem push (h : Lines clocks line sent timeline) (hepoch : timeline.epoch ≤ epoch)
    {line' : Nat → Int} {unit : SentUnit} {session : Nat} {after : RtpMediaTimeline}
    (hsource : unit.source = .live session epoch mediaTimestamp)
    (hbound : ∀ epoch, -2 ^ 62 < line' epoch ∧ line' epoch < 2 ^ 62)
    (hkept : ∀ before ∈ sent, ∀ epoch, before.IsLiveIn epoch → line' epoch = line epoch)
    (htimestamp : unit.timestamp =
      (clocks unit.track).timestampAt (line' epoch + mediaTimestamp))
    (hon : after.On epoch (line' epoch)) : Lines clocks line' (unit :: sent) after := by
  obtain ⟨rfl, anchor, hanchor, hline⟩ := hon
  refine ⟨hbound, ?_, ?_, ?_⟩
  · intro before hbefore session' epoch' media' hsource'
    obtain rfl | hbefore := List.mem_cons.mp hbefore
    · obtain ⟨rfl, rfl, rfl⟩ := UnitSource.live.inj (hsource.symm.trans hsource')
      exact ⟨htimestamp, le_rfl⟩
    · obtain ⟨hbefore', hle⟩ := h.unit before hbefore session' epoch' media' hsource'
      rw [hkept before hbefore epoch' ⟨session', media', hsource'⟩]
      exact ⟨hbefore', hle.trans hepoch⟩
  · intro other hother
    obtain rfl := Option.some.inj (hanchor.symm.trans hother)
    exact hline
  · rw [hanchor]
    exact ⟨fun _ => ⟨unit, List.mem_cons_self, session, mediaTimestamp, hsource⟩, fun _ => rfl⟩

/-- Mapping a frame keeps the lines of all earlier epochs, and the frame lies on the line of
its own, which starts at the clock. -/
theorem map (h : Lines clocks line sent timeline) (hepoch : timeline.epoch ≤ epoch)
    (track : RtspTrack) (session : Nat) (hmedia : mediaTimestamp < 2 ^ 62)
    (hticks : (clocks track).mediaTicks now < 2 ^ 46) :
    ∃ line', Lines clocks line'
      (⟨track, .live session epoch mediaTimestamp,
        (timeline.map epoch mediaTimestamp (clocks track) now).1, now⟩ :: sent)
      (timeline.map epoch mediaTimestamp (clocks track) now).2 ∧
      ((∀ unit ∈ sent, ¬ unit.IsLiveIn epoch) →
        line' epoch + mediaTimestamp = (clocks track).mediaTimestamp now) := by
  by_cases hnone : ∀ unit ∈ sent, ¬ unit.IsLiveIn epoch
  · have hclock := (clocks track).mediaTimestamp_of_lt
      (show (clocks track).mediaTicks now < 2 ^ 63 by omega)
    have hline : (timeline.anchorFor epoch mediaTimestamp (clocks track) now).On
        ((clocks track).mediaTimestamp now - mediaTimestamp) :=
      RtpMediaTimeline.anchorFor_of_fresh (h.fresh hnone) (by omega)
    obtain ⟨htimestamp, hon⟩ := RtpMediaTimeline.map_of_anchorFor hline (by omega) (by omega)
      (by omega)
    set offset := (clocks track).mediaTimestamp now - mediaTimestamp
    refine ⟨Function.update line epoch offset, h.push hepoch rfl ?_ ?_ ?_ ?_, ?_⟩
    · intro other
      obtain rfl | hne := eq_or_ne other epoch
      · rw [Function.update_self]
        omega
      · rw [Function.update_of_ne hne]
        exact h.bound other
    · intro before hbefore other hlive
      apply Function.update_of_ne
      rintro rfl
      exact hnone before hbefore hlive
    · rw [Function.update_self]
      exact htimestamp
    · rw [Function.update_self]
      exact hon
    · intro _
      rw [Function.update_self]
      omega
  · obtain ⟨unit, hunit, hlive⟩ : ∃ unit ∈ sent, unit.IsLiveIn epoch := by
      simpa using hnone
    have hbound := h.bound epoch
    have hline : (timeline.anchorFor epoch mediaTimestamp (clocks track) now).On (line epoch) :=
      RtpMediaTimeline.anchorFor_of_on (h.on hepoch hunit hlive)
    obtain ⟨htimestamp, hon⟩ := RtpMediaTimeline.map_of_anchorFor hline
      (by omega) (by omega) (by omega)
    exact ⟨line, h.push hepoch rfl h.bound (fun _ _ _ _ => rfl) htimestamp hon,
      fun hno => absurd hno hnone⟩

end Lines

/-! ## Runs -/

/-- The conditions on the surroundings of a step: clock readings and the epoch of the channel
never decrease, and the frames of a session come to a track in the order of their media
timestamps. -/
structure Orderly {ρ : Type*} (run : MediaRun ρ) (label : TaskAction × ChannelView ρ) : Prop where
  read : run.readAt ≤ label.2.now 0
  readings : Monotone label.2.now
  epoch : run.task.resyncEpoch ≤ label.2.resyncEpoch
  session : ∀ frame, label.1.frame = some frame → ∀ unit ∈ run.sent, unit.track = frame.track →
    ∀ epoch mediaTimestamp, unit.source = .live frame.session epoch mediaTimestamp →
      mediaTimestamp ≤ frame.mediaTimestamp

/-- All times are far from the bounds of `i64`. -/
structure InRange {ρ : Type*} (clocks : RtspTrack → RtpClock)
    (label : TaskAction × ChannelView ρ) : Prop where
  listening : ∀ track n, (clocks track).mediaTicks (label.2.now n) < 2 ^ 46
  media : ∀ frame, label.1.frame = some frame → frame.mediaTimestamp < 2 ^ 62

/-- What a task that is still running knows about its history. -/
structure Running {ρ : Type*} (clocks : RtspTrack → RtpClock) (run : MediaRun ρ) : Prop where
  clock : ∀ track clock, run.task.clock track = some clock → clock = clocks track
  epoch : run.task.timeline.epoch ≤ run.task.resyncEpoch
  next : ∀ timestamp before, run.task.nextTimestamp = some timestamp →
    run.sent.find? (fun unit => unit.track = .audio) = some before →
      timestamp = following before.timestamp
  lines : ∃ line, Lines clocks line run.sent run.task.timeline

structure OnTime {ρ : Type*} (clocks : RtspTrack → RtpClock) (run : MediaRun ρ) : Prop where
  placed : AllPlaced clocks run.sent
  read : ∀ unit ∈ run.sent, unit.readAt ≤ run.readAt
  running : run.task.point ≠ .ended → Running clocks run

section

variable {ρ : Type*} {clocks : RtspTrack → RtpClock} {run : MediaRun ρ} {action : TaskAction}
variable {stream : ChannelView ρ} {after : RtpMediaTimeline} {unit : SentUnit}

theorem Orderly.read_le (h : Orderly run (action, stream)) (n : Nat) :
    run.readAt ≤ stream.now n :=
  h.read.trans (h.readings (Nat.zero_le n))

theorem readAt_of_sends (hok : Orderly run (action, stream))
    (hunit : run.task.Sends action stream after unit) : unit.readAt ≤ stream.now 3 := by
  cases hunit with
  | silence timestamp hnext hafter => exact hok.readings (show 0 ≤ 3 by decide)
  | placeholder clock hclock hafter => exact hok.readings (show 0 ≤ 3 by decide)
  | live frame clock readAt hframe hclock hreadAt hafter =>
    obtain rfl | rfl := hreadAt
    · exact hok.readings (show 0 ≤ 3 by decide)
    · exact hok.readings (show 1 ≤ 3 by decide)

theorem not_isLiveIn_of_silence (h : unit.source = .silence) (epoch : Nat) :
    ¬ unit.IsLiveIn epoch := by
  rintro ⟨session, media, hsource⟩
  rw [h] at hsource
  cases hsource

theorem not_isLiveIn_of_placeholder (h : unit.source = .placeholder) (epoch : Nat) :
    ¬ unit.IsLiveIn epoch := by
  rintro ⟨session, media, hsource⟩
  rw [h] at hsource
  cases hsource

theorem clockRate_cases (hrates : ∀ track, (clocks track).clockRate = track.clockRate)
    (track : RtspTrack) :
    (clocks track).clockRate = AAC_SAMPLE_RATE ∨ (clocks track).clockRate = H264_CLOCK_RATE := by
  rw [hrates]
  cases track with
  | audio => exact .inl rfl
  | video => exact .inr rfl

theorem atClock_mediaTimestamp (hrates : ∀ track, (clocks track).clockRate = track.clockRate)
    (track : RtspTrack) {now : Nat} (hlt : (clocks track).mediaTicks now < 2 ^ 46) :
    AtClock (clocks track) now
      ((clocks track).timestampAt ((clocks track).mediaTimestamp now)) := by
  obtain ⟨hle, hlag⟩ := RtpClock.ticksAt_mediaTimestamp (clockRate_cases hrates track) hlt
  rw [RtpClock.timestampAt_eq_ticksAt]
  generalize (clocks track).ticksAt ((clocks track).mediaTimestamp now) = ticks at hle hlag ⊢
  obtain ⟨lag, hsplit⟩ := Int.le.dest hle
  refine ⟨lag, by omega, ?_⟩
  rw [RtpClock.timestamp_eq_ticks, ← RtpClock.ofInt_natCast, ← hsplit, UInt32.ofInt_add,
    RtpClock.ofInt_natCast, UInt32.add_assoc]

/-- Two frames on one line go forward with their media timestamps. -/
theorem forward_of_line (hrates : ∀ track, (clocks track).clockRate = track.clockRate)
    (track : RtspTrack) (offset : Int) {mediaBefore mediaTimestamp : Nat}
    (hle : mediaBefore ≤ mediaTimestamp) (hlt : mediaTimestamp < mediaBefore + 2 ^ 30) :
    Forward ((clocks track).timestampAt (offset + mediaBefore))
      ((clocks track).timestampAt (offset + mediaTimestamp)) := by
  have hrate : (clocks track).clockRate ≤ H264_CLOCK_RATE := by
    obtain hrate | hrate := clockRate_cases hrates track
    · rw [hrate]
      decide
    · exact hrate.le
  apply forward_of_ticks
  · exact RtpClock.ticksAt_mono _ (by omega)
  · exact RtpClock.ticksAt_lt hrate (by omega) (by omega)

/-- A unit that a step sends is in its place, and its frame, if it has one, is on a line. -/
theorem placed_of_sends (hrates : ∀ track, (clocks track).clockRate = track.clockRate)
    (hrunning : Running clocks run) (hread : ∀ unit ∈ run.sent, unit.readAt ≤ run.readAt)
    (hok : Orderly run (action, stream)) (hrange : InRange clocks (action, stream))
    (hunit : run.task.Sends action stream after unit) :
    Placed clocks run.sent unit ∧ after.epoch ≤ run.task.resyncEpoch ∧
      ∃ line, Lines clocks line (unit :: run.sent) after := by
  obtain ⟨line, hlines⟩ := hrunning.lines
  have hlater : ∀ n, ∀ before ∈ run.sent, before.readAt ≤ stream.now n :=
    fun n before hbefore => (hread before hbefore).trans (hok.read_le n)
  cases hunit with
  | silence timestamp hnext hafter =>
    subst hafter
    have hother := @not_isLiveIn_of_silence ⟨.audio, .silence, timestamp, stream.now 0⟩ rfl
    refine ⟨⟨hlater 0, ?_, ?_, ?_, ?_⟩, hrunning.epoch, line, hlines.skip hother⟩
    · intro _ before hbefore
      exact hrunning.next timestamp before hnext hbefore
    · intro hsource
      cases hsource
    · intro epoch hlive
      exact absurd hlive (hother epoch)
    · intro session epoch media hsource
      cases hsource
  | placeholder clock hclock hafter =>
    subst hafter
    obtain rfl := hrunning.clock .video clock hclock
    have hother := @not_isLiveIn_of_placeholder
      ⟨.video, .placeholder, (clocks .video).timestamp (stream.now 0), stream.now 0⟩ rfl
    refine ⟨⟨hlater 0, ?_, ?_, ?_, ?_⟩, hrunning.epoch, line, hlines.skip hother⟩
    · intro hsource
      cases hsource
    · intro _
      rfl
    · intro epoch hlive
      exact absurd hlive (hother epoch)
    · intro session epoch media hsource
      cases hsource
  | live frame clock readAt hframe hclock hreadAt hafter =>
    subst hafter
    obtain rfl := hrunning.clock frame.track clock hclock
    have hlater' : ∀ before ∈ run.sent, before.readAt ≤ readAt := by
      obtain rfl | rfl := hreadAt
      · exact hlater 0
      · exact hlater 1
    have hticks : (clocks frame.track).mediaTicks readAt < 2 ^ 46 := by
      obtain rfl | rfl := hreadAt
      · exact hrange.listening frame.track 0
      · exact hrange.listening frame.track 1
    obtain ⟨line', hlines', hfirst⟩ := hlines.map hrunning.epoch frame.track frame.session
      (hrange.media frame hframe) hticks
    refine ⟨⟨hlater', ?_, ?_, ?_, ?_⟩, le_rfl, line', hlines'⟩
    · intro hsource
      cases hsource
    · intro hsource
      cases hsource
    · rintro epoch ⟨session, media, hsource⟩ hnone
      cases hsource
      obtain ⟨htimestamp, -⟩ := hlines'.unit _ List.mem_cons_self _ _ _ rfl
      rw [hfirst hnone] at htimestamp
      rw [htimestamp]
      exact atClock_mediaTimestamp hrates frame.track hticks
    · intro session epoch media hsource before hbefore htrack mediaBefore hsourceBefore hlt
      cases hsource
      have hle := hok.session frame hframe before hbefore htrack _ _ hsourceBefore
      obtain ⟨htimestamp, -⟩ := hlines'.unit _ List.mem_cons_self _ _ _ rfl
      obtain ⟨htimestampBefore, -⟩ :=
        hlines'.unit before (List.mem_cons_of_mem _ hbefore) _ _ _ hsourceBefore
      rw [htimestamp, htimestampBefore, htrack]
      exact forward_of_line hrates frame.track _ hle hlt

/-- A unit that is sent joins the history. -/
theorem OnTime.push {run' : MediaRun ρ} (h : OnTime clocks run)
    (hrates : ∀ track, (clocks track).clockRate = track.clockRate)
    (hpoint : run.task.point ≠ .ended) (hok : Orderly run (action, stream))
    (hrange : InRange clocks (action, stream))
    (hunit : run.task.Sends action stream run'.task.timeline unit)
    (hsent : run'.sent = unit :: run.sent) (hread : stream.now 3 = run'.readAt)
    (hclock : run'.task.clock = run.task.clock)
    (hepoch : run.task.resyncEpoch ≤ run'.task.resyncEpoch)
    (hnext : ∀ timestamp before, run'.task.nextTimestamp = some timestamp →
      run'.sent.find? (fun unit => unit.track = .audio) = some before →
        timestamp = following before.timestamp) : OnTime clocks run' := by
  have hrunning := h.running hpoint
  obtain ⟨hplaced, hline, hlines⟩ := placed_of_sends hrates hrunning h.read hok hrange hunit
  refine ⟨?_, ?_, fun _ => ⟨?_, hline.trans hepoch, hnext, ?_⟩⟩
  · rw [hsent]
    exact ⟨hplaced, h.placed⟩
  · rw [hsent, ← hread]
    intro before hbefore
    obtain rfl | hbefore := List.mem_cons.mp hbefore
    · exact readAt_of_sends hok hunit
    · exact (h.read before hbefore).trans (hok.read_le 3)
  · rw [hclock]
    exact hrunning.clock
  · rw [hsent]
    exact hlines

theorem OnTime.step {config : MediaTaskConfig} {run' : MediaRun ρ} (h : OnTime clocks run)
    (hrates : ∀ track, (clocks track).clockRate = track.clockRate)
    (hok : Orderly run (action, stream)) (hrange : InRange clocks (action, stream))
    (hstep : MediaRun.step config run (action, stream) = some run') : OnTime clocks run' := by
  obtain ⟨outcome, houtcome, rfl⟩ := Option.map_eq_some_iff.mp hstep
  have hpoint := MediaTask.point_of_performed (MediaTask.performed_of_step houtcome)
  have hclock : outcome.task.clock = run.task.clock := MediaTask.clock_of_step houtcome
  have hepoch : run.task.resyncEpoch ≤ outcome.task.resyncEpoch := by
    obtain hsame | hloaded := MediaTask.resyncEpoch_of_step houtcome
    · exact hsame.ge
    · exact hok.epoch.trans hloaded.ge
  have hread : ∀ unit ∈ run.sent, unit.readAt ≤ stream.now 3 :=
    fun unit hunit => (h.read unit hunit).trans (hok.read_le 3)
  cases MediaTask.effect_of_step houtcome with
  | ended hsent hend =>
    have hkept := run.sent_record_of_none stream hsent
    refine ⟨hkept ▸ h.placed, hkept ▸ hread, ?_⟩
    intro hnot
    exact absurd hend hnot
  | quiet hsent hnext htimeline =>
    have hkept := run.sent_record_of_none stream hsent
    have hrunning := h.running hpoint
    refine ⟨hkept ▸ h.placed, hkept ▸ hread, fun _ => ⟨?_, ?_, ?_, ?_⟩⟩
    · exact hclock ▸ hrunning.clock
    · exact (htimeline ▸ hrunning.epoch).trans hepoch
    · rw [hkept]
      exact fun timestamp before htimestamp =>
        hrunning.next timestamp before (hnext.symm.trans htimestamp)
    · rw [hkept]
      exact htimeline ▸ hrunning.lines
  | audio unit htrack hsent hunit hnext =>
    have hcons := run.sent_record_of_some stream hsent
    refine h.push hrates hpoint hok hrange hunit hcons rfl hclock hepoch ?_
    intro timestamp before htimestamp hbefore
    rw [hcons, List.find?_cons_of_pos (by simpa using htrack)] at hbefore
    obtain rfl := Option.some.inj hbefore
    exact Option.some.inj (htimestamp.symm.trans hnext)
  | video unit htrack hsent hunit hnext =>
    have hcons := run.sent_record_of_some stream hsent
    refine h.push hrates hpoint hok hrange hunit hcons rfl hclock hepoch ?_
    intro timestamp before htimestamp hbefore
    rw [hcons, List.find?_cons_of_neg (by simp [htrack])] at hbefore
    exact (h.running hpoint).next timestamp before (hnext.symm.trans htimestamp) hbefore

end

/-! ## What a place means -/

theorem AllPlaced.suffix {clocks : RtspTrack → RtpClock} {sent earlier : List SentUnit}
    {unit : SentUnit} (h : AllPlaced clocks sent) (hsuffix : unit :: earlier <:+ sent) :
    Placed clocks earlier unit ∧ AllPlaced clocks earlier := by
  induction sent with
  | nil => cases List.suffix_nil.mp hsuffix
  | cons newest sent ih =>
    obtain hsame | hsuffix := List.suffix_cons_iff.mp hsuffix
    · cases hsame
      exact h
    · exact ih h.2 hsuffix

theorem AllPlaced.placeholder {clocks : RtspTrack → RtpClock} {sent : List SentUnit}
    {unit : SentUnit} (h : AllPlaced clocks sent) (hunit : unit ∈ sent)
    (hsource : unit.source = .placeholder) :
    unit.timestamp = (clocks unit.track).timestamp unit.readAt := by
  induction sent with
  | nil => cases hunit
  | cons newest sent ih =>
    obtain rfl | hunit := List.mem_cons.mp hunit
    · exact h.1.placeholder hsource
    · exact ih h.2 hunit

/-- How RTP time goes on at a unit. A unit of the same time base as an earlier one does not go
back behind it, unless half the range of timestamps has passed in between. At a change of the
base, a placeholder or the first frame of an epoch is at the listener's clock, so by more than
two ticks it goes back only behind a unit that was ahead of the clock. -/
structure Steady (clocks : RtspTrack → RtpClock) (earlier : List SentUnit) (unit : SentUnit) :
    Prop where
  silence : unit.source = .silence →
    ∀ before, earlier.find? (fun before => before.track = unit.track) = some before →
      unit.timestamp = following before.timestamp
  placeholder : unit.source = .placeholder →
    ∀ before ∈ earlier, before.track = unit.track → before.source = .placeholder →
      (clocks unit.track).ticks unit.readAt < (clocks unit.track).ticks before.readAt + 2 ^ 31 →
      Forward before.timestamp unit.timestamp
  live : ∀ session epoch mediaTimestamp, unit.source = .live session epoch mediaTimestamp →
    ∀ before ∈ earlier, before.track = unit.track →
    ∀ mediaBefore, before.source = .live session epoch mediaBefore →
      mediaTimestamp < mediaBefore + 2 ^ 30 → Forward before.timestamp unit.timestamp
  clock : unit.source = .placeholder ∨ (∃ epoch, unit.IsLiveIn epoch ∧
      ∀ before ∈ earlier, ¬ before.IsLiveIn epoch) →
    AtClock (clocks unit.track) unit.readAt unit.timestamp ∧
    ∀ before ∈ earlier, before.track = unit.track → ∀ lag,
      (clocks unit.track).timestamp before.readAt = before.timestamp + UInt32.ofNat lag →
      (clocks unit.track).ticks unit.readAt + lag + 2 <
        (clocks unit.track).ticks before.readAt + 2 ^ 31 →
      Forward before.timestamp (unit.timestamp + 2)

/-- A round of the loop at one instant. -/
structure Round where
  now : Nat
  resyncEpoch : Nat := 0
  streamer : Bool := true
  videoActive : Bool := true
  event : TaskAction

def Round.stream (round : Round) : ChannelView Unit where
  resyncEpoch := round.resyncEpoch
  streamer := round.streamer
  videoActive := round.videoActive
  audioRx := ()
  videoRx := ()
  queued := 0
  now := fun _ => round.now
  ntp := (0, 0)

def roundLabels (rounds : List Round) : List (TaskAction × ChannelView Unit) :=
  rounds.flatMap (fun round => [.next, .next, .next, .next, round.event].map (·, round.stream))

section

variable {rounds : List Round} {run : MediaRun Unit} {label : TaskAction × ChannelView Unit}

end

/-- A stream of one audio frame each round. -/
def audioFrame (mediaTimestamp : Nat) : TaskAction :=
  .audio (.message (.ok (.frame 0 [1] mediaTimestamp 0)))

def keyframe (mediaTimestamp : Nat) : TaskAction :=
  .video (.message (.ok (.frame ⟨0, [0, 0, 1, 0x65, 1], true, false, mediaTimestamp, 0⟩)))

def sampleConfig : MediaTaskConfig := ⟨⟨[0, 0, 1, 0x65, 1], [0, 0, 1, 0x65, 1]⟩, false, []⟩

end VRCStreamer
