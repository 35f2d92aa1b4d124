import Mathlib.Algebra.Order.Ring.Abs
import Mathlib.Algebra.Order.Ring.Int
import VRCStreamer.Rtp.Clock
import VRCStreamer.Rtsp.Uri

/-!
# The media timeline of a listener

`RtpMediaTimeline` of `rtsp.rs` places the media timestamps of both tracks on the
listener's time axis. In one epoch the first call fixes an offset, and moving the anchor
later never changes it.
-/

namespace VRCStreamer

structure RtpMediaAnchor where
  sourceTimestamp : Nat
  playTimestamp : Int
  deriving DecidableEq

structure RtpMediaTimeline where
  epoch : Nat := 0
  anchor : Option RtpMediaAnchor := none
  deriving DecidableEq

def MEDIA_TIMELINE_REANCHOR_TICKS : Int := MEDIA_CLOCK_RATE * 60 * 30

/-- The difference of two `u64` timestamps, bounded by the range of `i64`. -/
def mediaDelta (anchor : RtpMediaAnchor) (sourceTimestamp : Nat) : Int :=
  if anchor.sourceTimestamp ≤ sourceTimestamp then
    (min (sourceTimestamp - anchor.sourceTimestamp) (2 ^ 63 - 1) : Nat)
  else -(min (anchor.sourceTimestamp - sourceTimestamp) (2 ^ 63 - 1) : Nat)

namespace RtpMediaTimeline

/-- The anchor for a call: none is left over from another epoch, and the first call of an
epoch sets one at the clock. -/
def anchorFor (timeline : RtpMediaTimeline) (epoch sourceTimestamp : Nat) (clock : RtpClock)
    (now : Nat) : RtpMediaAnchor :=
  let anchor := if timeline.epoch ≠ epoch then none else timeline.anchor
  anchor.getD ⟨sourceTimestamp, clock.mediaTimestamp now⟩

def map (timeline : RtpMediaTimeline) (epoch sourceTimestamp : Nat) (clock : RtpClock)
    (now : Nat) : UInt32 × RtpMediaTimeline :=
  let anchor := timeline.anchorFor epoch sourceTimestamp clock now
  let delta := mediaDelta anchor sourceTimestamp
  let playTimestamp := saturateI64 (anchor.playTimestamp + delta)
  let anchor :=
    if MEDIA_TIMELINE_REANCHOR_TICKS ≤ delta then ⟨sourceTimestamp, playTimestamp⟩ else anchor
  (clock.timestampAt playTimestamp, ⟨epoch, some anchor⟩)

end RtpMediaTimeline

/-- The anchor lies on the line with an offset. -/
structure RtpMediaAnchor.On (anchor : RtpMediaAnchor) (offset : Int) : Prop where
  play : anchor.playTimestamp = offset + anchor.sourceTimestamp
  source : anchor.sourceTimestamp < 2 ^ 63

theorem mediaDelta_eq {anchor : RtpMediaAnchor} {sourceTimestamp : Nat}
    (hanchor : anchor.sourceTimestamp < 2 ^ 63) (hsource : sourceTimestamp < 2 ^ 63) :
    mediaDelta anchor sourceTimestamp = sourceTimestamp - anchor.sourceTimestamp := by
  rw [mediaDelta]
  split <;> omega

namespace RtpMediaTimeline

variable {timeline : RtpMediaTimeline} {epoch sourceTimestamp now : Nat} {clock : RtpClock}
variable {offset : Int}

/-- The timeline has an anchor for an epoch, on the line with an offset. -/
def On (timeline : RtpMediaTimeline) (epoch : Nat) (offset : Int) : Prop :=
  timeline.epoch = epoch ∧ ∃ anchor, timeline.anchor = some anchor ∧ anchor.On offset

/-- The timeline has no anchor for an epoch. -/
def Fresh (timeline : RtpMediaTimeline) (epoch : Nat) : Prop :=
  timeline.epoch = epoch → timeline.anchor = none

theorem anchorFor_of_on (h : timeline.On epoch offset) :
    (timeline.anchorFor epoch sourceTimestamp clock now).On offset := by
  obtain ⟨rfl, anchor, hanchor, hon⟩ := h
  show RtpMediaAnchor.On (Option.getD (if timeline.epoch ≠ timeline.epoch then none
    else timeline.anchor) _) offset
  rw [if_neg (not_not_intro rfl), hanchor]
  exact hon

/-- The first call of an epoch lays the line through its own source and the clock. -/
theorem anchorFor_of_fresh (h : timeline.Fresh epoch) (hsource : sourceTimestamp < 2 ^ 63) :
    (timeline.anchorFor epoch sourceTimestamp clock now).On
      (clock.mediaTimestamp now - sourceTimestamp) := by
  have hnone : (if timeline.epoch ≠ epoch then none else timeline.anchor) = none := by
    split
    next => rfl
    next hsame => exact h (not_not.mp hsame)
  have hanchor : timeline.anchorFor epoch sourceTimestamp clock now =
      ⟨sourceTimestamp, clock.mediaTimestamp now⟩ := by
    show Option.getD (if timeline.epoch ≠ epoch then none else timeline.anchor) _ = _
    rw [hnone]
    rfl
  rw [hanchor]
  constructor
  · dsimp only
    omega
  · dsimp only
    exact hsource

/-- A call returns the point above its source on the line, and a new anchor lies on the
same line. -/
theorem map_of_anchorFor (h : (timeline.anchorFor epoch sourceTimestamp clock now).On offset)
    (hsource : sourceTimestamp < 2 ^ 63) (hlow : -2 ^ 63 ≤ offset + sourceTimestamp)
    (hhigh : offset + sourceTimestamp < 2 ^ 63) :
    (timeline.map epoch sourceTimestamp clock now).1 =
        clock.timestampAt (offset + sourceTimestamp) ∧
      (timeline.map epoch sourceTimestamp clock now).2.On epoch offset := by
  have hplay : saturateI64
      ((timeline.anchorFor epoch sourceTimestamp clock now).playTimestamp +
        mediaDelta (timeline.anchorFor epoch sourceTimestamp clock now) sourceTimestamp) =
      offset + sourceTimestamp := by
    rw [mediaDelta_eq h.source hsource, h.play]
    have hsum : offset + (timeline.anchorFor epoch sourceTimestamp clock now).sourceTimestamp +
        (sourceTimestamp - (timeline.anchorFor epoch sourceTimestamp clock now).sourceTimestamp) =
        offset + sourceTimestamp := by omega
    rw [hsum]
    exact saturateI64_of_lt hlow hhigh
  refine ⟨congrArg clock.timestampAt hplay, rfl, _, rfl, ?_⟩
  rw [hplay]
  split
  next => exact ⟨rfl, hsource⟩
  next => exact h

end RtpMediaTimeline

/-! ## Runs of calls -/

def RtspTrack.clockRate : RtspTrack → Nat
  | .audio => AAC_SAMPLE_RATE
  | .video => H264_CLOCK_RATE

/-- The clocks of the two tracks start together. -/
def trackClock (startedAt : Nat) (base : RtspTrack → UInt32) (track : RtspTrack) : RtpClock :=
  ⟨startedAt, base track, track.clockRate⟩

/-- A call of `map` by one of the two tracks. -/
structure TimelineCall where
  epoch : Nat
  track : RtspTrack
  mediaTimestamp : Nat
  now : Nat
  deriving DecidableEq

namespace RtpMediaTimeline

variable {clocks : RtspTrack → RtpClock} {timeline : RtpMediaTimeline} {offset : Int}
variable {calls : List TimelineCall} {epoch : Nat}

def mapCall (clocks : RtspTrack → RtpClock) (timeline : RtpMediaTimeline) (call : TimelineCall) :
    UInt32 × RtpMediaTimeline :=
  timeline.map call.epoch call.mediaTimestamp (clocks call.track) call.now

/-- The calls of a run with their timestamps. -/
def mapAll (clocks : RtspTrack → RtpClock) (timeline : RtpMediaTimeline) :
    List TimelineCall → List (TimelineCall × UInt32)
  | [] => []
  | call :: calls =>
    (call, (timeline.mapCall clocks call).1) :: mapAll clocks (timeline.mapCall clocks call).2 calls

theorem fst_mem_of_mem_mapAll {p : TimelineCall × UInt32} (hp : p ∈ timeline.mapAll clocks calls) :
    p.1 ∈ calls := by
  induction calls generalizing timeline with
  | nil => simp [mapAll] at hp
  | cons call calls ih =>
    obtain rfl | hp := List.mem_cons.mp hp
    · exact List.mem_cons_self
    · exact List.mem_cons_of_mem call (ih hp)

/-- The timeline after a run. -/
def mapped (clocks : RtspTrack → RtpClock) (timeline : RtpMediaTimeline)
    (calls : List TimelineCall) : RtpMediaTimeline :=
  calls.foldl (fun timeline call => (timeline.mapCall clocks call).2) timeline

/-- The calls stay on the line, within the range of the code's integers. -/
def InRange (offset : Int) (calls : List TimelineCall) : Prop :=
  ∀ call ∈ calls, call.mediaTimestamp < 2 ^ 63 ∧
    -2 ^ 63 ≤ offset + call.mediaTimestamp ∧ offset + call.mediaTimestamp < 2 ^ 63

/-- From an anchor on a line, every call of the epoch returns its point on the line. -/
theorem mapAll_of_on (h : timeline.On epoch offset) (hepoch : ∀ call ∈ calls, call.epoch = epoch)
    (hrange : InRange offset calls) :
    ∀ p ∈ timeline.mapAll clocks calls,
      p.2 = (clocks p.1.track).timestampAt (offset + p.1.mediaTimestamp) := by
  induction calls generalizing timeline with
  | nil => simp [mapAll]
  | cons call calls ih =>
    obtain ⟨hcall, hcalls⟩ := List.forall_mem_cons.mp hrange
    obtain ⟨rfl, hepochs⟩ := List.forall_mem_cons.mp hepoch
    have hline : (timeline.anchorFor call.epoch call.mediaTimestamp (clocks call.track)
        call.now).On offset :=
      anchorFor_of_on h
    obtain ⟨hpoint, hon⟩ := map_of_anchorFor hline hcall.1 hcall.2.1 hcall.2.2
    intro p hp
    obtain rfl | hp := List.mem_cons.mp hp
    · exact hpoint
    · exact ih hon hepochs hcalls p hp

/-- The first call of a run chooses the line, all others keep to it. -/
theorem mapAll_of_anchorFor {call : TimelineCall}
    (h : (timeline.anchorFor call.epoch call.mediaTimestamp (clocks call.track) call.now).On offset)
    (hepoch : ∀ next ∈ calls, next.epoch = call.epoch) (hrange : InRange offset (call :: calls)) :
    ∀ p ∈ timeline.mapAll clocks (call :: calls),
      p.2 = (clocks p.1.track).timestampAt (offset + p.1.mediaTimestamp) := by
  obtain ⟨hcall, hcalls⟩ := List.forall_mem_cons.mp hrange
  obtain ⟨hpoint, hon⟩ := map_of_anchorFor h hcall.1 hcall.2.1 hcall.2.2
  intro p hp
  obtain rfl | hp := List.mem_cons.mp hp
  · exact hpoint
  · exact mapAll_of_on hon hepoch hcalls p hp

/-- Along a run, a call whose ticks are in range returns its point on the line as long as the
calls before it have stayed on the line. -/
theorem mapAll_split_of_on (h : timeline.On epoch offset)
    (hepoch : ∀ call ∈ calls, call.epoch = epoch) {before after : List (TimelineCall × UInt32)}
    {p : TimelineCall × UInt32} (hsplit : timeline.mapAll clocks calls = before ++ p :: after)
    (hbefore : InRange offset (before.map Prod.fst)) (hp : InRange offset [p.1]) :
    p.2 = (clocks p.1.track).timestampAt (offset + p.1.mediaTimestamp) := by
  induction calls generalizing timeline before with
  | nil => simp [mapAll] at hsplit
  | cons call calls ih =>
    obtain ⟨hcall, hcalls⟩ := List.forall_mem_cons.mp hepoch
    subst hcall
    have hline : (timeline.anchorFor call.epoch call.mediaTimestamp (clocks call.track)
        call.now).On offset :=
      anchorFor_of_on h
    rw [mapAll] at hsplit
    cases before with
    | nil =>
      obtain ⟨rfl, -⟩ := List.cons.inj hsplit
      obtain ⟨hsource, hlow, hhigh⟩ := hp call List.mem_cons_self
      exact (map_of_anchorFor hline hsource hlow hhigh).1
    | cons first before =>
      obtain ⟨rfl, hrest⟩ := List.cons.inj hsplit
      obtain ⟨hfirst, hbefore⟩ := List.forall_mem_cons.mp hbefore
      obtain ⟨-, hon⟩ := map_of_anchorFor hline hfirst.1 hfirst.2.1 hfirst.2.2
      exact ih hon hcalls hrest hbefore

/-- The ticks of the second clock, `trunc(media * clock_rate / 48000)`. -/
theorem toNat_timestampAt {clock : RtpClock} {media : Int}
    (hrange : |media| * clock.clockRate < 2 ^ 63) :
    ((clock.timestampAt media).toNat : Int) =
      (clock.baseTimestamp.toNat + (media * clock.clockRate).tdiv MEDIA_CLOCK_RATE) % 2 ^ 32 := by
  have habs : |media * clock.clockRate| < 2 ^ 63 := by
    rw [abs_mul, Nat.abs_cast]
    exact hrange
  obtain ⟨hlow, hhigh⟩ := abs_lt.mp habs
  rw [RtpClock.timestampAt_eq hlow.le hhigh, ← RtpClock.toNat_add_ofInt]
  have hlt := (clock.baseTimestamp +
    UInt32.ofInt ((media * clock.clockRate).tdiv MEDIA_CLOCK_RATE)).toNat_lt
  omega

/-- The sources of calls lie where the code's integers neither wrap nor saturate. -/
def Reaches (offset : Int) (calls : List TimelineCall) : Prop :=
  ∀ call ∈ calls, call.mediaTimestamp < 2 ^ 63 ∧ |offset + call.mediaTimestamp| < 2 ^ 63

instance (offset : Int) (calls : List TimelineCall) : Decidable (Reaches offset calls) :=
  inferInstanceAs (Decidable (∀ call ∈ calls, _ ∧ _))

theorem Reaches.inRange (h : Reaches offset calls) : InRange offset calls := by
  intro call hcall
  obtain ⟨hsource, habs⟩ := h call hcall
  obtain ⟨hlow, hhigh⟩ := abs_lt.mp habs
  exact ⟨hsource, hlow.le, hhigh⟩

/-- In one epoch the first call fixes a number by which every call is one affine function of its
source, as long as no call so far has left the range. -/
theorem map_affine (startedAt : Nat) (base : RtspTrack → UInt32) (timeline : RtpMediaTimeline)
    (first : TimelineCall) (calls : List TimelineCall) (hfresh : timeline.Fresh first.epoch)
    (hepoch : ∀ call ∈ calls, call.epoch = first.epoch) :
    let clocks := trackClock startedAt base
    let K := (clocks first.track).mediaTimestamp first.now - first.mediaTimestamp
    ∀ before p after, timeline.mapAll clocks (first :: calls) = before ++ p :: after →
      Reaches K (before.map Prod.fst) → p.1.mediaTimestamp < 2 ^ 63 →
      |K + p.1.mediaTimestamp| * p.1.track.clockRate < 2 ^ 63 →
      (p.2.toNat : Int) = ((base p.1.track).toNat +
        ((K + p.1.mediaTimestamp) * p.1.track.clockRate).tdiv 48000) % 2 ^ 32 := by
  intro clocks K before p after hsplit hbefore hsource hrange
  have hline : ∀ hfirst : first.mediaTimestamp < 2 ^ 63,
      (timeline.anchorFor first.epoch first.mediaTimestamp (clocks first.track) first.now).On K :=
    fun hfirst => anchorFor_of_fresh hfresh hfirst
  have hrate : (1 : Int) ≤ p.1.track.clockRate := by
    cases p.1.track <;> decide
  have hp : InRange K [p.1] := by
    apply Reaches.inRange
    intro call hcall
    rw [List.mem_singleton.mp hcall]
    refine ⟨hsource, lt_of_le_of_lt ?_ hrange⟩
    exact le_mul_of_one_le_right (abs_nonneg _) hrate
  have hpoint : p.2 = (clocks p.1.track).timestampAt (K + p.1.mediaTimestamp) := by
    rw [mapAll] at hsplit
    cases before with
    | nil =>
      obtain ⟨rfl, -⟩ := List.cons.inj hsplit
      obtain ⟨hsource, hlow, hhigh⟩ := hp first List.mem_cons_self
      exact (map_of_anchorFor (hline hsource) hsource hlow hhigh).1
    | cons entry before =>
      obtain ⟨rfl, hrest⟩ := List.cons.inj hsplit
      obtain ⟨hentry, hbefore⟩ := List.forall_mem_cons.mp hbefore.inRange
      obtain ⟨-, hon⟩ := map_of_anchorFor (hline hentry.1) hentry.1 hentry.2.1 hentry.2.2
      exact mapAll_split_of_on hon hepoch hrest hbefore hp
  have hclock : (clocks p.1.track).clockRate = p.1.track.clockRate := rfl
  rw [hpoint, toNat_timestampAt (by rw [hclock]; exact hrange)]
  rfl

/-- Audio and video in turns, across a change of the anchor and back behind it. -/
theorem map_affine_small :
    let base : RtspTrack → UInt32 := fun _ => 7
    let clocks := trackClock 0 base
    let first : TimelineCall := ⟨1, .audio, 10000, 0⟩
    let late : TimelineCall := ⟨1, .video, 11024, 0⟩
    let K := (clocks first.track).mediaTimestamp first.now - first.mediaTimestamp
    (mapAll clocks {} [first, ⟨1, .video, 10000, 0⟩, ⟨1, .audio, 89290000, 0⟩, late]).map
        Prod.snd = [7, 7, 89280007, 1927] ∧
      ((1927 : UInt32).toNat : Int) = ((base late.track).toNat +
        ((K + late.mediaTimestamp) * late.track.clockRate).tdiv 48000) % 2 ^ 32 := by
  refine ⟨by decide, ?_⟩
  exact map_affine 0 (fun _ => 7) {} ⟨1, .audio, 10000, 0⟩
    [⟨1, .video, 10000, 0⟩, ⟨1, .audio, 89290000, 0⟩, ⟨1, .video, 11024, 0⟩] (fun _ => rfl)
    (by decide) [(⟨1, .audio, 10000, 0⟩, 7), (⟨1, .video, 10000, 0⟩, 7),
      (⟨1, .audio, 89290000, 0⟩, 89280007)] (⟨1, .video, 11024, 0⟩, 1927) [] (by decide)
    (by decide +kernel) (by decide) (by decide +kernel)

/-- A source beyond the range moves the anchor off the line: no number fits the first call and
the third. -/
theorem map_off_line :
    let calls : List TimelineCall := [⟨1, .audio, 0, 0⟩, ⟨1, .audio, 2 ^ 64 - 1, 0⟩,
      ⟨1, .audio, 48000, 0⟩]
    (mapAll (trackClock 0 (fun _ => 0)) {} calls).map Prod.snd =
        [0, UInt32.ofInt ((2 ^ 63 - 1) / 48000), 0] ∧
      ∀ K : Int, ((0 : UInt32).toNat : Int) = (0 + ((K + 0) * 48000).tdiv 48000) % 2 ^ 32 →
        ((0 : UInt32).toNat : Int) ≠ (0 + ((K + 48000) * 48000).tdiv 48000) % 2 ^ 32 := by
  refine ⟨by decide, ?_⟩
  intro K
  rw [Int.mul_tdiv_cancel _ (by decide), Int.mul_tdiv_cancel _ (by decide), UInt32.toNat_zero]
  omega

/-! ## Bounded runs -/

/-- The source and the clock of a call are below a bound. -/
structure CallBelow (clocks : RtspTrack → RtpClock) (bound : Nat) (call : TimelineCall) : Prop where
  source : call.mediaTimestamp < bound
  clock : (clocks call.track).mediaTicks call.now < bound

/-- An anchor, if there is one, lies on a line with an offset within a bound. -/
def Within (timeline : RtpMediaTimeline) (bound : Nat) : Prop :=
  ∀ anchor, timeline.anchor = some anchor →
    ∃ offset : Int, -bound < offset ∧ offset < bound ∧ anchor.On offset

variable {bound : Nat}

theorem Within.anchorFor (h : timeline.Within bound) (hbound : bound ≤ 2 ^ 62)
    {call : TimelineCall} (hcall : CallBelow clocks bound call) :
    ∃ offset : Int, -bound < offset ∧ offset < bound ∧
      (timeline.anchorFor call.epoch call.mediaTimestamp (clocks call.track) call.now).On
        offset := by
  have hsource := hcall.source
  have hticks := hcall.clock
  have hclock := (clocks call.track).mediaTimestamp_of_lt
    (show (clocks call.track).mediaTicks call.now < 2 ^ 63 by omega)
  by_cases hepoch : timeline.epoch = call.epoch
  · cases hanchor : timeline.anchor with
    | some anchor =>
      obtain ⟨offset, hlow, hhigh, hon⟩ := h anchor hanchor
      exact ⟨offset, hlow, hhigh, anchorFor_of_on ⟨hepoch, anchor, hanchor, hon⟩⟩
    | none =>
      exact ⟨_, by omega, by omega, anchorFor_of_fresh (fun _ => hanchor) (by omega)⟩
  · exact ⟨_, by omega, by omega, anchorFor_of_fresh (fun hsame => absurd hsame hepoch) (by omega)⟩

theorem inRange_of_callBelow (hbound : bound ≤ 2 ^ 62) (hlow : -bound < offset)
    (hhigh : offset < bound) (hcalls : ∀ call ∈ calls, CallBelow clocks bound call) :
    InRange offset calls := by
  intro call hcall
  have hsource := (hcalls call hcall).source
  omega

theorem Within.mapped (h : timeline.Within bound) (hbound : bound ≤ 2 ^ 62)
    (hcalls : ∀ call ∈ calls, CallBelow clocks bound call) :
    (timeline.mapped clocks calls).Within bound := by
  induction calls generalizing timeline with
  | nil => exact h
  | cons call calls ih =>
    obtain ⟨hcall, hrest⟩ := List.forall_mem_cons.mp hcalls
    obtain ⟨offset, hlow, hhigh, hon⟩ := h.anchorFor hbound hcall
    have hrange := inRange_of_callBelow hbound hlow hhigh hcalls call List.mem_cons_self
    obtain ⟨-, -, anchor, hanchor, honLine⟩ := map_of_anchorFor hon hrange.1 hrange.2.1 hrange.2.2
    apply ih _ hrest
    intro other hother
    obtain rfl := Option.some.inj (hanchor.symm.trans hother)
    exact ⟨offset, hlow, hhigh, honLine⟩

/-- All calls of one epoch that follow each other keep to one line. -/
theorem Within.exists_offset (h : timeline.Within bound) (hbound : bound ≤ 2 ^ 62)
    (hepoch : ∀ call ∈ calls, call.epoch = epoch)
    (hcalls : ∀ call ∈ calls, CallBelow clocks bound call) :
    ∃ offset : Int, -bound ≤ offset ∧ offset ≤ bound ∧ ∀ p ∈ timeline.mapAll clocks calls,
      p.2 = (clocks p.1.track).timestampAt (offset + p.1.mediaTimestamp) := by
  cases calls with
  | nil => exact ⟨0, by omega, by omega, by simp [mapAll]⟩
  | cons call calls =>
    obtain ⟨rfl, hepochs⟩ := List.forall_mem_cons.mp hepoch
    obtain ⟨offset, hlow, hhigh, hon⟩ := h.anchorFor hbound (hcalls call List.mem_cons_self)
    exact ⟨offset, hlow.le, hhigh.le,
      mapAll_of_anchorFor hon hepochs (inRange_of_callBelow hbound hlow hhigh hcalls)⟩

end RtpMediaTimeline

end VRCStreamer
