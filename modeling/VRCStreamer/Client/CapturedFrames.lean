import VRCStreamer.Client.FrameCustody

/-!
# Captured frames through the events of the worker

Every event keeps the custody of the captured frames, and draws no frame of an earlier source.
-/

namespace VRCStreamer

open Table Concurrency

namespace PacedWorker

variable {α : Type*}

/-- What is drawn, and what the encoder is shown, belongs to no earlier source. -/
def Shows (w w' : PacedWorker α) : Prop :=
  w.announced ⊆ w'.announced ∧ w.entered ⊆ w'.entered ∧
    ∃ drawn shown, w'.drawn = w.drawn ++ drawn ∧ w'.shown = w.shown ++ shown ∧
      ∀ frame ∈ drawn ++ shown, Follows w.announced w.entered frame

theorem Silent.shows {w w' : PacedWorker α} (h : w.Silent w') : w.Shows w' :=
  ⟨h.announced, h.entered, [], [], h.drawn.trans (List.append_nil _).symm,
    h.shown.trans (List.append_nil _).symm, List.forall_mem_nil _⟩

theorem Shows.trans {w w' w'' : PacedWorker α} (h : w.Shows w') (h' : w'.Shows w'') :
    w.Shows w'' := by
  obtain ⟨hannounced, hentered, drawn, shown, hdrawn, hshown, hallowed⟩ := h
  obtain ⟨hannounced', hentered', drawn', shown', hdrawn', hshown', hallowed'⟩ := h'
  refine ⟨List.Subset.trans hannounced hannounced', List.Subset.trans hentered hentered',
    drawn ++ drawn', shown ++ shown', ?_, ?_, ?_⟩
  · rw [hdrawn', hdrawn, List.append_assoc]
  · rw [hshown', hshown, List.append_assoc]
  · intro frame hframe
    have hcases : frame ∈ drawn ++ shown ∨ frame ∈ drawn' ++ shown' := by
      simp only [List.mem_append] at hframe ⊢
      tauto
    rcases hcases with hframe | hframe
    · exact hallowed frame hframe
    · obtain ⟨hlast, hbefore⟩ := hallowed' frame hframe
      exact ⟨fun g hg => hlast g (hannounced hg), fun g hg => hbefore g (hentered hg)⟩

/-! ## Frames for the encoder -/

/-- Only the picture and what is handed to the encoder change, and only by allowed frames. -/
structure Draws (w w' : PacedWorker α) (allowed : CapturedFrame → Prop) : Prop where
  only : w' = { w with
    canvas := w'.canvas
    drawn := w'.drawn
    shown := w'.shown
    handed := w'.handed
    forceNextKeyframe := w'.forceNextKeyframe
    lastKeyframeTimestampUs := w'.lastKeyframeTimestampUs }
  drawn : ∃ frames, w'.drawn = w.drawn ++ frames ∧ ∀ frame ∈ frames, allowed frame
  shown : ∃ frames, w'.shown = w.shown ++ frames ∧ ∀ frame ∈ frames, allowed frame
  canvas : w'.canvas = w.canvas ∨
    ∀ picture, w'.canvas = some picture → ∀ frame ∈ picture.frames, allowed frame

variable {w : PacedWorker α} {allowed : CapturedFrame → Prop} {source : Option CapturedFrame}
  {showPlaceholder : Bool} {canvas : CanvasPicture}

theorem Draws.refl (w : PacedWorker α) (allowed : CapturedFrame → Prop) : w.Draws w allowed :=
  ⟨rfl, ⟨[], (List.append_nil _).symm, List.forall_mem_nil _⟩,
    ⟨[], (List.append_nil _).symm, List.forall_mem_nil _⟩, .inl rfl⟩

/-- The picture that the encoder is shown. -/
theorem frames_drawOutput (hsource : ∀ frame, source = some frame → allowed frame)
    (hcanvas : source = none → showPlaceholder = false → ∀ frame ∈ canvas.frames, allowed frame) :
    ∀ frame ∈ ((w.drawOutput source showPlaceholder canvas).canvas.getD canvas).frames,
      allowed frame := by
  cases source with
  | some frame => exact List.forall_mem_singleton.mpr (hsource frame rfl)
  | none =>
    cases showPlaceholder with
    | true => exact List.forall_mem_nil _
    | false => exact hcanvas rfl rfl

theorem draws_drawOutput (hsource : ∀ frame, source = some frame → allowed frame)
    (hcanvas : w.canvas = some canvas) :
    w.Draws (w.drawOutput source showPlaceholder canvas) allowed := by
  cases source with
  | some frame =>
    refine ⟨rfl, ⟨[frame], rfl, List.forall_mem_singleton.mpr (hsource frame rfl)⟩,
      ⟨[], (List.append_nil _).symm, List.forall_mem_nil _⟩, .inr ?_⟩
    intro picture hpicture
    obtain rfl := Option.some.inj hpicture
    exact List.forall_mem_singleton.mpr (hsource frame rfl)
  | none =>
    refine ⟨rfl, ⟨[], (List.append_nil _).symm, List.forall_mem_nil _⟩,
      ⟨[], (List.append_nil _).symm, List.forall_mem_nil _⟩, ?_⟩
    cases showPlaceholder with
    | true =>
      refine .inr fun picture hpicture => ?_
      obtain rfl := Option.some.inj hpicture
      exact List.forall_mem_nil _
    | false => exact .inl hcanvas.symm

theorem draws_submitFrame (hsource : ∀ frame, source = some frame → allowed frame)
    (hcanvas : source = none → showPlaceholder = false →
      ∀ picture, w.canvas = some picture → ∀ frame ∈ picture.frames, allowed frame)
    (timestamp duration : Int) (conditions : EncoderConditions) :
    w.Draws (w.submitFrame source showPlaceholder timestamp duration conditions).1 allowed := by
  rw [submitFrame]
  split
  next => exact .refl w allowed
  next =>
    split
    next => exact .refl w allowed
    next =>
      split
      next => exact .refl w allowed
      next picture hpicture =>
        have hdraws : w.Draws (w.drawOutput source showPlaceholder picture) allowed :=
          draws_drawOutput hsource hpicture
        dsimp only
        split
        next => exact hdraws
        next =>
          refine ⟨?_, hdraws.drawn, ⟨_, rfl, ?_⟩, hdraws.canvas⟩
          · rw [hdraws.only]
          · exact frames_drawOutput hsource
              (fun hnone hshow => hcanvas hnone hshow picture hpicture)

/-- A submitted source is what the canvas shows. -/
theorem canvas_of_submitted {frame : CapturedFrame} {timestamp duration : Int}
    {conditions : EncoderConditions} (hsource : source = some frame)
    (h : (w.submitFrame source showPlaceholder timestamp duration conditions).2 = .submitted) :
    (w.submitFrame source showPlaceholder timestamp duration conditions).1.canvas =
      some (.captured frame) := by
  subst hsource
  rw [submitFrame] at h ⊢
  split at h
  next => cases h
  next hready =>
    rw [if_neg hready]
    split at h
    next => cases h
    next hroom =>
      rw [if_neg hroom]
      split at h
      next => cases h
      next picture hpicture =>
        dsimp only at h ⊢
        split at h
        next => cases h
        next hencodes =>
          rw [if_neg hencodes]
          rfl

theorem failBeside_closes (w : PacedWorker α) (generation : Option Nat)
    (closes : List CapturedFrame) :
    { w.failBeside generation with closes } = { w with closes }.failBeside generation := by
  rw [failBeside, failBeside, fail, fail]
  split <;> rfl

theorem Tended.withPacing (h : w.Tended) (pacing : FramePacing α) :
    Tended { w with pacing } :=
  h.of_view rfl rfl rfl

/-- A shown source has been rendered. -/
theorem Tended.render (h : w.Tended) {source : Option CapturedFrame}
    (hplaceholder : source.isSome = true → w.placeholder = false)
    (hcanvas : source.isSome = true → ∀ picture, w.canvas = some picture →
      ∀ frame ∈ picture.frames, Follows w.announced w.entered frame) :
    Tended { w with renderedSourceFrame := w.renderedSourceFrame || source.isSome } := by
  have hintact := h.intact
  refine h.of_keeps ⟨hintact.custody, hintact.numbered, hintact.loops, hintact.buffered,
    hintact.emptied, ?_, ?_, hintact.shut⟩ ⟨rfl, List.Subset.refl _, id, fun _ => id, id⟩ h.beside
    rfl
  · intro hclosed hshown
    cases source with
    | none => exact (Bool.or_false _).trans (hintact.calm hclosed hshown)
    | some frame => exact absurd ((hplaceholder rfl).symm.trans hshown) Bool.false_ne_true
  · intro hclosed hrendered
    cases source with
    | none => exact hintact.pictured hclosed ((Bool.or_false _).symm.trans hrendered)
    | some frame => exact hcanvas rfl

section Output

variable [Field α] [LinearOrder α]

/-- The frame that is taken is the oldest one. -/
theorem takeSource_cases (w : PacedWorker α) (ready : α) :
    w.takeSource ready = none ∨
      ∃ frame rest, w.takeSource ready = some frame ∧ w.sourceBuffer = frame :: rest ∧
        w.placeholder = false := by
  rw [takeSource]
  split
  next hready =>
    cases w.sourceBuffer with
    | nil => exact .inl rfl
    | cons frame rest =>
      exact .inr ⟨frame, rest, rfl, rfl, Bool.eq_false_of_not_eq_true hready.1⟩
  next => exact .inl rfl

/-- What the encoder may be shown. -/
theorem Intact.follows_source (h : w.Intact) (ready : α) :
    ∀ frame, w.takeSource ready = some frame → Follows w.announced w.entered frame := by
  intro frame hframe
  rcases w.takeSource_cases ready with hnone | ⟨first, rest, hfirst, hbuffer, -⟩
  · rw [hnone] at hframe
    cases hframe
  · rw [hfirst] at hframe
    obtain rfl := Option.some.inj hframe
    apply h.buffered
    rw [hbuffer]
    exact List.mem_cons_self

/-- A taken frame leaves the buffer to be closed. -/
theorem Intact.custody_taken (h : w.Intact) (ready : α) :
    Custody w.returned (w.closes ++ (w.takeSource ready).toList)
      (w.sourceBuffer.drop (w.takeSource ready).toList.length) := by
  have hcustody := h.custody
  rcases w.takeSource_cases ready with hnone | ⟨first, rest, hfirst, hbuffer, -⟩
  · rw [hnone, Option.toList_none, List.append_nil]
    exact hcustody
  · rw [hbuffer] at hcustody
    rw [hfirst, hbuffer]
    exact hcustody.release [] rest

/-- The frame of a call of `runPacing` is closed, whatever the encoder does with it. -/
theorem Intact.closeSource (h : w.Intact) (hclosed : w.closed = false) (ready : α)
    (pacing : FramePacing α) {w' : PacedWorker α}
    (hdraws : Draws { w with
        pacing
        sourceBuffer := w.sourceBuffer.drop (w.takeSource ready).toList.length }
      w' (Follows w.announced w.entered)) :
    PacedWorker.Intact { w' with closes := w'.closes ++ (w.takeSource ready).toList } := by
  have hsublist := List.drop_sublist (w.takeSource ready).toList.length w.sourceBuffer
  have hcanvas := hdraws.canvas
  rw [hdraws.only]
  refine ⟨h.custody_taken ready, h.numbered, h.loops, ?_, ?_, h.calm, ?_, h.shut.sublist hsublist⟩
  · exact fun frame hframe => h.buffered frame (hsublist.subset hframe)
  · intro hplaceholder
    have hempty : w.sourceBuffer.Sublist [] := by rw [h.emptied hplaceholder]
    exact List.sublist_nil.mp (hsublist.trans hempty)
  · intro _ hrendered picture hpicture
    rcases hcanvas with hsame | hallowed
    · exact h.pictured hclosed hrendered picture (hsame.symm.trans hpicture)
    · exact hallowed picture hpicture

theorem Tended.closeSource (h : w.Tended) (hclosed : w.closed = false) (ready : α)
    (pacing : FramePacing α) {w' : PacedWorker α}
    (hdraws : Draws { w with
        pacing
        sourceBuffer := w.sourceBuffer.drop (w.takeSource ready).toList.length }
      w' (Follows w.announced w.entered)) :
    PacedWorker.Tended { w' with closes := w'.closes ++ (w.takeSource ready).toList } := by
  refine h.of_open (h.intact.closeSource hclosed ready pacing hdraws) hclosed ?_ ?_ ?_ ?_ ?_
  all_goals rw [hdraws.only]
  exact id

variable [FloorRing α]

theorem Tended.scheduleNextFrame (h : w.Tended) (now : α) : (w.scheduleNextFrame now).Tended := by
  obtain ⟨pacing, heq⟩ := w.scheduleNextFrame_eq now
  rw [heq]
  exact h.withPacing pacing

theorem silent_scheduleNextFrame (w : PacedWorker α) (now : α) :
    w.Silent (w.scheduleNextFrame now) := by
  obtain ⟨pacing, heq⟩ := w.scheduleNextFrame_eq now
  rw [heq]
  exact .of_history rfl

theorem Tended.finishFrame {result : PacedWorker α × SubmitResult}
    (h : Tended { result.1 with closes := result.1.closes ++ source.toList })
    (hplaceholder : source.isSome = true → result.1.placeholder = false)
    (hcanvas : result.2 = .submitted → source.isSome = true →
      ∀ picture, result.1.canvas = some picture →
        ∀ frame ∈ picture.frames, Follows result.1.announced result.1.entered frame)
    (next : α) :
    (finishFrame source next result).Tended ∧ result.1.Silent (finishFrame source next result) := by
  obtain ⟨w', result⟩ := result
  have hsilent : w'.Silent { w' with closes := w'.closes ++ source.toList } :=
    .of_history rfl
  cases result with
  | submitted =>
    refine ⟨(h.render hplaceholder (hcanvas rfl)).scheduleNextFrame next, ?_⟩
    refine Silent.trans ?_ (silent_scheduleNextFrame _ next)
    exact .of_history rfl
  | skipped =>
    exact ⟨h.scheduleNextFrame next, hsilent.trans (silent_scheduleNextFrame _ next)⟩
  | failed =>
    show Tended { w'.failBeside none with closes := w'.closes ++ source.toList } ∧
      w'.Silent { w'.failBeside none with closes := w'.closes ++ source.toList }
    rw [failBeside_closes]
    exact ⟨h.failBeside none, hsilent.trans (h.intact.silent_failBeside none)⟩

/-- A frame is due while the worker is open. -/
theorem Tended.outputFrame (h : w.Tended) (hclosed : w.closed = false) (frameIndex : Int)
    (times : PacingTimes α) (conditions : EncoderConditions) :
    (w.outputFrame frameIndex times conditions).Tended ∧
      w.Shows (w.outputFrame frameIndex times conditions) := by
  have hcanvas : w.takeSource times.ready = none →
      (w.placeholder || (!w.renderedSourceFrame && (w.takeSource times.ready).isNone)) = false →
      ∀ picture, w.canvas = some picture →
        ∀ frame ∈ picture.frames, Follows w.announced w.entered frame := by
    intro hnone hshow
    rw [hnone, Option.isNone_none, Bool.and_true, Bool.or_eq_false_iff, Bool.not_eq_false'] at hshow
    exact h.intact.pictured hclosed hshow.2
  let taken : PacedWorker α := { w with
    pacing := w.pacing.setFrame frameIndex
    sourceBuffer := w.sourceBuffer.drop (w.takeSource times.ready).toList.length }
  let result := taken.submitFrame (w.takeSource times.ready)
    (w.placeholder || (!w.renderedSourceFrame && (w.takeSource times.ready).isNone))
    (w.pacing.frameTimestampUs frameIndex)
    (w.pacing.frameTimestampUs (frameIndex + 1) - w.pacing.frameTimestampUs frameIndex) conditions
  have hdraws : taken.Draws result.1 (Follows w.announced w.entered) :=
    draws_submitFrame (w := taken) (h.intact.follows_source times.ready) hcanvas _ _ _
  have hkept := h.closeSource hclosed times.ready (w.pacing.setFrame frameIndex) hdraws
  have hannounced : result.1.announced = w.announced := by rw [hdraws.only]
  have hentered : result.1.entered = w.entered := by rw [hdraws.only]
  have hplaceholder : (w.takeSource times.ready).isSome = true → result.1.placeholder = false := by
    intro hsome
    rw [hdraws.only]
    rcases w.takeSource_cases times.ready with hnone | ⟨frame, rest, -, -, hplaceholder⟩
    · rw [hnone] at hsome
      cases hsome
    · exact hplaceholder
  have hshown : result.2 = .submitted → (w.takeSource times.ready).isSome = true →
      ∀ picture, result.1.canvas = some picture →
        ∀ frame ∈ picture.frames, Follows result.1.announced result.1.entered frame := by
    intro hsubmitted hsome picture hpicture
    obtain ⟨frame, hframe⟩ := Option.isSome_iff_exists.mp hsome
    obtain rfl := Option.some.inj ((canvas_of_submitted hframe hsubmitted).symm.trans hpicture)
    rw [hannounced, hentered]
    exact List.forall_mem_singleton.mpr (h.intact.follows_source times.ready frame hframe)
  obtain ⟨htended, hsilent⟩ := hkept.finishFrame hplaceholder hshown times.next
  refine ⟨htended, ?_, ?_, ?_⟩
  · rw [← hannounced]
    exact hsilent.announced
  · rw [← hentered]
    exact hsilent.entered
  · obtain ⟨drawn, hdrawn, hallowed⟩ := hdraws.drawn
    obtain ⟨shown, hshown, hallowed'⟩ := hdraws.shown
    refine ⟨drawn, shown, hsilent.drawn.trans hdrawn, hsilent.shown.trans hshown, ?_⟩
    intro frame hframe
    exact (List.mem_append.mp hframe).elim (hallowed frame) (hallowed' frame)

/-- The timer fires, at any moment. -/
theorem Tended.runPacing [IsStrictOrderedRing α] {w' : PacedWorker α} (h : w.Tended)
    {times : PacingTimes α} {conditions : EncoderConditions}
    (hrun : w.runPacing times conditions = some w') : w'.Tended ∧ w.Shows w' := by
  rw [PacedWorker.runPacing] at hrun
  split at hrun
  next => cases hrun
  next =>
    obtain rfl := Option.some.inj hrun
    have hcleared : Tended { w with pacing := w.pacing.clearPacingTimer } := h.withPacing _
    have hsilent : w.Silent { w with pacing := w.pacing.clearPacingTimer } :=
      .of_history rfl
    dsimp only
    split
    next => exact ⟨hcleared, hsilent.shows⟩
    next hrunning =>
      split
      next =>
        split
        next => exact ⟨hcleared, hsilent.shows⟩
        next => exact ⟨h, (Silent.of_history rfl).shows⟩
      next =>
        have hclosed : w.closed = false :=
          Bool.eq_false_of_not_eq_true fun hclosed => hrunning (.inl hclosed)
        exact hcleared.outputFrame hclosed _ times conditions

end Output

end PacedWorker

end VRCStreamer
