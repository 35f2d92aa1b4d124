import VRCStreamer.Client.FrameTimestamps
import VRCStreamer.Client.Transport

/-!
# What a transport message does to the video worker

While the network is paused the worker hands no frame to the encoder, and the first frame after
it has handled `transport-resume` is a keyframe. A worker that closes itself hands over nothing
any more, so a message that it ignores does no harm. Until it has announced that it is ready, a
worker neither reads a source nor paces its output.
-/

namespace VRCStreamer

namespace PacedWorker

variable {α : Type*}

/-- Nothing is handed to the encoder, and a keyframe that is due stays due. -/
structure Holds (w w' : PacedWorker α) : Prop where
  handed : w'.handed = w.handed
  force : w.forceNextKeyframe = true → w'.forceNextKeyframe = true
  network : w'.closed = true ∨ w'.closed = w.closed ∧ w'.networkPaused = w.networkPaused

/-- One frame is handed to the encoder, as a keyframe if one is due. -/
structure Hands (w w' : PacedWorker α) : Prop where
  handed : ∃ frame : EncodedFrame α, w'.handed = w.handed ++ [frame] ∧
    (w.forceNextKeyframe = true → frame.keyFrame = true)
  running : ¬ w.Stopped
  network : w'.closed = w.closed ∧ w'.networkPaused = w.networkPaused

/-- The fields that the transport messages are about. -/
def upload (w : PacedWorker α) := (w.handed, w.forceNextKeyframe, w.closed, w.networkPaused)

variable {w w' w'' : PacedWorker α}

namespace Holds

theorem of_upload (h : w'.upload = w.upload) : w.Holds w' := by
  simp only [upload, Prod.mk.injEq] at h
  obtain ⟨hhanded, hforce, hclosed, hnetwork⟩ := h
  exact ⟨hhanded, fun htrue => hforce.trans htrue, .inr ⟨hclosed, hnetwork⟩⟩

theorem refl (w : PacedWorker α) : w.Holds w := of_upload rfl

theorem trans (h : w.Holds w') (h' : w'.Holds w'') : w.Holds w'' where
  handed := h'.handed.trans h.handed
  force htrue := h'.force (h.force htrue)
  network := by
    rcases h'.network with hclosed | ⟨hclosed, hnetwork⟩
    · exact .inl hclosed
    · rcases h.network with hfirst | ⟨hfirst, hpaused⟩
      · exact .inl (hclosed.trans hfirst)
      · exact .inr ⟨hclosed.trans hfirst, hnetwork.trans hpaused⟩

/-- Fields that the transport messages are not about may change. -/
theorem after (h : w.Holds w') (heq : w''.upload = w'.upload) : w.Holds w'' :=
  h.trans (of_upload heq)

theorem before {v : PacedWorker α} (h : v.Holds w') (heq : v.upload = w.upload) : w.Holds w' :=
  (of_upload heq).trans h

/-! ## Sources and closing -/

theorem endRead (h : w.Holds w') (generation : Nat) : w.Holds (w'.endRead generation) := by
  obtain ⟨sourceReader, heq⟩ := w'.endRead_eq generation
  rw [heq]
  exact h.after rfl

theorem readOn (h : w.Holds w') (generation : Nat) : w.Holds (w'.readOn generation) := by
  obtain ⟨reads, sourceReader, heq⟩ := w'.readOn_eq generation
  rw [heq]
  exact h.after rfl

theorem closeAll (h : w.Holds w') : w.Holds w'.closeAll.1 := ⟨h.handed, h.force, .inl rfl⟩

theorem fail (h : w.Holds w') : w.Holds w'.fail.1 := by
  rw [PacedWorker.fail]
  split
  next => exact h
  next =>
    apply closeAll
    exact h.after rfl

theorem failBeside (h : w.Holds w') (generation : Option Nat) :
    w.Holds (w'.failBeside generation) :=
  h.fail.after rfl

theorem failCommand (h : w.Holds w') : w.Holds w'.failCommand := h.fail.after rfl

theorem resumeClosing (h : w.Holds w') (closing : Closing) :
    w.Holds (w'.resumeClosing closing).1 := by
  rw [PacedWorker.resumeClosing]
  split
  next => exact h.after rfl
  next => exact h.after rfl
  next => exact h

theorem attachReader (h : w.Holds w') : w.Holds w'.attachReader := by
  obtain ⟨reads, sourceReader, heq⟩ := w'.attachReader_eq
  rw [heq]
  exact h.after rfl

/-! ## Output -/

variable [Field α] [LinearOrder α] [FloorRing α]

theorem scheduleNextFrame (h : w.Holds w') (now : α) : w.Holds (w'.scheduleNextFrame now) := by
  obtain ⟨pacing, heq⟩ := w'.scheduleNextFrame_eq now
  rw [heq]
  exact h.after rfl

theorem startCurrentOutput (h : w.Holds w') (now : α) : w.Holds (w'.startCurrentOutput now) := by
  obtain ⟨pacing, heq⟩ := w'.startCurrentOutput_eq now
  rw [heq]
  exact h.after rfl

/-- A gap in the audio clock makes a keyframe due. -/
theorem syncAudioClock (h : w.Holds w') (timestampSamples : Int) (now next : α) :
    w.Holds (w'.syncAudioClock timestampSamples now next) := by
  rw [PacedWorker.syncAudioClock]
  split
  next => exact h
  next =>
    split
    next => exact h
    next =>
      apply startCurrentOutput
      refine ⟨h.handed, fun htrue => ?_, h.network⟩
      exact Bool.or_eq_true_iff.mpr (.inl (h.force htrue))

theorem enterPlaceholder (h : w.Holds w') (now : α) : w.Holds (w'.enterPlaceholder now) := by
  apply startCurrentOutput
  exact ⟨h.handed, fun _ => rfl, h.network⟩

theorem onSourceFrame (h : w.Holds w') (frame : CapturedFrame) (ready now : α) :
    w.Holds (w'.onSourceFrame frame ready now) := by
  obtain ⟨closes, sourceBuffer, hroom, -, -⟩ := w'.makeRoom_eq
  rw [PacedWorker.onSourceFrame, hroom]
  apply startCurrentOutput
  refine ⟨h.handed, fun htrue => ?_, h.network⟩
  dsimp only
  split
  next => rfl
  next => exact h.force htrue

theorem leaveSource (h : w.Holds w') (now : α) : w.Holds (w'.leaveSource now) := by
  rw [PacedWorker.leaveSource]
  split
  next => exact h.enterPlaceholder now
  next => exact h

theorem attachSource (h : w.Holds w') (settlement : Settlement α) :
    w.Holds (w'.attachSource settlement) := by
  rw [PacedWorker.attachSource]
  dsimp only
  split
  next => exact (h.leaveSource settlement.now).failCommand
  next => exact (h.leaveSource settlement.now).attachReader.after rfl

/-! ## Reconfiguring -/

theorem reconfigureError (h : w.Holds w') (now : α) : w.Holds (w'.reconfigureError now) := by
  have hstarted : w.Holds ({ w' with paused := false }.startCurrentOutput now) := by
    apply startCurrentOutput
    exact h.after rfl
  exact hstarted.after rfl

theorem applyRate (h : w.Holds w') (rate : FrameRate) (settlement : Settlement α) :
    w.Holds (w'.applyRate rate settlement) := by
  rw [PacedWorker.applyRate]
  dsimp only
  split
  next =>
    apply reconfigureError
    exact h.after rfl
  next =>
    split
    next =>
      apply reconfigureError
      exact h.after rfl
    next => exact ⟨h.handed, fun _ => rfl, h.network⟩

end Holds

/-! ## Frames -/

theorem holds_drawOutput (w : PacedWorker α) (source : Option CapturedFrame)
    (showPlaceholder : Bool) (canvas : CanvasPicture) :
    w.Holds (w.drawOutput source showPlaceholder canvas) := by
  cases source with
  | none => exact .of_upload rfl
  | some frame => exact .of_upload rfl

/-- A frame is handed to the encoder only by a worker that runs. -/
theorem submitFrame_cases (w : PacedWorker α) (source : Option CapturedFrame)
    (showPlaceholder : Bool) (timestamp duration : Int) (conditions : EncoderConditions) :
    w.Holds (w.submitFrame source showPlaceholder timestamp duration conditions).1 ∨
      w.Hands (w.submitFrame source showPlaceholder timestamp duration conditions).1 ∧
        (w.submitFrame source showPlaceholder timestamp duration conditions).2 = .submitted := by
  rw [submitFrame]
  split
  next => exact .inl (.refl w)
  next hready =>
    simp only [not_or] at hready
    split
    next => exact .inl (.refl w)
    next =>
      split
      next => exact .inl (.refl w)
      next canvas hcanvas =>
        dsimp only
        split
        next => exact .inl (w.holds_drawOutput source showPlaceholder canvas)
        next =>
          refine .inr ⟨⟨⟨_, rfl, fun htrue => ?_⟩, hready.1, ?_⟩, rfl⟩
          · exact Bool.or_eq_true_iff.mpr (.inl htrue)
          · cases source with
            | none => exact ⟨rfl, rfl⟩
            | some frame => exact ⟨rfl, rfl⟩

theorem Hands.after (h : w.Hands w') (heq : w''.upload = w'.upload) : w.Hands w'' := by
  simp only [upload, Prod.mk.injEq] at heq
  obtain ⟨hhanded, -, hclosed, hnetwork⟩ := heq
  obtain ⟨frame, hframe, hkey⟩ := h.handed
  exact ⟨⟨frame, hhanded.trans hframe, hkey⟩, h.running,
    hclosed.trans h.network.1, hnetwork.trans h.network.2⟩

/-- What an event may do to a worker that is open for sources, in one step. -/
def Moves (w w' : PacedWorker α) : Prop := w.Holds w' ∨ w.Hands w'

/-- A worker may change in other fields before it moves. -/
theorem Moves.before {v : PacedWorker α} (h : v.Moves w') (heq : v.upload = w.upload)
    (hstopped : v.Stopped ↔ w.Stopped) : w.Moves w' := by
  rcases h with hholds | hhands
  · exact .inl (hholds.before heq)
  · simp only [upload, Prod.mk.injEq] at heq
    obtain ⟨hhanded, hforce, hclosed, hnetwork⟩ := heq
    obtain ⟨frame, hframe, hkey⟩ := hhands.handed
    exact .inr ⟨⟨frame, by rw [hframe, hhanded], fun htrue => hkey (hforce.trans htrue)⟩,
      hstopped.not.mp hhands.running, hhands.network.1.trans hclosed,
      hhands.network.2.trans hnetwork⟩

section Frames

variable [Field α] [LinearOrder α] [FloorRing α]

theorem moves_finishFrame {result : PacedWorker α × SubmitResult}
    (h : w.Holds result.1 ∨ w.Hands result.1 ∧ result.2 = .submitted)
    (source : Option CapturedFrame) (next : α) : w.Moves (finishFrame source next result) := by
  obtain ⟨w', result⟩ := result
  rcases h with hholds | ⟨hhands, hsubmitted⟩
  · left
    cases result with
    | submitted =>
      apply Holds.scheduleNextFrame
      exact hholds.after rfl
    | skipped =>
      apply Holds.scheduleNextFrame
      exact hholds.after rfl
    | failed => exact (hholds.failBeside none).after rfl
  · right
    obtain rfl : result = .submitted := hsubmitted
    obtain ⟨pacing, heq⟩ := scheduleNextFrame_eq
      { w' with
        renderedSourceFrame := w'.renderedSourceFrame || source.isSome
        closes := w'.closes ++ source.toList } next
    rw [finishFrame, heq]
    exact hhands.after rfl

theorem moves_outputFrame (w : PacedWorker α) (frameIndex : Int) (times : PacingTimes α)
    (conditions : EncoderConditions) : w.Moves (w.outputFrame frameIndex times conditions) := by
  let taken : PacedWorker α := { w with
    pacing := w.pacing.setFrame frameIndex
    sourceBuffer := w.sourceBuffer.drop (w.takeSource times.ready).toList.length }
  have hmoves : taken.Moves (w.outputFrame frameIndex times conditions) :=
    moves_finishFrame (taken.submitFrame_cases ..) _ times.next
  exact hmoves.before rfl Iff.rfl

variable [IsStrictOrderedRing α]

theorem moves_runPacing {times : PacingTimes α} {conditions : EncoderConditions}
    (hrun : w.runPacing times conditions = some w') : w.Moves w' := by
  rw [PacedWorker.runPacing, Option.ite_none_left_eq_some] at hrun
  obtain ⟨-, hrun⟩ := hrun
  obtain rfl := Option.some.inj hrun
  dsimp only
  split
  next => exact .inl (.of_upload rfl)
  next =>
    split
    next =>
      split
      next => exact .inl (.of_upload rfl)
      next => exact .inl (.refl w)
    next =>
      let cleared := { w with pacing := w.pacing.clearPacingTimer }
      exact (cleared.moves_outputFrame _ times conditions).before rfl Iff.rfl

end Frames

/-! ## Opening the worker -/

/-- `init` is under way. -/
def Booting (w : PacedWorker α) : Prop :=
  match w.command with
  | some (.init ..) | some (.encoderSupport _) | some (.placeholderImage _) => True
  | _ => False

/-- A `close` of the page is under way. -/
def Leaving (w : PacedWorker α) : Prop :=
  match w.command with
  | some (.close _) => True
  | _ => False

/-- The worker is not being opened, nor is it closed by the page if it was not before. -/
structure Stays (w w' : PacedWorker α) : Prop where
  done : ¬ w'.Booting
  leaving : w'.Leaving → w.Leaving

theorem Stays.of_command (hbooting : ¬ w.Booting) (hcommand : w'.command = w.command) :
    w.Stays w' where
  done := by
    rw [Booting, hcommand]
    exact hbooting
  leaving hleaving := by
    rw [Leaving, hcommand] at hleaving
    exact hleaving

/-- The worker is closed, or it runs and a keyframe is due. -/
def Due (w : PacedWorker α) : Prop :=
  w.closed = true ∨ w.networkPaused = false ∧ w.forceNextKeyframe = true

theorem Due.holds (h : w.Due) (hholds : w.Holds w') : w'.Due := by
  rcases hholds.network with hclosed | ⟨hclosed, hnetwork⟩
  · exact .inl hclosed
  · rcases h with hshut | ⟨hrunning, hforce⟩
    · exact .inl (hclosed.trans hshut)
    · exact .inr ⟨hnetwork.trans hrunning, hholds.force hforce⟩

/-- A worker that is being opened has nothing to encode. -/
structure Boots (w : PacedWorker α) : Prop where
  booting : w.Booting
  handed : w.handed = []
  timer : w.pacing.pacingTimer = false
  reads : w.reads = []
  shut : w.failed = true → w.closed = true
  due : w.Due

/-- `init` has ended with `ready` or with a failure. -/
structure Booted (w : PacedWorker α) (posts : List WorkerReply) : Prop where
  done : ¬ w.Booting
  stays : ¬ w.Leaving
  handed : w.handed = []
  due : w.Due
  ready : w.closed = true ∨ .ready ∈ posts

theorem closed_failCommand (h : w.failed = true → w.closed = true) :
    w.failCommand.closed = true := by
  rw [failCommand, fail]
  split
  next hfailed => exact h hfailed
  next => rfl

theorem booted_failCommand (h : w.failed = true → w.closed = true) (hhanded : w.handed = [])
    (posts : List WorkerReply) : w.failCommand.Booted posts where
  done := id
  stays := id
  handed := ((Holds.refl w).failCommand).handed.trans hhanded
  due := .inl (closed_failCommand h)
  ready := .inl (closed_failCommand h)

theorem resumeClosing_kept (w : PacedWorker α) (closing : Closing) :
    (w.resumeClosing closing).1.pacing = w.pacing ∧ (w.resumeClosing closing).1.reads = w.reads ∧
      (w.resumeClosing closing).1.failed = w.failed ∧
      (w.resumeClosing closing).1.closed = w.closed := by
  rw [resumeClosing]
  split
  next => exact ⟨rfl, rfl, rfl, rfl⟩
  next => exact ⟨rfl, rfl, rfl, rfl⟩
  next => exact ⟨rfl, rfl, rfl, rfl⟩

section Opening

variable [Field α] [LinearOrder α] [FloorRing α]

theorem Boots.openWorker (h : w.Boots) (message : InitMessage α) (settlement : Settlement α)
    {closing : Closing} (hstage : closing.stage = .returning) (posts : List WorkerReply) :
    (w.resumeCommand settlement (.init message closing)).Boots ∨
      (w.resumeCommand settlement (.init message closing)).Booted posts := by
  rw [resumeCommand, if_neg (not_not.mpr hstage)]
  split
  next =>
    right
    apply booted_failCommand
    · exact fun hfailed => absurd (hfailed : false = true) Bool.false_ne_true
    · exact h.handed
  next =>
    split
    next =>
      right
      apply booted_failCommand
      · exact fun hfailed => absurd (hfailed : false = true) Bool.false_ne_true
      · rfl
    next =>
      left
      exact ⟨trivial, rfl, h.timer, h.reads,
        fun hfailed => absurd (hfailed : false = true) Bool.false_ne_true, .inr ⟨rfl, rfl⟩⟩

/-- A promise of `init` is settled: it goes on, or the worker is ready or has failed. -/
theorem Boots.settle (h : w.Boots) {command : Command α} (hcommand : w.command = some command)
    (settlement : Settlement α) :
    (w.resumeCommand settlement command).Boots ∨
      (w.resumeCommand settlement command).Booted
        (w.posted (w.resumeCommand settlement command) (.settle settlement)) := by
  have hbooting := h.booting
  rw [Booting, hcommand] at hbooting
  cases command with
  | init message closing =>
    by_cases hstage : closing.stage = .returning
    · exact h.openWorker message settlement hstage _
    · left
      obtain ⟨hpacing, hreads, hfailed, hclosed⟩ := w.resumeClosing_kept closing
      have hholds : w.Holds (w.resumeClosing closing).1 := (Holds.refl w).resumeClosing closing
      rw [resumeCommand, if_pos hstage]
      exact ⟨trivial, hholds.handed.trans h.handed, (congrArg _ hpacing).trans h.timer,
        hreads.trans h.reads, fun hfail => hclosed.trans (h.shut (hfailed.symm.trans hfail)),
        h.due.holds (hholds.after rfl)⟩
  | encoderSupport message =>
    rw [resumeCommand]
    split
    next => exact .inr (booted_failCommand h.shut h.handed _)
    next =>
      dsimp only
      split
      next =>
        right
        apply booted_failCommand
        · exact h.shut
        · exact h.handed
      next => exact .inl ⟨trivial, h.handed, h.timer, h.reads, h.shut, h.due.holds (.of_upload rfl)⟩
  | placeholderImage message =>
    right
    have hholds : w.Holds (w.syncAudioClock message.audioClockSamples settlement.now
      settlement.next) := (Holds.refl w).syncAudioClock _ _ _
    by_cases hfulfilled : settlement.fulfilled = true
    · rw [resumeCommand, if_neg (not_not.mpr hfulfilled)]
      refine ⟨id, id, hholds.handed.trans h.handed, h.due.holds (hholds.after rfl), .inr ?_⟩
      simp [posted, hcommand, hfulfilled]
    · rw [resumeCommand, if_pos hfulfilled]
      exact booted_failCommand h.shut h.handed _
  | _ => cases hbooting

omit [Field α] [LinearOrder α] [FloorRing α] in
/-- What happens beside the command while a worker is being opened. -/
theorem Boots.beside (h : w.Boots) (hholds : w.Holds w') (hcommand : w'.command = w.command)
    (htimer : w'.pacing.pacingTimer = false) (hreads : w'.reads = w.reads)
    (hshut : w'.failed = true → w'.closed = true) : w'.Boots where
  booting := by
    rw [Booting, hcommand]
    exact h.booting
  handed := hholds.handed.trans h.handed
  timer := htimer
  reads := hreads.trans h.reads
  shut := hshut
  due := h.due.holds hholds

omit [Field α] [LinearOrder α] [FloorRing α] in
theorem Boots.failBeside (h : w.Boots) (generation : Option Nat) :
    (w.failBeside generation).Boots := by
  refine h.beside ((Holds.refl w).failBeside generation) ?_ ?_ ?_ ?_
  · rw [PacedWorker.failBeside, fail]
    split <;> rfl
  · rw [PacedWorker.failBeside, fail]
    split
    next => exact h.timer
    next => rfl
  · rw [PacedWorker.failBeside, fail]
    split <;> rfl
  · rw [PacedWorker.failBeside, fail]
    split
    next => exact h.shut
    next => exact fun _ => rfl

omit [Field α] [LinearOrder α] [FloorRing α] in
theorem holds_resumeBeside {index : Nat} (hresume : w.resumeBeside index = some w') :
    w.Holds w' := by
  obtain ⟨⟨generation, closing⟩, -, rfl⟩ := Option.map_eq_some_iff.mp hresume
  dsimp only
  split
  next => exact ((Holds.refl w).resumeClosing closing).after rfl
  next =>
    cases generation with
    | none => exact .of_upload rfl
    | some generation =>
      apply Holds.endRead
      exact .of_upload rfl

omit [Field α] [LinearOrder α] [FloorRing α] in
theorem resumeBeside_kept {index : Nat} (hresume : w.resumeBeside index = some w') :
    w'.pacing = w.pacing ∧ w'.reads = w.reads ∧ w'.failed = w.failed ∧ w'.closed = w.closed ∧
      w'.command = w.command := by
  obtain ⟨⟨generation, closing⟩, -, rfl⟩ := Option.map_eq_some_iff.mp hresume
  dsimp only
  split
  next =>
    obtain ⟨hpacing, hreads, hfailed, hclosed⟩ := w.resumeClosing_kept closing
    refine ⟨hpacing, hreads, hfailed, hclosed, ?_⟩
    rw [resumeClosing]
    split <;> rfl
  next =>
    cases generation with
    | none => exact ⟨rfl, rfl, rfl, rfl, rfl⟩
    | some generation =>
      dsimp only
      obtain ⟨sourceReader, heq⟩ :=
        endRead_eq { w with closings := w.closings.eraseIdx index } generation
      rw [heq]
      exact ⟨rfl, rfl, rfl, rfl, rfl⟩

variable [IsStrictOrderedRing α]

/-- A step of a worker that is being opened, apart from its messages. -/
theorem Boots.work (h : w.Boots) {event : WorkerEvent α} (hstep : w.step event = some w')
    (hmessage : ∀ message now next, event ≠ .message message now next) :
    w'.Boots ∨ w'.Booted (w.posted w' event) := by
  cases event with
  | message message now next => exact absurd rfl (hmessage message now next)
  | settle settlement =>
    obtain ⟨command, hcommand, rfl⟩ := Option.map_eq_some_iff.mp hstep
    exact h.settle hcommand settlement
  | read generation result ready now =>
    rw [step, Option.ite_none_right_eq_some, h.reads] at hstep
    exact absurd hstep.1 List.not_mem_nil
  | closing index =>
    left
    obtain ⟨hpacing, hreads, hfailed, hclosed, hcommand⟩ := resumeBeside_kept hstep
    refine h.beside (holds_resumeBeside hstep) hcommand ((congrArg _ hpacing).trans h.timer)
      hreads ?_
    rw [hfailed, hclosed]
    exact h.shut
  | pacingTimer times conditions =>
    rw [step, runPacing, h.timer] at hstep
    simp at hstep
  | encoderError =>
    left
    rw [step, Option.ite_none_left_eq_some] at hstep
    obtain ⟨-, hstep⟩ := hstep
    obtain rfl := Option.some.inj hstep
    exact h.failBeside none

end Opening

/-! ## A worker that is open -/

section Running

variable [Field α] [LinearOrder α] [FloorRing α]

theorem holds_resumeCommand {command : Command α} (hcommand : w.command = some command)
    (hbooting : ¬ w.Booting) (settlement : Settlement α) :
    w.Holds (w.resumeCommand settlement command) ∧
      w.Stays (w.resumeCommand settlement command) := by
  have hrefl := Holds.refl w
  rw [Booting, hcommand] at hbooting
  cases command with
  | setSource =>
    refine ⟨hrefl.attachSource settlement, ?_⟩
    rw [resumeCommand, attachSource]
    dsimp only
    split <;> exact ⟨id, False.elim⟩
  | usePlaceholder => exact ⟨(hrefl.enterPlaceholder settlement.now).after rfl, id, False.elim⟩
  | reconfigure rate =>
    rw [resumeCommand]
    split
    next => exact ⟨hrefl.reconfigureError settlement.now, id, False.elim⟩
    next =>
      dsimp only
      split
      next =>
        refine ⟨?_, id, False.elim⟩
        apply Holds.reconfigureError
        exact .of_upload rfl
      next => exact ⟨.of_upload rfl, id, False.elim⟩
  | flush rate =>
    rw [resumeCommand]
    split
    next => exact ⟨hrefl.reconfigureError settlement.now, id, False.elim⟩
    next =>
      refine ⟨hrefl.applyRate rate settlement, ?_⟩
      rw [applyRate]
      dsimp only
      split
      next => exact ⟨id, False.elim⟩
      next => split <;> exact ⟨id, False.elim⟩
  | close closing =>
    rw [resumeCommand]
    split
    next =>
      refine ⟨(hrefl.resumeClosing closing).after rfl, id, fun _ => ?_⟩
      rw [Leaving, hcommand]
      trivial
    next => exact ⟨.of_upload rfl, id, False.elim⟩
  | fail closing =>
    rw [resumeCommand]
    split
    next => exact ⟨(hrefl.resumeClosing closing).after rfl, id, False.elim⟩
    next => exact ⟨.of_upload rfl, id, False.elim⟩
  | _ => exact absurd trivial hbooting

theorem holds_finishRead (w : PacedWorker α) (generation : Nat) (ready now : α)
    (result : ReadResult) :
    w.Holds (w.finishRead generation ready now result) := by
  have hrefl := Holds.refl w
  cases result with
  | frame =>
    rw [finishRead]
    dsimp only
    split
    next =>
      apply Holds.endRead
      exact .of_upload rfl
    next =>
      apply Holds.readOn
      apply Holds.onSourceFrame
      exact .of_upload rfl
  | done =>
    rw [finishRead]
    split
    next => exact hrefl.endRead generation
    next => exact (hrefl.enterPlaceholder now).endRead generation
  | error =>
    rw [finishRead]
    split
    next => exact hrefl.endRead generation
    next => exact hrefl.failBeside (some generation)

omit [Field α] [LinearOrder α] [FloorRing α] in
theorem failBeside_command (w : PacedWorker α) (generation : Option Nat) :
    (w.failBeside generation).command = w.command := by
  rw [PacedWorker.failBeside, fail]
  split <;> rfl

omit [Field α] [LinearOrder α] [FloorRing α] in
theorem endRead_command (w : PacedWorker α) (generation : Nat) :
    (w.endRead generation).command = w.command := by
  obtain ⟨sourceReader, heq⟩ := w.endRead_eq generation
  rw [heq]

/-- A read concerns no command. -/
theorem finishRead_command (w : PacedWorker α) (generation : Nat) (ready now : α)
    (result : ReadResult) : (w.finishRead generation ready now result).command = w.command := by
  cases result with
  | frame =>
    rw [finishRead]
    dsimp only
    split
    next => exact endRead_command _ generation
    next =>
      obtain ⟨w', hframe, -, -, -, -, -, -, hcommand, -⟩ := onSourceFrame_eq
        { w with returned := w.returned ++ [⟨w.returned.length, generation⟩] }
        ⟨w.returned.length, generation⟩ ready now
      obtain ⟨reads, sourceReader, hread⟩ := w'.readOn_eq generation
      rw [hframe, hread]
      exact hcommand
  | done =>
    rw [finishRead]
    split
    next => exact w.endRead_command generation
    next =>
      rw [endRead_command, enterPlaceholder]
      obtain ⟨pacing, heq⟩ := startCurrentOutput_eq (α := α) _ now
      rw [heq]
      rfl
  | error =>
    rw [finishRead]
    split
    next => exact w.endRead_command generation
    next => exact w.failBeside_command (some generation)

theorem finishFrame_command (source : Option CapturedFrame) (next : α)
    (result : PacedWorker α × SubmitResult) :
    (finishFrame source next result).command = result.1.command := by
  obtain ⟨w, result⟩ := result
  cases result with
  | submitted =>
    rw [finishFrame]
    obtain ⟨pacing, heq⟩ := scheduleNextFrame_eq (α := α) _ next
    rw [heq]
  | skipped =>
    rw [finishFrame]
    obtain ⟨pacing, heq⟩ := scheduleNextFrame_eq (α := α) _ next
    rw [heq]
  | failed => exact w.failBeside_command none

theorem outputFrame_command (w : PacedWorker α) (frameIndex : Int) (times : PacingTimes α)
    (conditions : EncoderConditions) :
    (w.outputFrame frameIndex times conditions).command = w.command := by
  let taken : PacedWorker α := { w with
    pacing := w.pacing.setFrame frameIndex
    sourceBuffer := w.sourceBuffer.drop (w.takeSource times.ready).toList.length }
  have hdraws (showPlaceholder : Bool) (timestamp duration : Int) :
      taken.Draws (taken.submitFrame (w.takeSource times.ready) showPlaceholder timestamp
        duration conditions).1 (fun _ => True) :=
    draws_submitFrame (fun _ _ => trivial) (fun _ _ _ _ _ _ => trivial) _ _ _
  rw [outputFrame, finishFrame_command, (hdraws _ _ _).only]

variable [IsStrictOrderedRing α]

theorem runPacing_command {times : PacingTimes α} {conditions : EncoderConditions}
    (hrun : w.runPacing times conditions = some w') : w'.command = w.command := by
  rw [runPacing, Option.ite_none_left_eq_some] at hrun
  obtain ⟨-, hrun⟩ := hrun
  obtain rfl := Option.some.inj hrun
  dsimp only
  split
  next => rfl
  next =>
    split
    next => split <;> rfl
    next => rw [outputFrame_command]

/-- A step of a worker that is open, apart from its messages. -/
theorem moves_work (hbooting : ¬ w.Booting) {event : WorkerEvent α}
    (hstep : w.step event = some w')
    (hmessage : ∀ message now next, event ≠ .message message now next) :
    w.Moves w' ∧ w.Stays w' := by
  have hsame (hcommand : w'.command = w.command) : w.Stays w' := .of_command hbooting hcommand
  cases event with
  | message message now next => exact absurd rfl (hmessage message now next)
  | settle settlement =>
    obtain ⟨command, hcommand, rfl⟩ := Option.map_eq_some_iff.mp hstep
    obtain ⟨hholds, hstays⟩ := holds_resumeCommand hcommand hbooting settlement
    exact ⟨.inl hholds, hstays⟩
  | read generation result ready now =>
    rw [step, Option.ite_none_right_eq_some] at hstep
    obtain ⟨-, hstep⟩ := hstep
    obtain rfl := Option.some.inj hstep
    let taken := { w with reads := w.reads.erase generation }
    have hholds := taken.holds_finishRead generation ready now result
    exact ⟨.inl (hholds.before rfl), hsame (taken.finishRead_command generation ready now result)⟩
  | closing index =>
    exact ⟨.inl (holds_resumeBeside hstep), hsame (resumeBeside_kept hstep).2.2.2.2⟩
  | pacingTimer times conditions => exact ⟨moves_runPacing hstep, hsame (runPacing_command hstep)⟩
  | encoderError =>
    rw [step, Option.ite_none_left_eq_some] at hstep
    obtain ⟨-, hstep⟩ := hstep
    obtain rfl := Option.some.inj hstep
    exact ⟨.inl ((Holds.refl w).failBeside none), hsame (w.failBeside_command none)⟩

end Running

/-! ## Messages -/

/-- What a message makes of the network being paused. -/
def follow (paused : Bool) : WorkerMessage α → Bool
  | .transportPause => true
  | .transportResume => false
  | _ => paused

/-- A message is handled. -/
structure Hears (w w' : PacedWorker α) (message : WorkerMessage α) : Prop where
  done : ¬ w'.Booting
  leaving : w'.Leaving → message = .close
  handed : w'.handed = w.handed
  force : w.forceNextKeyframe = true → w'.forceNextKeyframe = true
  network : w'.closed = true ∨
    w'.closed = w.closed ∧ w'.networkPaused = follow w.networkPaused message
  resumes : message = .transportResume → w'.closed = true ∨ w'.forceNextKeyframe = true

theorem Holds.hears {message : WorkerMessage α} (h : w.Holds w') (hdone : ¬ w'.Booting)
    (hleaving : w'.Leaving → message = .close)
    (hfollow : follow w.networkPaused message = w.networkPaused)
    (hresume : message ≠ .transportResume) : w.Hears w' message where
  done := hdone
  leaving := hleaving
  handed := h.handed
  force := h.force
  network := by
    rw [hfollow]
    exact h.network
  resumes heq := absurd heq hresume

section Messages

variable [Field α] [LinearOrder α] [FloorRing α]

theorem stays_startCurrentOutput (hbooting : ¬ w.Booting) (now : α) :
    w.Stays (w.startCurrentOutput now) := by
  obtain ⟨pacing, heq⟩ := w.startCurrentOutput_eq now
  rw [heq]
  exact .of_command hbooting rfl

theorem stays_syncAudioClock (hbooting : ¬ w.Booting) (timestampSamples : Int) (now next : α) :
    w.Stays (w.syncAudioClock timestampSamples now next) := by
  rw [syncAudioClock]
  split
  next => exact .of_command hbooting rfl
  next =>
    split
    next => exact .of_command hbooting rfl
    next =>
      obtain ⟨pacing, heq⟩ := startCurrentOutput_eq (α := α) _ next
      rw [heq]
      exact .of_command hbooting rfl

/-- A message other than `init` leaves an open worker open. -/
theorem hears_handleMessage (hcommand : w.command = none) (now next : α)
    (message : WorkerMessage α) (hinit : ∀ m, message ≠ .init m) :
    w.Hears (w.handleMessage now next message) message := by
  have hrefl := Holds.refl w
  have hbooting : ¬ w.Booting := by
    rw [Booting, hcommand]
    exact id
  have hleaving : ¬ w.Leaving := by
    rw [Leaving, hcommand]
    exact id
  cases message with
  | init m => exact absurd rfl (hinit m)
  | source readable =>
    rw [handleMessage]
    split
    next => exact hrefl.hears hbooting (absurd · hleaving) rfl (by simp)
    next =>
      split
      next => exact hrefl.failCommand.hears id False.elim rfl (by simp)
      next => exact Holds.hears (.of_upload rfl) id False.elim rfl (by simp)
  | placeholder =>
    rw [handleMessage]
    split
    next => exact hrefl.hears hbooting (absurd · hleaving) rfl (by simp)
    next =>
      split
      next => exact hrefl.hears hbooting (absurd · hleaving) rfl (by simp)
      next => exact Holds.hears (.of_upload rfl) id False.elim rfl (by simp)
  | reconfigure rate supported =>
    rw [handleMessage]
    split
    next => exact hrefl.hears hbooting (absurd · hleaving) rfl (by simp)
    next =>
      split
      next => exact hrefl.failCommand.hears id False.elim rfl (by simp)
      next => exact Holds.hears (.of_upload rfl) id False.elim rfl (by simp)
  | resume =>
    rw [handleMessage]
    split
    next => exact hrefl.hears hbooting (absurd · hleaving) rfl (by simp)
    next =>
      let resumed := { w with paused := false, forceNextKeyframe := true }
      have hstays := stays_startCurrentOutput (w := resumed) hbooting now
      refine Holds.hears ?_ hstays.done (fun h => absurd (hstays.leaving h) hleaving) rfl (by simp)
      apply Holds.startCurrentOutput
      exact ⟨rfl, fun _ => rfl, .inr ⟨rfl, rfl⟩⟩
  | transportPause =>
    rw [handleMessage]
    split
    next hclosed => exact ⟨hbooting, (absurd · hleaving), rfl, id, .inl hclosed, by simp⟩
    next => exact ⟨hbooting, (absurd · hleaving), rfl, id, .inr ⟨rfl, rfl⟩, by simp⟩
  | transportResume =>
    rw [handleMessage]
    split
    next hclosed =>
      exact ⟨hbooting, (absurd · hleaving), rfl, id, .inl hclosed, fun _ => .inl hclosed⟩
    next =>
      let resumed := { w with networkPaused := false, forceNextKeyframe := true }
      have hholds : resumed.Holds (resumed.startCurrentOutput now) :=
        (Holds.refl resumed).startCurrentOutput now
      have hstays := stays_startCurrentOutput (w := resumed) hbooting now
      exact ⟨hstays.done, fun h => absurd (hstays.leaving h) hleaving, hholds.handed,
        fun _ => hholds.force rfl, hholds.network, fun _ => .inr (hholds.force rfl)⟩
  | audioClock timestampSamples =>
    rw [handleMessage]
    split
    next => exact hrefl.hears hbooting (absurd · hleaving) rfl (by simp)
    next =>
      have hstays := stays_syncAudioClock hbooting timestampSamples now next
      exact (hrefl.syncAudioClock timestampSamples now next).hears hstays.done
        (fun h => absurd (hstays.leaving h) hleaving) rfl (by simp)
  | close => exact Holds.hears (hrefl.closeAll.after rfl) id (fun _ => rfl) rfl (by simp)

/-- The first message to a worker. -/
theorem boots_init (h : w.handed = [] ∧ w.reads = []) (now next : α) (message : InitMessage α) :
    (w.handleMessage now next (.init message)).Boots where
  booting := trivial
  handed := h.1
  timer := rfl
  reads := h.2
  shut _ := rfl
  due := .inl rfl

end Messages

end PacedWorker

end VRCStreamer
