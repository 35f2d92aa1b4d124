import VRCStreamer.Client.CapturedFrames
import Mathlib.Data.Rat.Floor

/-!
# Every captured frame is closed once

The commands of the worker keep the custody of the captured frames, wherever a failure closes it
meanwhile.
-/

namespace VRCStreamer

open Table Concurrency

namespace PacedWorker

variable {α : Type*}

section Commands

variable {w : PacedWorker α} {closing : Closing}

/-- A command that has thrown closes the worker. -/
theorem Closes.failCommand (h : w.Closes w.fail) (hbeside : w.Beside) : w.failCommand.Tended := by
  have hintact := h.intact
  refine ⟨hintact.of_view rfl, h.keeps.beside h.closings hbeside, ?_⟩
  intro command hcommand
  obtain rfl := Option.some.inj hcommand
  exact h.sound

theorem Closes.silent_failCommand (h : w.Closes w.fail) : w.Silent w.failCommand :=
  h.silent.before rfl

theorem Tended.failCommand (h : w.Tended) : w.failCommand.Tended ∧ w.Silent w.failCommand :=
  ⟨h.intact.fail.failCommand h.beside, h.intact.fail.silent_failCommand⟩

theorem resumeClosing_opening (w : PacedWorker α) (closing : Closing) :
    (w.resumeClosing closing).2.opening = closing.opening := by
  rw [resumeClosing]
  split <;> rfl

/-- A `closeAll` that is about to return has been recorded. -/
theorem finished_of_resumeClosing (hstage : closing.stage ≠ .returning)
    (hreturning : (w.resumeClosing closing).2.stage = .returning) :
    closing.opening ∈ (w.resumeClosing closing).1.finished := by
  rw [resumeClosing] at hreturning ⊢
  split at hreturning
  next => cases hreturning
  next => exact List.mem_append_right _ (List.mem_singleton.mpr rfl)
  next hreturned => exact absurd hreturned hstage

/-- The `closeAll` of a command goes on. -/
theorem Tended.resumeClosing (h : w.Tended)
    (hclosing : closing.Sound w.closed w.sourceBuffer w.openings) {command : Command α}
    (hcommand : (w.resumeClosing closing).2.Sound (w.resumeClosing closing).1.closed
        (w.resumeClosing closing).1.sourceBuffer (w.resumeClosing closing).1.openings →
      command.Sound (w.resumeClosing closing).1) :
    Tended { (w.resumeClosing closing).1 with command := some command } ∧
      w.Silent { (w.resumeClosing closing).1 with command := some command } := by
  obtain ⟨hintact, hkeeps, hsilent, hsound, hclosings, -⟩ := h.intact.resumeClosing hclosing
  refine ⟨⟨hintact.of_view rfl, hkeeps.beside hclosings h.beside, ?_⟩, hsilent.before rfl⟩
  intro command' heq
  obtain rfl := Option.some.inj heq
  exact Keeps.sound_command (.of_view rfl) (hcommand hsound)

theorem Intact.withCanvas (h : w.Intact) :
    PacedWorker.Intact { w with canvas := some .blank } := by
  refine ⟨h.custody, h.numbered, h.loops, h.buffered, h.emptied, h.calm, ?_, h.shut⟩
  intro _ _ picture hpicture
  obtain rfl := Option.some.inj hpicture
  exact List.forall_mem_nil _

/-- `source-ready` is sent when nothing of an earlier source is left. -/
theorem Intact.announce (h : w.Intact) (hempty : w.sourceBuffer = [])
    (hcalm : w.closed = false → w.renderedSourceFrame = false) :
    PacedWorker.Intact { w with announced := w.announced ++ [w.sourceGeneration] } := by
  refine ⟨h.custody, h.numbered, h.loops.announce, ?_, h.emptied, h.calm, ?_, h.shut⟩
  · intro frame hframe
    rw [hempty] at hframe
    cases hframe
  · intro hclosed hrendered
    exact absurd ((hcalm hclosed).symm.trans hrendered) Bool.false_ne_true

theorem attachReader_eq (w : PacedWorker α) :
    ∃ reads sourceReader, w.attachReader =
      { w with reads, sourceReader, sourceGeneration := w.sourceGeneration + 1 } :=
  readOn_eq { w with
    sourceReader := some (w.sourceGeneration + 1)
    sourceGeneration := w.sourceGeneration + 1 } (w.sourceGeneration + 1)

theorem Intact.attachReader (h : w.Intact) : w.attachReader.Intact := by
  have hnext : PacedWorker.Intact { w with
      sourceReader := some (w.sourceGeneration + 1)
      sourceGeneration := w.sourceGeneration + 1 } :=
    ⟨h.custody, h.numbered, h.loops.stop w.closed, h.buffered, h.emptied, h.calm, h.pictured,
      h.shut⟩
  apply hnext.readOn h.loops.not_mem_succ
  exact fun g hg => Nat.lt_succ_of_le (h.loops.entered_le g hg)

/-- A command is done. -/
theorem Tended.finish (h : w.Tended) : Tended { w with command := none } :=
  ⟨h.intact.of_view rfl, h.beside, nofun⟩

theorem silent_finish (w : PacedWorker α) : w.Silent { w with command := none } :=
  .of_history rfl

/-- A `closeAll` from before is none of the opened worker. -/
theorem Beside.of_opening {w' : PacedWorker α} (h : w.Beside)
    (hclosings : w'.closings = w.closings) (hopenings : w'.openings = w.openings + 1) :
    w'.Beside := by
  intro beside hmem
  rw [hclosings] at hmem
  rw [hopenings]
  have hle := (h beside hmem).opening_le
  have hne : beside.2.opening ≠ w.openings + 1 := by omega
  exact ⟨hle.trans (Nat.le_succ _), fun hopening => absurd hopening hne,
    fun hopening => absurd hopening hne⟩

/-- The command begins with `closeAll`. -/
theorem Closes.command_tended {closing : PacedWorker α × Closing} {command : Command α}
    (h : w.Closes closing) (hbeside : w.Beside)
    (hcommand : closing.2.Sound closing.1.closed closing.1.sourceBuffer closing.1.openings →
      command.Sound closing.1) :
    Tended { closing.1 with command := some command } ∧
      w.Silent { closing.1 with command := some command } := by
  refine ⟨⟨h.intact.of_view rfl, h.keeps.beside h.closings hbeside, ?_⟩, h.silent.before rfl⟩
  rintro _ ⟨⟩
  exact Keeps.sound_command (.of_view rfl) (hcommand h.sound)

theorem Tended.stopSource (h : w.Tended) {command : Command α}
    (hcommand : w.sourceGeneration + 1 ∉ w.reads →
      command.Sound { w.stopSource with command := some command }) :
    Tended { w.stopSource with command := some command } ∧
      w.Silent { w.stopSource with command := some command } := by
  refine ⟨⟨h.intact.stopSource.of_view rfl, h.beside, ?_⟩, .of_history rfl⟩
  rintro _ ⟨⟩
  exact hcommand h.intact.loops.not_mem_succ

theorem Tended.resumeBeside {w' : PacedWorker α} {index : Nat} (h : w.Tended)
    (hresume : w.resumeBeside index = some w') : w'.Tended ∧ w.Silent w' := by
  obtain ⟨⟨generation, closing⟩, hindex, rfl⟩ := Option.map_eq_some_iff.mp hresume
  have hmem : (generation, closing) ∈ w.closings := List.mem_of_getElem? hindex
  obtain ⟨hintact, hkeeps, hsilent, hsound, hclosings, hcommand⟩ :=
    h.intact.resumeClosing (h.beside _ hmem)
  dsimp only
  split
  next =>
    refine ⟨h.of_keeps (hintact.of_view rfl) (hkeeps.before rfl) ?_ hcommand, hsilent.before rfl⟩
    intro beside hbeside
    rcases List.mem_or_eq_of_mem_set hbeside with hbeside | rfl
    · exact hkeeps.beside hclosings h.beside beside (hclosings ▸ hbeside)
    · exact hsound
  next =>
    have hresumed : Tended { w with closings := w.closings.eraseIdx index } :=
      h.of_keeps (h.intact.of_view rfl) (.of_view rfl)
        (fun beside hbeside => h.beside beside (List.mem_of_mem_eraseIdx hbeside)) rfl
    cases generation with
    | none => exact ⟨hresumed, .of_history rfl⟩
    | some generation =>
      exact ⟨hresumed.endRead generation, (silent_endRead _ generation).after rfl⟩

end Commands

section Settle

variable [Field α] [LinearOrder α] [FloorRing α] {w : PacedWorker α} {closing : Closing}

/-! ## The promise of a command -/

theorem Tended.startCurrentOutput (h : w.Tended) (now : α) : (w.startCurrentOutput now).Tended := by
  obtain ⟨pacing, heq⟩ := w.startCurrentOutput_eq now
  rw [heq]
  exact h.withPacing pacing

theorem Tended.reconfigureError (h : w.Tended) (now : α) :
    (w.reconfigureError now).Tended ∧ w.Silent (w.reconfigureError now) := by
  have hpaused : Tended { w with paused := false } := h.of_view rfl rfl rfl
  have hsilent : w.Silent { w with paused := false } := .of_history rfl
  refine ⟨(hpaused.startCurrentOutput now).finish, ?_⟩
  exact hsilent.trans ((silent_startCurrentOutput _ now).trans (silent_finish _))

theorem Tended.syncAudioClock (h : w.Tended) (timestampSamples : Int) (now next : α) :
    (w.syncAudioClock timestampSamples now next).Tended ∧
      w.Silent (w.syncAudioClock timestampSamples now next) := by
  have hsilent : w.Silent w := .of_history rfl
  rw [PacedWorker.syncAudioClock]
  split
  next => exact ⟨h, hsilent⟩
  next =>
    split
    next => exact ⟨h, hsilent⟩
    next =>
      refine ⟨Tended.startCurrentOutput ?_ next, Silent.trans ?_ (silent_startCurrentOutput _ next)⟩
      · exact h.of_view rfl rfl rfl
      · exact .of_history rfl

theorem Tended.applyRate (h : w.Tended) (rate : FrameRate) (settlement : Settlement α) :
    (w.applyRate rate settlement).Tended ∧ w.Silent (w.applyRate rate settlement) := by
  have hswitched : Tended { w with encoder := true } := h.of_view rfl rfl rfl
  rw [PacedWorker.applyRate]
  dsimp only
  split
  next =>
    obtain ⟨htended, hsilent⟩ := hswitched.reconfigureError settlement.now
    exact ⟨htended, hsilent.after rfl⟩
  next =>
    split
    next =>
      have hrated : Tended { w with
          encoder := true
          pacing := w.pacing.setRate rate
          keyframeInterval := rate.fps
          framePeriodUs := round (rate.periodUs : α) } := h.of_view rfl rfl rfl
      obtain ⟨htended, hsilent⟩ := hrated.reconfigureError settlement.now
      exact ⟨htended, hsilent.after rfl⟩
    next => exact ⟨⟨h.intact.withCanvas.of_view rfl, h.beside, nofun⟩, .of_history rfl⟩

/-- `init` has found a worker that is closed, and opens it. -/
theorem Intact.resetWorker (h : w.Intact) (hclosed : w.closed = true)
    (hempty : w.sourceBuffer = []) (message : InitMessage α) :
    ((w.openWorker message).resetWorker message).Intact := by
  have hreads : w.sourceGeneration ∉ w.reads :=
    fun hmem => Bool.false_ne_true ((h.loops.current hmem).1.symm.trans hclosed)
  refine ⟨?_, h.numbered, (h.loops.setClosed hreads false).enter hreads, List.forall_mem_nil _,
    fun _ => rfl, fun _ _ => rfl, fun _ => nofun, ?_, ?_⟩
  · have hcustody := h.custody
    rwa [hempty] at hcustody
  · exact fun opening hopening => (h.shut.finished_le opening hopening).trans (Nat.le_succ _)
  · intro hfinished
    exact absurd (h.shut.finished_le _ hfinished) (Nat.lt_succ_self w.openings).not_ge

/-- The sample rate of the message is refused. -/
theorem Intact.openWorker_fail (h : w.Intact) (hclosed : w.closed = true)
    (hempty : w.sourceBuffer = []) (message : InitMessage α) :
    (w.openWorker message).Closes (w.openWorker message).fail := by
  refine closes_fail rfl false ((h.resetWorker hclosed hempty message).of_view ?_)
  simp only [view, PacedWorker.openWorker, PacedWorker.resetWorker, hempty]

/-- The buffer is empty and nothing is rendered when the next source comes. -/
theorem Tended.leaveSource (h : w.Tended) (hreads : w.sourceGeneration ∉ w.reads) (now : α) :
    (w.leaveSource now).Tended ∧ w.Silent (w.leaveSource now) ∧
      (w.leaveSource now).sourceBuffer = [] ∧
      ((w.leaveSource now).closed = false → (w.leaveSource now).renderedSourceFrame = false) := by
  rw [PacedWorker.leaveSource]
  split
  next =>
    obtain ⟨pacing, heq⟩ := startCurrentOutput_eq (α := α) _ now
    refine ⟨h.enterPlaceholder hreads now, silent_enterPlaceholder w now, ?_, ?_⟩
    · rw [PacedWorker.enterPlaceholder, heq]
      rfl
    · rw [PacedWorker.enterPlaceholder, heq]
      exact fun _ => rfl
  next hplaceholder =>
    rw [not_not] at hplaceholder
    exact ⟨h, .of_history rfl, h.intact.emptied hplaceholder,
      fun hclosed => h.intact.calm hclosed hplaceholder⟩

theorem Tended.attachSource (h : w.Tended) (hreads : w.sourceGeneration ∉ w.reads)
    (settlement : Settlement α) :
    (w.attachSource settlement).Tended ∧ w.Silent (w.attachSource settlement) := by
  obtain ⟨hleft, hsilent, hempty, hcalm⟩ := h.leaveSource hreads settlement.now
  rw [PacedWorker.attachSource]
  dsimp only
  split
  next =>
    obtain ⟨htended, hthrown⟩ := hleft.failCommand
    exact ⟨htended, hsilent.trans hthrown⟩
  next =>
    obtain ⟨reads, sourceReader, heq⟩ := (w.leaveSource settlement.now).attachReader_eq
    have hattached := hleft.intact.attachReader
    rw [heq] at hattached ⊢
    refine ⟨⟨(hattached.announce hempty hcalm).of_view rfl, hleft.beside, nofun⟩, hsilent.drawn,
      hsilent.shown, ?_, hsilent.entered⟩
    exact List.Subset.trans hsilent.announced (List.subset_append_left _ _)

/-- The `closeAll` of `init` has returned. -/
theorem Tended.openAgain (h : w.Tended) (hclosed : w.closed = true) (hempty : w.sourceBuffer = [])
    (hstage : closing.stage = .returning) (message : InitMessage α)
    (settlement : Settlement α) :
    (w.resumeCommand settlement (.init message closing)).Tended ∧
      w.Silent (w.resumeCommand settlement (.init message closing)) := by
  have hreset := h.intact.resetWorker hclosed hempty message
  have hopened : w.Silent (w.openWorker message) :=
    ⟨rfl, rfl, List.Subset.refl _, List.subset_append_left _ _⟩
  have hsilent : w.Silent ((w.openWorker message).resetWorker message) := hopened.before rfl
  rw [PacedWorker.resumeCommand, if_neg (not_not.mpr hstage)]
  split
  next =>
    have hrefused := h.intact.openWorker_fail hclosed hempty message
    exact ⟨hrefused.failCommand (h.beside.of_opening rfl rfl),
      hopened.trans hrefused.silent_failCommand⟩
  next =>
    split
    next =>
      exact ⟨hreset.fail.failCommand (h.beside.of_opening rfl rfl),
        hsilent.trans hreset.fail.silent_failCommand⟩
    next =>
      refine ⟨⟨hreset, h.beside.of_opening rfl rfl, ?_⟩, hsilent⟩
      rintro _ ⟨⟩
      trivial

/-- The promise of the command is settled, one way or the other. -/
theorem Tended.resumeCommand (h : w.Tended) {command : Command α}
    (hcommand : w.command = some command) (settlement : Settlement α) :
    (w.resumeCommand settlement command).Tended ∧
      w.Silent (w.resumeCommand settlement command) := by
  have hsound := h.command command hcommand
  cases command with
  | init message closing =>
    obtain ⟨hclosing, hopening, hfinished⟩ := hsound
    by_cases hstage : closing.stage = .returning
    · obtain ⟨hclosed, hempty⟩ := h.intact.shut.emptied (hfinished hstage)
      exact h.openAgain hclosed hempty hstage message settlement
    · rw [PacedWorker.resumeCommand, if_pos hstage]
      refine h.resumeClosing hclosing fun hnext => ⟨hnext, ?_, ?_⟩
      · rw [resumeClosing_opening, (h.intact.resumeClosing hclosing).keeps.openings, hopening]
      · intro hreturning
        rw [(h.intact.resumeClosing hclosing).keeps.openings, ← hopening]
        exact finished_of_resumeClosing hstage hreturning
  | encoderSupport message =>
    rw [PacedWorker.resumeCommand]
    split
    next => exact h.failCommand
    next =>
      have hdrawable := h.intact.withCanvas
      have hsilent : w.Silent { w with canvas := some .blank } := .of_history rfl
      dsimp only
      split
      next =>
        exact ⟨hdrawable.fail.failCommand h.beside,
          hsilent.trans hdrawable.fail.silent_failCommand⟩
      next =>
        refine ⟨⟨hdrawable.of_view rfl, h.beside, ?_⟩, .of_history rfl⟩
        rintro _ ⟨⟩
        trivial
  | placeholderImage message =>
    rw [PacedWorker.resumeCommand]
    split
    next => exact h.failCommand
    next =>
      obtain ⟨htended, hsilent⟩ :=
        h.syncAudioClock message.audioClockSamples settlement.now settlement.next
      exact ⟨htended.finish, hsilent.trans (silent_finish _)⟩
  | setSource => exact h.attachSource hsound settlement
  | usePlaceholder =>
    exact ⟨(h.enterPlaceholder hsound settlement.now).finish,
      (silent_enterPlaceholder w settlement.now).trans (silent_finish _)⟩
  | reconfigure rate =>
    rw [PacedWorker.resumeCommand]
    split
    next => exact h.reconfigureError settlement.now
    next =>
      have hwaiting : Tended { w with paused := true, pacing := w.pacing.clearPacingTimer } :=
        h.of_view rfl rfl rfl
      dsimp only
      split
      next =>
        obtain ⟨htended, hsilent⟩ := hwaiting.reconfigureError settlement.now
        exact ⟨htended, hsilent.after rfl⟩
      next =>
        refine ⟨⟨h.intact.of_view rfl, h.beside, ?_⟩, .of_history rfl⟩
        rintro _ ⟨⟩
        trivial
  | flush rate =>
    rw [PacedWorker.resumeCommand]
    split
    next => exact h.reconfigureError settlement.now
    next => exact h.applyRate rate settlement
  | close closing =>
    rw [PacedWorker.resumeCommand]
    split
    next => exact h.resumeClosing hsound id
    next => exact ⟨h.finish, silent_finish w⟩
  | fail closing =>
    rw [PacedWorker.resumeCommand]
    split
    next => exact h.resumeClosing hsound id
    next => exact ⟨h.finish, silent_finish w⟩

/-! ## Messages and closings -/

theorem Tended.handleMessage (h : w.Tended) (now next : α) (message : WorkerMessage α) :
    (w.handleMessage now next message).Tended ∧ w.Silent (w.handleMessage now next message) := by
  have hsame : w.Tended ∧ w.Silent w := ⟨h, .of_history rfl⟩
  have hclose := closes_closeAll w.renderedSourceFrame h.intact
  cases message with
  | init message =>
    exact hclose.command_tended h.beside fun hsound => ⟨hsound, rfl, nofun⟩
  | source readable =>
    rw [PacedWorker.handleMessage]
    split
    next => exact hsame
    next =>
      split
      next => exact h.failCommand
      next => exact h.stopSource id
  | placeholder =>
    rw [PacedWorker.handleMessage]
    split
    next => exact hsame
    next =>
      split
      next => exact hsame
      next => exact h.stopSource id
  | reconfigure rate supported =>
    rw [PacedWorker.handleMessage]
    split
    next => exact hsame
    next =>
      split
      next => exact h.failCommand
      next =>
        refine ⟨⟨h.intact.of_view rfl, h.beside, ?_⟩, .of_history rfl⟩
        rintro _ ⟨⟩
        trivial
  | resume =>
    rw [PacedWorker.handleMessage]
    split
    next => exact hsame
    next =>
      have hresumed : Tended { w with paused := false, forceNextKeyframe := true } :=
        h.of_view rfl rfl rfl
      exact ⟨hresumed.startCurrentOutput now, (silent_startCurrentOutput _ now).after rfl⟩
  | transportPause =>
    rw [PacedWorker.handleMessage]
    split
    next => exact hsame
    next => exact ⟨h.of_view rfl rfl rfl, .of_history rfl⟩
  | transportResume =>
    rw [PacedWorker.handleMessage]
    split
    next => exact hsame
    next =>
      have hresumed : Tended { w with networkPaused := false, forceNextKeyframe := true } :=
        h.of_view rfl rfl rfl
      exact ⟨hresumed.startCurrentOutput now, (silent_startCurrentOutput _ now).after rfl⟩
  | audioClock timestampSamples =>
    rw [PacedWorker.handleMessage]
    split
    next => exact hsame
    next => exact h.syncAudioClock timestampSamples now next
  | close => exact hclose.command_tended h.beside id

end Settle

theorem Tended.initial [Field α] (rate : FrameRate) : (initial (α := α) rate).Tended where
  intact := by
    refine ⟨.nil, List.forall_mem_nil _, .initial, List.forall_mem_nil _, nofun, nofun, nofun, ?_⟩
    exact ⟨List.forall_mem_nil _, nofun⟩
  beside := List.forall_mem_nil _
  command := nofun

section Run

variable [Field α] [LinearOrder α] [FloorRing α] [IsStrictOrderedRing α] {w w' : PacedWorker α}

theorem Tended.step {event : WorkerEvent α} (h : w.Tended) (hstep : w.step event = some w') :
    w'.Tended ∧ w.Shows w' := by
  cases event with
  | message message now next =>
    rw [PacedWorker.step, Option.ite_none_left_eq_some] at hstep
    obtain rfl := Option.some.inj hstep.2
    obtain ⟨htended, hsilent⟩ := h.handleMessage now next message
    exact ⟨htended, hsilent.shows⟩
  | settle settlement =>
    obtain ⟨command, hcommand, rfl⟩ := Option.map_eq_some_iff.mp hstep
    obtain ⟨htended, hsilent⟩ := h.resumeCommand hcommand settlement
    exact ⟨htended, hsilent.shows⟩
  | read generation result ready now =>
    rw [PacedWorker.step] at hstep
    split at hstep
    next hmem =>
      obtain rfl := Option.some.inj hstep
      obtain ⟨htended, hsilent⟩ := h.finishRead hmem ready now result
      exact ⟨htended, hsilent.shows⟩
    next => cases hstep
  | closing index =>
    obtain ⟨htended, hsilent⟩ := h.resumeBeside hstep
    exact ⟨htended, hsilent.shows⟩
  | pacingTimer times conditions => exact h.runPacing hstep
  | encoderError =>
    rw [PacedWorker.step] at hstep
    split at hstep
    next => cases hstep
    next =>
      obtain rfl := Option.some.inj hstep
      exact ⟨h.failBeside none, (h.intact.silent_failBeside none).shows⟩

theorem Tended.of_reachable (h : (videoWorker α).Reachable w) : w.Tended := by
  apply h.invariant (P := Tended)
  · exact .initial _
  · intro w event w' hw hstep
    exact (hw.step hstep).1

theorem Shows.of_run (h : (videoWorker α).Reachable w)
    (hrun : (videoWorker α).Run (fun _ _ => True) w w') : w.Shows w' := by
  apply hrun.invariant_of_reachable h (P := w.Shows)
  · exact (Silent.of_history rfl).shows
  · intro w₁ event w₂ hreachable hshows _ hstep
    exact hshows.trans ((Tended.of_reachable hreachable).step hstep).2

end Run

/-- A `closeAll` that began since the worker was opened last has returned. -/
def HasClosed (w : PacedWorker α) : Prop := w.openings ∈ w.finished

instance (w : PacedWorker α) : Decidable w.HasClosed := inferInstanceAs (Decidable (_ ∈ _))

theorem Intact.count_closes {w : PacedWorker α} (h : w.Intact) {frame : CapturedFrame}
    (hframe : frame ∈ w.returned) :
    w.closes.count frame ≤ 1 ∧
      (w.HasClosed ∨ frame ∉ w.sourceBuffer → w.closes.count frame = 1) := by
  have hcount := h.custody.count_eq_one hframe
  refine ⟨Nat.le.intro hcount, ?_⟩
  intro hclosed
  have hheld : frame ∉ w.sourceBuffer := by
    rcases hclosed with hclosed | hheld
    · rw [(h.shut.emptied hclosed).2]
      exact List.not_mem_nil
    · exact hheld
  rwa [List.count_eq_zero_of_not_mem hheld] at hcount

end PacedWorker

variable {α : Type*} [Field α] [LinearOrder α] [FloorRing α] [IsStrictOrderedRing α]

/-- What is drawn later, and what the encoder is shown, belongs to no source before the last one
that was announced and to none that the placeholder has replaced. -/
theorem captured_frames_closed_once (w : PacedWorker α) (h : (videoWorker α).Reachable w) :
    (∀ frame ∈ w.returned, w.closes.count frame ≤ 1 ∧
      (w.HasClosed ∨ frame ∉ w.sourceBuffer → w.closes.count frame = 1)) ∧
    ∀ w', (videoWorker α).Run (fun _ _ => True) w w' →
      ∃ drawn shown, w'.drawn = w.drawn ++ drawn ∧ w'.shown = w.shown ++ shown ∧
        ∀ frame ∈ drawn ++ shown, (∀ g ∈ w.announced, g ≤ frame.generation) ∧
          ∀ g ∈ w.entered, g < frame.generation := by
  have htended := PacedWorker.Tended.of_reachable h
  constructor
  · intro frame hframe
    exact htended.intact.count_closes hframe
  · intro w' hrun
    exact (PacedWorker.Shows.of_run h hrun).2.2

/-- The buffer overflows, a frame is drawn, and a read of the first source completes while the
second one is set. -/
theorem captured_frames_closed_once_replaced :
    ∃ w : PacedWorker ℚ, w.HasClosed ∧ w.drawn = [⟨1, 3⟩] ∧
      w.returned = [⟨0, 3⟩, ⟨1, 3⟩, ⟨2, 3⟩, ⟨3, 3⟩, ⟨4, 5⟩] ∧
      w.closes = [⟨0, 3⟩, ⟨1, 3⟩, ⟨3, 3⟩, ⟨2, 3⟩, ⟨4, 5⟩] ∧
      (∀ frame ∈ w.returned, w.closes.count frame = 1) ∧
      ∀ w', (videoWorker ℚ).Run (fun _ _ => True) w w' →
        ∃ drawn shown, w'.drawn = w.drawn ++ drawn ∧ w'.shown = w.shown ++ shown ∧
          ∀ frame ∈ drawn ++ shown, (∀ g ∈ w.announced, g ≤ frame.generation) ∧
            ∀ g ∈ w.entered, g < frame.generation := by
  let settle : WorkerEvent ℚ := .settle ⟨true, true, true, 0, 0⟩
  let steps : List (WorkerEvent ℚ) :=
    [.message (.init ⟨⟨30, by decide, by decide⟩, 48000, 0⟩) 0 0, settle, settle, settle, settle,
      settle, .message (.source true) 0 0, settle, .read 3 .frame 0 0, .read 3 .frame 0 0,
      .read 3 .frame 0 0, .pacingTimer ⟨0, 0, 0, 0⟩ ⟨true, 0, true⟩,
      .message (.source true) 0 0, .read 3 .frame 0 0, settle, .read 5 .frame 0 0,
      .message .close 0 0, settle, settle, settle]
  obtain ⟨w, hexec, hview⟩ := (Option.any_eq_true
    (fun w : PacedWorker ℚ => (w.HasClosed ∧ w.drawn = [⟨1, 3⟩] ∧
      w.returned = [⟨0, 3⟩, ⟨1, 3⟩, ⟨2, 3⟩, ⟨3, 3⟩, ⟨4, 5⟩] ∧
      w.closes = [⟨0, 3⟩, ⟨1, 3⟩, ⟨3, 3⟩, ⟨2, 3⟩, ⟨4, 5⟩] : Bool))
    ((videoWorker ℚ).exec (videoWorker ℚ).start steps)).mp (by decide +kernel)
  obtain ⟨hclosed, hdrawn, hreturned, hcloses⟩ := of_decide_eq_true hview
  obtain ⟨honce, hrun⟩ := captured_frames_closed_once w (System.reachable_of_exec hexec)
  refine ⟨w, hclosed, hdrawn, hreturned, hcloses, ?_, hrun⟩
  exact fun frame hframe => (honce frame hframe).2 (.inl hclosed)

end VRCStreamer
