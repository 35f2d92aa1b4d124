import VRCStreamer.Client.PacedWorker
import VRCStreamer.Table.Custody

/-!
# Captured frames are closed once

Between a read and its closing a frame is in the buffer of the worker, and the generation of the
read loop tells which frames may still come into it. What every function of the worker keeps is
`Intact`; what it leaves to the command and the closings that wait meanwhile is `Keeps`.
-/

namespace VRCStreamer

open Table

/-! ## Read loops -/

/-- At most one loop reads for the current generation, and none once the worker is closed or the
placeholder has been entered since that loop began. -/
structure Loops (closed : Bool) (generation : Nat) (reads announced entered : List Nat) :
    Prop where
  nodup : reads.Nodup
  reads_le : ∀ g ∈ reads, g ≤ generation
  announced_le : ∀ g ∈ announced, g ≤ generation
  entered_le : ∀ g ∈ entered, g ≤ generation
  current : generation ∈ reads → closed = false ∧ ∀ g ∈ entered, g < generation

namespace Loops

variable {closed : Bool} {generation : Nat} {reads announced entered : List Nat}

theorem initial : Loops closed generation [] [] [] :=
  ⟨.nil, List.forall_mem_nil _, List.forall_mem_nil _, List.forall_mem_nil _, nofun⟩

theorem not_mem_succ (h : Loops closed generation reads announced entered) :
    generation + 1 ∉ reads :=
  fun hmem => (h.reads_le _ hmem).not_gt (Nat.lt_succ_self generation)

theorem stop (h : Loops closed generation reads announced entered) (closed' : Bool) :
    Loops closed' (generation + 1) reads announced entered where
  nodup := h.nodup
  reads_le g hg := (h.reads_le g hg).trans (Nat.le_succ generation)
  announced_le g hg := (h.announced_le g hg).trans (Nat.le_succ generation)
  entered_le g hg := (h.entered_le g hg).trans (Nat.le_succ generation)
  current hmem := absurd hmem h.not_mem_succ

theorem enter (h : Loops closed generation reads announced entered) (hreads : generation ∉ reads) :
    Loops closed generation reads announced (entered ++ [generation]) where
  nodup := h.nodup
  reads_le := h.reads_le
  announced_le := h.announced_le
  entered_le := List.forall_mem_append.mpr ⟨h.entered_le, List.forall_mem_singleton.mpr le_rfl⟩
  current hmem := absurd hmem hreads

theorem announce (h : Loops closed generation reads announced entered) :
    Loops closed generation reads (announced ++ [generation]) entered where
  nodup := h.nodup
  reads_le := h.reads_le
  announced_le := List.forall_mem_append.mpr ⟨h.announced_le, List.forall_mem_singleton.mpr le_rfl⟩
  entered_le := h.entered_le
  current := h.current

theorem setClosed (h : Loops closed generation reads announced entered)
    (hreads : generation ∉ reads) (closed' : Bool) :
    Loops closed' generation reads announced entered :=
  ⟨h.nodup, h.reads_le, h.announced_le, h.entered_le, fun hmem => absurd hmem hreads⟩

theorem erase (h : Loops closed generation reads announced entered) (g : Nat) :
    Loops closed generation (reads.erase g) announced entered where
  nodup := h.nodup.erase g
  reads_le other hother := h.reads_le other (List.mem_of_mem_erase hother)
  announced_le := h.announced_le
  entered_le := h.entered_le
  current hmem := h.current (List.mem_of_mem_erase hmem)

theorem read (h : Loops closed generation reads announced entered) (hreads : generation ∉ reads)
    (hcurrent : closed = false ∧ ∀ g ∈ entered, g < generation) :
    Loops closed generation (reads ++ [generation]) announced entered where
  nodup := by
    rw [List.nodup_append_comm]
    exact List.nodup_cons.mpr ⟨hreads, h.nodup⟩
  reads_le := List.forall_mem_append.mpr ⟨h.reads_le, List.forall_mem_singleton.mpr le_rfl⟩
  announced_le := h.announced_le
  entered_le := h.entered_le
  current _ := hcurrent

end Loops

/-- The frame belongs to no source before the last one that was announced, and to none that the
placeholder has replaced. -/
def Follows (announced entered : List Nat) (frame : CapturedFrame) : Prop :=
  (∀ g ∈ announced, g ≤ frame.generation) ∧ ∀ g ∈ entered, g < frame.generation

/-! ## Closings -/

/-- Once a `closeAll` that began since the worker was opened has returned, nothing is buffered. -/
structure Shut (closed : Bool) (sourceBuffer : List CapturedFrame) (openings : Nat)
    (finished : List Nat) : Prop where
  finished_le : ∀ opening ∈ finished, opening ≤ openings
  emptied : openings ∈ finished → closed = true ∧ sourceBuffer = []

namespace Shut

variable {closed : Bool} {sourceBuffer rest : List CapturedFrame} {openings : Nat}
  {finished : List Nat}

theorem sublist (h : Shut closed sourceBuffer openings finished)
    (hrest : rest.Sublist sourceBuffer) : Shut closed rest openings finished := by
  refine ⟨h.finished_le, fun hfinished => ⟨(h.emptied hfinished).1, ?_⟩⟩
  rw [(h.emptied hfinished).2] at hrest
  exact List.sublist_nil.mp hrest

theorem clear (h : Shut closed sourceBuffer openings finished) :
    Shut closed [] openings finished :=
  h.sublist (List.nil_sublist _)

end Shut

/-- A `closeAll` that began since the worker was opened has closed it, and has emptied the buffer
once it waits for the encoder. -/
structure Closing.Sound (closing : Closing) (closed : Bool) (sourceBuffer : List CapturedFrame)
    (openings : Nat) : Prop where
  opening_le : closing.opening ≤ openings
  closed : closing.opening = openings → closing.stage ≠ .returning → closed = true
  emptied : closing.opening = openings → closing.stage = .flushing → sourceBuffer = []

variable {α : Type*}

structure PacedWorker.Intact (w : PacedWorker α) : Prop where
  custody : Custody w.returned w.closes w.sourceBuffer
  numbered : ∀ frame ∈ w.returned, frame.index < w.returned.length
  loops : Loops w.closed w.sourceGeneration w.reads w.announced w.entered
  buffered : ∀ frame ∈ w.sourceBuffer, Follows w.announced w.entered frame
  emptied : w.placeholder = true → w.sourceBuffer = []
  calm : w.closed = false → w.placeholder = true → w.renderedSourceFrame = false
  pictured : w.closed = false → w.renderedSourceFrame = true →
    ∀ canvas, w.canvas = some canvas → ∀ frame ∈ canvas.frames, Follows w.announced w.entered frame
  shut : Shut w.closed w.sourceBuffer w.openings w.finished

/-- The fields that `Intact` is about. -/
def PacedWorker.view (w : PacedWorker α) :=
  (w.returned, w.closes, w.sourceBuffer, w.closed, w.sourceGeneration, w.reads, w.announced,
    w.entered, w.placeholder, w.renderedSourceFrame, w.canvas, w.openings, w.finished)

theorem PacedWorker.Intact.of_view {w w' : PacedWorker α} (h : w.Intact)
    (hview : w'.view = w.view) : w'.Intact := by
  simp only [view, Prod.mk.injEq] at hview
  obtain ⟨hreturned, hcloses, hbuffer, hclosed, hgeneration, hreads, hannounced, hentered,
    hplaceholder, hrendered, hcanvas, hopenings, hfinished⟩ := hview
  constructor
  · rw [hreturned, hcloses, hbuffer]
    exact h.custody
  · rw [hreturned]
    exact h.numbered
  · rw [hclosed, hgeneration, hreads, hannounced, hentered]
    exact h.loops
  · rw [hbuffer, hannounced, hentered]
    exact h.buffered
  · rw [hplaceholder, hbuffer]
    exact h.emptied
  · rw [hclosed, hplaceholder, hrendered]
    exact h.calm
  · rw [hclosed, hrendered, hcanvas, hannounced, hentered]
    exact h.pictured
  · rw [hclosed, hbuffer, hopenings, hfinished]
    exact h.shut

/-- What a command relies on while it waits. -/
def Command.Sound (w : PacedWorker α) : Command α → Prop
  | .init _ closing => closing.Sound w.closed w.sourceBuffer w.openings ∧
    closing.opening = w.openings ∧ (closing.stage = .returning → w.openings ∈ w.finished)
  | .setSource | .usePlaceholder => w.sourceGeneration ∉ w.reads
  | .close closing | .fail closing => closing.Sound w.closed w.sourceBuffer w.openings
  | _ => True

namespace PacedWorker

/-! ## What the functions keep -/

structure Keeps (w w' : PacedWorker α) : Prop where
  openings : w'.openings = w.openings
  finished : w.finished ⊆ w'.finished
  closed : w.closed = true → w'.closed = true
  emptied : w.closed = true → w.sourceBuffer = [] → w'.sourceBuffer = []
  stopped : w.sourceGeneration ∉ w.reads → w'.sourceGeneration ∉ w'.reads

namespace Keeps

variable {w w' w'' : PacedWorker α} {closing : Closing} {command : Command α}

theorem refl (w : PacedWorker α) : w.Keeps w := ⟨rfl, List.Subset.refl _, id, fun _ => id, id⟩

theorem of_view (hview : w'.view = w.view) : w.Keeps w' := by
  simp only [view, Prod.mk.injEq] at hview
  obtain ⟨-, -, hbuffer, hclosed, hgeneration, hreads, -, -, -, -, -, hopenings, hfinished⟩ := hview
  refine ⟨hopenings, hfinished ▸ List.Subset.refl _, hclosed.trans, ?_, ?_⟩
  · intro _ hempty
    exact hbuffer.trans hempty
  · intro hstopped
    rwa [hgeneration, hreads]

theorem trans (h : w.Keeps w') (h' : w'.Keeps w'') : w.Keeps w'' where
  openings := h'.openings.trans h.openings
  finished := List.Subset.trans h.finished h'.finished
  closed hclosed := h'.closed (h.closed hclosed)
  emptied hclosed hempty := h'.emptied (h.closed hclosed) (h.emptied hclosed hempty)
  stopped hreads := h'.stopped (h.stopped hreads)

theorem before (h : w.Keeps w') (hview : w''.view = w'.view) : w.Keeps w'' :=
  h.trans (.of_view hview)

theorem sound_closing (h : w.Keeps w')
    (hclosing : closing.Sound w.closed w.sourceBuffer w.openings) :
    closing.Sound w'.closed w'.sourceBuffer w'.openings where
  opening_le := h.openings ▸ hclosing.opening_le
  closed hopening hstage := h.closed (hclosing.closed (hopening.trans h.openings) hstage)
  emptied hopening hstage := by
    have hopening' := hopening.trans h.openings
    have hclosed := hclosing.closed hopening' (by rw [hstage]; exact nofun)
    exact h.emptied hclosed (hclosing.emptied hopening' hstage)

theorem sound_command (h : w.Keeps w') (hcommand : command.Sound w) : command.Sound w' := by
  cases command with
  | init message closing =>
    obtain ⟨hclosing, hopening, hfinished⟩ := hcommand
    refine ⟨h.sound_closing hclosing, hopening.trans h.openings.symm, ?_⟩
    intro hstage
    exact h.openings ▸ h.finished (hfinished hstage)
  | setSource => exact h.stopped hcommand
  | usePlaceholder => exact h.stopped hcommand
  | close closing => exact h.sound_closing hcommand
  | fail closing => exact h.sound_closing hcommand
  | encoderSupport message => trivial
  | placeholderImage message => trivial
  | reconfigure rate => trivial
  | flush rate => trivial

end Keeps

/-- Nothing is drawn, and what has been announced and entered stays. -/
structure Silent (w w' : PacedWorker α) : Prop where
  drawn : w'.drawn = w.drawn
  shown : w'.shown = w.shown
  announced : w.announced ⊆ w'.announced
  entered : w.entered ⊆ w'.entered

/-- The fields that `Silent` is about. -/
def history (w : PacedWorker α) := (w.drawn, w.shown, w.announced, w.entered)

theorem Silent.of_history {w w' : PacedWorker α} (h : w'.history = w.history) : w.Silent w' := by
  simp only [history, Prod.mk.injEq] at h
  obtain ⟨hdrawn, hshown, hannounced, hentered⟩ := h
  exact ⟨hdrawn, hshown, hannounced ▸ List.Subset.refl _, hentered ▸ List.Subset.refl _⟩

theorem Silent.trans {w w' w'' : PacedWorker α} (h : w.Silent w') (h' : w'.Silent w'') :
    w.Silent w'' :=
  ⟨h'.drawn.trans h.drawn, h'.shown.trans h.shown, List.Subset.trans h.announced h'.announced,
    List.Subset.trans h.entered h'.entered⟩

theorem Silent.before {w w' w'' : PacedWorker α} (h : w.Silent w')
    (hhistory : w''.history = w'.history) : w.Silent w'' :=
  h.trans (.of_history hhistory)

theorem Silent.after {w w' w'' : PacedWorker α} (h : w'.Silent w'')
    (hhistory : w'.history = w.history) : w.Silent w'' :=
  (Silent.of_history hhistory).trans h

/-- The closings outside the queue. -/
def Beside (w : PacedWorker α) : Prop :=
  ∀ beside ∈ w.closings, beside.2.Sound w.closed w.sourceBuffer w.openings

theorem Keeps.beside {w w' : PacedWorker α} (h : w.Keeps w') (hclosings : w'.closings = w.closings)
    (hbeside : w.Beside) : w'.Beside := by
  intro beside hmem
  rw [hclosings] at hmem
  exact h.sound_closing (hbeside beside hmem)

theorem Intact.forget {w : PacedWorker α} (h : w.Intact) (generation : Nat) :
    PacedWorker.Intact { w with reads := w.reads.erase generation } :=
  ⟨h.custody, h.numbered, h.loops.erase generation, h.buffered, h.emptied, h.calm, h.pictured,
    h.shut⟩

/-! ## Closing -/

section Closing

variable {w : PacedWorker α} {closing : Closing}

theorem Intact.stopSource (h : w.Intact) : w.stopSource.Intact :=
  ⟨h.custody, h.numbered, h.loops.stop w.closed, h.buffered, h.emptied, h.calm, h.pictured, h.shut⟩

/-- The state and the closing of a `closeAll` that has begun or gone on. -/
structure Closes (w : PacedWorker α) (closing : PacedWorker α × Closing) : Prop where
  intact : closing.1.Intact
  keeps : w.Keeps closing.1
  silent : w.Silent closing.1
  sound : closing.2.Sound closing.1.closed closing.1.sourceBuffer closing.1.openings
  closings : closing.1.closings = w.closings
  command : closing.1.command = w.command

/-- Closing does not depend on what has been rendered. -/
theorem closes_closeAll (rendered : Bool)
    (h : PacedWorker.Intact { w with renderedSourceFrame := rendered }) : w.Closes w.closeAll where
  intact := ⟨h.custody, h.numbered, h.loops.stop true, h.buffered, h.emptied, nofun, nofun,
    h.shut.finished_le, fun hfinished => ⟨rfl, (h.shut.emptied hfinished).2⟩⟩
  keeps := ⟨rfl, List.Subset.refl _, fun _ => rfl, fun _ => id, fun _ => h.loops.not_mem_succ⟩
  silent := .of_history rfl
  sound := ⟨le_rfl, fun _ _ => rfl, fun _ => nofun⟩
  closings := rfl
  command := rfl

/-- The first failure. -/
theorem closes_fail (hfailed : w.failed = false) (rendered : Bool)
    (h : PacedWorker.Intact { w with renderedSourceFrame := rendered }) : w.Closes w.fail := by
  have hmarked : PacedWorker.Intact { w with failed := true, renderedSourceFrame := rendered } :=
    h.of_view rfl
  obtain ⟨hintact, hkeeps, hsilent, hsound, hclosings, hcommand⟩ :=
    closes_closeAll (w := { w with failed := true }) rendered hmarked
  rw [PacedWorker.fail, if_neg (Bool.eq_false_iff.mp hfailed)]
  have hkept : w.Keeps { w with failed := true } := .of_view rfl
  exact ⟨hintact, hkept.trans hkeeps, hsilent.after rfl, hsound, hclosings, hcommand⟩

theorem Intact.fail (h : w.Intact) : w.Closes w.fail := by
  by_cases hfailed : w.failed = true
  · rw [PacedWorker.fail, if_pos hfailed]
    exact ⟨h, .refl w, .of_history rfl,
      ⟨le_rfl, fun _ hstage => absurd rfl hstage, fun _ => nofun⟩, rfl, rfl⟩
  · exact closes_fail (Bool.eq_false_of_not_eq_true hfailed) w.renderedSourceFrame h

theorem Intact.resumeClosing (h : w.Intact)
    (hclosing : closing.Sound w.closed w.sourceBuffer w.openings) :
    w.Closes (w.resumeClosing closing) := by
  rw [PacedWorker.resumeClosing]
  split
  next hstage =>
    have hclosed : closing.opening = w.openings → w.closed = true :=
      fun hopening => hclosing.closed hopening (by rw [hstage]; exact nofun)
    refine ⟨?_, ⟨rfl, List.Subset.refl _, id, fun _ _ => rfl, id⟩, .of_history rfl,
      ⟨hclosing.opening_le, fun hopening _ => hclosed hopening, fun _ _ => rfl⟩, rfl, rfl⟩
    exact ⟨h.custody.releaseAll, h.numbered, h.loops, List.forall_mem_nil _, fun _ => rfl, h.calm,
      h.pictured, h.shut.clear⟩
  next hstage =>
    refine ⟨⟨h.custody, h.numbered, h.loops, h.buffered, h.emptied, h.calm, fun _ _ => nofun,
      ?_, ?_⟩, ⟨rfl, List.subset_append_left _ _, id, fun _ => id, id⟩, .of_history rfl,
      ⟨hclosing.opening_le, fun _ hreturning => absurd rfl hreturning, fun _ => nofun⟩, rfl,
      rfl⟩
    · exact List.forall_mem_append.mpr
        ⟨h.shut.finished_le, List.forall_mem_singleton.mpr hclosing.opening_le⟩
    · intro hfinished
      rcases List.mem_append.mp hfinished with hfinished | hfinished
      · exact h.shut.emptied hfinished
      · have hopening : closing.opening = w.openings := (List.mem_singleton.mp hfinished).symm
        have hclosed := hclosing.closed hopening (by rw [hstage]; exact nofun)
        exact ⟨hclosed, hclosing.emptied hopening hstage⟩
  next => exact ⟨h, .refl w, .of_history rfl, hclosing, rfl, rfl⟩

/-- Everything that waits is sound. -/
structure Tended (w : PacedWorker α) : Prop where
  intact : w.Intact
  beside : w.Beside
  command : ∀ command, w.command = some command → command.Sound w

theorem Tended.of_keeps {w' : PacedWorker α} (h : w.Tended) (hintact : w'.Intact)
    (hkeeps : w.Keeps w') (hbeside : w'.Beside) (hcommand : w'.command = w.command) :
    w'.Tended where
  intact := hintact
  beside := hbeside
  command command heq := hkeeps.sound_command (h.command command (hcommand.symm.trans heq))

theorem Tended.of_view {w' : PacedWorker α} (h : w.Tended) (hview : w'.view = w.view)
    (hclosings : w'.closings = w.closings) (hcommand : w'.command = w.command) : w'.Tended :=
  h.of_keeps (h.intact.of_view hview) (.of_view hview)
    ((Keeps.of_view hview).beside hclosings h.beside) hcommand

/-- While the worker is open, a `closeAll` that has yet to return is from before. -/
theorem Beside.of_open {w' : PacedWorker α} (h : w.Beside) (hclosed : w.closed = false)
    (hopenings : w'.openings = w.openings) (hclosings : w'.closings = w.closings) : w'.Beside := by
  intro beside hmem
  rw [hclosings] at hmem
  have hopen : ¬ w.closed = true := Bool.eq_false_iff.mp hclosed
  refine ⟨hopenings ▸ (h beside hmem).opening_le, ?_, ?_⟩
  · intro hopening hstage
    exact absurd ((h beside hmem).closed (hopening.trans hopenings) hstage) hopen
  · intro hopening hstage
    refine absurd ((h beside hmem).closed (hopening.trans hopenings) ?_) hopen
    rw [hstage]
    exact nofun

/-- While the worker is open, commands only rely on the loops that have been stopped. -/
theorem Tended.of_open {w' : PacedWorker α} (h : w.Tended) (hintact : w'.Intact)
    (hclosed : w.closed = false) (hopenings : w'.openings = w.openings)
    (hfinished : w'.finished = w.finished) (hclosings : w'.closings = w.closings)
    (hcommand : w'.command = w.command)
    (hstopped : w.sourceGeneration ∉ w.reads → w'.sourceGeneration ∉ w'.reads) : w'.Tended := by
  have hopen : ¬ w.closed = true := Bool.eq_false_iff.mp hclosed
  refine h.of_keeps hintact ⟨hopenings, hfinished ▸ List.Subset.refl _, fun htrue => ?_,
    fun htrue => ?_, hstopped⟩ (h.beside.of_open hclosed hopenings hclosings) hcommand
  · exact absurd htrue hopen
  · exact absurd htrue hopen

theorem Tended.forget (h : w.Tended) (generation : Nat) :
    Tended { w with reads := w.reads.erase generation } :=
  h.of_keeps (h.intact.forget generation)
    ⟨rfl, List.Subset.refl _, id, fun _ => id, fun hreads => hreads ∘ List.mem_of_mem_erase⟩
    h.beside rfl

/-- A failure outside the queue. -/
theorem Tended.failBeside (h : w.Tended) (generation : Option Nat) :
    (w.failBeside generation).Tended := by
  obtain ⟨hintact, hkeeps, -, hsound, hclosings, hcommand⟩ := h.intact.fail
  refine h.of_keeps (hintact.of_view rfl) (hkeeps.before rfl) ?_ hcommand
  intro beside hmem
  rcases List.mem_append.mp hmem with hmem | hmem
  · exact hkeeps.beside hclosings h.beside beside hmem
  · rw [List.mem_singleton.mp hmem]
    exact hsound

theorem Intact.silent_failBeside (h : w.Intact) (generation : Option Nat) :
    w.Silent (w.failBeside generation) :=
  h.fail.silent.before rfl

end Closing

/-! ## Read loops and sources -/

section Reading

variable {w : PacedWorker α} {generation : Nat}

theorem endRead_eq (w : PacedWorker α) (generation : Nat) :
    ∃ sourceReader, w.endRead generation = { w with sourceReader } := by
  rw [endRead]
  split
  · exact ⟨none, rfl⟩
  · exact ⟨w.sourceReader, rfl⟩

theorem Intact.endRead (h : w.Intact) (generation : Nat) : (w.endRead generation).Intact := by
  obtain ⟨sourceReader, heq⟩ := w.endRead_eq generation
  rw [heq]
  exact h.of_view rfl

theorem Keeps.endRead {w' : PacedWorker α} (h : w.Keeps w') (generation : Nat) :
    w.Keeps (w'.endRead generation) := by
  obtain ⟨sourceReader, heq⟩ := w'.endRead_eq generation
  rw [heq]
  exact h.before rfl

theorem silent_endRead (w : PacedWorker α) (generation : Nat) :
    w.Silent (w.endRead generation) := by
  obtain ⟨sourceReader, heq⟩ := w.endRead_eq generation
  rw [heq]
  exact .of_history rfl

/-- The loop of the current generation goes on. -/
theorem Intact.readOn (h : w.Intact) (hreads : w.sourceGeneration ∉ w.reads)
    (hentered : ∀ g ∈ w.entered, g < w.sourceGeneration) :
    (w.readOn w.sourceGeneration).Intact := by
  rw [PacedWorker.readOn]
  split
  next hopen =>
    have hclosed : w.closed = false := Bool.eq_false_of_not_eq_true hopen.1
    exact ⟨h.custody, h.numbered, h.loops.read hreads ⟨hclosed, hentered⟩, h.buffered, h.emptied,
      h.calm, h.pictured, h.shut⟩
  next => exact h.endRead w.sourceGeneration

theorem readOn_eq (w : PacedWorker α) (generation : Nat) :
    ∃ reads sourceReader, w.readOn generation = { w with reads, sourceReader } := by
  rw [PacedWorker.readOn]
  split
  · exact ⟨_, w.sourceReader, rfl⟩
  · obtain ⟨sourceReader, heq⟩ := w.endRead_eq generation
    exact ⟨w.reads, sourceReader, heq⟩

/-- Room is made by closing the oldest frame. -/
theorem makeRoom_eq (w : PacedWorker α) :
    ∃ closes sourceBuffer, w.makeRoom = { w with closes, sourceBuffer } ∧
      (∀ taken, Custody taken w.closes w.sourceBuffer → Custody taken closes sourceBuffer) ∧
      sourceBuffer ⊆ w.sourceBuffer := by
  rw [makeRoom]
  split
  next => exact ⟨w.closes, w.sourceBuffer, rfl, fun _ => id, List.Subset.refl _⟩
  next oldest sourceBuffer hbuffer =>
    split
    next =>
      refine ⟨w.closes ++ [oldest], sourceBuffer, rfl, ?_, ?_⟩
      · rw [hbuffer]
        exact fun _ => Custody.release [] sourceBuffer
      · rw [hbuffer]
        exact List.subset_cons_self _ _
    next => exact ⟨w.closes, w.sourceBuffer, rfl, fun _ => id, List.Subset.refl _⟩

/-- The next frame is new. -/
theorem Intact.fresh (h : w.Intact) (generation : Nat) :
    (⟨w.returned.length, generation⟩ : CapturedFrame) ∉ w.returned :=
  fun hmem => (h.numbered _ hmem).false

theorem Intact.numbered_next (h : w.Intact) (generation : Nat) :
    ∀ frame ∈ w.returned ++ [⟨w.returned.length, generation⟩],
      frame.index < (w.returned ++ [(⟨w.returned.length, generation⟩ : CapturedFrame)]).length := by
  intro frame hframe
  rw [List.length_append, List.length_singleton]
  rcases List.mem_append.mp hframe with hframe | hframe
  · exact (h.numbered frame hframe).trans (Nat.lt_succ_self _)
  · rw [List.mem_singleton.mp hframe]
    exact Nat.lt_succ_self _

/-- A frame of an earlier source is closed at once. -/
theorem Intact.discard (h : w.Intact) (generation : Nat) :
    PacedWorker.Intact { w with
      returned := w.returned ++ [⟨w.returned.length, generation⟩]
      closes := w.closes ++ [⟨w.returned.length, generation⟩] } := by
  have hcustody := (h.custody.take (h.fresh generation)).release w.sourceBuffer []
  rw [List.append_nil] at hcustody
  exact ⟨hcustody, h.numbered_next generation, h.loops, h.buffered, h.emptied, h.calm, h.pictured,
    h.shut⟩

theorem Tended.endRead (h : w.Tended) (generation : Nat) : (w.endRead generation).Tended := by
  obtain ⟨sourceReader, heq⟩ := w.endRead_eq generation
  refine h.of_keeps (h.intact.endRead generation) (Keeps.endRead (.refl w) generation) ?_ ?_
  · rw [heq]
    exact h.beside
  · rw [heq]

end Reading

section Output

variable [Field α] [LinearOrder α] [FloorRing α] {w : PacedWorker α}

/-- Scheduling only concerns the pacing. -/
theorem scheduleNextFrame_eq (w : PacedWorker α) (now : α) :
    ∃ pacing, w.scheduleNextFrame now = { w with pacing } := by
  rw [scheduleNextFrame]
  split
  · exact ⟨w.pacing, rfl⟩
  · exact ⟨_, rfl⟩

theorem startCurrentOutput_eq (w : PacedWorker α) (now : α) :
    ∃ pacing, w.startCurrentOutput now = { w with pacing } := by
  rw [startCurrentOutput]
  split
  · exact ⟨w.pacing, rfl⟩
  · split
    · exact ⟨w.pacing, rfl⟩
    · exact w.scheduleNextFrame_eq now

theorem Keeps.startCurrentOutput {w' : PacedWorker α} (h : w.Keeps w') (now : α) :
    w.Keeps (w'.startCurrentOutput now) := by
  obtain ⟨pacing, heq⟩ := w'.startCurrentOutput_eq now
  rw [heq]
  exact h.before rfl

theorem Intact.startCurrentOutput (h : w.Intact) (now : α) : (w.startCurrentOutput now).Intact := by
  obtain ⟨pacing, heq⟩ := w.startCurrentOutput_eq now
  rw [heq]
  exact h.of_view rfl

theorem keeps_enterPlaceholder (w : PacedWorker α) (now : α) :
    w.Keeps (w.enterPlaceholder now) := by
  apply Keeps.startCurrentOutput
  exact ⟨rfl, List.Subset.refl _, id, fun _ _ => rfl, id⟩

theorem Intact.enterPlaceholder (h : w.Intact) (hreads : w.sourceGeneration ∉ w.reads) (now : α) :
    (w.enterPlaceholder now).Intact := by
  apply Intact.startCurrentOutput
  exact ⟨h.custody.releaseAll, h.numbered, h.loops.enter hreads, List.forall_mem_nil _,
    fun _ => rfl, fun _ _ => rfl, fun _ => nofun, h.shut.clear⟩

theorem Intact.onSourceFrame (h : w.Intact) (hclosed : w.closed = false)
    (hentered : ∀ g ∈ w.entered, g < w.sourceGeneration) (ready now : α) :
    PacedWorker.Intact <| PacedWorker.onSourceFrame
      { w with returned := w.returned ++ [⟨w.returned.length, w.sourceGeneration⟩] }
      ⟨w.returned.length, w.sourceGeneration⟩ ready now := by
  apply Intact.startCurrentOutput
  obtain ⟨closes, sourceBuffer, heq, hcustody, hsubset⟩ := makeRoom_eq
    { w with returned := w.returned ++ [⟨w.returned.length, w.sourceGeneration⟩] }
  rw [heq]
  refine ⟨(hcustody w.returned h.custody).take (h.fresh w.sourceGeneration),
    h.numbered_next w.sourceGeneration, h.loops, ?_, nofun, fun _ => nofun, ?_, h.shut.finished_le,
    ?_⟩
  · intro frame hframe
    rcases List.mem_append.mp hframe with hframe | hframe
    · exact h.buffered frame (hsubset hframe)
    · rw [List.mem_singleton.mp hframe]
      exact ⟨h.loops.announced_le, hentered⟩
  · intro _ hrendered
    have hkept : (if w.placeholder then false else w.renderedSourceFrame) = true := hrendered
    split at hkept
    next => cases hkept
    next => exact h.pictured hclosed hkept
  · intro hfinished
    exact absurd (hclosed.symm.trans (h.shut.emptied hfinished).1) Bool.false_ne_true

/-- What a frame leaves alone. -/
theorem onSourceFrame_eq (w : PacedWorker α) (frame : CapturedFrame) (ready now : α) :
    ∃ w' : PacedWorker α, w.onSourceFrame frame ready now = w' ∧
      w'.sourceGeneration = w.sourceGeneration ∧ w'.reads = w.reads ∧ w'.entered = w.entered ∧
      w'.openings = w.openings ∧ w'.finished = w.finished ∧ w'.closings = w.closings ∧
      w'.command = w.command ∧ w.Silent w' := by
  refine ⟨_, rfl, ?_⟩
  rw [PacedWorker.onSourceFrame]
  obtain ⟨closes, sourceBuffer, hroom, -, -⟩ := w.makeRoom_eq
  rw [hroom]
  obtain ⟨pacing, heq⟩ := startCurrentOutput_eq (α := α) _ now
  rw [heq]
  exact ⟨rfl, rfl, rfl, rfl, rfl, rfl, rfl, .of_history rfl⟩

/-! ## Reads -/

theorem silent_startCurrentOutput (w : PacedWorker α) (now : α) :
    w.Silent (w.startCurrentOutput now) := by
  obtain ⟨pacing, heq⟩ := w.startCurrentOutput_eq now
  rw [heq]
  exact .of_history rfl

theorem silent_enterPlaceholder (w : PacedWorker α) (now : α) :
    w.Silent (w.enterPlaceholder now) := by
  refine Silent.trans ?_ (silent_startCurrentOutput _ now)
  exact ⟨rfl, rfl, List.Subset.refl _, List.subset_append_left _ _⟩

/-- The read of an earlier source. -/
theorem finishRead_stale {generation : Nat} (hstale : generation ≠ w.sourceGeneration)
    (ready now : α) (result : ReadResult) :
    ∃ returned closes, w.finishRead generation ready now result =
      { w with returned, closes }.endRead generation ∧ (w.Intact →
        PacedWorker.Intact { w with returned, closes }) := by
  cases result with
  | frame =>
    refine ⟨_, _, if_pos hstale, fun h => h.discard generation⟩
  | done => exact ⟨w.returned, w.closes, if_pos (.inl hstale), id⟩
  | error => exact ⟨w.returned, w.closes, if_pos (.inl hstale), id⟩

theorem Tended.enterPlaceholder (h : w.Tended) (hreads : w.sourceGeneration ∉ w.reads) (now : α) :
    (w.enterPlaceholder now).Tended := by
  obtain ⟨pacing, heq⟩ := startCurrentOutput_eq (α := α) _ now
  refine h.of_keeps (h.intact.enterPlaceholder hreads now) (keeps_enterPlaceholder w now) ?_ ?_
  · refine (keeps_enterPlaceholder w now).beside ?_ h.beside
    rw [PacedWorker.enterPlaceholder, heq]
    rfl
  · rw [PacedWorker.enterPlaceholder, heq]
    rfl

/-- A frame of the current source. -/
theorem Tended.frame (h : w.Tended) (hmem : w.sourceGeneration ∈ w.reads) (ready now : α) :
    let read := { w with reads := w.reads.erase w.sourceGeneration }
    (read.finishRead w.sourceGeneration ready now .frame).Tended ∧
      w.Silent (read.finishRead w.sourceGeneration ready now .frame) := by
  intro read
  obtain ⟨hclosed, hentered⟩ := h.intact.loops.current hmem
  have hreads : w.sourceGeneration ∉ read.reads := h.intact.loops.nodup.not_mem_erase
  have hintact := (h.intact.forget w.sourceGeneration).onSourceFrame hclosed hentered ready now
  obtain ⟨w', heq, hgeneration, hreads', hentered', hopenings, hfinished, hclosings, hcommand,
    hsilent⟩ := onSourceFrame_eq
      { read with returned := w.returned ++ [⟨w.returned.length, w.sourceGeneration⟩] }
      ⟨w.returned.length, w.sourceGeneration⟩ ready now
  have hresult : read.finishRead w.sourceGeneration ready now .frame =
      w'.readOn w.sourceGeneration := by
    rw [← heq]
    exact if_neg (not_not.mpr rfl)
  rw [heq] at hintact
  have hread : (w'.readOn w.sourceGeneration).Intact := by
    have hfree : w'.sourceGeneration ∉ w'.reads := by
      rw [hgeneration, hreads']
      exact hreads
    have hbefore : ∀ g ∈ w'.entered, g < w'.sourceGeneration := by
      rw [hgeneration, hentered']
      exact hentered
    have hnext := hintact.readOn hfree hbefore
    rwa [hgeneration] at hnext
  obtain ⟨reads, sourceReader, hreadOn⟩ := w'.readOn_eq w.sourceGeneration
  rw [hresult]
  rw [hreadOn] at hread ⊢
  have hkept : w.Silent w' := hsilent.after rfl
  exact ⟨h.of_open hread hclosed hopenings hfinished hclosings hcommand (absurd hmem),
    hkept.before rfl⟩

/-- A read completes, at any moment. -/
theorem Tended.finishRead (h : w.Tended) {generation : Nat} (hmem : generation ∈ w.reads)
    (ready now : α) (result : ReadResult) :
    let read := { w with reads := w.reads.erase generation }
    (read.finishRead generation ready now result).Tended ∧
      w.Silent (read.finishRead generation ready now result) := by
  intro read
  have hread : read.Tended := h.forget generation
  have hsilent : w.Silent read := .of_history rfl
  by_cases hstale : generation = w.sourceGeneration
  · subst hstale
    obtain ⟨hclosed, hentered⟩ := h.intact.loops.current hmem
    have hfree : read.sourceGeneration ∉ read.reads := h.intact.loops.nodup.not_mem_erase
    have hopen : ¬ (read.sourceGeneration ≠ read.sourceGeneration ∨ read.closed) := by
      rintro (hne | htrue)
      · exact hne rfl
      · exact Bool.false_ne_true (hclosed.symm.trans htrue)
    cases result with
    | frame => exact h.frame hmem ready now
    | done =>
      have hresult : read.finishRead w.sourceGeneration ready now .done =
          (read.enterPlaceholder now).endRead w.sourceGeneration := if_neg hopen
      rw [hresult]
      exact ⟨(hread.enterPlaceholder hfree now).endRead _,
        hsilent.trans ((silent_enterPlaceholder read now).trans (silent_endRead _ _))⟩
    | error =>
      have hresult : read.finishRead w.sourceGeneration ready now .error =
          read.failBeside (some w.sourceGeneration) := if_neg hopen
      rw [hresult]
      exact ⟨hread.failBeside _, hsilent.trans (hread.intact.silent_failBeside _)⟩
  · obtain ⟨returned, closes, hresult, hdiscard⟩ :=
      finishRead_stale (w := read) hstale ready now result
    rw [hresult]
    have hkept : Tended { read with returned, closes } :=
      hread.of_keeps (hdiscard hread.intact) ⟨rfl, List.Subset.refl _, id, fun _ => id, id⟩
        hread.beside rfl
    refine ⟨hkept.endRead generation, Silent.trans ?_ (silent_endRead _ _)⟩
    exact .of_history rfl

end Output

end PacedWorker

end VRCStreamer
