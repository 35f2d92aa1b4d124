import VRCStreamer.Client.VideoSource

/-!
# A hidden source

What the worker shows once it has handled the messages of the page. `FollowsPage` is the invariant
of runs in which no clone is handed over while the source is hidden, and none is refused behind
another that is shown.
-/

namespace VRCStreamer

open Concurrency

/-! ## What the worker has been told -/

/-- The messages of the page are handled. -/
structure VideoSource.Handled (s : VideoSource) : Prop where
  messages : s.messages = []
  handling : s.worker.handling = none

/-- No source change is running. -/
structure VideoSource.Completed (s : VideoSource) : Prop where
  constraining : s.page.constraining = []
  pending : s.page.pendingSource = none
  replies : s.replies = 0

/-- The worker reads the frames of a track that has not been stopped. -/
structure VideoSource.Captures (s : VideoSource) (track : Nat) : Prop where
  reader : s.worker.sourceReader = some track
  read : (track, s.worker.sourceGeneration) ∈ s.worker.reads
  running : track ∉ s.page.stopped

/-- The condition of the steps, when `applyConstraints` is done for a clone: if the clone is handed
over, the source is not hidden by then; if it is refused, the source was hidden after the change
that is running had handed over its own. -/
def HandsOverShown (s : VideoSource) (a : SourceAction) : Prop :=
  ∀ track, a = .constrained track →
    (s.page.pendingSource = none → s.page.videoHidden = false) ∧
    (s.page.pendingSource ≠ none → s.sent = .placeholder)

namespace VideoPage

/-- The clones that nobody has stopped. -/
def held (page : VideoPage) : List Nat :=
  page.constraining ++ page.pendingSource.toList ++ page.processorTrack.toList

/-- Every clone is in one place. -/
structure Tracked (page : VideoPage) : Prop where
  nodup : page.held.Nodup
  fresh : ∀ track ∈ page.held, track < page.clones
  stopped : ∀ track ∈ page.stopped, track < page.clones ∧ track ∉ page.held

end VideoPage

namespace VideoWorker

/-- Calls of `readSource` of the newest generation read from the source. -/
structure Reads (w : VideoWorker) : Prop where
  generation : ∀ read ∈ w.reads, read.2 ≤ w.sourceGeneration
  current : ∀ track, (track, w.sourceGeneration) ∈ w.reads → w.sourceReader = some track
  handling : w.handling ≠ none → w.sourceReader = none

/-- The worker does what the last message says, or is about to. -/
def Obeys (w : VideoWorker) (stopped : List Nat) : SourceMessage → Prop
  | .source track => w.handling = some (.source track) ∨ w.handling = none ∧
      (w.sourceReader = some track ∧ (track, w.sourceGeneration) ∈ w.reads ∨ track ∈ stopped)
  | .placeholder => w.handling = some .placeholder ∨ w.handling = none ∧
      w.placeholder = true ∧ w.sourceReader = none

end VideoWorker

/-- What holds in a run whose steps meet the condition. -/
structure FollowsPage (s : VideoSource) : Prop where
  tracked : s.page.Tracked
  reads : s.worker.Reads
  last : s.messages ≠ [] → s.messages.getLast? = some s.sent
  obeys : s.messages = [] → s.worker.Obeys s.page.stopped s.sent
  hidden : s.page.videoHidden = true → s.sent = .placeholder
  shown : s.page.videoHidden = false → s.page.constraining ≠ [] ∨ ∃ track, s.sent = .source track
  pending : ∀ track, s.page.pendingSource = some track →
    s.sent = .source track ∨ s.sent = .placeholder
  held : ∀ track, s.sent = .source track →
    s.page.pendingSource = some track ∨ s.page.processorTrack = some track

/-! ## Clones -/

namespace VideoPage

variable {page page' : VideoPage} {track : Nat}

/-- Clones that change places or are stopped. -/
theorem Tracked.move (h : page.Tracked) {gone : List Nat}
    (hheld : (page'.held ++ gone).Perm page.held) (hstopped : page'.stopped = gone ++ page.stopped)
    (hclones : page'.clones = page.clones) :
    page'.Tracked := by
  obtain ⟨hnodup, -, hdisjoint⟩ := List.nodup_append.mp (hheld.nodup_iff.mpr h.nodup)
  refine ⟨hnodup, ?_, ?_⟩
  · intro track hmem
    rw [hclones]
    exact h.fresh track (hheld.mem_iff.mp (List.mem_append_left gone hmem))
  · intro track hmem
    rw [hclones]
    rw [hstopped] at hmem
    obtain hmem | hmem := List.mem_append.mp hmem
    · refine ⟨h.fresh track (hheld.mem_iff.mp (List.mem_append_right _ hmem)), ?_⟩
      exact fun hheld => hdisjoint track hheld track hmem rfl
    · obtain ⟨hlt, hnot⟩ := h.stopped track hmem
      exact ⟨hlt, fun hmem' => hnot (hheld.mem_iff.mp (List.mem_append_left gone hmem'))⟩

theorem Tracked.hide (h : page.Tracked) : page.hide.Tracked := by
  have hheld : (page.hide.held ++ page.processorTrack.toList).Perm page.held := by
    simp [held, VideoPage.hide]
  exact h.move hheld rfl rfl

theorem Tracked.unhide (h : page.Tracked) : page.unhide.Tracked := by
  have hheld : page.unhide.held = page.clones :: page.held := rfl
  have hnew : page.clones ∉ page.held := fun hmem => Nat.lt_irrefl _ (h.fresh _ hmem)
  refine ⟨?_, ?_, ?_⟩
  · rw [hheld]
    exact List.nodup_cons.mpr ⟨hnew, h.nodup⟩
  · intro track hmem
    rw [hheld] at hmem
    obtain rfl | hmem := List.mem_cons.mp hmem
    · exact Nat.lt_succ_self _
    · exact Nat.lt_succ_of_lt (h.fresh track hmem)
  · intro track hmem
    obtain ⟨hlt, hnot⟩ := h.stopped track hmem
    refine ⟨Nat.lt_succ_of_lt hlt, ?_⟩
    rw [hheld]
    exact List.not_mem_cons_of_ne_of_not_mem (Nat.ne_of_lt hlt) hnot

theorem Tracked.refuse (h : page.Tracked) (hmem : track ∈ page.constraining) :
    (page.refuse track).Tracked := by
  have hheld : ((page.refuse track).held ++ [track]).Perm page.held := by
    have hfront : (page.refuse track).held = page.constraining.erase track ++
        (page.pendingSource.toList ++ page.processorTrack.toList) := List.append_assoc ..
    have hback : page.held = page.constraining ++
        (page.pendingSource.toList ++ page.processorTrack.toList) := List.append_assoc ..
    rw [hfront, hback]
    exact List.perm_append_comm.trans ((List.perm_cons_erase hmem).symm.append_right _)
  exact h.move hheld rfl rfl

theorem Tracked.handOver (h : page.Tracked) (hmem : track ∈ page.constraining)
    (hpending : page.pendingSource = none) : (page.handOver track).Tracked := by
  have hheld : ((page.handOver track).held ++ []).Perm page.held := by
    have hfront : (page.constraining.erase track ++ [track]).Perm page.constraining :=
      List.perm_append_comm.trans (List.perm_cons_erase hmem).symm
    rw [List.append_nil, held, held, hpending, Option.toList_none, List.append_nil]
    exact hfront.append_right _
  exact h.move hheld rfl rfl

theorem Tracked.sourceReady (h : page.Tracked) : page.sourceReady.Tracked := by
  cases hpending : page.pendingSource with
  | none =>
    rw [VideoPage.sourceReady, hpending]
    exact h
  | some track =>
    have hheld : (page.sourceReady.held ++ page.processorTrack.toList).Perm page.held := by
      simp [held, VideoPage.sourceReady, hpending]
    have hstopped : page.sourceReady.stopped = page.processorTrack.toList ++ page.stopped := by
      rw [VideoPage.sourceReady, hpending]
    have hclones : page.sourceReady.clones = page.clones := by
      rw [VideoPage.sourceReady, hpending]
    exact h.move hheld hstopped hclones

end VideoPage

/-! ## Steps of the worker -/

namespace VideoWorker

variable {w w' : VideoWorker} {stopped more : List Nat} {message : SourceMessage}
variable {track generation : Nat}

/-- The source and its generation stay, and no call of `readSource` begins. -/
theorem Reads.keep (h : w.Reads) (hreads : ∀ read ∈ w'.reads, read ∈ w.reads)
    (hgeneration : w'.sourceGeneration = w.sourceGeneration)
    (hreader : w'.sourceReader = w.sourceReader)
    (hhandling : w'.handling ≠ none → w.handling ≠ none) : w'.Reads where
  generation read hmem := hgeneration ▸ h.generation read (hreads read hmem)
  current track hmem := hreader ▸ h.current track (hgeneration ▸ hreads _ hmem)
  handling hne := hreader ▸ h.handling (hhandling hne)

/-- No call of `readSource` is of a generation to come. -/
theorem Reads.old (h : w.Reads) (track : Nat) : (track, w.sourceGeneration + 1) ∉ w.reads :=
  fun hmem => Nat.not_succ_le_self _ (h.generation _ hmem)

theorem Reads.stopSource (h : w.Reads) (message : SourceMessage) :
    ({ w.stopSource with handling := some message } : VideoWorker).Reads where
  generation read hmem := Nat.le_succ_of_le (h.generation read hmem)
  current track hmem := absurd hmem (h.old track)
  handling _ := rfl

theorem Reads.handleMessage (h : w.Reads) (message : SourceMessage) :
    (w.handleMessage message).Reads := by
  cases message with
  | source track => exact h.stopSource (.source track)
  | placeholder =>
    rw [VideoWorker.handleMessage]
    split
    next => exact h
    next => exact h.stopSource .placeholder

theorem Reads.enterPlaceholder (h : w.Reads) : w.enterPlaceholder.Reads :=
  h.keep (fun _ hmem => hmem) rfl rfl (fun hne => hne)

theorem Reads.setSource (h : w.Reads) (track : Nat) : (w.setSource track).Reads := by
  have hready : (if w.placeholder then w else w.enterPlaceholder).Reads := by
    split
    next => exact h
    next => exact h.enterPlaceholder
  rw [VideoWorker.setSource]
  generalize (if w.placeholder then w else w.enterPlaceholder) = ready at hready ⊢
  refine ⟨?_, ?_, fun hne => absurd rfl hne⟩
  · intro read hmem
    obtain rfl | hmem := List.mem_cons.mp hmem
    · exact Nat.le_refl _
    · exact Nat.le_succ_of_le (hready.generation read hmem)
  · intro other hmem
    obtain hsame | hmem := List.mem_cons.mp hmem
    · exact congrArg some (Prod.mk.inj hsame).1.symm
    · exact absurd hmem (hready.old other)

theorem Reads.usePlaceholder (h : w.Reads) : w.usePlaceholder.Reads :=
  h.keep (fun _ hmem => hmem) rfl rfl (fun hne => absurd rfl hne)

theorem Reads.readFrame (h : w.Reads) (track generation : Nat) :
    (w.readFrame track generation).Reads := by
  rw [VideoWorker.readFrame]
  split
  next => exact h.keep (fun _ hmem => hmem) rfl rfl (fun hne => hne)
  next => exact h.keep (fun _ hmem => (List.mem_filter.mp hmem).1) rfl rfl (fun hne => hne)

theorem Reads.readDone (h : w.Reads) (hmem : (track, generation) ∈ w.reads) :
    (w.readDone track generation).Reads := by
  rw [VideoWorker.readDone]
  split
  next hcurrent =>
    subst hcurrent
    have hreader := h.current track hmem
    refine ⟨?_, ?_, ?_⟩
    · exact fun read hread => h.generation read (List.mem_filter.mp hread).1
    · intro other hread
      -- only one call is of this generation
      obtain ⟨hread, hne⟩ := List.mem_filter.mp hread
      obtain rfl := Option.some.inj (hreader.symm.trans (h.current other hread))
      exact absurd rfl (of_decide_eq_true hne)
    · exact fun _ => if_pos hreader
  next => exact h.keep (fun _ hread => (List.mem_filter.mp hread).1) rfl rfl (fun hne => hne)

theorem Obeys.mono (h : w.Obeys stopped message) : w.Obeys (more ++ stopped) message := by
  cases message with
  | source track =>
    obtain hhandling | ⟨hidle, hreads | hstopped⟩ := h
    · exact .inl hhandling
    · exact .inr ⟨hidle, .inl hreads⟩
    · exact .inr ⟨hidle, .inr (List.mem_append_right more hstopped)⟩
  | placeholder => exact h

/-- A message that the worker takes up. -/
theorem obeys_handleMessage (hidle : w.handling = none) (message : SourceMessage) :
    (w.handleMessage message).Obeys stopped message := by
  cases message with
  | source track => exact .inl rfl
  | placeholder =>
    rw [VideoWorker.handleMessage]
    split
    next hshown => exact .inr ⟨hidle, hshown⟩
    next => exact .inl rfl

theorem Obeys.setSource (h : w.Obeys stopped message)
    (hhandling : w.handling = some (.source track)) :
    (w.setSource track).Obeys stopped message := by
  cases message with
  | source other =>
    obtain hsame | ⟨hidle, -⟩ := h
    · obtain rfl := SourceMessage.source.inj (Option.some.inj (hsame.symm.trans hhandling))
      exact .inr ⟨rfl, .inl ⟨rfl, List.mem_cons_self⟩⟩
    · cases hidle.symm.trans hhandling
  | placeholder =>
    obtain hsame | ⟨hidle, -⟩ := h
    · cases hsame.symm.trans hhandling
    · cases hidle.symm.trans hhandling

theorem Obeys.usePlaceholder (h : w.Obeys stopped message) (hreads : w.Reads)
    (hhandling : w.handling = some .placeholder) : w.usePlaceholder.Obeys stopped message := by
  cases message with
  | source other =>
    obtain hsame | ⟨hidle, -⟩ := h
    · cases hsame.symm.trans hhandling
    · cases hidle.symm.trans hhandling
  | placeholder =>
    have hreader := hreads.handling (by rw [hhandling]; exact Option.some_ne_none _)
    exact .inr ⟨rfl, rfl, hreader⟩

/-- Only the source can give frames of the newest generation. -/
theorem Reads.stale (h : w.Reads) (hreader : w.sourceReader = none)
    (hmem : (track, generation) ∈ w.reads) : generation ≠ w.sourceGeneration := by
  rintro rfl
  cases hreader.symm.trans (h.current track hmem)

theorem mem_filter_of_ne (hne : generation ≠ w.sourceGeneration) {other : Nat}
    (hmem : (other, w.sourceGeneration) ∈ w.reads) :
    (other, w.sourceGeneration) ∈ w.reads.filter (· ≠ (track, generation)) := by
  have hother : (other, w.sourceGeneration) ≠ (track, generation) :=
    fun heq => hne (Prod.mk.inj heq).2.symm
  exact List.mem_filter.mpr ⟨hmem, decide_eq_true hother⟩

/-- A call of `readSource` of an older generation returns. -/
theorem Obeys.forget (h : w.Obeys stopped message) (hstale : generation ≠ w.sourceGeneration) :
    ({ w with reads := w.reads.filter (· ≠ (track, generation)) } : VideoWorker).Obeys stopped
      message := by
  cases message with
  | source other =>
    obtain hhandling | ⟨hidle, ⟨hreader, hread⟩ | hstopped⟩ := h
    · exact .inl hhandling
    · exact .inr ⟨hidle, .inl ⟨hreader, mem_filter_of_ne hstale hread⟩⟩
    · exact .inr ⟨hidle, .inr hstopped⟩
  | placeholder => exact h

theorem Obeys.readFrame (h : w.Obeys stopped message) (hreads : w.Reads)
    (hmem : (track, generation) ∈ w.reads) :
    (w.readFrame track generation).Obeys stopped message := by
  rw [VideoWorker.readFrame]
  split
  next hcurrent =>
    cases message with
    | source other => exact h
    | placeholder =>
      obtain hhandling | ⟨-, -, hreader⟩ := h
      · exact .inl hhandling
      · exact absurd hcurrent (hreads.stale hreader hmem)
  next hstale => exact h.forget hstale

theorem Obeys.readDone (h : w.Obeys stopped message) (hreads : w.Reads)
    (hmem : (track, generation) ∈ w.reads)
    (hdone : track ∈ stopped ∨ generation ≠ w.sourceGeneration) :
    (w.readDone track generation).Obeys stopped message := by
  rw [VideoWorker.readDone]
  split
  next hcurrent =>
    subst hcurrent
    have hstopped := hdone.resolve_right (fun hne => hne rfl)
    cases message with
    | source other =>
      obtain hhandling | ⟨hidle, ⟨hreader, -⟩ | hother⟩ := h
      · exact .inl hhandling
      · obtain rfl := Option.some.inj (hreader.symm.trans (hreads.current track hmem))
        exact .inr ⟨hidle, .inr hstopped⟩
      · exact .inr ⟨hidle, .inr hother⟩
    | placeholder =>
      obtain hhandling | ⟨-, -, hreader⟩ := h
      · exact .inl hhandling
      · exact absurd rfl (hreads.stale hreader hmem)
  next hstale => exact h.forget hstale

/-- A frame leaves the source alone. -/
theorem runPacing_source (w : VideoWorker) (bufferReady accepted : Bool) :
    (w.runPacing bufferReady accepted).placeholder = w.placeholder ∧
      (w.runPacing bufferReady accepted).sourceReader = w.sourceReader ∧
      (w.runPacing bufferReady accepted).sourceGeneration = w.sourceGeneration ∧
      (w.runPacing bufferReady accepted).reads = w.reads ∧
      (w.runPacing bufferReady accepted).handling = w.handling := by
  rw [VideoWorker.runPacing]
  cases accepted <;> exact ⟨rfl, rfl, rfl, rfl, rfl⟩

theorem runPacing_placeholder (hplaceholder : w.placeholder = true) (bufferReady : Bool) :
    (w.runPacing bufferReady true).canvas = .placeholder := by
  simp [VideoWorker.runPacing, hplaceholder]

end VideoWorker

namespace FollowsPage

theorem start : FollowsPage VideoSource.system.start where
  tracked := ⟨by decide, by decide, by decide⟩
  reads := ⟨by decide, by simp [VideoSource.system], by simp [VideoSource.system]⟩
  last := by simp [VideoSource.system]
  obeys := fun _ => .inr ⟨rfl, .inl ⟨rfl, by decide⟩⟩
  hidden := by simp [VideoSource.system]
  shown := fun _ => .inr ⟨0, rfl⟩
  pending := by simp [VideoSource.system]
  held := by simp [VideoSource.system]

variable {s s' : VideoSource} {track : Nat}

theorem toggle (h : FollowsPage s) : FollowsPage s.toggle := by
  cases hhidden : s.page.videoHidden with
  | true =>
    have hstep : s.toggle = { s with page := s.page.unhide } := by
      rw [VideoSource.toggle, if_pos hhidden]
    rw [hstep]
    exact
      { tracked := h.tracked.unhide
        reads := h.reads
        last := h.last
        obeys := h.obeys
        hidden := nofun
        shown := fun _ => .inl (List.cons_ne_nil _ _)
        pending := h.pending
        held := h.held }
  | false =>
    have hstep : s.toggle = { s with page := s.page.hide }.post .placeholder := by
      rw [VideoSource.toggle, if_neg (by simp [hhidden])]
    rw [hstep]
    exact
      { tracked := h.tracked.hide
        reads := h.reads
        last := fun _ => List.getLast?_concat
        obeys := fun hnil => absurd hnil (List.append_ne_nil_of_right_ne_nil _ (by simp))
        hidden := fun _ => rfl
        shown := nofun
        pending := fun _ _ => .inr rfl
        held := nofun }

theorem constrained (h : FollowsPage s) (hmem : track ∈ s.page.constraining)
    (hok : HandsOverShown s (.constrained track)) : FollowsPage (s.constrained track) := by
  obtain ⟨hover, hrefused⟩ := hok track rfl
  rw [VideoSource.constrained]
  split
  next other hpending =>
    have hsent : s.sent = .placeholder := hrefused (by simp [hpending])
    exact
      { tracked := h.tracked.refuse hmem
        reads := h.reads
        last := h.last
        obeys := fun hnil => @VideoWorker.Obeys.mono _ _ [track] _ (h.obeys hnil)
        hidden := fun _ => hsent
        shown := nofun
        pending := h.pending
        held := h.held }
  next hpending =>
    have hshown := hover hpending
    exact
      { tracked := h.tracked.handOver hmem hpending
        reads := h.reads
        last := fun _ => List.getLast?_concat
        obeys := fun hnil => absurd hnil (List.append_ne_nil_of_right_ne_nil _ (by simp))
        hidden := fun hhidden => absurd (hhidden.symm.trans hshown) (by simp)
        shown := fun _ => .inr ⟨track, rfl⟩
        pending := fun other hother => .inl (congrArg _ (Option.some.inj hother))
        held := fun other hother => .inl (congrArg some (SourceMessage.source.inj hother)) }

theorem handle (h : FollowsPage s) (hidle : s.worker.handling = none) {message : SourceMessage}
    {messages : List SourceMessage} (hmessages : s.messages = message :: messages) :
    FollowsPage { s with messages, worker := s.worker.handleMessage message } where
  tracked := h.tracked
  reads := h.reads.handleMessage message
  last hne := by
    have hlast := h.last (by simp [hmessages])
    obtain ⟨next, rest, rfl⟩ := List.exists_cons_of_ne_nil hne
    rwa [hmessages, List.getLast?_cons_cons] at hlast
  obeys hnil := by
    have hlast := h.last (by simp [hmessages])
    dsimp only at hnil
    rw [hmessages, hnil, List.getLast?_singleton] at hlast
    rw [← Option.some.inj hlast]
    exact VideoWorker.obeys_handleMessage hidle message
  hidden := h.hidden
  shown := h.shown
  pending := h.pending
  held := h.held

/-- A step of the worker that takes no message. -/
theorem work (h : FollowsPage s) {worker : VideoWorker} (hreads : worker.Reads)
    (hobeys : s.messages = [] → worker.Obeys s.page.stopped s.sent) (replies : Nat)
    (pictures : List Picture) : FollowsPage { s with worker, replies, pictures } where
  tracked := h.tracked
  reads := hreads
  last := h.last
  obeys := hobeys
  hidden := h.hidden
  shown := h.shown
  pending := h.pending
  held := h.held

theorem pace (h : FollowsPage s) (bufferReady accepted : Bool) :
    FollowsPage (s.pace bufferReady accepted) := by
  obtain ⟨hplaceholder, hreader, hgeneration, hreads, hhandling⟩ :=
    s.worker.runPacing_source bufferReady accepted
  apply h.work
  · exact h.reads.keep (fun read hmem => hreads ▸ hmem) hgeneration hreader
      (fun hne => hhandling ▸ hne)
  · intro hnil
    have hobeys := h.obeys hnil
    cases hsent : s.sent with
    | source track =>
      rw [hsent] at hobeys
      rwa [VideoWorker.Obeys, hhandling, hreader, hreads, hgeneration]
    | placeholder =>
      rw [hsent] at hobeys
      rwa [VideoWorker.Obeys, hhandling, hplaceholder, hreader]

theorem reply (h : FollowsPage s) :
    FollowsPage { s with page := s.page.sourceReady, replies := s.replies - 1 } := by
  cases hpending : s.page.pendingSource with
  | none =>
    have hsame : s.page.sourceReady = s.page := by rw [VideoPage.sourceReady, hpending]
    rw [hsame]
    exact h.work h.reads h.obeys _ _
  | some track =>
    have htracked := h.tracked.sourceReady
    have hready : s.page.sourceReady =
        { s.page with
          pendingSource := none
          stopped := s.page.processorTrack.toList ++ s.page.stopped
          processorTrack := some track } := by rw [VideoPage.sourceReady, hpending]
    rw [hready] at htracked ⊢
    exact
      { tracked := htracked
        reads := h.reads
        last := h.last
        obeys := fun hnil => (h.obeys hnil).mono
        hidden := h.hidden
        shown := h.shown
        pending := nofun
        held := by
          intro other hsent
          right
          -- the source that was sent last is the one that the reply is for
          obtain hsame | hplaceholder := h.pending track hpending
          · exact congrArg some (SourceMessage.source.inj (hsame.symm.trans hsent))
          · cases hplaceholder.symm.trans hsent }

theorem step {a : SourceAction} (h : FollowsPage s) (hok : HandsOverShown s a)
    (hstep : s.step a = some s') : FollowsPage s' := by
  cases a with
  | toggle =>
    obtain rfl := Option.some.inj hstep
    exact h.toggle
  | constrained track =>
    obtain ⟨hmem, hs⟩ := Option.ite_none_right_eq_some.mp hstep
    obtain rfl := Option.some.inj hs
    exact h.constrained hmem hok
  | handle =>
    rw [VideoSource.step] at hstep
    split at hstep
    next message messages hidle hmessages =>
      obtain rfl := Option.some.inj hstep
      exact h.handle hidle hmessages
    next => cases hstep
  | readerCancelled =>
    rw [VideoSource.step] at hstep
    split at hstep
    next => cases hstep
    next track hhandling =>
      obtain rfl := Option.some.inj hstep
      exact h.work (h.reads.setSource track) (fun hnil => (h.obeys hnil).setSource hhandling) _ _
    next hhandling =>
      obtain rfl := Option.some.inj hstep
      exact h.work h.reads.usePlaceholder
        (fun hnil => (h.obeys hnil).usePlaceholder h.reads hhandling) _ _
  | frame track generation =>
    obtain ⟨hmem, hs⟩ := Option.ite_none_right_eq_some.mp hstep
    obtain rfl := Option.some.inj hs
    exact h.work (h.reads.readFrame track generation)
      (fun hnil => (h.obeys hnil).readFrame h.reads hmem) _ _
  | done track generation =>
    obtain ⟨⟨hmem, hdone⟩, hs⟩ := Option.ite_none_right_eq_some.mp hstep
    obtain rfl := Option.some.inj hs
    exact h.work (h.reads.readDone hmem)
      (fun hnil => (h.obeys hnil).readDone h.reads hmem hdone) _ _
  | pace bufferReady accepted =>
    obtain rfl := Option.some.inj hstep
    exact h.pace bufferReady accepted
  | reply =>
    obtain ⟨-, hs⟩ := Option.ite_none_right_eq_some.mp hstep
    obtain rfl := Option.some.inj hs
    exact h.reply

end FollowsPage

/-! ## Hidden and shown sources -/

/-- A hidden source whose messages are handled. -/
structure Blank (s : VideoSource) : Prop where
  follows : FollowsPage s
  hidden : s.page.videoHidden = true
  handled : s.Handled

namespace Blank

variable {s s' : VideoSource}

theorem showsPlaceholder (h : Blank s) :
    s.worker.placeholder = true ∧ s.worker.sourceReader = none := by
  have hobeys := h.follows.obeys h.handled.messages
  rw [h.follows.hidden h.hidden] at hobeys
  obtain hhandling | ⟨-, hshown⟩ := hobeys
  · cases h.handled.handling.symm.trans hhandling
  · exact hshown

/-- Until the next toggle the source stays hidden, and nothing but the placeholder is submitted. -/
theorem step {a : SourceAction} (h : Blank s) (hok : HandsOverShown s a) (htoggle : a ≠ .toggle)
    (hstep : s.step a = some s') :
    Blank s' ∧ (s'.pictures = s.pictures ∨ s'.pictures = .placeholder :: s.pictures) := by
  have hfollows := h.follows.step hok hstep
  obtain ⟨hmessages, hhandling⟩ := h.handled
  cases a with
  | toggle => exact absurd rfl htoggle
  | constrained track =>
    obtain ⟨-, hs⟩ := Option.ite_none_right_eq_some.mp hstep
    obtain rfl := Option.some.inj hs
    obtain ⟨hover, -⟩ := hok track rfl
    cases hpending : s.page.pendingSource with
    | none => cases h.hidden.symm.trans (hover hpending)
    | some other =>
      have hrefused : s.constrained track = { s with page := s.page.refuse track } := by
        rw [VideoSource.constrained, hpending]
      rw [hrefused] at hfollows ⊢
      exact ⟨⟨hfollows, rfl, hmessages, hhandling⟩, .inl rfl⟩
  | handle =>
    rw [VideoSource.step, hmessages] at hstep
    split at hstep
    next heq => cases heq
    next => cases hstep
  | readerCancelled =>
    rw [VideoSource.step, hhandling] at hstep
    cases hstep
  | frame track generation =>
    obtain ⟨-, hs⟩ := Option.ite_none_right_eq_some.mp hstep
    obtain rfl := Option.some.inj hs
    refine ⟨⟨hfollows, h.hidden, hmessages, ?_⟩, .inl rfl⟩
    show (s.worker.readFrame track generation).handling = none
    rw [VideoWorker.readFrame]
    split <;> exact hhandling
  | done track generation =>
    obtain ⟨-, hs⟩ := Option.ite_none_right_eq_some.mp hstep
    obtain rfl := Option.some.inj hs
    refine ⟨⟨hfollows, h.hidden, hmessages, ?_⟩, .inl rfl⟩
    show (s.worker.readDone track generation).handling = none
    rw [VideoWorker.readDone]
    split <;> exact hhandling
  | pace bufferReady accepted =>
    obtain rfl := Option.some.inj hstep
    obtain ⟨-, -, -, -, hsame⟩ := s.worker.runPacing_source bufferReady accepted
    refine ⟨⟨hfollows, h.hidden, hmessages, hsame.trans hhandling⟩, ?_⟩
    cases accepted with
    | false => exact .inl rfl
    | true =>
      right
      exact congrArg (· :: s.pictures)
        (VideoWorker.runPacing_placeholder h.showsPlaceholder.1 bufferReady)
  | reply =>
    obtain ⟨-, hs⟩ := Option.ite_none_right_eq_some.mp hstep
    obtain rfl := Option.some.inj hs
    refine ⟨⟨hfollows, ?_, hmessages, hhandling⟩, .inl rfl⟩
    show s.page.sourceReady.videoHidden = true
    rw [VideoPage.sourceReady]
    split <;> exact h.hidden

/-- Nothing but the placeholder is submitted up to the next toggle. -/
theorem run (h : Blank s)
    (hrun : VideoSource.system.Run (fun s a => HandsOverShown s a ∧ a ≠ .toggle) s s') :
    Blank s' ∧ ∃ more, s'.pictures = more ++ s.pictures ∧
      ∀ picture ∈ more, picture = .placeholder := by
  apply hrun.invariant (P := fun s' => Blank s' ∧ ∃ more, s'.pictures = more ++ s.pictures ∧
    ∀ picture ∈ more, picture = .placeholder)
  · exact ⟨h, [], rfl, nofun⟩
  · rintro before a after ⟨hblank, more, hmore, hall⟩ ⟨hok, htoggle⟩ hnext
    obtain ⟨hafter, hsame | hpicture⟩ := hblank.step hok htoggle hnext
    · exact ⟨hafter, more, hsame.trans hmore, hall⟩
    · refine ⟨hafter, .placeholder :: more, ?_, List.forall_mem_cons.mpr ⟨rfl, hall⟩⟩
      rw [hpicture, hmore, List.cons_append]

end Blank

/-- In every run whose steps meet the condition: once its messages are handled a hidden source is
not read, and nothing but the placeholder is submitted up to the next toggle; and once all source
changes are through, a source that is shown is read. -/
theorem hidden_source_not_streamed {s : VideoSource}
    (h : VideoSource.system.Run HandsOverShown VideoSource.system.start s) (hhandled : s.Handled) :
    (s.page.videoHidden = true →
      (s.worker.placeholder = true ∧ s.worker.sourceReader = none) ∧
      ∀ s', VideoSource.system.Run (fun s a => HandsOverShown s a ∧ a ≠ .toggle) s s' →
        ∃ more, s'.pictures = more ++ s.pictures ∧ ∀ picture ∈ more, picture = .placeholder) ∧
    (s.page.videoHidden = false → s.Completed → ∃ track, s.Captures track) := by
  have hfollows : FollowsPage s :=
    h.invariant .start (fun _ _ _ hprev hok hnext => hprev.step hok hnext)
  constructor
  · intro hhidden
    have hblank : Blank s := ⟨hfollows, hhidden, hhandled⟩
    exact ⟨hblank.showsPlaceholder, fun s' hrun => (hblank.run hrun).2⟩
  · intro hshown hcompleted
    obtain hconstraining | ⟨track, hsent⟩ := hfollows.shown hshown
    · exact absurd hcompleted.constraining hconstraining
    · have hheld : track ∈ s.page.held := by
        obtain hpending | hprocessor := hfollows.held track hsent
        · cases hcompleted.pending.symm.trans hpending
        · simp [VideoPage.held, hprocessor]
      have hrunning : track ∉ s.page.stopped :=
        fun hmem => (hfollows.tracked.stopped track hmem).2 hheld
      have hobeys := hfollows.obeys hhandled.messages
      rw [hsent] at hobeys
      obtain hhandling | ⟨-, ⟨hreader, hread⟩ | hstopped⟩ := hobeys
      · cases hhandled.handling.symm.trans hhandling
      · exact ⟨track, hreader, hread, hrunning⟩
      · exact absurd hstopped hrunning

/-! ## Sample runs -/

namespace VideoSource

instance (s : VideoSource) : Decidable s.Handled :=
  decidable_of_iff (s.messages = [] ∧ s.worker.handling = none)
    ⟨fun h => ⟨h.1, h.2⟩, fun h => ⟨h.messages, h.handling⟩⟩

instance (s : VideoSource) : Decidable s.Completed :=
  decidable_of_iff
    (s.page.constraining = [] ∧ s.page.pendingSource = none ∧ s.replies = 0)
    ⟨fun h => ⟨h.1, h.2.1, h.2.2⟩, fun h => ⟨h.constraining, h.pending, h.replies⟩⟩

instance (s : VideoSource) (track : Nat) : Decidable (s.Captures track) :=
  decidable_of_iff
    (s.worker.sourceReader = some track ∧
      s.worker.reads.contains (track, s.worker.sourceGeneration) ∧ track ∉ s.page.stopped)
    ⟨fun h => ⟨h.1, List.contains_iff_mem.mp h.2.1, h.2.2⟩,
      fun h => ⟨h.reader, List.contains_iff_mem.mpr h.read, h.running⟩⟩

/-- `HandsOverShown`, to be computed. -/
def handsOverShown (s : VideoSource) : SourceAction → Bool
  | .constrained _ =>
    if s.page.pendingSource = none then !s.page.videoHidden else s.sent = .placeholder
  | _ => true

theorem handsOverShown_of_check (s : VideoSource) (a : SourceAction)
    (h : s.handsOverShown a = true) : HandsOverShown s a := by
  rintro track rfl
  rw [handsOverShown] at h
  constructor
  · intro hpending
    rwa [if_pos hpending, Bool.not_eq_true'] at h
  · intro hpending
    rwa [if_neg hpending, decide_eq_true_eq] at h

def hideSteps : List SourceAction := [.toggle, .handle, .readerCancelled]

/-- The worker takes the first clone and reads a frame of it. -/
def captureSteps : List SourceAction :=
  [.constrained 1, .handle, .readerCancelled, .reply, .frame 1 6, .pace true true]

end VideoSource

/-- A source that is hidden and shown, and hidden again. -/
theorem hidden_source_not_streamed_small :
    (∃ s : VideoSource, s.page.videoHidden = false ∧ ∃ track, s.Captures track) ∧
    ∃ s : VideoSource, s.page.videoHidden = true ∧ Picture.captured 1 ∈ s.pictures ∧
      s.worker.placeholder = true ∧ s.worker.sourceReader = none := by
  have hrun : ∀ steps s, (VideoSource.system.guarded VideoSource.handsOverShown).exec
      VideoSource.system.start steps = some s →
      VideoSource.system.Run HandsOverShown VideoSource.system.start s :=
    fun steps s hexec =>
      System.run_of_exec_guarded (fun s a _ => s.handsOverShown_of_check a) hexec
  constructor
  · obtain ⟨s, hexec, hview⟩ := (Option.any_eq_true
      (fun s : VideoSource => s.Handled ∧ s.Completed ∧ s.page.videoHidden = false)
      ((VideoSource.system.guarded VideoSource.handsOverShown).exec VideoSource.system.start
        (VideoSource.hideSteps ++ .toggle :: VideoSource.captureSteps))).mp (by decide +kernel)
    obtain ⟨hhandled, hcompleted, hshown⟩ := of_decide_eq_true hview
    exact ⟨s, hshown, (hidden_source_not_streamed (hrun _ s hexec) hhandled).2 hshown hcompleted⟩
  · obtain ⟨s, hexec, hview⟩ := (Option.any_eq_true
      (fun s : VideoSource => s.Handled ∧ s.page.videoHidden = true ∧
        Picture.captured 1 ∈ s.pictures)
      ((VideoSource.system.guarded VideoSource.handsOverShown).exec VideoSource.system.start
        (VideoSource.hideSteps ++ .toggle :: VideoSource.captureSteps ++
          VideoSource.hideSteps))).mp (by decide +kernel)
    obtain ⟨hhandled, hhidden, hpictures⟩ := of_decide_eq_true hview
    obtain ⟨hshows, -⟩ := (hidden_source_not_streamed (hrun _ s hexec) hhandled).1 hhidden
    exact ⟨s, hhidden, hpictures, hshows⟩

/-- A source that is hidden again while `applyConstraints` runs is streamed. -/
theorem hidden_source_streamed : ∃ s : VideoSource, VideoSource.system.Reachable s ∧
    s.Handled ∧ s.Completed ∧ s.page.videoHidden = true ∧ s.Captures 1 ∧
    s.pictures.head? = some (.captured 1) := by
  obtain ⟨s, hexec, hview⟩ := (Option.any_eq_true
    (fun s : VideoSource => s.Handled ∧ s.Completed ∧ s.page.videoHidden = true ∧ s.Captures 1 ∧
      s.pictures.head? = some (.captured 1))
    (VideoSource.system.exec VideoSource.system.start
      (VideoSource.hideSteps ++ [.toggle, .toggle, .handle] ++ VideoSource.captureSteps))).mp
    (by decide +kernel)
  exact ⟨s, System.reachable_of_exec hexec, of_decide_eq_true hview⟩

end VRCStreamer
