import VRCStreamer.Live.Invariant
import VRCStreamer.Live.Tracks

/-!
# The anchor of a listener's timeline

A session raises the epoch before its wake, and its frames come after the wake. So a frame
that is received in a round of the loop either belongs to a session that had raised the epoch
when the round loaded it, or the timeline has no anchor of an earlier session for that epoch.
Two receivers escape this: the one that drops a backlog in the middle of a round, and the one
that audio has kept from SETUP when PLAY loads its first epoch.
-/

namespace VRCStreamer

open Codec Concurrency

/-! ## Sessions and epochs -/

/-- No later session than `a` had begun in epoch `e`. -/
def Ahead (channel : LiveChannel) (e a : Nat) : Prop :=
  ∀ s E, a < s → channel.starts.epoch s = some E → e < E

/-- A receiver of a task in epoch `e` has only frames of sessions that were the last to begin
in that epoch. -/
structure Fresh (channel : LiveChannel) (e : Nat) (track : RtspTrack) (rx : Nat) : Prop where
  le : rx ≤ (channel.log track).length
  ahead : ∀ i a, rx ≤ i → (channel.log track)[i]? = some (some a) → Ahead channel e a

/-- The sessions after `a` begin behind a receiver. -/
def Unstarted (channel : LiveChannel) (track : RtspTrack) (rx a : Nat) : Prop :=
  ∀ s w, a < s → channel.starts.track track s = some w → rx ≤ w

/-- What a step of a publisher does to sessions and epochs. -/
structure Grows (channel channel' : LiveChannel) : Prop where
  epoch : channel.resyncEpoch ≤ channel'.resyncEpoch
  length : ∀ track, (channel.log track).length ≤ (channel'.log track).length
  frame : ∀ track i a, (channel'.log track)[i]? = some (some a) →
    (channel.log track)[i]? = some (some a) ∨
      ((channel.log track).length ≤ i ∧ ∀ s, a < s → channel'.starts.epoch s = none)
  started : ∀ s E, channel'.starts.epoch s = some E →
    channel.starts.epoch s = some E ∨ channel.resyncEpoch < E
  place : ∀ track s w, channel'.starts.track track s = some w →
    channel.starts.track track s = some w ∨ (channel.log track).length ≤ w

section

variable {channel channel' : LiveChannel} {track : RtspTrack} {e a rx : Nat}

theorem Ahead.mono (h : Ahead channel e a) (hgrows : Grows channel channel')
    (he : e ≤ channel.resyncEpoch) : Ahead channel' e a := by
  intro s E has hE
  obtain hold | hnew := hgrows.started s E hE
  · exact h s E has hold
  · exact he.trans_lt hnew

theorem Fresh.mono (h : Fresh channel e track rx) (hgrows : Grows channel channel')
    (he : e ≤ channel.resyncEpoch) : Fresh channel' e track rx where
  le := h.le.trans (hgrows.length track)
  ahead i a hle hentry := by
    obtain hold | ⟨-, hnone⟩ := hgrows.frame track i a hentry
    · exact (h.ahead i a hle hold).mono hgrows he
    · intro s E has hE
      rw [hnone s has] at hE
      cases hE

theorem Unstarted.mono (h : Unstarted channel track rx a) (hgrows : Grows channel channel')
    (hrx : rx ≤ (channel.log track).length) : Unstarted channel' track rx a := by
  intro s w has hw
  obtain hold | hnew := hgrows.place track s w hw
  · exact h s w has hold
  · exact hrx.trans hnew

/-- A new receiver has nothing yet. -/
theorem fresh_length (channel : LiveChannel) (e : Nat) (track : RtspTrack) :
    Fresh channel e track (channel.log track).length where
  le := le_rfl
  ahead i a hle hentry := by
    have hlt := (List.getElem?_eq_some_iff.mp hentry).1
    omega

theorem Fresh.later (h : Fresh channel e track rx) {next : Nat} (hle : rx ≤ next)
    (hnext : next ≤ (channel.log track).length) : Fresh channel e track next where
  le := hnext
  ahead i a hi := h.ahead i a (hle.trans hi)

end

namespace Live

variable {θ : Type*} {s : Live θ} {t : θ} {channel' : LiveChannel} {pc' : PublisherPc}

theorem resyncEpoch_le_op (channel : LiveChannel) (op : LiveOp)
    (hwrap : channel.resyncEpoch + 1 < 2 ^ 64) :
    channel.resyncEpoch ≤ (channel.op op).resyncEpoch := by
  cases op with
  | forceResync =>
    show channel.resyncEpoch ≤ (channel.resyncEpoch + 1) % 2 ^ 64
    omega
  | _ => exact le_rfl

theorem resyncEpoch_le {channel : LiveChannel} {pc : PublisherPc}
    (h : PublisherEffect channel pc channel' pc') (hwrap : channel.resyncEpoch + 1 < 2 ^ 64) :
    channel.resyncEpoch ≤ channel'.resyncEpoch := by
  cases h with
  | startOp => exact resyncEpoch_le_op channel _ hwrap
  | op => exact resyncEpoch_le_op channel _ hwrap
  | closeOp => exact resyncEpoch_le_op channel _ hwrap
  | _ => exact le_rfl

theorem Published.epoch_none (h : Published s) {session : Nat}
    (hle : s.channel.sessions ≤ session) : s.channel.starts.epoch session = none := by
  have hprogress := (h.started.fresh session hle).epoch
  exact Option.not_isSome_iff_eq_none.mp (mt hprogress.mp (by decide))

/-- Who sends frames is the last to have taken the flag. -/
theorem Published.later_none (h : Published s) {a session : Nat}
    (hserves : (s.publisher t).serves = some a) (hlt : a < session) :
    s.channel.starts.epoch session = none := by
  have hheld := PublisherPc.holds_of_toStart (PublisherPc.toStart_of_serves hserves)
  obtain ⟨-, hsessions⟩ := h.flagged.holder t a hheld
  exact h.epoch_none (by omega)

theorem Published.grows (h : Published s) (hwrap : s.channel.resyncEpoch + 1 < 2 ^ 64)
    (heffect : PublisherEffect s.channel (s.publisher t) channel' pc') :
    Grows s.channel channel' where
  epoch := resyncEpoch_le heffect hwrap
  length track := by
    obtain hlog | ⟨op, hlog, -⟩ := log_cases heffect
    · rw [hlog]
    · rw [hlog, List.length_append]
      exact Nat.le_add_right _ _
  frame track i a hentry := by
    obtain hlog | ⟨op, hlog, hpc⟩ := log_cases heffect
    · rw [hlog] at hentry
      exact .inl hentry
    · rw [hlog] at hentry
      obtain hold | ⟨rfl, hsends⟩ := getElem?_append_toList hentry
      · exact .inl hold
      · have hserves := h.sends hpc track a hsends
        refine .inr ⟨le_rfl, ?_⟩
        intro session hlt
        obtain ⟨hstarts, -, -⟩ | ⟨rfl, -⟩ | ⟨other, op, ops, hstarting, -, -⟩ :=
          start_cases heffect
        · rw [hstarts]
          exact h.later_none hserves hlt
        · exact h.later_none hserves hlt
        · obtain ⟨session, ops, hpc⟩ | ⟨session, spoken, ops, hpc⟩ | ⟨ops, hpc⟩ := hpc
          · rw [hpc] at hserves
            cases hserves
          · rw [hpc] at hstarting
            cases hstarting
          · rw [hpc] at hstarting
            cases hstarting
  started session E hE := by
    obtain ⟨hstarts, -, -⟩ | ⟨rfl, -⟩ | ⟨other, op, ops, -, rfl, -⟩ := start_cases heffect
    · rw [hstarts] at hE
      exact .inl hE
    · exact .inl hE
    · have hE : (s.channel.noteStart other op).epoch session = some E := hE
      obtain hsame | ⟨-, hupdate⟩ := s.channel.noteStart_epoch other op
      · rw [hsame] at hE
        exact .inl hE
      · rw [hupdate] at hE
        obtain rfl | hne := eq_or_ne session other
        · rw [Function.update_self] at hE
          obtain rfl := Option.some.inj hE
          right
          omega
        · rw [Function.update_of_ne hne] at hE
          exact .inl hE
  place track session w hw := by
    obtain ⟨hstarts, -, -⟩ | ⟨rfl, -⟩ | ⟨other, op, ops, -, rfl, -⟩ := start_cases heffect
    · rw [hstarts] at hw
      exact .inl hw
    · exact .inl hw
    · have hw : (s.channel.noteStart other op).track track session = some w := hw
      rw [s.channel.noteStart_track other op track] at hw
      split at hw
      next =>
        obtain rfl | hne := eq_or_ne session other
        · rw [Function.update_self] at hw
          exact .inr (Option.some.inj hw).le
        · rw [Function.update_of_ne hne] at hw
          exact .inl hw
      next => exact .inl hw

/-- Every session that has begun has raised the epoch. -/
def Bounded (channel : LiveChannel) : Prop :=
  ∀ session E, channel.starts.epoch session = some E → E ≤ channel.resyncEpoch

theorem Bounded.step (h : Bounded s.channel) (hwrap : s.channel.resyncEpoch + 1 < 2 ^ 64)
    (heffect : PublisherEffect s.channel (s.publisher t) channel' pc') : Bounded channel' := by
  intro session E hE
  have hle := resyncEpoch_le heffect hwrap
  obtain ⟨hstarts, -, -⟩ | ⟨rfl, -⟩ | ⟨other, op, ops, -, rfl, -⟩ := start_cases heffect
  · rw [hstarts] at hE
    exact (h session E hE).trans hle
  · exact h session E hE
  · have hE : (s.channel.noteStart other op).epoch session = some E := hE
    obtain hsame | ⟨rfl, hupdate⟩ := s.channel.noteStart_epoch other op
    · rw [hsame] at hE
      exact (h session E hE).trans hle
    · rw [hupdate] at hE
      obtain rfl | hne := eq_or_ne session other
      · rw [Function.update_self] at hE
        exact (Option.some.inj hE).ge
      · rw [Function.update_of_ne hne] at hE
        exact (h session E hE).trans hle

end Live

/-! ## The task -/

/-- The task has loaded its epoch for this round, and found it the same if it is just about to
go on from there. -/
def Playing.Sampled (play : Playing) : Prop :=
  play.task.point = .backlog ∨ play.task.point = .state ∨ play.task.point = .streamer ∨
    (play.task.point = .select ∧ play.pending = none) ∨
    (play.task.point = .epoch ∧ play.Loaded .resyncEpoch ∧
      play.view.resyncEpoch = play.task.resyncEpoch)

/-- What ties the anchor of a timeline to the sessions. -/
structure Tied (channel : LiveChannel) (play : Playing) : Prop where
  epoch : play.task.resyncEpoch ≤ play.view.resyncEpoch
  view : play.view.resyncEpoch ≤ channel.resyncEpoch
  same : ¬ play.Loaded .resyncEpoch → play.view.resyncEpoch = play.task.resyncEpoch
  loads : ∀ action loads, play.pending = some (action, loads) →
    loads <:+ action.loads play.task.point
  timeline : play.anchoredBy.isSome → play.task.timeline.epoch ≤ play.task.resyncEpoch
  anchor : ∀ a, play.anchor = some a → Ahead channel play.task.resyncEpoch a
  rx : ∀ track rx, play.task.rx track = some rx → Fresh channel play.task.resyncEpoch track rx
  newRx : ∀ track, play.Loaded track.load →
    Fresh channel play.view.resyncEpoch track (play.view.rx track)
  unstarted : play.Sampled → ∀ a, play.anchor = some a →
    ∀ track rx, play.task.rx track = some rx → Unstarted channel track rx a
  backlog : play.task.point = .backlog → play.Loaded .audioRx →
    MAX_AUDIO_BACKLOG_FRAMES < play.view.queued → ∀ a, play.anchor = some a →
      Unstarted channel .audio play.view.audioRx a
  frame : ∀ action loads frame, play.pending = some (action, loads) → action.frame = some frame →
    (∀ a, play.anchor = some a → ¬ a < frame.session) ∧
      Ahead channel play.task.resyncEpoch frame.session

/-- No frame was mapped through an anchor of an earlier session. -/
structure Anchored (channel : LiveChannel) (play : Playing) : Prop where
  mappings : ∀ p ∈ play.mappings, ¬ p.2 < p.1
  isSome : play.anchoredBy.isSome = play.task.timeline.anchor.isSome
  tied : play.task.point ≠ .ended → Tied channel play

section

variable {channel channel' : LiveChannel} {play : Playing}

theorem Tied.mono (h : Tied channel play) (hgrows : Grows channel channel') :
    Tied channel' play where
  epoch := h.epoch
  view := h.view.trans hgrows.epoch
  same := h.same
  loads := h.loads
  timeline := h.timeline
  anchor a ha := (h.anchor a ha).mono hgrows (h.epoch.trans h.view)
  rx track rx hrx := (h.rx track rx hrx).mono hgrows (h.epoch.trans h.view)
  newRx track hloaded := (h.newRx track hloaded).mono hgrows h.view
  unstarted hsampled a ha track rx hrx :=
    (h.unstarted hsampled a ha track rx hrx).mono hgrows (h.rx track rx hrx).le
  backlog hpoint hloaded hqueued a ha :=
    (h.backlog hpoint hloaded hqueued a ha).mono hgrows (h.newRx .audio hloaded).le
  frame action loads frame hpending hframe := by
    obtain ⟨hanchor, hahead⟩ := h.frame action loads frame hpending hframe
    exact ⟨hanchor, hahead.mono hgrows (h.epoch.trans h.view)⟩

theorem Anchored.mono (h : Anchored channel play) (hgrows : Grows channel channel') :
    Anchored channel' play where
  mappings := h.mappings
  isSome := h.isSome
  tied hpoint := (h.tied hpoint).mono hgrows

end

/-! ## Loads -/

section

variable {action : TaskAction} {point : LoopPoint} {load : Load} {loads : List Load}

theorem nodup_loads (action : TaskAction) (point : LoopPoint) : (action.loads point).Nodup := by
  rw [TaskAction.loads.eq_def]
  split
  next => split <;> decide
  all_goals decide

theorem point_of_resyncEpoch_mem (h : .resyncEpoch ∈ action.loads point) :
    action = .next ∧ point = .epoch := by
  rw [TaskAction.loads.eq_def] at h
  split at h
  next => split at h <;> simp at h ⊢
  all_goals simp at h

/-- The epoch is loaded before the receivers. -/
theorem mem_of_resyncEpoch_cons (h : .resyncEpoch :: loads <:+ action.loads point)
    (track : RtspTrack) : track.load ∈ loads := by
  obtain ⟨rfl, rfl⟩ := point_of_resyncEpoch_mem (h.subset List.mem_cons_self)
  obtain ⟨front, hfront⟩ := h
  cases front with
  | nil =>
    obtain rfl : loads = [.audioRx, .videoRx] := by simpa [TaskAction.loads] using hfront
    cases track <;> decide
  | cons first rest =>
    exfalso
    have hnot : .resyncEpoch ∉ [Load.audioRx, Load.videoRx] := by decide
    have htail : rest ++ .resyncEpoch :: loads = [.audioRx, .videoRx] := (List.cons.inj hfront).2
    rw [← htail] at hnot
    simp at hnot

/-- The last load of a backlog is its new receiver. -/
theorem mem_of_backlog (hmem : .audioRx ∈ action.loads .backlog)
    (h : load :: loads <:+ action.loads .backlog) : .audioRx ∈ load :: loads := by
  rw [TaskAction.loads.eq_def] at h hmem
  split at h
  next =>
    obtain heq | h := List.suffix_cons_iff.mp h
    · rw [heq]
      decide
    · obtain heq | h := List.suffix_cons_iff.mp h
      · rw [heq]
        decide
      · cases List.suffix_nil.mp h
  next => simp at hmem
  next =>
    obtain heq | h := List.suffix_cons_iff.mp h
    · rw [heq]
      decide
    · cases List.suffix_nil.mp h
  next => simp at hmem
  next => simp at hmem
  next => simp at hmem

end

/-! ## The pieces of a step -/

section

variable {channel : LiveChannel} {play : Playing} {config : MediaTaskConfig}
variable {action : TaskAction} {task : MediaTask Nat}

theorem Tied.begin (h : Tied channel play)
    (hplaced : ∀ track, Live.TrackStarts channel track) (now : Nat → Nat) (ntp : UInt32 × UInt32)
    (hidle : play.pending = none) (hreceived : play.task.Received channel action task) :
    Tied channel (play.begun action task now ntp) := by
  obtain ⟨hpoint, htimeline, hepoch⟩ := same_of_received hreceived
  have hnot : ∀ load, ¬ play.Loaded load := by
    rintro load ⟨begun, loads, hpending, -⟩
    rw [hidle] at hpending
    cases hpending
  have hanchor : (play.begun action task now ntp).anchor = play.anchor := by
    simp only [Playing.anchor, Playing.begun, htimeline, hepoch]
  refine ⟨?_, h.view, ?_, ?_, ?_, ?_, ?_, ?_, ?_, ?_, ?_⟩
  · show task.resyncEpoch ≤ play.view.resyncEpoch
    rw [hepoch]
    exact h.epoch
  · intro _
    show play.view.resyncEpoch = task.resyncEpoch
    rw [hepoch]
    exact h.same (hnot _)
  · intro begun loads hpending
    cases hpending
    exact List.suffix_rfl
  · show play.anchoredBy.isSome → task.timeline.epoch ≤ task.resyncEpoch
    rw [htimeline, hepoch]
    exact h.timeline
  · rw [hanchor]
    show ∀ a, play.anchor = some a → Ahead channel task.resyncEpoch a
    rw [hepoch]
    exact h.anchor
  · intro track rx hrx
    show Fresh channel task.resyncEpoch track rx
    rw [hepoch]
    obtain ⟨old, hold, hle, hend⟩ := rx_of_received hreceived hrx
    have hfresh := h.rx track old hold
    refine hfresh.later hle ?_
    obtain rfl | hend := hend
    · exact hfresh.le
    · exact hend
  · intro track hloaded
    exact absurd hloaded (not_loaded_begun now ntp)
  · intro hsampled
    rw [hanchor]
    obtain hselect | ⟨rfl, rfl⟩ := point_of_received hreceived
    · -- an event has been taken, so the epoch is to be loaded anew
      exfalso
      simp only [Playing.Sampled, Playing.begun, hpoint, hselect] at hsampled
      simp at hsampled
    · refine h.unstarted ?_
      obtain hpoint | hpoint | hpoint | ⟨-, hpending⟩ | ⟨-, hloaded, -⟩ := hsampled
      · exact .inl hpoint
      · exact .inr (.inl hpoint)
      · exact .inr (.inr (.inl hpoint))
      · cases hpending
      · exact absurd hloaded (not_loaded_begun now ntp)
  · intro _ hloaded
    exact absurd hloaded (not_loaded_begun now ntp)
  · intro begun loads frame hpending hframe
    cases hpending
    obtain ⟨hselect, rx, hrx, hentry⟩ := frame_of_received hreceived hframe
    rw [hanchor]
    constructor
    · intro a ha hlt
      obtain ⟨-, w, hw, hlt'⟩ := (hplaced frame.track).placed rx frame.session hentry
      have hsampled : play.Sampled := .inr (.inr (.inr (.inl ⟨hselect, hidle⟩)))
      have hle := h.unstarted hsampled a ha frame.track rx hrx frame.session w hlt hw
      omega
    · show Ahead channel task.resyncEpoch frame.session
      rw [hepoch]
      exact (h.rx frame.track rx hrx).ahead rx frame.session le_rfl hentry

theorem resyncEpoch_look (channel : LiveChannel) {load : Load} (hne : load ≠ .resyncEpoch)
    (task : MediaTask Nat) (view : ChannelView Nat) :
    (channel.look task view load).resyncEpoch = view.resyncEpoch := by
  cases load <;> first | rfl | exact absurd rfl hne

section Looked

variable {load : Load} {loads : List Load}

theorem Tied.looked_newRx (h : Tied channel play)
    (hpending : play.pending = some (action, load :: loads)) {track : RtspTrack}
    (hloaded : (play.looked channel action load loads).Loaded track.load) :
    Fresh channel (channel.look play.task play.view load).resyncEpoch track
      ((channel.look play.task play.view load).rx track) := by
  have hsuffix := h.loads action (load :: loads) hpending
  obtain heq | hold := loaded_of_load hpending hloaded
  · subst heq
    rw [MediaTask.rx_look_self]
    exact fresh_length channel _ track
  · obtain ⟨-, habsent⟩ := hold.mem hpending
    have hne : load ≠ track.load := by
      rintro rfl
      exact habsent List.mem_cons_self
    have hother : load ≠ .resyncEpoch := by
      rintro rfl
      exact habsent (List.mem_cons_of_mem _ (mem_of_resyncEpoch_cons hsuffix track))
    rw [resyncEpoch_look channel hother, MediaTask.rx_look channel load hne]
    exact h.newRx track hold

theorem Tied.looked_unstarted (h : Tied channel play) (hbounded : Live.Bounded channel)
    (hstarts : ∀ track, Live.TrackStarts channel track)
    (hpending : play.pending = some (action, load :: loads))
    (hsampled : (play.looked channel action load loads).Sampled) {a : Nat}
    (ha : play.anchor = some a) {track : RtspTrack} {rx : Nat}
    (hrx : play.task.rx track = some rx) : Unstarted channel track rx a := by
  have hsuffix := h.loads action (load :: loads) hpending
  have hunloaded : ∀ s w, a < s → channel.starts.track track s = some w →
      play.task.resyncEpoch < channel.resyncEpoch := by
    intro s w has hw
    obtain ⟨E, hE⟩ := Option.isSome_iff_exists.mp ((hstarts track).started s w hw).2
    exact (h.anchor a ha s E has hE).trans_le (hbounded s E hE)
  obtain rfl | hne := eq_or_ne load .resyncEpoch
  · -- nobody has begun a session since the epoch that the channel still has
    have hpoint := (point_of_resyncEpoch_mem (hsuffix.subset List.mem_cons_self)).2
    intro s w has hw
    have hlt := hunloaded s w has hw
    obtain hother | hother | hother | ⟨-, hnone⟩ | ⟨-, -, hsame⟩ := hsampled
    · exact absurd (hpoint.symm.trans hother) (by decide)
    · exact absurd (hpoint.symm.trans hother) (by decide)
    · exact absurd (hpoint.symm.trans hother) (by decide)
    · cases hnone
    · have hsame : channel.resyncEpoch = play.task.resyncEpoch := hsame
      omega
  · refine h.unstarted ?_ a ha track rx hrx
    obtain hpoint | hpoint | hpoint | ⟨-, hnone⟩ | ⟨hpoint, hloaded, hsame⟩ := hsampled
    · exact .inl hpoint
    · exact .inr (.inl hpoint)
    · exact .inr (.inr (.inl hpoint))
    · cases hnone
    · have hepoch := resyncEpoch_look channel hne play.task play.view
      refine .inr (.inr (.inr (.inr ⟨hpoint, ?_, hepoch.symm.trans hsame⟩)))
      obtain heq | hold := loaded_of_load hpending hloaded
      · exact absurd heq.symm hne
      · exact hold

theorem Tied.looked (h : Tied channel play) (hbounded : Live.Bounded channel)
    (hstarts : ∀ track, Live.TrackStarts channel track)
    (hpending : play.pending = some (action, load :: loads))
    (hbacklog : play.task.point = .backlog → load = .audioRx →
      MAX_AUDIO_BACKLOG_FRAMES < play.view.queued → ∀ a, play.anchor = some a →
        ∀ session, a < session → channel.starts.audio session = none) :
    Tied channel (play.looked channel action load loads) := by
  have hsuffix := h.loads action (load :: loads) hpending
  have hself : (play.looked channel action load loads).Loaded load := by
    have hnodup := hsuffix.sublist.nodup (nodup_loads action play.task.point)
    exact ⟨action, loads, rfl, hsuffix.subset List.mem_cons_self, (List.nodup_cons.mp hnodup).1⟩
  refine ⟨?_, ?_, ?_, ?_, h.timeline, h.anchor, h.rx, ?_, ?_, ?_, ?_⟩
  · show play.task.resyncEpoch ≤ (channel.look play.task play.view load).resyncEpoch
    obtain rfl | hne := eq_or_ne load .resyncEpoch
    · exact h.epoch.trans h.view
    · rw [resyncEpoch_look channel hne]
      exact h.epoch
  · show (channel.look play.task play.view load).resyncEpoch ≤ channel.resyncEpoch
    obtain rfl | hne := eq_or_ne load .resyncEpoch
    · exact le_rfl
    · rw [resyncEpoch_look channel hne]
      exact h.view
  · intro hnot
    show (channel.look play.task play.view load).resyncEpoch = play.task.resyncEpoch
    obtain rfl | hne := eq_or_ne load .resyncEpoch
    · exact absurd hself hnot
    · rw [resyncEpoch_look channel hne]
      exact h.same (fun hold => hnot (hold.after hpending))
  · intro begun rest hrest
    cases hrest
    exact (List.suffix_cons _ _).trans hsuffix
  · exact fun track hloaded => h.looked_newRx hpending hloaded
  · exact fun hsampled a ha track rx hrx =>
      h.looked_unstarted hbounded hstarts hpending hsampled ha hrx
  · intro hpoint hloaded hqueued a ha
    show Unstarted channel .audio (channel.look play.task play.view load).audioRx a
    obtain heq | hold := loaded_of_load hpending hloaded
    · subst heq
      intro s w has hw
      cases hw.symm.trans (hbacklog hpoint rfl hqueued a ha s has)
    · exfalso
      obtain ⟨hmem, habsent⟩ := hold.mem hpending
      replace hpoint : play.task.point = .backlog := hpoint
      rw [hpoint] at hmem hsuffix
      exact habsent (mem_of_backlog hmem hsuffix)
  · intro begun rest frame hrest hframe
    cases hrest
    exact h.frame action (load :: loads) frame hpending hframe

end Looked

end

/-! ## The end of a step -/

section

variable {channel : LiveChannel} {play : Playing} {config : MediaTaskConfig}
variable {action : TaskAction} {outcome : TaskOutcome Nat}

/-- After a step the epoch that was loaded is the one of the task. -/
theorem tied_conclude (hview : play.view.resyncEpoch ≤ channel.resyncEpoch)
    (hsame : play.view.resyncEpoch = outcome.task.resyncEpoch)
    (htimeline : (play.conclude action outcome).anchoredBy.isSome →
      outcome.task.timeline.epoch ≤ outcome.task.resyncEpoch)
    (hanchor : ∀ a, (play.conclude action outcome).anchor = some a →
      Ahead channel outcome.task.resyncEpoch a)
    (hrx : ∀ track rx, outcome.task.rx track = some rx →
      Fresh channel outcome.task.resyncEpoch track rx)
    (hunstarted : outcome.task.point ≠ .epoch → ∀ a,
      (play.conclude action outcome).anchor = some a → ∀ track rx,
        outcome.task.rx track = some rx → Unstarted channel track rx a) :
    Tied channel (play.conclude action outcome) := by
  have hnot : ∀ load, ¬ (play.conclude action outcome).Loaded load := not_loaded_of_idle rfl
  refine ⟨hsame.ge, hview, fun _ => hsame, ?_, htimeline, hanchor, hrx, ?_, ?_, ?_, ?_⟩
  · intro begun loads hpending
    cases hpending
  · intro track hloaded
    exact absurd hloaded (hnot _)
  · intro hsampled
    refine hunstarted ?_
    intro hepoch
    obtain hpoint | hpoint | hpoint | ⟨hpoint, -⟩ | ⟨-, hloaded, -⟩ := hsampled
    · exact absurd (hepoch.symm.trans hpoint) (by decide)
    · exact absurd (hepoch.symm.trans hpoint) (by decide)
    · exact absurd (hepoch.symm.trans hpoint) (by decide)
    · exact absurd (hepoch.symm.trans hpoint) (by decide)
    · exact hnot _ hloaded
  · intro _ hloaded
    exact absurd hloaded (hnot _)
  · intro begun loads frame hpending
    cases hpending

theorem Tied.same_of_point (h : Tied channel play) (hpoint : play.task.point ≠ .epoch) :
    play.view.resyncEpoch = play.task.resyncEpoch := by
  apply h.same
  rintro ⟨begun, loads, -, hmem, -⟩
  exact hpoint (point_of_resyncEpoch_mem hmem).2

/-- A step that maps no frame and stays in its epoch. -/
theorem Tied.conclude (h : Tied channel play) (hmaps : play.task.maps play.view action = none)
    (htimeline : outcome.task.timeline = play.task.timeline)
    (hepoch : outcome.task.resyncEpoch = play.task.resyncEpoch)
    (hsame : play.view.resyncEpoch = play.task.resyncEpoch)
    (hrx : ∀ track rx, outcome.task.rx track = some rx → play.task.rx track = some rx ∨
      Fresh channel play.task.resyncEpoch track rx)
    (hunstarted : outcome.task.point ≠ .epoch → ∀ a, play.anchor = some a → ∀ track rx,
      outcome.task.rx track = some rx → Unstarted channel track rx a) :
    Tied channel (play.conclude action outcome) := by
  have hby : (play.conclude action outcome).anchoredBy = play.anchoredBy := by
    simp only [Playing.conclude, hmaps]
  have hanchor : (play.conclude action outcome).anchor = play.anchor := by
    rw [Playing.anchor, hby, Playing.anchor]
    simp only [Playing.conclude, htimeline, hepoch]
  refine tied_conclude h.view (hsame.trans hepoch.symm) ?_ ?_ ?_ ?_
  · rw [hby, htimeline, hepoch]
    exact h.timeline
  · rw [hanchor, hepoch]
    exact h.anchor
  · intro track rx hnew
    rw [hepoch]
    obtain hold | hfresh := hrx track rx hnew
    · exact h.rx track rx hold
    · exact hfresh
  · rw [hanchor]
    exact hunstarted

/-- A change of the epoch leaves no anchor. -/
theorem Tied.changeEpoch (h : Tied channel play) (hpending : play.pending = some (.next, []))
    (hpoint : play.task.point = .epoch) (hne : play.view.resyncEpoch ≠ play.task.resyncEpoch) :
    Tied channel (play.conclude .next { task := play.task.loadEpoch play.view }) := by
  have hafter : play.task.loadEpoch play.view = { play.task with
      point := .backlog
      audio := play.task.audio.map (fun track => track.resync play.view)
      video := play.task.video.map (fun track => track.resync play.view)
      resyncEpoch := play.view.resyncEpoch } := if_pos hne
  have hlater : play.task.resyncEpoch < play.view.resyncEpoch := lt_of_le_of_ne h.epoch hne.symm
  have hepoch : (play.task.loadEpoch play.view).resyncEpoch = play.view.resyncEpoch := by
    rw [hafter]
  have htimeline : (play.task.loadEpoch play.view).timeline = play.task.timeline := by
    rw [hafter]
  have hnone : ∀ a, (play.conclude .next { task := play.task.loadEpoch play.view }).anchor ≠
      some a := by
    intro a hanchor
    simp only [Playing.anchor, Playing.conclude, htimeline, hepoch] at hanchor
    split at hanchor
    next => cases hanchor
    next heq =>
      have hle := h.timeline (Option.isSome_of_eq_some hanchor)
      omega
  refine tied_conclude h.view hepoch.symm ?_ ?_ ?_ ?_
  · intro hby
    dsimp only
    rw [htimeline, hepoch]
    exact (h.timeline hby).trans hlater.le
  · intro a hanchor
    exact absurd hanchor (hnone a)
  · intro track rx hrx
    dsimp only at hrx ⊢
    obtain rfl := MediaTask.rx_loadEpoch_of_ne hne hrx
    rw [hepoch]
    apply h.newRx
    apply loaded_of_pending hpending
    rw [hpoint]
    cases track <;> decide
  · intro _ a hanchor
    exact absurd hanchor (hnone a)

/-- The frame in hand makes an anchor of its session, or keeps the one that there is. -/
theorem Tied.mapped (h : Tied channel play) {session : Nat} {frame : DeliveredFrame}
    (hpending : play.pending = some (action, [])) (hpoint : play.task.point ≠ .epoch)
    (hframe : action.frame = some frame) (hsession : frame.session = session)
    (hmaps : play.task.maps play.view action = some session)
    (htimeline : outcome.task.timeline.epoch = play.task.resyncEpoch)
    (hepoch : outcome.task.resyncEpoch = play.task.resyncEpoch)
    (hnext : outcome.task.point = .epoch)
    (hrx : ∀ track rx, outcome.task.rx track = some rx → play.task.rx track = some rx ∨
      Fresh channel play.task.resyncEpoch track rx) :
    Tied channel (play.conclude action outcome) := by
  refine tied_conclude h.view ((h.same_of_point hpoint).trans hepoch.symm) ?_ ?_ ?_ ?_
  · intro _
    rw [htimeline, hepoch]
  · intro a hanchor
    rw [hepoch]
    simp only [Playing.anchor, Playing.conclude, hmaps, htimeline, hepoch, ne_eq,
      not_true_eq_false, if_false] at hanchor
    rw [Playing.anchoredAfter] at hanchor
    split at hanchor
    next hkept =>
      apply h.anchor
      rw [Playing.anchor, if_neg (not_not_intro hkept.1)]
      exact hanchor
    next =>
      obtain rfl := Option.some.inj hanchor
      rw [← hsession]
      exact (h.frame action [] frame hpending hframe).2
  · intro track rx hnew
    rw [hepoch]
    obtain hold | hfresh := hrx track rx hnew
    · exact h.rx track rx hold
    · exact hfresh
  · intro hother
    exact absurd hnext hother

/-- The end of an event, whether it maps a frame or not. -/
theorem Tied.event (h : Tied channel play) (hpending : play.pending = some (action, []))
    (hperformed : play.task.Performed config play.view action outcome)
    (hpoint : play.task.point = .select)
    (hepoch : outcome.task.resyncEpoch = play.task.resyncEpoch)
    (hnext : outcome.task.point = .epoch) : Tied channel (play.conclude action outcome) := by
  have hother : play.task.point ≠ .epoch := by
    rw [hpoint]
    decide
  have hsame := h.same_of_point hother
  have hrunning : outcome.task.point ≠ .ended := by
    rw [hnext]
    decide
  have hfresh : ∀ track rx, outcome.task.rx track = some rx → play.task.rx track = some rx ∨
      Fresh channel play.task.resyncEpoch track rx := by
    intro track rx hnew
    obtain hold | ⟨hmem, rfl⟩ := MediaTask.rx_of_performed hperformed hrunning hnew
    · exact .inl hold
    · right
      rw [← hsame]
      exact h.newRx track (loaded_of_pending hpending hmem)
  obtain ⟨hmaps, htimeline⟩ | ⟨session, hmaps, ⟨frame, hframe, hsession⟩, htimeline, -⟩ :=
    MediaTask.timeline_of_performed hperformed
  · refine h.conclude hmaps htimeline hepoch hsame hfresh ?_
    intro hne
    exact absurd hnext hne
  · exact h.mapped hpending hother hframe hsession hmaps htimeline hepoch hnext hfresh

theorem Tied.finish (h : Tied channel play) (hpending : play.pending = some (action, []))
    (hperformed : play.task.Performed config play.view action outcome)
    (hrunning : outcome.task.point ≠ .ended) : Tied channel (play.conclude action outcome) := by
  cases hperformed with
  | epoch hpoint =>
    by_cases hsame : play.view.resyncEpoch = play.task.resyncEpoch
    · rw [MediaTask.loadEpoch_of_eq hsame]
      refine h.conclude rfl rfl rfl hsame (fun _ _ hrx => .inl hrx) ?_
      intro _ a ha track rx hrx
      refine h.unstarted ?_ a ha track rx hrx
      refine .inr (.inr (.inr (.inr ⟨hpoint, ?_, hsame⟩)))
      apply loaded_of_pending hpending
      rw [hpoint]
      decide
    · exact h.changeEpoch hpending hpoint hsame
  | backlog hpoint =>
    have hsame := h.same_of_point (by rw [hpoint]; decide)
    have hloaded : play.Loaded .audioRx := by
      apply loaded_of_pending hpending
      rw [hpoint]
      decide
    refine h.conclude rfl rfl rfl hsame ?_ ?_
    · intro track rx hrx
      obtain hold | ⟨rfl, -, rfl⟩ := MediaTask.rx_dropBacklog hrx
      · exact .inl hold
      · rw [← hsame]
        exact .inr (h.newRx .audio hloaded)
    · intro _ a ha track rx hrx
      obtain hold | ⟨rfl, hqueued, rfl⟩ := MediaTask.rx_dropBacklog hrx
      · exact h.unstarted (.inl hpoint) a ha track rx hold
      · exact h.backlog hpoint hloaded hqueued a ha
  | state hpoint =>
    have hsame := h.same_of_point (by rw [hpoint]; decide)
    have hkept : (play.task.syncState config play.view).task.timeline = play.task.timeline ∧
        (play.task.syncState config play.view).task.resyncEpoch = play.task.resyncEpoch := by
      rw [MediaTask.syncState]
      split <;> exact ⟨rfl, rfl⟩
    refine h.conclude rfl hkept.1 hkept.2 hsame
      (fun _ _ hrx => .inl (MediaTask.rx_syncState hrx)) ?_
    intro _ a ha track rx hrx
    exact h.unstarted (.inr (.inl hpoint)) a ha track rx (MediaTask.rx_syncState hrx)
  | streamer hpoint =>
    have hsame := h.same_of_point (by rw [hpoint]; decide)
    have hkept : (play.task.loadStreamer play.view).timeline = play.task.timeline ∧
        (play.task.loadStreamer play.view).resyncEpoch = play.task.resyncEpoch := by
      rw [MediaTask.loadStreamer]
      split <;> exact ⟨rfl, rfl⟩
    refine h.conclude rfl hkept.1 hkept.2 hsame
      (fun _ _ hrx => .inl (MediaTask.rx_loadStreamer hrx)) ?_
    intro _ a ha track rx hrx
    exact h.unstarted (.inr (.inr (.inl hpoint))) a ha track rx (MediaTask.rx_loadStreamer hrx)
  | audio hpoint audio event haudio =>
    exact h.event hpending (.audio hpoint audio event haudio) hpoint rfl
      (pointAfter_of_ne hrunning)
  | video hpoint video event hvideo =>
    exact h.event hpending (.video hpoint video event hvideo) hpoint rfl
      (pointAfter_of_ne hrunning)

theorem Anchored.finish (h : Anchored channel play) (hpending : play.pending = some (action, []))
    (hperformed : play.task.Performed config play.view action outcome) :
    Anchored channel (play.conclude action outcome) := by
  have htied := h.tied (MediaTask.point_of_performed hperformed)
  refine ⟨?_, ?_, htied.finish hpending hperformed⟩
  · intro p hp
    simp only [Playing.conclude] at hp
    split at hp
    next session hmaps =>
      obtain rfl | hp := List.mem_cons.mp hp
      · obtain ⟨hnone, -⟩ | ⟨other, hother, ⟨frame, hframe, rfl⟩, -⟩ :=
          MediaTask.timeline_of_performed hperformed
        · rw [hmaps] at hnone
          cases hnone
        · obtain rfl := Option.some.inj (hmaps.symm.trans hother)
          dsimp only
          cases hanchor : play.anchor with
          | none => exact Nat.lt_irrefl _
          | some a => exact (htied.frame action [] frame hpending hframe).1 a hanchor
      · exact h.mappings p hp
    next => exact h.mappings p hp
  · obtain ⟨hmaps, htimeline⟩ | ⟨session, hmaps, -, -, hsome⟩ :=
      MediaTask.timeline_of_performed hperformed
    · simp only [Playing.conclude, hmaps, htimeline]
      exact h.isSome
    · simp only [Playing.conclude, hmaps, Playing.anchoredAfter]
      split
      next hkept =>
        rw [hkept.2]
        exact h.isSome
      next =>
        rw [hsome]
        rfl

end

/-! ## Runs -/

/-- The condition of the steps: the epoch does not wrap, the first receivers of a task have no
frame of a session that another one has followed, and no backlog is dropped when a session has
begun after that of the anchor. -/
structure Aligned {θ : Type*} (s : Live θ) (a : LiveAction θ) : Prop where
  epoch : ∀ t choice, a = .publisher t choice → s.channel.resyncEpoch + 1 < 2 ^ 64
  start : ∀ playStartedAt now ntp, a = .listener (.start playStartedAt now ntp) →
    ∀ track rx, s.listener.rx track = some rx → ∀ i b, rx ≤ i →
      (s.channel.log track)[i]? = some (some b) → ∀ session, b < session →
        s.channel.starts.epoch session = none
  backlog : ∀ play action loads, a = .listener .load → s.listener = .playing play →
    play.task.point = .backlog → play.pending = some (action, .audioRx :: loads) →
    MAX_AUDIO_BACKLOG_FRAMES < play.view.queued → ∀ b, play.anchor = some b →
      ∀ session, b < session → s.channel.starts.audio session = none

section

variable {channel : LiveChannel}

theorem anchored_start {audio video : Option (TrackStart Nat)}
    (hle : ∀ track rx, (Listener.granted audio video).rx track = some rx →
      rx ≤ (channel.log track).length)
    (hlast : ∀ track rx, (Listener.granted audio video).rx track = some rx → ∀ i b, rx ≤ i →
      (channel.log track)[i]? = some (some b) → ∀ session, b < session →
        channel.starts.epoch session = none)
    (playStartedAt : Nat) (now : Nat → Nat) (ntp : UInt32 × UInt32) :
    Anchored channel
      { task := .new audio video playStartedAt channel.resyncEpoch now
        view := ⟨channel.resyncEpoch, false, false, 0, 0, 0, now, ntp⟩ } := by
  refine ⟨(fun p hp => by cases hp), rfl, ?_⟩
  intro _
  refine ⟨le_rfl, le_rfl, fun _ => rfl, ?_, ?_, ?_, ?_, ?_, ?_, ?_, ?_⟩
  · intro action loads hpending
    cases hpending
  · intro hsome
    cases hsome
  · intro a hanchor
    rw [Playing.anchor] at hanchor
    split at hanchor <;> cases hanchor
  · intro track rx hrx
    have hgranted := rx_new hrx
    refine ⟨hle track rx hgranted, ?_⟩
    intro i b hi hentry session E hlt hE
    rw [hlast track rx hgranted i b hi hentry session hlt] at hE
    cases hE
  · intro track hloaded
    exact absurd hloaded (not_loaded_of_idle rfl _)
  · intro _ a hanchor
    rw [Playing.anchor] at hanchor
    split at hanchor <;> cases hanchor
  · intro _ hloaded
    exact absurd hloaded (not_loaded_of_idle rfl _)
  · intro action loads frame hpending
    cases hpending

end

section

variable {θ : Type*} [DecidableEq θ] {config : LiveConfig} {s s' : Live θ} {a : LiveAction θ}

/-- The invariant of a run. -/
structure AnchoredTo (s : Live θ) : Prop where
  published : Live.Published s
  bounded : Live.Bounded s.channel
  listener : s.listener.Within s.channel (Anchored s.channel)

theorem AnchoredTo.step (h : AnchoredTo s) (haligned : Aligned s a)
    (hstep : Live.step config s a = some s') : AnchoredTo s' := by
  have hpublished := Live.published_of_step h.published hstep
  obtain ⟨t, choice, channel, pc, rfl, heffect, rfl⟩ | ⟨action, listener, rfl, heffect, rfl⟩ :=
    Live.step_cases hstep
  · have hwrap := haligned.epoch t choice rfl
    have hgrows := h.published.grows hwrap heffect
    refine ⟨hpublished, h.bounded.step hwrap heffect, ?_⟩
    exact h.listener.mono hgrows.length (fun _ hplay => hplay.mono hgrows)
  · refine ⟨hpublished, h.bounded, h.listener.step heffect ?_ ?_⟩
    · rintro audio video playStartedAt now ntp rfl hlistener hrx
      refine anchored_start hrx ?_ playStartedAt now ntp
      intro track rx hgranted
      exact haligned.start playStartedAt now ntp rfl track rx (hlistener ▸ hgranted)
    · intro play play' hlistener hplay heffect
      cases heffect with
      | begin now ntp hidle hreceived =>
        obtain ⟨hpoint, htimeline, -⟩ := same_of_received hreceived
        refine ⟨hplay.mappings, ?_, ?_⟩
        · dsimp only
          rw [htimeline]
          exact hplay.isSome
        · intro hrunning
          rw [hpoint] at hrunning
          exact (hplay.tied hrunning).begin h.published.started.tracks now ntp hidle hreceived
      | load hpending =>
        refine ⟨hplay.mappings, hplay.isSome, ?_⟩
        intro hrunning
        refine (hplay.tied hrunning).looked h.bounded h.published.started.tracks hpending ?_
        rintro hpoint rfl hqueued
        exact haligned.backlog _ _ _ rfl hlistener hpoint hpending hqueued
      | finish hpending hperformed => exact hplay.finish hpending hperformed

/-- In every run whose steps meet the condition, no frame is mapped through an anchor of an
earlier session. -/
theorem anchor_never_stale (config : LiveConfig) {s : Live θ} {play : Playing}
    (hrun : (Live.system config).Run Aligned (Live.system config).start s)
    (hplay : s.listener = .playing play) :
    play.anchoredBy.isSome = play.task.timeline.anchor.isSome ∧
      ∀ p ∈ play.mappings, ¬ p.2 < p.1 := by
  have hanchored : AnchoredTo s := by
    refine hrun.invariant (P := AnchoredTo) ?_ ?_
    · refine ⟨Live.published_start, ?_, .absent⟩
      intro session E hE
      cases hE
    · intro s a s' h haligned hstep
      exact h.step haligned hstep
  have hlistener := hanchored.listener
  rw [hplay] at hlistener
  cases hlistener with
  | playing h => exact ⟨h.isSome, h.mappings⟩

end

/-! ## Sample runs -/

namespace Live

/-- Publisher 0 sends one frame of audio and leaves, and publisher 1 does the same but stays. -/
def successionSteps : List (LiveAction Nat) :=
  connectSteps 0 audioFrame ++ leaveSteps 0 ++ connectSteps 1 audioFrame

/-- Both publishers have come between SETUP and PLAY, and the listener gets all their frames. -/
def keptSteps : List (LiveAction Nat) :=
  .listener .subscribe :: successionSteps ++
    [.listener (.play (some (0, {})) none), .listener (.start 0 (fun _ => 0) (0, 0))] ++
    roundHead ++ taskStep .audioMessage 0 ++ roundHead ++ taskStep .audioMessage 1 ++
    roundHead ++ taskStep .audioMessage 0 ++ roundHead ++ taskStep .audioMessage 0 ++
    roundHead ++ taskStep .audioMessage 1

/-- A publisher sends one more frame of audio, and the listener gets it. -/
def heardSteps (t : Nat) : List (LiveAction Nat) :=
  roundHead ++ [.publisher t (.message audioFrame)] ++ advance t 1 ++ taskStep .audioMessage 1

/-- The listener gets a frame of each publisher. -/
def heardBothSteps : List (LiveAction Nat) :=
  listenSteps (some (0, {})) none ++ connectSteps 0 audioFrame ++ heardSteps 0 ++
    leaveSteps 0 ++ connectSteps 1 audioFrame ++ heardSteps 1

def mappings (s : Live Nat) : Option (List (Nat × Nat)) :=
  match s.listener with
  | .playing play => some play.mappings
  | _ => none

theorem playing_of_mappings {s : Live Nat} {pairs : List (Nat × Nat)}
    (h : s.mappings = some pairs) : ∃ play, s.listener = .playing play ∧ play.mappings = pairs := by
  rw [mappings] at h
  split at h
  next play hplay => exact ⟨play, hplay, Option.some.inj h⟩
  next => cases h

/-- The first receivers of a task have nothing, and no backlog is dropped. -/
def alignedCheck (s : Live Nat) : LiveAction Nat → Bool
  | .publisher _ _ => s.channel.resyncEpoch + 1 < 2 ^ 64
  | .listener (.start _ _ _) =>
    (s.listener.rx .audio).all (fun rx => (s.channel.log .audio).length ≤ rx) &&
      (s.listener.rx .video).all (fun rx => (s.channel.log .video).length ≤ rx)
  | .listener _ =>
    match s.listener with
    | .playing play => play.view.queued ≤ MAX_AUDIO_BACKLOG_FRAMES
    | _ => true

theorem aligned_of_check (s : Live Nat) (a : LiveAction Nat) (h : alignedCheck s a = true) :
    Aligned s a where
  epoch t choice ha := by
    subst ha
    exact of_decide_eq_true h
  start playStartedAt now ntp ha track rx hrx i b hi hentry := by
    subst ha
    obtain ⟨haudio, hvideo⟩ := Bool.and_eq_true_iff.mp h
    have hlength : (s.channel.log track).length ≤ rx := by
      cases track with
      | audio =>
        rw [hrx] at haudio
        exact of_decide_eq_true haudio
      | video =>
        rw [hrx] at hvideo
        exact of_decide_eq_true hvideo
    have hlt := (List.getElem?_eq_some_iff.mp hentry).1
    omega
  backlog play action loads ha hplay _ _ hqueued := by
    subst ha
    have hle : play.view.queued ≤ MAX_AUDIO_BACKLOG_FRAMES := by
      simpa [alignedCheck, hplay] using h
    omega

end Live

/-- The listener maps a frame of session 1 through the anchor of session 0. -/
theorem maps_through_stale_anchor : ∃ s play, Live.sample.Reachable s ∧
    s.listener = .playing play ∧ ∃ p ∈ play.mappings, p.2 < p.1 := by
  obtain ⟨s, hexec, hview⟩ : ∃ s,
      Live.sample.exec Live.sample.start Live.keptSteps = some s ∧
      s.mappings = some [(1, 0), (0, 0)] := Option.map_eq_some_iff.mp (by decide +kernel)
  obtain ⟨play, hplay, hpairs⟩ := Live.playing_of_mappings hview
  refine ⟨s, play, System.reachable_of_exec hexec, hplay, (1, 0), ?_, by decide⟩
  rw [hpairs]
  exact List.mem_cons_self

/-- With the steps in another order both frames have anchors of their own. -/
theorem anchor_never_stale_succession : ∃ s play,
    Live.sample.Run Aligned Live.sample.start s ∧ s.listener = .playing play ∧
      play.mappings = [(1, 1), (0, 0)] ∧
      (play.anchoredBy.isSome = play.task.timeline.anchor.isSome ∧
        ∀ p ∈ play.mappings, ¬ p.2 < p.1) := by
  obtain ⟨s, hexec, hview⟩ : ∃ s,
      (Live.sample.guarded Live.alignedCheck).exec Live.sample.start Live.heardBothSteps = some s ∧
      s.mappings = some [(1, 1), (0, 0)] := Option.map_eq_some_iff.mp (by decide +kernel)
  obtain ⟨play, hplay, hpairs⟩ := Live.playing_of_mappings hview
  have hrun : Live.sample.Run Aligned Live.sample.start s :=
    System.run_of_exec_guarded (fun s a _ => Live.aligned_of_check s a) hexec
  exact ⟨s, play, hrun, hplay, hpairs, anchor_never_stale _ hrun hplay⟩

end VRCStreamer
