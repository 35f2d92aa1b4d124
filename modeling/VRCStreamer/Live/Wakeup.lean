import VRCStreamer.Live.Invariant
import VRCStreamer.Live.Tracks

/-!
# A listener whose publisher has gone

While a publisher is there, the timer of silence is off and only a message ends the wait of a
listener without video. `StreamerGuard::drop` gives the flag back and wakes the listeners.
The rollback in `ingest_ws` gives it back too, and wakes nobody: a listener that has loaded
the flag in between waits on.
-/

namespace VRCStreamer

open Codec Concurrency

/-! ## Waiting -/

/-- The audio of the listener waits, its timer is off, and nobody is there to wake it. -/
structure Asleep {θ : Type*} (s : Live θ) : Prop where
  free : s.channel.streamer = false
  idle : ∀ t, s.publisher t = .idle
  waits : ∃ play audio, s.listener = .playing play ∧ play.pending = none ∧
    play.task.point = .select ∧ play.task.audio = some audio ∧
    play.task.streamerActive = true ∧ s.channel.audioTx.recv audio.rx = none

/-- The task has loaded the flag as true for its next wait. -/
def Playing.SawStreamer (play : Playing) : Prop :=
  (play.task.point = .select ∧ play.pending = none ∧ play.task.streamerActive = true) ∨
    (play.task.point = .streamer ∧ play.Loaded .streamer ∧ play.view.streamer = true)

/-- The timer of silence is off, or is about to be, and nothing is queued. -/
def Playing.Deaf (channel : LiveChannel) (play : Playing) : Prop :=
  play.SawStreamer ∧ ∃ rx, play.task.rx .audio = some rx ∧ (channel.log .audio).length ≤ rx

/-- A teardown that has its wake still to send. -/
def PublisherPc.WakesAudio : PublisherPc → Prop
  | .closing ops => .sendAudio .wake ∈ ops
  | _ => False

/-- The condition of the steps: when an attempt that was refused gives the flag back, the
listener has not loaded it as true with nothing queued, or a teardown is still to wake it. -/
def Heard {θ : Type*} (s : Live θ) (a : LiveAction θ) : Prop :=
  ∀ t session play, a = .publisher t .advance → s.publisher t = .refused session →
    s.listener = .playing play → play.Deaf s.channel → ∃ u, (s.publisher u).WakesAudio

/-- The receivers of a task are within the channel. -/
structure RxInRange (channel : LiveChannel) (play : Playing) : Prop where
  rx : ∀ track rx, play.task.rx track = some rx → rx ≤ (channel.log track).length
  view : ∀ track, play.Loaded track.load → play.view.rx track ≤ (channel.log track).length

/-- Who has loaded the flag as true is still to be woken. -/
structure Heeded {θ : Type*} (s : Live θ) : Prop where
  published : Live.Published s
  listener : s.listener.Within s.channel
    (fun play => play.task.point ≠ .ended → RxInRange s.channel play)
  woken : ∀ play, s.listener = .playing play → play.Deaf s.channel →
    (∃ t session, (s.publisher t).holds = some session) ∨ ∃ t, (s.publisher t).WakesAudio

/-! ## Receivers -/

section

variable {channel channel' : LiveChannel} {play : Playing} {config : MediaTaskConfig}
variable {action : TaskAction} {task : MediaTask Nat} {outcome : TaskOutcome Nat}

theorem RxInRange.mono (h : RxInRange channel play)
    (hlength : ∀ track, (channel.log track).length ≤ (channel'.log track).length) :
    RxInRange channel' play where
  rx track rx hrx := (h.rx track rx hrx).trans (hlength track)
  view track hloaded := (h.view track hloaded).trans (hlength track)

theorem rxInRange_of_idle (hidle : play.pending = none)
    (hrx : ∀ track rx, play.task.rx track = some rx → rx ≤ (channel.log track).length) :
    RxInRange channel play where
  rx := hrx
  view _ hloaded := absurd hloaded (not_loaded_of_idle hidle _)

theorem RxInRange.begin (h : RxInRange channel play) (now : Nat → Nat) (ntp : UInt32 × UInt32)
    (hreceived : play.task.Received channel action task) :
    RxInRange channel (play.begun action task now ntp) where
  rx track rx hrx := by
    obtain ⟨old, hold, -, hend⟩ := rx_of_received hreceived hrx
    obtain rfl | hend := hend
    · exact h.rx track rx hold
    · exact hend
  view track hloaded := absurd hloaded (not_loaded_begun now ntp)

theorem RxInRange.load (h : RxInRange channel play) {load : Load} {loads : List Load}
    (hpending : play.pending = some (action, load :: loads)) :
    RxInRange channel (play.looked channel action load loads) where
  rx := h.rx
  view track hloaded := by
    obtain rfl | hne := eq_or_ne load track.load
    · exact (MediaTask.rx_look_self channel).le
    · dsimp only [Playing.looked]
      rw [MediaTask.rx_look channel load hne]
      obtain heq | hold := loaded_of_load hpending hloaded
      · exact absurd heq.symm hne
      · exact h.view track hold

theorem RxInRange.finish (h : RxInRange channel play) (hpending : play.pending = some (action, []))
    (hperformed : play.task.Performed config play.view action outcome)
    (hrunning : outcome.task.point ≠ .ended) :
    RxInRange channel (play.conclude action outcome) := by
  apply rxInRange_of_idle rfl
  intro track rx hrx
  obtain hold | ⟨hmem, rfl⟩ := MediaTask.rx_of_performed hperformed hrunning hrx
  · exact h.rx track rx hold
  · exact h.view track (loaded_of_pending hpending hmem)

end

/-! ## Steps of the listener -/

section

variable {channel : LiveChannel} {play : Playing} {config : MediaTaskConfig}
variable {action : TaskAction} {task : MediaTask Nat} {outcome : TaskOutcome Nat}

theorem not_sawStreamer_begin (now : Nat → Nat) (ntp : UInt32 × UInt32) :
    ¬ (play.begun action task now ntp).SawStreamer := by
  rintro (⟨-, hidle, -⟩ | ⟨-, hloaded, -⟩)
  · cases hidle
  · exact not_loaded_begun now ntp hloaded

theorem sawStreamer_of_load {load : Load} {loads : List Load}
    (hpending : play.pending = some (action, load :: loads))
    (h : (play.looked channel action load loads).SawStreamer) :
    play.SawStreamer ∨ channel.streamer = true := by
  obtain ⟨-, hidle, -⟩ | ⟨hpoint, hloaded, hview⟩ := h
  · cases hidle
  · obtain rfl | hne := eq_or_ne load .streamer
    · exact .inr hview
    · left
      refine .inr ⟨hpoint, ?_, ?_⟩
      · obtain heq | hold := loaded_of_load hpending hloaded
        · exact absurd heq.symm hne
        · exact hold
      · rw [← hview]
        cases load <;> first | rfl | exact absurd rfl hne

theorem MediaTask.point_syncState (task : MediaTask Nat) (config : MediaTaskConfig)
    (view : ChannelView Nat) : (task.syncState config view).task.point = .streamer ∨
      (task.syncState config view).task.point = .ended := by
  rw [MediaTask.syncState]
  split
  next => exact .inl rfl
  next =>
    dsimp only
    split
    · exact .inr rfl
    · exact .inl rfl

theorem MediaTask.pointAfter_ne_select (result : Except String Bool) :
    MediaTask.pointAfter result ≠ .select := by
  rw [MediaTask.pointAfter.eq_def]
  split <;> decide

/-- The loop gets to its wait from the load of the flag. -/
theorem deaf_of_finish (hpending : play.pending = some (action, []))
    (hperformed : play.task.Performed config play.view action outcome)
    (h : (play.conclude action outcome).Deaf channel) : play.Deaf channel := by
  obtain ⟨⟨hselect, -, hactive⟩ | ⟨-, hloaded, -⟩, rx, hrx, hempty⟩ := h
  · replace hselect : outcome.task.point = .select := hselect
    replace hactive : outcome.task.streamerActive = true := hactive
    cases hperformed with
    | epoch =>
      rw [MediaTask.loadEpoch] at hselect
      split at hselect <;> cases hselect
    | backlog => cases hselect
    | state =>
      obtain hpoint | hpoint := play.task.point_syncState config play.view
      · rw [hpoint] at hselect
        cases hselect
      · rw [hpoint] at hselect
        cases hselect
    | streamer hpoint =>
      have hsaw : play.view.streamer = true := by
        dsimp only at hselect hactive
        rw [MediaTask.loadStreamer] at hselect hactive
        split at hselect
        next => cases hselect
        next hsome =>
          rw [if_neg hsome] at hactive
          exact hactive
      refine ⟨.inr ⟨hpoint, ?_, hsaw⟩, rx, MediaTask.rx_loadStreamer hrx, hempty⟩
      apply loaded_of_pending hpending
      rw [hpoint]
      decide
    | audio | video => exact absurd hselect (MediaTask.pointAfter_ne_select _)
  · exact absurd hloaded (not_loaded_of_idle rfl _)

end

/-! ## Steps of a publisher -/

section

variable {channel channel' : LiveChannel} {pc pc' : PublisherPc}

/-- A wake that is still to come stays so, or it comes. -/
theorem wakesAudio_after (h : PublisherEffect channel pc channel' pc') (hwakes : pc.WakesAudio) :
    pc'.WakesAudio ∨ (channel.log .audio).length < (channel'.log .audio).length := by
  cases h with
  | @closeOp op ops =>
    obtain rfl | hmem := List.mem_cons.mp hwakes
    · right
      rw [channel.log_op]
      simp [LiveOp.sends]
    · exact .inl hmem
  | leave => cases hwakes
  | _ => exact hwakes.elim

/-- The flag is given back with a wake ahead, but by an attempt that was refused. -/
theorem wakesAudio_of_released (h : PublisherEffect channel pc channel' pc')
    (hheld : pc.holds.isSome) (hfree : pc'.holds = none) :
    pc'.WakesAudio ∨ ∃ session, pc = .refused session := by
  cases h with
  | giveBack => exact .inr ⟨_, rfl⟩
  | release =>
    left
    show LiveOp.sendAudio .wake ∈ PublisherPc.closeOps
    exact List.mem_cons_of_mem _ (List.mem_cons_of_mem _ List.mem_cons_self)
  | accept | refuse | startOp | serve | abandon | message | close | op => cases hfree
  | busy | take | closeOp | leave | done => cases hheld

end

/-! ## Runs -/

section

variable {θ : Type*} [DecidableEq θ] {config : LiveConfig} {s s' : Live θ} {a : LiveAction θ}
variable {t : θ} {channel : LiveChannel} {pc : PublisherPc}

theorem Heeded.publisher (h : Heeded s) {choice : PublisherChoice}
    (hheard : Heard s (.publisher t choice))
    (hstep : (s.publisher t).step s.channel choice = some (channel, pc))
    {play : Playing} (hplay : s.listener = .playing play) (hdeaf : play.Deaf channel) :
    (∃ u session, ((s.publish t channel pc).publisher u).holds = some session) ∨
      ∃ u, ((s.publish t channel pc).publisher u).WakesAudio := by
  have heffect := publisherEffect_of_step hstep
  obtain ⟨hsaw, rx, hrx, hempty⟩ := hdeaf
  have hrunning : play.task.point ≠ .ended := by
    obtain ⟨hpoint, -⟩ | ⟨hpoint, -⟩ := hsaw <;>
    · rw [hpoint]
      decide
  have hrange : rx ≤ (s.channel.log .audio).length := by
    have hlistener := h.listener
    rw [hplay] at hlistener
    cases hlistener with
    | playing hrange => exact (hrange hrunning).rx .audio rx hrx
  have hgrows := sent_grows heffect
  have hlength : (s.channel.log .audio).length ≤ (channel.log .audio).length := by
    simp only [LiveChannel.log, List.length_map]
    exact hgrows.1.length_le
  have hdeaf : play.Deaf s.channel := ⟨hsaw, rx, hrx, hlength.trans hempty⟩
  have hkept : ∀ u, u ≠ t → (s.publish t channel pc).publisher u = s.publisher u :=
    fun u hne => Function.update_of_ne hne _ _
  have hself : (s.publish t channel pc).publisher t = pc := Function.update_self _ _ _
  obtain ⟨u, session, hholds⟩ | ⟨u, hwakes⟩ := h.woken play hplay hdeaf
  · obtain rfl | hne := eq_or_ne u t
    · cases hafter : pc.holds with
      | some other =>
        refine .inl ⟨u, other, ?_⟩
        rw [hself]
        exact hafter
      | none =>
        right
        obtain hwakes | ⟨other, hrefused⟩ :=
          wakesAudio_of_released heffect (Option.isSome_of_eq_some hholds) hafter
        · refine ⟨u, ?_⟩
          rw [hself]
          exact hwakes
        · -- the attempt that was refused wakes nobody, so another one has to
          rw [hrefused] at hstep
          have hchoice : choice = .advance := by
            cases choice <;> first | rfl | cases hstep
          subst hchoice
          obtain ⟨v, hwakes⟩ := hheard u other play rfl hrefused hplay hdeaf
          refine ⟨v, ?_⟩
          rw [hkept v]
          · exact hwakes
          · rintro rfl
            rw [hrefused] at hwakes
            exact hwakes
    · refine .inl ⟨u, session, ?_⟩
      rw [hkept u hne]
      exact hholds
  · right
    refine ⟨u, ?_⟩
    obtain rfl | hne := eq_or_ne u t
    · rw [hself]
      obtain hwakes | hlonger := wakesAudio_after heffect hwakes
      · exact hwakes
      · omega
    · rw [hkept u hne]
      exact hwakes

theorem Heeded.step (h : Heeded s) (hheard : Heard s a)
    (hstep : Live.step config s a = some s') : Heeded s' := by
  have hpublished := Live.published_of_step h.published hstep
  cases a with
  | publisher t choice =>
    obtain ⟨⟨channel, pc⟩, hnext, rfl⟩ := Option.map_eq_some_iff.mp hstep
    have hgrows := sent_grows (publisherEffect_of_step hnext)
    have hlength : ∀ track, (s.channel.log track).length ≤ (channel.log track).length := by
      intro track
      cases track with
      | audio =>
        simp only [LiveChannel.log, List.length_map]
        exact hgrows.1.length_le
      | video =>
        simp only [LiveChannel.log, List.length_map]
        exact hgrows.2.length_le
    refine ⟨hpublished, ?_, ?_⟩
    · exact h.listener.mono hlength (fun _ hrange hrunning => (hrange hrunning).mono hlength)
    · intro play hplay hdeaf
      exact h.publisher hheard hnext hplay hdeaf
  | listener action =>
    obtain ⟨listener, hnext, rfl⟩ := Option.map_eq_some_iff.mp hstep
    have heffect := listenerEffect_of_step hnext
    refine ⟨hpublished, h.listener.step heffect ?_ ?_, ?_⟩
    · intro audio video playStartedAt now ntp _ _ hrx _
      apply rxInRange_of_idle rfl
      intro track rx hnew
      exact hrx track rx (rx_new hnew)
    · intro play play' _ hrange heffect hrunning
      cases heffect with
      | begin now ntp hidle hreceived =>
        rw [(same_of_received hreceived).1] at hrunning
        exact (hrange hrunning).begin now ntp hreceived
      | load hpending => exact (hrange hrunning).load hpending
      | finish hpending hperformed =>
        exact (hrange (MediaTask.point_of_performed hperformed)).finish hpending hperformed hrunning
    · intro play' hplay hdeaf
      dsimp only at hplay hdeaf ⊢
      subst hplay
      generalize hlistener : s.listener = before at heffect
      cases heffect with
      | start =>
        obtain ⟨⟨hpoint, -⟩ | ⟨hpoint, -⟩, -⟩ := hdeaf <;> cases hpoint
      | playing heffect =>
        cases heffect with
        | begin now ntp => exact absurd hdeaf.1 (not_sawStreamer_begin now ntp)
        | load hpending =>
          obtain hsaw | hactive := sawStreamer_of_load hpending hdeaf.1
          · exact h.woken _ hlistener ⟨hsaw, hdeaf.2⟩
          · exact .inl (h.published.flagged.held hactive)
        | finish hpending hperformed =>
          exact h.woken _ hlistener (deaf_of_finish hpending hperformed hdeaf)

/-- In every run whose steps meet the condition, no listener waits for a publisher that has
gone. -/
theorem never_asleep (config : LiveConfig) {s : Live θ}
    (hrun : (Live.system config).Run Heard (Live.system config).start s) : ¬ Asleep s := by
  have hheeded : Heeded s := by
    refine hrun.invariant (P := Heeded) ?_ ?_
    · exact ⟨Live.published_start, .absent, fun play hplay => by cases hplay⟩
    · intro s a s' h hheard hstep
      exact h.step hheard hstep
  rintro ⟨-, hidle, play, audio, hplay, hpending, hpoint, haudio, hactive, hrecv⟩
  have hempty := Broadcast.recv_eq_none_iff.mp hrecv
  rw [s.channel.audioTx_subscribe] at hempty
  have hdeaf : play.Deaf s.channel :=
    ⟨.inl ⟨hpoint, hpending, hactive⟩, audio.rx, MediaTask.rx_audio haudio, hempty⟩
  obtain ⟨t, session, hholds⟩ | ⟨t, hwakes⟩ := hheeded.woken play hplay hdeaf
  · rw [hidle t] at hholds
    cases hholds
  · rw [hidle t] at hwakes
    exact hwakes

end

/-! ## Sample runs -/

namespace Live

/-- One publisher at a time, whose second attempt is refused after the listener has loaded the
flag. -/
def rollbackSteps : List (LiveAction Unit) :=
  listenSteps (some (0, {})) none ++ [.publisher () .advance] ++ roundHead ++
    [.publisher () .refuse] ++ advance () 2

/-- An attempt is refused before the listener comes; the listener loads the flag of the next
one, which leaves. -/
def departureSteps : List (LiveAction Unit) :=
  [.publisher () .advance, .publisher () .refuse] ++ advance () 2 ++
    listenSteps (some (0, {})) none ++ connectSteps () audioFrame ++ roundHead ++ leaveSteps ()

/-- The flag, whether the publisher is idle, and of an audio task that waits with its timer off,
how many messages are queued. -/
def waitView (s : Live Unit) : Bool × Bool × Option Nat :=
  (s.channel.streamer,
    match s.publisher () with
    | .idle => true
    | _ => false,
    match s.listener with
    | .playing play =>
      if play.task.point = .select && play.pending.isNone && play.task.streamerActive then
        play.task.audio.map (fun audio => s.channel.audioTx.len audio.rx)
      else none
    | _ => none)

theorem exists_waiting {s : Live Unit} {streamer idle : Bool} {queued : Nat}
    (h : s.waitView = (streamer, idle, some queued)) :
    s.channel.streamer = streamer ∧ (idle = true → s.publisher () = .idle) ∧
    ∃ play audio, s.listener = .playing play ∧ play.pending = none ∧
      play.task.point = .select ∧ play.task.audio = some audio ∧
      play.task.streamerActive = true ∧ s.channel.audioTx.len audio.rx = queued := by
  obtain ⟨hstreamer, hrest⟩ := Prod.mk.inj h
  obtain ⟨hidle, hwait⟩ := Prod.mk.inj hrest
  refine ⟨hstreamer, ?_, ?_⟩
  · rintro rfl
    split at hidle
    next hpc => exact hpc
    next => cases hidle
  · split at hwait
    next play hplay =>
      split at hwait
      next hwaits =>
        obtain ⟨audio, haudio, hqueued⟩ := Option.map_eq_some_iff.mp hwait
        simp only [Bool.and_eq_true, decide_eq_true_eq, Option.isNone_iff_eq_none] at hwaits
        exact ⟨play, audio, hplay, hwaits.1.2, hwaits.1.1, haudio, hwaits.2, hqueued⟩
      next => cases hwait
    next => cases hwait

/-- No attempt is refused once a listener plays. -/
def heardCheck (s : Live Unit) : LiveAction Unit → Bool
  | .publisher _ _ =>
    match s.publisher (), s.listener with
    | .refused _, .playing _ => false
    | _, _ => true
  | _ => true

theorem heard_of_check (s : Live Unit) (a : LiveAction Unit) (h : heardCheck s a = true) :
    Heard s a := by
  rintro ⟨⟩ session play rfl hrefused hplay
  simp [heardCheck, hrefused, hplay] at h

end Live

/-- The listener sleeps after an attempt that was refused. -/
theorem asleep_after_rollback : ∃ s : Live Unit,
    (Live.system Live.sampleConfig).Reachable s ∧ Asleep s := by
  obtain ⟨s, hexec, hview⟩ : ∃ s : Live Unit,
      (Live.system Live.sampleConfig).exec (Live.system Live.sampleConfig).start
        Live.rollbackSteps = some s ∧ s.waitView = (false, true, some 0) :=
    Option.map_eq_some_iff.mp (by decide +kernel)
  obtain ⟨hfree, hidle, play, audio, hplay, hpending, hpoint, haudio, hactive, hlen⟩ :=
    Live.exists_waiting hview
  refine ⟨s, System.reachable_of_exec hexec, hfree, fun _ => hidle rfl, play, audio, hplay,
    hpending, hpoint, haudio, hactive, ?_⟩
  rw [Broadcast.recv_eq_none_iff]
  rw [Broadcast.len] at hlen
  exact Nat.le_of_sub_eq_zero hlen

/-- A publisher that leaves has woken the listener that waits for it. -/
theorem never_asleep_departure : ∃ s : Live Unit,
    (Live.system Live.sampleConfig).Run Heard (Live.system Live.sampleConfig).start s ∧
      s.waitView = (false, true, some 1) ∧ ¬ Asleep s := by
  obtain ⟨s, hexec, hview⟩ : ∃ s : Live Unit,
      ((Live.system Live.sampleConfig).guarded Live.heardCheck).exec
        (Live.system Live.sampleConfig).start Live.departureSteps = some s ∧
        s.waitView = (false, true, some 1) := Option.map_eq_some_iff.mp (by decide +kernel)
  have hrun : (Live.system Live.sampleConfig).Run Heard (Live.system Live.sampleConfig).start s :=
    System.run_of_exec_guarded (fun s a _ => Live.heard_of_check s a) hexec
  exact ⟨s, hrun, hview, never_asleep _ hrun⟩

end VRCStreamer
