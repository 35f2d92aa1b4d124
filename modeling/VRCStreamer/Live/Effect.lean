import VRCStreamer.Listener.Effect
import VRCStreamer.Live.Listener

/-!
# What a step on a live channel can do

The steps of a publisher and of a task, one constructor for each branch, and the logs of both
tracks as lists of sessions, in which a wake is an entry without a session.
-/

namespace VRCStreamer

open Codec Concurrency

/-! ## Publishers -/

/-- A step of a publisher: the channel before it, and the channel after it. -/
inductive PublisherEffect (channel : LiveChannel) :
    PublisherPc → LiveChannel → PublisherPc → Prop
  | busy (hbusy : channel.streamer = true) : PublisherEffect channel .idle channel .idle
  | take (hfree : channel.streamer = false) :
      PublisherEffect channel .idle channel.take (.counting channel.sessions)
  | accept {session} :
      PublisherEffect channel (.counting session) channel
        (.starting session PublisherPc.startOps)
  | refuse {session} : PublisherEffect channel (.counting session) channel (.refused session)
  | giveBack {session} : PublisherEffect channel (.refused session) channel.release .leaving
  | startOp {session op ops} :
      PublisherEffect channel (.starting session (op :: ops)) (channel.startOp session op)
        (.starting session ops)
  | serve {session} :
      PublisherEffect channel (.starting session []) channel (.serving session false [])
  | abandon {session ops} :
      PublisherEffect channel (.starting session (.forceResync :: ops)) channel
        (.releasing session)
  | message {session spoken} (message : LiveMessage) :
      PublisherEffect channel (.serving session spoken []) channel
        (.serving session (spoken || message.isAudioFrame) (message.ops session spoken))
  | close {session spoken} :
      PublisherEffect channel (.serving session spoken []) channel (.releasing session)
  | op {session spoken op ops} :
      PublisherEffect channel (.serving session spoken (op :: ops)) (channel.op op)
        (.serving session spoken (PublisherPc.after channel op ops))
  | release {session} :
      PublisherEffect channel (.releasing session) channel.release (.closing PublisherPc.closeOps)
  | closeOp {op ops} :
      PublisherEffect channel (.closing (op :: ops)) (channel.op op) (.closing ops)
  | leave : PublisherEffect channel (.closing []) channel .leaving
  | done : PublisherEffect channel .leaving channel .idle

theorem publisherEffect_of_step {channel channel' : LiveChannel} {pc pc' : PublisherPc}
    {choice : PublisherChoice} (h : pc.step channel choice = some (channel', pc')) :
    PublisherEffect channel pc channel' pc' := by
  rw [PublisherPc.step.eq_def] at h
  split at h
  next =>
    split at h
    next hbusy =>
      cases h
      exact .busy hbusy
    next hfree =>
      cases h
      exact .take (by simpa using hfree)
  all_goals cases h
  · exact .accept
  · exact .refuse
  · exact .giveBack
  · exact .startOp
  · exact .serve
  · exact .abandon
  · exact .message _
  · exact .close
  · exact .op
  · exact .release
  · exact .closeOp
  · exact .leave
  · exact .done

/-! ## Logs -/

def AudioMessage.session : AudioMessage → Option Nat
  | .wake => none
  | .frame session _ _ _ => some session

def VideoMessage.session : VideoMessage → Option Nat
  | .wake => none
  | .frame published => some published.session

/-- The sessions of what was sent on a track. -/
def LiveChannel.log (channel : LiveChannel) : RtspTrack → List (Option Nat)
  | .audio => channel.audioTx.sent.map AudioMessage.session
  | .video => channel.videoTx.sent.map VideoMessage.session

def SessionStarts.track (starts : SessionStarts) : RtspTrack → Nat → Option Nat
  | .audio => starts.audio
  | .video => starts.video

/-- What an operation sends on a track. -/
def LiveOp.sends : LiveOp → RtspTrack → Option (Option Nat)
  | .sendAudio message, .audio => some message.session
  | .sendVideo message, .video => some message.session
  | _, _ => none

namespace LiveChannel

variable (channel : LiveChannel) (op : LiveOp) (session : Nat) (track : RtspTrack)

theorem log_op : (channel.op op).log track = channel.log track ++ (op.sends track).toList := by
  cases op <;> cases track <;> simp [LiveChannel.op, log, LiveOp.sends, Broadcast.send]

@[simp] theorem log_startOp :
    (channel.startOp session op).log track = (channel.op op).log track := by
  cases track <;> rfl

@[simp] theorem log_take : channel.take.log track = channel.log track := by
  cases track <;> rfl

@[simp] theorem log_release : channel.release.log track = channel.log track := by
  cases track <;> rfl

@[simp] theorem streamer_op : (channel.op op).streamer = channel.streamer := by
  cases op <;> rfl

@[simp] theorem sessions_op : (channel.op op).sessions = channel.sessions := by
  cases op <;> rfl

@[simp] theorem starts_op : (channel.op op).starts = channel.starts := by
  cases op <;> rfl

@[simp] theorem streamer_startOp : (channel.startOp session op).streamer = channel.streamer :=
  channel.streamer_op op

@[simp] theorem sessions_startOp : (channel.startOp session op).sessions = channel.sessions :=
  channel.sessions_op op

theorem audioTx_subscribe : channel.audioTx.subscribe = (channel.log .audio).length := by
  simp [log, Broadcast.subscribe]

theorem videoTx_subscribe : channel.videoTx.subscribe = (channel.log .video).length := by
  simp [log, Broadcast.subscribe]

end LiveChannel

/-! ## The flag -/

/-- A publisher keeps the flag as it is, takes it or gives it back. -/
theorem holds_cases {channel channel' : LiveChannel} {pc pc' : PublisherPc}
    (h : PublisherEffect channel pc channel' pc') :
    (pc'.holds = pc.holds ∧ channel'.streamer = channel.streamer ∧
      channel'.sessions = channel.sessions) ∨
    (channel.streamer = false ∧ pc.holds = none ∧ pc'.holds = some channel.sessions ∧
      channel'.streamer = true ∧ channel'.sessions = channel.sessions + 1) ∨
    (∃ session, pc.holds = some session ∧ pc'.holds = none ∧ channel'.streamer = false ∧
      channel'.sessions = channel.sessions) := by
  cases h with
  | take hfree => exact .inr (.inl ⟨hfree, rfl, rfl, rfl, rfl⟩)
  | giveBack | release => exact .inr (.inr ⟨_, rfl, rfl, rfl, rfl⟩)
  | startOp | op | closeOp => exact .inl ⟨rfl, by simp, by simp⟩
  | _ => exact .inl ⟨rfl, rfl, rfl⟩

/-- Only a publisher with the flag or in its teardown changes a log. -/
theorem log_cases {channel channel' : LiveChannel} {pc pc' : PublisherPc}
    (h : PublisherEffect channel pc channel' pc') :
    (∀ track, channel'.log track = channel.log track) ∨
    (∃ op, (∀ track, channel'.log track = channel.log track ++ (op.sends track).toList) ∧
      ((∃ session ops, pc = .starting session (op :: ops)) ∨
        (∃ session spoken ops, pc = .serving session spoken (op :: ops)) ∨
        (∃ ops, pc = .closing (op :: ops)))) := by
  cases h with
  | @startOp session op ops =>
    refine .inr ⟨op, ?_, .inl ⟨session, ops, rfl⟩⟩
    intro track
    rw [channel.log_startOp, channel.log_op]
  | @op session spoken op ops =>
    exact .inr ⟨op, channel.log_op op, .inr (.inl ⟨session, spoken, ops, rfl⟩)⟩
  | @closeOp op ops => exact .inr ⟨op, channel.log_op op, .inr (.inr ⟨ops, rfl⟩)⟩
  | take => exact .inl channel.log_take
  | giveBack | release => exact .inl channel.log_release
  | _ => exact .inl (fun _ => rfl)

/-- What was sent stays. -/
theorem sent_grows {channel channel' : LiveChannel} {pc pc' : PublisherPc}
    (h : PublisherEffect channel pc channel' pc') :
    channel.audioTx.sent <+: channel'.audioTx.sent ∧
      channel.videoTx.sent <+: channel'.videoTx.sent := by
  have hop : ∀ op : LiveOp, channel.audioTx.sent <+: (channel.op op).audioTx.sent ∧
      channel.videoTx.sent <+: (channel.op op).videoTx.sent := by
    intro op
    cases op with
    | sendAudio message => exact ⟨List.prefix_append _ _, List.prefix_rfl⟩
    | sendVideo message => exact ⟨List.prefix_rfl, List.prefix_append _ _⟩
    | _ => exact ⟨List.prefix_rfl, List.prefix_rfl⟩
  cases h with
  | startOp | op | closeOp => exact hop _
  | _ => exact ⟨List.prefix_rfl, List.prefix_rfl⟩

/-! ## The pieces of a step -/

/-- The step that a task is in the middle of has done a load. -/
def Playing.Loaded (play : Playing) (load : Load) : Prop :=
  ∃ action loads, play.pending = some (action, loads) ∧ load ∈ action.loads play.task.point ∧
    load ∉ loads

theorem loaded_of_pending {play : Playing} {action : TaskAction} {load : Load}
    (hpending : play.pending = some (action, []))
    (hmem : load ∈ action.loads play.task.point) : play.Loaded load :=
  ⟨action, [], hpending, hmem, List.not_mem_nil⟩

theorem not_loaded_of_idle {play : Playing} (hidle : play.pending = none) (load : Load) :
    ¬ play.Loaded load := by
  rintro ⟨action, loads, hpending, -⟩
  rw [hidle] at hpending
  cases hpending

namespace MediaTask

/-- What a choice can bring. -/
inductive Received (channel : LiveChannel) (task : MediaTask Nat) : TaskAction → MediaTask Nat → Prop
  | next (hpoint : task.point ≠ .select) (hrunning : task.point ≠ .ended) :
      Received channel task .next task
  | audio (hpoint : task.point = .select) (track : AudioRtpTrack Nat) {rx : Nat}
      {message : Except Nat AudioMessage} (htrack : task.audio = some track)
      (hrecv : channel.audioTx.recv track.rx = some (message, rx)) :
      Received channel task (.audio (.message (LiveChannel.received message)))
        (task.setAudioRx rx)
  | video (hpoint : task.point = .select) (track : VideoRtpTrack Nat) {rx : Nat}
      {message : Except Nat VideoMessage} (htrack : task.video = some track)
      (hrecv : channel.videoTx.recv track.rx = some (message, rx)) :
      Received channel task (.video (.message (LiveChannel.received message)))
        (task.setVideoRx rx)
  | silence (hpoint : task.point = .select) (hoff : task.streamerActive = false) :
      Received channel task (.audio .silence) task
  | audioReport (hpoint : task.point = .select) : Received channel task (.audio .report) task
  | videoReport (hpoint : task.point = .select) : Received channel task (.video .report) task

theorem received_of_receive {channel : LiveChannel} {task task' : MediaTask Nat} {now : Nat}
    {choice : EventChoice} {action : TaskAction}
    (h : task.receive channel now choice = some (action, task')) :
    Received channel task action task' := by
  cases choice with
  | next =>
    rw [receive] at h
    split at h
    next => cases h
    next hpoint =>
      cases h
      obtain ⟨hselect, hended⟩ := not_or.mp hpoint
      exact .next hselect hended
  | audioMessage =>
    obtain ⟨track, htrack, h⟩ := Option.bind_eq_some_iff.mp h
    obtain ⟨⟨message, rx⟩, hrecv, h⟩ := Option.bind_eq_some_iff.mp h
    dsimp only at h
    split at h
    next hpoint =>
      cases h
      exact .audio hpoint track htrack hrecv
    next => cases h
  | videoMessage =>
    obtain ⟨track, htrack, h⟩ := Option.bind_eq_some_iff.mp h
    obtain ⟨⟨message, rx⟩, hrecv, h⟩ := Option.bind_eq_some_iff.mp h
    dsimp only at h
    split at h
    next hpoint =>
      cases h
      exact .video hpoint track htrack hrecv
    next => cases h
  | silence =>
    obtain ⟨track, htrack, h⟩ := Option.bind_eq_some_iff.mp h
    split at h
    next henabled =>
      cases h
      simp only [AudioRtpTrack.enabled, Bool.and_eq_true, decide_eq_true_eq,
        Bool.not_eq_true'] at henabled
      exact .silence henabled.1 henabled.2.1
    next => cases h
  | audioReport =>
    obtain ⟨track, htrack, h⟩ := Option.bind_eq_some_iff.mp h
    split at h
    next henabled =>
      cases h
      rw [Bool.and_eq_true, decide_eq_true_eq] at henabled
      exact .audioReport henabled.1
    next => cases h
  | videoReport =>
    obtain ⟨track, htrack, h⟩ := Option.bind_eq_some_iff.mp h
    split at h
    next henabled =>
      cases h
      rw [Bool.and_eq_true, decide_eq_true_eq] at henabled
      exact .videoReport henabled.1
    next => cases h

end MediaTask

/-- A piece of a step of a task that plays. -/
inductive PlayingEffect (config : MediaTaskConfig) (channel : LiveChannel) (play : Playing) :
    ListenerAction → Playing → Prop
  | begin {choice : EventChoice} {action : TaskAction} {task : MediaTask Nat} (now : Nat → Nat)
      (ntp : UInt32 × UInt32) (hidle : play.pending = none)
      (hreceived : play.task.Received channel action task) :
      PlayingEffect config channel play (.begin choice now ntp)
        { play with
          task
          view := { play.view with now, ntp }
          pending := some (action, action.loads task.point) }
  | load {action : TaskAction} {load : Load} {loads : List Load}
      (hpending : play.pending = some (action, load :: loads)) :
      PlayingEffect config channel play .load
        { play with
          view := channel.look play.task play.view load
          pending := some (action, loads) }
  | finish {action : TaskAction} {outcome : TaskOutcome Nat}
      (hpending : play.pending = some (action, []))
      (hperformed : play.task.Performed config play.view action outcome) :
      PlayingEffect config channel play .finish (play.conclude action outcome)

theorem playingEffect_of_step {config : MediaTaskConfig} {channel : LiveChannel}
    {play play' : Playing} {action : ListenerAction}
    (h : play.step config channel action = some play') :
    PlayingEffect config channel play action play' := by
  rw [Playing.step.eq_def] at h
  split at h
  next choice now ntp =>
    split at h
    next => cases h
    next hidle =>
      obtain ⟨⟨action, task⟩, hreceive, rfl⟩ := Option.map_eq_some_iff.mp h
      exact .begin now ntp hidle (MediaTask.received_of_receive hreceive)
  next =>
    split at h
    next hpending =>
      cases h
      exact .load hpending
    next => cases h
  next =>
    split at h
    next hpending =>
      obtain ⟨outcome, hstep, rfl⟩ := Option.map_eq_some_iff.mp h
      exact .finish hpending (MediaTask.performed_of_step hstep)
    next => cases h
  next => cases h

/-- A step of the listener: it has no task yet, or its task does a piece of a step. -/
inductive ListenerEffect (config : MediaTaskConfig) (channel : LiveChannel) :
    Listener → ListenerAction → Listener → Prop
  | subscribe :
      ListenerEffect config channel .absent .subscribe (.subscribed channel.audioTx.subscribe)
  | play {audioRx : Nat} (audio video : Option (UInt8 × RtpState)) :
      ListenerEffect config channel (.subscribed audioRx) (.play audio video)
        (.granted (audio.map (fun track => ⟨audioRx, track.1, track.2⟩))
          (video.map (fun track => ⟨channel.videoTx.subscribe, track.1, track.2⟩)))
  | start {audio video : Option (TrackStart Nat)} (playStartedAt : Nat) (now : Nat → Nat)
      (ntp : UInt32 × UInt32) :
      ListenerEffect config channel (.granted audio video) (.start playStartedAt now ntp)
        (.playing
          { task := .new audio video playStartedAt channel.resyncEpoch now
            view := ⟨channel.resyncEpoch, false, false, 0, 0, 0, now, ntp⟩ })
  | playing {play play' : Playing} {action : ListenerAction}
      (heffect : PlayingEffect config channel play action play') :
      ListenerEffect config channel (.playing play) action (.playing play')

theorem listenerEffect_of_step {config : MediaTaskConfig} {channel : LiveChannel}
    {listener listener' : Listener} {action : ListenerAction}
    (h : listener.step config channel action = some listener') :
    ListenerEffect config channel listener action listener' := by
  rw [Listener.step.eq_def] at h
  split at h
  next =>
    cases h
    exact .subscribe
  next =>
    cases h
    exact .play _ _
  next =>
    cases h
    exact .start _ _ _
  next =>
    obtain ⟨play', hstep, rfl⟩ := Option.map_eq_some_iff.mp h
    exact .playing (playingEffect_of_step hstep)
  next => cases h

end VRCStreamer
