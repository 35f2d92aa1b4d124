import VRCStreamer.Listener.Accounting
import VRCStreamer.Live.Decodable
import VRCStreamer.Live.Relay
import VRCStreamer.Live.Wakeup

/-!
# What a listener can decode

The bytes of a listener are whole frames, and from the packets of each track a client recovers
exactly the units that were delivered on it, in their order. The frames among them are frames
that publishers have sent, each at most once and none before one that was delivered earlier.
-/

namespace VRCStreamer

open Codec Concurrency

/-! ## What publishers send -/

def AudioMessage.Accepted : AudioMessage → Prop
  | .wake => True
  | .frame _ accessUnit _ _ => validateAacAccessUnit accessUnit = .ok ()

def VideoMessage.Accepted : VideoMessage → Prop
  | .wake => True
  | .frame published =>
    ∃ nalStart, AcceptedAccessUnit published.accessUnit published.singleNal nalStart

def LiveOp.Accepted : LiveOp → Prop
  | .sendAudio message => message.Accepted
  | .sendVideo message => message.Accepted
  | _ => True

/-- The operations that a publisher has yet to do. -/
def PublisherPc.pending : PublisherPc → List LiveOp
  | .starting _ ops | .serving _ _ ops | .closing ops => ops
  | _ => []

theorem LiveMessage.accepted_ops {config : MediaConfig} {message : LiveMessage}
    (h : message.Accepted config) (session : Nat) (spoken : Bool) :
    ∀ op ∈ message.ops session spoken, op.Accepted := by
  cases message with
  | audioFrame accessUnit mediaTimestamp publishedAt =>
    have h : validateAacAccessUnit accessUnit = .ok () := h
    cases spoken with
    | false =>
      simp [ops, LiveOp.Accepted, wakeVideoListeners, VideoMessage.Accepted, AudioMessage.Accepted,
        h]
    | true => simp [ops, LiveOp.Accepted, AudioMessage.Accepted, h]
  | videoFrame accessUnit keyframe singleNal mediaTimestamp publishedAt =>
    obtain ⟨-, hinspect⟩ := h
    have haccepted := inspectH264AccessUnit_eq_ok hinspect
    simpa [ops, LiveOp.Accepted, VideoMessage.Accepted] using haccepted
  | forceResync | videoStart | videoStop | videoReset =>
    simp [ops, LiveOp.Accepted, wakeVideoListeners, VideoMessage.Accepted]

namespace LiveChannel

/-- All messages of both tracks. -/
structure Accepted (channel : LiveChannel) : Prop where
  audio : ∀ message ∈ channel.audioTx.sent, message.Accepted
  video : ∀ message ∈ channel.videoTx.sent, message.Accepted

variable {channel : LiveChannel}

theorem Accepted.op (h : channel.Accepted) {op : LiveOp} (hop : op.Accepted) :
    (channel.op op).Accepted := by
  cases op with
  | sendAudio message =>
    refine ⟨?_, h.video⟩
    intro other hmem
    obtain hmem | hmem := List.mem_append.mp hmem
    · exact h.audio other hmem
    · rw [List.mem_singleton.mp hmem]
      exact hop
  | sendVideo message =>
    refine ⟨h.audio, ?_⟩
    intro other hmem
    obtain hmem | hmem := List.mem_append.mp hmem
    · exact h.video other hmem
    · rw [List.mem_singleton.mp hmem]
      exact hop
  | _ => exact ⟨h.audio, h.video⟩

end LiveChannel

theorem PublisherPc.accepted_startOps : ∀ op ∈ PublisherPc.startOps, op.Accepted := by
  simp [startOps, wakeMediaListeners, wakeVideoListeners, LiveOp.Accepted, AudioMessage.Accepted,
    VideoMessage.Accepted]

theorem PublisherPc.accepted_closeOps : ∀ op ∈ PublisherPc.closeOps, op.Accepted := by
  simp [closeOps, wakeMediaListeners, wakeVideoListeners, LiveOp.Accepted, AudioMessage.Accepted,
    VideoMessage.Accepted]

/-- A piece of a session sends what the session has pending, and a message adds what it is
accepted for. -/
theorem accepted_of_publisher {config : MediaConfig} {channel channel' : LiveChannel}
    {pc pc' : PublisherPc} {choice : PublisherChoice}
    (h : channel.Accepted) (hpending : ∀ op ∈ pc.pending, op.Accepted)
    (hmessage : ∀ message, choice = .message message → message.Accepted config)
    (hstep : pc.step channel choice = some (channel', pc')) :
    channel'.Accepted ∧ ∀ op ∈ pc'.pending, op.Accepted := by
  have hsame : ∀ {flag : Bool} {sessions : Nat},
      ({ channel with streamer := flag, sessions } : LiveChannel).Accepted :=
    ⟨h.audio, h.video⟩
  have hnone : ∀ op ∈ ([] : List LiveOp), op.Accepted := fun op hop => by cases hop
  rw [PublisherPc.step.eq_def] at hstep
  split at hstep
  next =>
    split at hstep
    all_goals
      cases hstep
      exact ⟨hsame, hnone⟩
  all_goals cases hstep
  · exact ⟨h, PublisherPc.accepted_startOps⟩
  · exact ⟨h, hnone⟩
  · exact ⟨hsame, hnone⟩
  · obtain ⟨hop, hops⟩ := List.forall_mem_cons.mp hpending
    have hafter := h.op hop
    exact ⟨⟨hafter.audio, hafter.video⟩, hops⟩
  · exact ⟨h, hnone⟩
  · exact ⟨h, hnone⟩
  · exact ⟨h, LiveMessage.accepted_ops (hmessage _ rfl) _ _⟩
  · exact ⟨h, hnone⟩
  · obtain ⟨hop, hops⟩ := List.forall_mem_cons.mp hpending
    refine ⟨h.op hop, ?_⟩
    show ∀ op ∈ PublisherPc.after channel _ _, op.Accepted
    rw [PublisherPc.after.eq_def]
    split
    next =>
      split
      · exact hops
      · exact List.forall_mem_cons.mpr ⟨trivial, hops⟩
    next => exact hops
  · exact ⟨hsame, PublisherPc.accepted_closeOps⟩
  · obtain ⟨hop, hops⟩ := List.forall_mem_cons.mp hpending
    exact ⟨h.op hop, hops⟩
  · exact ⟨h, hnone⟩
  · exact ⟨h, hnone⟩

/-! ## Access units -/

/-- The NAL units of an access unit. -/
def unitsOf (accessUnit : Bytes) : List Bytes := (h264NalUnits accessUnit).toOption.getD []

/-- A receiver puts the NAL units of an accepted access unit behind those that it has. -/
theorem AcceptedAccessUnit.receiveAll {accessUnit : Bytes} {singleNal flag : Bool}
    {nalStart : Nat} (h : AcceptedAccessUnit accessUnit singleNal nalStart)
    (hflag : flag = true → singleNal = true) (before : List Bytes) :
    H264Receiver.receiveAll ⟨before, none⟩ ((h264Payloads accessUnit flag).map (·.2)) =
      some ⟨before ++ unitsOf accessUnit, none⟩ := by
  have hpayloads : h264Payloads accessUnit flag = unitPayloads (nalUnits accessUnit nalStart) := by
    rw [h264Payloads, h.start]
    cases flag with
    | false => rfl
    | true =>
      obtain rfl := hflag rfl
      rw [h.units_eq_drop]
      rfl
  rw [hpayloads, unitsOf, h.units]
  exact H264Receiver.receiveAll_unitPayloads h.nal

/-- What an access unit is sent as: the bytes, and whether they are one NAL unit. -/
abbrev TrackUnit := Bytes × Bool

namespace RtspTrack

/-- The payloads that an access unit is cut into. -/
def payloads : RtspTrack → TrackUnit → List Bytes
  | .audio, unit => [aacPayload unit.1]
  | .video, unit => (h264Payloads unit.1 unit.2).map (·.2)

/-- What a client is to make of these payloads. -/
def units : RtspTrack → TrackUnit → List Bytes
  | .audio, unit => [unit.1]
  | .video, unit => unitsOf unit.1

/-- A unit that its track can carry. -/
def Accepts : RtspTrack → TrackUnit → Prop
  | .audio, unit => unit.1.length < 2 ^ 13
  | .video, unit => ∃ singleNal nalStart, AcceptedAccessUnit unit.1 singleNal nalStart ∧
      (unit.2 = true → singleNal = true)

/-- What a client of a track makes of its payloads. -/
def decode : RtspTrack → List Bytes → Option (List Bytes)
  | .audio, payloads => (payloads.mapM AuFormat.aacHbr.accessUnits).map List.flatten
  | .video, payloads => H264Receiver.recovered payloads

end RtspTrack

/-! ## Frames and deliveries -/

def AudioMessage.unit : AudioMessage → Option TrackUnit
  | .wake => none
  | .frame _ accessUnit _ _ => some (accessUnit, false)

def VideoMessage.unit : VideoMessage → Option TrackUnit
  | .wake => none
  | .frame published => some (published.accessUnit, published.singleNal)

namespace LiveChannel

variable {channel channel' : LiveChannel} {track : RtspTrack} {place : Nat} {unit : TrackUnit}

/-- The access unit of the frame that a track has at a place. -/
def frameAt (channel : LiveChannel) : RtspTrack → Nat → Option TrackUnit
  | .audio, place => channel.audioTx.sent[place]?.bind AudioMessage.unit
  | .video, place => channel.videoTx.sent[place]?.bind VideoMessage.unit

theorem frameAt_of_grows (haudio : channel.audioTx.sent <+: channel'.audioTx.sent)
    (hvideo : channel.videoTx.sent <+: channel'.videoTx.sent)
    (h : channel.frameAt track place = some unit) : channel'.frameAt track place = some unit := by
  cases track with
  | audio =>
    obtain ⟨message, hmessage, hunit⟩ := Option.bind_eq_some_iff.mp h
    obtain ⟨hlt, rfl⟩ := List.getElem?_eq_some_iff.mp hmessage
    exact Option.bind_eq_some_iff.mpr ⟨_, List.prefix_iff_getElem?.mp haudio place hlt, hunit⟩
  | video =>
    obtain ⟨message, hmessage, hunit⟩ := Option.bind_eq_some_iff.mp h
    exact Option.bind_eq_some_iff.mpr ⟨message, getElem?_of_grows hvideo hmessage, hunit⟩

theorem lt_length_of_frameAt (channel : LiveChannel) {track : RtspTrack} {place : Nat}
    (h : (channel.frameAt track place).isSome = true) : place < (channel.log track).length := by
  obtain ⟨unit, hunit⟩ := Option.isSome_iff_exists.mp h
  cases track with
  | audio =>
    obtain ⟨message, hmessage, -⟩ := Option.bind_eq_some_iff.mp hunit
    rw [← channel.audioTx_subscribe]
    exact Broadcast.lt_subscribe_of_getElem? hmessage
  | video =>
    obtain ⟨message, hmessage, -⟩ := Option.bind_eq_some_iff.mp hunit
    rw [← channel.videoTx_subscribe]
    exact Broadcast.lt_subscribe_of_getElem? hmessage

/-- What publishers send, a track can carry. -/
theorem Accepted.accepts (h : channel.Accepted) (hframe : channel.frameAt track place = some unit) :
    track.Accepts unit := by
  cases track with
  | audio =>
    obtain ⟨message, hmessage, hunit⟩ := Option.bind_eq_some_iff.mp hframe
    have haccepted := h.audio message (List.mem_of_getElem? hmessage)
    cases message with
    | wake => cases hunit
    | frame session accessUnit mediaTimestamp publishedAt =>
      cases hunit
      exact (validateAacAccessUnit_length haccepted).2.trans_lt (by decide)
  | video =>
    obtain ⟨message, hmessage, hunit⟩ := Option.bind_eq_some_iff.mp hframe
    have haccepted := h.video message (List.mem_of_getElem? hmessage)
    cases message with
    | wake => cases hunit
    | frame published =>
      cases hunit
      obtain ⟨nalStart, haccepted⟩ := haccepted
      exact ⟨published.singleNal, nalStart, haccepted, id⟩

end LiveChannel

namespace Delivery

variable (placeholders : PlaceholderVideo) (channel : LiveChannel)

/-- The access unit that was delivered. -/
def unit : Delivery → Option TrackUnit
  | .live track place => channel.frameAt track place
  | .silence => some (AAC_SILENCE_ACCESS_UNIT, false)
  | .placeholder state =>
    (placeholderAccessUnit placeholders state).map (fun frame => (frame, false))

/-- What a client is to make of it. -/
def units (delivery : Delivery) : List Bytes :=
  ((delivery.unit placeholders channel).map delivery.track.units).getD []

end Delivery

/-- The access unit of the frame that an action brings. -/
def TaskAction.unit : TaskAction → Option TrackUnit
  | .audio (.message (.ok message)) => message.unit
  | .video (.message (.ok message)) => message.unit
  | _ => none

namespace MediaTask

variable {ρ : Type*} {config : MediaTaskConfig} {task : MediaTask ρ} {view : ChannelView ρ}
variable {action : TaskAction} {outcome : TaskOutcome ρ}

/-- The origin of a unit that a step sends. -/
inductive Origin (config : MediaTaskConfig) (view : ChannelView ρ) (action : TaskAction)
    (sent : SentUnit) : Prop
  | silence (htrack : sent.track = .audio) (hsource : sent.source = .silence)
      (haction : action = .audio .silence)
  | placeholder (htrack : sent.track = .video) (hsource : sent.source = .placeholder)
      (haction : action = .next) (frame : Bytes)
      (hframe : placeholderAccessUnit config.placeholders view.channelVideoState = some frame)
  | live (frame : DeliveredFrame) (hframe : action.frame = some frame)
      (htrack : sent.track = frame.track) (session epoch mediaTimestamp : Nat)
      (hsource : sent.source = .live session epoch mediaTimestamp)

theorem sent_of_sendEffect {τ : Type*} {unit sent : SentUnit} {outcome : TrackOutcome τ}
    (h : SendEffect unit outcome) (hsent : outcome.sent = some sent) : sent = unit := by
  cases h with
  | failed reason hnone =>
    rw [hnone] at hsent
    cases hsent
  | sent hsome => exact Option.some.inj (hsent.symm.trans hsome)

theorem origin_audio {track : AudioRtpTrack ρ} {event : AudioRtpEvent} {sent : SentUnit}
    {context : RtpTaskContext ρ} {timeline : RtpMediaTimeline}
    (h : (track.handleEvent event context timeline).1.sent = some sent) :
    Origin config view (.audio event) sent := by
  cases event with
  | message received =>
    cases received with
    | error error => cases error <;> cases h
    | ok message =>
      cases message with
      | wake => cases h
      | frame session accessUnit mediaTimestamp publishedAt =>
        rw [AudioRtpTrack.handleEvent] at h
        split at h
        next => cases h
        next =>
          obtain rfl := sent_of_sendEffect (AudioRtpTrack.send_effect _ _ _ _) h
          exact .live ⟨.audio, session, mediaTimestamp⟩ rfl rfl _ _ _ rfl
  | silence =>
    rw [AudioRtpTrack.handleEvent] at h
    dsimp only at h
    rw [TrackOutcome.andThen_sent] at h
    obtain rfl := sent_of_sendEffect (AudioRtpTrack.send_effect _ _ _ _) h
    exact .silence rfl rfl rfl
  | report => cases h

theorem origin_video {track : VideoRtpTrack ρ} {event : VideoRtpEvent} {sent : SentUnit}
    {context : RtpTaskContext ρ} {timeline : RtpMediaTimeline}
    (h : (track.handleEvent event context timeline).1.sent = some sent) :
    Origin config view (.video event) sent := by
  cases track.handleEvent_effect event context timeline with
  | quiet hnone =>
    rw [hnone] at h
    cases h
  | live frame hevent heffect =>
    obtain rfl := sent_of_sendEffect heffect h
    subst hevent
    exact .live ⟨.video, frame.session, frame.mediaTimestamp⟩ rfl rfl _ _ _ rfl

theorem origin_of_performed (h : task.Performed config view action outcome) {sent : SentUnit}
    (hsent : outcome.sent = some sent) : Origin config view action sent := by
  cases h with
  | epoch | backlog | streamer => cases hsent
  | state =>
    rw [syncState] at hsent
    split at hsent
    next => cases hsent
    next track hvideo =>
      dsimp only at hsent
      rw [VideoRtpTrack.syncState] at hsent
      split at hsent
      next => cases hsent
      next =>
        dsimp only at hsent
        split at hsent
        next => cases hsent
        next =>
          split at hsent
          next => cases hsent
          next frame hframe =>
            obtain rfl := sent_of_sendEffect (VideoRtpTrack.send_effect _ _ _ _ _ _ _) hsent
            exact .placeholder rfl rfl rfl frame hframe
  | audio hpoint track event htrack => exact origin_audio hsent
  | video hpoint track event htrack => exact origin_video hsent

end MediaTask

/-! ## Places -/

section

variable {channel channel' : LiveChannel} {play : Playing} {config : MediaTaskConfig}
variable {action : TaskAction} {task : MediaTask Nat} {outcome : TaskOutcome Nat}
variable {delivered : List Delivery}

/-- The frame that an action brings lies right before the receiver of its track. -/
def Playing.Brings (play : Playing) (channel : LiveChannel) (action : TaskAction) : Prop :=
  ∀ frame, action.frame = some frame → ∃ rx unit, play.task.rx frame.track = some (rx + 1) ∧
    channel.frameAt frame.track rx = some unit ∧ action.unit = some unit

/-- A step that sends delivers one unit, of the payloads that it sends. -/
theorem delivers_of_origin (hbrings : play.Brings channel action) {sent : SentUnit}
    (h : MediaTask.Origin config play.view action sent) (hsent : outcome.sent = some sent) :
    ∃ delivery unit, play.delivers outcome = [delivery] ∧ delivery.track = sent.track ∧
      delivery.unit config.placeholders channel = some unit ∧
      MediaTask.payloads config play.view action = sent.track.payloads unit ∧
      ∀ track place, delivery = .live track place → ∃ frame, action.frame = some frame ∧
        frame.track = track ∧ play.task.rx track = some (place + 1) := by
  rw [Playing.delivers, hsent]
  dsimp only
  cases h with
  | silence htrack hsource haction =>
    rw [hsource, htrack, haction]
    exact ⟨.silence, _, rfl, rfl, rfl, rfl, by simp⟩
  | placeholder htrack hsource haction frame hframe =>
    rw [hsource, htrack, haction]
    refine ⟨.placeholder play.view.channelVideoState, (frame, false), rfl, rfl, ?_, ?_, by simp⟩
    · rw [Delivery.unit, hframe]
      rfl
    · show VideoRtpTrack.placeholderPayloads _ _ = _
      rw [VideoRtpTrack.placeholderPayloads, hframe]
      rfl
  | live frame hframe htrack session epoch mediaTimestamp hsource =>
    obtain ⟨rx, unit, hrx, hunit, haction⟩ := hbrings frame hframe
    rw [hsource, htrack]
    dsimp only
    rw [hrx]
    refine ⟨.live frame.track rx, unit, rfl, rfl, hunit, ?_, ?_⟩
    · cases action with
      | next => cases hframe
      | audio event =>
        cases event with
        | silence | report => cases hframe
        | message received =>
          cases received with
          | error error => cases hframe
          | ok message =>
            cases message with
            | wake => cases hframe
            | frame session accessUnit mediaTimestamp publishedAt =>
              cases hframe
              cases haction
              rfl
      | video event =>
        cases event with
        | report => cases hframe
        | message received =>
          cases received with
          | error error => cases hframe
          | ok message =>
            cases message with
            | wake => cases hframe
            | frame published =>
              cases hframe
              cases haction
              rfl
    · rintro track place ⟨⟩
      exact ⟨frame, hframe, rfl, hrx⟩

/-- The deliveries of a task, with its receivers past all of their frames. -/
structure InPlace (channel : LiveChannel) (play : Playing) (delivered : List Delivery) : Prop where
  frames : ∀ track place, .live track place ∈ delivered →
    (channel.frameAt track place).isSome = true
  ordered : ∀ track, (delivered.filterMap (Delivery.place track)).Pairwise (· < ·)
  range : play.task.point ≠ .ended → RxInRange channel play
  loaded : ∀ track, play.Loaded track.load →
    (∀ place ∈ delivered.filterMap (Delivery.place track), place < play.view.rx track) ∧
      ∀ rx, play.task.rx track = some rx → rx ≤ play.view.rx track
  running : ∀ action loads, play.pending = some (action, loads) → play.task.point ≠ .ended
  past : play.task.point ≠ .ended → ∀ track rx, play.task.rx track = some rx →
    ∀ place ∈ delivered.filterMap (Delivery.place track), place < rx
  brings : ∀ action loads, play.pending = some (action, loads) → play.Brings channel action
  fresh : ∀ action loads, play.pending = some (action, loads) → ∀ frame,
    action.frame = some frame → ∀ rx, play.task.rx frame.track = some rx →
      ∀ place ∈ delivered.filterMap (Delivery.place frame.track), place + 1 < rx

theorem mem_places {track : RtspTrack} {place : Nat} :
    place ∈ delivered.filterMap (Delivery.place track) ↔ .live track place ∈ delivered := by
  rw [List.mem_filterMap]
  constructor
  · rintro ⟨delivery, hmem, hplace⟩
    cases delivery with
    | live other at' =>
      rw [Delivery.place] at hplace
      split at hplace
      next hsame =>
        cases hplace
        exact hsame ▸ hmem
      next => cases hplace
    | silence | placeholder state => cases hplace
  · intro hmem
    refine ⟨_, hmem, ?_⟩
    rw [Delivery.place, if_pos rfl]

theorem InPlace.mono (h : InPlace channel play delivered)
    (haudio : channel.audioTx.sent <+: channel'.audioTx.sent)
    (hvideo : channel.videoTx.sent <+: channel'.videoTx.sent) :
    InPlace channel' play delivered := by
  have hlength : ∀ track, (channel.log track).length ≤ (channel'.log track).length := by
    intro track
    cases track with
    | audio => simpa [LiveChannel.log] using haudio.length_le
    | video => simpa [LiveChannel.log] using hvideo.length_le
  refine { h with frames := ?_, range := ?_, brings := ?_ }
  · intro track place hmem
    obtain ⟨unit, hunit⟩ := Option.isSome_iff_exists.mp (h.frames track place hmem)
    rw [LiveChannel.frameAt_of_grows haudio hvideo hunit]
    rfl
  · intro hrunning
    exact (h.range hrunning).mono hlength
  · intro action loads hpending frame hframe
    obtain ⟨rx, unit, hrx, hunit, haction⟩ := h.brings action loads hpending frame hframe
    exact ⟨rx, unit, hrx, LiveChannel.frameAt_of_grows haudio hvideo hunit, haction⟩

/-- A frame is received from the place of the receiver, which goes past it. -/
theorem arrived_of_received (h : play.task.Received channel action task) {frame : DeliveredFrame}
    (hframe : action.frame = some frame) :
    ∃ rx unit, play.task.rx frame.track = some rx ∧ task.rx frame.track = some (rx + 1) ∧
      channel.frameAt frame.track rx = some unit ∧ action.unit = some unit := by
  cases h with
  | @audio hpoint audio next message haudio hrecv =>
    cases message with
    | error skipped => cases hframe
    | ok message =>
      obtain ⟨hsent, rfl⟩ := Broadcast.recv_ok hrecv
      cases message with
      | wake => cases hframe
      | frame session accessUnit mediaTimestamp publishedAt =>
        cases hframe
        refine ⟨audio.rx, (accessUnit, false), MediaTask.rx_audio haudio, ?_, ?_, rfl⟩
        · show (play.task.audio.map _).map _ = _
          rw [haudio]
          rfl
        · exact Option.bind_eq_some_iff.mpr ⟨_, hsent, rfl⟩
  | @video hpoint video next message hvideo hrecv =>
    cases message with
    | error skipped => cases hframe
    | ok message =>
      obtain ⟨hsent, rfl⟩ := Broadcast.recv_ok hrecv
      cases message with
      | wake => cases hframe
      | frame published =>
        cases hframe
        refine ⟨video.rx, (published.accessUnit, published.singleNal), MediaTask.rx_video hvideo,
          ?_, ?_, rfl⟩
        · show (play.task.video.map _).map _ = _
          rw [hvideo]
          rfl
        · exact Option.bind_eq_some_iff.mpr ⟨_, hsent, rfl⟩
  | _ => cases hframe

theorem running_of_received (h : play.task.Received channel action task) :
    play.task.point ≠ .ended := by
  cases h with
  | next _ hrunning => exact hrunning
  | audio hpoint | video hpoint | silence hpoint | audioReport hpoint | videoReport hpoint =>
    rw [hpoint]
    decide

theorem InPlace.begin (h : InPlace channel play delivered)
    (now : Nat → Nat) (ntp : UInt32 × UInt32) (hreceived : play.task.Received channel action task) :
    InPlace channel (play.begun action task now ntp) delivered where
  frames := h.frames
  ordered := h.ordered
  range _ := (h.range (running_of_received hreceived)).begin now ntp hreceived
  loaded _ hloaded := absurd hloaded (not_loaded_begun now ntp)
  running _ _ _ := by
    dsimp only [Playing.begun]
    rw [(same_of_received hreceived).1]
    exact running_of_received hreceived
  past _ track rx hrx place hplace := by
    obtain ⟨old, hold, hle, -⟩ := rx_of_received hreceived hrx
    exact (h.past (running_of_received hreceived) track old hold place hplace).trans_le hle
  brings action' loads hpending frame hframe := by
    cases hpending
    obtain ⟨rx, unit, -, hrx, hunit, haction⟩ := arrived_of_received hreceived hframe
    exact ⟨rx, unit, hrx, hunit, haction⟩
  fresh action' loads hpending frame hframe rx hrx place hplace := by
    cases hpending
    obtain ⟨old, unit, hold, hnew, -⟩ := arrived_of_received hreceived hframe
    obtain rfl := Option.some.inj (hnew.symm.trans hrx)
    exact Nat.succ_lt_succ
      (h.past (running_of_received hreceived) frame.track old hold place hplace)

theorem InPlace.load (h : InPlace channel play delivered) {load : Load} {loads : List Load}
    (hpending : play.pending = some (action, load :: loads)) :
    InPlace channel (play.looked channel action load loads) delivered where
  frames := h.frames
  ordered := h.ordered
  range hrunning := (h.range hrunning).load hpending
  loaded track hloaded := by
    dsimp only [Playing.looked]
    obtain rfl | hne := eq_or_ne load track.load
    · rw [MediaTask.rx_look_self]
      refine ⟨?_, (h.range (h.running _ _ hpending)).rx track⟩
      intro place hplace
      exact channel.lt_length_of_frameAt (h.frames track place (mem_places.mp hplace))
    · rw [MediaTask.rx_look channel load hne]
      obtain heq | hold := loaded_of_load hpending hloaded
      · exact absurd heq.symm hne
      · exact h.loaded track hold
  running _ _ _ := h.running _ _ hpending
  past := h.past
  brings action' loads' hpending' := by
    cases hpending'
    exact h.brings _ _ hpending
  fresh action' loads' hpending' := by
    cases hpending'
    exact h.fresh _ _ hpending

/-- The new deliveries lie behind all earlier ones. -/
theorem InPlace.finish (h : InPlace channel play delivered)
    (hpending : play.pending = some (action, []))
    (hperformed : play.task.Performed config play.view action outcome) :
    InPlace channel (play.conclude action outcome) (delivered ++ play.delivers outcome) := by
  have hrunning := MediaTask.point_of_performed hperformed
  have hnew : ∀ track, ∀ place ∈ (play.delivers outcome).filterMap (Delivery.place track),
      (∃ unit, channel.frameAt track place = some unit) ∧
      play.task.rx track = some (place + 1) ∧
      (play.delivers outcome).filterMap (Delivery.place track) = [place] ∧
      ∀ earlier ∈ delivered.filterMap (Delivery.place track), earlier < place := by
    intro track place hplace
    have hmem := mem_places.mp hplace
    cases hsent : outcome.sent with
    | none =>
      rw [Playing.delivers, hsent] at hmem
      cases hmem
    | some sent =>
      obtain ⟨delivery, unit, hdelivers, -, hunit, -, hlive⟩ := delivers_of_origin
        (h.brings _ _ hpending) (MediaTask.origin_of_performed hperformed hsent) hsent
      rw [hdelivers] at hmem ⊢
      obtain rfl := List.mem_singleton.mp hmem
      obtain ⟨frame, hframe, rfl, hrx⟩ := hlive track place rfl
      refine ⟨⟨unit, hunit⟩, hrx, ?_, ?_⟩
      · rw [List.filterMap_cons, Delivery.place, if_pos rfl]
        rfl
      · intro earlier hearlier
        exact Nat.lt_of_succ_lt_succ
          (h.fresh _ _ hpending frame hframe _ hrx earlier hearlier)
  refine ⟨?_, ?_, ?_, ?_, ?_, ?_, ?_, ?_⟩
  · intro track place hmem
    obtain hmem | hmem := List.mem_append.mp hmem
    · exact h.frames track place hmem
    · obtain ⟨⟨unit, hunit⟩, -⟩ := hnew track place (mem_places.mpr hmem)
      rw [hunit]
      rfl
  · intro track
    rw [List.filterMap_append, List.pairwise_append]
    refine ⟨h.ordered track, ?_, ?_⟩
    · cases hplaces : (play.delivers outcome).filterMap (Delivery.place track) with
      | nil => exact .nil
      | cons place places =>
        obtain ⟨-, -, hsingle, -⟩ := hnew track place (hplaces ▸ List.mem_cons_self)
        rw [hsingle] at hplaces
        rw [← hplaces]
        exact List.pairwise_singleton _ _
    · intro earlier hearlier place hplace
      exact (hnew track place hplace).2.2.2 earlier hearlier
  · intro hgoing
    exact (h.range hrunning).finish hpending hperformed hgoing
  · intro track hloaded
    exact absurd hloaded (not_loaded_of_idle rfl _)
  · rintro action' loads' ⟨⟩
  · intro hgoing track rx hrx place hplace
    rw [List.filterMap_append, List.mem_append] at hplace
    obtain hold | ⟨hmem, rfl⟩ := MediaTask.rx_of_performed hperformed hgoing hrx
    · obtain hplace | hplace := hplace
      · exact h.past hrunning track rx hold place hplace
      · obtain rfl := Option.some.inj ((hnew track place hplace).2.1.symm.trans hold)
        exact Nat.lt_succ_self place
    · obtain ⟨hearlier, hreceiver⟩ := h.loaded track (loaded_of_pending hpending hmem)
      obtain hplace | hplace := hplace
      · exact hearlier place hplace
      · exact hreceiver _ (hnew track place hplace).2.1
  · rintro action' loads' ⟨⟩
  · rintro action' loads' ⟨⟩

end

/-! ## The log of the task -/

namespace MediaLog

variable {ρ : Type*} {announced : RtspTrack → UInt16} {log : MediaLog ρ}

/-- Between its steps a task may change what it counts nothing with. -/
def follow (log : MediaLog ρ) (task : MediaTask ρ) : MediaLog ρ :=
  { log with run := { log.run with task } }

theorem Balanced.follow (h : log.Balanced announced) {task : MediaTask ρ}
    (hpoint : task.point = log.run.task.point) (hsending : task.sending = log.run.task.sending) :
    (log.follow task).Balanced announced where
  carries := h.carries
  payloads := h.payloads
  accounted := h.accounted
  counts hrunning track sending htrack := by
    have hrunning : task.point ≠ .ended := hrunning
    have htrack : task.sending track = some sending := htrack
    rw [hpoint] at hrunning
    rw [hsending] at htrack
    exact h.counts hrunning track sending htrack

end MediaLog

section

variable {channel channel' : LiveChannel} {play : Playing} {config : MediaTaskConfig}
variable {action : TaskAction} {task : MediaTask Nat} {outcome : TaskOutcome Nat}
variable {written : List Bytes} {delivered : List Delivery} {log : MediaLog Nat}

/-- A receiver counts nothing. -/
theorem sending_of_received (h : play.task.Received channel action task) :
    task.sending = play.task.sending := by
  cases h with
  | audio =>
    exact MediaTask.sending_eq_of_map (by simp [MediaTask.setAudioRx]; rfl) rfl
  | video =>
    exact MediaTask.sending_eq_of_map rfl (by simp [MediaTask.setVideoRx]; rfl)
  | _ => rfl

/-- A delivery as the log of the task has it. -/
def Delivery.entry (placeholders : PlaceholderVideo) (channel : LiveChannel)
    (delivery : Delivery) : Option (RtspTrack × List Bytes) :=
  (delivery.unit placeholders channel).map
    (fun unit => (delivery.track, delivery.track.payloads unit))

/-- What has been written is the log of the task, and its units are the deliveries. -/
structure Wired (config : MediaTaskConfig) (channel : LiveChannel) (play : Playing)
    (written : List Bytes) (delivered : List Delivery) (log : MediaLog Nat) : Prop where
  task : log.run.task = play.task
  written : log.run.written = written
  balanced : log.Balanced (fun _ => ({} : RtpState).sequence)
  known : ∀ delivery ∈ delivered,
    (delivery.unit config.placeholders channel).isSome = true
  units : log.units = delivered.filterMap (Delivery.entry config.placeholders channel)

theorem Delivery.unit_of_grows {placeholders : PlaceholderVideo}
    (haudio : channel.audioTx.sent <+: channel'.audioTx.sent)
    (hvideo : channel.videoTx.sent <+: channel'.videoTx.sent) {delivery : Delivery}
    (h : (delivery.unit placeholders channel).isSome = true) :
    delivery.unit placeholders channel' = delivery.unit placeholders channel := by
  cases delivery with
  | live track place =>
    obtain ⟨unit, hunit⟩ := Option.isSome_iff_exists.mp h
    rw [hunit]
    exact LiveChannel.frameAt_of_grows haudio hvideo hunit
  | silence | placeholder state => rfl

theorem Wired.mono (h : Wired config channel play written delivered log)
    (haudio : channel.audioTx.sent <+: channel'.audioTx.sent)
    (hvideo : channel.videoTx.sent <+: channel'.videoTx.sent) :
    Wired config channel' play written delivered log where
  task := h.task
  written := h.written
  balanced := h.balanced
  known delivery hmem := by
    rw [Delivery.unit_of_grows haudio hvideo (h.known delivery hmem)]
    exact h.known delivery hmem
  units := by
    rw [h.units]
    apply List.filterMap_congr
    intro delivery hmem
    rw [Delivery.entry, Delivery.entry,
      Delivery.unit_of_grows haudio hvideo (h.known delivery hmem)]

theorem Wired.begin (h : Wired config channel play written delivered log)
    (now : Nat → Nat) (ntp : UInt32 × UInt32) (hreceived : play.task.Received channel action task) :
    Wired config channel (play.begun action task now ntp) written delivered (log.follow task) where
  task := rfl
  written := h.written
  balanced := by
    apply h.balanced.follow
    · rw [h.task]
      exact (same_of_received hreceived).1
    · rw [h.task]
      exact sending_of_received hreceived
  known := h.known
  units := h.units

theorem Wired.finish (h : Wired config channel play written delivered log)
    (hbrings : play.Brings channel action)
    (hstep : play.task.step config action play.view = some outcome) :
    Wired config channel (play.conclude action outcome) (written ++ outcome.written)
      (delivered ++ play.delivers outcome) (log.record config action play.view outcome) := by
  have hlog : log.step config (action, play.view) =
      some (log.record config action play.view outcome) := by
    rw [MediaLog.step, h.task, hstep]
    rfl
  have hunits : (∀ delivery ∈ play.delivers outcome,
      (delivery.unit config.placeholders channel).isSome = true) ∧
      outcome.sent.toList.map (fun sent =>
        (sent.track, MediaTask.payloads config play.view action)) =
        (play.delivers outcome).filterMap (Delivery.entry config.placeholders channel) := by
    cases hsent : outcome.sent with
    | none =>
      rw [Playing.delivers, hsent]
      exact ⟨by simp, rfl⟩
    | some sent =>
      have horigin := MediaTask.origin_of_performed (MediaTask.performed_of_step hstep) hsent
      obtain ⟨delivery, unit, hdelivers, htrack, hunit, hpayloads, -⟩ :=
        delivers_of_origin hbrings horigin hsent
      rw [hdelivers]
      constructor
      · intro other hmem
        rw [List.mem_singleton.mp hmem, hunit]
        rfl
      · have hentry : Delivery.entry config.placeholders channel delivery =
            some (sent.track, MediaTask.payloads config play.view action) := by
          rw [Delivery.entry, hunit, hpayloads, htrack]
          rfl
        rw [List.filterMap_cons, hentry]
        rfl
  refine ⟨rfl, ?_, h.balanced.step hlog, ?_, ?_⟩
  · rw [← h.written]
    rfl
  · intro delivery hmem
    obtain hmem | hmem := List.mem_append.mp hmem
    · exact h.known delivery hmem
    · exact hunits.1 delivery hmem
  · rw [List.filterMap_append, ← h.units, ← hunits.2]
    rfl

end

/-! ## Runs -/

/-- A piece of a step of a task that plays, and what comes of the step at its end. -/
inductive Continued (config : MediaTaskConfig) (channel : LiveChannel) (play : Playing) :
    ListenerAction → Playing → Option (TaskOutcome Nat) → Prop
  | begin {choice : EventChoice} {action : TaskAction} {task : MediaTask Nat} (now : Nat → Nat)
      (ntp : UInt32 × UInt32) (hreceived : play.task.Received channel action task) :
      Continued config channel play (.begin choice now ntp) (play.begun action task now ntp) none
  | load {action : TaskAction} {load : Load} {loads : List Load}
      (hpending : play.pending = some (action, load :: loads)) :
      Continued config channel play .load (play.looked channel action load loads) none
  | finish {action : TaskAction} {outcome : TaskOutcome Nat}
      (hpending : play.pending = some (action, []))
      (hstep : play.task.step config action play.view = some outcome) :
      Continued config channel play .finish (play.conclude action outcome) (some outcome)

theorem continued_of_step {config : MediaTaskConfig} {channel : LiveChannel} {play : Playing}
    {listener : Listener} {action : ListenerAction}
    (h : (Listener.playing play).step config channel action = some listener) :
    ∃ play' outcome, listener = .playing play' ∧
      Continued config channel play action play' outcome ∧
      (Listener.playing play).finishes config action =
        outcome.map (fun outcome => (play, outcome)) := by
  obtain ⟨play', hstep, rfl⟩ := Option.map_eq_some_iff.mp h
  cases action with
  | subscribe | play | start => cases hstep
  | begin choice now ntp =>
    rw [Playing.step] at hstep
    split at hstep
    next => cases hstep
    next hidle =>
      obtain ⟨⟨action, task⟩, hreceive, rfl⟩ := Option.map_eq_some_iff.mp hstep
      exact ⟨_, none, rfl, .begin now ntp (MediaTask.received_of_receive hreceive), rfl⟩
  | load =>
    rw [Playing.step] at hstep
    split at hstep
    next hpending =>
      cases hstep
      exact ⟨_, none, rfl, .load hpending, rfl⟩
    next => cases hstep
  | finish =>
    rw [Playing.step] at hstep
    split at hstep
    next hpending =>
      obtain ⟨outcome, houtcome, rfl⟩ := Option.map_eq_some_iff.mp hstep
      refine ⟨_, some outcome, rfl, .finish hpending houtcome, ?_⟩
      rw [Listener.finishes, hpending]
      dsimp only
      rw [houtcome]
    next => cases hstep

/-- The tracks that PLAY hands to a task are new. -/
def Listener.IsNew : Listener → Prop
  | .granted audio video =>
    (∀ start, audio = some start → start.rtp = {}) ∧ ∀ start, video = some start → start.rtp = {}
  | _ => True

namespace Relay

variable {θ : Type*} [DecidableEq θ] {config : RelayConfig} {r r' : Relay θ} {a : RelayAction θ}

/-- What a listener has been sent, before and while it plays. -/
structure Delivers (config : RelayConfig) (r : Relay θ) : Prop where
  accepted : r.live.channel.Accepted
  pending : ∀ t, ∀ op ∈ (r.live.publisher t).pending, op.Accepted
  receivers : r.live.listener.Within r.live.channel (fun _ => True)
  fresh : r.live.listener.IsNew
  silent : (∀ play, r.live.listener ≠ .playing play) → r.written = [] ∧ r.delivered = []
  playing : ∀ play, r.live.listener = .playing play →
    InPlace r.live.channel play r.delivered ∧
      ∃ log, Wired config.live.media r.live.channel play r.written r.delivered log

theorem delivers_start (config : RelayConfig) : Delivers config (system (θ := θ) config).start where
  accepted := ⟨by simp [system, Live.system, LiveChannel.new, Broadcast.new],
    by simp [system, Live.system, LiveChannel.new, Broadcast.new]⟩
  pending t op hop := by cases hop
  receivers := .absent
  fresh := trivial
  silent _ := ⟨rfl, rfl⟩
  playing play hplay := by cases hplay

/-- A publisher adds to the channel, and leaves the listener alone. -/
theorem Delivers.publisher (h : r.Delivers config) {t : θ} {choice : PublisherChoice}
    (hstep : Live.step config.live r.live (.publisher t choice) = some r'.live)
    (haccepted : ∀ message, choice = .message message → message.Accepted config.ingest.media)
    (hwritten : r'.written = r.written) (hdelivered : r'.delivered = r.delivered) :
    r'.Delivers config := by
  obtain ⟨live, sessions, written, delivered⟩ := r'
  dsimp only at hstep hwritten hdelivered
  subst hwritten hdelivered
  obtain ⟨⟨channel, pc⟩, hpublish, rfl⟩ := Option.map_eq_some_iff.mp hstep
  obtain ⟨hchannel, hpending⟩ := accepted_of_publisher h.accepted (h.pending t) haccepted hpublish
  obtain ⟨haudio, hvideo⟩ := sent_grows (publisherEffect_of_step hpublish)
  refine ⟨hchannel, ?_, ?_, h.fresh, h.silent, ?_⟩
  · intro u
    obtain rfl | hne := eq_or_ne u t
    · simpa using hpending
    · simpa [Function.update_of_ne hne] using h.pending u
  · apply h.receivers.mono _ (fun _ _ => trivial)
    intro track
    cases track with
    | audio => simpa [LiveChannel.log] using haudio.length_le
    | video => simpa [LiveChannel.log] using hvideo.length_le
  · intro play hplay
    obtain ⟨hplaced, log, hwired⟩ := h.playing play hplay
    exact ⟨hplaced.mono haudio hvideo, log, hwired.mono haudio hvideo⟩

/-- A new task has written nothing, and its receivers are within the channel. -/
theorem inPlace_start {channel : LiveChannel} {audio video : Option (TrackStart Nat)}
    (playStartedAt : Nat) (now : Nat → Nat) (view : ChannelView Nat)
    (h : (Listener.granted audio video).Within channel (fun _ => True)) :
    InPlace channel { task := .new audio video playStartedAt channel.resyncEpoch now, view }
      [] := by
  have hrange : ∀ track rx,
      (MediaTask.new audio video playStartedAt channel.resyncEpoch now).rx track = some rx →
        rx ≤ (channel.log track).length := by
    cases h with
    | granted hrx => exact fun track rx hnew => hrx track rx (rx_new hnew)
  exact {
    frames := by simp
    ordered := by simp
    range := fun _ => rxInRange_of_idle rfl hrange
    loaded := fun track hloaded => absurd hloaded (not_loaded_of_idle rfl _)
    running := by simp
    past := by simp
    brings := by simp
    fresh := by simp }

theorem wired_start {config : MediaTaskConfig} {channel : LiveChannel}
    {audio video : Option (TrackStart Nat)} (playStartedAt : Nat) (now : Nat → Nat)
    (view : ChannelView Nat) (h : (Listener.granted audio video).IsNew) :
    Wired config channel { task := .new audio video playStartedAt channel.resyncEpoch now, view }
      [] [] { run := .new audio video playStartedAt channel.resyncEpoch now } where
  task := rfl
  written := rfl
  balanced := MediaLog.balanced_start playStartedAt channel.resyncEpoch now h.1 h.2
  known := by simp
  units := rfl

omit [DecidableEq θ] in
theorem Delivers.continued (h : r.Delivers config) {play play' : Playing}
    (hplay : r.live.listener = .playing play) {action : ListenerAction}
    {outcome : Option (TaskOutcome Nat)}
    (hcontinued : Continued config.live.media r.live.channel play action play' outcome) :
    InPlace r.live.channel play'
      (r.delivered ++ (outcome.map (fun outcome => play.delivers outcome)).getD []) ∧
      ∃ log, Wired config.live.media r.live.channel play'
        (r.written ++ (outcome.map TaskOutcome.written).getD [])
        (r.delivered ++ (outcome.map (fun outcome => play.delivers outcome)).getD []) log := by
  obtain ⟨hplaced, log, hwired⟩ := h.playing play hplay
  cases hcontinued with
  | begin now ntp hreceived =>
    simp only [Option.map_none, Option.getD_none, List.append_nil]
    exact ⟨hplaced.begin now ntp hreceived, _, hwired.begin now ntp hreceived⟩
  | load hpending =>
    simp only [Option.map_none, Option.getD_none, List.append_nil]
    refine ⟨hplaced.load hpending, log, ?_⟩
    exact ⟨hwired.task, hwired.written, hwired.balanced, hwired.known, hwired.units⟩
  | finish hpending hstep =>
    exact ⟨hplaced.finish hpending (MediaTask.performed_of_step hstep), _,
      hwired.finish (hplaced.brings _ _ hpending) hstep⟩

theorem Delivers.listener (h : r.Delivers config) {action : ListenerAction}
    (hnew : action.isNew = true)
    (hstep : Live.step config.live r.live (.listener action) = some r'.live)
    (hwritten : r'.written = r.written ++
      ((r.live.listener.finishes config.live.media action).map (fun f => f.2.written)).getD [])
    (hdelivered : r'.delivered = r.delivered ++
      ((r.live.listener.finishes config.live.media action).map
        (fun f => f.1.delivers f.2)).getD []) : r'.Delivers config := by
  obtain ⟨live, sessions, written, delivered⟩ := r'
  dsimp only at hstep hwritten hdelivered
  subst hwritten hdelivered
  obtain ⟨listener, hlistener, rfl⟩ := Option.map_eq_some_iff.mp hstep
  have heffect := listenerEffect_of_step hlistener
  have hreceivers := h.receivers.step heffect (fun _ _ _ _ _ _ _ _ => trivial)
    (fun _ _ _ _ _ => trivial)
  generalize hbefore : r.live.listener = before at *
  have hsilent : (∀ play, before ≠ .playing play) → r.written = [] ∧ r.delivered = [] := by
    rw [← hbefore]
    exact h.silent
  have hfresh : before.IsNew := hbefore ▸ h.fresh
  cases heffect with
  | subscribe =>
    obtain ⟨hwritten, hdelivered⟩ := hsilent (by simp)
    rw [hwritten, hdelivered]
    refine ⟨h.accepted, h.pending, hreceivers, trivial, fun _ => ⟨rfl, rfl⟩, ?_⟩
    rintro play ⟨⟩
  | play audio video =>
    obtain ⟨hwritten, hdelivered⟩ := hsilent (by simp)
    rw [hwritten, hdelivered]
    refine ⟨h.accepted, h.pending, hreceivers, ?_, fun _ => ⟨rfl, rfl⟩, ?_⟩
    · rw [ListenerAction.isNew, Bool.and_eq_true, Option.all_eq_true, Option.all_eq_true] at hnew
      constructor
      · intro start hstart
        obtain ⟨track, htrack, rfl⟩ := Option.map_eq_some_iff.mp hstart
        exact of_decide_eq_true (hnew.1 track htrack)
      · intro start hstart
        obtain ⟨track, htrack, rfl⟩ := Option.map_eq_some_iff.mp hstart
        exact of_decide_eq_true (hnew.2 track htrack)
    · rintro play ⟨⟩
  | start playStartedAt now ntp =>
    obtain ⟨hwritten, hdelivered⟩ := hsilent (by simp)
    rw [hwritten, hdelivered]
    refine ⟨h.accepted, h.pending, hreceivers, trivial, ?_, ?_⟩
    · intro hnone
      exact absurd rfl (hnone _)
    · rintro play ⟨⟩
      have hwithin : (Listener.granted _ _).Within r.live.channel (fun _ => True) :=
        hbefore ▸ h.receivers
      exact ⟨inPlace_start playStartedAt now _ hwithin, _, wired_start playStartedAt now _ hfresh⟩
  | @playing play play' _ heffect =>
    obtain ⟨next, outcome, hnext, hcontinued, hfinishes⟩ := continued_of_step hlistener
    cases hnext
    refine ⟨h.accepted, h.pending, hreceivers, trivial, ?_, ?_⟩
    · intro hnone
      exact absurd rfl (hnone _)
    · rintro play ⟨⟩
      have hall := h.continued hbefore hcontinued
      dsimp only
      rw [hfinishes, Option.map_map, Option.map_map]
      exact hall

theorem Delivers.step (h : r.Delivers config) (hstep : Relay.step config r a = some r') :
    r'.Delivers config := by
  cases relayed_of_step hstep with
  | quiet hlive hwritten hdelivered =>
    obtain ⟨live, sessions, written, delivered⟩ := r'
    dsimp only at hlive hwritten hdelivered
    subst hlive hwritten hdelivered
    exact ⟨h.accepted, h.pending, h.receivers, h.fresh, h.silent, h.playing⟩
  | publisher t choice hstep haccepted hwritten hdelivered =>
    exact h.publisher hstep haccepted hwritten hdelivered
  | listener action hnew hstep hwritten hdelivered =>
    exact h.listener hnew hstep hwritten hdelivered

theorem delivers_of_reachable (h : (system config).Reachable r) : r.Delivers config :=
  h.invariant (delivers_start config) (fun _ _ _ hdelivers hstep => hdelivers.step hstep)

end Relay

/-! ## The client -/

namespace Relay

variable {θ : Type*} [DecidableEq θ] {config : RelayConfig} {r : Relay θ}

/-- A picture with parameter sets. -/
def samplePicture : Bytes :=
  [0, 0, 0, 1, 0x67, 0x42, 0, 0x1f, 0, 0, 0, 1, 0x68, 0xce, 0, 0, 0, 1, 0x65, 1]

def sampleConfig : RelayConfig :=
  ⟨⟨8, ⟨⟨samplePicture, samplePicture⟩, false, []⟩⟩, IngestConfig.sample⟩

def sample : System (Relay Nat) (RelayAction Nat) := system sampleConfig

/-- Steps of the channel and the listener alone. -/
def quietly (actions : List (LiveAction Nat)) : List (RelayAction Nat) :=
  actions.map (fun action => match action with
    | .publisher t choice => .publisher t choice 0
    | .listener action => .listener action)

/-- Publisher 0 sends silence and then a keyframe, and the listener gets both. -/
def sampleSteps : List (RelayAction Nat) :=
  quietly ([.publisher 0 .advance, .publisher 0 .accept] ++ Live.advance 0 4 ++
    Live.listenSteps (some (0, {})) (some (2, {}))) ++
  [.receive 0 (silenceArrival 0 0)] ++
  quietly (Live.advance 0 2 ++ Live.roundHead ++ Live.taskStep .audioMessage 1) ++
  [.receive 0 ⟨0, .binary (1 :: 0 :: 0 :: 0 :: 0 :: samplePicture)⟩] ++
  quietly (Live.advance 0 3 ++ Live.roundHead ++ Live.taskStep .videoMessage 0 ++
    Live.roundHead ++ Live.taskStep .videoMessage 0 ++ Live.roundHead ++
    Live.taskStep .videoMessage 4)

theorem exists_sample : ∃ r, sample.exec sample.start sampleSteps = some r ∧
    r.delivered = [.placeholder .audioOnly, .live .audio 1, .live .video 3] :=
  Option.map_eq_some_iff.mp (by decide +kernel)

/-- In every run, the frames that a listener is sent of a track are frames that publishers have
sent on it, in the same order and none of them twice, and what is sent in their place is silence
or a placeholder. -/
theorem deliveries_in_order (h : (system config).Reachable r) (track : RtspTrack) :
    (r.delivered.filterMap (Delivery.place track)).Pairwise (· < ·) ∧
      ∀ place ∈ r.delivered.filterMap (Delivery.place track),
        ∃ unit, r.live.channel.frameAt track place = some unit ∧ track.Accepts unit := by
  have hdelivers := delivers_of_reachable h
  by_cases hplays : ∃ play, r.live.listener = .playing play
  · obtain ⟨play, hplay⟩ := hplays
    obtain ⟨hplaced, -⟩ := hdelivers.playing play hplay
    refine ⟨hplaced.ordered track, ?_⟩
    intro place hplace
    obtain ⟨unit, hunit⟩ :=
      Option.isSome_iff_exists.mp (hplaced.frames track place (mem_places.mp hplace))
    exact ⟨unit, hunit, hdelivers.accepted.accepts hunit⟩
  · obtain ⟨-, hdelivered⟩ := hdelivers.silent (fun play hplay => hplays ⟨play, hplay⟩)
    rw [hdelivered]
    exact ⟨.nil, fun place hplace => by cases hplace⟩

theorem deliveries_in_order_sample : ∃ r,
    sample.exec sample.start sampleSteps = some r ∧
    r.delivered.filterMap (Delivery.place .video) = [3] ∧
    ∃ unit, r.live.channel.frameAt .video 3 = some unit ∧ RtspTrack.video.Accepts unit := by
  obtain ⟨r, hexec, hdelivered⟩ := exists_sample
  have hplaces : r.delivered.filterMap (Delivery.place .video) = [3] := by
    rw [hdelivered]
    rfl
  obtain ⟨-, hframes⟩ := deliveries_in_order (System.reachable_of_exec hexec) .video
  exact ⟨r, hexec, hplaces, hframes 3 (hplaces ▸ List.mem_singleton_self 3)⟩

end Relay

end VRCStreamer
