import VRCStreamer.Live.Tracks
import VRCStreamer.Media.Fmtp
import VRCStreamer.Publisher.Published
import VRCStreamer.Rtsp.AudioTrack

/-!
# From the sockets of publishers to a listener

A live channel whose publishers run the loop of `streamer_session` on the messages of their
sockets. It is kept what the listener has been sent: the bytes, and the units in them by their
origin. A frame has a place in the log of its track.
-/

namespace VRCStreamer

open Codec Concurrency

/-! ## Placeholders -/

/-- Pictures that may be sent. -/
def PlaceholderVideo.Accepted (placeholders : PlaceholderVideo) : Prop :=
  ∀ state frame, placeholderAccessUnit placeholders state = some frame →
    ∃ singleNal nalStart, AcceptedAccessUnit frame singleNal nalStart

/-- A unit that a listener was sent: a frame of a track, silence, or the picture of a state. -/
inductive Delivery
  | live (track : RtspTrack) (place : Nat)
  | silence
  | placeholder (state : VideoStreamState)
  deriving DecidableEq

def Delivery.track : Delivery → RtspTrack
  | .live track _ => track
  | .silence => .audio
  | .placeholder _ => .video

/-- The place of a frame that was delivered on a track. -/
def Delivery.place (track : RtspTrack) : Delivery → Option Nat
  | .live other place => if other = track then some place else none
  | _ => none

/-- What an outcome of a step has delivered; the receiver of a frame is past it. -/
def Playing.delivers (play : Playing) (outcome : TaskOutcome Nat) : List Delivery :=
  match outcome.sent with
  | none => []
  | some unit =>
    match unit.source with
    | .silence => [.silence]
    | .placeholder => [.placeholder play.view.channelVideoState]
    | .live .. => (play.task.rx unit.track).toList.map (fun rx => .live unit.track (rx - 1))

/-- The task whose step an action is the end of, and what comes of the step. -/
def Listener.finishes (config : MediaTaskConfig) :
    Listener → ListenerAction → Option (Playing × TaskOutcome Nat)
  | .playing play, .finish =>
    match play.pending with
    | some (action, []) =>
      (play.task.step config action play.view).map (fun outcome => (play, outcome))
    | _ => none
  | _, _ => none

/-! ## The whole -/

structure RelayConfig where
  live : LiveConfig
  ingest : IngestConfig

structure Relay (θ : Type*) where
  live : Live θ
  sessions : θ → IngestState
  written : List Bytes := []
  delivered : List Delivery := []

/-- A publisher does a piece of its session, of which `now` is the start, or it gets a message
from its socket. -/
inductive RelayAction (θ : Type*)
  | publisher (t : θ) (choice : PublisherChoice) (now : Nat)
  | receive (t : θ) (arrival : Arrival)
  | listener (action : ListenerAction)

/-- SETUP makes a new RTP state for each track. -/
def ListenerAction.isNew : ListenerAction → Bool
  | .play audio video =>
    audio.all (fun track => track.2 = {}) && video.all (fun track => track.2 = {})
  | _ => true

namespace Relay

variable {θ : Type*} [DecidableEq θ]

/-- The session goes on with what comes of a message. -/
def handle (config : RelayConfig) (r : Relay θ) (t : θ) (outcome : IngestOutcome) :
    Option (Relay θ) :=
  match outcome with
  | .published message _ =>
    (Live.step config.live r.live (.publisher t (.message message))).map
      (fun live => { r with live })
  | outcome =>
    if outcome.ends then
      (Live.step config.live r.live (.publisher t .close)).map (fun live => { r with live })
    else some r

def step (config : RelayConfig) (r : Relay θ) : RelayAction θ → Option (Relay θ)
  | .publisher t choice now =>
    match choice with
    | .message _ => none
    | .accept =>
      (Live.step config.live r.live (.publisher t .accept)).map (fun live =>
        { r with live, sessions := Function.update r.sessions t (.new now) })
    | choice =>
      (Live.step config.live r.live (.publisher t choice)).map (fun live => { r with live })
  | .receive t arrival =>
    match r.live.publisher t with
    | .serving _ _ [] =>
      let received := (r.sessions t).receive config.ingest arrival
      { r with sessions := Function.update r.sessions t received.2 }.handle config t received.1
    | _ => none
  | .listener action =>
    if action.isNew then
      let finished := r.live.listener.finishes config.live.media action
      (Live.step config.live r.live (.listener action)).map (fun live =>
        { r with
          live
          written := r.written ++ (finished.map (fun f => f.2.written)).getD []
          delivered := r.delivered ++ (finished.map (fun f => f.1.delivers f.2)).getD [] })
    else none

/-- Publishers and a listener on a new channel. -/
def system (config : RelayConfig) : System (Relay θ) (RelayAction θ) where
  start := { live := (Live.system config.live).start, sessions := fun _ => .new 0 }
  step := step config

/-! ## What a step can do -/

/-- A step of the relay is one of the channel, or none. What a publisher sends is accepted, and
only the end of a step of the task writes. -/
inductive Relayed (config : RelayConfig) (r r' : Relay θ) : Prop
  | quiet (hlive : r'.live = r.live) (hwritten : r'.written = r.written)
      (hdelivered : r'.delivered = r.delivered)
  | publisher (t : θ) (choice : PublisherChoice)
      (hstep : Live.step config.live r.live (.publisher t choice) = some r'.live)
      (haccepted : ∀ message, choice = .message message → message.Accepted config.ingest.media)
      (hwritten : r'.written = r.written) (hdelivered : r'.delivered = r.delivered)
  | listener (action : ListenerAction) (hnew : action.isNew = true)
      (hstep : Live.step config.live r.live (.listener action) = some r'.live)
      (hwritten : r'.written = r.written ++
        ((r.live.listener.finishes config.live.media action).map (fun f => f.2.written)).getD [])
      (hdelivered : r'.delivered = r.delivered ++
        ((r.live.listener.finishes config.live.media action).map
          (fun f => f.1.delivers f.2)).getD [])

theorem relayed_of_handle {config : RelayConfig} {r r' : Relay θ} {t : θ} {s : IngestState}
    {arrival : Arrival}
    (h : r.handle config t (s.receive config.ingest arrival).1 = some r') :
    Relayed config r r' := by
  generalize houtcome : (s.receive config.ingest arrival).1 = outcome at h
  rw [handle.eq_def] at h
  split at h
  next message fmtp =>
    obtain ⟨live, hstep, rfl⟩ := Option.map_eq_some_iff.mp h
    refine .publisher t _ hstep ?_ rfl rfl
    intro other hother
    cases hother
    exact (IngestState.accepted_of_receive houtcome).1
  next =>
    split at h
    next =>
      obtain ⟨live, hstep, rfl⟩ := Option.map_eq_some_iff.mp h
      exact .publisher t _ hstep (by simp) rfl rfl
    next =>
      cases h
      exact .quiet rfl rfl rfl

theorem relayed_of_step {config : RelayConfig} {r r' : Relay θ} {a : RelayAction θ}
    (h : step config r a = some r') : Relayed config r r' := by
  rw [step.eq_def] at h
  cases a with
  | publisher t choice now =>
    cases choice with
    | message message => cases h
    | accept | advance | refuse | close =>
      obtain ⟨live, hstep, rfl⟩ := Option.map_eq_some_iff.mp h
      exact .publisher t _ hstep (by simp) rfl rfl
  | receive t arrival =>
    dsimp only at h
    split at h
    next =>
      cases relayed_of_handle h with
      | quiet hlive hwritten hdelivered => exact .quiet hlive hwritten hdelivered
      | publisher t choice hstep haccepted hwritten hdelivered =>
        exact .publisher t choice hstep haccepted hwritten hdelivered
      | listener action hnew hstep hwritten hdelivered =>
        exact .listener action hnew hstep hwritten hdelivered
    next => cases h
  | listener action =>
    dsimp only at h
    split at h
    next hnew =>
      obtain ⟨live, hstep, rfl⟩ := Option.map_eq_some_iff.mp h
      exact .listener action hnew hstep rfl rfl
    next => cases h

/-- The channel of a relay is reached by its own steps. -/
theorem live_reachable {config : RelayConfig} {r : Relay θ} (h : (system config).Reachable r) :
    (Live.system config.live).Reachable r.live := by
  refine h.simulate Relay.live rfl ?_
  intro r a r' hstep
  cases relayed_of_step hstep with
  | quiet hlive => exact .inl hlive
  | publisher t choice hstep => exact .inr ⟨.publisher t choice, hstep⟩
  | listener action hnew hstep => exact .inr ⟨.listener action, hstep⟩

end Relay

end VRCStreamer
