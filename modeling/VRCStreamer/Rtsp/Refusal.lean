import VRCStreamer.Rtsp.Effect

/-!
# Refused requests

A request that is answered with a 4xx status leaves the server and the session as they
were, apart from the mark of an AndroidX client. The exception is a PLAY that takes the
audio receiver and then finds no video receiver.
-/

namespace VRCStreamer

open Concurrency

variable {θ ι : Type*}

/-- The server is as before, and so is the session up to `androidx_media3`. -/
def RtspOutcome.Unchanged (outcome : RtspOutcome θ ι) (state : RtspServer θ ι)
    (session : RtspSession ι) : Prop :=
  outcome.state = state ∧
    { outcome.session with androidxMedia3 := session.androidxMedia3 } = session

section

variable {config : RtspConfig} {request : RtspRequest} {state : RtspServer θ ι}
variable {session : RtspSession ι} {outcome : RtspOutcome θ ι}

/-- The mark of an AndroidX client has no part in the loss of the receiver. -/
theorem losesAudio_note (androidxMedia3 : Bool) :
    LosesAudio { session with androidxMedia3 } request ↔ LosesAudio session request := by
  constructor
  · rintro ⟨hmethod, ⟨guard, key, hready⟩, haudio, haudioRx, hvideo, hvideoRx⟩
    exact ⟨hmethod, ⟨guard, key, hready.setup, hready.guard, hready.key, hready.idle⟩,
      haudio, haudioRx, hvideo, hvideoRx⟩
  · rintro ⟨hmethod, ⟨guard, key, hready⟩, haudio, haudioRx, hvideo, hvideoRx⟩
    exact ⟨hmethod, ⟨guard, key, hready.setup, hready.guard, hready.key, hready.idle⟩,
      haudio, haudioRx, hvideo, hvideoRx⟩

/-- A refusal is one of two effects: nothing, or the loss of the audio receiver. -/
theorem RequestEffect.refused (heffect : RequestEffect config request state session outcome)
    (hrefused : outcome.reply.IsRefusal) :
    (outcome = ⟨state, session, outcome.reply, false⟩ ∧ ¬ LosesAudio session request) ∨
    (outcome.session = { session with audioRx := none } ∧ LosesAudio session request) := by
  cases heffect with
  | quiet _ hkept =>
    obtain ⟨rfl, hsafe⟩ := hkept hrefused
    exact .inl ⟨rfl, hsafe⟩
  | describe _ _ _ => exact absurd hrefused (RtspReply.not_isRefusal rfl)
  | setup _ _ => exact absurd hrefused (RtspReply.not_isRefusal rfl)
  | start _ _ _ _ => exact absurd hrefused (RtspReply.not_isRefusal rfl)
  | resume _ _ => exact absurd hrefused (RtspReply.not_isRefusal rfl)
  | lostAudio hlost => exact .inr ⟨rfl, hlost⟩

/-- A refused request that is not such a PLAY notes the client's agent and no more. -/
theorem handle_of_refused
    (hrefused : (handleRtspRequest config request state session).reply.IsRefusal)
    (hkept : ¬ LosesAudio session request) :
    handleRtspRequest config request state session =
      ⟨state, session.noteAndroidxMedia3 request,
        (handleRtspRequest config request state session).reply, false⟩ := by
  have heffect := effect_of_request config request state session
  obtain ⟨hsame, -⟩ | ⟨-, hlost⟩ := heffect.refused hrefused
  · exact hsame
  · obtain ⟨androidxMedia3, hnoted⟩ := session.noteAndroidxMedia3_eq request
    rw [hnoted, losesAudio_note] at hlost
    exact absurd hlost hkept

/-- A refused request changes nothing exactly if it is not such a PLAY. -/
theorem unchanged_of_refused_iff
    (hrefused : (handleRtspRequest config request state session).reply.IsRefusal) :
    (handleRtspRequest config request state session).Unchanged state session ↔
      ¬ LosesAudio session request := by
  obtain ⟨androidxMedia3, hnoted⟩ := session.noteAndroidxMedia3_eq request
  constructor
  · rintro ⟨-, hsame⟩ hlost
    have heffect := effect_of_request config request state session
    obtain ⟨-, hkept⟩ | ⟨hsession, -⟩ := heffect.refused hrefused
    · rw [hnoted, losesAudio_note] at hkept
      exact hkept hlost
    · rw [hsession] at hsame
      exact hlost.audioRx (congrArg RtspSession.audioRx hsame).symm
  · intro hkept
    rw [handle_of_refused hrefused hkept, hnoted]
    exact ⟨rfl, rfl⟩

end

/-- The step is a refused request that does not lose the audio receiver. -/
def RefusedSafely (config : RtspConfig) : Connection θ ι → ConnectionEvent θ ι → Prop
  | c, .request request => ∀ session, c.session = some session →
      (handleRtspRequest config request c.state session).reply.IsRefusal ∧
        ¬ LosesAudio session request
  | _, _ => False

/-- Refused requests leave the server and the session as they were: one of them exactly if
it is not a PLAY that loses the audio receiver, and any number of the others in a row. -/
theorem refused_requests_change_nothing (config : RtspConfig) :
    (∀ (state : RtspServer θ ι) (session : RtspSession ι) (request : RtspRequest),
      (handleRtspRequest config request state session).reply.IsRefusal →
      ((handleRtspRequest config request state session).Unchanged state session ↔
        ¬ LosesAudio session request)) ∧
    (∀ (start : RtspServer θ ι) (ip : Option ι) (c c' : Connection θ ι) (session : RtspSession ι),
      (Connection.system config start ip).Run (RefusedSafely config) c c' →
      c.session = some session →
      c'.state = c.state ∧ ∃ androidxMedia3, c'.session = some { session with androidxMedia3 }) := by
  constructor
  · intro state session request hrefused
    exact unchanged_of_refused_iff hrefused
  · intro start ip c c' session hrun hsession
    refine hrun.invariant (P := fun c' => c'.state = c.state ∧
      ∃ androidxMedia3, c'.session = some { session with androidxMedia3 }) ?_ ?_
    · exact ⟨rfl, session.androidxMedia3, hsession⟩
    · rintro s event s' ⟨hstate, before, hbefore⟩ hsafe hstep
      cases event with
      | environment _ => exact hsafe.elim
      | disconnect => exact hsafe.elim
      | request request =>
        obtain ⟨hrefused, hkept⟩ := hsafe _ hbefore
        obtain ⟨session', hsession', rfl⟩ := Option.map_eq_some_iff.mp hstep
        obtain rfl := Option.some.inj (hbefore.symm.trans hsession')
        obtain ⟨noted, hnoted⟩ := RtspSession.noteAndroidxMedia3_eq
          { session with androidxMedia3 := before } request
        rw [handle_of_refused hrefused hkept, hnoted]
        exact ⟨hstate, noted, rfl⟩

open Connection RtspRequest

/-- A SETUP over UDP is refused while the session plays. -/
def refusedEvents : List (ConnectionEvent Nat Nat) :=
  [.request (.sample .setup 'a' 1 (interleaved 2)), .request (.sample .play 'a' 1 [])]

theorem refused_requests_change_nothing_udp :
    ∃ c session, small.Reachable c ∧ c.session = some session ∧ session.audioSetup = true ∧
      (handleRtspRequest .small (.sample .setup 'a' 0 []) c.state session).Unchanged c.state
        session := by
  have hsome : (small.exec small.start refusedEvents).map (fun c => c.session.map (fun session =>
      (session.audioSetup, session.videoSetup,
        (handleRtspRequest .small (.sample .setup 'a' 0 []) c.state session).reply))) =
      some (some (true, false, .refused .unsupportedTransport)) := by
    decide +kernel
  obtain ⟨c, hexec, hstate⟩ := Option.map_eq_some_iff.mp hsome
  obtain ⟨session, hsession, hfields⟩ := Option.map_eq_some_iff.mp hstate
  obtain ⟨haudio, hrest⟩ := Prod.mk.inj hfields
  obtain ⟨hvideo, hreply⟩ := Prod.mk.inj hrest
  have hrefused :
      (handleRtspRequest .small (.sample .setup 'a' 0 []) c.state session).reply.IsRefusal := by
    rw [hreply, RtspReply.IsRefusal]
    decide
  refine ⟨c, session, System.reachable_of_exec hexec, hsession, haudio, ?_⟩
  refine ((refused_requests_change_nothing .small).1 c.state session _ hrefused).mpr ?_
  intro hlost
  exact absurd hlost.videoSetup (by simp [hvideo])

/-! ### The receiver that PLAY loses -/

/-- A listener subscribes to stream `a`. -/
def listenSteps : List (Choice Text Nat Text) :=
  .call (.listen (List.replicate 32 'a')) :: List.replicate 8 .advance

/-- A publisher of `a` connects, starts its video and sends a keyframe. -/
def publishSteps : List (Choice Text Nat Text) :=
  .connect (List.replicate 32 'a') 1 :: List.replicate 15 .advance ++
    [.message .videoStart, .advance, .advance, .advance,
      .message (.videoFrame true (some "packetization-mode=1".toList)), .advance, .advance,
      .advance, .advance]

def videoServer : System (Threads Nat (Server Text Nat Nat Text) (ServerPc Text Nat Text))
    (Nat × Choice Text Nat Text) :=
  Server.system ⟨⟨2, 2, 2⟩, true⟩ ∅

/-- The server after these steps, with the listener still subscribed. -/
def publishing : Server Text Nat Nat Text :=
  ((videoServer.exec videoServer.start
    (listenSteps.map (Prod.mk 0) ++ publishSteps.map (Prod.mk 1))).getD videoServer.start).memory

theorem publishing_reachable : ∃ s, videoServer.Reachable s ∧ s.memory = publishing ∧
    s.pc 0 = ⟨.holding .listener (List.replicate 32 'a') 0, .none⟩ := by
  have hlistens : (videoServer.exec videoServer.start
      (listenSteps.map (Prod.mk 0) ++ publishSteps.map (Prod.mk 1))).map (fun s => s.pc 0) =
      some ⟨.holding .listener (List.replicate 32 'a') 0, .none⟩ := by
    decide +kernel
  obtain ⟨s, hexec, hpc⟩ := Option.map_eq_some_iff.mp hlistens
  refine ⟨s, System.reachable_of_exec hexec, ?_, hpc⟩
  rw [publishing, hexec, Option.getD_some]

/-- An AndroidX client sets up the audio while nothing is published. Then the video starts,
and the client describes the stream again and sets up the video. -/
def lateVideoEvents : List (ConnectionEvent Nat Nat) :=
  [.request (.sample .describe 'a' 0 [("user-agent".toList, "AndroidXMedia3/1.4".toList)]),
    .request (.sample .setup 'a' 0 (interleaved 0)), .environment ⟨publishing, 2⟩,
    .request (.sample .describe 'a' 0 []), .request (.sample .setup 'a' 0 (interleaved 2))]

/-- The PLAY that follows is answered 454 and takes the audio receiver. -/
theorem refused_play_loses_audio :
    ∃ c session, small.Reachable c ∧ c.session = some session ∧ session.audioRx = some 0 ∧
      (handleRtspRequest .small (.sample .play 'a' 0 []) c.state session).reply =
        .refused .sessionNotFound ∧
      (handleRtspRequest .small (.sample .play 'a' 0 []) c.state session).session.audioRx = none := by
  have hsome : (small.exec small.start lateVideoEvents).map (fun c => c.session.map (fun session =>
      (session.audioRx,
        (handleRtspRequest .small (.sample .play 'a' 0 []) c.state session).reply,
        (handleRtspRequest .small (.sample .play 'a' 0 []) c.state session).session.audioRx))) =
      some (some (some 0, .refused .sessionNotFound, none)) := by
    decide +kernel
  obtain ⟨c, hexec, hstate⟩ := Option.map_eq_some_iff.mp hsome
  obtain ⟨session, hsession, hfields⟩ := Option.map_eq_some_iff.mp hstate
  obtain ⟨haudio, hfields⟩ := Prod.mk.inj hfields
  obtain ⟨hreply, hlost⟩ := Prod.mk.inj hfields
  exact ⟨c, session, System.reachable_of_exec hexec, hsession, haudio, hreply, hlost⟩

end VRCStreamer
