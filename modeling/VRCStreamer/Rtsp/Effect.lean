import VRCStreamer.Rtsp.Handler

/-!
# What one request does

`RequestEffect` lists the ways in which a request can change a session, with what its
handler has checked by then. Each handler has one lemma, and every later proof about
connections goes through `effect_of_request`.
-/

namespace VRCStreamer

variable {θ ι : Type*}

namespace RtspSession

variable (session : RtspSession ι) (request : RtspRequest) (track other : RtspTrack) (ch : UInt8)

/-! ## Fields after an update -/

@[simp] theorem setTrack_isSetup :
    (session.setTrack track ch).isSetup other = (other = track || session.isSetup other) := by
  cases track <;> cases other <;> rfl

@[simp] theorem setTrack_channel :
    (session.setTrack track ch).channel other =
      if other = track then ch else session.channel other := by
  cases track <;> cases other <;> rfl

@[simp] theorem setTrack_guard : (session.setTrack track ch).guard = session.guard := by
  cases track <;> rfl

@[simp] theorem setTrack_key : (session.setTrack track ch).key = session.key := by
  cases track <;> rfl

@[simp] theorem setTrack_mediaRtpTask :
    (session.setTrack track ch).mediaRtpTask = session.mediaRtpTask := by
  cases track <;> rfl

@[simp] theorem setTrack_audioRx : (session.setTrack track ch).audioRx = session.audioRx := by
  cases track <;> rfl

@[simp] theorem setTrack_videoRx : (session.setTrack track ch).videoRx = session.videoRx := by
  cases track <;> rfl

theorem assignId_eq (state : RtspServer θ ι) :
    ∃ id, (session.assignId state).2 = { session with id } := by
  rw [assignId]
  split
  · exact ⟨session.id, rfl⟩
  · exact ⟨_, rfl⟩

theorem noteAndroidxMedia3_eq :
    ∃ androidxMedia3, session.noteAndroidxMedia3 request = { session with androidxMedia3 } := by
  rw [noteAndroidxMedia3]
  split
  · exact ⟨_, rfl⟩
  · exact ⟨session.androidxMedia3, rfl⟩

variable {session} {session' : RtspSession ι} {stream : ChannelId}
variable {audio video : Option RtspTrackStart}

@[simp] theorem takeAudio_eq_none :
    session.takeAudio = none ↔ session.audioSetup = true ∧ session.audioRx = none := by
  cases hsetup : session.audioSetup <;> simp [takeAudio, hsetup]

@[simp] theorem takeVideo_eq_none :
    session.takeVideo stream = none ↔ session.videoSetup = true ∧ session.videoRx = none := by
  cases hsetup : session.videoSetup <;> simp [takeVideo, hsetup]

/-- The audio track starts when it is set up, with the session's receiver and channel. -/
theorem takeAudio_eq_some (h : session.takeAudio = some (audio, session')) :
    (∃ audioRx, (∀ rx ∈ audioRx, session.audioRx = some rx) ∧ session' = { session with audioRx }) ∧
      audio.isSome = session.audioSetup ∧
      ∀ start ∈ audio, session.audioRx = some start.rx ∧ start.channel = session.audioChannel := by
  rw [takeAudio] at h
  split at h
  next hsetup =>
    simp only [Option.map_eq_some_iff, Prod.mk.injEq] at h
    obtain ⟨rx, hrx, rfl, rfl⟩ := h
    refine ⟨⟨none, by simp, rfl⟩, hsetup.symm, ?_⟩
    rintro start ⟨⟩
    exact ⟨hrx, rfl⟩
  next hsetup =>
    simp only [Option.some.injEq, Prod.mk.injEq] at h
    obtain ⟨rfl, rfl⟩ := h
    exact ⟨⟨session.audioRx, by simp, rfl⟩, by simpa using hsetup, by simp⟩

/-- The video track starts when it is set up, at the live edge of the stream. -/
theorem takeVideo_eq_some (h : session.takeVideo stream = some (video, session')) :
    (∃ videoRx, (∀ rx ∈ videoRx, session.videoRx = some rx) ∧ session' = { session with videoRx }) ∧
      video.isSome = session.videoSetup ∧
      ∀ start ∈ video, start.rx = stream ∧ start.channel = session.videoChannel := by
  rw [takeVideo] at h
  split at h
  next hsetup =>
    simp only [Option.map_eq_some_iff, Prod.mk.injEq] at h
    obtain ⟨rx, -, rfl, rfl⟩ := h
    refine ⟨⟨none, by simp, rfl⟩, hsetup.symm, ?_⟩
    rintro start ⟨⟩
    exact ⟨rfl, rfl⟩
  next hsetup =>
    simp only [Option.some.injEq, Prod.mk.injEq] at h
    obtain ⟨rfl, rfl⟩ := h
    exact ⟨⟨session.videoRx, by simp, rfl⟩, by simpa using hsetup, by simp⟩

end RtspSession

/-! ## The effects -/

/-- An answer that promises nothing about streams and tracks. -/
def RtspReply.Quiet : RtspReply → Prop
  | .describe .. | .setup .. | .play .. => False
  | _ => True

/-- What SETUP asks of a request for a key, which may come from the session. -/
structure SetupRequest (sessionKey : Option Text) (request : RtspRequest) (key transport : Text) :
    Prop where
  method : request.rtspMethod = some .setup
  named : (keyFromRtspUri request.uri).or sessionKey = some key
  valid : validHash key = true
  header : transport = (request.header "transport".toList).getD []
  tcp : Text.contains "rtp/avp/tcp".toList (Text.toAsciiLowercase transport) = true

/-- The session holds the channel of a key for SETUP: it has a guard and its key is this
one, or it has just subscribed. -/
inductive Joined (config : RtspConfig) (key : Text) (state : RtspServer θ ι)
    (session : RtspSession ι) : RtspServer θ ι → RtspSession ι → Prop
  | before {guard : ListenerGuard} (hguard : session.guard = some guard)
      (hkey : session.key = some key) : Joined config key state session state session
  | now {map : ChannelMap Text θ} {channel : ChannelId} (hguard : session.guard = none)
      (hsubscribed : state.server.map.subscribeListener config.limits key = (map, some channel)) :
      Joined config key state session { state with server := { state.server with map } }
        (session.subscribed ⟨key, channel⟩)

/-- PLAY would start the media task of a session. -/
structure ReadyToStart (session : RtspSession ι) (guard : ListenerGuard) (key : Text) : Prop where
  setup : session.audioSetup = true ∨ session.videoSetup = true
  guard : session.guard = some guard
  key : session.key = some key
  idle : session.mediaRtpTask = none

/-- PLAY takes the audio receiver before it sees that the video track has none. -/
structure LosesAudio (session : RtspSession ι) (request : RtspRequest) : Prop where
  method : request.rtspMethod = some .play
  ready : ∃ guard key, ReadyToStart session guard key
  audioSetup : session.audioSetup = true
  audioRx : session.audioRx ≠ none
  videoSetup : session.videoSetup = true
  videoRx : session.videoRx = none

theorem LosesAudio.not_of_method {session : RtspSession ι} {request : RtspRequest}
    {method : RtspMethod} (h : request.rtspMethod = some method) (hmethod : method ≠ .play) :
    ¬ LosesAudio session request := by
  intro hlost
  rw [hlost.method, Option.some.injEq] at h
  exact hmethod h.symm

inductive RequestEffect (config : RtspConfig) (request : RtspRequest) (state : RtspServer θ ι)
    (session : RtspSession ι) : RtspOutcome θ ι → Prop
  | quiet {reply : RtspReply} {close : Bool} (hreply : reply.Quiet)
      (hkept : reply.IsRefusal → close = false ∧ ¬ LosesAudio session request) :
      RequestEffect config request state session ⟨state, session, reply, close⟩
  | describe {key contentBase sdp : Text} {videoOmitted : Bool}
      (hmethod : request.rtspMethod = some .describe)
      (hkey : keyFromRtspUri request.uri = some key) (hvalid : validHash key = true) :
      RequestEffect config request state session
        ⟨state, { session with key := some key, videoOmitted }, .describe contentBase sdp, false⟩
  | setup {key transport : Text} {state' : RtspServer θ ι} {session' : RtspSession ι}
      (hrequest : SetupRequest session.key request key transport)
      (hjoined : Joined config key state session state' session') :
      RequestEffect config request state session (session'.acceptSetup request key transport state')
  | start {guard : ListenerGuard} {key : Text} {audio video : Option RtspTrackStart}
      {session₁ session₂ : RtspSession ι} (hmethod : request.rtspMethod = some .play)
      (hready : ReadyToStart session guard key) (haudio : session.takeAudio = some (audio, session₁))
      (hvideo : session₁.takeVideo guard.channel = some (video, session₂)) :
      RequestEffect config request state session
        { state
          session := { session₂ with
            mediaRtpTask := some ⟨guard.channel, key, audio, video, session₂.androidxMedia3⟩ }
          reply := session₂.playing request }
  | resume {task : RtspMediaTask} (hmethod : request.rtspMethod = some .play)
      (htask : session.mediaRtpTask = some task) :
      RequestEffect config request state session ⟨state, session, session.playing request, false⟩
  | lostAudio (hlost : LosesAudio session request) :
      RequestEffect config request state session
        ⟨state, { session with audioRx := none }, .refused .sessionNotFound, false⟩

namespace RtspSession

variable {config : RtspConfig} {request : RtspRequest} {state : RtspServer θ ι}
variable {session : RtspSession ι} {guard : ListenerGuard} {key transport : Text}

/-- SETUP is accepted on a session with a guard and the same key. -/
theorem setup_of_guard (hrequest : SetupRequest session.key request key transport)
    (hguard : session.guard = some guard) (hkey : session.key = some key) :
    session.setup config request state = session.acceptSetup request key transport state := by
  have hvalid : ¬ validHash key = false := by rw [hrequest.valid]; decide
  have htcp : ¬ (!Text.contains "rtp/avp/tcp".toList (Text.toAsciiLowercase
      ((request.header "transport".toList).getD []))) = true := by
    rw [← hrequest.header, hrequest.tcp]
    decide
  rw [setup, hrequest.named]
  dsimp only
  rw [if_neg hvalid, if_neg htcp, hguard]
  dsimp only
  rw [if_pos hkey, hrequest.header]

/-- PLAY is accepted on a session with a media task. -/
theorem play_of_task {task : RtspMediaTask} {track : RtspTrack}
    (hsetup : session.isSetup track = true)
    (hguard : session.guard = some guard) (hkey : session.key = some key)
    (htask : session.mediaRtpTask = some task) :
    session.play request state = ⟨state, session, session.playing request, false⟩ := by
  have hsome : ¬ (!session.audioSetup && !session.videoSetup) = true := by
    cases track <;> simp_all [isSetup]
  rw [play, if_neg hsome, hguard, hkey, htask]

end RtspSession

namespace RequestEffect

variable {config : RtspConfig} {request : RtspRequest} {state : RtspServer θ ι}
variable {session : RtspSession ι}

/-- A refusal at a point where PLAY has not taken the audio receiver. -/
theorem refuse (status : RtspStatus) (hkept : ¬ LosesAudio session request) :
    RequestEffect config request state session (session.refuse state status) :=
  quiet trivial (fun _ => ⟨rfl, hkept⟩)

theorem of_describe (h : request.rtspMethod = some .describe) :
    RequestEffect config request state session (session.describe config request state) := by
  have hkept : ¬ LosesAudio session request := LosesAudio.not_of_method h (by decide)
  rw [RtspSession.describe]
  cases hkey : keyFromRtspUri request.uri with
  | none => exact refuse _ hkept
  | some key =>
    by_cases hvalid : validHash key = false
    · simp only [hvalid, if_true]
      exact refuse _ hkept
    · simp only [hvalid]
      exact describe h hkey (by simpa using hvalid)

theorem of_setup (h : request.rtspMethod = some .setup) :
    RequestEffect config request state session (session.setup config request state) := by
  have hkept : ¬ LosesAudio session request := LosesAudio.not_of_method h (by decide)
  rw [RtspSession.setup]
  cases hkey : (keyFromRtspUri request.uri).or session.key with
  | none => exact refuse _ hkept
  | some key =>
    dsimp only
    split
    · exact refuse _ hkept
    next hvalid =>
    split
    · exact refuse _ hkept
    next htcp =>
    have hrequest : SetupRequest session.key request key
        ((request.header "transport".toList).getD []) :=
      ⟨h, hkey, by simpa using hvalid, rfl, by simpa using htcp⟩
    cases hguard : session.guard with
    | none =>
      obtain ⟨map, channel, hsubscribed, -⟩ | hrefused :=
        ChannelMap.subscribeListener_cases config.limits state.server.map key
      · simp only [hsubscribed]
        exact setup hrequest (.now hguard hsubscribed)
      · simp only [hrefused]
        exact refuse _ hkept
    | some guard =>
      dsimp only
      split
      next hsame => exact setup hrequest (.before hguard hsame)
      next => exact refuse _ hkept

theorem of_startMedia {guard : ListenerGuard} {key : Text} (h : request.rtspMethod = some .play)
    (hready : ReadyToStart session guard key) :
    RequestEffect config request state session
      (session.startMedia request guard.channel key state) := by
  rw [RtspSession.startMedia]
  cases haudio : session.takeAudio with
  | none =>
    rw [RtspSession.takeAudio_eq_none] at haudio
    exact refuse _ (fun hlost => hlost.audioRx haudio.2)
  | some taken =>
    obtain ⟨audio, session₁⟩ := taken
    dsimp only
    cases hvideo : session₁.takeVideo guard.channel with
    | some taken =>
      obtain ⟨video, session₂⟩ := taken
      exact start h hready haudio hvideo
    | none =>
      -- the audio receiver is gone if there was one to take
      rw [RtspSession.takeVideo_eq_none] at hvideo
      rw [RtspSession.takeAudio] at haudio
      split at haudio
      next hsetup =>
        simp only [Option.map_eq_some_iff, Prod.mk.injEq] at haudio
        obtain ⟨rx, hrx, -, rfl⟩ := haudio
        exact lostAudio ⟨h, ⟨guard, key, hready⟩, hsetup, by simp [hrx], hvideo.1, hvideo.2⟩
      next hsetup =>
        simp only [Option.some.injEq, Prod.mk.injEq] at haudio
        obtain ⟨-, rfl⟩ := haudio
        exact refuse _ (fun hlost => hsetup hlost.audioSetup)

theorem of_play (h : request.rtspMethod = some .play) :
    RequestEffect config request state session (session.play request state) := by
  rw [RtspSession.play]
  split
  next hnone =>
    refine refuse _ ?_
    intro hlost
    simp [hlost.audioSetup] at hnone
  next hsome =>
    split
    next hguard =>
      refine refuse _ ?_
      intro hlost
      obtain ⟨guard, key, hready⟩ := hlost.ready
      simp [hready.guard] at hguard
    next hkey =>
      refine refuse _ ?_
      intro hlost
      obtain ⟨guard, key, hready⟩ := hlost.ready
      simp [hready.key] at hkey
    next guard key hguard hkey hidle =>
      refine of_startMedia h ⟨?_, hguard, hkey, hidle⟩
      cases haudio : session.audioSetup <;> simp_all
    next guard key task _ _ htask => exact resume h htask

end RequestEffect

/-- Every request has one of the effects on the session that has noted its agent. -/
theorem effect_of_request (config : RtspConfig) (request : RtspRequest) (state : RtspServer θ ι)
    (session : RtspSession ι) :
    RequestEffect config request state (session.noteAndroidxMedia3 request)
      (handleRtspRequest config request state session) := by
  rw [handleRtspRequest]
  cases hmethod : request.rtspMethod with
  | none =>
    refine .refuse _ ?_
    intro hlost
    simp [hlost.method] at hmethod
  | some method =>
    cases method with
    | options =>
      exact .quiet trivial (fun hrefused => absurd hrefused (RtspReply.not_isRefusal rfl))
    | describe => exact .of_describe hmethod
    | setup => exact .of_setup hmethod
    | play => exact .of_play hmethod
    | getParameter =>
      exact .quiet trivial (fun hrefused => absurd hrefused (RtspReply.not_isRefusal rfl))
    | teardown =>
      exact .quiet trivial (fun hrefused => absurd hrefused (RtspReply.not_isRefusal rfl))

/-! ## Runs of a connection -/

namespace Connection

open Concurrency

variable {config : RtspConfig} {state : RtspServer θ ι} {ip : Option ι} {c c' : Connection θ ι}

/-- The requests of a run meet a condition on the session that they find. -/
def Allows (ok : RtspSession ι → RtspRequest → Prop) :
    Connection θ ι → ConnectionEvent θ ι → Prop
  | c, .request request => ∀ session, c.session = some session → ok session request
  | _, _ => True

@[simp] theorem answer_log (c : Connection θ ι) (request : RtspRequest)
    (outcome : RtspOutcome θ ι) :
    (c.answer request outcome).log = (request, outcome.reply) :: c.log := by
  rw [answer]
  split <;> rfl

/-- An answer leaves the session of the outcome, or none. -/
theorem session_of_answer {request : RtspRequest} {outcome : RtspOutcome θ ι}
    {session : RtspSession ι} (h : (c.answer request outcome).session = some session) :
    session = outcome.session := by
  rw [answer] at h
  split at h
  · cases h
  · exact (Option.some.inj h).symm

/-- What holds of a fresh session and is kept by every effect of an allowed request holds
of the session in every state of a run. -/
theorem run_invariant {ok : RtspSession ι → RtspRequest → Prop}
    {P : RtspSession ι → List (RtspRequest × RtspReply) → Prop}
    (h : (system config state ip).Run (Allows ok) (start state ip) c)
    (hstart : P { listenerIpGuard := ip } [])
    (hnote : ∀ session log androidxMedia3, P session log → P { session with androidxMedia3 } log)
    (hok : ∀ session request androidxMedia3, ok session request →
      ok { session with androidxMedia3 } request)
    (heffect : ∀ state session log request outcome, P session log → ok session request →
      RequestEffect config request (state : RtspServer θ ι) session outcome →
      P outcome.session ((request, outcome.reply) :: log))
    {session : RtspSession ι} (hsession : c.session = some session) : P session c.log := by
  have invariant : ∀ session, c.session = some session → P session c.log := by
    refine h.invariant (P := fun c => ∀ session, c.session = some session → P session c.log) ?_ ?_
    · intro session hsession
      rw [← Option.some.inj hsession]
      exact hstart
    · intro c event c' hc hallowed hstep session hsession
      cases event with
      | environment state =>
        cases hstep
        exact hc session hsession
      | disconnect =>
        obtain ⟨before, -, rfl⟩ := Option.map_eq_some_iff.mp hstep
        cases hsession
      | request request =>
        obtain ⟨before, hbefore, rfl⟩ := Option.map_eq_some_iff.mp hstep
        obtain ⟨androidxMedia3, hnoted⟩ := before.noteAndroidxMedia3_eq request
        have heff := effect_of_request config request c.state before
        rw [hnoted] at heff
        rw [session_of_answer hsession, answer_log]
        refine heffect c.state _ c.log request _ ?_ ?_ heff
        · exact hnote before c.log androidxMedia3 (hc before hbefore)
        · exact hok before request androidxMedia3 (hallowed before hbefore)
  exact invariant session hsession

end Connection

end VRCStreamer
