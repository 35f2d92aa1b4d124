import VRCStreamer.Rtsp.Effect

/-!
# The stream of a session

A session subscribes once, in its first accepted SETUP, but DESCRIBE writes its key every
time. As long as no DESCRIBE names another stream after that SETUP, the session's key is
the key of its guard, every accepted SETUP names that stream, and the media task streams
the guard's channel.
-/

namespace VRCStreamer

open Concurrency

variable {θ ι : Type*}

/-- The session and its history belong to the stream of the guard. `ListenerGuard::key`
is the key that the guard's channel was reserved under. -/
structure BoundToGuard (session : RtspSession ι) (log : List (RtspRequest × RtspReply)) : Prop where
  key : ∀ guard, session.guard = some guard → session.key = some guard.key
  setups : ∀ request track channel id, (request, .setup track channel id) ∈ log →
    ∃ guard, session.guard = some guard ∧
      ∀ key, keyFromRtspUri request.uri = some key → key = guard.key
  receivers : ∀ rx, session.audioRx = some rx ∨ session.videoRx = some rx →
    ∃ guard, session.guard = some guard ∧ rx = guard.channel
  media : ∀ task, session.mediaRtpTask = some task →
    ∃ guard, session.guard = some guard ∧ task.key = guard.key ∧ task.stream = guard.channel ∧
      ∀ track start, task.track track = some start → start.rx = guard.channel

/-- After the first accepted SETUP, DESCRIBE does not name another stream. -/
def DescribesOwnStream (session : RtspSession ι) (request : RtspRequest) : Prop :=
  request.rtspMethod = some .describe → ∀ guard key, session.guard = some guard →
    keyFromRtspUri request.uri = some key → validHash key = true → key = guard.key

namespace BoundToGuard

variable {config : RtspConfig} {request : RtspRequest} {state state' : RtspServer θ ι}
variable {session session' : RtspSession ι} {outcome : RtspOutcome θ ι}
variable {log : List (RtspRequest × RtspReply)} {key transport : Text}

theorem fresh (ip : Option ι) : BoundToGuard ({ listenerIpGuard := ip } : RtspSession ι) [] where
  key := by simp
  setups := by simp
  receivers := by simp
  media := by simp

/-- An answer that is not to an accepted SETUP adds nothing to keep. -/
theorem log_cons {reply : RtspReply} (h : BoundToGuard session log)
    (hreply : ∀ track channel id, reply ≠ .setup track channel id) :
    BoundToGuard session ((request, reply) :: log) where
  key := h.key
  setups := by
    intro request' track channel id hmem
    obtain heq | hmem := List.mem_cons.mp hmem
    · rw [Prod.mk.injEq] at heq
      exact absurd heq.2.symm (hreply track channel id)
    · exact h.setups request' track channel id hmem
  receivers := h.receivers
  media := h.media

/-- A session that has joined a stream is bound to it, and its guard has the key. -/
theorem joined (h : BoundToGuard session log)
    (hjoined : Joined config key state session state' session') :
    ∃ guard, session'.guard = some guard ∧ guard.key = key ∧
      BoundToGuard { session' with key := some key } log := by
  cases hjoined with
  | @before guard hguard hkey =>
    have hsame : guard.key = key := by
      have hbound := h.key guard hguard
      rw [hkey, Option.some.injEq] at hbound
      exact hbound.symm
    refine ⟨guard, hguard, hsame, ?_, h.setups, h.receivers, h.media⟩
    intro guard' hguard'
    rw [← h.key guard' hguard', hkey]
  | @now map channel hguard _ =>
    -- nothing of the session or its history belongs to a stream before the guard exists
    refine ⟨⟨key, channel⟩, rfl, rfl, ?_, ?_, ?_, ?_⟩
    · rintro guard ⟨⟩
      rfl
    · intro request' track channel' id hmem
      obtain ⟨guard, hsome, -⟩ := h.setups request' track channel' id hmem
      simp [hguard] at hsome
    · intro rx hrx
      refine ⟨⟨key, channel⟩, rfl, ?_⟩
      obtain haudio | hvideo := hrx
      · exact (Option.some.inj haudio).symm
      · simp only [RtspSession.subscribed] at hvideo
        split at hvideo
        · exact (Option.some.inj hvideo).symm
        · obtain ⟨guard, hsome, -⟩ := h.receivers rx (.inr hvideo)
          simp [hguard] at hsome
    · intro task htask
      obtain ⟨guard, hsome, -⟩ := h.media task htask
      simp [hguard] at hsome

/-- The rest of SETUP keeps the guard, and the request names the guard's stream. -/
theorem acceptSetup (hnamed : ∀ key', keyFromRtspUri request.uri = some key' → key' = key)
    {guard : ListenerGuard} (hguard : session.guard = some guard) (hkey : guard.key = key)
    (h : BoundToGuard { session with key := some key } log) :
    BoundToGuard (session.acceptSetup request key transport state).session
      ((request, (session.acceptSetup request key transport state).reply) :: log) := by
  obtain ⟨id, hid⟩ := session.assignId_eq state
  simp only [RtspSession.acceptSetup, hid]
  refine ⟨?_, ?_, ?_, ?_⟩
  · simpa using h.key
  · intro request' track channel id' hmem
    refine ⟨guard, by simpa using hguard, ?_⟩
    obtain heq | hmem := List.mem_cons.mp hmem
    · rw [Prod.mk.injEq] at heq
      rw [heq.1, hkey]
      exact hnamed
    · obtain ⟨guard', hguard', hkeys⟩ := h.setups request' track channel id' hmem
      rw [← Option.some.inj (hguard.symm.trans hguard')] at hkeys
      exact hkeys
  · simpa using h.receivers
  · simpa using h.media

/-- The media task streams the channel of the guard under the guard's key. -/
theorem start {guard : ListenerGuard} {audio video : Option RtspTrackStart}
    {session₁ session₂ : RtspSession ι} (h : BoundToGuard session log)
    (hready : ReadyToStart session guard key) (haudio : session.takeAudio = some (audio, session₁))
    (hvideo : session₁.takeVideo guard.channel = some (video, session₂)) (suppress : Bool) :
    BoundToGuard { session₂ with mediaRtpTask := some ⟨guard.channel, key, audio, video, suppress⟩ }
      log := by
  obtain ⟨⟨audioRx, haudioRx, rfl⟩, -, haudioStart⟩ := RtspSession.takeAudio_eq_some haudio
  obtain ⟨⟨videoRx, hvideoRx, rfl⟩, -, hvideoStart⟩ := RtspSession.takeVideo_eq_some hvideo
  have hkey : key = guard.key := by
    have hbound := h.key guard hready.guard
    rwa [hready.key, Option.some.injEq] at hbound
  have receiver : ∀ rx, session.audioRx = some rx ∨ session.videoRx = some rx →
      rx = guard.channel := by
    intro rx hrx
    obtain ⟨guard', hguard', hsame⟩ := h.receivers rx hrx
    rw [hsame, Option.some.inj (hready.guard.symm.trans hguard')]
  refine ⟨h.key, h.setups, ?_, ?_⟩
  · intro rx hrx
    exact ⟨guard, hready.guard, receiver rx (hrx.imp (haudioRx rx) (hvideoRx rx))⟩
  · rintro task ⟨⟩
    refine ⟨guard, hready.guard, hkey, rfl, ?_⟩
    intro track start hstart
    cases track with
    | audio => exact receiver start.rx (.inl (haudioStart start hstart).1)
    | video => exact (hvideoStart start hstart).1

/-- An allowed request keeps the session bound. -/
theorem effect (h : BoundToGuard session log) (hok : DescribesOwnStream session request)
    (heffect : RequestEffect config request state session outcome) :
    BoundToGuard outcome.session ((request, outcome.reply) :: log) := by
  cases heffect with
  | quiet hreply _ =>
    refine h.log_cons ?_
    rintro track channel id rfl
    exact hreply
  | @describe key contentBase sdp videoOmitted hmethod hkey hvalid =>
    have hdescribed : BoundToGuard { session with key := some key, videoOmitted } log := by
      refine ⟨?_, h.setups, h.receivers, h.media⟩
      intro guard hguard
      rw [hok hmethod guard key hguard hkey hvalid]
    exact hdescribed.log_cons (by simp)
  | setup hrequest hjoined =>
    obtain ⟨guard, hguard, hkey, hbound⟩ := h.joined hjoined
    refine acceptSetup ?_ hguard hkey hbound
    intro key' hkey'
    have hnamed := hrequest.named
    rw [hkey', Option.some_or, Option.some.injEq] at hnamed
    exact hnamed
  | start hmethod hready haudio hvideo =>
    exact (h.start hready haudio hvideo _).log_cons (by simp [RtspSession.playing])
  | resume hmethod htask => exact h.log_cons (by simp [RtspSession.playing])
  | lostAudio hlost =>
    have hlosing : BoundToGuard { session with audioRx := none } log := by
      refine ⟨h.key, h.setups, ?_, h.media⟩
      intro rx hrx
      exact h.receivers rx (hrx.imp_left (by simp))
    exact hlosing.log_cons (by simp)

/-- A request keeps the session bound exactly if it is allowed. -/
theorem handle_iff (h : BoundToGuard session log) :
    BoundToGuard (handleRtspRequest config request state session).session
        ((request, (handleRtspRequest config request state session).reply) :: log) ↔
      DescribesOwnStream session request := by
  obtain ⟨androidxMedia3, hnoted⟩ := session.noteAndroidxMedia3_eq request
  constructor
  · intro hbound hmethod guard key hguard hkey hvalid
    have hdescribed : (handleRtspRequest config request state session).session.guard = some guard ∧
        (handleRtspRequest config request state session).session.key = some key := by
      simp [handleRtspRequest, hmethod, hnoted, RtspSession.describe, hkey, hvalid, hguard]
    have hown := hbound.key guard hdescribed.1
    rw [hdescribed.2, Option.some.injEq] at hown
    exact hown
  · intro hok
    have heffect := effect_of_request config request state session
    rw [hnoted] at heffect
    have hbound : BoundToGuard { session with androidxMedia3 } log :=
      ⟨h.key, h.setups, h.receivers, h.media⟩
    exact hbound.effect hok heffect

end BoundToGuard

/-- In every run in which no DESCRIBE names another stream than the guard's, an open
session is bound to the stream that it subscribed to. -/
theorem session_bound_to_guard {config : RtspConfig} {state : RtspServer θ ι} {ip : Option ι}
    {c : Connection θ ι} {session : RtspSession ι}
    (h : (Connection.system config state ip).Run (Connection.Allows DescribesOwnStream)
      (Connection.start state ip) c)
    (hsession : c.session = some session) : BoundToGuard session c.log := by
  refine Connection.run_invariant h (BoundToGuard.fresh ip) ?_ ?_ ?_ hsession
  · intro session log androidxMedia3 hb
    exact ⟨hb.key, hb.setups, hb.receivers, hb.media⟩
  · exact fun _ _ _ hok => hok
  · exact fun _ _ _ _ _ hb hok heffect => hb.effect hok heffect

open Connection RtspRequest

/-- A listener sets up the audio of a stream and plays it. -/
theorem session_bound_to_guard_played :
    ∃ c session guard task, small.Run (Allows DescribesOwnStream) small.start c ∧
      c.session = some session ∧ session.guard = some guard ∧
      session.mediaRtpTask = some task ∧ session.key = some guard.key ∧
      task.stream = guard.channel := by
  have hsome : (small.exec small.start
      [.request (.sample .setup 'a' 1 (interleaved 2)), .request (.sample .play 'a' 1 [])]).map
      (fun c => c.session.map (fun session => (session.guard, session.mediaRtpTask))) =
      some (some (some ⟨List.replicate 32 'a', 0⟩,
        some ⟨0, List.replicate 32 'a', some ⟨0, 2, {}⟩, none, false⟩)) := by
    decide +kernel
  obtain ⟨c, hexec, hstate⟩ := Option.map_eq_some_iff.mp hsome
  obtain ⟨session, hsession, hfields⟩ := Option.map_eq_some_iff.mp hstate
  obtain ⟨hguard, htask⟩ := Prod.mk.inj hfields
  have hrun : small.Run (Allows DescribesOwnStream) small.start c := by
    refine System.run_of_exec (P := fun _ => True) hexec trivial ?_
    intro s event s' _ hevent _
    refine ⟨?_, trivial⟩
    simp only [List.mem_cons, List.not_mem_nil, or_false] at hevent
    obtain rfl | rfl := hevent
    · intro session _ hmethod
      exact absurd hmethod (by decide +kernel)
    · intro session _ hmethod
      exact absurd hmethod (by decide +kernel)
  have hbound := session_bound_to_guard hrun hsession
  obtain ⟨guard, hguard', -, hstream, -⟩ := hbound.media _ htask
  exact ⟨c, session, guard, _, hrun, hsession, hguard', htask, hbound.key guard hguard', hstream⟩

/-- A listener sets up stream `a`, describes stream `b`, sets up `b` and plays it. -/
def unbindingEvents : List (ConnectionEvent Nat Nat) :=
  [.request (.sample .setup 'a' 1 (interleaved 2)), .request (.sample .describe 'b' 0 []),
    .request (.sample .setup 'b' 1 (interleaved 2)), .request (.sample .play 'b' 1 [])]

/-- All four requests are answered 200 OK, but the media task streams the channel of `a`. -/
theorem describe_unbinds_session :
    ∃ c session task, small.Reachable c ∧ c.session = some session ∧
      session.key = some (List.replicate 32 'b') ∧
      session.guard = some ⟨List.replicate 32 'a', 0⟩ ∧
      session.mediaRtpTask = some task ∧ task.stream = 0 ∧
      c.state.server.map.channels (List.replicate 32 'a') = some 0 ∧
      c.log.map (fun entry => (keyFromRtspUri entry.1.uri, entry.1.rtspMethod, entry.2.status)) =
        [(some (List.replicate 32 'b'), some .play, .ok),
          (some (List.replicate 32 'b'), some .setup, .ok),
          (some (List.replicate 32 'b'), some .describe, .ok),
          (some (List.replicate 32 'a'), some .setup, .ok)] := by
  have hstate : (small.exec small.start unbindingEvents).map (fun c =>
      c.session.map (fun session => (session.key, session.guard, session.mediaRtpTask))) =
      some (some (some (List.replicate 32 'b'), some ⟨List.replicate 32 'a', 0⟩,
        some ⟨0, List.replicate 32 'b', some ⟨0, 2, {}⟩, none, false⟩)) := by
    decide +kernel
  have hmapped : (small.exec small.start unbindingEvents).map (fun c =>
      c.state.server.map.channels (List.replicate 32 'a')) = some (some 0) := by
    decide +kernel
  have hlog : (small.exec small.start unbindingEvents).map (fun c => c.log.map (fun entry =>
      (keyFromRtspUri entry.1.uri, entry.1.rtspMethod, entry.2.status))) =
      some [(some (List.replicate 32 'b'), some .play, .ok),
        (some (List.replicate 32 'b'), some .setup, .ok),
        (some (List.replicate 32 'b'), some .describe, .ok),
        (some (List.replicate 32 'a'), some .setup, .ok)] := by
    decide +kernel
  obtain ⟨c, hexec, hstate⟩ := Option.map_eq_some_iff.mp hstate
  rw [hexec, Option.map_some, Option.some.injEq] at hmapped hlog
  obtain ⟨session, hsession, hfields⟩ := Option.map_eq_some_iff.mp hstate
  obtain ⟨hkey, hfields⟩ := Prod.mk.inj hfields
  obtain ⟨hguard, htask⟩ := Prod.mk.inj hfields
  exact ⟨c, session, _, System.reachable_of_exec hexec, hsession, hkey, hguard, htask, rfl,
    hmapped, hlog⟩

end VRCStreamer
