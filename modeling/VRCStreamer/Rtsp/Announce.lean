import VRCStreamer.Listener.Accounting
import VRCStreamer.Listener.RtpTime
import VRCStreamer.Rtsp.Promise

/-!
# The RTP state that PLAY announces

An answer to PLAY carries the sequence number of each track from the session. The media task
starts from a copy of the same state, and later requests change neither.
-/

namespace VRCStreamer

open Concurrency

variable {θ ι ρ : Type*}

def RtspTrackStart.handOver (start : RtspTrackStart) (rx : ρ) : TrackStart ρ :=
  ⟨rx, start.channel, start.rtp⟩

/-- The task that PLAY spawns, with receivers for the channels of its tracks. -/
def RtspMediaTask.run (task : RtspMediaTask) (receivers : RtspTrack → ρ)
    (playStartedAt resyncEpoch : Nat) (now : Nat → Nat) : MediaRun ρ :=
  .new (task.audio.map (fun start => start.handOver (receivers .audio)))
    (task.video.map (fun start => start.handOver (receivers .video))) playStartedAt resyncEpoch now

/-- The tracks of the media task start from the state that an answer to PLAY has announced. -/
structure Announces (session : RtspSession ι) (log : List (RtspRequest × RtspReply)) : Prop where
  audioRtp : session.audioRtp = {}
  videoRtp : session.videoRtp = {}
  entries : ∀ request uri entries id, (request, .play uri entries id) ∈ log →
    ∀ entry ∈ entries, entry.rtp = {}
  started : ∀ task, session.mediaRtpTask = some task →
    ∃ request uri entries id, (request, .play uri entries id) ∈ log ∧
      ∀ track start, task.track track = some start →
        start.rtp = {} ∧ ∃ entry ∈ entries, entry.track = track

section

variable {config : RtspConfig} {request : RtspRequest} {state state' : RtspServer θ ι}
variable {session session' : RtspSession ι} {outcome : RtspOutcome θ ι}
variable {log : List (RtspRequest × RtspReply)}

theorem RtspSession.takeAudio_rtp {audio : Option RtspTrackStart}
    (h : session.takeAudio = some (audio, session')) :
    ∀ start ∈ audio, start.rtp = session.audioRtp := by
  rw [takeAudio] at h
  split at h
  next =>
    obtain ⟨rx, -, hstart⟩ := Option.map_eq_some_iff.mp h
    obtain ⟨rfl, -⟩ := Prod.mk.inj hstart
    rintro start ⟨⟩
    rfl
  next =>
    obtain ⟨rfl, -⟩ := Prod.mk.inj (Option.some.inj h)
    simp

theorem RtspSession.takeVideo_rtp {video : Option RtspTrackStart} {stream : ChannelId}
    (h : session.takeVideo stream = some (video, session')) :
    ∀ start ∈ video, start.rtp = session.videoRtp := by
  rw [takeVideo] at h
  split at h
  next =>
    obtain ⟨rx, -, hstart⟩ := Option.map_eq_some_iff.mp h
    obtain ⟨rfl, -⟩ := Prod.mk.inj hstart
    rintro start ⟨⟩
    rfl
  next =>
    obtain ⟨rfl, -⟩ := Prod.mk.inj (Option.some.inj h)
    simp

namespace Announces

theorem fresh (ip : Option ι) : Announces ({ listenerIpGuard := ip } : RtspSession ι) [] where
  audioRtp := rfl
  videoRtp := rfl
  entries := by simp
  started := by simp

theorem congr (h : Announces session log) (haudio : session'.audioRtp = session.audioRtp)
    (hvideo : session'.videoRtp = session.videoRtp)
    (htask : session'.mediaRtpTask = session.mediaRtpTask) : Announces session' log where
  audioRtp := haudio.trans h.audioRtp
  videoRtp := hvideo.trans h.videoRtp
  entries := h.entries
  started := by simpa only [htask] using h.started

theorem rtp_of_mem_rtpInfo (h : Announces session log) {entry : RtpInfo}
    (hentry : entry ∈ session.rtpInfo) : entry.rtp = {} := by
  rw [RtspSession.rtpInfo] at hentry
  obtain hentry | hentry := List.mem_append.mp hentry
  · split at hentry
    next =>
      obtain rfl := List.mem_singleton.mp hentry
      exact h.videoRtp
    next => cases hentry
  · split at hentry
    next =>
      obtain rfl := List.mem_singleton.mp hentry
      exact h.audioRtp
    next => cases hentry

/-- An answer to PLAY announces the state of the session; other answers announce nothing. -/
theorem log_cons {reply : RtspReply} (h : Announces session log)
    (hreply : ∀ uri entries id, reply = .play uri entries id → entries = session.rtpInfo) :
    Announces session ((request, reply) :: log) where
  audioRtp := h.audioRtp
  videoRtp := h.videoRtp
  entries := by
    intro request' uri entries id hmem entry hentry
    obtain heq | hmem := List.mem_cons.mp hmem
    · rw [hreply uri entries id (Prod.mk.inj heq).2.symm] at hentry
      exact h.rtp_of_mem_rtpInfo hentry
    · exact h.entries request' uri entries id hmem entry hentry
  started := by
    intro task htask
    obtain ⟨request', uri, entries, id, hmem, htracks⟩ := h.started task htask
    exact ⟨request', uri, entries, id, List.mem_cons_of_mem _ hmem, htracks⟩

/-- The tracks that are set up are the ones that start, and all of them are announced. -/
theorem start {guard : ListenerGuard} {key : Text} {audio video : Option RtspTrackStart}
    {session₁ session₂ : RtspSession ι} {suppress : Bool} (h : Announces session log)
    (haudio : session.takeAudio = some (audio, session₁))
    (hvideo : session₁.takeVideo guard.channel = some (video, session₂)) (uri id : Text) :
    Announces
      { session₂ with mediaRtpTask := some ⟨guard.channel, key, audio, video, suppress⟩ }
      ((request, .play uri session₂.rtpInfo id) :: log) := by
  have haudioRtp := RtspSession.takeAudio_rtp haudio
  have hvideoRtp := RtspSession.takeVideo_rtp hvideo
  obtain ⟨⟨audioRx, -, rfl⟩, haudioSome, -⟩ := RtspSession.takeAudio_eq_some haudio
  obtain ⟨⟨videoRx, -, rfl⟩, hvideoSome, -⟩ := RtspSession.takeVideo_eq_some hvideo
  have hentries : Announces ({ session with audioRx, videoRx } : RtspSession ι)
      ((request, .play uri session.rtpInfo id) :: log) := by
    refine log_cons (h.congr rfl rfl rfl) ?_
    intro uri' entries id' hreply
    exact (RtspReply.play.inj hreply).2.1.symm
  refine ⟨h.audioRtp, h.videoRtp, hentries.entries, ?_⟩
  rintro task ⟨⟩
  refine ⟨request, uri, session.rtpInfo, id, List.mem_cons_self, ?_⟩
  intro track start hstart
  cases track with
  | audio =>
    refine ⟨(haudioRtp start hstart).trans h.audioRtp, mem_rtpInfo.mpr ?_⟩
    exact haudioSome.symm.trans (Option.isSome_of_mem hstart)
  | video =>
    refine ⟨(hvideoRtp start hstart).trans h.videoRtp, mem_rtpInfo.mpr ?_⟩
    exact hvideoSome.symm.trans (Option.isSome_of_mem hstart)

/-- Every request keeps what was announced. -/
theorem effect (h : Announces session log)
    (heffect : RequestEffect config request state session outcome) :
    Announces outcome.session ((request, outcome.reply) :: log) := by
  cases heffect with
  | quiet hreply _ =>
    refine h.log_cons ?_
    rintro uri entries id rfl
    exact hreply.elim
  | describe _ _ _ =>
    refine log_cons (h.congr rfl rfl rfl) ?_
    rintro uri entries id ⟨⟩
  | @setup key transport state' session' hrequest hjoined =>
    have hjoinedSession : Announces session' log := by
      cases hjoined with
      | before => exact h
      | now => exact h.congr rfl rfl rfl
    obtain ⟨id, hid⟩ := session'.assignId_eq state'
    simp only [RtspSession.acceptSetup, hid]
    refine log_cons ?_ ?_
    · apply hjoinedSession.congr <;>
      · generalize rtspTrackFromUri _ _ = track
        cases track <;> rfl
    · rintro uri entries id ⟨⟩
  | start _ _ haudio hvideo => exact h.start haudio hvideo request.uri _
  | resume _ _ =>
    refine h.log_cons ?_
    intro uri entries id hreply
    exact (RtspReply.play.inj hreply).2.1.symm
  | lostAudio _ =>
    refine log_cons (h.congr rfl rfl rfl) ?_
    rintro uri entries id ⟨⟩

/-- The media task starts with the counts of its tracks. -/
theorem balanced {task : RtspMediaTask} (h : Announces session log)
    (htask : session.mediaRtpTask = some task) (receivers : RtspTrack → ρ)
    (playStartedAt resyncEpoch : Nat) (now : Nat → Nat) :
    MediaLog.Balanced (fun _ => ({} : RtpState).sequence)
      ({ run := task.run receivers playStartedAt resyncEpoch now } : MediaLog ρ) := by
  obtain ⟨_, _, _, _, _, htracks⟩ := h.started task htask
  apply MediaLog.balanced_start
  · intro start hstart
    obtain ⟨handed, hhanded, rfl⟩ := Option.map_eq_some_iff.mp hstart
    exact (htracks .audio handed hhanded).1
  · intro start hstart
    obtain ⟨handed, hhanded, rfl⟩ := Option.map_eq_some_iff.mp hstart
    exact (htracks .video handed hhanded).1

end Announces

end

/-- The invariant holds in every run of a connection. -/
theorem announces_of_reachable {config : RtspConfig} {state : RtspServer θ ι} {ip : Option ι}
    {c : Connection θ ι} {session : RtspSession ι}
    (h : (Connection.system config state ip).Reachable c) (hsession : c.session = some session) :
    Announces session c.log := by
  have hrun : (Connection.system config state ip).Run (Connection.Allows (fun _ _ => True))
      (Connection.start state ip) c := by
    refine h.mono ?_
    intro c event _
    cases event <;> simp [Connection.Allows]
  refine Connection.run_invariant hrun (Announces.fresh ip) ?_ ?_ ?_ hsession
  · exact fun _ _ _ hs => hs.congr rfl rfl rfl
  · exact fun _ _ _ hok => hok
  · exact fun _ _ _ _ _ hs _ heffect => hs.effect heffect

/-- In every run of the media task of a session, its client reads packets and reports whose
accounts agree, from the sequence numbers on that an answer to PLAY has announced. -/
theorem media_accounts {config : RtspConfig} {state : RtspServer θ ι} {ip : Option ι}
    {c : Connection θ ι} {session : RtspSession ι} {task : RtspMediaTask}
    (h : (Connection.system config state ip).Reachable c) (hsession : c.session = some session)
    (htask : session.mediaRtpTask = some task) (taskConfig : MediaTaskConfig)
    (receivers : RtspTrack → ρ) (playStartedAt resyncEpoch : Nat) (now : Nat → Nat)
    {log : MediaLog ρ}
    (hlog : (MediaLog.system taskConfig
      (task.run receivers playStartedAt resyncEpoch now)).Reachable log) :
    receivedFrames log.run.written.flatten = some (log.frames.map MediaFrame.received) ∧
      (∀ track, (task.track track).isSome = true →
        ∃ request uri entries id entry, (request, .play uri entries id) ∈ c.log ∧
          entry ∈ entries ∧ entry.track = track) ∧
      ∀ request uri entries id entry, (request, .play uri entries id) ∈ c.log → entry ∈ entries →
        Accounted entry.rtp.sequence entry.track.clockRate (log.trackFrames entry.track) := by
  have hannounces := announces_of_reachable h hsession
  obtain ⟨request, uri, entries, id, hplay, htracks⟩ := hannounces.started task htask
  have hbalanced :=
    (hannounces.balanced htask receivers playStartedAt resyncEpoch now).reachable hlog
  refine ⟨hbalanced.carries.received, ?_, ?_⟩
  · intro track hsome
    obtain ⟨start, htrack⟩ := Option.isSome_iff_exists.mp hsome
    obtain ⟨-, entry, hentry, rfl⟩ := htracks track start htrack
    exact ⟨request, uri, entries, id, entry, hplay, hentry, rfl⟩
  · intro request' uri' entries' id' entry hmem hentry
    rw [hannounces.entries request' uri' entries' id' hmem entry hentry]
    exact hbalanced.accounted entry.track

/-- The task that a listener of both tracks starts. -/
def playedTask : RtspMediaTask := ⟨0, List.replicate 32 'a', some ⟨0, 2, {}⟩, some ⟨0, 0, {}⟩, false⟩

/-- Frames of both tracks, and a report between two frames of the audio. -/
def reportedRounds : List Round :=
  [{ now := 1000000000, event := audioFrame 0 }, { now := 1020000000, event := keyframe 1800 },
    { now := 6000000000, event := .audio .report },
    { now := 6020000000, event := audioFrame 193024 }]

theorem media_accounts_played :
    ∃ (c : Connection Nat Nat) (log : MediaLog Unit), Connection.small.Reachable c ∧
      c.session.bind RtspSession.mediaRtpTask = some playedTask ∧ log.frames.length = 6 ∧
      receivedFrames log.run.written.flatten = some (log.frames.map MediaFrame.received) ∧
      (∃ sequence, Accounted sequence AAC_SAMPLE_RATE (log.trackFrames .audio)) := by
  have hplayed : (Connection.small.exec Connection.small.start playingEvents).map (fun c =>
      c.session.map RtspSession.mediaRtpTask) = some (some (some playedTask)) := by
    decide +kernel
  have hframes : ((MediaLog.system sampleConfig (playedTask.run (fun _ => ()) 0 0 (fun _ => 0))).exec
      { run := playedTask.run (fun _ => ()) 0 0 (fun _ => 0) } (roundLabels reportedRounds)).map
      (fun log => log.frames.length) = some 6 := by
    decide +kernel
  obtain ⟨c, hexec, hstate⟩ := Option.map_eq_some_iff.mp hplayed
  obtain ⟨session, hsession, htask⟩ := Option.map_eq_some_iff.mp hstate
  obtain ⟨log, hlog, hlength⟩ := Option.map_eq_some_iff.mp hframes
  have hreachable : Connection.small.Reachable c := System.reachable_of_exec hexec
  obtain ⟨hreceived, hannounced, haccounted⟩ := media_accounts hreachable hsession htask
    sampleConfig (fun _ => ()) 0 0 (fun _ => 0) (System.reachable_of_exec hlog)
  obtain ⟨request, uri, entries, id, entry, hplay, hentry, haudio⟩ := hannounced .audio rfl
  have hchecked := haccounted request uri entries id entry hplay hentry
  rw [haudio] at hchecked
  refine ⟨c, log, hreachable, ?_, hlength, hreceived, entry.rtp.sequence, hchecked⟩
  rw [hsession]
  exact htask

end VRCStreamer
