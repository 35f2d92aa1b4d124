import VRCStreamer.Rtsp.Effect
import VRCStreamer.Rtsp.Interleaved

/-!
# What SETUP and PLAY promise

An answer to SETUP names the channels of a track, an answer to PLAY lists tracks. The
media task copies the channels when it starts, while later requests keep changing the
session. The history of a connection says what its client was told.
-/

namespace VRCStreamer

open Concurrency

variable {θ ι : Type*}

/-! ## What a client was told -/

/-- The channel that an answer to SETUP gives a track. -/
def RtspReply.setupOf (track : RtspTrack) : RtspReply → Option UInt8
  | .setup track' channel _ => if track' = track then some channel else none
  | _ => none

/-- The channel in the last answer to an accepted SETUP of a track. -/
def setupChannel (log : List (RtspRequest × RtspReply)) (track : RtspTrack) : Option UInt8 :=
  log.findSome? (fun entry => entry.2.setupOf track)

theorem setupChannel_cons_setup {log : List (RtspRequest × RtspReply)} {request : RtspRequest}
    {track other : RtspTrack} {channel : UInt8} {id : Text} :
    setupChannel ((request, .setup track channel id) :: log) other =
      if other = track then some channel else setupChannel log other := by
  by_cases hsame : other = track
  · simp [setupChannel, RtspReply.setupOf, hsame]
  · simp [setupChannel, RtspReply.setupOf, hsame, Ne.symm hsame]

theorem setupChannel_cons {log : List (RtspRequest × RtspReply)} {request : RtspRequest}
    {reply : RtspReply} (h : ∀ track, reply.setupOf track = none) (track : RtspTrack) :
    setupChannel ((request, reply) :: log) track = setupChannel log track := by
  rw [setupChannel, List.findSome?_cons, h]
  rfl

/-- The channel on which the track's `RtpPacketWriter` sends its reports. -/
def RtspTrackStart.reportChannel (start : RtspTrackStart) : Nat := rtcpChannel start.channel

/-- The channels of two tracks that are set up are four different bytes. -/
def DistinctChannels (log : List (RtspRequest × RtspReply)) : Prop :=
  ∀ audio video, setupChannel log .audio = some audio → setupChannel log .video = some video →
    [audio.toNat, rtcpChannel audio, video.toNat, rtcpChannel video].Nodup ∧
      rtcpChannel audio < 256 ∧ rtcpChannel video < 256

/-- The media task streams the tracks that the answers to PLAY list, each on the channels
of the last answer to its SETUP. -/
structure KeepsPromises (session : RtspSession ι) (log : List (RtspRequest × RtspReply)) :
    Prop where
  tracks : ∀ request uri entries id, (request, .play uri entries id) ∈ log →
    ∃ task, session.mediaRtpTask = some task ∧
      ∀ track, (∃ info ∈ entries, info.track = track) ↔ (task.track track).isSome = true
  channels : ∀ task track start, session.mediaRtpTask = some task →
    task.track track = some start →
    ∃ channel, setupChannel log track = some channel ∧
      start.channel = channel ∧ start.reportChannel = rtcpChannel channel

/-- While a media task runs, an accepted SETUP of a track that it streams asks for the
channel in use, and PLAY comes only when it streams every track that is set up. -/
structure KeepsPlaying (session : RtspSession ι) (request : RtspRequest) : Prop where
  setup : ∀ task key transport start, session.mediaRtpTask = some task →
    SetupRequest session.key request key transport → session.key = some key →
    task.track (rtspTrackFromUri request.uri session.videoAdvertised) = some start →
    Picks session (rtspTrackFromUri request.uri session.videoAdvertised)
      (parseInterleavedChannel transport) start.channel
  play : ∀ task track, session.mediaRtpTask = some task → request.rtspMethod = some .play →
    session.isSetup track = true → (task.track track).isSome = true

theorem mem_rtpInfo {session : RtspSession ι} {track : RtspTrack} :
    (∃ info ∈ session.rtpInfo, info.track = track) ↔ session.isSetup track = true := by
  rw [RtspSession.rtpInfo]
  cases track <;> cases hvideo : session.videoSetup <;> cases haudio : session.audioSetup <;>
    simp [RtspSession.isSetup, hvideo, haudio]

/-- Two pairs that do not meet are four different numbers. -/
theorem nodup_of_not_overlap {left right : UInt8} (hleft : left ≠ 255) (hright : right ≠ 255)
    (h : rtspChannelPairsOverlap left right = false) :
    [left.toNat, rtcpChannel left, right.toNat, rtcpChannel right].Nodup ∧
      rtcpChannel left < 256 ∧ rtcpChannel right < 256 := by
  have hleft' : left.toNat ≠ 255 := fun heq => hleft (UInt8.toNat_inj.mp heq)
  have hright' : right.toNat ≠ 255 := fun heq => hright (UInt8.toNat_inj.mp heq)
  have hleft'' := left.toNat_lt
  have hright'' := right.toNat_lt
  simp only [rtspChannelPairsOverlap, Bool.and_eq_false_iff, decide_eq_false_iff_not] at h
  simp only [rtcpChannel, List.nodup_cons, List.mem_cons, List.not_mem_nil, or_false,
    List.nodup_nil, and_true, not_false_eq_true]
  omega

section

variable {config : RtspConfig} {request : RtspRequest} {state state' : RtspServer θ ι}
variable {session session' : RtspSession ι} {outcome : RtspOutcome θ ι}
variable {log : List (RtspRequest × RtspReply)} {key transport : Text}

/-! ## The session and the answers to SETUP -/

/-- The session has the channels that its client was told, and they are available. -/
structure SetupInvariant (session : RtspSession ι) (log : List (RtspRequest × RtspReply)) :
    Prop where
  setups : ∀ track, setupChannel log track =
    if session.isSetup track then some (session.channel track) else none
  available : ∀ track, session.isSetup track = true →
    rtspInterleavedChannelAvailable session track (session.channel track) = true
  guarded : ∀ task, session.mediaRtpTask = some task → session.guard ≠ none
  keyed : ∀ guard, session.guard = some guard → session.key ≠ none

namespace SetupInvariant

theorem fresh (ip : Option ι) : SetupInvariant ({ listenerIpGuard := ip } : RtspSession ι) [] where
  setups := by
    intro track
    cases track <;> rfl
  available := by
    intro track hsetup
    cases track <;> cases hsetup
  guarded := by simp
  keyed := by simp

theorem distinctChannels (h : SetupInvariant session log) : DistinctChannels log := by
  intro audio video haudio hvideo
  rw [h.setups, Option.ite_none_right_eq_some, Option.some.injEq] at haudio hvideo
  obtain ⟨haudioSetup, rfl⟩ := haudio
  obtain ⟨hvideoSetup, rfl⟩ := hvideo
  obtain ⟨haudioByte, hapart⟩ :=
    rtspInterleavedChannelAvailable_iff.mp (h.available .audio haudioSetup)
  obtain ⟨hvideoByte, -⟩ :=
    rtspInterleavedChannelAvailable_iff.mp (h.available .video hvideoSetup)
  exact nodup_of_not_overlap haudioByte hvideoByte (hapart hvideoSetup)

theorem isSetup_of_setupChannel (h : SetupInvariant session log) {track : RtspTrack}
    {channel : UInt8} (hchannel : setupChannel log track = some channel) :
    session.isSetup track = true := by
  rw [h.setups, Option.ite_none_right_eq_some] at hchannel
  exact hchannel.1

theorem log_cons {reply : RtspReply} (h : SetupInvariant session log)
    (hreply : ∀ track, reply.setupOf track = none) :
    SetupInvariant session ((request, reply) :: log) where
  setups := by
    intro track
    rw [setupChannel_cons hreply]
    exact h.setups track
  available := h.available
  guarded := h.guarded
  keyed := h.keyed

/-- A session with a media task has joined its stream before. -/
theorem joined_before (h : SetupInvariant session log) {task : RtspMediaTask}
    (htask : session'.mediaRtpTask = some task)
    (hjoined : Joined config key state session state' session') :
    session' = session ∧ session.key = some key := by
  cases hjoined with
  | before _ hkey => exact ⟨rfl, hkey⟩
  | now hguard _ => exact absurd hguard (h.guarded task htask)

theorem joined (h : SetupInvariant session log)
    (hjoined : Joined config key state session state' session') :
    SetupInvariant { session' with key := some key } log := by
  cases hjoined with
  | before _ _ => exact ⟨h.setups, h.available, h.guarded, by simp⟩
  | now _ _ => exact ⟨h.setups, h.available, by simp [RtspSession.subscribed], by simp⟩

/-- An accepted SETUP writes an available channel to the session. -/
theorem log_setup {track : RtspTrack} {channel : UInt8} {id : Text}
    (h : SetupInvariant session log)
    (hfree : rtspInterleavedChannelAvailable session track channel = true) :
    SetupInvariant (session.setTrack track channel)
      ((request, .setup track channel id) :: log) where
  setups := by
    intro other
    rw [setupChannel_cons_setup, RtspSession.setTrack_isSetup, RtspSession.setTrack_channel]
    by_cases hsame : other = track
    · simp [hsame]
    · simpa [hsame] using h.setups other
  available := by
    intro other hother
    rw [rtspInterleavedChannelAvailable_iff, RtspSession.setTrack_isSetup,
      RtspSession.setTrack_channel, RtspSession.setTrack_channel]
    rw [rtspInterleavedChannelAvailable_iff] at hfree
    by_cases hsame : other = track
    · subst hsame
      have hne : other.other ≠ other := by cases other <;> decide
      simpa [hne] using hfree
    · -- the other track keeps its channel, which does not meet the new one
      have htrack : other.other = track := by
        cases other <;> cases track <;> first | rfl | exact absurd rfl hsame
      have hback : track.other = other := by
        rw [← htrack]
        cases other <;> rfl
      have hsetup : session.isSetup other = true := by simpa [hsame] using hother
      obtain ⟨hbyte, -⟩ := rtspInterleavedChannelAvailable_iff.mp (h.available other hsetup)
      rw [if_neg hsame, if_pos htrack, rtspChannelPairsOverlap_comm]
      rw [hback] at hfree
      exact ⟨hbyte, fun _ => hfree.2 hsetup⟩
  guarded := by simpa using h.guarded
  keyed := by simpa using h.keyed

theorem acceptSetup (h : SetupInvariant { session with key := some key } log) :
    SetupInvariant (session.acceptSetup request key transport state).session
      ((request, (session.acceptSetup request key transport state).reply) :: log) := by
  obtain ⟨id, hid⟩ := session.assignId_eq state
  have hidentified : SetupInvariant { session with id, key := some key } log :=
    ⟨h.setups, h.available, h.guarded, by simp⟩
  have hfree := select_available session (rtspTrackFromUri request.uri session.videoAdvertised)
    (parseInterleavedChannel transport)
  simp only [RtspSession.acceptSetup, hid]
  exact hidentified.log_setup hfree

/-- Every request keeps the invariant. -/
theorem effect (h : SetupInvariant session log)
    (heffect : RequestEffect config request state session outcome) :
    SetupInvariant outcome.session ((request, outcome.reply) :: log) := by
  cases heffect with
  | @quiet reply _ hreply _ =>
    refine h.log_cons ?_
    intro track
    cases reply <;> first | rfl | exact hreply.elim
  | @describe key contentBase sdp videoOmitted _ _ _ =>
    have hdescribed : SetupInvariant { session with key := some key, videoOmitted } log :=
      ⟨h.setups, h.available, h.guarded, by simp⟩
    exact hdescribed.log_cons (fun _ => rfl)
  | setup _ hjoined => exact (h.joined hjoined).acceptSetup
  | start _ hready haudio hvideo =>
    obtain ⟨⟨audioRx, -, rfl⟩, -, -⟩ := RtspSession.takeAudio_eq_some haudio
    obtain ⟨⟨videoRx, -, rfl⟩, -, -⟩ := RtspSession.takeVideo_eq_some hvideo
    refine log_cons ?_ (fun _ => rfl)
    exact ⟨h.setups, h.available, by simp [hready.guard], h.keyed⟩
  | resume _ _ => exact h.log_cons (fun _ => rfl)
  | lostAudio _ =>
    have hlosing : SetupInvariant { session with audioRx := none } log :=
      ⟨h.setups, h.available, h.guarded, h.keyed⟩
    exact hlosing.log_cons (fun _ => rfl)

end SetupInvariant

/-! ## The media task and the answers -/

namespace KeepsPromises

theorem fresh (ip : Option ι) : KeepsPromises ({ listenerIpGuard := ip } : RtspSession ι) [] where
  tracks := by simp
  channels := by simp

/-- The promises are about the media task alone. -/
theorem congr (h : KeepsPromises session log)
    (htask : session'.mediaRtpTask = session.mediaRtpTask) : KeepsPromises session' log where
  tracks := by simpa only [htask] using h.tracks
  channels := by simpa only [htask] using h.channels

/-- An answer that is neither to SETUP nor to PLAY promises nothing new. -/
theorem log_cons {reply : RtspReply} (h : KeepsPromises session log)
    (hsetup : ∀ track, reply.setupOf track = none)
    (hplay : ∀ uri entries id, reply ≠ .play uri entries id) :
    KeepsPromises session ((request, reply) :: log) where
  tracks := by
    intro request' uri entries id hmem
    obtain heq | hmem := List.mem_cons.mp hmem
    · rw [Prod.mk.injEq] at heq
      exact absurd heq.2.symm (hplay uri entries id)
    · exact h.tracks request' uri entries id hmem
  channels := by
    intro task track start htask hstart
    rw [setupChannel_cons hsetup]
    exact h.channels task track start htask hstart

/-- An answer to PLAY lists the tracks that are set up, and the task streams these. -/
theorem log_play {uri id : Text} {entries : List RtpInfo} {task : RtspMediaTask}
    (h : KeepsPromises session log) (htask : session.mediaRtpTask = some task)
    (hentries : ∀ track, (∃ info ∈ entries, info.track = track) ↔
      (task.track track).isSome = true) :
    KeepsPromises session ((request, .play uri entries id) :: log) where
  tracks := by
    intro request' uri' entries' id' hmem
    obtain heq | hmem := List.mem_cons.mp hmem
    · simp only [Prod.mk.injEq, RtspReply.play.injEq] at heq
      obtain ⟨-, -, rfl, -⟩ := heq
      exact ⟨task, htask, hentries⟩
    · exact h.tracks request' uri' entries' id' hmem
  channels := h.channels

/-- An accepted SETUP gives a track that is being streamed the channel in use. -/
theorem log_setup {track : RtspTrack} {channel : UInt8} {id : Text} (h : KeepsPromises session log)
    (hinUse : ∀ task start, session.mediaRtpTask = some task → task.track track = some start →
      start.channel = channel) :
    KeepsPromises session ((request, .setup track channel id) :: log) where
  tracks := by
    intro request' uri entries id' hmem
    obtain heq | hmem := List.mem_cons.mp hmem
    · simp at heq
    · exact h.tracks request' uri entries id' hmem
  channels := by
    intro task other start htask hstart
    rw [setupChannel_cons_setup]
    by_cases hsame : other = track
    · subst hsame
      refine ⟨channel, if_pos rfl, hinUse task start htask hstart, ?_⟩
      rw [RtspTrackStart.reportChannel, hinUse task start htask hstart]
    · rw [if_neg hsame]
      exact h.channels task other start htask hstart

/-- The media task starts with the tracks that are set up, on their channels. -/
theorem start {guard : ListenerGuard} {audio video : Option RtspTrackStart}
    {session₁ session₂ : RtspSession ι} {suppress : Bool} (hsetups : SetupInvariant session log)
    (h : KeepsPromises session log) (hready : ReadyToStart session guard key)
    (haudio : session.takeAudio = some (audio, session₁))
    (hvideo : session₁.takeVideo guard.channel = some (video, session₂)) (uri id : Text) :
    KeepsPromises
      { session₂ with mediaRtpTask := some ⟨guard.channel, key, audio, video, suppress⟩ }
      ((request, .play uri session₂.rtpInfo id) :: log) := by
  obtain ⟨⟨audioRx, -, rfl⟩, haudioSome, haudioStart⟩ := RtspSession.takeAudio_eq_some haudio
  obtain ⟨⟨videoRx, -, rfl⟩, hvideoSome, hvideoStart⟩ := RtspSession.takeVideo_eq_some hvideo
  have hstarted : ∀ track start,
      (⟨guard.channel, key, audio, video, suppress⟩ : RtspMediaTask).track track = some start →
      session.isSetup track = true ∧ start.channel = session.channel track := by
    intro track start hstart
    cases track with
    | audio =>
      exact ⟨haudioSome.symm.trans (Option.isSome_of_mem hstart), (haudioStart start hstart).2⟩
    | video =>
      exact ⟨hvideoSome.symm.trans (Option.isSome_of_mem hstart), (hvideoStart start hstart).2⟩
  refine log_play ⟨?_, ?_⟩ rfl ?_
  · intro request' uri' entries id' hmem
    obtain ⟨task, htask, -⟩ := h.tracks request' uri' entries id' hmem
    simp [hready.idle] at htask
  · rintro task track start ⟨⟩ hstart
    obtain ⟨hsetup, hchannel⟩ := hstarted track start hstart
    refine ⟨start.channel, ?_, rfl, rfl⟩
    rw [hsetups.setups, if_pos hsetup, hchannel]
  · intro track
    rw [mem_rtpInfo]
    cases track with
    | audio => exact Eq.congr_left haudioSome.symm
    | video => exact Eq.congr_left hvideoSome.symm

/-- An allowed request keeps the promises. -/
theorem effect (hsetups : SetupInvariant session log) (h : KeepsPromises session log)
    (hok : KeepsPlaying session request)
    (heffect : RequestEffect config request state session outcome) :
    KeepsPromises outcome.session ((request, outcome.reply) :: log) := by
  cases heffect with
  | @quiet reply _ hreply _ =>
    refine h.log_cons ?_ ?_
    · intro track
      cases reply <;> first | rfl | exact hreply.elim
    · rintro uri entries id rfl
      exact hreply
  | describe _ _ _ =>
    refine log_cons ?_ (fun _ => rfl) (by simp)
    exact h.congr rfl
  | @setup key transport state' session' hrequest hjoined =>
    have htask : session'.mediaRtpTask = session.mediaRtpTask := by cases hjoined <;> rfl
    obtain ⟨id, hid⟩ := session'.assignId_eq state'
    simp only [RtspSession.acceptSetup, hid]
    refine log_setup (h.congr (by simp [htask])) ?_
    intro task start hstarted hstart
    have hrunning : session'.mediaRtpTask = some task := by simpa using hstarted
    obtain ⟨rfl, hkey⟩ := hsetups.joined_before hrunning hjoined
    have hpicks := hok.setup task key transport start hrunning hrequest hkey hstart
    exact (select_eq_iff.mpr hpicks).symm
  | start _ hready haudio hvideo => exact h.start hsetups hready haudio hvideo request.uri _
  | @resume task hmethod htask =>
    refine h.log_play htask ?_
    intro track
    rw [mem_rtpInfo]
    refine ⟨fun hsetup => hok.play task track htask hmethod hsetup, ?_⟩
    intro hsome
    obtain ⟨start, hstart⟩ := Option.isSome_iff_exists.mp hsome
    obtain ⟨channel, hchannel, -⟩ := h.channels task track start htask hstart
    exact hsetups.isSetup_of_setupChannel hchannel
  | lostAudio _ =>
    refine log_cons ?_ (fun _ => rfl) (by simp)
    exact h.congr rfl

/-- If an accepted SETUP keeps the promises, then it has asked for the channel in use. -/
theorem picks_of_acceptSetup {task : RtspMediaTask} {start : RtspTrackStart}
    (h : KeepsPromises (session.acceptSetup request key transport state).session
      ((request, (session.acceptSetup request key transport state).reply) :: log))
    (htask : session.mediaRtpTask = some task)
    (hstart : task.track (rtspTrackFromUri request.uri session.videoAdvertised) = some start) :
    Picks session (rtspTrackFromUri request.uri session.videoAdvertised)
      (parseInterleavedChannel transport) start.channel := by
  obtain ⟨id, hid⟩ := session.assignId_eq state
  simp only [RtspSession.acceptSetup, hid] at h
  obtain ⟨channel, hchannel, hstarted, -⟩ := h.channels task _ start (by simpa using htask) hstart
  rw [setupChannel_cons_setup, if_pos rfl, Option.some.injEq] at hchannel
  exact select_eq_iff.mp (hchannel.trans hstarted.symm)

/-- A request keeps the promises exactly if it is allowed. -/
theorem handle_iff (hsetups : SetupInvariant session log) (h : KeepsPromises session log) :
    KeepsPromises (handleRtspRequest config request state session).session
        ((request, (handleRtspRequest config request state session).reply) :: log) ↔
      KeepsPlaying session request := by
  obtain ⟨androidxMedia3, hnoted⟩ := session.noteAndroidxMedia3_eq request
  constructor
  · intro hkept
    constructor
    · intro task key transport start htask hrequest hkey hstart
      obtain ⟨guard, hguard⟩ := Option.ne_none_iff_exists'.mp (hsetups.guarded task htask)
      have haccepted : handleRtspRequest config request state session =
          ({ session with androidxMedia3 } : RtspSession ι).acceptSetup request key transport
            state := by
        rw [handleRtspRequest, hrequest.method, hnoted]
        exact RtspSession.setup_of_guard hrequest hguard hkey
      rw [haccepted] at hkept
      have hpicks := picks_of_acceptSetup hkept htask hstart
      exact hpicks
    · intro task track htask hmethod hsetup
      obtain ⟨guard, hguard⟩ := Option.ne_none_iff_exists'.mp (hsetups.guarded task htask)
      obtain ⟨key, hkey⟩ := Option.ne_none_iff_exists'.mp (hsetups.keyed guard hguard)
      have hplaying : handleRtspRequest config request state session =
          ⟨state, { session with androidxMedia3 },
            RtspSession.playing { session with androidxMedia3 } request, false⟩ := by
        rw [handleRtspRequest, hmethod, hnoted]
        exact RtspSession.play_of_task hsetup hguard hkey htask
      rw [hplaying] at hkept
      obtain ⟨task', htask', hlisted⟩ := hkept.tracks _ _ _ _ List.mem_cons_self
      rw [Option.some.inj (htask'.symm.trans htask)] at hlisted
      exact (hlisted track).mp (mem_rtpInfo.mpr hsetup)
  · intro hok
    have heffect := effect_of_request config request state session
    rw [hnoted] at heffect
    have hsetups' : SetupInvariant { session with androidxMedia3 } log :=
      ⟨hsetups.setups, hsetups.available, hsetups.guarded, hsetups.keyed⟩
    exact effect hsetups' (h.congr rfl) ⟨hok.setup, hok.play⟩ heffect

end KeepsPromises

end

/-- In every run the channels of two tracks that are set up are distinct. In every run
whose requests respect the running media task, it does what SETUP and PLAY have said. -/
theorem session_keeps_promises {config : RtspConfig} {state : RtspServer θ ι} {ip : Option ι}
    {c : Connection θ ι} {session : RtspSession ι}
    (h : (Connection.system config state ip).Reachable c) (hsession : c.session = some session) :
    DistinctChannels c.log ∧
      ((Connection.system config state ip).Run (Connection.Allows KeepsPlaying)
        (Connection.start state ip) c → KeepsPromises session c.log) := by
  constructor
  · have hrun : (Connection.system config state ip).Run (Connection.Allows (fun _ _ => True))
        (Connection.start state ip) c := by
      refine h.mono ?_
      intro c event _
      cases event <;> simp [Connection.Allows]
    have hsetups : SetupInvariant session c.log := by
      refine Connection.run_invariant hrun (SetupInvariant.fresh ip) ?_ ?_ ?_ hsession
      · exact fun _ _ _ hs => ⟨hs.setups, hs.available, hs.guarded, hs.keyed⟩
      · exact fun _ _ _ hok => hok
      · exact fun _ _ _ _ _ hs _ heffect => hs.effect heffect
    exact hsetups.distinctChannels
  · intro hrun
    have hboth : SetupInvariant session c.log ∧ KeepsPromises session c.log := by
      refine Connection.run_invariant hrun
        (P := fun session log => SetupInvariant session log ∧ KeepsPromises session log)
        ⟨SetupInvariant.fresh ip, KeepsPromises.fresh ip⟩ ?_ ?_ ?_ hsession
      · rintro session log androidxMedia3 ⟨hs, hp⟩
        exact ⟨⟨hs.setups, hs.available, hs.guarded, hs.keyed⟩, hp.congr rfl⟩
      · exact fun _ _ _ hok => ⟨hok.setup, hok.play⟩
      · rintro state session log request outcome ⟨hs, hp⟩ hok heffect
        exact ⟨hs.effect heffect, hp.effect hs hok heffect⟩
    exact hboth.2

open Connection RtspRequest

/-- A listener sets up both tracks and plays them. -/
def playingEvents : List (ConnectionEvent Nat Nat) :=
  [.request (.sample .setup 'a' 1 (interleaved 2)), .request (.sample .setup 'a' 0 (interleaved 2)),
    .request (.sample .play 'a' 1 [])]

theorem session_keeps_promises_played :
    ∃ c session task audio video, small.Run (Allows KeepsPlaying) small.start c ∧
      c.session = some session ∧ session.mediaRtpTask = some task ∧
      task.track .audio = some audio ∧ task.track .video = some video ∧
      [audio.channel.toNat, audio.reportChannel, video.channel.toNat, video.reportChannel].Nodup := by
  have hsome : (small.exec small.start playingEvents).map (fun c =>
      c.session.map RtspSession.mediaRtpTask) =
      some (some (some ⟨0, List.replicate 32 'a', some ⟨0, 2, {}⟩, some ⟨0, 0, {}⟩, false⟩)) := by
    decide +kernel
  have hidle : ∀ n < 3, (small.exec small.start (playingEvents.take n)).map (fun c =>
      c.session.map RtspSession.mediaRtpTask) = some (some none) := by
    decide +kernel
  obtain ⟨c, hexec, hstate⟩ := Option.map_eq_some_iff.mp hsome
  obtain ⟨session, hsession, htask⟩ := Option.map_eq_some_iff.mp hstate
  have hrun : small.Run (Allows KeepsPlaying) small.start c := by
    refine System.run_of_exec_take hexec ?_
    intro n event before hevent hbefore
    have hnone := hidle n (List.getElem?_eq_some_iff.mp hevent).1
    rw [hbefore, Option.map_some, Option.some.injEq] at hnone
    cases event with
    | environment _ => trivial
    | disconnect => trivial
    | request request =>
      intro session hsession
      rw [hsession, Option.map_some, Option.some.injEq] at hnone
      exact ⟨by simp [hnone], by simp [hnone]⟩
  obtain ⟨hdistinct, hkeeps⟩ :=
    session_keeps_promises (hrun.mono (fun _ _ _ => trivial)) hsession
  obtain ⟨audio, haudio, rfl, haudioReport⟩ := (hkeeps hrun).channels _ .audio _ htask rfl
  obtain ⟨video, hvideo, rfl, hvideoReport⟩ := (hkeeps hrun).channels _ .video _ htask rfl
  exact ⟨c, session, _, _, _, hrun, hsession, htask, rfl, rfl, (hdistinct _ _ haudio hvideo).1⟩

/-- A listener plays the audio and then sets it up on another channel. -/
def movingEvents : List (ConnectionEvent Nat Nat) :=
  [.request (.sample .setup 'a' 1 (interleaved 2)), .request (.sample .play 'a' 1 []),
    .request (.sample .setup 'a' 1 (interleaved 4))]

/-- A listener plays the audio, sets up the video and plays again. -/
def addingEvents : List (ConnectionEvent Nat Nat) :=
  [.request (.sample .setup 'a' 1 (interleaved 2)), .request (.sample .play 'a' 1 []),
    .request (.sample .setup 'a' 0 (interleaved 0)), .request (.sample .play 'a' 1 [])]

/-- The answer to SETUP gives the audio channel 4 while the task streams it on channel 2;
and the answer to PLAY lists the video, which the task does not stream. -/
theorem requests_break_promises :
    (∃ c session task start, small.Reachable c ∧ c.session = some session ∧
      session.mediaRtpTask = some task ∧ task.track .audio = some start ∧ start.channel = 2 ∧
      setupChannel c.log .audio = some 4) ∧
    (∃ c session task request uri entries id, small.Reachable c ∧ c.session = some session ∧
      session.mediaRtpTask = some task ∧ (request, .play uri entries id) ∈ c.log ∧
      entries.map RtpInfo.track = [.video, .audio] ∧ task.track .video = none) := by
  constructor
  · have hstate : (small.exec small.start movingEvents).map (fun c =>
        c.session.map RtspSession.mediaRtpTask) =
        some (some (some ⟨0, List.replicate 32 'a', some ⟨0, 2, {}⟩, none, false⟩)) := by
      decide +kernel
    have htold : (small.exec small.start movingEvents).map (fun c => setupChannel c.log .audio) =
        some (some 4) := by
      decide +kernel
    obtain ⟨c, hexec, hstate⟩ := Option.map_eq_some_iff.mp hstate
    rw [hexec, Option.map_some, Option.some.injEq] at htold
    obtain ⟨session, hsession, htask⟩ := Option.map_eq_some_iff.mp hstate
    exact ⟨c, session, _, _, System.reachable_of_exec hexec, hsession, htask, rfl, rfl, htold⟩
  · have hstate : (small.exec small.start addingEvents).map (fun c =>
        c.session.map RtspSession.mediaRtpTask) =
        some (some (some ⟨0, List.replicate 32 'a', some ⟨0, 2, {}⟩, none, false⟩)) := by
      decide +kernel
    have hanswer : (small.exec small.start addingEvents).map (fun c => c.log.head?.map Prod.snd) =
        some (some (.play (RtspRequest.sample .play 'a' 1 []).uri
          [⟨.video, 0, {}⟩, ⟨.audio, 1, {}⟩] "0000000000000001".toList)) := by
      decide +kernel
    obtain ⟨c, hexec, hstate⟩ := Option.map_eq_some_iff.mp hstate
    rw [hexec, Option.map_some, Option.some.injEq] at hanswer
    obtain ⟨entry, hhead, hreply⟩ := Option.map_eq_some_iff.mp hanswer
    obtain ⟨session, hsession, htask⟩ := Option.map_eq_some_iff.mp hstate
    have hmem := List.mem_of_head? hhead
    obtain ⟨request, reply⟩ := entry
    dsimp only at hreply
    subst hreply
    exact ⟨c, session, _, request, _, _, _, System.reachable_of_exec hexec, hsession, htask, hmem,
      rfl, rfl⟩

end VRCStreamer
