import VRCStreamer.Blacklist.Bans
import VRCStreamer.Channel.Map
import VRCStreamer.Concurrency.Notify

/-!
# Publisher sessions and blacklist reloads

`ingest_ws`, `streamer_session` and `StreamerGuard::drop` of `websocket.rs`, and
`replace_stream_blacklist` with `notify_blacklisted_streamers` of `main.rs`, over the
channel map. A thread's program counter has two parts: where it stands in the functions
of the map, and its task around them. A step either does the next operation on the map
or one of the task's own atomic operations.
-/

namespace VRCStreamer

open Concurrency

/-- The fields of a `Channel` that publishers and reloads use beside the streamer flag.
`φ` stands for the SDP format parameters. -/
structure ChannelVideo (θ φ : Type*) where
  videoActive : Bool
  videoFmtp : Option φ
  resyncEpoch : Nat
  blacklistNotify : Notify θ

/-- The shared state. `listedBy` is a history variable: the thread whose reload was the
last to add a key to the list. -/
structure Server (κ θ ι φ : Type*) where
  map : ChannelMap κ θ
  video : ChannelId → ChannelVideo θ φ
  bans : BanState κ ι
  listLock : RwLock θ
  listedBy : κ → Option θ

/-- The part of `Config` that sessions read. -/
structure PublisherConfig where
  limits : Limits
  videoEnabled : Bool

/-! ## The messages of a publisher -/

/-- A message with an effect on the channel. A video frame comes with what
`h264_sdp_fmtp` reads from it. -/
inductive StreamerMessage (φ : Type*)
  | audioFrame
  | videoFrame (keyframe : Bool) (fmtp : Option φ)
  | forceResync
  | videoStart
  | videoStop
  | videoReset

/-- The atomic operations of a message on the channel. `resetConfiguration` is
`reset_video_configuration` and `configure` sets new parameters; both also set the
session's own `video_configured`. `publish` sends a frame to the listeners. -/
inductive ChannelOp (φ : Type*)
  | resetConfiguration
  | configure (fmtp : φ)
  | storeActive (value : Bool)
  | swapActive
  | forceResync
  | publish
deriving DecidableEq

namespace StreamerMessage

variable {φ : Type*}

/-- A session without video disconnects on these. -/
def isVideo : StreamerMessage φ → Bool
  | .audioFrame | .forceResync => false
  | _ => true

def ops (configured : Bool) : StreamerMessage φ → List (ChannelOp φ)
  | .audioFrame => [.publish]
  | .videoFrame true (some fmtp) =>
    if configured then [.swapActive, .publish] else [.swapActive, .configure fmtp, .publish]
  | .videoFrame _ _ => [.swapActive, .publish]
  | .forceResync => [.forceResync]
  | .videoStart => [.resetConfiguration, .storeActive true]
  | .videoStop => [.resetConfiguration, .storeActive false, .forceResync]
  | .videoReset => [.resetConfiguration, .forceResync]

end StreamerMessage

/-- A history variable of a session: what it wrote last to the video state. -/
structure Written (φ : Type*) where
  active : Option Bool
  fmtp : Option (Option φ)
deriving DecidableEq

def Written.nothing {φ : Type*} : Written φ := ⟨none, none⟩

namespace ChannelOp

variable {φ : Type*}

/-- `video_configured` after the operation. -/
def configured (before : Bool) : ChannelOp φ → Bool
  | .resetConfiguration => false
  | .configure _ => true
  | _ => before

def written (before : Written φ) : ChannelOp φ → Written φ
  | .resetConfiguration => { before with fmtp := some none }
  | .configure fmtp => { before with fmtp := some (some fmtp) }
  | .storeActive value => { before with active := some value }
  | .swapActive => { before with active := some true }
  | _ => before

end ChannelOp

/-! ## Program counters -/

/-- The checks of `ingest_ws` before the reservation. -/
inductive IngestStep
  | block
  | blockedIp
  | admission
deriving DecidableEq

/-- The steps of `streamer_session`. In `select` the loop polls its branches; `run` has
the rest of a message's operations. -/
inductive SessionStep (φ : Type*)
  | upgrade
  | startBlock
  | startBlockedIp
  | startFmtp
  | hello
  | startResync
  | select (configured : Bool)
  | woken (configured : Bool)
  | rearm (configured : Bool)
  | run (ops : List (ChannelOp φ)) (configured : Bool)
deriving DecidableEq

/-- The steps of `StreamerGuard::drop` between the release of the flag and the count. -/
inductive TeardownOp
  | finalCheck
  | storeInactive
  | clearFmtp
  | forceResync
deriving DecidableEq

def TeardownOp.all : List TeardownOp := [.finalCheck, .storeInactive, .clearFmtp, .forceResync]

/-- The steps of a reload after the swap: `notify_blacklisted_streamers` takes the read
locks of the list and of the map, then visits the keys of the list in any order. -/
inductive ReloadStep (κ : Type*)
  | readList
  | readMap (remaining : Finset κ)
  | visit (remaining : Finset κ)
  | notify (remaining : Finset κ) (key : κ) (channel : ChannelId)
  | unlockList
deriving DecidableEq

inductive Task (κ ι φ : Type*)
  | none
  | ingest (step : IngestStep) (key : κ) (ip : ι)
  | reserving (ip : ι)
  | session (step : SessionStep φ) (written : Written φ) (ip : ι)
  | closing (ip : ι)
  | teardown (ops : List TeardownOp) (ip : ι)
  | reload (step : ReloadStep κ)
deriving DecidableEq

structure ServerPc (κ ι φ : Type*) where
  map : MapPc κ
  task : Task κ ι φ
deriving DecidableEq

/-- What the scheduler or the outside world decides for the next step. -/
inductive Choice (κ ι φ : Type*)
  | advance
  | call (call : MapCall κ)
  | connect (key : κ) (ip : ι)
  | close (forward : Bool)
  | poll
  | message (message : StreamerMessage φ)
  | reload (entries : Finset κ)
  | visit (key : κ)

namespace Server

variable {κ θ ι φ : Type*}

/-- Write to one channel. -/
def updateVideo (m : Server κ θ ι φ) (id : ChannelId) (video : ChannelVideo θ φ) :
    Server κ θ ι φ :=
  { m with video := Function.update m.video id video }

def setActive (m : Server κ θ ι φ) (id : ChannelId) (value : Bool) : Server κ θ ι φ :=
  m.updateVideo id { m.video id with videoActive := value }

def setFmtp (m : Server κ θ ι φ) (id : ChannelId) (value : Option φ) : Server κ θ ι φ :=
  m.updateVideo id { m.video id with videoFmtp := value }

/-- `force_resync_channel`: the epoch is a 64-bit counter that wraps. -/
def forceResync (m : Server κ θ ι φ) (id : ChannelId) : Server κ θ ι φ :=
  m.updateVideo id
    { m.video id with resyncEpoch := ((m.video id).resyncEpoch + 1) % 2 ^ 64 }

def setNotify (m : Server κ θ ι φ) (id : ChannelId) (notify : Notify θ) : Server κ θ ι φ :=
  m.updateVideo id { m.video id with blacklistNotify := notify }

def channelOp (m : Server κ θ ι φ) (id : ChannelId) : ChannelOp φ → Server κ θ ι φ
  | .resetConfiguration => m.setFmtp id none
  | .configure fmtp => m.setFmtp id (some fmtp)
  | .storeActive value => m.setActive id value
  | .swapActive => m.setActive id true
  | .forceResync => m.forceResync id
  | .publish => m

end Server

/-! ## What listeners see -/

inductive VideoStreamState
  | offline
  | audioOnly
  | video
deriving DecidableEq

structure Placeholders (φ : Type*) where
  offlineFmtp : φ
  audioOnlyFmtp : φ

namespace Server

variable {κ θ ι φ : Type*}

def channelVideoState (m : Server κ θ ι φ) (id : ChannelId) : VideoStreamState :=
  if (m.map.channel id).streamer = false then .offline
  else if (m.video id).videoActive then .video
  else .audioOnly

def rtspVideoDescription (placeholders : Placeholders φ) (m : Server κ θ ι φ) (key : κ) :
    VideoStreamState × φ :=
  match m.map.channels key with
  | none => (.offline, placeholders.offlineFmtp)
  | some id =>
    (m.channelVideoState id,
      match m.channelVideoState id with
      | .video => (m.video id).videoFmtp.getD placeholders.audioOnlyFmtp
      | .audioOnly => placeholders.audioOnlyFmtp
      | .offline => placeholders.offlineFmtp)

variable [DecidableEq κ] [DecidableEq ι]

def block (m : Server κ θ ι φ) (key : κ) (ip : ι) : Bool × Server κ θ ι φ :=
  ((m.bans.blockStreamerIpIfBlacklisted key ip).1,
    { m with bans := (m.bans.blockStreamerIpIfBlacklisted key ip).2 })

def teardownOp (m : Server κ θ ι φ) (key : κ) (ip : ι) (id : ChannelId) :
    TeardownOp → Server κ θ ι φ
  | .finalCheck => (m.block key ip).2
  | .storeInactive => m.setActive id false
  | .clearFmtp => m.setFmtp id none
  | .forceResync => m.forceResync id

variable [DecidableEq θ]

/-- The swap of `replace_stream_blacklist`; `none` when the list does not change. -/
def swap (m : Server κ θ ι φ) (t : θ) (entries : Finset κ) : Option (Server κ θ ι φ) :=
  (m.bans.replaceStreamBlacklist entries).map (fun bans =>
    { m with
      bans
      listedBy := fun key =>
        if key ∈ entries ∧ key ∉ m.bans.streamBlacklist then some t else m.listedBy key })

def dropNotified (m : Server κ θ ι φ) (t : θ) (id : ChannelId) (forward : Bool) :
    Server κ θ ι φ :=
  m.setNotify id ((m.video id).blacklistNotify.drop t forward)

/-! ## Steps -/

/-- The operation on the map that comes next, and the task after it. A publisher that
holds its channel does not touch the map until its guard is dropped. -/
def mapCall (choice : Choice κ ι φ) (pc : ServerPc κ ι φ) :
    Option (Option (MapCall κ) × Task κ ι φ) :=
  match choice, pc.task, pc.map with
  | .call (.publish _), _, _ => none
  | .call call, .none, _ => some (some call, .none)
  | .advance, .none, _ => some (none, .none)
  | .advance, .ingest .admission key ip, _ => some (some (.publish key), .reserving ip)
  | .advance, .reserving _, .holding .publisher .. => none
  | .advance, .reserving _, .idle => none
  | .advance, .reserving ip, _ => some (none, .reserving ip)
  | .advance, .closing ip, _ => some (none, .teardown TeardownOp.all ip)
  | .advance, .teardown [] _, _ => some (none, .none)
  | .advance, .reload (.readMap remaining), .idle => some (some .scan, .reload (.readMap remaining))
  | .advance, .reload (.readMap remaining), _ => some (none, .reload (.visit remaining))
  | .advance, .reload (.visit remaining), _ =>
    if remaining = ∅ then some (none, .reload .unlockList) else none
  | _, _, _ => none

/-- One step of `streamer_session` on its channel. -/
def sessionStep (config : PublisherConfig) (t : θ) (choice : Choice κ ι φ)
    (m : Server κ θ ι φ) (key : κ) (id : ChannelId) (step : SessionStep φ) (written : Written φ)
    (ip : ι) : Option (Server κ θ ι φ × Task κ ι φ) :=
  match choice, step with
  | .advance, .upgrade => some (m, .session .startBlock written ip)
  | .close _, .upgrade => some (m, .closing ip)
  | .advance, .startBlock =>
    some ((m.block key ip).2,
      if (m.block key ip).1 then .closing ip else .session .startBlockedIp written ip)
  | .advance, .startBlockedIp =>
    some (m, if m.bans.streamerIpIsBlocked ip then .closing ip else .session .startFmtp written ip)
  | .advance, .startFmtp =>
    some (m.setFmtp id none, .session .hello { written with fmtp := some none } ip)
  | .advance, .hello => some (m, .session .startResync written ip)
  | .close _, .hello => some (m, .closing ip)
  | .advance, .startResync => some (m.forceResync id, .session (.select false) written ip)
  | .poll, .select configured =>
    some (m.setNotify id ((m.video id).blacklistNotify.poll t).2,
      .session (if ((m.video id).blacklistNotify.poll t).1 then .woken configured
        else .select configured) written ip)
  | .close forward, .select _ => some (m.dropNotified t id forward, .closing ip)
  | .message message, .select configured =>
    -- without video, a video message is answered by the choice `close`
    if message.isVideo && !config.videoEnabled then none
    else some (m, .session (.run (message.ops configured) configured) written ip)
  | .advance, .woken configured =>
    if (m.block key ip).1 then some ((m.block key ip).2.dropNotified t id false, .closing ip)
    else some ((m.block key ip).2, .session (.rearm configured) written ip)
  | .advance, .rearm configured => some (m, .session (.select configured) written ip)
  | .advance, .run [] configured => some (m, .session (.select configured) written ip)
  | .advance, .run (op :: ops) configured =>
    some (m.channelOp id op, .session (.run ops (op.configured configured)) (op.written written) ip)
  | _, _ => none

/-- One step of a reload after its swap. -/
def reloadStep (t : θ) (choice : Choice κ ι φ) (m : Server κ θ ι φ) (step : ReloadStep κ) :
    Option (Server κ θ ι φ × Task κ ι φ) :=
  match choice, step with
  | .advance, .readList =>
    (m.listLock.acquire .read t).map (fun listLock =>
      ({ m with listLock }, .reload (.readMap m.bans.streamBlacklist)))
  | .visit key, .visit remaining =>
    if key ∉ remaining then none
    else some (m, .reload (match m.map.channels key with
      | some id =>
        if (m.map.channel id).streamer then .notify (remaining.erase key) key id
        else .visit (remaining.erase key)
      | none => .visit (remaining.erase key)))
  | .advance, .notify remaining _ id =>
    some (m.setNotify id (m.video id).blacklistNotify.notifyOne, .reload (.visit remaining))
  | .advance, .unlockList => some ({ m with listLock := m.listLock.release .read t }, .none)
  | _, _ => none

/-- One step of a task outside the map. -/
def taskStep (config : PublisherConfig) (t : θ) (choice : Choice κ ι φ) (m : Server κ θ ι φ)
    (pc : ServerPc κ ι φ) : Option (Server κ θ ι φ × Task κ ι φ) :=
  match choice, pc.task, pc.map with
  | .connect key ip, .none, .idle => some (m, .ingest .block key ip)
  | .advance, .ingest .block key ip, _ =>
    some ((m.block key ip).2, if (m.block key ip).1 then .none else .ingest .blockedIp key ip)
  | .advance, .ingest .blockedIp key ip, _ =>
    some (m, if m.bans.streamerIpIsBlocked ip then .none else .ingest .admission key ip)
  | .close _, .ingest .admission _ _, _ => some (m, .none)
  | .advance, .reserving ip, .holding .publisher .. => some (m, .session .upgrade .nothing ip)
  | .advance, .reserving _, .idle => some (m, .none)
  | choice, .session step written ip, .holding .publisher key id =>
    sessionStep config t choice m key id step written ip
  | .advance, .teardown (op :: ops) ip, .uncount _ key id =>
    some (m.teardownOp key ip id op, .teardown ops ip)
  | .reload entries, .none, .idle =>
    -- the write lock of the list is held for the swap only
    if m.listLock.writer = none ∧ m.listLock.readers = ∅ then
      some ((m.swap t entries).elim (m, .none) (fun m' => (m', .reload .readList)))
    else none
  | choice, .reload step, _ => reloadStep t choice m step
  | _, _, _ => none

def program (config : PublisherConfig) :
    Program θ (Server κ θ ι φ) (ServerPc κ ι φ) (Choice κ ι φ) :=
  fun t choice m pc =>
    match mapCall choice pc with
    | some (call, task) =>
      (ChannelMap.program config.limits t call m.map pc.map).map (fun r =>
        ({ m with map := r.1 }, ⟨r.2, task⟩))
    | none =>
      (taskStep config t choice m pc).map (fun r => (r.1, ⟨pc.map, r.2⟩))

/-- No channel, no ban, and a list loaded at the start. -/
def start (listed : Finset κ) : Server κ θ ι φ where
  map := .empty
  video := fun _ => ⟨false, none, 0, .new⟩
  bans := ⟨listed, .empty⟩
  listLock := .unlocked
  listedBy := fun _ => none

def system (config : PublisherConfig) (listed : Finset κ) :
    System (Threads θ (Server κ θ ι φ) (ServerPc κ ι φ)) (θ × Choice κ ι φ) :=
  (program config).system (start listed) ⟨.idle, .none⟩

/-- A small server for sample runs. -/
def smallServer : System (Threads Nat (Server Nat Nat Nat Nat) (ServerPc Nat Nat Nat))
    (Nat × Choice Nat Nat Nat) :=
  system ⟨⟨2, 1, 1⟩, true⟩ ∅

/-- The steps of a publisher of key 7 up to its loop; `lookup` of them are in the map. -/
def connectSteps (ip lookup : Nat) : List (Choice Nat Nat Nat) :=
  .connect 7 ip :: List.replicate (lookup + 10) .advance

end Server

end VRCStreamer
