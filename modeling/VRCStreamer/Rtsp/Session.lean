import VRCStreamer.Channel.Map
import VRCStreamer.Rtp.State
import VRCStreamer.Rtsp.Uri

/-!
# RTSP sessions

`RtspRequest` and `RtspSession` of `rtsp.rs`, what the answers to DESCRIBE and PLAY say
about a session, and the choice of interleaved channels in SETUP. A receiver is known by
the channel it is subscribed to.
-/

namespace VRCStreamer

/-- A request as the parser returns it, with the names of its headers in lower case. -/
structure RtspRequest where
  method : Text
  uri : Text
  headers : List (Text × Text)
deriving DecidableEq

namespace RtspRequest

def header (request : RtspRequest) (name : Text) : Option Text :=
  (request.headers.find? (fun header => Text.eqIgnoreAsciiCase header.1 name)).map Prod.snd

def isAndroidxMedia3 (request : RtspRequest) : Bool :=
  (request.header "user-agent".toList).any (fun value => "AndroidXMedia3".toList <+: value)

end RtspRequest

/-- `key` is the one that the channel was reserved under. -/
structure ListenerGuard where
  key : Text
  channel : ChannelId
deriving DecidableEq

/-- `RtspAudioTrackStart` and `RtspVideoTrackStart`. -/
structure RtspTrackStart where
  rx : ChannelId
  channel : UInt8
  rtp : RtpState
deriving DecidableEq

structure RtspMediaTask where
  stream : ChannelId
  key : Text
  audio : Option RtspTrackStart
  video : Option RtspTrackStart
  suppressPlaceholders : Bool
deriving DecidableEq

/-- The session of one connection. `ι` stands for IP addresses. -/
structure RtspSession (ι : Type*) where
  id : Option Text := none
  key : Option Text := none
  audioRx : Option ChannelId := none
  videoRx : Option ChannelId := none
  listenerIpGuard : Option ι := none
  guard : Option ListenerGuard := none
  mediaRtpTask : Option RtspMediaTask := none
  audioSetup : Bool := false
  videoSetup : Bool := false
  audioChannel : UInt8 := 0
  videoChannel : UInt8 := 0
  audioRtp : RtpState := {}
  videoRtp : RtpState := {}
  androidxMedia3 : Bool := false
  videoOmitted : Bool := false
deriving DecidableEq

/-- The track that a media task streams, if it streams it. -/
def RtspMediaTask.track (task : RtspMediaTask) : RtspTrack → Option RtspTrackStart
  | .audio => task.audio
  | .video => task.video

namespace RtspSession

variable {ι : Type*}

def videoAdvertised (session : RtspSession ι) : Bool := !session.videoOmitted

def isSetup (session : RtspSession ι) : RtspTrack → Bool
  | .audio => session.audioSetup
  | .video => session.videoSetup

def channel (session : RtspSession ι) : RtspTrack → UInt8
  | .audio => session.audioChannel
  | .video => session.videoChannel

/-- Mark a track as set up on a channel. -/
def setTrack (session : RtspSession ι) (track : RtspTrack) (channel : UInt8) : RtspSession ι :=
  match track with
  | .audio => { session with audioSetup := true, audioChannel := channel }
  | .video => { session with videoSetup := true, videoChannel := channel }

/-- `session.id.as_deref().unwrap_or("1")`. -/
def idOrOne (session : RtspSession ι) : Text := session.id.getD "1".toList

end RtspSession

/-! ## Interleaved channels -/

def rtspChannelPairsOverlap (left right : UInt8) : Bool :=
  left.toNat ≤ right.toNat + 1 && right.toNat ≤ left.toNat + 1

section

variable {ι : Type*}

def rtspInterleavedChannelAvailable (session : RtspSession ι) (track : RtspTrack)
    (candidate : UInt8) : Bool :=
  if candidate = 255 then false
  else match track with
    | .audio => !session.videoSetup || !rtspChannelPairsOverlap candidate session.videoChannel
    | .video => !session.audioSetup || !rtspChannelPairsOverlap candidate session.audioChannel

/-- The channel that SETUP asks for, or the track's usual one. -/
def preferredChannel (session : RtspSession ι) (track : RtspTrack) (requested : Option UInt8) :
    UInt8 :=
  requested.getD (match track with
    | .audio => if session.videoAdvertised then 2 else 0
    | .video => 0)

/-- The even channels from 0 to 252, in the order in which they are tried. -/
def evenChannels : List UInt8 := (List.range 127).map (fun n => UInt8.ofNat (2 * n))

def selectRtspInterleavedChannel (session : RtspSession ι) (track : RtspTrack)
    (requested : Option UInt8) : UInt8 :=
  let preferred := preferredChannel session track requested
  if rtspInterleavedChannelAvailable session track preferred then preferred
  else (evenChannels.find? (rtspInterleavedChannelAvailable session track)).getD preferred

/-- `rtp_channel.saturating_add(1)`: the channel of the track's sender reports. -/
def rtcpChannel (channel : UInt8) : Nat := min (channel.toNat + 1) 255

end

/-! ## What DESCRIBE and PLAY answer -/

/-- `audio_track_id` is the place of the audio section. -/
def rtspSdp (videoFmtp : Option Text) : Text :=
  let videoType := Text.decimal RTP_VIDEO_PAYLOAD_TYPE.toNat
  let audioType := Text.decimal RTP_AUDIO_PAYLOAD_TYPE.toNat
  Text.crlfLines ["v=0".toList, "o=- 0 0 IN IP4 127.0.0.1".toList, "s= ".toList,
    "c=IN IP4 0.0.0.0".toList, "t=0 0".toList, "a=range:npt=now-".toList, "a=control:*".toList] ++
  (match videoFmtp with
    | none => []
    | some fmtp => Text.crlfLines [
        "m=video 0 RTP/AVP ".toList ++ videoType,
        "a=control:trackID=0".toList,
        "a=rtpmap:".toList ++ videoType ++ " H264/".toList ++ Text.decimal H264_CLOCK_RATE,
        "a=fmtp:".toList ++ videoType ++ " ".toList ++ fmtp]) ++
  Text.crlfLines [
    "m=audio 0 RTP/AVP ".toList ++ audioType,
    "a=control:trackID=".toList ++ Text.decimal videoFmtp.isSome.toNat,
    "a=rtpmap:".toList ++ audioType ++ " mpeg4-generic/".toList ++ Text.decimal AAC_SAMPLE_RATE ++
      "/".toList ++ Text.decimal AAC_CHANNELS,
    "a=fmtp:".toList ++ audioType ++ " config=".toList ++ AAC_AUDIO_SPECIFIC_CONFIG.toList ++
      ("; indexdeltalength=3; indexlength=3; mode=AAC-hbr; profile-level-id=1; " ++
        "sizelength=13; streamtype=5").toList]

/-- One entry of an `RTP-Info` header. -/
structure RtpInfo where
  track : RtspTrack
  trackId : Nat
  rtp : RtpState
deriving DecidableEq

def RtpInfo.text (base : Text) (info : RtpInfo) : Text :=
  "url=".toList ++ base ++ "/trackID=".toList ++ Text.decimal info.trackId ++ ";seq=".toList ++
    Text.decimal info.rtp.sequence.toNat ++ ";rtptime=".toList ++
    Text.decimal info.rtp.timestamp.toNat

/-- The entries that `rtsp_rtp_info` writes for a session. -/
def RtspSession.rtpInfo {ι : Type*} (session : RtspSession ι) : List RtpInfo :=
  (if session.videoSetup then [⟨.video, 0, session.videoRtp⟩] else []) ++
  (if session.audioSetup then [⟨.audio, session.videoAdvertised.toNat, session.audioRtp⟩] else [])

/-- The text of `rtsp_rtp_info`. -/
def rtspRtpInfo (uri : Text) (entries : List RtpInfo) : Text :=
  let base := (rtspContentBase uri).rdropWhile (· = '/')
  [','].intercalate (entries.map (RtpInfo.text base))

end VRCStreamer
