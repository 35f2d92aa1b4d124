import VRCStreamer.Channel.Sequential
import VRCStreamer.Publisher.Session
import VRCStreamer.Rtsp.Session

/-!
# RTSP requests and connections

`handle_rtsp_request` of `rtsp.rs`, one function for each method, and the loop of
`handle_rtsp_client` around it. Between two requests everything else on the server may
change; a request is handled without interleaving.
-/

namespace VRCStreamer

open Concurrency

/-! ## Answers -/

inductive RtspStatus
  | ok
  | badRequest
  | methodNotAllowed
  | notEnoughBandwidth
  | sessionNotFound
  | methodNotValid
  | unsupportedTransport
deriving DecidableEq

def RtspStatus.line : RtspStatus → Text
  | .ok => "200 OK".toList
  | .badRequest => "400 Bad Request".toList
  | .methodNotAllowed => "405 Method Not Allowed".toList
  | .notEnoughBandwidth => "453 Not Enough Bandwidth".toList
  | .sessionNotFound => "454 Session Not Found".toList
  | .methodNotValid => "455 Method Not Valid In This State".toList
  | .unsupportedTransport => "461 Unsupported Transport".toList

/-- What a request is answered with, before it is written out. -/
inductive RtspReply
  | options
  | describe (contentBase : Text) (sdp : Text)
  | setup (track : RtspTrack) (channel : UInt8) (session : Text)
  | play (uri : Text) (entries : List RtpInfo) (session : Text)
  | getParameter (session : Text)
  | teardown (session : Text)
  | refused (status : RtspStatus)
deriving DecidableEq

/-- The `Transport` header of an answer to SETUP. -/
def transportHeader (track : RtspTrack) (channel : UInt8) : Text :=
  "RTP/AVP/TCP;unicast;interleaved=".toList ++ Text.decimal channel.toNat ++ "-".toList ++
    Text.decimal (rtcpChannel channel) ++ ";ssrc=".toList ++
    Text.upperHex 8 track.ssrc.toNat

namespace RtspReply

def status : RtspReply → RtspStatus
  | .refused status => status
  | _ => .ok

def headers : RtspReply → List (Text × Text)
  | .options => [("Public".toList, "OPTIONS, DESCRIBE, SETUP, PLAY, GET_PARAMETER, TEARDOWN".toList)]
  | .describe contentBase _ =>
    [("Content-Type".toList, "application/sdp".toList), ("Content-Base".toList, contentBase)]
  | .setup track channel session =>
    [("Transport".toList, transportHeader track channel), ("Session".toList, session)]
  | .play uri entries session =>
    [("Range".toList, "npt=now-".toList), ("RTP-Info".toList, rtspRtpInfo uri entries),
      ("Session".toList, session)]
  | .getParameter session | .teardown session => [("Session".toList, session)]
  | .refused _ => []

def body : RtspReply → Option Text
  | .describe _ sdp => some sdp
  | _ => none

/-- A 4xx status. -/
def IsRefusal (reply : RtspReply) : Prop := reply.status.line.head? = some '4'

theorem not_isRefusal {reply : RtspReply} (h : reply.status = .ok) : ¬ reply.IsRefusal := by
  rw [IsRefusal, h]
  decide

end RtspReply

/-! ## Methods -/

inductive RtspMethod
  | options
  | describe
  | setup
  | play
  | getParameter
  | teardown
deriving DecidableEq

def RtspMethod.text : RtspMethod → Text
  | .options => "OPTIONS".toList
  | .describe => "DESCRIBE".toList
  | .setup => "SETUP".toList
  | .play => "PLAY".toList
  | .getParameter => "GET_PARAMETER".toList
  | .teardown => "TEARDOWN".toList

def RtspRequest.rtspMethod (request : RtspRequest) : Option RtspMethod :=
  [RtspMethod.options, .describe, .setup, .play, .getParameter, .teardown].find?
    (fun method => method.text = request.method)

/-! ## Requests -/

/-- The parts of `AppState` that requests use. -/
structure RtspServer (θ ι : Type*) where
  server : Server Text θ ι Text
  nextRtspSession : Nat

structure RtspConfig where
  limits : Limits
  placeholders : Placeholders Text

/-- A small server for sample runs. -/
def RtspConfig.small : RtspConfig :=
  ⟨⟨2, 2, 2⟩, ⟨"offline".toList, "audio only".toList⟩⟩

/-- The state after a request, its answer, and whether the connection ends with it. -/
structure RtspOutcome (θ ι : Type*) where
  state : RtspServer θ ι
  session : RtspSession ι
  reply : RtspReply
  close : Bool := false

def shouldAdvertiseVideo (androidxMedia3 : Bool) (state : VideoStreamState) : Bool :=
  !androidxMedia3 || state = .video

namespace RtspSession

variable {θ ι : Type*}

def refuse (session : RtspSession ι) (state : RtspServer θ ι) (status : RtspStatus) :
    RtspOutcome θ ι :=
  { state, session, reply := .refused status }

def noteAndroidxMedia3 (session : RtspSession ι) (request : RtspRequest) : RtspSession ι :=
  if !session.androidxMedia3 && request.isAndroidxMedia3 then
    { session with androidxMedia3 := true }
  else session

def describe (config : RtspConfig) (request : RtspRequest) (state : RtspServer θ ι)
    (session : RtspSession ι) : RtspOutcome θ ι :=
  match keyFromRtspUri request.uri with
  | none => session.refuse state .badRequest
  | some key =>
    if validHash key = false then session.refuse state .badRequest
    else
      let description := state.server.rtspVideoDescription config.placeholders key
      let advertised := shouldAdvertiseVideo session.androidxMedia3 description.1
      { state
        session := { session with key := some key, videoOmitted := !advertised }
        reply := .describe (rtspContentBase request.uri)
          (rtspSdp (if advertised then some description.2 else none)) }

/-- The session with the guard and the receivers of a subscription. -/
def subscribed (session : RtspSession ι) (guard : ListenerGuard) : RtspSession ι :=
  { session with
    guard := some guard
    audioRx := some guard.channel
    videoRx := if session.videoAdvertised then some guard.channel else session.videoRx }

/-- `format!("{id:016x}")` of the next number, unless the session has an id. -/
def assignId (session : RtspSession ι) (state : RtspServer θ ι) : RtspServer θ ι × RtspSession ι :=
  match session.id with
  | some _ => (state, session)
  | none =>
    ({ state with nextRtspSession := (state.nextRtspSession + 1) % 2 ^ 64 },
      { session with id := some (Text.hex 16 state.nextRtspSession) })

/-- The part of SETUP after its checks. -/
def acceptSetup (request : RtspRequest) (key transport : Text) (state : RtspServer θ ι)
    (session : RtspSession ι) : RtspOutcome θ ι :=
  let track := rtspTrackFromUri request.uri session.videoAdvertised
  let channel := selectRtspInterleavedChannel session track (parseInterleavedChannel transport)
  let (state, session) := session.assignId state
  { state
    session := { session with key := some key }.setTrack track channel
    reply := .setup track channel session.idOrOne }

def setup (config : RtspConfig) (request : RtspRequest) (state : RtspServer θ ι)
    (session : RtspSession ι) : RtspOutcome θ ι :=
  match (keyFromRtspUri request.uri).or session.key with
  | none => session.refuse state .badRequest
  | some key =>
    let transport := (request.header "transport".toList).getD []
    if validHash key = false then session.refuse state .badRequest
    else if !Text.contains "rtp/avp/tcp".toList (Text.toAsciiLowercase transport) then
      session.refuse state .unsupportedTransport
    else
      match session.guard with
      | none =>
        let (map, channel) := state.server.map.subscribeListener config.limits key
        let state := { state with server := { state.server with map } }
        match channel with
        | none => session.refuse state .notEnoughBandwidth
        | some channel => (session.subscribed ⟨key, channel⟩).acceptSetup request key transport state
      | some _ =>
        if session.key = some key then session.acceptSetup request key transport state
        else session.refuse state .methodNotValid

/-- The start of the audio track, with the receiver taken out of the session; none when
the track is set up without a receiver. -/
def takeAudio (session : RtspSession ι) : Option (Option RtspTrackStart × RtspSession ι) :=
  if session.audioSetup then
    session.audioRx.map (fun rx =>
      (some ⟨rx, session.audioChannel, session.audioRtp⟩, { session with audioRx := none }))
  else some (none, session)

/-- The receiver of SETUP is dropped, and the video track starts at the live edge. -/
def takeVideo (session : RtspSession ι) (stream : ChannelId) :
    Option (Option RtspTrackStart × RtspSession ι) :=
  if session.videoSetup then
    session.videoRx.map (fun _ =>
      (some ⟨stream, session.videoChannel, session.videoRtp⟩, { session with videoRx := none }))
  else some (none, session)

def playing (session : RtspSession ι) (request : RtspRequest) : RtspReply :=
  .play request.uri session.rtpInfo session.idOrOne

/-- PLAY on a session without a media task. -/
def startMedia (request : RtspRequest) (stream : ChannelId) (key : Text) (state : RtspServer θ ι)
    (session : RtspSession ι) : RtspOutcome θ ι :=
  match session.takeAudio with
  | none => session.refuse state .sessionNotFound
  | some (audio, session) =>
    match session.takeVideo stream with
    | none => session.refuse state .sessionNotFound
    | some (video, session) =>
      { state
        session := { session with
          mediaRtpTask := some ⟨stream, key, audio, video, session.androidxMedia3⟩ }
        reply := session.playing request }

def play (request : RtspRequest) (state : RtspServer θ ι) (session : RtspSession ι) :
    RtspOutcome θ ι :=
  if !session.audioSetup && !session.videoSetup then session.refuse state .methodNotValid
  else
    match session.guard, session.key, session.mediaRtpTask with
    | none, _, _ => session.refuse state .sessionNotFound
    | some _, none, _ => session.refuse state .sessionNotFound
    | some guard, some key, none => session.startMedia request guard.channel key state
    | some _, some _, some _ => { state, session, reply := session.playing request }

end RtspSession

section

variable {θ ι : Type*}

def handleRtspRequest (config : RtspConfig) (request : RtspRequest) (state : RtspServer θ ι)
    (session : RtspSession ι) : RtspOutcome θ ι :=
  let session := session.noteAndroidxMedia3 request
  match request.rtspMethod with
  | some .options => { state, session, reply := .options }
  | some .describe => session.describe config request state
  | some .setup => session.setup config request state
  | some .play => session.play request state
  | some .getParameter => { state, session, reply := .getParameter session.idOrOne }
  | some .teardown => { state, session, reply := .teardown session.idOrOne, close := true }
  | none => session.refuse state .methodNotAllowed

end

/-! ## Connections -/

/-- A connection with the server around it. The session is gone once the connection has
ended. `log` is a history variable: the requests with their answers, the last one first. -/
structure Connection (θ ι : Type*) where
  state : RtspServer θ ι
  session : Option (RtspSession ι)
  log : List (RtspRequest × RtspReply)

/-- What happens next: something else on the server, a request, or the end of the
connection by the peer, a failed write, a limit, or the end of the media task. -/
inductive ConnectionEvent (θ ι : Type*)
  | environment (state : RtspServer θ ι)
  | request (request : RtspRequest)
  | disconnect

namespace Connection

variable {θ ι : Type*}

/-- The session is dropped, and with it the guard and the media task. -/
def close (connection : Connection θ ι) (session : RtspSession ι) : Connection θ ι :=
  { connection with
    session := none
    state := match session.guard with
      | none => connection.state
      | some guard => { connection.state with
          server := { connection.state.server with
            map := connection.state.server.map.dropListener guard.key guard.channel } } }

def answer (connection : Connection θ ι) (request : RtspRequest) (outcome : RtspOutcome θ ι) :
    Connection θ ι :=
  let connection : Connection θ ι :=
    ⟨outcome.state, some outcome.session, (request, outcome.reply) :: connection.log⟩
  if outcome.close then connection.close outcome.session else connection

def step (config : RtspConfig) (connection : Connection θ ι) :
    ConnectionEvent θ ι → Option (Connection θ ι)
  | .environment state => some { connection with state }
  | .request request => connection.session.map (fun session =>
      connection.answer request (handleRtspRequest config request connection.state session))
  | .disconnect => connection.session.map connection.close

def start (state : RtspServer θ ι) (ip : Option ι) : Connection θ ι :=
  ⟨state, some { listenerIpGuard := ip }, []⟩

def system (config : RtspConfig) (state : RtspServer θ ι) (ip : Option ι) :
    System (Connection θ ι) (ConnectionEvent θ ι) :=
  ⟨start state ip, step config⟩

/-- A connection to a small server, for sample runs. -/
def small : System (Connection Nat Nat) (ConnectionEvent Nat Nat) :=
  system .small ⟨Server.start ∅, 1⟩ none

end Connection

/-- A request for a track of the stream whose key is 32 times one digit. -/
def RtspRequest.sample (method : RtspMethod) (digit : Char) (trackId : Nat)
    (headers : List (Text × Text)) : RtspRequest :=
  ⟨method.text, "rtsp://host/".toList ++ List.replicate 32 digit ++ "/trackID=".toList ++
    Text.decimal trackId, headers⟩

/-- The headers of a SETUP that asks for a channel. -/
def RtspRequest.interleaved (channel : Nat) : List (Text × Text) :=
  [("transport".toList, "RTP/AVP/TCP;unicast;interleaved=".toList ++ Text.decimal channel)]

end VRCStreamer
