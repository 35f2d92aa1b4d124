import VRCStreamer.Constants
import VRCStreamer.Text.Basic

/-!
# RTSP URIs and transport headers

What `rtsp.rs` reads from a request's URI and from its `Transport` header.
-/

namespace VRCStreamer

/-- `valid_hash` of `main.rs`. -/
def validHash (key : Text) : Bool := key.length == STREAM_ID_HEX_CHARS && key.all Char.isHexDigit

inductive RtspTrack
  | audio
  | video
deriving DecidableEq

def RtspTrack.ssrc : RtspTrack → UInt32
  | .audio => RTP_AUDIO_SSRC
  | .video => RTP_VIDEO_SSRC

def rtspContentBase (uri : Text) : Text :=
  let piece := Text.firstPiece ['?', '#'] uri
  let base := if piece = [] then uri else piece
  if base.getLast? = some '/' then base else base ++ ['/']

/-- The first segment of a path, unless it is empty. -/
def firstSegment (path : Text) : Option Text :=
  let segment := Text.firstPiece ['/', '?', '#'] (path.dropWhile (· = '/'))
  if segment = [] then none else some segment

def keyFromRtspUri (uri : Text) : Option Text :=
  match Text.splitOnce "://".toList uri with
  | some (_, rest) => if '/' ∈ rest then firstSegment (rest.dropWhile (· ≠ '/')) else none
  | none => firstSegment uri

def rtspTrackFromUri (uri : Text) (videoAdvertised : Bool) : RtspTrack :=
  let segment := Text.lastPiece '/' (Text.firstPiece ['?', '#'] uri)
  if videoAdvertised && Text.eqIgnoreAsciiCase segment "trackID=0".toList then .video else .audio

/-- The value ends at the next occurrence of the parameter's name, if there is one. -/
def parseInterleavedChannel (transport : Text) : Option UInt8 :=
  let name := "interleaved=".toList
  (Text.splitOnce name (Text.toAsciiLowercase transport)).bind fun parts =>
    let value := ((Text.splitOnce name parts.2).map Prod.fst).getD parts.2
    Text.parseU8 (Text.trim (Text.firstPiece ['-', ';'] value))

end VRCStreamer
