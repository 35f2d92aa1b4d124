import Mathlib.Data.Rat.Floor
import VRCStreamer.Client.AvcDescription
import VRCStreamer.Media.Acceptance
import VRCStreamer.Media.Fmtp

/-!
# From the encoder to the server

`sendVideoPacket` and the `output` of `createEncoder` in the video worker, and what
`parse_streamer_media_frame` makes of their packets. A keyframe goes out behind the parameter sets
of the last description that had any.
-/

namespace VRCStreamer

open Codec

/-! ## Packets -/

/-- An `EncodedVideoChunk`; its timestamp is in microseconds. -/
structure EncodedVideoChunk where
  key : Bool
  timestamp : Int
  data : Bytes

/-- `Math.round(chunk.timestamp * H264_CLOCK_RATE / 1000000) >>> 0`. -/
def EncodedVideoChunk.rtpTimestamp (chunk : EncodedVideoChunk) : UInt32 :=
  UInt32.ofNat (round (chunk.timestamp * H264_CLOCK_RATE / 1000000 : ℚ) % 2 ^ 32).toNat

/-- What an encoder puts out: a chunk, and a configuration record with some of them. -/
structure EncoderOutput where
  chunk : EncodedVideoChunk
  record : Option AvcConfigurationRecord

namespace EncoderOutput

def units (output : EncoderOutput) : List Bytes :=
  (output.record.map (fun record => record.sps ++ record.pps)).getD []

end EncoderOutput

def AvcConfigurationRecord.sample : AvcConfigurationRecord where
  profile := 0x42
  compatibility := 0xe0
  level := 0x1f
  lengthSize := 0xff
  reserved := 0xff
  sps := [[0x67, 0x42, 0xe0, 0x1f]]
  pps := [[0x68, 0xce]]
  extension := []
  sps_le := by decide
  pps_le := by decide
  unit_lt := by decide

end VRCStreamer
