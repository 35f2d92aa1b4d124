import VRCStreamer.Codec.BigEndian

/-!
# Constants of the server

The numeric limits of `main.rs`, `limits.rs`, `media.rs` and `rtsp.rs` that the modelled
functions read, under the source's names. Durations are in nanoseconds.
-/

namespace VRCStreamer

def RTP_VIDEO_PAYLOAD_TYPE : UInt8 := 96
def RTP_AUDIO_PAYLOAD_TYPE : UInt8 := 97
def RTP_AUDIO_SSRC : UInt32 := 0x56524341
def RTP_VIDEO_SSRC : UInt32 := 0x56524356
def H264_MAX_NAL_UNITS : Nat := 64
def H264_MAX_PARAMETER_SET_BYTES : Nat := 1024
def RTP_MAX_PAYLOAD_BYTES : Nat := 1200
def RTP_PACKET_BUFFER_BYTES : Nat := 4 + 12 + RTP_MAX_PAYLOAD_BYTES
def RTP_TCP_WRITE_BATCH_BYTES : Nat := 16 * 1024
def AAC_SAMPLE_RATE : Nat := 48000
def AAC_CHANNELS : Nat := 2
def AAC_SAMPLES_PER_FRAME : Nat := 1024
def AAC_AUDIO_SPECIFIC_CONFIG : String := "1190"
def AAC_SILENCE_ACCESS_UNIT : List UInt8 := [0x21, 0x10, 0x04, 0x60, 0x8c, 0x1c]

/-- Rounded down to whole microseconds. -/
def AAC_FRAME_DURATION : Nat := AAC_SAMPLES_PER_FRAME * 10 ^ 6 / AAC_SAMPLE_RATE * 10 ^ 3
def AAC_MAX_BITRATE_KBPS : Nat := 320
def AAC_MAX_FRAMES_PER_SECOND : Nat := 64
def AAC_MAX_ACCESS_UNIT_BYTES : Nat := 4 * 1024
def AAC_MAX_INGEST_BYTES_PER_SECOND : Nat := AAC_MAX_BITRATE_KBPS * 1000 / 8 * 6 / 5
def AAC_INGEST_BURST_SECS : Nat := 5
def AAC_ABUSE_MAX_FRAMES_PER_SECOND : Nat := AAC_MAX_FRAMES_PER_SECOND * 2
def AAC_ABUSE_MAX_INGEST_BYTES_PER_SECOND : Nat := AAC_MAX_INGEST_BYTES_PER_SECOND * 2
def AAC_ABUSE_BURST_SECS : Nat := 10
def MEDIA_FRAME_HEADER_BYTES : Nat := 5
def MEDIA_CLOCK_RATE : Nat := AAC_SAMPLE_RATE
def H264_CLOCK_RATE : Nat := 90000
def STREAM_ID_HEX_CHARS : Nat := 32
def RTCP_REPORT_INTERVAL : Nat := 5 * 10 ^ 9
def RTCP_SENDER_REPORT : UInt8 := 200
def RTCP_SOURCE_DESCRIPTION : UInt8 := 202
def MAX_AUDIO_BACKLOG_FRAMES : Nat := 12
def MAX_VIDEO_BACKLOG_AGE : Nat := 10 ^ 9
def RTSP_MAX_LINE_BYTES : Nat := 4096
def RTSP_MAX_HEADER_BYTES : Nat := 16 * 1024
def RTSP_MAX_HEADERS : Nat := 64
def RTSP_MAX_BODY_BYTES : Nat := 4096
def RTSP_DISCARD_BUFFER_BYTES : Nat := 1024
def RTSP_MAX_INTERLEAVED_BYTES : Nat := 4096
def MAX_IP_LIMIT_ENTRIES : Nat := 8192

/-- The largest integer below which all are exact in the client. -/
def MAX_SAFE_INTEGER : Int := 2 ^ 53 - 1

end VRCStreamer
