import VRCStreamer.Admission.Accounting
import VRCStreamer.Admission.AudioIngest
import VRCStreamer.Admission.ChangingRate
import VRCStreamer.Admission.Connection
import VRCStreamer.Admission.HttpLimit
import VRCStreamer.Admission.IpLimits
import VRCStreamer.Admission.TokenBucket
import VRCStreamer.Blacklist.Bans
import VRCStreamer.Blacklist.History
import VRCStreamer.Blacklist.Parse
import VRCStreamer.Channel.Counters
import VRCStreamer.Channel.Effect
import VRCStreamer.Channel.Invariant
import VRCStreamer.Channel.Map
import VRCStreamer.Channel.Sequential
import VRCStreamer.Client.AacEncoder
import VRCStreamer.Client.AudioCapture
import VRCStreamer.Client.AudioEvents
import VRCStreamer.Client.AudioPacing
import VRCStreamer.Client.AudioSwap
import VRCStreamer.Client.AvcDescription
import VRCStreamer.Client.CapturedFrames
import VRCStreamer.Client.ClosedOnce
import VRCStreamer.Client.Congestion
import VRCStreamer.Client.FrameCustody
import VRCStreamer.Client.FramePacing
import VRCStreamer.Client.FrameTimestamps
import VRCStreamer.Client.HiddenSource
import VRCStreamer.Client.PacedWorker
import VRCStreamer.Client.Packets
import VRCStreamer.Client.QuantizerBlock
import VRCStreamer.Client.RateControl
import VRCStreamer.Client.Transport
import VRCStreamer.Client.TransportWorker
import VRCStreamer.Client.Upload
import VRCStreamer.Client.UploadHandle
import VRCStreamer.Client.UploadLinks
import VRCStreamer.Client.VideoMetering
import VRCStreamer.Client.VideoQuality
import VRCStreamer.Client.VideoSource
import VRCStreamer.Codec.Base64
import VRCStreamer.Codec.BigEndian
import VRCStreamer.Codec.Bits
import VRCStreamer.Codec.Complete
import VRCStreamer.Codec.Json
import VRCStreamer.Codec.Reading
import VRCStreamer.Codec.Rtcp
import VRCStreamer.Codec.SelfDelimiting
import VRCStreamer.Codec.Slices
import VRCStreamer.Codec.Truncation
import VRCStreamer.Concurrency.Broadcast
import VRCStreamer.Concurrency.Notify
import VRCStreamer.Concurrency.RwLock
import VRCStreamer.Concurrency.Threads
import VRCStreamer.Concurrency.Transition
import VRCStreamer.Concurrency.Worker
import VRCStreamer.Constants
import VRCStreamer.History.Since
import VRCStreamer.Listener.Accounting
import VRCStreamer.Listener.Audio
import VRCStreamer.Listener.Context
import VRCStreamer.Listener.Effect
import VRCStreamer.Listener.RtpTime
import VRCStreamer.Listener.Task
import VRCStreamer.Listener.Video
import VRCStreamer.Live.Anchor
import VRCStreamer.Live.Channel
import VRCStreamer.Live.Decodable
import VRCStreamer.Live.Delivery
import VRCStreamer.Live.Effect
import VRCStreamer.Live.Invariant
import VRCStreamer.Live.Listener
import VRCStreamer.Live.Relay
import VRCStreamer.Live.Tracks
import VRCStreamer.Live.Wakeup
import VRCStreamer.Media.Acceptance
import VRCStreamer.Media.AnnexB
import VRCStreamer.Media.ByteStream
import VRCStreamer.Media.Fmtp
import VRCStreamer.Media.MessageLimit
import VRCStreamer.Media.StreamerFrame
import VRCStreamer.Media.Timestamps
import VRCStreamer.Policing.Bucket
import VRCStreamer.Policing.Changing
import VRCStreamer.Policing.Hysteresis
import VRCStreamer.Policing.Window
import VRCStreamer.Presets.Client
import VRCStreamer.Presets.Server
import VRCStreamer.Publisher.Ingest
import VRCStreamer.Publisher.Metering
import VRCStreamer.Publisher.Published
import VRCStreamer.Publisher.Reload
import VRCStreamer.Publisher.Session
import VRCStreamer.Publisher.Steps
import VRCStreamer.Publisher.Teardown
import VRCStreamer.Rtp.Clock
import VRCStreamer.Rtp.Elapsed
import VRCStreamer.Rtp.MediaSync
import VRCStreamer.Rtp.Packet
import VRCStreamer.Rtp.Reporter
import VRCStreamer.Rtp.RoundTrip
import VRCStreamer.Rtp.SenderReport
import VRCStreamer.Rtp.State
import VRCStreamer.Rtp.Timeline
import VRCStreamer.Rtp.Wire
import VRCStreamer.Rtp.Writer
import VRCStreamer.Rtsp.Announce
import VRCStreamer.Rtsp.AudioTrack
import VRCStreamer.Rtsp.Binding
import VRCStreamer.Rtsp.Echo
import VRCStreamer.Rtsp.Effect
import VRCStreamer.Rtsp.Framing
import VRCStreamer.Rtsp.Handler
import VRCStreamer.Rtsp.Input
import VRCStreamer.Rtsp.Interleaved
import VRCStreamer.Rtsp.Player
import VRCStreamer.Rtsp.Promise
import VRCStreamer.Rtsp.Refusal
import VRCStreamer.Rtsp.Session
import VRCStreamer.Rtsp.SharedWriter
import VRCStreamer.Rtsp.TrackNames
import VRCStreamer.Rtsp.Uri
import VRCStreamer.Serial.Ticks
import VRCStreamer.Serial.Unwrap
import VRCStreamer.Stats.Hello
import VRCStreamer.Table.Basic
import VRCStreamer.Table.Custody
import VRCStreamer.Table.KeyRing
import VRCStreamer.Text.Basic
import VRCStreamer.Text.Fields
import VRCStreamer.Text.Lines
import VRCStreamer.Text.Numerals
import VRCStreamer.Text.Runs
import VRCStreamer.Text.Utf8
