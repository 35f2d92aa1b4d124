import VRCStreamer.Concurrency.Transition

/-!
# The quality of a video

Changes of the video quality in one publisher session: `setVideoQuality`, `createVideoWorker` and
`createVideoStreamer` of `streamer.js`, the encoder of `video-worker.js`, and the preset that the
server meters video by. Messages arrive in order on every way. A step ends where the code waits: for
`applyConstraints`, for a message, for the support or the flush of an encoder, for a reader to be
cancelled. Of the messages to the worker those stay that its encoder depends on, and the sources; of
those to the server the quality and the frames. Every error that closes the worker is `failed`.
-/

namespace VRCStreamer

open Concurrency

/-- What an encoder is configured with. -/
structure VideoPreset where
  width : Nat
  height : Nat
  fps : Nat
  bitrate : Nat
  deriving DecidableEq

inductive EncoderMessage
  | init (preset : VideoPreset)
  | source
  | reconfigure (preset : VideoPreset)
  | resume
  deriving DecidableEq

/-- A packet is named by the preset of the encoder that the frame was given to. -/
inductive EncoderReply
  | ready
  | sourceReady
  | packet (preset : VideoPreset)
  | reconfigured
  | reconfigureError
  deriving DecidableEq

/-- What a handler of the worker waits for: `reconfigure` first asks for the support of the encoder
and then flushes the one in use. -/
inductive EncoderTask
  | initializing (preset : VideoPreset)
  | cancelling
  | supporting (preset : VideoPreset)
  | flushing (preset : VideoPreset)
  deriving DecidableEq

/-- A video message to the server. -/
inductive IngestMessage
  | videoQuality (index : Nat)
  | frame (preset : VideoPreset)
  deriving DecidableEq

/-! ## The worker -/

/-- `encoding` are the frames that the encoder was given and has not put out. A worker without an
encoder is closed. -/
structure EncoderWorker where
  encoder : Option VideoPreset
  paused : Bool
  encoding : List VideoPreset
  handling : Option EncoderTask
  deriving DecidableEq

inductive EncoderEvent
  | proceed
  | refuse
  | submit
  | output
  deriving DecidableEq

namespace EncoderWorker

/-- `handleMessage` up to the first wait. -/
def handleMessage (w : EncoderWorker) : EncoderMessage → EncoderWorker
  | .init preset =>
    { encoder := none, paused := false, encoding := [], handling := some (.initializing preset) }
  | .source => if w.encoder = none then w else { w with handling := some .cancelling }
  | .reconfigure preset =>
    if w.encoder = none then w else { w with handling := some (.supporting preset) }
  | .resume => if w.encoder = none then w else { w with paused := false }

/-- A handler goes on behind its wait. -/
def proceed (w : EncoderWorker) : Option (EncoderWorker × List EncoderReply) :=
  match w.handling with
  | none => none
  | some (.initializing preset) =>
    some ({ w with encoder := some preset, handling := none }, [.ready])
  | some .cancelling => some ({ w with handling := none }, [.sourceReady])
  | some (.supporting preset) =>
    some ({ w with paused := true, handling := some (.flushing preset) }, [])
  -- a flush is over when every frame is out
  | some (.flushing preset) =>
    if w.encoding = [] then
      some ({ w with encoder := some preset, handling := none }, [.reconfigured])
    else none

/-- `reconfigure` throws. -/
def refuse (w : EncoderWorker) : Option (EncoderWorker × List EncoderReply) :=
  match w.handling with
  | some (.supporting _) | some (.flushing _) =>
    some ({ w with paused := false, handling := none }, [.reconfigureError])
  | _ => none

/-- `submitFrame`. -/
def submit (w : EncoderWorker) : Option (EncoderWorker × List EncoderReply) :=
  match w.encoder, w.paused with
  | some preset, false => some ({ w with encoding := w.encoding ++ [preset] }, [])
  | _, _ => none

/-- The encoder puts out a frame. -/
def output (w : EncoderWorker) : Option (EncoderWorker × List EncoderReply) :=
  match w.encoding with
  | [] => none
  | preset :: encoding => some ({ w with encoding }, [.packet preset])

def perform (w : EncoderWorker) : EncoderEvent → Option (EncoderWorker × List EncoderReply)
  | .proceed => w.proceed
  | .refuse => w.refuse
  | .submit => w.submit
  | .output => w.output

end EncoderWorker

/-! ## The page -/

/-- A worker that the page has not closed. `constraining` are the qualities of the calls of
`reconfigure` that wait for `applyConstraints`; closing the worker rejects all of them. -/
structure VideoLink (presets : List VideoPreset) where
  ready : Bool
  processorTrack : Bool
  pendingSource : Bool
  constraining : List (Fin presets.length)
  pendingReconfigure : Option (Fin presets.length)
  messages : List EncoderMessage
  worker : EncoderWorker
  replies : List EncoderReply
  deriving DecidableEq

/-- `app.active.video` is null up to the end of the start. -/
inductive VideoSlot
  | empty
  | starting
  | active
  deriving DecidableEq

/-- `config` is the quality of the page and `videoQuality` the index that the server has selected.
`metered` is history: the frames received, each with the index selected at that moment. -/
structure VideoSession (presets : List VideoPreset) where
  config : VideoPreset
  slot : VideoSlot
  link : Option (VideoLink presets)
  ws : List IngestMessage
  videoQuality : Nat
  closed : Bool
  metered : List (Nat × VideoPreset)
  deriving DecidableEq

inductive QualityAction (presets : List VideoPreset)
  | setVideoQuality (index : Fin presets.length)
  | constrained (index : Fin presets.length)
  | start
  | setSource
  | started
  | startFailed
  | stop
  | failed
  | handle
  | encoder (event : EncoderEvent)
  | reply (dropped : Bool)
  | receive
  deriving DecidableEq

variable {presets : List VideoPreset}

namespace VideoLink

/-- `createVideoWorker` and its `init`. -/
def create (config : VideoPreset) : VideoLink presets where
  ready := false
  processorTrack := false
  pendingSource := false
  constraining := []
  pendingReconfigure := none
  messages := [.init config]
  worker := { encoder := none, paused := false, encoding := [], handling := none }
  replies := []

/-- `source` of the worker. One source change runs at a time. -/
def source (link : VideoLink presets) : VideoLink presets :=
  if link.pendingSource then link
  else { link with pendingSource := true, messages := link.messages ++ [.source] }

/-- `reconfigure` of the worker, behind `applyConstraints`. One of them runs at a time. -/
def reconfigure (link : VideoLink presets) (index : Fin presets.length) : VideoLink presets :=
  let link := { link with constraining := link.constraining.erase index }
  match link.pendingReconfigure with
  | some _ => link
  | none =>
    { link with
      pendingReconfigure := some index
      messages := link.messages ++ [.reconfigure (presets.get index)] }

end VideoLink

namespace VideoSession

def send (s : VideoSession presets) (message : IngestMessage) : VideoSession presets :=
  { s with ws := s.ws ++ [message] }

/-- `setVideoQuality` up to the wait. A worker that is closed rejects the change. -/
def setVideoQuality (s : VideoSession presets) (index : Fin presets.length) :
    VideoSession presets :=
  match s.slot, s.link with
  | .active, some link =>
    { s with link := some { link with constraining := index :: link.constraining } }
  | .active, none => s
  | _, _ => { s with config := presets.get index }.send (.videoQuality index)

/-- `onmessage` of the worker, with what goes on behind the promises that it resolves. A packet is
dropped while the transport is paused. -/
def onMessage (s : VideoSession presets) (link : VideoLink presets) (dropped : Bool) :
    EncoderReply → VideoSession presets
  | .ready => { s with link := some { link with ready := true } }
  | .sourceReady =>
    let processorTrack := link.pendingSource || link.processorTrack
    { s with link := some { link with pendingSource := false, processorTrack } }
  | .packet preset =>
    let s := { s with link := some link }
    if dropped then s else s.send (.frame preset)
  | .reconfigured =>
    match link.pendingReconfigure with
    | none => { s with link := some link }
    | some index =>
      let link :=
        { link with
          pendingReconfigure := none
          messages := link.messages ++ [EncoderMessage.resume] }
      { s with config := presets.get index, link := some link }.send (.videoQuality index)
  | .reconfigureError => { s with link := some { link with pendingReconfigure := none } }

/-- A message arrives at the server. -/
def receive (s : VideoSession presets) : IngestMessage → VideoSession presets
  | .videoQuality index =>
    if index < presets.length then { s with videoQuality := index } else { s with closed := true }
  | .frame preset => { s with metered := s.metered ++ [(s.videoQuality, preset)] }

def step (s : VideoSession presets) : QualityAction presets → Option (VideoSession presets)
  | .setVideoQuality index => some (s.setVideoQuality index)
  | .constrained index =>
    match s.link with
    | none => none
    | some link =>
      if index ∈ link.constraining then some { s with link := some (link.reconfigure index) }
      else none
  | .start =>
    match s.slot with
    | .empty => some { s with slot := .starting, link := some (.create s.config) }
    | _ => none
  | .setSource =>
    match s.link with
    | none => none
    | some link => if link.ready then some { s with link := some link.source } else none
  | .started =>
    match s.slot, s.link with
    | .starting, some link =>
      if link.ready ∧ link.processorTrack then some { s with slot := .active } else none
    | _, _ => none
  | .startFailed =>
    match s.slot with
    | .starting => some { s with slot := .empty, link := none }
    | _ => none
  | .stop =>
    match s.slot with
    | .active => some { s with slot := .empty, link := none }
    | _ => none
  | .failed => some { s with link := none }
  | .handle =>
    match s.link with
    | none => none
    | some link =>
      match link.worker.handling, link.messages with
      | none, message :: messages =>
        let worker := link.worker.handleMessage message
        some { s with link := some { link with messages, worker } }
      | _, _ => none
  | .encoder event =>
    match s.link with
    | none => none
    | some link =>
      (link.worker.perform event).map fun (worker, replies) =>
        { s with link := some { link with worker, replies := link.replies ++ replies } }
  | .reply dropped =>
    match s.link with
    | none => none
    | some link =>
      match link.replies with
      | [] => none
      | reply :: replies => some (s.onMessage { link with replies } dropped reply)
  | .receive =>
    match s.closed, s.ws with
    | false, message :: ws => some ({ s with ws }.receive message)
    | _, _ => none

/-- A session without a video. The page has sent the quality that the server's hello left it
with. -/
def system (presets : List VideoPreset) (quality : Fin presets.length) :
    System (VideoSession presets) (QualityAction presets) where
  start :=
    { config := presets.get quality
      slot := .empty
      link := none
      ws := [.videoQuality quality]
      videoQuality := 0
      closed := false
      metered := [] }
  step := step

end VideoSession

end VRCStreamer
