import VRCStreamer.Client.FramePacing
import VRCStreamer.Client.VideoSource

/-!
# The video worker, its frames and its timer

`video-worker.js` as one state machine. An event runs up to the next `await` of the function that
it is about: a message is handled, an awaited promise is settled, a read completes or the timer
fires. Commands wait for each other in a queue, while a failure closes the worker beside them.
What the worker counts for its statistics and the sizes of pictures are left out.
-/

namespace VRCStreamer

open Concurrency

def MAX_ENCODER_QUEUE : Nat := 2

/-- A frame that `reader.read()` returned, with the generation of the read loop. -/
structure CapturedFrame where
  index : Nat
  generation : Nat
  deriving DecidableEq

/-- What the canvas shows. -/
inductive CanvasPicture
  | blank
  | placeholder
  | captured (frame : CapturedFrame)
  deriving DecidableEq

def CanvasPicture.frames : CanvasPicture → List CapturedFrame
  | captured frame => [frame]
  | _ => []

/-- A frame that the encoder was handed, with the frame rate and the audio clock of that time. -/
structure EncodedFrame (α : Type*) where
  timestamp : Int
  duration : Int
  keyFrame : Bool
  rate : FrameRate
  audioClockMs : α

structure InitMessage (α : Type*) where
  rate : FrameRate
  audioSampleRate : α
  audioClockSamples : Int

/-- A stream is `readable` when it has a `getReader`; a preset is `supported` when it fits one of
the levels of H.264. -/
inductive WorkerMessage (α : Type*)
  | init (message : InitMessage α)
  | source (readable : Bool)
  | placeholder
  | reconfigure (rate : FrameRate) (supported : Bool)
  | resume
  | transportPause
  | transportResume
  | audioClock (timestampSamples : Int)
  | close

/-- Where `closeAll` waits: in `stopSource`, for the encoder's flush, or to return. -/
inductive CloseStage
  | stopping
  | flushing
  | returning
  deriving DecidableEq

/-- A `closeAll` under way, with the number of times the worker had been opened before it. -/
structure Closing where
  stage : CloseStage
  opening : Nat
  deriving DecidableEq

/-- The command that is being handled, by the promise that it waits for. -/
inductive Command (α : Type*)
  | init (message : InitMessage α) (closing : Closing)
  | encoderSupport (message : InitMessage α)
  | placeholderImage (message : InitMessage α)
  | setSource
  | usePlaceholder
  | reconfigure (rate : FrameRate)
  | flush (rate : FrameRate)
  | close (closing : Closing)
  | fail (closing : Closing)

/-- How the promise of a command is settled, and what the calls after it give. -/
structure Settlement (α : Type*) where
  fulfilled : Bool
  configured : Bool
  closes : Bool
  now : α
  next : α

inductive ReadResult
  | frame
  | done
  | error
  deriving DecidableEq

/-- The times that one call of `runPacing` reads. -/
structure PacingTimes (α : Type*) where
  elapsed : α
  fresh : α
  ready : α
  next : α

/-- What the encoder does with a frame. -/
structure EncoderConditions where
  configured : Bool
  encodeQueueSize : Nat
  encodes : Bool

inductive SubmitResult
  | submitted
  | skipped
  | failed
  deriving DecidableEq

/-- A reader is named by the generation of its loop, and `reads` are the generations of the loops
that wait for a frame. `closings` are the calls of `closeAll` outside the queue, with the read
loop that waits for one. The last nine fields record what has happened: the frames that were
returned, closed, drawn and shown to the encoder, what it was handed since the worker was opened,
the generations at which `source-ready` was sent and at which the placeholder was entered, how
often the worker was opened, and the opening at which every finished `closeAll` began. -/
structure PacedWorker (α : Type*) where
  pacing : FramePacing α
  closed : Bool
  failed : Bool
  paused : Bool
  networkPaused : Bool
  placeholder : Bool
  encoder : Bool
  canvas : Option CanvasPicture
  sourceReader : Option Nat
  sourceGeneration : Nat
  sourceBuffer : List CapturedFrame
  sourceBufferReadyAt : α
  renderedSourceFrame : Bool
  keyframeInterval : Nat
  framePeriodUs : Int
  lastKeyframeTimestampUs : Int
  forceNextKeyframe : Bool
  command : Option (Command α)
  reads : List Nat
  closings : List (Option Nat × Closing)
  returned : List CapturedFrame
  closes : List CapturedFrame
  drawn : List CapturedFrame
  shown : List CapturedFrame
  handed : List (EncodedFrame α)
  announced : List Nat
  entered : List Nat
  openings : Nat
  finished : List Nat

namespace PacedWorker

variable {α : Type*} [Field α] [LinearOrder α] [FloorRing α] (w : PacedWorker α)

/-! ## Output -/

def Stopped : Prop := w.closed ∨ w.paused ∨ w.networkPaused

instance : Decidable w.Stopped := inferInstanceAs (Decidable (_ ∨ _))

def scheduleNextFrame (now : α) : PacedWorker α :=
  if w.Stopped ∨ w.pacing.pacingTimer ∨ ¬ w.pacing.audioClockReady then w
  else { w with pacing := w.pacing.schedule now }

def startCurrentOutput (now : α) : PacedWorker α :=
  if w.Stopped then w
  else if ¬ w.placeholder ∧ ¬ w.renderedSourceFrame ∧ w.sourceBuffer.length = 0 then w
  else w.scheduleNextFrame now

def syncAudioClock (timestampSamples : Int) (now next : α) : PacedWorker α :=
  let nextClockMs : α := (timestampSamples * 1000 : Int) / w.pacing.audioSampleRate
  if timestampSamples < 0 ∨ MAX_SAFE_INTEGER < timestampSamples then w
  else if w.pacing.audioClockReady ∧ nextClockMs ≤ w.pacing.audioClockMs then w
  else
    { w with
      pacing := w.pacing.setAudioClock nextClockMs now
      forceNextKeyframe := w.forceNextKeyframe || (w.pacing.audioClockReady &&
        AUDIO_CLOCK_KEYFRAME_GAP_MS ≤ now - w.pacing.audioClockUpdatedAt)
    }.startCurrentOutput next

/-! ## Sources -/

def clearSourceBuffer : PacedWorker α :=
  { w with closes := w.closes ++ w.sourceBuffer, sourceBuffer := [] }

def enterPlaceholder (now : α) : PacedWorker α :=
  { w.clearSourceBuffer with
    renderedSourceFrame := false
    placeholder := true
    forceNextKeyframe := true
    entered := w.entered ++ [w.sourceGeneration]
  }.startCurrentOutput now

/-- The oldest frame makes room for another one. -/
def makeRoom : PacedWorker α :=
  match w.sourceBuffer with
  | [] => w
  | oldest :: sourceBuffer =>
    if w.sourceBuffer.length = SOURCE_BUFFER_FRAMES then
      { w with sourceBuffer, closes := w.closes ++ [oldest] }
    else w

def onSourceFrame (frame : CapturedFrame) (ready now : α) : PacedWorker α :=
  { w.makeRoom with
    sourceBuffer := w.makeRoom.sourceBuffer ++ [frame]
    sourceBufferReadyAt :=
      if w.placeholder then w.pacing.mediaTimeMs ready + (1000 : Nat) / w.pacing.rate.fps
      else w.sourceBufferReadyAt
    renderedSourceFrame := if w.placeholder then false else w.renderedSourceFrame
    forceNextKeyframe := if w.placeholder then true else w.forceNextKeyframe
    placeholder := false
  }.startCurrentOutput now

/-- Up to the wait for the reader to be cancelled, after which nothing is left to do. -/
def stopSource : PacedWorker α :=
  { w with sourceGeneration := w.sourceGeneration + 1, sourceReader := none }

/-- The `finally` of `readSource`. -/
def endRead (generation : Nat) : PacedWorker α :=
  if generation = w.sourceGeneration ∧ w.sourceReader = some generation then
    { w with sourceReader := none }
  else w

/-- The loop of `readSource`, up to its next read. -/
def readOn (generation : Nat) : PacedWorker α :=
  if ¬ w.closed ∧ generation = w.sourceGeneration then { w with reads := w.reads ++ [generation] }
  else w.endRead generation

/-! ## Closing -/

def closeAll : PacedWorker α × Closing :=
  ({ w.stopSource with
      closed := true
      paused := true
      networkPaused := false
      pacing := w.pacing.clearPacingTimer },
    ⟨.stopping, w.openings⟩)

/-- What follows an `await` in `closeAll`. -/
def resumeClosing (closing : Closing) : PacedWorker α × Closing :=
  match closing.stage with
  | .stopping =>
    ({ w.clearSourceBuffer with encoder := false }, { closing with stage := .flushing })
  | .flushing =>
    ({ w with canvas := none, finished := w.finished ++ [closing.opening] },
      { closing with stage := .returning })
  | .returning => (w, closing)

/-- A second failure returns at once. -/
def fail : PacedWorker α × Closing :=
  if w.failed then (w, ⟨.returning, w.openings⟩)
  else { w with failed := true }.closeAll

/-- A failure outside the queue, and the read loop that waits for it. -/
def failBeside (generation : Option Nat) : PacedWorker α :=
  { w.fail.1 with closings := w.fail.1.closings ++ [(generation, w.fail.2)] }

/-- A command has thrown. -/
def failCommand : PacedWorker α := { w.fail.1 with command := some (.fail w.fail.2) }

/-! ## Frames -/

/-- `createOutputFrame` without its call of `VideoFrame`. -/
def drawOutput (source : Option CapturedFrame) (showPlaceholder : Bool) (canvas : CanvasPicture) :
    PacedWorker α :=
  match source with
  | some frame => { w with canvas := some (.captured frame), drawn := w.drawn ++ [frame] }
  | none => { w with canvas := some (if showPlaceholder then .placeholder else canvas) }

/-- Without a canvas nothing can be drawn. -/
def submitFrame (source : Option CapturedFrame) (showPlaceholder : Bool)
    (timestamp duration : Int) (conditions : EncoderConditions) : PacedWorker α × SubmitResult :=
  if w.Stopped ∨ ¬ w.encoder ∨ ¬ conditions.configured then (w, .skipped)
  else if MAX_ENCODER_QUEUE ≤ conditions.encodeQueueSize then (w, .skipped)
  else
    match w.canvas with
    | none => (w, .failed)
    | some canvas =>
      let drawing := w.drawOutput source showPlaceholder canvas
      if ¬ conditions.encodes then (drawing, .failed)
      else
        let keyFrame := w.forceNextKeyframe ||
          w.keyframeInterval * w.framePeriodUs ≤ timestamp - w.lastKeyframeTimestampUs
        ({ drawing with
            handed := w.handed ++
              [⟨timestamp, duration, keyFrame, w.pacing.rate, w.pacing.audioClockMs⟩]
            shown := w.shown ++ (drawing.canvas.getD canvas).frames
            forceNextKeyframe := false
            lastKeyframeTimestampUs :=
              if keyFrame then timestamp else w.lastKeyframeTimestampUs },
          .submitted)

/-- The frame that `runPacing` takes from the buffer. -/
def takeSource (ready : α) : Option CapturedFrame :=
  if ¬ w.placeholder ∧ (w.renderedSourceFrame ∨ SOURCE_BUFFER_FRAMES ≤ w.sourceBuffer.length ∨
      w.sourceBufferReadyAt ≤ w.pacing.mediaTimeMs ready) then w.sourceBuffer.head?
  else none

/-- The rest of `runPacing`, which closes the taken frame in every case. -/
def finishFrame (source : Option CapturedFrame) (next : α) :
    PacedWorker α × SubmitResult → PacedWorker α
  | (w, .submitted) =>
    { w with
      renderedSourceFrame := w.renderedSourceFrame || source.isSome
      closes := w.closes ++ source.toList
    }.scheduleNextFrame next
  | (w, .skipped) => { w with closes := w.closes ++ source.toList }.scheduleNextFrame next
  | (w, .failed) => { w.failBeside none with closes := w.closes ++ source.toList }

/-- `runPacing` once the index of the frame is known. -/
def outputFrame (frameIndex : Int) (times : PacingTimes α) (conditions : EncoderConditions) :
    PacedWorker α :=
  let timestamp := w.pacing.frameTimestampUs frameIndex
  let duration := w.pacing.frameTimestampUs (frameIndex + 1) - timestamp
  let source := w.takeSource times.ready
  let showPlaceholder := w.placeholder || (!w.renderedSourceFrame && source.isNone)
  let taken :=
    { w with
      pacing := w.pacing.setFrame frameIndex
      sourceBuffer := w.sourceBuffer.drop source.toList.length }
  finishFrame source times.next
    (taken.submitFrame source showPlaceholder timestamp duration conditions)

variable [IsStrictOrderedRing α]

/-- The timer fires. -/
def runPacing (times : PacingTimes α) (conditions : EncoderConditions) : Option (PacedWorker α) :=
  if ¬ w.pacing.pacingTimer then none
  else some <|
    let elapsedMs := w.pacing.mediaTimeMs times.elapsed
    if w.Stopped then { w with pacing := w.pacing.clearPacingTimer }
    else if elapsedMs < w.pacing.scheduledAtMs then
      if ¬ w.pacing.audioClockIsFresh times.fresh then
        { w with pacing := w.pacing.clearPacingTimer }
      else w
    else
      { w with pacing := w.pacing.clearPacingTimer }.outputFrame
        (w.pacing.nextFrameIndex elapsedMs) times conditions

/-! ## Commands -/

omit [IsStrictOrderedRing α]

/-- The `catch` of `reconfigure`. -/
def reconfigureError (now : α) : PacedWorker α :=
  { { w with paused := false }.startCurrentOutput now with command := none }

/-- `reconfigure` after the flush of the previous encoder. -/
def applyRate (rate : FrameRate) (settlement : Settlement α) : PacedWorker α :=
  let switched := { w with encoder := true }
  if ¬ settlement.closes then switched.reconfigureError settlement.now
  else
    let framePeriodUs := round (rate.periodUs : α)
    let rated :=
      { switched with
        pacing := w.pacing.setRate rate
        keyframeInterval := rate.fps
        framePeriodUs }
    if w.canvas.isNone then rated.reconfigureError settlement.now
    else
      { rated with
        canvas := some .blank
        lastKeyframeTimestampUs := w.pacing.lastTimestampUs - rate.fps * framePeriodUs
        forceNextKeyframe := true
        command := none }

/-- `init` after `closeAll`, up to the check of the sample rate. -/
def openWorker (message : InitMessage α) : PacedWorker α :=
  { w with
    failed := false
    closed := false
    paused := false
    networkPaused := false
    placeholder := true
    pacing := { w.pacing with
      rate := message.rate
      audioSampleRate := message.audioSampleRate }
    keyframeInterval := message.rate.fps
    framePeriodUs := round (message.rate.periodUs : α)
    entered := w.entered ++ [w.sourceGeneration]
    openings := w.openings + 1 }

/-- The rest of `init` up to its check of the encoder's support. -/
def resetWorker (message : InitMessage α) : PacedWorker α :=
  { w with
    pacing := { w.pacing with
      audioClockMs := 0
      audioClockUpdatedAt := 0
      audioClockReady := false
      lastFrameIndex := -1
      lastTimestampUs := -1
      scheduledFrameIndex := 0 }
    sourceBuffer := []
    sourceBufferReadyAt := 0
    renderedSourceFrame := false
    lastKeyframeTimestampUs := -(w.keyframeInterval * w.framePeriodUs)
    forceNextKeyframe := true
    handed := []
    command := some (.encoderSupport message) }

def leaveSource (now : α) : PacedWorker α :=
  if ¬ w.placeholder then w.enterPlaceholder now else w

/-- A reader of the next generation. -/
def attachReader : PacedWorker α :=
  { w with
    sourceReader := some (w.sourceGeneration + 1)
    sourceGeneration := w.sourceGeneration + 1
  }.readOn (w.sourceGeneration + 1)

/-- `setSource` after `stopSource`. -/
def attachSource (settlement : Settlement α) : PacedWorker α :=
  let left := w.leaveSource settlement.now
  if ¬ settlement.configured then left.failCommand
  else
    { left.attachReader with
      announced := left.attachReader.announced ++ [left.attachReader.sourceGeneration]
      command := none }

/-- The promise of the command is settled. A `closeAll` of the command goes on by its stages. -/
def resumeCommand (settlement : Settlement α) : Command α → PacedWorker α
  | .init message closing =>
    if closing.stage ≠ .returning then
      { (w.resumeClosing closing).1 with
        command := some (.init message (w.resumeClosing closing).2) }
    else if message.audioSampleRate ≤ 0 then (w.openWorker message).failCommand
    else if ¬ settlement.configured then
      ((w.openWorker message).resetWorker message).failCommand
    else (w.openWorker message).resetWorker message
  | .encoderSupport message =>
    if ¬ settlement.fulfilled then w.failCommand
    else
      let drawable := { w with canvas := some .blank }
      if ¬ settlement.configured then drawable.failCommand
      else { drawable with encoder := true, command := some (.placeholderImage message) }
  | .placeholderImage message =>
    if ¬ settlement.fulfilled then w.failCommand
    else
      { w.syncAudioClock message.audioClockSamples settlement.now settlement.next with
        command := none }
  | .setSource => w.attachSource settlement
  | .usePlaceholder => { w.enterPlaceholder settlement.now with command := none }
  | .reconfigure rate =>
    if ¬ settlement.fulfilled ∨ ¬ settlement.configured then w.reconfigureError settlement.now
    else
      let waiting := { w with paused := true, pacing := w.pacing.clearPacingTimer }
      if ¬ w.encoder then waiting.reconfigureError settlement.now
      else { waiting with command := some (.flush rate) }
  | .flush rate =>
    if ¬ settlement.fulfilled then w.reconfigureError settlement.now
    else w.applyRate rate settlement
  | .close closing =>
    if closing.stage ≠ .returning then
      { (w.resumeClosing closing).1 with command := some (.close (w.resumeClosing closing).2) }
    else { w with command := none }
  | .fail closing =>
    if closing.stage ≠ .returning then
      { (w.resumeClosing closing).1 with command := some (.fail (w.resumeClosing closing).2) }
    else { w with command := none }

def handleMessage (now next : α) : WorkerMessage α → PacedWorker α
  | .init message => { w.closeAll.1 with command := some (.init message w.closeAll.2) }
  | .source readable =>
    if w.closed then w
    else if ¬ readable then w.failCommand
    else { w.stopSource with command := some .setSource }
  | .placeholder =>
    if w.closed then w
    else if w.placeholder ∧ w.sourceReader.isNone then w
    else { w.stopSource with command := some .usePlaceholder }
  | .reconfigure rate supported =>
    if w.closed then w
    else if ¬ supported then w.failCommand
    else { w with command := some (.reconfigure rate) }
  | .resume =>
    if w.closed then w
    else { w with paused := false, forceNextKeyframe := true }.startCurrentOutput now
  | .transportPause =>
    if w.closed then w
    else { w with networkPaused := true, pacing := w.pacing.clearPacingTimer }
  | .transportResume =>
    if w.closed then w
    else { w with networkPaused := false, forceNextKeyframe := true }.startCurrentOutput now
  | .audioClock timestampSamples =>
    if w.closed then w else w.syncAudioClock timestampSamples now next
  | .close => { w.closeAll.1 with command := some (.close w.closeAll.2) }

/-! ## Read loops -/

/-- A read of a loop completes. -/
def finishRead (generation : Nat) (ready now : α) : ReadResult → PacedWorker α
  | .frame =>
    let frame : CapturedFrame := ⟨w.returned.length, generation⟩
    let returned := { w with returned := w.returned ++ [frame] }
    if generation ≠ w.sourceGeneration then
      { returned with closes := w.closes ++ [frame] }.endRead generation
    else (returned.onSourceFrame frame ready now).readOn generation
  | .done =>
    if generation ≠ w.sourceGeneration ∨ w.closed then w.endRead generation
    else (w.enterPlaceholder now).endRead generation
  | .error =>
    if generation ≠ w.sourceGeneration ∨ w.closed then w.endRead generation
    else w.failBeside (some generation)

/-- A `closeAll` outside the queue goes on. -/
def resumeBeside (index : Nat) : Option (PacedWorker α) :=
  w.closings[index]?.map fun (generation, closing) =>
    if closing.stage ≠ .returning then
      { (w.resumeClosing closing).1 with
        closings := w.closings.set index (generation, (w.resumeClosing closing).2) }
    else
      let resumed := { w with closings := w.closings.eraseIdx index }
      match generation with
      | some generation => resumed.endRead generation
      | none => resumed

end PacedWorker

inductive WorkerEvent (α : Type*)
  | message (message : WorkerMessage α) (now next : α)
  | settle (settlement : Settlement α)
  | read (generation : Nat) (result : ReadResult) (ready now : α)
  | closing (index : Nat)
  | pacingTimer (times : PacingTimes α) (conditions : EncoderConditions)
  | encoderError

namespace PacedWorker

variable {α : Type*} [Field α] [LinearOrder α] [FloorRing α] [IsStrictOrderedRing α]

/-- Before the first `init`. -/
def initial (rate : FrameRate) : PacedWorker α where
  pacing := ⟨rate, 48000, 0, 0, false, false, 0, -1, -1⟩
  closed := true
  failed := false
  paused := false
  networkPaused := false
  placeholder := false
  encoder := false
  canvas := none
  sourceReader := none
  sourceGeneration := 0
  sourceBuffer := []
  sourceBufferReadyAt := 0
  renderedSourceFrame := false
  keyframeInterval := 30
  framePeriodUs := 33333
  lastKeyframeTimestampUs := -2000000
  forceNextKeyframe := false
  command := none
  reads := []
  closings := []
  returned := []
  closes := []
  drawn := []
  shown := []
  handed := []
  announced := []
  entered := []
  openings := 0
  finished := []

def step (w : PacedWorker α) : WorkerEvent α → Option (PacedWorker α)
  | .message message now next =>
    if w.command.isSome then none else some (w.handleMessage now next message)
  | .settle settlement => w.command.map (w.resumeCommand settlement)
  | .read generation result ready now =>
    if generation ∈ w.reads then
      some ({ w with reads := w.reads.erase generation }.finishRead generation ready now result)
    else none
  | .closing index => w.resumeBeside index
  | .pacingTimer times conditions => w.runPacing times conditions
  | .encoderError => if w.closed then none else some (w.failBeside none)

end PacedWorker

/-- The worker, with the frame rate that it has before its first `init`. -/
def videoWorker (α : Type*) [Field α] [LinearOrder α] [FloorRing α] [IsStrictOrderedRing α] :
    System (PacedWorker α) (WorkerEvent α) where
  start := .initial ⟨30, by decide, by decide⟩
  step := PacedWorker.step

end VRCStreamer
