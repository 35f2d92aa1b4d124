import VRCStreamer.Concurrency.Transition

/-!
# The source of a video

Hiding and unhiding a live video source: `setVideoSourceHidden` and `createVideoStreamer` of
`streamer.js`, and the source half of `video-worker.js`. The page hands clones of the capture track
over to the worker; messages arrive in order on both ways. A step ends where the code waits: for
`applyConstraints`, for the reply to a message, for a reader to be cancelled, for a frame or a
timer. Failures that end the worker are left out.
-/

namespace VRCStreamer

open Concurrency

def SOURCE_BUFFER_FRAMES : Nat := 2

/-- A message about the source. Tracks are numbered in the order of their cloning. -/
inductive SourceMessage
  | source (track : Nat)
  | placeholder
  deriving DecidableEq

/-- What the canvas shows. -/
inductive Picture
  | placeholder
  | captured (track : Nat)
  deriving DecidableEq

/-! ## The worker -/

/-- `reads` are the calls of `readSource` that wait for a frame, each with its generation, and
`sourceBuffer` holds frames by their tracks. `handling` is the message whose handler waits in
`stopSource`. -/
structure VideoWorker where
  placeholder : Bool
  sourceReader : Option Nat
  sourceGeneration : Nat
  reads : List (Nat × Nat)
  sourceBuffer : List Nat
  renderedSourceFrame : Bool
  canvas : Picture
  handling : Option SourceMessage
  deriving DecidableEq

namespace VideoWorker

def enterPlaceholder (w : VideoWorker) : VideoWorker :=
  { w with sourceBuffer := [], renderedSourceFrame := false, placeholder := true }

def onSourceFrame (w : VideoWorker) (track : Nat) : VideoWorker :=
  let buffer := if w.sourceBuffer.length = SOURCE_BUFFER_FRAMES then w.sourceBuffer.tail
    else w.sourceBuffer
  { w with
    sourceBuffer := buffer ++ [track]
    renderedSourceFrame := if w.placeholder then false else w.renderedSourceFrame
    placeholder := false }

/-- `stopSource` up to the wait for the reader. -/
def stopSource (w : VideoWorker) : VideoWorker :=
  { w with sourceGeneration := w.sourceGeneration + 1, sourceReader := none }

/-- `handleMessage` up to the wait. -/
def handleMessage (w : VideoWorker) : SourceMessage → VideoWorker
  | .source track => { w.stopSource with handling := some (.source track) }
  | .placeholder =>
    if w.placeholder = true ∧ w.sourceReader = none then w
    else { w.stopSource with handling := some .placeholder }

/-- `setSource` behind the wait. -/
def setSource (w : VideoWorker) (track : Nat) : VideoWorker :=
  let w := if w.placeholder then w else w.enterPlaceholder
  { w with
    sourceReader := some track
    sourceGeneration := w.sourceGeneration + 1
    reads := (track, w.sourceGeneration + 1) :: w.reads
    handling := none }

/-- `usePlaceholder` behind the wait. -/
def usePlaceholder (w : VideoWorker) : VideoWorker :=
  { w.enterPlaceholder with handling := none }

/-- A call of `readSource` gets a frame; one of an older generation returns. -/
def readFrame (w : VideoWorker) (track generation : Nat) : VideoWorker :=
  if generation = w.sourceGeneration then w.onSourceFrame track
  else { w with reads := w.reads.filter (· ≠ (track, generation)) }

/-- A call of `readSource` gets no more frames. -/
def readDone (w : VideoWorker) (track generation : Nat) : VideoWorker :=
  let w' := { w with reads := w.reads.filter (· ≠ (track, generation)) }
  if generation = w.sourceGeneration then
    { w'.enterPlaceholder with
      sourceReader := if w.sourceReader = some track then none else w.sourceReader }
  else w'

/-- A frame of `runPacing`: what the canvas shows behind it. A frame that the encoder has no room
for is not drawn. -/
def runPacing (w : VideoWorker) (bufferReady accepted : Bool) : VideoWorker :=
  let sourceReady := !w.placeholder &&
    (w.renderedSourceFrame || SOURCE_BUFFER_FRAMES ≤ w.sourceBuffer.length || bufferReady)
  let source := if sourceReady then w.sourceBuffer.head? else none
  let showPlaceholder := w.placeholder || (!w.renderedSourceFrame && source.isNone)
  let w := { w with sourceBuffer := if sourceReady then w.sourceBuffer.tail else w.sourceBuffer }
  if accepted then
    { w with
      canvas :=
        match source with
        | some track => .captured track
        | none => if showPlaceholder then .placeholder else w.canvas
      renderedSourceFrame := w.renderedSourceFrame || source.isSome }
  else w

end VideoWorker

/-! ## The page -/

/-- `constraining` are the clones whose `applyConstraints` is running, `pendingSource` is the clone
that the worker has not replied to, and `stopped` are the tracks that were stopped. -/
structure VideoPage where
  videoHidden : Bool
  constraining : List Nat
  pendingSource : Option Nat
  processorTrack : Option Nat
  stopped : List Nat
  clones : Nat
  deriving DecidableEq

namespace VideoPage

/-- `placeholder` of the video streamer. -/
def hide (page : VideoPage) : VideoPage :=
  { page with
    videoHidden := true
    stopped := page.processorTrack.toList ++ page.stopped
    processorTrack := none }

/-- `setSource` of the video streamer up to `applyConstraints`. -/
def unhide (page : VideoPage) : VideoPage :=
  { page with
    videoHidden := false
    constraining := page.clones :: page.constraining
    clones := page.clones + 1 }

/-- A source change that is refused hides the source. -/
def refuse (page : VideoPage) (track : Nat) : VideoPage :=
  { page with
    videoHidden := true
    constraining := page.constraining.erase track
    stopped := track :: page.stopped }

def handOver (page : VideoPage) (track : Nat) : VideoPage :=
  { page with constraining := page.constraining.erase track, pendingSource := some track }

/-- The reply to a source: the track in front of it is stopped. -/
def sourceReady (page : VideoPage) : VideoPage :=
  match page.pendingSource with
  | none => page
  | some track =>
    { page with
      pendingSource := none
      stopped := page.processorTrack.toList ++ page.stopped
      processorTrack := some track }

end VideoPage

/-! ## Both together -/

/-- `replies` counts the `source-ready` messages on their way. Two fields are history: `sent` is the
last message to the worker, and `pictures` are those submitted to the encoder, the newest first. -/
structure VideoSource where
  page : VideoPage
  messages : List SourceMessage
  worker : VideoWorker
  replies : Nat
  sent : SourceMessage
  pictures : List Picture
  deriving DecidableEq

inductive SourceAction
  | toggle
  | constrained (track : Nat)
  | handle
  | readerCancelled
  | frame (track generation : Nat)
  | done (track generation : Nat)
  | pace (bufferReady accepted : Bool)
  | reply
  deriving DecidableEq

namespace VideoSource

def post (s : VideoSource) (message : SourceMessage) : VideoSource :=
  { s with messages := s.messages ++ [message], sent := message }

/-- `toggleVideoSourceHidden`. -/
def toggle (s : VideoSource) : VideoSource :=
  if s.page.videoHidden then { s with page := s.page.unhide }
  else { s with page := s.page.hide }.post .placeholder

/-- `setSource` of the video streamer behind `applyConstraints`. One source change runs at a
time. -/
def constrained (s : VideoSource) (track : Nat) : VideoSource :=
  match s.page.pendingSource with
  | some _ => { s with page := s.page.refuse track }
  | none => { s with page := s.page.handOver track }.post (.source track)

def pace (s : VideoSource) (bufferReady accepted : Bool) : VideoSource :=
  let worker := s.worker.runPacing bufferReady accepted
  { s with worker, pictures := if accepted then worker.canvas :: s.pictures else s.pictures }

def step (s : VideoSource) : SourceAction → Option VideoSource
  | .toggle => some s.toggle
  | .constrained track => if track ∈ s.page.constraining then some (s.constrained track) else none
  | .handle =>
    match s.worker.handling, s.messages with
    | none, message :: messages =>
      some { s with messages, worker := s.worker.handleMessage message }
    | _, _ => none
  | .readerCancelled =>
    match s.worker.handling with
    | none => none
    | some (.source track) =>
      some { s with worker := s.worker.setSource track, replies := s.replies + 1 }
    | some .placeholder => some { s with worker := s.worker.usePlaceholder }
  | .frame track generation =>
    if (track, generation) ∈ s.worker.reads then
      some { s with worker := s.worker.readFrame track generation }
    else none
  -- frames end when the track is stopped or the reader is cancelled
  | .done track generation =>
    if (track, generation) ∈ s.worker.reads ∧
        (track ∈ s.page.stopped ∨ generation ≠ s.worker.sourceGeneration) then
      some { s with worker := s.worker.readDone track generation }
    else none
  | .pace bufferReady accepted => some (s.pace bufferReady accepted)
  | .reply =>
    if 0 < s.replies then some { s with page := s.page.sourceReady, replies := s.replies - 1 }
    else none

/-- A source that is shown. -/
def system : System VideoSource SourceAction where
  start :=
    { page :=
        { videoHidden := false
          constraining := []
          pendingSource := none
          processorTrack := some 0
          stopped := []
          clones := 1 }
      messages := []
      worker :=
        { placeholder := true
          sourceReader := some 0
          sourceGeneration := 3
          reads := [(0, 3)]
          sourceBuffer := []
          renderedSourceFrame := false
          canvas := .placeholder
          handling := none }
      replies := 0
      sent := .source 0
      pictures := [] }
  step := step

end VideoSource

end VRCStreamer
