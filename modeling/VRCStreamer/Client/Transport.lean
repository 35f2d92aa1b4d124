import VRCStreamer.Policing.Hysteresis
import VRCStreamer.Client.PacedWorker

/-!
# The upload of a publisher

The page of a publisher, one socket and the video workers that it starts one after another.
`createPublisherTransport` of `streamer.js` watches how much the socket has queued and stops the
video while that is too much; the worker hears of it by messages, so that the two sides differ
while one is under way. What the worker does with a message is the video worker's own model.

A packet is handed back in the order in which its frame was handed to the encoder. What changes
neither the transport nor the messages to a worker is left out: promises, statistics and timers
of the page, and messages such as `source-ready`. A message or a command that the page sends for
another reason may come at any time.
-/

namespace VRCStreamer

open Concurrency Policing

def wsPauseBufferedBytes : Nat := 1024 * 1024
def wsResumeBufferedBytes : Nat := 256 * 1024
def wsStallTimeoutMs : Nat := 5000

/-- What the transport calls. A video control is named by the number of its worker. -/
inductive TransportCall
  | pause (control : Nat)
  | resume (control : Nat)
  | onFailure
  deriving DecidableEq

/-- `congestedAt` is zero while the upload is not congested. -/
structure PublisherTransport (α : Type*) where
  congestedAt : α
  failed : Bool
  videoControl : Option Nat
  videoPaused : Bool

namespace PublisherTransport

variable {α : Type*} [Field α] [LinearOrder α] (transport : PublisherTransport α)

def new : PublisherTransport α := ⟨0, false, none, false⟩

def Congested : Prop := transport.congestedAt ≠ 0

instance : Decidable transport.Congested := inferInstanceAs (Decidable (_ ≠ _))

def pauseVideo : PublisherTransport α × List TransportCall :=
  match transport.videoControl with
  | none => (transport, [])
  | some control =>
    if transport.videoPaused then (transport, [])
    else ({ transport with videoPaused := true }, [.pause control])

def resumeVideo : PublisherTransport α × List TransportCall :=
  match transport.videoControl with
  | none => (transport, [])
  | some control =>
    if ¬ transport.videoPaused then (transport, [])
    else ({ transport with videoPaused := false }, [.resume control])

def abort : PublisherTransport α × List TransportCall :=
  if transport.failed then (transport, [])
  else ({ transport with failed := true }, [.onFailure])

/-- `poll` up to its check for a stall. -/
def measure (now : α) (queued : Nat) : PublisherTransport α × List TransportCall :=
  if wsPauseBufferedBytes < queued then
    { transport with
      congestedAt := if ¬ transport.Congested then now else transport.congestedAt }.pauseVideo
  else if transport.Congested ∧ queued ≤ wsResumeBufferedBytes then
    { transport with congestedAt := (0 : α) }.resumeVideo
  else (transport, [])

def Stalled (now : α) : Prop :=
  transport.Congested ∧ (wsStallTimeoutMs : α) ≤ now - transport.congestedAt

instance (now : α) : Decidable (transport.Stalled now) := inferInstanceAs (Decidable (_ ∧ _))

/-- It returns whether the transport has not failed. -/
def poll (now : α) (queued : Nat) : PublisherTransport α × List TransportCall :=
  if transport.failed then (transport, [])
  else
    let measured := transport.measure now queued
    if measured.1.Stalled now then (measured.1.abort.1, measured.2 ++ measured.1.abort.2)
    else measured

def attachVideo (control : Nat) : PublisherTransport α × List TransportCall :=
  let attached := { transport with videoControl := some control, videoPaused := false }
  if transport.Congested then attached.pauseVideo else (attached, [])

def detachVideo (control : Nat) : PublisherTransport α :=
  if transport.videoControl ≠ some control then transport
  else { transport with videoControl := none, videoPaused := false }

def close : PublisherTransport α :=
  { transport with failed := true, videoControl := none, videoPaused := false }

end PublisherTransport

/-! ## The video worker of the page -/

namespace WorkerMessage

variable {α : Type*}

/-- The messages that the page may post at any time. -/
def Free : WorkerMessage α → Prop
  | .init _ | .close | .transportPause | .transportResume => False
  | _ => True

instance (message : WorkerMessage α) : Decidable message.Free := by
  cases message <;> unfold Free <;> infer_instance

/-- How often the message tells the worker to resume. -/
def resumes : WorkerMessage α → Nat
  | .transportResume => 1
  | _ => 0

end WorkerMessage

inductive WorkerReply
  | ready
  | packet (frame byteLength : Nat)
  | closed
  | error
  deriving DecidableEq

/-- What became of the packet of a frame, and how many times the worker had been told to resume by
then. -/
structure PacketArrival where
  frame : Nat
  sent : Bool
  resumes : Nat

/-- What `createVideoWorker` keeps, with the worker and what is under way in both directions.
`output` counts the frames that the encoder has put out. The last four fields record what has
happened: the packets that arrived, how often the worker was told to resume, how often it has
handled that, and how often it had before every frame that it handed to the encoder. -/
structure VideoHandle (α : Type*) where
  closed : Bool
  readySettled : Bool
  closePromise : Bool
  transportAttached : Bool
  terminated : Bool
  worker : PacedWorker α
  messages : List (WorkerMessage α)
  replies : List WorkerReply
  output : Nat
  arrivals : List PacketArrival
  resumesPosted : Nat
  resumesHandled : Nat
  heard : List Nat

variable {α : Type*}

/-- What a step of the worker posts to the page, as far as the upload depends on it. -/
def PacedWorker.posted (w w' : PacedWorker α) (event : WorkerEvent α) : List WorkerReply :=
  (if ¬ w.failed ∧ w'.failed then [.error] else []) ++
    match event, w.command with
    | .settle settlement, some (.placeholderImage _) =>
      if settlement.fulfilled then [.ready] else []
    | .settle _, some (.close closing) => if closing.stage = .returning then [.closed] else []
    | _, _ => []

namespace VideoHandle

variable (v : VideoHandle α)

def post (message : WorkerMessage α) : VideoHandle α :=
  if v.closed then v else { v with messages := v.messages ++ [message] }

/-- `transportControl.pause`. -/
def pause : VideoHandle α := v.post .transportPause

/-- `transportControl.resume`. -/
def resume : VideoHandle α :=
  if v.closed then v
  else { v.post .transportResume with resumesPosted := v.resumesPosted + 1 }

/-- The first call of `close`. -/
def close : VideoHandle α :=
  if v.closePromise then v
  else
    { v with
      closed := true
      readySettled := true
      closePromise := true
      messages := v.messages ++ [.close] }

def arrive (frame : Nat) (sent : Bool) : VideoHandle α :=
  { v with arrivals := v.arrivals ++ [⟨frame, sent, v.resumesPosted⟩] }

/-- The encoder puts out its oldest frame. A closed worker does nothing with it. -/
def putOut (byteLength : Nat) : Option (VideoHandle α) :=
  if v.terminated ∨ v.worker.handed.length ≤ v.output then none
  else if v.worker.closed then some { v with output := v.output + 1 }
  else
    some { v with
      output := v.output + 1
      replies := v.replies ++ [.packet v.output byteLength] }

/-- The worker has made a step. -/
def advance (w : PacedWorker α) (event : WorkerEvent α) : VideoHandle α :=
  { v with
    worker := w
    replies := v.replies ++ v.worker.posted w event
    heard := v.heard ++
      List.replicate (w.handed.length - v.worker.handed.length) v.resumesHandled }

variable [Field α] [LinearOrder α] [FloorRing α] [IsStrictOrderedRing α]

/-- A new worker is sent `init` at once. -/
def create (message : InitMessage α) : VideoHandle α where
  closed := false
  readySettled := false
  closePromise := false
  transportAttached := false
  terminated := false
  worker := (videoWorker α).start
  messages := [.init message]
  replies := []
  output := 0
  arrivals := []
  resumesPosted := 0
  resumesHandled := 0
  heard := []

/-- The worker takes the oldest message. -/
def handle (now next : α) : Option (VideoHandle α) :=
  match v.messages with
  | [] => none
  | message :: messages =>
    if v.terminated then none
    else (v.worker.step (.message message now next)).map fun w =>
      { v.advance w (.message message now next) with
        messages
        resumesHandled := v.resumesHandled + message.resumes }

/-- Anything else that happens to the worker. -/
def work (event : WorkerEvent α) : Option (VideoHandle α) :=
  if v.terminated ∨ event matches .message .. then none
  else (v.worker.step event).map (v.advance · event)

end VideoHandle

/-! ## The session -/

/-- `clock` is the time that the page has read last. The last five fields record what has
happened: every poll with its time and what the socket had queued, how often `onFailure` was
called, whether a stall was reported, the largest packet that was sent, and the size of all the
commands. -/
structure UploadSession (α : Type*) where
  active : Bool
  socketOpen : Bool
  transport : PublisherTransport α
  bufferedAmount : Nat
  clock : α
  videos : List (VideoHandle α)
  readings : List (α × Nat)
  failures : Nat
  stalled : Bool
  largest : Nat
  commandBytes : Nat

inductive UploadAction (α : Type*)
  | createVideo (message : InitMessage α)
  | post (index : Nat) (message : WorkerMessage α)
  | handle (index : Nat) (now next : α)
  | work (index : Nat) (event : WorkerEvent α)
  | output (index : Nat) (byteLength : Nat)
  | receive (index : Nat) (now : α) (throws : Bool)
  | audioPacket (byteLength : Nat) (stale : Bool) (now : α) (withinBudget throws : Bool)
  | command (byteLength : Nat)
  | drain (bytes : Nat)
  | closeVideo (index : Nat)
  | failVideo (index : Nat)
  | terminate (index : Nat)
  | socketClose
  | stop

namespace UploadSession

def new [Field α] [LinearOrder α] (created : α) : UploadSession α where
  active := true
  socketOpen := true
  transport := .new
  bufferedAmount := 0
  clock := created
  videos := []
  readings := []
  failures := 0
  stalled := false
  largest := 0
  commandBytes := 0

variable (s : UploadSession α)

def update (index : Nat) (f : VideoHandle α → VideoHandle α) : UploadSession α :=
  { s with videos := s.videos.modify index f }

/-- The parts of `cleanup` that the upload depends on. The video worker is closed by a step of its
own. -/
def cleanup : UploadSession α :=
  if ¬ s.active then s
  else { s with active := false, socketOpen := false, transport := s.transport.close }

/-- `failActive` cleans up. -/
def call : TransportCall → UploadSession α
  | .pause control => s.update control VideoHandle.pause
  | .resume control => s.update control VideoHandle.resume
  | .onFailure => { s with failures := s.failures + 1 }.cleanup

def perform (done : PublisherTransport α × List TransportCall) : UploadSession α :=
  done.2.foldl call { s with transport := done.1 }

def send (byteLength : Nat) (throws : Bool) : UploadSession α :=
  if throws then s.perform s.transport.abort
  else
    { s with
      bufferedAmount := s.bufferedAmount + byteLength
      largest := max s.largest byteLength }

def terminate (index : Nat) (v : VideoHandle α) : UploadSession α :=
  { s with
    transport := if v.transportAttached then s.transport.detachVideo index else s.transport
  }.update index ({ · with transportAttached := false, terminated := true })

/-- `fail` of the video worker. -/
def failVideo (index : Nat) (v : VideoHandle α) : UploadSession α :=
  if v.closed then s.update index ({ · with readySettled := true })
  else (s.update index ({ · with readySettled := true, closed := true })).terminate index v

variable [Field α] [LinearOrder α]

def poll (now : α) : UploadSession α :=
  { s with
    clock := now
    readings := s.readings ++ [(now, s.bufferedAmount)]
    stalled := (s.transport.measure now s.bufferedAmount).1.Stalled now
  }.perform (s.transport.poll now s.bufferedAmount)

def receivePacket (index : Nat) (v : VideoHandle α) (frame byteLength : Nat) (now : α)
    (throws : Bool) : UploadSession α :=
  if v.closed ∨ ¬ s.active ∨ ¬ s.socketOpen then s
  else
    let polled := s.poll now
    if polled.transport.failed then polled
    else if polled.transport.videoPaused then polled.update index (·.arrive frame false)
    else if throws then polled.send byteLength throws
    else (polled.send byteLength throws).update index (·.arrive frame true)

def attachVideo (index : Nat) : UploadSession α :=
  (s.perform (s.transport.attachVideo index)).update index
    ({ · with transportAttached := true, readySettled := true })

/-- `worker.onmessage`. -/
def receive (index : Nat) (v : VideoHandle α) (now : α) (throws : Bool) :
    WorkerReply → UploadSession α
  | .ready => if v.readySettled then s else s.attachVideo index
  | .packet frame byteLength => s.receivePacket index v frame byteLength now throws
  | .closed => s.terminate index v
  | .error => s.failVideo index v

/-- `stale` stands for everything that is checked before the poll. -/
def sendAudioPacket (byteLength : Nat) (stale : Bool) (now : α) (withinBudget throws : Bool) :
    UploadSession α :=
  if ¬ s.active ∨ ¬ s.socketOpen ∨ stale then s
  else
    let polled := s.poll now
    if polled.transport.failed then polled
    else if polled.transport.Congested ∨ ¬ withinBudget then polled
    else polled.send byteLength throws

def sendStreamerCommand (byteLength : Nat) : UploadSession α :=
  if ¬ s.active ∨ ¬ s.socketOpen then s
  else
    { s with
      bufferedAmount := s.bufferedAmount + byteLength
      commandBytes := s.commandBytes + byteLength }

variable [FloorRing α] [IsStrictOrderedRing α]

/-- A new video worker is created only when the one before was closed, and the clock of the page
never runs back. -/
def step : UploadAction α → Option (UploadSession α)
  | .createVideo message =>
    if s.videos.all (·.closed) then some { s with videos := s.videos ++ [.create message] }
    else none
  | .post index message => if message.Free then some (s.update index (·.post message)) else none
  | .handle index now next =>
    s.videos[index]?.bind fun v => (v.handle now next).map fun v => s.update index fun _ => v
  | .work index event =>
    s.videos[index]?.bind fun v => (v.work event).map fun v => s.update index fun _ => v
  | .output index byteLength =>
    s.videos[index]?.bind fun v => (v.putOut byteLength).map fun v => s.update index fun _ => v
  | .receive index now throws =>
    s.videos[index]?.bind fun v =>
      match v.replies with
      | [] => none
      | reply :: replies =>
        if now < s.clock then none
        else some ((s.update index ({ · with replies })).receive index v now throws reply)
  | .audioPacket byteLength stale now withinBudget throws =>
    if now < s.clock then none
    else some (s.sendAudioPacket byteLength stale now withinBudget throws)
  | .command byteLength => some (s.sendStreamerCommand byteLength)
  | .drain bytes => some { s with bufferedAmount := s.bufferedAmount - bytes }
  | .closeVideo index => some (s.update index VideoHandle.close)
  | .failVideo index => s.videos[index]?.map (s.failVideo index)
  | .terminate index => s.videos[index]?.bind fun v =>
    if v.closePromise then some (s.terminate index v) else none
  | .socketClose => some { s with socketOpen := false }
  | .stop => some s.cleanup

end UploadSession

variable [Field α] [LinearOrder α] [FloorRing α] [IsStrictOrderedRing α]

/-- One session of a publisher from the moment it was created. -/
def uploadSession (created : α) : System (UploadSession α) (UploadAction α) where
  start := .new created
  step s action := s.step action

end VRCStreamer
