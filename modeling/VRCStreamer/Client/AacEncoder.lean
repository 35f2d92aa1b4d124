import VRCStreamer.Constants
import VRCStreamer.Concurrency.Transition
import VRCStreamer.Concurrency.Worker
import Mathlib.Logic.Function.Basic

/-!
# The AAC encoders of the client

`createAacEncoder`, `encodeAudioBlock`, `sendAudioPacket` and `replaceAudioEncoder` of
`streamer.js`, while the session is active. Every encoder is an object of the page with a worker
behind it. The page handles one event at a time: a captured block, a message of a worker, the
request for another encoder, and what follows an `await` once its promise is settled.
-/

namespace VRCStreamer

open Concurrency

def framesPerChunk : Nat := 1024
def maxAudioBufferedBlocks : Nat := 6

/-- Half a second of samples. -/
def maxAudioPacketAgeSamples : UInt32 := 24000

/-- A captured block, with its place among them. -/
structure PcmBlock where
  index : Nat
  timestampSamples : Nat
  deriving DecidableEq

/-! ## One encoder -/

/-- A flush has been asked for while `flushing`. -/
structure AacEncoder where
  closed : Bool
  flushing : Bool
  pcmBlocks : Nat
  pendingBlocks : Nat
  codecQueue : Nat
  droppedBlocks : Nat
  worker : Worker PcmBlock

namespace AacEncoder

def new : AacEncoder := ⟨false, false, 0, 0, 0, 0, .idle⟩

variable (encoder : AacEncoder)

def recordDrop : AacEncoder := { encoder with droppedBlocks := encoder.droppedBlocks + 1 }

/-- The block is not posted. -/
def Refuses : Prop :=
  encoder.closed ∨ maxAudioBufferedBlocks ≤ encoder.pendingBlocks + encoder.codecQueue

instance : Decidable encoder.Refuses := inferInstanceAs (Decidable (_ ∨ _))

def encode (block : PcmBlock) : AacEncoder :=
  if encoder.Refuses then encoder.recordDrop
  else
    { encoder with
      pcmBlocks := encoder.pcmBlocks + 1
      pendingBlocks := encoder.pendingBlocks + 1
      worker := encoder.worker.post (.item block) }

def close : AacEncoder := { encoder with closed := true, flushing := false }

/-- An encoder that is open; a second flush joins the first. -/
def flush : AacEncoder :=
  if encoder.flushing then encoder
  else { encoder with flushing := true, worker := encoder.worker.post .flush }

/-- The worker's messages, apart from the packet itself. -/
def onmessage : Answer PcmBlock → AacEncoder
  | .output _ queue => { encoder with codecQueue := queue }
  | .accepted queue =>
    { encoder with pendingBlocks := encoder.pendingBlocks - 1, codecQueue := queue }
  | .flushed => { encoder with flushing := false }

end AacEncoder

/-! ## The session -/

/-- A swap waits for the flush of the encoder that it replaces. -/
structure AudioEncoderSwap where
  encoder : Nat
  modeKey : Nat
  previous : Nat
  flushed : Bool
  buffers : List PcmBlock

/-- Encoders are numbered as they are created; one that is not yet created is new. The last six
fields record what has happened: the blocks that were captured, handed to an encoder or counted by
one as dropped, the packets that were sent or counted as dropped, and the encoders that were
replaced. -/
structure AudioSession where
  encoder : Nat
  encoderModeKey : Nat
  preparingAudioEncoder : Option (Nat × Nat)
  audioEncoderSwap : Option AudioEncoderSwap
  audioClockSamples : Nat
  encoders : Nat → AacEncoder
  created : Nat
  captured : List PcmBlock
  handed : List (Nat × PcmBlock)
  dropped : List (Nat × PcmBlock)
  sent : List (Nat × PcmBlock)
  packetDrops : List Nat
  replaced : List Nat

def audioTimestampIsStale (currentTimestamp sourceTimestamp : UInt32) : Bool :=
  let age := currentTimestamp - sourceTimestamp
  age < 0x80000000 && age > maxAudioPacketAgeSamples

/-- What decides whether a packet is sent. -/
structure SendConditions where
  currentTimestamp : UInt32
  isOpen : Bool
  poll : Bool
  congested : Bool
  withinBudget : Bool

namespace AudioSession

def new (encoderModeKey audioClockSamples : Nat) : AudioSession :=
  ⟨0, encoderModeKey, none, none, audioClockSamples, fun _ => .new, 1, [], [], [], [], [], []⟩

variable (session : AudioSession)

def update (number : Nat) (f : AacEncoder → AacEncoder) : AudioSession :=
  { session with
    encoders := Function.update session.encoders number (f (session.encoders number)) }

def recordDrop (number : Nat) (block : PcmBlock) : AudioSession :=
  { session.update number .recordDrop with dropped := session.dropped ++ [(number, block)] }

def recordPacketDrop (number : Nat) : AudioSession :=
  { session.update number .recordDrop with packetDrops := session.packetDrops ++ [number] }

/-- `session.encoder.encode`. -/
def encode (block : PcmBlock) : AudioSession :=
  if (session.encoders session.encoder).Refuses then session.recordDrop session.encoder block
  else
    { session.update session.encoder (·.encode block) with
      handed := session.handed ++ [(session.encoder, block)] }

/-- The buffer of a swap drops its oldest block when it is full. -/
def buffer (swap : AudioEncoderSwap) (block : PcmBlock) : AudioSession :=
  match swap.buffers with
  | oldest :: buffers =>
    if maxAudioBufferedBlocks ≤ swap.buffers.length then
      { session.recordDrop swap.encoder oldest with
        audioEncoderSwap := some { swap with buffers := buffers ++ [block] } }
    else
      { session with
        audioEncoderSwap := some { swap with buffers := swap.buffers ++ [block] } }
  | [] => { session with audioEncoderSwap := some { swap with buffers := [block] } }

def encodeAudioBlock (timestampSamples : Int) (currentTimestamp : UInt32) : AudioSession :=
  if timestampSamples < 0 ∨ MAX_SAFE_INTEGER < timestampSamples then session
  else
    let block : PcmBlock := ⟨session.captured.length, timestampSamples.toNat⟩
    let session :=
      { session with
        audioClockSamples :=
          max session.audioClockSamples (timestampSamples.toNat + framesPerChunk)
        captured := session.captured ++ [block] }
    if audioTimestampIsStale currentTimestamp (.ofNat timestampSamples.toNat) then
      session.recordDrop ((session.audioEncoderSwap.map (·.encoder)).getD session.encoder) block
    else
      match session.audioEncoderSwap with
      | some swap => session.buffer swap block
      | none => session.encode block

def sendAudioPacket (number : Nat) (block : PcmBlock) (conditions : SendConditions) :
    AudioSession :=
  if session.encoder ≠ number ∨ ¬ conditions.isOpen then session
  else if audioTimestampIsStale conditions.currentTimestamp (.ofNat block.timestampSamples) then
    session.recordPacketDrop number
  else if ¬ conditions.poll then session
  else if conditions.congested ∨ ¬ conditions.withinBudget then session.recordPacketDrop number
  else { session with sent := session.sent ++ [(number, block)] }

/-- A message of a worker. The answer to a flush settles the promise that a swap waits for. -/
def deliver (number : Nat) (conditions : SendConditions) : Option AudioSession :=
  (session.encoders number).worker.deliver.map fun (answer, worker) =>
    let received := session.update number fun encoder =>
      { encoder with worker }.onmessage answer
    match answer with
    | .output block _ => received.sendAudioPacket number block conditions
    | .accepted _ => received
    | .flushed =>
      { received with
        audioEncoderSwap := session.audioEncoderSwap.map fun swap =>
          if swap.previous = number then { swap with flushed := true } else swap }

/-- Up to the first `await`. -/
def replaceAudioEncoder (modeKey : Nat) : AudioSession :=
  if modeKey = session.encoderModeKey then session
  else if session.preparingAudioEncoder.isSome ∨ session.audioEncoderSwap.isSome then session
  else
    { session with
      preparingAudioEncoder := some (session.created, modeKey)
      created := session.created + 1 }

/-- The next encoder is ready: the swap begins. -/
def beginAudioEncoderSwap : Option AudioSession :=
  session.preparingAudioEncoder.bind fun (encoder, modeKey) =>
    if (session.encoders session.encoder).closed then none
    else some
      { session.update session.encoder .flush with
        preparingAudioEncoder := none
        audioEncoderSwap := some ⟨encoder, modeKey, session.encoder, false, []⟩ }

/-- The next encoder could not be set up. -/
def abandonAudioEncoder : Option AudioSession :=
  session.preparingAudioEncoder.map fun (encoder, _) =>
    { session.update encoder .close with preparingAudioEncoder := none }

/-- What follows the flush of the previous encoder. -/
def completeAudioEncoderSwap : Option AudioSession :=
  session.audioEncoderSwap.bind fun swap =>
    if swap.flushed then
      let next :=
        { session.update swap.previous .close with
          encoder := swap.encoder
          encoderModeKey := swap.modeKey
          audioEncoderSwap := none
          replaced := session.replaced ++ [swap.previous] }
      some (swap.buffers.foldl encode next)
    else none

end AudioSession

/-- One event of the page, or one step of a worker. -/
inductive AudioEvent where
  | encodeAudioBlock (timestampSamples : Int) (currentTimestamp : UInt32)
  | replaceAudioEncoder (modeKey : Nat)
  | beginAudioEncoderSwap
  | abandonAudioEncoder
  | completeAudioEncoderSwap
  | deliver (number : Nat) (conditions : SendConditions)
  | work (number : Nat) (workerStep : WorkerStep)

namespace AudioSession

def handle (session : AudioSession) : AudioEvent → Option AudioSession
  | .encodeAudioBlock timestampSamples currentTimestamp =>
    some (session.encodeAudioBlock timestampSamples currentTimestamp)
  | .replaceAudioEncoder modeKey => some (session.replaceAudioEncoder modeKey)
  | .beginAudioEncoderSwap => session.beginAudioEncoderSwap
  | .abandonAudioEncoder => session.abandonAudioEncoder
  | .completeAudioEncoderSwap => session.completeAudioEncoderSwap
  | .deliver number conditions => session.deliver number conditions
  | .work number workerStep =>
    ((session.encoders number).worker.step workerStep).map fun worker =>
      session.update number fun encoder => { encoder with worker }

end AudioSession

def audioEncoders (encoderModeKey audioClockSamples : Nat) : System AudioSession AudioEvent where
  start := .new encoderModeKey audioClockSamples
  step := AudioSession.handle

end VRCStreamer
