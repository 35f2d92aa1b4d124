import VRCStreamer.Codec.Slices
import Mathlib.Algebra.Order.Ring.Defs
import Mathlib.Data.Rat.Floor

/-!
# Audio capture of the client

`CaptureProcessor` of `audio-worklet.js`, which `createCaptureNode` of `streamer.js` sets up. The
render thread calls `process` for one quantum after another, and the processor posts their frames
in blocks of one length. A typed array is a list; a write outside it does nothing.
-/

namespace VRCStreamer

open Codec

variable {α : Type*}

/-! ## The channels of one call -/

/-- What `process` is called with: every channel holds one quantum of samples. -/
structure Quantum (α : Type*) where
  size : Nat
  inputs : List (List (List α))
  outputs : List (List (List α))
  size_pos : 0 < size
  length_eq : ∀ port ∈ inputs ++ outputs, ∀ channel ∈ port, channel.length = size
  /-- With neither channel to measure, the source takes the usual size. -/
  size_eq : inputs[0]?.bind (·[0]?) = none → outputs[0]?.bind (·[0]?) = none → size = 128

namespace Quantum

variable (quantum : Quantum α)

def leftIn : Option (List α) := quantum.inputs[0]?.bind (·[0]?)

def rightIn : Option (List α) := (quantum.inputs[0]?.bind (·[1]?)).or quantum.leftIn

def monitorOut : Option (List α) := quantum.outputs[0]?.bind (·[0]?)

def frameCount : Nat :=
  match quantum.leftIn with
  | some leftIn => leftIn.length
  | none =>
    match quantum.monitorOut with
    | some monitorOut => monitorOut.length
    | none => 128

theorem mem_of_channel {ports : List (List (List α))} {i : Nat} {channel : List α}
    (h : ports[0]?.bind (·[i]?) = some channel) : ∃ port ∈ ports, channel ∈ port := by
  obtain ⟨port, hport, hchannel⟩ := Option.bind_eq_some_iff.mp h
  exact ⟨port, List.mem_of_getElem? hport, List.mem_of_getElem? hchannel⟩

theorem length_leftIn {channel : List α} (h : quantum.leftIn = some channel) :
    channel.length = quantum.size := by
  obtain ⟨port, hport, hchannel⟩ := mem_of_channel h
  exact quantum.length_eq port (List.mem_append_left _ hport) channel hchannel

theorem length_rightIn {channel : List α} (h : quantum.rightIn = some channel) :
    channel.length = quantum.size := by
  rcases Option.or_eq_some_iff.mp h with h | ⟨-, h⟩
  · obtain ⟨port, hport, hchannel⟩ := mem_of_channel h
    exact quantum.length_eq port (List.mem_append_left _ hport) channel hchannel
  · exact quantum.length_leftIn h

/-- There are two sides or none. -/
theorem rightIn_eq_none_iff : quantum.rightIn = none ↔ quantum.leftIn = none := by
  rw [rightIn, Option.or_eq_none_iff, and_iff_right_iff_imp]
  intro h
  cases hports : quantum.inputs[0]? with
  | none => rfl
  | some port =>
    rw [leftIn, hports, Option.bind_some, List.getElem?_eq_none_iff] at h
    rw [Option.bind_some, List.getElem?_eq_none_iff]
    omega

theorem length_monitorOut {channel : List α} (h : quantum.monitorOut = some channel) :
    channel.length = quantum.size := by
  obtain ⟨port, hport, hchannel⟩ := mem_of_channel h
  exact quantum.length_eq port (List.mem_append_right _ hport) channel hchannel

/-- The processor measures the quantum. -/
theorem frameCount_eq : quantum.frameCount = quantum.size := by
  unfold frameCount
  split
  next leftIn hleft => exact quantum.length_leftIn hleft
  next hleft =>
    split
    next monitorOut hmonitor => exact quantum.length_monitorOut hmonitor
    next hmonitor => exact (quantum.size_eq hleft hmonitor).symm

end Quantum

/-! ## Interleaving -/

def interleave (frames : List (α × α)) : List α := frames.flatMap fun frame => [frame.1, frame.2]

theorem length_interleave (frames : List (α × α)) :
    (interleave frames).length = frames.length * 2 := by
  simp [interleave, List.length_flatMap]

theorem drop_interleave (frames : List (α × α)) (k : Nat) :
    (interleave frames).drop (k * 2) = interleave (frames.drop k) := by
  induction k generalizing frames with
  | zero => rfl
  | succ k ih =>
    cases frames with
    | nil => rfl
    | cons frame frames =>
      rw [Nat.succ_mul]
      exact ih frames

theorem take_interleave (frames : List (α × α)) (k : Nat) :
    (interleave frames).take (k * 2) = interleave (frames.take k) := by
  induction k generalizing frames with
  | zero => rfl
  | succ k ih =>
    cases frames with
    | nil => rfl
    | cons frame frames =>
      rw [Nat.succ_mul]
      exact congrArg (fun rest => frame.1 :: frame.2 :: rest) (ih frames)

theorem take_set_pair {samples : List α} {k : Nat} (h : k + 2 ≤ samples.length)
    (left right : α) :
    ((samples.set k left).set (k + 1) right).take (k + 2) = samples.take k ++ [left, right] := by
  have hright : ((samples.set k left).set (k + 1) right)[k + 1]? = some right :=
    List.getElem?_set_self (by rw [List.length_set]; omega)
  have hleft : ((samples.set k left).set (k + 1) right)[k]? = some left := by
    rw [List.getElem?_set_ne (by omega)]
    exact List.getElem?_set_self (by omega)
  rw [List.take_add_one, List.take_add_one, hright, hleft, List.take_set_of_le (by omega),
    List.take_set_of_le (Nat.le_refl k)]
  simp

/-! ## The processor -/

structure ProcessorOptions where
  frames : Option Nat
  channels : Option Nat

/-- What is posted on the port. -/
structure AudioBlock (α : Type*) where
  pcm : List α
  timestamp : Nat
  deriving DecidableEq

/-- The port holds what was posted on it, in order. -/
structure CaptureProcessor (α : Type*) where
  frames : Nat
  channels : Nat
  pcm : List α
  offset : Nat
  timestamp : Nat
  port : List (AudioBlock α)
  offset_lt : offset < frames
  length_pcm : pcm.length = frames * channels

/-- `value || default`. -/
def orDefault (value : Option Nat) (default : Nat) : Nat :=
  match value with
  | some value => if value = 0 then default else value
  | none => default

theorem orDefault_pos {value : Option Nat} {default : Nat} (h : 0 < default) :
    0 < orDefault value default := by
  unfold orDefault
  split
  · split <;> omega
  · exact h

/-- The buffers that the samples of a frame are written to. -/
structure FrameBuffers (α : Type*) where
  pcm : List α
  monitorOut : Option (List α)

namespace CaptureProcessor

variable (processor : CaptureProcessor α) (quantum : Quantum α)

/-- The frames that go into the current block at once. -/
def taken (sourceOffset : Nat) : Nat :=
  min (processor.frames - processor.offset) (quantum.frameCount - sourceOffset)

theorem taken_pos {sourceOffset : Nat} (h : sourceOffset < quantum.frameCount) :
    0 < processor.taken quantum sourceOffset := by
  have := processor.offset_lt
  rw [taken]
  omega

end CaptureProcessor

/-! ## What has been captured -/

/-- The blocks of a stream whose first frame has an index. -/
def audioBlocks (n start : Nat) (stream : List (α × α)) : List (AudioBlock α) :=
  (slices n stream).map fun part => ⟨interleave part.2, start + part.1 * n⟩

/-- The processor has posted the full blocks of a stream, and holds what remains of it. -/
structure Captures (processor : CaptureProcessor α) (n start : Nat) (stream : List (α × α)) :
    Prop where
  frames_eq : processor.frames = n
  channels_eq : processor.channels = 2
  offset_eq : processor.offset = stream.length % n
  pcm_eq : processor.pcm.take (processor.offset * 2) = interleave (remainder n stream)
  timestamp_eq : processor.offset ≠ 0 → processor.timestamp = start + stream.length / n * n
  port_eq : processor.port = audioBlocks n start stream

variable {processor : CaptureProcessor α} {n start currentFrame sourceOffset : Nat}
variable {stream : List (α × α)} {monitorOut : Option (List α)} {options : ProcessorOptions}

/-- A block that is begun gets the index of its first frame; a later piece leaves it alone. -/
theorem Captures.latched (h : Captures processor n start stream)
    (hnow : currentFrame + sourceOffset = start + stream.length) :
    (if processor.offset = 0 then currentFrame + sourceOffset else processor.timestamp) =
      start + stream.length / n * n := by
  split
  next hzero =>
    have hsplit := Nat.div_add_mod' stream.length n
    rw [← h.offset_eq, hzero, Nat.add_zero] at hsplit
    rw [hnow, hsplit]
  next hne => exact h.timestamp_eq hne

section Source

variable [Zero α]

namespace CaptureProcessor

def new (options : ProcessorOptions) : CaptureProcessor α where
  frames := orDefault options.frames 1024
  channels := orDefault options.channels 2
  pcm := List.replicate (orDefault options.frames 1024 * orDefault options.channels 2) 0
  offset := 0
  timestamp := 0
  port := []
  offset_lt := orDefault_pos (by decide)
  length_pcm := List.length_replicate

end CaptureProcessor

/-- The processor of a new capture node. -/
def createCaptureNode (framesPerChunk channels : Nat) : CaptureProcessor α :=
  CaptureProcessor.new ⟨some framesPerChunk, some channels⟩

theorem captures_new (h : options.channels = some 2) :
    Captures (CaptureProcessor.new options : CaptureProcessor α) (orDefault options.frames 1024)
      start [] where
  frames_eq := rfl
  channels_eq := congrArg (orDefault · 2) h
  offset_eq := (Nat.zero_mod _).symm
  pcm_eq := by simp [CaptureProcessor.new, interleave]
  timestamp_eq := fun hne => absurd rfl hne
  port_eq := by simp [CaptureProcessor.new, audioBlocks]

variable [One α] [Neg α] [LT α] [DecidableLT α]

def clamp (sample : α) : α :=
  if 1 < sample then 1
  else if sample < -1 then -1
  else sample

/-- On an ordered type the sample is kept within the two bounds. -/
theorem clamp_eq_max_min {β : Type*} [Ring β] [LinearOrder β] [IsStrictOrderedRing β]
    (sample : β) : clamp sample = max (-1) (min 1 sample) := by
  have hbounds : (-1 : β) ≤ 1 := neg_le_self zero_le_one
  unfold clamp
  split
  next habove => rw [min_eq_left habove.le, max_eq_right hbounds]
  next habove =>
    rw [min_eq_right (not_lt.mp habove)]
    split
    next hbelow => rw [max_eq_left hbelow.le]
    next hbelow => rw [max_eq_right (not_lt.mp hbelow)]

namespace Quantum

variable (quantum : Quantum α)

/-- The two samples at an index, clamped. -/
def frameAt (source : Nat) : α × α :=
  let left := match quantum.leftIn with
    | some leftIn => leftIn.getD source 0
    | none => 0
  let right := match quantum.rightIn with
    | some rightIn => rightIn.getD source 0
    | none => left
  (clamp left, clamp right)

/-- The frames of the input of a call. A mono input is on both sides. -/
def input : List (α × α) :=
  match quantum.leftIn, quantum.rightIn with
  | some leftIn, some rightIn => leftIn.zip rightIn
  | _, _ => List.replicate quantum.size (0, 0)

def clamped : List (α × α) := quantum.input.map fun frame => (clamp frame.1, clamp frame.2)

/-- The inner loop reads the frames one after another. -/
theorem clamped_eq : quantum.clamped = (List.range quantum.size).map quantum.frameAt := by
  unfold clamped input
  cases hleft : quantum.leftIn with
  | none =>
    have hright := quantum.rightIn_eq_none_iff.mpr hleft
    apply List.ext_getElem
    · simp
    · intro i hi hi'
      simp [frameAt, hleft, hright]
  | some leftIn =>
    obtain ⟨rightIn, hright⟩ : ∃ rightIn, quantum.rightIn = some rightIn := by
      rw [← Option.ne_none_iff_exists', ne_eq, rightIn_eq_none_iff, hleft]
      exact Option.some_ne_none leftIn
    have hleftLength := quantum.length_leftIn hleft
    have hrightLength := quantum.length_rightIn hright
    apply List.ext_getElem
    · simp [hright, hleftLength, hrightLength]
    · intro i hi hi'
      have hlt : i < quantum.size := by simpa using hi'
      simp [frameAt, hleft, hright, hleftLength, hrightLength, hlt]

theorem length_clamped : quantum.clamped.length = quantum.size := by
  rw [clamped_eq, List.length_map, List.length_range]

theorem take_drop_clamped {sourceOffset take : Nat} (h : sourceOffset + take ≤ quantum.size) :
    (quantum.clamped.drop sourceOffset).take take =
      (List.range take).map fun i => quantum.frameAt (sourceOffset + i) := by
  rw [clamped_eq]
  apply List.ext_getElem
  · simp only [List.length_take, List.length_drop, List.length_map, List.length_range]
    omega
  · intro i hi hi'
    simp

theorem length_piece (processor : CaptureProcessor α) (sourceOffset : Nat) :
    ((quantum.clamped.drop sourceOffset).take (processor.taken quantum sourceOffset)).length =
      processor.taken quantum sourceOffset := by
  rw [List.length_take, List.length_drop, length_clamped, CaptureProcessor.taken, frameCount_eq]
  omega

end Quantum

/-- The input of consecutive calls, interleaved and clamped. -/
def clampedStream (quanta : List (Quantum α)) : List α :=
  (interleave (quanta.flatMap Quantum.input)).map clamp

theorem interleave_clamped (quanta : List (Quantum α)) :
    interleave (quanta.flatMap Quantum.clamped) = clampedStream quanta := by
  rw [interleave, List.flatMap_assoc, clampedStream, interleave, List.map_flatMap,
    List.flatMap_assoc]
  apply List.flatMap_congr
  intro quantum _
  rw [Quantum.clamped, List.flatMap_map]
  rfl

variable [Add α] [Mul α] [OfScientific α]

namespace Quantum

variable (quantum : Quantum α)

/-- The body of the inner loop. -/
def copyFrame (channels offset sourceOffset : Nat) (buffers : FrameBuffers α) (i : Nat) :
    FrameBuffers α :=
  let destination := (offset + i) * channels
  let source := sourceOffset + i
  let frame := quantum.frameAt source
  { pcm := (buffers.pcm.set destination frame.1).set (destination + 1) frame.2
    monitorOut := buffers.monitorOut.map (·.set source ((frame.1 + frame.2) * 0.5)) }

def copyFrames (channels offset sourceOffset take : Nat) (buffers : FrameBuffers α) :
    FrameBuffers α :=
  (List.range take).foldl (quantum.copyFrame channels offset sourceOffset) buffers

theorem copyFrames_succ (channels offset sourceOffset take : Nat) (buffers : FrameBuffers α) :
    quantum.copyFrames channels offset sourceOffset (take + 1) buffers =
      quantum.copyFrame channels offset sourceOffset
        (quantum.copyFrames channels offset sourceOffset take buffers) take := by
  rw [copyFrames, List.range_succ, List.foldl_append]
  rfl

theorem length_copyFrames (channels offset sourceOffset take : Nat) (buffers : FrameBuffers α) :
    (quantum.copyFrames channels offset sourceOffset take buffers).pcm.length =
      buffers.pcm.length := by
  induction take with
  | zero => rfl
  | succ take ih =>
    rw [copyFrames_succ, copyFrame, List.length_set, List.length_set, ih]

end Quantum

namespace CaptureProcessor

variable (processor : CaptureProcessor α) (currentFrame : Nat) (quantum : Quantum α)

/-- The body of the outer loop: the current block takes frames, and is posted when it is full. -/
def fill (sourceOffset : Nat) (monitorOut : Option (List α)) :
    CaptureProcessor α × Option (List α) :=
  let timestamp := if processor.offset = 0 then currentFrame + sourceOffset
    else processor.timestamp
  let take := processor.taken quantum sourceOffset
  let buffers := quantum.copyFrames processor.channels processor.offset sourceOffset take
    ⟨processor.pcm, monitorOut⟩
  if h : processor.offset + take = processor.frames then
    ({ processor with
        pcm := List.replicate (processor.frames * processor.channels) 0
        offset := 0
        timestamp
        port := processor.port ++ [⟨buffers.pcm, timestamp⟩]
        offset_lt := Nat.zero_lt_of_lt processor.offset_lt
        length_pcm := List.length_replicate }, buffers.monitorOut)
  else
    ({ processor with
        pcm := buffers.pcm
        offset := processor.offset + take
        timestamp
        offset_lt := by
          have := processor.offset_lt
          have : take ≤ processor.frames - processor.offset := Nat.min_le_left ..
          omega
        length_pcm := (quantum.length_copyFrames ..).trans processor.length_pcm },
      buffers.monitorOut)

theorem fill_monitorOut (sourceOffset : Nat) (monitorOut : Option (List α)) :
    (processor.fill currentFrame quantum sourceOffset monitorOut).2 =
      (quantum.copyFrames processor.channels processor.offset sourceOffset
        (processor.taken quantum sourceOffset) ⟨processor.pcm, monitorOut⟩).monitorOut := by
  by_cases hfull : processor.offset + processor.taken quantum sourceOffset = processor.frames
  · rw [fill, dif_pos hfull]
  · rw [fill, dif_neg hfull]

/-- The outer loop. -/
def fillAll (processor : CaptureProcessor α) (sourceOffset : Nat) (monitorOut : Option (List α)) :
    CaptureProcessor α × Option (List α) :=
  if sourceOffset < quantum.frameCount then
    let filled := processor.fill currentFrame quantum sourceOffset monitorOut
    fillAll filled.1 (sourceOffset + processor.taken quantum sourceOffset) filled.2
  else (processor, monitorOut)
termination_by quantum.frameCount - sourceOffset
decreasing_by
  have := processor.taken_pos quantum ‹_›
  omega

/-- The processor after a call, and its monitor output. -/
def process : CaptureProcessor α × Option (List α) :=
  processor.fillAll currentFrame quantum 0 quantum.monitorOut

/-- The render thread: the clock advances by each quantum. -/
def run : CaptureProcessor α → Nat → List (Quantum α) → CaptureProcessor α
  | processor, _, [] => processor
  | processor, currentFrame, quantum :: quanta =>
    run (processor.process currentFrame quantum).1 (currentFrame + quantum.size) quanta

end CaptureProcessor

/-! ## The stream that is captured -/

namespace Quantum

variable (quantum : Quantum α)

theorem copyFrames_pcm {offset sourceOffset take : Nat} {buffers : FrameBuffers α}
    (h : (offset + take) * 2 ≤ buffers.pcm.length) :
    (quantum.copyFrames 2 offset sourceOffset take buffers).pcm.take ((offset + take) * 2) =
      buffers.pcm.take (offset * 2) ++
        interleave ((List.range take).map fun i => quantum.frameAt (sourceOffset + i)) := by
  induction take with
  | zero => simp [copyFrames, interleave]
  | succ take ih =>
    have hlength := quantum.length_copyFrames 2 offset sourceOffset take buffers
    rw [copyFrames_succ, copyFrame]
    rw [← Nat.add_assoc, Nat.succ_mul, take_set_pair (by omega), ih (by omega), List.range_succ,
      List.map_append, interleave, interleave, List.flatMap_append, List.append_assoc]
    rfl

end Quantum

namespace Captures

/-- The buffer holds what remained, and the new piece behind it. -/
theorem copied (h : Captures processor n start stream) (monitorOut : Option (List α))
    (quantum : Quantum α)
    (hlt : sourceOffset < quantum.frameCount) :
    (quantum.copyFrames processor.channels processor.offset sourceOffset
        (processor.taken quantum sourceOffset) ⟨processor.pcm, monitorOut⟩).pcm.take
        ((processor.offset + processor.taken quantum sourceOffset) * 2) =
      interleave (remainder n stream ++
        (quantum.clamped.drop sourceOffset).take (processor.taken quantum sourceOffset)) := by
  have hframes : processor.taken quantum sourceOffset ≤ processor.frames - processor.offset :=
    Nat.min_le_left _ _
  have hquantum : processor.taken quantum sourceOffset ≤ quantum.frameCount - sourceOffset :=
    Nat.min_le_right _ _
  have hoffset := processor.offset_lt
  have hlength := processor.length_pcm
  have hsize := quantum.frameCount_eq
  rw [h.channels_eq] at hlength ⊢
  rw [Quantum.copyFrames_pcm quantum (by dsimp only; omega), h.pcm_eq,
    Quantum.take_drop_clamped quantum (by omega)]
  exact List.flatMap_append.symm

theorem fill (h : Captures processor n start stream) (monitorOut : Option (List α))
    (hnow : currentFrame + sourceOffset = start + stream.length) (quantum : Quantum α)
    (hlt : sourceOffset < quantum.frameCount) :
    Captures (processor.fill currentFrame quantum sourceOffset monitorOut).1 n start
      (stream ++ (quantum.clamped.drop sourceOffset).take
        (processor.taken quantum sourceOffset)) := by
  have hlatched := h.latched hnow
  have hcopied := h.copied monitorOut quantum hlt
  have hpiece := quantum.length_piece processor sourceOffset
  have hbuffer := quantum.length_copyFrames processor.channels processor.offset sourceOffset
    (processor.taken quantum sourceOffset) ⟨processor.pcm, monitorOut⟩
  obtain ⟨rfl, hchannels, hoffset, hpcm, -, hport⟩ := h
  have hoffsetLt := processor.offset_lt
  have hn : 0 < processor.frames := Nat.zero_lt_of_lt hoffsetLt
  have htaken : processor.taken quantum sourceOffset ≤ processor.frames - processor.offset :=
    Nat.min_le_left _ _
  generalize hnew : (quantum.clamped.drop sourceOffset).take
    (processor.taken quantum sourceOffset) = piece at hcopied hpiece ⊢
  have hrest : (remainder processor.frames stream).length + piece.length =
      processor.offset + processor.taken quantum sourceOffset := by
    rw [length_remainder, hpiece, hoffset]
  rw [CaptureProcessor.fill]
  split
  next hfull =>
    have hempty := remainder_append_of_eq hn (hrest.trans hfull)
    have hslices := slices_append_of_eq hn (hrest.trans hfull)
    constructor
    · rfl
    · exact hchannels
    · rw [← length_remainder, hempty]
      rfl
    · rw [hempty]
      rfl
    · exact fun hne => absurd rfl hne
    · rw [hfull, List.take_of_length_le (by
        rw [hbuffer, processor.length_pcm, hchannels])] at hcopied
      dsimp only
      rw [hport, hlatched, hcopied, audioBlocks, audioBlocks, hslices, List.map_append]
      rfl
  next hopen =>
    have hless : (remainder processor.frames stream).length + piece.length < processor.frames := by
      omega
    have hremainder := remainder_append_of_lt hless
    constructor
    · rfl
    · exact hchannels
    · dsimp only
      rw [← length_remainder, hremainder, List.length_append, hrest]
    · rw [hremainder]
      exact hcopied
    · intro _
      dsimp only
      rw [hlatched, length_append_div hn, Nat.div_eq_of_lt hless, Nat.add_zero]
    · dsimp only
      rw [hport, audioBlocks, audioBlocks, slices_append_of_lt hless]

/-- The outer loop, from where the quantum has been read to. -/
theorem fillAll (quantum : Quantum α)
    (h : Captures processor n start (stream ++ quantum.clamped.take sourceOffset))
    (hnow : currentFrame = start + stream.length) (hle : sourceOffset ≤ quantum.frameCount) :
    Captures (processor.fillAll currentFrame quantum sourceOffset monitorOut).1 n start
      (stream ++ quantum.clamped) := by
  induction processor, sourceOffset, monitorOut using
    CaptureProcessor.fillAll.induct currentFrame quantum with
  | case1 processor sourceOffset monitorOut hlt filled ih =>
    have hread : (quantum.clamped.take sourceOffset).length = sourceOffset := by
      rw [List.length_take, quantum.length_clamped, ← quantum.frameCount_eq]
      omega
    have hstep : currentFrame + sourceOffset =
        start + (stream ++ quantum.clamped.take sourceOffset).length := by
      rw [List.length_append, hread, hnow, Nat.add_assoc]
    have hfilled := h.fill monitorOut hstep quantum hlt
    rw [List.append_assoc, ← List.take_add] at hfilled
    rw [CaptureProcessor.fillAll, if_pos hlt]
    apply ih hfilled
    have : processor.taken quantum sourceOffset ≤ quantum.frameCount - sourceOffset :=
      Nat.min_le_right _ _
    omega
  | case2 processor sourceOffset monitorOut hge =>
    have hall : quantum.clamped.take sourceOffset = quantum.clamped := by
      apply List.take_of_length_le
      rw [quantum.length_clamped, ← quantum.frameCount_eq]
      omega
    rw [CaptureProcessor.fillAll, if_neg hge]
    rwa [hall] at h

theorem process (quantum : Quantum α) (h : Captures processor n start stream) :
    Captures (processor.process (start + stream.length) quantum).1 n start
      (stream ++ quantum.clamped) := by
  apply fillAll quantum _ rfl (Nat.zero_le _)
  rwa [List.take_zero, List.append_nil]

theorem run (quanta : List (Quantum α)) (h : Captures processor n start stream) :
    Captures (processor.run (start + stream.length) quanta) n start
      (stream ++ quanta.flatMap Quantum.clamped) := by
  induction quanta generalizing processor stream with
  | nil =>
    rw [List.flatMap_nil, List.append_nil]
    exact h
  | cons quantum quanta ih =>
    have hnext := ih (h.process quantum)
    rw [List.length_append, quantum.length_clamped, ← Nat.add_assoc, List.append_assoc] at hnext
    exact hnext

end Captures

/-! ## The monitor output -/

namespace Quantum

variable (quantum : Quantum α)

/-- What the monitor plays of the frames of a call. -/
def mixed : List α := quantum.clamped.map fun frame => (frame.1 + frame.2) * 0.5

theorem copyFrames_monitorOut (channels offset : Nat) (pcm : List α) {sourceOffset take : Nat}
    {channel : List α} (h : sourceOffset + take ≤ quantum.size)
    (hlength : channel.length = quantum.size)
    (hplayed : channel.take sourceOffset = quantum.mixed.take sourceOffset) :
    ∃ played, (quantum.copyFrames channels offset sourceOffset take
        ⟨pcm, some channel⟩).monitorOut = some played ∧ played.length = quantum.size ∧
      played.take (sourceOffset + take) = quantum.mixed.take (sourceOffset + take) := by
  induction take with
  | zero => exact ⟨channel, rfl, hlength, hplayed⟩
  | succ take ih =>
    obtain ⟨played, hmonitor, hsize, htake⟩ := ih (by omega)
    let frame := quantum.frameAt (sourceOffset + take)
    refine ⟨played.set (sourceOffset + take) ((frame.1 + frame.2) * 0.5), ?_,
      (List.length_set ..).trans hsize, ?_⟩
    · rw [copyFrames_succ, copyFrame, hmonitor]
      rfl
    · have hwritten : quantum.mixed[sourceOffset + take]? =
          some ((frame.1 + frame.2) * 0.5) := by
        rw [mixed, clamped_eq, List.getElem?_map, List.getElem?_map,
          List.getElem?_range (by omega)]
        rfl
      rw [← Nat.add_assoc, List.take_add_one, List.take_add_one, hwritten,
        List.take_set_of_le (Nat.le_refl _), List.getElem?_set_self (by omega), htake]

end Quantum

/-- The outer loop, from where the monitor has played to. -/
theorem fillAll_monitorOut (quantum : Quantum α) (hle : sourceOffset ≤ quantum.size)
    (h : ∃ channel, monitorOut = some channel ∧ channel.length = quantum.size ∧
      channel.take sourceOffset = quantum.mixed.take sourceOffset) :
    (processor.fillAll currentFrame quantum sourceOffset monitorOut).2 = some quantum.mixed := by
  induction processor, sourceOffset, monitorOut using
    CaptureProcessor.fillAll.induct currentFrame quantum with
  | case1 processor sourceOffset monitorOut hlt filled ih =>
    have htaken : sourceOffset + processor.taken quantum sourceOffset ≤ quantum.size := by
      have : processor.taken quantum sourceOffset ≤ quantum.frameCount - sourceOffset :=
        Nat.min_le_right _ _
      rw [← quantum.frameCount_eq]
      omega
    obtain ⟨channel, rfl, hlength, hplayed⟩ := h
    rw [CaptureProcessor.fillAll, if_pos hlt]
    apply ih htaken
    rw [CaptureProcessor.fill_monitorOut]
    exact quantum.copyFrames_monitorOut _ _ _ htaken hlength hplayed
  | case2 processor sourceOffset monitorOut hge =>
    have hend : sourceOffset = quantum.size := by
      rw [quantum.frameCount_eq] at hge
      omega
    have hmixed : quantum.mixed.length = quantum.size := by
      rw [Quantum.mixed, List.length_map, quantum.length_clamped]
    obtain ⟨channel, rfl, hlength, hplayed⟩ := h
    rw [hend, List.take_of_length_le (by omega), List.take_of_length_le (by omega)] at hplayed
    rw [CaptureProcessor.fillAll, if_neg hge, hplayed]

/-- The monitor plays every frame of the call, whatever the block length. -/
theorem process_monitorOut (quantum : Quantum α) {channel : List α}
    (h : quantum.monitorOut = some channel) :
    (processor.process currentFrame quantum).2 = some quantum.mixed :=
  fillAll_monitorOut quantum (Nat.zero_le _)
    ⟨channel, h, quantum.length_monitorOut h, by rw [List.take_zero, List.take_zero]⟩

/-! ## What is posted -/

/-- Every block is the next slice of the stream, and bears the index of its first frame. -/
theorem capture_posts_slices (options : ProcessorOptions) (h : options.channels = some 2)
    (start : Nat) (quanta : List (Quantum α)) :
    let n := orDefault options.frames 1024
    let stream := clampedStream quanta
    let processor := (CaptureProcessor.new options).run start quanta
    processor.port = (List.range (stream.length / (n * 2))).map (fun k =>
        ⟨(stream.drop (k * (n * 2))).take (n * 2), start + k * n⟩) ∧
      processor.pcm.take (processor.offset * 2) =
        stream.drop (stream.length / (n * 2) * (n * 2)) := by
  intro n stream processor
  have hcaptures : Captures processor n start (quanta.flatMap Quantum.clamped) :=
    (captures_new h).run quanta
  have hstream : interleave (quanta.flatMap Quantum.clamped) = stream :=
    interleave_clamped quanta
  have hcount : stream.length / (n * 2) = (quanta.flatMap Quantum.clamped).length / n := by
    rw [← hstream, length_interleave]
    exact Nat.mul_div_mul_right _ _ (by decide)
  constructor
  · rw [hcaptures.port_eq, audioBlocks, slices, List.map_map, hcount]
    apply List.map_congr_left
    intro k _
    have hslice : (stream.drop (k * (n * 2))).take (n * 2) =
        interleave (slice n (quanta.flatMap Quantum.clamped) k) := by
      rw [← hstream, ← Nat.mul_assoc, drop_interleave, take_interleave]
      rfl
    rw [hslice]
    rfl
  · rw [hcaptures.pcm_eq, remainder, hcount, ← hstream, ← Nat.mul_assoc, drop_interleave]

end Source

/-- A mono quantum, silence, and a stereo quantum that completes two blocks. -/
theorem capture_posts_slices_small :
    let monitor : List ℚ := [0, 0, 0]
    let mono : Quantum ℚ := ⟨3, [[[1, 2, -3]]], [[monitor]], by decide, by decide, by decide⟩
    let silence : Quantum ℚ := ⟨1, [[]], [[[0]]], by decide, by decide, by decide⟩
    let stereo : Quantum ℚ :=
      ⟨3, [[[1 / 2, 0, 1], [0, 1, 5]]], [[monitor]], by decide, by decide, by decide⟩
    let processor := (createCaptureNode 2 2 : CaptureProcessor ℚ).run 7 [mono, silence, stereo]
    processor.port = [⟨[1, 1, 1, 1], 7⟩, ⟨[-1, -1, 0, 0], 9⟩, ⟨[1 / 2, 0, 0, 1], 11⟩] ∧
      processor.pcm.take (processor.offset * 2) = [1, 1] := by
  intro monitor mono silence stereo processor
  have hstream : clampedStream [mono, silence, stereo] =
      [1, 1, 1, 1, -1, -1, 0, 0, 1 / 2, 0, 0, 1, 1, 1] := by decide +kernel
  obtain ⟨hport, hpending⟩ :=
    capture_posts_slices ⟨some 2, some 2⟩ rfl 7 [mono, silence, stereo]
  rw [hstream] at hport hpending
  exact ⟨hport, hpending⟩

end VRCStreamer
