import VRCStreamer.Rtsp.Announce
import VRCStreamer.Text.Utf8

/-!
# The writer that requests and media share

`write_rtsp_response` of `rtsp.rs`, and the lock around the connection's write half. The request
task locks it for one response. The media task locks it for one report, one AAC packet or one
H.264 access unit, whose batches are several writes. Under the lock, bytes go out in pieces of
any size. When the session ends the media task is aborted wherever it is.
-/

namespace VRCStreamer

open Codec Concurrency

/-! ## Responses -/

/-- What `write_rtsp_response` is called with. -/
structure RtspResponse where
  status : Text
  cseq : Text
  headers : List (Text × Text)
  body : Option Bytes
  deriving DecidableEq

namespace RtspResponse

def bodyLen (response : RtspResponse) : Nat := (response.body.map List.length).getD 0

def text (response : RtspResponse) : Text :=
  "RTSP/1.0 ".toList ++ response.status ++ "\r\nCSeq: ".toList ++ response.cseq ++
    "\r\nServer: VRCStreamer\r\nCache-Control: no-cache\r\n".toList ++
    response.headers.flatMap (fun header =>
      header.1 ++ ": ".toList ++ header.2 ++ "\r\n".toList) ++
    (if response.bodyLen ≠ 0 then
      "Content-Length: ".toList ++ Text.decimal response.bodyLen ++ "\r\n".toList
    else []) ++
    "\r\n".toList

/-- The `write_all` calls of a response. -/
def writes (response : RtspResponse) : List Bytes :=
  response.text.utf8 :: response.body.toList

def encode (response : RtspResponse) : Bytes := response.writes.flatten

end RtspResponse

/-- The response to a request. -/
def RtspReply.response (reply : RtspReply) (request : RtspRequest) : RtspResponse where
  status := reply.status.line
  cseq := (request.header "cseq".toList).getD "0".toList
  headers := reply.headers
  body := reply.body.map Text.utf8

/-! ## Locked sections of the media task -/

/-- The track that a step of the task writes for. -/
def TaskAction.track : TaskAction → RtspTrack
  | .audio _ => .audio
  | .next | .video _ => .video

/-- The first report of a track has a lock of its own, and so has what follows it. -/
def lockSections : Bool → List Bytes → List (List Bytes)
  | false, report :: unit => [[report], unit].filter (· ≠ [])
  | _, written => [written].filter (· ≠ [])

@[simp] theorem lockSections_flatten (started : Bool) (written : List Bytes) :
    (lockSections started written).flatten = written := by
  rw [lockSections.eq_def]
  split
  · rw [List.flatten_filter_ne_nil]
    simp
  · rw [List.flatten_filter_ne_nil]
    simp

def MediaTask.sections {ρ : Type*} (task : MediaTask ρ) (action : TaskAction)
    (written : List Bytes) : List (List Bytes) :=
  lockSections ((task.sending action.track).any (·.rtcp.started)) written

/-! ## The connection -/

inductive WriterParty
  | requests
  | media
  deriving DecidableEq

/-- A connection with its media task. `responding` and `sections` wait for the lock, `rest` is
what its holder has still to write. -/
structure SharedWriter (θ ι ρ : Type*) where
  connection : Connection θ ι
  responding : Option RtspResponse := none
  media : Option (MediaLog ρ) := none
  sections : List (List Bytes) := []
  holder : Option WriterParty := none
  rest : Bytes := []
  socket : Bytes := []
  ended : Bool := false

inductive WriterAction (θ ι ρ : Type*)
  | connection (event : ConnectionEvent θ ι)
  | spawn (receivers : RtspTrack → ρ) (playStartedAt resyncEpoch : Nat) (now : Nat → Nat)
  | media (action : TaskAction) (view : ChannelView ρ)
  | lock (party : WriterParty)
  | write (bytes : Nat)
  | unlock
  | abort

namespace SharedWriter

variable {θ ι ρ : Type*}

/-- No response is being written. -/
def answered (s : SharedWriter θ ι ρ) : Bool :=
  s.responding.isNone && s.holder ≠ some .requests

def stepConnection (config : RtspConfig) (s : SharedWriter θ ι ρ) :
    ConnectionEvent θ ι → Option (SharedWriter θ ι ρ)
  | .environment state =>
    (s.connection.step config (.environment state)).map (fun connection => { s with connection })
  | .request request =>
    if s.answered then
      (s.connection.step config (.request request)).map (fun connection =>
        { s with
          connection
          responding := connection.log.head?.map (fun entry => entry.2.response entry.1) })
    else none
  | .disconnect =>
    if s.answered then
      (s.connection.step config .disconnect).map (fun connection => { s with connection })
    else none

/-- PLAY spawns the task after its response. -/
def spawn (s : SharedWriter θ ι ρ) (receivers : RtspTrack → ρ) (playStartedAt resyncEpoch : Nat)
    (now : Nat → Nat) : Option (SharedWriter θ ι ρ) :=
  if s.answered && s.media.isNone then
    (s.connection.session.bind RtspSession.mediaRtpTask).map (fun task =>
      { s with media := some { run := task.run receivers playStartedAt resyncEpoch now } })
  else none

/-- A step of the media task comes after the writes of the step before it. -/
def stepMedia (mediaConfig : MediaTaskConfig) (s : SharedWriter θ ι ρ) (action : TaskAction)
    (view : ChannelView ρ) : Option (SharedWriter θ ι ρ) :=
  if s.sections = [] ∧ s.holder ≠ some .media then
    s.media.bind (fun log => (log.run.task.step mediaConfig action view).map (fun outcome =>
      { s with
        media := some (log.record mediaConfig action view outcome)
        sections := log.run.task.sections action outcome.written }))
  else none

def lock (s : SharedWriter θ ι ρ) : WriterParty → Option (SharedWriter θ ι ρ)
  | .requests => s.responding.map (fun response =>
    { s with holder := some .requests, responding := none, rest := response.encode })
  | .media =>
    match s.sections with
    | [] => none
    | writes :: sections =>
      some { s with holder := some .media, sections, rest := writes.flatten }

def step (config : RtspConfig) (mediaConfig : MediaTaskConfig) (s : SharedWriter θ ι ρ)
    (action : WriterAction θ ι ρ) : Option (SharedWriter θ ι ρ) :=
  if s.ended then none
  else
    match action with
    | .connection event => s.stepConnection config event
    | .spawn receivers playStartedAt resyncEpoch now =>
      s.spawn receivers playStartedAt resyncEpoch now
    | .media action view => s.stepMedia mediaConfig action view
    | .lock party => if s.holder = none then s.lock party else none
    | .write bytes =>
      if s.holder ≠ none then
        some { s with socket := s.socket ++ s.rest.take bytes, rest := s.rest.drop bytes }
      else none
    | .unlock => if s.holder ≠ none ∧ s.rest = [] then some { s with holder := none } else none
    | .abort =>
      if s.connection.session.isNone && s.answered then
        some { s with ended := true, holder := none, rest := [], sections := [] }
      else none

def system (config : RtspConfig) (mediaConfig : MediaTaskConfig) (state : RtspServer θ ι)
    (ip : Option ι) : System (SharedWriter θ ι ρ) (WriterAction θ ι ρ) where
  start := { connection := .start state ip }
  step := step config mediaConfig

/-- The responses that the requests were given, the first one first. -/
def answers (s : SharedWriter θ ι ρ) : List RtspResponse :=
  s.connection.log.reverse.map (fun entry => entry.2.response entry.1)

/-- What the media task has produced. -/
def mediaFrames (s : SharedWriter θ ι ρ) : List MediaFrame := (s.media.map MediaLog.frames).getD []

end SharedWriter

/-! ## Pieces of the stream -/

inductive WirePiece
  | response (response : RtspResponse)
  | frame (frame : InterleavedFrame)

def WirePiece.bytes : WirePiece → Bytes
  | .response reply => reply.encode
  | .frame packet => packet.encode

def responsesIn (pieces : List WirePiece) : List RtspResponse :=
  pieces.filterMap (fun piece => match piece with
    | .response response => some response
    | .frame _ => none)

def framesIn (pieces : List WirePiece) : List InterleavedFrame :=
  pieces.filterMap (fun piece => match piece with
    | .response _ => none
    | .frame frame => some frame)

section

variable (pieces more : List WirePiece) (frames : List InterleavedFrame)

@[simp] theorem responsesIn_append :
    responsesIn (pieces ++ more) = responsesIn pieces ++ responsesIn more :=
  List.filterMap_append

@[simp] theorem framesIn_append : framesIn (pieces ++ more) = framesIn pieces ++ framesIn more :=
  List.filterMap_append

@[simp] theorem framesIn_frames : framesIn (frames.map .frame) = frames := by
  induction frames with
  | nil => rfl
  | cons frame frames ih => exact congrArg _ ih

@[simp] theorem responsesIn_frames : responsesIn (frames.map .frame) = [] := by
  induction frames with
  | nil => rfl
  | cons frame frames ih => exact ih

theorem bytes_frames :
    (frames.map .frame).flatMap WirePiece.bytes = InterleavedFrame.code.encodeAll frames := by
  induction frames with
  | nil => rfl
  | cons frame frames ih =>
    rw [List.map_cons, List.flatMap_cons, ih]
    rfl

end

/-! ## The stream of a connection -/

namespace SharedWriter

variable {θ ι ρ : Type*} {config : RtspConfig} {mediaConfig : MediaTaskConfig}
variable {state : RtspServer θ ι} {ip : Option ι} {s s' : SharedWriter θ ι ρ}
variable {pieces : List WirePiece} {pending : List (UInt8 × RtpFrame)}

/-- What went out and what the lock holder has still to write are whole pieces. The responses
and the frames are all there in their order, up to those that wait for the lock. -/
structure Intact (s : SharedWriter θ ι ρ) (pieces : List WirePiece)
    (pending : List (UInt8 × RtpFrame)) : Prop where
  bytes : s.socket ++ s.rest = pieces.flatMap WirePiece.bytes
  free : s.holder = none → s.rest = []
  valid : ∀ frame ∈ framesIn pieces, InterleavedFrame.code.Valid frame
  responses : responsesIn pieces ++ s.responding.toList = s.answers
  waiting : Carries s.sections.flatten pending
  frames : (framesIn pieces).map (fun frame => (frame.channel, RtpFrame.decode frame.payload)) ++
    pending.map (fun frame => (frame.1, some frame.2)) =
      s.mediaFrames.map (fun frame => (frame.channel, some frame.content))

/-- Only requests change the answers. -/
theorem log_of_connection_step {connection connection' : Connection θ ι}
    {event : ConnectionEvent θ ι} (h : connection.step config event = some connection')
    (hevent : ∀ request, event ≠ .request request) : connection'.log = connection.log := by
  cases event with
  | environment state =>
    obtain rfl := Option.some.inj h
    rfl
  | request request => exact absurd rfl (hevent request)
  | disconnect =>
    obtain ⟨session, -, rfl⟩ := Option.map_eq_some_iff.mp h
    rfl

/-- A request adds its response to those that are to be written. -/
theorem log_of_request {connection connection' : Connection θ ι} {request : RtspRequest}
    (h : connection.step config (.request request) = some connection') :
    ∃ reply, connection'.log = (request, reply) :: connection.log := by
  obtain ⟨session, -, rfl⟩ := Option.map_eq_some_iff.mp h
  exact ⟨_, Connection.answer_log _ _ _⟩

theorem stepConnection_eq {event : ConnectionEvent θ ι}
    (h : s.stepConnection config event = some s') :
    ∃ connection responding, s.connection.step config event = some connection ∧
      s' = { s with connection, responding } := by
  cases event with
  | environment state =>
    rw [stepConnection] at h
    obtain ⟨connection, hconnection, rfl⟩ := Option.map_eq_some_iff.mp h
    exact ⟨connection, _, hconnection, rfl⟩
  | request request =>
    rw [stepConnection, Option.ite_none_right_eq_some] at h
    obtain ⟨connection, hconnection, rfl⟩ := Option.map_eq_some_iff.mp h.2
    exact ⟨connection, _, hconnection, rfl⟩
  | disconnect =>
    rw [stepConnection, Option.ite_none_right_eq_some] at h
    obtain ⟨connection, hconnection, rfl⟩ := Option.map_eq_some_iff.mp h.2
    exact ⟨connection, _, hconnection, rfl⟩

theorem lock_eq {party : WriterParty} (h : s.lock party = some s') :
    ∃ responding sections rest,
      s' = { s with holder := some party, responding, sections, rest } := by
  cases party with
  | requests =>
    obtain ⟨response, -, rfl⟩ := Option.map_eq_some_iff.mp h
    exact ⟨_, _, _, rfl⟩
  | media =>
    rw [lock] at h
    split at h
    next => cases h
    next =>
      obtain rfl := Option.some.inj h
      exact ⟨_, _, _, rfl⟩

theorem responding_of_answered (h : s.answered = true) :
    s.responding = none ∧ s.holder ≠ some .requests := by
  simpa [answered] using h

namespace Intact

theorem connection (h : s.Intact pieces pending) {event : ConnectionEvent θ ι}
    (hstep : s.stepConnection config event = some s') : s'.Intact pieces pending := by
  cases event with
  | environment state =>
    rw [stepConnection] at hstep
    obtain ⟨connection, hconnection, rfl⟩ := Option.map_eq_some_iff.mp hstep
    have hlog := log_of_connection_step hconnection (by simp)
    refine ⟨h.bytes, h.free, h.valid, ?_, h.waiting, h.frames⟩
    rw [h.responses, answers, answers, hlog]
  | disconnect =>
    rw [stepConnection, Option.ite_none_right_eq_some] at hstep
    obtain ⟨connection, hconnection, rfl⟩ := Option.map_eq_some_iff.mp hstep.2
    have hlog := log_of_connection_step hconnection (by simp)
    refine ⟨h.bytes, h.free, h.valid, ?_, h.waiting, h.frames⟩
    rw [h.responses, answers, answers, hlog]
  | request request =>
    rw [stepConnection, Option.ite_none_right_eq_some] at hstep
    obtain ⟨connection, hconnection, rfl⟩ := Option.map_eq_some_iff.mp hstep.2
    obtain ⟨reply, hlog⟩ := log_of_request hconnection
    have hresponses := h.responses
    rw [(responding_of_answered hstep.1).1, Option.toList_none, List.append_nil] at hresponses
    refine ⟨h.bytes, h.free, h.valid, ?_, h.waiting, h.frames⟩
    rw [hresponses, answers, answers, hlog]
    simp

theorem spawn (h : s.Intact pieces pending) {receivers : RtspTrack → ρ}
    {playStartedAt resyncEpoch : Nat} {now : Nat → Nat}
    (hstep : s.spawn receivers playStartedAt resyncEpoch now = some s') :
    s'.Intact pieces pending := by
  rw [SharedWriter.spawn, Option.ite_none_right_eq_some] at hstep
  obtain ⟨hready, hspawned⟩ := hstep
  obtain ⟨task, -, rfl⟩ := Option.map_eq_some_iff.mp hspawned
  have hnone : s.media = none := by
    simp only [Bool.and_eq_true, Option.isNone_iff_eq_none] at hready
    exact hready.2
  refine ⟨h.bytes, h.free, h.valid, h.responses, h.waiting, ?_⟩
  rw [h.frames, mediaFrames, hnone]
  rfl

theorem media (h : s.Intact pieces pending) {action : TaskAction} {view : ChannelView ρ}
    (hstep : s.stepMedia mediaConfig action view = some s') :
    ∃ more, s'.Intact pieces more := by
  rw [stepMedia, Option.ite_none_right_eq_some] at hstep
  obtain ⟨⟨hsections, -⟩, hstepped⟩ := hstep
  obtain ⟨log, hlog, hmapped⟩ := Option.bind_eq_some_iff.mp hstepped
  obtain ⟨outcome, houtcome, rfl⟩ := Option.map_eq_some_iff.mp hmapped
  obtain ⟨frames, hcarries, -⟩ :=
    MediaTask.wrote_of_performed (MediaTask.performed_of_step houtcome)
  have hpending : pending = [] := by
    have hwaiting := h.waiting
    rw [hsections] at hwaiting
    exact hwaiting.eq_nil
  have hbefore : s.mediaFrames = log.frames := by
    rw [mediaFrames, hlog]
    rfl
  have hsame := h.frames
  rw [hpending, hbefore, List.map_nil, List.append_nil] at hsame
  refine ⟨frames, h.bytes, h.free, h.valid, h.responses, ?_, ?_⟩
  · show Carries (log.run.task.sections action outcome.written).flatten frames
    rw [MediaTask.sections, lockSections_flatten]
    exact hcarries
  · show _ = (log.record mediaConfig action view outcome).frames.map _
    rw [MediaLog.record, hcarries.received, Option.getD_some, List.map_append, hsame, List.map_map]
    rfl

theorem lock (h : s.Intact pieces pending) (hfree : s.holder = none) {party : WriterParty}
    (hstep : s.lock party = some s') : ∃ others waiting, s'.Intact others waiting := by
  have hbytes := h.bytes
  rw [h.free hfree, List.append_nil] at hbytes
  cases party with
  | requests =>
    obtain ⟨response, hresponse, rfl⟩ := Option.map_eq_some_iff.mp hstep
    refine ⟨pieces ++ [.response response], pending, ?_, ?_, ?_, ?_, h.waiting, ?_⟩
    · show s.socket ++ response.encode = _
      rw [List.flatMap_append, hbytes, List.flatMap_singleton]
      rfl
    · rintro ⟨⟩
    · intro frame hframe
      rw [framesIn_append] at hframe
      exact h.valid frame (by simpa [framesIn] using hframe)
    · have hresponses := h.responses
      rw [hresponse] at hresponses
      rw [responsesIn_append, Option.toList_none, List.append_nil]
      exact hresponses
    · rw [framesIn_append]
      show (framesIn pieces ++ []).map _ ++ _ = _
      rw [List.append_nil]
      exact h.frames
  | media =>
    cases hsections : s.sections with
    | nil =>
      rw [SharedWriter.lock, hsections] at hstep
      cases hstep
    | cons writes sections =>
      rw [SharedWriter.lock, hsections] at hstep
      obtain rfl := Option.some.inj hstep
      have hwaiting := h.waiting
      rw [hsections, List.flatten_cons] at hwaiting
      obtain ⟨left, right, rfl, ⟨groups, rfl, hvalid, hdecode⟩, hright⟩ := hwaiting.of_append
      refine ⟨pieces ++ groups.flatten.map .frame, right, ?_, ?_, ?_, ?_, hright, ?_⟩
      · show s.socket ++ (groups.map InterleavedFrame.code.encodeAll).flatten = _
        rw [List.flatMap_append, bytes_frames, hbytes, Carries.flatten_map_encodeAll]
      · rintro ⟨⟩
      · intro frame hframe
        rw [framesIn_append, framesIn_frames] at hframe
        obtain hframe | hframe := List.mem_append.mp hframe
        · exact h.valid frame hframe
        · obtain ⟨group, hgroup, hmem⟩ := List.mem_flatten.mp hframe
          exact hvalid group hgroup frame hmem
      · rw [responsesIn_append, responsesIn_frames, List.append_nil]
        exact h.responses
      · rw [framesIn_append, framesIn_frames, List.map_append, hdecode, List.append_assoc,
          ← List.map_append]
        exact h.frames

theorem write (h : s.Intact pieces pending) (bytes : Nat) (hheld : s.holder ≠ none) :
    ({ s with socket := s.socket ++ s.rest.take bytes, rest := s.rest.drop bytes } :
      SharedWriter θ ι ρ).Intact pieces pending where
  bytes := by
    dsimp only
    rw [List.append_assoc, List.take_append_drop]
    exact h.bytes
  free hfree := absurd hfree hheld
  valid := h.valid
  responses := h.responses
  waiting := h.waiting
  frames := h.frames

end Intact

/-! ## Every run -/

/-- A step, one constructor for each action. -/
inductive Performed (config : RtspConfig) (mediaConfig : MediaTaskConfig) (s : SharedWriter θ ι ρ) :
    WriterAction θ ι ρ → SharedWriter θ ι ρ → Prop
  | connection {event : ConnectionEvent θ ι} {s' : SharedWriter θ ι ρ}
      (hstep : s.stepConnection config event = some s') :
      Performed config mediaConfig s (.connection event) s'
  | spawn {receivers : RtspTrack → ρ} {playStartedAt resyncEpoch : Nat} {now : Nat → Nat}
      {s' : SharedWriter θ ι ρ} (hstep : s.spawn receivers playStartedAt resyncEpoch now = some s') :
      Performed config mediaConfig s (.spawn receivers playStartedAt resyncEpoch now) s'
  | media {action : TaskAction} {view : ChannelView ρ} {s' : SharedWriter θ ι ρ}
      (hstep : s.stepMedia mediaConfig action view = some s') :
      Performed config mediaConfig s (.media action view) s'
  | lock {party : WriterParty} {s' : SharedWriter θ ι ρ} (hfree : s.holder = none)
      (hstep : s.lock party = some s') : Performed config mediaConfig s (.lock party) s'
  | write {bytes : Nat} (hheld : s.holder ≠ none) :
      Performed config mediaConfig s (.write bytes)
        { s with socket := s.socket ++ s.rest.take bytes, rest := s.rest.drop bytes }
  | unlock (hrest : s.rest = []) : Performed config mediaConfig s .unlock { s with holder := none }
  | abort : Performed config mediaConfig s .abort
      { s with ended := true, holder := none, rest := [], sections := [] }

theorem performed_of_step {action : WriterAction θ ι ρ}
    (h : s.step config mediaConfig action = some s') :
    s.ended = false ∧ Performed config mediaConfig s action s' := by
  rw [step.eq_def] at h
  split at h
  next => cases h
  next hopen =>
    refine ⟨Bool.eq_false_iff.mpr hopen, ?_⟩
    cases action with
    | connection event => exact .connection h
    | spawn receivers playStartedAt resyncEpoch now => exact .spawn h
    | media action view => exact .media h
    | lock party =>
      rw [Option.ite_none_right_eq_some] at h
      exact .lock h.1 h.2
    | write bytes =>
      rw [Option.ite_none_right_eq_some] at h
      obtain ⟨hheld, hwritten⟩ := h
      obtain rfl := Option.some.inj hwritten
      exact .write hheld
    | unlock =>
      rw [Option.ite_none_right_eq_some] at h
      obtain ⟨⟨-, hrest⟩, hunlocked⟩ := h
      obtain rfl := Option.some.inj hunlocked
      exact .unlock hrest
    | abort =>
      rw [Option.ite_none_right_eq_some] at h
      obtain rfl := Option.some.inj h.2
      exact .abort

/-- Beside the requests nothing changes the session. -/
theorem connection_of_performed {action : WriterAction θ ι ρ}
    (h : Performed config mediaConfig s action s') :
    s'.connection = s.connection ∨
      ∃ event, s.connection.step config event = some s'.connection := by
  cases h with
  | @connection event _ hstep =>
    obtain ⟨connection, responding, hconnection, rfl⟩ := stepConnection_eq hstep
    exact .inr ⟨event, hconnection⟩
  | spawn hstep =>
    rw [SharedWriter.spawn, Option.ite_none_right_eq_some] at hstep
    obtain ⟨task, -, rfl⟩ := Option.map_eq_some_iff.mp hstep.2
    exact .inl rfl
  | media hstep =>
    rw [stepMedia, Option.ite_none_right_eq_some] at hstep
    obtain ⟨log, -, hmapped⟩ := Option.bind_eq_some_iff.mp hstep.2
    obtain ⟨outcome, -, rfl⟩ := Option.map_eq_some_iff.mp hmapped
    exact .inl rfl
  | lock _ hstep =>
    obtain ⟨responding, sections, rest, rfl⟩ := lock_eq hstep
    exact .inl rfl
  | write _ => exact .inl rfl
  | unlock _ => exact .inl rfl
  | abort => exact .inl rfl

theorem connection_reachable (h : (system config mediaConfig state ip).Reachable s) :
    (Connection.system config state ip).Reachable s.connection := by
  refine h.simulate SharedWriter.connection rfl ?_
  intro s action s' hstep
  exact connection_of_performed (performed_of_step hstep).2

/-- The media task keeps its accounts, from what PLAY has announced on. -/
def MediaBalanced (s : SharedWriter θ ι ρ) : Prop :=
  ∀ log, s.media = some log → log.Balanced (fun _ => ({} : RtpState).sequence)

theorem MediaBalanced.performed {action : WriterAction θ ι ρ} (h : s.MediaBalanced)
    (hreachable : (system config mediaConfig state ip).Reachable s)
    (hperformed : Performed config mediaConfig s action s') : s'.MediaBalanced := by
  cases hperformed with
  | connection hstep =>
    obtain ⟨connection, responding, -, rfl⟩ := stepConnection_eq hstep
    exact h
  | spawn hstep =>
    rw [SharedWriter.spawn, Option.ite_none_right_eq_some] at hstep
    obtain ⟨task, htask, rfl⟩ := Option.map_eq_some_iff.mp hstep.2
    obtain ⟨session, hsession, htask⟩ := Option.bind_eq_some_iff.mp htask
    rintro log ⟨⟩
    have hannounces := announces_of_reachable (connection_reachable hreachable) hsession
    exact hannounces.balanced htask _ _ _ _
  | @media action view _ hstep =>
    rw [stepMedia, Option.ite_none_right_eq_some] at hstep
    obtain ⟨log, hlog, hmapped⟩ := Option.bind_eq_some_iff.mp hstep.2
    obtain ⟨outcome, houtcome, rfl⟩ := Option.map_eq_some_iff.mp hmapped
    have hstepped : log.step mediaConfig (action, view) =
        some (log.record mediaConfig action view outcome) :=
      Option.map_eq_some_iff.mpr ⟨outcome, houtcome, rfl⟩
    rintro log' ⟨⟩
    exact (h log hlog).step hstepped
  | lock _ hstep =>
    obtain ⟨responding, sections, rest, rfl⟩ := lock_eq hstep
    exact h
  | write _ => exact h
  | unlock _ => exact h
  | abort => exact h

/-- What is on the wire at any time: whole pieces, but for the end of what the abort of the
media task has cut. -/
inductive StreamIntact (s : SharedWriter θ ι ρ) : Prop
  | running (hopen : s.ended = false) (pieces : List WirePiece)
      (pending : List (UInt8 × RtpFrame)) (hintact : s.Intact pieces pending)
  | ended (hended : s.ended = true) (pieces : List WirePiece)
      (hvalid : ∀ frame ∈ framesIn pieces, InterleavedFrame.code.Valid frame)
      (hcut : s.socket <+: pieces.flatMap WirePiece.bytes)

theorem StreamIntact.performed {action : WriterAction θ ι ρ} (h : s.StreamIntact)
    (hopen : s.ended = false) (hperformed : Performed config mediaConfig s action s') :
    s'.StreamIntact := by
  cases h with
  | ended hended =>
    rw [hopen] at hended
    cases hended
  | running _ pieces pending hintact =>
    cases hperformed with
    | connection hstep =>
      have hnext := hintact.connection hstep
      obtain ⟨connection, responding, -, rfl⟩ := stepConnection_eq hstep
      exact .running hopen pieces pending hnext
    | spawn hstep =>
      have hnext := hintact.spawn hstep
      rw [SharedWriter.spawn, Option.ite_none_right_eq_some] at hstep
      obtain ⟨task, -, rfl⟩ := Option.map_eq_some_iff.mp hstep.2
      exact .running hopen pieces pending hnext
    | media hstep =>
      obtain ⟨more, hnext⟩ := hintact.media hstep
      rw [stepMedia, Option.ite_none_right_eq_some] at hstep
      obtain ⟨log, -, hmapped⟩ := Option.bind_eq_some_iff.mp hstep.2
      obtain ⟨outcome, -, rfl⟩ := Option.map_eq_some_iff.mp hmapped
      exact .running hopen pieces more hnext
    | lock hfree hstep =>
      obtain ⟨others, waiting, hnext⟩ := hintact.lock hfree hstep
      obtain ⟨responding, sections, rest, rfl⟩ := lock_eq hstep
      exact .running hopen others waiting hnext
    | @write bytes hheld => exact .running hopen pieces pending (hintact.write bytes hheld)
    | unlock hrest =>
      refine .running hopen pieces pending
        ⟨hintact.bytes, fun _ => hrest, hintact.valid, ?_, ?_, ?_⟩
      · exact hintact.responses
      · exact hintact.waiting
      · exact hintact.frames
    | abort => exact .ended rfl pieces hintact.valid ⟨s.rest, hintact.bytes⟩

end SharedWriter

end VRCStreamer
