import VRCStreamer.Codec.Reading
import VRCStreamer.Rtsp.Session
import VRCStreamer.Text.Utf8

/-!
# RTSP input

`read_rtsp_input` of `rtsp.rs` with the readers under it. Only `read_until_limited` looks at the
buffer of its reader: it takes the line piece by piece and checks the limit before each piece. All
the others read through it or exactly.
-/

namespace VRCStreamer

open Codec Reading

inductive ErrorKind
  | unexpectedEof
  | invalidData
  deriving DecidableEq

/-- The error that ends a session. `invalidUtf8` is the `FromUtf8Error` of its bytes. -/
inductive RtspInputError
  | io (kind : ErrorKind) (text : String)
  | protocol (text : String)
  | invalidUtf8 (bytes : Bytes)
  deriving DecidableEq

inductive RtspInput
  | request (request : RtspRequest) (version : Text)
  | interleaved
  deriving DecidableEq

abbrev RtspReading (β : Type) := Reading UInt8 RtspInputError β

/-- The error of `read_exact`. -/
def earlyEof : RtspInputError := .io .unexpectedEof "early eof"

/-! ## Lines -/

/-- How many bytes `read_until_limited` takes of what is buffered. -/
def lineLength (delimiter : UInt8) (available : Bytes) : Nat :=
  ((available.findIdx? (· == delimiter)).map (· + 1)).getD available.length

section LineLength

variable {delimiter : UInt8}

@[simp] theorem lineLength_nil : lineLength delimiter [] = 0 := rfl

theorem lineLength_cons (byte : UInt8) (bytes : Bytes) : lineLength delimiter (byte :: bytes) =
    if byte = delimiter then 1 else lineLength delimiter bytes + 1 := by
  rw [lineLength, lineLength, List.findIdx?_cons]
  by_cases h : byte = delimiter
  · simp [h]
  · rw [if_neg (by simpa using h), if_neg h]
    cases bytes.findIdx? (· == delimiter) <;> rfl

theorem lineLength_le (bytes : Bytes) : lineLength delimiter bytes ≤ bytes.length := by
  induction bytes with
  | nil => exact le_rfl
  | cons byte bytes ih =>
    rw [lineLength_cons, List.length_cons]
    split <;> omega

theorem lineLength_pos {bytes : Bytes} (h : bytes ≠ []) : 0 < lineLength delimiter bytes := by
  obtain ⟨byte, bytes, rfl⟩ := List.exists_cons_of_ne_nil h
  rw [lineLength_cons]
  split <;> omega

/-- A line ends in the piece that has the delimiter, and goes on behind one that has not. -/
theorem lineLength_append (left right : Bytes) : lineLength delimiter (left ++ right) =
    if delimiter ∈ left then lineLength delimiter left
    else left.length + lineLength delimiter right := by
  induction left with
  | nil => simp
  | cons byte left ih =>
    rw [List.cons_append, lineLength_cons, lineLength_cons, ih]
    by_cases h : byte = delimiter
    · simp [h]
    · by_cases hmem : delimiter ∈ left
      · simp [h, hmem]
      · simp [h, hmem, Ne.symm h]
        omega

theorem lineLength_of_notMem {bytes : Bytes} (h : delimiter ∉ bytes) :
    lineLength delimiter bytes = bytes.length := by
  have happend : lineLength delimiter (bytes ++ []) = _ := lineLength_append bytes []
  rw [if_neg h, List.append_nil] at happend
  exact happend

theorem lineLength_line {line : Bytes} (h : delimiter ∉ line) (rest : Bytes) :
    lineLength delimiter (line ++ delimiter :: rest) = line.length + 1 := by
  rw [lineLength_append, if_neg h, lineLength_cons, if_pos rfl]

theorem mem_take_lineLength (bytes : Bytes) :
    delimiter ∈ bytes.take (lineLength delimiter bytes) ↔ delimiter ∈ bytes := by
  induction bytes with
  | nil => simp
  | cons byte bytes ih =>
    rw [lineLength_cons]
    by_cases h : byte = delimiter
    · simp [h]
    · simp [h, ih, Ne.symm h]

end LineLength

/-- One round of the loop in `read_until_limited`. -/
def untilStep (delimiter : UInt8) (limit : Nat) (buffer : Bytes) : RtspReading (Bytes ⊕ Bytes) :=
  fun r =>
    let available := r.fillBuf
    if available = [] then .ok (.inr buffer, r)
    else
      let take := lineLength delimiter available
      let found := delimiter ∈ available.take take
      if limit < buffer.length + take then .error (.io .invalidData "rtsp line too long")
      else
        let buffer := buffer ++ available.take take
        let r := r.consume take
        if found then .ok (.inr buffer, r) else .ok (.inl buffer, r)

theorem untilStep_progress {delimiter : UInt8} {limit : Nat} {buffer buffer' : Bytes}
    {r r' : Pieces UInt8} (h : untilStep delimiter limit buffer r = .ok (.inl buffer', r')) :
    r'.stream.length < r.stream.length := by
  simp only [untilStep] at h
  split at h
  next => cases h
  next hfill =>
    split at h
    next => cases h
    next =>
      split at h
      next => cases h
      next =>
        cases h
        have htake : 0 < lineLength delimiter r.fillBuf := lineLength_pos hfill
        have hpos := List.length_pos_of_ne_nil hfill
        have hle := r.length_fillBuf_le
        rw [Pieces.stream_consume (lineLength_le _), List.length_drop]
        omega

def untilLoop (delimiter : UInt8) (limit : Nat) : Loop UInt8 Bytes Bytes RtspInputError :=
  ⟨untilStep delimiter limit, untilStep_progress⟩

/-- Returns the buffer; the source also returns by how much it has grown. -/
def readUntilLimited (delimiter : UInt8) (buffer : Bytes) (limit : Nat) : RtspReading Bytes :=
  (untilLoop delimiter limit).run buffer

section Lines

variable {delimiter : UInt8} {limit : Nat}

/-- What comes of a line on a buffer, and how many bytes it takes from the stream. -/
def lineOutcome (delimiter : UInt8) (limit : Nat) (buffer stream : Bytes) :
    Except RtspInputError (Bytes × Nat) :=
  if stream = [] then .ok (buffer, 0)
  else
    let take := lineLength delimiter stream
    if limit < buffer.length + take then .error (.io .invalidData "rtsp line too long")
    else .ok (buffer ++ stream.take take, take)

/-- A piece without the delimiter, with the limit checked on the way. -/
theorem lineOutcome_append {buffer left : Bytes} (hne : left ≠ []) (hmem : delimiter ∉ left)
    (right : Bytes) : lineOutcome delimiter limit buffer (left ++ right) =
      if limit < buffer.length + left.length then .error (.io .invalidData "rtsp line too long")
      else (lineOutcome delimiter limit (buffer ++ left) right).map
        (fun outcome => (outcome.1, left.length + outcome.2)) := by
  have hlength :
      lineLength delimiter (left ++ right) = left.length + lineLength delimiter right := by
    rw [lineLength_append, if_neg hmem]
  have happend : left ++ right ≠ [] := List.append_ne_nil_of_left_ne_nil hne right
  simp only [lineOutcome, happend, if_false, hlength, List.length_append,
    List.take_length_add_append]
  by_cases hright : right = []
  · simp only [hright, lineLength_nil, Nat.add_zero, List.take_nil, List.append_nil, if_true]
    rfl
  · simp only [hright, if_false]
    by_cases hlimit : limit < buffer.length + left.length
    · rw [if_pos hlimit, if_pos (by omega)]
    · rw [if_neg hlimit]
      by_cases htotal : limit < buffer.length + left.length + lineLength delimiter right
      · rw [if_pos htotal, if_pos (by omega)]
        rfl
      · rw [if_neg htotal, if_neg (by omega), List.append_assoc]
        rfl

/-- The pieces do not show: the limit counts the bytes of the line. -/
theorem untilLoop_gives (buffer : Bytes) (r : Pieces UInt8) :
    Gives ((untilLoop delimiter limit).run buffer) r
      (lineOutcome delimiter limit buffer r.stream) := by
  induction buffer, r using (untilLoop delimiter limit).induction with
  | round buffer r ih =>
    have hstep :
        (untilLoop delimiter limit).step buffer r = untilStep delimiter limit buffer r := rfl
    simp only [untilStep] at hstep
    by_cases hfill : r.fillBuf = []
    · rw [if_pos hfill] at hstep
      rw [lineOutcome, if_pos (Pieces.fillBuf_eq_nil hfill)]
      exact ⟨r, Loop.run_of_done hstep, rfl⟩
    rw [if_neg hfill] at hstep
    by_cases hmem : delimiter ∈ r.fillBuf
    · -- the line ends in this piece
      have hle : lineLength delimiter r.fillBuf ≤ r.fillBuf.length := lineLength_le r.fillBuf
      have htake := r.take_fillBuf (lineLength delimiter r.fillBuf)
      rw [List.length_take_of_le hle] at htake
      have hne : r.stream ≠ [] := by
        rw [r.fillBuf_append_consume]
        exact List.append_ne_nil_of_left_ne_nil hfill _
      have hlength : lineLength delimiter r.stream = lineLength delimiter r.fillBuf := by
        rw [r.fillBuf_append_consume, lineLength_append, if_pos hmem]
      simp only [lineOutcome, if_neg hne, hlength]
      rw [if_pos ((mem_take_lineLength r.fillBuf).mpr hmem)] at hstep
      split at hstep
      next hlimit =>
        rw [if_pos hlimit]
        exact Loop.run_of_error hstep
      next hlimit =>
        rw [if_neg hlimit, ← htake]
        exact ⟨_, Loop.run_of_done hstep, Pieces.stream_consume hle⟩
    · have hall : lineLength delimiter r.fillBuf = r.fillBuf.length := lineLength_of_notMem hmem
      rw [hall, List.take_length, if_neg hmem] at hstep
      have hsplit : lineOutcome delimiter limit buffer (r.fillBuf ++ _) = _ :=
        lineOutcome_append hfill hmem (r.consume r.fillBuf.length).stream
      rw [← r.fillBuf_append_consume] at hsplit
      rw [hsplit]
      split at hstep
      next hlimit =>
        rw [if_pos hlimit]
        exact Loop.run_of_error hstep
      next hlimit =>
        rw [if_neg hlimit]
        exact Loop.gives_again hstep (Pieces.stream_consume le_rfl) (ih _ _ hstep)

theorem readUntilLimited_uniform (buffer : Bytes) :
    Uniform (readUntilLimited delimiter buffer limit) :=
  .of_gives (lineOutcome delimiter limit buffer) (untilLoop_gives buffer)

/-- What the buffer gains is what the stream loses. -/
theorem readUntilLimited_length {buffer line : Bytes} {r r' : Pieces UInt8}
    (h : readUntilLimited delimiter buffer limit r = .ok (line, r')) :
    line.length + r'.stream.length = buffer.length + r.stream.length := by
  obtain ⟨n, houtcome, hdrop⟩ := (untilLoop_gives buffer r).of_ok h
  simp only [lineOutcome] at houtcome
  split at houtcome
  next =>
    cases houtcome
    rw [hdrop, List.drop_zero]
  next =>
    split at houtcome
    next => cases houtcome
    next =>
      cases houtcome
      have hle : lineLength delimiter r.stream ≤ r.stream.length := lineLength_le r.stream
      rw [hdrop, List.length_append, List.length_take, List.length_drop]
      omega

theorem readUntilLimited_reads {buffer line : Bytes} (hmem : delimiter ∉ line)
    (hlimit : buffer.length + line.length + 1 ≤ limit) (rest : Bytes) :
    Reads (readUntilLimited delimiter buffer limit) (line ++ delimiter :: rest)
      (buffer ++ line ++ [delimiter]) rest := by
  intro r hr
  have hgives : Gives (readUntilLimited delimiter buffer limit) r _ := untilLoop_gives buffer r
  have houtcome : lineOutcome delimiter limit buffer r.stream =
      .ok (buffer ++ (line ++ [delimiter]), line.length + 1) := by
    have hline : line ++ delimiter :: rest = line ++ [delimiter] ++ rest := by simp
    have hlength : (line ++ [delimiter]).length = line.length + 1 := by simp
    rw [lineOutcome, hr, if_neg (by simp), lineLength_line hmem, if_neg (by omega), hline,
      ← hlength, List.take_left]
  rw [houtcome] at hgives
  obtain ⟨r', hrun, hdrop⟩ := hgives
  refine ⟨r', ?_, ?_⟩
  · rw [List.append_assoc]
    exact hrun
  · rw [hdrop, hr]
    simp

end Lines

/-! ## Blocks and single bytes -/

def discardExact (len : Nat) : RtspReading Unit :=
  if len = 0 then pure ()
  else do
    let chunk := min len RTSP_DISCARD_BUFFER_BYTES
    let _ ← readExact earlyEof chunk
    discardExact (len - chunk)
termination_by len
decreasing_by
  have : 0 < RTSP_DISCARD_BUFFER_BYTES := by decide
  omega

theorem discardExact_uniform (len : Nat) : Uniform (discardExact len) := by
  induction len using Nat.strong_induction_on with
  | _ len ih =>
    rw [discardExact]
    apply Uniform.ite
    · intro _
      exact .pure ()
    · intro hlen
      have hchunk : 0 < min len RTSP_DISCARD_BUFFER_BYTES :=
        Nat.lt_min.mpr ⟨Nat.pos_of_ne_zero hlen, by decide⟩
      exact .bind (readExact_uniform _) (fun _ => ih _ (by omega))

theorem discardExact_reads {len : Nat} {body rest : Bytes} (h : body.length = len) :
    Reads (discardExact len) (body ++ rest) () rest := by
  induction len using Nat.strong_induction_on generalizing body with
  | _ len ih =>
    rw [discardExact]
    split
    next hlen =>
      rw [List.eq_nil_of_length_eq_zero (h.trans hlen)]
      exact .pure () rest
    next hlen =>
      have hchunk : 0 < min len RTSP_DISCARD_BUFFER_BYTES :=
        Nat.lt_min.mpr ⟨Nat.pos_of_ne_zero hlen, by decide⟩
      have hle := Nat.min_le_left len RTSP_DISCARD_BUFFER_BYTES
      generalize min len RTSP_DISCARD_BUFFER_BYTES = chunk at hchunk hle ⊢
      have htake : (body.take chunk).length = chunk := List.length_take_of_le (h ▸ hle)
      have hdrop : (body.drop chunk).length = len - chunk := by rw [List.length_drop, h]
      have hrest := ih (len - chunk) (by omega) hdrop
      rw [← List.take_append_drop chunk body, List.append_assoc]
      exact .bind (readExact_reads htake) hrest

def readOne : RtspReading (Option UInt8) := fun r =>
  match readExact earlyEof 1 r with
  | .ok (byte, r') => .ok (byte.head?, r')
  | .error error => if error = earlyEof then .ok (none, r) else .error error

theorem readOne_nil : Reads readOne [] none [] := by
  intro r hr
  refine ⟨r, ?_, hr⟩
  rw [readOne, readExact_fails (by decide : [].length < 1) r hr]
  rfl

theorem readOne_cons (byte : UInt8) (rest : Bytes) :
    Reads readOne (byte :: rest) (some byte) rest := by
  intro r hr
  have hexact : Reads (readExact earlyEof 1) ([byte] ++ rest) [byte] rest := readExact_reads rfl
  obtain ⟨r', hread, hrest⟩ := hexact r hr
  refine ⟨r', ?_, hrest⟩
  rw [readOne, hread]
  rfl

/-- All outcomes of `read_one`. -/
theorem readOne_gives (r : Pieces UInt8) :
    Gives readOne r (.ok (r.stream.head?, min r.stream.length 1)) := by
  cases hr : r.stream with
  | nil =>
    obtain ⟨r', hread, hrest⟩ := readOne_nil r hr
    exact ⟨r', hread, by simp [hrest, hr]⟩
  | cons byte rest =>
    obtain ⟨r', hread, hrest⟩ := readOne_cons byte rest r hr
    exact ⟨r', hread, by simp [hrest, hr]⟩

theorem readOne_uniform : Uniform readOne :=
  .of_gives (fun stream => .ok (stream.head?, min stream.length 1)) readOne_gives

theorem readOne_shorter {r r' : Pieces UInt8} {byte : UInt8} (h : readOne r = .ok (some byte, r')) :
    r'.stream.length < r.stream.length := by
  obtain ⟨n, houtcome, hdrop⟩ := (readOne_gives r).of_ok h
  cases hr : r.stream with
  | nil =>
    rw [hr] at houtcome
    cases houtcome
  | cons first rest =>
    rw [hr] at houtcome
    cases houtcome
    rw [hdrop, hr]
    simp

/-! ## Requests -/

/-- The headers read so far, their bytes, and the length of the body that they announce. -/
structure RtspHeaderBlock where
  headers : List (Text × Text) := []
  headerBytes : Nat := 0
  contentLength : Nat := 0
  deriving DecidableEq

namespace RtspHeaderBlock

/-- What a header line adds; a line without a colon adds nothing. -/
def push (block : RtspHeaderBlock) (line : Text) : RtspHeaderBlock :=
  match Text.splitOnce [':'] line with
  | none => block
  | some (name, value) =>
    let name := Text.toAsciiLowercase (Text.trim name)
    let value := Text.trim value
    { block with
      headers := block.headers ++ [(name, value)]
      contentLength :=
        if name = "content-length".toList then (Text.parseUsize value).getD 0
        else block.contentLength }

/-- What a round of the loop over the header lines does with its line. -/
def acceptLine (block : RtspHeaderBlock) (line : Bytes) :
    RtspReading (RtspHeaderBlock ⊕ RtspHeaderBlock) :=
  if line = [] ∨ line = [0x0D, 0x0A] ∨ line = [0x0A] then pure (.inr block)
  else if RTSP_MAX_HEADERS ≤ block.headers.length then throw (.protocol "too many rtsp headers")
  else
    let headerBytes := block.headerBytes + line.length
    if RTSP_MAX_HEADER_BYTES < headerBytes then throw (.protocol "rtsp headers are too large")
    else
      match Text.fromUtf8 line with
      | none => throw (.invalidUtf8 line)
      | some text => pure (.inl (push { block with headerBytes } text))

def step (block : RtspHeaderBlock) : RtspReading (RtspHeaderBlock ⊕ RtspHeaderBlock) :=
  readUntilLimited 0x0A [] RTSP_MAX_LINE_BYTES >>= block.acceptLine

theorem acceptLine_uniform (block : RtspHeaderBlock) (line : Bytes) :
    Uniform (block.acceptLine line) := by
  refine .ite (fun _ => .pure _) (fun _ => ?_)
  refine .ite (fun _ => .throw _) (fun _ => ?_)
  refine .ite (fun _ => .throw _) (fun _ => ?_)
  cases Text.fromUtf8 line with
  | none => exact .throw _
  | some text => exact .pure _

theorem step_uniform (block : RtspHeaderBlock) : Uniform block.step :=
  .bind (readUntilLimited_uniform []) block.acceptLine_uniform

/-- Only an empty line reads nothing, and it ends the block. -/
theorem step_progress {block block' : RtspHeaderBlock} {r r' : Pieces UInt8}
    (h : block.step r = .ok (.inl block', r')) : r'.stream.length < r.stream.length := by
  obtain ⟨line, s, hline, haccept⟩ := bind_eq_ok h
  have hlength := readUntilLimited_length hline
  have hsuffix := ((block.acceptLine_uniform line).suffix haccept).length_le
  have hne : line ≠ [] := by
    rintro rfl
    rw [acceptLine, if_pos (.inl rfl)] at haccept
    cases haccept
  have hpos := List.length_pos_of_ne_nil hne
  rw [List.length_nil] at hlength
  omega

end RtspHeaderBlock

def headerLoop : Loop UInt8 RtspHeaderBlock RtspHeaderBlock RtspInputError :=
  ⟨RtspHeaderBlock.step, RtspHeaderBlock.step_progress⟩

/-- The body of a request is skipped. -/
def discardBody (contentLength : Nat) : RtspReading Unit :=
  if contentLength = 0 then pure ()
  else if RTSP_MAX_BODY_BYTES < contentLength then throw (.protocol "rtsp request body too large")
  else discardExact contentLength

/-- The rest of a request behind its first line. -/
def readRequest (method uri version : Text) : RtspReading RtspInput := do
  let block ← headerLoop.run {}
  discardBody block.contentLength
  pure (.request ⟨Text.toAsciiUppercase method, uri, block.headers⟩ version)

/-- The rest of an interleaved frame behind its dollar sign. -/
def readInterleaved : RtspReading RtspInput := do
  let header ← readExact earlyEof 3
  let len := (read16 (header.getD 1 0) (header.getD 2 0)).toNat
  if RTSP_MAX_INTERLEAVED_BYTES < len then
    throw (.protocol "rtsp interleaved packet too large")
  else
    discardExact len
    pure .interleaved

theorem headerBlock_uniform (block : RtspHeaderBlock) : Uniform (headerLoop.run block) :=
  Loop.uniform RtspHeaderBlock.step_uniform block

theorem discardBody_uniform (contentLength : Nat) : Uniform (discardBody contentLength) := by
  refine .ite (fun _ => .pure ()) (fun _ => ?_)
  exact .ite (fun _ => .throw _) (fun _ => discardExact_uniform _)

theorem readRequest_uniform (method uri version : Text) :
    Uniform (readRequest method uri version) := by
  refine .bind (headerBlock_uniform {}) (fun block => ?_)
  exact .bind (discardBody_uniform _) (fun _ => .pure _)

theorem readInterleaved_uniform : Uniform readInterleaved := by
  refine .bind (readExact_uniform 3) (fun header => ?_)
  exact .ite (fun _ => .throw _) (fun _ => .bind (discardExact_uniform _) (fun _ => .pure _))

/-- What a round of the loop in `read_rtsp_input` does after its first byte. Line breaks and lines
without a URI are skipped. -/
def acceptFirst (first : UInt8) : RtspReading (Unit ⊕ Option RtspInput) := do
  if first = 0x24 then
    let input ← readInterleaved
    pure (.inr (some input))
  else if first = 0x0D ∨ first = 0x0A then pure (.inl ())
  else
    let firstLine ← readUntilLimited 0x0A [first] RTSP_MAX_LINE_BYTES
    match Text.fromUtf8 firstLine with
    | none => throw (.invalidUtf8 firstLine)
    | some text =>
      match Text.splitWhitespace text with
      | method :: uri :: parts =>
        let input ← readRequest method uri (parts.headD "RTSP/1.0".toList)
        pure (.inr (some input))
      | _ => pure (.inl ())

def inputStep (_ : Unit) : RtspReading (Unit ⊕ Option RtspInput) := do
  match ← readOne with
  | none => pure (.inr none)
  | some first => acceptFirst first

theorem acceptFirst_uniform (first : UInt8) : Uniform (acceptFirst first) := by
  refine .ite (fun _ => .bind readInterleaved_uniform (fun _ => .pure _)) (fun _ => ?_)
  refine .ite (fun _ => .pure _) (fun _ => ?_)
  refine .bind (readUntilLimited_uniform _) (fun line => ?_)
  cases Text.fromUtf8 line with
  | none => exact .throw _
  | some text =>
    show Uniform (match Text.splitWhitespace text with
      | method :: uri :: parts => _
      | _ => _)
    split
    next => exact .bind (readRequest_uniform _ _ _) (fun _ => .pure _)
    next => exact .pure _

theorem inputStep_uniform (s : Unit) : Uniform (inputStep s) := by
  refine .bind readOne_uniform (fun first => ?_)
  cases first with
  | none => exact .pure _
  | some first => exact acceptFirst_uniform first

/-- A round that does not find the end of the stream has read its first byte. -/
theorem inputStep_shorter {r r' : Pieces UInt8} {next : Unit ⊕ Option RtspInput}
    (h : inputStep () r = .ok (next, r')) (hnext : next ≠ .inr none) :
    r'.stream.length < r.stream.length := by
  obtain ⟨first, s, hfirst, haccept⟩ := bind_eq_ok h
  cases first with
  | none =>
    cases haccept
    exact absurd rfl hnext
  | some first =>
    have hsuffix := ((acceptFirst_uniform first).suffix haccept).length_le
    exact hsuffix.trans_lt (readOne_shorter hfirst)

def inputLoop : Loop UInt8 Unit (Option RtspInput) RtspInputError where
  step := inputStep
  progress h := inputStep_shorter h nofun

def readRtspInput : RtspReading (Option RtspInput) := inputLoop.run ()

theorem readRtspInput_uniform : Uniform readRtspInput := Loop.uniform inputStep_uniform ()

theorem readRtspInput_shorter {input : RtspInput} {r r' : Pieces UInt8}
    (h : readRtspInput r = .ok (some input, r')) : r'.stream.length < r.stream.length := by
  refine Loop.run_rule (P := fun _ r b r' => b ≠ none → r'.stream.length < r.stream.length)
    ?_ ?_ h nofun
  · intro s r b r' hdone hb
    exact inputStep_shorter hdone (fun hnone => hb (Sum.inr.inj hnone))
  · intro s r s' r' b r'' hagain hrest hb
    exact (hrest hb).trans (inputStep_shorter hagain nofun)

/-- The results of one `read_rtsp_input` after the other. -/
def rtspInputs : Items UInt8 RtspInput RtspInputError where
  next := readRtspInput
  progress := readRtspInput_shorter

/-- However the bytes of a client arrive, the requests and skips are the same, the same bytes are
left behind each, and the same error ends them, if one does. -/
theorem rtspInputs_segmentation {left right : Pieces UInt8} (h : left.stream = right.stream) :
    rtspInputs.all left = rtspInputs.all right :=
  Items.all_uniform readRtspInput_uniform h

/-- An OPTIONS request that is cut in its URI and in its header. -/
def cutOptions : Pieces UInt8 :=
  .restore (Text.utf8 "OPTIONS rtspt://127.".toList)
    (.restore (Text.utf8 "0.0.1/abc RTSP/1.0\r\nCS".toList)
      (.whole (Text.utf8 "eq: 1\r\n\r\n".toList)))

theorem rtspInputs_segmentation_options :
    rtspInputs.all cutOptions =
      rtspInputs.all (.whole (Text.utf8
        "OPTIONS rtspt://127.0.0.1/abc RTSP/1.0\r\nCSeq: 1\r\n\r\n".toList)) ∧
    rtspInputs.all cutOptions =
      ([(.request ⟨"OPTIONS".toList, "rtspt://127.0.0.1/abc".toList,
        [("cseq".toList, "1".toList)]⟩ "RTSP/1.0".toList, [])], none) :=
  ⟨rtspInputs_segmentation (by decide +kernel), by decide +kernel⟩

end VRCStreamer
