import VRCStreamer.Codec.Complete
import VRCStreamer.Rtsp.Echo
import VRCStreamer.Rtsp.Framing

/-!
# The player's end of a connection

A player reads one response or one interleaved frame after the other off its connection. Whatever
it has received of a connection, in the middle of a write or after the media task was aborted, it
finds the answers to its requests and the frames of the media task there, in their order and
nothing else.
-/

namespace VRCStreamer

open Codec Concurrency

/-! ## A player -/

/-- A response as a player reads it. -/
structure RtspMessage where
  statusLine : Text
  headers : List (Text × Text)
  body : Bytes
  deriving DecidableEq

inductive PlayerInput
  | response (message : RtspMessage)
  | frame (frame : InterleavedFrame)
  deriving DecidableEq

namespace PlayerInput

open FieldReader

/-- A line without its line break. -/
def readLine : FieldReader UInt8 Text := do
  let bytes ← upTo 0x0A
  lift (Text.fromUtf8 (if bytes.getLast? = some 0x0D then bytes.dropLast else bytes))

def parseHeader (line : Text) : Option (Text × Text) :=
  (Text.splitOnce [':'] line).map fun parts => (Text.trim parts.1, Text.trim parts.2)

def contentLength (headers : List (Text × Text)) : Nat :=
  ((headers.find? announcesBody).map fun header => Text.numeral header.2).getD 0

/-- A status line, headers up to an empty line, and the body that they announce. -/
def readResponse : FieldReader UInt8 PlayerInput := do
  let statusLine ← readLine
  let lines ← untilLast List.isEmpty readLine
  let body ← items (contentLength (lines.filterMap parseHeader))
  pure (.response ⟨statusLine, lines.filterMap parseHeader, body⟩)

def readFrame : FieldReader UInt8 PlayerInput := do
  let _ ← item
  let channel ← item
  let high ← item
  let low ← item
  let payload ← items (read16 high low).toNat
  pure (.frame ⟨channel, payload⟩)

/-- A dollar sign starts a frame. -/
def read : FieldReader UInt8 PlayerInput := onHead (· = 0x24) readFrame readResponse

/-- What a player has of the bytes that it has received. -/
def inputs (stream : Bytes) : List PlayerInput := wholeValues read stream

def message : PlayerInput → Option RtspMessage
  | .response message => some message
  | .frame _ => none

def packet : PlayerInput → Option InterleavedFrame
  | .response _ => none
  | .frame packet => some packet

end PlayerInput

/-! ## Lines -/

namespace PlayerInput

open FieldReader

theorem reads_readLine {text : Text} (h : '\n' ∉ text) :
    readLine.Reads text (Text.utf8 (text ++ "\r\n".toList)) := by
  have hbytes : Text.utf8 (text ++ "\r\n".toList) = Text.utf8 text ++ [0x0D] ++ [0x0A] ++ [] := by
    rw [Text.utf8_append, List.append_nil, List.append_assoc]
    rfl
  have hfree : (0x0A : UInt8) ∉ Text.utf8 text ++ [0x0D] := by
    rw [List.mem_append, not_or]
    exact ⟨Text.notMem_utf8 (by decide) h, by decide⟩
  have htext : Text.fromUtf8 (if (Text.utf8 text ++ [0x0D]).getLast? = some 0x0D
      then (Text.utf8 text ++ [0x0D]).dropLast else Text.utf8 text ++ [0x0D]) = some text := by
    rw [List.getLast?_concat, if_pos rfl, List.dropLast_concat, Text.fromUtf8_utf8]
  rw [hbytes]
  exact (Reads.upTo hfree).bind (.lift htext)

variable {header : Text × Text}

/-- A header line without its line break. -/
def fieldText (header : Text × Text) : Text := header.1 ++ ": ".toList ++ header.2

theorem headerLine_eq (header : Text × Text) :
    headerLine header = fieldText header ++ "\r\n".toList := rfl

theorem parseHeader_fieldText (h : IsField header) :
    parseHeader (fieldText header) = some header := by
  have hline : fieldText header = header.1 ++ ':' :: ' ' :: header.2 := by
    rw [fieldText, List.append_assoc]
    rfl
  rw [parseHeader, hline, Text.splitOnce_append h.colon, Option.map_some,
    Text.trim_cons (by decide), h.name.trimmed, h.value.trimmed]

theorem reads_fieldText (h : IsField header) :
    readLine.Reads (fieldText header) (Text.utf8 (headerLine header)) := by
  rw [headerLine_eq]
  apply reads_readLine
  rw [fieldText, List.mem_append, List.mem_append, not_or, not_or]
  exact ⟨⟨h.name.line, by decide⟩, h.value.line⟩

end PlayerInput

/-! ## Responses -/

namespace RtspResponse

variable (response : RtspResponse)

/-- The headers that every response starts with. -/
def leadingFields : List (Text × Text) :=
  [("CSeq".toList, response.cseq), ("Server".toList, "VRCStreamer".toList),
    ("Cache-Control".toList, "no-cache".toList)]

/-- The header behind the others, for a body that is not empty. -/
def bodyFields : List (Text × Text) :=
  if response.bodyLen ≠ 0 then [("Content-Length".toList, Text.decimal response.bodyLen)] else []

/-- The headers of a response in the order in which they are written. -/
def fields : List (Text × Text) :=
  response.leadingFields ++ response.headers ++ response.bodyFields

/-- The response as a player should read it. -/
def received : RtspMessage :=
  ⟨"RTSP/1.0 ".toList ++ response.status, response.fields, response.body.getD []⟩

theorem flatMap_leadingFields : "\r\n".toList ++ response.leadingFields.flatMap headerLine =
    "\r\nCSeq: ".toList ++ response.cseq ++
      "\r\nServer: VRCStreamer\r\nCache-Control: no-cache\r\n".toList := by
  have hcseq : "\r\nCSeq: ".toList = "\r\n".toList ++ ("CSeq".toList ++ ": ".toList) := by decide
  have hown : "\r\nServer: VRCStreamer\r\nCache-Control: no-cache\r\n".toList =
      "\r\n".toList ++ (headerLine ("Server".toList, "VRCStreamer".toList) ++
        headerLine ("Cache-Control".toList, "no-cache".toList)) := by
    decide
  rw [leadingFields, List.flatMap_cons, List.flatMap_cons, List.flatMap_singleton, hcseq, hown,
    headerLine]
  simp only [List.append_assoc]

theorem flatMap_bodyFields : response.bodyFields.flatMap headerLine =
    if response.bodyLen ≠ 0 then
      "Content-Length: ".toList ++ Text.decimal response.bodyLen ++ "\r\n".toList
    else [] := by
  have hname : "Content-Length: ".toList = "Content-Length".toList ++ ": ".toList := by decide
  rw [bodyFields]
  split
  next => rw [List.flatMap_singleton, headerLine, hname]
  next => rfl

theorem text_eq : response.text =
    "RTSP/1.0 ".toList ++ response.status ++ "\r\n".toList ++
      (response.fields.flatMap headerLine ++ "\r\n".toList) := by
  have hregroup : ∀ version status line leading cseq name own headers length last : Text,
      line ++ leading = name ++ cseq ++ own →
      version ++ status ++ name ++ cseq ++ own ++ headers ++ length ++ last =
        version ++ status ++ line ++ (leading ++ headers ++ length ++ last) := by
    intro version status line leading cseq name own headers length last h
    calc
      _ = version ++ status ++ (name ++ cseq ++ own) ++ headers ++ length ++ last := by
        simp only [List.append_assoc]
      _ = _ := by
        rw [← h]
        simp only [List.append_assoc]
  rw [fields, List.flatMap_append, List.flatMap_append, flatMap_bodyFields]
  exact hregroup _ _ _ _ _ _ _ _ _ _ (flatMap_leadingFields response)

theorem encode_eq : response.encode =
    Text.utf8 ("RTSP/1.0 ".toList ++ response.status ++ "\r\n".toList) ++
      ((response.fields.flatMap (fun header => Text.utf8 (headerLine header)) ++
        Text.utf8 "\r\n".toList) ++ response.body.getD []) := by
  have hbody : response.body.toList.flatten = response.body.getD [] := by
    cases response.body with
    | none => rfl
    | some body => exact List.append_nil body
  have hfields : Text.utf8 (response.fields.flatMap headerLine) =
      response.fields.flatMap (fun header => Text.utf8 (headerLine header)) := by
    rw [Text.utf8, List.flatMap_assoc]
    rfl
  rw [RtspResponse.encode, RtspResponse.writes, List.flatten_cons, hbody, text_eq,
    Text.utf8_append _ (response.fields.flatMap headerLine ++ "\r\n".toList),
    Text.utf8_append (response.fields.flatMap headerLine), hfields, List.append_assoc]

variable {response}

namespace Plain

theorem isField (h : response.Plain) : ∀ header ∈ response.fields, IsField header := by
  have hfield : ∀ {name value : Text}, ':' ∉ name → Text.IsValue name → Text.IsValue value →
      IsField (name, value) := fun hcolon hname hvalue => ⟨hcolon, hname, hvalue⟩
  intro header hmem
  obtain hmem | hbody := List.mem_append.mp hmem
  · obtain hleading | hmem := List.mem_append.mp hmem
    · rw [leadingFields] at hleading
      simp only [List.mem_cons, List.not_mem_nil, or_false] at hleading
      obtain rfl | rfl | rfl := hleading
      · exact hfield (by decide) (by decide) h.cseq
      · exact hfield (by decide) (by decide) (by decide)
      · exact hfield (by decide) (by decide) (by decide)
    · exact (h.headers header hmem).1
  · rw [bodyFields] at hbody
    split at hbody
    next =>
      obtain rfl := List.mem_singleton.mp hbody
      exact hfield (by decide) (by decide) (Text.Solid.decimal _).isValue
    next => cases hbody

theorem announcesBody_leadingFields :
    ∀ header ∈ response.leadingFields, announcesBody header = false := by
  have hname : ∀ {name value : Text},
      Text.eqIgnoreAsciiCase name "content-length".toList = false →
      announcesBody (name, value) = false := fun h => h
  refine List.forall_mem_cons.mpr ⟨hname (by decide), List.forall_mem_cons.mpr
    ⟨hname (by decide), List.forall_mem_singleton.mpr (hname (by decide))⟩⟩

/-- The headers announce the body. -/
theorem contentLength (h : response.Plain) :
    PlayerInput.contentLength response.fields = (response.body.getD []).length := by
  have hlength : response.bodyLen = (response.body.getD []).length := by
    rw [RtspResponse.bodyLen]
    cases response.body <;> rfl
  have hothers : (response.leadingFields ++ response.headers).find? announcesBody = none := by
    rw [List.find?_eq_none]
    intro header hmem
    obtain hleading | hmem := List.mem_append.mp hmem
    · rw [announcesBody_leadingFields header hleading]
      exact Bool.false_ne_true
    · rw [(h.headers header hmem).2]
      exact Bool.false_ne_true
  have hname : announcesBody ("Content-Length".toList, Text.decimal response.bodyLen) = true := by
    show Text.eqIgnoreAsciiCase "Content-Length".toList "content-length".toList = true
    decide
  rw [PlayerInput.contentLength, RtspResponse.fields, List.find?_append, hothers, Option.none_or,
    bodyFields, ← hlength]
  split
  next =>
    rw [List.find?_cons_of_pos hname]
    exact Text.numeral_decimal _
  next hzero =>
    rw [List.find?_nil]
    exact (not_not.mp hzero).symm

theorem reads (h : response.Plain) :
    PlayerInput.readResponse.Reads (.response response.received) response.encode := by
  have hstatus : '\n' ∉ "RTSP/1.0 ".toList ++ response.status := by
    rw [List.mem_append, not_or]
    exact ⟨by decide, h.status⟩
  have hlines : (FieldReader.untilLast List.isEmpty PlayerInput.readLine).Reads
      (response.fields.map PlayerInput.fieldText)
      (response.fields.flatMap (fun header => Text.utf8 (headerLine header)) ++
        Text.utf8 "\r\n".toList) := by
    have hblank : PlayerInput.readLine.Reads [] (Text.utf8 "\r\n".toList) :=
      @PlayerInput.reads_readLine [] List.not_mem_nil
    refine .untilLast (fun header hmem => ?_) (fun header _ => ?_) hblank rfl
      (fun header _ => ?_) (by decide)
    · exact PlayerInput.reads_fieldText (h.isField header hmem)
    · rw [List.isEmpty_eq_false_iff, PlayerInput.fieldText]
      exact List.append_ne_nil_of_left_ne_nil
        (List.append_ne_nil_of_right_ne_nil _ (by decide)) _
    · rw [PlayerInput.headerLine_eq, Text.utf8_append]
      exact List.append_ne_nil_of_right_ne_nil _ (by decide)
  have hheaders : (response.fields.map PlayerInput.fieldText).filterMap PlayerInput.parseHeader =
      response.fields := by
    rw [List.filterMap_map]
    have hsome : ∀ header ∈ response.fields,
        (PlayerInput.parseHeader ∘ PlayerInput.fieldText) header = some header :=
      fun header hmem => PlayerInput.parseHeader_fieldText (h.isField header hmem)
    rw [List.filterMap_congr hsome, List.filterMap_some]
  rw [encode_eq]
  refine (PlayerInput.reads_readLine hstatus).bind (hlines.bind ?_)
  rw [hheaders, h.contentLength, ← List.append_nil (response.body.getD [])]
  refine .bind ?_ (.pure (PlayerInput.response response.received))
  rw [List.append_nil]
  exact .items _

end Plain

end RtspResponse

/-! ## Pieces of the stream -/

namespace WirePiece

/-- A piece as a player should read it. -/
def received : WirePiece → PlayerInput
  | .response reply => .response reply.received
  | .frame packet => .frame packet

/-- A piece that the server writes. -/
def Readable : WirePiece → Prop
  | .response reply => reply.Plain
  | .frame packet => InterleavedFrame.code.Valid packet

theorem reads_frame {packet : InterleavedFrame} (h : InterleavedFrame.code.Valid packet) :
    PlayerInput.readFrame.Reads (.frame packet) packet.encode := by
  have hlength : (UInt16.ofNat packet.payload.length).toNat = packet.payload.length := by
    rw [UInt16.toNat_ofNat']
    exact Nat.mod_eq_of_lt h
  refine .bind (.item 0x24) (.bind (.item packet.channel) (.bind (.item _) (.bind (.item _) ?_)))
  rw [read16_be16, hlength, ← List.append_nil packet.payload]
  refine .bind ?_ (.pure (PlayerInput.frame packet))
  rw [List.append_nil]
  exact .items _

theorem Readable.reads {piece : WirePiece} (h : piece.Readable) :
    PlayerInput.read.Reads piece.received piece.bytes := by
  cases piece with
  | response reply =>
    obtain ⟨rest, hrest⟩ : ∃ rest, reply.encode = 0x52 :: rest := by
      rw [RtspResponse.encode_eq, Text.utf8_append, Text.utf8_append]
      exact ⟨_, rfl⟩
    have hplain : reply.Plain := h
    have hreads := hplain.reads
    rw [hrest] at hreads
    show PlayerInput.read.Reads (.response reply.received) reply.encode
    rw [hrest]
    exact .onHead_of_neg hreads (by decide)
  | frame packet =>
    have hreads := @reads_frame packet h
    exact .onHead_of_pos hreads (by decide)

end WirePiece

/-! ## Runs of a connection -/

namespace SharedWriter

variable {θ ι ρ : Type*} {config : RtspConfig} {mediaConfig : MediaTaskConfig}
variable {state : RtspServer θ ι} {ip : Option ι} {s s' : SharedWriter θ ι ρ}

/-- The request that an action handles. -/
def request : WriterAction θ ι ρ → Option RtspRequest
  | .connection (.request request) => some request
  | _ => none

/-- What is on the wire is the beginning of what the requests and the media task have come to. -/
structure Follows (s : SharedWriter θ ι ρ) (pieces : List WirePiece) : Prop where
  bytes : s.socket <+: pieces.flatMap WirePiece.bytes
  valid : ∀ frame ∈ framesIn pieces, InterleavedFrame.code.Valid frame
  responses : responsesIn pieces <+: s.answers
  frames : (framesIn pieces).map (fun frame => (frame.channel, RtpFrame.decode frame.payload)) <+:
    s.mediaFrames.map (fun frame => (frame.channel, some frame.content))

theorem Intact.follows {pieces : List WirePiece} {pending : List (UInt8 × RtpFrame)}
    (h : s.Intact pieces pending) : s.Follows pieces where
  bytes := ⟨s.rest, h.bytes⟩
  valid := h.valid
  responses := ⟨s.responding.toList, h.responses⟩
  frames := ⟨_, h.frames⟩

end SharedWriter

end VRCStreamer
