import VRCStreamer.Rtsp.Input
import VRCStreamer.Text.Fields

/-!
# Framing of RTSP input

What a client means by the bytes that it sends: line breaks between requests, interleaved frames,
and requests with their bodies. Reading them back takes exactly the bytes of each. The length of a
body is a decimal number of any size in its header, a `usize` in the server.
-/

namespace VRCStreamer

open Codec Reading

/-! ## Headers -/

def headerLine (header : Text × Text) : Text :=
  header.1 ++ ": ".toList ++ header.2 ++ "\r\n".toList

/-- A header as the parser returns it. -/
def parsedHeader (header : Text × Text) : Text × Text :=
  (Text.toAsciiLowercase (Text.trim header.1), Text.trim header.2)

/-- A header that a line can hold. -/
structure IsHeader (header : Text × Text) : Prop where
  name_colon : ':' ∉ header.1
  name_line : '\n' ∉ header.1
  value_line : '\n' ∉ header.2
  fits : (Text.utf8 (headerLine header)).length ≤ RTSP_MAX_LINE_BYTES

/-- The values of the headers that announce a body. -/
def contentLengths (headers : List (Text × Text)) : List Text :=
  headers.filterMap (fun header =>
    if (parsedHeader header).1 = "content-length".toList then some (parsedHeader header).2 else none)

/-- At most one header announces a body, with a decimal number. -/
inductive AnnouncesBody : List Text → Nat → Prop
  | none : AnnouncesBody [] 0
  | one {digits : Text} (hne : digits ≠ []) (hdigits : digits.all Char.isDigit) :
    AnnouncesBody [digits] (Text.numeral digits)

/-- The length that the parser reads from the decimal number; one that does not fit is no number. -/
def usizeOrZero (n : Nat) : Nat := if n < 2 ^ 64 then n else 0

namespace RtspHeaderBlock

/-- The block with one more header. -/
def withHeader (block : RtspHeaderBlock) (header : Text × Text) : RtspHeaderBlock where
  headers := block.headers ++ [parsedHeader header]
  headerBytes := block.headerBytes + (Text.utf8 (headerLine header)).length
  contentLength :=
    if (parsedHeader header).1 = "content-length".toList then
      (Text.parseUsize (parsedHeader header).2).getD 0
    else block.contentLength

theorem withHeader_headers (block : RtspHeaderBlock) (header : Text × Text) :
    (block.withHeader header).headers = block.headers ++ [parsedHeader header] := rfl

theorem withHeader_headerBytes (block : RtspHeaderBlock) (header : Text × Text) :
    (block.withHeader header).headerBytes =
      block.headerBytes + (Text.utf8 (headerLine header)).length := rfl

theorem withHeader_contentLength (block : RtspHeaderBlock) (header : Text × Text) :
    (block.withHeader header).contentLength =
      if (parsedHeader header).1 = "content-length".toList then
        (Text.parseUsize (parsedHeader header).2).getD 0
      else block.contentLength := rfl

theorem push_headerLine {header : Text × Text} (hcolon : ':' ∉ header.1)
    (block : RtspHeaderBlock) :
    push { block with headerBytes := block.headerBytes + (Text.utf8 (headerLine header)).length }
      (headerLine header) = block.withHeader header := by
  have hline : headerLine header = header.1 ++ ':' :: (' ' :: (header.2 ++ ['\r'] ++ ['\n'])) := by
    simp [headerLine]
  have hvalue : Text.trim (' ' :: (header.2 ++ ['\r'] ++ ['\n'])) = Text.trim header.2 := by
    rw [Text.trim_cons (by decide), Text.trim_concat (by decide), Text.trim_concat (by decide)]
  have hsplit : Text.splitOnce [':'] (headerLine header) = _ :=
    hline ▸ Text.splitOnce_append hcolon _
  rw [push, hsplit]
  simp only [hvalue]
  rfl

theorem acceptLine_headerLine {header : Text × Text} (hheader : IsHeader header)
    {block : RtspHeaderBlock} (hcount : block.headers.length < RTSP_MAX_HEADERS)
    (hsize : (block.withHeader header).headerBytes ≤ RTSP_MAX_HEADER_BYTES) :
    block.acceptLine (Text.utf8 (headerLine header)) = pure (.inl (block.withHeader header)) := by
  -- the colon is neither in a line break nor in an empty line
  have hcolon : (0x3A : UInt8) ∈ Text.utf8 (headerLine header) := by
    simp only [headerLine, Text.utf8_append, List.mem_append]
    exact .inl (.inl (.inr (by decide)))
  have hmore : ¬ (Text.utf8 (headerLine header) = [] ∨
      Text.utf8 (headerLine header) = [0x0D, 0x0A] ∨ Text.utf8 (headerLine header) = [0x0A]) := by
    rintro (h | h | h) <;> · rw [h] at hcolon; revert hcolon; decide
  have hfits : ¬ RTSP_MAX_HEADER_BYTES <
      block.headerBytes + (Text.utf8 (headerLine header)).length := Nat.not_lt_of_le hsize
  rw [acceptLine, if_neg hmore, if_neg (Nat.not_le_of_lt hcount)]
  simp only [Text.fromUtf8_utf8, if_neg hfits, push_headerLine hheader.name_colon]

/-- A round reads one header line. -/
theorem step_headerLine {header : Text × Text} (hheader : IsHeader header)
    {block : RtspHeaderBlock} (hcount : block.headers.length < RTSP_MAX_HEADERS)
    (hsize : (block.withHeader header).headerBytes ≤ RTSP_MAX_HEADER_BYTES) (rest : Bytes) :
    Reads block.step (Text.utf8 (headerLine header) ++ rest) (.inl (block.withHeader header))
      rest := by
  have hline : Text.utf8 (headerLine header) =
      Text.utf8 (header.1 ++ ": ".toList ++ header.2 ++ ['\r']) ++ [0x0A] := by
    simp only [headerLine, Text.utf8_append, List.append_assoc]
    rfl
  have hmem : (0x0A : UInt8) ∉ Text.utf8 (header.1 ++ ": ".toList ++ header.2 ++ ['\r']) := by
    intro hmem
    have hbreak : '\n' ∈ header.1 ++ ": ".toList ++ header.2 ++ ['\r'] :=
      Text.mem_of_mem_utf8 (by decide) hmem
    simp [hheader.name_line, hheader.value_line] at hbreak
  have hfits := hheader.fits
  rw [hline, List.length_append, List.length_singleton] at hfits
  have hlimit : ([] : Bytes).length +
      (Text.utf8 (header.1 ++ ": ".toList ++ header.2 ++ ['\r'])).length + 1 ≤
        RTSP_MAX_LINE_BYTES := by
    rw [List.length_nil, Nat.zero_add]
    exact hfits
  have hread := readUntilLimited_reads hmem hlimit rest
  rw [List.nil_append, ← hline] at hread
  have haccept := acceptLine_headerLine hheader hcount hsize
  have hstream : Text.utf8 (headerLine header) ++ rest =
      Text.utf8 (header.1 ++ ": ".toList ++ header.2 ++ ['\r']) ++ 0x0A :: rest := by
    rw [hline]
    simp
  rw [hstream]
  exact hread.bind (haccept ▸ .pure _ _)

/-- The empty line ends the block. -/
theorem step_end (block : RtspHeaderBlock) (rest : Bytes) :
    Reads block.step (Text.utf8 "\r\n".toList ++ rest) (.inr block) rest := by
  have hread : Reads (readUntilLimited 0x0A [] RTSP_MAX_LINE_BYTES) ([0x0D] ++ 0x0A :: rest)
      ([] ++ [0x0D] ++ [0x0A]) rest := readUntilLimited_reads (by decide) (by decide) rest
  have haccept : block.acceptLine ([] ++ [0x0D] ++ [0x0A]) = pure (.inr block) := by
    rw [acceptLine, if_pos (by decide)]
  exact hread.bind (haccept ▸ .pure _ _)

end RtspHeaderBlock

/-- Header lines are read one by one, up to the empty line. -/
theorem headerLoop_reads {headers : List (Text × Text)}
    (hheaders : ∀ header ∈ headers, IsHeader header)
    {block : RtspHeaderBlock} (hcount : block.headers.length + headers.length ≤ RTSP_MAX_HEADERS)
    (hsize : block.headerBytes +
      (headers.map (fun header => (Text.utf8 (headerLine header)).length)).sum ≤
        RTSP_MAX_HEADER_BYTES) (rest : Bytes) :
    Reads (headerLoop.run block)
      (Text.utf8 (headers.flatMap headerLine) ++ (Text.utf8 "\r\n".toList ++ rest))
      (headers.foldl RtspHeaderBlock.withHeader block) rest := by
  induction headers generalizing block with
  | nil => exact Loop.reads_done (block.step_end rest)
  | cons header headers ih =>
    rw [List.length_cons] at hcount
    rw [List.map_cons, List.sum_cons] at hsize
    have hlength : (block.withHeader header).headers.length = block.headers.length + 1 := by
      rw [block.withHeader_headers, List.length_append, List.length_singleton]
    have hbytes := block.withHeader_headerBytes header
    rw [List.flatMap_cons, Text.utf8_append, List.append_assoc, List.foldl_cons]
    apply Loop.reads_again
    · exact RtspHeaderBlock.step_headerLine (hheaders header List.mem_cons_self) (by omega)
        (by omega) _
    · exact ih (fun header' hmem => hheaders header' (List.mem_cons_of_mem header hmem))
        (by omega) (by omega)

theorem foldl_withHeader_headers (headers : List (Text × Text)) (block : RtspHeaderBlock) :
    (headers.foldl RtspHeaderBlock.withHeader block).headers =
      block.headers ++ headers.map parsedHeader := by
  induction headers generalizing block with
  | nil => simp
  | cons header headers ih =>
    rw [List.foldl_cons, ih, List.map_cons, block.withHeader_headers, List.append_assoc,
      List.singleton_append]

/-- The last header that announces a body counts. -/
theorem foldl_withHeader_contentLength (headers : List (Text × Text)) (block : RtspHeaderBlock) :
    (headers.foldl RtspHeaderBlock.withHeader block).contentLength =
      (((contentLengths headers).getLast?).map (fun value => (Text.parseUsize value).getD 0)).getD
        block.contentLength := by
  induction headers generalizing block with
  | nil => rfl
  | cons header headers ih =>
    rw [List.foldl_cons, ih, block.withHeader_contentLength]
    by_cases hname : (parsedHeader header).1 = "content-length".toList
    · have hvalues : contentLengths (header :: headers) =
          (parsedHeader header).2 :: contentLengths headers := by
        rw [contentLengths, List.filterMap_cons, if_pos hname]
        rfl
      rw [if_pos hname, hvalues, List.getLast?_cons]
      cases (contentLengths headers).getLast? <;> rfl
    · have hvalues : contentLengths (header :: headers) = contentLengths headers := by
        rw [contentLengths, List.filterMap_cons, if_neg hname]
        rfl
      rw [if_neg hname, hvalues]

theorem announced_contentLength {headers : List (Text × Text)} {n : Nat}
    (h : AnnouncesBody (contentLengths headers) n) :
    (headers.foldl RtspHeaderBlock.withHeader {}).contentLength = usizeOrZero n := by
  rw [foldl_withHeader_contentLength]
  generalize contentLengths headers = values at h
  cases h with
  | none => rfl
  | one hne hdigits =>
    rw [List.getLast?_singleton, Option.map_some, Option.getD_some, Text.parseUsize,
      Text.parseUnsigned_numeral hne hdigits, usizeOrZero]
    split <;> rfl

/-! ## Bodies -/

theorem discardBody_reads {n : Nat} (hn : n ≤ RTSP_MAX_BODY_BYTES) {body : Bytes}
    (hbody : body.length = n) (rest : Bytes) : Reads (discardBody n) (body ++ rest) () rest := by
  rw [discardBody]
  split
  next hzero =>
    rw [List.eq_nil_of_length_eq_zero (hbody.trans hzero)]
    exact .pure () rest
  next =>
    rw [if_neg (Nat.not_lt_of_le hn)]
    exact discardExact_reads hbody

theorem discardBody_fails {n : Nat} (hn : RTSP_MAX_BODY_BYTES < n) (rest : Bytes) :
    Fails (discardBody n) rest (.protocol "rtsp request body too large") := by
  rw [discardBody, if_neg (Nat.ne_zero_of_lt hn), if_pos hn]
  exact .throw _ _

/-! ## Requests -/

def requestLine (method uri version : Text) : Text :=
  method ++ " ".toList ++ uri ++ " ".toList ++ version ++ "\r\n".toList

/-- A request up to its body, within the limits of the parser. -/
structure RequestHead where
  method : Text
  uri : Text
  version : Text
  headers : List (Text × Text)
  contentLength : Nat
  method_token : Text.IsToken method
  method_plain : method.head? ≠ some '$'
  uri_token : Text.IsToken uri
  version_token : Text.IsToken version
  line_fits : (Text.utf8 (requestLine method uri version)).length ≤ RTSP_MAX_LINE_BYTES
  headers_lines : ∀ header ∈ headers, IsHeader header
  headers_count : headers.length ≤ RTSP_MAX_HEADERS
  headers_size : (headers.map (fun header => (Text.utf8 (headerLine header)).length)).sum ≤
    RTSP_MAX_HEADER_BYTES
  announces : AnnouncesBody (contentLengths headers) contentLength

namespace RequestHead

variable (head : RequestHead)

/-- What the server should make of it. -/
def input : RtspInput :=
  .request ⟨Text.toAsciiUppercase head.method, head.uri, head.headers.map parsedHeader⟩ head.version

def encode : Bytes :=
  Text.utf8 (requestLine head.method head.uri head.version) ++
    (Text.utf8 (head.headers.flatMap headerLine) ++ Text.utf8 "\r\n".toList)

theorem headerLoop_reads (rest : Bytes) :
    ∃ block : RtspHeaderBlock, block.headers = head.headers.map parsedHeader ∧
      block.contentLength = usizeOrZero head.contentLength ∧
      Reads (headerLoop.run {})
        (Text.utf8 (head.headers.flatMap headerLine) ++ (Text.utf8 "\r\n".toList ++ rest))
        block rest := by
  have hcount : ([] : List (Text × Text)).length + head.headers.length ≤ RTSP_MAX_HEADERS := by
    simpa using head.headers_count
  have hsize := head.headers_size
  rw [← Nat.zero_add (List.sum _)] at hsize
  refine ⟨_, ?_, announced_contentLength head.announces,
    VRCStreamer.headerLoop_reads head.headers_lines hcount hsize rest⟩
  rw [foldl_withHeader_headers]
  rfl

theorem splitWhitespace_requestLine :
    Text.splitWhitespace (requestLine head.method head.uri head.version) =
      [head.method, head.uri, head.version] := by
  have hline : requestLine head.method head.uri head.version =
      head.method ++ ' ' :: (head.uri ++ ' ' :: (head.version ++ '\r' :: ['\n'])) := by
    simp [requestLine]
  rw [hline, Text.splitWhitespace_token head.method_token (by decide),
    Text.splitWhitespace_token head.uri_token (by decide),
    Text.splitWhitespace_token head.version_token (by decide)]
  rfl

/-- The first line as the parser meets it: a byte that starts a request, the line, its end. -/
theorem exists_first : ∃ first line,
    Text.utf8 (requestLine head.method head.uri head.version) = first :: line ++ [0x0A] ∧
      0x0A ∉ line ∧ first ≠ 0x24 ∧ first ≠ 0x0D ∧ first ≠ 0x0A := by
  let text := head.method ++ " ".toList ++ head.uri ++ " ".toList ++ head.version ++ ['\r']
  have hutf8 : Text.utf8 (requestLine head.method head.uri head.version) =
      Text.utf8 text ++ [0x0A] := by
    simp only [requestLine, text, Text.utf8_append, List.append_assoc]
    rfl
  have hbreak : '\n' ∉ text := by
    have hsolid : ∀ {token : Text}, Text.IsToken token → '\n' ∉ token := by
      intro token htoken hmem
      have hspace := htoken.solid '\n' hmem
      exact absurd hspace (by decide)
    simp [text, hsolid head.method_token, hsolid head.uri_token, hsolid head.version_token]
  obtain ⟨c, method, hmethod⟩ := List.exists_cons_of_ne_nil head.method_token.ne_nil
  have hhead : text.head? = some c := by
    simp only [text, hmethod]
    rfl
  have hsolid : Text.isWhitespace c = false :=
    head.method_token.solid c (hmethod ▸ List.mem_cons_self)
  have hplain : c ≠ '$' := by
    intro hc
    apply head.method_plain
    rw [hmethod, hc]
    rfl
  cases hbytes : Text.utf8 text with
  | nil =>
    have hspace : (0x20 : UInt8) ∈ Text.utf8 text := by
      simp only [text, Text.utf8_append, List.mem_append]
      exact .inl (.inl (.inl (.inl (.inr (by decide)))))
    rw [hbytes] at hspace
    cases hspace
  | cons first line =>
    -- the first byte is the first character if it is ASCII
    have hfirst : ∀ b : UInt8, b.toNat < 128 → first = b → c = Char.ofNat b.toNat := by
      rintro b hb rfl
      have hc := Text.head_of_utf8 hb hbytes
      rw [hhead] at hc
      exact Option.some.inj hc
    refine ⟨first, line, by rw [hutf8, hbytes], ?_, ?_, ?_, ?_⟩
    · intro hmem
      apply hbreak
      exact Text.mem_of_mem_utf8 (by decide) (hbytes ▸ List.mem_cons_of_mem first hmem)
    · intro hdollar
      exact hplain (hfirst 0x24 (by decide) hdollar)
    · intro hreturn
      have hc := hfirst 0x0D (by decide) hreturn
      rw [hc] at hsolid
      exact absurd hsolid (by decide)
    · intro hfeed
      have hc := hfirst 0x0A (by decide) hfeed
      rw [hc] at hsolid
      exact absurd hsolid (by decide)

/-- What a round has still to do behind the head of a request. -/
def bodyRound : RtspReading (Unit ⊕ Option RtspInput) :=
  discardBody (usizeOrZero head.contentLength) >>= fun _ => pure (.inr (some head.input))

/-- A round that meets a request reads its head and goes on with its body. -/
theorem inputStep_encode (after : Bytes) {r : Pieces UInt8} (hr : r.stream = head.encode ++ after) :
    ∃ r', r'.stream = after ∧ inputStep () r = head.bodyRound r' := by
  obtain ⟨first, line, hline, hmem, hdollar, hreturn, hfeed⟩ := head.exists_first
  obtain ⟨block, hheaders, hlength, hblock⟩ := head.headerLoop_reads after
  have hfits := head.line_fits
  rw [hline, List.length_append, List.length_cons, List.length_singleton] at hfits
  have hstream : r.stream = first :: (line ++ 0x0A ::
      (Text.utf8 (head.headers.flatMap headerLine) ++ (Text.utf8 "\r\n".toList ++ after))) := by
    rw [hr, encode, hline]
    simp only [List.append_assoc, List.cons_append, List.nil_append]
  obtain ⟨r₁, hone, hr₁⟩ := readOne_cons first _ r hstream
  have hlimit : [first].length + line.length + 1 ≤ RTSP_MAX_LINE_BYTES := by
    rw [List.length_singleton]
    omega
  obtain ⟨r₂, hread, hr₂⟩ := readUntilLimited_reads hmem hlimit _ r₁ hr₁
  obtain ⟨r₃, hloop, hr₃⟩ := hblock r₂ hr₂
  have hdecode : Text.fromUtf8 ([first] ++ line ++ [0x0A]) =
      some (requestLine head.method head.uri head.version) := by
    have happend : [first] ++ line ++ [0x0A] =
        Text.utf8 (requestLine head.method head.uri head.version) := hline.symm
    rw [happend, Text.fromUtf8_utf8]
  refine ⟨r₃, hr₃, ?_⟩
  rw [inputStep, bind_of_ok hone]
  show acceptFirst first r₁ = _
  rw [acceptFirst, if_neg hdollar, if_neg (not_or.mpr ⟨hreturn, hfeed⟩), bind_of_ok hread]
  simp only [hdecode, head.splitWhitespace_requestLine, readRequest, bind_assoc]
  rw [bind_of_ok hloop]
  simp only [hlength, hheaders]
  rfl

theorem readRtspInput_reads {body rest : Bytes}
    (hbody : Reads (discardBody (usizeOrZero head.contentLength)) (body ++ rest) () rest) :
    Reads readRtspInput (head.encode ++ (body ++ rest)) (some head.input) rest := by
  apply Loop.reads_done
  intro r hr
  obtain ⟨r', hr', hstep⟩ := head.inputStep_encode (body ++ rest) hr
  have hround : Reads head.bodyRound (body ++ rest) (.inr (some head.input)) rest :=
    hbody.bind (.pure _ rest)
  obtain ⟨r'', hread, hrest⟩ := hround r' hr'
  exact ⟨r'', hstep.trans hread, hrest⟩

theorem readRtspInput_fails {after : Bytes} {e : RtspInputError}
    (hbody : Fails (discardBody (usizeOrZero head.contentLength)) after e) :
    Fails readRtspInput (head.encode ++ after) e := by
  apply Loop.fails_done
  intro r hr
  obtain ⟨r', hr', hstep⟩ := head.inputStep_encode after hr
  have hround : Fails head.bodyRound after e := hbody.bind
  exact hstep.trans (hround r' hr')

end RequestHead

/-! ## Streams of items -/

/-- What a client sends. A request carries the body that its head announces. -/
inductive RtspItem
  | lineBreak (byte : UInt8) (h : byte = 0x0D ∨ byte = 0x0A)
  | interleaved (channel : UInt8) (payload : Bytes)
    (h : payload.length ≤ RTSP_MAX_INTERLEAVED_BYTES)
  | request (head : RequestHead) (body : Bytes) (h : body.length = head.contentLength)
    (hbody : head.contentLength ≤ RTSP_MAX_BODY_BYTES)

namespace RtspItem

def encode : RtspItem → Bytes
  | .lineBreak byte _ => [byte]
  | .interleaved channel payload _ => 0x24 :: channel :: be16 (.ofNat payload.length) ++ payload
  | .request head body _ _ => head.encode ++ body

/-- What the server should return for the item; nothing for a line break. -/
def input : RtspItem → Option RtspInput
  | .lineBreak .. => none
  | .interleaved .. => some .interleaved
  | .request head .. => some head.input

def encodeAll (items : List RtspItem) : Bytes := items.flatMap encode

/-- The inputs of the items in order, each with the bytes behind its item. -/
def inputs (after : Bytes) : List RtspItem → List (RtspInput × Bytes)
  | [] => []
  | item :: items =>
    (item.input.map (fun input => (input, encodeAll items ++ after))).toList ++ inputs after items

@[simp] theorem encodeAll_cons (item : RtspItem) (items : List RtspItem) :
    encodeAll (item :: items) = item.encode ++ encodeAll items := rfl

/-- A line break leads to whatever is behind it. -/
theorem readRtspInput_lineBreak {byte : UInt8} (h : byte = 0x0D ∨ byte = 0x0A) {rest : Bytes}
    {r : Pieces UInt8} (hr : r.stream = byte :: rest) :
    ∃ r', r'.stream = rest ∧ readRtspInput r = readRtspInput r' := by
  obtain ⟨r', hone, hrest⟩ := readOne_cons byte rest r hr
  refine ⟨r', hrest, ?_⟩
  apply Loop.run_of_again
  show inputStep () r = _
  have hdollar : byte ≠ 0x24 := by
    rintro rfl
    revert h
    decide
  rw [inputStep, bind_of_ok hone]
  show acceptFirst byte r' = _
  rw [acceptFirst, if_neg hdollar, if_pos h]
  rfl

theorem readRtspInput_interleaved (channel : UInt8) {payload : Bytes}
    (h : payload.length ≤ RTSP_MAX_INTERLEAVED_BYTES) (rest : Bytes) :
    Reads readRtspInput (0x24 :: channel :: be16 (.ofNat payload.length) ++ payload ++ rest)
      (some .interleaved) rest := by
  have hlength : (UInt16.ofNat payload.length).toNat = payload.length := by
    apply read16_ofNat_toNat
    exact Nat.lt_of_le_of_lt h (by decide)
  generalize UInt16.ofNat payload.length = n at hlength ⊢
  have hframe :
      Reads readInterleaved (channel :: be16 n ++ (payload ++ rest)) .interleaved rest := by
    refine Reads.bind (readExact_reads rfl) ?_
    simp only [be16, List.getD_cons_succ, List.getD_cons_zero, read16_be16]
    rw [hlength, if_neg (Nat.not_lt_of_le h)]
    exact (discardExact_reads rfl).bind (.pure _ rest)
  have hstream : 0x24 :: channel :: be16 n ++ payload ++ rest =
      0x24 :: (channel :: be16 n ++ (payload ++ rest)) := by simp
  rw [hstream]
  apply Loop.reads_done
  refine Reads.bind (readOne_cons 0x24 _) ?_
  show Reads (acceptFirst 0x24) _ _ rest
  rw [acceptFirst, if_pos rfl]
  exact hframe.bind (.pure _ rest)

theorem readRtspInput_request {head : RequestHead} {body : Bytes}
    (h : body.length = head.contentLength) (hbody : head.contentLength ≤ RTSP_MAX_BODY_BYTES)
    (rest : Bytes) :
    Reads readRtspInput (head.encode ++ (body ++ rest)) (some head.input) rest := by
  have hsize : usizeOrZero head.contentLength = head.contentLength :=
    if_pos (Nat.lt_of_le_of_lt hbody (by decide))
  apply head.readRtspInput_reads
  rw [hsize]
  exact discardBody_reads hbody h rest

/-- The items are read back, and reading goes on behind them. -/
theorem all_encodeAll (items : List RtspItem) (after : Bytes) {r : Pieces UInt8}
    (hr : r.stream = encodeAll items ++ after) :
    ∃ r', r'.stream = after ∧
      rtspInputs.all r = (inputs after items ++ (rtspInputs.all r').1, (rtspInputs.all r').2) := by
  induction items generalizing r with
  | nil => exact ⟨r, hr, rfl⟩
  | cons item items ih =>
    rw [encodeAll_cons, List.append_assoc] at hr
    cases item with
    | lineBreak byte h =>
      obtain ⟨r₁, hr₁, hread⟩ := readRtspInput_lineBreak h hr
      obtain ⟨r', hr', hall⟩ := ih hr₁
      exact ⟨r', hr', (rtspInputs.all_congr hread).trans hall⟩
    | interleaved channel payload h =>
      obtain ⟨r₁, hr₁, hread⟩ := rtspInputs.all_of_reads
        (readRtspInput_interleaved channel h _) hr
      obtain ⟨r', hr', hall⟩ := ih hr₁
      refine ⟨r', hr', ?_⟩
      rw [hread, hall]
      rfl
    | request head body h hbody =>
      rw [encode, List.append_assoc] at hr
      obtain ⟨r₁, hr₁, hread⟩ := rtspInputs.all_of_reads
        (readRtspInput_request h hbody _) hr
      obtain ⟨r', hr', hall⟩ := ih hr₁
      refine ⟨r', hr', ?_⟩
      rw [hread, hall]
      rfl

end RtspItem

/-- The end of the stream ends the input. -/
theorem readRtspInput_nil : Reads readRtspInput [] none [] :=
  Loop.reads_done (readOne_nil.bind (.pure _ []))

/-- A request whose body is beyond the limit. -/
structure OversizedHead extends RequestHead where
  oversized : RTSP_MAX_BODY_BYTES < contentLength

/-- What arrives from a client: items, and then perhaps a request with a body beyond the limit, with
any bytes behind its head. -/
structure RtspStream where
  items : List RtspItem
  oversized : Option (OversizedHead × Bytes)

namespace RtspStream

/-- The stream behind the items. -/
def rest (s : RtspStream) : Bytes :=
  match s.oversized with
  | none => []
  | some (head, after) => head.encode ++ after

def encode (s : RtspStream) : Bytes := RtspItem.encodeAll s.items ++ s.rest

/-- The items are read, and an error instead of a request beyond the limit. -/
def Framed (s : RtspStream) (r : Pieces UInt8) : Prop :=
  match s.oversized with
  | none => rtspInputs.all r = (RtspItem.inputs [] s.items, none)
  | some _ => ∃ e, rtspInputs.all r = (RtspItem.inputs s.rest s.items, some e)

/-- The length of an oversized body has to fit into a `usize` to be refused. -/
theorem framed_iff (s : RtspStream) {r : Pieces UInt8} (h : r.stream = s.encode) :
    s.Framed r ↔ ∀ head after, s.oversized = some (head, after) → head.contentLength < 2 ^ 64 := by
  obtain ⟨r', hr', hall⟩ := RtspItem.all_encodeAll s.items s.rest h
  obtain ⟨items, oversized⟩ := s
  cases oversized with
  | none =>
    have hends := rtspInputs.all_of_ends readRtspInput_nil hr'
    rw [hends, List.append_nil] at hall
    constructor
    · rintro - head after ⟨⟩
    · intro _
      exact hall
  | some next =>
    obtain ⟨head, after⟩ := next
    constructor
    · rintro ⟨e, hframed⟩ head' after' ⟨⟩
      by_contra hlarge
      have hzero : usizeOrZero head.contentLength = 0 := if_neg hlarge
      have hread : Reads readRtspInput (head.encode ++ ([] ++ after)) (some head.input) after := by
        apply head.readRtspInput_reads
        rw [hzero]
        exact discardBody_reads (Nat.zero_le _) rfl after
      obtain ⟨r'', -, hmore⟩ := rtspInputs.all_of_reads hread hr'
      rw [hall, hmore, Prod.mk.injEq] at hframed
      have hlength := congrArg List.length hframed.1
      simp at hlength
    · intro hfits
      have hsize : usizeOrZero head.contentLength = head.contentLength :=
        if_pos (hfits head after rfl)
      have hfails := head.readRtspInput_fails (hsize ▸ discardBody_fails head.oversized after)
      have herror := rtspInputs.all_of_fails hfails hr'
      rw [herror, List.append_nil] at hall
      exact ⟨_, hall⟩

/-- A request with one header, which announces a body. -/
def announcing (digits : Text) (n : Nat) (hn : Text.numeral digits = n) (hne : digits ≠ [])
    (hdigits : digits.all Char.isDigit)
    (hvalues : contentLengths [("Content-Length".toList, digits)] = [digits])
    (hheader : IsHeader ("Content-Length".toList, digits)) : RequestHead where
  method := "PLAY".toList
  uri := "rtspt://h/a".toList
  version := "RTSP/1.0".toList
  headers := [("Content-Length".toList, digits)]
  contentLength := n
  method_token := by decide +kernel
  method_plain := by decide
  uri_token := by decide +kernel
  version_token := by decide +kernel
  line_fits := by decide +kernel
  headers_lines := by
    intro header hmem
    rw [List.mem_singleton.mp hmem]
    exact hheader
  headers_count := by
    show 1 ≤ RTSP_MAX_HEADERS
    decide
  headers_size := hheader.fits.trans (by decide)
  announces := by
    rw [hvalues, ← hn]
    exact .one hne hdigits

/-- A line break, an interleaved frame, a request with a body of five bytes, and one whose body is
one byte beyond the limit. -/
def smallStream : RtspStream where
  items := [.lineBreak 0x0A (.inr rfl), .interleaved 1 [0x24, 0x0A] (by decide),
    .request (announcing "5".toList 5 (by decide) (by decide) (by decide) (by decide)
      ⟨by decide, by decide, by decide, by decide⟩) (Text.utf8 "$\r\n\r\n".toList) rfl (by decide)]
  oversized := some (⟨announcing "4097".toList 4097 (by decide) (by decide) (by decide) (by decide)
    ⟨by decide, by decide, by decide, by decide⟩, by decide⟩, [])

theorem framed_iff_small : smallStream.Framed (.whole smallStream.encode) :=
  (framed_iff smallStream (Pieces.stream_whole _)).mpr (by
    rintro head after ⟨⟩
    decide)

/-- A body of `2 ^ 64` bytes that starts with a request. -/
def hugeStream : RtspStream where
  items := []
  oversized := some (⟨announcing "18446744073709551616".toList (2 ^ 64) (by decide +kernel)
    (by decide) (by decide) (by decide) ⟨by decide, by decide, by decide, by decide⟩,
      by decide +kernel⟩, Text.utf8 "PAUSE rtspt://h/a RTSP/1.0\r\n\r\n".toList)

/-- The announced body is read as a request. -/
theorem body_read_as_request :
    (rtspInputs.all (.whole hugeStream.encode)).1.map (fun result => (result.1, result.2.length)) =
      [(.request ⟨"PLAY".toList, "rtspt://h/a".toList,
          [("content-length".toList, "18446744073709551616".toList)]⟩ "RTSP/1.0".toList, 30),
        (.request ⟨"PAUSE".toList, "rtspt://h/a".toList, []⟩ "RTSP/1.0".toList, 0)] ∧
    ¬ hugeStream.Framed (.whole hugeStream.encode) := by
  have hend : (rtspInputs.all (.whole hugeStream.encode)).2 = none := by decide +kernel
  refine ⟨by decide +kernel, ?_⟩
  rintro ⟨e, herror⟩
  rw [herror] at hend
  cases hend

end RtspStream

end VRCStreamer
