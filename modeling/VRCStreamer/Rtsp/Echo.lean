import VRCStreamer.Rtsp.Input
import VRCStreamer.Rtsp.SharedWriter
import VRCStreamer.Rtsp.TrackNames
import VRCStreamer.Text.Lines

/-!
# What answers repeat of their requests

`write_rtsp_response` writes the `CSeq` of a request and its URI into lines of its own. The reader
hands over no request that could break them: a URI has no blank, and the value of a header has no
line break. Session ids and channels are numbers, so every line of an answer is one line.
-/

namespace VRCStreamer

open Codec Reading Concurrency

/-! ## Requests that can be read -/

namespace RtspRequest

/-- The fields of a request fit on the lines of its answer. -/
structure Readable (request : RtspRequest) : Prop where
  uri : Text.Solid request.uri
  values : ∀ header ∈ request.headers, Text.IsValue header.2

/-- `read_rtsp_input` has returned the request for some bytes of a player. -/
def FromPlayer (request : RtspRequest) : Prop :=
  ∃ (version : Text) (r r' : Pieces UInt8),
    readRtspInput r = .ok (some (.request request version), r')

end RtspRequest

section Lines

variable {delimiter : UInt8} {limit : Nat} {r r' : Pieces UInt8}

theorem notMem_dropLast_take_lineLength (bytes : Bytes) :
    delimiter ∉ (bytes.take (lineLength delimiter bytes)).dropLast := by
  induction bytes with
  | nil => exact List.not_mem_nil
  | cons byte bytes ih =>
    rw [lineLength_cons]
    split
    next => exact List.not_mem_nil
    next hne =>
      rw [List.take_succ_cons]
      cases htaken : bytes.take (lineLength delimiter bytes) with
      | nil => exact List.not_mem_nil
      | cons next taken =>
        rw [htaken] at ih
        rw [List.dropLast_cons_cons, List.mem_cons, not_or]
        exact ⟨Ne.symm hne, ih⟩

/-- A line that was read has its delimiter at the end, if it has one. -/
theorem notMem_dropLast_readUntilLimited {buffer line : Bytes} (hbuffer : delimiter ∉ buffer)
    (h : readUntilLimited delimiter buffer limit r = .ok (line, r')) :
    delimiter ∉ line.dropLast := by
  obtain ⟨n, houtcome, -⟩ := (untilLoop_gives buffer r).of_ok h
  rw [lineOutcome] at houtcome
  split at houtcome
  next =>
    cases houtcome
    exact fun hmem => hbuffer (List.mem_of_mem_dropLast hmem)
  next hne =>
    dsimp only at houtcome
    split at houtcome
    next => cases houtcome
    next =>
      cases houtcome
      have htaken : r.stream.take (lineLength delimiter r.stream) ≠ [] := by
        rw [Ne, List.take_eq_nil_iff, not_or]
        exact ⟨(lineLength_pos hne).ne', hne⟩
      rw [List.dropLast_append_of_ne_nil htaken, List.mem_append, not_or]
      exact ⟨hbuffer, notMem_dropLast_take_lineLength r.stream⟩

end Lines

namespace RtspHeaderBlock

variable {block block' : RtspHeaderBlock} {r r' : Pieces UInt8}

theorem isValue_push {line : Text} (h : ∀ header ∈ block.headers, Text.IsValue header.2)
    (hline : '\n' ∉ line.dropLast) :
    ∀ header ∈ (block.push line).headers, Text.IsValue header.2 := by
  rw [push]
  cases hsplit : Text.splitOnce [':'] line with
  | none => exact h
  | some parts =>
    obtain ⟨name, value⟩ := parts
    intro header hmem
    obtain hbefore | hlast := List.mem_append.mp hmem
    · exact h header hbefore
    · obtain rfl := List.mem_singleton.mp hlast
      apply Text.isValue_trim
      intro hbreak
      apply hline
      rw [splitOnce_spec (List.cons_ne_nil _ _) hsplit]
      have hne : value ≠ [] := by
        rintro rfl
        cases hbreak
      rw [List.dropLast_append_of_ne_nil hne]
      exact List.mem_append_right _ hbreak

theorem isValue_step (h : ∀ header ∈ block.headers, Text.IsValue header.2)
    {next : RtspHeaderBlock ⊕ RtspHeaderBlock} (hstep : block.step r = .ok (next, r')) :
    ∀ header ∈ (next.elim id id).headers, Text.IsValue header.2 := by
  obtain ⟨line, s, hread, haccept⟩ := bind_eq_ok hstep
  have hbreak := notMem_dropLast_readUntilLimited List.not_mem_nil hread
  rw [acceptLine] at haccept
  split at haccept
  next =>
    cases haccept
    exact h
  next =>
    split at haccept
    next => cases haccept
    next =>
      dsimp only at haccept
      split at haccept
      next => cases haccept
      next =>
        cases htext : Text.fromUtf8 line with
        | none =>
          rw [htext] at haccept
          cases haccept
        | some text =>
          rw [htext] at haccept
          cases haccept
          refine @isValue_push { block with headerBytes := _ } _ h
            (Text.notMem_dropLast_of_fromUtf8 htext hbreak)

end RtspHeaderBlock

theorem isValue_headerLoop {block block' : RtspHeaderBlock} {r r' : Pieces UInt8}
    (h : ∀ header ∈ block.headers, Text.IsValue header.2)
    (hrun : headerLoop.run block r = .ok (block', r')) :
    ∀ header ∈ block'.headers, Text.IsValue header.2 := by
  refine Loop.run_rule (P := fun block _ block' _ =>
    (∀ header ∈ block.headers, Text.IsValue header.2) →
      ∀ header ∈ block'.headers, Text.IsValue header.2) ?_ ?_ hrun h
  · intro block r block' r' hdone hblock
    exact RtspHeaderBlock.isValue_step hblock hdone
  · intro block r next r' block' r'' hagain hrest hblock
    exact hrest (RtspHeaderBlock.isValue_step hblock hagain)

section Inputs

variable {request : RtspRequest} {version : Text} {r r' : Pieces UInt8}

theorem readable_acceptFirst {first : UInt8}
    (h : acceptFirst first r = .ok (.inr (some (.request request version)), r')) :
    request.Readable := by
  rw [acceptFirst] at h
  split at h
  next =>
    -- an interleaved frame is no request
    obtain ⟨input, s, hinput, hpure⟩ := bind_eq_ok h
    cases hpure
    obtain ⟨header, s', -, hlength⟩ := bind_eq_ok hinput
    dsimp only at hlength
    split at hlength
    next => cases hlength
    next =>
      obtain ⟨-, s'', -, hinterleaved⟩ := bind_eq_ok hlength
      cases hinterleaved
  next =>
    split at h
    next => cases h
    next =>
      obtain ⟨line, s, -, htext⟩ := bind_eq_ok h
      cases hdecoded : Text.fromUtf8 line with
      | none =>
        rw [hdecoded] at htext
        cases htext
      | some text =>
        rw [hdecoded] at htext
        dsimp only at htext
        cases hwords : Text.splitWhitespace text with
        | nil =>
          rw [hwords] at htext
          cases htext
        | cons method words =>
          cases words with
          | nil =>
            rw [hwords] at htext
            cases htext
          | cons uri parts =>
            rw [hwords] at htext
            obtain ⟨input, s', hrequest, hpure⟩ := bind_eq_ok htext
            cases hpure
            obtain ⟨block, s'', hblock, hbody⟩ := bind_eq_ok hrequest
            obtain ⟨-, s''', -, hdone⟩ := bind_eq_ok hbody
            cases hdone
            have hmem : uri ∈ Text.splitWhitespace text := by
              rw [hwords]
              exact List.mem_cons_of_mem _ List.mem_cons_self
            exact ⟨Text.solid_of_mem_splitWhitespace hmem,
              isValue_headerLoop (List.forall_mem_nil _) hblock⟩

/-- Whatever a player sends, a request that is read fits on the lines of its answer. -/
theorem RtspRequest.FromPlayer.readable (h : request.FromPlayer) : request.Readable := by
  obtain ⟨version, r, r', hread⟩ := h
  refine Loop.run_rule (P := fun _ _ input _ =>
    input = some (.request request version) → request.Readable) ?_ ?_ hread rfl
  · rintro s r input r' hdone rfl
    obtain ⟨first, s', -, haccept⟩ := bind_eq_ok hdone
    cases first with
    | none => cases haccept
    | some first => exact readable_acceptFirst haccept
  · exact fun _ hrest => hrest

end Inputs

/-! ## Answers on lines -/

/-- A header that is written on a line of its own. -/
structure IsField (header : Text × Text) : Prop where
  colon : ':' ∉ header.1
  name : Text.IsValue header.1
  value : Text.IsValue header.2

/-- A header that tells how long the body is. -/
def announcesBody (header : Text × Text) : Bool :=
  Text.eqIgnoreAsciiCase header.1 "content-length".toList

/-- The fields of a response fit on their lines, and only its body has a length. -/
structure RtspResponse.Plain (response : RtspResponse) : Prop where
  status : '\n' ∉ response.status
  cseq : Text.IsValue response.cseq
  headers : ∀ header ∈ response.headers, IsField header ∧ announcesBody header = false

namespace RtspReply

/-- The URIs of an answer come from its request, and the ids are words. -/
def Echoes (request : RtspRequest) : RtspReply → Prop
  | .describe contentBase _ => contentBase = rtspContentBase request.uri
  | .setup _ _ session | .getParameter session | .teardown session => Text.Solid session
  | .play uri _ session => uri = request.uri ∧ Text.Solid session
  | _ => True

end RtspReply

section Solid

variable {uri : Text}

theorem solid_rtspContentBase (h : Text.Solid uri) : Text.Solid (rtspContentBase uri) := by
  rw [rtspContentBase_eq]
  have hbase : Text.Solid (baseUri uri) := by
    rw [baseUri]
    split
    next => exact h
    next => exact h.subset (List.takeWhile_subset _)
  apply hbase.append
  rw [missingSlash]
  split <;> decide

theorem solid_transportHeader (track : RtspTrack) (channel : UInt8) :
    Text.Solid (transportHeader track channel) := by
  have hssrc : Text.Solid (Text.upperHex 8 track.ssrc.toNat) := by
    cases track <;> decide +kernel
  have hname : Text.Solid "RTP/AVP/TCP;unicast;interleaved=".toList := by decide
  refine .append (.append (.append (.append (hname.append (.decimal _)) ?_) (.decimal _)) ?_) hssrc
  · decide
  · decide

theorem solid_rtspRtpInfo (h : Text.Solid uri) (entries : List RtpInfo) :
    Text.Solid (rtspRtpInfo uri entries) := by
  have hbase : Text.Solid ((rtspContentBase uri).rdropWhile (· = '/')) :=
    (solid_rtspContentBase h).subset (List.rdropWhile_prefix _ _).subset
  have hentry : ∀ info : RtpInfo,
      Text.Solid (info.text ((rtspContentBase uri).rdropWhile (· = '/'))) := by
    intro info
    have hname : Text.Solid "url=".toList := by decide
    have htrack : Text.Solid "/trackID=".toList := by decide
    have hseq : Text.Solid ";seq=".toList := by decide
    have htime : Text.Solid ";rtptime=".toList := by decide
    exact (((((((hname.append hbase).append htrack).append (.decimal _)).append hseq).append
      (.decimal _)).append htime).append (.decimal _))
  rw [rtspRtpInfo]
  induction entries with
  | nil => exact fun c hc => nomatch hc
  | cons info entries ih =>
    cases entries with
    | nil =>
      rw [List.map_singleton, List.intercalate_singleton]
      exact hentry info
    | cons next entries =>
      rw [List.map_cons, List.map_cons, List.intercalate_cons_cons]
      have hcomma : Text.Solid [','] := by decide
      exact ((hentry info).append hcomma).append ih

end Solid

theorem isValue_header {request : RtspRequest} (h : request.Readable) {name other : Text}
    (hother : Text.IsValue other) : Text.IsValue ((request.header name).getD other) := by
  rw [RtspRequest.header]
  cases hfound : request.headers.find? (fun header => Text.eqIgnoreAsciiCase header.1 name) with
  | none => exact hother
  | some header => exact h.values header (List.mem_of_find?_eq_some hfound)

/-- The answer to a request that was read fits on its lines. -/
theorem RtspReply.Echoes.plain {request : RtspRequest} {reply : RtspReply}
    (h : reply.Echoes request) (hrequest : request.Readable) :
    (reply.response request).Plain where
  status := by
    show '\n' ∉ reply.status.line
    cases reply.status <;> decide
  cseq := isValue_header hrequest (by decide)
  headers := by
    show ∀ header ∈ reply.headers, IsField header ∧ announcesBody header = false
    have hfield : ∀ {name value : Text}, ':' ∉ name → Text.IsValue name →
        Text.eqIgnoreAsciiCase name "content-length".toList = false → Text.IsValue value →
        IsField (name, value) ∧ announcesBody (name, value) = false :=
      fun hcolon hname hbody hvalue => ⟨⟨hcolon, hname, hvalue⟩, hbody⟩
    cases reply with
    | options =>
      intro header hmem
      obtain rfl := List.mem_singleton.mp hmem
      exact hfield (by decide) (by decide) (by decide) (by decide)
    | describe contentBase sdp =>
      obtain rfl : contentBase = rtspContentBase request.uri := h
      refine List.forall_mem_cons.mpr ⟨?_, List.forall_mem_singleton.mpr ?_⟩
      · exact hfield (by decide) (by decide) (by decide) (by decide)
      · exact hfield (by decide) (by decide) (by decide)
          (solid_rtspContentBase hrequest.uri).isValue
    | setup track channel session =>
      have hsession : Text.Solid session := h
      refine List.forall_mem_cons.mpr ⟨?_, List.forall_mem_singleton.mpr ?_⟩
      · exact hfield (by decide) (by decide) (by decide)
          (solid_transportHeader track channel).isValue
      · exact hfield (by decide) (by decide) (by decide) hsession.isValue
    | play uri entries session =>
      obtain ⟨rfl, hsession⟩ := h
      refine List.forall_mem_cons.mpr ⟨?_, List.forall_mem_cons.mpr
        ⟨?_, List.forall_mem_singleton.mpr ?_⟩⟩
      · exact hfield (by decide) (by decide) (by decide) (by decide)
      · exact hfield (by decide) (by decide) (by decide)
          (solid_rtspRtpInfo hrequest.uri entries).isValue
      · exact hfield (by decide) (by decide) (by decide) hsession.isValue
    | getParameter session =>
      have hsession : Text.Solid session := h
      refine List.forall_mem_singleton.mpr ?_
      exact hfield (by decide) (by decide) (by decide) hsession.isValue
    | teardown session =>
      have hsession : Text.Solid session := h
      refine List.forall_mem_singleton.mpr ?_
      exact hfield (by decide) (by decide) (by decide) hsession.isValue
    | refused status => exact List.forall_mem_nil _

/-! ## Connections -/

section Handler

variable {θ ι : Type*} {config : RtspConfig} {request : RtspRequest} {state : RtspServer θ ι}
variable {session : RtspSession ι}

/-- The id of a session is a word. -/
def RtspSession.Named (session : RtspSession ι) : Prop := ∀ id ∈ session.id, Text.Solid id

/-- An answer repeats what the request carries, and the session keeps a word as its id. -/
structure RtspOutcome.Echoing (request : RtspRequest) (outcome : RtspOutcome θ ι) : Prop where
  reply : outcome.reply.Echoes request
  named : outcome.session.Named

namespace RtspSession.Named

theorem idOrOne (h : session.Named) : Text.Solid session.idOrOne := by
  rw [RtspSession.idOrOne]
  cases hid : session.id with
  | none => decide
  | some id => exact h id hid

theorem refuse (h : session.Named) (status : RtspStatus) :
    (session.refuse state status).Echoing request := ⟨trivial, h⟩

theorem describe (h : session.Named) : (session.describe config request state).Echoing request := by
  rw [RtspSession.describe]
  cases keyFromRtspUri request.uri with
  | none => exact h.refuse _
  | some key =>
    dsimp only
    split
    next => exact h.refuse _
    next => exact ⟨rfl, h⟩

theorem acceptSetup (h : session.Named) (key transport : Text) :
    (session.acceptSetup request key transport state).Echoing request := by
  have hassigned : (session.assignId state).2.Named := by
    rw [RtspSession.assignId]
    cases hid : session.id with
    | some id => exact h
    | none =>
      rintro id ⟨⟩
      exact .hex 16 _
  rw [RtspSession.acceptSetup]
  generalize session.assignId state = assigned at hassigned ⊢
  obtain ⟨state', session'⟩ := assigned
  refine ⟨hassigned.idOrOne, ?_⟩
  cases rtspTrackFromUri request.uri session.videoAdvertised <;> exact hassigned

theorem setup (h : session.Named) : (session.setup config request state).Echoing request := by
  rw [RtspSession.setup]
  cases (keyFromRtspUri request.uri).or session.key with
  | none => exact h.refuse _
  | some key =>
    dsimp only
    split
    next => exact h.refuse _
    next =>
      split
      next => exact h.refuse _
      next =>
        cases session.guard with
        | none =>
          generalize state.server.map.subscribeListener config.limits key = subscribed
          obtain ⟨map, channel⟩ := subscribed
          cases channel with
          | none => exact h.refuse _
          | some channel =>
            have hsubscribed : (session.subscribed ⟨key, channel⟩).Named := h
            exact hsubscribed.acceptSetup key _
        | some guard =>
          dsimp only
          split
          next => exact h.acceptSetup key _
          next => exact h.refuse _

theorem takeAudio (h : session.Named) {audio : Option RtspTrackStart} {session' : RtspSession ι}
    (htaken : session.takeAudio = some (audio, session')) : session'.Named := by
  rw [RtspSession.takeAudio] at htaken
  split at htaken
  next =>
    obtain ⟨rx, -, heq⟩ := Option.map_eq_some_iff.mp htaken
    cases heq
    exact h
  next =>
    cases htaken
    exact h

theorem takeVideo (h : session.Named) {stream : ChannelId} {video : Option RtspTrackStart}
    {session' : RtspSession ι} (htaken : session.takeVideo stream = some (video, session')) :
    session'.Named := by
  rw [RtspSession.takeVideo] at htaken
  split at htaken
  next =>
    obtain ⟨rx, -, heq⟩ := Option.map_eq_some_iff.mp htaken
    cases heq
    exact h
  next =>
    cases htaken
    exact h

theorem startMedia (h : session.Named) (stream : ChannelId) (key : Text) :
    (session.startMedia request stream key state).Echoing request := by
  rw [RtspSession.startMedia]
  cases haudio : session.takeAudio with
  | none => exact h.refuse _
  | some taken =>
    obtain ⟨audio, session₁⟩ := taken
    dsimp only
    cases hvideo : session₁.takeVideo stream with
    | none => exact (h.takeAudio haudio).refuse _
    | some taken =>
      obtain ⟨video, session₂⟩ := taken
      have hnamed := (h.takeAudio haudio).takeVideo hvideo
      exact ⟨⟨rfl, hnamed.idOrOne⟩, hnamed⟩

theorem play (h : session.Named) : (session.play request state).Echoing request := by
  rw [RtspSession.play]
  split
  next => exact h.refuse _
  next =>
    split
    next => exact h.refuse _
    next => exact h.refuse _
    next guard key _ _ _ => exact h.startMedia guard.channel key
    next => exact ⟨⟨rfl, h.idOrOne⟩, h⟩

theorem handleRtspRequest (h : session.Named) :
    (handleRtspRequest config request state session).Echoing request := by
  have hnoted : (session.noteAndroidxMedia3 request).Named := by
    rw [RtspSession.noteAndroidxMedia3]
    split <;> exact h
  rw [VRCStreamer.handleRtspRequest]
  cases request.rtspMethod with
  | none => exact hnoted.refuse _
  | some method =>
    cases method with
    | options => exact ⟨trivial, hnoted⟩
    | describe => exact hnoted.describe
    | setup => exact hnoted.setup
    | play => exact hnoted.play
    | getParameter => exact ⟨hnoted.idOrOne, hnoted⟩
    | teardown => exact ⟨hnoted.idOrOne, hnoted⟩

end RtspSession.Named

/-- Every answer so far fits on its lines. -/
structure Connection.Echoing (c : Connection θ ι) : Prop where
  answers : ∀ entry ∈ c.log, (entry.2.response entry.1).Plain
  named : ∀ session ∈ c.session, session.Named

theorem Connection.Echoing.step {c c' : Connection θ ι} {event : ConnectionEvent θ ι}
    (h : c.Echoing) (hevent : ∀ request, event = .request request → request.Readable)
    (hstep : c.step config event = some c') : c'.Echoing := by
  cases event with
  | environment state =>
    obtain rfl := Option.some.inj hstep
    exact ⟨h.answers, h.named⟩
  | request request =>
    obtain ⟨session, hsession, rfl⟩ := Option.map_eq_some_iff.mp hstep
    have hechoes : (handleRtspRequest config request c.state session).Echoing request :=
      (h.named session hsession).handleRtspRequest
    constructor
    · rw [Connection.answer_log]
      exact List.forall_mem_cons.mpr ⟨hechoes.reply.plain (hevent request rfl), h.answers⟩
    · intro after hafter
      rw [Connection.session_of_answer hafter]
      exact hechoes.named
  | disconnect =>
    obtain ⟨session, -, rfl⟩ := Option.map_eq_some_iff.mp hstep
    refine ⟨h.answers, ?_⟩
    rintro after ⟨⟩

end Handler

end VRCStreamer
