import VRCStreamer.Media.Fmtp
import VRCStreamer.Rtsp.Effect

/-!
# Names of tracks

A client appends the control value of a media section to the `Content-Base` of the answer to
DESCRIBE. SETUP cuts the stream key and the track out of that URL, and PLAY writes the URL anew. All
of them cut the URI in their own ways.
-/

namespace VRCStreamer

/-! ## Session descriptions -/

/-- A media section as a client reads it. -/
structure MediaSection where
  media : Text
  control : Option Text
deriving DecidableEq

namespace Sdp

/-- What follows a field's name on its line. -/
def value (name line : Text) : Option Text :=
  if name <+: line then some (line.drop name.length) else none

/-- The lines of a description; a line ends with a line feed and perhaps a carriage return. -/
def lines (sdp : Text) : List Text :=
  (sdp.splitOnP (· == '\n')).map (fun line =>
    if line.getLast? = some '\r' then line.dropLast else line)

/-- The control value in front of the next section. -/
def control : List Text → Option Text
  | [] => none
  | line :: lines =>
    if (value "m=".toList line).isSome then none
    else (value "a=control:".toList line).or (control lines)

/-- The sections, each with the first word of its line. -/
def sections : List Text → List MediaSection
  | [] => []
  | line :: lines =>
    match value "m=".toList line with
    | some media => ⟨Text.firstPiece [' '] media, control lines⟩ :: sections lines
    | none => sections lines

theorem lines_crlfLines {texts : List Text} (h : ∀ text ∈ texts, '\n' ∉ text) :
    lines (Text.crlfLines texts) = texts ++ [[]] := by
  induction texts with
  | nil => rfl
  | cons text texts ih =>
    have hrest := ih (fun text' hmem => h text' (List.mem_cons_of_mem text hmem))
    have hline : ∀ c ∈ text ++ ['\r'], (c == '\n') = false := by
      intro c hc
      obtain hc | hc := List.mem_append.mp hc
      · exact beq_false_of_ne (fun heq => h text List.mem_cons_self (heq ▸ hc))
      · rw [List.mem_singleton.mp hc]
        rfl
    have hsplit : Text.crlfLines (text :: texts) =
        (text ++ ['\r']) ++ '\n' :: Text.crlfLines texts := by
      simp [Text.crlfLines]
    rw [lines, hsplit, List.splitOnP_append_cons_of_forall_mem hline '\n' rfl, List.map_cons,
      List.getLast?_concat, if_pos rfl, List.dropLast_concat, List.cons_append, ← hrest, lines]

/-- Lines without an `m=` open no section. -/
theorem sections_append {front : List Text} (h : ∀ line ∈ front, value "m=".toList line = none)
    (rest : List Text) : sections (front ++ rest) = sections rest := by
  induction front with
  | nil => rfl
  | cons line front ih =>
    rw [List.cons_append, sections, h line List.mem_cons_self]
    exact ih (fun line' hmem => h line' (List.mem_cons_of_mem line hmem))

theorem value_eq_none {name line : Text} (h : name.head? ≠ line.head?) (hname : name ≠ []) :
    value name line = none := by
  rw [value, if_neg]
  rintro ⟨rest, rfl⟩
  obtain ⟨c, name, rfl⟩ := List.exists_cons_of_ne_nil hname
  exact h rfl

end Sdp

/-- The sections of a description. -/
def mediaSections (sdp : Text) : List MediaSection := Sdp.sections (Sdp.lines sdp)

/-- The media name of a track. -/
def RtspTrack.media : RtspTrack → Text
  | .audio => "audio".toList
  | .video => "video".toList

theorem RtspTrack.media_injective : Function.Injective RtspTrack.media := by
  intro track track' h
  revert h
  cases track <;> cases track' <;> decide +kernel

/-- The control value that the description gives to a track number. -/
def controlValue (trackId : Nat) : Text := "trackID=".toList ++ Text.decimal trackId

/-- The lines in front of the sections. -/
def sessionLines : List Text :=
  ["v=0".toList, "o=- 0 0 IN IP4 127.0.0.1".toList, "s= ".toList, "c=IN IP4 0.0.0.0".toList,
    "t=0 0".toList, "a=range:npt=now-".toList, "a=control:*".toList]

/-- The lines of the video section in front of its parameters. -/
def videoLines : List Text :=
  let videoType := Text.decimal RTP_VIDEO_PAYLOAD_TYPE.toNat
  ["m=video 0 RTP/AVP ".toList ++ videoType, "a=control:trackID=0".toList,
    "a=rtpmap:".toList ++ videoType ++ " H264/".toList ++ Text.decimal H264_CLOCK_RATE]

def fmtpLine (fmtp : Text) : Text :=
  "a=fmtp:".toList ++ Text.decimal RTP_VIDEO_PAYLOAD_TYPE.toNat ++ " ".toList ++ fmtp

def audioLines (trackId : Nat) : List Text :=
  let audioType := Text.decimal RTP_AUDIO_PAYLOAD_TYPE.toNat
  ["m=audio 0 RTP/AVP ".toList ++ audioType, "a=control:trackID=".toList ++ Text.decimal trackId,
    "a=rtpmap:".toList ++ audioType ++ " mpeg4-generic/".toList ++ Text.decimal AAC_SAMPLE_RATE ++
      "/".toList ++ Text.decimal AAC_CHANNELS,
    "a=fmtp:".toList ++ audioType ++ " config=".toList ++ AAC_AUDIO_SPECIFIC_CONFIG.toList ++
      ("; indexdeltalength=3; indexlength=3; mode=AAC-hbr; profile-level-id=1; " ++
        "sizelength=13; streamtype=5").toList]

theorem rtspSdp_none : rtspSdp none = Text.crlfLines (sessionLines ++ audioLines 0) := by
  have happend : rtspSdp none =
      Text.crlfLines sessionLines ++ [] ++ Text.crlfLines (audioLines 0) := rfl
  rw [happend]
  simp only [Text.crlfLines, List.flatMap_append, List.append_nil]

theorem rtspSdp_some (fmtp : Text) : rtspSdp (some fmtp) =
    Text.crlfLines (sessionLines ++ (videoLines ++ fmtpLine fmtp :: audioLines 1)) := by
  have happend : rtspSdp (some fmtp) = Text.crlfLines sessionLines ++
      Text.crlfLines (videoLines ++ [fmtpLine fmtp]) ++ Text.crlfLines (audioLines 1) := rfl
  rw [happend]
  simp only [Text.crlfLines, List.flatMap_append, List.append_assoc, List.flatMap_cons,
    List.flatMap_nil, List.append_nil]

theorem sections_sessionLines (rest : List Text) :
    Sdp.sections (sessionLines ++ rest) = Sdp.sections rest := by
  apply Sdp.sections_append
  decide +kernel

theorem mediaSections_rtspSdp_none :
    mediaSections (rtspSdp none) = [⟨RtspTrack.audio.media, some (controlValue 0)⟩] := by
  rw [mediaSections, rtspSdp_none, Sdp.lines_crlfLines (by decide +kernel), List.append_assoc,
    sections_sessionLines]
  decide +kernel

/-- The parameters are neither a section nor a control value. -/
theorem value_fmtpLine (fmtp : Text) : Sdp.value "m=".toList (fmtpLine fmtp) = none := by
  apply Sdp.value_eq_none
  · show some 'm' ≠ some 'a'
    decide
  · decide

theorem sections_videoLines (rest : List Text) : Sdp.sections (videoLines ++ rest) =
    ⟨RtspTrack.video.media, some (controlValue 0)⟩ :: Sdp.sections rest := by
  obtain ⟨media, control, rtpmap, hvideo⟩ :
      ∃ media control rtpmap, videoLines = [media, control, rtpmap] := ⟨_, _, _, rfl⟩
  have hmedia : (videoLines.map (Sdp.value "m=".toList)) =
      [some "video 0 RTP/AVP 96".toList, none, none] := by decide +kernel
  have hcontrol : (videoLines.map (Sdp.value "a=control:".toList)) =
      [none, some (controlValue 0), none] := by decide +kernel
  rw [hvideo] at hmedia hcontrol ⊢
  simp only [List.map_cons, List.map_nil, List.cons.injEq, and_true] at hmedia hcontrol
  obtain ⟨hmedia, hcontrol', hrtpmap⟩ := hmedia
  have hfirst : Text.firstPiece [' '] "video 0 RTP/AVP 96".toList = RtspTrack.video.media := by
    decide +kernel
  simp only [List.cons_append, List.nil_append]
  rw [Sdp.sections, hmedia]
  show MediaSection.mk _ (Sdp.control (control :: rtpmap :: rest)) :: _ = _
  rw [hfirst, Sdp.control, hcontrol', hcontrol.2.1, Sdp.sections, hcontrol', Sdp.sections, hrtpmap]
  rfl

theorem mediaSections_rtspSdp_some {fmtp : Text} (h : '\n' ∉ fmtp) :
    mediaSections (rtspSdp (some fmtp)) = [⟨RtspTrack.video.media, some (controlValue 0)⟩,
      ⟨RtspTrack.audio.media, some (controlValue 1)⟩] := by
  have hfront : '\n' ∉ "a=fmtp:".toList ++ Text.decimal RTP_VIDEO_PAYLOAD_TYPE.toNat ++
      " ".toList := by decide +kernel
  have hfmtp : '\n' ∉ fmtpLine fmtp := newline_notMem_append hfront h
  have hlines : ∀ line ∈ sessionLines ++ (videoLines ++ fmtpLine fmtp :: audioLines 1),
      '\n' ∉ line := by
    have hother : ∀ line ∈ sessionLines ++ (videoLines ++ audioLines 1), '\n' ∉ line := by
      decide +kernel
    intro line hmem
    by_cases hline : line = fmtpLine fmtp
    · exact hline ▸ hfmtp
    · apply hother
      simp only [List.mem_append, List.mem_cons, hline, false_or] at hmem ⊢
      exact hmem
  rw [mediaSections, rtspSdp_some, Sdp.lines_crlfLines hlines, List.append_assoc,
    sections_sessionLines]
  -- the video section, the line with the parameters, and the audio section
  have haudio : Sdp.sections (fmtpLine fmtp :: (audioLines 1 ++ [[]])) =
      [⟨RtspTrack.audio.media, some (controlValue 1)⟩] := by
    rw [Sdp.sections, value_fmtpLine]
    decide +kernel
  rw [List.append_assoc, sections_videoLines]
  exact congrArg _ haudio

/-! ## URLs of tracks -/

/-- The part of a URI that the answer to DESCRIBE starts from: what stands in front of the query
and the fragment, or all of it when nothing does. -/
def baseUri (uri : Text) : Text :=
  let piece := Text.firstPiece ['?', '#'] uri
  if piece = [] then uri else piece

/-- The slash that `rtsp_content_base` adds. -/
def missingSlash (base : Text) : Text := if base.getLast? = some '/' then [] else ['/']

theorem rtspContentBase_eq (uri : Text) :
    rtspContentBase uri = baseUri uri ++ missingSlash (baseUri uri) := by
  show (if (baseUri uri).getLast? = some '/' then baseUri uri else baseUri uri ++ ['/']) = _
  rw [missingSlash]
  split
  next => exact (List.append_nil _).symm
  next => rfl

/-- A value that is one path segment and holds no colon. -/
structure IsSegment (text : Text) : Prop where
  ne_nil : text ≠ []
  slash : '/' ∉ text
  colon : ':' ∉ text
  query : '?' ∉ text
  fragment : '#' ∉ text

theorem isSegment_controlValue {trackId : Nat} (h : trackId ≤ 1) :
    IsSegment (controlValue trackId) := by
  have htwo : trackId = 0 ∨ trackId = 1 := by omega
  obtain rfl | rfl := htwo
  · exact ⟨by decide +kernel, by decide +kernel, by decide +kernel, by decide +kernel,
      by decide +kernel⟩
  · exact ⟨by decide +kernel, by decide +kernel, by decide +kernel, by decide +kernel,
      by decide +kernel⟩

section Segments

variable {segment : Text}

theorem getLast?_of_suffix {text back : Text} (h : back <:+ text) (hne : back ≠ []) :
    back.getLast? = text.getLast? := by
  obtain ⟨front, rfl⟩ := h
  exact (List.getLast?_append_of_ne_nil front hne).symm

theorem firstPiece_segment (h : IsSegment segment) :
    Text.firstPiece ['/', '?', '#'] segment = segment := by
  rw [Text.firstPiece, List.takeWhile_eq_self_iff]
  intro c hc
  have hslash : c ≠ '/' := fun heq => h.slash (heq ▸ hc)
  have hquery : c ≠ '?' := fun heq => h.query (heq ▸ hc)
  have hfragment : c ≠ '#' := fun heq => h.fragment (heq ▸ hc)
  simp [hslash, hquery, hfragment]

theorem firstSegment_slash (h : IsSegment segment) :
    firstSegment ('/' :: segment) = some segment := by
  have hdrop : ('/' :: segment).dropWhile (· = '/') = segment := by
    rw [List.dropWhile_cons_of_pos (by simp)]
    obtain ⟨c, rest, rfl⟩ := List.exists_cons_of_ne_nil h.ne_nil
    rw [List.dropWhile_cons_of_neg]
    have hne : '/' ≠ c := List.ne_of_not_mem_cons h.slash
    simpa using hne.symm
  simp only [firstSegment, hdrop, firstPiece_segment h, if_neg h.ne_nil]

/-- More behind a path leaves its first segment alone, if a slash stands between the two. -/
theorem firstSegment_append {path more key : Text} (h : firstSegment path = some key)
    (hslash : path.getLast? = some '/' ∨ more.head? = some '/') :
    firstSegment (path ++ more) = some key := by
  simp only [firstSegment] at h ⊢
  split at h
  next => cases h
  next hkey =>
    cases h
    have hne : path.dropWhile (· = '/') ≠ [] := by
      intro hnil
      rw [hnil] at hkey
      exact hkey rfl
    have hdrop : (path ++ more).dropWhile (· = '/') = path.dropWhile (· = '/') ++ more := by
      rw [List.dropWhile_append, if_neg (by simpa using hne)]
    have htake : Text.firstPiece ['/', '?', '#'] (path.dropWhile (· = '/') ++ more) =
        Text.firstPiece ['/', '?', '#'] (path.dropWhile (· = '/')) := by
      rw [Text.firstPiece, List.takeWhile_append]
      split
      next hall =>
        -- the path is slashes and one segment, so the slash is in front of the rest
        have hsegment := List.takeWhile_eq_self_iff.mp
          ((List.takeWhile_prefix _).eq_of_length hall)
        obtain hlast | hhead := hslash
        · exfalso
          have hmem : '/' ∈ path.dropWhile (· = '/') := by
            apply List.mem_of_getLast?
            rw [getLast?_of_suffix (List.dropWhile_suffix _) hne]
            exact hlast
          have hsolid := hsegment '/' hmem
          simp at hsolid
        · obtain ⟨more, rfl⟩ : ∃ rest, more = '/' :: rest := by
            cases more with
            | nil => cases hhead
            | cons c more =>
              cases hhead
              exact ⟨more, rfl⟩
          rw [List.takeWhile_cons_of_neg (by simp), List.append_nil, Text.firstPiece,
            (List.takeWhile_prefix _).eq_of_length hall]
      next => rfl
    rw [hdrop, htake, if_neg hkey]

end Segments

/-! ## Keys of URLs -/

section SplitOnce

variable {pattern text front back : Text}

theorem splitOnce_spec (hne : pattern ≠ []) (h : Text.splitOnce pattern text = some (front, back)) :
    text = front ++ pattern ++ back := by
  induction text generalizing front with
  | nil =>
    rw [Text.splitOnce, if_neg hne] at h
    cases h
  | cons c text ih =>
    rw [Text.splitOnce] at h
    split at h
    next hprefix =>
      cases h
      obtain ⟨rest, hrest⟩ := hprefix
      rw [← hrest, List.drop_left, List.nil_append]
    next =>
      obtain ⟨⟨front', back'⟩, hparts, hcons⟩ := Option.map_eq_some_iff.mp h
      cases hcons
      rw [ih hparts]
      rfl

/-- More text behind what is split goes to the back. -/
theorem splitOnce_append_right (hne : pattern ≠ [])
    (h : Text.splitOnce pattern text = some (front, back)) (more : Text) :
    Text.splitOnce pattern (text ++ more) = some (front, back ++ more) := by
  induction text generalizing front with
  | nil =>
    rw [Text.splitOnce, if_neg hne] at h
    cases h
  | cons c text ih =>
    have hspec := splitOnce_spec hne h
    rw [Text.splitOnce] at h
    rw [List.cons_append, Text.splitOnce]
    split at h
    next hprefix =>
      cases h
      have hlonger : pattern <+: c :: (text ++ more) :=
        hprefix.trans (List.prefix_append (c :: text) more)
      have hdrop : (c :: (text ++ more)).drop pattern.length =
          (c :: text).drop pattern.length ++ more :=
        List.drop_append_of_le_length hprefix.length_le
      rw [if_pos hlonger, hdrop]
    next hno =>
      obtain ⟨⟨front', back'⟩, hparts, hcons⟩ := Option.map_eq_some_iff.mp h
      have hlonger : ¬ pattern <+: c :: (text ++ more) := by
        intro hprefix
        apply hno
        apply List.prefix_of_prefix_length_le hprefix (List.prefix_append (c :: text) more)
        rw [hspec, List.length_append, List.length_append]
        omega
      cases hcons
      rw [if_neg hlonger, ih hparts]
      rfl

theorem splitOnce_eq_none_of_notMem {c : Char} (h : c ∉ text) :
    Text.splitOnce (c :: pattern) text = none := by
  cases hsplit : Text.splitOnce (c :: pattern) text with
  | none => rfl
  | some parts =>
    exfalso
    apply h
    rw [splitOnce_spec (List.cons_ne_nil c pattern) hsplit]
    simp

end SplitOnce

/-- A slash and a segment behind a URI without scheme make no scheme. -/
theorem splitOnce_scheme_append {base segment : Text} (hsegment : IsSegment segment)
    (h : Text.splitOnce "://".toList base = none) :
    Text.splitOnce "://".toList (base ++ (missingSlash base ++ segment)) = none := by
  have hscheme : "://".toList = [':', '/', '/'] := by decide
  rw [hscheme] at h ⊢
  have hcolon : ∀ front : Text, ':' ∉ front →
      Text.splitOnce [':', '/', '/'] (front ++ segment) = none := by
    intro front hfront
    apply splitOnce_eq_none_of_notMem
    rw [List.mem_append, not_or]
    exact ⟨hfront, hsegment.colon⟩
  induction base with
  | nil => exact hcolon ['/'] (by decide)
  | cons c base ih =>
    rw [Text.splitOnce] at h
    split at h
    next => cases h
    next hno =>
      have hbase := Option.map_eq_none_iff.mp h
      rw [List.cons_append, Text.splitOnce, if_neg]
      · cases base with
        | nil =>
          rw [List.nil_append, missingSlash]
          split
          next => rw [hcolon [] (by decide)]; rfl
          next => rw [hcolon ['/'] (by decide)]; rfl
        | cons d base =>
          have hlast : missingSlash (c :: d :: base) = missingSlash (d :: base) := by
            rw [missingSlash, missingSlash, List.getLast?_cons_cons]
          rw [hlast, ih hbase]
          rfl
      · -- the three characters are not in the base, and the last of them is in no segment
        rintro ⟨rest, hrest⟩
        rw [List.cons_append, List.cons.injEq] at hrest
        obtain ⟨rfl, hrest⟩ := hrest
        have hslash : ∀ rest : Text, segment ≠ '/' :: rest := by
          rintro rest rfl
          exact hsegment.slash List.mem_cons_self
        match base with
        | [] => exact hslash rest (List.cons.inj hrest).2.symm
        | [d] =>
          obtain ⟨rfl, hrest⟩ := List.cons.inj hrest
          exact hslash rest hrest.symm
        | d :: e :: base =>
          obtain ⟨rfl, hrest⟩ := List.cons.inj hrest
          obtain ⟨rfl, hrest⟩ := List.cons.inj hrest
          exact hno ⟨base, rfl⟩

section KeyOfUrl

variable {base segment key : Text}

theorem slash_between (base segment : Text) :
    base.getLast? = some '/' ∨ (missingSlash base ++ segment).head? = some '/' := by
  rw [missingSlash]
  split
  next h => exact .inl h
  next => exact .inr rfl

/-- The key of a URI is the key of its tracks' URLs. -/
theorem keyFromRtspUri_append (hsegment : IsSegment segment) (h : keyFromRtspUri base = some key) :
    keyFromRtspUri (base ++ (missingSlash base ++ segment)) = some key := by
  have hslash := slash_between base segment
  cases hsplit : Text.splitOnce "://".toList base with
  | none =>
    simp only [keyFromRtspUri, hsplit] at h
    simp only [keyFromRtspUri, splitOnce_scheme_append hsegment hsplit]
    exact firstSegment_append h hslash
  | some parts =>
    obtain ⟨front, rest⟩ := parts
    have hne : "://".toList ≠ [] := by decide
    simp only [keyFromRtspUri, hsplit] at h
    simp only [keyFromRtspUri, splitOnce_append_right hne hsplit]
    split at h
    next hmem =>
      rw [if_pos (List.mem_append_left _ hmem)]
      have hpath : rest.dropWhile (· ≠ '/') ≠ [] := by
        intro hnil
        have hall := List.dropWhile_eq_nil_iff.mp hnil '/' hmem
        simp at hall
      rw [List.dropWhile_append, if_neg (by simpa using hpath)]
      apply firstSegment_append h
      have hsuffix : rest.dropWhile (· ≠ '/') <:+ base := by
        rw [splitOnce_spec hne hsplit]
        exact (List.dropWhile_suffix _).trans (List.suffix_append _ _)
      rw [getLast?_of_suffix hsuffix hpath]
      exact hslash
    next => cases h

/-- Slashes alone that do not end in two are one slash. -/
theorem eq_slash {text : Text} (hall : ∀ c ∈ text, c = '/') (hne : text ≠ [])
    (hslashes : ¬ ['/', '/'] <:+ text) : text = ['/'] := by
  have hreplicate := List.eq_replicate_of_mem hall
  have hpos := List.length_pos_of_ne_nil hne
  have hone : text.length = 1 := by
    by_contra hother
    apply hslashes
    refine ⟨List.replicate (text.length - 2) '/', ?_⟩
    have htwo : ['/', '/'] = List.replicate 2 '/' := rfl
    rw [htwo, ← List.replicate_add, Nat.sub_add_cancel (by omega)]
    exact hreplicate.symm
  rw [hreplicate, hone]
  rfl

/-- A path without a segment is slashes. -/
theorem all_slash_of_firstSegment {path : Text} (hquery : '?' ∉ path) (hfragment : '#' ∉ path)
    (h : firstSegment path = none) : ∀ c ∈ path, c = '/' := by
  simp only [firstSegment] at h
  split at h
  next hnil =>
    have hdrop : path.dropWhile (· = '/') = [] := by
      cases hpath : path.dropWhile (· = '/') with
      | nil => rfl
      | cons c rest =>
        exfalso
        have hmem : c ∈ path := (List.dropWhile_suffix _).subset (hpath ▸ List.mem_cons_self)
        have hslash : c ≠ '/' := by
          have hhead := List.head_dropWhile_not (· = '/') (l := path) (by simp [hpath])
          simpa [hpath] using hhead
        have hother : c ≠ '?' ∧ c ≠ '#' :=
          ⟨fun heq => hquery (heq ▸ hmem), fun heq => hfragment (heq ▸ hmem)⟩
        rw [hpath, Text.firstPiece, List.takeWhile_cons_of_pos (by simp [hslash, hother])] at hnil
        cases hnil
    intro c hc
    simpa using List.dropWhile_eq_nil_iff.mp hdrop c hc
  next => cases h

/-- Where a URI has no key, the segment behind it is taken for one. -/
theorem keyFromRtspUri_append_of_none (hsegment : IsSegment segment) (hbase : base ≠ [])
    (hquery : '?' ∉ base) (hfragment : '#' ∉ base) (hslashes : ¬ ['/', '/'] <:+ base)
    (h : keyFromRtspUri base = none) :
    keyFromRtspUri (base ++ (missingSlash base ++ segment)) = some segment := by
  cases hsplit : Text.splitOnce "://".toList base with
  | none =>
    simp only [keyFromRtspUri, hsplit] at h
    simp only [keyFromRtspUri, splitOnce_scheme_append hsegment hsplit]
    have hone := eq_slash (all_slash_of_firstSegment hquery hfragment h) hbase hslashes
    rw [hone]
    exact firstSegment_slash hsegment
  | some parts =>
    obtain ⟨front, rest⟩ := parts
    have hne : "://".toList ≠ [] := by decide
    have hspec := splitOnce_spec hne hsplit
    simp only [keyFromRtspUri, hsplit] at h
    simp only [keyFromRtspUri, splitOnce_append_right hne hsplit]
    split at h
    next hmem =>
      -- the path is one slash
      have hpath : rest.dropWhile (· ≠ '/') ≠ [] := by
        intro hnil
        have hall := List.dropWhile_eq_nil_iff.mp hnil '/' hmem
        simp at hall
      have hsuffix : rest.dropWhile (· ≠ '/') <:+ base := by
        rw [hspec]
        exact (List.dropWhile_suffix _).trans (List.suffix_append _ _)
      have hone : rest.dropWhile (· ≠ '/') = ['/'] := by
        apply eq_slash _ hpath (fun hend => hslashes (hend.trans hsuffix))
        exact all_slash_of_firstSegment (fun hq => hquery (hsuffix.subset hq))
          (fun hf => hfragment (hsuffix.subset hf)) h
      have hlast : base.getLast? = some '/' := by
        rw [← getLast?_of_suffix hsuffix hpath, hone]
        rfl
      rw [if_pos (List.mem_append_left _ hmem), List.dropWhile_append,
        if_neg (by simpa using hpath), hone, missingSlash, if_pos hlast]
      exact firstSegment_slash hsegment
    next hmem =>
      -- there is no path
      have hrest : rest ≠ [] := by
        rintro rfl
        apply hslashes
        rw [hspec]
        exact ⟨front ++ [':'], by simp⟩
      have hlast : base.getLast? ≠ some '/' := by
        have hsuffix : rest <:+ base := hspec ▸ List.suffix_append _ _
        rw [← getLast?_of_suffix hsuffix hrest]
        exact fun hend => hmem (List.mem_of_getLast? hend)
      rw [missingSlash, if_neg hlast, if_pos (by simp)]
      have hdrop : (rest ++ (['/'] ++ segment)).dropWhile (· ≠ '/') = '/' :: segment := by
        have hall : ∀ c ∈ rest, decide (c ≠ '/') = true := by
          intro c hc
          exact decide_eq_true (fun heq => hmem (heq ▸ hc))
        rw [List.dropWhile_append_of_pos hall]
        exact List.dropWhile_cons_of_neg (by simp)
      rw [hdrop]
      exact firstSegment_slash hsegment

end KeyOfUrl

/-! ## Tracks of URLs -/

section TrackOfUrl

variable {uri base segment : Text}

theorem notMem_baseUri (h : Text.firstPiece ['?', '#'] uri ≠ []) :
    '?' ∉ baseUri uri ∧ '#' ∉ baseUri uri := by
  have hbase : baseUri uri = Text.firstPiece ['?', '#'] uri := if_neg h
  rw [hbase, Text.firstPiece]
  constructor
  · intro hmem
    have hfree := List.mem_takeWhile_imp hmem
    simp at hfree
  · intro hmem
    have hfree := List.mem_takeWhile_imp hmem
    simp at hfree

theorem baseUri_ne_nil (h : uri ≠ []) : baseUri uri ≠ [] := by
  rw [baseUri]
  split
  next => exact h
  next hne => exact hne

theorem firstPiece_of_notMem (hquery : '?' ∉ base) (hfragment : '#' ∉ base) :
    Text.firstPiece ['?', '#'] base = base := by
  rw [Text.firstPiece, List.takeWhile_eq_self_iff]
  intro c hc
  have hother : c ≠ '?' ∧ c ≠ '#' :=
    ⟨fun heq => hquery (heq ▸ hc), fun heq => hfragment (heq ▸ hc)⟩
  simp [hother]

/-- A URI that starts with its query has nothing in front of it, whatever is appended. -/
theorem firstPiece_append_of_nil (hne : uri ≠ []) (h : Text.firstPiece ['?', '#'] uri = [])
    (more : Text) : Text.firstPiece ['?', '#'] (uri ++ more) = [] := by
  obtain ⟨c, rest, rfl⟩ := List.exists_cons_of_ne_nil hne
  rw [Text.firstPiece] at h
  rw [List.cons_append, Text.firstPiece, List.takeWhile_cons_of_neg]
  intro hc
  simp only [List.takeWhile_cons, hc, if_true] at h
  cases h

/-- The last piece of a track's URL is the control value. -/
theorem lastPiece_append (hsegment : IsSegment segment) (base : Text) :
    Text.lastPiece '/' (base ++ (missingSlash base ++ segment)) = segment := by
  have hall : ∀ c ∈ segment, decide (c ≠ '/') = true := by
    intro c hc
    exact decide_eq_true (fun heq => hsegment.slash (heq ▸ hc))
  have hsplit : ∃ front, base ++ (missingSlash base ++ segment) = front ++ ['/'] ++ segment := by
    rw [missingSlash]
    split
    next hlast =>
      obtain ⟨front, rfl⟩ := List.getLast?_eq_some_iff.mp hlast
      exact ⟨front, by simp⟩
    next => exact ⟨base, by simp⟩
  obtain ⟨front, hfront⟩ := hsplit
  rw [hfront, Text.lastPiece, List.rtakeWhile, List.reverse_append,
    List.takeWhile_append_of_pos (by simpa using hall), List.reverse_concat,
    List.takeWhile_cons_of_neg (by simp), List.append_nil, List.reverse_reverse]

/-- SETUP finds the track of a URL with a base and a control value. -/
theorem rtspTrackFromUri_append (hquery : '?' ∉ base) (hfragment : '#' ∉ base)
    (hsegment : IsSegment segment) (advertised : Bool) :
    rtspTrackFromUri (base ++ (missingSlash base ++ segment)) advertised =
      if advertised && Text.eqIgnoreAsciiCase segment "trackID=0".toList then .video
      else .audio := by
  have hslash : '?' ∉ missingSlash base ∧ '#' ∉ missingSlash base := by
    rw [missingSlash]
    split <;> decide
  have hpiece : Text.firstPiece ['?', '#'] (base ++ (missingSlash base ++ segment)) = _ :=
    firstPiece_of_notMem (by simp [hquery, hslash, hsegment.query])
      (by simp [hfragment, hslash, hsegment.fragment])
  simp only [rtspTrackFromUri, hpiece, lastPiece_append hsegment]

theorem rtspTrackFromUri_of_nil (hne : uri ≠ []) (h : Text.firstPiece ['?', '#'] uri = [])
    (more : Text) (advertised : Bool) : rtspTrackFromUri (uri ++ more) advertised = .audio := by
  have hno : Text.eqIgnoreAsciiCase (Text.lastPiece '/' []) "trackID=0".toList = false := by
    decide +kernel
  rw [rtspTrackFromUri, firstPiece_append_of_nil hne h, hno, Bool.and_false]
  rfl

end TrackOfUrl

/-! ## The URLs of PLAY -/

/-- What `rtsp_rtp_info` puts in front of the track numbers. -/
def rtpInfoBase (uri : Text) : Text := (rtspContentBase uri).rdropWhile (· = '/')

/-- The URL of an entry. -/
def RtpInfo.url (base : Text) (info : RtpInfo) : Text :=
  base ++ "/trackID=".toList ++ Text.decimal info.trackId

theorem RtpInfo.text_eq (base : Text) (info : RtpInfo) : info.text base =
    "url=".toList ++ info.url base ++ ";seq=".toList ++ Text.decimal info.rtp.sequence.toNat ++
      ";rtptime=".toList ++ Text.decimal info.rtp.timestamp.toNat := by
  have hregroup : ∀ a b c d e f g h : Text, a ++ b ++ c ++ d ++ e ++ f ++ g ++ h =
      a ++ (b ++ c ++ d) ++ e ++ f ++ g ++ h := by
    intro a b c d e f g h
    simp only [List.append_assoc]
  exact hregroup _ _ _ _ _ _ _ _

section PlayUrl

variable {uri : Text}

theorem getLast?_append_missingSlash (base : Text) :
    (base ++ missingSlash base).getLast? = some '/' := by
  rw [missingSlash]
  split
  next h =>
    rw [List.append_nil]
    exact h
  next => exact List.getLast?_concat

/-- Nothing is missing from a base. -/
theorem rtspContentBase_idem (hne : uri ≠ []) :
    rtspContentBase (rtspContentBase uri) = rtspContentBase uri := by
  have hbase : baseUri (rtspContentBase uri) = rtspContentBase uri := by
    rw [rtspContentBase_eq]
    by_cases hpiece : Text.firstPiece ['?', '#'] uri = []
    · have huri : baseUri uri = uri := if_pos hpiece
      rw [huri]
      exact if_pos (firstPiece_append_of_nil hne hpiece _)
    · obtain ⟨hquery, hfragment⟩ := notMem_baseUri hpiece
      have hslash : '?' ∉ missingSlash (baseUri uri) ∧ '#' ∉ missingSlash (baseUri uri) := by
        rw [missingSlash]
        split <;> decide
      have hall : Text.firstPiece ['?', '#'] (baseUri uri ++ missingSlash (baseUri uri)) = _ :=
        firstPiece_of_notMem (by simp [hquery, hslash]) (by simp [hfragment, hslash])
      rw [baseUri, hall]
      simp
  rw [rtspContentBase_eq, hbase, missingSlash, if_pos, List.append_nil]
  rw [rtspContentBase_eq]
  exact getLast?_append_missingSlash _

/-- Taking the slashes off and adding one gives the base back, unless it ends in two. -/
theorem rdropWhile_append_slash (base : Text) :
    (base ++ missingSlash base).rdropWhile (· = '/') ++ ['/'] = base ++ missingSlash base ↔
      ¬ ['/', '/'] <:+ base := by
  by_cases hlast : base.getLast? = some '/'
  · obtain ⟨front, rfl⟩ := List.getLast?_eq_some_iff.mp hlast
    rw [missingSlash, if_pos hlast, List.append_nil, List.rdropWhile_concat_pos _ _ _ (by simp),
      List.append_cancel_right_eq, List.rdropWhile_eq_self_iff]
    constructor
    · rintro hfront ⟨rest, hrest⟩
      have htwo : rest ++ ['/'] ++ ['/'] = front ++ ['/'] := by
        rw [← hrest, List.append_assoc]
        rfl
      have heq := List.append_cancel_right htwo
      have hno := hfront (by rw [← heq]; simp)
      simp [← heq] at hno
    · intro hsuffix hne hend
      apply hsuffix
      obtain ⟨rest, c, rfl⟩ := (List.eq_nil_or_concat' front).resolve_left hne
      have hc : c = '/' := by simpa using hend
      exact ⟨rest, by simp [hc]⟩
  · rw [missingSlash, if_neg hlast, List.rdropWhile_concat_pos _ _ _ (by simp),
      List.append_cancel_right_eq, List.rdropWhile_eq_self_iff]
    constructor
    · rintro - ⟨rest, rfl⟩
      apply hlast
      simp
    · intro _ hne hend
      apply hlast
      rw [List.getLast?_eq_some_getLast hne]
      exact congrArg some (by simpa using hend)

/-- PLAY on the base writes the URLs that a client asked SETUP for. -/
theorem rtpInfo_url_iff (hne : uri ≠ []) (info : RtpInfo) :
    info.url (rtpInfoBase (rtspContentBase uri)) =
      rtspContentBase uri ++ controlValue info.trackId ↔ ¬ ['/', '/'] <:+ baseUri uri := by
  have hurl : info.url (rtpInfoBase (rtspContentBase uri)) =
      (rtspContentBase uri).rdropWhile (· = '/') ++ ['/'] ++ controlValue info.trackId := by
    have hslash : "/trackID=".toList = ['/'] ++ "trackID=".toList := by decide +kernel
    have hregroup : ∀ a b c d : Text, a ++ (b ++ c) ++ d = a ++ b ++ (c ++ d) := by
      intro a b c d
      simp only [List.append_assoc]
    rw [RtpInfo.url, rtpInfoBase, rtspContentBase_idem hne, hslash]
    exact hregroup _ _ _ _
  rw [hurl, List.append_cancel_right_eq, rtspContentBase_eq]
  exact rdropWhile_append_slash _

end PlayUrl

/-! ## The three answers -/

variable {θ ι : Type*}

namespace RtspSession

/-- The key that SETUP takes: the one of the URL, else the one of the session. -/
def setupKey (session : RtspSession ι) (uri : Text) : Option Text :=
  (keyFromRtspUri uri).or session.key

/-- An accepted SETUP selects the key and the track of its URL. -/
theorem setup_reply {config : RtspConfig} {request : RtspRequest} {state : RtspServer θ ι}
    {session : RtspSession ι} {track : RtspTrack} {channel : UInt8} {id : Text}
    (hmethod : request.rtspMethod = some .setup)
    (h : (session.setup config request state).reply = .setup track channel id) :
    track = rtspTrackFromUri request.uri session.videoAdvertised ∧
      (session.setup config request state).session.key = session.setupKey request.uri := by
  have heffect : RequestEffect config request state session (session.setup config request state) :=
    RequestEffect.of_setup hmethod
  generalize session.setup config request state = outcome at h heffect ⊢
  cases heffect with
  | @quiet reply _ hreply _ =>
    have hsetup : reply = .setup track channel id := h
    rw [hsetup] at hreply
    exact hreply.elim
  | setup hrequest hjoined =>
    obtain ⟨htrack, -, -⟩ := RtspReply.setup.inj h
    constructor
    · rw [← htrack]
      cases hjoined <;> rfl
    · rw [setupKey, hrequest.named]
      simp only [acceptSetup, setTrack]
      split <;> rfl
  | describe | start | resume | lostAudio => cases h

/-- The session takes a URL for a track of its stream and lists that URL for the track. -/
structure NamesTrack (session : RtspSession ι) (contentBase : Text) (track : RtspTrack)
    (control : Text) : Prop where
  key : session.setupKey (contentBase ++ control) = session.key
  selected : rtspTrackFromUri (contentBase ++ control) session.videoAdvertised = track
  rtpInfo : session.isSetup track = true → ∃ info ∈ session.rtpInfo,
    info.track = track ∧ info.url (rtpInfoBase contentBase) = contentBase ++ control

theorem describe_reply {config : RtspConfig} {request : RtspRequest} {state : RtspServer θ ι}
    {session : RtspSession ι} {contentBase sdp : Text}
    (h : (session.describe config request state).reply = .describe contentBase sdp) :
    ∃ key advertised, keyFromRtspUri request.uri = some key ∧ validHash key = true ∧
      contentBase = rtspContentBase request.uri ∧
      sdp = rtspSdp (if advertised then
        some (state.server.rtspVideoDescription config.placeholders key).2 else none) ∧
      (session.describe config request state).session =
        { session with key := some key, videoOmitted := !advertised } := by
  rw [describe] at h ⊢
  split at h
  next => cases h
  next key hkey =>
    simp only [] at h ⊢
    split at h
    next => cases h
    next hvalid =>
      obtain ⟨rfl, rfl⟩ := RtspReply.describe.inj h
      refine ⟨key, _, hkey, by simpa using hvalid, rfl, rfl, ?_⟩
      rw [if_neg hvalid]

end RtspSession

/-- The URIs whose tracks have one name each. -/
structure NamesTracks (uri : Text) (advertised : Bool) : Prop where
  key : keyFromRtspUri (baseUri uri) = keyFromRtspUri uri
  slashes : ¬ ['/', '/'] <:+ baseUri uri
  query : advertised = true → Text.firstPiece ['?', '#'] uri ≠ []

/-! ## Tracks of a description -/

/-- The sections of a description, with the numbers of their tracks. -/
def describedTracks (advertised : Bool) : List (RtspTrack × Nat) :=
  if advertised then [(.video, 0), (.audio, 1)] else [(.audio, 0)]

theorem mediaSections_rtspSdp {fmtp : Text} (h : '\n' ∉ fmtp) (advertised : Bool) :
    mediaSections (rtspSdp (if advertised then some fmtp else none)) =
      (describedTracks advertised).map (fun described =>
        ⟨described.1.media, some (controlValue described.2)⟩) := by
  cases advertised with
  | false => exact mediaSections_rtspSdp_none
  | true => exact mediaSections_rtspSdp_some h

section Described

variable {session : RtspSession ι} {described : RtspTrack × Nat} {advertised : Bool}

theorem describedTracks_le_one (h : described ∈ describedTracks advertised) :
    described.2 ≤ 1 := by
  have hall : ∀ advertised, ∀ described ∈ describedTracks advertised, described.2 ≤ 1 := by
    decide
  exact hall advertised described h

theorem track_of_controlValue (h : described ∈ describedTracks advertised) :
    (if advertised && Text.eqIgnoreAsciiCase (controlValue described.2) "trackID=0".toList then
      RtspTrack.video else .audio) = described.1 := by
  have hall : ∀ advertised, ∀ described ∈ describedTracks advertised,
      (if advertised && Text.eqIgnoreAsciiCase (controlValue described.2) "trackID=0".toList then
        RtspTrack.video else .audio) = described.1 := by
    decide +kernel
  exact hall advertised described h

/-- PLAY counts the tracks as the description does. -/
theorem rtpInfo_trackId {info : RtpInfo} (hinfo : info ∈ session.rtpInfo)
    (h : described ∈ describedTracks session.videoAdvertised) (htrack : info.track = described.1) :
    info.trackId = described.2 := by
  rw [RtspSession.rtpInfo, List.mem_append] at hinfo
  rw [describedTracks] at h
  obtain hvideo | haudio := hinfo
  · split at hvideo
    next =>
      obtain rfl := List.mem_singleton.mp hvideo
      split at h
      next =>
        obtain rfl | h := List.mem_cons.mp h
        · rfl
        · rw [List.mem_singleton.mp h] at htrack
          cases htrack
      next =>
        rw [List.mem_singleton.mp h] at htrack
        cases htrack
    next => cases hvideo
  · split at haudio
    next =>
      obtain rfl := List.mem_singleton.mp haudio
      split at h
      next hadvertised =>
        obtain rfl | h := List.mem_cons.mp h
        · cases htrack
        · rw [List.mem_singleton.mp h, hadvertised]
          rfl
      next hadvertised =>
        rw [List.mem_singleton.mp h, Bool.eq_false_of_not_eq_true hadvertised]
        rfl
    next => cases haudio

theorem exists_rtpInfo {track : RtspTrack} (h : session.isSetup track = true) :
    ∃ info ∈ session.rtpInfo, info.track = track := by
  cases track with
  | video =>
    have hsetup : session.videoSetup = true := h
    exact ⟨⟨.video, 0, session.videoRtp⟩, by simp [RtspSession.rtpInfo, hsetup], rfl⟩
  | audio =>
    have hsetup : session.audioSetup = true := h
    exact ⟨⟨.audio, session.videoAdvertised.toNat, session.audioRtp⟩,
      by simp [RtspSession.rtpInfo, hsetup], rfl⟩

end Described

/-- A control value is shorter than a key. -/
theorem controlValue_ne_key {trackId : Nat} {key : Text} (h : trackId ≤ 1)
    (hvalid : validHash key = true) : controlValue trackId ≠ key := by
  have hshort : ∀ trackId ≤ 1, (controlValue trackId).length = 9 := by decide +kernel
  rintro rfl
  simp only [validHash, Bool.and_eq_true, beq_iff_eq, hshort trackId h] at hvalid
  exact absurd hvalid.1 (by decide)

/-- A URI with one name for each track gives them to every session it was described to. -/
theorem NamesTracks.namesTrack {uri key : Text} {session : RtspSession ι}
    {described : RtspTrack × Nat} (hnames : NamesTracks uri session.videoAdvertised)
    (hkey : keyFromRtspUri uri = some key) (hsession : session.key = some key)
    (h : described ∈ describedTracks session.videoAdvertised) (hne : uri ≠ []) :
    session.NamesTrack (rtspContentBase uri) described.1 (controlValue described.2) := by
  have hsegment := isSegment_controlValue (describedTracks_le_one h)
  have hurl : rtspContentBase uri ++ controlValue described.2 =
      baseUri uri ++ (missingSlash (baseUri uri) ++ controlValue described.2) := by
    rw [rtspContentBase_eq, List.append_assoc]
  constructor
  · rw [RtspSession.setupKey, hurl, keyFromRtspUri_append hsegment (hnames.key.trans hkey),
      hsession]
    rfl
  · rw [hurl, ← track_of_controlValue h]
    by_cases hpiece : Text.firstPiece ['?', '#'] uri = []
    · have hno : session.videoAdvertised = false := by
        by_contra hadvertised
        exact hnames.query (by simpa using hadvertised) hpiece
      rw [hno]
      rfl
    · obtain ⟨hquery, hfragment⟩ := notMem_baseUri hpiece
      exact rtspTrackFromUri_append hquery hfragment hsegment _
  · intro hsetup
    obtain ⟨info, hinfo, htrack⟩ := exists_rtpInfo hsetup
    refine ⟨info, hinfo, htrack, ?_⟩
    rw [← rtpInfo_trackId hinfo h htrack]
    exact (rtpInfo_url_iff hne info).mpr hnames.slashes

/-- One session that names both tracks is enough. -/
theorem namesTracks_of_namesTrack {uri key : Text} {session : RtspSession ι}
    (hkey : keyFromRtspUri uri = some key) (hvalid : validHash key = true)
    (hsession : session.key = some key) (hne : uri ≠ [])
    (hsetup : ∀ track, session.isSetup track = true)
    (h : ∀ described ∈ describedTracks session.videoAdvertised,
      session.NamesTrack (rtspContentBase uri) described.1 (controlValue described.2)) :
    NamesTracks uri session.videoAdvertised := by
  obtain ⟨audio, haudio⟩ : ∃ trackId, (RtspTrack.audio, trackId) ∈
      describedTracks session.videoAdvertised := by
    cases session.videoAdvertised <;> simp [describedTracks]
  have hslashes : ¬ ['/', '/'] <:+ baseUri uri := by
    obtain ⟨info, hinfo, htrack, hurl⟩ := (h _ haudio).rtpInfo (hsetup .audio)
    rw [← rtpInfo_trackId hinfo haudio htrack] at hurl
    exact (rtpInfo_url_iff hne info).mp hurl
  refine ⟨?_, hslashes, ?_⟩
  · by_cases hpiece : Text.firstPiece ['?', '#'] uri = []
    · rw [baseUri, if_pos hpiece]
    · -- the key of the track's URL is that of the base, or the control value without one
      obtain ⟨hquery, hfragment⟩ := notMem_baseUri hpiece
      have hle := describedTracks_le_one haudio
      have hurl := (h _ haudio).key
      rw [RtspSession.setupKey, rtspContentBase_eq, List.append_assoc, hsession] at hurl
      cases hbase : keyFromRtspUri (baseUri uri) with
      | some other =>
        rw [keyFromRtspUri_append (isSegment_controlValue hle) hbase] at hurl
        rw [hkey]
        exact hurl
      | none =>
        rw [keyFromRtspUri_append_of_none (isSegment_controlValue hle) (baseUri_ne_nil hne) hquery
          hfragment hslashes hbase] at hurl
        exact absurd (Option.some.inj hurl) (controlValue_ne_key hle hvalid)
  · intro hadvertised hpiece
    have hvideo : (RtspTrack.video, 0) ∈ describedTracks session.videoAdvertised := by
      rw [hadvertised]
      exact List.mem_cons_self
    have hselected := (h _ hvideo).selected
    have hbase : baseUri uri = uri := if_pos hpiece
    rw [rtspContentBase_eq, List.append_assoc, hbase, rtspTrackFromUri_of_nil hne hpiece]
      at hselected
    cases hselected

/-- A small server whose placeholder videos have parameters. -/
def RtspConfig.withParameters : RtspConfig :=
  let fmtp := h264SdpFmtp [0, 0, 0, 1, 0x67, 0x42, 0xe0, 0x1f, 0, 0, 1, 0x68, 0xce, 0x3c, 0x80]
  ⟨⟨2, 2, 2⟩, ⟨fmtp.toOption.getD [], fmtp.toOption.getD []⟩⟩

/-- DESCRIBE for a path. -/
def RtspRequest.describing (path : Text) : RtspRequest :=
  ⟨RtspMethod.describe.text, "rtsp://host/".toList ++ path, []⟩

/-- The tracks that DESCRIBE names are the ones that SETUP takes and PLAY lists, for the URIs
that all of them cut alike. -/
theorem describe_names_tracks {config : RtspConfig} {request : RtspRequest}
    {state : RtspServer θ ι} {session : RtspSession ι} {contentBase sdp : Text}
    (hfmtp : ∀ key, ∃ accessUnit, h264SdpFmtp accessUnit =
      .ok (state.server.rtspVideoDescription config.placeholders key).2)
    (h : (session.describe config request state).reply = .describe contentBase sdp) :
    (∀ later : RtspSession ι,
      later.key = (session.describe config request state).session.key →
      later.videoAdvertised = (session.describe config request state).session.videoAdvertised →
      ∀ part ∈ mediaSections sdp, ∃ track control, part.media = track.media ∧
        part.control = some control ∧ later.NamesTrack contentBase track control) ↔
    NamesTracks request.uri (session.describe config request state).session.videoAdvertised := by
  obtain ⟨key, advertised, hkey, hvalid, rfl, rfl, hsession⟩ := RtspSession.describe_reply h
  obtain ⟨accessUnit, hok⟩ := hfmtp key
  rw [mediaSections_rtspSdp (newline_notMem_fmtp hok), hsession]
  have hadvertised : RtspSession.videoAdvertised
      { session with key := some key, videoOmitted := !advertised } = advertised :=
    Bool.not_not advertised
  rw [hadvertised]
  have hne : request.uri ≠ [] := by
    intro hnil
    have hnone : keyFromRtspUri [] = none := by decide
    rw [hnil, hnone] at hkey
    cases hkey
  constructor
  · intro hall
    let later : RtspSession ι :=
      { key := some key, videoOmitted := !advertised, audioSetup := true, videoSetup := true }
    have hlater : later.videoAdvertised = advertised := Bool.not_not advertised
    have hsetup : ∀ track, later.isSetup track = true := by
      intro track
      cases track <;> rfl
    rw [← hlater]
    apply namesTracks_of_namesTrack hkey hvalid rfl hne hsetup
    · intro described hmem
      rw [hlater] at hmem
      obtain ⟨track, control, hmedia, hcontrol, hnames⟩ :=
        hall later rfl hlater _ (List.mem_map_of_mem hmem)
      obtain rfl := Option.some.inj hcontrol
      obtain rfl := RtspTrack.media_injective hmedia
      exact hnames
  · intro hnames later hlater hsame part hpart
    obtain ⟨described, hmem, rfl⟩ := List.mem_map.mp hpart
    rw [← hsame] at hnames hmem
    exact ⟨described.1, _, rfl, rfl, hnames.namesTrack hkey hlater hmem hne⟩

theorem describe_names_tracks_small :
    let state : RtspServer Nat Nat := ⟨Server.start ∅, 1⟩
    let request := RtspRequest.describing (List.replicate 32 '7')
    let outcome := RtspSession.describe .withParameters request state {}
    (∀ later : RtspSession Nat, later.key = outcome.session.key →
      later.videoAdvertised = outcome.session.videoAdvertised →
      ∀ part ∈ mediaSections (outcome.reply.body.getD []), ∃ track control,
        part.media = track.media ∧ part.control = some control ∧
          later.NamesTrack (request.uri ++ ['/']) track control) ↔
    NamesTracks request.uri true := by
  apply describe_names_tracks
  · intro key
    refine ⟨[0, 0, 0, 1, 0x67, 0x42, 0xe0, 0x1f, 0, 0, 1, 0x68, 0xce, 0x3c, 0x80], ?_⟩
    show _ = Except.ok RtspConfig.withParameters.placeholders.offlineFmtp
    decide +kernel
  · decide +kernel

/-- Behind two slashes at the end PLAY lists another URL than the one that SETUP was asked for. -/
theorem describe_names_other_track :
    let state : RtspServer Nat Nat := ⟨Server.start ∅, 1⟩
    let request := RtspRequest.describing (List.replicate 32 '7' ++ "//".toList)
    let outcome := RtspSession.describe .withParameters request state {}
    outcome.reply = .describe request.uri (outcome.reply.body.getD []) ∧
    ¬ ∀ later : RtspSession Nat, later.key = outcome.session.key →
      later.videoAdvertised = outcome.session.videoAdvertised →
      ∀ part ∈ mediaSections (outcome.reply.body.getD []), ∃ track control,
        part.media = track.media ∧ part.control = some control ∧
          later.NamesTrack request.uri track control := by
  intro state request outcome
  refine ⟨by decide +kernel, ?_⟩
  intro hall
  let later : RtspSession Nat := { key := some (List.replicate 32 '7'), audioSetup := true }
  have haudio : ⟨RtspTrack.audio.media, some (controlValue 1)⟩ ∈
      mediaSections (outcome.reply.body.getD []) := by decide +kernel
  obtain ⟨track, control, hmedia, hcontrol, hnames⟩ :=
    hall later (by decide +kernel) (by decide +kernel) _ haudio
  have htrack : RtspTrack.audio = track := RtspTrack.media_injective hmedia
  obtain rfl := Option.some.inj hcontrol
  subst htrack
  obtain ⟨info, hinfo, -, hurl⟩ := hnames.rtpInfo rfl
  have hother : ∀ info ∈ later.rtpInfo,
      info.url (rtpInfoBase request.uri) ≠ request.uri ++ controlValue 1 := by decide +kernel
  exact hother info hinfo hurl

end VRCStreamer
