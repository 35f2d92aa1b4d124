import VRCStreamer.Text.Numerals

/-!
# Video presets of the server

`parse_video_qualities` of `main.rs`, the form in which `VideoQuality` is shown, and the command of
`websocket.rs` that selects a preset by its position. What the parser accepts is a short list
without repetition, and it reads the list back from its shown form.
-/

namespace VRCStreamer

open Text

structure VideoQuality where
  width : UInt16
  height : UInt16
  fps : UInt16
  bitrateKbps : UInt32
  deriving DecidableEq, Repr

def MAX_VIDEO_QUALITIES : Nat := 32

namespace Text

/-- `split_once` at the first of several characters. -/
def splitOnceAny (separators : Text) : Text → Option (Text × Text)
  | [] => none
  | c :: text =>
    if c ∈ separators then some ([], text)
    else (splitOnceAny separators text).map (fun parts => (c :: parts.1, parts.2))

/-- The first character at which the parser of an integer stops, after a sign. -/
def parseIntReason (bound : Nat) (value : Nat) : Text → Text
  | [] => "invalid digit found in string".toList
  | c :: text =>
    let next := 10 * value + (c.toNat - '0'.toNat)
    if c.isDigit = false then "invalid digit found in string".toList
    else if bound ≤ next then "number too large to fit in target type".toList
    else parseIntReason bound next text

/-- What `ParseIntError` shows for a text that is no number below the bound. -/
def parseIntError (bound : Nat) (text : Text) : Text :=
  if text = [] then "cannot parse integer from empty string".toList
  else parseIntReason bound 0 (if text.head? = some '+' then text.tail else text)

end Text

/-- `parse_nonzero` at an unsigned type with values below the bound. -/
def parseNonzero (bound : Nat) (value preset : Text) : Except Text Nat :=
  match parseUnsigned bound (trim value) with
  | none => .error (parseIntError bound (trim value))
  | some parsed =>
    if parsed = 0 then
      .error ("zero value in AVAILABLE_VIDEO_QUALITY preset: ".toList ++ preset)
    else .ok parsed

namespace VideoQuality

/-- `Display`. -/
def display (quality : VideoQuality) : Text :=
  decimal quality.width.toNat ++ 'x' :: (decimal quality.height.toNat ++ '*' ::
    (decimal quality.fps.toNat ++ '/' :: decimal quality.bitrateKbps.toNat))

/-- One round of the loop of `parse_video_qualities`, up to the test for duplicates. -/
def parse (entry : Text) : Except Text VideoQuality :=
  let invalid : Except Text VideoQuality :=
    .error ("invalid AVAILABLE_VIDEO_QUALITY preset: ".toList ++ entry)
  match splitOnce ['/'] entry with
  | none => invalid
  | some (sizeAndFps, bitrate) =>
    match splitOnce ['*'] sizeAndFps with
    | none => invalid
    | some (size, fps) =>
      match splitOnceAny ['x', 'X'] size with
      | none => invalid
      | some (width, height) => do
        let width ← parseNonzero (2 ^ 16) width entry
        let height ← parseNonzero (2 ^ 16) height entry
        let fps ← parseNonzero (2 ^ 16) fps entry
        let bitrateKbps ← parseNonzero (2 ^ 32) bitrate entry
        return ⟨UInt16.ofNat width, UInt16.ofNat height, UInt16.ofNat fps,
          UInt32.ofNat bitrateKbps⟩

/-- A preset that the parser can return. -/
structure Positive (quality : VideoQuality) : Prop where
  width : quality.width ≠ 0
  height : quality.height ≠ 0
  fps : quality.fps ≠ 0
  bitrateKbps : quality.bitrateKbps ≠ 0

end VideoQuality

/-- The loop over the entries. -/
def readQualities (qualities : List VideoQuality) : List Text → Except Text (List VideoQuality)
  | [] => .ok qualities
  | entry :: entries =>
    if MAX_VIDEO_QUALITIES ≤ qualities.length then
      .error ("AVAILABLE_VIDEO_QUALITY supports at most ".toList ++ decimal MAX_VIDEO_QUALITIES ++
        " presets".toList)
    else
      match VideoQuality.parse entry with
      | .error reason => .error reason
      | .ok quality =>
        if quality ∈ qualities then
          .error ("duplicate AVAILABLE_VIDEO_QUALITY preset: ".toList ++ entry)
        else readQualities (qualities ++ [quality]) entries

def parseVideoQualities (value : Text) : Except Text (List VideoQuality) :=
  match readQualities [] (((value.splitOn ',').map trim).filter (fun entry => entry ≠ [])) with
  | .error reason => .error reason
  | .ok [] => .error "AVAILABLE_VIDEO_QUALITY must contain at least one preset".toList
  | .ok qualities => .ok qualities

/-! ## Commands -/

inductive StreamerTextCommand
  | forceResync
  | videoStart
  | videoStop
  | videoReset
  | videoQuality (index : Nat)
  deriving DecidableEq, Repr

def videoQualityTag : Text := "video_quality:".toList

def streamerTextCommand (text : Text) : Option StreamerTextCommand :=
  let text := trim text
  if eqIgnoreAsciiCase text "force_resync".toList then some .forceResync
  else if eqIgnoreAsciiCase text "video_start".toList then some .videoStart
  else if eqIgnoreAsciiCase text "video_stop".toList then some .videoStop
  else if eqIgnoreAsciiCase text "video_reset".toList then some .videoReset
  else if videoQualityTag <+: text then
    (parseUsize (text.drop videoQualityTag.length)).map .videoQuality
  else none

/-! ## What is accepted -/

theorem parseUnsigned_lt {bound parsed : Nat} {text : Text}
    (h : parseUnsigned bound text = some parsed) : parsed < bound := by
  obtain ⟨hvalid, hparsed⟩ := Option.ite_none_right_eq_some.mp h
  exact Option.some.inj hparsed ▸ hvalid.2.2

theorem parseNonzero_eq_ok {bound parsed : Nat} {value preset : Text}
    (h : parseNonzero bound value preset = .ok parsed) : parsed ≠ 0 ∧ parsed < bound := by
  rw [parseNonzero] at h
  split at h
  next => cases h
  next number hnumber =>
    split at h
    next => cases h
    next hzero =>
      cases h
      exact ⟨hzero, parseUnsigned_lt hnumber⟩

theorem exists_of_bind_eq_ok {ε α β : Type} {outcome : Except ε α} {f : α → Except ε β} {b : β}
    (h : outcome >>= f = .ok b) : ∃ a, outcome = .ok a ∧ f a = .ok b :=
  match outcome, h with
  | .ok a, h => ⟨a, rfl, h⟩

theorem ofNat_ne_zero16 {n : Nat} (hne : n ≠ 0) (hlt : n < 2 ^ 16) : UInt16.ofNat n ≠ 0 := by
  intro heq
  have hvalue := congrArg UInt16.toNat heq
  rw [UInt16.toNat_ofNat', Nat.mod_eq_of_lt hlt] at hvalue
  exact hne hvalue

theorem ofNat_ne_zero32 {n : Nat} (hne : n ≠ 0) (hlt : n < 2 ^ 32) : UInt32.ofNat n ≠ 0 := by
  intro heq
  have hvalue := congrArg UInt32.toNat heq
  rw [UInt32.toNat_ofNat', Nat.mod_eq_of_lt hlt] at hvalue
  exact hne hvalue

namespace VideoQuality

variable {entry : Text} {quality : VideoQuality}

theorem parse_positive (h : parse entry = .ok quality) : quality.Positive := by
  rw [parse] at h
  split at h
  next => cases h
  next =>
    split at h
    next => cases h
    next =>
      split at h
      next => cases h
      next =>
        obtain ⟨width, hwidth, h⟩ := exists_of_bind_eq_ok h
        obtain ⟨height, hheight, h⟩ := exists_of_bind_eq_ok h
        obtain ⟨fps, hfps, h⟩ := exists_of_bind_eq_ok h
        obtain ⟨bitrateKbps, hbitrate, h⟩ := exists_of_bind_eq_ok h
        cases h
        obtain ⟨hwidth, hwidth'⟩ := parseNonzero_eq_ok hwidth
        obtain ⟨hheight, hheight'⟩ := parseNonzero_eq_ok hheight
        obtain ⟨hfps, hfps'⟩ := parseNonzero_eq_ok hfps
        obtain ⟨hbitrate, hbitrate'⟩ := parseNonzero_eq_ok hbitrate
        exact ⟨ofNat_ne_zero16 hwidth hwidth', ofNat_ne_zero16 hheight hheight',
          ofNat_ne_zero16 hfps hfps', ofNat_ne_zero32 hbitrate hbitrate'⟩

/-! ## The shown form -/

/-- A character of a shown preset is a digit or one of the three separators. -/
theorem mem_display {c : Char} (h : c ∈ quality.display) :
    c.isDigit = true ∨ c = 'x' ∨ c = '*' ∨ c = '/' := by
  simp only [display, List.mem_append, List.mem_cons] at h
  obtain h | rfl | h | rfl | h | rfl | h := h
  · exact .inl (isDigit_of_mem_decimal h)
  · exact .inr (.inl rfl)
  · exact .inl (isDigit_of_mem_decimal h)
  · exact .inr (.inr (.inl rfl))
  · exact .inl (isDigit_of_mem_decimal h)
  · exact .inr (.inr (.inr rfl))
  · exact .inl (isDigit_of_mem_decimal h)

theorem not_mem_display {c : Char} (hdigit : c.isDigit = false) (hx : c ≠ 'x') (hstar : c ≠ '*')
    (hslash : c ≠ '/') : c ∉ quality.display := by
  intro hmem
  obtain h | h | h | h := mem_display hmem
  · exact Bool.false_ne_true (hdigit.symm.trans h)
  · exact hx h
  · exact hstar h
  · exact hslash h

theorem display_ne_nil (quality : VideoQuality) : quality.display ≠ [] := by
  intro hnil
  exact decimal_ne_nil _ (List.append_eq_nil_iff.mp hnil).1

theorem trim_display (quality : VideoQuality) : trim quality.display = quality.display := by
  apply trim_of_solid
  intro c hc
  obtain h | rfl | rfl | rfl := mem_display hc
  · exact isWhitespace_of_isDigit h
  all_goals decide

theorem not_mem_decimal {c : Char} (h : c.isDigit = false) (n : Nat) : c ∉ decimal n := by
  intro hmem
  exact Bool.false_ne_true (h.symm.trans (isDigit_of_mem_decimal hmem))

theorem splitOnceAny_decimal (n : Nat) (rest : Text) :
    splitOnceAny ['x', 'X'] (decimal n ++ 'x' :: rest) = some (decimal n, rest) := by
  have hdigits : ∀ c ∈ decimal n, c.isDigit = true := fun _ => isDigit_of_mem_decimal
  generalize decimal n = digits at hdigits ⊢
  induction digits with
  | nil => exact if_pos (by decide)
  | cons first digits ih =>
    obtain ⟨hfirst, hdigits⟩ := List.forall_mem_cons.mp hdigits
    have hother : first ∉ ['x', 'X'] := by
      rintro hmem
      obtain rfl | rfl : first = 'x' ∨ first = 'X' := by simpa using hmem
      all_goals exact absurd hfirst (by decide)
    rw [List.cons_append, splitOnceAny, if_neg hother, ih hdigits]
    rfl

theorem parseNonzero_decimal {bound n : Nat} (hne : n ≠ 0) (hlt : n < bound) (preset : Text) :
    parseNonzero bound (decimal n) preset = .ok n := by
  have htrim : trim (decimal n) = decimal n :=
    trim_of_solid fun c hc => isWhitespace_of_isDigit (isDigit_of_mem_decimal hc)
  rw [parseNonzero, htrim, parseUnsigned_decimal hlt]
  exact if_neg hne

/-- The parser reads a preset back from its shown form. -/
theorem parse_display (h : quality.Positive) : parse quality.display = .ok quality := by
  obtain ⟨width, height, fps, bitrateKbps⟩ := quality
  obtain ⟨hwidth, hheight, hfps, hbitrate⟩ := h
  have hbitrateSplit : splitOnce ['/'] (display ⟨width, height, fps, bitrateKbps⟩) =
      some (decimal width.toNat ++ 'x' :: (decimal height.toNat ++ '*' :: decimal fps.toNat),
        decimal bitrateKbps.toNat) := by
    have hslash : '/' ∉ decimal width.toNat ++ 'x' ::
        (decimal height.toNat ++ '*' :: decimal fps.toNat) := by
      simp [not_mem_decimal]
    have hsplit := splitOnce_append hslash (decimal bitrateKbps.toNat)
    simpa [display] using hsplit
  have hfpsSplit : splitOnce ['*'] (decimal width.toNat ++ 'x' :: (decimal height.toNat ++
      '*' :: decimal fps.toNat)) =
      some (decimal width.toNat ++ 'x' :: decimal height.toNat, decimal fps.toNat) := by
    have hstar : '*' ∉ decimal width.toNat ++ 'x' :: decimal height.toNat := by
      simp [not_mem_decimal]
    have hsplit := splitOnce_append hstar (decimal fps.toNat)
    simpa using hsplit
  have hsize := splitOnceAny_decimal width.toNat (decimal height.toNat)
  have hpositive16 : ∀ n : UInt16, n ≠ 0 → n.toNat ≠ 0 :=
    fun n hne heq => hne (UInt16.toNat_inj.mp heq)
  have hpositive32 : bitrateKbps.toNat ≠ 0 := fun heq => hbitrate (UInt32.toNat_inj.mp heq)
  simp only [parse, hbitrateSplit, hfpsSplit, hsize,
    parseNonzero_decimal (hpositive16 width hwidth) width.toNat_lt,
    parseNonzero_decimal (hpositive16 height hheight) height.toNat_lt,
    parseNonzero_decimal (hpositive16 fps hfps) fps.toNat_lt,
    parseNonzero_decimal hpositive32 bitrateKbps.toNat_lt]
  show Except.ok (ε := Text) (⟨UInt16.ofNat width.toNat, UInt16.ofNat height.toNat,
    UInt16.ofNat fps.toNat, UInt32.ofNat bitrateKbps.toNat⟩ : VideoQuality) = _
  rw [UInt16.ofNat_toNat, UInt16.ofNat_toNat, UInt16.ofNat_toNat, UInt32.ofNat_toNat]

end VideoQuality

/-! ## Accepted lists -/

/-- The lists that the parser returns. -/
structure Presets (qualities : List VideoQuality) : Prop where
  length_le : qualities.length ≤ MAX_VIDEO_QUALITIES
  nodup : qualities.Nodup
  positive : ∀ quality ∈ qualities, quality.Positive

theorem Presets.nil : Presets [] :=
  ⟨Nat.zero_le _, List.nodup_nil, List.forall_mem_nil _⟩

theorem Presets.concat {qualities : List VideoQuality} {quality : VideoQuality}
    (h : Presets qualities) (hlength : qualities.length < MAX_VIDEO_QUALITIES)
    (hnew : quality ∉ qualities) (hpositive : quality.Positive) :
    Presets (qualities ++ [quality]) where
  length_le := by
    rw [List.length_append]
    exact hlength
  nodup := List.nodup_append.mpr ⟨h.nodup, List.pairwise_singleton _ quality, by
    intro other hother added hadded
    rw [List.mem_singleton.mp hadded]
    exact fun heq => hnew (heq ▸ hother)⟩
  positive := List.forall_mem_append.mpr ⟨h.positive, List.forall_mem_singleton.mpr hpositive⟩

theorem readQualities_presets {qualities result : List VideoQuality} {entries : List Text}
    (hpresets : Presets qualities) (h : readQualities qualities entries = .ok result) :
    Presets result := by
  induction entries generalizing qualities with
  | nil =>
    cases h
    exact hpresets
  | cons entry entries ih =>
    rw [readQualities] at h
    split at h
    next => cases h
    next hlength =>
      split at h
      next => cases h
      next quality hquality =>
        split at h
        next => cases h
        next hnew =>
          exact ih (hpresets.concat (Nat.lt_of_not_le hlength) hnew
            (VideoQuality.parse_positive hquality)) h

/-- The loop takes a list of presets over from its shown form. -/
theorem readQualities_display (front : List VideoQuality) {qualities : List VideoQuality}
    (h : Presets (front ++ qualities)) :
    readQualities front (qualities.map VideoQuality.display) = .ok (front ++ qualities) := by
  induction qualities generalizing front with
  | nil => rw [List.append_nil, List.map_nil, readQualities]
  | cons quality qualities ih =>
    have hlength : ¬ MAX_VIDEO_QUALITIES ≤ front.length := by
      have := h.length_le
      rw [List.length_append, List.length_cons] at this
      omega
    have hpositive : quality.Positive := h.positive quality (by simp)
    have hnew : quality ∉ front := by
      intro hmem
      exact (List.nodup_append.mp h.nodup).2.2 quality hmem quality List.mem_cons_self rfl
    have happend : front ++ [quality] ++ qualities = front ++ quality :: qualities := by simp
    rw [List.map_cons, readQualities, if_neg hlength, VideoQuality.parse_display hpositive]
    dsimp only
    rw [if_neg hnew, ih (front ++ [quality]) (happend ▸ h), happend]

theorem parseVideoQualities_presets {value : Text} {qualities : List VideoQuality}
    (h : parseVideoQualities value = .ok qualities) : Presets qualities ∧ qualities ≠ [] := by
  rw [parseVideoQualities] at h
  split at h
  next => cases h
  next => cases h
  next list hne hread =>
    cases h
    exact ⟨readQualities_presets .nil hread, hne⟩

/-- The shown forms, joined with commas. -/
def showQualities (qualities : List VideoQuality) : Text :=
  [','].intercalate (qualities.map VideoQuality.display)

theorem parseVideoQualities_show {qualities : List VideoQuality} (h : Presets qualities)
    (hne : qualities ≠ []) : parseVideoQualities (showQualities qualities) = .ok qualities := by
  have hsplit : (showQualities qualities).splitOn ',' = qualities.map VideoQuality.display := by
    apply List.splitOn_intercalate
    · intro shown hshown
      obtain ⟨quality, -, rfl⟩ := List.mem_map.mp hshown
      exact VideoQuality.not_mem_display (by decide) (by decide) (by decide) (by decide)
    · simpa using hne
  have htrim : (qualities.map VideoQuality.display).map trim =
      qualities.map VideoQuality.display := by
    rw [List.map_map]
    exact List.map_congr_left fun quality _ => quality.trim_display
  have hkept : (qualities.map VideoQuality.display).filter (fun entry => entry ≠ []) =
      qualities.map VideoQuality.display := by
    rw [List.filter_eq_self]
    intro shown hshown
    obtain ⟨quality, -, rfl⟩ := List.mem_map.mp hshown
    exact decide_eq_true quality.display_ne_nil
  have hread : readQualities [] (qualities.map VideoQuality.display) = .ok qualities :=
    readQualities_display [] h
  rw [parseVideoQualities, hsplit, htrim, hkept, hread]
  obtain ⟨first, rest, rfl⟩ := List.exists_cons_of_ne_nil hne
  rfl

/-! ## The command of a client -/

theorem videoQualityTag_eq : videoQualityTag =
    ['v', 'i', 'd', 'e', 'o', '_', 'q', 'u', 'a', 'l', 'i', 't', 'y', ':'] := by
  rfl

/-- The other commands differ from it within seven characters. -/
theorem eqIgnoreAsciiCase_videoQualityTag (rest : Text) :
    ∀ name ∈ ["force_resync".toList, "video_start".toList, "video_stop".toList,
      "video_reset".toList], eqIgnoreAsciiCase (videoQualityTag ++ rest) name = false := by
  intro name hname
  have hother : (toAsciiLowercase videoQualityTag).take 7 ≠ (toAsciiLowercase name).take 7 := by
    revert hname name
    decide +kernel
  have hlong : 7 ≤ (toAsciiLowercase videoQualityTag).length := by
    rw [videoQualityTag_eq]
    decide
  apply decide_eq_false
  intro heq
  apply hother
  rw [← heq]
  exact ((congrArg (List.take 7) List.map_append).trans
    (List.take_append_of_le_length hlong)).symm

theorem streamerTextCommand_videoQuality {index : Nat} (h : index < 2 ^ 64) :
    streamerTextCommand (videoQualityTag ++ decimal index) = some (.videoQuality index) := by
  have htag : ∀ c ∈ videoQualityTag, isWhitespace c = false := by
    rw [videoQualityTag_eq]
    simp [isWhitespace]
  have htrim : trim (videoQualityTag ++ decimal index) = videoQualityTag ++ decimal index :=
    trim_of_solid (List.forall_mem_append.mpr
      ⟨htag, fun c hc => isWhitespace_of_isDigit (isDigit_of_mem_decimal hc)⟩)
  have hother := eqIgnoreAsciiCase_videoQualityTag (decimal index)
  simp only [List.forall_mem_cons] at hother
  obtain ⟨hresync, hstart, hstop, hreset, -⟩ := hother
  simp only [streamerTextCommand, htrim, hresync, hstart, hstop, hreset]
  rw [if_neg Bool.false_ne_true, if_neg Bool.false_ne_true, if_neg Bool.false_ne_true,
    if_neg Bool.false_ne_true, if_pos (List.prefix_append _ _), List.drop_left, parseUsize,
    parseUnsigned_decimal h]
  rfl

end VRCStreamer
