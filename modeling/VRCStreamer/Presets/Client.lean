import VRCStreamer.Presets.Server

/-!
# Video presets of the client

`normalizeVideoQuality`, `setVideoQualities` and `selectedVideoQuality` of `client.js`. The client
numbers the entries of the list that the server shows and skips what it cannot read or has seen.
For a list that the server accepted it skips nothing, so both number the presets alike.
-/

namespace VRCStreamer

open Text

/-! ## The page -/

structure ClientQuality where
  id : Text
  index : Nat
  width : Nat
  height : Nat
  fps : Nat
  bitrateKbps : Nat
  bitrate : Nat
  deriving DecidableEq, Repr

/-- White space and line ends of ECMAScript. -/
def isJsWhitespace (c : Char) : Bool :=
  let code := c.toNat
  (0x9 ≤ code && code ≤ 0xD) || code == 0x20 || code == 0xA0 || code == 0x1680 ||
    (0x2000 ≤ code && code ≤ 0x200A) || code == 0x2028 || code == 0x2029 || code == 0x202F ||
    code == 0x205F || code == 0x3000 || code == 0xFEFF

def jsTrim (text : Text) : Text := (text.dropWhile isJsWhitespace).rdropWhile isJsWhitespace

/-- `(\d+)` and one of the separators behind it. -/
def digitsBefore (separators : Text) (text : Text) : Option (Text × Text) :=
  match text.takeWhile Char.isDigit, text.dropWhile Char.isDigit with
  | first :: digits, c :: rest => if c ∈ separators then some (first :: digits, rest) else none
  | _, _ => none

/-- The groups of `/^(\d+)x(\d+)\*(\d+)\/(\d+)$/i`. -/
def matchVideoQuality (text : Text) : Option (Text × Text × Text × Text) := do
  let (width, rest) ← digitsBefore ['x', 'X'] text
  let (height, rest) ← digitsBefore ['*'] rest
  let (fps, bitrateKbps) ← digitsBefore ['/'] rest
  if bitrateKbps ≠ [] ∧ bitrateKbps.all Char.isDigit then
    some (width, height, fps, bitrateKbps)
  else none

/-- The value is absent if it is no string. A number too large to be exact fails the range test
either way. -/
def normalizeVideoQuality (value : Option Text) (index : Nat) : Option ClientQuality :=
  match value.bind (fun text => matchVideoQuality (jsTrim text)) with
  | none => none
  | some (width, height, fps, bitrateKbps) =>
    let width := numeral width
    let height := numeral height
    let fps := numeral fps
    let bitrateKbps := numeral bitrateKbps
    if width < 1 ∨ 65535 < width ∨ height < 1 ∨ 65535 < height ∨ fps < 1 ∨ 65535 < fps ∨
        bitrateKbps < 1 ∨ 4294967295 < bitrateKbps then none
    else
      some
        { id := decimal width ++ 'x' :: (decimal height ++ '*' ::
            (decimal fps ++ '/' :: decimal bitrateKbps))
          index, width, height, fps, bitrateKbps
          bitrate := bitrateKbps * 1000 }

/-- The loop of `setVideoQualities`; `seen` are the ids in `next`. -/
def collectQualities (seen : List Text) (next : List ClientQuality) (index : Nat) :
    List (Option Text) → List ClientQuality
  | [] => next
  | value :: values =>
    match normalizeVideoQuality value index with
    | none => collectQualities seen next (index + 1) values
    | some quality =>
      if quality.id ∈ seen then collectQualities seen next (index + 1) values
      else collectQualities (quality.id :: seen) (next ++ [quality]) (index + 1) values

/-- The settings that follow the selected preset. -/
structure VideoSettings where
  videoWidth : Nat
  videoHeight : Nat
  videoFps : Nat
  videoBitrate : Nat
  deriving DecidableEq, Repr

def ClientQuality.settings (quality : ClientQuality) : VideoSettings :=
  ⟨quality.width, quality.height, quality.fps, quality.bitrate⟩

/-- `saved` is the id in the storage for the current server, and empty without one; `options` and
`value` are those of the element for the quality. -/
structure QualityPage where
  saved : Text
  videoQualities : List ClientQuality
  config : VideoSettings
  options : List ClientQuality
  value : Text
  deriving DecidableEq, Repr

namespace QualityPage

/-- The page and the preset that is selected. -/
def setVideoQualities (page : QualityPage) (values : List (Option Text)) (enabled : Bool) :
    QualityPage × Option ClientQuality :=
  let next := collectQualities [] [] 0 (values.take 32)
  let next :=
    if enabled ∧ next = [] then
      (normalizeVideoQuality (some "1280x720*30/2000".toList) 0).toList
    else next
  let selected := (next.find? (fun quality => quality.id = page.saved)).or next.head?
  let unchanged : Bool := next.map (·.id) = page.videoQualities.map (·.id)
  let selectedId : Text := (selected.map (·.id)).getD []
  let config := (selected.map (·.settings)).getD page.config
  let page : QualityPage := { page with videoQualities := next, config, saved := selectedId }
  if ¬ unchanged ∨ page.value ≠ selectedId then
    ({ page with options := next, value := selectedId }, selected)
  else (page, selected)

/-- The user picks an option. -/
def pick (page : QualityPage) (id : Text) : QualityPage := { page with value := id }

def selectedVideoQuality (page : QualityPage) : Option ClientQuality :=
  (page.videoQualities.find? (fun quality => quality.id = page.value)).or page.videoQualities.head?

/-- The command of `streamer.js` for a preset. -/
def videoQualityCommand (quality : ClientQuality) : Text := videoQualityTag ++ decimal quality.index

end QualityPage

/-! ## What the client makes of shown presets -/

/-- The entry of the client for a preset of the server. -/
def VideoQuality.toClient (quality : VideoQuality) (index : Nat) : ClientQuality where
  id := quality.display
  index := index
  width := quality.width.toNat
  height := quality.height.toNat
  fps := quality.fps.toNat
  bitrateKbps := quality.bitrateKbps.toNat
  bitrate := quality.bitrateKbps.toNat * 1000

theorem digitsBefore_decimal {separators : Text} {c : Char} (hmem : c ∈ separators)
    (hc : c.isDigit = false) (n : Nat) (rest : Text) :
    digitsBefore separators (decimal n ++ c :: rest) = some (decimal n, rest) := by
  have htake : (decimal n ++ c :: rest).takeWhile Char.isDigit = decimal n := by
    rw [List.takeWhile_append_of_pos fun _ => isDigit_of_mem_decimal,
      List.takeWhile_cons_of_neg (by rw [hc]; exact Bool.false_ne_true), List.append_nil]
  have hdrop : (decimal n ++ c :: rest).dropWhile Char.isDigit = c :: rest := by
    rw [List.dropWhile_append_of_pos fun _ => isDigit_of_mem_decimal,
      List.dropWhile_cons_of_neg (by rw [hc]; exact Bool.false_ne_true)]
  obtain ⟨first, digits, hdigits⟩ := List.exists_cons_of_ne_nil (decimal_ne_nil n)
  rw [digitsBefore, htake, hdrop, hdigits]
  exact if_pos hmem

theorem isJsWhitespace_of_isDigit {c : Char} (h : c.isDigit = true) : isJsWhitespace c = false := by
  have hcode := isDigit_bounds h
  simp only [isJsWhitespace, Bool.or_eq_false_iff, Bool.and_eq_false_iff, decide_eq_false_iff_not,
    beq_eq_false_iff_ne]
  omega

theorem jsTrim_display (quality : VideoQuality) : jsTrim quality.display = quality.display := by
  apply dropWhile_of_solid
  intro c hc
  obtain h | rfl | rfl | rfl := VideoQuality.mem_display hc
  · exact isJsWhitespace_of_isDigit h
  all_goals decide

theorem matchVideoQuality_display (quality : VideoQuality) :
    matchVideoQuality quality.display =
      some (decimal quality.width.toNat, decimal quality.height.toNat, decimal quality.fps.toNat,
        decimal quality.bitrateKbps.toNat) := by
  rw [matchVideoQuality, VideoQuality.display, digitsBefore_decimal (by decide) (by decide),
    Option.bind_eq_bind, Option.bind_some]
  dsimp only
  rw [digitsBefore_decimal (by decide) (by decide), Option.bind_some]
  dsimp only
  rw [digitsBefore_decimal (by decide) (by decide), Option.bind_some]
  exact if_pos ⟨decimal_ne_nil _, decimal_digits _⟩

theorem normalizeVideoQuality_display {quality : VideoQuality} (h : quality.Positive)
    (index : Nat) :
    normalizeVideoQuality (some quality.display) index = some (quality.toClient index) := by
  obtain ⟨hwidth, hheight, hfps, hbitrate⟩ := h
  have hbounds16 : ∀ n : UInt16, n ≠ 0 → 1 ≤ n.toNat ∧ n.toNat ≤ 65535 := by
    intro n hne
    have hlt := n.toNat_lt
    have hzero : n.toNat ≠ 0 := fun heq => hne (UInt16.toNat_inj.mp heq)
    omega
  have hbitrate' : 1 ≤ quality.bitrateKbps.toNat ∧ quality.bitrateKbps.toNat ≤ 4294967295 := by
    have hlt := quality.bitrateKbps.toNat_lt
    have hzero : quality.bitrateKbps.toNat ≠ 0 := fun heq => hbitrate (UInt32.toNat_inj.mp heq)
    omega
  have hwidth' := hbounds16 _ hwidth
  have hheight' := hbounds16 _ hheight
  have hfps' := hbounds16 _ hfps
  have hmatch : (some quality.display).bind (fun text => matchVideoQuality (jsTrim text)) =
      some (decimal quality.width.toNat, decimal quality.height.toNat, decimal quality.fps.toNat,
        decimal quality.bitrateKbps.toNat) := by
    rw [Option.bind_some, jsTrim_display, matchVideoQuality_display]
  rw [normalizeVideoQuality, hmatch]
  dsimp only
  rw [numeral_decimal, numeral_decimal, numeral_decimal, numeral_decimal, if_neg (by omega)]
  rfl

/-! ## Numbering -/

/-- Each preset with its position. -/
def numbered (index : Nat) : List VideoQuality → List ClientQuality
  | [] => []
  | quality :: qualities => quality.toClient index :: numbered (index + 1) qualities

theorem numbered_getElem? (index i : Nat) (qualities : List VideoQuality) :
    (numbered index qualities)[i]? =
      qualities[i]?.map (fun quality => quality.toClient (index + i)) := by
  induction qualities generalizing index i with
  | nil => rfl
  | cons quality qualities ih =>
    cases i with
    | zero => rfl
    | succ i =>
      rw [numbered, List.getElem?_cons_succ, List.getElem?_cons_succ, ih, Nat.add_assoc,
        Nat.add_comm 1 i]

theorem numbered_map_id (index : Nat) (qualities : List VideoQuality) :
    (numbered index qualities).map (·.id) = qualities.map VideoQuality.display := by
  induction qualities generalizing index with
  | nil => rfl
  | cons quality qualities ih =>
    rw [numbered, List.map_cons, ih]
    rfl

/-- Presets that are shown alike are the same. -/
theorem display_injective {left right : VideoQuality} (hleft : left.Positive)
    (hright : right.Positive) (h : left.display = right.display) : left = right := by
  have hparse := VideoQuality.parse_display hleft
  rw [h, VideoQuality.parse_display hright] at hparse
  exact (Except.ok.inj hparse).symm

/-- The loop takes over every preset that is shown, with its position. -/
theorem collectQualities_display (front : List VideoQuality) {qualities : List VideoQuality}
    {next : List ClientQuality} {seen : List Text} (hpresets : Presets (front ++ qualities))
    (hseen : ∀ id ∈ seen, ∃ quality ∈ front, id = quality.display) (index : Nat) :
    collectQualities seen next index (qualities.map (fun quality => some quality.display)) =
      next ++ numbered index qualities := by
  induction qualities generalizing front seen next index with
  | nil => rw [List.map_nil, collectQualities, numbered, List.append_nil]
  | cons quality qualities ih =>
    have hpositive : quality.Positive := hpresets.positive quality (by simp)
    have hnew : (quality.toClient index).id ∉ seen := by
      intro hmem
      obtain ⟨other, hother, heq⟩ := hseen _ hmem
      have hsame : quality = other :=
        display_injective hpositive (hpresets.positive other (by simp [hother])) heq
      exact (List.nodup_append.mp hpresets.nodup).2.2 other hother quality List.mem_cons_self
        hsame.symm
    have happend : front ++ [quality] ++ qualities = front ++ quality :: qualities := by simp
    have hseen' : ∀ id ∈ (quality.toClient index).id :: seen,
        ∃ shown ∈ front ++ [quality], id = shown.display := by
      refine List.forall_mem_cons.mpr ⟨⟨quality, by simp, rfl⟩, fun id hid => ?_⟩
      obtain ⟨other, hother, heq⟩ := hseen id hid
      exact ⟨other, List.mem_append_left _ hother, heq⟩
    rw [List.map_cons, collectQualities, normalizeVideoQuality_display hpositive]
    dsimp only
    rw [if_neg hnew, ih (front ++ [quality]) (happend ▸ hpresets) hseen', numbered, List.append_assoc]
    rfl

namespace QualityPage

variable {qualities : List VideoQuality}

/-- The entries of the page, before the fallback. -/
theorem setVideoQualities_videoQualities (page : QualityPage) (values : List (Option Text))
    (h : collectQualities [] [] 0 (values.take 32) ≠ []) (enabled : Bool) :
    (page.setVideoQualities values enabled).1.videoQualities =
      collectQualities [] [] 0 (values.take 32) := by
  have hnext : ¬ (enabled = true ∧ collectQualities [] [] 0 (values.take 32) = []) :=
    fun hempty => h hempty.2
  rw [setVideoQualities, if_neg hnext]
  dsimp only
  split
  all_goals rfl

/-- Nothing that an accepted list shows is skipped. -/
theorem setVideoQualities_display (page : QualityPage) (h : Presets qualities)
    (hne : qualities ≠ []) :
    (page.setVideoQualities (qualities.map (fun quality => some quality.display))
      true).1.videoQualities = numbered 0 qualities := by
  have htake : (qualities.map (fun quality => some quality.display)).take 32 =
      qualities.map (fun quality => some quality.display) := by
    apply List.take_of_length_le
    rw [List.length_map]
    exact h.length_le
  have hcollect : collectQualities [] [] 0
      (qualities.map (fun quality => some quality.display)) = numbered 0 qualities :=
    collectQualities_display [] h (List.forall_mem_nil _) 0
  have hfull : numbered 0 qualities ≠ [] := by
    obtain ⟨first, rest, rfl⟩ := List.exists_cons_of_ne_nil hne
    exact List.cons_ne_nil _ _
  rw [setVideoQualities_videoQualities, htake, hcollect]
  rwa [htake, hcollect]

/-- The id of a preset finds its entry. -/
theorem find?_numbered (h : Presets qualities) {i : Nat} {quality : VideoQuality}
    (hi : qualities[i]? = some quality) (index : Nat) :
    (numbered index qualities).find? (fun entry => entry.id = quality.display) =
      some (quality.toClient (index + i)) := by
  induction qualities generalizing index i with
  | nil => cases hi
  | cons first qualities ih =>
    have hrest : Presets qualities :=
      ⟨(Nat.le_succ _).trans h.length_le, h.nodup.tail, fun other hother =>
        h.positive other (List.mem_cons_of_mem _ hother)⟩
    cases i with
    | zero =>
      cases hi
      exact List.find?_cons_of_pos (decide_eq_true rfl)
    | succ i =>
      have hmem : quality ∈ qualities := List.mem_of_getElem? hi
      have hother : (first.toClient index).id ≠ quality.display := by
        intro heq
        have hsame : first = quality := display_injective (h.positive first List.mem_cons_self)
          (h.positive quality (List.mem_cons_of_mem _ hmem)) heq
        exact (List.nodup_cons.mp h.nodup).1 (hsame ▸ hmem)
      rw [numbered, List.find?_cons_of_neg (by simpa using hother), ih hrest hi, Nat.add_assoc,
        Nat.add_comm 1 i]

theorem selectedVideoQuality_pick {page : QualityPage} (h : Presets qualities)
    (hpage : page.videoQualities = numbered 0 qualities) {i : Nat} {quality : VideoQuality}
    (hi : qualities[i]? = some quality) :
    (page.pick quality.display).selectedVideoQuality = some (quality.toClient i) := by
  have hfind := find?_numbered h hi 0
  rw [Nat.zero_add] at hfind
  rw [selectedVideoQuality, pick]
  dsimp only
  rw [hpage, hfind, Option.some_or]

end QualityPage

/-- For every list that the server accepts: the server reads it back from its shown form, and the
client that is shown the list keeps all entries in their order, each with its position and its
values. So the command for the preset that a user picks selects that preset on the server. -/
theorem presets_numbered_alike {value : Text} {qualities : List VideoQuality}
    (h : parseVideoQualities value = .ok qualities) (page : QualityPage) :
    parseVideoQualities ([','].intercalate (qualities.map VideoQuality.display)) = .ok qualities ∧
      let shown := qualities.map (fun quality => some quality.display)
      let next := (page.setVideoQualities shown true).1
      next.videoQualities.length = qualities.length ∧
        ∀ i quality, qualities[i]? = some quality →
          (∃ entry, next.videoQualities[i]? = some entry ∧ entry.index = i ∧
            entry.width = quality.width.toNat ∧ entry.height = quality.height.toNat ∧
            entry.fps = quality.fps.toNat ∧ entry.bitrateKbps = quality.bitrateKbps.toNat ∧
            entry.bitrate = quality.bitrateKbps.toNat * 1000) ∧
          ∃ entry, (next.pick quality.display).selectedVideoQuality = some entry ∧
            streamerTextCommand (QualityPage.videoQualityCommand entry) =
              some (.videoQuality i) := by
  obtain ⟨hpresets, hne⟩ := parseVideoQualities_presets h
  have hpage := page.setVideoQualities_display hpresets hne
  refine ⟨parseVideoQualities_show hpresets hne, ?_, fun i quality hi => ⟨?_, ?_⟩⟩
  · have hlength := congrArg List.length (numbered_map_id 0 qualities)
    rw [List.length_map, List.length_map] at hlength
    exact (congrArg List.length hpage).trans hlength
  · refine ⟨quality.toClient i, ?_, rfl, rfl, rfl, rfl, rfl, rfl⟩
    rw [hpage, numbered_getElem?, hi, Nat.zero_add]
    rfl
  · have hposition : i < 2 ^ 64 := by
      have hlt := (List.getElem?_eq_some_iff.mp hi).1
      have hle := hpresets.length_le
      rw [MAX_VIDEO_QUALITIES] at hle
      omega
    exact ⟨quality.toClient i, QualityPage.selectedVideoQuality_pick hpresets hpage hi,
      streamerTextCommand_videoQuality hposition⟩

/-- A list with signs, blanks, zeros in front and an upper-case letter. -/
theorem presets_numbered_alike_small :
    let page : QualityPage := ⟨[], [], ⟨1280, 720, 30, 2000000⟩, [], []⟩
    let qualities : List VideoQuality := [⟨640, 360, 24, 700⟩, ⟨3840, 2160, 60, 12000⟩]
    let next := (page.setVideoQualities
      (qualities.map (fun quality => some quality.display)) true).1
    ∃ entry, (next.pick (VideoQuality.display ⟨3840, 2160, 60, 12000⟩)).selectedVideoQuality =
      some entry ∧
      streamerTextCommand (QualityPage.videoQualityCommand entry) = some (.videoQuality 1) := by
  have hparse : parseVideoQualities "+640 x 0360*24/700,, 3840X2160*60/12000".toList =
      .ok [⟨640, 360, 24, 700⟩, ⟨3840, 2160, 60, 12000⟩] := by decide +kernel
  exact ((presets_numbered_alike hparse ⟨[], [], ⟨1280, 720, 30, 2000000⟩, [], []⟩).2.2 1
    ⟨3840, 2160, 60, 12000⟩ rfl).2

end VRCStreamer
