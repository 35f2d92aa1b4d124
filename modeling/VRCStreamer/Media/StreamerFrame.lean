import VRCStreamer.Media.AnnexB

/-!
# Messages with media

The AAC half of `media.rs`: the validation of an access unit, and the parsing of the binary
messages of a publisher. An access unit is raw AAC; what looks like a container, an ADTS header or
another codec is refused.
-/

namespace VRCStreamer

open Codec

/-! ## Validation of an AAC access unit -/

/-- The length in an ADTS header must be that of the whole frame. -/
def looksLikeAdtsFrame : Bytes → Bool
  | b0 :: b1 :: b2 :: b3 :: b4 :: b5 :: b6 :: rest =>
    if b0 ≠ 0xff ∨ b1 &&& 0xf0 ≠ 0xf0 then false
    else
      let protectionAbsent := b1 &&& 0x01 ≠ 0
      let headerLen := if protectionAbsent then 7 else 9
      let frameLen := (b3 &&& 0x03).toNat <<< 11 ||| b4.toNat <<< 3 ||| (b5 &&& 0xe0).toNat >>> 5
      frameLen = (b0 :: b1 :: b2 :: b3 :: b4 :: b5 :: b6 :: rest).length ∧ headerLen ≤ frameLen
  | _ => false

def rejectedMediaSignature (frame : Bytes) : Option String :=
  match rejectedContainerSignature frame with
  | some reason => some reason
  | none =>
    let startCode : Bytes := [0, 0, 1]
    let longStartCode : Bytes := [0, 0, 0, 1]
    if startCode.isPrefixOf frame || longStartCode.isPrefixOf frame then
      some "video codecs are not accepted"
    else none

def validateAacAccessUnit (accessUnit : Bytes) : Except String Unit :=
  if accessUnit.length < 4 then .error "aac frame is too small"
  else if AAC_MAX_ACCESS_UNIT_BYTES < accessUnit.length then .error "aac frame is too large"
  else if looksLikeAdtsFrame accessUnit then .error "expected raw AAC access units, got ADTS"
  else
    match rejectedMediaSignature accessUnit with
    | some reason => .error reason
    | none => .ok ()

/-! ## Parsing of a message -/

inductive StreamerMediaFrame
  | audio (accessUnit : Bytes) (sourceTimestamp : UInt32)
  | video (accessUnit : Bytes) (keyframe singleNal : Bool) (sourceTimestamp : UInt32)
  deriving DecidableEq

/-- The part of `Config` that the parser reads. -/
structure MediaConfig where
  videoEnabled : Bool
  maxH264FrameBytes : Nat
  deriving DecidableEq

/-- A frame splits after its header of `MEDIA_FRAME_HEADER_BYTES` bytes. -/
def parseStreamerMediaFrame (config : MediaConfig) : Bytes → Except String StreamerMediaFrame
  | [] => .error "media frame is empty"
  | kind :: body =>
    if kind = 0x00 then
      match body with
      | t3 :: t2 :: t1 :: t0 :: accessUnit =>
        (validateAacAccessUnit accessUnit).map (fun _ => .audio accessUnit (read32 t3 t2 t1 t0))
      | _ => .error "audio frame header is too small"
    else if kind = 0x01 ∨ kind = 0x02 then
      if !config.videoEnabled then .error "video is disabled on this server"
      else
        match body with
        | t3 :: t2 :: t1 :: t0 :: accessUnit =>
          let keyframe : Bool := kind = 0x01
          (inspectH264AccessUnit accessUnit keyframe config.maxH264FrameBytes).map
            (fun singleNal => .video accessUnit keyframe singleNal (read32 t3 t2 t1 t0))
        | _ => .error "video frame header is too small"
    else .error "unknown media frame type"

/-! ## What is accepted -/

theorem validateAacAccessUnit_length {accessUnit : Bytes}
    (h : validateAacAccessUnit accessUnit = .ok ()) :
    4 ≤ accessUnit.length ∧ accessUnit.length ≤ AAC_MAX_ACCESS_UNIT_BYTES := by
  rw [validateAacAccessUnit] at h
  split at h
  next => cases h
  next hshort =>
    split at h
    next => cases h
    next hlong => exact ⟨Nat.le_of_not_lt hshort, Nat.le_of_not_lt hlong⟩

/-- Audio comes from a frame of its kind, behind the header. -/
theorem parseStreamerMediaFrame_audio {config : MediaConfig} {frame accessUnit : Bytes}
    {sourceTimestamp : UInt32}
    (h : parseStreamerMediaFrame config frame = .ok (.audio accessUnit sourceTimestamp)) :
    frame.head? = some 0x00 ∧ accessUnit = frame.drop MEDIA_FRAME_HEADER_BYTES ∧
      validateAacAccessUnit accessUnit = .ok () := by
  rw [parseStreamerMediaFrame.eq_def] at h
  split at h
  next => cases h
  next kind body =>
    split at h
    next hkind =>
      split at h
      next t3 t2 t1 t0 unit =>
        cases hvalid : validateAacAccessUnit unit with
        | error reason =>
          rw [hvalid] at h
          cases h
        | ok valid =>
          rw [hvalid] at h
          obtain ⟨rfl, -⟩ := StreamerMediaFrame.audio.inj (Except.ok.inj h)
          exact ⟨congrArg some hkind, rfl, hvalid⟩
      next => cases h
    next =>
      split at h
      next =>
        -- a frame with video is no audio
        split at h
        next => cases h
        next =>
          split at h
          next t3 t2 t1 t0 unit =>
            dsimp only at h
            cases hinspect : inspectH264AccessUnit unit (kind = 0x01) config.maxH264FrameBytes with
            | error reason =>
              rw [hinspect] at h
              cases h
            | ok singleNal =>
              rw [hinspect] at h
              cases h
          next => cases h
      next => cases h

/-! ## False rejects -/

/-- The tag of the first box of a container. -/
def ftypTag : Bytes := [0x66, 0x74, 0x79, 0x70]

/-- The element that opens an access unit: the number in its first three bits. -/
def elementId (accessUnit : Bytes) : Option UInt8 := 
  match accessUnit with
  | [] => none
  | first :: _ => some (first >>> 5)

/-- A channel pair. -/
def ID_CPE : UInt8 := 1

/-- The bytes that a signature at the start of a frame can open with. -/
def signatureStarts : Bytes := [0x00, 0x1a, 0x47, 0x49, 0x4f, 0x52, 0x66, 0xff]

theorem ne_of_channelPair {first : UInt8} (h : first >>> 5 = ID_CPE) :
    ∀ other ∈ signatureStarts, first ≠ other := by
  rintro other hother rfl
  have hnone : ∀ other ∈ signatureStarts, ¬ other >>> 5 = ID_CPE := by decide +kernel
  exact hnone _ hother h

theorem not_isPrefixOf_of_ne {first other : UInt8} (h : first ≠ other) (signature rest : Bytes) :
    (other :: signature).isPrefixOf (first :: rest) = false := by
  rw [List.isPrefixOf, beq_false_of_ne h.symm, Bool.false_and]

theorem looksLikeAdtsFrame_of_ne {first : UInt8} (h : first ≠ 0xff) (rest : Bytes) :
    looksLikeAdtsFrame (first :: rest) = false := by
  rw [looksLikeAdtsFrame.eq_def]
  split
  next b0 b1 b2 b3 b4 b5 b6 more heq =>
    obtain ⟨rfl, -⟩ := List.cons.inj heq
    exact if_pos (.inl h)
  next => rfl

/-- Only the brand of a container can stand in an access unit that opens with a channel pair. -/
theorem rejectedMediaSignature_of_channelPair {first : UInt8} (h : first >>> 5 = ID_CPE)
    (rest : Bytes) : rejectedMediaSignature (first :: rest) =
      if slice (first :: rest) 4 8 = ftypTag then some "container formats are not accepted"
      else none := by
  have hne := ne_of_channelPair h
  have hstart : ∀ (other : UInt8) (signature : Bytes),
      other ∈ signatureStarts → (other :: signature).isPrefixOf (first :: rest) = false :=
    fun other signature hother => not_isPrefixOf_of_ne (hne other hother) signature rest
  have hcontainer : rejectedContainerSignature (first :: rest) =
      if slice (first :: rest) 4 8 = ftypTag then some "container formats are not accepted"
      else none := by
    have hts : first ≠ 0x47 := hne _ (by decide)
    have hmpeg : first ≠ 0xff := hne _ (by decide)
    have hbrand : (decide (8 ≤ (first :: rest).length) &&
        slice (first :: rest) 4 8 == ftypTag) = decide (slice (first :: rest) 4 8 = ftypTag) := by
      by_cases htag : slice (first :: rest) 4 8 = ftypTag
      · have hlength := congrArg List.length htag
        simp only [slice, List.length_take, List.length_drop, ftypTag, List.length_cons,
          List.length_nil] at hlength
        simp [htag]
        omega
      · simp [htag]
    rw [rejectedContainerSignature]
    simp only [hstart 0x66 _ (by decide), hstart 0x4f _ (by decide), hstart 0x52 _ (by decide),
      hstart 0x49 _ (by decide), hstart 0x1a _ (by decide), Bool.false_or, Bool.or_false]
    have htsStart : ¬ (some first = some 0x47 ∧ 188 ≤ (first :: rest).length ∧
        (first :: rest)[188]? = some 0x47) := fun hstart => hts (Option.some.inj hstart.1)
    have hmpegStart : ¬ (some first = some 0xff ∧
        (first :: rest)[1]?.map (fun x => x &&& 0xe0) = some 0xe0) :=
      fun hstart => hmpeg (Option.some.inj hstart.1)
    have hfirst : (first :: rest)[0]? = some first := rfl
    rw [show ([102, 116, 121, 112] : Bytes) = ftypTag from rfl, hbrand, hfirst,
      if_neg Bool.false_ne_true, if_neg htsStart, if_neg hmpegStart]
    exact if_congr decide_eq_true_iff rfl rfl
  have hcode := hstart 0x00 [0, 1] (by decide)
  have hlong := hstart 0x00 [0, 0, 1] (by decide)
  rw [rejectedMediaSignature, hcontainer]
  split
  next reason heq =>
    split at heq
    next htag => rw [if_pos htag, ← heq]
    next => cases heq
  next heq =>
    split at heq
    next => cases heq
    next htag =>
      rw [if_neg htag]
      simp only [hcode, hlong, Bool.false_or, Bool.false_eq_true, if_false]

/-- An access unit of the advertised configuration opens with a channel pair. It is accepted
exactly when the tag of a container does not stand behind its first four bytes. -/
theorem validateAacAccessUnit_channelPair_iff {accessUnit : Bytes} (hshort : 4 ≤ accessUnit.length)
    (hlong : accessUnit.length ≤ AAC_MAX_ACCESS_UNIT_BYTES)
    (hpair : elementId accessUnit = some ID_CPE) :
    validateAacAccessUnit accessUnit = .ok () ↔ slice accessUnit 4 8 ≠ ftypTag := by
  obtain ⟨first, rest, rfl⟩ : ∃ first rest, accessUnit = first :: rest :=
    List.exists_cons_of_ne_nil (List.ne_nil_of_length_pos (by omega))
  have hfirst : first >>> 5 = ID_CPE := Option.some.inj hpair
  have hadts : first ≠ 0xff := ne_of_channelPair hfirst _ (by decide)
  rw [validateAacAccessUnit, if_neg (Nat.not_lt.mpr hshort), if_neg (Nat.not_lt.mpr hlong),
    looksLikeAdtsFrame_of_ne hadts, if_neg Bool.false_ne_true,
    rejectedMediaSignature_of_channelPair hfirst]
  by_cases htag : slice (first :: rest) 4 8 = ftypTag
  · simp [htag]
  · simp [htag]

theorem validateAacAccessUnit_silence :
    validateAacAccessUnit AAC_SILENCE_ACCESS_UNIT = .ok () ↔
      slice AAC_SILENCE_ACCESS_UNIT 4 8 ≠ ftypTag :=
  validateAacAccessUnit_channelPair_iff (by decide) (by decide) (by decide)

/-- Compressed audio can hold the tag by chance; the session is closed then. -/
theorem validateAacAccessUnit_ftyp :
    let accessUnit : Bytes := [0x21, 0x10, 0x56, 0xe5, 0x66, 0x74, 0x79, 0x70]
    elementId accessUnit = some ID_CPE ∧ 4 ≤ accessUnit.length ∧
      accessUnit.length ≤ AAC_MAX_ACCESS_UNIT_BYTES ∧
      validateAacAccessUnit accessUnit ≠ .ok () := by
  decide +kernel

end VRCStreamer
