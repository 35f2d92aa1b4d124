import VRCStreamer.Codec.Base64
import VRCStreamer.Media.AnnexB
import VRCStreamer.Text.Basic

/-!
# Format parameters of a video track

`h264_sdp_fmtp` of `media.rs`: the first SPS and the first PPS of an access unit as the value of
an `a=fmtp` line. What it returns stays on that line.
-/

namespace VRCStreamer

open Codec

/-- What the visitor of `h264_sdp_fmtp` has found so far. -/
structure ParameterSets where
  profile : Option (UInt8 × UInt8 × UInt8) := none
  sps : Option Text := none
  pps : Option Text := none
  deriving DecidableEq

def readParameterSet (found : ParameterSets) (nal : Bytes) : Except String ParameterSets :=
  let nalType := (nalHeader nal &&& 0x1f).toNat
  if nalType = 7 ∧ found.sps = none then
    match nal with
    | _ :: profile :: compatibility :: level :: _ =>
      if H264_MAX_PARAMETER_SET_BYTES < nal.length then .error "h264 sps is too large"
      else
        .ok { found with profile := some (profile, compatibility, level), sps := some (base64 nal) }
    | _ => .error "h264 sps is too small"
  else if nalType = 8 ∧ found.pps = none then
    if H264_MAX_PARAMETER_SET_BYTES < nal.length then .error "h264 pps is too large"
    else .ok { found with pps := some (base64 nal) }
  else .ok found

/-- The value of the line. -/
def fmtpText (profile : UInt8 × UInt8 × UInt8) (sps pps : Text) : Text :=
  "packetization-mode=1; profile-level-id=".toList ++ Text.hex 2 profile.1.toNat ++
    Text.hex 2 profile.2.1.toNat ++ Text.hex 2 profile.2.2.toNat ++
    "; sprop-parameter-sets=".toList ++ sps ++ ",".toList ++ pps

def h264SdpFmtp (accessUnit : Bytes) : Except String Text :=
  match forEachH264Nal accessUnit readParameterSet {} with
  | .error reason => .error reason
  | .ok (found, _) =>
    match found.profile, found.sps, found.pps with
    | some profile, some sps, some pps => .ok (fmtpText profile sps pps)
    | some _, some _, none => .error "h264 access unit has no pps"
    | _, _, _ => .error "h264 access unit has no sps"

example : h264SdpFmtp [0, 0, 0, 1, 0x67, 0x42, 0xe0, 0x1f, 0, 0, 1, 0x68, 0xce, 0x3c, 0x80] =
    .ok ("packetization-mode=1; profile-level-id=42e01f; " ++
      "sprop-parameter-sets=Z0LgHw==,aM48gA==").toList := by decide +kernel

/-! ## Parameters stay on their line -/

theorem newline_notMem_base64 (bytes : Bytes) : '\n' ∉ base64 bytes := by
  intro hmem
  obtain halphabet | hpadding := mem_base64 hmem
  · exact absurd halphabet (by decide)
  · exact absurd hpadding (by decide)

theorem newline_notMem_hex (byte : UInt8) : '\n' ∉ Text.hex 2 byte.toNat := by
  have hall : ∀ n < 256, '\n' ∉ Text.hex 2 (UInt8.ofNat n).toNat := by decide +kernel
  exact byte_forall (p := fun byte => '\n' ∉ Text.hex 2 byte.toNat) hall byte

theorem newline_notMem_append {left right : Text} (hleft : '\n' ∉ left) (hright : '\n' ∉ right) :
    '\n' ∉ left ++ right := by
  intro hmem
  obtain hmem | hmem := List.mem_append.mp hmem
  · exact hleft hmem
  · exact hright hmem

theorem newline_notMem_fmtpText (profile : UInt8 × UInt8 × UInt8) {sps pps : Text}
    (hsps : '\n' ∉ sps) (hpps : '\n' ∉ pps) : '\n' ∉ fmtpText profile sps pps := by
  have hmode : '\n' ∉ "packetization-mode=1; profile-level-id=".toList := by decide +kernel
  have hsets : '\n' ∉ "; sprop-parameter-sets=".toList := by decide +kernel
  have hcomma : '\n' ∉ ",".toList := by decide +kernel
  apply newline_notMem_append _ hpps
  apply newline_notMem_append _ hcomma
  apply newline_notMem_append _ hsps
  apply newline_notMem_append _ hsets
  apply newline_notMem_append _ (newline_notMem_hex _)
  apply newline_notMem_append _ (newline_notMem_hex _)
  exact newline_notMem_append hmode (newline_notMem_hex _)

/-- The sets found so far have no line break. -/
def ParameterSets.OnLine (found : ParameterSets) : Prop :=
  (∀ sps, found.sps = some sps → '\n' ∉ sps) ∧ ∀ pps, found.pps = some pps → '\n' ∉ pps

theorem ParameterSets.OnLine.read {found found' : ParameterSets} {nal : Bytes}
    (h : found.OnLine) (hread : readParameterSet found nal = .ok found') : found'.OnLine := by
  simp only [readParameterSet] at hread
  split at hread
  next =>
    split at hread
    next =>
      split at hread
      next => cases hread
      next =>
        cases hread
        refine ⟨?_, h.2⟩
        rintro sps ⟨⟩
        exact newline_notMem_base64 _
    next => cases hread
  next =>
    split at hread
    next =>
      split at hread
      next => cases hread
      next =>
        cases hread
        refine ⟨h.1, ?_⟩
        rintro pps ⟨⟩
        exact newline_notMem_base64 _
    next =>
      cases hread
      exact h

theorem ParameterSets.OnLine.readAll {found found' : ParameterSets} {nals : List Bytes}
    (h : found.OnLine) (hread : nals.foldlM readParameterSet found = .ok found') :
    found'.OnLine := by
  induction nals generalizing found with
  | nil =>
    cases hread
    exact h
  | cons nal nals ih =>
    rw [List.foldlM_cons] at hread
    cases hnext : readParameterSet found nal with
    | error reason =>
      rw [hnext] at hread
      cases hread
    | ok next =>
      rw [hnext] at hread
      exact ih (h.read hnext) hread

/-- The parameters of an access unit have no line break. -/
theorem newline_notMem_fmtp {accessUnit : Bytes} {fmtp : Text}
    (h : h264SdpFmtp accessUnit = .ok fmtp) : '\n' ∉ fmtp := by
  rw [h264SdpFmtp] at h
  split at h
  next => cases h
  next found walked hwalk =>
    obtain ⟨nalStart, -, hfold, -⟩ := forEachH264Nal_eq_ok.mp hwalk
    have hstart : ParameterSets.OnLine {} := ⟨nofun, nofun⟩
    obtain ⟨hsps, hpps⟩ := hstart.readAll hfold
    split at h
    next profile sps pps _ hsome hsome' =>
      cases h
      exact newline_notMem_fmtpText profile (hsps sps hsome) (hpps pps hsome')
    next => cases h
    next => cases h

end VRCStreamer
