import VRCStreamer.Rtsp.Session

/-!
# The choice of interleaved channels

SETUP always finds a channel: one that leaves room for the channel of the sender reports
and whose pair does not meet the pair of the other track.
-/

namespace VRCStreamer

variable {ι : Type*} {session : RtspSession ι} {track : RtspTrack} {channel : UInt8}

def RtspTrack.other : RtspTrack → RtspTrack
  | .audio => .video
  | .video => .audio

theorem rtspChannelPairsOverlap_comm (left right : UInt8) :
    rtspChannelPairsOverlap left right = rtspChannelPairsOverlap right left := by
  rw [rtspChannelPairsOverlap, rtspChannelPairsOverlap, Bool.and_comm]

theorem rtspInterleavedChannelAvailable_iff :
    rtspInterleavedChannelAvailable session track channel = true ↔
      channel ≠ 255 ∧ (session.isSetup track.other = true →
        rtspChannelPairsOverlap channel (session.channel track.other) = false) := by
  rw [rtspInterleavedChannelAvailable.eq_def]
  by_cases hlast : channel = 255
  · simp [hlast]
  · cases track with
    | audio =>
      cases hsetup : session.videoSetup <;>
        simp [hlast, RtspTrack.other, RtspSession.isSetup, RtspSession.channel, hsetup]
    | video =>
      cases hsetup : session.audioSetup <;>
        simp [hlast, RtspTrack.other, RtspSession.isSetup, RtspSession.channel, hsetup]

/-- No pair meets both the pair of channel 0 and the pair of channel 4. -/
theorem exists_rtspInterleavedChannelAvailable (session : RtspSession ι) (track : RtspTrack) :
    ∃ channel ∈ evenChannels, rtspInterleavedChannelAvailable session track channel = true := by
  by_cases hzero : rtspChannelPairsOverlap 0 (session.channel track.other) = false
  · refine ⟨0, by decide, ?_⟩
    rw [rtspInterleavedChannelAvailable_iff]
    exact ⟨by decide, fun _ => hzero⟩
  · refine ⟨4, by decide, ?_⟩
    rw [rtspInterleavedChannelAvailable_iff]
    refine ⟨by decide, fun _ => ?_⟩
    simp only [rtspChannelPairsOverlap, UInt8.toNat_ofNat] at hzero ⊢
    simp at hzero ⊢
    omega

theorem select_available (session : RtspSession ι) (track : RtspTrack) (requested : Option UInt8) :
    rtspInterleavedChannelAvailable session track
      (selectRtspInterleavedChannel session track requested) = true := by
  rw [selectRtspInterleavedChannel]
  split
  · assumption
  · obtain ⟨channel, hmem, havailable⟩ := exists_rtspInterleavedChannelAvailable session track
    cases hfind : evenChannels.find? (rtspInterleavedChannelAvailable session track) with
    | none => simpa [havailable] using List.find?_eq_none.mp hfind channel hmem
    | some found => exact List.find?_some hfind

/-- A channel is the one to take for a track: the preferred one where it is free, else the
first free one among the even channels. -/
def Picks (session : RtspSession ι) (track : RtspTrack) (requested : Option UInt8)
    (channel : UInt8) : Prop :=
  if rtspInterleavedChannelAvailable session track (preferredChannel session track requested) then
    channel = preferredChannel session track requested
  else
    channel ∈ evenChannels ∧ rtspInterleavedChannelAvailable session track channel = true ∧
      ∀ lower ∈ evenChannels, lower < channel →
        rtspInterleavedChannelAvailable session track lower = false

theorem evenChannels_sorted : evenChannels.Pairwise (· < ·) := by
  decide +kernel

theorem select_eq_iff {requested : Option UInt8} :
    selectRtspInterleavedChannel session track requested = channel ↔
      Picks session track requested channel := by
  rw [selectRtspInterleavedChannel, Picks]
  split
  · exact eq_comm
  · obtain ⟨free, hmem, havailable⟩ := exists_rtspInterleavedChannelAvailable session track
    cases hfind : evenChannels.find? (rtspInterleavedChannelAvailable session track) with
    | none =>
      have hnone := List.find?_eq_none.mp hfind free hmem
      exact absurd havailable hnone
    | some found =>
      obtain ⟨hfound, before, after, heq, hbefore⟩ := List.find?_eq_some_iff_append.mp hfind
      have hsorted := evenChannels_sorted
      rw [heq, List.pairwise_append, List.pairwise_cons] at hsorted
      obtain ⟨-, ⟨hafter, -⟩, hapart⟩ := hsorted
      have hlower : ∀ lower ∈ evenChannels, lower < found →
          rtspInterleavedChannelAvailable session track lower = false := by
        intro lower hlower hlt
        rw [heq, List.mem_append, List.mem_cons] at hlower
        obtain hlower | rfl | hlower := hlower
        · simpa using hbefore lower hlower
        · exact absurd hlt (UInt8.lt_irrefl _)
        · exact absurd hlt (UInt8.lt_asymm (hafter lower hlower))
      have hmem : found ∈ evenChannels := List.mem_of_find?_eq_some hfind
      constructor
      · rintro rfl
        exact ⟨hmem, hfound, hlower⟩
      · rintro ⟨hmem', hfree, hleast⟩
        show found = channel
        by_contra hne
        obtain hlt | hgt := UInt8.lt_or_lt_of_ne hne
        · exact absurd hfound (by simp [hleast found hmem hlt])
        · exact absurd hfree (by simp [hlower channel hmem' hgt])

end VRCStreamer
