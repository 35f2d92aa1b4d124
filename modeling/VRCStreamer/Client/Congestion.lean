import VRCStreamer.Client.UploadHandle

/-!
# The transport as a switch

A poll is a reading of what the socket has queued, and the transport is a switch with two
thresholds that follows these readings. They alone tell whether the video is paused and when the
upload is given up, whatever else happens between two polls.
-/

namespace VRCStreamer

open Concurrency Policing

variable {α : Type*}

/-- The thresholds of the transport. -/
def uploadSwitch : Hysteresis Nat := ⟨wsResumeBufferedBytes, wsPauseBufferedBytes, by decide⟩

theorem uploadSwitch_next (since : Option α) (now : α) (queued : Nat) :
    uploadSwitch.next since (now, queued) =
      if wsPauseBufferedBytes < queued then some (since.getD now)
      else if queued ≤ wsResumeBufferedBytes then none
      else since := rfl

variable [Field α] [LinearOrder α]

/-- The last of these readings came when the upload had been congested for the time of a stall. -/
def StalledBy (readings : List (α × Nat)) : Prop :=
  ∃ t last, uploadSwitch.OnSince readings t ∧ last ∈ readings.getLast? ∧
    (wsStallTimeoutMs : α) ≤ last.1 - t

/-! ## The transport -/

namespace PublisherTransport

variable (transport : PublisherTransport α)

/-- When the upload became congested. -/
def since : Option α := if transport.Congested then some transport.congestedAt else none

/-- A transport pauses the video that it controls while the upload is congested. -/
def Pauses : Prop :=
  transport.videoPaused = (transport.videoControl.isSome && decide transport.Congested)

variable {transport}

theorem since_eq_none : transport.since = none ↔ ¬ transport.Congested := by
  rw [since]
  split
  next h => simp [h]
  next h => simp [h]

theorem since_eq_some {t : α} :
    transport.since = some t ↔ transport.Congested ∧ transport.congestedAt = t := by
  rw [since]
  split
  next h => simp [h]
  next h => simp [h]

/-- What the transport tells a video that was paused or not. -/
def switchCalls (control : Option Nat) (was paused : Bool) : List TransportCall :=
  match control with
  | none => []
  | some control =>
    if was = paused then [] else if paused then [.pause control] else [.resume control]

/-- What a poll makes of a transport, apart from a stall. -/
structure Measures (transport : PublisherTransport α) (now : α) (queued : Nat)
    (measured : PublisherTransport α × List TransportCall) : Prop where
  since : measured.1.since = uploadSwitch.next transport.since (now, queued)
  pauses : measured.1.Pauses
  calls : measured.2 =
    switchCalls transport.videoControl transport.videoPaused measured.1.videoPaused
  control : measured.1.videoControl = transport.videoControl
  failed : measured.1.failed = transport.failed

omit [Field α] [LinearOrder α] in
theorem pauseVideo_eq (transport : PublisherTransport α)
    (htransport : transport.videoPaused = true → transport.videoControl ≠ none) :
    transport.pauseVideo =
      ({ transport with videoPaused := transport.videoControl.isSome },
        switchCalls transport.videoControl transport.videoPaused
          transport.videoControl.isSome) := by
  obtain ⟨congestedAt, failed, control, paused⟩ := transport
  cases control with
  | none =>
    cases paused with
    | false => rfl
    | true => exact absurd rfl (htransport rfl)
  | some control => cases paused <;> rfl

omit [Field α] [LinearOrder α] in
theorem resumeVideo_eq (transport : PublisherTransport α)
    (htransport : transport.videoPaused = true → transport.videoControl ≠ none) :
    transport.resumeVideo =
      ({ transport with videoPaused := false },
        switchCalls transport.videoControl transport.videoPaused false) := by
  obtain ⟨congestedAt, failed, control, paused⟩ := transport
  cases control with
  | none =>
    cases paused with
    | false => rfl
    | true => exact absurd rfl (htransport rfl)
  | some control => cases paused <;> rfl

theorem Pauses.controlled (h : transport.Pauses) (hpaused : transport.videoPaused = true) :
    transport.videoControl ≠ none := by
  rw [h] at hpaused
  intro hnone
  rw [hnone] at hpaused
  cases hpaused

theorem measures (h : transport.Pauses) {now : α} (hnow : now ≠ 0) (queued : Nat) :
    transport.Measures now queued (transport.measure now queued) := by
  rw [measure]
  split
  next hhigh =>
    have hpause := pauseVideo_eq
      { transport with
        congestedAt := if ¬ transport.Congested then now else transport.congestedAt } h.controlled
    rw [hpause]
    have hcongested : Congested
        { transport with
          congestedAt := if ¬ transport.Congested then now else transport.congestedAt
          videoPaused := transport.videoControl.isSome } := by
      show (if ¬ transport.Congested then now else transport.congestedAt) ≠ 0
      split
      next => exact hnow
      next hold => exact not_not.mp hold
    refine ⟨?_, ?_, rfl, rfl, rfl⟩
    · rw [since, if_pos hcongested, uploadSwitch_next, if_pos hhigh, since]
      by_cases hold : transport.Congested
      · simp [hold]
      · simp [hold]
    · exact ((congrArg _ (decide_eq_true hcongested)).trans (Bool.and_true _)).symm
  next hhigh =>
    split
    next hlow =>
      have hresume := resumeVideo_eq { transport with congestedAt := (0 : α) } h.controlled
      rw [hresume]
      refine ⟨?_, ?_, rfl, rfl, rfl⟩
      · rw [uploadSwitch_next, if_neg hhigh, if_pos hlow.2]
        exact since_eq_none.mpr (not_not.mpr rfl)
      · simp [Pauses, Congested]
    next hlow =>
      refine ⟨?_, h, ?_, rfl, rfl⟩
      · rw [uploadSwitch_next, if_neg hhigh]
        split
        next hread => exact since_eq_none.mpr fun hcongested => hlow ⟨hcongested, hread⟩
        next => rfl
      · cases hcontrol : transport.videoControl with
        | none => rfl
        | some control => exact (if_pos rfl).symm

end PublisherTransport

/-- A video is told to pause or to resume. -/
def switchVideo (paused : Bool) (v : VideoHandle α) : VideoHandle α :=
  if paused then v.pause else v.resume

omit [Field α] [LinearOrder α] in
theorem told_switchVideo (paused : Bool) (v : VideoHandle α) : v.Told (switchVideo paused v) := by
  cases paused with
  | false => exact v.told_resume
  | true => exact v.told_pause

theorem VideoHandle.Sound.switch [FloorRing α] [IsStrictOrderedRing α] {v : VideoHandle α}
    {live paused : Bool} (h : v.Sound live (!paused))
    (hattached : v.closed = false → v.transportAttached = true) :
    (switchVideo paused v).Sound live paused := by
  cases paused with
  | false => exact h.resume hattached
  | true => exact h.pause hattached

/-! ## Polls -/

namespace UploadSession

section Polls

variable {s s' : UploadSession α}

/-- What the readings of the session tell about its transport. -/
structure Metered (s : UploadSession α) : Prop where
  clock : 0 < s.clock
  failed : s.transport.failed = !s.active
  pauses : s.transport.Pauses
  since : s.active = true → s.transport.since = uploadSwitch.after s.readings
  once : s.failures ≤ 1
  calm : s.active = true → s.failures = 0 ∧ s.stalled = false
  stalled : s.stalled = true ↔ StalledBy s.readings

theorem metered_new {created : α} (h : 0 < created) : (new created).Metered where
  clock := h
  failed := rfl
  pauses := rfl
  since _ := by simp [new, PublisherTransport.since, PublisherTransport.new,
    PublisherTransport.Congested, Hysteresis.after]
  once := Nat.zero_le 1
  calm _ := ⟨rfl, rfl⟩
  stalled := by
    refine ⟨fun h => absurd h Bool.false_ne_true, ?_⟩
    rintro ⟨t, last, -, hlast, -⟩
    cases hlast

/-- The videos after the one that is controlled was told. -/
def switchVideos (videos : List (VideoHandle α)) (control : Option Nat) (was paused : Bool) :
    List (VideoHandle α) :=
  match control with
  | none => videos
  | some control =>
    if was = paused then videos else videos.modify control (switchVideo paused)

omit [Field α] [LinearOrder α] in
theorem perform_switchCalls (s : UploadSession α) (transport : PublisherTransport α)
    (control : Option Nat) (was paused : Bool) :
    s.perform (transport, PublisherTransport.switchCalls control was paused) =
      { s with transport, videos := switchVideos s.videos control was paused } := by
  cases control with
  | none => rfl
  | some control => cases was <;> cases paused <;> rfl

/-- A poll that does not give the upload up. -/
def polled (s : UploadSession α) (now : α) : UploadSession α :=
  let measured := (s.transport.measure now s.bufferedAmount).1
  { s with
    clock := now
    readings := s.readings ++ [(now, s.bufferedAmount)]
    stalled := measured.Stalled now
    transport := measured
    videos := switchVideos s.videos s.transport.videoControl s.transport.videoPaused
      measured.videoPaused }

omit [Field α] [LinearOrder α] in
theorem onFailure_eq (hactive : s.active = true) : s.call .onFailure = { s with
    active := false
    socketOpen := false
    transport := s.transport.close
    failures := s.failures + 1 } :=
  if_neg (not_not.mpr hactive)

omit [Field α] [LinearOrder α] in
/-- A socket that refuses a message ends the upload. -/
theorem send_throws (hactive : s.active = true) (hfailed : s.transport.failed = false)
    (byteLength : Nat) : s.send byteLength true = { s with
      active := false
      socketOpen := false
      transport := s.transport.close
      failures := s.failures + 1 } := by
  rw [send, if_pos rfl, PublisherTransport.abort, if_neg (Bool.eq_false_iff.mp hfailed)]
  exact if_neg (not_not.mpr hactive)

theorem poll_eq (hactive : s.active = true) (hfailed : s.transport.failed = false)
    (hpauses : s.transport.Pauses) {now : α} (hnow : now ≠ 0) :
    s.poll now = if (s.transport.measure now s.bufferedAmount).1.Stalled now
      then (s.polled now).call .onFailure else s.polled now := by
  have hmeasures := PublisherTransport.measures hpauses hnow s.bufferedAmount
  have hmeasured := hmeasures.failed.trans hfailed
  let started := { s with
    clock := now
    readings := s.readings ++ [(now, s.bufferedAmount)]
    stalled := decide ((s.transport.measure now s.bufferedAmount).1.Stalled now) }
  have hswitch (transport : PublisherTransport α) :=
    started.perform_switchCalls transport s.transport.videoControl s.transport.videoPaused
      (s.transport.measure now s.bufferedAmount).1.videoPaused
  rw [poll, PublisherTransport.poll, if_neg (Bool.eq_false_iff.mp hfailed)]
  dsimp only
  rw [hmeasures.calls]
  split
  next hstalled =>
    rw [PublisherTransport.abort, if_neg (Bool.eq_false_iff.mp hmeasured), perform,
      List.foldl_append]
    refine (congrArg (List.foldl call · [.onFailure]) (hswitch _)).trans ?_
    rw [List.foldl_cons, List.foldl_nil, onFailure_eq (s := s.polled now) hactive]
    exact if_neg (not_not.mpr hactive)
  next hstalled =>
    refine Eq.trans ?_ (hswitch _)
    rw [← hmeasures.calls]

/-! ## What the readings tell -/

theorem stalledBy_concat (readings : List (α × Nat)) (now : α) (queued : Nat) :
    StalledBy (readings ++ [(now, queued)]) ↔
      ∃ t, uploadSwitch.after (readings ++ [(now, queued)]) = some t ∧
        (wsStallTimeoutMs : α) ≤ now - t := by
  constructor
  · rintro ⟨t, last, hon, hlast, hstall⟩
    rw [List.getLast?_concat] at hlast
    obtain rfl := Option.some.inj hlast
    exact ⟨t, Hysteresis.after_eq_some_iff.mpr hon, hstall⟩
  · rintro ⟨t, hafter, hstall⟩
    exact ⟨t, _, Hysteresis.after_eq_some_iff.mp hafter, List.getLast?_concat, hstall⟩

theorem stalled_iff {transport : PublisherTransport α} {now : α} :
    transport.Stalled now ↔
      ∃ t, transport.since = some t ∧ (wsStallTimeoutMs : α) ≤ now - t := by
  constructor
  · rintro ⟨hcongested, hstall⟩
    exact ⟨_, PublisherTransport.since_eq_some.mpr ⟨hcongested, rfl⟩, hstall⟩
  · rintro ⟨t, hsince, hstall⟩
    obtain ⟨hcongested, rfl⟩ := PublisherTransport.since_eq_some.mp hsince
    exact ⟨hcongested, hstall⟩

namespace Metered

theorem cleanup (h : s.Metered) : s.cleanup.Metered := by
  rw [UploadSession.cleanup]
  split
  next => exact h
  next hactive =>
    rw [not_not] at hactive
    exact ⟨h.clock, rfl, rfl, nofun, h.once, nofun, h.stalled⟩

theorem onFailure (hactive : s.active = true) (hclock : 0 < s.clock) (hfailures : s.failures = 0)
    (hstalled : s.stalled = true ↔ StalledBy s.readings) : (s.call .onFailure).Metered := by
  rw [onFailure_eq hactive]
  exact ⟨hclock, rfl, rfl, nofun, Nat.succ_le_succ (Nat.le_of_eq hfailures), nofun, hstalled⟩

/-- The clock of the page never stands at zero. -/
theorem ne_zero (h : s.Metered) {now : α} (hnow : s.clock ≤ now) : now ≠ 0 :=
  (lt_of_lt_of_le h.clock hnow).ne'

theorem poll (h : s.Metered) (hactive : s.active = true) {now : α} (hnow : s.clock ≤ now) :
    (s.poll now).Metered := by
  have hfailed : s.transport.failed = false := by rw [h.failed, hactive]; rfl
  have hmeasures := PublisherTransport.measures h.pauses (h.ne_zero hnow) s.bufferedAmount
  have hsince : (s.transport.measure now s.bufferedAmount).1.since =
      uploadSwitch.after (s.readings ++ [(now, s.bufferedAmount)]) := by
    rw [hmeasures.since, h.since hactive, Hysteresis.after_concat]
  have hstall : (s.transport.measure now s.bufferedAmount).1.Stalled now ↔
      StalledBy (s.readings ++ [(now, s.bufferedAmount)]) := by
    rw [stalled_iff, stalledBy_concat, hsince]
  have hclock : 0 < now := lt_of_lt_of_le h.clock hnow
  rw [poll_eq hactive hfailed h.pauses (h.ne_zero hnow)]
  split
  next hstalled =>
    exact .onFailure hactive hclock (h.calm hactive).1
      (iff_of_true (decide_eq_true hstalled) (hstall.mp hstalled))
  next hstalled =>
    exact ⟨hclock, hmeasures.failed.trans h.failed, hmeasures.pauses, fun _ => hsince, h.once,
      fun _ => ⟨(h.calm hactive).1, decide_eq_false hstalled⟩,
      iff_of_false (by simp [polled, hstalled]) fun hstalledBy => hstalled (hstall.mpr hstalledBy)⟩

theorem send (h : s.Metered) (hactive : s.active = true) (byteLength : Nat) (throws : Bool) :
    (s.send byteLength throws).Metered := by
  have hfailed : s.transport.failed = false := by rw [h.failed, hactive]; rfl
  rw [UploadSession.send]
  split
  next =>
    rw [PublisherTransport.abort, if_neg (Bool.eq_false_iff.mp hfailed)]
    exact .onFailure hactive h.clock (h.calm hactive).1 h.stalled
  next => exact { h with }

end Metered

end Polls

end UploadSession

end VRCStreamer
