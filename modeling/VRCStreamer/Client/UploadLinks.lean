import VRCStreamer.Client.Congestion

/-!
# The video workers of an upload

A session starts one video worker after another, and gives each up before the next one. The
transport controls the worker that has not been given up, as soon as it is ready, and what it
tells that worker is all that the worker needs to follow it.
-/

namespace VRCStreamer

open Concurrency Policing

namespace UploadSession

variable {α : Type*} [Field α] [LinearOrder α]

omit [Field α] [LinearOrder α] in
theorem getElem?_switchVideos (videos : List (VideoHandle α)) (control : Option Nat)
    (was paused : Bool) (j : Nat) :
    (switchVideos videos control was paused)[j]? = videos[j]?.map fun v =>
      if control = some j ∧ was ≠ paused then switchVideo paused v else v := by
  cases control with
  | none => simp [switchVideos]
  | some control =>
    rw [switchVideos]
    by_cases hsame : was = paused
    · simp [hsame]
    · rw [if_neg hsame, List.getElem?_modify]
      simp [hsame]

variable [FloorRing α] [IsStrictOrderedRing α] {s s' : UploadSession α}

/-- Every worker is sound, at most one of them has not been given up, and the transport controls
that one once it is ready. -/
structure Linked (s : UploadSession α) : Prop where
  videos : ∀ (i : Nat) (v : VideoHandle α), s.videos[i]? = some v →
    v.Sound s.active (v.transportAttached && s.transport.videoPaused)
  control : s.active = true → ∀ (i : Nat) (v : VideoHandle α), s.videos[i]? = some v →
    v.closed = false → v.transportAttached = true → s.transport.videoControl = some i
  controlled : ∀ i : Nat, s.transport.videoControl = some i →
    ∃ v : VideoHandle α, s.videos[i]? = some v ∧ (v.closed = false → v.transportAttached = true)
  single : ∀ (i j : Nat) (v w : VideoHandle α), s.videos[i]? = some v → s.videos[j]? = some w →
    i ≠ j → v.closed = true ∨ w.closed = true

omit [Field α] [LinearOrder α] [FloorRing α] [IsStrictOrderedRing α] in
theorem getElem?_update (s : UploadSession α) (index : Nat) (f : VideoHandle α → VideoHandle α)
    (i : Nat) : (s.update index f).videos[i]? =
      s.videos[i]?.map fun v => if index = i then f v else v := by
  rw [UploadSession.update, List.getElem?_modify]
  rfl

omit [Field α] [LinearOrder α] [FloorRing α] [IsStrictOrderedRing α] in
theorem failVideo_eq {index : Nat} {v : VideoHandle α} (hopen : ¬ v.closed = true) :
    s.failVideo index v = UploadSession.update
      { s with
        transport := if v.transportAttached then s.transport.detachVideo index else s.transport }
      index ({ · with
        readySettled := true, closed := true, transportAttached := false
        terminated := true }) := by
  rw [UploadSession.failVideo, if_neg hopen, UploadSession.terminate, UploadSession.update,
    UploadSession.update, UploadSession.update]
  dsimp only
  rw [List.modify_modify_eq]
  rfl

omit [FloorRing α] [IsStrictOrderedRing α] in
theorem attachVideo_eq (s : UploadSession α) (index : Nat) {congested : Bool}
    (hcongested : decide s.transport.Congested = congested) :
    s.attachVideo index = UploadSession.update
      { s with
        transport := { s.transport with videoControl := some index, videoPaused := congested }
        videos := switchVideos s.videos (some index) false congested }
      index ({ · with transportAttached := true, readySettled := true }) := by
  have hattach : s.transport.attachVideo index =
      ({ s.transport with videoControl := some index, videoPaused := congested },
        PublisherTransport.switchCalls (some index) false congested) := by
    rw [← hcongested, PublisherTransport.attachVideo]
    by_cases h : s.transport.Congested
    · simp [h, PublisherTransport.pauseVideo, PublisherTransport.switchCalls]
    · simp [h, PublisherTransport.switchCalls]
  rw [attachVideo, hattach, perform_switchCalls]

namespace Linked

theorem start (created : α) : (new created).Linked where
  videos i v hv := by cases hv
  control _ i v hv := by cases hv
  controlled i hi := by cases hi
  single i j v w hv := by cases hv

/-- A worker changes, and is not opened again by it. -/
theorem update (h : s.Linked) (index : Nat) {f : VideoHandle α → VideoHandle α}
    (hsound : ∀ v, s.videos[index]? = some v →
      (f v).Sound s.active (v.transportAttached && s.transport.videoPaused))
    (hkept : ∀ v, s.videos[index]? = some v →
      (f v).transportAttached = v.transportAttached ∧ (v.closed = true → (f v).closed = true)) :
    (s.update index f).Linked := by
  have hget (i : Nat) (v' : VideoHandle α) (hv : (s.update index f).videos[i]? = some v') :
      ∃ v, s.videos[i]? = some v ∧ v' = if index = i then f v else v := by
    rw [getElem?_update] at hv
    obtain ⟨v, hold, rfl⟩ := Option.map_eq_some_iff.mp hv
    exact ⟨v, hold, rfl⟩
  have hsame (i : Nat) (v : VideoHandle α) (hv : s.videos[i]? = some v) :
      (if index = i then f v else v).transportAttached = v.transportAttached ∧
        ((if index = i then f v else v).closed = false → v.closed = false) := by
    split
    next hi =>
      obtain ⟨hattached, hclosed⟩ := hkept v (hi ▸ hv)
      refine ⟨hattached, fun hopen => Bool.eq_false_of_not_eq_true fun htrue => ?_⟩
      rw [hclosed htrue] at hopen
      cases hopen
    next => exact ⟨rfl, id⟩
  constructor
  · intro i v' hv
    obtain ⟨v, hold, rfl⟩ := hget i v' hv
    rw [(hsame i v hold).1]
    split
    next hi => exact hsound v (hi ▸ hold)
    next => exact h.videos i v hold
  · intro hactive i v' hv hstays hready
    obtain ⟨v, hold, rfl⟩ := hget i v' hv
    rw [(hsame i v hold).1] at hready
    exact h.control hactive i v hold ((hsame i v hold).2 hstays) hready
  · intro i hi
    obtain ⟨v, hv, hready⟩ := h.controlled i hi
    refine ⟨_, (getElem?_update s index f i).trans (congrArg _ hv), fun hstays => ?_⟩
    rw [(hsame i v hv).1]
    exact hready ((hsame i v hv).2 hstays)
  · intro i j v' w' hv hw hne
    obtain ⟨v, hold, rfl⟩ := hget i v' hv
    obtain ⟨w, hold', rfl⟩ := hget j w' hw
    by_contra hboth
    rw [not_or, Bool.not_eq_true, Bool.not_eq_true] at hboth
    rcases h.single i j v w hold hold' hne with hshut | hshut
    · rw [(hsame i v hold).2 hboth.1] at hshut
      cases hshut
    · rw [(hsame j w hold').2 hboth.2] at hshut
      cases hshut

theorem cleanup (h : s.Linked) : s.cleanup.Linked := by
  rw [UploadSession.cleanup]
  split
  next => exact h
  next =>
    refine ⟨fun i v hv => (h.videos i v hv).of_ended, ?_, ?_, h.single⟩
    · intro hactive
      cases hactive
    · intro i hcontrol
      cases hcontrol

/-- What the transport wants of a worker after it has told the one that it controls. -/
theorem switched (h : s.Linked) {i : Nat} {v : VideoHandle α} (hv : s.videos[i]? = some v)
    {transport : PublisherTransport α} :
    VideoHandle.Sound
      (if s.transport.videoControl = some i ∧ s.transport.videoPaused ≠ transport.videoPaused
        then switchVideo transport.videoPaused v else v)
      s.active (v.transportAttached && transport.videoPaused) := by
  have hsound := h.videos i v hv
  split
  next htold =>
    obtain ⟨w, hw, hready⟩ := h.controlled i htold.1
    obtain rfl := Option.some.inj (hv.symm.trans hw)
    have hwas : s.transport.videoPaused = !transport.videoPaused := by
      cases hnow : transport.videoPaused <;> simpa [hnow] using htold.2
    by_cases hshut : v.closed = true
    · have hswitched : (switchVideo transport.videoPaused v).Sound s.active
          transport.videoPaused := (hsound.of_closed hshut).switch hready
      refine hswitched.of_closed ?_
      rw [told_switchVideo transport.videoPaused v]
      exact hshut
    · have hattached := hready (Bool.eq_false_of_not_eq_true hshut)
      rw [hattached, Bool.true_and, hwas] at hsound
      rw [hattached, Bool.true_and]
      exact hsound.switch hready
  next htold =>
    by_cases hshut : v.closed = true
    · exact hsound.of_closed hshut
    · by_cases hactive : s.active = true
      · cases hattached : v.transportAttached with
        | false =>
          rw [hattached] at hsound
          exact hsound
        | true =>
          have hcontrol := h.control hactive i v hv (Bool.eq_false_of_not_eq_true hshut) hattached
          have hsame : s.transport.videoPaused = transport.videoPaused := by
            by_contra hne
            exact htold ⟨hcontrol, hne⟩
          rw [hattached, hsame] at hsound
          exact hsound
      · rw [Bool.eq_false_of_not_eq_true hactive] at hsound ⊢
        exact hsound.of_ended

/-- The transport tells the video that it controls what it now wants of it. -/
theorem switch (h : s.Linked) {transport : PublisherTransport α}
    (hcontrol : transport.videoControl = s.transport.videoControl) :
    Linked { s with
      transport
      videos := switchVideos s.videos s.transport.videoControl s.transport.videoPaused
        transport.videoPaused } := by
  have hflags (v : VideoHandle α) : (switchVideo transport.videoPaused v).closed = v.closed ∧
      (switchVideo transport.videoPaused v).transportAttached = v.transportAttached := by
    rw [told_switchVideo transport.videoPaused v]
    exact ⟨rfl, rfl⟩
  have hget (i : Nat) (v' : VideoHandle α)
      (hv : (switchVideos s.videos s.transport.videoControl s.transport.videoPaused
        transport.videoPaused)[i]? = some v') :
      ∃ v, s.videos[i]? = some v ∧ v' =
        if s.transport.videoControl = some i ∧ s.transport.videoPaused ≠ transport.videoPaused
        then switchVideo transport.videoPaused v else v := by
    rw [getElem?_switchVideos] at hv
    obtain ⟨v, hold, rfl⟩ := Option.map_eq_some_iff.mp hv
    exact ⟨v, hold, rfl⟩
  have hsame (i : Nat) (v : VideoHandle α) : (if s.transport.videoControl = some i ∧
      s.transport.videoPaused ≠ transport.videoPaused
      then switchVideo transport.videoPaused v else v).closed = v.closed ∧
      (if s.transport.videoControl = some i ∧ s.transport.videoPaused ≠ transport.videoPaused
      then switchVideo transport.videoPaused v else v).transportAttached = v.transportAttached := by
    split
    next => exact hflags v
    next => exact ⟨rfl, rfl⟩
  constructor
  · intro i v' hv'
    obtain ⟨v, hold, rfl⟩ := hget i v' hv'
    rw [(hsame i v).2]
    exact h.switched hold
  · intro hactive i v' hv hopen hready
    obtain ⟨v, hold, rfl⟩ := hget i v' hv
    rw [(hsame i v).1] at hopen
    rw [(hsame i v).2] at hready
    exact hcontrol.trans (h.control hactive i v hold hopen hready)
  · intro i hi
    obtain ⟨v, hv, hready⟩ := h.controlled i (hcontrol.symm.trans hi)
    refine ⟨_, (getElem?_switchVideos ..).trans (congrArg _ hv), ?_⟩
    rw [(hsame i v).1, (hsame i v).2]
    exact hready
  · intro i j v' w' hv hw hne
    obtain ⟨v, hold, rfl⟩ := hget i v' hv
    obtain ⟨w, hold', rfl⟩ := hget j w' hw
    rw [(hsame i v).1, (hsame j w).1]
    exact h.single i j v w hold hold' hne

/-- The transport lets go of a worker that the page gives up. -/
theorem giveUp (h : s.Linked) {index : Nat} {v : VideoHandle α}
    (hv : s.videos[index]? = some v) {transport : PublisherTransport α}
    (htransport : transport = s.transport ∨ transport = s.transport.detachVideo index)
    {f : VideoHandle α → VideoHandle α} (htraffic : (f v).traffic = v.traffic)
    (hclosed : (f v).closed = true) (hsettled : (f v).readySettled = true)
    (hattached : (f v).transportAttached = true → v.transportAttached = true) :
    (UploadSession.update { s with transport } index f).Linked := by
  have hget (i : Nat) (v' : VideoHandle α)
      (hv' : (UploadSession.update { s with transport } index f).videos[i]? = some v') :
      ∃ w, s.videos[i]? = some w ∧ v' = if index = i then f w else w := by
    rw [getElem?_update] at hv'
    obtain ⟨w, hold, rfl⟩ := Option.map_eq_some_iff.mp hv'
    exact ⟨w, hold, rfl⟩
  have hsame (hcontrol : s.transport.videoControl ≠ some index) : transport = s.transport := by
    rcases htransport with hsame | hdetached
    · exact hsame
    · exact hdetached.trans (if_pos hcontrol)
  have hother (i : Nat) (w : VideoHandle α) (hw : s.videos[i]? = some w) (hi : index ≠ i)
      (hactive : s.active = true) (hopen : w.closed = false) (hready : w.transportAttached = true) :
      transport = s.transport := by
    refine hsame fun hcontrol => ?_
    exact hi (Option.some.inj (hcontrol.symm.trans (h.control hactive i w hw hopen hready)))
  constructor
  · intro i v' hv'
    obtain ⟨w, hw, rfl⟩ := hget i v' hv'
    split
    next hi =>
      obtain rfl := Option.some.inj (hv.symm.trans (hi ▸ hw))
      exact (h.videos index v hv).giveUp htraffic hclosed hsettled hattached
    next hi =>
      have hsound := h.videos i w hw
      by_cases hclosed : w.closed = true
      · exact hsound.of_closed hclosed
      · by_cases hactive : s.active = true
        · cases hready : w.transportAttached with
          | false =>
            rw [hready] at hsound
            exact hsound
          | true =>
            rw [hother i w hw hi hactive (Bool.eq_false_of_not_eq_true hclosed) hready]
            rw [hready] at hsound
            exact hsound
        · show w.Sound s.active _
          rw [Bool.eq_false_of_not_eq_true hactive] at hsound ⊢
          exact hsound.of_ended
  · intro hactive i v' hv' hopen hready
    obtain ⟨w, hw, rfl⟩ := hget i v' hv'
    split at hopen
    next hi =>
      obtain rfl := Option.some.inj (hv.symm.trans (hi ▸ hw))
      rw [hclosed] at hopen
      cases hopen
    next hi =>
      rw [if_neg hi] at hready
      show transport.videoControl = some i
      rw [hother i w hw hi hactive hopen hready]
      exact h.control hactive i w hw hopen hready
  · intro i hi
    have hcontrol : s.transport.videoControl = some i := by
      rcases htransport with rfl | rfl
      · exact hi
      · rw [UploadSession.update, PublisherTransport.detachVideo] at hi
        dsimp only at hi
        split at hi
        next => exact hi
        next => cases hi
    obtain ⟨w, hw, hready⟩ := h.controlled i hcontrol
    refine ⟨_, (getElem?_update ..).trans (congrArg _ hw), ?_⟩
    split
    next heq =>
      obtain rfl := Option.some.inj (hv.symm.trans (heq ▸ hw))
      intro hopen
      rw [hclosed] at hopen
      cases hopen
    next => exact hready
  · intro i j v' w' hv' hw' hne
    obtain ⟨x, hx, rfl⟩ := hget i v' hv'
    obtain ⟨y, hy, rfl⟩ := hget j w' hw'
    by_cases hi : index = i
    · obtain rfl := Option.some.inj (hv.symm.trans (hi ▸ hx))
      rw [if_pos hi]
      exact .inl hclosed
    · by_cases hj : index = j
      · obtain rfl := Option.some.inj (hv.symm.trans (hj ▸ hy))
        rw [if_pos hj]
        exact .inr hclosed
      · rw [if_neg hi, if_neg hj]
        exact h.single i j x y hx hy hne

theorem poll (h : s.Linked) (hmetered : s.Metered) (hactive : s.active = true) {now : α}
    (hnow : s.clock ≤ now) : (s.poll now).Linked := by
  have hfailed : s.transport.failed = false := by rw [hmetered.failed, hactive]; rfl
  have hmeasures := PublisherTransport.measures hmetered.pauses (hmetered.ne_zero hnow)
    s.bufferedAmount
  have hswitched := h.switch hmeasures.control
  have hpolled : (s.polled now).Linked := { hswitched with }
  rw [poll_eq hactive hfailed hmetered.pauses (hmetered.ne_zero hnow)]
  split
  next =>
    have hfails : Linked { s.polled now with failures := (s.polled now).failures + 1 } :=
      { hpolled with }
    exact hfails.cleanup
  next => exact hpolled

theorem send (h : s.Linked) (byteLength : Nat) (throws : Bool) :
    (s.send byteLength throws).Linked := by
  rw [UploadSession.send]
  split
  next =>
    rw [PublisherTransport.abort]
    split
    next => exact { h with }
    next =>
      have hfails : Linked { s with
          transport := { s.transport with failed := true }
          failures := s.failures + 1 } := { h with }
      exact hfails.cleanup
  next => exact { h with }

/-- A new worker is created while every other one has been given up. -/
theorem createVideo (h : s.Linked) (hclosed : s.videos.all (·.closed) = true)
    (message : InitMessage α) :
    Linked { s with videos := s.videos ++ [.create message] } := by
  have hget (i : Nat) (v : VideoHandle α)
      (hv : (s.videos ++ [VideoHandle.create message])[i]? = some v) :
      s.videos[i]? = some v ∧ v.closed = true ∨
        i = s.videos.length ∧ v = VideoHandle.create message := by
    rw [List.getElem?_append] at hv
    split at hv
    next hlt => exact .inl ⟨hv, List.all_eq_true.mp hclosed v (List.mem_of_getElem? hv)⟩
    next hge =>
      obtain ⟨hlt, rfl⟩ := List.getElem?_eq_some_iff.mp hv
      rw [List.length_singleton] at hlt
      exact .inr ⟨by omega, by simp⟩
  constructor
  · intro i v hv
    rcases hget i v hv with ⟨hold, -⟩ | ⟨-, rfl⟩
    · exact h.videos i v hold
    · exact .create message s.active
  · intro hactive i v hv hopen hready
    rcases hget i v hv with ⟨-, hshut⟩ | ⟨-, rfl⟩
    · rw [hshut] at hopen
      cases hopen
    · cases hready
  · intro i hi
    obtain ⟨v, hv, hready⟩ := h.controlled i hi
    exact ⟨v, (List.getElem?_append_left (List.getElem?_eq_some_iff.mp hv).1).trans hv, hready⟩
  · intro i j v w hv hw hne
    rcases hget i v hv with ⟨-, hshut⟩ | ⟨hi, -⟩
    · exact .inl hshut
    · rcases hget j w hw with ⟨-, hshut⟩ | ⟨hj, -⟩
      · exact .inr hshut
      · exact absurd (hi.trans hj.symm) hne

theorem terminate (h : s.Linked) {index : Nat} {v : VideoHandle α}
    (hv : s.videos[index]? = some v) (hclosed : v.closed = true) :
    (s.terminate index v).Linked := by
  refine h.giveUp hv ?_ rfl hclosed ((h.videos index v hv).shut hclosed) nofun
  split
  next => exact .inr rfl
  next => exact .inl rfl

theorem failVideo (h : s.Linked) {index : Nat} {v : VideoHandle α}
    (hv : s.videos[index]? = some v) : (s.failVideo index v).Linked := by
  by_cases hclosed : v.closed = true
  · rw [UploadSession.failVideo, if_pos hclosed]
    exact h.giveUp hv (.inl rfl) rfl hclosed rfl id
  · rw [failVideo_eq hclosed]
    refine h.giveUp hv ?_ rfl rfl rfl nofun
    split
    next => exact .inr rfl
    next => exact .inl rfl

/-- `ready` is received: the transport takes the worker over, and pauses it at once while the
upload is congested. -/
theorem ready (h : s.Linked) {index : Nat} {v : VideoHandle α}
    (hv : s.videos[index]? = some v) {replies : List WorkerReply}
    (hreplies : v.replies = .ready :: replies) (hsettled : v.readySettled = false) :
    ((s.update index ({ · with replies })).attachVideo index).Linked := by
  have hopen : v.closed = false := by
    refine Bool.eq_false_of_not_eq_true fun hclosed => ?_
    rw [(h.videos index v hv).shut hclosed] at hsettled
    cases hsettled
  have hsound := h.videos index v hv
  have hunattached : v.transportAttached = false := (hsound.links hopen).settled.trans hsettled
  rw [hunattached, Bool.false_and] at hsound
  let congested : Bool := decide s.transport.Congested
  let taken (w : VideoHandle α) : VideoHandle α :=
    { if congested then switchVideo true { w with replies } else { w with replies } with
      transportAttached := true, readySettled := true }
  have heq : (s.update index ({ · with replies })).attachVideo index =
      UploadSession.update
        { s with transport := { s.transport with
            videoControl := some index, videoPaused := congested } }
        index taken := by
    have hattach := attachVideo_eq (s.update index ({ · with replies })) index
      (show decide s.transport.Congested = congested from rfl)
    rw [hattach, UploadSession.update, UploadSession.update, UploadSession.update]
    dsimp only
    rw [switchVideos]
    cases hcongested : congested with
    | false =>
      rw [if_pos rfl, List.modify_modify_eq]
      simp only [taken, hcongested]
      rfl
    | true =>
      rw [if_neg nofun, List.modify_modify_eq, List.modify_modify_eq]
      simp only [taken, hcongested]
      rfl
  have htaken : (taken v).Sound s.active congested := by
    have hattached := hsound.attach hreplies
    cases hcongested : congested with
    | false =>
      simp only [taken, hcongested]
      exact hattached
    | true =>
      have hpaused := hattached.pause fun _ => rfl
      rw [VideoHandle.pause, VideoHandle.post, if_neg (Bool.eq_false_iff.mp hopen)] at hpaused
      simp only [taken, hcongested]
      rw [if_pos trivial, switchVideo, if_pos rfl, VideoHandle.pause, VideoHandle.post,
        if_neg (Bool.eq_false_iff.mp hopen)]
      exact hpaused
  have hothers (i : Nat) (w : VideoHandle α) (hw : s.videos[i]? = some w) (hi : index ≠ i) :
      w.closed = true := by
    refine (h.single index i v w hv hw hi).resolve_left fun hclosed => ?_
    rw [hopen] at hclosed
    cases hclosed
  rw [heq]
  have hget (i : Nat) (v' : VideoHandle α)
      (hv' : (UploadSession.update { s with transport := { s.transport with
        videoControl := some index, videoPaused := congested } } index taken).videos[i]? =
          some v') :
      index = i ∧ v' = taken v ∨ index ≠ i ∧ s.videos[i]? = some v' ∧ v'.closed = true := by
    rw [getElem?_update] at hv'
    obtain ⟨w, hw, rfl⟩ := Option.map_eq_some_iff.mp hv'
    have hold : s.videos[i]? = some w := hw
    by_cases hi : index = i
    · rw [← hi, hv] at hold
      obtain rfl := Option.some.inj hold
      exact .inl ⟨hi, if_pos hi⟩
    · rw [if_neg hi]
      exact .inr ⟨hi, hold, hothers i w hold hi⟩
  constructor
  · intro i v' hv'
    rcases hget i v' hv' with ⟨-, rfl⟩ | ⟨-, hw, hclosed⟩
    · exact htaken
    · exact (h.videos i v' hw).of_closed hclosed
  · intro _ i v' hv' hstays _
    rcases hget i v' hv' with ⟨rfl, -⟩ | ⟨-, -, hclosed⟩
    · rfl
    · rw [hclosed] at hstays
      cases hstays
  · intro i hi
    obtain rfl := Option.some.inj (show some index = some i from hi)
    refine ⟨taken v, (getElem?_update ..).trans ?_, fun _ => rfl⟩
    rw [hv]
    exact congrArg some (if_pos rfl)
  · intro i j v' w' hv' hw' hne
    rcases hget i v' hv' with ⟨hi, -⟩ | ⟨-, -, hclosed⟩
    · rcases hget j w' hw' with ⟨hj, -⟩ | ⟨-, -, hclosed⟩
      · exact absurd (hi.symm.trans hj) hne
      · exact .inr hclosed
    · exact .inl hclosed

end Linked

end UploadSession

end VRCStreamer
