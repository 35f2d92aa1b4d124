import VRCStreamer.Client.UploadLinks

/-!
# The runs of an upload

Whatever the order of polls, packets and messages, the page queues no more than the threshold and
one packet beside its commands, the worker does what the transport wants once it has handled its
messages, and a gap in the video ends with a keyframe.
-/

namespace VRCStreamer

open Concurrency Policing

namespace UploadSession

variable {α : Type*} {s : UploadSession α} {index : Nat} {received : List Nat}

/-! ## Packets under way -/

/-- The packets of a worker that has not been given up arrive in order while the socket is open.
One of them may just have been received. -/
def Queued (s : UploadSession α) (index : Nat) (received : List Nat) : Prop :=
  ∀ (i : Nat) (v : VideoHandle α), s.videos[i]? = some v → v.closed = false → s.active = true →
    s.socketOpen = true → v.InOrder (if i = index then received else [])

/-- What the page has queued fits the threshold, one packet and its commands. -/
def Budgeted (s : UploadSession α) : Prop :=
  s.bufferedAmount ≤ wsPauseBufferedBytes + s.largest + s.commandBytes

namespace Queued

theorem ended (hactive : s.active = false) : s.Queued index received := by
  intro i v _ _ hrunning
  rw [hactive] at hrunning
  cases hrunning

theorem update {received' : List Nat} (h : s.Queued index received)
    {f : VideoHandle α → VideoHandle α}
    (horder : ∀ v, s.videos[index]? = some v → (f v).closed = false → s.active = true →
      s.socketOpen = true → v.closed = false ∧ (v.InOrder received → (f v).InOrder received')) :
    (s.update index f).Queued index received' := by
  intro i v' hv' hopen hactive hsocket
  rw [getElem?_update] at hv'
  obtain ⟨v, hv, rfl⟩ := Option.map_eq_some_iff.mp hv'
  by_cases hi : index = i
  · rw [if_pos hi] at hopen ⊢
    rw [if_pos hi.symm]
    obtain ⟨hstays, hkept⟩ := horder v (hi ▸ hv) hopen hactive hsocket
    have hold := h i v hv hstays hactive hsocket
    rw [if_pos hi.symm] at hold
    exact hkept hold
  · rw [if_neg hi] at hopen ⊢
    rw [if_neg (Ne.symm hi)]
    have hold := h i v hv hopen hactive hsocket
    rw [if_neg (Ne.symm hi)] at hold
    exact hold

/-- A video is told to pause or to resume. -/
theorem switch (h : s.Queued index received) (transport : PublisherTransport α)
    (control : Option Nat) (was paused : Bool) :
    Queued { s with transport, videos := switchVideos s.videos control was paused } index
      received := by
  intro i v' hv' hopen hactive hsocket
  rw [getElem?_switchVideos] at hv'
  obtain ⟨v, hv, rfl⟩ := Option.map_eq_some_iff.mp hv'
  have htold : v.Told
      (if control = some i ∧ was ≠ paused then switchVideo paused v else v) := by
    split
    next => exact told_switchVideo paused v
    next => exact .refl v
  refine (h i v hv ?_ hactive hsocket).told htold
  rw [htold] at hopen
  exact hopen

/-- With nothing received no worker is singled out. -/
theorem nil (h : s.Queued index []) (j : Nat) : s.Queued j [] := by
  intro i v hv hopen hactive hsocket
  have hold := h i v hv hopen hactive hsocket
  rw [ite_self] at hold ⊢
  exact hold

end Queued

/-! ## Polls -/

variable [Field α] [LinearOrder α]

/-- What a poll leaves alone, and what it may tell. -/
theorem poll_kept (hmetered : s.Metered) (hactive : s.active = true) {now : α}
    (hnow : s.clock ≤ now) :
    (∀ i : Nat, ∃ paused, (s.poll now).videos[i]? = s.videos[i]?.map fun v =>
      if s.transport.videoControl = some i ∧ s.transport.videoPaused ≠ paused
        then switchVideo paused v else v) ∧
      (s.poll now).bufferedAmount = s.bufferedAmount ∧ (s.poll now).largest = s.largest ∧
      (s.poll now).commandBytes = s.commandBytes ∧
      ((s.poll now).active = true → (s.poll now).socketOpen = s.socketOpen) := by
  have hfailed : s.transport.failed = false := by rw [hmetered.failed, hactive]; rfl
  rw [poll_eq hactive hfailed hmetered.pauses (hmetered.ne_zero hnow)]
  split
  next =>
    rw [onFailure_eq (s := s.polled now) hactive]
    exact ⟨fun i => ⟨_, getElem?_switchVideos ..⟩, rfl, rfl, rfl, nofun⟩
  next => exact ⟨fun i => ⟨_, getElem?_switchVideos ..⟩, rfl, rfl, rfl, fun _ => rfl⟩

theorem poll_told (hmetered : s.Metered) (hactive : s.active = true) {now : α}
    (hnow : s.clock ≤ now) {i : Nat} {v' : VideoHandle α}
    (hv' : (s.poll now).videos[i]? = some v') : ∃ v, s.videos[i]? = some v ∧ v.Told v' := by
  obtain ⟨paused, hget⟩ := (poll_kept hmetered hactive hnow).1 i
  rw [hget] at hv'
  obtain ⟨v, hv, rfl⟩ := Option.map_eq_some_iff.mp hv'
  refine ⟨v, hv, ?_⟩
  split
  next => exact told_switchVideo paused v
  next => exact .refl v

/-- A poll that finds the upload free of congestion has read little enough. -/
theorem queued_le_of_poll (hmetered : s.Metered) (hactive : s.active = true) {now : α}
    (hnow : s.clock ≤ now) (hfailed : (s.poll now).transport.failed = false)
    (hcalm : ¬ (s.poll now).transport.Congested) : s.bufferedAmount ≤ wsPauseBufferedBytes := by
  have hold : s.transport.failed = false := by rw [hmetered.failed, hactive]; rfl
  have hmeasures := PublisherTransport.measures hmetered.pauses (hmetered.ne_zero hnow)
    s.bufferedAmount
  rw [poll_eq hactive hold hmetered.pauses (hmetered.ne_zero hnow)] at hfailed hcalm
  split at hfailed
  next =>
    rw [onFailure_eq (s := s.polled now) hactive] at hfailed
    cases hfailed
  next hstalled =>
    rw [if_neg hstalled] at hcalm
    have hnone := PublisherTransport.since_eq_none.mpr hcalm
    have hnext : uploadSwitch.next s.transport.since (now, s.bufferedAmount) = none :=
      hmeasures.since.symm.trans hnone
    rw [uploadSwitch_next] at hnext
    by_contra hlarge
    rw [if_pos (not_le.mp hlarge)] at hnext
    cases hnext

theorem Queued.poll (h : s.Queued index received) (hmetered : s.Metered) (hactive : s.active = true)
    {now : α} (hnow : s.clock ≤ now) : (s.poll now).Queued index received := by
  intro i v' hv' hopen hrunning hsocket
  obtain ⟨v, hv, htold⟩ := poll_told hmetered hactive hnow hv'
  have hclosed : v'.closed = v.closed := by rw [htold]
  rw [(poll_kept hmetered hactive hnow).2.2.2.2 hrunning] at hsocket
  exact (h i v hv (hclosed.symm.trans hopen) hactive hsocket).told htold

variable [FloorRing α] [IsStrictOrderedRing α]

/-- Everything that holds between two steps of a session. -/
structure Sound (s : UploadSession α) : Prop where
  metered : s.Metered
  linked : s.Linked
  queued : s.Queued 0 []
  budgeted : s.Budgeted

/-- A message is sent once the page has little enough queued. -/
theorem sound_send (hmetered : s.Metered) (hlinked : s.Linked) (hqueued : s.Queued 0 [])
    (hbudgeted : s.Budgeted) (hactive : s.active = true)
    (hle : s.bufferedAmount ≤ wsPauseBufferedBytes) (byteLength : Nat) (throws : Bool) :
    (s.send byteLength throws).Sound := by
  refine ⟨hmetered.send hactive byteLength throws, hlinked.send byteLength throws, ?_, ?_⟩
  · cases throws with
    | false => exact hqueued
    | true =>
      apply Queued.ended
      rw [send_throws hactive (by rw [hmetered.failed, hactive]; rfl)]
  · cases throws with
    | false =>
      show s.bufferedAmount + byteLength ≤
        wsPauseBufferedBytes + max s.largest byteLength + s.commandBytes
      have := le_max_right s.largest byteLength
      omega
    | true =>
      rw [send_throws hactive (by rw [hmetered.failed, hactive]; rfl)]
      exact hbudgeted

/-- A packet has been taken from the queue of its worker. -/
theorem sound_receivePacket {frame : Nat} {v v₁ : VideoHandle α} {now : α} (h : s.Linked)
    (hmetered : s.Metered)
    (hv : s.videos[index]? = some v₁) (hclosed : v.closed = v₁.closed)
    (hready : v₁.closed = false → v₁.transportAttached = true) (hqueued : s.Queued index [frame])
    (hbudgeted : s.Budgeted) (hnow : s.clock ≤ now) (byteLength : Nat) (throws : Bool) :
    (s.receivePacket index v frame byteLength now throws).Sound := by
  rw [receivePacket]
  split
  next hignored =>
    refine ⟨hmetered, h, ?_, hbudgeted⟩
    intro i w hw hopen hactive hsocket
    have hold := hqueued i w hw hopen hactive hsocket
    rw [ite_self]
    split at hold
    next hi =>
      obtain rfl := Option.some.inj (hv.symm.trans (hi ▸ hw))
      rw [hclosed, hopen, hactive, hsocket] at hignored
      simp at hignored
    next => exact hold
  next htaken =>
    simp only [not_or, Bool.not_eq_true, Bool.not_eq_false] at htaken
    obtain ⟨hopen, hactive, hsocket⟩ := htaken
    have hlinked := h.poll hmetered hactive hnow
    have hpolled := hmetered.poll hactive hnow
    have hqueue := hqueued.poll hmetered hactive hnow
    obtain ⟨-, hbuffered, hlargest, hcommand, -⟩ := poll_kept hmetered hactive hnow
    have hbudget : (s.poll now).Budgeted := by
      rw [Budgeted, hbuffered, hlargest, hcommand]
      exact hbudgeted
    dsimp only
    split
    next hfailed =>
      refine ⟨hpolled, hlinked, Queued.ended ?_, hbudget⟩
      rw [hpolled.failed] at hfailed
      simpa using hfailed
    next hfailed =>
      have hrunning : (s.poll now).active = true := by
        rw [hpolled.failed] at hfailed
        simpa using hfailed
      have hgood := Bool.eq_false_of_not_eq_true hfailed
      have hstillOpen : (s.poll now).socketOpen = s.socketOpen :=
        (poll_kept hmetered hactive hnow).2.2.2.2 hrunning
      have hexists : ∃ w, (s.poll now).videos[index]? = some w := by
        obtain ⟨paused, hget⟩ := (poll_kept hmetered hactive hnow).1 index
        rw [hget, hv]
        exact ⟨_, rfl⟩
      have hworker (w : VideoHandle α) (hw : (s.poll now).videos[index]? = some w) :
          w.closed = false ∧ w.transportAttached = true := by
        obtain ⟨w₁, hw₁, htold⟩ := poll_told hmetered hactive hnow hw
        obtain rfl := Option.some.inj (hv.symm.trans hw₁)
        rw [htold]
        exact ⟨hclosed.symm.trans hopen, hready (hclosed.symm.trans hopen)⟩
      have harrive (w : VideoHandle α) (hw : (s.poll now).videos[index]? = some w) :
          (w.arrive frame (!(s.poll now).transport.videoPaused)).Sound (s.poll now).active
            (w.transportAttached && (s.poll now).transport.videoPaused) := by
        have hsound := hlinked.videos index w hw
        obtain ⟨hstays, hattached⟩ := hworker w hw
        have horder := hqueue index w hw hstays hrunning (hstillOpen.trans hsocket)
        rw [if_pos rfl] at horder
        obtain ⟨rfl, hroom⟩ := horder.next hsound.frames
        rw [hrunning, hattached, Bool.true_and] at hsound ⊢
        exact hsound.arrive hstays hattached hroom
      have harrived (sent : Bool) (hsent : sent = !(s.poll now).transport.videoPaused) :
          ((s.poll now).update index (·.arrive frame sent)).Linked ∧
            ((s.poll now).update index (·.arrive frame sent)).Queued 0 [] := by
        rw [hsent]
        refine ⟨hlinked.update index harrive fun _ _ => ⟨rfl, id⟩, ?_⟩
        have hnone : ((s.poll now).update index (·.arrive frame
            (!(s.poll now).transport.videoPaused))).Queued index [] :=
          hqueue.update fun w hw _ _ _ => ⟨(hworker w hw).1, fun horder => horder.arrive _⟩
        exact hnone.nil 0
      split
      next hpaused =>
        obtain ⟨harrivedLinked, harrivedQueued⟩ := harrived false (by rw [hpaused]; rfl)
        exact ⟨{ hpolled with }, harrivedLinked, harrivedQueued, hbudget⟩
      next hpaused =>
        have hrunningVideo := Bool.eq_false_of_not_eq_true hpaused
        obtain ⟨harrivedLinked, harrivedQueued⟩ := harrived true (by rw [hrunningVideo]; rfl)
        have hle : (s.poll now).bufferedAmount ≤ wsPauseBufferedBytes := by
          rw [hbuffered]
          refine queued_le_of_poll hmetered hactive hnow hgood fun hcongested => ?_
          obtain ⟨w, hw⟩ := hexists
          have hcontrol := hlinked.control hrunning index w hw (hworker w hw).1 (hworker w hw).2
          have hpauses := hpolled.pauses
          rw [PublisherTransport.Pauses, hcontrol, hrunningVideo] at hpauses
          simp [hcongested] at hpauses
        split
        next hthrows =>
          rw [hthrows, send_throws hrunning hgood byteLength]
          have hsent := hpolled.send hrunning byteLength true
          have hlinkedSent := hlinked.send byteLength true
          rw [send_throws hrunning hgood byteLength] at hsent hlinkedSent
          exact ⟨hsent, hlinkedSent, Queued.ended rfl, hbudget⟩
        next hthrows =>
          rw [Bool.eq_false_of_not_eq_true hthrows]
          have hsound := sound_send (s := (s.poll now).update index (·.arrive frame true))
            { hpolled with } harrivedLinked harrivedQueued hbudget hrunning hle byteLength false
          exact ⟨{ hsound.metered with }, { hsound.linked with }, hsound.queued, hsound.budgeted⟩

/-! ## Steps -/

omit [LinearOrder α] [FloorRing α] [IsStrictOrderedRing α] [Field α] in
theorem putOut_flags {v v' : VideoHandle α} {byteLength : Nat}
    (h : v.putOut byteLength = some v') :
    v'.closed = v.closed ∧ v'.transportAttached = v.transportAttached := by
  rw [VideoHandle.putOut, Option.ite_none_left_eq_some] at h
  obtain ⟨-, h⟩ := h
  split at h
  all_goals
    obtain rfl := Option.some.inj h
    exact ⟨rfl, rfl⟩

theorem work_flags {v v' : VideoHandle α} {event : WorkerEvent α} (h : v.work event = some v') :
    v'.closed = v.closed ∧ v'.transportAttached = v.transportAttached := by
  rw [VideoHandle.work.eq_def, Option.ite_none_left_eq_some] at h
  obtain ⟨w, -, rfl⟩ := Option.map_eq_some_iff.mp h.2
  exact ⟨rfl, rfl⟩

theorem handle_flags {v v' : VideoHandle α} {now next : α} (h : v.handle now next = some v') :
    v'.closed = v.closed ∧ v'.transportAttached = v.transportAttached := by
  rw [VideoHandle.handle.eq_def] at h
  split at h
  next => cases h
  next =>
    rw [Option.ite_none_left_eq_some] at h
    obtain ⟨w, -, rfl⟩ := Option.map_eq_some_iff.mp h.2
    exact ⟨rfl, rfl⟩

namespace Sound

theorem start {created : α} (h : 0 < created) : (new created).Sound where
  metered := metered_new h
  linked := .start created
  queued i v hv := by cases hv
  budgeted := Nat.zero_le _

/-- A worker changes. -/
theorem update (h : s.Sound) (index : Nat) {f : VideoHandle α → VideoHandle α}
    (hsound : ∀ v, s.videos[index]? = some v →
      (f v).Sound s.active (v.transportAttached && s.transport.videoPaused))
    (hkept : ∀ v, s.videos[index]? = some v →
      (f v).transportAttached = v.transportAttached ∧ (v.closed = true → (f v).closed = true))
    (horder : ∀ v, s.videos[index]? = some v → v.InOrder [] → (f v).InOrder []) :
    (s.update index f).Sound where
  metered := { h.metered with }
  linked := h.linked.update index hsound hkept
  queued := by
    refine (Queued.update (h.queued.nil index) fun v hv hopen _ _ => ⟨?_, horder v hv⟩).nil 0
    refine Bool.eq_false_of_not_eq_true fun hclosed => ?_
    rw [(hkept v hv).2 hclosed] at hopen
    cases hopen
  budgeted := h.budgeted

theorem cleanup (h : s.Sound) : s.cleanup.Sound := by
  refine ⟨h.metered.cleanup, h.linked.cleanup, ?_, ?_⟩
  · rw [UploadSession.cleanup]
    split
    next => exact h.queued
    next => exact Queued.ended rfl
  · rw [UploadSession.cleanup]
    split <;> exact h.budgeted

theorem createVideo (h : s.Sound) (hclosed : s.videos.all (·.closed) = true)
    (message : InitMessage α) : Sound { s with videos := s.videos ++ [.create message] } where
  metered := { h.metered with }
  linked := h.linked.createVideo hclosed message
  queued i v hv hopen hactive hsocket := by
    rw [ite_self]
    rw [List.getElem?_append] at hv
    split at hv
    next =>
      have hold := h.queued i v hv hopen hactive hsocket
      rw [ite_self] at hold
      exact hold
    next =>
      obtain ⟨hlt, rfl⟩ := List.getElem?_eq_some_iff.mp hv
      rw [List.length_singleton] at hlt
      simp only [Nat.lt_one_iff.mp hlt, List.getElem_cons_zero]
      exact .create message
  budgeted := h.budgeted

theorem giveUp (h : s.Sound) {v : VideoHandle α} (hv : s.videos[index]? = some v)
    {transport : PublisherTransport α}
    (htransport : transport = s.transport ∨ transport = s.transport.detachVideo index)
    {f : VideoHandle α → VideoHandle α}
    (hlinked : (UploadSession.update { s with transport } index f).Linked)
    (hclosed : (f v).closed = true) :
    (UploadSession.update { s with transport } index f).Sound where
  metered := by
    rcases htransport with rfl | rfl
    · exact { h.metered with }
    · rw [PublisherTransport.detachVideo]
      split
      next => exact { h.metered with }
      next => exact { h.metered with pauses := rfl, since := h.metered.since }
  linked := hlinked
  queued i w hw hopen hactive hsocket := by
    rw [getElem?_update] at hw
    obtain ⟨w₁, hw₁, rfl⟩ := Option.map_eq_some_iff.mp hw
    split at hopen
    next hi =>
      obtain rfl := Option.some.inj (hv.symm.trans (hi ▸ hw₁))
      rw [hclosed] at hopen
      cases hopen
    next hi =>
      rw [if_neg hi]
      exact h.queued i w₁ hw₁ hopen hactive hsocket
  budgeted := h.budgeted

theorem terminate (h : s.Sound) {v : VideoHandle α} (hv : s.videos[index]? = some v)
    (hclosed : v.closed = true) : (s.terminate index v).Sound := by
  refine h.giveUp hv ?_ (h.linked.terminate hv hclosed) hclosed
  split
  next => exact .inr rfl
  next => exact .inl rfl

theorem failVideo (h : s.Sound) {v : VideoHandle α} (hv : s.videos[index]? = some v) :
    (s.failVideo index v).Sound := by
  have hlinked := h.linked.failVideo hv
  by_cases hclosed : v.closed = true
  · rw [UploadSession.failVideo, if_pos hclosed] at hlinked ⊢
    exact h.giveUp hv (.inl rfl) hlinked hclosed
  · rw [failVideo_eq hclosed] at hlinked ⊢
    refine h.giveUp hv ?_ hlinked rfl
    split
    next => exact .inr rfl
    next => exact .inl rfl

/-- One worker is replaced by what it has become. -/
theorem replace (h : s.Sound) {v v' : VideoHandle α} (hv : s.videos[index]? = some v)
    (hsound : v'.Sound s.active (v.transportAttached && s.transport.videoPaused))
    (hflags : v'.closed = v.closed ∧ v'.transportAttached = v.transportAttached)
    (horder : v.InOrder [] → v'.InOrder []) : (s.update index fun _ => v').Sound := by
  refine h.update index (fun w hw => ?_) (fun w hw => ?_) fun w hw => ?_
  · obtain rfl := Option.some.inj (hv.symm.trans hw)
    exact hsound
  · obtain rfl := Option.some.inj (hv.symm.trans hw)
    exact ⟨hflags.2, fun hclosed => hflags.1.trans hclosed⟩
  · obtain rfl := Option.some.inj (hv.symm.trans hw)
    exact horder

/-- A reply that the transport has nothing to do with is taken from its queue. -/
theorem pop (h : s.Sound) {v : VideoHandle α} (hv : s.videos[index]? = some v)
    {reply : WorkerReply} {replies : List WorkerReply} (hreplies : v.replies = reply :: replies)
    (hready : reply ≠ .ready ∨ v.readySettled = true) (hframe : reply.frame = none) :
    (s.update index ({ · with replies })).Sound := by
  refine h.update index (fun w hw => ?_) (fun _ _ => ⟨rfl, id⟩) fun w hw horder => ?_
  · obtain rfl := Option.some.inj (hv.symm.trans hw)
    exact (h.linked.videos index v hv).pop hreplies hready
  · obtain rfl := Option.some.inj (hv.symm.trans hw)
    have hpopped := horder.pop hreplies
    rw [hframe] at hpopped
    exact hpopped

theorem ready (h : s.Sound) {v : VideoHandle α} (hv : s.videos[index]? = some v)
    {replies : List WorkerReply} (hreplies : v.replies = .ready :: replies)
    (hsettled : v.readySettled = false) :
    ((s.update index ({ · with replies })).attachVideo index).Sound := by
  have hlinked := h.linked.ready hv hreplies hsettled
  have hqueued : (s.update index ({ · with replies })).Queued index [] := by
    refine (h.queued.nil index).update fun w hw hopen _ _ => ⟨hopen, fun horder => ?_⟩
    obtain rfl := Option.some.inj (hv.symm.trans hw)
    exact horder.pop hreplies
  rw [attachVideo_eq _ _ rfl] at hlinked ⊢
  refine ⟨{ h.metered with pauses := ?_ }, hlinked, ?_, h.budgeted⟩
  · exact (Bool.true_and _).symm
  · have hswitched := hqueued.switch
      { s.transport with
        videoControl := some index, videoPaused := decide s.transport.Congested }
      (some index) false (decide s.transport.Congested)
    have hattached := hswitched.update
      (f := ({ · with transportAttached := true, readySettled := true }))
      fun w _ hopen _ _ => ⟨hopen, id⟩
    exact hattached.nil 0

/-- A packet comes only from a worker that the transport controls, unless it was given up. -/
theorem attached_of_packet {v : VideoHandle α} {live paused : Bool} (h : v.Sound live paused)
    {frame byteLength : Nat} {replies : List WorkerReply}
    (hreplies : v.replies = .packet frame byteLength :: replies) (hopen : v.closed = false) :
    v.transportAttached = true := by
  have hmem : .packet frame byteLength ∈ v.replies := by
    rw [hreplies]
    exact List.mem_cons_self
  rcases h.phase with ⟨_, _, _, _, _, hunheard⟩ | ⟨_, _, hunheard⟩ | hrunning
  · cases hunheard.replies _ hmem
  · cases hunheard.replies _ hmem
  · have hpackets := hrunning.packets
    rw [hreplies] at hpackets
    exact (h.links hopen).settled.trans hpackets.1

/-- The page receives the oldest reply of a worker. -/
theorem receive (h : s.Sound) {v : VideoHandle α} (hv : s.videos[index]? = some v)
    {reply : WorkerReply} {replies : List WorkerReply} (hreplies : v.replies = reply :: replies)
    {now : α} (hnow : s.clock ≤ now) (throws : Bool) :
    ((s.update index ({ · with replies })).receive index v now throws reply).Sound := by
  have hsound := h.linked.videos index v hv
  have hpopped : (s.update index ({ · with replies })).videos[index]? =
      some { v with replies } := by
    rw [getElem?_update, hv]
    exact congrArg some (if_pos rfl)
  cases reply with
  | ready =>
    rw [UploadSession.receive]
    split
    next hsettled => exact h.pop hv hreplies (.inr hsettled) rfl
    next hsettled => exact h.ready hv hreplies (Bool.eq_false_of_not_eq_true hsettled)
  | packet frame byteLength =>
    let popped := s.update index ({ · with replies })
    have hmetered : popped.Metered := { h.metered with }
    refine sound_receivePacket (s := popped) ?_ hmetered hpopped rfl ?_ ?_ h.budgeted hnow
      byteLength throws
    · refine h.linked.update index (fun w hw => ?_) fun _ _ => ⟨rfl, id⟩
      obtain rfl := Option.some.inj (hv.symm.trans hw)
      exact hsound.pop hreplies (.inl nofun)
    · intro hopen
      have hattached := attached_of_packet hsound hreplies hopen
      exact hattached
    · refine (h.queued.nil index).update fun w hw hopen _ _ => ⟨hopen, fun horder => ?_⟩
      obtain rfl := Option.some.inj (hv.symm.trans hw)
      exact horder.pop hreplies
  | closed =>
    have hclosed : v.closed = true := by
      by_contra hopen
      refine (hsound.links (Bool.eq_false_of_not_eq_true hopen)).replies ?_
      rw [hreplies]
      exact List.mem_cons_self
    show (UploadSession.terminate _ index { v with replies }).Sound
    exact (h.pop hv hreplies (.inl nofun) rfl).terminate hpopped hclosed
  | error =>
    show (UploadSession.failVideo _ index { v with replies }).Sound
    exact (h.pop hv hreplies (.inl nofun) rfl).failVideo hpopped

theorem sendAudioPacket (h : s.Sound) {now : α} (hnow : s.clock ≤ now) (byteLength : Nat)
    (stale withinBudget throws : Bool) :
    (s.sendAudioPacket byteLength stale now withinBudget throws).Sound := by
  rw [UploadSession.sendAudioPacket]
  split
  next => exact h
  next hready =>
    have hactive : s.active = true := not_not.mp fun hended => hready (.inl hended)
    have hmetered := h.metered.poll hactive hnow
    have hlinked := h.linked.poll h.metered hactive hnow
    have hqueued := Queued.poll h.queued h.metered hactive hnow
    obtain ⟨-, hbuffered, hlargest, hcommand, -⟩ := poll_kept h.metered hactive hnow
    have hbudget : (s.poll now).Budgeted := by
      rw [Budgeted, hbuffered, hlargest, hcommand]
      exact h.budgeted
    dsimp only
    split
    next => exact ⟨hmetered, hlinked, hqueued, hbudget⟩
    next hgood =>
      split
      next => exact ⟨hmetered, hlinked, hqueued, hbudget⟩
      next hcalm =>
        have hrunning : (s.poll now).active = true := by
          rw [hmetered.failed] at hgood
          simpa using hgood
        have hle := queued_le_of_poll h.metered hactive hnow (Bool.eq_false_of_not_eq_true hgood)
          fun hcongested => hcalm (.inl hcongested)
        exact sound_send hmetered hlinked hqueued hbudget hrunning (hbuffered ▸ hle) byteLength
          throws

theorem step {a : UploadAction α} (h : s.Sound) {s' : UploadSession α}
    (hstep : s.step a = some s') : s'.Sound := by
  cases a with
  | createVideo message =>
    rw [UploadSession.step, Option.ite_none_right_eq_some] at hstep
    obtain ⟨hclosed, hstep⟩ := hstep
    obtain rfl := Option.some.inj hstep
    exact h.createVideo hclosed message
  | post index message =>
    rw [UploadSession.step, Option.ite_none_right_eq_some] at hstep
    obtain ⟨hfree, hstep⟩ := hstep
    obtain rfl := Option.some.inj hstep
    refine h.update index (fun v hv => (h.linked.videos index v hv).post hfree) (fun v _ => ?_)
      fun v _ horder => horder.told (v.told_post message)
    rw [v.told_post message]
    exact ⟨rfl, id⟩
  | handle index now next =>
    obtain ⟨v, hv, hstep⟩ := Option.bind_eq_some_iff.mp hstep
    obtain ⟨v', hhandle, rfl⟩ := Option.map_eq_some_iff.mp hstep
    have hsound := h.linked.videos index v hv
    exact h.replace hv (hsound.handle hhandle) (handle_flags hhandle)
      fun horder => horder.handle hsound hhandle
  | work index event =>
    obtain ⟨v, hv, hstep⟩ := Option.bind_eq_some_iff.mp hstep
    obtain ⟨v', hwork, rfl⟩ := Option.map_eq_some_iff.mp hstep
    have hsound := h.linked.videos index v hv
    exact h.replace hv (hsound.work hwork) (work_flags hwork)
      fun horder => horder.work hsound hwork
  | output index byteLength =>
    obtain ⟨v, hv, hstep⟩ := Option.bind_eq_some_iff.mp hstep
    obtain ⟨v', hput, rfl⟩ := Option.map_eq_some_iff.mp hstep
    exact h.replace hv ((h.linked.videos index v hv).putOut hput) (putOut_flags hput)
      fun horder => horder.putOut hput
  | receive index now throws =>
    obtain ⟨v, hv, hstep⟩ := Option.bind_eq_some_iff.mp hstep
    split at hstep
    next => cases hstep
    next reply replies hreplies =>
      rw [Option.ite_none_left_eq_some] at hstep
      obtain ⟨hnow, hstep⟩ := hstep
      obtain rfl := Option.some.inj hstep
      exact h.receive hv hreplies (not_lt.mp hnow) throws
  | audioPacket byteLength stale now withinBudget throws =>
    rw [UploadSession.step, Option.ite_none_left_eq_some] at hstep
    obtain ⟨hnow, hstep⟩ := hstep
    obtain rfl := Option.some.inj hstep
    exact h.sendAudioPacket (not_lt.mp hnow) byteLength stale withinBudget throws
  | command byteLength =>
    obtain rfl := Option.some.inj hstep
    rw [sendStreamerCommand]
    split
    next => exact h
    next =>
      refine ⟨{ h.metered with }, { h.linked with }, h.queued, ?_⟩
      have hbudgeted := h.budgeted
      rw [Budgeted] at hbudgeted ⊢
      dsimp only
      omega
  | drain bytes =>
    obtain rfl := Option.some.inj hstep
    exact ⟨{ h.metered with }, { h.linked with }, h.queued,
      (Nat.sub_le s.bufferedAmount bytes).trans h.budgeted⟩
  | closeVideo index =>
    obtain rfl := Option.some.inj hstep
    refine h.update index (fun v hv => ?_) (fun v hv => ?_) fun v hv horder => ?_
    · exact (h.linked.videos index v hv).close
    · rw [VideoHandle.close]
      split
      next => exact ⟨rfl, id⟩
      next => exact ⟨rfl, fun _ => rfl⟩
    · rw [VideoHandle.close]
      split
      next => exact horder
      next => exact horder
  | failVideo index =>
    obtain ⟨v, hv, rfl⟩ := Option.map_eq_some_iff.mp hstep
    exact h.failVideo hv
  | terminate index =>
    obtain ⟨v, hv, hstep⟩ := Option.bind_eq_some_iff.mp hstep
    rw [Option.ite_none_right_eq_some] at hstep
    obtain ⟨hpromised, hstep⟩ := hstep
    obtain rfl := Option.some.inj hstep
    exact h.terminate hv ((h.linked.videos index v hv).promised hpromised)
  | socketClose =>
    obtain rfl := Option.some.inj hstep
    exact ⟨{ h.metered with }, { h.linked with }, fun _ _ _ _ _ hsocket => (by cases hsocket),
      h.budgeted⟩
  | stop =>
    obtain rfl := Option.some.inj hstep
    exact h.cleanup

end Sound

theorem Sound.of_reachable {created : α} (hcreated : 0 < created)
    (h : (uploadSession created).Reachable s) : s.Sound :=
  h.invariant (.start hcreated) fun _ _ _ hsound hstep => hsound.step hstep

omit [FloorRing α] [IsStrictOrderedRing α] in
theorem Metered.congested_iff (h : s.Metered) (hactive : s.active = true) :
    s.transport.Congested ↔ ∃ t, uploadSwitch.OnSince s.readings t := by
  constructor
  · intro hcongested
    have hsince := PublisherTransport.since_eq_some.mpr ⟨hcongested, rfl⟩
    rw [h.since hactive] at hsince
    exact ⟨_, Hysteresis.after_eq_some_iff.mp hsince⟩
  · rintro ⟨t, hon⟩
    have hsince := (h.since hactive).trans (Hysteresis.after_eq_some_iff.mpr hon)
    exact (PublisherTransport.since_eq_some.mp hsince).1

omit [FloorRing α] [IsStrictOrderedRing α] in
theorem Metered.paused_iff (h : s.Metered) (hactive : s.active = true)
    (hcontrol : s.transport.videoControl ≠ none) :
    s.transport.videoPaused = true ↔ ∃ t, uploadSwitch.OnSince s.readings t := by
  rw [h.pauses, Option.isSome_iff_ne_none.mpr hcontrol, Bool.true_and, decide_eq_true_iff]
  exact h.congested_iff hactive

/-- A worker that stands still hands nothing to its encoder. -/
theorem handed_work {v v' : VideoHandle α} {live paused : Bool} (h : v.Sound live paused)
    (hattached : v.transportAttached = true) (hstopped : v.worker.Stopped) {event : WorkerEvent α}
    (hwork : v.work event = some v') : v'.worker.handed = v.worker.handed := by
  rw [VideoHandle.work.eq_def, Option.ite_none_left_eq_some] at hwork
  obtain ⟨hready, hwork⟩ := hwork
  obtain ⟨w, hstep, rfl⟩ := Option.map_eq_some_iff.mp hwork
  have hmessage (message : WorkerMessage α) (now next : α) : event ≠ .message message now next := by
    rintro rfl
    exact hready (.inr rfl)
  rcases (PacedWorker.moves_work (h.running hattached).done hstep hmessage).1 with
    hholds | hhands
  · exact hholds.handed
  · exact absurd hstopped hhands.running

/-! ## Main results -/

section Sample

/-- A promise of the only worker is fulfilled. -/
def sampleSettle : UploadAction ℚ := .work 0 (.settle ⟨true, true, true, 0, 0⟩)

/-- Its timer fires. -/
def samplePace (now : ℚ) : UploadAction ℚ :=
  .work 0 (.pacingTimer ⟨now, now, now, now⟩ ⟨true, 0, true⟩)

/-- A worker becomes ready and one packet is sent. A large command congests the upload, so that
the next packet is dropped. -/
def sampleCongested : List (UploadAction ℚ) :=
  [.createVideo ⟨⟨60, by decide, by decide⟩, 48000, 0⟩, .handle 0 0 0, sampleSettle, sampleSettle,
    sampleSettle, sampleSettle, sampleSettle, .receive 0 1 false, samplePace 0, .output 0 1000,
    .receive 0 2 false, .command 1500000, samplePace 34, .output 0 1000, .receive 0 3 false,
    .handle 0 0 0]

/-- The socket drains, and the worker goes on with a third packet. -/
def sampleResumed : List (UploadAction ℚ) :=
  [.drain 1400000, .audioPacket 500 false 4 true false, .handle 0 34 34, samplePace 67,
    .output 0 1200, .receive 0 5 false]

end Sample

/-- Beside its commands the page never queues more than the threshold and one packet. -/
theorem upload_queue_bounded {created : α} (hcreated : 0 < created)
    (h : (uploadSession created).Reachable s) :
    s.bufferedAmount ≤ wsPauseBufferedBytes + s.largest + s.commandBytes :=
  (Sound.of_reachable hcreated h).budgeted

theorem upload_queue_bounded_congested : ∃ s : UploadSession ℚ,
    s.bufferedAmount = 1501000 ∧ s.largest = 1000 ∧
    s.bufferedAmount ≤ wsPauseBufferedBytes + s.largest + s.commandBytes := by
  obtain ⟨s, hexec, hview⟩ := (Option.any_eq_true
    (fun s : UploadSession ℚ => (s.bufferedAmount = 1501000 ∧ s.largest = 1000 : Bool))
    ((uploadSession (1 : ℚ)).exec (uploadSession 1).start sampleCongested)).mp
      (by decide +kernel)
  obtain ⟨hbuffered, hlargest⟩ := of_decide_eq_true hview
  exact ⟨s, hbuffered, hlargest,
    upload_queue_bounded (by decide : (0 : ℚ) < 1) (System.reachable_of_exec hexec)⟩

/-- A worker that has handled its messages stands still exactly while the upload is congested. -/
theorem worker_follows_transport {created : α} (hcreated : 0 < created)
    (h : (uploadSession created).Reachable s) (hactive : s.active = true) {i : Nat}
    {v : VideoHandle α} (hv : s.videos[i]? = some v) (hopen : v.closed = false)
    (hready : v.readySettled = true) (hmessages : v.messages = []) :
    s.transport.videoControl = some i ∧
    (v.worker.closed = true ∨
      (v.worker.networkPaused = true ↔ ∃ t, uploadSwitch.OnSince s.readings t)) ∧
    ((∃ t, uploadSwitch.OnSince s.readings t) → ∀ event v', v.work event = some v' →
      v'.worker.handed = v.worker.handed) := by
  have hsound := Sound.of_reachable hcreated h
  have hvideo := hsound.linked.videos i v hv
  have hlinks := hvideo.links hopen
  have hattached := hlinks.settled.trans hready
  have hcontrol := hsound.linked.control hactive i v hv hopen hattached
  have hfollows : v.worker.closed = true ∨
      (v.worker.networkPaused = true ↔ ∃ t, uploadSwitch.OnSince s.readings t) := by
    refine (hlinks.follows hactive).imp_right fun hfollows => ?_
    rw [hmessages, List.foldl_nil, hattached, Bool.true_and] at hfollows
    rw [hfollows]
    exact hsound.metered.paused_iff hactive (by rw [hcontrol]; exact Option.some_ne_none i)
  refine ⟨hcontrol, hfollows, fun hcongested event v' hwork => ?_⟩
  have hstopped : v.worker.Stopped := by
    rcases hfollows with hclosed | hpaused
    · exact .inl hclosed
    · exact .inr (.inr (hpaused.mpr hcongested))
  exact handed_work hvideo hattached hstopped hwork

theorem worker_follows_transport_congested : ∃ (s : UploadSession ℚ) (v : VideoHandle ℚ),
    s.videos[0]? = some v ∧ v.worker.networkPaused = true ∧
    (∃ t, uploadSwitch.OnSince s.readings t) ∧
    ∀ event v', v.work event = some v' → v'.worker.handed = v.worker.handed := by
  obtain ⟨s, hexec, hview⟩ := (Option.any_eq_true
    (fun s : UploadSession ℚ => s.active && s.videos[0]?.any fun v =>
      (v.closed = false ∧ v.readySettled = true ∧ v.messages.length = 0 ∧
        v.worker.closed = false ∧ v.worker.networkPaused = true : Bool))
    ((uploadSession (1 : ℚ)).exec (uploadSession 1).start sampleCongested)).mp
      (by decide +kernel)
  rw [Bool.and_eq_true, Option.any_eq_true] at hview
  obtain ⟨hactive, v, hv, hview⟩ := hview
  obtain ⟨hopen, hready, hmessages, hworker, hpaused⟩ := of_decide_eq_true hview
  obtain ⟨-, hfollows, hnone⟩ :=
    worker_follows_transport (by decide : (0 : ℚ) < 1) (System.reachable_of_exec hexec) hactive hv
      hopen hready (List.length_eq_zero_iff.mp hmessages)
  have hcongested := (hfollows.resolve_left (by rw [hworker]; exact Bool.false_ne_true)).mp hpaused
  exact ⟨s, v, hv, hpaused, hcongested, hnone hcongested⟩

/-- A gap in the packets that were sent ends with a keyframe, unless the packet behind it was
encoded before the worker had heard that it may go on. -/
theorem video_gap_ends_with_keyframe {created : α} (hcreated : 0 < created)
    (h : (uploadSession created).Reachable s) {v : VideoHandle α} (hv : v ∈ s.videos) {k : Nat}
    {b : PacketArrival} (hb : v.arrivals[k]? = some b) (hsent : b.sent = true) :
    b.frame = k ∧ ∃ frame n, v.worker.handed[k]? = some frame ∧ v.heard[k]? = some n ∧
      (frame.keyFrame = true ∨ n < b.resumes ∨
        ∃ a, 0 < k ∧ v.arrivals[k - 1]? = some a ∧ a.sent = true) := by
  obtain ⟨i, hi⟩ := List.mem_iff_getElem?.mp hv
  have hvideo := (Sound.of_reachable hcreated h).linked.videos i v hi
  have hframe (j : Nat) (a : PacketArrival) (ha : v.arrivals[j]? = some a) : a.frame = j := by
    have hget := congrArg (·[j]?) hvideo.frames
    rw [List.getElem?_map, ha, List.getElem?_range (List.getElem?_eq_some_iff.mp ha).1] at hget
    exact Option.some.inj hget
  obtain ⟨n, hn, -⟩ := hvideo.told b (List.mem_of_getElem? hb)
  rw [hframe k b hb] at hn
  have hlt : k < v.worker.handed.length := by
    rw [← hvideo.heard.length]
    exact (List.getElem?_eq_some_iff.mp hn).1
  refine ⟨hframe k b hb, v.worker.handed[k], n, List.getElem?_eq_getElem hlt, hn, ?_⟩
  cases k with
  | zero => exact .inl (hvideo.heard.first _ (List.getElem?_eq_getElem hlt))
  | succ j =>
    have hj : j < v.arrivals.length := Nat.lt_of_succ_lt (List.getElem?_eq_some_iff.mp hb).1
    have ha := List.getElem?_eq_getElem hj
    by_cases hbefore : v.arrivals[j].sent = true
    · exact .inr (.inr ⟨v.arrivals[j], Nat.succ_pos j, ha, hbefore⟩)
    · have hlater := hvideo.order j v.arrivals[j] b ha hb (Bool.eq_false_of_not_eq_true hbefore)
        hsent
      obtain ⟨m, hm, hmle⟩ := hvideo.told v.arrivals[j] (List.getElem_mem hj)
      rw [hframe j _ ha] at hm
      rcases lt_or_ge n b.resumes with hnew | hheard
      · exact .inr (.inl hnew)
      · have hgap : m < n := lt_of_le_of_lt hmle (lt_of_lt_of_le hlater hheard)
        exact .inl (hvideo.heard.gap j m n hm hn hgap _ (List.getElem?_eq_getElem hlt))

theorem video_gap_ends_with_keyframe_resumed : ∃ (s : UploadSession ℚ) (v : VideoHandle ℚ),
    v ∈ s.videos ∧ v.arrivals.map (·.sent) = [true, false, true] ∧
    v.worker.handed.map (·.keyFrame) = [true, false, true] ∧
    ∀ b, v.arrivals[2]? = some b → b.sent = true → b.frame = 2 ∧
      ∃ frame n, v.worker.handed[2]? = some frame ∧ v.heard[2]? = some n ∧
        (frame.keyFrame = true ∨ n < b.resumes ∨
          ∃ a, 0 < 2 ∧ v.arrivals[1]? = some a ∧ a.sent = true) := by
  obtain ⟨s, hexec, hview⟩ := (Option.any_eq_true
    (fun s : UploadSession ℚ => s.videos[0]?.any fun v =>
      (v.arrivals.map (·.sent) = [true, false, true] ∧
        v.worker.handed.map (·.keyFrame) = [true, false, true] : Bool))
    ((uploadSession (1 : ℚ)).exec (uploadSession 1).start
      (sampleCongested ++ sampleResumed))).mp (by decide +kernel)
  obtain ⟨v, hv, hview⟩ := (Option.any_eq_true _ _).mp hview
  obtain ⟨harrivals, hhanded⟩ := of_decide_eq_true hview
  have hmem := List.mem_of_getElem? hv
  refine ⟨s, v, hmem, harrivals, hhanded, fun b hb hsent => ?_⟩
  exact video_gap_ends_with_keyframe (by decide : (0 : ℚ) < 1) (System.reachable_of_exec hexec)
    hmem hb hsent

end UploadSession

end VRCStreamer
