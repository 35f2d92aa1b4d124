import VRCStreamer.Live.Effect

/-!
# What holds of a live channel and its publishers

One publisher at a time holds the flag. Its session begins with a wake on both tracks, and
the frames after the wake are its own, so a wake lies between the frames of two sessions.
-/

namespace VRCStreamer

open Codec Concurrency

variable {θ : Type*}

namespace Live

/-- The flag stands for the one publisher that holds it. -/
structure Flagged (s : Live θ) : Prop where
  holder : ∀ t session, (s.publisher t).holds = some session →
    s.channel.streamer = true ∧ session + 1 = s.channel.sessions
  unique : ∀ t u a b, (s.publisher t).holds = some a → (s.publisher u).holds = some b → t = u
  held : s.channel.streamer = true → ∃ t session, (s.publisher t).holds = some session

end Live

/-- The frames that an operation sends are of one session. -/
def LiveOp.OwnedBy (op : LiveOp) (session : Nat) : Prop :=
  ∀ track a, op.sends track = some (some a) → a = session

/-- The operations to come are those of the source. -/
def PublisherPc.Proper : PublisherPc → Prop
  | .starting _ ops => ops <:+ startOps
  | .serving session _ ops => ∀ op ∈ ops, op.OwnedBy session
  | .closing ops => ops <:+ closeOps
  | _ => True

/-- What of its start a session has done. -/
structure SessionStarts.Progress (starts : SessionStarts) (session : Nat) (ops : List LiveOp) :
    Prop where
  epoch : (starts.epoch session).isSome ↔ ops.length < 3
  audio : (starts.audio session).isSome ↔ ops.length < 2
  video : (starts.video session).isSome ↔ ops.length < 1

namespace Live

/-- The frames of a session lie behind its start. -/
structure TrackStarts (channel : LiveChannel) (track : RtspTrack) : Prop where
  placed : ∀ i a, (channel.log track)[i]? = some (some a) →
    a < channel.sessions ∧ ∃ w, channel.starts.track track a = some w ∧ w < i
  started : ∀ a w, channel.starts.track track a = some w →
    w < (channel.log track).length ∧ (channel.starts.epoch a).isSome

structure Started (s : Live θ) : Prop where
  fresh : ∀ session, s.channel.sessions ≤ session →
    s.channel.starts.Progress session PublisherPc.startOps
  progress : ∀ t session ops, (s.publisher t).toStart = some (session, ops) →
    s.channel.starts.Progress session ops
  tracks : ∀ track, TrackStarts s.channel track

/-- A wake lies between the frames of two sessions. -/
structure Seamed (s : Live θ) : Prop where
  seam : ∀ i a b, (s.channel.log .video)[i]? = some (some a) →
    (s.channel.log .video)[i + 1]? = some (some b) → a = b
  last : ∀ t session, (s.publisher t).serves = some session →
    ∀ a, (s.channel.log .video).getLast? = some (some a) → a = session

structure Published (s : Live θ) : Prop where
  flagged : Flagged s
  proper : ∀ t, (s.publisher t).Proper
  started : Started s
  seamed : Seamed s

end Live

/-! ## Program counters -/

namespace PublisherPc

variable {pc pc' : PublisherPc} {channel channel' : LiveChannel} {session : Nat}
variable {ops : List LiveOp}

theorem suffix_startOps (h : ops <:+ startOps) :
    ops = startOps ∨ ops = wakeMediaListeners ∨ ops = [wakeVideoListeners] ∨ ops = [] := by
  simpa [startOps, wakeMediaListeners, List.suffix_cons_iff] using h

theorem ownedBy_of_mem_startOps {op : LiveOp} (h : op ∈ startOps) (session : Nat) :
    op.OwnedBy session := by
  intro track a hsends
  simp only [startOps, wakeMediaListeners, wakeVideoListeners, List.mem_cons,
    List.not_mem_nil, or_false] at h
  obtain rfl | rfl | rfl := h <;> cases track <;> cases hsends

theorem ownedBy_of_mem_closeOps {op : LiveOp} (h : op ∈ closeOps) (session : Nat) :
    op.OwnedBy session := by
  intro track a hsends
  simp only [closeOps, wakeMediaListeners, wakeVideoListeners, List.mem_cons,
    List.not_mem_nil, or_false] at h
  obtain rfl | rfl | rfl | rfl := h <;> cases track <;> cases hsends

theorem ownedBy_of_mem_ops {message : LiveMessage} {spoken : Bool} {op : LiveOp}
    (h : op ∈ message.ops session spoken) : op.OwnedBy session := by
  intro track a hsends
  cases message with
  | audioFrame accessUnit mediaTimestamp publishedAt =>
    cases spoken
    · simp only [LiveMessage.ops, wakeVideoListeners, Bool.false_eq_true, if_false,
        List.cons_append, List.nil_append, List.mem_cons, List.not_mem_nil, or_false] at h
      obtain rfl | rfl := h <;> cases track <;> cases hsends
      rfl
    · simp only [LiveMessage.ops, if_true, List.nil_append, List.mem_cons, List.not_mem_nil,
        or_false] at h
      obtain rfl := h
      cases track <;> cases hsends
      rfl
  | videoFrame accessUnit keyframe singleNal mediaTimestamp publishedAt =>
    simp only [LiveMessage.ops, List.mem_cons, List.not_mem_nil, or_false] at h
    obtain rfl | rfl := h <;> cases track <;> cases hsends
    rfl
  | forceResync | videoStart | videoStop | videoReset =>
    simp only [LiveMessage.ops, wakeVideoListeners, List.mem_cons, List.not_mem_nil,
      or_false] at h
    rcases h with rfl | rfl | rfl | rfl <;> cases track <;> cases hsends

theorem ownedBy_of_mem_after {op op' : LiveOp} (h : op' ∈ after channel op ops)
    (hops : ∀ op ∈ ops, op.OwnedBy session) : op'.OwnedBy session := by
  have hwake : wakeVideoListeners.OwnedBy session := by
    intro track a hsends
    cases track <;> cases hsends
  rw [after.eq_def] at h
  split at h
  next =>
    split at h
    next => exact hops op' h
    next =>
      obtain rfl | h := List.mem_cons.mp h
      · exact hwake
      · exact hops op' h
  next => exact hops op' h

theorem Proper.step (h : pc.Proper) (heffect : PublisherEffect channel pc channel' pc') :
    pc'.Proper := by
  cases heffect with
  | accept => exact List.suffix_rfl
  | startOp => exact (List.suffix_cons _ _).trans h
  | serve => exact fun op hop => absurd hop List.not_mem_nil
  | message message => exact fun op hop => ownedBy_of_mem_ops hop
  | op =>
    have hrest := fun op hop => h op (List.mem_cons_of_mem _ hop)
    exact fun op hop => ownedBy_of_mem_after hop hrest
  | release => exact List.suffix_rfl
  | closeOp => exact (List.suffix_cons _ _).trans h
  | _ => trivial

theorem holds_of_toStart (h : pc.toStart = some (session, ops)) : pc.holds = some session := by
  cases pc <;> cases h <;> rfl

theorem toStart_of_serves (h : pc.serves = some session) : pc.toStart = some (session, []) := by
  cases pc with
  | starting other rest =>
    cases rest with
    | nil =>
      cases h
      rfl
    | cons op rest => cases h
  | serving other spoken rest =>
    cases h
    rfl
  | _ => cases h

end PublisherPc

/-! ## Steps -/

namespace Live

variable [DecidableEq θ] {s : Live θ} {t : θ} {channel' : LiveChannel} {pc' : PublisherPc}

/-- The state after a step of a publisher. -/
def publish (s : Live θ) (t : θ) (channel : LiveChannel) (pc : PublisherPc) : Live θ :=
  { s with channel, publisher := Function.update s.publisher t pc }

@[simp] theorem publisher_publish_self {channel : LiveChannel} {pc : PublisherPc} :
    (s.publish t channel pc).publisher t = pc := by
  show Function.update s.publisher t pc t = pc
  rw [Function.update_self]

theorem publisher_publish_of_ne {channel : LiveChannel} {pc : PublisherPc} {u : θ} (hne : u ≠ t) :
    (s.publish t channel pc).publisher u = s.publisher u := by
  show Function.update s.publisher t pc u = s.publisher u
  rw [Function.update_of_ne hne]

theorem Flagged.step (h : Flagged s)
    (heffect : PublisherEffect s.channel (s.publisher t) channel' pc') :
    Flagged (s.publish t channel' pc') := by
  have hother : ∀ {u a}, u ≠ t → (Function.update s.publisher t pc' u).holds = some a →
      (s.publisher u).holds = some a := by
    intro u a hne hu
    rwa [Function.update_of_ne hne] at hu
  obtain ⟨hholds, hstreamer, hsessions⟩ | ⟨hfree, hnone, hholds, hstreamer, hsessions⟩ |
    ⟨session, hheld, hholds, hstreamer, hsessions⟩ := holds_cases heffect
  · have hsame : ∀ u, (Function.update s.publisher t pc' u).holds = (s.publisher u).holds := by
      intro u
      obtain rfl | hne := eq_or_ne u t
      · rw [Function.update_self, hholds]
      · rw [Function.update_of_ne hne]
    refine ⟨?_, ?_, ?_⟩
    · intro u a hu
      show channel'.streamer = true ∧ a + 1 = channel'.sessions
      rw [hstreamer, hsessions]
      exact h.holder u a ((hsame u).symm.trans hu)
    · intro u v a b hu hv
      exact h.unique u v a b ((hsame u).symm.trans hu) ((hsame v).symm.trans hv)
    · intro hset
      obtain ⟨u, a, hu⟩ := h.held (hstreamer.symm.trans hset)
      exact ⟨u, a, (hsame u).trans hu⟩
  · -- nobody else can hold a flag that was free
    have hnobody : ∀ u a, (s.publisher u).holds ≠ some a := by
      intro u a hu
      rw [(h.holder u a hu).1] at hfree
      cases hfree
    have hself : ∀ u a, (Function.update s.publisher t pc' u).holds = some a →
        u = t ∧ a = s.channel.sessions := by
      intro u a hu
      obtain rfl | hne := eq_or_ne u t
      · rw [Function.update_self, hholds] at hu
        exact ⟨rfl, (Option.some.inj hu).symm⟩
      · exact absurd (hother hne hu) (hnobody u a)
    refine ⟨?_, ?_, ?_⟩
    · intro u a hu
      obtain ⟨rfl, rfl⟩ := hself u a hu
      exact ⟨hstreamer, hsessions.symm⟩
    · intro u v a b hu hv
      exact (hself u a hu).1.trans (hself v b hv).1.symm
    · intro _
      refine ⟨t, s.channel.sessions, ?_⟩
      show (Function.update s.publisher t pc' t).holds = _
      rw [Function.update_self, hholds]
  · have hnobody : ∀ u a, (Function.update s.publisher t pc' u).holds ≠ some a := by
      intro u a hu
      obtain rfl | hne := eq_or_ne u t
      · rw [Function.update_self, hholds] at hu
        cases hu
      · exact hne (h.unique u t a session (hother hne hu) hheld)
    refine ⟨fun u a hu => absurd hu (hnobody u a), fun u v a b hu => absurd hu (hnobody u a), ?_⟩
    intro hset
    exact absurd (hstreamer.symm.trans hset) Bool.false_ne_true

omit [DecidableEq θ] in
/-- Nobody else has the session of a publisher that holds the flag. -/
theorem Flagged.toStart_ne (h : Flagged s) {u : θ} {a b : Nat} {ops : List LiveOp} (hne : u ≠ t)
    (ht : (s.publisher t).holds = some a) : (s.publisher u).toStart ≠ some (b, ops) := by
  intro hu
  exact hne (h.unique u t b a (PublisherPc.holds_of_toStart hu) ht)

end Live

/-! ## Starts -/

theorem getElem?_append_toList {α : Type*} {l : List α} {o : Option α} {i : Nat} {x : α}
    (h : (l ++ o.toList)[i]? = some x) : l[i]? = some x ∨ (i = l.length ∧ o = some x) := by
  obtain hlt | hle := Nat.lt_or_ge i l.length
  · rw [List.getElem?_append_left hlt] at h
    exact .inl h
  · rw [List.getElem?_append_right hle] at h
    cases o with
    | none => cases h
    | some y =>
      rw [Option.toList_some, List.getElem?_singleton] at h
      split at h
      next hzero => exact .inr ⟨by omega, h⟩
      next => cases h

namespace LiveChannel

variable (channel : LiveChannel) (session : Nat) (op : LiveOp)

theorem noteStart_track (track : RtspTrack) : (channel.noteStart session op).track track =
    if (op.sends track).isSome then
      Function.update (channel.starts.track track) session (some (channel.log track).length)
    else channel.starts.track track := by
  cases op with
  | sendAudio message =>
    cases track
    · simp [noteStart, SessionStarts.track, LiveOp.sends, channel.audioTx_subscribe]
    · rfl
  | sendVideo message =>
    cases track
    · rfl
    · simp [noteStart, SessionStarts.track, LiveOp.sends, channel.videoTx_subscribe]
  | _ => cases track <;> rfl

theorem noteStart_epoch : (channel.noteStart session op).epoch = channel.starts.epoch ∨
    (op = .forceResync ∧ (channel.noteStart session op).epoch =
      Function.update channel.starts.epoch session
        (some ((channel.resyncEpoch + 1) % 2 ^ 64))) := by
  cases op with
  | forceResync => exact .inr ⟨rfl, rfl⟩
  | _ => exact .inl rfl

theorem isSome_epoch_noteStart {a : Nat} (h : (channel.starts.epoch a).isSome) :
    ((channel.noteStart session op).epoch a).isSome := by
  obtain hsame | ⟨-, hupdate⟩ := channel.noteStart_epoch session op
  · rwa [hsame]
  · rw [hupdate]
    obtain rfl | hne := eq_or_ne a session
    · rw [Function.update_self]
      rfl
    · rwa [Function.update_of_ne hne]

end LiveChannel

namespace SessionStarts.Progress

variable {starts : SessionStarts} {channel : LiveChannel} {session : Nat} {ops : List LiveOp}

theorem track_none (h : starts.Progress session ops) {op : LiveOp} {rest : List LiveOp}
    (hops : ops <:+ PublisherPc.startOps) (hcons : ops = op :: rest) {track : RtspTrack}
    (hsends : (op.sends track).isSome) :
    starts.track track session = none ∧ op.sends track = some none ∧
      (starts.epoch session).isSome := by
  subst hcons
  obtain hfirst | hsecond | hthird | hnil := PublisherPc.suffix_startOps hops
  · obtain ⟨rfl, -⟩ := List.cons.inj hfirst
    cases track <;> cases hsends
  · obtain ⟨rfl, rfl⟩ := List.cons.inj hsecond
    cases track
    · refine ⟨?_, rfl, h.epoch.mpr (by decide)⟩
      have haudio := mt h.audio.mp (by decide)
      simpa [SessionStarts.track] using haudio
    · cases hsends
  · obtain ⟨rfl, rfl⟩ := List.cons.inj hthird
    cases track
    · cases hsends
    · refine ⟨?_, rfl, h.epoch.mpr (by decide)⟩
      have hvideo := mt h.video.mp (by decide)
      simpa [SessionStarts.track] using hvideo
  · cases hnil

/-- Another session's start does not show. -/
theorem of_ne (h : starts.Progress session ops) {starts' : SessionStarts}
    (hepoch : starts'.epoch session = starts.epoch session)
    (haudio : starts'.audio session = starts.audio session)
    (hvideo : starts'.video session = starts.video session) : starts'.Progress session ops where
  epoch := hepoch ▸ h.epoch
  audio := haudio ▸ h.audio
  video := hvideo ▸ h.video

theorem noteStart_of_ne (h : channel.starts.Progress session ops) {other : Nat}
    (hne : session ≠ other) (op : LiveOp) : (channel.noteStart other op).Progress session ops := by
  cases op with
  | forceResync => exact h.of_ne (Function.update_of_ne hne _ _) rfl rfl
  | sendAudio message => exact h.of_ne rfl (Function.update_of_ne hne _ _) rfl
  | sendVideo message => exact h.of_ne rfl rfl (Function.update_of_ne hne _ _)
  | _ => exact h

/-- The next operation of a start. -/
theorem noteStart {op : LiveOp} (h : channel.starts.Progress session (op :: ops))
    (hops : op :: ops <:+ PublisherPc.startOps) :
    (channel.noteStart session op).Progress session ops := by
  obtain hfirst | hsecond | hthird | hnil := PublisherPc.suffix_startOps hops
  · obtain ⟨rfl, rfl⟩ := List.cons.inj hfirst
    refine ⟨?_, h.audio.trans (by decide), h.video.trans (by decide)⟩
    simp [LiveChannel.noteStart, wakeMediaListeners]
  · obtain ⟨rfl, rfl⟩ := List.cons.inj hsecond
    refine ⟨h.epoch.trans (by decide), ?_, h.video.trans (by decide)⟩
    simp [LiveChannel.noteStart]
  · obtain ⟨rfl, rfl⟩ := List.cons.inj hthird
    refine ⟨h.epoch.trans (by decide), h.audio.trans (by decide), ?_⟩
    simp [LiveChannel.noteStart, wakeVideoListeners]
  · cases hnil

end SessionStarts.Progress

namespace Live

variable {channel channel' : LiveChannel} {track : RtspTrack}

theorem TrackStarts.push (h : TrackStarts channel track) {op : LiveOp}
    (hlog : channel'.log track = channel.log track ++ (op.sends track).toList)
    (hstarts : channel'.starts = channel.starts) (hsessions : channel.sessions ≤ channel'.sessions)
    (hown : ∀ a, op.sends track = some (some a) →
      a < channel.sessions ∧ ∃ w, channel.starts.track track a = some w) :
    TrackStarts channel' track where
  placed i a hentry := by
    rw [hlog] at hentry
    rw [hstarts]
    obtain hold | ⟨rfl, hnew⟩ := getElem?_append_toList hentry
    · obtain ⟨hlt, hplaced⟩ := h.placed i a hold
      exact ⟨hlt.trans_le hsessions, hplaced⟩
    · obtain ⟨hlt, w, hw⟩ := hown a hnew
      exact ⟨hlt.trans_le hsessions, w, hw, (h.started a w hw).1⟩
  started a w hw := by
    rw [hstarts] at hw ⊢
    obtain ⟨hlt, hepoch⟩ := h.started a w hw
    rw [hlog, List.length_append]
    exact ⟨by omega, hepoch⟩

/-- The wake of a start is the first entry of its session. -/
theorem TrackStarts.startOp (h : TrackStarts channel track) {session : Nat} {op : LiveOp}
    (hwake : (op.sends track).isSome → channel.starts.track track session = none ∧
      op.sends track = some none ∧ (channel.starts.epoch session).isSome) :
    TrackStarts (channel.startOp session op) track := by
  have hlog : (channel.startOp session op).log track =
      channel.log track ++ (op.sends track).toList :=
    (channel.log_startOp op session track).trans (channel.log_op op track)
  have htrack : (channel.startOp session op).starts.track track = _ :=
    channel.noteStart_track session op track
  by_cases hsends : (op.sends track).isSome
  · obtain ⟨hnone, hsome, hepoch⟩ := hwake hsends
    rw [if_pos hsends] at htrack
    refine ⟨?_, ?_⟩
    · intro i a hentry
      rw [hlog, hsome] at hentry
      obtain hold | ⟨-, hnew⟩ := getElem?_append_toList hentry
      · obtain ⟨hlt, w, hw, hiw⟩ := h.placed i a hold
        have hne : a ≠ session := by
          rintro rfl
          rw [hnone] at hw
          cases hw
        refine ⟨hlt.trans_eq (channel.sessions_startOp op session).symm, w, ?_, hiw⟩
        rw [htrack, Function.update_of_ne hne]
        exact hw
      · cases hnew
    · intro a w hw
      rw [htrack] at hw
      rw [hlog, hsome, List.length_append]
      obtain rfl | hne := eq_or_ne a session
      · rw [Function.update_self] at hw
        obtain rfl := Option.some.inj hw
        exact ⟨Nat.lt_succ_self _, channel.isSome_epoch_noteStart a op hepoch⟩
      · rw [Function.update_of_ne hne] at hw
        obtain ⟨hlt, hold⟩ := h.started a w hw
        exact ⟨hlt.trans (Nat.lt_succ_self _), channel.isSome_epoch_noteStart session op hold⟩
  · rw [if_neg hsends] at htrack
    have hsame : (channel.startOp session op).log track = channel.log track := by
      rw [hlog, Option.not_isSome_iff_eq_none.mp hsends]
      exact List.append_nil _
    refine ⟨?_, ?_⟩
    · intro i a hentry
      rw [hsame] at hentry
      rw [htrack]
      obtain ⟨hlt, hplaced⟩ := h.placed i a hentry
      exact ⟨hlt.trans_eq (channel.sessions_startOp op session).symm, hplaced⟩
    · intro a w hw
      rw [htrack] at hw
      obtain ⟨hlt, hepoch⟩ := h.started a w hw
      exact ⟨hsame ▸ hlt, channel.isSome_epoch_noteStart session op hepoch⟩

theorem TrackStarts.mono (h : TrackStarts channel track)
    (hlog : channel'.log track = channel.log track) (hstarts : channel'.starts = channel.starts)
    (hsessions : channel.sessions ≤ channel'.sessions) : TrackStarts channel' track := by
  have hnothing : channel'.log track =
      channel.log track ++ (LiveOp.forceResync.sends track).toList := by
    rw [hlog]
    exact (List.append_nil _).symm
  refine h.push hnothing hstarts hsessions ?_
  intro a hsends
  cases hsends

/-- A step changes the starts only in the start of its own session. -/
theorem start_cases {pc pc' : PublisherPc} (h : PublisherEffect channel pc channel' pc') :
    (channel'.starts = channel.starts ∧ channel'.sessions = channel.sessions ∧
      ∀ start, pc'.toStart = some start → pc.toStart = some start) ∨
    (channel' = channel.take ∧ pc' = .counting channel.sessions) ∨
    (∃ session op ops, pc = .starting session (op :: ops) ∧
      channel' = channel.startOp session op ∧ pc' = .starting session ops) := by
  cases h with
  | take => exact .inr (.inl ⟨rfl, rfl⟩)
  | @startOp session op ops => exact .inr (.inr ⟨session, op, ops, rfl, rfl, rfl⟩)
  | op | closeOp => exact .inl ⟨channel.starts_op _, channel.sessions_op _, fun _ hstart => hstart⟩
  | busy | accept | refuse | serve | message => exact .inl ⟨rfl, rfl, fun _ hstart => hstart⟩
  | _ => exact .inl ⟨rfl, rfl, fun _ hstart => by cases hstart⟩

variable [DecidableEq θ] {s : Live θ} {t : θ} {pc' : PublisherPc}

omit [DecidableEq θ] in
/-- What an operation may send on a track, from the publisher's place. -/
theorem Published.sends (h : Published s) {op : LiveOp}
    (hpc : (∃ session ops, s.publisher t = .starting session (op :: ops)) ∨
      (∃ session spoken ops, s.publisher t = .serving session spoken (op :: ops)) ∨
      (∃ ops, s.publisher t = .closing (op :: ops))) (track : RtspTrack) (a : Nat)
    (hsends : op.sends track = some (some a)) : (s.publisher t).serves = some a := by
  have hproper := h.proper t
  obtain ⟨session, ops, hpc⟩ | ⟨session, spoken, ops, hpc⟩ | ⟨ops, hpc⟩ := hpc
  · rw [hpc] at hproper
    have hmem : op ∈ PublisherPc.startOps := hproper.subset List.mem_cons_self
    have hzero := PublisherPc.ownedBy_of_mem_startOps hmem 0 track a hsends
    have hone := PublisherPc.ownedBy_of_mem_startOps hmem 1 track a hsends
    omega
  · rw [hpc] at hproper ⊢
    obtain rfl := hproper op List.mem_cons_self track a hsends
    rfl
  · rw [hpc] at hproper
    have hmem : op ∈ PublisherPc.closeOps := hproper.subset List.mem_cons_self
    have hzero := PublisherPc.ownedBy_of_mem_closeOps hmem 0 track a hsends
    have hone := PublisherPc.ownedBy_of_mem_closeOps hmem 1 track a hsends
    omega

theorem Published.started_step (h : Published s)
    (heffect : PublisherEffect s.channel (s.publisher t) channel' pc') :
    Started (s.publish t channel' pc') := by
  obtain ⟨hstarts, hsessions, htoStart⟩ | ⟨rfl, rfl⟩ | ⟨session, op, ops, hpc, rfl, rfl⟩ :=
    start_cases heffect
  · refine ⟨?_, ?_, ?_⟩
    · intro session hle
      show channel'.starts.Progress session _
      rw [hstarts]
      exact h.started.fresh session (hsessions ▸ hle)
    · intro u session ops hu
      show channel'.starts.Progress session ops
      rw [hstarts]
      obtain rfl | hne := eq_or_ne u t
      · rw [publisher_publish_self] at hu
        exact h.started.progress u session ops (htoStart _ hu)
      · rw [publisher_publish_of_ne hne] at hu
        exact h.started.progress u session ops hu
    · intro track
      obtain hlog | ⟨op, hlog, hpc⟩ := log_cases heffect
      · exact (h.started.tracks track).mono (hlog track) hstarts hsessions.ge
      · refine (h.started.tracks track).push (hlog track) hstarts hsessions.ge ?_
        intro a hsends
        have hserves := PublisherPc.toStart_of_serves (h.sends hpc track a hsends)
        have hprogress := h.started.progress t a [] hserves
        have hholder := h.flagged.holder t a (PublisherPc.holds_of_toStart hserves)
        refine ⟨by omega, ?_⟩
        cases track with
        | audio => exact Option.isSome_iff_exists.mp (hprogress.audio.mpr (by decide))
        | video => exact Option.isSome_iff_exists.mp (hprogress.video.mpr (by decide))
  · refine ⟨?_, ?_, ?_⟩
    · intro session hle
      exact h.started.fresh session ((Nat.le_succ _).trans hle)
    · intro u session ops hu
      obtain rfl | hne := eq_or_ne u t
      · rw [publisher_publish_self] at hu
        cases hu
        exact h.started.fresh _ le_rfl
      · rw [publisher_publish_of_ne hne] at hu
        exact h.started.progress u session ops hu
    · intro track
      exact (h.started.tracks track).mono (s.channel.log_take track) rfl (Nat.le_succ _)
  · have htoStart : (s.publisher t).toStart = some (session, op :: ops) := by
      rw [hpc]
      rfl
    have hheld := PublisherPc.holds_of_toStart htoStart
    have hproper : op :: ops <:+ PublisherPc.startOps := by
      have hproper := h.proper t
      rwa [hpc] at hproper
    have hprogress := h.started.progress t session (op :: ops) htoStart
    have hholder := h.flagged.holder t session hheld
    refine ⟨?_, ?_, ?_⟩
    · intro other hle
      have hle : s.channel.sessions ≤ other :=
        (s.channel.sessions_startOp op session).symm.trans_le hle
      exact (h.started.fresh other hle).noteStart_of_ne (by omega) op
    · intro u other rest hu
      obtain rfl | hne := eq_or_ne u t
      · rw [publisher_publish_self] at hu
        cases hu
        exact hprogress.noteStart hproper
      · rw [publisher_publish_of_ne hne] at hu
        refine (h.started.progress u other rest hu).noteStart_of_ne ?_ op
        rintro rfl
        exact h.flagged.toStart_ne hne hheld hu
    · intro track
      exact (h.started.tracks track).startOp (fun hsends =>
        hprogress.track_none hproper rfl hsends)

omit [DecidableEq θ] in
/-- A session's start is over after its last operation. -/
theorem serves_cases {pc : PublisherPc} (h : PublisherEffect channel pc channel' pc')
    {session : Nat} (hserves : pc'.serves = some session) :
    pc.serves = some session ∨ ∃ op, pc = .starting session [op] ∧
      ∀ track, channel'.log track = channel.log track ++ (op.sends track).toList := by
  cases h with
  | @startOp other op ops =>
    cases ops with
    | nil =>
      cases hserves
      refine .inr ⟨op, rfl, ?_⟩
      intro track
      rw [channel.log_startOp, channel.log_op]
    | cons next rest => cases hserves
  | serve | message | op =>
    cases hserves
    exact .inl rfl
  | _ => cases hserves

omit [DecidableEq θ] in
theorem Published.sends_of_starting (h : Published s) {session : Nat} {op : LiveOp}
    (hpc : s.publisher t = .starting session [op]) : op.sends .video = some none := by
  have hproper := h.proper t
  rw [hpc] at hproper
  obtain hfirst | hsecond | hthird | hnil := PublisherPc.suffix_startOps hproper
  · cases hfirst
  · cases hsecond
  · cases hthird
    rfl
  · cases hnil

theorem Published.seamed_step (h : Published s)
    (heffect : PublisherEffect s.channel (s.publisher t) channel' pc') :
    Seamed (s.publish t channel' pc') where
  seam i a b := by
    show (channel'.log .video)[i]? = _ → (channel'.log .video)[i + 1]? = _ → a = b
    intro ha hb
    obtain hlog | ⟨op, hlog, hpc⟩ := log_cases heffect
    · rw [hlog] at ha hb
      exact h.seamed.seam i a b ha hb
    · rw [hlog] at ha hb
      obtain hb | ⟨hlength, hsends⟩ := getElem?_append_toList hb
      · obtain ha | ⟨hend, -⟩ := getElem?_append_toList ha
        · exact h.seamed.seam i a b ha hb
        · have hlt := (List.getElem?_eq_some_iff.mp hb).1
          omega
      · -- the new frame follows the last entry
        have hlast : (s.channel.log .video).getLast? = some (some a) := by
          obtain ha | ⟨hend, -⟩ := getElem?_append_toList ha
          · rw [List.getLast?_eq_getElem?, ← hlength]
            exact ha
          · omega
        exact h.seamed.last t b (h.sends hpc .video b hsends) a hlast
  last u session hu a := by
    show (channel'.log .video).getLast? = _ → a = session
    intro hlast
    have hbefore : (s.publisher u).serves = some session ∨
        (u = t ∧ ∃ op, s.publisher t = .starting session [op] ∧
          ∀ track, channel'.log track = s.channel.log track ++ (op.sends track).toList) := by
      obtain rfl | hne := eq_or_ne u t
      · rw [publisher_publish_self] at hu
        exact (serves_cases heffect hu).imp_right (fun hstarting => ⟨rfl, hstarting⟩)
      · rw [publisher_publish_of_ne hne] at hu
        exact .inl hu
    obtain hserves | ⟨rfl, op, hpc, hlog⟩ := hbefore
    · obtain hlog | ⟨op, hlog, hpc⟩ := log_cases heffect
      · rw [hlog] at hlast
        exact h.seamed.last u session hserves a hlast
      · rw [hlog] at hlast
        cases hsends : op.sends .video with
        | none =>
          rw [hsends, Option.toList_none, List.append_nil] at hlast
          exact h.seamed.last u session hserves a hlast
        | some entry =>
          rw [hsends, Option.toList_some, List.getLast?_concat] at hlast
          obtain rfl := Option.some.inj hlast
          -- only one publisher serves
          have hsender := h.sends hpc .video a hsends
          have hheld := PublisherPc.holds_of_toStart (PublisherPc.toStart_of_serves hserves)
          have hheld' := PublisherPc.holds_of_toStart (PublisherPc.toStart_of_serves hsender)
          obtain rfl := h.flagged.unique u t session a hheld hheld'
          exact Option.some.inj (hheld'.symm.trans hheld)
    · rw [hlog, h.sends_of_starting hpc, Option.toList_some, List.getLast?_concat] at hlast
      cases hlast

theorem Published.step (h : Published s)
    (heffect : PublisherEffect s.channel (s.publisher t) channel' pc') :
    Published (s.publish t channel' pc') where
  flagged := h.flagged.step heffect
  proper u := by
    obtain rfl | hne := eq_or_ne u t
    · rw [publisher_publish_self]
      exact (h.proper u).step heffect
    · rw [publisher_publish_of_ne hne]
      exact h.proper u
  started := h.started_step heffect
  seamed := h.seamed_step heffect

/-! ## Runs -/

variable {config : LiveConfig} {a : LiveAction θ} {s' : Live θ}

/-- A step of the system is one of a publisher or one of the listener. -/
theorem step_cases (h : step config s a = some s') :
    (∃ t choice channel pc, a = .publisher t choice ∧
      PublisherEffect s.channel (s.publisher t) channel pc ∧ s' = s.publish t channel pc) ∨
    (∃ action listener, a = .listener action ∧
      ListenerEffect config.media s.channel s.listener action listener ∧
      s' = { s with listener }) := by
  cases a with
  | publisher t choice =>
    obtain ⟨⟨channel, pc⟩, hstep, rfl⟩ := Option.map_eq_some_iff.mp h
    exact .inl ⟨t, choice, channel, pc, rfl, publisherEffect_of_step hstep, rfl⟩
  | listener action =>
    obtain ⟨listener, hstep, rfl⟩ := Option.map_eq_some_iff.mp h
    exact .inr ⟨action, listener, rfl, listenerEffect_of_step hstep, rfl⟩

theorem trackStarts_new (buffer : Nat) (track : RtspTrack) :
    TrackStarts (.new buffer) track := by
  have hlog : (LiveChannel.new buffer).log track = [] := by
    cases track <;> rfl
  refine ⟨?_, ?_⟩
  · intro i a hentry
    rw [hlog] at hentry
    cases hentry
  · intro a w hw
    cases track <;> cases hw

theorem published_start : Published ((system config).start : Live θ) where
  flagged := by
    refine ⟨?_, ?_, ?_⟩
    · intro t session hheld
      cases hheld
    · intro t u a b hheld
      cases hheld
    · intro hset
      cases hset
  proper _ := trivial
  started := by
    refine ⟨?_, ?_, trackStarts_new config.buffer⟩
    · intro session hle
      refine ⟨?_, ?_, ?_⟩ <;>
        simp [system, LiveChannel.new, PublisherPc.startOps, wakeMediaListeners]
    · intro t session ops hstart
      cases hstart
  seamed := by
    refine ⟨?_, ?_⟩
    · intro i a b ha
      cases ha
    · intro t session hserves
      cases hserves

omit [DecidableEq θ] in
theorem Published.listener (h : Published s) (listener : Listener) :
    Published { s with listener } :=
  ⟨⟨h.flagged.holder, h.flagged.unique, h.flagged.held⟩, h.proper,
    ⟨h.started.fresh, h.started.progress, h.started.tracks⟩, ⟨h.seamed.seam, h.seamed.last⟩⟩

theorem published_of_step (h : Published s) (hstep : step config s a = some s') :
    Published s' := by
  obtain ⟨t, choice, channel, pc, -, heffect, rfl⟩ | ⟨action, listener, -, -, rfl⟩ :=
    step_cases hstep
  · exact h.step heffect
  · exact h.listener listener

theorem published_of_run {ok : Live θ → LiveAction θ → Prop}
    (h : (system config).Run ok (system config).start s) : Published s :=
  h.invariant published_start (fun _ _ _ hs _ hstep => published_of_step hs hstep)

end Live

end VRCStreamer
