import VRCStreamer.Live.Invariant
import VRCStreamer.Live.Tracks

/-!
# Forwarded video can be decoded

Where a listener skips no frame for the state of its channel in between, the frames of video
that it forwards are runs of consecutive frames of one session, each from a keyframe on. The
skipping of a frame does not clear the keyframe flag as all other gaps do: when the state has
changed back before it is compared, the next frame is forwarded without its predecessor.
-/

namespace VRCStreamer

open Codec Concurrency

/-! ## Segments -/

/-- The frame at `j` is the one that was published right after the frame at `i`, and by the
same session. -/
structure Successive (log : List VideoMessage) (i j : Nat) : Prop where
  lt : i < j
  session : ∃ before after, log[i]? = some (.frame before) ∧ log[j]? = some (.frame after) ∧
    before.session = after.session
  between : ∀ k frame, i < k → k < j → log[k]? ≠ some (.frame frame)

def KeyframeAt (log : List VideoMessage) (i : Nat) : Prop :=
  ∃ frame, log[i]? = some (.frame frame) ∧ frame.keyframe = true

/-- A run of consecutive frames from a keyframe on, the newest frame first. -/
def Segment (log : List VideoMessage) (places : List Nat) : Prop :=
  places.IsChain (fun j i => Successive log i j) ∧
    ∃ start, places.getLast? = some start ∧ KeyframeAt log start

/-- The forwarded frames, newest first, can be decoded one after the other. -/
structure Decodable (log : List VideoMessage) (forwarded : List Nat) : Prop where
  ordered : forwarded.Pairwise (· > ·)
  segments : ∃ segments : List (List Nat), forwarded = segments.flatten ∧
    ∀ places ∈ segments, Segment log places
  preceded : ∀ j ∈ forwarded, ∀ frame, log[j]? = some (.frame frame) → frame.keyframe = false →
    ∃ i ∈ forwarded, Successive log i j

/-- The same, one frame at a time. -/
inductive Segments (log : List VideoMessage) : List Nat → Prop
  | nil : Segments log []
  | keyframe {j : Nat} {forwarded : List Nat} (hkeyframe : KeyframeAt log j)
      (hforwarded : Segments log forwarded) : Segments log (j :: forwarded)
  | next {i j : Nat} {forwarded : List Nat} (hnext : Successive log i j)
      (hforwarded : Segments log (i :: forwarded)) : Segments log (j :: i :: forwarded)

section

variable {log log' : List VideoMessage} {forwarded : List Nat} {i j : Nat}

theorem getElem?_of_grows (h : log <+: log') {message : VideoMessage}
    (hi : log[i]? = some message) : log'[i]? = some message := by
  obtain ⟨rest, rfl⟩ := h
  rw [List.getElem?_append_left (List.getElem?_eq_some_iff.mp hi).1]
  exact hi

theorem Successive.mono (h : Successive log i j) (hgrows : log <+: log') :
    Successive log' i j where
  lt := h.lt
  session := by
    obtain ⟨before, after, hbefore, hafter, hsession⟩ := h.session
    exact ⟨before, after, getElem?_of_grows hgrows hbefore, getElem?_of_grows hgrows hafter,
      hsession⟩
  between k frame hik hkj hframe := by
    obtain ⟨before, after, -, hafter, -⟩ := h.session
    have hj := (List.getElem?_eq_some_iff.mp hafter).1
    obtain ⟨rest, rfl⟩ := hgrows
    rw [List.getElem?_append_left (hkj.trans hj)] at hframe
    exact h.between k frame hik hkj hframe

theorem KeyframeAt.mono (h : KeyframeAt log i) (hgrows : log <+: log') : KeyframeAt log' i := by
  obtain ⟨frame, hframe, hkeyframe⟩ := h
  exact ⟨frame, getElem?_of_grows hgrows hframe, hkeyframe⟩

theorem Segments.mono (h : Segments log forwarded) (hgrows : log <+: log') :
    Segments log' forwarded := by
  induction h with
  | nil => exact .nil
  | keyframe hkeyframe _ ih => exact .keyframe (hkeyframe.mono hgrows) ih
  | next hnext _ ih => exact .next (hnext.mono hgrows) ih

theorem Segments.segments (h : Segments log forwarded) :
    ∃ segments : List (List Nat), forwarded = segments.flatten ∧
      ∀ places ∈ segments, Segment log places := by
  induction h with
  | nil => exact ⟨[], rfl, fun places hmem => absurd hmem List.not_mem_nil⟩
  | @keyframe j forwarded hkeyframe _ ih =>
    obtain ⟨segments, rfl, hsegments⟩ := ih
    refine ⟨[j] :: segments, rfl, ?_⟩
    intro places hmem
    obtain rfl | hmem := List.mem_cons.mp hmem
    · exact ⟨.singleton j, j, rfl, hkeyframe⟩
    · exact hsegments places hmem
  | @next i j forwarded hnext _ ih =>
    obtain ⟨segments, hflatten, hsegments⟩ := ih
    cases segments with
    | nil => cases hflatten
    | cons newest older =>
      obtain ⟨hchain, start, hstart, hkeyframe⟩ := hsegments newest List.mem_cons_self
      cases newest with
      | nil => cases hstart
      | cons k places =>
        -- the new frame goes on with the newest segment
        obtain ⟨rfl, hrest⟩ := List.cons.inj hflatten
        refine ⟨(j :: i :: places) :: older, ?_, ?_⟩
        · rw [hrest]
          rfl
        · intro segment hmem
          obtain rfl | hmem := List.mem_cons.mp hmem
          · exact ⟨hchain.cons_cons hnext, start, hstart, hkeyframe⟩
          · exact hsegments segment (List.mem_cons_of_mem _ hmem)

theorem Segments.preceded (h : Segments log forwarded) : ∀ j ∈ forwarded, ∀ frame,
    log[j]? = some (.frame frame) → frame.keyframe = false →
      ∃ i ∈ forwarded, Successive log i j := by
  induction h with
  | nil => exact fun j hmem => absurd hmem List.not_mem_nil
  | @keyframe j forwarded hkeyframe _ ih =>
    intro k hmem frame hframe hnot
    obtain rfl | hmem := List.mem_cons.mp hmem
    · obtain ⟨other, hother, hset⟩ := hkeyframe
      rw [hframe] at hother
      cases hother
      rw [hnot] at hset
      cases hset
    · obtain ⟨i, hi, hnext⟩ := ih k hmem frame hframe hnot
      exact ⟨i, List.mem_cons_of_mem _ hi, hnext⟩
  | @next i j forwarded hnext _ ih =>
    intro k hmem frame hframe hnot
    obtain rfl | hmem := List.mem_cons.mp hmem
    · exact ⟨i, List.mem_cons_of_mem _ List.mem_cons_self, hnext⟩
    · obtain ⟨l, hl, hbefore⟩ := ih k hmem frame hframe hnot
      exact ⟨l, List.mem_cons_of_mem _ hl, hbefore⟩

theorem Segments.lt_length (h : Segments log forwarded) : ∀ j ∈ forwarded, j < log.length := by
  induction h with
  | nil => exact fun j hmem => absurd hmem List.not_mem_nil
  | @keyframe j forwarded hkeyframe _ ih =>
    intro k hmem
    obtain rfl | hmem := List.mem_cons.mp hmem
    · obtain ⟨frame, hframe, -⟩ := hkeyframe
      exact (List.getElem?_eq_some_iff.mp hframe).1
    · exact ih k hmem
  | @next i j forwarded hnext _ ih =>
    intro k hmem
    obtain rfl | hmem := List.mem_cons.mp hmem
    · obtain ⟨before, after, -, hafter, -⟩ := hnext.session
      exact (List.getElem?_eq_some_iff.mp hafter).1
    · exact ih k hmem

theorem Segments.newest (h : Segments log (j :: forwarded)) :
    ∃ frame, log[j]? = some (.frame frame) := by
  cases h with
  | keyframe hkeyframe =>
    obtain ⟨frame, hframe, -⟩ := hkeyframe
    exact ⟨frame, hframe⟩
  | next hnext =>
    obtain ⟨before, after, -, hafter, -⟩ := hnext.session
    exact ⟨after, hafter⟩

end

/-! ## The listener -/

/-- How many messages the track is done with while an action is performed. -/
def handled (rx : Nat) : Option TaskAction → Nat
  | some (.video (.message (.ok (.frame _)))) => rx - 1
  | _ => rx

/-- The action is going to clear the keyframe flag. -/
def Clears : Option TaskAction → Prop
  | some (.video (.message (.ok .wake))) | some (.video (.message (.error _))) => True
  | _ => False

def Playing.action (play : Playing) : Option TaskAction := play.pending.map Prod.fst

/-- While the keyframe flag is set and no frame was skipped, the newest forwarded frame is the
last message that the track is done with. -/
structure Following (log : List VideoMessage) (play : Playing) (track : VideoRtpTrack Nat) :
    Prop where
  past : ∀ j ∈ play.forwarded, j < handled track.rx play.action
  joined : track.seenKeyframe = true → play.skipped = false → ¬ Clears play.action →
    ∃ j rest, play.forwarded = j :: rest ∧ j + 1 = handled track.rx play.action
  frame : ∀ frame, play.action = some (.video (.message (.ok (.frame frame)))) →
    0 < track.rx ∧ log[track.rx - 1]? = some (.frame frame)

structure Followed (log : List VideoMessage) (play : Playing) : Prop where
  segments : Segments log play.forwarded
  ordered : play.forwarded.Pairwise (· > ·)
  view : play.Loaded .videoRx → ∀ j ∈ play.forwarded, j < play.view.videoRx
  running : play.task.point ≠ .ended → ∀ track, play.task.video = some track →
    Following log play track

/-- The condition of the listener's steps: a frame that is no keyframe is not taken up in state
`Video`, with the keyframe flag set, after the frame before it was skipped for the state. -/
def Noticed {θ : Type*} (s : Live θ) (a : LiveAction θ) : Prop :=
  ∀ play track frame, a = .listener .finish → s.listener = .playing play →
    play.pending = some (.video (.message (.ok (.frame frame))), []) →
    play.task.video = some track → track.seenKeyframe = true → frame.keyframe = false →
    play.view.channelVideoState = .video → MediaTask.expired frame play.view = false →
      play.skipped = false

section

variable {log log' : List VideoMessage} {play : Playing} {track : VideoRtpTrack Nat}

theorem handled_le (rx : Nat) (action : Option TaskAction) : handled rx action ≤ rx := by
  rw [handled.eq_def]
  split <;> omega

theorem Following.mono (h : Following log play track) (hgrows : log <+: log') :
    Following log' play track where
  past := h.past
  joined := h.joined
  frame frame hframe := by
    obtain ⟨hpos, hsent⟩ := h.frame frame hframe
    exact ⟨hpos, getElem?_of_grows hgrows hsent⟩

theorem Followed.mono (h : Followed log play) (hgrows : log <+: log') : Followed log' play where
  segments := h.segments.mono hgrows
  ordered := h.ordered
  view := h.view
  running hrunning track htrack := (h.running hrunning track htrack).mono hgrows

/-- The last frames of video stay the same, and the track is done with the same messages. -/
theorem Following.congr (h : Following log play track) {play' : Playing}
    {track' : VideoRtpTrack Nat} (hforwarded : play'.forwarded = play.forwarded)
    (hskipped : play'.skipped = play.skipped) (hrx : track'.rx = track.rx)
    (hseen : track'.seenKeyframe = true → track.seenKeyframe = true)
    (hhandled : handled track.rx play'.action = handled track.rx play.action)
    (hclears : Clears play.action → Clears play'.action)
    (hframe : ∀ frame, play'.action = some (.video (.message (.ok (.frame frame)))) →
      play.action = some (.video (.message (.ok (.frame frame))))) :
    Following log play' track' where
  past := by
    rw [hforwarded, hrx, hhandled]
    exact h.past
  joined hset hskip hclear := by
    rw [hforwarded, hrx, hhandled]
    exact h.joined (hseen hset) (hskipped.symm.trans hskip) (mt hclears hclear)
  frame frame haction := by
    rw [hrx]
    exact h.frame frame (hframe frame haction)

/-- A track that waits for a keyframe. -/
theorem following_of_unseen (hseen : track.seenKeyframe = false)
    (hpast : ∀ j ∈ play.forwarded, j < track.rx) (hidle : play.pending = none) :
    Following log play track where
  past := by
    rw [Playing.action, hidle]
    exact hpast
  joined hset := by
    rw [hseen] at hset
    cases hset
  frame frame haction := by
    rw [Playing.action, hidle] at haction
    cases haction

variable {channel : LiveChannel} {config : MediaTaskConfig}

theorem Followed.begin (h : Followed channel.videoTx.sent play) {action : TaskAction}
    {task : MediaTask Nat} (now : Nat → Nat) (ntp : UInt32 × UInt32) (hidle : play.pending = none)
    (hreceived : play.task.Received channel action task) :
    Followed channel.videoTx.sent (play.begun action task now ntp) where
  segments := h.segments
  ordered := h.ordered
  view hloaded := absurd hloaded (not_loaded_begun now ntp)
  running hrunning track htrack := by
    have hnone : play.action = none := by
      rw [Playing.action, hidle]
      rfl
    have hsame : ∀ {action : TaskAction}, handled track.rx (some action) = track.rx →
        (∀ frame, action ≠ .video (.message (.ok (.frame frame)))) →
        Following channel.videoTx.sent play track →
        Following channel.videoTx.sent (play.begun action task now ntp) track := by
      intro action hhandled hframe hfollowing
      refine hfollowing.congr rfl rfl rfl id ?_ ?_ ?_
      · rw [hnone]
        exact hhandled
      · rw [hnone]
        exact False.elim
      · intro frame haction
        exact absurd (Option.some.inj haction) (hframe frame)
    cases hreceived with
    | next hpoint hrun =>
      exact hsame rfl (fun _ hframe => by cases hframe) (h.running hrun track htrack)
    | audio hpoint audio haudio hrecv =>
      exact hsame rfl (fun _ hframe => by cases hframe) (h.running hrunning track htrack)
    | silence hpoint hoff =>
      exact hsame rfl (fun _ hframe => by cases hframe) (h.running hrunning track htrack)
    | audioReport hpoint =>
      exact hsame rfl (fun _ hframe => by cases hframe) (h.running hrunning track htrack)
    | videoReport hpoint =>
      exact hsame rfl (fun _ hframe => by cases hframe) (h.running hrunning track htrack)
    | @video hpoint video rx message hvideo hrecv =>
      obtain ⟨before, hbefore, rfl⟩ := Option.map_eq_some_iff.mp htrack
      obtain rfl := Option.some.inj (hvideo.symm.trans hbefore)
      have hfollowing := h.running hrunning video hvideo
      have hpast : ∀ j ∈ play.forwarded, j < video.rx := by
        have hpast := hfollowing.past
        rwa [hnone] at hpast
      have hle := Broadcast.le_of_recv hrecv
      cases message with
      | error skipped =>
        refine ⟨fun j hj => (hpast j hj).trans_le hle, ?_, ?_⟩
        · intro _ _ hclear
          exact absurd trivial hclear
        · intro frame haction
          cases haction
      | ok message =>
        obtain ⟨hsent, rfl⟩ := Broadcast.recv_ok hrecv
        cases message with
        | wake =>
          refine ⟨fun j hj => (hpast j hj).trans_le hle, ?_, ?_⟩
          · intro _ _ hclear
            exact absurd trivial hclear
          · intro frame haction
            cases haction
        | frame published =>
          refine ⟨hpast, ?_, ?_⟩
          · intro hset hskip _
            have hjoined := hfollowing.joined hset hskip
            rw [hnone] at hjoined
            exact hjoined id
          · intro frame haction
            cases haction
            exact ⟨Nat.succ_pos _, hsent⟩

theorem Followed.load (h : Followed channel.videoTx.sent play) {action : TaskAction} {load : Load}
    {loads : List Load} (hpending : play.pending = some (action, load :: loads)) :
    Followed channel.videoTx.sent (play.looked channel action load loads) where
  segments := h.segments
  ordered := h.ordered
  view hloaded j hj := by
    obtain ⟨begun, rest, hrest, hmem, hnot⟩ := hloaded
    cases hrest
    show j < (channel.look play.task play.view load).videoRx
    obtain rfl | hne := eq_or_ne load .videoRx
    · exact h.segments.lt_length j hj
    · have hold : (channel.look play.task play.view load).videoRx = play.view.videoRx := by
        cases load <;> first | rfl | exact absurd rfl hne
      rw [hold]
      refine h.view ⟨action, load :: loads, hpending, hmem, ?_⟩ j hj
      rintro (⟨⟩ | ⟨_, hmem⟩)
      · exact hne rfl
      · exact hnot hmem
  running hrunning track htrack := by
    have haction : play.action = some action := by
      rw [Playing.action, hpending]
      rfl
    refine (h.running hrunning track htrack).congr rfl rfl rfl id ?_ ?_ ?_
    · rw [haction]
      rfl
    · rw [haction]
      exact id
    · rw [haction]
      exact fun frame hframe => hframe

variable {action : TaskAction} {outcome : TaskOutcome Nat}

theorem conclude_action : (play.conclude action outcome).action = none := rfl

/-- Steps that are not about video leave the history of video alone. -/
theorem conclude_other (play : Playing) (outcome : TaskOutcome Nat)
    (hother : ∀ event, action ≠ .video event) :
    (play.conclude action outcome).forwarded = play.forwarded ∧
      (play.conclude action outcome).skipped = play.skipped := by
  cases action with
  | video event => exact absurd rfl (hother event)
  | _ => exact ⟨rfl, rfl⟩

theorem conclude_forwarded_of_unsent (play : Playing) (action : TaskAction)
    (hsent : outcome.sent = none) :
    (play.conclude action outcome).forwarded = play.forwarded := by
  show play.forwards action outcome = play.forwarded
  simp only [Playing.forwards, hsent]

theorem Following.conclude (h : Following log play track) (haction : play.action = some action)
    (hother : ∀ event, action ≠ .video event) {track' : VideoRtpTrack Nat}
    (hrx : track'.rx = track.rx)
    (hseen : track'.seenKeyframe = true → track.seenKeyframe = true) :
    Following log (play.conclude action outcome) track' := by
  obtain ⟨hforwarded, hskipped⟩ := conclude_other play outcome hother
  refine h.congr hforwarded hskipped hrx hseen ?_ ?_ ?_
  · rw [conclude_action, haction]
    cases action with
    | video event => exact absurd rfl (hother event)
    | _ => rfl
  · rw [haction]
    cases action with
    | video event => exact absurd rfl (hother event)
    | _ => exact False.elim
  · intro frame hframe
    cases hframe

/-- The task after a step on another track or of the loop itself. -/
theorem Followed.conclude (h : Followed log play) (hother : ∀ event, action ≠ .video event)
    (hrunning : outcome.task.point ≠ .ended → ∀ track', outcome.task.video = some track' →
      Following log (play.conclude action outcome) track') :
    Followed log (play.conclude action outcome) := by
  obtain ⟨hforwarded, hskipped⟩ := conclude_other play outcome hother
  refine ⟨hforwarded ▸ h.segments, hforwarded ▸ h.ordered, ?_, hrunning⟩
  rintro ⟨begun, loads, hpending, -⟩
  cases hpending

theorem action_of_pending {loads : List Load} (hpending : play.pending = some (action, loads)) :
    play.action = some action := by
  rw [Playing.action, hpending]
  rfl

/-- A frame that is sent goes on with the segment, or begins a new one. -/
theorem Following.send (h : Following log play track) (hsegments : Segments log play.forwarded)
    (hseam : ∀ i before after, log[i]? = some (.frame before) →
      log[i + 1]? = some (.frame after) → before.session = after.session)
    {frame : VideoFrame} (haction : play.action = some (.video (.message (.ok (.frame frame)))))
    (hseen : (track.noteFrame frame.keyframe).seenKeyframe = true)
    (hskipped : track.seenKeyframe = true → frame.keyframe = false → play.skipped = false) :
    Segments log ((track.rx - 1) :: play.forwarded) := by
  obtain ⟨hpos, hframe⟩ := h.frame frame haction
  cases hkeyframe : frame.keyframe with
  | true => exact .keyframe ⟨frame, hframe, hkeyframe⟩ hsegments
  | false =>
    rw [hkeyframe] at hseen
    have hset := track.seenKeyframe_of_noteFrame hseen
    obtain ⟨j, rest, hforwarded, hnext⟩ := h.joined hset (hskipped hset hkeyframe) (by
      rw [haction]
      exact id)
    rw [haction] at hnext
    replace hnext : j + 1 = track.rx - 1 := hnext
    rw [hforwarded] at hsegments ⊢
    obtain ⟨before, hbefore⟩ := hsegments.newest
    rw [← hnext] at hframe ⊢
    refine .next ⟨Nat.lt_succ_self j, ⟨before, frame, hbefore, hframe, ?_⟩, ?_⟩ hsegments
    · exact hseam j before frame hbefore hframe
    · intro k other hjk hkj
      omega

/-- After a step no message is in hand. -/
theorem following_conclude {track' : VideoRtpTrack Nat} {forwarded : List Nat}
    (hforwarded : (play.conclude action outcome).forwarded = forwarded)
    (hpast : ∀ j ∈ forwarded, j < track'.rx)
    (hjoined : track'.seenKeyframe = true → play.skips action = false →
      ∃ j rest, forwarded = j :: rest ∧ j + 1 = track'.rx) :
    Following log (play.conclude action outcome) track' where
  past := by
    rw [hforwarded]
    exact hpast
  joined hset hskipped _ := by
    rw [hforwarded]
    exact hjoined hset hskipped
  frame frame hframe := by cases hframe

theorem followed_conclude (hsegments : Segments log (play.conclude action outcome).forwarded)
    (hordered : (play.conclude action outcome).forwarded.Pairwise (· > ·))
    (hrunning : outcome.task.point ≠ .ended → ∀ track', outcome.task.video = some track' →
      Following log (play.conclude action outcome) track') :
    Followed log (play.conclude action outcome) := by
  refine ⟨hsegments, hordered, ?_, hrunning⟩
  rintro ⟨begun, loads, hpending, -⟩
  cases hpending

/-- A step that sends nothing. -/
theorem Followed.unsent (h : Followed log play) (hsent : outcome.sent = none)
    (hrunning : outcome.task.point ≠ .ended → ∀ track', outcome.task.video = some track' →
      Following log (play.conclude action outcome) track') :
    Followed log (play.conclude action outcome) := by
  have hforwarded := conclude_forwarded_of_unsent play action hsent
  exact followed_conclude (hforwarded ▸ h.segments) (hforwarded ▸ h.ordered) hrunning

theorem Followed.unsent_ended (h : Followed log play) (hsent : outcome.sent = none)
    (hended : outcome.task.point = .ended) : Followed log (play.conclude action outcome) :=
  h.unsent hsent (fun hrunning => absurd hended hrunning)

theorem Followed.unsent_track (h : Followed log play) (hsent : outcome.sent = none)
    {track' : VideoRtpTrack Nat} (htrack : outcome.task.video = some track')
    (hpast : ∀ j ∈ play.forwarded, j < track'.rx)
    (hjoined : track'.seenKeyframe = true → play.skips action = false →
      ∃ j rest, play.forwarded = j :: rest ∧ j + 1 = track'.rx) :
    Followed log (play.conclude action outcome) := by
  refine h.unsent hsent ?_
  intro _ after hafter
  obtain rfl := Option.some.inj (htrack.symm.trans hafter)
  exact following_conclude (conclude_forwarded_of_unsent play action hsent) hpast hjoined

/-- A step that sends the frame in hand. -/
theorem Followed.forward (h : Followed log play) (hpos : 0 < track.rx)
    (hpast : ∀ j ∈ play.forwarded, j < track.rx - 1)
    (hsegments : Segments log ((track.rx - 1) :: play.forwarded))
    (hforwarded : (play.conclude action outcome).forwarded = (track.rx - 1) :: play.forwarded)
    {track' : VideoRtpTrack Nat} (htrack : outcome.task.video = some track')
    (hrx : track'.rx = track.rx) : Followed log (play.conclude action outcome) := by
  refine followed_conclude ?_ ?_ ?_
  · rw [hforwarded]
    exact hsegments
  · rw [hforwarded]
    exact List.pairwise_cons.mpr ⟨hpast, h.ordered⟩
  · intro _ after hafter
    obtain rfl := Option.some.inj (htrack.symm.trans hafter)
    refine following_conclude hforwarded ?_ ?_
    · rw [hrx]
      intro j hj
      obtain rfl | hj := List.mem_cons.mp hj
      · omega
      · exact (hpast j hj).trans_le (Nat.sub_le _ _)
    · intro _ _
      refine ⟨track.rx - 1, play.forwarded, rfl, ?_⟩
      rw [hrx]
      omega

theorem Followed.handleVideo (h : Followed log play)
    (hseam : ∀ i before after, log[i]? = some (.frame before) →
      log[i + 1]? = some (.frame after) → before.session = after.session)
    {event : VideoRtpEvent} (hpending : play.pending = some (.video event, []))
    (hpoint : play.task.point = .select) (hvideo : play.task.video = some track)
    (hnoticed : ∀ frame, event = .message (.ok (.frame frame)) → track.seenKeyframe = true →
      frame.keyframe = false → play.view.channelVideoState = .video →
      MediaTask.expired frame play.view = false → play.skipped = false) :
    Followed log (play.conclude (.video event)
      (play.task.handleVideo track event config play.view)) := by
  have haction := action_of_pending hpending
  have hfollowing := h.running (by rw [hpoint]; decide) track hvideo
  have hpast : ∀ j ∈ play.forwarded, j < track.rx :=
    fun j hj => (hfollowing.past j hj).trans_le (handled_le _ _)
  have hview : .videoRx ∈ (TaskAction.video event).loads .select →
      ∀ j ∈ play.forwarded, j < play.view.videoRx :=
    fun hmem => h.view (loaded_of_pending hpending (hpoint ▸ hmem))
  have hwatched := track.handleEvent_watched event (play.task.context config play.view)
    play.task.timeline
  cases hwatched with
  | same hevent htrack hsent =>
    refine h.unsent_track hsent rfl ?_ ?_
    · rw [htrack.1]
      exact hpast
    · intro hset hskips
      rw [htrack.2] at hset
      rw [htrack.1]
      obtain rfl | ⟨frame, rfl, hstate⟩ := hevent
      · have hjoined := hfollowing.joined hset hskips
        rw [haction] at hjoined
        exact hjoined id
      · have hstate : play.view.channelVideoState ≠ .video := hstate
        exact absurd hskips (by simpa [Playing.skips] using hstate)
  | cleared hevent hrx hseen hsent =>
    refine h.unsent_track hsent rfl ?_ ?_
    · rw [hrx]
      exact hpast
    · intro hset
      cases hseen.symm.trans hset
  | renewed hevent hrx hseen hsent =>
    refine h.unsent_track hsent rfl ?_ ?_
    · rw [hrx]
      apply hview
      obtain ⟨skipped, rfl⟩ | ⟨frame, rfl⟩ := hevent <;> simp [TaskAction.loads]
    · intro hset
      cases hseen.symm.trans hset
  | ended hsent hresult =>
    refine h.unsent_ended hsent ?_
    show MediaTask.pointAfter _ = _
    rw [hresult]
    rfl
  | @sent frame _ hstate hfresh hseen hrx hsent =>
    have hexpired : MediaTask.expired frame play.view = false := by
      rw [MediaTask.expired, ← Bool.decide_and, decide_eq_false_iff_not]
      exact hfresh
    obtain hsome | ⟨hnone, reason, herror⟩ := hsent
    · have hpast' := hfollowing.past
      rw [haction] at hpast'
      refine h.forward (hfollowing.frame frame haction).1 hpast' ?_ ?_ rfl hrx
      · refine hfollowing.send h.segments hseam haction hseen ?_
        exact fun hset hnot => hnoticed frame rfl hset hnot hstate hexpired
      · obtain ⟨unit, hunit⟩ := Option.isSome_iff_exists.mp hsome
        have hunit : (play.task.handleVideo track (.message (.ok (.frame frame))) config
          play.view).sent = some unit := hunit
        show play.forwards _ _ = _
        simp only [Playing.forwards, hunit, hvideo]
    · refine h.unsent_ended hnone ?_
      show MediaTask.pointAfter _ = _
      rw [herror]
      rfl

theorem Followed.finish (h : Followed log play)
    (hseam : ∀ i before after, log[i]? = some (.frame before) →
      log[i + 1]? = some (.frame after) → before.session = after.session)
    (hpending : play.pending = some (action, []))
    (hperformed : play.task.Performed config play.view action outcome)
    (hnoticed : ∀ track frame, action = .video (.message (.ok (.frame frame))) →
      play.task.video = some track → track.seenKeyframe = true → frame.keyframe = false →
      play.view.channelVideoState = .video → MediaTask.expired frame play.view = false →
        play.skipped = false) :
    Followed log (play.conclude action outcome) := by
  have haction := action_of_pending hpending
  cases hperformed with
  | epoch hpoint =>
    refine h.conclude (fun _ hvideo => by cases hvideo) ?_
    intro _ track' htrack'
    dsimp only at htrack'
    rw [MediaTask.loadEpoch] at htrack'
    split at htrack'
    next =>
      obtain ⟨track, hvideo, rfl⟩ := Option.map_eq_some_iff.mp htrack'
      refine following_conclude rfl ?_ ?_
      · apply h.view (loaded_of_pending hpending _)
        rw [hpoint]
        decide
      · intro hset
        cases hset
    next =>
      have hfollowing := h.running (by rw [hpoint]; decide) track' htrack'
      exact hfollowing.conclude haction (fun _ hvideo => by cases hvideo) rfl id
  | backlog hpoint =>
    refine h.conclude (fun _ hvideo => by cases hvideo) ?_
    intro _ track' htrack'
    have hfollowing := h.running (by rw [hpoint]; decide) track' htrack'
    exact hfollowing.conclude haction (fun _ hvideo => by cases hvideo) rfl id
  | state hpoint =>
    refine h.conclude (fun _ hvideo => by cases hvideo) ?_
    intro _ track' htrack'
    rw [MediaTask.syncState] at htrack'
    split at htrack'
    next hnone =>
      dsimp only at htrack'
      rw [hnone] at htrack'
      cases htrack'
    next track hvideo =>
      obtain rfl := Option.some.inj htrack'
      have hfollowing := h.running (by rw [hpoint]; decide) track hvideo
      refine hfollowing.conclude haction (fun _ hvideo => by cases hvideo) ?_ ?_
      · exact track.syncState_rx _ _
      · exact track.seenKeyframe_of_syncState _ _
  | streamer hpoint =>
    refine h.conclude (fun _ hvideo => by cases hvideo) ?_
    intro hrunning track' htrack'
    dsimp only at hrunning htrack'
    rw [MediaTask.loadStreamer] at hrunning htrack'
    split at htrack'
    next hnone =>
      rw [if_pos hnone] at hrunning
      exact absurd rfl hrunning
    next =>
      have hfollowing := h.running (by rw [hpoint]; decide) track' htrack'
      exact hfollowing.conclude haction (fun _ hvideo => by cases hvideo) rfl id
  | audio hpoint audio event haudio =>
    refine h.conclude (fun _ hvideo => by cases hvideo) ?_
    intro _ track' htrack'
    have hfollowing := h.running (by rw [hpoint]; decide) track' htrack'
    exact hfollowing.conclude haction (fun _ hvideo => by cases hvideo) rfl id
  | video hpoint track event hvideo =>
    refine h.handleVideo hseam hpending hpoint hvideo ?_
    rintro frame rfl hset hnot hstate hexpired
    exact hnoticed track frame rfl hvideo hset hnot hstate hexpired

end

/-! ## Runs -/

section

variable {θ : Type*} [DecidableEq θ] {config : LiveConfig} {s s' : Live θ} {a : LiveAction θ}

omit [DecidableEq θ] in
/-- The frames of two sessions are never next to each other. -/
theorem Live.Published.seam (h : Live.Published s) (i : Nat) (before after : VideoFrame)
    (hbefore : s.channel.videoTx.sent[i]? = some (.frame before))
    (hafter : s.channel.videoTx.sent[i + 1]? = some (.frame after)) :
    before.session = after.session := by
  apply h.seamed.seam i
  · show (s.channel.videoTx.sent.map _)[i]? = _
    rw [List.getElem?_map, hbefore]
    rfl
  · show (s.channel.videoTx.sent.map _)[i + 1]? = _
    rw [List.getElem?_map, hafter]
    rfl

theorem followed_start (audio video : Option (TrackStart Nat)) (playStartedAt epoch : Nat)
    (now : Nat → Nat) (view : ChannelView Nat) (log : List VideoMessage) :
    Followed log { task := .new audio video playStartedAt epoch now, view } where
  segments := .nil
  ordered := .nil
  view _ j hj := by cases hj
  running _ track htrack := by
    obtain ⟨start, -, rfl⟩ := Option.map_eq_some_iff.mp htrack
    exact following_of_unseen rfl (fun j hj => by cases hj) rfl

/-- The frames of a listener that plays. -/
def FollowedBy (s : Live θ) : Prop :=
  ∀ play, s.listener = .playing play → Followed s.channel.videoTx.sent play

theorem FollowedBy.step (h : FollowedBy s) (hpublished : Live.Published s) (hnoticed : Noticed s a)
    (hstep : Live.step config s a = some s') : FollowedBy s' := by
  obtain ⟨t, choice, channel, pc, -, heffect, rfl⟩ | ⟨action, listener, rfl, heffect, rfl⟩ :=
    Live.step_cases hstep
  · intro play hplay
    exact (h play hplay).mono (sent_grows heffect).2
  · intro play hplay
    dsimp only at hplay ⊢
    subst hplay
    generalize hlistener : s.listener = before at heffect
    cases heffect with
    | start playStartedAt now ntp => exact followed_start _ _ _ _ _ _ _
    | playing heffect =>
      cases heffect with
      | begin now ntp hidle hreceived => exact (h _ hlistener).begin now ntp hidle hreceived
      | load hpending => exact (h _ hlistener).load hpending
      | finish hpending hperformed =>
        refine (h _ hlistener).finish hpublished.seam hpending hperformed ?_
        rintro track frame rfl hvideo hset hnot hstate hexpired
        exact hnoticed _ track frame rfl hlistener hpending hvideo hset hnot hstate hexpired

/-- In every run whose steps meet the condition, the frames of video that the listener
forwards can be decoded. -/
theorem forwarded_decodable (config : LiveConfig) {s : Live θ} {play : Playing}
    (hrun : (Live.system config).Run Noticed (Live.system config).start s)
    (hplay : s.listener = .playing play) :
    Decodable s.channel.videoTx.sent play.forwarded := by
  have hfollowed : Live.Published s ∧ FollowedBy s := by
    refine hrun.invariant (P := fun s => Live.Published s ∧ FollowedBy s)
      ⟨Live.published_start, fun play hplay => by cases hplay⟩ ?_
    rintro s a s' ⟨hpublished, hfollowed⟩ hnoticed hstep
    exact ⟨Live.published_of_step hpublished hstep, hfollowed.step hpublished hnoticed hstep⟩
  have h := hfollowed.2 play hplay
  exact ⟨h.ordered, h.segments.segments, h.segments.preceded⟩

end

/-! ## Sample runs -/

namespace Live

def keyframe : LiveMessage := .videoFrame [0, 0, 1, 0x65, 1] true true 0 0

def otherFrame : LiveMessage := .videoFrame [0, 0, 1, 0x41, 1] false true 0 0

/-- Publisher 0 sends a keyframe and two frames, and the listener forwards the first. -/
def publishSteps : List (LiveAction Nat) :=
  connectSteps 0 keyframe ++ listenSteps none (some (2, {})) ++ advance 0 1 ++
    [.publisher 0 (.message otherFrame)] ++ advance 0 2 ++
    [.publisher 0 (.message otherFrame)] ++ advance 0 2 ++
    roundHead ++ taskStep .videoMessage 4 ++ roundHead

/-- Publisher 0 gives up the flag before the listener handles the second frame, and publisher
1 takes it before the third. -/
def successorSteps : List (LiveAction Nat) :=
  publishSteps ++ [.publisher 0 .close, .publisher 0 .advance] ++ taskStep .videoMessage 4 ++
    [.publisher 1 .advance] ++ roundHead ++ taskStep .videoMessage 4

/-- Publisher 0 gives up the flag after the second frame, and the listener sees that. -/
def teardownSteps : List (LiveAction Nat) :=
  publishSteps ++ taskStep .videoMessage 4 ++ roundHead ++
    [.publisher 0 .close, .publisher 0 .advance] ++ taskStep .videoMessage 4 ++ roundHead

/-- The frames in a log with their sessions and whether they are keyframes. -/
def frames (log : List VideoMessage) : List (Option (Nat × Bool)) :=
  log.map (fun message => match message with
    | .wake => none
    | .frame frame => some (frame.session, frame.keyframe))

def forwarded (s : Live Nat) : Option (List Nat) :=
  match s.listener with
  | .playing play => some play.forwarded
  | _ => none

theorem playing_of_forwarded {s : Live Nat} {places : List Nat} (h : s.forwarded = some places) :
    ∃ play, s.listener = .playing play ∧ play.forwarded = places := by
  rw [forwarded] at h
  split at h
  next play hplay => exact ⟨play, hplay, Option.some.inj h⟩
  next => cases h

theorem getElem?_of_frames {log : List VideoMessage} {i session : Nat} {keyframe : Bool}
    (h : (frames log)[i]? = some (some (session, keyframe))) :
    ∃ frame, log[i]? = some (.frame frame) ∧ frame.session = session ∧
      frame.keyframe = keyframe := by
  rw [frames, List.getElem?_map, Option.map_eq_some_iff] at h
  obtain ⟨message, hmessage, hframe⟩ := h
  cases message with
  | wake => cases hframe
  | frame published =>
    cases hframe
    exact ⟨published, hmessage, rfl, rfl⟩

/-- What a performed list leaves of video. -/
theorem exists_sample (labels : List (LiveAction Nat)) (places : List Nat)
    (log : List (Option (Nat × Bool)))
    (h : (sample.exec sample.start labels).map
      (fun s => (s.forwarded, frames s.channel.videoTx.sent)) = some (some places, log)) :
    ∃ s play, sample.exec sample.start labels = some s ∧ s.listener = .playing play ∧
      play.forwarded = places ∧ frames s.channel.videoTx.sent = log := by
  obtain ⟨s, hexec, hview⟩ := Option.map_eq_some_iff.mp h
  obtain ⟨hforwarded, hframes⟩ := Prod.mk.inj hview
  obtain ⟨play, hplay, hplaces⟩ := playing_of_forwarded hforwarded
  exact ⟨s, play, hexec, hplay, hplaces, hframes⟩

/-- No frame of video is skipped for the state but a keyframe or the last one. -/
def noticedCheck (s : Live Nat) : LiveAction Nat → Bool
  | .listener .finish =>
    match s.listener with
    | .playing play => !play.skipped || play.pending.all (fun pending =>
        match pending.1 with
        | .video (.message (.ok (.frame frame))) => frame.keyframe
        | _ => true)
    | _ => true
  | _ => true

theorem noticed_of_check (s : Live Nat) (a : LiveAction Nat) (h : noticedCheck s a = true) :
    Noticed s a := by
  rintro play track frame rfl hplay hpending - - hnot - -
  rw [noticedCheck, hplay] at h
  dsimp only at h
  rw [hpending, Option.all_some] at h
  dsimp only at h
  rw [hnot, Bool.or_false, Bool.not_eq_true'] at h
  exact h

end Live

/-- The listener forwards the third frame of publisher 0, which is no keyframe, without the
second. -/
theorem forwards_past_skipped_frame : ∃ s play, Live.sample.Reachable s ∧
    s.listener = .playing play ∧ ¬ Decodable s.channel.videoTx.sent play.forwarded := by
  obtain ⟨s, play, hexec, hplay, hplaces, hframes⟩ := Live.exists_sample
    Live.successorSteps [4, 2] [none, none, some (0, true), some (0, false), some (0, false)]
    (by decide +kernel)
  refine ⟨s, play, System.reachable_of_exec hexec, hplay, ?_⟩
  intro hdecodable
  have hentry : ∀ i : Nat, [none, none, some (0, true), some (0, false), some (0, false)][i]? =
      some (some (0, false)) → ∃ frame, s.channel.videoTx.sent[i]? = some (VideoMessage.frame frame) ∧
        frame.session = 0 ∧ frame.keyframe = false := by
    intro i hi
    exact Live.getElem?_of_frames (hframes ▸ hi)
  obtain ⟨second, hsecond, -⟩ := hentry 3 rfl
  obtain ⟨third, hthird, -, hnot⟩ := hentry 4 rfl
  rw [hplaces] at hdecodable
  obtain ⟨i, hi, hnext⟩ := hdecodable.preceded 4 List.mem_cons_self third hthird hnot
  have hlt := hnext.lt
  have htwo : i = 2 := by
    simp only [List.mem_cons, List.not_mem_nil, or_false] at hi
    omega
  subst htwo
  exact hnext.between 3 second (by decide) (by decide) hsecond

/-- A frame is skipped when its publisher goes, and the listener notices. -/
theorem forwarded_decodable_teardown : ∃ s play,
    Live.sample.Run Noticed Live.sample.start s ∧ s.listener = .playing play ∧
      play.forwarded = [3, 2] ∧ Decodable s.channel.videoTx.sent play.forwarded := by
  obtain ⟨s, hexec, hview⟩ : ∃ s,
      (Live.sample.guarded Live.noticedCheck).exec Live.sample.start Live.teardownSteps = some s ∧
      s.forwarded = some [3, 2] := Option.map_eq_some_iff.mp (by decide +kernel)
  obtain ⟨play, hplay, hplaces⟩ := Live.playing_of_forwarded hview
  have hrun : Live.sample.Run Noticed Live.sample.start s :=
    System.run_of_exec_guarded (fun s a _ => Live.noticed_of_check s a) hexec
  exact ⟨s, play, hrun, hplay, hplaces, forwarded_decodable _ hrun hplay⟩

end VRCStreamer
