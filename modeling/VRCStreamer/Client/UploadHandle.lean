import VRCStreamer.Client.TransportWorker

/-!
# One video worker of an upload

The messages to a worker, what it has made of them, and what it posts back. Once the worker has
handled every message, it is paused exactly when the transport has paused it; the frame that
follows a `transport-resume` is a keyframe.
-/

namespace VRCStreamer

open Concurrency

variable {α : Type*}

/-! ## Keyframes -/

/-- How often the worker had been told to resume before every frame that it handed over. A frame
that it hands over right after it was told is a keyframe, and so is the first one. -/
structure PacedWorker.Heard (w : PacedWorker α) (heard : List Nat) (resumes : Nat) : Prop where
  length : heard.length = w.handed.length
  le : ∀ n ∈ heard, n ≤ resumes
  first : ∀ frame, w.handed[0]? = some frame → frame.keyFrame = true
  gap : ∀ k n m, heard[k]? = some n → heard[k + 1]? = some m → n < m →
    ∀ frame, w.handed[k + 1]? = some frame → frame.keyFrame = true
  due : w.closed = true ∨
    ((∀ n ∈ heard.getLast?, n < resumes) → w.forceNextKeyframe = true)

namespace PacedWorker.Heard

variable {w w' : PacedWorker α} {heard : List Nat} {resumes : Nat}

theorem boots (hhanded : w.handed = []) (hdue : w.Due) : w.Heard [] resumes where
  length := by rw [hhanded]; rfl
  le := List.forall_mem_nil _
  first frame hframe := by simp [hhanded] at hframe
  gap k n m hn := by simp at hn
  due := hdue.imp_right fun h _ => h.2

theorem holds (h : w.Heard heard resumes) (hholds : w.Holds w') : w'.Heard heard resumes where
  length := by rw [hholds.handed]; exact h.length
  le := h.le
  first := by rw [hholds.handed]; exact h.first
  gap := by rw [hholds.handed]; exact h.gap
  due := by
    rcases hholds.network with hclosed | ⟨hclosed, -⟩
    · exact .inl hclosed
    · rcases h.due with hshut | hforce
      · exact .inl (hclosed.trans hshut)
      · exact .inr fun hlast => hholds.force (hforce hlast)

/-- The worker has handled one more `transport-resume`. -/
theorem resume (h : w.Heard heard resumes) (hhears : w.Hears w' .transportResume) :
    w'.Heard heard (resumes + 1) where
  length := by rw [hhears.handed]; exact h.length
  le n hn := Nat.le_succ_of_le (h.le n hn)
  first := by rw [hhears.handed]; exact h.first
  gap := by rw [hhears.handed]; exact h.gap
  due := (hhears.resumes rfl).imp_right fun hforce _ => hforce

theorem hears (h : w.Heard heard resumes) {message : WorkerMessage α}
    (hhears : w.Hears w' message) : w'.Heard heard (resumes + message.resumes) := by
  cases message with
  | transportResume => exact h.resume hhears
  | _ =>
    refine ⟨by rw [hhears.handed]; exact h.length, h.le, by rw [hhears.handed]; exact h.first,
      by rw [hhears.handed]; exact h.gap, ?_⟩
    rcases hhears.network with hclosed | ⟨hclosed, -⟩
    · exact .inl hclosed
    · rcases h.due with hshut | hforce
      · exact .inl (hclosed.trans hshut)
      · exact .inr fun hlast => hhears.force (hforce hlast)

/-- A frame is handed over. -/
theorem hands (h : w.Heard heard resumes) (hhands : w.Hands w') :
    w'.Heard (heard ++ [resumes]) resumes := by
  obtain ⟨frame, hhanded, hkey⟩ := hhands.handed
  have hopen : w.closed ≠ true := fun hclosed => hhands.running (.inl hclosed)
  have hforce := h.due.resolve_left hopen
  have hlength := h.length
  constructor
  · rw [hhanded, List.length_append, List.length_append, hlength]
    rfl
  · intro n hn
    rcases List.mem_append.mp hn with hold | hnew
    · exact h.le n hold
    · exact (List.mem_singleton.mp hnew).le
  · intro first hfirst
    rw [hhanded] at hfirst
    rcases List.eq_nil_or_concat heard with hnil | ⟨init, last, hconcat⟩
    · have hempty : w.handed = [] := List.length_eq_zero_iff.mp (by rw [← hlength, hnil]; rfl)
      rw [hempty, List.nil_append] at hfirst
      obtain rfl := Option.some.inj hfirst
      refine hkey (hforce ?_)
      simp [hnil]
    · rw [List.getElem?_append_left (by rw [← hlength, hconcat]; simp)] at hfirst
      exact h.first first hfirst
  · intro k n m hn hm hlt next hnext
    rw [hhanded] at hnext
    by_cases hbefore : k + 1 < heard.length
    · rw [List.getElem?_append_left hbefore] at hm
      rw [List.getElem?_append_left (by omega)] at hn
      rw [List.getElem?_append_left (by omega)] at hnext
      exact h.gap k n m hn hm hlt next hnext
    · have hk : k + 1 = heard.length := by
        have hbound := (List.getElem?_eq_some_iff.mp hm).1
        rw [List.length_append, List.length_singleton] at hbound
        omega
      rw [hk, List.getElem?_concat_length] at hm
      rw [hk, hlength, List.getElem?_concat_length] at hnext
      obtain rfl := Option.some.inj hm
      obtain rfl := Option.some.inj hnext
      rw [List.getElem?_append_left (by omega)] at hn
      refine hkey (hforce fun last hlast => ?_)
      rw [List.getLast?_eq_getElem?, ← hk, Nat.add_sub_cancel, hn] at hlast
      exact (Option.some.inj hlast) ▸ hlt
  · right
    intro hlast
    exact absurd (hlast resumes (by simp)) (Nat.lt_irrefl resumes)

end PacedWorker.Heard

/-! ## Messages and replies -/

/-- A message that neither opens the worker nor is about the transport. -/
def WorkerMessage.Quiet (message : WorkerMessage α) : Prop := message.Free ∨ message = .close

def resumesIn (messages : List (WorkerMessage α)) : Nat := (messages.map (·.resumes)).sum

theorem resumesIn_append (messages : List (WorkerMessage α)) (message : WorkerMessage α) :
    resumesIn (messages ++ [message]) = resumesIn messages + message.resumes := by
  rw [resumesIn, List.map_append, List.sum_append]
  rfl

theorem resumesIn_cons (message : WorkerMessage α) (messages : List (WorkerMessage α)) :
    resumesIn (message :: messages) = message.resumes + resumesIn messages := rfl

namespace WorkerMessage.Quiet

variable {message : WorkerMessage α}

theorem follow (h : message.Quiet) (paused : Bool) :
    PacedWorker.follow paused message = paused := by
  rcases h with hfree | rfl
  · cases message <;> first | rfl | exact False.elim hfree
  · rfl

theorem resumes (h : message.Quiet) : message.resumes = 0 := by
  rcases h with hfree | rfl
  · cases message <;> first | rfl | exact False.elim hfree
  · rfl

theorem ne_init (h : message.Quiet) (m : InitMessage α) : message ≠ .init m := by
  rintro rfl
  rcases h with hfree | hclose
  · exact hfree
  · cases hclose

end WorkerMessage.Quiet

theorem foldl_follow_quiet {messages : List (WorkerMessage α)} (h : ∀ m ∈ messages, m.Quiet)
    (paused : Bool) : messages.foldl PacedWorker.follow paused = paused := by
  induction messages with
  | nil => rfl
  | cons message messages ih =>
    rw [List.foldl_cons, (h message List.mem_cons_self).follow]
    exact ih fun m hm => h m (List.mem_cons_of_mem message hm)

theorem resumesIn_quiet {messages : List (WorkerMessage α)} (h : ∀ m ∈ messages, m.Quiet) :
    resumesIn messages = 0 := by
  induction messages with
  | nil => rfl
  | cons message messages ih =>
    rw [resumesIn_cons, (h message List.mem_cons_self).resumes,
      ih fun m hm => h m (List.mem_cons_of_mem message hm)]

def WorkerReply.frame : WorkerReply → Option Nat
  | .packet frame _ => some frame
  | _ => none

/-- The packets among replies, in order. -/
def WorkerReply.frames (replies : List WorkerReply) : List Nat :=
  replies.filterMap WorkerReply.frame

/-- No packet comes before `ready` unless that has been received. -/
def PacketsAfterReady (settled : Bool) : List WorkerReply → Prop
  | [] => True
  | .ready :: _ => True
  | .packet _ _ :: replies => settled = true ∧ PacketsAfterReady settled replies
  | _ :: replies => PacketsAfterReady settled replies

namespace PacketsAfterReady

variable {settled : Bool} {replies : List WorkerReply}

theorem of_settled (replies : List WorkerReply) : PacketsAfterReady true replies := by
  induction replies with
  | nil => trivial
  | cons reply replies ih =>
    cases reply with
    | ready => trivial
    | packet frame byteLength => exact ⟨rfl, ih⟩
    | closed => exact ih
    | error => exact ih

theorem tail {reply : WorkerReply} (h : PacketsAfterReady settled (reply :: replies))
    (hready : reply ≠ .ready) : PacketsAfterReady settled replies := by
  cases reply with
  | ready => exact absurd rfl hready
  | packet frame byteLength => exact h.2
  | closed => exact h
  | error => exact h

/-- What else is posted may come at any time. -/
theorem post (h : PacketsAfterReady settled replies) {posts : List WorkerReply}
    (hposts : WorkerReply.frames posts = []) : PacketsAfterReady settled (replies ++ posts) := by
  induction replies with
  | nil =>
    induction posts with
    | nil => trivial
    | cons reply posts ih =>
      cases reply with
      | ready => trivial
      | packet frame byteLength => cases hposts
      | closed => exact ih hposts
      | error => exact ih hposts
  | cons reply replies ih =>
    cases reply with
    | ready => trivial
    | packet frame byteLength => exact ⟨h.1, ih h.2⟩
    | closed => exact ih h
    | error => exact ih h

theorem packet (h : PacketsAfterReady settled replies)
    (hready : settled = true ∨ .ready ∈ replies) (frame byteLength : Nat) :
    PacketsAfterReady settled (replies ++ [.packet frame byteLength]) := by
  induction replies with
  | nil => exact ⟨hready.resolve_right List.not_mem_nil, trivial⟩
  | cons reply replies ih =>
    have hrest (hne : reply ≠ .ready) : settled = true ∨ .ready ∈ replies :=
      hready.imp_right fun hmem => (List.mem_cons.mp hmem).resolve_left hne.symm
    cases reply with
    | ready => trivial
    | packet frame byteLength => exact ⟨h.1, ih h.2 (hrest nofun)⟩
    | closed => exact ih h (hrest nofun)
    | error => exact ih h (hrest nofun)

end PacketsAfterReady

/-- A step of the worker posts no packet. -/
theorem frames_posted (w w' : PacedWorker α) (event : WorkerEvent α) :
    WorkerReply.frames (w.posted w' event) = [] := by
  rw [PacedWorker.posted.eq_def, WorkerReply.frames, List.filterMap_append, List.append_eq_nil_iff]
  constructor
  · split <;> rfl
  · split
    next => split <;> rfl
    next => split <;> rfl
    next => rfl

theorem posted_message (w w' : PacedWorker α) (message : WorkerMessage α) (now next : α) :
    ∀ reply ∈ w.posted w' (.message message now next), reply = .error := by
  intro reply hreply
  rw [PacedWorker.posted.eq_def, List.append_nil] at hreply
  split at hreply
  next => exact List.mem_singleton.mp hreply
  next => exact absurd hreply List.not_mem_nil

/-- Only a `close` of the page is answered by `closed`. -/
theorem closed_mem_posted {w w' : PacedWorker α} {event : WorkerEvent α}
    (h : .closed ∈ w.posted w' event) : w.Leaving := by
  rw [PacedWorker.posted.eq_def] at h
  rcases List.mem_append.mp h with herror | hposted
  · split at herror <;> simp at herror
  · split at hposted
    next => split at hposted <;> simp at hposted
    next hcommand =>
      rw [PacedWorker.Leaving, hcommand]
      trivial
    next => simp at hposted

theorem ready_mem_posted {w w' : PacedWorker α} {event : WorkerEvent α}
    (h : .ready ∈ w.posted w' event) : w.Booting := by
  rw [PacedWorker.posted.eq_def] at h
  rcases List.mem_append.mp h with herror | hposted
  · split at herror <;> simp at herror
  · split at hposted
    next hcommand =>
      rw [PacedWorker.Booting, hcommand]
      trivial
    next => split at hposted <;> simp at hposted
    next => simp at hposted

/-- A worker that announces itself has been opened. -/
theorem not_booting_of_ready [Field α] [LinearOrder α] [FloorRing α] [IsStrictOrderedRing α]
    {w w' : PacedWorker α} {event : WorkerEvent α} (hstep : w.step event = some w')
    (h : .ready ∈ w.posted w' event) : ¬ w'.Booting := by
  rw [PacedWorker.posted.eq_def] at h
  rcases List.mem_append.mp h with herror | hposted
  · split at herror <;> simp at herror
  · split at hposted
    next settlement message hcommand =>
      split at hposted
      next hfulfilled =>
        rw [PacedWorker.step, hcommand] at hstep
        obtain rfl := Option.some.inj hstep
        rw [PacedWorker.resumeCommand, if_neg (not_not.mpr hfulfilled)]
        exact id
      next => exact absurd hposted List.not_mem_nil
    next => split at hposted <;> simp at hposted
    next => simp at hposted

theorem PacedWorker.Booting.not_leaving {w : PacedWorker α} (h : w.Booting) : ¬ w.Leaving := by
  intro hleaving
  rw [PacedWorker.Leaving] at hleaving
  split at hleaving
  next closing hcommand =>
    rw [PacedWorker.Booting, hcommand] at h
    exact h
  next => exact hleaving

/-! ## The two sides of a worker -/

namespace VideoHandle

variable {v v' : VideoHandle α}

/-- Before a worker is ready, nothing concerns the transport. -/
structure Unheard (v : VideoHandle α) : Prop where
  attached : v.transportAttached = false
  replies : ∀ reply ∈ v.replies, reply = .error
  output : v.output = 0
  arrivals : v.arrivals = []
  posted : v.resumesPosted = 0
  handled : v.resumesHandled = 0
  heard : v.heard = []

/-- The worker has been opened, or opening it has failed. -/
structure Running (v : VideoHandle α) : Prop where
  done : ¬ v.worker.Booting
  messages : ∀ m, .init m ∉ v.messages
  announced : v.readySettled = true ∨ .ready ∈ v.replies ∨
    v.worker.closed = true ∧ v.worker.handed = []
  packets : PacketsAfterReady v.readySettled v.replies

/-- What holds until the page closes the worker. While the upload runs, the worker makes of its
messages what the transport wants, and a packet was dropped only before the last resume. -/
structure Open (v : VideoHandle α) (live paused : Bool) : Prop where
  stays : ¬ v.worker.Leaving
  messages : .close ∉ v.messages
  replies : .closed ∉ v.replies
  settled : v.transportAttached = v.readySettled
  unattached : live = true → v.transportAttached = false → paused = false
  follows : live = true → v.worker.closed = true ∨
    v.messages.foldl PacedWorker.follow v.worker.networkPaused = paused
  dropped : live = true → paused = false →
    ∀ a ∈ v.arrivals, a.sent = false → a.resumes < v.resumesPosted

theorem Unheard.tell (h : v.Unheard) {message : WorkerMessage α} (hquiet : message.Quiet) :
    Unheard { v with
      messages := v.messages ++ [message]
      resumesPosted := v.resumesPosted + message.resumes } :=
  { h with posted := by rw [hquiet.resumes]; exact h.posted }

section Sound

variable [Field α] [LinearOrder α] [FloorRing α] [IsStrictOrderedRing α]

/-- How far the worker has been opened. -/
inductive Phase (v : VideoHandle α) : Prop
  | waiting (message : InitMessage α) (messages : List (WorkerMessage α)) :
      v.messages = .init message :: messages → (∀ m ∈ messages, m.Quiet) →
      v.worker = (videoWorker α).start → v.Unheard → Phase v
  | booting : (∀ m ∈ v.messages, m.Quiet) → v.worker.Boots → v.Unheard → Phase v
  | running : v.Running → Phase v

structure Sound (v : VideoHandle α) (live paused : Bool) : Prop where
  phase : v.Phase
  heard : v.worker.Heard v.heard v.resumesHandled
  posted : v.resumesPosted = v.resumesHandled + resumesIn v.messages
  output : v.output ≤ v.worker.handed.length
  arrived : v.arrivals.length ≤ v.output
  frames : v.arrivals.map (·.frame) = List.range v.arrivals.length
  told : ∀ a ∈ v.arrivals, ∃ n, v.heard[a.frame]? = some n ∧ n ≤ a.resumes
  order : ∀ k a b, v.arrivals[k]? = some a → v.arrivals[k + 1]? = some b →
    a.sent = false → b.sent = true → a.resumes < b.resumes
  le : ∀ a ∈ v.arrivals, a.resumes ≤ v.resumesPosted
  shut : v.closed = true → v.readySettled = true
  promised : v.closePromise = true → v.closed = true
  links : v.closed = false → v.Open live paused

namespace Sound

variable {live paused live' paused' : Bool}

/-- What the transport wants of a closed worker does not matter. -/
theorem of_closed (h : v.Sound live paused) (hclosed : v.closed = true) :
    v.Sound live' paused' :=
  { h with links := fun hopen => by rw [hclosed] at hopen; cases hopen }

/-- Nor does it once the upload has ended. -/
theorem of_ended (h : v.Sound live paused) : v.Sound false paused' :=
  { h with links := fun hopen =>
      { h.links hopen with unattached := nofun, follows := nofun, dropped := nofun } }

theorem create (message : InitMessage α) (live : Bool) :
    (create message).Sound live false where
  phase := .waiting message [] rfl (List.forall_mem_nil _) rfl
    ⟨rfl, List.forall_mem_nil _, rfl, rfl, rfl, rfl, rfl⟩
  heard := .boots rfl (.inl rfl)
  posted := rfl
  output := Nat.le_refl 0
  arrived := Nat.le_refl 0
  frames := rfl
  told := List.forall_mem_nil _
  order k a b ha := by simp [VideoHandle.create] at ha
  le := List.forall_mem_nil _
  shut := nofun
  promised := nofun
  links _ :=
    { stays := id
      messages := by simp [VideoHandle.create]
      replies := List.not_mem_nil
      settled := rfl
      unattached := fun _ _ => rfl
      follows := fun _ => .inl rfl
      dropped := fun _ _ => List.forall_mem_nil _ }

/-- A worker that the transport controls has been opened. -/
theorem running (h : v.Sound live paused) (hattached : v.transportAttached = true) :
    v.Running := by
  rcases h.phase with ⟨_, _, _, _, _, hunheard⟩ | ⟨_, _, hunheard⟩ | hrunning
  · rw [hunheard.attached] at hattached
    cases hattached
  · rw [hunheard.attached] at hattached
    cases hattached
  · exact hrunning

end Sound

theorem Phase.tell (h : v.Phase) {message : WorkerMessage α}
    (hquiet : message.Quiet ∨ v.Running) (hinit : ∀ m, message ≠ .init m) :
    Phase { v with
      messages := v.messages ++ [message]
      resumesPosted := v.resumesPosted + message.resumes } := by
  have hrun (hrunning : v.Running) : Phase { v with
      messages := v.messages ++ [message]
      resumesPosted := v.resumesPosted + message.resumes } := by
    refine .running { hrunning with messages := fun m hm => ?_ }
    rcases List.mem_append.mp hm with hold | hnew
    · exact hrunning.messages m hold
    · exact hinit m (List.mem_singleton.mp hnew).symm
  rcases hquiet with hquiet | hrunning
  · rcases h with ⟨init, messages, heq, hmessages, hworker, hunheard⟩ |
      ⟨hmessages, hboots, hunheard⟩ | hrunning
    · refine .waiting init (messages ++ [message]) ?_ ?_ hworker (hunheard.tell hquiet)
      · rw [heq]
        rfl
      · exact List.forall_mem_append.mpr ⟨hmessages, List.forall_mem_singleton.mpr hquiet⟩
    · refine .booting ?_ hboots (hunheard.tell hquiet)
      exact List.forall_mem_append.mpr ⟨hmessages, List.forall_mem_singleton.mpr hquiet⟩
    · exact hrun hrunning
  · exact hrun hrunning

namespace Sound

variable {live paused : Bool}

/-- The page posts a message, and the transport wants what the message says. -/
theorem tell (h : v.Sound live paused) (message : WorkerMessage α)
    (hquiet : message.Quiet ∨ v.transportAttached = true) (hinit : ∀ m, message ≠ .init m)
    (hclose : message = .close → v.closed = true) :
    Sound { v with
      messages := v.messages ++ [message]
      resumesPosted := v.resumesPosted + message.resumes
    } live (PacedWorker.follow paused message) where
  phase := h.phase.tell (hquiet.imp_right h.running) hinit
  heard := h.heard
  posted := by
    rw [resumesIn_append, h.posted]
    exact Nat.add_assoc ..
  output := h.output
  arrived := h.arrived
  frames := h.frames
  told := h.told
  order := h.order
  le a ha := Nat.le_add_right_of_le (h.le a ha)
  shut := h.shut
  promised := h.promised
  links hopen := by
    have hlinks := h.links hopen
    refine { hlinks with messages := ?_, unattached := ?_, follows := ?_, dropped := ?_ }
    · intro hm
      rcases List.mem_append.mp hm with hold | hnew
      · exact hlinks.messages hold
      · have hclosed := hclose (List.mem_singleton.mp hnew).symm
        rw [show v.closed = false from hopen] at hclosed
        cases hclosed
    · intro hlive hunattached
      rcases hquiet with hquiet | hattached
      · rw [hquiet.follow]
        exact hlinks.unattached hlive hunattached
      · rw [show v.transportAttached = false from hunattached] at hattached
        cases hattached
    · intro hlive
      refine (hlinks.follows hlive).imp_right fun hfollows => ?_
      rw [List.foldl_append, hfollows]
      rfl
    · intro hlive hpaused a ha hsent
      cases message with
      | transportPause => cases hpaused
      | transportResume => exact Nat.lt_succ_of_le (h.le a ha)
      | _ => exact Nat.lt_add_right _ (hlinks.dropped hlive hpaused a ha hsent)

theorem post (h : v.Sound live paused) {message : WorkerMessage α} (hfree : message.Free) :
    (v.post message).Sound live paused := by
  have hquiet : message.Quiet := .inl hfree
  rw [VideoHandle.post]
  split
  next => exact h
  next =>
    have htold := h.tell message (.inl hquiet) hquiet.ne_init (by rintro rfl; exact hfree.elim)
    rw [hquiet.follow, hquiet.resumes] at htold
    exact htold

theorem pause (h : v.Sound live false) (hattached : v.closed = false → v.transportAttached = true) :
    v.pause.Sound live true := by
  rw [VideoHandle.pause, VideoHandle.post]
  split
  next hclosed => exact h.of_closed hclosed
  next hopen =>
    exact h.tell .transportPause (.inr (hattached (Bool.eq_false_of_not_eq_true hopen))) nofun nofun

theorem resume (h : v.Sound live true) (hattached : v.closed = false → v.transportAttached = true) :
    v.resume.Sound live false := by
  rw [VideoHandle.resume]
  split
  next hclosed => exact h.of_closed hclosed
  next hopen =>
    have htold := h.tell .transportResume
      (.inr (hattached (Bool.eq_false_of_not_eq_true hopen))) nofun nofun
    rw [VideoHandle.post, if_neg hopen]
    exact htold

/-! ## Replies -/

/-- A reply other than `ready` is received. -/
theorem pop (h : v.Sound live paused) {reply : WorkerReply} {replies : List WorkerReply}
    (hreplies : v.replies = reply :: replies) (hready : reply ≠ .ready ∨ v.readySettled = true) :
    Sound { v with replies } live paused :=
  { h with
    phase := by
      rcases h.phase with ⟨init, messages, heq, hmessages, hworker, hunheard⟩ |
        ⟨hmessages, hboots, hunheard⟩ | hrunning
      · refine .waiting init messages heq hmessages hworker { hunheard with replies := ?_ }
        exact fun r hr => hunheard.replies r (hreplies ▸ List.mem_cons_of_mem reply hr)
      · refine .booting hmessages hboots { hunheard with replies := ?_ }
        exact fun r hr => hunheard.replies r (hreplies ▸ List.mem_cons_of_mem reply hr)
      · have hannounced := hrunning.announced
        have hpackets := hrunning.packets
        rw [hreplies] at hannounced hpackets
        refine .running { hrunning with announced := ?_, packets := ?_ }
        · rcases hready with hne | hsettled
          · refine hannounced.imp_right (Or.imp_left fun hmem => ?_)
            exact (List.mem_cons.mp hmem).resolve_left hne.symm
          · exact .inl hsettled
        · rcases hready with hne | hsettled
          · exact hpackets.tail hne
          · rw [show VideoHandle.readySettled _ = true from hsettled]
            exact .of_settled replies
    links := fun hopen =>
      { h.links hopen with
        replies := fun hmem =>
          (h.links hopen).replies (hreplies ▸ List.mem_cons_of_mem reply hmem) } }

/-- `ready` is received by a page that waits for it. -/
theorem attach (h : v.Sound live false) {replies : List WorkerReply}
    (hreplies : v.replies = .ready :: replies) :
    Sound { v with replies, transportAttached := true, readySettled := true } live false := by
  have hmem : .ready ∈ v.replies := by
    rw [hreplies]
    exact List.mem_cons_self
  have hrunning : v.Running := by
    rcases h.phase with ⟨_, _, _, _, _, hunheard⟩ | ⟨_, _, hunheard⟩ | hrunning
    · cases hunheard.replies _ hmem
    · cases hunheard.replies _ hmem
    · exact hrunning
  exact { h with
    phase := .running ⟨hrunning.done, hrunning.messages, .inl rfl, .of_settled replies⟩
    shut := fun _ => rfl
    links := fun hopen =>
      { h.links hopen with
        replies := fun hclosed =>
          (h.links hopen).replies (hreplies ▸ List.mem_cons_of_mem _ hclosed)
        settled := rfl
        unattached := fun _ _ => rfl } }

/-- The packet of the next frame arrives: it is dropped while the video is paused, and sent
otherwise. -/
theorem arrive (h : v.Sound true paused) (hopen : v.closed = false)
    (hattached : v.transportAttached = true) (hframe : v.arrivals.length < v.output) :
    (v.arrive v.arrivals.length (!paused)).Sound true paused where
  phase := .running { h.running hattached with }
  heard := h.heard
  posted := h.posted
  output := h.output
  arrived := by
    rw [VideoHandle.arrive, List.length_append]
    exact hframe
  frames := by
    rw [VideoHandle.arrive, List.map_append, h.frames, List.length_append]
    exact List.range_succ.symm
  told a ha := by
    rcases List.mem_append.mp ha with hold | hnew
    · exact h.told a hold
    · obtain rfl := List.mem_singleton.mp hnew
      have hheard : v.arrivals.length < v.heard.length := by
        rw [h.heard.length]
        exact lt_of_lt_of_le hframe h.output
      refine ⟨_, List.getElem?_eq_getElem hheard, ?_⟩
      refine le_trans (h.heard.le _ (List.getElem_mem hheard)) ?_
      exact h.posted ▸ Nat.le_add_right ..
  order k a b ha hb hdropped hsent := by
    rw [VideoHandle.arrive] at ha hb
    by_cases hlast : k + 1 < v.arrivals.length
    · rw [List.getElem?_append_left (by omega)] at ha
      rw [List.getElem?_append_left hlast] at hb
      exact h.order k a b ha hb hdropped hsent
    · have hk : k + 1 = v.arrivals.length := by
        have hbound := (List.getElem?_eq_some_iff.mp hb).1
        rw [List.length_append, List.length_singleton] at hbound
        omega
      rw [hk, List.getElem?_concat_length] at hb
      obtain rfl := Option.some.inj hb
      rw [List.getElem?_append_left (by omega)] at ha
      have hpaused : paused = false := by simpa using hsent
      exact (h.links hopen).dropped rfl hpaused a (List.mem_of_getElem? ha) hdropped
  le a ha := by
    rcases List.mem_append.mp ha with hold | hnew
    · exact h.le a hold
    · exact (List.mem_singleton.mp hnew) ▸ Nat.le_refl _
  shut := h.shut
  promised := h.promised
  links _ :=
    { h.links hopen with
      dropped := fun hlive hpaused a ha hdropped => by
        rcases List.mem_append.mp ha with hold | hnew
        · exact (h.links hopen).dropped hlive hpaused a hold hdropped
        · rw [List.mem_singleton.mp hnew, hpaused] at hdropped
          cases hdropped }

end Sound

/-! ## Closing -/

/-- All but the flags of the page. -/
def traffic (v : VideoHandle α) :=
  (v.worker, v.messages, v.replies, v.output, v.arrivals, v.resumesPosted, v.resumesHandled,
    v.heard)

namespace Sound

variable {live paused live' paused' : Bool}

/-- The page gives the worker up. -/
theorem giveUp (h : v.Sound live paused) (htraffic : v'.traffic = v.traffic)
    (hclosed : v'.closed = true) (hsettled : v'.readySettled = true)
    (hattached : v'.transportAttached = true → v.transportAttached = true) :
    v'.Sound live' paused' := by
  simp only [traffic, Prod.mk.injEq] at htraffic
  obtain ⟨hworker, hmessages, hreplies, houtput, harrivals, hposted, hhandled, hheard⟩ := htraffic
  have hunattached (hunheard : v.Unheard) : v'.Unheard := by
    constructor
    · refine Bool.eq_false_of_not_eq_true fun htrue => ?_
      have hold := hattached htrue
      rw [hunheard.attached] at hold
      cases hold
    · rw [hreplies]; exact hunheard.replies
    · rw [houtput]; exact hunheard.output
    · rw [harrivals]; exact hunheard.arrivals
    · rw [hposted]; exact hunheard.posted
    · rw [hhandled]; exact hunheard.handled
    · rw [hheard]; exact hunheard.heard
  constructor
  · rcases h.phase with ⟨init, messages, heq, hquiet, hstart, hunheard⟩ |
      ⟨hquiet, hboots, hunheard⟩ | hrunning
    · exact .waiting init messages (hmessages.trans heq) hquiet (hworker.trans hstart)
        (hunattached hunheard)
    · exact .booting (by rw [hmessages]; exact hquiet) (by rw [hworker]; exact hboots)
        (hunattached hunheard)
    · refine .running ⟨by rw [hworker]; exact hrunning.done,
        by rw [hmessages]; exact hrunning.messages, .inl hsettled, ?_⟩
      rw [hsettled]
      exact .of_settled _
  · rw [hworker, hheard, hhandled]; exact h.heard
  · rw [hposted, hhandled, hmessages]; exact h.posted
  · rw [houtput, hworker]; exact h.output
  · rw [harrivals, houtput]; exact h.arrived
  · rw [harrivals]; exact h.frames
  · rw [harrivals, hheard]; exact h.told
  · rw [harrivals]; exact h.order
  · rw [harrivals, hposted]; exact h.le
  · exact fun _ => hsettled
  · exact fun _ => hclosed
  · intro hopen
    rw [hclosed] at hopen
    cases hopen

theorem close (h : v.Sound live paused) : v.close.Sound live paused := by
  rw [VideoHandle.close]
  split
  next => exact h
  next =>
    have hgiven : Sound { v with closed := true, readySettled := true, closePromise := true }
        live paused := h.giveUp rfl rfl rfl id
    exact hgiven.tell .close (.inl (.inr rfl)) nofun fun _ => rfl

end Sound

/-! ## The worker -/

/-- Until it is ready, a worker has nothing for the encoder. -/
theorem Phase.running_of_handed (h : v.Phase) (hhanded : v.worker.handed ≠ []) : v.Running := by
  rcases h with ⟨_, _, _, _, hworker, _⟩ | ⟨_, hboots, _⟩ | hrunning
  · rw [hworker] at hhanded
    exact absurd rfl hhanded
  · exact absurd hboots.handed hhanded
  · exact hrunning

/-- A worker that has not been sent `init` yet only handles messages. -/
theorem start_step (event : WorkerEvent α)
    (hmessage : ∀ message now next, event ≠ .message message now next) :
    (videoWorker α).start.step event = none := by
  cases event with
  | message message now next => exact absurd rfl (hmessage message now next)
  | _ => rfl

namespace Sound

variable {live paused : Bool}

theorem putOut (h : v.Sound live paused) {byteLength : Nat}
    (hput : v.putOut byteLength = some v') : v'.Sound live paused := by
  rw [VideoHandle.putOut, Option.ite_none_left_eq_some] at hput
  obtain ⟨hready, hput⟩ := hput
  rw [not_or, not_le] at hready
  have hrunning : v.Running := h.phase.running_of_handed
    (List.ne_nil_of_length_pos (Nat.zero_lt_of_lt hready.2))
  split at hput
  next =>
    obtain rfl := Option.some.inj hput
    exact { h with
      phase := .running { hrunning with }
      output := hready.2
      arrived := Nat.le_succ_of_le h.arrived
      links := fun hopen => { h.links hopen with } }
  next hworker =>
    obtain rfl := Option.some.inj hput
    have hannounced : v.readySettled = true ∨ .ready ∈ v.replies :=
      hrunning.announced.imp_right fun h => h.resolve_right fun hshut => hworker hshut.1
    exact { h with
      phase := .running { hrunning with
        announced := hannounced.imp_right fun hmem => .inl (List.mem_append_left _ hmem)
        packets := hrunning.packets.packet hannounced v.output byteLength }
      output := hready.2
      arrived := Nat.le_succ_of_le h.arrived
      links := fun hopen =>
        { h.links hopen with
          replies := fun hmem => (h.links hopen).replies (by simpa using hmem) } }

/-- The worker has made a step that hands over at most one frame. -/
theorem heard_advance (h : v.Sound live paused) {w : PacedWorker α} (hmoves : v.worker.Moves w)
    (event : WorkerEvent α) : w.Heard (v.advance w event).heard v.resumesHandled ∧
      v.heard <+: (v.advance w event).heard ∧ v.worker.handed.length ≤ w.handed.length := by
  rw [VideoHandle.advance]
  rcases hmoves with hholds | hhands
  · rw [hholds.handed, Nat.sub_self, List.replicate_zero, List.append_nil]
    exact ⟨h.heard.holds hholds, List.prefix_refl _, Nat.le_refl _⟩
  · obtain ⟨frame, hframe, -⟩ := hhands.handed
    rw [hframe, List.length_append, List.length_singleton, Nat.add_sub_cancel_left]
    exact ⟨h.heard.hands hhands, List.prefix_append _ _, Nat.le_succ _⟩

end Sound

/-- A frame that was told stays told. -/
theorem told_mono {heard heard' : List Nat} (h : heard <+: heard') {arrivals : List PacketArrival}
    (htold : ∀ a ∈ arrivals, ∃ n, heard[a.frame]? = some n ∧ n ≤ a.resumes) :
    ∀ a ∈ arrivals, ∃ n, heard'[a.frame]? = some n ∧ n ≤ a.resumes := by
  intro a ha
  obtain ⟨n, hn, hle⟩ := htold a ha
  obtain ⟨rest, rfl⟩ := h
  exact ⟨n, (List.getElem?_append_left (List.getElem?_eq_some_iff.mp hn).1).trans hn, hle⟩

/-- A worker that is still being opened posts nothing but errors. -/
theorem posted_booting {w w' : PacedWorker α} {event : WorkerEvent α} (hbooting : w.Booting)
    (hstep : w.step event = some w') (hboots : w'.Booting) :
    ∀ reply ∈ w.posted w' event, reply = .error := by
  intro reply hreply
  cases reply with
  | ready => exact absurd hboots (not_booting_of_ready hstep hreply)
  | packet frame byteLength =>
    have hmem : frame ∈ WorkerReply.frames (w.posted w' event) :=
      List.mem_filterMap.mpr ⟨_, hreply, rfl⟩
    rw [frames_posted] at hmem
    exact absurd hmem List.not_mem_nil
  | closed => exact absurd (closed_mem_posted hreply) hbooting.not_leaving
  | error => rfl

namespace Sound

variable {live paused : Bool}

/-- A step that opens the worker further, or ends that. -/
theorem booting (h : v.Sound live paused) (hunheard : v.Unheard) (hnone : v.worker.handed = [])
    {messages : List (WorkerMessage α)} (hquiet : ∀ m ∈ messages, m.Quiet)
    (hmessages : messages ⊆ v.messages) {w : PacedWorker α} {event : WorkerEvent α}
    (hstays : ¬ v.worker.Leaving)
    (hboots : w.Boots ∧ (∀ reply ∈ v.worker.posted w event, reply = .error) ∨
      w.Booted (v.worker.posted w event)) :
    Sound { v.advance w event with messages } live paused := by
  have hhanded : w.handed = [] := hboots.elim (·.1.handed) (·.handed)
  have hdue : w.Due := hboots.elim (·.1.due) (·.due)
  have hleaving : ¬ w.Leaving := hboots.elim (·.1.booting.not_leaving) (·.stays)
  have hheard : (v.advance w event).heard = [] := by
    rw [VideoHandle.advance, hunheard.heard, hhanded, hnone]
    rfl
  constructor
  · rcases hboots with ⟨hboots, herrors⟩ | hbooted
    · refine .booting hquiet hboots { hunheard with replies := ?_, heard := hheard }
      exact List.forall_mem_append.mpr ⟨hunheard.replies, herrors⟩
    · refine .running ⟨hbooted.done, fun m hm => (hquiet _ hm).ne_init m rfl, ?_, ?_⟩
      · refine .inr (hbooted.ready.symm.imp (List.mem_append_right _) fun hshut => ⟨hshut, hhanded⟩)
      · refine PacketsAfterReady.post ?_ (frames_posted v.worker w event)
        have hpackets (replies : List WorkerReply) (hall : ∀ r ∈ replies, r = .error) :
            PacketsAfterReady v.readySettled replies := by
          induction replies with
          | nil => trivial
          | cons reply replies ih =>
            obtain rfl := hall reply List.mem_cons_self
            exact ih fun r hr => hall r (List.mem_cons_of_mem _ hr)
        exact hpackets v.replies hunheard.replies
  · rw [hheard]
    exact .boots hhanded hdue
  · rw [resumesIn_quiet hquiet]
    exact hunheard.posted.trans hunheard.handled.symm
  · exact hunheard.output.le.trans (Nat.zero_le _)
  · exact h.arrived
  · exact h.frames
  · show ∀ a ∈ v.arrivals, _
    rw [hunheard.arrivals]
    exact List.forall_mem_nil _
  · exact h.order
  · exact h.le
  · exact h.shut
  · exact h.promised
  · intro hopen
    have hlinks := h.links hopen
    refine { hlinks with stays := hleaving, messages := fun hm => hlinks.messages (hmessages hm),
                         replies := fun hmem => ?_, follows := fun hlive => ?_ }
    · rcases List.mem_append.mp hmem with hold | hnew
      · exact hlinks.replies hold
      · exact hstays (closed_mem_posted hnew)
    · rw [foldl_follow_quiet hquiet, hlinks.unattached hlive hunheard.attached]
      exact hdue.imp_right And.left

theorem work (h : v.Sound live paused) {event : WorkerEvent α}
    (hwork : v.work event = some v') : v'.Sound live paused := by
  rw [VideoHandle.work.eq_def, Option.ite_none_left_eq_some] at hwork
  obtain ⟨hready, hwork⟩ := hwork
  obtain ⟨w, hstep, rfl⟩ := Option.map_eq_some_iff.mp hwork
  have hmessage (message : WorkerMessage α) (now next : α) : event ≠ .message message now next := by
    rintro rfl
    exact hready (.inr rfl)
  rcases h.phase with ⟨_, _, _, _, hworker, _⟩ | ⟨hquiet, hboots, hunheard⟩ | hrunning
  · rw [hworker, start_step event hmessage] at hstep
    cases hstep
  · refine h.booting hunheard hboots.handed hquiet (List.Subset.refl _)
      hboots.booting.not_leaving ?_
    rcases hboots.work hstep hmessage with hstill | hbooted
    · exact .inl ⟨hstill, posted_booting hboots.booting hstep hstill.booting⟩
    · exact .inr hbooted
  · obtain ⟨hmoves, hstays⟩ := PacedWorker.moves_work hrunning.done hstep hmessage
    obtain ⟨hheard, hmore, hhanded⟩ := h.heard_advance hmoves event
    exact { h with
      phase := .running ⟨hstays.done, hrunning.messages, by
        rcases hrunning.announced with hsettled | hannounced | ⟨hshut, hnone⟩
        · exact .inl hsettled
        · exact .inr (.inl (List.mem_append_left _ hannounced))
        · rcases hmoves with hholds | hhands
          · refine .inr (.inr ⟨?_, hholds.handed.trans hnone⟩)
            exact hholds.network.elim id fun hsame => hsame.1.trans hshut
          · exact absurd (.inl hshut) hhands.running,
        hrunning.packets.post (frames_posted v.worker w event)⟩
      heard := hheard
      output := h.output.trans hhanded
      told := told_mono hmore h.told
      links := fun hopen =>
        { h.links hopen with
          stays := fun hleaving => (h.links hopen).stays (hstays.leaving hleaving)
          replies := fun hmem => by
            rcases List.mem_append.mp hmem with hold | hnew
            · exact (h.links hopen).replies hold
            · exact (h.links hopen).stays (closed_mem_posted hnew)
          follows := fun hlive => by
            rcases hmoves with hholds | hhands
            · rcases hholds.network with hclosed | ⟨hclosed, hnetwork⟩
              · exact .inl hclosed
              · have hold := (h.links hopen).follows hlive
                rw [← hclosed, ← hnetwork] at hold
                exact hold
            · have hold := (h.links hopen).follows hlive
              rw [← hhands.network.1, ← hhands.network.2] at hold
              exact hold } }

/-- A message is handled. -/
theorem handle (h : v.Sound live paused) {now next : α} (hhandle : v.handle now next = some v') :
    v'.Sound live paused := by
  rw [VideoHandle.handle.eq_def] at hhandle
  split at hhandle
  next => cases hhandle
  next message messages hmessages =>
    rw [Option.ite_none_left_eq_some] at hhandle
    obtain ⟨-, hhandle⟩ := hhandle
    obtain ⟨w, hstep, rfl⟩ := Option.map_eq_some_iff.mp hhandle
    have hsubset : messages ⊆ v.messages := hmessages ▸ List.subset_cons_self message messages
    have hmem : message ∈ v.messages := hmessages ▸ List.mem_cons_self
    have hstepped := hstep
    rw [PacedWorker.step, Option.ite_none_left_eq_some] at hstepped
    obtain ⟨hidle, hstepped⟩ := hstepped
    obtain rfl := Option.some.inj hstepped
    rw [Option.not_isSome_iff_eq_none] at hidle
    rcases h.phase with ⟨init, rest, hinit, hquiet, hworker, hunheard⟩ |
      ⟨hquiet, hboots, hunheard⟩ | hrunning
    · obtain ⟨rfl, rfl⟩ := List.cons.inj (hmessages.symm.trans hinit)
      have hnone : v.worker.handed = [] ∧ v.worker.reads = [] := by
        rw [hworker]
        exact ⟨rfl, rfl⟩
      have hstays : ¬ v.worker.Leaving := by
        rw [hworker]
        exact id
      exact h.booting hunheard hnone.1 hquiet hsubset hstays
        (.inl ⟨PacedWorker.boots_init hnone now next init, posted_message _ _ _ now next⟩)
    · have hbooting := hboots.booting
      rw [PacedWorker.Booting, hidle] at hbooting
      exact hbooting.elim
    · have hhears := PacedWorker.hears_handleMessage hidle now next message
        fun m hm => hrunning.messages m (hm ▸ hmem)
      have hheard : (v.advance (v.worker.handleMessage now next message)
          (.message message now next)).heard = v.heard := by
        rw [VideoHandle.advance, hhears.handed, Nat.sub_self, List.replicate_zero,
          List.append_nil]
      exact { h with
        phase := .running ⟨hhears.done, fun m hm => hrunning.messages m (hsubset hm), by
          rcases hrunning.announced with hsettled | hannounced | ⟨hshut, hnone⟩
          · exact .inl hsettled
          · exact .inr (.inl (List.mem_append_left _ hannounced))
          · refine .inr (.inr ⟨?_, hhears.handed.trans hnone⟩)
            exact hhears.network.elim id fun hsame => hsame.1.trans hshut,
          hrunning.packets.post (frames_posted v.worker _ _)⟩
        heard := by
          rw [hheard]
          exact h.heard.hears hhears
        posted := by
          show v.resumesPosted = v.resumesHandled + message.resumes + resumesIn messages
          rw [h.posted, hmessages, resumesIn_cons]
          exact (Nat.add_assoc ..).symm
        output := h.output.trans_eq (congrArg _ hhears.handed.symm)
        told := by
          rw [hheard]
          exact h.told
        links := fun hopen =>
          { h.links hopen with
            stays := fun hleaving =>
              (h.links hopen).messages (hhears.leaving hleaving ▸ hmem)
            messages := fun hm => (h.links hopen).messages (hsubset hm)
            replies := fun hclosed => by
              rcases List.mem_append.mp hclosed with hold | hnew
              · exact (h.links hopen).replies hold
              · exact (h.links hopen).stays (closed_mem_posted hnew)
            follows := fun hlive => by
              rcases hhears.network with hclosed | ⟨hclosed, hnetwork⟩
              · exact .inl hclosed
              · have hold := (h.links hopen).follows hlive
                rw [← hclosed, hmessages, List.foldl_cons, ← hnetwork] at hold
                exact hold } }

end Sound

/-! ## The order of packets -/

/-- The packets that arrived, one that is being received, and those under way are those of the
first frames. Packets get lost only behind a worker that has closed itself. -/
def InOrder (v : VideoHandle α) (received : List Nat) : Prop :=
  ∃ n ≤ v.output,
    v.arrivals.map (·.frame) ++ received ++ WorkerReply.frames v.replies = List.range n ∧
      (v.worker.closed = true ∨ n = v.output)

/-- Only messages were posted to the worker. -/
def Told (v v' : VideoHandle α) : Prop :=
  v' = { v with messages := v'.messages, resumesPosted := v'.resumesPosted }

omit [Field α] [LinearOrder α] [FloorRing α] [IsStrictOrderedRing α]

theorem Told.refl (v : VideoHandle α) : v.Told v := rfl

theorem told_post (v : VideoHandle α) (message : WorkerMessage α) : v.Told (v.post message) := by
  rw [VideoHandle.post]
  split <;> rfl

theorem told_pause (v : VideoHandle α) : v.Told v.pause := v.told_post .transportPause

theorem told_resume (v : VideoHandle α) : v.Told v.resume := by
  rw [VideoHandle.resume, VideoHandle.post]
  split <;> rfl

namespace InOrder

variable {received : List Nat}

theorem told (h : v.InOrder received) (htold : v.Told v') : v'.InOrder received := by
  rw [htold]
  exact h

theorem create [Field α] [LinearOrder α] [FloorRing α] [IsStrictOrderedRing α]
    (message : InitMessage α) : (create message).InOrder [] :=
  ⟨0, Nat.le_refl 0, rfl, .inr rfl⟩

theorem pop (h : v.InOrder []) {reply : WorkerReply} {replies : List WorkerReply}
    (hreplies : v.replies = reply :: replies) :
    InOrder { v with replies } reply.frame.toList := by
  obtain ⟨n, hle, hrange, hlast⟩ := h
  refine ⟨n, hle, ?_, hlast⟩
  rw [← hrange, hreplies, List.append_nil, List.append_assoc]
  cases reply <;> rfl

/-- The next packet is that of the next frame. -/
theorem next {frame : Nat} (h : v.InOrder [frame])
    (hframes : v.arrivals.map (·.frame) = List.range v.arrivals.length) :
    frame = v.arrivals.length ∧ v.arrivals.length < v.output := by
  obtain ⟨n, hle, hrange, -⟩ := h
  rw [hframes, List.append_assoc, List.singleton_append] at hrange
  have hlength := congrArg List.length hrange
  rw [List.length_append, List.length_cons, List.length_range, List.length_range] at hlength
  have hget := congrArg (·[v.arrivals.length]?) hrange
  rw [List.getElem?_append_right (by simp), List.length_range, Nat.sub_self,
    List.getElem?_range (by omega)] at hget
  exact ⟨Option.some.inj hget, by omega⟩

theorem arrive {frame : Nat} (h : v.InOrder [frame]) (sent : Bool) :
    (v.arrive frame sent).InOrder [] := by
  obtain ⟨n, hle, hrange, hlast⟩ := h
  refine ⟨n, hle, ?_, hlast⟩
  rw [← hrange, VideoHandle.arrive, List.map_append, List.append_nil]
  rfl

theorem putOut (h : v.InOrder []) {byteLength : Nat} (hput : v.putOut byteLength = some v') :
    v'.InOrder [] := by
  obtain ⟨n, hle, hrange, hlast⟩ := h
  rw [VideoHandle.putOut, Option.ite_none_left_eq_some] at hput
  obtain ⟨-, hput⟩ := hput
  split at hput
  next hclosed =>
    obtain rfl := Option.some.inj hput
    exact ⟨n, Nat.le_succ_of_le hle, hrange, .inl hclosed⟩
  next hopen =>
    obtain rfl := Option.some.inj hput
    obtain rfl := hlast.resolve_left hopen
    refine ⟨v.output + 1, Nat.le_refl _, ?_, .inr rfl⟩
    rw [List.range_succ, ← hrange, WorkerReply.frames, List.filterMap_append, ← List.append_assoc]
    rfl

/-- A step of a worker that stays closed once it is closed, or that has put nothing out. -/
theorem advance (h : v.InOrder []) {w : PacedWorker α} {event : WorkerEvent α}
    (hclosed : v.worker.closed = true → w.closed = true ∨ v.output = 0)
    (messages : List (WorkerMessage α)) (resumesHandled : Nat) :
    InOrder { v.advance w event with messages, resumesHandled } [] := by
  obtain ⟨n, hle, hrange, hlast⟩ := h
  refine ⟨n, hle, ?_, ?_⟩
  · rw [← hrange]
    show _ ++ WorkerReply.frames (v.replies ++ v.worker.posted w event) = _
    rw [WorkerReply.frames, List.filterMap_append]
    exact congrArg _ ((congrArg _ (frames_posted v.worker w event)).trans (List.append_nil _))
  · rcases hlast with hshut | hn
    · refine (hclosed hshut).imp_right fun hzero => ?_
      exact (Nat.le_zero.mp (hzero ▸ hle)).trans hzero.symm
    · exact .inr hn

section Steps

variable [Field α] [LinearOrder α] [FloorRing α] [IsStrictOrderedRing α] {live paused : Bool}

theorem work (h : v.InOrder []) (hsound : v.Sound live paused) {event : WorkerEvent α}
    (hwork : v.work event = some v') : v'.InOrder [] := by
  rw [VideoHandle.work.eq_def, Option.ite_none_left_eq_some] at hwork
  obtain ⟨hready, hwork⟩ := hwork
  obtain ⟨w, hstep, rfl⟩ := Option.map_eq_some_iff.mp hwork
  have hmessage (message : WorkerMessage α) (now next : α) : event ≠ .message message now next := by
    rintro rfl
    exact hready (.inr rfl)
  refine h.advance (fun hshut => ?_) v.messages v.resumesHandled
  rcases hsound.phase with ⟨_, _, _, _, _, hunheard⟩ | ⟨_, _, hunheard⟩ | hrunning
  · exact .inr hunheard.output
  · exact .inr hunheard.output
  · left
    rcases (PacedWorker.moves_work hrunning.done hstep hmessage).1 with hholds | hhands
    · exact hholds.network.elim id fun hsame => hsame.1.trans hshut
    · exact hhands.network.1.trans hshut

theorem handle (h : v.InOrder []) (hsound : v.Sound live paused) {now next : α}
    (hhandle : v.handle now next = some v') : v'.InOrder [] := by
  rw [VideoHandle.handle.eq_def] at hhandle
  split at hhandle
  next => cases hhandle
  next message messages hmessages =>
    rw [Option.ite_none_left_eq_some] at hhandle
    obtain ⟨-, hhandle⟩ := hhandle
    obtain ⟨w, hstep, rfl⟩ := Option.map_eq_some_iff.mp hhandle
    refine h.advance (fun hshut => ?_) messages (v.resumesHandled + message.resumes)
    rcases hsound.phase with ⟨_, _, _, _, _, hunheard⟩ | ⟨_, _, hunheard⟩ | hrunning
    · exact .inr hunheard.output
    · exact .inr hunheard.output
    · left
      rw [PacedWorker.step, Option.ite_none_left_eq_some] at hstep
      obtain ⟨hidle, hstep⟩ := hstep
      obtain rfl := Option.some.inj hstep
      have hmem : message ∈ v.messages := hmessages ▸ List.mem_cons_self
      have hhears := PacedWorker.hears_handleMessage (Option.not_isSome_iff_eq_none.mp hidle) now
        next message fun m hm => hrunning.messages m (hm ▸ hmem)
      exact hhears.network.elim id fun hsame => hsame.1.trans hshut

end Steps

end InOrder

end Sound

end VideoHandle

end VRCStreamer
