import VRCStreamer.Channel.Invariant
import VRCStreamer.Publisher.Session

/-!
# What a step of a server thread can do

The steps of a task, one constructor for each branch, and the refinement of the channel
map: every step of the server does one operation on the map or none, so whatever holds of
the reachable states of the map holds of the server's.
-/

namespace VRCStreamer

open Concurrency

variable {κ θ ι φ : Type*} [DecidableEq κ] [DecidableEq θ] [DecidableEq ι]

namespace Server

/-- A step of `streamer_session` for one key, channel and address. -/
inductive SessionEffect (t : θ) (m : Server κ θ ι φ) (key : κ) (id : ChannelId) (ip : ι) :
    SessionStep φ → Written φ → Server κ θ ι φ → Task κ ι φ → Prop
  | upgrade {written} :
      SessionEffect t m key id ip .upgrade written m (.session .startBlock written ip)
  | abandon {step written} (hstep : step = .upgrade ∨ step = .hello) :
      SessionEffect t m key id ip step written m (.closing ip)
  | startBlock {written} :
      SessionEffect t m key id ip .startBlock written (m.block key ip).2
        (if (m.block key ip).1 then .closing ip else .session .startBlockedIp written ip)
  | startBlockedIp {written} :
      SessionEffect t m key id ip .startBlockedIp written m
        (if m.bans.streamerIpIsBlocked ip then .closing ip else .session .startFmtp written ip)
  | startFmtp {written} :
      SessionEffect t m key id ip .startFmtp written (m.setFmtp id none)
        (.session .hello { written with fmtp := some none } ip)
  | hello {written} :
      SessionEffect t m key id ip .hello written m (.session .startResync written ip)
  | startResync {written} :
      SessionEffect t m key id ip .startResync written (m.forceResync id)
        (.session (.select false) written ip)
  | poll {configured written} :
      SessionEffect t m key id ip (.select configured) written
        (m.setNotify id ((m.video id).blacklistNotify.poll t).2)
        (.session (if ((m.video id).blacklistNotify.poll t).1 then .woken configured
          else .select configured) written ip)
  | leave {configured written} (forward : Bool) :
      SessionEffect t m key id ip (.select configured) written (m.dropNotified t id forward)
        (.closing ip)
  | message {configured written} (message : StreamerMessage φ) :
      SessionEffect t m key id ip (.select configured) written m
        (.session (.run (message.ops configured) configured) written ip)
  | kicked {configured written} (hlisted : (m.block key ip).1 = true) :
      SessionEffect t m key id ip (.woken configured) written
        ((m.block key ip).2.dropNotified t id false) (.closing ip)
  | spurious {configured written} (hlisted : (m.block key ip).1 = false) :
      SessionEffect t m key id ip (.woken configured) written (m.block key ip).2
        (.session (.rearm configured) written ip)
  | rearm {configured written} :
      SessionEffect t m key id ip (.rearm configured) written m
        (.session (.select configured) written ip)
  | finish {configured written} :
      SessionEffect t m key id ip (.run [] configured) written m
        (.session (.select configured) written ip)
  | op {op ops configured written} :
      SessionEffect t m key id ip (.run (op :: ops) configured) written (m.channelOp id op)
        (.session (.run ops (op.configured configured)) (op.written written) ip)

/-- A step of a task outside the map. -/
inductive TaskEffect (t : θ) (m : Server κ θ ι φ) :
    MapPc κ → Task κ ι φ → Server κ θ ι φ → Task κ ι φ → Prop
  | connect {key ip} : TaskEffect t m .idle .none m (.ingest .block key ip)
  | ingestBlock {pc key ip} :
      TaskEffect t m pc (.ingest .block key ip) (m.block key ip).2
        (if (m.block key ip).1 then .none else .ingest .blockedIp key ip)
  | ingestBlockedIp {pc key ip} :
      TaskEffect t m pc (.ingest .blockedIp key ip) m
        (if m.bans.streamerIpIsBlocked ip then .none else .ingest .admission key ip)
  | ingestRefuse {pc key ip} : TaskEffect t m pc (.ingest .admission key ip) m .none
  | guarded {key id ip} :
      TaskEffect t m (.holding .publisher key id) (.reserving ip) m
        (.session .upgrade .nothing ip)
  | refused {ip} : TaskEffect t m .idle (.reserving ip) m .none
  | session {key id step written ip m' task}
      (h : SessionEffect t m key id ip step written m' task) :
      TaskEffect t m (.holding .publisher key id) (.session step written ip) m' task
  | teardown {role key id op ops ip} :
      TaskEffect t m (.uncount role key id) (.teardown (op :: ops) ip)
        (m.teardownOp key ip id op) (.teardown ops ip)
  | swap {entries m'} (h : m.swap t entries = some m') :
      TaskEffect t m .idle .none m' (.reload .readList)
  | unchanged : TaskEffect t m .idle .none m .none
  | readList {pc listLock} (h : m.listLock.acquire .read t = some listLock) :
      TaskEffect t m pc (.reload .readList) { m with listLock }
        (.reload (.readMap m.bans.streamBlacklist))
  | visitLive {pc key remaining id} (hmem : key ∈ remaining) (hget : m.map.channels key = some id)
      (hlive : (m.map.channel id).streamer = true) :
      TaskEffect t m pc (.reload (.visit remaining)) m
        (.reload (.notify (remaining.erase key) key id))
  | visitDead {pc key remaining} (hmem : key ∈ remaining)
      (hdead : ∀ id, m.map.channels key = some id → (m.map.channel id).streamer = false) :
      TaskEffect t m pc (.reload (.visit remaining)) m (.reload (.visit (remaining.erase key)))
  | notify {pc remaining key id} :
      TaskEffect t m pc (.reload (.notify remaining key id))
        (m.setNotify id (m.video id).blacklistNotify.notifyOne) (.reload (.visit remaining))
  | unlockList {pc} :
      TaskEffect t m pc (.reload .unlockList) { m with listLock := m.listLock.release .read t }
        .none

/-- The operation on the map that a task asks for, and the task after it. -/
inductive MapEffect : MapPc κ → Task κ ι φ → Option (MapCall κ) → Task κ ι φ → Prop
  | call {pc call} : MapEffect pc .none (some call) .none
  | advance {pc} : MapEffect pc .none none .none
  | publish {pc key ip} : MapEffect pc (.ingest .admission key ip) (some (.publish key)) (.reserving ip)
  | reserving {pc ip} : MapEffect pc (.reserving ip) none (.reserving ip)
  | close {pc ip} : MapEffect pc (.closing ip) none (.teardown TeardownOp.all ip)
  | count {pc ip} : MapEffect pc (.teardown [] ip) none .none
  | scan {remaining} :
      MapEffect .idle (.reload (.readMap remaining)) (some .scan) (.reload (.readMap remaining))
  | readMap {pc remaining} (hpc : pc ≠ .idle) :
      MapEffect pc (.reload (.readMap remaining)) none (.reload (.visit remaining))
  | unlockMap {pc} : MapEffect pc (.reload (.visit ∅)) none (.reload .unlockList)

variable {config : PublisherConfig} {t : θ} {choice : Choice κ ι φ} {m m' : Server κ θ ι φ}
  {pc pc' : ServerPc κ ι φ} {task task' : Task κ ι φ}

theorem sessionEffect_of_step {key : κ} {id : ChannelId} {step : SessionStep φ}
    {written : Written φ} {ip : ι}
    (h : sessionStep config t choice m key id step written ip = some (m', task')) :
    SessionEffect t m key id ip step written m' task' := by
  rw [sessionStep.eq_def] at h
  split at h
  case h_9 =>
    obtain ⟨rfl, rfl⟩ := Prod.mk.inj (Option.some.inj h)
    exact .poll
  case h_11 =>
    split at h
    · cases h
    · obtain ⟨rfl, rfl⟩ := Prod.mk.inj (Option.some.inj h)
      exact .message _
  case h_12 =>
    split at h
    next hlisted =>
      obtain ⟨rfl, rfl⟩ := Prod.mk.inj (Option.some.inj h)
      exact .kicked hlisted
    next hlisted =>
      obtain ⟨rfl, rfl⟩ := Prod.mk.inj (Option.some.inj h)
      exact .spurious (Bool.eq_false_iff.mpr hlisted)
  case h_16 => cases h
  all_goals
    obtain ⟨rfl, rfl⟩ := Prod.mk.inj (Option.some.inj h)
    first
      | exact .abandon (.inl rfl)
      | exact .abandon (.inr rfl)
      | constructor

theorem reloadEffect_of_step {p : MapPc κ} {step : ReloadStep κ}
    (h : reloadStep t choice m step = some (m', task')) :
    TaskEffect t m p (.reload step) m' task' := by
  rw [reloadStep.eq_def] at h
  split at h
  · obtain ⟨listLock, hlock, hpair⟩ := Option.map_eq_some_iff.mp h
    obtain ⟨rfl, rfl⟩ := Prod.mk.inj hpair
    exact .readList hlock
  next key remaining =>
    split at h
    · cases h
    next hmem =>
      rw [not_not] at hmem
      obtain ⟨rfl, rfl⟩ := Prod.mk.inj (Option.some.inj h)
      cases hget : m.map.channels key with
      | none => exact .visitDead hmem (fun id hid => by rw [hget] at hid; cases hid)
      | some id =>
        cases hlive : (m.map.channel id).streamer with
        | true => simpa [hlive] using TaskEffect.visitLive hmem hget hlive
        | false =>
          have hdead : ∀ id', m.map.channels key = some id' →
              (m.map.channel id').streamer = false := by
            intro id' hid'
            obtain rfl := Option.some.inj (hget.symm.trans hid')
            exact hlive
          simpa [hlive] using TaskEffect.visitDead hmem hdead
  · obtain ⟨rfl, rfl⟩ := Prod.mk.inj (Option.some.inj h)
    exact .notify
  · obtain ⟨rfl, rfl⟩ := Prod.mk.inj (Option.some.inj h)
    exact .unlockList
  · cases h

theorem taskEffect_of_step (h : taskStep config t choice m pc = some (m', task')) :
    TaskEffect t m pc.map pc.task m' task' := by
  obtain ⟨p, task⟩ := pc
  rw [taskStep.eq_def] at h
  split at h
  case h_7 htask hmap =>
    change task = _ at htask
    change p = _ at hmap
    subst htask hmap
    exact .session (sessionEffect_of_step h)
  case h_9 entries htask hmap =>
    change task = _ at htask
    change p = _ at hmap
    subst htask hmap
    split at h
    · cases hswap : m.swap t entries with
      | none =>
        rw [hswap] at h
        obtain ⟨rfl, rfl⟩ := Prod.mk.inj (Option.some.inj h)
        exact .unchanged
      | some swapped =>
        rw [hswap] at h
        obtain ⟨rfl, rfl⟩ := Prod.mk.inj (Option.some.inj h)
        exact .swap hswap
    · cases h
  case h_10 htask =>
    change task = _ at htask
    subst htask
    exact reloadEffect_of_step h
  case h_11 => cases h
  case h_2 htask | h_3 htask | h_4 htask =>
    change task = _ at htask
    subst htask
    obtain ⟨rfl, rfl⟩ := Prod.mk.inj (Option.some.inj h)
    constructor
  case h_1 htask hmap | h_5 htask hmap | h_6 htask hmap | h_8 htask hmap =>
    change task = _ at htask
    change p = _ at hmap
    subst htask hmap
    obtain ⟨rfl, rfl⟩ := Prod.mk.inj (Option.some.inj h)
    constructor

omit [DecidableEq ι] in
theorem mapEffect_of_call {call : Option (MapCall κ)} (h : mapCall choice pc = some (call, task')) :
    MapEffect pc.map pc.task call task' := by
  obtain ⟨p, task⟩ := pc
  rw [mapCall.eq_def] at h
  split at h
  case h_1 | h_5 | h_6 | h_13 => cases h
  case h_10 htask hmap =>
    change task = _ at htask
    change p = _ at hmap
    subst htask hmap
    obtain ⟨rfl, rfl⟩ := Prod.mk.inj (Option.some.inj h)
    exact .scan
  case h_11 htask hmap =>
    change task = _ at htask
    subst htask
    obtain ⟨rfl, rfl⟩ := Prod.mk.inj (Option.some.inj h)
    exact .readMap hmap
  case h_12 remaining htask =>
    change task = _ at htask
    subst htask
    split at h
    next hempty =>
      obtain ⟨rfl, rfl⟩ := Prod.mk.inj (Option.some.inj h)
      rw [hempty]
      exact .unlockMap
    next => cases h
  case h_7 htask _ _ =>
    change task = _ at htask
    subst htask
    obtain ⟨rfl, rfl⟩ := Prod.mk.inj (Option.some.inj h)
    exact .reserving
  case h_2 htask | h_3 htask | h_4 htask | h_8 htask | h_9 htask =>
    change task = _ at htask
    subst htask
    obtain ⟨rfl, rfl⟩ := Prod.mk.inj (Option.some.inj h)
    constructor

/-! ## The refinement of the channel map -/

/-- A task's own operation does not touch the map. -/
theorem TaskEffect.map_eq {p : MapPc κ} (h : TaskEffect t m p task m' task') : m'.map = m.map := by
  cases h with
  | session h =>
    cases h with
    | @op op => cases op <;> rfl
    | _ => rfl
  | @teardown _ _ _ op => cases op <;> rfl
  | swap h =>
    obtain ⟨bans, -, rfl⟩ := Option.map_eq_some_iff.mp h
    rfl
  | _ => rfl

omit [DecidableEq κ] [DecidableEq θ] [DecidableEq ι] in
@[simp] theorem updateVideo_video (m : Server κ θ ι φ) (id id' : ChannelId)
    (video : ChannelVideo θ φ) :
    (m.updateVideo id video).video id' = if id' = id then video else m.video id' :=
  Function.update_apply ..

omit [DecidableEq κ] [DecidableEq θ] [DecidableEq ι] in
theorem updateVideo_video_of_ne {id id' : ChannelId} (hid : id' ≠ id)
    (video : ChannelVideo θ φ) : (m.updateVideo id video).video id' = m.video id' := by
  rw [updateVideo_video, if_neg hid]

/-- A session writes to its own channel only. -/
theorem SessionEffect.video_eq {key : κ} {id id' : ChannelId} {ip : ι} {step : SessionStep φ}
    {written : Written φ} (h : SessionEffect t m key id ip step written m' task')
    (hid : id' ≠ id) : m'.video id' = m.video id' := by
  cases h with
  | startFmtp | startResync | poll | leave | kicked => exact updateVideo_video_of_ne hid _
  | @op op =>
    cases op with
    | publish => rfl
    | _ => exact updateVideo_video_of_ne hid _
  | _ => rfl

omit [DecidableEq θ] in
theorem teardownOp_video_eq {key : κ} {id id' : ChannelId} {ip : ι} {op : TeardownOp}
    (hid : id' ≠ id) : (m.teardownOp key ip id op).video id' = m.video id' := by
  cases op with
  | finalCheck => rfl
  | _ => exact updateVideo_video_of_ne hid _

/-- A step does one operation on the map, or one operation of the task. -/
theorem step_cases (h : program config t choice m pc = some (m', pc')) :
    (∃ call, MapEffect pc.map pc.task call pc'.task ∧
      ChannelMap.program config.limits t call m.map pc.map = some (m'.map, pc'.map) ∧
      m' = { m with map := m'.map }) ∨
    (TaskEffect t m pc.map pc.task m' pc'.task ∧ pc'.map = pc.map) := by
  rw [program] at h
  cases hcall : mapCall choice pc with
  | some next =>
    obtain ⟨call, task⟩ := next
    rw [hcall] at h
    obtain ⟨⟨map, p⟩, hmap, hpair⟩ := Option.map_eq_some_iff.mp h
    obtain ⟨rfl, rfl⟩ := Prod.mk.inj hpair
    exact .inl ⟨call, mapEffect_of_call hcall, hmap, rfl⟩
  | none =>
    rw [hcall] at h
    obtain ⟨⟨m'', task⟩, htask, hpair⟩ := Option.map_eq_some_iff.mp h
    obtain ⟨rfl, rfl⟩ := Prod.mk.inj hpair
    exact .inr ⟨taskEffect_of_step htask, rfl⟩

/-- The channel map of a server and where each thread stands in it. -/
def mapThreads (s : Threads θ (Server κ θ ι φ) (ServerPc κ ι φ)) :
    Threads θ (ChannelMap κ θ) (MapPc κ) :=
  ⟨s.memory.map, fun t => (s.pc t).map⟩

/-- The server refines the channel map. -/
theorem reachable_mapThreads {listed : Finset κ}
    {s : Threads θ (Server κ θ ι φ) (ServerPc κ ι φ)} (h : (system config listed).Reachable s) :
    (ChannelMap.system config.limits).Reachable (mapThreads s) := by
  refine h.simulate (n := ChannelMap.system config.limits) mapThreads rfl ?_
  rintro s ⟨t, choice⟩ s' hstep
  obtain ⟨m', pc', hprogram, rfl⟩ := Program.step_eq_some.mp hstep
  have hpcs : (fun u => (Function.update s.pc t pc' u).map) =
      Function.update (fun u => (s.pc u).map) t pc'.map := by
    funext u
    exact Function.apply_update (fun _ pc => ServerPc.map pc) s.pc t pc' u
  simp only [mapThreads, hpcs]
  rcases step_cases hprogram with ⟨call, -, hmap, -⟩ | ⟨heffect, hsame⟩
  · right
    exact ⟨(t, call), Program.step_eq_some.mpr ⟨m'.map, pc'.map, hmap, rfl⟩⟩
  · left
    rw [heffect.map_eq, hsame, Function.update_eq_self]

/-! ## Where a task stands in the map -/

/-- A session holds its channel as a publisher, a teardown has given it up, and a notify
pass is inside the read lock of the map. -/
def Placed (pc : ServerPc κ ι φ) : Prop :=
  match pc.task with
  | .session _ _ _ | .closing _ => ∃ key id, pc.map = .holding .publisher key id
  | .teardown _ _ => ∃ key id, pc.map = .uncount .publisher key id
  | .reload (.readMap _) => pc.map = .idle ∨ pc.map = .scanRead
  | .reload (.visit _) | .reload (.notify ..) => pc.map = .scan
  | .reload .readList => pc.map = .idle
  | _ => True

theorem SessionEffect.placed {key : κ} {id : ChannelId} {ip : ι} {step : SessionStep φ}
    {written : Written φ} {p : MapPc κ} (h : SessionEffect t m key id ip step written m' task')
    (hp : ∃ key id, p = .holding .publisher key id) : Placed (⟨p, task'⟩ : ServerPc κ ι φ) := by
  cases h with
  | startBlock | startBlockedIp => split <;> exact hp
  | _ => exact hp

theorem Placed.step (hpc : Placed pc) (h : program config t choice m pc = some (m', pc')) :
    Placed pc' := by
  obtain ⟨p, task⟩ := pc
  obtain ⟨p', task'⟩ := pc'
  rcases step_cases h with ⟨call, heffect, hmap, -⟩ | ⟨heffect, hsame⟩
  · dsimp only at heffect hmap
    cases heffect with
    | close =>
      obtain ⟨key, id, rfl⟩ := hpc
      obtain ⟨-, rfl⟩ := Prod.mk.inj (Option.some.inj hmap)
      exact ⟨key, id, rfl⟩
    | scan =>
      obtain ⟨-, rfl⟩ := Prod.mk.inj (Option.some.inj hmap)
      exact .inr rfl
    | readMap hne =>
      obtain rfl := hpc.resolve_left hne
      obtain ⟨lock, -, -, rfl⟩ := ChannelMap.acquire_eq_some.mp hmap
      exact rfl
    | _ => trivial
  · dsimp only at heffect hsame
    subst hsame
    cases heffect with
    | session h => exact h.placed hpc
    | guarded => exact ⟨_, _, rfl⟩
    | teardown => exact hpc
    | ingestBlock | ingestBlockedIp => split <;> trivial
    | swap => exact rfl
    | readList => exact .inl hpc
    | visitLive | visitDead | notify => exact hpc
    | _ => trivial

variable {listed : Finset κ} {s : Threads θ (Server κ θ ι φ) (ServerPc κ ι φ)}

theorem placed_of_reachable (h : (system config listed).Reachable s) : ∀ t, Placed (s.pc t) := by
  apply h.invariant (P := fun s => ∀ t, Placed (s.pc t))
  · intro t
    trivial
  · rintro s ⟨u, choice⟩ s' hs hstep t
    obtain ⟨m', pc', hprogram, rfl⟩ := Program.step_eq_some.mp hstep
    exact forall_update ((hs u).step hprogram) (fun t _ => hs t)

/-- Only one thread is a channel's publisher, and its channel is in the map under its key
with the flag set. -/
theorem publisher_unique (h : (system config listed).Reachable s) {t u : θ} {key key' : κ}
    {id : ChannelId} (ht : (s.pc t).map = .holding .publisher key id)
    (hu : (s.pc u).map = .holding .publisher key' id) : t = u := by
  have hmap := ChannelMap.invariant_of_reachable (reachable_mapThreads h)
  refine (hmap.counted .publisher id).eq_of_le_one (Channel.count_publisher_le _) ⟨key, ?_⟩
    ⟨key', ?_⟩
  · exact congrArg MapPc.holds ht
  · exact congrArg MapPc.holds hu

theorem publisher_mapped (h : (system config listed).Reachable s) {t : θ} {key : κ}
    {id : ChannelId} (ht : (s.pc t).map = .holding .publisher key id) :
    s.memory.map.channels key = some id ∧ (s.memory.map.channel id).streamer = true := by
  have hmap := ChannelMap.invariant_of_reachable (reachable_mapThreads h)
  have hholds : ((mapThreads s).pc t).holds = some (.publisher, key, id) := congrArg MapPc.holds ht
  refine ⟨hmap.held t .publisher key id hholds, ?_⟩
  have hpos := (hmap.counted .publisher id).pos ⟨key, hholds⟩
  by_contra hflag
  rw [Bool.not_eq_true] at hflag
  simp [mapThreads, Channel.count, hflag] at hpos

end Server

end VRCStreamer
