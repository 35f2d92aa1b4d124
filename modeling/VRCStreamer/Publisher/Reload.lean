import VRCStreamer.Blacklist.History
import VRCStreamer.Publisher.Steps

/-!
# A blacklist reload never misses a publisher

The list and the bans of a server go through a history of locked operations. A key that
gets listed while its publisher is past the start-up check is met by a notification: the
reload that listed it has yet to visit it, or the notification waits for the publisher.
A publisher that ends under a listed key records its address, and one that starts under
a listed key never reaches its loop.
-/

namespace VRCStreamer

open Concurrency

variable {κ θ ι φ : Type*} [DecidableEq κ] [DecidableEq θ] [DecidableEq ι]

namespace BanState

/-- The address is banned for the key, or every address is while the key is listed. -/
def Recorded (s : BanState κ ι) (key : κ) (ip : ι) : Prop :=
  s.blockedStreamerIps.contains ip key = true ∨ key ∈ s.blockedStreamerIps.overflowedIds

variable {s : BanState κ ι} {key : κ} {ip : ι}

/-- What is recorded stays recorded while the key is listed. -/
theorem Recorded.step (h : s.Recorded key ip)
    (hs : s.blockedStreamerIps.Consistent s.streamBlacklist) (op : BanOp κ ι)
    (hlisted : key ∈ (s.step op).streamBlacklist) : (s.step op).Recorded key ip := by
  cases op with
  | block key' ip' =>
    rw [BanState.step]
    by_cases hkey' : key' ∈ s.streamBlacklist
    swap
    · rw [block_of_notMem hkey']
      exact h
    cases hc : s.blockedStreamerIps.contains ip' key' with
    | true =>
      rw [block_of_contains hkey' hc]
      exact h
    | false =>
      rcases Nat.lt_or_ge s.blockedStreamerIps.associations MAX_STREAMER_IP_BANS with hroom | hfull
      · rw [block_of_room hkey' hc hroom]
        exact h.imp (fun h => StreamerIpBans.contains_insert.mpr (.inr h)) id
      · rw [block_of_full hkey' hc hfull]
        exact h.imp id Finset.mem_insert_of_mem
  | replace entries =>
    rw [BanState.step, replace_list] at hlisted
    exact h.imp (fun h => (replace_contains hs).mpr ⟨h, hlisted⟩)
      (fun h => (replace_overflowed hs).mpr ⟨h, hlisted⟩)
  | isBlocked => exact h

end BanState

namespace Server

variable {config : PublisherConfig} {listed : Finset κ} {t : θ} {choice : Choice κ ι φ}
  {m m' : Server κ θ ι φ} {pc pc' : ServerPc κ ι φ}
  {s s' : Threads θ (Server κ θ ι φ) (ServerPc κ ι φ)}

/-! ## The bans of a server -/

omit [DecidableEq θ] in
theorem block_iff {key : κ} {ip : ι} :
    (m.block key ip).1 = true ↔ key ∈ m.bans.streamBlacklist :=
  BanState.block_fst

/-- A step does at most one locked operation on the bans. -/
theorem bans_cases (h : program config t choice m pc = some (m', pc')) :
    m'.bans = m.bans ∨ ∃ op, m'.bans = m.bans.step op := by
  rcases step_cases h with ⟨call, -, -, hmap⟩ | ⟨heffect, -⟩
  · rw [hmap]
    exact .inl rfl
  generalize pc.map = p, pc.task = task, pc'.task = task' at heffect
  cases heffect with
  | @ingestBlock _ key ip => exact .inr ⟨.block key ip, rfl⟩
  | @session key id step written ip _ _ hsession =>
    cases hsession with
    | startBlock | kicked | spurious => exact .inr ⟨.block key ip, rfl⟩
    | @op op => cases op <;> exact .inl rfl
    | _ => exact .inl rfl
  | @teardown _ key _ op _ ip =>
    cases op with
    | finalCheck => exact .inr ⟨.block key ip, rfl⟩
    | _ => exact .inl rfl
  | @swap entries _ hswap =>
    obtain ⟨bans, hbans, rfl⟩ := Option.map_eq_some_iff.mp hswap
    refine .inr ⟨.replace entries, ?_⟩
    rw [BanState.step, hbans]
    rfl
  | _ => exact .inl rfl

/-- The bans of a server refine the history of the ban table. -/
theorem bans_of_reachable (h : (system config listed).Reachable s) :
    ∃ ops, s.memory.bans = BanState.run listed ops := by
  apply h.invariant (P := fun s => ∃ ops, s.memory.bans = BanState.run listed ops)
  · exact ⟨[], rfl⟩
  · rintro s ⟨t, choice⟩ s' ⟨ops, hops⟩ hstep
    obtain ⟨m', pc', hprogram, rfl⟩ := Program.step_eq_some.mp hstep
    rcases bans_cases hprogram with hsame | ⟨op, hop⟩
    · exact ⟨ops, hsame.trans hops⟩
    · refine ⟨ops ++ [op], ?_⟩
      rw [BanState.run_concat, ← hops]
      exact hop

theorem consistent_of_reachable (h : (system config listed).Reachable s) :
    s.memory.bans.blockedStreamerIps.Consistent s.memory.bans.streamBlacklist := by
  obtain ⟨ops, hops⟩ := bans_of_reachable h
  rw [hops]
  exact (tracks_run listed ops).consistent

/-- A key is listed before each step of a run. -/
def Listed (key : κ) (s : Threads θ (Server κ θ ι φ) (ServerPc κ ι φ)) (_ : θ × Choice κ ι φ) :
    Prop :=
  key ∈ s.memory.bans.streamBlacklist

theorem recorded_of_step {key : κ} {ip : ι} (hs : (system config listed).Reachable s)
    (h : s.memory.bans.Recorded key ip)
    (hstep : program config t choice s.memory (s.pc t) = some (m', pc'))
    (hlisted : key ∈ m'.bans.streamBlacklist) : m'.bans.Recorded key ip := by
  rcases bans_cases hstep with hsame | ⟨op, hop⟩
  · rw [hsame]
    exact h
  · rw [hop] at hlisted ⊢
    exact h.step (consistent_of_reachable hs) op hlisted

/-! ## The final check -/

/-- A publisher is admitted, and its guard's drop has yet to do the final check. -/
def BeforeFinalCheck (key : κ) (ip : ι) (pc : ServerPc κ ι φ) : Prop :=
  match pc.map, pc.task with
  | .holding .publisher key' _, .reserving ip' => key' = key ∧ ip' = ip
  | .holding .publisher key' _, .session _ _ ip' => key' = key ∧ ip' = ip
  | .holding .publisher key' _, .closing ip' => key' = key ∧ ip' = ip
  | .uncount .publisher key' _, .teardown ops ip' => key' = key ∧ ip' = ip ∧ .finalCheck ∈ ops
  | _, _ => False

/-- An admitted publisher's next step makes its guard. -/
theorem guarded_step {key : κ} {id : ChannelId} {ip : ι}
    (h : program config t choice m ⟨.holding .publisher key id, .reserving ip⟩ =
      some (m', pc')) :
    pc' = ⟨.holding .publisher key id, .session .upgrade .nothing ip⟩ := by
  cases choice with
  | advance =>
    obtain ⟨-, rfl⟩ := Prod.mk.inj (Option.some.inj h)
    rfl
  | call call => cases call <;> cases h
  | _ => cases h

/-- A publisher before its final check stays there, or does the check. -/
theorem final_check_step {key : κ} {ip : ι} (hpc : BeforeFinalCheck key ip pc)
    (h : program config t choice m pc = some (m', pc'))
    (hlisted : key ∈ m.bans.streamBlacklist) :
    BeforeFinalCheck key ip pc' ∨ m'.bans.Recorded key ip := by
  obtain ⟨p, task⟩ := pc
  obtain ⟨p', task'⟩ := pc'
  rw [BeforeFinalCheck.eq_def] at hpc
  dsimp only at hpc
  split at hpc
  · obtain ⟨rfl, rfl⟩ := hpc
    left
    rw [guarded_step h]
    exact ⟨rfl, rfl⟩
  · obtain ⟨rfl, rfl⟩ := hpc
    left
    rcases step_cases h with ⟨call, heffect, -, -⟩ | ⟨heffect, hsame⟩
    · cases heffect
    · dsimp only at heffect hsame
      subst hsame
      cases heffect with
      | session hsession =>
        cases hsession with
        | startBlock | startBlockedIp => split <;> exact ⟨rfl, rfl⟩
        | _ => exact ⟨rfl, rfl⟩
  · obtain ⟨rfl, rfl⟩ := hpc
    left
    rcases step_cases h with ⟨call, heffect, hmap, -⟩ | ⟨heffect, -⟩
    · dsimp only at heffect hmap
      cases heffect with
      | close =>
        obtain ⟨-, rfl⟩ := Prod.mk.inj (Option.some.inj hmap)
        exact ⟨rfl, rfl, List.mem_cons_self ..⟩
    · cases heffect
  · obtain ⟨rfl, rfl, hmem⟩ := hpc
    rcases step_cases h with ⟨call, heffect, -, -⟩ | ⟨heffect, hsame⟩
    · cases heffect with
      | count => cases hmem
    · dsimp only at heffect hsame
      subst hsame
      cases heffect with
      | @teardown _ _ _ op =>
        rcases List.mem_cons.mp hmem with rfl | hmem
        · right
          exact BanState.block_covers hlisted
        · exact .inl ⟨rfl, rfl, hmem⟩
  · exact absurd hpc not_false

/-- Under a listed key a publisher's address is recorded once its final check is done. -/
theorem recorded_of_run {key : κ} {ip : ι} (hs : (system config listed).Reachable s)
    (hrun : (system config listed).Run (Listed key) s s')
    (hpc : BeforeFinalCheck key ip (s.pc t))
    (hlisted : key ∈ s'.memory.bans.streamBlacklist) :
    BeforeFinalCheck key ip (s'.pc t) ∨ s'.memory.bans.Recorded key ip := by
  refine System.Run.invariant_of_reachable (P := fun s => key ∈ s.memory.bans.streamBlacklist →
    BeforeFinalCheck key ip (s.pc t) ∨ s.memory.bans.Recorded key ip) hs hrun
    (fun _ => .inl hpc) ?_ hlisted
  rintro s ⟨u, choice⟩ s' hs hbefore hok hstep hlisted'
  obtain ⟨m', pc', hprogram, rfl⟩ := Program.step_eq_some.mp hstep
  dsimp only at hlisted' ⊢
  rcases hbefore hok with hpc | hrecorded
  · by_cases htu : t = u
    · subst htu
      rw [Function.update_self]
      exact final_check_step hpc hprogram hok
    · left
      rw [Function.update_of_ne htu]
      exact hpc
  · right
    exact recorded_of_step hs hrecorded hprogram hlisted'

/-! ## The start-up check -/

/-- The thread has no session for the key past the start-up check. -/
def NotStarted (key : κ) (pc : ServerPc κ ι φ) : Prop :=
  ∀ id step written ip, pc = ⟨.holding .publisher key id, .session step written ip⟩ →
    step = .upgrade ∨ step = .startBlock

theorem not_started_step {key : κ} (hpc : NotStarted key pc)
    (h : program config t choice m pc = some (m', pc'))
    (hlisted : key ∈ m.bans.streamBlacklist) : NotStarted key pc' := by
  rintro id step written ip rfl
  obtain ⟨p, task⟩ := pc
  rcases step_cases h with ⟨call, heffect, -, -⟩ | ⟨heffect, hsame⟩
  · cases heffect
  · dsimp only at heffect hsame
    subst hsame
    generalize htask : Task.session step written ip = task' at heffect
    cases heffect with
    | ingestBlock | ingestBlockedIp => split at htask <;> cases htask
    | guarded =>
      cases htask
      exact .inl rfl
    | session hsession =>
      rcases hpc _ _ _ _ rfl with rfl | rfl
      · cases hsession with
        | upgrade =>
          cases htask
          exact .inr rfl
        | abandon => cases htask
      · cases hsession with
        | abandon => cases htask
        | startBlock =>
          rw [if_pos (block_iff.mpr hlisted)] at htask
          cases htask
    | _ => cases htask

theorem not_started_of_run {key : κ} (hrun : (system config listed).Run (Listed key) s s')
    (hpc : NotStarted key (s.pc t)) : NotStarted key (s'.pc t) := by
  refine hrun.invariant (P := fun s => NotStarted key (s.pc t)) hpc ?_
  rintro s ⟨u, choice⟩ s' hbefore hok hstep
  obtain ⟨m', pc', hprogram, rfl⟩ := Program.step_eq_some.mp hstep
  dsimp only
  by_cases htu : t = u
  · subst htu
    rw [Function.update_self]
    exact not_started_step hbefore hprogram hok
  · rw [Function.update_of_ne htu]
    exact hbefore

/-! ## Notifications -/

/-- A session past the start-up check that has not just been woken. -/
def Watching : SessionStep φ → Prop
  | .upgrade | .startBlock | .woken _ => False
  | _ => True

/-- A session in its loop, where it may be registered for notifications. -/
def InLoop : SessionStep φ → Prop
  | .select _ | .woken _ | .rearm _ | .run _ _ => True
  | _ => False

/-- A reload that has yet to visit the key. -/
def WillVisit (key : κ) : Task κ ι φ → Prop
  | .reload .readList => True
  | .reload (.readMap remaining) | .reload (.visit remaining) => key ∈ remaining
  | .reload (.notify remaining key' _) => key ∈ remaining ∨ key' = key
  | _ => False

/-- Only a channel's publisher is registered with it; a notify pass has found its key's
channel in the map; and a listed publisher past its start-up check has a notification
pending, or the reload that listed its key has yet to visit it. -/
structure Alert (s : Threads θ (Server κ θ ι φ) (ServerPc κ ι φ)) : Prop where
  registered : ∀ id u, (s.memory.video id).blacklistNotify.Registered u →
    ∃ key step written ip,
      s.pc u = ⟨.holding .publisher key id, .session step written ip⟩ ∧ InLoop step
  found : ∀ u remaining key id, (s.pc u).task = .reload (.notify remaining key id) →
    s.memory.map.channels key = some id
  alert : ∀ t key id step written ip,
    s.pc t = ⟨.holding .publisher key id, .session step written ip⟩ → Watching step →
    key ∈ s.memory.bans.streamBlacklist →
      (s.memory.video id).blacklistNotify.Pending t ∨
      ∃ r, s.memory.listedBy key = some r ∧ WillVisit key (s.pc r).task

/-- Who touches the notifications of a channel: its publisher polls or leaves, or a
reload notifies. -/
theorem notify_cases (h : program config t choice m pc = some (m', pc')) (id : ChannelId) :
    (m'.video id).blacklistNotify = (m.video id).blacklistNotify ∨
    (∃ key configured written ip,
      pc = ⟨.holding .publisher key id, .session (.select configured) written ip⟩ ∧
      (m'.video id).blacklistNotify = ((m.video id).blacklistNotify.poll t).2 ∧
      pc' = ⟨.holding .publisher key id, .session
        (if ((m.video id).blacklistNotify.poll t).1 then .woken configured
          else .select configured) written ip⟩) ∨
    (∃ key step written ip forward,
      pc = ⟨.holding .publisher key id, .session step written ip⟩ ∧
      (m'.video id).blacklistNotify = (m.video id).blacklistNotify.drop t forward ∧
      pc'.task = .closing ip) ∨
    (∃ remaining key, pc.task = .reload (.notify remaining key id) ∧
      (m'.video id).blacklistNotify = (m.video id).blacklistNotify.notifyOne ∧
      pc'.task = .reload (.visit remaining)) := by
  obtain ⟨p, task⟩ := pc
  obtain ⟨p', task'⟩ := pc'
  rcases step_cases h with ⟨call, -, -, hmap⟩ | ⟨heffect, hsame⟩
  · rw [hmap]
    exact .inl rfl
  dsimp only at heffect hsame
  subst hsame
  cases heffect with
  | @session key id' step written ip _ _ hsession =>
    by_cases hid : id = id'
    swap
    · rw [hsession.video_eq hid]
      exact .inl rfl
    subst hid
    cases hsession with
    | poll =>
      refine .inr (.inl ⟨key, _, written, ip, rfl, ?_, rfl⟩)
      simp [setNotify]
    | leave forward =>
      refine .inr (.inr (.inl ⟨key, _, written, ip, forward, rfl, ?_, rfl⟩))
      simp [dropNotified, setNotify]
    | kicked =>
      refine .inr (.inr (.inl ⟨key, _, written, ip, false, rfl, ?_, rfl⟩))
      simp [dropNotified, setNotify, block]
    | startFmtp | startResync =>
      left
      simp [setFmtp, forceResync]
    | @op op =>
      left
      cases op <;> simp [channelOp, setFmtp, setActive, forceResync]
    | _ => exact .inl rfl
  | @teardown role key id' op ops ip =>
    left
    by_cases hid : id = id'
    · subst hid
      cases op <;> simp [teardownOp, setFmtp, setActive, forceResync, block]
    · rw [teardownOp_video_eq hid]
  | @notify _ remaining key id' =>
    by_cases hid : id = id'
    · subst hid
      refine .inr (.inr (.inr ⟨remaining, key, rfl, ?_, rfl⟩))
      simp [setNotify]
    · left
      rw [setNotify, updateVideo_video_of_ne hid]
  | swap hswap =>
    obtain ⟨bans, -, rfl⟩ := Option.map_eq_some_iff.mp hswap
    exact .inl rfl
  | _ => exact .inl rfl

/-- A session in its loop stays there or leaves it with its registration dropped. -/
theorem inLoop_step {key : κ} {id : ChannelId} {step : SessionStep φ} {written : Written φ}
    {ip : ι} (h : program config t choice m ⟨.holding .publisher key id,
      .session step written ip⟩ = some (m', pc')) (hstep : InLoop step) :
    (∃ step' written', pc' = ⟨.holding .publisher key id, .session step' written' ip⟩ ∧
      InLoop step') ∨
    ∃ forward, (m'.video id).blacklistNotify = (m.video id).blacklistNotify.drop t forward := by
  obtain ⟨p', task'⟩ := pc'
  rcases step_cases h with ⟨call, heffect, -, -⟩ | ⟨heffect, hsame⟩
  · cases heffect
  dsimp only at heffect hsame
  subst hsame
  cases heffect with
  | session hsession =>
    cases hsession with
    | leave forward => exact .inr ⟨forward, by simp [dropNotified, setNotify]⟩
    | kicked => exact .inr ⟨false, by simp [dropNotified, setNotify, block]⟩
    | abandon hbegin =>
      rcases hbegin with rfl | rfl <;> exact absurd hstep not_false
    | poll =>
      refine .inl ⟨_, _, rfl, ?_⟩
      split <;> trivial
    | message | spurious | rearm | finish | op => exact .inl ⟨_, _, rfl, trivial⟩
    | _ => exact absurd hstep not_false

variable (hs : (system config listed).Reachable s) (halert : Alert s)
  (hstep : program config t choice s.memory (s.pc t) = some (m', pc'))

include halert hstep in
theorem registered_step (id : ChannelId) (u : θ)
    (hu : (m'.video id).blacklistNotify.Registered u) :
    ∃ key step written ip, Function.update s.pc t pc' u =
      ⟨.holding .publisher key id, .session step written ip⟩ ∧ InLoop step := by
  have hbefore : u ≠ t → (s.memory.video id).blacklistNotify.Registered u := by
    intro hut
    rcases notify_cases hstep id with hsame | ⟨_, _, _, _, -, hpoll, -⟩ |
      ⟨_, _, _, _, forward, -, hdrop, -⟩ | ⟨_, _, -, hnotify, -⟩
    · rwa [hsame] at hu
    · rw [hpoll] at hu
      exact (Notify.registered_of_poll hu).resolve_left hut
    · rw [hdrop] at hu
      exact (Notify.registered_of_drop hu).2
    · rw [hnotify] at hu
      exact Notify.registered_of_notifyOne hu
  by_cases hut : u = t
  swap
  · rw [Function.update_of_ne hut]
    exact halert.registered id u (hbefore hut)
  subst hut
  rw [Function.update_self]
  rcases notify_cases hstep id with hsame | ⟨key, configured, written, ip, -, -, hpc'⟩ |
    ⟨_, _, _, _, forward, -, hdrop, -⟩ | ⟨_, _, hpc, hnotify, -⟩
  · rw [hsame] at hu
    obtain ⟨key, step, written, ip, hpc, hloop⟩ := halert.registered id u hu
    rw [hpc] at hstep
    rcases inLoop_step hstep hloop with ⟨step', written', hpc', hloop'⟩ | ⟨forward, hdrop⟩
    · exact ⟨key, step', written', ip, hpc', hloop'⟩
    · rw [← hsame, hdrop] at hu
      exact absurd rfl (Notify.registered_of_drop hu).1
  · refine ⟨key, _, written, ip, hpc', ?_⟩
    split <;> trivial
  · rw [hdrop] at hu
    exact absurd rfl (Notify.registered_of_drop hu).1
  · rw [hnotify] at hu
    obtain ⟨_, _, _, _, hpc', -⟩ := halert.registered id u (Notify.registered_of_notifyOne hu)
    rw [hpc'] at hpc
    cases hpc

include hs halert hstep in
theorem found_step (u : θ) (remaining : Finset κ) (key : κ) (id : ChannelId)
    (hu : (Function.update s.pc t pc' u).task = .reload (.notify remaining key id)) :
    m'.map.channels key = some id := by
  by_cases hut : u = t
  · subst hut
    rw [Function.update_self] at hu
    rcases step_cases hstep with ⟨call, heffect, -, -⟩ | ⟨heffect, -⟩
    · rw [hu] at heffect
      generalize (s.pc u).map = p, (s.pc u).task = task at heffect
      cases heffect
    · rw [heffect.map_eq]
      rw [hu] at heffect
      generalize htask : Task.reload (.notify remaining key id) = task' at heffect
      generalize (s.pc u).map = p, (s.pc u).task = task at heffect
      cases heffect with
      | ingestBlock | ingestBlockedIp => split at htask <;> cases htask
      | session hsession =>
        subst htask
        generalize htask : Task.reload (.notify remaining key id) = task' at hsession
        cases hsession with
        | startBlock | startBlockedIp => split at htask <;> cases htask
        | _ => cases htask
      | visitLive hmem hget hlive =>
        cases htask
        exact hget
      | _ => cases htask
  · rw [Function.update_of_ne hut] at hu
    have hfound := halert.found u remaining key id hu
    rcases step_cases hstep with ⟨call, -, hmap, -⟩ | ⟨heffect, -⟩
    · have hplaced := placed_of_reachable hs u
      rw [Placed, hu] at hplaced
      have hinside : ((mapThreads s).pc u).lock ≠ none := by
        change (s.pc u).map.lock ≠ none
        rw [hplaced]
        exact Option.some_ne_none _
      have hinv := ChannelMap.invariant_of_reachable (reachable_mapThreads hs)
      rw [hinv.channels_eq hmap hut hinside]
      exact hfound
    · rw [heffect.map_eq]
      exact hfound

/-- What a step does to the list: nothing, or the swap of a reload. -/
theorem list_cases (h : program config t choice m pc = some (m', pc')) :
    (m'.bans.streamBlacklist = m.bans.streamBlacklist ∧ m'.listedBy = m.listedBy) ∨
    (∃ entries, pc.task = .none ∧ pc'.task = .reload .readList ∧ m'.video = m.video ∧
      m'.bans.streamBlacklist = entries ∧
      m'.listedBy = fun key =>
        if key ∈ entries ∧ key ∉ m.bans.streamBlacklist then some t else m.listedBy key) := by
  rcases step_cases h with ⟨call, -, -, hmap⟩ | ⟨heffect, -⟩
  · rw [hmap]
    exact .inl ⟨rfl, rfl⟩
  generalize pc.map = p, pc.task = task, pc'.task = task' at heffect
  cases heffect with
  | @swap entries _ hswap =>
    obtain ⟨bans, hbans, rfl⟩ := Option.map_eq_some_iff.mp hswap
    refine .inr ⟨entries, rfl, rfl, rfl, ?_, rfl⟩
    have hlist : ((m.bans.replaceStreamBlacklist entries).getD m.bans).streamBlacklist = entries :=
      BanState.replace_list
    rw [hbans] at hlist
    exact hlist
  | ingestBlock => exact .inl ⟨BanState.block_streamBlacklist .., rfl⟩
  | session hsession =>
    left
    cases hsession with
    | startBlock | kicked | spurious => exact ⟨BanState.block_streamBlacklist .., rfl⟩
    | @op op => cases op <;> exact ⟨rfl, rfl⟩
    | _ => exact ⟨rfl, rfl⟩
  | @teardown _ _ _ op =>
    left
    cases op with
    | finalCheck => exact ⟨BanState.block_streamBlacklist .., rfl⟩
    | _ => exact ⟨rfl, rfl⟩
  | _ => exact .inl ⟨rfl, rfl⟩

/-- A reload that has yet to visit a listed key does not forget it: it visits the key
while its publisher is gone, or notifies the channel it has found. -/
theorem willVisit_step {key : κ} (h : program config t choice m pc = some (m', pc'))
    (hvisit : WillVisit key pc.task) (hlisted : key ∈ m.bans.streamBlacklist) :
    WillVisit key pc'.task ∨
    (∀ id, m.map.channels key = some id → (m.map.channel id).streamer = false) ∨
    ∃ remaining id, pc.task = .reload (.notify remaining key id) ∧
      (m'.video id).blacklistNotify = (m.video id).blacklistNotify.notifyOne := by
  rcases step_cases h with ⟨call, heffect, -, -⟩ | ⟨heffect, -⟩
  · generalize pc.map = p, pc.task = task, pc'.task = task' at heffect hvisit ⊢
    cases heffect with
    | scan | readMap => exact .inl hvisit
    | unlockMap => simp [WillVisit] at hvisit
    | _ => exact absurd hvisit not_false
  · generalize pc.map = p, pc.task = task, pc'.task = task' at heffect hvisit ⊢
    cases heffect with
    | readList => exact .inl hlisted
    | @visitLive _ key' remaining id hmem hget hlive =>
      left
      by_cases hkey : key' = key
      · exact .inr hkey
      · exact .inl (Finset.mem_erase.mpr ⟨Ne.symm hkey, hvisit⟩)
    | @visitDead _ key' remaining hmem hdead =>
      by_cases hkey : key' = key
      · exact .inr (.inl (hkey ▸ hdead))
      · exact .inl (Finset.mem_erase.mpr ⟨Ne.symm hkey, hvisit⟩)
    | @notify _ remaining key' id =>
      rcases hvisit with hmem | rfl
      · exact .inl hmem
      · refine .inr (.inr ⟨remaining, id, rfl, ?_⟩)
        simp [setNotify]
    | _ => exact absurd hvisit not_false

/-- A session that is watching after its own step was watching before it, with the same
notifications or a poll that was not ready; or its key was not listed. -/
theorem watching_step {key : κ} {id : ChannelId} {step : SessionStep φ} {written : Written φ}
    {ip : ι} (h : program config t choice m pc =
      some (m', ⟨.holding .publisher key id, .session step written ip⟩))
    (hwatching : Watching step) :
    key ∉ m'.bans.streamBlacklist ∨
    ∃ step' written' ip', pc = ⟨.holding .publisher key id, .session step' written' ip'⟩ ∧
      Watching step' ∧ ((m'.video id).blacklistNotify = (m.video id).blacklistNotify ∨
        ((m.video id).blacklistNotify.poll t).1 = false) := by
  obtain ⟨p, task⟩ := pc
  rcases step_cases h with ⟨call, heffect, -, -⟩ | ⟨heffect, hsame⟩
  · cases heffect
  dsimp only at heffect hsame
  subst hsame
  have hblock : ∀ ip, (m.block key ip).2.bans.streamBlacklist = m.bans.streamBlacklist :=
    fun ip => BanState.block_streamBlacklist m.bans key ip
  generalize htask : Task.session step written ip = task' at heffect
  cases heffect with
  | ingestBlock | ingestBlockedIp => split at htask <;> cases htask
  | guarded =>
    cases htask
    exact absurd hwatching not_false
  | session hsession =>
    cases hsession with
    | upgrade =>
      cases htask
      exact absurd hwatching not_false
    | startBlock =>
      split at htask
      · cases htask
      next hfree => exact .inl (hblock _ ▸ mt block_iff.mpr hfree)
    | startBlockedIp =>
      split at htask
      · cases htask
      · exact .inr ⟨_, _, _, rfl, trivial, .inl rfl⟩
    | poll =>
      cases htask
      by_cases hready : ((m.video id).blacklistNotify.poll t).1 = true
      · rw [if_pos hready] at hwatching
        exact absurd hwatching not_false
      · exact .inr ⟨_, _, _, rfl, trivial, .inr (Bool.eq_false_iff.mpr hready)⟩
    | spurious hfree => exact .inl (hblock _ ▸ mt block_iff.mpr (Bool.eq_false_iff.mp hfree))
    | abandon | leave | kicked => cases htask
    | startFmtp | startResync =>
      refine .inr ⟨_, _, _, rfl, trivial, .inl ?_⟩
      simp [setFmtp, forceResync]
    | @op op =>
      refine .inr ⟨_, _, _, rfl, trivial, .inl ?_⟩
      cases op <;> simp [channelOp, setFmtp, setActive, forceResync]
    | hello | message | rearm | finish => exact .inr ⟨_, _, _, rfl, trivial, .inl rfl⟩
  | _ => cases htask

include hs halert hstep in
/-- The step of another thread: a notification that it makes reaches the publisher. -/
theorem alert_other {u : θ} (hut : u ≠ t) {key : κ} {id : ChannelId} {step : SessionStep φ}
    {written : Written φ} {ip : ι}
    (hu : s.pc u = ⟨.holding .publisher key id, .session step written ip⟩)
    (hwatching : Watching step) (hlisted : key ∈ m'.bans.streamBlacklist) :
    (m'.video id).blacklistNotify.Pending u ∨
    ∃ r, m'.listedBy key = some r ∧ WillVisit key (Function.update s.pc t pc' r).task := by
  have hholding : (s.pc u).map = .holding .publisher key id := congrArg ServerPc.map hu
  obtain ⟨hmapped, hlive⟩ := publisher_mapped hs hholding
  have hnotified : (s.memory.video id).blacklistNotify.notifyOne.Pending u := by
    apply Notify.pending_notifyOne
    intro v hv
    obtain ⟨_, _, _, _, hpc, -⟩ := halert.registered id v hv
    exact publisher_unique hs (congrArg ServerPc.map hpc) hholding
  have hpending : (s.memory.video id).blacklistNotify.Pending u →
      (m'.video id).blacklistNotify.Pending u := by
    intro hbefore
    rcases notify_cases hstep id with hsame | ⟨_, _, _, _, hpc, -⟩ | ⟨_, _, _, _, _, hpc, -⟩ |
      ⟨_, _, -, hnotify, -⟩
    · rwa [hsame]
    · exact absurd (publisher_unique hs hholding (congrArg ServerPc.map hpc)) hut
    · exact absurd (publisher_unique hs hholding (congrArg ServerPc.map hpc)) hut
    · rw [hnotify]
      exact hnotified
  obtain ⟨hlist, hlistedBy⟩ | ⟨entries, hnone, hreload, hvideo, hlist, hlistedBy⟩ :=
    list_cases hstep
  · rw [hlist] at hlisted
    rcases halert.alert u key id step written ip hu hwatching hlisted with hbefore | ⟨r, hr, hvisit⟩
    · exact .inl (hpending hbefore)
    · by_cases hrt : r = t
      · subst hrt
        rcases willVisit_step hstep hvisit hlisted with hvisit' | hgone | ⟨_, id', hpc, hnotify⟩
        · refine .inr ⟨r, hlistedBy ▸ hr, ?_⟩
          rwa [Function.update_self]
        · rw [hgone id hmapped] at hlive
          cases hlive
        · obtain rfl := Option.some.inj (hmapped.symm.trans (halert.found r _ key id' hpc))
          left
          rw [hnotify]
          exact hnotified
      · refine .inr ⟨r, hlistedBy ▸ hr, ?_⟩
        rwa [Function.update_of_ne hrt]
  · rw [hlist] at hlisted
    by_cases hold : key ∈ s.memory.bans.streamBlacklist
    · rcases halert.alert u key id step written ip hu hwatching hold with hbefore | ⟨r, hr, hvisit⟩
      · exact .inl (hpending hbefore)
      · have hrt : r ≠ t := by
          rintro rfl
          rw [hnone] at hvisit
          exact hvisit
        refine .inr ⟨r, ?_, ?_⟩
        · rw [hlistedBy]
          simpa [hold] using hr
        · rwa [Function.update_of_ne hrt]
    · refine .inr ⟨t, ?_, ?_⟩
      · rw [hlistedBy]
        simp [hlisted, hold]
      · rw [Function.update_self, hreload]
        trivial

include hs halert hstep in
theorem alert_step : Alert ⟨m', Function.update s.pc t pc'⟩ where
  registered := registered_step halert hstep
  found := found_step hs halert hstep
  alert u key id step written ip hu hwatching hlisted := by
    dsimp only at hu hlisted ⊢
    by_cases hut : u = t
    swap
    · rw [Function.update_of_ne hut] at hu
      exact alert_other hs halert hstep hut hu hwatching hlisted
    subst hut
    rw [Function.update_self] at hu
    subst hu
    obtain hfree | ⟨step', written', ip', hpc, hwatching', hnotify⟩ :=
      watching_step hstep hwatching
    · exact absurd hlisted hfree
    rcases list_cases hstep with ⟨hlist, hlistedBy⟩ | ⟨entries, hnone, -⟩
    swap
    · rw [hpc] at hnone
      cases hnone
    rw [hlist] at hlisted
    rcases halert.alert u key id step' written' ip' hpc hwatching' hlisted with
      hbefore | ⟨r, hr, hvisit⟩
    · rcases hnotify with hsame | hready
      · exact .inl (hsame ▸ hbefore)
      · exact absurd hbefore (Notify.poll_eq_false hready)
    · have hru : r ≠ u := by
        rintro rfl
        rw [hpc] at hvisit
        exact hvisit
      refine .inr ⟨r, hlistedBy ▸ hr, ?_⟩
      rwa [Function.update_of_ne hru]

omit hs in
theorem alert_of_reachable (h : (system config listed).Reachable s) : Alert s := by
  refine System.Run.invariant_of_reachable (P := Alert) System.Reachable.start h ?_ ?_
  · refine ⟨?_, ?_, ?_⟩
    · intro id u hu
      exact absurd hu Notify.not_registered_new
    · intro u remaining key id hu
      cases hu
    · intro t key id step written ip ht
      cases ht
  · rintro s ⟨t, choice⟩ s' hs halert - hstep
    obtain ⟨m', pc', hprogram, rfl⟩ := Program.step_eq_some.mp hstep
    exact alert_step hs halert hprogram

/-- The next operation of the thread is the publication of a frame under the key. -/
def SendsFrame (key : κ) (pc : ServerPc κ ι φ) : Prop :=
  ∃ id ops configured written ip,
    pc = ⟨.holding .publisher key id, .session (.run (.publish :: ops) configured) written ip⟩

/-- From any reachable state, for every thread, key and address. While the key stays
listed, an admitted publisher's address is recorded once its final check is done, and it
stays recorded. A publisher parked in its loop under a listed key has a notification
pending once the reload that listed the key is past it. And a thread that has not taken
the key's flag publishes no frame under the key while it stays listed. -/
theorem reload_never_misses_publisher (hs : (system config listed).Reachable s) (t : θ) (key : κ)
    (ip : ι) :
    (∀ s', (system config listed).Run (Listed key) s s' →
      key ∈ s'.memory.bans.streamBlacklist →
        (BeforeFinalCheck key ip (s.pc t) →
          BeforeFinalCheck key ip (s'.pc t) ∨ s'.memory.bans.Recorded key ip) ∧
        (s.memory.bans.Recorded key ip → s'.memory.bans.Recorded key ip)) ∧
    (∀ id configured written ip,
      s.pc t = ⟨.holding .publisher key id, .session (.select configured) written ip⟩ →
      key ∈ s.memory.bans.streamBlacklist →
      (∀ r, s.memory.listedBy key = some r → ¬ WillVisit key (s.pc r).task) →
        (s.memory.video id).blacklistNotify.Pending t) ∧
    (∀ s', (system config listed).Run (Listed key) s s' →
      (∀ id, (s.pc t).map.holds ≠ some (.publisher, key, id)) → ¬ SendsFrame key (s'.pc t)) := by
  refine ⟨?_, ?_, ?_⟩
  · intro s' hrun hlisted
    refine ⟨fun hpc => recorded_of_run hs hrun hpc hlisted, ?_⟩
    intro hrecorded
    refine System.Run.invariant_of_reachable (P := fun s =>
      key ∈ s.memory.bans.streamBlacklist → s.memory.bans.Recorded key ip) hs hrun
      (fun _ => hrecorded) ?_ hlisted
    rintro s ⟨u, choice⟩ s' hs hbefore hok hstep hlisted'
    obtain ⟨m', pc', hprogram, rfl⟩ := Program.step_eq_some.mp hstep
    exact recorded_of_step hs (hbefore hok) hprogram hlisted'
  · intro id configured written ip hpc hlisted hpast
    have halert := (alert_of_reachable hs).alert t key id _ written ip hpc trivial hlisted
    apply halert.resolve_right
    rintro ⟨r, hr, hvisit⟩
    exact hpast r hr hvisit
  · rintro s' hrun hfree ⟨id, ops, configured, written, ip, hpc'⟩
    have hbefore : NotStarted key (s.pc t) := by
      intro id step written ip hpc
      exact absurd (congrArg (fun pc => pc.map.holds) hpc) (hfree id)
    rcases not_started_of_run hrun hbefore id _ written ip hpc' with hstep | hstep <;> cases hstep

/-- The steps of a reload that lists one key, from the swap to the end of its pass. -/
def reloadSteps (key : Nat) : List (Choice Nat Nat Nat) :=
  .reload {key} :: List.replicate 3 .advance ++ .visit key :: List.replicate 3 .advance

/-- A publisher of key 7 parks in its loop; then a reload lists the key and passes it. -/
def parkedSteps : List (Nat × Choice Nat Nat Nat) :=
  (connectSteps 1 8).map (Prod.mk 0) ++ (0, .poll) :: (reloadSteps 7).map (Prod.mk 1)

theorem reload_never_misses_publisher_parked :
    ∃ s, smallServer.Reachable s ∧
      s.pc 0 = ⟨.holding .publisher 7 0, .session (.select false) ⟨none, some none⟩ 1⟩ ∧
      7 ∈ s.memory.bans.streamBlacklist ∧ s.pc 1 = ⟨.idle, .none⟩ ∧
      (s.memory.video 0).blacklistNotify.Pending 0 := by
  have hsome : (smallServer.exec smallServer.start parkedSteps).map (fun s =>
      (s.pc 0, decide (7 ∈ s.memory.bans.streamBlacklist), s.pc 1, s.memory.listedBy 7)) =
      some (⟨.holding .publisher 7 0, .session (.select false) ⟨none, some none⟩ 1⟩, true,
        ⟨.idle, .none⟩, some 1) := by
    decide +kernel
  obtain ⟨s, hexec, hstate⟩ := Option.map_eq_some_iff.mp hsome
  obtain ⟨hpc, hstate⟩ := Prod.mk.inj hstate
  obtain ⟨hlisted, hstate⟩ := Prod.mk.inj hstate
  obtain ⟨hidle, hlistedBy⟩ := Prod.mk.inj hstate
  have hreachable := System.reachable_of_exec hexec
  have hmem : 7 ∈ s.memory.bans.streamBlacklist := of_decide_eq_true hlisted
  refine ⟨s, hreachable, hpc, hmem, hidle, ?_⟩
  apply (reload_never_misses_publisher hreachable 0 7 1).2.1 0 _ _ _ hpc hmem
  intro r hr hvisit
  obtain rfl : 1 = r := Option.some.inj (hlistedBy.symm.trans hr)
  rw [hidle] at hvisit
  exact hvisit

end Server

end VRCStreamer
