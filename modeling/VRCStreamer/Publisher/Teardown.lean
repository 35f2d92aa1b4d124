import VRCStreamer.Publisher.Steps

/-!
# The teardown of a publisher and its successor

`StreamerGuard::drop` releases the flag before it resets the video state, so the next
publisher of the channel can set the state first and have it overwritten. Where no reset
is still ahead when a publisher turns video on or sets its parameters, the state is the
publisher's own.
-/

namespace VRCStreamer

open Concurrency

variable {κ θ ι φ : Type*}

/-- The session's `video_configured`. -/
def SessionStep.configured : SessionStep φ → Bool
  | .select configured | .woken configured | .rearm configured | .run _ configured => configured
  | _ => false

namespace Server

variable {s : Threads θ (Server κ θ ι φ) (ServerPc κ ι φ)}

/-- Some teardown of the channel still has an operation to do. -/
def Ahead (s : Threads θ (Server κ θ ι φ) (ServerPc κ ι φ)) (id : ChannelId) (op : TeardownOp) :
    Prop :=
  ∃ u key ops ip, s.pc u = ⟨.uncount .publisher key id, .teardown ops ip⟩ ∧ op ∈ ops

/-- The next step does not turn video on while a teardown of the channel has yet to turn
it off, and does not set parameters while a teardown has yet to clear them. -/
def Undisturbed (s : Threads θ (Server κ θ ι φ) (ServerPc κ ι φ)) (a : θ × Choice κ ι φ) : Prop :=
  ∀ key id op ops configured written ip,
    s.pc a.1 = ⟨.holding .publisher key id, .session (.run (op :: ops) configured) written ip⟩ →
      (op = .storeActive true ∨ op = .swapActive → ¬ Ahead s id .storeInactive) ∧
      (∀ fmtp, op = .configure fmtp → ¬ Ahead s id .clearFmtp)

/-- The video state of a channel is what its publisher wrote last, and no reset of what
the publisher turned on is ahead. -/
structure Undamaged (s : Threads θ (Server κ θ ι φ) (ServerPc κ ι φ)) (id : ChannelId)
    (step : SessionStep φ) (written : Written φ) : Prop where
  active : ∀ value, written.active = some value → (s.memory.video id).videoActive = value
  fmtp : ∀ value, written.fmtp = some value → (s.memory.video id).videoFmtp = value
  configured : step.configured = true → ∃ fmtp, written.fmtp = some (some fmtp)
  activeAhead : written.active = some true → ¬ Ahead s id .storeInactive
  fmtpAhead : ∀ fmtp, written.fmtp = some (some fmtp) → ¬ Ahead s id .clearFmtp

variable [DecidableEq κ] [DecidableEq θ] [DecidableEq ι] {config : PublisherConfig} {t : θ}
  {choice : Choice κ ι φ} {m m' : Server κ θ ι φ} {pc pc' : ServerPc κ ι φ}

/-- Who writes to the video state of a channel: its publisher's session, or a teardown. -/
theorem video_cases (h : program config t choice m pc = some (m', pc')) (id : ChannelId) :
    ((m'.video id).videoActive = (m.video id).videoActive ∧
      (m'.video id).videoFmtp = (m.video id).videoFmtp) ∨
    (∃ key step written ip, pc = ⟨.holding .publisher key id, .session step written ip⟩) ∨
    (∃ role key op ops ip, pc = ⟨.uncount role key id, .teardown (op :: ops) ip⟩ ∧
      m' = m.teardownOp key ip id op) := by
  obtain ⟨p, task⟩ := pc
  obtain ⟨p', task'⟩ := pc'
  rcases step_cases h with ⟨call, -, -, hmap⟩ | ⟨heffect, -⟩
  · rw [hmap]
    exact .inl ⟨rfl, rfl⟩
  · dsimp only at heffect
    cases heffect with
    | @session key id' step written ip _ _ hsession =>
      by_cases hid : id = id'
      · subst hid
        exact .inr (.inl ⟨key, step, written, ip, rfl⟩)
      · rw [hsession.video_eq hid]
        exact .inl ⟨rfl, rfl⟩
    | @teardown role key id' op ops ip =>
      by_cases hid : id = id'
      · subst hid
        exact .inr (.inr ⟨role, key, op, ops, ip, rfl, rfl⟩)
      · rw [teardownOp_video_eq hid]
        exact .inl ⟨rfl, rfl⟩
    | notify =>
      left
      simp only [setNotify, updateVideo_video]
      split
      next hid => rw [hid]; exact ⟨rfl, rfl⟩
      next => exact ⟨rfl, rfl⟩
    | swap hswap =>
      obtain ⟨bans, -, rfl⟩ := Option.map_eq_some_iff.mp hswap
      exact .inl ⟨rfl, rfl⟩
    | _ => exact .inl ⟨rfl, rfl⟩

/-- A new teardown begins with the drop of a guard, and an old one gets shorter. -/
theorem teardown_cases (h : program config t choice m pc = some (m', pc')) (hplaced : Placed pc)
    {key : κ} {id : ChannelId} {ops : List TeardownOp} {ip : ι}
    (hpc' : pc' = ⟨.uncount .publisher key id, .teardown ops ip⟩) :
    pc.map = .holding .publisher key id ∨
    ∃ op, pc = ⟨.uncount .publisher key id, .teardown (op :: ops) ip⟩ := by
  obtain ⟨p, task⟩ := pc
  subst hpc'
  rcases step_cases h with ⟨call, heffect, hmap, -⟩ | ⟨heffect, hsame⟩
  · dsimp only at heffect hmap
    cases heffect with
    | close =>
      obtain ⟨key', id', rfl⟩ := hplaced
      left
      obtain ⟨-, hafter⟩ := Prod.mk.inj (Option.some.inj hmap)
      cases hafter
      rfl
  · dsimp only at heffect hsame
    subst hsame
    generalize htask : Task.teardown ops ip = task' at heffect
    cases heffect with
    | teardown =>
      cases htask
      exact .inr ⟨_, rfl⟩
    | ingestBlock | ingestBlockedIp => split at htask <;> cases htask
    | _ => cases htask

variable {listed : Finset κ}

/-- What is ahead for a channel with a publisher was ahead before the step. -/
theorem ahead_of_step (hs : (system config listed).Reachable s)
    (h : program config t choice s.memory (s.pc t) = some (m', pc')) {u : θ} {key : κ}
    {id : ChannelId} {op : TeardownOp} (hu : (s.pc u).map = .holding .publisher key id)
    (hut : u = t → pc'.map = .holding .publisher key id)
    (hahead : Ahead ⟨m', Function.update s.pc t pc'⟩ id op) : Ahead s id op := by
  obtain ⟨v, key', ops, ip, hv, hop⟩ := hahead
  dsimp only at hv
  by_cases hvt : v = t
  · subst hvt
    rw [Function.update_self] at hv
    rcases teardown_cases h (placed_of_reachable hs v) hv with hholding | ⟨op', hpc⟩
    · have huv := publisher_unique hs hu hholding
      rw [hv] at hut
      cases hut huv
    · exact ⟨v, key', op' :: ops, ip, hpc, List.mem_cons_of_mem _ hop⟩
  · rw [Function.update_of_ne hvt] at hv
    exact ⟨v, key', ops, ip, hv, hop⟩

theorem ahead_of_teardown (hs : (system config listed).Reachable s) {role : Role} {key : κ}
    {id : ChannelId} {op : TeardownOp} {ops : List TeardownOp} {ip : ι}
    (hpc : s.pc t = ⟨.uncount role key id, .teardown (op :: ops) ip⟩) : Ahead s id op := by
  have hplaced := placed_of_reachable hs t
  rw [hpc] at hplaced
  obtain ⟨key', id', hmap⟩ := hplaced
  cases hmap
  exact ⟨t, key, op :: ops, ip, hpc, List.mem_cons_self ..⟩

/-- The steps of other threads: a teardown may reset only what the publisher has not
turned on. -/
theorem Undamaged.other (hs : (system config listed).Reachable s) {u : θ} {key : κ}
    {id : ChannelId} {step : SessionStep φ} {written : Written φ}
    (h : Undamaged s id step written) (hu : (s.pc u).map = .holding .publisher key id)
    (hut : u ≠ t) (hstep : program config t choice s.memory (s.pc t) = some (m', pc')) :
    Undamaged ⟨m', Function.update s.pc t pc'⟩ id step written := by
  have hahead : ∀ op, Ahead ⟨m', Function.update s.pc t pc'⟩ id op → Ahead s id op := by
    intro op
    exact ahead_of_step hs hstep hu (fun heq => absurd heq hut)
  have hactive : ∀ value, written.active = some value → (m'.video id).videoActive = value := by
    intro value hvalue
    rcases video_cases hstep id with ⟨hsame, -⟩ | ⟨key', _, _, _, hpc⟩ |
      ⟨role, key', op, ops, ip, hpc, rfl⟩
    · rw [hsame]
      exact h.active value hvalue
    · exact absurd (publisher_unique hs hu (congrArg ServerPc.map hpc)) hut
    · have hop := ahead_of_teardown hs hpc
      cases op with
      | storeInactive =>
        cases value with
        | true => exact absurd hop (h.activeAhead hvalue)
        | false => simp [teardownOp, setActive]
      | finalCheck => exact h.active value hvalue
      | clearFmtp | forceResync =>
        simpa [teardownOp, setFmtp, forceResync] using h.active value hvalue
  have hfmtp : ∀ value, written.fmtp = some value → (m'.video id).videoFmtp = value := by
    intro value hvalue
    rcases video_cases hstep id with ⟨-, hsame⟩ | ⟨key', _, _, _, hpc⟩ |
      ⟨role, key', op, ops, ip, hpc, rfl⟩
    · rw [hsame]
      exact h.fmtp value hvalue
    · exact absurd (publisher_unique hs hu (congrArg ServerPc.map hpc)) hut
    · have hop := ahead_of_teardown hs hpc
      cases op with
      | clearFmtp =>
        cases value with
        | some fmtp => exact absurd hop (h.fmtpAhead fmtp hvalue)
        | none => simp [teardownOp, setFmtp]
      | finalCheck => exact h.fmtp value hvalue
      | storeInactive | forceResync =>
        simpa [teardownOp, setActive, forceResync] using h.fmtp value hvalue
  refine ⟨hactive, hfmtp, h.configured, ?_, ?_⟩
  · exact fun hactive hop => h.activeAhead hactive (hahead _ hop)
  · exact fun fmtp hfmtp hop => h.fmtpAhead fmtp hfmtp (hahead _ hop)

/-! ## The session's own steps -/

variable {pcs : θ → ServerPc κ ι φ} {id : ChannelId} {step step' : SessionStep φ}
  {written written' : Written φ}

omit [DecidableEq κ] [DecidableEq θ] [DecidableEq ι] in
/-- A step that writes nothing to the video state. -/
theorem Undamaged.congr (h : Undamaged s id step written)
    (hpcs : ∀ op, Ahead ⟨m', pcs⟩ id op → Ahead s id op)
    (hactive : (m'.video id).videoActive = (s.memory.video id).videoActive)
    (hfmtp : (m'.video id).videoFmtp = (s.memory.video id).videoFmtp)
    (hconfigured : step'.configured = true → step.configured = true) :
    Undamaged ⟨m', pcs⟩ id step' written where
  active value hvalue := hactive.trans (h.active value hvalue)
  fmtp value hvalue := hfmtp.trans (h.fmtp value hvalue)
  configured hstep := h.configured (hconfigured hstep)
  activeAhead hvalue hop := h.activeAhead hvalue (hpcs _ hop)
  fmtpAhead fmtp hvalue hop := h.fmtpAhead fmtp hvalue (hpcs _ hop)

omit [DecidableEq κ] [DecidableEq θ] [DecidableEq ι] in
/-- A session that writes the video flag. -/
theorem Undamaged.setActive {value : Bool} (h : Undamaged s id step written)
    (hpcs : ∀ op, Ahead ⟨s.memory.setActive id value, pcs⟩ id op → Ahead s id op)
    (hahead : value = true → ¬ Ahead s id .storeInactive)
    (hconfigured : step'.configured = true → step.configured = true) :
    Undamaged ⟨s.memory.setActive id value, pcs⟩ id step'
      { written with active := some value } where
  active value' hvalue' := by
    obtain rfl := Option.some.inj hvalue'
    simp [Server.setActive]
  fmtp value' hvalue' := by
    simpa [Server.setActive] using h.fmtp value' hvalue'
  configured hstep := h.configured (hconfigured hstep)
  activeAhead hvalue' hop := hahead (Option.some.inj hvalue') (hpcs _ hop)
  fmtpAhead fmtp hvalue' hop := h.fmtpAhead fmtp hvalue' (hpcs _ hop)

omit [DecidableEq κ] [DecidableEq θ] [DecidableEq ι] in
/-- A session that writes the parameters. -/
theorem Undamaged.setFmtp {value : Option φ} (h : Undamaged s id step written)
    (hpcs : ∀ op, Ahead ⟨s.memory.setFmtp id value, pcs⟩ id op → Ahead s id op)
    (hahead : ∀ fmtp, value = some fmtp → ¬ Ahead s id .clearFmtp)
    (hconfigured : step'.configured = true → value ≠ none) :
    Undamaged ⟨s.memory.setFmtp id value, pcs⟩ id step' { written with fmtp := some value } where
  active value' hvalue' := by
    simpa [Server.setFmtp] using h.active value' hvalue'
  fmtp value' hvalue' := by
    obtain rfl := Option.some.inj hvalue'
    simp [Server.setFmtp]
  configured hstep := by
    obtain ⟨fmtp, hfmtp⟩ := Option.ne_none_iff_exists'.mp (hconfigured hstep)
    exact ⟨fmtp, congrArg some hfmtp⟩
  activeAhead hvalue' hop := h.activeAhead hvalue' (hpcs _ hop)
  fmtpAhead fmtp hvalue' hop := hahead fmtp (Option.some.inj hvalue') (hpcs _ hop)

omit [DecidableEq κ] [DecidableEq θ] [DecidableEq ι] in
/-- The operation of a message keeps the video state the publisher's own, when nothing
that it turns on is about to be reset. -/
theorem Undamaged.channelOp {op : ChannelOp φ} {ops : List (ChannelOp φ)} {configured : Bool}
    (h : Undamaged s id (.run (op :: ops) configured) written)
    (hpcs : ∀ op', Ahead ⟨s.memory.channelOp id op, pcs⟩ id op' → Ahead s id op')
    (hactive : op = .storeActive true ∨ op = .swapActive → ¬ Ahead s id .storeInactive)
    (hfmtp : ∀ fmtp, op = .configure fmtp → ¬ Ahead s id .clearFmtp) :
    Undamaged ⟨s.memory.channelOp id op, pcs⟩ id (.run ops (op.configured configured))
      (op.written written) := by
  cases op with
  | resetConfiguration =>
    apply h.setFmtp hpcs
    · intro fmtp hnone
      cases hnone
    · intro hconfigured
      cases hconfigured
  | configure fmtp =>
    apply h.setFmtp hpcs
    · intro _ _
      exact hfmtp fmtp rfl
    · intro _
      exact Option.some_ne_none fmtp
  | storeActive value =>
    apply h.setActive hpcs
    · rintro rfl
      exact hactive (.inl rfl)
    · exact fun hconfigured => hconfigured
  | swapActive =>
    apply h.setActive hpcs
    · exact fun _ => hactive (.inr rfl)
    · exact fun hconfigured => hconfigured
  | forceResync =>
    apply h.congr hpcs
    · simp [Server.channelOp, forceResync]
    · simp [Server.channelOp, forceResync]
    · exact fun hconfigured => hconfigured
  | publish => exact h.congr hpcs rfl rfl (fun hconfigured => hconfigured)

/-- A step of the publisher's session that stays in the session. -/
theorem Undamaged.session {key : κ} {ip ip' : ι} (h : Undamaged s id step written)
    (heffect : SessionEffect t s.memory key id ip step written m' (.session step' written' ip'))
    (hpcs : ∀ op, Ahead ⟨m', pcs⟩ id op → Ahead s id op)
    (hundisturbed : ∀ op ops configured, step = .run (op :: ops) configured →
      (op = .storeActive true ∨ op = .swapActive → ¬ Ahead s id .storeInactive) ∧
      (∀ fmtp, op = .configure fmtp → ¬ Ahead s id .clearFmtp)) :
    Undamaged ⟨m', pcs⟩ id step' written' := by
  generalize htask : Task.session step' written' ip' = task at heffect
  cases heffect with
  | startBlock =>
    split at htask <;> cases htask
    exact h.congr hpcs rfl rfl (fun hconfigured => hconfigured)
  | startBlockedIp =>
    split at htask <;> cases htask
    exact h.congr hpcs rfl rfl (fun hconfigured => hconfigured)
  | abandon | leave | kicked => cases htask
  | startFmtp =>
    cases htask
    exact h.setFmtp hpcs (by simp) (by simp [SessionStep.configured])
  | startResync =>
    cases htask
    apply h.congr hpcs
    · simp [forceResync]
    · simp [forceResync]
    · exact fun hconfigured => hconfigured
  | poll =>
    cases htask
    apply h.congr hpcs
    · simp [setNotify]
    · simp [setNotify]
    · intro hconfigured
      split at hconfigured <;> exact hconfigured
  | op =>
    cases htask
    obtain ⟨hactive, hfmtp⟩ := hundisturbed _ _ _ rfl
    exact h.channelOp hpcs hactive hfmtp
  | upgrade | hello | message | spurious | rearm | finish =>
    cases htask
    exact h.congr hpcs rfl rfl (fun hconfigured => hconfigured)

/-! ## Runs -/

omit [DecidableEq κ] [DecidableEq θ] [DecidableEq ι] in
/-- A new session has written nothing. -/
theorem undamaged_nothing (s : Threads θ (Server κ θ ι φ) (ServerPc κ ι φ)) (id : ChannelId) :
    Undamaged s id .upgrade .nothing where
  active _ h := nomatch h
  fmtp _ h := nomatch h
  configured h := nomatch h
  activeAhead h := nomatch h
  fmtpAhead _ h := nomatch h

theorem undamaged_step (hs : (system config listed).Reachable s)
    (h : ∀ t key id step written ip,
      s.pc t = ⟨.holding .publisher key id, .session step written ip⟩ → Undamaged s id step written)
    (hok : Undisturbed s (t, choice))
    (hstep : program config t choice s.memory (s.pc t) = some (m', pc')) {u : θ} {key : κ} {ip : ι}
    (hu : Function.update s.pc t pc' u = ⟨.holding .publisher key id, .session step' written' ip⟩) :
    Undamaged ⟨m', Function.update s.pc t pc'⟩ id step' written' := by
  by_cases hut : u = t
  swap
  · rw [Function.update_of_ne hut] at hu
    exact (h u key id step' written' ip hu).other hs (congrArg ServerPc.map hu) hut hstep
  subst hut
  rw [Function.update_self] at hu
  subst hu
  have hpcs : (s.pc u).map = .holding .publisher key id → ∀ op,
      Ahead ⟨m', Function.update s.pc u ⟨.holding .publisher key id, .session step' written' ip⟩⟩
        id op → Ahead s id op := by
    intro hu op
    exact ahead_of_step hs hstep hu (fun _ => rfl)
  have hcases := step_cases hstep
  generalize hpc : s.pc u = pc at hcases
  obtain ⟨p, task⟩ := pc
  rcases hcases with ⟨call, heffect, -, -⟩ | ⟨heffect, hsame⟩
  · cases heffect
  · dsimp only at heffect hsame
    subst hsame
    generalize htask : Task.session step' written' ip = task' at heffect
    cases heffect with
    | ingestBlock | ingestBlockedIp => split at htask <;> cases htask
    | guarded =>
      cases htask
      exact undamaged_nothing _ id
    | session heffect =>
      subst htask
      have hbefore := h u key id _ _ _ hpc
      refine hbefore.session heffect (hpcs (congrArg ServerPc.map hpc)) ?_
      rintro op ops configured rfl
      exact hok key id op ops configured _ _ hpc
    | _ => cases htask

theorem undamaged_of_run
    (h : (system config listed).Run Undisturbed (system config listed).start s) :
    ∀ t key id step written ip,
      s.pc t = ⟨.holding .publisher key id, .session step written ip⟩ →
        Undamaged s id step written := by
  refine System.Run.invariant_of_reachable (P := fun s => ∀ t key id step written ip,
    s.pc t = ⟨.holding .publisher key id, .session step written ip⟩ →
      Undamaged s id step written) System.Reachable.start h ?_ ?_
  · intro t key id step written ip hpc
    cases hpc
  · rintro s ⟨t, choice⟩ s' hs hinv hok hstep u key id step written ip hu
    obtain ⟨m', pc', hprogram, rfl⟩ := Program.step_eq_some.mp hstep
    exact undamaged_step hs hinv hok hprogram hu

/-- In every state of every run in which no publisher turns video on, or sets its
parameters, while a teardown of its channel has yet to reset them: what listeners see of
the channel is what the publisher wrote last, and the publisher takes its video for
configured only while the channel holds its parameters. -/
theorem teardown_keeps_successor
    (h : (system config listed).Run Undisturbed (system config listed).start s) (t : θ) (key : κ)
    (id : ChannelId) (step : SessionStep φ) (written : Written φ) (ip : ι)
    (hpc : s.pc t = ⟨.holding .publisher key id, .session step written ip⟩) :
    (∀ value, written.active = some value →
      (s.memory.video id).videoActive = value ∧
      s.memory.channelVideoState id = if value then .video else .audioOnly) ∧
    (∀ value, written.fmtp = some value → (s.memory.video id).videoFmtp = value) ∧
    (step.configured = true → ∃ fmtp, written.fmtp = some (some fmtp) ∧
      (s.memory.video id).videoFmtp = some fmtp ∧
      ∀ placeholders, written.active = some true →
        s.memory.rtspVideoDescription placeholders key = (.video, fmtp)) := by
  have hs : (system config listed).Reachable s := h.mono (fun _ _ _ => trivial)
  have hundamaged := undamaged_of_run h t key id step written ip hpc
  obtain ⟨hmapped, hflag⟩ := publisher_mapped hs (congrArg ServerPc.map hpc)
  refine ⟨?_, hundamaged.fmtp, ?_⟩
  · intro value hvalue
    have hactive := hundamaged.active value hvalue
    refine ⟨hactive, ?_⟩
    rw [channelVideoState, hflag, hactive]
    rfl
  · intro hconfigured
    obtain ⟨fmtp, hwritten⟩ := hundamaged.configured hconfigured
    have hfmtp := hundamaged.fmtp _ hwritten
    refine ⟨fmtp, hwritten, hfmtp, ?_⟩
    intro placeholders hon
    have hactive := hundamaged.active _ hon
    simp [rtspVideoDescription, hmapped, channelVideoState, hflag, hactive, hfmtp]

/-! ## Runs of one publisher, and of a publisher and its successor -/

omit [DecidableEq κ] [DecidableEq θ] [DecidableEq ι] in
theorem undisturbed_of_alone (h : ∀ u, u ≠ t → (s.pc u).task = .none) (choice : Choice κ ι φ) :
    Undisturbed s (t, choice) := by
  have hnone : ∀ key id op ops configured written ip,
      s.pc t = ⟨.holding .publisher key id, .session (.run (op :: ops) configured) written ip⟩ →
      ∀ op', ¬ Ahead s id op' := by
    rintro key id op ops configured written ip hpc op' ⟨u, key', ops', ip', hu, -⟩
    by_cases hut : u = t
    · rw [hut, hpc] at hu
      cases hu
    · have := h u hut
      rw [hu] at this
      cases this
  intro key id op ops configured written ip hpc
  exact ⟨fun _ => hnone _ _ _ _ _ _ _ hpc _, fun _ _ => hnone _ _ _ _ _ _ _ hpc _⟩

/-- A thread that runs alone is undisturbed. -/
theorem run_of_exec_alone {choices : List (Choice κ ι φ)}
    (h : (system config listed).exec (system config listed).start
      (choices.map (Prod.mk t)) = some s) :
    (system config listed).Run Undisturbed (system config listed).start s := by
  refine System.run_of_exec (P := fun s => ∀ u, u ≠ t → (s.pc u).task = .none) h
    (fun _ _ => rfl) ?_
  rintro s ⟨u, choice⟩ s' hs hmem hstep
  obtain ⟨choice', -, hlabel⟩ := List.mem_map.mp hmem
  obtain ⟨rfl, rfl⟩ := Prod.mk.inj hlabel
  refine ⟨undisturbed_of_alone hs choice', ?_⟩
  intro u hut
  obtain ⟨m', pc', -, rfl⟩ := Program.step_eq_some.mp hstep
  dsimp only
  rw [Function.update_of_ne hut]
  exact hs u hut

/-- A first keyframe, up to the frame's publication. -/
def keyframeSteps : List (Choice Nat Nat Nat) :=
  [.message (.videoFrame true (some 5)), .advance, .advance]

theorem teardown_keeps_successor_keyframe :
    ∃ s, smallServer.Run Undisturbed smallServer.start s ∧
      s.pc 0 = ⟨.holding .publisher 7 0,
        .session (.run [.publish] true) ⟨some true, some (some 5)⟩ 1⟩ ∧
      s.memory.rtspVideoDescription ⟨0, 1⟩ 7 = (.video, 5) := by
  have hsome : (smallServer.exec smallServer.start
      ((connectSteps 1 8 ++ keyframeSteps).map (Prod.mk 0))).map (fun s => s.pc 0) =
      some ⟨.holding .publisher 7 0,
        .session (.run [.publish] true) ⟨some true, some (some 5)⟩ 1⟩ := by
    decide +kernel
  obtain ⟨s, hexec, hpc⟩ := Option.map_eq_some_iff.mp hsome
  have hrun := run_of_exec_alone hexec
  obtain ⟨-, -, hconfigured⟩ := teardown_keeps_successor hrun 0 7 0 _ _ 1 hpc
  obtain ⟨fmtp, hwritten, -, hseen⟩ := hconfigured rfl
  obtain rfl : 5 = fmtp := Option.some.inj (Option.some.inj hwritten)
  exact ⟨s, hrun, hpc, hseen ⟨0, 1⟩ rfl⟩

/-- A publisher disconnects, up to the release of the flag. -/
def closeSteps : List (Choice Nat Nat Nat) := [.close false, .advance]

/-- The second publisher sends its first keyframe between the release of the flag and the
resets of the first one's teardown. -/
def overtakenSteps : List (Nat × Choice Nat Nat Nat) :=
  (connectSteps 1 8 ++ closeSteps).map (Prod.mk 0) ++
    (connectSteps 2 5 ++ keyframeSteps).map (Prod.mk 1) ++ List.replicate 3 (0, .advance)

/-- Then listeners see no video and no parameters, and the publisher, which has set both,
takes its video for configured. -/
theorem teardown_damages_successor :
    ∃ s, smallServer.Reachable s ∧
      s.pc 1 = ⟨.holding .publisher 7 0,
        .session (.run [.publish] true) ⟨some true, some (some 5)⟩ 2⟩ ∧
      (s.memory.video 0).videoActive = false ∧ (s.memory.video 0).videoFmtp = none ∧
      s.memory.rtspVideoDescription ⟨0, 1⟩ 7 = (.audioOnly, 1) := by
  have hsome : (smallServer.exec smallServer.start overtakenSteps).map (fun s =>
      (s.pc 1, (s.memory.video 0).videoActive, (s.memory.video 0).videoFmtp,
        s.memory.rtspVideoDescription ⟨0, 1⟩ 7)) =
      some (⟨.holding .publisher 7 0,
        .session (.run [.publish] true) ⟨some true, some (some 5)⟩ 2⟩, false, none,
        (.audioOnly, 1)) := by
    decide +kernel
  obtain ⟨s, hexec, hstate⟩ := Option.map_eq_some_iff.mp hsome
  obtain ⟨hpc, hstate⟩ := Prod.mk.inj hstate
  obtain ⟨hactive, hstate⟩ := Prod.mk.inj hstate
  obtain ⟨hfmtp, hseen⟩ := Prod.mk.inj hstate
  exact ⟨s, System.reachable_of_exec hexec, hpc, hactive, hfmtp, hseen⟩

end Server

end VRCStreamer
