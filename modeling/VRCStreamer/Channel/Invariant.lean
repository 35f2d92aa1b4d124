import VRCStreamer.Channel.Effect

/-!
# No split brain and no leak in the channel map

The invariant of the channel map is kept by every effect of a step, so it holds of every
reachable state.
-/

namespace VRCStreamer

open Concurrency

variable {κ θ : Type*}

namespace ChannelMap

/-! ## The invariant -/

/-- The lock is held as the program counters say; each channel counts its holders; who
holds or has looked up an entry finds it in the map, and what a clean-up has checked is
true; entries are allocated and no two keys share one; and each idle channel in the map
has a thread that will reserve it or clean it up. -/
structure Invariant (s : Threads θ (ChannelMap κ θ) (MapPc κ)) : Prop where
  lock : s.memory.lock.HeldBy (fun t => (s.pc t).lock)
  counted : ∀ role id, Counts ((s.memory.channel id).count role)
    (fun t => ∃ key, (s.pc t).holds = some (role, key, id))
  held : ∀ t role key id, (s.pc t).holds = some (role, key, id) →
    s.memory.channels key = some id
  lookedUp : ∀ t key id, (s.pc t).lookedUp = some (key, id) → s.memory.channels key = some id
  checked : ∀ t, (s.pc t).Checked s.memory.channel
  allocated : ∀ key id, s.memory.channels key = some id → id < s.memory.next
  injective : ∀ key key' id, s.memory.channels key = some id →
    s.memory.channels key' = some id → key = key'
  answered : ∀ key id, s.memory.channels key = some id → (s.memory.channel id).Idle →
    ∃ t, (s.pc t).answers = some (key, id)

theorem invariant_start :
    Invariant (⟨empty, fun _ => .idle⟩ : Threads θ (ChannelMap κ θ) (MapPc κ)) where
  lock := RwLock.heldBy_unlocked
  counted role id := by
    have hzero : (Channel.new).count role = 0 := by cases role <;> rfl
    change Counts ((Channel.new).count role) _
    rw [hzero]
    apply counts_zero
    rintro t ⟨key, h⟩
    cases h
  held t role key id h := by cases h
  lookedUp t key id h := by cases h
  checked t := trivial
  allocated key id h := by cases h
  injective key key' id h := by cases h
  answered key id h := by cases h

variable {s : Threads θ (ChannelMap κ θ) (MapPc κ)} {t : θ}

/-- While a thread has the write lock, no other thread is inside. -/
theorem Invariant.lock_eq_none (hs : Invariant s) (hpc : (s.pc t).lock = some .write) {u : θ}
    (hut : u ≠ t) : (s.pc u).lock = none := by
  by_contra hlock
  exact hut (hs.lock.eq_of_write hpc hlock)

theorem Invariant.lookedUp_eq_none (hs : Invariant s) (hpc : (s.pc t).lock = some .write) {u : θ}
    (hut : u ≠ t) : (s.pc u).lookedUp = none := by
  cases hlookedUp : (s.pc u).lookedUp with
  | none => rfl
  | some entry => exact absurd (hs.lock_eq_none hpc hut) (MapPc.lock_of_lookedUp hlookedUp)

/-- While a thread is inside the lock, no other thread relies on a check. -/
theorem Invariant.checked_of_lock (hs : Invariant s) (hpc : (s.pc t).lock ≠ none) {u : θ}
    (hut : u ≠ t) (channel : ChannelId → Channel) : (s.pc u).Checked channel := by
  apply MapPc.checked_of_lock
  intro hwrite
  exact hut (hs.lock.eq_of_write hwrite hpc).symm

/-- Nobody holds a channel that is not in the map. -/
theorem Invariant.not_holds (hs : Invariant s) {id : ChannelId}
    (hid : ∀ key, s.memory.channels key ≠ some id) (u : θ) (role : Role) :
    ¬ ∃ key, (s.pc u).holds = some (role, key, id) := by
  rintro ⟨key, hholds⟩
  exact hid key (hs.held u role key id hholds)

theorem Invariant.not_holds_of_idle (hs : Invariant s) {id : ChannelId}
    (hidle : (s.memory.channel id).Idle) (u : θ) (role : Role) (key : κ) :
    (s.pc u).holds ≠ some (role, key, id) := by
  intro hholds
  have hpos := (hs.counted role id).pos ⟨key, hholds⟩
  rw [hidle role] at hpos
  exact absurd hpos (Nat.lt_irrefl 0)

/-! ## One thread moves -/

section

variable [DecidableEq θ] {pcs : θ → MapPc κ} {pc' : MapPc κ} {channels : κ → Option ChannelId}
variable {n : Nat} {role : Role} {key : κ} {id : ChannelId}

theorem counted_update (h : Counts n (fun u => ∃ key, (pcs u).holds = some (role, key, id)))
    (hsame : (∃ key, pc'.holds = some (role, key, id)) ↔
      ∃ key, (pcs t).holds = some (role, key, id)) :
    Counts n (fun u => ∃ key, (Function.update pcs t pc' u).holds = some (role, key, id)) :=
  h.update_keep (R := fun pc : MapPc κ => ∃ key, pc.holds = some (role, key, id)) hsame

theorem held_update
    (hnew : ∀ role key id, pc'.holds = some (role, key, id) → channels key = some id)
    (hold : ∀ u, u ≠ t → ∀ role key id, (pcs u).holds = some (role, key, id) →
      channels key = some id) (u : θ) :
    ∀ role key id, (Function.update pcs t pc' u).holds = some (role, key, id) →
      channels key = some id :=
  forall_update (P := fun pc : MapPc κ => ∀ role key id,
    pc.holds = some (role, key, id) → channels key = some id) hnew hold

theorem lookedUp_update
    (hnew : ∀ key id, pc'.lookedUp = some (key, id) → channels key = some id)
    (hold : ∀ u, u ≠ t → ∀ key id, (pcs u).lookedUp = some (key, id) → channels key = some id)
    (u : θ) :
    ∀ key id, (Function.update pcs t pc' u).lookedUp = some (key, id) → channels key = some id :=
  forall_update (P := fun pc : MapPc κ => ∀ key id,
    pc.lookedUp = some (key, id) → channels key = some id) hnew hold

/-- Whoever answers for an entry still does, unless it is the thread that moves. -/
theorem answers_update (h : ∃ u, (pcs u).answers = some (key, id))
    (hother : (pcs t).answers = some (key, id) → pc'.answers = some (key, id)) :
    ∃ u, (Function.update pcs t pc' u).answers = some (key, id) := by
  obtain ⟨u, hu⟩ := h
  refine ⟨u, ?_⟩
  by_cases hut : u = t
  · subst hut
    rw [Function.update_self]
    exact hother hu
  · rw [Function.update_of_ne hut]
    exact hu

end

variable [DecidableEq κ] [DecidableEq θ] {limits : Limits} {m m' : ChannelMap κ θ}
  {pc pc' : MapPc κ}

/-! ## Each effect keeps the invariant -/

theorem Invariant.lock_step (hs : Invariant s) (hpc : s.pc t = pc)
    (h : s.memory.advance limits t pc = some (m', pc')) :
    m'.lock.HeldBy (fun u => (Function.update s.pc t pc' u).lock) := by
  have hmode : (fun u => (Function.update s.pc t pc' u).lock) =
      Function.update (fun u => (s.pc u).lock) t pc'.lock := by
    funext u
    exact Function.apply_update (fun _ pc => MapPc.lock pc) s.pc t pc' u
  rw [hmode]
  obtain ⟨hlock, hsame⟩ | ⟨mode, hacquire, hafter⟩ | ⟨mode, hbefore, hrelease, hafter⟩ :=
    lock_cases h
  · rw [hlock, hsame, ← hpc, Function.update_eq_self]
    exact hs.lock
  · rw [hafter]
    exact hs.lock.acquire hacquire
  · rw [hrelease, hafter]
    exact hs.lock.release (hpc ▸ hbefore)

omit [DecidableEq κ] in
theorem Invariant.quiet (hs : Invariant s) (hpc : s.pc t = pc)
    (hchannels : m'.channels = s.memory.channels) (hchannel : m'.channel = s.memory.channel)
    (hnext : m'.next = s.memory.next) (hholds : pc'.holds = pc.holds)
    (hlookedUp : ∀ key id, pc'.lookedUp = some (key, id) → s.memory.channels key = some id)
    (hchecked : pc'.Checked s.memory.channel)
    (hanswers : ∀ key id, pc.answers = some (key, id) → s.memory.channels key = some id →
      (s.memory.channel id).Idle → pc'.answers = some (key, id))
    (hlock : m'.lock.HeldBy (fun u => (Function.update s.pc t pc' u).lock)) :
    Invariant ⟨m', Function.update s.pc t pc'⟩ where
  lock := hlock
  counted role id := by
    simp only [hchannel]
    apply counted_update (hs.counted role id)
    rw [hholds, hpc]
  held := by
    simp only [hchannels]
    refine held_update ?_ (fun u _ => hs.held u)
    rw [hholds, ← hpc]
    exact hs.held t
  lookedUp := by
    simp only [hchannels]
    exact lookedUp_update hlookedUp (fun u _ => hs.lookedUp u)
  checked := by
    simp only [hchannel]
    intro u
    refine forall_update (P := MapPc.Checked s.memory.channel) hchecked ?_
    exact fun u _ => hs.checked u
  allocated := by
    simp only [hchannels, hnext]
    exact hs.allocated
  injective := by
    simp only [hchannels]
    exact hs.injective
  answered := by
    simp only [hchannels, hchannel]
    intro key id hmapped hidle
    apply answers_update (hs.answered key id hmapped hidle)
    rw [hpc]
    exact fun hbefore => hanswers key id hbefore hmapped hidle

omit [DecidableEq κ] in
/-- A reservation is made inside the lock on the entry's channel, so no clean-up is
between its checks and the removal. -/
theorem Invariant.take {mode : LockMode} {role : Role} {key : κ} {id : ChannelId}
    {channel : Channel} (hs : Invariant s) (hpc : s.pc t = .reserve mode role key id)
    (hcount : ∀ role', channel.count role' =
      (s.memory.channel id).count role' + if role' = role then 1 else 0)
    (hlock : s.memory.lock.HeldBy
      (fun u => (Function.update s.pc t (.reserved mode role key id true) u).lock)) :
    Invariant ⟨s.memory.setChannel id channel,
      Function.update s.pc t (.reserved mode role key id true)⟩ where
  lock := hlock
  counted role' id' := by
    simp only [setChannel]
    by_cases hentry : id' = id ∧ role' = role
    · obtain ⟨rfl, rfl⟩ := hentry
      rw [Function.update_self, hcount, if_pos rfl]
      refine (hs.counted role' id').update_gain
        (R := fun pc : MapPc κ => ∃ key, pc.holds = some (role', key, id')) ?_ ⟨key, rfl⟩
      rintro ⟨key', h⟩
      rw [hpc] at h
      cases h
    · have hsame : (Function.update s.memory.channel id channel id').count role' =
          (s.memory.channel id').count role' := by
        by_cases hid : id' = id
        · subst hid
          rw [Function.update_self, hcount, if_neg (fun hrole => hentry ⟨rfl, hrole⟩), Nat.add_zero]
        · rw [Function.update_of_ne hid]
      rw [hsame]
      apply counted_update (hs.counted role' id')
      rw [hpc]
      constructor
      · rintro ⟨key', h⟩
        cases h
        exact absurd ⟨rfl, rfl⟩ hentry
      · rintro ⟨key', h⟩
        cases h
  held := by
    refine held_update ?_ (fun u _ => hs.held u)
    intro role' key' id' h
    cases h
    exact hs.lookedUp t key id (by rw [hpc]; rfl)
  lookedUp := by
    refine lookedUp_update ?_ (fun u _ => hs.lookedUp u)
    intro key' id' h
    cases h
  checked u := by
    refine forall_update (P := MapPc.Checked _) trivial ?_
    exact fun u hut => hs.checked_of_lock (by rw [hpc]; simp [MapPc.lock]) hut _
  allocated := hs.allocated
  injective := hs.injective
  answered key' id' hmapped hidle := by
    by_cases hid : id' = id
    · subst hid
      have htaken := hidle role
      simp only [setChannel, Function.update_self, hcount, if_true] at htaken
      cases htaken
    · simp only [setChannel, Function.update_of_ne hid] at hidle
      apply answers_update (hs.answered key' id' hmapped hidle)
      intro hbefore
      rw [hpc] at hbefore
      cases hbefore
      exact absurd rfl hid

omit [DecidableEq κ] in
/-- A holder that gives the channel up will clean it up. -/
theorem Invariant.give {role : Role} {key : κ} {id : ChannelId}
    (hs : Invariant s) (hbefore : (s.pc t).holds = some (role, key, id))
    (hafter : pc'.holds = none) (hanswers : pc'.answers = some (key, id))
    (hlookedUp : pc'.lookedUp = none) (hchecked : ∀ channel, pc'.Checked channel)
    (hlock : s.memory.lock.HeldBy (fun u => (Function.update s.pc t pc' u).lock)) :
    Invariant ⟨s.memory.setChannel id ((s.memory.channel id).release role),
      Function.update s.pc t pc'⟩ where
  lock := hlock
  counted role' id' := by
    simp only [setChannel]
    by_cases hentry : id' = id ∧ role' = role
    · obtain ⟨rfl, rfl⟩ := hentry
      rw [Function.update_self, Channel.count_release, if_pos rfl]
      refine (hs.counted role' id').update_lose
        (R := fun pc : MapPc κ => ∃ key, pc.holds = some (role', key, id')) ⟨key, hbefore⟩ ?_
      rintro ⟨key', h⟩
      rw [hafter] at h
      cases h
    · have hsame : (Function.update s.memory.channel id
          ((s.memory.channel id).release role) id').count role' =
          (s.memory.channel id').count role' := by
        by_cases hid : id' = id
        · subst hid
          rw [Function.update_self, Channel.count_release,
            if_neg (fun hrole => hentry ⟨rfl, hrole⟩)]
        · rw [Function.update_of_ne hid]
      rw [hsame]
      apply counted_update (hs.counted role' id')
      rw [hafter, hbefore]
      constructor
      · rintro ⟨key', h⟩
        cases h
      · rintro ⟨key', h⟩
        cases h
        exact absurd ⟨rfl, rfl⟩ hentry
  held := by
    refine held_update ?_ (fun u _ => hs.held u)
    intro role' key' id' h
    rw [hafter] at h
    cases h
  lookedUp := by
    refine lookedUp_update ?_ (fun u _ => hs.lookedUp u)
    intro key' id' h
    rw [hlookedUp] at h
    cases h
  checked u := by
    refine forall_update (P := MapPc.Checked _) (hchecked _) ?_
    exact fun u _ => (hs.checked u).release id role
  allocated := hs.allocated
  injective := hs.injective
  answered key' id' hmapped hidle := by
    by_cases hid : id' = id
    · subst hid
      obtain rfl := hs.injective key' key id' hmapped (hs.held t role key id' hbefore)
      exact ⟨t, by simpa using hanswers⟩
    · simp only [setChannel, Function.update_of_ne hid] at hidle
      apply answers_update (hs.answered key' id' hmapped hidle)
      intro hholder
      rw [MapPc.answers_of_holds hbefore] at hholder
      cases hholder

/-- A new entry is made inside the write lock, for a key that nobody holds; the thread
that made it reserves it. -/
theorem Invariant.insert {role : Role} {key : κ} (hs : Invariant s)
    (hpc : s.pc t = .reserveEntry role key) (habsent : s.memory.channels key = none)
    (hlock : s.memory.lock.HeldBy (fun u =>
      (Function.update s.pc t (.reserve .write role key s.memory.next) u).lock)) :
    Invariant ⟨(s.memory.orInsert key).1,
      Function.update s.pc t (.reserve .write role key s.memory.next)⟩ := by
  have hwrite : (s.pc t).lock = some .write := by rw [hpc]; rfl
  have hkept : ∀ key' id', s.memory.channels key' = some id' →
      Function.update s.memory.channels key (some s.memory.next) key' = some id' := by
    intro key' id' hmapped
    have hkey : key' ≠ key := by
      rintro rfl
      rw [habsent] at hmapped
      cases hmapped
    rw [Function.update_of_ne hkey]
    exact hmapped
  have hnew : ∀ key', s.memory.channels key' ≠ some s.memory.next := by
    intro key' hmapped
    exact Nat.lt_irrefl _ (hs.allocated key' _ hmapped)
  have hentry : ∀ key' id', Function.update s.memory.channels key (some s.memory.next) key' =
      some id' → (key' = key ∧ id' = s.memory.next) ∨ s.memory.channels key' = some id' := by
    intro key' id' hmapped
    by_cases hkey : key' = key
    · subst hkey
      rw [Function.update_self] at hmapped
      exact .inl ⟨rfl, (Option.some.inj hmapped).symm⟩
    · rw [Function.update_of_ne hkey] at hmapped
      exact .inr hmapped
  simp only [orInsert, habsent]
  refine ⟨hlock, ?_, ?_, ?_, ?_, ?_, ?_, ?_⟩
  · intro role' id'
    refine counted_update ?_ (by rw [hpc]; exact Iff.rfl)
    dsimp only
    by_cases hid : id' = s.memory.next
    · subst hid
      have hzero : (Channel.new).count role' = 0 := by cases role' <;> rfl
      rw [Function.update_self, hzero]
      exact counts_zero (fun u => hs.not_holds hnew u role')
    · rw [Function.update_of_ne hid]
      exact hs.counted role' id'
  · refine held_update ?_ (fun u _ role' key' id' h => hkept key' id' (hs.held u role' key' id' h))
    intro role' key' id' h
    cases h
  · refine lookedUp_update ?_ (fun u _ key' id' h => hkept key' id' (hs.lookedUp u key' id' h))
    intro key' id' h
    cases h
    exact Function.update_self ..
  · intro u
    refine forall_update (P := MapPc.Checked _) trivial ?_
    exact fun u hut => hs.checked_of_lock (by simp [hwrite]) hut _
  · intro key' id' hmapped
    rcases hentry key' id' hmapped with ⟨-, rfl⟩ | hold
    · exact Nat.lt_succ_self _
    · exact Nat.lt_succ_of_lt (hs.allocated key' id' hold)
  · intro key' key'' id' hmapped hmapped'
    rcases hentry key' id' hmapped with ⟨rfl, rfl⟩ | hold
    · rcases hentry key'' _ hmapped' with ⟨rfl, -⟩ | hold'
      · rfl
      · exact absurd hold' (hnew key'')
    · rcases hentry key'' id' hmapped' with ⟨-, rfl⟩ | hold'
      · exact absurd hold (hnew key')
      · exact hs.injective key' key'' id' hold hold'
  · intro key' id' hmapped hidle
    rcases hentry key' id' hmapped with ⟨rfl, rfl⟩ | hold
    · exact ⟨t, by simp [MapPc.answers]⟩
    · have hid : id' ≠ s.memory.next := by
        rintro rfl
        exact hnew key' hold
      simp only [Function.update_of_ne hid] at hidle
      apply answers_update (hs.answered key' id' hold hidle)
      intro hbefore
      rw [hpc] at hbefore
      cases hbefore

/-- A removal is made inside the write lock, of an entry whose channel nobody holds. -/
theorem Invariant.remove {key : κ} {id : ChannelId} (hs : Invariant s)
    (hpc : s.pc t = .cleanup .remove key id)
    (hlock : s.memory.lock.HeldBy
      (fun u => (Function.update s.pc t (.cleanup .drop key id) u).lock)) :
    Invariant ⟨s.memory.remove key, Function.update s.pc t (.cleanup .drop key id)⟩ := by
  have hwrite : (s.pc t).lock = some .write := by rw [hpc]; rfl
  have hmapped : s.memory.channels key = some id := hs.lookedUp t key id (by rw [hpc]; rfl)
  have hidle : (s.memory.channel id).Idle := by
    have := hs.checked t
    rwa [hpc] at this
  have hentry : ∀ key' id', Function.update s.memory.channels key none key' = some id' →
      key' ≠ key ∧ s.memory.channels key' = some id' := by
    intro key' id' h
    have hkey : key' ≠ key := by
      rintro rfl
      rw [Function.update_self] at h
      cases h
    rw [Function.update_of_ne hkey] at h
    exact ⟨hkey, h⟩
  refine ⟨hlock, ?_, ?_, ?_, ?_, ?_, ?_, ?_⟩
  · intro role' id'
    apply counted_update (hs.counted role' id')
    rw [hpc]
    exact Iff.rfl
  · refine held_update ?_ ?_
    · intro role' key' id' h
      cases h
    · intro u _ role' key' id' h
      have hheld := hs.held u role' key' id' h
      have hkey : key' ≠ key := by
        rintro rfl
        obtain rfl := Option.some.inj (hmapped.symm.trans hheld)
        exact hs.not_holds_of_idle hidle u role' key' h
      exact (Function.update_of_ne hkey _ _).trans hheld
  · refine lookedUp_update ?_ ?_
    · intro key' id' h
      cases h
    · intro u hut key' id' h
      rw [hs.lookedUp_eq_none hwrite hut] at h
      cases h
  · intro u
    refine forall_update (P := MapPc.Checked _) trivial ?_
    exact fun u hut => hs.checked_of_lock (by simp [hwrite]) hut _
  · intro key' id' h
    exact hs.allocated key' id' (hentry key' id' h).2
  · intro key' key'' id' h h'
    exact hs.injective key' key'' id' (hentry key' id' h).2 (hentry key'' id' h').2
  · intro key' id' h hidle'
    obtain ⟨hkey, hold⟩ := hentry key' id' h
    apply answers_update (hs.answered key' id' hold hidle')
    intro hbefore
    rw [hpc] at hbefore
    cases hbefore
    exact absurd rfl hkey

theorem Invariant.advance (hs : Invariant s)
    (h : s.memory.advance limits t (s.pc t) = some (m', pc')) :
    Invariant ⟨m', Function.update s.pc t pc'⟩ := by
  have hlock := hs.lock_step rfl h
  have heffect := effect_of_advance h (hs.lookedUp t) (hs.checked t)
  generalize hpc : s.pc t = pc at heffect
  cases heffect with
  | quiet channels channel next holds lookedUp checked answers =>
    exact hs.quiet hpc channels channel next holds lookedUp checked answers hlock
  | take counted => exact hs.take hpc counted hlock
  | give before after answers lookedUp checked =>
    exact hs.give (hpc ▸ before) after answers lookedUp checked hlock
  | insert absent => exact hs.insert hpc absent (by simpa using hlock)
  | remove => exact hs.remove hpc hlock

theorem program_some_eq_some {call : MapCall κ} :
    program limits t (some call) m pc = some (m', pc') ↔
      pc = .idle ∧ m' = m ∧ pc' = call.enter := by
  cases pc <;> simp [program, eq_comm]

omit [DecidableEq κ] in
/-- A call begins outside the lock, holding nothing. -/
theorem Invariant.enter (hs : Invariant s) (hpc : s.pc t = .idle) (call : MapCall κ) :
    Invariant ⟨s.memory, Function.update s.pc t call.enter⟩ := by
  refine hs.quiet hpc rfl rfl rfl ?_ ?_ ?_ (fun _ _ h => nomatch h) ?_
  · cases call <;> rfl
  · intro key id h
    cases call <;> cases h
  · cases call <;> trivial
  · have hmode : (fun u => (Function.update s.pc t call.enter u).lock) =
        fun u => (s.pc u).lock := by
      funext u
      rw [Function.apply_update (fun _ pc => MapPc.lock pc)]
      have hsame : call.enter.lock = (s.pc t).lock := by
        rw [hpc]
        cases call <;> rfl
      rw [hsame]
      exact congrFun (Function.update_eq_self t (fun u => (s.pc u).lock)) u
    rw [hmode]
    exact hs.lock

theorem invariant_of_reachable (h : (system limits).Reachable s) : Invariant s := by
  refine h.invariant invariant_start ?_
  rintro s ⟨t, choice⟩ s' hs hstep
  obtain ⟨m', pc', hprogram, rfl⟩ := Program.step_eq_some.mp hstep
  cases choice with
  | none => exact hs.advance hprogram
  | some call =>
    obtain ⟨hidle, rfl, rfl⟩ := program_some_eq_some.mp hprogram
    exact hs.enter hidle call

/-- While another thread is inside the lock, a step does not change the map. -/
theorem Invariant.channels_eq (hs : Invariant s) {choice : Option (MapCall κ)}
    (h : program limits t choice s.memory (s.pc t) = some (m', pc')) {u : θ} (hut : u ≠ t)
    (hu : (s.pc u).lock ≠ none) : m'.channels = s.memory.channels := by
  cases choice with
  | some call =>
    obtain ⟨-, rfl, -⟩ := program_some_eq_some.mp h
    rfl
  | none =>
    have hwriter : (s.pc t).lock ≠ some .write := by
      intro hwrite
      exact hu (hs.lock_eq_none hwrite hut)
    have heffect := effect_of_advance h (hs.lookedUp t) (hs.checked t)
    generalize s.pc t = pc at heffect hwriter
    cases heffect with
    | quiet channels => exact channels
    | take | give => rfl
    | insert | remove => exact absurd rfl hwriter

/-- In every reachable state, under any interleaving of publishers, listeners and
clean-ups: the streamer flag and the listener count of a channel stand for its holders;
whoever holds a channel for a key holds the one in the map; at most one thread holds the
streamer flag of a key; and once no operation is in progress the map has exactly the
channels with a publisher or a listener, each under the key of its holders. -/
theorem noSplitBrain_noLeak (h : (system limits).Reachable s) :
    (∀ id, ((s.memory.channel id).streamer = true ↔
        ∃ t key, (s.pc t).holds = some (.publisher, key, id)) ∧
      Counts (s.memory.channel id).listeners
        (fun t => ∃ key, (s.pc t).holds = some (.listener, key, id))) ∧
    (∀ t role key id, (s.pc t).holds = some (role, key, id) →
      s.memory.channels key = some id) ∧
    (∀ t u key id id', (s.pc t).holds = some (.publisher, key, id) →
      (s.pc u).holds = some (.publisher, key, id') → t = u) ∧
    ((∀ t, (s.pc t).Quiescent) →
      (∀ key id, s.memory.channels key = some id ↔ ∃ t role, s.pc t = .holding role key id) ∧
      ∀ id, (∃ key, s.memory.channels key = some id) ↔
        (s.memory.channel id).streamer = true ∨ (s.memory.channel id).listeners ≠ 0) := by
  have hs := invariant_of_reachable h
  have hpublisher : ∀ id, (s.memory.channel id).streamer = true ↔
      ∃ t key, (s.pc t).holds = some (.publisher, key, id) := by
    intro id
    have hcount := hs.counted .publisher id
    constructor
    · intro hstreamer
      exact hcount.exists_of_pos (by simp [Channel.count, hstreamer])
    · rintro ⟨t, hholds⟩
      simpa [Channel.count, Nat.pos_iff_ne_zero] using hcount.pos hholds
  refine ⟨fun id => ⟨hpublisher id, hs.counted .listener id⟩, hs.held, ?_, ?_⟩
  · intro t u key id id' ht hu
    obtain rfl := Option.some.inj ((hs.held t _ key id ht).symm.trans (hs.held u _ key id' hu))
    exact (hs.counted .publisher id).eq_of_le_one (Channel.count_publisher_le _) ⟨key, ht⟩ ⟨key, hu⟩
  · intro hquiescent
    have hused : ∀ key id, s.memory.channels key = some id → ¬ (s.memory.channel id).Idle := by
      intro key id hmapped hidle
      obtain ⟨t, ht⟩ := hs.answered key id hmapped hidle
      cases (MapPc.answers_of_quiescent (hquiescent t)).symm.trans ht
    constructor
    · intro key id
      constructor
      · intro hmapped
        obtain ⟨role, hrole⟩ := not_forall.mp (hused key id hmapped)
        obtain ⟨t, key', hholds⟩ := (hs.counted role id).exists_of_pos (Nat.pos_of_ne_zero hrole)
        obtain rfl := hs.injective key key' id hmapped (hs.held t role key' id hholds)
        exact ⟨t, role, MapPc.eq_holding_of_quiescent (hquiescent t) hholds⟩
      · rintro ⟨t, role, hpc⟩
        exact hs.held t role key id (by rw [hpc]; rfl)
    · intro id
      constructor
      · rintro ⟨key, hmapped⟩
        have := mt Channel.idle_iff.mpr (hused key id hmapped)
        rw [not_and_or, Bool.not_eq_false] at this
        exact this
      · rintro (hstreamer | hlisteners)
        · obtain ⟨t, key, hholds⟩ := (hpublisher id).mp hstreamer
          exact ⟨key, hs.held t _ key id hholds⟩
        · obtain ⟨t, key, hholds⟩ :=
            (hs.counted .listener id).exists_of_pos (Nat.pos_of_ne_zero hlisteners)
          exact ⟨key, hs.held t _ key id hholds⟩

/-- A publisher and then a listener of one key, each up to its guard. -/
def publishThenListen : List (Nat × Option (MapCall Nat)) :=
  (0, some (.publish 7)) :: List.replicate 8 (0, none) ++
    (1, some (.listen 7)) :: List.replicate 5 (1, none)

def smallMap : System (Threads Nat (ChannelMap Nat Nat) (MapPc Nat)) (Nat × Option (MapCall Nat)) :=
  system ⟨1, 1, 1⟩

theorem noSplitBrain_noLeak_publishThenListen :
    ∃ s, smallMap.Reachable s ∧
      (s.pc 0).holds = some (.publisher, 7, 0) ∧ (s.pc 1).holds = some (.listener, 7, 0) ∧
      s.memory.channels 7 = some 0 := by
  have hsome : (smallMap.exec smallMap.start publishThenListen).map (fun s =>
      ((s.pc 0).holds, (s.pc 1).holds)) =
      some (some (.publisher, 7, 0), some (.listener, 7, 0)) := by
    decide
  obtain ⟨s, hexec, hpcs⟩ := Option.map_eq_some_iff.mp hsome
  obtain ⟨hpublisher, hlistener⟩ := Prod.mk.inj hpcs
  have hreachable := System.reachable_of_exec hexec
  exact ⟨s, hreachable, hpublisher, hlistener,
    (noSplitBrain_noLeak hreachable).2.1 1 .listener 7 0 hlistener⟩

end ChannelMap

end VRCStreamer
