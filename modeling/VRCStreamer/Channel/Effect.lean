import VRCStreamer.Channel.Map

/-!
# What a step does to the channel map

Every step of a thread leaves the lock of the map as it is, enters it or leaves it, and
has one of five effects on the map and its channels, whatever it does to the server's
counters.
-/

namespace VRCStreamer

open Concurrency

variable {κ θ : Type*}

namespace Channel

variable {channel : Channel} {limits : Limits} {role role' : Role}

/-- Neither a publisher nor a listener is counted. -/
def Idle (channel : Channel) : Prop := ∀ role, channel.count role = 0

theorem idle_iff : channel.Idle ↔ channel.streamer = false ∧ channel.listeners = 0 := by
  constructor
  · intro h
    exact ⟨Bool.toNat_eq_zero.mp (h .publisher), h .listener⟩
  · rintro ⟨hstreamer, hlisteners⟩ role
    cases role with
    | publisher => simp [count, hstreamer]
    | listener => exact hlisteners

theorem not_idle_of_streamer (h : channel.streamer = true) : ¬ channel.Idle := by
  intro hidle
  cases h.symm.trans (idle_iff.mp hidle).1

theorem not_idle_of_listeners (h : channel.listeners ≠ 0) : ¬ channel.Idle :=
  fun hidle => h (idle_iff.mp hidle).2

theorem count_publisher_le (channel : Channel) : channel.count .publisher ≤ 1 :=
  Bool.toNat_le _

theorem limitAllows_zero (limit : Nat) : limitAllows limit 0 = true := by
  cases limit <;> simp [limitAllows]

/-- A reservation succeeds and counts one holder more, or it finds the channel in use. -/
theorem reserve_cases (limits : Limits) (role : Role) (channel : Channel) :
    ((channel.reserve limits role).1 = true ∧
      ∀ role', (channel.reserve limits role).2.count role' =
        channel.count role' + if role' = role then 1 else 0) ∨
    (channel.reserve limits role = (false, channel) ∧ ¬ channel.Idle) := by
  cases role with
  | publisher =>
    rw [reserve]
    by_cases hfree : channel.streamer = false
    · left
      rw [if_pos hfree]
      refine ⟨rfl, ?_⟩
      intro role'
      cases role' <;> simp [count, hfree]
    · right
      rw [if_neg hfree]
      exact ⟨rfl, fun hidle => hfree (idle_iff.mp hidle).1⟩
  | listener =>
    rw [reserve]
    by_cases hallowed : limitAllows limits.maxListenersPerStream channel.listeners = true
    · left
      rw [if_pos hallowed]
      refine ⟨rfl, ?_⟩
      intro role'
      cases role' <;> simp [count]
    · right
      rw [if_neg hallowed]
      refine ⟨rfl, fun hidle => hallowed ?_⟩
      rw [(idle_iff.mp hidle).2]
      exact limitAllows_zero _

theorem count_release :
    (channel.release role).count role' =
      if role' = role then channel.count role' - 1 else channel.count role' := by
  cases role <;> cases role' <;> simp [release, count]
  cases channel.streamer <;> rfl

theorem streamer_release (h : channel.streamer = false) :
    (channel.release role).streamer = false := by
  cases role with
  | publisher => rfl
  | listener => exact h

theorem Idle.release (h : channel.Idle) : (channel.release role).Idle := by
  intro role'
  rw [count_release, h role', Nat.zero_sub, ite_self]

end Channel

namespace MapPc

/-- The channel the thread will still clean up or reserve. -/
def answers : MapPc κ → Option (κ × ChannelId)
  | .reserve _ _ key id | .uncount _ key id => some (key, id)
  | .cleanup .drop .. => none
  | .cleanup _ key id => some (key, id)
  | _ => none

/-- The entry of the map that a thread inside the lock has looked up. -/
def lookedUp : MapPc κ → Option (κ × ChannelId)
  | .reserve _ _ key id => some (key, id)
  | .cleanup .reloadStreamer key id | .cleanup .reloadListeners key id
  | .cleanup .remove key id => some (key, id)
  | _ => none

/-- What a clean-up that holds the write lock has found out so far. -/
def Checked (channel : ChannelId → Channel) : MapPc κ → Prop
  | .cleanup .reloadListeners _ id => (channel id).streamer = false
  | .cleanup .remove _ id => (channel id).Idle
  | _ => True

variable {pc : MapPc κ} {role : Role} {key : κ} {id : ChannelId}

/-- A holder has nothing to clean up yet. -/
theorem answers_of_holds (h : pc.holds = some (role, key, id)) : pc.answers = none := by
  cases pc with
  | reserve | uncount | cleanup => cases h
  | _ => rfl

theorem answers_of_quiescent (h : pc.Quiescent) : pc.answers = none := by
  cases pc with
  | idle | holding => rfl
  | _ => exact h.elim

theorem eq_holding_of_quiescent (h : pc.Quiescent) (hholds : pc.holds = some (role, key, id)) :
    pc = .holding role key id := by
  cases pc with
  | idle => cases hholds
  | holding =>
    cases hholds
    rfl
  | _ => exact h.elim

theorem lock_of_lookedUp (h : pc.lookedUp = some (key, id)) : pc.lock ≠ none := by
  cases pc with
  | reserve => simp [lock]
  | cleanup step => cases step <;> simp [lookedUp, lock] at h ⊢
  | _ => simp [lookedUp] at h

/-- A clean-up that has checked something is inside the write lock. -/
theorem checked_of_lock (h : pc.lock ≠ some .write) (channel : ChannelId → Channel) :
    pc.Checked channel := by
  cases pc with
  | cleanup step key id =>
    cases step with
    | reloadListeners | remove => exact absurd rfl h
    | _ => trivial
  | _ => trivial

/-- A holder less on some channel does not touch what has been checked. -/
theorem Checked.release {channel : ChannelId → Channel} (h : pc.Checked channel)
    (id : ChannelId) (role : Role) :
    pc.Checked (Function.update channel id ((channel id).release role)) := by
  cases pc with
  | cleanup step key id' =>
    cases step with
    | reloadListeners =>
      by_cases hid : id' = id
      · subst hid
        simpa [Checked] using Channel.streamer_release h
      · simpa [Checked, hid] using h
    | remove =>
      by_cases hid : id' = id
      · subst hid
        simpa [Checked] using Channel.Idle.release h
      · simpa [Checked, hid] using h
    | _ => trivial
  | _ => trivial

end MapPc

namespace ChannelMap

variable {t : θ} [DecidableEq κ] [DecidableEq θ] {limits : Limits} {m m' : ChannelMap κ θ}
  {pc pc' : MapPc κ}

/-! ## The lock -/

omit [DecidableEq κ] in
theorem acquire_eq_some {mode : LockMode} {after : MapPc κ} :
    m.acquire mode t after = some (m', pc') ↔
      ∃ lock, m.lock.acquire mode t = some lock ∧ m' = { m with lock } ∧ pc' = after := by
  rw [acquire, Option.map_eq_some_iff]
  constructor
  · rintro ⟨lock, hlock, heq⟩
    obtain ⟨rfl, rfl⟩ := Prod.mk.inj heq
    exact ⟨lock, hlock, rfl, rfl⟩
  · rintro ⟨lock, hlock, rfl, rfl⟩
    exact ⟨lock, hlock, rfl⟩

omit [DecidableEq θ] in
@[simp] theorem orInsert_lock (m : ChannelMap κ θ) (key : κ) :
    (m.orInsert key).1.lock = m.lock := by
  rw [orInsert]
  cases m.channels key <;> rfl

omit [DecidableEq κ] [DecidableEq θ] in
@[simp] theorem uncount_lock (m : ChannelMap κ θ) (role : Role) :
    (m.uncount role).lock = m.lock := by
  cases role <;> rfl

omit [DecidableEq κ] in
@[simp] theorem afterReserve_lock (role : Role) (key : κ) (id : ChannelId) (ok : Bool) :
    (afterReserve role key id ok).lock = none := by
  cases role <;> cases ok <;> rfl

/-- A step leaves the lock as it is, enters it or leaves it. -/
theorem lock_cases (h : m.advance limits t pc = some (m', pc')) :
    (m'.lock = m.lock ∧ pc'.lock = pc.lock) ∨
    (∃ mode, m.lock.acquire mode t = some m'.lock ∧ pc'.lock = some mode) ∨
    (∃ mode, pc.lock = some mode ∧ m'.lock = m.lock.release mode t ∧ pc'.lock = none) := by
  cases pc with
  | idle => cases h
  | scanRead | reserveRead | reserveWrite =>
    obtain ⟨lock, hlock, rfl, rfl⟩ := acquire_eq_some.mp h
    exact .inr (.inl ⟨_, hlock, rfl⟩)
  | scan | reserveMissing =>
    obtain ⟨rfl, rfl⟩ := Prod.mk.inj (Option.some.inj h)
    exact .inr (.inr ⟨.read, rfl, rfl, rfl⟩)
  | reserved mode role key id ok =>
    obtain ⟨rfl, rfl⟩ := Prod.mk.inj (Option.some.inj h)
    exact .inr (.inr ⟨mode, rfl, rfl, afterReserve_lock role key id ok⟩)
  | countListener key =>
    rw [advance] at h
    split at h <;>
    · obtain ⟨rfl, rfl⟩ := Prod.mk.inj (Option.some.inj h)
      exact .inl ⟨rfl, rfl⟩
  | countStreamer key id =>
    rw [advance] at h
    split at h <;>
    · obtain ⟨rfl, rfl⟩ := Prod.mk.inj (Option.some.inj h)
      exact .inl ⟨rfl, rfl⟩
  | reserveGet role key =>
    rw [advance] at h
    split at h <;>
    · obtain ⟨rfl, rfl⟩ := Prod.mk.inj (Option.some.inj h)
      exact .inl ⟨rfl, rfl⟩
  | reserveEntry role key =>
    obtain ⟨rfl, rfl⟩ := Prod.mk.inj (Option.some.inj h)
    exact .inl ⟨orInsert_lock m key, rfl⟩
  | uncount role key id =>
    obtain ⟨rfl, rfl⟩ := Prod.mk.inj (Option.some.inj h)
    exact .inl ⟨uncount_lock m role, rfl⟩
  | reserve | refuseStreamer | holding =>
    obtain ⟨rfl, rfl⟩ := Prod.mk.inj (Option.some.inj h)
    exact .inl ⟨rfl, rfl⟩
  | cleanup step key id =>
    cases step with
    | write =>
      obtain ⟨lock, hlock, rfl, rfl⟩ := acquire_eq_some.mp h
      exact .inr (.inl ⟨_, hlock, rfl⟩)
    | drop =>
      obtain ⟨rfl, rfl⟩ := Prod.mk.inj (Option.some.inj h)
      exact .inr (.inr ⟨.write, rfl, rfl, rfl⟩)
    | _ =>
      obtain ⟨rfl, rfl⟩ := Prod.mk.inj (Option.some.inj h)
      refine .inl ⟨rfl, ?_⟩
      first
        | rfl
        | (split <;> rfl)

/-! ## The channels -/

/-- The effects of a step on the map and its channels: none, one holder more or less of
a channel, a new entry for a key without one, or the removal of a checked entry. -/
inductive Effect (limits : Limits) (m : ChannelMap κ θ) :
    MapPc κ → ChannelMap κ θ → MapPc κ → Prop
  | quiet {pc pc' : MapPc κ} {m' : ChannelMap κ θ} (channels : m'.channels = m.channels)
      (channel : m'.channel = m.channel) (next : m'.next = m.next)
      (holds : pc'.holds = pc.holds)
      (lookedUp : ∀ key id, pc'.lookedUp = some (key, id) → m.channels key = some id)
      (checked : pc'.Checked m.channel)
      (answers : ∀ key id, pc.answers = some (key, id) → m.channels key = some id →
        (m.channel id).Idle → pc'.answers = some (key, id)) :
      Effect limits m pc m' pc'
  | take {mode : LockMode} {role : Role} {key : κ} {id : ChannelId}
      (counted : ∀ role', ((m.channel id).reserve limits role).2.count role' =
        (m.channel id).count role' + if role' = role then 1 else 0) :
      Effect limits m (.reserve mode role key id)
        (m.setChannel id ((m.channel id).reserve limits role).2) (.reserved mode role key id true)
  | give {pc pc' : MapPc κ} {role : Role} {key : κ} {id : ChannelId}
      (before : pc.holds = some (role, key, id))
      (after : pc'.holds = none) (answers : pc'.answers = some (key, id))
      (lookedUp : pc'.lookedUp = none) (checked : ∀ channel, pc'.Checked channel) :
      Effect limits m pc (m.setChannel id ((m.channel id).release role)) pc'
  | insert {role : Role} {key : κ} (absent : m.channels key = none) :
      Effect limits m (.reserveEntry role key) (m.orInsert key).1 (.reserve .write role key m.next)
  | remove {key : κ} {id : ChannelId} :
      Effect limits m (.cleanup .remove key id) (m.remove key) (.cleanup .drop key id)

omit [DecidableEq θ] in
theorem effect_reserve (limits : Limits) (m : ChannelMap κ θ) (mode : LockMode) (role : Role)
    (key : κ) (id : ChannelId) :
    Effect limits m (.reserve mode role key id)
      (m.setChannel id ((m.channel id).reserve limits role).2)
      (.reserved mode role key id ((m.channel id).reserve limits role).1) := by
  rcases Channel.reserve_cases limits role (m.channel id) with ⟨hok, hcount⟩ | ⟨hsame, hused⟩
  · rw [hok]
    exact .take hcount
  · rw [hsame]
    have hunchanged : (m.setChannel id (m.channel id)).channel = m.channel :=
      Function.update_eq_self id m.channel
    refine .quiet rfl hunchanged rfl rfl ?_ trivial ?_
    · intro key' id' h
      cases h
    · intro key' id' h _ hidle
      obtain ⟨rfl, rfl⟩ := Prod.mk.inj (Option.some.inj h)
      exact absurd hidle hused

omit [DecidableEq θ] in
/-- A clean-up gives up a channel that is in use. -/
theorem effect_inUse {step : CleanupStep} {key : κ} {id : ChannelId}
    (hused : ¬ (m.channel id).Idle) (hholds : pc'.holds = none) (hlookedUp : pc'.lookedUp = none)
    (hchecked : pc'.Checked m.channel) :
    Effect limits m (.cleanup step key id) m pc' := by
  refine .quiet rfl rfl rfl hholds ?_ hchecked ?_
  · intro key' id' h
    cases hlookedUp.symm.trans h
  · intro key' id' h _ hidle
    have hsame : id' = id := by
      cases step <;> cases h <;> rfl
    exact absurd hidle (hsame ▸ hused)

/-- The operations of a clean-up before the removal change nothing. A clean-up gives up
only when the channel is in use or no longer in the map. -/
theorem effect_cleanup {step : CleanupStep} {key : κ} {id : ChannelId}
    (h : m.cleanup t key id step = some (m', pc'))
    (hlookedUp : ∀ key' id', (MapPc.cleanup step key id).lookedUp = some (key', id') →
      m.channels key' = some id')
    (hchecked : (MapPc.cleanup step key id).Checked m.channel) :
    Effect limits m (.cleanup step key id) m' pc' := by
  cases step with
  | loadStreamer =>
    obtain ⟨rfl, rfl⟩ := Prod.mk.inj (Option.some.inj h)
    by_cases hstreamer : (m.channel id).streamer = true
    · rw [if_pos hstreamer]
      exact effect_inUse (Channel.not_idle_of_streamer hstreamer) rfl rfl trivial
    · rw [if_neg hstreamer]
      exact .quiet rfl rfl rfl rfl (fun _ _ h => nomatch h) trivial (fun _ _ h _ _ => h)
  | loadListeners =>
    obtain ⟨rfl, rfl⟩ := Prod.mk.inj (Option.some.inj h)
    by_cases hlisteners : (m.channel id).listeners ≠ 0
    · rw [if_pos hlisteners]
      exact effect_inUse (Channel.not_idle_of_listeners hlisteners) rfl rfl trivial
    · rw [if_neg hlisteners]
      exact .quiet rfl rfl rfl rfl (fun _ _ h => nomatch h) trivial (fun _ _ h _ _ => h)
  | write =>
    obtain ⟨lock, -, rfl, rfl⟩ := acquire_eq_some.mp h
    exact .quiet rfl rfl rfl rfl (fun _ _ h => nomatch h) trivial (fun _ _ h _ _ => h)
  | get =>
    obtain ⟨rfl, rfl⟩ := Prod.mk.inj (Option.some.inj h)
    by_cases hget : m.channels key = some id
    · rw [if_pos hget]
      refine .quiet rfl rfl rfl rfl ?_ trivial (fun _ _ h _ _ => h)
      intro key' id' hkey
      obtain ⟨rfl, rfl⟩ := Prod.mk.inj (Option.some.inj hkey)
      exact hget
    · rw [if_neg hget]
      refine .quiet rfl rfl rfl rfl (fun _ _ h => nomatch h) trivial ?_
      intro key' id' hkey hmapped
      obtain ⟨rfl, rfl⟩ := Prod.mk.inj (Option.some.inj hkey)
      exact absurd hmapped hget
  | reloadStreamer =>
    obtain ⟨rfl, rfl⟩ := Prod.mk.inj (Option.some.inj h)
    by_cases hstreamer : (m.channel id).streamer = true
    · rw [if_pos hstreamer]
      exact effect_inUse (Channel.not_idle_of_streamer hstreamer) rfl rfl trivial
    · rw [if_neg hstreamer]
      have hfree : (m.channel id).streamer = false := Bool.eq_false_iff.mpr hstreamer
      exact .quiet rfl rfl rfl rfl hlookedUp hfree (fun _ _ h _ _ => h)
  | reloadListeners =>
    obtain ⟨rfl, rfl⟩ := Prod.mk.inj (Option.some.inj h)
    by_cases hlisteners : (m.channel id).listeners = 0
    · rw [if_pos hlisteners]
      have hidle : (m.channel id).Idle := Channel.idle_iff.mpr ⟨hchecked, hlisteners⟩
      exact .quiet rfl rfl rfl rfl hlookedUp hidle (fun _ _ h _ _ => h)
    · rw [if_neg hlisteners]
      exact effect_inUse (Channel.not_idle_of_listeners hlisteners) rfl rfl trivial
  | remove =>
    obtain ⟨rfl, rfl⟩ := Prod.mk.inj (Option.some.inj h)
    exact .remove
  | drop =>
    obtain ⟨rfl, rfl⟩ := Prod.mk.inj (Option.some.inj h)
    exact .quiet rfl rfl rfl rfl (fun _ _ h => nomatch h) trivial (fun _ _ h => nomatch h)

theorem effect_of_advance (h : m.advance limits t pc = some (m', pc'))
    (hlookedUp : ∀ key id, pc.lookedUp = some (key, id) → m.channels key = some id)
    (hchecked : pc.Checked m.channel) : Effect limits m pc m' pc' := by
  cases pc with
  | idle => cases h
  | scanRead | reserveRead | reserveWrite =>
    obtain ⟨lock, -, rfl, rfl⟩ := acquire_eq_some.mp h
    exact .quiet rfl rfl rfl rfl (fun _ _ h => nomatch h) trivial (fun _ _ h => nomatch h)
  | scan | reserveMissing =>
    obtain ⟨rfl, rfl⟩ := Prod.mk.inj (Option.some.inj h)
    exact .quiet rfl rfl rfl rfl (fun _ _ h => nomatch h) trivial (fun _ _ h => nomatch h)
  | countListener key =>
    rw [advance] at h
    split at h <;>
    · obtain ⟨rfl, rfl⟩ := Prod.mk.inj (Option.some.inj h)
      exact .quiet rfl rfl rfl rfl (fun _ _ h => nomatch h) trivial (fun _ _ h => nomatch h)
  | reserveGet role key =>
    rw [advance] at h
    split at h
    next id hget =>
      obtain ⟨rfl, rfl⟩ := Prod.mk.inj (Option.some.inj h)
      refine .quiet rfl rfl rfl rfl ?_ trivial (fun _ _ h => nomatch h)
      intro key' id' hkey
      obtain ⟨rfl, rfl⟩ := Prod.mk.inj (Option.some.inj hkey)
      exact hget
    next =>
      obtain ⟨rfl, rfl⟩ := Prod.mk.inj (Option.some.inj h)
      exact .quiet rfl rfl rfl rfl (fun _ _ h => nomatch h) trivial (fun _ _ h => nomatch h)
  | reserveEntry role key =>
    obtain ⟨rfl, rfl⟩ := Prod.mk.inj (Option.some.inj h)
    cases hget : m.channels key with
    | none =>
      have hinsert : Effect limits m (.reserveEntry role key) (m.orInsert key).1
          (.reserve .write role key m.next) := .insert hget
      simpa only [orInsert, hget] using hinsert
    | some id =>
      simp only [orInsert, hget]
      refine .quiet rfl rfl rfl rfl ?_ trivial (fun _ _ h => nomatch h)
      intro key' id' hkey
      obtain ⟨rfl, rfl⟩ := Prod.mk.inj (Option.some.inj hkey)
      exact hget
  | reserve mode role key id =>
    obtain ⟨rfl, rfl⟩ := Prod.mk.inj (Option.some.inj h)
    exact effect_reserve limits m mode role key id
  | reserved mode role key id ok =>
    obtain ⟨rfl, rfl⟩ := Prod.mk.inj (Option.some.inj h)
    refine .quiet rfl rfl rfl ?_ ?_ ?_ (fun _ _ h => nomatch h)
    · cases role <;> cases ok <;> rfl
    · intro key' id' hkey
      cases role <;> cases ok <;> cases hkey
    · cases role <;> cases ok <;> trivial
  | countStreamer key id =>
    rw [advance] at h
    split at h <;>
    · obtain ⟨rfl, rfl⟩ := Prod.mk.inj (Option.some.inj h)
      exact .quiet rfl rfl rfl rfl (fun _ _ h => nomatch h) trivial (fun _ _ h => nomatch h)
  | refuseStreamer | holding =>
    obtain ⟨rfl, rfl⟩ := Prod.mk.inj (Option.some.inj h)
    exact .give rfl rfl rfl rfl (fun _ => trivial)
  | uncount role key id =>
    obtain ⟨rfl, rfl⟩ := Prod.mk.inj (Option.some.inj h)
    refine .quiet ?_ ?_ ?_ rfl (fun _ _ h => nomatch h) trivial (fun _ _ h _ _ => h)
    all_goals cases role <;> rfl
  | cleanup step key id => exact effect_cleanup h hlookedUp hchecked

end ChannelMap

end VRCStreamer
