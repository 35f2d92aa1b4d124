import VRCStreamer.Channel.Invariant

/-!
# The server's counters of streamers and listeners

`active_streamers` and `active_listeners` count threads between an increment and a decrement of
their own. Neither they nor the listeners of a channel pass their limits.
-/

namespace VRCStreamer

open Concurrency

/-- A limit of zero is no limit. -/
def Within (limit n : Nat) : Prop := limit = 0 ∨ n ≤ limit

namespace Within

variable {limit n n' : Nat}

theorem zero : Within limit 0 := .inr (Nat.zero_le limit)

theorem mono (h : Within limit n) (hle : n' ≤ n) : Within limit n' := by
  obtain hnone | hwithin := h
  · exact .inl hnone
  · exact .inr (hle.trans hwithin)

theorem succ_of_limitAllows (h : limitAllows limit n = true) : Within limit (n + 1) := by
  simp only [limitAllows, Bool.or_eq_true, beq_iff_eq, decide_eq_true_eq] at h
  exact h

end Within

variable {κ θ : Type*}

def Limits.active (limits : Limits) : Role → Nat
  | .publisher => limits.maxStreamers
  | .listener => limits.maxListenersTotal

/-- The server counts the thread: as a listener from the first step of `subscribe_listener` on,
as a streamer only once it has the channel. -/
def MapPc.counted : MapPc κ → Option Role
  | .reserveRead .listener _ | .reserveGet .listener _ | .reserveMissing .listener _ |
    .reserveWrite .listener _ | .reserveEntry .listener _ | .reserve _ .listener _ _ |
    .reserved _ .listener _ _ _ => some .listener
  | .holding role _ _ | .uncount role _ _ => some role
  | _ => none

namespace ChannelMap

def active (m : ChannelMap κ θ) : Role → Nat
  | .publisher => m.activeStreamers
  | .listener => m.activeListeners

variable [DecidableEq κ] [DecidableEq θ] {limits : Limits} {t : θ} {m m' : ChannelMap κ θ}
variable {pc pc' : MapPc κ}

def ChannelsWithin (limits : Limits) (m : ChannelMap κ θ) : Prop :=
  ∀ id, Within limits.maxListenersPerStream (m.channel id).listeners

omit [DecidableEq κ] [DecidableEq θ] in
theorem ChannelsWithin.setChannel (h : m.ChannelsWithin limits) (id : ChannelId) {channel : Channel}
    (hchannel : Within limits.maxListenersPerStream channel.listeners) :
    (m.setChannel id channel).ChannelsWithin limits := by
  intro id'
  by_cases hid : id' = id
  · subst hid
    simpa [ChannelMap.setChannel] using hchannel
  · simpa [ChannelMap.setChannel, hid] using h id'

theorem within_reserve (role : Role) {channel : Channel}
    (h : Within limits.maxListenersPerStream channel.listeners) :
    Within limits.maxListenersPerStream (channel.reserve limits role).2.listeners := by
  cases role with
  | publisher =>
    rw [Channel.reserve]
    split <;> exact h
  | listener =>
    rw [Channel.reserve]
    split
    next hallowed => exact .succ_of_limitAllows hallowed
    next => exact h

theorem within_release (role : Role) {channel : Channel}
    (h : Within limits.maxListenersPerStream channel.listeners) :
    Within limits.maxListenersPerStream (channel.release role).listeners := by
  cases role with
  | publisher => exact h
  | listener => exact h.mono (Nat.sub_le _ _)

theorem ChannelsWithin.advance (h : m.ChannelsWithin limits)
    (hstep : m.advance limits t pc = some (m', pc')) : m'.ChannelsWithin limits := by
  cases pc with
  | idle => cases hstep
  | scanRead | reserveRead | reserveWrite =>
    obtain ⟨lock, -, hstep⟩ := Option.map_eq_some_iff.mp hstep
    obtain ⟨rfl, rfl⟩ := Prod.mk.inj hstep
    exact h
  | scan | reserveMissing | reserved =>
    obtain ⟨rfl, rfl⟩ := Prod.mk.inj (Option.some.inj hstep)
    exact h
  | countListener | countStreamer | reserveGet =>
    rw [ChannelMap.advance] at hstep
    split at hstep <;>
    · obtain ⟨rfl, rfl⟩ := Prod.mk.inj (Option.some.inj hstep)
      exact h
  | reserveEntry role key =>
    obtain ⟨rfl, rfl⟩ := Prod.mk.inj (Option.some.inj hstep)
    rw [orInsert]
    split
    next => exact h
    next => exact h.setChannel m.next .zero
  | reserve mode role key id =>
    obtain ⟨rfl, rfl⟩ := Prod.mk.inj (Option.some.inj hstep)
    exact h.setChannel id (within_reserve role (h id))
  | refuseStreamer key id =>
    obtain ⟨rfl, rfl⟩ := Prod.mk.inj (Option.some.inj hstep)
    exact h.setChannel id (within_release .publisher (h id))
  | holding role key id =>
    obtain ⟨rfl, rfl⟩ := Prod.mk.inj (Option.some.inj hstep)
    exact h.setChannel id (within_release role (h id))
  | uncount role key id =>
    obtain ⟨rfl, rfl⟩ := Prod.mk.inj (Option.some.inj hstep)
    cases role <;> exact h
  | cleanup step key id =>
    cases step with
    | write =>
      obtain ⟨lock, -, hstep⟩ := Option.map_eq_some_iff.mp hstep
      obtain ⟨rfl, rfl⟩ := Prod.mk.inj hstep
      exact h
    | _ =>
      obtain ⟨rfl, rfl⟩ := Prod.mk.inj (Option.some.inj hstep)
      exact h

/-! ## Every run -/

variable {s : Threads θ (ChannelMap κ θ) (MapPc κ)}

end ChannelMap

end VRCStreamer
