import VRCStreamer.Channel.Effect

/-!
# The functions of the channel map without interleaving

`reserve_channel`, `cleanup_channel`, `subscribe_listener` and the drop of a
`ListenerGuard`, each as one function of the map. A thread of the concurrent program that
finds the lock free and is not disturbed computes these functions.
-/

namespace VRCStreamer

open Concurrency

namespace ChannelMap

variable {κ θ : Type*} [DecidableEq κ]

/-- `reserve_channel` with the update of a role on a channel that is in the map. -/
def reserveIn (limits : Limits) (role : Role) (m : ChannelMap κ θ) (id : ChannelId) :
    ChannelMap κ θ × ChannelId × Bool :=
  (m.setChannel id ((m.channel id).reserve limits role).2, id,
    ((m.channel id).reserve limits role).1)

def reserveChannel (limits : Limits) (role : Role) (m : ChannelMap κ θ) (key : κ) :
    ChannelMap κ θ × ChannelId × Bool :=
  match m.channels key with
  | some id => m.reserveIn limits role id
  | none => (m.orInsert key).1.reserveIn limits role (m.orInsert key).2

def cleanupChannel (m : ChannelMap κ θ) (key : κ) (id : ChannelId) : ChannelMap κ θ :=
  if (m.channel id).streamer ∨ (m.channel id).listeners ≠ 0 then m
  else if m.channels key = some id then m.remove key
  else m

/-- `subscribe_listener`: the channel of the listener's guard, or none for a refusal. -/
def subscribeListener (limits : Limits) (m : ChannelMap κ θ) (key : κ) :
    ChannelMap κ θ × Option ChannelId :=
  if limitAllows limits.maxListenersTotal m.activeListeners then
    match ({ m with activeListeners := m.activeListeners + 1 }).reserveChannel limits .listener key with
    | (m, id, true) => (m, some id)
    | (m, id, false) => ((m.uncount .listener).cleanupChannel key id, none)
  else (m, none)

/-- `ListenerGuard::drop`. -/
def dropListener (m : ChannelMap κ θ) (key : κ) (id : ChannelId) : ChannelMap κ θ :=
  ((m.setChannel id ((m.channel id).release .listener)).uncount .listener).cleanupChannel key id

variable {limits : Limits} {role : Role} {m m' : ChannelMap κ θ} {key : κ} {id : ChannelId}

theorem cleanupChannel_of_not_idle (h : ¬ (m.channel id).Idle) : m.cleanupChannel key id = m := by
  rw [Channel.idle_iff, not_and_or] at h
  rw [cleanupChannel, if_pos]
  simpa using h

/-- A refused reservation has found a channel in use and has changed nothing. -/
theorem reserveChannel_refused (h : m.reserveChannel limits role key = (m', id, false)) :
    m' = m ∧ ¬ (m.channel id).Idle := by
  rw [reserveChannel] at h
  cases hkey : m.channels key with
  | none =>
    have hnew : (m.orInsert key).1.channel (m.orInsert key).2 = .new := by
      simp [orInsert, hkey]
    simp only [hkey, reserveIn, hnew, Prod.mk.injEq] at h
    rcases Channel.reserve_cases limits role .new with ⟨hok, -⟩ | ⟨-, hidle⟩
    · rw [hok] at h
      exact absurd h.2.2 (by simp)
    · exact absurd (Channel.idle_iff.mpr ⟨rfl, rfl⟩) hidle
  | some found =>
    simp only [hkey, reserveIn, Prod.mk.injEq] at h
    obtain ⟨rfl, rfl, hrefused⟩ := h
    rcases Channel.reserve_cases limits role (m.channel found) with ⟨hok, -⟩ | ⟨hsame, hidle⟩
    · rw [hok] at hrefused
      exact absurd hrefused (by simp)
    · rw [hsame]
      exact ⟨by simp [setChannel], hidle⟩

theorem reserveChannel_mapped {ok : Bool} (h : m.reserveChannel limits role key = (m', id, ok)) :
    m'.channels key = some id := by
  rw [reserveChannel] at h
  cases hkey : m.channels key with
  | none =>
    simp only [hkey, reserveIn, Prod.mk.injEq] at h
    obtain ⟨rfl, rfl, -⟩ := h
    simp [orInsert, hkey, setChannel]
  | some found =>
    simp only [hkey, reserveIn, Prod.mk.injEq] at h
    obtain ⟨rfl, rfl, -⟩ := h
    exact hkey

/-- A subscription either holds the channel that the map then has for the key, or it
leaves the map and its counters as they were: a channel without room for a listener has
listeners, so the clean-up keeps it. -/
theorem subscribeListener_cases (limits : Limits) (m : ChannelMap κ θ) (key : κ) :
    (∃ m' id, m.subscribeListener limits key = (m', some id) ∧ m'.channels key = some id) ∨
    m.subscribeListener limits key = (m, none) := by
  rw [subscribeListener]
  by_cases hallowed : limitAllows limits.maxListenersTotal m.activeListeners = true
  · rw [if_pos hallowed]
    split
    · next m' id hreserved =>
      left
      exact ⟨m', id, rfl, reserveChannel_mapped hreserved⟩
    · next m' id hrefused =>
      right
      obtain ⟨rfl, hidle⟩ := reserveChannel_refused hrefused
      have hback : uncount { m with activeListeners := m.activeListeners + 1 } .listener = m := rfl
      have hkept : m.cleanupChannel key id = m := cleanupChannel_of_not_idle hidle
      rw [hback, hkept]
  · right
    rw [if_neg hallowed]

/-! ## One thread of the concurrent program -/

section

variable [DecidableEq θ] {t : θ} {mode : LockMode} {pc pc' : MapPc κ}

/-- The map with its lock held by one thread. -/
def locked (m : ChannelMap κ θ) (mode : LockMode) (t : θ) : ChannelMap κ θ :=
  { m with lock := match mode with
      | .read => ⟨{t}, none⟩
      | .write => ⟨∅, some t⟩ }

omit [DecidableEq κ] in
theorem acquire_unlocked (hlock : m.lock = .unlocked) :
    m.acquire mode t pc = some (m.locked mode t, pc) := by
  cases mode <;> simp [acquire, locked, hlock, RwLock.acquire, RwLock.unlocked]

omit [DecidableEq κ] in
theorem release_locked (hlock : m.lock = .unlocked) : (m.locked mode t).release mode t = m := by
  obtain ⟨channels, lock, channel, next, streamers, listeners⟩ := m
  dsimp only at hlock
  subst hlock
  cases mode <;> simp [release, locked, RwLock.release, RwLock.unlocked]

omit [DecidableEq θ] in
theorem orInsert_locked :
    (m.locked mode t).orInsert key = ((m.orInsert key).1.locked mode t, (m.orInsert key).2) := by
  simp only [orInsert, locked]
  cases m.channels key <;> rfl

theorem solo_advance {last : ChannelMap κ θ × MapPc κ}
    (h : m.advance limits t pc = some (m', pc'))
    (hrest : (program limits).Solo t (m', pc') last) : (program limits).Solo t (m, pc) last := by
  refine Program.Solo.head (a := none) ?_ hrest
  cases pc <;> exact h

/-- A clean-up by a thread that is not disturbed is `cleanupChannel`. -/
theorem cleanupChannel_solo (hlock : m.lock = .unlocked) :
    (program limits).Solo t (m, .cleanup .loadStreamer key id)
      (m.cleanupChannel key id, .idle) := by
  by_cases hstreamer : (m.channel id).streamer = true
  · have hload : m.advance limits t (.cleanup .loadStreamer key id) = some (m, .idle) := by
      simp [advance, cleanup, hstreamer]
    have hkept : m.cleanupChannel key id = m := by simp [cleanupChannel, hstreamer]
    rw [hkept]
    exact solo_advance hload Relation.ReflTransGen.refl
  have hload : m.advance limits t (.cleanup .loadStreamer key id) =
      some (m, .cleanup .loadListeners key id) := by simp [advance, cleanup, hstreamer]
  apply solo_advance hload
  by_cases hlisteners : (m.channel id).listeners = 0
  swap
  · have hload : m.advance limits t (.cleanup .loadListeners key id) = some (m, .idle) := by
      simp [advance, cleanup, hlisteners]
    have hkept : m.cleanupChannel key id = m := by simp [cleanupChannel, hlisteners]
    rw [hkept]
    exact solo_advance hload Relation.ReflTransGen.refl
  have hload : m.advance limits t (.cleanup .loadListeners key id) =
      some (m, .cleanup .write key id) := by simp [advance, cleanup, hlisteners]
  have hwrite : m.advance limits t (.cleanup .write key id) =
      some (m.locked .write t, .cleanup .get key id) := acquire_unlocked hlock
  apply solo_advance hload
  apply solo_advance hwrite
  by_cases hmapped : m.channels key = some id
  · have hget : (m.locked .write t).advance limits t (.cleanup .get key id) =
        some (m.locked .write t, .cleanup .reloadStreamer key id) := by
      simp [advance, cleanup, locked, hmapped]
    have hreload : (m.locked .write t).advance limits t (.cleanup .reloadStreamer key id) =
        some (m.locked .write t, .cleanup .reloadListeners key id) := by
      simp [advance, cleanup, locked, hstreamer]
    have hreload' : (m.locked .write t).advance limits t (.cleanup .reloadListeners key id) =
        some (m.locked .write t, .cleanup .remove key id) := by
      simp [advance, cleanup, locked, hlisteners]
    have hremove : (m.locked .write t).advance limits t (.cleanup .remove key id) =
        some ((m.remove key).locked .write t, .cleanup .drop key id) := rfl
    have hdrop : ((m.remove key).locked .write t).advance limits t (.cleanup .drop key id) =
        some (m.remove key, .idle) := by
      have hrelease : ((m.remove key).locked .write t).release .write t = m.remove key :=
        release_locked hlock
      simp [advance, cleanup, hrelease]
    have hcleaned : m.cleanupChannel key id = m.remove key := by
      simp [cleanupChannel, hstreamer, hlisteners, hmapped]
    rw [hcleaned]
    exact solo_advance hget (solo_advance hreload (solo_advance hreload'
      (solo_advance hremove (solo_advance hdrop Relation.ReflTransGen.refl))))
  · have hget : (m.locked .write t).advance limits t (.cleanup .get key id) =
        some (m.locked .write t, .cleanup .drop key id) := by
      simp [advance, cleanup, locked, hmapped]
    have hdrop : (m.locked .write t).advance limits t (.cleanup .drop key id) =
        some (m, .idle) := by
      have hrelease : (m.locked .write t).release .write t = m := release_locked hlock
      simp [advance, cleanup, hrelease]
    have hkept : m.cleanupChannel key id = m := by
      simp [cleanupChannel, hmapped]
    rw [hkept]
    exact solo_advance hget (solo_advance hdrop Relation.ReflTransGen.refl)

/-- The reservation of a channel that is in the map, under the lock in either mode. -/
theorem reserveIn_solo (hlock : m.lock = .unlocked) (mode : LockMode) (role : Role) (key : κ)
    (id : ChannelId) :
    (program limits).Solo t (m.locked mode t, .reserve mode role key id)
      ((m.reserveIn limits role id).1,
        afterReserve role key id (m.reserveIn limits role id).2.2) := by
  have hreserve : (m.locked mode t).advance limits t (.reserve mode role key id) =
      some ((m.reserveIn limits role id).1.locked mode t,
        .reserved mode role key id (m.reserveIn limits role id).2.2) := rfl
  have hrelease : ((m.reserveIn limits role id).1.locked mode t).release mode t =
      (m.reserveIn limits role id).1 := release_locked hlock
  have hreserved : ((m.reserveIn limits role id).1.locked mode t).advance limits t
      (.reserved mode role key id (m.reserveIn limits role id).2.2) =
      some ((m.reserveIn limits role id).1,
        afterReserve role key id (m.reserveIn limits role id).2.2) := by
    simp [advance, hrelease]
  exact solo_advance hreserve (solo_advance hreserved Relation.ReflTransGen.refl)

/-- `reserve_channel` by a thread that is not disturbed is `reserveChannel`: it finds the
channel under the read lock, or it enters a new one under the write lock. -/
theorem reserveChannel_solo (hlock : m.lock = .unlocked) (role : Role) (key : κ) :
    (program limits).Solo t (m, .reserveRead role key)
      ((m.reserveChannel limits role key).1,
        afterReserve role key (m.reserveChannel limits role key).2.1
          (m.reserveChannel limits role key).2.2) := by
  have hread : m.advance limits t (.reserveRead role key) =
      some (m.locked .read t, .reserveGet role key) := acquire_unlocked hlock
  apply solo_advance hread
  rw [reserveChannel]
  cases hkey : m.channels key with
  | some found =>
    have hget : (m.locked .read t).advance limits t (.reserveGet role key) =
        some (m.locked .read t, .reserve .read role key found) := by
      simp [advance, locked, hkey]
    exact solo_advance hget (reserveIn_solo hlock .read role key found)
  | none =>
    have hget : (m.locked .read t).advance limits t (.reserveGet role key) =
        some (m.locked .read t, .reserveMissing role key) := by
      simp [advance, locked, hkey]
    have hmissing : (m.locked .read t).advance limits t (.reserveMissing role key) =
        some (m, .reserveWrite role key) := by
      have hrelease : (m.locked .read t).release .read t = m := release_locked hlock
      simp [advance, hrelease]
    have hwrite : m.advance limits t (.reserveWrite role key) =
        some (m.locked .write t, .reserveEntry role key) := acquire_unlocked hlock
    have hentry : (m.locked .write t).advance limits t (.reserveEntry role key) =
        some ((m.orInsert key).1.locked .write t,
          .reserve .write role key (m.orInsert key).2) := by
      simp [advance, orInsert_locked]
    have hlock' : (m.orInsert key).1.lock = .unlocked := by rw [orInsert_lock, hlock]
    exact solo_advance hget (solo_advance hmissing (solo_advance hwrite
      (solo_advance hentry (reserveIn_solo hlock' .write role key _))))

/-- Where a listener's thread stands after its subscription. -/
def subscribed (key : κ) : Option ChannelId → MapPc κ
  | some id => .holding .listener key id
  | none => .idle

/-- A listener's thread that is not disturbed computes `subscribeListener`. -/
theorem subscribeListener_solo (hlock : m.lock = .unlocked) (key : κ) :
    (program limits).Solo t (m, .idle)
      ((m.subscribeListener limits key).1, subscribed key (m.subscribeListener limits key).2) := by
  have henter : program limits t (some (.listen key)) m .idle = some (m, .countListener key) := rfl
  refine Program.Solo.head henter ?_
  rw [subscribeListener]
  by_cases hallowed : limitAllows limits.maxListenersTotal m.activeListeners = true
  · rw [if_pos hallowed]
    have hcount : m.advance limits t (.countListener key) =
        some ({ m with activeListeners := m.activeListeners + 1 }, .reserveRead .listener key) := by
      simp [advance, hallowed]
    apply solo_advance hcount
    have hreserve : (program limits).Solo t
        ({ m with activeListeners := m.activeListeners + 1 }, .reserveRead .listener key) _ :=
      reserveChannel_solo (m := { m with activeListeners := m.activeListeners + 1 })
        hlock .listener key
    split
    · next m' id hreserved =>
      rw [hreserved] at hreserve
      exact hreserve
    · next m' id hrefused =>
      rw [hrefused] at hreserve
      obtain ⟨rfl, -⟩ := reserveChannel_refused hrefused
      refine Relation.ReflTransGen.trans hreserve ?_
      exact solo_advance rfl (cleanupChannel_solo hlock)
  · rw [if_neg hallowed]
    have hrefused : m.advance limits t (.countListener key) = some (m, .idle) := by
      simp [advance, hallowed]
    exact solo_advance hrefused Relation.ReflTransGen.refl

/-- A listener's thread that drops its guard and is not disturbed computes `dropListener`. -/
theorem dropListener_solo (hlock : m.lock = .unlocked) (key : κ) (id : ChannelId) :
    (program limits).Solo t (m, .holding .listener key id) (m.dropListener key id, .idle) := by
  have hrelease : m.advance limits t (.holding .listener key id) =
      some (m.setChannel id ((m.channel id).release .listener), .uncount .listener key id) := rfl
  apply solo_advance hrelease
  exact solo_advance rfl (cleanupChannel_solo hlock)

end

/-- From a state with a free lock, the concurrent system can run one idle thread through
its whole subscription, and the map is then as `subscribeListener` computes it. -/
theorem subscribeListener_run [DecidableEq θ] {s : Threads θ (ChannelMap κ θ) (MapPc κ)} {t : θ}
    (hidle : s.pc t = .idle) (hlock : s.memory.lock = .unlocked) (key : κ) :
    (system limits).Run (fun _ a => a.1 = t) s
      ⟨(s.memory.subscribeListener limits key).1,
        Function.update s.pc t (subscribed key (s.memory.subscribeListener limits key).2)⟩ := by
  have hsolo : (program limits).Solo t (s.memory, .idle) _ := subscribeListener_solo hlock key
  rw [← hidle] at hsolo
  exact hsolo.run

end ChannelMap

end VRCStreamer
