import VRCStreamer.Concurrency.RwLock

/-!
# The channel map

`AppState::channels` with `reserve_channel` and `cleanup_channel` of `main.rs` and their
callers: a publisher in `websocket.rs`, from the reservation in `ingest_ws` to the drop
of its `StreamerGuard`, and a listener in `rtsp.rs`, from `subscribe_listener` to the
drop of its `ListenerGuard`.

Threads interleave between any two atomic operations: a load, a store or an update of an
atomic, and an operation on the map under its lock. A program counter names the next
operation of its thread and holds the local variables that are still used.
-/

namespace VRCStreamer

open Concurrency

/-- The limits of `Config` that reservations check; zero means no limit. -/
structure Limits where
  maxStreamers : Nat
  maxListenersTotal : Nat
  maxListenersPerStream : Nat

def limitAllows (limit current : Nat) : Bool := limit == 0 || current < limit

/-- The two ways to hold a channel. -/
inductive Role
  | publisher
  | listener
deriving DecidableEq

/-- The fields of a `Channel` that reservations and clean-ups use. The counter is a
number of live guards, so it stays far below the end of `usize`. -/
structure Channel where
  streamer : Bool
  listeners : Nat
deriving DecidableEq

namespace Channel

def new : Channel := ⟨false, 0⟩

/-- How many holders of a role the channel counts. -/
def count : Role → Channel → Nat
  | .publisher, channel => channel.streamer.toNat
  | .listener, channel => channel.listeners

/-- The atomic update that a caller hands to `reserve_channel`: the compare-exchange on
the streamer flag, or the bounded increment of the listeners. -/
def reserve (limits : Limits) : Role → Channel → Bool × Channel
  | .publisher, channel =>
    if channel.streamer = false then (true, { channel with streamer := true })
    else (false, channel)
  | .listener, channel =>
    if limitAllows limits.maxListenersPerStream channel.listeners then
      (true, { channel with listeners := channel.listeners + 1 })
    else (false, channel)

/-- `streamer.store(false)`, or `listeners.fetch_sub(1)`. -/
def release : Role → Channel → Channel
  | .publisher, channel => { channel with streamer := false }
  | .listener, channel => { channel with listeners := channel.listeners - 1 }

end Channel

/-- The identity of an `Arc<Channel>`. -/
abbrev ChannelId := Nat

/-- The shared state: the map under its lock, the channel objects, and the server's
counters. Objects from `next` on are not allocated yet. -/
structure ChannelMap (κ θ : Type*) where
  channels : κ → Option ChannelId
  lock : RwLock θ
  channel : ChannelId → Channel
  next : ChannelId
  activeStreamers : Nat
  activeListeners : Nat

/-- The steps of `cleanup_channel`, each named by the operation to come. -/
inductive CleanupStep
  | loadStreamer
  | loadListeners
  | write
  | get
  | reloadStreamer
  | reloadListeners
  | remove
  | drop
deriving DecidableEq

/-- Where a thread stands. `reserve` and `reserved` hold the lock in the given mode. -/
inductive MapPc (κ : Type*)
  | idle
  | scanRead
  | scan
  | countListener (key : κ)
  | reserveRead (role : Role) (key : κ)
  | reserveGet (role : Role) (key : κ)
  | reserveMissing (role : Role) (key : κ)
  | reserveWrite (role : Role) (key : κ)
  | reserveEntry (role : Role) (key : κ)
  | reserve (mode : LockMode) (role : Role) (key : κ) (channel : ChannelId)
  | reserved (mode : LockMode) (role : Role) (key : κ) (channel : ChannelId) (ok : Bool)
  | countStreamer (key : κ) (channel : ChannelId)
  | refuseStreamer (key : κ) (channel : ChannelId)
  | holding (role : Role) (key : κ) (channel : ChannelId)
  | uncount (role : Role) (key : κ) (channel : ChannelId)
  | cleanup (step : CleanupStep) (key : κ) (channel : ChannelId)
deriving DecidableEq

/-- What an idle thread may begin: a publisher, a listener, a clean-up by whoever holds
a channel, or a look into the map under the read lock. -/
inductive MapCall (κ : Type*)
  | publish (key : κ)
  | listen (key : κ)
  | cleanup (key : κ) (channel : ChannelId)
  | scan
deriving DecidableEq

def MapCall.enter {κ : Type*} : MapCall κ → MapPc κ
  | .publish key => .reserveRead .publisher key
  | .listen key => .countListener key
  | .cleanup key channel => .cleanup .loadStreamer key channel
  | .scan => .scanRead

namespace ChannelMap

variable {κ θ : Type*} [DecidableEq κ] [DecidableEq θ]

def empty : ChannelMap κ θ := ⟨fun _ => none, .unlocked, fun _ => .new, 0, 0, 0⟩

def acquire (m : ChannelMap κ θ) (mode : LockMode) (t : θ) (pc : MapPc κ) :
    Option (ChannelMap κ θ × MapPc κ) :=
  (m.lock.acquire mode t).map (fun lock => ({ m with lock }, pc))

def release (m : ChannelMap κ θ) (mode : LockMode) (t : θ) : ChannelMap κ θ :=
  { m with lock := m.lock.release mode t }

def setChannel (m : ChannelMap κ θ) (id : ChannelId) (channel : Channel) : ChannelMap κ θ :=
  { m with channel := Function.update m.channel id channel }

/-- `entry(key).or_insert_with(|| Arc::new(Channel::new(..)))`. -/
def orInsert (m : ChannelMap κ θ) (key : κ) : ChannelMap κ θ × ChannelId :=
  match m.channels key with
  | some id => (m, id)
  | none =>
    ({ m with
        channels := Function.update m.channels key (some m.next)
        channel := Function.update m.channel m.next .new
        next := m.next + 1 }, m.next)

def remove (m : ChannelMap κ θ) (key : κ) : ChannelMap κ θ :=
  { m with channels := Function.update m.channels key none }

/-- `active_streamers.fetch_sub(1)` or `active_listeners.fetch_sub(1)`. -/
def uncount (m : ChannelMap κ θ) : Role → ChannelMap κ θ
  | .publisher => { m with activeStreamers := m.activeStreamers - 1 }
  | .listener => { m with activeListeners := m.activeListeners - 1 }

/-- The next atomic operation of `cleanup_channel`. -/
def cleanup (m : ChannelMap κ θ) (t : θ) (key : κ) (id : ChannelId) :
    CleanupStep → Option (ChannelMap κ θ × MapPc κ)
  | .loadStreamer =>
    some (m, if (m.channel id).streamer then .idle else .cleanup .loadListeners key id)
  | .loadListeners =>
    some (m, if (m.channel id).listeners ≠ 0 then .idle else .cleanup .write key id)
  | .write => m.acquire .write t (.cleanup .get key id)
  | .get =>
    some (m, .cleanup (if m.channels key = some id then .reloadStreamer else .drop) key id)
  | .reloadStreamer =>
    some (m, .cleanup (if (m.channel id).streamer then .drop else .reloadListeners) key id)
  | .reloadListeners =>
    some (m, .cleanup (if (m.channel id).listeners = 0 then .remove else .drop) key id)
  | .remove => some (m.remove key, .cleanup .drop key id)
  | .drop => some (m.release .write t, .idle)

/-- What a thread does once `reserve_channel` has returned: a publisher that lost the
compare-exchange answers 409, a refused listener takes its count back. -/
def afterReserve (role : Role) (key : κ) (id : ChannelId) (ok : Bool) : MapPc κ :=
  match role, ok with
  | .publisher, false => .idle
  | .publisher, true => .countStreamer key id
  | .listener, false => .uncount .listener key id
  | .listener, true => .holding .listener key id

/-- The next atomic operation of a thread. -/
def advance (limits : Limits) (t : θ) (m : ChannelMap κ θ) :
    MapPc κ → Option (ChannelMap κ θ × MapPc κ)
  | .idle => none
  | .scanRead => m.acquire .read t .scan
  | .scan => some (m.release .read t, .idle)
  | .countListener key =>
    if limitAllows limits.maxListenersTotal m.activeListeners then
      some ({ m with activeListeners := m.activeListeners + 1 }, .reserveRead .listener key)
    else some (m, .idle)
  | .reserveRead role key => m.acquire .read t (.reserveGet role key)
  | .reserveGet role key =>
    match m.channels key with
    | some id => some (m, .reserve .read role key id)
    | none => some (m, .reserveMissing role key)
  | .reserveMissing role key => some (m.release .read t, .reserveWrite role key)
  | .reserveWrite role key => m.acquire .write t (.reserveEntry role key)
  | .reserveEntry role key =>
    some ((m.orInsert key).1, .reserve .write role key (m.orInsert key).2)
  | .reserve mode role key id =>
    some (m.setChannel id ((m.channel id).reserve limits role).2,
      .reserved mode role key id ((m.channel id).reserve limits role).1)
  | .reserved mode role key id ok => some (m.release mode t, afterReserve role key id ok)
  | .countStreamer key id =>
    if limitAllows limits.maxStreamers m.activeStreamers then
      some ({ m with activeStreamers := m.activeStreamers + 1 }, .holding .publisher key id)
    else some (m, .refuseStreamer key id)
  | .refuseStreamer key id =>
    some (m.setChannel id ((m.channel id).release .publisher), .cleanup .loadStreamer key id)
  | .holding role key id =>
    some (m.setChannel id ((m.channel id).release role), .uncount role key id)
  | .uncount role key id => some (m.uncount role, .cleanup .loadStreamer key id)
  | .cleanup step key id => m.cleanup t key id step

/-- An idle thread begins a call; any other thread does its next operation. A holder's
next operation is the first one of its guard's drop. -/
def program (limits : Limits) : Program θ (ChannelMap κ θ) (MapPc κ) (Option (MapCall κ)) :=
  fun t choice m pc =>
    match choice, pc with
    | some call, .idle => some (m, call.enter)
    | some _, _ => none
    | none, pc => m.advance limits t pc

/-- Any threads, all idle, over the empty map. -/
def system (limits : Limits) :
    System (Threads θ (ChannelMap κ θ) (MapPc κ)) (θ × Option (MapCall κ)) :=
  (program limits).system empty .idle

end ChannelMap

/-! ## What a program counter says about its thread -/

namespace MapPc

variable {κ : Type*}

/-- The mode in which the thread is inside the lock of the map. -/
def lock : MapPc κ → Option LockMode
  | .scan | .reserveGet .. | .reserveMissing .. => some .read
  | .reserveEntry .. => some .write
  | .reserve mode .. | .reserved mode .. => some mode
  | .cleanup .loadStreamer .. | .cleanup .loadListeners .. | .cleanup .write .. => none
  | .cleanup .. => some .write
  | _ => none

/-- The channel that counts the thread as a holder. -/
def holds : MapPc κ → Option (Role × κ × ChannelId)
  | .reserved _ role key id true => some (role, key, id)
  | .countStreamer key id | .refuseStreamer key id => some (.publisher, key, id)
  | .holding role key id => some (role, key, id)
  | _ => none

/-- The thread does not stand inside an operation. -/
def Quiescent : MapPc κ → Prop
  | .idle | .holding .. => True
  | _ => False

end MapPc

end VRCStreamer
