import VRCStreamer.Admission.IpLimits

/-!
# Admission of connections

The connections of a server as threads: `ingest_ws` and the drop of its guards, `rtsp_server` and
`handle_rtsp_client` with the subscription of SETUP, and plain HTTP requests. A thread does one
locked or atomic operation at a time; the operations on the channel map are those of the map's
own threads.
-/

namespace VRCStreamer

open Concurrency

/-- The parts of `AppState` that admission uses. -/
structure Admission (κ θ ι : Type*) where
  map : ChannelMap κ θ
  ipLimits : IpLimitTable ι
  activeConnections : Nat

/-- The next operation of a connection, with the guards that it has by then. In `publishing` the
channel map is used from `reserve_channel` to the end of the streamer's guard, in `session` by
one SETUP after the other. -/
inductive ConnectionPc (κ ι : Type*)
  | idle
  | http (ip : ι)
  | request (ip : ι) (key : κ)
  | checks (ip : ι) (key : κ)
  | streamerIp (ip : ι) (key : κ)
  | streamerConnection (ipGuard : Option (IpLimitGuard ι)) (key : κ)
  | publishing (ipGuard : Option (IpLimitGuard ι)) (map : MapPc κ)
  | listenerIp (ip : ι)
  | listenerConnection (ipGuard : Option (IpLimitGuard ι))
  | session (ipGuard : Option (IpLimitGuard ι)) (map : MapPc κ)
  | closing (ipGuard : Option (IpLimitGuard ι)) (connectionGuard : Bool) (map : MapPc κ)

namespace ConnectionPc

variable {κ ι : Type*}

def ipGuard : ConnectionPc κ ι → Option (IpLimitGuard ι)
  | .streamerConnection guard _ | .publishing guard _ | .listenerConnection guard |
    .session guard _ | .closing guard _ _ => guard
  | _ => none

def connectionGuard : ConnectionPc κ ι → Bool
  | .publishing .. | .session .. => true
  | .closing _ guard _ => guard
  | _ => false

def map : ConnectionPc κ ι → MapPc κ
  | .publishing _ pc | .session _ pc | .closing _ _ pc => pc
  | _ => .idle

end ConnectionPc

/-- What happens next to a thread. `advance` is its next operation, with the clock reading that
it goes by. -/
inductive ConnectionChoice (κ ι : Type*)
  | http (ip : ι)
  | ingest (ip : ι) (key : κ)
  | accept (ip : ι)
  | advance (now : Nat)
  | refuse
  | listen (key : κ)
  | close
  | dropIp (now : Nat)
  | dropConnection
  | done

namespace Admission

variable {κ θ ι : Type*}

def start (now : Nat) : Admission κ θ ι := ⟨.empty, .new now, 0⟩

/-- `try_acquire_connection`. -/
def tryAcquireConnection (config : AdmissionConfig) (m : Admission κ θ ι) :
    Except String (Admission κ θ ι) :=
  if config.maxConnections = 0 ∨ m.activeConnections < config.maxConnections then
    .ok { m with activeConnections := m.activeConnections + 1 }
  else .error "too many active connections"

variable [DecidableEq κ] [DecidableEq θ] [DecidableEq ι]

/-- The next operation on the channel map. -/
def advanceMap (config : AdmissionConfig) (t : θ) (m : Admission κ θ ι) (pc : MapPc κ)
    (after : MapPc κ → ConnectionPc κ ι) : Option (Admission κ θ ι × ConnectionPc κ ι) :=
  (m.map.advance config.limits t pc).map
    (fun next => ({ m with map := next.1 }, after next.2))

/-- The operation that a program counter names. -/
def advance (config : AdmissionConfig) (t : θ) (m : Admission κ θ ι) (now : Nat) :
    ConnectionPc κ ι → Option (Admission κ θ ι × ConnectionPc κ ι)
  | .idle => none
  | .http ip => some ({ m with ipLimits := (m.ipLimits.allowHttpRequest config ip now).1 }, .idle)
  | .request ip key =>
    match m.ipLimits.allowHttpRequest config ip now with
    | (ipLimits, true) => some ({ m with ipLimits }, .checks ip key)
    | (ipLimits, false) => some ({ m with ipLimits }, .idle)
  | .checks ip key => some (m, .streamerIp ip key)
  | .streamerIp ip key =>
    match m.ipLimits.tryAcquireStreamerIp config ip now with
    | (ipLimits, .ok guard) => some ({ m with ipLimits }, .streamerConnection guard key)
    | (ipLimits, .error _) => some ({ m with ipLimits }, .idle)
  | .streamerConnection guard key =>
    match m.tryAcquireConnection config with
    | .ok m => some (m, .publishing guard (.reserveRead .publisher key))
    | .error _ => some (m, .closing guard false .idle)
  | .publishing guard .idle => some (m, .closing guard true .idle)
  | .publishing guard pc => m.advanceMap config t pc (.publishing guard)
  | .listenerIp ip =>
    match m.ipLimits.tryAcquireListenerIp config ip now with
    | (ipLimits, .ok guard) => some ({ m with ipLimits }, .listenerConnection guard)
    | (ipLimits, .error _) => some ({ m with ipLimits }, .idle)
  | .listenerConnection guard =>
    match m.tryAcquireConnection config with
    | .ok m => some (m, .session guard .idle)
    | .error _ => some (m, .closing guard false .idle)
  | .session _ (.holding ..) => none
  | .session guard pc => m.advanceMap config t pc (.session guard)
  | .closing ipGuard connectionGuard pc => m.advanceMap config t pc (.closing ipGuard connectionGuard)

/-- The checks of `ingest_ws` between its request limit and its guards may refuse it. A session
subscribes when it holds no channel, and ends between two requests. The guards of a closing
thread are dropped in any order. -/
def program (config : AdmissionConfig) :
    Program θ (Admission κ θ ι) (ConnectionPc κ ι) (ConnectionChoice κ ι) :=
  fun t choice m pc =>
    match choice, pc with
    | .http ip, .idle => some (m, .http ip)
    | .ingest ip key, .idle => some (m, .request ip key)
    | .accept ip, .idle => some (m, .listenerIp ip)
    | .advance now, pc => m.advance config t now pc
    | .refuse, .checks _ _ => some (m, .idle)
    | .listen key, .session guard .idle => some (m, .session guard (.countListener key))
    | .close, .session guard .idle => some (m, .closing guard true .idle)
    | .close, .session guard (.holding role key id) =>
      some (m, .closing guard true (.holding role key id))
    | .dropIp now, .closing (some guard) connectionGuard pc =>
      some ({ m with ipLimits := m.ipLimits.release guard now }, .closing none connectionGuard pc)
    | .dropConnection, .closing guard true pc =>
      some ({ m with activeConnections := m.activeConnections - 1 }, .closing guard false pc)
    | .done, .closing none false .idle => some (m, .idle)
    | _, _ => none

/-- Any threads, all idle, on a server that has just started. -/
def system (config : AdmissionConfig) (now : Nat) :
    System (Threads θ (Admission κ θ ι) (ConnectionPc κ ι)) (θ × ConnectionChoice κ ι) :=
  (program config).system (start now) .idle

end Admission

end VRCStreamer
