import VRCStreamer.Channel.Map
import VRCStreamer.Constants
import VRCStreamer.Table.Basic

/-!
# The table of IP limits

`IpLimitTable` of `limits.rs` and the functions that lock it. The clock is read before the lock
is taken, so the instants of two calls can come in either order; differences of instants do not
go below zero. Instants and durations are in nanoseconds.
-/

namespace VRCStreamer

/-- The parts of `Config` that admission reads; a limit of zero is no limit. -/
structure AdmissionConfig where
  limits : Limits
  maxConnections : Nat
  maxStreamersPerIp : Nat
  maxListenersPerIp : Nat
  maxHttpRequestsPerIp : Nat
  httpRateLimitWindow : Nat

inductive IpConnectionKind
  | streamer
  | listener
  deriving DecidableEq

structure IpLimitEntry where
  windowStarted : Nat
  requestCount : Nat
  streamers : Nat
  listeners : Nat
  lastSeen : Nat
  deriving DecidableEq

namespace IpLimitEntry

def new (now : Nat) : IpLimitEntry := ⟨now, 0, 0, 0, now⟩

/-- `*kind.count_mut(entry)`. -/
def count : IpConnectionKind → IpLimitEntry → Nat
  | .streamer, entry => entry.streamers
  | .listener, entry => entry.listeners

/-- An assignment to `*kind.count_mut(entry)`. -/
def setCount (kind : IpConnectionKind) (count : Nat) (entry : IpLimitEntry) : IpLimitEntry :=
  match kind with
  | .streamer => { entry with streamers := count }
  | .listener => { entry with listeners := count }

/-- A rate limit window that is over starts again. -/
def restartWindow (window now : Nat) (entry : IpLimitEntry) : IpLimitEntry :=
  if window ≤ now - entry.windowStarted then { entry with windowStarted := now, requestCount := 0 }
  else entry

@[simp] theorem count_restartWindow (kind : IpConnectionKind) (window now : Nat)
    (entry : IpLimitEntry) : (entry.restartWindow window now).count kind = entry.count kind := by
  rw [restartWindow]
  split
  next => cases kind <;> rfl
  next => rfl

@[simp] theorem count_new (kind : IpConnectionKind) (now : Nat) : (new now).count kind = 0 := by
  cases kind <;> rfl

@[simp] theorem count_setCount (kind kind' : IpConnectionKind) (n : Nat) (entry : IpLimitEntry) :
    (entry.setCount kind n).count kind' = if kind' = kind then n else entry.count kind' := by
  cases kind <;> cases kind' <;> rfl

end IpLimitEntry

structure IpLimitTable (ι : Type*) where
  entries : Table ι IpLimitEntry
  lastPruned : Nat
  bounded : entries.size ≤ MAX_IP_LIMIT_ENTRIES

/-- `Duration::MAX`. -/
def maxDuration : Nat := (2 ^ 64 - 1) * 10 ^ 9 + 999999999

/-- An `IpLimitGuard`. -/
structure IpLimitGuard (ι : Type*) where
  ip : ι
  kind : IpConnectionKind
  deriving DecidableEq

namespace IpLimitTable

variable {ι : Type*}

def new (now : Nat) : IpLimitTable ι := ⟨.empty, now, Nat.zero_le _⟩

def retained (now idleTimeout : Nat) (entry : IpLimitEntry) : Bool :=
  entry.streamers ≠ 0 || entry.listeners ≠ 0 || now - entry.lastSeen < idleTimeout

def pruneIfDue (table : IpLimitTable ι) (now : Nat) (config : AdmissionConfig) : IpLimitTable ι :=
  if now - table.lastPruned < config.httpRateLimitWindow then table
  else
    { entries := table.entries.retain (fun _ entry =>
        if retained now (min (config.httpRateLimitWindow * 2) maxDuration) entry then some entry
        else none)
      lastPruned := now
      bounded := (Table.size_retain_le _ _).trans table.bounded }

variable [DecidableEq ι]

/-- The table with room for the address, and its entry. -/
def entry (table : IpLimitTable ι) (ip : ι) (now : Nat) (config : AdmissionConfig) :
    IpLimitTable ι × Option IpLimitEntry :=
  let table := table.pruneIfDue now config
  match table.entries.get? ip with
  | some entry => (table, some entry)
  | none =>
    if h : table.entries.size < MAX_IP_LIMIT_ENTRIES then
      ({ table with
          entries := table.entries.insert ip (.new now)
          bounded := (Table.size_insert_le _ _ _).trans h }, some (.new now))
    else (table, none)

/-- What a caller writes through the reference that `entry` returns. -/
def update (table : IpLimitTable ι) (ip : ι) (f : IpLimitEntry → IpLimitEntry) : IpLimitTable ι :=
  { table with
    entries := table.entries.modify f ip
    bounded := (Table.size_modify_le f ip table.entries).trans table.bounded }

def allowHttpRequest (table : IpLimitTable ι) (config : AdmissionConfig) (ip : ι) (now : Nat) :
    IpLimitTable ι × Bool :=
  if config.maxHttpRequestsPerIp = 0 then (table, true)
  else
    match table.entry ip now config with
    | (table, none) => (table, false)
    | (table, some entry) =>
      let entry := { entry.restartWindow config.httpRateLimitWindow now with lastSeen := now }
      if config.maxHttpRequestsPerIp ≤ entry.requestCount then
        (table.update ip (fun _ => entry), false)
      else
        (table.update ip (fun _ => { entry with requestCount := entry.requestCount + 1 }), true)

def tryAcquireIp (table : IpLimitTable ι) (config : AdmissionConfig) (ip : ι)
    (kind : IpConnectionKind) (limit : Nat) (tableFullError limitError : String) (now : Nat) :
    IpLimitTable ι × Except String (Option (IpLimitGuard ι)) :=
  if limit = 0 then (table, .ok none)
  else
    match table.entry ip now config with
    | (table, none) => (table, .error tableFullError)
    | (table, some entry) =>
      let entry := { entry with lastSeen := now }
      if limit ≤ entry.count kind then (table.update ip (fun _ => entry), .error limitError)
      else
        (table.update ip (fun _ => entry.setCount kind (entry.count kind + 1)), .ok (some ⟨ip, kind⟩))

/-- Dropping a guard. -/
def release (table : IpLimitTable ι) (guard : IpLimitGuard ι) (now : Nat) : IpLimitTable ι :=
  table.update guard.ip (fun entry =>
    { entry.setCount guard.kind (entry.count guard.kind - 1) with lastSeen := now })

end IpLimitTable

def AdmissionConfig.maxPerIp (config : AdmissionConfig) : IpConnectionKind → Nat
  | .streamer => config.maxStreamersPerIp
  | .listener => config.maxListenersPerIp

namespace IpLimitTable

variable {ι : Type*} [DecidableEq ι]

def tryAcquireStreamerIp (table : IpLimitTable ι) (config : AdmissionConfig) (ip : ι) (now : Nat) :
    IpLimitTable ι × Except String (Option (IpLimitGuard ι)) :=
  table.tryAcquireIp config ip .streamer config.maxStreamersPerIp "too many tracked IPs\n"
    "too many active streamers from this IP\n" now

def tryAcquireListenerIp (table : IpLimitTable ι) (config : AdmissionConfig) (ip : ι) (now : Nat) :
    IpLimitTable ι × Except String (Option (IpLimitGuard ι)) :=
  table.tryAcquireIp config ip .listener config.maxListenersPerIp "453 Not Enough Bandwidth"
    "453 Not Enough Bandwidth" now

/-! ## Counts -/

/-- The count of an address; zero for one without an entry. -/
def count (table : IpLimitTable ι) (kind : IpConnectionKind) (ip : ι) : Nat :=
  ((table.entries.get? ip).map (IpLimitEntry.count kind)).getD 0

variable {table table' : IpLimitTable ι} {config : AdmissionConfig} {ip : ι} {now : Nat}

/-- Pruning takes no count away. -/
@[simp] theorem count_pruneIfDue (table : IpLimitTable ι) (now : Nat) (config : AdmissionConfig)
    (kind : IpConnectionKind) (ip : ι) :
    (table.pruneIfDue now config).count kind ip = table.count kind ip := by
  rw [pruneIfDue]
  split
  next => rfl
  next =>
    rw [count, count, Table.get?_retain]
    cases table.entries.get? ip with
    | none => rfl
    | some entry =>
      rw [Option.bind_some]
      split
      next => rfl
      next hpruned =>
        -- what is pruned has neither streamers nor listeners
        simp only [retained, Bool.or_eq_true, decide_eq_true_eq, not_or, not_not] at hpruned
        cases kind with
        | streamer => exact hpruned.1.1.symm
        | listener => exact hpruned.1.2.symm

/-- Making room for an address changes no count. -/
theorem entry_cases (table : IpLimitTable ι) (ip : ι) (now : Nat) (config : AdmissionConfig) :
    (∀ kind ip', (table.entry ip now config).1.count kind ip' = table.count kind ip') ∧
      ∀ entry, (table.entry ip now config).2 = some entry →
        (table.entry ip now config).1.entries.get? ip = some entry := by
  rw [entry]
  split
  next found hfound =>
    refine ⟨fun kind ip' => count_pruneIfDue table now config kind ip', ?_⟩
    rintro entry ⟨⟩
    exact hfound
  next habsent =>
    split
    next =>
      refine ⟨?_, ?_⟩
      · intro kind ip'
        rw [← count_pruneIfDue table now config kind ip', count, count, Table.get?_insert]
        split
        next hsame =>
          rw [← hsame, habsent]
          exact IpLimitEntry.count_new kind now
        next => rfl
      · rintro entry ⟨⟩
        rw [Table.get?_insert, if_pos rfl]
    next =>
      refine ⟨fun kind ip' => count_pruneIfDue table now config kind ip', ?_⟩
      rintro entry ⟨⟩

/-- A write to an entry changes the counts of its address alone. -/
theorem count_update {entry : IpLimitEntry} (hentry : table.entries.get? ip = some entry)
    (f : IpLimitEntry → IpLimitEntry) (kind : IpConnectionKind) (ip' : ι) :
    (table.update ip f).count kind ip' =
      if ip' = ip then (f entry).count kind else table.count kind ip' := by
  rw [update, count, Table.get?_modify]
  split
  next hsame =>
    rw [hsame, hentry]
    rfl
  next =>
    rw [Option.map_id]
    rfl

theorem count_allowHttpRequest (table : IpLimitTable ι) (config : AdmissionConfig) (ip : ι)
    (now : Nat) (kind : IpConnectionKind) (ip' : ι) :
    (table.allowHttpRequest config ip now).1.count kind ip' = table.count kind ip' := by
  obtain ⟨hcount, hentry⟩ := table.entry_cases ip now config
  rw [allowHttpRequest]
  split
  next => rfl
  next =>
    split
    next room hroom =>
      rw [hroom] at hcount
      exact hcount kind ip'
    next room found hroom =>
      rw [hroom] at hcount hentry
      have hget := hentry found rfl
      have hsame : ∀ entry : IpLimitEntry, (∀ kind, entry.count kind = found.count kind) →
          (room.update ip (fun _ => entry)).count kind ip' = table.count kind ip' := by
        intro entry hcounts
        rw [count_update hget, ← hcount]
        split
        next hip => rw [hip, hcounts, count, hget, Option.map_some, Option.getD_some]
        next => rfl
      have hwindow : ∀ kind, (found.restartWindow config.httpRateLimitWindow now).count kind =
          found.count kind :=
        fun kind => IpLimitEntry.count_restartWindow kind _ now found
      dsimp only
      split
      · apply hsame
        intro kind
        rw [← hwindow]
        cases kind <;> rfl
      · apply hsame
        intro kind
        rw [← hwindow]
        cases kind <;> rfl

/-- An acquired guard counts one connection more of its address, below the limit; an error
changes no count. -/
theorem tryAcquireIp_cases (table : IpLimitTable ι) (config : AdmissionConfig) (ip : ι)
    (kind : IpConnectionKind) (limit : Nat) (tableFullError limitError : String) (now : Nat) :
    (((table.tryAcquireIp config ip kind limit tableFullError limitError now).2 =
        .ok (some ⟨ip, kind⟩) ∧ table.count kind ip < limit) ∧
      ∀ kind' ip', (table.tryAcquireIp config ip kind limit tableFullError limitError now).1.count
          kind' ip' =
        if ip' = ip ∧ kind' = kind then table.count kind' ip' + 1 else table.count kind' ip') ∨
    ((∀ guard, (table.tryAcquireIp config ip kind limit tableFullError limitError now).2 ≠
        .ok (some guard)) ∧
      ∀ kind' ip', (table.tryAcquireIp config ip kind limit tableFullError limitError now).1.count
        kind' ip' = table.count kind' ip') := by
  obtain ⟨hcount, hentry⟩ := table.entry_cases ip now config
  rw [tryAcquireIp]
  split
  next =>
    right
    exact ⟨by simp, fun _ _ => rfl⟩
  next =>
    split
    next room hroom =>
      right
      rw [hroom] at hcount
      exact ⟨by simp, hcount⟩
    next room found hroom =>
      rw [hroom] at hcount hentry
      have hget := hentry found rfl
      have hfound : ∀ kind', found.count kind' = table.count kind' ip := by
        intro kind'
        rw [← hcount, count, hget, Option.map_some, Option.getD_some]
      have hseen : ∀ kind', ({ found with lastSeen := now } : IpLimitEntry).count kind' =
          table.count kind' ip := by
        intro kind'
        rw [← hfound]
        cases kind' <;> rfl
      dsimp only
      rw [hseen]
      split
      next =>
        right
        refine ⟨by simp, ?_⟩
        intro kind' ip'
        rw [count_update hget, ← hcount]
        split
        next hip => rw [hip, hseen, hcount]
        next => rfl
      next hbelow =>
        left
        refine ⟨⟨rfl, Nat.lt_of_not_le hbelow⟩, ?_⟩
        intro kind' ip'
        rw [count_update hget, IpLimitEntry.count_setCount]
        by_cases hip : ip' = ip
        · subst hip
          by_cases hkind : kind' = kind
          · subst hkind
            simp
          · simp [hkind, hseen]
        · simp [hip, hcount]

/-- A dropped guard counts one connection less. -/
theorem count_release (table : IpLimitTable ι) (guard : IpLimitGuard ι) (now : Nat)
    (kind : IpConnectionKind) (ip : ι) :
    (table.release guard now).count kind ip =
      if ip = guard.ip ∧ kind = guard.kind then table.count kind ip - 1
      else table.count kind ip := by
  rw [release]
  cases hget : table.entries.get? guard.ip with
  | none =>
    have hnone : ∀ f, (table.update guard.ip f).count kind ip = table.count kind ip := by
      intro f
      rw [update, count, count, Table.get?_modify]
      split
      next hip =>
        rw [hip, hget]
        rfl
      next =>
        rw [Option.map_id]
        rfl
    rw [hnone]
    split
    next hsame =>
      rw [hsame.1, count, hget]
      rfl
    next => rfl
  | some entry =>
    have hentry : ∀ kind', entry.count kind' = table.count kind' guard.ip := by
      intro kind'
      rw [count, hget, Option.map_some, Option.getD_some]
    have hseen : ∀ other : IpLimitEntry,
        ({ other with lastSeen := now } : IpLimitEntry).count kind =
        other.count kind := by
      intro other
      cases kind <;> rfl
    rw [count_update hget, hseen, IpLimitEntry.count_setCount]
    by_cases hip : ip = guard.ip
    · subst hip
      by_cases hkind : kind = guard.kind
      · subst hkind
        simp [hentry]
      · simp [hkind, hentry]
    · simp [hip]

end IpLimitTable

end VRCStreamer
