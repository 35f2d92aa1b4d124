import Mathlib.Algebra.Order.Ring.Nat
import VRCStreamer.Admission.IpLimits
import VRCStreamer.Policing.Window

/-!
# The limit on HTTP requests

Runs of the functions that lock the table of IP limits, in the order of their instants. An entry
stands for the newest window of its address, until pruning takes it away after the window is over.
-/

namespace VRCStreamer

open Policing

/-! ## Runs -/

inductive IpLimitOperation (ι : Type*)
  | request (ip : ι)
  | acquire (kind : IpConnectionKind) (ip : ι)
  | release (guard : IpLimitGuard ι)
  deriving DecidableEq

structure IpLimitCall (ι : Type*) where
  operation : IpLimitOperation ι
  now : Nat
  deriving DecidableEq

/-- A request with what became of it. -/
structure HttpRequest (ι : Type*) where
  ip : ι
  time : Nat
  allowed : Bool
  deriving DecidableEq

namespace IpLimitTable

variable {ι : Type*} [DecidableEq ι]

/-- The table after a call, and the request if it was one. -/
def handle (config : AdmissionConfig) (table : IpLimitTable ι) (call : IpLimitCall ι) :
    IpLimitTable ι × List (HttpRequest ι) :=
  match call.operation with
  | .request ip =>
    let outcome := table.allowHttpRequest config ip call.now
    (outcome.1, [⟨ip, call.now, outcome.2⟩])
  | .acquire .streamer ip => ((table.tryAcquireStreamerIp config ip call.now).1, [])
  | .acquire .listener ip => ((table.tryAcquireListenerIp config ip call.now).1, [])
  | .release guard => (table.release guard call.now, [])

/-- The table after all calls, and the requests among them, the newest first. -/
def handleAll (config : AdmissionConfig) (table : IpLimitTable ι) (calls : List (IpLimitCall ι)) :
    IpLimitTable ι × List (HttpRequest ι) :=
  calls.foldl (fun run call =>
    let outcome := run.1.handle config call
    (outcome.1, outcome.2 ++ run.2)) (table, [])

@[simp] theorem handleAll_nil (config : AdmissionConfig) (table : IpLimitTable ι) :
    table.handleAll config [] = (table, []) := rfl

theorem handleAll_concat (config : AdmissionConfig) (table : IpLimitTable ι)
    (calls : List (IpLimitCall ι)) (call : IpLimitCall ι) :
    table.handleAll config (calls ++ [call]) =
      (((table.handleAll config calls).1.handle config call).1,
        ((table.handleAll config calls).1.handle config call).2 ++
          (table.handleAll config calls).2) := by
  rw [handleAll, List.foldl_append]
  rfl

end IpLimitTable

/-- The times of the allowed requests of an address. -/
def allowedTimes {ι : Type*} [DecidableEq ι] (ip : ι) (requests : List (HttpRequest ι)) :
    List Nat :=
  (requests.filter (fun request => request.ip = ip ∧ request.allowed)).map (·.time)

/-! ## What an entry stands for -/

/-- An entry holds the newest window. Without one all windows are over. -/
inductive StandsForWindows {width limit : Nat} :
    Option IpLimitEntry → List (Window width limit) → Nat → Prop
  | absent {windows : List (Window width limit)} {clock : Nat}
      (ended : ∀ window ∈ windows, window.start + width ≤ clock) :
      StandsForWindows none windows clock
  | present {entry : IpLimitEntry} {window : Window width limit}
      {earlier : List (Window width limit)} {clock : Nat}
      (started : entry.windowStarted = window.start)
      (counted : entry.requestCount = window.times.length)
      (seen : window.start ≤ entry.lastSeen) (past : entry.lastSeen ≤ clock) :
      StandsForWindows (some entry) (window :: earlier) clock

/-- Windows of an address with these allowed requests. -/
structure WindowsOf (config : AdmissionConfig) (entry : Option IpLimitEntry) (clock : Nat)
    (times : List Nat)
    (windows : List (Window config.httpRateLimitWindow config.maxHttpRequestsPerIp)) : Prop where
  apart : Window.Apart windows
  times_eq : Window.allTimes windows = times
  stands : StandsForWindows entry windows clock

/-- The allowed requests of an address fall in windows, the newest of which is in its entry. -/
def InWindows (config : AdmissionConfig) (entry : Option IpLimitEntry) (clock : Nat)
    (times : List Nat) : Prop := ∃ windows, WindowsOf config entry clock times windows

namespace InWindows

variable {config : AdmissionConfig} {entry : Option IpLimitEntry} {found : IpLimitEntry}
variable {clock now : Nat} {times : List Nat}

/-- An address that was never seen. -/
theorem none_nil (clock : Nat) : InWindows config none clock [] :=
  ⟨[], List.Pairwise.nil, rfl, .absent (by simp)⟩

theorem mono (h : InWindows config entry clock times) (hclock : clock ≤ now) :
    InWindows config entry now times := by
  obtain ⟨windows, hapart, htimes, hstands⟩ := h
  refine ⟨windows, hapart, htimes, ?_⟩
  cases hstands with
  | absent ended => exact .absent (fun window hmem => (ended window hmem).trans hclock)
  | present started counted seen past => exact .present started counted seen (past.trans hclock)

/-- An entry that was not seen for the width of a window stands for one that is over. -/
theorem evict (h : InWindows config (some found) clock times)
    (hidle : found.lastSeen + config.httpRateLimitWindow ≤ now) :
    InWindows config none now times := by
  obtain ⟨windows, hapart, htimes, hstands⟩ := h
  refine ⟨windows, hapart, htimes, .absent ?_⟩
  cases hstands with
  | @present _ window earlier _ started counted seen past =>
    obtain ⟨hover, -⟩ := List.pairwise_cons.mp hapart
    have hnewest : window.start + config.httpRateLimitWindow ≤ now := by omega
    intro other hmem
    obtain rfl | hmem := List.mem_cons.mp hmem
    · exact hnewest
    · have hbefore := hover other hmem
      omega

/-- A new entry starts a window. -/
theorem create (h : InWindows config none now times) :
    InWindows config (some (.new now)) now times := by
  obtain ⟨windows, hapart, htimes, hstands⟩ := h
  cases hstands with
  | absent ended =>
    exact ⟨.empty now :: windows, hapart.empty ended, htimes,
      .present rfl rfl (Nat.le_refl now) (Nat.le_refl now)⟩

/-- A write that leaves the window alone. -/
theorem touch {entry' : IpLimitEntry} (h : InWindows config (some found) now times)
    (hstarted : entry'.windowStarted = found.windowStarted)
    (hcount : entry'.requestCount = found.requestCount) (hseen : entry'.lastSeen = now) :
    InWindows config (some entry') now times := by
  obtain ⟨windows, hapart, htimes, hstands⟩ := h
  cases hstands with
  | present started counted seen past =>
    refine ⟨_, hapart, htimes, .present (hstarted.trans started) (hcount.trans counted) ?_ ?_⟩
    · rw [hseen]
      exact seen.trans past
    · exact hseen.le

/-- A window that is over starts again. -/
theorem restart (h : InWindows config (some found) now times) :
    InWindows config
      (some { found.restartWindow config.httpRateLimitWindow now with lastSeen := now })
      now times := by
  rw [IpLimitEntry.restartWindow]
  split
  next hover =>
    obtain ⟨windows, hapart, htimes, hstands⟩ := h
    cases hstands with
    | @present _ window earlier _ started counted seen past =>
      obtain ⟨hearlier, -⟩ := List.pairwise_cons.mp hapart
      refine ⟨.empty now :: window :: earlier, hapart.empty ?_, htimes,
        .present rfl rfl (Nat.le_refl now) (Nat.le_refl now)⟩
      have hnewest : window.start + config.httpRateLimitWindow ≤ now := by omega
      intro other hmem
      obtain rfl | hmem := List.mem_cons.mp hmem
      · exact hnewest
      · have hbefore := hearlier other hmem
        omega
  next => exact h.touch rfl rfl rfl

/-- An allowed request is one more in the window of the entry. -/
theorem allow (h : InWindows config (some found) now times)
    (hwindow : now < found.windowStarted + config.httpRateLimitWindow)
    (hroom : found.requestCount < config.maxHttpRequestsPerIp) :
    InWindows config (some { found with requestCount := found.requestCount + 1 }) now
      (now :: times) := by
  obtain ⟨windows, hapart, htimes, hstands⟩ := h
  cases hstands with
  | @present _ window earlier _ started counted seen past =>
    have hin : window.start ≤ now ∧ now < window.start + config.httpRateLimitWindow := by omega
    have hfit : window.times.length < config.maxHttpRequestsPerIp := by omega
    refine ⟨window.push now hfit hin :: earlier, Window.Apart.push hapart hfit hin, ?_,
      .present started (congrArg (· + 1) counted) seen past⟩
    rw [Window.allTimes_push, htimes]

/-- The count of an entry whose window is not over is that of recent requests. -/
theorem requestCount_le (h : InWindows config (some found) now times)
    (hwindow : now < found.windowStarted + config.httpRateLimitWindow) :
    found.requestCount ≤
      (times.filter (fun time => now < time + config.httpRateLimitWindow)).length := by
  obtain ⟨windows, hapart, htimes, hstands⟩ := h
  cases hstands with
  | @present _ window earlier _ started counted seen past =>
    rw [counted, ← htimes]
    exact window.length_le_recent (started ▸ hwindow) earlier

/-- The guarantee for an interval. -/
theorem count_le (h : InWindows config entry clock times) (start : Nat) :
    (times.filter
      (fun time => start ≤ time ∧ time < start + config.httpRateLimitWindow)).length ≤
      2 * config.maxHttpRequestsPerIp := by
  obtain ⟨windows, hapart, htimes, -⟩ := h
  rw [← htimes]
  exact hapart.count_le start

end InWindows

/-! ## One call -/

namespace IpLimitTable

variable {ι : Type*} [DecidableEq ι] {config : AdmissionConfig} {table : IpLimitTable ι}
variable {clock now : Nat} {ip other : ι} {times : List Nat}

/-- Pruning takes an entry away after twice the width of a window, or after the longest duration
there is. -/
theorem inWindows_pruneIfDue (hmax : config.httpRateLimitWindow ≤ maxDuration)
    (hwindow : 0 < config.httpRateLimitWindow) (hclock : clock ≤ now)
    (h : InWindows config (table.entries.get? ip) clock times) :
    InWindows config ((table.pruneIfDue now config).entries.get? ip) now times := by
  rw [pruneIfDue]
  split
  next => exact h.mono hclock
  next =>
    rw [Table.get?_retain]
    cases hentry : table.entries.get? ip with
    | none =>
      rw [hentry] at h
      exact h.mono hclock
    | some entry =>
      rw [hentry] at h
      rw [Option.bind_some]
      split
      next => exact h.mono hclock
      next hpruned =>
        simp only [retained, Bool.or_eq_true, decide_eq_true_eq, not_or, not_lt] at hpruned
        have hidle := hpruned.2
        apply h.evict
        omega

/-- The entry that a caller gets stands for the windows of the address; another address is only
pruned. -/
theorem inWindows_entry (hmax : config.httpRateLimitWindow ≤ maxDuration)
    (hwindow : 0 < config.httpRateLimitWindow) (hclock : clock ≤ now)
    (h : InWindows config (table.entries.get? other) clock times) :
    InWindows config ((table.entry ip now config).1.entries.get? other) now times := by
  have hpruned := inWindows_pruneIfDue hmax hwindow hclock h
  rw [entry]
  split
  next => exact hpruned
  next habsent =>
    split
    next =>
      rw [Table.get?_insert]
      split
      next hsame =>
        rw [← hsame, habsent] at hpruned
        exact hpruned.create
      next => exact hpruned
    next => exact hpruned

/-- A write to an entry changes what its address stands for. -/
theorem inWindows_update {found : IpLimitEntry} {f : IpLimitEntry → IpLimitEntry}
    {times' : List Nat} (hfound : table.entries.get? ip = some found)
    (h : InWindows config (table.entries.get? other) now times)
    (hsame : other = ip → InWindows config (some found) now times →
      InWindows config (some (f found)) now times') (hother : other ≠ ip → times' = times) :
    InWindows config ((table.update ip f).entries.get? other) now times' := by
  rw [update, Table.get?_modify]
  by_cases hip : other = ip
  · rw [hip, hfound] at h ⊢
    rw [if_pos rfl]
    exact hsame hip h
  · rw [if_neg hip, hother hip, Option.map_id]
    exact h

end IpLimitTable

theorem IpLimitEntry.lt_restartWindow {window : Nat} (hwindow : 0 < window) (now : Nat)
    (entry : IpLimitEntry) : now < (entry.restartWindow window now).windowStarted + window := by
  rw [restartWindow]
  split
  next => exact Nat.lt_add_of_pos_right hwindow
  next => omega

section Requests

variable {ι : Type*} [DecidableEq ι] {ip other : ι}

theorem allowedTimes_allowed (ip : ι) (now : Nat) (requests : List (HttpRequest ι)) :
    allowedTimes ip (⟨ip, now, true⟩ :: requests) = now :: allowedTimes ip requests := by
  rw [allowedTimes, List.filter_cons_of_pos (by simp), List.map_cons]
  rfl

theorem allowedTimes_refused (ip other : ι) (now : Nat) (requests : List (HttpRequest ι)) :
    allowedTimes other (⟨ip, now, false⟩ :: requests) = allowedTimes other requests := by
  rw [allowedTimes, List.filter_cons_of_neg (by simp)]
  rfl

theorem allowedTimes_other (h : other ≠ ip) (now : Nat) (allowed : Bool)
    (requests : List (HttpRequest ι)) :
    allowedTimes other (⟨ip, now, allowed⟩ :: requests) = allowedTimes other requests := by
  rw [allowedTimes, List.filter_cons_of_neg (by simp [h.symm])]
  rfl

end Requests

/-! ## All calls -/

/-- The requests so far of every address are in its windows. -/
def Recorded {ι : Type*} [DecidableEq ι] (config : AdmissionConfig) (table : IpLimitTable ι)
    (clock : Nat) (requests : List (HttpRequest ι)) : Prop :=
  ∀ ip, InWindows config (table.entries.get? ip) clock (allowedTimes ip requests)

namespace Recorded

variable {ι : Type*} [DecidableEq ι] {config : AdmissionConfig} {table : IpLimitTable ι}
variable {clock now : Nat} {ip : ι} {requests : List (HttpRequest ι)}

theorem new (config : AdmissionConfig) (start : Nat) :
    Recorded config (IpLimitTable.new start : IpLimitTable ι) start [] :=
  fun _ => .none_nil start

theorem mono (h : Recorded config table clock requests) (hclock : clock ≤ now) :
    Recorded config table now requests := fun ip => (h ip).mono hclock

theorem entry (h : Recorded config table clock requests)
    (hmax : config.httpRateLimitWindow ≤ maxDuration) (hwindow : 0 < config.httpRateLimitWindow)
    (hclock : clock ≤ now) (ip : ι) : Recorded config (table.entry ip now config).1 now requests :=
  fun other => IpLimitTable.inWindows_entry hmax hwindow hclock (h other)

/-- A write that leaves the window of an entry alone. -/
theorem update {found : IpLimitEntry} {f : IpLimitEntry → IpLimitEntry}
    (h : Recorded config table now requests) (hfound : table.entries.get? ip = some found)
    (hf : ∀ times, InWindows config (some found) now times →
      InWindows config (some (f found)) now times) :
    Recorded config (table.update ip f) now requests :=
  fun other => IpLimitTable.inWindows_update hfound (h other) (fun _ => hf _) (fun _ => rfl)

/-- The entry that a request finds, in a window that is not over. -/
theorem current {found : IpLimitEntry} (h : Recorded config table now requests)
    (hfound : table.entries.get? ip = some found) :
    InWindows config
      (some { found.restartWindow config.httpRateLimitWindow now with lastSeen := now })
      now (allowedTimes ip requests) := by
  have hentry := h ip
  rw [hfound] at hentry
  exact hentry.restart

theorem allowHttpRequest (h : Recorded config table clock requests)
    (hlimit : config.maxHttpRequestsPerIp ≠ 0) (hmax : config.httpRateLimitWindow ≤ maxDuration)
    (hwindow : 0 < config.httpRateLimitWindow) (hclock : clock ≤ now) (ip : ι) :
    Recorded config (table.allowHttpRequest config ip now).1 now
      (⟨ip, now, (table.allowHttpRequest config ip now).2⟩ :: requests) := by
  have hroom := h.entry hmax hwindow hclock ip
  obtain ⟨-, hget⟩ := table.entry_cases ip now config
  have hrefused : ∀ table' : IpLimitTable ι, Recorded config table' now requests →
      Recorded config table' now (⟨ip, now, false⟩ :: requests) := by
    intro table' h' other
    rw [allowedTimes_refused]
    exact h' other
  rw [IpLimitTable.allowHttpRequest, if_neg hlimit]
  generalize table.entry ip now config = room at hroom hget ⊢
  obtain ⟨room, found⟩ := room
  cases found with
  | none => exact hrefused room hroom
  | some found =>
    have hfound := hget found rfl
    dsimp only
    split
    next =>
      apply hrefused
      exact hroom.update hfound (fun times hentry => hentry.restart)
    next hbelow =>
      intro other
      apply IpLimitTable.inWindows_update hfound (hroom other)
      · rintro rfl hentry
        have hallow := hentry.restart.allow (IpLimitEntry.lt_restartWindow hwindow now found)
          (Nat.lt_of_not_le hbelow)
        rw [← allowedTimes_allowed] at hallow
        exact hallow
      · exact fun hother => allowedTimes_other hother now true requests

theorem tryAcquireIp (h : Recorded config table clock requests)
    (hmax : config.httpRateLimitWindow ≤ maxDuration) (hwindow : 0 < config.httpRateLimitWindow)
    (hclock : clock ≤ now) (ip : ι) (kind : IpConnectionKind) (limit : Nat)
    (tableFullError limitError : String) :
    Recorded config
      (table.tryAcquireIp config ip kind limit tableFullError limitError now).1 now requests := by
  have hroom := h.entry hmax hwindow hclock ip
  obtain ⟨-, hget⟩ := table.entry_cases ip now config
  rw [IpLimitTable.tryAcquireIp]
  split
  next => exact h.mono hclock
  next =>
    generalize table.entry ip now config = room at hroom hget ⊢
    obtain ⟨room, found⟩ := room
    cases found with
    | none => exact hroom
    | some found =>
      have hfound := hget found rfl
      dsimp only
      split
      next => exact hroom.update hfound (fun times hentry => hentry.touch rfl rfl rfl)
      next =>
        apply hroom.update hfound
        intro times hentry
        cases kind <;> exact hentry.touch rfl rfl rfl

theorem release (h : Recorded config table clock requests) (hclock : clock ≤ now)
    (guard : IpLimitGuard ι) : Recorded config (table.release guard now) now requests := by
  rw [IpLimitTable.release]
  cases hfound : table.entries.get? guard.ip with
  | none =>
    intro other
    have hentry := (h.mono hclock) other
    rw [IpLimitTable.update, Table.get?_modify]
    by_cases hip : other = guard.ip
    · rw [hip, hfound] at hentry ⊢
      exact hentry
    · rw [if_neg hip, Option.map_id]
      exact hentry
  | some found =>
    apply (h.mono hclock).update hfound
    intro times hentry
    obtain ⟨ip, kind⟩ := guard
    cases kind <;> exact hentry.touch rfl rfl rfl

theorem handle (h : Recorded config table clock requests)
    (hlimit : config.maxHttpRequestsPerIp ≠ 0) (hmax : config.httpRateLimitWindow ≤ maxDuration)
    (hwindow : 0 < config.httpRateLimitWindow) {call : IpLimitCall ι} (hclock : clock ≤ call.now) :
    Recorded config (table.handle config call).1 call.now
      ((table.handle config call).2 ++ requests) := by
  obtain ⟨operation, now⟩ := call
  cases operation with
  | request ip => exact h.allowHttpRequest hlimit hmax hwindow hclock ip
  | acquire kind ip => cases kind <;> exact h.tryAcquireIp hmax hwindow hclock ip _ _ _ _
  | release guard => exact h.release hclock guard

/-- After calls in the order of their instants. -/
theorem handleAll {start : Nat} {calls : List (IpLimitCall ι)}
    (hlimit : config.maxHttpRequestsPerIp ≠ 0) (hmax : config.httpRateLimitWindow ≤ maxDuration)
    (hwindow : 0 < config.httpRateLimitWindow)
    (horder : (start :: calls.map (·.now)).Pairwise (· ≤ ·))
    (hclock : ∀ time ∈ start :: calls.map (·.now), time ≤ clock) :
    Recorded config ((IpLimitTable.new start).handleAll config calls).1 clock
      ((IpLimitTable.new start).handleAll config calls).2 := by
  induction calls using List.reverseRecOn generalizing clock with
  | nil => exact (new config start).mono (hclock start List.mem_cons_self)
  | append_singleton calls call ih =>
    rw [List.map_append, List.map_singleton, ← List.cons_append] at horder hclock
    obtain ⟨hcalls, -, hlast⟩ := List.pairwise_append.mp horder
    have hbefore : ∀ time ∈ start :: calls.map (·.now), time ≤ call.now :=
      fun time hmem => hlast time hmem call.now (List.mem_singleton.mpr rfl)
    have hstep := (ih hcalls hbefore).handle hlimit hmax hwindow (Nat.le_refl call.now)
    rw [IpLimitTable.handleAll_concat]
    apply hstep.mono
    exact hclock call.now (List.mem_append_right _ (List.mem_singleton.mpr rfl))

end Recorded

/-! ## Both guarantees -/

section Guarantees

variable {ι : Type*} [DecidableEq ι]

/-- The allowed requests of an address in a half-open interval. -/
def allowedIn (ip : ι) (start width : Nat) (requests : List (HttpRequest ι)) : Nat :=
  (requests.filter (fun request => request.ip = ip ∧ request.allowed ∧ start ≤ request.time ∧
    request.time < start + width)).length

/-- The requests that an address has made within the last width, allowed or not. -/
def madeWithin (ip : ι) (now width : Nat) (requests : List (HttpRequest ι)) : Nat :=
  (requests.filter (fun request => request.ip = ip ∧ now < request.time + width)).length

variable {config : AdmissionConfig} {table : IpLimitTable ι} {clock now : Nat} {ip : ι}
variable {requests : List (HttpRequest ι)}

theorem allowedIn_eq (ip : ι) (start width : Nat) (requests : List (HttpRequest ι)) :
    allowedIn ip start width requests = ((allowedTimes ip requests).filter
      (fun time => start ≤ time ∧ time < start + width)).length := by
  rw [allowedIn, allowedTimes, List.filter_map, List.length_map, List.filter_filter]
  congr 1
  apply List.filter_congr
  intro request _
  simp only [Function.comp_apply, ← Bool.decide_and]
  congr 1
  apply propext
  tauto

theorem recent_le_madeWithin (ip : ι) (now width : Nat) (requests : List (HttpRequest ι)) :
    ((allowedTimes ip requests).filter (fun time => now < time + width)).length ≤
      madeWithin ip now width requests := by
  rw [madeWithin, allowedTimes, List.filter_map, List.length_map, List.filter_filter]
  apply List.Sublist.length_le
  apply List.monotone_filter_right
  intro request h
  simp only [Function.comp_apply, Bool.and_eq_true, decide_eq_true_eq] at h ⊢
  exact ⟨h.2.1, h.1⟩

/-- A table that is not full has an entry for everyone. -/
theorem IpLimitTable.entry_ne_none (hfree : table.entries.size < MAX_IP_LIMIT_ENTRIES) (ip : ι)
    (now : Nat) : (table.entry ip now config).2 ≠ none := by
  have hpruned : (table.pruneIfDue now config).entries.size ≤ table.entries.size := by
    rw [pruneIfDue]
    split
    next => exact Nat.le_refl _
    next => exact Table.size_retain_le _ _
  rw [entry]
  split
  next => exact Option.some_ne_none _
  next =>
    rw [dif_pos (hpruned.trans_lt hfree)]
    exact Option.some_ne_none _

/-- The count of an entry does not refuse an address with few recent requests. -/
theorem Recorded.allowed (h : Recorded config table clock requests)
    (hlimit : config.maxHttpRequestsPerIp ≠ 0) (hmax : config.httpRateLimitWindow ≤ maxDuration)
    (hwindow : 0 < config.httpRateLimitWindow) (hclock : clock ≤ now)
    (hfree : table.entries.size < MAX_IP_LIMIT_ENTRIES)
    (hfew : madeWithin ip now config.httpRateLimitWindow requests + 1 ≤
      config.maxHttpRequestsPerIp) : (table.allowHttpRequest config ip now).2 = true := by
  have hroom := h.entry hmax hwindow hclock ip
  have hsome : (table.entry ip now config).2 ≠ none := table.entry_ne_none hfree ip now
  obtain ⟨-, hget⟩ := table.entry_cases ip now config
  rw [IpLimitTable.allowHttpRequest, if_neg hlimit]
  generalize table.entry ip now config = room at hroom hsome hget ⊢
  obtain ⟨room, found⟩ := room
  cases found with
  | none => exact absurd rfl hsome
  | some found =>
    have hcurrent := hroom.current (hget found rfl)
    have hcount := hcurrent.requestCount_le (IpLimitEntry.lt_restartWindow hwindow now found)
    have hrecent := recent_le_madeWithin ip now config.httpRateLimitWindow requests
    have hbelow : ¬ config.maxHttpRequestsPerIp ≤
        (found.restartWindow config.httpRateLimitWindow now).requestCount := by
      dsimp only at hcount
      omega
    dsimp only
    rw [if_neg hbelow]

/-- Whatever calls come in between, and whatever pruning takes away: no half-open interval of the
window's width has more than twice the limit of allowed requests of an address, and a table that
is not full refuses no request of an address within the limit. -/
theorem httpLimit_sound_and_fair (hlimit : config.maxHttpRequestsPerIp ≠ 0)
    (hwindow : 0 < config.httpRateLimitWindow) (hmax : config.httpRateLimitWindow ≤ maxDuration)
    {start : Nat} {calls : List (IpLimitCall ι)}
    (horder : (start :: calls.map (·.now)).Pairwise (· ≤ ·)) :
    (∀ ip time, allowedIn ip time config.httpRateLimitWindow
      ((IpLimitTable.new start).handleAll config calls).2 ≤ 2 * config.maxHttpRequestsPerIp) ∧
    ∀ before ip now after, calls = before ++ ⟨.request ip, now⟩ :: after →
      let earlier := (IpLimitTable.new start).handleAll config before
      earlier.1.entries.size < MAX_IP_LIMIT_ENTRIES →
      madeWithin ip now config.httpRateLimitWindow earlier.2 + 1 ≤ config.maxHttpRequestsPerIp →
      (earlier.1.allowHttpRequest config ip now).2 = true := by
  constructor
  · intro ip time
    have hrecorded := Recorded.handleAll hlimit hmax hwindow horder
      (fun _ hmem => List.le_max?_getD_of_mem (k := start) hmem)
    rw [allowedIn_eq]
    exact (hrecorded ip).count_le time
  · rintro before ip now after rfl earlier hfree hfew
    rw [List.map_append, ← List.cons_append] at horder
    obtain ⟨hbefore, -, hlast⟩ := List.pairwise_append.mp horder
    have hclock : ∀ time ∈ start :: before.map (·.now), time ≤ now :=
      fun time hmem => hlast time hmem now List.mem_cons_self
    have hrecorded : Recorded config earlier.1 now earlier.2 :=
      Recorded.handleAll hlimit hmax hwindow hbefore hclock
    exact hrecorded.allowed hlimit hmax hwindow (Nat.le_refl now) hfree hfew

/-- Two requests in one window of a limit of two; the third, in the next window, finds its entry
gone. -/
theorem httpLimit_sound_and_fair_small :
    let config : AdmissionConfig := ⟨⟨1, 1, 1⟩, 2, 1, 1, 2, 10⟩
    let calls : List (IpLimitCall Nat) := [⟨.request 1, 0⟩, ⟨.acquire .listener 2, 3⟩,
      ⟨.request 1, 9⟩, ⟨.release ⟨2, .listener⟩, 12⟩, ⟨.request 1, 40⟩]
    (∀ ip time, allowedIn ip time 10 ((IpLimitTable.new 0).handleAll config calls).2 ≤ 2 * 2) ∧
    ∀ before ip now after, calls = before ++ ⟨.request ip, now⟩ :: after →
      let earlier := (IpLimitTable.new 0).handleAll config before
      earlier.1.entries.size < MAX_IP_LIMIT_ENTRIES →
      madeWithin ip now 10 earlier.2 + 1 ≤ 2 →
      (earlier.1.allowHttpRequest config ip now).2 = true :=
  @httpLimit_sound_and_fair Nat _ ⟨⟨1, 1, 1⟩, 2, 1, 1, 2, 10⟩ (by decide) (by decide)
    (by decide) 0 _ (by decide)

end Guarantees

end VRCStreamer
