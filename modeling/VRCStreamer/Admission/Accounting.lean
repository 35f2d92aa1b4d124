import VRCStreamer.Admission.Connection
import VRCStreamer.Channel.Counters

/-!
# Exact accounts of the server's counters

Every counter stands for the threads that hold what it counts, in every reachable state: the
connections, the streamers and listeners of an address, and through the threads of the channel
map the active streamers, the active listeners and the listeners of a channel.
-/

namespace VRCStreamer

open Concurrency

variable {κ θ ι : Type*}

namespace Admission

variable [DecidableEq κ] [DecidableEq θ] [DecidableEq ι] {config : AdmissionConfig} {t : θ}
variable {m m' : Admission κ θ ι} {pc pc' : ConnectionPc κ ι}

/-! ## What a step does -/

/-- The effects of a step on the guards of its thread and on what they stand for. -/
inductive Performed (config : AdmissionConfig) (t : θ) (m : Admission κ θ ι)
    (pc : ConnectionPc κ ι) : Admission κ θ ι → ConnectionPc κ ι → Prop
  | move {pc' : ConnectionPc κ ι} (hip : pc'.ipGuard = pc.ipGuard)
      (hconnection : pc'.connectionGuard = pc.connectionGuard) (hmap : pc'.map = pc.map) :
      Performed config t m pc m pc'
  | http {pc' : ConnectionPc κ ι} {ip : ι} {now : Nat} {ipLimits : IpLimitTable ι} {allowed : Bool}
      (hlimits : m.ipLimits.allowHttpRequest config ip now = (ipLimits, allowed))
      (hip : pc'.ipGuard = pc.ipGuard) (hconnection : pc'.connectionGuard = pc.connectionGuard)
      (hmap : pc'.map = pc.map) : Performed config t m pc { m with ipLimits } pc'
  | acquireIp {pc' : ConnectionPc κ ι} (kind : IpConnectionKind) {ip : ι}
      {tableFullError limitError : String} {now : Nat} {ipLimits : IpLimitTable ι}
      {result : Except String (Option (IpLimitGuard ι))}
      (hlimits : m.ipLimits.tryAcquireIp config ip kind (config.maxPerIp kind) tableFullError
        limitError now = (ipLimits, result))
      (hbefore : pc.ipGuard = none)
      (hafter : ∀ guard, pc'.ipGuard = some guard ↔ result = .ok (some guard))
      (hconnection : pc'.connectionGuard = pc.connectionGuard) (hmap : pc'.map = pc.map) :
      Performed config t m pc { m with ipLimits } pc'
  | dropIp {pc' : ConnectionPc κ ι} (guard : IpLimitGuard ι) (now : Nat)
      (hbefore : pc.ipGuard = some guard) (hafter : pc'.ipGuard = none)
      (hconnection : pc'.connectionGuard = pc.connectionGuard) (hmap : pc'.map = pc.map) :
      Performed config t m pc { m with ipLimits := m.ipLimits.release guard now } pc'
  | acquireConnection {pc' : ConnectionPc κ ι}
      (hallowed : config.maxConnections = 0 ∨ m.activeConnections < config.maxConnections)
      (hbefore : pc.connectionGuard = false) (hafter : pc'.connectionGuard = true)
      (hip : pc'.ipGuard = pc.ipGuard)
      (hmap : pc'.map = pc.map ∨ pc.map = .idle ∧ ∃ call : MapCall κ, pc'.map = call.enter) :
      Performed config t m pc { m with activeConnections := m.activeConnections + 1 } pc'
  | dropConnection {pc' : ConnectionPc κ ι} (hbefore : pc.connectionGuard = true)
      (hafter : pc'.connectionGuard = false) (hip : pc'.ipGuard = pc.ipGuard)
      (hmap : pc'.map = pc.map) :
      Performed config t m pc { m with activeConnections := m.activeConnections - 1 } pc'
  | listen {pc' : ConnectionPc κ ι} (call : MapCall κ) (hbefore : pc.map = .idle)
      (hafter : pc'.map = call.enter) (hip : pc'.ipGuard = pc.ipGuard)
      (hconnection : pc'.connectionGuard = pc.connectionGuard) : Performed config t m pc m pc'
  | advanceMap {pc' : ConnectionPc κ ι} {map : ChannelMap κ θ}
      (hstep : m.map.advance config.limits t pc.map = some (map, pc'.map))
      (hip : pc'.ipGuard = pc.ipGuard) (hconnection : pc'.connectionGuard = pc.connectionGuard) :
      Performed config t m pc { m with map } pc'

theorem performed_of_advanceMap (pc : ConnectionPc κ ι) {after : MapPc κ → ConnectionPc κ ι}
    (h : m.advanceMap config t pc.map after = some (m', pc'))
    (hip : ∀ map, (after map).ipGuard = pc.ipGuard)
    (hconnection : ∀ map, (after map).connectionGuard = pc.connectionGuard)
    (hmap : ∀ map, (after map).map = map) : Performed config t m pc m' pc' := by
  obtain ⟨⟨map, next⟩, hstep, heq⟩ := Option.map_eq_some_iff.mp h
  obtain ⟨rfl, rfl⟩ := Prod.mk.inj heq
  refine .advanceMap ?_ (hip next) (hconnection next)
  rw [hmap]
  exact hstep

omit [DecidableEq κ] [DecidableEq θ] [DecidableEq ι] in
theorem tryAcquireConnection_ok (h : m.tryAcquireConnection config = .ok m') :
    (config.maxConnections = 0 ∨ m.activeConnections < config.maxConnections) ∧
      m' = { m with activeConnections := m.activeConnections + 1 } := by
  rw [tryAcquireConnection] at h
  split at h
  next hallowed => exact ⟨hallowed, (Except.ok.inj h).symm⟩
  next => cases h

theorem performed_of_advance {now : Nat} (h : m.advance config t now pc = some (m', pc')) :
    Performed config t m pc m' pc' := by
  cases pc with
  | idle => cases h
  | http ip =>
    obtain ⟨rfl, rfl⟩ := Prod.mk.inj (Option.some.inj h)
    exact .http rfl rfl rfl rfl
  | request ip key =>
    rw [advance] at h
    split at h
    next ipLimits hlimits =>
      obtain ⟨rfl, rfl⟩ := Prod.mk.inj (Option.some.inj h)
      exact .http hlimits rfl rfl rfl
    next ipLimits hlimits =>
      obtain ⟨rfl, rfl⟩ := Prod.mk.inj (Option.some.inj h)
      exact .http hlimits rfl rfl rfl
  | checks ip key =>
    obtain ⟨rfl, rfl⟩ := Prod.mk.inj (Option.some.inj h)
    exact .move rfl rfl rfl
  | streamerIp ip key =>
    rw [advance] at h
    split at h
    next ipLimits guard hlimits =>
      obtain ⟨rfl, rfl⟩ := Prod.mk.inj (Option.some.inj h)
      refine .acquireIp .streamer hlimits rfl ?_ rfl rfl
      intro other
      rw [Except.ok.injEq]
      rfl
    next ipLimits reason hlimits =>
      obtain ⟨rfl, rfl⟩ := Prod.mk.inj (Option.some.inj h)
      exact .acquireIp .streamer hlimits rfl (by simp [ConnectionPc.ipGuard]) rfl rfl
  | streamerConnection guard key =>
    rw [advance] at h
    split at h
    next after hok =>
      obtain ⟨hallowed, rfl⟩ := tryAcquireConnection_ok hok
      obtain ⟨rfl, rfl⟩ := Prod.mk.inj (Option.some.inj h)
      exact .acquireConnection hallowed rfl rfl rfl (.inr ⟨rfl, .publish key, rfl⟩)
    next =>
      obtain ⟨rfl, rfl⟩ := Prod.mk.inj (Option.some.inj h)
      exact .move rfl rfl rfl
  | publishing guard map =>
    by_cases hidle : map = .idle
    · subst hidle
      obtain ⟨rfl, rfl⟩ := Prod.mk.inj (Option.some.inj h)
      exact .move rfl rfl rfl
    · have hmap : m.advanceMap config t map (.publishing guard) = some (m', pc') := by
        rw [← h]
        cases map <;> first | rfl | exact absurd rfl hidle
      exact performed_of_advanceMap (.publishing guard map) hmap (fun _ => rfl) (fun _ => rfl)
        (fun _ => rfl)
  | listenerIp ip =>
    rw [advance] at h
    split at h
    next ipLimits guard hlimits =>
      obtain ⟨rfl, rfl⟩ := Prod.mk.inj (Option.some.inj h)
      refine .acquireIp .listener hlimits rfl ?_ rfl rfl
      intro other
      rw [Except.ok.injEq]
      rfl
    next ipLimits reason hlimits =>
      obtain ⟨rfl, rfl⟩ := Prod.mk.inj (Option.some.inj h)
      exact .acquireIp .listener hlimits rfl (by simp [ConnectionPc.ipGuard]) rfl rfl
  | listenerConnection guard =>
    rw [advance] at h
    split at h
    next after hok =>
      obtain ⟨hallowed, rfl⟩ := tryAcquireConnection_ok hok
      obtain ⟨rfl, rfl⟩ := Prod.mk.inj (Option.some.inj h)
      exact .acquireConnection hallowed rfl rfl rfl (.inl rfl)
    next =>
      obtain ⟨rfl, rfl⟩ := Prod.mk.inj (Option.some.inj h)
      exact .move rfl rfl rfl
  | session guard map =>
    cases map with
    | holding role key id => cases h
    | _ =>
      exact performed_of_advanceMap (.session guard _) h (fun _ => rfl) (fun _ => rfl)
        (fun _ => rfl)
  | closing ipGuard connectionGuard map =>
    exact performed_of_advanceMap (.closing ipGuard connectionGuard map) h (fun _ => rfl)
      (fun _ => rfl) (fun _ => rfl)

theorem performed_of_program {choice : ConnectionChoice κ ι}
    (h : program config t choice m pc = some (m', pc')) : Performed config t m pc m' pc' := by
  cases choice with
  | advance now => exact performed_of_advance h
  | http ip | ingest ip key | accept ip =>
    cases pc with
    | idle =>
      obtain ⟨rfl, rfl⟩ := Prod.mk.inj (Option.some.inj h)
      exact .move rfl rfl rfl
    | _ => cases h
  | refuse =>
    cases pc with
    | checks ip key =>
      obtain ⟨rfl, rfl⟩ := Prod.mk.inj (Option.some.inj h)
      exact .move rfl rfl rfl
    | _ => cases h
  | listen key =>
    cases pc with
    | session guard map =>
      cases map with
      | idle =>
        obtain ⟨rfl, rfl⟩ := Prod.mk.inj (Option.some.inj h)
        exact .listen (.listen key) rfl rfl rfl rfl
      | _ => cases h
    | _ => cases h
  | close =>
    cases pc with
    | session guard map =>
      cases map with
      | idle | holding role key id =>
        obtain ⟨rfl, rfl⟩ := Prod.mk.inj (Option.some.inj h)
        exact .move rfl rfl rfl
      | _ => cases h
    | _ => cases h
  | dropIp now =>
    cases pc with
    | closing ipGuard connectionGuard map =>
      cases ipGuard with
      | none => cases h
      | some guard =>
        obtain ⟨rfl, rfl⟩ := Prod.mk.inj (Option.some.inj h)
        exact .dropIp guard now rfl rfl rfl rfl
    | _ => cases h
  | dropConnection =>
    cases pc with
    | closing ipGuard connectionGuard map =>
      cases connectionGuard with
      | false => cases h
      | true =>
        obtain ⟨rfl, rfl⟩ := Prod.mk.inj (Option.some.inj h)
        exact .dropConnection rfl rfl rfl rfl
    | _ => cases h
  | done =>
    cases pc with
    | closing ipGuard connectionGuard map =>
      cases ipGuard with
      | some guard => cases h
      | none =>
        cases connectionGuard with
        | true => cases h
        | false =>
          cases map with
          | idle =>
            obtain ⟨rfl, rfl⟩ := Prod.mk.inj (Option.some.inj h)
            exact .move rfl rfl rfl
          | _ => cases h
    | _ => cases h

/-! ## The threads of the channel map -/

/-- The threads of the channel map among the connections. -/
def mapThreads (s : Threads θ (Admission κ θ ι) (ConnectionPc κ ι)) :
    Threads θ (ChannelMap κ θ) (MapPc κ) :=
  ⟨s.memory.map, fun t => (s.pc t).map⟩

variable {s : Threads θ (Admission κ θ ι) (ConnectionPc κ ι)} {now : Nat}

/-- The counters of connections and addresses stand for guards and keep to their limits. -/
structure GuardsExact (config : AdmissionConfig)
    (s : Threads θ (Admission κ θ ι) (ConnectionPc κ ι)) : Prop where
  connections : Counts s.memory.activeConnections (fun t => (s.pc t).connectionGuard = true)
  connectionsWithin : Within config.maxConnections s.memory.activeConnections
  ips : ∀ kind ip, Counts (s.memory.ipLimits.count kind ip)
    (fun t => (s.pc t).ipGuard = some ⟨ip, kind⟩)
  ipsWithin : ∀ kind ip, Within (config.maxPerIp kind) (s.memory.ipLimits.count kind ip)

omit [DecidableEq κ] [DecidableEq θ] in
theorem guardsExact_start : GuardsExact config
    (⟨start now, fun _ => .idle⟩ : Threads θ (Admission κ θ ι) (ConnectionPc κ ι)) where
  connections := counts_zero (by rintro t ⟨⟩)
  connectionsWithin := .zero
  ips kind ip := counts_zero (by rintro t ⟨⟩)
  ipsWithin kind ip := .zero

namespace GuardsExact

omit [DecidableEq κ] in
/-- A step that leaves the guards of addresses alone. -/
theorem ips_keep (h : GuardsExact config s) (hip : pc'.ipGuard = (s.pc t).ipGuard)
    {ipLimits : IpLimitTable ι}
    (hcount : ∀ kind ip, ipLimits.count kind ip = s.memory.ipLimits.count kind ip) :
    (∀ kind ip, Counts (ipLimits.count kind ip)
        (fun u => (Function.update s.pc t pc' u).ipGuard = some ⟨ip, kind⟩)) ∧
      ∀ kind ip, Within (config.maxPerIp kind) (ipLimits.count kind ip) := by
  constructor
  · intro kind ip
    rw [hcount]
    apply (h.ips kind ip).update_keep
      (R := fun pc : ConnectionPc κ ι => pc.ipGuard = some ⟨ip, kind⟩)
    rw [hip]
  · intro kind ip
    rw [hcount]
    exact h.ipsWithin kind ip

omit [DecidableEq κ] in
/-- A step that leaves the guard of the connection alone. -/
theorem connections_keep (h : GuardsExact config s)
    (hconnection : pc'.connectionGuard = (s.pc t).connectionGuard) :
    Counts s.memory.activeConnections
      (fun u => (Function.update s.pc t pc' u).connectionGuard = true) := by
  apply h.connections.update_keep (R := fun pc : ConnectionPc κ ι => pc.connectionGuard = true)
  rw [hconnection]

omit [DecidableEq κ] in
theorem ips_acquire (h : GuardsExact config s) {kind : IpConnectionKind} {ip : ι}
    {tableFullError limitError : String} {now : Nat} {ipLimits : IpLimitTable ι}
    {result : Except String (Option (IpLimitGuard ι))}
    (hlimits : s.memory.ipLimits.tryAcquireIp config ip kind (config.maxPerIp kind) tableFullError
      limitError now = (ipLimits, result))
    (hbefore : (s.pc t).ipGuard = none)
    (hafter : ∀ guard, pc'.ipGuard = some guard ↔ result = .ok (some guard)) :
    (∀ kind ip, Counts (ipLimits.count kind ip)
        (fun u => (Function.update s.pc t pc' u).ipGuard = some ⟨ip, kind⟩)) ∧
      ∀ kind ip, Within (config.maxPerIp kind) (ipLimits.count kind ip) := by
  have hcases := s.memory.ipLimits.tryAcquireIp_cases config ip kind (config.maxPerIp kind)
    tableFullError limitError now
  rw [hlimits] at hcases
  obtain ⟨⟨hok, hbelow⟩, hcount⟩ | ⟨hrefused, hcount⟩ := hcases
  · have hguard := (hafter ⟨ip, kind⟩).mpr hok
    constructor
    · intro kind' ip'
      rw [hcount]
      split
      next hsame =>
        obtain ⟨rfl, rfl⟩ := hsame
        apply (h.ips kind' ip').update_gain
          (R := fun pc : ConnectionPc κ ι => pc.ipGuard = some ⟨ip', kind'⟩)
        · simp [hbefore]
        · exact hguard
      next hother =>
        apply (h.ips kind' ip').update_keep
          (R := fun pc : ConnectionPc κ ι => pc.ipGuard = some ⟨ip', kind'⟩)
        have hne : (⟨ip, kind⟩ : IpLimitGuard ι) ≠ ⟨ip', kind'⟩ := by
          rintro ⟨⟩
          exact hother ⟨rfl, rfl⟩
        simp [hbefore, hguard, hne]
    · intro kind' ip'
      rw [hcount]
      split
      next hsame =>
        obtain ⟨rfl, rfl⟩ := hsame
        exact .inr hbelow
      next => exact h.ipsWithin kind' ip'
  · have hnone : pc'.ipGuard = (s.pc t).ipGuard := by
      rw [hbefore]
      apply Option.eq_none_iff_forall_ne_some.mpr
      intro guard hguard
      exact hrefused guard ((hafter guard).mp hguard)
    exact h.ips_keep hnone hcount

omit [DecidableEq κ] in
theorem ips_drop (h : GuardsExact config s) {guard : IpLimitGuard ι} (now : Nat)
    (hbefore : (s.pc t).ipGuard = some guard) (hafter : pc'.ipGuard = none) :
    (∀ kind ip, Counts ((s.memory.ipLimits.release guard now).count kind ip)
        (fun u => (Function.update s.pc t pc' u).ipGuard = some ⟨ip, kind⟩)) ∧
      ∀ kind ip, Within (config.maxPerIp kind)
        ((s.memory.ipLimits.release guard now).count kind ip) := by
  constructor
  · intro kind ip
    rw [IpLimitTable.count_release]
    split
    next hsame =>
      obtain ⟨rfl, rfl⟩ := hsame
      apply (h.ips guard.kind guard.ip).update_lose
        (R := fun pc : ConnectionPc κ ι => pc.ipGuard = some ⟨guard.ip, guard.kind⟩)
      · exact hbefore
      · simp [hafter]
    next hother =>
      apply (h.ips kind ip).update_keep
        (R := fun pc : ConnectionPc κ ι => pc.ipGuard = some ⟨ip, kind⟩)
      have hne : guard ≠ ⟨ip, kind⟩ := by
        rintro rfl
        exact hother ⟨rfl, rfl⟩
      simp [hbefore, hafter, hne]
  · intro kind ip
    rw [IpLimitTable.count_release]
    split
    next => exact (h.ipsWithin kind ip).mono (Nat.sub_le _ _)
    next => exact h.ipsWithin kind ip

theorem performed (h : GuardsExact config s)
    (hperformed : Performed config t s.memory (s.pc t) m' pc') :
    GuardsExact config ⟨m', Function.update s.pc t pc'⟩ := by
  cases hperformed with
  | move hip hconnection _ =>
    obtain ⟨hips, hwithin⟩ := h.ips_keep hip (fun _ _ => rfl)
    exact ⟨h.connections_keep hconnection, h.connectionsWithin, hips, hwithin⟩
  | @http _ ip now ipLimits allowed hlimits hip hconnection _ =>
    have hcount : ∀ kind ip', ipLimits.count kind ip' = s.memory.ipLimits.count kind ip' := by
      intro kind ip'
      have hallowed := s.memory.ipLimits.count_allowHttpRequest config ip now kind ip'
      rw [hlimits] at hallowed
      exact hallowed
    have hkept := h.ips_keep hip hcount
    exact ⟨h.connections_keep hconnection, h.connectionsWithin, hkept.1, hkept.2⟩
  | acquireIp kind hlimits hbefore hafter hconnection _ =>
    obtain ⟨hips, hwithin⟩ := h.ips_acquire hlimits hbefore hafter
    exact ⟨h.connections_keep hconnection, h.connectionsWithin, hips, hwithin⟩
  | dropIp guard now hbefore hafter hconnection _ =>
    obtain ⟨hips, hwithin⟩ := h.ips_drop now hbefore hafter
    exact ⟨h.connections_keep hconnection, h.connectionsWithin, hips, hwithin⟩
  | acquireConnection hallowed hbefore hafter hip _ =>
    obtain ⟨hips, hwithin⟩ := h.ips_keep hip (fun _ _ => rfl)
    refine ⟨?_, hallowed, hips, hwithin⟩
    apply h.connections.update_gain (R := fun pc : ConnectionPc κ ι => pc.connectionGuard = true)
    · simp [hbefore]
    · exact hafter
  | dropConnection hbefore hafter hip _ =>
    obtain ⟨hips, hwithin⟩ := h.ips_keep hip (fun _ _ => rfl)
    refine ⟨?_, h.connectionsWithin.mono (Nat.sub_le _ _), hips, hwithin⟩
    apply h.connections.update_lose (R := fun pc : ConnectionPc κ ι => pc.connectionGuard = true)
    · exact hbefore
    · simp [hafter]
  | listen _ _ _ hip hconnection =>
    obtain ⟨hips, hwithin⟩ := h.ips_keep hip (fun _ _ => rfl)
    exact ⟨h.connections_keep hconnection, h.connectionsWithin, hips, hwithin⟩
  | advanceMap _ hip hconnection =>
    obtain ⟨hips, hwithin⟩ := h.ips_keep hip (fun _ _ => rfl)
    exact ⟨h.connections_keep hconnection, h.connectionsWithin, hips, hwithin⟩

theorem of_reachable (h : (system config now).Reachable s) : GuardsExact config s := by
  refine h.invariant guardsExact_start ?_
  rintro s ⟨t, choice⟩ s' hs hstep
  obtain ⟨m', pc', hprogram, rfl⟩ := Program.step_eq_some.mp hstep
  exact hs.performed (performed_of_program hprogram)

end GuardsExact

/-! ## All accounts -/

/-- Limits of one for a sample run. -/
def smallConfig : AdmissionConfig := ⟨⟨1, 1, 1⟩, 2, 1, 1, 4, 10 ^ 9⟩

def smallServer : System (Threads Nat (Admission Nat Nat Nat) (ConnectionPc Nat Nat))
    (Nat × ConnectionChoice Nat Nat) :=
  system smallConfig 0

end Admission

end VRCStreamer
