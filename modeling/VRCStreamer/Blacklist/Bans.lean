import Mathlib.Data.Finset.Card
import VRCStreamer.Table.Basic

/-!
# The stream blacklist and the ban table

The blacklist of stream ids and the addresses banned for having presented a listed id,
as `main.rs` keeps them. Every operation is one step: it runs under the locks of the
list and of the table, in this order.
-/

namespace VRCStreamer

def MAX_STREAMER_IP_BANS : Nat := 65536

variable {κ ι : Type*} [DecidableEq κ] [DecidableEq ι]

/-- Listed ids for each banned address. An id that found the table full is remembered
in `overflowedIds` instead; while it is there, every address counts as banned. -/
structure StreamerIpBans (κ ι : Type*) where
  byIp : Table ι (Finset κ)
  associations : Nat
  overflowedIds : Finset κ

def StreamerIpBans.empty : StreamerIpBans κ ι := ⟨.empty, 0, ∅⟩

/-- `by_ip.get(&ip).is_some_and(|ids| ids.contains(key))`. -/
def StreamerIpBans.contains (blocked : StreamerIpBans κ ι) (ip : ι) (key : κ) : Bool :=
  (blocked.byIp.get? ip).any (fun ids => key ∈ ids)

/-- `by_ip.entry(ip).or_default().insert(key)`, and the counter with it. -/
def StreamerIpBans.insert (blocked : StreamerIpBans κ ι) (ip : ι) (key : κ) :
    StreamerIpBans κ ι :=
  { blocked with
    byIp := blocked.byIp.insert ip (Insert.insert key ((blocked.byIp.get? ip).getD ∅))
    associations := blocked.associations + 1 }

/-- The two locked fields of `AppState` that the ban functions use. -/
structure BanState (κ ι : Type*) where
  streamBlacklist : Finset κ
  blockedStreamerIps : StreamerIpBans κ ι

namespace BanState

def streamerIpIsBlocked (s : BanState κ ι) (ip : ι) : Bool :=
  (s.blockedStreamerIps.byIp.get? ip).isSome || decide (s.blockedStreamerIps.overflowedIds ≠ ∅)

def blockStreamerIpIfBlacklisted (s : BanState κ ι) (key : κ) (ip : ι) : Bool × BanState κ ι :=
  if key ∉ s.streamBlacklist then (false, s)
  else
    let blocked := s.blockedStreamerIps
    if blocked.contains ip key then (true, s)
    else if blocked.associations < MAX_STREAMER_IP_BANS then
      (true, { s with blockedStreamerIps := blocked.insert ip key })
    else
      (true, { s with blockedStreamerIps :=
        { blocked with overflowedIds := Insert.insert key blocked.overflowedIds } })

/-- The part of an address's ids that is still listed; an address without ids goes. -/
def retainIds (entries : Finset κ) (_ : ι) (streamIds : Finset κ) : Option (Finset κ) :=
  let streamIds := streamIds ∩ entries
  if streamIds = ∅ then none else some streamIds

/-- The locked part of `replace_stream_blacklist`; `none` when the list is unchanged.
The counter is summed up anew over the entries that stay. -/
def replaceStreamBlacklist (s : BanState κ ι) (entries : Finset κ) : Option (BanState κ ι) :=
  if s.streamBlacklist = entries then none
  else
    let byIp := s.blockedStreamerIps.byIp.retain (retainIds entries)
    some
      { streamBlacklist := entries
        blockedStreamerIps :=
          { byIp
            associations := byIp.total Finset.card
            overflowedIds := s.blockedStreamerIps.overflowedIds ∩ entries } }

end BanState

/-! ## What each operation does to the stored pairs -/

namespace StreamerIpBans

variable {blocked : StreamerIpBans κ ι} {ip ip' : ι} {key key' : κ}

theorem contains_iff :
    blocked.contains ip key = true ↔ ∃ ids, blocked.byIp.get? ip = some ids ∧ key ∈ ids := by
  rw [contains]
  cases blocked.byIp.get? ip <;> simp

@[simp] theorem contains_empty : (empty : StreamerIpBans κ ι).contains ip key = false := rfl

@[simp] theorem contains_insert :
    (blocked.insert ip key).contains ip' key' = true ↔
      (ip' = ip ∧ key' = key) ∨ blocked.contains ip' key' = true := by
  simp only [contains, insert, Table.get?_insert]
  by_cases h : ip = ip'
  · subst h
    cases blocked.byIp.get? ip <;> simp
  · simp [h, Ne.symm h]

/-- The consistency of the table: the counter is the number of stored pairs and at most
the maximum, no stored set is empty, and only listed ids are stored or overflowed. -/
structure Consistent (blocked : StreamerIpBans κ ι) (listed : Finset κ) : Prop where
  counted : blocked.associations = blocked.byIp.total Finset.card
  bounded : blocked.associations ≤ MAX_STREAMER_IP_BANS
  nonempty : ∀ ip ids, blocked.byIp.get? ip = some ids → ids ≠ ∅
  stored : ∀ ip ids, blocked.byIp.get? ip = some ids → ids ⊆ listed
  overflowed : blocked.overflowedIds ⊆ listed

omit [DecidableEq κ] in
theorem consistent_empty (listed : Finset κ) : (empty : StreamerIpBans κ ι).Consistent listed := by
  refine ⟨rfl, Nat.zero_le _, ?_, ?_, Finset.empty_subset _⟩ <;> simp [empty]

/-- A new pair adds one to the counter and one to the stored pairs. -/
theorem Consistent.insert {listed : Finset κ} (h : blocked.Consistent listed)
    (hkey : key ∈ listed) (hnew : blocked.contains ip key = false)
    (hroom : blocked.associations < MAX_STREAMER_IP_BANS) :
    (blocked.insert ip key).Consistent listed := by
  have hfresh : key ∉ (blocked.byIp.get? ip).getD ∅ := by
    intro hmem
    cases hget : blocked.byIp.get? ip with
    | none => simp [hget] at hmem
    | some ids =>
      have := contains_iff.mpr ⟨ids, hget, by simpa [hget] using hmem⟩
      rw [hnew] at this
      cases this
  refine ⟨?_, hroom, ?_, ?_, h.overflowed⟩
  · have htotal := Table.total_insert Finset.card blocked.byIp ip
      (Insert.insert key ((blocked.byIp.get? ip).getD ∅))
    rw [Finset.card_insert_of_notMem hfresh, ← h.counted] at htotal
    change blocked.associations + 1 = Table.total Finset.card (blocked.byIp.insert ip
      (Insert.insert key ((blocked.byIp.get? ip).getD ∅)))
    cases hget : blocked.byIp.get? ip with
    | none =>
      simp only [hget, Option.map_none, Option.getD_none, Finset.card_empty] at htotal ⊢
      omega
    | some ids =>
      simp only [hget, Option.map_some, Option.getD_some] at htotal ⊢
      omega
  · intro ip' ids hget
    simp only [StreamerIpBans.insert, Table.get?_insert] at hget
    split at hget
    next =>
      obtain rfl := Option.some.inj hget
      exact Finset.insert_ne_empty _ _
    next => exact h.nonempty ip' ids hget
  · intro ip' ids hget
    simp only [StreamerIpBans.insert, Table.get?_insert] at hget
    split at hget
    next =>
      obtain rfl := Option.some.inj hget
      apply Finset.insert_subset hkey
      cases hold : blocked.byIp.get? ip with
      | none => exact Finset.empty_subset _
      | some old => exact h.stored ip old hold
    next => exact h.stored ip' ids hget

/-- Overflowing adds a listed id to a full table and stores nothing. -/
theorem Consistent.overflow {listed : Finset κ} (h : blocked.Consistent listed)
    (hkey : key ∈ listed) :
    { blocked with overflowedIds := Insert.insert key blocked.overflowedIds }.Consistent listed :=
  ⟨h.counted, h.bounded, h.nonempty, h.stored, Finset.insert_subset hkey h.overflowed⟩

end StreamerIpBans

namespace BanState

variable {s s' : BanState κ ι} {key : κ} {ip : ι}

theorem block_of_notMem (h : key ∉ s.streamBlacklist) :
    s.blockStreamerIpIfBlacklisted key ip = (false, s) :=
  if_pos h

theorem block_of_contains (h : key ∈ s.streamBlacklist)
    (hc : s.blockedStreamerIps.contains ip key = true) :
    s.blockStreamerIpIfBlacklisted key ip = (true, s) := by
  rw [blockStreamerIpIfBlacklisted, if_neg (not_not.mpr h)]
  exact if_pos hc

theorem block_of_room (h : key ∈ s.streamBlacklist)
    (hc : s.blockedStreamerIps.contains ip key = false)
    (hroom : s.blockedStreamerIps.associations < MAX_STREAMER_IP_BANS) :
    s.blockStreamerIpIfBlacklisted key ip =
      (true, { s with blockedStreamerIps := s.blockedStreamerIps.insert ip key }) := by
  simp only [blockStreamerIpIfBlacklisted, if_neg (not_not.mpr h), hc, Bool.false_eq_true,
    if_false, if_pos hroom]

theorem block_of_full (h : key ∈ s.streamBlacklist)
    (hc : s.blockedStreamerIps.contains ip key = false)
    (hfull : MAX_STREAMER_IP_BANS ≤ s.blockedStreamerIps.associations) :
    s.blockStreamerIpIfBlacklisted key ip =
      (true, { s with blockedStreamerIps := { s.blockedStreamerIps with
        overflowedIds := Insert.insert key s.blockedStreamerIps.overflowedIds } }) := by
  simp only [blockStreamerIpIfBlacklisted, if_neg (not_not.mpr h), hc, Bool.false_eq_true,
    if_false, if_neg (Nat.not_lt.mpr hfull)]

/-- The answer of a block call depends on the list alone. -/
theorem block_fst : (s.blockStreamerIpIfBlacklisted key ip).1 = true ↔ key ∈ s.streamBlacklist := by
  by_cases h : key ∈ s.streamBlacklist
  · have answer : (s.blockStreamerIpIfBlacklisted key ip).1 = true := by
      cases hc : s.blockedStreamerIps.contains ip key with
      | true => rw [block_of_contains h hc]
      | false =>
        obtain hroom | hfull :=
          Nat.lt_or_ge s.blockedStreamerIps.associations MAX_STREAMER_IP_BANS
        · rw [block_of_room h hc hroom]
        · rw [block_of_full h hc hfull]
    simp [h, answer]
  · simp [block_of_notMem h, h]

/-- A listed pair is covered after a block call: it is stored or its id has overflowed. -/
theorem block_covers (h : key ∈ s.streamBlacklist) :
    (s.blockStreamerIpIfBlacklisted key ip).2.blockedStreamerIps.contains ip key = true ∨
      key ∈ (s.blockStreamerIpIfBlacklisted key ip).2.blockedStreamerIps.overflowedIds := by
  cases hc : s.blockedStreamerIps.contains ip key with
  | true =>
    rw [block_of_contains h hc]
    exact .inl hc
  | false =>
    rcases Nat.lt_or_ge s.blockedStreamerIps.associations MAX_STREAMER_IP_BANS with hroom | hfull
    · rw [block_of_room h hc hroom]
      exact .inl (StreamerIpBans.contains_insert.mpr (.inl ⟨rfl, rfl⟩))
    · rw [block_of_full h hc hfull]
      exact .inr (Finset.mem_insert_self _ _)

@[simp] theorem block_streamBlacklist (s : BanState κ ι) (key : κ) (ip : ι) :
    (s.blockStreamerIpIfBlacklisted key ip).2.streamBlacklist = s.streamBlacklist := by
  rw [blockStreamerIpIfBlacklisted]
  split <;> [rfl; skip]
  dsimp only
  split <;> [rfl; skip]
  split <;> rfl

omit [DecidableEq ι] in
theorem replace_list {entries : Finset κ} :
    ((s.replaceStreamBlacklist entries).getD s).streamBlacklist = entries := by
  rw [replaceStreamBlacklist]
  split
  next h => exact h
  next => rfl

/-- A reload keeps the pairs and the overflowed ids that are still listed. On an
unchanged list this is everything, as only listed ids were there. -/
theorem replace_contains {entries : Finset κ}
    (hs : s.blockedStreamerIps.Consistent s.streamBlacklist) :
    ((s.replaceStreamBlacklist entries).getD s).blockedStreamerIps.contains ip key = true ↔
      s.blockedStreamerIps.contains ip key = true ∧ key ∈ entries := by
  rw [replaceStreamBlacklist]
  split
  next same =>
    rw [Option.getD_none, ← same]
    refine ⟨fun h => ⟨h, ?_⟩, And.left⟩
    obtain ⟨ids, hget, hmem⟩ := StreamerIpBans.contains_iff.mp h
    exact hs.stored ip ids hget hmem
  next =>
    rw [Option.getD_some, StreamerIpBans.contains_iff, StreamerIpBans.contains_iff]
    simp only [Table.get?_retain]
    cases s.blockedStreamerIps.byIp.get? ip with
    | none => simp
    | some ids =>
      by_cases hempty : ids ∩ entries = ∅
      · have hnone : key ∈ ids → key ∉ entries := by
          intro hids hentries
          have hmem : key ∈ ids ∩ entries := Finset.mem_inter.mpr ⟨hids, hentries⟩
          rw [hempty] at hmem
          exact absurd hmem (Finset.notMem_empty key)
        simpa [retainIds, hempty] using hnone
      · simp [retainIds, hempty]

theorem replace_overflowed {entries : Finset κ}
    (hs : s.blockedStreamerIps.Consistent s.streamBlacklist) :
    key ∈ ((s.replaceStreamBlacklist entries).getD s).blockedStreamerIps.overflowedIds ↔
      key ∈ s.blockedStreamerIps.overflowedIds ∧ key ∈ entries := by
  rw [replaceStreamBlacklist]
  split
  next same =>
    rw [Option.getD_none, ← same]
    exact ⟨fun h => ⟨h, hs.overflowed h⟩, And.left⟩
  next => exact Finset.mem_inter

theorem replace_consistent {entries : Finset κ}
    (hs : s.blockedStreamerIps.Consistent s.streamBlacklist) :
    ((s.replaceStreamBlacklist entries).getD s).blockedStreamerIps.Consistent entries := by
  rw [replaceStreamBlacklist]
  split
  next same =>
    rw [Option.getD_none, ← same]
    exact hs
  next =>
    have hretained : ∀ ip ids,
        (s.blockedStreamerIps.byIp.retain (retainIds entries)).get? ip = some ids →
        ids ≠ ∅ ∧ ids ⊆ entries := by
      intro ip ids hget
      rw [Table.get?_retain, Option.bind_eq_some_iff] at hget
      obtain ⟨old, -, hold⟩ := hget
      simp only [retainIds] at hold
      split at hold
      · cases hold
      next hne =>
        obtain rfl := Option.some.inj hold
        exact ⟨hne, Finset.inter_subset_right⟩
    have hshrink : ∀ (ip : ι) ids rest, retainIds entries ip ids = some rest →
        rest.card ≤ ids.card := by
      intro ip ids rest hrest
      simp only [retainIds] at hrest
      split at hrest
      · cases hrest
      · obtain rfl := Option.some.inj hrest
        exact Finset.card_le_card Finset.inter_subset_left
    have hle := Table.total_retain_le Finset.card (retainIds entries) s.blockedStreamerIps.byIp
      hshrink
    refine ⟨rfl, ?_, fun ip ids h => (hretained ip ids h).1, fun ip ids h => (hretained ip ids h).2,
      Finset.inter_subset_right⟩
    rw [Option.getD_some]
    exact hle.trans (hs.counted ▸ hs.bounded)

end BanState

end VRCStreamer
