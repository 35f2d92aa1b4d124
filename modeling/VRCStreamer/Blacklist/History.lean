import VRCStreamer.Blacklist.Bans
import VRCStreamer.History.Since

/-!
# The ban table refines a history

A history is the sequence of operations since the server started. What the ban table
should answer is read off the history alone, except for the one fact that no history
without the table can tell: whether a call found the table full. `Tracks` relates the
table to the history after every operation; `bans_refine_history` is its reading.
-/

namespace VRCStreamer

open History

variable {κ ι : Type*} [DecidableEq κ] [DecidableEq ι]

/-- One locked operation on the blacklist and the ban table. -/
inductive BanOp (κ ι : Type*) where
  | block (key : κ) (ip : ι)
  | replace (entries : Finset κ)
  | isBlocked (ip : ι)

namespace BanState

def init (listed : Finset κ) : BanState κ ι := ⟨listed, .empty⟩

def step (s : BanState κ ι) : BanOp κ ι → BanState κ ι
  | .block key ip => (s.blockStreamerIpIfBlacklisted key ip).2
  | .replace entries => (s.replaceStreamBlacklist entries).getD s
  | .isBlocked _ => s

def run (listed : Finset κ) (ops : List (BanOp κ ι)) : BanState κ ι :=
  ops.foldl step (init listed)

@[simp] theorem run_nil (listed : Finset κ) :
    run listed ([] : List (BanOp κ ι)) = init listed := rfl

@[simp] theorem run_concat (listed : Finset κ) (ops : List (BanOp κ ι)) (op : BanOp κ ι) :
    run listed (ops ++ [op]) = (run listed ops).step op := by
  simp [run]

/-- The call finds its pair missing from a full table. -/
def Overflows (s : BanState κ ι) (key : κ) (ip : ι) : Prop :=
  s.blockedStreamerIps.contains ip key = false ∧
    MAX_STREAMER_IP_BANS ≤ s.blockedStreamerIps.associations

end BanState

/-! ## The history specification -/

/-- The list in force: the last one that was swapped in. -/
def currentList (listed : Finset κ) (ops : List (BanOp κ ι)) : Finset κ :=
  ops.foldl (fun current op =>
    match op with
    | .replace entries => entries
    | _ => current) listed

omit [DecidableEq κ] [DecidableEq ι] in
@[simp] theorem currentList_concat (listed : Finset κ) (ops : List (BanOp κ ι))
    (op : BanOp κ ι) :
    currentList listed (ops ++ [op]) =
      match op with
      | .replace entries => entries
      | _ => currentList listed ops := by
  simp only [currentList, List.foldl_append]
  rfl

/-- The operation does not take the id off the list. -/
def BanOp.Keeps (key : κ) : BanOp κ ι → Prop
  | .replace entries => key ∈ entries
  | _ => True

/-- Since the id was last added to the list it was presented from the address. -/
def Presented (listed : Finset κ) (key : κ) (ip : ι) (ops : List (BanOp κ ι)) : Prop :=
  Since (fun before op => op = .block key ip ∧ key ∈ currentList listed before) (BanOp.Keeps key) ops

/-- Since the id was last added to the list, a call with it found the table full. -/
def Overflowed (listed : Finset κ) (key : κ) (ops : List (BanOp κ ι)) : Prop :=
  Since (fun before op => ∃ ip, op = .block key ip ∧ key ∈ currentList listed before ∧
    (BanState.run listed before).Overflows key ip) (BanOp.Keeps key) ops

/-! ## The table follows the history -/

/-- The table agrees with the history: it is consistent with the list in force, its
pairs were presented, its overflowed ids did overflow, and every presented pair is
covered by one or the other. -/
structure Tracks (listed : Finset κ) (ops : List (BanOp κ ι)) (s : BanState κ ι) : Prop where
  list : s.streamBlacklist = currentList listed ops
  consistent : s.blockedStreamerIps.Consistent s.streamBlacklist
  presented : ∀ ip key, s.blockedStreamerIps.contains ip key = true → Presented listed key ip ops
  overflowed : ∀ key, key ∈ s.blockedStreamerIps.overflowedIds ↔ Overflowed listed key ops
  covered : ∀ ip key, Presented listed key ip ops →
    s.blockedStreamerIps.contains ip key = true ∨ key ∈ s.blockedStreamerIps.overflowedIds

theorem tracks_init (listed : Finset κ) :
    Tracks listed ([] : List (BanOp κ ι)) (BanState.init listed) where
  list := rfl
  consistent := StreamerIpBans.consistent_empty listed
  presented ip key h := by simp [BanState.init] at h
  overflowed key := by simp [BanState.init, StreamerIpBans.empty, Overflowed, not_since_nil]
  covered ip key h := absurd h not_since_nil

variable {listed : Finset κ} {ops : List (BanOp κ ι)}

omit [DecidableEq κ] [DecidableEq ι] in
theorem presented_concat {key : κ} {ip : ι} {op : BanOp κ ι} :
    Presented listed key ip (ops ++ [op]) ↔
      (op = .block key ip ∧ key ∈ currentList listed ops) ∨
        (Presented listed key ip ops ∧ op.Keeps key) :=
  since_concat

theorem overflowed_concat {key : κ} {op : BanOp κ ι} :
    Overflowed listed key (ops ++ [op]) ↔
      (∃ ip, op = .block key ip ∧ key ∈ currentList listed ops ∧
        (BanState.run listed ops).Overflows key ip) ∨
        (Overflowed listed key ops ∧ op.Keeps key) :=
  since_concat

/-- A call that changes nothing keeps the agreement when it is neither a new
presentation nor an overflow that the table does not know. -/
theorem Tracks.block_unchanged {key : κ} {ip : ι}
    (h : Tracks listed ops (BanState.run listed ops))
    (hknown : key ∈ currentList listed ops →
      (BanState.run listed ops).blockedStreamerIps.contains ip key = true) :
    Tracks listed (ops ++ [.block key ip]) (BanState.run listed ops) := by
  refine ⟨?_, h.consistent, ?_, ?_, ?_⟩
  · rw [currentList_concat]
    exact h.list
  · intro ip' key' hc
    exact presented_concat.mpr (.inr ⟨h.presented ip' key' hc, trivial⟩)
  · intro key'
    rw [overflowed_concat, h.overflowed]
    refine ⟨fun ho => .inr ⟨ho, trivial⟩, ?_⟩
    rintro (⟨ip', hop, hlisted, hmissing, -⟩ | ⟨ho, -⟩)
    · obtain ⟨rfl, rfl⟩ := BanOp.block.inj hop
      rw [hknown hlisted] at hmissing
      cases hmissing
    · exact ho
  · intro ip' key' hp
    rcases presented_concat.mp hp with ⟨hop, hlisted⟩ | ⟨hold, -⟩
    · obtain ⟨rfl, rfl⟩ := BanOp.block.inj hop
      exact .inl (hknown hlisted)
    · exact h.covered ip' key' hold

/-- A block call on a listed id finds its pair known, stores it, or overflows. -/
theorem Tracks.block (h : Tracks listed ops (BanState.run listed ops)) (key : κ) (ip : ι) :
    Tracks listed (ops ++ [.block key ip]) ((BanState.run listed ops).step (.block key ip)) := by
  rw [BanState.step]
  by_cases hkey : key ∈ (BanState.run listed ops).streamBlacklist
  swap
  · rw [BanState.block_of_notMem hkey]
    exact h.block_unchanged (fun hlisted => absurd (h.list ▸ hlisted) hkey)
  have hlisted : key ∈ currentList listed ops := h.list ▸ hkey
  cases hc : (BanState.run listed ops).blockedStreamerIps.contains ip key with
  | true =>
    rw [BanState.block_of_contains hkey hc]
    exact h.block_unchanged (fun _ => hc)
  | false =>
    rcases Nat.lt_or_ge (BanState.run listed ops).blockedStreamerIps.associations
      MAX_STREAMER_IP_BANS with hroom | hfull
    · rw [BanState.block_of_room hkey hc hroom]
      refine ⟨by simpa using h.list, h.consistent.insert hkey hc hroom, ?_, ?_, ?_⟩
      · intro ip' key' hnew
        rw [presented_concat]
        rcases StreamerIpBans.contains_insert.mp hnew with ⟨rfl, rfl⟩ | hold
        · exact .inl ⟨rfl, hlisted⟩
        · exact .inr ⟨h.presented ip' key' hold, trivial⟩
      · intro key'
        rw [overflowed_concat, ← h.overflowed key']
        refine ⟨fun ho => .inr ⟨ho, trivial⟩, ?_⟩
        rintro (⟨ip', hop, -, hover⟩ | ⟨ho, -⟩)
        · exact absurd hover.2 (Nat.not_le.mpr hroom)
        · exact ho
      · intro ip' key' hp
        rcases presented_concat.mp hp with ⟨hop, -⟩ | ⟨hold, -⟩
        · obtain ⟨rfl, rfl⟩ := BanOp.block.inj hop
          exact .inl (StreamerIpBans.contains_insert.mpr (.inl ⟨rfl, rfl⟩))
        · rcases h.covered ip' key' hold with hold | ho
          · exact .inl (StreamerIpBans.contains_insert.mpr (.inr hold))
          · exact .inr ho
    · rw [BanState.block_of_full hkey hc hfull]
      refine ⟨by simpa using h.list, h.consistent.overflow hkey, ?_, ?_, ?_⟩
      · intro ip' key' hold
        exact presented_concat.mpr (.inr ⟨h.presented ip' key' hold, trivial⟩)
      · intro key'
        rw [overflowed_concat, ← h.overflowed key']
        simp only [Finset.mem_insert]
        constructor
        · rintro (rfl | ho)
          · exact .inl ⟨ip, rfl, hlisted, hc, hfull⟩
          · exact .inr ⟨ho, trivial⟩
        · rintro (⟨ip', hop, -⟩ | ⟨ho, -⟩)
          · exact .inl (BanOp.block.inj hop).1.symm
          · exact .inr ho
      · intro ip' key' hp
        rcases presented_concat.mp hp with ⟨hop, -⟩ | ⟨hold, -⟩
        · exact .inr (Finset.mem_insert.mpr (.inl (BanOp.block.inj hop).1.symm))
        · rcases h.covered ip' key' hold with hc' | ho
          · exact .inl hc'
          · exact .inr (Finset.mem_insert_of_mem ho)

theorem Tracks.replace (h : Tracks listed ops (BanState.run listed ops)) (entries : Finset κ) :
    Tracks listed (ops ++ [.replace entries])
      ((BanState.run listed ops).step (.replace entries)) := by
  generalize BanState.run listed ops = s at h
  refine ⟨?_, ?_, ?_, ?_, ?_⟩
  · simp [BanState.step, BanState.replace_list]
  · simp only [BanState.step, BanState.replace_list]
    exact BanState.replace_consistent h.consistent
  · intro ip key hc
    obtain ⟨hold, hkey⟩ := (BanState.replace_contains h.consistent).mp hc
    exact presented_concat.mpr (.inr ⟨h.presented ip key hold, hkey⟩)
  · intro key
    rw [overflowed_concat]
    simp only [reduceCtorEq, false_and, exists_false, false_or, ← h.overflowed key]
    exact BanState.replace_overflowed h.consistent
  · intro ip key hp
    rw [presented_concat] at hp
    simp only [reduceCtorEq, false_and, false_or] at hp
    obtain ⟨hold, hkey⟩ := hp
    rcases h.covered ip key hold with hc | ho
    · exact .inl ((BanState.replace_contains h.consistent).mpr ⟨hc, hkey⟩)
    · exact .inr ((BanState.replace_overflowed h.consistent).mpr ⟨ho, hkey⟩)

/-- A question changes neither the table nor what it should answer. -/
theorem Tracks.isBlocked (h : Tracks listed ops (BanState.run listed ops)) (ip : ι) :
    Tracks listed (ops ++ [.isBlocked ip]) ((BanState.run listed ops).step (.isBlocked ip)) := by
  have hp : ∀ ip' key, Presented listed key ip' (ops ++ [.isBlocked ip]) ↔
      Presented listed key ip' ops := by
    intro ip' key
    simp [presented_concat, BanOp.Keeps]
  have ho : ∀ key, Overflowed listed key (ops ++ [.isBlocked ip]) ↔ Overflowed listed key ops := by
    intro key
    simp [overflowed_concat, BanOp.Keeps]
  refine ⟨?_, h.consistent, ?_, ?_, ?_⟩
  · rw [currentList_concat]
    exact h.list
  · exact fun ip' key hc => (hp ip' key).mpr (h.presented ip' key hc)
  · exact fun key => (h.overflowed key).trans (ho key).symm
  · exact fun ip' key hc => h.covered ip' key ((hp ip' key).mp hc)

theorem tracks_run (listed : Finset κ) (ops : List (BanOp κ ι)) :
    Tracks listed ops (BanState.run listed ops) := by
  induction ops using List.reverseRecOn with
  | nil => exact tracks_init listed
  | append_singleton ops op ih =>
    rw [BanState.run_concat]
    cases op with
    | block key ip => exact ih.block key ip
    | replace entries => exact ih.replace entries
    | isBlocked ip => exact ih.isBlocked ip

omit [DecidableEq κ] [DecidableEq ι] in
theorem presented_listed {key : κ} {ip : ι} (h : Presented listed key ip ops) :
    key ∈ currentList listed ops := by
  induction ops using List.reverseRecOn with
  | nil => exact absurd h not_since_nil
  | append_singleton ops op ih =>
    rw [currentList_concat]
    rcases presented_concat.mp h with ⟨rfl, hlisted⟩ | ⟨hold, hkeep⟩
    · exact hlisted
    · cases op with
      | replace entries => exact hkeep
      | block | isBlocked => exact ih hold

/-- After any sequence of operations from empty bans: a block call answers whether its id
is listed; an address is blocked exactly when a listed id was presented from it, or a
listed id overflowed the table, since that id was last added; and the table is consistent
with the list. -/
theorem bans_refine_history (listed : Finset κ) (ops : List (BanOp κ ι)) :
    (∀ key ip, ((BanState.run listed ops).blockStreamerIpIfBlacklisted key ip).1 = true ↔
      key ∈ currentList listed ops) ∧
    (∀ ip, (BanState.run listed ops).streamerIpIsBlocked ip = true ↔
      (∃ key ∈ currentList listed ops, Presented listed key ip ops) ∨
      (∃ key ∈ currentList listed ops, Overflowed listed key ops)) ∧
    (BanState.run listed ops).blockedStreamerIps.Consistent (currentList listed ops) := by
  have h := tracks_run listed ops
  refine ⟨?_, ?_, h.list ▸ h.consistent⟩
  · intro key ip
    rw [← h.list]
    exact BanState.block_fst
  · intro ip
    rw [BanState.streamerIpIsBlocked, Bool.or_eq_true, decide_eq_true_eq]
    constructor
    · rintro (hsome | hne)
      · obtain ⟨ids, hget⟩ := Option.isSome_iff_exists.mp hsome
        obtain ⟨key, hkey⟩ := Finset.nonempty_iff_ne_empty.mpr (h.consistent.nonempty ip ids hget)
        have hc := StreamerIpBans.contains_iff.mpr ⟨ids, hget, hkey⟩
        have hp := h.presented ip key hc
        exact .inl ⟨key, presented_listed hp, hp⟩
      · obtain ⟨key, hkey⟩ := Finset.nonempty_iff_ne_empty.mpr hne
        exact .inr ⟨key, h.list ▸ h.consistent.overflowed hkey, (h.overflowed key).mp hkey⟩
    · rintro (⟨key, -, hp⟩ | ⟨key, -, ho⟩)
      · rcases h.covered ip key hp with hc | ho
        · obtain ⟨ids, hget, -⟩ := StreamerIpBans.contains_iff.mp hc
          exact .inl (Option.isSome_iff_exists.mpr ⟨ids, hget⟩)
        · exact .inr (Finset.ne_empty_of_mem ho)
      · exact .inr (Finset.ne_empty_of_mem ((h.overflowed key).mpr ho))

end VRCStreamer
